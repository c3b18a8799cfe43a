import PeerTaint.Unicode.Runs

/-!
How characters take part in clusters that are seen as one character.
-/

namespace PeerTaint.Unicode.GraphemeBreak

/-- The codes of the values, each followed by its name. -/
def names : List (List String) :=
  (words
    ["CN=Control CR EX=Extend L LF LV LVT PP=Prepend RI=Regional_Indicator SM=SpacingMark T V ZWJ"]
  ).map (·.splitOn "=")

/-- The values of all code points; those without a value take no special part. -/
def runs : List Run := readRuns
    ["10CN 1LF 2CN 1CR 18CN 95 33CN 13 1CN 594 112EX 275 7EX 263 45EX 1 1EX 1 2EX 1 2EX 1 1EX 56",
     "6PP 10 11EX 1 1CN 46 21EX 16 1EX 101 7EX 1PP 1 6EX 2 2EX 1 4EX 33 1PP 1 1EX 30 27EX 91 11EX",
     "58 9EX 9 1EX 24 4EX 1 9EX 1 3EX 1 5EX 43 3EX 52 2PP 5 9EX 42 24EX 1PP 32EX 1SM 54 1EX 1SM",
     "1EX 1 3SM 8EX 4SM 1EX 2SM 1 7EX 10 2EX 29 1EX 2SM 56 1EX 1 1EX 2SM 4EX 2 2SM 2 2SM 1EX 9",
     "1EX 10 2EX 26 1EX 2 2EX 1SM 56 1EX 1 3SM 2EX 4 2EX 2 3EX 3 1EX 30 2EX 3 1EX 11 2EX 1SM 56",
     "1EX 1 3SM 5EX 1 2EX 1SM 1 2SM 1EX 20 2EX 22 6EX 1 1EX 2SM 56 1EX 1 2EX 1SM 4EX 2 2SM 2 2SM",
     "1EX 7 3EX 10 2EX 30 1EX 59 1EX 1SM 1EX 2SM 3 3SM 1 3SM 1EX 9 1EX 40 1EX 3SM 1EX 55 1EX 1",
     "3EX 4SM 1 3EX 1 4EX 7 2EX 11 2EX 29 1EX 2SM 56 1EX 1 1SM 2EX 1SM 1EX 2SM 1 3EX 1 4EX 7 2EX",
     "11 2EX 15 1SM 12 2EX 2SM 55 2EX 1 1EX 2SM 4EX 1 3SM 1 3SM 1EX 1PP 8 1EX 10 2EX 29 1EX 2SM",
     "70 1EX 4 1EX 2SM 3EX 1 1EX 1 7SM 1EX 18 2SM 61 1EX 1 1SM 7EX 12 8EX 98 1EX 1 1SM 9EX 11 7EX",
     "73 2EX 27 1EX 1 1EX 1 1EX 4 2SM 49 14EX 1SM 5EX 1 2EX 5 11EX 1 36EX 9 1EX 102 4EX 1SM 6EX 1",
     "2EX 2SM 2EX 23 2SM 2EX 4 3EX 16 4EX 13 1EX 1 1SM 2EX 6 1EX 15 1EX 98 96L 72V 88T 349 3EX",
     "946 4EX 28 3EX 29 2EX 30 2EX 64 2EX 1SM 7EX 8SM 1EX 2SM 11EX 9 1EX 45 3EX 1CN 1EX 117 2EX",
     "34 1EX 118 3EX 4SM 2EX 3SM 4 2SM 1EX 6SM 3EX 219 2EX 2SM 1EX 57 1SM 1EX 1SM 7EX 1 1EX 1 1EX",
     "2 8EX 6SM 10EX 2 1EX 48 31EX 49 4EX 1SM 47 10EX 4SM 3EX 38 9EX 12 2EX 1SM 30 1SM 4EX 2SM",
     "6EX 56 1EX 1SM 2EX 3SM 1EX 1SM 5EX 48 8SM 8EX 2SM 2EX 152 3EX 1 13EX 1SM 7EX 4 1EX 6 1EX 2",
     "1SM 2EX 198 64EX 523 1CN 1EX 1ZWJ 2CN 24 7CN 49 16CN 96 33EX 3070 3EX 141 1EX 96 32EX 554",
     "6EX 105 2EX 30164 4EX 1 10EX 32 2EX 80 2EX 272 1EX 3 1EX 4 1EX 23 2SM 2EX 1SM 4 1EX 83 2SM",
     "50 16SM 2EX 26 18EX 13 1EX 38 8EX 25 11EX 1SM 1EX 12 29L 3 3EX 1SM 47 1EX 2SM 4EX 2SM 2EX",
     "2SM 1EX 36 1EX 67 6EX 2SM 2EX 2SM 2EX 12 1EX 8 1EX 1SM 46 1EX 51 1EX 1 3EX 2 2EX 5 2EX 1",
     "1EX 41 1SM 2EX 2SM 5 1SM 1EX 236 2SM 1EX 2SM 1EX 2SM 1 1SM 1EX 18 1LV 27LVT 1LV 27LVT 1LV",
     "27LVT 1LV 27LVT 1LV 27LVT 1LV 27LVT 1LV 27LVT 1LV 27LVT 1LV 27LVT 1LV 27LVT 1LV 27LVT 1LV",
     "27LVT 1LV 27LVT 1LV 27LVT 1LV 27LVT 1LV 27LVT 1LV 27LVT 1LV 27LVT 1LV 27LVT 1LV 27LVT 1LV",
     "27LVT 1LV 27LVT 1LV 27LVT 1LV 27LVT 1LV 27LVT 1LV 27LVT 1LV 27LVT 1LV 27LVT 1LV 27LVT 1LV",
     "27LVT 1LV 27LVT 1LV 27LVT 1LV 27LVT 1LV 27LVT 1LV 27LVT 1LV 27LVT 1LV 27LVT 1LV 27LVT 1LV",
     "27LVT 1LV 27LVT 1LV 27LVT 1LV 27LVT 1LV 27LVT 1LV 27LVT 1LV 27LVT 1LV 27LVT 1LV 27LVT 1LV",
     "27LVT 1LV 27LVT 1LV 27LVT 1LV 27LVT 1LV 27LVT 1LV 27LVT 1LV 27LVT 1LV 27LVT 1LV 27LVT 1LV",
     "27LVT 1LV 27LVT 1LV 27LVT 1LV 27LVT 1LV 27LVT 1LV 27LVT 1LV 27LVT 1LV 27LVT 1LV 27LVT 1LV",
     "27LVT 1LV 27LVT 1LV 27LVT 1LV 27LVT 1LV 27LVT 1LV 27LVT 1LV 27LVT 1LV 27LVT 1LV 27LVT 1LV",
     "27LVT 1LV 27LVT 1LV 27LVT 1LV 27LVT 1LV 27LVT 1LV 27LVT 1LV 27LVT 1LV 27LVT 1LV 27LVT 1LV",
     "27LVT 1LV 27LVT 1LV 27LVT 1LV 27LVT 1LV 27LVT 1LV 27LVT 1LV 27LVT 1LV 27LVT 1LV 27LVT 1LV",
     "27LVT 1LV 27LVT 1LV 27LVT 1LV 27LVT 1LV 27LVT 1LV 27LVT 1LV 27LVT 1LV 27LVT 1LV 27LVT 1LV",
     "27LVT 1LV 27LVT 1LV 27LVT 1LV 27LVT 1LV 27LVT 1LV 27LVT 1LV 27LVT 1LV 27LVT 1LV 27LVT 1LV",
     "27LVT 1LV 27LVT 1LV 27LVT 1LV 27LVT 1LV 27LVT 1LV 27LVT 1LV 27LVT 1LV 27LVT 1LV 27LVT 1LV",
     "27LVT 1LV 27LVT 1LV 27LVT 1LV 27LVT 1LV 27LVT 1LV 27LVT 1LV 27LVT 1LV 27LVT 1LV 27LVT 1LV",
     "27LVT 1LV 27LVT 1LV 27LVT 1LV 27LVT 1LV 27LVT 1LV 27LVT 1LV 27LVT 1LV 27LVT 1LV 27LVT 1LV",
     "27LVT 1LV 27LVT 1LV 27LVT 1LV 27LVT 1LV 27LVT 1LV 27LVT 1LV 27LVT 1LV 27LVT 1LV 27LVT 1LV",
     "27LVT 1LV 27LVT 1LV 27LVT 1LV 27LVT 1LV 27LVT 1LV 27LVT 1LV 27LVT 1LV 27LVT 1LV 27LVT 1LV",
     "27LVT 1LV 27LVT 1LV 27LVT 1LV 27LVT 1LV 27LVT 1LV 27LVT 1LV 27LVT 1LV 27LVT 1LV 27LVT 1LV",
     "27LVT 1LV 27LVT 1LV 27LVT 1LV 27LVT 1LV 27LVT 1LV 27LVT 1LV 27LVT 1LV 27LVT 1LV 27LVT 1LV",
     "27LVT 1LV 27LVT 1LV 27LVT 1LV 27LVT 1LV 27LVT 1LV 27LVT 1LV 27LVT 1LV 27LVT 1LV 27LVT 1LV",
     "27LVT 1LV 27LVT 1LV 27LVT 1LV 27LVT 1LV 27LVT 1LV 27LVT 1LV 27LVT 1LV 27LVT 1LV 27LVT 1LV",
     "27LVT 1LV 27LVT 1LV 27LVT 1LV 27LVT 1LV 27LVT 1LV 27LVT 1LV 27LVT 1LV 27LVT 1LV 27LVT 1LV",
     "27LVT 1LV 27LVT 1LV 27LVT 1LV 27LVT 1LV 27LVT 1LV 27LVT 1LV 27LVT 1LV 27LVT 1LV 27LVT 1LV",
     "27LVT 1LV 27LVT 1LV 27LVT 1LV 27LVT 1LV 27LVT 1LV 27LVT 1LV 27LVT 1LV 27LVT 1LV 27LVT 1LV",
     "27LVT 1LV 27LVT 1LV 27LVT 1LV 27LVT 1LV 27LVT 1LV 27LVT 1LV 27LVT 1LV 27LVT 1LV 27LVT 1LV",
     "27LVT 1LV 27LVT 1LV 27LVT 1LV 27LVT 1LV 27LVT 1LV 27LVT 1LV 27LVT 1LV 27LVT 1LV 27LVT 1LV",
     "27LVT 1LV 27LVT 1LV 27LVT 1LV 27LVT 1LV 27LVT 1LV 27LVT 1LV 27LVT 1LV 27LVT 1LV 27LVT 1LV",
     "27LVT 1LV 27LVT 1LV 27LVT 1LV 27LVT 1LV 27LVT 1LV 27LVT 1LV 27LVT 1LV 27LVT 1LV 27LVT 1LV",
     "27LVT 1LV 27LVT 1LV 27LVT 1LV 27LVT 1LV 27LVT 1LV 27LVT 1LV 27LVT 1LV 27LVT 1LV 27LVT 1LV",
     "27LVT 1LV 27LVT 1LV 27LVT 1LV 27LVT 1LV 27LVT 1LV 27LVT 1LV 27LVT 1LV 27LVT 1LV 27LVT 1LV",
     "27LVT 1LV 27LVT 1LV 27LVT 1LV 27LVT 1LV 27LVT 1LV 27LVT 1LV 27LVT 1LV 27LVT 1LV 27LVT 1LV",
     "27LVT 1LV 27LVT 1LV 27LVT 1LV 27LVT 1LV 27LVT 1LV 27LVT 1LV 27LVT 1LV 27LVT 1LV 27LVT 1LV",
     "27LVT 1LV 27LVT 1LV 27LVT 1LV 27LVT 1LV 27LVT 1LV 27LVT 1LV 27LVT 1LV 27LVT 1LV 27LVT 1LV",
     "27LVT 1LV 27LVT 1LV 27LVT 1LV 27LVT 1LV 27LVT 1LV 27LVT 1LV 27LVT 1LV 27LVT 1LV 27LVT 1LV",
     "27LVT 1LV 27LVT 1LV 27LVT 1LV 27LVT 1LV 27LVT 1LV 27LVT 1LV 27LVT 1LV 27LVT 1LV 27LVT 1LV",
     "27LVT 1LV 27LVT 1LV 27LVT 1LV 27LVT 1LV 27LVT 1LV 27LVT 1LV 27LVT 1LV 27LVT 1LV 27LVT 1LV",
     "27LVT 1LV 27LVT 1LV 27LVT 1LV 27LVT 1LV 27LVT 1LV 27LVT 1LV 27LVT 1LV 27LVT 1LV 27LVT 1LV",
     "27LVT 1LV 27LVT 1LV 27LVT 1LV 27LVT 1LV 27LVT 1LV 27LVT 1LV 27LVT 1LV 27LVT 1LV 27LVT 1LV",
     "27LVT 1LV 27LVT 1LV 27LVT 1LV 27LVT 1LV 27LVT 1LV 27LVT 1LV 27LVT 1LV 27LVT 1LV 27LVT 1LV",
     "27LVT 1LV 27LVT 1LV 27LVT 1LV 27LVT 1LV 27LVT 1LV 27LVT 1LV 27LVT 1LV 27LVT 1LV 27LVT 1LV",
     "27LVT 1LV 27LVT 1LV 27LVT 1LV 27LVT 1LV 27LVT 1LV 27LVT 1LV 27LVT 1LV 27LVT 1LV 27LVT 1LV",
     "27LVT 1LV 27LVT 1LV 27LVT 1LV 27LVT 1LV 27LVT 1LV 27LVT 1LV 27LVT 1LV 27LVT 1LV 27LVT 1LV",
     "27LVT 1LV 27LVT 1LV 27LVT 1LV 27LVT 1LV 27LVT 1LV 27LVT 1LV 27LVT 1LV 27LVT 1LV 27LVT 1LV",
     "27LVT 1LV 27LVT 1LV 27LVT 1LV 27LVT 1LV 27LVT 1LV 27LVT 1LV 27LVT 1LV 27LVT 1LV 27LVT 1LV",
     "27LVT 12 23V 4 49T 8994 1EX 737 16EX 16 16EX 207 1CN 158 2EX 80 12CN 513 1EX 226 1EX 149",
     "5EX 1670 3EX 1 2EX 5 4EX 40 3EX 4 1EX 165 2EX 573 4EX 65 5EX 317 2EX 79 4EX 70 11EX 49 4EX",
     "122 1SM 1EX 1SM 53 15EX 41 1EX 2 2EX 10 3EX 1SM 45 3SM 4EX 2SM 2EX 2 1PP 4 1EX 10 1PP 50",
     "3EX 36 5EX 1SM 8EX 16 2SM 44 1EX 12 2EX 1SM 48 3SM 9EX 1SM 1EX 1 2PP 5 4EX 1 1SM 1EX 92 3SM",
     "3EX 2SM 4EX 6 1EX 2 1EX 157 1EX 3SM 8EX 21 2EX 2SM 55 2EX 1 1EX 1SM 1EX 4SM 2 2SM 2 2SM 1EX",
     "9 1EX 10 2SM 2 7EX 3 5EX 67 1EX 2SM 6EX 1 1EX 2 1EX 1 3EX 1SM 1 2SM 3EX 1PP 1EX 14 2EX 82",
     "3SM 8EX 2SM 3EX 1SM 1EX 23 1EX 81 1EX 2SM 6EX 1SM 1EX 2SM 1EX 1SM 2EX 1SM 2EX 235 1EX 2SM",
     "4EX 2 4SM 2EX 1SM 2EX 27 2EX 82 3SM 8EX 2SM 1EX 1SM 2EX 106 1EX 1SM 1EX 2SM 8EX 101 1EX 1SM",
     "1EX 2 4EX 1SM 5EX 256 3SM 9EX 1SM 2EX 245 1EX 5SM 1 2SM 2 4EX 1PP 1SM 1PP 1SM 1EX 141 3SM",
     "4EX 2 2EX 4SM 1EX 3 1SM 28 10EX 40 6EX 1SM 1PP 4EX 8 1EX 9 6EX 2SM 3EX 40 6PP 13EX 1SM 2EX",
     "405 1SM 7EX 1 6EX 1SM 1EX 82 22EX 1 1SM 7EX 1SM 2EX 1SM 2EX 122 6EX 3 1EX 1 2EX 1 7EX 1PP",
     "1EX 66 5SM 1 2EX 1 2SM 1EX 1SM 1EX 347 2EX 2SM 9 2EX 1PP 1SM 48 2SM 5EX 3 2SM 3EX 23 1EX",
     "5333 16CN 1EX 6 15EX 11464 12EX 3SM 3EX 2496 5EX 59 7EX 556 1V 3 4V 484 1EX 1 55SM 7 4EX 81",
     "1EX 11 2EX 19627 2EX 1 4CN 4700 46EX 2 23EX 542 5EX 3 6EX 8CN 8EX 2 7EX 30 4EX 148 3EX 1979",
     "55EX 4 50EX 8 1EX 14 1EX 22 5EX 1 15EX 1360 7EX 1 17EX 2 7EX 1 2EX 1 5EX 100 1EX 160 7EX",
     "375 1EX 61 4EX 508 4EX 254 2EX 736 7EX 109 7EX 2203 26RI 507 5EX 789504 32CN 96EX 128CN",
     "240EX 3600CN 192512"]

end PeerTaint.Unicode.GraphemeBreak
