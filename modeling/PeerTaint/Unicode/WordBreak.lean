import PeerTaint.Unicode.Runs

/-!
How characters take part in words.
-/

namespace PeerTaint.Unicode.WordBreak

/-- The codes of the values, each followed by its name. -/
def names : List (List String) :=
  (words
    ["CR DQ=Double_Quote EX=ExtendNumLet Extend FO=Format HL=Hebrew_Letter KA=Katakana LE=ALetter",
     "LF MB=MidNumLet ML=MidLetter MN=MidNum NL=Newline NU=Numeric RI=Regional_Indicator",
     "SQ=Single_Quote WSegSpace ZWJ"]).map (·.splitOn "=")

/-- The values of all code points; those without a value take no special part. -/
def runs : List Run := readRuns
    ["10 1LF 2NL 1CR 18 1WSegSpace 1 1DQ 4 1SQ 4 1MN 1 1MB 1 10NU 1ML 1MN 5 26LE 4 1EX 1 26LE 10",
     "1NL 36 1LE 2 1FO 7 1LE 1 1ML 1LE 1 1LE 5 23LE 1 31LE 1 480LE 6 34LE 112Extend 5LE 1 2LE 2",
     "4LE 1MN 1LE 6 1LE 1ML 3LE 1 1LE 1 20LE 1 83LE 1 139LE 1 7Extend 166LE 1 38LE 2 4LE 1 1LE",
     "1ML 41LE 1MN 1LE 6 45Extend 1 1Extend 1 2Extend 1 2Extend 1 1Extend 8 27HL 4 4HL 1LE 1ML 11",
     "6NU 6 2MN 2 11Extend 1 1FO 3 43LE 21Extend 10NU 1 1NU 1MN 1 2LE 1Extend 99LE 1 1LE 7Extend",
     "1NU 1 6Extend 2LE 2Extend 1 4Extend 2LE 10NU 3LE 2 1LE 15 2LE 1Extend 30LE 27Extend 2 89LE",
     "11Extend 1LE 14 10NU 33LE 9Extend 2LE 2 1MN 1 1LE 2 1Extend 2 22LE 4Extend 1LE 9Extend 1LE",
     "3Extend 1LE 5Extend 18 25LE 3Extend 4 11LE 5 24LE 1 6LE 1 2NU 5 9Extend 42LE 24Extend 1NU",
     "33Extend 54LE 3Extend 1LE 18Extend 1LE 7Extend 10LE 2Extend 2 10NU 1 16LE 3Extend 1 8LE 2",
     "2LE 2 22LE 1 7LE 1 1LE 3 4LE 2 1Extend 1LE 7Extend 2 2Extend 2 3Extend 1LE 8 1Extend 4 2LE",
     "1 3LE 2Extend 2 10NU 2LE 10 1LE 1 1Extend 2 3Extend 1 6LE 4 2LE 2 22LE 1 7LE 1 2LE 1 2LE 1",
     "2LE 2 1Extend 1 5Extend 4 2Extend 2 3Extend 3 1Extend 7 4LE 1 1LE 7 10NU 2Extend 3LE",
     "1Extend 11 3Extend 1 9LE 1 3LE 1 22LE 1 7LE 1 2LE 1 5LE 2 1Extend 1LE 8Extend 1 3Extend 1",
     "3Extend 2 1LE 15 2LE 2Extend 2 10NU 9 1LE 6Extend 1 3Extend 1 8LE 2 2LE 2 22LE 1 7LE 1 2LE",
     "1 5LE 2 1Extend 1LE 7Extend 2 2Extend 2 3Extend 7 3Extend 4 2LE 1 3LE 2Extend 2 10NU 1 1LE",
     "16 1Extend 1LE 1 6LE 3 3LE 1 4LE 3 2LE 1 1LE 1 2LE 3 2LE 3 3LE 3 12LE 4 5Extend 3 3Extend 1",
     "4Extend 2 1LE 6 1Extend 14 10NU 16 5Extend 8LE 1 3LE 1 23LE 1 16LE 2 1Extend 1LE 7Extend 1",
     "3Extend 1 4Extend 7 2Extend 1 3LE 2 1LE 2 2LE 2Extend 2 10NU 16 1LE 3Extend 1 8LE 1 3LE 1",
     "23LE 1 10LE 1 5LE 2 1Extend 1LE 7Extend 1 3Extend 1 4Extend 7 2Extend 6 2LE 1 2LE 2Extend 2",
     "10NU 1 2LE 1Extend 12 4Extend 9LE 1 3LE 1 41LE 2Extend 1LE 7Extend 1 3Extend 1 4Extend 1LE",
     "5 3LE 1Extend 7 3LE 2Extend 2 10NU 10 6LE 1 3Extend 1 18LE 3 24LE 1 9LE 1 1LE 2 7LE 3",
     "1Extend 4 6Extend 1 1Extend 1 8Extend 6 10NU 2 2Extend 61 1Extend 2 7Extend 12 8Extend 1",
     "10NU 87 1Extend 2 9Extend 11 7Extend 1 10NU 38 1LE 23 2Extend 6 10NU 11 1Extend 1 1Extend 1",
     "1Extend 4 2Extend 8LE 1 36LE 4 20Extend 1 2Extend 5LE 11Extend 1 36Extend 9 1Extend 100",
     "20Extend 1 10NU 12 4Extend 4 3Extend 1 3Extend 2 7Extend 3 4Extend 13 12Extend 1 1Extend",
     "10NU 4Extend 2 38LE 1 1LE 5 1LE 2 43LE 1 333LE 1 4LE 2 7LE 1 1LE 1 4LE 2 41LE 1 4LE 2 33LE",
     "1 4LE 2 7LE 1 1LE 1 4LE 2 15LE 1 57LE 1 4LE 2 67LE 2 3Extend 32 16LE 16 86LE 2 6LE 3 620LE",
     "2 17LE 1WSegSpace 26LE 5 75LE 3 11LE 7 18LE 4Extend 9 19LE 3Extend 11 18LE 2Extend 12 13LE",
     "1 3LE 1 2Extend 64 32Extend 9 1Extend 2 10NU 33 3Extend 1FO 1Extend 10NU 6 89LE 7 5LE",
     "2Extend 34LE 1Extend 1LE 5 70LE 10 31LE 1 12Extend 4 12Extend 10 10NU 128 10NU 38 23LE",
     "5Extend 57 10Extend 1 29Extend 2 1Extend 10NU 6 10NU 22 31Extend 49 5Extend 47LE 17Extend",
     "8LE 3 10NU 17 9Extend 12 3Extend 30LE 13Extend 2LE 10NU 44LE 14Extend 12 36LE 20Extend 8",
     "10NU 3 3LE 10NU 36LE 2 11LE 5 43LE 2 3LE 16 3Extend 1 21Extend 4LE 1Extend 6LE 1Extend 2LE",
     "3Extend 1LE 5 192LE 64Extend 278LE 2 6LE 2 38LE 2 6LE 2 8LE 1 1LE 1 1LE 1 1LE 1 31LE 2 53LE",
     "1 7LE 1 1LE 3 3LE 1 7LE 3 4LE 2 6LE 4 13LE 5 3LE 1 7LE 3 7WSegSpace 1 3WSegSpace 1 1Extend",
     "1ZWJ 2FO 8 2MB 10 1MB 2 1ML 2NL 5FO 1EX 15 2EX 3 1MN 15 1EX 10 1WSegSpace 5FO 1 10FO 1 1LE",
     "13 1LE 16 13LE 51 33Extend 17 1LE 4 1LE 2 10LE 1 1LE 3 5LE 6 1LE 1 1LE 1 1LE 1 4LE 1 11LE 2",
     "4LE 5 5LE 4 1LE 17 41LE 813 52LE 1814 229LE 6 4LE 3Extend 2LE 12 38LE 1 1LE 5 1LE 2 56LE 7",
     "1LE 15 1Extend 23LE 9 7LE 1 7LE 1 7LE 1 7LE 1 7LE 1 7LE 1 7LE 1 7LE 1 32Extend 47 1LE 464",
     "1WSegSpace 4 1LE 36 6Extend 1 5KA 5 2LE 92 2Extend 2KA 3 91KA 1 4KA 5 43LE 1 94LE 17 32LE",
     "48 16KA 208 47KA 1 88KA 27816 1165LE 67 46LE 2 269LE 3 16LE 10NU 2LE 20 47LE 4Extend 1",
     "10Extend 1 31LE 2Extend 80LE 2Extend 22 198LE 2 2LE 1 1LE 1 8LE 21 16LE 1Extend 3LE 1Extend",
     "4LE 1Extend 23LE 5Extend 4 1Extend 19 52LE 12 2Extend 50LE 18Extend 10 10NU 6 18Extend 6LE",
     "3 1LE 1 2LE 1Extend 10NU 28LE 8Extend 2 23LE 13Extend 12 29LE 3 4Extend 47LE 14Extend 14",
     "1LE 10NU 11 1Extend 10 10NU 6 41LE 14Extend 9 3LE 1Extend 8LE 2Extend 2 10NU 33 3Extend 50",
     "1Extend 1 3Extend 2 2Extend 5 2Extend 1 1Extend 30 11LE 5Extend 2 3LE 2Extend 10 6LE 2 6LE",
     "2 6LE 9 7LE 1 7LE 1 58LE 6 115LE 8Extend 1 2Extend 2 10NU 6 11172LE 12 23LE 4 49LE 8964 7LE",
     "12 5LE 5 1HL 1Extend 10HL 1 13HL 1 5HL 1 1HL 1 2HL 1 2HL 1 10HL 98LE 33 363LE 18 64LE 2",
     "54LE 40 12LE 4 16Extend 1MN 2 1ML 1MN 11 16Extend 3 2EX 24 3EX 1MN 1 1MB 1 1MN 1ML 26 5LE 1",
     "135LE 2 1FO 7 1MB 4 1MN 1 1MB 1 10NU 1ML 1MN 5 26LE 4 1EX 1 26LE 11 56KA 2Extend 31LE 3 6LE",
     "2 6LE 2 6LE 2 3LE 28 3FO 4 12LE 1 26LE 1 19LE 1 2LE 1 15LE 2 14LE 34 123LE 69 53LE 136",
     "1Extend 130 29LE 3 49LE 15 1Extend 31 32LE 13 30LE 5 38LE 5Extend 5 30LE 2 36LE 4 8LE 1 5LE",
     "42 158LE 2 10NU 6 36LE 4 36LE 4 40LE 8 52LE 12 11LE 1 15LE 1 7LE 1 2LE 1 11LE 1 15LE 1 7LE",
     "1 2LE 3 52LE 12 311LE 9 22LE 10 8LE 24 6LE 1 42LE 1 9LE 69 6LE 2 1LE 1 44LE 1 2LE 3 1LE 2",
     "23LE 10 23LE 9 31LE 65 19LE 1 2LE 10 22LE 10 26LE 70 56LE 6 2LE 64 1LE 3Extend 1 2Extend 5",
     "4Extend 4LE 1 3LE 1 29LE 2 3Extend 4 1Extend 32 29LE 3 29LE 35 8LE 1 28LE 2Extend 25 54LE",
     "10 22LE 10 19LE 13 18LE 110 73LE 55 51LE 13 51LE 13 36LE 4Extend 8 10NU 6 10NU 28LE 3",
     "5Extend 1 23LE 250 42LE 1 2Extend 3 2LE 16 3LE 55 4Extend 29LE 10 1LE 8 22LE 11Extend 31",
     "18LE 4Extend 42 21LE 27 23LE 9 3Extend 53LE 15Extend 31 10NU 1Extend 2LE 2Extend 1LE 9",
     "4Extend 45LE 11Extend 2 1NU 4 1Extend 10 1NU 2 25LE 7 10NU 6 3Extend 36LE 14Extend 1 10NU 4",
     "1LE 2Extend 1LE 8 35LE 1Extend 2 1LE 9 3Extend 48LE 14Extend 4LE 4 4Extend 1 2Extend 10NU",
     "1LE 1 1LE 35 18LE 1 25LE 12Extend 6 1Extend 2LE 1Extend 62 7LE 1 1LE 1 4LE 1 15LE 1 10LE 7",
     "47LE 12Extend 5 10NU 6 4Extend 1 8LE 2 2LE 2 22LE 1 7LE 1 2LE 1 5LE 1 2Extend 1LE 7Extend 2",
     "2Extend 2 3Extend 2 1LE 6 1Extend 5 5LE 2Extend 2 7Extend 3 5Extend 11 10LE 1 1LE 2 1LE 1",
     "38LE 1 1LE 9Extend 1 1Extend 2 1Extend 1 4Extend 1 5Extend 1LE 1Extend 1LE 13 2Extend 29",
     "53LE 18Extend 4LE 5 10NU 4 1Extend 3LE 30 48LE 20Extend 2LE 1 1LE 8 10NU 166 47LE 7Extend 2",
     "9Extend 23 4LE 2Extend 34 48LE 17Extend 3 1LE 11 10NU 38 43LE 13Extend 1LE 7 10NU 6 20NU 57",
     "15Extend 4 10NU 198 44LE 15Extend 101 64LE 10NU 21 8LE 2 1LE 2 8LE 1 2LE 1 24LE 6Extend 1",
     "2Extend 2 4Extend 1LE 1Extend 1LE 2Extend 12 10NU 70 8LE 2 39LE 7Extend 2 7Extend 1LE 1 1LE",
     "1Extend 27 1LE 10Extend 40LE 7Extend 1LE 4Extend 8 1Extend 8 1LE 11Extend 46LE 16Extend 3",
     "1LE 18 73LE 199 33LE 15 10NU 6 9LE 1 37LE 8Extend 1 8Extend 1LE 15 10NU 24 30LE 2 22Extend",
     "1 14Extend 73 7LE 1 2LE 1 38LE 6Extend 3 1Extend 1 2Extend 1 7Extend 1LE 1Extend 8 10NU 6",
     "6LE 1 2LE 1 32LE 5Extend 1 2Extend 1 5Extend 1LE 7 10NU 310 19LE 4Extend 9 2Extend 1LE",
     "1Extend 13LE 1 34LE 7Extend 3 5Extend 13 10NU 1Extend 85 1LE 79 922LE 102 111LE 17 196LE",
     "2636 97LE 15 1072LE 16FO 1Extend 6LE 15Extend 10 3995LE 5 583LE 6841 30LE 18Extend 10NU",
     "1734 569LE 7 31LE 1 10NU 6 79LE 1 10NU 6 30LE 2 5Extend 11 48LE 7Extend 9 4LE 12 10NU 9",
     "21LE 5 19LE 432 45LE 3 10NU 198 64LE 128 75LE 4 1Extend 1LE 55Extend 7 4Extend 13LE 64 2LE",
     "1 1LE 1Extend 11 2Extend 16382 4KA 1 7KA 1 2KA 1 1KA 287 3KA 50 1KA 14 4KA 2712 107LE 5",
     "13LE 3 9LE 7 10LE 3 2Extend 1 4FO 4172 10NU 518 46Extend 2 23Extend 542 5Extend 3 6Extend",
     "8FO 8Extend 2 7Extend 30 4Extend 148 3Extend 443 85LE 1 71LE 1 2LE 2 1LE 2 2LE 2 4LE 1 12LE",
     "1 1LE 1 7LE 1 65LE 1 4LE 2 8LE 1 7LE 1 28LE 1 4LE 1 5LE 1 1LE 3 7LE 1 340LE 2 25LE 1 25LE 1",
     "31LE 1 25LE 1 31LE 1 25LE 1 31LE 1 25LE 1 31LE 1 25LE 1 8LE 2 50NU 512 55Extend 4 50Extend",
     "8 1Extend 14 1Extend 22 5Extend 1 15Extend 1104 31LE 6 6LE 213 7Extend 1 17Extend 2 7Extend",
     "1 2Extend 1 5Extend 5 62LE 33 1Extend 112 45LE 3 7Extend 7LE 2 10NU 4 1LE 321 30LE 1Extend",
     "17 44LE 4Extend 10NU 470 28LE 4Extend 10NU 214 30LE 2Extend 1LE 10NU 485 7LE 1 4LE 1 2LE 1",
     "15LE 1 197LE 11 7Extend 41 68LE 7Extend 1LE 4 10NU 1190 4LE 1 27LE 1 2LE 1 1LE 2 1LE 1 10LE",
     "1 4LE 1 1LE 1 1LE 6 1LE 4 1LE 1 1LE 1 1LE 1 3LE 1 2LE 1 1LE 2 1LE 1 1LE 1 1LE 1 1LE 1 1LE 1",
     "2LE 1 1LE 2 4LE 1 7LE 1 4LE 1 4LE 1 1LE 1 10LE 1 17LE 5 3LE 1 5LE 1 17LE 628 26LE 6 26LE 6",
     "26LE 92 26RI 507 5Extend 2032 10NU 787463 1FO 30 96Extend 128 240Extend 196112"]

end PeerTaint.Unicode.WordBreak
