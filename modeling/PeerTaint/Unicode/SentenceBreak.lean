import PeerTaint.Unicode.Runs

/-!
How characters take part in sentences.
-/

namespace PeerTaint.Unicode.SentenceBreak

/-- The codes of the values, each followed by its name. -/
def names : List (List String) :=
  (words
    ["AT=ATerm CL=Close CR EX=Extend FO=Format LE=OLetter LF LO=Lower NU=Numeric SC=SContinue",
     "SE=Sep SP=Sp ST=STerm UP=Upper"]).map (·.splitOn "=")

/-- The values of all code points; those without a value take no special part. -/
def runs : List Run := readRuns
    ["9 1SP 1LF 2SP 1CR 18 1SP 1ST 1CL 4 3CL 2 2SC 1AT 1 10NU 2SC 3 1ST 1 26UP 1CL 1 1CL 3 26LO",
     "1CL 1 1CL 7 1SE 26 1SP 9 1LO 1CL 1 1FO 7 1LO 4 1LO 1CL 4 23UP 1 7UP 24LO 1 8LO 1UP 1LO 1UP",
     "1LO 1UP 1LO 1UP 1LO 1UP 1LO 1UP 1LO 1UP 1LO 1UP 1LO 1UP 1LO 1UP 1LO 1UP 1LO 1UP 1LO 1UP 1LO",
     "1UP 1LO 1UP 1LO 1UP 1LO 1UP 1LO 1UP 1LO 1UP 1LO 1UP 1LO 1UP 1LO 1UP 1LO 1UP 1LO 1UP 1LO 1UP",
     "1LO 1UP 1LO 1UP 1LO 1UP 2LO 1UP 1LO 1UP 1LO 1UP 1LO 1UP 1LO 1UP 1LO 1UP 1LO 1UP 1LO 1UP 2LO",
     "1UP 1LO 1UP 1LO 1UP 1LO 1UP 1LO 1UP 1LO 1UP 1LO 1UP 1LO 1UP 1LO 1UP 1LO 1UP 1LO 1UP 1LO 1UP",
     "1LO 1UP 1LO 1UP 1LO 1UP 1LO 1UP 1LO 1UP 1LO 1UP 1LO 1UP 1LO 1UP 1LO 1UP 1LO 1UP 1LO 1UP 1LO",
     "2UP 1LO 1UP 1LO 1UP 3LO 2UP 1LO 1UP 1LO 2UP 1LO 3UP 2LO 4UP 1LO 2UP 1LO 3UP 3LO 2UP 1LO 2UP",
     "1LO 1UP 1LO 1UP 1LO 2UP 1LO 1UP 2LO 1UP 1LO 2UP 1LO 3UP 1LO 1UP 1LO 2UP 2LO 1LE 1UP 3LO 4LE",
     "2UP 1LO 2UP 1LO 2UP 1LO 1UP 1LO 1UP 1LO 1UP 1LO 1UP 1LO 1UP 1LO 1UP 1LO 1UP 1LO 1UP 2LO 1UP",
     "1LO 1UP 1LO 1UP 1LO 1UP 1LO 1UP 1LO 1UP 1LO 1UP 1LO 1UP 1LO 1UP 2LO 2UP 1LO 1UP 1LO 3UP 1LO",
     "1UP 1LO 1UP 1LO 1UP 1LO 1UP 1LO 1UP 1LO 1UP 1LO 1UP 1LO 1UP 1LO 1UP 1LO 1UP 1LO 1UP 1LO 1UP",
     "1LO 1UP 1LO 1UP 1LO 1UP 1LO 1UP 1LO 1UP 1LO 1UP 1LO 1UP 1LO 1UP 1LO 1UP 1LO 1UP 1LO 1UP 1LO",
     "1UP 1LO 1UP 1LO 1UP 1LO 1UP 1LO 1UP 1LO 1UP 7LO 2UP 1LO 2UP 2LO 1UP 1LO 4UP 1LO 1UP 1LO 1UP",
     "1LO 1UP 1LO 1UP 69LO 1LE 36LO 7LE 2LO 4 12LE 14 5LO 7 1LE 1 1LE 17 112EX 1UP 1LO 1UP 1LO",
     "1LE 1 1UP 1LO 2 4LO 1SC 1UP 6 1UP 1 3UP 1 1UP 1 2UP 1LO 17UP 1 9UP 35LO 1UP 2LO 3UP 3LO 1UP",
     "1LO 1UP 1LO 1UP 1LO 1UP 1LO 1UP 1LO 1UP 1LO 1UP 1LO 1UP 1LO 1UP 1LO 1UP 1LO 1UP 1LO 1UP 5LO",
     "1UP 1LO 1 1UP 1LO 2UP 2LO 51UP 48LO 1UP 1LO 1UP 1LO 1UP 1LO 1UP 1LO 1UP 1LO 1UP 1LO 1UP 1LO",
     "1UP 1LO 1UP 1LO 1UP 1LO 1UP 1LO 1UP 1LO 1UP 1LO 1UP 1LO 1UP 1LO 1UP 1LO 1UP 1LO 1 7EX 1UP",
     "1LO 1UP 1LO 1UP 1LO 1UP 1LO 1UP 1LO 1UP 1LO 1UP 1LO 1UP 1LO 1UP 1LO 1UP 1LO 1UP 1LO 1UP 1LO",
     "1UP 1LO 1UP 1LO 1UP 1LO 1UP 1LO 1UP 1LO 1UP 1LO 1UP 1LO 1UP 1LO 1UP 1LO 1UP 1LO 1UP 1LO 1UP",
     "1LO 1UP 1LO 1UP 1LO 1UP 1LO 2UP 1LO 1UP 1LO 1UP 1LO 1UP 1LO 1UP 1LO 1UP 1LO 1UP 2LO 1UP 1LO",
     "1UP 1LO 1UP 1LO 1UP 1LO 1UP 1LO 1UP 1LO 1UP 1LO 1UP 1LO 1UP 1LO 1UP 1LO 1UP 1LO 1UP 1LO 1UP",
     "1LO 1UP 1LO 1UP 1LO 1UP 1LO 1UP 1LO 1UP 1LO 1UP 1LO 1UP 1LO 1UP 1LO 1UP 1LO 1UP 1LO 1UP 1LO",
     "1UP 1LO 1UP 1LO 1UP 1LO 1UP 1LO 1UP 1LO 1UP 1LO 1UP 1LO 1UP 1LO 1UP 1LO 1UP 1LO 1UP 1LO 1UP",
     "1LO 1UP 1LO 1UP 1LO 1UP 1LO 1UP 1LO 1UP 1LO 1UP 1LO 1UP 1LO 1UP 1LO 1UP 1LO 1UP 1LO 1UP 1LO",
     "1UP 1LO 1 38UP 2 1LE 3 1SC 2 41LO 1ST 7 45EX 1 1EX 1 2EX 1 2EX 1 1EX 8 27LE 4 5LE 12 6NU 6",
     "2SC 2 11EX 1 1FO 3ST 43LE 21EX 10NU 1 2NU 1 2LE 1EX 99LE 1ST 1LE 7EX 1NU 1 6EX 2LE 2EX 1",
     "4EX 2LE 10NU 3LE 2 1LE 3ST 12 1FO 1LE 1EX 30LE 27EX 2 89LE 11EX 1LE 14 10NU 33LE 9EX 2LE 2",
     "1SC 1ST 1LE 2 1EX 2 22LE 4EX 1LE 9EX 1LE 3EX 1LE 5EX 9 1ST 1 1ST 3 2ST 1 25LE 3EX 4 11LE 5",
     "24LE 1 6LE 1 2NU 5 9EX 42LE 24EX 1NU 33EX 54LE 3EX 1LE 18EX 1LE 7EX 10LE 2EX 2ST 10NU 1",
     "16LE 3EX 1 8LE 2 2LE 2 22LE 1 7LE 1 1LE 3 4LE 2 1EX 1LE 7EX 2 2EX 2 3EX 1LE 8 1EX 4 2LE 1",
     "3LE 2EX 2 10NU 2LE 10 1LE 1 1EX 2 3EX 1 6LE 4 2LE 2 22LE 1 7LE 1 2LE 1 2LE 1 2LE 2 1EX 1",
     "5EX 4 2EX 2 3EX 3 1EX 7 4LE 1 1LE 7 10NU 2EX 3LE 1EX 11 3EX 1 9LE 1 3LE 1 22LE 1 7LE 1 2LE",
     "1 5LE 2 1EX 1LE 8EX 1 3EX 1 3EX 2 1LE 15 2LE 2EX 2 10NU 9 1LE 6EX 1 3EX 1 8LE 2 2LE 2 22LE",
     "1 7LE 1 2LE 1 5LE 2 1EX 1LE 7EX 2 2EX 2 3EX 7 3EX 4 2LE 1 3LE 2EX 2 10NU 1 1LE 16 1EX 1LE 1",
     "6LE 3 3LE 1 4LE 3 2LE 1 1LE 1 2LE 3 2LE 3 3LE 3 12LE 4 5EX 3 3EX 1 4EX 2 1LE 6 1EX 14 10NU",
     "16 5EX 8LE 1 3LE 1 23LE 1 16LE 2 1EX 1LE 7EX 1 3EX 1 4EX 7 2EX 1 3LE 2 1LE 2 2LE 2EX 2 10NU",
     "16 1LE 3EX 1 8LE 1 3LE 1 23LE 1 10LE 1 5LE 2 1EX 1LE 7EX 1 3EX 1 4EX 7 2EX 6 2LE 1 2LE 2EX",
     "2 10NU 1 2LE 1EX 12 4EX 9LE 1 3LE 1 41LE 2EX 1LE 7EX 1 3EX 1 4EX 1LE 5 3LE 1EX 7 3LE 2EX 2",
     "10NU 10 6LE 1 3EX 1 18LE 3 24LE 1 9LE 1 1LE 2 7LE 3 1EX 4 6EX 1 1EX 1 8EX 6 10NU 2 2EX 13",
     "48LE 1EX 2LE 7EX 5 7LE 8EX 1 10NU 39 2LE 1 1LE 1 5LE 1 24LE 1 1LE 1 10LE 1EX 2LE 9EX 1LE 2",
     "5LE 1 1LE 1 7EX 1 10NU 2 4LE 32 1LE 23 2EX 6 10NU 11 1EX 1 1EX 1 1EX 4CL 2EX 8LE 1 36LE 4",
     "20EX 1 2EX 5LE 11EX 1 36EX 9 1EX 57 43LE 20EX 1LE 10NU 2ST 4 6LE 4EX 4LE 3EX 1LE 3EX 2LE",
     "7EX 3LE 4EX 13LE 12EX 1LE 1EX 10NU 4EX 2 38UP 1 1UP 5 1UP 2 43LE 1 1LO 332LE 1 4LE 2 7LE 1",
     "1LE 1 4LE 2 41LE 1 4LE 2 33LE 1 4LE 2 7LE 1 1LE 1 4LE 2 15LE 1 57LE 1 4LE 2 67LE 2 3EX 2",
     "1ST 4 2ST 23 16LE 16 86UP 2 6LO 3 620LE 1 1ST 17LE 1SP 26LE 2CL 3 75LE 3 11LE 7 18LE 4EX 9",
     "19LE 3EX 2ST 9 18LE 2EX 12 13LE 1 3LE 1 2EX 12 52LE 32EX 2ST 1 1LE 4 1LE 1EX 2 10NU 24 1SC",
     "1ST 4 1SC 1ST 1 3EX 1FO 1EX 10NU 6 89LE 7 5LE 2EX 34LE 1EX 1LE 5 70LE 10 31LE 1 12EX 4 12EX",
     "8 2ST 10NU 30LE 2 5LE 11 44LE 4 26LE 6 10NU 38 23LE 5EX 4 53LE 10EX 1 29EX 2 1EX 10NU 6",
     "10NU 13 1LE 4ST 4 31EX 49 5EX 47LE 17EX 8LE 1 2ST 10NU 2ST 2 2ST 11 9EX 9 3ST 3EX 30LE 13EX",
     "2LE 10NU 44LE 14EX 12 36LE 20EX 3 2ST 3 10NU 3 3LE 10NU 36LE 2ST 9LO 1UP 1LO 5 43LE 2 3LE",
     "16 3EX 1 21EX 4LE 1EX 6LE 1EX 2LE 3EX 1LE 5 192LO 64EX 1UP 1LO 1UP 1LO 1UP 1LO 1UP 1LO 1UP",
     "1LO 1UP 1LO 1UP 1LO 1UP 1LO 1UP 1LO 1UP 1LO 1UP 1LO 1UP 1LO 1UP 1LO 1UP 1LO 1UP 1LO 1UP 1LO",
     "1UP 1LO 1UP 1LO 1UP 1LO 1UP 1LO 1UP 1LO 1UP 1LO 1UP 1LO 1UP 1LO 1UP 1LO 1UP 1LO 1UP 1LO 1UP",
     "1LO 1UP 1LO 1UP 1LO 1UP 1LO 1UP 1LO 1UP 1LO 1UP 1LO 1UP 1LO 1UP 1LO 1UP 1LO 1UP 1LO 1UP 1LO",
     "1UP 1LO 1UP 1LO 1UP 1LO 1UP 1LO 1UP 1LO 1UP 1LO 1UP 1LO 1UP 1LO 1UP 1LO 1UP 1LO 1UP 1LO 1UP",
     "1LO 1UP 1LO 1UP 1LO 1UP 1LO 1UP 1LO 1UP 1LO 1UP 1LO 1UP 1LO 1UP 1LO 1UP 1LO 1UP 1LO 1UP 1LO",
     "1UP 1LO 1UP 1LO 1UP 1LO 1UP 1LO 1UP 1LO 1UP 1LO 1UP 1LO 1UP 1LO 1UP 1LO 1UP 1LO 1UP 1LO 1UP",
     "1LO 1UP 9LO 1UP 1LO 1UP 1LO 1UP 1LO 1UP 1LO 1UP 1LO 1UP 1LO 1UP 1LO 1UP 1LO 1UP 1LO 1UP 1LO",
     "1UP 1LO 1UP 1LO 1UP 1LO 1UP 1LO 1UP 1LO 1UP 1LO 1UP 1LO 1UP 1LO 1UP 1LO 1UP 1LO 1UP 1LO 1UP",
     "1LO 1UP 1LO 1UP 1LO 1UP 1LO 1UP 1LO 1UP 1LO 1UP 1LO 1UP 1LO 1UP 1LO 1UP 1LO 1UP 1LO 1UP 1LO",
     "1UP 1LO 1UP 1LO 1UP 1LO 1UP 1LO 1UP 1LO 1UP 1LO 1UP 1LO 1UP 1LO 1UP 1LO 1UP 1LO 1UP 1LO 1UP",
     "1LO 1UP 1LO 1UP 1LO 1UP 1LO 1UP 9LO 8UP 6LO 2 6UP 2 8LO 8UP 8LO 8UP 6LO 2 6UP 2 8LO 1 1UP 1",
     "1UP 1 1UP 1 1UP 8LO 8UP 14LO 2 8LO 8UP 8LO 8UP 8LO 8UP 5LO 1 2LO 5UP 1 1LO 3 3LO 1 2LO 5UP",
     "3 4LO 2 2LO 4UP 4 8LO 5UP 5 3LO 1 2LO 5UP 3 11SP 1FO 2EX 2FO 3 2SC 3 8CL 4 1AT 3 2SE 5FO",
     "1SP 9 2CL 1 2ST 7 2CL 3ST 21 1SP 5FO 1 10FO 1 1LO 11 2CL 1LO 13 2CL 1 13LO 51 33EX 17 1UP 4",
     "1UP 2 1LO 3UP 2LO 3UP 1LO 1 1UP 3 5UP 6 1UP 1 1UP 1 1UP 1 4UP 1 1LO 4UP 1LO 4LE 1LO 2 2LO",
     "2UP 5 1UP 4LO 4 1LO 17 16UP 16LO 3LE 1UP 1LO 4LE 383 4CL 29 2CL 395 26UP 26LO 625 6CL 7",
     "14CL 79 2CL 31 10CL 403 22CL 63 4CL 32 2CL 514 48UP 48LO 1UP 1LO 3UP 2LO 1UP 1LO 1UP 1LO",
     "1UP 1LO 4UP 1LO 1UP 2LO 1UP 8LO 3UP 1LO 1UP 1LO 1UP 1LO 1UP 1LO 1UP 1LO 1UP 1LO 1UP 1LO 1UP",
     "1LO 1UP 1LO 1UP 1LO 1UP 1LO 1UP 1LO 1UP 1LO 1UP 1LO 1UP 1LO 1UP 1LO 1UP 1LO 1UP 1LO 1UP 1LO",
     "1UP 1LO 1UP 1LO 1UP 1LO 1UP 1LO 1UP 1LO 1UP 1LO 1UP 1LO 1UP 1LO 1UP 1LO 1UP 1LO 1UP 1LO 1UP",
     "1LO 1UP 1LO 1UP 1LO 1UP 1LO 1UP 1LO 1UP 1LO 1UP 1LO 1UP 1LO 1UP 1LO 1UP 1LO 1UP 1LO 1UP 1LO",
     "1UP 1LO 1UP 1LO 1UP 1LO 1UP 1LO 1UP 1LO 1UP 1LO 1UP 1LO 1UP 2LO 6 1UP 1LO 1UP 1LO 3EX 1UP",
     "1LO 5 3ST 4 38LO 1 1LO 5 1LO 2 56LE 7 1LE 15 1EX 23LE 9 7LE 1 7LE 1 7LE 1 7LE 1 7LE 1 7LE 1",
     "7LE 1 7LE 1 32EX 14CL 14 2CL 2 10CL 4 1ST 1LE 12 1ST 5 1CL 16 2ST 8CL 419 1SP 1SC 1ST 2 3LE",
     "10CL 2 8CL 1 3CL 1 9LE 6EX 1 5LE 2 5LE 4 86LE 2 2EX 2 3LE 1 90LE 1 4LE 5 43LE 1 94LE 17",
     "32LE 48 16LE 512 6592LE 64 22157LE 67 46LE 1 1ST 269LE 1 2ST 16LE 10NU 2LE 20 1UP 1LO 1UP",
     "1LO 1UP 1LO 1UP 1LO 1UP 1LO 1UP 1LO 1UP 1LO 1UP 1LO 1UP 1LO 1UP 1LO 1UP 1LO 1UP 1LO 1UP 1LO",
     "1UP 1LO 1UP 1LO 1UP 1LO 1UP 1LO 1UP 1LO 1UP 1LO 1UP 1LO 1UP 1LO 1UP 1LO 1UP 1LO 1LE 4EX 1",
     "10EX 1 1LE 1UP 1LO 1UP 1LO 1UP 1LO 1UP 1LO 1UP 1LO 1UP 1LO 1UP 1LO 1UP 1LO 1UP 1LO 1UP 1LO",
     "1UP 1LO 1UP 1LO 1UP 1LO 1UP 3LO 2EX 80LE 2EX 1 1ST 3 1ST 31 9LE 2 1UP 1LO 1UP 1LO 1UP 1LO",
     "1UP 1LO 1UP 1LO 1UP 1LO 1UP 3LO 1UP 1LO 1UP 1LO 1UP 1LO 1UP 1LO 1UP 1LO 1UP 1LO 1UP 1LO 1UP",
     "1LO 1UP 1LO 1UP 1LO 1UP 1LO 1UP 1LO 1UP 1LO 1UP 1LO 1UP 1LO 1UP 1LO 1UP 1LO 1UP 1LO 1UP 1LO",
     "1UP 1LO 1UP 1LO 1UP 1LO 1UP 1LO 1UP 1LO 1UP 1LO 1UP 1LO 1UP 1LO 1UP 1LO 1UP 1LO 1UP 1LO 1UP",
     "10LO 1UP 1LO 1UP 1LO 2UP 1LO 1UP 1LO 1UP 1LO 1UP 1LO 1UP 1LO 1LE 2 1UP 1LO 1UP 1LO 1LE 1UP",
     "1LO 1UP 3LO 1UP 1LO 1UP 1LO 1UP 1LO 1UP 1LO 1UP 1LO 1UP 1LO 1UP 1LO 1UP 1LO 1UP 1LO 1UP 1LO",
     "5UP 1LO 5UP 1LO 1UP 1LO 1UP 1LO 1UP 1LO 1UP 1LO 1UP 1LO 1UP 1LO 1UP 1LO 4UP 1LO 1UP 1LO 2UP",
     "1LO 2 1UP 1LO 1 1LO 1 1LO 1UP 1LO 1UP 1LO 1UP 1LO 1UP 21 3LO 1UP 1LO 1LE 3LO 7LE 1EX 3LE",
     "1EX 4LE 1EX 23LE 5EX 4 1EX 19 52LE 2 2ST 8 2EX 50LE 18EX 8 2ST 10NU 6 18EX 6LE 3 1LE 1 2LE",
     "1EX 10NU 28LE 8EX 1 1ST 23LE 13EX 12 29LE 3 4EX 47LE 14EX 7 2ST 5 1LE 10NU 6 5LE 1EX 10LE",
     "10NU 5LE 1 41LE 14EX 9 3LE 1EX 8LE 2EX 2 10NU 3 3ST 23LE 3 1LE 3EX 50LE 1EX 1LE 3EX 2LE 2EX",
     "5LE 2EX 1LE 1EX 1LE 24 3LE 2 11LE 5EX 2ST 3LE 2EX 10 6LE 2 6LE 2 6LE 9 7LE 1 7LE 1 43LO 1",
     "14LO 6 80LO 35LE 8EX 1ST 2EX 2 10NU 6 11172LE 12 23LE 4 49LE 8452 366LE 2 106LE 38 7LO 12",
     "5LO 5 1LE 1EX 10LE 1 13LE 1 5LE 1 1LE 1 2LE 1 2LE 1 108LE 33 363LE 2CL 16 64LE 2 54LE 40",
     "12LE 4 16EX 2SC 1ST 2SC 2ST 2CL 7 16EX 1 2SC 2 16CL 2 2CL 7 2SC 1AT 1 2SC 2ST 1SC 6CL 4 1SC",
     "12 5LE 1 135LE 2 1FO 1 1ST 6 2CL 2 2SC 1AT 1 10NU 2SC 3 1ST 1 26UP 1CL 1 1CL 3 26LO 1CL 1",
     "1CL 1 2CL 1ST 2CL 1SC 1 56LE 2EX 31LE 3 6LE 2 6LE 2 6LE 2 3LE 28 3FO 4 12LE 1 26LE 1 19LE 1",
     "2LE 1 15LE 2 14LE 34 123LE 69 53LE 136 1EX 130 29LE 3 49LE 15 1EX 31 32LE 13 30LE 5 38LE",
     "5EX 5 30LE 2 36LE 4 8LE 1 5LE 42 40UP 40LO 78LE 2 10NU 6 36UP 4 36LO 4 40LE 8 52LE 12 11UP",
     "1 15UP 1 7UP 1 2UP 1 11LO 1 15LO 1 7LO 1 2LO 3 52LE 12 311LE 9 22LE 10 8LE 24 1LO 2LE 3LO 1",
     "42LO 1 9LO 69 6LE 2 1LE 1 44LE 1 2LE 3 1LE 2 23LE 10 23LE 9 31LE 65 19LE 1 2LE 10 22LE 10",
     "26LE 70 56LE 6 2LE 64 1LE 3EX 1 2EX 5 4EX 4LE 1 3LE 1 29LE 2 3EX 4 1EX 22 2ST 8 29LE 3 29LE",
     "35 8LE 1 28LE 2EX 25 54LE 10 22LE 10 19LE 13 18LE 110 73LE 55 51UP 13 51LO 13 36LE 4EX 8",
     "10NU 6 10NU 6LE 22UP 3 5EX 1 1LE 22LO 250 42LE 1 2EX 3 2LE 16 3LE 55 4EX 29LE 10 1LE 8 22LE",
     "11EX 4 5ST 22 18LE 4EX 4ST 38 21LE 27 23LE 9 3EX 53LE 15EX 2ST 29 10NU 1EX 2LE 2EX 1LE 9",
     "4EX 45LE 11EX 2 1NU 4ST 1EX 10 1NU 2 25LE 7 10NU 6 3EX 36LE 14EX 1 10NU 1 3ST 1LE 2EX 1LE 8",
     "35LE 1EX 2 1LE 9 3EX 48LE 14EX 4LE 2ST 2 4EX 1ST 2EX 10NU 1LE 1 1LE 1 2ST 32 18LE 1 25LE",
     "12EX 2ST 1 2ST 1 1EX 2LE 1EX 62 7LE 1 1LE 1 4LE 1 15LE 1 10LE 1ST 6 47LE 12EX 5 10NU 6 4EX",
     "1 8LE 2 2LE 2 22LE 1 7LE 1 2LE 1 5LE 1 2EX 1LE 7EX 2 2EX 2 3EX 2 1LE 6 1EX 5 5LE 2EX 2 7EX",
     "3 5EX 11 10LE 1 1LE 2 1LE 1 38LE 1 1LE 9EX 1 1EX 2 1EX 1 4EX 1 5EX 1LE 1EX 1LE 2ST 11 2EX",
     "29 53LE 18EX 4LE 2ST 3 10NU 4 1EX 3LE 30 48LE 20EX 2LE 1 1LE 8 10NU 166 47LE 7EX 2 9EX 1",
     "2ST 5 15ST 4LE 2EX 34 48LE 17EX 2ST 1 1LE 11 10NU 38 43LE 13EX 1LE 7 10NU 6 20NU 28 27LE 2",
     "15EX 4 10NU 2 3ST 1 7LE 185 44LE 15EX 101 32UP 32LO 10NU 21 8LE 2 1LE 2 8LE 1 2LE 1 24LE",
     "6EX 1 2EX 2 4EX 1LE 1EX 1LE 2EX 1ST 1 1ST 9 10NU 70 8LE 2 39LE 7EX 2 7EX 1LE 1 1LE 1EX 27",
     "1LE 10EX 40LE 7EX 1LE 4EX 3 2ST 3 1EX 8 1LE 11EX 46LE 16EX 1 2ST 1LE 18 73LE 199 33LE 15",
     "10NU 6 9LE 1 37LE 8EX 1 8EX 1LE 2ST 13 10NU 24 30LE 2 22EX 1 14EX 73 7LE 1 2LE 1 38LE 6EX 3",
     "1EX 1 2EX 1 7EX 1LE 1EX 8 10NU 6 6LE 1 2LE 1 32LE 5EX 1 2EX 1 5EX 1LE 7 10NU 310 19LE 4EX",
     "2ST 7 2EX 1LE 1EX 13LE 1 34LE 7EX 3 5EX 2ST 11 10NU 1EX 85 1LE 79 922LE 102 111LE 17 196LE",
     "2636 97LE 15 1072LE 16FO 1EX 6LE 15EX 10 3995LE 5 583LE 6841 30LE 18EX 10NU 1734 569LE 7",
     "31LE 1 10NU 4 2ST 79LE 1 10NU 6 30LE 2 5EX 1ST 10 48LE 7EX 2ST 7 4LE 1ST 11 10NU 9 21LE 5",
     "19LE 432 45LE 1 2ST 10NU 198 32UP 32LO 24 1ST 103 75LE 4 1EX 1LE 55EX 7 4EX 13LE 64 2LE 1",
     "1LE 1EX 11 2EX 14 6136LE 8 1238LE 41 10LE 8935 4LE 1 7LE 1 2LE 1 291LE 15 1LE 29 3LE 2 1LE",
     "14 4LE 8 396LE 2308 107LE 5 13LE 3 9LE 7 10LE 3 2EX 1ST 4FO 4172 10NU 518 46EX 2 23EX 542",
     "5EX 3 6EX 8FO 8EX 2 7EX 30 4EX 148 3EX 443 26UP 26LO 26UP 7LO 1 18LO 26UP 26LO 1UP 1 2UP 2",
     "1UP 2 2UP 2 4UP 1 8UP 4LO 1 1LO 1 7LO 1 11LO 26UP 26LO 2UP 1 4UP 2 8UP 1 7UP 1 26LO 2UP 1",
     "4UP 1 5UP 1 1UP 3 7UP 1 26LO 26UP 26LO 26UP 26LO 26UP 26LO 26UP 26LO 26UP 26LO 26UP 28LO 2",
     "25UP 1 25LO 1 6LO 25UP 1 25LO 1 6LO 25UP 1 25LO 1 6LO 25UP 1 25LO 1 6LO 25UP 1 25LO 1 6LO",
     "1UP 1LO 2 50NU 512 55EX 4 50EX 8 1EX 14 1EX 3 1ST 18 5EX 1 15EX 1104 10LO 1LE 20LO 6 6LO",
     "213 7EX 1 17EX 2 7EX 1 2EX 1 5EX 5 62LO 33 1EX 112 45LE 3 7EX 7LE 2 10NU 4 1LE 321 30LE 1EX",
     "17 44LE 4EX 10NU 470 28LE 4EX 10NU 214 30LE 2EX 1LE 10NU 485 7LE 1 4LE 1 2LE 1 15LE 1 197LE",
     "11 7EX 41 34UP 34LO 7EX 1LE 4 10NU 1190 4LE 1 27LE 1 2LE 1 1LE 2 1LE 1 10LE 1 4LE 1 1LE 1",
     "1LE 6 1LE 4 1LE 1 1LE 1 1LE 1 3LE 1 2LE 1 1LE 2 1LE 1 1LE 1 1LE 1 1LE 1 1LE 1 2LE 1 1LE 2",
     "4LE 1 7LE 1 4LE 1 4LE 1 1LE 1 10LE 1 17LE 5 3LE 1 5LE 1 17LE 628 26UP 6 26UP 6 26UP 1260",
     "3CL 1399 10NU 1030 42720LE 32 4154LE 6 222LE 2 5762LE 14 7473LE 15 622LE 2466 542LE 1506",
     "4939LE 5 4192LE 711761 1FO 30 96EX 128 240EX 196112"]

end PeerTaint.Unicode.SentenceBreak
