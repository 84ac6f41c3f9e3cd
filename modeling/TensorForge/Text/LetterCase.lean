/-!
# Letter case

Lower-case and upper-case letters as runs of code points. A run is given by its distance from the run before and twice
its number of steps, plus one if the steps are of two.
-/

namespace TensorForge.Text

def readRuns (text : String) : List Nat := (text.splitOn "\n").flatMap fun l => (l.splitOn " ").filterMap String.toNat?

def lowerRuns : List Nat :=
  readRuns "97 50 48 0 11 0 5 0 37 46 2 14 2 55 1 17 1 47 3 5 1 2 3 3 3 0 4 2 5 0 3 0 4 4 3 0 3 5 3 3 1 3 3 0 4 3 3 2
    3 4 7 0 3 0 3 17 1 19 1 0 3 3 4 59 1 10 3 0 3 2 2 0 5 9 1 134 2 70 8 2 31 8 97 0 44 3 4 0 3 6 19 0 28 68 2 2 4 4 2 23
    1 6 2 0 3 0 3 2 52 94 2 33 10 53 3 13 1 97 49 80 2888 84 3 4 761 10 2179 16 120 382 66 149 1 14 2 97 1 14 9 10 11 14 9
    14 9 10 11 14 9 14 9 26 3 14 9 14 9 14 9 8 2 2 7 0 4 4 2 2 9 6 3 2 9 14 11 4 2 2 122 0 14 0 17 24 110 0 4 2 4 0 28 0 5
    0 5 0 3 2 9 6 5 0 34 30 5 0 844 50 1863 94 2 0 4 2 2 5 5 3 1 3 1 12 4 99 1 0 8 3 5 0 13 74 2 0 6 0 30996 45 20 27 1 2
    134 13 1 2 2 61 1 16 2 3 3 9 5 3 3 3 1 2 2 19 6 0 6 15 5 3 7 9 29 3 1 2 822 84 2 24 8 158 20289 12 13 8 1066 50 1230
    78 137 70 156 20 2 28 2 12 2 2 452 0 3 4 2 82 2 16 1286 100 3022 62 21889 62 26011 50 27 12 2 34 27 50 27 6 2 3 1 10 2
    20 27 50 27 50 27 50 27 50 27 50 27 50 27 50 27 50 27 54 29 48 2 10 27 48 2 10 27 48 2 10 27 48 2 10 27 48 2 10 2 0
    1845 18 2 38 2564 66"

def upperRuns : List Nat :=
  readRuns "65 50 102 44 2 12 34 55 3 15 3 47 1 5 4 2 2 3 1 3 1 2 3 6 2 2 2 4 4 2 2 2 2 5 1 3 3 3 1 3 1 2 2 3 1 0 4 0
    8 0 3 0 3 0 3 15 3 17 3 0 3 3 1 2 2 57 8 2 2 2 3 3 1 4 2 7 290 3 4 0 9 0 7 3 1 2 2 3 1 3 1 30 2 16 36 0 3 4 4 23 6 0 3
    3 1 0 3 100 49 33 10 55 1 13 3 95 3 74 2890 74 2 0 6 0 723 170 2203 84 3 4 321 149 10 97 10 14 9 10 11 14 9 14 9 10 12
    7 9 14 73 6 13 6 13 6 13 8 12 6 263 0 5 0 4 4 3 4 3 0 4 8 7 7 1 4 3 6 11 2 6 0 27 30 20 0 819 50 1841 94 49 3 1 2 3 7
    1 4 2 0 3 0 9 4 2 97 9 3 5 0 31054 45 20 27 136 13 4 61 11 5 1 9 5 3 3 3 4 21 1 6 2 8 2 15 1 4 2 0 7 0 6 3 29 0 22316
    50 1222 78 137 70 157 20 2 28 2 12 2 2 1771 100 3054 62 21889 62 26017 50 27 50 27 50 27 3 1 0 3 0 3 2 3 6 2 14 27 50
    27 2 2 6 3 14 2 12 28 2 2 6 2 8 2 0 4 12 28 50 27 50 27 50 27 50 27 50 27 50 31 48 34 48 34 48 34 48 34 48 34 0 4406
    66 2063 50 7 50 7 50"

def inRuns (n before : Nat) : List Nat -> Bool
  | gap :: code :: runs =>
    let first := before + gap
    let step := code % 2 + 1
    let last := first + code / 2 * step
    first <= n && n <= last && (n - first) % step == 0 || inRuns n last runs
  | _ => false

def isLower (c : Char) : Bool := if c.toNat < 0x80 then c.isLower else inRuns c.toNat 0 lowerRuns
def isUpper (c : Char) : Bool := if c.toNat < 0x80 then c.isUpper else inRuns c.toNat 0 upperRuns

end TensorForge.Text
