import RecordFilter.Unicode.Table

/-!
# Case folding

Two characters fold together if their simple case foldings agree. Most of them
do so in pairs, and the pairs come in runs: `first count step distance` stands
for the pairs `(first + k * step, first + k * step + distance)` with `k` below
`count`. The larger groups are listed one by one, each closed by a zero.
-/

namespace RecordFilter.Unicode

def foldingPairTable : String :=
  String.join [
    "65 10 1 32 76 8 2 32 77 4 4 32 79 2 8 32 192 16 2 32 193 4 8 32 195 5 4 32 205 3 8 32 219 1 ",
    "1 32 223 1 1 7615 255 1 1 121 256 24 2 1 306 3 2 1 313 8 2 1 330 23 2 1 377 3 2 1 384 1 1 19",
    "5 385 1 1 210 386 2 2 1 390 1 1 206 391 2 4 1 393 2 1 205 398 1 1 79 399 1 1 202 400 1 1 203",
    " 401 1 1 1 403 1 1 205 404 1 1 207 405 1 1 97 406 1 1 211 407 1 1 209 408 2 8 1 410 1 1 163 ",
    "411 1 1 42561 412 1 1 211 413 1 1 213 414 1 1 130 415 1 1 214 418 2 2 1 422 2 3 218 423 2 8 ",
    "1 428 1 1 1 430 1 1 218 433 2 1 217 435 2 2 1 439 1 1 219 440 2 4 1 447 1 1 56 461 8 2 1 478",
    " 9 2 1 500 11 4 1 506 15 4 1 548 4 4 1 570 1 1 10795 571 1 1 1 574 1 1 10792 575 2 1 10815 5",
    "77 1 1 1 580 1 1 69 581 1 1 71 582 5 2 1 592 1 1 10783 593 1 1 10780 594 1 1 10782 604 1 1 4",
    "2319 609 1 1 42315 612 1 1 42343 613 1 1 42280 614 2 4 42308 619 1 1 10743 620 1 1 42305 625",
    " 1 1 10749 637 1 1 10727 642 1 1 42307 647 1 1 42282 669 1 1 42261 670 1 1 42258 880 2 2 1 8",
    "86 1 1 1 891 3 1 130 895 1 1 116 902 1 1 38 904 3 1 37 908 1 1 64 910 2 1 63 912 1 1 7235 91",
    "3 3 3 32 915 2 3 32 923 3 2 32 926 1 1 32 932 3 3 32 933 3 3 32 944 1 1 7219 975 1 1 8 984 1",
    "2 2 1 1010 1 1 7 1015 2 3 1 1024 16 1 80 1040 6 3 32 1041 2 4 32 1047 9 3 32 1048 2 3 32 106",
    "0 2 1 32 1063 2 1 32 1067 2 2 32 1070 1 1 32 1120 9 4 1 1126 7 4 1 1162 27 2 1 1216 1 1 15 1",
    "217 7 2 1 1232 48 2 1 1329 38 1 48 4256 38 1 7264 4295 1 1 7264 4301 1 1 7264 4304 43 1 3008",
    " 4349 3 1 3008 5024 80 1 38864 5104 6 1 8 7305 1 1 1 7545 1 1 35332 7549 1 1 3814 7566 1 1 3",
    "5384 7680 48 2 1 7778 26 2 1 7840 48 2 1 7936 8 1 8 7952 6 1 8 7968 8 1 8 7984 8 1 8 8000 6 ",
    "1 8 8017 4 2 8 8032 8 1 8 8048 2 1 74 8050 4 1 86 8054 2 1 100 8056 2 1 128 8058 2 1 112 806",
    "0 2 1 126 8064 8 1 8 8080 8 1 8 8096 8 1 8 8112 2 1 8 8115 1 1 9 8131 1 1 9 8144 2 1 8 8160 ",
    "2 1 8 8165 1 1 7 8179 1 1 9 8498 1 1 28 8544 16 1 16 8579 1 1 1 9398 26 1 26 11264 48 1 48 1",
    "1360 1 1 1 11367 3 2 1 11378 2 3 1 11392 50 2 1 11499 2 2 1 11506 1 1 1 42560 12 4 1 42562 2",
    " 4 1 42574 8 4 1 42624 14 2 1 42786 20 4 1 42788 10 8 1 42792 1 1 1 42808 7 8 1 42873 2 2 1 ",
    "42878 5 2 1 42891 1 1 1 42896 4 8 1 42898 6 4 1 42900 1 1 48 42908 2 8 1 42931 1 1 928 42932",
    " 8 2 1 42951 2 2 1 42956 2 4 1 42966 3 2 1 42997 1 1 1 64261 1 1 1 65313 26 1 32 66560 40 1 ",
    "40 66736 36 1 40 66928 19 2 39 66929 10 4 39 66931 2 4 39 66943 3 4 39 66959 1 1 39 68736 51",
    " 1 64 68944 22 1 32 71840 32 1 32 93760 32 1 32 125184 34 1 34"]

def foldingGroupTable : String :=
  String.join [
    "75 107 8490 0 83 115 383 0 181 924 956 0 197 229 8491 0 452 453 454 0 455 456 457 0 458 459 ",
    "460 0 497 498 499 0 837 921 953 8126 0 914 946 976 0 917 949 1013 0 920 952 977 1012 0 922 9",
    "54 1008 0 928 960 982 0 929 961 1009 0 931 962 963 0 934 966 981 0 937 969 8486 0 1042 1074 ",
    "7296 0 1044 1076 7297 0 1054 1086 7298 0 1057 1089 7299 0 1058 1090 7300 7301 0 1066 1098 73",
    "02 0 1122 1123 7303 0 7304 42570 42571 0 7776 7777 7835 0"]

/-- The pairs of a run. -/
def pairsOfRun (first count step distance : Nat) : List (List Nat) :=
  (List.range count).map fun k => [first + k * step, first + k * step + distance]

def pairsOfRuns : List Nat → List (List Nat)
  | first :: count :: step :: distance :: rest =>
    pairsOfRun first count step distance ++ pairsOfRuns rest
  | _ => []

/-- Splits a list at its zeros. -/
def groupsOf : List Nat → List Nat → List (List Nat)
  | _, [] => []
  | group, n :: rest => if n = 0 then group.reverse :: groupsOf [] rest else groupsOf (n :: group) rest

/-- The groups of code points that fold together, of two members or more. -/
def foldingGroups : List (List Nat) :=
  pairsOfRuns (numbers foldingPairTable) ++ groupsOf [] (numbers foldingGroupTable)

/-- The set together with everything that folds together with a member. -/
def closeUnderFolding (s : CharSet) : CharSet :=
  CharSet.ofRanges (s.ranges ++
    (foldingGroups.filter (·.any s.containsCode)).flatten.map fun n => (n, n))

/-- The set together with the other case of its ASCII letters. -/
def closeUnderAsciiCase (s : CharSet) : CharSet :=
  CharSet.ofRanges (s.ranges ++
    ((List.range 26).filter fun k => s.containsCode (65 + k) || s.containsCode (97 + k)).flatMap
      fun k => [(65 + k, 65 + k), (97 + k, 97 + k)])

end RecordFilter.Unicode
