import TemplateEngine.Text.Ranges

set_option autoImplicit false

/-!
# Upper and lower case

The full case mappings of Unicode 14. A mapping from U+0080 on is written as runs of four numbers:
the first character, how many there are, the step between them, and what the first is mapped to; the
others follow in the same steps. Some characters have more than one character as upper case. A final
sigma has a lower case of its own.
-/
namespace TemplateEngine

namespace Text

def upperRuns : List Nat := table
    ["181 1 1 924 224 23 1 192 248 7 1 216 255 1 1 376 257 24 2 256 305 1 1 73 307 3 2 306 314 8 2",
    "313 331 23 2 330 378 3 2 377 383 1 1 83 384 1 1 579 387 2 2 386 392 1 1 391 396 1 1 395 402",
    "1 1 401 405 1 1 502 409 1 1 408 410 1 1 573 414 1 1 544 417 3 2 416 424 1 1 423 429 1 1 428",
    "432 1 1 431 436 2 2 435 441 1 1 440 445 1 1 444 447 1 1 503 453 1 1 452 454 1 1 452 456 1 1",
    "455 457 1 1 455 459 1 1 458 460 1 1 458 462 8 2 461 477 1 1 398 479 9 2 478 498 1 1 497 499",
    "1 1 497 501 1 1 500 505 20 2 504 547 9 2 546 572 1 1 571 575 2 1 11390 578 1 1 577 583 5 2",
    "582 592 1 1 11375 593 1 1 11373 594 1 1 11376 595 1 1 385 596 1 1 390 598 2 1 393 601 1 1",
    "399 603 1 1 400 604 1 1 42923 608 1 1 403 609 1 1 42924 611 1 1 404 613 1 1 42893 614 1 1",
    "42922 616 1 1 407 617 1 1 406 618 1 1 42926 619 1 1 11362 620 1 1 42925 623 1 1 412 625 1 1",
    "11374 626 1 1 413 629 1 1 415 637 1 1 11364 640 1 1 422 642 1 1 42949 643 1 1 425 647 1 1",
    "42929 648 1 1 430 649 1 1 580 650 2 1 433 652 1 1 581 658 1 1 439 669 1 1 42930 670 1 1",
    "42928 837 1 1 921 881 2 2 880 887 1 1 886 891 3 1 1021 940 1 1 902 941 3 1 904 945 17 1 913",
    "962 1 1 931 963 9 1 931 972 1 1 908 973 2 1 910 976 1 1 914 977 1 1 920 981 1 1 934 982 1 1",
    "928 983 1 1 975 985 12 2 984 1008 1 1 922 1009 1 1 929 1010 1 1 1017 1011 1 1 895 1013 1 1",
    "917 1016 1 1 1015 1019 1 1 1018 1072 32 1 1040 1104 16 1 1024 1121 17 2 1120 1163 27 2 1162",
    "1218 7 2 1217 1231 1 1 1216 1233 48 2 1232 1377 38 1 1329 4304 43 1 7312 4349 3 1 7357 5112",
    "6 1 5104 7296 1 1 1042 7297 1 1 1044 7298 1 1 1054 7299 2 1 1057 7301 1 1 1058 7302 1 1 1066",
    "7303 1 1 1122 7304 1 1 42570 7545 1 1 42877 7549 1 1 11363 7566 1 1 42950 7681 75 2 7680",
    "7835 1 1 7776 7841 48 2 7840 7936 8 1 7944 7952 6 1 7960 7968 8 1 7976 7984 8 1 7992 8000 6",
    "1 8008 8017 4 2 8025 8032 8 1 8040 8048 2 1 8122 8050 4 1 8136 8054 2 1 8154 8056 2 1 8184",
    "8058 2 1 8170 8060 2 1 8186 8112 2 1 8120 8126 1 1 921 8144 2 1 8152 8160 2 1 8168 8165 1 1",
    "8172 8526 1 1 8498 8560 16 1 8544 8580 1 1 8579 9424 26 1 9398 11312 48 1 11264 11361 1 1",
    "11360 11365 1 1 570 11366 1 1 574 11368 3 2 11367 11379 1 1 11378 11382 1 1 11381 11393 50 2",
    "11392 11500 2 2 11499 11507 1 1 11506 11520 38 1 4256 11559 1 1 4295 11565 1 1 4301 42561 23",
    "2 42560 42625 14 2 42624 42787 7 2 42786 42803 31 2 42802 42874 2 2 42873 42879 5 2 42878",
    "42892 1 1 42891 42897 2 2 42896 42900 1 1 42948 42903 10 2 42902 42933 8 2 42932 42952 2 2",
    "42951 42961 1 1 42960 42967 2 2 42966 42998 1 1 42997 43859 1 1 42931 43888 80 1 5024 65345",
    "26 1 65313 66600 40 1 66560 66776 36 1 66736 66967 19 2 66928 66968 5 2 66929 66980 7 2",
    "66941 66996 3 2 66957 67004 1 1 66965 68800 51 1 68736 71872 32 1 71840 93792 32 1 93760",
    "125218 34 1 125184"]

def lowerRuns : List Nat := table
    ["192 23 1 224 216 7 1 248 256 24 2 257 306 3 2 307 313 8 2 314 330 23 2 331 376 1 1 255 377 3",
    "2 378 385 1 1 595 386 2 2 387 390 1 1 596 391 1 1 392 393 2 1 598 395 1 1 396 398 1 1 477",
    "399 1 1 601 400 1 1 603 401 1 1 402 403 1 1 608 404 1 1 611 406 1 1 617 407 1 1 616 408 1 1",
    "409 412 1 1 623 413 1 1 626 415 1 1 629 416 3 2 417 422 1 1 640 423 1 1 424 425 1 1 643 428",
    "1 1 429 430 1 1 648 431 1 1 432 433 2 1 650 435 2 2 436 439 1 1 658 440 1 1 441 444 1 1 445",
    "452 1 1 454 453 1 1 454 455 1 1 457 456 1 1 457 458 1 1 460 459 9 2 460 478 9 2 479 497 1 1",
    "499 498 2 2 499 502 1 1 405 503 1 1 447 504 20 2 505 544 1 1 414 546 9 2 547 570 1 1 11365",
    "571 1 1 572 573 1 1 410 574 1 1 11366 577 1 1 578 579 1 1 384 580 1 1 649 581 1 1 652 582 5",
    "2 583 880 2 2 881 886 1 1 887 895 1 1 1011 902 1 1 940 904 3 1 941 908 1 1 972 910 2 1 973",
    "913 17 1 945 931 9 1 963 975 1 1 983 984 12 2 985 1012 1 1 952 1015 1 1 1016 1017 1 1 1010",
    "1018 1 1 1019 1021 3 1 891 1024 16 1 1104 1040 32 1 1072 1120 17 2 1121 1162 27 2 1163 1216",
    "1 1 1231 1217 7 2 1218 1232 48 2 1233 1329 38 1 1377 4256 38 1 11520 4295 1 1 11559 4301 1 1",
    "11565 5024 80 1 43888 5104 6 1 5112 7312 43 1 4304 7357 3 1 4349 7680 75 2 7681 7838 1 1 223",
    "7840 48 2 7841 7944 8 1 7936 7960 6 1 7952 7976 8 1 7968 7992 8 1 7984 8008 6 1 8000 8025 4",
    "2 8017 8040 8 1 8032 8072 8 1 8064 8088 8 1 8080 8104 8 1 8096 8120 2 1 8112 8122 2 1 8048",
    "8124 1 1 8115 8136 4 1 8050 8140 1 1 8131 8152 2 1 8144 8154 2 1 8054 8168 2 1 8160 8170 2 1",
    "8058 8172 1 1 8165 8184 2 1 8056 8186 2 1 8060 8188 1 1 8179 8486 1 1 969 8490 1 1 107 8491",
    "1 1 229 8498 1 1 8526 8544 16 1 8560 8579 1 1 8580 9398 26 1 9424 11264 48 1 11312 11360 1 1",
    "11361 11362 1 1 619 11363 1 1 7549 11364 1 1 637 11367 3 2 11368 11373 1 1 593 11374 1 1 625",
    "11375 1 1 592 11376 1 1 594 11378 1 1 11379 11381 1 1 11382 11390 2 1 575 11392 50 2 11393",
    "11499 2 2 11500 11506 1 1 11507 42560 23 2 42561 42624 14 2 42625 42786 7 2 42787 42802 31 2",
    "42803 42873 2 2 42874 42877 1 1 7545 42878 5 2 42879 42891 1 1 42892 42893 1 1 613 42896 2 2",
    "42897 42902 10 2 42903 42922 1 1 614 42923 1 1 604 42924 1 1 609 42925 1 1 620 42926 1 1 618",
    "42928 1 1 670 42929 1 1 647 42930 1 1 669 42931 1 1 43859 42932 8 2 42933 42948 1 1 42900",
    "42949 1 1 642 42950 1 1 7566 42951 2 2 42952 42960 1 1 42961 42966 2 2 42967 42997 1 1 42998",
    "65313 26 1 65345 66560 40 1 66600 66736 36 1 66776 66928 19 2 66967 66929 5 2 66968 66941 7",
    "2 66980 66957 3 2 66996 66965 1 1 67004 68736 51 1 68800 71840 32 1 71872 93760 32 1 93792",
    "125184 34 1 125218"]

/-- The characters whose upper case is several, each followed by three numbers; a zero is none. -/
def upperSequences : List Nat := table
    ["223 83 83 0 329 700 78 0 496 74 780 0 912 921 776 769 944 933 776 769 1415 1333 1362 0 7830",
    "72 817 0 7831 84 776 0 7832 87 778 0 7833 89 778 0 7834 65 702 0 8016 933 787 0 8018 933 787",
    "768 8020 933 787 769 8022 933 787 834 8064 7944 921 0 8065 7945 921 0 8066 7946 921 0 8067",
    "7947 921 0 8068 7948 921 0 8069 7949 921 0 8070 7950 921 0 8071 7951 921 0 8072 7944 921 0",
    "8073 7945 921 0 8074 7946 921 0 8075 7947 921 0 8076 7948 921 0 8077 7949 921 0 8078 7950",
    "921 0 8079 7951 921 0 8080 7976 921 0 8081 7977 921 0 8082 7978 921 0 8083 7979 921 0 8084",
    "7980 921 0 8085 7981 921 0 8086 7982 921 0 8087 7983 921 0 8088 7976 921 0 8089 7977 921 0",
    "8090 7978 921 0 8091 7979 921 0 8092 7980 921 0 8093 7981 921 0 8094 7982 921 0 8095 7983",
    "921 0 8096 8040 921 0 8097 8041 921 0 8098 8042 921 0 8099 8043 921 0 8100 8044 921 0 8101",
    "8045 921 0 8102 8046 921 0 8103 8047 921 0 8104 8040 921 0 8105 8041 921 0 8106 8042 921 0",
    "8107 8043 921 0 8108 8044 921 0 8109 8045 921 0 8110 8046 921 0 8111 8047 921 0 8114 8122",
    "921 0 8115 913 921 0 8116 902 921 0 8118 913 834 0 8119 913 834 921 8124 913 921 0 8130 8138",
    "921 0 8131 919 921 0 8132 905 921 0 8134 919 834 0 8135 919 834 921 8140 919 921 0 8146 921",
    "776 768 8147 921 776 769 8150 921 834 0 8151 921 776 834 8162 933 776 768 8163 933 776 769",
    "8164 929 787 0 8166 933 834 0 8167 933 776 834 8178 8186 921 0 8179 937 921 0 8180 911 921 0",
    "8182 937 834 0 8183 937 834 921 8188 937 921 0 64256 70 70 0 64257 70 73 0 64258 70 76 0",
    "64259 70 70 73 64260 70 70 76 64261 83 84 0 64262 83 84 0 64275 1348 1350 0 64276 1348 1333",
    "0 64277 1348 1339 0 64278 1358 1350 0 64279 1348 1341 0"]

def casedStretches : List Nat := table
    ["42 1 10 1 4 1 5 23 1 31 1 195 1 4 4 208 1 27 192 4 2 2 3 3 1 1 6 1 1 3 1 1 1 20 1 83 1 139 8",
    "166 1 38 9 41 2839 38 1 1 5 1 2 43 2 3 672 86 2 6 2178 9 7 43 2 3 64 44 63 13 1 34 101 278 2",
    "6 2 38 2 6 2 8 1 1 1 1 1 1 1 31 2 53 1 7 1 1 3 3 1 7 3 4 2 6 4 13 5 3 1 7 261 1 4 1 2 10 1 1",
    "3 5 6 1 1 1 1 1 1 4 1 6 4 1 2 4 5 5 4 1 17 32 3 2 817 52 1814 124 2 103 6 4 3 2 12 38 1 1 5",
    "1 30994 46 18 28 134 78 1 23 3 4 1 59 5 2 1 1 1 5 27 2 3 1 821 43 5 9 7 80 20288 7 12 5 1033",
    "26 6 26 1189 80 96 36 4 36 116 11 1 15 1 7 1 2 1 11 1 15 1 7 1 2 1731 51 13 51 2989 64 21856",
    "64 25984 85 1 71 1 2 2 1 2 2 2 4 1 12 1 1 1 7 1 65 1 4 2 8 1 7 1 28 1 4 1 5 1 1 3 7 1 340 2",
    "25 1 25 1 31 1 25 1 31 1 25 1 31 1 25 1 31 1 25 1 8 1844 10 1 20 2529 68 2028 26 6 26 6 26"]

/-- The stretches of characters from U+0080 on that say nothing about where a word ends. -/
def caseIgnorableStretches : List Nat := table
    ["40 1 4 1 1 1 4 1 2 2 503 192 4 2 4 1 9 2 1 1 251 7 207 1 5 1 49 45 1 1 1 2 1 2 1 1 44 1 11 6",
    "10 11 1 1 35 1 10 21 16 1 101 8 1 10 1 4 33 1 1 1 30 27 91 11 58 11 4 1 2 1 24 24 43 3 44 1",
    "7 2 6 8 41 58 55 1 1 1 4 8 4 1 3 7 10 2 13 1 15 1 58 1 4 4 8 1 20 2 26 1 2 2 57 1 4 2 4 2 2",
    "3 3 1 30 2 3 1 11 2 57 1 4 5 1 2 4 1 20 2 22 6 1 1 58 1 2 1 1 4 8 1 7 2 11 2 30 1 61 1 12 1",
    "50 1 3 1 55 1 1 3 5 3 1 4 7 2 11 2 29 1 58 1 2 1 6 1 5 2 20 2 28 2 57 2 4 4 8 1 20 2 29 1 72",
    "1 7 3 1 1 90 1 2 7 11 9 98 1 2 9 9 1 1 6 74 2 27 1 1 1 1 1 55 14 1 5 1 2 5 11 1 36 9 1 102 4",
    "1 6 1 2 2 2 25 2 4 3 16 4 13 1 2 2 6 1 15 1 94 1 608 3 946 3 29 2 30 2 30 2 64 2 1 7 8 1 2",
    "11 3 1 5 1 45 5 51 1 65 2 34 1 118 3 4 2 9 1 6 3 219 2 2 1 58 1 1 7 1 1 1 1 2 8 6 10 2 1 39",
    "1 8 31 49 4 48 1 1 5 1 1 5 1 40 9 12 2 32 4 2 2 1 3 56 1 1 2 3 1 1 3 58 8 2 2 64 6 82 3 1 13",
    "1 7 4 1 6 1 3 2 50 63 13 1 34 101 445 1 1 3 11 3 13 3 13 3 13 2 12 5 8 2 10 1 2 1 2 5 49 5 1",
    "10 1 1 13 1 16 13 51 33 2955 2 113 3 125 1 15 1 96 32 47 1 469 1 36 4 3 5 5 1 93 6 93 3",
    "28438 1 1250 6 270 1 98 4 1 10 1 1 28 4 80 2 14 34 78 1 23 3 103 3 3 2 8 1 3 1 4 1 25 2 5 1",
    "151 2 26 18 13 1 38 8 25 11 46 3 48 1 2 4 2 2 17 1 21 2 66 6 2 2 2 2 12 1 8 1 35 1 11 1 51 1",
    "1 3 2 2 5 2 1 1 27 1 14 2 5 2 1 1 100 5 9 3 121 1 2 1 4 1 20272 1 147 17 573 16 3 1 12 16 34",
    "1 2 1 169 1 7 1 6 1 11 1 35 1 1 1 47 1 45 2 67 1 21 3 513 1 226 1 149 5 1029 6 1 42 1 9 582",
    "3 1 2 5 4 40 3 4 1 165 2 573 4 387 2 153 11 49 4 123 1 54 15 41 1 2 2 10 3 49 4 2 2 2 1 4 1",
    "10 1 50 3 36 5 1 8 62 1 12 2 52 9 10 4 2 1 95 3 2 1 1 2 6 1 160 1 3 8 21 2 57 2 3 1 37 7 3 5",
    "195 8 2 3 1 1 23 1 84 6 1 1 4 2 1 2 238 4 6 2 1 2 27 2 85 8 2 1 1 2 106 1 1 1 2 6 1 1 101 3",
    "2 4 1 5 259 9 1 2 256 2 1 1 4 1 144 4 2 2 4 1 32 10 40 6 2 4 8 1 9 6 2 3 46 13 1 2 406 7 1 6",
    "1 1 82 22 2 7 1 2 1 2 122 6 3 1 1 2 1 7 1 1 72 2 3 1 1 1 347 2 5435 9 14007 5 59 7 9 4 1035",
    "1 63 17 64 2 1 2 16395 4 1 7 1 2 3230 2 1 4 4700 46 2 23 544 3 9 16 2 7 30 4 148 3 1979 55 4",
    "50 8 1 14 1 22 5 1 15 1360 7 1 17 2 7 1 2 1 5 261 14 368 1 61 4 1504 7 109 8 2735 5 789505 1",
    "30 96 128 240"]

def mapRun (n : Nat) : List Nat → Option Nat
  | start :: count :: step :: target :: rest =>
    if start ≤ n && (n - start) % step = 0 && (n - start) / step < count then
      some (target + (n - start))
    else mapRun n rest
  | _ => none

def mapSequence (n : Nat) : List Nat → Option Text
  | start :: a :: b :: c :: rest =>
    if start = n then some (([a, b, c].filter (· ≠ 0)).map Char.ofNat) else mapSequence n rest
  | _ => none

def upperChar (c : Char) : Text :=
  if c.toNat < 128 then [c.toUpper]
  else match mapSequence c.toNat upperSequences with
    | some t => t
    | none => [((mapRun c.toNat upperRuns).map Char.ofNat).getD c]

def lowerChar (c : Char) : Text :=
  if c.toNat < 128 then [c.toLower]
  else if c.toNat = 0x130 then ['i', '\u0307']
  else [((mapRun c.toNat lowerRuns).map Char.ofNat).getD c]

def isCased (c : Char) : Bool :=
  if c.toNat < 128 then c.isAlpha else inStretches c.toNat 128 casedStretches

def isCaseIgnorable (c : Char) : Bool :=
  if c.toNat < 128 then [39, 46, 58, 94, 96].contains c.toNat
  else inStretches c.toNat 128 caseIgnorableStretches

end Text

namespace Str

def meetsCased (s : Str) : Bool :=
  match s.dropWhile (CodePoint.satisfies Text.isCaseIgnorable) with
  | [] => false
  | c :: _ => c.satisfies Text.isCased

def upper (s : Str) : Str := s.flatMap fun
  | .char c => Text.upperChar c
  | c => [c]

/-- The lower case of a string behind another one, whose last code point comes first. -/
def lowerFrom : (before : Str) → Str → Str
  | _, [] => []
  | before, .char c :: s =>
    let ts : Text := if c.toNat = 0x3A3 then
        [if meetsCased before && !meetsCased s then '\u03c2' else '\u03c3']
      else Text.lowerChar c
    ts ++ lowerFrom (.char c :: before) s
  | before, c :: s => c :: lowerFrom (c :: before) s

def lower (s : Str) : Str := lowerFrom [] s

end Str
end TemplateEngine
