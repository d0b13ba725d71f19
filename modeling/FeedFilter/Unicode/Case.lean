/-
**Letters that differ only in case.**

Two code points are variants of each other when their simple case foldings agree. The Turkish
letters stand apart: `İ` is a variant of `i` and `ı` of `I`, and of nothing else. Full folding may
turn one letter into several (`ß` into `ss`); the four letters `I`, `i`, `İ`, `ı` it leaves alone.

* `variants`: the code points that a code point stands for when case is ignored, itself first.
* `alike`: whether two code points are equal when case is ignored.
* `foldFull`: the full folding of a code point.
-/

import FeedFilter.Unicode.Table

namespace FeedFilter.Unicode

/-- Pairs of variants: a first code point, its folding, the step to the next pair and the number
    of pairs. -/
def casePairRuns : String :=
  "65 97 1 10 76 108 2 8 77 109 2 3 85 117 2 3 192 224 2 16 193 225 2 2 199 231 2 8 217 249 2 3
   256 257 2 24 306 307 2 3 313 314 2 8 330 331 2 23 376 255 1 1 377 378 2 3 385 595 1 1 386
   387 2 2 390 596 1 1 391 392 1 1 393 598 1 2 395 396 1 1 398 477 1 1 399 601 1 1 400 603 1 1
   401 402 1 1 403 608 1 1 404 611 1 1 406 617 1 1 407 616 1 1 408 409 1 1 412 623 1 1 413 626
   1 1 415 629 1 1 416 417 2 3 422 640 1 1 423 424 1 1 425 643 1 1 428 429 1 1 430 648 1 1 431
   432 1 1 433 650 1 2 435 436 2 2 439 658 1 1 440 441 1 1 444 445 1 1 461 462 2 8 478 479 2 9
   500 501 1 1 502 405 1 1 503 447 1 1 504 505 2 20 544 414 1 1 546 547 2 9 570 11365 1 1 571
   572 1 1 573 410 1 1 574 11366 1 1 577 578 1 1 579 384 1 1 580 649 1 1 581 652 1 1 582 583 2
   5 880 881 2 2 886 887 1 1 895 1011 1 1 902 940 1 1 904 941 1 3 908 972 1 1 910 973 1 2 913
   945 2 2 916 948 2 2 919 951 1 1 923 955 2 3 926 958 1 1 932 964 1 2 935 967 1 2 938 970 1 2
   975 983 1 1 984 985 2 12 1015 1016 1 1 1017 1010 1 1 1018 1019 1 1 1021 891 1 3 1024 1104 1
   16 1040 1072 1 2 1043 1075 2 7 1046 1078 2 4 1056 1088 1 1 1059 1091 1 7 1067 1099 1 5 1120
   1121 1 1 1124 1125 2 15 1162 1163 2 27 1216 1231 1 1 1217 1218 2 7 1232 1233 2 48 1329 1377
   1 38 4256 11520 1 38 4295 11559 1 1 4301 11565 1 1 5112 5104 1 6 7312 4304 1 43 7357 4349 1
   3 7680 7681 2 48 7778 7779 2 26 7838 223 1 1 7840 7841 2 48 7944 7936 1 8 7960 7952 1 6 7976
   7968 1 8 7992 7984 1 8 8008 8000 1 6 8025 8017 2 4 8040 8032 1 8 8072 8064 1 8 8088 8080 1 8
   8104 8096 1 8 8120 8112 1 2 8122 8048 1 2 8124 8115 1 1 8136 8050 1 4 8140 8131 1 1 8152
   8144 1 2 8154 8054 1 2 8168 8160 1 2 8170 8058 1 2 8172 8165 1 1 8184 8056 1 2 8186 8060 1 2
   8188 8179 1 1 8498 8526 1 1 8544 8560 1 16 8579 8580 1 1 9398 9424 1 26 11264 11312 1 48
   11360 11361 1 1 11362 619 1 1 11363 7549 1 1 11364 637 1 1 11367 11368 2 3 11373 593 1 1
   11374 625 1 1 11375 592 1 1 11376 594 1 1 11378 11379 1 1 11381 11382 1 1 11390 575 1 2
   11392 11393 2 50 11499 11500 2 2 11506 11507 1 1 42560 42561 2 5 42572 42573 2 17 42624
   42625 2 14 42786 42787 2 7 42802 42803 2 31 42873 42874 2 2 42877 7545 1 1 42878 42879 2 5
   42891 42892 1 1 42893 613 1 1 42896 42897 2 2 42902 42903 2 10 42922 614 1 1 42923 604 1 1
   42924 609 1 1 42925 620 1 1 42926 618 1 1 42928 670 1 1 42929 647 1 1 42930 669 1 1 42931
   43859 1 1 42932 42933 2 8 42948 42900 1 1 42949 642 1 1 42950 7566 1 1 42951 42952 2 2 42960
   42961 1 1 42966 42967 2 2 42997 42998 1 1 43888 5024 1 80 65313 65345 1 26 66560 66600 1 40
   66736 66776 1 36 66928 66967 2 19 66929 66968 2 5 66941 66980 2 7 66957 66996 2 3 66965
   67004 1 1 68736 68800 1 51 71840 71872 1 32 93760 93792 1 32 125184 125218 1 34"

/-- The classes of three and more variants, with the folding of all of them first. -/
def caseClasses : String :=
  "107=75=8490 115=83=383 229=197=8491 454=452=453 457=455=456 460=458=459 499=497=498
   946=914=976 949=917=1013 952=920=977=1012 953=837=921=8126 954=922=1008 956=181=924
   960=928=982 961=929=1009 963=931=962 966=934=981 969=937=8486 1074=1042=7296 1076=1044=7297
   1086=1054=7298 1089=1057=7299 1090=1058=7300=7301 1098=1066=7302 1123=1122=7303
   7777=7776=7835 42571=7304=42570"

/-- The code points whose full folding has several code points. -/
def fullFoldings : String :=
  "223=115+115 329=700+110 496=106+780 912=953+776+769 944=965+776+769 1415=1381+1410
   7830=104+817 7831=116+776 7832=119+778 7833=121+778 7834=97+702 7838=115+115 8016=965+787
   8018=965+787+768 8020=965+787+769 8022=965+787+834 8064=7936+953 8065=7937+953 8066=7938+953
   8067=7939+953 8068=7940+953 8069=7941+953 8070=7942+953 8071=7943+953 8072=7936+953
   8073=7937+953 8074=7938+953 8075=7939+953 8076=7940+953 8077=7941+953 8078=7942+953
   8079=7943+953 8080=7968+953 8081=7969+953 8082=7970+953 8083=7971+953 8084=7972+953
   8085=7973+953 8086=7974+953 8087=7975+953 8088=7968+953 8089=7969+953 8090=7970+953
   8091=7971+953 8092=7972+953 8093=7973+953 8094=7974+953 8095=7975+953 8096=8032+953
   8097=8033+953 8098=8034+953 8099=8035+953 8100=8036+953 8101=8037+953 8102=8038+953
   8103=8039+953 8104=8032+953 8105=8033+953 8106=8034+953 8107=8035+953 8108=8036+953
   8109=8037+953 8110=8038+953 8111=8039+953 8114=8048+953 8115=945+953 8116=940+953
   8118=945+834 8119=945+834+953 8124=945+953 8130=8052+953 8131=951+953 8132=942+953
   8134=951+834 8135=951+834+953 8140=951+953 8146=953+776+768 8147=953+776+769 8150=953+834
   8151=953+776+834 8162=965+776+768 8163=965+776+769 8164=961+787 8166=965+834
   8167=965+776+834 8178=8060+953 8179=969+953 8180=974+953 8182=969+834 8183=969+834+953
   8188=969+953 64256=102+102 64257=102+105 64258=102+108 64259=102+102+105 64260=102+102+108
   64261=115+116 64262=115+116 64275=1396+1398 64276=1396+1381 64277=1396+1387 64278=1406+1398
   64279=1396+1389"

/-- The numbers of an item that are written with one separator between them. -/
def numbers (separator item : String) : List Nat :=
  (item.splitOn separator).map fun number => number.toNat?.getD 0

/-- The pairs that a list of runs writes down, the folding first. -/
def expandPairs : List Nat → List (List Nat)
  | first :: folding :: step :: count :: rest =>
    ((List.range count).map fun place => [folding + place * step, first + place * step])
      ++ expandPairs rest
  | _ => []

/-- All classes of variants with more than one member, each with its folding first. -/
def variantClasses : List (List Nat) :=
  expandPairs ((items casePairRuns).map fun item => item.toNat?.getD 0)
    ++ (items caseClasses).map (numbers "=")

/-- Each code point that has variants, with its class, in ascending order. -/
def variantTable : Array (Nat × List Nat) :=
  let entries := (variantClasses.map fun members => members.map fun code => (code, members)).flatten
  (entries.mergeSort fun first second => first.1 ≤ second.1).toArray

/-- The code points of `variantTable`. -/
def variantKeys : Array Nat := variantTable.map Prod.fst

/-- The class of variants of a code point, its folding first. -/
def variantClass (code : Nat) : List Nat :=
  match variantTable[lastAtMost variantKeys code 0 variantKeys.size]? with
  | some (key, members) => if key = code then members else [code]
  | none => [code]

/-- The letters that only Turkish writing relates to a letter. -/
def turkishVariants : Nat → List Nat
  | 0x49 => [0x131]
  | 0x69 => [0x130]
  | 0x130 => [0x69]
  | 0x131 => [0x49]
  | _ => []

/-- The code points that a code point stands for when case is ignored, itself first. -/
def variants (code : Nat) : List Nat :=
  code :: (variantClass code).filter (· ≠ code) ++ turkishVariants code

/-- Equality when case is ignored. -/
def alike (first second : Nat) : Bool := (variants first).contains second

/-- Whether a code point has a variant other than itself. -/
def hasVariants (code : Nat) : Bool := 1 < (variants code).length

/-- The code points that fold to several, with their foldings. -/
def expandingFolds : List (Nat × List Nat) :=
  (items fullFoldings).map fun item =>
    match item.splitOn "=" with
    | [code, folding] => (code.toNat?.getD 0, numbers "+" folding)
    | _ => (0, [])

/-- The full folding of a code point. -/
def foldFull (code : Nat) : List Nat :=
  match expandingFolds.find? (·.1 == code) with
  | some (_, folding) => folding
  | none => if turkishVariants code = [] then [(variantClass code).headD code] else [code]

end FeedFilter.Unicode
