/-
**Small letters.**

* `lower`: the small letters of a code point: itself, another one, or for `İ` an `i` and its dot.
* `Text.lower`: a text in small letters.
-/

import FeedFilter.Text.Basic
import FeedFilter.Unicode.Case

namespace FeedFilter.Unicode

/-- Capital letters and their small letters: a first pair, the step to the next and the number of
    pairs. -/
def lowerRuns : String :=
  "65 97 1 26 192 224 1 23 216 248 1 7 256 257 2 24 306 307 2 3 313 314 2 8 330 331 2 23 376 255
   1 1 377 378 2 3 385 595 1 1 386 387 2 2 390 596 1 1 391 392 1 1 393 598 1 2 395 396 1 1 398
   477 1 1 399 601 1 1 400 603 1 1 401 402 1 1 403 608 1 1 404 611 1 1 406 617 1 1 407 616 1 1
   408 409 1 1 412 623 1 1 413 626 1 1 415 629 1 1 416 417 2 3 422 640 1 1 423 424 1 1 425 643 1
   1 428 429 1 1 430 648 1 1 431 432 1 1 433 650 1 2 435 436 2 2 439 658 1 1 440 441 1 1 444 445
   1 1 452 454 1 1 453 454 1 1 455 457 1 1 456 457 1 1 458 460 1 1 459 460 2 9 478 479 2 9 497
   499 1 1 498 499 2 2 502 405 1 1 503 447 1 1 504 505 2 20 544 414 1 1 546 547 2 9 570 11365 1 1
   571 572 1 1 573 410 1 1 574 11366 1 1 577 578 1 1 579 384 1 1 580 649 1 1 581 652 1 1 582 583
   2 5 880 881 2 2 886 887 1 1 895 1011 1 1 902 940 1 1 904 941 1 3 908 972 1 1 910 973 1 2 913
   945 1 17 931 963 1 9 975 983 1 1 984 985 2 12 1012 952 1 1 1015 1016 1 1 1017 1010 1 1 1018
   1019 1 1 1021 891 1 3 1024 1104 1 16 1040 1072 1 32 1120 1121 2 17 1162 1163 2 27 1216 1231 1
   1 1217 1218 2 7 1232 1233 2 48 1329 1377 1 38 4256 11520 1 38 4295 11559 1 1 4301 11565 1 1
   5024 43888 1 80 5104 5112 1 6 7312 4304 1 43 7357 4349 1 3 7680 7681 2 75 7838 223 1 1 7840
   7841 2 48 7944 7936 1 8 7960 7952 1 6 7976 7968 1 8 7992 7984 1 8 8008 8000 1 6 8025 8017 2 4
   8040 8032 1 8 8072 8064 1 8 8088 8080 1 8 8104 8096 1 8 8120 8112 1 2 8122 8048 1 2 8124 8115
   1 1 8136 8050 1 4 8140 8131 1 1 8152 8144 1 2 8154 8054 1 2 8168 8160 1 2 8170 8058 1 2 8172
   8165 1 1 8184 8056 1 2 8186 8060 1 2 8188 8179 1 1 8486 969 1 1 8490 107 1 1 8491 229 1 1 8498
   8526 1 1 8544 8560 1 16 8579 8580 1 1 9398 9424 1 26 11264 11312 1 48 11360 11361 1 1 11362
   619 1 1 11363 7549 1 1 11364 637 1 1 11367 11368 2 3 11373 593 1 1 11374 625 1 1 11375 592 1 1
   11376 594 1 1 11378 11379 1 1 11381 11382 1 1 11390 575 1 2 11392 11393 2 50 11499 11500 2 2
   11506 11507 1 1 42560 42561 2 23 42624 42625 2 14 42786 42787 2 7 42802 42803 2 31 42873 42874
   2 2 42877 7545 1 1 42878 42879 2 5 42891 42892 1 1 42893 613 1 1 42896 42897 2 2 42902 42903 2
   10 42922 614 1 1 42923 604 1 1 42924 609 1 1 42925 620 1 1 42926 618 1 1 42928 670 1 1 42929
   647 1 1 42930 669 1 1 42931 43859 1 1 42932 42933 2 8 42948 42900 1 1 42949 642 1 1 42950 7566
   1 1 42951 42952 2 2 42960 42961 1 1 42966 42967 2 2 42997 42998 1 1 65313 65345 1 26 66560
   66600 1 40 66736 66776 1 36 66928 66967 1 11 66940 66979 1 15 66956 66995 1 7 66964 67003 1 2
   68736 68800 1 51 71840 71872 1 32 93760 93792 1 32 125184 125218 1 34"

/-- Each capital letter with its small letter, in ascending order. -/
def lowerPairs : Array (List Nat) :=
  (expandPairs ((items lowerRuns).map fun item => item.toNat?.getD 0)).toArray.qsort
    fun first second => first.getLastD 0 < second.getLastD 0

/-- The capital letters of `lowerPairs`. -/
def lowerKeys : Array Nat := lowerPairs.map fun pair => pair.getLastD 0

/-- The small letters of a code point. -/
def lower (code : Nat) : List Nat :=
  if code = 0x130 then [0x69, 0x307]
  else
    match lowerPairs[lastAtMost lowerKeys code 0 lowerKeys.size]? with
    | some [small, capital] => if capital = code then [small] else [code]
    | _ => [code]

end FeedFilter.Unicode

namespace FeedFilter

/-- A text in small letters. -/
def Text.lower (text : Text) : Text :=
  text.flatMap fun c => (Unicode.lower c.toNat).map Char.ofNat

end FeedFilter
