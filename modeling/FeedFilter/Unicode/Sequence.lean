/-
**Names of sequences.**

Most names are those of a single character, but some are names of several characters in a row.

* `sequenceLength?`: how many characters a name stands for, if they are several.
-/

import FeedFilter.Unicode.Table

namespace FeedFilter.Unicode

/-- The names of sequences: how many characters there are, the words that the names begin with, and
the words that they end with, with commas between the names. -/
def sequenceTable : List (Nat × String × String) :=
 [(2, "LATIN CAPITAL LETTER",
    "A WITH MACRON AND GRAVE, I WITH MACRON AND GRAVE, U WITH MACRON AND GRAVE, E WITH VERTICAL
     LINE BELOW, E WITH VERTICAL LINE BELOW AND GRAVE, E WITH VERTICAL LINE BELOW AND ACUTE, O
     WITH VERTICAL LINE BELOW, O WITH VERTICAL LINE BELOW AND GRAVE, O WITH VERTICAL LINE BELOW
     AND ACUTE, S WITH VERTICAL LINE BELOW, E WITH CIRCUMFLEX AND MACRON, E WITH CIRCUMFLEX AND
     CARON, A WITH OGONEK AND ACUTE, A WITH OGONEK AND TILDE, E WITH OGONEK AND ACUTE, E WITH
     OGONEK AND TILDE, E WITH DOT ABOVE AND ACUTE, E WITH DOT ABOVE AND TILDE, I WITH OGONEK AND
     ACUTE, I WITH OGONEK AND TILDE, J WITH TILDE, L WITH TILDE, M WITH TILDE, R WITH TILDE, U
     WITH OGONEK AND ACUTE, U WITH OGONEK AND TILDE, U WITH MACRON AND ACUTE, U WITH MACRON AND
     TILDE"),
  (2, "LATIN SMALL LETTER",
    "A WITH MACRON AND GRAVE, I WITH MACRON AND GRAVE, U WITH MACRON AND GRAVE, E WITH VERTICAL
     LINE BELOW, E WITH VERTICAL LINE BELOW AND GRAVE, E WITH VERTICAL LINE BELOW AND ACUTE, O
     WITH VERTICAL LINE BELOW, O WITH VERTICAL LINE BELOW AND GRAVE, O WITH VERTICAL LINE BELOW
     AND ACUTE, S WITH VERTICAL LINE BELOW, E WITH CIRCUMFLEX AND MACRON, E WITH CIRCUMFLEX AND
     CARON, A WITH OGONEK AND ACUTE, A WITH OGONEK AND TILDE, E WITH OGONEK AND ACUTE, E WITH
     OGONEK AND TILDE, E WITH DOT ABOVE AND ACUTE, E WITH DOT ABOVE AND TILDE, L WITH TILDE, M
     WITH TILDE, R WITH TILDE, U WITH OGONEK AND ACUTE, U WITH OGONEK AND TILDE, U WITH MACRON
     AND ACUTE, U WITH MACRON AND TILDE, AE WITH GRAVE, OPEN O WITH GRAVE, OPEN O WITH ACUTE,
     TURNED V WITH GRAVE, TURNED V WITH ACUTE, SCHWA WITH GRAVE, SCHWA WITH ACUTE, HOOKED SCHWA
     WITH GRAVE, HOOKED SCHWA WITH ACUTE"),
  (2, "ARABIC SEQUENCE",
    "YEH WITH HAMZA ABOVE WITH ALEF, YEH WITH HAMZA ABOVE WITH WAW, YEH WITH HAMZA ABOVE WITH
     ALEF MAKSURA, YEH WITH HAMZA ABOVE WITH OE, YEH WITH HAMZA ABOVE WITH U, YEH WITH HAMZA
     ABOVE WITH YU, YEH WITH HAMZA ABOVE WITH E, YEH WITH HAMZA ABOVE WITH AE, NOON WITH KEHEH"),
  (2, "DEVANAGARI SEQUENCE",
    "FOR LETTER QA, FOR LETTER KHHA, FOR LETTER GHHA, FOR LETTER ZA, FOR LETTER DDDHA, FOR LETTER
     RHA, FOR LETTER FA, FOR LETTER YYA"),
  (2, "BENGALI SEQUENCE",
    "FOR LETTER RRA, FOR LETTER RHA, FOR LETTER YYA"),
  (2, "GURMUKHI SEQUENCE",
    "FOR LETTER LLA, FOR LETTER SHA, FOR LETTER KHHA, FOR LETTER GHHA, FOR LETTER ZA, FOR LETTER
     FA"),
  (2, "ORIYA SEQUENCE",
    "FOR LETTER RRA, FOR LETTER RHA"),
  (2, "TAMIL CONSONANT",
    "K, NG, C, NY, TT, NN, T, N, P, M, Y, R, L, V, LLL, LL, RR, NNN, J, SH, SS, S, H"),
  (2, "TAMIL SYLLABLE",
    "KAA, KI, KII, KU, KUU, KE, KEE, KAI, KO, KOO, KAU, NGAA, NGI, NGII, NGU, NGUU, NGE, NGEE,
     NGAI, NGO, NGOO, NGAU, CAA, CI, CII, CU, CUU, CE, CEE, CAI, CO, COO, CAU, NYAA, NYI, NYII,
     NYU, NYUU, NYE, NYEE, NYAI, NYO, NYOO, NYAU, TTAA, TTI, TTII, TTU, TTUU, TTE, TTEE, TTAI,
     TTO, TTOO, TTAU, NNAA, NNI, NNII, NNU, NNUU, NNE, NNEE, NNAI, NNO, NNOO, NNAU, TAA, TI, TII,
     TU, TUU, TE, TEE, TAI, TO, TOO, TAU, NAA, NI, NII, NU, NUU, NE, NEE, NAI, NO, NOO, NAU, PAA,
     PI, PII, PU, PUU, PE, PEE, PAI, PO, POO, PAU, MAA, MI, MII, MU, MUU, ME, MEE, MAI, MO, MOO,
     MAU, YAA, YI, YII, YU, YUU, YE, YEE, YAI, YO, YOO, YAU, RAA, RI, RII, RU, RUU, RE, REE, RAI,
     RO, ROO, RAU, LAA, LI, LII, LU, LUU, LE, LEE, LAI, LO, LOO, LAU, VAA, VI, VII, VU, VUU, VE,
     VEE, VAI, VO, VOO, VAU, LLLAA, LLLI, LLLII, LLLU, LLLUU, LLLE, LLLEE, LLLAI, LLLO, LLLOO,
     LLLAU, LLAA, LLI, LLII, LLU, LLUU, LLE, LLEE, LLAI, LLO, LLOO, LLAU, RRAA, RRI, RRII, RRU,
     RRUU, RRE, RREE, RRAI, RRO, RROO, RRAU, NNNAA, NNNI, NNNII, NNNU, NNNUU, NNNE, NNNEE, NNNAI,
     NNNO, NNNOO, NNNAU, JAA, JI, JII, JU, JUU, JE, JEE, JAI, JO, JOO, JAU, SHAA, SHI, SHII, SHU,
     SHUU, SHE, SHEE, SHAI, SHO, SHOO, SHAU, SSAA, SSI, SSII, SSU, SSUU, SSE, SSEE, SSAI, SSO,
     SSOO, SSAU, SAA, SI, SII, SU, SUU, SE, SEE, SAI, SO, SOO, SAU, HAA, HI, HII, HU, HUU, HE,
     HEE, HAI, HO, HOO, HAU"),
  (2, "",
    "GEORGIAN LETTER U-BRJGU"),
  (2, "KHMER CONSONANT SIGN COENG",
    "KA, KHA, KO, KHO, NGO, CA, CHA, CO, CHO, NYO, DA, TTHA, DO, TTHO, NA, TA, THA, TO, THO, NO,
     BA, PHA, PO, PHO, MO, YO, RO, LO, VO, SHA, SSA, SA, HA, LA"),
  (2, "KHMER VOWEL SIGN",
    "COENG QA, OM, AAM"),
  (2, "KHMER INDEPENDENT VOWEL SIGN",
    "COENG QU, COENG RY, COENG RYY, COENG QE"),
  (2, "HIRAGANA LETTER",
    "BIDAKUON NGA, BIDAKUON NGI, BIDAKUON NGU, BIDAKUON NGE, BIDAKUON NGO"),
  (2, "KATAKANA LETTER",
    "BIDAKUON NGA, BIDAKUON NGI, BIDAKUON NGU, BIDAKUON NGE, BIDAKUON NGO, AINU CE, AINU TU, AINU
     TO, AINU P"),
  (2, "MODIFIER LETTER",
    "EXTRA-HIGH EXTRA-LOW CONTOUR TONE BAR, EXTRA-LOW EXTRA-HIGH CONTOUR TONE BAR"),
  (3, "KEYCAP",
    "NUMBER SIGN, ASTERISK"),
  (3, "KEYCAP DIGIT",
    "ZERO, ONE, TWO, THREE, FOUR, FIVE, SIX, SEVEN, EIGHT, NINE"),
  (3, "LATIN SMALL LETTER",
    "I WITH DOT ABOVE AND ACUTE, NG WITH TILDE ABOVE, I WITH DOT ABOVE AND GRAVE, I WITH DOT
     ABOVE AND TILDE, I WITH OGONEK AND DOT ABOVE AND ACUTE, I WITH OGONEK AND DOT ABOVE AND
     TILDE, J WITH DOT ABOVE AND TILDE"),
  (3, "",
    "BENGALI LETTER KHINYA"),
  (3, "TAMIL SYLLABLE",
    "KSSA"),
  (3, "SINHALA CONSONANT SIGN",
    "YANSAYA, RAKAARAANSAYA, REPAYA"),
  (4, "TAMIL CONSONANT",
    "KSS"),
  (4, "TAMIL SYLLABLE",
    "KSSAA, KSSI, KSSII, KSSU, KSSUU, KSSE, KSSEE, KSSAI, KSSO, KSSOO, KSSAU, SHRII")]

/-- A name in capitals, with single blanks between its words. -/
def standardWords (name : String) : String :=
  String.intercalate " " (items (String.ofList (name.toList.map Char.toUpper)))

/-- How many characters a name stands for, if they are several. Capitals do not matter. -/
def sequenceLength? (name : List Char) : Option Nat :=
  (sequenceTable.find? fun (_, front, ends) =>
    (ends.splitOn ",").any fun last =>
      standardWords (front ++ " " ++ last) = String.ofList (name.map Char.toUpper)).map Prod.fst

end FeedFilter.Unicode
