import EnvDoctor.Text.Digit
import EnvDoctor.Text.Names
import EnvDoctor.Text.Pieces

/-!
# Common names of characters

A table of names: letters and digits of the common scripts, punctuation, signs and symbols, control
and format characters by their other names and abbreviations too, and ideographs and Korean
syllables by rules.
-/

namespace EnvDoctor.Text

/-- Runs of named characters: the first code point, and the names from there on with commas
between them. -/
def namedRuns : List (Nat × List String) :=
  [
   (0x20, [
     "SPACE,EXCLAMATION MARK,QUOTATION MARK,NUMBER SIGN,DOLLAR SIGN,PERCENT SIGN,AMPERSAND",
     "APOSTROPHE,LEFT PARENTHESIS,RIGHT PARENTHESIS,ASTERISK,PLUS SIGN,COMMA,HYPHEN-MINUS",
     "FULL STOP,SOLIDUS,DIGIT ZERO,DIGIT ONE,DIGIT TWO,DIGIT THREE,DIGIT FOUR,DIGIT FIVE",
     "DIGIT SIX,DIGIT SEVEN,DIGIT EIGHT,DIGIT NINE,COLON,SEMICOLON,LESS-THAN SIGN,EQUALS SIGN",
     "GREATER-THAN SIGN,QUESTION MARK,COMMERCIAL AT,LATIN CAPITAL LETTER A",
     "LATIN CAPITAL LETTER B,LATIN CAPITAL LETTER C,LATIN CAPITAL LETTER D",
     "LATIN CAPITAL LETTER E,LATIN CAPITAL LETTER F,LATIN CAPITAL LETTER G",
     "LATIN CAPITAL LETTER H,LATIN CAPITAL LETTER I,LATIN CAPITAL LETTER J",
     "LATIN CAPITAL LETTER K,LATIN CAPITAL LETTER L,LATIN CAPITAL LETTER M",
     "LATIN CAPITAL LETTER N,LATIN CAPITAL LETTER O,LATIN CAPITAL LETTER P",
     "LATIN CAPITAL LETTER Q,LATIN CAPITAL LETTER R,LATIN CAPITAL LETTER S",
     "LATIN CAPITAL LETTER T,LATIN CAPITAL LETTER U,LATIN CAPITAL LETTER V",
     "LATIN CAPITAL LETTER W,LATIN CAPITAL LETTER X,LATIN CAPITAL LETTER Y",
     "LATIN CAPITAL LETTER Z,LEFT SQUARE BRACKET,REVERSE SOLIDUS,RIGHT SQUARE BRACKET",
     "CIRCUMFLEX ACCENT,LOW LINE,GRAVE ACCENT,LATIN SMALL LETTER A,LATIN SMALL LETTER B",
     "LATIN SMALL LETTER C,LATIN SMALL LETTER D,LATIN SMALL LETTER E,LATIN SMALL LETTER F",
     "LATIN SMALL LETTER G,LATIN SMALL LETTER H,LATIN SMALL LETTER I,LATIN SMALL LETTER J",
     "LATIN SMALL LETTER K,LATIN SMALL LETTER L,LATIN SMALL LETTER M,LATIN SMALL LETTER N",
     "LATIN SMALL LETTER O,LATIN SMALL LETTER P,LATIN SMALL LETTER Q,LATIN SMALL LETTER R",
     "LATIN SMALL LETTER S,LATIN SMALL LETTER T,LATIN SMALL LETTER U,LATIN SMALL LETTER V",
     "LATIN SMALL LETTER W,LATIN SMALL LETTER X,LATIN SMALL LETTER Y,LATIN SMALL LETTER Z",
     "LEFT CURLY BRACKET,VERTICAL LINE,RIGHT CURLY BRACKET,TILDE"]),
   (0xA0, [
     "NO-BREAK SPACE,INVERTED EXCLAMATION MARK,CENT SIGN,POUND SIGN,CURRENCY SIGN,YEN SIGN",
     "BROKEN BAR,SECTION SIGN,DIAERESIS,COPYRIGHT SIGN,FEMININE ORDINAL INDICATOR",
     "LEFT-POINTING DOUBLE ANGLE QUOTATION MARK,NOT SIGN,SOFT HYPHEN,REGISTERED SIGN,MACRON",
     "DEGREE SIGN,PLUS-MINUS SIGN,SUPERSCRIPT TWO,SUPERSCRIPT THREE,ACUTE ACCENT,MICRO SIGN",
     "PILCROW SIGN,MIDDLE DOT,CEDILLA,SUPERSCRIPT ONE,MASCULINE ORDINAL INDICATOR",
     "RIGHT-POINTING DOUBLE ANGLE QUOTATION MARK,VULGAR FRACTION ONE QUARTER",
     "VULGAR FRACTION ONE HALF,VULGAR FRACTION THREE QUARTERS,INVERTED QUESTION MARK",
     "LATIN CAPITAL LETTER A WITH GRAVE,LATIN CAPITAL LETTER A WITH ACUTE",
     "LATIN CAPITAL LETTER A WITH CIRCUMFLEX,LATIN CAPITAL LETTER A WITH TILDE",
     "LATIN CAPITAL LETTER A WITH DIAERESIS,LATIN CAPITAL LETTER A WITH RING ABOVE",
     "LATIN CAPITAL LETTER AE,LATIN CAPITAL LETTER C WITH CEDILLA",
     "LATIN CAPITAL LETTER E WITH GRAVE,LATIN CAPITAL LETTER E WITH ACUTE",
     "LATIN CAPITAL LETTER E WITH CIRCUMFLEX,LATIN CAPITAL LETTER E WITH DIAERESIS",
     "LATIN CAPITAL LETTER I WITH GRAVE,LATIN CAPITAL LETTER I WITH ACUTE",
     "LATIN CAPITAL LETTER I WITH CIRCUMFLEX,LATIN CAPITAL LETTER I WITH DIAERESIS",
     "LATIN CAPITAL LETTER ETH,LATIN CAPITAL LETTER N WITH TILDE",
     "LATIN CAPITAL LETTER O WITH GRAVE,LATIN CAPITAL LETTER O WITH ACUTE",
     "LATIN CAPITAL LETTER O WITH CIRCUMFLEX,LATIN CAPITAL LETTER O WITH TILDE",
     "LATIN CAPITAL LETTER O WITH DIAERESIS,MULTIPLICATION SIGN",
     "LATIN CAPITAL LETTER O WITH STROKE,LATIN CAPITAL LETTER U WITH GRAVE",
     "LATIN CAPITAL LETTER U WITH ACUTE,LATIN CAPITAL LETTER U WITH CIRCUMFLEX",
     "LATIN CAPITAL LETTER U WITH DIAERESIS,LATIN CAPITAL LETTER Y WITH ACUTE",
     "LATIN CAPITAL LETTER THORN,LATIN SMALL LETTER SHARP S,LATIN SMALL LETTER A WITH GRAVE",
     "LATIN SMALL LETTER A WITH ACUTE,LATIN SMALL LETTER A WITH CIRCUMFLEX",
     "LATIN SMALL LETTER A WITH TILDE,LATIN SMALL LETTER A WITH DIAERESIS",
     "LATIN SMALL LETTER A WITH RING ABOVE,LATIN SMALL LETTER AE",
     "LATIN SMALL LETTER C WITH CEDILLA,LATIN SMALL LETTER E WITH GRAVE",
     "LATIN SMALL LETTER E WITH ACUTE,LATIN SMALL LETTER E WITH CIRCUMFLEX",
     "LATIN SMALL LETTER E WITH DIAERESIS,LATIN SMALL LETTER I WITH GRAVE",
     "LATIN SMALL LETTER I WITH ACUTE,LATIN SMALL LETTER I WITH CIRCUMFLEX",
     "LATIN SMALL LETTER I WITH DIAERESIS,LATIN SMALL LETTER ETH",
     "LATIN SMALL LETTER N WITH TILDE,LATIN SMALL LETTER O WITH GRAVE",
     "LATIN SMALL LETTER O WITH ACUTE,LATIN SMALL LETTER O WITH CIRCUMFLEX",
     "LATIN SMALL LETTER O WITH TILDE,LATIN SMALL LETTER O WITH DIAERESIS,DIVISION SIGN",
     "LATIN SMALL LETTER O WITH STROKE,LATIN SMALL LETTER U WITH GRAVE",
     "LATIN SMALL LETTER U WITH ACUTE,LATIN SMALL LETTER U WITH CIRCUMFLEX",
     "LATIN SMALL LETTER U WITH DIAERESIS,LATIN SMALL LETTER Y WITH ACUTE",
     "LATIN SMALL LETTER THORN,LATIN SMALL LETTER Y WITH DIAERESIS",
     "LATIN CAPITAL LETTER A WITH MACRON,LATIN SMALL LETTER A WITH MACRON",
     "LATIN CAPITAL LETTER A WITH BREVE,LATIN SMALL LETTER A WITH BREVE",
     "LATIN CAPITAL LETTER A WITH OGONEK,LATIN SMALL LETTER A WITH OGONEK",
     "LATIN CAPITAL LETTER C WITH ACUTE,LATIN SMALL LETTER C WITH ACUTE",
     "LATIN CAPITAL LETTER C WITH CIRCUMFLEX,LATIN SMALL LETTER C WITH CIRCUMFLEX",
     "LATIN CAPITAL LETTER C WITH DOT ABOVE,LATIN SMALL LETTER C WITH DOT ABOVE",
     "LATIN CAPITAL LETTER C WITH CARON,LATIN SMALL LETTER C WITH CARON",
     "LATIN CAPITAL LETTER D WITH CARON,LATIN SMALL LETTER D WITH CARON",
     "LATIN CAPITAL LETTER D WITH STROKE,LATIN SMALL LETTER D WITH STROKE",
     "LATIN CAPITAL LETTER E WITH MACRON,LATIN SMALL LETTER E WITH MACRON",
     "LATIN CAPITAL LETTER E WITH BREVE,LATIN SMALL LETTER E WITH BREVE",
     "LATIN CAPITAL LETTER E WITH DOT ABOVE,LATIN SMALL LETTER E WITH DOT ABOVE",
     "LATIN CAPITAL LETTER E WITH OGONEK,LATIN SMALL LETTER E WITH OGONEK",
     "LATIN CAPITAL LETTER E WITH CARON,LATIN SMALL LETTER E WITH CARON",
     "LATIN CAPITAL LETTER G WITH CIRCUMFLEX,LATIN SMALL LETTER G WITH CIRCUMFLEX",
     "LATIN CAPITAL LETTER G WITH BREVE,LATIN SMALL LETTER G WITH BREVE",
     "LATIN CAPITAL LETTER G WITH DOT ABOVE,LATIN SMALL LETTER G WITH DOT ABOVE",
     "LATIN CAPITAL LETTER G WITH CEDILLA,LATIN SMALL LETTER G WITH CEDILLA",
     "LATIN CAPITAL LETTER H WITH CIRCUMFLEX,LATIN SMALL LETTER H WITH CIRCUMFLEX",
     "LATIN CAPITAL LETTER H WITH STROKE,LATIN SMALL LETTER H WITH STROKE",
     "LATIN CAPITAL LETTER I WITH TILDE,LATIN SMALL LETTER I WITH TILDE",
     "LATIN CAPITAL LETTER I WITH MACRON,LATIN SMALL LETTER I WITH MACRON",
     "LATIN CAPITAL LETTER I WITH BREVE,LATIN SMALL LETTER I WITH BREVE",
     "LATIN CAPITAL LETTER I WITH OGONEK,LATIN SMALL LETTER I WITH OGONEK",
     "LATIN CAPITAL LETTER I WITH DOT ABOVE,LATIN SMALL LETTER DOTLESS I",
     "LATIN CAPITAL LIGATURE IJ,LATIN SMALL LIGATURE IJ,LATIN CAPITAL LETTER J WITH CIRCUMFLEX",
     "LATIN SMALL LETTER J WITH CIRCUMFLEX,LATIN CAPITAL LETTER K WITH CEDILLA",
     "LATIN SMALL LETTER K WITH CEDILLA,LATIN SMALL LETTER KRA",
     "LATIN CAPITAL LETTER L WITH ACUTE,LATIN SMALL LETTER L WITH ACUTE",
     "LATIN CAPITAL LETTER L WITH CEDILLA,LATIN SMALL LETTER L WITH CEDILLA",
     "LATIN CAPITAL LETTER L WITH CARON,LATIN SMALL LETTER L WITH CARON",
     "LATIN CAPITAL LETTER L WITH MIDDLE DOT,LATIN SMALL LETTER L WITH MIDDLE DOT",
     "LATIN CAPITAL LETTER L WITH STROKE,LATIN SMALL LETTER L WITH STROKE",
     "LATIN CAPITAL LETTER N WITH ACUTE,LATIN SMALL LETTER N WITH ACUTE",
     "LATIN CAPITAL LETTER N WITH CEDILLA,LATIN SMALL LETTER N WITH CEDILLA",
     "LATIN CAPITAL LETTER N WITH CARON,LATIN SMALL LETTER N WITH CARON",
     "LATIN SMALL LETTER N PRECEDED BY APOSTROPHE,LATIN CAPITAL LETTER ENG",
     "LATIN SMALL LETTER ENG,LATIN CAPITAL LETTER O WITH MACRON",
     "LATIN SMALL LETTER O WITH MACRON,LATIN CAPITAL LETTER O WITH BREVE",
     "LATIN SMALL LETTER O WITH BREVE,LATIN CAPITAL LETTER O WITH DOUBLE ACUTE",
     "LATIN SMALL LETTER O WITH DOUBLE ACUTE,LATIN CAPITAL LIGATURE OE,LATIN SMALL LIGATURE OE",
     "LATIN CAPITAL LETTER R WITH ACUTE,LATIN SMALL LETTER R WITH ACUTE",
     "LATIN CAPITAL LETTER R WITH CEDILLA,LATIN SMALL LETTER R WITH CEDILLA",
     "LATIN CAPITAL LETTER R WITH CARON,LATIN SMALL LETTER R WITH CARON",
     "LATIN CAPITAL LETTER S WITH ACUTE,LATIN SMALL LETTER S WITH ACUTE",
     "LATIN CAPITAL LETTER S WITH CIRCUMFLEX,LATIN SMALL LETTER S WITH CIRCUMFLEX",
     "LATIN CAPITAL LETTER S WITH CEDILLA,LATIN SMALL LETTER S WITH CEDILLA",
     "LATIN CAPITAL LETTER S WITH CARON,LATIN SMALL LETTER S WITH CARON",
     "LATIN CAPITAL LETTER T WITH CEDILLA,LATIN SMALL LETTER T WITH CEDILLA",
     "LATIN CAPITAL LETTER T WITH CARON,LATIN SMALL LETTER T WITH CARON",
     "LATIN CAPITAL LETTER T WITH STROKE,LATIN SMALL LETTER T WITH STROKE",
     "LATIN CAPITAL LETTER U WITH TILDE,LATIN SMALL LETTER U WITH TILDE",
     "LATIN CAPITAL LETTER U WITH MACRON,LATIN SMALL LETTER U WITH MACRON",
     "LATIN CAPITAL LETTER U WITH BREVE,LATIN SMALL LETTER U WITH BREVE",
     "LATIN CAPITAL LETTER U WITH RING ABOVE,LATIN SMALL LETTER U WITH RING ABOVE",
     "LATIN CAPITAL LETTER U WITH DOUBLE ACUTE,LATIN SMALL LETTER U WITH DOUBLE ACUTE",
     "LATIN CAPITAL LETTER U WITH OGONEK,LATIN SMALL LETTER U WITH OGONEK",
     "LATIN CAPITAL LETTER W WITH CIRCUMFLEX,LATIN SMALL LETTER W WITH CIRCUMFLEX",
     "LATIN CAPITAL LETTER Y WITH CIRCUMFLEX,LATIN SMALL LETTER Y WITH CIRCUMFLEX",
     "LATIN CAPITAL LETTER Y WITH DIAERESIS,LATIN CAPITAL LETTER Z WITH ACUTE",
     "LATIN SMALL LETTER Z WITH ACUTE,LATIN CAPITAL LETTER Z WITH DOT ABOVE",
     "LATIN SMALL LETTER Z WITH DOT ABOVE,LATIN CAPITAL LETTER Z WITH CARON",
     "LATIN SMALL LETTER Z WITH CARON,LATIN SMALL LETTER LONG S"]),
   (0x192, ["LATIN SMALL LETTER F WITH HOOK"]),
   (0x1A2, ["LATIN CAPITAL LETTER OI,LATIN SMALL LETTER OI"]),
   (0x218, [
     "LATIN CAPITAL LETTER S WITH COMMA BELOW,LATIN SMALL LETTER S WITH COMMA BELOW",
     "LATIN CAPITAL LETTER T WITH COMMA BELOW,LATIN SMALL LETTER T WITH COMMA BELOW"]),
   (0x2BB, [
     "MODIFIER LETTER TURNED COMMA,MODIFIER LETTER APOSTROPHE,MODIFIER LETTER REVERSED COMMA"]),
   (0x2C6, ["MODIFIER LETTER CIRCUMFLEX ACCENT,CARON"]),
   (0x2D8, ["BREVE,DOT ABOVE,RING ABOVE,OGONEK,SMALL TILDE,DOUBLE ACUTE ACCENT"]),
   (0x300, [
     "COMBINING GRAVE ACCENT,COMBINING ACUTE ACCENT,COMBINING CIRCUMFLEX ACCENT,COMBINING TILDE",
     "COMBINING MACRON,COMBINING OVERLINE,COMBINING BREVE,COMBINING DOT ABOVE",
     "COMBINING DIAERESIS,COMBINING HOOK ABOVE,COMBINING RING ABOVE",
     "COMBINING DOUBLE ACUTE ACCENT,COMBINING CARON,COMBINING VERTICAL LINE ABOVE",
     "COMBINING DOUBLE VERTICAL LINE ABOVE,COMBINING DOUBLE GRAVE ACCENT"]),
   (0x327, ["COMBINING CEDILLA,COMBINING OGONEK"]),
   (0x34F, ["COMBINING GRAPHEME JOINER"]),
   (0x370, [
     "GREEK CAPITAL LETTER HETA,GREEK SMALL LETTER HETA,GREEK CAPITAL LETTER ARCHAIC SAMPI",
     "GREEK SMALL LETTER ARCHAIC SAMPI,GREEK NUMERAL SIGN,GREEK LOWER NUMERAL SIGN",
     "GREEK CAPITAL LETTER PAMPHYLIAN DIGAMMA,GREEK SMALL LETTER PAMPHYLIAN DIGAMMA"]),
   (0x37A, [
     "GREEK YPOGEGRAMMENI,GREEK SMALL REVERSED LUNATE SIGMA SYMBOL",
     "GREEK SMALL DOTTED LUNATE SIGMA SYMBOL,GREEK SMALL REVERSED DOTTED LUNATE SIGMA SYMBOL",
     "GREEK QUESTION MARK,GREEK CAPITAL LETTER YOT"]),
   (0x384, [
     "GREEK TONOS,GREEK DIALYTIKA TONOS,GREEK CAPITAL LETTER ALPHA WITH TONOS,GREEK ANO TELEIA",
     "GREEK CAPITAL LETTER EPSILON WITH TONOS,GREEK CAPITAL LETTER ETA WITH TONOS",
     "GREEK CAPITAL LETTER IOTA WITH TONOS"]),
   (0x38C, ["GREEK CAPITAL LETTER OMICRON WITH TONOS"]),
   (0x38E, [
     "GREEK CAPITAL LETTER UPSILON WITH TONOS,GREEK CAPITAL LETTER OMEGA WITH TONOS",
     "GREEK SMALL LETTER IOTA WITH DIALYTIKA AND TONOS,GREEK CAPITAL LETTER ALPHA",
     "GREEK CAPITAL LETTER BETA,GREEK CAPITAL LETTER GAMMA,GREEK CAPITAL LETTER DELTA",
     "GREEK CAPITAL LETTER EPSILON,GREEK CAPITAL LETTER ZETA,GREEK CAPITAL LETTER ETA",
     "GREEK CAPITAL LETTER THETA,GREEK CAPITAL LETTER IOTA,GREEK CAPITAL LETTER KAPPA",
     "GREEK CAPITAL LETTER LAMDA,GREEK CAPITAL LETTER MU,GREEK CAPITAL LETTER NU",
     "GREEK CAPITAL LETTER XI,GREEK CAPITAL LETTER OMICRON,GREEK CAPITAL LETTER PI",
     "GREEK CAPITAL LETTER RHO"]),
   (0x3A3, [
     "GREEK CAPITAL LETTER SIGMA,GREEK CAPITAL LETTER TAU,GREEK CAPITAL LETTER UPSILON",
     "GREEK CAPITAL LETTER PHI,GREEK CAPITAL LETTER CHI,GREEK CAPITAL LETTER PSI",
     "GREEK CAPITAL LETTER OMEGA,GREEK CAPITAL LETTER IOTA WITH DIALYTIKA",
     "GREEK CAPITAL LETTER UPSILON WITH DIALYTIKA,GREEK SMALL LETTER ALPHA WITH TONOS",
     "GREEK SMALL LETTER EPSILON WITH TONOS,GREEK SMALL LETTER ETA WITH TONOS",
     "GREEK SMALL LETTER IOTA WITH TONOS,GREEK SMALL LETTER UPSILON WITH DIALYTIKA AND TONOS",
     "GREEK SMALL LETTER ALPHA,GREEK SMALL LETTER BETA,GREEK SMALL LETTER GAMMA",
     "GREEK SMALL LETTER DELTA,GREEK SMALL LETTER EPSILON,GREEK SMALL LETTER ZETA",
     "GREEK SMALL LETTER ETA,GREEK SMALL LETTER THETA,GREEK SMALL LETTER IOTA",
     "GREEK SMALL LETTER KAPPA,GREEK SMALL LETTER LAMDA,GREEK SMALL LETTER MU",
     "GREEK SMALL LETTER NU,GREEK SMALL LETTER XI,GREEK SMALL LETTER OMICRON",
     "GREEK SMALL LETTER PI,GREEK SMALL LETTER RHO,GREEK SMALL LETTER FINAL SIGMA",
     "GREEK SMALL LETTER SIGMA,GREEK SMALL LETTER TAU,GREEK SMALL LETTER UPSILON",
     "GREEK SMALL LETTER PHI,GREEK SMALL LETTER CHI,GREEK SMALL LETTER PSI",
     "GREEK SMALL LETTER OMEGA,GREEK SMALL LETTER IOTA WITH DIALYTIKA",
     "GREEK SMALL LETTER UPSILON WITH DIALYTIKA,GREEK SMALL LETTER OMICRON WITH TONOS",
     "GREEK SMALL LETTER UPSILON WITH TONOS,GREEK SMALL LETTER OMEGA WITH TONOS",
     "GREEK CAPITAL KAI SYMBOL,GREEK BETA SYMBOL,GREEK THETA SYMBOL",
     "GREEK UPSILON WITH HOOK SYMBOL,GREEK UPSILON WITH ACUTE AND HOOK SYMBOL",
     "GREEK UPSILON WITH DIAERESIS AND HOOK SYMBOL,GREEK PHI SYMBOL,GREEK PI SYMBOL",
     "GREEK KAI SYMBOL,GREEK LETTER ARCHAIC KOPPA,GREEK SMALL LETTER ARCHAIC KOPPA",
     "GREEK LETTER STIGMA,GREEK SMALL LETTER STIGMA,GREEK LETTER DIGAMMA",
     "GREEK SMALL LETTER DIGAMMA,GREEK LETTER KOPPA,GREEK SMALL LETTER KOPPA,GREEK LETTER SAMPI",
     "GREEK SMALL LETTER SAMPI,COPTIC CAPITAL LETTER SHEI,COPTIC SMALL LETTER SHEI",
     "COPTIC CAPITAL LETTER FEI,COPTIC SMALL LETTER FEI,COPTIC CAPITAL LETTER KHEI",
     "COPTIC SMALL LETTER KHEI,COPTIC CAPITAL LETTER HORI,COPTIC SMALL LETTER HORI",
     "COPTIC CAPITAL LETTER GANGIA,COPTIC SMALL LETTER GANGIA,COPTIC CAPITAL LETTER SHIMA",
     "COPTIC SMALL LETTER SHIMA,COPTIC CAPITAL LETTER DEI,COPTIC SMALL LETTER DEI",
     "GREEK KAPPA SYMBOL,GREEK RHO SYMBOL,GREEK LUNATE SIGMA SYMBOL,GREEK LETTER YOT",
     "GREEK CAPITAL THETA SYMBOL,GREEK LUNATE EPSILON SYMBOL",
     "GREEK REVERSED LUNATE EPSILON SYMBOL,GREEK CAPITAL LETTER SHO,GREEK SMALL LETTER SHO",
     "GREEK CAPITAL LUNATE SIGMA SYMBOL,GREEK CAPITAL LETTER SAN,GREEK SMALL LETTER SAN",
     "GREEK RHO WITH STROKE SYMBOL,GREEK CAPITAL REVERSED LUNATE SIGMA SYMBOL",
     "GREEK CAPITAL DOTTED LUNATE SIGMA SYMBOL",
     "GREEK CAPITAL REVERSED DOTTED LUNATE SIGMA SYMBOL"]),
   (0x400, [
     "CYRILLIC CAPITAL LETTER IE WITH GRAVE,CYRILLIC CAPITAL LETTER IO",
     "CYRILLIC CAPITAL LETTER DJE,CYRILLIC CAPITAL LETTER GJE",
     "CYRILLIC CAPITAL LETTER UKRAINIAN IE,CYRILLIC CAPITAL LETTER DZE",
     "CYRILLIC CAPITAL LETTER BYELORUSSIAN-UKRAINIAN I,CYRILLIC CAPITAL LETTER YI",
     "CYRILLIC CAPITAL LETTER JE,CYRILLIC CAPITAL LETTER LJE,CYRILLIC CAPITAL LETTER NJE",
     "CYRILLIC CAPITAL LETTER TSHE,CYRILLIC CAPITAL LETTER KJE",
     "CYRILLIC CAPITAL LETTER I WITH GRAVE,CYRILLIC CAPITAL LETTER SHORT U",
     "CYRILLIC CAPITAL LETTER DZHE,CYRILLIC CAPITAL LETTER A,CYRILLIC CAPITAL LETTER BE",
     "CYRILLIC CAPITAL LETTER VE,CYRILLIC CAPITAL LETTER GHE,CYRILLIC CAPITAL LETTER DE",
     "CYRILLIC CAPITAL LETTER IE,CYRILLIC CAPITAL LETTER ZHE,CYRILLIC CAPITAL LETTER ZE",
     "CYRILLIC CAPITAL LETTER I,CYRILLIC CAPITAL LETTER SHORT I,CYRILLIC CAPITAL LETTER KA",
     "CYRILLIC CAPITAL LETTER EL,CYRILLIC CAPITAL LETTER EM,CYRILLIC CAPITAL LETTER EN",
     "CYRILLIC CAPITAL LETTER O,CYRILLIC CAPITAL LETTER PE,CYRILLIC CAPITAL LETTER ER",
     "CYRILLIC CAPITAL LETTER ES,CYRILLIC CAPITAL LETTER TE,CYRILLIC CAPITAL LETTER U",
     "CYRILLIC CAPITAL LETTER EF,CYRILLIC CAPITAL LETTER HA,CYRILLIC CAPITAL LETTER TSE",
     "CYRILLIC CAPITAL LETTER CHE,CYRILLIC CAPITAL LETTER SHA,CYRILLIC CAPITAL LETTER SHCHA",
     "CYRILLIC CAPITAL LETTER HARD SIGN,CYRILLIC CAPITAL LETTER YERU",
     "CYRILLIC CAPITAL LETTER SOFT SIGN,CYRILLIC CAPITAL LETTER E,CYRILLIC CAPITAL LETTER YU",
     "CYRILLIC CAPITAL LETTER YA,CYRILLIC SMALL LETTER A,CYRILLIC SMALL LETTER BE",
     "CYRILLIC SMALL LETTER VE,CYRILLIC SMALL LETTER GHE,CYRILLIC SMALL LETTER DE",
     "CYRILLIC SMALL LETTER IE,CYRILLIC SMALL LETTER ZHE,CYRILLIC SMALL LETTER ZE",
     "CYRILLIC SMALL LETTER I,CYRILLIC SMALL LETTER SHORT I,CYRILLIC SMALL LETTER KA",
     "CYRILLIC SMALL LETTER EL,CYRILLIC SMALL LETTER EM,CYRILLIC SMALL LETTER EN",
     "CYRILLIC SMALL LETTER O,CYRILLIC SMALL LETTER PE,CYRILLIC SMALL LETTER ER",
     "CYRILLIC SMALL LETTER ES,CYRILLIC SMALL LETTER TE,CYRILLIC SMALL LETTER U",
     "CYRILLIC SMALL LETTER EF,CYRILLIC SMALL LETTER HA,CYRILLIC SMALL LETTER TSE",
     "CYRILLIC SMALL LETTER CHE,CYRILLIC SMALL LETTER SHA,CYRILLIC SMALL LETTER SHCHA",
     "CYRILLIC SMALL LETTER HARD SIGN,CYRILLIC SMALL LETTER YERU",
     "CYRILLIC SMALL LETTER SOFT SIGN,CYRILLIC SMALL LETTER E,CYRILLIC SMALL LETTER YU",
     "CYRILLIC SMALL LETTER YA,CYRILLIC SMALL LETTER IE WITH GRAVE,CYRILLIC SMALL LETTER IO",
     "CYRILLIC SMALL LETTER DJE,CYRILLIC SMALL LETTER GJE,CYRILLIC SMALL LETTER UKRAINIAN IE",
     "CYRILLIC SMALL LETTER DZE,CYRILLIC SMALL LETTER BYELORUSSIAN-UKRAINIAN I",
     "CYRILLIC SMALL LETTER YI,CYRILLIC SMALL LETTER JE,CYRILLIC SMALL LETTER LJE",
     "CYRILLIC SMALL LETTER NJE,CYRILLIC SMALL LETTER TSHE,CYRILLIC SMALL LETTER KJE",
     "CYRILLIC SMALL LETTER I WITH GRAVE,CYRILLIC SMALL LETTER SHORT U",
     "CYRILLIC SMALL LETTER DZHE"]),
   (0x490, ["CYRILLIC CAPITAL LETTER GHE WITH UPTURN,CYRILLIC SMALL LETTER GHE WITH UPTURN"]),
   (0x5D0, [
     "HEBREW LETTER ALEF,HEBREW LETTER BET,HEBREW LETTER GIMEL,HEBREW LETTER DALET",
     "HEBREW LETTER HE,HEBREW LETTER VAV,HEBREW LETTER ZAYIN,HEBREW LETTER HET",
     "HEBREW LETTER TET,HEBREW LETTER YOD,HEBREW LETTER FINAL KAF,HEBREW LETTER KAF",
     "HEBREW LETTER LAMED,HEBREW LETTER FINAL MEM,HEBREW LETTER MEM,HEBREW LETTER FINAL NUN",
     "HEBREW LETTER NUN,HEBREW LETTER SAMEKH,HEBREW LETTER AYIN,HEBREW LETTER FINAL PE",
     "HEBREW LETTER PE,HEBREW LETTER FINAL TSADI,HEBREW LETTER TSADI,HEBREW LETTER QOF",
     "HEBREW LETTER RESH,HEBREW LETTER SHIN,HEBREW LETTER TAV"]),
   (0x60C, ["ARABIC COMMA"]),
   (0x61C, ["ARABIC LETTER MARK"]),
   (0x660, [
     "ARABIC-INDIC DIGIT ZERO,ARABIC-INDIC DIGIT ONE,ARABIC-INDIC DIGIT TWO",
     "ARABIC-INDIC DIGIT THREE,ARABIC-INDIC DIGIT FOUR,ARABIC-INDIC DIGIT FIVE",
     "ARABIC-INDIC DIGIT SIX,ARABIC-INDIC DIGIT SEVEN,ARABIC-INDIC DIGIT EIGHT",
     "ARABIC-INDIC DIGIT NINE"]),
   (0x6F0, [
     "EXTENDED ARABIC-INDIC DIGIT ZERO,EXTENDED ARABIC-INDIC DIGIT ONE",
     "EXTENDED ARABIC-INDIC DIGIT TWO,EXTENDED ARABIC-INDIC DIGIT THREE",
     "EXTENDED ARABIC-INDIC DIGIT FOUR,EXTENDED ARABIC-INDIC DIGIT FIVE",
     "EXTENDED ARABIC-INDIC DIGIT SIX,EXTENDED ARABIC-INDIC DIGIT SEVEN",
     "EXTENDED ARABIC-INDIC DIGIT EIGHT,EXTENDED ARABIC-INDIC DIGIT NINE"]),
   (0x966, [
     "DEVANAGARI DIGIT ZERO,DEVANAGARI DIGIT ONE,DEVANAGARI DIGIT TWO,DEVANAGARI DIGIT THREE",
     "DEVANAGARI DIGIT FOUR,DEVANAGARI DIGIT FIVE,DEVANAGARI DIGIT SIX,DEVANAGARI DIGIT SEVEN",
     "DEVANAGARI DIGIT EIGHT,DEVANAGARI DIGIT NINE"]),
   (0x1680, ["OGHAM SPACE MARK"]),
   (0x180E, ["MONGOLIAN VOWEL SEPARATOR"]),
   (0x1E9E, ["LATIN CAPITAL LETTER SHARP S"]),
   (0x2000, [
     "EN QUAD,EM QUAD,EN SPACE,EM SPACE,THREE-PER-EM SPACE,FOUR-PER-EM SPACE,SIX-PER-EM SPACE",
     "FIGURE SPACE,PUNCTUATION SPACE,THIN SPACE,HAIR SPACE,ZERO WIDTH SPACE",
     "ZERO WIDTH NON-JOINER,ZERO WIDTH JOINER,LEFT-TO-RIGHT MARK,RIGHT-TO-LEFT MARK,HYPHEN",
     "NON-BREAKING HYPHEN,FIGURE DASH,EN DASH,EM DASH,HORIZONTAL BAR,DOUBLE VERTICAL LINE",
     "DOUBLE LOW LINE,LEFT SINGLE QUOTATION MARK,RIGHT SINGLE QUOTATION MARK",
     "SINGLE LOW-9 QUOTATION MARK,SINGLE HIGH-REVERSED-9 QUOTATION MARK",
     "LEFT DOUBLE QUOTATION MARK,RIGHT DOUBLE QUOTATION MARK,DOUBLE LOW-9 QUOTATION MARK",
     "DOUBLE HIGH-REVERSED-9 QUOTATION MARK,DAGGER,DOUBLE DAGGER,BULLET,TRIANGULAR BULLET",
     "ONE DOT LEADER,TWO DOT LEADER,HORIZONTAL ELLIPSIS,HYPHENATION POINT,LINE SEPARATOR",
     "PARAGRAPH SEPARATOR,LEFT-TO-RIGHT EMBEDDING,RIGHT-TO-LEFT EMBEDDING",
     "POP DIRECTIONAL FORMATTING,LEFT-TO-RIGHT OVERRIDE,RIGHT-TO-LEFT OVERRIDE",
     "NARROW NO-BREAK SPACE,PER MILLE SIGN,PER TEN THOUSAND SIGN,PRIME,DOUBLE PRIME",
     "TRIPLE PRIME,REVERSED PRIME,REVERSED DOUBLE PRIME,REVERSED TRIPLE PRIME,CARET",
     "SINGLE LEFT-POINTING ANGLE QUOTATION MARK,SINGLE RIGHT-POINTING ANGLE QUOTATION MARK",
     "REFERENCE MARK,DOUBLE EXCLAMATION MARK,INTERROBANG,OVERLINE,UNDERTIE,CHARACTER TIE",
     "CARET INSERTION POINT,ASTERISM,HYPHEN BULLET,FRACTION SLASH",
     "LEFT SQUARE BRACKET WITH QUILL,RIGHT SQUARE BRACKET WITH QUILL,DOUBLE QUESTION MARK",
     "QUESTION EXCLAMATION MARK,EXCLAMATION QUESTION MARK,TIRONIAN SIGN ET",
     "REVERSED PILCROW SIGN,BLACK LEFTWARDS BULLET,BLACK RIGHTWARDS BULLET,LOW ASTERISK",
     "REVERSED SEMICOLON,CLOSE UP,TWO ASTERISKS ALIGNED VERTICALLY,COMMERCIAL MINUS SIGN",
     "SWUNG DASH,INVERTED UNDERTIE,FLOWER PUNCTUATION MARK,THREE DOT PUNCTUATION",
     "QUADRUPLE PRIME,FOUR DOT PUNCTUATION,FIVE DOT PUNCTUATION,TWO DOT PUNCTUATION",
     "FOUR DOT MARK,DOTTED CROSS,TRICOLON,VERTICAL FOUR DOTS,MEDIUM MATHEMATICAL SPACE",
     "WORD JOINER,FUNCTION APPLICATION,INVISIBLE TIMES,INVISIBLE SEPARATOR,INVISIBLE PLUS"]),
   (0x2066, [
     "LEFT-TO-RIGHT ISOLATE,RIGHT-TO-LEFT ISOLATE,FIRST STRONG ISOLATE,POP DIRECTIONAL ISOLATE",
     "INHIBIT SYMMETRIC SWAPPING,ACTIVATE SYMMETRIC SWAPPING,INHIBIT ARABIC FORM SHAPING",
     "ACTIVATE ARABIC FORM SHAPING,NATIONAL DIGIT SHAPES,NOMINAL DIGIT SHAPES,SUPERSCRIPT ZERO",
     "SUPERSCRIPT LATIN SMALL LETTER I"]),
   (0x2074, [
     "SUPERSCRIPT FOUR,SUPERSCRIPT FIVE,SUPERSCRIPT SIX,SUPERSCRIPT SEVEN,SUPERSCRIPT EIGHT",
     "SUPERSCRIPT NINE,SUPERSCRIPT PLUS SIGN,SUPERSCRIPT MINUS,SUPERSCRIPT EQUALS SIGN",
     "SUPERSCRIPT LEFT PARENTHESIS,SUPERSCRIPT RIGHT PARENTHESIS",
     "SUPERSCRIPT LATIN SMALL LETTER N,SUBSCRIPT ZERO,SUBSCRIPT ONE,SUBSCRIPT TWO",
     "SUBSCRIPT THREE,SUBSCRIPT FOUR,SUBSCRIPT FIVE,SUBSCRIPT SIX,SUBSCRIPT SEVEN",
     "SUBSCRIPT EIGHT,SUBSCRIPT NINE,SUBSCRIPT PLUS SIGN,SUBSCRIPT MINUS,SUBSCRIPT EQUALS SIGN",
     "SUBSCRIPT LEFT PARENTHESIS,SUBSCRIPT RIGHT PARENTHESIS"]),
   (0x20A0, [
     "EURO-CURRENCY SIGN,COLON SIGN,CRUZEIRO SIGN,FRENCH FRANC SIGN,LIRA SIGN,MILL SIGN",
     "NAIRA SIGN,PESETA SIGN,RUPEE SIGN,WON SIGN,NEW SHEQEL SIGN,DONG SIGN,EURO SIGN,KIP SIGN",
     "TUGRIK SIGN,DRACHMA SIGN,GERMAN PENNY SIGN,PESO SIGN,GUARANI SIGN,AUSTRAL SIGN",
     "HRYVNIA SIGN,CEDI SIGN,LIVRE TOURNOIS SIGN,SPESMILO SIGN,TENGE SIGN,INDIAN RUPEE SIGN",
     "TURKISH LIRA SIGN,NORDIC MARK SIGN,MANAT SIGN,RUBLE SIGN,LARI SIGN,BITCOIN SIGN,SOM SIGN"]),
   (0x2100, [
     "ACCOUNT OF,ADDRESSED TO THE SUBJECT,DOUBLE-STRUCK CAPITAL C,DEGREE CELSIUS",
     "CENTRE LINE SYMBOL,CARE OF,CADA UNA,EULER CONSTANT,SCRUPLE,DEGREE FAHRENHEIT",
     "SCRIPT SMALL G,SCRIPT CAPITAL H,BLACK-LETTER CAPITAL H,DOUBLE-STRUCK CAPITAL H",
     "PLANCK CONSTANT,PLANCK CONSTANT OVER TWO PI,SCRIPT CAPITAL I,BLACK-LETTER CAPITAL I",
     "SCRIPT CAPITAL L,SCRIPT SMALL L,L B BAR SYMBOL,DOUBLE-STRUCK CAPITAL N,NUMERO SIGN",
     "SOUND RECORDING COPYRIGHT,SCRIPT CAPITAL P,DOUBLE-STRUCK CAPITAL P",
     "DOUBLE-STRUCK CAPITAL Q,SCRIPT CAPITAL R,BLACK-LETTER CAPITAL R,DOUBLE-STRUCK CAPITAL R",
     "PRESCRIPTION TAKE,RESPONSE,SERVICE MARK,TELEPHONE SIGN,TRADE MARK SIGN,VERSICLE",
     "DOUBLE-STRUCK CAPITAL Z,OUNCE SIGN,OHM SIGN,INVERTED OHM SIGN,BLACK-LETTER CAPITAL Z",
     "TURNED GREEK SMALL LETTER IOTA,KELVIN SIGN,ANGSTROM SIGN,SCRIPT CAPITAL B",
     "BLACK-LETTER CAPITAL C,ESTIMATED SYMBOL,SCRIPT SMALL E,SCRIPT CAPITAL E,SCRIPT CAPITAL F",
     "TURNED CAPITAL F,SCRIPT CAPITAL M,SCRIPT SMALL O,ALEF SYMBOL,BET SYMBOL,GIMEL SYMBOL",
     "DALET SYMBOL,INFORMATION SOURCE,ROTATED CAPITAL Q,FACSIMILE SIGN,DOUBLE-STRUCK SMALL PI",
     "DOUBLE-STRUCK SMALL GAMMA,DOUBLE-STRUCK CAPITAL GAMMA,DOUBLE-STRUCK CAPITAL PI",
     "DOUBLE-STRUCK N-ARY SUMMATION,TURNED SANS-SERIF CAPITAL G,TURNED SANS-SERIF CAPITAL L",
     "REVERSED SANS-SERIF CAPITAL L,TURNED SANS-SERIF CAPITAL Y,DOUBLE-STRUCK ITALIC CAPITAL D",
     "DOUBLE-STRUCK ITALIC SMALL D,DOUBLE-STRUCK ITALIC SMALL E,DOUBLE-STRUCK ITALIC SMALL I",
     "DOUBLE-STRUCK ITALIC SMALL J,PROPERTY LINE,TURNED AMPERSAND,PER SIGN,AKTIESELSKAB",
     "TURNED SMALL F,SYMBOL FOR SAMARITAN SOURCE"]),
   (0x2150, [
     "VULGAR FRACTION ONE SEVENTH,VULGAR FRACTION ONE NINTH,VULGAR FRACTION ONE TENTH",
     "VULGAR FRACTION ONE THIRD,VULGAR FRACTION TWO THIRDS,VULGAR FRACTION ONE FIFTH",
     "VULGAR FRACTION TWO FIFTHS,VULGAR FRACTION THREE FIFTHS,VULGAR FRACTION FOUR FIFTHS",
     "VULGAR FRACTION ONE SIXTH,VULGAR FRACTION FIVE SIXTHS,VULGAR FRACTION ONE EIGHTH",
     "VULGAR FRACTION THREE EIGHTHS,VULGAR FRACTION FIVE EIGHTHS,VULGAR FRACTION SEVEN EIGHTHS",
     "FRACTION NUMERATOR ONE,ROMAN NUMERAL ONE,ROMAN NUMERAL TWO,ROMAN NUMERAL THREE",
     "ROMAN NUMERAL FOUR,ROMAN NUMERAL FIVE,ROMAN NUMERAL SIX,ROMAN NUMERAL SEVEN",
     "ROMAN NUMERAL EIGHT,ROMAN NUMERAL NINE,ROMAN NUMERAL TEN,ROMAN NUMERAL ELEVEN",
     "ROMAN NUMERAL TWELVE,ROMAN NUMERAL FIFTY,ROMAN NUMERAL ONE HUNDRED",
     "ROMAN NUMERAL FIVE HUNDRED,ROMAN NUMERAL ONE THOUSAND,SMALL ROMAN NUMERAL ONE",
     "SMALL ROMAN NUMERAL TWO,SMALL ROMAN NUMERAL THREE,SMALL ROMAN NUMERAL FOUR",
     "SMALL ROMAN NUMERAL FIVE,SMALL ROMAN NUMERAL SIX,SMALL ROMAN NUMERAL SEVEN",
     "SMALL ROMAN NUMERAL EIGHT,SMALL ROMAN NUMERAL NINE,SMALL ROMAN NUMERAL TEN",
     "SMALL ROMAN NUMERAL ELEVEN,SMALL ROMAN NUMERAL TWELVE,SMALL ROMAN NUMERAL FIFTY",
     "SMALL ROMAN NUMERAL ONE HUNDRED,SMALL ROMAN NUMERAL FIVE HUNDRED",
     "SMALL ROMAN NUMERAL ONE THOUSAND,ROMAN NUMERAL ONE THOUSAND C D",
     "ROMAN NUMERAL FIVE THOUSAND,ROMAN NUMERAL TEN THOUSAND,ROMAN NUMERAL REVERSED ONE HUNDRED",
     "LATIN SMALL LETTER REVERSED C,ROMAN NUMERAL SIX LATE FORM,ROMAN NUMERAL FIFTY EARLY FORM",
     "ROMAN NUMERAL FIFTY THOUSAND,ROMAN NUMERAL ONE HUNDRED THOUSAND"]),
   (0x2190, [
     "LEFTWARDS ARROW,UPWARDS ARROW,RIGHTWARDS ARROW,DOWNWARDS ARROW,LEFT RIGHT ARROW",
     "UP DOWN ARROW,NORTH WEST ARROW,NORTH EAST ARROW,SOUTH EAST ARROW,SOUTH WEST ARROW",
     "LEFTWARDS ARROW WITH STROKE,RIGHTWARDS ARROW WITH STROKE,LEFTWARDS WAVE ARROW",
     "RIGHTWARDS WAVE ARROW,LEFTWARDS TWO HEADED ARROW,UPWARDS TWO HEADED ARROW",
     "RIGHTWARDS TWO HEADED ARROW,DOWNWARDS TWO HEADED ARROW,LEFTWARDS ARROW WITH TAIL",
     "RIGHTWARDS ARROW WITH TAIL,LEFTWARDS ARROW FROM BAR,UPWARDS ARROW FROM BAR",
     "RIGHTWARDS ARROW FROM BAR,DOWNWARDS ARROW FROM BAR,UP DOWN ARROW WITH BASE",
     "LEFTWARDS ARROW WITH HOOK,RIGHTWARDS ARROW WITH HOOK,LEFTWARDS ARROW WITH LOOP",
     "RIGHTWARDS ARROW WITH LOOP,LEFT RIGHT WAVE ARROW,LEFT RIGHT ARROW WITH STROKE",
     "DOWNWARDS ZIGZAG ARROW,UPWARDS ARROW WITH TIP LEFTWARDS,UPWARDS ARROW WITH TIP RIGHTWARDS",
     "DOWNWARDS ARROW WITH TIP LEFTWARDS,DOWNWARDS ARROW WITH TIP RIGHTWARDS",
     "RIGHTWARDS ARROW WITH CORNER DOWNWARDS,DOWNWARDS ARROW WITH CORNER LEFTWARDS",
     "ANTICLOCKWISE TOP SEMICIRCLE ARROW,CLOCKWISE TOP SEMICIRCLE ARROW",
     "NORTH WEST ARROW TO LONG BAR,LEFTWARDS ARROW TO BAR OVER RIGHTWARDS ARROW TO BAR",
     "ANTICLOCKWISE OPEN CIRCLE ARROW,CLOCKWISE OPEN CIRCLE ARROW",
     "LEFTWARDS HARPOON WITH BARB UPWARDS,LEFTWARDS HARPOON WITH BARB DOWNWARDS",
     "UPWARDS HARPOON WITH BARB RIGHTWARDS,UPWARDS HARPOON WITH BARB LEFTWARDS",
     "RIGHTWARDS HARPOON WITH BARB UPWARDS,RIGHTWARDS HARPOON WITH BARB DOWNWARDS",
     "DOWNWARDS HARPOON WITH BARB RIGHTWARDS,DOWNWARDS HARPOON WITH BARB LEFTWARDS",
     "RIGHTWARDS ARROW OVER LEFTWARDS ARROW,UPWARDS ARROW LEFTWARDS OF DOWNWARDS ARROW",
     "LEFTWARDS ARROW OVER RIGHTWARDS ARROW,LEFTWARDS PAIRED ARROWS,UPWARDS PAIRED ARROWS",
     "RIGHTWARDS PAIRED ARROWS,DOWNWARDS PAIRED ARROWS",
     "LEFTWARDS HARPOON OVER RIGHTWARDS HARPOON,RIGHTWARDS HARPOON OVER LEFTWARDS HARPOON",
     "LEFTWARDS DOUBLE ARROW WITH STROKE,LEFT RIGHT DOUBLE ARROW WITH STROKE",
     "RIGHTWARDS DOUBLE ARROW WITH STROKE,LEFTWARDS DOUBLE ARROW,UPWARDS DOUBLE ARROW",
     "RIGHTWARDS DOUBLE ARROW,DOWNWARDS DOUBLE ARROW,LEFT RIGHT DOUBLE ARROW",
     "UP DOWN DOUBLE ARROW,NORTH WEST DOUBLE ARROW,NORTH EAST DOUBLE ARROW",
     "SOUTH EAST DOUBLE ARROW,SOUTH WEST DOUBLE ARROW,LEFTWARDS TRIPLE ARROW",
     "RIGHTWARDS TRIPLE ARROW,LEFTWARDS SQUIGGLE ARROW,RIGHTWARDS SQUIGGLE ARROW",
     "UPWARDS ARROW WITH DOUBLE STROKE,DOWNWARDS ARROW WITH DOUBLE STROKE",
     "LEFTWARDS DASHED ARROW,UPWARDS DASHED ARROW,RIGHTWARDS DASHED ARROW",
     "DOWNWARDS DASHED ARROW,LEFTWARDS ARROW TO BAR,RIGHTWARDS ARROW TO BAR",
     "LEFTWARDS WHITE ARROW,UPWARDS WHITE ARROW,RIGHTWARDS WHITE ARROW,DOWNWARDS WHITE ARROW",
     "UPWARDS WHITE ARROW FROM BAR,UPWARDS WHITE ARROW ON PEDESTAL",
     "UPWARDS WHITE ARROW ON PEDESTAL WITH HORIZONTAL BAR",
     "UPWARDS WHITE ARROW ON PEDESTAL WITH VERTICAL BAR,UPWARDS WHITE DOUBLE ARROW",
     "UPWARDS WHITE DOUBLE ARROW ON PEDESTAL,RIGHTWARDS WHITE ARROW FROM WALL",
     "NORTH WEST ARROW TO CORNER,SOUTH EAST ARROW TO CORNER,UP DOWN WHITE ARROW",
     "RIGHT ARROW WITH SMALL CIRCLE,DOWNWARDS ARROW LEFTWARDS OF UPWARDS ARROW",
     "THREE RIGHTWARDS ARROWS,LEFTWARDS ARROW WITH VERTICAL STROKE",
     "RIGHTWARDS ARROW WITH VERTICAL STROKE,LEFT RIGHT ARROW WITH VERTICAL STROKE",
     "LEFTWARDS ARROW WITH DOUBLE VERTICAL STROKE,RIGHTWARDS ARROW WITH DOUBLE VERTICAL STROKE",
     "LEFT RIGHT ARROW WITH DOUBLE VERTICAL STROKE,LEFTWARDS OPEN-HEADED ARROW",
     "RIGHTWARDS OPEN-HEADED ARROW,LEFT RIGHT OPEN-HEADED ARROW"]),
   (0x2200, [
     "FOR ALL,COMPLEMENT,PARTIAL DIFFERENTIAL,THERE EXISTS,THERE DOES NOT EXIST,EMPTY SET",
     "INCREMENT,NABLA,ELEMENT OF,NOT AN ELEMENT OF,SMALL ELEMENT OF,CONTAINS AS MEMBER",
     "DOES NOT CONTAIN AS MEMBER,SMALL CONTAINS AS MEMBER,END OF PROOF,N-ARY PRODUCT",
     "N-ARY COPRODUCT,N-ARY SUMMATION,MINUS SIGN,MINUS-OR-PLUS SIGN,DOT PLUS,DIVISION SLASH",
     "SET MINUS,ASTERISK OPERATOR,RING OPERATOR,BULLET OPERATOR,SQUARE ROOT,CUBE ROOT",
     "FOURTH ROOT,PROPORTIONAL TO,INFINITY,RIGHT ANGLE,ANGLE,MEASURED ANGLE,SPHERICAL ANGLE",
     "DIVIDES,DOES NOT DIVIDE,PARALLEL TO,NOT PARALLEL TO,LOGICAL AND,LOGICAL OR,INTERSECTION",
     "UNION,INTEGRAL,DOUBLE INTEGRAL,TRIPLE INTEGRAL,CONTOUR INTEGRAL,SURFACE INTEGRAL",
     "VOLUME INTEGRAL,CLOCKWISE INTEGRAL,CLOCKWISE CONTOUR INTEGRAL",
     "ANTICLOCKWISE CONTOUR INTEGRAL,THEREFORE,BECAUSE,RATIO,PROPORTION,DOT MINUS,EXCESS",
     "GEOMETRIC PROPORTION,HOMOTHETIC,TILDE OPERATOR,REVERSED TILDE,INVERTED LAZY S,SINE WAVE",
     "WREATH PRODUCT,NOT TILDE,MINUS TILDE,ASYMPTOTICALLY EQUAL TO,NOT ASYMPTOTICALLY EQUAL TO",
     "APPROXIMATELY EQUAL TO,APPROXIMATELY BUT NOT ACTUALLY EQUAL TO",
     "NEITHER APPROXIMATELY NOR ACTUALLY EQUAL TO,ALMOST EQUAL TO,NOT ALMOST EQUAL TO",
     "ALMOST EQUAL OR EQUAL TO,TRIPLE TILDE,ALL EQUAL TO,EQUIVALENT TO",
     "GEOMETRICALLY EQUIVALENT TO,DIFFERENCE BETWEEN,APPROACHES THE LIMIT",
     "GEOMETRICALLY EQUAL TO,APPROXIMATELY EQUAL TO OR THE IMAGE OF",
     "IMAGE OF OR APPROXIMATELY EQUAL TO,COLON EQUALS,EQUALS COLON,RING IN EQUAL TO",
     "RING EQUAL TO,CORRESPONDS TO,ESTIMATES,EQUIANGULAR TO,STAR EQUALS,DELTA EQUAL TO",
     "EQUAL TO BY DEFINITION,MEASURED BY,QUESTIONED EQUAL TO,NOT EQUAL TO,IDENTICAL TO",
     "NOT IDENTICAL TO,STRICTLY EQUIVALENT TO,LESS-THAN OR EQUAL TO,GREATER-THAN OR EQUAL TO",
     "LESS-THAN OVER EQUAL TO,GREATER-THAN OVER EQUAL TO,LESS-THAN BUT NOT EQUAL TO",
     "GREATER-THAN BUT NOT EQUAL TO,MUCH LESS-THAN,MUCH GREATER-THAN,BETWEEN,NOT EQUIVALENT TO",
     "NOT LESS-THAN,NOT GREATER-THAN,NEITHER LESS-THAN NOR EQUAL TO",
     "NEITHER GREATER-THAN NOR EQUAL TO,LESS-THAN OR EQUIVALENT TO",
     "GREATER-THAN OR EQUIVALENT TO,NEITHER LESS-THAN NOR EQUIVALENT TO",
     "NEITHER GREATER-THAN NOR EQUIVALENT TO,LESS-THAN OR GREATER-THAN",
     "GREATER-THAN OR LESS-THAN,NEITHER LESS-THAN NOR GREATER-THAN",
     "NEITHER GREATER-THAN NOR LESS-THAN,PRECEDES,SUCCEEDS,PRECEDES OR EQUAL TO",
     "SUCCEEDS OR EQUAL TO,PRECEDES OR EQUIVALENT TO,SUCCEEDS OR EQUIVALENT TO,DOES NOT PRECEDE",
     "DOES NOT SUCCEED,SUBSET OF,SUPERSET OF,NOT A SUBSET OF,NOT A SUPERSET OF",
     "SUBSET OF OR EQUAL TO,SUPERSET OF OR EQUAL TO,NEITHER A SUBSET OF NOR EQUAL TO",
     "NEITHER A SUPERSET OF NOR EQUAL TO,SUBSET OF WITH NOT EQUAL TO",
     "SUPERSET OF WITH NOT EQUAL TO,MULTISET,MULTISET MULTIPLICATION,MULTISET UNION",
     "SQUARE IMAGE OF"]),
   (0x2291, ["SQUARE IMAGE OF OR EQUAL TO"]),
   (0x2293, [
     "SQUARE CAP,SQUARE CUP,CIRCLED PLUS,CIRCLED MINUS,CIRCLED TIMES,CIRCLED DIVISION SLASH",
     "CIRCLED DOT OPERATOR,CIRCLED RING OPERATOR,CIRCLED ASTERISK OPERATOR,CIRCLED EQUALS",
     "CIRCLED DASH,SQUARED PLUS,SQUARED MINUS,SQUARED TIMES,SQUARED DOT OPERATOR,RIGHT TACK",
     "LEFT TACK,DOWN TACK,UP TACK,ASSERTION,MODELS,TRUE,FORCES",
     "TRIPLE VERTICAL BAR RIGHT TURNSTILE,DOUBLE VERTICAL BAR DOUBLE RIGHT TURNSTILE",
     "DOES NOT PROVE,NOT TRUE,DOES NOT FORCE,NEGATED DOUBLE VERTICAL BAR DOUBLE RIGHT TURNSTILE",
     "PRECEDES UNDER RELATION,SUCCEEDS UNDER RELATION,NORMAL SUBGROUP OF",
     "CONTAINS AS NORMAL SUBGROUP,NORMAL SUBGROUP OF OR EQUAL TO",
     "CONTAINS AS NORMAL SUBGROUP OR EQUAL TO"]),
   (0x22B7, [
     "IMAGE OF,MULTIMAP,HERMITIAN CONJUGATE MATRIX,INTERCALATE,XOR,NAND,NOR",
     "RIGHT ANGLE WITH ARC,RIGHT TRIANGLE,N-ARY LOGICAL AND,N-ARY LOGICAL OR,N-ARY INTERSECTION",
     "N-ARY UNION,DIAMOND OPERATOR,DOT OPERATOR,STAR OPERATOR,DIVISION TIMES,BOWTIE",
     "LEFT NORMAL FACTOR SEMIDIRECT PRODUCT,RIGHT NORMAL FACTOR SEMIDIRECT PRODUCT",
     "LEFT SEMIDIRECT PRODUCT,RIGHT SEMIDIRECT PRODUCT,REVERSED TILDE EQUALS,CURLY LOGICAL OR",
     "CURLY LOGICAL AND,DOUBLE SUBSET,DOUBLE SUPERSET,DOUBLE INTERSECTION,DOUBLE UNION",
     "PITCHFORK,EQUAL AND PARALLEL TO,LESS-THAN WITH DOT,GREATER-THAN WITH DOT",
     "VERY MUCH LESS-THAN,VERY MUCH GREATER-THAN,LESS-THAN EQUAL TO OR GREATER-THAN",
     "GREATER-THAN EQUAL TO OR LESS-THAN,EQUAL TO OR LESS-THAN,EQUAL TO OR GREATER-THAN",
     "EQUAL TO OR PRECEDES,EQUAL TO OR SUCCEEDS,DOES NOT PRECEDE OR EQUAL",
     "DOES NOT SUCCEED OR EQUAL,NOT SQUARE IMAGE OF OR EQUAL TO"]),
   (0x22E4, ["SQUARE IMAGE OF OR NOT EQUAL TO"]),
   (0x22E6, [
     "LESS-THAN BUT NOT EQUIVALENT TO,GREATER-THAN BUT NOT EQUIVALENT TO",
     "PRECEDES BUT NOT EQUIVALENT TO,SUCCEEDS BUT NOT EQUIVALENT TO,NOT NORMAL SUBGROUP OF",
     "DOES NOT CONTAIN AS NORMAL SUBGROUP,NOT NORMAL SUBGROUP OF OR EQUAL TO",
     "DOES NOT CONTAIN AS NORMAL SUBGROUP OR EQUAL,VERTICAL ELLIPSIS",
     "MIDLINE HORIZONTAL ELLIPSIS,UP RIGHT DIAGONAL ELLIPSIS,DOWN RIGHT DIAGONAL ELLIPSIS",
     "ELEMENT OF WITH LONG HORIZONTAL STROKE",
     "ELEMENT OF WITH VERTICAL BAR AT END OF HORIZONTAL STROKE",
     "SMALL ELEMENT OF WITH VERTICAL BAR AT END OF HORIZONTAL STROKE,ELEMENT OF WITH DOT ABOVE",
     "ELEMENT OF WITH OVERBAR,SMALL ELEMENT OF WITH OVERBAR,ELEMENT OF WITH UNDERBAR",
     "ELEMENT OF WITH TWO HORIZONTAL STROKES,CONTAINS WITH LONG HORIZONTAL STROKE",
     "CONTAINS WITH VERTICAL BAR AT END OF HORIZONTAL STROKE",
     "SMALL CONTAINS WITH VERTICAL BAR AT END OF HORIZONTAL STROKE,CONTAINS WITH OVERBAR",
     "SMALL CONTAINS WITH OVERBAR,Z NOTATION BAG MEMBERSHIP"]),
   (0x2460, [
     "CIRCLED DIGIT ONE,CIRCLED DIGIT TWO,CIRCLED DIGIT THREE,CIRCLED DIGIT FOUR",
     "CIRCLED DIGIT FIVE,CIRCLED DIGIT SIX,CIRCLED DIGIT SEVEN,CIRCLED DIGIT EIGHT",
     "CIRCLED DIGIT NINE,CIRCLED NUMBER TEN,CIRCLED NUMBER ELEVEN,CIRCLED NUMBER TWELVE",
     "CIRCLED NUMBER THIRTEEN,CIRCLED NUMBER FOURTEEN,CIRCLED NUMBER FIFTEEN",
     "CIRCLED NUMBER SIXTEEN,CIRCLED NUMBER SEVENTEEN,CIRCLED NUMBER EIGHTEEN",
     "CIRCLED NUMBER NINETEEN,CIRCLED NUMBER TWENTY"]),
   (0x25A0, [
     "BLACK SQUARE,WHITE SQUARE,WHITE SQUARE WITH ROUNDED CORNERS",
     "WHITE SQUARE CONTAINING BLACK SMALL SQUARE,SQUARE WITH HORIZONTAL FILL",
     "SQUARE WITH VERTICAL FILL,SQUARE WITH ORTHOGONAL CROSSHATCH FILL",
     "SQUARE WITH UPPER LEFT TO LOWER RIGHT FILL,SQUARE WITH UPPER RIGHT TO LOWER LEFT FILL",
     "SQUARE WITH DIAGONAL CROSSHATCH FILL,BLACK SMALL SQUARE,WHITE SMALL SQUARE",
     "BLACK RECTANGLE,WHITE RECTANGLE,BLACK VERTICAL RECTANGLE,WHITE VERTICAL RECTANGLE",
     "BLACK PARALLELOGRAM,WHITE PARALLELOGRAM,BLACK UP-POINTING TRIANGLE",
     "WHITE UP-POINTING TRIANGLE,BLACK UP-POINTING SMALL TRIANGLE",
     "WHITE UP-POINTING SMALL TRIANGLE,BLACK RIGHT-POINTING TRIANGLE",
     "WHITE RIGHT-POINTING TRIANGLE,BLACK RIGHT-POINTING SMALL TRIANGLE",
     "WHITE RIGHT-POINTING SMALL TRIANGLE,BLACK RIGHT-POINTING POINTER",
     "WHITE RIGHT-POINTING POINTER,BLACK DOWN-POINTING TRIANGLE,WHITE DOWN-POINTING TRIANGLE",
     "BLACK DOWN-POINTING SMALL TRIANGLE,WHITE DOWN-POINTING SMALL TRIANGLE",
     "BLACK LEFT-POINTING TRIANGLE,WHITE LEFT-POINTING TRIANGLE",
     "BLACK LEFT-POINTING SMALL TRIANGLE,WHITE LEFT-POINTING SMALL TRIANGLE",
     "BLACK LEFT-POINTING POINTER,WHITE LEFT-POINTING POINTER,BLACK DIAMOND,WHITE DIAMOND",
     "WHITE DIAMOND CONTAINING BLACK SMALL DIAMOND,FISHEYE,LOZENGE,WHITE CIRCLE,DOTTED CIRCLE",
     "CIRCLE WITH VERTICAL FILL,BULLSEYE,BLACK CIRCLE,CIRCLE WITH LEFT HALF BLACK",
     "CIRCLE WITH RIGHT HALF BLACK,CIRCLE WITH LOWER HALF BLACK,CIRCLE WITH UPPER HALF BLACK",
     "CIRCLE WITH UPPER RIGHT QUADRANT BLACK,CIRCLE WITH ALL BUT UPPER LEFT QUADRANT BLACK",
     "LEFT HALF BLACK CIRCLE,RIGHT HALF BLACK CIRCLE,INVERSE BULLET,INVERSE WHITE CIRCLE",
     "UPPER HALF INVERSE WHITE CIRCLE,LOWER HALF INVERSE WHITE CIRCLE",
     "UPPER LEFT QUADRANT CIRCULAR ARC,UPPER RIGHT QUADRANT CIRCULAR ARC",
     "LOWER RIGHT QUADRANT CIRCULAR ARC,LOWER LEFT QUADRANT CIRCULAR ARC,UPPER HALF CIRCLE",
     "LOWER HALF CIRCLE,BLACK LOWER RIGHT TRIANGLE,BLACK LOWER LEFT TRIANGLE",
     "BLACK UPPER LEFT TRIANGLE,BLACK UPPER RIGHT TRIANGLE,WHITE BULLET",
     "SQUARE WITH LEFT HALF BLACK,SQUARE WITH RIGHT HALF BLACK",
     "SQUARE WITH UPPER LEFT DIAGONAL HALF BLACK,SQUARE WITH LOWER RIGHT DIAGONAL HALF BLACK",
     "WHITE SQUARE WITH VERTICAL BISECTING LINE,WHITE UP-POINTING TRIANGLE WITH DOT",
     "UP-POINTING TRIANGLE WITH LEFT HALF BLACK,UP-POINTING TRIANGLE WITH RIGHT HALF BLACK",
     "LARGE CIRCLE,WHITE SQUARE WITH UPPER LEFT QUADRANT,WHITE SQUARE WITH LOWER LEFT QUADRANT",
     "WHITE SQUARE WITH LOWER RIGHT QUADRANT,WHITE SQUARE WITH UPPER RIGHT QUADRANT",
     "WHITE CIRCLE WITH UPPER LEFT QUADRANT,WHITE CIRCLE WITH LOWER LEFT QUADRANT",
     "WHITE CIRCLE WITH LOWER RIGHT QUADRANT,WHITE CIRCLE WITH UPPER RIGHT QUADRANT",
     "UPPER LEFT TRIANGLE,UPPER RIGHT TRIANGLE,LOWER LEFT TRIANGLE,WHITE MEDIUM SQUARE",
     "BLACK MEDIUM SQUARE,WHITE MEDIUM SMALL SQUARE,BLACK MEDIUM SMALL SQUARE",
     "LOWER RIGHT TRIANGLE"]),
   (0x2600, [
     "BLACK SUN WITH RAYS,CLOUD,UMBRELLA,SNOWMAN,COMET,BLACK STAR,WHITE STAR,LIGHTNING",
     "THUNDERSTORM,SUN,ASCENDING NODE,DESCENDING NODE,CONJUNCTION,OPPOSITION,BLACK TELEPHONE",
     "WHITE TELEPHONE,BALLOT BOX,BALLOT BOX WITH CHECK,BALLOT BOX WITH X,SALTIRE",
     "UMBRELLA WITH RAIN DROPS,HOT BEVERAGE,WHITE SHOGI PIECE,BLACK SHOGI PIECE,SHAMROCK",
     "REVERSED ROTATED FLORAL HEART BULLET,BLACK LEFT POINTING INDEX,BLACK RIGHT POINTING INDEX",
     "WHITE LEFT POINTING INDEX,WHITE UP POINTING INDEX,WHITE RIGHT POINTING INDEX",
     "WHITE DOWN POINTING INDEX,SKULL AND CROSSBONES,CAUTION SIGN,RADIOACTIVE SIGN",
     "BIOHAZARD SIGN,CADUCEUS,ANKH,ORTHODOX CROSS,CHI RHO,CROSS OF LORRAINE,CROSS OF JERUSALEM",
     "STAR AND CRESCENT,FARSI SYMBOL,ADI SHAKTI,HAMMER AND SICKLE,PEACE SYMBOL,YIN YANG",
     "TRIGRAM FOR HEAVEN,TRIGRAM FOR LAKE,TRIGRAM FOR FIRE,TRIGRAM FOR THUNDER,TRIGRAM FOR WIND",
     "TRIGRAM FOR WATER,TRIGRAM FOR MOUNTAIN,TRIGRAM FOR EARTH,WHEEL OF DHARMA",
     "WHITE FROWNING FACE,WHITE SMILING FACE,BLACK SMILING FACE,WHITE SUN WITH RAYS",
     "FIRST QUARTER MOON,LAST QUARTER MOON,MERCURY,FEMALE SIGN,EARTH,MALE SIGN,JUPITER,SATURN",
     "URANUS,NEPTUNE,PLUTO,ARIES,TAURUS,GEMINI,CANCER,LEO,VIRGO,LIBRA,SCORPIUS,SAGITTARIUS",
     "CAPRICORN,AQUARIUS,PISCES,WHITE CHESS KING,WHITE CHESS QUEEN,WHITE CHESS ROOK",
     "WHITE CHESS BISHOP,WHITE CHESS KNIGHT,WHITE CHESS PAWN,BLACK CHESS KING,BLACK CHESS QUEEN",
     "BLACK CHESS ROOK,BLACK CHESS BISHOP,BLACK CHESS KNIGHT,BLACK CHESS PAWN,BLACK SPADE SUIT",
     "WHITE HEART SUIT,WHITE DIAMOND SUIT,BLACK CLUB SUIT,WHITE SPADE SUIT,BLACK HEART SUIT",
     "BLACK DIAMOND SUIT,WHITE CLUB SUIT,HOT SPRINGS,QUARTER NOTE,EIGHTH NOTE",
     "BEAMED EIGHTH NOTES,BEAMED SIXTEENTH NOTES,MUSIC FLAT SIGN,MUSIC NATURAL SIGN",
     "MUSIC SHARP SIGN"]),
   (0x2701, [
     "UPPER BLADE SCISSORS,BLACK SCISSORS,LOWER BLADE SCISSORS,WHITE SCISSORS",
     "WHITE HEAVY CHECK MARK,TELEPHONE LOCATION SIGN,TAPE DRIVE,AIRPLANE,ENVELOPE,RAISED FIST",
     "RAISED HAND,VICTORY HAND,WRITING HAND,LOWER RIGHT PENCIL,PENCIL,UPPER RIGHT PENCIL",
     "WHITE NIB,BLACK NIB,CHECK MARK,HEAVY CHECK MARK,MULTIPLICATION X,HEAVY MULTIPLICATION X"]),
   (0x2717, ["BALLOT X,HEAVY BALLOT X"]),
   (0x2764, ["HEAVY BLACK HEART"]),
   (0x27A1, ["BLACK RIGHTWARDS ARROW"]),
   (0x3000, ["IDEOGRAPHIC SPACE,IDEOGRAPHIC COMMA,IDEOGRAPHIC FULL STOP"]),
   (0x3007, ["IDEOGRAPHIC NUMBER ZERO"]),
   (0xFB00, [
     "LATIN SMALL LIGATURE FF,LATIN SMALL LIGATURE FI,LATIN SMALL LIGATURE FL",
     "LATIN SMALL LIGATURE FFI,LATIN SMALL LIGATURE FFL,LATIN SMALL LIGATURE LONG S T",
     "LATIN SMALL LIGATURE ST"]),
   (0xFE00, ["VARIATION SELECTOR-1"]),
   (0xFE0E, ["VARIATION SELECTOR-15,VARIATION SELECTOR-16"]),
   (0xFEFF, ["ZERO WIDTH NO-BREAK SPACE"]),
   (0xFF01, [
     "FULLWIDTH EXCLAMATION MARK,FULLWIDTH QUOTATION MARK,FULLWIDTH NUMBER SIGN",
     "FULLWIDTH DOLLAR SIGN,FULLWIDTH PERCENT SIGN,FULLWIDTH AMPERSAND,FULLWIDTH APOSTROPHE",
     "FULLWIDTH LEFT PARENTHESIS,FULLWIDTH RIGHT PARENTHESIS,FULLWIDTH ASTERISK",
     "FULLWIDTH PLUS SIGN,FULLWIDTH COMMA,FULLWIDTH HYPHEN-MINUS,FULLWIDTH FULL STOP",
     "FULLWIDTH SOLIDUS,FULLWIDTH DIGIT ZERO,FULLWIDTH DIGIT ONE,FULLWIDTH DIGIT TWO",
     "FULLWIDTH DIGIT THREE,FULLWIDTH DIGIT FOUR,FULLWIDTH DIGIT FIVE,FULLWIDTH DIGIT SIX",
     "FULLWIDTH DIGIT SEVEN,FULLWIDTH DIGIT EIGHT,FULLWIDTH DIGIT NINE,FULLWIDTH COLON",
     "FULLWIDTH SEMICOLON,FULLWIDTH LESS-THAN SIGN,FULLWIDTH EQUALS SIGN",
     "FULLWIDTH GREATER-THAN SIGN,FULLWIDTH QUESTION MARK,FULLWIDTH COMMERCIAL AT",
     "FULLWIDTH LATIN CAPITAL LETTER A,FULLWIDTH LATIN CAPITAL LETTER B",
     "FULLWIDTH LATIN CAPITAL LETTER C,FULLWIDTH LATIN CAPITAL LETTER D",
     "FULLWIDTH LATIN CAPITAL LETTER E,FULLWIDTH LATIN CAPITAL LETTER F",
     "FULLWIDTH LATIN CAPITAL LETTER G,FULLWIDTH LATIN CAPITAL LETTER H",
     "FULLWIDTH LATIN CAPITAL LETTER I,FULLWIDTH LATIN CAPITAL LETTER J",
     "FULLWIDTH LATIN CAPITAL LETTER K,FULLWIDTH LATIN CAPITAL LETTER L",
     "FULLWIDTH LATIN CAPITAL LETTER M,FULLWIDTH LATIN CAPITAL LETTER N",
     "FULLWIDTH LATIN CAPITAL LETTER O,FULLWIDTH LATIN CAPITAL LETTER P",
     "FULLWIDTH LATIN CAPITAL LETTER Q,FULLWIDTH LATIN CAPITAL LETTER R",
     "FULLWIDTH LATIN CAPITAL LETTER S,FULLWIDTH LATIN CAPITAL LETTER T",
     "FULLWIDTH LATIN CAPITAL LETTER U,FULLWIDTH LATIN CAPITAL LETTER V",
     "FULLWIDTH LATIN CAPITAL LETTER W,FULLWIDTH LATIN CAPITAL LETTER X",
     "FULLWIDTH LATIN CAPITAL LETTER Y,FULLWIDTH LATIN CAPITAL LETTER Z",
     "FULLWIDTH LEFT SQUARE BRACKET,FULLWIDTH REVERSE SOLIDUS,FULLWIDTH RIGHT SQUARE BRACKET",
     "FULLWIDTH CIRCUMFLEX ACCENT,FULLWIDTH LOW LINE,FULLWIDTH GRAVE ACCENT",
     "FULLWIDTH LATIN SMALL LETTER A,FULLWIDTH LATIN SMALL LETTER B",
     "FULLWIDTH LATIN SMALL LETTER C,FULLWIDTH LATIN SMALL LETTER D",
     "FULLWIDTH LATIN SMALL LETTER E,FULLWIDTH LATIN SMALL LETTER F",
     "FULLWIDTH LATIN SMALL LETTER G,FULLWIDTH LATIN SMALL LETTER H",
     "FULLWIDTH LATIN SMALL LETTER I,FULLWIDTH LATIN SMALL LETTER J",
     "FULLWIDTH LATIN SMALL LETTER K,FULLWIDTH LATIN SMALL LETTER L",
     "FULLWIDTH LATIN SMALL LETTER M,FULLWIDTH LATIN SMALL LETTER N",
     "FULLWIDTH LATIN SMALL LETTER O,FULLWIDTH LATIN SMALL LETTER P",
     "FULLWIDTH LATIN SMALL LETTER Q,FULLWIDTH LATIN SMALL LETTER R",
     "FULLWIDTH LATIN SMALL LETTER S,FULLWIDTH LATIN SMALL LETTER T",
     "FULLWIDTH LATIN SMALL LETTER U,FULLWIDTH LATIN SMALL LETTER V",
     "FULLWIDTH LATIN SMALL LETTER W,FULLWIDTH LATIN SMALL LETTER X",
     "FULLWIDTH LATIN SMALL LETTER Y,FULLWIDTH LATIN SMALL LETTER Z",
     "FULLWIDTH LEFT CURLY BRACKET,FULLWIDTH VERTICAL LINE,FULLWIDTH RIGHT CURLY BRACKET",
     "FULLWIDTH TILDE"]),
   (0xFFFC, ["OBJECT REPLACEMENT CHARACTER,REPLACEMENT CHARACTER"]),
   (0x10400, [
     "DESERET CAPITAL LETTER LONG I,DESERET CAPITAL LETTER LONG E,DESERET CAPITAL LETTER LONG A",
     "DESERET CAPITAL LETTER LONG AH,DESERET CAPITAL LETTER LONG O",
     "DESERET CAPITAL LETTER LONG OO,DESERET CAPITAL LETTER SHORT I",
     "DESERET CAPITAL LETTER SHORT E,DESERET CAPITAL LETTER SHORT A",
     "DESERET CAPITAL LETTER SHORT AH,DESERET CAPITAL LETTER SHORT O",
     "DESERET CAPITAL LETTER SHORT OO,DESERET CAPITAL LETTER AY,DESERET CAPITAL LETTER OW",
     "DESERET CAPITAL LETTER WU,DESERET CAPITAL LETTER YEE,DESERET CAPITAL LETTER H",
     "DESERET CAPITAL LETTER PEE,DESERET CAPITAL LETTER BEE,DESERET CAPITAL LETTER TEE",
     "DESERET CAPITAL LETTER DEE,DESERET CAPITAL LETTER CHEE,DESERET CAPITAL LETTER JEE",
     "DESERET CAPITAL LETTER KAY,DESERET CAPITAL LETTER GAY,DESERET CAPITAL LETTER EF",
     "DESERET CAPITAL LETTER VEE,DESERET CAPITAL LETTER ETH,DESERET CAPITAL LETTER THEE",
     "DESERET CAPITAL LETTER ES,DESERET CAPITAL LETTER ZEE,DESERET CAPITAL LETTER ESH",
     "DESERET CAPITAL LETTER ZHEE,DESERET CAPITAL LETTER ER,DESERET CAPITAL LETTER EL",
     "DESERET CAPITAL LETTER EM,DESERET CAPITAL LETTER EN,DESERET CAPITAL LETTER ENG",
     "DESERET CAPITAL LETTER OI,DESERET CAPITAL LETTER EW,DESERET SMALL LETTER LONG I",
     "DESERET SMALL LETTER LONG E,DESERET SMALL LETTER LONG A,DESERET SMALL LETTER LONG AH",
     "DESERET SMALL LETTER LONG O,DESERET SMALL LETTER LONG OO,DESERET SMALL LETTER SHORT I",
     "DESERET SMALL LETTER SHORT E,DESERET SMALL LETTER SHORT A,DESERET SMALL LETTER SHORT AH",
     "DESERET SMALL LETTER SHORT O,DESERET SMALL LETTER SHORT OO,DESERET SMALL LETTER AY",
     "DESERET SMALL LETTER OW,DESERET SMALL LETTER WU,DESERET SMALL LETTER YEE",
     "DESERET SMALL LETTER H,DESERET SMALL LETTER PEE,DESERET SMALL LETTER BEE",
     "DESERET SMALL LETTER TEE,DESERET SMALL LETTER DEE,DESERET SMALL LETTER CHEE",
     "DESERET SMALL LETTER JEE,DESERET SMALL LETTER KAY,DESERET SMALL LETTER GAY",
     "DESERET SMALL LETTER EF,DESERET SMALL LETTER VEE,DESERET SMALL LETTER ETH",
     "DESERET SMALL LETTER THEE,DESERET SMALL LETTER ES,DESERET SMALL LETTER ZEE",
     "DESERET SMALL LETTER ESH,DESERET SMALL LETTER ZHEE,DESERET SMALL LETTER ER",
     "DESERET SMALL LETTER EL,DESERET SMALL LETTER EM,DESERET SMALL LETTER EN",
     "DESERET SMALL LETTER ENG,DESERET SMALL LETTER OI,DESERET SMALL LETTER EW"]),
   (0x1D7CE, [
     "MATHEMATICAL BOLD DIGIT ZERO,MATHEMATICAL BOLD DIGIT ONE,MATHEMATICAL BOLD DIGIT TWO",
     "MATHEMATICAL BOLD DIGIT THREE,MATHEMATICAL BOLD DIGIT FOUR,MATHEMATICAL BOLD DIGIT FIVE",
     "MATHEMATICAL BOLD DIGIT SIX,MATHEMATICAL BOLD DIGIT SEVEN,MATHEMATICAL BOLD DIGIT EIGHT",
     "MATHEMATICAL BOLD DIGIT NINE,MATHEMATICAL DOUBLE-STRUCK DIGIT ZERO",
     "MATHEMATICAL DOUBLE-STRUCK DIGIT ONE,MATHEMATICAL DOUBLE-STRUCK DIGIT TWO",
     "MATHEMATICAL DOUBLE-STRUCK DIGIT THREE,MATHEMATICAL DOUBLE-STRUCK DIGIT FOUR",
     "MATHEMATICAL DOUBLE-STRUCK DIGIT FIVE,MATHEMATICAL DOUBLE-STRUCK DIGIT SIX",
     "MATHEMATICAL DOUBLE-STRUCK DIGIT SEVEN,MATHEMATICAL DOUBLE-STRUCK DIGIT EIGHT",
     "MATHEMATICAL DOUBLE-STRUCK DIGIT NINE,MATHEMATICAL SANS-SERIF DIGIT ZERO",
     "MATHEMATICAL SANS-SERIF DIGIT ONE,MATHEMATICAL SANS-SERIF DIGIT TWO",
     "MATHEMATICAL SANS-SERIF DIGIT THREE,MATHEMATICAL SANS-SERIF DIGIT FOUR",
     "MATHEMATICAL SANS-SERIF DIGIT FIVE,MATHEMATICAL SANS-SERIF DIGIT SIX",
     "MATHEMATICAL SANS-SERIF DIGIT SEVEN,MATHEMATICAL SANS-SERIF DIGIT EIGHT",
     "MATHEMATICAL SANS-SERIF DIGIT NINE,MATHEMATICAL SANS-SERIF BOLD DIGIT ZERO",
     "MATHEMATICAL SANS-SERIF BOLD DIGIT ONE,MATHEMATICAL SANS-SERIF BOLD DIGIT TWO",
     "MATHEMATICAL SANS-SERIF BOLD DIGIT THREE,MATHEMATICAL SANS-SERIF BOLD DIGIT FOUR",
     "MATHEMATICAL SANS-SERIF BOLD DIGIT FIVE,MATHEMATICAL SANS-SERIF BOLD DIGIT SIX",
     "MATHEMATICAL SANS-SERIF BOLD DIGIT SEVEN,MATHEMATICAL SANS-SERIF BOLD DIGIT EIGHT",
     "MATHEMATICAL SANS-SERIF BOLD DIGIT NINE,MATHEMATICAL MONOSPACE DIGIT ZERO",
     "MATHEMATICAL MONOSPACE DIGIT ONE,MATHEMATICAL MONOSPACE DIGIT TWO",
     "MATHEMATICAL MONOSPACE DIGIT THREE,MATHEMATICAL MONOSPACE DIGIT FOUR",
     "MATHEMATICAL MONOSPACE DIGIT FIVE,MATHEMATICAL MONOSPACE DIGIT SIX",
     "MATHEMATICAL MONOSPACE DIGIT SEVEN,MATHEMATICAL MONOSPACE DIGIT EIGHT",
     "MATHEMATICAL MONOSPACE DIGIT NINE"]),
   (0x1E900, [
     "ADLAM CAPITAL LETTER ALIF,ADLAM CAPITAL LETTER DAALI,ADLAM CAPITAL LETTER LAAM",
     "ADLAM CAPITAL LETTER MIIM,ADLAM CAPITAL LETTER BA,ADLAM CAPITAL LETTER SINNYIIYHE",
     "ADLAM CAPITAL LETTER PE,ADLAM CAPITAL LETTER BHE,ADLAM CAPITAL LETTER RA",
     "ADLAM CAPITAL LETTER E,ADLAM CAPITAL LETTER FA,ADLAM CAPITAL LETTER I",
     "ADLAM CAPITAL LETTER O,ADLAM CAPITAL LETTER DHA,ADLAM CAPITAL LETTER YHE",
     "ADLAM CAPITAL LETTER WAW,ADLAM CAPITAL LETTER NUN,ADLAM CAPITAL LETTER KAF",
     "ADLAM CAPITAL LETTER YA,ADLAM CAPITAL LETTER U,ADLAM CAPITAL LETTER JIIM",
     "ADLAM CAPITAL LETTER CHI,ADLAM CAPITAL LETTER HA,ADLAM CAPITAL LETTER QAAF",
     "ADLAM CAPITAL LETTER GA,ADLAM CAPITAL LETTER NYA,ADLAM CAPITAL LETTER TU",
     "ADLAM CAPITAL LETTER NHA,ADLAM CAPITAL LETTER VA,ADLAM CAPITAL LETTER KHA",
     "ADLAM CAPITAL LETTER GBE,ADLAM CAPITAL LETTER ZAL,ADLAM CAPITAL LETTER KPO",
     "ADLAM CAPITAL LETTER SHA,ADLAM SMALL LETTER ALIF,ADLAM SMALL LETTER DAALI",
     "ADLAM SMALL LETTER LAAM,ADLAM SMALL LETTER MIIM,ADLAM SMALL LETTER BA",
     "ADLAM SMALL LETTER SINNYIIYHE,ADLAM SMALL LETTER PE,ADLAM SMALL LETTER BHE",
     "ADLAM SMALL LETTER RA,ADLAM SMALL LETTER E,ADLAM SMALL LETTER FA,ADLAM SMALL LETTER I",
     "ADLAM SMALL LETTER O,ADLAM SMALL LETTER DHA,ADLAM SMALL LETTER YHE,ADLAM SMALL LETTER WAW",
     "ADLAM SMALL LETTER NUN,ADLAM SMALL LETTER KAF,ADLAM SMALL LETTER YA,ADLAM SMALL LETTER U",
     "ADLAM SMALL LETTER JIIM,ADLAM SMALL LETTER CHI,ADLAM SMALL LETTER HA",
     "ADLAM SMALL LETTER QAAF,ADLAM SMALL LETTER GA,ADLAM SMALL LETTER NYA",
     "ADLAM SMALL LETTER TU,ADLAM SMALL LETTER NHA,ADLAM SMALL LETTER VA,ADLAM SMALL LETTER KHA",
     "ADLAM SMALL LETTER GBE,ADLAM SMALL LETTER ZAL,ADLAM SMALL LETTER KPO",
     "ADLAM SMALL LETTER SHA"]),
   (0x1F40D, ["SNAKE"]),
   (0x1F44D, ["THUMBS UP SIGN,THUMBS DOWN SIGN"]),
   (0x1F4A9, ["PILE OF POO"]),
   (0x1F514, ["BELL"]),
   (0x1F600, [
     "GRINNING FACE,GRINNING FACE WITH SMILING EYES,FACE WITH TEARS OF JOY",
     "SMILING FACE WITH OPEN MOUTH,SMILING FACE WITH OPEN MOUTH AND SMILING EYES",
     "SMILING FACE WITH OPEN MOUTH AND COLD SWEAT",
     "SMILING FACE WITH OPEN MOUTH AND TIGHTLY-CLOSED EYES,SMILING FACE WITH HALO",
     "SMILING FACE WITH HORNS,WINKING FACE,SMILING FACE WITH SMILING EYES",
     "FACE SAVOURING DELICIOUS FOOD,RELIEVED FACE,SMILING FACE WITH HEART-SHAPED EYES",
     "SMILING FACE WITH SUNGLASSES,SMIRKING FACE,NEUTRAL FACE,EXPRESSIONLESS FACE,UNAMUSED FACE",
     "FACE WITH COLD SWEAT,PENSIVE FACE,CONFUSED FACE,CONFOUNDED FACE,KISSING FACE",
     "FACE THROWING A KISS,KISSING FACE WITH SMILING EYES,KISSING FACE WITH CLOSED EYES",
     "FACE WITH STUCK-OUT TONGUE,FACE WITH STUCK-OUT TONGUE AND WINKING EYE",
     "FACE WITH STUCK-OUT TONGUE AND TIGHTLY-CLOSED EYES,DISAPPOINTED FACE,WORRIED FACE",
     "ANGRY FACE,POUTING FACE,CRYING FACE,PERSEVERING FACE,FACE WITH LOOK OF TRIUMPH",
     "DISAPPOINTED BUT RELIEVED FACE,FROWNING FACE WITH OPEN MOUTH,ANGUISHED FACE,FEARFUL FACE",
     "WEARY FACE,SLEEPY FACE,TIRED FACE,GRIMACING FACE,LOUDLY CRYING FACE,FACE WITH OPEN MOUTH",
     "HUSHED FACE,FACE WITH OPEN MOUTH AND COLD SWEAT,FACE SCREAMING IN FEAR,ASTONISHED FACE",
     "FLUSHED FACE,SLEEPING FACE,DIZZY FACE,FACE WITHOUT MOUTH,FACE WITH MEDICAL MASK",
     "GRINNING CAT FACE WITH SMILING EYES,CAT FACE WITH TEARS OF JOY",
     "SMILING CAT FACE WITH OPEN MOUTH,SMILING CAT FACE WITH HEART-SHAPED EYES",
     "CAT FACE WITH WRY SMILE,KISSING CAT FACE WITH CLOSED EYES,POUTING CAT FACE",
     "CRYING CAT FACE,WEARY CAT FACE,SLIGHTLY FROWNING FACE,SLIGHTLY SMILING FACE",
     "UPSIDE-DOWN FACE,FACE WITH ROLLING EYES,FACE WITH NO GOOD GESTURE,FACE WITH OK GESTURE",
     "PERSON BOWING DEEPLY,SEE-NO-EVIL MONKEY,HEAR-NO-EVIL MONKEY,SPEAK-NO-EVIL MONKEY",
     "HAPPY PERSON RAISING ONE HAND,PERSON RAISING BOTH HANDS IN CELEBRATION,PERSON FROWNING",
     "PERSON WITH POUTING FACE,PERSON WITH FOLDED HANDS"]),
   (0x1F680, ["ROCKET"])]

def characterAliases : List (String × Nat) :=
  [
   ("NULL", 0x0), ("NUL", 0x0), ("START OF HEADING", 0x1), ("SOH", 0x1), ("START OF TEXT", 0x2),
   ("STX", 0x2), ("END OF TEXT", 0x3), ("ETX", 0x3), ("END OF TRANSMISSION", 0x4), ("EOT", 0x4),
   ("ENQUIRY", 0x5), ("ENQ", 0x5), ("ACKNOWLEDGE", 0x6), ("ACK", 0x6), ("ALERT", 0x7),
   ("BEL", 0x7), ("BACKSPACE", 0x8), ("BS", 0x8), ("CHARACTER TABULATION", 0x9),
   ("HORIZONTAL TABULATION", 0x9), ("HT", 0x9), ("TAB", 0x9), ("LINE FEED", 0xA),
   ("NEW LINE", 0xA), ("END OF LINE", 0xA), ("LF", 0xA), ("NL", 0xA), ("EOL", 0xA),
   ("LINE TABULATION", 0xB), ("VERTICAL TABULATION", 0xB), ("VT", 0xB), ("FORM FEED", 0xC),
   ("FF", 0xC), ("CARRIAGE RETURN", 0xD), ("CR", 0xD), ("SHIFT OUT", 0xE),
   ("LOCKING-SHIFT ONE", 0xE), ("SO", 0xE), ("SHIFT IN", 0xF), ("LOCKING-SHIFT ZERO", 0xF),
   ("SI", 0xF), ("DATA LINK ESCAPE", 0x10), ("DLE", 0x10), ("DEVICE CONTROL ONE", 0x11),
   ("DC1", 0x11), ("DEVICE CONTROL TWO", 0x12), ("DC2", 0x12), ("DEVICE CONTROL THREE", 0x13),
   ("DC3", 0x13), ("DEVICE CONTROL FOUR", 0x14), ("DC4", 0x14), ("NEGATIVE ACKNOWLEDGE", 0x15),
   ("NAK", 0x15), ("SYNCHRONOUS IDLE", 0x16), ("SYN", 0x16), ("END OF TRANSMISSION BLOCK", 0x17),
   ("ETB", 0x17), ("CANCEL", 0x18), ("CAN", 0x18), ("END OF MEDIUM", 0x19), ("EOM", 0x19),
   ("SUBSTITUTE", 0x1A), ("SUB", 0x1A), ("ESCAPE", 0x1B), ("ESC", 0x1B),
   ("INFORMATION SEPARATOR FOUR", 0x1C), ("FILE SEPARATOR", 0x1C), ("FS", 0x1C),
   ("INFORMATION SEPARATOR THREE", 0x1D), ("GROUP SEPARATOR", 0x1D), ("GS", 0x1D),
   ("INFORMATION SEPARATOR TWO", 0x1E), ("RECORD SEPARATOR", 0x1E), ("RS", 0x1E),
   ("INFORMATION SEPARATOR ONE", 0x1F), ("UNIT SEPARATOR", 0x1F), ("US", 0x1F), ("SP", 0x20),
   ("DELETE", 0x7F), ("DEL", 0x7F), ("PADDING CHARACTER", 0x80), ("PAD", 0x80),
   ("HIGH OCTET PRESET", 0x81), ("HOP", 0x81), ("BREAK PERMITTED HERE", 0x82), ("BPH", 0x82),
   ("NO BREAK HERE", 0x83), ("NBH", 0x83), ("INDEX", 0x84), ("IND", 0x84), ("NEXT LINE", 0x85),
   ("NEL", 0x85), ("START OF SELECTED AREA", 0x86), ("SSA", 0x86), ("END OF SELECTED AREA", 0x87),
   ("ESA", 0x87), ("CHARACTER TABULATION SET", 0x88), ("HORIZONTAL TABULATION SET", 0x88),
   ("HTS", 0x88), ("CHARACTER TABULATION WITH JUSTIFICATION", 0x89),
   ("HORIZONTAL TABULATION WITH JUSTIFICATION", 0x89), ("HTJ", 0x89),
   ("LINE TABULATION SET", 0x8A), ("VERTICAL TABULATION SET", 0x8A), ("VTS", 0x8A),
   ("PARTIAL LINE FORWARD", 0x8B), ("PARTIAL LINE DOWN", 0x8B), ("PLD", 0x8B),
   ("PARTIAL LINE BACKWARD", 0x8C), ("PARTIAL LINE UP", 0x8C), ("PLU", 0x8C),
   ("REVERSE LINE FEED", 0x8D), ("REVERSE INDEX", 0x8D), ("RI", 0x8D), ("SINGLE SHIFT TWO", 0x8E),
   ("SINGLE-SHIFT-2", 0x8E), ("SS2", 0x8E), ("SINGLE SHIFT THREE", 0x8F),
   ("SINGLE-SHIFT-3", 0x8F), ("SS3", 0x8F), ("DEVICE CONTROL STRING", 0x90), ("DCS", 0x90),
   ("PRIVATE USE ONE", 0x91), ("PRIVATE USE-1", 0x91), ("PU1", 0x91), ("PRIVATE USE TWO", 0x92),
   ("PRIVATE USE-2", 0x92), ("PU2", 0x92), ("SET TRANSMIT STATE", 0x93), ("STS", 0x93),
   ("CANCEL CHARACTER", 0x94), ("CCH", 0x94), ("MESSAGE WAITING", 0x95), ("MW", 0x95),
   ("START OF GUARDED AREA", 0x96), ("START OF PROTECTED AREA", 0x96), ("SPA", 0x96),
   ("END OF GUARDED AREA", 0x97), ("END OF PROTECTED AREA", 0x97), ("EPA", 0x97),
   ("START OF STRING", 0x98), ("SOS", 0x98), ("SINGLE GRAPHIC CHARACTER INTRODUCER", 0x99),
   ("SGC", 0x99), ("SINGLE CHARACTER INTRODUCER", 0x9A), ("SCI", 0x9A),
   ("CONTROL SEQUENCE INTRODUCER", 0x9B), ("CSI", 0x9B), ("STRING TERMINATOR", 0x9C),
   ("ST", 0x9C), ("OPERATING SYSTEM COMMAND", 0x9D), ("OSC", 0x9D), ("PRIVACY MESSAGE", 0x9E),
   ("PM", 0x9E), ("APPLICATION PROGRAM COMMAND", 0x9F), ("APC", 0x9F), ("NBSP", 0xA0),
   ("SHY", 0xAD), ("LATIN CAPITAL LETTER GHA", 0x1A2), ("LATIN SMALL LETTER GHA", 0x1A3),
   ("CGJ", 0x34F), ("ALM", 0x61C), ("ZWSP", 0x200B), ("ZWNJ", 0x200C), ("ZWJ", 0x200D),
   ("LRM", 0x200E), ("RLM", 0x200F), ("LRE", 0x202A), ("RLE", 0x202B), ("PDF", 0x202C),
   ("LRO", 0x202D), ("RLO", 0x202E), ("NNBSP", 0x202F), ("MMSP", 0x205F), ("WJ", 0x2060),
   ("LRI", 0x2066), ("RLI", 0x2067), ("FSI", 0x2068), ("PDI", 0x2069),
   ("WEIERSTRASS ELLIPTIC FUNCTION", 0x2118), ("VS1", 0xFE00), ("VS15", 0xFE0E), ("VS16", 0xFE0F),
   ("BOM", 0xFEFF), ("ZWNBSP", 0xFEFF), ("BYTE ORDER MARK", 0xFEFF)]

def ideographRanges : List (Nat × Nat) :=
  [(0x3400, 0x4DBF), (0x4E00, 0x9FFF), (0x20000, 0x2A6DF), (0x2A700, 0x2B738),
   (0x2B740, 0x2B81D), (0x2B820, 0x2CEA1), (0x2CEB0, 0x2EBE0), (0x30000, 0x3134A)]

/-- The short names of the consonants that begin a Korean syllable. -/
def initialSounds : List String :=
  ["G", "GG", "N", "D", "DD", "R", "M", "B", "BB", "S", "SS", "", "J", "JJ", "C", "K", "T", "P",
   "H"]

def vowelSounds : List String :=
  ["A", "AE", "YA", "YAE", "EO", "E", "YEO", "YE", "O", "WA", "WAE", "OE", "YO", "U", "WEO", "WE",
   "WI", "YU", "EU", "YI", "I"]

def finalSounds : List String :=
  ["", "G", "GG", "GS", "N", "NJ", "NH", "D", "L", "LG", "LM", "LB", "LS", "LT", "LP", "LH", "M",
   "B", "BS", "S", "SS", "NG", "J", "C", "K", "T", "P", "H"]

def capitals (name : List Char) : List Char :=
  name.map Char.toUpper

def codeInRun? (name : List Char) (run : Nat × List String) : Option Nat :=
  let names := run.2.flatMap fun line => splitOn ',' line.toList
  (names.idxOf? name).map (run.1 + ·)

/-- The ideograph whose code point is in its name, in hexadecimal digits with capital letters. -/
def ideographOf? (name : List Char) : Option Nat := do
  let digits ← "CJK UNIFIED IDEOGRAPH-".toList.isPrefixOf? name
  let n := valueInBase 16 digits
  guard (digits.length = 4 || digits.length = 5)
  guard (digits.all fun c => isHexDigit c && !c.isLower)
  guard (ideographRanges.any fun r => r.1 ≤ n && n ≤ r.2)
  return n

def syllableOf? (name : List Char) : Option Nat := do
  let sounds ← "HANGUL SYLLABLE ".toList.isPrefixOf? name
  initialSounds.zipIdx.findSome? fun (first, i) => do
    let sounds ← first.toList.isPrefixOf? sounds
    vowelSounds.zipIdx.findSome? fun (second, j) => do
      let sounds ← second.toList.isPrefixOf? sounds
      let k ← finalSounds.idxOf? (String.ofList sounds)
      return 0xAC00 + (21 * i + j) * 28 + k

def codeOfName? (name : List Char) : Option Nat :=
  let s := capitals name
  (ideographOf? name).or ((syllableOf? name).or
    ((namedRuns.findSome? (codeInRun? s)).or (characterAliases.lookup (String.ofList s))))

instance commonNames : CharacterNames where
  codeOf? := codeOfName?

end EnvDoctor.Text
