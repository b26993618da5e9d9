import QuerySchema.Text.CharacterName.Run

/-!
Names of the characters from U+0000 on.
-/

namespace QuerySchema.Text.CharacterName

/-- The names from U+0000 on. -/
def namesFrom0000 : List NameRun :=
  [⟨0x20, [
    "00SPACE;00EXCLAMATION MARK;01QUOTATION;00NUMBER SIGN;01DOLLAR;01PERCENT;00AMPERSAND",
    "00APOSTROPHE;00LEFT PARENTHESIS;01RIGHT;00ASTERISK;00PLUS SIGN;00COMMA;00HYPHEN-MINUS",
    "00FULL STOP;00SOLIDUS;00DIGIT ZERO;10ONE;10TWO;10THREE;10FOUR;10FIVE;10SIX;10SEVEN;10EIGHT",
    "10NINE;00COLON;00SEMICOLON;00LESS-THAN SIGN;01EQUALS;01GREATER-THAN;00QUESTION MARK",
    "00COMMERCIAL AT;00LATIN CAPITAL LETTER A;30B;30C;30D;30E;30F;30G;30H;30I;30J;30K;30L;30M",
    "30N;30O;30P;30Q;30R;30S;30T;30U;30V;30W;30X;30Y;30Z;00LEFT SQUARE BRACKET",
    "00REVERSE SOLIDUS;00RIGHT SQUARE BRACKET;00CIRCUMFLEX ACCENT;00LOW LINE;00GRAVE ACCENT",
    "00LATIN SMALL LETTER A;30B;30C;30D;30E;30F;30G;30H;30I;30J;30K;30L;30M;30N;30O;30P;30Q;30R",
    "30S;30T;30U;30V;30W;30X;30Y;30Z;00LEFT CURLY BRACKET;00VERTICAL LINE;00RIGHT CURLY BRACKET",
    "00TILDE"]⟩,
    ⟨0xA0, [
    "00NO-BREAK SPACE;00INVERTED EXCLAMATION MARK;00CENT SIGN;01POUND;01CURRENCY;01YEN",
    "00BROKEN BAR;00SECTION SIGN;00DIAERESIS;00COPYRIGHT SIGN;00FEMININE ORDINAL INDICATOR",
    "00LEFT-POINTING DOUBLE ANGLE QUOTATION MARK;00NOT SIGN;00SOFT HYPHEN;00REGISTERED SIGN",
    "00MACRON;00DEGREE SIGN;01PLUS-MINUS;00SUPERSCRIPT TWO;10THREE;00ACUTE ACCENT;00MICRO SIGN",
    "01PILCROW;00MIDDLE DOT;00CEDILLA;00SUPERSCRIPT ONE;00MASCULINE ORDINAL INDICATOR",
    "00RIGHT-POINTING DOUBLE ANGLE QUOTATION MARK;00VULGAR FRACTION ONE QUARTER;30HALF",
    "20THREE QUARTERS;00INVERTED QUESTION MARK;00LATIN CAPITAL LETTER A WITH GRAVE;50ACUTE",
    "50CIRCUMFLEX;50TILDE;50DIAERESIS;50RING ABOVE;30AE;30C WITH CEDILLA;30E WITH GRAVE;50ACUTE",
    "50CIRCUMFLEX;50DIAERESIS;30I WITH GRAVE;50ACUTE;50CIRCUMFLEX;50DIAERESIS;30ETH",
    "30N WITH TILDE;30O WITH GRAVE;50ACUTE;50CIRCUMFLEX;50TILDE;50DIAERESIS",
    "00MULTIPLICATION SIGN;00LATIN CAPITAL LETTER O WITH STROKE;30U WITH GRAVE;50ACUTE",
    "50CIRCUMFLEX;50DIAERESIS;30Y WITH ACUTE;30THORN;10SMALL LETTER SHARP S;30A WITH GRAVE",
    "50ACUTE;50CIRCUMFLEX;50TILDE;50DIAERESIS;50RING ABOVE;30AE;30C WITH CEDILLA;30E WITH GRAVE",
    "50ACUTE;50CIRCUMFLEX;50DIAERESIS;30I WITH GRAVE;50ACUTE;50CIRCUMFLEX;50DIAERESIS;30ETH",
    "30N WITH TILDE;30O WITH GRAVE;50ACUTE;50CIRCUMFLEX;50TILDE;50DIAERESIS;00DIVISION SIGN",
    "00LATIN SMALL LETTER O WITH STROKE;30U WITH GRAVE;50ACUTE;50CIRCUMFLEX;50DIAERESIS",
    "30Y WITH ACUTE;30THORN;30Y WITH DIAERESIS;10CAPITAL LETTER A WITH MACRON;14SMALL",
    "10CAPITAL LETTER A WITH BREVE;14SMALL;10CAPITAL LETTER A WITH OGONEK;14SMALL",
    "10CAPITAL LETTER C WITH ACUTE;14SMALL;10CAPITAL LETTER C WITH CIRCUMFLEX;14SMALL",
    "10CAPITAL LETTER C WITH DOT ABOVE;15SMALL;10CAPITAL LETTER C WITH CARON;14SMALL",
    "12CAPITAL LETTER D;14SMALL;10CAPITAL LETTER D WITH STROKE;14SMALL",
    "10CAPITAL LETTER E WITH MACRON;14SMALL;10CAPITAL LETTER E WITH BREVE;14SMALL",
    "10CAPITAL LETTER E WITH DOT ABOVE;15SMALL;10CAPITAL LETTER E WITH OGONEK;14SMALL",
    "10CAPITAL LETTER E WITH CARON;14SMALL;10CAPITAL LETTER G WITH CIRCUMFLEX;14SMALL",
    "10CAPITAL LETTER G WITH BREVE;14SMALL;10CAPITAL LETTER G WITH DOT ABOVE;15SMALL",
    "10CAPITAL LETTER G WITH CEDILLA;14SMALL;10CAPITAL LETTER H WITH CIRCUMFLEX;14SMALL",
    "10CAPITAL LETTER H WITH STROKE;14SMALL;10CAPITAL LETTER I WITH TILDE;14SMALL",
    "10CAPITAL LETTER I WITH MACRON;14SMALL;10CAPITAL LETTER I WITH BREVE;14SMALL",
    "10CAPITAL LETTER I WITH OGONEK;14SMALL;10CAPITAL LETTER I WITH DOT ABOVE",
    "10SMALL LETTER DOTLESS I;10CAPITAL LIGATURE IJ;12SMALL;10CAPITAL LETTER J WITH CIRCUMFLEX",
    "14SMALL;10CAPITAL LETTER K WITH CEDILLA;14SMALL;30KRA;10CAPITAL LETTER L WITH ACUTE",
    "14SMALL;10CAPITAL LETTER L WITH CEDILLA;14SMALL;10CAPITAL LETTER L WITH CARON;14SMALL",
    "10CAPITAL LETTER L WITH MIDDLE DOT;15SMALL;10CAPITAL LETTER L WITH STROKE;14SMALL",
    "10CAPITAL LETTER N WITH ACUTE;14SMALL;10CAPITAL LETTER N WITH CEDILLA;14SMALL",
    "10CAPITAL LETTER N WITH CARON;14SMALL;40PRECEDED BY APOSTROPHE;10CAPITAL LETTER ENG",
    "12SMALL;10CAPITAL LETTER O WITH MACRON;14SMALL;10CAPITAL LETTER O WITH BREVE;14SMALL",
    "10CAPITAL LETTER O WITH DOUBLE ACUTE;15SMALL;10CAPITAL LIGATURE OE;12SMALL",
    "10CAPITAL LETTER R WITH ACUTE;14SMALL;10CAPITAL LETTER R WITH CEDILLA;14SMALL",
    "10CAPITAL LETTER R WITH CARON;14SMALL;10CAPITAL LETTER S WITH ACUTE;14SMALL",
    "10CAPITAL LETTER S WITH CIRCUMFLEX;14SMALL;10CAPITAL LETTER S WITH CEDILLA;14SMALL",
    "10CAPITAL LETTER S WITH CARON;14SMALL;10CAPITAL LETTER T WITH CEDILLA;14SMALL",
    "10CAPITAL LETTER T WITH CARON;14SMALL;10CAPITAL LETTER T WITH STROKE;14SMALL",
    "10CAPITAL LETTER U WITH TILDE;14SMALL;10CAPITAL LETTER U WITH MACRON;14SMALL",
    "10CAPITAL LETTER U WITH BREVE;14SMALL;10CAPITAL LETTER U WITH RING ABOVE;15SMALL",
    "10CAPITAL LETTER U WITH DOUBLE ACUTE;15SMALL;10CAPITAL LETTER U WITH OGONEK;14SMALL",
    "10CAPITAL LETTER W WITH CIRCUMFLEX;14SMALL;12CAPITAL LETTER Y;14SMALL",
    "10CAPITAL LETTER Y WITH DIAERESIS;30Z WITH ACUTE;14SMALL;10CAPITAL LETTER Z WITH DOT ABOVE",
    "15SMALL;10CAPITAL LETTER Z WITH CARON;14SMALL;30LONG S;30B WITH STROKE",
    "10CAPITAL LETTER B WITH HOOK;50TOPBAR;14SMALL;10CAPITAL LETTER TONE SIX;13SMALL",
    "10CAPITAL LETTER OPEN O;30C WITH HOOK;14SMALL;10CAPITAL LETTER AFRICAN D;30D WITH HOOK",
    "50TOPBAR;14SMALL;30TURNED DELTA;10CAPITAL LETTER REVERSED E;30SCHWA;30OPEN E;30F WITH HOOK",
    "14SMALL;12CAPITAL LETTER G;30GAMMA;10SMALL LETTER HV;10CAPITAL LETTER IOTA;30I WITH STROKE",
    "30K WITH HOOK;14SMALL;30L WITH BAR;30LAMBDA WITH STROKE;10CAPITAL LETTER TURNED M",
    "30N WITH LEFT HOOK;10SMALL LETTER N WITH LONG RIGHT LEG",
    "10CAPITAL LETTER O WITH MIDDLE TILDE;50HORN;14SMALL;10CAPITAL LETTER OI;12SMALL",
    "10CAPITAL LETTER P WITH HOOK;14SMALL;10LETTER YR;10CAPITAL LETTER TONE TWO;13SMALL",
    "10CAPITAL LETTER ESH;10LETTER REVERSED ESH LOOP;10SMALL LETTER T WITH PALATAL HOOK",
    "11CAPITAL LETTER T WITH;14SMALL;11CAPITAL LETTER T WITH RETROFLEX;30U WITH HORN;14SMALL",
    "10CAPITAL LETTER UPSILON;30V WITH HOOK;32Y;14SMALL;10CAPITAL LETTER Z WITH STROKE;14SMALL",
    "10CAPITAL LETTER EZH;40REVERSED;13SMALL;40WITH TAIL;10LETTER TWO WITH STROKE",
    "10CAPITAL LETTER TONE FIVE;13SMALL;10LETTER INVERTED GLOTTAL STOP WITH STROKE;20WYNN",
    "20DENTAL CLICK;21LATERAL;21ALVEOLAR;21RETROFLEX;10CAPITAL LETTER DZ WITH CARON",
    "32D WITH SMALL LETTER Z;12SMALL LETTER DZ;10CAPITAL LETTER LJ;30L WITH SMALL LETTER J",
    "10SMALL LETTER LJ;10CAPITAL LETTER NJ;30N WITH SMALL LETTER J;10SMALL LETTER NJ",
    "10CAPITAL LETTER A WITH CARON;14SMALL;12CAPITAL LETTER I;14SMALL;12CAPITAL LETTER O",
    "14SMALL;12CAPITAL LETTER U;14SMALL;10CAPITAL LETTER U WITH DIAERESIS AND MACRON;16SMALL",
    "10CAPITAL LETTER U WITH DIAERESIS AND ACUTE;16SMALL",
    "10CAPITAL LETTER U WITH DIAERESIS AND CARON;16SMALL",
    "10CAPITAL LETTER U WITH DIAERESIS AND GRAVE;16SMALL;30TURNED E",
    "10CAPITAL LETTER A WITH DIAERESIS AND MACRON;16SMALL;12CAPITAL LETTER A WITH DOT ABOVE",
    "17SMALL;11CAPITAL LETTER AE WITH;14SMALL;10CAPITAL LETTER G WITH STROKE;14SMALL",
    "10CAPITAL LETTER G WITH CARON;14SMALL;12CAPITAL LETTER K;14SMALL",
    "10CAPITAL LETTER O WITH OGONEK;14SMALL;10CAPITAL LETTER O WITH OGONEK AND MACRON;16SMALL",
    "10CAPITAL LETTER EZH WITH CARON;14SMALL;32J;10CAPITAL LETTER DZ;30D WITH SMALL LETTER Z",
    "10SMALL LETTER DZ;10CAPITAL LETTER G WITH ACUTE;14SMALL;10CAPITAL LETTER HWAIR;30WYNN",
    "30N WITH GRAVE;14SMALL;10CAPITAL LETTER A WITH RING ABOVE AND ACUTE;17SMALL",
    "11CAPITAL LETTER AE WITH;14SMALL;11CAPITAL LETTER O WITH STROKE AND;16SMALL",
    "10CAPITAL LETTER A WITH DOUBLE GRAVE;15SMALL;10CAPITAL LETTER A WITH INVERTED BREVE",
    "15SMALL;10CAPITAL LETTER E WITH DOUBLE GRAVE;15SMALL",
    "10CAPITAL LETTER E WITH INVERTED BREVE;15SMALL;10CAPITAL LETTER I WITH DOUBLE GRAVE",
    "15SMALL;10CAPITAL LETTER I WITH INVERTED BREVE;15SMALL",
    "10CAPITAL LETTER O WITH DOUBLE GRAVE;15SMALL;10CAPITAL LETTER O WITH INVERTED BREVE",
    "15SMALL;10CAPITAL LETTER R WITH DOUBLE GRAVE;15SMALL",
    "10CAPITAL LETTER R WITH INVERTED BREVE;15SMALL;10CAPITAL LETTER U WITH DOUBLE GRAVE",
    "15SMALL;10CAPITAL LETTER U WITH INVERTED BREVE;15SMALL;10CAPITAL LETTER S WITH COMMA BELOW",
    "15SMALL;13CAPITAL LETTER T;15SMALL;10CAPITAL LETTER YOGH;12SMALL",
    "10CAPITAL LETTER H WITH CARON;14SMALL;10CAPITAL LETTER N WITH LONG RIGHT LEG",
    "10SMALL LETTER D WITH CURL;10CAPITAL LETTER OU;12SMALL;10CAPITAL LETTER Z WITH HOOK",
    "14SMALL;10CAPITAL LETTER A WITH DOT ABOVE;15SMALL;10CAPITAL LETTER E WITH CEDILLA;14SMALL",
    "10CAPITAL LETTER O WITH DIAERESIS AND MACRON;16SMALL;12CAPITAL LETTER O WITH TILDE;16SMALL",
    "10CAPITAL LETTER O WITH DOT ABOVE;15SMALL;10CAPITAL LETTER O WITH DOT ABOVE AND MACRON",
    "17SMALL;11CAPITAL LETTER Y WITH;14SMALL;30L WITH CURL;32N;32T;30DOTLESS J;30DB DIGRAPH",
    "31QP;10CAPITAL LETTER A WITH STROKE;32C;14SMALL;10CAPITAL LETTER L WITH BAR",
    "30T WITH DIAGONAL STROKE;10SMALL LETTER S WITH SWASH TAIL;33Z",
    "10CAPITAL LETTER GLOTTAL STOP;13SMALL;10CAPITAL LETTER B WITH STROKE;30U BAR;30TURNED V",
    "30E WITH STROKE;14SMALL;12CAPITAL LETTER J;14SMALL;10CAPITAL LETTER SMALL Q WITH HOOK TAIL",
    "14SMALL LETTER;10CAPITAL LETTER R WITH STROKE;14SMALL;12CAPITAL LETTER Y;14SMALL",
    "30TURNED A;30ALPHA;31TURNED;30B WITH HOOK;30OPEN O;30C WITH CURL;30D WITH TAIL;50HOOK",
    "30REVERSED E;30SCHWA;40WITH HOOK;30OPEN E;32REVERSED;60WITH HOOK;30CLOSED REVERSED OPEN E",
    "30DOTLESS J WITH STROKE;30G WITH HOOK;30SCRIPT G;11LETTER SMALL CAPITAL",
    "10SMALL LETTER GAMMA;30RAMS HORN;30TURNED H;30H WITH HOOK;32HENG;30I WITH STROKE;30IOTA",
    "10LETTER SMALL CAPITAL I;10SMALL LETTER L WITH MIDDLE TILDE;50BELT;50RETROFLEX HOOK;30LEZH",
    "30TURNED M;50WITH LONG LEG;30M WITH HOOK;31N WITH LEFT;51RETROFLEX",
    "10LETTER SMALL CAPITAL N;10SMALL LETTER BARRED O;10LETTER SMALL CAPITAL OE",
    "10SMALL LETTER CLOSED OMEGA;30PHI;30TURNED R;50WITH LONG LEG;60HOOK;30R WITH LONG LEG",
    "50TAIL;50FISHHOOK;33REVERSED;10LETTER SMALL CAPITAL R;41INVERTED",
    "10SMALL LETTER S WITH HOOK;30ESH;30DOTLESS J WITH STROKE AND HOOK;30SQUAT REVERSED ESH",
    "30ESH WITH CURL;30TURNED T;30T WITH RETROFLEX HOOK;30U BAR;30UPSILON;30V WITH HOOK",
    "30TURNED V;40W;40Y;11LETTER SMALL CAPITAL;10SMALL LETTER Z WITH RETROFLEX HOOK;50CURL",
    "30EZH;40WITH CURL;10LETTER GLOTTAL STOP;20PHARYNGEAL VOICED FRICATIVE",
    "20INVERTED GLOTTAL STOP;20STRETCHED C;20BILABIAL CLICK;20SMALL CAPITAL B",
    "10SMALL LETTER CLOSED OPEN E;10LETTER SMALL CAPITAL G WITH HOOK;40H",
    "10SMALL LETTER J WITH CROSSED-TAIL;30TURNED K;10LETTER SMALL CAPITAL L",
    "10SMALL LETTER Q WITH HOOK;10LETTER GLOTTAL STOP WITH STROKE;24REVERSED",
    "10SMALL LETTER DZ DIGRAPH;31DEZH;30DZ DIGRAPH WITH CURL;30TS DIGRAPH;31TESH",
    "30TC DIGRAPH WITH CURL;30FENG DIGRAPH;31LS;31LZ;10LETTER BILABIAL PERCUSSIVE;21BIDENTAL",
    "10SMALL LETTER TURNED H WITH FISHHOOK;70AND TAIL;00MODIFIER LETTER SMALL H;40WITH HOOK;30J",
    "30R;31TURNED;50WITH HOOK;30CAPITAL INVERTED R;30W;30Y;20PRIME;21DOUBLE;20TURNED COMMA",
    "20APOSTROPHE;20REVERSED COMMA;20RIGHT HALF RING;22LEFT;20GLOTTAL STOP;22REVERSED",
    "20LEFT ARROWHEAD;21RIGHT;21UP;21DOWN;20CIRCUMFLEX ACCENT;00CARON",
    "00MODIFIER LETTER VERTICAL LINE;20MACRON;20ACUTE ACCENT;21GRAVE;20LOW VERTICAL LINE",
    "30MACRON;30GRAVE ACCENT;31ACUTE;20TRIANGULAR COLON;22HALF;20CENTRED RIGHT HALF RING;32LEFT",
    "20UP TACK;21DOWN;20PLUS SIGN;21MINUS;00BREVE;00DOT ABOVE;01RING;00OGONEK;00SMALL TILDE",
    "00DOUBLE ACUTE ACCENT;00MODIFIER LETTER RHOTIC HOOK;20CROSS ACCENT;20SMALL GAMMA;30L;30S",
    "30X;30REVERSED GLOTTAL STOP;20EXTRA-HIGH TONE BAR;22HIGH;22MID;22LOW;22EXTRA-LOW",
    "20YIN DEPARTING TONE MARK;23YANG;20VOICING;20UNASPIRATED;20DOUBLE APOSTROPHE",
    "20LOW DOWN ARROWHEAD;31UP;31LEFT;31RIGHT;30RING;20MIDDLE GRAVE ACCENT;32DOUBLE;41ACUTE",
    "20LOW TILDE;20RAISED COLON;20BEGIN HIGH TONE;22END;21BEGIN LOW;22END;20SHELF;21OPEN",
    "20LOW LEFT ARROW;00COMBINING GRAVE ACCENT;11ACUTE;11CIRCUMFLEX;10TILDE;10MACRON;10OVERLINE",
    "10BREVE;10DOT ABOVE;10DIAERESIS;10HOOK ABOVE;11RING;10DOUBLE ACUTE ACCENT;10CARON",
    "10VERTICAL LINE ABOVE;13DOUBLE;20GRAVE ACCENT;10CANDRABINDU;10INVERTED BREVE",
    "10TURNED COMMA ABOVE;12;12REVERSED;10COMMA ABOVE RIGHT;10GRAVE ACCENT BELOW;12ACUTE",
    "11LEFT TACK;12RIGHT;10LEFT ANGLE ABOVE;10HORN;10LEFT HALF RING BELOW;11UP TACK;12DOWN",
    "11PLUS SIGN;12MINUS;11PALATALIZED HOOK;12RETROFLEX;11DOT;11DIAERESIS;11RING;11COMMA",
    "10CEDILLA;10OGONEK;10VERTICAL LINE BELOW;11BRIDGE;11INVERTED DOUBLE ARCH;11CARON",
    "11CIRCUMFLEX ACCENT;11BREVE;12INVERTED;11TILDE;11MACRON;10LOW LINE;12DOUBLE",
    "10TILDE OVERLAY;11SHORT STROKE;12LONG;11SHORT SOLIDUS;12LONG;10RIGHT HALF RING BELOW",
    "11INVERTED BRIDGE;11SQUARE;11SEAGULL;10X ABOVE;10VERTICAL TILDE;10DOUBLE OVERLINE",
    "10GRAVE TONE MARK;12ACUTE;10GREEK PERISPOMENI;20KORONIS;20DIALYTIKA TONOS;20YPOGEGRAMMENI",
    "10BRIDGE ABOVE;10EQUALS SIGN BELOW;11DOUBLE VERTICAL LINE;11LEFT ANGLE;10NOT TILDE ABOVE",
    "11HOMOTHETIC;11ALMOST EQUAL TO;10LEFT RIGHT ARROW BELOW;12UPWARDS;10GRAPHEME JOINER",
    "10RIGHT ARROWHEAD ABOVE;11LEFT HALF RING;10FERMATA;10X BELOW;11LEFT ARROWHEAD;12RIGHT",
    "31AND UP ARROWHEAD;20HALF RING ABOVE;10DOT ABOVE RIGHT;10ASTERISK BELOW;11DOUBLE RING",
    "10ZIGZAG ABOVE;10DOUBLE BREVE BELOW;30;20MACRON;30BELOW;20TILDE;20INVERTED BREVE",
    "20RIGHTWARDS ARROW BELOW;10LATIN SMALL LETTER A;40E;40I;40O;40U;40C;40D;40H;40M;40R;40T",
    "40V;40X;00GREEK CAPITAL LETTER HETA;12SMALL;10CAPITAL LETTER ARCHAIC SAMPI;13SMALL",
    "10NUMERAL SIGN;12LOWER;10CAPITAL LETTER PAMPHYLIAN DIGAMMA;13SMALL;;;10YPOGEGRAMMENI",
    "10SMALL REVERSED LUNATE SIGMA SYMBOL;23DOTTED;24REVERSED;10QUESTION MARK",
    "10CAPITAL LETTER YOT;;;;;10TONOS;11DIALYTIKA;11CAPITAL LETTER ALPHA WITH;10ANO TELEIA",
    "10CAPITAL LETTER EPSILON WITH TONOS;32ETA;32IOTA;;32OMICRON;;32UPSILON;32OMEGA",
    "11SMALL LETTER IOTA WITH DIALYTIKA AND;10CAPITAL LETTER ALPHA;30BETA;30GAMMA;30DELTA",
    "30EPSILON;30ZETA;30ETA;30THETA;30IOTA;30KAPPA;30LAMDA;30MU;30NU;30XI;30OMICRON;30PI;30RHO;",
    "30SIGMA;30TAU;30UPSILON;30PHI;30CHI;30PSI;30OMEGA;30IOTA WITH DIALYTIKA;32UPSILON",
    "10SMALL LETTER ALPHA WITH TONOS;32EPSILON;32ETA;32IOTA;31UPSILON WITH DIALYTIKA AND",
    "30ALPHA;30BETA;30GAMMA;30DELTA;30EPSILON;30ZETA;30ETA;30THETA;30IOTA;30KAPPA;30LAMDA;30MU",
    "30NU;30XI;30OMICRON;30PI;30RHO;30FINAL SIGMA;31;30TAU;30UPSILON;30PHI;30CHI;30PSI;30OMEGA",
    "30IOTA WITH DIALYTIKA;32UPSILON;30OMICRON WITH TONOS;32UPSILON;32OMEGA",
    "10CAPITAL KAI SYMBOL;11BETA;11THETA;11UPSILON WITH HOOK;32ACUTE AND;33DIAERESIS;11PHI;11PI",
    "11KAI;10LETTER ARCHAIC KOPPA;13SMALL;10LETTER STIGMA;12SMALL;10LETTER DIGAMMA;12SMALL",
    "10LETTER KOPPA;12SMALL;10LETTER SAMPI;12SMALL;00COPTIC CAPITAL LETTER SHEI;12SMALL",
    "10CAPITAL LETTER FEI;12SMALL;10CAPITAL LETTER KHEI;12SMALL;10CAPITAL LETTER HORI;12SMALL",
    "10CAPITAL LETTER GANGIA;12SMALL;10CAPITAL LETTER SHIMA;12SMALL;10CAPITAL LETTER DEI",
    "12SMALL;00GREEK KAPPA SYMBOL;11RHO;11LUNATE SIGMA;10LETTER YOT;10CAPITAL THETA SYMBOL",
    "11LUNATE EPSILON;13REVERSED;10CAPITAL LETTER SHO;12SMALL;10CAPITAL LUNATE SIGMA SYMBOL",
    "20LETTER SAN;12SMALL;10RHO WITH STROKE SYMBOL;11CAPITAL REVERSED LUNATE SIGMA;23DOTTED",
    "24REVERSED;00CYRILLIC CAPITAL LETTER IE WITH GRAVE;30IO;30DJE;30GJE;30UKRAINIAN IE;30DZE",
    "30BYELORUSSIAN-UKRAINIAN I;30YI;30JE;30LJE;30NJE;30TSHE;30KJE;30I WITH GRAVE;30SHORT U",
    "30DZHE;30A;30BE;30VE;30GHE;30DE;30IE;30ZHE;30ZE;30I;31SHORT;30KA;30EL;30EM;30EN;30O;30PE",
    "30ER;30ES;30TE;30U;30EF;30HA;30TSE;30CHE;30SHA;30SHCHA;30HARD SIGN;30YERU;30SOFT SIGN;30E",
    "30YU;30YA;10SMALL LETTER A;30BE;30VE;30GHE;30DE;30IE;30ZHE;30ZE;30I;31SHORT;30KA;30EL;30EM",
    "30EN;30O;30PE;30ER;30ES;30TE;30U;30EF;30HA;30TSE;30CHE;30SHA;30SHCHA;30HARD SIGN;30YERU",
    "30SOFT SIGN;30E;30YU;30YA;30IE WITH GRAVE;30IO;30DJE;30GJE;30UKRAINIAN IE;30DZE",
    "30BYELORUSSIAN-UKRAINIAN I;30YI;30JE;30LJE;30NJE;30TSHE;30KJE;30I WITH GRAVE;30SHORT U",
    "30DZHE;10CAPITAL LETTER OMEGA;12SMALL;10CAPITAL LETTER YAT;12SMALL",
    "10CAPITAL LETTER IOTIFIED E;13SMALL;10CAPITAL LETTER LITTLE YUS;13SMALL",
    "12CAPITAL LETTER IOTIFIED;14SMALL;11CAPITAL LETTER BIG;13SMALL;12CAPITAL LETTER IOTIFIED",
    "14SMALL;10CAPITAL LETTER KSI;12SMALL;10CAPITAL LETTER PSI;12SMALL;10CAPITAL LETTER FITA",
    "12SMALL;10CAPITAL LETTER IZHITSA;12SMALL;10CAPITAL LETTER IZHITSA WITH DOUBLE GRAVE ACCENT",
    "16SMALL;10CAPITAL LETTER UK;12SMALL;10CAPITAL LETTER ROUND OMEGA;13SMALL",
    "10CAPITAL LETTER OMEGA WITH TITLO;14SMALL;10CAPITAL LETTER OT;12SMALL",
    "10CAPITAL LETTER KOPPA;12SMALL;10THOUSANDS SIGN;00COMBINING CYRILLIC TITLO",
    "20PALATALIZATION;20DASIA PNEUMATA;21PSILI;20POKRYTIE;20HUNDRED THOUSANDS SIGN;21MILLIONS",
    "00CYRILLIC CAPITAL LETTER SHORT I WITH TAIL;15SMALL;10CAPITAL LETTER SEMISOFT SIGN;13SMALL",
    "10CAPITAL LETTER ER WITH TICK;14SMALL;10CAPITAL LETTER GHE WITH UPTURN;14SMALL",
    "10CAPITAL LETTER GHE WITH STROKE;14SMALL;10CAPITAL LETTER GHE WITH MIDDLE HOOK;15SMALL",
    "10CAPITAL LETTER ZHE WITH DESCENDER;14SMALL;12CAPITAL LETTER ZE;14SMALL",
    "12CAPITAL LETTER KA;14SMALL;10CAPITAL LETTER KA WITH VERTICAL STROKE;15SMALL",
    "11CAPITAL LETTER KA WITH;14SMALL;10CAPITAL LETTER BASHKIR KA;13SMALL",
    "10CAPITAL LETTER EN WITH DESCENDER;14SMALL;10CAPITAL LIGATURE EN GHE;13SMALL",
    "10CAPITAL LETTER PE WITH MIDDLE HOOK;15SMALL;10CAPITAL LETTER ABKHASIAN HA;13SMALL",
    "10CAPITAL LETTER ES WITH DESCENDER;14SMALL;12CAPITAL LETTER TE;14SMALL",
    "10CAPITAL LETTER STRAIGHT U;13SMALL;10CAPITAL LETTER STRAIGHT U WITH STROKE;15SMALL",
    "10CAPITAL LETTER HA WITH DESCENDER;14SMALL;10CAPITAL LIGATURE TE TSE;13SMALL",
    "10CAPITAL LETTER CHE WITH DESCENDER;14SMALL;10CAPITAL LETTER CHE WITH VERTICAL STROKE",
    "15SMALL;10CAPITAL LETTER SHHA;12SMALL;10CAPITAL LETTER ABKHASIAN CHE;13SMALL",
    "10CAPITAL LETTER ABKHASIAN CHE WITH DESCENDER;15SMALL;10LETTER PALOCHKA",
    "10CAPITAL LETTER ZHE WITH BREVE;14SMALL;10CAPITAL LETTER KA WITH HOOK;14SMALL",
    "10CAPITAL LETTER EL WITH TAIL;14SMALL;10CAPITAL LETTER EN WITH HOOK;14SMALL",
    "10CAPITAL LETTER EN WITH TAIL;14SMALL;10CAPITAL LETTER KHAKASSIAN CHE;13SMALL",
    "10CAPITAL LETTER EM WITH TAIL;14SMALL;30PALOCHKA;10CAPITAL LETTER A WITH BREVE;14SMALL",
    "10CAPITAL LETTER A WITH DIAERESIS;14SMALL;10CAPITAL LIGATURE A IE;13SMALL",
    "10CAPITAL LETTER IE WITH BREVE;14SMALL;10CAPITAL LETTER SCHWA;12SMALL",
    "10CAPITAL LETTER SCHWA WITH DIAERESIS;14SMALL;12CAPITAL LETTER ZHE;14SMALL",
    "12CAPITAL LETTER ZE;14SMALL;10CAPITAL LETTER ABKHASIAN DZE;13SMALL",
    "10CAPITAL LETTER I WITH MACRON;14SMALL;10CAPITAL LETTER I WITH DIAERESIS;14SMALL",
    "12CAPITAL LETTER O;14SMALL;10CAPITAL LETTER BARRED O;13SMALL",
    "10CAPITAL LETTER BARRED O WITH DIAERESIS;15SMALL;12CAPITAL LETTER E;14SMALL",
    "10CAPITAL LETTER U WITH MACRON;14SMALL;10CAPITAL LETTER U WITH DIAERESIS;14SMALL",
    "10CAPITAL LETTER U WITH DOUBLE ACUTE;15SMALL;10CAPITAL LETTER CHE WITH DIAERESIS;14SMALL",
    "10CAPITAL LETTER GHE WITH DESCENDER;14SMALL;10CAPITAL LETTER YERU WITH DIAERESIS;14SMALL",
    "10CAPITAL LETTER GHE WITH STROKE AND HOOK;16SMALL;11CAPITAL LETTER HA WITH;14SMALL",
    "10CAPITAL LETTER HA WITH STROKE;14SMALL;10CAPITAL LETTER KOMI DE;13SMALL",
    "10CAPITAL LETTER KOMI DJE;13SMALL;10CAPITAL LETTER KOMI ZJE;13SMALL",
    "10CAPITAL LETTER KOMI DZJE;13SMALL;10CAPITAL LETTER KOMI LJE;13SMALL",
    "10CAPITAL LETTER KOMI NJE;13SMALL;10CAPITAL LETTER KOMI SJE;13SMALL",
    "10CAPITAL LETTER KOMI TJE;13SMALL;10CAPITAL LETTER REVERSED ZE;13SMALL",
    "10CAPITAL LETTER EL WITH HOOK;14SMALL;10CAPITAL LETTER LHA;12SMALL;10CAPITAL LETTER RHA",
    "12SMALL;10CAPITAL LETTER YAE;12SMALL;10CAPITAL LETTER QA;12SMALL;10CAPITAL LETTER WE",
    "12SMALL;10CAPITAL LETTER ALEUT KA;13SMALL;10CAPITAL LETTER EL WITH MIDDLE HOOK;15SMALL",
    "13CAPITAL LETTER EN;15SMALL;10CAPITAL LETTER PE WITH DESCENDER;14SMALL",
    "12CAPITAL LETTER SHHA;14SMALL;10CAPITAL LETTER EN WITH LEFT HOOK;15SMALL",
    "10CAPITAL LETTER DZZHE;12SMALL;10CAPITAL LETTER DCHE;12SMALL",
    "10CAPITAL LETTER EL WITH DESCENDER;14SMALL;;00ARMENIAN CAPITAL LETTER AYB;30BEN;30GIM;30DA",
    "30ECH;30ZA;30EH;30ET;30TO;30ZHE;30INI;30LIWN;30XEH;30CA;30KEN;30HO;30JA;30GHAD;30CHEH",
    "30MEN;30YI;30NOW;30SHA;30VO;30CHA;30PEH;30JHEH;30RA;30SEH;30VEW;30TIWN;30REH;30CO;30YIWN",
    "30PIWR;30KEH;30OH;30FEH;;;10MODIFIER LETTER LEFT HALF RING;10APOSTROPHE;10EMPHASIS MARK",
    "11EXCLAMATION;10COMMA;10QUESTION MARK;11ABBREVIATION;10SMALL LETTER TURNED AYB;31;30BEN",
    "30GIM;30DA;30ECH;30ZA;30EH;30ET;30TO;30ZHE;30INI;30LIWN;30XEH;30CA;30KEN;30HO;30JA;30GHAD",
    "30CHEH;30MEN;30YI;30NOW;30SHA;30VO;30CHA;30PEH;30JHEH;30RA;30SEH;30VEW;30TIWN;30REH;30CO",
    "30YIWN;30PIWR;30KEH;30OH;30FEH;20LIGATURE ECH YIWN;20LETTER YI WITH STROKE;10FULL STOP",
    "10HYPHEN;;;00RIGHT-FACING ARMENIAN ETERNITY SIGN;03LEFT-FACING;01ARMENIAN DRAM;",
    "00HEBREW ACCENT ETNAHTA;20SEGOL;20SHALSHELET;20ZAQEF QATAN;30GADOL;20TIPEHA;20REVIA",
    "20ZARQA;20PASHTA;20YETIV;20TEVIR;20GERESH;30MUQDAM;20GERSHAYIM;20QARNEY PARA",
    "20TELISHA GEDOLA;20PAZER;20ATNAH HAFUKH;20MUNAH;20MAHAPAKH;20MERKHA;30KEFULA;20DARGA",
    "20QADMA;20TELISHA QETANA;20YERAH BEN YOMO;20OLE;20ILUY;20DEHI;20ZINOR;10MARK MASORA CIRCLE",
    "10POINT SHEVA;20HATAF SEGOL;30PATAH;30QAMATS;20HIRIQ;20TSERE;20SEGOL;20PATAH;20QAMATS",
    "20HOLAM;30HASER FOR VAV;20QUBUTS;20DAGESH OR MAPIQ;20METEG;10PUNCTUATION MAQAF",
    "10POINT RAFE;10PUNCTUATION PASEQ;10POINT SHIN DOT;21SIN;10PUNCTUATION SOF PASUQ",
    "10MARK UPPER DOT;21LOWER;10PUNCTUATION NUN HAFUKHA;10POINT QAMATS QATAN;;;;;;;;",
    "10LETTER ALEF;20BET;20GIMEL;20DALET;20HE;20VAV;20ZAYIN;20HET;20TET;20YOD;20FINAL KAF;21",
    "20LAMED;20FINAL MEM;21;20FINAL NUN;21;20SAMEKH;20AYIN;20FINAL PE;21;20FINAL TSADI;21;20QOF",
    "20RESH;20SHIN;20TAV;;;;;10YOD TRIANGLE;10LIGATURE YIDDISH DOUBLE VAV;30VAV YOD;31DOUBLE",
    "10PUNCTUATION GERESH;20GERSHAYIM;;;;;;;;;;;;00ARABIC NUMBER SIGN;10SIGN SANAH",
    "10FOOTNOTE MARKER;10SIGN SAFHA;20SAMVAT;10NUMBER MARK ABOVE;00ARABIC-INDIC CUBE ROOT",
    "11FOURTH;00ARABIC RAY;00ARABIC-INDIC PER MILLE SIGN;21TEN THOUSAND;01AFGHANI",
    "00ARABIC COMMA;10DATE SEPARATOR;10POETIC VERSE SIGN;10SIGN MISRA",
    "20SALLALLAHOU ALAYHE WASSALLAM;20ALAYHE ASSALLAM;20RAHMATULLAH ALAYHE;20RADI ALLAHOU ANHU",
    "20TAKHALLUS;10SMALL HIGH TAH;30LIGATURE ALEF WITH LAM WITH YEH;30ZAIN;20FATHA;20DAMMA",
    "20KASRA;10SEMICOLON;10LETTER MARK;11END OF TEXT;11TRIPLE DOT PUNCTUATION;11QUESTION",
    "10LETTER KASHMIRI YEH;20HAMZA;20ALEF WITH MADDA ABOVE;41HAMZA;23WAW",
    "20ALEF WITH HAMZA BELOW;20YEH WITH HAMZA ABOVE;20ALEF;20BEH;20TEH MARBUTA;30;20THEH;20JEEM",
    "20HAH;20KHAH;20DAL;20THAL;20REH;20ZAIN;20SEEN;20SHEEN;20SAD;20DAD;20TAH;20ZAH;20AIN",
    "20GHAIN;20KEHEH WITH TWO DOTS ABOVE;40THREE DOTS BELOW;20FARSI YEH WITH INVERTED V",
    "50TWO DOTS ABOVE;52THREE;10TATWEEL;10LETTER FEH;20QAF;20KAF;20LAM;20MEEM;20NOON;20HEH",
    "20WAW;20ALEF MAKSURA;20YEH;10FATHATAN;10DAMMATAN;10KASRATAN;10FATHA;10DAMMA;10KASRA",
    "10SHADDA;10SUKUN;10MADDAH ABOVE;11HAMZA;20BELOW;10SUBSCRIPT ALEF;10INVERTED DAMMA",
    "10MARK NOON GHUNNA;10ZWARAKAY;10VOWEL SIGN SMALL V ABOVE;33INVERTED;30DOT BELOW",
    "10REVERSED DAMMA;10FATHA WITH TWO DOTS;10WAVY HAMZA BELOW;00ARABIC-INDIC DIGIT ZERO;20ONE",
    "20TWO;20THREE;20FOUR;20FIVE;20SIX;20SEVEN;20EIGHT;20NINE;00ARABIC PERCENT SIGN",
    "10DECIMAL SEPARATOR;11THOUSANDS;10FIVE POINTED STAR;10LETTER DOTLESS BEH;30QAF",
    "20SUPERSCRIPT ALEF;20ALEF WASLA;30WITH WAVY HAMZA ABOVE;60BELOW;20HIGH HAMZA;40ALEF;40WAW",
    "20U WITH HAMZA ABOVE;20HIGH HAMZA YEH;20TTEH;20TTEHEH;20BEEH;20TEH WITH RING",
    "40THREE DOTS ABOVE DOWNWARDS;20PEH;20TEHEH;20BEHEH;20HAH WITH HAMZA ABOVE",
    "41TWO DOTS VERTICAL;20NYEH;20DYEH;20HAH WITH THREE DOTS ABOVE;20TCHEH;20TCHEHEH;20DDAL",
    "20DAL WITH RING;40DOT BELOW;60AND SMALL TAH;20DAHAL;20DDAHAL;20DUL",
    "20DAL WITH THREE DOTS ABOVE DOWNWARDS;40FOUR DOTS ABOVE;20RREH;20REH WITH SMALL V;40RING",
    "40DOT BELOW;41SMALL V;40DOT BELOW AND DOT ABOVE;41TWO DOTS;20JEH",
    "20REH WITH FOUR DOTS ABOVE;21SEEN WITH DOT BELOW AND DOT;40THREE DOTS BELOW",
    "70AND THREE DOTS ABOVE;20SAD WITH TWO DOTS BELOW;40THREE DOTS ABOVE;24TAH;24AIN",
    "20DOTLESS FEH;20FEH WITH DOT MOVED BELOW;51;20VEH;20FEH WITH THREE DOTS BELOW;20PEHEH",
    "20QAF WITH DOT ABOVE;41THREE DOTS;20KEHEH;20SWASH KAF;20KAF WITH RING;40DOT ABOVE;20NG",
    "20KAF WITH THREE DOTS BELOW;20GAF;30WITH RING;20NGOEH;20GAF WITH TWO DOTS BELOW;20GUEH",
    "20GAF WITH THREE DOTS ABOVE;20LAM WITH SMALL V;40DOT ABOVE;41THREE DOTS;60BELOW",
    "21NOON WITH DOT;30GHUNNA;20RNOON;20NOON WITH RING;40THREE DOTS ABOVE;20HEH DOACHASHMEE",
    "20TCHEH WITH DOT ABOVE;21HEH WITH YEH;30GOAL;40WITH HAMZA ABOVE;20TEH MARBUTA GOAL",
    "20WAW WITH RING;20KIRGHIZ OE;21;20U;20YU;21KIRGHIZ;20WAW WITH TWO DOTS ABOVE;20VE",
    "20FARSI YEH;20YEH WITH TAIL;40SMALL V;20WAW WITH DOT ABOVE;20E;20YEH WITH THREE DOTS BELOW",
    "30BARREE;40WITH HAMZA ABOVE;10FULL STOP;10LETTER AE",
    "10SMALL HIGH LIGATURE SAD WITH LAM WITH ALEF MAKSURA;45QAF;30MEEM INITIAL FORM;30LAM ALEF",
    "30JEEM;30THREE DOTS;30SEEN;10END OF AYAH;10START OF RUB EL HIZB;10SMALL HIGH ROUNDED ZERO",
    "31UPRIGHT RECTANGULAR;30DOTLESS HEAD OF KHAH;30MEEM ISOLATED FORM;20LOW SEEN;20HIGH MADDA",
    "20WAW;20YEH;21HIGH;30NOON;10PLACE OF SAJDAH;10EMPTY CENTRE LOW STOP;31HIGH",
    "10ROUNDED HIGH STOP WITH FILLED CENTRE;10SMALL LOW MEEM;10LETTER DAL WITH INVERTED V;23REH",
    "00EXTENDED ARABIC-INDIC DIGIT ZERO;30ONE;30TWO;30THREE;30FOUR;30FIVE;30SIX;30SEVEN;30EIGHT",
    "30NINE;00ARABIC LETTER SHEEN WITH DOT BELOW;23DAD;23GHAIN;10SIGN SINDHI AMPERSAND",
    "30POSTPOSITION MEN;10LETTER HEH WITH INVERTED V;00SYRIAC END OF PARAGRAPH",
    "10SUPRALINEAR FULL STOP;12SUBLINEAR;10SUPRALINEAR COLON;11SUBLINEAR;11HORIZONTAL",
    "10COLON SKEWED LEFT;30RIGHT;10SUPRALINEAR COLON SKEWED LEFT;10SUBLINEAR COLON SKEWED RIGHT",
    "10CONTRACTION;10HARKLEAN OBELUS;20METOBELUS;20ASTERISCUS;;10ABBREVIATION MARK",
    "10LETTER ALAPH;21SUPERSCRIPT;20BETH;20GAMAL;30GARSHUNI;20DALATH;20DOTLESS DALATH RISH;20HE",
    "20WAW;20ZAIN;20HETH;20TETH;30GARSHUNI;20YUDH;30HE;20KAPH;20LAMADH;20MIM;20NUN;20SEMKATH",
    "21FINAL;20E;20PE;21REVERSED;20SADHE;20QAPH;20RISH;20SHIN;20TAW;20PERSIAN BHETH;30GHAMAL",
    "30DHALATH;10PTHAHA ABOVE;20BELOW;20DOTTED;10ZQAPHA ABOVE;20BELOW;20DOTTED;10RBASA ABOVE",
    "20BELOW;10DOTTED ZLAMA HORIZONTAL;30ANGULAR;10HBASA ABOVE;20BELOW;10HBASA-ESASA DOTTED",
    "10ESASA ABOVE;20BELOW;10RWAHA;10FEMININE DOT;10QUSHSHAYA;10RUKKAKHA",
    "10TWO VERTICAL DOTS ABOVE;40BELOW;10THREE DOTS ABOVE;30BELOW;10OBLIQUE LINE ABOVE;30BELOW",
    "10MUSIC;10BARREKH;;;10LETTER SOGDIAN ZHAIN;30KHAPH;30FE",
    "00ARABIC LETTER BEH WITH THREE DOTS HORIZONTALLY BELOW;40DOT BELOW AND THREE DOTS ABOVE",
    "40THREE DOTS POINTING UPWARDS BELOW;90AND TWO DOTS ABOVE;41TWO DOTS BELOW AND DOT",
    "40INVERTED SMALL V BELOW;40SMALL V;20HAH WITH TWO DOTS ABOVE",
    "40THREE DOTS POINTING UPWARDS BELOW;20DAL WITH TWO DOTS VERTICALLY BELOW AND SMALL TAH",
    "40INVERTED SMALL V BELOW;20REH WITH STROKE;20SEEN WITH FOUR DOTS ABOVE;22AIN WITH TWO",
    "41THREE DOTS POINTING DOWNWARDS;41TWO DOTS VERTICALLY;20FEH WITH TWO DOTS BELOW",
    "41THREE DOTS POINTING UPWARDS;20KEHEH WITH DOT ABOVE;41THREE DOTS;60POINTING UPWARDS BELOW",
    "20MEEM WITH DOT ABOVE;50BELOW;21NOON WITH TWO DOTS;40SMALL TAH;50V;20LAM WITH BAR",
    "20REH WITH TWO DOTS VERTICALLY ABOVE;41HAMZA;21SEEN WITH TWO DOTS VERTICALLY",
    "20HAH WITH SMALL ARABIC LETTER TAH BELOW;80AND TWO DOTS;28SEEN;28REH",
    "20HAH WITH SMALL ARABIC LETTER TAH ABOVE;21ALEF WITH EXTENDED ARABIC-INDIC DIGIT TWO",
    "71THREE;21FARSI YEH WITH EXTENDED ARABIC-INDIC DIGIT TWO;81THREE;80FOUR BELOW",
    "20WAW WITH EXTENDED ARABIC-INDIC DIGIT TWO ABOVE;71THREE",
    "21YEH BARREE WITH EXTENDED ARABIC-INDIC DIGIT TWO;81THREE",
    "20HAH WITH EXTENDED ARABIC-INDIC DIGIT FOUR BELOW",
    "20SEEN WITH EXTENDED ARABIC-INDIC DIGIT FOUR ABOVE;40INVERTED V;20KAF WITH TWO DOTS ABOVE",
    "00THAANA LETTER HAA;20SHAVIYANI;20NOONU;20RAA;20BAA;20LHAVIYANI;20KAAFU;20ALIFU;20VAAVU",
    "20MEEMU;20FAAFU;20DHAALU;20THAA;20LAAMU;20GAAFU;20GNAVIYANI;20SEENU;20DAVIYANI;20ZAVIYANI",
    "20TAVIYANI;20YAA;20PAVIYANI;20JAVIYANI;20CHAVIYANI;20TTAA;20HHAA;20KHAA;20THAALU;20ZAA",
    "20SHEENU;20SAADHU;20DAADHU;20TO;20ZO;20AINU;20GHAINU;20QAAFU;20WAAVU;10ABAFILI;10AABAAFILI",
    "10IBIFILI;10EEBEEFILI;10UBUFILI;10OOBOOFILI;10EBEFILI;10EYBEYFILI;10OBOFILI;10OABOAFILI",
    "10SUKUN;10LETTER NAA;;;;;;;;;;;;;;;00NKO DIGIT ZERO;20ONE;20TWO;20THREE;20FOUR;20FIVE",
    "20SIX;20SEVEN;20EIGHT;20NINE;10LETTER A;20EE;20I;20E;20U;20OO;20O;20DAGBASINNA;20N;20BA",
    "20PA;20TA;20JA;20CHA;20DA;20RA;20RRA;20SA;20GBA;20FA;20KA;20LA;20NA WOLOSO;20MA;20NYA;20NA",
    "20HA;20WA;20YA;20NYA WOLOSO;20JONA JA;30CHA;30RA;10COMBINING SHORT HIGH TONE;31LOW",
    "31RISING;21LONG DESCENDING;31HIGH;31LOW;31RISING;20NASALIZATION MARK;20DOUBLE DOT ABOVE",
    "10HIGH TONE APOSTROPHE;12LOW;10SYMBOL OO DENNEN;20GBAKURUNEN;10COMMA;10EXCLAMATION MARK",
    "10LAJANYALAN;;;10DANTAYALAN;10DOROME SIGN;11TAMAN;00SAMARITAN LETTER ALAF;20BIT;20GAMAN",
    "20DALAT;20IY;20BAA;20ZEN;20IT;20TIT;20YUT;20KAAF;20LABAT;20MIM;20NUN;20SINGAAT;20IN;20FI",
    "20TSAADIY;20QUF;20RISH;20SHAN;20TAAF;10MARK IN;20IN-ALAF;20OCCLUSION;20DAGESH",
    "10MODIFIER LETTER EPENTHETIC YUT;12MARK;10VOWEL SIGN LONG E;31;30OVERLONG AA;31LONG;31",
    "30OVERLONG A;31LONG;31;11MODIFIER LETTER SHORT;12VOWEL SIGN;30LONG U;31",
    "10MODIFIER LETTER I;11VOWEL SIGN LONG;31;30O;30SUKUN;10MARK NEQUDAA;;;11PUNCTUATION",
    "20AFSAAQ;20ANGED;20BAU;20ATMAAU;20SHIYYAALAA;10ABBREVIATION MARK",
    "10PUNCTUATION MELODIC QITSA;20ZIQAA;20QITSA;20ZAEF;20TURU;20ARKAANU;20SOF MASHFAAT",
    "20ANNAAU;;00MANDAIC LETTER HALQA;20AB;20AG;20AD;20AH;20USHENNA;20AZ;20IT;20ATT;20AKSA;20AK",
    "20AL;20AM;20AN;20AS;20IN;20AP;20ASZ;20AQ;20AR;20ASH;20AT;20DUSHENNA;20KAD;20AIN",
    "10AFFRICATION MARK;11VOCALIZATION;11GEMINATION;;;10PUNCTUATION;",
    "00SYRIAC LETTER MALAYALAM NGA;30JA;30NYA;30TTA;30NNA;30NNNA;30BHA;30RA;30LLA;30LLLA;30SSA;",
    ";;;;00ARABIC LETTER ALEF WITH ATTACHED FATHA;51TOP RIGHT;40RIGHT MIDDLE STROKE;42LEFT",
    "40ATTACHED KASRA;51BOTTOM RIGHT;50ROUND DOT ABOVE;50RIGHT ROUND DOT;52LEFT",
    "50ROUND DOT BELOW;40DOT ABOVE;42ATTACHED TOP RIGHT FATHA AND;43RIGHT MIDDLE STROKE",
    "43ATTACHED BOTTOM RIGHT KASRA;50TOP RIGHT FATHA AND LEFT RING;43RIGHT MIDDLE STROKE",
    "43ATTACHED BOTTOM RIGHT KASRA;50RIGHT HAMZA;51LEFT;11TATWEEL WITH OVERSTRUCK;40WAW",
    "30TWO DOTS BELOW;10LETTER THIN YEH;10BASELINE ROUND DOT;12RAISED",
    "10LETTER NOON WITH INVERTED SMALL V;20HAH WITH INVERTED SMALL V BELOW;21TAH WITH DOT",
    "41THREE DOTS;21KEHEH WITH TWO DOTS VERTICALLY;10VERTICAL TAIL;;10POUND MARK ABOVE",
    "12PIASTRE;;;;;;;10SMALL HIGH WORD AL-JUZ;20LOW WORD ISHMAAM;40IMAALA;40TASHEEL",
    "10MADDA WAAJIB;10SUPERSCRIPT ALEF MOKHASSAS;10DOUBLED MADDA;11HALF MADDA OVER",
    "10LETTER BEH WITH SMALL V BELOW;40HAMZA ABOVE;21JEEM WITH TWO DOTS;24TAH",
    "22FEH WITH DOT BELOW AND THREE;20QAF WITH DOT BELOW;20LAM WITH DOUBLE BAR",
    "20MEEM WITH THREE DOTS ABOVE;21YEH WITH TWO DOTS BELOW AND HAMZA;81DOT;20REH WITH LOOP",
    "20WAW WITH DOT WITHIN;20ROHINGYA YEH;20LOW ALEF;20DAL WITH THREE DOTS BELOW;24SAD",
    "20GAF WITH INVERTED STROKE;20STRAIGHT WAW;20ZAIN WITH INVERTED V ABOVE",
    "20AIN WITH THREE DOTS BELOW;21KAF WITH DOT;20QAF WITH DOT BELOW AND NO DOTS ABOVE",
    "21BEH WITH SMALL MEEM;24PEH;21TEH WITH SMALL TEH;21REH WITH SMALL NOON",
    "23YEH WITH TWO DOTS BELOW AND;20AFRICAN FEH;30QAF;30NOON;20PEH WITH SMALL V;23TEH;23TTEH",
    "23TCHEH;23KEHEH;20GHAIN WITH THREE DOTS ABOVE;24AFRICAN QAF;24JEEM;60BELOW",
    "20LAM WITH SMALL ARABIC LETTER TAH ABOVE;20GRAF;10SMALL FARSI YEH;22HIGH",
    "30YEH BARREE WITH TWO DOTS BELOW;30WORD SAH;30ZAH;10LARGE ROUND DOT ABOVE;40BELOW;11SUKUN",
    "11LARGE CIRCLE;22ROUND DOT INSIDE;10SMALL LOW WAW;20HIGH WORD AR-RUB;30SAD;30AIN;30QAF",
    "30NOON WITH KASRA;23LOW;20HIGH WORD ATH-THALATHA;40AS-SAJDA;40AN-NISF;40SAKTA;40QIF",
    "40WAQFA;30FOOTNOTE MARKER;30SIGN SAFHA;10DISPUTED END OF AYAH;10TURNED DAMMA BELOW",
    "10CURLY FATHA;20DAMMA;20KASRA;20FATHATAN;20DAMMATAN;20KASRATAN;10TONE ONE DOT ABOVE",
    "21TWO DOTS;21LOOP;20ONE DOT BELOW;21TWO DOTS;21LOOP;10OPEN FATHATAN;20DAMMATAN;20KASRATAN",
    "10SMALL HIGH WAW;10FATHA WITH RING;30DOT ABOVE;10KASRA WITH DOT BELOW",
    "10LEFT ARROWHEAD ABOVE;12RIGHT;10LEFT ARROWHEAD BELOW;12RIGHT",
    "10DOUBLE RIGHT ARROWHEAD ABOVE;50WITH DOT;15;12DAMMA;10MARK SIDEWAYS NOON GHUNNA",
    "00DEVANAGARI SIGN INVERTED CANDRABINDU;21;20ANUSVARA;20VISARGA;10LETTER SHORT A;21;20AA",
    "20I;20II;20U;20UU;20VOCALIC R;30L;20CANDRA E;21SHORT;21;20AI;20CANDRA O;21SHORT;21;20AU",
    "20KA;20KHA;20GA;20GHA;20NGA;20CA;20CHA;20JA;20JHA;20NYA;20TTA;20TTHA;20DDA;20DDHA;20NNA",
    "20TA;20THA;20DA;20DHA;20NA;20NNNA;20PA;20PHA;20BA;20BHA;20MA;20YA;20RA;20RRA;20LA;20LLA",
    "20LLLA;20VA;20SHA;20SSA;20SA;20HA;10VOWEL SIGN OE;30OOE;10SIGN NUKTA;20AVAGRAHA",
    "10VOWEL SIGN AA;30I;30II;30U;30UU;30VOCALIC R;40RR;30CANDRA E;31SHORT;31;30AI;30CANDRA O",
    "31SHORT;31;30AU;10SIGN VIRAMA;10VOWEL SIGN PRISHTHAMATRA E;30AW;10OM;10STRESS SIGN UDATTA",
    "30ANUDATTA;10GRAVE ACCENT;11ACUTE;10VOWEL SIGN CANDRA LONG E;30UE;30UUE;10LETTER QA;20KHHA",
    "20GHHA;20ZA;20DDDHA;20RHA;20FA;20YYA;20VOCALIC RR;30LL;10VOWEL SIGN VOCALIC L;40LL;10DANDA",
    "11DOUBLE;10DIGIT ZERO;20ONE;20TWO;20THREE;20FOUR;20FIVE;20SIX;20SEVEN;20EIGHT;20NINE",
    "10ABBREVIATION SIGN;10SIGN HIGH SPACING DOT;10LETTER CANDRA A;20OE;20OOE;20AW;20UE;20UUE",
    "20MARWARI DDA;20ZHA;20HEAVY YA;20GGA;20JJA;20GLOTTAL STOP;20DDDA;20BBA;00BENGALI ANJI",
    "10SIGN CANDRABINDU;20ANUSVARA;20VISARGA;;10LETTER A;20AA;20I;20II;20U;20UU;20VOCALIC R;30L",
    ";;20E;20AI;;;20O;20AU;20KA;20KHA;20GA;20GHA;20NGA;20CA;20CHA;20JA;20JHA;20NYA;20TTA;20TTHA",
    "20DDA;20DDHA;20NNA;20TA;20THA;20DA;20DHA;20NA;;20PA;20PHA;20BA;20BHA;20MA;20YA;20RA;;20LA;",
    ";;20SHA;20SSA;20SA;20HA;;;10SIGN NUKTA;20AVAGRAHA;10VOWEL SIGN AA;30I;30II;30U;30UU",
    "30VOCALIC R;40RR;;;30E;30AI;;;30O;30AU;10SIGN VIRAMA;10LETTER KHANDA TA;;;;;;;;",
    "10AU LENGTH MARK;;;;;10LETTER RRA;20RHA;;20YYA;20VOCALIC RR;30LL;10VOWEL SIGN VOCALIC L",
    "40LL;;;10DIGIT ZERO;20ONE;20TWO;20THREE;20FOUR;20FIVE;20SIX;20SEVEN;20EIGHT;20NINE",
    "10LETTER RA WITH MIDDLE DIAGONAL;41LOWER;10RUPEE MARK;20SIGN;10CURRENCY NUMERATOR ONE",
    "30TWO;30THREE;30FOUR;30ONE LESS THAN THE DENOMINATOR;20DENOMINATOR SIXTEEN;10ISSHAR",
    "10GANDA MARK;10LETTER VEDIC ANUSVARA;10ABBREVIATION SIGN;10SANDHI MARK;;",
    "00GURMUKHI SIGN ADAK BINDI;21;20VISARGA;;10LETTER A;20AA;20I;20II;20U;20UU;;;;;20EE;20AI;;",
    "20OO;20AU;20KA;20KHA;20GA;20GHA;20NGA;20CA;20CHA;20JA;20JHA;20NYA;20TTA;20TTHA;20DDA",
    "20DDHA;20NNA;20TA;20THA;20DA;20DHA;20NA;;20PA;20PHA;20BA;20BHA;20MA;20YA;20RA;;20LA;20LLA;",
    "20VA;20SHA;;20SA;20HA;;;10SIGN NUKTA;;10VOWEL SIGN AA;30I;30II;30U;30UU;;;;;30EE;30AI;;",
    "30OO;30AU;10SIGN VIRAMA;;;;20UDAAT;;;;;;;;10LETTER KHHA;20GHHA;20ZA;20RRA;;20FA;;;;;;;",
    "10DIGIT ZERO;20ONE;20TWO;20THREE;20FOUR;20FIVE;20SIX;20SEVEN;20EIGHT;20NINE;10TIPPI",
    "10ADDAK;10IRI;10URA;10EK ONKAR;10SIGN YAKASH;10ABBREVIATION SIGN;;;;;;;;;;",
    "00GUJARATI SIGN CANDRABINDU;20ANUSVARA;20VISARGA;;10LETTER A;20AA;20I;20II;20U;20UU",
    "20VOCALIC R;30L;10VOWEL CANDRA E;;11LETTER;20AI;10VOWEL CANDRA O;;11LETTER;20AU;20KA;20KHA",
    "20GA;20GHA;20NGA;20CA;20CHA;20JA;20JHA;20NYA;20TTA;20TTHA;20DDA;20DDHA;20NNA;20TA;20THA",
    "20DA;20DHA;20NA;;20PA;20PHA;20BA;20BHA;20MA;20YA;20RA;;20LA;20LLA;;20VA;20SHA;20SSA;20SA",
    "20HA;;;10SIGN NUKTA;20AVAGRAHA;10VOWEL SIGN AA;30I;30II;30U;30UU;30VOCALIC R;40RR",
    "30CANDRA E;;31;30AI;30CANDRA O;;31;30AU;10SIGN VIRAMA;;;10OM;;;;;;;;;;;;;;;",
    "10LETTER VOCALIC RR;30LL;10VOWEL SIGN VOCALIC L;40LL;;;10DIGIT ZERO;20ONE;20TWO;20THREE",
    "20FOUR;20FIVE;20SIX;20SEVEN;20EIGHT;20NINE;10ABBREVIATION SIGN;11RUPEE;;;;;;;;10LETTER ZHA",
    "10SIGN SUKUN;20SHADDA;20MADDAH;20THREE-DOT NUKTA ABOVE;22CIRCLE;22TWO-CIRCLE;",
    "00ORIYA SIGN CANDRABINDU;20ANUSVARA;20VISARGA;;10LETTER A;20AA;20I;20II;20U;20UU",
    "20VOCALIC R;30L;;;20E;20AI;;;20O;20AU;20KA;20KHA;20GA;20GHA;20NGA;20CA;20CHA;20JA;20JHA",
    "20NYA;20TTA;20TTHA;20DDA;20DDHA;20NNA;20TA;20THA;20DA;20DHA;20NA;;20PA;20PHA;20BA;20BHA",
    "20MA;20YA;20RA;;20LA;20LLA;;20VA;20SHA;20SSA;20SA;20HA;;;10SIGN NUKTA;20AVAGRAHA",
    "10VOWEL SIGN AA;30I;30II;30U;30UU;30VOCALIC R;40RR;;;30E;30AI;;;30O;30AU;10SIGN VIRAMA;;;;",
    ";;;20OVERLINE;10AI LENGTH MARK;12AU;;;;;10LETTER RRA;20RHA;;20YYA;20VOCALIC RR;30LL",
    "10VOWEL SIGN VOCALIC L;40LL;;;10DIGIT ZERO;20ONE;20TWO;20THREE;20FOUR;20FIVE;20SIX;20SEVEN",
    "20EIGHT;20NINE;10ISSHAR;10LETTER WA;10FRACTION ONE QUARTER;30HALF;20THREE QUARTERS",
    "20ONE SIXTEENTH;30EIGHTH;20THREE SIXTEENTHS;;;;;;;;;;;00TAMIL SIGN ANUSVARA;20VISARGA;",
    "10LETTER A;20AA;20I;20II;20U;20UU;;;;20E;20EE;20AI;;20O;20OO;20AU;20KA;;;;20NGA;20CA;;20JA",
    ";20NYA;20TTA;;;;20NNA;20TA;;;;20NA;20NNNA;20PA;;;;20MA;20YA;20RA;20RRA;20LA;20LLA;20LLLA",
    "20VA;20SHA;20SSA;20SA;20HA;;;;;10VOWEL SIGN AA;30I;30II;30U;30UU;;;;30E;30EE;30AI;;30O",
    "30OO;30AU;10SIGN VIRAMA;;;10OM;;;;;;;10AU LENGTH MARK;;;;;;;;;;;;;;;10DIGIT ZERO;20ONE",
    "20TWO;20THREE;20FOUR;20FIVE;20SIX;20SEVEN;20EIGHT;20NINE;10NUMBER TEN;20ONE HUNDRED",
    "30THOUSAND;10DAY SIGN;11MONTH;11YEAR;11DEBIT;11CREDIT;11AS ABOVE;11RUPEE;11NUMBER;;;;;",
    "00TELUGU SIGN COMBINING CANDRABINDU ABOVE;20CANDRABINDU;20ANUSVARA;20VISARGA",
    "20COMBINING ANUSVARA ABOVE;10LETTER A;20AA;20I;20II;20U;20UU;20VOCALIC R;30L;;20E;20EE",
    "20AI;;20O;20OO;20AU;20KA;20KHA;20GA;20GHA;20NGA;20CA;20CHA;20JA;20JHA;20NYA;20TTA;20TTHA",
    "20DDA;20DDHA;20NNA;20TA;20THA;20DA;20DHA;20NA;;20PA;20PHA;20BA;20BHA;20MA;20YA;20RA;20RRA",
    "20LA;20LLA;20LLLA;20VA;20SHA;20SSA;20SA;20HA;;;10SIGN NUKTA;20AVAGRAHA;10VOWEL SIGN AA;30I",
    "30II;30U;30UU;30VOCALIC R;40RR;;30E;30EE;30AI;;30O;30OO;30AU;10SIGN VIRAMA;;;;;;;",
    "10LENGTH MARK;12AI;;10LETTER TSA;20DZA;20RRRA;;;20NAKAARA POLLU;;;20VOCALIC RR;30LL",
    "10VOWEL SIGN VOCALIC L;40LL;;;10DIGIT ZERO;20ONE;20TWO;20THREE;20FOUR;20FIVE;20SIX;20SEVEN",
    "20EIGHT;20NINE;;;;;;;;10SIGN SIDDHAM;10FRACTION DIGIT ZERO FOR ODD POWERS OF FOUR;35ONE",
    "35TWO;35THREE;33ONE FOR EVEN;35TWO;35THREE;10SIGN TUUMU;00KANNADA SIGN SPACING CANDRABINDU",
    "21;20ANUSVARA;20VISARGA;20SIDDHAM;10LETTER A;20AA;20I;20II;20U;20UU;20VOCALIC R;30L;;20E",
    "20EE;20AI;;20O;20OO;20AU;20KA;20KHA;20GA;20GHA;20NGA;20CA;20CHA;20JA;20JHA;20NYA;20TTA",
    "20TTHA;20DDA;20DDHA;20NNA;20TA;20THA;20DA;20DHA;20NA;;20PA;20PHA;20BA;20BHA;20MA;20YA;20RA",
    "20RRA;20LA;20LLA;;20VA;20SHA;20SSA;20SA;20HA;;;10SIGN NUKTA;20AVAGRAHA;10VOWEL SIGN AA;30I",
    "30II;30U;30UU;30VOCALIC R;40RR;;30E;30EE;30AI;;30O;30OO;30AU;10SIGN VIRAMA;;;;;;;",
    "10LENGTH MARK;12AI;;;;;;;10LETTER NAKAARA POLLU;20FA;;20VOCALIC RR;30LL",
    "10VOWEL SIGN VOCALIC L;40LL;;;10DIGIT ZERO;20ONE;20TWO;20THREE;20FOUR;20FIVE;20SIX;20SEVEN",
    "20EIGHT;20NINE;;10SIGN JIHVAMULIYA;20UPADHMANIYA;;;;;;;;;;;;;",
    "00MALAYALAM SIGN COMBINING ANUSVARA ABOVE;20CANDRABINDU;20ANUSVARA;20VISARGA",
    "10LETTER VEDIC ANUSVARA;20A;20AA;20I;20II;20U;20UU;20VOCALIC R;30L;;20E;20EE;20AI;;20O",
    "20OO;20AU;20KA;20KHA;20GA;20GHA;20NGA;20CA;20CHA;20JA;20JHA;20NYA;20TTA;20TTHA;20DDA",
    "20DDHA;20NNA;20TA;20THA;20DA;20DHA;20NA;20NNNA;20PA;20PHA;20BA;20BHA;20MA;20YA;20RA;20RRA",
    "20LA;20LLA;20LLLA;20VA;20SHA;20SSA;20SA;20HA;20TTTA;10SIGN VERTICAL BAR VIRAMA;21CIRCULAR",
    "20AVAGRAHA;10VOWEL SIGN AA;30I;30II;30U;30UU;30VOCALIC R;40RR;;30E;30EE;30AI;;30O;30OO",
    "30AU;10SIGN VIRAMA;10LETTER DOT REPH;10SIGN PARA;;;;;10LETTER CHILLU M;30Y;30LLL",
    "10AU LENGTH MARK;10FRACTION ONE ONE-HUNDRED-AND-SIXTIETH;30FORTIETH;20THREE EIGHTIETHS",
    "20ONE TWENTIETH;30TENTH;20THREE TWENTIETHS;20ONE FIFTH;10LETTER ARCHAIC II;20VOCALIC RR",
    "30LL;10VOWEL SIGN VOCALIC L;40LL;;;10DIGIT ZERO;20ONE;20TWO;20THREE;20FOUR;20FIVE;20SIX",
    "20SEVEN;20EIGHT;20NINE;10NUMBER TEN;20ONE HUNDRED;30THOUSAND;10FRACTION ONE QUARTER;30HALF",
    "20THREE QUARTERS;20ONE SIXTEENTH;30EIGHTH;20THREE SIXTEENTHS;10DATE MARK",
    "10LETTER CHILLU NN;30N;30RR;30L;30LL;30K;;00SINHALA SIGN CANDRABINDU;20ANUSVARAYA",
    "20VISARGAYA;;10LETTER AYANNA;20AAYANNA;20AEYANNA;20AEEYANNA;20IYANNA;20IIYANNA;20UYANNA",
    "20UUYANNA;20IRUYANNA;20IRUUYANNA;20ILUYANNA;20ILUUYANNA;20EYANNA;20EEYANNA;20AIYANNA",
    "20OYANNA;20OOYANNA;20AUYANNA;;;;20ALPAPRAANA KAYANNA;21MAHAAPRAANA;20ALPAPRAANA GAYANNA",
    "21MAHAAPRAANA;20KANTAJA NAASIKYAYA;20SANYAKA GAYANNA;20ALPAPRAANA CAYANNA;21MAHAAPRAANA",
    "20ALPAPRAANA JAYANNA;21MAHAAPRAANA;20TAALUJA NAASIKYAYA;30SANYOOGA NAAKSIKYAYA",
    "20SANYAKA JAYANNA;20ALPAPRAANA TTAYANNA;21MAHAAPRAANA;20ALPAPRAANA DDAYANNA;21MAHAAPRAANA",
    "20MUURDHAJA NAYANNA;20SANYAKA DDAYANNA;20ALPAPRAANA TAYANNA;21MAHAAPRAANA",
    "20ALPAPRAANA DAYANNA;21MAHAAPRAANA;20DANTAJA NAYANNA;;20SANYAKA DAYANNA",
    "20ALPAPRAANA PAYANNA;21MAHAAPRAANA;20ALPAPRAANA BAYANNA;21MAHAAPRAANA;20MAYANNA",
    "20AMBA BAYANNA;20YAYANNA;20RAYANNA;;20DANTAJA LAYANNA;;;20VAYANNA;20TAALUJA SAYANNA",
    "21MUURDHAJA;21DANTAJA;20HAYANNA;20MUURDHAJA LAYANNA;20FAYANNA;;;;10SIGN AL-LAKUNA;;;;",
    "10VOWEL SIGN AELA-PILLA;30KETTI AEDA-PILLA;31DIGA;30KETTI IS-PILLA;31DIGA",
    "30KETTI PAA-PILLA;;31DIGA;;30GAETTA-PILLA;30KOMBUVA;31DIGA;30KOMBU DEKA",
    "30KOMBUVA HAA AELA-PILLA;51DIGA;50GAYANUKITTA;31;;;;;;;10LITH DIGIT ZERO;30ONE;30TWO",
    "30THREE;30FOUR;30FIVE;30SIX;30SEVEN;30EIGHT;30NINE;;;10VOWEL SIGN DIGA GAETTA-PILLA",
    "40GAYANUKITTA;10PUNCTUATION KUNDDALIYA;;;;;;;;;;;;;00THAI CHARACTER KO KAI;20KHO KHAI",
    "30KHUAT;30KHWAI;30KHON;30RAKHANG;20NGO NGU;20CHO CHAN;30CHING;30CHANG;20SO SO;20CHO CHOE",
    "20YO YING;20DO CHADA;20TO PATAK;20THO THAN;30NANGMONTHO;30PHUTHAO;20NO NEN;20DO DEK",
    "20TO TAO;20THO THUNG;30THAHAN;30THONG;20NO NU;20BO BAIMAI;20PO PLA;20PHO PHUNG;20FO FA",
    "20PHO PHAN;20FO FAN;20PHO SAMPHAO;20MO MA;20YO YAK;20RO RUA;20RU;20LO LING;20LU;20WO WAEN",
    "20SO SALA;30RUSI;30SUA;20HO HIP;20LO CHULA;20O ANG;20HO NOKHUK;20PAIYANNOI;20SARA A",
    "20MAI HAN-AKAT;20SARA AA;30AM;30I;30II;30UE;30UEE;30U;30UU;20PHINTHU;;;;",
    "10CURRENCY SYMBOL BAHT;10CHARACTER SARA E;30AE;30O;30AI MAIMUAN;40MAIMALAI;20LAKKHANGYAO",
    "20MAIYAMOK;20MAITAIKHU;20MAI EK;30THO;30TRI;30CHATTAWA;20THANTHAKHAT;20NIKHAHIT;20YAMAKKAN",
    "20FONGMAN;10DIGIT ZERO;20ONE;20TWO;20THREE;20FOUR;20FIVE;20SIX;20SEVEN;20EIGHT;20NINE",
    "10CHARACTER ANGKHANKHU;20KHOMUT"]⟩,
    ⟨0xE81, [
    "00LAO LETTER KO;20KHO SUNG;;30TAM;;20PALI GHA;20NGO;20CO;20PALI CHA;20SO TAM;;20PALI JHA",
    "20NYO;20PALI NYA;30TTA;30TTHA;30DDA;30DDHA;30NNA;20DO;20TO;20THO SUNG;30TAM;20PALI DHA",
    "20NO;20BO;20PO;20PHO SUNG;20FO TAM;21PHO;20FO SUNG;20PALI BHA;20MO;20YO;20LO LING;;30LOOT;",
    "20WO;20SANSKRIT SHA;30SSA;20SO SUNG;21HO;20PALI LLA;20O;20HO TAM;10ELLIPSIS;10VOWEL SIGN A",
    "30MAI KAN;30AA;30AM;30I;30II;30Y;30YY;30U;30UU;10SIGN PALI VIRAMA;10VOWEL SIGN MAI KON",
    "10SEMIVOWEL SIGN LO;30NYO;;;10VOWEL SIGN E;30EI;30O;30AY;30AI;;10KO LA;;10TONE MAI EK",
    "30THO;30TI;30CATAWA;10CANCELLATION MARK;10NIGGAHITA;;;10DIGIT ZERO;20ONE;20TWO;20THREE",
    "20FOUR;20FIVE;20SIX;20SEVEN;20EIGHT;20NINE;;;10HO NO;20MO;10LETTER KHMU GO;30NYO"]⟩,
    ⟨0xF00, [
    "00TIBETAN SYLLABLE OM;10MARK GTER YIG MGO TRUNCATED A;50-UM RNAM BCAD MA;61GTER TSHEG",
    "21INITIAL YIG MGO MDUN;21CLOSING YIG MGO SGAB;21CARET YIG MGO PHUR SHAD;22YIG MGO TSHEG",
    "20SBRUL SHAD;20BSKUR YIG MGO;22BKA- SHOG;20INTERSYLLABIC TSHEG;20DELIMITER TSHEG BSTAR",
    "20SHAD;21NYIS;21TSHEG;22NYIS;21RIN CHEN SPUNGS;21RGYA GRAM;20CARET -DZUD RTAGS ME LONG CAN",
    "20GTER TSHEG;10LOGOTYPE SIGN CHAD RTAGS;31LHAG;11ASTROLOGICAL SIGN SGRA GCAN -CHAR",
    "30-KHYUD PA;30SDONG TSHUGS;10SIGN RDEL DKAR GCIG;40GNYIS;40GSUM;30NAG GCIG;40GNYIS",
    "30DKAR RDEL NAG;10DIGIT ZERO;20ONE;20TWO;20THREE;20FOUR;20FIVE;20SIX;20SEVEN;20EIGHT",
    "20NINE;20HALF ONE;30TWO;30THREE;30FOUR;30FIVE;30SIX;30SEVEN;30EIGHT;30NINE;30ZERO",
    "10MARK BSDUS RTAGS;20NGAS BZUNG NYI ZLA;20CARET -DZUD RTAGS BZHI MIG CAN",
    "20NGAS BZUNG SGOR RTAGS;20CHE MGO;20TSA -PHRU;20GUG RTAGS GYON;40GYAS;20ANG KHANG GYON",
    "40GYAS;10SIGN YAR TSHES;21MAR;10LETTER KA;20KHA;20GA;20GHA;20NGA;20CA;20CHA;20JA;;20NYA",
    "20TTA;20TTHA;20DDA;20DDHA;20NNA;20TA;20THA;20DA;20DHA;20NA;20PA;20PHA;20BA;20BHA;20MA",
    "20TSA;20TSHA;20DZA;20DZHA;20WA;20ZHA;20ZA;20-A;20YA;20RA;20LA;20SHA;20SSA;20SA;20HA;20A",
    "20KSSA;20FIXED-FORM RA;20KKA;20RRA;;;;;10VOWEL SIGN AA;30I;30II;30U;30UU;30VOCALIC R;40RR",
    "40L;40LL;30E;30EE;30O;30OO;10SIGN RJES SU NGA RO;20RNAM BCAD;10VOWEL SIGN REVERSED I;40II",
    "10SIGN NYI ZLA NAA DA;20SNA LDAN;10MARK HALANTA;20PALUTA;10SIGN LCI RTAGS;21YANG",
    "20LCE TSA CAN;21MCHU;20GRU CAN RGYINGS;31MED;20INVERTED MCHU CAN;11SUBJOINED SIGN LCE TSA",
    "31MCHU;32INVERTED;20LETTER KA;30KHA;30GA;30GHA;30NGA;30CA;30CHA;30JA;;30NYA;30TTA;30TTHA",
    "30DDA;30DDHA;30NNA;30TA;30THA;30DA;30DHA;30NA;30PA;30PHA;30BA;30BHA;30MA;30TSA;30TSHA",
    "30DZA;30DZHA;30WA;30ZHA;30ZA;30-A;30YA;30RA;30LA;30SHA;30SSA;30SA;30HA;30A;30KSSA",
    "30FIXED-FORM WA;40YA;40RA;;10KU RU KHA;40BZHI MIG CAN;10CANTILLATION SIGN HEAVY BEAT",
    "31LIGHT;30CANG TE-U;30SBUB -CHAL;10SYMBOL DRIL BU;20RDO RJE;20PADMA GDAN",
    "20RDO RJE RGYA GRAM;20PHUR PA;20NOR BU;40NYIS -KHYIL;41GSUM;41BZHI;",
    "10SIGN RDEL NAG RDEL DKAR;40GSUM;10MARK BSKA- SHOG GI MGO RGYAN;23MNYAM YIG;20NYIS TSHEG",
    "20INITIAL BRDA RNYING YIG MGO MDUN MA;21CLOSING BRDA RNYING YIG MGO SGAB",
    "00RIGHT-FACING SVASTI SIGN;02LEFT-FACING;00RIGHT-FACING SVASTI SIGN WITH DOTS",
    "04LEFT-FACING;00TIBETAN MARK LEADING MCHAN RTAGS;22TRAILING"]⟩]

end QuerySchema.Text.CharacterName
