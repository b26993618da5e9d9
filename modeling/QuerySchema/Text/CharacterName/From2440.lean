import QuerySchema.Text.CharacterName.Run

/-!
Names of the characters from U+2440 on.
-/

namespace QuerySchema.Text.CharacterName

/-- The names from U+2440 on. -/
def namesFrom2440 : List NameRun :=
  [⟨0x2440, [
    "00OCR HOOK;10CHAIR;10FORK;11INVERTED;10BELT BUCKLE;10BOW TIE;10BRANCH BANK IDENTIFICATION",
    "10AMOUNT OF CHECK;10DASH;10CUSTOMER ACCOUNT NUMBER;10DOUBLE BACKSLASH;;;;;;;;;;;;;;;;;;;;;",
    "00CIRCLED DIGIT ONE;20TWO;20THREE;20FOUR;20FIVE;20SIX;20SEVEN;20EIGHT;20NINE;10NUMBER TEN",
    "20ELEVEN;20TWELVE;20THIRTEEN;20FOURTEEN;20FIFTEEN;20SIXTEEN;20SEVENTEEN;20EIGHTEEN",
    "20NINETEEN;20TWENTY;00PARENTHESIZED DIGIT ONE;20TWO;20THREE;20FOUR;20FIVE;20SIX;20SEVEN",
    "20EIGHT;20NINE;10NUMBER TEN;20ELEVEN;20TWELVE;20THIRTEEN;20FOURTEEN;20FIFTEEN;20SIXTEEN",
    "20SEVENTEEN;20EIGHTEEN;20NINETEEN;20TWENTY;00DIGIT ONE FULL STOP;12TWO;12THREE;12FOUR",
    "12FIVE;12SIX;12SEVEN;12EIGHT;12NINE;02NUMBER TEN;12ELEVEN;12TWELVE;12THIRTEEN;12FOURTEEN",
    "12FIFTEEN;12SIXTEEN;12SEVENTEEN;12EIGHTEEN;12NINETEEN;12TWENTY",
    "00PARENTHESIZED LATIN SMALL LETTER A;40B;40C;40D;40E;40F;40G;40H;40I;40J;40K;40L;40M;40N",
    "40O;40P;40Q;40R;40S;40T;40U;40V;40W;40X;40Y;40Z;00CIRCLED LATIN CAPITAL LETTER A;40B;40C",
    "40D;40E;40F;40G;40H;40I;40J;40K;40L;40M;40N;40O;40P;40Q;40R;40S;40T;40U;40V;40W;40X;40Y",
    "40Z;20SMALL LETTER A;40B;40C;40D;40E;40F;40G;40H;40I;40J;40K;40L;40M;40N;40O;40P;40Q;40R",
    "40S;40T;40U;40V;40W;40X;40Y;40Z;10DIGIT ZERO;00NEGATIVE CIRCLED NUMBER ELEVEN;30TWELVE",
    "30THIRTEEN;30FOURTEEN;30FIFTEEN;30SIXTEEN;30SEVENTEEN;30EIGHTEEN;30NINETEEN;30TWENTY",
    "00DOUBLE CIRCLED DIGIT ONE;30TWO;30THREE;30FOUR;30FIVE;30SIX;30SEVEN;30EIGHT;30NINE",
    "20NUMBER TEN;00NEGATIVE CIRCLED DIGIT ZERO;00BOX DRAWINGS LIGHT HORIZONTAL;21HEAVY",
    "20LIGHT VERTICAL;21HEAVY;20LIGHT TRIPLE DASH HORIZONTAL;23HEAVY",
    "20LIGHT TRIPLE DASH VERTICAL;23HEAVY;20LIGHT QUADRUPLE DASH HORIZONTAL;23HEAVY",
    "20LIGHT QUADRUPLE DASH VERTICAL;23HEAVY;20LIGHT DOWN AND RIGHT",
    "20DOWN LIGHT AND RIGHT HEAVY;30HEAVY AND RIGHT LIGHT;20HEAVY DOWN AND RIGHT",
    "20LIGHT DOWN AND LEFT;20DOWN LIGHT AND LEFT HEAVY;30HEAVY AND LEFT LIGHT",
    "20HEAVY DOWN AND LEFT;20LIGHT UP AND RIGHT;20UP LIGHT AND RIGHT HEAVY",
    "30HEAVY AND RIGHT LIGHT;20HEAVY UP AND RIGHT;20LIGHT UP AND LEFT;20UP LIGHT AND LEFT HEAVY",
    "30HEAVY AND LEFT LIGHT;20HEAVY UP AND LEFT;20LIGHT VERTICAL AND RIGHT",
    "20VERTICAL LIGHT AND RIGHT HEAVY;20UP HEAVY AND RIGHT DOWN LIGHT;21DOWN HEAVY AND RIGHT UP",
    "21VERTICAL HEAVY AND RIGHT;20DOWN LIGHT AND RIGHT UP HEAVY;21UP LIGHT AND RIGHT DOWN",
    "20HEAVY VERTICAL AND RIGHT;20LIGHT VERTICAL AND LEFT;20VERTICAL LIGHT AND LEFT HEAVY",
    "20UP HEAVY AND LEFT DOWN LIGHT;21DOWN HEAVY AND LEFT UP;21VERTICAL HEAVY AND LEFT",
    "20DOWN LIGHT AND LEFT UP HEAVY;21UP LIGHT AND LEFT DOWN;20HEAVY VERTICAL AND LEFT",
    "20LIGHT DOWN AND HORIZONTAL;20LEFT HEAVY AND RIGHT DOWN LIGHT;22RIGHT HEAVY AND LEFT",
    "20DOWN LIGHT AND HORIZONTAL HEAVY;30HEAVY AND HORIZONTAL LIGHT",
    "20RIGHT LIGHT AND LEFT DOWN HEAVY;22LEFT LIGHT AND RIGHT;20HEAVY DOWN AND HORIZONTAL",
    "22LIGHT UP;20LEFT HEAVY AND RIGHT UP LIGHT;22RIGHT HEAVY AND LEFT",
    "20UP LIGHT AND HORIZONTAL HEAVY;30HEAVY AND HORIZONTAL LIGHT",
    "20RIGHT LIGHT AND LEFT UP HEAVY;22LEFT LIGHT AND RIGHT;20HEAVY UP AND HORIZONTAL",
    "22LIGHT VERTICAL;20LEFT HEAVY AND RIGHT VERTICAL LIGHT;22RIGHT HEAVY AND LEFT",
    "20VERTICAL LIGHT AND HORIZONTAL HEAVY;20UP HEAVY AND DOWN HORIZONTAL LIGHT",
    "22DOWN HEAVY AND UP;22VERTICAL HEAVY AND;21LEFT UP HEAVY AND RIGHT DOWN",
    "22RIGHT UP HEAVY AND LEFT;21LEFT DOWN HEAVY AND RIGHT UP;22RIGHT DOWN HEAVY AND LEFT",
    "20DOWN LIGHT AND UP HORIZONTAL HEAVY;22UP LIGHT AND DOWN;21RIGHT LIGHT AND LEFT VERTICAL",
    "22LEFT LIGHT AND RIGHT;20HEAVY VERTICAL AND HORIZONTAL;21LIGHT DOUBLE DASH;23HEAVY",
    "20LIGHT DOUBLE DASH VERTICAL;23HEAVY;20DOUBLE HORIZONTAL;30VERTICAL",
    "20DOWN SINGLE AND RIGHT DOUBLE;30DOUBLE AND RIGHT SINGLE;20DOUBLE DOWN AND RIGHT",
    "20DOWN SINGLE AND LEFT DOUBLE;30DOUBLE AND LEFT SINGLE;20DOUBLE DOWN AND LEFT",
    "20UP SINGLE AND RIGHT DOUBLE;30DOUBLE AND RIGHT SINGLE;20DOUBLE UP AND RIGHT",
    "20UP SINGLE AND LEFT DOUBLE;30DOUBLE AND LEFT SINGLE;20DOUBLE UP AND LEFT",
    "20VERTICAL SINGLE AND RIGHT DOUBLE;30DOUBLE AND RIGHT SINGLE;20DOUBLE VERTICAL AND RIGHT",
    "20VERTICAL SINGLE AND LEFT DOUBLE;30DOUBLE AND LEFT SINGLE;20DOUBLE VERTICAL AND LEFT",
    "20DOWN SINGLE AND HORIZONTAL DOUBLE;30DOUBLE AND HORIZONTAL SINGLE",
    "20DOUBLE DOWN AND HORIZONTAL;20UP SINGLE AND HORIZONTAL DOUBLE",
    "30DOUBLE AND HORIZONTAL SINGLE;20DOUBLE UP AND HORIZONTAL",
    "20VERTICAL SINGLE AND HORIZONTAL DOUBLE;30DOUBLE AND HORIZONTAL SINGLE",
    "20DOUBLE VERTICAL AND HORIZONTAL;20LIGHT ARC DOWN AND RIGHT;60LEFT;42UP;60RIGHT",
    "30DIAGONAL UPPER RIGHT TO LOWER LEFT;50LEFT TO LOWER RIGHT;40CROSS;30LEFT;30UP;30RIGHT",
    "30DOWN;20HEAVY LEFT;30UP;30RIGHT;30DOWN;20LIGHT LEFT AND HEAVY RIGHT;30UP AND HEAVY DOWN",
    "20HEAVY LEFT AND LIGHT RIGHT;30UP AND LIGHT DOWN;00UPPER HALF BLOCK;01LOWER ONE EIGHTH",
    "21QUARTER;11THREE EIGHTHS;11HALF;11FIVE EIGHTHS;11THREE QUARTERS;11SEVEN EIGHTHS;01FULL",
    "01LEFT SEVEN EIGHTHS;11THREE QUARTERS;11FIVE EIGHTHS;11HALF;11THREE EIGHTHS;11ONE QUARTER",
    "21EIGHTH;01RIGHT HALF;00LIGHT SHADE;01MEDIUM;01DARK;00UPPER ONE EIGHTH BLOCK;03RIGHT",
    "00QUADRANT LOWER LEFT;20RIGHT;10UPPER LEFT;30AND LOWER LEFT AND LOWER RIGHT;51",
    "40UPPER RIGHT AND LOWER LEFT;80RIGHT;21;30AND LOWER LEFT;60AND LOWER RIGHT;00BLACK SQUARE",
    "01WHITE;20WITH ROUNDED CORNERS;20CONTAINING BLACK SMALL SQUARE",
    "00SQUARE WITH HORIZONTAL FILL;21VERTICAL;21ORTHOGONAL CROSSHATCH",
    "21UPPER LEFT TO LOWER RIGHT;31RIGHT TO LOWER LEFT;21DIAGONAL CROSSHATCH",
    "00BLACK SMALL SQUARE;02WHITE;00BLACK RECTANGLE;01WHITE;01BLACK VERTICAL;02WHITE",
    "00BLACK PARALLELOGRAM;01WHITE;00BLACK UP-POINTING TRIANGLE;02WHITE",
    "01BLACK UP-POINTING SMALL;03WHITE;01BLACK RIGHT-POINTING;02WHITE",
    "01BLACK RIGHT-POINTING SMALL;03WHITE;00BLACK RIGHT-POINTING POINTER;02WHITE",
    "00BLACK DOWN-POINTING TRIANGLE;02WHITE;01BLACK DOWN-POINTING SMALL;03WHITE",
    "01BLACK LEFT-POINTING;02WHITE;01BLACK LEFT-POINTING SMALL;03WHITE",
    "00BLACK LEFT-POINTING POINTER;02WHITE;00BLACK DIAMOND;01WHITE",
    "20CONTAINING BLACK SMALL DIAMOND;00FISHEYE;00LOZENGE;00WHITE CIRCLE;01DOTTED",
    "00CIRCLE WITH VERTICAL FILL;00BULLSEYE;00BLACK CIRCLE;00CIRCLE WITH LEFT HALF BLACK",
    "22RIGHT;22LOWER;22UPPER;31RIGHT QUADRANT;22ALL BUT UPPER LEFT;00LEFT HALF BLACK CIRCLE",
    "03RIGHT;00INVERSE BULLET;10WHITE CIRCLE;03UPPER HALF;04LOWER",
    "00UPPER LEFT QUADRANT CIRCULAR ARC;13RIGHT;04LOWER;13LEFT;00UPPER HALF CIRCLE;02LOWER",
    "00BLACK LOWER RIGHT TRIANGLE;21LEFT;12UPPER;21RIGHT;00WHITE BULLET",
    "00SQUARE WITH LEFT HALF BLACK;22RIGHT;22UPPER LEFT DIAGONAL;23LOWER RIGHT",
    "00WHITE SQUARE WITH VERTICAL BISECTING LINE;10UP-POINTING TRIANGLE WITH DOT",
    "00UP-POINTING TRIANGLE WITH LEFT HALF BLACK;32RIGHT;00LARGE CIRCLE",
    "00WHITE SQUARE WITH UPPER LEFT QUADRANT;32LOWER;41RIGHT;32UPPER;11CIRCLE WITH UPPER LEFT",
    "32LOWER;41RIGHT;32UPPER;00UPPER LEFT TRIANGLE;11RIGHT;01LOWER LEFT;00WHITE MEDIUM SQUARE",
    "02BLACK;01WHITE MEDIUM SMALL;03BLACK;00LOWER RIGHT TRIANGLE;00BLACK SUN WITH RAYS;00CLOUD",
    "00UMBRELLA;00SNOWMAN;00COMET;00BLACK STAR;01WHITE;00LIGHTNING;00THUNDERSTORM;00SUN",
    "00ASCENDING NODE;01DESCENDING;00CONJUNCTION;00OPPOSITION;00BLACK TELEPHONE;01WHITE",
    "00BALLOT BOX;20WITH CHECK;30X;00SALTIRE;00UMBRELLA WITH RAIN DROPS;00HOT BEVERAGE",
    "00WHITE SHOGI PIECE;02BLACK;00SHAMROCK;00REVERSED ROTATED FLORAL HEART BULLET",
    "00BLACK LEFT POINTING INDEX;12RIGHT;02WHITE LEFT;12UP;12RIGHT;12DOWN",
    "00SKULL AND CROSSBONES;00CAUTION SIGN;01RADIOACTIVE;01BIOHAZARD;00CADUCEUS;00ANKH",
    "00ORTHODOX CROSS;00CHI RHO;00CROSS OF LORRAINE;20JERUSALEM;00STAR AND CRESCENT",
    "00FARSI SYMBOL;00ADI SHAKTI;00HAMMER AND SICKLE;00PEACE SYMBOL;00YIN YANG",
    "00TRIGRAM FOR HEAVEN;20LAKE;20FIRE;20THUNDER;20WIND;20WATER;20MOUNTAIN;20EARTH",
    "00WHEEL OF DHARMA;00WHITE FROWNING FACE;11SMILING;02BLACK;00WHITE SUN WITH RAYS",
    "00FIRST QUARTER MOON;02LAST;00MERCURY;00FEMALE SIGN;00EARTH;00MALE SIGN;00JUPITER;00SATURN",
    "00URANUS;00NEPTUNE;00PLUTO;00ARIES;00TAURUS;00GEMINI;00CANCER;00LEO;00VIRGO;00LIBRA",
    "00SCORPIUS;00SAGITTARIUS;00CAPRICORN;00AQUARIUS;00PISCES;00WHITE CHESS KING;20QUEEN;20ROOK",
    "20BISHOP;20KNIGHT;20PAWN;00BLACK CHESS KING;20QUEEN;20ROOK;20BISHOP;20KNIGHT;20PAWN",
    "10SPADE SUIT;01WHITE HEART;11DIAMOND;01BLACK CLUB;01WHITE SPADE;01BLACK HEART;11DIAMOND",
    "01WHITE CLUB;00HOT SPRINGS;00QUARTER NOTE;01EIGHTH;00BEAMED EIGHTH NOTES;11SIXTEENTH",
    "00MUSIC FLAT SIGN;11NATURAL;11SHARP;00WEST SYRIAC CROSS;02EAST",
    "00UNIVERSAL RECYCLING SYMBOL;00RECYCLING SYMBOL FOR TYPE-1 PLASTICS;31TYPE-2;31TYPE-3",
    "31TYPE-4;31TYPE-5;31TYPE-6;31TYPE-7;30GENERIC MATERIALS;00BLACK UNIVERSAL RECYCLING SYMBOL",
    "01RECYCLED PAPER;02PARTIALLY-RECYCLED;00PERMANENT PAPER SIGN;00WHEELCHAIR SYMBOL",
    "00DIE FACE-1;10FACE-2;10FACE-3;10FACE-4;10FACE-5;10FACE-6;00WHITE CIRCLE WITH DOT RIGHT",
    "30TWO DOTS;00BLACK CIRCLE WITH WHITE DOT RIGHT;30TWO WHITE DOTS;00MONOGRAM FOR YANG;20YIN",
    "00DIGRAM FOR GREATER YANG;20LESSER YIN;30YANG;20GREATER YIN;00WHITE FLAG;01BLACK",
    "00HAMMER AND PICK;00ANCHOR;00CROSSED SWORDS;00STAFF OF AESCULAPIUS;00SCALES;00ALEMBIC",
    "00FLOWER;00GEAR;00STAFF OF HERMES;00ATOM SYMBOL;00FLEUR-DE-LIS;00OUTLINED WHITE STAR",
    "00THREE LINES CONVERGING RIGHT;30LEFT;00WARNING SIGN;01HIGH VOLTAGE;01DOUBLED FEMALE",
    "11MALE;02INTERLOCKED FEMALE AND;01MALE AND FEMALE;11WITH STROKE;31AND MALE AND FEMALE",
    "01VERTICAL MALE WITH STROKE;04HORIZONTAL;00MEDIUM WHITE CIRCLE;11BLACK;11SMALL WHITE",
    "00MARRIAGE SYMBOL;01DIVORCE;01UNMARRIED PARTNERSHIP;00COFFIN;00FUNERAL URN;00NEUTER",
    "00CERES;00PALLAS;00JUNO;00VESTA;00CHIRON;00BLACK MOON LILITH;00SEXTILE;00SEMISEXTILE",
    "00QUINCUNX;00SESQUIQUADRATE;00SOCCER BALL;00BASEBALL;00SQUARED KEY;00WHITE DRAUGHTS MAN",
    "20KING;00BLACK DRAUGHTS MAN;20KING;00SNOWMAN WITHOUT SNOW;00SUN BEHIND CLOUD;00RAIN",
    "00BLACK SNOWMAN;00THUNDER CLOUD AND RAIN;00TURNED WHITE SHOGI PIECE;12BLACK",
    "00WHITE DIAMOND IN SQUARE;00CROSSING LANES;00DISABLED CAR;00OPHIUCHUS;00PICK;00CAR SLIDING",
    "00HELMET WITH WHITE CROSS;00CIRCLED CROSSING LANES;00CHAINS;00NO ENTRY",
    "00ALTERNATE ONE-WAY LEFT WAY TRAFFIC;03BLACK TWO-WAY;04WHITE;00BLACK LEFT LANE MERGE",
    "03WHITE;00DRIVE SLOW SIGN;00HEAVY WHITE DOWN-POINTING TRIANGLE;00LEFT CLOSED ENTRY",
    "00SQUARED SALTIRE;00FALLING DIAGONAL IN WHITE CIRCLE IN BLACK SQUARE;00BLACK TRUCK",
    "00RESTRICTED LEFT ENTRY-1;20ENTRY-2;00ASTRONOMICAL SYMBOL FOR URANUS",
    "00HEAVY CIRCLE WITH STROKE AND TWO DOTS ABOVE;00PENTAGRAM;01RIGHT-HANDED INTERLACED",
    "02LEFT-HANDED;01INVERTED;00BLACK CROSS ON SHIELD;00SHINTO SHRINE;00CHURCH;00CASTLE",
    "00HISTORIC SITE;00GEAR WITHOUT HUB;10WITH HANDLES;00MAP SYMBOL FOR LIGHTHOUSE;00MOUNTAIN",
    "00UMBRELLA ON GROUND;00FOUNTAIN;00FLAG IN HOLE;00FERRY;00SAILBOAT;00SQUARE FOUR CORNERS",
    "00SKIER;00ICE SKATE;00PERSON WITH BALL;00TENT;00JAPANESE BANK SYMBOL;01HEADSTONE GRAVEYARD",
    "00FUEL PUMP;00CUP ON BLACK SQUARE;00WHITE FLAG WITH HORIZONTAL MIDDLE BLACK STRIPE",
    "00BLACK SAFETY SCISSORS;01UPPER BLADE;01BLACK;01LOWER BLADE;01WHITE;10HEAVY CHECK MARK",
    "00TELEPHONE LOCATION SIGN;00TAPE DRIVE;00AIRPLANE;00ENVELOPE;00RAISED FIST;10HAND",
    "01VICTORY;01WRITING;00LOWER RIGHT PENCIL;01;01UPPER RIGHT;00WHITE NIB;01BLACK;00CHECK MARK",
    "02HEAVY;00MULTIPLICATION X;02HEAVY;01BALLOT;02HEAVY;00OUTLINED GREEK CROSS;02HEAVY",
    "01OPEN CENTRE;03HEAVY;01LATIN;02SHADOWED WHITE;02OUTLINED;01MALTESE;00STAR OF DAVID",
    "00FOUR TEARDROP-SPOKED ASTERISK;11BALLOON-SPOKED;03HEAVY;01FOUR CLUB-SPOKED",
    "00BLACK FOUR POINTED STAR;03WHITE;00SPARKLES;00STRESS OUTLINED WHITE STAR;02CIRCLED",
    "01OPEN CENTRE BLACK;01BLACK CENTRE WHITE;01OUTLINED BLACK;03HEAVY;01PINWHEEL",
    "01SHADOWED WHITE;00HEAVY ASTERISK;01OPEN CENTRE;01EIGHT SPOKED;10POINTED BLACK STAR",
    "21PINWHEEL;01SIX POINTED BLACK;02EIGHT POINTED RECTILINEAR;05HEAVY;02TWELVE POINTED",
    "00SIXTEEN POINTED ASTERISK;01TEARDROP-SPOKED;02OPEN CENTRE;02HEAVY",
    "00SIX PETALLED BLACK AND WHITE FLORETTE;01BLACK;01WHITE;01EIGHT PETALLED OUTLINED BLACK",
    "00CIRCLED OPEN CENTRE EIGHT POINTED STAR;00HEAVY TEARDROP-SPOKED PINWHEEL ASTERISK",
    "00SNOWFLAKE;01TIGHT TRIFOLIATE;01HEAVY CHEVRON;00SPARKLE;01HEAVY;00BALLOON-SPOKED ASTERISK",
    "01EIGHT TEARDROP-SPOKED PROPELLER;04HEAVY;00CROSS MARK;00SHADOWED WHITE CIRCLE",
    "00NEGATIVE SQUARED CROSS MARK;00LOWER RIGHT DROP-SHADOWED WHITE SQUARE;04UPPER",
    "02LOWER RIGHT SHADOWED;04UPPER;00BLACK QUESTION MARK ORNAMENT;03WHITE;12EXCLAMATION",
    "00BLACK DIAMOND MINUS WHITE X;00HEAVY EXCLAMATION MARK SYMBOL;00LIGHT VERTICAL BAR",
    "02MEDIUM;02HEAVY;10SINGLE TURNED COMMA QUOTATION MARK ORNAMENT;24;14DOUBLE TURNED;24",
    "14LOW SINGLE;24DOUBLE;01CURVED STEM PARAGRAPH SIGN;01HEAVY EXCLAMATION MARK;13HEART",
    "10BLACK HEART;00ROTATED HEAVY BLACK HEART BULLET;00FLORAL HEART",
    "00ROTATED FLORAL HEART BULLET;00MEDIUM LEFT PARENTHESIS ORNAMENT;12RIGHT;12FLATTENED LEFT",
    "22RIGHT;11LEFT-POINTING ANGLE BRACKET;13RIGHT-POINTING",
    "01HEAVY LEFT-POINTING ANGLE QUOTATION MARK;14RIGHT-POINTING;11LEFT-POINTING ANGLE BRACKET",
    "13RIGHT-POINTING;02LIGHT LEFT TORTOISE SHELL;14RIGHT;02MEDIUM LEFT CURLY;13RIGHT",
    "00DINGBAT NEGATIVE CIRCLED DIGIT ONE;40TWO;40THREE;40FOUR;40FIVE;40SIX;40SEVEN;40EIGHT",
    "40NINE;30NUMBER TEN;10CIRCLED SANS-SERIF DIGIT ONE;40TWO;40THREE;40FOUR;40FIVE;40SIX",
    "40SEVEN;40EIGHT;40NINE;30NUMBER TEN;10NEGATIVE CIRCLED SANS-SERIF DIGIT ONE;50TWO;50THREE",
    "50FOUR;50FIVE;50SIX;50SEVEN;50EIGHT;50NINE;40NUMBER TEN",
    "00HEAVY WIDE-HEADED RIGHTWARDS ARROW;10PLUS SIGN;11MINUS;11DIVISION;10SOUTH EAST ARROW",
    "11RIGHTWARDS;11NORTH EAST;01DRAFTING POINT RIGHTWARDS;02HEAVY ROUND-TIPPED",
    "02TRIANGLE-HEADED;03HEAVY;03DASHED;04HEAVY;02BLACK",
    "00THREE-D TOP-LIGHTED RIGHTWARDS ARROWHEAD;12BOTTOM-LIGHTED;02BLACK",
    "00HEAVY BLACK CURVED DOWNWARDS AND RIGHTWARDS ARROW;33UPWARDS;02SQUAT BLACK",
    "03HEAVY CONCAVE-POINTED;02RIGHT-SHADED WHITE;03LEFT-SHADED;03BACK-TILTED SHADOWED",
    "04FRONT-TILTED;03HEAVY LOWER RIGHT-SHADOWED;14UPPER;04NOTCHED LOWER;00CURLY LOOP",
    "00NOTCHED UPPER RIGHT-SHADOWED WHITE RIGHTWARDS ARROW;03CIRCLED HEAVY;02WHITE-FEATHERED",
    "01BLACK-FEATHERED SOUTH EAST;11RIGHTWARDS;11NORTH EAST;02HEAVY BLACK-FEATHERED SOUTH",
    "21RIGHTWARDS;21NORTH EAST;01TEARDROP-BARBED RIGHTWARDS;02HEAVY TEARDROP-SHANKED",
    "02WEDGE-TAILED;03HEAVY;02OPEN-OUTLINED;00DOUBLE CURLY LOOP;00THREE DIMENSIONAL ANGLE",
    "00WHITE TRIANGLE CONTAINING SMALL WHITE TRIANGLE;00PERPENDICULAR;00OPEN SUBSET;10SUPERSET",
    "00LEFT S-SHAPED BAG DELIMITER;03RIGHT;00OR WITH DOT INSIDE",
    "00REVERSE SOLIDUS PRECEDING SUBSET;00SUPERSET PRECEDING SOLIDUS",
    "00VERTICAL BAR WITH HORIZONTAL STROKE;00MATHEMATICAL RISING DIAGONAL;00LONG DIVISION",
    "00MATHEMATICAL FALLING DIAGONAL;00SQUARED LOGICAL AND;20OR",
    "00WHITE DIAMOND WITH CENTRED DOT;01AND WITH;00ELEMENT OF OPENING UPWARDS",
    "00LOWER RIGHT CORNER WITH DOT;03UPPER LEFT;00LEFT OUTER JOIN;02RIGHT;02FULL",
    "00LARGE UP TACK;11DOWN;00LEFT AND RIGHT DOUBLE TURNSTILE;30TACK;10MULTIMAP",
    "00LONG RIGHT TACK;11LEFT;00UP TACK WITH CIRCLE ABOVE;00LOZENGE DIVIDED BY HORIZONTAL RULE",
    "00WHITE CONCAVE-SIDED DIAMOND;30WITH LEFTWARDS TICK;41RIGHTWARDS;11SQUARE WITH LEFTWARDS",
    "31RIGHTWARDS;00MATHEMATICAL LEFT WHITE SQUARE BRACKET;13RIGHT;11LEFT ANGLE;12RIGHT",
    "12LEFT DOUBLE;13RIGHT;11LEFT WHITE TORTOISE SHELL;14RIGHT;10LEFT FLATTENED PARENTHESIS",
    "12RIGHT;00UPWARDS QUADRUPLE ARROW;02DOWNWARDS;01ANTICLOCKWISE GAPPED CIRCLE;03CLOCKWISE",
    "00RIGHT ARROW WITH CIRCLED PLUS;00LONG LEFTWARDS ARROW;11RIGHTWARDS;11LEFT RIGHT",
    "11LEFTWARDS DOUBLE;12RIGHTWARDS;12LEFT RIGHT;10LEFTWARDS ARROW FROM BAR;13RIGHTWARDS",
    "13LEFTWARDS DOUBLE;14RIGHTWARDS;20SQUIGGLE ARROW;00BRAILLE PATTERN BLANK;20DOTS-1;20DOTS-2",
    "20DOTS-12;20DOTS-3;20DOTS-13;20DOTS-23;20DOTS-123;20DOTS-4;20DOTS-14;20DOTS-24;20DOTS-124",
    "20DOTS-34;20DOTS-134;20DOTS-234;20DOTS-1234;20DOTS-5;20DOTS-15;20DOTS-25;20DOTS-125",
    "20DOTS-35;20DOTS-135;20DOTS-235;20DOTS-1235;20DOTS-45;20DOTS-145;20DOTS-245;20DOTS-1245",
    "20DOTS-345;20DOTS-1345;20DOTS-2345;20DOTS-12345;20DOTS-6;20DOTS-16;20DOTS-26;20DOTS-126",
    "20DOTS-36;20DOTS-136;20DOTS-236;20DOTS-1236;20DOTS-46;20DOTS-146;20DOTS-246;20DOTS-1246",
    "20DOTS-346;20DOTS-1346;20DOTS-2346;20DOTS-12346;20DOTS-56;20DOTS-156;20DOTS-256",
    "20DOTS-1256;20DOTS-356;20DOTS-1356;20DOTS-2356;20DOTS-12356;20DOTS-456;20DOTS-1456",
    "20DOTS-2456;20DOTS-12456;20DOTS-3456;20DOTS-13456;20DOTS-23456;20DOTS-123456;20DOTS-7",
    "20DOTS-17;20DOTS-27;20DOTS-127;20DOTS-37;20DOTS-137;20DOTS-237;20DOTS-1237;20DOTS-47",
    "20DOTS-147;20DOTS-247;20DOTS-1247;20DOTS-347;20DOTS-1347;20DOTS-2347;20DOTS-12347",
    "20DOTS-57;20DOTS-157;20DOTS-257;20DOTS-1257;20DOTS-357;20DOTS-1357;20DOTS-2357",
    "20DOTS-12357;20DOTS-457;20DOTS-1457;20DOTS-2457;20DOTS-12457;20DOTS-3457;20DOTS-13457",
    "20DOTS-23457;20DOTS-123457;20DOTS-67;20DOTS-167;20DOTS-267;20DOTS-1267;20DOTS-367",
    "20DOTS-1367;20DOTS-2367;20DOTS-12367;20DOTS-467;20DOTS-1467;20DOTS-2467;20DOTS-12467",
    "20DOTS-3467;20DOTS-13467;20DOTS-23467;20DOTS-123467;20DOTS-567;20DOTS-1567;20DOTS-2567",
    "20DOTS-12567;20DOTS-3567;20DOTS-13567;20DOTS-23567;20DOTS-123567;20DOTS-4567;20DOTS-14567",
    "20DOTS-24567;20DOTS-124567;20DOTS-34567;20DOTS-134567;20DOTS-234567;20DOTS-1234567",
    "20DOTS-8;20DOTS-18;20DOTS-28;20DOTS-128;20DOTS-38;20DOTS-138;20DOTS-238;20DOTS-1238",
    "20DOTS-48;20DOTS-148;20DOTS-248;20DOTS-1248;20DOTS-348;20DOTS-1348;20DOTS-2348",
    "20DOTS-12348;20DOTS-58;20DOTS-158;20DOTS-258;20DOTS-1258;20DOTS-358;20DOTS-1358",
    "20DOTS-2358;20DOTS-12358;20DOTS-458;20DOTS-1458;20DOTS-2458;20DOTS-12458;20DOTS-3458",
    "20DOTS-13458;20DOTS-23458;20DOTS-123458;20DOTS-68;20DOTS-168;20DOTS-268;20DOTS-1268",
    "20DOTS-368;20DOTS-1368;20DOTS-2368;20DOTS-12368;20DOTS-468;20DOTS-1468;20DOTS-2468",
    "20DOTS-12468;20DOTS-3468;20DOTS-13468;20DOTS-23468;20DOTS-123468;20DOTS-568;20DOTS-1568",
    "20DOTS-2568;20DOTS-12568;20DOTS-3568;20DOTS-13568;20DOTS-23568;20DOTS-123568;20DOTS-4568",
    "20DOTS-14568;20DOTS-24568;20DOTS-124568;20DOTS-34568;20DOTS-134568;20DOTS-234568",
    "20DOTS-1234568;20DOTS-78;20DOTS-178;20DOTS-278;20DOTS-1278;20DOTS-378;20DOTS-1378",
    "20DOTS-2378;20DOTS-12378;20DOTS-478;20DOTS-1478;20DOTS-2478;20DOTS-12478;20DOTS-3478",
    "20DOTS-13478;20DOTS-23478;20DOTS-123478;20DOTS-578;20DOTS-1578;20DOTS-2578;20DOTS-12578",
    "20DOTS-3578;20DOTS-13578;20DOTS-23578;20DOTS-123578;20DOTS-4578;20DOTS-14578;20DOTS-24578",
    "20DOTS-124578;20DOTS-34578;20DOTS-134578;20DOTS-234578;20DOTS-1234578;20DOTS-678",
    "20DOTS-1678;20DOTS-2678;20DOTS-12678;20DOTS-3678;20DOTS-13678;20DOTS-23678;20DOTS-123678",
    "20DOTS-4678;20DOTS-14678;20DOTS-24678;20DOTS-124678;20DOTS-34678;20DOTS-134678",
    "20DOTS-234678;20DOTS-1234678;20DOTS-5678;20DOTS-15678;20DOTS-25678;20DOTS-125678",
    "20DOTS-35678;20DOTS-135678;20DOTS-235678;20DOTS-1235678;20DOTS-45678;20DOTS-145678",
    "20DOTS-245678;20DOTS-1245678;20DOTS-345678;20DOTS-1345678;20DOTS-2345678;20DOTS-12345678",
    "00RIGHTWARDS TWO-HEADED ARROW WITH VERTICAL STROKE;42DOUBLE;02LEFTWARDS DOUBLE ARROW WITH",
    "05RIGHTWARDS;05LEFT RIGHT;00RIGHTWARDS TWO-HEADED ARROW FROM BAR;03LEFTWARDS DOUBLE",
    "04RIGHTWARDS;00DOWNWARDS ARROW WITH HORIZONTAL STROKE;04UPWARDS;10TRIPLE ARROW;02DOWNWARDS",
    "01LEFTWARDS DOUBLE DASH;03RIGHTWARDS;02LEFTWARDS TRIPLE;03RIGHTWARDS;13TWO-HEADED",
    "10ARROW WITH DOTTED STEM;00UPWARDS ARROW TO BAR;03DOWNWARDS",
    "00RIGHTWARDS ARROW WITH TAIL WITH VERTICAL STROKE;52DOUBLE;10TWO-HEADED ARROW WITH TAIL",
    "50WITH VERTICAL STROKE;62DOUBLE;00LEFTWARDS ARROW-TAIL;01RIGHTWARDS;01LEFTWARDS DOUBLE",
    "02RIGHTWARDS;00LEFTWARDS ARROW TO BLACK DIAMOND;04RIGHTWARDS;03LEFTWARDS ARROW FROM BAR",
    "06RIGHTWARDS;00NORTH WEST AND SOUTH EAST ARROW;11EAST AND SOUTH WEST",
    "10WEST ARROW WITH HOOK;13EAST;04SOUTH;13WEST;00NORTH WEST ARROW AND NORTH EAST ARROW",
    "12EAST ARROW AND SOUTH;01SOUTH EAST ARROW AND SOUTH WEST;12WEST ARROW AND NORTH",
    "00RISING DIAGONAL CROSSING FALLING DIAGONAL;01FALLING DIAGONAL CROSSING RISING",
    "00SOUTH EAST ARROW CROSSING NORTH EAST ARROW;02NORTH EAST ARROW CROSSING SOUTH",
    "02FALLING DIAGONAL CROSSING NORTH;02RISING DIAGONAL CROSSING SOUTH",
    "01NORTH EAST ARROW CROSSING NORTH WEST;11WEST ARROW CROSSING NORTH EAST",
    "00WAVE ARROW POINTING DIRECTLY RIGHT;00ARROW POINTING RIGHTWARDS THEN CURVING UPWARDS",
    "50DOWNWARDS;20DOWNWARDS THEN CURVING LEFTWARDS;50RIGHTWARDS",
    "00RIGHT-SIDE ARC CLOCKWISE ARROW;01LEFT-SIDE ARC ANTICLOCKWISE;03TOP;03BOTTOM",
    "00TOP ARC CLOCKWISE ARROW WITH MINUS;20ANTICLOCKWISE ARROW WITH PLUS",
    "00LOWER RIGHT SEMICIRCULAR CLOCKWISE ARROW;11LEFT SEMICIRCULAR ANTICLOCKWISE",
    "01ANTICLOCKWISE CLOSED CIRCLE;03CLOCKWISE;01RIGHTWARDS ARROW ABOVE SHORT LEFTWARDS",
    "01LEFTWARDS ARROW ABOVE SHORT RIGHTWARDS;01SHORT RIGHTWARDS ARROW ABOVE LEFTWARDS",
    "00RIGHTWARDS ARROW WITH PLUS BELOW;04LEFTWARDS;00RIGHTWARDS ARROW THROUGH X",
    "00LEFT RIGHT ARROW THROUGH SMALL CIRCLE;02UPWARDS TWO-HEADED ARROW FROM",
    "00LEFT BARB UP RIGHT BARB DOWN HARPOON;21DOWN RIGHT BARB UP;01UP BARB RIGHT DOWN BARB LEFT",
    "21LEFT DOWN BARB RIGHT;01LEFT BARB UP RIGHT BARB UP;01UP BARB RIGHT DOWN BARB RIGHT",
    "01LEFT BARB DOWN RIGHT BARB DOWN;01UP BARB LEFT DOWN BARB LEFT",
    "00LEFTWARDS HARPOON WITH BARB UP TO BAR;06RIGHTWARDS;02UPWARDS HARPOON WITH BARB RIGHT",
    "06DOWNWARDS;02LEFTWARDS HARPOON WITH BARB DOWN;06RIGHTWARDS",
    "02UPWARDS HARPOON WITH BARB LEFT;06DOWNWARDS;01LEFTWARDS HARPOON WITH BARB UP FROM",
    "06RIGHTWARDS;02UPWARDS HARPOON WITH BARB RIGHT;06DOWNWARDS",
    "02LEFTWARDS HARPOON WITH BARB DOWN;06RIGHTWARDS;02UPWARDS HARPOON WITH BARB LEFT",
    "06DOWNWARDS;00LEFTWARDS HARPOON WITH BARB UP ABOVE LEFTWARDS HARPOON WITH BARB DOWN",
    "00UPWARDS HARPOON WITH BARB LEFT BESIDE UPWARDS HARPOON WITH BARB RIGHT",
    "00RIGHTWARDS HARPOON WITH BARB UP ABOVE RIGHTWARDS HARPOON WITH BARB DOWN",
    "00DOWNWARDS HARPOON WITH BARB LEFT BESIDE DOWNWARDS HARPOON WITH BARB RIGHT",
    "00LEFTWARDS HARPOON WITH BARB UP ABOVE RIGHTWARDS HARPOON WITH BARB UP",
    "40DOWN ABOVE RIGHTWARDS HARPOON WITH BARB DOWN",
    "00RIGHTWARDS HARPOON WITH BARB UP ABOVE LEFTWARDS HARPOON WITH BARB UP",
    "40DOWN ABOVE LEFTWARDS HARPOON WITH BARB DOWN",
    "00LEFTWARDS HARPOON WITH BARB UP ABOVE LONG DASH;42DOWN BELOW",
    "02RIGHTWARDS HARPOON WITH BARB UP ABOVE;42DOWN BELOW",
    "00UPWARDS HARPOON WITH BARB LEFT BESIDE DOWNWARDS HARPOON WITH BARB RIGHT",
    "04DOWNWARDS HARPOON WITH BARB LEFT BESIDE UPWARDS;00RIGHT DOUBLE ARROW WITH ROUNDED HEAD",
    "00EQUALS SIGN ABOVE RIGHTWARDS ARROW;03TILDE OPERATOR",
    "00LEFTWARDS ARROW ABOVE TILDE OPERATOR;04RIGHTWARDS;30ALMOST EQUAL TO",
    "00LESS-THAN ABOVE LEFTWARDS ARROW;00LEFTWARDS ARROW THROUGH LESS-THAN",
    "00GREATER-THAN ABOVE RIGHTWARDS ARROW;03SUBSET;00LEFTWARDS ARROW THROUGH SUBSET",
    "00SUPERSET ABOVE LEFTWARDS ARROW;00LEFT FISH TAIL;02RIGHT;02UP;02DOWN",
    "00TRIPLE VERTICAL BAR DELIMITER;00Z NOTATION SPOT;20TYPE COLON;00LEFT WHITE CURLY BRACKET",
    "03RIGHT;00LEFT WHITE PARENTHESIS;02RIGHT;00Z NOTATION LEFT IMAGE BRACKET;22RIGHT",
    "21LEFT BINDING;22RIGHT;00LEFT SQUARE BRACKET WITH UNDERBAR;04RIGHT",
    "00LEFT SQUARE BRACKET WITH TICK IN TOP CORNER;01RIGHT SQUARE BRACKET WITH TICK IN BOTTOM",
    "07LEFT;01RIGHT SQUARE BRACKET WITH TICK IN TOP;00LEFT ANGLE BRACKET WITH DOT;04RIGHT",
    "00LEFT ARC LESS-THAN BRACKET;01RIGHT ARC GREATER-THAN;03DOUBLE LEFT;11RIGHT ARC LESS-THAN",
    "01LEFT BLACK TORTOISE SHELL;04RIGHT;00DOTTED FENCE;00VERTICAL ZIGZAG LINE",
    "00MEASURED ANGLE OPENING LEFT;00RIGHT ANGLE VARIANT WITH SQUARE",
    "00MEASURED RIGHT ANGLE WITH DOT;00ANGLE WITH S INSIDE;00ACUTE ANGLE",
    "00SPHERICAL ANGLE OPENING LEFT;30UP;00TURNED ANGLE;01REVERSED;00ANGLE WITH UNDERBAR",
    "03REVERSED;00OBLIQUE ANGLE OPENING UP;30DOWN",
    "00MEASURED ANGLE WITH OPEN ARM ENDING IN ARROW POINTING UP AND RIGHT;90UP AND LEFT",
    "90DOWN AND RIGHT;90DOWN AND LEFT;90RIGHT AND UP;92LEFT;90RIGHT AND DOWN;92LEFT",
    "00REVERSED EMPTY SET;00EMPTY SET WITH OVERBAR;30SMALL CIRCLE ABOVE;31RIGHT ARROW;32LEFT",
    "00CIRCLE WITH HORIZONTAL BAR;01CIRCLED VERTICAL;10PARALLEL;10REVERSE SOLIDUS",
    "10PERPENDICULAR;00CIRCLE DIVIDED BY HORIZONTAL BAR AND TOP HALF DIVIDED BY VERTICAL BAR",
    "10WITH SUPERIMPOSED X;00CIRCLED ANTICLOCKWISE-ROTATED DIVISION SIGN",
    "00UP ARROW THROUGH CIRCLE;00CIRCLED WHITE BULLET;11;10LESS-THAN;10GREATER-THAN",
    "00CIRCLE WITH SMALL CIRCLE TO THE RIGHT;23TWO HORIZONTAL STROKES",
    "00SQUARED RISING DIAGONAL SLASH;12FALLING;10ASTERISK;10SMALL CIRCLE;10SQUARE",
    "00TWO JOINED SQUARES;00TRIANGLE WITH DOT ABOVE;20UNDERBAR;00S IN TRIANGLE",
    "00TRIANGLE WITH SERIFS AT BOTTOM;00RIGHT TRIANGLE ABOVE LEFT TRIANGLE",
    "00LEFT TRIANGLE BESIDE VERTICAL BAR;00VERTICAL BAR BESIDE RIGHT TRIANGLE",
    "00BOWTIE WITH LEFT HALF BLACK;22RIGHT;00BLACK BOWTIE;00TIMES WITH LEFT HALF BLACK;22RIGHT",
    "00WHITE HOURGLASS;01BLACK;00LEFT WIGGLY FENCE;02RIGHT;02LEFT DOUBLE;03RIGHT",
    "00INCOMPLETE INFINITY;01TIE OVER;00INFINITY NEGATED WITH VERTICAL BAR",
    "00DOUBLE-ENDED MULTIMAP;00SQUARE WITH CONTOURED OUTLINE;00INCREASES AS;00SHUFFLE PRODUCT",
    "00EQUALS SIGN AND SLANTED PARALLEL;50WITH TILDE ABOVE;00IDENTICAL TO AND SLANTED PARALLEL",
    "00GLEICH STARK;00THERMODYNAMIC;00DOWN-POINTING TRIANGLE WITH LEFT HALF BLACK;32RIGHT",
    "00BLACK DIAMOND WITH DOWN ARROW;10LOZENGE;00WHITE CIRCLE WITH DOWN ARROW;04BLACK",
    "00ERROR-BARRED WHITE SQUARE;11BLACK;10WHITE DIAMOND;11BLACK;10WHITE CIRCLE;11BLACK",
    "00RULE-DELAYED;00REVERSE SOLIDUS OPERATOR;00SOLIDUS WITH OVERBAR",
    "00REVERSE SOLIDUS WITH HORIZONTAL STROKE;00BIG SOLIDUS;11REVERSE;00DOUBLE PLUS;01TRIPLE",
    "00LEFT-POINTING CURVED ANGLE BRACKET;03RIGHT-POINTING;00TINY;00MINY",
    "00N-ARY CIRCLED DOT OPERATOR;21PLUS;21TIMES;10UNION OPERATOR WITH DOT;40PLUS",
    "10SQUARE INTERSECTION OPERATOR;21UNION;01TWO LOGICAL AND;21OR;01N-ARY TIMES",
    "00MODULO TWO SUM;00SUMMATION WITH INTEGRAL;00QUADRUPLE INTEGRAL OPERATOR",
    "00FINITE PART INTEGRAL;00INTEGRAL WITH DOUBLE STROKE;10AVERAGE WITH SLASH",
    "00CIRCULATION FUNCTION;00ANTICLOCKWISE INTEGRATION",
    "00LINE INTEGRATION WITH RECTANGULAR PATH AROUND POLE;33SEMICIRCULAR;21NOT INCLUDING THE",
    "00INTEGRAL AROUND A POINT OPERATOR;01QUATERNION INTEGRAL",
    "00INTEGRAL WITH LEFTWARDS ARROW WITH HOOK;20TIMES SIGN;20INTERSECTION;20UNION;20OVERBAR",
    "20UNDERBAR;00JOIN;00LARGE LEFT TRIANGLE OPERATOR;00Z NOTATION SCHEMA COMPOSITION;30PIPING",
    "30PROJECTION;00PLUS SIGN WITH SMALL CIRCLE ABOVE;31CIRCUMFLEX ACCENT;31TILDE;30DOT BELOW",
    "31TILDE;30SUBSCRIPT TWO;30BLACK TRIANGLE;00MINUS SIGN WITH COMMA ABOVE;30DOT BELOW",
    "30FALLING DOTS;31RISING;00PLUS SIGN IN LEFT HALF CIRCLE;32RIGHT;00VECTOR OR CROSS PRODUCT",
    "00MULTIPLICATION SIGN WITH DOT ABOVE;30UNDERBAR;00SEMIDIRECT PRODUCT WITH BOTTOM CLOSED",
    "00SMASH PRODUCT;00MULTIPLICATION SIGN IN LEFT HALF CIRCLE;32RIGHT",
    "00CIRCLED MULTIPLICATION SIGN WITH CIRCUMFLEX ACCENT",
    "00MULTIPLICATION SIGN IN DOUBLE CIRCLE;00CIRCLED DIVISION SIGN;00PLUS SIGN IN TRIANGLE",
    "03MINUS;03MULTIPLICATION;00INTERIOR PRODUCT;02RIGHTHAND",
    "00Z NOTATION RELATIONAL COMPOSITION;00AMALGAMATION OR COPRODUCT;00INTERSECTION WITH DOT",
    "00UNION WITH MINUS SIGN;20OVERBAR;02INTERSECTION;20LOGICAL AND;00UNION WITH LOGICAL OR",
    "10ABOVE INTERSECTION;00INTERSECTION ABOVE UNION;00UNION ABOVE BAR ABOVE INTERSECTION",
    "00INTERSECTION ABOVE BAR ABOVE UNION;01UNION BESIDE AND JOINED WITH",
    "00INTERSECTION BESIDE AND JOINED WITH INTERSECTION;00CLOSED UNION WITH SERIFS",
    "12INTERSECTION;00DOUBLE SQUARE INTERSECTION;20UNION",
    "00CLOSED UNION WITH SERIFS AND SMASH PRODUCT;00LOGICAL AND WITH DOT ABOVE;13OR",
    "00DOUBLE LOGICAL AND;20OR;00TWO INTERSECTING LOGICAL AND;30OR;01SLOPING LARGE;20AND",
    "01LOGICAL OR OVERLAPPING LOGICAL;10AND WITH MIDDLE STEM;13OR;10AND WITH HORIZONTAL DASH",
    "13OR;10AND WITH DOUBLE OVERBAR;30UNDERBAR;31DOUBLE;01SMALL VEE WITH",
    "00LOGICAL OR WITH DOUBLE OVERBAR;40UNDERBAR;00Z NOTATION DOMAIN ANTIRESTRICTION;21RANGE",
    "00EQUALS SIGN WITH DOT BELOW;00IDENTICAL WITH DOT ABOVE",
    "00TRIPLE HORIZONTAL BAR WITH DOUBLE VERTICAL STROKE;42TRIPLE",
    "00TILDE OPERATOR WITH DOT ABOVE;30RISING DOTS;00SIMILAR MINUS SIMILAR",
    "00CONGRUENT WITH DOT ABOVE;00EQUALS WITH ASTERISK;00ALMOST EQUAL TO WITH CIRCUMFLEX ACCENT",
    "00APPROXIMATELY EQUAL OR EQUAL TO;00EQUALS SIGN ABOVE PLUS SIGN;01PLUS SIGN ABOVE EQUALS",
    "00EQUALS SIGN ABOVE TILDE OPERATOR;00DOUBLE COLON EQUAL;00TWO CONSECUTIVE EQUALS SIGNS",
    "03THREE;00EQUALS SIGN WITH TWO DOTS ABOVE AND TWO DOTS BELOW",
    "00EQUIVALENT WITH FOUR DOTS ABOVE;00LESS-THAN WITH CIRCLE INSIDE;03GREATER-THAN",
    "00LESS-THAN WITH QUESTION MARK ABOVE;04GREATER-THAN;00LESS-THAN OR SLANTED EQUAL TO",
    "04GREATER-THAN;00LESS-THAN OR SLANTED EQUAL TO WITH DOT INSIDE;07GREATER-THAN",
    "00LESS-THAN OR SLANTED EQUAL TO WITH DOT ABOVE;07GREATER-THAN",
    "00LESS-THAN OR SLANTED EQUAL TO WITH DOT ABOVE RIGHT",
    "00GREATER-THAN OR SLANTED EQUAL TO WITH DOT ABOVE LEFT;00LESS-THAN OR APPROXIMATE",
    "02GREATER-THAN;00LESS-THAN AND SINGLE-LINE NOT EQUAL TO;05GREATER-THAN",
    "00LESS-THAN AND NOT APPROXIMATE;03GREATER-THAN",
    "00LESS-THAN ABOVE DOUBLE-LINE EQUAL ABOVE GREATER-THAN",
    "00GREATER-THAN ABOVE DOUBLE-LINE EQUAL ABOVE LESS-THAN;00LESS-THAN ABOVE SIMILAR OR EQUAL",
    "04GREATER-THAN;00LESS-THAN ABOVE SIMILAR ABOVE GREATER-THAN",
    "00GREATER-THAN ABOVE SIMILAR ABOVE LESS-THAN",
    "00LESS-THAN ABOVE GREATER-THAN ABOVE DOUBLE-LINE EQUAL;03GREATER-THAN ABOVE LESS-THAN",
    "01LESS-THAN ABOVE SLANTED EQUAL ABOVE GREATER-THAN ABOVE SLANTED",
    "03GREATER-THAN ABOVE SLANTED EQUAL ABOVE LESS-THAN;00SLANTED EQUAL TO OR LESS-THAN",
    "40GREATER-THAN;40LESS-THAN WITH DOT INSIDE;43GREATER-THAN",
    "00DOUBLE-LINE EQUAL TO OR LESS-THAN;40GREATER-THAN;10SLANTED EQUAL TO OR LESS-THAN",
    "50GREATER-THAN;00SIMILAR OR LESS-THAN;20GREATER-THAN;10ABOVE LESS-THAN ABOVE EQUALS SIGN",
    "23GREATER-THAN;00DOUBLE NESTED LESS-THAN;20GREATER-THAN;20LESS-THAN WITH UNDERBAR",
    "00GREATER-THAN OVERLAPPING LESS-THAN;11BESIDE;00LESS-THAN CLOSED BY CURVE;03GREATER-THAN",
    "00LESS-THAN CLOSED BY CURVE ABOVE SLANTED EQUAL;06GREATER-THAN;00SMALLER THAN;01LARGER",
    "00SMALLER THAN OR EQUAL TO;04LARGER;00EQUALS SIGN WITH BUMPY ABOVE",
    "00PRECEDES ABOVE SINGLE-LINE EQUALS SIGN;04SUCCEEDS",
    "00PRECEDES ABOVE SINGLE-LINE NOT EQUAL TO;05SUCCEEDS;00PRECEDES ABOVE EQUALS SIGN",
    "03SUCCEEDS;00PRECEDES ABOVE NOT EQUAL TO;04SUCCEEDS;02PRECEDES ABOVE ALMOST;04SUCCEEDS",
    "03PRECEDES ABOVE NOT;05SUCCEEDS;00DOUBLE PRECEDES;10SUCCEEDS;00SUBSET WITH DOT;02SUPERSET",
    "00SUBSET WITH PLUS SIGN BELOW;04SUPERSET;02SUBSET WITH MULTIPLICATION;04SUPERSET",
    "00SUBSET OF OR EQUAL TO WITH DOT ABOVE;07SUPERSET;00SUBSET OF ABOVE EQUALS SIGN;04SUPERSET",
    "00SUBSET OF ABOVE TILDE OPERATOR;04SUPERSET;00SUBSET OF ABOVE ALMOST EQUAL TO;05SUPERSET",
    "02SUBSET OF ABOVE NOT;05SUPERSET;00SQUARE LEFT OPEN BOX OPERATOR;13RIGHT;00CLOSED SUBSET",
    "10SUPERSET;10SUBSET OR EQUAL TO;13SUPERSET;00SUBSET ABOVE SUPERSET;00SUPERSET ABOVE SUBSET",
    "02SUBSET;00SUPERSET ABOVE SUPERSET;10BESIDE SUBSET;21AND JOINED BY DASH WITH",
    "00ELEMENT OF OPENING DOWNWARDS;00PITCHFORK WITH TEE TOP;00TRANSVERSAL INTERSECTION",
    "00FORKING;00NONFORKING;00SHORT LEFT TACK;11DOWN;11UP;00PERPENDICULAR WITH S",
    "00VERTICAL BAR TRIPLE RIGHT TURNSTILE;01DOUBLE VERTICAL BAR LEFT;02VERTICAL BAR DOUBLE",
    "05DOUBLE;00LONG DASH FROM LEFT MEMBER OF DOUBLE VERTICAL;00SHORT DOWN TACK WITH OVERBAR",
    "10UP TACK WITH UNDERBAR;30ABOVE SHORT DOWN TACK;02DOUBLE;11UP;10STROKE NOT SIGN;04REVERSED",
    "00DOES NOT DIVIDE WITH REVERSED NEGATION SLASH;00VERTICAL LINE WITH CIRCLE ABOVE;40BELOW",
    "03DOWN TACK;00PARALLEL WITH HORIZONTAL STROKE;20TILDE OPERATOR",
    "00TRIPLE VERTICAL BAR BINARY RELATION;30WITH HORIZONTAL STROKE;10COLON OPERATOR",
    "10NESTED LESS-THAN;20GREATER-THAN;00DOUBLE-LINE SLANTED LESS-THAN OR EQUAL TO",
    "23GREATER-THAN;00TRIPLE SOLIDUS BINARY RELATION;00LARGE TRIPLE VERTICAL BAR OPERATOR",
    "01DOUBLE SOLIDUS;00WHITE VERTICAL BAR;03N-ARY;00NORTH EAST WHITE ARROW;12WEST;02SOUTH EAST",
    "12WEST;02LEFT RIGHT;01LEFTWARDS BLACK;02UPWARDS;02DOWNWARDS;02NORTH EAST;12WEST",
    "02SOUTH EAST;12WEST;02LEFT RIGHT;02UP DOWN;00RIGHTWARDS ARROW WITH TIP DOWNWARDS;40UPWARDS",
    "00LEFTWARDS ARROW WITH TIP DOWNWARDS;40UPWARDS;00SQUARE WITH TOP HALF BLACK;22BOTTOM",
    "22UPPER RIGHT DIAGONAL;23LOWER LEFT;02DIAMOND WITH LEFT;22RIGHT;22TOP;22BOTTOM",
    "00DOTTED SQUARE;01BLACK LARGE;02WHITE;01BLACK VERY SMALL;03WHITE;00BLACK PENTAGON;01WHITE",
    "10HEXAGON;01BLACK;02HORIZONTAL;00BLACK LARGE CIRCLE;10MEDIUM DIAMOND;02WHITE",
    "00BLACK MEDIUM LOZENGE;02WHITE;00BLACK SMALL DIAMOND;20LOZENGE;02WHITE",
    "00BLACK HORIZONTAL ELLIPSE;02WHITE;01BLACK VERTICAL;02WHITE;00LEFT ARROW WITH SMALL CIRCLE",
    "00THREE LEFTWARDS ARROWS;00LEFT ARROW WITH CIRCLED PLUS;00LONG LEFTWARDS SQUIGGLE ARROW",
    "00LEFTWARDS TWO-HEADED ARROW WITH VERTICAL STROKE;42DOUBLE;30FROM BAR;20TRIPLE DASH ARROW",
    "10ARROW WITH DOTTED STEM;30TAIL WITH VERTICAL STROKE;52DOUBLE;10TWO-HEADED ARROW WITH TAIL",
    "50WITH VERTICAL STROKE;62DOUBLE;10ARROW THROUGH X;00WAVE ARROW POINTING DIRECTLY LEFT",
    "00EQUALS SIGN ABOVE LEFTWARDS ARROW;03REVERSE TILDE OPERATOR",
    "00LEFTWARDS ARROW ABOVE REVERSE ALMOST EQUAL TO;00RIGHTWARDS ARROW THROUGH GREATER-THAN",
    "30SUPERSET;00LEFTWARDS QUADRUPLE ARROW;02RIGHTWARDS",
    "01REVERSE TILDE OPERATOR ABOVE RIGHTWARDS;00RIGHTWARDS ARROW ABOVE REVERSE ALMOST EQUAL TO",
    "00TILDE OPERATOR ABOVE LEFTWARDS ARROW;00LEFTWARDS ARROW ABOVE ALMOST EQUAL TO",
    "30REVERSE TILDE OPERATOR;05RIGHTWARDS;00DOWNWARDS TRIANGLE-HEADED ZIGZAG ARROW",
    "01SHORT SLANTED NORTH;11BACKSLANTED SOUTH;00WHITE MEDIUM STAR;01BLACK SMALL;02WHITE",
    "00BLACK RIGHT-POINTING PENTAGON;02WHITE;00HEAVY LARGE CIRCLE;10OVAL WITH OVAL INSIDE",
    "11CIRCLE WITH CIRCLE;20;10CIRCLED SALTIRE;00SLANTED NORTH ARROW WITH HOOKED HEAD",
    "00BACKSLANTED SOUTH ARROW WITH HOOKED TAIL;01SLANTED NORTH ARROW WITH HORIZONTAL",
    "04BACKSLANTED SOUTH;00BENT ARROW POINTING DOWNWARDS THEN NORTH EAST;07SHORT",
    "00LEFTWARDS TRIANGLE-HEADED ARROW;02UPWARDS;02RIGHTWARDS;02DOWNWARDS;02LEFT RIGHT",
    "02UP DOWN;02NORTH WEST;12EAST;03SOUTH;12WEST;01LEFTWARDS TRIANGLE-HEADED DASHED;03UPWARDS",
    "03RIGHTWARDS;03DOWNWARDS;01CLOCKWISE TRIANGLE-HEADED OPEN CIRCLE;04ANTICLOCKWISE",
    "00LEFTWARDS TRIANGLE-HEADED ARROW TO BAR;04UPWARDS;04RIGHTWARDS;04DOWNWARDS;;;04NORTH WEST",
    "14EAST;05SOUTH;14WEST;00LEFTWARDS TRIANGLE-HEADED ARROW WITH DOUBLE HORIZONTAL STROKE",
    "06UPWARDS;06RIGHTWARDS;06DOWNWARDS;00HORIZONTAL TAB KEY;02VERTICAL",
    "00LEFTWARDS TRIANGLE-HEADED ARROW OVER RIGHTWARDS TRIANGLE-HEADED ARROW",
    "02UPWARDS TRIANGLE-HEADED ARROW LEFTWARDS OF DOWNWARDS",
    "02RIGHTWARDS TRIANGLE-HEADED ARROW OVER LEFTWARDS",
    "02DOWNWARDS TRIANGLE-HEADED ARROW LEFTWARDS OF UPWARDS",
    "00LEFTWARDS TRIANGLE-HEADED PAIRED ARROWS;03UPWARDS;03RIGHTWARDS;03DOWNWARDS",
    "00LEFTWARDS BLACK CIRCLED WHITE ARROW;04UPWARDS;04RIGHTWARDS;04DOWNWARDS",
    "01ANTICLOCKWISE TRIANGLE-HEADED RIGHT U-SHAPED;22BOTTOM;22LEFT;22TOP;00RETURN LEFT;10RIGHT",
    "00NEWLINE LEFT;10RIGHT;00FOUR CORNER ARROWS CIRCLING ANTICLOCKWISE",
    "00RIGHTWARDS BLACK ARROW;;00SYMBOL FOR TYPE A ELECTRONICS",
    "00THREE-D TOP-LIGHTED LEFTWARDS EQUILATERAL ARROWHEAD;12RIGHT-LIGHTED UPWARDS",
    "12TOP-LIGHTED RIGHTWARDS;12LEFT-LIGHTED DOWNWARDS;02BLACK LEFTWARDS;12UPWARDS;12RIGHTWARDS",
    "12DOWNWARDS;00DOWNWARDS TRIANGLE-HEADED ARROW WITH LONG TIP LEFTWARDS;60RIGHTWARDS",
    "00UPWARDS TRIANGLE-HEADED ARROW WITH LONG TIP LEFTWARDS;60RIGHTWARDS",
    "00LEFTWARDS TRIANGLE-HEADED ARROW WITH LONG TIP UPWARDS;06RIGHTWARDS",
    "00LEFTWARDS TRIANGLE-HEADED ARROW WITH LONG TIP DOWNWARDS;06RIGHTWARDS",
    "00BLACK CURVED DOWNWARDS AND LEFTWARDS ARROW;41RIGHTWARDS;21UPWARDS AND LEFTWARDS",
    "41RIGHTWARDS;21LEFTWARDS AND UPWARDS;23RIGHTWARDS;21LEFTWARDS AND DOWNWARDS;23RIGHTWARDS",
    "00RIBBON ARROW DOWN LEFT;30RIGHT;20UP LEFT;30RIGHT;20LEFT UP;21RIGHT;20LEFT DOWN;21RIGHT",
    "00UPWARDS WHITE ARROW FROM BAR WITH HORIZONTAL BAR;00UP ARROWHEAD IN A RECTANGLE BOX",
    "00OVERLAPPING WHITE SQUARES;21AND BLACK;12;00BALLOT BOX WITH LIGHT X;01CIRCLED;11BOLD",
    "00BLACK SQUARE CENTRED;11DIAMOND;00TURNED BLACK PENTAGON;00HORIZONTAL BLACK OCTAGON;02",
    "10MEDIUM UP-POINTING TRIANGLE CENTRED;22DOWN-POINTING;22LEFT-POINTING;22RIGHT-POINTING",
    "00NEPTUNE FORM TWO;00TOP HALF BLACK CIRCLE;03BOTTOM;00LIGHT FOUR POINTED BLACK CUSP",
    "05ROTATED;01WHITE FOUR POINTED;04ROTATED;00SQUARE POSITION INDICATOR;00UNCERTAINTY SIGN",
    "00GROUP MARK;00PLUTO FORM TWO;20THREE;20FOUR;20FIVE;00TRANSPLUTO;00PROSERPINA;00ASTRAEA",
    "00HYGIEA;00PHOLUS;00NESSUS;00WHITE MOON SELENA;00BLACK DIAMOND ON CROSS",
    "00TRUE LIGHT MOON ARTA;00CUPIDO;00HADES;00ZEUS;00KRONOS;00APOLLON;00ADMETOS;00VULCANUS",
    "00POSEIDON;00LEFT HALF BLACK STAR;03RIGHT;00STAR WITH LEFT HALF BLACK;22RIGHT",
    "00LEFTWARDS TWO-HEADED ARROW WITH TRIANGLE ARROWHEADS;05UPWARDS;05RIGHTWARDS;05DOWNWARDS",
    "00ERIS FORM ONE;20TWO;00SEDNA;00RUSSIAN ASTROLOGICAL SYMBOL VIGINTILE;30NOVILE;30QUINTILE",
    "30BINOVILE;30SENTAGON;30TREDECILE;00EQUALS SIGN WITH INFINITY BELOW;00UNITED SYMBOL",
    "01SEPARATED;01DOUBLED;01PASSED;00REVERSED RIGHT ANGLE;00HELLSCHREIBER PAUSE SYMBOL",
    "00GLAGOLITIC CAPITAL LETTER AZU;30BUKY;30VEDE;30GLAGOLI;30DOBRO;30YESTU;30ZHIVETE;30DZELO",
    "30ZEMLJA;30IZHE;31INITIAL;30I;30DJERVI;30KAKO;30LJUDIJE;30MYSLITE;30NASHI;30ONU;30POKOJI",
    "30RITSI;30SLOVO;30TVRIDO;30UKU;30FRITU;30HERU;30OTU;30PE;30SHTA;30TSI;30CHRIVI;30SHA",
    "30YERU;30YERI;30YATI;30SPIDERY HA;30YU;30SMALL YUS;50WITH TAIL;30YO;30IOTATED SMALL YUS",
    "31BIG;32IOTATED;30FITA;30IZHITSA;30SHTAPIC;30TROKUTASTI A;30LATINATE MYSLITE",
    "30CAUDATE CHRIVI;10SMALL LETTER AZU;30BUKY;30VEDE;30GLAGOLI;30DOBRO;30YESTU;30ZHIVETE",
    "30DZELO;30ZEMLJA;30IZHE;31INITIAL;30I;30DJERVI;30KAKO;30LJUDIJE;30MYSLITE;30NASHI;30ONU",
    "30POKOJI;30RITSI;30SLOVO;30TVRIDO;30UKU;30FRITU;30HERU;30OTU;30PE;30SHTA;30TSI;30CHRIVI",
    "30SHA;30YERU;30YERI;30YATI;30SPIDERY HA;30YU;30SMALL YUS;50WITH TAIL;30YO",
    "30IOTATED SMALL YUS;31BIG;32IOTATED;30FITA;30IZHITSA;30SHTAPIC;30TROKUTASTI A",
    "30LATINATE MYSLITE;30CAUDATE CHRIVI;00LATIN CAPITAL LETTER L WITH DOUBLE BAR;15SMALL",
    "10CAPITAL LETTER L WITH MIDDLE TILDE;30P WITH STROKE;30R WITH TAIL",
    "10SMALL LETTER A WITH STROKE;31T WITH DIAGONAL;10CAPITAL LETTER H WITH DESCENDER;14SMALL",
    "12CAPITAL LETTER K;14SMALL;12CAPITAL LETTER Z;14SMALL;10CAPITAL LETTER ALPHA;30M WITH HOOK",
    "30TURNED A;40ALPHA;10SMALL LETTER V WITH RIGHT HOOK;11CAPITAL LETTER W WITH;14SMALL",
    "30V WITH CURL;10CAPITAL LETTER HALF H;13SMALL;30TAILLESS PHI;30E WITH NOTCH",
    "30TURNED R WITH TAIL;30O WITH LOW RING INSIDE;10LETTER SMALL CAPITAL TURNED E",
    "10SUBSCRIPT SMALL LETTER J;00MODIFIER LETTER CAPITAL V",
    "00LATIN CAPITAL LETTER S WITH SWASH TAIL;33Z;00COPTIC CAPITAL LETTER ALFA;12SMALL",
    "10CAPITAL LETTER VIDA;12SMALL;10CAPITAL LETTER GAMMA;12SMALL;10CAPITAL LETTER DALDA",
    "12SMALL;10CAPITAL LETTER EIE;12SMALL;10CAPITAL LETTER SOU;12SMALL;10CAPITAL LETTER ZATA",
    "12SMALL;10CAPITAL LETTER HATE;12SMALL;10CAPITAL LETTER THETHE;12SMALL",
    "10CAPITAL LETTER IAUDA;12SMALL;10CAPITAL LETTER KAPA;12SMALL;10CAPITAL LETTER LAULA",
    "12SMALL;10CAPITAL LETTER MI;12SMALL;10CAPITAL LETTER NI;12SMALL;10CAPITAL LETTER KSI",
    "12SMALL;10CAPITAL LETTER O;12SMALL;10CAPITAL LETTER PI;12SMALL;10CAPITAL LETTER RO;12SMALL",
    "10CAPITAL LETTER SIMA;12SMALL;10CAPITAL LETTER TAU;12SMALL;10CAPITAL LETTER UA;12SMALL",
    "10CAPITAL LETTER FI;12SMALL;10CAPITAL LETTER KHI;12SMALL;10CAPITAL LETTER PSI;12SMALL",
    "10CAPITAL LETTER OOU;12SMALL;10CAPITAL LETTER DIALECT-P ALEF;13SMALL",
    "10CAPITAL LETTER OLD COPTIC AIN;14SMALL;10CAPITAL LETTER CRYPTOGRAMMIC EIE;13SMALL",
    "10CAPITAL LETTER DIALECT-P KAPA;13SMALL;10CAPITAL LETTER DIALECT-P NI;13SMALL",
    "11CAPITAL LETTER CRYPTOGRAMMIC;13SMALL;10CAPITAL LETTER OLD COPTIC OOU;14SMALL",
    "10CAPITAL LETTER SAMPI;12SMALL;10CAPITAL LETTER CROSSED SHEI;13SMALL",
    "11CAPITAL LETTER OLD COPTIC;14SMALL;10CAPITAL LETTER OLD COPTIC ESH;14SMALL",
    "10CAPITAL LETTER AKHMIMIC KHEI;13SMALL;10CAPITAL LETTER DIALECT-P HORI;13SMALL",
    "11CAPITAL LETTER OLD COPTIC;14SMALL;10CAPITAL LETTER OLD COPTIC HA;14SMALL",
    "11CAPITAL LETTER L-SHAPED;13SMALL;10CAPITAL LETTER OLD COPTIC HEI;14SMALL",
    "10CAPITAL LETTER OLD COPTIC HAT;14SMALL;10CAPITAL LETTER OLD COPTIC GANGIA;14SMALL",
    "10CAPITAL LETTER OLD COPTIC DJA;14SMALL;10CAPITAL LETTER OLD COPTIC SHIMA;14SMALL",
    "11CAPITAL LETTER OLD NUBIAN;14SMALL;10CAPITAL LETTER OLD NUBIAN NGI;14SMALL",
    "10CAPITAL LETTER OLD NUBIAN NYI;14SMALL;10CAPITAL LETTER OLD NUBIAN WAU;14SMALL",
    "10SYMBOL KAI;20MI RO;21PI;20STAUROS;20TAU RO;21KHI;20SHIMA SIMA",
    "10CAPITAL LETTER CRYPTOGRAMMIC SHEI;13SMALL;10CAPITAL LETTER CRYPTOGRAMMIC GANGIA;13SMALL",
    "10COMBINING NI ABOVE;20SPIRITUS ASPER;30LENIS;10CAPITAL LETTER BOHAIRIC KHEI;13SMALL;;;;;",
    "10OLD NUBIAN FULL STOP;30DIRECT QUESTION MARK;32INDIRECT;30VERSE DIVIDER",
    "10FRACTION ONE HALF;10FULL STOP;10MORPHOLOGICAL DIVIDER;00GEORGIAN SMALL LETTER AN;30BAN",
    "30GAN;30DON;30EN;30VIN;30ZEN;30TAN;30IN;30KAN;30LAS;30MAN;30NAR;30ON;30PAR;30ZHAR;30RAE",
    "30SAN;30TAR;30UN;30PHAR;30KHAR;30GHAN;30QAR;30SHIN;30CHIN;30CAN;30JIL;30CIL;30CHAR;30XAN",
    "30JHAN;30HAE;30HE;30HIE;30WE;30HAR;30HOE;;30YN;;;;;;30AEN;;;00TIFINAGH LETTER YA;20YAB",
    "20YABH;20YAG;20YAGHH;20BERBER ACADEMY YAJ;21;20YAD;20YADH;20YADD;20YADDH;20YEY;20YAF;20YAK",
    "21TUAREG;20YAKHH;20YAH;21BERBER ACADEMY;21TUAREG;20YAHH;20YAA;20YAKH;21TUAREG;20YAQ",
    "21TUAREG;20YI;20YAZH;21AHAGGAR;21TUAREG;20YAL;20YAM;20YAN;20TUAREG YAGN;30YANG;20YAP;20YU",
    "20YAR;20YARR;20YAGH;21TUAREG;21AYER;20YAS;20YASS;20YASH;20YAT;20YATH;20YACH;20YATT;20YAV",
    "20YAW;20YAY;20YAZ;21TAWELLEMET;20YAZZ;20YE;20YO;;;;;;;",
    "10MODIFIER LETTER LABIALIZATION MARK;11SEPARATOR;;;;;;;;;;;;;;;10CONSONANT JOINER",
    "00ETHIOPIC SYLLABLE LOA;20MOA;20ROA;20SOA;20SHOA;20BOA;20TOA;20COA;20NOA;20NYOA",
    "20GLOTTAL OA;20ZOA;20DOA;20DDOA;20JOA;20THOA;20CHOA;20PHOA;20POA;20GGWA;20GGWI;20GGWEE",
    "20GGWE;;;;;;;;;;20SSA;20SSU;20SSI;20SSAA;20SSEE;20SSE;20SSO;;20CCA;20CCU;20CCI;20CCAA",
    "20CCEE;20CCE;20CCO;;20ZZA;20ZZU;20ZZI;20ZZAA;20ZZEE;20ZZE;20ZZO;;20CCHA;20CCHU;20CCHI",
    "20CCHAA;20CCHEE;20CCHE;20CCHO;;20QYA;20QYU;20QYI;20QYAA;20QYEE;20QYE;20QYO;;20KYA;20KYU",
    "20KYI;20KYAA;20KYEE;20KYE;20KYO;;20XYA;20XYU;20XYI;20XYAA;20XYEE;20XYE;20XYO;;20GYA;20GYU",
    "20GYI;20GYAA;20GYEE;20GYE;20GYO;;00COMBINING CYRILLIC LETTER BE;30VE;30GHE;30DE;30ZHE;30ZE",
    "30KA;30EL;30EM;30EN;30O;30PE;30ER;30ES;30TE;30HA;30TSE;30CHE;30SHA;30SHCHA;30FITA;30ES-TE",
    "30A;30IE;30DJERV;30MONOGRAPH UK;30YAT;30YU;30IOTIFIED A;30LITTLE YUS;31BIG;32IOTIFIED",
    "00RIGHT ANGLE SUBSTITUTION MARKER;22DOTTED;00LEFT SUBSTITUTION BRACKET;02RIGHT",
    "02LEFT DOTTED;03RIGHT;00RAISED INTERPOLATION MARKER;12DOTTED;01DOTTED TRANSPOSITION",
    "00LEFT TRANSPOSITION BRACKET;02RIGHT;00RAISED SQUARE;00LEFT RAISED OMISSION BRACKET",
    "03RIGHT;00EDITORIAL CORONIS;00PARAGRAPHOS;01FORKED;02REVERSED;00HYPODIASTOLE",
    "00DOTTED OBELOS;00DOWNWARDS ANCORA;01UPWARDS;00DOTTED RIGHT-POINTING ANGLE",
    "00DOUBLE OBLIQUE HYPHEN;00INVERTED INTERROBANG;00PALM BRANCH;00HYPHEN WITH DIAERESIS",
    "00TILDE WITH RING ABOVE;00LEFT LOW PARAPHRASE BRACKET;03RIGHT;00TILDE WITH DOT ABOVE",
    "30BELOW;00LEFT VERTICAL BAR WITH QUILL;04RIGHT;00TOP LEFT HALF BRACKET;12RIGHT",
    "02BOTTOM LEFT;12RIGHT;01LEFT SIDEWAYS U;03RIGHT;00LEFT DOUBLE PARENTHESIS;02RIGHT",
    "00TWO DOTS OVER ONE DOT PUNCTUATION;01ONE DOT OVER TWO DOTS;01SQUARED FOUR DOT",
    "00FIVE DOT MARK;01REVERSED QUESTION;00VERTICAL TILDE;00RING POINT",
    "00WORD SEPARATOR MIDDLE DOT;00TURNED COMMA;00RAISED DOT;10COMMA;00TURNED SEMICOLON",
    "00DAGGER WITH LEFT GUARD;21RIGHT;00TURNED DAGGER;00TOP HALF SECTION SIGN;00TWO-EM DASH",
    "01THREE-EM;00STENOGRAPHIC FULL STOP;00VERTICAL SIX DOTS;00WIGGLY VERTICAL LINE;00CAPITULUM",
    "00DOUBLE HYPHEN;00REVERSED COMMA;00DOUBLE LOW-REVERSED-9 QUOTATION MARK",
    "00DASH WITH LEFT UPTURN;00DOUBLE SUSPENSION MARK;00INVERTED LOW KAVYKA;30WITH KAVYKA ABOVE",
    "00LOW KAVYKA;20WITH DOT;00DOUBLE STACKED COMMA;00DOTTED SOLIDUS;00TRIPLE DAGGER",
    "00MEDIEVAL COMMA;00PARAGRAPHUS MARK;01PUNCTUS ELEVATUS;00CORNISH VERSE DIVIDER",
    "00CROSS PATTY WITH RIGHT CROSSBAR;31LEFT;00TIRONIAN SIGN CAPITAL ET",
    "00MEDIEVAL EXCLAMATION MARK;11QUESTION;00LEFT SQUARE BRACKET WITH STROKE;04RIGHT",
    "01LEFT SQUARE BRACKET WITH DOUBLE;05RIGHT;00TOP HALF LEFT PARENTHESIS;21RIGHT",
    "01BOTTOM HALF LEFT;21RIGHT;00OBLIQUE HYPHEN"]⟩,
    ⟨0x2E80, [
    "00CJK RADICAL REPEAT;20CLIFF;20SECOND ONE;30TWO;30THREE;20PERSON;20BOX;20TABLE;20KNIFE ONE",
    "30TWO;20DIVINATION;20SEAL;20SMALL ONE;30TWO;20LAME ONE;30TWO;30THREE;30FOUR;20SNAKE",
    "20THREAD;20SNOUT ONE;30TWO;20HEART ONE;30TWO;20HAND;20RAP;;20CHOKE;20SUN;20MOON;20DEATH",
    "20MOTHER;20CIVILIAN;20WATER ONE;30TWO;20FIRE;20PAW ONE;30TWO;20SIMPLIFIED HALF TREE TRUNK",
    "20COW;20DOG;20JADE;20BOLT OF CLOTH;20EYE;20SPIRIT ONE;30TWO;20BAMBOO;20SILK;21C-SIMPLIFIED",
    "20NET ONE;30TWO;30THREE;30FOUR;20MESH;20SHEEP;20RAM;20EWE;20OLD;20BRUSH ONE;30TWO;20MEAT",
    "20MORTAR;20GRASS ONE;30TWO;30THREE;20TIGER;20CLOTHES;20WEST ONE;30TWO;20C-SIMPLIFIED SEE",
    "20SIMPLIFIED HORN;21;20C-SIMPLIFIED SPEECH;30SHELL;20FOOT;20C-SIMPLIFIED CART",
    "20SIMPLIFIED WALK;20WALK ONE;30TWO;20CITY;20C-SIMPLIFIED GOLD;20LONG ONE;30TWO",
    "20C-SIMPLIFIED LONG;30GATE;20MOUND ONE;30TWO;20RAIN;20BLUE;20C-SIMPLIFIED TANNED LEATHER",
    "30LEAF;30WIND;30FLY;20EAT ONE;30TWO;30THREE;20C-SIMPLIFIED EAT;20HEAD;20C-SIMPLIFIED HORSE",
    "20BONE;20GHOST;20C-SIMPLIFIED FISH;30BIRD;30SALT;20SIMPLIFIED WHEAT;30YELLOW",
    "20C-SIMPLIFIED FROG;20J-SIMPLIFIED EVEN;21C-SIMPLIFIED;20J-SIMPLIFIED TOOTH;21C-SIMPLIFIED",
    "20J-SIMPLIFIED DRAGON;21C-SIMPLIFIED;20TURTLE;21J-SIMPLIFIED;21C-SIMPLIFIED;;;;;;;;;;;;",
    "00KANGXI RADICAL ONE;20LINE;20DOT;20SLASH;20SECOND;20HOOK;20TWO;20LID;20MAN;20LEGS;20ENTER",
    "20EIGHT;20DOWN BOX;20COVER;20ICE;20TABLE;20OPEN BOX;20KNIFE;20POWER;20WRAP;20SPOON",
    "20RIGHT OPEN BOX;20HIDING ENCLOSURE;20TEN;20DIVINATION;20SEAL;20CLIFF;20PRIVATE;20AGAIN",
    "20MOUTH;20ENCLOSURE;20EARTH;20SCHOLAR;20GO;30SLOWLY;20EVENING;20BIG;20WOMAN;20CHILD;20ROOF",
    "20INCH;20SMALL;20LAME;20CORPSE;20SPROUT;20MOUNTAIN;20RIVER;20WORK;20ONESELF;20TURBAN;20DRY",
    "20SHORT THREAD;20DOTTED CLIFF;20LONG STRIDE;20TWO HANDS;20SHOOT;20BOW;20SNOUT;20BRISTLE",
    "20STEP;20HEART;20HALBERD;20DOOR;20HAND;20BRANCH;20RAP;20SCRIPT;20DIPPER;20AXE;20SQUARE",
    "20NOT;20SUN;20SAY;20MOON;20TREE;20LACK;20STOP;20DEATH;20WEAPON;20DO NOT;20COMPARE;20FUR",
    "20CLAN;20STEAM;20WATER;20FIRE;20CLAW;20FATHER;20DOUBLE X;20HALF TREE TRUNK;20SLICE;20FANG",
    "20COW;20DOG;20PROFOUND;20JADE;20MELON;20TILE;20SWEET;20LIFE;20USE;20FIELD;20BOLT OF CLOTH",
    "20SICKNESS;20DOTTED TENT;20WHITE;20SKIN;20DISH;20EYE;20SPEAR;20ARROW;20STONE;20SPIRIT",
    "20TRACK;20GRAIN;20CAVE;20STAND;20BAMBOO;20RICE;20SILK;20JAR;20NET;20SHEEP;20FEATHER;20OLD",
    "20AND;20PLOW;20EAR;20BRUSH;20MEAT;20MINISTER;20SELF;20ARRIVE;20MORTAR;20TONGUE;20OPPOSE",
    "20BOAT;20STOPPING;20COLOR;20GRASS;20TIGER;20INSECT;20BLOOD;20WALK ENCLOSURE;20CLOTHES",
    "20WEST;20SEE;20HORN;20SPEECH;20VALLEY;20BEAN;20PIG;20BADGER;20SHELL;20RED;20RUN;20FOOT",
    "20BODY;20CART;20BITTER;20MORNING;20WALK;20CITY;20WINE;20DISTINGUISH;20VILLAGE;20GOLD",
    "20LONG;20GATE;20MOUND;20SLAVE;20SHORT TAILED BIRD;20RAIN;20BLUE;20WRONG;20FACE;20LEATHER",
    "21TANNED;20LEEK;20SOUND;20LEAF;20WIND;20FLY;20EAT;20HEAD;20FRAGRANT;20HORSE;20BONE;20TALL",
    "20HAIR;20FIGHT;20SACRIFICIAL WINE;20CAULDRON;20GHOST;20FISH;20BIRD;20SALT;20DEER;20WHEAT",
    "20HEMP;20YELLOW;20MILLET;20BLACK;20EMBROIDERY;20FROG;20TRIPOD;20DRUM;20RAT;20NOSE;20EVEN",
    "20TOOTH;20DRAGON;20TURTLE;20FLUTE"]⟩]

end QuerySchema.Text.CharacterName
