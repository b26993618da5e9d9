import QuerySchema.Text.CharacterName.Run

/-!
Names of the characters from U+1F900 on.
-/

namespace QuerySchema.Text.CharacterName

/-- The names from U+1F900 on. -/
def namesFrom1F900 : List NameRun :=
  [⟨0x1F900, [
    "00CIRCLED CROSS FORMEE WITH FOUR DOTS;41TWO;30;00LEFT HALF CIRCLE WITH FOUR DOTS;41THREE",
    "41TWO;40DOT;30;00DOWNWARD FACING HOOK;21NOTCHED;20HOOK WITH DOT;23NOTCHED",
    "00PINCHED FINGERS;00WHITE HEART;01BROWN;00PINCHING HAND;00ZIPPER-MOUTH FACE;01MONEY-MOUTH",
    "00FACE WITH THERMOMETER;00NERD FACE;01THINKING;00FACE WITH HEAD-BANDAGE;00ROBOT FACE",
    "01HUGGING;00SIGN OF THE HORNS;00CALL ME HAND;01RAISED BACK OF;00LEFT-FACING FIST",
    "01RIGHT-FACING;00HANDSHAKE;00HAND WITH INDEX AND MIDDLE FINGERS CROSSED",
    "00I LOVE YOU HAND SIGN;00FACE WITH COWBOY HAT;00CLOWN FACE;01NAUSEATED",
    "00ROLLING ON THE FLOOR LAUGHING;00DROOLING FACE;01LYING;00FACE PALM;00SNEEZING FACE",
    "00FACE WITH ONE EYEBROW RAISED;00GRINNING FACE WITH STAR EYES",
    "30ONE LARGE AND ONE SMALL EYE;00FACE WITH FINGER COVERING CLOSED LIPS",
    "00SERIOUS FACE WITH SYMBOLS COVERING MOUTH;02SMILING FACE WITH SMILING EYES AND HAND",
    "00FACE WITH OPEN MOUTH VOMITING;00SHOCKED FACE WITH EXPLODING HEAD;00PREGNANT WOMAN",
    "00BREAST-FEEDING;00PALMS UP TOGETHER;00SELFIE;00PRINCE;00MAN IN TUXEDO;00MOTHER CHRISTMAS",
    "00SHRUG;00PERSON DOING CARTWHEEL;00JUGGLING;00FENCER;00MODERN PENTATHLON;00WRESTLERS",
    "00WATER POLO;00HANDBALL;00DIVING MASK;00WILTED FLOWER;00DRUM WITH DRUMSTICKS",
    "00CLINKING GLASSES;00TUMBLER GLASS;00SPOON;00GOAL NET;00RIFLE;00FIRST PLACE MEDAL;02SECOND",
    "02THIRD;00BOXING GLOVE;00MARTIAL ARTS UNIFORM;00CURLING STONE;00LACROSSE STICK AND BALL",
    "00SOFTBALL;00FLYING DISC;00CROISSANT;00AVOCADO;00CUCUMBER;00BACON;00POTATO;00CARROT",
    "00BAGUETTE BREAD;00GREEN SALAD;00SHALLOW PAN OF FOOD;00STUFFED FLATBREAD;00EGG",
    "00GLASS OF MILK;00PEANUTS;00KIWIFRUIT;00PANCAKES;00DUMPLING;00FORTUNE COOKIE;00TAKEOUT BOX",
    "00CHOPSTICKS;00BOWL WITH SPOON;00CUP WITH STRAW;00COCONUT;00BROCCOLI;00PIE;00PRETZEL",
    "00CUT OF MEAT;00SANDWICH;00CANNED FOOD;00LEAFY GREEN;00MANGO;00MOON CAKE;00BAGEL",
    "00SMILING FACE WITH SMILING EYES AND THREE HEARTS;00YAWNING FACE;00SMILING FACE WITH TEAR",
    "00FACE WITH PARTY HORN AND PARTY HAT;20UNEVEN EYES AND WAVY MOUTH;00OVERHEATED FACE",
    "01FREEZING;00NINJA;00DISGUISED FACE;00FACE HOLDING BACK TEARS;10WITH PLEADING EYES;00SARI",
    "00LAB COAT;00GOGGLES;00HIKING BOOT;00FLAT SHOE;00CRAB;00LION FACE;00SCORPION;00TURKEY",
    "00UNICORN FACE;00EAGLE;00DUCK;00BAT;00SHARK;00OWL;00FOX FACE;00BUTTERFLY;00DEER;00GORILLA",
    "00LIZARD;00RHINOCEROS;00SHRIMP;00SQUID;00GIRAFFE FACE;01ZEBRA;00HEDGEHOG;00SAUROPOD",
    "00T-REX;00CRICKET;00KANGAROO;00LLAMA;00PEACOCK;00HIPPOPOTAMUS;00PARROT;00RACCOON;00LOBSTER",
    "00MOSQUITO;00MICROBE;00BADGER;00SWAN;00MAMMOTH;00DODO;00SLOTH;00OTTER;00ORANGUTAN;00SKUNK",
    "00FLAMINGO;00OYSTER;00BEAVER;00BISON;00SEAL;00GUIDE DOG;00PROBING CANE",
    "00EMOJI COMPONENT RED HAIR;21CURLY;20BALD;20WHITE HAIR;00BONE;00LEG;00FOOT;00TOOTH",
    "00SUPERHERO;00SUPERVILLAIN;00SAFETY VEST;00EAR WITH HEARING AID;00MOTORIZED WHEELCHAIR",
    "01MANUAL;00MECHANICAL ARM;10LEG;00CHEESE WEDGE;00CUPCAKE;00SALT SHAKER;00BEVERAGE BOX",
    "00GARLIC;00ONION;00FALAFEL;00WAFFLE;00BUTTER;00MATE DRINK;00ICE CUBE;00BUBBLE TEA;00TROLL",
    "00STANDING PERSON;01KNEELING;01DEAF;00FACE WITH MONOCLE;00ADULT;00CHILD;00OLDER ADULT",
    "00BEARDED PERSON;00PERSON WITH HEADSCARF;10IN STEAMY ROOM;10CLIMBING;10IN LOTUS POSITION",
    "00MAGE;00FAIRY;00VAMPIRE;00MERPERSON;00ELF;00GENIE;00ZOMBIE;00BRAIN;00ORANGE HEART",
    "00BILLED CAP;00SCARF;00GLOVES;00COAT;00SOCKS;00RED GIFT ENVELOPE;00FIRECRACKER",
    "00JIGSAW PUZZLE PIECE;00TEST TUBE;00PETRI DISH;00DNA DOUBLE HELIX;00COMPASS;00ABACUS",
    "00FIRE EXTINGUISHER;00TOOLBOX;00BRICK;00MAGNET;00LUGGAGE;00LOTION BOTTLE;00SPOOL OF THREAD",
    "00BALL OF YARN;00SAFETY PIN;00TEDDY BEAR;00BROOM;00BASKET;00ROLL OF PAPER;00BAR OF SOAP",
    "00SPONGE;00RECEIPT;00NAZAR AMULET;00NEUTRAL CHESS KING;20QUEEN;20ROOK;20BISHOP;20KNIGHT",
    "20PAWN;00WHITE CHESS KNIGHT ROTATED FORTY-FIVE DEGREES;05BLACK;05NEUTRAL",
    "01WHITE CHESS KING ROTATED NINETY;23QUEEN;23ROOK;23BISHOP;23KNIGHT;23PAWN",
    "03BLACK CHESS KING;23QUEEN;23ROOK;23BISHOP;23KNIGHT;23PAWN;03NEUTRAL CHESS KING;23QUEEN",
    "23ROOK;23BISHOP;23KNIGHT;23PAWN;01WHITE CHESS KNIGHT ROTATED ONE HUNDRED THIRTY-FIVE",
    "07BLACK;07NEUTRAL;00WHITE CHESS TURNED KING;30QUEEN;30ROOK;30BISHOP;30KNIGHT;30PAWN",
    "00BLACK CHESS TURNED KING;30QUEEN;30ROOK;30BISHOP;30KNIGHT;30PAWN",
    "00NEUTRAL CHESS TURNED KING;30QUEEN;30ROOK;30BISHOP;30KNIGHT;30PAWN",
    "00WHITE CHESS KNIGHT ROTATED TWO HUNDRED TWENTY-FIVE DEGREES;07BLACK;07NEUTRAL",
    "01WHITE CHESS KING ROTATED TWO HUNDRED SEVENTY;25QUEEN;25ROOK;25BISHOP;25KNIGHT;25PAWN",
    "05BLACK CHESS KING;25QUEEN;25ROOK;25BISHOP;25KNIGHT;25PAWN;05NEUTRAL CHESS KING;25QUEEN",
    "25ROOK;25BISHOP;25KNIGHT;25PAWN;01WHITE CHESS KNIGHT ROTATED THREE HUNDRED FIFTEEN;07BLACK",
    "07NEUTRAL;00WHITE CHESS EQUIHOPPER;02BLACK;02NEUTRAL",
    "00WHITE CHESS EQUIHOPPER ROTATED NINETY DEGREES;05BLACK;05NEUTRAL",
    "00WHITE CHESS KNIGHT-QUEEN;20KNIGHT-ROOK;20KNIGHT-BISHOP;00BLACK CHESS KNIGHT-QUEEN",
    "20KNIGHT-ROOK;20KNIGHT-BISHOP;;;;;;;;;;;;;00XIANGQI RED GENERAL;20MANDARIN;20ELEPHANT",
    "20HORSE;20CHARIOT;20CANNON;20SOLDIER;10BLACK GENERAL;20MANDARIN;20ELEPHANT;20HORSE",
    "20CHARIOT;20CANNON;20SOLDIER;;;00BALLET SHOES;00ONE-PIECE SWIMSUIT;00BRIEFS;00SHORTS",
    "00THONG SANDAL;;;;00DROP OF BLOOD;00ADHESIVE BANDAGE;00STETHOSCOPE;00X-RAY;00CRUTCH;;;",
    "00YO-YO;00KITE;00PARACHUTE;00BOOMERANG;00MAGIC WAND;00PINATA;00NESTING DOLLS;;;;;;;;;",
    "00RINGED PLANET;00CHAIR;00RAZOR;00AXE;00DIYA LAMP;00BANJO;00MILITARY HELMET;00ACCORDION",
    "00LONG DRUM;00COIN;00CARPENTRY SAW;00SCREWDRIVER;00LADDER;00HOOK;00MIRROR;00WINDOW",
    "00PLUNGER;00SEWING NEEDLE;00KNOT;00BUCKET;00MOUSE TRAP;00TOOTHBRUSH;00HEADSTONE;00PLACARD",
    "00ROCK;00MIRROR BALL;00IDENTIFICATION CARD;00LOW BATTERY;00HAMSA;;;;00FLY;00WORM;00BEETLE",
    "00COCKROACH;00POTTED PLANT;00WOOD;00FEATHER;00LOTUS;00CORAL;00EMPTY NEST;00NEST WITH EGGS;",
    ";;;;00ANATOMICAL HEART;00LUNGS;00PEOPLE HUGGING;00PREGNANT MAN;10PERSON",
    "00PERSON WITH CROWN;;;;;;;;;;;00BLUEBERRIES;00BELL PEPPER;00OLIVE;00FLATBREAD;00TAMALE",
    "00FONDUE;00TEAPOT;00POURING LIQUID;00BEANS;00JAR;;;;;;;00MELTING FACE;01SALUTING",
    "00FACE WITH OPEN EYES AND HAND OVER MOUTH;20PEEKING EYE;20DIAGONAL MOUTH",
    "00DOTTED LINE FACE;00BITING LIP;00BUBBLES;;;;;;;;",
    "00HAND WITH INDEX FINGER AND THUMB CROSSED;00RIGHTWARDS HAND;01LEFTWARDS;01PALM DOWN;11UP",
    "00INDEX POINTING AT THE VIEWER;00HEART HANDS;;;;;;;;;;00BLOCK SEXTANT-1;10SEXTANT-2",
    "10SEXTANT-12;10SEXTANT-3;10SEXTANT-13;10SEXTANT-23;10SEXTANT-123;10SEXTANT-4;10SEXTANT-14",
    "10SEXTANT-24;10SEXTANT-124;10SEXTANT-34;10SEXTANT-134;10SEXTANT-234;10SEXTANT-1234",
    "10SEXTANT-5;10SEXTANT-15;10SEXTANT-25;10SEXTANT-125;10SEXTANT-35;10SEXTANT-235",
    "10SEXTANT-1235;10SEXTANT-45;10SEXTANT-145;10SEXTANT-245;10SEXTANT-1245;10SEXTANT-345",
    "10SEXTANT-1345;10SEXTANT-2345;10SEXTANT-12345;10SEXTANT-6;10SEXTANT-16;10SEXTANT-26",
    "10SEXTANT-126;10SEXTANT-36;10SEXTANT-136;10SEXTANT-236;10SEXTANT-1236;10SEXTANT-46",
    "10SEXTANT-146;10SEXTANT-1246;10SEXTANT-346;10SEXTANT-1346;10SEXTANT-2346;10SEXTANT-12346",
    "10SEXTANT-56;10SEXTANT-156;10SEXTANT-256;10SEXTANT-1256;10SEXTANT-356;10SEXTANT-1356",
    "10SEXTANT-2356;10SEXTANT-12356;10SEXTANT-456;10SEXTANT-1456;10SEXTANT-2456;10SEXTANT-12456",
    "10SEXTANT-3456;10SEXTANT-13456;10SEXTANT-23456",
    "00LOWER LEFT BLOCK DIAGONAL LOWER MIDDLE LEFT TO LOWER CENTRE;90RIGHT",
    "40UPPER MIDDLE LEFT TO LOWER CENTRE;90RIGHT;50LEFT TO LOWER CENTRE",
    "11RIGHT BLOCK DIAGONAL UPPER MIDDLE LEFT TO UPPER;90RIGHT",
    "40LOWER MIDDLE LEFT TO UPPER CENTRE;90RIGHT;50LEFT TO UPPER CENTRE",
    "50MIDDLE LEFT TO UPPER MIDDLE RIGHT;52CENTRE TO LOWER;54LEFT;52CENTRE TO UPPER;54LEFT",
    "51CENTRE TO UPPER;11LEFT BLOCK DIAGONAL UPPER CENTRE TO UPPER MIDDLE;54LEFT",
    "52CENTRE TO LOWER;54LEFT;51CENTRE TO LOWER;51MIDDLE LEFT TO LOWER MIDDLE",
    "00UPPER RIGHT BLOCK DIAGONAL LOWER MIDDLE LEFT TO LOWER CENTRE;90RIGHT",
    "40UPPER MIDDLE LEFT TO LOWER CENTRE;90RIGHT;50LEFT TO LOWER CENTRE",
    "11LEFT BLOCK DIAGONAL UPPER MIDDLE LEFT TO UPPER;90RIGHT",
    "40LOWER MIDDLE LEFT TO UPPER CENTRE;90RIGHT;50LEFT TO UPPER CENTRE",
    "50MIDDLE LEFT TO UPPER MIDDLE RIGHT;52CENTRE TO LOWER;54LEFT;52CENTRE TO UPPER;54LEFT",
    "51CENTRE TO UPPER;11RIGHT BLOCK DIAGONAL UPPER CENTRE TO UPPER MIDDLE;54LEFT",
    "52CENTRE TO LOWER;54LEFT;51CENTRE TO LOWER;51MIDDLE LEFT TO LOWER MIDDLE",
    "10AND RIGHT AND LOWER TRIANGULAR THREE QUARTERS BLOCK;04LEFT AND LOWER AND RIGHT",
    "04UPPER AND LEFT AND LOWER;04LEFT AND UPPER AND RIGHT;11TRIANGULAR ONE QUARTER;04UPPER",
    "04RIGHT;04LOWER;00VERTICAL ONE EIGHTH BLOCK-2;30BLOCK-3;30BLOCK-4;30BLOCK-5;30BLOCK-6",
    "30BLOCK-7;00HORIZONTAL ONE EIGHTH BLOCK-2;30BLOCK-3;30BLOCK-4;30BLOCK-5;30BLOCK-6",
    "30BLOCK-7;00LEFT AND LOWER ONE EIGHTH BLOCK;23UPPER;05RIGHT;23LOWER;05UPPER",
    "00HORIZONTAL ONE EIGHTH BLOCK-1358;00UPPER ONE QUARTER BLOCK;11THREE EIGHTHS;12FIVE",
    "11THREE QUARTERS;11SEVEN EIGHTHS;01RIGHT ONE QUARTER;11THREE EIGHTHS;12FIVE",
    "11THREE QUARTERS;11SEVEN EIGHTHS;00LEFT HALF MEDIUM SHADE;03RIGHT;03UPPER;03LOWER",
    "02INVERSE;03UPPER HALF BLOCK AND LOWER HALF;20INVERSE MEDIUM SHADE AND LOWER HALF BLOCK;",
    "02LEFT HALF INVERSE MEDIUM SHADE AND RIGHT;00CHECKER BOARD FILL;03INVERSE",
    "01HEAVY HORIZONTAL;01UPPER LEFT TO LOWER RIGHT;11RIGHT TO LOWER LEFT",
    "10AND LOWER TRIANGULAR HALF BLOCK;03LEFT AND RIGHT;00UPPER LEFT TRIANGULAR MEDIUM SHADE",
    "13RIGHT;04LOWER;13LEFT;00BOX DRAWINGS LIGHT DIAGONAL UPPER CENTRE TO MIDDLE LEFT;80RIGHT",
    "40MIDDLE LEFT TO LOWER CENTRE;53RIGHT;43UPPER CENTRE TO MIDDLE LEFT;83RIGHT",
    "40MIDDLE LEFT TO LOWER CENTRE TO MIDDLE RIGHT;74UPPER",
    "40UPPER CENTRE TO MIDDLE LEFT AND MIDDLE RIGHT TO LOWER CENTRE;83RIGHT AND MIDDLE LEFT",
    "90TO LOWER CENTRE TO MIDDLE LEFT;80LEFT TO LOWER CENTRE TO MIDDLE RIGHT",
    "40MIDDLE LEFT TO UPPER CENTRE TO MIDDLE RIGHT TO LOWER CENTRE",
    "53RIGHT TO UPPER CENTRE TO MIDDLE LEFT;40DIAMOND;30HORIZONTAL WITH VERTICAL STROKE",
    "00ARROWHEAD-SHAPED POINTER;00INVERSE CHECK MARK;00LEFT HALF RUNNING MAN;03RIGHT",
    "00INVERSE DOWNWARDS ARROW WITH TIP LEFTWARDS",
    "00LEFTWARDS ARROW AND UPPER AND LOWER ONE EIGHTH BLOCK;08RIGHTWARDS",
    "03DOWNWARDS ARROW AND RIGHT;06UPWARDS;00LEFT HALF FOLDER;02RIGHT;00VOIDED GREEK CROSS",
    "00RIGHT OPEN SQUARED DOT;00NEGATIVE DIAGONAL CROSS;20MIDDLE RIGHT TO LOWER CENTRE",
    "20DIAMOND;00WHITE HEAVY SALTIRE WITH ROUNDED CORNERS",
    "00LEFT THIRD WHITE RIGHT POINTING INDEX;05MIDDLE;05RIGHT;00NEGATIVE SQUARED QUESTION MARK",
    "00STICK FIGURE;20WITH ARMS RAISED;20LEANING LEFT;30RIGHT;20WITH DRESS",
    "00WHITE UP-POINTING CHEVRON"]⟩,
    ⟨0x1FBF0, [
    "00SEGMENTED DIGIT ZERO;20ONE;20TWO;20THREE;20FOUR;20FIVE;20SIX;20SEVEN;20EIGHT;20NINE"]⟩,
    ⟨0xE0001, [
    "00LANGUAGE TAG"]⟩,
    ⟨0xE0020, [
    "00TAG SPACE;10EXCLAMATION MARK;11QUOTATION;10NUMBER SIGN;11DOLLAR;11PERCENT;10AMPERSAND",
    "10APOSTROPHE;10LEFT PARENTHESIS;11RIGHT;10ASTERISK;10PLUS SIGN;10COMMA;10HYPHEN-MINUS",
    "10FULL STOP;10SOLIDUS;10DIGIT ZERO;20ONE;20TWO;20THREE;20FOUR;20FIVE;20SIX;20SEVEN;20EIGHT",
    "20NINE;10COLON;10SEMICOLON;10LESS-THAN SIGN;11EQUALS;11GREATER-THAN;10QUESTION MARK",
    "10COMMERCIAL AT;10LATIN CAPITAL LETTER A;40B;40C;40D;40E;40F;40G;40H;40I;40J;40K;40L;40M",
    "40N;40O;40P;40Q;40R;40S;40T;40U;40V;40W;40X;40Y;40Z;10LEFT SQUARE BRACKET",
    "10REVERSE SOLIDUS;10RIGHT SQUARE BRACKET;10CIRCUMFLEX ACCENT;10LOW LINE;10GRAVE ACCENT",
    "10LATIN SMALL LETTER A;40B;40C;40D;40E;40F;40G;40H;40I;40J;40K;40L;40M;40N;40O;40P;40Q;40R",
    "40S;40T;40U;40V;40W;40X;40Y;40Z;10LEFT CURLY BRACKET;10VERTICAL LINE;10RIGHT CURLY BRACKET",
    "10TILDE;00CANCEL TAG"]⟩,
    ⟨0xE0100, [
    "00VARIATION SELECTOR-17;10SELECTOR-18;10SELECTOR-19;10SELECTOR-20;10SELECTOR-21",
    "10SELECTOR-22;10SELECTOR-23;10SELECTOR-24;10SELECTOR-25;10SELECTOR-26;10SELECTOR-27",
    "10SELECTOR-28;10SELECTOR-29;10SELECTOR-30;10SELECTOR-31;10SELECTOR-32;10SELECTOR-33",
    "10SELECTOR-34;10SELECTOR-35;10SELECTOR-36;10SELECTOR-37;10SELECTOR-38;10SELECTOR-39",
    "10SELECTOR-40;10SELECTOR-41;10SELECTOR-42;10SELECTOR-43;10SELECTOR-44;10SELECTOR-45",
    "10SELECTOR-46;10SELECTOR-47;10SELECTOR-48;10SELECTOR-49;10SELECTOR-50;10SELECTOR-51",
    "10SELECTOR-52;10SELECTOR-53;10SELECTOR-54;10SELECTOR-55;10SELECTOR-56;10SELECTOR-57",
    "10SELECTOR-58;10SELECTOR-59;10SELECTOR-60;10SELECTOR-61;10SELECTOR-62;10SELECTOR-63",
    "10SELECTOR-64;10SELECTOR-65;10SELECTOR-66;10SELECTOR-67;10SELECTOR-68;10SELECTOR-69",
    "10SELECTOR-70;10SELECTOR-71;10SELECTOR-72;10SELECTOR-73;10SELECTOR-74;10SELECTOR-75",
    "10SELECTOR-76;10SELECTOR-77;10SELECTOR-78;10SELECTOR-79;10SELECTOR-80;10SELECTOR-81",
    "10SELECTOR-82;10SELECTOR-83;10SELECTOR-84;10SELECTOR-85;10SELECTOR-86;10SELECTOR-87",
    "10SELECTOR-88;10SELECTOR-89;10SELECTOR-90;10SELECTOR-91;10SELECTOR-92;10SELECTOR-93",
    "10SELECTOR-94;10SELECTOR-95;10SELECTOR-96;10SELECTOR-97;10SELECTOR-98;10SELECTOR-99",
    "10SELECTOR-100;10SELECTOR-101;10SELECTOR-102;10SELECTOR-103;10SELECTOR-104;10SELECTOR-105",
    "10SELECTOR-106;10SELECTOR-107;10SELECTOR-108;10SELECTOR-109;10SELECTOR-110;10SELECTOR-111",
    "10SELECTOR-112;10SELECTOR-113;10SELECTOR-114;10SELECTOR-115;10SELECTOR-116;10SELECTOR-117",
    "10SELECTOR-118;10SELECTOR-119;10SELECTOR-120;10SELECTOR-121;10SELECTOR-122;10SELECTOR-123",
    "10SELECTOR-124;10SELECTOR-125;10SELECTOR-126;10SELECTOR-127;10SELECTOR-128;10SELECTOR-129",
    "10SELECTOR-130;10SELECTOR-131;10SELECTOR-132;10SELECTOR-133;10SELECTOR-134;10SELECTOR-135",
    "10SELECTOR-136;10SELECTOR-137;10SELECTOR-138;10SELECTOR-139;10SELECTOR-140;10SELECTOR-141",
    "10SELECTOR-142;10SELECTOR-143;10SELECTOR-144;10SELECTOR-145;10SELECTOR-146;10SELECTOR-147",
    "10SELECTOR-148;10SELECTOR-149;10SELECTOR-150;10SELECTOR-151;10SELECTOR-152;10SELECTOR-153",
    "10SELECTOR-154;10SELECTOR-155;10SELECTOR-156;10SELECTOR-157;10SELECTOR-158;10SELECTOR-159",
    "10SELECTOR-160;10SELECTOR-161;10SELECTOR-162;10SELECTOR-163;10SELECTOR-164;10SELECTOR-165",
    "10SELECTOR-166;10SELECTOR-167;10SELECTOR-168;10SELECTOR-169;10SELECTOR-170;10SELECTOR-171",
    "10SELECTOR-172;10SELECTOR-173;10SELECTOR-174;10SELECTOR-175;10SELECTOR-176;10SELECTOR-177",
    "10SELECTOR-178;10SELECTOR-179;10SELECTOR-180;10SELECTOR-181;10SELECTOR-182;10SELECTOR-183",
    "10SELECTOR-184;10SELECTOR-185;10SELECTOR-186;10SELECTOR-187;10SELECTOR-188;10SELECTOR-189",
    "10SELECTOR-190;10SELECTOR-191;10SELECTOR-192;10SELECTOR-193;10SELECTOR-194;10SELECTOR-195",
    "10SELECTOR-196;10SELECTOR-197;10SELECTOR-198;10SELECTOR-199;10SELECTOR-200;10SELECTOR-201",
    "10SELECTOR-202;10SELECTOR-203;10SELECTOR-204;10SELECTOR-205;10SELECTOR-206;10SELECTOR-207",
    "10SELECTOR-208;10SELECTOR-209;10SELECTOR-210;10SELECTOR-211;10SELECTOR-212;10SELECTOR-213",
    "10SELECTOR-214;10SELECTOR-215;10SELECTOR-216;10SELECTOR-217;10SELECTOR-218;10SELECTOR-219",
    "10SELECTOR-220;10SELECTOR-221;10SELECTOR-222;10SELECTOR-223;10SELECTOR-224;10SELECTOR-225",
    "10SELECTOR-226;10SELECTOR-227;10SELECTOR-228;10SELECTOR-229;10SELECTOR-230;10SELECTOR-231",
    "10SELECTOR-232;10SELECTOR-233;10SELECTOR-234;10SELECTOR-235;10SELECTOR-236;10SELECTOR-237",
    "10SELECTOR-238;10SELECTOR-239;10SELECTOR-240;10SELECTOR-241;10SELECTOR-242;10SELECTOR-243",
    "10SELECTOR-244;10SELECTOR-245;10SELECTOR-246;10SELECTOR-247;10SELECTOR-248;10SELECTOR-249",
    "10SELECTOR-250;10SELECTOR-251;10SELECTOR-252;10SELECTOR-253;10SELECTOR-254;10SELECTOR-255",
    "10SELECTOR-256"]⟩]

end QuerySchema.Text.CharacterName
