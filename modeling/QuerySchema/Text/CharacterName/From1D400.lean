import QuerySchema.Text.CharacterName.Run

/-!
Names of the characters from U+1D400 on.
-/

namespace QuerySchema.Text.CharacterName

/-- The names from U+1D400 on. -/
def namesFrom1D400 : List NameRun :=
  [⟨0x1D400, [
    "00MATHEMATICAL BOLD CAPITAL A;30B;30C;30D;30E;30F;30G;30H;30I;30J;30K;30L;30M;30N;30O;30P",
    "30Q;30R;30S;30T;30U;30V;30W;30X;30Y;30Z;20SMALL A;30B;30C;30D;30E;30F;30G;30H;30I;30J;30K",
    "30L;30M;30N;30O;30P;30Q;30R;30S;30T;30U;30V;30W;30X;30Y;30Z;10ITALIC CAPITAL A;30B;30C;30D",
    "30E;30F;30G;30H;30I;30J;30K;30L;30M;30N;30O;30P;30Q;30R;30S;30T;30U;30V;30W;30X;30Y;30Z",
    "20SMALL A;30B;30C;30D;30E;30F;30G;;30I;30J;30K;30L;30M;30N;30O;30P;30Q;30R;30S;30T;30U;30V",
    "30W;30X;30Y;30Z;10BOLD ITALIC CAPITAL A;40B;40C;40D;40E;40F;40G;40H;40I;40J;40K;40L;40M",
    "40N;40O;40P;40Q;40R;40S;40T;40U;40V;40W;40X;40Y;40Z;30SMALL A;40B;40C;40D;40E;40F;40G;40H",
    "40I;40J;40K;40L;40M;40N;40O;40P;40Q;40R;40S;40T;40U;40V;40W;40X;40Y;40Z;10SCRIPT CAPITAL A",
    ";30C;30D;;;30G;;;30J;30K;;;30N;30O;30P;30Q;;30S;30T;30U;30V;30W;30X;30Y;30Z;20SMALL A;30B",
    "30C;30D;;30F;;30H;30I;30J;30K;30L;30M;30N;;30P;30Q;30R;30S;30T;30U;30V;30W;30X;30Y;30Z",
    "10BOLD SCRIPT CAPITAL A;40B;40C;40D;40E;40F;40G;40H;40I;40J;40K;40L;40M;40N;40O;40P;40Q",
    "40R;40S;40T;40U;40V;40W;40X;40Y;40Z;30SMALL A;40B;40C;40D;40E;40F;40G;40H;40I;40J;40K;40L",
    "40M;40N;40O;40P;40Q;40R;40S;40T;40U;40V;40W;40X;40Y;40Z;10FRAKTUR CAPITAL A;30B;;30D;30E",
    "30F;30G;;;30J;30K;30L;30M;30N;30O;30P;30Q;;30S;30T;30U;30V;30W;30X;30Y;;20SMALL A;30B;30C",
    "30D;30E;30F;30G;30H;30I;30J;30K;30L;30M;30N;30O;30P;30Q;30R;30S;30T;30U;30V;30W;30X;30Y",
    "30Z;10DOUBLE-STRUCK CAPITAL A;30B;;30D;30E;30F;30G;;30I;30J;30K;30L;30M;;30O;;;;30S;30T",
    "30U;30V;30W;30X;30Y;;20SMALL A;30B;30C;30D;30E;30F;30G;30H;30I;30J;30K;30L;30M;30N;30O;30P",
    "30Q;30R;30S;30T;30U;30V;30W;30X;30Y;30Z;10BOLD FRAKTUR CAPITAL A;40B;40C;40D;40E;40F;40G",
    "40H;40I;40J;40K;40L;40M;40N;40O;40P;40Q;40R;40S;40T;40U;40V;40W;40X;40Y;40Z;30SMALL A;40B",
    "40C;40D;40E;40F;40G;40H;40I;40J;40K;40L;40M;40N;40O;40P;40Q;40R;40S;40T;40U;40V;40W;40X",
    "40Y;40Z;10SANS-SERIF CAPITAL A;30B;30C;30D;30E;30F;30G;30H;30I;30J;30K;30L;30M;30N;30O;30P",
    "30Q;30R;30S;30T;30U;30V;30W;30X;30Y;30Z;20SMALL A;30B;30C;30D;30E;30F;30G;30H;30I;30J;30K",
    "30L;30M;30N;30O;30P;30Q;30R;30S;30T;30U;30V;30W;30X;30Y;30Z;20BOLD CAPITAL A;40B;40C;40D",
    "40E;40F;40G;40H;40I;40J;40K;40L;40M;40N;40O;40P;40Q;40R;40S;40T;40U;40V;40W;40X;40Y;40Z",
    "30SMALL A;40B;40C;40D;40E;40F;40G;40H;40I;40J;40K;40L;40M;40N;40O;40P;40Q;40R;40S;40T;40U",
    "40V;40W;40X;40Y;40Z;20ITALIC CAPITAL A;40B;40C;40D;40E;40F;40G;40H;40I;40J;40K;40L;40M;40N",
    "40O;40P;40Q;40R;40S;40T;40U;40V;40W;40X;40Y;40Z;30SMALL A;40B;40C;40D;40E;40F;40G;40H;40I",
    "40J;40K;40L;40M;40N;40O;40P;40Q;40R;40S;40T;40U;40V;40W;40X;40Y;40Z",
    "20BOLD ITALIC CAPITAL A;50B;50C;50D;50E;50F;50G;50H;50I;50J;50K;50L;50M;50N;50O;50P;50Q",
    "50R;50S;50T;50U;50V;50W;50X;50Y;50Z;40SMALL A;50B;50C;50D;50E;50F;50G;50H;50I;50J;50K;50L",
    "50M;50N;50O;50P;50Q;50R;50S;50T;50U;50V;50W;50X;50Y;50Z;10MONOSPACE CAPITAL A;30B;30C;30D",
    "30E;30F;30G;30H;30I;30J;30K;30L;30M;30N;30O;30P;30Q;30R;30S;30T;30U;30V;30W;30X;30Y;30Z",
    "20SMALL A;30B;30C;30D;30E;30F;30G;30H;30I;30J;30K;30L;30M;30N;30O;30P;30Q;30R;30S;30T;30U",
    "30V;30W;30X;30Y;30Z;10ITALIC SMALL DOTLESS I;40J;;;10BOLD CAPITAL ALPHA;30BETA;30GAMMA",
    "30DELTA;30EPSILON;30ZETA;30ETA;30THETA;30IOTA;30KAPPA;30LAMDA;30MU;30NU;30XI;30OMICRON",
    "30PI;30RHO;30THETA SYMBOL;30SIGMA;30TAU;30UPSILON;30PHI;30CHI;30PSI;30OMEGA;20NABLA",
    "20SMALL ALPHA;30BETA;30GAMMA;30DELTA;30EPSILON;30ZETA;30ETA;30THETA;30IOTA;30KAPPA;30LAMDA",
    "30MU;30NU;30XI;30OMICRON;30PI;30RHO;30FINAL SIGMA;31;30TAU;30UPSILON;30PHI;30CHI;30PSI",
    "30OMEGA;20PARTIAL DIFFERENTIAL;20EPSILON SYMBOL;21THETA;21KAPPA;21PHI;21RHO;21PI",
    "10ITALIC CAPITAL ALPHA;30BETA;30GAMMA;30DELTA;30EPSILON;30ZETA;30ETA;30THETA;30IOTA",
    "30KAPPA;30LAMDA;30MU;30NU;30XI;30OMICRON;30PI;30RHO;30THETA SYMBOL;30SIGMA;30TAU;30UPSILON",
    "30PHI;30CHI;30PSI;30OMEGA;20NABLA;20SMALL ALPHA;30BETA;30GAMMA;30DELTA;30EPSILON;30ZETA",
    "30ETA;30THETA;30IOTA;30KAPPA;30LAMDA;30MU;30NU;30XI;30OMICRON;30PI;30RHO;30FINAL SIGMA;31",
    "30TAU;30UPSILON;30PHI;30CHI;30PSI;30OMEGA;20PARTIAL DIFFERENTIAL;20EPSILON SYMBOL;21THETA",
    "21KAPPA;21PHI;21RHO;21PI;10BOLD ITALIC CAPITAL ALPHA;40BETA;40GAMMA;40DELTA;40EPSILON",
    "40ZETA;40ETA;40THETA;40IOTA;40KAPPA;40LAMDA;40MU;40NU;40XI;40OMICRON;40PI;40RHO",
    "40THETA SYMBOL;40SIGMA;40TAU;40UPSILON;40PHI;40CHI;40PSI;40OMEGA;30NABLA;30SMALL ALPHA",
    "40BETA;40GAMMA;40DELTA;40EPSILON;40ZETA;40ETA;40THETA;40IOTA;40KAPPA;40LAMDA;40MU;40NU",
    "40XI;40OMICRON;40PI;40RHO;40FINAL SIGMA;41;40TAU;40UPSILON;40PHI;40CHI;40PSI;40OMEGA",
    "30PARTIAL DIFFERENTIAL;30EPSILON SYMBOL;31THETA;31KAPPA;31PHI;31RHO;31PI",
    "10SANS-SERIF BOLD CAPITAL ALPHA;40BETA;40GAMMA;40DELTA;40EPSILON;40ZETA;40ETA;40THETA",
    "40IOTA;40KAPPA;40LAMDA;40MU;40NU;40XI;40OMICRON;40PI;40RHO;40THETA SYMBOL;40SIGMA;40TAU",
    "40UPSILON;40PHI;40CHI;40PSI;40OMEGA;30NABLA;30SMALL ALPHA;40BETA;40GAMMA;40DELTA;40EPSILON",
    "40ZETA;40ETA;40THETA;40IOTA;40KAPPA;40LAMDA;40MU;40NU;40XI;40OMICRON;40PI;40RHO",
    "40FINAL SIGMA;41;40TAU;40UPSILON;40PHI;40CHI;40PSI;40OMEGA;30PARTIAL DIFFERENTIAL",
    "30EPSILON SYMBOL;31THETA;31KAPPA;31PHI;31RHO;31PI;30ITALIC CAPITAL ALPHA;50BETA;50GAMMA",
    "50DELTA;50EPSILON;50ZETA;50ETA;50THETA;50IOTA;50KAPPA;50LAMDA;50MU;50NU;50XI;50OMICRON",
    "50PI;50RHO;50THETA SYMBOL;50SIGMA;50TAU;50UPSILON;50PHI;50CHI;50PSI;50OMEGA;40NABLA",
    "40SMALL ALPHA;50BETA;50GAMMA;50DELTA;50EPSILON;50ZETA;50ETA;50THETA;50IOTA;50KAPPA;50LAMDA",
    "50MU;50NU;50XI;50OMICRON;50PI;50RHO;50FINAL SIGMA;51;50TAU;50UPSILON;50PHI;50CHI;50PSI",
    "50OMEGA;40PARTIAL DIFFERENTIAL;40EPSILON SYMBOL;41THETA;41KAPPA;41PHI;41RHO;41PI",
    "10BOLD CAPITAL DIGAMMA;21SMALL;;;20DIGIT ZERO;30ONE;30TWO;30THREE;30FOUR;30FIVE;30SIX",
    "30SEVEN;30EIGHT;30NINE;10DOUBLE-STRUCK DIGIT ZERO;30ONE;30TWO;30THREE;30FOUR;30FIVE;30SIX",
    "30SEVEN;30EIGHT;30NINE;10SANS-SERIF DIGIT ZERO;30ONE;30TWO;30THREE;30FOUR;30FIVE;30SIX",
    "30SEVEN;30EIGHT;30NINE;20BOLD DIGIT ZERO;40ONE;40TWO;40THREE;40FOUR;40FIVE;40SIX;40SEVEN",
    "40EIGHT;40NINE;10MONOSPACE DIGIT ZERO;30ONE;30TWO;30THREE;30FOUR;30FIVE;30SIX;30SEVEN",
    "30EIGHT;30NINE;00SIGNWRITING HAND-FIST INDEX;11HAND-CIRCLE;11HAND-CUP;11HAND-OVAL",
    "11HAND-HINGE;11HAND-ANGLE;10HAND-FIST INDEX BENT;12HAND-CIRCLE;12HAND-FIST THUMB UNDER",
    "20INDEX RAISED KNUCKLE;30CUPPED;30HINGED;40LOW;10HAND-CIRCLE INDEX HINGE",
    "10HAND-FIST INDEX MIDDLE;12HAND-CIRCLE;10HAND-FIST INDEX MIDDLE BENT;40RAISED KNUCKLES",
    "40HINGED;32UP;30HINGED MIDDLE UP;30MIDDLE CONJOINED;50INDEX BENT;51MIDDLE;50CUPPED",
    "50HINGED;40CROSSED;13HAND-CIRCLE;10HAND-FIST MIDDLE BENT OVER INDEX",
    "20INDEX BENT OVER MIDDLE;30MIDDLE THUMB;13HAND-CIRCLE",
    "10HAND-FIST INDEX MIDDLE STRAIGHT THUMB BENT;40BENT THUMB STRAIGHT;40THUMB BENT",
    "40HINGED SPREAD THUMB SIDE;32UP MIDDLE HINGED;70CONJOINED;30HINGED MIDDLE UP THUMB SIDE",
    "30MIDDLE UP SPREAD THUMB FORWARD;40THUMB CUPPED;50CIRCLED;50HOOKED;50HINGED",
    "20THUMB BETWEEN INDEX MIDDLE STRAIGHT;20INDEX MIDDLE CONJOINED THUMB SIDE;70CONJOINED",
    "70BENT;20MIDDLE THUMB HOOKED INDEX UP;21INDEX THUMB HOOKED MIDDLE",
    "30MIDDLE CONJOINED HINGED THUMB SIDE;42CROSSED;40CONJOINED THUMB FORWARD;52CUPPED",
    "20MIDDLE THUMB CUPPED INDEX UP;21INDEX THUMB CUPPED MIDDLE;21MIDDLE THUMB CIRCLED INDEX",
    "60HINGED;20INDEX THUMB ANGLED OUT MIDDLE UP;52IN;42CIRCLED;30MIDDLE THUMB CONJOINED HINGED",
    "50ANGLED OUT;60;20MIDDLE THUMB ANGLED OUT INDEX UP;70CROSSED;50INDEX UP",
    "20INDEX THUMB HOOKED MIDDLE HINGED;10HAND-FLAT FOUR FINGERS;40BENT;40HINGED;40CONJOINED",
    "50SPLIT;10HAND-CLAW FOUR FINGERS CONJOINED;10HAND-FIST FOUR FINGERS CONJOINED BENT",
    "10HAND-HINGE FOUR FINGERS CONJOINED;10HAND-FLAT FIVE FINGERS SPREAD;23HEEL",
    "20FIVE FINGERS SPREAD FOUR BENT;25HEEL;21FIVE FINGERS SPREAD;24HEEL",
    "20FIVE FINGERS SPREAD THUMB FORWARD;10HAND-CUP FIVE FINGERS SPREAD;50OPEN;14HAND-HINGE",
    "10HAND-OVAL FIVE FINGERS SPREAD;10HAND-FLAT FIVE FINGERS SPREAD HINGED;60THUMB SIDE",
    "60NO THUMB;20;20BETWEEN PALM FACINGS;20HEEL;20THUMB SIDE;22HEEL;20THUMB BENT;30FORWARD",
    "20SPLIT INDEX THUMB SIDE;30CENTRE;40THUMB SIDE;60BENT;30LITTLE;10HAND-CLAW;20THUMB SIDE",
    "20NO THUMB;20THUMB FORWARD;10HAND-HOOK CURLICUE;20;10HAND-CUP OPEN;20;20OPEN THUMB SIDE;22",
    "20OPEN NO THUMB;22;20OPEN THUMB FORWARD;22;10HAND-CURLICUE OPEN;20;10HAND-CIRCLE",
    "10HAND-OVAL;20THUMB SIDE;20NO THUMB;20THUMB FORWARD;10HAND-HINGE OPEN;30THUMB FORWARD;20",
    "20SMALL;20OPEN THUMB SIDE;22;20OPEN NO THUMB;22;20THUMB SIDE TOUCHING INDEX",
    "30BETWEEN MIDDLE RING;10HAND-ANGLE;10HAND-FIST INDEX MIDDLE RING;13HAND-CIRCLE",
    "13HAND-HINGE;13HAND-ANGLE;10HAND-HINGE LITTLE;10HAND-FIST INDEX MIDDLE RING BENT",
    "50CONJOINED;14HAND-HINGE;10HAND-FIST LITTLE DOWN;40RIPPLE STRAIGHT;50CURVED",
    "40OTHERS CIRCLED;30UP;22THUMB UNDER;12HAND-CIRCLE;12HAND-OVAL;12HAND-ANGLE",
    "10HAND-FIST LITTLE RAISED KNUCKLE;30BENT;30TOUCHES THUMB;31;12HAND-HINGE",
    "11HAND-FIST LITTLE INDEX;13HAND-HINGE;10HAND-ANGLE LITTLE INDEX THUMB INDEX THUMB OUT;70",
    "10HAND-FIST LITTLE INDEX;12HAND-CIRCLE;12HAND-HINGE;12HAND-ANGLE",
    "10HAND-FIST INDEX MIDDLE LITTLE;13HAND-CIRCLE;13HAND-HINGE;20RING",
    "10HAND-ANGLE INDEX MIDDLE LITTLE;11HAND-FIST INDEX MIDDLE CROSS;14HAND-CIRCLE",
    "10HAND-FIST RING DOWN;10HAND-HINGE RING DOWN INDEX THUMB HOOK MIDDLE",
    "10HAND-ANGLE RING DOWN MIDDLE THUMB INDEX CROSS;10HAND-FIST RING UP;30RAISED KNUCKLE",
    "30LITTLE;12HAND-CIRCLE;12HAND-OVAL;12HAND-ANGLE;10HAND-FIST RING MIDDLE;40CONJOINED",
    "40RAISED KNUCKLES;30INDEX;30THUMB;12HAND-HOOK;10HAND-FIST INDEX RING LITTLE;13HAND-CIRCLE",
    "10HAND-CURLICUE INDEX RING LITTLE ON;10HAND-HOOK INDEX RING LITTLE OUT;50IN;50UNDER",
    "10HAND-CUP INDEX RING LITTLE;13HAND-HINGE;10HAND-ANGLE INDEX RING LITTLE OUT;50",
    "10HAND-FIST MIDDLE DOWN;10HAND-HINGE MIDDLE;10HAND-FIST MIDDLE UP;12HAND-CIRCLE",
    "10HAND-FIST MIDDLE RAISED KNUCKLE;30UP THUMB SIDE;10HAND-HOOK MIDDLE THUMB",
    "10HAND-FIST MIDDLE THUMB LITTLE;31;31RING;13HAND-CIRCLE",
    "10HAND-CURLICUE MIDDLE RING LITTLE ON;10HAND-CUP MIDDLE RING LITTLE;13HAND-HINGE",
    "10HAND-ANGLE MIDDLE RING LITTLE OUT;50IN;50;10HAND-CIRCLE MIDDLE RING LITTLE BENT",
    "10HAND-CLAW MIDDLE RING LITTLE CONJOINED;60SIDE",
    "10HAND-HOOK MIDDLE RING LITTLE CONJOINED OUT;60IN;60;10HAND-HINGE INDEX HINGED",
    "10HAND-FIST INDEX THUMB SIDE;13HAND-HINGE;10HAND-FIST INDEX THUMB SIDE THUMB DIAGONAL",
    "60CONJOINED;60BENT;51INDEX;51BOTH;50INDEX HINGE;40FORWARD INDEX STRAIGHT;60BENT;40HOOK",
    "40CURLICUE;40CURVE THUMB INSIDE;15HAND-CLAW;10HAND-FIST INDEX THUMB CURVE THUMB UNDER",
    "40CIRCLE;10HAND-CUP INDEX THUMB;40OPEN;13HAND-HINGE;40LARGE;40;40SMALL",
    "10HAND-ANGLE INDEX THUMB OUT;40IN;40;11HAND-FIST;30HEEL;30SIDE DIAGONAL;40CONJOINED;40BENT",
    "30FORWARD;30BETWEEN INDEX MIDDLE;40MIDDLE RING;40RING LITTLE;30UNDER TWO FINGERS;32OVER",
    "31UNDER THREE;41FOUR;30OVER FOUR RAISED KNUCKLES;20;20HEEL;10TOUCH SINGLE;20MULTIPLE",
    "20BETWEEN;10GRASP SINGLE;20MULTIPLE;20BETWEEN;10STRIKE SINGLE;20MULTIPLE;20BETWEEN",
    "10BRUSH SINGLE;20MULTIPLE;20BETWEEN;10RUB SINGLE;20MULTIPLE;20BETWEEN;10SURFACE SYMBOLS",
    "20BETWEEN;10SQUEEZE LARGE SINGLE;21SMALL;20LARGE MULTIPLE;21SMALL;20SEQUENTIAL",
    "10FLICK LARGE SINGLE;21SMALL;20LARGE MULTIPLE;21SMALL;20SEQUENTIAL",
    "10SQUEEZE FLICK ALTERNATING;10MOVEMENT-HINGE UP DOWN LARGE;40SMALL;30SEQUENTIAL;21DOWN",
    "20UP DOWN ALTERNATING LARGE;50SMALL;20SIDE TO SIDE SCISSORS",
    "10MOVEMENT-WALLPLANE FINGER CONTACT;12MOVEMENT-FLOORPLANE",
    "10MOVEMENT-WALLPLANE SINGLE STRAIGHT SMALL;40MEDIUM;40LARGE;40LARGEST;30WRIST FLEX",
    "20DOUBLE STRAIGHT;30WRIST FLEX;30ALTERNATING;40WRIST FLEX;20CROSS",
    "20TRIPLE STRAIGHT MOVEMENT;30WRIST FLEX;30ALTERNATING;40WRIST FLEX;20BEND SMALL;30MEDIUM",
    "30LARGE;20CORNER SMALL;30MEDIUM;30LARGE;30ROTATION;20CHECK SMALL;30MEDIUM;30LARGE",
    "20BOX SMALL;30MEDIUM;30LARGE;20ZIGZAG SMALL;30MEDIUM;30LARGE;20PEAKS SMALL;30MEDIUM",
    "30LARGE;10TRAVEL-WALLPLANE ROTATION-WALLPLANE SINGLE;30DOUBLE;30ALTERNATING",
    "20ROTATION-FLOORPLANE SINGLE;30DOUBLE;30ALTERNATING;20SHAKING;20ARM SPIRAL SINGLE;40DOUBLE",
    "40TRIPLE;10MOVEMENT-DIAGONAL AWAY SMALL;30MEDIUM;30LARGE;30LARGEST;20TOWARDS SMALL",
    "30MEDIUM;30LARGE;30LARGEST;20BETWEEN AWAY SMALL;40MEDIUM;40LARGE;40LARGEST;30TOWARDS SMALL",
    "40MEDIUM;40LARGE;40LARGEST;10MOVEMENT-FLOORPLANE SINGLE STRAIGHT SMALL;40MEDIUM;40LARGE",
    "40LARGEST;30WRIST FLEX;20DOUBLE STRAIGHT;30WRIST FLEX;30ALTERNATING;40WRIST FLEX;20CROSS",
    "20TRIPLE STRAIGHT MOVEMENT;30WRIST FLEX;30ALTERNATING MOVEMENT;40WRIST FLEX;20BEND",
    "20CORNER SMALL;30MEDIUM;30LARGE;20CHECK;20BOX SMALL;30MEDIUM;30LARGE;20ZIGZAG SMALL",
    "30MEDIUM;30LARGE;20PEAKS SMALL;30MEDIUM;30LARGE",
    "10TRAVEL-FLOORPLANE ROTATION-FLOORPLANE SINGLE;30DOUBLE;30ALTERNATING",
    "20ROTATION-WALLPLANE SINGLE;30DOUBLE;30ALTERNATING;20SHAKING",
    "10MOVEMENT-WALLPLANE CURVE QUARTER SMALL;40MEDIUM;40LARGE;40LARGEST;30HALF-CIRCLE SMALL",
    "40MEDIUM;40LARGE;40LARGEST;30THREE-QUARTER CIRCLE SMALL;50MEDIUM;20HUMP SMALL;30MEDIUM",
    "30LARGE;20LOOP SMALL;30MEDIUM;30LARGE;30SMALL DOUBLE;20WAVE CURVE DOUBLE SMALL;50MEDIUM",
    "50LARGE;40TRIPLE SMALL;50MEDIUM;50LARGE;20CURVE THEN STRAIGHT;20CURVED CROSS SMALL",
    "40MEDIUM;10ROTATION-WALLPLANE SINGLE;20DOUBLE;20ALTERNATE;10MOVEMENT-WALLPLANE SHAKING",
    "20CURVE HITTING FRONT WALL;23HUMP;23LOOP;23WAVE;13ROTATION-WALLPLANE SINGLE;23DOUBLE",
    "23ALTERNATING;10MOVEMENT-WALLPLANE CURVE HITTING CHEST;22HUMP;22LOOP;22WAVE",
    "12ROTATION-WALLPLANE SINGLE;22DOUBLE;22ALTERNATING",
    "10MOVEMENT-WALLPLANE WAVE DIAGONAL PATH SMALL;50MEDIUM;50LARGE",
    "10MOVEMENT-FLOORPLANE CURVE HITTING CEILING SMALL;50LARGE",
    "20HUMP HITTING CEILING SMALL DOUBLE;51LARGE;50SMALL TRIPLE;51LARGE",
    "20LOOP HITTING CEILING SMALL SINGLE;51LARGE;50SMALL DOUBLE;51LARGE",
    "20WAVE HITTING CEILING SMALL;50LARGE;10ROTATION-FLOORPLANE SINGLE HITTING CEILING;22DOUBLE",
    "22ALTERNATING;10MOVEMENT-FLOORPLANE CURVE HITTING FLOOR SMALL;50LARGE",
    "20HUMP HITTING FLOOR SMALL DOUBLE;51LARGE;50TRIPLE SMALL TRIPLE;61LARGE",
    "20LOOP HITTING FLOOR SMALL SINGLE;51LARGE;50SMALL DOUBLE;51LARGE",
    "20WAVE HITTING FLOOR SMALL;50LARGE;10ROTATION-FLOORPLANE SINGLE HITTING FLOOR;22DOUBLE",
    "22ALTERNATING;10MOVEMENT-FLOORPLANE CURVE SMALL;30MEDIUM;30LARGE;30LARGEST;30COMBINED",
    "20HUMP SMALL;21LOOP;20WAVE SNAKE;30SMALL;30LARGE;10ROTATION-FLOORPLANE SINGLE;20DOUBLE",
    "20ALTERNATING;10MOVEMENT-FLOORPLANE SHAKING PARALLEL",
    "10MOVEMENT-WALLPLANE ARM CIRCLE SMALL SINGLE;41MEDIUM;40SMALL DOUBLE;41MEDIUM",
    "10MOVEMENT-FLOORPLANE ARM CIRCLE HITTING WALL SMALL SINGLE;61MEDIUM;61LARGE;60SMALL DOUBLE",
    "61MEDIUM;61LARGE;10MOVEMENT-WALLPLANE WRIST CIRCLE FRONT SINGLE;50DOUBLE",
    "10MOVEMENT-FLOORPLANE WRIST CIRCLE HITTING WALL SINGLE;60DOUBLE",
    "10MOVEMENT-WALLPLANE FINGER CIRCLES SINGLE;40DOUBLE",
    "10MOVEMENT-FLOORPLANE FINGER CIRCLES HITTING WALL SINGLE;60DOUBLE",
    "10DYNAMIC ARROWHEAD SMALL;30LARGE;20FAST;20SLOW;20TENSE;20RELAXED;20SIMULTANEOUS",
    "30ALTERNATING;20EVERY OTHER TIME;20GRADUAL;10HEAD;20RIM;20MOVEMENT-WALLPLANE STRAIGHT",
    "30TILT;20MOVEMENT-FLOORPLANE STRAIGHT;20MOVEMENT-WALLPLANE CURVE;21MOVEMENT-FLOORPLANE",
    "20MOVEMENT CIRCLE;10FACE DIRECTION POSITION NOSE FORWARD TILTING;50UP OR DOWN;80TILTING",
    "10EYEBROWS STRAIGHT UP;30NEUTRAL;30DOWN;11DREAMY EYEBROWS NEUTRAL;30DOWN NEUTRAL;31UP",
    "30NEUTRAL UP;10FOREHEAD NEUTRAL;20CONTACT;20WRINKLED;10EYES OPEN;20SQUEEZED;20CLOSED",
    "10EYE BLINK SINGLE;30MULTIPLE;10EYES HALF OPEN;21WIDE;20HALF CLOSED;20WIDENING MOVEMENT",
    "10EYE WINK;10EYELASHES UP;20DOWN;20FLUTTERING;10EYEGAZE-WALLPLANE STRAIGHT;30DOUBLE",
    "30ALTERNATING;10EYEGAZE-FLOORPLANE STRAIGHT;30DOUBLE;30ALTERNATING",
    "10EYEGAZE-WALLPLANE CURVED;11EYEGAZE-FLOORPLANE;10EYEGAZE-WALLPLANE CIRCLING",
    "10CHEEKS PUFFED;20NEUTRAL;20SUCKED;10TENSE CHEEKS HIGH;30MIDDLE;30LOW;10EARS",
    "10NOSE NEUTRAL;20CONTACT;20WRINKLES;20WIGGLES;10AIR BLOWING OUT;20SUCKING IN",
    "20BLOW SMALL ROTATIONS;22SUCK;10BREATH INHALE;20EXHALE;10MOUTH CLOSED NEUTRAL;30FORWARD",
    "30CONTACT;20SMILE;30WRINKLED;30OPEN;20FROWN;30WRINKLED;30OPEN;20OPEN CIRCLE;30FORWARD",
    "30WRINKLED;30OVAL;40WRINKLED;40YAWN;30RECTANGLE;40WRINKLED;40YAWN;20KISS;30FORWARD",
    "30WRINKLED;20TENSE;30FORWARD;30SUCKED;10LIPS PRESSED TOGETHER;10LIP LOWER OVER UPPER",
    "20UPPER OVER LOWER;10MOUTH CORNERS;20WRINKLES SINGLE;30DOUBLE;10TONGUE STICKING OUT FAR",
    "20LICKING LIPS;21TIP BETWEEN;30TOUCHING INSIDE MOUTH;20INSIDE MOUTH RELAXED",
    "20MOVES AGAINST CHEEK;20CENTRE STICKING OUT;30INSIDE MOUTH;10TEETH;20MOVEMENT;20ON TONGUE",
    "40MOVEMENT;30LIPS;40MOVEMENT;20BITE LIPS;10MOVEMENT-WALLPLANE JAW;11MOVEMENT-FLOORPLANE",
    "10NECK;10HAIR;10EXCITEMENT;10SHOULDER HIP SPINE;30POSITIONS;10WALLPLANE SHOULDER HIP MOVE",
    "13FLOORPLANE;10SHOULDER TILTING FROM WAIST;10TORSO-WALLPLANE STRAIGHT STRETCH",
    "20CURVED BEND;10TORSO-FLOORPLANE TWISTING;10UPPER BODY TILTING FROM HIP JOINTS",
    "10LIMB COMBINATION;20LENGTH-1;20LENGTH-2;20LENGTH-3;20LENGTH-4;20LENGTH-5;20LENGTH-6",
    "20LENGTH-7;10FINGER;10LOCATION-WALLPLANE SPACE;11LOCATION-FLOORPLANE;10LOCATION HEIGHT",
    "20WIDTH;20DEPTH;20HEAD NECK;20TORSO;20LIMBS DIGITS;10COMMA;10FULL STOP;10SEMICOLON;10COLON",
    "10PARENTHESIS;;;;;;;;;;;;;;;;10FILL MODIFIER-2;20MODIFIER-3;20MODIFIER-4;20MODIFIER-5",
    "20MODIFIER-6;;10ROTATION MODIFIER-2;20MODIFIER-3;20MODIFIER-4;20MODIFIER-5;20MODIFIER-6",
    "20MODIFIER-7;20MODIFIER-8;20MODIFIER-9;20MODIFIER-10;20MODIFIER-11;20MODIFIER-12",
    "20MODIFIER-13;20MODIFIER-14;20MODIFIER-15;20MODIFIER-16"]⟩,
    ⟨0x1DF00, [
    "00LATIN SMALL LETTER FENG DIGRAPH WITH TRILL;30REVERSED SCRIPT G",
    "11LETTER SMALL CAPITAL TURNED;10SMALL LETTER REVERSED K;10LETTER SMALL CAPITAL L WITH BELT",
    "10SMALL LETTER LEZH WITH RETROFLEX HOOK;30TURNED Y WITH BELT;30REVERSED ENG",
    "30TURNED R WITH LONG LEG AND RETROFLEX HOOK;33T WITH HOOK;12LETTER RETROFLEX CLICK WITH",
    "10SMALL LETTER ESH WITH DOUBLE BAR;70AND CURL;31TURNED T WITH",
    "12LETTER INVERTED GLOTTAL STOP;22STRETCHED C;20SMALL CAPITAL TURNED K",
    "10SMALL LETTER L WITH FISHHOOK;30DEZH DIGRAPH WITH PALATAL HOOK;32L WITH BELT AND",
    "32ENG WITH;33TURNED R;32R WITH FISHHOOK AND;32TESH DIGRAPH WITH;33EZH",
    "31DEZH DIGRAPH WITH RETROFLEX;32I WITH STROKE AND;32O WITH;33TESH DIGRAPH;33C",
    "30S WITH CURL"]⟩,
    ⟨0x1E000, [
    "00COMBINING GLAGOLITIC LETTER AZU;30BUKY;30VEDE;30GLAGOLI;30DOBRO;30YESTU;30ZHIVETE;",
    "30ZEMLJA;30IZHE;31INITIAL;30I;30DJERVI;30KAKO;30LJUDIJE;30MYSLITE;30NASHI;30ONU;30POKOJI",
    "30RITSI;30SLOVO;30TVRIDO;30UKU;30FRITU;30HERU;;;30SHTA;30TSI;30CHRIVI;30SHA;30YERU;30YERI",
    "30YATI;;30YU;30SMALL YUS;;30YO;30IOTATED SMALL YUS;31BIG;32IOTATED;30FITA"]⟩,
    ⟨0x1E100, [
    "00NYIAKENG PUACHUE HMONG LETTER MA;40TSA;40NTA;40TA;40HA;40NA;40XA;40NKA;40CA;40LA;40SA",
    "40ZA;40NCA;40NTSA;40KA;40DA;40NYA;40NRA;40VA;40NTXA;40TXA;40FA;40RA;40QA;40YA;40NQA;40PA",
    "40XYA;40NPA;40DLA;40NPLA;40HAH;40MLA;40PLA;40GA;40RRA;40A;40AA;40I;40U;40O;40OO;40E;40EE",
    "40W;;;;30TONE-B;30TONE-M;30TONE-J;30TONE-V;30TONE-S;30TONE-G;30TONE-D;30SIGN FOR PERSON",
    "50THING;50LOCATION;50ANIMAL;50INVERTEBRATE;40XW XW;30SYLLABLE LENGTHENER;;;30DIGIT ZERO",
    "40ONE;40TWO;40THREE;40FOUR;40FIVE;40SIX;40SEVEN;40EIGHT;40NINE;;;;;30LOGOGRAM NYAJ",
    "30CIRCLED CA"]⟩,
    ⟨0x1E290, [
    "00TOTO LETTER PA;20BA;20TA;20DA;20KA;20GA;20MA;20NA;20NGA;20SA;20CHA;20YA;20WA;20JA;20HA",
    "20RA;20LA;20I;21BREATHY;20IU;21BREATHY;20U;20E;21BREATHY;20EO;21BREATHY;20O;20AE;21BREATHY",
    "20A;10SIGN RISING TONE;;;;;;;;;;;;;;;;;;00WANCHO LETTER AA;20A;20BA;20CA;20DA;20GA;20YA",
    "20PHA;20LA;20NA;20PA;20TA;20THA;20FA;20SA;20SHA;20JA;20ZA;20WA;20VA;20KA;20O;20AU;20RA",
    "20MA;20KHA;20HA;20E;20I;20NGA;20U;20LLHA;20TSA;20TRA;20ONG;20AANG;20ANG;20ING;20ON;20EN",
    "20AAN;20NYA;20UEN;20YIH;10TONE TUP;20TUPNI;20KOI;20KOINI;10DIGIT ZERO;20ONE;20TWO;20THREE",
    "20FOUR;20FIVE;20SIX;20SEVEN;20EIGHT;20NINE;;;;;;10NGUN SIGN"]⟩,
    ⟨0x1E7E0, [
    "00ETHIOPIC SYLLABLE HHYA;20HHYU;20HHYI;20HHYAA;20HHYEE;20HHYE;20HHYO;;20GURAGE HHWA;20HHWI",
    "20HHWEE;20HHWE;;20GURAGE MWI;30MWEE;;30QWI;30QWEE;30QWE;30BWI;30BWEE;30KWI;30KWEE;30KWE",
    "30GWI;30GWEE;30GWE;30FWI;30FWEE;30PWI;30PWEE;;00MENDE KIKAKUI SYLLABLE M001 KI;30M002 KA",
    "30M003 KU;30M065 KEE;30M095 KE;30M076 KOO;30M048 KO;30M179 KUA;30M004 WI;30M005 WA",
    "30M006 WU;30M126 WEE;30M118 WE;30M114 WOO;30M045 WO;30M194 WUI;30M143 WEI;30M061 WVI",
    "30M049 WVA;30M139 WVE;30M007 MIN;30M008 MAN;30M009 MUN;30M059 MEN;30M094 MON;30M154 MUAN",
    "30M189 MUEN;30M010 BI;30M011 BA;30M012 BU;30M150 BEE;30M097 BE;30M103 BOO;30M138 BO",
    "30M013 I;30M014 A;30M015 U;30M163 EE;30M100 E;30M165 OO;30M147 O;30M137 EI;30M131 IN",
    "31M135;30M195 AN;30M178 EN;30M019 SI;30M020 SA;30M021 SU;30M162 SEE;30M116 SE;30M136 SOO",
    "30M079 SO;30M196 SIA;30M025 LI;30M026 LA;30M027 LU;30M084 LEE;30M073 LE;30M054 LOO",
    "30M153 LO;30M110 LONG LE;30M016 DI;30M017 DA;30M018 DU;30M089 DEE;30M180 DOO;30M181 DO",
    "30M022 TI;30M023 TA;30M024 TU;30M091 TEE;30M055 TE;30M104 TOO;30M069 TO;30M028 JI",
    "30M029 JA;30M030 JU;30M157 JEE;30M113 JE;30M160 JOO;30M063 JO;31M175 LONG;30M031 YI",
    "30M032 YA;30M033 YU;30M109 YEE;30M080 YE;30M141 YOO;30M121 YO;30M034 FI;30M035 FA",
    "30M036 FU;30M078 FEE;30M075 FE;30M133 FOO;30M088 FO;30M197 FUA;30M101 FAN;30M037 NIN",
    "30M038 NAN;30M039 NUN;30M117 NEN;30M169 NON;30M176 HI;30M041 HA;30M186 HU;30M040 HEE",
    "30M096 HE;30M042 HOO;30M140 HO;30M083 HEEI;30M128 HOOU;30M053 HIN;30M130 HAN;30M087 HUN",
    "30M052 HEN;30M193 HON;30M046 HUAN;30M090 NGGI;30M043 NGGA;30M082 NGGU;30M115 NGGEE",
    "30M146 NGGE;30M156 NGGOO;30M120 NGGO;30M159 NGGAA;30M127 NGGUA;30M086 LONG NGGE",
    "30M106 LONG NGGOO;30M183 LONG NGGO;30M155 GI;30M111 GA;30M168 GU;30M190 GEE;30M166 GUEI",
    "30M167 GUAN;30M184 NGEN;30M057 NGON;30M177 NGUAN;30M068 PI;30M099 PA;30M050 PU;30M081 PEE",
    "30M051 PE;30M102 POO;30M066 PO;30M145 MBI;30M062 MBA;30M122 MBU;30M047 MBEE;31M188",
    "30M072 MBE;30M172 MBOO;30M174 MBO;30M187 MBUU;30M161 LONG MBE;30M105 LONG MBOO",
    "30M142 LONG MBO;30M132 KPI;30M092 KPA;30M074 KPU;30M044 KPEE;30M108 KPE;30M112 KPOO",
    "30M158 KPO;30M124 GBI;30M056 GBA;30M148 GBU;30M093 GBEE;30M107 GBE;30M071 GBOO;30M070 GBO",
    "30M171 RA;30M123 NDI;30M129 NDA;30M125 NDU;30M191 NDEE;30M119 NDE;30M067 NDOO;30M064 NDO",
    "30M152 NJA;30M192 NJU;30M149 NJEE;30M134 NJOO;30M182 VI;30M185 VA;30M151 VU;30M173 VEE",
    "30M085 VE;30M144 VOO;30M077 VO;30M164 NYIN;30M058 NYAN;30M170 NYUN;30M098 NYEN;30M060 NYON",
    ";;20DIGIT ONE;30TWO;30THREE;30FOUR;30FIVE;30SIX;30SEVEN;30EIGHT;30NINE",
    "20COMBINING NUMBER TEENS;40TENS;40HUNDREDS;40THOUSANDS;41TEN;41HUNDRED;40MILLIONS"]⟩,
    ⟨0x1E900, [
    "00ADLAM CAPITAL LETTER ALIF;30DAALI;30LAAM;30MIIM;30BA;30SINNYIIYHE;30PE;30BHE;30RA;30E",
    "30FA;30I;30O;30DHA;30YHE;30WAW;30NUN;30KAF;30YA;30U;30JIIM;30CHI;30HA;30QAAF;30GA;30NYA",
    "30TU;30NHA;30VA;30KHA;30GBE;30ZAL;30KPO;30SHA;10SMALL LETTER ALIF;30DAALI;30LAAM;30MIIM",
    "30BA;30SINNYIIYHE;30PE;30BHE;30RA;30E;30FA;30I;30O;30DHA;30YHE;30WAW;30NUN;30KAF;30YA;30U",
    "30JIIM;30CHI;30HA;30QAAF;30GA;30NYA;30TU;30NHA;30VA;30KHA;30GBE;30ZAL;30KPO;30SHA",
    "10ALIF LENGTHENER;11VOWEL;10GEMINATION MARK;10HAMZA;10CONSONANT MODIFIER;12GEMINATE",
    "10NUKTA;10NASALIZATION MARK;;;;;10DIGIT ZERO;20ONE;20TWO;20THREE;20FOUR;20FIVE;20SIX",
    "20SEVEN;20EIGHT;20NINE;;;;;10INITIAL EXCLAMATION MARK;21QUESTION"]⟩,
    ⟨0x1EC71, [
    "00INDIC SIYAQ NUMBER ONE;30TWO;30THREE;30FOUR;30FIVE;30SIX;30SEVEN;30EIGHT;30NINE;30TEN",
    "30TWENTY;30THIRTY;30FORTY;30FIFTY;30SIXTY;30SEVENTY;30EIGHTY;30NINETY;30ONE HUNDRED;31TWO",
    "31THREE;31FOUR;31FIVE;31SIX;31SEVEN;31EIGHT;31NINE;30ONE THOUSAND;31TWO;31THREE;31FOUR",
    "31FIVE;31SIX;31SEVEN;31EIGHT;31NINE;31TEN;31TWENTY;31THIRTY;31FORTY;31FIFTY;31SIXTY",
    "31SEVENTY;31EIGHTY;31NINETY;30LAKH;30LAKHAN;20LAKH MARK;20NUMBER KAROR;30KARORAN",
    "30PREFIXED ONE;40TWO;40THREE;40FOUR;40FIVE;40SIX;40SEVEN;40EIGHT;40NINE;20PLACEHOLDER",
    "20FRACTION ONE QUARTER;40HALF;30THREE QUARTERS;20RUPEE MARK;20NUMBER ALTERNATE ONE;40TWO",
    "40TEN THOUSAND;20ALTERNATE LAKH MARK"]⟩,
    ⟨0x1ED01, [
    "00OTTOMAN SIYAQ NUMBER ONE;30TWO;30THREE;30FOUR;30FIVE;30SIX;30SEVEN;30EIGHT;30NINE;30TEN",
    "30TWENTY;30THIRTY;30FORTY;30FIFTY;30SIXTY;30SEVENTY;30EIGHTY;30NINETY;30ONE HUNDRED;31TWO",
    "31THREE;31FOUR;31FIVE;31SIX;31SEVEN;31EIGHT;31NINE;30ONE THOUSAND;31TWO;31THREE;31FOUR",
    "31FIVE;31SIX;31SEVEN;31EIGHT;31NINE;31TEN;31TWENTY;31THIRTY;31FORTY;31FIFTY;31SIXTY",
    "31SEVENTY;31EIGHTY;31NINETY;20MARRATAN;20ALTERNATE NUMBER TWO;40THREE;40FOUR;40FIVE;40SIX",
    "40SEVEN;40EIGHT;40NINE;40TEN;40FOUR HUNDRED;41SIX;40TWO THOUSAND;41TEN;20FRACTION ONE HALF",
    "40SIXTH"]⟩,
    ⟨0x1EE00, [
    "00ARABIC MATHEMATICAL ALEF;20BEH;20JEEM;20DAL;;20WAW;20ZAIN;20HAH;20TAH;20YEH;20KAF;20LAM",
    "20MEEM;20NOON;20SEEN;20AIN;20FEH;20SAD;20QAF;20REH;20SHEEN;20TEH;20THEH;20KHAH;20THAL",
    "20DAD;20ZAH;20GHAIN;20DOTLESS BEH;30NOON;30FEH;30QAF;;20INITIAL BEH;30JEEM;;30HEH;;;30HAH;",
    "30YEH;30KAF;30LAM;30MEEM;30NOON;30SEEN;30AIN;30FEH;30SAD;30QAF;;30SHEEN;30TEH;30THEH",
    "30KHAH;;30DAD;;30GHAIN;;;;;;;20TAILED JEEM;;;;;30HAH;;30YEH;;30LAM;;30NOON;30SEEN;30AIN;",
    "30SAD;30QAF;;30SHEEN;;;30KHAH;;30DAD;;30GHAIN;;30DOTLESS NOON;;40QAF;;20STRETCHED BEH",
    "30JEEM;;30HEH;;;30HAH;30TAH;30YEH;30KAF;;30MEEM;30NOON;30SEEN;30AIN;30FEH;30SAD;30QAF;",
    "30SHEEN;30TEH;30THEH;30KHAH;;30DAD;30ZAH;30GHAIN;30DOTLESS BEH;;40FEH;;20LOOPED ALEF;30BEH",
    "30JEEM;30DAL;30HEH;30WAW;30ZAIN;30HAH;30TAH;30YEH;;30LAM;30MEEM;30NOON;30SEEN;30AIN;30FEH",
    "30SAD;30QAF;30REH;30SHEEN;30TEH;30THEH;30KHAH;30THAL;30DAD;30ZAH;30GHAIN;;;;;",
    "20DOUBLE-STRUCK BEH;30JEEM;30DAL;;30WAW;30ZAIN;30HAH;30TAH;30YEH;;30LAM;30MEEM;30NOON",
    "30SEEN;30AIN;30FEH;30SAD;30QAF;30REH;30SHEEN;30TEH;30THEH;30KHAH;30THAL;30DAD;30ZAH",
    "30GHAIN"]⟩,
    ⟨0x1EEF0, [
    "00ARABIC MATHEMATICAL OPERATOR MEEM WITH HAH WITH TATWEEL;30HAH WITH DAL"]⟩,
    ⟨0x1F000, [
    "00MAHJONG TILE EAST WIND;21SOUTH;21WEST;21NORTH;20RED DRAGON;21GREEN;21WHITE",
    "20ONE OF CHARACTERS;22TWO;22THREE;22FOUR;22FIVE;22SIX;22SEVEN;22EIGHT;22NINE",
    "20ONE OF BAMBOOS;22TWO;22THREE;22FOUR;22FIVE;22SIX;22SEVEN;22EIGHT;22NINE;20ONE OF CIRCLES",
    "22TWO;22THREE;22FOUR;22FIVE;22SIX;22SEVEN;22EIGHT;22NINE;20PLUM;20ORCHID;20BAMBOO",
    "20CHRYSANTHEMUM;20SPRING;20SUMMER;20AUTUMN;20WINTER;20JOKER;20BACK;;;;",
    "01DOMINO TILE HORIZONTAL;20HORIZONTAL-00-00;20HORIZONTAL-00-01;20HORIZONTAL-00-02",
    "20HORIZONTAL-00-03;20HORIZONTAL-00-04;20HORIZONTAL-00-05;20HORIZONTAL-00-06",
    "20HORIZONTAL-01-00;20HORIZONTAL-01-01;20HORIZONTAL-01-02;20HORIZONTAL-01-03",
    "20HORIZONTAL-01-04;20HORIZONTAL-01-05;20HORIZONTAL-01-06;20HORIZONTAL-02-00",
    "20HORIZONTAL-02-01;20HORIZONTAL-02-02;20HORIZONTAL-02-03;20HORIZONTAL-02-04",
    "20HORIZONTAL-02-05;20HORIZONTAL-02-06;20HORIZONTAL-03-00;20HORIZONTAL-03-01",
    "20HORIZONTAL-03-02;20HORIZONTAL-03-03;20HORIZONTAL-03-04;20HORIZONTAL-03-05",
    "20HORIZONTAL-03-06;20HORIZONTAL-04-00;20HORIZONTAL-04-01;20HORIZONTAL-04-02",
    "20HORIZONTAL-04-03;20HORIZONTAL-04-04;20HORIZONTAL-04-05;20HORIZONTAL-04-06",
    "20HORIZONTAL-05-00;20HORIZONTAL-05-01;20HORIZONTAL-05-02;20HORIZONTAL-05-03",
    "20HORIZONTAL-05-04;20HORIZONTAL-05-05;20HORIZONTAL-05-06;20HORIZONTAL-06-00",
    "20HORIZONTAL-06-01;20HORIZONTAL-06-02;20HORIZONTAL-06-03;20HORIZONTAL-06-04",
    "20HORIZONTAL-06-05;20HORIZONTAL-06-06;20VERTICAL BACK;20VERTICAL-00-00;20VERTICAL-00-01",
    "20VERTICAL-00-02;20VERTICAL-00-03;20VERTICAL-00-04;20VERTICAL-00-05;20VERTICAL-00-06",
    "20VERTICAL-01-00;20VERTICAL-01-01;20VERTICAL-01-02;20VERTICAL-01-03;20VERTICAL-01-04",
    "20VERTICAL-01-05;20VERTICAL-01-06;20VERTICAL-02-00;20VERTICAL-02-01;20VERTICAL-02-02",
    "20VERTICAL-02-03;20VERTICAL-02-04;20VERTICAL-02-05;20VERTICAL-02-06;20VERTICAL-03-00",
    "20VERTICAL-03-01;20VERTICAL-03-02;20VERTICAL-03-03;20VERTICAL-03-04;20VERTICAL-03-05",
    "20VERTICAL-03-06;20VERTICAL-04-00;20VERTICAL-04-01;20VERTICAL-04-02;20VERTICAL-04-03",
    "20VERTICAL-04-04;20VERTICAL-04-05;20VERTICAL-04-06;20VERTICAL-05-00;20VERTICAL-05-01",
    "20VERTICAL-05-02;20VERTICAL-05-03;20VERTICAL-05-04;20VERTICAL-05-05;20VERTICAL-05-06",
    "20VERTICAL-06-00;20VERTICAL-06-01;20VERTICAL-06-02;20VERTICAL-06-03;20VERTICAL-06-04",
    "20VERTICAL-06-05;20VERTICAL-06-06;;;;;;;;;;;;;00PLAYING CARD BACK;20ACE OF SPADES;22TWO",
    "22THREE;22FOUR;22FIVE;22SIX;22SEVEN;22EIGHT;22NINE;22TEN;22JACK;22KNIGHT;22QUEEN;22KING;;",
    "20ACE OF HEARTS;22TWO;22THREE;22FOUR;22FIVE;22SIX;22SEVEN;22EIGHT;22NINE;22TEN;22JACK",
    "22KNIGHT;22QUEEN;22KING;20RED JOKER;;20ACE OF DIAMONDS;22TWO;22THREE;22FOUR;22FIVE;22SIX",
    "22SEVEN;22EIGHT;22NINE;22TEN;22JACK;22KNIGHT;22QUEEN;22KING;20BLACK JOKER;;20ACE OF CLUBS",
    "22TWO;22THREE;22FOUR;22FIVE;22SIX;22SEVEN;22EIGHT;22NINE;22TEN;22JACK;22KNIGHT;22QUEEN",
    "22KING;20WHITE JOKER;20FOOL;20TRUMP-1;20TRUMP-2;20TRUMP-3;20TRUMP-4;20TRUMP-5;20TRUMP-6",
    "20TRUMP-7;20TRUMP-8;20TRUMP-9;20TRUMP-10;20TRUMP-11;20TRUMP-12;20TRUMP-13;20TRUMP-14",
    "20TRUMP-15;20TRUMP-16;20TRUMP-17;20TRUMP-18;20TRUMP-19;20TRUMP-20;20TRUMP-21;;;;;;;;;;",
    "00DIGIT ZERO FULL STOP;20COMMA;11ONE;11TWO;11THREE;11FOUR;11FIVE;11SIX;11SEVEN;11EIGHT",
    "11NINE;00DINGBAT CIRCLED SANS-SERIF DIGIT ZERO;14NEGATIVE;00CIRCLED ZERO WITH SLASH",
    "10ANTICLOCKWISE ARROW;10DOLLAR SIGN WITH OVERLAID BACKSLASH",
    "00PARENTHESIZED LATIN CAPITAL LETTER A;40B;40C;40D;40E;40F;40G;40H;40I;40J;40K;40L;40M;40N",
    "40O;40P;40Q;40R;40S;40T;40U;40V;40W;40X;40Y;40Z",
    "00TORTOISE SHELL BRACKETED LATIN CAPITAL LETTER S;00CIRCLED ITALIC LATIN CAPITAL LETTER C",
    "50R;10CD;10WZ;00COPYLEFT SYMBOL;00SQUARED LATIN CAPITAL LETTER A;40B;40C;40D;40E;40F;40G",
    "40H;40I;40J;40K;40L;40M;40N;40O;40P;40Q;40R;40S;40T;40U;40V;40W;40X;40Y;40Z;10HV;10MV;10SD",
    "10SS;10PPV;10WC;00NEGATIVE CIRCLED LATIN CAPITAL LETTER A;50B;50C;50D;50E;50F;50G;50H;50I",
    "50J;50K;50L;50M;50N;50O;50P;50Q;50R;50S;50T;50U;50V;50W;50X;50Y;50Z;00RAISED MC SIGN;11MD",
    "11MR;00CIRCLED CC;10C WITH OVERLAID BACKSLASH;10HUMAN FIGURE",
    "00NEGATIVE SQUARED LATIN CAPITAL LETTER A;50B;50C;50D;50E;50F;50G;50H;50I;50J;50K;50L;50M",
    "50N;50O;50P;50Q;50R;50S;50T;50U;50V;50W;50X;50Y;50Z",
    "00CROSSED NEGATIVE SQUARED LATIN CAPITAL LETTER P;00NEGATIVE SQUARED IC;20PA;20SA;20AB",
    "20WC;00SQUARE DJ;00SQUARED CL;10COOL;10FREE;10ID;10NEW;10NG;10OK;10SOS",
    "10UP WITH EXCLAMATION MARK;10VS;10THREE D;10SECOND SCREEN;10TWO K;11FOUR;11EIGHT",
    "10FIVE POINT ONE;12SEVEN;10TWENTY-TWO POINT TWO;10SIXTY P;11ONE HUNDRED TWENTY",
    "10LATIN SMALL LETTER D;10HC;10HDR;10HI-RES;10LOSSLESS;10SHV;10UHD;10VOD;00MASK WORK SYMBOL"]⟩,
    ⟨0x1F1E6, [
    "00REGIONAL INDICATOR SYMBOL LETTER A;40B;40C;40D;40E;40F;40G;40H;40I;40J;40K;40L;40M;40N",
    "40O;40P;40Q;40R;40S;40T;40U;40V;40W;40X;40Y;40Z;00SQUARE HIRAGANA HOKA",
    "00SQUARED KATAKANA KOKO;20SA;;;;;;;;;;;;;;10CJK UNIFIED IDEOGRAPH-624B;30IDEOGRAPH-5B57",
    "30IDEOGRAPH-53CC;10KATAKANA DE;10CJK UNIFIED IDEOGRAPH-4E8C;30IDEOGRAPH-591A",
    "30IDEOGRAPH-89E3;30IDEOGRAPH-5929;30IDEOGRAPH-4EA4;30IDEOGRAPH-6620;30IDEOGRAPH-7121",
    "30IDEOGRAPH-6599;30IDEOGRAPH-524D;30IDEOGRAPH-5F8C;30IDEOGRAPH-518D;30IDEOGRAPH-65B0",
    "30IDEOGRAPH-521D;30IDEOGRAPH-7D42;30IDEOGRAPH-751F;30IDEOGRAPH-8CA9;30IDEOGRAPH-58F0",
    "30IDEOGRAPH-5439;30IDEOGRAPH-6F14;30IDEOGRAPH-6295;30IDEOGRAPH-6355;30IDEOGRAPH-4E00",
    "30IDEOGRAPH-4E09;30IDEOGRAPH-904A;30IDEOGRAPH-5DE6;30IDEOGRAPH-4E2D;30IDEOGRAPH-53F3",
    "30IDEOGRAPH-6307;30IDEOGRAPH-8D70;30IDEOGRAPH-6253;30IDEOGRAPH-7981;30IDEOGRAPH-7A7A",
    "30IDEOGRAPH-5408;30IDEOGRAPH-6E80;30IDEOGRAPH-6709;30IDEOGRAPH-6708;30IDEOGRAPH-7533",
    "30IDEOGRAPH-5272;30IDEOGRAPH-55B6;30IDEOGRAPH-914D;;;;",
    "00TORTOISE SHELL BRACKETED CJK UNIFIED IDEOGRAPH-672C;50IDEOGRAPH-4E09;50IDEOGRAPH-4E8C",
    "50IDEOGRAPH-5B89;50IDEOGRAPH-70B9;50IDEOGRAPH-6253;50IDEOGRAPH-76D7;50IDEOGRAPH-52DD",
    "50IDEOGRAPH-6557;;;;;;;;00CIRCLED IDEOGRAPH ADVANTAGE;20ACCEPT;;;;;;;;;;;;;;",
    "00ROUNDED SYMBOL FOR FU;30LU;30SHOU;30XI;30SHUANGXI;30CAI"]⟩,
    ⟨0x1F300, [
    "00CYCLONE;00FOGGY;00CLOSED UMBRELLA;00NIGHT WITH STARS;00SUNRISE OVER MOUNTAINS;10",
    "00CITYSCAPE AT DUSK;00SUNSET OVER BUILDINGS;00RAINBOW;00BRIDGE AT NIGHT;00WATER WAVE",
    "00VOLCANO;00MILKY WAY;00EARTH GLOBE EUROPE-AFRICA;20AMERICAS;20ASIA-AUSTRALIA",
    "00GLOBE WITH MERIDIANS;00NEW MOON SYMBOL;02WAXING CRESCENT;02FIRST QUARTER",
    "02WAXING GIBBOUS;02FULL;02WANING GIBBOUS;02LAST QUARTER;02WANING CRESCENT;00CRESCENT MOON",
    "00NEW MOON WITH FACE;03FIRST QUARTER;04LAST;03FULL;02SUN;00GLOWING STAR;01SHOOTING",
    "00THERMOMETER;00BLACK DROPLET;00WHITE SUN;20WITH SMALL CLOUD;21BEHIND;40WITH RAIN;03",
    "20SNOW;20LIGHTNING;20TORNADO;00FOG;00WIND BLOWING FACE;00HOT DOG;00TACO;00BURRITO",
    "00CHESTNUT;00SEEDLING;00EVERGREEN TREE;01DECIDUOUS;01PALM;00CACTUS;00HOT PEPPER;00TULIP",
    "00CHERRY BLOSSOM;00ROSE;00HIBISCUS;00SUNFLOWER;00BLOSSOM;00EAR OF MAIZE;20RICE;00HERB",
    "00FOUR LEAF CLOVER;00MAPLE LEAF;01FALLEN;00LEAF FLUTTERING IN WIND;00MUSHROOM;00TOMATO",
    "00AUBERGINE;00GRAPES;00MELON;00WATERMELON;00TANGERINE;00LEMON;00BANANA;00PINEAPPLE",
    "00RED APPLE;01GREEN;00PEAR;00PEACH;00CHERRIES;00STRAWBERRY;00HAMBURGER;00SLICE OF PIZZA",
    "00MEAT ON BONE;00POULTRY LEG;00RICE CRACKER;10BALL;00COOKED RICE;01CURRY AND",
    "00STEAMING BOWL;00SPAGHETTI;00BREAD;00FRENCH FRIES;00ROASTED SWEET POTATO;00DANGO;00ODEN",
    "00SUSHI;00FRIED SHRIMP;00FISH CAKE WITH SWIRL DESIGN;00SOFT ICE CREAM;00SHAVED ICE",
    "00ICE CREAM;00DOUGHNUT;00COOKIE;00CHOCOLATE BAR;00CANDY;00LOLLIPOP;00CUSTARD;00HONEY POT",
    "00SHORTCAKE;00BENTO BOX;00POT OF FOOD;00COOKING;00FORK AND KNIFE;00TEACUP WITHOUT HANDLE",
    "00SAKE BOTTLE AND CUP;00WINE GLASS;01COCKTAIL;00TROPICAL DRINK;00BEER MUG",
    "00CLINKING BEER MUGS;00BABY BOTTLE;00FORK AND KNIFE WITH PLATE;00BOTTLE WITH POPPING CORK",
    "00POPCORN;00RIBBON;00WRAPPED PRESENT;00BIRTHDAY CAKE;00JACK-O-LANTERN;00CHRISTMAS TREE",
    "00FATHER CHRISTMAS;00FIREWORKS;00FIREWORK SPARKLER;00BALLOON;00PARTY POPPER",
    "00CONFETTI BALL;00TANABATA TREE;00CROSSED FLAGS;00PINE DECORATION;00JAPANESE DOLLS",
    "00CARP STREAMER;00WIND CHIME;00MOON VIEWING CEREMONY;00SCHOOL SATCHEL;00GRADUATION CAP",
    "00HEART WITH TIP ON THE LEFT;00BOUQUET OF FLOWERS;00MILITARY MEDAL;00REMINDER RIBBON",
    "00MUSICAL KEYBOARD WITH JACKS;00STUDIO MICROPHONE;00LEVEL SLIDER;00CONTROL KNOBS",
    "00BEAMED ASCENDING MUSICAL NOTES;12DESCENDING;00FILM FRAMES;00ADMISSION TICKETS",
    "00CAROUSEL HORSE;00FERRIS WHEEL;00ROLLER COASTER;00FISHING POLE AND FISH;00MICROPHONE",
    "00MOVIE CAMERA;00CINEMA;00HEADPHONE;00ARTIST PALETTE;00TOP HAT;00CIRCUS TENT;00TICKET",
    "00CLAPPER BOARD;00PERFORMING ARTS;00VIDEO GAME;00DIRECT HIT;00SLOT MACHINE;00BILLIARDS",
    "00GAME DIE;00BOWLING;00FLOWER PLAYING CARDS;00MUSICAL NOTE;00MULTIPLE MUSICAL NOTES",
    "00SAXOPHONE;00GUITAR;00MUSICAL KEYBOARD;00TRUMPET;00VIOLIN;00MUSICAL SCORE",
    "00RUNNING SHIRT WITH SASH;00TENNIS RACQUET AND BALL;00SKI AND SKI BOOT",
    "00BASKETBALL AND HOOP;00CHEQUERED FLAG;00SNOWBOARDER;00RUNNER;00SURFER;00SPORTS MEDAL",
    "00TROPHY;00HORSE RACING;00AMERICAN FOOTBALL;01RUGBY;00SWIMMER;00WEIGHT LIFTER;00GOLFER",
    "00RACING MOTORCYCLE;10CAR;00CRICKET BAT AND BALL;00VOLLEYBALL",
    "00FIELD HOCKEY STICK AND BALL;00ICE HOCKEY STICK AND PUCK;00TABLE TENNIS PADDLE AND BALL",
    "00SNOW CAPPED MOUNTAIN;00CAMPING;00BEACH WITH UMBRELLA;00BUILDING CONSTRUCTION",
    "00HOUSE BUILDINGS;00CITYSCAPE;00DERELICT HOUSE BUILDING;01CLASSICAL;00DESERT;10ISLAND",
    "00NATIONAL PARK;00STADIUM;00HOUSE BUILDING;10WITH GARDEN;00OFFICE BUILDING",
    "00JAPANESE POST OFFICE;02EUROPEAN;00HOSPITAL;00BANK;00AUTOMATED TELLER MACHINE;00HOTEL",
    "01LOVE;00CONVENIENCE STORE;00SCHOOL;00DEPARTMENT STORE;00FACTORY;00IZAKAYA LANTERN",
    "00JAPANESE CASTLE;01EUROPEAN;00WHITE PENNANT;01BLACK;00WAVING WHITE FLAG;11BLACK;00ROSETTE",
    "01BLACK;00LABEL;00BADMINTON RACQUET AND SHUTTLECOCK;00BOW AND ARROW;00AMPHORA",
    "00EMOJI MODIFIER FITZPATRICK TYPE-1-2;30TYPE-3;30TYPE-4;30TYPE-5;30TYPE-6;00RAT;00MOUSE",
    "00OX;00WATER BUFFALO;00COW;00TIGER;00LEOPARD;00RABBIT;00CAT;00DRAGON;00CROCODILE;00WHALE",
    "00SNAIL;00SNAKE;00HORSE;00RAM;00GOAT;00SHEEP;00MONKEY;00ROOSTER;00CHICKEN;00DOG;00PIG",
    "00BOAR;00ELEPHANT;00OCTOPUS;00SPIRAL SHELL;00BUG;00ANT;00HONEYBEE;00LADY BEETLE;00FISH",
    "01TROPICAL;00BLOWFISH;00TURTLE;00HATCHING CHICK;01BABY;02FRONT-FACING;00BIRD;00PENGUIN",
    "00KOALA;00POODLE;00DROMEDARY CAMEL;01BACTRIAN;00DOLPHIN;00MOUSE FACE;01COW;01TIGER",
    "01RABBIT;01CAT;01DRAGON;00SPOUTING WHALE;00HORSE FACE;01MONKEY;01DOG;01PIG;01FROG",
    "01HAMSTER;01WOLF;01BEAR;01PANDA;00PIG NOSE;00PAW PRINTS;00CHIPMUNK;00EYES;00EYE;00EAR",
    "00NOSE;00MOUTH;00TONGUE;00WHITE UP POINTING BACKHAND INDEX;13DOWN;13LEFT;13RIGHT",
    "00FISTED HAND SIGN;02WAVING;02OK;01THUMBS UP;11DOWN;01CLAPPING HANDS;02OPEN;00CROWN",
    "00WOMANS HAT;00EYEGLASSES;00NECKTIE;00T-SHIRT;00JEANS;00DRESS;00KIMONO;00BIKINI",
    "00WOMANS CLOTHES;00PURSE;00HANDBAG;00POUCH;00MANS SHOE;01ATHLETIC;01HIGH-HEELED",
    "00WOMANS SANDAL;10BOOTS;00FOOTPRINTS;00BUST IN SILHOUETTE;02BUSTS;00BOY;00GIRL;00MAN",
    "00WOMAN;00FAMILY;00MAN AND WOMAN HOLDING HANDS;02TWO MEN;12WOMEN;00POLICE OFFICER",
    "00WOMAN WITH BUNNY EARS;00BRIDE WITH VEIL;00PERSON WITH BLOND HAIR;00MAN WITH GUA PI MAO",
    "20TURBAN;00OLDER MAN;10WOMAN;00BABY;00CONSTRUCTION WORKER;00PRINCESS;00JAPANESE OGRE",
    "10GOBLIN;00GHOST;00BABY ANGEL;00EXTRATERRESTRIAL ALIEN;00ALIEN MONSTER;00IMP;00SKULL",
    "00INFORMATION DESK PERSON;00GUARDSMAN;00DANCER;00LIPSTICK;00NAIL POLISH;00FACE MASSAGE",
    "00HAIRCUT;00BARBER POLE;00SYRINGE;00PILL;00KISS MARK;00LOVE LETTER;00RING;00GEM STONE",
    "00KISS;00BOUQUET;00COUPLE WITH HEART;00WEDDING;00BEATING HEART;01BROKEN;00TWO HEARTS",
    "00SPARKLING HEART;01GROWING;00HEART WITH ARROW;00BLUE HEART;01GREEN;01YELLOW;01PURPLE",
    "00HEART WITH RIBBON;00REVOLVING HEARTS;00HEART DECORATION",
    "00DIAMOND SHAPE WITH A DOT INSIDE;00ELECTRIC LIGHT BULB;00ANGER SYMBOL;00BOMB",
    "00SLEEPING SYMBOL;01COLLISION;01SPLASHING SWEAT;00DROPLET;00DASH SYMBOL;00PILE OF POO",
    "00FLEXED BICEPS;00DIZZY SYMBOL;00SPEECH BALLOON;01THOUGHT;00WHITE FLOWER",
    "00HUNDRED POINTS SYMBOL;00MONEY BAG;00CURRENCY EXCHANGE;00HEAVY DOLLAR SIGN;00CREDIT CARD",
    "00BANKNOTE WITH YEN SIGN;21DOLLAR;21EURO;21POUND;00MONEY WITH WINGS",
    "00CHART WITH UPWARDS TREND AND YEN SIGN;00SEAT;00PERSONAL COMPUTER;00BRIEFCASE;00MINIDISC",
    "00FLOPPY DISK;00OPTICAL DISC;00DVD;00FILE FOLDER;02OPEN;00PAGE WITH CURL;10FACING UP",
    "00CALENDAR;01TEAR-OFF;00CARD INDEX;00CHART WITH UPWARDS TREND;21DOWNWARDS;00BAR CHART",
    "00CLIPBOARD;00PUSHPIN;01ROUND;00PAPERCLIP;00STRAIGHT RULER;01TRIANGULAR;00BOOKMARK TABS",
    "00LEDGER;00NOTEBOOK;10WITH DECORATIVE COVER;00CLOSED BOOK;01OPEN;01GREEN;01BLUE;01ORANGE",
    "00BOOKS;00NAME BADGE;00SCROLL;00MEMO;00TELEPHONE RECEIVER;00PAGER;00FAX MACHINE",
    "00SATELLITE ANTENNA;00PUBLIC ADDRESS LOUDSPEAKER;00CHEERING MEGAPHONE;00OUTBOX TRAY",
    "01INBOX;00PACKAGE;00E-MAIL SYMBOL;00INCOMING ENVELOPE",
    "00ENVELOPE WITH DOWNWARDS ARROW ABOVE;00CLOSED MAILBOX WITH LOWERED FLAG;31RAISED;04OPEN",
    "31LOWERED;00POSTBOX;00POSTAL HORN;00NEWSPAPER;00MOBILE PHONE",
    "20WITH RIGHTWARDS ARROW AT LEFT;00VIBRATION MODE;00MOBILE PHONE OFF;00NO MOBILE PHONES",
    "00ANTENNA WITH BARS;00CAMERA;10WITH FLASH;00VIDEO CAMERA;00TELEVISION;00RADIO",
    "00VIDEOCASSETTE;00FILM PROJECTOR;00PORTABLE STEREO;00PRAYER BEADS",
    "00TWISTED RIGHTWARDS ARROWS;01CLOCKWISE RIGHTWARDS AND LEFTWARDS OPEN CIRCLE",
    "70WITH CIRCLED ONE OVERLAY;10DOWNWARDS AND UPWARDS OPEN CIRCLE ARROWS;06ANTICLOCKWISE",
    "00LOW BRIGHTNESS SYMBOL;02HIGH;00SPEAKER WITH CANCELLATION STROKE;10;10WITH ONE SOUND WAVE",
    "20THREE SOUND WAVES;00BATTERY;00ELECTRIC PLUG;00LEFT-POINTING MAGNIFYING GLASS",
    "02RIGHT-POINTING;00LOCK WITH INK PEN;00CLOSED LOCK WITH KEY;01;00LOCK;01OPEN;00BELL",
    "10WITH CANCELLATION STROKE;00BOOKMARK;00LINK SYMBOL;00RADIO BUTTON",
    "00BACK WITH LEFTWARDS ARROW ABOVE;04END;02ON WITH EXCLAMATION MARK WITH LEFT RIGHT",
    "02SOON WITH RIGHTWARDS;02TOP WITH UPWARDS;00NO ONE UNDER EIGHTEEN SYMBOL;00KEYCAP TEN",
    "00INPUT SYMBOL FOR LATIN CAPITAL LETTERS;41SMALL;30NUMBERS;30SYMBOLS;30LATIN LETTERS",
    "00FIRE;00ELECTRIC TORCH;00WRENCH;00HAMMER;00NUT AND BOLT;00HOCHO;00PISTOL;00MICROSCOPE",
    "00TELESCOPE;00CRYSTAL BALL;00SIX POINTED STAR WITH MIDDLE DOT",
    "00JAPANESE SYMBOL FOR BEGINNER;00TRIDENT EMBLEM;00BLACK SQUARE BUTTON;02WHITE",
    "00LARGE RED CIRCLE;11BLUE;10ORANGE DIAMOND;11BLUE;01SMALL ORANGE;11BLUE",
    "00UP-POINTING RED TRIANGLE;02DOWN-POINTING;02UP-POINTING SMALL;03DOWN-POINTING",
    "00LOWER RIGHT SHADOWED WHITE CIRCLE;04UPPER;00CIRCLED CROSS POMMEE",
    "00CROSS POMMEE WITH HALF-CIRCLE BELOW;20;00NOTCHED LEFT SEMICIRCLE WITH THREE DOTS;14RIGHT",
    "00SYMBOL FOR MARKS CHAPTER;00WHITE LATIN CROSS;02HEAVY;01CELTIC;00OM SYMBOL",
    "00DOVE OF PEACE;00KAABA;00MOSQUE;00SYNAGOGUE;00MENORAH WITH NINE BRANCHES",
    "00BOWL OF HYGIEIA;00CLOCK FACE ONE OCLOCK;21TWO;21THREE;21FOUR;21FIVE;21SIX;21SEVEN",
    "21EIGHT;21NINE;21TEN;21ELEVEN;21TWELVE;20ONE-THIRTY;20TWO-THIRTY;20THREE-THIRTY",
    "20FOUR-THIRTY;20FIVE-THIRTY;20SIX-THIRTY;20SEVEN-THIRTY;20EIGHT-THIRTY;20NINE-THIRTY",
    "20TEN-THIRTY;20ELEVEN-THIRTY;20TWELVE-THIRTY;00RIGHT SPEAKER;20WITH ONE SOUND WAVE",
    "30THREE SOUND WAVES;00BULLHORN;10WITH SOUND WAVES;00RINGING BELL;00BOOK;00CANDLE",
    "00MANTELPIECE CLOCK;00BLACK SKULL AND CROSSBONES;00NO PIRACY;00HOLE",
    "00MAN IN BUSINESS SUIT LEVITATING;00SLEUTH OR SPY;00DARK SUNGLASSES;00SPIDER;10WEB",
    "00JOYSTICK;00MAN DANCING;00LEFT HAND TELEPHONE RECEIVER;00TELEPHONE RECEIVER WITH PAGE",
    "00RIGHT HAND TELEPHONE RECEIVER;00WHITE TOUCHTONE TELEPHONE;02BLACK",
    "00TELEPHONE ON TOP OF MODEM;00CLAMSHELL MOBILE PHONE;00BACK OF ENVELOPE;01STAMPED",
    "00ENVELOPE WITH LIGHTNING;00FLYING ENVELOPE;01PEN OVER STAMPED;00LINKED PAPERCLIPS",
    "00BLACK PUSHPIN;00LOWER LEFT PENCIL;20BALLPOINT PEN;21FOUNTAIN;20PAINTBRUSH;20CRAYON",
    "00LEFT WRITING HAND;00TURNED OK HAND SIGN;00RAISED HAND WITH FINGERS SPLAYED;05REVERSED",
    "10THUMBS UP SIGN;21DOWN;10VICTORY HAND;10HAND WITH MIDDLE FINGER EXTENDED",
    "00RAISED HAND WITH PART BETWEEN MIDDLE AND RING FINGERS",
    "00WHITE DOWN POINTING LEFT HAND INDEX;01SIDEWAYS WHITE LEFT POINTING;22RIGHT;12BLACK LEFT",
    "22RIGHT;01BLACK LEFT POINTING BACKHAND;13RIGHT;01SIDEWAYS WHITE UP POINTING;22DOWN",
    "12BLACK UP;22DOWN;01BLACK UP POINTING BACKHAND;13DOWN;10HEART;00DESKTOP COMPUTER",
    "00KEYBOARD AND MOUSE;00THREE NETWORKED COMPUTERS;00PRINTER;00POCKET CALCULATOR",
    "00BLACK HARD SHELL FLOPPY DISK;04WHITE;03SOFT;00TAPE CARTRIDGE;00WIRED KEYBOARD",
    "00ONE BUTTON MOUSE;02TWO;02THREE;00TRACKBALL;00OLD PERSONAL COMPUTER;00HARD DISK;00SCREEN",
    "00PRINTER ICON;01FAX;01OPTICAL DISC;00DOCUMENT WITH TEXT;30AND PICTURE;21;02FRAME;20TILES",
    "20AN X;00BLACK FOLDER;01;01OPEN;00CARD INDEX DIVIDERS;10FILE BOX;00FILE CABINET",
    "00EMPTY NOTE;20PAGE;20PAD;00NOTE;10PAGE;10PAD;00EMPTY DOCUMENT;10PAGE;10PAGES;00DOCUMENT",
    "00PAGE;00PAGES;00WASTEBASKET;00SPIRAL NOTE PAD;11CALENDAR;00DESKTOP WINDOW;00MINIMIZE",
    "00MAXIMIZE;00OVERLAP;00CLOCKWISE RIGHT AND LEFT SEMICIRCLE ARROWS;00CANCELLATION X",
    "00INCREASE FONT SIZE SYMBOL;03DECREASE;00COMPRESSION;00OLD KEY;00ROLLED-UP NEWSPAPER",
    "00PAGE WITH CIRCLED TEXT;00STOCK CHART;00DAGGER KNIFE;00LIPS;00SPEAKING HEAD IN SILHOUETTE",
    "00THREE RAYS ABOVE;20BELOW;20LEFT;20RIGHT;00LEFT SPEECH BUBBLE;02RIGHT",
    "00TWO SPEECH BUBBLES;02THREE;00LEFT THOUGHT BUBBLE;02RIGHT;01LEFT ANGER;02RIGHT;01MOOD",
    "02LIGHTNING;20;00BALLOT BOX WITH BALLOT;10SCRIPT X;12BOX WITH;12BOLD;13BOX WITH",
    "00LIGHT CHECK MARK;00BALLOT BOX WITH BOLD CHECK;00WORLD MAP;00MOUNT FUJI;00TOKYO TOWER",
    "00STATUE OF LIBERTY;00SILHOUETTE OF JAPAN;00MOYAI;00GRINNING FACE;20WITH SMILING EYES",
    "00FACE WITH TEARS OF JOY;00SMILING FACE WITH OPEN MOUTH;50AND SMILING EYES;60COLD SWEAT",
    "60TIGHTLY-CLOSED EYES;30HALO;30HORNS;00WINKING FACE;00SMILING FACE WITH SMILING EYES",
    "00FACE SAVOURING DELICIOUS FOOD;00RELIEVED FACE;00SMILING FACE WITH HEART-SHAPED EYES",
    "30SUNGLASSES;00SMIRKING FACE;01NEUTRAL;01EXPRESSIONLESS;01UNAMUSED;00FACE WITH COLD SWEAT",
    "00PENSIVE FACE;01CONFUSED;01CONFOUNDED;01KISSING;00FACE THROWING A KISS",
    "00KISSING FACE WITH SMILING EYES;31CLOSED;00FACE WITH STUCK-OUT TONGUE;40AND WINKING EYE",
    "50TIGHTLY-CLOSED EYES;00DISAPPOINTED FACE;01WORRIED;01ANGRY;01POUTING;01CRYING",
    "01PERSEVERING;00FACE WITH LOOK OF TRIUMPH;00DISAPPOINTED BUT RELIEVED FACE",
    "00FROWNING FACE WITH OPEN MOUTH;00ANGUISHED FACE;01FEARFUL;01WEARY;01SLEEPY;01TIRED",
    "01GRIMACING;01LOUDLY CRYING;00FACE WITH OPEN MOUTH;00HUSHED FACE",
    "00FACE WITH OPEN MOUTH AND COLD SWEAT;10SCREAMING IN FEAR;00ASTONISHED FACE;01FLUSHED",
    "01SLEEPING;01DIZZY;00FACE WITHOUT MOUTH;10WITH MEDICAL MASK",
    "00GRINNING CAT FACE WITH SMILING EYES;00CAT FACE WITH TEARS OF JOY",
    "00SMILING CAT FACE WITH OPEN MOUTH;40HEART-SHAPED EYES;00CAT FACE WITH WRY SMILE",
    "00KISSING CAT FACE WITH CLOSED EYES;00POUTING CAT FACE;02CRYING;02WEARY",
    "01SLIGHTLY FROWNING;11SMILING;01UPSIDE-DOWN;00FACE WITH ROLLING EYES;20NO GOOD GESTURE",
    "21OK;00PERSON BOWING DEEPLY;00SEE-NO-EVIL MONKEY;01HEAR-NO-EVIL;01SPEAK-NO-EVIL",
    "00HAPPY PERSON RAISING ONE HAND;00PERSON RAISING BOTH HANDS IN CELEBRATION;10FROWNING",
    "10WITH POUTING FACE;20FOLDED HANDS;00NORTH WEST POINTING LEAF;03SOUTH;02NORTH EAST;03SOUTH",
    "02TURNED NORTH WEST;13SOUTH;12NORTH EAST;13SOUTH;01NORTH WEST POINTING VINE;04SOUTH",
    "03NORTH EAST;04SOUTH;03HEAVY NORTH WEST;14SOUTH;13NORTH EAST;14SOUTH",
    "00NORTH WEST POINTING BUD;03SOUTH;02NORTH EAST;03SOUTH;02HEAVY NORTH WEST;13SOUTH",
    "12NORTH EAST;13SOUTH;00HOLLOW QUILT SQUARE ORNAMENT;40IN BLACK SQUARE",
    "00SOLID QUILT SQUARE ORNAMENT;40IN BLACK SQUARE;00LEFTWARDS ROCKET;01UPWARDS;01RIGHTWARDS",
    "01DOWNWARDS;00SCRIPT LIGATURE ET ORNAMENT;04HEAVY;02LIGATURE OPEN;04HEAVY;11AMPERSAND",
    "02SWASH;01SANS-SERIF HEAVY DOUBLE TURNED COMMA QUOTATION MARK;34;25LOW;01HEAVY INTERROBANG",
    "02SANS-SERIF;03HEAVY;00VERY HEAVY SOLIDUS;21REVERSE;00CHECKER BOARD;02REVERSE;00ROCKET",
    "00HELICOPTER;00STEAM LOCOMOTIVE;00RAILWAY CAR;00HIGH-SPEED TRAIN;20WITH BULLET NOSE",
    "00TRAIN;00METRO;00LIGHT RAIL;00STATION;00TRAM;10CAR;00BUS;01ONCOMING;00TROLLEYBUS",
    "00BUS STOP;00MINIBUS;00AMBULANCE;00FIRE ENGINE;00POLICE CAR;02ONCOMING;00TAXI;01ONCOMING",
    "00AUTOMOBILE;01ONCOMING;00RECREATIONAL VEHICLE;00DELIVERY TRUCK;00ARTICULATED LORRY",
    "00TRACTOR;00MONORAIL;00MOUNTAIN RAILWAY;01SUSPENSION;00MOUNTAIN CABLEWAY;00AERIAL TRAMWAY",
    "00SHIP;00ROWBOAT;00SPEEDBOAT;00HORIZONTAL TRAFFIC LIGHT;02VERTICAL;00CONSTRUCTION SIGN",
    "00POLICE CARS REVOLVING LIGHT;00TRIANGULAR FLAG ON POST;00DOOR;00NO ENTRY SIGN",
    "00SMOKING SYMBOL;02NO;01PUT LITTER IN ITS PLACE;01DO NOT LITTER;01POTABLE WATER",
    "02NON-POTABLE;00BICYCLE;00NO BICYCLES;00BICYCLIST;01MOUNTAIN;00PEDESTRIAN;00NO PEDESTRIANS",
    "00CHILDREN CROSSING;00MENS SYMBOL;01WOMENS;00RESTROOM;00BABY SYMBOL;00TOILET",
    "00WATER CLOSET;00SHOWER;00BATH;00BATHTUB;00PASSPORT CONTROL;00CUSTOMS;00BAGGAGE CLAIM",
    "00LEFT LUGGAGE;00TRIANGLE WITH ROUNDED CORNERS;00PROHIBITED SIGN",
    "00CIRCLED INFORMATION SOURCE;00BOYS SYMBOL;01GIRLS;00COUCH AND LAMP",
    "00SLEEPING ACCOMMODATION;00SHOPPING BAGS;00BELLHOP BELL;00BED;00PLACE OF WORSHIP",
    "00OCTAGONAL SIGN;00SHOPPING TROLLEY;00STUPA;00PAGODA;00HINDU TEMPLE;00HUT;00ELEVATOR;;;;;",
    "00PLAYGROUND SLIDE;00WHEEL;00RING BUOY;00HAMMER AND WRENCH;00SHIELD;00OIL DRUM;00MOTORWAY",
    "00RAILWAY TRACK;00MOTOR BOAT;00UP-POINTING MILITARY AIRPLANE;11;11SMALL;02",
    "01NORTHEAST-POINTING;00AIRPLANE DEPARTURE;10ARRIVING;;;;00SATELLITE;00ONCOMING FIRE ENGINE",
    "00DIESEL LOCOMOTIVE;00PASSENGER SHIP;00SCOOTER;01MOTOR;00CANOE;00SLED;00FLYING SAUCER",
    "00SKATEBOARD;00AUTO RICKSHAW;00PICKUP TRUCK;00ROLLER SKATE;;;",
    "00ALCHEMICAL SYMBOL FOR QUINTESSENCE;30AIR;30FIRE;30EARTH;30WATER;30AQUAFORTIS",
    "30AQUA REGIA;40REGIA-2;40VITAE;40VITAE-2;30VINEGAR;30VINEGAR-2;30VINEGAR-3;30SULFUR",
    "31PHILOSOPHERS;31BLACK;30MERCURY SUBLIMATE;40SUBLIMATE-2;40SUBLIMATE-3;30CINNABAR;30SALT",
    "30NITRE;30VITRIOL;30VITRIOL-2;30ROCK SALT;40SALT-2;30GOLD;30SILVER;30IRON ORE;40ORE-2",
    "30CROCUS OF IRON;32REGULUS;30COPPER ORE;31IRON-COPPER;30SUBLIMATE OF COPPER;32CROCUS",
    "50COPPER-2;30COPPER ANTIMONIATE;32SALT OF;30SUBLIMATE OF SALT OF COPPER;30VERDIGRIS",
    "30TIN ORE;31LEAD;31ANTIMONY;30SUBLIMATE OF ANTIMONY;32SALT;33SUBLIMATE OF;32VINEGAR",
    "32REGULUS;50ANTIMONY-2;40;30REGULUS-2;30REGULUS-3;30REGULUS-4;30ALKALI;30ALKALI-2",
    "30MARCASITE;30SAL-AMMONIAC;30ARSENIC;30REALGAR;30REALGAR-2;30AURIPIGMENT;30BISMUTH ORE",
    "30TARTAR;30TARTAR-2;30QUICK LIME;30BORAX;30BORAX-2;30BORAX-3;30ALUM;30OIL;30SPIRIT",
    "30TINCTURE;30GUM;30WAX;30POWDER;30CALX;30TUTTY;30CAPUT MORTUUM;30SCEPTER OF JOVE",
    "30CADUCEUS;30TRIDENT;31STARRED;30LODESTONE;30SOAP;30URINE;30HORSE DUNG;30ASHES;31POT",
    "30BRICK;31POWDERED;30AMALGAM;30STRATUM SUPER STRATUM;50STRATUM-2;30SUBLIMATION",
    "30PRECIPITATE;30DISTILL;30DISSOLVE;30DISSOLVE-2;30PURIFY;30PUTREFACTION;30CRUCIBLE",
    "30CRUCIBLE-2;30CRUCIBLE-3;30CRUCIBLE-4;30CRUCIBLE-5;30ALEMBIC;30BATH OF MARY;50VAPOURS",
    "30RETORT;30HOUR;30NIGHT;30DAY-NIGHT;30MONTH;30HALF DRAM;40OUNCE;;;;;;;;;;;;",
    "00BLACK LEFT-POINTING ISOSCELES RIGHT TRIANGLE;13UP-POINTING;13RIGHT-POINTING",
    "13DOWN-POINTING;10SLIGHTLY SMALL CIRCLE;01MEDIUM BOLD WHITE;03;02HEAVY;03VERY;03EXTREMELY",
    "01WHITE CIRCLE CONTAINING BLACK SMALL;00ROUND TARGET;00BLACK TINY SQUARE;11SLIGHTLY SMALL",
    "01LIGHT WHITE;02MEDIUM;02BOLD;02HEAVY;03VERY;03EXTREMELY",
    "01WHITE SQUARE CONTAINING BLACK VERY SMALL;41MEDIUM;00SQUARE TARGET;00BLACK TINY DIAMOND",
    "11VERY SMALL;12MEDIUM;02WHITE DIAMOND CONTAINING BLACK VERY;41MEDIUM;00DIAMOND TARGET",
    "00BLACK TINY LOZENGE;11VERY SMALL;12MEDIUM;02WHITE LOZENGE CONTAINING BLACK",
    "00THIN GREEK CROSS;02LIGHT;02MEDIUM;02BOLD;03VERY;12HEAVY;03EXTREMELY;00THIN SALTIRE",
    "01LIGHT;01MEDIUM;01BOLD;01HEAVY;02VERY;02EXTREMELY;00LIGHT FIVE SPOKED ASTERISK;03MEDIUM",
    "03BOLD;03HEAVY;04VERY;04EXTREMELY;02LIGHT SIX;03MEDIUM;03BOLD;03HEAVY;04VERY;04EXTREMELY",
    "02LIGHT EIGHT;03MEDIUM;03BOLD;03HEAVY;04VERY;00LIGHT THREE POINTED BLACK STAR;04MEDIUM;04",
    "01MEDIUM THREE POINTED PINWHEEL;01LIGHT FOUR POINTED BLACK;04MEDIUM;04",
    "01MEDIUM FOUR POINTED PINWHEEL;04REVERSE LIGHT;01LIGHT FIVE POINTED BLACK;04HEAVY",
    "03MEDIUM SIX;04HEAVY;01SIX POINTED PINWHEEL;01MEDIUM EIGHT POINTED BLACK;04HEAVY;05VERY",
    "01HEAVY EIGHT POINTED PINWHEEL;01LIGHT TWELVE POINTED BLACK;04HEAVY;31PINWHEEL",
    "00CIRCLED TRIANGLE;02NEGATIVE;00CIRCLED SQUARE;02NEGATIVE;;;;;;;;00LARGE ORANGE CIRCLE",
    "11YELLOW;11GREEN;11PURPLE;11BROWN;10RED SQUARE;11BLUE;11ORANGE;11YELLOW;11GREEN;11PURPLE",
    "11BROWN;;;;;00HEAVY EQUALS SIGN;;;;;;;;;;;;;;;",
    "00LEFTWARDS ARROW WITH SMALL TRIANGLE ARROWHEAD;05UPWARDS;05RIGHTWARDS;05DOWNWARDS",
    "02LEFTWARDS ARROW WITH MEDIUM;05UPWARDS;05RIGHTWARDS;05DOWNWARDS",
    "02LEFTWARDS ARROW WITH LARGE;05UPWARDS;05RIGHTWARDS;05DOWNWARDS;;;;",
    "01LEFTWARDS ARROW WITH SMALL EQUILATERAL;05UPWARDS;05RIGHTWARDS;05DOWNWARDS",
    "02LEFTWARDS ARROW WITH;04UPWARDS;04RIGHTWARDS;04DOWNWARDS;04HEAVY LEFTWARDS;14UPWARDS",
    "14RIGHTWARDS;14DOWNWARDS;12LEFTWARDS ARROW WITH LARGE;15UPWARDS;15RIGHTWARDS;15DOWNWARDS",
    "00LEFTWARDS TRIANGLE-HEADED ARROW WITH NARROW SHAFT;05UPWARDS;05RIGHTWARDS;05DOWNWARDS",
    "01LEFTWARDS TRIANGLE-HEADED ARROW WITH MEDIUM;05UPWARDS;05RIGHTWARDS;05DOWNWARDS",
    "01LEFTWARDS TRIANGLE-HEADED ARROW WITH BOLD;05UPWARDS;05RIGHTWARDS;05DOWNWARDS",
    "01LEFTWARDS TRIANGLE-HEADED ARROW WITH HEAVY;05UPWARDS;05RIGHTWARDS;05DOWNWARDS",
    "02LEFTWARDS TRIANGLE-HEADED ARROW WITH VERY;06UPWARDS;06RIGHTWARDS;06DOWNWARDS",
    "00LEFTWARDS FINGER-POST ARROW;02UPWARDS;02RIGHTWARDS;02DOWNWARDS;01LEFTWARDS SQUARED",
    "02UPWARDS;02RIGHTWARDS;02DOWNWARDS;01LEFTWARDS COMPRESSED;02UPWARDS;02RIGHTWARDS",
    "02DOWNWARDS;02LEFTWARDS HEAVY;03UPWARDS;03RIGHTWARDS;03DOWNWARDS;01LEFTWARDS HEAVY",
    "02UPWARDS;02RIGHTWARDS;02DOWNWARDS;;;;;;;;;01LEFTWARDS SANS-SERIF;02UPWARDS;02RIGHTWARDS",
    "02DOWNWARDS;02NORTH WEST;12EAST;03SOUTH;12WEST;02LEFT RIGHT;02UP DOWN;;;;;;",
    "01WIDE-HEADED LEFTWARDS LIGHT BARB;13UPWARDS;13RIGHTWARDS;13DOWNWARDS;13NORTH WEST;23EAST",
    "14SOUTH;23WEST;12LEFTWARDS;12UPWARDS;12RIGHTWARDS;12DOWNWARDS;12NORTH WEST;22EAST;13SOUTH",
    "22WEST;12LEFTWARDS MEDIUM;13UPWARDS;13RIGHTWARDS;13DOWNWARDS;13NORTH WEST;23EAST;14SOUTH",
    "23WEST;12LEFTWARDS HEAVY;13UPWARDS;13RIGHTWARDS;13DOWNWARDS;13NORTH WEST;23EAST;14SOUTH",
    "23WEST;13LEFTWARDS VERY;14UPWARDS;14RIGHTWARDS;14DOWNWARDS;14NORTH WEST;24EAST;15SOUTH",
    "24WEST;;;;;;;;;00LEFTWARDS TRIANGLE ARROWHEAD;02UPWARDS;02RIGHTWARDS;02DOWNWARDS",
    "02LEFTWARDS WHITE ARROW WITHIN;05UPWARDS;05RIGHTWARDS;05DOWNWARDS",
    "00LEFTWARDS ARROW WITH NOTCHED TAIL;04UPWARDS;04RIGHTWARDS;04DOWNWARDS",
    "00HEAVY ARROW SHAFT WIDTH ONE;40TWO THIRDS;40ONE HALF;50THIRD",
    "00LEFTWARDS BOTTOM-SHADED WHITE ARROW;02RIGHTWARDS BOTTOM SHADED;03LEFTWARDS TOP",
    "04RIGHTWARDS;02LEFTWARDS LEFT-SHADED;02RIGHTWARDS RIGHT-SHADED;03LEFTWARDS",
    "02RIGHTWARDS LEFT-SHADED;02LEFTWARDS BACK-TILTED SHADOWED;04RIGHTWARDS",
    "03LEFTWARDS FRONT-TILTED;04RIGHTWARDS;00WHITE ARROW SHAFT WIDTH ONE;40TWO THIRDS;;",
    "00ARROW POINTING UPWARDS THEN NORTH WEST;21RIGHTWARDS THEN CURVING SOUTH"]⟩]

end QuerySchema.Text.CharacterName
