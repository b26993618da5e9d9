import QuerySchema.Text.CharacterName.Run

/-!
Names of the characters from U+2FF0 on.
-/

namespace QuerySchema.Text.CharacterName

/-- The names from U+2FF0 on. -/
def namesFrom2FF0 : List NameRun :=
  [⟨0x2FF0, [
    "00IDEOGRAPHIC DESCRIPTION CHARACTER LEFT TO RIGHT;30ABOVE TO BELOW",
    "30LEFT TO MIDDLE AND RIGHT;30ABOVE TO MIDDLE AND BELOW;30FULL SURROUND",
    "30SURROUND FROM ABOVE;50BELOW;50LEFT;51UPPER;60RIGHT;50LOWER LEFT;30OVERLAID;;;;;10SPACE",
    "10COMMA;10FULL STOP;00DITTO MARK;00JAPANESE INDUSTRIAL STANDARD SYMBOL",
    "00IDEOGRAPHIC ITERATION MARK;11CLOSING;10NUMBER ZERO;00LEFT ANGLE BRACKET;02RIGHT",
    "02LEFT DOUBLE;03RIGHT;01LEFT CORNER;02RIGHT;02LEFT WHITE;03RIGHT;01LEFT BLACK LENTICULAR",
    "03RIGHT;00POSTAL MARK;01GETA;00LEFT TORTOISE SHELL BRACKET;03RIGHT;01LEFT WHITE LENTICULAR",
    "03RIGHT;01LEFT WHITE TORTOISE SHELL;04RIGHT;01LEFT WHITE SQUARE;03RIGHT;00WAVE DASH",
    "00REVERSED DOUBLE PRIME QUOTATION MARK;04;04LOW;00POSTAL MARK FACE;00HANGZHOU NUMERAL ONE",
    "20TWO;20THREE;20FOUR;20FIVE;20SIX;20SEVEN;20EIGHT;20NINE;00IDEOGRAPHIC LEVEL TONE MARK",
    "12RISING;12DEPARTING;12ENTERING;02HANGUL SINGLE DOT;13DOUBLE;00WAVY DASH",
    "00VERTICAL KANA REPEAT MARK;31WITH VOICED SOUND;30MARK UPPER HALF;33WITH VOICED SOUND",
    "31MARK LOWER;00CIRCLED POSTAL MARK;00IDEOGRAPHIC TELEGRAPH LINE FEED SEPARATOR SYMBOL",
    "00HANGZHOU NUMERAL TEN;20TWENTY;20THIRTY;00VERTICAL IDEOGRAPHIC ITERATION MARK;01MASU",
    "01PART ALTERNATION;00IDEOGRAPHIC VARIATION INDICATOR;10HALF FILL SPACE;",
    "00HIRAGANA LETTER SMALL A;21;20SMALL I;21;20SMALL U;21;20SMALL E;21;20SMALL O;21;20KA;20GA",
    "20KI;20GI;20KU;20GU;20KE;20GE;20KO;20GO;20SA;20ZA;20SI;20ZI;20SU;20ZU;20SE;20ZE;20SO;20ZO",
    "20TA;20DA;20TI;20DI;20SMALL TU;21;20DU;20TE;20DE;20TO;20DO;20NA;20NI;20NU;20NE;20NO;20HA",
    "20BA;20PA;20HI;20BI;20PI;20HU;20BU;20PU;20HE;20BE;20PE;20HO;20BO;20PO;20MA;20MI;20MU;20ME",
    "20MO;20SMALL YA;21;20SMALL YU;21;20SMALL YO;21;20RA;20RI;20RU;20RE;20RO;20SMALL WA;21;20WI",
    "20WE;20WO;20N;20VU;20SMALL KA;30KE;;;00COMBINING KATAKANA-HIRAGANA VOICED SOUND MARK",
    "22SEMI-VOICED;02KATAKANA-HIRAGANA VOICED;12SEMI-VOICED;01HIRAGANA ITERATION;12VOICED",
    "10DIGRAPH YORI;00KATAKANA-HIRAGANA DOUBLE HYPHEN;00KATAKANA LETTER SMALL A;21;20SMALL I;21",
    "20SMALL U;21;20SMALL E;21;20SMALL O;21;20KA;20GA;20KI;20GI;20KU;20GU;20KE;20GE;20KO;20GO",
    "20SA;20ZA;20SI;20ZI;20SU;20ZU;20SE;20ZE;20SO;20ZO;20TA;20DA;20TI;20DI;20SMALL TU;21;20DU",
    "20TE;20DE;20TO;20DO;20NA;20NI;20NU;20NE;20NO;20HA;20BA;20PA;20HI;20BI;20PI;20HU;20BU;20PU",
    "20HE;20BE;20PE;20HO;20BO;20PO;20MA;20MI;20MU;20ME;20MO;20SMALL YA;21;20SMALL YU;21",
    "20SMALL YO;21;20RA;20RI;20RU;20RE;20RO;20SMALL WA;21;20WI;20WE;20WO;20N;20VU;20SMALL KA",
    "30KE;20VA;20VI;20VE;20VO;10MIDDLE DOT;00KATAKANA-HIRAGANA PROLONGED SOUND MARK",
    "01KATAKANA ITERATION;12VOICED;10DIGRAPH KOTO;;;;;;00BOPOMOFO LETTER B;20P;20M;20F;20D;20T",
    "20N;20L;20G;20K;20H;20J;20Q;20X;20ZH;20CH;20SH;20R;20Z;20C;20S;20A;20O;20E;20EH;20AI;20EI",
    "20AU;20OU;20AN;20EN;20ANG;20ENG;20ER;20I;20U;20IU;20V;20NG;20GN;20IH;20O WITH DOT ABOVE",
    "20NN;;00HANGUL LETTER KIYEOK;20SSANGKIYEOK;20KIYEOK-SIOS;20NIEUN;20NIEUN-CIEUC",
    "20NIEUN-HIEUH;20TIKEUT;20SSANGTIKEUT;20RIEUL;20RIEUL-KIYEOK;20RIEUL-MIEUM;20RIEUL-PIEUP",
    "20RIEUL-SIOS;20RIEUL-THIEUTH;20RIEUL-PHIEUPH;20RIEUL-HIEUH;20MIEUM;20PIEUP;20SSANGPIEUP",
    "20PIEUP-SIOS;20SIOS;20SSANGSIOS;20IEUNG;20CIEUC;20SSANGCIEUC;20CHIEUCH;20KHIEUKH;20THIEUTH",
    "20PHIEUPH;20HIEUH;20A;20AE;20YA;20YAE;20EO;20E;20YEO;20YE;20O;20WA;20WAE;20OE;20YO;20U",
    "20WEO;20WE;20WI;20YU;20EU;20YI;20I;10FILLER;10LETTER SSANGNIEUN;20NIEUN-TIKEUT",
    "20NIEUN-SIOS;20NIEUN-PANSIOS;20RIEUL-KIYEOK-SIOS;20RIEUL-TIKEUT;20RIEUL-PIEUP-SIOS",
    "20RIEUL-PANSIOS;20RIEUL-YEORINHIEUH;20MIEUM-PIEUP;20MIEUM-SIOS;20MIEUM-PANSIOS",
    "20KAPYEOUNMIEUM;20PIEUP-KIYEOK;20PIEUP-TIKEUT;20PIEUP-SIOS-KIYEOK;20PIEUP-SIOS-TIKEUT",
    "20PIEUP-CIEUC;20PIEUP-THIEUTH;20KAPYEOUNPIEUP;20KAPYEOUNSSANGPIEUP;20SIOS-KIYEOK",
    "20SIOS-NIEUN;20SIOS-TIKEUT;20SIOS-PIEUP;20SIOS-CIEUC;20PANSIOS;20SSANGIEUNG;20YESIEUNG",
    "20YESIEUNG-SIOS;20YESIEUNG-PANSIOS;20KAPYEOUNPHIEUPH;20SSANGHIEUH;20YEORINHIEUH;20YO-YA",
    "20YO-YAE;20YO-I;20YU-YEO;20YU-YE;20YU-I;20ARAEA;20ARAEAE;",
    "00IDEOGRAPHIC ANNOTATION LINKING MARK;21REVERSE;21ONE;21TWO;21THREE;21FOUR;21TOP;21MIDDLE",
    "21BOTTOM;21FIRST;21SECOND;21THIRD;21FOURTH;21HEAVEN;21EARTH;21MAN;00BOPOMOFO LETTER BU",
    "20ZI;20JI;20GU;20EE;20ENN;20OO;20ONN;20IR;20ANN;20INN;20UNN;20IM;20NGG;20AINN;20AUNN;20AM",
    "20OM;20ONG;20INNN;10FINAL LETTER P;30T;30K;30H;10LETTER GH;20LH;20ZY;10FINAL LETTER G",
    "10LETTER GW;20KW;20OE;20AH;00CJK STROKE T;20WG;20XG;20BXG;20SW;20HZZ;20HZG;20HP;20HZWG",
    "20SZWG;20HZT;20HZZP;20HPWG;20HZW;20HZZZ;20N;20H;20S;20P;20SP;20D;20HZ;20HG;20SZ;20SWZ;20ST",
    "20SG;20PD;20PZ;20TN;20SZZ;20SWG;20HXWG;20HZZZG;20PG;20Q;;;;;;;;;;;;",
    "00KATAKANA LETTER SMALL KU;30SI;30SU;30TO;30NU;30HA;30HI;30HU;30HE;30HO;30MU;30RA;30RI",
    "30RU;30RE;30RO;00PARENTHESIZED HANGUL KIYEOK;20NIEUN;20TIKEUT;20RIEUL;20MIEUM;20PIEUP",
    "20SIOS;20IEUNG;20CIEUC;20CHIEUCH;20KHIEUKH;20THIEUTH;20PHIEUPH;20HIEUH;20KIYEOK A;21NIEUN",
    "21TIKEUT;21RIEUL;21MIEUM;21PIEUP;21SIOS;21IEUNG;21CIEUC;21CHIEUCH;21KHIEUKH;21THIEUTH",
    "21PHIEUPH;21HIEUH;20CIEUC U;10KOREAN CHARACTER OJEON;30O HU;;10IDEOGRAPH ONE;20TWO;20THREE",
    "20FOUR;20FIVE;20SIX;20SEVEN;20EIGHT;20NINE;20TEN;20MOON;20FIRE;20WATER;20WOOD;20METAL",
    "20EARTH;20SUN;20STOCK;20HAVE;20SOCIETY;20NAME;20SPECIAL;20FINANCIAL;20CONGRATULATION",
    "20LABOR;20REPRESENT;20CALL;20STUDY;20SUPERVISE;20ENTERPRISE;20RESOURCE;20ALLIANCE",
    "20FESTIVAL;20REST;20SELF;20REACH;00CIRCLED IDEOGRAPH QUESTION;20KINDERGARTEN;20SCHOOL",
    "20KOTO;10NUMBER TEN ON BLACK SQUARE;23TWENTY;23THIRTY;23FORTY;23FIFTY;23SIXTY;23SEVENTY",
    "23EIGHTY;00PARTNERSHIP SIGN;00CIRCLED NUMBER TWENTY ONE;30TWO;30THREE;30FOUR;30FIVE;30SIX",
    "30SEVEN;30EIGHT;30NINE;20THIRTY;30ONE;30TWO;30THREE;30FOUR;30FIVE;10HANGUL KIYEOK;20NIEUN",
    "20TIKEUT;20RIEUL;20MIEUM;20PIEUP;20SIOS;20IEUNG;20CIEUC;20CHIEUCH;20KHIEUKH;20THIEUTH",
    "20PHIEUPH;20HIEUH;20KIYEOK A;21NIEUN;21TIKEUT;21RIEUL;21MIEUM;21PIEUP;21SIOS;21IEUNG",
    "21CIEUC;21CHIEUCH;21KHIEUKH;21THIEUTH;21PHIEUPH;21HIEUH;10KOREAN CHARACTER CHAMKO;30JUEUI",
    "10HANGUL IEUNG U;00KOREAN STANDARD SYMBOL;00CIRCLED IDEOGRAPH ONE;20TWO;20THREE;20FOUR",
    "20FIVE;20SIX;20SEVEN;20EIGHT;20NINE;20TEN;20MOON;20FIRE;20WATER;20WOOD;20METAL;20EARTH",
    "20SUN;20STOCK;20HAVE;20SOCIETY;20NAME;20SPECIAL;20FINANCIAL;20CONGRATULATION;20LABOR",
    "20SECRET;20MALE;20FEMALE;20SUITABLE;20EXCELLENT;20PRINT;20ATTENTION;20ITEM;20REST;20COPY",
    "20CORRECT;20HIGH;20CENTRE;20LOW;20LEFT;20RIGHT;20MEDICINE;20RELIGION;20STUDY;20SUPERVISE",
    "20ENTERPRISE;20RESOURCE;20ALLIANCE;20NIGHT;10NUMBER THIRTY SIX;30SEVEN;30EIGHT;30NINE",
    "20FORTY;30ONE;30TWO;30THREE;30FOUR;30FIVE;30SIX;30SEVEN;30EIGHT;30NINE;20FIFTY",
    "00IDEOGRAPHIC TELEGRAPH SYMBOL FOR JANUARY;40FEBRUARY;40MARCH;40APRIL;40MAY;40JUNE;40JULY",
    "40AUGUST;40SEPTEMBER;40OCTOBER;40NOVEMBER;40DECEMBER;00SQUARE HG;10ERG;10EV",
    "00LIMITED LIABILITY SIGN;00CIRCLED KATAKANA A;20I;20U;20E;20O;20KA;20KI;20KU;20KE;20KO",
    "20SA;20SI;20SU;20SE;20SO;20TA;20TI;20TU;20TE;20TO;20NA;20NI;20NU;20NE;20NO;20HA;20HI;20HU",
    "20HE;20HO;20MA;20MI;20MU;20ME;20MO;20YA;20YU;20YO;20RA;20RI;20RU;20RE;20RO;20WA;20WI;20WE",
    "20WO;00SQUARE ERA NAME REIWA;10APAATO;10ARUHUA;10ANPEA;10AARU;10ININGU;10INTI;10UON",
    "10ESUKUUDO;10EEKAA;10ONSU;10OOMU;10KAIRI;10KARATTO;10KARORII;10GARON;10GANMA;10GIGA",
    "10GINII;10KYURII;10GIRUDAA;10KIRO;10KIROGURAMU;10KIROMEETORU;10KIROWATTO;10GURAMU",
    "10GURAMUTON;10KURUZEIRO;10KUROONE;10KEESU;10KORUNA;10KOOPO;10SAIKURU;10SANTIIMU;10SIRINGU",
    "10SENTI;10SENTO;10DAASU;10DESI;10DORU;10TON;10NANO;10NOTTO;10HAITU;10PAASENTO;10PAATU",
    "10BAARERU;10PIASUTORU;10PIKURU;10PIKO;10BIRU;10HUARADDO;10HUIITO;10BUSSYERU;10HURAN",
    "10HEKUTAARU;10PESO;10PENIHI;10HERUTU;10PENSU;10PEEZI;10BEETA;10POINTO;10BORUTO;10HON",
    "10PONDO;10HOORU;10HOON;10MAIKURO;10MAIRU;10MAHHA;10MARUKU;10MANSYON;10MIKURON;10MIRI",
    "10MIRIBAARU;10MEGA;10MEGATON;10MEETORU;10YAADO;10YAARU;10YUAN;10RITTORU;10RIRA;10RUPII",
    "10RUUBURU;10REMU;10RENTOGEN;10WATTO;00IDEOGRAPHIC TELEGRAPH SYMBOL FOR HOUR ZERO;50ONE",
    "50TWO;50THREE;50FOUR;50FIVE;50SIX;50SEVEN;50EIGHT;50NINE;50TEN;50ELEVEN;50TWELVE",
    "50THIRTEEN;50FOURTEEN;50FIFTEEN;50SIXTEEN;50SEVENTEEN;50EIGHTEEN;50NINETEEN;50TWENTY",
    "50TWENTY-ONE;50TWENTY-TWO;50TWENTY-THREE;50TWENTY-FOUR;00SQUARE HPA;10DA;10AU;10BAR;10OV",
    "10PC;10DM;20SQUARED;20CUBED;10IU;10ERA NAME HEISEI;30SYOUWA;30TAISYOU;30MEIZI",
    "10CORPORATION;10PA AMPS;10NA;10MU A;10MA;10KA;10KB;10MB;10GB;10CAL;10KCAL;10PF;10NF;10MU F",
    "20G;10MG;10KG;10HZ;10KHZ;10MHZ;10GHZ;10THZ;10MU L;10ML;10DL;10KL;10FM;10NM;10MU M;10MM",
    "10CM;10KM;10MM SQUARED;11CM;11M;11KM;10MM CUBED;11CM;11M;11KM;10M OVER S;40SQUARED;10PA",
    "10KPA;10MPA;10GPA;10RAD;20OVER S;40SQUARED;10PS;10NS;10MU S;10MS;10PV;10NV;10MU V;10MV",
    "10KV;10MV MEGA;10PW;10NW;10MU W;10MW;10KW;10MW MEGA;10K OHM;11M;10AM;10BQ;10CC;10CD",
    "10C OVER KG;10CO;10DB;10GY;10HA;10HP;10IN;10KK;10KM CAPITAL;10KT;10LM;10LN;10LOG;10LX",
    "10MB SMALL;10MIL;10MOL;10PH;10PM;10PPM;10PR;10SR;10SV;10WB;10V OVER M;12A",
    "00IDEOGRAPHIC TELEGRAPH SYMBOL FOR DAY ONE;50TWO;50THREE;50FOUR;50FIVE;50SIX;50SEVEN",
    "50EIGHT;50NINE;50TEN;50ELEVEN;50TWELVE;50THIRTEEN;50FOURTEEN;50FIFTEEN;50SIXTEEN",
    "50SEVENTEEN;50EIGHTEEN;50NINETEEN;50TWENTY;50TWENTY-ONE;50TWENTY-TWO;50TWENTY-THREE",
    "50TWENTY-FOUR;50TWENTY-FIVE;50TWENTY-SIX;50TWENTY-SEVEN;50TWENTY-EIGHT;50TWENTY-NINE",
    "50THIRTY;50THIRTY-ONE;00SQUARE GAL"]⟩,
    ⟨0x4DC0, [
    "00HEXAGRAM FOR THE CREATIVE HEAVEN;30RECEPTIVE EARTH;20DIFFICULTY AT THE BEGINNING",
    "20YOUTHFUL FOLLY;20WAITING;20CONFLICT;20THE ARMY;20HOLDING TOGETHER;20SMALL TAMING",
    "20TREADING;20PEACE;20STANDSTILL;20FELLOWSHIP;20GREAT POSSESSION;20MODESTY;20ENTHUSIASM",
    "20FOLLOWING;20WORK ON THE DECAYED;20APPROACH;20CONTEMPLATION;20BITING THROUGH;20GRACE",
    "20SPLITTING APART;20RETURN;20INNOCENCE;20GREAT TAMING;20MOUTH CORNERS",
    "20GREAT PREPONDERANCE;20THE ABYSMAL WATER;30CLINGING FIRE;20INFLUENCE;20DURATION;20RETREAT",
    "20GREAT POWER;20PROGRESS;20DARKENING OF THE LIGHT;20THE FAMILY;20OPPOSITION;20OBSTRUCTION",
    "20DELIVERANCE;20DECREASE;20INCREASE;20BREAKTHROUGH;20COMING TO MEET;20GATHERING TOGETHER",
    "20PUSHING UPWARD;20OPPRESSION;20THE WELL;20REVOLUTION;20THE CAULDRON;30AROUSING THUNDER",
    "30KEEPING STILL MOUNTAIN;20DEVELOPMENT;20THE MARRYING MAIDEN;20ABUNDANCE;20THE WANDERER",
    "30GENTLE WIND;30JOYOUS LAKE;20DISPERSION;20LIMITATION;20INNER TRUTH;20SMALL PREPONDERANCE",
    "20AFTER COMPLETION;21BEFORE"]⟩,
    ⟨0xA000, [
    "00YI SYLLABLE IT;20IX;20I;20IP;20IET;20IEX;20IE;20IEP;20AT;20AX;20A;20AP;20UOX;20UO;20UOP",
    "20OT;20OX;20O;20OP;20EX;20E;20WU;20BIT;20BIX;20BI;20BIP;20BIET;20BIEX;20BIE;20BIEP;20BAT",
    "20BAX;20BA;20BAP;20BUOX;20BUO;20BUOP;20BOT;20BOX;20BO;20BOP;20BEX;20BE;20BEP;20BUT;20BUX",
    "20BU;20BUP;20BURX;20BUR;20BYT;20BYX;20BY;20BYP;20BYRX;20BYR;20PIT;20PIX;20PI;20PIP;20PIEX",
    "20PIE;20PIEP;20PAT;20PAX;20PA;20PAP;20PUOX;20PUO;20PUOP;20POT;20POX;20PO;20POP;20PUT;20PUX",
    "20PU;20PUP;20PURX;20PUR;20PYT;20PYX;20PY;20PYP;20PYRX;20PYR;20BBIT;20BBIX;20BBI;20BBIP",
    "20BBIET;20BBIEX;20BBIE;20BBIEP;20BBAT;20BBAX;20BBA;20BBAP;20BBUOX;20BBUO;20BBUOP;20BBOT",
    "20BBOX;20BBO;20BBOP;20BBEX;20BBE;20BBEP;20BBUT;20BBUX;20BBU;20BBUP;20BBURX;20BBUR;20BBYT",
    "20BBYX;20BBY;20BBYP;20NBIT;20NBIX;20NBI;20NBIP;20NBIEX;20NBIE;20NBIEP;20NBAT;20NBAX;20NBA",
    "20NBAP;20NBOT;20NBOX;20NBO;20NBOP;20NBUT;20NBUX;20NBU;20NBUP;20NBURX;20NBUR;20NBYT;20NBYX",
    "20NBY;20NBYP;20NBYRX;20NBYR;20HMIT;20HMIX;20HMI;20HMIP;20HMIEX;20HMIE;20HMIEP;20HMAT",
    "20HMAX;20HMA;20HMAP;20HMUOX;20HMUO;20HMUOP;20HMOT;20HMOX;20HMO;20HMOP;20HMUT;20HMUX;20HMU",
    "20HMUP;20HMURX;20HMUR;20HMYX;20HMY;20HMYP;20HMYRX;20HMYR;20MIT;20MIX;20MI;20MIP;20MIEX",
    "20MIE;20MIEP;20MAT;20MAX;20MA;20MAP;20MUOT;20MUOX;20MUO;20MUOP;20MOT;20MOX;20MO;20MOP",
    "20MEX;20ME;20MUT;20MUX;20MU;20MUP;20MURX;20MUR;20MYT;20MYX;20MY;20MYP;20FIT;20FIX;20FI",
    "20FIP;20FAT;20FAX;20FA;20FAP;20FOX;20FO;20FOP;20FUT;20FUX;20FU;20FUP;20FURX;20FUR;20FYT",
    "20FYX;20FY;20FYP;20VIT;20VIX;20VI;20VIP;20VIET;20VIEX;20VIE;20VIEP;20VAT;20VAX;20VA;20VAP",
    "20VOT;20VOX;20VO;20VOP;20VEX;20VEP;20VUT;20VUX;20VU;20VUP;20VURX;20VUR;20VYT;20VYX;20VY",
    "20VYP;20VYRX;20VYR;20DIT;20DIX;20DI;20DIP;20DIEX;20DIE;20DIEP;20DAT;20DAX;20DA;20DAP",
    "20DUOX;20DUO;20DOT;20DOX;20DO;20DOP;20DEX;20DE;20DEP;20DUT;20DUX;20DU;20DUP;20DURX;20DUR",
    "20TIT;20TIX;20TI;20TIP;20TIEX;20TIE;20TIEP;20TAT;20TAX;20TA;20TAP;20TUOT;20TUOX;20TUO",
    "20TUOP;20TOT;20TOX;20TO;20TOP;20TEX;20TE;20TEP;20TUT;20TUX;20TU;20TUP;20TURX;20TUR;20DDIT",
    "20DDIX;20DDI;20DDIP;20DDIEX;20DDIE;20DDIEP;20DDAT;20DDAX;20DDA;20DDAP;20DDUOX;20DDUO",
    "20DDUOP;20DDOT;20DDOX;20DDO;20DDOP;20DDEX;20DDE;20DDEP;20DDUT;20DDUX;20DDU;20DDUP;20DDURX",
    "20DDUR;20NDIT;20NDIX;20NDI;20NDIP;20NDIEX;20NDIE;20NDAT;20NDAX;20NDA;20NDAP;20NDOT;20NDOX",
    "20NDO;20NDOP;20NDEX;20NDE;20NDEP;20NDUT;20NDUX;20NDU;20NDUP;20NDURX;20NDUR;20HNIT;20HNIX",
    "20HNI;20HNIP;20HNIET;20HNIEX;20HNIE;20HNIEP;20HNAT;20HNAX;20HNA;20HNAP;20HNUOX;20HNUO",
    "20HNOT;20HNOX;20HNOP;20HNEX;20HNE;20HNEP;20HNUT;20NIT;20NIX;20NI;20NIP;20NIEX;20NIE;20NIEP",
    "20NAX;20NA;20NAP;20NUOX;20NUO;20NUOP;20NOT;20NOX;20NO;20NOP;20NEX;20NE;20NEP;20NUT;20NUX",
    "20NU;20NUP;20NURX;20NUR;20HLIT;20HLIX;20HLI;20HLIP;20HLIEX;20HLIE;20HLIEP;20HLAT;20HLAX",
    "20HLA;20HLAP;20HLUOX;20HLUO;20HLUOP;20HLOX;20HLO;20HLOP;20HLEX;20HLE;20HLEP;20HLUT;20HLUX",
    "20HLU;20HLUP;20HLURX;20HLUR;20HLYT;20HLYX;20HLY;20HLYP;20HLYRX;20HLYR;20LIT;20LIX;20LI",
    "20LIP;20LIET;20LIEX;20LIE;20LIEP;20LAT;20LAX;20LA;20LAP;20LUOT;20LUOX;20LUO;20LUOP;20LOT",
    "20LOX;20LO;20LOP;20LEX;20LE;20LEP;20LUT;20LUX;20LU;20LUP;20LURX;20LUR;20LYT;20LYX;20LY",
    "20LYP;20LYRX;20LYR;20GIT;20GIX;20GI;20GIP;20GIET;20GIEX;20GIE;20GIEP;20GAT;20GAX;20GA",
    "20GAP;20GUOT;20GUOX;20GUO;20GUOP;20GOT;20GOX;20GO;20GOP;20GET;20GEX;20GE;20GEP;20GUT;20GUX",
    "20GU;20GUP;20GURX;20GUR;20KIT;20KIX;20KI;20KIP;20KIEX;20KIE;20KIEP;20KAT;20KAX;20KA;20KAP",
    "20KUOX;20KUO;20KUOP;20KOT;20KOX;20KO;20KOP;20KET;20KEX;20KE;20KEP;20KUT;20KUX;20KU;20KUP",
    "20KURX;20KUR;20GGIT;20GGIX;20GGI;20GGIEX;20GGIE;20GGIEP;20GGAT;20GGAX;20GGA;20GGAP;20GGUOT",
    "20GGUOX;20GGUO;20GGUOP;20GGOT;20GGOX;20GGO;20GGOP;20GGET;20GGEX;20GGE;20GGEP;20GGUT;20GGUX",
    "20GGU;20GGUP;20GGURX;20GGUR;20MGIEX;20MGIE;20MGAT;20MGAX;20MGA;20MGAP;20MGUOX;20MGUO",
    "20MGUOP;20MGOT;20MGOX;20MGO;20MGOP;20MGEX;20MGE;20MGEP;20MGUT;20MGUX;20MGU;20MGUP;20MGURX",
    "20MGUR;20HXIT;20HXIX;20HXI;20HXIP;20HXIET;20HXIEX;20HXIE;20HXIEP;20HXAT;20HXAX;20HXA",
    "20HXAP;20HXUOT;20HXUOX;20HXUO;20HXUOP;20HXOT;20HXOX;20HXO;20HXOP;20HXEX;20HXE;20HXEP",
    "20NGIEX;20NGIE;20NGIEP;20NGAT;20NGAX;20NGA;20NGAP;20NGUOT;20NGUOX;20NGUO;20NGOT;20NGOX",
    "20NGO;20NGOP;20NGEX;20NGE;20NGEP;20HIT;20HIEX;20HIE;20HAT;20HAX;20HA;20HAP;20HUOT;20HUOX",
    "20HUO;20HUOP;20HOT;20HOX;20HO;20HOP;20HEX;20HE;20HEP;20WAT;20WAX;20WA;20WAP;20WUOX;20WUO",
    "20WUOP;20WOX;20WO;20WOP;20WEX;20WE;20WEP;20ZIT;20ZIX;20ZI;20ZIP;20ZIEX;20ZIE;20ZIEP;20ZAT",
    "20ZAX;20ZA;20ZAP;20ZUOX;20ZUO;20ZUOP;20ZOT;20ZOX;20ZO;20ZOP;20ZEX;20ZE;20ZEP;20ZUT;20ZUX",
    "20ZU;20ZUP;20ZURX;20ZUR;20ZYT;20ZYX;20ZY;20ZYP;20ZYRX;20ZYR;20CIT;20CIX;20CI;20CIP;20CIET",
    "20CIEX;20CIE;20CIEP;20CAT;20CAX;20CA;20CAP;20CUOX;20CUO;20CUOP;20COT;20COX;20CO;20COP",
    "20CEX;20CE;20CEP;20CUT;20CUX;20CU;20CUP;20CURX;20CUR;20CYT;20CYX;20CY;20CYP;20CYRX;20CYR",
    "20ZZIT;20ZZIX;20ZZI;20ZZIP;20ZZIET;20ZZIEX;20ZZIE;20ZZIEP;20ZZAT;20ZZAX;20ZZA;20ZZAP",
    "20ZZOX;20ZZO;20ZZOP;20ZZEX;20ZZE;20ZZEP;20ZZUX;20ZZU;20ZZUP;20ZZURX;20ZZUR;20ZZYT;20ZZYX",
    "20ZZY;20ZZYP;20ZZYRX;20ZZYR;20NZIT;20NZIX;20NZI;20NZIP;20NZIEX;20NZIE;20NZIEP;20NZAT",
    "20NZAX;20NZA;20NZAP;20NZUOX;20NZUO;20NZOX;20NZOP;20NZEX;20NZE;20NZUX;20NZU;20NZUP;20NZURX",
    "20NZUR;20NZYT;20NZYX;20NZY;20NZYP;20NZYRX;20NZYR;20SIT;20SIX;20SI;20SIP;20SIEX;20SIE",
    "20SIEP;20SAT;20SAX;20SA;20SAP;20SUOX;20SUO;20SUOP;20SOT;20SOX;20SO;20SOP;20SEX;20SE;20SEP",
    "20SUT;20SUX;20SU;20SUP;20SURX;20SUR;20SYT;20SYX;20SY;20SYP;20SYRX;20SYR;20SSIT;20SSIX",
    "20SSI;20SSIP;20SSIEX;20SSIE;20SSIEP;20SSAT;20SSAX;20SSA;20SSAP;20SSOT;20SSOX;20SSO;20SSOP",
    "20SSEX;20SSE;20SSEP;20SSUT;20SSUX;20SSU;20SSUP;20SSYT;20SSYX;20SSY;20SSYP;20SSYRX;20SSYR",
    "20ZHAT;20ZHAX;20ZHA;20ZHAP;20ZHUOX;20ZHUO;20ZHUOP;20ZHOT;20ZHOX;20ZHO;20ZHOP;20ZHET;20ZHEX",
    "20ZHE;20ZHEP;20ZHUT;20ZHUX;20ZHU;20ZHUP;20ZHURX;20ZHUR;20ZHYT;20ZHYX;20ZHY;20ZHYP;20ZHYRX",
    "20ZHYR;20CHAT;20CHAX;20CHA;20CHAP;20CHUOT;20CHUOX;20CHUO;20CHUOP;20CHOT;20CHOX;20CHO",
    "20CHOP;20CHET;20CHEX;20CHE;20CHEP;20CHUX;20CHU;20CHUP;20CHURX;20CHUR;20CHYT;20CHYX;20CHY",
    "20CHYP;20CHYRX;20CHYR;20RRAX;20RRA;20RRUOX;20RRUO;20RROT;20RROX;20RRO;20RROP;20RRET;20RREX",
    "20RRE;20RREP;20RRUT;20RRUX;20RRU;20RRUP;20RRURX;20RRUR;20RRYT;20RRYX;20RRY;20RRYP;20RRYRX",
    "20RRYR;20NRAT;20NRAX;20NRA;20NRAP;20NROX;20NRO;20NROP;20NRET;20NREX;20NRE;20NREP;20NRUT",
    "20NRUX;20NRU;20NRUP;20NRURX;20NRUR;20NRYT;20NRYX;20NRY;20NRYP;20NRYRX;20NRYR;20SHAT;20SHAX",
    "20SHA;20SHAP;20SHUOX;20SHUO;20SHUOP;20SHOT;20SHOX;20SHO;20SHOP;20SHET;20SHEX;20SHE;20SHEP",
    "20SHUT;20SHUX;20SHU;20SHUP;20SHURX;20SHUR;20SHYT;20SHYX;20SHY;20SHYP;20SHYRX;20SHYR;20RAT",
    "20RAX;20RA;20RAP;20RUOX;20RUO;20RUOP;20ROT;20ROX;20RO;20ROP;20REX;20RE;20REP;20RUT;20RUX",
    "20RU;20RUP;20RURX;20RUR;20RYT;20RYX;20RY;20RYP;20RYRX;20RYR;20JIT;20JIX;20JI;20JIP;20JIET",
    "20JIEX;20JIE;20JIEP;20JUOT;20JUOX;20JUO;20JUOP;20JOT;20JOX;20JO;20JOP;20JUT;20JUX;20JU",
    "20JUP;20JURX;20JUR;20JYT;20JYX;20JY;20JYP;20JYRX;20JYR;20QIT;20QIX;20QI;20QIP;20QIET",
    "20QIEX;20QIE;20QIEP;20QUOT;20QUOX;20QUO;20QUOP;20QOT;20QOX;20QO;20QOP;20QUT;20QUX;20QU",
    "20QUP;20QURX;20QUR;20QYT;20QYX;20QY;20QYP;20QYRX;20QYR;20JJIT;20JJIX;20JJI;20JJIP;20JJIET",
    "20JJIEX;20JJIE;20JJIEP;20JJUOX;20JJUO;20JJUOP;20JJOT;20JJOX;20JJO;20JJOP;20JJUT;20JJUX",
    "20JJU;20JJUP;20JJURX;20JJUR;20JJYT;20JJYX;20JJY;20JJYP;20NJIT;20NJIX;20NJI;20NJIP;20NJIET",
    "20NJIEX;20NJIE;20NJIEP;20NJUOX;20NJUO;20NJOT;20NJOX;20NJO;20NJOP;20NJUX;20NJU;20NJUP",
    "20NJURX;20NJUR;20NJYT;20NJYX;20NJY;20NJYP;20NJYRX;20NJYR;20NYIT;20NYIX;20NYI;20NYIP",
    "20NYIET;20NYIEX;20NYIE;20NYIEP;20NYUOX;20NYUO;20NYUOP;20NYOT;20NYOX;20NYO;20NYOP;20NYUT",
    "20NYUX;20NYU;20NYUP;20XIT;20XIX;20XI;20XIP;20XIET;20XIEX;20XIE;20XIEP;20XUOX;20XUO;20XOT",
    "20XOX;20XO;20XOP;20XYT;20XYX;20XY;20XYP;20XYRX;20XYR;20YIT;20YIX;20YI;20YIP;20YIET;20YIEX",
    "20YIE;20YIEP;20YUOT;20YUOX;20YUO;20YUOP;20YOT;20YOX;20YO;20YOP;20YUT;20YUX;20YU;20YUP",
    "20YURX;20YUR;20YYT;20YYX;20YY;20YYP;20YYRX;20YYR;;;;10RADICAL QOT;20LI;20KIT;20NYIP;20CYP",
    "20SSI;20GGOP;20GEP;20MI;20HXIT;20LYR;20BBUT;20MOP;20YO;20PUT;20HXUO;20TAT;20GA;20ZUP;20CYT",
    "20DDUR;20BUR;20GGUO;20NYOP;20TU;20OP;20JJUT;20ZOT;20PYT;20HMO;20YIT;20VUR;20SHY;20VEP;20ZA",
    "20JO;20NZUP;20JJY;20GOT;20JJIE;20WO;20DU;20SHUR;20LIE;20CY;20CUOP;20CIP;20HXOP;20SHAT",
    "20ZUR;20SHOP;20CHE;20ZZIET;20NBIE;20KE;;;;;;;;;;00LISU LETTER BA;20PA;20PHA;20DA;20TA",
    "20THA;20GA;20KA;20KHA;20JA;20CA;20CHA;20DZA;20TSA;20TSHA;20MA;20NA;20LA;20SA;20ZHA;20ZA",
    "20NGA;20HA;20XA;20HHA;20FA;20WA;20SHA;20YA;20GHA;20A;20AE;20E;20EU;20I;20O;20U;20UE;20UH",
    "20OE;20TONE MYA TI;30NA PO;30MYA CYA;40BO;40NA;40JEU;10PUNCTUATION COMMA;20FULL STOP",
    "00VAI SYLLABLE EE;20EEN;20HEE;20WEE;20WEEN;20PEE;20BHEE;20BEE;20MBEE;20KPEE;20MGBEE;20GBEE",
    "20FEE;20VEE;20TEE;20THEE;20DHEE;20DHHEE;20LEE;20REE;20DEE;20NDEE;20SEE;20SHEE;20ZEE;20ZHEE",
    "20CEE;20JEE;20NJEE;20YEE;20KEE;20NGGEE;20GEE;20MEE;20NEE;20NYEE;20I;20IN;20HI;20HIN;20WI",
    "20WIN;20PI;20BHI;20BI;20MBI;20KPI;20MGBI;20GBI;20FI;20VI;20TI;20THI;20DHI;20DHHI;20LI;20RI",
    "20DI;20NDI;20SI;20SHI;20ZI;20ZHI;20CI;20JI;20NJI;20YI;20KI;20NGGI;20GI;20MI;20NI;20NYI;20A",
    "20AN;20NGAN;20HA;20HAN;20WA;20WAN;20PA;20BHA;20BA;20MBA;20KPA;20KPAN;20MGBA;20GBA;20FA",
    "20VA;20TA;20THA;20DHA;20DHHA;20LA;20RA;20DA;20NDA;20SA;20SHA;20ZA;20ZHA;20CA;20JA;20NJA",
    "20YA;20KA;20KAN;20NGGA;20GA;20MA;20NA;20NYA;20OO;20OON;20HOO;20WOO;20WOON;20POO;20BHOO",
    "20BOO;20MBOO;20KPOO;20MGBOO;20GBOO;20FOO;20VOO;20TOO;20THOO;20DHOO;20DHHOO;20LOO;20ROO",
    "20DOO;20NDOO;20SOO;20SHOO;20ZOO;20ZHOO;20COO;20JOO;20NJOO;20YOO;20KOO;20NGGOO;20GOO;20MOO",
    "20NOO;20NYOO;20U;20UN;20HU;20HUN;20WU;20WUN;20PU;20BHU;20BU;20MBU;20KPU;20MGBU;20GBU;20FU",
    "20VU;20TU;20THU;20DHU;20DHHU;20LU;20RU;20DU;20NDU;20SU;20SHU;20ZU;20ZHU;20CU;20JU;20NJU",
    "20YU;20KU;20NGGU;20GU;20MU;20NU;20NYU;20O;20ON;20NGON;20HO;20HON;20WO;20WON;20PO;20BHO",
    "20BO;20MBO;20KPO;20MGBO;20GBO;20GBON;20FO;20VO;20TO;20THO;20DHO;20DHHO;20LO;20RO;20DO",
    "20NDO;20SO;20SHO;20ZO;20ZHO;20CO;20JO;20NJO;20YO;20KO;20NGGO;20GO;20MO;20NO;20NYO;20E;20EN",
    "20NGEN;20HE;20HEN;20WE;20WEN;20PE;20BHE;20BE;20MBE;20KPE;20KPEN;20MGBE;20GBE;20GBEN;20FE",
    "20VE;20TE;20THE;20DHE;20DHHE;20LE;20RE;20DE;20NDE;20SE;20SHE;20ZE;20ZHE;20CE;20JE;20NJE",
    "20YE;20KE;20NGGE;20NGGEN;20GE;20GEN;20ME;20NE;20NYE;20NG;20LENGTHENER;10COMMA;10FULL STOP",
    "10QUESTION MARK;10SYLLABLE NDOLE FA;30KA;30SOO;10SYMBOL FEENG;20KEENG;20TING;20NII;20BANG",
    "20FAA;20TAA;20DANG;20DOONG;20KUNG;20TONG;20DO-O;20JONG;10DIGIT ZERO;20ONE;20TWO;20THREE",
    "20FOUR;20FIVE;20SIX;20SEVEN;20EIGHT;20NINE;10SYLLABLE NDOLE MA;30DO;;;;;;;;;;;;;;;;;;;;",
    "00CYRILLIC CAPITAL LETTER ZEMLYA;12SMALL;10CAPITAL LETTER DZELO;12SMALL",
    "10CAPITAL LETTER REVERSED DZE;13SMALL;10CAPITAL LETTER IOTA;12SMALL;10CAPITAL LETTER DJERV",
    "12SMALL;10CAPITAL LETTER MONOGRAPH UK;13SMALL;10CAPITAL LETTER BROAD OMEGA;13SMALL",
    "10CAPITAL LETTER NEUTRAL YER;13SMALL;11CAPITAL LETTER YERU WITH BACK;15SMALL",
    "10CAPITAL LETTER IOTIFIED YAT;13SMALL;10CAPITAL LETTER REVERSED YU;13SMALL",
    "10CAPITAL LETTER IOTIFIED A;13SMALL;10CAPITAL LETTER CLOSED LITTLE YUS;14SMALL",
    "11CAPITAL LETTER BLENDED;13SMALL;11CAPITAL LETTER IOTIFIED CLOSED LITTLE;15SMALL",
    "10CAPITAL LETTER YN;12SMALL;10CAPITAL LETTER REVERSED TSE;13SMALL;10CAPITAL LETTER SOFT DE",
    "13SMALL;10CAPITAL LETTER SOFT EL;13SMALL;10CAPITAL LETTER SOFT EM;13SMALL",
    "10CAPITAL LETTER MONOCULAR O;13SMALL;11CAPITAL LETTER BINOCULAR;13SMALL",
    "11CAPITAL LETTER DOUBLE MONOCULAR;14SMALL;11LETTER MULTIOCULAR;00COMBINING CYRILLIC VZMET",
    "20TEN MILLIONS SIGN;22HUNDRED;22THOUSAND;00SLAVONIC ASTERISK",
    "00COMBINING CYRILLIC LETTER UKRAINIAN IE;30I;30YI;30U;30HARD SIGN;30YERU;30SOFT SIGN",
    "30OMEGA;20KAVYKA;20PAYEROK;00CYRILLIC KAVYKA;10PAYEROK;10CAPITAL LETTER DWE;12SMALL",
    "10CAPITAL LETTER DZWE;12SMALL;10CAPITAL LETTER ZHWE;12SMALL;10CAPITAL LETTER CCHE;12SMALL",
    "10CAPITAL LETTER DZZE;12SMALL;10CAPITAL LETTER TE WITH MIDDLE HOOK;15SMALL",
    "10CAPITAL LETTER TWE;12SMALL;10CAPITAL LETTER TSWE;12SMALL;10CAPITAL LETTER TSSE;12SMALL",
    "10CAPITAL LETTER TCHE;12SMALL;10CAPITAL LETTER HWE;12SMALL;10CAPITAL LETTER SHWE;12SMALL",
    "10CAPITAL LETTER DOUBLE O;13SMALL;11CAPITAL LETTER CROSSED;13SMALL",
    "00MODIFIER LETTER CYRILLIC HARD SIGN;31SOFT;00COMBINING CYRILLIC LETTER EF;30IOTIFIED E",
    "00BAMUM LETTER A;20KA;20U;20KU;20EE;20REE;20TAE;20O;20NYI;20I;20LA;20PA;20RII;20RIEE",
    "20LEEEE;20MEEEE;20TAA;20NDAA;20NJAEM;20M;20SUU;20MU;20SHII;20SI;20SHEUX;20SEUX;20KYEE",
    "20KET;20NUAE;20NU;20NJUAE;20YOQ;20SHU;20YUQ;20YA;20NSHA;20KEUX;20PEUX;20NJEE;20NTEE;20PUE",
    "20WUE;20PEE;20FEE;20RU;20LU;20MI;20NI;20REUX;20RAE;20KEN;20NGKWAEN;20NGGA;20NGA;20SHO",
    "20PUAE;20FU;20FOM;20WA;20NA;20LI;20PI;20LOQ;20KO;20MBEN;20REN;20MEN;20MA;20TI;20KI;20MO",
    "20MBAA;20TET;20KPA;20TEN;20NTUU;20SAMBA;20FAAMAE;20KOVUU;20KOGHOM;10COMBINING MARK KOQNDON",
    "30TUKWENTIS;10NJAEMLI;10FULL STOP;10COLON;10COMMA;10SEMICOLON;10QUESTION MARK;;;;;;;;",
    "00MODIFIER LETTER CHINESE TONE YIN PING;41YANG;40YIN SHANG;41YANG;40YIN QU;41YANG;40YIN RU",
    "41YANG;20EXTRA-HIGH DOTTED TONE BAR;23HIGH;23MID;23LOW;23EXTRA-LOW",
    "22EXTRA-HIGH DOTTED LEFT-STEM;24HIGH;24MID;24LOW;24EXTRA-LOW;23EXTRA-HIGH;23HIGH;23MID",
    "23LOW;23EXTRA-LOW;21DOT VERTICAL;30SLASH;30HORIZONTAL BAR;20LOWER RIGHT CORNER ANGLE",
    "20RAISED UP ARROW;31DOWN;30EXCLAMATION MARK;32INVERTED;23LOW;20STRESS AND HIGH TONE;41LOW",
    "00LATIN CAPITAL LETTER EGYPTOLOGICAL ALEF;13SMALL;10CAPITAL LETTER EGYPTOLOGICAL AIN",
    "13SMALL;10CAPITAL LETTER HENG;12SMALL;10CAPITAL LETTER TZ;12SMALL",
    "10CAPITAL LETTER TRESILLO;12SMALL;10CAPITAL LETTER CUATRILLO;12SMALL",
    "10CAPITAL LETTER CUATRILLO WITH COMMA;14SMALL;10LETTER SMALL CAPITAL F;40S",
    "10CAPITAL LETTER AA;12SMALL;10CAPITAL LETTER AO;12SMALL;10CAPITAL LETTER AU;12SMALL",
    "10CAPITAL LETTER AV;12SMALL;10CAPITAL LETTER AV WITH HORIZONTAL BAR;15SMALL",
    "10CAPITAL LETTER AY;12SMALL;10CAPITAL LETTER REVERSED C WITH DOT;15SMALL",
    "10CAPITAL LETTER K WITH STROKE;14SMALL;11CAPITAL LETTER K WITH DIAGONAL;15SMALL",
    "12CAPITAL LETTER K WITH STROKE AND;17SMALL;10CAPITAL LETTER BROKEN L;13SMALL",
    "10CAPITAL LETTER L WITH HIGH STROKE;15SMALL;10CAPITAL LETTER O WITH LONG STROKE OVERLAY",
    "16SMALL;10CAPITAL LETTER O WITH LOOP;14SMALL;10CAPITAL LETTER OO;12SMALL",
    "10CAPITAL LETTER P WITH STROKE THROUGH DESCENDER;16SMALL;10CAPITAL LETTER P WITH FLOURISH",
    "14SMALL;10CAPITAL LETTER P WITH SQUIRREL TAIL;15SMALL",
    "10CAPITAL LETTER Q WITH STROKE THROUGH DESCENDER;16SMALL",
    "10CAPITAL LETTER Q WITH DIAGONAL STROKE;15SMALL;10CAPITAL LETTER R ROTUNDA;13SMALL",
    "11CAPITAL LETTER RUM;13SMALL;10CAPITAL LETTER V WITH DIAGONAL STROKE;15SMALL",
    "10CAPITAL LETTER VY;12SMALL;10CAPITAL LETTER VISIGOTHIC Z;13SMALL",
    "10CAPITAL LETTER THORN WITH STROKE;14SMALL",
    "10CAPITAL LETTER THORN WITH STROKE THROUGH DESCENDER;16SMALL;10CAPITAL LETTER VEND;12SMALL",
    "10CAPITAL LETTER ET;12SMALL;10CAPITAL LETTER IS;12SMALL;10CAPITAL LETTER CON;12SMALL",
    "00MODIFIER LETTER US;00LATIN SMALL LETTER DUM;30LUM;30MUM;30NUM;30RUM",
    "11LETTER SMALL CAPITAL;10SMALL LETTER TUM;30UM;10CAPITAL LETTER INSULAR D;13SMALL",
    "10CAPITAL LETTER INSULAR F;13SMALL;10CAPITAL LETTER INSULAR G;32TURNED;14SMALL",
    "10CAPITAL LETTER TURNED L;13SMALL;10CAPITAL LETTER INSULAR R;13SMALL",
    "10CAPITAL LETTER INSULAR S;13SMALL;10CAPITAL LETTER INSULAR T;13SMALL",
    "00MODIFIER LETTER LOW CIRCUMFLEX ACCENT;20COLON;20SHORT EQUALS SIGN",
    "00LATIN CAPITAL LETTER SALTILLO;12SMALL;10CAPITAL LETTER TURNED H",
    "10SMALL LETTER L WITH RETROFLEX HOOK AND BELT;10LETTER SINOLOGICAL DOT",
    "10CAPITAL LETTER N WITH DESCENDER;14SMALL;10CAPITAL LETTER C WITH BAR;14SMALL",
    "50PALATAL HOOK;33H;10CAPITAL LETTER B WITH FLOURISH;14SMALL;10CAPITAL LETTER F WITH STROKE",
    "14SMALL;10CAPITAL LETTER VOLAPUK AE;13SMALL;10CAPITAL LETTER VOLAPUK OE;13SMALL",
    "10CAPITAL LETTER VOLAPUK UE;13SMALL;10CAPITAL LETTER G WITH OBLIQUE STROKE;15SMALL",
    "13CAPITAL LETTER K;15SMALL;13CAPITAL LETTER N;15SMALL;13CAPITAL LETTER R;15SMALL",
    "13CAPITAL LETTER S;15SMALL;10CAPITAL LETTER H WITH HOOK;30REVERSED OPEN E;30SCRIPT G",
    "30L WITH BELT;30SMALL CAPITAL I;10LETTER SMALL CAPITAL Q;10CAPITAL LETTER TURNED K;40T",
    "30J WITH CROSSED-TAIL;30CHI;30BETA;12SMALL;10CAPITAL LETTER OMEGA;12SMALL",
    "10CAPITAL LETTER U WITH STROKE;14SMALL;10CAPITAL LETTER GLOTTAL A;13SMALL",
    "10CAPITAL LETTER GLOTTAL I;13SMALL;10CAPITAL LETTER GLOTTAL U;13SMALL",
    "10CAPITAL LETTER OLD POLISH O;14SMALL;10CAPITAL LETTER ANGLICANA W;13SMALL",
    "10CAPITAL LETTER C WITH PALATAL HOOK;31S WITH;31Z WITH PALATAL",
    "30D WITH SHORT STROKE OVERLAY;16SMALL;14CAPITAL LETTER S;16SMALL;;;;;",
    "10CAPITAL LETTER CLOSED INSULAR G;14SMALL;;30DOUBLE THORN;;40WYNN",
    "10CAPITAL LETTER MIDDLE SCOTS S;14SMALL;11CAPITAL LETTER SIGMOID;13SMALL"]⟩,
    ⟨0xA7F2, [
    "00MODIFIER LETTER CAPITAL C;30F;30Q;00LATIN CAPITAL LETTER REVERSED HALF H;14SMALL",
    "10EPIGRAPHIC LETTER SIDEWAYS I;00MODIFIER LETTER CAPITAL H WITH STROKE;20SMALL LIGATURE OE",
    "00LATIN LETTER SMALL CAPITAL TURNED M;10EPIGRAPHIC LETTER REVERSED F;40P;30INVERTED M",
    "30I LONGA;30ARCHAIC M;00SYLOTI NAGRI LETTER A;30I;20SIGN DVISVARA;20LETTER U;30E;30O",
    "20SIGN HASANTA;20LETTER KO;30KHO;30GO;30GHO;20SIGN ANUSVARA;20LETTER CO;30CHO;30JO;30JHO",
    "30TTO;30TTHO;30DDO;30DDHO;30TO;30THO;30DO;30DHO;30NO;30PO;30PHO;30BO;30BHO;30MO;30RO;30LO",
    "30RRO;30SO;30HO;20VOWEL SIGN A;40I;40U;40E;40OO;20POETRY MARK-1;30MARK-2;30MARK-3;30MARK-4",
    "20SIGN ALTERNATE HASANTA;;;;00NORTH INDIC FRACTION ONE QUARTER;40HALF;30THREE QUARTERS",
    "30ONE SIXTEENTH;40EIGHTH;30THREE SIXTEENTHS;20QUARTER MARK;21PLACEHOLDER;21RUPEE",
    "21QUANTITY;;;;;;;00PHAGS-PA LETTER KA;20KHA;20GA;20NGA;20CA;20CHA;20JA;20NYA;20TA;20THA",
    "20DA;20NA;20PA;20PHA;20BA;20MA;20TSA;20TSHA;20DZA;20WA;20ZHA;20ZA;20SMALL A;20YA;20RA;20LA",
    "20SHA;20SA;20HA;20A;20I;20U;20E;20O;20QA;20XA;20FA;20GGA;20EE;10SUBJOINED LETTER WA;30YA",
    "10LETTER TTA;20TTHA;20DDA;20NNA;20ALTERNATE YA;20VOICELESS SHA;20VOICED HA;20ASPIRATED FA",
    "10SUBJOINED LETTER RA;12SUPERFIXED;10LETTER CANDRABINDU;10SINGLE HEAD MARK;12DOUBLE",
    "10MARK SHAD;21DOUBLE;;;;;;;;;00SAURASHTRA SIGN ANUSVARA;20VISARGA;10LETTER A;20AA;20I;20II",
    "20U;20UU;20VOCALIC R;30RR;30L;30LL;20E;20EE;20AI;20O;20OO;20AU;20KA;20KHA;20GA;20GHA;20NGA",
    "20CA;20CHA;20JA;20JHA;20NYA;20TTA;20TTHA;20DDA;20DDHA;20NNA;20TA;20THA;20DA;20DHA;20NA",
    "20PA;20PHA;20BA;20BHA;20MA;20YA;20RA;20LA;20VA;20SHA;20SSA;20SA;20HA;20LLA",
    "10CONSONANT SIGN HAARU;10VOWEL SIGN AA;30I;30II;30U;30UU;30VOCALIC R;40RR;40L;40LL;30E",
    "30EE;30AI;30O;30OO;30AU;10SIGN VIRAMA;20CANDRABINDU;;;;;;;;;10DANDA;11DOUBLE;10DIGIT ZERO",
    "20ONE;20TWO;20THREE;20FOUR;20FIVE;20SIX;20SEVEN;20EIGHT;20NINE;;;;;;",
    "00COMBINING DEVANAGARI DIGIT ZERO;30ONE;30TWO;30THREE;30FOUR;30FIVE;30SIX;30SEVEN;30EIGHT",
    "30NINE;20LETTER A;30U;30KA;30NA;30PA;30RA;30VI;20SIGN AVAGRAHA",
    "00DEVANAGARI SIGN SPACING CANDRABINDU;20CANDRABINDU VIRAMA;22DOUBLE;20CANDRABINDU TWO",
    "30THREE;30AVAGRAHA;20PUSHPIKA;10GAP FILLER;10CARET;10HEADSTROKE;10SIGN SIDDHAM;10JAIN OM",
    "10LETTER AY;11VOWEL SIGN;00KAYAH LI DIGIT ZERO;30ONE;30TWO;30THREE;30FOUR;30FIVE;30SIX",
    "30SEVEN;30EIGHT;30NINE;20LETTER KA;30KHA;30GA;30NGA;30SA;30SHA;30ZA;30NYA;30TA;30HTA;30NA",
    "30PA;30PHA;30MA;30DA;30BA;30RA;30YA;30LA;30WA;30THA;30HA;30VA;30CA;30A;30OE;30I;30OO",
    "20VOWEL UE;30E;30U;30EE;30O;20TONE PLOPHU;30CALYA;40PLOPHU;20SIGN CWI;30SHYA",
    "00REJANG LETTER KA;20GA;20NGA;20TA;20DA;20NA;20PA;20BA;20MA;20CA;20JA;20NYA;20SA;20RA;20LA",
    "20YA;20WA;20HA;20MBA;20NGGA;20NDA;20NYJA;20A;10VOWEL SIGN I;30U;30E;30AI;30O;30AU;30EU",
    "30EA;10CONSONANT SIGN NG;30N;30R;30H;10VIRAMA;;;;;;;;;;;;10SECTION MARK",
    "00HANGUL CHOSEONG TIKEUT-MIEUM;20TIKEUT-PIEUP;20TIKEUT-SIOS;20TIKEUT-CIEUC;20RIEUL-KIYEOK",
    "20RIEUL-SSANGKIYEOK;20RIEUL-TIKEUT;20RIEUL-SSANGTIKEUT;20RIEUL-MIEUM;20RIEUL-PIEUP",
    "20RIEUL-SSANGPIEUP;20RIEUL-KAPYEOUNPIEUP;20RIEUL-SIOS;20RIEUL-CIEUC;20RIEUL-KHIEUKH",
    "20MIEUM-KIYEOK;20MIEUM-TIKEUT;20MIEUM-SIOS;20PIEUP-SIOS-THIEUTH;20PIEUP-KHIEUKH",
    "20PIEUP-HIEUH;20SSANGSIOS-PIEUP;20IEUNG-RIEUL;20IEUNG-HIEUH;20SSANGCIEUC-HIEUH",
    "20SSANGTHIEUTH;20PHIEUPH-HIEUH;20HIEUH-SIOS;20SSANGYEORINHIEUH;;;",
    "00JAVANESE SIGN PANYANGGA;20CECAK;20LAYAR;20WIGNYAN;10LETTER A;20I KAWI;30;20II;20U",
    "20PA CEREK;20NGA LELET;40RASWADI;20E;20AI;20O;20KA;30SASAK;30MURDA;20GA;30MURDA;20NGA;20CA",
    "30MURDA;20JA;20NYA MURDA;20JA MAHAPRANA;20NYA;20TTA;30MAHAPRANA;20DDA;30MAHAPRANA",
    "20NA MURDA;20TA;30MURDA;20DA;30MAHAPRANA;20NA;20PA;30MURDA;20BA;30MURDA;20MA;20YA;20RA",
    "30AGUNG;20LA;20WA;20SA MURDA;30MAHAPRANA;30;20HA;10SIGN CECAK TELU;10VOWEL SIGN TARUNG",
    "30TOLONG;30WULU;40MELIK;30SUKU;40MENDUT;30TALING;30DIRGA MURE;30PEPET",
    "10CONSONANT SIGN KERET;30PENGKAL;30CAKRA;10PANGKON;10LEFT RERENGGAN;11RIGHT;10PADA ANDAP",
    "20MADYA;20LUHUR;20WINDU;20PANGKAT;20LINGSA;20LUNGSI;20ADEG;30ADEG;20PISELEH;12TURNED;",
    "10PANGRANGKEP;10DIGIT ZERO;20ONE;20TWO;20THREE;20FOUR;20FIVE;20SIX;20SEVEN;20EIGHT;20NINE;",
    ";;;10PADA TIRTA TUMETES;20ISEN-ISEN;00MYANMAR LETTER SHAN GHA;30CHA;30JHA;30NNA;30BHA",
    "10SIGN SHAN SAW;10MODIFIER LETTER SHAN REDUPLICATION;10LETTER TAI LAING NYA;40FA;40GA",
    "40GHA;40JA;40JHA;40DDA;40DDHA;40NNA;10TAI LAING DIGIT ZERO;40ONE;40TWO;40THREE;40FOUR",
    "40FIVE;40SIX;40SEVEN;40EIGHT;40NINE;10LETTER TAI LAING LLA;40DA;40DHA;40BA;40BHA;",
    "00CHAM LETTER A;20I;20U;20E;20AI;20O;20KA;20KHA;20GA;20GHA;20NGUE;20NGA;20CHA;20CHHA;20JA",
    "20JHA;20NHUE;20NHA;20NHJA;20TA;20THA;20DA;20DHA;20NUE;20NA;20DDA;20PA;20PPA;20PHA;20BA",
    "20BHA;20MUE;20MA;20BBA;20YA;20RA;20LA;20VA;20SSA;20SA;20HA;10VOWEL SIGN AA;30I;30II;30EI",
    "30U;30OE;30O;30AI;30AU;30UE;10CONSONANT SIGN YA;30RA;30LA;30WA;;;;;;;;;;10LETTER FINAL K",
    "30G;30NG;12CONSONANT SIGN;10LETTER FINAL CH;30T;30N;30P;30Y;30R;30L;30SS",
    "10CONSONANT SIGN FINAL M;40H;;;10DIGIT ZERO;20ONE;20TWO;20THREE;20FOUR;20FIVE;20SIX",
    "20SEVEN;20EIGHT;20NINE;;;10PUNCTUATION SPIRAL;20DANDA;21DOUBLE;21TRIPLE",
    "00MYANMAR LETTER KHAMTI GA;30CA;30CHA;30JA;30JHA;30NYA;30TTA;30TTHA;30DDA;30DDHA;30DHA",
    "30NA;30SA;30HA;30HHA;30FA;10MODIFIER LETTER KHAMTI REDUPLICATION;10LETTER KHAMTI XA;30ZA",
    "30RA;10LOGOGRAM KHAMTI OAY;30QN;30HM;10SYMBOL AITON EXCLAMATION;30ONE;30TWO",
    "10LETTER AITON RA;10SIGN PAO KAREN TONE;20TAI LAING TONE-2;40TONE-5",
    "10LETTER SHWE PALAUNG CHA;40SHA;00TAI VIET LETTER LOW KO;31HIGH;30LOW KHO;31HIGH",
    "30LOW KHHO;31HIGH;30LOW GO;31HIGH;30LOW NGO;31HIGH;30LOW CO;31HIGH;30LOW CHO;31HIGH",
    "30LOW SO;31HIGH;30LOW NYO;31HIGH;30LOW DO;31HIGH;30LOW TO;31HIGH;30LOW THO;31HIGH;30LOW NO",
    "31HIGH;30LOW BO;31HIGH;30LOW PO;31HIGH;30LOW PHO;31HIGH;30LOW FO;31HIGH;30LOW MO;31HIGH",
    "30LOW YO;31HIGH;30LOW RO;31HIGH;30LOW LO;31HIGH;30LOW VO;31HIGH;30LOW HO;31HIGH;30LOW O",
    "31HIGH;20MAI KANG;20VOWEL AA;30I;30UE;30U;30E;30O;20MAI KHIT;20VOWEL IA;30UEA;30UA;30AUE",
    "30AY;30AN;30AM;20TONE MAI EK;40NUENG;40THO;40SONG"]⟩,
    ⟨0xAADB, [
    "00TAI VIET SYMBOL KON;30NUENG;30SAM;30HO HOI;30KOI KOI;00MEETEI MAYEK LETTER E;30O;30CHA",
    "30NYA;30TTA;30TTHA;30DDA;30DDHA;30NNA;30SHA;30SSA;20VOWEL SIGN II;40UU;40AAI;40AU;40AAU",
    "20CHEIKHAN;20AHANG KHUDAM;20ANJI;20SYLLABLE REPETITION MARK;22WORD;20VOWEL SIGN VISARGA",
    "20VIRAMA;;;;;;;;;;;00ETHIOPIC SYLLABLE TTHU;20TTHI;20TTHAA;20TTHEE;20TTHE;20TTHO;;;20DDHU",
    "20DDHI;20DDHAA;20DDHEE;20DDHE;20DDHO;;;20DZU;20DZI;20DZAA;20DZEE;20DZE;20DZO;;;;;;;;;",
    "20CCHHA;20CCHHU;20CCHHI;20CCHHAA;20CCHHEE;20CCHHE;20CCHHO;;20BBA;20BBU;20BBI;20BBAA;20BBEE",
    "20BBE;20BBO;;00LATIN SMALL LETTER BARRED ALPHA;30A REVERSED-SCHWA;30BLACKLETTER E;31BARRED",
    "30E WITH FLOURISH;30LENIS F;30SCRIPT G WITH CROSSED-TAIL;30L WITH INVERTED LAZY S",
    "50DOUBLE MIDDLE TILDE;50MIDDLE RING;30M WITH CROSSED-TAIL;32N;32ENG;30BLACKLETTER O",
    "50WITH STROKE;33OPEN;30INVERTED OE;30TURNED OE WITH STROKE;61HORIZONTAL;40O OPEN-O",
    "60WITH STROKE;30STIRRUP R;10LETTER SMALL CAPITAL R WITH RIGHT LEG",
    "10SMALL LETTER R WITHOUT HANDLE;30DOUBLE R;30R WITH CROSSED-TAIL;33DOUBLE;30SCRIPT R",
    "50WITH RING;30BASELINE ESH;30U WITH SHORT RIGHT LEG;44BAR;30UI;31TURNED;30U WITH LEFT HOOK",
    "30CHI;40WITH LOW RIGHT RING;60LEFT SERIF;30X WITH LOW RIGHT RING;50LONG LEFT LEG",
    "80AND LOW RIGHT RING;80WITH SERIF;30Y WITH SHORT RIGHT LEG",
    "00MODIFIER BREVE WITH INVERTED BREVE;10LETTER SMALL HENG;30L WITH INVERTED LAZY S",
    "50MIDDLE TILDE;30U WITH LEFT HOOK;00LATIN SMALL LETTER SAKHA YAT;30IOTIFIED E;30OPEN OE",
    "30UO;30INVERTED ALPHA;00GREEK LETTER SMALL CAPITAL OMEGA",
    "00LATIN SMALL LETTER DZ DIGRAPH WITH RETROFLEX HOOK;34TS;30TURNED R WITH MIDDLE TILDE",
    "00MODIFIER LETTER SMALL TURNED W;20LEFT TACK;21RIGHT;;;;;00CHEROKEE SMALL LETTER A;30E;30I",
    "30O;30U;30V;30GA;30KA;30GE;30GI;30GO;30GU;30GV;30HA;30HE;30HI;30HO;30HU;30HV;30LA;30LE",
    "30LI;30LO;30LU;30LV;30MA;30ME;30MI;30MO;30MU;30NA;30HNA;30NAH;30NE;30NI;30NO;30NU;30NV",
    "30QUA;30QUE;30QUI;30QUO;30QUU;30QUV;30SA;30S;30SE;30SI;30SO;30SU;30SV;30DA;30TA;30DE;30TE",
    "30DI;30TI;30DO;30DU;30DV;30DLA;30TLA;30TLE;30TLI;30TLO;30TLU;30TLV;30TSA;30TSE;30TSI;30TSO",
    "30TSU;30TSV;30WA;30WE;30WI;30WO;30WU;30WV;30YA;00MEETEI MAYEK LETTER KOK;30SAM;30LAI;30MIT",
    "30PA;30NA;30CHIL;30TIL;30KHOU;30NGOU;30THOU;30WAI;30YANG;30HUK;30UN;30I;30PHAM;30ATIYA",
    "30GOK;30JHAM;30RAI;30BA;30JIL;30DIL;30GHOU;30DHOU;30BHAM;30KOK LONSUM;31LAI;31MIT;31PA",
    "31NA;31TIL;31NGOU;31I;20VOWEL SIGN ONAP;40INAP;40ANAP;40YENAP;40SOUNAP;40UNAP;40CHEINAP",
    "40NUNG;20CHEIKHEI;20LUM IYEK;21APUN;;;20DIGIT ZERO;30ONE;30TWO;30THREE;30FOUR;30FIVE;30SIX",
    "30SEVEN;30EIGHT;30NINE"]⟩,
    ⟨0xD7B0, [
    "00HANGUL JUNGSEONG O-YEO;20O-O-I;20YO-A;20YO-AE;20YO-EO;20U-YEO;20U-I-I;20YU-AE;20YU-O",
    "20EU-A;20EU-EO;20EU-E;20EU-O;20I-YA-O;20I-YAE;20I-YEO;20I-YE;20I-O-I;20I-YO;20I-YU;20I-I",
    "20ARAEA-A;20ARAEA-E;;;;;10JONGSEONG NIEUN-RIEUL;20NIEUN-CHIEUCH;20SSANGTIKEUT",
    "20SSANGTIKEUT-PIEUP;20TIKEUT-PIEUP;20TIKEUT-SIOS;20TIKEUT-SIOS-KIYEOK;20TIKEUT-CIEUC",
    "20TIKEUT-CHIEUCH;20TIKEUT-THIEUTH;20RIEUL-SSANGKIYEOK;20RIEUL-KIYEOK-HIEUH",
    "20SSANGRIEUL-KHIEUKH;20RIEUL-MIEUM-HIEUH;20RIEUL-PIEUP-TIKEUT;20RIEUL-PIEUP-PHIEUPH",
    "20RIEUL-YESIEUNG;20RIEUL-YEORINHIEUH-HIEUH;20KAPYEOUNRIEUL;20MIEUM-NIEUN",
    "20MIEUM-SSANGNIEUN;20SSANGMIEUM;20MIEUM-PIEUP-SIOS;20MIEUM-CIEUC;20PIEUP-TIKEUT",
    "20PIEUP-RIEUL-PHIEUPH;20PIEUP-MIEUM;20SSANGPIEUP;20PIEUP-SIOS-TIKEUT;20PIEUP-CIEUC",
    "20PIEUP-CHIEUCH;20SIOS-MIEUM;20SIOS-KAPYEOUNPIEUP;20SSANGSIOS-KIYEOK;20SSANGSIOS-TIKEUT",
    "20SIOS-PANSIOS;20SIOS-CIEUC;20SIOS-CHIEUCH;20SIOS-THIEUTH;20SIOS-HIEUH;20PANSIOS-PIEUP",
    "20PANSIOS-KAPYEOUNPIEUP;20YESIEUNG-MIEUM;20YESIEUNG-HIEUH;20CIEUC-PIEUP;20CIEUC-SSANGPIEUP",
    "20SSANGCIEUC;20PHIEUPH-SIOS;20PHIEUPH-THIEUTH"]⟩,
    ⟨0xFB00, [
    "00LATIN SMALL LIGATURE FF;30FI;30FL;30FFI;30FFL;30LONG S T;30ST;;;;;;;;;;;;",
    "00ARMENIAN SMALL LIGATURE MEN NOW;40ECH;40INI;30VEW NOW;30MEN XEH;;;;;",
    "00HEBREW LETTER YOD WITH HIRIQ;10POINT JUDEO-SPANISH VARIKA",
    "10LIGATURE YIDDISH YOD YOD PATAH;10LETTER ALTERNATIVE AYIN;20WIDE ALEF;30DALET;30HE;30KAF",
    "30LAMED;30FINAL MEM;30RESH;30TAV;20ALTERNATIVE PLUS SIGN;20SHIN WITH SHIN DOT;41SIN",
    "41DAGESH AND SHIN;61SIN;20ALEF WITH PATAH;40QAMATS;40MAPIQ;20BET WITH DAGESH;22GIMEL",
    "22DALET;20HE WITH MAPIQ;20VAV WITH DAGESH;22ZAYIN;;22TET;22YOD;22FINAL KAF;23;22LAMED;",
    "22MEM;;22NUN;22SAMEKH;;22FINAL PE;23;;22TSADI;22QOF;22RESH;22SHIN;22TAV;20VAV WITH HOLAM",
    "20BET WITH RAFE;22KAF;22PE;10LIGATURE ALEF LAMED;00ARABIC LETTER ALEF WASLA ISOLATED FORM",
    "41FINAL;21BEEH ISOLATED;31FINAL;31INITIAL;31MEDIAL;21PEH ISOLATED;31FINAL;31INITIAL",
    "31MEDIAL;21BEHEH ISOLATED;31FINAL;31INITIAL;31MEDIAL;21TTEHEH ISOLATED;31FINAL;31INITIAL",
    "31MEDIAL;21TEHEH ISOLATED;31FINAL;31INITIAL;31MEDIAL;21TTEH ISOLATED;31FINAL;31INITIAL",
    "31MEDIAL;21VEH ISOLATED;31FINAL;31INITIAL;31MEDIAL;21PEHEH ISOLATED;31FINAL;31INITIAL",
    "31MEDIAL;21DYEH ISOLATED;31FINAL;31INITIAL;31MEDIAL;21NYEH ISOLATED;31FINAL;31INITIAL",
    "31MEDIAL;21TCHEH ISOLATED;31FINAL;31INITIAL;31MEDIAL;21TCHEHEH ISOLATED;31FINAL;31INITIAL",
    "31MEDIAL;21DDAHAL ISOLATED;31FINAL;21DAHAL ISOLATED;31FINAL;21DUL ISOLATED;31FINAL",
    "21DDAL ISOLATED;31FINAL;21JEH ISOLATED;31FINAL;21RREH ISOLATED;31FINAL;21KEHEH ISOLATED",
    "31FINAL;31INITIAL;31MEDIAL;21GAF ISOLATED;31FINAL;31INITIAL;31MEDIAL;21GUEH ISOLATED",
    "31FINAL;31INITIAL;31MEDIAL;21NGOEH ISOLATED;31FINAL;31INITIAL;31MEDIAL",
    "21NOON GHUNNA ISOLATED;41FINAL;21RNOON ISOLATED;31FINAL;31INITIAL;31MEDIAL",
    "21HEH WITH YEH ABOVE ISOLATED;61FINAL;31GOAL ISOLATED;41FINAL;41INITIAL;41MEDIAL",
    "31DOACHASHMEE ISOLATED;41FINAL;41INITIAL;41MEDIAL;21YEH BARREE ISOLATED;41FINAL",
    "41WITH HAMZA ABOVE ISOLATED;71FINAL;10SYMBOL DOT ABOVE;30BELOW;20TWO DOTS ABOVE;40BELOW",
    "20THREE DOTS ABOVE;40BELOW;40POINTING DOWNWARDS ABOVE;60BELOW;20FOUR DOTS ABOVE;40BELOW",
    "21DOUBLE VERTICAL BAR;20TWO DOTS VERTICALLY ABOVE;50BELOW;20RING;20SMALL TAH ABOVE;40BELOW",
    "20WASLA ABOVE;;;;;;;;;;;;;;;;;10LETTER NG ISOLATED FORM;31FINAL;31INITIAL;31MEDIAL",
    "21U ISOLATED;31FINAL;21OE ISOLATED;31FINAL;21YU ISOLATED;31FINAL",
    "21U WITH HAMZA ABOVE ISOLATED;22VE;31FINAL;21KIRGHIZ OE ISOLATED;41FINAL;31YU ISOLATED",
    "41FINAL;21E ISOLATED;31FINAL;31INITIAL;31MEDIAL",
    "21UIGHUR KAZAKH KIRGHIZ ALEF MAKSURA INITIAL;71MEDIAL",
    "11LIGATURE YEH WITH HAMZA ABOVE WITH ALEF ISOLATED;81FINAL;71AE ISOLATED;81FINAL",
    "71WAW ISOLATED;81FINAL;71U ISOLATED;81FINAL;71OE ISOLATED;81FINAL;71YU ISOLATED;81FINAL",
    "71E ISOLATED;81FINAL;81INITIAL",
    "21UIGHUR KIRGHIZ YEH WITH HAMZA ABOVE WITH ALEF MAKSURA ISOLATED;91ALEF MAKSURA FINAL",
    "91ALEF MAKSURA INITIAL;11LETTER FARSI YEH ISOLATED;41FINAL;41INITIAL;41MEDIAL",
    "11LIGATURE YEH WITH HAMZA ABOVE WITH JEEM ISOLATED;72HAH;72MEEM;72ALEF MAKSURA;72YEH",
    "22BEH WITH JEEM;42HAH;42KHAH;42MEEM;42ALEF MAKSURA;42YEH;22TEH WITH JEEM;42HAH;42KHAH",
    "42MEEM;42ALEF MAKSURA;42YEH;22THEH WITH JEEM;42MEEM;42ALEF MAKSURA;42YEH;22JEEM WITH HAH",
    "42MEEM;22HAH WITH JEEM;42MEEM;22KHAH WITH JEEM;42HAH;42MEEM;22SEEN WITH JEEM;42HAH;42KHAH",
    "42MEEM;22SAD WITH HAH;42MEEM;22DAD WITH JEEM;42HAH;42KHAH;42MEEM;22TAH WITH HAH;42MEEM",
    "24ZAH;22AIN WITH JEEM;42MEEM;22GHAIN WITH JEEM;42MEEM;22FEH WITH JEEM;42HAH;42KHAH;42MEEM",
    "42ALEF MAKSURA;42YEH;22QAF WITH HAH;42MEEM;42ALEF MAKSURA;42YEH;22KAF WITH ALEF;42JEEM",
    "42HAH;42KHAH;42LAM;42MEEM;42ALEF MAKSURA;42YEH;22LAM WITH JEEM;42HAH;42KHAH;42MEEM",
    "42ALEF MAKSURA;42YEH;22MEEM WITH JEEM;42HAH;42KHAH;42MEEM;42ALEF MAKSURA;42YEH",
    "22NOON WITH JEEM;42HAH;42KHAH;42MEEM;42ALEF MAKSURA;42YEH;22HEH WITH JEEM;42MEEM",
    "42ALEF MAKSURA;42YEH;22YEH WITH JEEM;42HAH;42KHAH;42MEEM;42ALEF MAKSURA;42YEH",
    "22THAL WITH SUPERSCRIPT ALEF;25REH;25ALEF MAKSURA;22SHADDA WITH DAMMATAN;42KASRATAN",
    "42FATHA;42DAMMA;42KASRA;42SUPERSCRIPT ALEF;21YEH WITH HAMZA ABOVE WITH REH FINAL;72ZAIN",
    "72MEEM;72NOON;72ALEF MAKSURA;72YEH;22BEH WITH REH;42ZAIN;42MEEM;42NOON;42ALEF MAKSURA",
    "42YEH;22TEH WITH REH;42ZAIN;42MEEM;42NOON;42ALEF MAKSURA;42YEH;22THEH WITH REH;42ZAIN",
    "42MEEM;42NOON;42ALEF MAKSURA;42YEH;22FEH WITH ALEF MAKSURA;42YEH;22QAF WITH ALEF MAKSURA",
    "42YEH;22KAF WITH ALEF;42LAM;42MEEM;42ALEF MAKSURA;42YEH;22LAM WITH MEEM;42ALEF MAKSURA",
    "42YEH;22MEEM WITH ALEF;42MEEM;22NOON WITH REH;42ZAIN;42MEEM;42NOON;42ALEF MAKSURA;42YEH",
    "22ALEF MAKSURA WITH SUPERSCRIPT ALEF;22YEH WITH REH;42ZAIN;42MEEM;42NOON;42ALEF MAKSURA",
    "42YEH;41HAMZA ABOVE WITH JEEM INITIAL;72HAH;72KHAH;72MEEM;72HEH;22BEH WITH JEEM;42HAH",
    "42KHAH;42MEEM;42HEH;22TEH WITH JEEM;42HAH;42KHAH;42MEEM;42HEH;22THEH WITH MEEM",
    "22JEEM WITH HAH;42MEEM;22HAH WITH JEEM;42MEEM;22KHAH WITH JEEM;42MEEM;22SEEN WITH JEEM",
    "42HAH;42KHAH;42MEEM;22SAD WITH HAH;42KHAH;42MEEM;22DAD WITH JEEM;42HAH;42KHAH;42MEEM",
    "22TAH WITH HAH;22ZAH WITH MEEM;22AIN WITH JEEM;42MEEM;22GHAIN WITH JEEM;42MEEM",
    "22FEH WITH JEEM;42HAH;42KHAH;42MEEM;22QAF WITH HAH;42MEEM;22KAF WITH JEEM;42HAH;42KHAH",
    "42LAM;42MEEM;22LAM WITH JEEM;42HAH;42KHAH;42MEEM;42HEH;22MEEM WITH JEEM;42HAH;42KHAH",
    "42MEEM;22NOON WITH JEEM;42HAH;42KHAH;42MEEM;42HEH;22HEH WITH JEEM;42MEEM",
    "42SUPERSCRIPT ALEF;22YEH WITH JEEM;42HAH;42KHAH;42MEEM;42HEH",
    "41HAMZA ABOVE WITH MEEM MEDIAL;72HEH;22BEH WITH MEEM;42HEH;22TEH WITH MEEM;42HEH",
    "22THEH WITH MEEM;42HEH;22SEEN WITH MEEM;42HEH;22SHEEN WITH MEEM;42HEH;22KAF WITH LAM",
    "42MEEM;24LAM;24NOON;42HEH;22YEH WITH MEEM;42HEH;22SHADDA WITH FATHA;42DAMMA;42KASRA",
    "21TAH WITH ALEF MAKSURA ISOLATED;42YEH;22AIN WITH ALEF MAKSURA;42YEH",
    "22GHAIN WITH ALEF MAKSURA;42YEH;22SEEN WITH ALEF MAKSURA;42YEH;22SHEEN WITH ALEF MAKSURA",
    "42YEH;22HAH WITH ALEF MAKSURA;42YEH;22JEEM WITH ALEF MAKSURA;42YEH",
    "22KHAH WITH ALEF MAKSURA;42YEH;22SAD WITH ALEF MAKSURA;42YEH;22DAD WITH ALEF MAKSURA;42YEH",
    "22SHEEN WITH JEEM;42HAH;42KHAH;42MEEM;42REH;24SEEN;24SAD;24DAD",
    "21TAH WITH ALEF MAKSURA FINAL;42YEH;22AIN WITH ALEF MAKSURA;42YEH",
    "22GHAIN WITH ALEF MAKSURA;42YEH;22SEEN WITH ALEF MAKSURA;42YEH;22SHEEN WITH ALEF MAKSURA",
    "42YEH;22HAH WITH ALEF MAKSURA;42YEH;22JEEM WITH ALEF MAKSURA;42YEH",
    "22KHAH WITH ALEF MAKSURA;42YEH;22SAD WITH ALEF MAKSURA;42YEH;22DAD WITH ALEF MAKSURA;42YEH",
    "22SHEEN WITH JEEM;42HAH;42KHAH;42MEEM;42REH;24SEEN;24SAD;24DAD;21SHEEN WITH JEEM INITIAL",
    "42HAH;42KHAH;42MEEM;22SEEN WITH HEH;24SHEEN;22TAH WITH MEEM;21SEEN WITH JEEM MEDIAL;42HAH",
    "42KHAH;22SHEEN WITH JEEM;42HAH;42KHAH;22TAH WITH MEEM;24ZAH;21ALEF WITH FATHATAN FINAL",
    "51ISOLATED;00ORNATE LEFT PARENTHESIS;11RIGHT;00ARABIC LIGATURE RAHIMAHU ALLAAH",
    "20RADI ALLAAHU ANH;40ANHAA;40ANHUM;40ANHUMAA;40ANHUNNA;20SALLALLAAHU ALAYHI WA-AALIH",
    "20ALAYHI AS-SALAAM;21ALAYHIM;21ALAYHIMAA;20ALAYHI AS-SALAATU WAS-SALAAM;20QUDDISA SIRRAH",
    "20SALLALLAHU ALAYHI WAAALIHEE WA-SALLAM;20ALAYHAA AS-SALAAM;20TABAARAKA WA-TAAALAA",
    "20RAHIMAHUM ALLAAH;20TEH WITH JEEM WITH MEEM INITIAL FORM;41HAH WITH JEEM FINAL;71INITIAL",
    "62MEEM;44KHAH;42MEEM WITH JEEM;62HAH;62KHAH;21JEEM WITH MEEM WITH HAH FINAL;71INITIAL",
    "21HAH WITH MEEM WITH YEH FINAL;62ALEF MAKSURA;21SEEN WITH HAH WITH JEEM INITIAL",
    "42JEEM WITH HAH;61ALEF MAKSURA FINAL;42MEEM WITH HAH;71INITIAL;62JEEM;61MEEM FINAL",
    "71INITIAL;21SAD WITH HAH WITH HAH FINAL;71INITIAL;41MEEM WITH MEEM FINAL;24SHEEN WITH HAH",
    "71INITIAL;41JEEM WITH YEH FINAL;42MEEM WITH KHAH;71INITIAL;61MEEM FINAL;71INITIAL",
    "21DAD WITH HAH WITH ALEF MAKSURA FINAL;42KHAH WITH MEEM;71INITIAL",
    "21TAH WITH MEEM WITH HAH FINAL;71INITIAL;62MEEM;61YEH FINAL;22AIN WITH JEEM WITH MEEM",
    "44MEEM;71INITIAL;61ALEF MAKSURA FINAL;22GHAIN WITH MEEM WITH MEEM;62YEH;62ALEF MAKSURA",
    "22FEH WITH KHAH WITH MEEM;71INITIAL;21QAF WITH MEEM WITH HAH FINAL;62MEEM;24LAM WITH HAH",
    "62YEH;62ALEF MAKSURA;41JEEM WITH JEEM INITIAL;71FINAL;42KHAH WITH MEEM;71INITIAL",
    "41MEEM WITH HAH FINAL;71INITIAL;22MEEM WITH HAH WITH JEEM;62MEEM;61YEH FINAL",
    "41JEEM WITH HAH INITIAL;62MEEM;42KHAH WITH JEEM;62MEEM;;;42JEEM WITH KHAH",
    "22HEH WITH MEEM WITH JEEM;62MEEM;24NOON WITH HAH;61ALEF MAKSURA FINAL;42JEEM WITH MEEM",
    "71INITIAL;61ALEF MAKSURA FINAL;42MEEM WITH YEH;62ALEF MAKSURA;22YEH WITH MEEM WITH MEEM",
    "71INITIAL;21BEH WITH KHAH WITH YEH FINAL;24TEH WITH JEEM;62ALEF MAKSURA;42KHAH WITH YEH",
    "62ALEF MAKSURA;42MEEM WITH YEH;62ALEF MAKSURA;22JEEM WITH MEEM WITH YEH",
    "42HAH WITH ALEF MAKSURA;45MEEM;25SEEN WITH KHAH;22SAD WITH HAH WITH YEH;26SHEEN;26DAD",
    "24LAM WITH JEEM;44MEEM;24YEH WITH HAH;44JEEM;44MEEM;26MEEM;26QAF;24NOON WITH HAH",
    "21QAF WITH MEEM WITH HAH INITIAL;22LAM WITH HAH WITH MEEM;21AIN WITH MEEM WITH YEH FINAL",
    "26KAF;21NOON WITH JEEM WITH HAH INITIAL;21MEEM WITH KHAH WITH YEH FINAL",
    "21LAM WITH JEEM WITH MEEM INITIAL;21KAF WITH MEEM WITH MEEM FINAL;24LAM WITH JEEM",
    "22NOON WITH JEEM WITH HAH;22JEEM WITH HAH WITH YEH;24HAH WITH JEEM;26MEEM;24FEH WITH MEEM",
    "24BEH WITH HAH;21KAF WITH MEEM WITH MEEM INITIAL;24AIN WITH JEEM;24SAD WITH MEEM",
    "21SEEN WITH KHAH WITH YEH FINAL;24NOON WITH JEEM;;;;;;;;20SALAAMUHU ALAYNAA"]⟩,
    ⟨0xFDF0, [
    "00ARABIC LIGATURE SALLA USED AS KORANIC STOP SIGN ISOLATED FORM;27QALA;22ALLAH;22AKBAR",
    "22MOHAMMAD;22SALAM;22RASOUL;22ALAYHE;22WASALLAM;22SALLA;20SALLALLAHOU ALAYHE WASALLAM",
    "20JALLAJALALOUHOU;00RIAL SIGN;00ARABIC LIGATURE BISMILLAH AR-RAHMAN AR-RAHEEM",
    "20SUBHAANAHU WA TAAALAA;20AZZA WA JALL;00VARIATION SELECTOR-1;10SELECTOR-2;10SELECTOR-3",
    "10SELECTOR-4;10SELECTOR-5;10SELECTOR-6;10SELECTOR-7;10SELECTOR-8;10SELECTOR-9",
    "10SELECTOR-10;10SELECTOR-11;10SELECTOR-12;10SELECTOR-13;10SELECTOR-14;10SELECTOR-15",
    "10SELECTOR-16;00PRESENTATION FORM FOR VERTICAL COMMA;41IDEOGRAPHIC;50FULL STOP;40COLON",
    "40SEMICOLON;40EXCLAMATION MARK;41QUESTION;40LEFT WHITE LENTICULAR BRACKET",
    "40RIGHT WHITE LENTICULAR BRAKCET;40HORIZONTAL ELLIPSIS;;;;;;",
    "00COMBINING LIGATURE LEFT HALF;21RIGHT;11DOUBLE TILDE LEFT;31RIGHT;11MACRON LEFT;21RIGHT",
    "10CONJOINING MACRON;10LIGATURE LEFT HALF BELOW;22RIGHT;12TILDE LEFT;22RIGHT;12MACRON LEFT",
    "22RIGHT;11CONJOINING MACRON;10CYRILLIC TITLO LEFT HALF;31RIGHT",
    "00PRESENTATION FORM FOR VERTICAL TWO DOT LEADER;40EM DASH;41EN;40LOW LINE;42WAVY",
    "40LEFT PARENTHESIS;41RIGHT;40LEFT CURLY BRACKET;42RIGHT;41LEFT TORTOISE SHELL;43RIGHT",
    "41LEFT BLACK LENTICULAR;43RIGHT;41LEFT DOUBLE ANGLE;43RIGHT;42LEFT;42RIGHT;41LEFT CORNER",
    "42RIGHT;42LEFT WHITE;43RIGHT;00SESAME DOT;02WHITE",
    "00PRESENTATION FORM FOR VERTICAL LEFT SQUARE BRACKET;42RIGHT;00DASHED OVERLINE",
    "01CENTRELINE;01WAVY;02DOUBLE;00DASHED LOW LINE;02CENTRELINE;02WAVY;00SMALL COMMA",
    "11IDEOGRAPHIC;10FULL STOP;;10SEMICOLON;10COLON;10QUESTION MARK;11EXCLAMATION;10EM DASH",
    "10LEFT PARENTHESIS;11RIGHT;10LEFT CURLY BRACKET;12RIGHT;11LEFT TORTOISE SHELL;13RIGHT",
    "10NUMBER SIGN;10AMPERSAND;10ASTERISK;10PLUS SIGN;10HYPHEN-MINUS;10LESS-THAN SIGN",
    "11GREATER-THAN;11EQUALS;;10REVERSE SOLIDUS;10DOLLAR SIGN;11PERCENT;10COMMERCIAL AT;;;;",
    "00ARABIC FATHATAN ISOLATED FORM;10TATWEEL WITH FATHATAN ABOVE;10DAMMATAN ISOLATED FORM",
    "10TAIL FRAGMENT;10KASRATAN ISOLATED FORM;;12FATHA;21MEDIAL;11DAMMA ISOLATED;21MEDIAL",
    "11KASRA ISOLATED;21MEDIAL;11SHADDA ISOLATED;21MEDIAL;11SUKUN ISOLATED;21MEDIAL",
    "11LETTER HAMZA ISOLATED;22ALEF WITH MADDA ABOVE;61FINAL;41HAMZA ABOVE ISOLATED;61FINAL",
    "21WAW WITH HAMZA ABOVE ISOLATED;61FINAL;21ALEF WITH HAMZA BELOW ISOLATED;61FINAL",
    "21YEH WITH HAMZA ABOVE ISOLATED;61FINAL;61INITIAL;61MEDIAL;21ALEF ISOLATED;31FINAL",
    "21BEH ISOLATED;31FINAL;31INITIAL;31MEDIAL;21TEH MARBUTA ISOLATED;41FINAL;31ISOLATED",
    "31FINAL;31INITIAL;31MEDIAL;21THEH ISOLATED;31FINAL;31INITIAL;31MEDIAL;21JEEM ISOLATED",
    "31FINAL;31INITIAL;31MEDIAL;21HAH ISOLATED;31FINAL;31INITIAL;31MEDIAL;21KHAH ISOLATED",
    "31FINAL;31INITIAL;31MEDIAL;21DAL ISOLATED;31FINAL;21THAL ISOLATED;31FINAL;21REH ISOLATED",
    "31FINAL;21ZAIN ISOLATED;31FINAL;21SEEN ISOLATED;31FINAL;31INITIAL;31MEDIAL",
    "21SHEEN ISOLATED;31FINAL;31INITIAL;31MEDIAL;21SAD ISOLATED;31FINAL;31INITIAL;31MEDIAL",
    "21DAD ISOLATED;31FINAL;31INITIAL;31MEDIAL;21TAH ISOLATED;31FINAL;31INITIAL;31MEDIAL",
    "21ZAH ISOLATED;31FINAL;31INITIAL;31MEDIAL;21AIN ISOLATED;31FINAL;31INITIAL;31MEDIAL",
    "21GHAIN ISOLATED;31FINAL;31INITIAL;31MEDIAL;21FEH ISOLATED;31FINAL;31INITIAL;31MEDIAL",
    "21QAF ISOLATED;31FINAL;31INITIAL;31MEDIAL;21KAF ISOLATED;31FINAL;31INITIAL;31MEDIAL",
    "21LAM ISOLATED;31FINAL;31INITIAL;31MEDIAL;21MEEM ISOLATED;31FINAL;31INITIAL;31MEDIAL",
    "21NOON ISOLATED;31FINAL;31INITIAL;31MEDIAL;21HEH ISOLATED;31FINAL;31INITIAL;31MEDIAL",
    "21WAW ISOLATED;31FINAL;21ALEF MAKSURA ISOLATED;41FINAL;21YEH ISOLATED;31FINAL;31INITIAL",
    "31MEDIAL;11LIGATURE LAM WITH ALEF WITH MADDA ABOVE ISOLATED;81FINAL;61HAMZA ABOVE ISOLATED",
    "81FINAL;71BELOW ISOLATED;81FINAL;51ISOLATED;51FINAL;;;00ZERO WIDTH NO-BREAK SPACE;",
    "00FULLWIDTH EXCLAMATION MARK;11QUOTATION;10NUMBER SIGN;11DOLLAR;11PERCENT;10AMPERSAND",
    "10APOSTROPHE;10LEFT PARENTHESIS;11RIGHT;10ASTERISK;10PLUS SIGN;10COMMA;10HYPHEN-MINUS",
    "10FULL STOP;10SOLIDUS;10DIGIT ZERO;20ONE;20TWO;20THREE;20FOUR;20FIVE;20SIX;20SEVEN;20EIGHT",
    "20NINE;10COLON;10SEMICOLON;10LESS-THAN SIGN;11EQUALS;11GREATER-THAN;10QUESTION MARK",
    "10COMMERCIAL AT;10LATIN CAPITAL LETTER A;40B;40C;40D;40E;40F;40G;40H;40I;40J;40K;40L;40M",
    "40N;40O;40P;40Q;40R;40S;40T;40U;40V;40W;40X;40Y;40Z;10LEFT SQUARE BRACKET",
    "10REVERSE SOLIDUS;10RIGHT SQUARE BRACKET;10CIRCUMFLEX ACCENT;10LOW LINE;10GRAVE ACCENT",
    "10LATIN SMALL LETTER A;40B;40C;40D;40E;40F;40G;40H;40I;40J;40K;40L;40M;40N;40O;40P;40Q;40R",
    "40S;40T;40U;40V;40W;40X;40Y;40Z;10LEFT CURLY BRACKET;10VERTICAL LINE;10RIGHT CURLY BRACKET",
    "10TILDE;10LEFT WHITE PARENTHESIS;12RIGHT;00HALFWIDTH IDEOGRAPHIC FULL STOP",
    "10LEFT CORNER BRACKET;12RIGHT;10IDEOGRAPHIC COMMA;10KATAKANA MIDDLE DOT;20LETTER WO",
    "30SMALL A;40I;40U;40E;40O;40YA;40YU;40YO;40TU;10KATAKANA-HIRAGANA PROLONGED SOUND MARK",
    "10KATAKANA LETTER A;30I;30U;30E;30O;30KA;30KI;30KU;30KE;30KO;30SA;30SI;30SU;30SE;30SO;30TA",
    "30TI;30TU;30TE;30TO;30NA;30NI;30NU;30NE;30NO;30HA;30HI;30HU;30HE;30HO;30MA;30MI;30MU;30ME",
    "30MO;30YA;30YU;30YO;30RA;30RI;30RU;30RE;30RO;30WA;30N;20VOICED SOUND MARK;22SEMI-VOICED",
    "10HANGUL FILLER;20LETTER KIYEOK;30SSANGKIYEOK;30KIYEOK-SIOS;30NIEUN;30NIEUN-CIEUC",
    "30NIEUN-HIEUH;30TIKEUT;30SSANGTIKEUT;30RIEUL;30RIEUL-KIYEOK;30RIEUL-MIEUM;30RIEUL-PIEUP",
    "30RIEUL-SIOS;30RIEUL-THIEUTH;30RIEUL-PHIEUPH;30RIEUL-HIEUH;30MIEUM;30PIEUP;30SSANGPIEUP",
    "30PIEUP-SIOS;30SIOS;30SSANGSIOS;30IEUNG;30CIEUC;30SSANGCIEUC;30CHIEUCH;30KHIEUKH;30THIEUTH",
    "30PHIEUPH;30HIEUH;;;;30A;30AE;30YA;30YAE;30EO;30E;;;30YEO;30YE;30O;30WA;30WAE;30OE;;;30YO",
    "30U;30WEO;30WE;30WI;30YU;;;30EU;30YI;30I;;;;00FULLWIDTH CENT SIGN;11POUND;11NOT;10MACRON",
    "10BROKEN BAR;10YEN SIGN;11WON;;00HALFWIDTH FORMS LIGHT VERTICAL;10LEFTWARDS ARROW",
    "11UPWARDS;11RIGHTWARDS;11DOWNWARDS;10BLACK SQUARE;10WHITE CIRCLE;;;;;;;;;;",
    "00INTERLINEAR ANNOTATION ANCHOR;20SEPARATOR;20TERMINATOR;00OBJECT REPLACEMENT CHARACTER;02",
    ";;00LINEAR B SYLLABLE B008 A;30B038 E;30B028 I;30B061 O;30B010 U;30B001 DA;30B045 DE",
    "30B007 DI;30B014 DO;30B051 DU;30B057 JA;30B046 JE;;30B036 JO;30B065 JU;30B077 KA;30B044 KE",
    "30B067 KI;30B070 KO;30B081 KU;30B080 MA;30B013 ME;30B073 MI;30B015 MO;30B023 MU;30B006 NA",
    "30B024 NE;30B030 NI;30B052 NO;30B055 NU;30B003 PA;30B072 PE;30B039 PI;30B011 PO;30B050 PU",
    "30B016 QA;30B078 QE;30B021 QI;30B032 QO;;30B060 RA;30B027 RE;30B053 RI;30B002 RO;30B026 RU",
    "30B031 SA;30B009 SE;30B041 SI;30B012 SO;30B058 SU;30B059 TA;30B004 TE;30B037 TI;30B005 TO",
    "30B069 TU;30B054 WA;30B075 WE;30B040 WI;30B042 WO;;30B017 ZA;30B074 ZE;;30B020 ZO",
    "30B025 A2;30B043 A3;30B085 AU;30B071 DWE;30B090 DWO;30B048 NWA;30B029 PU2;30B062 PTE",
    "30B076 RA2;30B033 RA3;30B068 RO2;30B066 TA2;30B087 TWE;30B091 TWO;;;20SYMBOL B018;30B019",
    "30B022;30B034;30B047;30B049;30B056;30B063;30B064;30B079;30B082;30B083;30B086;30B089"]⟩]

end QuerySchema.Text.CharacterName
