import QuerySchema.Text.CharacterName.Run

/-!
Names of the characters from U+10080 on.
-/

namespace QuerySchema.Text.CharacterName

/-- The names from U+10080 on. -/
def namesFrom10080 : List NameRun :=
  [⟨0x10080, [
    "00LINEAR B IDEOGRAM B100 MAN;30B102 WOMAN;30B104 DEER;30B105 EQUID;30B105F MARE",
    "30B105M STALLION;30B106F EWE;30B106M RAM;30B107F SHE-GOAT;30B107M HE-GOAT;30B108F SOW",
    "30B108M BOAR;30B109F COW;30B109M BULL;30B120 WHEAT;30B121 BARLEY;30B122 OLIVE;30B123 SPICE",
    "30B125 CYPERUS;20MONOGRAM B127 KAPO;30B128 KANAKO;20IDEOGRAM B130 OIL;30B131 WINE;30B132",
    "20MONOGRAM B133 AREPA;30B135 MERI;20IDEOGRAM B140 BRONZE;30B141 GOLD;30B142;30B145 WOOL",
    "30B146;30B150;30B151 HORN;30B152;30B153;30B154;20MONOGRAM B156 TURO2;20IDEOGRAM B157",
    "30B158;30B159 CLOTH;30B160;30B161;30B162 GARMENT;30B163 ARMOUR;30B164;30B165;30B166;30B167",
    "30B168;30B169;30B170;30B171;30B172;30B173 MONTH;30B174;30B176 TREE;30B177;30B178;30B179",
    "30B180;30B181;30B182;30B183;30B184;30B185;30B189;30B190;30B191 HELMET;30B220 FOOTSTOOL",
    "30B225 BATHTUB;30B230 SPEAR;30B231 ARROW;30B232;30B233 SWORD;30B234;30B236",
    "30B240 WHEELED CHARIOT;31B241;30B242 CHARIOT FRAME;30B243 WHEEL;30B245;30B246",
    "20MONOGRAM B247 DIPTE;20IDEOGRAM B248;30B249;30B251;30B252;30B253;30B254 DART;30B255",
    "30B256;30B257;30B258;30B259;30VESSEL B155;40B200;40B201;40B202;40B203;40B204;40B205;40B206",
    "40B207;40B208;40B209;40B210;40B211;40B212;40B213;40B214;40B215;40B216;40B217;40B218;40B219",
    "40B221;40B222;40B226;40B227;40B228;40B229;40B250;40B305;;;;;;00AEGEAN WORD SEPARATOR LINE",
    "30DOT;10CHECK MARK;;;;;10NUMBER ONE;20TWO;20THREE;20FOUR;20FIVE;20SIX;20SEVEN;20EIGHT",
    "20NINE;20TEN;20TWENTY;20THIRTY;20FORTY;20FIFTY;20SIXTY;20SEVENTY;20EIGHTY;20NINETY",
    "20ONE HUNDRED;21TWO;21THREE;21FOUR;21FIVE;21SIX;21SEVEN;21EIGHT;21NINE;20ONE THOUSAND",
    "21TWO;21THREE;21FOUR;21FIVE;21SIX;21SEVEN;21EIGHT;21NINE;21TEN;21TWENTY;21THIRTY;21FORTY",
    "21FIFTY;21SIXTY;21SEVENTY;21EIGHTY;21NINETY;;;;10WEIGHT BASE UNIT;20FIRST SUBUNIT;21SECOND",
    "21THIRD;21FOURTH;11DRY MEASURE FIRST;13LIQUID;11MEASURE SECOND;21THIRD",
    "00GREEK ACROPHONIC ATTIC ONE QUARTER;40HALF;40DRACHMA;30FIVE;30FIFTY;30FIVE HUNDRED",
    "40THOUSAND;31FIFTY;30FIVE TALENTS;31TEN;31FIFTY;31ONE HUNDRED;32FIVE;31ONE THOUSAND;32FIVE",
    "40STATERS;31TEN;31FIFTY;31ONE HUNDRED;32FIVE;31ONE THOUSAND;32TEN;32FIFTY;30TEN MNAS",
    "20HERAEUM ONE PLETHRON;20THESPIAN ONE;21HERMIONIAN;20EPIDAUREAN TWO;21THESPIAN",
    "20CYRENAIC TWO DRACHMAS;22EPIDAUREAN;20TROEZENIAN FIVE;30TEN;40ALTERNATE FORM",
    "20HERMIONIAN TEN;21MESSENIAN;21THESPIAN;30THIRTY;20TROEZENIAN FIFTY;40ALTERNATE FORM",
    "20HERMIONIAN FIFTY;21THESPIAN;30ONE HUNDRED;31THREE;21EPIDAUREAN FIVE;22TROEZENIAN",
    "22THESPIAN;22CARYSTIAN;22NAXIAN;20THESPIAN ONE THOUSAND;31FIVE;20DELPHIC FIVE MNAS",
    "21STRATIAN FIFTY;10ONE HALF SIGN;40ALTERNATE FORM;10TWO THIRDS SIGN;11THREE QUARTERS",
    "11YEAR;11TALENT;11DRACHMA;11OBOL;11TWO OBOLS;12THREE;12FOUR;12FIVE;11METRETES",
    "11KYATHOS BASE;11LITRA;11OUNKIA;11XESTES;11ARTABE;11AROURA;11GRAMMA;11TRYBLION BASE;11ZERO",
    "11ONE QUARTER;11SINUSOID;11INDICTION;01NOMISMA;;01ROMAN SEXTANS;11UNCIA;11SEMUNCIA",
    "11SEXTULA;12DIMIDIA;11SILIQUA;11DENARIUS;11QUINARIUS;11SESTERTIUS;11DUPONDIUS;11AS",
    "11CENTURIAL;00ASCIA SYMBOL;;;;00GREEK SYMBOL TAU RHO"]⟩,
    ⟨0x101D0, [
    "00PHAISTOS DISC SIGN PEDESTRIAN;30PLUMED HEAD;31TATTOOED;30CAPTIVE;30CHILD;30WOMAN",
    "30HELMET;30GAUNTLET;30TIARA;30ARROW;30BOW;30SHIELD;30CLUB;30MANACLES;30MATTOCK;30SAW;30LID",
    "30BOOMERANG;30CARPENTRY PLANE;30DOLIUM;30COMB;30SLING;30COLUMN;30BEEHIVE;30SHIP;30HORN",
    "30HIDE;30BULLS LEG;30CAT;30RAM;30EAGLE;30DOVE;30TUNNY;30BEE;30PLANE TREE;30VINE;30PAPYRUS",
    "30ROSETTE;30LILY;30OX BACK;30FLUTE;30GRATER;30STRAINER;30SMALL AXE;30WAVY BAND",
    "30COMBINING OBLIQUE STROKE"]⟩,
    ⟨0x10280, [
    "00LYCIAN LETTER A;20E;20B;20BH;20G;20D;20I;20W;20Z;20TH;20J;20K;20Q;20L;20M;20N;20MM;20NN",
    "20U;20P;20KK;20R;20S;20T;20TT;20AN;20EN;20H;20X;;;;00CARIAN LETTER A;20P2;20D;20L;20UUU",
    "20R;20LD;20A2;20Q;20B;20M;20O;20D2;20T;20SH;20SH2;20S;20C-18;20U;20NN;20X;20N;20TT2;20P",
    "20SS;20I;20E;20UUUU;20K;20K2;20ND;20UU;20G;20G2;20ST;20ST2;20NG;20II;20C-39;20TT;20UUU2",
    "20RR;20MB;20MB2;20MB3;20MB4;20LD2;20E2;20UUU3;;;;;;;;;;;;;;;;00COPTIC EPACT THOUSANDS MARK",
    "20DIGIT ONE;30TWO;30THREE;30FOUR;30FIVE;30SIX;30SEVEN;30EIGHT;30NINE;20NUMBER TEN;30TWENTY",
    "30THIRTY;30FORTY;30FIFTY;30SIXTY;30SEVENTY;30EIGHTY;30NINETY;30ONE HUNDRED;31TWO;31THREE",
    "31FOUR;31FIVE;31SIX;31SEVEN;31EIGHT;31NINE;;;;;00OLD ITALIC LETTER A;30BE;30KE;30DE;30E",
    "30VE;30ZE;30HE;30THE;30I;30KA;30EL;30EM;30EN;30ESH;30O;30PE;30SHE;30KU;30ER;30ES;30TE;30U",
    "30EKS;30PHE;30KHE;30EF;30ERS;30CHE;30II;30UU;30ESS;20NUMERAL ONE;30FIVE;30TEN;30FIFTY;;;;;",
    ";;;;20LETTER YE;30NORTHERN TSE;31SOUTHERN;00GOTHIC LETTER AHSA;20BAIRKAN;20GIBA;20DAGS",
    "20AIHVUS;20QAIRTHRA;20IUJA;20HAGL;20THIUTH;20EIS;20KUSMA;20LAGUS;20MANNA;20NAUTHS;20JER",
    "20URUS;20PAIRTHRA;20NINETY;20RAIDA;20SAUIL;20TEIWS;20WINJA;20FAIHU;20IGGWS;20HWAIR;20OTHAL",
    "20NINE HUNDRED;;;;;;00OLD PERMIC LETTER AN;30BUR;30GAI;30DOI;30E;30ZHOI;30DZHOI;30ZATA",
    "30DZITA;30I;30KOKE;30LEI;30MENOE;30NENOE;30VOOI;30PEEI;30REI;30SII;30TAI;30U;30CHERY",
    "30SHOOI;30SHCHOOI;30YRY;30YERU;30O;30OO;30EF;30HA;30TSIU;30VER;30YER;30YERI;30YAT;30IE",
    "30YU;30YA;30IA;00COMBINING OLD PERMIC LETTER AN;40DOI;40ZATA;40NENOE;40SII;;;;;",
    "00UGARITIC LETTER ALPA;20BETA;20GAMLA;20KHA;20DELTA;20HO;20WO;20ZETA;20HOTA;20TET;20YOD",
    "20KAF;20SHIN;20LAMDA;20MEM;20DHAL;20NUN;20ZU;20SAMKA;20AIN;20PU;20SADE;20QOPA;20RASHA",
    "20THANNA;20GHAIN;20TO;20I;20U;20SSU;;10WORD DIVIDER;00OLD PERSIAN SIGN A;30I;30U;30KA;30KU",
    "30GA;30GU;30XA;30CA;30JA;30JI;30TA;30TU;30DA;30DI;30DU;30THA;30PA;30BA;30FA;30NA;30NU;30MA",
    "30MI;30MU;30YA;30VA;30VI;30RA;30RU;30LA;30SA;30ZA;30SHA;30SSA;30HA;;;;;30AURAMAZDAA",
    "30AURAMAZDAA-2;30AURAMAZDAAHA;30XSHAAYATHIYA;30DAHYAAUSH;30DAHYAAUSH-2;30BAGA;30BUUMISH",
    "20WORD DIVIDER;20NUMBER ONE;30TWO;30TEN;30TWENTY;30HUNDRED"]⟩,
    ⟨0x10400, [
    "00DESERET CAPITAL LETTER LONG I;40E;40A;40AH;40O;40OO;30SHORT I;40E;40A;40AH;40O;40OO;30AY",
    "30OW;30WU;30YEE;30H;30PEE;30BEE;30TEE;30DEE;30CHEE;30JEE;30KAY;30GAY;30EF;30VEE;30ETH",
    "30THEE;30ES;30ZEE;30ESH;30ZHEE;30ER;30EL;30EM;30EN;30ENG;30OI;30EW;10SMALL LETTER LONG I",
    "40E;40A;40AH;40O;40OO;30SHORT I;40E;40A;40AH;40O;40OO;30AY;30OW;30WU;30YEE;30H;30PEE;30BEE",
    "30TEE;30DEE;30CHEE;30JEE;30KAY;30GAY;30EF;30VEE;30ETH;30THEE;30ES;30ZEE;30ESH;30ZHEE;30ER",
    "30EL;30EM;30EN;30ENG;30OI;30EW;00SHAVIAN LETTER PEEP;20TOT;20KICK;20FEE;20THIGH;20SO",
    "20SURE;20CHURCH;20YEA;20HUNG;20BIB;20DEAD;20GAG;20VOW;20THEY;20ZOO;20MEASURE;20JUDGE;20WOE",
    "20HA-HA;20LOLL;20MIME;20IF;20EGG;20ASH;20ADO;20ON;20WOOL;20OUT;20AH;20ROAR;20NUN;20EAT",
    "20AGE;20ICE;20UP;20OAK;20OOZE;20OIL;20AWE;20ARE;20OR;20AIR;20ERR;20ARRAY;20EAR;20IAN;20YEW",
    "00OSMANYA LETTER ALEF;20BA;20TA;20JA;20XA;20KHA;20DEEL;20RA;20SA;20SHIIN;20DHA;20CAYN;20GA",
    "20FA;20QAAF;20KAAF;20LAAN;20MIIN;20NUUN;20WAW;20HA;20YA;20A;20E;20I;20O;20U;20AA;20EE;20OO",
    ";;10DIGIT ZERO;20ONE;20TWO;20THREE;20FOUR;20FIVE;20SIX;20SEVEN;20EIGHT;20NINE;;;;;;",
    "00OSAGE CAPITAL LETTER A;30AI;30AIN;30AH;30BRA;30CHA;30EHCHA;30E;30EIN;30HA;30HYA;30I;30KA",
    "30EHKA;30KYA;30LA;30MA;30NA;30O;30OIN;30PA;30EHPA;30SA;30SHA;30TA;30EHTA;30TSA;30EHTSA",
    "30TSHA;30DHA;30U;30WA;30KHA;30GHA;30ZA;30ZHA;;;;;10SMALL LETTER A;30AI;30AIN;30AH;30BRA",
    "30CHA;30EHCHA;30E;30EIN;30HA;30HYA;30I;30KA;30EHKA;30KYA;30LA;30MA;30NA;30O;30OIN;30PA",
    "30EHPA;30SA;30SHA;30TA;30EHTA;30TSA;30EHTSA;30TSHA;30DHA;30U;30WA;30KHA;30GHA;30ZA;30ZHA;;",
    ";;00ELBASAN LETTER A;20BE;20CE;20CHE;20DE;20NDE;20DHE;20EI;20E;20FE;20GE;20GJE;20HE;20I",
    "20JE;20KE;20LE;20LLE;20ME;20NE;20NA;20NJE;20O;20PE;20QE;20RE;20RRE;20SE;20SHE;20TE;20THE",
    "20U;20VE;20XE;20Y;20ZE;20ZHE;20GHE;20GHAMMA;20KHE;;;;;;;;;00CAUCASIAN ALBANIAN LETTER ALT",
    "30BET;30GIM;30DAT;30EB;30ZARL;30EYN;30ZHIL;30TAS;30CHA;30YOWD;30ZHA;30IRB;30SHA;30LAN",
    "30INYA;30XEYN;30DYAN;30CAR;30JHOX;30KAR;30LYIT;30HEYT;30QAY;30AOR;30CHOY;30CHI;30CYAY",
    "30MAQ;30QAR;30NOWC;30DZYAY;30SHAK;30JAYN;30ON;30TYAY;30FAM;30DZAY;30CHAT;30PEN;30GHEYS",
    "30RAT;30SEYK;30VEYZ;30TIWR;30SHOY;30IWN;30CYAW;30CAYN;30YAYD;30PIWR;30KIW;;;;;;;;;;;",
    "20CITATION MARK;00VITHKUQI CAPITAL LETTER A;30BBE;30BE;30CE;30CHE;30DE;30DHE;30EI;30E;30FE",
    "30GA;;30HA;30HHA;30I;30IJE;30JE;30KA;30LA;30LLA;30ME;30NE;30NJE;30O;30PE;30QA;30RE;;30SE",
    "30SHE;30TE;30THE;30U;30VE;30XE;;30Y;30ZE;;10SMALL LETTER A;30BBE;30BE;30CE;30CHE;30DE",
    "30DHE;30EI;30E;30FE;30GA;;30HA;30HHA;30I;30IJE;30JE;30KA;30LA;30LLA;30ME;30NE;30NJE;30O",
    "30PE;30QA;30RE;;30SE;30SHE;30TE;30THE;30U;30VE;30XE;;30Y;30ZE"]⟩,
    ⟨0x10600, [
    "00LINEAR A SIGN AB001;30AB002;30AB003;30AB004;30AB005;30AB006;30AB007;30AB008;30AB009",
    "30AB010;30AB011;30AB013;30AB016;30AB017;30AB020;30AB021;30AB021F;30AB021M;30AB022;30AB022F",
    "30AB022M;30AB023;30AB023M;30AB024;30AB026;30AB027;30AB028;30A028B;30AB029;30AB030;30AB031",
    "30AB034;30AB037;30AB038;30AB039;30AB040;30AB041;30AB044;30AB045;30AB046;30AB047;30AB048",
    "30AB049;30AB050;30AB051;30AB053;30AB054;30AB055;30AB056;30AB057;30AB058;30AB059;30AB060",
    "30AB061;30AB065;30AB066;30AB067;30AB069;30AB070;30AB073;30AB074;30AB076;30AB077;30AB078",
    "30AB079;30AB080;30AB081;30AB082;30AB085;30AB086;30AB087;30A100-102;30AB118;30AB120;30A120B",
    "30AB122;30AB123;30AB131A;30AB131B;30A131C;30AB164;30AB171;30AB180;30AB188;30AB191;30A301",
    "30A302;30A303;30A304;30A305;30A306;30A307;30A308;30A309A;30A309B;30A309C;30A310;30A311",
    "30A312;30A313A;30A313B;30A313C;30A314;30A315;30A316;30A317;30A318;30A319;30A320;30A321",
    "30A322;30A323;30A324;30A325;30A326;30A327;30A328;30A329;30A330;30A331;30A332;30A333;30A334",
    "30A335;30A336;30A337;30A338;30A339;30A340;30A341;30A342;30A343;30A344;30A345;30A346;30A347",
    "30A348;30A349;30A350;30A351;30A352;30A353;30A354;30A355;30A356;30A357;30A358;30A359;30A360",
    "30A361;30A362;30A363;30A364;30A365;30A366;30A367;30A368;30A369;30A370;30A371;30A400-VAS",
    "30A401-VAS;30A402-VAS;30A403-VAS;30A404-VAS;30A405-VAS;30A406-VAS;30A407-VAS;30A408-VAS",
    "30A409-VAS;30A410-VAS;30A411-VAS;30A412-VAS;30A413-VAS;30A414-VAS;30A415-VAS;30A416-VAS",
    "30A417-VAS;30A418-VAS;30A501;30A502;30A503;30A504;30A505;30A506;30A508;30A509;30A510",
    "30A511;30A512;30A513;30A515;30A516;30A520;30A521;30A523;30A524;30A525;30A526;30A527;30A528",
    "30A529;30A530;30A531;30A532;30A534;30A535;30A536;30A537;30A538;30A539;30A540;30A541;30A542",
    "30A545;30A547;30A548;30A549;30A550;30A551;30A552;30A553;30A554;30A555;30A556;30A557;30A559",
    "30A563;30A564;30A565;30A566;30A568;30A569;30A570;30A571;30A572;30A573;30A574;30A575;30A576",
    "30A577;30A578;30A579;30A580;30A581;30A582;30A583;30A584;30A585;30A586;30A587;30A588;30A589",
    "30A591;30A592;30A594;30A595;30A596;30A598;30A600;30A601;30A602;30A603;30A604;30A606;30A608",
    "30A609;30A610;30A611;30A612;30A613;30A614;30A615;30A616;30A617;30A618;30A619;30A620;30A621",
    "30A622;30A623;30A624;30A626;30A627;30A628;30A629;30A634;30A637;30A638;30A640;30A642;30A643",
    "30A644;30A645;30A646;30A648;30A649;30A651;30A652;30A653;30A654;30A655;30A656;30A657;30A658",
    "30A659;30A660;30A661;30A662;30A663;30A664;;;;;;;;;;30A701 A;30A702 B;30A703 D;30A704 E",
    "30A705 F;30A706 H;30A707 J;30A708 K;30A709 L;30A709-2 L2;30A709-3 L3;30A709-4 L4",
    "30A709-6 L6;30A710 W;30A711 X;30A712 Y;30A713 OMEGA;30A714 ABB;30A715 BB;30A717 DD",
    "30A726 EYYY;30A732 JE;;;;;;;;;;;30A800;30A801;30A802;30A803;30A804;30A805;30A806;30A807"]⟩,
    ⟨0x10780, [
    "00MODIFIER LETTER SMALL CAPITAL AA;20SUPERSCRIPT TRIANGULAR COLON;32HALF;20SMALL AE",
    "30CAPITAL B;30B WITH HOOK;;30DZ DIGRAPH;50WITH RETROFLEX HOOK;60CURL;30DEZH DIGRAPH",
    "30D WITH TAIL;50HOOK;60AND TAIL;30REVERSED E;31CLOSED REVERSED OPEN;30FENG DIGRAPH",
    "30RAMS HORN;30CAPITAL G;30G WITH HOOK;33CAPITAL;30H WITH STROKE;30CAPITAL H",
    "30HENG WITH HOOK;31DOTLESS J WITH STROKE AND;30LS DIGRAPH;31LZ;30L WITH BELT;33CAPITAL",
    "31L WITH RETROFLEX HOOK AND;30LEZH;40WITH RETROFLEX HOOK;30TURNED Y;50WITH BELT",
    "30O WITH STROKE;30CAPITAL OE;30CLOSED OMEGA;30Q;30TURNED R WITH LONG LEG",
    "80AND RETROFLEX HOOK;30R WITH TAIL;50FISHHOOK;30CAPITAL R;30TC DIGRAPH WITH CURL",
    "30TS DIGRAPH;50WITH RETROFLEX HOOK;30TESH DIGRAPH;30T WITH RETROFLEX HOOK;31V WITH RIGHT;",
    "30CAPITAL Y;20GLOTTAL STOP WITH STROKE;24REVERSED;20BILABIAL CLICK;21DENTAL;21LATERAL",
    "21ALVEOLAR;20RETROFLEX CLICK WITH RETROFLEX HOOK;20SMALL S WITH CURL"]⟩,
    ⟨0x10800, [
    "00CYPRIOT SYLLABLE A;20E;20I;20O;20U;20JA;;;20JO;;20KA;20KE;20KI;20KO;20KU;20LA;20LE;20LI",
    "20LO;20LU;20MA;20ME;20MI;20MO;20MU;20NA;20NE;20NI;20NO;20NU;20PA;20PE;20PI;20PO;20PU;20RA",
    "20RE;20RI;20RO;20RU;20SA;20SE;20SI;20SO;20SU;20TA;20TE;20TI;20TO;20TU;20WA;20WE;20WI;20WO;",
    "20XA;20XE;;;;20ZA;;;20ZO;00IMPERIAL ARAMAIC LETTER ALEPH;30BETH;30GIMEL;30DALETH;30HE",
    "30WAW;30ZAYIN;30HETH;30TETH;30YODH;30KAPH;30LAMEDH;30MEM;30NUN;30SAMEKH;30AYIN;30PE",
    "30SADHE;30QOPH;30RESH;30SHIN;30TAW;;20SECTION SIGN;20NUMBER ONE;30TWO;30THREE;30TEN",
    "30TWENTY;30ONE HUNDRED;40THOUSAND;31TEN;00PALMYRENE LETTER ALEPH;20BETH;20GIMEL;20DALETH",
    "20HE;20WAW;20ZAYIN;20HETH;20TETH;20YODH;20KAPH;20LAMEDH;20MEM;20FINAL NUN;21;20SAMEKH",
    "20AYIN;20PE;20SADHE;20QOPH;20RESH;20SHIN;20TAW;10LEFT-POINTING FLEURON;11RIGHT-POINTING",
    "10NUMBER ONE;20TWO;20THREE;20FOUR;20FIVE;20TEN;20TWENTY;00NABATAEAN LETTER FINAL ALEPH;21",
    "20FINAL BETH;21;20GIMEL;20DALETH;20FINAL HE;21;20WAW;20ZAYIN;20HETH;20TETH;20FINAL YODH;21",
    "20FINAL KAPH;21;20FINAL LAMEDH;21;20FINAL MEM;21;20FINAL NUN;21;20SAMEKH;20AYIN;20PE",
    "20SADHE;20QOPH;20RESH;20FINAL SHIN;21;20TAW;;;;;;;;;10NUMBER ONE;20TWO;20THREE;20FOUR",
    "12CRUCIFORM;10NUMBER FIVE;20TEN;20TWENTY;20ONE HUNDRED"]⟩,
    ⟨0x108E0, [
    "00HATRAN LETTER ALEPH;20BETH;20GIMEL;20DALETH-RESH;20HE;20WAW;20ZAYN;20HETH;20TETH;20YODH",
    "20KAPH;20LAMEDH;20MEM;20NUN;20SAMEKH;20AYN;20PE;20SADHE;20QOPH;;20SHIN;20TAW;;;;;",
    "10NUMBER ONE;20FIVE;20TEN;20TWENTY;20ONE HUNDRED;00PHOENICIAN LETTER ALF;20BET;20GAML",
    "20DELT;20HE;20WAU;20ZAI;20HET;20TET;20YOD;20KAF;20LAMD;20MEM;20NUN;20SEMK;20AIN;20PE",
    "20SADE;20QOF;20ROSH;20SHIN;20TAU;10NUMBER ONE;20TEN;20TWENTY;20ONE HUNDRED;20TWO;20THREE;;",
    ";10WORD SEPARATOR;00LYDIAN LETTER A;20B;20G;20D;20E;20V;20I;20Y;20K;20L;20M;20N;20O;20R",
    "20SS;20T;20U;20F;20Q;20S;20TT;20AN;20EN;20LY;20NN;20C;;;;;;10TRIANGULAR MARK"]⟩,
    ⟨0x10980, [
    "00MEROITIC HIEROGLYPHIC LETTER A;30E;30I;30O;30YA;30WA;30BA;30BA-2;30PA;30MA;30NA;30NA-2",
    "30NE;30NE-2;30RA;30RA-2;30LA;30KHA;30HHA;30SA;30SA-2;30SE;30KA;30QA;30TA;30TA-2;30TE",
    "30TE-2;30TO;30DA;20SYMBOL VIDJ;30VIDJ-2;10CURSIVE LETTER A;30E;30I;30O;30YA;30WA;30BA;30PA",
    "30MA;30NA;30NE;30RA;30LA;30KHA;30HHA;30SA;31ARCHAIC;30SE;30KA;30QA;30TA;30TE;30TO;30DA;;;;",
    "20FRACTION ELEVEN TWELFTHS;30ONE HALF;20LOGOGRAM RMT;30IMN;20NUMBER ONE;30TWO;30THREE",
    "30FOUR;30FIVE;30SIX;30SEVEN;30EIGHT;30NINE;30TEN;30TWENTY;30THIRTY;30FORTY;30FIFTY;30SIXTY",
    "30SEVENTY;;;30ONE HUNDRED;31TWO;31THREE;31FOUR;31FIVE;31SIX;31SEVEN;31EIGHT;31NINE",
    "30ONE THOUSAND;31TWO;31THREE;31FOUR;31FIVE;31SIX;31SEVEN;31EIGHT;31NINE;31TEN;31TWENTY",
    "31THIRTY;31FORTY;31FIFTY;31SIXTY;31SEVENTY;31EIGHTY;31NINETY;31ONE HUNDRED;32TWO;32THREE",
    "32FOUR;32FIVE;32SIX;32SEVEN;32EIGHT;32NINE;20FRACTION ONE TWELFTH;30TWO TWELFTHS;31THREE",
    "31FOUR;31FIVE;31SIX;31SEVEN;31EIGHT;31NINE;31TEN;00KHAROSHTHI LETTER A;10VOWEL SIGN I;30U",
    "30VOCALIC R;;30E;30O;;;;;;20LENGTH MARK;10SIGN DOUBLE RING BELOW;20ANUSVARA;20VISARGA",
    "10LETTER KA;20KHA;20GA;20GHA;;20CA;20CHA;20JA;;20NYA;20TTA;20TTHA;20DDA;20DDHA;20NNA;20TA",
    "20THA;20DA;20DHA;20NA;20PA;20PHA;20BA;20BHA;20MA;20YA;20RA;20LA;20VA;20SHA;20SSA;20SA;20ZA",
    "20HA;20KKA;20TTTHA;20TTTA;20VHA;;;10SIGN BAR ABOVE;20CAUDA;20DOT BELOW;;;;;10VIRAMA",
    "10DIGIT ONE;20TWO;20THREE;20FOUR;10NUMBER TEN;20TWENTY;20ONE HUNDRED;30THOUSAND",
    "10FRACTION ONE HALF;;;;;;;;10PUNCTUATION DOT;20SMALL CIRCLE;21;20CRESCENT BAR;20MANGALAM",
    "20LOTUS;20DANDA;21DOUBLE;20LINES;;;;;;;;00OLD SOUTH ARABIAN LETTER HE;40LAMEDH;40HETH",
    "40MEM;40QOPH;40WAW;40SHIN;40RESH;40BETH;40TAW;40SAT;40KAPH;40NUN;40KHETH;40SADHE;40SAMEKH",
    "40FE;40ALEF;40AYN;40DHADHE;40GIMEL;40DALETH;40GHAYN;40TETH;40ZAYN;40DHALETH;40YODH;40THAW",
    "40THETH;30NUMBER ONE;40FIFTY;30NUMERIC INDICATOR;10NORTH ARABIAN LETTER HEH;40LAM;40HAH",
    "40MEEM;40QAF;40WAW;40ES-2;40REH;40BEH;40TEH;40ES-1;40KAF;40NOON;40KHAH;40SAD;40ES-3;40FEH",
    "40ALEF;40AIN;40DAD;40GEEM;40DAL;40GHAIN;40TAH;40ZAIN;40THAL;40YEH;40THEH;40ZAH",
    "30NUMBER ONE;40TEN;40TWENTY"]⟩,
    ⟨0x10AC0, [
    "00MANICHAEAN LETTER ALEPH;20BETH;20BHETH;20GIMEL;20GHIMEL;20DALETH;20HE;20WAW;10SIGN UD",
    "10LETTER ZAYIN;20ZHAYIN;20JAYIN;20JHAYIN;20HETH;20TETH;20YODH;20KAPH;20XAPH;20KHAPH",
    "20LAMEDH;20DHAMEDH;20THAMEDH;20MEM;20NUN;20SAMEKH;20AYIN;20AAYIN;20PE;20FE;20SADHE;20QOPH",
    "20XOPH;20QHOPH;20RESH;20SHIN;20SSHIN;20TAW;10ABBREVIATION MARK ABOVE;30BELOW;;;;",
    "10NUMBER ONE;20FIVE;20TEN;20TWENTY;20ONE HUNDRED;10PUNCTUATION STAR;20FLEURON",
    "20DOUBLE DOT WITHIN DOT;23;30;20TWO DOTS;20LINE FILLER;;;;;;;;;;00AVESTAN LETTER A;20AA",
    "20AO;20AAO;20AN;20AAN;20AE;20AEE;20E;20EE;20O;20OO;20I;20II;20U;20UU;20KE;20XE;20XYE;20XVE",
    "20GE;20GGE;20GHE;20CE;20JE;20TE;20THE;20DE;20DHE;20TTE;20PE;20FE;20BE;20BHE;20NGE;20NGYE",
    "20NGVE;20NE;20NYE;20NNE;20ME;20HME;20YYE;20YE;20VE;20RE;20LE;20SE;20ZE;20SHE;20ZHE;20SHYE",
    "20SSHE;20HE;;;;10ABBREVIATION MARK;00TINY TWO DOTS OVER ONE DOT PUNCTUATION;06SMALL",
    "06LARGE;11ONE DOT OVER TWO DOTS;11TWO RINGS OVER ONE RING;11ONE RING OVER TWO RINGS",
    "00INSCRIPTIONAL PARTHIAN LETTER ALEPH;30BETH;30GIMEL;30DALETH;30HE;30WAW;30ZAYIN;30HETH",
    "30TETH;30YODH;30KAPH;30LAMEDH;30MEM;30NUN;30SAMEKH;30AYIN;30PE;30SADHE;30QOPH;30RESH",
    "30SHIN;30TAW;;;20NUMBER ONE;30TWO;30THREE;30FOUR;30TEN;30TWENTY;30ONE HUNDRED;40THOUSAND",
    "10PAHLAVI LETTER ALEPH;30BETH;30GIMEL;30DALETH;30HE;30WAW-AYIN-RESH;30ZAYIN;30HETH;30TETH",
    "30YODH;30KAPH;30LAMEDH;30MEM-QOPH;30NUN;30SAMEKH;30PE;30SADHE;30SHIN;30TAW;;;;;",
    "20NUMBER ONE;30TWO;30THREE;30FOUR;30TEN;30TWENTY;30ONE HUNDRED;40THOUSAND",
    "00PSALTER PAHLAVI LETTER ALEPH;30BETH;30GIMEL;30DALETH;30HE;30WAW-AYIN-RESH;30ZAYIN;30HETH",
    "30YODH;30KAPH;30LAMEDH;30MEM-QOPH;30NUN;30SAMEKH;30PE;30SADHE;30SHIN;30TAW;;;;;;;",
    "20SECTION MARK;22TURNED;20FOUR DOTS WITH CROSS;50DOT;;;;;;;;;;;;;20NUMBER ONE;30TWO",
    "30THREE;30FOUR;30TEN;30TWENTY;30ONE HUNDRED"]⟩,
    ⟨0x10C00, [
    "00OLD TURKIC LETTER ORKHON A;31YENISEI;40AE;30ORKHON I;31YENISEI;40E;30ORKHON O;40OE",
    "31YENISEI;30ORKHON AB;31YENISEI;30ORKHON AEB;31YENISEI;30ORKHON AG;31YENISEI;30ORKHON AEG",
    "31YENISEI;30ORKHON AD;31YENISEI;30ORKHON AED;40EZ;31YENISEI;30ORKHON AY;31YENISEI",
    "30ORKHON AEY;31YENISEI;30ORKHON AEK;31YENISEI;30ORKHON OEK;31YENISEI;30ORKHON AL;31YENISEI",
    "30ORKHON AEL;40ELT;40EM;40AN;40AEN;31YENISEI;30ORKHON ENT;31YENISEI;30ORKHON ENC;31YENISEI",
    "30ORKHON ENY;31YENISEI;40ANG;30ORKHON ENG;30YENISEI AENG;30ORKHON EP;40OP;40IC;40EC",
    "31YENISEI;30ORKHON AQ;31YENISEI;30ORKHON IQ;31YENISEI;30ORKHON OQ;31YENISEI;30ORKHON AR",
    "31YENISEI;30ORKHON AER;40AS;40AES;40ASH;31YENISEI;30ORKHON ESH;31YENISEI;30ORKHON AT",
    "31YENISEI;30ORKHON AET;31YENISEI;30ORKHON OT;40BASH"]⟩,
    ⟨0x10C80, [
    "00OLD HUNGARIAN CAPITAL LETTER A;40AA;40EB;40AMB;40EC;40ENC;40ECS;40ED;40AND;40E;41CLOSE",
    "40EE;40EF;40EG;40EGY;40EH;40I;40II;40EJ;40EK;40AK;40UNK;40EL;40ELY;40EM;40EN;40ENY;40O",
    "40OO;40NIKOLSBURG OE;41RUDIMENTA;40OEE;40EP;40EMP;40ER;41SHORT;40ES;40ESZ;40ET;40ENT;40ETY",
    "40ECH;40U;40UU;40NIKOLSBURG UE;41RUDIMENTA;40EV;40EZ;40EZS;40ENT-SHAPED SIGN;40US;;;;;;;;;",
    ";;;;20SMALL LETTER A;40AA;40EB;40AMB;40EC;40ENC;40ECS;40ED;40AND;40E;41CLOSE;40EE;40EF",
    "40EG;40EGY;40EH;40I;40II;40EJ;40EK;40AK;40UNK;40EL;40ELY;40EM;40EN;40ENY;40O;40OO",
    "40NIKOLSBURG OE;41RUDIMENTA;40OEE;40EP;40EMP;40ER;41SHORT;40ES;40ESZ;40ET;40ENT;40ETY",
    "40ECH;40U;40UU;40NIKOLSBURG UE;41RUDIMENTA;40EV;40EZ;40EZS;40ENT-SHAPED SIGN;40US;;;;;;;",
    "20NUMBER ONE;30FIVE;30TEN;30FIFTY;30ONE HUNDRED;40THOUSAND;00HANIFI ROHINGYA LETTER A;30BA",
    "30PA;30TA;30TTA;30JA;30CA;30HA;30KHA;30FA;30DA;30DDA;30RA;30RRA;30ZA;30SA;30SHA;30KA;30GA",
    "30LA;30MA;30NA;30WA;31KINNA;30YA;31KINNA;30NGA;30NYA;30VA;20VOWEL A;30I;30U;30E;30O",
    "20MARK SAKIN;30NA KHONNA;20SIGN HARBAHAY;30TAHALA;30TANA;30TASSI;;;;;;;;;20DIGIT ZERO",
    "30ONE;30TWO;30THREE;30FOUR;30FIVE;30SIX;30SEVEN;30EIGHT;30NINE"]⟩,
    ⟨0x10E60, [
    "00RUMI DIGIT ONE;20TWO;20THREE;20FOUR;20FIVE;20SIX;20SEVEN;20EIGHT;20NINE;10NUMBER TEN",
    "20TWENTY;20THIRTY;20FORTY;20FIFTY;20SIXTY;20SEVENTY;20EIGHTY;20NINETY;20ONE HUNDRED;21TWO",
    "21THREE;21FOUR;21FIVE;21SIX;21SEVEN;21EIGHT;21NINE;10FRACTION ONE HALF;30QUARTER;30THIRD",
    "20TWO THIRDS;;00YEZIDI LETTER ELIF;20BE;20PE;20PHE;20THE;20SE;20CIM;20CHIM;20CHHIM;20HHA",
    "20XA;20DAL;20ZAL;20RA;20RHA;20ZA;20JA;20SIN;20SHIN;20SAD;20DAD;20TA;20ZE;20EYN;20XHEYN",
    "20FA;20VA;30ALTERNATE FORM;20QAF;20KAF;20KHAF;20GAF;20LAM;20MIM;20NUN;20UM;20WAW;20OW;20EW",
    "20HAY;20YOT;20ET;;10COMBINING HAMZA MARK;21MADDA;11HYPHENATION;;",
    "10LETTER LAM WITH DOT ABOVE;21YOT WITH CIRCUMFLEX"]⟩,
    ⟨0x10F00, [
    "00OLD SOGDIAN LETTER ALEPH;31FINAL;30BETH;31FINAL;30GIMEL;30HE;31FINAL;30WAW;30ZAYIN",
    "30HETH;30YODH;30KAPH;30LAMEDH;30MEM;30NUN;31FINAL;50WITH VERTICAL TAIL;30SAMEKH;30AYIN",
    "31ALTERNATE;30PE;30SADHE;31FINAL;50WITH VERTICAL TAIL;30RESH-AYIN-DALETH;30SHIN;30TAW",
    "31FINAL;50WITH VERTICAL TAIL;20NUMBER ONE;30TWO;30THREE;30FOUR;30FIVE;30TEN;30TWENTY",
    "30THIRTY;30ONE HUNDRED;20FRACTION ONE HALF;20LIGATURE AYIN-DALETH;;;;;;;;",
    "00SOGDIAN LETTER ALEPH;20BETH;20GIMEL;20HE;20WAW;20ZAYIN;20HETH;20YODH;20KAPH;20LAMEDH",
    "20MEM;20NUN;20SAMEKH;20AYIN;20PE;20SADHE;20RESH-AYIN;20SHIN;20TAW;20FETH;20LESH",
    "10INDEPENDENT SHIN;10COMBINING DOT BELOW;21TWO DOTS;20DOT ABOVE;21TWO DOTS;21CURVE;30BELOW",
    "20HOOK ABOVE;30BELOW;22LONG;21RESH;21STROKE;10NUMBER ONE;20TEN;20TWENTY;20ONE HUNDRED",
    "10PUNCTUATION TWO VERTICAL BARS;50WITH DOTS;20CIRCLE WITH DOT;20TWO CIRCLES WITH DOTS",
    "20HALF CIRCLE WITH DOT;;;;;;;;;;;;;;;;;;;;;;;00OLD UYGHUR LETTER ALEPH;30BETH;30GIMEL-HETH",
    "30WAW;30ZAYIN;30FINAL HETH;30YODH;30KAPH;30LAMEDH;30MEM;30NUN;30SAMEKH;30PE;30SADHE;30RESH",
    "30SHIN;30TAW;30LESH;20COMBINING DOT ABOVE;40BELOW;30TWO DOTS ABOVE;50BELOW",
    "20PUNCTUATION BAR;30TWO BARS;40DOTS;31FOUR"]⟩,
    ⟨0x10FB0, [
    "00CHORASMIAN LETTER ALEPH;21SMALL;20BETH;20GIMEL;20DALETH;20HE;20WAW;21CURLED;20ZAYIN",
    "20HETH;20YODH;20KAPH;20LAMEDH;20MEM;20NUN;20SAMEKH;20AYIN;20PE;20RESH;20SHIN;20TAW",
    "10NUMBER ONE;20TWO;20THREE;20FOUR;20TEN;20TWENTY;20ONE HUNDRED;;;;;;;;;;;;;;;;;;;;",
    "00ELYMAIC LETTER ALEPH;20BETH;20GIMEL;20DALETH;20HE;20WAW;20ZAYIN;20HETH;20TETH;20YODH",
    "20KAPH;20LAMEDH;20MEM;20NUN;20SAMEKH;20AYIN;20PE;20SADHE;20QOPH;20RESH;20SHIN;20TAW",
    "10LIGATURE ZAYIN-YODH;;;;;;;;;;00BRAHMI SIGN CANDRABINDU;20ANUSVARA;20VISARGA",
    "20JIHVAMULIYA;20UPADHMANIYA;10LETTER A;20AA;20I;20II;20U;20UU;20VOCALIC R;30RR;30L;30LL",
    "20E;20AI;20O;20AU;20KA;20KHA;20GA;20GHA;20NGA;20CA;20CHA;20JA;20JHA;20NYA;20TTA;20TTHA",
    "20DDA;20DDHA;20NNA;20TA;20THA;20DA;20DHA;20NA;20PA;20PHA;20BA;20BHA;20MA;20YA;20RA;20LA",
    "20VA;20SHA;20SSA;20SA;20HA;20LLA;20OLD TAMIL LLLA;40RRA;40NNNA;10VOWEL SIGN AA",
    "31BHATTIPROLU;30I;30II;30U;30UU;30VOCALIC R;40RR;40L;40LL;30E;30AI;30O;30AU;10VIRAMA",
    "10DANDA;11DOUBLE;10PUNCTUATION DOT;21DOUBLE;20LINE;20CRESCENT BAR;20LOTUS;;;;;10NUMBER ONE",
    "20TWO;20THREE;20FOUR;20FIVE;20SIX;20SEVEN;20EIGHT;20NINE;20TEN;20TWENTY;20THIRTY;20FORTY",
    "20FIFTY;20SIXTY;20SEVENTY;20EIGHTY;20NINETY;20ONE HUNDRED;30THOUSAND;10DIGIT ZERO;20ONE",
    "20TWO;20THREE;20FOUR;20FIVE;20SIX;20SEVEN;20EIGHT;20NINE;10SIGN OLD TAMIL VIRAMA",
    "10LETTER OLD TAMIL SHORT E;50O;10VOWEL SIGN OLD TAMIL SHORT E;60O;10LETTER OLD TAMIL LLA;;",
    ";;;;;;;10NUMBER JOINER;00KAITHI SIGN CANDRABINDU;20ANUSVARA;20VISARGA;10LETTER A;20AA;20I",
    "20II;20U;20UU;20E;20AI;20O;20AU;20KA;20KHA;20GA;20GHA;20NGA;20CA;20CHA;20JA;20JHA;20NYA",
    "20TTA;20TTHA;20DDA;20DDDHA;20DDHA;20RHA;20NNA;20TA;20THA;20DA;20DHA;20NA;20PA;20PHA;20BA",
    "20BHA;20MA;20YA;20RA;20LA;20VA;20SHA;20SSA;20SA;20HA;10VOWEL SIGN AA;30I;30II;30U;30UU;30E",
    "30AI;30O;30AU;10SIGN VIRAMA;20NUKTA;10ABBREVIATION SIGN;11ENUMERATION;11NUMBER",
    "10SECTION MARK;12DOUBLE;10DANDA;11DOUBLE;10VOWEL SIGN VOCALIC R;;;;;;;;;;",
    "10NUMBER SIGN ABOVE;;;00SORA SOMPENG LETTER SAH;30TAH;30BAH;30CAH;30DAH;30GAH;30MAH;30NGAH",
    "30LAH;30NAH;30VAH;30PAH;30YAH;30RAH;30HAH;30KAH;30JAH;30NYAH;30AH;30EEH;30IH;30UH;30OH",
    "30EH;30MAE;;;;;;;;20DIGIT ZERO;30ONE;30TWO;30THREE;30FOUR;30FIVE;30SIX;30SEVEN;30EIGHT",
    "30NINE;;;;;;;00CHAKMA SIGN CANDRABINDU;20ANUSVARA;20VISARGA;10LETTER AA;20I;20U;20E;20KAA",
    "20KHAA;20GAA;20GHAA;20NGAA;20CAA;20CHAA;20JAA;20JHAA;20NYAA;20TTAA;20TTHAA;20DDAA;20DDHAA",
    "20NNAA;20TAA;20THAA;20DAA;20DHAA;20NAA;20PAA;20PHAA;20BAA;20BHAA;20MAA;20YYAA;20YAA;20RAA",
    "20LAA;20WAA;20SAA;20HAA;10VOWEL SIGN A;30I;30II;30U;30UU;30E;30AI;30O;30AU;30OI;10O MARK",
    "11AU;10VIRAMA;10MAAYYAA;;10DIGIT ZERO;20ONE;20TWO;20THREE;20FOUR;20FIVE;20SIX;20SEVEN",
    "20EIGHT;20NINE;10SECTION MARK;10DANDA;11DOUBLE;10QUESTION MARK;10LETTER LHAA",
    "10VOWEL SIGN AA;30EI;10LETTER VAA;;;;;;;;;00MAHAJANI LETTER A;20I;20U;20E;20O;20KA;20KHA",
    "20GA;20GHA;20CA;20CHA;20JA;20JHA;20NYA;20TTA;20TTHA;20DDA;20DDHA;20NNA;20TA;20THA;20DA",
    "20DHA;20NA;20PA;20PHA;20BA;20BHA;20MA;20RA;20LA;20VA;20SA;20HA;20RRA;10SIGN NUKTA",
    "10ABBREVIATION SIGN;10SECTION MARK;10LIGATURE SHRI;;;;;;;;;;00SHARADA SIGN CANDRABINDU",
    "20ANUSVARA;20VISARGA;10LETTER A;20AA;20I;20II;20U;20UU;20VOCALIC R;30RR;30L;30LL;20E;20AI",
    "20O;20AU;20KA;20KHA;20GA;20GHA;20NGA;20CA;20CHA;20JA;20JHA;20NYA;20TTA;20TTHA;20DDA;20DDHA",
    "20NNA;20TA;20THA;20DA;20DHA;20NA;20PA;20PHA;20BA;20BHA;20MA;20YA;20RA;20LA;20LLA;20VA",
    "20SHA;20SSA;20SA;20HA;10VOWEL SIGN AA;30I;30II;30U;30UU;30VOCALIC R;40RR;40L;40LL;30E;30AI",
    "30O;30AU;10SIGN VIRAMA;20AVAGRAHA;20JIHVAMULIYA;20UPADHMANIYA;10OM;10DANDA;11DOUBLE",
    "10ABBREVIATION SIGN;10SEPARATOR;10SANDHI MARK;10SIGN NUKTA;10VOWEL MODIFIER MARK",
    "11EXTRA SHORT VOWEL;11SUTRA;10VOWEL SIGN PRISHTHAMATRA E;10SIGN INVERTED CANDRABINDU",
    "10DIGIT ZERO;20ONE;20TWO;20THREE;20FOUR;20FIVE;20SIX;20SEVEN;20EIGHT;20NINE;10EKAM",
    "10SIGN SIDDHAM;10HEADSTROKE;10CONTINUATION SIGN;10SECTION MARK-1;20MARK-2;",
    "00SINHALA ARCHAIC DIGIT ONE;30TWO;30THREE;30FOUR;30FIVE;30SIX;30SEVEN;30EIGHT;30NINE",
    "20NUMBER TEN;30TWENTY;30THIRTY;30FORTY;30FIFTY;30SIXTY;30SEVENTY;30EIGHTY;30NINETY",
    "30ONE HUNDRED;40THOUSAND;;;;;;;;;;;;00KHOJKI LETTER A;20AA;20I;20U;20E;20AI;20O;20AU;20KA",
    "20KHA;20GA;20GGA;20GHA;20NGA;20CA;20CHA;20JA;20JJA;;20NYA;20TTA;20TTHA;20DDA;20DDHA;20NNA",
    "20TA;20THA;20DA;20DDDA;20DHA;20NA;20PA;20PHA;20BA;20BBA;20BHA;20MA;20YA;20RA;20LA;20VA",
    "20SA;20HA;20LLA;10VOWEL SIGN AA;30I;30II;30U;30E;30AI;30O;30AU;10SIGN ANUSVARA;20VIRAMA",
    "20NUKTA;20SHADDA;10DANDA;11DOUBLE;10WORD SEPARATOR;10SECTION MARK;12DOUBLE",
    "10ABBREVIATION SIGN;10SIGN SUKUN"]⟩,
    ⟨0x11280, [
    "00MULTANI LETTER A;20I;20U;20E;20KA;20KHA;20GA;;20GHA;;20CA;20CHA;20JA;20JJA;;20NYA;20TTA",
    "20TTHA;20DDA;20DDDA;20DDHA;20NNA;20TA;20THA;20DA;20DHA;20NA;20PA;20PHA;20BA;;20BHA;20MA",
    "20YA;20RA;20LA;20VA;20SA;20HA;20RRA;20RHA;10SECTION MARK;;;;;;;00KHUDAWADI LETTER A;20AA",
    "20I;20II;20U;20UU;20E;20AI;20O;20AU;20KA;20KHA;20GA;20GGA;20GHA;20NGA;20CA;20CHA;20JA",
    "20JJA;20JHA;20NYA;20TTA;20TTHA;20DDA;20DDDA;20RRA;20DDHA;20NNA;20TA;20THA;20DA;20DHA;20NA",
    "20PA;20PHA;20BA;20BBA;20BHA;20MA;20YA;20RA;20LA;20VA;20SHA;20SA;20HA;10SIGN ANUSVARA",
    "10VOWEL SIGN AA;30I;30II;30U;30UU;30E;30AI;30O;30AU;10SIGN NUKTA;20VIRAMA;;;;;",
    "10DIGIT ZERO;20ONE;20TWO;20THREE;20FOUR;20FIVE;20SIX;20SEVEN;20EIGHT;20NINE;;;;;;",
    "00GRANTHA SIGN COMBINING ANUSVARA ABOVE;20CANDRABINDU;20ANUSVARA;20VISARGA;;10LETTER A",
    "20AA;20I;20II;20U;20UU;20VOCALIC R;30L;;;20EE;20AI;;;20OO;20AU;20KA;20KHA;20GA;20GHA;20NGA",
    "20CA;20CHA;20JA;20JHA;20NYA;20TTA;20TTHA;20DDA;20DDHA;20NNA;20TA;20THA;20DA;20DHA;20NA;",
    "20PA;20PHA;20BA;20BHA;20MA;20YA;20RA;;20LA;20LLA;;20VA;20SHA;20SSA;20SA;20HA;",
    "00COMBINING BINDU BELOW;00GRANTHA SIGN NUKTA;20AVAGRAHA;10VOWEL SIGN AA;30I;30II;30U;30UU",
    "30VOCALIC R;40RR;;;30EE;30AI;;;30OO;30AU;10SIGN VIRAMA;;;10OM;;;;;;;10AU LENGTH MARK;;;;;",
    "10SIGN PLUTA;10LETTER VEDIC ANUSVARA;31DOUBLE;20VOCALIC RR;30LL;10VOWEL SIGN VOCALIC L",
    "40LL;;;00COMBINING GRANTHA DIGIT ZERO;30ONE;30TWO;30THREE;30FOUR;30FIVE;30SIX;;;",
    "20LETTER A;30KA;30NA;30VI;30PA"]⟩,
    ⟨0x11400, [
    "00NEWA LETTER A;20AA;20I;20II;20U;20UU;20VOCALIC R;30RR;30L;30LL;20E;20AI;20O;20AU;20KA",
    "20KHA;20GA;20GHA;20NGA;20NGHA;20CA;20CHA;20JA;20JHA;20NYA;20NYHA;20TTA;20TTHA;20DDA;20DDHA",
    "20NNA;20TA;20THA;20DA;20DHA;20NA;20NHA;20PA;20PHA;20BA;20BHA;20MA;20MHA;20YA;20RA;20RHA",
    "20LA;20LHA;20WA;20SHA;20SSA;20SA;20HA;10VOWEL SIGN AA;30I;30II;30U;30UU;30VOCALIC R;40RR",
    "40L;40LL;30E;30AI;30O;30AU;10SIGN VIRAMA;20CANDRABINDU;20ANUSVARA;20VISARGA;20NUKTA",
    "20AVAGRAHA;20FINAL ANUSVARA;10OM;10SIDDHI;10DANDA;11DOUBLE;10COMMA;10GAP FILLER",
    "10ABBREVIATION SIGN;10DIGIT ZERO;20ONE;20TWO;20THREE;20FOUR;20FIVE;20SIX;20SEVEN;20EIGHT",
    "20NINE;10DOUBLE COMMA;10PLACEHOLDER MARK;;10INSERTION SIGN;10SANDHI MARK",
    "10LETTER VEDIC ANUSVARA;10SIGN JIHVAMULIYA;20UPADHMANIYA"]⟩,
    ⟨0x11480, [
    "00TIRHUTA ANJI;10LETTER A;20AA;20I;20II;20U;20UU;20VOCALIC R;30RR;30L;30LL;20E;20AI;20O",
    "20AU;20KA;20KHA;20GA;20GHA;20NGA;20CA;20CHA;20JA;20JHA;20NYA;20TTA;20TTHA;20DDA;20DDHA",
    "20NNA;20TA;20THA;20DA;20DHA;20NA;20PA;20PHA;20BA;20BHA;20MA;20YA;20RA;20LA;20VA;20SHA",
    "20SSA;20SA;20HA;10VOWEL SIGN AA;30I;30II;30U;30UU;30VOCALIC R;40RR;40L;40LL;30E;31SHORT",
    "30AI;30O;31SHORT;30AU;10SIGN CANDRABINDU;20ANUSVARA;20VISARGA;20VIRAMA;20NUKTA;20AVAGRAHA",
    "10GVANG;10ABBREVIATION SIGN;10OM;;;;;;;;;10DIGIT ZERO;20ONE;20TWO;20THREE;20FOUR;20FIVE",
    "20SIX;20SEVEN;20EIGHT;20NINE"]⟩,
    ⟨0x11580, [
    "00SIDDHAM LETTER A;20AA;20I;20II;20U;20UU;20VOCALIC R;30RR;30L;30LL;20E;20AI;20O;20AU;20KA",
    "20KHA;20GA;20GHA;20NGA;20CA;20CHA;20JA;20JHA;20NYA;20TTA;20TTHA;20DDA;20DDHA;20NNA;20TA",
    "20THA;20DA;20DHA;20NA;20PA;20PHA;20BA;20BHA;20MA;20YA;20RA;20LA;20VA;20SHA;20SSA;20SA;20HA",
    "10VOWEL SIGN AA;30I;30II;30U;30UU;30VOCALIC R;40RR;;;30E;30AI;30O;30AU;10SIGN CANDRABINDU",
    "20ANUSVARA;20VISARGA;20VIRAMA;20NUKTA;20SIDDHAM;10DANDA;11DOUBLE;10SEPARATOR DOT;20BAR",
    "10REPETITION MARK-1;20MARK-2;20MARK-3;10END OF TEXT MARK",
    "10SECTION MARK WITH TRIDENT AND U-SHAPED ORNAMENTS;60DOTTED CRESCENTS;43RAYS;71DOUBLE",
    "71TRIPLE;30DOUBLE RING;50WITH RAYS;30WITH DOUBLE CRESCENTS;41TRIPLE;41QUADRUPLE;41SEPTUPLE",
    "40CIRCLES AND RAYS;60TWO ENCLOSURES;61FOUR;10LETTER THREE-CIRCLE ALTERNATE I;22TWO-CIRCLE",
    "40II;20ALTERNATE U;12VOWEL SIGN;40UU"]⟩,
    ⟨0x11600, [
    "00MODI LETTER A;20AA;20I;20II;20U;20UU;20VOCALIC R;30RR;30L;30LL;20E;20AI;20O;20AU;20KA",
    "20KHA;20GA;20GHA;20NGA;20CA;20CHA;20JA;20JHA;20NYA;20TTA;20TTHA;20DDA;20DDHA;20NNA;20TA",
    "20THA;20DA;20DHA;20NA;20PA;20PHA;20BA;20BHA;20MA;20YA;20RA;20LA;20VA;20SHA;20SSA;20SA;20HA",
    "20LLA;10VOWEL SIGN AA;30I;30II;30U;30UU;30VOCALIC R;40RR;40L;40LL;30E;30AI;30O;30AU",
    "10SIGN ANUSVARA;20VISARGA;20VIRAMA;20ARDHACANDRA;10DANDA;11DOUBLE;10ABBREVIATION SIGN",
    "10SIGN HUVA;;;;;;;;;;;;10DIGIT ZERO;20ONE;20TWO;20THREE;20FOUR;20FIVE;20SIX;20SEVEN",
    "20EIGHT;20NINE;;;;;;;00MONGOLIAN BIRGA WITH ORNAMENT;10ROTATED BIRGA",
    "10DOUBLE BIRGA WITH ORNAMENT;13TRIPLE;11BIRGA WITH DOUBLE;11ROTATED BIRGA WITH;41DOUBLE",
    "10INVERTED BIRGA;30WITH DOUBLE ORNAMENT;10SWIRL BIRGA;30WITH ORNAMENT;41DOUBLE;15TURNED;;;",
    ";;;;;;;;;;;;;;;;00TAKRI LETTER A;20AA;20I;20II;20U;20UU;20E;20AI;20O;20AU;20KA;20KHA;20GA",
    "20GHA;20NGA;20CA;20CHA;20JA;20JHA;20NYA;20TTA;20TTHA;20DDA;20DDHA;20NNA;20TA;20THA;20DA",
    "20DHA;20NA;20PA;20PHA;20BA;20BHA;20MA;20YA;20RA;20LA;20VA;20SHA;20SA;20HA;20RRA",
    "10SIGN ANUSVARA;20VISARGA;10VOWEL SIGN AA;30I;30II;30U;30UU;30E;30AI;30O;30AU",
    "10SIGN VIRAMA;20NUKTA;10LETTER ARCHAIC KHA;10ABBREVIATION SIGN;;;;;;;10DIGIT ZERO;20ONE",
    "20TWO;20THREE;20FOUR;20FIVE;20SIX;20SEVEN;20EIGHT;20NINE"]⟩,
    ⟨0x11700, [
    "00AHOM LETTER KA;20KHA;20NGA;20NA;20TA;21ALTERNATE;20PA;20PHA;20BA;20MA;20JA;20CHA;20THA",
    "20RA;20LA;20SA;20NYA;20HA;20A;20DA;20DHA;20GA;21ALTERNATE;20GHA;20BHA;20JHA;20ALTERNATE BA",
    ";;10CONSONANT SIGN MEDIAL LA;40RA;41LIGATING;10VOWEL SIGN A;30AA;30I;30II;30U;30UU;30E",
    "30AW;30O;30AI;30AM;10SIGN KILLER;;;;;10DIGIT ZERO;20ONE;20TWO;20THREE;20FOUR;20FIVE;20SIX",
    "20SEVEN;20EIGHT;20NINE;10NUMBER TEN;20TWENTY;10SIGN SMALL SECTION;21;20RULAI;10SYMBOL VI",
    "10LETTER CA;20TTA;20TTHA;20DDA;20DDHA;20NNA;20LLA"]⟩,
    ⟨0x11800, [
    "00DOGRA LETTER A;20AA;20I;20II;20U;20UU;20E;20AI;20O;20AU;20KA;20KHA;20GA;20GHA;20NGA;20CA",
    "20CHA;20JA;20JHA;20NYA;20TTA;20TTHA;20DDA;20DDHA;20NNA;20TA;20THA;20DA;20DHA;20NA;20PA",
    "20PHA;20BA;20BHA;20MA;20YA;20RA;20LA;20VA;20SHA;20SSA;20SA;20HA;20RRA;10VOWEL SIGN AA;30I",
    "30II;30U;30UU;30VOCALIC R;40RR;30E;30AI;30O;30AU;10SIGN ANUSVARA;20VISARGA;20VIRAMA",
    "20NUKTA;10ABBREVIATION SIGN"]⟩,
    ⟨0x118A0, [
    "00WARANG CITI CAPITAL LETTER NGAA;40A;40WI;40YU;40YA;40YO;40II;40UU;40E;40O;40ANG;40GA",
    "40KO;40ENY;40YUJ;40UC;40ENN;40ODD;40TTE;40NUNG;40DA;40AT;40AM;40BU;40PU;40HIYO;40HOLO",
    "40HORR;40HAR;40SSUU;40SII;40VIYO;20SMALL LETTER NGAA;40A;40WI;40YU;40YA;40YO;40II;40UU;40E",
    "40O;40ANG;40GA;40KO;40ENY;40YUJ;40UC;40ENN;40ODD;40TTE;40NUNG;40DA;40AT;40AM;40BU;40PU",
    "40HIYO;40HOLO;40HORR;40HAR;40SSUU;40SII;40VIYO;20DIGIT ZERO;30ONE;30TWO;30THREE;30FOUR",
    "30FIVE;30SIX;30SEVEN;30EIGHT;30NINE;20NUMBER TEN;30TWENTY;30THIRTY;30FORTY;30FIFTY;30SIXTY",
    "30SEVENTY;30EIGHTY;30NINETY;;;;;;;;;;;;;20OM;00DIVES AKURU LETTER A;30AA;30I;30II;30U;30UU",
    "30E;;;30O;;;30KA;30KHA;30GA;30GHA;30NGA;30CA;30CHA;30JA;;30NYA;30TTA;;30DDA;30DDHA;30NNA",
    "30TA;30THA;30DA;30DHA;30NA;30PA;30PHA;30BA;30BHA;30MA;30YA;30YYA;30RA;30LA;30VA;30SHA",
    "30SSA;30SA;30HA;30LLA;30ZA;20VOWEL SIGN AA;40I;40II;40U;40UU;40E;;40AI;40O;;",
    "20SIGN ANUSVARA;30CANDRABINDU;30HALANTA;20VIRAMA;20PREFIXED NASAL SIGN;20MEDIAL YA",
    "20INITIAL RA;21MEDIAL;20SIGN NUKTA;20DOUBLE DANDA;20GAP FILLER;20END OF TEXT MARK;;;;;;;;;",
    "20DIGIT ZERO;30ONE;30TWO;30THREE;30FOUR;30FIVE;30SIX;30SEVEN;30EIGHT;30NINE"]⟩,
    ⟨0x119A0, [
    "00NANDINAGARI LETTER A;20AA;20I;20II;20U;20UU;20VOCALIC R;30RR;;;20E;20AI;20O;20AU;20KA",
    "20KHA;20GA;20GHA;20NGA;20CA;20CHA;20JA;20JHA;20NYA;20TTA;20TTHA;20DDA;20DDHA;20NNA;20TA",
    "20THA;20DA;20DHA;20NA;20PA;20PHA;20BA;20BHA;20MA;20YA;20RA;20LA;20VA;20SHA;20SSA;20SA;20HA",
    "20LLA;20RRA;10VOWEL SIGN AA;30I;30II;30U;30UU;30VOCALIC R;40RR;;;30E;30AI;30O;30AU",
    "10SIGN ANUSVARA;20VISARGA;20VIRAMA;20AVAGRAHA;20SIDDHAM;10HEADSTROKE",
    "10VOWEL SIGN PRISHTHAMATRA E"]⟩,
    ⟨0x11A00, [
    "00ZANABAZAR SQUARE LETTER A;20VOWEL SIGN I;40UE;40U;40E;40OE;40O;40AI;40AU;40REVERSED I",
    "30LENGTH MARK;20LETTER KA;30KHA;30GA;30GHA;30NGA;30CA;30CHA;30JA;30NYA;30TTA;30TTHA;30DDA",
    "30DDHA;30NNA;30TA;30THA;30DA;30DHA;30NA;30PA;30PHA;30BA;30BHA;30MA;30TSA;30TSHA;30DZA",
    "30DZHA;30ZHA;30ZA;30-A;30YA;30RA;30LA;30VA;30SHA;30SSA;30SA;30HA;30KSSA",
    "20FINAL CONSONANT MARK;20SIGN VIRAMA;30CANDRABINDU;40WITH ORNAMENT;32CANDRA;30ANUSVARA",
    "30VISARGA;20CLUSTER-INITIAL LETTER RA;20CLUSTER-FINAL LETTER YA;40RA;40LA;40VA",
    "20INITIAL HEAD MARK;22CLOSING;20MARK TSHEG;30SHAD;31DOUBLE;30LONG TSHEG",
    "20INITIAL DOUBLE-LINED HEAD MARK;23CLOSING;20SUBJOINER;;;;;;;;;00SOYOMBO LETTER A",
    "10VOWEL SIGN I;30UE;30U;30E;30O;30OE;30AI;30AU;30VOCALIC R;40L;20LENGTH MARK;10LETTER KA",
    "20KHA;20GA;20GHA;20NGA;20CA;20CHA;20JA;20JHA;20NYA;20TTA;20TTHA;20DDA;20DDHA;20NNA;20TA",
    "20THA;20DA;20DHA;20NA;20PA;20PHA;20BA;20BHA;20MA;20TSA;20TSHA;20DZA;20ZHA;20ZA;20-A;20YA",
    "20RA;20LA;20VA;20SHA;20SSA;20SA;20HA;20KSSA;10SIGN JIHVAMULIYA;20UPADHMANIYA",
    "10CLUSTER-INITIAL LETTER RA;30LA;30SHA;30SA;10FINAL CONSONANT SIGN G;40K;40NG;40D;40N;40B",
    "40M;40R;40L;40SH;40S;40-A;10SIGN ANUSVARA;20VISARGA;10GEMINATION MARK;10SUBJOINER",
    "10MARK TSHEG;20SHAD;21DOUBLE;20PLUTA;10HEAD MARK WITH MOON AND SUN AND TRIPLE FLAME;81;70",
    "10TERMINAL MARK-1;20MARK-2;;;;;;;;;;;;;;00CANADIAN SYLLABICS NATTILIK HI;30HII;30HO;30HOO",
    "30HA;30HAA;30SHRI;30SHRII;30SHRO;30SHROO;30SHRA;30SHRAA;20SPE;20SPI;20SPO;20SPA",
    "00PAU CIN HAU LETTER PA;40KA;40LA;40MA;40DA;40ZA;40VA;40NGA;40HA;40GA;40KHA;40SA;40BA;40CA",
    "40TA;40THA;40NA;40PHA;40RA;40FA;40CHA;40A;40E;40I;40O;40U;40UA;40IA;40FINAL P;50K;50T;50M",
    "50N;50L;50W;50NG;50Y;30RISING TONE LONG;50;30SANDHI GLOTTAL STOP;30RISING TONE LONG FINAL",
    "51;31SANDHI GLOTTAL STOP;40TONE LONG;50;50LONG FINAL;51;30MID-LEVEL TONE",
    "30GLOTTAL STOP VARIANT;30MID-LEVEL TONE LONG FINAL;51;30LOW-FALLING TONE LONG;50",
    "30GLOTTAL STOP;30LOW-FALLING TONE LONG FINAL;51;31GLOTTAL STOP"]⟩,
    ⟨0x11C00, [
    "00BHAIKSUKI LETTER A;20AA;20I;20II;20U;20UU;20VOCALIC R;30RR;30L;;20E;20AI;20O;20AU;20KA",
    "20KHA;20GA;20GHA;20NGA;20CA;20CHA;20JA;20JHA;20NYA;20TTA;20TTHA;20DDA;20DDHA;20NNA;20TA",
    "20THA;20DA;20DHA;20NA;20PA;20PHA;20BA;20BHA;20MA;20YA;20RA;20LA;20VA;20SHA;20SSA;20SA;20HA",
    "10VOWEL SIGN AA;30I;30II;30U;30UU;30VOCALIC R;40RR;40L;;30E;30AI;30O;30AU",
    "10SIGN CANDRABINDU;20ANUSVARA;20VISARGA;20VIRAMA;20AVAGRAHA;10DANDA;11DOUBLE",
    "10WORD SEPARATOR;10GAP FILLER-1;20FILLER-2;;;;;;;;;;;10DIGIT ZERO;20ONE;20TWO;20THREE",
    "20FOUR;20FIVE;20SIX;20SEVEN;20EIGHT;20NINE;10NUMBER ONE;20TWO;20THREE;20FOUR;20FIVE;20SIX",
    "20SEVEN;20EIGHT;20NINE;20TEN;20TWENTY;20THIRTY;20FORTY;20FIFTY;20SIXTY;20SEVENTY;20EIGHTY",
    "20NINETY;10HUNDREDS UNIT MARK;;;;01MARCHEN HEAD;10MARK SHAD;10LETTER KA;20KHA;20GA;20NGA",
    "20CA;20CHA;20JA;20NYA;20TA;20THA;20DA;20NA;20PA;20PHA;20BA;20MA;20TSA;20TSHA;20DZA;20WA",
    "20ZHA;20ZA;20-A;20YA;20RA;20LA;20SHA;20SA;20HA;20A;;;10SUBJOINED LETTER KA;30KHA;30GA",
    "30NGA;30CA;30CHA;30JA;30NYA;30TA;30THA;30DA;30NA;30PA;30PHA;30BA;30MA;30TSA;30TSHA;30DZA",
    "30WA;30ZHA;30ZA;;30YA;30RA;30LA;30SHA;30SA;30HA;30A;10VOWEL SIGN AA;30I;30U;30E;30O",
    "10SIGN ANUSVARA;20CANDRABINDU"]⟩,
    ⟨0x11D00, [
    "00MASARAM GONDI LETTER A;30AA;30I;30II;30U;30UU;30E;;30AI;30O;;30AU;30KA;30KHA;30GA;30GHA",
    "30NGA;30CA;30CHA;30JA;30JHA;30NYA;30TTA;30TTHA;30DDA;30DDHA;30NNA;30TA;30THA;30DA;30DHA",
    "30NA;30PA;30PHA;30BA;30BHA;30MA;30YA;30RA;30LA;30VA;30SHA;30SSA;30SA;30HA;30LLA;30KSSA",
    "30JNYA;30TRA;20VOWEL SIGN AA;40I;40II;40U;40UU;40VOCALIC R;;;;40E;;40AI;40O;;40AU",
    "20SIGN ANUSVARA;30VISARGA;30NUKTA;30CANDRA;30HALANTA;20VIRAMA;20REPHA;20RA-KARA;;;;;;;;",
    "20DIGIT ZERO;30ONE;30TWO;30THREE;30FOUR;30FIVE;30SIX;30SEVEN;30EIGHT;30NINE;;;;;;",
    "00GUNJALA GONDI LETTER A;30AA;30I;30II;30U;30UU;;30EE;30AI;;30OO;30AU;30YA;30VA;30BA;30BHA",
    "30MA;30KA;30KHA;30TA;30THA;30LA;30GA;30GHA;30DA;30DHA;30NA;30CA;30CHA;30TTA;30TTHA;30LLA",
    "30JA;30JHA;30DDA;30DDHA;30NGA;30PA;30PHA;30HA;30RA;30SA;20VOWEL SIGN AA;40I;40II;40U;40UU;",
    "40EE;40AI;;40OO;40AU;20SIGN ANUSVARA;30VISARGA;20VIRAMA;20OM;;;;;;;;20DIGIT ZERO;30ONE",
    "30TWO;30THREE;30FOUR;30FIVE;30SIX;30SEVEN;30EIGHT;30NINE"]⟩,
    ⟨0x11EE0, [
    "00MAKASAR LETTER KA;20GA;20NGA;20PA;20BA;20MA;20TA;20DA;20NA;20CA;20JA;20NYA;20YA;20RA",
    "20LA;20VA;20SA;20A;10ANGKA;10VOWEL SIGN I;30U;30E;30O;10PASSIMBANG;10END OF SECTION"]⟩,
    ⟨0x11FB0, [
    "00LISU LETTER YHA;;;;;;;;;;;;;;;;00TAMIL FRACTION ONE THREE-HUNDRED-AND-TWENTIETH",
    "30ONE-HUNDRED-AND-SIXTIETH;30EIGHTIETH;30SIXTY-FOURTH;30FORTIETH;30THIRTY-SECOND",
    "20THREE EIGHTIETHS;30SIXTY-FOURTHS;20ONE TWENTIETH;30SIXTEENTH-1;30SIXTEENTH-2;30TENTH",
    "30EIGHTH;20THREE TWENTIETHS;30SIXTEENTHS;20ONE FIFTH;30QUARTER;30HALF-1;30HALF-2",
    "20THREE QUARTERS;20DOWNSCALING FACTOR KIIZH;10SIGN NEL;20CEVITU;20AAZHAAKKU;20UZHAKKU",
    "20MUUVUZHAKKU;20KURUNI;20PATHAKKU;20MUKKURUNI;20KAACU;20PANAM;20PON;20VARAAKAN;20PAARAM",
    "20KUZHI;20VELI;10WET CULTIVATION SIGN;12DRY;11LAND;11SALT PAN;11TRADITIONAL CREDIT",
    "21NUMBER;11CURRENT;11AND ODD;11SPENT;11TOTAL;11IN POSSESSION;11STARTING FROM",
    "10SIGN MUTHALIYA;20VAKAIYARAA;;;;;;;;;;;;;;10PUNCTUATION END OF TEXT;00CUNEIFORM SIGN A",
    "30TIMES A;40BAD;40GAN2 TENU;40HA;40IGI;40LAGAR GUNU;40MUSH;40SAG;20A2;20AB;30TIMES ASH2",
    "40DUN3 GUNU;40GAL;40GAN2 TENU;40HA;40IGI GUNU;40IMIN;40LAGAB;40SHESH;40U PLUS U PLUS U",
    "30GUNU;20AB2;30TIMES BALAG;40GAN2 TENU;40ME PLUS EN;40SHA3;40TAK4;20AD;20AK;30TIMES ERIN2",
    "40SHITA PLUS GISH;20AL;30TIMES AL;40DIM2;40GISH;40HA;40KAD3;40KI;40SHE;40USH;20ALAN",
    "20ALEPH;20AMAR;30TIMES SHE;20AN;30OVER AN;30THREE TIMES;30PLUS NAGA OPPOSING AN PLUS NAGA",
    "50SQUARED;20ANSHE;20APIN;20ARAD;30TIMES KUR;20ARKAB;20ASAL2;20ASH;30ZIDA TENU;31KABA",
    "30OVER ASH TUG2 OVER TUG2 TUG2 OVER TUG2 PAP;50OVER ASH;70CROSSING ASH OVER ASH OVER ASH",
    "20ASH2;20ASHGAB;20BA;20BAD;20BAG3;20BAHAR2;20BAL;30OVER BAL;20BALAG;20BAR;20BARA2;20BI",
    "30TIMES A;40GAR;40IGI GUNU;20BU;30OVER BU AB;50UN;30CROSSING BU;20BULUG;30OVER BULUG;20BUR",
    "20BUR2;20DA;20DAG;30KISIM5 TIMES A PLUS MASH;50AMAR;50BALAG;50BI;50GA;60PLUS MASH;50GI",
    "50GIR2;50GUD;50HA;50IR;60PLUS LU;50KAK;50LA;50LU;60PLUS MASH2;50LUM;50NE;50PAP PLUS PAP",
    "50SI;50TAK4;50U2 PLUS GIR2;50USH;20DAM;20DAR;20DARA3;20DARA4;20DI;20DIB;20DIM;30TIMES SHE",
    "20DIM2;20DIN;30KASKAL U GUNU DISH;21;20DU;30OVER DU;30GUNU;30SHESHIG;20DUB;30TIMES ESH2",
    "20DUB2;20DUG;20DUGUD;20DUH;20DUN;20DUN3;30GUNU;40GUNU;20DUN4;20DUR2;20E;30TIMES PAP",
    "30OVER E NUN OVER NUN;20E2;30TIMES A PLUS HA PLUS DA;40GAR;40MI;40SAL;40SHE;40U;20EDIN",
    "20EGIR;20EL;20EN;30TIMES GAN2;50TENU;40ME;30CROSSING EN;31OPPOSING;30SQUARED;20EREN",
    "20ERIN2;20ESH2;20EZEN;30TIMES A;50PLUS LAL;70TIMES LAL;40AN;40BAD;40DUN3 GUNU;60GUNU;40HA",
    "50GUNU;41IGI;40KASKAL;50SQUARED;40KU3;40LA;40LAL TIMES LAL;40LI;40LU;40U2;40UD;20GA;30GUNU",
    "20GA2;30TIMES A PLUS DA PLUS HA;61;60IGI;40AB2 TENU PLUS TAB;40AN;40ASH;40ASH2 PLUS GAL",
    "40BAD;40BAR PLUS RA;40BUR;50PLUS RA;40DA;40DI;40DIM TIMES SHE;40DUB;40EL;50PLUS LA;40EN",
    "50TIMES GAN2 TENU;42;40GAR;40GI;40GI4;50PLUS A;40GIR2 PLUS SU;40HA PLUS LU PLUS ESH2;40HAL",
    "50PLUS LA;40HI PLUS LI;40HUB2;40IGI GUNU;40ISH PLUS HU PLUS ASH;40KAK;40KASKAL;40KID",
    "50PLUS LAL;40KU3 PLUS AN;40LA;40ME PLUS EN;40MI;40NUN;50OVER NUN;40PA;40SAL;40SAR;40SHE",
    "50PLUS TUR;40SHID;40SUM;40TAK4;40U;40UD;50PLUS DU;30OVER GA2;20GABA;30CROSSING GABA;20GAD",
    "30OVER GAD GAR OVER GAR;20GAL;30GAD OVER GAD GAR OVER GAR;20GALAM;20GAM;20GAN;20GAN2",
    "30TENU;30OVER GAN2;31CROSSING;20GAR;20GAR3;20GASHAN;20GESHTIN;30TIMES KUR;20GI;30TIMES E",
    "40U;30CROSSING GI;20GI4;30OVER GI4;31CROSSING;20GIDIM;20GIR2;30GUNU;20GIR3",
    "30TIMES A PLUS IGI;40GAN2 TENU;40IGI;41LU PLUS;40PA;20GISAL;20GISH;30CROSSING GISH",
    "30TIMES BAD;40TAK4;30TENU;20GU;30CROSSING GU;20GU2;30TIMES KAK;50TIMES IGI GUNU;40NUN",
    "40SAL PLUS TUG2;30GUNU;20GUD;30TIMES A PLUS KUR;41;30OVER GUD LUGAL;20GUL;20GUM",
    "30TIMES SHE;20GUR;20GUR7;20GURUN;20GURUSH;20HA;30TENU;30GUNU;20HAL;20HI;30TIMES ASH;40ASH2",
    "40BAD;40DISH;40GAD;40KIN;40NUN;40SHE;40U;20HU;20HUB2;30TIMES AN;40HAL;40KASKAL;40LISH;40UD",
    "20HUL2;20I;30A;20IB;20IDIM;30OVER IDIM BUR;50SQUARED;20IG;20IGI;30DIB;30RI",
    "30OVER IGI SHIR OVER SHIR UD OVER UD;30GUNU;20IL;30TIMES GAN2 TENU;20IL2;20IM;30TIMES TAK4",
    "30CROSSING IM;31OPPOSING;30SQUARED;20IMIN;20IN;20IR;20ISH;20KA;30TIMES A;40AD;50PLUS KU3",
    "40ASH2;40BAD;40BALAG;40BAR;40BI;40ERIN2;40ESH2;40GA;40GAL;40GAN2 TENU;40GAR",
    "50PLUS SHA3 PLUS A;40GI;40GIR2;40GISH PLUS SAR;50CROSSING GISH;40GU;40GUR7;40IGI;40IM",
    "40KAK;40KI;40KID;40LI;40LU;40ME;50PLUS DU;60GI;60TE;40MI;50PLUS NUNUZ;40NE;40NUN;40PI;40RU",
    "40SA;40SAR;40SHA;40SHE;40SHID;40SHU;40SIG;40SUHUR;40TAR;40U;40U2;40UD;40UMUM TIMES PA",
    "40USH;40ZI;20KA2;30CROSSING KA2;20KAB;20KAD2;20KAD3;20KAD4;20KAD5;30OVER KAD5;20KAK",
    "30TIMES IGI GUNU;20KAL;30TIMES BAD;30CROSSING KAL;20KAM2;20KAM4;20KASKAL",
    "30LAGAB TIMES U OVER LAGAB TIMES U;37OVER KASKAL;20KESH2;20KI;30TIMES BAD;40U;40UD;20KID",
    "20KIN;20KISAL;20KISH;20KISIM5;30OVER KISIM5;20KU",
    "30OVER HI TIMES ASH2 KU OVER HI TIMES ASH2;20KU3;20KU4;30VARIANT FORM;20KU7;20KUL;30GUNU",
    "20KUN;20KUR;30OPPOSING KUR;20KUSHU2;20KWU318;20LA;20LAGAB;30TIMES A;50PLUS DA PLUS HA",
    "60GAR;60LAL;40AL;40AN;40ASH ZIDA TENU;40BAD;40BI;40DAR;40EN;40GA;40GAR;40GUD;50PLUS GUD",
    "40HA;40HAL;40HI TIMES NUN;40IGI GUNU;40IM;50PLUS HA;60LU;40KI;40KIN;40KU3;40KUL",
    "50PLUS HI PLUS A;40LAGAB;40LISH;40LU;40LUL;40ME;50PLUS EN;40MUSH;40NE;40SHE PLUS SUM",
    "40SHITA PLUS GISH PLUS ERIN2;70TENU;40SHU2;50PLUS SHU2;40SUM;40TAG;40TAK4",
    "40TE PLUS A PLUS SU PLUS NA;40U;50PLUS A;60U PLUS U;40U2 PLUS ASH;40UD;40USH;30SQUARED",
    "20LAGAR;30TIMES SHE;50PLUS SUM;30GUNU;40OVER LAGAR GUNU SHE;20LAHSHU;20LAL;30TIMES LAL",
    "20LAM;30TIMES KUR;50PLUS RU;20LI;20LIL;20LIMMU2;20LISH;20LU;30TIMES BAD;20LU2;30TIMES AL",
    "40BAD;40ESH2;50TENU;41GAN2;40HI TIMES BAD;40IM;40KAD2;40KAD3;50PLUS ASH;40KI;40LA PLUS ASH",
    "40LAGAB;40ME PLUS EN;40NE;40NU;40SI PLUS ASH;40SIK2 PLUS BU;40TUG2;30TENU;30CROSSING LU2",
    "31OPPOSING;30SQUARED;30SHESHIG;20LU3;20LUGAL;30OVER LUGAL;31OPPOSING;30SHESHIG;20LUH;20LUL",
    "20LUM;30OVER LUM;50GAR OVER GAR;20MA;30TIMES TAK4;30GUNU;20MA2;20MAH;20MAR;20MASH;20MASH2",
    "20ME;20MES;20MI;20MIN;20MU;30OVER MU;20MUG;30GUNU;20MUNSUB;20MURGU2;20MUSH;30TIMES A;40KUR",
    "40ZA;30OVER MUSH;50TIMES A PLUS NA;30CROSSING MUSH;20MUSH3;30TIMES A;50PLUS DI;41;30GUNU",
    "20NA;20NA2;20NAGA;30INVERTED;30TIMES SHU TENU;30OPPOSING NAGA;20NAGAR;20NAM NUTILLU;30",
    "20NAM2;20NE;30TIMES A;40UD;30SHESHIG;20NI;30TIMES E;20NI2;20NIM;30TIMES GAN2 TENU",
    "42GAR PLUS;20NINDA2;30TIMES AN;40ASH;50PLUS ASH;40GUD;40ME PLUS GAN2 TENU;40NE;40NUN;40SHE",
    "50PLUS A AN;60ASH;70PLUS ASH;42U2;40USH;20NISAG;20NU;20NU11;20NUN;30LAGAR TIMES GAR;50MASH",
    "50SAL;60OVER NUN LAGAR TIMES SAL;50USH;30TENU;30OVER NUN;31CROSSING;50LAGAR OVER LAGAR",
    "20NUNUZ;30AB2 TIMES ASHGAB;50BI;50DUG;50GUD;50IGI GUNU;50KAD3;50LA;50NE;50SILA3;50U2",
    "30KISIM5 TIMES BI;60U;20PA;20PAD;20PAN;20PAP;20PESH2;20PI;30TIMES A;40AB;40BI;40BU;40E;40I",
    "40IB;40U;40U2;30CROSSING PI;20PIRIG;30TIMES KAL;40UD;40ZA;30OPPOSING PIRIG;20RA;20RAB;20RI",
    "20RU;20SA;20SAG NUTILLU;30;30TIMES A;40DU;40DUB;40HA;40KAK;40KUR;40LUM;40MI;40NUN;40SAL",
    "40SHID;40TAB;40U2;40UB;40UM;40UR;40USH;30OVER SAG;30GUNU;20SAL;30LAGAB TIMES ASH2;20SANGA2",
    "20SAR;20SHA;20SHA3;30TIMES A;40BAD;40GISH;40NE;40SHU2;40TUR;40U;50PLUS A;20SHA6;20SHAB6",
    "20SHAR2;20SHE;30HU;30OVER SHE GAD OVER GAD GAR OVER GAR;53TAB OVER TAB;20SHEG9;20SHEN",
    "20SHESH;20SHESH2;20SHESHLAM;20SHID;30TIMES A;40IM;20SHIM;30TIMES A;40BAL;40BULUG;40DIN",
    "40GAR;40IGI;50GUNU;40KUSHU2;40LUL;40MUG;40SAL;20SHINIG;20SHIR;30TENU",
    "30OVER SHIR BUR OVER BUR;20SHITA;20SHU;30OVER INVERTED SHU;20SHU2;20SHUBUR;20SI;30GUNU",
    "20SIG;20SIG4;30OVER SIG4 SHU2;20SIK2;20SILA3;20SU;30OVER SU;20SUD;20SUD2;20SUHUR;20SUM",
    "20SUMASH;20SUR;20SUR9;20TA;30ASTERISK;30TIMES HI;40MI;30GUNU;20TAB",
    "30OVER TAB NI OVER NI DISH OVER DISH;30SQUARED;20TAG;30TIMES BI;40GUD;40SHE;40SHU;40TUG2",
    "40UD;20TAK4;20TAR;20TE;30GUNU;20TI;30TENU;20TIL;20TIR;30TIMES TAK4;30OVER TIR",
    "50GAD OVER GAD GAR OVER GAR;20TU;20TUG2;20TUK;20TUM;20TUR;30OVER TUR ZA OVER ZA;20U;30GUD",
    "30U U;30OVER U PA OVER PA GAR OVER GAR;50SUR OVER SUR;50U REVERSED OVER U REVERSED;20U2",
    "20UB;20UD;30KUSHU2;30TIMES BAD;40MI;40U PLUS U PLUS U;90GUNU;31;30SHESHIG;40TIMES BAD",
    "20UDUG;20UM;30TIMES LAGAB;40ME PLUS DA;40SHA3;40U;20UMBIN;20UMUM;30TIMES KASKAL;40PA;20UN",
    "30GUNU;20UR;30CROSSING UR;30SHESHIG;20UR2;30TIMES A PLUS HA;60NA;40AL;40HA;40NUN;40U2",
    "50PLUS ASH;60BI;20UR4;20URI;20URI3;20URU;30TIMES A;40ASHGAB;40BAR;40DUN;40GA;40GAL",
    "40GAN2 TENU;40GAR;40GU;40HA;40IGI;40IM;40ISH;40KI;40LUM;40MIN;40PA;40SHE;40SIG4;40TU",
    "40U PLUS GUD;40UD;40URUDA;21;30TIMES U;20USH;30TIMES A;40KU;40KUR;40TAK4;20USHX;20USH2",
    "20USHUMX;20UTUKI;20UZ3;30TIMES KASKAL;20UZU;20ZA;30TENU;30SQUARED TIMES KUR;20ZAG;20ZAMX",
    "20ZE2;20ZI;30OVER ZI;20ZI3;20ZIB;30KABA TENU;20ZIG;20ZIZ2;20ZU;20ZU5;30TIMES A;20ZUBUR",
    "20ZUM;20KAP ELAMITE;20AB TIMES NUN;20AB2 TIMES A;20AMAR TIMES KUG",
    "20DAG KISIM5 TIMES U2 PLUS MASH;20DAG3;20DISH PLUS SHU;20DUB TIMES SHE;20EZEN TIMES GUD",
    "40SHE;20GA2 TIMES AN PLUS KAK PLUS A;40ASH2;20GE22;20GIG;20HUSH;20KA TIMES ANSHE;40ASH3",
    "40GISH;40GUD;40HI TIMES ASH2;40LUM;40PA;40SHUL;40TU;40UR2;20LAGAB TIMES GI",
    "20LU2 SHESHIG TIMES BAD;30TIMES ESH2 PLUS LAL;40SHU;20MESH;20MUSH3 TIMES ZA;20NA4;20NIN",
    "20NIN9;20NINDA2 TIMES BAL;40GI;20NU11 ROTATED NINETY DEGREES;20PESH2 ASTERISK;20PIR2",
    "20SAG TIMES IGI GUNU;20TI2;20UM TIMES ME;20U U"]⟩,
    ⟨0x12400, [
    "00CUNEIFORM NUMERIC SIGN TWO ASH;31THREE;31FOUR;31FIVE;31SIX;31SEVEN;31EIGHT;31NINE",
    "30THREE DISH;31FOUR;31FIVE;31SIX;31SEVEN;31EIGHT;31NINE;30FOUR U;31FIVE;31SIX;31SEVEN",
    "31EIGHT;31NINE;30ONE GESH2;31TWO;31THREE;31FOUR;31FIVE;31SIX;31SEVEN;31EIGHT;31NINE",
    "30ONE GESHU;31TWO;31THREE;31FOUR;31FIVE;30TWO SHAR2;31THREE;50VARIANT FORM;30FOUR SHAR2",
    "31FIVE;31SIX;31SEVEN;31EIGHT;31NINE;30ONE SHARU;31TWO;31THREE;50VARIANT FORM;30FOUR SHARU",
    "31FIVE;30SHAR2 TIMES GAL PLUS DISH;70MIN;30ONE BURU;31TWO;31THREE;50VARIANT FORM",
    "30FOUR BURU;31FIVE;30THREE VARIANT FORM ESH16;60ESH21;30FOUR VARIANT FORM LIMMU;60LIMMU4",
    "60LIMMU A;70B;30SIX VARIANT FORM ASH9;30SEVEN VARIANT FORM IMIN3;60IMIN A;70B",
    "30EIGHT VARIANT FORM USSU;60USSU3;30NINE VARIANT FORM ILIMMU;60ILIMMU3;60ILIMMU4",
    "60ILIMMU A;30TWO ASH TENU;32THREE;32FOUR;32FIVE;32SIX;30ONE BAN2;31TWO;31THREE;31FOUR",
    "50VARIANT FORM;30FIVE BAN2;50VARIANT FORM;30NIGIDAMIN;30NIGIDAESH;30ONE ESHE3;31TWO",
    "30ONE THIRD DISH;31TWO THIRDS;31FIVE SIXTHS;30ONE THIRD VARIANT FORM A;33TWO THIRDS",
    "30ONE EIGHTH ASH;41QUARTER;30OLD ASSYRIAN ONE SIXTH;60QUARTER;30ONE QUARTER GUR;41HALF",
    "30ELAMITE ONE THIRD;40TWO THIRDS;40FORTY;40FIFTY;30FOUR U VARIANT FORM;33FIVE;33SIX",
    "33SEVEN;33EIGHT;33NINE;;10PUNCTUATION SIGN OLD ASSYRIAN WORD DIVIDER;30VERTICAL COLON",
    "31DIAGONAL;40TRICOLON;40QUADCOLON;;;;;;;;;;;;10SIGN AB TIMES NUN TENU;40SHU2",
    "20AD TIMES ESH2;20BAD TIMES DISH TENU;20BAHAR2 TIMES AB2;40NI;40ZA;20BU OVER BU TIMES NA2",
    "20DA TIMES TAK4;20DAG TIMES KUR;20DIM TIMES IGI;40U U U;20DIM2 TIMES UD;20DUG TIMES ANSHE",
    "40ASH;50AT LEFT;40DIN;40DUN;40ERIN2;40GA;40GI;40GIR2 GUNU;40GISH;40HA;40HI;40IGI GUNU",
    "40KASKAL;40KUR;40KUSHU2;50PLUS KASKAL;40LAK-020;40LAM;50TIMES KUR;40LUH PLUS GISH;40MASH",
    "40MES;40MI;40NI;40PI;40SHE;40SI GUNU;20E2 TIMES KUR;40PAP;20ERIN2 X;20ESH2 CROSSING ESH2",
    "20EZEN SHESHIG TIMES ASH;50HI;50IGI GUNU;50LA;50LAL;50ME;50MES;50SU;32;20GA2 TIMES BAHAR2",
    "40DIM GUNU;41DUG TIMES IGI;60KASKAL;40EREN;40GA;40GAR PLUS DI;60NE;40HA PLUS A",
    "40KUSHU2 PLUS KASKAL;40LAM;50TIMES KUR;40LUH;40MUSH;40NE;50PLUS E2;60GI;40SHIM;40ZIZ2",
    "20GABA ROTATED NINETY DEGREES;20GESHTIN TIMES U;20GISH TIMES GISH CROSSING GISH",
    "20GU2 TIMES IGI GUNU;20GUD PLUS GISH TIMES TAK4;20HA TENU GUNU",
    "20HI TIMES ASH OVER HI TIMES ASH;20KA TIMES BU;40KA;40U U U;40UR;20LAGAB TIMES ZU OVER ZU",
    "20LAK-003;20LAK-021;20LAK-025;20LAK-030;20LAK-050;20LAK-051;20LAK-062",
    "20LAK-079 OVER LAK-079 GUNU;20LAK-080;20LAK-081 OVER LAK-081;20LAK-092;20LAK-130;20LAK-142",
    "20LAK-210;20LAK-219;20LAK-220;20LAK-225;20LAK-228;20LAK-238;20LAK-265;20LAK-266;20LAK-343",
    "20LAK-347;20LAK-348;20LAK-383;20LAK-384;20LAK-390;20LAK-441;20LAK-449;30TIMES GU;40IGI",
    "40PAP PLUS LU3;61PAP PLUS;40U2 PLUS BA;20LAK-450;20LAK-457;20LAK-470;20LAK-483;20LAK-490",
    "20LAK-492;20LAK-493;20LAK-495;20LAK-550;20LAK-608;20LAK-617;30TIMES ASH;40BAD",
    "40DUN3 GUNU GUNU;40KU3;40LA;40TAR;40TE;40U2;40UD;40URUDA;20LAK-636;20LAK-648;30TIMES DUB",
    "40GA;40IGI;50GUNU;40NI;40PAP PLUS PAP PLUS LU3;40SHESH PLUS KI;40UD;40URUDA;20LAK-724",
    "20LAK-749;20LU2 GUNU TIMES ASH;30TIMES DISH;40HAL;40PAP;50PLUS PAP PLUS LU3;40TAK4",
    "20MI PLUS ZA7;20MUSH OVER MUSH TIMES GA;60KAK;20NINDA2 TIMES DIM GUNU;40GISH;40GUL;40HI",
    "40KESH2;40LAK-050;40MASH;40PAP PLUS PAP;40U;50PLUS U;40URUDA;20SAG GUNU TIMES HA",
    "30TIMES EN;40SHE AT LEFT;40TAK4;20SHA6 TENU;20SHE OVER SHE;30PLUS HUB2;40NAM2;40SAR",
    "20SHU2 PLUS DUG TIMES NI;40E2 TIMES AN;20SI TIMES TAK4;20TAK4 PLUS SAG",
    "20TUM TIMES GAN2 TENU;40THREE DISH;20UR2 INVERTED;30TIMES UD;20URU TIMES DARA3;40LAK-668",
    "40LU3;20ZA7;20ZU OVER ZU PLUS SAR;20ZU5 TIMES THREE DISH TENU"]⟩]

end QuerySchema.Text.CharacterName
