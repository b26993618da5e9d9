import QuerySchema.Text.CharacterName.Run

/-!
Names of the characters from U+12F90 on.
-/

namespace QuerySchema.Text.CharacterName

/-- The names from U+12F90 on. -/
def namesFrom12F90 : List NameRun :=
  [⟨0x12F90, [
    "00CYPRO-MINOAN SIGN CM001;20CM002;20CM004;20CM005;20CM006;20CM007;20CM008;20CM009;20CM010",
    "20CM011;20CM012;20CM012B;20CM013;20CM015;20CM017;20CM019;20CM021;20CM023;20CM024;20CM025",
    "20CM026;20CM027;20CM028;20CM029;20CM030;20CM033;20CM034;20CM035;20CM036;20CM037;20CM038",
    "20CM039;20CM040;20CM041;20CM044;20CM046;20CM047;20CM049;20CM050;20CM051;20CM052;20CM053",
    "20CM054;20CM055;20CM056;20CM058;20CM059;20CM060;20CM061;20CM062;20CM063;20CM064;20CM066",
    "20CM067;20CM068;20CM069;20CM070;20CM071;20CM072;20CM073;20CM074;20CM075;20CM075B;20CM076",
    "20CM078;20CM079;20CM080;20CM081;20CM082;20CM083;20CM084;20CM085;20CM086;20CM087;20CM088",
    "20CM089;20CM090;20CM091;20CM092;20CM094;20CM095;20CM096;20CM097;20CM098;20CM099;20CM100",
    "20CM101;20CM102;20CM103;20CM104;20CM105;20CM107;20CM108;20CM109;20CM110;20CM112;20CM114",
    "20CM301;20CM302;;;;;;;;;;;;;;00EGYPTIAN HIEROGLYPH A001;20A002;20A003;20A004;20A005",
    "20A005A;20A006;20A006A;20A006B;20A007;20A008;20A009;20A010;20A011;20A012;20A013;20A014",
    "20A014A;20A015;20A016;20A017;20A017A;20A018;20A019;20A020;20A021;20A022;20A023;20A024",
    "20A025;20A026;20A027;20A028;20A029;20A030;20A031;20A032;20A032A;20A033;20A034;20A035",
    "20A036;20A037;20A038;20A039;20A040;20A040A;20A041;20A042;20A042A;20A043;20A043A;20A044",
    "20A045;20A045A;20A046;20A047;20A048;20A049;20A050;20A051;20A052;20A053;20A054;20A055",
    "20A056;20A057;20A058;20A059;20A060;20A061;20A062;20A063;20A064;20A065;20A066;20A067;20A068",
    "20A069;20A070;20B001;20B002;20B003;20B004;20B005;20B005A;20B006;20B007;20B008;20B009",
    "20C001;20C002;20C002A;20C002B;20C002C;20C003;20C004;20C005;20C006;20C007;20C008;20C009",
    "20C010;20C010A;20C011;20C012;20C013;20C014;20C015;20C016;20C017;20C018;20C019;20C020",
    "20C021;20C022;20C023;20C024;20D001;20D002;20D003;20D004;20D005;20D006;20D007;20D008",
    "20D008A;20D009;20D010;20D011;20D012;20D013;20D014;20D015;20D016;20D017;20D018;20D019",
    "20D020;20D021;20D022;20D023;20D024;20D025;20D026;20D027;20D027A;20D028;20D029;20D030",
    "20D031;20D031A;20D032;20D033;20D034;20D034A;20D035;20D036;20D037;20D038;20D039;20D040",
    "20D041;20D042;20D043;20D044;20D045;20D046;20D046A;20D047;20D048;20D048A;20D049;20D050",
    "20D050A;20D050B;20D050C;20D050D;20D050E;20D050F;20D050G;20D050H;20D050I;20D051;20D052",
    "20D052A;20D053;20D054;20D054A;20D055;20D056;20D057;20D058;20D059;20D060;20D061;20D062",
    "20D063;20D064;20D065;20D066;20D067;20D067A;20D067B;20D067C;20D067D;20D067E;20D067F;20D067G",
    "20D067H;20E001;20E002;20E003;20E004;20E005;20E006;20E007;20E008;20E008A;20E009;20E009A",
    "20E010;20E011;20E012;20E013;20E014;20E015;20E016;20E016A;20E017;20E017A;20E018;20E019",
    "20E020;20E020A;20E021;20E022;20E023;20E024;20E025;20E026;20E027;20E028;20E028A;20E029",
    "20E030;20E031;20E032;20E033;20E034;20E034A;20E036;20E037;20E038;20F001;20F001A;20F002",
    "20F003;20F004;20F005;20F006;20F007;20F008;20F009;20F010;20F011;20F012;20F013;20F013A",
    "20F014;20F015;20F016;20F017;20F018;20F019;20F020;20F021;20F021A;20F022;20F023;20F024",
    "20F025;20F026;20F027;20F028;20F029;20F030;20F031;20F031A;20F032;20F033;20F034;20F035",
    "20F036;20F037;20F037A;20F038;20F038A;20F039;20F040;20F041;20F042;20F043;20F044;20F045",
    "20F045A;20F046;20F046A;20F047;20F047A;20F048;20F049;20F050;20F051;20F051A;20F051B;20F051C",
    "20F052;20F053;20G001;20G002;20G003;20G004;20G005;20G006;20G006A;20G007;20G007A;20G007B",
    "20G008;20G009;20G010;20G011;20G011A;20G012;20G013;20G014;20G015;20G016;20G017;20G018",
    "20G019;20G020;20G020A;20G021;20G022;20G023;20G024;20G025;20G026;20G026A;20G027;20G028",
    "20G029;20G030;20G031;20G032;20G033;20G034;20G035;20G036;20G036A;20G037;20G037A;20G038",
    "20G039;20G040;20G041;20G042;20G043;20G043A;20G044;20G045;20G045A;20G046;20G047;20G048",
    "20G049;20G050;20G051;20G052;20G053;20G054;20H001;20H002;20H003;20H004;20H005;20H006",
    "20H006A;20H007;20H008;20I001;20I002;20I003;20I004;20I005;20I005A;20I006;20I007;20I008",
    "20I009;20I009A;20I010;20I010A;20I011;20I011A;20I012;20I013;20I014;20I015;20K001;20K002",
    "20K003;20K004;20K005;20K006;20K007;20K008;20L001;20L002;20L002A;20L003;20L004;20L005",
    "20L006;20L006A;20L007;20L008;20M001;20M001A;20M001B;20M002;20M003;20M003A;20M004;20M005",
    "20M006;20M007;20M008;20M009;20M010;20M010A;20M011;20M012;20M012A;20M012B;20M012C;20M012D",
    "20M012E;20M012F;20M012G;20M012H;20M013;20M014;20M015;20M015A;20M016;20M016A;20M017;20M017A",
    "20M018;20M019;20M020;20M021;20M022;20M022A;20M023;20M024;20M024A;20M025;20M026;20M027",
    "20M028;20M028A;20M029;20M030;20M031;20M031A;20M032;20M033;20M033A;20M033B;20M034;20M035",
    "20M036;20M037;20M038;20M039;20M040;20M040A;20M041;20M042;20M043;20M044;20N001;20N002",
    "20N003;20N004;20N005;20N006;20N007;20N008;20N009;20N010;20N011;20N012;20N013;20N014;20N015",
    "20N016;20N017;20N018;20N018A;20N018B;20N019;20N020;20N021;20N022;20N023;20N024;20N025",
    "20N025A;20N026;20N027;20N028;20N029;20N030;20N031;20N032;20N033;20N033A;20N034;20N034A",
    "20N035;20N035A;20N036;20N037;20N037A;20N038;20N039;20N040;20N041;20N042;20NL001;20NL002",
    "20NL003;20NL004;20NL005;20NL005A;20NL006;20NL007;20NL008;20NL009;20NL010;20NL011;20NL012",
    "20NL013;20NL014;20NL015;20NL016;20NL017;20NL017A;20NL018;20NL019;20NL020;20NU001;20NU002",
    "20NU003;20NU004;20NU005;20NU006;20NU007;20NU008;20NU009;20NU010;20NU010A;20NU011;20NU011A",
    "20NU012;20NU013;20NU014;20NU015;20NU016;20NU017;20NU018;20NU018A;20NU019;20NU020;20NU021",
    "20NU022;20NU022A;20O001;20O001A;20O002;20O003;20O004;20O005;20O005A;20O006;20O006A;20O006B",
    "20O006C;20O006D;20O006E;20O006F;20O007;20O008;20O009;20O010;20O010A;20O010B;20O010C;20O011",
    "20O012;20O013;20O014;20O015;20O016;20O017;20O018;20O019;20O019A;20O020;20O020A;20O021",
    "20O022;20O023;20O024;20O024A;20O025;20O025A;20O026;20O027;20O028;20O029;20O029A;20O030",
    "20O030A;20O031;20O032;20O033;20O033A;20O034;20O035;20O036;20O036A;20O036B;20O036C;20O036D",
    "20O037;20O038;20O039;20O040;20O041;20O042;20O043;20O044;20O045;20O046;20O047;20O048;20O049",
    "20O050;20O050A;20O050B;20O051;20P001;20P001A;20P002;20P003;20P003A;20P004;20P005;20P006",
    "20P007;20P008;20P009;20P010;20P011;20Q001;20Q002;20Q003;20Q004;20Q005;20Q006;20Q007;20R001",
    "20R002;20R002A;20R003;20R003A;20R003B;20R004;20R005;20R006;20R007;20R008;20R009;20R010",
    "20R010A;20R011;20R012;20R013;20R014;20R015;20R016;20R016A;20R017;20R018;20R019;20R020",
    "20R021;20R022;20R023;20R024;20R025;20R026;20R027;20R028;20R029;20S001;20S002;20S002A",
    "20S003;20S004;20S005;20S006;20S006A;20S007;20S008;20S009;20S010;20S011;20S012;20S013",
    "20S014;20S014A;20S014B;20S015;20S016;20S017;20S017A;20S018;20S019;20S020;20S021;20S022",
    "20S023;20S024;20S025;20S026;20S026A;20S026B;20S027;20S028;20S029;20S030;20S031;20S032",
    "20S033;20S034;20S035;20S035A;20S036;20S037;20S038;20S039;20S040;20S041;20S042;20S043",
    "20S044;20S045;20S046;20T001;20T002;20T003;20T003A;20T004;20T005;20T006;20T007;20T007A",
    "20T008;20T008A;20T009;20T009A;20T010;20T011;20T011A;20T012;20T013;20T014;20T015;20T016",
    "20T016A;20T017;20T018;20T019;20T020;20T021;20T022;20T023;20T024;20T025;20T026;20T027",
    "20T028;20T029;20T030;20T031;20T032;20T032A;20T033;20T033A;20T034;20T035;20T036;20U001",
    "20U002;20U003;20U004;20U005;20U006;20U006A;20U006B;20U007;20U008;20U009;20U010;20U011",
    "20U012;20U013;20U014;20U015;20U016;20U017;20U018;20U019;20U020;20U021;20U022;20U023",
    "20U023A;20U024;20U025;20U026;20U027;20U028;20U029;20U029A;20U030;20U031;20U032;20U032A",
    "20U033;20U034;20U035;20U036;20U037;20U038;20U039;20U040;20U041;20U042;20V001;20V001A",
    "20V001B;20V001C;20V001D;20V001E;20V001F;20V001G;20V001H;20V001I;20V002;20V002A;20V003",
    "20V004;20V005;20V006;20V007;20V007A;20V007B;20V008;20V009;20V010;20V011;20V011A;20V011B",
    "20V011C;20V012;20V012A;20V012B;20V013;20V014;20V015;20V016;20V017;20V018;20V019;20V020",
    "20V020A;20V020B;20V020C;20V020D;20V020E;20V020F;20V020G;20V020H;20V020I;20V020J;20V020K",
    "20V020L;20V021;20V022;20V023;20V023A;20V024;20V025;20V026;20V027;20V028;20V028A;20V029",
    "20V029A;20V030;20V030A;20V031;20V031A;20V032;20V033;20V033A;20V034;20V035;20V036;20V037",
    "20V037A;20V038;20V039;20V040;20V040A;20W001;20W002;20W003;20W003A;20W004;20W005;20W006",
    "20W007;20W008;20W009;20W009A;20W010;20W010A;20W011;20W012;20W013;20W014;20W014A;20W015",
    "20W016;20W017;20W017A;20W018;20W018A;20W019;20W020;20W021;20W022;20W023;20W024;20W024A",
    "20W025;20X001;20X002;20X003;20X004;20X004A;20X004B;20X005;20X006;20X006A;20X007;20X008",
    "20X008A;20Y001;20Y001A;20Y002;20Y003;20Y004;20Y005;20Y006;20Y007;20Y008;20Z001;20Z002",
    "20Z002A;20Z002B;20Z002C;20Z002D;20Z003;20Z003A;20Z003B;20Z004;20Z004A;20Z005;20Z005A",
    "20Z006;20Z007;20Z008;20Z009;20Z010;20Z011;20Z012;20Z013;20Z014;20Z015;20Z015A;20Z015B",
    "20Z015C;20Z015D;20Z015E;20Z015F;20Z015G;20Z015H;20Z015I;20Z016;20Z016A;20Z016B;20Z016C",
    "20Z016D;20Z016E;20Z016F;20Z016G;20Z016H;20AA001;20AA002;20AA003;20AA004;20AA005;20AA006",
    "20AA007;20AA007A;20AA007B;20AA008;20AA009;20AA010;20AA011;20AA012;20AA013;20AA014;20AA015",
    "20AA016;20AA017;20AA018;20AA019;20AA020;20AA021;20AA022;20AA023;20AA024;20AA025;20AA026",
    "20AA027;20AA028;20AA029;20AA030;20AA031;20AA032;;20VERTICAL JOINER;21HORIZONTAL",
    "20INSERT AT TOP START;41BOTTOM;40TOP END;41BOTTOM;20OVERLAY MIDDLE;20BEGIN SEGMENT;21END"]⟩,
    ⟨0x14400, [
    "00ANATOLIAN HIEROGLYPH A001;20A002;20A003;20A004;20A005;20A006;20A007;20A008;20A009;20A010",
    "20A010A;20A011;20A012;20A013;20A014;20A015;20A016;20A017;20A018;20A019;20A020;20A021",
    "20A022;20A023;20A024;20A025;20A026;20A026A;20A027;20A028;20A029;20A030;20A031;20A032",
    "20A033;20A034;20A035;20A036;20A037;20A038;20A039;20A039A;20A040;20A041;20A041A;20A042",
    "20A043;20A044;20A045;20A045A;20A046;20A046A;20A046B;20A047;20A048;20A049;20A050;20A051",
    "20A052;20A053;20A054;20A055;20A056;20A057;20A058;20A059;20A060;20A061;20A062;20A063;20A064",
    "20A065;20A066;20A066A;20A066B;20A066C;20A067;20A068;20A069;20A070;20A071;20A072;20A073",
    "20A074;20A075;20A076;20A077;20A078;20A079;20A080;20A081;20A082;20A083;20A084;20A085;20A086",
    "20A087;20A088;20A089;20A090;20A091;20A092;20A093;20A094;20A095;20A096;20A097;20A097A",
    "20A098;20A098A;20A099;20A100;20A100A;20A101;20A101A;20A102;20A102A;20A103;20A104;20A104A",
    "20A104B;20A104C;20A105;20A105A;20A105B;20A106;20A107;20A107A;20A107B;20A107C;20A108;20A109",
    "20A110;20A110A;20A110B;20A111;20A112;20A113;20A114;20A115;20A115A;20A116;20A117;20A118",
    "20A119;20A120;20A121;20A122;20A123;20A124;20A125;20A125A;20A126;20A127;20A128;20A129",
    "20A130;20A131;20A132;20A133;20A134;20A135;20A135A;20A136;20A137;20A138;20A139;20A140",
    "20A141;20A142;20A143;20A144;20A145;20A146;20A147;20A148;20A149;20A150;20A151;20A152;20A153",
    "20A154;20A155;20A156;20A157;20A158;20A159;20A160;20A161;20A162;20A163;20A164;20A165;20A166",
    "20A167;20A168;20A169;20A170;20A171;20A172;20A173;20A174;20A175;20A176;20A177;20A178;20A179",
    "20A180;20A181;20A182;20A183;20A184;20A185;20A186;20A187;20A188;20A189;20A190;20A191;20A192",
    "20A193;20A194;20A195;20A196;20A197;20A198;20A199;20A200;20A201;20A202;20A202A;20A202B",
    "20A203;20A204;20A205;20A206;20A207;20A207A;20A208;20A209;20A209A;20A210;20A211;20A212",
    "20A213;20A214;20A215;20A215A;20A216;20A216A;20A217;20A218;20A219;20A220;20A221;20A222",
    "20A223;20A224;20A225;20A226;20A227;20A227A;20A228;20A229;20A230;20A231;20A232;20A233",
    "20A234;20A235;20A236;20A237;20A238;20A239;20A240;20A241;20A242;20A243;20A244;20A245;20A246",
    "20A247;20A248;20A249;20A250;20A251;20A252;20A253;20A254;20A255;20A256;20A257;20A258;20A259",
    "20A260;20A261;20A262;20A263;20A264;20A265;20A266;20A267;20A267A;20A268;20A269;20A270",
    "20A271;20A272;20A273;20A274;20A275;20A276;20A277;20A278;20A279;20A280;20A281;20A282;20A283",
    "20A284;20A285;20A286;20A287;20A288;20A289;20A289A;20A290;20A291;20A292;20A293;20A294",
    "20A294A;20A295;20A296;20A297;20A298;20A299;20A299A;20A300;20A301;20A302;20A303;20A304",
    "20A305;20A306;20A307;20A308;20A309;20A309A;20A310;20A311;20A312;20A313;20A314;20A315",
    "20A316;20A317;20A318;20A319;20A320;20A321;20A322;20A323;20A324;20A325;20A326;20A327;20A328",
    "20A329;20A329A;20A330;20A331;20A332A;20A332B;20A332C;20A333;20A334;20A335;20A336;20A336A",
    "20A336B;20A336C;20A337;20A338;20A339;20A340;20A341;20A342;20A343;20A344;20A345;20A346",
    "20A347;20A348;20A349;20A350;20A351;20A352;20A353;20A354;20A355;20A356;20A357;20A358;20A359",
    "20A359A;20A360;20A361;20A362;20A363;20A364;20A364A;20A365;20A366;20A367;20A368;20A368A",
    "20A369;20A370;20A371;20A371A;20A372;20A373;20A374;20A375;20A376;20A377;20A378;20A379",
    "20A380;20A381;20A381A;20A382;20A383 RA OR RI;20A383A;20A384;20A385;20A386;20A386A;20A387",
    "20A388;20A389;20A390;20A391;20A392;20A393 EIGHT;20A394;20A395;20A396;20A397;20A398;20A399",
    "20A400;20A401;20A402;20A403;20A404;20A405;20A406;20A407;20A408;20A409",
    "20A410 BEGIN LOGOGRAM MARK;22A410A END;20A411;20A412;20A413;20A414;20A415;20A416;20A417",
    "20A418;20A419;20A420;20A421;20A422;20A423;20A424;20A425;20A426;20A427;20A428;20A429;20A430",
    "20A431;20A432;20A433;20A434;20A435;20A436;20A437;20A438;20A439;20A440;20A441;20A442;20A443",
    "20A444;20A445;20A446;20A447;20A448;20A449;20A450;20A450A;20A451;20A452;20A453;20A454",
    "20A455;20A456;20A457;20A457A;20A458;20A459;20A460;20A461;20A462;20A463;20A464;20A465",
    "20A466;20A467;20A468;20A469;20A470;20A471;20A472;20A473;20A474;20A475;20A476;20A477;20A478",
    "20A479;20A480;20A481;20A482;20A483;20A484;20A485;20A486;20A487;20A488;20A489;20A490;20A491",
    "20A492;20A493;20A494;20A495;20A496;20A497;20A501;20A502;20A503;20A504;20A505;20A506;20A507",
    "20A508;20A509;20A510;20A511;20A512;20A513;20A514;20A515;20A516;20A517;20A518;20A519;20A520",
    "20A521;20A522;20A523;20A524;20A525;20A526;20A527;20A528;20A529;20A530"]⟩,
    ⟨0x16800, [
    "00BAMUM LETTER PHASE-A NGKUE MFON;30GBIEE FON;30PON MFON PIPAEMGBIEE;50PIPAEMBA;30NAA MFON",
    "30SHUENSHUET;30TITA MFON;31NZA;30SHINDA PA NJI;30PON PA NJI PIPAEMGBIEE;60PIPAEMBA",
    "30MAEMBGBIEE;30TU MAEMBA;30NGANGU;30MAEMVEUX;30MANSUAE;30MVEUAENGAM;30SEUNYAM;30NTOQPEN",
    "30KEUKEUTNDA;30NKINDI;30SUU;30NGKUENZEUM;30LAPAQ;30LET KUT;30NTAP MFAA;30MAEKEUP;30PASHAE",
    "30GHEUAERAE;30PAMSHAE;30MON NGGEUAET;30NZUN MEUT;30U YUQ NAE;30GHEUAEGHEUAE;30NTAP NTAA",
    "30SISA;30MGBASA;30MEUNJOMNDEUQ;30MOOMPUQ;30KAFA;30PA LEERAEWA;31NDA;30PET;30MAEMKPEN",
    "30NIKA;30PUP;30TUAEP;30LUAEP;30SONJAM;30TEUTEUWEN;30MAENYI;30KET;30NDAANGGEUAET;30KUOQ",
    "30MOOMEUT;30SHUM;30LOMMAE;30FIRI;30ROM;30KPOQ;30SOQ;30MAP PIEET;30SHIRAE;30NTAP",
    "30SHOQ NSHUT YUM;30NYIT MONGKEUAEQ;30PAARAE;30NKAARAE;30UNKNOWN;30NGGEN;30MAESI;30NJAM",
    "30MBANYI;30NYET;30TEUAEN;30SOT;30PAAM;30NSHIEE;30MAEM;30NYI;30KAQ;30NSHA;30VEE;30LU;30NEN",
    "30NAQ;30MBAQ;20PHASE-B NSHUET;30TU MAEMGBIEE;30SIEE;30SET TU;30LOM NTEUM;30MBA MAELEE",
    "30KIEEM;30YEURAE;30MBAARAE;30KAM;30PEESHI;30YAFU LEERAEWA;30LAM NSHUT NYAM;30NTIEE SHEUOQ",
    "30NDU NJAA;30GHEUGHEUAEM;30PIT;30TU NSIEE;30SHET NJAQ;30SHEUAEQTU;30MFON TEUAEQ",
    "30MBIT MBAAKET;30NYI NTEUM;30KEUPUQ;30GHEUGHEN;30KEUYEUX;30LAANAE;30PARUM;30VEUM",
    "30NGKINDI MVOP;30NGGEU MBU;30WUAET;30SAKEUAE;30TAAM;30MEUQ;30NGGUOQ;40LARGE;30MFIYAQ;30SUE",
    "30MBEURI;30MONTIEEN;30NYAEMAE;30PUNGAAM;30MEUT NGGEET;30FEUX;30MBUOQ;30FEE;30KEUAEM",
    "30MA NJEUAENA;40NJUQA;30LET;30NGGAAM;30NSEN;30MA;30KIQ;30NGOM;20PHASE-C NGKUE MAEMBA;30NZA",
    "30YUM;30WANGKUOQ;30NGGEN;30NDEUAEREE;30NGKAQ;30GHARAE;30MBEEKEET;30GBAYI",
    "30NYIR MKPARAQ MEUN;30NTU MBIT;30MBEUM;30PIRIEEN;30NDOMBU;30MBAA CABBAGE-TREE;30KEUSHEUAEP",
    "30GHAP;30KEUKAQ;30YU MUOMAE;30NZEUM;30MBUE;30NSEUAEN;30MBIT;30YEUQ;30KPARAQ;30KAA;30SEUX",
    "30NDIDA;30TAASHAE;30NJUEQ;30TITA YUE;30SUAET;30NGGUAEN NYAM;30VEUX;30NANSANAQ;30MA KEUAERI",
    "30NTAA;30NGGUON;30LAP;30MBIRIEEN;30MGBASAQ;30NTEUNGBA;30TEUTEUX;30NGGUM;30FUE;30NDEUT",
    "30NSA;30NSHAQ;30BUNG;30VEUAEPEN;30MBERAE;30RU;30NJAEM;30LAM;30TITUAEP;30NSUOT NGOM",
    "30NJEEEE;30KET;30NGGU;30MAESI;30MBUAEM;30LU;30KUT;30NJAM;30NGOM;30WUP;30NGGUEET;30NSOM",
    "30NTEN;30KUOP NKAARAE;30NSUN;30NDAM;30MA NSIEE;30YAA;30NDAP;30SHUEQ;30SETFON;30MBI",
    "30MAEMBA;30MBANYI;30KEUSEUX;30MBEUX;30KEUM;30MBAA PICKET;30YUWOQ;30NJEUX;30MIEE;30MUAE",
    "30SHIQ;30KEN LAW;40FATIGUE;30NGAQ;30NAQ;30LIQ;30PIN;30PEN;30TET;20PHASE-D MBUO;30WAP;30NJI",
    "30MFON;30NJIEE;30LIEE;30NJEUT;30NSHEE;30NGGAAMAE;30NYAM;30WUAEN;30NGKUN;30SHEE;30NGKAP",
    "30KEUAETMEUN;30TEUT;30SHEUAE;30NJAP;30SUE;30KET;30YAEMMAE;30KUOM;30SAP;30MFEUT;30NDEUX",
    "30MALEERI;30MEUT;30SEUAEQ;30YEN;30NJEUAEM;30KEUOT MBUAE;30NGKEURI;30TU;30GHAA;30NGKYEE",
    "30FEUFEUAET;30NDEE;30MGBOFUM;30LEUAEP;30NDON;30MONI;30MGBEUN;30PUUT;30MGBIEE;30MFO;30LUM",
    "30NSIEEP;30MBAA;30KWAET;30NYET;30TEUAEN;30SOT;30YUWOQ;30KEUM;30RAEM;30TEEEE;30NGKEUAEQ",
    "30MFEUAE;30NSIEET;30KEUP;30PIP;30PEUTAE;30NYUE;30LET;30NGGAAM;30MFIEE;30NGGWAEN;30YUOM",
    "30PAP;30YUOP;30NDAM;30NTEUM;30SUAE;30KUN;30NGGEUX;30NGKIEE;30TUOT;30MEUN;30KUQ;30NSUM",
    "30TEUN;30MAENJET;30NGGAP;30LEUM;30NGGUOM;30NSHUT;30NJUEQ;30GHEUAE;30KU;30REN OLD;30TAE",
    "30TOQ;30NYI;30RII;30LEEEE;30MEEEE;30M;30SUU;30MU;30SHII;30SHEUX;30KYEE;30NU;30SHU;30NTEE",
    "30PEE;30NI;30SHOQ;30PUQ;30MVOP;30LOQ;30REN MUCH;30TI;30NTUU;30MBAA SEVEN;30SAQ;30FAA",
    "20PHASE-E NDAP;30TOON;30MBEUM;30LAP;30VOM;30LOON;30PAA;30SOM;30RAQ;30NSHUOP;30NDUN;30PUAE",
    "30TAM;30NGKA;30KPEUX;30WUO;30SEE;30NGGEUAET;30PAAM;30TOO;30KUOP;30LOM;30NSHIEE;30NGOP",
    "30MAEM;30NGKEUX;30NGOQ;30NSHUE;30RIMGBA;30NJEUX;30PEEM;30SAA;30NGGURAE;30MGBA;30GHEUX",
    "30NGKEUAEM;30NJAEMLI;30MAP;30LOOT;30NGGEEEE;30NDIQ;30TAEN NTEUM;30SET;30PUM",
    "30NDAA SOFTNESS;30NGGUAESHAE NYAM;30YIEE;30GHEUN;30TUAE;30YEUAE;30PO;30TUMAE;30KEUAE",
    "30SUAEN;30TEUAEQ;30VEUAE;30WEUX;30LAAM;30PU;30TAAQ;30GHAAMAE;30NGEUREUT;30SHEUAEQ;30MGBEN",
    "30MBEE;30NZAQ;30NKOM;30GBET;30TUM;30KUET;30YAP;30NYI CLEAVER;30YIT;30MFEUQ;30NDIAQ;30PIEEQ",
    "30YUEQ;30LEUAEM;30FUE;30GBEUX;30NGKUP;30KET;30MAE;30NGKAAMI;30GHET;30FA;30NTUM;30PEUT",
    "30YEUM;30NGGEUAE;30NYI BETWEEN;30NZUQ;30POON;30MIEE;30FUET;30NAE;30MUAE;30GHEUAE;30FU I",
    "30MVI;30PUAQ;30NGKUM;30KUT;30PIET;30NTAP;30YEUAET;30NGGUP;30PA PEOPLE;30FU CALL;30FOM",
    "30NJEE;30A;30TOQ;30O;30I;30LAQ;30PA PLURAL;30TAA;30TAQ;30NDAA MY HOUSE;30SHIQ;30YEUX",
    "30NGUAE;30YUAEN;30YOQ SWIMMING;40COVER;30YUQ;30YUN;30KEUX;30PEUX;30NJEE EPOCH;30PUE;30WUE",
    "30FEE;30VEE;30LU;30MI;30REUX;30RAE;30NGUAET;30NGA;30SHO;30SHOQ;30FU REMEDY;30NA;30PI;30LOQ",
    "30KO;30MEN;30MA;30MAQ;30TEU;30KI;30MON;30TEN;30FAQ;30GHOM;20PHASE-F KA;30U;30KU;30EE;30REE",
    "30TAE;30NYI;30LA;30RII;30RIEE;30MEEEE;30TAA;30NDAA;30NJAEM;30M;30SUU;30SHII;30SI;30SEUX",
    "30KYEE;30KET;30NUAE;30NU;30NJUAE;30YOQ;30SHU;30YA;30NSHA;30PEUX;30NTEE;30WUE;30PEE;30RU",
    "30NI;30REUX;30KEN;30NGKWAEN;30NGGA;30SHO;30PUAE;30FOM;30WA;30LI;30LOQ;30KO;30MBEN;30REN",
    "30MA;30MO;30MBAA;30TET;30KPA;30SAMBA;30VUEQ;;;;;;;;00MRO LETTER TA;20NGI;20YO;20MIM;20BA",
    "20DA;20A;20PHI;20KHAI;20HAO;20DAI;20CHU;20KEAAE;20OL;20MAEM;20NIN;20PA;20OO;20O;20RO;20SHI",
    "20THEA;20EA;20WA;20E;20KO;20LAN;20LA;20HAI;20RI;20TEK;;10DIGIT ZERO;20ONE;20TWO;20THREE",
    "20FOUR;20FIVE;20SIX;20SEVEN;20EIGHT;20NINE;;;;;10DANDA;11DOUBLE;00TANGSA LETTER OZ;20OC",
    "20OQ;20OX;20AZ;20AC;20AQ;20AX;20VZ;20VC;20VQ;20VX;20EZ;20EC;20EQ;20EX;20IZ;20IC;20IQ;20IX",
    "20UZ;20UC;20UQ;20UX;20AWZ;20AWC;20AWQ;20AWX;20UIZ;20UIC;20UIQ;20UIX;20FINAL NG;20LONG UEX",
    "20SHORT UEZ;30AWX;20UEC;20UEZ;20UEQ;20UEX;20UIUZ;20UIUC;20UIUQ;20UIUX;20MZ;20MC;20MQ;20MX",
    "20KA;20KHA;20GA;20NGA;20SA;20YA;20WA;20PA;20NYA;20PHA;20BA;20MA;20NA;20HA;20LA;20HTA;20TA",
    "20DA;20RA;20NHA;20SHA;20CA;20TSA;20GHA;20HTTA;20THA;20XA;20FA;20DHA;20CHA;20ZA;",
    "10DIGIT ZERO;20ONE;20TWO;20THREE;20FOUR;20FIVE;20SIX;20SEVEN;20EIGHT;20NINE;;;;;;",
    "00BASSA VAH LETTER ENNI;30KA;30SE;30FA;30MBE;30YIE;30GAH;30DHII;30KPAH;30JO;30HWAH;30WA",
    "30ZO;30GBU;30DO;30CE;30UWU;30TO;30BA;30VU;30YEIN;30PA;30WADDA;30A;30O;30OO;30U;30EE;30E",
    "30I;;;20COMBINING HIGH TONE;31LOW;31MID;31LOW-MID;31HIGH-LOW;20FULL STOP;;;;;;;;;;",
    "00PAHAWH HMONG VOWEL KEEB;30KEEV;30KIB;30KIV;30KAUB;30KAUV;30KUB;30KUV;30KEB;30KEV;30KAIB",
    "30KAIV;30KOOB;30KOOV;30KAWB;30KAWV;30KUAB;30KUAV;30KOB;30KOV;30KIAB;30KIAV;30KAB;30KAV",
    "30KWB;30KWV;30KAAB;30KAAV;20CONSONANT VAU;30NTSAU;30LAU;30HAU;30NLAU;30RAU;30NKAU;30QHAU",
    "30YAU;30HLAU;30MAU;30CHAU;30NCHAU;30HNAU;30PLHAU;30NTHAU;30NAU;30AU;30XAU;30CAU",
    "20MARK CIM TUB;40SO;40KES;40KHAV;40SUAM;40HOM;40TAUM;20SIGN VOS THOM;40TSHAB CEEB",
    "30CIM CHEEM;30VOS THIAB;40FEEM;30XYEEM NTXIV;40RHO;40TOV;40FAIB;30VOS SEEV;30MEEJ SUAB",
    "30VOS NRUA;30IB YAM;30XAUS;30CIM TSOV ROG;;;;;;;;;;;20DIGIT ZERO;30ONE;30TWO;30THREE",
    "30FOUR;30FIVE;30SIX;30SEVEN;30EIGHT;30NINE;;20NUMBER TENS;30HUNDREDS;30TEN THOUSANDS",
    "30MILLIONS;31HUNDRED;30TEN BILLIONS;30TRILLIONS;;20SIGN VOS LUB;30XYOO;30HLI;31THIRD-STAGE",
    "30ZWJ THAJ;30HNUB;30NQIG;30XIAB;30NTUJ;30AV;30TXHEEJ CEEV;30MEEJ TSEEB;30TAU;30LOS;30MUS",
    "30CIM HAIS LUS NTOG NTOG;40CUAM TSHOOJ;40TXWV;50CHWV;40PUB DAWB;40NRES TOS;;;;;",
    "20CLAN SIGN TSHEEJ;40YEEG;40LIS;40LAUJ;40XYOOJ;40KOO;40HAWJ;40MUAS;40THOJ;40TSAB;40PHAB",
    "40KHAB;40HAM;40VAJ;40FAJ;40YAJ;40TSWB;40KWM;40VWJ"]⟩,
    ⟨0x16E40, [
    "00MEDEFAIDRIN CAPITAL LETTER M;30S;30V;30W;30ATIU;30Z;30KP;30P;30T;30G;30F;30I;30K;30A;30J",
    "30E;30B;30C;30U;30YU;30L;30Q;30HP;30NY;30X;30D;30OE;30N;30R;30O;30AI;30Y;10SMALL LETTER M",
    "30S;30V;30W;30ATIU;30Z;30KP;30P;30T;30G;30F;30I;30K;30A;30J;30E;30B;30C;30U;30YU;30L;30Q",
    "30HP;30NY;30X;30D;30OE;30N;30R;30O;30AI;30Y;10DIGIT ZERO;20ONE;20TWO;20THREE;20FOUR;20FIVE",
    "20SIX;20SEVEN;20EIGHT;20NINE;10NUMBER TEN;20ELEVEN;20TWELVE;20THIRTEEN;20FOURTEEN",
    "20FIFTEEN;20SIXTEEN;20SEVENTEEN;20EIGHTEEN;20NINETEEN;10DIGIT ONE ALTERNATE FORM;22TWO",
    "22THREE;10COMMA;10FULL STOP;10SYMBOL AIVA;10EXCLAMATION OH"]⟩,
    ⟨0x16F00, [
    "00MIAO LETTER PA;20BA;20YI PA;20PLA;20MA;20MHA;20ARCHAIC MA;20FA;20VA;20VFA;20TA;20DA",
    "20YI TTA;30TA;20TTA;20DDA;20NA;20NHA;20YI NNA;20ARCHAIC NA;20NNA;20NNHA;20LA;20LYA;20LHA",
    "20LHYA;20TLHA;20DLHA;20TLHYA;20DLHYA;20KA;20GA;20YI KA;20QA;20QGA;20NGA;20NGHA",
    "20ARCHAIC NGA;20HA;20XA;20GHA;20GHHA;20TSSA;20DZZA;20NYA;20NYHA;20TSHA;20DZHA;20YI TSHA",
    "30DZHA;20REFORMED TSHA;20SHA;20SSA;20ZHA;20ZSHA;20TSA;20DZA;20YI TSA;20SA;20ZA;20ZSA;20ZZA",
    "20ZZSA;20ARCHAIC ZZA;20ZZYA;20ZZSYA;20WA;20AH;20HHA;20BRI;20SYI;20DZYI;20TE;20TSE;20RTE;;;",
    ";10SIGN CONSONANT MODIFIER BAR;10LETTER NASALIZATION;10SIGN ASPIRATION;20REFORMED VOICING",
    "30ASPIRATION;10VOWEL SIGN A;30AA;30AHH;30AN;30ANG;30O;30OO;30WO;30W;30E;30EN;30ENG;30OEY",
    "30I;30IA;30IAN;30IANG;30IO;30IE;30II;30IU;30ING;30U;30UA;30UAN;30UANG;30UU;30UEI;30UNG;30Y",
    "30YI;30AE;30AEE;30ERR;31ROUNDED;30ER;31ROUNDED;30AI;30EI;30AU;30OU;30N;30NG;30UOG;30YUI",
    "30OG;30OER;30VW;30IG;30EA;30IONG;30UI;;;;;;;;10TONE RIGHT;21TOP;20ABOVE;20BELOW",
    "10LETTER TONE-2;20TONE-3;20TONE-4;20TONE-5;20TONE-6;20TONE-7;20TONE-8;20REFORMED TONE-1",
    "30TONE-2;30TONE-4;30TONE-5;30TONE-6;30TONE-8"]⟩,
    ⟨0x16FE0, [
    "00TANGUT ITERATION MARK;02NUSHU;01OLD CHINESE HOOK;21ITERATION",
    "00KHITAN SMALL SCRIPT FILLER;;;;;;;;;;;;00VIETNAMESE ALTERNATE READING MARK CA;40NHAY"]⟩,
    ⟨0x18800, [
    "00TANGUT COMPONENT-001;10COMPONENT-002;10COMPONENT-003;10COMPONENT-004;10COMPONENT-005",
    "10COMPONENT-006;10COMPONENT-007;10COMPONENT-008;10COMPONENT-009;10COMPONENT-010",
    "10COMPONENT-011;10COMPONENT-012;10COMPONENT-013;10COMPONENT-014;10COMPONENT-015",
    "10COMPONENT-016;10COMPONENT-017;10COMPONENT-018;10COMPONENT-019;10COMPONENT-020",
    "10COMPONENT-021;10COMPONENT-022;10COMPONENT-023;10COMPONENT-024;10COMPONENT-025",
    "10COMPONENT-026;10COMPONENT-027;10COMPONENT-028;10COMPONENT-029;10COMPONENT-030",
    "10COMPONENT-031;10COMPONENT-032;10COMPONENT-033;10COMPONENT-034;10COMPONENT-035",
    "10COMPONENT-036;10COMPONENT-037;10COMPONENT-038;10COMPONENT-039;10COMPONENT-040",
    "10COMPONENT-041;10COMPONENT-042;10COMPONENT-043;10COMPONENT-044;10COMPONENT-045",
    "10COMPONENT-046;10COMPONENT-047;10COMPONENT-048;10COMPONENT-049;10COMPONENT-050",
    "10COMPONENT-051;10COMPONENT-052;10COMPONENT-053;10COMPONENT-054;10COMPONENT-055",
    "10COMPONENT-056;10COMPONENT-057;10COMPONENT-058;10COMPONENT-059;10COMPONENT-060",
    "10COMPONENT-061;10COMPONENT-062;10COMPONENT-063;10COMPONENT-064;10COMPONENT-065",
    "10COMPONENT-066;10COMPONENT-067;10COMPONENT-068;10COMPONENT-069;10COMPONENT-070",
    "10COMPONENT-071;10COMPONENT-072;10COMPONENT-073;10COMPONENT-074;10COMPONENT-075",
    "10COMPONENT-076;10COMPONENT-077;10COMPONENT-078;10COMPONENT-079;10COMPONENT-080",
    "10COMPONENT-081;10COMPONENT-082;10COMPONENT-083;10COMPONENT-084;10COMPONENT-085",
    "10COMPONENT-086;10COMPONENT-087;10COMPONENT-088;10COMPONENT-089;10COMPONENT-090",
    "10COMPONENT-091;10COMPONENT-092;10COMPONENT-093;10COMPONENT-094;10COMPONENT-095",
    "10COMPONENT-096;10COMPONENT-097;10COMPONENT-098;10COMPONENT-099;10COMPONENT-100",
    "10COMPONENT-101;10COMPONENT-102;10COMPONENT-103;10COMPONENT-104;10COMPONENT-105",
    "10COMPONENT-106;10COMPONENT-107;10COMPONENT-108;10COMPONENT-109;10COMPONENT-110",
    "10COMPONENT-111;10COMPONENT-112;10COMPONENT-113;10COMPONENT-114;10COMPONENT-115",
    "10COMPONENT-116;10COMPONENT-117;10COMPONENT-118;10COMPONENT-119;10COMPONENT-120",
    "10COMPONENT-121;10COMPONENT-122;10COMPONENT-123;10COMPONENT-124;10COMPONENT-125",
    "10COMPONENT-126;10COMPONENT-127;10COMPONENT-128;10COMPONENT-129;10COMPONENT-130",
    "10COMPONENT-131;10COMPONENT-132;10COMPONENT-133;10COMPONENT-134;10COMPONENT-135",
    "10COMPONENT-136;10COMPONENT-137;10COMPONENT-138;10COMPONENT-139;10COMPONENT-140",
    "10COMPONENT-141;10COMPONENT-142;10COMPONENT-143;10COMPONENT-144;10COMPONENT-145",
    "10COMPONENT-146;10COMPONENT-147;10COMPONENT-148;10COMPONENT-149;10COMPONENT-150",
    "10COMPONENT-151;10COMPONENT-152;10COMPONENT-153;10COMPONENT-154;10COMPONENT-155",
    "10COMPONENT-156;10COMPONENT-157;10COMPONENT-158;10COMPONENT-159;10COMPONENT-160",
    "10COMPONENT-161;10COMPONENT-162;10COMPONENT-163;10COMPONENT-164;10COMPONENT-165",
    "10COMPONENT-166;10COMPONENT-167;10COMPONENT-168;10COMPONENT-169;10COMPONENT-170",
    "10COMPONENT-171;10COMPONENT-172;10COMPONENT-173;10COMPONENT-174;10COMPONENT-175",
    "10COMPONENT-176;10COMPONENT-177;10COMPONENT-178;10COMPONENT-179;10COMPONENT-180",
    "10COMPONENT-181;10COMPONENT-182;10COMPONENT-183;10COMPONENT-184;10COMPONENT-185",
    "10COMPONENT-186;10COMPONENT-187;10COMPONENT-188;10COMPONENT-189;10COMPONENT-190",
    "10COMPONENT-191;10COMPONENT-192;10COMPONENT-193;10COMPONENT-194;10COMPONENT-195",
    "10COMPONENT-196;10COMPONENT-197;10COMPONENT-198;10COMPONENT-199;10COMPONENT-200",
    "10COMPONENT-201;10COMPONENT-202;10COMPONENT-203;10COMPONENT-204;10COMPONENT-205",
    "10COMPONENT-206;10COMPONENT-207;10COMPONENT-208;10COMPONENT-209;10COMPONENT-210",
    "10COMPONENT-211;10COMPONENT-212;10COMPONENT-213;10COMPONENT-214;10COMPONENT-215",
    "10COMPONENT-216;10COMPONENT-217;10COMPONENT-218;10COMPONENT-219;10COMPONENT-220",
    "10COMPONENT-221;10COMPONENT-222;10COMPONENT-223;10COMPONENT-224;10COMPONENT-225",
    "10COMPONENT-226;10COMPONENT-227;10COMPONENT-228;10COMPONENT-229;10COMPONENT-230",
    "10COMPONENT-231;10COMPONENT-232;10COMPONENT-233;10COMPONENT-234;10COMPONENT-235",
    "10COMPONENT-236;10COMPONENT-237;10COMPONENT-238;10COMPONENT-239;10COMPONENT-240",
    "10COMPONENT-241;10COMPONENT-242;10COMPONENT-243;10COMPONENT-244;10COMPONENT-245",
    "10COMPONENT-246;10COMPONENT-247;10COMPONENT-248;10COMPONENT-249;10COMPONENT-250",
    "10COMPONENT-251;10COMPONENT-252;10COMPONENT-253;10COMPONENT-254;10COMPONENT-255",
    "10COMPONENT-256;10COMPONENT-257;10COMPONENT-258;10COMPONENT-259;10COMPONENT-260",
    "10COMPONENT-261;10COMPONENT-262;10COMPONENT-263;10COMPONENT-264;10COMPONENT-265",
    "10COMPONENT-266;10COMPONENT-267;10COMPONENT-268;10COMPONENT-269;10COMPONENT-270",
    "10COMPONENT-271;10COMPONENT-272;10COMPONENT-273;10COMPONENT-274;10COMPONENT-275",
    "10COMPONENT-276;10COMPONENT-277;10COMPONENT-278;10COMPONENT-279;10COMPONENT-280",
    "10COMPONENT-281;10COMPONENT-282;10COMPONENT-283;10COMPONENT-284;10COMPONENT-285",
    "10COMPONENT-286;10COMPONENT-287;10COMPONENT-288;10COMPONENT-289;10COMPONENT-290",
    "10COMPONENT-291;10COMPONENT-292;10COMPONENT-293;10COMPONENT-294;10COMPONENT-295",
    "10COMPONENT-296;10COMPONENT-297;10COMPONENT-298;10COMPONENT-299;10COMPONENT-300",
    "10COMPONENT-301;10COMPONENT-302;10COMPONENT-303;10COMPONENT-304;10COMPONENT-305",
    "10COMPONENT-306;10COMPONENT-307;10COMPONENT-308;10COMPONENT-309;10COMPONENT-310",
    "10COMPONENT-311;10COMPONENT-312;10COMPONENT-313;10COMPONENT-314;10COMPONENT-315",
    "10COMPONENT-316;10COMPONENT-317;10COMPONENT-318;10COMPONENT-319;10COMPONENT-320",
    "10COMPONENT-321;10COMPONENT-322;10COMPONENT-323;10COMPONENT-324;10COMPONENT-325",
    "10COMPONENT-326;10COMPONENT-327;10COMPONENT-328;10COMPONENT-329;10COMPONENT-330",
    "10COMPONENT-331;10COMPONENT-332;10COMPONENT-333;10COMPONENT-334;10COMPONENT-335",
    "10COMPONENT-336;10COMPONENT-337;10COMPONENT-338;10COMPONENT-339;10COMPONENT-340",
    "10COMPONENT-341;10COMPONENT-342;10COMPONENT-343;10COMPONENT-344;10COMPONENT-345",
    "10COMPONENT-346;10COMPONENT-347;10COMPONENT-348;10COMPONENT-349;10COMPONENT-350",
    "10COMPONENT-351;10COMPONENT-352;10COMPONENT-353;10COMPONENT-354;10COMPONENT-355",
    "10COMPONENT-356;10COMPONENT-357;10COMPONENT-358;10COMPONENT-359;10COMPONENT-360",
    "10COMPONENT-361;10COMPONENT-362;10COMPONENT-363;10COMPONENT-364;10COMPONENT-365",
    "10COMPONENT-366;10COMPONENT-367;10COMPONENT-368;10COMPONENT-369;10COMPONENT-370",
    "10COMPONENT-371;10COMPONENT-372;10COMPONENT-373;10COMPONENT-374;10COMPONENT-375",
    "10COMPONENT-376;10COMPONENT-377;10COMPONENT-378;10COMPONENT-379;10COMPONENT-380",
    "10COMPONENT-381;10COMPONENT-382;10COMPONENT-383;10COMPONENT-384;10COMPONENT-385",
    "10COMPONENT-386;10COMPONENT-387;10COMPONENT-388;10COMPONENT-389;10COMPONENT-390",
    "10COMPONENT-391;10COMPONENT-392;10COMPONENT-393;10COMPONENT-394;10COMPONENT-395",
    "10COMPONENT-396;10COMPONENT-397;10COMPONENT-398;10COMPONENT-399;10COMPONENT-400",
    "10COMPONENT-401;10COMPONENT-402;10COMPONENT-403;10COMPONENT-404;10COMPONENT-405",
    "10COMPONENT-406;10COMPONENT-407;10COMPONENT-408;10COMPONENT-409;10COMPONENT-410",
    "10COMPONENT-411;10COMPONENT-412;10COMPONENT-413;10COMPONENT-414;10COMPONENT-415",
    "10COMPONENT-416;10COMPONENT-417;10COMPONENT-418;10COMPONENT-419;10COMPONENT-420",
    "10COMPONENT-421;10COMPONENT-422;10COMPONENT-423;10COMPONENT-424;10COMPONENT-425",
    "10COMPONENT-426;10COMPONENT-427;10COMPONENT-428;10COMPONENT-429;10COMPONENT-430",
    "10COMPONENT-431;10COMPONENT-432;10COMPONENT-433;10COMPONENT-434;10COMPONENT-435",
    "10COMPONENT-436;10COMPONENT-437;10COMPONENT-438;10COMPONENT-439;10COMPONENT-440",
    "10COMPONENT-441;10COMPONENT-442;10COMPONENT-443;10COMPONENT-444;10COMPONENT-445",
    "10COMPONENT-446;10COMPONENT-447;10COMPONENT-448;10COMPONENT-449;10COMPONENT-450",
    "10COMPONENT-451;10COMPONENT-452;10COMPONENT-453;10COMPONENT-454;10COMPONENT-455",
    "10COMPONENT-456;10COMPONENT-457;10COMPONENT-458;10COMPONENT-459;10COMPONENT-460",
    "10COMPONENT-461;10COMPONENT-462;10COMPONENT-463;10COMPONENT-464;10COMPONENT-465",
    "10COMPONENT-466;10COMPONENT-467;10COMPONENT-468;10COMPONENT-469;10COMPONENT-470",
    "10COMPONENT-471;10COMPONENT-472;10COMPONENT-473;10COMPONENT-474;10COMPONENT-475",
    "10COMPONENT-476;10COMPONENT-477;10COMPONENT-478;10COMPONENT-479;10COMPONENT-480",
    "10COMPONENT-481;10COMPONENT-482;10COMPONENT-483;10COMPONENT-484;10COMPONENT-485",
    "10COMPONENT-486;10COMPONENT-487;10COMPONENT-488;10COMPONENT-489;10COMPONENT-490",
    "10COMPONENT-491;10COMPONENT-492;10COMPONENT-493;10COMPONENT-494;10COMPONENT-495",
    "10COMPONENT-496;10COMPONENT-497;10COMPONENT-498;10COMPONENT-499;10COMPONENT-500",
    "10COMPONENT-501;10COMPONENT-502;10COMPONENT-503;10COMPONENT-504;10COMPONENT-505",
    "10COMPONENT-506;10COMPONENT-507;10COMPONENT-508;10COMPONENT-509;10COMPONENT-510",
    "10COMPONENT-511;10COMPONENT-512;10COMPONENT-513;10COMPONENT-514;10COMPONENT-515",
    "10COMPONENT-516;10COMPONENT-517;10COMPONENT-518;10COMPONENT-519;10COMPONENT-520",
    "10COMPONENT-521;10COMPONENT-522;10COMPONENT-523;10COMPONENT-524;10COMPONENT-525",
    "10COMPONENT-526;10COMPONENT-527;10COMPONENT-528;10COMPONENT-529;10COMPONENT-530",
    "10COMPONENT-531;10COMPONENT-532;10COMPONENT-533;10COMPONENT-534;10COMPONENT-535",
    "10COMPONENT-536;10COMPONENT-537;10COMPONENT-538;10COMPONENT-539;10COMPONENT-540",
    "10COMPONENT-541;10COMPONENT-542;10COMPONENT-543;10COMPONENT-544;10COMPONENT-545",
    "10COMPONENT-546;10COMPONENT-547;10COMPONENT-548;10COMPONENT-549;10COMPONENT-550",
    "10COMPONENT-551;10COMPONENT-552;10COMPONENT-553;10COMPONENT-554;10COMPONENT-555",
    "10COMPONENT-556;10COMPONENT-557;10COMPONENT-558;10COMPONENT-559;10COMPONENT-560",
    "10COMPONENT-561;10COMPONENT-562;10COMPONENT-563;10COMPONENT-564;10COMPONENT-565",
    "10COMPONENT-566;10COMPONENT-567;10COMPONENT-568;10COMPONENT-569;10COMPONENT-570",
    "10COMPONENT-571;10COMPONENT-572;10COMPONENT-573;10COMPONENT-574;10COMPONENT-575",
    "10COMPONENT-576;10COMPONENT-577;10COMPONENT-578;10COMPONENT-579;10COMPONENT-580",
    "10COMPONENT-581;10COMPONENT-582;10COMPONENT-583;10COMPONENT-584;10COMPONENT-585",
    "10COMPONENT-586;10COMPONENT-587;10COMPONENT-588;10COMPONENT-589;10COMPONENT-590",
    "10COMPONENT-591;10COMPONENT-592;10COMPONENT-593;10COMPONENT-594;10COMPONENT-595",
    "10COMPONENT-596;10COMPONENT-597;10COMPONENT-598;10COMPONENT-599;10COMPONENT-600",
    "10COMPONENT-601;10COMPONENT-602;10COMPONENT-603;10COMPONENT-604;10COMPONENT-605",
    "10COMPONENT-606;10COMPONENT-607;10COMPONENT-608;10COMPONENT-609;10COMPONENT-610",
    "10COMPONENT-611;10COMPONENT-612;10COMPONENT-613;10COMPONENT-614;10COMPONENT-615",
    "10COMPONENT-616;10COMPONENT-617;10COMPONENT-618;10COMPONENT-619;10COMPONENT-620",
    "10COMPONENT-621;10COMPONENT-622;10COMPONENT-623;10COMPONENT-624;10COMPONENT-625",
    "10COMPONENT-626;10COMPONENT-627;10COMPONENT-628;10COMPONENT-629;10COMPONENT-630",
    "10COMPONENT-631;10COMPONENT-632;10COMPONENT-633;10COMPONENT-634;10COMPONENT-635",
    "10COMPONENT-636;10COMPONENT-637;10COMPONENT-638;10COMPONENT-639;10COMPONENT-640",
    "10COMPONENT-641;10COMPONENT-642;10COMPONENT-643;10COMPONENT-644;10COMPONENT-645",
    "10COMPONENT-646;10COMPONENT-647;10COMPONENT-648;10COMPONENT-649;10COMPONENT-650",
    "10COMPONENT-651;10COMPONENT-652;10COMPONENT-653;10COMPONENT-654;10COMPONENT-655",
    "10COMPONENT-656;10COMPONENT-657;10COMPONENT-658;10COMPONENT-659;10COMPONENT-660",
    "10COMPONENT-661;10COMPONENT-662;10COMPONENT-663;10COMPONENT-664;10COMPONENT-665",
    "10COMPONENT-666;10COMPONENT-667;10COMPONENT-668;10COMPONENT-669;10COMPONENT-670",
    "10COMPONENT-671;10COMPONENT-672;10COMPONENT-673;10COMPONENT-674;10COMPONENT-675",
    "10COMPONENT-676;10COMPONENT-677;10COMPONENT-678;10COMPONENT-679;10COMPONENT-680",
    "10COMPONENT-681;10COMPONENT-682;10COMPONENT-683;10COMPONENT-684;10COMPONENT-685",
    "10COMPONENT-686;10COMPONENT-687;10COMPONENT-688;10COMPONENT-689;10COMPONENT-690",
    "10COMPONENT-691;10COMPONENT-692;10COMPONENT-693;10COMPONENT-694;10COMPONENT-695",
    "10COMPONENT-696;10COMPONENT-697;10COMPONENT-698;10COMPONENT-699;10COMPONENT-700",
    "10COMPONENT-701;10COMPONENT-702;10COMPONENT-703;10COMPONENT-704;10COMPONENT-705",
    "10COMPONENT-706;10COMPONENT-707;10COMPONENT-708;10COMPONENT-709;10COMPONENT-710",
    "10COMPONENT-711;10COMPONENT-712;10COMPONENT-713;10COMPONENT-714;10COMPONENT-715",
    "10COMPONENT-716;10COMPONENT-717;10COMPONENT-718;10COMPONENT-719;10COMPONENT-720",
    "10COMPONENT-721;10COMPONENT-722;10COMPONENT-723;10COMPONENT-724;10COMPONENT-725",
    "10COMPONENT-726;10COMPONENT-727;10COMPONENT-728;10COMPONENT-729;10COMPONENT-730",
    "10COMPONENT-731;10COMPONENT-732;10COMPONENT-733;10COMPONENT-734;10COMPONENT-735",
    "10COMPONENT-736;10COMPONENT-737;10COMPONENT-738;10COMPONENT-739;10COMPONENT-740",
    "10COMPONENT-741;10COMPONENT-742;10COMPONENT-743;10COMPONENT-744;10COMPONENT-745",
    "10COMPONENT-746;10COMPONENT-747;10COMPONENT-748;10COMPONENT-749;10COMPONENT-750",
    "10COMPONENT-751;10COMPONENT-752;10COMPONENT-753;10COMPONENT-754;10COMPONENT-755",
    "10COMPONENT-756;10COMPONENT-757;10COMPONENT-758;10COMPONENT-759;10COMPONENT-760",
    "10COMPONENT-761;10COMPONENT-762;10COMPONENT-763;10COMPONENT-764;10COMPONENT-765",
    "10COMPONENT-766;10COMPONENT-767;10COMPONENT-768"]⟩,
    ⟨0x1AFF0, [
    "00KATAKANA LETTER MINNAN TONE-2;30TONE-3;30TONE-4;30TONE-5;;30TONE-7;30TONE-8",
    "30NASALIZED TONE-1;40TONE-2;40TONE-3;40TONE-4;40TONE-5;;40TONE-7;40TONE-8;;20ARCHAIC E",
    "00HIRAGANA LETTER ARCHAIC YE;00HENTAIGANA LETTER A-1;20A-2;20A-3;20A-WO;20I-1;20I-2;20I-3",
    "20I-4;20U-1;20U-2;20U-3;20U-4;20U-5;20E-2;20E-3;20E-4;20E-5;20E-6;20O-1;20O-2;20O-3;20KA-1",
    "20KA-2;20KA-3;20KA-4;20KA-5;20KA-6;20KA-7;20KA-8;20KA-9;20KA-10;20KA-11;20KA-KE;20KI-1",
    "20KI-2;20KI-3;20KI-4;20KI-5;20KI-6;20KI-7;20KI-8;20KU-1;20KU-2;20KU-3;20KU-4;20KU-5;20KU-6",
    "20KU-7;20KE-1;20KE-2;20KE-3;20KE-4;20KE-5;20KE-6;20KO-1;20KO-2;20KO-3;20KO-KI;20SA-1",
    "20SA-2;20SA-3;20SA-4;20SA-5;20SA-6;20SA-7;20SA-8;20SI-1;20SI-2;20SI-3;20SI-4;20SI-5;20SI-6",
    "20SU-1;20SU-2;20SU-3;20SU-4;20SU-5;20SU-6;20SU-7;20SU-8;20SE-1;20SE-2;20SE-3;20SE-4;20SE-5",
    "20SO-1;20SO-2;20SO-3;20SO-4;20SO-5;20SO-6;20SO-7;20TA-1;20TA-2;20TA-3;20TA-4;20TI-1;20TI-2",
    "20TI-3;20TI-4;20TI-5;20TI-6;20TI-7;20TU-1;20TU-2;20TU-3;20TU-4;20TU-TO;20TE-1;20TE-2",
    "20TE-3;20TE-4;20TE-5;20TE-6;20TE-7;20TE-8;20TE-9;20TO-1;20TO-2;20TO-3;20TO-4;20TO-5;20TO-6",
    "20TO-RA;20NA-1;20NA-2;20NA-3;20NA-4;20NA-5;20NA-6;20NA-7;20NA-8;20NA-9;20NI-1;20NI-2",
    "20NI-3;20NI-4;20NI-5;20NI-6;20NI-7;20NI-TE;20NU-1;20NU-2;20NU-3;20NE-1;20NE-2;20NE-3",
    "20NE-4;20NE-5;20NE-6;20NE-KO;20NO-1;20NO-2;20NO-3;20NO-4;20NO-5;20HA-1;20HA-2;20HA-3",
    "20HA-4;20HA-5;20HA-6;20HA-7;20HA-8;20HA-9;20HA-10;20HA-11;20HI-1;20HI-2;20HI-3;20HI-4",
    "20HI-5;20HI-6;20HI-7;20HU-1;20HU-2;20HU-3;20HE-1;20HE-2;20HE-3;20HE-4;20HE-5;20HE-6;20HE-7",
    "20HO-1;20HO-2;20HO-3;20HO-4;20HO-5;20HO-6;20HO-7;20HO-8;20MA-1;20MA-2;20MA-3;20MA-4;20MA-5",
    "20MA-6;20MA-7;20MI-1;20MI-2;20MI-3;20MI-4;20MI-5;20MI-6;20MI-7;20MU-1;20MU-2;20MU-3;20MU-4",
    "20ME-1;20ME-2;20ME-MA;20MO-1;20MO-2;20MO-3;20MO-4;20MO-5;20MO-6;20YA-1;20YA-2;20YA-3",
    "20YA-4;20YA-5;20YA-YO;20YU-1;20YU-2;20YU-3;20YU-4;20YO-1;20YO-2;20YO-3;20YO-4;20YO-5",
    "20YO-6;20RA-1;20RA-2;20RA-3;20RA-4;20RI-1;20RI-2;20RI-3;20RI-4;20RI-5;20RI-6;20RI-7;20RU-1",
    "20RU-2;20RU-3;20RU-4;20RU-5;20RU-6;20RE-1;20RE-2;20RE-3;20RE-4;20RO-1;20RO-2;20RO-3;20RO-4",
    "20RO-5;20RO-6;20WA-1;20WA-2;20WA-3;20WA-4;20WA-5;20WI-1;20WI-2;20WI-3;20WI-4;20WI-5;20WE-1",
    "20WE-2;20WE-3;20WE-4;20WO-1;20WO-2;20WO-3;20WO-4;20WO-5;20WO-6;20WO-7;20N-MU-MO-1",
    "20N-MU-MO-2;00HIRAGANA LETTER ARCHAIC WU;00KATAKANA LETTER ARCHAIC YI;30YE;30WU"]⟩,
    ⟨0x1B150, [
    "00HIRAGANA LETTER SMALL WI;30WE;30WO;;;;;;;;;;;;;;;;;;00KATAKANA LETTER SMALL WI;30WE;30WO",
    "30N"]⟩,
    ⟨0x1BC00, [
    "00DUPLOYAN LETTER H;20X;20P;20T;20F;20K;20L;20B;20D;20V;20G;20R;20P N;20D S;20F N;20K M",
    "20R S;20TH;20SLOAN DH;21;20KK;20SLOAN J;20HL;20LH;20RH;20M;20N;20J;20S;20M N;20N M;21J",
    "20S J;20M WITH DOT;22N;22J;40DOTS INSIDE AND ABOVE;20S WITH DOT;50BELOW;20M S;21N;21J;21S",
    "21M N;21N M;22J;21S J;20J S WITH DOT;30N;40S;20S T;40R;30P;40R;20T S;31R;20W;20WH;20W R",
    "20S N;30M;20K R S;22G;20S K;40R;20A;20SLOAN OW;20OA;20O;20AOU;20I;20E;20IE;20SHORT I;20UI",
    "20EE;20SLOAN EH;20ROMANIAN I;20SLOAN EE;20LONG I;20YE;20U;20EU;20XW;20U N;20LONG U",
    "21ROMANIAN;20UH;20SLOAN U;20OOH;20OW;20OU;20WA;20WO;20WI;20WEI;20WOW;20NASAL U;30O;30I;30A",
    "20PERNIN AN;30AM;20SLOAN EN;30AN;30ON;20VOCALIC M;;;;;;10AFFIX LEFT HORIZONTAL SECANT",
    "22MID;22RIGHT;21LOW VERTICAL;22MID;22HIGH;21ATTACHED;31LEFT-TO-RIGHT;30TANGENT;30TAIL",
    "30E HOOK;31I;31TANGENT;;;;20HIGH ACUTE;31TIGHT;30GRAVE;31LONG;30DOT;30CIRCLE;30LINE;30WAVE",
    "30VERTICAL;;;;;;;;20LOW ACUTE;31TIGHT;30GRAVE;31LONG;30DOT;30CIRCLE;30LINE;30WAVE",
    "30VERTICAL;30ARROW;;;10SIGN O WITH CROSS;10THICK LETTER SELECTOR;10DOUBLE MARK",
    "10PUNCTUATION CHINOOK FULL STOP;00SHORTHAND FORMAT LETTER OVERLAP;21CONTINUING;20DOWN STEP",
    "21UP"]⟩,
    ⟨0x1CF00, [
    "00ZNAMENNY COMBINING MARK GORAZDO NIZKO S KRYZHEM ON LEFT;35;32TSATA;32GORAZDO NIZKO;33",
    "32SREDNE;32MALO POVYSHE;33;32VYSOKO;32MALO POVYSHE S KHOKHLOM;35;34VYSOKO",
    "30GORAZDO NIZKO S KRYZHEM ON RIGHT;35;32TSATA;32GORAZDO NIZKO;33;32SREDNE;32MALO POVYSHE",
    "33;32VYSOKO;32MALO POVYSHE S KHOKHLOM;35;34VYSOKO;30TSATA S KRYZHEM;32MALO POVYSHE",
    "30STRANNO MALO POVYSHE;30POVYSHE S KRYZHEM;40STRANNO;30VYSOKO S KRYZHEM",
    "30MALO POVYSHE STRANNO;30GORAZDO VYSOKO;30ZELO;30ON;30RAVNO;30TIKHAYA;30BORZAYA;30UDARKA",
    "30PODVERTKA;30LOMKA;30KUPNAYA;30KACHKA;30ZEVOK;30SKOBA;30RAZSEKA;30KRYZH ON LEFT;;",
    "20TONAL RANGE MARK MRACHNO;50SVETLO;50TRESVETLO;20MARK ZADERZHKA;31DEMESTVENNY;30OTSECHKA",
    "30PODCHASHIE;40WITH VERTICAL STROKE;30CHASHKA;40POLNAYA;30OBLACHKO;30SOROCHYA NOZHKA",
    "30TOCHKA;30DVOETOCHIE;20ATTACHING VERTICAL OMET;21MARK CURVED;30KRYZH",
    "20LOWER TONAL RANGE INDICATOR;10PRIZNAK MODIFIER LEVEL-2;30LEVEL-3;30DIRECTION FLIP",
    "30KRYZH;30ROG;;;;;;;;;;10NEUME KRYUK;30TIKHY;20PARAKLIT;20DVA V CHELNU;20KLYUCH;20ZANOZHEK",
    "20STOPITSA;30S OCHKOM;20PEREVODKA;30NEPOSTOYANNAYA;20STOPITSA WITH SOROCHYA NOZHKA",
    "20CHELYUSTKA;20PALKA;20ZAPYATAYA;20GOLUBCHIK BORZY;30TIKHY;30MRACHNY;30SVETLY;30TRESVETLY",
    "20VRAKHIYA PROSTAYA;30MRACHNAYA;30SVETLAYA;30TRESVETLAYA;30KLYUCHEVAYA PROSTAYA",
    "40MRACHNAYA;40SVETLAYA;40TRESVETLAYA;20DOUBLE ZAPYATAYA;20REVERSED CHELYUSTKA;20DERBITSA",
    "20KHAMILO;20CHASHKA;20PODCHASHIE;20SKAMEYTSA MRACHNAYA;30SVETLAYA;30TRESVETLAYA;30TIKHAYA",
    "20DEMESTVENNY KLYUCH;20SKAMEYTSA KLYUCHEVAYA SVETLAYA;30KLYUCHENEPOSTOYANNAYA",
    "30KLYUCHEVAYA TIKHAYA;30DVOECHELNAYA PROSTAYA;40SVETLAYA;40NEPOSTOYANNAYA;40KLYUCHEVAYA",
    "20SLOZHITIE;30S ZAPYATOY;30ZAKRYTOE;30S KRYZHEM;20KRYZH;20ROG;20FITA;20KOBYLA;20ZMEYTSA",
    "20STATYA;30S ZAPYATOY;40KRYZHEM;41ZAPYATOY I;40KRYZHEM I ZAPYATOY;30ZAKRYTAYA;40S ZAPYATOY",
    "30S ROGOM;40DVUMYA ZAPYATYMI;40ZAPYATOY I PODCHASHIEM;20POLKULIZMY;20STATYA NEPOSTOYANNAYA",
    "20STRELA PROSTAYA;30MRACHNOTIKHAYA;30KRYZHEVAYA;30POLUPOVODNAYA;30POVODNAYA",
    "30NEPOSTOYANNAYA;30KLYUCHEPOVODNAYA;30KLYUCHENEPOSTOYANNAYA;30TIKHAYA PUTNAYA",
    "30DVOECHELNAYA;30DVOECHELNOKRYZHEVAYA;30DVOECHELNOPOVODNAYA;30DVOECHELNAYA KLYUCHEVAYA",
    "31DVOECHELNOPOVODNAYA;30GROMNAYA WITH SINGLE ZAPYATAYA;33GROMOPOVODNAYA;30GROMNAYA",
    "30GROMOPOVODNAYA;40WITH DOUBLE ZAPYATAYA;30GROMOKRYZHEVAYA;40POVODNAYA;20MECHIK;30POVODNY",
    "30KLYUCHEVOY;30KLYUCHEPOVODNY;30KLYUCHENEPOSTOYANNY;20STRELA TRYASOGLASNAYA",
    "30TRYASOPOVODNAYA;30TRYASOSTRELNAYA;20OSOKA;30SVETLAYA;30TRESVETLAYA;30KRYUKOVAYA SVETLAYA",
    "31KLYUCHEVAYA;40NEPOSTOYANNAYA;20STRELA KRYUKOVAYA;40POVODNAYA",
    "40GROMNAYA WITH SINGLE ZAPYATAYA;43GROMOPOVODNAYA;40GROMNAYA;40GROMOPOVODNAYA",
    "50WITH DOUBLE ZAPYATAYA;40GROMOKRYZHEVAYA;50POVODNAYA;40TRYASKA;20KUFISMA;20OBLAKO;20DUDA",
    "20NEMKA;20PAUK"]⟩,
    ⟨0x1D000, [
    "00BYZANTINE MUSICAL SYMBOL PSILI;30DASEIA;30PERISPOMENI;30OXEIA EKFONITIKON;40DIPLI",
    "30VAREIA EKFONITIKON;40DIPLI;30KATHISTI;30SYRMATIKI;30PARAKLITIKI;30YPOKRISIS;40DIPLI",
    "30KREMASTI;30APESO EKFONITIKON;31EXO;30TELEIA;30KENTIMATA;30APOSTROFOS;40DIPLI;30SYNEVMA",
    "30THITA;30OLIGON ARCHAION;31GORGON;30PSILON;30CHAMILON;30VATHY;30ISON ARCHAION;31KENTIMA",
    "31KENTIMATA;30SAXIMATA;30PARICHON;30STAVROS APODEXIA;30OXEIAI ARCHAION;31VAREIAI",
    "31APODERMA;30APOTHEMA;30KLASMA;30REVMA;30PIASMA ARCHAION;30TINAGMA;30ANATRICHISMA;30SEISMA",
    "30SYNAGMA ARCHAION;40META STAVROU;30OYRANISMA ARCHAION;30THEMA;30LEMOI;30DYO;30TRIA",
    "30TESSERA;30KRATIMATA;30APESO EXO NEO;30FTHORA ARCHAION;30IMIFTHORA;30TROMIKON ARCHAION",
    "30KATAVA TROMIKON;30PELASTON;30PSIFISTON;30KONTEVMA;30CHOREVMA ARCHAION;30RAPISMA",
    "30PARAKALESMA ARCHAION;31PARAKLITIKI;30ICHADIN;30NANA;30PETASMA;30KONTEVMA ALLO;31TROMIKON",
    "30STRAGGISMATA;30GRONTHISMATA;30ISON NEO;31OLIGON;31OXEIA;30PETASTI;30KOUFISMA",
    "30PETASTOKOUFISMA;30KRATIMOKOUFISMA;30PELASTON NEO;30KENTIMATA NEO ANO;32KENTIMA;30YPSILI",
    "30APOSTROFOS NEO;31APOSTROFOI SYNDESMOS;30YPORROI;30KRATIMOYPORROON;30ELAFRON;30CHAMILI",
    "30MIKRON ISON;30VAREIA NEO;31PIASMA;31PSIFISTON;30OMALON;30ANTIKENOMA;30LYGISMA",
    "30PARAKLITIKI NEO;31PARAKALESMA;30ETERON PARAKALESMA;30KYLISMA;30ANTIKENOKYLISMA",
    "30TROMIKON NEO;30EKSTREPTON;30SYNAGMA NEO;30SYRMA;30CHOREVMA NEO;30EPEGERMA;30SEISMA NEO",
    "30XIRON KLASMA;30TROMIKOPSIFISTON;30PSIFISTOLYGISMA;30TROMIKOLYGISMA;30TROMIKOPARAKALESMA",
    "30PSIFISTOPARAKALESMA;30TROMIKOSYNAGMA;30PSIFISTOSYNAGMA;30GORGOSYNTHETON;30ARGOSYNTHETON",
    "31ETERON;30OYRANISMA NEO;30THEMATISMOS ESO;40EXO;30THEMA APLOUN;30THES KAI APOTHES",
    "30KATAVASMA;30ENDOFONON;30YFEN KATO;40ANO;30STAVROS;30KLASMA ANO;30DIPLI ARCHAION",
    "31KRATIMA;40ALLO;40NEO;31APODERMA;30APLI;30DIPLI;30TRIPLI;30TETRAPLI;30KORONIS",
    "30LEIMMA ENOS CHRONOU;40DYO CHRONON;41TRION;41TESSARON;40IMISEOS CHRONOU;30GORGON NEO ANO",
    "40PARESTIGMENON ARISTERA;50DEXIA;30DIGORGON;40PARESTIGMENON ARISTERA KATO;60ANO;50DEXIA",
    "30TRIGORGON;30ARGON;30IMIDIARGON;30DIARGON;30AGOGI POLI ARGI;40ARGOTERI;40ARGI;40METRIA",
    "40MESI;40GORGI;40GORGOTERI;40POLI GORGI;30MARTYRIA PROTOS ICHOS;42ALLI;41DEYTEROS;42ALLI",
    "41TRITOS;40TRIFONIAS;40TETARTOS ICHOS;51LEGETOS;42;41PLAGIOS;30ISAKIA TELOUS ICHIMATOS",
    "32APOSTROFOI;30FANEROSIS TETRAFONIAS;40MONOFONIAS;40DIFONIAS;30MARTYRIA VARYS ICHOS",
    "41PROTOVARYS;41PLAGIOS TETARTOS;30GORTHMIKON N APLOUN;50DIPLOUN;30ENARXIS KAI FTHORA VOU",
    "30IMIFONON;30IMIFTHORON;30FTHORA ARCHAION DEYTEROU ICHOU;40DIATONIKI PA;50NANA",
    "40NAOS ICHOS;40DIATONIKI DI;41SKLIRON DIATONON;40DIATONIKI KE;50ZO;50NI KATO;60ANO",
    "40MALAKON CHROMA DIFONIAS;60MONOFONIAS;30FHTORA SKLIRON CHROMA VASIS",
    "30FTHORA SKLIRON CHROMA SYNAFI;40NENANO;30CHROA ZYGOS;40KLITON;40SPATHI",
    "30FTHORA I YFESIS TETARTIMORION;40ENARMONIOS ANTIFONIA;30YFESIS TRITIMORION;31DIESIS",
    "40TETARTIMORION;40APLI DYO DODEKATA;41MONOGRAMMOS TESSERA;41DIGRAMMOS EX;41TRIGRAMMOS OKTO",
    "31YFESIS APLI DYO;41MONOGRAMMOS TESSERA;41DIGRAMMOS EX;41TRIGRAMMOS OKTO;30GENIKI DIESIS",
    "40YFESIS;30DIASTOLI APLI MIKRI;50MEGALI;40DIPLI;40THESEOS;31SIMANSIS;50DISIMOU;50TRISIMOU",
    "50TETRASIMOU;40ARSEOS;50DISIMOU;50TRISIMOU;50TETRASIMOU;30DIGRAMMA GG;30DIFTOGGOS OU",
    "30STIGMA;30ARKTIKO PA;40VOU;40GA;40DI;40KE;40ZO;40NI;30KENTIMATA NEO MESO;32KENTIMA",
    "30KENTIMATA NEO KATO;32KENTIMA;31KLASMA;31GORGON NEO;;;;;;;;;;",
    "00MUSICAL SYMBOL SINGLE BARLINE;21DOUBLE;21FINAL;22REVERSE;21DASHED;21SHORT",
    "20LEFT REPEAT SIGN;22RIGHT;20REPEAT DOTS;20DAL SEGNO;20DA CAPO;20SEGNO;20CODA",
    "20REPEATED FIGURE-1;30FIGURE-2;30FIGURE-3;20FERMATA;30BELOW;20BREATH MARK;20CAESURA",
    "20BRACE;20BRACKET;20ONE-LINE STAFF;21TWO-LINE;21THREE-LINE;21FOUR-LINE;21FIVE-LINE",
    "21SIX-LINE;20SIX-STRING FRETBOARD;21FOUR-STRING;20G CLEF;40OTTAVA ALTA;50BASSA;20C CLEF",
    "21F;40OTTAVA ALTA;50BASSA;20DRUM CLEF-1;30CLEF-2;;;20MULTIPLE MEASURE REST;20DOUBLE SHARP",
    "30FLAT;20FLAT UP;30DOWN;20NATURAL UP;30DOWN;20SHARP UP;30DOWN;20QUARTER TONE SHARP;40FLAT",
    "20COMMON TIME;21CUT;20OTTAVA ALTA;30BASSA;20QUINDICESIMA ALTA;30BASSA;20MULTI REST;21WHOLE",
    "21HALF;21QUARTER;21EIGHTH;21SIXTEENTH;21THIRTY-SECOND;21SIXTY-FOURTH",
    "21ONE HUNDRED TWENTY-EIGHTH;20X NOTEHEAD;21PLUS;21CIRCLE X;20SQUARE NOTEHEAD WHITE;40BLACK",
    "20TRIANGLE NOTEHEAD UP WHITE;50BLACK;40LEFT WHITE;50BLACK;40RIGHT WHITE;50BLACK",
    "40DOWN WHITE;50BLACK;40UP RIGHT WHITE;60BLACK;20MOON NOTEHEAD WHITE;40BLACK",
    "20TRIANGLE-ROUND NOTEHEAD DOWN WHITE;50BLACK;20PARENTHESIS NOTEHEAD;21VOID",
    "20NOTEHEAD BLACK;20NULL NOTEHEAD;20CLUSTER NOTEHEAD WHITE;40BLACK;20BREVE;20WHOLE NOTE",
    "21HALF;21QUARTER;21EIGHTH;21SIXTEENTH;21THIRTY-SECOND;21SIXTY-FOURTH",
    "21ONE HUNDRED TWENTY-EIGHTH;20COMBINING STEM;31SPRECHGESANG;30TREMOLO-1;30TREMOLO-2",
    "30TREMOLO-3;20FINGERED TREMOLO-1;30TREMOLO-2;30TREMOLO-3;20COMBINING AUGMENTATION DOT",
    "30FLAG-1;30FLAG-2;30FLAG-3;30FLAG-4;30FLAG-5;20BEGIN BEAM;21END;20BEGIN TIE;21END",
    "20BEGIN SLUR;21END;20BEGIN PHRASE;21END;20COMBINING ACCENT;30STACCATO;30TENUTO",
    "30STACCATISSIMO;30MARCATO;30MARCATO-STACCATO;30ACCENT-STACCATO;30LOURE;20ARPEGGIATO UP",
    "30DOWN;20COMBINING DOIT;30RIP;30FLIP;30SMEAR;30BEND;30DOUBLE TONGUE;31TRIPLE;20RINFORZANDO",
    "20SUBITO;20Z;20PIANO;20MEZZO;20FORTE;20CRESCENDO;20DECRESCENDO;20GRACE NOTE SLASH;41NO",
    "20TR;20TURN;21INVERTED;20TURN SLASH;30UP;20ORNAMENT STROKE-1;30STROKE-2;30STROKE-3",
    "30STROKE-4;30STROKE-5;30STROKE-6;30STROKE-7;30STROKE-8;30STROKE-9;30STROKE-10;30STROKE-11",
    "20HAUPTSTIMME;20NEBENSTIMME;20END OF STIMME;20DEGREE SLASH;20COMBINING DOWN BOW;31UP",
    "30HARMONIC;30SNAP PIZZICATO;20PEDAL MARK;31UP;21HALF PEDAL;20GLISSANDO UP;30DOWN",
    "20WITH FINGERNAILS;20DAMP;30ALL;20MAXIMA;20LONGA;20BREVIS;20SEMIBREVIS WHITE;30BLACK",
    "20MINIMA;30BLACK;20SEMIMINIMA WHITE;30BLACK;20FUSA WHITE;30BLACK;20LONGA PERFECTA REST",
    "31IMPERFECTA;21BREVIS;21SEMIBREVIS;21MINIMA;21SEMIMINIMA",
    "20TEMPUS PERFECTUM CUM PROLATIONE PERFECTA;60IMPERFECTA;60PERFECTA DIMINUTION-1",
    "30IMPERFECTUM CUM PROLATIONE PERFECTA;60IMPERFECTA;70DIMINUTION-1;70DIMINUTION-2",
    "70DIMINUTION-3;20CROIX;20GREGORIAN C CLEF;31F;20SQUARE B;20VIRGA;20PODATUS;20CLIVIS",
    "20SCANDICUS;20CLIMACUS;20TORCULUS;20PORRECTUS;30FLEXUS;21SCANDICUS;20TORCULUS RESUPINUS",
    "20PES SUBPUNCTIS;20KIEVAN C CLEF;30END OF PIECE;30FINAL NOTE;30RECITATIVE MARK",
    "30WHOLE NOTE;31HALF;30QUARTER NOTE STEM DOWN;60UP;30EIGHTH NOTE STEM DOWN;60UP;30FLAT SIGN",
    "20SORI;20KORON;;;;;;;;;;;;;;;;;;;;;;00GREEK VOCAL NOTATION SYMBOL-1;30SYMBOL-2;30SYMBOL-3",
    "30SYMBOL-4;30SYMBOL-5;30SYMBOL-6;30SYMBOL-7;30SYMBOL-8;30SYMBOL-9;30SYMBOL-10;30SYMBOL-11",
    "30SYMBOL-12;30SYMBOL-13;30SYMBOL-14;30SYMBOL-15;30SYMBOL-16;30SYMBOL-17;30SYMBOL-18",
    "30SYMBOL-19;30SYMBOL-20;30SYMBOL-21;30SYMBOL-22;30SYMBOL-23;30SYMBOL-24;30SYMBOL-50",
    "30SYMBOL-51;30SYMBOL-52;30SYMBOL-53;30SYMBOL-54;10INSTRUMENTAL NOTATION SYMBOL-1",
    "30SYMBOL-2;30SYMBOL-4;30SYMBOL-5;30SYMBOL-7;30SYMBOL-8;30SYMBOL-11;30SYMBOL-12;30SYMBOL-13",
    "30SYMBOL-14;30SYMBOL-17;30SYMBOL-18;30SYMBOL-19;30SYMBOL-23;30SYMBOL-24;30SYMBOL-25",
    "30SYMBOL-26;30SYMBOL-27;30SYMBOL-29;30SYMBOL-30;30SYMBOL-32;30SYMBOL-36;30SYMBOL-37",
    "30SYMBOL-38;30SYMBOL-39;30SYMBOL-40;30SYMBOL-42;30SYMBOL-43;30SYMBOL-45;30SYMBOL-47",
    "30SYMBOL-48;30SYMBOL-49;30SYMBOL-50;30SYMBOL-51;30SYMBOL-52;30SYMBOL-53;30SYMBOL-54",
    "00COMBINING GREEK MUSICAL TRISEME;30TETRASEME;30PENTASEME;00GREEK MUSICAL LEIMMA"]⟩,
    ⟨0x1D2E0, [
    "00MAYAN NUMERAL ZERO;20ONE;20TWO;20THREE;20FOUR;20FIVE;20SIX;20SEVEN;20EIGHT;20NINE;20TEN",
    "20ELEVEN;20TWELVE;20THIRTEEN;20FOURTEEN;20FIFTEEN;20SIXTEEN;20SEVENTEEN;20EIGHTEEN",
    "20NINETEEN;;;;;;;;;;;;;00MONOGRAM FOR EARTH;01DIGRAM FOR HEAVENLY;21HUMAN;20EARTHLY HEAVEN",
    "30HUMAN;20EARTH;00TETRAGRAM FOR CENTRE;20FULL CIRCLE;20MIRED;20BARRIER;20KEEPING SMALL",
    "20CONTRARIETY;20ASCENT;20OPPOSITION;20BRANCHING OUT;20DEFECTIVENESS OR DISTORTION",
    "20DIVERGENCE;20YOUTHFULNESS;20INCREASE;20PENETRATION;20REACH;20CONTACT;20HOLDING BACK",
    "20WAITING;20FOLLOWING;20ADVANCE;20RELEASE;20RESISTANCE;20EASE;20JOY;20CONTENTION",
    "20ENDEAVOUR;20DUTIES;20CHANGE;20DECISIVENESS;20BOLD RESOLUTION;20PACKING;20LEGION",
    "20CLOSENESS;20KINSHIP;20GATHERING;20STRENGTH;20PURITY;20FULLNESS;20RESIDENCE",
    "20LAW OR MODEL;20RESPONSE;20GOING TO MEET;20ENCOUNTERS;20STOVE;20GREATNESS;20ENLARGEMENT",
    "20PATTERN;20RITUAL;20FLIGHT;20VASTNESS OR WASTING;20CONSTANCY;20MEASURE;20ETERNITY;20UNITY",
    "20DIMINISHMENT;20CLOSED MOUTH;20GUARDEDNESS;20GATHERING IN;20MASSING;20ACCUMULATION",
    "20EMBELLISHMENT;20DOUBT;20WATCH;20SINKING;20INNER;20DEPARTURE;20DARKENING;20DIMMING",
    "20EXHAUSTION;20SEVERANCE;20STOPPAGE;20HARDNESS;20COMPLETION;20CLOSURE;20FAILURE",
    "20AGGRAVATION;20COMPLIANCE;20ON THE VERGE;20DIFFICULTIES;20LABOURING;20FOSTERING;;;;;;;;;",
    "00COUNTING ROD UNIT DIGIT ONE;40TWO;40THREE;40FOUR;40FIVE;40SIX;40SEVEN;40EIGHT;40NINE",
    "20TENS DIGIT ONE;40TWO;40THREE;40FOUR;40FIVE;40SIX;40SEVEN;40EIGHT;40NINE",
    "00IDEOGRAPHIC TALLY MARK ONE;30TWO;30THREE;30FOUR;30FIVE;00TALLY MARK ONE;20FIVE"]⟩]

end QuerySchema.Text.CharacterName
