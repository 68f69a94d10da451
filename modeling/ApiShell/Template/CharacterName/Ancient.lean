/-! Names of scripts of the ancient Mediterranean and Near East, as a listing. -/

namespace ApiShell.Template.CharacterName

/-- Linear B to Elymaic. -/
def ancient : String :=
  "U+10000;LINEAR B SYLLABLE B008 A;3 B038 E;3 B028 I;3 B061 O;3 B010 U;3 B001 DA;3 B045 DE;
   3 B007 DI;3 B014 DO;3 B051 DU;3 B057 JA;3 B046 JE;U+1000D;3 B036 JO;3 B065 JU;3 B077 KA;
   3 B044 KE;3 B067 KI;3 B070 KO;3 B081 KU;3 B080 MA;3 B013 ME;3 B073 MI;3 B015 MO;3 B023 MU;
   3 B006 NA;3 B024 NE;3 B030 NI;3 B052 NO;3 B055 NU;3 B003 PA;3 B072 PE;3 B039 PI;3 B011 PO;
   3 B050 PU;3 B016 QA;3 B078 QE;3 B021 QI;3 B032 QO;U+10028;3 B060 RA;3 B027 RE;3 B053 RI;
   3 B002 RO;3 B026 RU;3 B031 SA;3 B009 SE;3 B041 SI;3 B012 SO;3 B058 SU;3 B059 TA;3 B004 TE;
   3 B037 TI;3 B005 TO;3 B069 TU;3 B054 WA;3 B075 WE;3 B040 WI;3 B042 WO;U+1003C;3 B017 ZA;
   3 B074 ZE;U+1003F;3 B020 ZO;3 B025 A2;3 B043 A3;3 B085 AU;3 B071 DWE;3 B090 DWO;3 B048 NWA;
   3 B029 PU2;3 B062 PTE;3 B076 RA2;3 B033 RA3;3 B068 RO2;3 B066 TA2;3 B087 TWE;3 B091 TWO;U+10050;
   2 SYMBOL B018;+1;3 B022;3 B034;3 B047;3 B049;3 B056;3 B063;+1;3 B079;3 B082;+1;3 B086;3 B089;
   U+10080;2 IDEOGRAM B100 MAN;3 B102 WOMAN;3 B104 DEER;3 B105 EQUID;3 B105F MARE;3 B105M STALLION;
   3 B106F EWE;3 B106M RAM;3 B107F SHE-GOAT;3 B107M HE-GOAT;3 B108F SOW;3 B108M BOAR;3 B109F COW;
   3 B109M BULL;3 B120 WHEAT;3 B121 BARLEY;3 B122 OLIVE;3 B123 SPICE;3 B125 CYPERUS;
   2 MONOGRAM B127 KAPO;3 B128 KANAKO;2 IDEOGRAM B130 OIL;3 B131 WINE;3 B132;2 MONOGRAM B133 AREPA;
   3 B135 MERI;2 IDEOGRAM B140 BRONZE;3 B141 GOLD;3 B142;3 B145 WOOL;3 B146;3 B150;3 B151 HORN;
   3 B152;+2;2 MONOGRAM B156 TURO2;2 IDEOGRAM B157;+1;3 B159 CLOTH;3 B160;+1;3 B162 GARMENT;
   3 B163 ARMOUR;3 B164;+8;3 B173 MONTH;3 B174;3 B176 TREE;3 B177;+8;3 B189;+1;3 B191 HELMET;
   3 B220 FOOTSTOOL;3 B225 BATHTUB;3 B230 SPEAR;3 B231 ARROW;3 B232;3 B233 SWORD;3 B234;3 B236;
   3 B240 WHEELED CHARIOT;3 B241 CHARIOT;3 B242 1 FRAME;3 B243 WHEEL;3 B245;+1;
   2 MONOGRAM B247 DIPTE;2 IDEOGRAM B248;+1;3 B251;+2;3 B254 DART;3 B255;+4;3 VESSEL B155;4 B200;
   +19;4 B221;+1;4 B226;+3;4 B250;4 B305;U+10100;AEGEAN WORD SEPARATOR LINE;3 DOT;1 CHECK MARK;
   U+10107;1 NUMBER ONE;2 TWO;2 THREE;2 FOUR;2 FIVE;2 SIX;2 SEVEN;2 EIGHT;2 NINE;2 TEN;2 TWENTY;
   2 THIRTY;2 FORTY;2 FIFTY;2 SIXTY;2 SEVENTY;2 EIGHTY;2 NINETY;2 ONE HUNDRED;2 TWO 1;2 THREE 1;
   2 FOUR 1;2 FIVE 1;2 SIX 1;2 SEVEN 1;2 EIGHT 1;2 NINE 1;2 ONE THOUSAND;2 TWO 1;2 THREE 1;2 FOUR 1;
   2 FIVE 1;2 SIX 1;2 SEVEN 1;2 EIGHT 1;2 NINE 1;2 TEN 1;2 TWENTY 1;2 THIRTY 1;2 FORTY 1;2 FIFTY 1;
   2 SIXTY 1;2 SEVENTY 1;2 EIGHTY 1;2 NINETY 1;U+10137;1 WEIGHT BASE UNIT;2 FIRST SUBUNIT;
   2 SECOND 1;2 THIRD 1;2 FOURTH 1;1 DRY MEASURE FIRST SUBUNIT;1 LIQUID 3;1 MEASURE SECOND SUBUNIT;
   2 THIRD 1;GREEK ACROPHONIC ATTIC ONE QUARTER;4 HALF;4 DRACHMA;3 FIVE;3 FIFTY;3 FIVE HUNDRED;
   4 THOUSAND;3 FIFTY 1;3 FIVE TALENTS;3 TEN 1;3 FIFTY 1;3 ONE HUNDRED TALENTS;3 FIVE 2;
   3 ONE THOUSAND 1;3 FIVE 2;4 STATERS;3 TEN 1;3 FIFTY 1;3 ONE HUNDRED STATERS;3 FIVE 2;
   3 ONE THOUSAND 1;3 TEN 2;3 FIFTY 2;3 TEN MNAS;2 HERAEUM ONE PLETHRON;2 THESPIAN 1;2 HERMIONIAN 1;
   2 EPIDAUREAN TWO;2 THESPIAN 1;2 CYRENAIC 1 DRACHMAS;2 EPIDAUREAN 2;2 TROEZENIAN FIVE;3 TEN;
   4 ALTERNATE FORM;2 HERMIONIAN 1;2 MESSENIAN 1;2 THESPIAN 1;3 THIRTY;2 TROEZENIAN FIFTY;
   4 ALTERNATE FORM;2 HERMIONIAN 1;2 THESPIAN 1;3 ONE HUNDRED;3 THREE 1;2 EPIDAUREAN FIVE 1;
   2 TROEZENIAN 2;2 THESPIAN 2;2 CARYSTIAN 2;2 NAXIAN 2;2 THESPIAN ONE THOUSAND;3 FIVE 1;
   2 DELPHIC 1 MNAS;2 STRATIAN FIFTY 1;1 ONE HALF SIGN;4 ALTERNATE FORM;1 TWO THIRDS 1;
   1 THREE QUARTERS 1;1 YEAR SIGN;1 TALENT 1;1 DRACHMA 1;1 OBOL 1;1 TWO OBOLS SIGN;1 THREE 2;
   1 FOUR 2;1 FIVE 2;1 METRETES SIGN;1 KYATHOS BASE SIGN;1 LITRA SIGN;1 OUNKIA 1;1 XESTES 1;
   1 ARTABE 1;1 AROURA 1;1 GRAMMA 1;1 TRYBLION BASE SIGN;1 ZERO SIGN;1 ONE QUARTER SIGN;
   1 SINUSOID SIGN;1 INDICTION 1;NOMISMA SIGN;U+10190;ROMAN SEXTANS SIGN;1 UNCIA 1;1 SEMUNCIA 1;
   1 SEXTULA 1;1 DIMIDIA SEXTULA SIGN;1 SILIQUA SIGN;1 DENARIUS 1;1 QUINARIUS 1;1 SESTERTIUS 1;
   1 DUPONDIUS 1;1 AS 1;1 CENTURIAL 1;ASCIA SYMBOL;U+101A0;GREEK 1 TAU RHO;U+101D0;
   PHAISTOS DISC SIGN PEDESTRIAN;3 PLUMED HEAD;3 TATTOOED 1;3 CAPTIVE;3 CHILD;3 WOMAN;3 HELMET;
   3 GAUNTLET;3 TIARA;3 ARROW;3 BOW;3 SHIELD;3 CLUB;3 MANACLES;3 MATTOCK;3 SAW;3 LID;3 BOOMERANG;
   3 CARPENTRY PLANE;3 DOLIUM;3 COMB;3 SLING;3 COLUMN;3 BEEHIVE;3 SHIP;3 HORN;3 HIDE;3 BULLS LEG;
   3 CAT;3 RAM;3 EAGLE;3 DOVE;3 TUNNY;3 BEE;3 PLANE TREE;3 VINE;3 PAPYRUS;3 ROSETTE;3 LILY;
   3 OX BACK;3 FLUTE;3 GRATER;3 STRAINER;3 SMALL AXE;3 WAVY BAND;3 COMBINING OBLIQUE STROKE;U+10280;
   LYCIAN LETTER A;2 E;2 B;2 BH;2 G;2 D;2 I;2 W;2 Z;2 TH;2 J;2 K;2 Q;2 L;2 M;2 N;2 MM;2 NN;2 U;2 P;
   2 KK;2 R;2 S;2 T;2 TT;2 AN;2 EN;2 H;2 X;U+102A0;CARIAN 1 A;2 P2;2 D;2 L;2 UUU;2 R;2 LD;2 A2;2 Q;
   2 B;2 M;2 O;2 D2;2 T;2 SH;2 SH2;2 S;2 C-18;2 U;2 NN;2 X;2 N;2 TT2;2 P;2 SS;2 I;2 E;2 UUUU;2 K;
   2 K2;2 ND;2 UU;2 G;2 G2;2 ST;2 ST2;2 NG;2 II;2 C-39;2 TT;2 UUU2;2 RR;2 MB;2 MB2;+2;2 LD2;2 E2;
   2 UUU3;U+102E0;COPTIC EPACT THOUSANDS MARK;2 DIGIT ONE;3 TWO;3 THREE;3 FOUR;3 FIVE;3 SIX;3 SEVEN;
   3 EIGHT;3 NINE;2 NUMBER TEN;3 TWENTY;3 THIRTY;3 FORTY;3 FIFTY;3 SIXTY;3 SEVENTY;3 EIGHTY;
   3 NINETY;3 ONE HUNDRED;3 TWO 1;3 THREE 1;3 FOUR 1;3 FIVE 1;3 SIX 1;3 SEVEN 1;3 EIGHT 1;3 NINE 1;
   U+10300;OLD ITALIC LETTER A;3 BE;3 KE;3 DE;3 E;3 VE;3 ZE;3 HE;3 THE;3 I;3 KA;3 EL;3 EM;3 EN;
   3 ESH;3 O;3 PE;3 SHE;3 KU;3 ER;3 ES;3 TE;3 U;3 EKS;3 PHE;3 KHE;3 EF;3 ERS;3 CHE;3 II;3 UU;3 ESS;
   2 NUMERAL ONE;3 FIVE;3 TEN;3 FIFTY;U+1032D;2 LETTER YE;3 NORTHERN TSE;3 SOUTHERN 1;
   GOTHIC LETTER AHSA;2 BAIRKAN;2 GIBA;2 DAGS;2 AIHVUS;2 QAIRTHRA;2 IUJA;2 HAGL;2 THIUTH;2 EIS;
   2 KUSMA;2 LAGUS;2 MANNA;2 NAUTHS;2 JER;2 URUS;2 PAIRTHRA;2 NINETY;2 RAIDA;2 SAUIL;2 TEIWS;
   2 WINJA;2 FAIHU;2 IGGWS;2 HWAIR;2 OTHAL;2 NINE HUNDRED;U+10350;OLD PERMIC LETTER AN;3 BUR;3 GAI;
   3 DOI;3 E;3 ZHOI;3 DZHOI;3 ZATA;3 DZITA;3 I;3 KOKE;3 LEI;3 MENOE;3 NENOE;3 VOOI;3 PEEI;3 REI;
   3 SII;3 TAI;3 U;3 CHERY;3 SHOOI;3 SHCHOOI;3 YRY;3 YERU;3 O;3 OO;3 EF;3 HA;3 TSIU;3 VER;3 YER;
   3 YERI;3 YAT;3 IE;3 YU;3 YA;3 IA;COMBINING OLD PERMIC LETTER AN;4 DOI;4 ZATA;4 NENOE;4 SII;
   U+10380;UGARITIC LETTER ALPA;2 BETA;2 GAMLA;2 KHA;2 DELTA;2 HO;2 WO;2 ZETA;2 HOTA;2 TET;2 YOD;
   2 KAF;2 SHIN;2 LAMDA;2 MEM;2 DHAL;2 NUN;2 ZU;2 SAMKA;2 AIN;2 PU;2 SADE;2 QOPA;2 RASHA;2 THANNA;
   2 GHAIN;2 TO;2 I;2 U;2 SSU;U+1039F;1 WORD DIVIDER;OLD PERSIAN SIGN A;3 I;3 U;3 KA;3 KU;3 GA;3 GU;
   3 XA;3 CA;3 JA;3 JI;3 TA;3 TU;3 DA;3 DI;3 DU;3 THA;3 PA;3 BA;3 FA;3 NA;3 NU;3 MA;3 MI;3 MU;3 YA;
   3 VA;3 VI;3 RA;3 RU;3 LA;3 SA;3 ZA;3 SHA;3 SSA;3 HA;U+103C8;3 AURAMAZDAA;3 AURAMAZDAA-2;
   3 AURAMAZDAAHA;3 XSHAAYATHIYA;3 DAHYAAUSH;3 DAHYAAUSH-2;3 BAGA;3 BUUMISH;2 WORD DIVIDER;
   2 NUMBER ONE;3 TWO;3 TEN;3 TWENTY;3 HUNDRED;U+10400;DESERET CAPITAL LETTER LONG I;4 E;4 A;4 AH;
   4 O;4 OO;3 SHORT I;4 E;4 A;4 AH;4 O;4 OO;3 AY;3 OW;3 WU;3 YEE;3 H;3 PEE;3 BEE;3 TEE;3 DEE;3 CHEE;
   3 JEE;3 KAY;3 GAY;3 EF;3 VEE;3 ETH;3 THEE;3 ES;3 ZEE;3 ESH;3 ZHEE;3 ER;3 EL;3 EM;3 EN;3 ENG;3 OI;
   3 EW;1 SMALL 1 LONG I;4 E;4 A;4 AH;4 O;4 OO;3 SHORT I;4 E;4 A;4 AH;4 O;4 OO;3 AY;3 OW;3 WU;3 YEE;
   3 H;3 PEE;3 BEE;3 TEE;3 DEE;3 CHEE;3 JEE;3 KAY;3 GAY;3 EF;3 VEE;3 ETH;3 THEE;3 ES;3 ZEE;3 ESH;
   3 ZHEE;3 ER;3 EL;3 EM;3 EN;3 ENG;3 OI;3 EW;SHAVIAN LETTER PEEP;2 TOT;2 KICK;2 FEE;2 THIGH;2 SO;
   2 SURE;2 CHURCH;2 YEA;2 HUNG;2 BIB;2 DEAD;2 GAG;2 VOW;2 THEY;2 ZOO;2 MEASURE;2 JUDGE;2 WOE;
   2 HA-HA;2 LOLL;2 MIME;2 IF;2 EGG;2 ASH;2 ADO;2 ON;2 WOOL;2 OUT;2 AH;2 ROAR;2 NUN;2 EAT;2 AGE;
   2 ICE;2 UP;2 OAK;2 OOZE;2 OIL;2 AWE;2 ARE;2 OR;2 AIR;2 ERR;2 ARRAY;2 EAR;2 IAN;2 YEW;
   OSMANYA 1 ALEF;2 BA;2 TA;2 JA;2 XA;2 KHA;2 DEEL;2 RA;2 SA;2 SHIIN;2 DHA;2 CAYN;2 GA;2 FA;2 QAAF;
   2 KAAF;2 LAAN;2 MIIN;2 NUUN;2 WAW;2 HA;2 YA;2 A;2 E;2 I;2 O;2 U;2 AA;2 EE;2 OO;U+104A0;
   1 DIGIT ZERO;2 ONE;2 TWO;2 THREE;2 FOUR;2 FIVE;2 SIX;2 SEVEN;2 EIGHT;2 NINE;U+104B0;
   OSAGE CAPITAL LETTER A;3 AI;3 AIN;3 AH;3 BRA;3 CHA;3 EHCHA;3 E;3 EIN;3 HA;3 HYA;3 I;3 KA;3 EHKA;
   3 KYA;3 LA;3 MA;3 NA;3 O;3 OIN;3 PA;3 EHPA;3 SA;3 SHA;3 TA;3 EHTA;3 TSA;3 EHTSA;3 TSHA;3 DHA;3 U;
   3 WA;3 KHA;3 GHA;3 ZA;3 ZHA;U+104D8;1 SMALL 1 A;3 AI;3 AIN;3 AH;3 BRA;3 CHA;3 EHCHA;3 E;3 EIN;
   3 HA;3 HYA;3 I;3 KA;3 EHKA;3 KYA;3 LA;3 MA;3 NA;3 O;3 OIN;3 PA;3 EHPA;3 SA;3 SHA;3 TA;3 EHTA;
   3 TSA;3 EHTSA;3 TSHA;3 DHA;3 U;3 WA;3 KHA;3 GHA;3 ZA;3 ZHA;U+10500;ELBASAN LETTER A;2 BE;2 CE;
   2 CHE;2 DE;2 NDE;2 DHE;2 EI;2 E;2 FE;2 GE;2 GJE;2 HE;2 I;2 JE;2 KE;2 LE;2 LLE;2 ME;2 NE;2 NA;
   2 NJE;2 O;2 PE;2 QE;2 RE;2 RRE;2 SE;2 SHE;2 TE;2 THE;2 U;2 VE;2 XE;2 Y;2 ZE;2 ZHE;2 GHE;2 GHAMMA;
   2 KHE;U+10530;CAUCASIAN ALBANIAN LETTER ALT;3 BET;3 GIM;3 DAT;3 EB;3 ZARL;3 EYN;3 ZHIL;3 TAS;
   3 CHA;3 YOWD;3 ZHA;3 IRB;3 SHA;3 LAN;3 INYA;3 XEYN;3 DYAN;3 CAR;3 JHOX;3 KAR;3 LYIT;3 HEYT;3 QAY;
   3 AOR;3 CHOY;3 CHI;3 CYAY;3 MAQ;3 QAR;3 NOWC;3 DZYAY;3 SHAK;3 JAYN;3 ON;3 TYAY;3 FAM;3 DZAY;
   3 CHAT;3 PEN;3 GHEYS;3 RAT;3 SEYK;3 VEYZ;3 TIWR;3 SHOY;3 IWN;3 CYAW;3 CAYN;3 YAYD;3 PIWR;3 KIW;
   U+1056F;2 CITATION MARK;VITHKUQI CAPITAL LETTER A;3 BBE;3 BE;3 CE;3 CHE;3 DE;3 DHE;3 EI;3 E;3 FE;
   3 GA;U+1057C;3 HA;3 HHA;3 I;3 IJE;3 JE;3 KA;3 LA;3 LLA;3 ME;3 NE;3 NJE;3 O;3 PE;3 QA;3 RE;
   U+1058C;3 SE;3 SHE;3 TE;3 THE;3 U;3 VE;3 XE;U+10594;3 Y;3 ZE;U+10597;1 SMALL 1 A;3 BBE;3 BE;3 CE;
   3 CHE;3 DE;3 DHE;3 EI;3 E;3 FE;3 GA;U+105A3;3 HA;3 HHA;3 I;3 IJE;3 JE;3 KA;3 LA;3 LLA;3 ME;3 NE;
   3 NJE;3 O;3 PE;3 QA;3 RE;U+105B3;3 SE;3 SHE;3 TE;3 THE;3 U;3 VE;3 XE;U+105BB;3 Y;3 ZE;U+10600;
   LINEAR A SIGN AB001;+10;3 AB013;3 AB016;+1;3 AB020;+1;3 AB021F;3 AB021M;3 AB022;3 AB022F;
   3 AB022M;3 AB023;3 AB023M;3 AB024;3 AB026;+2;3 A028B;3 AB029;+2;3 AB034;3 AB037;+4;3 AB044;+7;
   3 AB053;+8;3 AB065;+2;3 AB069;+1;3 AB073;+1;3 AB076;+6;3 AB085;+2;3 A100-102;3 AB118;3 AB120;
   3 A120B;3 AB122;+1;3 AB131A;3 AB131B;3 A131C;3 AB164;3 AB171;3 AB180;3 AB188;3 AB191;3 A301;+7;
   3 A309A;3 A309B;3 A309C;3 A310;+2;3 A313A;3 A313B;3 A313C;3 A314;+57;3 A400-VAS;3 A401-VAS;
   3 A402-VAS;3 A403-VAS;3 A404-VAS;3 A405-VAS;3 A406-VAS;3 A407-VAS;3 A408-VAS;3 A409-VAS;
   3 A410-VAS;3 A411-VAS;3 A412-VAS;3 A413-VAS;3 A414-VAS;3 A415-VAS;3 A416-VAS;3 A417-VAS;
   3 A418-VAS;3 A501;+5;3 A508;+5;3 A515;+1;3 A520;+1;3 A523;+9;3 A534;+8;3 A545;3 A547;+10;3 A559;
   3 A563;+3;3 A568;+21;3 A591;+1;3 A594;+2;3 A598;3 A600;+4;3 A606;3 A608;+16;3 A626;+3;3 A634;
   3 A637;+1;3 A640;3 A642;+4;3 A648;+1;3 A651;+13;U+10740;3 A701 A;3 A702 B;3 A703 D;3 A704 E;
   3 A705 F;3 A706 H;3 A707 J;3 A708 K;3 A709 L;3 A709-2 L2;3 A709-3 L3;3 A709-4 L4;3 A709-6 L6;
   3 A710 W;3 A711 X;3 A712 Y;3 A713 OMEGA;3 A714 ABB;3 A715 BB;3 A717 DD;3 A726 EYYY;3 A732 JE;
   U+10760;3 A800;+7;U+10780;MODIFIER LETTER SMALL CAPITAL AA;2 SUPERSCRIPT TRIANGULAR COLON;
   3 HALF TRIANGULAR COLON;2 SMALL AE;3 CAPITAL B;3 B WITH HOOK;U+10787;3 DZ DIGRAPH;
   5 WITH RETROFLEX HOOK;6 CURL;3 DEZH 1;3 D WITH TAIL;5 HOOK;6 AND TAIL;3 REVERSED E;
   3 CLOSED REVERSED OPEN E;3 FENG DIGRAPH;3 RAMS HORN;3 CAPITAL G;3 G WITH HOOK;
   3 CAPITAL G WITH HOOK;3 H WITH STROKE;3 CAPITAL H;3 HENG WITH HOOK;
   3 DOTLESS J WITH STROKE AND HOOK;3 LS DIGRAPH;3 LZ 1;3 L WITH BELT;3 CAPITAL L WITH BELT;
   3 L WITH RETROFLEX HOOK AND BELT;3 LEZH;4 WITH RETROFLEX HOOK;3 TURNED Y;5 WITH BELT;
   3 O WITH STROKE;3 CAPITAL OE;3 CLOSED OMEGA;3 Q;3 TURNED R WITH LONG LEG;8 AND RETROFLEX HOOK;
   3 R WITH TAIL;5 FISHHOOK;3 CAPITAL R;3 TC DIGRAPH WITH CURL;3 TS 1;5 WITH RETROFLEX HOOK;
   3 TESH 1;3 T WITH RETROFLEX HOOK;3 V 1 RIGHT 1;U+107B2;3 CAPITAL Y;2 GLOTTAL STOP WITH STROKE;
   2 REVERSED GLOTTAL STOP WITH STROKE;2 BILABIAL CLICK;2 DENTAL 1;2 LATERAL 1;2 ALVEOLAR 1;
   2 RETROFLEX 1 WITH RETROFLEX HOOK;2 SMALL S 1 CURL;U+10800;CYPRIOT SYLLABLE A;2 E;2 I;2 O;2 U;
   2 JA;U+10808;2 JO;U+1080A;2 KA;2 KE;2 KI;2 KO;2 KU;2 LA;2 LE;2 LI;2 LO;2 LU;2 MA;2 ME;2 MI;2 MO;
   2 MU;2 NA;2 NE;2 NI;2 NO;2 NU;2 PA;2 PE;2 PI;2 PO;2 PU;2 RA;2 RE;2 RI;2 RO;2 RU;2 SA;2 SE;2 SI;
   2 SO;2 SU;2 TA;2 TE;2 TI;2 TO;2 TU;2 WA;2 WE;2 WI;2 WO;U+10837;2 XA;2 XE;U+1083C;2 ZA;U+1083F;
   2 ZO;IMPERIAL ARAMAIC LETTER ALEPH;3 BETH;3 GIMEL;3 DALETH;3 HE;3 WAW;3 ZAYIN;3 HETH;3 TETH;
   3 YODH;3 KAPH;3 LAMEDH;3 MEM;3 NUN;3 SAMEKH;3 AYIN;3 PE;3 SADHE;3 QOPH;3 RESH;3 SHIN;3 TAW;
   U+10857;2 SECTION SIGN;2 NUMBER ONE;3 TWO;3 THREE;3 TEN;3 TWENTY;3 ONE HUNDRED;4 THOUSAND;
   3 TEN 1;PALMYRENE LETTER ALEPH;2 BETH;2 GIMEL;2 DALETH;2 HE;2 WAW;2 ZAYIN;2 HETH;2 TETH;2 YODH;
   2 KAPH;2 LAMEDH;2 MEM;2 FINAL NUN;2 NUN;2 SAMEKH;2 AYIN;2 PE;2 SADHE;2 QOPH;2 RESH;2 SHIN;2 TAW;
   1 LEFT-POINTING FLEURON;1 RIGHT-POINTING 1;1 NUMBER ONE;2 TWO;2 THREE;2 FOUR;2 FIVE;2 TEN;
   2 TWENTY;NABATAEAN LETTER FINAL ALEPH;2 ALEPH;2 FINAL BETH;2 BETH;2 GIMEL;2 DALETH;2 FINAL HE;
   2 HE;2 WAW;2 ZAYIN;2 HETH;2 TETH;2 FINAL YODH;2 YODH;2 FINAL KAPH;2 KAPH;2 FINAL LAMEDH;2 LAMEDH;
   2 FINAL MEM;2 MEM;2 FINAL NUN;2 NUN;2 SAMEKH;2 AYIN;2 PE;2 SADHE;2 QOPH;2 RESH;2 FINAL SHIN;
   2 SHIN;2 TAW;U+108A7;1 NUMBER ONE;2 TWO;2 THREE;2 FOUR;1 CRUCIFORM NUMBER FOUR;1 NUMBER FIVE;
   2 TEN;2 TWENTY;2 ONE HUNDRED;U+108E0;HATRAN LETTER ALEPH;2 BETH;2 GIMEL;2 DALETH-RESH;2 HE;2 WAW;
   2 ZAYN;2 HETH;2 TETH;2 YODH;2 KAPH;2 LAMEDH;2 MEM;2 NUN;2 SAMEKH;2 AYN;2 PE;2 SADHE;2 QOPH;
   U+108F4;2 SHIN;2 TAW;U+108FB;1 NUMBER ONE;2 FIVE;2 TEN;2 TWENTY;2 ONE HUNDRED;
   PHOENICIAN LETTER ALF;2 BET;2 GAML;2 DELT;2 HE;2 WAU;2 ZAI;2 HET;2 TET;2 YOD;2 KAF;2 LAMD;2 MEM;
   2 NUN;2 SEMK;2 AIN;2 PE;2 SADE;2 QOF;2 ROSH;2 SHIN;2 TAU;1 NUMBER ONE;2 TEN;2 TWENTY;
   2 ONE HUNDRED;2 TWO;2 THREE;U+1091F;1 WORD SEPARATOR;LYDIAN LETTER A;2 B;2 G;2 D;2 E;2 V;2 I;2 Y;
   2 K;2 L;2 M;2 N;2 O;2 R;2 SS;2 T;2 U;2 F;2 Q;2 S;2 TT;2 AN;2 EN;2 LY;2 NN;2 C;U+1093F;
   1 TRIANGULAR MARK;U+10980;MEROITIC HIEROGLYPHIC LETTER A;3 E;3 I;3 O;3 YA;3 WA;3 BA;3 BA-2;3 PA;
   3 MA;3 NA;3 NA-2;3 NE;3 NE-2;3 RA;3 RA-2;3 LA;3 KHA;3 HHA;3 SA;3 SA-2;3 SE;3 KA;3 QA;3 TA;3 TA-2;
   3 TE;3 TE-2;3 TO;3 DA;2 SYMBOL VIDJ;3 VIDJ-2;1 CURSIVE LETTER A;3 E;3 I;3 O;3 YA;3 WA;3 BA;3 PA;
   3 MA;3 NA;3 NE;3 RA;3 LA;3 KHA;3 HHA;3 SA;3 ARCHAIC SA;3 SE;3 KA;3 QA;3 TA;3 TE;3 TO;3 DA;
   U+109BC;2 FRACTION ELEVEN TWELFTHS;3 ONE HALF;2 LOGOGRAM RMT;3 IMN;2 NUMBER ONE;3 TWO;3 THREE;
   3 FOUR;3 FIVE;3 SIX;3 SEVEN;3 EIGHT;3 NINE;3 TEN;3 TWENTY;3 THIRTY;3 FORTY;3 FIFTY;3 SIXTY;
   3 SEVENTY;U+109D2;3 ONE HUNDRED;3 TWO 1;3 THREE 1;3 FOUR 1;3 FIVE 1;3 SIX 1;3 SEVEN 1;3 EIGHT 1;
   3 NINE 1;3 ONE THOUSAND;3 TWO 1;3 THREE 1;3 FOUR 1;3 FIVE 1;3 SIX 1;3 SEVEN 1;3 EIGHT 1;3 NINE 1;
   3 TEN 1;3 TWENTY 1;3 THIRTY 1;3 FORTY 1;3 FIFTY 1;3 SIXTY 1;3 SEVENTY 1;3 EIGHTY 1;3 NINETY 1;
   3 ONE HUNDRED THOUSAND;3 TWO 2;3 THREE 2;3 FOUR 2;3 FIVE 2;3 SIX 2;3 SEVEN 2;3 EIGHT 2;3 NINE 2;
   2 FRACTION ONE TWELFTH;3 TWO TWELFTHS;3 THREE 1;3 FOUR 1;3 FIVE 1;3 SIX 1;3 SEVEN 1;3 EIGHT 1;
   3 NINE 1;3 TEN 1;KHAROSHTHI LETTER A;1 VOWEL SIGN I;3 U;3 VOCALIC R;U+10A05;3 E;3 O;U+10A0C;
   2 LENGTH MARK;1 SIGN DOUBLE RING BELOW;2 ANUSVARA;2 VISARGA;1 LETTER KA;2 KHA;2 GA;2 GHA;U+10A15;
   2 CA;2 CHA;2 JA;U+10A19;2 NYA;2 TTA;2 TTHA;2 DDA;2 DDHA;2 NNA;2 TA;2 THA;2 DA;2 DHA;2 NA;2 PA;
   2 PHA;2 BA;2 BHA;2 MA;2 YA;2 RA;2 LA;2 VA;2 SHA;2 SSA;2 SA;2 ZA;2 HA;2 KKA;2 TTTHA;2 TTTA;2 VHA;
   U+10A38;1 SIGN BAR ABOVE;2 CAUDA;2 DOT BELOW;U+10A3F;1 VIRAMA;1 DIGIT ONE;2 TWO;2 THREE;2 FOUR;
   1 NUMBER TEN;2 TWENTY;2 ONE HUNDRED;3 THOUSAND;1 FRACTION 1 HALF;U+10A50;1 PUNCTUATION DOT;
   2 SMALL CIRCLE;2 CIRCLE;2 CRESCENT BAR;2 MANGALAM;2 LOTUS;2 DANDA;2 DOUBLE DANDA;2 LINES;U+10A60;
   OLD SOUTH ARABIAN LETTER HE;4 LAMEDH;4 HETH;4 MEM;4 QOPH;4 WAW;4 SHIN;4 RESH;4 BETH;4 TAW;4 SAT;
   4 KAPH;4 NUN;4 KHETH;4 SADHE;4 SAMEKH;4 FE;4 ALEF;4 AYN;4 DHADHE;4 GIMEL;4 DALETH;4 GHAYN;4 TETH;
   4 ZAYN;4 DHALETH;4 YODH;4 THAW;4 THETH;3 NUMBER ONE;4 FIFTY;3 NUMERIC INDICATOR;
   1 NORTH 1 LETTER HEH;4 LAM;4 HAH;4 MEEM;4 QAF;4 WAW;4 ES-2;4 REH;4 BEH;4 TEH;4 ES-1;4 KAF;4 NOON;
   4 KHAH;4 SAD;4 ES-3;4 FEH;4 ALEF;4 AIN;4 DAD;4 GEEM;4 DAL;4 GHAIN;4 TAH;4 ZAIN;4 THAL;4 YEH;
   4 THEH;4 ZAH;3 NUMBER ONE;4 TEN;4 TWENTY;U+10AC0;MANICHAEAN LETTER ALEPH;2 BETH;2 BHETH;2 GIMEL;
   2 GHIMEL;2 DALETH;2 HE;2 WAW;1 SIGN UD;1 LETTER ZAYIN;2 ZHAYIN;2 JAYIN;2 JHAYIN;2 HETH;2 TETH;
   2 YODH;2 KAPH;2 XAPH;2 KHAPH;2 LAMEDH;2 DHAMEDH;2 THAMEDH;2 MEM;2 NUN;2 SAMEKH;2 AYIN;2 AAYIN;
   2 PE;2 FE;2 SADHE;2 QOPH;2 XOPH;2 QHOPH;2 RESH;2 SHIN;2 SSHIN;2 TAW;1 ABBREVIATION MARK ABOVE;
   3 BELOW;U+10AEB;1 NUMBER ONE;2 FIVE;2 TEN;2 TWENTY;2 ONE HUNDRED;1 PUNCTUATION STAR;2 FLEURON;
   2 DOUBLE DOT WITHIN DOT;2 DOT WITHIN DOT;3;2 TWO DOTS;2 LINE FILLER;U+10B00;AVESTAN LETTER A;
   2 AA;2 AO;2 AAO;2 AN;2 AAN;2 AE;2 AEE;2 E;2 EE;2 O;2 OO;2 I;2 II;2 U;2 UU;2 KE;2 XE;2 XYE;2 XVE;
   2 GE;2 GGE;2 GHE;2 CE;2 JE;2 TE;2 THE;2 DE;2 DHE;2 TTE;2 PE;2 FE;2 BE;2 BHE;2 NGE;2 NGYE;2 NGVE;
   2 NE;2 NYE;2 NNE;2 ME;2 HME;2 YYE;2 YE;2 VE;2 RE;2 LE;2 SE;2 ZE;2 SHE;2 ZHE;2 SHYE;2 SSHE;2 HE;
   U+10B39;1 ABBREVIATION MARK;TINY TWO DOTS OVER ONE DOT PUNCTUATION;SMALL 6;LARGE 6;
   1 ONE DOT 1 TWO DOTS 1;1 TWO RINGS 1 ONE RING 1;1 ONE RING 1 TWO RINGS 1;
   INSCRIPTIONAL PARTHIAN LETTER ALEPH;3 BETH;3 GIMEL;3 DALETH;3 HE;3 WAW;3 ZAYIN;3 HETH;3 TETH;
   3 YODH;3 KAPH;3 LAMEDH;3 MEM;3 NUN;3 SAMEKH;3 AYIN;3 PE;3 SADHE;3 QOPH;3 RESH;3 SHIN;3 TAW;
   U+10B58;2 NUMBER ONE;3 TWO;3 THREE;3 FOUR;3 TEN;3 TWENTY;3 ONE HUNDRED;4 THOUSAND;
   1 PAHLAVI LETTER ALEPH;3 BETH;3 GIMEL;3 DALETH;3 HE;3 WAW-AYIN-RESH;3 ZAYIN;3 HETH;3 TETH;3 YODH;
   3 KAPH;3 LAMEDH;3 MEM-QOPH;3 NUN;3 SAMEKH;3 PE;3 SADHE;3 SHIN;3 TAW;U+10B78;2 NUMBER ONE;3 TWO;
   3 THREE;3 FOUR;3 TEN;3 TWENTY;3 ONE HUNDRED;4 THOUSAND;PSALTER 1 LETTER ALEPH;3 BETH;3 GIMEL;
   3 DALETH;3 HE;3 WAW-AYIN-RESH;3 ZAYIN;3 HETH;3 YODH;3 KAPH;3 LAMEDH;3 MEM-QOPH;3 NUN;3 SAMEKH;
   3 PE;3 SADHE;3 SHIN;3 TAW;U+10B99;2 SECTION MARK;2 TURNED SECTION MARK;2 FOUR DOTS WITH CROSS;
   5 DOT;U+10BA9;2 NUMBER ONE;3 TWO;3 THREE;3 FOUR;3 TEN;3 TWENTY;3 ONE HUNDRED;U+10C00;
   OLD TURKIC LETTER ORKHON A;3 YENISEI 1;4 AE;3 ORKHON I;3 YENISEI 1;4 E;3 ORKHON O;4 OE;
   3 YENISEI 1;3 ORKHON AB;3 YENISEI 1;3 ORKHON AEB;3 YENISEI 1;3 ORKHON AG;3 YENISEI 1;
   3 ORKHON AEG;3 YENISEI 1;3 ORKHON AD;3 YENISEI 1;3 ORKHON AED;4 EZ;3 YENISEI 1;3 ORKHON AY;
   3 YENISEI 1;3 ORKHON AEY;3 YENISEI 1;3 ORKHON AEK;3 YENISEI 1;3 ORKHON OEK;3 YENISEI 1;
   3 ORKHON AL;3 YENISEI 1;3 ORKHON AEL;4 ELT;4 EM;4 AN;4 AEN;3 YENISEI 1;3 ORKHON ENT;3 YENISEI 1;
   3 ORKHON ENC;3 YENISEI 1;3 ORKHON ENY;3 YENISEI 1;4 ANG;3 ORKHON ENG;3 YENISEI AENG;3 ORKHON EP;
   4 OP;4 IC;4 EC;3 YENISEI 1;3 ORKHON AQ;3 YENISEI 1;3 ORKHON IQ;3 YENISEI 1;3 ORKHON OQ;
   3 YENISEI 1;3 ORKHON AR;3 YENISEI 1;3 ORKHON AER;4 AS;4 AES;4 ASH;3 YENISEI 1;3 ORKHON ESH;
   3 YENISEI 1;3 ORKHON AT;3 YENISEI 1;3 ORKHON AET;3 YENISEI 1;3 ORKHON OT;4 BASH;U+10C80;
   1 HUNGARIAN CAPITAL LETTER A;4 AA;4 EB;4 AMB;4 EC;4 ENC;4 ECS;4 ED;4 AND;4 E;4 CLOSE E;4 EE;4 EF;
   4 EG;4 EGY;4 EH;4 I;4 II;4 EJ;4 EK;4 AK;4 UNK;4 EL;4 ELY;4 EM;4 EN;4 ENY;4 O;4 OO;
   4 NIKOLSBURG OE;4 RUDIMENTA 1;4 OEE;4 EP;4 EMP;4 ER;4 SHORT ER;4 ES;4 ESZ;4 ET;4 ENT;4 ETY;4 ECH;
   4 U;4 UU;4 NIKOLSBURG UE;4 RUDIMENTA 1;4 EV;4 EZ;4 EZS;4 ENT-SHAPED SIGN;4 US;U+10CC0;
   2 SMALL 1 A;4 AA;4 EB;4 AMB;4 EC;4 ENC;4 ECS;4 ED;4 AND;4 E;4 CLOSE E;4 EE;4 EF;4 EG;4 EGY;4 EH;
   4 I;4 II;4 EJ;4 EK;4 AK;4 UNK;4 EL;4 ELY;4 EM;4 EN;4 ENY;4 O;4 OO;4 NIKOLSBURG OE;4 RUDIMENTA 1;
   4 OEE;4 EP;4 EMP;4 ER;4 SHORT ER;4 ES;4 ESZ;4 ET;4 ENT;4 ETY;4 ECH;4 U;4 UU;4 NIKOLSBURG UE;
   4 RUDIMENTA 1;4 EV;4 EZ;4 EZS;4 ENT-SHAPED SIGN;4 US;U+10CFA;2 NUMBER ONE;3 FIVE;3 TEN;3 FIFTY;
   3 ONE HUNDRED;4 THOUSAND;HANIFI ROHINGYA LETTER A;3 BA;3 PA;3 TA;3 TTA;3 JA;3 CA;3 HA;3 KHA;3 FA;
   3 DA;3 DDA;3 RA;3 RRA;3 ZA;3 SA;3 SHA;3 KA;3 GA;3 LA;3 MA;3 NA;3 WA;3 KINNA WA;3 YA;3 KINNA YA;
   3 NGA;3 NYA;3 VA;2 VOWEL A;3 I;3 U;3 E;3 O;2 MARK SAKIN;3 NA KHONNA;2 SIGN HARBAHAY;3 TAHALA;
   3 TANA;3 TASSI;U+10D30;2 DIGIT ZERO;3 ONE;3 TWO;3 THREE;3 FOUR;3 FIVE;3 SIX;3 SEVEN;3 EIGHT;
   3 NINE;U+10E60;RUMI DIGIT ONE;2 TWO;2 THREE;2 FOUR;2 FIVE;2 SIX;2 SEVEN;2 EIGHT;2 NINE;
   1 NUMBER TEN;2 TWENTY;2 THIRTY;2 FORTY;2 FIFTY;2 SIXTY;2 SEVENTY;2 EIGHTY;2 NINETY;2 ONE HUNDRED;
   2 TWO 1;2 THREE 1;2 FOUR 1;2 FIVE 1;2 SIX 1;2 SEVEN 1;2 EIGHT 1;2 NINE 1;1 FRACTION ONE HALF;
   3 QUARTER;3 THIRD;2 TWO THIRDS;U+10E80;YEZIDI LETTER ELIF;2 BE;2 PE;2 PHE;2 THE;2 SE;2 CIM;
   2 CHIM;2 CHHIM;2 HHA;2 XA;2 DAL;2 ZAL;2 RA;2 RHA;2 ZA;2 JA;2 SIN;2 SHIN;2 SAD;2 DAD;2 TA;2 ZE;
   2 EYN;2 XHEYN;2 FA;2 VA;3 ALTERNATE FORM;2 QAF;2 KAF;2 KHAF;2 GAF;2 LAM;2 MIM;2 NUN;2 UM;2 WAW;
   2 OW;2 EW;2 HAY;2 YOT;2 ET;U+10EAB;1 COMBINING HAMZA MARK;2 MADDA 1;1 HYPHENATION MARK;U+10EB0;
   1 LETTER LAM WITH DOT ABOVE;2 YOT 1 CIRCUMFLEX 1;U+10F00;OLD SOGDIAN LETTER ALEPH;3 FINAL ALEPH;
   3 BETH;3 FINAL BETH;3 GIMEL;3 HE;3 FINAL HE;3 WAW;3 ZAYIN;3 HETH;3 YODH;3 KAPH;3 LAMEDH;3 MEM;
   3 NUN;3 FINAL NUN;5 WITH VERTICAL TAIL;3 SAMEKH;3 AYIN;3 ALTERNATE AYIN;3 PE;3 SADHE;
   3 FINAL SADHE;5 WITH VERTICAL TAIL;3 RESH-AYIN-DALETH;3 SHIN;3 TAW;3 FINAL TAW;
   5 WITH VERTICAL TAIL;2 NUMBER ONE;3 TWO;3 THREE;3 FOUR;3 FIVE;3 TEN;3 TWENTY;3 THIRTY;
   3 ONE HUNDRED;2 FRACTION 1 HALF;2 LIGATURE AYIN-DALETH;U+10F30;SOGDIAN LETTER ALEPH;2 BETH;
   2 GIMEL;2 HE;2 WAW;2 ZAYIN;2 HETH;2 YODH;2 KAPH;2 LAMEDH;2 MEM;2 NUN;2 SAMEKH;2 AYIN;2 PE;
   2 SADHE;2 RESH-AYIN;2 SHIN;2 TAW;2 FETH;2 LESH;1 INDEPENDENT SHIN;1 COMBINING DOT BELOW;
   2 TWO DOTS BELOW;2 DOT ABOVE;2 TWO DOTS ABOVE;2 CURVE ABOVE;3 BELOW;2 HOOK ABOVE;3 BELOW;
   2 LONG HOOK BELOW;2 RESH BELOW;2 STROKE 1;1 NUMBER ONE;2 TEN;2 TWENTY;2 ONE HUNDRED;
   1 PUNCTUATION TWO VERTICAL BARS;5 WITH DOTS;2 CIRCLE WITH DOT;2 TWO CIRCLES WITH DOTS;
   2 HALF CIRCLE 1 DOT;U+10F70;OLD UYGHUR LETTER ALEPH;3 BETH;3 GIMEL-HETH;3 WAW;3 ZAYIN;
   3 FINAL HETH;3 YODH;3 KAPH;3 LAMEDH;3 MEM;3 NUN;3 SAMEKH;3 PE;3 SADHE;3 RESH;3 SHIN;3 TAW;3 LESH;
   2 COMBINING DOT ABOVE;4 BELOW;3 TWO DOTS ABOVE;5 BELOW;2 PUNCTUATION BAR;3 TWO BARS;4 DOTS;
   3 FOUR 1;U+10FB0;CHORASMIAN LETTER ALEPH;2 SMALL ALEPH;2 BETH;2 GIMEL;2 DALETH;2 HE;2 WAW;
   2 CURLED WAW;2 ZAYIN;2 HETH;2 YODH;2 KAPH;2 LAMEDH;2 MEM;2 NUN;2 SAMEKH;2 AYIN;2 PE;2 RESH;
   2 SHIN;2 TAW;1 NUMBER ONE;2 TWO;2 THREE;2 FOUR;2 TEN;2 TWENTY;2 ONE HUNDRED;U+10FE0;
   ELYMAIC LETTER ALEPH;2 BETH;2 GIMEL;2 DALETH;2 HE;2 WAW;2 ZAYIN;2 HETH;2 TETH;2 YODH;2 KAPH;
   2 LAMEDH;2 MEM;2 NUN;2 SAMEKH;2 AYIN;2 PE;2 SADHE;2 QOPH;2 RESH;2 SHIN;2 TAW;
   1 LIGATURE ZAYIN-YODH"

end ApiShell.Template.CharacterName
