/-! Names of late scripts, games, pictographs and tags, as a listing. -/

namespace ApiShell.Template.CharacterName

/-- Late scripts, games, pictographs and tags. -/
def pictographs : String :=
  "U+1E000;COMBINING GLAGOLITIC LETTER AZU;3 BUKY;3 VEDE;3 GLAGOLI;3 DOBRO;3 YESTU;3 ZHIVETE;
   U+1E008;3 ZEMLJA;3 IZHE;3 INITIAL IZHE;3 I;3 DJERVI;3 KAKO;3 LJUDIJE;3 MYSLITE;3 NASHI;3 ONU;
   3 POKOJI;3 RITSI;3 SLOVO;3 TVRIDO;3 UKU;3 FRITU;3 HERU;U+1E01B;3 SHTA;3 TSI;3 CHRIVI;3 SHA;
   3 YERU;3 YERI;3 YATI;U+1E023;3 YU;3 SMALL YUS;U+1E026;3 YO;3 IOTATED SMALL YUS;3 BIG YUS;
   3 IOTATED BIG YUS;3 FITA;U+1E100;NYIAKENG PUACHUE HMONG LETTER MA;4 TSA;4 NTA;4 TA;4 HA;4 NA;
   4 XA;4 NKA;4 CA;4 LA;4 SA;4 ZA;4 NCA;4 NTSA;4 KA;4 DA;4 NYA;4 NRA;4 VA;4 NTXA;4 TXA;4 FA;4 RA;
   4 QA;4 YA;4 NQA;4 PA;4 XYA;4 NPA;4 DLA;4 NPLA;4 HAH;4 MLA;4 PLA;4 GA;4 RRA;4 A;4 AA;4 I;4 U;4 O;
   4 OO;4 E;4 EE;4 W;U+1E130;3 TONE-B;3 TONE-M;3 TONE-J;3 TONE-V;3 TONE-S;3 TONE-G;3 TONE-D;
   3 SIGN FOR PERSON;5 THING;5 LOCATION;5 ANIMAL;5 INVERTEBRATE;4 XW XW;3 SYLLABLE LENGTHENER;
   U+1E140;3 DIGIT ZERO;4 ONE;4 TWO;4 THREE;4 FOUR;4 FIVE;4 SIX;4 SEVEN;4 EIGHT;4 NINE;U+1E14E;
   3 LOGOGRAM NYAJ;3 CIRCLED CA;U+1E290;TOTO LETTER PA;2 BA;2 TA;2 DA;2 KA;2 GA;2 MA;2 NA;2 NGA;
   2 SA;2 CHA;2 YA;2 WA;2 JA;2 HA;2 RA;2 LA;2 I;2 BREATHY I;2 IU;2 BREATHY IU;2 U;2 E;2 BREATHY E;
   2 EO;2 BREATHY EO;2 O;2 AE;2 BREATHY AE;2 A;1 SIGN RISING TONE;U+1E2C0;WANCHO LETTER AA;2 A;2 BA;
   2 CA;2 DA;2 GA;2 YA;2 PHA;2 LA;2 NA;2 PA;2 TA;2 THA;2 FA;2 SA;2 SHA;2 JA;2 ZA;2 WA;2 VA;2 KA;2 O;
   2 AU;2 RA;2 MA;2 KHA;2 HA;2 E;2 I;2 NGA;2 U;2 LLHA;2 TSA;2 TRA;2 ONG;2 AANG;2 ANG;2 ING;2 ON;
   2 EN;2 AAN;2 NYA;2 UEN;2 YIH;1 TONE TUP;2 TUPNI;2 KOI;2 KOINI;1 DIGIT ZERO;2 ONE;2 TWO;2 THREE;
   2 FOUR;2 FIVE;2 SIX;2 SEVEN;2 EIGHT;2 NINE;U+1E2FF;1 NGUN SIGN;U+1E7E0;ETHIOPIC SYLLABLE HHYA;
   2 HHYU;2 HHYI;2 HHYAA;2 HHYEE;2 HHYE;2 HHYO;U+1E7E8;2 GURAGE HHWA;2 HHWI;2 HHWEE;2 HHWE;U+1E7ED;
   2 GURAGE MWI;3 MWEE;U+1E7F0;3 QWI;3 QWEE;3 QWE;3 BWI;3 BWEE;3 KWI;3 KWEE;3 KWE;3 GWI;3 GWEE;
   3 GWE;3 FWI;3 FWEE;3 PWI;3 PWEE;U+1E800;MENDE KIKAKUI SYLLABLE M001 KI;3 M002 KA;3 M003 KU;
   3 M065 KEE;3 M095 KE;3 M076 KOO;3 M048 KO;3 M179 KUA;3 M004 WI;3 M005 WA;3 M006 WU;3 M126 WEE;
   3 M118 WE;3 M114 WOO;3 M045 WO;3 M194 WUI;3 M143 WEI;3 M061 WVI;3 M049 WVA;3 M139 WVE;3 M007 MIN;
   3 M008 MAN;3 M009 MUN;3 M059 MEN;3 M094 MON;3 M154 MUAN;3 M189 MUEN;3 M010 BI;3 M011 BA;
   3 M012 BU;3 M150 BEE;3 M097 BE;3 M103 BOO;3 M138 BO;3 M013 I;3 M014 A;3 M015 U;3 M163 EE;
   3 M100 E;3 M165 OO;3 M147 O;3 M137 EI;3 M131 IN;3 M135 1;3 M195 AN;3 M178 EN;3 M019 SI;3 M020 SA;
   3 M021 SU;3 M162 SEE;3 M116 SE;3 M136 SOO;3 M079 SO;3 M196 SIA;3 M025 LI;3 M026 LA;3 M027 LU;
   3 M084 LEE;3 M073 LE;3 M054 LOO;3 M153 LO;3 M110 LONG LE;3 M016 DI;3 M017 DA;3 M018 DU;
   3 M089 DEE;3 M180 DOO;3 M181 DO;3 M022 TI;3 M023 TA;3 M024 TU;3 M091 TEE;3 M055 TE;3 M104 TOO;
   3 M069 TO;3 M028 JI;3 M029 JA;3 M030 JU;3 M157 JEE;3 M113 JE;3 M160 JOO;3 M063 JO;3 M175 LONG JO;
   3 M031 YI;3 M032 YA;3 M033 YU;3 M109 YEE;3 M080 YE;3 M141 YOO;3 M121 YO;3 M034 FI;3 M035 FA;
   3 M036 FU;3 M078 FEE;3 M075 FE;3 M133 FOO;3 M088 FO;3 M197 FUA;3 M101 FAN;3 M037 NIN;3 M038 NAN;
   3 M039 NUN;3 M117 NEN;3 M169 NON;3 M176 HI;3 M041 HA;3 M186 HU;3 M040 HEE;3 M096 HE;3 M042 HOO;
   3 M140 HO;3 M083 HEEI;3 M128 HOOU;3 M053 HIN;3 M130 HAN;3 M087 HUN;3 M052 HEN;3 M193 HON;
   3 M046 HUAN;3 M090 NGGI;3 M043 NGGA;3 M082 NGGU;3 M115 NGGEE;3 M146 NGGE;3 M156 NGGOO;
   3 M120 NGGO;3 M159 NGGAA;3 M127 NGGUA;3 M086 LONG NGGE;3 M106 1 NGGOO;3 M183 1 NGGO;3 M155 GI;
   3 M111 GA;3 M168 GU;3 M190 GEE;3 M166 GUEI;3 M167 GUAN;3 M184 NGEN;3 M057 NGON;3 M177 NGUAN;
   3 M068 PI;3 M099 PA;3 M050 PU;3 M081 PEE;3 M051 PE;3 M102 POO;3 M066 PO;3 M145 MBI;3 M062 MBA;
   3 M122 MBU;3 M047 MBEE;3 M188 1;3 M072 MBE;3 M172 MBOO;3 M174 MBO;3 M187 MBUU;3 M161 LONG MBE;
   3 M105 1 MBOO;3 M142 1 MBO;3 M132 KPI;3 M092 KPA;3 M074 KPU;3 M044 KPEE;3 M108 KPE;3 M112 KPOO;
   3 M158 KPO;3 M124 GBI;3 M056 GBA;3 M148 GBU;3 M093 GBEE;3 M107 GBE;3 M071 GBOO;3 M070 GBO;
   3 M171 RA;3 M123 NDI;3 M129 NDA;3 M125 NDU;3 M191 NDEE;3 M119 NDE;3 M067 NDOO;3 M064 NDO;
   3 M152 NJA;3 M192 NJU;3 M149 NJEE;3 M134 NJOO;3 M182 VI;3 M185 VA;3 M151 VU;3 M173 VEE;3 M085 VE;
   3 M144 VOO;3 M077 VO;3 M164 NYIN;3 M058 NYAN;3 M170 NYUN;3 M098 NYEN;3 M060 NYON;U+1E8C7;
   2 DIGIT ONE;3 TWO;3 THREE;3 FOUR;3 FIVE;3 SIX;3 SEVEN;3 EIGHT;3 NINE;2 COMBINING NUMBER TEENS;
   4 TENS;4 HUNDREDS;4 THOUSANDS;4 TEN THOUSANDS;4 HUNDRED 1;4 MILLIONS;U+1E900;
   ADLAM CAPITAL LETTER ALIF;3 DAALI;3 LAAM;3 MIIM;3 BA;3 SINNYIIYHE;3 PE;3 BHE;3 RA;3 E;3 FA;3 I;
   3 O;3 DHA;3 YHE;3 WAW;3 NUN;3 KAF;3 YA;3 U;3 JIIM;3 CHI;3 HA;3 QAAF;3 GA;3 NYA;3 TU;3 NHA;3 VA;
   3 KHA;3 GBE;3 ZAL;3 KPO;3 SHA;1 SMALL 1 ALIF;3 DAALI;3 LAAM;3 MIIM;3 BA;3 SINNYIIYHE;3 PE;3 BHE;
   3 RA;3 E;3 FA;3 I;3 O;3 DHA;3 YHE;3 WAW;3 NUN;3 KAF;3 YA;3 U;3 JIIM;3 CHI;3 HA;3 QAAF;3 GA;3 NYA;
   3 TU;3 NHA;3 VA;3 KHA;3 GBE;3 ZAL;3 KPO;3 SHA;1 ALIF LENGTHENER;1 VOWEL 1;1 GEMINATION MARK;
   1 HAMZA;1 CONSONANT MODIFIER;1 GEMINATE CONSONANT MODIFIER;1 NUKTA;1 NASALIZATION MARK;U+1E950;
   1 DIGIT ZERO;2 ONE;2 TWO;2 THREE;2 FOUR;2 FIVE;2 SIX;2 SEVEN;2 EIGHT;2 NINE;U+1E95E;
   1 INITIAL EXCLAMATION MARK;2 QUESTION 1;U+1EC71;INDIC SIYAQ NUMBER ONE;3 TWO;3 THREE;3 FOUR;
   3 FIVE;3 SIX;3 SEVEN;3 EIGHT;3 NINE;3 TEN;3 TWENTY;3 THIRTY;3 FORTY;3 FIFTY;3 SIXTY;3 SEVENTY;
   3 EIGHTY;3 NINETY;3 ONE HUNDRED;3 TWO 1;3 THREE 1;3 FOUR 1;3 FIVE 1;3 SIX 1;3 SEVEN 1;3 EIGHT 1;
   3 NINE 1;3 ONE THOUSAND;3 TWO 1;3 THREE 1;3 FOUR 1;3 FIVE 1;3 SIX 1;3 SEVEN 1;3 EIGHT 1;3 NINE 1;
   3 TEN 1;3 TWENTY 1;3 THIRTY 1;3 FORTY 1;3 FIFTY 1;3 SIXTY 1;3 SEVENTY 1;3 EIGHTY 1;3 NINETY 1;
   3 LAKH;3 LAKHAN;2 LAKH MARK;2 NUMBER KAROR;3 KARORAN;3 PREFIXED ONE;4 TWO;4 THREE;4 FOUR;4 FIVE;
   4 SIX;4 SEVEN;4 EIGHT;4 NINE;2 PLACEHOLDER;2 FRACTION ONE QUARTER;4 HALF;3 THREE QUARTERS;
   2 RUPEE MARK;2 NUMBER ALTERNATE ONE;4 TWO;4 TEN THOUSAND;2 ALTERNATE LAKH MARK;U+1ED01;
   OTTOMAN 1 NUMBER ONE;3 TWO;3 THREE;3 FOUR;3 FIVE;3 SIX;3 SEVEN;3 EIGHT;3 NINE;3 TEN;3 TWENTY;
   3 THIRTY;3 FORTY;3 FIFTY;3 SIXTY;3 SEVENTY;3 EIGHTY;3 NINETY;3 ONE HUNDRED;3 TWO 1;3 THREE 1;
   3 FOUR 1;3 FIVE 1;3 SIX 1;3 SEVEN 1;3 EIGHT 1;3 NINE 1;3 ONE THOUSAND;3 TWO 1;3 THREE 1;3 FOUR 1;
   3 FIVE 1;3 SIX 1;3 SEVEN 1;3 EIGHT 1;3 NINE 1;3 TEN 1;3 TWENTY 1;3 THIRTY 1;3 FORTY 1;3 FIFTY 1;
   3 SIXTY 1;3 SEVENTY 1;3 EIGHTY 1;3 NINETY 1;2 MARRATAN;2 ALTERNATE NUMBER TWO;4 THREE;4 FOUR;
   4 FIVE;4 SIX;4 SEVEN;4 EIGHT;4 NINE;4 TEN;4 FOUR HUNDRED;4 SIX 1;4 TWO THOUSAND;4 TEN 1;
   2 FRACTION ONE HALF;4 SIXTH;U+1EE00;ARABIC MATHEMATICAL ALEF;2 BEH;2 JEEM;2 DAL;U+1EE05;2 WAW;
   2 ZAIN;2 HAH;2 TAH;2 YEH;2 KAF;2 LAM;2 MEEM;2 NOON;2 SEEN;2 AIN;2 FEH;2 SAD;2 QAF;2 REH;2 SHEEN;
   2 TEH;2 THEH;2 KHAH;2 THAL;2 DAD;2 ZAH;2 GHAIN;2 DOTLESS BEH;3 NOON;3 FEH;3 QAF;U+1EE21;
   2 INITIAL BEH;3 JEEM;U+1EE24;3 HEH;U+1EE27;3 HAH;U+1EE29;3 YEH;3 KAF;3 LAM;3 MEEM;3 NOON;3 SEEN;
   3 AIN;3 FEH;3 SAD;3 QAF;U+1EE34;3 SHEEN;3 TEH;3 THEH;3 KHAH;U+1EE39;3 DAD;U+1EE3B;3 GHAIN;
   U+1EE42;2 TAILED JEEM;U+1EE47;3 HAH;U+1EE49;3 YEH;U+1EE4B;3 LAM;U+1EE4D;3 NOON;3 SEEN;3 AIN;
   U+1EE51;3 SAD;3 QAF;U+1EE54;3 SHEEN;U+1EE57;3 KHAH;U+1EE59;3 DAD;U+1EE5B;3 GHAIN;U+1EE5D;
   3 DOTLESS NOON;U+1EE5F;4 QAF;U+1EE61;2 STRETCHED BEH;3 JEEM;U+1EE64;3 HEH;U+1EE67;3 HAH;3 TAH;
   3 YEH;3 KAF;U+1EE6C;3 MEEM;3 NOON;3 SEEN;3 AIN;3 FEH;3 SAD;3 QAF;U+1EE74;3 SHEEN;3 TEH;3 THEH;
   3 KHAH;U+1EE79;3 DAD;3 ZAH;3 GHAIN;3 DOTLESS BEH;U+1EE7E;4 FEH;U+1EE80;2 LOOPED ALEF;3 BEH;
   3 JEEM;3 DAL;3 HEH;3 WAW;3 ZAIN;3 HAH;3 TAH;3 YEH;U+1EE8B;3 LAM;3 MEEM;3 NOON;3 SEEN;3 AIN;3 FEH;
   3 SAD;3 QAF;3 REH;3 SHEEN;3 TEH;3 THEH;3 KHAH;3 THAL;3 DAD;3 ZAH;3 GHAIN;U+1EEA1;
   2 DOUBLE-STRUCK BEH;3 JEEM;3 DAL;U+1EEA5;3 WAW;3 ZAIN;3 HAH;3 TAH;3 YEH;U+1EEAB;3 LAM;3 MEEM;
   3 NOON;3 SEEN;3 AIN;3 FEH;3 SAD;3 QAF;3 REH;3 SHEEN;3 TEH;3 THEH;3 KHAH;3 THAL;3 DAD;3 ZAH;
   3 GHAIN;U+1EEF0;2 OPERATOR MEEM WITH HAH WITH TATWEEL;3 HAH 1 DAL;U+1F000;MAHJONG TILE EAST WIND;
   2 SOUTH 1;2 WEST 1;2 NORTH 1;2 RED DRAGON;2 GREEN 1;2 WHITE 1;2 ONE OF CHARACTERS;2 TWO 2;
   2 THREE 2;2 FOUR 2;2 FIVE 2;2 SIX 2;2 SEVEN 2;2 EIGHT 2;2 NINE 2;2 ONE 1 BAMBOOS;2 TWO 2;
   2 THREE 2;2 FOUR 2;2 FIVE 2;2 SIX 2;2 SEVEN 2;2 EIGHT 2;2 NINE 2;2 ONE 1 CIRCLES;2 TWO 2;
   2 THREE 2;2 FOUR 2;2 FIVE 2;2 SIX 2;2 SEVEN 2;2 EIGHT 2;2 NINE 2;2 PLUM;2 ORCHID;2 BAMBOO;
   2 CHRYSANTHEMUM;2 SPRING;2 SUMMER;2 AUTUMN;2 WINTER;2 JOKER;2 BACK;U+1F030;
   DOMINO 1 HORIZONTAL BACK;2 HORIZONTAL-00-00;+6;2 HORIZONTAL-01-00;+6;2 HORIZONTAL-02-00;+6;
   2 HORIZONTAL-03-00;+6;2 HORIZONTAL-04-00;+6;2 HORIZONTAL-05-00;+6;2 HORIZONTAL-06-00;+6;
   2 VERTICAL BACK;2 VERTICAL-00-00;+6;2 VERTICAL-01-00;+6;2 VERTICAL-02-00;+6;2 VERTICAL-03-00;+6;
   2 VERTICAL-04-00;+6;2 VERTICAL-05-00;+6;2 VERTICAL-06-00;+6;U+1F0A0;PLAYING CARD BACK;
   2 ACE OF SPADES;2 TWO 2;2 THREE 2;2 FOUR 2;2 FIVE 2;2 SIX 2;2 SEVEN 2;2 EIGHT 2;2 NINE 2;2 TEN 2;
   2 JACK 2;2 KNIGHT 2;2 QUEEN 2;2 KING 2;U+1F0B1;2 ACE 1 HEARTS;2 TWO 2;2 THREE 2;2 FOUR 2;
   2 FIVE 2;2 SIX 2;2 SEVEN 2;2 EIGHT 2;2 NINE 2;2 TEN 2;2 JACK 2;2 KNIGHT 2;2 QUEEN 2;2 KING 2;
   2 RED JOKER;U+1F0C1;2 ACE OF DIAMONDS;2 TWO 2;2 THREE 2;2 FOUR 2;2 FIVE 2;2 SIX 2;2 SEVEN 2;
   2 EIGHT 2;2 NINE 2;2 TEN 2;2 JACK 2;2 KNIGHT 2;2 QUEEN 2;2 KING 2;2 BLACK JOKER;U+1F0D1;
   2 ACE OF CLUBS;2 TWO 2;2 THREE 2;2 FOUR 2;2 FIVE 2;2 SIX 2;2 SEVEN 2;2 EIGHT 2;2 NINE 2;2 TEN 2;
   2 JACK 2;2 KNIGHT 2;2 QUEEN 2;2 KING 2;2 WHITE JOKER;2 FOOL;2 TRUMP-1;+20;U+1F100;
   DIGIT ZERO FULL STOP;2 COMMA;1 ONE 1;1 TWO 1;1 THREE 1;1 FOUR 1;1 FIVE 1;1 SIX 1;1 SEVEN 1;
   1 EIGHT 1;1 NINE 1;DINGBAT CIRCLED SANS-SERIF DIGIT ZERO;
   1 NEGATIVE CIRCLED SANS-SERIF DIGIT ZERO;CIRCLED ZERO WITH SLASH;1 ANTICLOCKWISE ARROW;
   1 DOLLAR SIGN WITH OVERLAID BACKSLASH;PARENTHESIZED LATIN CAPITAL LETTER A;4 B;4 C;4 D;4 E;4 F;
   4 G;4 H;4 I;4 J;4 K;4 L;4 M;4 N;4 O;4 P;4 Q;4 R;4 S;4 T;4 U;4 V;4 W;4 X;4 Y;4 Z;
   TORTOISE SHELL BRACKETED LATIN CAPITAL LETTER S;CIRCLED ITALIC LATIN CAPITAL LETTER C;5 R;1 CD;
   1 WZ;COPYLEFT SYMBOL;SQUARED LATIN CAPITAL LETTER A;4 B;4 C;4 D;4 E;4 F;4 G;4 H;4 I;4 J;4 K;4 L;
   4 M;4 N;4 O;4 P;4 Q;4 R;4 S;4 T;4 U;4 V;4 W;4 X;4 Y;4 Z;1 HV;1 MV;1 SD;1 SS;1 PPV;1 WC;
   NEGATIVE CIRCLED LATIN CAPITAL LETTER A;5 B;5 C;5 D;5 E;5 F;5 G;5 H;5 I;5 J;5 K;5 L;5 M;5 N;5 O;
   5 P;5 Q;5 R;5 S;5 T;5 U;5 V;5 W;5 X;5 Y;5 Z;RAISED MC SIGN;1 MD 1;1 MR 1;CIRCLED CC;
   1 C WITH OVERLAID BACKSLASH;1 HUMAN FIGURE;NEGATIVE SQUARED LATIN CAPITAL LETTER A;5 B;5 C;5 D;
   5 E;5 F;5 G;5 H;5 I;5 J;5 K;5 L;5 M;5 N;5 O;5 P;5 Q;5 R;5 S;5 T;5 U;5 V;5 W;5 X;5 Y;5 Z;
   CROSSED NEGATIVE SQUARED LATIN CAPITAL LETTER P;NEGATIVE SQUARED IC;2 PA;2 SA;2 AB;2 WC;
   SQUARE DJ;SQUARED CL;1 COOL;1 FREE;1 ID;1 NEW;1 NG;1 OK;1 SOS;1 UP WITH EXCLAMATION MARK;1 VS;
   1 THREE D;1 SECOND SCREEN;1 TWO K;1 FOUR 1;1 EIGHT 1;1 FIVE POINT ONE;1 SEVEN 2;
   1 TWENTY-TWO 1 TWO;1 SIXTY P;1 ONE HUNDRED TWENTY P;1 LATIN SMALL LETTER D;1 HC;1 HDR;1 HI-RES;
   1 LOSSLESS;1 SHV;1 UHD;1 VOD;MASK WORK SYMBOL;U+1F1E6;REGIONAL INDICATOR 1 LETTER A;4 B;4 C;4 D;
   4 E;4 F;4 G;4 H;4 I;4 J;4 K;4 L;4 M;4 N;4 O;4 P;4 Q;4 R;4 S;4 T;4 U;4 V;4 W;4 X;4 Y;4 Z;
   SQUARE HIRAGANA HOKA;SQUARED KATAKANA KOKO;2 SA;U+1F210;1 CJK UNIFIED IDEOGRAPH-624B;
   3 IDEOGRAPH-5B57;3 IDEOGRAPH-53CC;1 KATAKANA DE;1 CJK UNIFIED IDEOGRAPH-4E8C;3 IDEOGRAPH-591A;
   3 IDEOGRAPH-89E3;3 IDEOGRAPH-5929;3 IDEOGRAPH-4EA4;3 IDEOGRAPH-6620;3 IDEOGRAPH-7121;
   3 IDEOGRAPH-6599;3 IDEOGRAPH-524D;3 IDEOGRAPH-5F8C;3 IDEOGRAPH-518D;3 IDEOGRAPH-65B0;
   3 IDEOGRAPH-521D;3 IDEOGRAPH-7D42;3 IDEOGRAPH-751F;3 IDEOGRAPH-8CA9;3 IDEOGRAPH-58F0;
   3 IDEOGRAPH-5439;3 IDEOGRAPH-6F14;3 IDEOGRAPH-6295;3 IDEOGRAPH-6355;3 IDEOGRAPH-4E00;
   3 IDEOGRAPH-4E09;3 IDEOGRAPH-904A;3 IDEOGRAPH-5DE6;3 IDEOGRAPH-4E2D;3 IDEOGRAPH-53F3;
   3 IDEOGRAPH-6307;3 IDEOGRAPH-8D70;3 IDEOGRAPH-6253;3 IDEOGRAPH-7981;3 IDEOGRAPH-7A7A;
   3 IDEOGRAPH-5408;3 IDEOGRAPH-6E80;3 IDEOGRAPH-6709;3 IDEOGRAPH-6708;3 IDEOGRAPH-7533;
   3 IDEOGRAPH-5272;3 IDEOGRAPH-55B6;3 IDEOGRAPH-914D;U+1F240;
   TORTOISE SHELL BRACKETED CJK UNIFIED IDEOGRAPH-672C;5 IDEOGRAPH-4E09;5 IDEOGRAPH-4E8C;
   5 IDEOGRAPH-5B89;5 IDEOGRAPH-70B9;5 IDEOGRAPH-6253;5 IDEOGRAPH-76D7;5 IDEOGRAPH-52DD;
   5 IDEOGRAPH-6557;U+1F250;CIRCLED IDEOGRAPH ADVANTAGE;2 ACCEPT;U+1F260;ROUNDED SYMBOL FOR FU;3 LU;
   3 SHOU;3 XI;3 SHUANGXI;3 CAI;U+1F300;CYCLONE;FOGGY;CLOSED UMBRELLA;NIGHT WITH STARS;
   SUNRISE OVER MOUNTAINS;1;CITYSCAPE AT DUSK;SUNSET OVER BUILDINGS;RAINBOW;BRIDGE AT NIGHT;
   WATER WAVE;VOLCANO;MILKY WAY;EARTH GLOBE EUROPE-AFRICA;2 AMERICAS;2 ASIA-AUSTRALIA;
   GLOBE WITH MERIDIANS;NEW MOON SYMBOL;WAXING CRESCENT MOON SYMBOL;FIRST QUARTER 2;
   WAXING GIBBOUS 2;FULL MOON SYMBOL;WANING GIBBOUS MOON SYMBOL;LAST QUARTER 2;WANING CRESCENT 2;
   CRESCENT MOON;NEW 1 WITH FACE;FIRST QUARTER MOON WITH FACE;LAST 4;FULL MOON WITH FACE;
   SUN WITH FACE;GLOWING STAR;SHOOTING 1;THERMOMETER;BLACK DROPLET;WHITE SUN;2 WITH SMALL CLOUD;
   2 BEHIND CLOUD;4 WITH RAIN;CLOUD WITH RAIN;2 SNOW;2 LIGHTNING;2 TORNADO;FOG;WIND BLOWING FACE;
   HOT DOG;TACO;BURRITO;CHESTNUT;SEEDLING;EVERGREEN TREE;DECIDUOUS 1;PALM 1;CACTUS;HOT PEPPER;TULIP;
   CHERRY BLOSSOM;ROSE;HIBISCUS;SUNFLOWER;BLOSSOM;EAR OF MAIZE;2 RICE;HERB;FOUR LEAF CLOVER;MAPLE 1;
   FALLEN 1;LEAF FLUTTERING IN WIND;MUSHROOM;TOMATO;AUBERGINE;GRAPES;MELON;WATERMELON;TANGERINE;
   LEMON;BANANA;PINEAPPLE;RED APPLE;GREEN 1;PEAR;PEACH;CHERRIES;STRAWBERRY;HAMBURGER;SLICE OF PIZZA;
   MEAT ON BONE;POULTRY LEG;RICE CRACKER;1 BALL;COOKED RICE;CURRY AND RICE;STEAMING BOWL;SPAGHETTI;
   BREAD;FRENCH FRIES;ROASTED SWEET POTATO;DANGO;ODEN;SUSHI;FRIED SHRIMP;
   FISH CAKE WITH SWIRL DESIGN;SOFT ICE CREAM;SHAVED 1;ICE CREAM;DOUGHNUT;COOKIE;CHOCOLATE BAR;
   CANDY;LOLLIPOP;CUSTARD;HONEY POT;SHORTCAKE;BENTO BOX;POT OF FOOD;COOKING;FORK AND KNIFE;
   TEACUP WITHOUT HANDLE;SAKE BOTTLE AND CUP;WINE GLASS;COCKTAIL 1;TROPICAL DRINK;BEER MUG;
   CLINKING BEER MUGS;BABY BOTTLE;FORK AND KNIFE WITH PLATE;BOTTLE WITH POPPING CORK;POPCORN;RIBBON;
   WRAPPED PRESENT;BIRTHDAY CAKE;JACK-O-LANTERN;CHRISTMAS TREE;FATHER CHRISTMAS;FIREWORKS;
   FIREWORK SPARKLER;BALLOON;PARTY POPPER;CONFETTI BALL;TANABATA TREE;CROSSED FLAGS;PINE DECORATION;
   JAPANESE DOLLS;CARP STREAMER;WIND CHIME;MOON VIEWING CEREMONY;SCHOOL SATCHEL;GRADUATION CAP;
   HEART WITH TIP ON THE LEFT;BOUQUET OF FLOWERS;MILITARY MEDAL;REMINDER RIBBON;
   MUSICAL KEYBOARD WITH JACKS;STUDIO MICROPHONE;LEVEL SLIDER;CONTROL KNOBS;
   BEAMED ASCENDING MUSICAL NOTES;1 DESCENDING 2;FILM FRAMES;ADMISSION TICKETS;CAROUSEL HORSE;
   FERRIS WHEEL;ROLLER COASTER;FISHING POLE AND FISH;MICROPHONE;MOVIE CAMERA;CINEMA;HEADPHONE;
   ARTIST PALETTE;TOP HAT;CIRCUS TENT;TICKET;CLAPPER BOARD;PERFORMING ARTS;VIDEO GAME;DIRECT HIT;
   SLOT MACHINE;BILLIARDS;GAME DIE;BOWLING;FLOWER PLAYING CARDS;MUSICAL NOTE;MULTIPLE MUSICAL NOTES;
   SAXOPHONE;GUITAR;MUSICAL KEYBOARD;TRUMPET;VIOLIN;MUSICAL SCORE;RUNNING SHIRT WITH SASH;
   TENNIS RACQUET AND BALL;SKI AND SKI BOOT;BASKETBALL 1 HOOP;CHEQUERED FLAG;SNOWBOARDER;RUNNER;
   SURFER;SPORTS MEDAL;TROPHY;HORSE RACING;AMERICAN FOOTBALL;RUGBY 1;SWIMMER;WEIGHT LIFTER;GOLFER;
   RACING MOTORCYCLE;1 CAR;CRICKET BAT AND BALL;VOLLEYBALL;FIELD HOCKEY STICK AND BALL;ICE 3 PUCK;
   TABLE TENNIS PADDLE 1 BALL;SNOW CAPPED MOUNTAIN;CAMPING;BEACH WITH UMBRELLA;
   BUILDING CONSTRUCTION;HOUSE BUILDINGS;CITYSCAPE;DERELICT HOUSE BUILDING;CLASSICAL BUILDING;
   DESERT;1 ISLAND;NATIONAL PARK;STADIUM;HOUSE BUILDING;1 WITH GARDEN;OFFICE BUILDING;
   JAPANESE POST OFFICE;EUROPEAN 2;HOSPITAL;BANK;AUTOMATED TELLER MACHINE;HOTEL;LOVE HOTEL;
   CONVENIENCE STORE;SCHOOL;DEPARTMENT STORE;FACTORY;IZAKAYA LANTERN;JAPANESE CASTLE;EUROPEAN 1;
   WHITE PENNANT;BLACK 1;WAVING WHITE FLAG;1 BLACK 1;ROSETTE;BLACK ROSETTE;LABEL;
   BADMINTON RACQUET AND SHUTTLECOCK;BOW AND ARROW;AMPHORA;EMOJI MODIFIER FITZPATRICK TYPE-1-2;
   3 TYPE-3;+3;RAT;MOUSE;OX;WATER BUFFALO;COW;TIGER;LEOPARD;RABBIT;CAT;DRAGON;CROCODILE;WHALE;SNAIL;
   SNAKE;HORSE;RAM;GOAT;SHEEP;MONKEY;ROOSTER;CHICKEN;DOG;PIG;BOAR;ELEPHANT;OCTOPUS;SPIRAL SHELL;BUG;
   ANT;HONEYBEE;LADY BEETLE;FISH;TROPICAL FISH;BLOWFISH;TURTLE;HATCHING CHICK;BABY 1;
   FRONT-FACING BABY CHICK;BIRD;PENGUIN;KOALA;POODLE;DROMEDARY CAMEL;BACTRIAN 1;DOLPHIN;MOUSE FACE;
   COW 1;TIGER 1;RABBIT 1;CAT 1;DRAGON 1;SPOUTING WHALE;HORSE FACE;MONKEY 1;DOG 1;PIG 1;FROG 1;
   HAMSTER 1;WOLF 1;BEAR 1;PANDA 1;PIG NOSE;PAW PRINTS;CHIPMUNK;EYES;EYE;EAR;NOSE;MOUTH;TONGUE;
   WHITE UP POINTING BACKHAND INDEX;1 DOWN 3;1 LEFT 3;1 RIGHT 3;FISTED HAND SIGN;WAVING 2;OK 2;
   THUMBS UP 1;1 DOWN 1;CLAPPING HANDS 1;OPEN 2;CROWN;WOMANS HAT;EYEGLASSES;NECKTIE;T-SHIRT;JEANS;
   DRESS;KIMONO;BIKINI;WOMANS CLOTHES;PURSE;HANDBAG;POUCH;MANS SHOE;ATHLETIC 1;HIGH-HEELED 1;
   WOMANS SANDAL;1 BOOTS;FOOTPRINTS;BUST IN SILHOUETTE;BUSTS 2;BOY;GIRL;MAN;WOMAN;FAMILY;
   MAN AND WOMAN HOLDING HANDS;TWO MEN HOLDING HANDS;1 WOMEN 2;POLICE OFFICER;WOMAN WITH BUNNY EARS;
   BRIDE 1 VEIL;PERSON 1 BLOND HAIR;MAN 1 GUA PI MAO;2 TURBAN;OLDER MAN;1 WOMAN;BABY;
   CONSTRUCTION WORKER;PRINCESS;JAPANESE OGRE;1 GOBLIN;GHOST;BABY ANGEL;EXTRATERRESTRIAL ALIEN;
   ALIEN MONSTER;IMP;SKULL;INFORMATION DESK PERSON;GUARDSMAN;DANCER;LIPSTICK;NAIL POLISH;
   FACE MASSAGE;HAIRCUT;BARBER POLE;SYRINGE;PILL;KISS MARK;LOVE LETTER;RING;GEM STONE;KISS;BOUQUET;
   COUPLE WITH HEART;WEDDING;BEATING HEART;BROKEN 1;TWO HEARTS;SPARKLING HEART;GROWING 1;
   HEART WITH ARROW;BLUE HEART;GREEN 1;YELLOW 1;PURPLE 1;HEART WITH RIBBON;REVOLVING HEARTS;
   HEART DECORATION;DIAMOND SHAPE WITH A DOT INSIDE;ELECTRIC LIGHT BULB;ANGER SYMBOL;BOMB;
   SLEEPING SYMBOL;COLLISION 1;SPLASHING SWEAT SYMBOL;DROPLET;DASH SYMBOL;PILE OF POO;FLEXED BICEPS;
   DIZZY SYMBOL;SPEECH BALLOON;THOUGHT 1;WHITE FLOWER;HUNDRED POINTS SYMBOL;MONEY BAG;
   CURRENCY EXCHANGE;HEAVY DOLLAR SIGN;CREDIT CARD;BANKNOTE WITH YEN SIGN;2 DOLLAR 1;2 EURO 1;
   2 POUND 1;MONEY 1 WINGS;CHART 1 UPWARDS TREND AND YEN SIGN;SEAT;PERSONAL COMPUTER;BRIEFCASE;
   MINIDISC;FLOPPY DISK;OPTICAL DISC;DVD;FILE FOLDER;OPEN FILE FOLDER;PAGE WITH CURL;1 FACING UP;
   CALENDAR;TEAR-OFF CALENDAR;CARD INDEX;CHART WITH UPWARDS TREND;2 DOWNWARDS 1;BAR CHART;CLIPBOARD;
   PUSHPIN;ROUND PUSHPIN;PAPERCLIP;STRAIGHT RULER;TRIANGULAR 1;BOOKMARK TABS;LEDGER;NOTEBOOK;
   1 WITH DECORATIVE COVER;CLOSED BOOK;OPEN 1;GREEN 1;BLUE 1;ORANGE 1;BOOKS;NAME BADGE;SCROLL;MEMO;
   TELEPHONE RECEIVER;PAGER;FAX MACHINE;SATELLITE ANTENNA;PUBLIC ADDRESS LOUDSPEAKER;
   CHEERING MEGAPHONE;OUTBOX TRAY;INBOX 1;PACKAGE;E-MAIL SYMBOL;INCOMING ENVELOPE;
   ENVELOPE WITH DOWNWARDS ARROW ABOVE;CLOSED MAILBOX WITH LOWERED FLAG;3 RAISED 1;OPEN 4;
   3 LOWERED 1;POSTBOX;POSTAL HORN;NEWSPAPER;MOBILE PHONE;2 WITH RIGHTWARDS ARROW AT LEFT;
   VIBRATION MODE;MOBILE PHONE OFF;NO MOBILE PHONES;ANTENNA WITH BARS;CAMERA;1 WITH FLASH;
   VIDEO CAMERA;TELEVISION;RADIO;VIDEOCASSETTE;FILM PROJECTOR;PORTABLE STEREO;PRAYER BEADS;
   TWISTED RIGHTWARDS ARROWS;CLOCKWISE 1 AND LEFTWARDS OPEN CIRCLE ARROWS;
   7 WITH CIRCLED ONE OVERLAY;1 DOWNWARDS 1 UPWARDS 3;ANTICLOCKWISE 6;LOW BRIGHTNESS SYMBOL;HIGH 2;
   SPEAKER WITH CANCELLATION STROKE;1;1 WITH ONE SOUND WAVE;2 THREE 1 WAVES;BATTERY;ELECTRIC PLUG;
   LEFT-POINTING MAGNIFYING GLASS;RIGHT-POINTING 2;LOCK WITH INK PEN;CLOSED LOCK WITH KEY;KEY;LOCK;
   OPEN LOCK;BELL;1 WITH CANCELLATION STROKE;BOOKMARK;LINK SYMBOL;RADIO BUTTON;
   BACK WITH LEFTWARDS ARROW ABOVE;END 4;ON 1 EXCLAMATION MARK WITH LEFT RIGHT ARROW ABOVE;
   SOON 1 RIGHTWARDS ARROW ABOVE;TOP 1 UPWARDS 2;NO ONE UNDER EIGHTEEN SYMBOL;KEYCAP TEN;
   INPUT SYMBOL FOR LATIN CAPITAL LETTERS;4 SMALL 1;3 NUMBERS;3 SYMBOLS;3 LATIN LETTERS;FIRE;
   ELECTRIC TORCH;WRENCH;HAMMER;NUT AND BOLT;HOCHO;PISTOL;MICROSCOPE;TELESCOPE;CRYSTAL BALL;
   SIX POINTED STAR WITH MIDDLE DOT;JAPANESE SYMBOL FOR BEGINNER;TRIDENT EMBLEM;BLACK SQUARE BUTTON;
   WHITE 2;LARGE RED CIRCLE;1 BLUE 1;1 ORANGE DIAMOND;1 BLUE 1;SMALL ORANGE 1;1 BLUE 1;
   UP-POINTING RED TRIANGLE;DOWN-POINTING 2;UP-POINTING SMALL RED TRIANGLE;DOWN-POINTING 3;
   LOWER RIGHT SHADOWED WHITE CIRCLE;UPPER 4;CIRCLED CROSS POMMEE;
   CROSS POMMEE WITH HALF-CIRCLE BELOW;2;NOTCHED LEFT SEMICIRCLE WITH THREE DOTS;1 RIGHT 4;
   SYMBOL FOR MARKS CHAPTER;WHITE LATIN CROSS;HEAVY 2;CELTIC CROSS;OM SYMBOL;DOVE OF PEACE;KAABA;
   MOSQUE;SYNAGOGUE;MENORAH WITH NINE BRANCHES;BOWL OF HYGIEIA;CLOCK FACE ONE OCLOCK;2 TWO 1;
   2 THREE 1;2 FOUR 1;2 FIVE 1;2 SIX 1;2 SEVEN 1;2 EIGHT 1;2 NINE 1;2 TEN 1;2 ELEVEN 1;2 TWELVE 1;
   2 ONE-THIRTY;2 TWO-THIRTY;2 THREE-THIRTY;2 FOUR-THIRTY;2 FIVE-THIRTY;2 SIX-THIRTY;2 SEVEN-THIRTY;
   2 EIGHT-THIRTY;2 NINE-THIRTY;2 TEN-THIRTY;2 ELEVEN-THIRTY;2 TWELVE-THIRTY;RIGHT SPEAKER;
   2 WITH ONE SOUND WAVE;3 THREE 1 WAVES;BULLHORN;1 WITH SOUND WAVES;RINGING BELL;BOOK;CANDLE;
   MANTELPIECE CLOCK;BLACK SKULL AND CROSSBONES;NO PIRACY;HOLE;MAN IN BUSINESS SUIT LEVITATING;
   SLEUTH OR SPY;DARK SUNGLASSES;SPIDER;1 WEB;JOYSTICK;MAN DANCING;LEFT HAND TELEPHONE RECEIVER;
   TELEPHONE RECEIVER WITH PAGE;RIGHT HAND TELEPHONE RECEIVER;WHITE TOUCHTONE 1;BLACK 2;
   TELEPHONE ON TOP OF MODEM;CLAMSHELL MOBILE PHONE;BACK OF ENVELOPE;STAMPED ENVELOPE;
   ENVELOPE WITH LIGHTNING;FLYING ENVELOPE;PEN OVER STAMPED ENVELOPE;LINKED PAPERCLIPS;
   BLACK PUSHPIN;LOWER LEFT PENCIL;2 BALLPOINT PEN;2 FOUNTAIN 1;2 PAINTBRUSH;2 CRAYON;
   LEFT WRITING HAND;TURNED OK 1 SIGN;RAISED HAND WITH FINGERS SPLAYED;
   REVERSED RAISED HAND WITH FINGERS SPLAYED;1 THUMBS UP SIGN;2 DOWN 1;1 VICTORY HAND;
   1 HAND WITH MIDDLE FINGER EXTENDED;RAISED 2 PART BETWEEN MIDDLE AND RING FINGERS;
   WHITE DOWN POINTING LEFT HAND INDEX;SIDEWAYS WHITE LEFT POINTING INDEX;2 RIGHT 2;1 BLACK LEFT 2;
   2 RIGHT 2;BLACK LEFT POINTING BACKHAND 1;1 RIGHT 3;SIDEWAYS WHITE UP POINTING 1;2 DOWN 2;
   1 BLACK UP 2;2 DOWN 2;BLACK UP POINTING BACKHAND 1;1 DOWN 3;1 HEART;DESKTOP COMPUTER;
   KEYBOARD AND MOUSE;THREE NETWORKED COMPUTERS;PRINTER;POCKET CALCULATOR;
   BLACK HARD SHELL FLOPPY DISK;WHITE 4;SOFT SHELL FLOPPY DISK;TAPE CARTRIDGE;WIRED KEYBOARD;
   ONE BUTTON MOUSE;TWO 2;THREE 2;TRACKBALL;OLD PERSONAL COMPUTER;HARD DISK;SCREEN;PRINTER ICON;
   FAX 1;OPTICAL DISC ICON;DOCUMENT WITH TEXT;3 AND PICTURE;2 PICTURE;FRAME 2;2 TILES;2 AN X;
   BLACK FOLDER;FOLDER;OPEN FOLDER;CARD INDEX DIVIDERS;1 FILE BOX;FILE CABINET;EMPTY NOTE;2 PAGE;
   2 PAD;NOTE;1 PAGE;1 PAD;EMPTY DOCUMENT;1 PAGE;1 PAGES;DOCUMENT;PAGE;PAGES;WASTEBASKET;
   SPIRAL NOTE PAD;1 CALENDAR 1;DESKTOP WINDOW;MINIMIZE;MAXIMIZE;OVERLAP;
   CLOCKWISE RIGHT AND LEFT SEMICIRCLE ARROWS;CANCELLATION X;INCREASE FONT SIZE SYMBOL;DECREASE 3;
   COMPRESSION;OLD KEY;ROLLED-UP NEWSPAPER;PAGE WITH CIRCLED TEXT;STOCK CHART;DAGGER KNIFE;LIPS;
   SPEAKING HEAD IN SILHOUETTE;THREE RAYS ABOVE;2 BELOW;2 LEFT;2 RIGHT;LEFT SPEECH BUBBLE;RIGHT 2;
   TWO 1 BUBBLES;THREE 2;LEFT THOUGHT BUBBLE;RIGHT 2;LEFT ANGER 1;RIGHT 2;MOOD BUBBLE;
   LIGHTNING MOOD BUBBLE;2;BALLOT BOX WITH BALLOT;1 SCRIPT X;1 BOX WITH SCRIPT X;1 BOLD SCRIPT X;
   1 BOX WITH BOLD SCRIPT X;LIGHT CHECK MARK;BALLOT BOX WITH BOLD CHECK;WORLD MAP;MOUNT FUJI;
   TOKYO TOWER;STATUE OF LIBERTY;SILHOUETTE 1 JAPAN;MOYAI;GRINNING FACE;2 WITH SMILING EYES;
   FACE WITH TEARS OF JOY;SMILING FACE WITH OPEN MOUTH;5 AND SMILING EYES;6 COLD SWEAT;
   6 TIGHTLY-CLOSED EYES;3 HALO;3 HORNS;WINKING 1;SMILING 1 WITH SMILING EYES;
   FACE SAVOURING DELICIOUS FOOD;RELIEVED FACE;SMILING 1 WITH HEART-SHAPED EYES;3 SUNGLASSES;
   SMIRKING 1;NEUTRAL 1;EXPRESSIONLESS 1;UNAMUSED 1;FACE WITH COLD SWEAT;PENSIVE FACE;CONFUSED 1;
   CONFOUNDED 1;KISSING 1;FACE THROWING A KISS;KISSING FACE WITH SMILING EYES;3 CLOSED 1;
   FACE WITH STUCK-OUT TONGUE;4 AND WINKING EYE;5 TIGHTLY-CLOSED EYES;DISAPPOINTED FACE;WORRIED 1;
   ANGRY 1;POUTING 1;CRYING 1;PERSEVERING 1;FACE WITH LOOK OF TRIUMPH;
   DISAPPOINTED BUT RELIEVED FACE;FROWNING FACE WITH OPEN MOUTH;ANGUISHED 1;FEARFUL 1;WEARY 1;
   SLEEPY 1;TIRED 1;GRIMACING 1;LOUDLY CRYING FACE;FACE WITH OPEN MOUTH;HUSHED FACE;
   FACE WITH OPEN MOUTH AND COLD SWEAT;1 SCREAMING IN FEAR;ASTONISHED FACE;FLUSHED 1;SLEEPING 1;
   DIZZY 1;FACE WITHOUT MOUTH;1 WITH MEDICAL MASK;GRINNING CAT FACE WITH SMILING EYES;
   CAT FACE WITH TEARS OF JOY;SMILING CAT FACE WITH OPEN MOUTH;4 HEART-SHAPED EYES;
   CAT FACE WITH WRY SMILE;KISSING CAT FACE WITH CLOSED EYES;POUTING 2;CRYING 2;WEARY 2;
   SLIGHTLY FROWNING 1;1 SMILING 1;UPSIDE-DOWN FACE;FACE WITH ROLLING EYES;2 NO GOOD GESTURE;
   2 OK GESTURE;PERSON BOWING DEEPLY;SEE-NO-EVIL MONKEY;HEAR-NO-EVIL 1;SPEAK-NO-EVIL 1;
   HAPPY PERSON RAISING ONE HAND;PERSON RAISING BOTH HANDS IN CELEBRATION;1 FROWNING;
   1 WITH POUTING FACE;2 FOLDED HANDS;NORTH WEST POINTING LEAF;SOUTH 3;NORTH EAST 2;SOUTH 3;
   TURNED NORTH WEST POINTING LEAF;1 SOUTH 3;1 NORTH EAST 2;1 SOUTH 3;NORTH WEST POINTING VINE 1;
   SOUTH 4;NORTH EAST 3;SOUTH 4;HEAVY NORTH WEST POINTING VINE LEAF;1 SOUTH 4;1 NORTH EAST 3;
   1 SOUTH 4;NORTH WEST POINTING BUD;SOUTH 3;NORTH EAST 2;SOUTH 3;HEAVY NORTH WEST POINTING BUD;
   1 SOUTH 3;1 NORTH EAST 2;1 SOUTH 3;HOLLOW QUILT SQUARE ORNAMENT;4 IN BLACK SQUARE;SOLID 3;
   4 IN BLACK SQUARE;LEFTWARDS ROCKET;UPWARDS 1;RIGHTWARDS 1;DOWNWARDS 1;
   SCRIPT LIGATURE ET ORNAMENT;HEAVY SCRIPT LIGATURE ET ORNAMENT;LIGATURE OPEN ET ORNAMENT;
   HEAVY LIGATURE OPEN ET ORNAMENT;1 AMPERSAND ORNAMENT;SWASH 2;
   SANS-SERIF HEAVY DOUBLE TURNED COMMA QUOTATION MARK ORNAMENT;3 COMMA QUOTATION MARK ORNAMENT;
   2 LOW DOUBLE COMMA QUOTATION MARK ORNAMENT;HEAVY INTERROBANG ORNAMENT;SANS-SERIF 2;
   HEAVY SANS-SERIF INTERROBANG ORNAMENT;VERY HEAVY SOLIDUS;2 REVERSE SOLIDUS;CHECKER BOARD;
   REVERSE CHECKER BOARD;ROCKET;HELICOPTER;STEAM LOCOMOTIVE;RAILWAY CAR;HIGH-SPEED TRAIN;
   2 WITH BULLET NOSE;TRAIN;METRO;LIGHT RAIL;STATION;TRAM;1 CAR;BUS;ONCOMING BUS;TROLLEYBUS;
   BUS STOP;MINIBUS;AMBULANCE;FIRE ENGINE;POLICE CAR;ONCOMING POLICE CAR;TAXI;ONCOMING TAXI;
   AUTOMOBILE;ONCOMING AUTOMOBILE;RECREATIONAL VEHICLE;DELIVERY TRUCK;ARTICULATED LORRY;TRACTOR;
   MONORAIL;MOUNTAIN RAILWAY;SUSPENSION 1;MOUNTAIN CABLEWAY;AERIAL TRAMWAY;SHIP;ROWBOAT;SPEEDBOAT;
   HORIZONTAL TRAFFIC LIGHT;VERTICAL 2;CONSTRUCTION SIGN;POLICE CARS REVOLVING LIGHT;
   TRIANGULAR FLAG ON POST;DOOR;NO ENTRY SIGN;SMOKING SYMBOL;NO SMOKING SYMBOL;
   PUT LITTER IN ITS PLACE SYMBOL;DO NOT LITTER SYMBOL;POTABLE WATER SYMBOL;NON-POTABLE 2;BICYCLE;
   NO BICYCLES;BICYCLIST;MOUNTAIN BICYCLIST;PEDESTRIAN;NO PEDESTRIANS;CHILDREN CROSSING;MENS SYMBOL;
   WOMENS 1;RESTROOM;BABY SYMBOL;TOILET;WATER CLOSET;SHOWER;BATH;BATHTUB;PASSPORT CONTROL;CUSTOMS;
   BAGGAGE CLAIM;LEFT LUGGAGE;TRIANGLE WITH ROUNDED CORNERS;PROHIBITED SIGN;
   CIRCLED INFORMATION SOURCE;BOYS SYMBOL;GIRLS 1;COUCH AND LAMP;SLEEPING ACCOMMODATION;
   SHOPPING BAGS;BELLHOP BELL;BED;PLACE OF WORSHIP;OCTAGONAL SIGN;SHOPPING TROLLEY;STUPA;PAGODA;
   HINDU TEMPLE;HUT;ELEVATOR;U+1F6DD;PLAYGROUND SLIDE;WHEEL;RING BUOY;HAMMER AND WRENCH;SHIELD;
   OIL DRUM;MOTORWAY;RAILWAY TRACK;MOTOR BOAT;UP-POINTING MILITARY AIRPLANE;1 AIRPLANE;
   1 SMALL AIRPLANE;SMALL AIRPLANE;NORTHEAST-POINTING 1;AIRPLANE DEPARTURE;1 ARRIVING;U+1F6F0;
   SATELLITE;ONCOMING FIRE ENGINE;DIESEL LOCOMOTIVE;PASSENGER SHIP;SCOOTER;MOTOR SCOOTER;CANOE;SLED;
   FLYING SAUCER;SKATEBOARD;AUTO RICKSHAW;PICKUP TRUCK;ROLLER SKATE;U+1F700;
   ALCHEMICAL SYMBOL FOR QUINTESSENCE;3 AIR;3 FIRE;3 EARTH;3 WATER;3 AQUAFORTIS;3 AQUA REGIA;
   4 REGIA-2;4 VITAE;4 VITAE-2;3 VINEGAR;3 VINEGAR-2;+1;3 SULFUR;3 PHILOSOPHERS SULFUR;3 BLACK 1;
   3 MERCURY SUBLIMATE;4 SUBLIMATE-2;+1;3 CINNABAR;3 SALT;3 NITRE;3 VITRIOL;3 VITRIOL-2;3 ROCK SALT;
   4 SALT-2;3 GOLD;3 SILVER;3 IRON ORE;4 ORE-2;3 CROCUS OF IRON;3 REGULUS 2;3 COPPER ORE;
   3 IRON-COPPER 1;3 SUBLIMATE OF COPPER;3 CROCUS 2;5 COPPER-2;3 COPPER ANTIMONIATE;
   3 SALT OF COPPER ANTIMONIATE;3 SUBLIMATE 1 SALT OF COPPER;3 VERDIGRIS;3 TIN ORE;3 LEAD 1;
   3 ANTIMONY 1;3 SUBLIMATE OF ANTIMONY;3 SALT 2;3 SUBLIMATE 1 SALT OF ANTIMONY;
   3 VINEGAR 1 ANTIMONY;3 REGULUS 2;5 ANTIMONY-2;4;3 REGULUS-2;+2;3 ALKALI;3 ALKALI-2;3 MARCASITE;
   3 SAL-AMMONIAC;3 ARSENIC;3 REALGAR;3 REALGAR-2;3 AURIPIGMENT;3 BISMUTH ORE;3 TARTAR;3 TARTAR-2;
   3 QUICK LIME;3 BORAX;3 BORAX-2;+1;3 ALUM;3 OIL;3 SPIRIT;3 TINCTURE;3 GUM;3 WAX;3 POWDER;3 CALX;
   3 TUTTY;3 CAPUT MORTUUM;3 SCEPTER OF JOVE;3 CADUCEUS;3 TRIDENT;3 STARRED TRIDENT;3 LODESTONE;
   3 SOAP;3 URINE;3 HORSE DUNG;3 ASHES;3 POT ASHES;3 BRICK;3 POWDERED BRICK;3 AMALGAM;
   3 STRATUM SUPER STRATUM;5 STRATUM-2;3 SUBLIMATION;3 PRECIPITATE;3 DISTILL;3 DISSOLVE;
   3 DISSOLVE-2;3 PURIFY;3 PUTREFACTION;3 CRUCIBLE;3 CRUCIBLE-2;+3;3 ALEMBIC;3 BATH OF MARY;
   5 VAPOURS;3 RETORT;3 HOUR;3 NIGHT;3 DAY-NIGHT;3 MONTH;3 HALF DRAM;4 OUNCE;U+1F780;
   BLACK LEFT-POINTING ISOSCELES RIGHT TRIANGLE;1 UP-POINTING 3;1 RIGHT-POINTING 3;
   1 DOWN-POINTING 3;1 SLIGHTLY SMALL CIRCLE;MEDIUM BOLD WHITE 1;BOLD WHITE CIRCLE;HEAVY 2;
   VERY HEAVY WHITE CIRCLE;EXTREMELY 3;WHITE CIRCLE CONTAINING BLACK SMALL CIRCLE;ROUND TARGET;
   BLACK TINY SQUARE;1 SLIGHTLY SMALL SQUARE;LIGHT WHITE SQUARE;MEDIUM 2;BOLD 2;HEAVY 2;
   VERY HEAVY WHITE SQUARE;EXTREMELY 3;WHITE SQUARE CONTAINING BLACK VERY SMALL SQUARE;
   4 MEDIUM SQUARE;SQUARE TARGET;BLACK TINY DIAMOND;1 VERY SMALL DIAMOND;1 MEDIUM 2;
   WHITE DIAMOND CONTAINING BLACK VERY SMALL DIAMOND;4 MEDIUM DIAMOND;DIAMOND TARGET;
   BLACK TINY LOZENGE;1 VERY SMALL LOZENGE;1 MEDIUM 2;WHITE LOZENGE CONTAINING BLACK SMALL LOZENGE;
   THIN GREEK CROSS;LIGHT 2;MEDIUM 2;BOLD 2;VERY BOLD GREEK CROSS;1 HEAVY 2;EXTREMELY 3;
   THIN SALTIRE;LIGHT 1;MEDIUM 1;BOLD 1;HEAVY 1;VERY HEAVY SALTIRE;EXTREMELY 2;
   LIGHT FIVE SPOKED ASTERISK;MEDIUM 3;BOLD 3;HEAVY 3;VERY HEAVY FIVE SPOKED ASTERISK;EXTREMELY 4;
   LIGHT SIX SPOKED ASTERISK;MEDIUM 3;BOLD 3;HEAVY 3;VERY HEAVY SIX SPOKED ASTERISK;EXTREMELY 4;
   LIGHT EIGHT SPOKED ASTERISK;MEDIUM 3;BOLD 3;HEAVY 3;VERY HEAVY EIGHT SPOKED ASTERISK;
   LIGHT THREE POINTED BLACK STAR;MEDIUM 4;THREE POINTED BLACK STAR;
   MEDIUM THREE POINTED PINWHEEL STAR;LIGHT FOUR 1 BLACK 1;MEDIUM 4;FOUR POINTED BLACK STAR;
   MEDIUM FOUR POINTED PINWHEEL STAR;REVERSE LIGHT FOUR POINTED PINWHEEL STAR;
   LIGHT FIVE POINTED BLACK STAR;HEAVY 4;MEDIUM SIX 3;HEAVY 4;SIX POINTED PINWHEEL STAR;
   MEDIUM EIGHT POINTED BLACK STAR;HEAVY 4;VERY HEAVY EIGHT POINTED BLACK STAR;
   HEAVY EIGHT POINTED PINWHEEL STAR;LIGHT TWELVE 1 BLACK 1;HEAVY 4;3 PINWHEEL 1;CIRCLED TRIANGLE;
   NEGATIVE CIRCLED TRIANGLE;CIRCLED SQUARE;NEGATIVE CIRCLED SQUARE;U+1F7E0;LARGE ORANGE CIRCLE;
   1 YELLOW 1;1 GREEN 1;1 PURPLE 1;1 BROWN 1;1 RED SQUARE;1 BLUE 1;1 ORANGE 1;1 YELLOW 1;1 GREEN 1;
   1 PURPLE 1;1 BROWN 1;U+1F7F0;HEAVY EQUALS SIGN;U+1F800;
   LEFTWARDS ARROW WITH SMALL TRIANGLE ARROWHEAD;UPWARDS 5;RIGHTWARDS 5;DOWNWARDS 5;
   LEFTWARDS 2 MEDIUM 2;UPWARDS 5;RIGHTWARDS 5;DOWNWARDS 5;LEFTWARDS 2 LARGE 2;UPWARDS 5;
   RIGHTWARDS 5;DOWNWARDS 5;U+1F810;LEFTWARDS 2 SMALL EQUILATERAL 1;UPWARDS 5;RIGHTWARDS 5;
   DOWNWARDS 5;LEFTWARDS 2 EQUILATERAL ARROWHEAD;UPWARDS 4;RIGHTWARDS 4;DOWNWARDS 4;
   HEAVY LEFTWARDS ARROW WITH EQUILATERAL ARROWHEAD;1 UPWARDS 4;1 RIGHTWARDS 4;1 DOWNWARDS 4;
   1 LEFTWARDS 2 LARGE EQUILATERAL ARROWHEAD;1 UPWARDS 5;1 RIGHTWARDS 5;1 DOWNWARDS 5;
   LEFTWARDS TRIANGLE-HEADED 2 NARROW SHAFT;UPWARDS 5;RIGHTWARDS 5;DOWNWARDS 5;LEFTWARDS 3 MEDIUM 1;
   UPWARDS 5;RIGHTWARDS 5;DOWNWARDS 5;LEFTWARDS 3 BOLD 1;UPWARDS 5;RIGHTWARDS 5;DOWNWARDS 5;
   LEFTWARDS 3 HEAVY 1;UPWARDS 5;RIGHTWARDS 5;DOWNWARDS 5;LEFTWARDS 3 VERY HEAVY SHAFT;UPWARDS 6;
   RIGHTWARDS 6;DOWNWARDS 6;LEFTWARDS FINGER-POST 1;UPWARDS 2;RIGHTWARDS 2;DOWNWARDS 2;
   LEFTWARDS SQUARED 1;UPWARDS 2;RIGHTWARDS 2;DOWNWARDS 2;LEFTWARDS COMPRESSED 1;UPWARDS 2;
   RIGHTWARDS 2;DOWNWARDS 2;LEFTWARDS HEAVY COMPRESSED ARROW;UPWARDS 3;RIGHTWARDS 3;DOWNWARDS 3;
   LEFTWARDS 1 ARROW;UPWARDS 2;RIGHTWARDS 2;DOWNWARDS 2;U+1F850;LEFTWARDS SANS-SERIF 1;UPWARDS 2;
   RIGHTWARDS 2;DOWNWARDS 2;NORTH WEST SANS-SERIF ARROW;1 EAST 2;SOUTH 3;1 WEST 2;LEFT RIGHT 2;
   UP DOWN 2;U+1F860;WIDE-HEADED LEFTWARDS LIGHT BARB ARROW;1 UPWARDS 3;1 RIGHTWARDS 3;
   1 DOWNWARDS 3;1 NORTH WEST LIGHT BARB ARROW;2 EAST 3;1 SOUTH 4;2 WEST 3;1 LEFTWARDS BARB ARROW;
   1 UPWARDS 2;1 RIGHTWARDS 2;1 DOWNWARDS 2;1 NORTH WEST BARB ARROW;2 EAST 2;1 SOUTH 3;2 WEST 2;
   1 LEFTWARDS MEDIUM 2;1 UPWARDS 3;1 RIGHTWARDS 3;1 DOWNWARDS 3;1 NORTH WEST MEDIUM BARB ARROW;
   2 EAST 3;1 SOUTH 4;2 WEST 3;1 LEFTWARDS HEAVY BARB ARROW;1 UPWARDS 3;1 RIGHTWARDS 3;
   1 DOWNWARDS 3;1 NORTH WEST HEAVY BARB ARROW;2 EAST 3;1 SOUTH 4;2 WEST 3;1 LEFTWARDS VERY 3;
   1 UPWARDS 4;1 RIGHTWARDS 4;1 DOWNWARDS 4;1 NORTH WEST VERY HEAVY BARB ARROW;2 EAST 4;1 SOUTH 5;
   2 WEST 4;U+1F890;LEFTWARDS TRIANGLE ARROWHEAD;UPWARDS 2;RIGHTWARDS 2;DOWNWARDS 2;
   LEFTWARDS WHITE ARROW WITHIN TRIANGLE ARROWHEAD;UPWARDS 5;RIGHTWARDS 5;DOWNWARDS 5;
   LEFTWARDS ARROW WITH NOTCHED TAIL;UPWARDS 4;RIGHTWARDS 4;DOWNWARDS 4;HEAVY 1 SHAFT WIDTH ONE;
   4 TWO THIRDS;4 ONE HALF;5 THIRD;LEFTWARDS BOTTOM-SHADED WHITE ARROW;
   RIGHTWARDS BOTTOM SHADED WHITE ARROW;LEFTWARDS TOP 3;RIGHTWARDS 4;
   LEFTWARDS LEFT-SHADED WHITE ARROW;RIGHTWARDS RIGHT-SHADED 2;LEFTWARDS 3;RIGHTWARDS LEFT-SHADED 2;
   LEFTWARDS BACK-TILTED SHADOWED WHITE ARROW;RIGHTWARDS 4;LEFTWARDS FRONT-TILTED 3;RIGHTWARDS 4;
   WHITE ARROW SHAFT WIDTH ONE;4 TWO THIRDS;U+1F8B0;ARROW POINTING UPWARDS THEN NORTH WEST;
   2 RIGHTWARDS 1 CURVING SOUTH WEST;U+1F900;CIRCLED CROSS FORMEE WITH FOUR DOTS;4 TWO 1;3;
   LEFT HALF CIRCLE WITH FOUR DOTS;4 THREE 1;4 TWO 1;4 DOT;3;DOWNWARD FACING HOOK;2 NOTCHED HOOK;
   2 HOOK WITH DOT;2 NOTCHED HOOK WITH DOT;PINCHED FINGERS;WHITE HEART;BROWN 1;PINCHING HAND;
   ZIPPER-MOUTH FACE;MONEY-MOUTH 1;FACE WITH THERMOMETER;NERD FACE;THINKING 1;
   FACE WITH HEAD-BANDAGE;ROBOT FACE;HUGGING 1;SIGN OF THE HORNS;CALL ME HAND;RAISED BACK OF HAND;
   LEFT-FACING FIST;RIGHT-FACING 1;HANDSHAKE;HAND WITH INDEX AND MIDDLE FINGERS CROSSED;
   I LOVE YOU HAND SIGN;FACE WITH COWBOY HAT;CLOWN FACE;NAUSEATED 1;ROLLING ON THE FLOOR LAUGHING;
   DROOLING FACE;LYING 1;FACE PALM;SNEEZING FACE;FACE WITH ONE EYEBROW RAISED;
   GRINNING FACE WITH STAR EYES;3 ONE LARGE AND ONE SMALL EYE;FACE WITH FINGER COVERING CLOSED LIPS;
   SERIOUS FACE WITH SYMBOLS COVERING MOUTH;SMILING 2 SMILING EYES AND HAND COVERING MOUTH;
   FACE WITH OPEN MOUTH VOMITING;SHOCKED FACE WITH EXPLODING HEAD;PREGNANT WOMAN;BREAST-FEEDING;
   PALMS UP TOGETHER;SELFIE;PRINCE;MAN IN TUXEDO;MOTHER CHRISTMAS;SHRUG;PERSON DOING CARTWHEEL;
   JUGGLING;FENCER;MODERN PENTATHLON;WRESTLERS;WATER POLO;HANDBALL;DIVING MASK;WILTED FLOWER;
   DRUM WITH DRUMSTICKS;CLINKING GLASSES;TUMBLER GLASS;SPOON;GOAL NET;RIFLE;FIRST PLACE MEDAL;
   SECOND 2;THIRD 2;BOXING GLOVE;MARTIAL ARTS UNIFORM;CURLING STONE;LACROSSE STICK AND BALL;
   SOFTBALL;FLYING DISC;CROISSANT;AVOCADO;CUCUMBER;BACON;POTATO;CARROT;BAGUETTE BREAD;GREEN SALAD;
   SHALLOW PAN OF FOOD;STUFFED FLATBREAD;EGG;GLASS OF MILK;PEANUTS;KIWIFRUIT;PANCAKES;DUMPLING;
   FORTUNE COOKIE;TAKEOUT BOX;CHOPSTICKS;BOWL WITH SPOON;CUP 1 STRAW;COCONUT;BROCCOLI;PIE;PRETZEL;
   CUT OF MEAT;SANDWICH;CANNED FOOD;LEAFY GREEN;MANGO;MOON CAKE;BAGEL;
   SMILING FACE WITH SMILING EYES AND THREE HEARTS;YAWNING 1;SMILING 1 WITH TEAR;
   FACE WITH PARTY HORN AND PARTY HAT;2 UNEVEN EYES 1 WAVY MOUTH;OVERHEATED FACE;FREEZING 1;NINJA;
   DISGUISED FACE;FACE HOLDING BACK TEARS;1 WITH PLEADING EYES;SARI;LAB COAT;GOGGLES;HIKING BOOT;
   FLAT SHOE;CRAB;LION FACE;SCORPION;TURKEY;UNICORN FACE;EAGLE;DUCK;BAT;SHARK;OWL;FOX FACE;
   BUTTERFLY;DEER;GORILLA;LIZARD;RHINOCEROS;SHRIMP;SQUID;GIRAFFE FACE;ZEBRA 1;HEDGEHOG;SAUROPOD;
   T-REX;CRICKET;KANGAROO;LLAMA;PEACOCK;HIPPOPOTAMUS;PARROT;RACCOON;LOBSTER;MOSQUITO;MICROBE;BADGER;
   SWAN;MAMMOTH;DODO;SLOTH;OTTER;ORANGUTAN;SKUNK;FLAMINGO;OYSTER;BEAVER;BISON;SEAL;GUIDE DOG;
   PROBING CANE;EMOJI COMPONENT RED HAIR;2 CURLY 1;2 BALD;2 WHITE HAIR;BONE;LEG;FOOT;TOOTH;
   SUPERHERO;SUPERVILLAIN;SAFETY VEST;EAR WITH HEARING AID;MOTORIZED WHEELCHAIR;MANUAL 1;
   MECHANICAL ARM;1 LEG;CHEESE WEDGE;CUPCAKE;SALT SHAKER;BEVERAGE BOX;GARLIC;ONION;FALAFEL;WAFFLE;
   BUTTER;MATE DRINK;ICE CUBE;BUBBLE TEA;TROLL;STANDING PERSON;KNEELING 1;DEAF 1;FACE WITH MONOCLE;
   ADULT;CHILD;OLDER ADULT;BEARDED PERSON;PERSON WITH HEADSCARF;1 IN STEAMY ROOM;1 CLIMBING;
   1 IN LOTUS POSITION;MAGE;FAIRY;VAMPIRE;MERPERSON;ELF;GENIE;ZOMBIE;BRAIN;ORANGE HEART;BILLED CAP;
   SCARF;GLOVES;COAT;SOCKS;RED GIFT ENVELOPE;FIRECRACKER;JIGSAW PUZZLE PIECE;TEST TUBE;PETRI DISH;
   DNA DOUBLE HELIX;COMPASS;ABACUS;FIRE EXTINGUISHER;TOOLBOX;BRICK;MAGNET;LUGGAGE;LOTION BOTTLE;
   SPOOL OF THREAD;BALL 1 YARN;SAFETY PIN;TEDDY BEAR;BROOM;BASKET;ROLL OF PAPER;BAR 1 SOAP;SPONGE;
   RECEIPT;NAZAR AMULET;NEUTRAL CHESS KING;2 QUEEN;2 ROOK;2 BISHOP;2 KNIGHT;2 PAWN;
   WHITE 1 KNIGHT ROTATED FORTY-FIVE DEGREES;BLACK 5;NEUTRAL 5;WHITE 1 KING 1 NINETY 1;2 QUEEN 3;
   2 ROOK 3;2 BISHOP 3;2 KNIGHT 3;2 PAWN 3;BLACK 1 KING 3;2 QUEEN 3;2 ROOK 3;2 BISHOP 3;2 KNIGHT 3;
   2 PAWN 3;NEUTRAL 1 KING 3;2 QUEEN 3;2 ROOK 3;2 BISHOP 3;2 KNIGHT 3;2 PAWN 3;
   WHITE 1 KNIGHT 1 ONE HUNDRED THIRTY-FIVE DEGREES;BLACK 7;NEUTRAL 7;WHITE 1 TURNED KING;3 QUEEN;
   3 ROOK;3 BISHOP;3 KNIGHT;3 PAWN;BLACK 2 KING;3 QUEEN;3 ROOK;3 BISHOP;3 KNIGHT;3 PAWN;
   NEUTRAL 2 KING;3 QUEEN;3 ROOK;3 BISHOP;3 KNIGHT;3 PAWN;
   WHITE 1 KNIGHT ROTATED TWO HUNDRED TWENTY-FIVE DEGREES;BLACK 7;NEUTRAL 7;
   WHITE 1 KING 3 SEVENTY 1;2 QUEEN 5;2 ROOK 5;2 BISHOP 5;2 KNIGHT 5;2 PAWN 5;BLACK 1 KING 5;
   2 QUEEN 5;2 ROOK 5;2 BISHOP 5;2 KNIGHT 5;2 PAWN 5;NEUTRAL 1 KING 5;2 QUEEN 5;2 ROOK 5;2 BISHOP 5;
   2 KNIGHT 5;2 PAWN 5;WHITE 1 KNIGHT 1 THREE 1 FIFTEEN 1;BLACK 7;NEUTRAL 7;WHITE 1 EQUIHOPPER;
   BLACK 2;NEUTRAL 2;WHITE 2 ROTATED NINETY DEGREES;BLACK 5;NEUTRAL 5;WHITE 1 KNIGHT-QUEEN;
   2 KNIGHT-ROOK;2 KNIGHT-BISHOP;BLACK 1 KNIGHT-QUEEN;2 KNIGHT-ROOK;2 KNIGHT-BISHOP;U+1FA60;
   XIANGQI RED GENERAL;2 MANDARIN;2 ELEPHANT;2 HORSE;2 CHARIOT;2 CANNON;2 SOLDIER;1 BLACK GENERAL;
   2 MANDARIN;2 ELEPHANT;2 HORSE;2 CHARIOT;2 CANNON;2 SOLDIER;U+1FA70;BALLET SHOES;
   ONE-PIECE SWIMSUIT;BRIEFS;SHORTS;THONG SANDAL;U+1FA78;DROP OF BLOOD;ADHESIVE BANDAGE;STETHOSCOPE;
   X-RAY;CRUTCH;U+1FA80;YO-YO;KITE;PARACHUTE;BOOMERANG;MAGIC WAND;PINATA;NESTING DOLLS;U+1FA90;
   RINGED PLANET;CHAIR;RAZOR;AXE;DIYA LAMP;BANJO;MILITARY HELMET;ACCORDION;LONG DRUM;COIN;
   CARPENTRY SAW;SCREWDRIVER;LADDER;HOOK;MIRROR;WINDOW;PLUNGER;SEWING NEEDLE;KNOT;BUCKET;MOUSE TRAP;
   TOOTHBRUSH;HEADSTONE;PLACARD;ROCK;MIRROR BALL;IDENTIFICATION CARD;LOW BATTERY;HAMSA;U+1FAB0;FLY;
   WORM;BEETLE;COCKROACH;POTTED PLANT;WOOD;FEATHER;LOTUS;CORAL;EMPTY NEST;NEST WITH EGGS;U+1FAC0;
   ANATOMICAL HEART;LUNGS;PEOPLE HUGGING;PREGNANT MAN;1 PERSON;PERSON WITH CROWN;U+1FAD0;
   BLUEBERRIES;BELL PEPPER;OLIVE;FLATBREAD;TAMALE;FONDUE;TEAPOT;POURING LIQUID;BEANS;JAR;U+1FAE0;
   MELTING FACE;SALUTING 1;FACE WITH OPEN EYES AND HAND OVER MOUTH;2 PEEKING EYE;2 DIAGONAL MOUTH;
   DOTTED LINE FACE;BITING LIP;BUBBLES;U+1FAF0;HAND WITH INDEX FINGER AND THUMB CROSSED;
   RIGHTWARDS HAND;LEFTWARDS 1;PALM DOWN HAND;1 UP 1;INDEX POINTING AT THE VIEWER;HEART HANDS;
   U+1FB00;BLOCK SEXTANT-1;+1;1 SEXTANT-12;1 SEXTANT-3;1 SEXTANT-13;1 SEXTANT-23;1 SEXTANT-123;
   1 SEXTANT-4;1 SEXTANT-14;1 SEXTANT-24;1 SEXTANT-124;1 SEXTANT-34;1 SEXTANT-134;1 SEXTANT-234;
   1 SEXTANT-1234;1 SEXTANT-5;1 SEXTANT-15;1 SEXTANT-25;1 SEXTANT-125;1 SEXTANT-35;1 SEXTANT-235;
   1 SEXTANT-1235;1 SEXTANT-45;1 SEXTANT-145;1 SEXTANT-245;1 SEXTANT-1245;1 SEXTANT-345;
   1 SEXTANT-1345;1 SEXTANT-2345;1 SEXTANT-12345;1 SEXTANT-6;1 SEXTANT-16;1 SEXTANT-26;
   1 SEXTANT-126;1 SEXTANT-36;1 SEXTANT-136;1 SEXTANT-236;1 SEXTANT-1236;1 SEXTANT-46;1 SEXTANT-146;
   1 SEXTANT-1246;1 SEXTANT-346;1 SEXTANT-1346;1 SEXTANT-2346;1 SEXTANT-12346;1 SEXTANT-56;
   1 SEXTANT-156;1 SEXTANT-256;1 SEXTANT-1256;1 SEXTANT-356;1 SEXTANT-1356;1 SEXTANT-2356;
   1 SEXTANT-12356;1 SEXTANT-456;1 SEXTANT-1456;1 SEXTANT-2456;1 SEXTANT-12456;1 SEXTANT-3456;
   1 SEXTANT-13456;1 SEXTANT-23456;LOWER LEFT BLOCK DIAGONAL LOWER MIDDLE LEFT TO LOWER CENTRE;
   9 RIGHT;4 UPPER 4 CENTRE;9 RIGHT;5 LEFT TO LOWER CENTRE;1 RIGHT 3 MIDDLE LEFT TO UPPER CENTRE;
   9 RIGHT;4 LOWER 4 CENTRE;9 RIGHT;5 LEFT TO UPPER CENTRE;5 MIDDLE LEFT TO UPPER MIDDLE RIGHT;
   5 CENTRE TO LOWER MIDDLE RIGHT;5 LEFT 4;5 CENTRE 1 UPPER 2;5 LEFT 4;5 CENTRE 2 RIGHT;
   1 LEFT 2 UPPER 3 MIDDLE RIGHT;5 LEFT 4;5 CENTRE 1 LOWER 2;5 LEFT 4;5 CENTRE 2 RIGHT;
   5 MIDDLE LEFT TO LOWER MIDDLE RIGHT;UPPER RIGHT 2 LOWER 4 CENTRE;9 RIGHT;4 UPPER 4 CENTRE;
   9 RIGHT;5 LEFT TO LOWER CENTRE;1 LEFT 3 MIDDLE LEFT TO UPPER CENTRE;9 RIGHT;4 LOWER 4 CENTRE;
   9 RIGHT;5 LEFT TO UPPER CENTRE;5 MIDDLE LEFT TO UPPER MIDDLE RIGHT;
   5 CENTRE TO LOWER MIDDLE RIGHT;5 LEFT 4;5 CENTRE 1 UPPER 2;5 LEFT 4;5 CENTRE 2 RIGHT;
   1 RIGHT 2 UPPER 3 MIDDLE RIGHT;5 LEFT 4;5 CENTRE 1 LOWER 2;5 LEFT 4;5 CENTRE 2 RIGHT;
   5 MIDDLE LEFT TO LOWER MIDDLE RIGHT;1 AND RIGHT AND LOWER TRIANGULAR THREE QUARTERS BLOCK;
   LEFT 1 LOWER 1 RIGHT 4;UPPER 1 LEFT 1 LOWER 4;LEFT 1 UPPER 1 RIGHT 4;
   1 TRIANGULAR ONE QUARTER BLOCK;UPPER 4;RIGHT 4;LOWER 4;VERTICAL ONE EIGHTH BLOCK-2;+5;
   HORIZONTAL 2 BLOCK-2;+5;LEFT AND LOWER ONE EIGHTH BLOCK;2 UPPER 3;RIGHT 5;2 LOWER 3;UPPER 5;
   HORIZONTAL ONE EIGHTH BLOCK-1358;UPPER 1 QUARTER BLOCK;1 THREE EIGHTHS 1;1 FIVE 2;
   1 THREE QUARTERS 1;1 SEVEN EIGHTHS 1;RIGHT ONE QUARTER 1;1 THREE EIGHTHS 1;1 FIVE 2;
   1 THREE QUARTERS 1;1 SEVEN EIGHTHS 1;LEFT HALF MEDIUM SHADE;RIGHT 3;UPPER 3;LOWER 3;
   INVERSE MEDIUM SHADE;UPPER HALF BLOCK AND LOWER HALF INVERSE MEDIUM SHADE;
   2 INVERSE MEDIUM SHADE AND LOWER HALF BLOCK;U+1FB94;LEFT 5 RIGHT 2;CHECKER BOARD FILL;
   INVERSE CHECKER BOARD FILL;HEAVY HORIZONTAL FILL;UPPER LEFT TO LOWER RIGHT FILL;1 RIGHT 2 LEFT 1;
   1 AND LOWER TRIANGULAR HALF BLOCK;LEFT 1 RIGHT 3;UPPER LEFT TRIANGULAR MEDIUM SHADE;1 RIGHT 3;
   LOWER 4;1 LEFT 3;BOX DRAWINGS LIGHT DIAGONAL UPPER CENTRE TO MIDDLE LEFT;8 RIGHT;
   4 MIDDLE LEFT 1 LOWER CENTRE;5 RIGHT 3;4 UPPER CENTRE 1 MIDDLE LEFT TO LOWER CENTRE;8 RIGHT 3;
   4 MIDDLE LEFT 1 LOWER CENTRE 1 MIDDLE RIGHT;7 UPPER 4;
   4 UPPER CENTRE 1 MIDDLE LEFT AND 2 TO LOWER CENTRE;8 RIGHT 2 LEFT 3;
   9 TO LOWER CENTRE 1 MIDDLE LEFT;8 LEFT 5 RIGHT;
   4 MIDDLE LEFT 1 UPPER CENTRE 1 MIDDLE RIGHT 1 LOWER CENTRE;5 RIGHT 5 LEFT 3;4 DIAMOND;
   3 HORIZONTAL WITH VERTICAL STROKE;ARROWHEAD-SHAPED POINTER;INVERSE CHECK MARK;
   LEFT HALF RUNNING MAN;RIGHT 3;INVERSE DOWNWARDS ARROW WITH TIP LEFTWARDS;
   LEFTWARDS ARROW AND UPPER AND LOWER ONE EIGHTH BLOCK;RIGHTWARDS 8;
   DOWNWARDS 2 RIGHT ONE EIGHTH BLOCK;UPWARDS 6;LEFT HALF FOLDER;RIGHT 2;VOIDED GREEK CROSS;
   RIGHT OPEN SQUARED DOT;NEGATIVE DIAGONAL CROSS;2 MIDDLE RIGHT TO LOWER CENTRE;2 DIAMOND;
   WHITE HEAVY SALTIRE WITH ROUNDED CORNERS;LEFT THIRD WHITE RIGHT POINTING INDEX;MIDDLE 5;RIGHT 5;
   NEGATIVE SQUARED QUESTION MARK;STICK FIGURE;2 WITH ARMS RAISED;2 LEANING LEFT;3 RIGHT;
   2 WITH DRESS;WHITE UP-POINTING CHEVRON;U+1FBF0;SEGMENTED DIGIT ZERO;2 ONE;2 TWO;2 THREE;2 FOUR;
   2 FIVE;2 SIX;2 SEVEN;2 EIGHT;2 NINE;U+E0001;LANGUAGE TAG;U+E0020;TAG SPACE;1 EXCLAMATION MARK;
   1 QUOTATION 1;1 NUMBER SIGN;1 DOLLAR 1;1 PERCENT 1;1 AMPERSAND;1 APOSTROPHE;1 LEFT PARENTHESIS;
   1 RIGHT 1;1 ASTERISK;1 PLUS SIGN;1 COMMA;1 HYPHEN-MINUS;1 FULL STOP;1 SOLIDUS;1 DIGIT ZERO;2 ONE;
   2 TWO;2 THREE;2 FOUR;2 FIVE;2 SIX;2 SEVEN;2 EIGHT;2 NINE;1 COLON;1 SEMICOLON;1 LESS-THAN SIGN;
   1 EQUALS 1;1 GREATER-THAN 1;1 QUESTION MARK;1 COMMERCIAL AT;1 LATIN CAPITAL LETTER A;4 B;4 C;4 D;
   4 E;4 F;4 G;4 H;4 I;4 J;4 K;4 L;4 M;4 N;4 O;4 P;4 Q;4 R;4 S;4 T;4 U;4 V;4 W;4 X;4 Y;4 Z;
   1 LEFT SQUARE BRACKET;1 REVERSE SOLIDUS;1 RIGHT SQUARE BRACKET;1 CIRCUMFLEX ACCENT;1 LOW LINE;
   1 GRAVE ACCENT;1 LATIN SMALL LETTER A;4 B;4 C;4 D;4 E;4 F;4 G;4 H;4 I;4 J;4 K;4 L;4 M;4 N;4 O;
   4 P;4 Q;4 R;4 S;4 T;4 U;4 V;4 W;4 X;4 Y;4 Z;1 LEFT CURLY BRACKET;1 VERTICAL LINE;
   1 RIGHT CURLY BRACKET;1 TILDE;CANCEL TAG;U+E0100;VARIATION SELECTOR-17;+239"

end ApiShell.Template.CharacterName
