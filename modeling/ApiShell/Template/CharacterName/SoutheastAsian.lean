/-! Names of Thai, Lao, Tibetan, Burmese and Georgian, and of the letters of Korean syllables, as a
listing. -/

namespace ApiShell.Template.CharacterName

/-- Thai to the letters of Korean. -/
def southeastAsian : String :=
  "U+0E01;THAI CHARACTER KO KAI;2 KHO KHAI;3 KHUAT;3 KHWAI;3 KHON;3 RAKHANG;2 NGO NGU;2 CHO CHAN;
   3 CHING;3 CHANG;2 SO SO;2 CHO CHOE;2 YO YING;2 DO CHADA;2 TO PATAK;2 THO THAN;3 NANGMONTHO;
   3 PHUTHAO;2 NO NEN;2 DO DEK;2 TO TAO;2 THO THUNG;3 THAHAN;3 THONG;2 NO NU;2 BO BAIMAI;2 PO PLA;
   2 PHO PHUNG;2 FO FA;2 PHO PHAN;2 FO FAN;2 PHO SAMPHAO;2 MO MA;2 YO YAK;2 RO RUA;2 RU;2 LO LING;
   2 LU;2 WO WAEN;2 SO SALA;3 RUSI;3 SUA;2 HO HIP;2 LO CHULA;2 O ANG;2 HO NOKHUK;2 PAIYANNOI;
   2 SARA A;2 MAI HAN-AKAT;2 SARA AA;3 AM;3 I;3 II;3 UE;3 UEE;3 U;3 UU;2 PHINTHU;U+0E3F;
   1 CURRENCY SYMBOL BAHT;1 CHARACTER SARA E;3 AE;3 O;3 AI MAIMUAN;4 MAIMALAI;2 LAKKHANGYAO;
   2 MAIYAMOK;2 MAITAIKHU;2 MAI EK;3 THO;3 TRI;3 CHATTAWA;2 THANTHAKHAT;2 NIKHAHIT;2 YAMAKKAN;
   2 FONGMAN;1 DIGIT ZERO;2 ONE;2 TWO;2 THREE;2 FOUR;2 FIVE;2 SIX;2 SEVEN;2 EIGHT;2 NINE;
   1 CHARACTER ANGKHANKHU;2 KHOMUT;U+0E81;LAO LETTER KO;2 KHO SUNG;U+0E84;3 TAM;U+0E86;2 PALI GHA;
   2 NGO;2 CO;2 PALI CHA;2 SO TAM;U+0E8C;2 PALI JHA;2 NYO;2 PALI NYA;3 TTA;3 TTHA;3 DDA;3 DDHA;
   3 NNA;2 DO;2 TO;2 THO SUNG;3 TAM;2 PALI DHA;2 NO;2 BO;2 PO;2 PHO SUNG;2 FO TAM;2 PHO 1;2 FO SUNG;
   2 PALI BHA;2 MO;2 YO;2 LO LING;U+0EA5;3 LOOT;U+0EA7;2 WO;2 SANSKRIT SHA;3 SSA;2 SO SUNG;2 HO 1;
   2 PALI LLA;2 O;2 HO TAM;1 ELLIPSIS;1 VOWEL SIGN A;3 MAI KAN;3 AA;3 AM;3 I;3 II;3 Y;3 YY;3 U;3 UU;
   1 SIGN PALI VIRAMA;1 VOWEL SIGN MAI KON;1 SEMIVOWEL 1 LO;3 NYO;U+0EC0;1 VOWEL 1 E;3 EI;3 O;3 AY;
   3 AI;U+0EC6;1 KO LA;U+0EC8;1 TONE MAI EK;3 THO;3 TI;3 CATAWA;1 CANCELLATION MARK;1 NIGGAHITA;
   U+0ED0;1 DIGIT ZERO;2 ONE;2 TWO;2 THREE;2 FOUR;2 FIVE;2 SIX;2 SEVEN;2 EIGHT;2 NINE;U+0EDC;
   1 HO NO;2 MO;1 LETTER KHMU GO;3 NYO;U+0F00;TIBETAN SYLLABLE OM;1 MARK GTER YIG MGO TRUNCATED A;
   5 -UM RNAM BCAD MA;6 GTER TSHEG 1;2 INITIAL 2 MDUN MA;2 CLOSING 2 SGAB 1;2 CARET 2 PHUR SHAD MA;
   2 YIG MGO TSHEG SHAD MA;2 SBRUL SHAD;2 BSKUR YIG MGO;2 BKA- SHOG YIG MGO;2 INTERSYLLABIC TSHEG;
   2 DELIMITER 1 BSTAR;2 SHAD;2 NYIS SHAD;2 TSHEG 1;2 NYIS TSHEG SHAD;2 RIN CHEN SPUNGS SHAD;
   2 RGYA GRAM SHAD;2 CARET -DZUD RTAGS ME LONG CAN;2 GTER TSHEG;1 LOGOTYPE SIGN CHAD RTAGS;
   3 LHAG 1;1 ASTROLOGICAL 1 SGRA GCAN -CHAR RTAGS;3 -KHYUD PA;3 SDONG TSHUGS;1 SIGN RDEL DKAR GCIG;
   4 GNYIS;4 GSUM;3 NAG GCIG;4 GNYIS;3 DKAR RDEL NAG;1 DIGIT ZERO;2 ONE;2 TWO;2 THREE;2 FOUR;2 FIVE;
   2 SIX;2 SEVEN;2 EIGHT;2 NINE;2 HALF ONE;3 TWO;3 THREE;3 FOUR;3 FIVE;3 SIX;3 SEVEN;3 EIGHT;3 NINE;
   3 ZERO;1 MARK BSDUS RTAGS;2 NGAS BZUNG NYI ZLA;2 CARET -DZUD RTAGS BZHI MIG CAN;
   2 NGAS BZUNG SGOR RTAGS;2 CHE MGO;2 TSA -PHRU;2 GUG RTAGS GYON;4 GYAS;2 ANG KHANG GYON;4 GYAS;
   1 SIGN YAR TSHES;2 MAR 1;1 LETTER KA;2 KHA;2 GA;2 GHA;2 NGA;2 CA;2 CHA;2 JA;U+0F49;2 NYA;2 TTA;
   2 TTHA;2 DDA;2 DDHA;2 NNA;2 TA;2 THA;2 DA;2 DHA;2 NA;2 PA;2 PHA;2 BA;2 BHA;2 MA;2 TSA;2 TSHA;
   2 DZA;2 DZHA;2 WA;2 ZHA;2 ZA;2 -A;2 YA;2 RA;2 LA;2 SHA;2 SSA;2 SA;2 HA;2 A;2 KSSA;
   2 FIXED-FORM RA;2 KKA;2 RRA;U+0F71;1 VOWEL SIGN AA;3 I;3 II;3 U;3 UU;3 VOCALIC R;4 RR;4 L;4 LL;
   3 E;3 EE;3 O;3 OO;1 SIGN RJES SU NGA RO;2 RNAM BCAD;1 VOWEL SIGN REVERSED I;4 II;
   1 SIGN NYI ZLA NAA DA;2 SNA LDAN;1 MARK HALANTA;2 PALUTA;1 SIGN LCI RTAGS;2 YANG 1;2 LCE TSA CAN;
   2 MCHU CAN;2 GRU 1 RGYINGS;3 MED 1;2 INVERTED MCHU CAN;1 SUBJOINED SIGN LCE TSA CAN;3 MCHU CAN;
   3 INVERTED MCHU CAN;2 LETTER KA;3 KHA;3 GA;3 GHA;3 NGA;3 CA;3 CHA;3 JA;U+0F99;3 NYA;3 TTA;3 TTHA;
   3 DDA;3 DDHA;3 NNA;3 TA;3 THA;3 DA;3 DHA;3 NA;3 PA;3 PHA;3 BA;3 BHA;3 MA;3 TSA;3 TSHA;3 DZA;
   3 DZHA;3 WA;3 ZHA;3 ZA;3 -A;3 YA;3 RA;3 LA;3 SHA;3 SSA;3 SA;3 HA;3 A;3 KSSA;3 FIXED-FORM WA;4 YA;
   4 RA;U+0FBE;1 KU RU KHA;4 BZHI MIG CAN;1 CANTILLATION SIGN HEAVY BEAT;3 LIGHT 1;3 CANG TE-U;
   3 SBUB -CHAL;1 SYMBOL DRIL BU;2 RDO RJE;2 PADMA GDAN;2 RDO RJE RGYA GRAM;2 PHUR PA;2 NOR BU;
   4 NYIS -KHYIL;4 GSUM 1;4 BZHI 1;U+0FCE;1 SIGN RDEL NAG RDEL DKAR;4 GSUM;
   1 MARK BSKA- SHOG GI MGO RGYAN;2 MNYAM YIG 3;2 NYIS TSHEG;2 INITIAL BRDA RNYING YIG MGO MDUN MA;
   2 CLOSING 4 SGAB 1;RIGHT-FACING SVASTI SIGN;LEFT-FACING 2;RIGHT-FACING 2 WITH DOTS;LEFT-FACING 4;
   TIBETAN MARK LEADING MCHAN RTAGS;2 TRAILING 2;U+1000;MYANMAR LETTER KA;2 KHA;2 GA;2 GHA;2 NGA;
   2 CA;2 CHA;2 JA;2 JHA;2 NYA;2 NNYA;2 TTA;2 TTHA;2 DDA;2 DDHA;2 NNA;2 TA;2 THA;2 DA;2 DHA;2 NA;
   2 PA;2 PHA;2 BA;2 BHA;2 MA;2 YA;2 RA;2 LA;2 WA;2 SA;2 HA;2 LLA;2 A;2 SHAN A;2 I;2 II;2 U;2 UU;
   2 E;2 MON E;2 O;2 AU;1 VOWEL SIGN TALL AA;3 AA;3 I;3 II;3 U;3 UU;3 E;3 AI;3 MON II;4 O;3 E ABOVE;
   1 SIGN ANUSVARA;2 DOT BELOW;2 VISARGA;2 VIRAMA;2 ASAT;1 CONSONANT SIGN MEDIAL YA;4 RA;4 WA;4 HA;
   1 LETTER GREAT SA;1 DIGIT ZERO;2 ONE;2 TWO;2 THREE;2 FOUR;2 FIVE;2 SIX;2 SEVEN;2 EIGHT;2 NINE;
   1 SIGN LITTLE SECTION;2 SECTION;1 SYMBOL LOCATIVE;2 COMPLETED;2 AFOREMENTIONED;2 GENITIVE;
   1 LETTER SHA;2 SSA;2 VOCALIC R;3 RR;3 L;3 LL;1 VOWEL SIGN VOCALIC R;4 RR;4 L;4 LL;
   1 LETTER MON NGA;3 JHA;3 BBA;3 BBE;1 CONSONANT SIGN MON MEDIAL NA;5 MA;5 LA;
   1 LETTER SGAW KAREN SHA;1 VOWEL SIGN SGAW KAREN EU;1 TONE MARK 2 HATHI;5 KE PHO;
   1 LETTER WESTERN PWO 1 THA;5 PWA;1 VOWEL SIGN WESTERN PWO KAREN EU;6 UE;
   1 SIGN WESTERN PWO KAREN TONE-1;+4;1 LETTER EASTERN 2 NNA;5 YWA;5 GHWA;1 VOWEL SIGN GEBA 1 I;
   3 KAYAH OE;4 U;4 EE;1 LETTER SHAN KA;3 KHA;3 GA;3 CA;3 ZA;3 NYA;3 DA;3 NA;3 PHA;3 FA;3 BA;3 THA;
   3 HA;1 CONSONANT SIGN SHAN MEDIAL WA;1 VOWEL 2 AA;4 E;5 ABOVE;4 FINAL Y;1 SIGN SHAN TONE-2;+1;
   3 TONE-5;+1;3 COUNCIL TONE-2;+1;4 EMPHATIC TONE;1 LETTER RUMAI PALAUNG FA;1 SIGN 2 TONE-5;
   1 SHAN DIGIT ZERO;3 ONE;3 TWO;3 THREE;3 FOUR;3 FIVE;3 SIX;3 SEVEN;3 EIGHT;3 NINE;
   1 SIGN KHAMTI TONE-1;3 TONE-3;1 VOWEL SIGN AITON A;4 AI;1 SYMBOL SHAN ONE;3 EXCLAMATION;
   GEORGIAN CAPITAL LETTER AN;3 BAN;3 GAN;3 DON;3 EN;3 VIN;3 ZEN;3 TAN;3 IN;3 KAN;3 LAS;3 MAN;3 NAR;
   3 ON;3 PAR;3 ZHAR;3 RAE;3 SAN;3 TAR;3 UN;3 PHAR;3 KHAR;3 GHAN;3 QAR;3 SHIN;3 CHIN;3 CAN;3 JIL;
   3 CIL;3 CHAR;3 XAN;3 JHAN;3 HAE;3 HE;3 HIE;3 WE;3 HAR;3 HOE;U+10C7;3 YN;U+10CD;3 AEN;U+10D0;
   1 LETTER AN;2 BAN;2 GAN;2 DON;2 EN;2 VIN;2 ZEN;2 TAN;2 IN;2 KAN;2 LAS;2 MAN;2 NAR;2 ON;2 PAR;
   2 ZHAR;2 RAE;2 SAN;2 TAR;2 UN;2 PHAR;2 KHAR;2 GHAN;2 QAR;2 SHIN;2 CHIN;2 CAN;2 JIL;2 CIL;2 CHAR;
   2 XAN;2 JHAN;2 HAE;2 HE;2 HIE;2 WE;2 HAR;2 HOE;2 FI;2 YN;2 ELIFI;2 TURNED GAN;2 AIN;
   1 PARAGRAPH SEPARATOR;MODIFIER LETTER GEORGIAN NAR;GEORGIAN 1 AEN;2 HARD SIGN;2 LABIAL 1;
   HANGUL CHOSEONG KIYEOK;2 SSANGKIYEOK;2 NIEUN;2 TIKEUT;2 SSANGTIKEUT;2 RIEUL;2 MIEUM;2 PIEUP;
   2 SSANGPIEUP;2 SIOS;2 SSANGSIOS;2 IEUNG;2 CIEUC;2 SSANGCIEUC;2 CHIEUCH;2 KHIEUKH;2 THIEUTH;
   2 PHIEUPH;2 HIEUH;2 NIEUN-KIYEOK;2 SSANGNIEUN;2 NIEUN-TIKEUT;2 NIEUN-PIEUP;2 TIKEUT-KIYEOK;
   2 RIEUL-NIEUN;2 SSANGRIEUL;2 RIEUL-HIEUH;2 KAPYEOUNRIEUL;2 MIEUM-PIEUP;2 KAPYEOUNMIEUM;
   2 PIEUP-KIYEOK;2 PIEUP-NIEUN;2 PIEUP-TIKEUT;2 PIEUP-SIOS;2 PIEUP-SIOS-KIYEOK;2 PIEUP-SIOS-TIKEUT;
   2 PIEUP-SIOS-PIEUP;2 PIEUP-SSANGSIOS;2 PIEUP-SIOS-CIEUC;2 PIEUP-CIEUC;2 PIEUP-CHIEUCH;
   2 PIEUP-THIEUTH;2 PIEUP-PHIEUPH;2 KAPYEOUNPIEUP;2 KAPYEOUNSSANGPIEUP;2 SIOS-KIYEOK;2 SIOS-NIEUN;
   2 SIOS-TIKEUT;2 SIOS-RIEUL;2 SIOS-MIEUM;2 SIOS-PIEUP;2 SIOS-PIEUP-KIYEOK;2 SIOS-SSANGSIOS;
   2 SIOS-IEUNG;2 SIOS-CIEUC;2 SIOS-CHIEUCH;2 SIOS-KHIEUKH;2 SIOS-THIEUTH;2 SIOS-PHIEUPH;
   2 SIOS-HIEUH;2 CHITUEUMSIOS;2 CHITUEUMSSANGSIOS;2 CEONGCHIEUMSIOS;2 CEONGCHIEUMSSANGSIOS;
   2 PANSIOS;2 IEUNG-KIYEOK;2 IEUNG-TIKEUT;2 IEUNG-MIEUM;2 IEUNG-PIEUP;2 IEUNG-SIOS;2 IEUNG-PANSIOS;
   2 SSANGIEUNG;2 IEUNG-CIEUC;2 IEUNG-CHIEUCH;2 IEUNG-THIEUTH;2 IEUNG-PHIEUPH;2 YESIEUNG;
   2 CIEUC-IEUNG;2 CHITUEUMCIEUC;2 CHITUEUMSSANGCIEUC;2 CEONGCHIEUMCIEUC;2 CEONGCHIEUMSSANGCIEUC;
   2 CHIEUCH-KHIEUKH;2 CHIEUCH-HIEUH;2 CHITUEUMCHIEUCH;2 CEONGCHIEUMCHIEUCH;2 PHIEUPH-PIEUP;
   2 KAPYEOUNPHIEUPH;2 SSANGHIEUH;2 YEORINHIEUH;2 KIYEOK-TIKEUT;2 NIEUN-SIOS;2 NIEUN-CIEUC;
   2 NIEUN-HIEUH;2 TIKEUT-RIEUL;2 FILLER;1 JUNGSEONG 1;2 A;2 AE;2 YA;2 YAE;2 EO;2 E;2 YEO;2 YE;2 O;
   2 WA;2 WAE;2 OE;2 YO;2 U;2 WEO;2 WE;2 WI;2 YU;2 EU;2 YI;2 I;2 A-O;2 A-U;2 YA-O;2 YA-YO;2 EO-O;
   2 EO-U;2 EO-EU;2 YEO-O;2 YEO-U;2 O-EO;2 O-E;2 O-YE;2 O-O;2 O-U;2 YO-YA;2 YO-YAE;2 YO-YEO;2 YO-O;
   2 YO-I;2 U-A;2 U-AE;2 U-EO-EU;2 U-YE;2 U-U;2 YU-A;2 YU-EO;2 YU-E;2 YU-YEO;2 YU-YE;2 YU-U;2 YU-I;
   2 EU-U;2 EU-EU;2 YI-U;2 I-A;2 I-YA;2 I-O;2 I-U;2 I-EU;2 I-ARAEA;2 ARAEA;2 ARAEA-EO;2 ARAEA-U;
   2 ARAEA-I;2 SSANGARAEA;2 A-EU;2 YA-U;2 YEO-YA;2 O-YA;2 O-YAE;1 JONGSEONG KIYEOK;2 SSANGKIYEOK;
   2 KIYEOK-SIOS;2 NIEUN;2 NIEUN-CIEUC;2 NIEUN-HIEUH;2 TIKEUT;2 RIEUL;2 RIEUL-KIYEOK;2 RIEUL-MIEUM;
   2 RIEUL-PIEUP;2 RIEUL-SIOS;2 RIEUL-THIEUTH;2 RIEUL-PHIEUPH;2 RIEUL-HIEUH;2 MIEUM;2 PIEUP;
   2 PIEUP-SIOS;2 SIOS;2 SSANGSIOS;2 IEUNG;2 CIEUC;2 CHIEUCH;2 KHIEUKH;2 THIEUTH;2 PHIEUPH;2 HIEUH;
   2 KIYEOK-RIEUL;2 KIYEOK-SIOS-KIYEOK;2 NIEUN-KIYEOK;2 NIEUN-TIKEUT;2 NIEUN-SIOS;2 NIEUN-PANSIOS;
   2 NIEUN-THIEUTH;2 TIKEUT-KIYEOK;2 TIKEUT-RIEUL;2 RIEUL-KIYEOK-SIOS;2 RIEUL-NIEUN;2 RIEUL-TIKEUT;
   2 RIEUL-TIKEUT-HIEUH;2 SSANGRIEUL;2 RIEUL-MIEUM-KIYEOK;2 RIEUL-MIEUM-SIOS;2 RIEUL-PIEUP-SIOS;
   2 RIEUL-PIEUP-HIEUH;2 RIEUL-KAPYEOUNPIEUP;2 RIEUL-SSANGSIOS;2 RIEUL-PANSIOS;2 RIEUL-KHIEUKH;
   2 RIEUL-YEORINHIEUH;2 MIEUM-KIYEOK;2 MIEUM-RIEUL;2 MIEUM-PIEUP;2 MIEUM-SIOS;2 MIEUM-SSANGSIOS;
   2 MIEUM-PANSIOS;2 MIEUM-CHIEUCH;2 MIEUM-HIEUH;2 KAPYEOUNMIEUM;2 PIEUP-RIEUL;2 PIEUP-PHIEUPH;
   2 PIEUP-HIEUH;2 KAPYEOUNPIEUP;2 SIOS-KIYEOK;2 SIOS-TIKEUT;2 SIOS-RIEUL;2 SIOS-PIEUP;2 PANSIOS;
   2 IEUNG-KIYEOK;2 IEUNG-SSANGKIYEOK;2 SSANGIEUNG;2 IEUNG-KHIEUKH;2 YESIEUNG;2 YESIEUNG-SIOS;
   2 YESIEUNG-PANSIOS;2 PHIEUPH-PIEUP;2 KAPYEOUNPHIEUPH;2 HIEUH-NIEUN;2 HIEUH-RIEUL;2 HIEUH-MIEUM;
   2 HIEUH-PIEUP;2 YEORINHIEUH;2 KIYEOK-NIEUN;2 KIYEOK-PIEUP;2 KIYEOK-CHIEUCH;2 KIYEOK-KHIEUKH;
   2 KIYEOK-HIEUH;2 SSANGNIEUN"

end ApiShell.Template.CharacterName
