/-! Names of cuneiform, hieroglyphs, and scripts with very many signs, as a listing. -/

namespace ApiShell.Template.CharacterName

/-- Cuneiform to Tangut. -/
def pictorial : String :=
  "U+12000;CUNEIFORM SIGN A;3 TIMES A;4 BAD;4 GAN2 TENU;4 HA;4 IGI;4 LAGAR GUNU;4 MUSH;4 SAG;2 A2;
   2 AB;3 TIMES ASH2;4 DUN3 GUNU;4 GAL;4 GAN2 TENU;4 HA;4 IGI GUNU;4 IMIN;4 LAGAB;4 SHESH;
   4 U PLUS U PLUS U;3 GUNU;2 AB2;3 TIMES BALAG;4 GAN2 TENU;4 ME PLUS EN;4 SHA3;4 TAK4;2 AD;2 AK;
   3 TIMES ERIN2;4 SHITA PLUS GISH;2 AL;3 TIMES AL;4 DIM2;4 GISH;4 HA;4 KAD3;4 KI;4 SHE;4 USH;
   2 ALAN;2 ALEPH;2 AMAR;3 TIMES SHE;2 AN;3 OVER AN;3 THREE TIMES;3 PLUS NAGA OPPOSING AN PLUS NAGA;
   5 SQUARED;2 ANSHE;2 APIN;2 ARAD;3 TIMES KUR;2 ARKAB;2 ASAL2;2 ASH;3 ZIDA TENU;3 KABA 1;
   3 OVER ASH TUG2 OVER TUG2 TUG2 OVER TUG2 PAP;5 OVER ASH;7 CROSSING ASH OVER ASH OVER ASH;2 ASH2;
   2 ASHGAB;2 BA;2 BAD;2 BAG3;2 BAHAR2;2 BAL;3 OVER BAL;2 BALAG;2 BAR;2 BARA2;2 BI;3 TIMES A;4 GAR;
   4 IGI GUNU;2 BU;3 OVER BU AB;5 UN;3 CROSSING 1;2 BULUG;3 OVER BULUG;2 BUR;2 BUR2;2 DA;2 DAG;
   3 KISIM5 TIMES A PLUS MASH;5 AMAR;5 BALAG;5 BI;5 GA;6 PLUS MASH;5 GI;5 GIR2;5 GUD;5 HA;5 IR;
   6 PLUS LU;5 KAK;5 LA;5 LU;6 PLUS MASH2;5 LUM;5 NE;5 PAP PLUS PAP;5 SI;5 TAK4;5 U2 PLUS GIR2;
   5 USH;2 DAM;2 DAR;2 DARA3;+1;2 DI;2 DIB;2 DIM;3 TIMES SHE;2 DIM2;2 DIN;3 KASKAL U GUNU DISH;
   2 DISH;2 DU;3 OVER DU;3 GUNU;3 SHESHIG;2 DUB;3 TIMES ESH2;2 DUB2;2 DUG;2 DUGUD;2 DUH;2 DUN;
   2 DUN3;3 GUNU;4 GUNU;2 DUN4;2 DUR2;2 E;3 TIMES PAP;3 OVER E NUN OVER NUN;2 E2;
   3 TIMES A PLUS HA PLUS DA;4 GAR;4 MI;4 SAL;4 SHE;4 U;2 EDIN;2 EGIR;2 EL;2 EN;3 TIMES GAN2;5 TENU;
   4 ME;3 CROSSING EN;3 OPPOSING 1;3 SQUARED;2 EREN;2 ERIN2;2 ESH2;2 EZEN;3 TIMES A;5 PLUS LAL;
   7 TIMES LAL;4 AN;4 BAD;4 DUN3 GUNU;6 GUNU;4 HA;5 GUNU;4 IGI 1;4 KASKAL;5 SQUARED;4 KU3;4 LA;
   4 LAL TIMES LAL;4 LI;4 LU;4 U2;4 UD;2 GA;3 GUNU;2 GA2;3 TIMES A PLUS DA PLUS HA;6 HA;6 IGI;
   4 AB2 TENU PLUS TAB;4 AN;4 ASH;4 ASH2 PLUS GAL;4 BAD;4 BAR PLUS RA;4 BUR;5 PLUS RA;4 DA;4 DI;
   4 DIM TIMES SHE;4 DUB;4 EL;5 PLUS LA;4 EN;5 TIMES GAN2 TENU;4 GAN2 TENU;4 GAR;4 GI;4 GI4;
   5 PLUS A;4 GIR2 1 SU;4 HA 1 LU PLUS ESH2;4 HAL;5 PLUS LA;4 HI 1 LI;4 HUB2;4 IGI GUNU;
   4 ISH PLUS HU PLUS ASH;4 KAK;4 KASKAL;4 KID;5 PLUS LAL;4 KU3 1 AN;4 LA;4 ME PLUS EN;4 MI;4 NUN;
   5 OVER NUN;4 PA;4 SAL;4 SAR;4 SHE;5 PLUS TUR;4 SHID;4 SUM;4 TAK4;4 U;4 UD;5 PLUS DU;3 OVER GA2;
   2 GABA;3 CROSSING GABA;2 GAD;3 OVER GAD GAR OVER GAR;2 GAL;3 GAD OVER GAD GAR OVER GAR;2 GALAM;
   2 GAM;2 GAN;2 GAN2;3 TENU;3 OVER GAN2;3 CROSSING 1;2 GAR;2 GAR3;2 GASHAN;2 GESHTIN;3 TIMES KUR;
   2 GI;3 TIMES E;4 U;3 CROSSING GI;2 GI4;3 OVER GI4;3 CROSSING 1;2 GIDIM;2 GIR2;3 GUNU;2 GIR3;
   3 TIMES A PLUS IGI;4 GAN2 TENU;4 IGI;4 LU PLUS IGI;4 PA;2 GISAL;2 GISH;3 CROSSING GISH;
   3 TIMES BAD;4 TAK4;3 TENU;2 GU;3 CROSSING GU;2 GU2;3 TIMES KAK;5 TIMES IGI GUNU;4 NUN;
   4 SAL PLUS TUG2;3 GUNU;2 GUD;3 TIMES A PLUS KUR;4 KUR;3 OVER GUD LUGAL;2 GUL;2 GUM;3 TIMES SHE;
   2 GUR;2 GUR7;2 GURUN;2 GURUSH;2 HA;3 TENU;3 GUNU;2 HAL;2 HI;3 TIMES ASH;4 ASH2;4 BAD;4 DISH;
   4 GAD;4 KIN;4 NUN;4 SHE;4 U;2 HU;2 HUB2;3 TIMES AN;4 HAL;4 KASKAL;4 LISH;4 UD;2 HUL2;2 I;3 A;
   2 IB;2 IDIM;3 OVER IDIM BUR;5 SQUARED;2 IG;2 IGI;3 DIB;3 RI;3 OVER IGI SHIR OVER SHIR UD OVER UD;
   3 GUNU;2 IL;3 TIMES GAN2 TENU;2 IL2;2 IM;3 TIMES TAK4;3 CROSSING IM;3 OPPOSING 1;3 SQUARED;
   2 IMIN;2 IN;2 IR;2 ISH;2 KA;3 TIMES A;4 AD;5 PLUS KU3;4 ASH2;4 BAD;4 BALAG;4 BAR;4 BI;4 ERIN2;
   4 ESH2;4 GA;4 GAL;4 GAN2 TENU;4 GAR;5 PLUS SHA3 PLUS A;4 GI;4 GIR2;4 GISH PLUS SAR;
   5 CROSSING GISH;4 GU;4 GUR7;4 IGI;4 IM;4 KAK;4 KI;4 KID;4 LI;4 LU;4 ME;5 PLUS DU;6 GI;6 TE;4 MI;
   5 PLUS NUNUZ;4 NE;4 NUN;4 PI;4 RU;4 SA;4 SAR;4 SHA;4 SHE;4 SHID;4 SHU;4 SIG;4 SUHUR;4 TAR;4 U;
   4 U2;4 UD;4 UMUM TIMES PA;4 USH;4 ZI;2 KA2;3 CROSSING KA2;2 KAB;2 KAD2;+3;3 OVER KAD5;2 KAK;
   3 TIMES IGI GUNU;2 KAL;3 TIMES BAD;3 CROSSING KAL;2 KAM2;2 KAM4;2 KASKAL;
   3 LAGAB TIMES U OVER LAGAB TIMES U;3 OVER KASKAL LAGAB TIMES U OVER LAGAB TIMES U;2 KESH2;2 KI;
   3 TIMES BAD;4 U;4 UD;2 KID;2 KIN;2 KISAL;2 KISH;2 KISIM5;3 OVER KISIM5;2 KU;
   3 OVER HI TIMES ASH2 KU OVER HI TIMES ASH2;2 KU3;+1;3 VARIANT FORM;2 KU7;2 KUL;3 GUNU;2 KUN;
   2 KUR;3 OPPOSING KUR;2 KUSHU2;2 KWU318;2 LA;2 LAGAB;3 TIMES A;5 PLUS DA PLUS HA;6 GAR;6 LAL;4 AL;
   4 AN;4 ASH ZIDA TENU;4 BAD;4 BI;4 DAR;4 EN;4 GA;4 GAR;4 GUD;5 PLUS GUD;4 HA;4 HAL;4 HI TIMES NUN;
   4 IGI GUNU;4 IM;5 PLUS HA;6 LU;4 KI;4 KIN;4 KU3;4 KUL;5 PLUS HI PLUS A;4 LAGAB;4 LISH;4 LU;4 LUL;
   4 ME;5 PLUS EN;4 MUSH;4 NE;4 SHE PLUS SUM;4 SHITA 1 GISH PLUS ERIN2;7 TENU;4 SHU2;5 PLUS SHU2;
   4 SUM;4 TAG;4 TAK4;4 TE PLUS A PLUS SU PLUS NA;4 U;5 PLUS A;6 U PLUS U;4 U2 1 ASH;4 UD;4 USH;
   3 SQUARED;2 LAGAR;3 TIMES SHE;5 PLUS SUM;3 GUNU;4 OVER LAGAR GUNU SHE;2 LAHSHU;2 LAL;3 TIMES LAL;
   2 LAM;3 TIMES KUR;5 PLUS RU;2 LI;2 LIL;2 LIMMU2;2 LISH;2 LU;3 TIMES BAD;2 LU2;3 TIMES AL;4 BAD;
   4 ESH2;5 TENU;4 GAN2 1;4 HI TIMES BAD;4 IM;4 KAD2;+1;5 PLUS ASH;4 KI;4 LA PLUS ASH;4 LAGAB;
   4 ME PLUS EN;4 NE;4 NU;4 SI PLUS ASH;4 SIK2 1 BU;4 TUG2;3 TENU;3 CROSSING LU2;3 OPPOSING 1;
   3 SQUARED;3 SHESHIG;2 LU3;2 LUGAL;3 OVER LUGAL;3 OPPOSING 1;3 SHESHIG;2 LUH;2 LUL;2 LUM;
   3 OVER LUM;5 GAR OVER GAR;2 MA;3 TIMES TAK4;3 GUNU;2 MA2;2 MAH;2 MAR;2 MASH;2 MASH2;2 ME;2 MES;
   2 MI;2 MIN;2 MU;3 OVER MU;2 MUG;3 GUNU;2 MUNSUB;2 MURGU2;2 MUSH;3 TIMES A;4 KUR;4 ZA;3 OVER MUSH;
   5 TIMES A PLUS NA;3 CROSSING 1;2 MUSH3;3 TIMES A;5 PLUS DI;4 DI;3 GUNU;2 NA;2 NA2;2 NAGA;
   3 INVERTED;3 TIMES SHU TENU;3 OPPOSING NAGA;2 NAGAR;2 NAM NUTILLU;3;2 NAM2;2 NE;3 TIMES A;4 UD;
   3 SHESHIG;2 NI;3 TIMES E;2 NI2;2 NIM;3 TIMES GAN2 TENU;4 GAR PLUS GAN2 TENU;2 NINDA2;3 TIMES AN;
   4 ASH;5 PLUS ASH;4 GUD;4 ME PLUS GAN2 TENU;4 NE;4 NUN;4 SHE;5 PLUS A AN;6 ASH;7 PLUS ASH;4 U2 2;
   4 USH;2 NISAG;2 NU;2 NU11;2 NUN;3 LAGAR TIMES GAR;5 MASH;5 SAL;6 OVER NUN LAGAR TIMES SAL;5 USH;
   3 TENU;3 OVER NUN;3 CROSSING 1;5 LAGAR OVER LAGAR;2 NUNUZ;3 AB2 TIMES ASHGAB;5 BI;5 DUG;5 GUD;
   5 IGI GUNU;5 KAD3;5 LA;5 NE;5 SILA3;5 U2;3 KISIM5 1 BI;6 U;2 PA;2 PAD;2 PAN;2 PAP;2 PESH2;2 PI;
   3 TIMES A;4 AB;4 BI;4 BU;4 E;4 I;4 IB;4 U;4 U2;3 CROSSING PI;2 PIRIG;3 TIMES KAL;4 UD;4 ZA;
   3 OPPOSING PIRIG;2 RA;2 RAB;2 RI;2 RU;2 SA;2 SAG NUTILLU;3;3 TIMES A;4 DU;4 DUB;4 HA;4 KAK;4 KUR;
   4 LUM;4 MI;4 NUN;4 SAL;4 SHID;4 TAB;4 U2;4 UB;4 UM;4 UR;4 USH;3 OVER SAG;3 GUNU;2 SAL;
   3 LAGAB TIMES ASH2;2 SANGA2;2 SAR;2 SHA;2 SHA3;3 TIMES A;4 BAD;4 GISH;4 NE;4 SHU2;4 TUR;4 U;
   5 PLUS A;2 SHA6;2 SHAB6;2 SHAR2;2 SHE;3 HU;3 OVER SHE GAD OVER GAD GAR OVER GAR;5 TAB 1 TAB 3;
   2 SHEG9;2 SHEN;2 SHESH;2 SHESH2;2 SHESHLAM;2 SHID;3 TIMES A;4 IM;2 SHIM;3 TIMES A;4 BAL;4 BULUG;
   4 DIN;4 GAR;4 IGI;5 GUNU;4 KUSHU2;4 LUL;4 MUG;4 SAL;2 SHINIG;2 SHIR;3 TENU;
   3 OVER SHIR BUR OVER BUR;2 SHITA;2 SHU;3 OVER INVERTED SHU;2 SHU2;2 SHUBUR;2 SI;3 GUNU;2 SIG;
   2 SIG4;3 OVER SIG4 SHU2;2 SIK2;2 SILA3;2 SU;3 OVER SU;2 SUD;2 SUD2;2 SUHUR;2 SUM;2 SUMASH;2 SUR;
   2 SUR9;2 TA;3 ASTERISK;3 TIMES HI;4 MI;3 GUNU;2 TAB;3 OVER TAB NI OVER NI DISH OVER DISH;
   3 SQUARED;2 TAG;3 TIMES BI;4 GUD;4 SHE;4 SHU;4 TUG2;4 UD;2 TAK4;2 TAR;2 TE;3 GUNU;2 TI;3 TENU;
   2 TIL;2 TIR;3 TIMES TAK4;3 OVER TIR;5 GAD OVER GAD GAR OVER GAR;2 TU;2 TUG2;2 TUK;2 TUM;2 TUR;
   3 OVER TUR ZA OVER ZA;2 U;3 GUD;3 U U;3 OVER 1 PA OVER PA GAR OVER GAR;5 SUR 1 SUR;
   5 U REVERSED OVER U REVERSED;2 U2;2 UB;2 UD;3 KUSHU2;3 TIMES BAD;4 MI;4 U PLUS U PLUS U;9 GUNU;
   3 GUNU;3 SHESHIG;4 TIMES BAD;2 UDUG;2 UM;3 TIMES LAGAB;4 ME PLUS DA;4 SHA3;4 U;2 UMBIN;2 UMUM;
   3 TIMES KASKAL;4 PA;2 UN;3 GUNU;2 UR;3 CROSSING UR;3 SHESHIG;2 UR2;3 TIMES A PLUS HA;6 NA;4 AL;
   4 HA;4 NUN;4 U2;5 PLUS ASH;6 BI;2 UR4;2 URI;2 URI3;2 URU;3 TIMES A;4 ASHGAB;4 BAR;4 DUN;4 GA;
   4 GAL;4 GAN2 TENU;4 GAR;4 GU;4 HA;4 IGI;4 IM;4 ISH;4 KI;4 LUM;4 MIN;4 PA;4 SHE;4 SIG4;4 TU;
   4 U PLUS GUD;4 UD;4 URUDA;2 URUDA;3 TIMES U;2 USH;3 TIMES A;4 KU;4 KUR;4 TAK4;2 USHX;2 USH2;
   2 USHUMX;2 UTUKI;2 UZ3;3 TIMES KASKAL;2 UZU;2 ZA;3 TENU;3 SQUARED TIMES KUR;2 ZAG;2 ZAMX;2 ZE2;
   2 ZI;3 OVER ZI;2 ZI3;2 ZIB;3 KABA TENU;2 ZIG;2 ZIZ2;2 ZU;2 ZU5;3 TIMES A;2 ZUBUR;2 ZUM;
   2 KAP ELAMITE;2 AB TIMES NUN;2 AB2 1 A;2 AMAR 1 KUG;2 DAG KISIM5 TIMES U2 PLUS MASH;2 DAG3;
   2 DISH PLUS SHU;2 DUB TIMES SHE;2 EZEN 1 GUD;4 SHE;2 GA2 1 AN PLUS KAK PLUS A;4 ASH2;2 GE22;
   2 GIG;2 HUSH;2 KA TIMES ANSHE;4 ASH3;4 GISH;4 GUD;4 HI TIMES ASH2;4 LUM;4 PA;4 SHUL;4 TU;4 UR2;
   2 LAGAB 1 GI;2 LU2 SHESHIG TIMES BAD;3 TIMES ESH2 PLUS LAL;4 SHU;2 MESH;2 MUSH3 TIMES ZA;2 NA4;
   2 NIN;2 NIN9;2 NINDA2 TIMES BAL;4 GI;2 NU11 ROTATED NINETY DEGREES;2 PESH2 ASTERISK;2 PIR2;
   2 SAG TIMES IGI GUNU;2 TI2;2 UM TIMES ME;2 U U;U+12400;1 NUMERIC SIGN TWO ASH;3 THREE 1;3 FOUR 1;
   3 FIVE 1;3 SIX 1;3 SEVEN 1;3 EIGHT 1;3 NINE 1;3 THREE DISH;3 FOUR 1;3 FIVE 1;3 SIX 1;3 SEVEN 1;
   3 EIGHT 1;3 NINE 1;3 FOUR U;3 FIVE 1;3 SIX 1;3 SEVEN 1;3 EIGHT 1;3 NINE 1;3 ONE GESH2;3 TWO 1;
   3 THREE 1;3 FOUR 1;3 FIVE 1;3 SIX 1;3 SEVEN 1;3 EIGHT 1;3 NINE 1;3 ONE GESHU;3 TWO 1;3 THREE 1;
   3 FOUR 1;3 FIVE 1;3 TWO SHAR2;3 THREE 1;5 VARIANT FORM;3 FOUR 1;3 FIVE 1;3 SIX 1;3 SEVEN 1;
   3 EIGHT 1;3 NINE 1;3 ONE SHARU;3 TWO 1;3 THREE 1;5 VARIANT FORM;3 FOUR 1;3 FIVE 1;
   3 SHAR2 TIMES GAL PLUS DISH;7 MIN;3 ONE BURU;3 TWO 1;3 THREE 1;5 VARIANT FORM;3 FOUR 1;3 FIVE 1;
   3 THREE VARIANT FORM ESH16;6 ESH21;3 FOUR 2 LIMMU;6 LIMMU4;6 LIMMU A;7 B;3 SIX 2 ASH9;
   3 SEVEN 2 IMIN3;6 IMIN A;7 B;3 EIGHT 2 USSU;6 USSU3;3 NINE 2 ILIMMU;6 ILIMMU3;+1;6 ILIMMU A;
   3 TWO ASH TENU;3 THREE 2;3 FOUR 2;3 FIVE 2;3 SIX 2;3 ONE BAN2;3 TWO 1;3 THREE 1;3 FOUR 1;
   5 VARIANT FORM;3 FIVE 1;5 VARIANT FORM;3 NIGIDAMIN;3 NIGIDAESH;3 ONE ESHE3;3 TWO 1;
   3 ONE THIRD DISH;3 TWO THIRDS 1;3 FIVE SIXTHS 1;3 ONE THIRD VARIANT FORM A;3 TWO THIRDS 3;
   3 ONE EIGHTH ASH;4 QUARTER 1;3 OLD ASSYRIAN ONE SIXTH;6 QUARTER;3 ONE QUARTER GUR;4 HALF 1;
   3 ELAMITE ONE THIRD;4 TWO THIRDS;4 FORTY;4 FIFTY;3 FOUR U VARIANT FORM;3 FIVE 3;3 SIX 3;
   3 SEVEN 3;3 EIGHT 3;3 NINE 3;U+12470;1 PUNCTUATION 1 OLD ASSYRIAN WORD DIVIDER;3 VERTICAL COLON;
   3 DIAGONAL 1;4 TRICOLON;4 QUADCOLON;U+12480;1 SIGN AB TIMES NUN TENU;4 SHU2;2 AD 1 ESH2;
   2 BAD 1 DISH TENU;2 BAHAR2 1 AB2;4 NI;4 ZA;2 BU OVER BU TIMES NA2;2 DA TIMES TAK4;2 DAG 1 KUR;
   2 DIM 1 IGI;4 U U U;2 DIM2 1 UD;2 DUG 1 ANSHE;4 ASH;5 AT LEFT;4 DIN;4 DUN;4 ERIN2;4 GA;4 GI;
   4 GIR2 GUNU;4 GISH;4 HA;4 HI;4 IGI GUNU;4 KASKAL;4 KUR;4 KUSHU2;5 PLUS KASKAL;4 LAK-020;4 LAM;
   5 TIMES KUR;4 LUH PLUS GISH;4 MASH;4 MES;4 MI;4 NI;4 PI;4 SHE;4 SI GUNU;2 E2 1 KUR;4 PAP;
   2 ERIN2 X;2 ESH2 CROSSING ESH2;2 EZEN SHESHIG TIMES ASH;5 HI;5 IGI GUNU;5 LA;5 LAL;5 ME;5 MES;
   5 SU;3 TIMES SU;2 GA2 1 BAHAR2;4 DIM GUNU;4 DUG TIMES IGI GUNU;6 KASKAL;4 EREN;4 GA;
   4 GAR PLUS DI;6 NE;4 HA 1 A;4 KUSHU2 1 KASKAL;4 LAM;5 TIMES KUR;4 LUH;4 MUSH;4 NE;5 PLUS E2;6 GI;
   4 SHIM;4 ZIZ2;2 GABA ROTATED NINETY DEGREES;2 GESHTIN TIMES U;2 GISH 1 GISH CROSSING GISH;
   2 GU2 1 IGI GUNU;2 GUD PLUS GISH TIMES TAK4;2 HA TENU GUNU;2 HI TIMES ASH OVER HI TIMES ASH;
   2 KA 1 BU;4 KA;4 U U U;4 UR;2 LAGAB 1 ZU OVER ZU;2 LAK-003;2 LAK-021;2 LAK-025;2 LAK-030;
   2 LAK-050;+1;2 LAK-062;2 LAK-079 OVER LAK-079 GUNU;2 LAK-080;2 LAK-081 OVER LAK-081;2 LAK-092;
   2 LAK-130;2 LAK-142;2 LAK-210;2 LAK-219;+1;2 LAK-225;2 LAK-228;2 LAK-238;2 LAK-265;+1;2 LAK-343;
   2 LAK-347;+1;2 LAK-383;+1;2 LAK-390;2 LAK-441;2 LAK-449;3 TIMES GU;4 IGI;4 PAP PLUS LU3;
   6 PAP PLUS LU3;4 U2 1 BA;2 LAK-450;2 LAK-457;2 LAK-470;2 LAK-483;2 LAK-490;2 LAK-492;+1;
   2 LAK-495;2 LAK-550;2 LAK-608;2 LAK-617;3 TIMES ASH;4 BAD;4 DUN3 GUNU GUNU;4 KU3;4 LA;4 TAR;4 TE;
   4 U2;4 UD;4 URUDA;2 LAK-636;2 LAK-648;3 TIMES DUB;4 GA;4 IGI;5 GUNU;4 NI;4 PAP PLUS PAP PLUS LU3;
   4 SHESH 1 KI;4 UD;4 URUDA;2 LAK-724;2 LAK-749;2 LU2 GUNU TIMES ASH;3 TIMES DISH;4 HAL;4 PAP;
   5 PLUS PAP PLUS LU3;4 TAK4;2 MI PLUS ZA7;2 MUSH OVER MUSH TIMES GA;6 KAK;2 NINDA2 TIMES DIM GUNU;
   4 GISH;4 GUL;4 HI;4 KESH2;4 LAK-050;4 MASH;4 PAP PLUS PAP;4 U;5 PLUS U;4 URUDA;
   2 SAG GUNU TIMES HA;3 TIMES EN;4 SHE AT LEFT;4 TAK4;2 SHA6 TENU;2 SHE OVER SHE;3 PLUS HUB2;
   4 NAM2;4 SAR;2 SHU2 1 DUG TIMES NI;4 E2 1 AN;2 SI TIMES TAK4;2 TAK4 PLUS SAG;
   2 TUM TIMES GAN2 TENU;4 THREE DISH;2 UR2 INVERTED;3 TIMES UD;2 URU 1 DARA3;4 LAK-668;4 LU3;2 ZA7;
   2 ZU OVER ZU PLUS SAR;2 ZU5 TIMES THREE DISH TENU;U+12F90;CYPRO-MINOAN 1 CM001;+1;2 CM004;+8;
   2 CM012B;2 CM013;2 CM015;2 CM017;2 CM019;2 CM021;2 CM023;+7;2 CM033;+8;2 CM044;2 CM046;+1;
   2 CM049;+7;2 CM058;+6;2 CM066;+9;2 CM075B;2 CM076;2 CM078;+14;2 CM094;+11;2 CM107;+3;2 CM112;
   2 CM114;2 CM301;+1;U+13000;EGYPTIAN HIEROGLYPH A001;+4;2 A005A;2 A006;2 A006A;2 A006B;2 A007;+7;
   2 A014A;2 A015;+2;2 A017A;2 A018;+14;2 A032A;2 A033;+7;2 A040A;2 A041;+1;2 A042A;2 A043;2 A043A;
   2 A044;+1;2 A045A;2 A046;+24;2 B001;+4;2 B005A;2 B006;+3;2 C001;+1;2 C002A;2 C002B;2 C002C;
   2 C003;+7;2 C010A;2 C011;+13;2 D001;+7;2 D008A;2 D009;+18;2 D027A;2 D028;+3;2 D031A;2 D032;+2;
   2 D034A;2 D035;+11;2 D046A;2 D047;+1;2 D048A;2 D049;+1;2 D050A;2 D050B;2 D050C;2 D050D;2 D050E;
   2 D050F;2 D050G;2 D050H;2 D050I;2 D051;+1;2 D052A;2 D053;+1;2 D054A;2 D055;+12;2 D067A;2 D067B;
   2 D067C;2 D067D;2 D067E;2 D067F;2 D067G;2 D067H;2 E001;+7;2 E008A;2 E009;2 E009A;2 E010;+6;
   2 E016A;2 E017;2 E017A;2 E018;+2;2 E020A;2 E021;+7;2 E028A;2 E029;+5;2 E034A;2 E036;+2;2 F001;
   2 F001A;2 F002;+11;2 F013A;2 F014;+7;2 F021A;2 F022;+9;2 F031A;2 F032;+5;2 F037A;2 F038;2 F038A;
   2 F039;+6;2 F045A;2 F046;2 F046A;2 F047;2 F047A;2 F048;+3;2 F051A;2 F051B;2 F051C;2 F052;+1;
   2 G001;+5;2 G006A;2 G007;2 G007A;2 G007B;2 G008;+3;2 G011A;2 G012;+8;2 G020A;2 G021;+5;2 G026A;
   2 G027;+9;2 G036A;2 G037;2 G037A;2 G038;+5;2 G043A;2 G044;+1;2 G045A;2 G046;+8;2 H001;+5;2 H006A;
   2 H007;+1;2 I001;+4;2 I005A;2 I006;+3;2 I009A;2 I010;2 I010A;2 I011;2 I011A;2 I012;+3;2 K001;+7;
   2 L001;+1;2 L002A;2 L003;+3;2 L006A;2 L007;+1;2 M001;2 M001A;2 M001B;2 M002;+1;2 M003A;2 M004;+6;
   2 M010A;2 M011;+1;2 M012A;2 M012B;2 M012C;2 M012D;2 M012E;2 M012F;2 M012G;2 M012H;2 M013;+2;
   2 M015A;2 M016;2 M016A;2 M017;2 M017A;2 M018;+4;2 M022A;2 M023;+1;2 M024A;2 M025;+3;2 M028A;
   2 M029;+2;2 M031A;2 M032;+1;2 M033A;2 M033B;2 M034;+6;2 M040A;2 M041;+3;2 N001;+17;2 N018A;
   2 N018B;2 N019;+6;2 N025A;2 N026;+7;2 N033A;2 N034;2 N034A;2 N035;2 N035A;2 N036;+1;2 N037A;
   2 N038;+4;2 NL001;+4;2 NL005A;2 NL006;+11;2 NL017A;2 NL018;+2;2 NU001;+9;2 NU010A;2 NU011;
   2 NU011A;2 NU012;+6;2 NU018A;2 NU019;+3;2 NU022A;2 O001;2 O001A;2 O002;+3;2 O005A;2 O006;2 O006A;
   2 O006B;2 O006C;2 O006D;2 O006E;2 O006F;2 O007;+3;2 O010A;2 O010B;2 O010C;2 O011;+8;2 O019A;
   2 O020;2 O020A;2 O021;+3;2 O024A;2 O025;2 O025A;2 O026;+3;2 O029A;2 O030;2 O030A;2 O031;+2;
   2 O033A;2 O034;+2;2 O036A;2 O036B;2 O036C;2 O036D;2 O037;+13;2 O050A;2 O050B;2 O051;2 P001;
   2 P001A;2 P002;+1;2 P003A;2 P004;+7;2 Q001;+6;2 R001;+1;2 R002A;2 R003;2 R003A;2 R003B;2 R004;+6;
   2 R010A;2 R011;+5;2 R016A;2 R017;+12;2 S001;+1;2 S002A;2 S003;+3;2 S006A;2 S007;+7;2 S014A;
   2 S014B;2 S015;+2;2 S017A;2 S018;+8;2 S026A;2 S026B;2 S027;+8;2 S035A;2 S036;+10;2 T001;+2;
   2 T003A;2 T004;+3;2 T007A;2 T008;2 T008A;2 T009;2 T009A;2 T010;+1;2 T011A;2 T012;+4;2 T016A;
   2 T017;+15;2 T032A;2 T033;2 T033A;2 T034;+2;2 U001;+5;2 U006A;2 U006B;2 U007;+16;2 U023A;2 U024;
   +5;2 U029A;2 U030;+2;2 U032A;2 U033;+9;2 V001;2 V001A;2 V001B;2 V001C;2 V001D;2 V001E;2 V001F;
   2 V001G;2 V001H;2 V001I;2 V002;2 V002A;2 V003;+4;2 V007A;2 V007B;2 V008;+3;2 V011A;2 V011B;
   2 V011C;2 V012;2 V012A;2 V012B;2 V013;+7;2 V020A;2 V020B;2 V020C;2 V020D;2 V020E;2 V020F;2 V020G;
   2 V020H;2 V020I;2 V020J;2 V020K;2 V020L;2 V021;+2;2 V023A;2 V024;+4;2 V028A;2 V029;2 V029A;
   2 V030;2 V030A;2 V031;2 V031A;2 V032;+1;2 V033A;2 V034;+3;2 V037A;2 V038;+2;2 V040A;2 W001;+2;
   2 W003A;2 W004;+5;2 W009A;2 W010;2 W010A;2 W011;+3;2 W014A;2 W015;+2;2 W017A;2 W018;2 W018A;
   2 W019;+5;2 W024A;2 W025;2 X001;+3;2 X004A;2 X004B;2 X005;+1;2 X006A;2 X007;+1;2 X008A;2 Y001;
   2 Y001A;2 Y002;+6;2 Z001;+1;2 Z002A;2 Z002B;2 Z002C;2 Z002D;2 Z003;2 Z003A;2 Z003B;2 Z004;
   2 Z004A;2 Z005;2 Z005A;2 Z006;+9;2 Z015A;2 Z015B;2 Z015C;2 Z015D;2 Z015E;2 Z015F;2 Z015G;2 Z015H;
   2 Z015I;2 Z016;2 Z016A;2 Z016B;2 Z016C;2 Z016D;2 Z016E;2 Z016F;2 Z016G;2 Z016H;2 AA001;+6;
   2 AA007A;2 AA007B;2 AA008;+24;U+13430;2 VERTICAL JOINER;2 HORIZONTAL 1;2 INSERT AT TOP START;
   4 BOTTOM 1;4 TOP END;4 BOTTOM 1;2 OVERLAY MIDDLE;2 BEGIN SEGMENT;2 END 1;U+14400;
   ANATOLIAN 1 A001;+9;2 A010A;2 A011;+15;2 A026A;2 A027;+12;2 A039A;2 A040;+1;2 A041A;2 A042;+3;
   2 A045A;2 A046;2 A046A;2 A046B;2 A047;+19;2 A066A;2 A066B;2 A066C;2 A067;+30;2 A097A;2 A098;
   2 A098A;2 A099;+1;2 A100A;2 A101;2 A101A;2 A102;2 A102A;2 A103;+1;2 A104A;2 A104B;2 A104C;2 A105;
   2 A105A;2 A105B;2 A106;+1;2 A107A;2 A107B;2 A107C;2 A108;+2;2 A110A;2 A110B;2 A111;+4;2 A115A;
   2 A116;+9;2 A125A;2 A126;+9;2 A135A;2 A136;+66;2 A202A;2 A202B;2 A203;+4;2 A207A;2 A208;+1;
   2 A209A;2 A210;+5;2 A215A;2 A216;2 A216A;2 A217;+10;2 A227A;2 A228;+39;2 A267A;2 A268;+21;
   2 A289A;2 A290;+4;2 A294A;2 A295;+4;2 A299A;2 A300;+9;2 A309A;2 A310;+19;2 A329A;2 A330;+1;
   2 A332A;2 A332B;2 A332C;2 A333;+3;2 A336A;2 A336B;2 A336C;2 A337;+22;2 A359A;2 A360;+4;2 A364A;
   2 A365;+3;2 A368A;2 A369;+2;2 A371A;2 A372;+9;2 A381A;2 A382;2 A383 RA OR RI;2 A383A;2 A384;+2;
   2 A386A;2 A387;+5;2 A393 EIGHT;2 A394;+15;2 A410 BEGIN LOGOGRAM MARK;2 A410A END 2;2 A411;+39;
   2 A450A;2 A451;+6;2 A457A;2 A458;+39;2 A501;+29;U+16800;BAMUM LETTER PHASE-A NGKUE MFON;
   3 GBIEE FON;3 PON MFON PIPAEMGBIEE;5 PIPAEMBA;3 NAA 1;3 SHUENSHUET;3 TITA MFON;3 NZA 1;
   3 SHINDA PA NJI;3 PON 2 PIPAEMGBIEE;6 PIPAEMBA;3 MAEMBGBIEE;3 TU MAEMBA;3 NGANGU;3 MAEMVEUX;
   3 MANSUAE;3 MVEUAENGAM;3 SEUNYAM;3 NTOQPEN;3 KEUKEUTNDA;3 NKINDI;3 SUU;3 NGKUENZEUM;3 LAPAQ;
   3 LET KUT;3 NTAP MFAA;3 MAEKEUP;3 PASHAE;3 GHEUAERAE;3 PAMSHAE;3 MON NGGEUAET;3 NZUN MEUT;
   3 U YUQ NAE;3 GHEUAEGHEUAE;3 NTAP NTAA;3 SISA;3 MGBASA;3 MEUNJOMNDEUQ;3 MOOMPUQ;3 KAFA;
   3 PA LEERAEWA;3 NDA 1;3 PET;3 MAEMKPEN;3 NIKA;3 PUP;3 TUAEP;3 LUAEP;3 SONJAM;3 TEUTEUWEN;
   3 MAENYI;3 KET;3 NDAANGGEUAET;3 KUOQ;3 MOOMEUT;3 SHUM;3 LOMMAE;3 FIRI;3 ROM;3 KPOQ;3 SOQ;
   3 MAP PIEET;3 SHIRAE;3 NTAP;3 SHOQ NSHUT YUM;3 NYIT MONGKEUAEQ;3 PAARAE;3 NKAARAE;3 UNKNOWN;
   3 NGGEN;3 MAESI;3 NJAM;3 MBANYI;3 NYET;3 TEUAEN;3 SOT;3 PAAM;3 NSHIEE;3 MAEM;3 NYI;3 KAQ;3 NSHA;
   3 VEE;3 LU;3 NEN;3 NAQ;3 MBAQ;2 PHASE-B NSHUET;3 TU MAEMGBIEE;3 SIEE;3 SET TU;3 LOM NTEUM;
   3 MBA MAELEE;3 KIEEM;3 YEURAE;3 MBAARAE;3 KAM;3 PEESHI;3 YAFU LEERAEWA;3 LAM NSHUT NYAM;
   3 NTIEE SHEUOQ;3 NDU NJAA;3 GHEUGHEUAEM;3 PIT;3 TU NSIEE;3 SHET NJAQ;3 SHEUAEQTU;3 MFON TEUAEQ;
   3 MBIT MBAAKET;3 NYI NTEUM;3 KEUPUQ;3 GHEUGHEN;3 KEUYEUX;3 LAANAE;3 PARUM;3 VEUM;3 NGKINDI MVOP;
   3 NGGEU MBU;3 WUAET;3 SAKEUAE;3 TAAM;3 MEUQ;3 NGGUOQ;4 LARGE;3 MFIYAQ;3 SUE;3 MBEURI;3 MONTIEEN;
   3 NYAEMAE;3 PUNGAAM;3 MEUT NGGEET;3 FEUX;3 MBUOQ;3 FEE;3 KEUAEM;3 MA NJEUAENA;4 NJUQA;3 LET;
   3 NGGAAM;3 NSEN;3 MA;3 KIQ;3 NGOM;2 PHASE-C NGKUE MAEMBA;3 NZA;3 YUM;3 WANGKUOQ;3 NGGEN;
   3 NDEUAEREE;3 NGKAQ;3 GHARAE;3 MBEEKEET;3 GBAYI;3 NYIR MKPARAQ MEUN;3 NTU MBIT;3 MBEUM;3 PIRIEEN;
   3 NDOMBU;3 MBAA CABBAGE-TREE;3 KEUSHEUAEP;3 GHAP;3 KEUKAQ;3 YU MUOMAE;3 NZEUM;3 MBUE;3 NSEUAEN;
   3 MBIT;3 YEUQ;3 KPARAQ;3 KAA;3 SEUX;3 NDIDA;3 TAASHAE;3 NJUEQ;3 TITA YUE;3 SUAET;3 NGGUAEN NYAM;
   3 VEUX;3 NANSANAQ;3 MA KEUAERI;3 NTAA;3 NGGUON;3 LAP;3 MBIRIEEN;3 MGBASAQ;3 NTEUNGBA;3 TEUTEUX;
   3 NGGUM;3 FUE;3 NDEUT;3 NSA;3 NSHAQ;3 BUNG;3 VEUAEPEN;3 MBERAE;3 RU;3 NJAEM;3 LAM;3 TITUAEP;
   3 NSUOT NGOM;3 NJEEEE;3 KET;3 NGGU;3 MAESI;3 MBUAEM;3 LU;3 KUT;3 NJAM;3 NGOM;3 WUP;3 NGGUEET;
   3 NSOM;3 NTEN;3 KUOP NKAARAE;3 NSUN;3 NDAM;3 MA NSIEE;3 YAA;3 NDAP;3 SHUEQ;3 SETFON;3 MBI;
   3 MAEMBA;3 MBANYI;3 KEUSEUX;3 MBEUX;3 KEUM;3 MBAA PICKET;3 YUWOQ;3 NJEUX;3 MIEE;3 MUAE;3 SHIQ;
   3 KEN LAW;4 FATIGUE;3 NGAQ;3 NAQ;3 LIQ;3 PIN;3 PEN;3 TET;2 PHASE-D MBUO;3 WAP;3 NJI;3 MFON;
   3 NJIEE;3 LIEE;3 NJEUT;3 NSHEE;3 NGGAAMAE;3 NYAM;3 WUAEN;3 NGKUN;3 SHEE;3 NGKAP;3 KEUAETMEUN;
   3 TEUT;3 SHEUAE;3 NJAP;3 SUE;3 KET;3 YAEMMAE;3 KUOM;3 SAP;3 MFEUT;3 NDEUX;3 MALEERI;3 MEUT;
   3 SEUAEQ;3 YEN;3 NJEUAEM;3 KEUOT MBUAE;3 NGKEURI;3 TU;3 GHAA;3 NGKYEE;3 FEUFEUAET;3 NDEE;
   3 MGBOFUM;3 LEUAEP;3 NDON;3 MONI;3 MGBEUN;3 PUUT;3 MGBIEE;3 MFO;3 LUM;3 NSIEEP;3 MBAA;3 KWAET;
   3 NYET;3 TEUAEN;3 SOT;3 YUWOQ;3 KEUM;3 RAEM;3 TEEEE;3 NGKEUAEQ;3 MFEUAE;3 NSIEET;3 KEUP;3 PIP;
   3 PEUTAE;3 NYUE;3 LET;3 NGGAAM;3 MFIEE;3 NGGWAEN;3 YUOM;3 PAP;3 YUOP;3 NDAM;3 NTEUM;3 SUAE;3 KUN;
   3 NGGEUX;3 NGKIEE;3 TUOT;3 MEUN;3 KUQ;3 NSUM;3 TEUN;3 MAENJET;3 NGGAP;3 LEUM;3 NGGUOM;3 NSHUT;
   3 NJUEQ;3 GHEUAE;3 KU;3 REN OLD;3 TAE;3 TOQ;3 NYI;3 RII;3 LEEEE;3 MEEEE;3 M;3 SUU;3 MU;3 SHII;
   3 SHEUX;3 KYEE;3 NU;3 SHU;3 NTEE;3 PEE;3 NI;3 SHOQ;3 PUQ;3 MVOP;3 LOQ;3 REN MUCH;3 TI;3 NTUU;
   3 MBAA SEVEN;3 SAQ;3 FAA;2 PHASE-E NDAP;3 TOON;3 MBEUM;3 LAP;3 VOM;3 LOON;3 PAA;3 SOM;3 RAQ;
   3 NSHUOP;3 NDUN;3 PUAE;3 TAM;3 NGKA;3 KPEUX;3 WUO;3 SEE;3 NGGEUAET;3 PAAM;3 TOO;3 KUOP;3 LOM;
   3 NSHIEE;3 NGOP;3 MAEM;3 NGKEUX;3 NGOQ;3 NSHUE;3 RIMGBA;3 NJEUX;3 PEEM;3 SAA;3 NGGURAE;3 MGBA;
   3 GHEUX;3 NGKEUAEM;3 NJAEMLI;3 MAP;3 LOOT;3 NGGEEEE;3 NDIQ;3 TAEN NTEUM;3 SET;3 PUM;
   3 NDAA SOFTNESS;3 NGGUAESHAE NYAM;3 YIEE;3 GHEUN;3 TUAE;3 YEUAE;3 PO;3 TUMAE;3 KEUAE;3 SUAEN;
   3 TEUAEQ;3 VEUAE;3 WEUX;3 LAAM;3 PU;3 TAAQ;3 GHAAMAE;3 NGEUREUT;3 SHEUAEQ;3 MGBEN;3 MBEE;3 NZAQ;
   3 NKOM;3 GBET;3 TUM;3 KUET;3 YAP;3 NYI CLEAVER;3 YIT;3 MFEUQ;3 NDIAQ;3 PIEEQ;3 YUEQ;3 LEUAEM;
   3 FUE;3 GBEUX;3 NGKUP;3 KET;3 MAE;3 NGKAAMI;3 GHET;3 FA;3 NTUM;3 PEUT;3 YEUM;3 NGGEUAE;
   3 NYI BETWEEN;3 NZUQ;3 POON;3 MIEE;3 FUET;3 NAE;3 MUAE;3 GHEUAE;3 FU I;3 MVI;3 PUAQ;3 NGKUM;
   3 KUT;3 PIET;3 NTAP;3 YEUAET;3 NGGUP;3 PA PEOPLE;3 FU CALL;3 FOM;3 NJEE;3 A;3 TOQ;3 O;3 I;3 LAQ;
   3 PA PLURAL;3 TAA;3 TAQ;3 NDAA MY HOUSE;3 SHIQ;3 YEUX;3 NGUAE;3 YUAEN;3 YOQ SWIMMING;4 COVER;
   3 YUQ;3 YUN;3 KEUX;3 PEUX;3 NJEE EPOCH;3 PUE;3 WUE;3 FEE;3 VEE;3 LU;3 MI;3 REUX;3 RAE;3 NGUAET;
   3 NGA;3 SHO;3 SHOQ;3 FU REMEDY;3 NA;3 PI;3 LOQ;3 KO;3 MEN;3 MA;3 MAQ;3 TEU;3 KI;3 MON;3 TEN;
   3 FAQ;3 GHOM;2 PHASE-F KA;3 U;3 KU;3 EE;3 REE;3 TAE;3 NYI;3 LA;3 RII;3 RIEE;3 MEEEE;3 TAA;3 NDAA;
   3 NJAEM;3 M;3 SUU;3 SHII;3 SI;3 SEUX;3 KYEE;3 KET;3 NUAE;3 NU;3 NJUAE;3 YOQ;3 SHU;3 YA;3 NSHA;
   3 PEUX;3 NTEE;3 WUE;3 PEE;3 RU;3 NI;3 REUX;3 KEN;3 NGKWAEN;3 NGGA;3 SHO;3 PUAE;3 FOM;3 WA;3 LI;
   3 LOQ;3 KO;3 MBEN;3 REN;3 MA;3 MO;3 MBAA;3 TET;3 KPA;3 SAMBA;3 VUEQ;U+16A40;MRO 1 TA;2 NGI;2 YO;
   2 MIM;2 BA;2 DA;2 A;2 PHI;2 KHAI;2 HAO;2 DAI;2 CHU;2 KEAAE;2 OL;2 MAEM;2 NIN;2 PA;2 OO;2 O;2 RO;
   2 SHI;2 THEA;2 EA;2 WA;2 E;2 KO;2 LAN;2 LA;2 HAI;2 RI;2 TEK;U+16A60;1 DIGIT ZERO;2 ONE;2 TWO;
   2 THREE;2 FOUR;2 FIVE;2 SIX;2 SEVEN;2 EIGHT;2 NINE;U+16A6E;1 DANDA;1 DOUBLE DANDA;
   TANGSA LETTER OZ;2 OC;2 OQ;2 OX;2 AZ;2 AC;2 AQ;2 AX;2 VZ;2 VC;2 VQ;2 VX;2 EZ;2 EC;2 EQ;2 EX;2 IZ;
   2 IC;2 IQ;2 IX;2 UZ;2 UC;2 UQ;2 UX;2 AWZ;2 AWC;2 AWQ;2 AWX;2 UIZ;2 UIC;2 UIQ;2 UIX;2 FINAL NG;
   2 LONG UEX;2 SHORT UEZ;3 AWX;2 UEC;2 UEZ;2 UEQ;2 UEX;2 UIUZ;2 UIUC;2 UIUQ;2 UIUX;2 MZ;2 MC;2 MQ;
   2 MX;2 KA;2 KHA;2 GA;2 NGA;2 SA;2 YA;2 WA;2 PA;2 NYA;2 PHA;2 BA;2 MA;2 NA;2 HA;2 LA;2 HTA;2 TA;
   2 DA;2 RA;2 NHA;2 SHA;2 CA;2 TSA;2 GHA;2 HTTA;2 THA;2 XA;2 FA;2 DHA;2 CHA;2 ZA;U+16AC0;
   1 DIGIT ZERO;2 ONE;2 TWO;2 THREE;2 FOUR;2 FIVE;2 SIX;2 SEVEN;2 EIGHT;2 NINE;U+16AD0;
   BASSA VAH LETTER ENNI;3 KA;3 SE;3 FA;3 MBE;3 YIE;3 GAH;3 DHII;3 KPAH;3 JO;3 HWAH;3 WA;3 ZO;3 GBU;
   3 DO;3 CE;3 UWU;3 TO;3 BA;3 VU;3 YEIN;3 PA;3 WADDA;3 A;3 O;3 OO;3 U;3 EE;3 E;3 I;U+16AF0;
   2 COMBINING HIGH TONE;3 LOW 1;3 MID 1;3 LOW-MID 1;3 HIGH-LOW 1;2 FULL STOP;U+16B00;
   PAHAWH HMONG VOWEL KEEB;3 KEEV;3 KIB;3 KIV;3 KAUB;3 KAUV;3 KUB;3 KUV;3 KEB;3 KEV;3 KAIB;3 KAIV;
   3 KOOB;3 KOOV;3 KAWB;3 KAWV;3 KUAB;3 KUAV;3 KOB;3 KOV;3 KIAB;3 KIAV;3 KAB;3 KAV;3 KWB;3 KWV;
   3 KAAB;3 KAAV;2 CONSONANT VAU;3 NTSAU;3 LAU;3 HAU;3 NLAU;3 RAU;3 NKAU;3 QHAU;3 YAU;3 HLAU;3 MAU;
   3 CHAU;3 NCHAU;3 HNAU;3 PLHAU;3 NTHAU;3 NAU;3 AU;3 XAU;3 CAU;2 MARK CIM TUB;4 SO;4 KES;4 KHAV;
   4 SUAM;4 HOM;4 TAUM;2 SIGN VOS THOM;4 TSHAB CEEB;3 CIM CHEEM;3 VOS THIAB;4 FEEM;3 XYEEM NTXIV;
   4 RHO;4 TOV;4 FAIB;3 VOS SEEV;3 MEEJ SUAB;3 VOS NRUA;3 IB YAM;3 XAUS;3 CIM TSOV ROG;U+16B50;
   2 DIGIT ZERO;3 ONE;3 TWO;3 THREE;3 FOUR;3 FIVE;3 SIX;3 SEVEN;3 EIGHT;3 NINE;U+16B5B;
   2 NUMBER TENS;3 HUNDREDS;3 TEN THOUSANDS;3 MILLIONS;3 HUNDRED MILLIONS;3 TEN BILLIONS;
   3 TRILLIONS;U+16B63;2 SIGN VOS LUB;3 XYOO;3 HLI;3 THIRD-STAGE HLI;3 ZWJ THAJ;3 HNUB;3 NQIG;
   3 XIAB;3 NTUJ;3 AV;3 TXHEEJ CEEV;3 MEEJ TSEEB;3 TAU;3 LOS;3 MUS;3 CIM HAIS LUS NTOG NTOG;
   4 CUAM TSHOOJ;4 TXWV;5 CHWV;4 PUB DAWB;4 NRES TOS;U+16B7D;2 CLAN SIGN TSHEEJ;4 YEEG;4 LIS;4 LAUJ;
   4 XYOOJ;4 KOO;4 HAWJ;4 MUAS;4 THOJ;4 TSAB;4 PHAB;4 KHAB;4 HAM;4 VAJ;4 FAJ;4 YAJ;4 TSWB;4 KWM;
   4 VWJ;U+16E40;MEDEFAIDRIN CAPITAL LETTER M;3 S;3 V;3 W;3 ATIU;3 Z;3 KP;3 P;3 T;3 G;3 F;3 I;3 K;
   3 A;3 J;3 E;3 B;3 C;3 U;3 YU;3 L;3 Q;3 HP;3 NY;3 X;3 D;3 OE;3 N;3 R;3 O;3 AI;3 Y;1 SMALL 1 M;3 S;
   3 V;3 W;3 ATIU;3 Z;3 KP;3 P;3 T;3 G;3 F;3 I;3 K;3 A;3 J;3 E;3 B;3 C;3 U;3 YU;3 L;3 Q;3 HP;3 NY;
   3 X;3 D;3 OE;3 N;3 R;3 O;3 AI;3 Y;1 DIGIT ZERO;2 ONE;2 TWO;2 THREE;2 FOUR;2 FIVE;2 SIX;2 SEVEN;
   2 EIGHT;2 NINE;1 NUMBER TEN;2 ELEVEN;2 TWELVE;2 THIRTEEN;2 FOURTEEN;2 FIFTEEN;2 SIXTEEN;
   2 SEVENTEEN;2 EIGHTEEN;2 NINETEEN;1 DIGIT ONE ALTERNATE FORM;2 TWO 2;2 THREE 2;1 COMMA;
   1 FULL STOP;1 SYMBOL AIVA;1 EXCLAMATION OH;U+16F00;MIAO LETTER PA;2 BA;2 YI PA;2 PLA;2 MA;2 MHA;
   2 ARCHAIC MA;2 FA;2 VA;2 VFA;2 TA;2 DA;2 YI TTA;3 TA;2 TTA;2 DDA;2 NA;2 NHA;2 YI NNA;
   2 ARCHAIC NA;2 NNA;2 NNHA;2 LA;2 LYA;2 LHA;2 LHYA;2 TLHA;2 DLHA;2 TLHYA;2 DLHYA;2 KA;2 GA;
   2 YI KA;2 QA;2 QGA;2 NGA;2 NGHA;2 ARCHAIC NGA;2 HA;2 XA;2 GHA;2 GHHA;2 TSSA;2 DZZA;2 NYA;2 NYHA;
   2 TSHA;2 DZHA;2 YI TSHA;3 DZHA;2 REFORMED TSHA;2 SHA;2 SSA;2 ZHA;2 ZSHA;2 TSA;2 DZA;2 YI TSA;
   2 SA;2 ZA;2 ZSA;2 ZZA;2 ZZSA;2 ARCHAIC ZZA;2 ZZYA;2 ZZSYA;2 WA;2 AH;2 HHA;2 BRI;2 SYI;2 DZYI;
   2 TE;2 TSE;2 RTE;U+16F4F;1 SIGN CONSONANT MODIFIER BAR;1 LETTER NASALIZATION;1 SIGN ASPIRATION;
   2 REFORMED VOICING;3 ASPIRATION;1 VOWEL SIGN A;3 AA;3 AHH;3 AN;3 ANG;3 O;3 OO;3 WO;3 W;3 E;3 EN;
   3 ENG;3 OEY;3 I;3 IA;3 IAN;3 IANG;3 IO;3 IE;3 II;3 IU;3 ING;3 U;3 UA;3 UAN;3 UANG;3 UU;3 UEI;
   3 UNG;3 Y;3 YI;3 AE;3 AEE;3 ERR;3 ROUNDED ERR;3 ER;3 ROUNDED ER;3 AI;3 EI;3 AU;3 OU;3 N;3 NG;
   3 UOG;3 YUI;3 OG;3 OER;3 VW;3 IG;3 EA;3 IONG;3 UI;U+16F8F;1 TONE RIGHT;2 TOP RIGHT;2 ABOVE;
   2 BELOW;1 LETTER TONE-2;+6;2 REFORMED TONE-1;+1;3 TONE-4;+2;3 TONE-8;U+16FE0;
   TANGUT ITERATION MARK;NUSHU 2;OLD CHINESE HOOK MARK;2 ITERATION 1;KHITAN SMALL SCRIPT FILLER;
   U+16FF0;VIETNAMESE ALTERNATE READING MARK CA;4 NHAY;U+18800;TANGUT COMPONENT-001;+767;U+1AFF0;
   KATAKANA LETTER MINNAN TONE-2;+3;U+1AFF5;3 TONE-7;+1;3 NASALIZED TONE-1;+4;U+1AFFD;4 TONE-7;+1"

end ApiShell.Template.CharacterName
