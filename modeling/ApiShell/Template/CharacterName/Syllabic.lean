/-! Names of syllabic scripts of Africa and America, of runes, and of Khmer and Mongolian, as a
listing. -/

namespace ApiShell.Template.CharacterName

/-- Ethiopic to Mongolian. -/
def syllabic : String :=
  "U+1200;ETHIOPIC SYLLABLE HA;2 HU;2 HI;2 HAA;2 HEE;2 HE;2 HO;2 HOA;2 LA;2 LU;2 LI;2 LAA;2 LEE;
   2 LE;2 LO;2 LWA;2 HHA;2 HHU;2 HHI;2 HHAA;2 HHEE;2 HHE;2 HHO;2 HHWA;2 MA;2 MU;2 MI;2 MAA;2 MEE;
   2 ME;2 MO;2 MWA;2 SZA;2 SZU;2 SZI;2 SZAA;2 SZEE;2 SZE;2 SZO;2 SZWA;2 RA;2 RU;2 RI;2 RAA;2 REE;
   2 RE;2 RO;2 RWA;2 SA;2 SU;2 SI;2 SAA;2 SEE;2 SE;2 SO;2 SWA;2 SHA;2 SHU;2 SHI;2 SHAA;2 SHEE;2 SHE;
   2 SHO;2 SHWA;2 QA;2 QU;2 QI;2 QAA;2 QEE;2 QE;2 QO;2 QOA;2 QWA;U+124A;2 QWI;2 QWAA;2 QWEE;2 QWE;
   U+1250;2 QHA;2 QHU;2 QHI;2 QHAA;2 QHEE;2 QHE;2 QHO;U+1258;2 QHWA;U+125A;2 QHWI;2 QHWAA;2 QHWEE;
   2 QHWE;U+1260;2 BA;2 BU;2 BI;2 BAA;2 BEE;2 BE;2 BO;2 BWA;2 VA;2 VU;2 VI;2 VAA;2 VEE;2 VE;2 VO;
   2 VWA;2 TA;2 TU;2 TI;2 TAA;2 TEE;2 TE;2 TO;2 TWA;2 CA;2 CU;2 CI;2 CAA;2 CEE;2 CE;2 CO;2 CWA;2 XA;
   2 XU;2 XI;2 XAA;2 XEE;2 XE;2 XO;2 XOA;2 XWA;U+128A;2 XWI;2 XWAA;2 XWEE;2 XWE;U+1290;2 NA;2 NU;
   2 NI;2 NAA;2 NEE;2 NE;2 NO;2 NWA;2 NYA;2 NYU;2 NYI;2 NYAA;2 NYEE;2 NYE;2 NYO;2 NYWA;2 GLOTTAL A;
   3 U;3 I;3 AA;3 EE;3 E;3 O;3 WA;2 KA;2 KU;2 KI;2 KAA;2 KEE;2 KE;2 KO;2 KOA;2 KWA;U+12B2;2 KWI;
   2 KWAA;2 KWEE;2 KWE;U+12B8;2 KXA;2 KXU;2 KXI;2 KXAA;2 KXEE;2 KXE;2 KXO;U+12C0;2 KXWA;U+12C2;
   2 KXWI;2 KXWAA;2 KXWEE;2 KXWE;U+12C8;2 WA;2 WU;2 WI;2 WAA;2 WEE;2 WE;2 WO;2 WOA;2 PHARYNGEAL A;
   3 U;3 I;3 AA;3 EE;3 E;3 O;U+12D8;2 ZA;2 ZU;2 ZI;2 ZAA;2 ZEE;2 ZE;2 ZO;2 ZWA;2 ZHA;2 ZHU;2 ZHI;
   2 ZHAA;2 ZHEE;2 ZHE;2 ZHO;2 ZHWA;2 YA;2 YU;2 YI;2 YAA;2 YEE;2 YE;2 YO;2 YOA;2 DA;2 DU;2 DI;2 DAA;
   2 DEE;2 DE;2 DO;2 DWA;2 DDA;2 DDU;2 DDI;2 DDAA;2 DDEE;2 DDE;2 DDO;2 DDWA;2 JA;2 JU;2 JI;2 JAA;
   2 JEE;2 JE;2 JO;2 JWA;2 GA;2 GU;2 GI;2 GAA;2 GEE;2 GE;2 GO;2 GOA;2 GWA;U+1312;2 GWI;2 GWAA;
   2 GWEE;2 GWE;U+1318;2 GGA;2 GGU;2 GGI;2 GGAA;2 GGEE;2 GGE;2 GGO;2 GGWAA;2 THA;2 THU;2 THI;2 THAA;
   2 THEE;2 THE;2 THO;2 THWA;2 CHA;2 CHU;2 CHI;2 CHAA;2 CHEE;2 CHE;2 CHO;2 CHWA;2 PHA;2 PHU;2 PHI;
   2 PHAA;2 PHEE;2 PHE;2 PHO;2 PHWA;2 TSA;2 TSU;2 TSI;2 TSAA;2 TSEE;2 TSE;2 TSO;2 TSWA;2 TZA;2 TZU;
   2 TZI;2 TZAA;2 TZEE;2 TZE;2 TZO;2 TZOA;2 FA;2 FU;2 FI;2 FAA;2 FEE;2 FE;2 FO;2 FWA;2 PA;2 PU;2 PI;
   2 PAA;2 PEE;2 PE;2 PO;2 PWA;2 RYA;2 MYA;2 FYA;U+135D;
   1 COMBINING GEMINATION AND VOWEL LENGTH MARK;2 VOWEL LENGTH MARK;2 GEMINATION MARK;
   1 SECTION MARK;1 WORDSPACE;1 FULL STOP;1 COMMA;1 SEMICOLON;1 COLON;1 PREFACE COLON;
   1 QUESTION MARK;1 PARAGRAPH SEPARATOR;1 DIGIT ONE;2 TWO;2 THREE;2 FOUR;2 FIVE;2 SIX;2 SEVEN;
   2 EIGHT;2 NINE;1 NUMBER TEN;2 TWENTY;2 THIRTY;2 FORTY;2 FIFTY;2 SIXTY;2 SEVENTY;2 EIGHTY;
   2 NINETY;2 HUNDRED;2 TEN THOUSAND;U+1380;1 SYLLABLE SEBATBEIT MWA;2 MWI;2 MWEE;2 MWE;
   2 SEBATBEIT BWA;2 BWI;2 BWEE;2 BWE;2 SEBATBEIT FWA;2 FWI;2 FWEE;2 FWE;2 SEBATBEIT PWA;2 PWI;
   2 PWEE;2 PWE;1 TONAL MARK YIZET;3 DERET;3 RIKRIK;3 SHORT RIKRIK;3 DIFAT;3 KENAT;3 CHIRET;3 HIDET;
   3 DERET-HIDET;3 KURT;U+13A0;CHEROKEE LETTER A;2 E;2 I;2 O;2 U;2 V;2 GA;2 KA;2 GE;2 GI;2 GO;2 GU;
   2 GV;2 HA;2 HE;2 HI;2 HO;2 HU;2 HV;2 LA;2 LE;2 LI;2 LO;2 LU;2 LV;2 MA;2 ME;2 MI;2 MO;2 MU;2 NA;
   2 HNA;2 NAH;2 NE;2 NI;2 NO;2 NU;2 NV;2 QUA;2 QUE;2 QUI;2 QUO;2 QUU;2 QUV;2 SA;2 S;2 SE;2 SI;2 SO;
   2 SU;2 SV;2 DA;2 TA;2 DE;2 TE;2 DI;2 TI;2 DO;2 DU;2 DV;2 DLA;2 TLA;2 TLE;2 TLI;2 TLO;2 TLU;2 TLV;
   2 TSA;2 TSE;2 TSI;2 TSO;2 TSU;2 TSV;2 WA;2 WE;2 WI;2 WO;2 WU;2 WV;2 YA;2 YE;2 YI;2 YO;2 YU;2 YV;
   2 MV;U+13F8;1 SMALL LETTER YE;3 YI;3 YO;3 YU;3 YV;3 MV;U+1400;CANADIAN SYLLABICS HYPHEN;2 E;
   2 AAI;2 I;2 II;2 O;2 OO;2 Y-CREE OO;2 CARRIER EE;3 I;2 A;2 AA;2 WE;2 WEST-CREE WE;2 WI;
   2 WEST-CREE WI;2 WII;2 WEST-CREE WII;2 WO;2 WEST-CREE WO;2 WOO;2 WEST-CREE WOO;2 NASKAPI 1;2 WA;
   2 WEST-CREE WA;2 WAA;2 WEST-CREE WAA;2 NASKAPI 1;2 AI;2 Y-CREE W;2 GLOTTAL STOP;2 FINAL ACUTE;
   3 GRAVE;3 BOTTOM HALF RING;3 TOP 2;3 RIGHT 2;3 RING;3 DOUBLE ACUTE;4 SHORT VERTICAL STROKES;
   3 MIDDLE DOT;3 SHORT HORIZONTAL STROKE;3 PLUS;3 DOWN TACK;2 EN;2 IN;2 ON;2 AN;2 PE;2 PAAI;2 PI;
   2 PII;2 PO;2 POO;2 Y-CREE POO;2 CARRIER HEE;3 HI;2 PA;2 PAA;2 PWE;2 WEST-CREE PWE;2 PWI;
   2 WEST-CREE PWI;2 PWII;2 WEST-CREE PWII;2 PWO;2 WEST-CREE PWO;2 PWOO;2 WEST-CREE PWOO;2 PWA;
   2 WEST-CREE PWA;2 PWAA;2 WEST-CREE PWAA;2 Y-CREE 1;2 P;2 WEST-CREE P;2 CARRIER H;2 TE;2 TAAI;
   2 TI;2 TII;2 TO;2 TOO;2 Y-CREE TOO;2 CARRIER DEE;3 DI;2 TA;2 TAA;2 TWE;2 WEST-CREE TWE;2 TWI;
   2 WEST-CREE TWI;2 TWII;2 WEST-CREE TWII;2 TWO;2 WEST-CREE TWO;2 TWOO;2 WEST-CREE TWOO;2 TWA;
   2 WEST-CREE TWA;2 TWAA;2 WEST-CREE TWAA;2 NASKAPI 1;2 T;2 TTE;2 TTI;2 TTO;2 TTA;2 KE;2 KAAI;2 KI;
   2 KII;2 KO;2 KOO;2 Y-CREE KOO;2 KA;2 KAA;2 KWE;2 WEST-CREE KWE;2 KWI;2 WEST-CREE KWI;2 KWII;
   2 WEST-CREE KWII;2 KWO;2 WEST-CREE KWO;2 KWOO;2 WEST-CREE KWOO;2 KWA;2 WEST-CREE KWA;2 KWAA;
   2 WEST-CREE KWAA;2 NASKAPI 1;2 K;2 KW;2 SOUTH-SLAVEY KEH;3 KIH;3 KOH;3 KAH;2 CE;2 CAAI;2 CI;
   2 CII;2 CO;2 COO;2 Y-CREE COO;2 CA;2 CAA;2 CWE;2 WEST-CREE CWE;2 CWI;2 WEST-CREE CWI;2 CWII;
   2 WEST-CREE CWII;2 CWO;2 WEST-CREE CWO;2 CWOO;2 WEST-CREE CWOO;2 CWA;2 WEST-CREE CWA;2 CWAA;
   2 WEST-CREE CWAA;2 NASKAPI 1;2 C;2 SAYISI TH;2 ME;2 MAAI;2 MI;2 MII;2 MO;2 MOO;2 Y-CREE MOO;2 MA;
   2 MAA;2 MWE;2 WEST-CREE MWE;2 MWI;2 WEST-CREE MWI;2 MWII;2 WEST-CREE MWII;2 MWO;2 WEST-CREE MWO;
   2 MWOO;2 WEST-CREE MWOO;2 MWA;2 WEST-CREE MWA;2 MWAA;2 WEST-CREE MWAA;2 NASKAPI 1;2 M;
   2 WEST-CREE M;2 MH;2 ATHAPASCAN M;2 SAYISI 1;2 NE;2 NAAI;2 NI;2 NII;2 NO;2 NOO;2 Y-CREE NOO;2 NA;
   2 NAA;2 NWE;2 WEST-CREE NWE;2 NWA;2 WEST-CREE NWA;2 NWAA;2 WEST-CREE NWAA;2 NASKAPI 1;2 N;
   2 CARRIER NG;2 NH;2 LE;2 LAAI;2 LI;2 LII;2 LO;2 LOO;2 Y-CREE LOO;2 LA;2 LAA;2 LWE;
   2 WEST-CREE LWE;2 LWI;2 WEST-CREE LWI;2 LWII;2 WEST-CREE LWII;2 LWO;2 WEST-CREE LWO;2 LWOO;
   2 WEST-CREE LWOO;2 LWA;2 WEST-CREE LWA;2 LWAA;2 WEST-CREE LWAA;2 L;2 WEST-CREE L;2 MEDIAL 1;2 SE;
   2 SAAI;2 SI;2 SII;2 SO;2 SOO;2 Y-CREE SOO;2 SA;2 SAA;2 SWE;2 WEST-CREE SWE;2 SWI;2 WEST-CREE SWI;
   2 SWII;2 WEST-CREE SWII;2 SWO;2 WEST-CREE SWO;2 SWOO;2 WEST-CREE SWOO;2 SWA;2 WEST-CREE SWA;
   2 SWAA;2 WEST-CREE SWAA;2 NASKAPI 1;2 S;2 ATHAPASCAN S;2 SW;2 BLACKFOOT S;2 MOOSE-CREE SK;
   2 NASKAPI SKW;3 S-W;3 SPWA;3 STWA;3 SKWA;3 SCWA;2 SHE;2 SHI;2 SHII;2 SHO;2 SHOO;2 SHA;2 SHAA;
   2 SHWE;2 WEST-CREE SHWE;2 SHWI;2 WEST-CREE SHWI;2 SHWII;2 WEST-CREE SHWII;2 SHWO;
   2 WEST-CREE SHWO;2 SHWOO;2 WEST-CREE SHWOO;2 SHWA;2 WEST-CREE SHWA;2 SHWAA;2 WEST-CREE SHWAA;
   2 SH;2 YE;2 YAAI;2 YI;2 YII;2 YO;2 YOO;2 Y-CREE YOO;2 YA;2 YAA;2 YWE;2 WEST-CREE YWE;2 YWI;
   2 WEST-CREE YWI;2 YWII;2 WEST-CREE YWII;2 YWO;2 WEST-CREE YWO;2 YWOO;2 WEST-CREE YWOO;2 YWA;
   2 WEST-CREE YWA;2 YWAA;2 WEST-CREE YWAA;2 NASKAPI 1;2 Y;2 BIBLE-CREE Y;2 WEST-CREE 1;2 SAYISI YI;
   2 RE;2 R-CREE RE;2 WEST-CREE LE;2 RAAI;2 RI;2 RII;2 RO;2 ROO;2 WEST-CREE LO;2 RA;2 RAA;
   2 WEST-CREE LA;2 RWAA;2 WEST-CREE RWAA;2 R;2 WEST-CREE R;2 MEDIAL 1;2 FE;2 FAAI;2 FI;2 FII;2 FO;
   2 FOO;2 FA;2 FAA;2 FWAA;2 WEST-CREE FWAA;2 F;2 THE;2 N-CREE THE;2 THI;2 N-CREE THI;2 THII;
   2 N-CREE THII;2 THO;2 THOO;2 THA;2 THAA;2 THWAA;2 WEST-CREE THWAA;2 TH;2 TTHE;2 TTHI;2 TTHO;
   2 TTHA;2 TTH;2 TYE;2 TYI;2 TYO;2 TYA;2 NUNAVIK HE;3 HI;3 HII;3 HO;3 HOO;3 HA;3 HAA;3 H;
   2 NUNAVUT 1;2 HK;2 QAAI;2 QI;2 QII;2 QO;2 QOO;2 QA;2 QAA;2 Q;2 TLHE;2 TLHI;2 TLHO;2 TLHA;
   2 WEST-CREE RE;3 RI;3 RO;3 RA;2 NGAAI;2 NGI;2 NGII;2 NGO;2 NGOO;2 NGA;2 NGAA;2 NG;2 NNG;
   2 SAYISI SHE;3 SHI;3 SHO;3 SHA;2 WOODS-CREE THE;3 THI;3 THO;3 THA;3 TH;2 LHI;2 LHII;2 LHO;2 LHOO;
   2 LHA;2 LHAA;2 LH;2 TH-CREE THE;3 THI;3 THII;3 THO;3 THOO;3 THA;3 THAA;3 TH;2 AIVILIK B;
   2 BLACKFOOT E;3 I;3 O;3 A;3 WE;3 WI;3 WO;3 WA;3 NE;3 NI;3 NO;3 NA;3 KE;3 KI;3 KO;3 KA;
   2 SAYISI HE;3 HI;3 HO;3 HA;2 CARRIER GHU;3 GHO;3 GHE;3 GHEE;3 GHI;3 GHA;3 RU;3 RO;3 RE;3 REE;
   3 RI;3 RA;3 WU;3 WO;3 WE;3 WEE;3 WI;3 WA;3 HWU;3 HWO;3 HWE;3 HWEE;3 HWI;3 HWA;3 THU;3 THO;3 THE;
   3 THEE;3 THI;3 THA;3 TTU;3 TTO;3 TTE;3 TTEE;3 TTI;3 TTA;3 PU;3 PO;3 PE;3 PEE;3 PI;3 PA;3 P;3 GU;
   3 GO;3 GE;3 GEE;3 GI;3 GA;3 KHU;3 KHO;3 KHE;3 KHEE;3 KHI;3 KHA;3 KKU;3 KKO;3 KKE;3 KKEE;3 KKI;
   3 KKA;3 KK;3 NU;3 NO;3 NE;3 NEE;3 NI;3 NA;3 MU;3 MO;3 ME;3 MEE;3 MI;3 MA;3 YU;3 YO;3 YE;3 YEE;
   3 YI;3 YA;3 JU;2 SAYISI 1;2 CARRIER JO;3 JE;3 JEE;3 JI;2 SAYISI 1;2 CARRIER JA;3 JJU;3 JJO;3 JJE;
   3 JJEE;3 JJI;3 JJA;3 LU;3 LO;3 LE;3 LEE;3 LI;3 LA;3 DLU;3 DLO;3 DLE;3 DLEE;3 DLI;3 DLA;3 LHU;
   3 LHO;3 LHE;3 LHEE;3 LHI;3 LHA;3 TLHU;3 TLHO;3 TLHE;3 TLHEE;3 TLHI;3 TLHA;3 TLU;3 TLO;3 TLE;
   3 TLEE;3 TLI;3 TLA;3 ZU;3 ZO;3 ZE;3 ZEE;3 ZI;3 ZA;3 Z;3 INITIAL Z;3 DZU;3 DZO;3 DZE;3 DZEE;3 DZI;
   3 DZA;3 SU;3 SO;3 SE;3 SEE;3 SI;3 SA;3 SHU;3 SHO;3 SHE;3 SHEE;3 SHI;3 SHA;3 SH;3 TSU;3 TSO;3 TSE;
   3 TSEE;3 TSI;3 TSA;3 CHU;3 CHO;3 CHE;3 CHEE;3 CHI;3 CHA;3 TTSU;3 TTSO;3 TTSE;3 TTSEE;3 TTSI;
   3 TTSA;2 CHI SIGN;2 FULL STOP;2 QAI;2 NGAI;2 NNGI;2 NNGII;2 NNGO;2 NNGOO;2 NNGA;2 NNGAA;
   2 WOODS-CREE THWEE;3 THWI;3 THWII;3 THWO;3 THWOO;3 THWA;3 THWAA;3 FINAL TH;2 BLACKFOOT W;
   OGHAM SPACE MARK;1 LETTER BEITH;2 LUIS;2 FEARN;2 SAIL;2 NION;2 UATH;2 DAIR;2 TINNE;2 COLL;
   2 CEIRT;2 MUIN;2 GORT;2 NGEADAL;2 STRAIF;2 RUIS;2 AILM;2 ONN;2 UR;2 EADHADH;2 IODHADH;2 EABHADH;
   2 OR;2 UILLEANN;2 IFIN;2 EAMHANCHOLL;2 PEITH;1 FEATHER MARK;1 REVERSED FEATHER MARK;U+16A0;
   RUNIC LETTER FEHU FEOH FE F;2 V;2 URUZ UR U;2 YR;2 Y;2 W;2 THURISAZ THURS THORN;2 ETH;2 ANSUZ A;
   2 OS O;2 AC A;2 AESC;2 LONG-BRANCH-OSS O;2 SHORT-TWIG-OSS 1;2 O;2 OE;2 ON;2 RAIDO RAD REID R;
   2 KAUNA;2 CEN;2 KAUN K;2 G;2 ENG;2 GEBO GYFU G;2 GAR;2 WUNJO WYNN W;2 HAGLAZ H;2 HAEGL 1;
   2 LONG-BRANCH-HAGALL 1;2 SHORT-TWIG-HAGALL 1;2 NAUDIZ NYD NAUD N;2 SHORT-TWIG-NAUD N;2 DOTTED-N;
   2 ISAZ IS ISS I;2 E;2 JERAN J;2 GER;2 LONG-BRANCH-AR AE;2 SHORT-TWIG-AR A;2 IWAZ EOH;
   2 PERTHO PEORTH P;2 ALGIZ EOLHX;2 SOWILO S;2 SIGEL LONG-BRANCH-SOL S;2 SHORT-TWIG-SOL S;2 C;2 Z;
   2 TIWAZ TIR TYR T;2 SHORT-TWIG-TYR T;2 D;2 BERKANAN BEORC BJARKAN B;2 SHORT-TWIG-BJARKAN B;
   2 DOTTED-P;2 OPEN-P;2 EHWAZ EH E;2 MANNAZ MAN M;2 LONG-BRANCH-MADR M;2 SHORT-TWIG-MADR 1;
   2 LAUKAZ LAGU LOGR L;2 DOTTED-L;2 INGWAZ;2 ING;2 DAGAZ DAEG D;2 OTHALAN ETHEL O;2 EAR;2 IOR;
   2 CWEORTH;2 CALC;2 CEALC;2 STAN;2 LONG-BRANCH-YR;2 SHORT-TWIG-YR;2 ICELANDIC-YR;2 Q;2 X;
   1 SINGLE PUNCTUATION;1 MULTIPLE 1;1 CROSS 1;1 ARLAUG SYMBOL;1 TVIMADUR 1;1 BELGTHOR 1;1 LETTER K;
   2 SH;2 OO;2 FRANKS CASKET OS;4 IS;4 EH;4 AC;4 AESC;U+1700;TAGALOG 1 A;2 I;2 U;2 KA;2 GA;2 NGA;
   2 TA;2 DA;2 NA;2 PA;2 BA;2 MA;2 YA;2 RA;2 LA;2 WA;2 SA;2 HA;1 VOWEL SIGN I;3 U;1 SIGN VIRAMA;
   2 PAMUDPOD;U+171F;1 LETTER ARCHAIC RA;HANUNOO 1 A;2 I;2 U;2 KA;2 GA;2 NGA;2 TA;2 DA;2 NA;2 PA;
   2 BA;2 MA;2 YA;2 RA;2 LA;2 WA;2 SA;2 HA;1 VOWEL SIGN I;3 U;1 SIGN PAMUDPOD;
   PHILIPPINE SINGLE PUNCTUATION;1 DOUBLE 1;U+1740;BUHID LETTER A;2 I;2 U;2 KA;2 GA;2 NGA;2 TA;2 DA;
   2 NA;2 PA;2 BA;2 MA;2 YA;2 RA;2 LA;2 WA;2 SA;2 HA;1 VOWEL SIGN I;3 U;U+1760;TAGBANWA LETTER A;
   2 I;2 U;2 KA;2 GA;2 NGA;2 TA;2 DA;2 NA;2 PA;2 BA;2 MA;2 YA;U+176E;2 LA;2 WA;2 SA;U+1772;
   1 VOWEL SIGN I;3 U;U+1780;KHMER LETTER KA;2 KHA;2 KO;2 KHO;2 NGO;2 CA;2 CHA;2 CO;2 CHO;2 NYO;
   2 DA;2 TTHA;2 DO;2 TTHO;2 NNO;2 TA;2 THA;2 TO;2 THO;2 NO;2 BA;2 PHA;2 PO;2 PHO;2 MO;2 YO;2 RO;
   2 LO;2 VO;2 SHA;2 SSO;2 SA;2 HA;2 LA;2 QA;1 INDEPENDENT VOWEL QAQ;3 QAA;3 QI;3 QII;3 QU;3 QUK;
   3 QUU;3 QUUV;3 RY;3 RYY;3 LY;3 LYY;3 QE;3 QAI;3 QOO TYPE ONE;5 TWO;3 QAU;1 VOWEL INHERENT AQ;
   3 AA;2 SIGN 1;3 I;3 II;3 Y;3 YY;3 U;3 UU;3 UA;3 OE;3 YA;3 IE;3 E;3 AE;3 AI;3 OO;3 AU;
   1 SIGN NIKAHIT;2 REAHMUK;2 YUUKALEAPINTU;2 MUUSIKATOAN;2 TRIISAP;2 BANTOC;2 ROBAT;2 TOANDAKHIAT;
   2 KAKABAT;2 AHSDA;2 SAMYOK SANNYA;2 VIRIAM;2 COENG;2 BATHAMASAT;2 KHAN;2 BARIYOOSAN;
   2 CAMNUC PII KUUH;2 LEK TOO;2 BEYYAL;2 PHNAEK MUAN;2 KOOMUUT;1 CURRENCY SYMBOL RIEL;
   1 SIGN AVAKRAHASANYA;2 ATTHACAN;U+17E0;1 DIGIT ZERO;2 ONE;2 TWO;2 THREE;2 FOUR;2 FIVE;2 SIX;
   2 SEVEN;2 EIGHT;2 NINE;U+17F0;1 SYMBOL LEK ATTAK SON;4 MUOY;4 PII;4 BEI;4 BUON;4 PRAM;
   4 PRAM-MUOY;4 PRAM-PII;4 PRAM-BEI;4 PRAM-BUON;U+1800;MONGOLIAN BIRGA;1 ELLIPSIS;1 COMMA;
   1 FULL STOP;1 COLON;1 FOUR DOTS;1 TODO SOFT HYPHEN;1 SIBE SYLLABLE BOUNDARY MARKER;
   1 MANCHU COMMA;2 FULL STOP;1 NIRUGU;1 FREE VARIATION SELECTOR ONE;4 TWO;4 THREE;
   1 VOWEL SEPARATOR;1 FREE VARIATION SELECTOR FOUR;1 DIGIT ZERO;2 ONE;2 TWO;2 THREE;2 FOUR;2 FIVE;
   2 SIX;2 SEVEN;2 EIGHT;2 NINE;U+1820;1 LETTER A;2 E;2 I;2 O;2 U;2 OE;2 UE;2 EE;2 NA;2 ANG;2 BA;
   2 PA;2 QA;2 GA;2 MA;2 LA;2 SA;2 SHA;2 TA;2 DA;2 CHA;2 JA;2 YA;2 RA;2 WA;2 FA;2 KA;2 KHA;2 TSA;
   2 ZA;2 HAA;2 ZRA;2 LHA;2 ZHI;2 CHI;2 TODO LONG VOWEL SIGN;3 E;3 I;3 O;3 U;3 OE;3 UE;3 ANG;3 BA;
   3 PA;3 QA;3 GA;3 MA;3 TA;3 DA;3 CHA;3 JA;3 TSA;3 YA;3 WA;3 KA;3 GAA;3 HAA;3 JIA;3 NIA;3 DZA;
   2 SIBE E;3 I;3 IY;3 UE;3 U;3 ANG;3 KA;3 GA;3 HA;3 PA;3 SHA;3 TA;3 DA;3 JA;3 FA;3 GAA;3 HAA;3 TSA;
   3 ZA;3 RAA;3 CHA;3 ZHA;2 MANCHU I;3 KA;3 RA;3 FA;3 ZHA;2 CHA WITH TWO DOTS;U+1880;
   2 ALI GALI ANUSVARA ONE;4 VISARGA 1;4 DAMARU;4 UBADAMA;4 INVERTED UBADAMA;4 BALUDA;
   4 THREE BALUDA;4 A;4 I;4 KA;4 NGA;4 CA;4 TTA;4 TTHA;4 DDA;4 NNA;4 TA;4 DA;4 PA;4 PHA;4 SSA;4 ZHA;
   4 ZA;4 AH;2 TODO ALI GALI TA;5 ZHA;2 MANCHU 2 GHA;5 NGA;5 CA;5 JHA;5 TTA;5 DDHA;5 TA;5 DHA;5 SSA;
   5 CYA;5 ZHA;5 ZA;2 ALI GALI HALF U;5 YA;2 MANCHU ALI GALI BHA;2 ALI GALI DAGALGA;
   2 MANCHU ALI GALI LHA;U+18B0;CANADIAN SYLLABICS OY;2 AY;2 AAY;2 WAY;2 POY;2 PAY;2 PWOY;2 TAY;
   2 KAY;2 KWAY;2 MAY;2 NOY;2 NAY;2 LAY;2 SOY;2 SAY;2 SHOY;2 SHAY;2 SHWOY;2 YOY;2 YAY;2 RAY;2 NWI;
   2 OJIBWAY NWI;2 NWII;2 OJIBWAY NWII;2 NWO;2 OJIBWAY NWO;2 NWOO;2 OJIBWAY NWOO;2 RWEE;2 RWI;
   2 RWII;2 RWO;2 RWOO;2 RWA;2 OJIBWAY P;3 T;3 K;3 C;3 M;3 N;3 S;3 SH;2 EASTERN W;2 WESTERN 1;
   2 FINAL SMALL RING;3 RAISED DOT;2 R-CREE RWE;2 WEST-CREE LOO;3 LAA;2 THWE;2 THWA;2 TTHWE;2 TTHOO;
   2 TTHAA;2 TLHWE;2 TLHOO;2 SAYISI SHWE;3 SHOO;3 HOO;2 CARRIER GWU;3 DENE GEE;3 GAA;3 GWA;
   2 SAYISI JUU;2 CARRIER JWA;2 BEAVER DENE L;4 R;2 CARRIER DENTAL S"

end ApiShell.Template.CharacterName
