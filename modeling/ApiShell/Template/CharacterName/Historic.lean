/-! Names of historic scripts of South Asia, as a listing. -/

namespace ApiShell.Template.CharacterName

/-- Brahmi to Tamil fractions. -/
def historic : String :=
  "U+11000;BRAHMI SIGN CANDRABINDU;2 ANUSVARA;2 VISARGA;2 JIHVAMULIYA;2 UPADHMANIYA;1 LETTER A;2 AA;
   2 I;2 II;2 U;2 UU;2 VOCALIC R;3 RR;3 L;3 LL;2 E;2 AI;2 O;2 AU;2 KA;2 KHA;2 GA;2 GHA;2 NGA;2 CA;
   2 CHA;2 JA;2 JHA;2 NYA;2 TTA;2 TTHA;2 DDA;2 DDHA;2 NNA;2 TA;2 THA;2 DA;2 DHA;2 NA;2 PA;2 PHA;
   2 BA;2 BHA;2 MA;2 YA;2 RA;2 LA;2 VA;2 SHA;2 SSA;2 SA;2 HA;2 LLA;2 OLD TAMIL LLLA;4 RRA;4 NNNA;
   1 VOWEL SIGN AA;3 BHATTIPROLU AA;3 I;3 II;3 U;3 UU;3 VOCALIC R;4 RR;4 L;4 LL;3 E;3 AI;3 O;3 AU;
   1 VIRAMA;1 DANDA;1 DOUBLE DANDA;1 PUNCTUATION DOT;2 DOUBLE DOT;2 LINE;2 CRESCENT BAR;2 LOTUS;
   U+11052;1 NUMBER ONE;2 TWO;2 THREE;2 FOUR;2 FIVE;2 SIX;2 SEVEN;2 EIGHT;2 NINE;2 TEN;2 TWENTY;
   2 THIRTY;2 FORTY;2 FIFTY;2 SIXTY;2 SEVENTY;2 EIGHTY;2 NINETY;2 ONE HUNDRED;3 THOUSAND;
   1 DIGIT ZERO;2 ONE;2 TWO;2 THREE;2 FOUR;2 FIVE;2 SIX;2 SEVEN;2 EIGHT;2 NINE;
   1 SIGN OLD TAMIL VIRAMA;1 LETTER 2 SHORT E;5 O;1 VOWEL SIGN OLD TAMIL SHORT E;6 O;
   1 LETTER OLD TAMIL LLA;U+1107F;1 NUMBER JOINER;KAITHI SIGN CANDRABINDU;2 ANUSVARA;2 VISARGA;
   1 LETTER A;2 AA;2 I;2 II;2 U;2 UU;2 E;2 AI;2 O;2 AU;2 KA;2 KHA;2 GA;2 GHA;2 NGA;2 CA;2 CHA;2 JA;
   2 JHA;2 NYA;2 TTA;2 TTHA;2 DDA;2 DDDHA;2 DDHA;2 RHA;2 NNA;2 TA;2 THA;2 DA;2 DHA;2 NA;2 PA;2 PHA;
   2 BA;2 BHA;2 MA;2 YA;2 RA;2 LA;2 VA;2 SHA;2 SSA;2 SA;2 HA;1 VOWEL SIGN AA;3 I;3 II;3 U;3 UU;3 E;
   3 AI;3 O;3 AU;1 SIGN VIRAMA;2 NUKTA;1 ABBREVIATION SIGN;1 ENUMERATION 1;1 NUMBER 1;
   1 SECTION MARK;1 DOUBLE SECTION MARK;1 DANDA;1 DOUBLE DANDA;1 VOWEL SIGN VOCALIC R;U+110CD;
   1 NUMBER 1 ABOVE;U+110D0;SORA SOMPENG LETTER SAH;3 TAH;3 BAH;3 CAH;3 DAH;3 GAH;3 MAH;3 NGAH;
   3 LAH;3 NAH;3 VAH;3 PAH;3 YAH;3 RAH;3 HAH;3 KAH;3 JAH;3 NYAH;3 AH;3 EEH;3 IH;3 UH;3 OH;3 EH;
   3 MAE;U+110F0;2 DIGIT ZERO;3 ONE;3 TWO;3 THREE;3 FOUR;3 FIVE;3 SIX;3 SEVEN;3 EIGHT;3 NINE;
   U+11100;CHAKMA SIGN CANDRABINDU;2 ANUSVARA;2 VISARGA;1 LETTER AA;2 I;2 U;2 E;2 KAA;2 KHAA;2 GAA;
   2 GHAA;2 NGAA;2 CAA;2 CHAA;2 JAA;2 JHAA;2 NYAA;2 TTAA;2 TTHAA;2 DDAA;2 DDHAA;2 NNAA;2 TAA;2 THAA;
   2 DAA;2 DHAA;2 NAA;2 PAA;2 PHAA;2 BAA;2 BHAA;2 MAA;2 YYAA;2 YAA;2 RAA;2 LAA;2 WAA;2 SAA;2 HAA;
   1 VOWEL SIGN A;3 I;3 II;3 U;3 UU;3 E;3 AI;3 O;3 AU;3 OI;1 O MARK;1 AU 1;1 VIRAMA;1 MAAYYAA;
   U+11136;1 DIGIT ZERO;2 ONE;2 TWO;2 THREE;2 FOUR;2 FIVE;2 SIX;2 SEVEN;2 EIGHT;2 NINE;
   1 SECTION MARK;1 DANDA;1 DOUBLE DANDA;1 QUESTION MARK;1 LETTER LHAA;1 VOWEL SIGN AA;3 EI;
   1 LETTER VAA;U+11150;MAHAJANI 1 A;2 I;2 U;2 E;2 O;2 KA;2 KHA;2 GA;2 GHA;2 CA;2 CHA;2 JA;2 JHA;
   2 NYA;2 TTA;2 TTHA;2 DDA;2 DDHA;2 NNA;2 TA;2 THA;2 DA;2 DHA;2 NA;2 PA;2 PHA;2 BA;2 BHA;2 MA;2 RA;
   2 LA;2 VA;2 SA;2 HA;2 RRA;1 SIGN NUKTA;1 ABBREVIATION SIGN;1 SECTION MARK;1 LIGATURE SHRI;
   U+11180;SHARADA SIGN CANDRABINDU;2 ANUSVARA;2 VISARGA;1 LETTER A;2 AA;2 I;2 II;2 U;2 UU;
   2 VOCALIC R;3 RR;3 L;3 LL;2 E;2 AI;2 O;2 AU;2 KA;2 KHA;2 GA;2 GHA;2 NGA;2 CA;2 CHA;2 JA;2 JHA;
   2 NYA;2 TTA;2 TTHA;2 DDA;2 DDHA;2 NNA;2 TA;2 THA;2 DA;2 DHA;2 NA;2 PA;2 PHA;2 BA;2 BHA;2 MA;2 YA;
   2 RA;2 LA;2 LLA;2 VA;2 SHA;2 SSA;2 SA;2 HA;1 VOWEL SIGN AA;3 I;3 II;3 U;3 UU;3 VOCALIC R;4 RR;
   4 L;4 LL;3 E;3 AI;3 O;3 AU;1 SIGN VIRAMA;2 AVAGRAHA;2 JIHVAMULIYA;2 UPADHMANIYA;1 OM;1 DANDA;
   1 DOUBLE DANDA;1 ABBREVIATION SIGN;1 SEPARATOR;1 SANDHI MARK;1 SIGN NUKTA;1 VOWEL MODIFIER MARK;
   1 EXTRA SHORT VOWEL MARK;1 SUTRA MARK;1 VOWEL SIGN PRISHTHAMATRA E;1 SIGN INVERTED CANDRABINDU;
   1 DIGIT ZERO;2 ONE;2 TWO;2 THREE;2 FOUR;2 FIVE;2 SIX;2 SEVEN;2 EIGHT;2 NINE;1 EKAM;
   1 SIGN SIDDHAM;1 HEADSTROKE;1 CONTINUATION SIGN;1 SECTION MARK-1;+1;U+111E1;
   SINHALA ARCHAIC DIGIT ONE;3 TWO;3 THREE;3 FOUR;3 FIVE;3 SIX;3 SEVEN;3 EIGHT;3 NINE;2 NUMBER TEN;
   3 TWENTY;3 THIRTY;3 FORTY;3 FIFTY;3 SIXTY;3 SEVENTY;3 EIGHTY;3 NINETY;3 ONE HUNDRED;4 THOUSAND;
   U+11200;KHOJKI LETTER A;2 AA;2 I;2 U;2 E;2 AI;2 O;2 AU;2 KA;2 KHA;2 GA;2 GGA;2 GHA;2 NGA;2 CA;
   2 CHA;2 JA;2 JJA;U+11213;2 NYA;2 TTA;2 TTHA;2 DDA;2 DDHA;2 NNA;2 TA;2 THA;2 DA;2 DDDA;2 DHA;2 NA;
   2 PA;2 PHA;2 BA;2 BBA;2 BHA;2 MA;2 YA;2 RA;2 LA;2 VA;2 SA;2 HA;2 LLA;1 VOWEL SIGN AA;3 I;3 II;
   3 U;3 E;3 AI;3 O;3 AU;1 SIGN ANUSVARA;2 VIRAMA;2 NUKTA;2 SHADDA;1 DANDA;1 DOUBLE DANDA;
   1 WORD SEPARATOR;1 SECTION MARK;1 DOUBLE SECTION MARK;1 ABBREVIATION SIGN;1 SIGN SUKUN;U+11280;
   MULTANI LETTER A;2 I;2 U;2 E;2 KA;2 KHA;2 GA;U+11288;2 GHA;U+1128A;2 CA;2 CHA;2 JA;2 JJA;U+1128F;
   2 NYA;2 TTA;2 TTHA;2 DDA;2 DDDA;2 DDHA;2 NNA;2 TA;2 THA;2 DA;2 DHA;2 NA;2 PA;2 PHA;2 BA;U+1129F;
   2 BHA;2 MA;2 YA;2 RA;2 LA;2 VA;2 SA;2 HA;2 RRA;2 RHA;1 SECTION MARK;U+112B0;KHUDAWADI LETTER A;
   2 AA;2 I;2 II;2 U;2 UU;2 E;2 AI;2 O;2 AU;2 KA;2 KHA;2 GA;2 GGA;2 GHA;2 NGA;2 CA;2 CHA;2 JA;2 JJA;
   2 JHA;2 NYA;2 TTA;2 TTHA;2 DDA;2 DDDA;2 RRA;2 DDHA;2 NNA;2 TA;2 THA;2 DA;2 DHA;2 NA;2 PA;2 PHA;
   2 BA;2 BBA;2 BHA;2 MA;2 YA;2 RA;2 LA;2 VA;2 SHA;2 SA;2 HA;1 SIGN ANUSVARA;1 VOWEL SIGN AA;3 I;
   3 II;3 U;3 UU;3 E;3 AI;3 O;3 AU;1 SIGN NUKTA;2 VIRAMA;U+112F0;1 DIGIT ZERO;2 ONE;2 TWO;2 THREE;
   2 FOUR;2 FIVE;2 SIX;2 SEVEN;2 EIGHT;2 NINE;U+11300;GRANTHA SIGN COMBINING ANUSVARA ABOVE;
   2 CANDRABINDU;2 ANUSVARA;2 VISARGA;U+11305;1 LETTER A;2 AA;2 I;2 II;2 U;2 UU;2 VOCALIC R;3 L;
   U+1130F;2 EE;2 AI;U+11313;2 OO;2 AU;2 KA;2 KHA;2 GA;2 GHA;2 NGA;2 CA;2 CHA;2 JA;2 JHA;2 NYA;
   2 TTA;2 TTHA;2 DDA;2 DDHA;2 NNA;2 TA;2 THA;2 DA;2 DHA;2 NA;U+1132A;2 PA;2 PHA;2 BA;2 BHA;2 MA;
   2 YA;2 RA;U+11332;2 LA;2 LLA;U+11335;2 VA;2 SHA;2 SSA;2 SA;2 HA;U+1133B;COMBINING BINDU BELOW;
   GRANTHA SIGN NUKTA;2 AVAGRAHA;1 VOWEL SIGN AA;3 I;3 II;3 U;3 UU;3 VOCALIC R;4 RR;U+11347;3 EE;
   3 AI;U+1134B;3 OO;3 AU;1 SIGN VIRAMA;U+11350;1 OM;U+11357;1 AU LENGTH MARK;U+1135D;1 SIGN PLUTA;
   1 LETTER VEDIC ANUSVARA;3 DOUBLE ANUSVARA;2 VOCALIC RR;3 LL;1 VOWEL SIGN VOCALIC L;4 LL;U+11366;
   COMBINING GRANTHA DIGIT ZERO;3 ONE;3 TWO;3 THREE;3 FOUR;3 FIVE;3 SIX;U+11370;2 LETTER A;3 KA;
   3 NA;3 VI;3 PA;U+11400;NEWA LETTER A;2 AA;2 I;2 II;2 U;2 UU;2 VOCALIC R;3 RR;3 L;3 LL;2 E;2 AI;
   2 O;2 AU;2 KA;2 KHA;2 GA;2 GHA;2 NGA;2 NGHA;2 CA;2 CHA;2 JA;2 JHA;2 NYA;2 NYHA;2 TTA;2 TTHA;
   2 DDA;2 DDHA;2 NNA;2 TA;2 THA;2 DA;2 DHA;2 NA;2 NHA;2 PA;2 PHA;2 BA;2 BHA;2 MA;2 MHA;2 YA;2 RA;
   2 RHA;2 LA;2 LHA;2 WA;2 SHA;2 SSA;2 SA;2 HA;1 VOWEL SIGN AA;3 I;3 II;3 U;3 UU;3 VOCALIC R;4 RR;
   4 L;4 LL;3 E;3 AI;3 O;3 AU;1 SIGN VIRAMA;2 CANDRABINDU;2 ANUSVARA;2 VISARGA;2 NUKTA;2 AVAGRAHA;
   2 FINAL ANUSVARA;1 OM;1 SIDDHI;1 DANDA;1 DOUBLE DANDA;1 COMMA;1 GAP FILLER;1 ABBREVIATION SIGN;
   1 DIGIT ZERO;2 ONE;2 TWO;2 THREE;2 FOUR;2 FIVE;2 SIX;2 SEVEN;2 EIGHT;2 NINE;1 DOUBLE COMMA;
   1 PLACEHOLDER MARK;U+1145D;1 INSERTION SIGN;1 SANDHI MARK;1 LETTER VEDIC ANUSVARA;
   1 SIGN JIHVAMULIYA;2 UPADHMANIYA;U+11480;TIRHUTA ANJI;1 LETTER A;2 AA;2 I;2 II;2 U;2 UU;
   2 VOCALIC R;3 RR;3 L;3 LL;2 E;2 AI;2 O;2 AU;2 KA;2 KHA;2 GA;2 GHA;2 NGA;2 CA;2 CHA;2 JA;2 JHA;
   2 NYA;2 TTA;2 TTHA;2 DDA;2 DDHA;2 NNA;2 TA;2 THA;2 DA;2 DHA;2 NA;2 PA;2 PHA;2 BA;2 BHA;2 MA;2 YA;
   2 RA;2 LA;2 VA;2 SHA;2 SSA;2 SA;2 HA;1 VOWEL SIGN AA;3 I;3 II;3 U;3 UU;3 VOCALIC R;4 RR;4 L;4 LL;
   3 E;3 SHORT E;3 AI;3 O;3 SHORT O;3 AU;1 SIGN CANDRABINDU;2 ANUSVARA;2 VISARGA;2 VIRAMA;2 NUKTA;
   2 AVAGRAHA;1 GVANG;1 ABBREVIATION SIGN;1 OM;U+114D0;1 DIGIT ZERO;2 ONE;2 TWO;2 THREE;2 FOUR;
   2 FIVE;2 SIX;2 SEVEN;2 EIGHT;2 NINE;U+11580;SIDDHAM LETTER A;2 AA;2 I;2 II;2 U;2 UU;2 VOCALIC R;
   3 RR;3 L;3 LL;2 E;2 AI;2 O;2 AU;2 KA;2 KHA;2 GA;2 GHA;2 NGA;2 CA;2 CHA;2 JA;2 JHA;2 NYA;2 TTA;
   2 TTHA;2 DDA;2 DDHA;2 NNA;2 TA;2 THA;2 DA;2 DHA;2 NA;2 PA;2 PHA;2 BA;2 BHA;2 MA;2 YA;2 RA;2 LA;
   2 VA;2 SHA;2 SSA;2 SA;2 HA;1 VOWEL SIGN AA;3 I;3 II;3 U;3 UU;3 VOCALIC R;4 RR;U+115B8;3 E;3 AI;
   3 O;3 AU;1 SIGN CANDRABINDU;2 ANUSVARA;2 VISARGA;2 VIRAMA;2 NUKTA;2 SIDDHAM;1 DANDA;
   1 DOUBLE DANDA;1 SEPARATOR DOT;2 BAR;1 REPETITION MARK-1;+2;1 END OF TEXT MARK;
   1 SECTION MARK WITH TRIDENT AND U-SHAPED ORNAMENTS;6 DOTTED CRESCENTS;4 RAYS 3;
   7 DOUBLE CRESCENTS;7 TRIPLE 1;3 DOUBLE RING;5 WITH RAYS;3 WITH DOUBLE CRESCENTS;4 TRIPLE 1;
   4 QUADRUPLE 1;4 SEPTUPLE 1;4 CIRCLES AND RAYS;6 TWO ENCLOSURES;6 FOUR 1;
   1 LETTER THREE-CIRCLE ALTERNATE I;2 TWO-CIRCLE 2;4 II;2 ALTERNATE U;1 VOWEL SIGN ALTERNATE U;
   4 UU;U+11600;MODI LETTER A;2 AA;2 I;2 II;2 U;2 UU;2 VOCALIC R;3 RR;3 L;3 LL;2 E;2 AI;2 O;2 AU;
   2 KA;2 KHA;2 GA;2 GHA;2 NGA;2 CA;2 CHA;2 JA;2 JHA;2 NYA;2 TTA;2 TTHA;2 DDA;2 DDHA;2 NNA;2 TA;
   2 THA;2 DA;2 DHA;2 NA;2 PA;2 PHA;2 BA;2 BHA;2 MA;2 YA;2 RA;2 LA;2 VA;2 SHA;2 SSA;2 SA;2 HA;2 LLA;
   1 VOWEL SIGN AA;3 I;3 II;3 U;3 UU;3 VOCALIC R;4 RR;4 L;4 LL;3 E;3 AI;3 O;3 AU;1 SIGN ANUSVARA;
   2 VISARGA;2 VIRAMA;2 ARDHACANDRA;1 DANDA;1 DOUBLE DANDA;1 ABBREVIATION SIGN;1 SIGN HUVA;U+11650;
   1 DIGIT ZERO;2 ONE;2 TWO;2 THREE;2 FOUR;2 FIVE;2 SIX;2 SEVEN;2 EIGHT;2 NINE;U+11660;
   MONGOLIAN BIRGA WITH ORNAMENT;1 ROTATED BIRGA;1 DOUBLE 1 WITH ORNAMENT;1 TRIPLE 3;
   1 BIRGA WITH DOUBLE 1;1 ROTATED BIRGA WITH 1;4 DOUBLE ORNAMENT;1 INVERTED 1;
   3 WITH DOUBLE ORNAMENT;1 SWIRL 1;3 WITH ORNAMENT;4 DOUBLE ORNAMENT;
   1 TURNED SWIRL BIRGA WITH DOUBLE ORNAMENT;U+11680;TAKRI LETTER A;2 AA;2 I;2 II;2 U;2 UU;2 E;2 AI;
   2 O;2 AU;2 KA;2 KHA;2 GA;2 GHA;2 NGA;2 CA;2 CHA;2 JA;2 JHA;2 NYA;2 TTA;2 TTHA;2 DDA;2 DDHA;2 NNA;
   2 TA;2 THA;2 DA;2 DHA;2 NA;2 PA;2 PHA;2 BA;2 BHA;2 MA;2 YA;2 RA;2 LA;2 VA;2 SHA;2 SA;2 HA;2 RRA;
   1 SIGN ANUSVARA;2 VISARGA;1 VOWEL SIGN AA;3 I;3 II;3 U;3 UU;3 E;3 AI;3 O;3 AU;1 SIGN VIRAMA;
   2 NUKTA;1 LETTER ARCHAIC KHA;1 ABBREVIATION SIGN;U+116C0;1 DIGIT ZERO;2 ONE;2 TWO;2 THREE;2 FOUR;
   2 FIVE;2 SIX;2 SEVEN;2 EIGHT;2 NINE;U+11700;AHOM LETTER KA;2 KHA;2 NGA;2 NA;2 TA;2 ALTERNATE TA;
   2 PA;2 PHA;2 BA;2 MA;2 JA;2 CHA;2 THA;2 RA;2 LA;2 SA;2 NYA;2 HA;2 A;2 DA;2 DHA;2 GA;
   2 ALTERNATE GA;2 GHA;2 BHA;2 JHA;2 ALTERNATE BA;U+1171D;1 CONSONANT SIGN MEDIAL LA;4 RA;
   4 LIGATING RA;1 VOWEL 1 A;3 AA;3 I;3 II;3 U;3 UU;3 E;3 AW;3 O;3 AI;3 AM;1 SIGN KILLER;U+11730;
   1 DIGIT ZERO;2 ONE;2 TWO;2 THREE;2 FOUR;2 FIVE;2 SIX;2 SEVEN;2 EIGHT;2 NINE;1 NUMBER TEN;
   2 TWENTY;1 SIGN SMALL SECTION;2 SECTION;2 RULAI;1 SYMBOL VI;1 LETTER CA;2 TTA;2 TTHA;2 DDA;
   2 DDHA;2 NNA;2 LLA;U+11800;DOGRA 1 A;2 AA;2 I;2 II;2 U;2 UU;2 E;2 AI;2 O;2 AU;2 KA;2 KHA;2 GA;
   2 GHA;2 NGA;2 CA;2 CHA;2 JA;2 JHA;2 NYA;2 TTA;2 TTHA;2 DDA;2 DDHA;2 NNA;2 TA;2 THA;2 DA;2 DHA;
   2 NA;2 PA;2 PHA;2 BA;2 BHA;2 MA;2 YA;2 RA;2 LA;2 VA;2 SHA;2 SSA;2 SA;2 HA;2 RRA;1 VOWEL SIGN AA;
   3 I;3 II;3 U;3 UU;3 VOCALIC R;4 RR;3 E;3 AI;3 O;3 AU;1 SIGN ANUSVARA;2 VISARGA;2 VIRAMA;2 NUKTA;
   1 ABBREVIATION SIGN;U+118A0;WARANG CITI CAPITAL LETTER NGAA;4 A;4 WI;4 YU;4 YA;4 YO;4 II;4 UU;
   4 E;4 O;4 ANG;4 GA;4 KO;4 ENY;4 YUJ;4 UC;4 ENN;4 ODD;4 TTE;4 NUNG;4 DA;4 AT;4 AM;4 BU;4 PU;
   4 HIYO;4 HOLO;4 HORR;4 HAR;4 SSUU;4 SII;4 VIYO;2 SMALL 1 NGAA;4 A;4 WI;4 YU;4 YA;4 YO;4 II;4 UU;
   4 E;4 O;4 ANG;4 GA;4 KO;4 ENY;4 YUJ;4 UC;4 ENN;4 ODD;4 TTE;4 NUNG;4 DA;4 AT;4 AM;4 BU;4 PU;
   4 HIYO;4 HOLO;4 HORR;4 HAR;4 SSUU;4 SII;4 VIYO;2 DIGIT ZERO;3 ONE;3 TWO;3 THREE;3 FOUR;3 FIVE;
   3 SIX;3 SEVEN;3 EIGHT;3 NINE;2 NUMBER TEN;3 TWENTY;3 THIRTY;3 FORTY;3 FIFTY;3 SIXTY;3 SEVENTY;
   3 EIGHTY;3 NINETY;U+118FF;2 OM;DIVES AKURU LETTER A;3 AA;3 I;3 II;3 U;3 UU;3 E;U+11909;3 O;
   U+1190C;3 KA;3 KHA;3 GA;3 GHA;3 NGA;3 CA;3 CHA;3 JA;U+11915;3 NYA;3 TTA;U+11918;3 DDA;3 DDHA;
   3 NNA;3 TA;3 THA;3 DA;3 DHA;3 NA;3 PA;3 PHA;3 BA;3 BHA;3 MA;3 YA;3 YYA;3 RA;3 LA;3 VA;3 SHA;
   3 SSA;3 SA;3 HA;3 LLA;3 ZA;2 VOWEL SIGN AA;4 I;4 II;4 U;4 UU;4 E;U+11937;4 AI;4 O;U+1193B;
   2 SIGN ANUSVARA;3 CANDRABINDU;3 HALANTA;2 VIRAMA;2 PREFIXED NASAL SIGN;2 MEDIAL YA;2 INITIAL RA;
   2 MEDIAL 1;2 SIGN NUKTA;2 DOUBLE DANDA;2 GAP FILLER;2 END OF TEXT MARK;U+11950;2 DIGIT ZERO;
   3 ONE;3 TWO;3 THREE;3 FOUR;3 FIVE;3 SIX;3 SEVEN;3 EIGHT;3 NINE;U+119A0;NANDINAGARI LETTER A;2 AA;
   2 I;2 II;2 U;2 UU;2 VOCALIC R;3 RR;U+119AA;2 E;2 AI;2 O;2 AU;2 KA;2 KHA;2 GA;2 GHA;2 NGA;2 CA;
   2 CHA;2 JA;2 JHA;2 NYA;2 TTA;2 TTHA;2 DDA;2 DDHA;2 NNA;2 TA;2 THA;2 DA;2 DHA;2 NA;2 PA;2 PHA;
   2 BA;2 BHA;2 MA;2 YA;2 RA;2 LA;2 VA;2 SHA;2 SSA;2 SA;2 HA;2 LLA;2 RRA;1 VOWEL SIGN AA;3 I;3 II;
   3 U;3 UU;3 VOCALIC R;4 RR;U+119DA;3 E;3 AI;3 O;3 AU;1 SIGN ANUSVARA;2 VISARGA;2 VIRAMA;
   2 AVAGRAHA;2 SIDDHAM;1 HEADSTROKE;1 VOWEL SIGN PRISHTHAMATRA E;U+11A00;ZANABAZAR SQUARE LETTER A;
   2 VOWEL SIGN I;4 UE;4 U;4 E;4 OE;4 O;4 AI;4 AU;4 REVERSED I;3 LENGTH MARK;2 LETTER KA;3 KHA;3 GA;
   3 GHA;3 NGA;3 CA;3 CHA;3 JA;3 NYA;3 TTA;3 TTHA;3 DDA;3 DDHA;3 NNA;3 TA;3 THA;3 DA;3 DHA;3 NA;
   3 PA;3 PHA;3 BA;3 BHA;3 MA;3 TSA;3 TSHA;3 DZA;3 DZHA;3 ZHA;3 ZA;3 -A;3 YA;3 RA;3 LA;3 VA;3 SHA;
   3 SSA;3 SA;3 HA;3 KSSA;2 FINAL CONSONANT MARK;2 SIGN VIRAMA;3 CANDRABINDU;4 WITH ORNAMENT;
   3 CANDRA 2;3 ANUSVARA;3 VISARGA;2 CLUSTER-INITIAL LETTER RA;2 CLUSTER-FINAL 1 YA;4 RA;4 LA;4 VA;
   2 INITIAL HEAD MARK;2 CLOSING 2;2 MARK TSHEG;3 SHAD;3 DOUBLE SHAD;3 LONG TSHEG;
   2 INITIAL DOUBLE-LINED HEAD MARK;2 CLOSING 3;2 SUBJOINER;U+11A50;SOYOMBO LETTER A;1 VOWEL SIGN I;
   3 UE;3 U;3 E;3 O;3 OE;3 AI;3 AU;3 VOCALIC R;4 L;2 LENGTH MARK;1 LETTER KA;2 KHA;2 GA;2 GHA;2 NGA;
   2 CA;2 CHA;2 JA;2 JHA;2 NYA;2 TTA;2 TTHA;2 DDA;2 DDHA;2 NNA;2 TA;2 THA;2 DA;2 DHA;2 NA;2 PA;
   2 PHA;2 BA;2 BHA;2 MA;2 TSA;2 TSHA;2 DZA;2 ZHA;2 ZA;2 -A;2 YA;2 RA;2 LA;2 VA;2 SHA;2 SSA;2 SA;
   2 HA;2 KSSA;1 SIGN JIHVAMULIYA;2 UPADHMANIYA;1 CLUSTER-INITIAL LETTER RA;3 LA;3 SHA;3 SA;
   1 FINAL CONSONANT SIGN G;4 K;4 NG;4 D;4 N;4 B;4 M;4 R;4 L;4 SH;4 S;4 -A;1 SIGN ANUSVARA;
   2 VISARGA;1 GEMINATION MARK;1 SUBJOINER;1 MARK TSHEG;2 SHAD;2 DOUBLE SHAD;2 PLUTA;
   1 HEAD MARK WITH MOON AND SUN AND TRIPLE FLAME;8 FLAME;7;1 TERMINAL MARK-1;+1;U+11AB0;
   CANADIAN SYLLABICS NATTILIK HI;3 HII;3 HO;3 HOO;3 HA;3 HAA;3 SHRI;3 SHRII;3 SHRO;3 SHROO;3 SHRA;
   3 SHRAA;2 SPE;2 SPI;2 SPO;2 SPA;PAU CIN HAU LETTER PA;4 KA;4 LA;4 MA;4 DA;4 ZA;4 VA;4 NGA;4 HA;
   4 GA;4 KHA;4 SA;4 BA;4 CA;4 TA;4 THA;4 NA;4 PHA;4 RA;4 FA;4 CHA;4 A;4 E;4 I;4 O;4 U;4 UA;4 IA;
   4 FINAL P;5 K;5 T;5 M;5 N;5 L;5 W;5 NG;5 Y;3 RISING TONE LONG;5;3 SANDHI GLOTTAL STOP;
   3 RISING TONE LONG FINAL;5 FINAL;3 SANDHI GLOTTAL STOP FINAL;4 TONE LONG;5;5 LONG FINAL;5 FINAL;
   3 MID-LEVEL 1;3 GLOTTAL STOP VARIANT;3 MID-LEVEL TONE LONG FINAL;5 FINAL;3 LOW-FALLING 1 LONG;5;
   3 GLOTTAL STOP;3 LOW-FALLING TONE LONG FINAL;5 FINAL;3 GLOTTAL STOP 1;U+11C00;BHAIKSUKI LETTER A;
   2 AA;2 I;2 II;2 U;2 UU;2 VOCALIC R;3 RR;3 L;U+11C0A;2 E;2 AI;2 O;2 AU;2 KA;2 KHA;2 GA;2 GHA;
   2 NGA;2 CA;2 CHA;2 JA;2 JHA;2 NYA;2 TTA;2 TTHA;2 DDA;2 DDHA;2 NNA;2 TA;2 THA;2 DA;2 DHA;2 NA;
   2 PA;2 PHA;2 BA;2 BHA;2 MA;2 YA;2 RA;2 LA;2 VA;2 SHA;2 SSA;2 SA;2 HA;1 VOWEL SIGN AA;3 I;3 II;
   3 U;3 UU;3 VOCALIC R;4 RR;4 L;U+11C38;3 E;3 AI;3 O;3 AU;1 SIGN CANDRABINDU;2 ANUSVARA;2 VISARGA;
   2 VIRAMA;2 AVAGRAHA;1 DANDA;1 DOUBLE DANDA;1 WORD SEPARATOR;1 GAP FILLER-1;+1;U+11C50;
   1 DIGIT ZERO;2 ONE;2 TWO;2 THREE;2 FOUR;2 FIVE;2 SIX;2 SEVEN;2 EIGHT;2 NINE;1 NUMBER ONE;2 TWO;
   2 THREE;2 FOUR;2 FIVE;2 SIX;2 SEVEN;2 EIGHT;2 NINE;2 TEN;2 TWENTY;2 THIRTY;2 FORTY;2 FIFTY;
   2 SIXTY;2 SEVENTY;2 EIGHTY;2 NINETY;1 HUNDREDS UNIT MARK;U+11C70;MARCHEN HEAD MARK;1 MARK SHAD;
   1 LETTER KA;2 KHA;2 GA;2 NGA;2 CA;2 CHA;2 JA;2 NYA;2 TA;2 THA;2 DA;2 NA;2 PA;2 PHA;2 BA;2 MA;
   2 TSA;2 TSHA;2 DZA;2 WA;2 ZHA;2 ZA;2 -A;2 YA;2 RA;2 LA;2 SHA;2 SA;2 HA;2 A;U+11C92;
   1 SUBJOINED LETTER KA;3 KHA;3 GA;3 NGA;3 CA;3 CHA;3 JA;3 NYA;3 TA;3 THA;3 DA;3 NA;3 PA;3 PHA;
   3 BA;3 MA;3 TSA;3 TSHA;3 DZA;3 WA;3 ZHA;3 ZA;U+11CA9;3 YA;3 RA;3 LA;3 SHA;3 SA;3 HA;3 A;
   1 VOWEL SIGN AA;3 I;3 U;3 E;3 O;1 SIGN ANUSVARA;2 CANDRABINDU;U+11D00;MASARAM GONDI LETTER A;
   3 AA;3 I;3 II;3 U;3 UU;3 E;U+11D08;3 AI;3 O;U+11D0B;3 AU;3 KA;3 KHA;3 GA;3 GHA;3 NGA;3 CA;3 CHA;
   3 JA;3 JHA;3 NYA;3 TTA;3 TTHA;3 DDA;3 DDHA;3 NNA;3 TA;3 THA;3 DA;3 DHA;3 NA;3 PA;3 PHA;3 BA;
   3 BHA;3 MA;3 YA;3 RA;3 LA;3 VA;3 SHA;3 SSA;3 SA;3 HA;3 LLA;3 KSSA;3 JNYA;3 TRA;2 VOWEL SIGN AA;
   4 I;4 II;4 U;4 UU;4 VOCALIC R;U+11D3A;4 E;U+11D3C;4 AI;4 O;U+11D3F;4 AU;2 SIGN ANUSVARA;
   3 VISARGA;3 NUKTA;3 CANDRA;3 HALANTA;2 VIRAMA;2 REPHA;2 RA-KARA;U+11D50;2 DIGIT ZERO;3 ONE;3 TWO;
   3 THREE;3 FOUR;3 FIVE;3 SIX;3 SEVEN;3 EIGHT;3 NINE;U+11D60;GUNJALA 1 LETTER A;3 AA;3 I;3 II;3 U;
   3 UU;U+11D67;3 EE;3 AI;U+11D6A;3 OO;3 AU;3 YA;3 VA;3 BA;3 BHA;3 MA;3 KA;3 KHA;3 TA;3 THA;3 LA;
   3 GA;3 GHA;3 DA;3 DHA;3 NA;3 CA;3 CHA;3 TTA;3 TTHA;3 LLA;3 JA;3 JHA;3 DDA;3 DDHA;3 NGA;3 PA;
   3 PHA;3 HA;3 RA;3 SA;2 VOWEL SIGN AA;4 I;4 II;4 U;4 UU;U+11D90;4 EE;4 AI;U+11D93;4 OO;4 AU;
   2 SIGN ANUSVARA;3 VISARGA;2 VIRAMA;2 OM;U+11DA0;2 DIGIT ZERO;3 ONE;3 TWO;3 THREE;3 FOUR;3 FIVE;
   3 SIX;3 SEVEN;3 EIGHT;3 NINE;U+11EE0;MAKASAR LETTER KA;2 GA;2 NGA;2 PA;2 BA;2 MA;2 TA;2 DA;2 NA;
   2 CA;2 JA;2 NYA;2 YA;2 RA;2 LA;2 VA;2 SA;2 A;1 ANGKA;1 VOWEL SIGN I;3 U;3 E;3 O;1 PASSIMBANG;
   1 END OF SECTION;U+11FB0;LISU LETTER YHA;U+11FC0;TAMIL FRACTION ONE THREE-HUNDRED-AND-TWENTIETH;
   3 ONE-HUNDRED-AND-SIXTIETH;3 EIGHTIETH;3 SIXTY-FOURTH;3 FORTIETH;3 THIRTY-SECOND;
   2 THREE EIGHTIETHS;3 SIXTY-FOURTHS;2 ONE TWENTIETH;3 SIXTEENTH-1;+1;3 TENTH;3 EIGHTH;
   2 THREE TWENTIETHS;3 SIXTEENTHS;2 ONE FIFTH;3 QUARTER;3 HALF-1;+1;2 THREE QUARTERS;
   2 DOWNSCALING FACTOR KIIZH;1 SIGN NEL;2 CEVITU;2 AAZHAAKKU;2 UZHAKKU;2 MUUVUZHAKKU;2 KURUNI;
   2 PATHAKKU;2 MUKKURUNI;2 KAACU;2 PANAM;2 PON;2 VARAAKAN;2 PAARAM;2 KUZHI;2 VELI;
   1 WET CULTIVATION SIGN;1 DRY 2;1 LAND SIGN;1 SALT PAN SIGN;1 TRADITIONAL CREDIT 1;2 NUMBER 1;
   1 CURRENT SIGN;1 AND ODD SIGN;1 SPENT SIGN;1 TOTAL 1;1 IN POSSESSION SIGN;1 STARTING FROM 1;
   1 SIGN MUTHALIYA;2 VAKAIYARAA;U+11FFF;1 PUNCTUATION END OF TEXT"

end ApiShell.Template.CharacterName
