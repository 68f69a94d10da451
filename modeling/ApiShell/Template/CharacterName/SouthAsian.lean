/-! Names of the scripts of India and Sri Lanka, as a listing. -/

namespace ApiShell.Template.CharacterName

/-- Devanagari to Sinhala. -/
def southAsian : String :=
  "U+0900;DEVANAGARI SIGN INVERTED CANDRABINDU;2 CANDRABINDU;2 ANUSVARA;2 VISARGA;1 LETTER SHORT A;
   2 A;2 AA;2 I;2 II;2 U;2 UU;2 VOCALIC R;3 L;2 CANDRA E;2 SHORT 1;2 E;2 AI;2 CANDRA O;2 SHORT 1;
   2 O;2 AU;2 KA;2 KHA;2 GA;2 GHA;2 NGA;2 CA;2 CHA;2 JA;2 JHA;2 NYA;2 TTA;2 TTHA;2 DDA;2 DDHA;2 NNA;
   2 TA;2 THA;2 DA;2 DHA;2 NA;2 NNNA;2 PA;2 PHA;2 BA;2 BHA;2 MA;2 YA;2 RA;2 RRA;2 LA;2 LLA;2 LLLA;
   2 VA;2 SHA;2 SSA;2 SA;2 HA;1 VOWEL SIGN OE;3 OOE;1 SIGN NUKTA;2 AVAGRAHA;1 VOWEL SIGN AA;3 I;
   3 II;3 U;3 UU;3 VOCALIC R;4 RR;3 CANDRA E;3 SHORT 1;3 E;3 AI;3 CANDRA O;3 SHORT 1;3 O;3 AU;
   1 SIGN VIRAMA;1 VOWEL SIGN PRISHTHAMATRA E;3 AW;1 OM;1 STRESS SIGN UDATTA;3 ANUDATTA;
   1 GRAVE ACCENT;1 ACUTE 1;1 VOWEL SIGN CANDRA LONG E;3 UE;3 UUE;1 LETTER QA;2 KHHA;2 GHHA;2 ZA;
   2 DDDHA;2 RHA;2 FA;2 YYA;2 VOCALIC RR;3 LL;1 VOWEL SIGN VOCALIC L;4 LL;1 DANDA;1 DOUBLE DANDA;
   1 DIGIT ZERO;2 ONE;2 TWO;2 THREE;2 FOUR;2 FIVE;2 SIX;2 SEVEN;2 EIGHT;2 NINE;1 ABBREVIATION SIGN;
   1 SIGN HIGH SPACING DOT;1 LETTER CANDRA A;2 OE;2 OOE;2 AW;2 UE;2 UUE;2 MARWARI DDA;2 ZHA;
   2 HEAVY YA;2 GGA;2 JJA;2 GLOTTAL STOP;2 DDDA;2 BBA;BENGALI ANJI;1 SIGN CANDRABINDU;2 ANUSVARA;
   2 VISARGA;U+0985;1 LETTER A;2 AA;2 I;2 II;2 U;2 UU;2 VOCALIC R;3 L;U+098F;2 E;2 AI;U+0993;2 O;
   2 AU;2 KA;2 KHA;2 GA;2 GHA;2 NGA;2 CA;2 CHA;2 JA;2 JHA;2 NYA;2 TTA;2 TTHA;2 DDA;2 DDHA;2 NNA;
   2 TA;2 THA;2 DA;2 DHA;2 NA;U+09AA;2 PA;2 PHA;2 BA;2 BHA;2 MA;2 YA;2 RA;U+09B2;2 LA;U+09B6;2 SHA;
   2 SSA;2 SA;2 HA;U+09BC;1 SIGN NUKTA;2 AVAGRAHA;1 VOWEL SIGN AA;3 I;3 II;3 U;3 UU;3 VOCALIC R;
   4 RR;U+09C7;3 E;3 AI;U+09CB;3 O;3 AU;1 SIGN VIRAMA;1 LETTER KHANDA TA;U+09D7;1 AU LENGTH MARK;
   U+09DC;1 LETTER RRA;2 RHA;U+09DF;2 YYA;2 VOCALIC RR;3 LL;1 VOWEL SIGN VOCALIC L;4 LL;U+09E6;
   1 DIGIT ZERO;2 ONE;2 TWO;2 THREE;2 FOUR;2 FIVE;2 SIX;2 SEVEN;2 EIGHT;2 NINE;
   1 LETTER RA WITH MIDDLE DIAGONAL;4 LOWER 1;1 RUPEE MARK;2 SIGN;1 CURRENCY NUMERATOR ONE;3 TWO;
   3 THREE;3 FOUR;3 ONE LESS THAN THE DENOMINATOR;2 DENOMINATOR SIXTEEN;1 ISSHAR;1 GANDA MARK;
   1 LETTER VEDIC ANUSVARA;1 ABBREVIATION SIGN;1 SANDHI MARK;U+0A01;GURMUKHI SIGN ADAK BINDI;
   2 BINDI;2 VISARGA;U+0A05;1 LETTER A;2 AA;2 I;2 II;2 U;2 UU;U+0A0F;2 EE;2 AI;U+0A13;2 OO;2 AU;
   2 KA;2 KHA;2 GA;2 GHA;2 NGA;2 CA;2 CHA;2 JA;2 JHA;2 NYA;2 TTA;2 TTHA;2 DDA;2 DDHA;2 NNA;2 TA;
   2 THA;2 DA;2 DHA;2 NA;U+0A2A;2 PA;2 PHA;2 BA;2 BHA;2 MA;2 YA;2 RA;U+0A32;2 LA;2 LLA;U+0A35;2 VA;
   2 SHA;U+0A38;2 SA;2 HA;U+0A3C;1 SIGN NUKTA;U+0A3E;1 VOWEL SIGN AA;3 I;3 II;3 U;3 UU;U+0A47;3 EE;
   3 AI;U+0A4B;3 OO;3 AU;1 SIGN VIRAMA;U+0A51;2 UDAAT;U+0A59;1 LETTER KHHA;2 GHHA;2 ZA;2 RRA;U+0A5E;
   2 FA;U+0A66;1 DIGIT ZERO;2 ONE;2 TWO;2 THREE;2 FOUR;2 FIVE;2 SIX;2 SEVEN;2 EIGHT;2 NINE;1 TIPPI;
   1 ADDAK;1 IRI;1 URA;1 EK ONKAR;1 SIGN YAKASH;1 ABBREVIATION SIGN;U+0A81;
   GUJARATI SIGN CANDRABINDU;2 ANUSVARA;2 VISARGA;U+0A85;1 LETTER A;2 AA;2 I;2 II;2 U;2 UU;
   2 VOCALIC R;3 L;1 VOWEL CANDRA E;U+0A8F;1 LETTER E;2 AI;1 VOWEL CANDRA O;U+0A93;1 LETTER O;2 AU;
   2 KA;2 KHA;2 GA;2 GHA;2 NGA;2 CA;2 CHA;2 JA;2 JHA;2 NYA;2 TTA;2 TTHA;2 DDA;2 DDHA;2 NNA;2 TA;
   2 THA;2 DA;2 DHA;2 NA;U+0AAA;2 PA;2 PHA;2 BA;2 BHA;2 MA;2 YA;2 RA;U+0AB2;2 LA;2 LLA;U+0AB5;2 VA;
   2 SHA;2 SSA;2 SA;2 HA;U+0ABC;1 SIGN NUKTA;2 AVAGRAHA;1 VOWEL SIGN AA;3 I;3 II;3 U;3 UU;
   3 VOCALIC R;4 RR;3 CANDRA E;U+0AC7;3 E;3 AI;3 CANDRA O;U+0ACB;3 O;3 AU;1 SIGN VIRAMA;U+0AD0;1 OM;
   U+0AE0;1 LETTER VOCALIC RR;3 LL;1 VOWEL SIGN VOCALIC L;4 LL;U+0AE6;1 DIGIT ZERO;2 ONE;2 TWO;
   2 THREE;2 FOUR;2 FIVE;2 SIX;2 SEVEN;2 EIGHT;2 NINE;1 ABBREVIATION SIGN;1 RUPEE 1;U+0AF9;
   1 LETTER ZHA;1 SIGN SUKUN;2 SHADDA;2 MADDAH;2 THREE-DOT NUKTA ABOVE;2 CIRCLE 2;2 TWO-CIRCLE 2;
   U+0B01;ORIYA 1 CANDRABINDU;2 ANUSVARA;2 VISARGA;U+0B05;1 LETTER A;2 AA;2 I;2 II;2 U;2 UU;
   2 VOCALIC R;3 L;U+0B0F;2 E;2 AI;U+0B13;2 O;2 AU;2 KA;2 KHA;2 GA;2 GHA;2 NGA;2 CA;2 CHA;2 JA;
   2 JHA;2 NYA;2 TTA;2 TTHA;2 DDA;2 DDHA;2 NNA;2 TA;2 THA;2 DA;2 DHA;2 NA;U+0B2A;2 PA;2 PHA;2 BA;
   2 BHA;2 MA;2 YA;2 RA;U+0B32;2 LA;2 LLA;U+0B35;2 VA;2 SHA;2 SSA;2 SA;2 HA;U+0B3C;1 SIGN NUKTA;
   2 AVAGRAHA;1 VOWEL SIGN AA;3 I;3 II;3 U;3 UU;3 VOCALIC R;4 RR;U+0B47;3 E;3 AI;U+0B4B;3 O;3 AU;
   1 SIGN VIRAMA;U+0B55;2 OVERLINE;1 AI LENGTH MARK;1 AU 2;U+0B5C;1 LETTER RRA;2 RHA;U+0B5F;2 YYA;
   2 VOCALIC RR;3 LL;1 VOWEL SIGN VOCALIC L;4 LL;U+0B66;1 DIGIT ZERO;2 ONE;2 TWO;2 THREE;2 FOUR;
   2 FIVE;2 SIX;2 SEVEN;2 EIGHT;2 NINE;1 ISSHAR;1 LETTER WA;1 FRACTION ONE QUARTER;3 HALF;
   2 THREE QUARTERS;2 ONE SIXTEENTH;3 EIGHTH;2 THREE SIXTEENTHS;U+0B82;TAMIL SIGN ANUSVARA;
   2 VISARGA;U+0B85;1 LETTER A;2 AA;2 I;2 II;2 U;2 UU;U+0B8E;2 E;2 EE;2 AI;U+0B92;2 O;2 OO;2 AU;
   2 KA;U+0B99;2 NGA;2 CA;U+0B9C;2 JA;U+0B9E;2 NYA;2 TTA;U+0BA3;2 NNA;2 TA;U+0BA8;2 NA;2 NNNA;2 PA;
   U+0BAE;2 MA;2 YA;2 RA;2 RRA;2 LA;2 LLA;2 LLLA;2 VA;2 SHA;2 SSA;2 SA;2 HA;U+0BBE;1 VOWEL SIGN AA;
   3 I;3 II;3 U;3 UU;U+0BC6;3 E;3 EE;3 AI;U+0BCA;3 O;3 OO;3 AU;1 SIGN VIRAMA;U+0BD0;1 OM;U+0BD7;
   1 AU LENGTH MARK;U+0BE6;1 DIGIT ZERO;2 ONE;2 TWO;2 THREE;2 FOUR;2 FIVE;2 SIX;2 SEVEN;2 EIGHT;
   2 NINE;1 NUMBER TEN;2 ONE HUNDRED;3 THOUSAND;1 DAY SIGN;1 MONTH 1;1 YEAR 1;1 DEBIT 1;1 CREDIT 1;
   1 AS ABOVE SIGN;1 RUPEE SIGN;1 NUMBER 1;U+0C00;TELUGU SIGN COMBINING CANDRABINDU ABOVE;
   2 CANDRABINDU;2 ANUSVARA;2 VISARGA;2 COMBINING ANUSVARA ABOVE;1 LETTER A;2 AA;2 I;2 II;2 U;2 UU;
   2 VOCALIC R;3 L;U+0C0E;2 E;2 EE;2 AI;U+0C12;2 O;2 OO;2 AU;2 KA;2 KHA;2 GA;2 GHA;2 NGA;2 CA;2 CHA;
   2 JA;2 JHA;2 NYA;2 TTA;2 TTHA;2 DDA;2 DDHA;2 NNA;2 TA;2 THA;2 DA;2 DHA;2 NA;U+0C2A;2 PA;2 PHA;
   2 BA;2 BHA;2 MA;2 YA;2 RA;2 RRA;2 LA;2 LLA;2 LLLA;2 VA;2 SHA;2 SSA;2 SA;2 HA;U+0C3C;1 SIGN NUKTA;
   2 AVAGRAHA;1 VOWEL SIGN AA;3 I;3 II;3 U;3 UU;3 VOCALIC R;4 RR;U+0C46;3 E;3 EE;3 AI;U+0C4A;3 O;
   3 OO;3 AU;1 SIGN VIRAMA;U+0C55;1 LENGTH MARK;1 AI LENGTH MARK;U+0C58;1 LETTER TSA;2 DZA;2 RRRA;
   U+0C5D;2 NAKAARA POLLU;U+0C60;2 VOCALIC RR;3 LL;1 VOWEL SIGN VOCALIC L;4 LL;U+0C66;1 DIGIT ZERO;
   2 ONE;2 TWO;2 THREE;2 FOUR;2 FIVE;2 SIX;2 SEVEN;2 EIGHT;2 NINE;U+0C77;1 SIGN SIDDHAM;
   1 FRACTION DIGIT ZERO FOR ODD POWERS OF FOUR;3 ONE 5;3 TWO 5;3 THREE 5;3 ONE 1 EVEN 3;3 TWO 5;
   3 THREE 5;1 SIGN TUUMU;KANNADA 1 SPACING CANDRABINDU;2 CANDRABINDU;2 ANUSVARA;2 VISARGA;
   2 SIDDHAM;1 LETTER A;2 AA;2 I;2 II;2 U;2 UU;2 VOCALIC R;3 L;U+0C8E;2 E;2 EE;2 AI;U+0C92;2 O;2 OO;
   2 AU;2 KA;2 KHA;2 GA;2 GHA;2 NGA;2 CA;2 CHA;2 JA;2 JHA;2 NYA;2 TTA;2 TTHA;2 DDA;2 DDHA;2 NNA;
   2 TA;2 THA;2 DA;2 DHA;2 NA;U+0CAA;2 PA;2 PHA;2 BA;2 BHA;2 MA;2 YA;2 RA;2 RRA;2 LA;2 LLA;U+0CB5;
   2 VA;2 SHA;2 SSA;2 SA;2 HA;U+0CBC;1 SIGN NUKTA;2 AVAGRAHA;1 VOWEL SIGN AA;3 I;3 II;3 U;3 UU;
   3 VOCALIC R;4 RR;U+0CC6;3 E;3 EE;3 AI;U+0CCA;3 O;3 OO;3 AU;1 SIGN VIRAMA;U+0CD5;1 LENGTH MARK;
   1 AI LENGTH MARK;U+0CDD;1 LETTER NAKAARA POLLU;2 FA;U+0CE0;2 VOCALIC RR;3 LL;
   1 VOWEL SIGN VOCALIC L;4 LL;U+0CE6;1 DIGIT ZERO;2 ONE;2 TWO;2 THREE;2 FOUR;2 FIVE;2 SIX;2 SEVEN;
   2 EIGHT;2 NINE;U+0CF1;1 SIGN JIHVAMULIYA;2 UPADHMANIYA;U+0D00;
   MALAYALAM 1 COMBINING ANUSVARA ABOVE;2 CANDRABINDU;2 ANUSVARA;2 VISARGA;1 LETTER VEDIC ANUSVARA;
   2 A;2 AA;2 I;2 II;2 U;2 UU;2 VOCALIC R;3 L;U+0D0E;2 E;2 EE;2 AI;U+0D12;2 O;2 OO;2 AU;2 KA;2 KHA;
   2 GA;2 GHA;2 NGA;2 CA;2 CHA;2 JA;2 JHA;2 NYA;2 TTA;2 TTHA;2 DDA;2 DDHA;2 NNA;2 TA;2 THA;2 DA;
   2 DHA;2 NA;2 NNNA;2 PA;2 PHA;2 BA;2 BHA;2 MA;2 YA;2 RA;2 RRA;2 LA;2 LLA;2 LLLA;2 VA;2 SHA;2 SSA;
   2 SA;2 HA;2 TTTA;1 SIGN VERTICAL BAR VIRAMA;2 CIRCULAR VIRAMA;2 AVAGRAHA;1 VOWEL SIGN AA;3 I;
   3 II;3 U;3 UU;3 VOCALIC R;4 RR;U+0D46;3 E;3 EE;3 AI;U+0D4A;3 O;3 OO;3 AU;1 SIGN VIRAMA;
   1 LETTER DOT REPH;1 SIGN PARA;U+0D54;1 LETTER CHILLU M;3 Y;3 LLL;1 AU LENGTH MARK;
   1 FRACTION ONE ONE-HUNDRED-AND-SIXTIETH;3 FORTIETH;2 THREE EIGHTIETHS;2 ONE TWENTIETH;3 TENTH;
   2 THREE TWENTIETHS;2 ONE FIFTH;1 LETTER ARCHAIC II;2 VOCALIC RR;3 LL;1 VOWEL SIGN VOCALIC L;4 LL;
   U+0D66;1 DIGIT ZERO;2 ONE;2 TWO;2 THREE;2 FOUR;2 FIVE;2 SIX;2 SEVEN;2 EIGHT;2 NINE;1 NUMBER TEN;
   2 ONE HUNDRED;3 THOUSAND;1 FRACTION 1 QUARTER;3 HALF;2 THREE QUARTERS;2 ONE SIXTEENTH;3 EIGHTH;
   2 THREE SIXTEENTHS;1 DATE MARK;1 LETTER CHILLU NN;3 N;3 RR;3 L;3 LL;3 K;U+0D81;
   SINHALA SIGN CANDRABINDU;2 ANUSVARAYA;2 VISARGAYA;U+0D85;1 LETTER AYANNA;2 AAYANNA;2 AEYANNA;
   2 AEEYANNA;2 IYANNA;2 IIYANNA;2 UYANNA;2 UUYANNA;2 IRUYANNA;2 IRUUYANNA;2 ILUYANNA;2 ILUUYANNA;
   2 EYANNA;2 EEYANNA;2 AIYANNA;2 OYANNA;2 OOYANNA;2 AUYANNA;U+0D9A;2 ALPAPRAANA KAYANNA;
   2 MAHAAPRAANA 1;2 ALPAPRAANA GAYANNA;2 MAHAAPRAANA 1;2 KANTAJA NAASIKYAYA;2 SANYAKA GAYANNA;
   2 ALPAPRAANA CAYANNA;2 MAHAAPRAANA 1;2 ALPAPRAANA JAYANNA;2 MAHAAPRAANA 1;2 TAALUJA NAASIKYAYA;
   3 SANYOOGA NAAKSIKYAYA;2 SANYAKA JAYANNA;2 ALPAPRAANA TTAYANNA;2 MAHAAPRAANA 1;
   2 ALPAPRAANA DDAYANNA;2 MAHAAPRAANA 1;2 MUURDHAJA NAYANNA;2 SANYAKA DDAYANNA;
   2 ALPAPRAANA TAYANNA;2 MAHAAPRAANA 1;2 ALPAPRAANA DAYANNA;2 MAHAAPRAANA 1;2 DANTAJA NAYANNA;
   U+0DB3;2 SANYAKA DAYANNA;2 ALPAPRAANA PAYANNA;2 MAHAAPRAANA 1;2 ALPAPRAANA BAYANNA;
   2 MAHAAPRAANA 1;2 MAYANNA;2 AMBA BAYANNA;2 YAYANNA;2 RAYANNA;U+0DBD;2 DANTAJA LAYANNA;U+0DC0;
   2 VAYANNA;2 TAALUJA SAYANNA;2 MUURDHAJA 1;2 DANTAJA 1;2 HAYANNA;2 MUURDHAJA LAYANNA;2 FAYANNA;
   U+0DCA;1 SIGN AL-LAKUNA;U+0DCF;1 VOWEL SIGN AELA-PILLA;3 KETTI AEDA-PILLA;3 DIGA 1;
   3 KETTI IS-PILLA;3 DIGA 1;3 KETTI PAA-PILLA;U+0DD6;3 DIGA 1;U+0DD8;3 GAETTA-PILLA;3 KOMBUVA;
   3 DIGA KOMBUVA;3 KOMBU DEKA;3 KOMBUVA HAA AELA-PILLA;5 DIGA AELA-PILLA;5 GAYANUKITTA;
   3 GAYANUKITTA;U+0DE6;1 LITH DIGIT ZERO;3 ONE;3 TWO;3 THREE;3 FOUR;3 FIVE;3 SIX;3 SEVEN;3 EIGHT;
   3 NINE;U+0DF2;1 VOWEL SIGN DIGA GAETTA-PILLA;4 GAYANUKITTA;1 PUNCTUATION KUNDDALIYA"

end ApiShell.Template.CharacterName
