/-! Names of combining marks and of the Greek, Cyrillic and Armenian alphabets, as a listing. -/

namespace ApiShell.Template.CharacterName

/-- Combining marks, Greek, Cyrillic and Armenian. -/
def alphabetic : String :=
  "U+0300;COMBINING GRAVE ACCENT;1 ACUTE 1;1 CIRCUMFLEX 1;1 TILDE;1 MACRON;1 OVERLINE;1 BREVE;
   1 DOT ABOVE;1 DIAERESIS;1 HOOK ABOVE;1 RING 1;1 DOUBLE ACUTE ACCENT;1 CARON;
   1 VERTICAL LINE ABOVE;1 DOUBLE VERTICAL LINE ABOVE;2 GRAVE ACCENT;1 CANDRABINDU;1 INVERTED BREVE;
   1 TURNED COMMA ABOVE;1 COMMA ABOVE;1 REVERSED COMMA ABOVE;1 COMMA ABOVE RIGHT;
   1 GRAVE ACCENT BELOW;1 ACUTE 2;1 LEFT TACK 1;1 RIGHT 2;1 LEFT ANGLE ABOVE;1 HORN;
   1 LEFT HALF RING BELOW;1 UP TACK BELOW;1 DOWN 2;1 PLUS SIGN 1;1 MINUS 2;1 PALATALIZED HOOK 1;
   1 RETROFLEX 2;1 DOT BELOW;1 DIAERESIS 1;1 RING 1;1 COMMA 1;1 CEDILLA;1 OGONEK;
   1 VERTICAL LINE BELOW;1 BRIDGE BELOW;1 INVERTED DOUBLE ARCH BELOW;1 CARON BELOW;
   1 CIRCUMFLEX ACCENT BELOW;1 BREVE BELOW;1 INVERTED BREVE BELOW;1 TILDE BELOW;1 MACRON 1;
   1 LOW LINE;1 DOUBLE LOW LINE;1 TILDE OVERLAY;1 SHORT STROKE OVERLAY;1 LONG 2;1 SHORT SOLIDUS 1;
   1 LONG 2;1 RIGHT HALF RING BELOW;1 INVERTED BRIDGE BELOW;1 SQUARE BELOW;1 SEAGULL 1;1 X ABOVE;
   1 VERTICAL TILDE;1 DOUBLE OVERLINE;1 GRAVE TONE MARK;1 ACUTE 2;1 GREEK PERISPOMENI;2 KORONIS;
   2 DIALYTIKA TONOS;2 YPOGEGRAMMENI;1 BRIDGE ABOVE;1 EQUALS SIGN BELOW;
   1 DOUBLE VERTICAL LINE BELOW;1 LEFT ANGLE BELOW;1 NOT TILDE ABOVE;1 HOMOTHETIC ABOVE;
   1 ALMOST EQUAL TO ABOVE;1 LEFT RIGHT ARROW BELOW;1 UPWARDS ARROW BELOW;1 GRAPHEME JOINER;
   1 RIGHT ARROWHEAD ABOVE;1 LEFT HALF RING ABOVE;1 FERMATA;1 X BELOW;1 LEFT ARROWHEAD BELOW;
   1 RIGHT 2;3 AND UP ARROWHEAD BELOW;2 HALF RING ABOVE;1 DOT ABOVE RIGHT;1 ASTERISK BELOW;
   1 DOUBLE RING BELOW;1 ZIGZAG ABOVE;1 DOUBLE BREVE BELOW;3;2 MACRON;3 BELOW;2 TILDE;
   2 INVERTED BREVE;2 RIGHTWARDS ARROW BELOW;1 LATIN SMALL LETTER A;4 E;4 I;4 O;4 U;4 C;4 D;4 H;4 M;
   4 R;4 T;4 V;4 X;GREEK CAPITAL LETTER HETA;1 SMALL 2;1 CAPITAL 1 ARCHAIC SAMPI;1 SMALL 3;
   1 NUMERAL SIGN;1 LOWER NUMERAL SIGN;1 CAPITAL LETTER PAMPHYLIAN DIGAMMA;1 SMALL 3;U+037A;
   1 YPOGEGRAMMENI;1 SMALL REVERSED LUNATE SIGMA SYMBOL;2 DOTTED 3;
   2 REVERSED DOTTED LUNATE SIGMA SYMBOL;1 QUESTION MARK;1 CAPITAL LETTER YOT;U+0384;1 TONOS;
   1 DIALYTIKA TONOS;1 CAPITAL LETTER ALPHA WITH TONOS;1 ANO TELEIA;
   1 CAPITAL LETTER EPSILON WITH TONOS;3 ETA 2;3 IOTA 2;U+038C;3 OMICRON 2;U+038E;3 UPSILON 2;
   3 OMEGA 2;1 SMALL 1 IOTA 1 DIALYTIKA AND TONOS;1 CAPITAL 1 ALPHA;3 BETA;3 GAMMA;3 DELTA;
   3 EPSILON;3 ZETA;3 ETA;3 THETA;3 IOTA;3 KAPPA;3 LAMDA;3 MU;3 NU;3 XI;3 OMICRON;3 PI;3 RHO;U+03A3;
   3 SIGMA;3 TAU;3 UPSILON;3 PHI;3 CHI;3 PSI;3 OMEGA;3 IOTA WITH DIALYTIKA;3 UPSILON 2;
   1 SMALL 1 ALPHA 1 TONOS;3 EPSILON 2;3 ETA 2;3 IOTA 2;3 UPSILON 1 DIALYTIKA AND TONOS;3 ALPHA;
   3 BETA;3 GAMMA;3 DELTA;3 EPSILON;3 ZETA;3 ETA;3 THETA;3 IOTA;3 KAPPA;3 LAMDA;3 MU;3 NU;3 XI;
   3 OMICRON;3 PI;3 RHO;3 FINAL SIGMA;3 SIGMA;3 TAU;3 UPSILON;3 PHI;3 CHI;3 PSI;3 OMEGA;
   3 IOTA WITH DIALYTIKA;3 UPSILON 2;3 OMICRON 1 TONOS;3 UPSILON 2;3 OMEGA 2;1 CAPITAL KAI SYMBOL;
   1 BETA SYMBOL;1 THETA 1;1 UPSILON WITH HOOK SYMBOL;3 ACUTE AND HOOK SYMBOL;3 DIAERESIS 3;
   1 PHI SYMBOL;1 PI 1;1 KAI 1;1 LETTER ARCHAIC KOPPA;1 SMALL LETTER ARCHAIC KOPPA;1 LETTER STIGMA;
   1 SMALL LETTER STIGMA;1 LETTER DIGAMMA;1 SMALL LETTER DIGAMMA;1 LETTER KOPPA;
   1 SMALL LETTER KOPPA;1 LETTER SAMPI;1 SMALL LETTER SAMPI;COPTIC CAPITAL 1 SHEI;1 SMALL 2;
   1 CAPITAL 1 FEI;1 SMALL 2;1 CAPITAL 1 KHEI;1 SMALL 2;1 CAPITAL 1 HORI;1 SMALL 2;
   1 CAPITAL 1 GANGIA;1 SMALL 2;1 CAPITAL 1 SHIMA;1 SMALL 2;1 CAPITAL 1 DEI;1 SMALL 2;
   GREEK KAPPA SYMBOL;1 RHO 1;1 LUNATE SIGMA SYMBOL;1 LETTER YOT;1 CAPITAL THETA SYMBOL;
   1 LUNATE EPSILON 1;1 REVERSED LUNATE EPSILON SYMBOL;1 CAPITAL LETTER SHO;1 SMALL 2;
   1 CAPITAL LUNATE SIGMA SYMBOL;2 LETTER SAN;1 SMALL 2;1 RHO WITH STROKE SYMBOL;
   1 CAPITAL REVERSED LUNATE SIGMA SYMBOL;2 DOTTED 3;2 REVERSED DOTTED LUNATE SIGMA SYMBOL;
   CYRILLIC 1 LETTER IE WITH GRAVE;3 IO;3 DJE;3 GJE;3 UKRAINIAN IE;3 DZE;3 BYELORUSSIAN-UKRAINIAN I;
   3 YI;3 JE;3 LJE;3 NJE;3 TSHE;3 KJE;3 I WITH GRAVE;3 SHORT U;3 DZHE;3 A;3 BE;3 VE;3 GHE;3 DE;3 IE;
   3 ZHE;3 ZE;3 I;3 SHORT I;3 KA;3 EL;3 EM;3 EN;3 O;3 PE;3 ER;3 ES;3 TE;3 U;3 EF;3 HA;3 TSE;3 CHE;
   3 SHA;3 SHCHA;3 HARD SIGN;3 YERU;3 SOFT SIGN;3 E;3 YU;3 YA;1 SMALL 1 A;3 BE;3 VE;3 GHE;3 DE;3 IE;
   3 ZHE;3 ZE;3 I;3 SHORT I;3 KA;3 EL;3 EM;3 EN;3 O;3 PE;3 ER;3 ES;3 TE;3 U;3 EF;3 HA;3 TSE;3 CHE;
   3 SHA;3 SHCHA;3 HARD SIGN;3 YERU;3 SOFT SIGN;3 E;3 YU;3 YA;3 IE WITH GRAVE;3 IO;3 DJE;3 GJE;
   3 UKRAINIAN IE;3 DZE;3 BYELORUSSIAN-UKRAINIAN I;3 YI;3 JE;3 LJE;3 NJE;3 TSHE;3 KJE;
   3 I WITH GRAVE;3 SHORT U;3 DZHE;1 CAPITAL 1 OMEGA;1 SMALL 2;1 CAPITAL 1 YAT;1 SMALL 2;
   1 CAPITAL 1 IOTIFIED E;1 SMALL 3;1 CAPITAL 1 LITTLE YUS;1 SMALL 3;
   1 CAPITAL 1 IOTIFIED LITTLE YUS;1 SMALL 4;1 CAPITAL 1 BIG YUS;1 SMALL 3;
   1 CAPITAL 1 IOTIFIED BIG YUS;1 SMALL 4;1 CAPITAL 1 KSI;1 SMALL 2;1 CAPITAL 1 PSI;1 SMALL 2;
   1 CAPITAL 1 FITA;1 SMALL 2;1 CAPITAL 1 IZHITSA;1 SMALL 2;1 CAPITAL 2 WITH DOUBLE GRAVE ACCENT;
   1 SMALL 6;1 CAPITAL 1 UK;1 SMALL 2;1 CAPITAL 1 ROUND OMEGA;1 SMALL 3;
   1 CAPITAL 1 OMEGA WITH TITLO;1 SMALL 4;1 CAPITAL 1 OT;1 SMALL 2;1 CAPITAL 1 KOPPA;1 SMALL 2;
   1 THOUSANDS SIGN;COMBINING CYRILLIC TITLO;2 PALATALIZATION;2 DASIA PNEUMATA;2 PSILI 1;2 POKRYTIE;
   2 HUNDRED THOUSANDS SIGN;2 MILLIONS SIGN;CYRILLIC CAPITAL LETTER SHORT I WITH TAIL;1 SMALL 5;
   1 CAPITAL 1 SEMISOFT SIGN;1 SMALL 3;1 CAPITAL 1 ER WITH TICK;1 SMALL 4;1 CAPITAL 1 GHE 1 UPTURN;
   1 SMALL 4;1 CAPITAL 3 STROKE;1 SMALL 4;1 CAPITAL 3 MIDDLE HOOK;1 SMALL 5;
   1 CAPITAL 1 ZHE 1 DESCENDER;1 SMALL 4;1 CAPITAL 1 ZE 2;1 SMALL 4;1 CAPITAL 1 KA 2;1 SMALL 4;
   1 CAPITAL 3 VERTICAL STROKE;1 SMALL 5;1 CAPITAL 3 STROKE;1 SMALL 4;1 CAPITAL 1 BASHKIR KA;
   1 SMALL 3;1 CAPITAL 1 EN WITH DESCENDER;1 SMALL 4;1 CAPITAL LIGATURE 1 GHE;1 SMALL 3;
   1 CAPITAL LETTER PE WITH MIDDLE HOOK;1 SMALL 5;1 CAPITAL 1 ABKHASIAN HA;1 SMALL 3;
   1 CAPITAL 1 ES WITH DESCENDER;1 SMALL 4;1 CAPITAL 1 TE 2;1 SMALL 4;1 CAPITAL 1 STRAIGHT U;
   1 SMALL 3;1 CAPITAL 3 WITH STROKE;1 SMALL 5;1 CAPITAL 1 HA WITH DESCENDER;1 SMALL 4;
   1 CAPITAL LIGATURE TE TSE;1 SMALL 3;1 CAPITAL LETTER CHE WITH DESCENDER;1 SMALL 4;
   1 CAPITAL 3 VERTICAL STROKE;1 SMALL 5;1 CAPITAL 1 SHHA;1 SMALL 2;1 CAPITAL 1 ABKHASIAN CHE;
   1 SMALL 3;1 CAPITAL 3 WITH DESCENDER;1 SMALL 5;1 LETTER PALOCHKA;1 CAPITAL LETTER ZHE WITH BREVE;
   1 SMALL 4;1 CAPITAL 1 KA 1 HOOK;1 SMALL 4;1 CAPITAL 1 EL 1 TAIL;1 SMALL 4;1 CAPITAL 1 EN 1 HOOK;
   1 SMALL 4;1 CAPITAL 3 TAIL;1 SMALL 4;1 CAPITAL 1 KHAKASSIAN CHE;1 SMALL 3;
   1 CAPITAL 1 EM WITH TAIL;1 SMALL 4;3 PALOCHKA;1 CAPITAL 1 A WITH BREVE;1 SMALL 4;
   1 CAPITAL 3 DIAERESIS;1 SMALL 4;1 CAPITAL LIGATURE 1 IE;1 SMALL 3;1 CAPITAL LETTER IE WITH BREVE;
   1 SMALL 4;1 CAPITAL 1 SCHWA;1 SMALL 2;1 CAPITAL 2 WITH DIAERESIS;1 SMALL 4;1 CAPITAL 1 ZHE 2;
   1 SMALL 4;1 CAPITAL 1 ZE 2;1 SMALL 4;1 CAPITAL 1 ABKHASIAN DZE;1 SMALL 3;
   1 CAPITAL 1 I WITH MACRON;1 SMALL 4;1 CAPITAL 3 DIAERESIS;1 SMALL 4;1 CAPITAL 1 O 2;1 SMALL 4;
   1 CAPITAL 1 BARRED O;1 SMALL 3;1 CAPITAL 3 WITH DIAERESIS;1 SMALL 5;1 CAPITAL 1 E WITH DIAERESIS;
   1 SMALL 4;1 CAPITAL 1 U 1 MACRON;1 SMALL 4;1 CAPITAL 3 DIAERESIS;1 SMALL 4;
   1 CAPITAL 3 DOUBLE ACUTE;1 SMALL 5;1 CAPITAL 1 CHE 1 DIAERESIS;1 SMALL 4;
   1 CAPITAL 1 GHE 1 DESCENDER;1 SMALL 4;1 CAPITAL 1 YERU 1 DIAERESIS;1 SMALL 4;
   1 CAPITAL 1 GHE 1 STROKE AND HOOK;1 SMALL 6;1 CAPITAL 1 HA 1 HOOK;1 SMALL 4;1 CAPITAL 3 STROKE;
   1 SMALL 4;1 CAPITAL 1 KOMI DE;1 SMALL 3;1 CAPITAL 2 DJE;1 SMALL 3;1 CAPITAL 2 ZJE;1 SMALL 3;
   1 CAPITAL 2 DZJE;1 SMALL 3;1 CAPITAL 2 LJE;1 SMALL 3;1 CAPITAL 2 NJE;1 SMALL 3;1 CAPITAL 2 SJE;
   1 SMALL 3;1 CAPITAL 2 TJE;1 SMALL 3;1 CAPITAL 1 REVERSED ZE;1 SMALL 3;1 CAPITAL 1 EL WITH HOOK;
   1 SMALL 4;1 CAPITAL 1 LHA;1 SMALL 2;1 CAPITAL 1 RHA;1 SMALL 2;1 CAPITAL 1 YAE;1 SMALL 2;
   1 CAPITAL 1 QA;1 SMALL 2;1 CAPITAL 1 WE;1 SMALL 2;1 CAPITAL 1 ALEUT KA;1 SMALL 3;
   1 CAPITAL 1 EL WITH MIDDLE HOOK;1 SMALL 5;1 CAPITAL 1 EN 3;1 SMALL 5;1 CAPITAL 1 PE 1 DESCENDER;
   1 SMALL 4;1 CAPITAL 1 SHHA 2;1 SMALL 4;1 CAPITAL 1 EN 1 LEFT HOOK;1 SMALL 5;1 CAPITAL 1 DZZHE;
   1 SMALL 2;1 CAPITAL 1 DCHE;1 SMALL 2;1 CAPITAL 1 EL WITH DESCENDER;1 SMALL 4;U+0531;
   ARMENIAN CAPITAL 1 AYB;3 BEN;3 GIM;3 DA;3 ECH;3 ZA;3 EH;3 ET;3 TO;3 ZHE;3 INI;3 LIWN;3 XEH;3 CA;
   3 KEN;3 HO;3 JA;3 GHAD;3 CHEH;3 MEN;3 YI;3 NOW;3 SHA;3 VO;3 CHA;3 PEH;3 JHEH;3 RA;3 SEH;3 VEW;
   3 TIWN;3 REH;3 CO;3 YIWN;3 PIWR;3 KEH;3 OH;3 FEH;U+0559;1 MODIFIER 1 LEFT HALF RING;1 APOSTROPHE;
   1 EMPHASIS MARK;1 EXCLAMATION 1;1 COMMA;1 QUESTION MARK;1 ABBREVIATION 1;
   1 SMALL LETTER TURNED AYB;3 AYB;3 BEN;3 GIM;3 DA;3 ECH;3 ZA;3 EH;3 ET;3 TO;3 ZHE;3 INI;3 LIWN;
   3 XEH;3 CA;3 KEN;3 HO;3 JA;3 GHAD;3 CHEH;3 MEN;3 YI;3 NOW;3 SHA;3 VO;3 CHA;3 PEH;3 JHEH;3 RA;
   3 SEH;3 VEW;3 TIWN;3 REH;3 CO;3 YIWN;3 PIWR;3 KEH;3 OH;3 FEH;2 LIGATURE ECH YIWN;
   2 LETTER YI WITH STROKE;1 FULL STOP;1 HYPHEN;U+058D;RIGHT-FACING ARMENIAN ETERNITY SIGN;
   LEFT-FACING 3;ARMENIAN DRAM SIGN"

end ApiShell.Template.CharacterName
