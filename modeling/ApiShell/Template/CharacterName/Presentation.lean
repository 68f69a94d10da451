/-! Names of forms of letters and signs that depend on their surroundings, as a listing. -/

namespace ApiShell.Template.CharacterName

/-- Ligatures, vertical, small, halfwidth and fullwidth forms. -/
def presentation : String :=
  "U+FB00;LATIN SMALL LIGATURE FF;3 FI;3 FL;3 FFI;3 FFL;3 LONG S T;3 ST;U+FB13;ARMENIAN 2 MEN NOW;
   4 ECH;4 INI;3 VEW NOW;3 MEN XEH;U+FB1D;HEBREW LETTER YOD WITH HIRIQ;1 POINT JUDEO-SPANISH VARIKA;
   1 LIGATURE YIDDISH YOD YOD PATAH;1 LETTER ALTERNATIVE AYIN;2 WIDE ALEF;3 DALET;3 HE;3 KAF;
   3 LAMED;3 FINAL MEM;3 RESH;3 TAV;2 ALTERNATIVE PLUS SIGN;2 SHIN WITH SHIN DOT;4 SIN 1;
   4 DAGESH AND SHIN DOT;6 SIN 1;2 ALEF 1 PATAH;4 QAMATS;4 MAPIQ;2 BET 1 DAGESH;2 GIMEL 2;2 DALET 2;
   2 HE 1 MAPIQ;2 VAV 1 DAGESH;2 ZAYIN 2;U+FB38;2 TET 2;2 YOD 2;2 FINAL KAF WITH DAGESH;
   2 KAF WITH DAGESH;2 LAMED 2;U+FB3E;2 MEM 2;U+FB40;2 NUN 2;2 SAMEKH 2;U+FB43;
   2 FINAL PE WITH DAGESH;2 PE WITH DAGESH;U+FB46;2 TSADI 2;2 QOF 2;2 RESH 2;2 SHIN 2;2 TAV 2;
   2 VAV 1 HOLAM;2 BET 1 RAFE;2 KAF 2;2 PE 2;1 LIGATURE ALEF LAMED;
   ARABIC LETTER 1 WASLA ISOLATED FORM;4 FINAL 1;2 BEEH ISOLATED FORM;3 FINAL 1;3 INITIAL 1;
   3 MEDIAL 1;2 PEH ISOLATED 1;3 FINAL 1;3 INITIAL 1;3 MEDIAL 1;2 BEHEH ISOLATED 1;3 FINAL 1;
   3 INITIAL 1;3 MEDIAL 1;2 TTEHEH ISOLATED 1;3 FINAL 1;3 INITIAL 1;3 MEDIAL 1;2 TEHEH ISOLATED 1;
   3 FINAL 1;3 INITIAL 1;3 MEDIAL 1;2 TTEH ISOLATED 1;3 FINAL 1;3 INITIAL 1;3 MEDIAL 1;
   2 VEH ISOLATED 1;3 FINAL 1;3 INITIAL 1;3 MEDIAL 1;2 PEHEH ISOLATED 1;3 FINAL 1;3 INITIAL 1;
   3 MEDIAL 1;2 DYEH ISOLATED 1;3 FINAL 1;3 INITIAL 1;3 MEDIAL 1;2 NYEH ISOLATED 1;3 FINAL 1;
   3 INITIAL 1;3 MEDIAL 1;2 TCHEH ISOLATED 1;3 FINAL 1;3 INITIAL 1;3 MEDIAL 1;2 TCHEHEH ISOLATED 1;
   3 FINAL 1;3 INITIAL 1;3 MEDIAL 1;2 DDAHAL ISOLATED 1;3 FINAL 1;2 DAHAL ISOLATED 1;3 FINAL 1;
   2 DUL ISOLATED 1;3 FINAL 1;2 DDAL ISOLATED 1;3 FINAL 1;2 JEH ISOLATED 1;3 FINAL 1;
   2 RREH ISOLATED 1;3 FINAL 1;2 KEHEH ISOLATED 1;3 FINAL 1;3 INITIAL 1;3 MEDIAL 1;2 GAF ISOLATED 1;
   3 FINAL 1;3 INITIAL 1;3 MEDIAL 1;2 GUEH ISOLATED 1;3 FINAL 1;3 INITIAL 1;3 MEDIAL 1;
   2 NGOEH ISOLATED 1;3 FINAL 1;3 INITIAL 1;3 MEDIAL 1;2 NOON GHUNNA ISOLATED FORM;4 FINAL 1;
   2 RNOON ISOLATED FORM;3 FINAL 1;3 INITIAL 1;3 MEDIAL 1;2 HEH WITH YEH ABOVE ISOLATED FORM;
   6 FINAL 1;3 GOAL ISOLATED FORM;4 FINAL 1;4 INITIAL 1;4 MEDIAL 1;3 DOACHASHMEE ISOLATED 1;
   4 FINAL 1;4 INITIAL 1;4 MEDIAL 1;2 YEH BARREE ISOLATED 1;4 FINAL 1;
   4 WITH HAMZA ABOVE ISOLATED FORM;7 FINAL 1;1 SYMBOL DOT ABOVE;3 BELOW;2 TWO DOTS ABOVE;4 BELOW;
   2 THREE 1 ABOVE;4 BELOW;4 POINTING DOWNWARDS ABOVE;6 BELOW;2 FOUR 1 ABOVE;4 BELOW;
   2 DOUBLE VERTICAL BAR BELOW;2 TWO DOTS VERTICALLY ABOVE;5 BELOW;2 RING;2 SMALL TAH ABOVE;4 BELOW;
   2 WASLA ABOVE;U+FBD3;1 LETTER NG ISOLATED FORM;3 FINAL 1;3 INITIAL 1;3 MEDIAL 1;2 U ISOLATED 1;
   3 FINAL 1;2 OE ISOLATED 1;3 FINAL 1;2 YU ISOLATED 1;3 FINAL 1;2 U WITH HAMZA ABOVE ISOLATED FORM;
   2 VE ISOLATED FORM;3 FINAL 1;2 KIRGHIZ OE ISOLATED FORM;4 FINAL 1;3 YU ISOLATED 1;4 FINAL 1;
   2 E ISOLATED FORM;3 FINAL 1;3 INITIAL 1;3 MEDIAL 1;
   2 UIGHUR KAZAKH KIRGHIZ ALEF MAKSURA INITIAL FORM;7 MEDIAL 1;
   1 LIGATURE YEH WITH HAMZA ABOVE WITH ALEF ISOLATED FORM;8 FINAL 1;7 AE ISOLATED 1;8 FINAL 1;
   7 WAW ISOLATED 1;8 FINAL 1;7 U ISOLATED 1;8 FINAL 1;7 OE ISOLATED 1;8 FINAL 1;7 YU ISOLATED 1;
   8 FINAL 1;7 E ISOLATED 1;8 FINAL 1;8 INITIAL 1;
   2 UIGHUR KIRGHIZ YEH WITH HAMZA ABOVE WITH ALEF MAKSURA ISOLATED FORM;11 FINAL 1;11 INITIAL 1;
   1 LETTER FARSI YEH ISOLATED FORM;4 FINAL 1;4 INITIAL 1;4 MEDIAL 1;
   1 LIGATURE YEH WITH HAMZA ABOVE WITH JEEM ISOLATED FORM;7 HAH 2;7 MEEM 2;
   7 ALEF MAKSURA ISOLATED FORM;7 YEH ISOLATED FORM;2 BEH 1 JEEM ISOLATED FORM;4 HAH 2;4 KHAH 2;
   4 MEEM 2;4 ALEF MAKSURA ISOLATED FORM;4 YEH ISOLATED FORM;2 TEH 1 JEEM 2;4 HAH 2;4 KHAH 2;
   4 MEEM 2;4 ALEF MAKSURA ISOLATED FORM;4 YEH ISOLATED FORM;2 THEH 1 JEEM 2;4 MEEM 2;
   4 ALEF MAKSURA ISOLATED FORM;4 YEH ISOLATED FORM;2 JEEM 1 HAH 2;4 MEEM 2;2 HAH 1 JEEM 2;4 MEEM 2;
   2 KHAH 1 JEEM 2;4 HAH 2;4 MEEM 2;2 SEEN 1 JEEM 2;4 HAH 2;4 KHAH 2;4 MEEM 2;2 SAD 1 HAH 2;
   4 MEEM 2;2 DAD 1 JEEM 2;4 HAH 2;4 KHAH 2;4 MEEM 2;2 TAH 1 HAH 2;4 MEEM 2;2 ZAH 4;2 AIN 1 JEEM 2;
   4 MEEM 2;2 GHAIN 1 JEEM 2;4 MEEM 2;2 FEH 1 JEEM 2;4 HAH 2;4 KHAH 2;4 MEEM 2;
   4 ALEF MAKSURA ISOLATED FORM;4 YEH ISOLATED FORM;2 QAF 1 HAH 2;4 MEEM 2;
   4 ALEF MAKSURA ISOLATED FORM;4 YEH ISOLATED FORM;2 KAF 1 ALEF 2;4 JEEM 2;4 HAH 2;4 KHAH 2;
   4 LAM 2;4 MEEM 2;4 ALEF MAKSURA ISOLATED FORM;4 YEH ISOLATED FORM;2 LAM 1 JEEM 2;4 HAH 2;
   4 KHAH 2;4 MEEM 2;4 ALEF MAKSURA ISOLATED FORM;4 YEH ISOLATED FORM;2 MEEM 1 JEEM 2;4 HAH 2;
   4 KHAH 2;4 MEEM 2;4 ALEF MAKSURA ISOLATED FORM;4 YEH ISOLATED FORM;2 NOON 1 JEEM 2;4 HAH 2;
   4 KHAH 2;4 MEEM 2;4 ALEF MAKSURA ISOLATED FORM;4 YEH ISOLATED FORM;2 HEH 1 JEEM 2;4 MEEM 2;
   4 ALEF MAKSURA ISOLATED FORM;4 YEH ISOLATED FORM;2 YEH 1 JEEM 2;4 HAH 2;4 KHAH 2;4 MEEM 2;
   4 ALEF MAKSURA ISOLATED FORM;4 YEH ISOLATED FORM;2 THAL 1 SUPERSCRIPT ALEF ISOLATED FORM;2 REH 5;
   2 ALEF MAKSURA WITH SUPERSCRIPT ALEF ISOLATED FORM;2 SHADDA WITH DAMMATAN ISOLATED FORM;
   4 KASRATAN 2;4 FATHA 2;4 DAMMA 2;4 KASRA 2;4 SUPERSCRIPT ALEF ISOLATED FORM;
   2 YEH 1 HAMZA ABOVE WITH REH FINAL FORM;7 ZAIN 2;7 MEEM 2;7 NOON 2;7 ALEF MAKSURA FINAL FORM;
   7 YEH FINAL FORM;2 BEH 1 REH FINAL FORM;4 ZAIN 2;4 MEEM 2;4 NOON 2;4 ALEF MAKSURA FINAL FORM;
   4 YEH FINAL FORM;2 TEH 1 REH 2;4 ZAIN 2;4 MEEM 2;4 NOON 2;4 ALEF MAKSURA FINAL FORM;
   4 YEH FINAL FORM;2 THEH 1 REH 2;4 ZAIN 2;4 MEEM 2;4 NOON 2;4 ALEF MAKSURA FINAL FORM;
   4 YEH FINAL FORM;2 FEH 1 ALEF MAKSURA FINAL FORM;4 YEH FINAL FORM;
   2 QAF 1 ALEF MAKSURA FINAL FORM;4 YEH FINAL FORM;2 KAF 1 ALEF 2;4 LAM 2;4 MEEM 2;
   4 ALEF MAKSURA FINAL FORM;4 YEH FINAL FORM;2 LAM 1 MEEM 2;4 ALEF MAKSURA FINAL FORM;
   4 YEH FINAL FORM;2 MEEM 1 ALEF 2;4 MEEM 2;2 NOON 1 REH 2;4 ZAIN 2;4 MEEM 2;4 NOON 2;
   4 ALEF MAKSURA FINAL FORM;4 YEH FINAL FORM;2 ALEF MAKSURA WITH SUPERSCRIPT ALEF FINAL FORM;
   2 YEH WITH REH FINAL FORM;4 ZAIN 2;4 MEEM 2;4 NOON 2;4 ALEF MAKSURA FINAL FORM;4 YEH FINAL FORM;
   4 HAMZA ABOVE WITH JEEM INITIAL FORM;7 HAH 2;7 KHAH 2;7 MEEM 2;7 HEH 2;2 BEH 1 JEEM INITIAL FORM;
   4 HAH 2;4 KHAH 2;4 MEEM 2;4 HEH 2;2 TEH 1 JEEM 2;4 HAH 2;4 KHAH 2;4 MEEM 2;4 HEH 2;
   2 THEH 1 MEEM 2;2 JEEM 1 HAH 2;4 MEEM 2;2 HAH 1 JEEM 2;4 MEEM 2;2 KHAH 1 JEEM 2;4 MEEM 2;
   2 SEEN 1 JEEM 2;4 HAH 2;4 KHAH 2;4 MEEM 2;2 SAD 1 HAH 2;4 KHAH 2;4 MEEM 2;2 DAD 1 JEEM 2;4 HAH 2;
   4 KHAH 2;4 MEEM 2;2 TAH 1 HAH 2;2 ZAH 1 MEEM 2;2 AIN 1 JEEM 2;4 MEEM 2;2 GHAIN 1 JEEM 2;4 MEEM 2;
   2 FEH 1 JEEM 2;4 HAH 2;4 KHAH 2;4 MEEM 2;2 QAF 1 HAH 2;4 MEEM 2;2 KAF 1 JEEM 2;4 HAH 2;4 KHAH 2;
   4 LAM 2;4 MEEM 2;2 LAM 1 JEEM 2;4 HAH 2;4 KHAH 2;4 MEEM 2;4 HEH 2;2 MEEM 1 JEEM 2;4 HAH 2;
   4 KHAH 2;4 MEEM 2;2 NOON 1 JEEM 2;4 HAH 2;4 KHAH 2;4 MEEM 2;4 HEH 2;2 HEH 1 JEEM 2;4 MEEM 2;
   4 SUPERSCRIPT ALEF INITIAL FORM;2 YEH 1 JEEM INITIAL FORM;4 HAH 2;4 KHAH 2;4 MEEM 2;4 HEH 2;
   4 HAMZA ABOVE WITH MEEM MEDIAL FORM;7 HEH 2;2 BEH 1 MEEM MEDIAL FORM;4 HEH 2;2 TEH 1 MEEM 2;
   4 HEH 2;2 THEH 1 MEEM 2;4 HEH 2;2 SEEN 1 MEEM 2;4 HEH 2;2 SHEEN 1 MEEM 2;4 HEH 2;2 KAF 1 LAM 2;
   4 MEEM 2;2 LAM 4;2 NOON 4;4 HEH 2;2 YEH 1 MEEM 2;4 HEH 2;2 SHADDA 1 FATHA 2;4 DAMMA 2;4 KASRA 2;
   2 TAH 1 ALEF MAKSURA ISOLATED FORM;4 YEH ISOLATED FORM;2 AIN 1 ALEF MAKSURA ISOLATED FORM;
   4 YEH ISOLATED FORM;2 GHAIN 1 ALEF MAKSURA ISOLATED FORM;4 YEH ISOLATED FORM;
   2 SEEN 1 ALEF MAKSURA ISOLATED FORM;4 YEH ISOLATED FORM;2 SHEEN 1 ALEF MAKSURA ISOLATED FORM;
   4 YEH ISOLATED FORM;2 HAH 1 ALEF MAKSURA ISOLATED FORM;4 YEH ISOLATED FORM;
   2 JEEM 1 ALEF MAKSURA ISOLATED FORM;4 YEH ISOLATED FORM;2 KHAH 1 ALEF MAKSURA ISOLATED FORM;
   4 YEH ISOLATED FORM;2 SAD 1 ALEF MAKSURA ISOLATED FORM;4 YEH ISOLATED FORM;
   2 DAD 1 ALEF MAKSURA ISOLATED FORM;4 YEH ISOLATED FORM;2 SHEEN 1 JEEM 2;4 HAH 2;4 KHAH 2;
   4 MEEM 2;4 REH 2;2 SEEN 4;2 SAD 4;2 DAD 4;2 TAH 1 ALEF MAKSURA FINAL FORM;4 YEH FINAL FORM;
   2 AIN 1 ALEF MAKSURA FINAL FORM;4 YEH FINAL FORM;2 GHAIN 1 ALEF MAKSURA FINAL FORM;
   4 YEH FINAL FORM;2 SEEN 1 ALEF MAKSURA FINAL FORM;4 YEH FINAL FORM;
   2 SHEEN 1 ALEF MAKSURA FINAL FORM;4 YEH FINAL FORM;2 HAH 1 ALEF MAKSURA FINAL FORM;
   4 YEH FINAL FORM;2 JEEM 1 ALEF MAKSURA FINAL FORM;4 YEH FINAL FORM;
   2 KHAH 1 ALEF MAKSURA FINAL FORM;4 YEH FINAL FORM;2 SAD 1 ALEF MAKSURA FINAL FORM;
   4 YEH FINAL FORM;2 DAD 1 ALEF MAKSURA FINAL FORM;4 YEH FINAL FORM;2 SHEEN 1 JEEM 2;4 HAH 2;
   4 KHAH 2;4 MEEM 2;4 REH 2;2 SEEN 4;2 SAD 4;2 DAD 4;2 SHEEN 1 JEEM INITIAL 1;4 HAH 2;4 KHAH 2;
   4 MEEM 2;2 SEEN 1 HEH 2;2 SHEEN 4;2 TAH 1 MEEM 2;2 SEEN 1 JEEM MEDIAL 1;4 HAH 2;4 KHAH 2;
   2 SHEEN 1 JEEM 2;4 HAH 2;4 KHAH 2;2 TAH 1 MEEM 2;2 ZAH 4;2 ALEF 1 FATHATAN FINAL 1;5 ISOLATED 1;
   ORNATE LEFT PARENTHESIS;1 RIGHT 1;ARABIC LIGATURE RAHIMAHU ALLAAH;2 RADI ALLAAHU ANH;4 ANHAA;
   4 ANHUM;4 ANHUMAA;4 ANHUNNA;2 SALLALLAAHU ALAYHI WA-AALIH;2 ALAYHI AS-SALAAM;2 ALAYHIM 1;
   2 ALAYHIMAA 1;2 ALAYHI AS-SALAATU WAS-SALAAM;2 QUDDISA SIRRAH;
   2 SALLALLAHU ALAYHI WAAALIHEE WA-SALLAM;2 ALAYHAA AS-SALAAM;2 TABAARAKA WA-TAAALAA;
   2 RAHIMAHUM ALLAAH;2 TEH WITH JEEM WITH MEEM INITIAL FORM;4 HAH 1 JEEM FINAL 1;7 INITIAL 1;
   6 MEEM 2;4 KHAH 4;4 MEEM 1 JEEM 2;6 HAH 2;6 KHAH 2;2 JEEM 3 HAH FINAL 1;7 INITIAL 1;
   2 HAH 3 YEH FINAL 1;6 ALEF MAKSURA FINAL FORM;2 SEEN 1 HAH 1 JEEM INITIAL FORM;4 JEEM 1 HAH 2;
   6 ALEF MAKSURA FINAL FORM;4 MEEM 1 HAH FINAL FORM;7 INITIAL 1;6 JEEM 2;6 MEEM FINAL 1;
   7 INITIAL 1;2 SAD 1 HAH 1 HAH FINAL 1;7 INITIAL 1;4 MEEM 1 MEEM FINAL 1;2 SHEEN 1 HAH 4;
   7 INITIAL 1;4 JEEM 1 YEH FINAL 1;4 MEEM 1 KHAH 2;7 INITIAL 1;6 MEEM FINAL 1;7 INITIAL 1;
   2 DAD 1 HAH 1 ALEF MAKSURA FINAL FORM;4 KHAH 1 MEEM FINAL FORM;7 INITIAL 1;
   2 TAH 1 MEEM 1 HAH FINAL 1;7 INITIAL 1;6 MEEM 2;6 YEH FINAL 1;2 AIN 1 JEEM 1 MEEM 2;4 MEEM 4;
   7 INITIAL 1;6 ALEF MAKSURA FINAL FORM;2 GHAIN 3 MEEM FINAL FORM;6 YEH 2;
   6 ALEF MAKSURA FINAL FORM;2 FEH 1 KHAH 1 MEEM FINAL FORM;7 INITIAL 1;2 QAF 1 MEEM 1 HAH FINAL 1;
   6 MEEM 2;2 LAM 1 HAH 4;6 YEH 2;6 ALEF MAKSURA FINAL FORM;4 JEEM 1 JEEM INITIAL FORM;7 FINAL 1;
   4 KHAH 1 MEEM 2;7 INITIAL 1;4 MEEM 1 HAH FINAL 1;7 INITIAL 1;2 MEEM 1 HAH 1 JEEM 2;6 MEEM 2;
   6 YEH FINAL 1;4 JEEM 1 HAH INITIAL 1;6 MEEM 2;4 KHAH 1 JEEM 2;6 MEEM 2;U+FD92;4 JEEM 1 KHAH 2;
   2 HEH 1 MEEM 1 JEEM 2;6 MEEM 2;2 NOON 1 HAH 4;6 ALEF MAKSURA FINAL FORM;4 JEEM 1 MEEM FINAL FORM;
   7 INITIAL 1;6 ALEF MAKSURA FINAL FORM;4 MEEM 1 YEH FINAL FORM;6 ALEF MAKSURA FINAL FORM;
   2 YEH 3 MEEM FINAL FORM;7 INITIAL 1;2 BEH 1 KHAH 1 YEH FINAL 1;2 TEH 1 JEEM 4;
   6 ALEF MAKSURA FINAL FORM;4 KHAH 1 YEH FINAL FORM;6 ALEF MAKSURA FINAL FORM;
   4 MEEM 1 YEH FINAL FORM;6 ALEF MAKSURA FINAL FORM;2 JEEM 3 YEH FINAL FORM;
   4 HAH 1 ALEF MAKSURA FINAL FORM;4 MEEM 5;2 SEEN 1 KHAH 5;2 SAD 1 HAH 1 YEH FINAL FORM;2 SHEEN 6;
   2 DAD 6;2 LAM 1 JEEM 4;4 MEEM 4;2 YEH 1 HAH 4;4 JEEM 4;4 MEEM 4;2 MEEM 6;2 QAF 6;2 NOON 1 HAH 4;
   2 QAF 1 MEEM 1 HAH INITIAL 1;2 LAM 1 HAH 1 MEEM 2;2 AIN 1 MEEM 1 YEH FINAL 1;2 KAF 6;
   2 NOON 1 JEEM 1 HAH INITIAL 1;2 MEEM 1 KHAH 1 YEH FINAL 1;2 LAM 1 JEEM 1 MEEM INITIAL 1;
   2 KAF 1 MEEM 2 FINAL 1;2 LAM 1 JEEM 4;2 NOON 3 HAH 2;2 JEEM 1 HAH 1 YEH 2;2 HAH 1 JEEM 4;
   2 MEEM 6;2 FEH 1 MEEM 4;2 BEH 1 HAH 4;2 KAF 1 MEEM 1 MEEM INITIAL 1;2 AIN 1 JEEM 4;
   2 SAD 1 MEEM 4;2 SEEN 1 KHAH 1 YEH FINAL 1;2 NOON 1 JEEM 4;U+FDCF;2 SALAAMUHU ALAYNAA;U+FDF0;
   2 SALLA USED AS KORANIC STOP SIGN ISOLATED FORM;2 QALA 7;2 ALLAH ISOLATED FORM;2 AKBAR 2;
   2 MOHAMMAD 2;2 SALAM 2;2 RASOUL 2;2 ALAYHE 2;2 WASALLAM 2;2 SALLA 2;
   2 SALLALLAHOU ALAYHE WASALLAM;2 JALLAJALALOUHOU;RIAL SIGN;
   ARABIC LIGATURE BISMILLAH AR-RAHMAN AR-RAHEEM;2 SUBHAANAHU WA TAAALAA;2 AZZA 1 JALL;
   VARIATION SELECTOR-1;+15;PRESENTATION FORM FOR VERTICAL COMMA;4 IDEOGRAPHIC COMMA;5 FULL STOP;
   4 COLON;4 SEMICOLON;4 EXCLAMATION MARK;4 QUESTION 1;4 LEFT WHITE LENTICULAR BRACKET;
   4 RIGHT 2 BRAKCET;4 HORIZONTAL ELLIPSIS;U+FE20;COMBINING LIGATURE LEFT HALF;2 RIGHT 1;
   1 DOUBLE TILDE LEFT HALF;3 RIGHT 1;1 MACRON LEFT HALF;2 RIGHT 1;1 CONJOINING MACRON;
   1 LIGATURE LEFT HALF BELOW;2 RIGHT 2;1 TILDE LEFT 2;2 RIGHT 2;1 MACRON LEFT 2;2 RIGHT 2;
   1 CONJOINING MACRON BELOW;1 CYRILLIC TITLO LEFT HALF;3 RIGHT 1;
   PRESENTATION FORM FOR VERTICAL TWO DOT LEADER;4 EM DASH;4 EN 1;4 LOW LINE;4 WAVY LOW LINE;
   4 LEFT PARENTHESIS;4 RIGHT 1;4 LEFT CURLY BRACKET;4 RIGHT 2;4 LEFT TORTOISE SHELL BRACKET;
   4 RIGHT 3;4 LEFT BLACK LENTICULAR 1;4 RIGHT 3;4 LEFT DOUBLE ANGLE 1;4 RIGHT 3;
   4 LEFT ANGLE BRACKET;4 RIGHT 2;4 LEFT CORNER 1;4 RIGHT 2;4 LEFT WHITE CORNER BRACKET;4 RIGHT 3;
   SESAME DOT;WHITE SESAME DOT;PRESENTATION FORM FOR VERTICAL LEFT SQUARE BRACKET;4 RIGHT 2;
   DASHED OVERLINE;CENTRELINE 1;WAVY 1;DOUBLE WAVY OVERLINE;DASHED LOW LINE;CENTRELINE 2;WAVY 2;
   SMALL COMMA;1 IDEOGRAPHIC COMMA;1 FULL STOP;U+FE54;1 SEMICOLON;1 COLON;1 QUESTION MARK;
   1 EXCLAMATION 1;1 EM DASH;1 LEFT PARENTHESIS;1 RIGHT 1;1 LEFT CURLY BRACKET;1 RIGHT 2;
   1 LEFT TORTOISE SHELL BRACKET;1 RIGHT 3;1 NUMBER SIGN;1 AMPERSAND;1 ASTERISK;1 PLUS SIGN;
   1 HYPHEN-MINUS;1 LESS-THAN SIGN;1 GREATER-THAN 1;1 EQUALS 1;U+FE68;1 REVERSE SOLIDUS;
   1 DOLLAR SIGN;1 PERCENT 1;1 COMMERCIAL AT;U+FE70;ARABIC FATHATAN ISOLATED FORM;
   1 TATWEEL WITH FATHATAN ABOVE;1 DAMMATAN ISOLATED FORM;1 TAIL FRAGMENT;1 KASRATAN ISOLATED FORM;
   U+FE76;1 FATHA 2;2 MEDIAL 1;1 DAMMA ISOLATED 1;2 MEDIAL 1;1 KASRA ISOLATED 1;2 MEDIAL 1;
   1 SHADDA ISOLATED 1;2 MEDIAL 1;1 SUKUN ISOLATED 1;2 MEDIAL 1;1 LETTER HAMZA ISOLATED FORM;
   2 ALEF WITH MADDA ABOVE ISOLATED FORM;6 FINAL 1;4 HAMZA 1 ISOLATED 1;6 FINAL 1;
   2 WAW 3 ISOLATED 1;6 FINAL 1;2 ALEF 2 BELOW ISOLATED 1;6 FINAL 1;2 YEH 2 ABOVE ISOLATED 1;
   6 FINAL 1;6 INITIAL 1;6 MEDIAL 1;2 ALEF ISOLATED FORM;3 FINAL 1;2 BEH ISOLATED 1;3 FINAL 1;
   3 INITIAL 1;3 MEDIAL 1;2 TEH MARBUTA ISOLATED FORM;4 FINAL 1;3 ISOLATED FORM;3 FINAL 1;
   3 INITIAL 1;3 MEDIAL 1;2 THEH ISOLATED 1;3 FINAL 1;3 INITIAL 1;3 MEDIAL 1;2 JEEM ISOLATED 1;
   3 FINAL 1;3 INITIAL 1;3 MEDIAL 1;2 HAH ISOLATED 1;3 FINAL 1;3 INITIAL 1;3 MEDIAL 1;
   2 KHAH ISOLATED 1;3 FINAL 1;3 INITIAL 1;3 MEDIAL 1;2 DAL ISOLATED 1;3 FINAL 1;2 THAL ISOLATED 1;
   3 FINAL 1;2 REH ISOLATED 1;3 FINAL 1;2 ZAIN ISOLATED 1;3 FINAL 1;2 SEEN ISOLATED 1;3 FINAL 1;
   3 INITIAL 1;3 MEDIAL 1;2 SHEEN ISOLATED 1;3 FINAL 1;3 INITIAL 1;3 MEDIAL 1;2 SAD ISOLATED 1;
   3 FINAL 1;3 INITIAL 1;3 MEDIAL 1;2 DAD ISOLATED 1;3 FINAL 1;3 INITIAL 1;3 MEDIAL 1;
   2 TAH ISOLATED 1;3 FINAL 1;3 INITIAL 1;3 MEDIAL 1;2 ZAH ISOLATED 1;3 FINAL 1;3 INITIAL 1;
   3 MEDIAL 1;2 AIN ISOLATED 1;3 FINAL 1;3 INITIAL 1;3 MEDIAL 1;2 GHAIN ISOLATED 1;3 FINAL 1;
   3 INITIAL 1;3 MEDIAL 1;2 FEH ISOLATED 1;3 FINAL 1;3 INITIAL 1;3 MEDIAL 1;2 QAF ISOLATED 1;
   3 FINAL 1;3 INITIAL 1;3 MEDIAL 1;2 KAF ISOLATED 1;3 FINAL 1;3 INITIAL 1;3 MEDIAL 1;
   2 LAM ISOLATED 1;3 FINAL 1;3 INITIAL 1;3 MEDIAL 1;2 MEEM ISOLATED 1;3 FINAL 1;3 INITIAL 1;
   3 MEDIAL 1;2 NOON ISOLATED 1;3 FINAL 1;3 INITIAL 1;3 MEDIAL 1;2 HEH ISOLATED 1;3 FINAL 1;
   3 INITIAL 1;3 MEDIAL 1;2 WAW ISOLATED 1;3 FINAL 1;2 ALEF MAKSURA ISOLATED FORM;4 FINAL 1;
   2 YEH ISOLATED FORM;3 FINAL 1;3 INITIAL 1;3 MEDIAL 1;
   1 LIGATURE LAM WITH ALEF WITH MADDA ABOVE ISOLATED FORM;8 FINAL 1;6 HAMZA 1 ISOLATED 1;8 FINAL 1;
   7 BELOW ISOLATED 1;8 FINAL 1;5 ISOLATED FORM;5 FINAL 1;U+FEFF;ZERO WIDTH NO-BREAK SPACE;U+FF01;
   FULLWIDTH EXCLAMATION MARK;1 QUOTATION 1;1 NUMBER SIGN;1 DOLLAR 1;1 PERCENT 1;1 AMPERSAND;
   1 APOSTROPHE;1 LEFT PARENTHESIS;1 RIGHT 1;1 ASTERISK;1 PLUS SIGN;1 COMMA;1 HYPHEN-MINUS;
   1 FULL STOP;1 SOLIDUS;1 DIGIT ZERO;2 ONE;2 TWO;2 THREE;2 FOUR;2 FIVE;2 SIX;2 SEVEN;2 EIGHT;
   2 NINE;1 COLON;1 SEMICOLON;1 LESS-THAN SIGN;1 EQUALS 1;1 GREATER-THAN 1;1 QUESTION MARK;
   1 COMMERCIAL AT;1 LATIN CAPITAL LETTER A;4 B;4 C;4 D;4 E;4 F;4 G;4 H;4 I;4 J;4 K;4 L;4 M;4 N;4 O;
   4 P;4 Q;4 R;4 S;4 T;4 U;4 V;4 W;4 X;4 Y;4 Z;1 LEFT SQUARE BRACKET;1 REVERSE SOLIDUS;
   1 RIGHT SQUARE BRACKET;1 CIRCUMFLEX ACCENT;1 LOW LINE;1 GRAVE ACCENT;1 LATIN SMALL LETTER A;4 B;
   4 C;4 D;4 E;4 F;4 G;4 H;4 I;4 J;4 K;4 L;4 M;4 N;4 O;4 P;4 Q;4 R;4 S;4 T;4 U;4 V;4 W;4 X;4 Y;4 Z;
   1 LEFT CURLY BRACKET;1 VERTICAL LINE;1 RIGHT CURLY BRACKET;1 TILDE;1 LEFT WHITE PARENTHESIS;
   1 RIGHT 2;HALFWIDTH IDEOGRAPHIC FULL STOP;1 LEFT CORNER BRACKET;1 RIGHT 2;1 IDEOGRAPHIC COMMA;
   1 KATAKANA MIDDLE DOT;2 LETTER WO;3 SMALL A;4 I;4 U;4 E;4 O;4 YA;4 YU;4 YO;4 TU;
   1 KATAKANA-HIRAGANA PROLONGED SOUND MARK;1 KATAKANA LETTER A;3 I;3 U;3 E;3 O;3 KA;3 KI;3 KU;3 KE;
   3 KO;3 SA;3 SI;3 SU;3 SE;3 SO;3 TA;3 TI;3 TU;3 TE;3 TO;3 NA;3 NI;3 NU;3 NE;3 NO;3 HA;3 HI;3 HU;
   3 HE;3 HO;3 MA;3 MI;3 MU;3 ME;3 MO;3 YA;3 YU;3 YO;3 RA;3 RI;3 RU;3 RE;3 RO;3 WA;3 N;
   2 VOICED SOUND MARK;2 SEMI-VOICED 2;1 HANGUL FILLER;2 LETTER KIYEOK;3 SSANGKIYEOK;3 KIYEOK-SIOS;
   3 NIEUN;3 NIEUN-CIEUC;3 NIEUN-HIEUH;3 TIKEUT;3 SSANGTIKEUT;3 RIEUL;3 RIEUL-KIYEOK;3 RIEUL-MIEUM;
   3 RIEUL-PIEUP;3 RIEUL-SIOS;3 RIEUL-THIEUTH;3 RIEUL-PHIEUPH;3 RIEUL-HIEUH;3 MIEUM;3 PIEUP;
   3 SSANGPIEUP;3 PIEUP-SIOS;3 SIOS;3 SSANGSIOS;3 IEUNG;3 CIEUC;3 SSANGCIEUC;3 CHIEUCH;3 KHIEUKH;
   3 THIEUTH;3 PHIEUPH;3 HIEUH;U+FFC2;3 A;3 AE;3 YA;3 YAE;3 EO;3 E;U+FFCA;3 YEO;3 YE;3 O;3 WA;3 WAE;
   3 OE;U+FFD2;3 YO;3 U;3 WEO;3 WE;3 WI;3 YU;U+FFDA;3 EU;3 YI;3 I;U+FFE0;FULLWIDTH CENT SIGN;
   1 POUND 1;1 NOT 1;1 MACRON;1 BROKEN BAR;1 YEN SIGN;1 WON 1;U+FFE8;HALFWIDTH FORMS LIGHT VERTICAL;
   1 LEFTWARDS ARROW;1 UPWARDS 1;1 RIGHTWARDS 1;1 DOWNWARDS 1;1 BLACK SQUARE;1 WHITE CIRCLE;U+FFF9;
   INTERLINEAR ANNOTATION ANCHOR;2 SEPARATOR;2 TERMINATOR;OBJECT REPLACEMENT CHARACTER;
   REPLACEMENT CHARACTER"

end ApiShell.Template.CharacterName
