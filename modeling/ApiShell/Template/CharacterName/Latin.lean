/-! Names of the Latin alphabet, of phonetic letters and of the signs that come with them, as a
listing. -/

namespace ApiShell.Template.CharacterName

/-- The signs and letters of Latin scripts. -/
def latin : String :=
  "U+0020;SPACE;EXCLAMATION MARK;QUOTATION 1;NUMBER SIGN;DOLLAR 1;PERCENT 1;AMPERSAND;APOSTROPHE;
   LEFT PARENTHESIS;RIGHT 1;ASTERISK;PLUS SIGN;COMMA;HYPHEN-MINUS;FULL STOP;SOLIDUS;DIGIT ZERO;
   1 ONE;1 TWO;1 THREE;1 FOUR;1 FIVE;1 SIX;1 SEVEN;1 EIGHT;1 NINE;COLON;SEMICOLON;LESS-THAN SIGN;
   EQUALS 1;GREATER-THAN 1;QUESTION MARK;COMMERCIAL AT;LATIN CAPITAL LETTER A;3 B;3 C;3 D;3 E;3 F;
   3 G;3 H;3 I;3 J;3 K;3 L;3 M;3 N;3 O;3 P;3 Q;3 R;3 S;3 T;3 U;3 V;3 W;3 X;3 Y;3 Z;
   LEFT SQUARE BRACKET;REVERSE SOLIDUS;RIGHT SQUARE BRACKET;CIRCUMFLEX ACCENT;LOW LINE;GRAVE ACCENT;
   LATIN SMALL LETTER A;3 B;3 C;3 D;3 E;3 F;3 G;3 H;3 I;3 J;3 K;3 L;3 M;3 N;3 O;3 P;3 Q;3 R;3 S;3 T;
   3 U;3 V;3 W;3 X;3 Y;3 Z;LEFT CURLY BRACKET;VERTICAL LINE;RIGHT CURLY BRACKET;TILDE;U+00A0;
   NO-BREAK SPACE;INVERTED EXCLAMATION MARK;CENT SIGN;POUND 1;CURRENCY 1;YEN 1;BROKEN BAR;
   SECTION SIGN;DIAERESIS;COPYRIGHT SIGN;FEMININE ORDINAL INDICATOR;
   LEFT-POINTING DOUBLE ANGLE QUOTATION MARK;NOT SIGN;SOFT HYPHEN;REGISTERED SIGN;MACRON;
   DEGREE SIGN;PLUS-MINUS 1;SUPERSCRIPT TWO;1 THREE;ACUTE ACCENT;MICRO SIGN;PILCROW 1;MIDDLE DOT;
   CEDILLA;SUPERSCRIPT ONE;MASCULINE ORDINAL INDICATOR;RIGHT-POINTING DOUBLE ANGLE QUOTATION MARK;
   VULGAR FRACTION ONE QUARTER;3 HALF;2 THREE QUARTERS;INVERTED QUESTION MARK;
   LATIN CAPITAL LETTER A WITH GRAVE;5 ACUTE;5 CIRCUMFLEX;5 TILDE;5 DIAERESIS;5 RING ABOVE;3 AE;
   3 C WITH CEDILLA;3 E 1 GRAVE;5 ACUTE;5 CIRCUMFLEX;5 DIAERESIS;3 I 1 GRAVE;5 ACUTE;5 CIRCUMFLEX;
   5 DIAERESIS;3 ETH;3 N WITH TILDE;3 O 1 GRAVE;5 ACUTE;5 CIRCUMFLEX;5 TILDE;5 DIAERESIS;
   MULTIPLICATION SIGN;LATIN CAPITAL LETTER O WITH STROKE;3 U 1 GRAVE;5 ACUTE;5 CIRCUMFLEX;
   5 DIAERESIS;3 Y 1 ACUTE;3 THORN;1 SMALL 1 SHARP S;3 A WITH GRAVE;5 ACUTE;5 CIRCUMFLEX;5 TILDE;
   5 DIAERESIS;5 RING ABOVE;3 AE;3 C WITH CEDILLA;3 E 1 GRAVE;5 ACUTE;5 CIRCUMFLEX;5 DIAERESIS;
   3 I 1 GRAVE;5 ACUTE;5 CIRCUMFLEX;5 DIAERESIS;3 ETH;3 N WITH TILDE;3 O 1 GRAVE;5 ACUTE;
   5 CIRCUMFLEX;5 TILDE;5 DIAERESIS;DIVISION SIGN;LATIN SMALL LETTER O WITH STROKE;3 U 1 GRAVE;
   5 ACUTE;5 CIRCUMFLEX;5 DIAERESIS;3 Y 1 ACUTE;3 THORN;3 Y WITH DIAERESIS;1 CAPITAL 1 A 1 MACRON;
   1 SMALL 4;1 CAPITAL 3 BREVE;1 SMALL 4;1 CAPITAL 3 OGONEK;1 SMALL 4;1 CAPITAL 1 C 1 ACUTE;
   1 SMALL 4;1 CAPITAL 3 CIRCUMFLEX;1 SMALL 4;1 CAPITAL 3 DOT ABOVE;1 SMALL 5;1 CAPITAL 3 CARON;
   1 SMALL 4;1 CAPITAL 1 D 2;1 SMALL 4;1 CAPITAL 3 STROKE;1 SMALL 4;1 CAPITAL 1 E 1 MACRON;
   1 SMALL 4;1 CAPITAL 3 BREVE;1 SMALL 4;1 CAPITAL 3 DOT ABOVE;1 SMALL 5;1 CAPITAL 3 OGONEK;
   1 SMALL 4;1 CAPITAL 3 CARON;1 SMALL 4;1 CAPITAL 1 G 1 CIRCUMFLEX;1 SMALL 4;1 CAPITAL 3 BREVE;
   1 SMALL 4;1 CAPITAL 3 DOT ABOVE;1 SMALL 5;1 CAPITAL 3 CEDILLA;1 SMALL 4;
   1 CAPITAL 1 H 1 CIRCUMFLEX;1 SMALL 4;1 CAPITAL 3 STROKE;1 SMALL 4;1 CAPITAL 1 I 1 TILDE;
   1 SMALL 4;1 CAPITAL 3 MACRON;1 SMALL 4;1 CAPITAL 3 BREVE;1 SMALL 4;1 CAPITAL 3 OGONEK;1 SMALL 4;
   1 CAPITAL 3 DOT ABOVE;1 SMALL 1 DOTLESS I;1 CAPITAL LIGATURE IJ;1 SMALL 2;
   1 CAPITAL LETTER J WITH CIRCUMFLEX;1 SMALL 4;1 CAPITAL 1 K 1 CEDILLA;1 SMALL 4;3 KRA;
   1 CAPITAL 1 L WITH ACUTE;1 SMALL 4;1 CAPITAL 3 CEDILLA;1 SMALL 4;1 CAPITAL 3 CARON;1 SMALL 4;
   1 CAPITAL 3 MIDDLE DOT;1 SMALL 5;1 CAPITAL 3 STROKE;1 SMALL 4;1 CAPITAL 1 N 1 ACUTE;1 SMALL 4;
   1 CAPITAL 3 CEDILLA;1 SMALL 4;1 CAPITAL 3 CARON;1 SMALL 4;4 PRECEDED BY APOSTROPHE;
   1 CAPITAL 1 ENG;1 SMALL 2;1 CAPITAL 1 O WITH MACRON;1 SMALL 4;1 CAPITAL 3 BREVE;1 SMALL 4;
   1 CAPITAL 3 DOUBLE ACUTE;1 SMALL 5;1 CAPITAL LIGATURE OE;1 SMALL 2;1 CAPITAL LETTER R WITH ACUTE;
   1 SMALL 4;1 CAPITAL 3 CEDILLA;1 SMALL 4;1 CAPITAL 3 CARON;1 SMALL 4;1 CAPITAL 1 S 1 ACUTE;
   1 SMALL 4;1 CAPITAL 3 CIRCUMFLEX;1 SMALL 4;1 CAPITAL 3 CEDILLA;1 SMALL 4;1 CAPITAL 3 CARON;
   1 SMALL 4;1 CAPITAL 1 T 1 CEDILLA;1 SMALL 4;1 CAPITAL 3 CARON;1 SMALL 4;1 CAPITAL 3 STROKE;
   1 SMALL 4;1 CAPITAL 1 U 1 TILDE;1 SMALL 4;1 CAPITAL 3 MACRON;1 SMALL 4;1 CAPITAL 3 BREVE;
   1 SMALL 4;1 CAPITAL 3 RING ABOVE;1 SMALL 5;1 CAPITAL 3 DOUBLE ACUTE;1 SMALL 5;1 CAPITAL 3 OGONEK;
   1 SMALL 4;1 CAPITAL 1 W 1 CIRCUMFLEX;1 SMALL 4;1 CAPITAL 1 Y 2;1 SMALL 4;1 CAPITAL 3 DIAERESIS;
   3 Z 1 ACUTE;1 SMALL 4;1 CAPITAL 3 DOT ABOVE;1 SMALL 5;1 CAPITAL 3 CARON;1 SMALL 4;3 LONG S;
   3 B WITH STROKE;1 CAPITAL 3 HOOK;5 TOPBAR;1 SMALL 4;1 CAPITAL 1 TONE SIX;1 SMALL 3;
   1 CAPITAL 1 OPEN O;3 C WITH HOOK;1 SMALL 4;1 CAPITAL 1 AFRICAN D;3 D WITH HOOK;5 TOPBAR;
   1 SMALL 4;3 TURNED DELTA;1 CAPITAL 1 REVERSED E;3 SCHWA;3 OPEN E;3 F WITH HOOK;1 SMALL 4;
   1 CAPITAL 1 G 2;3 GAMMA;1 SMALL 1 HV;1 CAPITAL 1 IOTA;3 I WITH STROKE;3 K 1 HOOK;1 SMALL 4;
   3 L 1 BAR;3 LAMBDA 1 STROKE;1 CAPITAL 1 TURNED M;3 N WITH LEFT HOOK;1 SMALL 3 LONG RIGHT LEG;
   1 CAPITAL 1 O 1 MIDDLE TILDE;5 HORN;1 SMALL 4;1 CAPITAL 1 OI;1 SMALL 2;1 CAPITAL 1 P WITH HOOK;
   1 SMALL 4;1 LETTER YR;1 CAPITAL LETTER TONE TWO;1 SMALL 3;1 CAPITAL 1 ESH;
   1 LETTER REVERSED 1 LOOP;1 SMALL LETTER T WITH PALATAL HOOK;1 CAPITAL 3 HOOK;1 SMALL 4;
   1 CAPITAL 3 RETROFLEX HOOK;3 U 1 HORN;1 SMALL 4;1 CAPITAL 1 UPSILON;3 V WITH HOOK;3 Y 2;
   1 SMALL 4;1 CAPITAL 1 Z 1 STROKE;1 SMALL 4;1 CAPITAL 1 EZH;4 REVERSED;1 SMALL 3;4 WITH TAIL;
   1 LETTER TWO WITH STROKE;1 CAPITAL LETTER TONE FIVE;1 SMALL 3;
   1 LETTER INVERTED GLOTTAL STOP WITH STROKE;2 WYNN;2 DENTAL CLICK;2 LATERAL 1;2 ALVEOLAR 1;
   2 RETROFLEX 1;1 CAPITAL LETTER DZ WITH CARON;3 D 1 SMALL LETTER Z WITH CARON;
   1 SMALL 1 DZ 1 CARON;1 CAPITAL 1 LJ;3 L WITH SMALL LETTER J;1 SMALL 1 LJ;1 CAPITAL 1 NJ;
   3 N WITH SMALL LETTER J;1 SMALL 1 NJ;1 CAPITAL 1 A WITH CARON;1 SMALL 4;1 CAPITAL 1 I 2;
   1 SMALL 4;1 CAPITAL 1 O 2;1 SMALL 4;1 CAPITAL 1 U 2;1 SMALL 4;1 CAPITAL 3 DIAERESIS AND MACRON;
   1 SMALL 6;1 CAPITAL 5 ACUTE;1 SMALL 6;1 CAPITAL 5 CARON;1 SMALL 6;1 CAPITAL 5 GRAVE;1 SMALL 6;
   3 TURNED E;1 CAPITAL 1 A WITH DIAERESIS AND MACRON;1 SMALL 6;1 CAPITAL 3 DOT ABOVE AND MACRON;
   1 SMALL 7;1 CAPITAL 1 AE 1 MACRON;1 SMALL 4;1 CAPITAL 1 G 1 STROKE;1 SMALL 4;1 CAPITAL 3 CARON;
   1 SMALL 4;1 CAPITAL 1 K 2;1 SMALL 4;1 CAPITAL 1 O 1 OGONEK;1 SMALL 4;1 CAPITAL 4 AND MACRON;
   1 SMALL 6;1 CAPITAL 1 EZH 1 CARON;1 SMALL 4;3 J 2;1 CAPITAL 1 DZ;3 D WITH SMALL LETTER Z;
   1 SMALL 1 DZ;1 CAPITAL 1 G WITH ACUTE;1 SMALL 4;1 CAPITAL 1 HWAIR;3 WYNN;3 N WITH GRAVE;
   1 SMALL 4;1 CAPITAL 1 A 1 RING ABOVE AND ACUTE;1 SMALL 7;1 CAPITAL 1 AE 1 ACUTE;1 SMALL 4;
   1 CAPITAL 1 O 1 STROKE AND ACUTE;1 SMALL 6;1 CAPITAL 1 A 1 DOUBLE GRAVE;1 SMALL 5;
   1 CAPITAL 3 INVERTED BREVE;1 SMALL 5;1 CAPITAL 1 E 1 DOUBLE GRAVE;1 SMALL 5;
   1 CAPITAL 3 INVERTED BREVE;1 SMALL 5;1 CAPITAL 1 I 1 DOUBLE GRAVE;1 SMALL 5;
   1 CAPITAL 3 INVERTED BREVE;1 SMALL 5;1 CAPITAL 1 O 1 DOUBLE GRAVE;1 SMALL 5;
   1 CAPITAL 3 INVERTED BREVE;1 SMALL 5;1 CAPITAL 1 R 1 DOUBLE GRAVE;1 SMALL 5;
   1 CAPITAL 3 INVERTED BREVE;1 SMALL 5;1 CAPITAL 1 U 1 DOUBLE GRAVE;1 SMALL 5;
   1 CAPITAL 3 INVERTED BREVE;1 SMALL 5;1 CAPITAL 1 S 1 COMMA BELOW;1 SMALL 5;1 CAPITAL 1 T 3;
   1 SMALL 5;1 CAPITAL 1 YOGH;1 SMALL 2;1 CAPITAL 1 H WITH CARON;1 SMALL 4;
   1 CAPITAL 1 N 1 LONG RIGHT LEG;1 SMALL 1 D 1 CURL;1 CAPITAL 1 OU;1 SMALL 2;
   1 CAPITAL 1 Z WITH HOOK;1 SMALL 4;1 CAPITAL 1 A 1 DOT ABOVE;1 SMALL 5;1 CAPITAL 1 E 1 CEDILLA;
   1 SMALL 4;1 CAPITAL 1 O 1 DIAERESIS AND MACRON;1 SMALL 6;1 CAPITAL 3 TILDE 2;1 SMALL 6;
   1 CAPITAL 3 DOT ABOVE;1 SMALL 5;1 CAPITAL 5 AND MACRON;1 SMALL 7;1 CAPITAL 1 Y 1 MACRON;
   1 SMALL 4;3 L 1 CURL;3 N 2;3 T 2;3 DOTLESS J;3 DB DIGRAPH;3 QP 1;1 CAPITAL 1 A WITH STROKE;3 C 2;
   1 SMALL 4;1 CAPITAL 1 L 1 BAR;3 T 1 DIAGONAL STROKE;1 SMALL 1 S 1 SWASH TAIL;3 Z 3;
   1 CAPITAL 1 GLOTTAL STOP;1 SMALL 3;1 CAPITAL 1 B WITH STROKE;3 U BAR;3 TURNED V;3 E WITH STROKE;
   1 SMALL 4;1 CAPITAL 1 J 2;1 SMALL 4;1 CAPITAL 1 SMALL Q WITH HOOK TAIL;
   1 SMALL 1 Q WITH HOOK TAIL;1 CAPITAL 1 R 1 STROKE;1 SMALL 4;1 CAPITAL 1 Y 2;1 SMALL 4;3 TURNED A;
   3 ALPHA;3 TURNED ALPHA;3 B WITH HOOK;3 OPEN O;3 C WITH CURL;3 D 1 TAIL;5 HOOK;3 REVERSED E;
   3 SCHWA;4 WITH HOOK;3 OPEN E;3 REVERSED OPEN E;6 WITH HOOK;3 CLOSED REVERSED OPEN E;
   3 DOTLESS J WITH STROKE;3 G WITH HOOK;3 SCRIPT G;1 LETTER SMALL CAPITAL 1;1 SMALL LETTER GAMMA;
   3 RAMS HORN;3 TURNED H;3 H WITH HOOK;3 HENG 2;3 I 1 STROKE;3 IOTA;1 LETTER SMALL CAPITAL I;
   1 SMALL LETTER L WITH MIDDLE TILDE;5 BELT;5 RETROFLEX HOOK;3 LEZH;3 TURNED M;5 WITH LONG LEG;
   3 M WITH HOOK;3 N 1 LEFT HOOK;5 RETROFLEX 1;1 LETTER SMALL CAPITAL N;1 SMALL LETTER BARRED O;
   1 LETTER SMALL CAPITAL OE;1 SMALL LETTER CLOSED OMEGA;3 PHI;3 TURNED R;5 WITH LONG LEG;6 HOOK;
   3 R WITH LONG LEG;5 TAIL;5 FISHHOOK;3 REVERSED R WITH FISHHOOK;1 LETTER SMALL CAPITAL 1;
   4 INVERTED R;1 SMALL LETTER S WITH HOOK;3 ESH;3 DOTLESS J WITH STROKE AND HOOK;
   3 SQUAT REVERSED ESH;3 ESH WITH CURL;3 TURNED T;3 T WITH RETROFLEX HOOK;3 U BAR;3 UPSILON;
   3 V WITH HOOK;3 TURNED V;4 W;4 Y;1 LETTER SMALL CAPITAL 1;1 SMALL LETTER Z WITH RETROFLEX HOOK;
   5 CURL;3 EZH;4 WITH CURL;1 LETTER GLOTTAL STOP;2 PHARYNGEAL VOICED FRICATIVE;
   2 INVERTED GLOTTAL STOP;2 STRETCHED C;2 BILABIAL CLICK;2 SMALL CAPITAL B;
   1 SMALL LETTER CLOSED OPEN E;1 LETTER SMALL CAPITAL G WITH HOOK;4 H;
   1 SMALL LETTER J WITH CROSSED-TAIL;3 TURNED K;1 LETTER SMALL CAPITAL L;
   1 SMALL LETTER Q WITH HOOK;1 LETTER GLOTTAL STOP 1 STROKE;2 REVERSED GLOTTAL STOP WITH STROKE;
   1 SMALL LETTER DZ DIGRAPH;3 DEZH 1;3 DZ 1 WITH CURL;3 TS 1;3 TESH 1;3 TC 1 WITH CURL;3 FENG 1;
   3 LS 1;3 LZ 1;1 LETTER BILABIAL PERCUSSIVE;2 BIDENTAL 1;1 SMALL LETTER TURNED H WITH FISHHOOK;
   7 AND TAIL;MODIFIER LETTER SMALL H;4 WITH HOOK;3 J;3 R;3 TURNED R;5 WITH HOOK;
   3 CAPITAL INVERTED R;3 W;3 Y;2 PRIME;2 DOUBLE PRIME;2 TURNED COMMA;2 APOSTROPHE;2 REVERSED COMMA;
   2 RIGHT HALF RING;2 LEFT 2;2 GLOTTAL STOP;2 REVERSED GLOTTAL STOP;2 LEFT ARROWHEAD;2 RIGHT 1;
   2 UP 1;2 DOWN 1;2 CIRCUMFLEX ACCENT;CARON;MODIFIER LETTER VERTICAL LINE;2 MACRON;2 ACUTE ACCENT;
   2 GRAVE 1;2 LOW VERTICAL LINE;3 MACRON;3 GRAVE ACCENT;3 ACUTE 1;2 TRIANGULAR COLON;
   2 HALF TRIANGULAR COLON;2 CENTRED RIGHT HALF RING;3 LEFT 2;2 UP TACK;2 DOWN 1;2 PLUS SIGN;
   2 MINUS 1;BREVE;DOT ABOVE;RING 1;OGONEK;SMALL TILDE;DOUBLE ACUTE ACCENT;
   MODIFIER LETTER RHOTIC HOOK;2 CROSS ACCENT;2 SMALL GAMMA;3 L;3 S;3 X;3 REVERSED GLOTTAL STOP;
   2 EXTRA-HIGH TONE BAR;2 HIGH 2;2 MID 2;2 LOW 2;2 EXTRA-LOW 2;2 YIN DEPARTING TONE MARK;2 YANG 3;
   2 VOICING;2 UNASPIRATED;2 DOUBLE APOSTROPHE;2 LOW DOWN ARROWHEAD;3 UP 1;3 LEFT 1;3 RIGHT 1;
   3 RING;2 MIDDLE GRAVE ACCENT;3 DOUBLE GRAVE ACCENT;4 ACUTE 1;2 LOW TILDE;2 RAISED COLON;
   2 BEGIN HIGH TONE;2 END 2;2 BEGIN LOW 1;2 END 2;2 SHELF;2 OPEN SHELF;2 LOW LEFT ARROW"

end ApiShell.Template.CharacterName
