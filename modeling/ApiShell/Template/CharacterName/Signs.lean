/-! Names of punctuation, currencies, numerals, arrows, mathematics and technology, as a listing.
-/

namespace ApiShell.Template.CharacterName

/-- Punctuation, arrows and mathematics. -/
def signs : String :=
  "U+2000;EN QUAD;EM 1;EN SPACE;EM 1;THREE-PER-EM 1;FOUR-PER-EM 1;SIX-PER-EM 1;FIGURE 1;
   PUNCTUATION 1;THIN 1;HAIR 1;ZERO WIDTH SPACE;2 NON-JOINER;2 JOINER;LEFT-TO-RIGHT MARK;
   RIGHT-TO-LEFT 1;HYPHEN;NON-BREAKING HYPHEN;FIGURE DASH;EN 1;EM 1;HORIZONTAL BAR;
   DOUBLE VERTICAL LINE;1 LOW 1;LEFT SINGLE QUOTATION MARK;RIGHT 3;SINGLE LOW-9 2;
   1 HIGH-REVERSED-9 2;LEFT DOUBLE 2;RIGHT 3;DOUBLE LOW-9 2;1 HIGH-REVERSED-9 2;DAGGER;
   DOUBLE DAGGER;BULLET;TRIANGULAR BULLET;ONE DOT LEADER;TWO 2;HORIZONTAL ELLIPSIS;
   HYPHENATION POINT;LINE SEPARATOR;PARAGRAPH 1;LEFT-TO-RIGHT EMBEDDING;RIGHT-TO-LEFT 1;
   POP DIRECTIONAL FORMATTING;LEFT-TO-RIGHT OVERRIDE;RIGHT-TO-LEFT 1;NARROW NO-BREAK SPACE;
   PER MILLE SIGN;1 TEN THOUSAND SIGN;PRIME;DOUBLE PRIME;TRIPLE 1;REVERSED 1;1 DOUBLE PRIME;
   1 TRIPLE 1;CARET;SINGLE LEFT-POINTING ANGLE QUOTATION MARK;1 RIGHT-POINTING 3;REFERENCE MARK;
   DOUBLE EXCLAMATION MARK;INTERROBANG;OVERLINE;UNDERTIE;CHARACTER TIE;CARET INSERTION POINT;
   ASTERISM;HYPHEN BULLET;FRACTION SLASH;LEFT SQUARE BRACKET WITH QUILL;RIGHT 4;
   DOUBLE QUESTION MARK;QUESTION EXCLAMATION 1;EXCLAMATION QUESTION 1;TIRONIAN SIGN ET;
   REVERSED PILCROW SIGN;BLACK LEFTWARDS BULLET;1 RIGHTWARDS 1;LOW ASTERISK;REVERSED SEMICOLON;
   CLOSE UP;TWO ASTERISKS ALIGNED VERTICALLY;COMMERCIAL MINUS SIGN;SWUNG DASH;INVERTED UNDERTIE;
   FLOWER PUNCTUATION MARK;THREE DOT PUNCTUATION;QUADRUPLE PRIME;FOUR DOT PUNCTUATION;FIVE 2;TWO 2;
   FOUR 1 MARK;DOTTED CROSS;TRICOLON;VERTICAL FOUR DOTS;MEDIUM MATHEMATICAL SPACE;WORD JOINER;
   FUNCTION APPLICATION;INVISIBLE TIMES;1 SEPARATOR;1 PLUS;U+2066;LEFT-TO-RIGHT ISOLATE;
   RIGHT-TO-LEFT 1;FIRST STRONG ISOLATE;POP DIRECTIONAL 1;INHIBIT SYMMETRIC SWAPPING;ACTIVATE 2;
   INHIBIT ARABIC FORM SHAPING;ACTIVATE 3;NATIONAL DIGIT SHAPES;NOMINAL 2;SUPERSCRIPT ZERO;
   1 LATIN SMALL LETTER I;U+2074;1 FOUR;1 FIVE;1 SIX;1 SEVEN;1 EIGHT;1 NINE;1 PLUS SIGN;1 MINUS;
   1 EQUALS SIGN;1 LEFT PARENTHESIS;1 RIGHT 1;1 LATIN SMALL LETTER N;SUBSCRIPT ZERO;1 ONE;1 TWO;
   1 THREE;1 FOUR;1 FIVE;1 SIX;1 SEVEN;1 EIGHT;1 NINE;1 PLUS SIGN;1 MINUS;1 EQUALS SIGN;
   1 LEFT PARENTHESIS;1 RIGHT 1;U+2090;LATIN SUBSCRIPT SMALL LETTER A;4 E;4 O;4 X;4 SCHWA;4 H;4 K;
   4 L;4 M;4 N;4 P;4 S;4 T;U+20A0;EURO-CURRENCY SIGN;COLON 1;CRUZEIRO 1;FRENCH FRANC SIGN;LIRA SIGN;
   MILL 1;NAIRA 1;PESETA 1;RUPEE 1;WON 1;NEW SHEQEL SIGN;DONG SIGN;EURO 1;KIP 1;TUGRIK 1;DRACHMA 1;
   GERMAN PENNY SIGN;PESO SIGN;GUARANI 1;AUSTRAL 1;HRYVNIA 1;CEDI 1;LIVRE TOURNOIS SIGN;
   SPESMILO SIGN;TENGE 1;INDIAN RUPEE SIGN;TURKISH LIRA 1;NORDIC MARK 1;MANAT SIGN;RUBLE 1;LARI 1;
   BITCOIN 1;SOM 1;U+20D0;COMBINING LEFT HARPOON ABOVE;1 RIGHT 2;1 LONG VERTICAL LINE OVERLAY;
   1 SHORT 3;1 ANTICLOCKWISE ARROW ABOVE;1 CLOCKWISE 2;1 LEFT 2;1 RIGHT 2;1 RING OVERLAY;
   1 CLOCKWISE RING OVERLAY;1 ANTICLOCKWISE 2;1 THREE DOTS ABOVE;1 FOUR 2;1 ENCLOSING CIRCLE;
   2 SQUARE;2 DIAMOND;2 CIRCLE BACKSLASH;1 LEFT RIGHT ARROW ABOVE;1 ENCLOSING SCREEN;2 KEYCAP;
   2 UPWARD POINTING TRIANGLE;1 REVERSE SOLIDUS OVERLAY;1 DOUBLE VERTICAL STROKE OVERLAY;
   1 ANNUITY SYMBOL;1 TRIPLE UNDERDOT;1 WIDE BRIDGE ABOVE;1 LEFTWARDS ARROW OVERLAY;
   1 LONG DOUBLE SOLIDUS OVERLAY;1 RIGHTWARDS HARPOON WITH BARB DOWNWARDS;1 LEFTWARDS 4;
   1 LEFT ARROW BELOW;1 RIGHT 2;1 ASTERISK ABOVE;U+2100;ACCOUNT OF;ADDRESSED TO THE SUBJECT;
   DOUBLE-STRUCK CAPITAL C;DEGREE CELSIUS;CENTRE LINE SYMBOL;CARE OF;CADA UNA;EULER CONSTANT;
   SCRUPLE;DEGREE FAHRENHEIT;SCRIPT SMALL G;1 CAPITAL H;BLACK-LETTER 2;DOUBLE-STRUCK 2;
   PLANCK CONSTANT;2 OVER TWO PI;SCRIPT CAPITAL I;BLACK-LETTER 2;SCRIPT 1 L;1 SMALL 1;
   L B BAR SYMBOL;DOUBLE-STRUCK CAPITAL N;NUMERO SIGN;SOUND RECORDING COPYRIGHT;SCRIPT CAPITAL P;
   DOUBLE-STRUCK 2;2 Q;SCRIPT 1 R;BLACK-LETTER 2;DOUBLE-STRUCK 2;PRESCRIPTION TAKE;RESPONSE;
   SERVICE MARK;TELEPHONE SIGN;TRADE MARK SIGN;VERSICLE;DOUBLE-STRUCK CAPITAL Z;OUNCE SIGN;OHM 1;
   INVERTED OHM SIGN;BLACK-LETTER CAPITAL Z;TURNED GREEK SMALL LETTER IOTA;KELVIN SIGN;ANGSTROM 1;
   SCRIPT CAPITAL B;BLACK-LETTER 1 C;ESTIMATED SYMBOL;SCRIPT SMALL E;1 CAPITAL 1;2 F;TURNED 2;
   SCRIPT 1 M;1 SMALL O;ALEF SYMBOL;BET 1;GIMEL 1;DALET 1;INFORMATION SOURCE;ROTATED CAPITAL Q;
   FACSIMILE SIGN;DOUBLE-STRUCK SMALL PI;2 GAMMA;1 CAPITAL 1;2 PI;1 N-ARY SUMMATION;
   TURNED SANS-SERIF CAPITAL G;3 L;REVERSED 3;TURNED 2 Y;DOUBLE-STRUCK ITALIC 1 D;2 SMALL 1;3 E;3 I;
   3 J;PROPERTY LINE;TURNED AMPERSAND;PER SIGN;AKTIESELSKAB;TURNED SMALL F;
   SYMBOL FOR SAMARITAN SOURCE;VULGAR FRACTION ONE SEVENTH;3 NINTH;3 TENTH;3 THIRD;2 TWO THIRDS;
   2 ONE FIFTH;2 TWO FIFTHS;2 THREE 1;2 FOUR 1;2 ONE SIXTH;2 FIVE SIXTHS;2 ONE EIGHTH;
   2 THREE EIGHTHS;2 FIVE 1;2 SEVEN 1;FRACTION NUMERATOR ONE;ROMAN NUMERAL 1;2 TWO;2 THREE;2 FOUR;
   2 FIVE;2 SIX;2 SEVEN;2 EIGHT;2 NINE;2 TEN;2 ELEVEN;2 TWELVE;2 FIFTY;2 ONE HUNDRED;2 FIVE 1;
   2 ONE THOUSAND;SMALL ROMAN NUMERAL ONE;3 TWO;3 THREE;3 FOUR;3 FIVE;3 SIX;3 SEVEN;3 EIGHT;3 NINE;
   3 TEN;3 ELEVEN;3 TWELVE;3 FIFTY;3 ONE HUNDRED;3 FIVE 1;3 ONE THOUSAND;
   ROMAN NUMERAL ONE THOUSAND C D;2 FIVE 1;2 TEN 1;2 REVERSED ONE HUNDRED;
   LATIN SMALL LETTER REVERSED C;ROMAN NUMERAL SIX LATE FORM;2 FIFTY EARLY 1;3 THOUSAND;
   2 ONE HUNDRED THOUSAND;VULGAR FRACTION ZERO THIRDS;TURNED DIGIT TWO;2 THREE;U+2190;
   LEFTWARDS ARROW;UPWARDS 1;RIGHTWARDS 1;DOWNWARDS 1;LEFT RIGHT ARROW;UP DOWN 1;NORTH WEST 1;
   1 EAST 1;SOUTH 2;1 WEST 1;LEFTWARDS ARROW WITH STROKE;RIGHTWARDS 3;LEFTWARDS WAVE ARROW;
   RIGHTWARDS 2;LEFTWARDS TWO HEADED ARROW;UPWARDS 3;RIGHTWARDS 3;DOWNWARDS 3;
   LEFTWARDS ARROW WITH TAIL;RIGHTWARDS 3;LEFTWARDS 1 FROM BAR;UPWARDS 3;RIGHTWARDS 3;DOWNWARDS 3;
   UP DOWN ARROW WITH BASE;LEFTWARDS ARROW WITH HOOK;RIGHTWARDS 3;LEFTWARDS 2 LOOP;RIGHTWARDS 3;
   LEFT RIGHT WAVE ARROW;2 ARROW WITH STROKE;DOWNWARDS ZIGZAG 1;UPWARDS ARROW WITH TIP LEFTWARDS;
   4 RIGHTWARDS;DOWNWARDS 3 LEFTWARDS;4 RIGHTWARDS;RIGHTWARDS 2 CORNER DOWNWARDS;
   DOWNWARDS 3 LEFTWARDS;ANTICLOCKWISE TOP SEMICIRCLE ARROW;CLOCKWISE 3;
   NORTH WEST ARROW TO LONG BAR;LEFTWARDS ARROW TO BAR OVER RIGHTWARDS ARROW TO BAR;
   ANTICLOCKWISE OPEN CIRCLE ARROW;CLOCKWISE 3;LEFTWARDS HARPOON WITH BARB UPWARDS;4 DOWNWARDS;
   UPWARDS 3 RIGHTWARDS;4 LEFTWARDS;RIGHTWARDS 3 UPWARDS;4 DOWNWARDS;DOWNWARDS 3 RIGHTWARDS;
   4 LEFTWARDS;RIGHTWARDS ARROW OVER LEFTWARDS ARROW;UPWARDS 1 LEFTWARDS OF DOWNWARDS ARROW;
   LEFTWARDS 1 OVER RIGHTWARDS ARROW;1 PAIRED ARROWS;UPWARDS 2;RIGHTWARDS 2;DOWNWARDS 2;
   LEFTWARDS HARPOON OVER RIGHTWARDS HARPOON;RIGHTWARDS 2 LEFTWARDS 1;
   LEFTWARDS DOUBLE ARROW WITH STROKE;LEFT RIGHT DOUBLE ARROW WITH STROKE;
   RIGHTWARDS DOUBLE ARROW WITH STROKE;LEFTWARDS 2;UPWARDS 2;RIGHTWARDS 2;DOWNWARDS 2;
   LEFT RIGHT DOUBLE ARROW;UP DOWN 2;NORTH WEST 2;1 EAST 2;SOUTH 3;1 WEST 2;LEFTWARDS TRIPLE ARROW;
   RIGHTWARDS 2;LEFTWARDS SQUIGGLE 1;RIGHTWARDS 2;UPWARDS ARROW WITH DOUBLE STROKE;DOWNWARDS 4;
   LEFTWARDS DASHED ARROW;UPWARDS 2;RIGHTWARDS 2;DOWNWARDS 2;LEFTWARDS ARROW TO BAR;RIGHTWARDS 3;
   LEFTWARDS WHITE ARROW;UPWARDS 2;RIGHTWARDS 2;DOWNWARDS 2;UPWARDS 2 FROM BAR;3 ON PEDESTAL;
   5 WITH HORIZONTAL BAR;6 VERTICAL 1;2 DOUBLE ARROW;4 ON PEDESTAL;RIGHTWARDS 1 ARROW FROM WALL;
   NORTH WEST 1 TO CORNER;SOUTH EAST 3;UP DOWN WHITE ARROW;RIGHT ARROW WITH SMALL CIRCLE;
   DOWNWARDS 1 LEFTWARDS OF UPWARDS ARROW;THREE RIGHTWARDS ARROWS;
   LEFTWARDS ARROW WITH VERTICAL STROKE;RIGHTWARDS 4;LEFT RIGHT ARROW WITH VERTICAL STROKE;
   LEFTWARDS ARROW WITH DOUBLE 2;RIGHTWARDS 5;LEFT RIGHT ARROW WITH DOUBLE VERTICAL STROKE;
   LEFTWARDS OPEN-HEADED 1;RIGHTWARDS 2;LEFT RIGHT OPEN-HEADED ARROW;FOR ALL;COMPLEMENT;
   PARTIAL DIFFERENTIAL;THERE EXISTS;1 DOES NOT EXIST;EMPTY SET;INCREMENT;NABLA;ELEMENT OF;
   NOT AN ELEMENT OF;SMALL ELEMENT OF;CONTAINS AS MEMBER;DOES NOT CONTAIN AS MEMBER;
   SMALL CONTAINS AS MEMBER;END OF PROOF;N-ARY PRODUCT;1 COPRODUCT;1 SUMMATION;MINUS SIGN;
   MINUS-OR-PLUS 1;DOT PLUS;DIVISION SLASH;SET MINUS;ASTERISK OPERATOR;RING 1;BULLET 1;SQUARE ROOT;
   CUBE 1;FOURTH 1;PROPORTIONAL TO;INFINITY;RIGHT ANGLE;ANGLE;MEASURED ANGLE;SPHERICAL 1;DIVIDES;
   DOES NOT DIVIDE;PARALLEL TO;NOT PARALLEL TO;LOGICAL AND;1 OR;INTERSECTION;UNION;INTEGRAL;
   DOUBLE INTEGRAL;TRIPLE 1;CONTOUR 1;SURFACE 1;VOLUME 1;CLOCKWISE 1;1 CONTOUR INTEGRAL;
   ANTICLOCKWISE 2;THEREFORE;BECAUSE;RATIO;PROPORTION;DOT MINUS;EXCESS;GEOMETRIC PROPORTION;
   HOMOTHETIC;TILDE OPERATOR;REVERSED TILDE;INVERTED LAZY S;SINE WAVE;WREATH PRODUCT;NOT TILDE;
   MINUS 1;ASYMPTOTICALLY EQUAL TO;NOT ASYMPTOTICALLY EQUAL TO;APPROXIMATELY EQUAL TO;
   1 BUT NOT ACTUALLY EQUAL TO;NEITHER APPROXIMATELY NOR 3;ALMOST EQUAL TO;NOT ALMOST EQUAL TO;
   ALMOST EQUAL OR EQUAL TO;TRIPLE TILDE;ALL EQUAL TO;EQUIVALENT TO;GEOMETRICALLY EQUIVALENT TO;
   DIFFERENCE BETWEEN;APPROACHES THE LIMIT;GEOMETRICALLY EQUAL TO;APPROXIMATELY 2 OR THE IMAGE OF;
   IMAGE OF OR APPROXIMATELY EQUAL TO;COLON EQUALS;EQUALS COLON;RING IN EQUAL TO;1 EQUAL TO;
   CORRESPONDS TO;ESTIMATES;EQUIANGULAR TO;STAR EQUALS;DELTA EQUAL TO;EQUAL TO BY DEFINITION;
   MEASURED BY;QUESTIONED EQUAL TO;NOT 2;IDENTICAL TO;NOT IDENTICAL TO;STRICTLY EQUIVALENT 1;
   LESS-THAN OR EQUAL TO;GREATER-THAN 3;LESS-THAN OVER 2;GREATER-THAN 3;LESS-THAN BUT NOT EQUAL TO;
   GREATER-THAN 4;MUCH LESS-THAN;1 GREATER-THAN;BETWEEN;NOT EQUIVALENT TO;1 LESS-THAN;
   1 GREATER-THAN;NEITHER LESS-THAN NOR EQUAL TO;1 GREATER-THAN 3;LESS-THAN OR EQUIVALENT TO;
   GREATER-THAN 3;NEITHER LESS-THAN NOR EQUIVALENT TO;1 GREATER-THAN 3;LESS-THAN OR GREATER-THAN;
   GREATER-THAN 1 LESS-THAN;NEITHER LESS-THAN NOR GREATER-THAN;1 GREATER-THAN 1 LESS-THAN;PRECEDES;
   SUCCEEDS;PRECEDES OR EQUAL TO;SUCCEEDS 3;PRECEDES 1 EQUIVALENT 1;SUCCEEDS 3;DOES NOT PRECEDE;
   2 SUCCEED;SUBSET OF;SUPERSET 1;NOT A SUBSET OF;2 SUPERSET 1;SUBSET OF OR EQUAL TO;SUPERSET 4;
   NEITHER A SUBSET OF NOR EQUAL TO;2 SUPERSET 4;SUBSET OF WITH NOT EQUAL TO;SUPERSET 5;MULTISET;
   1 MULTIPLICATION;1 UNION;SQUARE IMAGE OF;1 ORIGINAL 1;1 IMAGE 1 OR EQUAL TO;1 ORIGINAL 4;1 CAP;
   1 CUP;CIRCLED PLUS;1 MINUS;1 TIMES;1 DIVISION SLASH;1 DOT OPERATOR;1 RING 1;1 ASTERISK 1;
   1 EQUALS;1 DASH;SQUARED PLUS;1 MINUS;1 TIMES;1 DOT OPERATOR;RIGHT TACK;LEFT 1;DOWN 1;UP 1;
   ASSERTION;MODELS;TRUE;FORCES;TRIPLE VERTICAL BAR RIGHT TURNSTILE;DOUBLE 2 DOUBLE RIGHT TURNSTILE;
   DOES NOT PROVE;NOT TRUE;DOES NOT FORCE;NEGATED DOUBLE VERTICAL BAR DOUBLE RIGHT TURNSTILE;
   PRECEDES UNDER RELATION;SUCCEEDS 2;NORMAL SUBGROUP OF;CONTAINS AS NORMAL SUBGROUP;
   NORMAL SUBGROUP OF OR EQUAL TO;CONTAINS AS NORMAL SUBGROUP OR EQUAL TO;ORIGINAL OF;IMAGE 1;
   MULTIMAP;HERMITIAN CONJUGATE MATRIX;INTERCALATE;XOR;NAND;NOR;RIGHT ANGLE WITH ARC;1 TRIANGLE;
   N-ARY LOGICAL AND;2 OR;1 INTERSECTION;1 UNION;DIAMOND OPERATOR;DOT 1;STAR 1;DIVISION TIMES;
   BOWTIE;LEFT NORMAL FACTOR SEMIDIRECT PRODUCT;RIGHT 4;LEFT SEMIDIRECT PRODUCT;RIGHT 2;
   REVERSED TILDE EQUALS;CURLY LOGICAL OR;2 AND;DOUBLE SUBSET;1 SUPERSET;1 INTERSECTION;1 UNION;
   PITCHFORK;EQUAL AND PARALLEL TO;LESS-THAN WITH DOT;GREATER-THAN 2;VERY MUCH LESS-THAN;
   2 GREATER-THAN;LESS-THAN EQUAL TO OR GREATER-THAN;GREATER-THAN 3 LESS-THAN;EQUAL TO OR LESS-THAN;
   3 GREATER-THAN;3 PRECEDES;3 SUCCEEDS;DOES NOT PRECEDE OR EQUAL;2 SUCCEED 2;
   NOT SQUARE IMAGE OF OR EQUAL TO;2 ORIGINAL 4;SQUARE IMAGE OF OR NOT 2;1 ORIGINAL 5;
   LESS-THAN BUT NOT EQUIVALENT TO;GREATER-THAN 4;PRECEDES 4;SUCCEEDS 4;NOT NORMAL SUBGROUP OF;
   DOES NOT CONTAIN AS NORMAL SUBGROUP;NOT NORMAL SUBGROUP OF OR EQUAL TO;
   DOES NOT CONTAIN AS NORMAL SUBGROUP OR EQUAL;VERTICAL ELLIPSIS;MIDLINE HORIZONTAL ELLIPSIS;
   UP RIGHT DIAGONAL ELLIPSIS;DOWN 3;ELEMENT OF WITH LONG HORIZONTAL STROKE;
   3 VERTICAL BAR AT END OF HORIZONTAL STROKE;
   SMALL ELEMENT OF WITH VERTICAL BAR AT END OF HORIZONTAL STROKE;ELEMENT OF WITH DOT ABOVE;
   3 OVERBAR;SMALL ELEMENT OF WITH OVERBAR;ELEMENT OF WITH UNDERBAR;3 TWO HORIZONTAL STROKES;
   CONTAINS WITH LONG HORIZONTAL STROKE;2 VERTICAL BAR AT END OF HORIZONTAL STROKE;
   SMALL CONTAINS WITH VERTICAL BAR AT END OF HORIZONTAL STROKE;CONTAINS WITH OVERBAR;
   SMALL CONTAINS WITH OVERBAR;Z NOTATION BAG MEMBERSHIP;DIAMETER SIGN;ELECTRIC ARROW;HOUSE;
   UP ARROWHEAD;DOWN 1;PROJECTIVE;PERSPECTIVE;WAVY LINE;LEFT CEILING;RIGHT 1;LEFT FLOOR;RIGHT 1;
   BOTTOM RIGHT CROP;1 LEFT 1;TOP RIGHT 1;1 LEFT 1;REVERSED NOT SIGN;SQUARE LOZENGE;ARC;SEGMENT;
   SECTOR;TELEPHONE RECORDER;POSITION INDICATOR;VIEWDATA SQUARE;PLACE OF INTEREST SIGN;
   TURNED NOT SIGN;WATCH;HOURGLASS;TOP LEFT CORNER;1 RIGHT 1;BOTTOM LEFT 1;1 RIGHT 1;
   TOP HALF INTEGRAL;BOTTOM 2;FROWN;SMILE;UP ARROWHEAD BETWEEN TWO HORIZONTAL BARS;OPTION KEY;
   ERASE TO THE RIGHT;X IN A RECTANGLE BOX;KEYBOARD;LEFT-POINTING ANGLE BRACKET;RIGHT-POINTING 2;
   ERASE TO THE LEFT;BENZENE RING;CYLINDRICITY;ALL AROUND-PROFILE;SYMMETRY;TOTAL RUNOUT;
   DIMENSION ORIGIN;CONICAL TAPER;SLOPE;COUNTERBORE;COUNTERSINK;APL FUNCTIONAL SYMBOL I-BEAM;
   3 SQUISH QUAD;3 QUAD EQUAL;4 DIVIDE;4 DIAMOND;4 JOT;4 CIRCLE;3 CIRCLE STILE;4 JOT;3 SLASH BAR;
   3 BACKSLASH 1;3 QUAD SLASH;4 BACKSLASH;4 LESS-THAN;4 GREATER-THAN;3 LEFTWARDS VANE;
   3 RIGHTWARDS 1;3 QUAD LEFTWARDS ARROW;4 RIGHTWARDS 1;3 CIRCLE BACKSLASH;3 DOWN TACK UNDERBAR;
   3 DELTA STILE;3 QUAD DOWN CARET;4 DELTA;3 DOWN TACK JOT;3 UPWARDS VANE;3 QUAD UPWARDS ARROW;
   3 UP TACK OVERBAR;3 DEL STILE;3 QUAD UP CARET;4 DEL;3 UP TACK JOT;3 DOWNWARDS VANE;
   3 QUAD DOWNWARDS ARROW;3 QUOTE UNDERBAR;3 DELTA 1;3 DIAMOND 1;3 JOT 1;3 CIRCLE 1;3 UP SHOE JOT;
   3 QUOTE QUAD;3 CIRCLE STAR;3 QUAD COLON;3 UP TACK DIAERESIS;3 DEL DIAERESIS;3 STAR 1;3 JOT 1;
   3 CIRCLE 1;3 DOWN SHOE STILE;3 LEFT 2;3 TILDE DIAERESIS;3 GREATER-THAN 1;3 COMMA BAR;3 DEL TILDE;
   3 ZILDE;3 STILE TILDE;3 SEMICOLON UNDERBAR;3 QUAD NOT EQUAL;4 QUESTION;3 DOWN CARET TILDE;3 UP 2;
   3 IOTA;3 RHO;3 OMEGA;3 ALPHA UNDERBAR;3 EPSILON 1;3 IOTA 1;3 OMEGA 1;3 ALPHA;NOT CHECK MARK;
   RIGHT ANGLE WITH DOWNWARDS ZIGZAG ARROW;SHOULDERED OPEN BOX;BELL SYMBOL;
   VERTICAL LINE WITH MIDDLE DOT;INSERTION SYMBOL;CONTINUOUS UNDERLINE SYMBOL;DISCONTINUOUS 2;
   EMPHASIS SYMBOL;COMPOSITION 1;WHITE SQUARE WITH CENTRE VERTICAL LINE;ENTER SYMBOL;
   ALTERNATIVE KEY SYMBOL;HELM SYMBOL;CIRCLED HORIZONTAL BAR WITH NOTCH;1 TRIANGLE DOWN;
   BROKEN CIRCLE WITH NORTHWEST ARROW;UNDO SYMBOL;MONOSTABLE 1;HYSTERESIS 1;
   OPEN-CIRCUIT-OUTPUT H-TYPE SYMBOL;1 L-TYPE 1;PASSIVE-PULL-DOWN-OUTPUT SYMBOL;
   PASSIVE-PULL-UP-OUTPUT 1;DIRECT CURRENT SYMBOL FORM TWO;SOFTWARE-FUNCTION SYMBOL;
   APL FUNCTIONAL SYMBOL QUAD;DECIMAL SEPARATOR KEY SYMBOL;PREVIOUS PAGE;NEXT 1;PRINT SCREEN SYMBOL;
   CLEAR 2;LEFT PARENTHESIS UPPER HOOK;2 EXTENSION;2 LOWER HOOK;RIGHT 1 UPPER 1;2 EXTENSION;
   2 LOWER HOOK;LEFT SQUARE BRACKET UPPER CORNER;3 EXTENSION;3 LOWER CORNER;RIGHT 2 UPPER 1;
   3 EXTENSION;3 LOWER CORNER;LEFT CURLY 1 UPPER HOOK;3 MIDDLE PIECE;3 LOWER HOOK;
   CURLY BRACKET EXTENSION;RIGHT CURLY BRACKET UPPER HOOK;3 MIDDLE PIECE;3 LOWER HOOK;
   INTEGRAL EXTENSION;HORIZONTAL LINE EXTENSION;UPPER LEFT OR LOWER RIGHT CURLY BRACKET SECTION;
   1 RIGHT 2 LEFT 3;SUMMATION TOP;1 BOTTOM;TOP SQUARE BRACKET;BOTTOM 2;3 OVER TOP SQUARE BRACKET;
   RADICAL SYMBOL BOTTOM;LEFT VERTICAL BOX LINE;RIGHT 3;HORIZONTAL SCAN LINE-1;2 LINE-3;2 LINE-7;
   2 LINE-9;DENTISTRY SYMBOL LIGHT VERTICAL AND TOP RIGHT;5 BOTTOM 1;4 WITH CIRCLE;
   3 DOWN AND HORIZONTAL WITH CIRCLE;3 UP 4;3 VERTICAL WITH TRIANGLE;
   3 DOWN AND HORIZONTAL WITH TRIANGLE;3 UP 4;3 VERTICAL 1 WAVE;3 DOWN 1 HORIZONTAL WITH WAVE;
   3 UP 4;3 DOWN 2;3 UP 2;3 VERTICAL 1 TOP LEFT;5 BOTTOM 1;SQUARE FOOT;RETURN SYMBOL;EJECT 1;
   VERTICAL LINE EXTENSION;METRICAL BREVE;1 LONG OVER SHORT;1 SHORT 1 LONG;1 LONG 1 TWO SHORTS;
   1 TWO SHORTS OVER LONG;3 JOINED;1 TRISEME;1 TETRASEME;1 PENTASEME;EARTH GROUND;FUSE;
   TOP PARENTHESIS;BOTTOM 1;TOP CURLY BRACKET;BOTTOM 2;TOP TORTOISE SHELL BRACKET;BOTTOM 3;
   WHITE TRAPEZIUM;BENZENE RING WITH CIRCLE;STRAIGHTNESS;FLATNESS;AC CURRENT;
   ELECTRICAL INTERSECTION;DECIMAL EXPONENT SYMBOL;BLACK RIGHT-POINTING DOUBLE TRIANGLE;
   1 LEFT-POINTING 2;1 UP-POINTING 2;1 DOWN-POINTING 2;1 RIGHT-POINTING 2 WITH VERTICAL BAR;
   1 LEFT-POINTING 5;1 RIGHT-POINTING TRIANGLE WITH DOUBLE 2;ALARM CLOCK;STOPWATCH;TIMER CLOCK;
   HOURGLASS WITH FLOWING SAND;BLACK MEDIUM LEFT-POINTING TRIANGLE;2 RIGHT-POINTING 1;
   2 UP-POINTING 1;2 DOWN-POINTING 1;DOUBLE VERTICAL BAR;BLACK SQUARE FOR STOP;1 CIRCLE 1 RECORD;
   POWER SYMBOL;1 ON-OFF SYMBOL;1 ON 1;1 SLEEP 1;OBSERVER EYE 1"

end ApiShell.Template.CharacterName
