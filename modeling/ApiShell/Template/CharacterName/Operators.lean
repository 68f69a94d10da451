/-! Names of further arrows and operators, and of Braille, as a listing. -/

namespace ApiShell.Template.CharacterName

/-- Further arrows and operators, and Braille. -/
def operators : String :=
  "U+27C0;THREE DIMENSIONAL ANGLE;WHITE TRIANGLE CONTAINING SMALL WHITE TRIANGLE;PERPENDICULAR;
   OPEN SUBSET;1 SUPERSET;LEFT S-SHAPED BAG DELIMITER;RIGHT 3;OR WITH DOT INSIDE;
   REVERSE SOLIDUS PRECEDING SUBSET;SUPERSET PRECEDING SOLIDUS;VERTICAL BAR WITH HORIZONTAL STROKE;
   MATHEMATICAL RISING DIAGONAL;LONG DIVISION;MATHEMATICAL FALLING DIAGONAL;SQUARED LOGICAL AND;
   2 OR;WHITE DIAMOND WITH CENTRED DOT;AND WITH DOT;ELEMENT OF OPENING UPWARDS;
   LOWER RIGHT CORNER WITH DOT;UPPER LEFT 3;LEFT OUTER JOIN;RIGHT 2;FULL 2;LARGE UP TACK;1 DOWN 1;
   LEFT AND RIGHT DOUBLE TURNSTILE;3 TACK;1 MULTIMAP;LONG RIGHT TACK;1 LEFT 1;
   UP TACK WITH CIRCLE ABOVE;LOZENGE DIVIDED BY HORIZONTAL RULE;WHITE CONCAVE-SIDED DIAMOND;
   3 WITH LEFTWARDS TICK;4 RIGHTWARDS 1;1 SQUARE WITH LEFTWARDS TICK;3 RIGHTWARDS 1;
   MATHEMATICAL LEFT WHITE SQUARE BRACKET;1 RIGHT 3;1 LEFT ANGLE BRACKET;1 RIGHT 2;
   1 LEFT DOUBLE ANGLE BRACKET;1 RIGHT 3;1 LEFT WHITE TORTOISE SHELL BRACKET;1 RIGHT 4;
   1 LEFT FLATTENED PARENTHESIS;1 RIGHT 2;UPWARDS QUADRUPLE ARROW;DOWNWARDS 2;
   ANTICLOCKWISE GAPPED CIRCLE ARROW;CLOCKWISE 3;RIGHT ARROW WITH CIRCLED PLUS;LONG LEFTWARDS ARROW;
   1 RIGHTWARDS 1;1 LEFT RIGHT ARROW;1 LEFTWARDS DOUBLE 1;1 RIGHTWARDS 2;1 LEFT RIGHT DOUBLE ARROW;
   1 LEFTWARDS ARROW FROM BAR;1 RIGHTWARDS 3;1 LEFTWARDS DOUBLE ARROW FROM BAR;1 RIGHTWARDS 4;
   2 SQUIGGLE 1;BRAILLE PATTERN BLANK;2 DOTS-1;+1;2 DOTS-12;2 DOTS-3;2 DOTS-13;2 DOTS-23;2 DOTS-123;
   2 DOTS-4;2 DOTS-14;2 DOTS-24;2 DOTS-124;2 DOTS-34;2 DOTS-134;2 DOTS-234;2 DOTS-1234;2 DOTS-5;
   2 DOTS-15;2 DOTS-25;2 DOTS-125;2 DOTS-35;2 DOTS-135;2 DOTS-235;2 DOTS-1235;2 DOTS-45;2 DOTS-145;
   2 DOTS-245;2 DOTS-1245;2 DOTS-345;2 DOTS-1345;2 DOTS-2345;2 DOTS-12345;2 DOTS-6;2 DOTS-16;
   2 DOTS-26;2 DOTS-126;2 DOTS-36;2 DOTS-136;2 DOTS-236;2 DOTS-1236;2 DOTS-46;2 DOTS-146;2 DOTS-246;
   2 DOTS-1246;2 DOTS-346;2 DOTS-1346;2 DOTS-2346;2 DOTS-12346;2 DOTS-56;2 DOTS-156;2 DOTS-256;
   2 DOTS-1256;2 DOTS-356;2 DOTS-1356;2 DOTS-2356;2 DOTS-12356;2 DOTS-456;2 DOTS-1456;2 DOTS-2456;
   2 DOTS-12456;2 DOTS-3456;2 DOTS-13456;2 DOTS-23456;2 DOTS-123456;2 DOTS-7;2 DOTS-17;2 DOTS-27;
   2 DOTS-127;2 DOTS-37;2 DOTS-137;2 DOTS-237;2 DOTS-1237;2 DOTS-47;2 DOTS-147;2 DOTS-247;
   2 DOTS-1247;2 DOTS-347;2 DOTS-1347;2 DOTS-2347;2 DOTS-12347;2 DOTS-57;2 DOTS-157;2 DOTS-257;
   2 DOTS-1257;2 DOTS-357;2 DOTS-1357;2 DOTS-2357;2 DOTS-12357;2 DOTS-457;2 DOTS-1457;2 DOTS-2457;
   2 DOTS-12457;2 DOTS-3457;2 DOTS-13457;2 DOTS-23457;2 DOTS-123457;2 DOTS-67;2 DOTS-167;2 DOTS-267;
   2 DOTS-1267;2 DOTS-367;2 DOTS-1367;2 DOTS-2367;2 DOTS-12367;2 DOTS-467;2 DOTS-1467;2 DOTS-2467;
   2 DOTS-12467;2 DOTS-3467;2 DOTS-13467;2 DOTS-23467;2 DOTS-123467;2 DOTS-567;2 DOTS-1567;
   2 DOTS-2567;2 DOTS-12567;2 DOTS-3567;2 DOTS-13567;2 DOTS-23567;2 DOTS-123567;2 DOTS-4567;
   2 DOTS-14567;2 DOTS-24567;2 DOTS-124567;2 DOTS-34567;2 DOTS-134567;2 DOTS-234567;2 DOTS-1234567;
   2 DOTS-8;2 DOTS-18;2 DOTS-28;2 DOTS-128;2 DOTS-38;2 DOTS-138;2 DOTS-238;2 DOTS-1238;2 DOTS-48;
   2 DOTS-148;2 DOTS-248;2 DOTS-1248;2 DOTS-348;2 DOTS-1348;2 DOTS-2348;2 DOTS-12348;2 DOTS-58;
   2 DOTS-158;2 DOTS-258;2 DOTS-1258;2 DOTS-358;2 DOTS-1358;2 DOTS-2358;2 DOTS-12358;2 DOTS-458;
   2 DOTS-1458;2 DOTS-2458;2 DOTS-12458;2 DOTS-3458;2 DOTS-13458;2 DOTS-23458;2 DOTS-123458;
   2 DOTS-68;2 DOTS-168;2 DOTS-268;2 DOTS-1268;2 DOTS-368;2 DOTS-1368;2 DOTS-2368;2 DOTS-12368;
   2 DOTS-468;2 DOTS-1468;2 DOTS-2468;2 DOTS-12468;2 DOTS-3468;2 DOTS-13468;2 DOTS-23468;
   2 DOTS-123468;2 DOTS-568;2 DOTS-1568;2 DOTS-2568;2 DOTS-12568;2 DOTS-3568;2 DOTS-13568;
   2 DOTS-23568;2 DOTS-123568;2 DOTS-4568;2 DOTS-14568;2 DOTS-24568;2 DOTS-124568;2 DOTS-34568;
   2 DOTS-134568;2 DOTS-234568;2 DOTS-1234568;2 DOTS-78;2 DOTS-178;2 DOTS-278;2 DOTS-1278;
   2 DOTS-378;2 DOTS-1378;2 DOTS-2378;2 DOTS-12378;2 DOTS-478;2 DOTS-1478;2 DOTS-2478;2 DOTS-12478;
   2 DOTS-3478;2 DOTS-13478;2 DOTS-23478;2 DOTS-123478;2 DOTS-578;2 DOTS-1578;2 DOTS-2578;
   2 DOTS-12578;2 DOTS-3578;2 DOTS-13578;2 DOTS-23578;2 DOTS-123578;2 DOTS-4578;2 DOTS-14578;
   2 DOTS-24578;2 DOTS-124578;2 DOTS-34578;2 DOTS-134578;2 DOTS-234578;2 DOTS-1234578;2 DOTS-678;
   2 DOTS-1678;2 DOTS-2678;2 DOTS-12678;2 DOTS-3678;2 DOTS-13678;2 DOTS-23678;2 DOTS-123678;
   2 DOTS-4678;2 DOTS-14678;2 DOTS-24678;2 DOTS-124678;2 DOTS-34678;2 DOTS-134678;2 DOTS-234678;
   2 DOTS-1234678;2 DOTS-5678;2 DOTS-15678;2 DOTS-25678;2 DOTS-125678;2 DOTS-35678;2 DOTS-135678;
   2 DOTS-235678;2 DOTS-1235678;2 DOTS-45678;2 DOTS-145678;2 DOTS-245678;2 DOTS-1245678;
   2 DOTS-345678;2 DOTS-1345678;2 DOTS-2345678;2 DOTS-12345678;
   RIGHTWARDS TWO-HEADED ARROW WITH VERTICAL STROKE;4 DOUBLE VERTICAL STROKE;
   LEFTWARDS DOUBLE 2 VERTICAL STROKE;RIGHTWARDS 5;LEFT RIGHT DOUBLE ARROW WITH VERTICAL STROKE;
   RIGHTWARDS TWO-HEADED ARROW FROM BAR;LEFTWARDS DOUBLE 3;RIGHTWARDS 4;
   DOWNWARDS ARROW WITH HORIZONTAL STROKE;UPWARDS 4;1 TRIPLE ARROW;DOWNWARDS 2;
   LEFTWARDS DOUBLE DASH ARROW;RIGHTWARDS 3;LEFTWARDS TRIPLE 2;RIGHTWARDS 3;
   1 TWO-HEADED TRIPLE DASH ARROW;1 ARROW WITH DOTTED STEM;UPWARDS 1 TO BAR;DOWNWARDS 3;
   RIGHTWARDS 1 WITH TAIL WITH VERTICAL STROKE;5 DOUBLE VERTICAL STROKE;
   1 TWO-HEADED ARROW WITH TAIL;5 WITH VERTICAL STROKE;6 DOUBLE VERTICAL STROKE;
   LEFTWARDS ARROW-TAIL;RIGHTWARDS 1;LEFTWARDS DOUBLE ARROW-TAIL;RIGHTWARDS 2;
   LEFTWARDS ARROW TO BLACK DIAMOND;RIGHTWARDS 4;LEFTWARDS 1 FROM BAR TO BLACK DIAMOND;RIGHTWARDS 6;
   NORTH WEST AND SOUTH EAST ARROW;1 EAST 2 WEST 1;1 WEST ARROW WITH HOOK;1 EAST 3;SOUTH 4;1 WEST 3;
   NORTH 2 AND NORTH EAST ARROW;1 EAST 2 SOUTH 2;SOUTH 4 WEST 1;1 WEST 2 NORTH 2;
   RISING DIAGONAL CROSSING FALLING DIAGONAL;FALLING 2 RISING 1;
   SOUTH EAST ARROW CROSSING NORTH EAST ARROW;NORTH 3 SOUTH 2;
   FALLING DIAGONAL CROSSING NORTH EAST ARROW;RISING 2 SOUTH 2;
   NORTH EAST ARROW CROSSING NORTH WEST ARROW;1 WEST 3 EAST 1;WAVE ARROW POINTING DIRECTLY RIGHT;
   ARROW POINTING RIGHTWARDS THEN CURVING UPWARDS;5 DOWNWARDS;2 DOWNWARDS 2 LEFTWARDS;5 RIGHTWARDS;
   RIGHT-SIDE ARC CLOCKWISE ARROW;LEFT-SIDE 1 ANTICLOCKWISE 1;TOP 3;BOTTOM 3;
   TOP 1 CLOCKWISE 1 WITH MINUS;2 ANTICLOCKWISE 2 PLUS;LOWER RIGHT SEMICIRCULAR CLOCKWISE ARROW;
   1 LEFT 1 ANTICLOCKWISE 1;ANTICLOCKWISE CLOSED CIRCLE ARROW;CLOCKWISE 3;
   RIGHTWARDS ARROW ABOVE SHORT LEFTWARDS ARROW;LEFTWARDS 3 RIGHTWARDS 1;
   SHORT RIGHTWARDS ARROW ABOVE LEFTWARDS 1;RIGHTWARDS ARROW WITH PLUS BELOW;LEFTWARDS 4;
   RIGHTWARDS 1 THROUGH X;LEFT RIGHT ARROW THROUGH SMALL CIRCLE;UPWARDS TWO-HEADED 1 FROM 2;
   LEFT BARB UP RIGHT BARB DOWN HARPOON;2 DOWN 2 UP 1;UP 1 RIGHT DOWN 1 LEFT 1;2 LEFT 2 RIGHT 1;
   LEFT 1 UP RIGHT 1 UP 1;UP 1 RIGHT DOWN 1 RIGHT 1;LEFT 1 DOWN RIGHT 1 DOWN 1;
   UP 1 LEFT DOWN 1 LEFT 1;LEFTWARDS HARPOON WITH BARB UP TO BAR;RIGHTWARDS 6;UPWARDS 3 RIGHT 2;
   DOWNWARDS 6;LEFTWARDS 3 DOWN 2;RIGHTWARDS 6;UPWARDS 3 LEFT 2;DOWNWARDS 6;LEFTWARDS 3 UP FROM 1;
   RIGHTWARDS 6;UPWARDS 3 RIGHT 2;DOWNWARDS 6;LEFTWARDS 3 DOWN 2;RIGHTWARDS 6;UPWARDS 3 LEFT 2;
   DOWNWARDS 6;LEFTWARDS 3 UP ABOVE LEFTWARDS HARPOON WITH BARB DOWN;
   UPWARDS 3 LEFT BESIDE UPWARDS 3 RIGHT;RIGHTWARDS 3 UP ABOVE RIGHTWARDS 3 DOWN;
   DOWNWARDS 3 LEFT BESIDE DOWNWARDS 3 RIGHT;LEFTWARDS 3 UP ABOVE RIGHTWARDS 3 UP;4 DOWN 5 DOWN;
   RIGHTWARDS 3 UP 1 LEFTWARDS 3 UP;4 DOWN 5 DOWN;LEFTWARDS 3 UP 1 LONG DASH;4 DOWN BELOW 2;
   RIGHTWARDS 3 UP ABOVE 2;4 DOWN BELOW 2;UPWARDS 3 LEFT BESIDE DOWNWARDS HARPOON WITH BARB RIGHT;
   DOWNWARDS 5 UPWARDS 4;RIGHT DOUBLE ARROW WITH ROUNDED HEAD;EQUALS SIGN ABOVE RIGHTWARDS ARROW;
   TILDE OPERATOR 3;LEFTWARDS ARROW 1 TILDE OPERATOR;RIGHTWARDS 4;3 ALMOST EQUAL TO;
   LESS-THAN ABOVE LEFTWARDS ARROW;LEFTWARDS ARROW THROUGH LESS-THAN;
   GREATER-THAN ABOVE RIGHTWARDS ARROW;SUBSET 3;LEFTWARDS ARROW THROUGH SUBSET;
   SUPERSET ABOVE LEFTWARDS ARROW;LEFT FISH TAIL;RIGHT 2;UP 2;DOWN 2;TRIPLE VERTICAL BAR DELIMITER;
   Z NOTATION SPOT;2 TYPE COLON;LEFT WHITE CURLY BRACKET;RIGHT 3;LEFT 1 PARENTHESIS;RIGHT 2;
   Z NOTATION LEFT IMAGE BRACKET;2 RIGHT 2;2 LEFT BINDING 1;2 RIGHT 2;
   LEFT SQUARE BRACKET WITH UNDERBAR;RIGHT 4;LEFT 3 TICK IN TOP CORNER;RIGHT 5 BOTTOM 1;LEFT 7;
   RIGHT 5 TOP 1;LEFT ANGLE 2 DOT;RIGHT 4;LEFT ARC LESS-THAN BRACKET;RIGHT 1 GREATER-THAN 1;
   DOUBLE LEFT ARC GREATER-THAN BRACKET;1 RIGHT 1 LESS-THAN 1;LEFT BLACK TORTOISE SHELL 1;RIGHT 4;
   DOTTED FENCE;VERTICAL ZIGZAG LINE;MEASURED ANGLE OPENING LEFT;RIGHT 1 VARIANT WITH SQUARE;
   MEASURED RIGHT ANGLE 1 DOT;ANGLE WITH S INSIDE;ACUTE ANGLE;SPHERICAL 1 OPENING LEFT;3 UP;
   TURNED 1;REVERSED 1;ANGLE WITH UNDERBAR;REVERSED ANGLE WITH UNDERBAR;OBLIQUE 1 OPENING UP;3 DOWN;
   MEASURED 1 WITH OPEN ARM ENDING IN ARROW POINTING UP AND RIGHT;11 LEFT;9 DOWN 1 RIGHT;11 LEFT;
   9 RIGHT 1 UP;9 LEFT 2;9 RIGHT 1 DOWN;9 LEFT 2;REVERSED EMPTY SET;EMPTY SET WITH OVERBAR;
   3 SMALL CIRCLE ABOVE;3 RIGHT ARROW 1;3 LEFT 2;CIRCLE WITH HORIZONTAL BAR;CIRCLED VERTICAL BAR;
   1 PARALLEL;1 REVERSE SOLIDUS;1 PERPENDICULAR;
   CIRCLE DIVIDED BY HORIZONTAL BAR AND TOP HALF DIVIDED BY VERTICAL BAR;1 WITH SUPERIMPOSED X;
   CIRCLED ANTICLOCKWISE-ROTATED DIVISION SIGN;UP ARROW THROUGH CIRCLE;CIRCLED WHITE BULLET;
   1 BULLET;1 LESS-THAN;1 GREATER-THAN;CIRCLE WITH SMALL CIRCLE TO THE RIGHT;
   2 TWO HORIZONTAL STROKES TO THE RIGHT;SQUARED RISING DIAGONAL SLASH;1 FALLING 2;1 ASTERISK;
   1 SMALL CIRCLE;1 SQUARE;TWO JOINED SQUARES;TRIANGLE WITH DOT ABOVE;2 UNDERBAR;S IN TRIANGLE;
   TRIANGLE WITH SERIFS AT BOTTOM;RIGHT TRIANGLE ABOVE LEFT TRIANGLE;LEFT 1 BESIDE VERTICAL BAR;
   VERTICAL BAR 1 RIGHT TRIANGLE;BOWTIE WITH LEFT HALF BLACK;2 RIGHT 2;BLACK BOWTIE;
   TIMES WITH LEFT HALF BLACK;2 RIGHT 2;WHITE HOURGLASS;BLACK 1;LEFT WIGGLY FENCE;RIGHT 2;
   LEFT DOUBLE WIGGLY FENCE;RIGHT 3;INCOMPLETE INFINITY;TIE OVER INFINITY;
   INFINITY NEGATED WITH VERTICAL BAR;DOUBLE-ENDED MULTIMAP;SQUARE WITH CONTOURED OUTLINE;
   INCREASES AS;SHUFFLE PRODUCT;EQUALS SIGN AND SLANTED PARALLEL;5 WITH TILDE ABOVE;IDENTICAL TO 3;
   GLEICH STARK;THERMODYNAMIC;DOWN-POINTING TRIANGLE WITH LEFT HALF BLACK;3 RIGHT 2;
   BLACK DIAMOND 1 DOWN ARROW;1 LOZENGE;WHITE CIRCLE WITH DOWN ARROW;BLACK 4;
   ERROR-BARRED WHITE SQUARE;1 BLACK 1;1 WHITE DIAMOND;1 BLACK 1;1 WHITE CIRCLE;1 BLACK 1;
   RULE-DELAYED;REVERSE SOLIDUS OPERATOR;SOLIDUS WITH OVERBAR;
   REVERSE SOLIDUS WITH HORIZONTAL STROKE;BIG 1;1 REVERSE SOLIDUS;DOUBLE PLUS;TRIPLE 1;
   LEFT-POINTING CURVED ANGLE BRACKET;RIGHT-POINTING 3;TINY;MINY;N-ARY CIRCLED DOT OPERATOR;
   2 PLUS 1;2 TIMES 1;1 UNION OPERATOR WITH DOT;4 PLUS;1 SQUARE INTERSECTION OPERATOR;2 UNION 1;
   TWO LOGICAL AND 1;2 OR 1;N-ARY TIMES OPERATOR;MODULO TWO SUM;SUMMATION WITH INTEGRAL;
   QUADRUPLE INTEGRAL OPERATOR;FINITE PART INTEGRAL;INTEGRAL WITH DOUBLE STROKE;
   1 AVERAGE WITH SLASH;CIRCULATION FUNCTION;ANTICLOCKWISE INTEGRATION;
   LINE 1 WITH RECTANGULAR PATH AROUND POLE;3 SEMICIRCULAR 3;2 NOT INCLUDING THE POLE;
   INTEGRAL AROUND A POINT OPERATOR;QUATERNION INTEGRAL OPERATOR;
   INTEGRAL WITH LEFTWARDS ARROW WITH HOOK;2 TIMES SIGN;2 INTERSECTION;2 UNION;2 OVERBAR;2 UNDERBAR;
   JOIN;LARGE LEFT TRIANGLE OPERATOR;Z NOTATION SCHEMA COMPOSITION;3 PIPING;3 PROJECTION;
   PLUS SIGN WITH SMALL CIRCLE ABOVE;3 CIRCUMFLEX ACCENT 1;3 TILDE ABOVE;3 DOT BELOW;3 TILDE 1;
   3 SUBSCRIPT TWO;3 BLACK TRIANGLE;MINUS 2 COMMA ABOVE;3 DOT BELOW;3 FALLING DOTS;3 RISING 1;
   PLUS 1 IN LEFT HALF CIRCLE;3 RIGHT 2;VECTOR OR CROSS PRODUCT;MULTIPLICATION SIGN WITH DOT ABOVE;
   3 UNDERBAR;SEMIDIRECT PRODUCT 1 BOTTOM CLOSED;SMASH 1;MULTIPLICATION SIGN IN LEFT HALF CIRCLE;
   3 RIGHT 2;CIRCLED MULTIPLICATION SIGN WITH CIRCUMFLEX ACCENT;
   MULTIPLICATION SIGN IN DOUBLE CIRCLE;CIRCLED DIVISION SIGN;PLUS SIGN IN TRIANGLE;MINUS 3;
   MULTIPLICATION 3;INTERIOR PRODUCT;RIGHTHAND INTERIOR PRODUCT;Z NOTATION RELATIONAL COMPOSITION;
   AMALGAMATION OR COPRODUCT;INTERSECTION WITH DOT;UNION 1 MINUS SIGN;2 OVERBAR;INTERSECTION 2;
   2 LOGICAL AND;UNION 2 OR;1 ABOVE INTERSECTION;INTERSECTION 1 UNION;
   UNION 1 BAR ABOVE INTERSECTION;INTERSECTION 3 UNION;UNION BESIDE AND JOINED WITH UNION;
   INTERSECTION 4 INTERSECTION;CLOSED UNION WITH SERIFS;1 INTERSECTION 2;DOUBLE SQUARE INTERSECTION;
   2 UNION;CLOSED UNION WITH SERIFS AND SMASH PRODUCT;LOGICAL AND 1 DOT ABOVE;1 OR 3;
   DOUBLE LOGICAL AND;2 OR;TWO INTERSECTING LOGICAL AND;3 OR;SLOPING LARGE OR;2 AND;
   LOGICAL OR OVERLAPPING LOGICAL AND;1 AND WITH MIDDLE STEM;1 OR 3;1 AND 1 HORIZONTAL DASH;1 OR 3;
   1 AND 1 DOUBLE OVERBAR;3 UNDERBAR;3 DOUBLE UNDERBAR;SMALL VEE 1 UNDERBAR;
   LOGICAL OR 1 DOUBLE OVERBAR;4 UNDERBAR;Z NOTATION DOMAIN ANTIRESTRICTION;2 RANGE 1;
   EQUALS SIGN WITH DOT BELOW;IDENTICAL WITH DOT ABOVE;
   TRIPLE HORIZONTAL BAR WITH DOUBLE VERTICAL STROKE;4 TRIPLE 2;TILDE OPERATOR WITH DOT ABOVE;
   3 RISING DOTS;SIMILAR MINUS SIMILAR;CONGRUENT WITH DOT ABOVE;EQUALS 1 ASTERISK;
   ALMOST EQUAL TO WITH CIRCUMFLEX ACCENT;APPROXIMATELY 1 OR EQUAL TO;EQUALS SIGN ABOVE PLUS SIGN;
   PLUS 2 EQUALS 1;EQUALS 2 TILDE OPERATOR;DOUBLE COLON EQUAL;TWO CONSECUTIVE EQUALS SIGNS;THREE 3;
   EQUALS SIGN WITH TWO DOTS ABOVE AND TWO DOTS BELOW;EQUIVALENT WITH FOUR DOTS ABOVE;
   LESS-THAN 1 CIRCLE INSIDE;GREATER-THAN 3;LESS-THAN 1 QUESTION MARK ABOVE;GREATER-THAN 4;
   LESS-THAN OR SLANTED EQUAL TO;GREATER-THAN 4;LESS-THAN 4 WITH DOT INSIDE;GREATER-THAN 7;
   LESS-THAN 6 ABOVE;GREATER-THAN 7;LESS-THAN 7 RIGHT;GREATER-THAN 7 LEFT;LESS-THAN 1 APPROXIMATE;
   GREATER-THAN 2;LESS-THAN AND SINGLE-LINE NOT EQUAL TO;GREATER-THAN 5;LESS-THAN 1 NOT APPROXIMATE;
   GREATER-THAN 3;LESS-THAN ABOVE DOUBLE-LINE EQUAL ABOVE GREATER-THAN;GREATER-THAN 4 LESS-THAN;
   LESS-THAN 1 SIMILAR OR EQUAL;GREATER-THAN 4;LESS-THAN 2 ABOVE GREATER-THAN;
   GREATER-THAN 3 LESS-THAN;LESS-THAN 1 GREATER-THAN 1 DOUBLE-LINE EQUAL;GREATER-THAN 1 LESS-THAN 3;
   LESS-THAN 1 SLANTED EQUAL ABOVE GREATER-THAN ABOVE SLANTED EQUAL;GREATER-THAN 4 LESS-THAN 3;
   SLANTED EQUAL TO OR LESS-THAN;4 GREATER-THAN;4 LESS-THAN WITH DOT INSIDE;4 GREATER-THAN 3;
   DOUBLE-LINE 3 LESS-THAN;4 GREATER-THAN;1 SLANTED EQUAL TO OR LESS-THAN;5 GREATER-THAN;
   SIMILAR OR LESS-THAN;2 GREATER-THAN;1 ABOVE LESS-THAN ABOVE EQUALS SIGN;2 GREATER-THAN 3;
   DOUBLE NESTED LESS-THAN;2 GREATER-THAN;2 LESS-THAN WITH UNDERBAR;GREATER-THAN OVERLAPPING 1;
   1 BESIDE 1;LESS-THAN CLOSED BY CURVE;GREATER-THAN 3;LESS-THAN 3 ABOVE SLANTED EQUAL;
   GREATER-THAN 6;SMALLER THAN;LARGER 1;SMALLER 1 OR EQUAL TO;LARGER 4;EQUALS SIGN WITH BUMPY ABOVE;
   PRECEDES ABOVE SINGLE-LINE EQUALS SIGN;SUCCEEDS 4;PRECEDES 2 NOT EQUAL TO;SUCCEEDS 5;
   PRECEDES 1 EQUALS SIGN;SUCCEEDS 3;PRECEDES 1 NOT EQUAL TO;SUCCEEDS 4;PRECEDES 1 ALMOST 2;
   SUCCEEDS 4;PRECEDES 1 NOT ALMOST EQUAL TO;SUCCEEDS 5;DOUBLE PRECEDES;1 SUCCEEDS;SUBSET WITH DOT;
   SUPERSET 2;SUBSET 1 PLUS SIGN BELOW;SUPERSET 4;SUBSET 1 MULTIPLICATION 2;SUPERSET 4;
   SUBSET OF OR EQUAL TO WITH DOT ABOVE;SUPERSET 7;SUBSET 1 ABOVE EQUALS SIGN;SUPERSET 4;
   SUBSET 2 TILDE OPERATOR;SUPERSET 4;SUBSET 2 ALMOST EQUAL TO;SUPERSET 5;SUBSET 2 NOT 2;SUPERSET 5;
   SQUARE LEFT OPEN BOX OPERATOR;1 RIGHT 3;CLOSED SUBSET;1 SUPERSET;1 SUBSET OR EQUAL TO;
   1 SUPERSET 3;SUBSET ABOVE SUPERSET;SUPERSET 1 SUBSET;SUBSET 2;SUPERSET 1 SUPERSET;
   1 BESIDE SUBSET;2 AND JOINED BY DASH WITH SUBSET;ELEMENT OF OPENING DOWNWARDS;
   PITCHFORK WITH TEE TOP;TRANSVERSAL INTERSECTION;FORKING;NONFORKING;SHORT LEFT TACK;1 DOWN 1;
   1 UP 1;PERPENDICULAR WITH S;VERTICAL BAR TRIPLE RIGHT TURNSTILE;DOUBLE VERTICAL BAR LEFT 1;
   VERTICAL BAR DOUBLE 2;DOUBLE VERTICAL BAR DOUBLE LEFT TURNSTILE;
   LONG DASH FROM LEFT MEMBER OF DOUBLE VERTICAL;SHORT DOWN TACK WITH OVERBAR;1 UP 2 UNDERBAR;
   3 ABOVE SHORT DOWN TACK;DOUBLE DOWN 1;1 UP 1;1 STROKE NOT SIGN;REVERSED DOUBLE STROKE NOT SIGN;
   DOES NOT DIVIDE WITH REVERSED NEGATION SLASH;VERTICAL LINE WITH CIRCLE ABOVE;4 BELOW;DOWN TACK 3;
   PARALLEL WITH HORIZONTAL STROKE;2 TILDE OPERATOR;TRIPLE VERTICAL BAR BINARY RELATION;
   3 WITH HORIZONTAL STROKE;1 COLON OPERATOR;1 NESTED LESS-THAN;2 GREATER-THAN;
   DOUBLE-LINE SLANTED LESS-THAN OR EQUAL TO;2 GREATER-THAN 3;TRIPLE SOLIDUS BINARY RELATION;
   LARGE TRIPLE VERTICAL BAR OPERATOR;DOUBLE SOLIDUS OPERATOR;WHITE VERTICAL BAR;
   N-ARY WHITE VERTICAL BAR;NORTH EAST WHITE ARROW;1 WEST 2;SOUTH EAST 2;1 WEST 2;LEFT RIGHT 2;
   LEFTWARDS BLACK ARROW;UPWARDS 2;DOWNWARDS 2;NORTH EAST BLACK ARROW;1 WEST 2;SOUTH EAST 2;
   1 WEST 2;LEFT RIGHT 2;UP DOWN 2;RIGHTWARDS ARROW WITH TIP DOWNWARDS;4 UPWARDS;
   LEFTWARDS 3 DOWNWARDS;4 UPWARDS;SQUARE WITH TOP HALF BLACK;2 BOTTOM 2;
   2 UPPER RIGHT DIAGONAL HALF BLACK;2 LOWER LEFT 3;DIAMOND 1 LEFT HALF BLACK;2 RIGHT 2;2 TOP 2;
   2 BOTTOM 2;DOTTED SQUARE;BLACK LARGE SQUARE;WHITE 2;BLACK VERY SMALL SQUARE;WHITE 3;
   BLACK PENTAGON;WHITE 1;1 HEXAGON;BLACK 1;HORIZONTAL BLACK HEXAGON;BLACK LARGE CIRCLE;
   1 MEDIUM DIAMOND;WHITE 2;BLACK 1 LOZENGE;WHITE 2;BLACK SMALL DIAMOND;2 LOZENGE;WHITE 2;
   BLACK HORIZONTAL ELLIPSE;WHITE 2;BLACK VERTICAL 1;WHITE 2;LEFT ARROW WITH SMALL CIRCLE;
   THREE LEFTWARDS ARROWS;LEFT ARROW WITH CIRCLED PLUS;LONG LEFTWARDS SQUIGGLE ARROW;
   LEFTWARDS TWO-HEADED ARROW WITH VERTICAL STROKE;4 DOUBLE VERTICAL STROKE;3 FROM BAR;
   2 TRIPLE DASH ARROW;1 ARROW WITH DOTTED STEM;3 TAIL WITH VERTICAL STROKE;
   5 DOUBLE VERTICAL STROKE;1 TWO-HEADED ARROW WITH TAIL;5 WITH VERTICAL STROKE;
   6 DOUBLE VERTICAL STROKE;1 ARROW THROUGH X;WAVE 1 POINTING DIRECTLY LEFT;
   EQUALS SIGN ABOVE LEFTWARDS ARROW;REVERSE TILDE OPERATOR ABOVE LEFTWARDS ARROW;
   LEFTWARDS ARROW ABOVE REVERSE ALMOST EQUAL TO;RIGHTWARDS 1 THROUGH GREATER-THAN;3 SUPERSET;
   LEFTWARDS QUADRUPLE ARROW;RIGHTWARDS 2;REVERSE TILDE OPERATOR ABOVE RIGHTWARDS ARROW;
   RIGHTWARDS ARROW ABOVE REVERSE ALMOST EQUAL TO;TILDE OPERATOR 1 LEFTWARDS ARROW;
   LEFTWARDS ARROW 1 ALMOST EQUAL TO;3 REVERSE TILDE OPERATOR;RIGHTWARDS 5;
   DOWNWARDS TRIANGLE-HEADED ZIGZAG ARROW;SHORT SLANTED NORTH 1;1 BACKSLANTED SOUTH 1;
   WHITE MEDIUM STAR;BLACK SMALL 1;WHITE 2;BLACK RIGHT-POINTING PENTAGON;WHITE 2;HEAVY LARGE CIRCLE;
   1 OVAL WITH OVAL INSIDE;1 CIRCLE 1 CIRCLE 1;2;1 CIRCLED SALTIRE;
   SLANTED NORTH ARROW WITH HOOKED HEAD;BACKSLANTED SOUTH 3 TAIL;SLANTED NORTH 2 HORIZONTAL 1;
   BACKSLANTED SOUTH 4;BENT ARROW POINTING DOWNWARDS THEN NORTH EAST;
   SHORT BENT ARROW POINTING DOWNWARDS THEN NORTH EAST;LEFTWARDS TRIANGLE-HEADED 1;UPWARDS 2;
   RIGHTWARDS 2;DOWNWARDS 2;LEFT RIGHT TRIANGLE-HEADED ARROW;UP DOWN 2;NORTH WEST 2;1 EAST 2;
   SOUTH 3;1 WEST 2;LEFTWARDS TRIANGLE-HEADED DASHED 1;UPWARDS 3;RIGHTWARDS 3;DOWNWARDS 3;
   CLOCKWISE 1 OPEN CIRCLE ARROW;ANTICLOCKWISE 4;LEFTWARDS 1 ARROW TO BAR;UPWARDS 4;RIGHTWARDS 4;
   DOWNWARDS 4;U+2B76;NORTH WEST TRIANGLE-HEADED ARROW TO BAR;1 EAST 4;SOUTH 5;1 WEST 4;
   LEFTWARDS TRIANGLE-HEADED ARROW WITH DOUBLE HORIZONTAL STROKE;UPWARDS 6;RIGHTWARDS 6;DOWNWARDS 6;
   HORIZONTAL TAB KEY;VERTICAL 2;
   LEFTWARDS TRIANGLE-HEADED ARROW OVER RIGHTWARDS TRIANGLE-HEADED ARROW;
   UPWARDS 2 LEFTWARDS OF DOWNWARDS TRIANGLE-HEADED ARROW;
   RIGHTWARDS 2 OVER LEFTWARDS TRIANGLE-HEADED ARROW;
   DOWNWARDS 2 LEFTWARDS OF UPWARDS TRIANGLE-HEADED ARROW;LEFTWARDS 1 PAIRED ARROWS;UPWARDS 3;
   RIGHTWARDS 3;DOWNWARDS 3;LEFTWARDS BLACK CIRCLED WHITE ARROW;UPWARDS 4;RIGHTWARDS 4;DOWNWARDS 4;
   ANTICLOCKWISE TRIANGLE-HEADED RIGHT U-SHAPED 1;2 BOTTOM 2;2 LEFT 2;2 TOP 2;RETURN LEFT;1 RIGHT;
   NEWLINE LEFT;1 RIGHT;FOUR CORNER ARROWS CIRCLING ANTICLOCKWISE;RIGHTWARDS BLACK ARROW;U+2B97;
   SYMBOL FOR TYPE A ELECTRONICS;THREE-D TOP-LIGHTED LEFTWARDS EQUILATERAL ARROWHEAD;
   1 RIGHT-LIGHTED UPWARDS 2;1 TOP-LIGHTED RIGHTWARDS 2;1 LEFT-LIGHTED DOWNWARDS 2;
   BLACK LEFTWARDS EQUILATERAL ARROWHEAD;1 UPWARDS 2;1 RIGHTWARDS 2;1 DOWNWARDS 2;
   DOWNWARDS TRIANGLE-HEADED ARROW WITH LONG TIP LEFTWARDS;6 RIGHTWARDS;UPWARDS 5 LEFTWARDS;
   6 RIGHTWARDS;LEFTWARDS 5 UPWARDS;RIGHTWARDS 6;LEFTWARDS 5 DOWNWARDS;RIGHTWARDS 6;
   BLACK CURVED DOWNWARDS AND LEFTWARDS ARROW;4 RIGHTWARDS 1;2 UPWARDS 1 LEFTWARDS 1;4 RIGHTWARDS 1;
   2 LEFTWARDS 1 UPWARDS 1;2 RIGHTWARDS 3;2 LEFTWARDS 1 DOWNWARDS 1;2 RIGHTWARDS 3;
   RIBBON ARROW DOWN LEFT;3 RIGHT;2 UP LEFT;3 RIGHT;2 LEFT UP;2 RIGHT 1;2 LEFT DOWN;2 RIGHT 1;
   UPWARDS WHITE ARROW FROM BAR WITH HORIZONTAL BAR;UP ARROWHEAD IN A RECTANGLE BOX;
   OVERLAPPING WHITE SQUARES;2 AND BLACK SQUARES;1 BLACK SQUARES;BALLOT BOX WITH LIGHT X;CIRCLED X;
   1 BOLD X;BLACK SQUARE CENTRED;1 DIAMOND 1;TURNED BLACK PENTAGON;HORIZONTAL 1 OCTAGON;
   BLACK OCTAGON;1 MEDIUM UP-POINTING TRIANGLE CENTRED;2 DOWN-POINTING 2;2 LEFT-POINTING 2;
   2 RIGHT-POINTING 2;NEPTUNE FORM TWO;TOP HALF BLACK CIRCLE;BOTTOM 3;LIGHT FOUR POINTED BLACK CUSP;
   ROTATED LIGHT FOUR POINTED BLACK CUSP;WHITE FOUR POINTED CUSP;ROTATED WHITE FOUR POINTED CUSP;
   SQUARE POSITION INDICATOR;UNCERTAINTY SIGN;GROUP MARK;PLUTO FORM TWO;2 THREE;2 FOUR;2 FIVE;
   TRANSPLUTO;PROSERPINA;ASTRAEA;HYGIEA;PHOLUS;NESSUS;WHITE MOON SELENA;BLACK DIAMOND ON CROSS;
   TRUE LIGHT MOON ARTA;CUPIDO;HADES;ZEUS;KRONOS;APOLLON;ADMETOS;VULCANUS;POSEIDON;
   LEFT HALF BLACK STAR;RIGHT 3;STAR WITH LEFT HALF BLACK;2 RIGHT 2;
   LEFTWARDS TWO-HEADED ARROW WITH TRIANGLE ARROWHEADS;UPWARDS 5;RIGHTWARDS 5;DOWNWARDS 5;
   ERIS FORM ONE;2 TWO;SEDNA;RUSSIAN ASTROLOGICAL SYMBOL VIGINTILE;3 NOVILE;3 QUINTILE;3 BINOVILE;
   3 SENTAGON;3 TREDECILE;EQUALS SIGN WITH INFINITY BELOW;UNITED SYMBOL;SEPARATED 1;DOUBLED 1;
   PASSED 1;REVERSED RIGHT ANGLE;HELLSCHREIBER PAUSE SYMBOL"

end ApiShell.Template.CharacterName
