/-! Names of enclosed letters, lines, boxes, shapes and ornaments, as a listing. -/

namespace ApiShell.Template.CharacterName

/-- Enclosed letters, boxes and ornaments. -/
def shapes : String :=
  "U+2400;SYMBOL FOR NULL;2 START OF HEADING;4 TEXT;2 END 2;4 TRANSMISSION;2 ENQUIRY;2 ACKNOWLEDGE;
   2 BELL;2 BACKSPACE;2 HORIZONTAL TABULATION;2 LINE FEED;2 VERTICAL TABULATION;2 FORM FEED;
   2 CARRIAGE RETURN;2 SHIFT OUT;3 IN;2 DATA LINK ESCAPE;2 DEVICE CONTROL ONE;4 TWO;4 THREE;4 FOUR;
   2 NEGATIVE ACKNOWLEDGE;2 SYNCHRONOUS IDLE;2 END OF TRANSMISSION BLOCK;2 CANCEL;2 END OF MEDIUM;
   2 SUBSTITUTE;2 ESCAPE;2 FILE SEPARATOR;2 GROUP 1;2 RECORD 1;2 UNIT 1;2 SPACE;2 DELETE;
   BLANK SYMBOL;OPEN BOX;SYMBOL FOR NEWLINE;2 DELETE FORM TWO;2 SUBSTITUTE 2;U+2440;OCR HOOK;
   1 CHAIR;1 FORK;1 INVERTED FORK;1 BELT BUCKLE;1 BOW TIE;1 BRANCH BANK IDENTIFICATION;
   1 AMOUNT OF CHECK;1 DASH;1 CUSTOMER ACCOUNT NUMBER;1 DOUBLE BACKSLASH;U+2460;CIRCLED DIGIT ONE;
   2 TWO;2 THREE;2 FOUR;2 FIVE;2 SIX;2 SEVEN;2 EIGHT;2 NINE;1 NUMBER TEN;2 ELEVEN;2 TWELVE;
   2 THIRTEEN;2 FOURTEEN;2 FIFTEEN;2 SIXTEEN;2 SEVENTEEN;2 EIGHTEEN;2 NINETEEN;2 TWENTY;
   PARENTHESIZED DIGIT ONE;2 TWO;2 THREE;2 FOUR;2 FIVE;2 SIX;2 SEVEN;2 EIGHT;2 NINE;1 NUMBER TEN;
   2 ELEVEN;2 TWELVE;2 THIRTEEN;2 FOURTEEN;2 FIFTEEN;2 SIXTEEN;2 SEVENTEEN;2 EIGHTEEN;2 NINETEEN;
   2 TWENTY;DIGIT ONE FULL STOP;1 TWO 2;1 THREE 2;1 FOUR 2;1 FIVE 2;1 SIX 2;1 SEVEN 2;1 EIGHT 2;
   1 NINE 2;NUMBER TEN 2;1 ELEVEN 2;1 TWELVE 2;1 THIRTEEN 2;1 FOURTEEN 2;1 FIFTEEN 2;1 SIXTEEN 2;
   1 SEVENTEEN 2;1 EIGHTEEN 2;1 NINETEEN 2;1 TWENTY 2;PARENTHESIZED LATIN SMALL LETTER A;4 B;4 C;
   4 D;4 E;4 F;4 G;4 H;4 I;4 J;4 K;4 L;4 M;4 N;4 O;4 P;4 Q;4 R;4 S;4 T;4 U;4 V;4 W;4 X;4 Y;4 Z;
   CIRCLED 1 CAPITAL 1 A;4 B;4 C;4 D;4 E;4 F;4 G;4 H;4 I;4 J;4 K;4 L;4 M;4 N;4 O;4 P;4 Q;4 R;4 S;
   4 T;4 U;4 V;4 W;4 X;4 Y;4 Z;2 SMALL 1 A;4 B;4 C;4 D;4 E;4 F;4 G;4 H;4 I;4 J;4 K;4 L;4 M;4 N;4 O;
   4 P;4 Q;4 R;4 S;4 T;4 U;4 V;4 W;4 X;4 Y;4 Z;1 DIGIT ZERO;NEGATIVE CIRCLED NUMBER ELEVEN;3 TWELVE;
   3 THIRTEEN;3 FOURTEEN;3 FIFTEEN;3 SIXTEEN;3 SEVENTEEN;3 EIGHTEEN;3 NINETEEN;3 TWENTY;
   DOUBLE 1 DIGIT ONE;3 TWO;3 THREE;3 FOUR;3 FIVE;3 SIX;3 SEVEN;3 EIGHT;3 NINE;2 NUMBER TEN;
   NEGATIVE 1 DIGIT ZERO;BOX DRAWINGS LIGHT HORIZONTAL;2 HEAVY 1;2 LIGHT VERTICAL;2 HEAVY 1;
   2 LIGHT TRIPLE DASH HORIZONTAL;2 HEAVY 3;2 LIGHT 2 VERTICAL;2 HEAVY 3;
   2 LIGHT QUADRUPLE 1 HORIZONTAL;2 HEAVY 3;2 LIGHT 2 VERTICAL;2 HEAVY 3;2 LIGHT DOWN AND RIGHT;
   2 DOWN LIGHT 2 HEAVY;3 HEAVY 2 LIGHT;2 HEAVY DOWN 2;2 LIGHT 2 LEFT;2 DOWN LIGHT 2 HEAVY;
   3 HEAVY 2 LIGHT;2 HEAVY DOWN 2;2 LIGHT UP 1 RIGHT;2 UP LIGHT 2 HEAVY;3 HEAVY 2 LIGHT;
   2 HEAVY UP 2;2 LIGHT 2 LEFT;2 UP LIGHT 2 HEAVY;3 HEAVY 2 LIGHT;2 HEAVY UP 2;
   2 LIGHT VERTICAL 1 RIGHT;2 VERTICAL LIGHT 2 HEAVY;2 UP HEAVY 2 DOWN LIGHT;2 DOWN 3 UP 1;
   2 VERTICAL 3 LIGHT;2 DOWN LIGHT 2 UP HEAVY;2 UP 3 DOWN 1;2 HEAVY VERTICAL 2;2 LIGHT 2 LEFT;
   2 VERTICAL LIGHT 2 HEAVY;2 UP HEAVY 2 DOWN LIGHT;2 DOWN 3 UP 1;2 VERTICAL 3 LIGHT;
   2 DOWN LIGHT 2 UP HEAVY;2 UP 3 DOWN 1;2 HEAVY VERTICAL 2;2 LIGHT DOWN 1 HORIZONTAL;
   2 LEFT HEAVY 1 RIGHT DOWN LIGHT;2 RIGHT 2 LEFT 2;2 DOWN LIGHT 1 HORIZONTAL HEAVY;3 HEAVY 2 LIGHT;
   2 RIGHT LIGHT 1 LEFT DOWN HEAVY;2 LEFT 2 RIGHT 2;2 HEAVY DOWN 1 HORIZONTAL;2 LIGHT UP 2;
   2 LEFT HEAVY 1 RIGHT UP LIGHT;2 RIGHT 2 LEFT 2;2 UP LIGHT 1 HORIZONTAL HEAVY;3 HEAVY 2 LIGHT;
   2 RIGHT LIGHT 1 LEFT UP HEAVY;2 LEFT 2 RIGHT 2;2 HEAVY UP 1 HORIZONTAL;2 LIGHT VERTICAL 2;
   2 LEFT HEAVY 1 RIGHT VERTICAL LIGHT;2 RIGHT 2 LEFT 2;2 VERTICAL LIGHT 1 HORIZONTAL HEAVY;
   2 UP HEAVY 1 DOWN HORIZONTAL LIGHT;2 DOWN 2 UP 2;2 VERTICAL 2 HORIZONTAL LIGHT;
   2 LEFT UP HEAVY AND RIGHT DOWN LIGHT;2 RIGHT 3 LEFT 2;2 LEFT DOWN 2 RIGHT UP 1;2 RIGHT 3 LEFT 2;
   2 DOWN LIGHT AND UP HORIZONTAL HEAVY;2 UP 2 DOWN 2;2 RIGHT 2 LEFT VERTICAL 1;2 LEFT 2 RIGHT 2;
   2 HEAVY VERTICAL 1 HORIZONTAL;2 LIGHT DOUBLE DASH 1;2 HEAVY 3;2 LIGHT 2 VERTICAL;2 HEAVY 3;
   2 DOUBLE HORIZONTAL;3 VERTICAL;2 DOWN SINGLE AND RIGHT DOUBLE;3 DOUBLE 2 SINGLE;2 DOUBLE DOWN 2;
   2 DOWN SINGLE 1 LEFT DOUBLE;3 DOUBLE 2 SINGLE;2 DOUBLE DOWN 2;2 UP SINGLE 1 RIGHT DOUBLE;
   3 DOUBLE 2 SINGLE;2 DOUBLE UP 2;2 UP SINGLE 1 LEFT DOUBLE;3 DOUBLE 2 SINGLE;2 DOUBLE UP 2;
   2 VERTICAL SINGLE 1 RIGHT DOUBLE;3 DOUBLE 2 SINGLE;2 DOUBLE VERTICAL 2;
   2 VERTICAL SINGLE 1 LEFT DOUBLE;3 DOUBLE 2 SINGLE;2 DOUBLE VERTICAL 2;
   2 DOWN SINGLE 1 HORIZONTAL DOUBLE;3 DOUBLE 2 SINGLE;2 DOUBLE DOWN 2;2 UP SINGLE 2 DOUBLE;
   3 DOUBLE 2 SINGLE;2 DOUBLE UP 2;2 VERTICAL SINGLE 2 DOUBLE;3 DOUBLE 2 SINGLE;2 DOUBLE VERTICAL 2;
   2 LIGHT ARC DOWN AND RIGHT;6 LEFT;4 UP 2;6 RIGHT;3 DIAGONAL UPPER RIGHT TO LOWER LEFT;
   5 LEFT 2 RIGHT;4 CROSS;3 LEFT;3 UP;3 RIGHT;3 DOWN;2 HEAVY LEFT;3 UP;3 RIGHT;3 DOWN;
   2 LIGHT LEFT AND HEAVY RIGHT;3 UP 2 DOWN;2 HEAVY LEFT 1 LIGHT RIGHT;3 UP 2 DOWN;UPPER HALF BLOCK;
   LOWER ONE EIGHTH BLOCK;2 QUARTER 1;1 THREE EIGHTHS 1;1 HALF BLOCK;1 FIVE EIGHTHS BLOCK;
   1 THREE QUARTERS 1;1 SEVEN EIGHTHS 1;FULL BLOCK;LEFT SEVEN EIGHTHS BLOCK;1 THREE QUARTERS 1;
   1 FIVE EIGHTHS 1;1 HALF BLOCK;1 THREE EIGHTHS BLOCK;1 ONE QUARTER 1;2 EIGHTH 1;RIGHT HALF BLOCK;
   LIGHT SHADE;MEDIUM 1;DARK 1;UPPER ONE EIGHTH BLOCK;RIGHT 3;QUADRANT LOWER LEFT;2 RIGHT;
   1 UPPER LEFT;3 AND LOWER LEFT AND LOWER RIGHT;5 RIGHT;4 UPPER 1 AND LOWER LEFT;8 RIGHT;2 RIGHT;
   3 AND LOWER LEFT;6 AND LOWER RIGHT;BLACK SQUARE;WHITE 1;2 WITH ROUNDED CORNERS;
   2 CONTAINING BLACK SMALL SQUARE;SQUARE WITH HORIZONTAL FILL;2 VERTICAL 1;
   2 ORTHOGONAL CROSSHATCH FILL;2 UPPER LEFT TO LOWER RIGHT FILL;3 RIGHT 2 LEFT 1;
   2 DIAGONAL CROSSHATCH FILL;BLACK SMALL SQUARE;WHITE 2;BLACK RECTANGLE;WHITE 1;
   BLACK VERTICAL RECTANGLE;WHITE 2;BLACK PARALLELOGRAM;WHITE 1;BLACK UP-POINTING TRIANGLE;WHITE 2;
   BLACK 1 SMALL TRIANGLE;WHITE 3;BLACK RIGHT-POINTING TRIANGLE;WHITE 2;BLACK 1 SMALL TRIANGLE;
   WHITE 3;BLACK 1 POINTER;WHITE 2;BLACK DOWN-POINTING TRIANGLE;WHITE 2;BLACK 1 SMALL TRIANGLE;
   WHITE 3;BLACK LEFT-POINTING TRIANGLE;WHITE 2;BLACK 1 SMALL TRIANGLE;WHITE 3;BLACK 1 POINTER;
   WHITE 2;BLACK DIAMOND;WHITE 1;2 CONTAINING BLACK SMALL DIAMOND;FISHEYE;LOZENGE;WHITE CIRCLE;
   DOTTED 1;CIRCLE WITH VERTICAL FILL;BULLSEYE;BLACK CIRCLE;CIRCLE WITH LEFT HALF BLACK;2 RIGHT 2;
   2 LOWER 2;2 UPPER 2;3 RIGHT QUADRANT BLACK;2 ALL BUT UPPER LEFT QUADRANT BLACK;
   LEFT HALF BLACK CIRCLE;RIGHT 3;INVERSE BULLET;1 WHITE CIRCLE;UPPER HALF INVERSE WHITE CIRCLE;
   LOWER 4;UPPER LEFT QUADRANT CIRCULAR ARC;1 RIGHT 3;LOWER 4;1 LEFT 3;UPPER HALF CIRCLE;LOWER 2;
   BLACK LOWER RIGHT TRIANGLE;2 LEFT 1;1 UPPER 2;2 RIGHT 1;WHITE BULLET;SQUARE WITH LEFT HALF BLACK;
   2 RIGHT 2;2 UPPER LEFT DIAGONAL HALF BLACK;2 LOWER RIGHT 3;
   WHITE SQUARE WITH VERTICAL BISECTING LINE;1 UP-POINTING TRIANGLE WITH DOT;
   UP-POINTING TRIANGLE WITH LEFT HALF BLACK;3 RIGHT 2;LARGE CIRCLE;
   WHITE SQUARE WITH UPPER LEFT QUADRANT;3 LOWER 2;4 RIGHT 1;3 UPPER 2;1 CIRCLE 2 LEFT 1;3 LOWER 2;
   4 RIGHT 1;3 UPPER 2;UPPER LEFT TRIANGLE;1 RIGHT 1;LOWER LEFT 1;WHITE MEDIUM SQUARE;BLACK 2;
   WHITE 1 SMALL SQUARE;BLACK 3;LOWER RIGHT TRIANGLE;BLACK SUN WITH RAYS;CLOUD;UMBRELLA;SNOWMAN;
   COMET;BLACK STAR;WHITE 1;LIGHTNING;THUNDERSTORM;SUN;ASCENDING NODE;DESCENDING 1;CONJUNCTION;
   OPPOSITION;BLACK TELEPHONE;WHITE 1;BALLOT BOX;2 WITH CHECK;3 X;SALTIRE;UMBRELLA WITH RAIN DROPS;
   HOT BEVERAGE;WHITE SHOGI PIECE;BLACK 2;SHAMROCK;REVERSED ROTATED FLORAL HEART BULLET;
   BLACK LEFT POINTING INDEX;1 RIGHT 2;WHITE LEFT 2;1 UP 2;1 RIGHT 2;1 DOWN 2;SKULL AND CROSSBONES;
   CAUTION SIGN;RADIOACTIVE 1;BIOHAZARD 1;CADUCEUS;ANKH;ORTHODOX CROSS;CHI RHO;CROSS OF LORRAINE;
   2 JERUSALEM;STAR AND CRESCENT;FARSI SYMBOL;ADI SHAKTI;HAMMER AND SICKLE;PEACE SYMBOL;YIN YANG;
   TRIGRAM FOR HEAVEN;2 LAKE;2 FIRE;2 THUNDER;2 WIND;2 WATER;2 MOUNTAIN;2 EARTH;WHEEL OF DHARMA;
   WHITE FROWNING FACE;1 SMILING 1;BLACK 2;WHITE SUN WITH RAYS;FIRST QUARTER MOON;LAST 2;MERCURY;
   FEMALE SIGN;EARTH;MALE SIGN;JUPITER;SATURN;URANUS;NEPTUNE;PLUTO;ARIES;TAURUS;GEMINI;CANCER;LEO;
   VIRGO;LIBRA;SCORPIUS;SAGITTARIUS;CAPRICORN;AQUARIUS;PISCES;WHITE CHESS KING;2 QUEEN;2 ROOK;
   2 BISHOP;2 KNIGHT;2 PAWN;BLACK 1 KING;2 QUEEN;2 ROOK;2 BISHOP;2 KNIGHT;2 PAWN;1 SPADE SUIT;
   WHITE HEART 1;1 DIAMOND 1;BLACK CLUB 1;WHITE SPADE 1;BLACK HEART 1;1 DIAMOND 1;WHITE CLUB 1;
   HOT SPRINGS;QUARTER NOTE;EIGHTH 1;BEAMED EIGHTH NOTES;1 SIXTEENTH 1;MUSIC FLAT SIGN;1 NATURAL 1;
   1 SHARP 1;WEST SYRIAC CROSS;EAST 2;UNIVERSAL RECYCLING SYMBOL;
   RECYCLING SYMBOL FOR TYPE-1 PLASTICS;3 TYPE-2 1;3 TYPE-3 1;3 TYPE-4 1;3 TYPE-5 1;3 TYPE-6 1;
   3 TYPE-7 1;3 GENERIC MATERIALS;BLACK UNIVERSAL RECYCLING SYMBOL;RECYCLED PAPER SYMBOL;
   PARTIALLY-RECYCLED 2;PERMANENT 1 SIGN;WHEELCHAIR SYMBOL;DIE FACE-1;+5;
   WHITE CIRCLE WITH DOT RIGHT;3 TWO DOTS;BLACK 2 WHITE DOT RIGHT;3 TWO WHITE DOTS;
   MONOGRAM FOR YANG;2 YIN;DIGRAM 1 GREATER YANG;2 LESSER YIN;3 YANG;2 GREATER YIN;WHITE FLAG;
   BLACK 1;HAMMER AND PICK;ANCHOR;CROSSED SWORDS;STAFF OF AESCULAPIUS;SCALES;ALEMBIC;FLOWER;GEAR;
   STAFF OF HERMES;ATOM SYMBOL;FLEUR-DE-LIS;OUTLINED WHITE STAR;THREE LINES CONVERGING RIGHT;3 LEFT;
   WARNING SIGN;HIGH VOLTAGE SIGN;DOUBLED FEMALE 1;1 MALE 1;INTERLOCKED FEMALE AND MALE SIGN;
   MALE AND FEMALE SIGN;1 WITH STROKE 1;3 AND MALE AND FEMALE SIGN;VERTICAL MALE WITH STROKE SIGN;
   HORIZONTAL 4;MEDIUM WHITE CIRCLE;1 BLACK 1;1 SMALL WHITE CIRCLE;MARRIAGE SYMBOL;DIVORCE 1;
   UNMARRIED PARTNERSHIP SYMBOL;COFFIN;FUNERAL URN;NEUTER;CERES;PALLAS;JUNO;VESTA;CHIRON;
   BLACK MOON LILITH;SEXTILE;SEMISEXTILE;QUINCUNX;SESQUIQUADRATE;SOCCER BALL;BASEBALL;SQUARED KEY;
   WHITE DRAUGHTS MAN;2 KING;BLACK 1 MAN;2 KING;SNOWMAN WITHOUT SNOW;SUN BEHIND CLOUD;RAIN;
   BLACK SNOWMAN;THUNDER CLOUD AND RAIN;TURNED WHITE SHOGI PIECE;1 BLACK 2;WHITE DIAMOND IN SQUARE;
   CROSSING LANES;DISABLED CAR;OPHIUCHUS;PICK;CAR SLIDING;HELMET WITH WHITE CROSS;
   CIRCLED CROSSING LANES;CHAINS;NO ENTRY;ALTERNATE ONE-WAY LEFT WAY TRAFFIC;BLACK TWO-WAY 3;
   WHITE 4;BLACK LEFT LANE MERGE;WHITE 3;DRIVE SLOW SIGN;HEAVY WHITE DOWN-POINTING TRIANGLE;
   LEFT CLOSED ENTRY;SQUARED SALTIRE;FALLING DIAGONAL IN WHITE CIRCLE IN BLACK SQUARE;BLACK TRUCK;
   RESTRICTED LEFT ENTRY-1;+1;ASTRONOMICAL SYMBOL FOR URANUS;
   HEAVY CIRCLE WITH STROKE AND TWO DOTS ABOVE;PENTAGRAM;RIGHT-HANDED INTERLACED PENTAGRAM;
   LEFT-HANDED 2;INVERTED PENTAGRAM;BLACK CROSS ON SHIELD;SHINTO SHRINE;CHURCH;CASTLE;HISTORIC SITE;
   GEAR WITHOUT HUB;1 WITH HANDLES;MAP SYMBOL FOR LIGHTHOUSE;MOUNTAIN;UMBRELLA ON GROUND;FOUNTAIN;
   FLAG IN HOLE;FERRY;SAILBOAT;SQUARE FOUR CORNERS;SKIER;ICE SKATE;PERSON WITH BALL;TENT;
   JAPANESE BANK SYMBOL;HEADSTONE GRAVEYARD 1;FUEL PUMP;CUP ON BLACK SQUARE;
   WHITE FLAG WITH HORIZONTAL MIDDLE BLACK STRIPE;BLACK SAFETY SCISSORS;UPPER BLADE 1;
   BLACK SCISSORS;LOWER BLADE SCISSORS;WHITE SCISSORS;1 HEAVY CHECK MARK;TELEPHONE LOCATION SIGN;
   TAPE DRIVE;AIRPLANE;ENVELOPE;RAISED FIST;1 HAND;VICTORY 1;WRITING 1;LOWER RIGHT PENCIL;PENCIL;
   UPPER RIGHT PENCIL;WHITE NIB;BLACK 1;CHECK MARK;HEAVY CHECK MARK;MULTIPLICATION X;
   HEAVY MULTIPLICATION X;BALLOT X;HEAVY BALLOT X;OUTLINED GREEK CROSS;HEAVY 2;OPEN CENTRE 1;
   HEAVY OPEN CENTRE CROSS;LATIN CROSS;SHADOWED WHITE LATIN CROSS;OUTLINED LATIN CROSS;
   MALTESE CROSS;STAR OF DAVID;FOUR TEARDROP-SPOKED ASTERISK;1 BALLOON-SPOKED 1;
   HEAVY FOUR BALLOON-SPOKED ASTERISK;FOUR CLUB-SPOKED ASTERISK;BLACK FOUR POINTED STAR;WHITE 3;
   SPARKLES;STRESS OUTLINED WHITE STAR;CIRCLED WHITE STAR;OPEN CENTRE BLACK STAR;BLACK 1 WHITE 1;
   OUTLINED BLACK STAR;HEAVY OUTLINED BLACK STAR;PINWHEEL STAR;SHADOWED WHITE STAR;HEAVY ASTERISK;
   OPEN CENTRE ASTERISK;EIGHT SPOKED 1;1 POINTED BLACK STAR;2 PINWHEEL 1;SIX 1 BLACK 1;
   EIGHT 1 RECTILINEAR BLACK STAR;HEAVY EIGHT POINTED RECTILINEAR BLACK STAR;
   TWELVE POINTED BLACK STAR;SIXTEEN 1 ASTERISK;TEARDROP-SPOKED ASTERISK;
   OPEN CENTRE TEARDROP-SPOKED ASTERISK;HEAVY TEARDROP-SPOKED ASTERISK;
   SIX PETALLED BLACK AND WHITE FLORETTE;BLACK FLORETTE;WHITE 1;
   EIGHT PETALLED OUTLINED BLACK FLORETTE;CIRCLED OPEN CENTRE EIGHT POINTED STAR;
   HEAVY TEARDROP-SPOKED PINWHEEL ASTERISK;SNOWFLAKE;TIGHT TRIFOLIATE SNOWFLAKE;HEAVY CHEVRON 1;
   SPARKLE;HEAVY SPARKLE;BALLOON-SPOKED ASTERISK;EIGHT TEARDROP-SPOKED PROPELLER ASTERISK;
   HEAVY EIGHT TEARDROP-SPOKED PROPELLER ASTERISK;CROSS MARK;SHADOWED WHITE CIRCLE;
   NEGATIVE SQUARED CROSS MARK;LOWER RIGHT DROP-SHADOWED WHITE SQUARE;UPPER 4;LOWER 1 SHADOWED 2;
   UPPER 4;BLACK QUESTION MARK ORNAMENT;WHITE 3;1 EXCLAMATION 2;BLACK DIAMOND MINUS WHITE X;
   HEAVY EXCLAMATION MARK SYMBOL;LIGHT VERTICAL BAR;MEDIUM 2;HEAVY 2;
   1 SINGLE TURNED COMMA QUOTATION MARK ORNAMENT;2 COMMA QUOTATION MARK ORNAMENT;
   1 DOUBLE TURNED COMMA QUOTATION MARK ORNAMENT;2 COMMA QUOTATION MARK ORNAMENT;
   1 LOW SINGLE COMMA QUOTATION MARK ORNAMENT;2 DOUBLE 4;CURVED STEM PARAGRAPH SIGN ORNAMENT;
   HEAVY EXCLAMATION MARK ORNAMENT;1 HEART EXCLAMATION MARK ORNAMENT;1 BLACK HEART;
   ROTATED HEAVY BLACK HEART BULLET;FLORAL HEART;ROTATED FLORAL HEART BULLET;
   MEDIUM LEFT PARENTHESIS ORNAMENT;1 RIGHT 2;1 FLATTENED LEFT PARENTHESIS ORNAMENT;2 RIGHT 2;
   1 LEFT-POINTING ANGLE BRACKET 1;1 RIGHT-POINTING 3;HEAVY LEFT-POINTING 1 QUOTATION MARK ORNAMENT;
   1 RIGHT-POINTING 4;1 LEFT-POINTING 1 BRACKET ORNAMENT;1 RIGHT-POINTING 3;
   LIGHT LEFT TORTOISE SHELL BRACKET ORNAMENT;1 RIGHT 4;MEDIUM LEFT CURLY BRACKET ORNAMENT;
   1 RIGHT 3;DINGBAT NEGATIVE CIRCLED DIGIT ONE;4 TWO;4 THREE;4 FOUR;4 FIVE;4 SIX;4 SEVEN;4 EIGHT;
   4 NINE;3 NUMBER TEN;1 CIRCLED SANS-SERIF DIGIT ONE;4 TWO;4 THREE;4 FOUR;4 FIVE;4 SIX;4 SEVEN;
   4 EIGHT;4 NINE;3 NUMBER TEN;1 NEGATIVE CIRCLED SANS-SERIF DIGIT ONE;5 TWO;5 THREE;5 FOUR;5 FIVE;
   5 SIX;5 SEVEN;5 EIGHT;5 NINE;4 NUMBER TEN;HEAVY WIDE-HEADED RIGHTWARDS ARROW;1 PLUS SIGN;
   1 MINUS 1;1 DIVISION 1;1 SOUTH EAST ARROW;1 RIGHTWARDS ARROW;1 NORTH EAST ARROW;
   DRAFTING POINT RIGHTWARDS 1;HEAVY ROUND-TIPPED 2;TRIANGLE-HEADED RIGHTWARDS ARROW;
   HEAVY TRIANGLE-HEADED RIGHTWARDS ARROW;DASHED 3;HEAVY DASHED TRIANGLE-HEADED RIGHTWARDS ARROW;
   BLACK RIGHTWARDS ARROW;THREE-D TOP-LIGHTED RIGHTWARDS ARROWHEAD;1 BOTTOM-LIGHTED 2;
   BLACK RIGHTWARDS ARROWHEAD;HEAVY BLACK CURVED DOWNWARDS AND RIGHTWARDS ARROW;3 UPWARDS 3;
   SQUAT 1 RIGHTWARDS ARROW;HEAVY CONCAVE-POINTED BLACK RIGHTWARDS ARROW;
   RIGHT-SHADED WHITE RIGHTWARDS ARROW;LEFT-SHADED 3;BACK-TILTED SHADOWED WHITE RIGHTWARDS ARROW;
   FRONT-TILTED 4;HEAVY LOWER RIGHT-SHADOWED WHITE RIGHTWARDS ARROW;1 UPPER 4;NOTCHED LOWER 4;
   CURLY LOOP;NOTCHED UPPER RIGHT-SHADOWED WHITE RIGHTWARDS ARROW;
   CIRCLED HEAVY WHITE RIGHTWARDS ARROW;WHITE-FEATHERED RIGHTWARDS ARROW;
   BLACK-FEATHERED SOUTH EAST ARROW;1 RIGHTWARDS ARROW;1 NORTH EAST ARROW;
   HEAVY BLACK-FEATHERED SOUTH EAST ARROW;2 RIGHTWARDS ARROW;2 NORTH EAST ARROW;
   TEARDROP-BARBED RIGHTWARDS ARROW;HEAVY TEARDROP-SHANKED RIGHTWARDS ARROW;
   WEDGE-TAILED RIGHTWARDS ARROW;HEAVY WEDGE-TAILED RIGHTWARDS ARROW;OPEN-OUTLINED RIGHTWARDS ARROW;
   DOUBLE CURLY LOOP"

end ApiShell.Template.CharacterName
