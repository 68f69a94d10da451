/-! Names of Glagolitic, Coptic and other scripts, of radicals, and of the signs and syllables of
Chinese and Japanese, as a listing. -/

namespace ApiShell.Template.CharacterName

/-- Glagolitic to the hexagrams. -/
def eastAsian : String :=
  "U+2C00;GLAGOLITIC CAPITAL LETTER AZU;3 BUKY;3 VEDE;3 GLAGOLI;3 DOBRO;3 YESTU;3 ZHIVETE;3 DZELO;
   3 ZEMLJA;3 IZHE;3 INITIAL IZHE;3 I;3 DJERVI;3 KAKO;3 LJUDIJE;3 MYSLITE;3 NASHI;3 ONU;3 POKOJI;
   3 RITSI;3 SLOVO;3 TVRIDO;3 UKU;3 FRITU;3 HERU;3 OTU;3 PE;3 SHTA;3 TSI;3 CHRIVI;3 SHA;3 YERU;
   3 YERI;3 YATI;3 SPIDERY HA;3 YU;3 SMALL YUS;5 WITH TAIL;3 YO;3 IOTATED SMALL YUS;3 BIG YUS;
   3 IOTATED BIG YUS;3 FITA;3 IZHITSA;3 SHTAPIC;3 TROKUTASTI A;3 LATINATE MYSLITE;3 CAUDATE CHRIVI;
   1 SMALL 1 AZU;3 BUKY;3 VEDE;3 GLAGOLI;3 DOBRO;3 YESTU;3 ZHIVETE;3 DZELO;3 ZEMLJA;3 IZHE;
   3 INITIAL IZHE;3 I;3 DJERVI;3 KAKO;3 LJUDIJE;3 MYSLITE;3 NASHI;3 ONU;3 POKOJI;3 RITSI;3 SLOVO;
   3 TVRIDO;3 UKU;3 FRITU;3 HERU;3 OTU;3 PE;3 SHTA;3 TSI;3 CHRIVI;3 SHA;3 YERU;3 YERI;3 YATI;
   3 SPIDERY HA;3 YU;3 SMALL YUS;5 WITH TAIL;3 YO;3 IOTATED SMALL YUS;3 BIG YUS;3 IOTATED BIG YUS;
   3 FITA;3 IZHITSA;3 SHTAPIC;3 TROKUTASTI A;3 LATINATE MYSLITE;3 CAUDATE CHRIVI;
   LATIN CAPITAL 1 L WITH DOUBLE BAR;1 SMALL 5;1 CAPITAL 3 MIDDLE TILDE;3 P 1 STROKE;3 R 1 TAIL;
   1 SMALL 1 A 1 STROKE;3 T 1 DIAGONAL STROKE;1 CAPITAL 1 H 1 DESCENDER;1 SMALL 4;1 CAPITAL 1 K 2;
   1 SMALL 4;1 CAPITAL 1 Z 2;1 SMALL 4;1 CAPITAL 1 ALPHA;3 M WITH HOOK;3 TURNED A;4 ALPHA;
   1 SMALL 1 V WITH RIGHT HOOK;1 CAPITAL 1 W 1 HOOK;1 SMALL 4;3 V 1 CURL;1 CAPITAL 1 HALF H;
   1 SMALL 3;3 TAILLESS PHI;3 E WITH NOTCH;3 TURNED R WITH TAIL;3 O WITH LOW RING INSIDE;
   1 LETTER SMALL CAPITAL TURNED E;1 SUBSCRIPT 1 LETTER J;MODIFIER LETTER CAPITAL V;
   LATIN CAPITAL LETTER S WITH SWASH TAIL;3 Z 3;COPTIC 2 ALFA;1 SMALL 2;1 CAPITAL 1 VIDA;1 SMALL 2;
   1 CAPITAL 1 GAMMA;1 SMALL 2;1 CAPITAL 1 DALDA;1 SMALL 2;1 CAPITAL 1 EIE;1 SMALL 2;
   1 CAPITAL 1 SOU;1 SMALL 2;1 CAPITAL 1 ZATA;1 SMALL 2;1 CAPITAL 1 HATE;1 SMALL 2;
   1 CAPITAL 1 THETHE;1 SMALL 2;1 CAPITAL 1 IAUDA;1 SMALL 2;1 CAPITAL 1 KAPA;1 SMALL 2;
   1 CAPITAL 1 LAULA;1 SMALL 2;1 CAPITAL 1 MI;1 SMALL 2;1 CAPITAL 1 NI;1 SMALL 2;1 CAPITAL 1 KSI;
   1 SMALL 2;1 CAPITAL 1 O;1 SMALL 2;1 CAPITAL 1 PI;1 SMALL 2;1 CAPITAL 1 RO;1 SMALL 2;
   1 CAPITAL 1 SIMA;1 SMALL 2;1 CAPITAL 1 TAU;1 SMALL 2;1 CAPITAL 1 UA;1 SMALL 2;1 CAPITAL 1 FI;
   1 SMALL 2;1 CAPITAL 1 KHI;1 SMALL 2;1 CAPITAL 1 PSI;1 SMALL 2;1 CAPITAL 1 OOU;1 SMALL 2;
   1 CAPITAL 1 DIALECT-P ALEF;1 SMALL 3;1 CAPITAL 1 OLD COPTIC AIN;1 SMALL 4;
   1 CAPITAL 1 CRYPTOGRAMMIC EIE;1 SMALL 3;1 CAPITAL 1 DIALECT-P KAPA;1 SMALL 3;1 CAPITAL 2 NI;
   1 SMALL 3;1 CAPITAL 1 CRYPTOGRAMMIC 1;1 SMALL 3;1 CAPITAL 1 OLD COPTIC OOU;1 SMALL 4;
   1 CAPITAL 1 SAMPI;1 SMALL 2;1 CAPITAL 1 CROSSED SHEI;1 SMALL 3;1 CAPITAL 1 OLD COPTIC SHEI;
   1 SMALL 4;1 CAPITAL 3 ESH;1 SMALL 4;1 CAPITAL 1 AKHMIMIC KHEI;1 SMALL 3;
   1 CAPITAL 1 DIALECT-P HORI;1 SMALL 3;1 CAPITAL 1 OLD COPTIC HORI;1 SMALL 4;1 CAPITAL 3 HA;
   1 SMALL 4;1 CAPITAL 1 L-SHAPED HA;1 SMALL 3;1 CAPITAL 1 OLD COPTIC HEI;1 SMALL 4;1 CAPITAL 3 HAT;
   1 SMALL 4;1 CAPITAL 3 GANGIA;1 SMALL 4;1 CAPITAL 3 DJA;1 SMALL 4;1 CAPITAL 3 SHIMA;1 SMALL 4;
   1 CAPITAL 2 NUBIAN 1;1 SMALL 4;1 CAPITAL 3 NGI;1 SMALL 4;1 CAPITAL 3 NYI;1 SMALL 4;
   1 CAPITAL 3 WAU;1 SMALL 4;1 SYMBOL KAI;2 MI RO;2 PI 1;2 STAUROS;2 TAU RO;2 KHI 1;2 SHIMA SIMA;
   1 CAPITAL LETTER CRYPTOGRAMMIC SHEI;1 SMALL 3;1 CAPITAL 2 GANGIA;1 SMALL 3;1 COMBINING NI ABOVE;
   2 SPIRITUS ASPER;3 LENIS;1 CAPITAL LETTER BOHAIRIC KHEI;1 SMALL 3;U+2CF9;1 OLD NUBIAN FULL STOP;
   3 DIRECT QUESTION MARK;3 INDIRECT 2;3 VERSE DIVIDER;1 FRACTION ONE HALF;1 FULL STOP;
   1 MORPHOLOGICAL DIVIDER;GEORGIAN SMALL LETTER AN;3 BAN;3 GAN;3 DON;3 EN;3 VIN;3 ZEN;3 TAN;3 IN;
   3 KAN;3 LAS;3 MAN;3 NAR;3 ON;3 PAR;3 ZHAR;3 RAE;3 SAN;3 TAR;3 UN;3 PHAR;3 KHAR;3 GHAN;3 QAR;
   3 SHIN;3 CHIN;3 CAN;3 JIL;3 CIL;3 CHAR;3 XAN;3 JHAN;3 HAE;3 HE;3 HIE;3 WE;3 HAR;3 HOE;U+2D27;
   3 YN;U+2D2D;3 AEN;U+2D30;TIFINAGH LETTER YA;2 YAB;2 YABH;2 YAG;2 YAGHH;2 BERBER ACADEMY YAJ;
   2 YAJ;2 YAD;2 YADH;2 YADD;2 YADDH;2 YEY;2 YAF;2 YAK;2 TUAREG YAK;2 YAKHH;2 YAH;
   2 BERBER ACADEMY YAH;2 TUAREG YAH;2 YAHH;2 YAA;2 YAKH;2 TUAREG YAKH;2 YAQ;2 TUAREG YAQ;2 YI;
   2 YAZH;2 AHAGGAR YAZH;2 TUAREG 1;2 YAL;2 YAM;2 YAN;2 TUAREG YAGN;3 YANG;2 YAP;2 YU;2 YAR;2 YARR;
   2 YAGH;2 TUAREG YAGH;2 AYER 1;2 YAS;2 YASS;2 YASH;2 YAT;2 YATH;2 YACH;2 YATT;2 YAV;2 YAW;2 YAY;
   2 YAZ;2 TAWELLEMET YAZ;2 YAZZ;2 YE;2 YO;U+2D6F;1 MODIFIER LETTER LABIALIZATION MARK;
   1 SEPARATOR MARK;U+2D7F;1 CONSONANT JOINER;ETHIOPIC SYLLABLE LOA;2 MOA;2 ROA;2 SOA;2 SHOA;2 BOA;
   2 TOA;2 COA;2 NOA;2 NYOA;2 GLOTTAL OA;2 ZOA;2 DOA;2 DDOA;2 JOA;2 THOA;2 CHOA;2 PHOA;2 POA;2 GGWA;
   2 GGWI;2 GGWEE;2 GGWE;U+2DA0;2 SSA;2 SSU;2 SSI;2 SSAA;2 SSEE;2 SSE;2 SSO;U+2DA8;2 CCA;2 CCU;
   2 CCI;2 CCAA;2 CCEE;2 CCE;2 CCO;U+2DB0;2 ZZA;2 ZZU;2 ZZI;2 ZZAA;2 ZZEE;2 ZZE;2 ZZO;U+2DB8;2 CCHA;
   2 CCHU;2 CCHI;2 CCHAA;2 CCHEE;2 CCHE;2 CCHO;U+2DC0;2 QYA;2 QYU;2 QYI;2 QYAA;2 QYEE;2 QYE;2 QYO;
   U+2DC8;2 KYA;2 KYU;2 KYI;2 KYAA;2 KYEE;2 KYE;2 KYO;U+2DD0;2 XYA;2 XYU;2 XYI;2 XYAA;2 XYEE;2 XYE;
   2 XYO;U+2DD8;2 GYA;2 GYU;2 GYI;2 GYAA;2 GYEE;2 GYE;2 GYO;U+2DE0;COMBINING CYRILLIC LETTER BE;
   3 VE;3 GHE;3 DE;3 ZHE;3 ZE;3 KA;3 EL;3 EM;3 EN;3 O;3 PE;3 ER;3 ES;3 TE;3 HA;3 TSE;3 CHE;3 SHA;
   3 SHCHA;3 FITA;3 ES-TE;3 A;3 IE;3 DJERV;3 MONOGRAPH UK;3 YAT;3 YU;3 IOTIFIED A;3 LITTLE YUS;
   3 BIG 1;3 IOTIFIED BIG YUS;RIGHT ANGLE SUBSTITUTION MARKER;2 DOTTED SUBSTITUTION MARKER;
   LEFT SUBSTITUTION BRACKET;RIGHT 2;LEFT DOTTED SUBSTITUTION BRACKET;RIGHT 3;
   RAISED INTERPOLATION MARKER;1 DOTTED INTERPOLATION MARKER;DOTTED TRANSPOSITION MARKER;
   LEFT 1 BRACKET;RIGHT 2;RAISED SQUARE;LEFT RAISED OMISSION BRACKET;RIGHT 3;EDITORIAL CORONIS;
   PARAGRAPHOS;FORKED PARAGRAPHOS;REVERSED FORKED PARAGRAPHOS;HYPODIASTOLE;DOTTED OBELOS;
   DOWNWARDS ANCORA;UPWARDS 1;DOTTED RIGHT-POINTING ANGLE;DOUBLE OBLIQUE HYPHEN;
   INVERTED INTERROBANG;PALM BRANCH;HYPHEN WITH DIAERESIS;TILDE 1 RING ABOVE;
   LEFT LOW PARAPHRASE BRACKET;RIGHT 3;TILDE WITH DOT ABOVE;3 BELOW;LEFT VERTICAL BAR WITH QUILL;
   RIGHT 4;TOP LEFT HALF BRACKET;1 RIGHT 2;BOTTOM LEFT 2;1 RIGHT 2;LEFT SIDEWAYS U 1;RIGHT 3;
   LEFT DOUBLE PARENTHESIS;RIGHT 2;TWO DOTS OVER ONE DOT PUNCTUATION;ONE DOT 1 TWO DOTS 1;
   SQUARED FOUR DOT PUNCTUATION;FIVE DOT MARK;REVERSED QUESTION 1;VERTICAL TILDE;RING POINT;
   WORD SEPARATOR MIDDLE DOT;TURNED COMMA;RAISED DOT;1 COMMA;TURNED SEMICOLON;
   DAGGER WITH LEFT GUARD;2 RIGHT 1;TURNED DAGGER;TOP HALF SECTION SIGN;TWO-EM DASH;THREE-EM 1;
   STENOGRAPHIC FULL STOP;VERTICAL SIX DOTS;WIGGLY VERTICAL LINE;CAPITULUM;DOUBLE HYPHEN;
   REVERSED COMMA;DOUBLE LOW-REVERSED-9 QUOTATION MARK;DASH WITH LEFT UPTURN;DOUBLE SUSPENSION MARK;
   INVERTED LOW KAVYKA;3 WITH KAVYKA ABOVE;LOW KAVYKA;2 WITH DOT;DOUBLE STACKED COMMA;
   DOTTED SOLIDUS;TRIPLE DAGGER;MEDIEVAL COMMA;PARAGRAPHUS MARK;PUNCTUS ELEVATUS MARK;
   CORNISH VERSE DIVIDER;CROSS PATTY WITH RIGHT CROSSBAR;3 LEFT 1;TIRONIAN SIGN CAPITAL ET;
   MEDIEVAL EXCLAMATION MARK;1 QUESTION 1;LEFT SQUARE BRACKET WITH STROKE;RIGHT 4;
   LEFT 3 DOUBLE STROKE;RIGHT 5;TOP HALF LEFT PARENTHESIS;2 RIGHT 1;BOTTOM 1 LEFT 1;2 RIGHT 1;
   OBLIQUE HYPHEN;U+2E80;CJK RADICAL REPEAT;2 CLIFF;2 SECOND ONE;3 TWO;3 THREE;2 PERSON;2 BOX;
   2 TABLE;2 KNIFE ONE;3 TWO;2 DIVINATION;2 SEAL;2 SMALL ONE;3 TWO;2 LAME ONE;3 TWO;3 THREE;3 FOUR;
   2 SNAKE;2 THREAD;2 SNOUT ONE;3 TWO;2 HEART ONE;3 TWO;2 HAND;2 RAP;U+2E9B;2 CHOKE;2 SUN;2 MOON;
   2 DEATH;2 MOTHER;2 CIVILIAN;2 WATER ONE;3 TWO;2 FIRE;2 PAW ONE;3 TWO;
   2 SIMPLIFIED HALF TREE TRUNK;2 COW;2 DOG;2 JADE;2 BOLT OF CLOTH;2 EYE;2 SPIRIT ONE;3 TWO;
   2 BAMBOO;2 SILK;2 C-SIMPLIFIED SILK;2 NET ONE;3 TWO;3 THREE;3 FOUR;2 MESH;2 SHEEP;2 RAM;2 EWE;
   2 OLD;2 BRUSH ONE;3 TWO;2 MEAT;2 MORTAR;2 GRASS ONE;3 TWO;3 THREE;2 TIGER;2 CLOTHES;2 WEST ONE;
   3 TWO;2 C-SIMPLIFIED SEE;2 SIMPLIFIED HORN;2 HORN;2 C-SIMPLIFIED SPEECH;3 SHELL;2 FOOT;
   2 C-SIMPLIFIED CART;2 SIMPLIFIED WALK;2 WALK ONE;3 TWO;2 CITY;2 C-SIMPLIFIED GOLD;2 LONG ONE;
   3 TWO;2 C-SIMPLIFIED LONG;3 GATE;2 MOUND ONE;3 TWO;2 RAIN;2 BLUE;2 C-SIMPLIFIED TANNED LEATHER;
   3 LEAF;3 WIND;3 FLY;2 EAT ONE;3 TWO;3 THREE;2 C-SIMPLIFIED EAT;2 HEAD;2 C-SIMPLIFIED HORSE;
   2 BONE;2 GHOST;2 C-SIMPLIFIED FISH;3 BIRD;3 SALT;2 SIMPLIFIED WHEAT;3 YELLOW;2 C-SIMPLIFIED FROG;
   2 J-SIMPLIFIED EVEN;2 C-SIMPLIFIED 1;2 J-SIMPLIFIED TOOTH;2 C-SIMPLIFIED 1;2 J-SIMPLIFIED DRAGON;
   2 C-SIMPLIFIED 1;2 TURTLE;2 J-SIMPLIFIED TURTLE;2 C-SIMPLIFIED 1;U+2F00;KANGXI 1 ONE;2 LINE;
   2 DOT;2 SLASH;2 SECOND;2 HOOK;2 TWO;2 LID;2 MAN;2 LEGS;2 ENTER;2 EIGHT;2 DOWN BOX;2 COVER;2 ICE;
   2 TABLE;2 OPEN BOX;2 KNIFE;2 POWER;2 WRAP;2 SPOON;2 RIGHT OPEN BOX;2 HIDING ENCLOSURE;2 TEN;
   2 DIVINATION;2 SEAL;2 CLIFF;2 PRIVATE;2 AGAIN;2 MOUTH;2 ENCLOSURE;2 EARTH;2 SCHOLAR;2 GO;
   3 SLOWLY;2 EVENING;2 BIG;2 WOMAN;2 CHILD;2 ROOF;2 INCH;2 SMALL;2 LAME;2 CORPSE;2 SPROUT;
   2 MOUNTAIN;2 RIVER;2 WORK;2 ONESELF;2 TURBAN;2 DRY;2 SHORT THREAD;2 DOTTED CLIFF;2 LONG STRIDE;
   2 TWO HANDS;2 SHOOT;2 BOW;2 SNOUT;2 BRISTLE;2 STEP;2 HEART;2 HALBERD;2 DOOR;2 HAND;2 BRANCH;
   2 RAP;2 SCRIPT;2 DIPPER;2 AXE;2 SQUARE;2 NOT;2 SUN;2 SAY;2 MOON;2 TREE;2 LACK;2 STOP;2 DEATH;
   2 WEAPON;2 DO NOT;2 COMPARE;2 FUR;2 CLAN;2 STEAM;2 WATER;2 FIRE;2 CLAW;2 FATHER;2 DOUBLE X;
   2 HALF TREE TRUNK;2 SLICE;2 FANG;2 COW;2 DOG;2 PROFOUND;2 JADE;2 MELON;2 TILE;2 SWEET;2 LIFE;
   2 USE;2 FIELD;2 BOLT OF CLOTH;2 SICKNESS;2 DOTTED TENT;2 WHITE;2 SKIN;2 DISH;2 EYE;2 SPEAR;
   2 ARROW;2 STONE;2 SPIRIT;2 TRACK;2 GRAIN;2 CAVE;2 STAND;2 BAMBOO;2 RICE;2 SILK;2 JAR;2 NET;
   2 SHEEP;2 FEATHER;2 OLD;2 AND;2 PLOW;2 EAR;2 BRUSH;2 MEAT;2 MINISTER;2 SELF;2 ARRIVE;2 MORTAR;
   2 TONGUE;2 OPPOSE;2 BOAT;2 STOPPING;2 COLOR;2 GRASS;2 TIGER;2 INSECT;2 BLOOD;2 WALK ENCLOSURE;
   2 CLOTHES;2 WEST;2 SEE;2 HORN;2 SPEECH;2 VALLEY;2 BEAN;2 PIG;2 BADGER;2 SHELL;2 RED;2 RUN;2 FOOT;
   2 BODY;2 CART;2 BITTER;2 MORNING;2 WALK;2 CITY;2 WINE;2 DISTINGUISH;2 VILLAGE;2 GOLD;2 LONG;
   2 GATE;2 MOUND;2 SLAVE;2 SHORT TAILED BIRD;2 RAIN;2 BLUE;2 WRONG;2 FACE;2 LEATHER;
   2 TANNED LEATHER;2 LEEK;2 SOUND;2 LEAF;2 WIND;2 FLY;2 EAT;2 HEAD;2 FRAGRANT;2 HORSE;2 BONE;
   2 TALL;2 HAIR;2 FIGHT;2 SACRIFICIAL WINE;2 CAULDRON;2 GHOST;2 FISH;2 BIRD;2 SALT;2 DEER;2 WHEAT;
   2 HEMP;2 YELLOW;2 MILLET;2 BLACK;2 EMBROIDERY;2 FROG;2 TRIPOD;2 DRUM;2 RAT;2 NOSE;2 EVEN;2 TOOTH;
   2 DRAGON;2 TURTLE;2 FLUTE;U+2FF0;IDEOGRAPHIC DESCRIPTION CHARACTER LEFT TO RIGHT;3 ABOVE 1 BELOW;
   3 LEFT 1 MIDDLE AND RIGHT;3 ABOVE 3 BELOW;3 FULL SURROUND;3 SURROUND FROM ABOVE;5 BELOW;5 LEFT;
   5 UPPER LEFT;6 RIGHT;5 LOWER LEFT;3 OVERLAID;U+3000;1 SPACE;1 COMMA;1 FULL STOP;DITTO MARK;
   JAPANESE INDUSTRIAL STANDARD SYMBOL;IDEOGRAPHIC ITERATION MARK;1 CLOSING 1;1 NUMBER ZERO;
   LEFT ANGLE BRACKET;RIGHT 2;LEFT DOUBLE ANGLE BRACKET;RIGHT 3;LEFT CORNER BRACKET;RIGHT 2;
   LEFT WHITE CORNER BRACKET;RIGHT 3;LEFT BLACK LENTICULAR 1;RIGHT 3;POSTAL MARK;GETA 1;
   LEFT TORTOISE SHELL BRACKET;RIGHT 3;LEFT WHITE LENTICULAR 1;RIGHT 3;
   LEFT 1 TORTOISE SHELL BRACKET;RIGHT 4;LEFT 1 SQUARE BRACKET;RIGHT 3;WAVE DASH;
   REVERSED DOUBLE PRIME QUOTATION MARK;DOUBLE PRIME QUOTATION MARK;LOW DOUBLE PRIME QUOTATION MARK;
   POSTAL MARK FACE;HANGZHOU NUMERAL ONE;2 TWO;2 THREE;2 FOUR;2 FIVE;2 SIX;2 SEVEN;2 EIGHT;2 NINE;
   IDEOGRAPHIC LEVEL TONE MARK;1 RISING 2;1 DEPARTING 2;1 ENTERING 2;HANGUL SINGLE DOT TONE MARK;
   1 DOUBLE 3;WAVY DASH;VERTICAL KANA REPEAT MARK;3 WITH VOICED SOUND MARK;3 MARK UPPER HALF;
   3 WITH VOICED SOUND MARK UPPER HALF;3 MARK LOWER HALF;CIRCLED POSTAL MARK;
   IDEOGRAPHIC TELEGRAPH LINE FEED SEPARATOR SYMBOL;HANGZHOU NUMERAL TEN;2 TWENTY;2 THIRTY;
   VERTICAL IDEOGRAPHIC ITERATION MARK;MASU MARK;PART ALTERNATION MARK;
   IDEOGRAPHIC VARIATION INDICATOR;1 HALF FILL SPACE;U+3041;HIRAGANA LETTER SMALL A;2 A;2 SMALL I;
   2 I;2 SMALL U;2 U;2 SMALL E;2 E;2 SMALL O;2 O;2 KA;2 GA;2 KI;2 GI;2 KU;2 GU;2 KE;2 GE;2 KO;2 GO;
   2 SA;2 ZA;2 SI;2 ZI;2 SU;2 ZU;2 SE;2 ZE;2 SO;2 ZO;2 TA;2 DA;2 TI;2 DI;2 SMALL TU;2 TU;2 DU;2 TE;
   2 DE;2 TO;2 DO;2 NA;2 NI;2 NU;2 NE;2 NO;2 HA;2 BA;2 PA;2 HI;2 BI;2 PI;2 HU;2 BU;2 PU;2 HE;2 BE;
   2 PE;2 HO;2 BO;2 PO;2 MA;2 MI;2 MU;2 ME;2 MO;2 SMALL YA;2 YA;2 SMALL YU;2 YU;2 SMALL YO;2 YO;
   2 RA;2 RI;2 RU;2 RE;2 RO;2 SMALL WA;2 WA;2 WI;2 WE;2 WO;2 N;2 VU;2 SMALL KA;3 KE;U+3099;
   COMBINING KATAKANA-HIRAGANA VOICED SOUND MARK;2 SEMI-VOICED 2;
   KATAKANA-HIRAGANA VOICED SOUND MARK;1 SEMI-VOICED 2;HIRAGANA ITERATION MARK;
   1 VOICED ITERATION MARK;1 DIGRAPH YORI;KATAKANA-HIRAGANA DOUBLE HYPHEN;KATAKANA LETTER SMALL A;
   2 A;2 SMALL I;2 I;2 SMALL U;2 U;2 SMALL E;2 E;2 SMALL O;2 O;2 KA;2 GA;2 KI;2 GI;2 KU;2 GU;2 KE;
   2 GE;2 KO;2 GO;2 SA;2 ZA;2 SI;2 ZI;2 SU;2 ZU;2 SE;2 ZE;2 SO;2 ZO;2 TA;2 DA;2 TI;2 DI;2 SMALL TU;
   2 TU;2 DU;2 TE;2 DE;2 TO;2 DO;2 NA;2 NI;2 NU;2 NE;2 NO;2 HA;2 BA;2 PA;2 HI;2 BI;2 PI;2 HU;2 BU;
   2 PU;2 HE;2 BE;2 PE;2 HO;2 BO;2 PO;2 MA;2 MI;2 MU;2 ME;2 MO;2 SMALL YA;2 YA;2 SMALL YU;2 YU;
   2 SMALL YO;2 YO;2 RA;2 RI;2 RU;2 RE;2 RO;2 SMALL WA;2 WA;2 WI;2 WE;2 WO;2 N;2 VU;2 SMALL KA;3 KE;
   2 VA;2 VI;2 VE;2 VO;1 MIDDLE DOT;KATAKANA-HIRAGANA PROLONGED SOUND MARK;KATAKANA ITERATION MARK;
   1 VOICED ITERATION MARK;1 DIGRAPH KOTO;U+3105;BOPOMOFO LETTER B;2 P;2 M;2 F;2 D;2 T;2 N;2 L;2 G;
   2 K;2 H;2 J;2 Q;2 X;2 ZH;2 CH;2 SH;2 R;2 Z;2 C;2 S;2 A;2 O;2 E;2 EH;2 AI;2 EI;2 AU;2 OU;2 AN;
   2 EN;2 ANG;2 ENG;2 ER;2 I;2 U;2 IU;2 V;2 NG;2 GN;2 IH;2 O WITH DOT ABOVE;2 NN;U+3131;
   HANGUL 1 KIYEOK;2 SSANGKIYEOK;2 KIYEOK-SIOS;2 NIEUN;2 NIEUN-CIEUC;2 NIEUN-HIEUH;2 TIKEUT;
   2 SSANGTIKEUT;2 RIEUL;2 RIEUL-KIYEOK;2 RIEUL-MIEUM;2 RIEUL-PIEUP;2 RIEUL-SIOS;2 RIEUL-THIEUTH;
   2 RIEUL-PHIEUPH;2 RIEUL-HIEUH;2 MIEUM;2 PIEUP;2 SSANGPIEUP;2 PIEUP-SIOS;2 SIOS;2 SSANGSIOS;
   2 IEUNG;2 CIEUC;2 SSANGCIEUC;2 CHIEUCH;2 KHIEUKH;2 THIEUTH;2 PHIEUPH;2 HIEUH;2 A;2 AE;2 YA;2 YAE;
   2 EO;2 E;2 YEO;2 YE;2 O;2 WA;2 WAE;2 OE;2 YO;2 U;2 WEO;2 WE;2 WI;2 YU;2 EU;2 YI;2 I;1 FILLER;
   1 LETTER SSANGNIEUN;2 NIEUN-TIKEUT;2 NIEUN-SIOS;2 NIEUN-PANSIOS;2 RIEUL-KIYEOK-SIOS;
   2 RIEUL-TIKEUT;2 RIEUL-PIEUP-SIOS;2 RIEUL-PANSIOS;2 RIEUL-YEORINHIEUH;2 MIEUM-PIEUP;2 MIEUM-SIOS;
   2 MIEUM-PANSIOS;2 KAPYEOUNMIEUM;2 PIEUP-KIYEOK;2 PIEUP-TIKEUT;2 PIEUP-SIOS-KIYEOK;
   2 PIEUP-SIOS-TIKEUT;2 PIEUP-CIEUC;2 PIEUP-THIEUTH;2 KAPYEOUNPIEUP;2 KAPYEOUNSSANGPIEUP;
   2 SIOS-KIYEOK;2 SIOS-NIEUN;2 SIOS-TIKEUT;2 SIOS-PIEUP;2 SIOS-CIEUC;2 PANSIOS;2 SSANGIEUNG;
   2 YESIEUNG;2 YESIEUNG-SIOS;2 YESIEUNG-PANSIOS;2 KAPYEOUNPHIEUPH;2 SSANGHIEUH;2 YEORINHIEUH;
   2 YO-YA;2 YO-YAE;2 YO-I;2 YU-YEO;2 YU-YE;2 YU-I;2 ARAEA;2 ARAEAE;U+3190;
   IDEOGRAPHIC ANNOTATION LINKING MARK;2 REVERSE 1;2 ONE 1;2 TWO 1;2 THREE 1;2 FOUR 1;2 TOP 1;
   2 MIDDLE 1;2 BOTTOM 1;2 FIRST 1;2 SECOND 1;2 THIRD 1;2 FOURTH 1;2 HEAVEN 1;2 EARTH 1;2 MAN 1;
   BOPOMOFO LETTER BU;2 ZI;2 JI;2 GU;2 EE;2 ENN;2 OO;2 ONN;2 IR;2 ANN;2 INN;2 UNN;2 IM;2 NGG;2 AINN;
   2 AUNN;2 AM;2 OM;2 ONG;2 INNN;1 FINAL LETTER P;3 T;3 K;3 H;1 LETTER GH;2 LH;2 ZY;
   1 FINAL LETTER G;1 LETTER GW;2 KW;2 OE;2 AH;CJK STROKE T;2 WG;2 XG;2 BXG;2 SW;2 HZZ;2 HZG;2 HP;
   2 HZWG;2 SZWG;2 HZT;2 HZZP;2 HPWG;2 HZW;2 HZZZ;2 N;2 H;2 S;2 P;2 SP;2 D;2 HZ;2 HG;2 SZ;2 SWZ;
   2 ST;2 SG;2 PD;2 PZ;2 TN;2 SZZ;2 SWG;2 HXWG;2 HZZZG;2 PG;2 Q;U+31F0;KATAKANA LETTER SMALL KU;
   3 SI;3 SU;3 TO;3 NU;3 HA;3 HI;3 HU;3 HE;3 HO;3 MU;3 RA;3 RI;3 RU;3 RE;3 RO;
   PARENTHESIZED HANGUL KIYEOK;2 NIEUN;2 TIKEUT;2 RIEUL;2 MIEUM;2 PIEUP;2 SIOS;2 IEUNG;2 CIEUC;
   2 CHIEUCH;2 KHIEUKH;2 THIEUTH;2 PHIEUPH;2 HIEUH;2 KIYEOK A;2 NIEUN 1;2 TIKEUT 1;2 RIEUL 1;
   2 MIEUM 1;2 PIEUP 1;2 SIOS 1;2 IEUNG 1;2 CIEUC 1;2 CHIEUCH 1;2 KHIEUKH 1;2 THIEUTH 1;2 PHIEUPH 1;
   2 HIEUH 1;2 CIEUC U;1 KOREAN CHARACTER OJEON;3 O HU;U+3220;1 IDEOGRAPH ONE;2 TWO;2 THREE;2 FOUR;
   2 FIVE;2 SIX;2 SEVEN;2 EIGHT;2 NINE;2 TEN;2 MOON;2 FIRE;2 WATER;2 WOOD;2 METAL;2 EARTH;2 SUN;
   2 STOCK;2 HAVE;2 SOCIETY;2 NAME;2 SPECIAL;2 FINANCIAL;2 CONGRATULATION;2 LABOR;2 REPRESENT;
   2 CALL;2 STUDY;2 SUPERVISE;2 ENTERPRISE;2 RESOURCE;2 ALLIANCE;2 FESTIVAL;2 REST;2 SELF;2 REACH;
   CIRCLED 1 QUESTION;2 KINDERGARTEN;2 SCHOOL;2 KOTO;1 NUMBER TEN ON BLACK SQUARE;2 TWENTY 3;
   2 THIRTY 3;2 FORTY 3;2 FIFTY 3;2 SIXTY 3;2 SEVENTY 3;2 EIGHTY 3;PARTNERSHIP SIGN;
   CIRCLED NUMBER TWENTY ONE;3 TWO;3 THREE;3 FOUR;3 FIVE;3 SIX;3 SEVEN;3 EIGHT;3 NINE;2 THIRTY;
   3 ONE;3 TWO;3 THREE;3 FOUR;3 FIVE;1 HANGUL KIYEOK;2 NIEUN;2 TIKEUT;2 RIEUL;2 MIEUM;2 PIEUP;
   2 SIOS;2 IEUNG;2 CIEUC;2 CHIEUCH;2 KHIEUKH;2 THIEUTH;2 PHIEUPH;2 HIEUH;2 KIYEOK A;2 NIEUN 1;
   2 TIKEUT 1;2 RIEUL 1;2 MIEUM 1;2 PIEUP 1;2 SIOS 1;2 IEUNG 1;2 CIEUC 1;2 CHIEUCH 1;2 KHIEUKH 1;
   2 THIEUTH 1;2 PHIEUPH 1;2 HIEUH 1;1 KOREAN CHARACTER CHAMKO;3 JUEUI;1 HANGUL IEUNG U;
   KOREAN STANDARD SYMBOL;CIRCLED IDEOGRAPH ONE;2 TWO;2 THREE;2 FOUR;2 FIVE;2 SIX;2 SEVEN;2 EIGHT;
   2 NINE;2 TEN;2 MOON;2 FIRE;2 WATER;2 WOOD;2 METAL;2 EARTH;2 SUN;2 STOCK;2 HAVE;2 SOCIETY;2 NAME;
   2 SPECIAL;2 FINANCIAL;2 CONGRATULATION;2 LABOR;2 SECRET;2 MALE;2 FEMALE;2 SUITABLE;2 EXCELLENT;
   2 PRINT;2 ATTENTION;2 ITEM;2 REST;2 COPY;2 CORRECT;2 HIGH;2 CENTRE;2 LOW;2 LEFT;2 RIGHT;
   2 MEDICINE;2 RELIGION;2 STUDY;2 SUPERVISE;2 ENTERPRISE;2 RESOURCE;2 ALLIANCE;2 NIGHT;
   1 NUMBER THIRTY SIX;3 SEVEN;3 EIGHT;3 NINE;2 FORTY;3 ONE;3 TWO;3 THREE;3 FOUR;3 FIVE;3 SIX;
   3 SEVEN;3 EIGHT;3 NINE;2 FIFTY;IDEOGRAPHIC TELEGRAPH SYMBOL FOR JANUARY;4 FEBRUARY;4 MARCH;
   4 APRIL;4 MAY;4 JUNE;4 JULY;4 AUGUST;4 SEPTEMBER;4 OCTOBER;4 NOVEMBER;4 DECEMBER;SQUARE HG;1 ERG;
   1 EV;LIMITED LIABILITY SIGN;CIRCLED KATAKANA A;2 I;2 U;2 E;2 O;2 KA;2 KI;2 KU;2 KE;2 KO;2 SA;
   2 SI;2 SU;2 SE;2 SO;2 TA;2 TI;2 TU;2 TE;2 TO;2 NA;2 NI;2 NU;2 NE;2 NO;2 HA;2 HI;2 HU;2 HE;2 HO;
   2 MA;2 MI;2 MU;2 ME;2 MO;2 YA;2 YU;2 YO;2 RA;2 RI;2 RU;2 RE;2 RO;2 WA;2 WI;2 WE;2 WO;
   SQUARE ERA NAME REIWA;1 APAATO;1 ARUHUA;1 ANPEA;1 AARU;1 ININGU;1 INTI;1 UON;1 ESUKUUDO;1 EEKAA;
   1 ONSU;1 OOMU;1 KAIRI;1 KARATTO;1 KARORII;1 GARON;1 GANMA;1 GIGA;1 GINII;1 KYURII;1 GIRUDAA;
   1 KIRO;1 KIROGURAMU;1 KIROMEETORU;1 KIROWATTO;1 GURAMU;1 GURAMUTON;1 KURUZEIRO;1 KUROONE;1 KEESU;
   1 KORUNA;1 KOOPO;1 SAIKURU;1 SANTIIMU;1 SIRINGU;1 SENTI;1 SENTO;1 DAASU;1 DESI;1 DORU;1 TON;
   1 NANO;1 NOTTO;1 HAITU;1 PAASENTO;1 PAATU;1 BAARERU;1 PIASUTORU;1 PIKURU;1 PIKO;1 BIRU;
   1 HUARADDO;1 HUIITO;1 BUSSYERU;1 HURAN;1 HEKUTAARU;1 PESO;1 PENIHI;1 HERUTU;1 PENSU;1 PEEZI;
   1 BEETA;1 POINTO;1 BORUTO;1 HON;1 PONDO;1 HOORU;1 HOON;1 MAIKURO;1 MAIRU;1 MAHHA;1 MARUKU;
   1 MANSYON;1 MIKURON;1 MIRI;1 MIRIBAARU;1 MEGA;1 MEGATON;1 MEETORU;1 YAADO;1 YAARU;1 YUAN;
   1 RITTORU;1 RIRA;1 RUPII;1 RUUBURU;1 REMU;1 RENTOGEN;1 WATTO;
   IDEOGRAPHIC TELEGRAPH SYMBOL FOR HOUR ZERO;5 ONE;5 TWO;5 THREE;5 FOUR;5 FIVE;5 SIX;5 SEVEN;
   5 EIGHT;5 NINE;5 TEN;5 ELEVEN;5 TWELVE;5 THIRTEEN;5 FOURTEEN;5 FIFTEEN;5 SIXTEEN;5 SEVENTEEN;
   5 EIGHTEEN;5 NINETEEN;5 TWENTY;5 TWENTY-ONE;5 TWENTY-TWO;5 TWENTY-THREE;5 TWENTY-FOUR;SQUARE HPA;
   1 DA;1 AU;1 BAR;1 OV;1 PC;1 DM;2 SQUARED;2 CUBED;1 IU;1 ERA NAME HEISEI;3 SYOUWA;3 TAISYOU;
   3 MEIZI;1 CORPORATION;1 PA AMPS;1 NA;1 MU A;1 MA;1 KA;1 KB;1 MB;1 GB;1 CAL;1 KCAL;1 PF;1 NF;
   1 MU F;2 G;1 MG;1 KG;1 HZ;1 KHZ;1 MHZ;1 GHZ;1 THZ;1 MU L;1 ML;1 DL;1 KL;1 FM;1 NM;1 MU M;1 MM;
   1 CM;1 KM;1 MM SQUARED;1 CM 1;1 M 1;1 KM 1;1 MM CUBED;1 CM 1;1 M 1;1 KM 1;1 M OVER S;4 SQUARED;
   1 PA;1 KPA;1 MPA;1 GPA;1 RAD;2 OVER S;4 SQUARED;1 PS;1 NS;1 MU S;1 MS;1 PV;1 NV;1 MU V;1 MV;1 KV;
   1 MV MEGA;1 PW;1 NW;1 MU W;1 MW;1 KW;1 MW MEGA;1 K OHM;1 M 1;1 AM;1 BQ;1 CC;1 CD;1 C OVER KG;
   1 CO;1 DB;1 GY;1 HA;1 HP;1 IN;1 KK;1 KM CAPITAL;1 KT;1 LM;1 LN;1 LOG;1 LX;1 MB SMALL;1 MIL;1 MOL;
   1 PH;1 PM;1 PPM;1 PR;1 SR;1 SV;1 WB;1 V OVER M;1 A 2;IDEOGRAPHIC TELEGRAPH SYMBOL FOR DAY ONE;
   5 TWO;5 THREE;5 FOUR;5 FIVE;5 SIX;5 SEVEN;5 EIGHT;5 NINE;5 TEN;5 ELEVEN;5 TWELVE;5 THIRTEEN;
   5 FOURTEEN;5 FIFTEEN;5 SIXTEEN;5 SEVENTEEN;5 EIGHTEEN;5 NINETEEN;5 TWENTY;5 TWENTY-ONE;
   5 TWENTY-TWO;5 TWENTY-THREE;5 TWENTY-FOUR;5 TWENTY-FIVE;5 TWENTY-SIX;5 TWENTY-SEVEN;
   5 TWENTY-EIGHT;5 TWENTY-NINE;5 THIRTY;5 THIRTY-ONE;SQUARE GAL;U+4DC0;
   HEXAGRAM FOR THE CREATIVE HEAVEN;3 RECEPTIVE EARTH;2 DIFFICULTY AT THE BEGINNING;
   2 YOUTHFUL FOLLY;2 WAITING;2 CONFLICT;2 THE ARMY;2 HOLDING TOGETHER;2 SMALL TAMING;2 TREADING;
   2 PEACE;2 STANDSTILL;2 FELLOWSHIP;2 GREAT POSSESSION;2 MODESTY;2 ENTHUSIASM;2 FOLLOWING;
   2 WORK ON THE DECAYED;2 APPROACH;2 CONTEMPLATION;2 BITING THROUGH;2 GRACE;2 SPLITTING APART;
   2 RETURN;2 INNOCENCE;2 GREAT TAMING;2 MOUTH CORNERS;2 GREAT PREPONDERANCE;2 THE ABYSMAL WATER;
   3 CLINGING FIRE;2 INFLUENCE;2 DURATION;2 RETREAT;2 GREAT POWER;2 PROGRESS;
   2 DARKENING OF THE LIGHT;2 THE FAMILY;2 OPPOSITION;2 OBSTRUCTION;2 DELIVERANCE;2 DECREASE;
   2 INCREASE;2 BREAKTHROUGH;2 COMING TO MEET;2 GATHERING TOGETHER;2 PUSHING UPWARD;2 OPPRESSION;
   2 THE WELL;2 REVOLUTION;2 THE CAULDRON;3 AROUSING THUNDER;3 KEEPING STILL MOUNTAIN;2 DEVELOPMENT;
   2 THE MARRYING MAIDEN;2 ABUNDANCE;2 THE WANDERER;3 GENTLE WIND;3 JOYOUS LAKE;2 DISPERSION;
   2 LIMITATION;2 INNER TRUTH;2 SMALL PREPONDERANCE;2 AFTER COMPLETION;2 BEFORE 1"

end ApiShell.Template.CharacterName
