/-! Names of the scripts that are written from right to left, as a listing. -/

namespace ApiShell.Template.CharacterName

/-- Hebrew, Arabic, Syriac and their neighbours. -/
def middleEastern : String :=
  "U+0591;HEBREW ACCENT ETNAHTA;2 SEGOL;2 SHALSHELET;2 ZAQEF QATAN;3 GADOL;2 TIPEHA;2 REVIA;2 ZARQA;
   2 PASHTA;2 YETIV;2 TEVIR;2 GERESH;3 MUQDAM;2 GERSHAYIM;2 QARNEY PARA;2 TELISHA GEDOLA;2 PAZER;
   2 ATNAH HAFUKH;2 MUNAH;2 MAHAPAKH;2 MERKHA;3 KEFULA;2 DARGA;2 QADMA;2 TELISHA QETANA;
   2 YERAH BEN YOMO;2 OLE;2 ILUY;2 DEHI;2 ZINOR;1 MARK MASORA CIRCLE;1 POINT SHEVA;2 HATAF SEGOL;
   3 PATAH;3 QAMATS;2 HIRIQ;2 TSERE;2 SEGOL;2 PATAH;2 QAMATS;2 HOLAM;3 HASER FOR VAV;2 QUBUTS;
   2 DAGESH OR MAPIQ;2 METEG;1 PUNCTUATION MAQAF;1 POINT RAFE;1 PUNCTUATION PASEQ;1 POINT SHIN DOT;
   2 SIN 1;1 PUNCTUATION SOF PASUQ;1 MARK UPPER DOT;2 LOWER 1;1 PUNCTUATION NUN HAFUKHA;
   1 POINT QAMATS QATAN;U+05D0;1 LETTER ALEF;2 BET;2 GIMEL;2 DALET;2 HE;2 VAV;2 ZAYIN;2 HET;2 TET;
   2 YOD;2 FINAL KAF;2 KAF;2 LAMED;2 FINAL MEM;2 MEM;2 FINAL NUN;2 NUN;2 SAMEKH;2 AYIN;2 FINAL PE;
   2 PE;2 FINAL TSADI;2 TSADI;2 QOF;2 RESH;2 SHIN;2 TAV;U+05EF;1 YOD TRIANGLE;
   1 LIGATURE YIDDISH DOUBLE VAV;3 VAV YOD;3 DOUBLE 1;1 PUNCTUATION GERESH;2 GERSHAYIM;U+0600;
   ARABIC NUMBER SIGN;1 SIGN SANAH;1 FOOTNOTE MARKER;1 SIGN SAFHA;2 SAMVAT;1 NUMBER MARK ABOVE;
   ARABIC-INDIC CUBE ROOT;1 FOURTH 1;ARABIC RAY;ARABIC-INDIC PER MILLE SIGN;2 TEN THOUSAND SIGN;
   AFGHANI SIGN;ARABIC COMMA;1 DATE SEPARATOR;1 POETIC VERSE SIGN;1 SIGN MISRA;
   2 SALLALLAHOU ALAYHE WASSALLAM;2 ALAYHE ASSALLAM;2 RAHMATULLAH ALAYHE;2 RADI ALLAHOU ANHU;
   2 TAKHALLUS;1 SMALL HIGH TAH;3 LIGATURE ALEF WITH LAM WITH YEH;3 ZAIN;2 FATHA;2 DAMMA;2 KASRA;
   1 SEMICOLON;1 LETTER MARK;1 END OF TEXT MARK;1 TRIPLE DOT PUNCTUATION 1;1 QUESTION MARK;
   1 LETTER KASHMIRI YEH;2 HAMZA;2 ALEF WITH MADDA ABOVE;4 HAMZA 1;2 WAW 3;2 ALEF 2 BELOW;
   2 YEH 2 ABOVE;2 ALEF;2 BEH;2 TEH MARBUTA;3;2 THEH;2 JEEM;2 HAH;2 KHAH;2 DAL;2 THAL;2 REH;2 ZAIN;
   2 SEEN;2 SHEEN;2 SAD;2 DAD;2 TAH;2 ZAH;2 AIN;2 GHAIN;2 KEHEH WITH TWO DOTS ABOVE;4 THREE 1 BELOW;
   2 FARSI YEH WITH INVERTED V;5 TWO DOTS ABOVE;5 THREE 2;1 TATWEEL;1 LETTER FEH;2 QAF;2 KAF;2 LAM;
   2 MEEM;2 NOON;2 HEH;2 WAW;2 ALEF MAKSURA;2 YEH;1 FATHATAN;1 DAMMATAN;1 KASRATAN;1 FATHA;1 DAMMA;
   1 KASRA;1 SHADDA;1 SUKUN;1 MADDAH ABOVE;1 HAMZA 1;2 BELOW;1 SUBSCRIPT ALEF;1 INVERTED DAMMA;
   1 MARK NOON GHUNNA;1 ZWARAKAY;1 VOWEL SIGN SMALL V ABOVE;3 INVERTED SMALL V ABOVE;3 DOT BELOW;
   1 REVERSED DAMMA;1 FATHA WITH TWO DOTS;1 WAVY HAMZA BELOW;ARABIC-INDIC DIGIT ZERO;2 ONE;2 TWO;
   2 THREE;2 FOUR;2 FIVE;2 SIX;2 SEVEN;2 EIGHT;2 NINE;ARABIC PERCENT SIGN;1 DECIMAL SEPARATOR;
   1 THOUSANDS 1;1 FIVE POINTED STAR;1 LETTER DOTLESS BEH;3 QAF;2 SUPERSCRIPT ALEF;2 ALEF WASLA;
   3 WITH WAVY HAMZA ABOVE;6 BELOW;2 HIGH HAMZA;4 ALEF;4 WAW;2 U WITH HAMZA ABOVE;2 HIGH HAMZA YEH;
   2 TTEH;2 TTEHEH;2 BEEH;2 TEH WITH RING;4 THREE DOTS ABOVE DOWNWARDS;2 PEH;2 TEHEH;2 BEHEH;
   2 HAH WITH HAMZA ABOVE;4 TWO DOTS VERTICAL ABOVE;2 NYEH;2 DYEH;2 HAH WITH THREE DOTS ABOVE;
   2 TCHEH;2 TCHEHEH;2 DDAL;2 DAL WITH RING;4 DOT BELOW;6 AND SMALL TAH;2 DAHAL;2 DDAHAL;2 DUL;
   2 DAL WITH THREE DOTS ABOVE DOWNWARDS;4 FOUR 2;2 RREH;2 REH WITH SMALL V;4 RING;4 DOT BELOW;
   4 SMALL V BELOW;4 DOT BELOW AND DOT ABOVE;4 TWO DOTS ABOVE;2 JEH;2 REH WITH FOUR DOTS ABOVE;
   2 SEEN 1 DOT BELOW AND DOT ABOVE;4 THREE DOTS BELOW;7 AND THREE DOTS ABOVE;2 SAD 1 TWO 2;
   4 THREE 1 ABOVE;2 TAH 4;2 AIN 4;2 DOTLESS FEH;2 FEH WITH DOT MOVED BELOW;5 BELOW;2 VEH;
   2 FEH WITH THREE DOTS BELOW;2 PEHEH;2 QAF WITH DOT ABOVE;4 THREE DOTS ABOVE;2 KEHEH;2 SWASH KAF;
   2 KAF WITH RING;4 DOT ABOVE;2 NG;2 KAF WITH THREE DOTS BELOW;2 GAF;3 WITH RING;2 NGOEH;
   2 GAF WITH TWO DOTS BELOW;2 GUEH;2 GAF WITH THREE DOTS ABOVE;2 LAM 1 SMALL V;4 DOT ABOVE;
   4 THREE DOTS ABOVE;6 BELOW;2 NOON 1 DOT BELOW;3 GHUNNA;2 RNOON;2 NOON WITH RING;
   4 THREE DOTS ABOVE;2 HEH DOACHASHMEE;2 TCHEH WITH DOT ABOVE;2 HEH 1 YEH 1;3 GOAL;
   4 WITH HAMZA ABOVE;2 TEH MARBUTA GOAL;2 WAW WITH RING;2 KIRGHIZ OE;2 OE;2 U;2 YU;2 KIRGHIZ YU;
   2 WAW WITH TWO DOTS ABOVE;2 VE;2 FARSI YEH;2 YEH WITH TAIL;4 SMALL V;2 WAW 1 DOT ABOVE;2 E;
   2 YEH WITH THREE DOTS BELOW;3 BARREE;4 WITH HAMZA ABOVE;1 FULL STOP;1 LETTER AE;
   1 SMALL HIGH LIGATURE SAD WITH LAM WITH ALEF MAKSURA;4 QAF 5;3 MEEM INITIAL FORM;3 LAM ALEF;
   3 JEEM;3 THREE DOTS;3 SEEN;1 END OF AYAH;1 START 1 RUB EL HIZB;1 SMALL HIGH ROUNDED ZERO;
   3 UPRIGHT RECTANGULAR ZERO;3 DOTLESS HEAD OF KHAH;3 MEEM ISOLATED FORM;2 LOW SEEN;2 HIGH MADDA;
   2 WAW;2 YEH;2 HIGH YEH;3 NOON;1 PLACE OF SAJDAH;1 EMPTY CENTRE LOW STOP;3 HIGH 1;
   1 ROUNDED HIGH STOP WITH FILLED CENTRE;1 SMALL LOW MEEM;1 LETTER DAL WITH INVERTED V;2 REH 3;
   EXTENDED ARABIC-INDIC DIGIT ZERO;3 ONE;3 TWO;3 THREE;3 FOUR;3 FIVE;3 SIX;3 SEVEN;3 EIGHT;3 NINE;
   ARABIC LETTER SHEEN WITH DOT BELOW;2 DAD 3;2 GHAIN 3;1 SIGN SINDHI AMPERSAND;3 POSTPOSITION MEN;
   1 LETTER HEH WITH INVERTED V;SYRIAC END OF PARAGRAPH;1 SUPRALINEAR FULL STOP;1 SUBLINEAR 2;
   1 SUPRALINEAR COLON;1 SUBLINEAR 1;1 HORIZONTAL 1;1 COLON SKEWED LEFT;3 RIGHT;
   1 SUPRALINEAR COLON SKEWED LEFT;1 SUBLINEAR 2 RIGHT;1 CONTRACTION;1 HARKLEAN OBELUS;2 METOBELUS;
   2 ASTERISCUS;U+070F;1 ABBREVIATION MARK;1 LETTER ALAPH;2 SUPERSCRIPT ALAPH;2 BETH;2 GAMAL;
   3 GARSHUNI;2 DALATH;2 DOTLESS DALATH RISH;2 HE;2 WAW;2 ZAIN;2 HETH;2 TETH;3 GARSHUNI;2 YUDH;3 HE;
   2 KAPH;2 LAMADH;2 MIM;2 NUN;2 SEMKATH;2 FINAL SEMKATH;2 E;2 PE;2 REVERSED PE;2 SADHE;2 QAPH;
   2 RISH;2 SHIN;2 TAW;2 PERSIAN BHETH;3 GHAMAL;3 DHALATH;1 PTHAHA ABOVE;2 BELOW;2 DOTTED;
   1 ZQAPHA ABOVE;2 BELOW;2 DOTTED;1 RBASA ABOVE;2 BELOW;1 DOTTED ZLAMA HORIZONTAL;3 ANGULAR;
   1 HBASA ABOVE;2 BELOW;1 HBASA-ESASA DOTTED;1 ESASA ABOVE;2 BELOW;1 RWAHA;1 FEMININE DOT;
   1 QUSHSHAYA;1 RUKKAKHA;1 TWO VERTICAL DOTS ABOVE;4 BELOW;1 THREE DOTS ABOVE;3 BELOW;
   1 OBLIQUE LINE ABOVE;3 BELOW;1 MUSIC;1 BARREKH;U+074D;1 LETTER SOGDIAN ZHAIN;3 KHAPH;3 FE;
   ARABIC 1 BEH WITH THREE DOTS HORIZONTALLY BELOW;4 DOT BELOW AND THREE DOTS ABOVE;
   4 THREE DOTS POINTING UPWARDS BELOW;9 AND TWO DOTS ABOVE;4 TWO 1 BELOW AND DOT ABOVE;
   4 INVERTED SMALL V BELOW;4 SMALL V;2 HAH 1 TWO DOTS ABOVE;4 THREE 1 POINTING UPWARDS BELOW;
   2 DAL 1 TWO 1 VERTICALLY BELOW AND SMALL TAH;4 INVERTED SMALL V 1;2 REH 1 STROKE;
   2 SEEN 1 FOUR DOTS ABOVE;2 AIN 1 TWO 2;4 THREE 1 POINTING DOWNWARDS ABOVE;
   4 TWO 1 VERTICALLY ABOVE;2 FEH 3 BELOW;4 THREE 1 POINTING UPWARDS BELOW;2 KEHEH 1 DOT ABOVE;
   4 THREE DOTS ABOVE;6 POINTING UPWARDS BELOW;2 MEEM 1 DOT ABOVE;5 BELOW;2 NOON 1 TWO DOTS BELOW;
   4 SMALL TAH;5 V;2 LAM 1 BAR;2 REH 1 TWO DOTS VERTICALLY ABOVE;4 HAMZA ABOVE;
   2 SEEN 1 TWO DOTS VERTICALLY ABOVE;2 HAH 1 SMALL ARABIC LETTER TAH BELOW;8 AND TWO DOTS;2 SEEN 8;
   2 REH 8;2 HAH 5 ABOVE;2 ALEF 1 EXTENDED ARABIC-INDIC DIGIT TWO 1;7 THREE 1;
   2 FARSI YEH WITH EXTENDED ARABIC-INDIC DIGIT TWO ABOVE;8 THREE 1;8 FOUR BELOW;
   2 WAW WITH EXTENDED ARABIC-INDIC DIGIT TWO ABOVE;7 THREE 1;
   2 YEH BARREE WITH EXTENDED ARABIC-INDIC DIGIT TWO ABOVE;8 THREE 1;
   2 HAH WITH EXTENDED ARABIC-INDIC DIGIT FOUR BELOW;2 SEEN 5 ABOVE;4 INVERTED V;
   2 KAF 1 TWO DOTS ABOVE;THAANA 1 HAA;2 SHAVIYANI;2 NOONU;2 RAA;2 BAA;2 LHAVIYANI;2 KAAFU;2 ALIFU;
   2 VAAVU;2 MEEMU;2 FAAFU;2 DHAALU;2 THAA;2 LAAMU;2 GAAFU;2 GNAVIYANI;2 SEENU;2 DAVIYANI;
   2 ZAVIYANI;2 TAVIYANI;2 YAA;2 PAVIYANI;2 JAVIYANI;2 CHAVIYANI;2 TTAA;2 HHAA;2 KHAA;2 THAALU;
   2 ZAA;2 SHEENU;2 SAADHU;2 DAADHU;2 TO;2 ZO;2 AINU;2 GHAINU;2 QAAFU;2 WAAVU;1 ABAFILI;1 AABAAFILI;
   1 IBIFILI;1 EEBEEFILI;1 UBUFILI;1 OOBOOFILI;1 EBEFILI;1 EYBEYFILI;1 OBOFILI;1 OABOAFILI;1 SUKUN;
   1 LETTER NAA;U+07C0;NKO DIGIT ZERO;2 ONE;2 TWO;2 THREE;2 FOUR;2 FIVE;2 SIX;2 SEVEN;2 EIGHT;
   2 NINE;1 LETTER A;2 EE;2 I;2 E;2 U;2 OO;2 O;2 DAGBASINNA;2 N;2 BA;2 PA;2 TA;2 JA;2 CHA;2 DA;2 RA;
   2 RRA;2 SA;2 GBA;2 FA;2 KA;2 LA;2 NA WOLOSO;2 MA;2 NYA;2 NA;2 HA;2 WA;2 YA;2 NYA WOLOSO;
   2 JONA JA;3 CHA;3 RA;1 COMBINING SHORT HIGH TONE;3 LOW 1;3 RISING 1;2 LONG DESCENDING 1;3 HIGH 1;
   3 LOW 1;3 RISING 1;2 NASALIZATION MARK;2 DOUBLE DOT ABOVE;1 HIGH TONE APOSTROPHE;1 LOW 2;
   1 SYMBOL OO DENNEN;2 GBAKURUNEN;1 COMMA;1 EXCLAMATION MARK;1 LAJANYALAN;U+07FD;1 DANTAYALAN;
   1 DOROME SIGN;1 TAMAN 1;SAMARITAN LETTER ALAF;2 BIT;2 GAMAN;2 DALAT;2 IY;2 BAA;2 ZEN;2 IT;2 TIT;
   2 YUT;2 KAAF;2 LABAT;2 MIM;2 NUN;2 SINGAAT;2 IN;2 FI;2 TSAADIY;2 QUF;2 RISH;2 SHAN;2 TAAF;
   1 MARK IN;2 IN-ALAF;2 OCCLUSION;2 DAGESH;1 MODIFIER LETTER EPENTHETIC YUT;1 MARK EPENTHETIC YUT;
   1 VOWEL SIGN LONG E;3 E;3 OVERLONG AA;3 LONG 1;3 AA;3 OVERLONG A;3 LONG 1;3 A;
   1 MODIFIER LETTER SHORT A;1 VOWEL SIGN 2;3 LONG U;3 U;1 MODIFIER LETTER I;1 VOWEL SIGN LONG I;
   3 I;3 O;3 SUKUN;1 MARK NEQUDAA;U+0830;1 PUNCTUATION 1;2 AFSAAQ;2 ANGED;2 BAU;2 ATMAAU;
   2 SHIYYAALAA;1 ABBREVIATION MARK;1 PUNCTUATION MELODIC QITSA;2 ZIQAA;2 QITSA;2 ZAEF;2 TURU;
   2 ARKAANU;2 SOF MASHFAAT;2 ANNAAU;U+0840;MANDAIC LETTER HALQA;2 AB;2 AG;2 AD;2 AH;2 USHENNA;2 AZ;
   2 IT;2 ATT;2 AKSA;2 AK;2 AL;2 AM;2 AN;2 AS;2 IN;2 AP;2 ASZ;2 AQ;2 AR;2 ASH;2 AT;2 DUSHENNA;2 KAD;
   2 AIN;1 AFFRICATION MARK;1 VOCALIZATION 1;1 GEMINATION 1;U+085E;1 PUNCTUATION;U+0860;
   SYRIAC LETTER MALAYALAM NGA;3 JA;3 NYA;3 TTA;3 NNA;3 NNNA;3 BHA;3 RA;3 LLA;3 LLLA;3 SSA;U+0870;
   ARABIC 1 ALEF WITH ATTACHED FATHA;5 TOP RIGHT FATHA;4 RIGHT MIDDLE STROKE;4 LEFT 2;
   4 ATTACHED KASRA;5 BOTTOM RIGHT KASRA;5 ROUND DOT ABOVE;5 RIGHT ROUND DOT;5 LEFT 2;
   5 ROUND DOT BELOW;4 DOT ABOVE;4 ATTACHED TOP RIGHT FATHA AND DOT ABOVE;
   4 RIGHT MIDDLE STROKE AND DOT ABOVE;4 ATTACHED BOTTOM RIGHT KASRA AND DOT ABOVE;
   5 TOP 1 FATHA 1 LEFT RING;4 RIGHT MIDDLE STROKE AND LEFT RING;
   4 ATTACHED BOTTOM RIGHT KASRA AND LEFT RING;5 RIGHT HAMZA;5 LEFT 1;
   1 TATWEEL WITH OVERSTRUCK HAMZA;4 WAW;3 TWO DOTS BELOW;1 LETTER THIN YEH;1 BASELINE ROUND DOT;
   1 RAISED 2;1 LETTER NOON WITH INVERTED SMALL V;2 HAH 4 BELOW;2 TAH 1 DOT BELOW;
   4 THREE DOTS BELOW;2 KEHEH 1 TWO 1 VERTICALLY BELOW;1 VERTICAL TAIL;U+0890;1 POUND MARK ABOVE;
   1 PIASTRE 2;U+0898;1 SMALL HIGH WORD AL-JUZ;2 LOW 1 ISHMAAM;4 IMAALA;4 TASHEEL;1 MADDA WAAJIB;
   1 SUPERSCRIPT ALEF MOKHASSAS;1 DOUBLED MADDA;1 HALF 1 OVER MADDA;1 LETTER BEH WITH SMALL V BELOW;
   4 HAMZA ABOVE;2 JEEM 1 TWO DOTS ABOVE;2 TAH 4;2 FEH 1 DOT BELOW AND THREE DOTS ABOVE;2 QAF 3;
   2 LAM 1 DOUBLE BAR;2 MEEM 1 THREE DOTS ABOVE;2 YEH 1 TWO 1 BELOW AND HAMZA ABOVE;8 DOT 1;
   2 REH 1 LOOP;2 WAW 1 DOT WITHIN;2 ROHINGYA YEH;2 LOW ALEF;2 DAL WITH THREE DOTS BELOW;2 SAD 4;
   2 GAF 1 INVERTED STROKE;2 STRAIGHT WAW;2 ZAIN WITH INVERTED V ABOVE;2 AIN 1 THREE DOTS BELOW;
   2 KAF 1 DOT BELOW;2 QAF 3 AND NO DOTS ABOVE;2 BEH 1 SMALL MEEM ABOVE;2 PEH 4;2 TEH 2 TEH 1;
   2 REH 2 NOON 1;2 YEH 1 TWO DOTS BELOW AND SMALL NOON ABOVE;2 AFRICAN FEH;3 QAF;3 NOON;
   2 PEH WITH SMALL V;2 TEH 3;2 TTEH 3;2 TCHEH 3;2 KEHEH 3;2 GHAIN 1 THREE DOTS ABOVE;
   2 AFRICAN QAF WITH THREE DOTS ABOVE;2 JEEM WITH THREE DOTS ABOVE;6 BELOW;
   2 LAM 1 SMALL ARABIC LETTER TAH ABOVE;2 GRAF;1 SMALL FARSI YEH;2 HIGH FARSI YEH;
   3 YEH BARREE WITH TWO DOTS BELOW;3 WORD SAH;3 ZAH;1 LARGE ROUND DOT ABOVE;4 BELOW;1 SUKUN BELOW;
   1 LARGE CIRCLE BELOW;2 ROUND DOT INSIDE CIRCLE BELOW;1 SMALL LOW WAW;2 HIGH WORD AR-RUB;3 SAD;
   3 AIN;3 QAF;3 NOON WITH KASRA;2 LOW 3;2 HIGH WORD ATH-THALATHA;4 AS-SAJDA;4 AN-NISF;4 SAKTA;
   4 QIF;4 WAQFA;3 FOOTNOTE MARKER;3 SIGN SAFHA;1 DISPUTED END OF AYAH;1 TURNED DAMMA BELOW;
   1 CURLY FATHA;2 DAMMA;2 KASRA;2 FATHATAN;2 DAMMATAN;2 KASRATAN;1 TONE ONE DOT ABOVE;2 TWO DOTS 1;
   2 LOOP ABOVE;2 ONE DOT BELOW;2 TWO DOTS 1;2 LOOP BELOW;1 OPEN FATHATAN;2 DAMMATAN;2 KASRATAN;
   1 SMALL HIGH WAW;1 FATHA WITH RING;3 DOT ABOVE;1 KASRA 2 BELOW;1 LEFT ARROWHEAD ABOVE;1 RIGHT 2;
   1 LEFT 1 BELOW;1 RIGHT 2;1 DOUBLE RIGHT ARROWHEAD ABOVE;5 WITH DOT;
   1 RIGHT ARROWHEAD ABOVE WITH DOT;1 DAMMA WITH DOT;1 MARK SIDEWAYS NOON GHUNNA"

end ApiShell.Template.CharacterName
