/-! Names of scripts of the islands and mountains of Asia, as a listing. -/

namespace ApiShell.Template.CharacterName

/-- Limbu to the Vedic signs. -/
def regional : String :=
  "U+1900;LIMBU VOWEL-CARRIER LETTER;1 LETTER KA;2 KHA;2 GA;2 GHA;2 NGA;2 CA;2 CHA;2 JA;2 JHA;2 YAN;
   2 TA;2 THA;2 DA;2 DHA;2 NA;2 PA;2 PHA;2 BA;2 BHA;2 MA;2 YA;2 RA;2 LA;2 WA;2 SHA;2 SSA;2 SA;2 HA;
   2 GYAN;2 TRA;U+1920;1 VOWEL SIGN A;3 I;3 U;3 EE;3 AI;3 OO;3 AU;3 E;3 O;1 SUBJOINED LETTER YA;
   3 RA;3 WA;U+1930;1 SMALL 1 KA;3 NGA;3 ANUSVARA;3 TA;3 NA;3 PA;3 MA;3 RA;3 LA;1 SIGN MUKPHRENG;
   2 KEMPHRENG;2 SA-I;U+1940;2 LOO;U+1944;1 EXCLAMATION MARK;1 QUESTION 1;1 DIGIT ZERO;2 ONE;2 TWO;
   2 THREE;2 FOUR;2 FIVE;2 SIX;2 SEVEN;2 EIGHT;2 NINE;TAI LE LETTER KA;3 XA;3 NGA;3 TSA;3 SA;3 YA;
   3 TA;3 THA;3 LA;3 PA;3 PHA;3 MA;3 FA;3 VA;3 HA;3 QA;3 KHA;3 TSHA;3 NA;3 A;3 I;3 EE;3 EH;3 U;3 OO;
   3 O;3 UE;3 E;3 AUE;3 AI;U+1970;3 TONE-2;+4;U+1980;NEW TAI LUE LETTER HIGH QA;4 LOW 1;4 HIGH KA;
   5 XA;5 NGA;4 LOW KA;5 XA;5 NGA;4 HIGH TSA;5 SA;5 YA;4 LOW TSA;5 SA;5 YA;4 HIGH TA;5 THA;5 NA;
   4 LOW TA;5 THA;5 NA;4 HIGH PA;5 PHA;5 MA;4 LOW PA;5 PHA;5 MA;4 HIGH FA;5 VA;5 LA;4 LOW FA;5 VA;
   5 LA;4 HIGH HA;5 DA;5 BA;4 LOW HA;5 DA;5 BA;4 HIGH KVA;5 XVA;4 LOW KVA;5 XVA;4 HIGH SUA;4 LOW 1;
   U+19B0;3 VOWEL SIGN VOWEL SHORTENER;5 AA;5 II;5 U;5 UU;5 E;5 AE;5 O;5 OA;5 UE;5 AY;5 AAY;5 UY;
   5 OY;5 OAY;5 UEY;5 IY;3 LETTER FINAL V;5 NG;5 N;5 M;5 K;5 D;5 B;3 TONE MARK-1;+1;U+19D0;
   3 DIGIT ZERO;4 ONE;4 TWO;4 THREE;4 FOUR;4 FIVE;4 SIX;4 SEVEN;4 EIGHT;4 NINE;3 THAM DIGIT ONE;
   U+19DE;3 SIGN LAE;4 LAEV;KHMER SYMBOL PATHAMASAT;2 MUOY KOET;2 PII 1;2 BEI 1;2 BUON 1;2 PRAM 1;
   2 PRAM-MUOY 1;2 PRAM-PII 1;2 PRAM-BEI 1;2 PRAM-BUON 1;2 DAP 1;2 DAP-MUOY 1;2 DAP-PII 1;
   2 DAP-BEI 1;2 DAP-BUON 1;2 DAP-PRAM 1;2 TUTEYASAT;2 MUOY ROC;2 PII 1;2 BEI 1;2 BUON 1;2 PRAM 1;
   2 PRAM-MUOY 1;2 PRAM-PII 1;2 PRAM-BEI 1;2 PRAM-BUON 1;2 DAP 1;2 DAP-MUOY 1;2 DAP-PII 1;
   2 DAP-BEI 1;2 DAP-BUON 1;2 DAP-PRAM 1;BUGINESE LETTER KA;2 GA;2 NGA;2 NGKA;2 PA;2 BA;2 MA;2 MPA;
   2 TA;2 DA;2 NA;2 NRA;2 CA;2 JA;2 NYA;2 NYCA;2 YA;2 RA;2 LA;2 VA;2 SA;2 A;2 HA;1 VOWEL SIGN I;3 U;
   3 E;3 O;3 AE;U+1A1E;1 PALLAWA;1 END OF SECTION;TAI THAM LETTER HIGH KA;4 KHA;4 KXA;3 LOW KA;
   4 KXA;4 KHA;3 NGA;3 HIGH CA;4 CHA;3 LOW CA;4 SA;4 CHA;3 NYA;3 RATA;3 HIGH RATHA;3 DA;3 LOW RATHA;
   3 RANA;3 HIGH TA;4 THA;3 LOW TA;4 THA;3 NA;3 BA;3 HIGH PA;4 PHA;4 FA;3 LOW PA;4 FA;4 PHA;3 MA;
   3 LOW YA;3 HIGH 1;3 RA;3 RUE;3 LA;3 LUE;3 WA;3 HIGH SHA;4 SSA;4 SA;4 HA;3 LLA;3 A;3 LOW HA;3 I;
   3 II;3 U;3 UU;3 EE;3 OO;3 LAE;3 GREAT SA;2 CONSONANT SIGN MEDIAL RA;5 LA;4 LA TANG LAI;
   2 SIGN MAI KANG LAI;2 CONSONANT SIGN FINAL NGA;4 LOW PA;4 HIGH RATHA OR LOW PA;4 MA;4 BA;4 SA;
   U+1A60;2 SIGN SAKOT;2 VOWEL SIGN A;4 MAI SAT;4 AA;4 TALL AA;4 I;4 II;4 UE;4 UUE;4 U;4 UU;4 O;
   4 OA BELOW;4 OY;4 E;4 AE;4 OO;4 AI;4 THAM AI;4 OA ABOVE;2 SIGN MAI KANG;3 TONE-1;+1;
   3 KHUEN TONE-3;+2;3 RA HAAM;3 MAI SAM;3 KHUEN-LUE KARAN;U+1A7F;2 COMBINING CRYPTOGRAMMIC DOT;
   2 HORA DIGIT ZERO;4 ONE;4 TWO;4 THREE;4 FOUR;4 FIVE;4 SIX;4 SEVEN;4 EIGHT;4 NINE;U+1A90;
   2 THAM 1 ZERO;4 ONE;4 TWO;4 THREE;4 FOUR;4 FIVE;4 SIX;4 SEVEN;4 EIGHT;4 NINE;U+1AA0;2 SIGN WIANG;
   3 WIANGWAAK;3 SAWAN;3 KEOW;3 HOY;3 DOKMAI;3 REVERSED ROTATED RANA;3 MAI YAMOK;3 KAAN;3 KAANKUU;
   3 SATKAAN;3 SATKAANKUU;3 HANG;3 CAANG;U+1AB0;COMBINING DOUBLED CIRCUMFLEX ACCENT;
   1 DIAERESIS-RING;1 INFINITY;1 DOWNWARDS ARROW;1 TRIPLE DOT;1 X-X BELOW;1 WIGGLY LINE BELOW;
   1 OPEN MARK 1;1 DOUBLE OPEN MARK BELOW;1 LIGHT CENTRALIZATION STROKE 1;1 STRONG 3;
   1 PARENTHESES ABOVE;1 DOUBLE PARENTHESES ABOVE;1 PARENTHESES BELOW;2 OVERLAY;
   1 LATIN SMALL LETTER W BELOW;4 TURNED W BELOW;1 LEFT PARENTHESIS ABOVE LEFT;1 RIGHT 2 RIGHT;
   1 LEFT 1 BELOW LEFT;1 RIGHT 2 RIGHT;1 SQUARE BRACKETS ABOVE;1 NUMBER SIGN 1;
   1 INVERTED DOUBLE ARCH ABOVE;1 PLUS SIGN ABOVE;1 DOUBLE PLUS SIGN ABOVE;4 BELOW;
   1 TRIPLE ACUTE ACCENT;1 LATIN SMALL LETTER INSULAR G;5 R;5 T;U+1B00;BALINESE SIGN ULU RICEM;
   3 CANDRA;2 CECEK;2 SURANG;2 BISAH;1 LETTER AKARA;3 TEDUNG;2 IKARA;3 TEDUNG;2 UKARA;3 TEDUNG;
   2 RA REPA;4 TEDUNG;2 LA LENGA;4 TEDUNG;2 EKARA;2 AIKARA;2 OKARA;3 TEDUNG;2 KA;3 MAHAPRANA;2 GA;
   3 GORA;2 NGA;2 CA;3 LACA;2 JA;3 JERA;2 NYA;2 TA LATIK;3 MURDA MAHAPRANA;2 DA 1 ALPAPRANA;
   4 MAHAPRANA;2 NA RAMBAT;2 TA;3 TAWA;2 DA;3 MADU;2 NA;2 PA;3 KAPAL;2 BA;3 KEMBANG;2 MA;2 YA;2 RA;
   2 LA;2 WA;2 SA SAGA;3 SAPA;3;2 HA;1 SIGN REREKAN;1 VOWEL SIGN TEDUNG;3 ULU;4 SARI;3 SUKU;4 ILUT;
   3 RA REPA;5 TEDUNG;3 LA LENGA;5 TEDUNG;3 TALING;4 REPA;4 TEDUNG;4 REPA TEDUNG;3 PEPET;4 TEDUNG;
   1 ADEG ADEG;1 LETTER KAF SASAK;2 KHOT 1;2 TZIR 1;2 EF 1;2 VE 1;2 ZAL 1;2 ASYURA 1;2 ARCHAIC JNYA;
   U+1B50;1 DIGIT ZERO;2 ONE;2 TWO;2 THREE;2 FOUR;2 FIVE;2 SIX;2 SEVEN;2 EIGHT;2 NINE;1 PANTI;
   1 PAMADA;1 WINDU;1 CARIK PAMUNGKAH;2 SIKI;2 PAREREN;1 PAMENENG;1 MUSICAL SYMBOL DONG;3 DENG;
   3 DUNG;3 DANG;4 SURANG;3 DING;3 DAENG;3 DEUNG;3 DAING;3 DANG GEDE;3 COMBINING TEGEH;4 ENDEP;
   4 KEMPUL;4 KEMPLI;4 JEGOGAN;4 KEMPUL WITH JEGOGAN;4 KEMPLI 2;4 BENDE;4 GONG;
   3 RIGHT-HAND OPEN DUG;5 DAG;4 CLOSED TUK;5 TAK;3 LEFT-HAND OPEN PANG;5 PUNG;4 CLOSED PLAK;5 PLUK;
   4 OPEN PING;1 PANTI LANTANG;1 PAMADA 1;U+1B80;SUNDANESE SIGN PANYECEK;2 PANGLAYAR;2 PANGWISAD;
   1 LETTER A;2 I;2 U;2 AE;2 O;2 E;2 EU;2 KA;2 QA;2 GA;2 NGA;2 CA;2 JA;2 ZA;2 NYA;2 TA;2 DA;2 NA;
   2 PA;2 FA;2 VA;2 BA;2 MA;2 YA;2 RA;2 LA;2 WA;2 SA;2 XA;2 HA;1 CONSONANT SIGN PAMINGKAL;
   3 PANYAKRA;3 PANYIKU;1 VOWEL 1 PANGHULU;3 PANYUKU;3 PANAELAENG;3 PANOLONG;3 PAMEPET;3 PANEULEUNG;
   1 SIGN PAMAAEH;2 VIRAMA;1 CONSONANT SIGN PASANGAN MA;4 WA;1 LETTER KHA;2 SYA;1 DIGIT ZERO;2 ONE;
   2 TWO;2 THREE;2 FOUR;2 FIVE;2 SIX;2 SEVEN;2 EIGHT;2 NINE;1 AVAGRAHA;1 LETTER REU;2 LEU;2 BHA;
   2 FINAL K;3 M;BATAK 1 A;2 SIMALUNGUN A;2 HA;2 SIMALUNGUN HA;2 MANDAILING 1;2 BA;2 KARO BA;2 PA;
   2 SIMALUNGUN PA;2 NA;2 MANDAILING NA;2 WA;2 SIMALUNGUN WA;2 PAKPAK 1;2 GA;2 SIMALUNGUN GA;2 JA;
   2 DA;2 RA;2 SIMALUNGUN RA;2 MA;2 SIMALUNGUN MA;2 SOUTHERN TA;2 NORTHERN 1;2 SA;2 SIMALUNGUN SA;
   2 MANDAILING 1;2 YA;2 SIMALUNGUN YA;2 NGA;2 LA;2 SIMALUNGUN LA;2 NYA;2 CA;2 NDA;2 MBA;2 I;2 U;
   1 SIGN TOMPI;1 VOWEL SIGN E;3 PAKPAK E;3 EE;3 I;3 KARO I;3 O;3 KARO O;3 U;4 FOR SIMALUNGUN SA;
   1 CONSONANT 1 NG;3 H;1 PANGOLAT;1 PANONGONAN;U+1BFC;1 SYMBOL BINDU NA METEK;3 PINARBORAS;3 JUDUL;
   3 PANGOLAT;LEPCHA LETTER KA;2 KLA;2 KHA;2 GA;2 GLA;2 NGA;2 CA;2 CHA;2 JA;2 NYA;2 TA;2 THA;2 DA;
   2 NA;2 PA;2 PLA;2 PHA;2 FA;2 FLA;2 BA;2 BLA;2 MA;2 MLA;2 TSA;2 TSHA;2 DZA;2 YA;2 RA;2 LA;2 HA;
   2 HLA;2 VA;2 SA;2 SHA;2 WA;2 A;1 SUBJOINED LETTER YA;3 RA;1 VOWEL SIGN AA;3 I;3 O;3 OO;3 U;3 UU;
   3 E;1 CONSONANT 1 K;3 M;3 L;3 N;3 P;3 R;3 T;3 NYIN-DO;3 KANG;1 SIGN RAN;2 NUKTA;U+1C3B;
   1 PUNCTUATION TA-ROL;2 NYET THYOOM TA-ROL;2 CER-WA;2 TSHOOK CER-WA;3;1 DIGIT ZERO;2 ONE;2 TWO;
   2 THREE;2 FOUR;2 FIVE;2 SIX;2 SEVEN;2 EIGHT;2 NINE;U+1C4D;1 LETTER TTA;2 TTHA;2 DDA;
   OL CHIKI DIGIT ZERO;3 ONE;3 TWO;3 THREE;3 FOUR;3 FIVE;3 SIX;3 SEVEN;3 EIGHT;3 NINE;2 LETTER LA;
   3 AT;3 AG;3 ANG;3 AL;3 LAA;3 AAK;3 AAJ;3 AAM;3 AAW;3 LI;3 IS;3 IH;3 INY;3 IR;3 LU;3 UC;3 UD;
   3 UNN;3 UY;3 LE;3 EP;3 EDD;3 EN;3 ERR;3 LO;3 OTT;3 OB;3 OV;3 OH;2 MU TTUDDAG;2 GAAHLAA TTUDDAAG;
   2 MU-GAAHLAA 1;2 RELAA;2 PHAARKAA;2 AHAD;2 PUNCTUATION MUCAAD;3 DOUBLE MUCAAD;
   CYRILLIC SMALL LETTER ROUNDED VE;3 LONG-LEGGED DE;3 NARROW O;3 WIDE ES;3 TALL TE;
   3 THREE-LEGGED 1;3 TALL HARD SIGN;4 YAT;3 UNBLENDED UK;U+1C90;
   GEORGIAN MTAVRULI CAPITAL LETTER AN;4 BAN;4 GAN;4 DON;4 EN;4 VIN;4 ZEN;4 TAN;4 IN;4 KAN;4 LAS;
   4 MAN;4 NAR;4 ON;4 PAR;4 ZHAR;4 RAE;4 SAN;4 TAR;4 UN;4 PHAR;4 KHAR;4 GHAN;4 QAR;4 SHIN;4 CHIN;
   4 CAN;4 JIL;4 CIL;4 CHAR;4 XAN;4 JHAN;4 HAE;4 HE;4 HIE;4 WE;4 HAR;4 HOE;4 FI;4 YN;4 ELIFI;
   4 TURNED GAN;4 AIN;U+1CBD;4 AEN;4 HARD SIGN;4 LABIAL 1;SUNDANESE PUNCTUATION BINDU SURYA;
   3 PANGLONG;3 PURNAMA;3 CAKRA;3 LEU SATANGA;3 KA 1;3 DA 1;3 BA 1;U+1CD0;VEDIC TONE KARSHANA;
   2 SHARA;2 PRENKHA;1 SIGN NIHSHVASA;2 YAJURVEDIC MIDLINE SVARITA;
   1 TONE 1 AGGRAVATED INDEPENDENT SVARITA;3 INDEPENDENT SVARITA;3 KATHAKA INDEPENDENT SVARITA;
   2 CANDRA BELOW;2 YAJURVEDIC KATHAKA INDEPENDENT SVARITA SCHROEDER;2 DOUBLE SVARITA;2 TRIPLE 1;
   2 KATHAKA ANUDATTA;2 DOT BELOW;2 TWO DOTS BELOW;2 THREE 2;
   2 RIGVEDIC KASHMIRI INDEPENDENT SVARITA;2 ATHARVAVEDIC INDEPENDENT SVARITA;
   1 SIGN VISARGA SVARITA;3 UDATTA;2 REVERSED VISARGA UDATTA;2 VISARGA ANUDATTA;
   2 REVERSED VISARGA ANUDATTA;2 VISARGA UDATTA WITH TAIL;3 ANUDATTA 2;2 ANUSVARA ANTARGOMUKHA;
   3 BAHIRGOMUKHA;3 VAMAGOMUKHA;4 WITH TAIL;2 TIRYAK;2 HEXIFORM LONG ANUSVARA;2 LONG ANUSVARA;
   2 RTHANG LONG ANUSVARA;2 ANUSVARA UBHAYATO MUKHA;2 ARDHAVISARGA;2 ROTATED ARDHAVISARGA;
   1 TONE CANDRA ABOVE;1 SIGN JIHVAMULIYA;2 UPADHMANIYA;2 ATIKRAMA;1 TONE RING ABOVE;
   2 DOUBLE RING ABOVE;1 SIGN 1 ANUSVARA ANTARGOMUKHA"

end ApiShell.Template.CharacterName
