/-! Names of phonetic letters and of Latin and Greek letters with accents, as a listing. -/

namespace ApiShell.Template.CharacterName

/-- Phonetic letters and letters with accents. -/
def latinAccented : String :=
  "U+1D00;LATIN LETTER SMALL CAPITAL A;4 AE;1 SMALL LETTER TURNED 1;1 LETTER SMALL CAPITAL BARRED B;
   4 C;4 D;4 ETH;4 E;1 SMALL LETTER TURNED OPEN E;4 I;1 LETTER SMALL CAPITAL J;4 K;4 L WITH STROKE;
   4 M;4 REVERSED N;4 O;4 OPEN O;1 SMALL LETTER SIDEWAYS O;4 OPEN O;4 O WITH STROKE;3 TURNED OE;
   1 LETTER SMALL CAPITAL OU;1 SMALL LETTER TOP HALF O;3 BOTTOM 2;1 LETTER SMALL CAPITAL P;
   4 REVERSED R;4 TURNED 1;4 T;4 U;1 SMALL LETTER SIDEWAYS 1;4 DIAERESIZED U;4 TURNED M;
   1 LETTER SMALL CAPITAL V;4 W;4 Z;4 EZH;2 VOICED LARYNGEAL SPIRANT;2 AIN;
   GREEK 1 SMALL CAPITAL GAMMA;4 LAMDA;4 PI;4 RHO;4 PSI;CYRILLIC 3 EL;MODIFIER 1 CAPITAL A;3 AE;3 B;
   3 BARRED B;3 D;3 E;3 REVERSED E;3 G;3 H;3 I;3 J;3 K;3 L;3 M;3 N;3 REVERSED N;3 O;3 OU;3 P;3 R;
   3 T;3 U;3 W;2 SMALL A;3 TURNED A;3 ALPHA;3 TURNED AE;3 B;3 D;3 E;3 SCHWA;3 OPEN E;
   3 TURNED OPEN E;3 G;3 TURNED I;3 K;3 M;3 ENG;3 O;3 OPEN O;3 TOP HALF O;3 BOTTOM 2;3 P;3 T;3 U;
   3 SIDEWAYS U;3 TURNED M;3 V;3 AIN;3 BETA;3 GREEK GAMMA;3 DELTA;3 GREEK PHI;3 CHI;
   LATIN SUBSCRIPT 1 LETTER I;4 R;4 U;4 V;GREEK 3 BETA;4 GAMMA;4 RHO;4 PHI;4 CHI;
   LATIN SMALL LETTER UE;3 B WITH MIDDLE TILDE;3 D 3;3 F 3;3 M 3;3 N 3;3 P 3;3 R 3;
   5 FISHHOOK AND MIDDLE TILDE;3 S 1 MIDDLE TILDE;3 T 3;3 Z 3;3 TURNED G;
   MODIFIER LETTER CYRILLIC EN;LATIN SMALL LETTER INSULAR G;3 TH WITH STRIKETHROUGH;
   2 CAPITAL LETTER I WITH STROKE;2 LETTER IOTA WITH STROKE;3 P 2;2 CAPITAL LETTER U WITH STROKE;
   2 LETTER UPSILON WITH STROKE;3 B 1 PALATAL HOOK;3 D 3;3 F 3;3 G 3;3 K 3;3 L 3;3 M 3;3 N 3;3 P 3;
   3 R 3;3 S 3;3 ESH 3;3 V 3;3 X 3;3 Z 3;3 A 1 RETROFLEX 1;3 ALPHA 3;3 D 1 HOOK AND TAIL;
   3 E 1 RETROFLEX HOOK;3 OPEN E WITH RETROFLEX HOOK;3 REVERSED OPEN E WITH RETROFLEX HOOK;
   3 SCHWA WITH RETROFLEX HOOK;3 I 3;3 OPEN O WITH RETROFLEX HOOK;3 ESH WITH RETROFLEX HOOK;3 U 3;
   3 EZH 3;MODIFIER LETTER SMALL TURNED ALPHA;3 C;4 WITH CURL;3 ETH;3 REVERSED OPEN E;3 F;
   3 DOTLESS J WITH STROKE;3 SCRIPT G;3 TURNED H;3 I WITH STROKE;3 IOTA;3 CAPITAL I;5 WITH STROKE;
   3 J WITH CROSSED-TAIL;3 L 1 RETROFLEX HOOK;5 PALATAL 1;3 CAPITAL L;3 M WITH HOOK;
   3 TURNED M WITH LONG LEG;3 N WITH LEFT HOOK;5 RETROFLEX 1;3 CAPITAL N;3 BARRED O;3 PHI;
   3 S WITH HOOK;3 ESH;3 T WITH PALATAL HOOK;3 U BAR;3 UPSILON;3 CAPITAL U;3 V WITH HOOK;3 TURNED V;
   3 Z;4 WITH RETROFLEX HOOK;5 CURL;3 EZH;3 THETA;COMBINING DOTTED GRAVE ACCENT;2 ACUTE 1;
   1 SNAKE BELOW;1 SUSPENSION MARK;1 MACRON-ACUTE;1 GRAVE-MACRON;1 MACRON-GRAVE;1 ACUTE-MACRON;
   1 GRAVE-ACUTE-GRAVE;1 ACUTE-GRAVE-ACUTE;1 LATIN SMALL LETTER R BELOW;1 BREVE-MACRON;
   1 MACRON-BREVE;1 DOUBLE CIRCUMFLEX ABOVE;1 OGONEK ABOVE;1 ZIGZAG BELOW;1 IS 1;1 UR ABOVE;1 US 1;
   1 LATIN SMALL LETTER FLATTENED OPEN A ABOVE;4 AE;4 AO;4 AV;4 C CEDILLA;4 INSULAR D;4 ETH;4 G;
   2 LETTER SMALL CAPITAL G;2 SMALL LETTER K;4 L;2 LETTER SMALL CAPITAL L;5 M;2 SMALL LETTER N;
   2 LETTER SMALL CAPITAL N;5 R;2 SMALL LETTER R ROTUNDA;4 S;4 LONG S;4 Z;4 ALPHA;4 B;4 BETA;
   4 SCHWA;4 F;4 L WITH DOUBLE MIDDLE TILDE;4 O 1 LIGHT CENTRALIZATION STROKE;4 P;4 ESH;
   4 U WITH LIGHT CENTRALIZATION STROKE;4 W;4 A WITH DIAERESIS;4 O 2;4 U 2;1 UP TACK ABOVE;
   1 KAVYKA ABOVE RIGHT;3 LEFT;1 DOT 2;1 WIDE INVERTED BRIDGE BELOW;1 DOT BELOW LEFT;
   1 DELETION MARK;1 DOUBLE INVERTED BREVE BELOW;1 ALMOST EQUAL TO 1;1 LEFT ARROWHEAD ABOVE;
   1 RIGHT 1 AND DOWN ARROWHEAD BELOW;LATIN CAPITAL LETTER A WITH RING 1;1 SMALL 5;
   1 CAPITAL 1 B 1 DOT ABOVE;1 SMALL 5;1 CAPITAL 4 BELOW;1 SMALL 5;1 CAPITAL 3 LINE 1;1 SMALL 5;
   1 CAPITAL 1 C 1 CEDILLA AND ACUTE;1 SMALL 6;1 CAPITAL 1 D 1 DOT ABOVE;1 SMALL 5;
   1 CAPITAL 4 BELOW;1 SMALL 5;1 CAPITAL 3 LINE 1;1 SMALL 5;1 CAPITAL 3 CEDILLA;1 SMALL 4;
   1 CAPITAL 3 CIRCUMFLEX BELOW;1 SMALL 5;1 CAPITAL 1 E 1 MACRON AND GRAVE;1 SMALL 6;
   1 CAPITAL 5 ACUTE;1 SMALL 6;1 CAPITAL 3 CIRCUMFLEX BELOW;1 SMALL 5;1 CAPITAL 3 TILDE 1;1 SMALL 5;
   1 CAPITAL 3 CEDILLA AND BREVE;1 SMALL 6;1 CAPITAL 1 F 1 DOT ABOVE;1 SMALL 5;
   1 CAPITAL 1 G 1 MACRON;1 SMALL 4;1 CAPITAL 1 H 1 DOT ABOVE;1 SMALL 5;1 CAPITAL 4 BELOW;1 SMALL 5;
   1 CAPITAL 3 DIAERESIS;1 SMALL 4;1 CAPITAL 3 CEDILLA;1 SMALL 4;1 CAPITAL 3 BREVE BELOW;1 SMALL 5;
   1 CAPITAL 1 I 1 TILDE 1;1 SMALL 5;1 CAPITAL 3 DIAERESIS AND ACUTE;1 SMALL 6;
   1 CAPITAL 1 K 1 ACUTE;1 SMALL 4;1 CAPITAL 3 DOT BELOW;1 SMALL 5;1 CAPITAL 3 LINE 1;1 SMALL 5;
   1 CAPITAL 1 L 1 DOT 1;1 SMALL 5;1 CAPITAL 5 AND MACRON;1 SMALL 7;1 CAPITAL 3 LINE 1;1 SMALL 5;
   1 CAPITAL 3 CIRCUMFLEX 1;1 SMALL 5;1 CAPITAL 1 M 1 ACUTE;1 SMALL 4;1 CAPITAL 3 DOT ABOVE;
   1 SMALL 5;1 CAPITAL 4 BELOW;1 SMALL 5;1 CAPITAL 1 N 2 ABOVE;1 SMALL 5;1 CAPITAL 4 BELOW;
   1 SMALL 5;1 CAPITAL 3 LINE 1;1 SMALL 5;1 CAPITAL 3 CIRCUMFLEX 1;1 SMALL 5;
   1 CAPITAL 1 O 1 TILDE AND ACUTE;1 SMALL 6;1 CAPITAL 5 DIAERESIS;1 SMALL 6;
   1 CAPITAL 3 MACRON 1 GRAVE;1 SMALL 6;1 CAPITAL 5 ACUTE;1 SMALL 6;1 CAPITAL 1 P 1 ACUTE;1 SMALL 4;
   1 CAPITAL 3 DOT ABOVE;1 SMALL 5;1 CAPITAL 1 R 3;1 SMALL 5;1 CAPITAL 4 BELOW;1 SMALL 5;
   1 CAPITAL 5 AND MACRON;1 SMALL 7;1 CAPITAL 3 LINE 1;1 SMALL 5;1 CAPITAL 1 S 1 DOT ABOVE;
   1 SMALL 5;1 CAPITAL 4 BELOW;1 SMALL 5;1 CAPITAL 3 ACUTE AND DOT ABOVE;1 SMALL 7;
   1 CAPITAL 3 CARON 3;1 SMALL 7;1 CAPITAL 3 DOT BELOW AND DOT ABOVE;1 SMALL 8;
   1 CAPITAL 1 T 2 ABOVE;1 SMALL 5;1 CAPITAL 4 BELOW;1 SMALL 5;1 CAPITAL 3 LINE 1;1 SMALL 5;
   1 CAPITAL 3 CIRCUMFLEX 1;1 SMALL 5;1 CAPITAL 1 U 1 DIAERESIS 1;1 SMALL 5;1 CAPITAL 3 TILDE 1;
   1 SMALL 5;1 CAPITAL 3 CIRCUMFLEX 1;1 SMALL 5;1 CAPITAL 3 TILDE AND ACUTE;1 SMALL 6;
   1 CAPITAL 3 MACRON 1 DIAERESIS;1 SMALL 6;1 CAPITAL 1 V 1 TILDE;1 SMALL 4;1 CAPITAL 3 DOT BELOW;
   1 SMALL 5;1 CAPITAL 1 W 1 GRAVE;1 SMALL 4;1 CAPITAL 3 ACUTE;1 SMALL 4;1 CAPITAL 3 DIAERESIS;
   1 SMALL 4;1 CAPITAL 3 DOT ABOVE;1 SMALL 5;1 CAPITAL 4 BELOW;1 SMALL 5;1 CAPITAL 1 X 2 ABOVE;
   1 SMALL 5;1 CAPITAL 3 DIAERESIS;1 SMALL 4;1 CAPITAL 1 Y 1 DOT ABOVE;1 SMALL 5;
   1 CAPITAL 1 Z 1 CIRCUMFLEX;1 SMALL 4;1 CAPITAL 3 DOT BELOW;1 SMALL 5;1 CAPITAL 3 LINE 1;
   1 SMALL 5;3 H 3;3 T 1 DIAERESIS;3 W 1 RING ABOVE;3 Y 3;3 A 1 RIGHT HALF RING;
   3 LONG S WITH DOT ABOVE;6 DIAGONAL STROKE;6 HIGH 1;1 CAPITAL 1 SHARP 1;1 SMALL 1 DELTA;
   1 CAPITAL 1 A WITH DOT BELOW;1 SMALL 5;1 CAPITAL 3 HOOK ABOVE;1 SMALL 5;
   1 CAPITAL 3 CIRCUMFLEX AND ACUTE;1 SMALL 6;1 CAPITAL 5 GRAVE;1 SMALL 6;1 CAPITAL 5 HOOK ABOVE;
   1 SMALL 7;1 CAPITAL 5 TILDE;1 SMALL 6;1 CAPITAL 5 DOT BELOW;1 SMALL 7;1 CAPITAL 3 BREVE 1 ACUTE;
   1 SMALL 6;1 CAPITAL 5 GRAVE;1 SMALL 6;1 CAPITAL 5 HOOK ABOVE;1 SMALL 7;1 CAPITAL 5 TILDE;
   1 SMALL 6;1 CAPITAL 5 DOT BELOW;1 SMALL 7;1 CAPITAL 1 E 1 DOT BELOW;1 SMALL 5;
   1 CAPITAL 3 HOOK ABOVE;1 SMALL 5;1 CAPITAL 3 TILDE;1 SMALL 4;1 CAPITAL 3 CIRCUMFLEX AND ACUTE;
   1 SMALL 6;1 CAPITAL 5 GRAVE;1 SMALL 6;1 CAPITAL 5 HOOK ABOVE;1 SMALL 7;1 CAPITAL 5 TILDE;
   1 SMALL 6;1 CAPITAL 5 DOT BELOW;1 SMALL 7;1 CAPITAL 1 I 1 HOOK ABOVE;1 SMALL 5;
   1 CAPITAL 3 DOT BELOW;1 SMALL 5;1 CAPITAL 1 O 3;1 SMALL 5;1 CAPITAL 3 HOOK ABOVE;1 SMALL 5;
   1 CAPITAL 3 CIRCUMFLEX AND ACUTE;1 SMALL 6;1 CAPITAL 5 GRAVE;1 SMALL 6;1 CAPITAL 5 HOOK ABOVE;
   1 SMALL 7;1 CAPITAL 5 TILDE;1 SMALL 6;1 CAPITAL 5 DOT BELOW;1 SMALL 7;1 CAPITAL 3 HORN 1 ACUTE;
   1 SMALL 6;1 CAPITAL 5 GRAVE;1 SMALL 6;1 CAPITAL 5 HOOK ABOVE;1 SMALL 7;1 CAPITAL 5 TILDE;
   1 SMALL 6;1 CAPITAL 5 DOT BELOW;1 SMALL 7;1 CAPITAL 1 U 1 DOT BELOW;1 SMALL 5;
   1 CAPITAL 3 HOOK ABOVE;1 SMALL 5;1 CAPITAL 3 HORN AND ACUTE;1 SMALL 6;1 CAPITAL 5 GRAVE;
   1 SMALL 6;1 CAPITAL 5 HOOK ABOVE;1 SMALL 7;1 CAPITAL 5 TILDE;1 SMALL 6;1 CAPITAL 5 DOT BELOW;
   1 SMALL 7;1 CAPITAL 1 Y 1 GRAVE;1 SMALL 4;1 CAPITAL 3 DOT BELOW;1 SMALL 5;1 CAPITAL 3 HOOK ABOVE;
   1 SMALL 5;1 CAPITAL 3 TILDE;1 SMALL 4;1 CAPITAL 1 MIDDLE-WELSH LL;1 SMALL 3;1 CAPITAL 2 V;
   1 SMALL 3;1 CAPITAL 1 Y WITH LOOP;1 SMALL 4;GREEK 2 ALPHA 1 PSILI;5 DASIA;5 PSILI AND VARIA;
   5 DASIA 2;5 PSILI 1 OXIA;5 DASIA 2;5 PSILI 1 PERISPOMENI;5 DASIA 2;1 CAPITAL 3 PSILI;5 DASIA;
   5 PSILI AND VARIA;5 DASIA 2;5 PSILI 1 OXIA;5 DASIA 2;5 PSILI 1 PERISPOMENI;5 DASIA 2;
   1 SMALL 1 EPSILON 1 PSILI;5 DASIA;5 PSILI AND VARIA;5 DASIA 2;5 PSILI 1 OXIA;5 DASIA 2;U+1F18;
   1 CAPITAL 3 PSILI;5 DASIA;5 PSILI AND VARIA;5 DASIA 2;5 PSILI 1 OXIA;5 DASIA 2;U+1F20;
   1 SMALL 1 ETA 1 PSILI;5 DASIA;5 PSILI AND VARIA;5 DASIA 2;5 PSILI 1 OXIA;5 DASIA 2;
   5 PSILI 1 PERISPOMENI;5 DASIA 2;1 CAPITAL 3 PSILI;5 DASIA;5 PSILI AND VARIA;5 DASIA 2;
   5 PSILI 1 OXIA;5 DASIA 2;5 PSILI 1 PERISPOMENI;5 DASIA 2;1 SMALL 1 IOTA 1 PSILI;5 DASIA;
   5 PSILI AND VARIA;5 DASIA 2;5 PSILI 1 OXIA;5 DASIA 2;5 PSILI 1 PERISPOMENI;5 DASIA 2;
   1 CAPITAL 3 PSILI;5 DASIA;5 PSILI AND VARIA;5 DASIA 2;5 PSILI 1 OXIA;5 DASIA 2;
   5 PSILI 1 PERISPOMENI;5 DASIA 2;1 SMALL 1 OMICRON 1 PSILI;5 DASIA;5 PSILI AND VARIA;5 DASIA 2;
   5 PSILI 1 OXIA;5 DASIA 2;U+1F48;1 CAPITAL 3 PSILI;5 DASIA;5 PSILI AND VARIA;5 DASIA 2;
   5 PSILI 1 OXIA;5 DASIA 2;U+1F50;1 SMALL 1 UPSILON 1 PSILI;5 DASIA;5 PSILI AND VARIA;5 DASIA 2;
   5 PSILI 1 OXIA;5 DASIA 2;5 PSILI 1 PERISPOMENI;5 DASIA 2;U+1F59;1 CAPITAL 4;U+1F5B;6 AND VARIA;
   U+1F5D;7 OXIA;U+1F5F;7 PERISPOMENI;1 SMALL 1 OMEGA 1 PSILI;5 DASIA;5 PSILI AND VARIA;5 DASIA 2;
   5 PSILI 1 OXIA;5 DASIA 2;5 PSILI 1 PERISPOMENI;5 DASIA 2;1 CAPITAL 3 PSILI;5 DASIA;
   5 PSILI AND VARIA;5 DASIA 2;5 PSILI 1 OXIA;5 DASIA 2;5 PSILI 1 PERISPOMENI;5 DASIA 2;
   1 SMALL 1 ALPHA 1 VARIA;5 OXIA;3 EPSILON 1 VARIA;5 OXIA;3 ETA 1 VARIA;5 OXIA;3 IOTA 1 VARIA;
   5 OXIA;3 OMICRON 1 VARIA;5 OXIA;3 UPSILON 1 VARIA;5 OXIA;3 OMEGA 1 VARIA;5 OXIA;U+1F80;
   3 ALPHA 1 PSILI AND YPOGEGRAMMENI;5 DASIA 2;5 PSILI 1 VARIA AND YPOGEGRAMMENI;5 DASIA 4;
   5 PSILI 1 OXIA 2;5 DASIA 4;5 PSILI 1 PERISPOMENI 2;5 DASIA 4;1 CAPITAL 3 PSILI 1 PROSGEGRAMMENI;
   5 DASIA 2;5 PSILI 1 VARIA AND PROSGEGRAMMENI;5 DASIA 4;5 PSILI 1 OXIA 2;5 DASIA 4;
   5 PSILI 1 PERISPOMENI 2;5 DASIA 4;1 SMALL 1 ETA 1 PSILI 1 YPOGEGRAMMENI;5 DASIA 2;
   5 PSILI 1 VARIA AND YPOGEGRAMMENI;5 DASIA 4;5 PSILI 1 OXIA 2;5 DASIA 4;5 PSILI 1 PERISPOMENI 2;
   5 DASIA 4;1 CAPITAL 3 PSILI 1 PROSGEGRAMMENI;5 DASIA 2;5 PSILI 1 VARIA AND PROSGEGRAMMENI;
   5 DASIA 4;5 PSILI 1 OXIA 2;5 DASIA 4;5 PSILI 1 PERISPOMENI 2;5 DASIA 4;
   1 SMALL 1 OMEGA 1 PSILI 1 YPOGEGRAMMENI;5 DASIA 2;5 PSILI 1 VARIA AND YPOGEGRAMMENI;5 DASIA 4;
   5 PSILI 1 OXIA 2;5 DASIA 4;5 PSILI 1 PERISPOMENI 2;5 DASIA 4;1 CAPITAL 3 PSILI 1 PROSGEGRAMMENI;
   5 DASIA 2;5 PSILI 1 VARIA AND PROSGEGRAMMENI;5 DASIA 4;5 PSILI 1 OXIA 2;5 DASIA 4;
   5 PSILI 1 PERISPOMENI 2;5 DASIA 4;1 SMALL 1 ALPHA 1 VRACHY;5 MACRON;5 VARIA AND YPOGEGRAMMENI;
   5 YPOGEGRAMMENI;5 OXIA AND YPOGEGRAMMENI;U+1FB6;5 PERISPOMENI;6 AND YPOGEGRAMMENI;
   1 CAPITAL 3 VRACHY;5 MACRON;5 VARIA;5 OXIA;5 PROSGEGRAMMENI;1 KORONIS;1 PROSGEGRAMMENI;1 PSILI;
   1 PERISPOMENI;1 DIALYTIKA AND PERISPOMENI;1 SMALL LETTER ETA WITH VARIA AND YPOGEGRAMMENI;
   5 YPOGEGRAMMENI;5 OXIA AND YPOGEGRAMMENI;U+1FC6;5 PERISPOMENI;6 AND YPOGEGRAMMENI;
   1 CAPITAL 1 EPSILON 1 VARIA;5 OXIA;3 ETA 1 VARIA;5 OXIA;5 PROSGEGRAMMENI;1 PSILI AND VARIA;
   3 OXIA;3 PERISPOMENI;1 SMALL LETTER IOTA WITH VRACHY;5 MACRON;5 DIALYTIKA AND VARIA;7 OXIA;
   U+1FD6;5 PERISPOMENI;5 DIALYTIKA AND PERISPOMENI;1 CAPITAL 3 VRACHY;5 MACRON;5 VARIA;5 OXIA;
   U+1FDD;1 DASIA AND VARIA;3 OXIA;3 PERISPOMENI;1 SMALL LETTER UPSILON WITH VRACHY;5 MACRON;
   5 DIALYTIKA AND VARIA;7 OXIA;3 RHO 1 PSILI;5 DASIA;3 UPSILON 1 PERISPOMENI;
   5 DIALYTIKA AND PERISPOMENI;1 CAPITAL 3 VRACHY;5 MACRON;5 VARIA;5 OXIA;3 RHO 1 DASIA;
   1 DIALYTIKA AND VARIA;3 OXIA;1 VARIA;U+1FF2;1 SMALL LETTER OMEGA WITH VARIA AND YPOGEGRAMMENI;
   5 YPOGEGRAMMENI;5 OXIA AND YPOGEGRAMMENI;U+1FF6;5 PERISPOMENI;6 AND YPOGEGRAMMENI;
   1 CAPITAL 1 OMICRON 1 VARIA;5 OXIA;3 OMEGA 1 VARIA;5 OXIA;5 PROSGEGRAMMENI;1 OXIA;1 DASIA"

end ApiShell.Template.CharacterName
