import StreamLabel.Unicode.Name.Block

/-!
# Names from U+0000 on

Basic letters and signs; Latin, Greek, Cyrillic and Armenian.
-/

namespace StreamLabel.Unicode

def namesFrom0000 : List NameBlock := [
  ⟨0x20,
   "SPACE;EXCLAMATION MARK;QUOTATION MARK;NUMBER SIGN;DOLLAR SIGN;PERCENT SIGN;AMPERSAND;
    APOSTROPHE;LEFT PARENTHESIS;RIGHT PARENTHESIS;ASTERISK;PLUS SIGN;COMMA;HYPHEN-MINUS;
    FULL STOP;SOLIDUS;DIGIT ZERO;aONE;aTWO;aTHREE;aFOUR;aFIVE;aSIX;aSEVEN;aEIGHT;aNINE;COLON;
    SEMICOLON;LESS-THAN SIGN;EQUALS SIGN;GREATER-THAN SIGN;QUESTION MARK;COMMERCIAL AT;
    LATIN CAPITAL LETTER A;cB;cC;cD;cE;cF;cG;cH;cI;cJ;cK;cL;cM;cN;cO;cP;cQ;cR;cS;cT;cU;cV;cW;cX;
    cY;cZ;LEFT SQUARE BRACKET;REVERSE SOLIDUS;RIGHT SQUARE BRACKET;CIRCUMFLEX ACCENT;LOW LINE;
    GRAVE ACCENT;LATIN SMALL LETTER A;cB;cC;cD;cE;cF;cG;cH;cI;cJ;cK;cL;cM;cN;cO;cP;cQ;cR;cS;cT;
    cU;cV;cW;cX;cY;cZ;LEFT CURLY BRACKET;VERTICAL LINE;RIGHT CURLY BRACKET;TILDE"⟩,
  ⟨0xa0,
   "NO-BREAK SPACE;INVERTED EXCLAMATION MARK;CENT SIGN;POUND SIGN;CURRENCY SIGN;YEN SIGN;
    BROKEN BAR;SECTION SIGN;DIAERESIS;COPYRIGHT SIGN;FEMININE ORDINAL INDICATOR;
    LEFT-POINTING DOUBLE ANGLE QUOTATION MARK;NOT SIGN;SOFT HYPHEN;REGISTERED SIGN;MACRON;
    DEGREE SIGN;PLUS-MINUS SIGN;SUPERSCRIPT TWO;aTHREE;ACUTE ACCENT;MICRO SIGN;PILCROW SIGN;
    MIDDLE DOT;CEDILLA;SUPERSCRIPT ONE;MASCULINE ORDINAL INDICATOR;
    RIGHT-POINTING DOUBLE ANGLE QUOTATION MARK;VULGAR FRACTION ONE QUARTER;cHALF;bTHREE QUARTERS;
    INVERTED QUESTION MARK;LATIN CAPITAL LETTER A WITH GRAVE;eACUTE;eCIRCUMFLEX;eTILDE;
    eDIAERESIS;eRING ABOVE;cAE;cC WITH CEDILLA;cE WITH GRAVE;eACUTE;eCIRCUMFLEX;eDIAERESIS;
    cI WITH GRAVE;eACUTE;eCIRCUMFLEX;eDIAERESIS;cETH;cN WITH TILDE;cO WITH GRAVE;eACUTE;
    eCIRCUMFLEX;eTILDE;eDIAERESIS;MULTIPLICATION SIGN;LATIN CAPITAL LETTER O WITH STROKE;
    cU WITH GRAVE;eACUTE;eCIRCUMFLEX;eDIAERESIS;cY WITH ACUTE;cTHORN;aSMALL LETTER SHARP S;
    cA WITH GRAVE;eACUTE;eCIRCUMFLEX;eTILDE;eDIAERESIS;eRING ABOVE;cAE;cC WITH CEDILLA;
    cE WITH GRAVE;eACUTE;eCIRCUMFLEX;eDIAERESIS;cI WITH GRAVE;eACUTE;eCIRCUMFLEX;eDIAERESIS;cETH;
    cN WITH TILDE;cO WITH GRAVE;eACUTE;eCIRCUMFLEX;eTILDE;eDIAERESIS;DIVISION SIGN;
    LATIN SMALL LETTER O WITH STROKE;cU WITH GRAVE;eACUTE;eCIRCUMFLEX;eDIAERESIS;cY WITH ACUTE;
    cTHORN;cY WITH DIAERESIS"⟩,
  ⟨0x100,
   "LATIN CAPITAL LETTER A WITH MACRON;aSMALL LETTER A WITH MACRON;aCAPITAL LETTER A WITH BREVE;
    aSMALL LETTER A WITH BREVE;aCAPITAL LETTER A WITH OGONEK;aSMALL LETTER A WITH OGONEK;
    aCAPITAL LETTER C WITH ACUTE;aSMALL LETTER C WITH ACUTE;aCAPITAL LETTER C WITH CIRCUMFLEX;
    aSMALL LETTER C WITH CIRCUMFLEX;aCAPITAL LETTER C WITH DOT ABOVE;
    aSMALL LETTER C WITH DOT ABOVE;aCAPITAL LETTER C WITH CARON;aSMALL LETTER C WITH CARON;
    aCAPITAL LETTER D WITH CARON;aSMALL LETTER D WITH CARON;aCAPITAL LETTER D WITH STROKE;
    aSMALL LETTER D WITH STROKE;aCAPITAL LETTER E WITH MACRON;aSMALL LETTER E WITH MACRON;
    aCAPITAL LETTER E WITH BREVE;aSMALL LETTER E WITH BREVE;aCAPITAL LETTER E WITH DOT ABOVE;
    aSMALL LETTER E WITH DOT ABOVE;aCAPITAL LETTER E WITH OGONEK;aSMALL LETTER E WITH OGONEK;
    aCAPITAL LETTER E WITH CARON;aSMALL LETTER E WITH CARON;aCAPITAL LETTER G WITH CIRCUMFLEX;
    aSMALL LETTER G WITH CIRCUMFLEX;aCAPITAL LETTER G WITH BREVE;aSMALL LETTER G WITH BREVE;
    aCAPITAL LETTER G WITH DOT ABOVE;aSMALL LETTER G WITH DOT ABOVE;
    aCAPITAL LETTER G WITH CEDILLA;aSMALL LETTER G WITH CEDILLA;
    aCAPITAL LETTER H WITH CIRCUMFLEX;aSMALL LETTER H WITH CIRCUMFLEX;
    aCAPITAL LETTER H WITH STROKE;aSMALL LETTER H WITH STROKE;aCAPITAL LETTER I WITH TILDE;
    aSMALL LETTER I WITH TILDE;aCAPITAL LETTER I WITH MACRON;aSMALL LETTER I WITH MACRON;
    aCAPITAL LETTER I WITH BREVE;aSMALL LETTER I WITH BREVE;aCAPITAL LETTER I WITH OGONEK;
    aSMALL LETTER I WITH OGONEK;aCAPITAL LETTER I WITH DOT ABOVE;aSMALL LETTER DOTLESS I;
    aCAPITAL LIGATURE IJ;aSMALL LIGATURE IJ;aCAPITAL LETTER J WITH CIRCUMFLEX;
    aSMALL LETTER J WITH CIRCUMFLEX;aCAPITAL LETTER K WITH CEDILLA;aSMALL LETTER K WITH CEDILLA;
    cKRA;aCAPITAL LETTER L WITH ACUTE;aSMALL LETTER L WITH ACUTE;aCAPITAL LETTER L WITH CEDILLA;
    aSMALL LETTER L WITH CEDILLA;aCAPITAL LETTER L WITH CARON;aSMALL LETTER L WITH CARON;
    aCAPITAL LETTER L WITH MIDDLE DOT;aSMALL LETTER L WITH MIDDLE DOT;
    aCAPITAL LETTER L WITH STROKE;aSMALL LETTER L WITH STROKE;aCAPITAL LETTER N WITH ACUTE;
    aSMALL LETTER N WITH ACUTE;aCAPITAL LETTER N WITH CEDILLA;aSMALL LETTER N WITH CEDILLA;
    aCAPITAL LETTER N WITH CARON;aSMALL LETTER N WITH CARON;dPRECEDED BY APOSTROPHE;
    aCAPITAL LETTER ENG;aSMALL LETTER ENG;aCAPITAL LETTER O WITH MACRON;
    aSMALL LETTER O WITH MACRON;aCAPITAL LETTER O WITH BREVE;aSMALL LETTER O WITH BREVE;
    aCAPITAL LETTER O WITH DOUBLE ACUTE;aSMALL LETTER O WITH DOUBLE ACUTE;aCAPITAL LIGATURE OE;
    aSMALL LIGATURE OE;aCAPITAL LETTER R WITH ACUTE;aSMALL LETTER R WITH ACUTE;
    aCAPITAL LETTER R WITH CEDILLA;aSMALL LETTER R WITH CEDILLA;aCAPITAL LETTER R WITH CARON;
    aSMALL LETTER R WITH CARON;aCAPITAL LETTER S WITH ACUTE;aSMALL LETTER S WITH ACUTE;
    aCAPITAL LETTER S WITH CIRCUMFLEX;aSMALL LETTER S WITH CIRCUMFLEX;
    aCAPITAL LETTER S WITH CEDILLA;aSMALL LETTER S WITH CEDILLA;aCAPITAL LETTER S WITH CARON;
    aSMALL LETTER S WITH CARON;aCAPITAL LETTER T WITH CEDILLA;aSMALL LETTER T WITH CEDILLA;
    aCAPITAL LETTER T WITH CARON;aSMALL LETTER T WITH CARON;aCAPITAL LETTER T WITH STROKE;
    aSMALL LETTER T WITH STROKE;aCAPITAL LETTER U WITH TILDE;aSMALL LETTER U WITH TILDE;
    aCAPITAL LETTER U WITH MACRON;aSMALL LETTER U WITH MACRON;aCAPITAL LETTER U WITH BREVE;
    aSMALL LETTER U WITH BREVE;aCAPITAL LETTER U WITH RING ABOVE;aSMALL LETTER U WITH RING ABOVE;
    aCAPITAL LETTER U WITH DOUBLE ACUTE;aSMALL LETTER U WITH DOUBLE ACUTE;
    aCAPITAL LETTER U WITH OGONEK;aSMALL LETTER U WITH OGONEK;aCAPITAL LETTER W WITH CIRCUMFLEX;
    aSMALL LETTER W WITH CIRCUMFLEX;aCAPITAL LETTER Y WITH CIRCUMFLEX;
    aSMALL LETTER Y WITH CIRCUMFLEX;aCAPITAL LETTER Y WITH DIAERESIS;cZ WITH ACUTE;
    aSMALL LETTER Z WITH ACUTE;aCAPITAL LETTER Z WITH DOT ABOVE;aSMALL LETTER Z WITH DOT ABOVE;
    aCAPITAL LETTER Z WITH CARON;aSMALL LETTER Z WITH CARON;cLONG S;cB WITH STROKE;
    aCAPITAL LETTER B WITH HOOK;eTOPBAR;aSMALL LETTER B WITH TOPBAR;aCAPITAL LETTER TONE SIX;
    aSMALL LETTER TONE SIX;aCAPITAL LETTER OPEN O;cC WITH HOOK;aSMALL LETTER C WITH HOOK;
    aCAPITAL LETTER AFRICAN D;cD WITH HOOK;eTOPBAR;aSMALL LETTER D WITH TOPBAR;cTURNED DELTA;
    aCAPITAL LETTER REVERSED E;cSCHWA;cOPEN E;cF WITH HOOK;aSMALL LETTER F WITH HOOK;
    aCAPITAL LETTER G WITH HOOK;cGAMMA;aSMALL LETTER HV;aCAPITAL LETTER IOTA;cI WITH STROKE;
    cK WITH HOOK;aSMALL LETTER K WITH HOOK;cL WITH BAR;cLAMBDA WITH STROKE;
    aCAPITAL LETTER TURNED M;cN WITH LEFT HOOK;aSMALL LETTER N WITH LONG RIGHT LEG;
    aCAPITAL LETTER O WITH MIDDLE TILDE;eHORN;aSMALL LETTER O WITH HORN;aCAPITAL LETTER OI;
    aSMALL LETTER OI;aCAPITAL LETTER P WITH HOOK;aSMALL LETTER P WITH HOOK;aLETTER YR;
    aCAPITAL LETTER TONE TWO;aSMALL LETTER TONE TWO;aCAPITAL LETTER ESH;
    aLETTER REVERSED ESH LOOP;aSMALL LETTER T WITH PALATAL HOOK;aCAPITAL LETTER T WITH HOOK;
    aSMALL LETTER T WITH HOOK;aCAPITAL LETTER T WITH RETROFLEX HOOK;cU WITH HORN;
    aSMALL LETTER U WITH HORN;aCAPITAL LETTER UPSILON;cV WITH HOOK;cY WITH HOOK;
    aSMALL LETTER Y WITH HOOK;aCAPITAL LETTER Z WITH STROKE;aSMALL LETTER Z WITH STROKE;
    aCAPITAL LETTER EZH;dREVERSED;aSMALL LETTER EZH REVERSED;dWITH TAIL;aLETTER TWO WITH STROKE;
    aCAPITAL LETTER TONE FIVE;aSMALL LETTER TONE FIVE;aLETTER INVERTED GLOTTAL STOP WITH STROKE;
    bWYNN;bDENTAL CLICK;bLATERAL CLICK;bALVEOLAR CLICK;bRETROFLEX CLICK;
    aCAPITAL LETTER DZ WITH CARON;cD WITH SMALL LETTER Z WITH CARON;aSMALL LETTER DZ WITH CARON;
    aCAPITAL LETTER LJ;cL WITH SMALL LETTER J;aSMALL LETTER LJ;aCAPITAL LETTER NJ;
    cN WITH SMALL LETTER J;aSMALL LETTER NJ;aCAPITAL LETTER A WITH CARON;
    aSMALL LETTER A WITH CARON;aCAPITAL LETTER I WITH CARON;aSMALL LETTER I WITH CARON;
    aCAPITAL LETTER O WITH CARON;aSMALL LETTER O WITH CARON;aCAPITAL LETTER U WITH CARON;
    aSMALL LETTER U WITH CARON;aCAPITAL LETTER U WITH DIAERESIS AND MACRON;
    aSMALL LETTER U WITH DIAERESIS AND MACRON;aCAPITAL LETTER U WITH DIAERESIS AND ACUTE;
    aSMALL LETTER U WITH DIAERESIS AND ACUTE;aCAPITAL LETTER U WITH DIAERESIS AND CARON;
    aSMALL LETTER U WITH DIAERESIS AND CARON;aCAPITAL LETTER U WITH DIAERESIS AND GRAVE;
    aSMALL LETTER U WITH DIAERESIS AND GRAVE;cTURNED E;
    aCAPITAL LETTER A WITH DIAERESIS AND MACRON;aSMALL LETTER A WITH DIAERESIS AND MACRON;
    aCAPITAL LETTER A WITH DOT ABOVE AND MACRON;aSMALL LETTER A WITH DOT ABOVE AND MACRON;
    aCAPITAL LETTER AE WITH MACRON;aSMALL LETTER AE WITH MACRON;aCAPITAL LETTER G WITH STROKE;
    aSMALL LETTER G WITH STROKE;aCAPITAL LETTER G WITH CARON;aSMALL LETTER G WITH CARON;
    aCAPITAL LETTER K WITH CARON;aSMALL LETTER K WITH CARON;aCAPITAL LETTER O WITH OGONEK;
    aSMALL LETTER O WITH OGONEK;aCAPITAL LETTER O WITH OGONEK AND MACRON;
    aSMALL LETTER O WITH OGONEK AND MACRON;aCAPITAL LETTER EZH WITH CARON;
    aSMALL LETTER EZH WITH CARON;cJ WITH CARON;aCAPITAL LETTER DZ;cD WITH SMALL LETTER Z;
    aSMALL LETTER DZ;aCAPITAL LETTER G WITH ACUTE;aSMALL LETTER G WITH ACUTE;
    aCAPITAL LETTER HWAIR;cWYNN;cN WITH GRAVE;aSMALL LETTER N WITH GRAVE;
    aCAPITAL LETTER A WITH RING ABOVE AND ACUTE;aSMALL LETTER A WITH RING ABOVE AND ACUTE;
    aCAPITAL LETTER AE WITH ACUTE;aSMALL LETTER AE WITH ACUTE;
    aCAPITAL LETTER O WITH STROKE AND ACUTE;aSMALL LETTER O WITH STROKE AND ACUTE"⟩,
  ⟨0x200,
   "LATIN CAPITAL LETTER A WITH DOUBLE GRAVE;aSMALL LETTER A WITH DOUBLE GRAVE;
    aCAPITAL LETTER A WITH INVERTED BREVE;aSMALL LETTER A WITH INVERTED BREVE;
    aCAPITAL LETTER E WITH DOUBLE GRAVE;aSMALL LETTER E WITH DOUBLE GRAVE;
    aCAPITAL LETTER E WITH INVERTED BREVE;aSMALL LETTER E WITH INVERTED BREVE;
    aCAPITAL LETTER I WITH DOUBLE GRAVE;aSMALL LETTER I WITH DOUBLE GRAVE;
    aCAPITAL LETTER I WITH INVERTED BREVE;aSMALL LETTER I WITH INVERTED BREVE;
    aCAPITAL LETTER O WITH DOUBLE GRAVE;aSMALL LETTER O WITH DOUBLE GRAVE;
    aCAPITAL LETTER O WITH INVERTED BREVE;aSMALL LETTER O WITH INVERTED BREVE;
    aCAPITAL LETTER R WITH DOUBLE GRAVE;aSMALL LETTER R WITH DOUBLE GRAVE;
    aCAPITAL LETTER R WITH INVERTED BREVE;aSMALL LETTER R WITH INVERTED BREVE;
    aCAPITAL LETTER U WITH DOUBLE GRAVE;aSMALL LETTER U WITH DOUBLE GRAVE;
    aCAPITAL LETTER U WITH INVERTED BREVE;aSMALL LETTER U WITH INVERTED BREVE;
    aCAPITAL LETTER S WITH COMMA BELOW;aSMALL LETTER S WITH COMMA BELOW;
    aCAPITAL LETTER T WITH COMMA BELOW;aSMALL LETTER T WITH COMMA BELOW;aCAPITAL LETTER YOGH;
    aSMALL LETTER YOGH;aCAPITAL LETTER H WITH CARON;aSMALL LETTER H WITH CARON;
    aCAPITAL LETTER N WITH LONG RIGHT LEG;aSMALL LETTER D WITH CURL;aCAPITAL LETTER OU;
    aSMALL LETTER OU;aCAPITAL LETTER Z WITH HOOK;aSMALL LETTER Z WITH HOOK;
    aCAPITAL LETTER A WITH DOT ABOVE;aSMALL LETTER A WITH DOT ABOVE;
    aCAPITAL LETTER E WITH CEDILLA;aSMALL LETTER E WITH CEDILLA;
    aCAPITAL LETTER O WITH DIAERESIS AND MACRON;aSMALL LETTER O WITH DIAERESIS AND MACRON;
    aCAPITAL LETTER O WITH TILDE AND MACRON;aSMALL LETTER O WITH TILDE AND MACRON;
    aCAPITAL LETTER O WITH DOT ABOVE;aSMALL LETTER O WITH DOT ABOVE;
    aCAPITAL LETTER O WITH DOT ABOVE AND MACRON;aSMALL LETTER O WITH DOT ABOVE AND MACRON;
    aCAPITAL LETTER Y WITH MACRON;aSMALL LETTER Y WITH MACRON;cL WITH CURL;cN WITH CURL;
    cT WITH CURL;cDOTLESS J;cDB DIGRAPH;cQP DIGRAPH;aCAPITAL LETTER A WITH STROKE;cC WITH STROKE;
    aSMALL LETTER C WITH STROKE;aCAPITAL LETTER L WITH BAR;cT WITH DIAGONAL STROKE;
    aSMALL LETTER S WITH SWASH TAIL;cZ WITH SWASH TAIL;aCAPITAL LETTER GLOTTAL STOP;
    aSMALL LETTER GLOTTAL STOP;aCAPITAL LETTER B WITH STROKE;cU BAR;cTURNED V;cE WITH STROKE;
    aSMALL LETTER E WITH STROKE;aCAPITAL LETTER J WITH STROKE;aSMALL LETTER J WITH STROKE;
    aCAPITAL LETTER SMALL Q WITH HOOK TAIL;aSMALL LETTER Q WITH HOOK TAIL;
    aCAPITAL LETTER R WITH STROKE;aSMALL LETTER R WITH STROKE;aCAPITAL LETTER Y WITH STROKE;
    aSMALL LETTER Y WITH STROKE;cTURNED A;cALPHA;cTURNED ALPHA;cB WITH HOOK;cOPEN O;cC WITH CURL;
    cD WITH TAIL;eHOOK;cREVERSED E;cSCHWA;dWITH HOOK;cOPEN E;cREVERSED OPEN E;fWITH HOOK;
    cCLOSED REVERSED OPEN E;cDOTLESS J WITH STROKE;cG WITH HOOK;cSCRIPT G;
    aLETTER SMALL CAPITAL G;aSMALL LETTER GAMMA;cRAMS HORN;cTURNED H;cH WITH HOOK;
    cHENG WITH HOOK;cI WITH STROKE;cIOTA;aLETTER SMALL CAPITAL I;
    aSMALL LETTER L WITH MIDDLE TILDE;eBELT;eRETROFLEX HOOK;cLEZH;cTURNED M;eWITH LONG LEG;
    cM WITH HOOK;cN WITH LEFT HOOK;eRETROFLEX HOOK;aLETTER SMALL CAPITAL N;
    aSMALL LETTER BARRED O;aLETTER SMALL CAPITAL OE;aSMALL LETTER CLOSED OMEGA;cPHI;cTURNED R;
    eWITH LONG LEG;fHOOK;cR WITH LONG LEG;eTAIL;eFISHHOOK;cREVERSED R WITH FISHHOOK;
    aLETTER SMALL CAPITAL R;dINVERTED R;aSMALL LETTER S WITH HOOK;cESH;
    cDOTLESS J WITH STROKE AND HOOK;cSQUAT REVERSED ESH;cESH WITH CURL;cTURNED T;
    cT WITH RETROFLEX HOOK;cU BAR;cUPSILON;cV WITH HOOK;cTURNED V;dW;dY;aLETTER SMALL CAPITAL Y;
    aSMALL LETTER Z WITH RETROFLEX HOOK;eCURL;cEZH;dWITH CURL;aLETTER GLOTTAL STOP;
    bPHARYNGEAL VOICED FRICATIVE;bINVERTED GLOTTAL STOP;bSTRETCHED C;bBILABIAL CLICK;
    bSMALL CAPITAL B;aSMALL LETTER CLOSED OPEN E;aLETTER SMALL CAPITAL G WITH HOOK;dH;
    aSMALL LETTER J WITH CROSSED-TAIL;cTURNED K;aLETTER SMALL CAPITAL L;
    aSMALL LETTER Q WITH HOOK;aLETTER GLOTTAL STOP WITH STROKE;
    bREVERSED GLOTTAL STOP WITH STROKE;aSMALL LETTER DZ DIGRAPH;cDEZH DIGRAPH;
    cDZ DIGRAPH WITH CURL;cTS DIGRAPH;cTESH DIGRAPH;cTC DIGRAPH WITH CURL;cFENG DIGRAPH;
    cLS DIGRAPH;cLZ DIGRAPH;aLETTER BILABIAL PERCUSSIVE;bBIDENTAL PERCUSSIVE;
    aSMALL LETTER TURNED H WITH FISHHOOK;gAND TAIL;MODIFIER LETTER SMALL H;dWITH HOOK;cJ;cR;
    cTURNED R;eWITH HOOK;cCAPITAL INVERTED R;cW;cY;bPRIME;bDOUBLE PRIME;bTURNED COMMA;
    bAPOSTROPHE;bREVERSED COMMA;bRIGHT HALF RING;bLEFT HALF RING;bGLOTTAL STOP;
    bREVERSED GLOTTAL STOP;bLEFT ARROWHEAD;bRIGHT ARROWHEAD;bUP ARROWHEAD;bDOWN ARROWHEAD;
    bCIRCUMFLEX ACCENT;CARON;MODIFIER LETTER VERTICAL LINE;bMACRON;bACUTE ACCENT;bGRAVE ACCENT;
    bLOW VERTICAL LINE;cMACRON;cGRAVE ACCENT;cACUTE ACCENT;bTRIANGULAR COLON;
    bHALF TRIANGULAR COLON;bCENTRED RIGHT HALF RING;cLEFT HALF RING;bUP TACK;bDOWN TACK;
    bPLUS SIGN;bMINUS SIGN;BREVE;DOT ABOVE;RING ABOVE;OGONEK;SMALL TILDE;DOUBLE ACUTE ACCENT;
    MODIFIER LETTER RHOTIC HOOK;bCROSS ACCENT;bSMALL GAMMA;cL;cS;cX;cREVERSED GLOTTAL STOP;
    bEXTRA-HIGH TONE BAR;bHIGH TONE BAR;bMID TONE BAR;bLOW TONE BAR;bEXTRA-LOW TONE BAR;
    bYIN DEPARTING TONE MARK;bYANG DEPARTING TONE MARK;bVOICING;bUNASPIRATED;bDOUBLE APOSTROPHE;
    bLOW DOWN ARROWHEAD;cUP ARROWHEAD;cLEFT ARROWHEAD;cRIGHT ARROWHEAD;cRING;
    bMIDDLE GRAVE ACCENT;cDOUBLE GRAVE ACCENT;dACUTE ACCENT;bLOW TILDE;bRAISED COLON;
    bBEGIN HIGH TONE;bEND HIGH TONE;bBEGIN LOW TONE;bEND LOW TONE;bSHELF;bOPEN SHELF;
    bLOW LEFT ARROW"⟩,
  ⟨0x300,
   "COMBINING GRAVE ACCENT;aACUTE ACCENT;aCIRCUMFLEX ACCENT;aTILDE;aMACRON;aOVERLINE;aBREVE;
    aDOT ABOVE;aDIAERESIS;aHOOK ABOVE;aRING ABOVE;aDOUBLE ACUTE ACCENT;aCARON;
    aVERTICAL LINE ABOVE;aDOUBLE VERTICAL LINE ABOVE;bGRAVE ACCENT;aCANDRABINDU;aINVERTED BREVE;
    aTURNED COMMA ABOVE;aCOMMA ABOVE;aREVERSED COMMA ABOVE;aCOMMA ABOVE RIGHT;
    aGRAVE ACCENT BELOW;aACUTE ACCENT BELOW;aLEFT TACK BELOW;aRIGHT TACK BELOW;aLEFT ANGLE ABOVE;
    aHORN;aLEFT HALF RING BELOW;aUP TACK BELOW;aDOWN TACK BELOW;aPLUS SIGN BELOW;
    aMINUS SIGN BELOW;aPALATALIZED HOOK BELOW;aRETROFLEX HOOK BELOW;aDOT BELOW;aDIAERESIS BELOW;
    aRING BELOW;aCOMMA BELOW;aCEDILLA;aOGONEK;aVERTICAL LINE BELOW;aBRIDGE BELOW;
    aINVERTED DOUBLE ARCH BELOW;aCARON BELOW;aCIRCUMFLEX ACCENT BELOW;aBREVE BELOW;
    aINVERTED BREVE BELOW;aTILDE BELOW;aMACRON BELOW;aLOW LINE;aDOUBLE LOW LINE;aTILDE OVERLAY;
    aSHORT STROKE OVERLAY;aLONG STROKE OVERLAY;aSHORT SOLIDUS OVERLAY;aLONG SOLIDUS OVERLAY;
    aRIGHT HALF RING BELOW;aINVERTED BRIDGE BELOW;aSQUARE BELOW;aSEAGULL BELOW;aX ABOVE;
    aVERTICAL TILDE;aDOUBLE OVERLINE;aGRAVE TONE MARK;aACUTE TONE MARK;aGREEK PERISPOMENI;
    bKORONIS;bDIALYTIKA TONOS;bYPOGEGRAMMENI;aBRIDGE ABOVE;aEQUALS SIGN BELOW;
    aDOUBLE VERTICAL LINE BELOW;aLEFT ANGLE BELOW;aNOT TILDE ABOVE;aHOMOTHETIC ABOVE;
    aALMOST EQUAL TO ABOVE;aLEFT RIGHT ARROW BELOW;aUPWARDS ARROW BELOW;aGRAPHEME JOINER;
    aRIGHT ARROWHEAD ABOVE;aLEFT HALF RING ABOVE;aFERMATA;aX BELOW;aLEFT ARROWHEAD BELOW;
    aRIGHT ARROWHEAD BELOW;cAND UP ARROWHEAD BELOW;bHALF RING ABOVE;aDOT ABOVE RIGHT;
    aASTERISK BELOW;aDOUBLE RING BELOW;aZIGZAG ABOVE;aDOUBLE BREVE BELOW;c;bMACRON;cBELOW;bTILDE;
    bINVERTED BREVE;bRIGHTWARDS ARROW BELOW;aLATIN SMALL LETTER A;dE;dI;dO;dU;dC;dD;dH;dM;dR;dT;
    dV;dX;GREEK CAPITAL LETTER HETA;aSMALL LETTER HETA;aCAPITAL LETTER ARCHAIC SAMPI;
    aSMALL LETTER ARCHAIC SAMPI;aNUMERAL SIGN;aLOWER NUMERAL SIGN;
    aCAPITAL LETTER PAMPHYLIAN DIGAMMA;aSMALL LETTER PAMPHYLIAN DIGAMMA"⟩,
  ⟨0x37a,
   "GREEK YPOGEGRAMMENI;aSMALL REVERSED LUNATE SIGMA SYMBOL;bDOTTED LUNATE SIGMA SYMBOL;
    bREVERSED DOTTED LUNATE SIGMA SYMBOL;aQUESTION MARK;aCAPITAL LETTER YOT"⟩,
  ⟨0x384,
   "GREEK TONOS;aDIALYTIKA TONOS;aCAPITAL LETTER ALPHA WITH TONOS;aANO TELEIA;
    aCAPITAL LETTER EPSILON WITH TONOS;cETA WITH TONOS;cIOTA WITH TONOS"⟩,
  ⟨0x38c, "GREEK CAPITAL LETTER OMICRON WITH TONOS"⟩,
  ⟨0x38e,
   "GREEK CAPITAL LETTER UPSILON WITH TONOS;cOMEGA WITH TONOS;
    aSMALL LETTER IOTA WITH DIALYTIKA AND TONOS;aCAPITAL LETTER ALPHA;cBETA;cGAMMA;cDELTA;
    cEPSILON;cZETA;cETA;cTHETA;cIOTA;cKAPPA;cLAMDA;cMU;cNU;cXI;cOMICRON;cPI;cRHO"⟩,
  ⟨0x3a3,
   "GREEK CAPITAL LETTER SIGMA;cTAU;cUPSILON;cPHI;cCHI;cPSI;cOMEGA;cIOTA WITH DIALYTIKA;
    cUPSILON WITH DIALYTIKA;aSMALL LETTER ALPHA WITH TONOS;cEPSILON WITH TONOS;cETA WITH TONOS;
    cIOTA WITH TONOS;cUPSILON WITH DIALYTIKA AND TONOS;cALPHA;cBETA;cGAMMA;cDELTA;cEPSILON;cZETA;
    cETA;cTHETA;cIOTA;cKAPPA;cLAMDA;cMU;cNU;cXI;cOMICRON;cPI;cRHO;cFINAL SIGMA;cSIGMA;cTAU;
    cUPSILON;cPHI;cCHI;cPSI;cOMEGA;cIOTA WITH DIALYTIKA;cUPSILON WITH DIALYTIKA;
    cOMICRON WITH TONOS;cUPSILON WITH TONOS;cOMEGA WITH TONOS;aCAPITAL KAI SYMBOL;aBETA SYMBOL;
    aTHETA SYMBOL;aUPSILON WITH HOOK SYMBOL;cACUTE AND HOOK SYMBOL;cDIAERESIS AND HOOK SYMBOL;
    aPHI SYMBOL;aPI SYMBOL;aKAI SYMBOL;aLETTER ARCHAIC KOPPA;aSMALL LETTER ARCHAIC KOPPA;
    aLETTER STIGMA;aSMALL LETTER STIGMA;aLETTER DIGAMMA;aSMALL LETTER DIGAMMA;aLETTER KOPPA;
    aSMALL LETTER KOPPA;aLETTER SAMPI;aSMALL LETTER SAMPI;COPTIC CAPITAL LETTER SHEI;
    aSMALL LETTER SHEI;aCAPITAL LETTER FEI;aSMALL LETTER FEI;aCAPITAL LETTER KHEI;
    aSMALL LETTER KHEI;aCAPITAL LETTER HORI;aSMALL LETTER HORI;aCAPITAL LETTER GANGIA;
    aSMALL LETTER GANGIA;aCAPITAL LETTER SHIMA;aSMALL LETTER SHIMA;aCAPITAL LETTER DEI;
    aSMALL LETTER DEI;GREEK KAPPA SYMBOL;aRHO SYMBOL;aLUNATE SIGMA SYMBOL;aLETTER YOT;
    aCAPITAL THETA SYMBOL;aLUNATE EPSILON SYMBOL;aREVERSED LUNATE EPSILON SYMBOL;
    aCAPITAL LETTER SHO;aSMALL LETTER SHO;aCAPITAL LUNATE SIGMA SYMBOL;bLETTER SAN;
    aSMALL LETTER SAN;aRHO WITH STROKE SYMBOL;aCAPITAL REVERSED LUNATE SIGMA SYMBOL;
    bDOTTED LUNATE SIGMA SYMBOL;bREVERSED DOTTED LUNATE SIGMA SYMBOL"⟩,
  ⟨0x400,
   "CYRILLIC CAPITAL LETTER IE WITH GRAVE;cIO;cDJE;cGJE;cUKRAINIAN IE;cDZE;
    cBYELORUSSIAN-UKRAINIAN I;cYI;cJE;cLJE;cNJE;cTSHE;cKJE;cI WITH GRAVE;cSHORT U;cDZHE;cA;cBE;
    cVE;cGHE;cDE;cIE;cZHE;cZE;cI;cSHORT I;cKA;cEL;cEM;cEN;cO;cPE;cER;cES;cTE;cU;cEF;cHA;cTSE;
    cCHE;cSHA;cSHCHA;cHARD SIGN;cYERU;cSOFT SIGN;cE;cYU;cYA;aSMALL LETTER A;cBE;cVE;cGHE;cDE;cIE;
    cZHE;cZE;cI;cSHORT I;cKA;cEL;cEM;cEN;cO;cPE;cER;cES;cTE;cU;cEF;cHA;cTSE;cCHE;cSHA;cSHCHA;
    cHARD SIGN;cYERU;cSOFT SIGN;cE;cYU;cYA;cIE WITH GRAVE;cIO;cDJE;cGJE;cUKRAINIAN IE;cDZE;
    cBYELORUSSIAN-UKRAINIAN I;cYI;cJE;cLJE;cNJE;cTSHE;cKJE;cI WITH GRAVE;cSHORT U;cDZHE;
    aCAPITAL LETTER OMEGA;aSMALL LETTER OMEGA;aCAPITAL LETTER YAT;aSMALL LETTER YAT;
    aCAPITAL LETTER IOTIFIED E;aSMALL LETTER IOTIFIED E;aCAPITAL LETTER LITTLE YUS;
    aSMALL LETTER LITTLE YUS;aCAPITAL LETTER IOTIFIED LITTLE YUS;
    aSMALL LETTER IOTIFIED LITTLE YUS;aCAPITAL LETTER BIG YUS;aSMALL LETTER BIG YUS;
    aCAPITAL LETTER IOTIFIED BIG YUS;aSMALL LETTER IOTIFIED BIG YUS;aCAPITAL LETTER KSI;
    aSMALL LETTER KSI;aCAPITAL LETTER PSI;aSMALL LETTER PSI;aCAPITAL LETTER FITA;
    aSMALL LETTER FITA;aCAPITAL LETTER IZHITSA;aSMALL LETTER IZHITSA;
    aCAPITAL LETTER IZHITSA WITH DOUBLE GRAVE ACCENT;
    aSMALL LETTER IZHITSA WITH DOUBLE GRAVE ACCENT;aCAPITAL LETTER UK;aSMALL LETTER UK;
    aCAPITAL LETTER ROUND OMEGA;aSMALL LETTER ROUND OMEGA;aCAPITAL LETTER OMEGA WITH TITLO;
    aSMALL LETTER OMEGA WITH TITLO;aCAPITAL LETTER OT;aSMALL LETTER OT;aCAPITAL LETTER KOPPA;
    aSMALL LETTER KOPPA;aTHOUSANDS SIGN;COMBINING CYRILLIC TITLO;bPALATALIZATION;bDASIA PNEUMATA;
    bPSILI PNEUMATA;bPOKRYTIE;bHUNDRED THOUSANDS SIGN;bMILLIONS SIGN;
    CYRILLIC CAPITAL LETTER SHORT I WITH TAIL;aSMALL LETTER SHORT I WITH TAIL;
    aCAPITAL LETTER SEMISOFT SIGN;aSMALL LETTER SEMISOFT SIGN;aCAPITAL LETTER ER WITH TICK;
    aSMALL LETTER ER WITH TICK;aCAPITAL LETTER GHE WITH UPTURN;aSMALL LETTER GHE WITH UPTURN;
    aCAPITAL LETTER GHE WITH STROKE;aSMALL LETTER GHE WITH STROKE;
    aCAPITAL LETTER GHE WITH MIDDLE HOOK;aSMALL LETTER GHE WITH MIDDLE HOOK;
    aCAPITAL LETTER ZHE WITH DESCENDER;aSMALL LETTER ZHE WITH DESCENDER;
    aCAPITAL LETTER ZE WITH DESCENDER;aSMALL LETTER ZE WITH DESCENDER;
    aCAPITAL LETTER KA WITH DESCENDER;aSMALL LETTER KA WITH DESCENDER;
    aCAPITAL LETTER KA WITH VERTICAL STROKE;aSMALL LETTER KA WITH VERTICAL STROKE;
    aCAPITAL LETTER KA WITH STROKE;aSMALL LETTER KA WITH STROKE;aCAPITAL LETTER BASHKIR KA;
    aSMALL LETTER BASHKIR KA;aCAPITAL LETTER EN WITH DESCENDER;aSMALL LETTER EN WITH DESCENDER;
    aCAPITAL LIGATURE EN GHE;aSMALL LIGATURE EN GHE;aCAPITAL LETTER PE WITH MIDDLE HOOK;
    aSMALL LETTER PE WITH MIDDLE HOOK;aCAPITAL LETTER ABKHASIAN HA;aSMALL LETTER ABKHASIAN HA;
    aCAPITAL LETTER ES WITH DESCENDER;aSMALL LETTER ES WITH DESCENDER;
    aCAPITAL LETTER TE WITH DESCENDER;aSMALL LETTER TE WITH DESCENDER;aCAPITAL LETTER STRAIGHT U;
    aSMALL LETTER STRAIGHT U;aCAPITAL LETTER STRAIGHT U WITH STROKE;
    aSMALL LETTER STRAIGHT U WITH STROKE;aCAPITAL LETTER HA WITH DESCENDER;
    aSMALL LETTER HA WITH DESCENDER;aCAPITAL LIGATURE TE TSE;aSMALL LIGATURE TE TSE;
    aCAPITAL LETTER CHE WITH DESCENDER;aSMALL LETTER CHE WITH DESCENDER;
    aCAPITAL LETTER CHE WITH VERTICAL STROKE;aSMALL LETTER CHE WITH VERTICAL STROKE;
    aCAPITAL LETTER SHHA;aSMALL LETTER SHHA;aCAPITAL LETTER ABKHASIAN CHE;
    aSMALL LETTER ABKHASIAN CHE;aCAPITAL LETTER ABKHASIAN CHE WITH DESCENDER;
    aSMALL LETTER ABKHASIAN CHE WITH DESCENDER;aLETTER PALOCHKA;aCAPITAL LETTER ZHE WITH BREVE;
    aSMALL LETTER ZHE WITH BREVE;aCAPITAL LETTER KA WITH HOOK;aSMALL LETTER KA WITH HOOK;
    aCAPITAL LETTER EL WITH TAIL;aSMALL LETTER EL WITH TAIL;aCAPITAL LETTER EN WITH HOOK;
    aSMALL LETTER EN WITH HOOK;aCAPITAL LETTER EN WITH TAIL;aSMALL LETTER EN WITH TAIL;
    aCAPITAL LETTER KHAKASSIAN CHE;aSMALL LETTER KHAKASSIAN CHE;aCAPITAL LETTER EM WITH TAIL;
    aSMALL LETTER EM WITH TAIL;cPALOCHKA;aCAPITAL LETTER A WITH BREVE;aSMALL LETTER A WITH BREVE;
    aCAPITAL LETTER A WITH DIAERESIS;aSMALL LETTER A WITH DIAERESIS;aCAPITAL LIGATURE A IE;
    aSMALL LIGATURE A IE;aCAPITAL LETTER IE WITH BREVE;aSMALL LETTER IE WITH BREVE;
    aCAPITAL LETTER SCHWA;aSMALL LETTER SCHWA;aCAPITAL LETTER SCHWA WITH DIAERESIS;
    aSMALL LETTER SCHWA WITH DIAERESIS;aCAPITAL LETTER ZHE WITH DIAERESIS;
    aSMALL LETTER ZHE WITH DIAERESIS;aCAPITAL LETTER ZE WITH DIAERESIS;
    aSMALL LETTER ZE WITH DIAERESIS;aCAPITAL LETTER ABKHASIAN DZE;aSMALL LETTER ABKHASIAN DZE;
    aCAPITAL LETTER I WITH MACRON;aSMALL LETTER I WITH MACRON;aCAPITAL LETTER I WITH DIAERESIS;
    aSMALL LETTER I WITH DIAERESIS;aCAPITAL LETTER O WITH DIAERESIS;
    aSMALL LETTER O WITH DIAERESIS;aCAPITAL LETTER BARRED O;aSMALL LETTER BARRED O;
    aCAPITAL LETTER BARRED O WITH DIAERESIS;aSMALL LETTER BARRED O WITH DIAERESIS;
    aCAPITAL LETTER E WITH DIAERESIS;aSMALL LETTER E WITH DIAERESIS;
    aCAPITAL LETTER U WITH MACRON;aSMALL LETTER U WITH MACRON;aCAPITAL LETTER U WITH DIAERESIS;
    aSMALL LETTER U WITH DIAERESIS;aCAPITAL LETTER U WITH DOUBLE ACUTE;
    aSMALL LETTER U WITH DOUBLE ACUTE;aCAPITAL LETTER CHE WITH DIAERESIS;
    aSMALL LETTER CHE WITH DIAERESIS;aCAPITAL LETTER GHE WITH DESCENDER;
    aSMALL LETTER GHE WITH DESCENDER;aCAPITAL LETTER YERU WITH DIAERESIS;
    aSMALL LETTER YERU WITH DIAERESIS;aCAPITAL LETTER GHE WITH STROKE AND HOOK;
    aSMALL LETTER GHE WITH STROKE AND HOOK;aCAPITAL LETTER HA WITH HOOK;
    aSMALL LETTER HA WITH HOOK;aCAPITAL LETTER HA WITH STROKE;aSMALL LETTER HA WITH STROKE"⟩,
  ⟨0x500,
   "CYRILLIC CAPITAL LETTER KOMI DE;aSMALL LETTER KOMI DE;aCAPITAL LETTER KOMI DJE;
    aSMALL LETTER KOMI DJE;aCAPITAL LETTER KOMI ZJE;aSMALL LETTER KOMI ZJE;
    aCAPITAL LETTER KOMI DZJE;aSMALL LETTER KOMI DZJE;aCAPITAL LETTER KOMI LJE;
    aSMALL LETTER KOMI LJE;aCAPITAL LETTER KOMI NJE;aSMALL LETTER KOMI NJE;
    aCAPITAL LETTER KOMI SJE;aSMALL LETTER KOMI SJE;aCAPITAL LETTER KOMI TJE;
    aSMALL LETTER KOMI TJE;aCAPITAL LETTER REVERSED ZE;aSMALL LETTER REVERSED ZE;
    aCAPITAL LETTER EL WITH HOOK;aSMALL LETTER EL WITH HOOK;aCAPITAL LETTER LHA;
    aSMALL LETTER LHA;aCAPITAL LETTER RHA;aSMALL LETTER RHA;aCAPITAL LETTER YAE;
    aSMALL LETTER YAE;aCAPITAL LETTER QA;aSMALL LETTER QA;aCAPITAL LETTER WE;aSMALL LETTER WE;
    aCAPITAL LETTER ALEUT KA;aSMALL LETTER ALEUT KA;aCAPITAL LETTER EL WITH MIDDLE HOOK;
    aSMALL LETTER EL WITH MIDDLE HOOK;aCAPITAL LETTER EN WITH MIDDLE HOOK;
    aSMALL LETTER EN WITH MIDDLE HOOK;aCAPITAL LETTER PE WITH DESCENDER;
    aSMALL LETTER PE WITH DESCENDER;aCAPITAL LETTER SHHA WITH DESCENDER;
    aSMALL LETTER SHHA WITH DESCENDER;aCAPITAL LETTER EN WITH LEFT HOOK;
    aSMALL LETTER EN WITH LEFT HOOK;aCAPITAL LETTER DZZHE;aSMALL LETTER DZZHE;
    aCAPITAL LETTER DCHE;aSMALL LETTER DCHE;aCAPITAL LETTER EL WITH DESCENDER;
    aSMALL LETTER EL WITH DESCENDER"⟩,
  ⟨0x531,
   "ARMENIAN CAPITAL LETTER AYB;cBEN;cGIM;cDA;cECH;cZA;cEH;cET;cTO;cZHE;cINI;cLIWN;cXEH;cCA;cKEN;
    cHO;cJA;cGHAD;cCHEH;cMEN;cYI;cNOW;cSHA;cVO;cCHA;cPEH;cJHEH;cRA;cSEH;cVEW;cTIWN;cREH;cCO;
    cYIWN;cPIWR;cKEH;cOH;cFEH"⟩,
  ⟨0x559,
   "ARMENIAN MODIFIER LETTER LEFT HALF RING;aAPOSTROPHE;aEMPHASIS MARK;aEXCLAMATION MARK;aCOMMA;
    aQUESTION MARK;aABBREVIATION MARK;aSMALL LETTER TURNED AYB;cAYB;cBEN;cGIM;cDA;cECH;cZA;cEH;
    cET;cTO;cZHE;cINI;cLIWN;cXEH;cCA;cKEN;cHO;cJA;cGHAD;cCHEH;cMEN;cYI;cNOW;cSHA;cVO;cCHA;cPEH;
    cJHEH;cRA;cSEH;cVEW;cTIWN;cREH;cCO;cYIWN;cPIWR;cKEH;cOH;cFEH;bLIGATURE ECH YIWN;
    bLETTER YI WITH STROKE;aFULL STOP;aHYPHEN"⟩,
  ⟨0x58d,
   "RIGHT-FACING ARMENIAN ETERNITY SIGN;LEFT-FACING ARMENIAN ETERNITY SIGN;ARMENIAN DRAM SIGN"⟩]

end StreamLabel.Unicode
