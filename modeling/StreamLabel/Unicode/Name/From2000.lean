import StreamLabel.Unicode.Name.Block

/-!
# Names from U+2000 on

Punctuation, currencies, arrows, operators and other symbols.
-/

namespace StreamLabel.Unicode

def namesFrom2000 : List NameBlock := [
  ⟨0x2000,
   "EN QUAD;EM QUAD;EN SPACE;EM SPACE;THREE-PER-EM SPACE;FOUR-PER-EM SPACE;SIX-PER-EM SPACE;
    FIGURE SPACE;PUNCTUATION SPACE;THIN SPACE;HAIR SPACE;ZERO WIDTH SPACE;bNON-JOINER;bJOINER;
    LEFT-TO-RIGHT MARK;RIGHT-TO-LEFT MARK;HYPHEN;NON-BREAKING HYPHEN;FIGURE DASH;EN DASH;EM DASH;
    HORIZONTAL BAR;DOUBLE VERTICAL LINE;aLOW LINE;LEFT SINGLE QUOTATION MARK;
    RIGHT SINGLE QUOTATION MARK;SINGLE LOW-9 QUOTATION MARK;aHIGH-REVERSED-9 QUOTATION MARK;
    LEFT DOUBLE QUOTATION MARK;RIGHT DOUBLE QUOTATION MARK;DOUBLE LOW-9 QUOTATION MARK;
    aHIGH-REVERSED-9 QUOTATION MARK;DAGGER;DOUBLE DAGGER;BULLET;TRIANGULAR BULLET;ONE DOT LEADER;
    TWO DOT LEADER;HORIZONTAL ELLIPSIS;HYPHENATION POINT;LINE SEPARATOR;PARAGRAPH SEPARATOR;
    LEFT-TO-RIGHT EMBEDDING;RIGHT-TO-LEFT EMBEDDING;POP DIRECTIONAL FORMATTING;
    LEFT-TO-RIGHT OVERRIDE;RIGHT-TO-LEFT OVERRIDE;NARROW NO-BREAK SPACE;PER MILLE SIGN;
    aTEN THOUSAND SIGN;PRIME;DOUBLE PRIME;TRIPLE PRIME;REVERSED PRIME;aDOUBLE PRIME;
    aTRIPLE PRIME;CARET;SINGLE LEFT-POINTING ANGLE QUOTATION MARK;
    aRIGHT-POINTING ANGLE QUOTATION MARK;REFERENCE MARK;DOUBLE EXCLAMATION MARK;INTERROBANG;
    OVERLINE;UNDERTIE;CHARACTER TIE;CARET INSERTION POINT;ASTERISM;HYPHEN BULLET;FRACTION SLASH;
    LEFT SQUARE BRACKET WITH QUILL;RIGHT SQUARE BRACKET WITH QUILL;DOUBLE QUESTION MARK;
    QUESTION EXCLAMATION MARK;EXCLAMATION QUESTION MARK;TIRONIAN SIGN ET;REVERSED PILCROW SIGN;
    BLACK LEFTWARDS BULLET;aRIGHTWARDS BULLET;LOW ASTERISK;REVERSED SEMICOLON;CLOSE UP;
    TWO ASTERISKS ALIGNED VERTICALLY;COMMERCIAL MINUS SIGN;SWUNG DASH;INVERTED UNDERTIE;
    FLOWER PUNCTUATION MARK;THREE DOT PUNCTUATION;QUADRUPLE PRIME;FOUR DOT PUNCTUATION;
    FIVE DOT PUNCTUATION;TWO DOT PUNCTUATION;FOUR DOT MARK;DOTTED CROSS;TRICOLON;
    VERTICAL FOUR DOTS;MEDIUM MATHEMATICAL SPACE;WORD JOINER;FUNCTION APPLICATION;
    INVISIBLE TIMES;aSEPARATOR;aPLUS"⟩,
  ⟨0x2066,
   "LEFT-TO-RIGHT ISOLATE;RIGHT-TO-LEFT ISOLATE;FIRST STRONG ISOLATE;POP DIRECTIONAL ISOLATE;
    INHIBIT SYMMETRIC SWAPPING;ACTIVATE SYMMETRIC SWAPPING;INHIBIT ARABIC FORM SHAPING;
    ACTIVATE ARABIC FORM SHAPING;NATIONAL DIGIT SHAPES;NOMINAL DIGIT SHAPES;SUPERSCRIPT ZERO;
    aLATIN SMALL LETTER I"⟩,
  ⟨0x2074,
   "SUPERSCRIPT FOUR;aFIVE;aSIX;aSEVEN;aEIGHT;aNINE;aPLUS SIGN;aMINUS;aEQUALS SIGN;
    aLEFT PARENTHESIS;aRIGHT PARENTHESIS;aLATIN SMALL LETTER N;SUBSCRIPT ZERO;aONE;aTWO;aTHREE;
    aFOUR;aFIVE;aSIX;aSEVEN;aEIGHT;aNINE;aPLUS SIGN;aMINUS;aEQUALS SIGN;aLEFT PARENTHESIS;
    aRIGHT PARENTHESIS"⟩,
  ⟨0x2090, "LATIN SUBSCRIPT SMALL LETTER A;dE;dO;dX;dSCHWA;dH;dK;dL;dM;dN;dP;dS;dT"⟩,
  ⟨0x20a0,
   "EURO-CURRENCY SIGN;COLON SIGN;CRUZEIRO SIGN;FRENCH FRANC SIGN;LIRA SIGN;MILL SIGN;NAIRA SIGN;
    PESETA SIGN;RUPEE SIGN;WON SIGN;NEW SHEQEL SIGN;DONG SIGN;EURO SIGN;KIP SIGN;TUGRIK SIGN;
    DRACHMA SIGN;GERMAN PENNY SIGN;PESO SIGN;GUARANI SIGN;AUSTRAL SIGN;HRYVNIA SIGN;CEDI SIGN;
    LIVRE TOURNOIS SIGN;SPESMILO SIGN;TENGE SIGN;INDIAN RUPEE SIGN;TURKISH LIRA SIGN;
    NORDIC MARK SIGN;MANAT SIGN;RUBLE SIGN;LARI SIGN;BITCOIN SIGN;SOM SIGN"⟩,
  ⟨0x20d0,
   "COMBINING LEFT HARPOON ABOVE;aRIGHT HARPOON ABOVE;aLONG VERTICAL LINE OVERLAY;
    aSHORT VERTICAL LINE OVERLAY;aANTICLOCKWISE ARROW ABOVE;aCLOCKWISE ARROW ABOVE;
    aLEFT ARROW ABOVE;aRIGHT ARROW ABOVE;aRING OVERLAY;aCLOCKWISE RING OVERLAY;
    aANTICLOCKWISE RING OVERLAY;aTHREE DOTS ABOVE;aFOUR DOTS ABOVE;aENCLOSING CIRCLE;bSQUARE;
    bDIAMOND;bCIRCLE BACKSLASH;aLEFT RIGHT ARROW ABOVE;aENCLOSING SCREEN;bKEYCAP;
    bUPWARD POINTING TRIANGLE;aREVERSE SOLIDUS OVERLAY;aDOUBLE VERTICAL STROKE OVERLAY;
    aANNUITY SYMBOL;aTRIPLE UNDERDOT;aWIDE BRIDGE ABOVE;aLEFTWARDS ARROW OVERLAY;
    aLONG DOUBLE SOLIDUS OVERLAY;aRIGHTWARDS HARPOON WITH BARB DOWNWARDS;
    aLEFTWARDS HARPOON WITH BARB DOWNWARDS;aLEFT ARROW BELOW;aRIGHT ARROW BELOW;aASTERISK ABOVE"⟩,
  ⟨0x2100,
   "ACCOUNT OF;ADDRESSED TO THE SUBJECT;DOUBLE-STRUCK CAPITAL C;DEGREE CELSIUS;
    CENTRE LINE SYMBOL;CARE OF;CADA UNA;EULER CONSTANT;SCRUPLE;DEGREE FAHRENHEIT;SCRIPT SMALL G;
    aCAPITAL H;BLACK-LETTER CAPITAL H;DOUBLE-STRUCK CAPITAL H;PLANCK CONSTANT;bOVER TWO PI;
    SCRIPT CAPITAL I;BLACK-LETTER CAPITAL I;SCRIPT CAPITAL L;aSMALL L;L B BAR SYMBOL;
    DOUBLE-STRUCK CAPITAL N;NUMERO SIGN;SOUND RECORDING COPYRIGHT;SCRIPT CAPITAL P;
    DOUBLE-STRUCK CAPITAL P;bQ;SCRIPT CAPITAL R;BLACK-LETTER CAPITAL R;DOUBLE-STRUCK CAPITAL R;
    PRESCRIPTION TAKE;RESPONSE;SERVICE MARK;TELEPHONE SIGN;TRADE MARK SIGN;VERSICLE;
    DOUBLE-STRUCK CAPITAL Z;OUNCE SIGN;OHM SIGN;INVERTED OHM SIGN;BLACK-LETTER CAPITAL Z;
    TURNED GREEK SMALL LETTER IOTA;KELVIN SIGN;ANGSTROM SIGN;SCRIPT CAPITAL B;
    BLACK-LETTER CAPITAL C;ESTIMATED SYMBOL;SCRIPT SMALL E;aCAPITAL E;bF;TURNED CAPITAL F;
    SCRIPT CAPITAL M;aSMALL O;ALEF SYMBOL;BET SYMBOL;GIMEL SYMBOL;DALET SYMBOL;
    INFORMATION SOURCE;ROTATED CAPITAL Q;FACSIMILE SIGN;DOUBLE-STRUCK SMALL PI;bGAMMA;
    aCAPITAL GAMMA;bPI;aN-ARY SUMMATION;TURNED SANS-SERIF CAPITAL G;cL;
    REVERSED SANS-SERIF CAPITAL L;TURNED SANS-SERIF CAPITAL Y;DOUBLE-STRUCK ITALIC CAPITAL D;
    bSMALL D;cE;cI;cJ;PROPERTY LINE;TURNED AMPERSAND;PER SIGN;AKTIESELSKAB;TURNED SMALL F;
    SYMBOL FOR SAMARITAN SOURCE;VULGAR FRACTION ONE SEVENTH;cNINTH;cTENTH;cTHIRD;bTWO THIRDS;
    bONE FIFTH;bTWO FIFTHS;bTHREE FIFTHS;bFOUR FIFTHS;bONE SIXTH;bFIVE SIXTHS;bONE EIGHTH;
    bTHREE EIGHTHS;bFIVE EIGHTHS;bSEVEN EIGHTHS;FRACTION NUMERATOR ONE;ROMAN NUMERAL ONE;bTWO;
    bTHREE;bFOUR;bFIVE;bSIX;bSEVEN;bEIGHT;bNINE;bTEN;bELEVEN;bTWELVE;bFIFTY;bONE HUNDRED;
    bFIVE HUNDRED;bONE THOUSAND;SMALL ROMAN NUMERAL ONE;cTWO;cTHREE;cFOUR;cFIVE;cSIX;cSEVEN;
    cEIGHT;cNINE;cTEN;cELEVEN;cTWELVE;cFIFTY;cONE HUNDRED;cFIVE HUNDRED;cONE THOUSAND;
    ROMAN NUMERAL ONE THOUSAND C D;bFIVE THOUSAND;bTEN THOUSAND;bREVERSED ONE HUNDRED;
    LATIN SMALL LETTER REVERSED C;ROMAN NUMERAL SIX LATE FORM;bFIFTY EARLY FORM;cTHOUSAND;
    bONE HUNDRED THOUSAND;VULGAR FRACTION ZERO THIRDS;TURNED DIGIT TWO;bTHREE"⟩,
  ⟨0x2190,
   "LEFTWARDS ARROW;UPWARDS ARROW;RIGHTWARDS ARROW;DOWNWARDS ARROW;LEFT RIGHT ARROW;
    UP DOWN ARROW;NORTH WEST ARROW;aEAST ARROW;SOUTH EAST ARROW;aWEST ARROW;
    LEFTWARDS ARROW WITH STROKE;RIGHTWARDS ARROW WITH STROKE;LEFTWARDS WAVE ARROW;
    RIGHTWARDS WAVE ARROW;LEFTWARDS TWO HEADED ARROW;UPWARDS TWO HEADED ARROW;
    RIGHTWARDS TWO HEADED ARROW;DOWNWARDS TWO HEADED ARROW;LEFTWARDS ARROW WITH TAIL;
    RIGHTWARDS ARROW WITH TAIL;LEFTWARDS ARROW FROM BAR;UPWARDS ARROW FROM BAR;
    RIGHTWARDS ARROW FROM BAR;DOWNWARDS ARROW FROM BAR;UP DOWN ARROW WITH BASE;
    LEFTWARDS ARROW WITH HOOK;RIGHTWARDS ARROW WITH HOOK;LEFTWARDS ARROW WITH LOOP;
    RIGHTWARDS ARROW WITH LOOP;LEFT RIGHT WAVE ARROW;bARROW WITH STROKE;DOWNWARDS ZIGZAG ARROW;
    UPWARDS ARROW WITH TIP LEFTWARDS;dRIGHTWARDS;DOWNWARDS ARROW WITH TIP LEFTWARDS;dRIGHTWARDS;
    RIGHTWARDS ARROW WITH CORNER DOWNWARDS;DOWNWARDS ARROW WITH CORNER LEFTWARDS;
    ANTICLOCKWISE TOP SEMICIRCLE ARROW;CLOCKWISE TOP SEMICIRCLE ARROW;
    NORTH WEST ARROW TO LONG BAR;LEFTWARDS ARROW TO BAR OVER RIGHTWARDS ARROW TO BAR;
    ANTICLOCKWISE OPEN CIRCLE ARROW;CLOCKWISE OPEN CIRCLE ARROW;
    LEFTWARDS HARPOON WITH BARB UPWARDS;dDOWNWARDS;UPWARDS HARPOON WITH BARB RIGHTWARDS;
    dLEFTWARDS;RIGHTWARDS HARPOON WITH BARB UPWARDS;dDOWNWARDS;
    DOWNWARDS HARPOON WITH BARB RIGHTWARDS;dLEFTWARDS;RIGHTWARDS ARROW OVER LEFTWARDS ARROW;
    UPWARDS ARROW LEFTWARDS OF DOWNWARDS ARROW;LEFTWARDS ARROW OVER RIGHTWARDS ARROW;
    aPAIRED ARROWS;UPWARDS PAIRED ARROWS;RIGHTWARDS PAIRED ARROWS;DOWNWARDS PAIRED ARROWS;
    LEFTWARDS HARPOON OVER RIGHTWARDS HARPOON;RIGHTWARDS HARPOON OVER LEFTWARDS HARPOON;
    LEFTWARDS DOUBLE ARROW WITH STROKE;LEFT RIGHT DOUBLE ARROW WITH STROKE;
    RIGHTWARDS DOUBLE ARROW WITH STROKE;LEFTWARDS DOUBLE ARROW;UPWARDS DOUBLE ARROW;
    RIGHTWARDS DOUBLE ARROW;DOWNWARDS DOUBLE ARROW;LEFT RIGHT DOUBLE ARROW;UP DOWN DOUBLE ARROW;
    NORTH WEST DOUBLE ARROW;aEAST DOUBLE ARROW;SOUTH EAST DOUBLE ARROW;aWEST DOUBLE ARROW;
    LEFTWARDS TRIPLE ARROW;RIGHTWARDS TRIPLE ARROW;LEFTWARDS SQUIGGLE ARROW;
    RIGHTWARDS SQUIGGLE ARROW;UPWARDS ARROW WITH DOUBLE STROKE;
    DOWNWARDS ARROW WITH DOUBLE STROKE;LEFTWARDS DASHED ARROW;UPWARDS DASHED ARROW;
    RIGHTWARDS DASHED ARROW;DOWNWARDS DASHED ARROW;LEFTWARDS ARROW TO BAR;
    RIGHTWARDS ARROW TO BAR;LEFTWARDS WHITE ARROW;UPWARDS WHITE ARROW;RIGHTWARDS WHITE ARROW;
    DOWNWARDS WHITE ARROW;UPWARDS WHITE ARROW FROM BAR;cON PEDESTAL;eWITH HORIZONTAL BAR;
    fVERTICAL BAR;bDOUBLE ARROW;dON PEDESTAL;RIGHTWARDS WHITE ARROW FROM WALL;
    NORTH WEST ARROW TO CORNER;SOUTH EAST ARROW TO CORNER;UP DOWN WHITE ARROW;
    RIGHT ARROW WITH SMALL CIRCLE;DOWNWARDS ARROW LEFTWARDS OF UPWARDS ARROW;
    THREE RIGHTWARDS ARROWS;LEFTWARDS ARROW WITH VERTICAL STROKE;
    RIGHTWARDS ARROW WITH VERTICAL STROKE;LEFT RIGHT ARROW WITH VERTICAL STROKE;
    LEFTWARDS ARROW WITH DOUBLE VERTICAL STROKE;RIGHTWARDS ARROW WITH DOUBLE VERTICAL STROKE;
    LEFT RIGHT ARROW WITH DOUBLE VERTICAL STROKE;LEFTWARDS OPEN-HEADED ARROW;
    RIGHTWARDS OPEN-HEADED ARROW;LEFT RIGHT OPEN-HEADED ARROW"⟩,
  ⟨0x2200,
   "FOR ALL;COMPLEMENT;PARTIAL DIFFERENTIAL;THERE EXISTS;aDOES NOT EXIST;EMPTY SET;INCREMENT;
    NABLA;ELEMENT OF;NOT AN ELEMENT OF;SMALL ELEMENT OF;CONTAINS AS MEMBER;
    DOES NOT CONTAIN AS MEMBER;SMALL CONTAINS AS MEMBER;END OF PROOF;N-ARY PRODUCT;aCOPRODUCT;
    aSUMMATION;MINUS SIGN;MINUS-OR-PLUS SIGN;DOT PLUS;DIVISION SLASH;SET MINUS;ASTERISK OPERATOR;
    RING OPERATOR;BULLET OPERATOR;SQUARE ROOT;CUBE ROOT;FOURTH ROOT;PROPORTIONAL TO;INFINITY;
    RIGHT ANGLE;ANGLE;MEASURED ANGLE;SPHERICAL ANGLE;DIVIDES;DOES NOT DIVIDE;PARALLEL TO;
    NOT PARALLEL TO;LOGICAL AND;aOR;INTERSECTION;UNION;INTEGRAL;DOUBLE INTEGRAL;TRIPLE INTEGRAL;
    CONTOUR INTEGRAL;SURFACE INTEGRAL;VOLUME INTEGRAL;CLOCKWISE INTEGRAL;aCONTOUR INTEGRAL;
    ANTICLOCKWISE CONTOUR INTEGRAL;THEREFORE;BECAUSE;RATIO;PROPORTION;DOT MINUS;EXCESS;
    GEOMETRIC PROPORTION;HOMOTHETIC;TILDE OPERATOR;REVERSED TILDE;INVERTED LAZY S;SINE WAVE;
    WREATH PRODUCT;NOT TILDE;MINUS TILDE;ASYMPTOTICALLY EQUAL TO;NOT ASYMPTOTICALLY EQUAL TO;
    APPROXIMATELY EQUAL TO;aBUT NOT ACTUALLY EQUAL TO;
    NEITHER APPROXIMATELY NOR ACTUALLY EQUAL TO;ALMOST EQUAL TO;NOT ALMOST EQUAL TO;
    ALMOST EQUAL OR EQUAL TO;TRIPLE TILDE;ALL EQUAL TO;EQUIVALENT TO;GEOMETRICALLY EQUIVALENT TO;
    DIFFERENCE BETWEEN;APPROACHES THE LIMIT;GEOMETRICALLY EQUAL TO;
    APPROXIMATELY EQUAL TO OR THE IMAGE OF;IMAGE OF OR APPROXIMATELY EQUAL TO;COLON EQUALS;
    EQUALS COLON;RING IN EQUAL TO;aEQUAL TO;CORRESPONDS TO;ESTIMATES;EQUIANGULAR TO;STAR EQUALS;
    DELTA EQUAL TO;EQUAL TO BY DEFINITION;MEASURED BY;QUESTIONED EQUAL TO;NOT EQUAL TO;
    IDENTICAL TO;NOT IDENTICAL TO;STRICTLY EQUIVALENT TO;LESS-THAN OR EQUAL TO;
    GREATER-THAN OR EQUAL TO;LESS-THAN OVER EQUAL TO;GREATER-THAN OVER EQUAL TO;
    LESS-THAN BUT NOT EQUAL TO;GREATER-THAN BUT NOT EQUAL TO;MUCH LESS-THAN;aGREATER-THAN;
    BETWEEN;NOT EQUIVALENT TO;aLESS-THAN;aGREATER-THAN;NEITHER LESS-THAN NOR EQUAL TO;
    aGREATER-THAN NOR EQUAL TO;LESS-THAN OR EQUIVALENT TO;GREATER-THAN OR EQUIVALENT TO;
    NEITHER LESS-THAN NOR EQUIVALENT TO;aGREATER-THAN NOR EQUIVALENT TO;
    LESS-THAN OR GREATER-THAN;GREATER-THAN OR LESS-THAN;NEITHER LESS-THAN NOR GREATER-THAN;
    aGREATER-THAN NOR LESS-THAN;PRECEDES;SUCCEEDS;PRECEDES OR EQUAL TO;SUCCEEDS OR EQUAL TO;
    PRECEDES OR EQUIVALENT TO;SUCCEEDS OR EQUIVALENT TO;DOES NOT PRECEDE;bSUCCEED;SUBSET OF;
    SUPERSET OF;NOT A SUBSET OF;bSUPERSET OF;SUBSET OF OR EQUAL TO;SUPERSET OF OR EQUAL TO;
    NEITHER A SUBSET OF NOR EQUAL TO;bSUPERSET OF NOR EQUAL TO;SUBSET OF WITH NOT EQUAL TO;
    SUPERSET OF WITH NOT EQUAL TO;MULTISET;aMULTIPLICATION;aUNION;SQUARE IMAGE OF;aORIGINAL OF;
    aIMAGE OF OR EQUAL TO;aORIGINAL OF OR EQUAL TO;aCAP;aCUP;CIRCLED PLUS;aMINUS;aTIMES;
    aDIVISION SLASH;aDOT OPERATOR;aRING OPERATOR;aASTERISK OPERATOR;aEQUALS;aDASH;SQUARED PLUS;
    aMINUS;aTIMES;aDOT OPERATOR;RIGHT TACK;LEFT TACK;DOWN TACK;UP TACK;ASSERTION;MODELS;TRUE;
    FORCES;TRIPLE VERTICAL BAR RIGHT TURNSTILE;DOUBLE VERTICAL BAR DOUBLE RIGHT TURNSTILE;
    DOES NOT PROVE;NOT TRUE;DOES NOT FORCE;NEGATED DOUBLE VERTICAL BAR DOUBLE RIGHT TURNSTILE;
    PRECEDES UNDER RELATION;SUCCEEDS UNDER RELATION;NORMAL SUBGROUP OF;
    CONTAINS AS NORMAL SUBGROUP;NORMAL SUBGROUP OF OR EQUAL TO;
    CONTAINS AS NORMAL SUBGROUP OR EQUAL TO;ORIGINAL OF;IMAGE OF;MULTIMAP;
    HERMITIAN CONJUGATE MATRIX;INTERCALATE;XOR;NAND;NOR;RIGHT ANGLE WITH ARC;aTRIANGLE;
    N-ARY LOGICAL AND;bOR;aINTERSECTION;aUNION;DIAMOND OPERATOR;DOT OPERATOR;STAR OPERATOR;
    DIVISION TIMES;BOWTIE;LEFT NORMAL FACTOR SEMIDIRECT PRODUCT;
    RIGHT NORMAL FACTOR SEMIDIRECT PRODUCT;LEFT SEMIDIRECT PRODUCT;RIGHT SEMIDIRECT PRODUCT;
    REVERSED TILDE EQUALS;CURLY LOGICAL OR;bAND;DOUBLE SUBSET;aSUPERSET;aINTERSECTION;aUNION;
    PITCHFORK;EQUAL AND PARALLEL TO;LESS-THAN WITH DOT;GREATER-THAN WITH DOT;VERY MUCH LESS-THAN;
    bGREATER-THAN;LESS-THAN EQUAL TO OR GREATER-THAN;GREATER-THAN EQUAL TO OR LESS-THAN;
    EQUAL TO OR LESS-THAN;cGREATER-THAN;cPRECEDES;cSUCCEEDS;DOES NOT PRECEDE OR EQUAL;
    bSUCCEED OR EQUAL;NOT SQUARE IMAGE OF OR EQUAL TO;bORIGINAL OF OR EQUAL TO;
    SQUARE IMAGE OF OR NOT EQUAL TO;aORIGINAL OF OR NOT EQUAL TO;LESS-THAN BUT NOT EQUIVALENT TO;
    GREATER-THAN BUT NOT EQUIVALENT TO;PRECEDES BUT NOT EQUIVALENT TO;
    SUCCEEDS BUT NOT EQUIVALENT TO;NOT NORMAL SUBGROUP OF;DOES NOT CONTAIN AS NORMAL SUBGROUP;
    NOT NORMAL SUBGROUP OF OR EQUAL TO;DOES NOT CONTAIN AS NORMAL SUBGROUP OR EQUAL;
    VERTICAL ELLIPSIS;MIDLINE HORIZONTAL ELLIPSIS;UP RIGHT DIAGONAL ELLIPSIS;
    DOWN RIGHT DIAGONAL ELLIPSIS;ELEMENT OF WITH LONG HORIZONTAL STROKE;
    cVERTICAL BAR AT END OF HORIZONTAL STROKE;
    SMALL ELEMENT OF WITH VERTICAL BAR AT END OF HORIZONTAL STROKE;ELEMENT OF WITH DOT ABOVE;
    cOVERBAR;SMALL ELEMENT OF WITH OVERBAR;ELEMENT OF WITH UNDERBAR;cTWO HORIZONTAL STROKES;
    CONTAINS WITH LONG HORIZONTAL STROKE;bVERTICAL BAR AT END OF HORIZONTAL STROKE;
    SMALL CONTAINS WITH VERTICAL BAR AT END OF HORIZONTAL STROKE;CONTAINS WITH OVERBAR;
    SMALL CONTAINS WITH OVERBAR;Z NOTATION BAG MEMBERSHIP"⟩,
  ⟨0x2300,
   "DIAMETER SIGN;ELECTRIC ARROW;HOUSE;UP ARROWHEAD;DOWN ARROWHEAD;PROJECTIVE;PERSPECTIVE;
    WAVY LINE;LEFT CEILING;RIGHT CEILING;LEFT FLOOR;RIGHT FLOOR;BOTTOM RIGHT CROP;aLEFT CROP;
    TOP RIGHT CROP;aLEFT CROP;REVERSED NOT SIGN;SQUARE LOZENGE;ARC;SEGMENT;SECTOR;
    TELEPHONE RECORDER;POSITION INDICATOR;VIEWDATA SQUARE;PLACE OF INTEREST SIGN;TURNED NOT SIGN;
    WATCH;HOURGLASS;TOP LEFT CORNER;aRIGHT CORNER;BOTTOM LEFT CORNER;aRIGHT CORNER;
    TOP HALF INTEGRAL;BOTTOM HALF INTEGRAL;FROWN;SMILE;UP ARROWHEAD BETWEEN TWO HORIZONTAL BARS;
    OPTION KEY;ERASE TO THE RIGHT;X IN A RECTANGLE BOX;KEYBOARD;LEFT-POINTING ANGLE BRACKET;
    RIGHT-POINTING ANGLE BRACKET;ERASE TO THE LEFT;BENZENE RING;CYLINDRICITY;ALL AROUND-PROFILE;
    SYMMETRY;TOTAL RUNOUT;DIMENSION ORIGIN;CONICAL TAPER;SLOPE;COUNTERBORE;COUNTERSINK;
    APL FUNCTIONAL SYMBOL I-BEAM;cSQUISH QUAD;cQUAD EQUAL;dDIVIDE;dDIAMOND;dJOT;dCIRCLE;
    cCIRCLE STILE;dJOT;cSLASH BAR;cBACKSLASH BAR;cQUAD SLASH;dBACKSLASH;dLESS-THAN;dGREATER-THAN;
    cLEFTWARDS VANE;cRIGHTWARDS VANE;cQUAD LEFTWARDS ARROW;dRIGHTWARDS ARROW;cCIRCLE BACKSLASH;
    cDOWN TACK UNDERBAR;cDELTA STILE;cQUAD DOWN CARET;dDELTA;cDOWN TACK JOT;cUPWARDS VANE;
    cQUAD UPWARDS ARROW;cUP TACK OVERBAR;cDEL STILE;cQUAD UP CARET;dDEL;cUP TACK JOT;
    cDOWNWARDS VANE;cQUAD DOWNWARDS ARROW;cQUOTE UNDERBAR;cDELTA UNDERBAR;cDIAMOND UNDERBAR;
    cJOT UNDERBAR;cCIRCLE UNDERBAR;cUP SHOE JOT;cQUOTE QUAD;cCIRCLE STAR;cQUAD COLON;
    cUP TACK DIAERESIS;cDEL DIAERESIS;cSTAR DIAERESIS;cJOT DIAERESIS;cCIRCLE DIAERESIS;
    cDOWN SHOE STILE;cLEFT SHOE STILE;cTILDE DIAERESIS;cGREATER-THAN DIAERESIS;cCOMMA BAR;
    cDEL TILDE;cZILDE;cSTILE TILDE;cSEMICOLON UNDERBAR;cQUAD NOT EQUAL;dQUESTION;
    cDOWN CARET TILDE;cUP CARET TILDE;cIOTA;cRHO;cOMEGA;cALPHA UNDERBAR;cEPSILON UNDERBAR;
    cIOTA UNDERBAR;cOMEGA UNDERBAR;cALPHA;NOT CHECK MARK;RIGHT ANGLE WITH DOWNWARDS ZIGZAG ARROW;
    SHOULDERED OPEN BOX;BELL SYMBOL;VERTICAL LINE WITH MIDDLE DOT;INSERTION SYMBOL;
    CONTINUOUS UNDERLINE SYMBOL;DISCONTINUOUS UNDERLINE SYMBOL;EMPHASIS SYMBOL;
    COMPOSITION SYMBOL;WHITE SQUARE WITH CENTRE VERTICAL LINE;ENTER SYMBOL;
    ALTERNATIVE KEY SYMBOL;HELM SYMBOL;CIRCLED HORIZONTAL BAR WITH NOTCH;aTRIANGLE DOWN;
    BROKEN CIRCLE WITH NORTHWEST ARROW;UNDO SYMBOL;MONOSTABLE SYMBOL;HYSTERESIS SYMBOL;
    OPEN-CIRCUIT-OUTPUT H-TYPE SYMBOL;aL-TYPE SYMBOL;PASSIVE-PULL-DOWN-OUTPUT SYMBOL;
    PASSIVE-PULL-UP-OUTPUT SYMBOL;DIRECT CURRENT SYMBOL FORM TWO;SOFTWARE-FUNCTION SYMBOL;
    APL FUNCTIONAL SYMBOL QUAD;DECIMAL SEPARATOR KEY SYMBOL;PREVIOUS PAGE;NEXT PAGE;
    PRINT SCREEN SYMBOL;CLEAR SCREEN SYMBOL;LEFT PARENTHESIS UPPER HOOK;bEXTENSION;bLOWER HOOK;
    RIGHT PARENTHESIS UPPER HOOK;bEXTENSION;bLOWER HOOK;LEFT SQUARE BRACKET UPPER CORNER;
    cEXTENSION;cLOWER CORNER;RIGHT SQUARE BRACKET UPPER CORNER;cEXTENSION;cLOWER CORNER;
    LEFT CURLY BRACKET UPPER HOOK;cMIDDLE PIECE;cLOWER HOOK;CURLY BRACKET EXTENSION;
    RIGHT CURLY BRACKET UPPER HOOK;cMIDDLE PIECE;cLOWER HOOK;INTEGRAL EXTENSION;
    HORIZONTAL LINE EXTENSION;UPPER LEFT OR LOWER RIGHT CURLY BRACKET SECTION;
    aRIGHT OR LOWER LEFT CURLY BRACKET SECTION;SUMMATION TOP;aBOTTOM;TOP SQUARE BRACKET;
    BOTTOM SQUARE BRACKET;cOVER TOP SQUARE BRACKET;RADICAL SYMBOL BOTTOM;LEFT VERTICAL BOX LINE;
    RIGHT VERTICAL BOX LINE;HORIZONTAL SCAN LINE-1;bLINE-3;bLINE-7;bLINE-9;
    DENTISTRY SYMBOL LIGHT VERTICAL AND TOP RIGHT;eBOTTOM RIGHT;dWITH CIRCLE;
    cDOWN AND HORIZONTAL WITH CIRCLE;cUP AND HORIZONTAL WITH CIRCLE;cVERTICAL WITH TRIANGLE;
    cDOWN AND HORIZONTAL WITH TRIANGLE;cUP AND HORIZONTAL WITH TRIANGLE;cVERTICAL AND WAVE;
    cDOWN AND HORIZONTAL WITH WAVE;cUP AND HORIZONTAL WITH WAVE;cDOWN AND HORIZONTAL;
    cUP AND HORIZONTAL;cVERTICAL AND TOP LEFT;eBOTTOM LEFT;SQUARE FOOT;RETURN SYMBOL;
    EJECT SYMBOL;VERTICAL LINE EXTENSION;METRICAL BREVE;aLONG OVER SHORT;aSHORT OVER LONG;
    aLONG OVER TWO SHORTS;aTWO SHORTS OVER LONG;cJOINED;aTRISEME;aTETRASEME;aPENTASEME;
    EARTH GROUND;FUSE;TOP PARENTHESIS;BOTTOM PARENTHESIS;TOP CURLY BRACKET;BOTTOM CURLY BRACKET;
    TOP TORTOISE SHELL BRACKET;BOTTOM TORTOISE SHELL BRACKET;WHITE TRAPEZIUM;
    BENZENE RING WITH CIRCLE;STRAIGHTNESS;FLATNESS;AC CURRENT;ELECTRICAL INTERSECTION;
    DECIMAL EXPONENT SYMBOL;BLACK RIGHT-POINTING DOUBLE TRIANGLE;aLEFT-POINTING DOUBLE TRIANGLE;
    aUP-POINTING DOUBLE TRIANGLE;aDOWN-POINTING DOUBLE TRIANGLE;
    aRIGHT-POINTING DOUBLE TRIANGLE WITH VERTICAL BAR;
    aLEFT-POINTING DOUBLE TRIANGLE WITH VERTICAL BAR;
    aRIGHT-POINTING TRIANGLE WITH DOUBLE VERTICAL BAR;ALARM CLOCK;STOPWATCH;TIMER CLOCK;
    HOURGLASS WITH FLOWING SAND;BLACK MEDIUM LEFT-POINTING TRIANGLE;bRIGHT-POINTING TRIANGLE;
    bUP-POINTING TRIANGLE;bDOWN-POINTING TRIANGLE;DOUBLE VERTICAL BAR;BLACK SQUARE FOR STOP;
    aCIRCLE FOR RECORD;POWER SYMBOL;aON-OFF SYMBOL;aON SYMBOL;aSLEEP SYMBOL;OBSERVER EYE SYMBOL"⟩,
  ⟨0x2400,
   "SYMBOL FOR NULL;bSTART OF HEADING;dTEXT;bEND OF TEXT;dTRANSMISSION;bENQUIRY;bACKNOWLEDGE;
    bBELL;bBACKSPACE;bHORIZONTAL TABULATION;bLINE FEED;bVERTICAL TABULATION;bFORM FEED;
    bCARRIAGE RETURN;bSHIFT OUT;cIN;bDATA LINK ESCAPE;bDEVICE CONTROL ONE;dTWO;dTHREE;dFOUR;
    bNEGATIVE ACKNOWLEDGE;bSYNCHRONOUS IDLE;bEND OF TRANSMISSION BLOCK;bCANCEL;bEND OF MEDIUM;
    bSUBSTITUTE;bESCAPE;bFILE SEPARATOR;bGROUP SEPARATOR;bRECORD SEPARATOR;bUNIT SEPARATOR;
    bSPACE;bDELETE;BLANK SYMBOL;OPEN BOX;SYMBOL FOR NEWLINE;bDELETE FORM TWO;bSUBSTITUTE FORM TWO"⟩,
  ⟨0x2440,
   "OCR HOOK;aCHAIR;aFORK;aINVERTED FORK;aBELT BUCKLE;aBOW TIE;aBRANCH BANK IDENTIFICATION;
    aAMOUNT OF CHECK;aDASH;aCUSTOMER ACCOUNT NUMBER;aDOUBLE BACKSLASH"⟩,
  ⟨0x2460,
   "CIRCLED DIGIT ONE;bTWO;bTHREE;bFOUR;bFIVE;bSIX;bSEVEN;bEIGHT;bNINE;aNUMBER TEN;bELEVEN;
    bTWELVE;bTHIRTEEN;bFOURTEEN;bFIFTEEN;bSIXTEEN;bSEVENTEEN;bEIGHTEEN;bNINETEEN;bTWENTY;
    PARENTHESIZED DIGIT ONE;bTWO;bTHREE;bFOUR;bFIVE;bSIX;bSEVEN;bEIGHT;bNINE;aNUMBER TEN;bELEVEN;
    bTWELVE;bTHIRTEEN;bFOURTEEN;bFIFTEEN;bSIXTEEN;bSEVENTEEN;bEIGHTEEN;bNINETEEN;bTWENTY;
    DIGIT ONE FULL STOP;aTWO FULL STOP;aTHREE FULL STOP;aFOUR FULL STOP;aFIVE FULL STOP;
    aSIX FULL STOP;aSEVEN FULL STOP;aEIGHT FULL STOP;aNINE FULL STOP;NUMBER TEN FULL STOP;
    aELEVEN FULL STOP;aTWELVE FULL STOP;aTHIRTEEN FULL STOP;aFOURTEEN FULL STOP;
    aFIFTEEN FULL STOP;aSIXTEEN FULL STOP;aSEVENTEEN FULL STOP;aEIGHTEEN FULL STOP;
    aNINETEEN FULL STOP;aTWENTY FULL STOP;PARENTHESIZED LATIN SMALL LETTER A;dB;dC;dD;dE;dF;dG;
    dH;dI;dJ;dK;dL;dM;dN;dO;dP;dQ;dR;dS;dT;dU;dV;dW;dX;dY;dZ;CIRCLED LATIN CAPITAL LETTER A;dB;
    dC;dD;dE;dF;dG;dH;dI;dJ;dK;dL;dM;dN;dO;dP;dQ;dR;dS;dT;dU;dV;dW;dX;dY;dZ;bSMALL LETTER A;dB;
    dC;dD;dE;dF;dG;dH;dI;dJ;dK;dL;dM;dN;dO;dP;dQ;dR;dS;dT;dU;dV;dW;dX;dY;dZ;aDIGIT ZERO;
    NEGATIVE CIRCLED NUMBER ELEVEN;cTWELVE;cTHIRTEEN;cFOURTEEN;cFIFTEEN;cSIXTEEN;cSEVENTEEN;
    cEIGHTEEN;cNINETEEN;cTWENTY;DOUBLE CIRCLED DIGIT ONE;cTWO;cTHREE;cFOUR;cFIVE;cSIX;cSEVEN;
    cEIGHT;cNINE;bNUMBER TEN;NEGATIVE CIRCLED DIGIT ZERO"⟩,
  ⟨0x2500,
   "BOX DRAWINGS LIGHT HORIZONTAL;bHEAVY HORIZONTAL;bLIGHT VERTICAL;bHEAVY VERTICAL;
    bLIGHT TRIPLE DASH HORIZONTAL;bHEAVY TRIPLE DASH HORIZONTAL;bLIGHT TRIPLE DASH VERTICAL;
    bHEAVY TRIPLE DASH VERTICAL;bLIGHT QUADRUPLE DASH HORIZONTAL;
    bHEAVY QUADRUPLE DASH HORIZONTAL;bLIGHT QUADRUPLE DASH VERTICAL;
    bHEAVY QUADRUPLE DASH VERTICAL;bLIGHT DOWN AND RIGHT;bDOWN LIGHT AND RIGHT HEAVY;
    cHEAVY AND RIGHT LIGHT;bHEAVY DOWN AND RIGHT;bLIGHT DOWN AND LEFT;bDOWN LIGHT AND LEFT HEAVY;
    cHEAVY AND LEFT LIGHT;bHEAVY DOWN AND LEFT;bLIGHT UP AND RIGHT;bUP LIGHT AND RIGHT HEAVY;
    cHEAVY AND RIGHT LIGHT;bHEAVY UP AND RIGHT;bLIGHT UP AND LEFT;bUP LIGHT AND LEFT HEAVY;
    cHEAVY AND LEFT LIGHT;bHEAVY UP AND LEFT;bLIGHT VERTICAL AND RIGHT;
    bVERTICAL LIGHT AND RIGHT HEAVY;bUP HEAVY AND RIGHT DOWN LIGHT;
    bDOWN HEAVY AND RIGHT UP LIGHT;bVERTICAL HEAVY AND RIGHT LIGHT;
    bDOWN LIGHT AND RIGHT UP HEAVY;bUP LIGHT AND RIGHT DOWN HEAVY;bHEAVY VERTICAL AND RIGHT;
    bLIGHT VERTICAL AND LEFT;bVERTICAL LIGHT AND LEFT HEAVY;bUP HEAVY AND LEFT DOWN LIGHT;
    bDOWN HEAVY AND LEFT UP LIGHT;bVERTICAL HEAVY AND LEFT LIGHT;bDOWN LIGHT AND LEFT UP HEAVY;
    bUP LIGHT AND LEFT DOWN HEAVY;bHEAVY VERTICAL AND LEFT;bLIGHT DOWN AND HORIZONTAL;
    bLEFT HEAVY AND RIGHT DOWN LIGHT;bRIGHT HEAVY AND LEFT DOWN LIGHT;
    bDOWN LIGHT AND HORIZONTAL HEAVY;cHEAVY AND HORIZONTAL LIGHT;
    bRIGHT LIGHT AND LEFT DOWN HEAVY;bLEFT LIGHT AND RIGHT DOWN HEAVY;bHEAVY DOWN AND HORIZONTAL;
    bLIGHT UP AND HORIZONTAL;bLEFT HEAVY AND RIGHT UP LIGHT;bRIGHT HEAVY AND LEFT UP LIGHT;
    bUP LIGHT AND HORIZONTAL HEAVY;cHEAVY AND HORIZONTAL LIGHT;bRIGHT LIGHT AND LEFT UP HEAVY;
    bLEFT LIGHT AND RIGHT UP HEAVY;bHEAVY UP AND HORIZONTAL;bLIGHT VERTICAL AND HORIZONTAL;
    bLEFT HEAVY AND RIGHT VERTICAL LIGHT;bRIGHT HEAVY AND LEFT VERTICAL LIGHT;
    bVERTICAL LIGHT AND HORIZONTAL HEAVY;bUP HEAVY AND DOWN HORIZONTAL LIGHT;
    bDOWN HEAVY AND UP HORIZONTAL LIGHT;bVERTICAL HEAVY AND HORIZONTAL LIGHT;
    bLEFT UP HEAVY AND RIGHT DOWN LIGHT;bRIGHT UP HEAVY AND LEFT DOWN LIGHT;
    bLEFT DOWN HEAVY AND RIGHT UP LIGHT;bRIGHT DOWN HEAVY AND LEFT UP LIGHT;
    bDOWN LIGHT AND UP HORIZONTAL HEAVY;bUP LIGHT AND DOWN HORIZONTAL HEAVY;
    bRIGHT LIGHT AND LEFT VERTICAL HEAVY;bLEFT LIGHT AND RIGHT VERTICAL HEAVY;
    bHEAVY VERTICAL AND HORIZONTAL;bLIGHT DOUBLE DASH HORIZONTAL;bHEAVY DOUBLE DASH HORIZONTAL;
    bLIGHT DOUBLE DASH VERTICAL;bHEAVY DOUBLE DASH VERTICAL;bDOUBLE HORIZONTAL;cVERTICAL;
    bDOWN SINGLE AND RIGHT DOUBLE;cDOUBLE AND RIGHT SINGLE;bDOUBLE DOWN AND RIGHT;
    bDOWN SINGLE AND LEFT DOUBLE;cDOUBLE AND LEFT SINGLE;bDOUBLE DOWN AND LEFT;
    bUP SINGLE AND RIGHT DOUBLE;cDOUBLE AND RIGHT SINGLE;bDOUBLE UP AND RIGHT;
    bUP SINGLE AND LEFT DOUBLE;cDOUBLE AND LEFT SINGLE;bDOUBLE UP AND LEFT;
    bVERTICAL SINGLE AND RIGHT DOUBLE;cDOUBLE AND RIGHT SINGLE;bDOUBLE VERTICAL AND RIGHT;
    bVERTICAL SINGLE AND LEFT DOUBLE;cDOUBLE AND LEFT SINGLE;bDOUBLE VERTICAL AND LEFT;
    bDOWN SINGLE AND HORIZONTAL DOUBLE;cDOUBLE AND HORIZONTAL SINGLE;bDOUBLE DOWN AND HORIZONTAL;
    bUP SINGLE AND HORIZONTAL DOUBLE;cDOUBLE AND HORIZONTAL SINGLE;bDOUBLE UP AND HORIZONTAL;
    bVERTICAL SINGLE AND HORIZONTAL DOUBLE;cDOUBLE AND HORIZONTAL SINGLE;
    bDOUBLE VERTICAL AND HORIZONTAL;bLIGHT ARC DOWN AND RIGHT;fLEFT;dUP AND LEFT;fRIGHT;
    cDIAGONAL UPPER RIGHT TO LOWER LEFT;eLEFT TO LOWER RIGHT;dCROSS;cLEFT;cUP;cRIGHT;cDOWN;
    bHEAVY LEFT;cUP;cRIGHT;cDOWN;bLIGHT LEFT AND HEAVY RIGHT;cUP AND HEAVY DOWN;
    bHEAVY LEFT AND LIGHT RIGHT;cUP AND LIGHT DOWN;UPPER HALF BLOCK;LOWER ONE EIGHTH BLOCK;
    bQUARTER BLOCK;aTHREE EIGHTHS BLOCK;aHALF BLOCK;aFIVE EIGHTHS BLOCK;aTHREE QUARTERS BLOCK;
    aSEVEN EIGHTHS BLOCK;FULL BLOCK;LEFT SEVEN EIGHTHS BLOCK;aTHREE QUARTERS BLOCK;
    aFIVE EIGHTHS BLOCK;aHALF BLOCK;aTHREE EIGHTHS BLOCK;aONE QUARTER BLOCK;bEIGHTH BLOCK;
    RIGHT HALF BLOCK;LIGHT SHADE;MEDIUM SHADE;DARK SHADE;UPPER ONE EIGHTH BLOCK;
    RIGHT ONE EIGHTH BLOCK;QUADRANT LOWER LEFT;bRIGHT;aUPPER LEFT;
    cAND LOWER LEFT AND LOWER RIGHT;eRIGHT;dUPPER RIGHT AND LOWER LEFT;hRIGHT;bRIGHT;
    cAND LOWER LEFT;fAND LOWER RIGHT;BLACK SQUARE;WHITE SQUARE;bWITH ROUNDED CORNERS;
    bCONTAINING BLACK SMALL SQUARE;SQUARE WITH HORIZONTAL FILL;bVERTICAL FILL;
    bORTHOGONAL CROSSHATCH FILL;bUPPER LEFT TO LOWER RIGHT FILL;cRIGHT TO LOWER LEFT FILL;
    bDIAGONAL CROSSHATCH FILL;BLACK SMALL SQUARE;WHITE SMALL SQUARE;BLACK RECTANGLE;
    WHITE RECTANGLE;BLACK VERTICAL RECTANGLE;WHITE VERTICAL RECTANGLE;BLACK PARALLELOGRAM;
    WHITE PARALLELOGRAM;BLACK UP-POINTING TRIANGLE;WHITE UP-POINTING TRIANGLE;
    BLACK UP-POINTING SMALL TRIANGLE;WHITE UP-POINTING SMALL TRIANGLE;
    BLACK RIGHT-POINTING TRIANGLE;WHITE RIGHT-POINTING TRIANGLE;
    BLACK RIGHT-POINTING SMALL TRIANGLE;WHITE RIGHT-POINTING SMALL TRIANGLE;
    BLACK RIGHT-POINTING POINTER;WHITE RIGHT-POINTING POINTER;BLACK DOWN-POINTING TRIANGLE;
    WHITE DOWN-POINTING TRIANGLE;BLACK DOWN-POINTING SMALL TRIANGLE;
    WHITE DOWN-POINTING SMALL TRIANGLE;BLACK LEFT-POINTING TRIANGLE;WHITE LEFT-POINTING TRIANGLE;
    BLACK LEFT-POINTING SMALL TRIANGLE;WHITE LEFT-POINTING SMALL TRIANGLE;
    BLACK LEFT-POINTING POINTER;WHITE LEFT-POINTING POINTER;BLACK DIAMOND;WHITE DIAMOND;
    bCONTAINING BLACK SMALL DIAMOND;FISHEYE;LOZENGE;WHITE CIRCLE;DOTTED CIRCLE;
    CIRCLE WITH VERTICAL FILL;BULLSEYE;BLACK CIRCLE;CIRCLE WITH LEFT HALF BLACK;
    bRIGHT HALF BLACK;bLOWER HALF BLACK;bUPPER HALF BLACK;cRIGHT QUADRANT BLACK;
    bALL BUT UPPER LEFT QUADRANT BLACK;LEFT HALF BLACK CIRCLE;RIGHT HALF BLACK CIRCLE;
    INVERSE BULLET;aWHITE CIRCLE;UPPER HALF INVERSE WHITE CIRCLE;LOWER HALF INVERSE WHITE CIRCLE;
    UPPER LEFT QUADRANT CIRCULAR ARC;aRIGHT QUADRANT CIRCULAR ARC;
    LOWER RIGHT QUADRANT CIRCULAR ARC;aLEFT QUADRANT CIRCULAR ARC;UPPER HALF CIRCLE;
    LOWER HALF CIRCLE;BLACK LOWER RIGHT TRIANGLE;bLEFT TRIANGLE;aUPPER LEFT TRIANGLE;
    bRIGHT TRIANGLE;WHITE BULLET;SQUARE WITH LEFT HALF BLACK;bRIGHT HALF BLACK;
    bUPPER LEFT DIAGONAL HALF BLACK;bLOWER RIGHT DIAGONAL HALF BLACK;
    WHITE SQUARE WITH VERTICAL BISECTING LINE;aUP-POINTING TRIANGLE WITH DOT;
    UP-POINTING TRIANGLE WITH LEFT HALF BLACK;cRIGHT HALF BLACK;LARGE CIRCLE;
    WHITE SQUARE WITH UPPER LEFT QUADRANT;cLOWER LEFT QUADRANT;dRIGHT QUADRANT;
    cUPPER RIGHT QUADRANT;aCIRCLE WITH UPPER LEFT QUADRANT;cLOWER LEFT QUADRANT;dRIGHT QUADRANT;
    cUPPER RIGHT QUADRANT;UPPER LEFT TRIANGLE;aRIGHT TRIANGLE;LOWER LEFT TRIANGLE;
    WHITE MEDIUM SQUARE;BLACK MEDIUM SQUARE;WHITE MEDIUM SMALL SQUARE;BLACK MEDIUM SMALL SQUARE;
    LOWER RIGHT TRIANGLE"⟩,
  ⟨0x2600,
   "BLACK SUN WITH RAYS;CLOUD;UMBRELLA;SNOWMAN;COMET;BLACK STAR;WHITE STAR;LIGHTNING;
    THUNDERSTORM;SUN;ASCENDING NODE;DESCENDING NODE;CONJUNCTION;OPPOSITION;BLACK TELEPHONE;
    WHITE TELEPHONE;BALLOT BOX;bWITH CHECK;cX;SALTIRE;UMBRELLA WITH RAIN DROPS;HOT BEVERAGE;
    WHITE SHOGI PIECE;BLACK SHOGI PIECE;SHAMROCK;REVERSED ROTATED FLORAL HEART BULLET;
    BLACK LEFT POINTING INDEX;aRIGHT POINTING INDEX;WHITE LEFT POINTING INDEX;aUP POINTING INDEX;
    aRIGHT POINTING INDEX;aDOWN POINTING INDEX;SKULL AND CROSSBONES;CAUTION SIGN;
    RADIOACTIVE SIGN;BIOHAZARD SIGN;CADUCEUS;ANKH;ORTHODOX CROSS;CHI RHO;CROSS OF LORRAINE;
    bJERUSALEM;STAR AND CRESCENT;FARSI SYMBOL;ADI SHAKTI;HAMMER AND SICKLE;PEACE SYMBOL;YIN YANG;
    TRIGRAM FOR HEAVEN;bLAKE;bFIRE;bTHUNDER;bWIND;bWATER;bMOUNTAIN;bEARTH;WHEEL OF DHARMA;
    WHITE FROWNING FACE;aSMILING FACE;BLACK SMILING FACE;WHITE SUN WITH RAYS;FIRST QUARTER MOON;
    LAST QUARTER MOON;MERCURY;FEMALE SIGN;EARTH;MALE SIGN;JUPITER;SATURN;URANUS;NEPTUNE;PLUTO;
    ARIES;TAURUS;GEMINI;CANCER;LEO;VIRGO;LIBRA;SCORPIUS;SAGITTARIUS;CAPRICORN;AQUARIUS;PISCES;
    WHITE CHESS KING;bQUEEN;bROOK;bBISHOP;bKNIGHT;bPAWN;BLACK CHESS KING;bQUEEN;bROOK;bBISHOP;
    bKNIGHT;bPAWN;aSPADE SUIT;WHITE HEART SUIT;aDIAMOND SUIT;BLACK CLUB SUIT;WHITE SPADE SUIT;
    BLACK HEART SUIT;aDIAMOND SUIT;WHITE CLUB SUIT;HOT SPRINGS;QUARTER NOTE;EIGHTH NOTE;
    BEAMED EIGHTH NOTES;aSIXTEENTH NOTES;MUSIC FLAT SIGN;aNATURAL SIGN;aSHARP SIGN;
    WEST SYRIAC CROSS;EAST SYRIAC CROSS;UNIVERSAL RECYCLING SYMBOL;
    RECYCLING SYMBOL FOR TYPE-1 PLASTICS;cTYPE-2 PLASTICS;cTYPE-3 PLASTICS;cTYPE-4 PLASTICS;
    cTYPE-5 PLASTICS;cTYPE-6 PLASTICS;cTYPE-7 PLASTICS;cGENERIC MATERIALS;
    BLACK UNIVERSAL RECYCLING SYMBOL;RECYCLED PAPER SYMBOL;PARTIALLY-RECYCLED PAPER SYMBOL;
    PERMANENT PAPER SIGN;WHEELCHAIR SYMBOL;DIE FACE-1;aFACE-2;aFACE-3;aFACE-4;aFACE-5;aFACE-6;
    WHITE CIRCLE WITH DOT RIGHT;cTWO DOTS;BLACK CIRCLE WITH WHITE DOT RIGHT;cTWO WHITE DOTS;
    MONOGRAM FOR YANG;bYIN;DIGRAM FOR GREATER YANG;bLESSER YIN;cYANG;bGREATER YIN;WHITE FLAG;
    BLACK FLAG;HAMMER AND PICK;ANCHOR;CROSSED SWORDS;STAFF OF AESCULAPIUS;SCALES;ALEMBIC;FLOWER;
    GEAR;STAFF OF HERMES;ATOM SYMBOL;FLEUR-DE-LIS;OUTLINED WHITE STAR;
    THREE LINES CONVERGING RIGHT;cLEFT;WARNING SIGN;HIGH VOLTAGE SIGN;DOUBLED FEMALE SIGN;
    aMALE SIGN;INTERLOCKED FEMALE AND MALE SIGN;MALE AND FEMALE SIGN;aWITH STROKE SIGN;
    cAND MALE AND FEMALE SIGN;VERTICAL MALE WITH STROKE SIGN;HORIZONTAL MALE WITH STROKE SIGN;
    MEDIUM WHITE CIRCLE;aBLACK CIRCLE;aSMALL WHITE CIRCLE;MARRIAGE SYMBOL;DIVORCE SYMBOL;
    UNMARRIED PARTNERSHIP SYMBOL;COFFIN;FUNERAL URN;NEUTER;CERES;PALLAS;JUNO;VESTA;CHIRON;
    BLACK MOON LILITH;SEXTILE;SEMISEXTILE;QUINCUNX;SESQUIQUADRATE;SOCCER BALL;BASEBALL;
    SQUARED KEY;WHITE DRAUGHTS MAN;bKING;BLACK DRAUGHTS MAN;bKING;SNOWMAN WITHOUT SNOW;
    SUN BEHIND CLOUD;RAIN;BLACK SNOWMAN;THUNDER CLOUD AND RAIN;TURNED WHITE SHOGI PIECE;
    aBLACK SHOGI PIECE;WHITE DIAMOND IN SQUARE;CROSSING LANES;DISABLED CAR;OPHIUCHUS;PICK;
    CAR SLIDING;HELMET WITH WHITE CROSS;CIRCLED CROSSING LANES;CHAINS;NO ENTRY;
    ALTERNATE ONE-WAY LEFT WAY TRAFFIC;BLACK TWO-WAY LEFT WAY TRAFFIC;
    WHITE TWO-WAY LEFT WAY TRAFFIC;BLACK LEFT LANE MERGE;WHITE LEFT LANE MERGE;DRIVE SLOW SIGN;
    HEAVY WHITE DOWN-POINTING TRIANGLE;LEFT CLOSED ENTRY;SQUARED SALTIRE;
    FALLING DIAGONAL IN WHITE CIRCLE IN BLACK SQUARE;BLACK TRUCK;RESTRICTED LEFT ENTRY-1;
    bENTRY-2;ASTRONOMICAL SYMBOL FOR URANUS;HEAVY CIRCLE WITH STROKE AND TWO DOTS ABOVE;
    PENTAGRAM;RIGHT-HANDED INTERLACED PENTAGRAM;LEFT-HANDED INTERLACED PENTAGRAM;
    INVERTED PENTAGRAM;BLACK CROSS ON SHIELD;SHINTO SHRINE;CHURCH;CASTLE;HISTORIC SITE;
    GEAR WITHOUT HUB;aWITH HANDLES;MAP SYMBOL FOR LIGHTHOUSE;MOUNTAIN;UMBRELLA ON GROUND;
    FOUNTAIN;FLAG IN HOLE;FERRY;SAILBOAT;SQUARE FOUR CORNERS;SKIER;ICE SKATE;PERSON WITH BALL;
    TENT;JAPANESE BANK SYMBOL;HEADSTONE GRAVEYARD SYMBOL;FUEL PUMP;CUP ON BLACK SQUARE;
    WHITE FLAG WITH HORIZONTAL MIDDLE BLACK STRIPE"⟩,
  ⟨0x2700,
   "BLACK SAFETY SCISSORS;UPPER BLADE SCISSORS;BLACK SCISSORS;LOWER BLADE SCISSORS;
    WHITE SCISSORS;aHEAVY CHECK MARK;TELEPHONE LOCATION SIGN;TAPE DRIVE;AIRPLANE;ENVELOPE;
    RAISED FIST;aHAND;VICTORY HAND;WRITING HAND;LOWER RIGHT PENCIL;PENCIL;UPPER RIGHT PENCIL;
    WHITE NIB;BLACK NIB;CHECK MARK;HEAVY CHECK MARK;MULTIPLICATION X;HEAVY MULTIPLICATION X;
    BALLOT X;HEAVY BALLOT X;OUTLINED GREEK CROSS;HEAVY GREEK CROSS;OPEN CENTRE CROSS;
    HEAVY OPEN CENTRE CROSS;LATIN CROSS;SHADOWED WHITE LATIN CROSS;OUTLINED LATIN CROSS;
    MALTESE CROSS;STAR OF DAVID;FOUR TEARDROP-SPOKED ASTERISK;aBALLOON-SPOKED ASTERISK;
    HEAVY FOUR BALLOON-SPOKED ASTERISK;FOUR CLUB-SPOKED ASTERISK;BLACK FOUR POINTED STAR;
    WHITE FOUR POINTED STAR;SPARKLES;STRESS OUTLINED WHITE STAR;CIRCLED WHITE STAR;
    OPEN CENTRE BLACK STAR;BLACK CENTRE WHITE STAR;OUTLINED BLACK STAR;HEAVY OUTLINED BLACK STAR;
    PINWHEEL STAR;SHADOWED WHITE STAR;HEAVY ASTERISK;OPEN CENTRE ASTERISK;EIGHT SPOKED ASTERISK;
    aPOINTED BLACK STAR;bPINWHEEL STAR;SIX POINTED BLACK STAR;
    EIGHT POINTED RECTILINEAR BLACK STAR;HEAVY EIGHT POINTED RECTILINEAR BLACK STAR;
    TWELVE POINTED BLACK STAR;SIXTEEN POINTED ASTERISK;TEARDROP-SPOKED ASTERISK;
    OPEN CENTRE TEARDROP-SPOKED ASTERISK;HEAVY TEARDROP-SPOKED ASTERISK;
    SIX PETALLED BLACK AND WHITE FLORETTE;BLACK FLORETTE;WHITE FLORETTE;
    EIGHT PETALLED OUTLINED BLACK FLORETTE;CIRCLED OPEN CENTRE EIGHT POINTED STAR;
    HEAVY TEARDROP-SPOKED PINWHEEL ASTERISK;SNOWFLAKE;TIGHT TRIFOLIATE SNOWFLAKE;
    HEAVY CHEVRON SNOWFLAKE;SPARKLE;HEAVY SPARKLE;BALLOON-SPOKED ASTERISK;
    EIGHT TEARDROP-SPOKED PROPELLER ASTERISK;HEAVY EIGHT TEARDROP-SPOKED PROPELLER ASTERISK;
    CROSS MARK;SHADOWED WHITE CIRCLE;NEGATIVE SQUARED CROSS MARK;
    LOWER RIGHT DROP-SHADOWED WHITE SQUARE;UPPER RIGHT DROP-SHADOWED WHITE SQUARE;
    LOWER RIGHT SHADOWED WHITE SQUARE;UPPER RIGHT SHADOWED WHITE SQUARE;
    BLACK QUESTION MARK ORNAMENT;WHITE QUESTION MARK ORNAMENT;aEXCLAMATION MARK ORNAMENT;
    BLACK DIAMOND MINUS WHITE X;HEAVY EXCLAMATION MARK SYMBOL;LIGHT VERTICAL BAR;
    MEDIUM VERTICAL BAR;HEAVY VERTICAL BAR;aSINGLE TURNED COMMA QUOTATION MARK ORNAMENT;
    bCOMMA QUOTATION MARK ORNAMENT;aDOUBLE TURNED COMMA QUOTATION MARK ORNAMENT;
    bCOMMA QUOTATION MARK ORNAMENT;aLOW SINGLE COMMA QUOTATION MARK ORNAMENT;
    bDOUBLE COMMA QUOTATION MARK ORNAMENT;CURVED STEM PARAGRAPH SIGN ORNAMENT;
    HEAVY EXCLAMATION MARK ORNAMENT;aHEART EXCLAMATION MARK ORNAMENT;aBLACK HEART;
    ROTATED HEAVY BLACK HEART BULLET;FLORAL HEART;ROTATED FLORAL HEART BULLET;
    MEDIUM LEFT PARENTHESIS ORNAMENT;aRIGHT PARENTHESIS ORNAMENT;
    aFLATTENED LEFT PARENTHESIS ORNAMENT;bRIGHT PARENTHESIS ORNAMENT;
    aLEFT-POINTING ANGLE BRACKET ORNAMENT;aRIGHT-POINTING ANGLE BRACKET ORNAMENT;
    HEAVY LEFT-POINTING ANGLE QUOTATION MARK ORNAMENT;
    aRIGHT-POINTING ANGLE QUOTATION MARK ORNAMENT;aLEFT-POINTING ANGLE BRACKET ORNAMENT;
    aRIGHT-POINTING ANGLE BRACKET ORNAMENT;LIGHT LEFT TORTOISE SHELL BRACKET ORNAMENT;
    aRIGHT TORTOISE SHELL BRACKET ORNAMENT;MEDIUM LEFT CURLY BRACKET ORNAMENT;
    aRIGHT CURLY BRACKET ORNAMENT;DINGBAT NEGATIVE CIRCLED DIGIT ONE;dTWO;dTHREE;dFOUR;dFIVE;
    dSIX;dSEVEN;dEIGHT;dNINE;cNUMBER TEN;aCIRCLED SANS-SERIF DIGIT ONE;dTWO;dTHREE;dFOUR;dFIVE;
    dSIX;dSEVEN;dEIGHT;dNINE;cNUMBER TEN;aNEGATIVE CIRCLED SANS-SERIF DIGIT ONE;eTWO;eTHREE;
    eFOUR;eFIVE;eSIX;eSEVEN;eEIGHT;eNINE;dNUMBER TEN;HEAVY WIDE-HEADED RIGHTWARDS ARROW;
    aPLUS SIGN;aMINUS SIGN;aDIVISION SIGN;aSOUTH EAST ARROW;aRIGHTWARDS ARROW;aNORTH EAST ARROW;
    DRAFTING POINT RIGHTWARDS ARROW;HEAVY ROUND-TIPPED RIGHTWARDS ARROW;
    TRIANGLE-HEADED RIGHTWARDS ARROW;HEAVY TRIANGLE-HEADED RIGHTWARDS ARROW;
    DASHED TRIANGLE-HEADED RIGHTWARDS ARROW;HEAVY DASHED TRIANGLE-HEADED RIGHTWARDS ARROW;
    BLACK RIGHTWARDS ARROW;THREE-D TOP-LIGHTED RIGHTWARDS ARROWHEAD;
    aBOTTOM-LIGHTED RIGHTWARDS ARROWHEAD;BLACK RIGHTWARDS ARROWHEAD;
    HEAVY BLACK CURVED DOWNWARDS AND RIGHTWARDS ARROW;cUPWARDS AND RIGHTWARDS ARROW;
    SQUAT BLACK RIGHTWARDS ARROW;HEAVY CONCAVE-POINTED BLACK RIGHTWARDS ARROW;
    RIGHT-SHADED WHITE RIGHTWARDS ARROW;LEFT-SHADED WHITE RIGHTWARDS ARROW;
    BACK-TILTED SHADOWED WHITE RIGHTWARDS ARROW;FRONT-TILTED SHADOWED WHITE RIGHTWARDS ARROW;
    HEAVY LOWER RIGHT-SHADOWED WHITE RIGHTWARDS ARROW;
    aUPPER RIGHT-SHADOWED WHITE RIGHTWARDS ARROW;
    NOTCHED LOWER RIGHT-SHADOWED WHITE RIGHTWARDS ARROW;CURLY LOOP;
    NOTCHED UPPER RIGHT-SHADOWED WHITE RIGHTWARDS ARROW;CIRCLED HEAVY WHITE RIGHTWARDS ARROW;
    WHITE-FEATHERED RIGHTWARDS ARROW;BLACK-FEATHERED SOUTH EAST ARROW;aRIGHTWARDS ARROW;
    aNORTH EAST ARROW;HEAVY BLACK-FEATHERED SOUTH EAST ARROW;bRIGHTWARDS ARROW;bNORTH EAST ARROW;
    TEARDROP-BARBED RIGHTWARDS ARROW;HEAVY TEARDROP-SHANKED RIGHTWARDS ARROW;
    WEDGE-TAILED RIGHTWARDS ARROW;HEAVY WEDGE-TAILED RIGHTWARDS ARROW;
    OPEN-OUTLINED RIGHTWARDS ARROW;DOUBLE CURLY LOOP;THREE DIMENSIONAL ANGLE;
    WHITE TRIANGLE CONTAINING SMALL WHITE TRIANGLE;PERPENDICULAR;OPEN SUBSET;aSUPERSET;
    LEFT S-SHAPED BAG DELIMITER;RIGHT S-SHAPED BAG DELIMITER;OR WITH DOT INSIDE;
    REVERSE SOLIDUS PRECEDING SUBSET;SUPERSET PRECEDING SOLIDUS;
    VERTICAL BAR WITH HORIZONTAL STROKE;MATHEMATICAL RISING DIAGONAL;LONG DIVISION;
    MATHEMATICAL FALLING DIAGONAL;SQUARED LOGICAL AND;bOR;WHITE DIAMOND WITH CENTRED DOT;
    AND WITH DOT;ELEMENT OF OPENING UPWARDS;LOWER RIGHT CORNER WITH DOT;
    UPPER LEFT CORNER WITH DOT;LEFT OUTER JOIN;RIGHT OUTER JOIN;FULL OUTER JOIN;LARGE UP TACK;
    aDOWN TACK;LEFT AND RIGHT DOUBLE TURNSTILE;cTACK;aMULTIMAP;LONG RIGHT TACK;aLEFT TACK;
    UP TACK WITH CIRCLE ABOVE;LOZENGE DIVIDED BY HORIZONTAL RULE;WHITE CONCAVE-SIDED DIAMOND;
    cWITH LEFTWARDS TICK;dRIGHTWARDS TICK;aSQUARE WITH LEFTWARDS TICK;cRIGHTWARDS TICK;
    MATHEMATICAL LEFT WHITE SQUARE BRACKET;aRIGHT WHITE SQUARE BRACKET;aLEFT ANGLE BRACKET;
    aRIGHT ANGLE BRACKET;aLEFT DOUBLE ANGLE BRACKET;aRIGHT DOUBLE ANGLE BRACKET;
    aLEFT WHITE TORTOISE SHELL BRACKET;aRIGHT WHITE TORTOISE SHELL BRACKET;
    aLEFT FLATTENED PARENTHESIS;aRIGHT FLATTENED PARENTHESIS;UPWARDS QUADRUPLE ARROW;
    DOWNWARDS QUADRUPLE ARROW;ANTICLOCKWISE GAPPED CIRCLE ARROW;CLOCKWISE GAPPED CIRCLE ARROW;
    RIGHT ARROW WITH CIRCLED PLUS;LONG LEFTWARDS ARROW;aRIGHTWARDS ARROW;aLEFT RIGHT ARROW;
    aLEFTWARDS DOUBLE ARROW;aRIGHTWARDS DOUBLE ARROW;aLEFT RIGHT DOUBLE ARROW;
    aLEFTWARDS ARROW FROM BAR;aRIGHTWARDS ARROW FROM BAR;aLEFTWARDS DOUBLE ARROW FROM BAR;
    aRIGHTWARDS DOUBLE ARROW FROM BAR;bSQUIGGLE ARROW"⟩]

end StreamLabel.Unicode
