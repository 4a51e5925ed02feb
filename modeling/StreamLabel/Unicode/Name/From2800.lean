import StreamLabel.Unicode.Name.Block

/-!
# Names from U+2800 on

Braille, further symbols, radicals.
-/

namespace StreamLabel.Unicode

def namesFrom2800 : List NameBlock := [
  ⟨0x2800,
   "BRAILLE PATTERN BLANK;bDOTS-1;bDOTS-2;bDOTS-12;bDOTS-3;bDOTS-13;bDOTS-23;bDOTS-123;bDOTS-4;
    bDOTS-14;bDOTS-24;bDOTS-124;bDOTS-34;bDOTS-134;bDOTS-234;bDOTS-1234;bDOTS-5;bDOTS-15;
    bDOTS-25;bDOTS-125;bDOTS-35;bDOTS-135;bDOTS-235;bDOTS-1235;bDOTS-45;bDOTS-145;bDOTS-245;
    bDOTS-1245;bDOTS-345;bDOTS-1345;bDOTS-2345;bDOTS-12345;bDOTS-6;bDOTS-16;bDOTS-26;bDOTS-126;
    bDOTS-36;bDOTS-136;bDOTS-236;bDOTS-1236;bDOTS-46;bDOTS-146;bDOTS-246;bDOTS-1246;bDOTS-346;
    bDOTS-1346;bDOTS-2346;bDOTS-12346;bDOTS-56;bDOTS-156;bDOTS-256;bDOTS-1256;bDOTS-356;
    bDOTS-1356;bDOTS-2356;bDOTS-12356;bDOTS-456;bDOTS-1456;bDOTS-2456;bDOTS-12456;bDOTS-3456;
    bDOTS-13456;bDOTS-23456;bDOTS-123456;bDOTS-7;bDOTS-17;bDOTS-27;bDOTS-127;bDOTS-37;bDOTS-137;
    bDOTS-237;bDOTS-1237;bDOTS-47;bDOTS-147;bDOTS-247;bDOTS-1247;bDOTS-347;bDOTS-1347;bDOTS-2347;
    bDOTS-12347;bDOTS-57;bDOTS-157;bDOTS-257;bDOTS-1257;bDOTS-357;bDOTS-1357;bDOTS-2357;
    bDOTS-12357;bDOTS-457;bDOTS-1457;bDOTS-2457;bDOTS-12457;bDOTS-3457;bDOTS-13457;bDOTS-23457;
    bDOTS-123457;bDOTS-67;bDOTS-167;bDOTS-267;bDOTS-1267;bDOTS-367;bDOTS-1367;bDOTS-2367;
    bDOTS-12367;bDOTS-467;bDOTS-1467;bDOTS-2467;bDOTS-12467;bDOTS-3467;bDOTS-13467;bDOTS-23467;
    bDOTS-123467;bDOTS-567;bDOTS-1567;bDOTS-2567;bDOTS-12567;bDOTS-3567;bDOTS-13567;bDOTS-23567;
    bDOTS-123567;bDOTS-4567;bDOTS-14567;bDOTS-24567;bDOTS-124567;bDOTS-34567;bDOTS-134567;
    bDOTS-234567;bDOTS-1234567;bDOTS-8;bDOTS-18;bDOTS-28;bDOTS-128;bDOTS-38;bDOTS-138;bDOTS-238;
    bDOTS-1238;bDOTS-48;bDOTS-148;bDOTS-248;bDOTS-1248;bDOTS-348;bDOTS-1348;bDOTS-2348;
    bDOTS-12348;bDOTS-58;bDOTS-158;bDOTS-258;bDOTS-1258;bDOTS-358;bDOTS-1358;bDOTS-2358;
    bDOTS-12358;bDOTS-458;bDOTS-1458;bDOTS-2458;bDOTS-12458;bDOTS-3458;bDOTS-13458;bDOTS-23458;
    bDOTS-123458;bDOTS-68;bDOTS-168;bDOTS-268;bDOTS-1268;bDOTS-368;bDOTS-1368;bDOTS-2368;
    bDOTS-12368;bDOTS-468;bDOTS-1468;bDOTS-2468;bDOTS-12468;bDOTS-3468;bDOTS-13468;bDOTS-23468;
    bDOTS-123468;bDOTS-568;bDOTS-1568;bDOTS-2568;bDOTS-12568;bDOTS-3568;bDOTS-13568;bDOTS-23568;
    bDOTS-123568;bDOTS-4568;bDOTS-14568;bDOTS-24568;bDOTS-124568;bDOTS-34568;bDOTS-134568;
    bDOTS-234568;bDOTS-1234568;bDOTS-78;bDOTS-178;bDOTS-278;bDOTS-1278;bDOTS-378;bDOTS-1378;
    bDOTS-2378;bDOTS-12378;bDOTS-478;bDOTS-1478;bDOTS-2478;bDOTS-12478;bDOTS-3478;bDOTS-13478;
    bDOTS-23478;bDOTS-123478;bDOTS-578;bDOTS-1578;bDOTS-2578;bDOTS-12578;bDOTS-3578;bDOTS-13578;
    bDOTS-23578;bDOTS-123578;bDOTS-4578;bDOTS-14578;bDOTS-24578;bDOTS-124578;bDOTS-34578;
    bDOTS-134578;bDOTS-234578;bDOTS-1234578;bDOTS-678;bDOTS-1678;bDOTS-2678;bDOTS-12678;
    bDOTS-3678;bDOTS-13678;bDOTS-23678;bDOTS-123678;bDOTS-4678;bDOTS-14678;bDOTS-24678;
    bDOTS-124678;bDOTS-34678;bDOTS-134678;bDOTS-234678;bDOTS-1234678;bDOTS-5678;bDOTS-15678;
    bDOTS-25678;bDOTS-125678;bDOTS-35678;bDOTS-135678;bDOTS-235678;bDOTS-1235678;bDOTS-45678;
    bDOTS-145678;bDOTS-245678;bDOTS-1245678;bDOTS-345678;bDOTS-1345678;bDOTS-2345678;
    bDOTS-12345678"⟩,
  ⟨0x2900,
   "RIGHTWARDS TWO-HEADED ARROW WITH VERTICAL STROKE;dDOUBLE VERTICAL STROKE;
    LEFTWARDS DOUBLE ARROW WITH VERTICAL STROKE;RIGHTWARDS DOUBLE ARROW WITH VERTICAL STROKE;
    LEFT RIGHT DOUBLE ARROW WITH VERTICAL STROKE;RIGHTWARDS TWO-HEADED ARROW FROM BAR;
    LEFTWARDS DOUBLE ARROW FROM BAR;RIGHTWARDS DOUBLE ARROW FROM BAR;
    DOWNWARDS ARROW WITH HORIZONTAL STROKE;UPWARDS ARROW WITH HORIZONTAL STROKE;aTRIPLE ARROW;
    DOWNWARDS TRIPLE ARROW;LEFTWARDS DOUBLE DASH ARROW;RIGHTWARDS DOUBLE DASH ARROW;
    LEFTWARDS TRIPLE DASH ARROW;RIGHTWARDS TRIPLE DASH ARROW;aTWO-HEADED TRIPLE DASH ARROW;
    aARROW WITH DOTTED STEM;UPWARDS ARROW TO BAR;DOWNWARDS ARROW TO BAR;
    RIGHTWARDS ARROW WITH TAIL WITH VERTICAL STROKE;eDOUBLE VERTICAL STROKE;
    aTWO-HEADED ARROW WITH TAIL;eWITH VERTICAL STROKE;fDOUBLE VERTICAL STROKE;
    LEFTWARDS ARROW-TAIL;RIGHTWARDS ARROW-TAIL;LEFTWARDS DOUBLE ARROW-TAIL;
    RIGHTWARDS DOUBLE ARROW-TAIL;LEFTWARDS ARROW TO BLACK DIAMOND;
    RIGHTWARDS ARROW TO BLACK DIAMOND;LEFTWARDS ARROW FROM BAR TO BLACK DIAMOND;
    RIGHTWARDS ARROW FROM BAR TO BLACK DIAMOND;NORTH WEST AND SOUTH EAST ARROW;
    aEAST AND SOUTH WEST ARROW;aWEST ARROW WITH HOOK;aEAST ARROW WITH HOOK;
    SOUTH EAST ARROW WITH HOOK;aWEST ARROW WITH HOOK;NORTH WEST ARROW AND NORTH EAST ARROW;
    aEAST ARROW AND SOUTH EAST ARROW;SOUTH EAST ARROW AND SOUTH WEST ARROW;
    aWEST ARROW AND NORTH WEST ARROW;RISING DIAGONAL CROSSING FALLING DIAGONAL;
    FALLING DIAGONAL CROSSING RISING DIAGONAL;SOUTH EAST ARROW CROSSING NORTH EAST ARROW;
    NORTH EAST ARROW CROSSING SOUTH EAST ARROW;FALLING DIAGONAL CROSSING NORTH EAST ARROW;
    RISING DIAGONAL CROSSING SOUTH EAST ARROW;NORTH EAST ARROW CROSSING NORTH WEST ARROW;
    aWEST ARROW CROSSING NORTH EAST ARROW;WAVE ARROW POINTING DIRECTLY RIGHT;
    ARROW POINTING RIGHTWARDS THEN CURVING UPWARDS;eDOWNWARDS;bDOWNWARDS THEN CURVING LEFTWARDS;
    eRIGHTWARDS;RIGHT-SIDE ARC CLOCKWISE ARROW;LEFT-SIDE ARC ANTICLOCKWISE ARROW;
    TOP ARC ANTICLOCKWISE ARROW;BOTTOM ARC ANTICLOCKWISE ARROW;
    TOP ARC CLOCKWISE ARROW WITH MINUS;bANTICLOCKWISE ARROW WITH PLUS;
    LOWER RIGHT SEMICIRCULAR CLOCKWISE ARROW;aLEFT SEMICIRCULAR ANTICLOCKWISE ARROW;
    ANTICLOCKWISE CLOSED CIRCLE ARROW;CLOCKWISE CLOSED CIRCLE ARROW;
    RIGHTWARDS ARROW ABOVE SHORT LEFTWARDS ARROW;LEFTWARDS ARROW ABOVE SHORT RIGHTWARDS ARROW;
    SHORT RIGHTWARDS ARROW ABOVE LEFTWARDS ARROW;RIGHTWARDS ARROW WITH PLUS BELOW;
    LEFTWARDS ARROW WITH PLUS BELOW;RIGHTWARDS ARROW THROUGH X;
    LEFT RIGHT ARROW THROUGH SMALL CIRCLE;UPWARDS TWO-HEADED ARROW FROM SMALL CIRCLE;
    LEFT BARB UP RIGHT BARB DOWN HARPOON;bDOWN RIGHT BARB UP HARPOON;
    UP BARB RIGHT DOWN BARB LEFT HARPOON;bLEFT DOWN BARB RIGHT HARPOON;
    LEFT BARB UP RIGHT BARB UP HARPOON;UP BARB RIGHT DOWN BARB RIGHT HARPOON;
    LEFT BARB DOWN RIGHT BARB DOWN HARPOON;UP BARB LEFT DOWN BARB LEFT HARPOON;
    LEFTWARDS HARPOON WITH BARB UP TO BAR;RIGHTWARDS HARPOON WITH BARB UP TO BAR;
    UPWARDS HARPOON WITH BARB RIGHT TO BAR;DOWNWARDS HARPOON WITH BARB RIGHT TO BAR;
    LEFTWARDS HARPOON WITH BARB DOWN TO BAR;RIGHTWARDS HARPOON WITH BARB DOWN TO BAR;
    UPWARDS HARPOON WITH BARB LEFT TO BAR;DOWNWARDS HARPOON WITH BARB LEFT TO BAR;
    LEFTWARDS HARPOON WITH BARB UP FROM BAR;RIGHTWARDS HARPOON WITH BARB UP FROM BAR;
    UPWARDS HARPOON WITH BARB RIGHT FROM BAR;DOWNWARDS HARPOON WITH BARB RIGHT FROM BAR;
    LEFTWARDS HARPOON WITH BARB DOWN FROM BAR;RIGHTWARDS HARPOON WITH BARB DOWN FROM BAR;
    UPWARDS HARPOON WITH BARB LEFT FROM BAR;DOWNWARDS HARPOON WITH BARB LEFT FROM BAR;
    LEFTWARDS HARPOON WITH BARB UP ABOVE LEFTWARDS HARPOON WITH BARB DOWN;
    UPWARDS HARPOON WITH BARB LEFT BESIDE UPWARDS HARPOON WITH BARB RIGHT;
    RIGHTWARDS HARPOON WITH BARB UP ABOVE RIGHTWARDS HARPOON WITH BARB DOWN;
    DOWNWARDS HARPOON WITH BARB LEFT BESIDE DOWNWARDS HARPOON WITH BARB RIGHT;
    LEFTWARDS HARPOON WITH BARB UP ABOVE RIGHTWARDS HARPOON WITH BARB UP;
    dDOWN ABOVE RIGHTWARDS HARPOON WITH BARB DOWN;
    RIGHTWARDS HARPOON WITH BARB UP ABOVE LEFTWARDS HARPOON WITH BARB UP;
    dDOWN ABOVE LEFTWARDS HARPOON WITH BARB DOWN;LEFTWARDS HARPOON WITH BARB UP ABOVE LONG DASH;
    dDOWN BELOW LONG DASH;RIGHTWARDS HARPOON WITH BARB UP ABOVE LONG DASH;dDOWN BELOW LONG DASH;
    UPWARDS HARPOON WITH BARB LEFT BESIDE DOWNWARDS HARPOON WITH BARB RIGHT;
    DOWNWARDS HARPOON WITH BARB LEFT BESIDE UPWARDS HARPOON WITH BARB RIGHT;
    RIGHT DOUBLE ARROW WITH ROUNDED HEAD;EQUALS SIGN ABOVE RIGHTWARDS ARROW;
    TILDE OPERATOR ABOVE RIGHTWARDS ARROW;LEFTWARDS ARROW ABOVE TILDE OPERATOR;
    RIGHTWARDS ARROW ABOVE TILDE OPERATOR;cALMOST EQUAL TO;LESS-THAN ABOVE LEFTWARDS ARROW;
    LEFTWARDS ARROW THROUGH LESS-THAN;GREATER-THAN ABOVE RIGHTWARDS ARROW;
    SUBSET ABOVE RIGHTWARDS ARROW;LEFTWARDS ARROW THROUGH SUBSET;SUPERSET ABOVE LEFTWARDS ARROW;
    LEFT FISH TAIL;RIGHT FISH TAIL;UP FISH TAIL;DOWN FISH TAIL;TRIPLE VERTICAL BAR DELIMITER;
    Z NOTATION SPOT;bTYPE COLON;LEFT WHITE CURLY BRACKET;RIGHT WHITE CURLY BRACKET;
    LEFT WHITE PARENTHESIS;RIGHT WHITE PARENTHESIS;Z NOTATION LEFT IMAGE BRACKET;
    bRIGHT IMAGE BRACKET;bLEFT BINDING BRACKET;bRIGHT BINDING BRACKET;
    LEFT SQUARE BRACKET WITH UNDERBAR;RIGHT SQUARE BRACKET WITH UNDERBAR;
    LEFT SQUARE BRACKET WITH TICK IN TOP CORNER;RIGHT SQUARE BRACKET WITH TICK IN BOTTOM CORNER;
    LEFT SQUARE BRACKET WITH TICK IN BOTTOM CORNER;RIGHT SQUARE BRACKET WITH TICK IN TOP CORNER;
    LEFT ANGLE BRACKET WITH DOT;RIGHT ANGLE BRACKET WITH DOT;LEFT ARC LESS-THAN BRACKET;
    RIGHT ARC GREATER-THAN BRACKET;DOUBLE LEFT ARC GREATER-THAN BRACKET;
    aRIGHT ARC LESS-THAN BRACKET;LEFT BLACK TORTOISE SHELL BRACKET;
    RIGHT BLACK TORTOISE SHELL BRACKET;DOTTED FENCE;VERTICAL ZIGZAG LINE;
    MEASURED ANGLE OPENING LEFT;RIGHT ANGLE VARIANT WITH SQUARE;MEASURED RIGHT ANGLE WITH DOT;
    ANGLE WITH S INSIDE;ACUTE ANGLE;SPHERICAL ANGLE OPENING LEFT;cUP;TURNED ANGLE;REVERSED ANGLE;
    ANGLE WITH UNDERBAR;REVERSED ANGLE WITH UNDERBAR;OBLIQUE ANGLE OPENING UP;cDOWN;
    MEASURED ANGLE WITH OPEN ARM ENDING IN ARROW POINTING UP AND RIGHT;kLEFT;iDOWN AND RIGHT;
    kLEFT;iRIGHT AND UP;iLEFT AND UP;iRIGHT AND DOWN;iLEFT AND DOWN;REVERSED EMPTY SET;
    EMPTY SET WITH OVERBAR;cSMALL CIRCLE ABOVE;cRIGHT ARROW ABOVE;cLEFT ARROW ABOVE;
    CIRCLE WITH HORIZONTAL BAR;CIRCLED VERTICAL BAR;aPARALLEL;aREVERSE SOLIDUS;aPERPENDICULAR;
    CIRCLE DIVIDED BY HORIZONTAL BAR AND TOP HALF DIVIDED BY VERTICAL BAR;aWITH SUPERIMPOSED X;
    CIRCLED ANTICLOCKWISE-ROTATED DIVISION SIGN;UP ARROW THROUGH CIRCLE;CIRCLED WHITE BULLET;
    aBULLET;aLESS-THAN;aGREATER-THAN;CIRCLE WITH SMALL CIRCLE TO THE RIGHT;
    bTWO HORIZONTAL STROKES TO THE RIGHT;SQUARED RISING DIAGONAL SLASH;aFALLING DIAGONAL SLASH;
    aASTERISK;aSMALL CIRCLE;aSQUARE;TWO JOINED SQUARES;TRIANGLE WITH DOT ABOVE;bUNDERBAR;
    S IN TRIANGLE;TRIANGLE WITH SERIFS AT BOTTOM;RIGHT TRIANGLE ABOVE LEFT TRIANGLE;
    LEFT TRIANGLE BESIDE VERTICAL BAR;VERTICAL BAR BESIDE RIGHT TRIANGLE;
    BOWTIE WITH LEFT HALF BLACK;bRIGHT HALF BLACK;BLACK BOWTIE;TIMES WITH LEFT HALF BLACK;
    bRIGHT HALF BLACK;WHITE HOURGLASS;BLACK HOURGLASS;LEFT WIGGLY FENCE;RIGHT WIGGLY FENCE;
    LEFT DOUBLE WIGGLY FENCE;RIGHT DOUBLE WIGGLY FENCE;INCOMPLETE INFINITY;TIE OVER INFINITY;
    INFINITY NEGATED WITH VERTICAL BAR;DOUBLE-ENDED MULTIMAP;SQUARE WITH CONTOURED OUTLINE;
    INCREASES AS;SHUFFLE PRODUCT;EQUALS SIGN AND SLANTED PARALLEL;eWITH TILDE ABOVE;
    IDENTICAL TO AND SLANTED PARALLEL;GLEICH STARK;THERMODYNAMIC;
    DOWN-POINTING TRIANGLE WITH LEFT HALF BLACK;cRIGHT HALF BLACK;BLACK DIAMOND WITH DOWN ARROW;
    aLOZENGE;WHITE CIRCLE WITH DOWN ARROW;BLACK CIRCLE WITH DOWN ARROW;ERROR-BARRED WHITE SQUARE;
    aBLACK SQUARE;aWHITE DIAMOND;aBLACK DIAMOND;aWHITE CIRCLE;aBLACK CIRCLE;RULE-DELAYED;
    REVERSE SOLIDUS OPERATOR;SOLIDUS WITH OVERBAR;REVERSE SOLIDUS WITH HORIZONTAL STROKE;
    BIG SOLIDUS;aREVERSE SOLIDUS;DOUBLE PLUS;TRIPLE PLUS;LEFT-POINTING CURVED ANGLE BRACKET;
    RIGHT-POINTING CURVED ANGLE BRACKET;TINY;MINY"⟩,
  ⟨0x2a00,
   "N-ARY CIRCLED DOT OPERATOR;bPLUS OPERATOR;bTIMES OPERATOR;aUNION OPERATOR WITH DOT;dPLUS;
    aSQUARE INTERSECTION OPERATOR;bUNION OPERATOR;TWO LOGICAL AND OPERATOR;bOR OPERATOR;
    N-ARY TIMES OPERATOR;MODULO TWO SUM;SUMMATION WITH INTEGRAL;QUADRUPLE INTEGRAL OPERATOR;
    FINITE PART INTEGRAL;INTEGRAL WITH DOUBLE STROKE;aAVERAGE WITH SLASH;CIRCULATION FUNCTION;
    ANTICLOCKWISE INTEGRATION;LINE INTEGRATION WITH RECTANGULAR PATH AROUND POLE;
    cSEMICIRCULAR PATH AROUND POLE;bNOT INCLUDING THE POLE;INTEGRAL AROUND A POINT OPERATOR;
    QUATERNION INTEGRAL OPERATOR;INTEGRAL WITH LEFTWARDS ARROW WITH HOOK;bTIMES SIGN;
    bINTERSECTION;bUNION;bOVERBAR;bUNDERBAR;JOIN;LARGE LEFT TRIANGLE OPERATOR;
    Z NOTATION SCHEMA COMPOSITION;cPIPING;cPROJECTION;PLUS SIGN WITH SMALL CIRCLE ABOVE;
    cCIRCUMFLEX ACCENT ABOVE;cTILDE ABOVE;cDOT BELOW;cTILDE BELOW;cSUBSCRIPT TWO;cBLACK TRIANGLE;
    MINUS SIGN WITH COMMA ABOVE;cDOT BELOW;cFALLING DOTS;cRISING DOTS;
    PLUS SIGN IN LEFT HALF CIRCLE;cRIGHT HALF CIRCLE;VECTOR OR CROSS PRODUCT;
    MULTIPLICATION SIGN WITH DOT ABOVE;cUNDERBAR;SEMIDIRECT PRODUCT WITH BOTTOM CLOSED;
    SMASH PRODUCT;MULTIPLICATION SIGN IN LEFT HALF CIRCLE;cRIGHT HALF CIRCLE;
    CIRCLED MULTIPLICATION SIGN WITH CIRCUMFLEX ACCENT;MULTIPLICATION SIGN IN DOUBLE CIRCLE;
    CIRCLED DIVISION SIGN;PLUS SIGN IN TRIANGLE;MINUS SIGN IN TRIANGLE;
    MULTIPLICATION SIGN IN TRIANGLE;INTERIOR PRODUCT;RIGHTHAND INTERIOR PRODUCT;
    Z NOTATION RELATIONAL COMPOSITION;AMALGAMATION OR COPRODUCT;INTERSECTION WITH DOT;
    UNION WITH MINUS SIGN;bOVERBAR;INTERSECTION WITH OVERBAR;bLOGICAL AND;UNION WITH LOGICAL OR;
    aABOVE INTERSECTION;INTERSECTION ABOVE UNION;UNION ABOVE BAR ABOVE INTERSECTION;
    INTERSECTION ABOVE BAR ABOVE UNION;UNION BESIDE AND JOINED WITH UNION;
    INTERSECTION BESIDE AND JOINED WITH INTERSECTION;CLOSED UNION WITH SERIFS;
    aINTERSECTION WITH SERIFS;DOUBLE SQUARE INTERSECTION;bUNION;
    CLOSED UNION WITH SERIFS AND SMASH PRODUCT;LOGICAL AND WITH DOT ABOVE;aOR WITH DOT ABOVE;
    DOUBLE LOGICAL AND;bOR;TWO INTERSECTING LOGICAL AND;cOR;SLOPING LARGE OR;bAND;
    LOGICAL OR OVERLAPPING LOGICAL AND;aAND WITH MIDDLE STEM;aOR WITH MIDDLE STEM;
    aAND WITH HORIZONTAL DASH;aOR WITH HORIZONTAL DASH;aAND WITH DOUBLE OVERBAR;cUNDERBAR;
    cDOUBLE UNDERBAR;SMALL VEE WITH UNDERBAR;LOGICAL OR WITH DOUBLE OVERBAR;dUNDERBAR;
    Z NOTATION DOMAIN ANTIRESTRICTION;bRANGE ANTIRESTRICTION;EQUALS SIGN WITH DOT BELOW;
    IDENTICAL WITH DOT ABOVE;TRIPLE HORIZONTAL BAR WITH DOUBLE VERTICAL STROKE;
    dTRIPLE VERTICAL STROKE;TILDE OPERATOR WITH DOT ABOVE;cRISING DOTS;SIMILAR MINUS SIMILAR;
    CONGRUENT WITH DOT ABOVE;EQUALS WITH ASTERISK;ALMOST EQUAL TO WITH CIRCUMFLEX ACCENT;
    APPROXIMATELY EQUAL OR EQUAL TO;EQUALS SIGN ABOVE PLUS SIGN;PLUS SIGN ABOVE EQUALS SIGN;
    EQUALS SIGN ABOVE TILDE OPERATOR;DOUBLE COLON EQUAL;TWO CONSECUTIVE EQUALS SIGNS;
    THREE CONSECUTIVE EQUALS SIGNS;EQUALS SIGN WITH TWO DOTS ABOVE AND TWO DOTS BELOW;
    EQUIVALENT WITH FOUR DOTS ABOVE;LESS-THAN WITH CIRCLE INSIDE;GREATER-THAN WITH CIRCLE INSIDE;
    LESS-THAN WITH QUESTION MARK ABOVE;GREATER-THAN WITH QUESTION MARK ABOVE;
    LESS-THAN OR SLANTED EQUAL TO;GREATER-THAN OR SLANTED EQUAL TO;
    LESS-THAN OR SLANTED EQUAL TO WITH DOT INSIDE;
    GREATER-THAN OR SLANTED EQUAL TO WITH DOT INSIDE;
    LESS-THAN OR SLANTED EQUAL TO WITH DOT ABOVE;GREATER-THAN OR SLANTED EQUAL TO WITH DOT ABOVE;
    LESS-THAN OR SLANTED EQUAL TO WITH DOT ABOVE RIGHT;
    GREATER-THAN OR SLANTED EQUAL TO WITH DOT ABOVE LEFT;LESS-THAN OR APPROXIMATE;
    GREATER-THAN OR APPROXIMATE;LESS-THAN AND SINGLE-LINE NOT EQUAL TO;
    GREATER-THAN AND SINGLE-LINE NOT EQUAL TO;LESS-THAN AND NOT APPROXIMATE;
    GREATER-THAN AND NOT APPROXIMATE;LESS-THAN ABOVE DOUBLE-LINE EQUAL ABOVE GREATER-THAN;
    GREATER-THAN ABOVE DOUBLE-LINE EQUAL ABOVE LESS-THAN;LESS-THAN ABOVE SIMILAR OR EQUAL;
    GREATER-THAN ABOVE SIMILAR OR EQUAL;LESS-THAN ABOVE SIMILAR ABOVE GREATER-THAN;
    GREATER-THAN ABOVE SIMILAR ABOVE LESS-THAN;
    LESS-THAN ABOVE GREATER-THAN ABOVE DOUBLE-LINE EQUAL;
    GREATER-THAN ABOVE LESS-THAN ABOVE DOUBLE-LINE EQUAL;
    LESS-THAN ABOVE SLANTED EQUAL ABOVE GREATER-THAN ABOVE SLANTED EQUAL;
    GREATER-THAN ABOVE SLANTED EQUAL ABOVE LESS-THAN ABOVE SLANTED EQUAL;
    SLANTED EQUAL TO OR LESS-THAN;dGREATER-THAN;dLESS-THAN WITH DOT INSIDE;
    dGREATER-THAN WITH DOT INSIDE;DOUBLE-LINE EQUAL TO OR LESS-THAN;dGREATER-THAN;
    aSLANTED EQUAL TO OR LESS-THAN;eGREATER-THAN;SIMILAR OR LESS-THAN;bGREATER-THAN;
    aABOVE LESS-THAN ABOVE EQUALS SIGN;bGREATER-THAN ABOVE EQUALS SIGN;DOUBLE NESTED LESS-THAN;
    bGREATER-THAN;bLESS-THAN WITH UNDERBAR;GREATER-THAN OVERLAPPING LESS-THAN;aBESIDE LESS-THAN;
    LESS-THAN CLOSED BY CURVE;GREATER-THAN CLOSED BY CURVE;
    LESS-THAN CLOSED BY CURVE ABOVE SLANTED EQUAL;
    GREATER-THAN CLOSED BY CURVE ABOVE SLANTED EQUAL;SMALLER THAN;LARGER THAN;
    SMALLER THAN OR EQUAL TO;LARGER THAN OR EQUAL TO;EQUALS SIGN WITH BUMPY ABOVE;
    PRECEDES ABOVE SINGLE-LINE EQUALS SIGN;SUCCEEDS ABOVE SINGLE-LINE EQUALS SIGN;
    PRECEDES ABOVE SINGLE-LINE NOT EQUAL TO;SUCCEEDS ABOVE SINGLE-LINE NOT EQUAL TO;
    PRECEDES ABOVE EQUALS SIGN;SUCCEEDS ABOVE EQUALS SIGN;PRECEDES ABOVE NOT EQUAL TO;
    SUCCEEDS ABOVE NOT EQUAL TO;PRECEDES ABOVE ALMOST EQUAL TO;SUCCEEDS ABOVE ALMOST EQUAL TO;
    PRECEDES ABOVE NOT ALMOST EQUAL TO;SUCCEEDS ABOVE NOT ALMOST EQUAL TO;DOUBLE PRECEDES;
    aSUCCEEDS;SUBSET WITH DOT;SUPERSET WITH DOT;SUBSET WITH PLUS SIGN BELOW;
    SUPERSET WITH PLUS SIGN BELOW;SUBSET WITH MULTIPLICATION SIGN BELOW;
    SUPERSET WITH MULTIPLICATION SIGN BELOW;SUBSET OF OR EQUAL TO WITH DOT ABOVE;
    SUPERSET OF OR EQUAL TO WITH DOT ABOVE;SUBSET OF ABOVE EQUALS SIGN;
    SUPERSET OF ABOVE EQUALS SIGN;SUBSET OF ABOVE TILDE OPERATOR;
    SUPERSET OF ABOVE TILDE OPERATOR;SUBSET OF ABOVE ALMOST EQUAL TO;
    SUPERSET OF ABOVE ALMOST EQUAL TO;SUBSET OF ABOVE NOT EQUAL TO;
    SUPERSET OF ABOVE NOT EQUAL TO;SQUARE LEFT OPEN BOX OPERATOR;aRIGHT OPEN BOX OPERATOR;
    CLOSED SUBSET;aSUPERSET;aSUBSET OR EQUAL TO;aSUPERSET OR EQUAL TO;SUBSET ABOVE SUPERSET;
    SUPERSET ABOVE SUBSET;SUBSET ABOVE SUBSET;SUPERSET ABOVE SUPERSET;aBESIDE SUBSET;
    bAND JOINED BY DASH WITH SUBSET;ELEMENT OF OPENING DOWNWARDS;PITCHFORK WITH TEE TOP;
    TRANSVERSAL INTERSECTION;FORKING;NONFORKING;SHORT LEFT TACK;aDOWN TACK;aUP TACK;
    PERPENDICULAR WITH S;VERTICAL BAR TRIPLE RIGHT TURNSTILE;DOUBLE VERTICAL BAR LEFT TURNSTILE;
    VERTICAL BAR DOUBLE LEFT TURNSTILE;DOUBLE VERTICAL BAR DOUBLE LEFT TURNSTILE;
    LONG DASH FROM LEFT MEMBER OF DOUBLE VERTICAL;SHORT DOWN TACK WITH OVERBAR;
    aUP TACK WITH UNDERBAR;cABOVE SHORT DOWN TACK;DOUBLE DOWN TACK;aUP TACK;aSTROKE NOT SIGN;
    REVERSED DOUBLE STROKE NOT SIGN;DOES NOT DIVIDE WITH REVERSED NEGATION SLASH;
    VERTICAL LINE WITH CIRCLE ABOVE;dBELOW;DOWN TACK WITH CIRCLE BELOW;
    PARALLEL WITH HORIZONTAL STROKE;bTILDE OPERATOR;TRIPLE VERTICAL BAR BINARY RELATION;
    cWITH HORIZONTAL STROKE;aCOLON OPERATOR;aNESTED LESS-THAN;bGREATER-THAN;
    DOUBLE-LINE SLANTED LESS-THAN OR EQUAL TO;bGREATER-THAN OR EQUAL TO;
    TRIPLE SOLIDUS BINARY RELATION;LARGE TRIPLE VERTICAL BAR OPERATOR;DOUBLE SOLIDUS OPERATOR;
    WHITE VERTICAL BAR;N-ARY WHITE VERTICAL BAR"⟩,
  ⟨0x2b00,
   "NORTH EAST WHITE ARROW;aWEST WHITE ARROW;SOUTH EAST WHITE ARROW;aWEST WHITE ARROW;
    LEFT RIGHT WHITE ARROW;LEFTWARDS BLACK ARROW;UPWARDS BLACK ARROW;DOWNWARDS BLACK ARROW;
    NORTH EAST BLACK ARROW;aWEST BLACK ARROW;SOUTH EAST BLACK ARROW;aWEST BLACK ARROW;
    LEFT RIGHT BLACK ARROW;UP DOWN BLACK ARROW;RIGHTWARDS ARROW WITH TIP DOWNWARDS;dUPWARDS;
    LEFTWARDS ARROW WITH TIP DOWNWARDS;dUPWARDS;SQUARE WITH TOP HALF BLACK;bBOTTOM HALF BLACK;
    bUPPER RIGHT DIAGONAL HALF BLACK;bLOWER LEFT DIAGONAL HALF BLACK;
    DIAMOND WITH LEFT HALF BLACK;bRIGHT HALF BLACK;bTOP HALF BLACK;bBOTTOM HALF BLACK;
    DOTTED SQUARE;BLACK LARGE SQUARE;WHITE LARGE SQUARE;BLACK VERY SMALL SQUARE;
    WHITE VERY SMALL SQUARE;BLACK PENTAGON;WHITE PENTAGON;aHEXAGON;BLACK HEXAGON;
    HORIZONTAL BLACK HEXAGON;BLACK LARGE CIRCLE;aMEDIUM DIAMOND;WHITE MEDIUM DIAMOND;
    BLACK MEDIUM LOZENGE;WHITE MEDIUM LOZENGE;BLACK SMALL DIAMOND;bLOZENGE;WHITE SMALL LOZENGE;
    BLACK HORIZONTAL ELLIPSE;WHITE HORIZONTAL ELLIPSE;BLACK VERTICAL ELLIPSE;
    WHITE VERTICAL ELLIPSE;LEFT ARROW WITH SMALL CIRCLE;THREE LEFTWARDS ARROWS;
    LEFT ARROW WITH CIRCLED PLUS;LONG LEFTWARDS SQUIGGLE ARROW;
    LEFTWARDS TWO-HEADED ARROW WITH VERTICAL STROKE;dDOUBLE VERTICAL STROKE;cFROM BAR;
    bTRIPLE DASH ARROW;aARROW WITH DOTTED STEM;cTAIL WITH VERTICAL STROKE;
    eDOUBLE VERTICAL STROKE;aTWO-HEADED ARROW WITH TAIL;eWITH VERTICAL STROKE;
    fDOUBLE VERTICAL STROKE;aARROW THROUGH X;WAVE ARROW POINTING DIRECTLY LEFT;
    EQUALS SIGN ABOVE LEFTWARDS ARROW;REVERSE TILDE OPERATOR ABOVE LEFTWARDS ARROW;
    LEFTWARDS ARROW ABOVE REVERSE ALMOST EQUAL TO;RIGHTWARDS ARROW THROUGH GREATER-THAN;
    cSUPERSET;LEFTWARDS QUADRUPLE ARROW;RIGHTWARDS QUADRUPLE ARROW;
    REVERSE TILDE OPERATOR ABOVE RIGHTWARDS ARROW;RIGHTWARDS ARROW ABOVE REVERSE ALMOST EQUAL TO;
    TILDE OPERATOR ABOVE LEFTWARDS ARROW;LEFTWARDS ARROW ABOVE ALMOST EQUAL TO;
    cREVERSE TILDE OPERATOR;RIGHTWARDS ARROW ABOVE REVERSE TILDE OPERATOR;
    DOWNWARDS TRIANGLE-HEADED ZIGZAG ARROW;SHORT SLANTED NORTH ARROW;aBACKSLANTED SOUTH ARROW;
    WHITE MEDIUM STAR;BLACK SMALL STAR;WHITE SMALL STAR;BLACK RIGHT-POINTING PENTAGON;
    WHITE RIGHT-POINTING PENTAGON;HEAVY LARGE CIRCLE;aOVAL WITH OVAL INSIDE;
    aCIRCLE WITH CIRCLE INSIDE;b;aCIRCLED SALTIRE;SLANTED NORTH ARROW WITH HOOKED HEAD;
    BACKSLANTED SOUTH ARROW WITH HOOKED TAIL;SLANTED NORTH ARROW WITH HORIZONTAL TAIL;
    BACKSLANTED SOUTH ARROW WITH HORIZONTAL TAIL;BENT ARROW POINTING DOWNWARDS THEN NORTH EAST;
    SHORT BENT ARROW POINTING DOWNWARDS THEN NORTH EAST;LEFTWARDS TRIANGLE-HEADED ARROW;
    UPWARDS TRIANGLE-HEADED ARROW;RIGHTWARDS TRIANGLE-HEADED ARROW;
    DOWNWARDS TRIANGLE-HEADED ARROW;LEFT RIGHT TRIANGLE-HEADED ARROW;
    UP DOWN TRIANGLE-HEADED ARROW;NORTH WEST TRIANGLE-HEADED ARROW;aEAST TRIANGLE-HEADED ARROW;
    SOUTH EAST TRIANGLE-HEADED ARROW;aWEST TRIANGLE-HEADED ARROW;
    LEFTWARDS TRIANGLE-HEADED DASHED ARROW;UPWARDS TRIANGLE-HEADED DASHED ARROW;
    RIGHTWARDS TRIANGLE-HEADED DASHED ARROW;DOWNWARDS TRIANGLE-HEADED DASHED ARROW;
    CLOCKWISE TRIANGLE-HEADED OPEN CIRCLE ARROW;ANTICLOCKWISE TRIANGLE-HEADED OPEN CIRCLE ARROW;
    LEFTWARDS TRIANGLE-HEADED ARROW TO BAR;UPWARDS TRIANGLE-HEADED ARROW TO BAR;
    RIGHTWARDS TRIANGLE-HEADED ARROW TO BAR;DOWNWARDS TRIANGLE-HEADED ARROW TO BAR"⟩,
  ⟨0x2b76,
   "NORTH WEST TRIANGLE-HEADED ARROW TO BAR;aEAST TRIANGLE-HEADED ARROW TO BAR;
    SOUTH EAST TRIANGLE-HEADED ARROW TO BAR;aWEST TRIANGLE-HEADED ARROW TO BAR;
    LEFTWARDS TRIANGLE-HEADED ARROW WITH DOUBLE HORIZONTAL STROKE;
    UPWARDS TRIANGLE-HEADED ARROW WITH DOUBLE HORIZONTAL STROKE;
    RIGHTWARDS TRIANGLE-HEADED ARROW WITH DOUBLE HORIZONTAL STROKE;
    DOWNWARDS TRIANGLE-HEADED ARROW WITH DOUBLE HORIZONTAL STROKE;HORIZONTAL TAB KEY;
    VERTICAL TAB KEY;LEFTWARDS TRIANGLE-HEADED ARROW OVER RIGHTWARDS TRIANGLE-HEADED ARROW;
    UPWARDS TRIANGLE-HEADED ARROW LEFTWARDS OF DOWNWARDS TRIANGLE-HEADED ARROW;
    RIGHTWARDS TRIANGLE-HEADED ARROW OVER LEFTWARDS TRIANGLE-HEADED ARROW;
    DOWNWARDS TRIANGLE-HEADED ARROW LEFTWARDS OF UPWARDS TRIANGLE-HEADED ARROW;
    LEFTWARDS TRIANGLE-HEADED PAIRED ARROWS;UPWARDS TRIANGLE-HEADED PAIRED ARROWS;
    RIGHTWARDS TRIANGLE-HEADED PAIRED ARROWS;DOWNWARDS TRIANGLE-HEADED PAIRED ARROWS;
    LEFTWARDS BLACK CIRCLED WHITE ARROW;UPWARDS BLACK CIRCLED WHITE ARROW;
    RIGHTWARDS BLACK CIRCLED WHITE ARROW;DOWNWARDS BLACK CIRCLED WHITE ARROW;
    ANTICLOCKWISE TRIANGLE-HEADED RIGHT U-SHAPED ARROW;bBOTTOM U-SHAPED ARROW;
    bLEFT U-SHAPED ARROW;bTOP U-SHAPED ARROW;RETURN LEFT;aRIGHT;NEWLINE LEFT;aRIGHT;
    FOUR CORNER ARROWS CIRCLING ANTICLOCKWISE;RIGHTWARDS BLACK ARROW"⟩,
  ⟨0x2b97,
   "SYMBOL FOR TYPE A ELECTRONICS;THREE-D TOP-LIGHTED LEFTWARDS EQUILATERAL ARROWHEAD;
    aRIGHT-LIGHTED UPWARDS EQUILATERAL ARROWHEAD;aTOP-LIGHTED RIGHTWARDS EQUILATERAL ARROWHEAD;
    aLEFT-LIGHTED DOWNWARDS EQUILATERAL ARROWHEAD;BLACK LEFTWARDS EQUILATERAL ARROWHEAD;
    aUPWARDS EQUILATERAL ARROWHEAD;aRIGHTWARDS EQUILATERAL ARROWHEAD;
    aDOWNWARDS EQUILATERAL ARROWHEAD;DOWNWARDS TRIANGLE-HEADED ARROW WITH LONG TIP LEFTWARDS;
    fRIGHTWARDS;UPWARDS TRIANGLE-HEADED ARROW WITH LONG TIP LEFTWARDS;fRIGHTWARDS;
    LEFTWARDS TRIANGLE-HEADED ARROW WITH LONG TIP UPWARDS;
    RIGHTWARDS TRIANGLE-HEADED ARROW WITH LONG TIP UPWARDS;
    LEFTWARDS TRIANGLE-HEADED ARROW WITH LONG TIP DOWNWARDS;
    RIGHTWARDS TRIANGLE-HEADED ARROW WITH LONG TIP DOWNWARDS;
    BLACK CURVED DOWNWARDS AND LEFTWARDS ARROW;dRIGHTWARDS ARROW;bUPWARDS AND LEFTWARDS ARROW;
    dRIGHTWARDS ARROW;bLEFTWARDS AND UPWARDS ARROW;bRIGHTWARDS AND UPWARDS ARROW;
    bLEFTWARDS AND DOWNWARDS ARROW;bRIGHTWARDS AND DOWNWARDS ARROW;RIBBON ARROW DOWN LEFT;cRIGHT;
    bUP LEFT;cRIGHT;bLEFT UP;bRIGHT UP;bLEFT DOWN;bRIGHT DOWN;
    UPWARDS WHITE ARROW FROM BAR WITH HORIZONTAL BAR;UP ARROWHEAD IN A RECTANGLE BOX;
    OVERLAPPING WHITE SQUARES;bAND BLACK SQUARES;aBLACK SQUARES;BALLOT BOX WITH LIGHT X;
    CIRCLED X;aBOLD X;BLACK SQUARE CENTRED;aDIAMOND CENTRED;TURNED BLACK PENTAGON;
    HORIZONTAL BLACK OCTAGON;BLACK OCTAGON;aMEDIUM UP-POINTING TRIANGLE CENTRED;
    bDOWN-POINTING TRIANGLE CENTRED;bLEFT-POINTING TRIANGLE CENTRED;
    bRIGHT-POINTING TRIANGLE CENTRED;NEPTUNE FORM TWO;TOP HALF BLACK CIRCLE;
    BOTTOM HALF BLACK CIRCLE;LIGHT FOUR POINTED BLACK CUSP;ROTATED LIGHT FOUR POINTED BLACK CUSP;
    WHITE FOUR POINTED CUSP;ROTATED WHITE FOUR POINTED CUSP;SQUARE POSITION INDICATOR;
    UNCERTAINTY SIGN;GROUP MARK;PLUTO FORM TWO;bTHREE;bFOUR;bFIVE;TRANSPLUTO;PROSERPINA;ASTRAEA;
    HYGIEA;PHOLUS;NESSUS;WHITE MOON SELENA;BLACK DIAMOND ON CROSS;TRUE LIGHT MOON ARTA;CUPIDO;
    HADES;ZEUS;KRONOS;APOLLON;ADMETOS;VULCANUS;POSEIDON;LEFT HALF BLACK STAR;
    RIGHT HALF BLACK STAR;STAR WITH LEFT HALF BLACK;bRIGHT HALF BLACK;
    LEFTWARDS TWO-HEADED ARROW WITH TRIANGLE ARROWHEADS;
    UPWARDS TWO-HEADED ARROW WITH TRIANGLE ARROWHEADS;
    RIGHTWARDS TWO-HEADED ARROW WITH TRIANGLE ARROWHEADS;
    DOWNWARDS TWO-HEADED ARROW WITH TRIANGLE ARROWHEADS;ERIS FORM ONE;bTWO;SEDNA;
    RUSSIAN ASTROLOGICAL SYMBOL VIGINTILE;cNOVILE;cQUINTILE;cBINOVILE;cSENTAGON;cTREDECILE;
    EQUALS SIGN WITH INFINITY BELOW;UNITED SYMBOL;SEPARATED SYMBOL;DOUBLED SYMBOL;PASSED SYMBOL;
    REVERSED RIGHT ANGLE;HELLSCHREIBER PAUSE SYMBOL"⟩,
  ⟨0x2c00,
   "GLAGOLITIC CAPITAL LETTER AZU;cBUKY;cVEDE;cGLAGOLI;cDOBRO;cYESTU;cZHIVETE;cDZELO;cZEMLJA;
    cIZHE;cINITIAL IZHE;cI;cDJERVI;cKAKO;cLJUDIJE;cMYSLITE;cNASHI;cONU;cPOKOJI;cRITSI;cSLOVO;
    cTVRIDO;cUKU;cFRITU;cHERU;cOTU;cPE;cSHTA;cTSI;cCHRIVI;cSHA;cYERU;cYERI;cYATI;cSPIDERY HA;cYU;
    cSMALL YUS;eWITH TAIL;cYO;cIOTATED SMALL YUS;cBIG YUS;cIOTATED BIG YUS;cFITA;cIZHITSA;
    cSHTAPIC;cTROKUTASTI A;cLATINATE MYSLITE;cCAUDATE CHRIVI;aSMALL LETTER AZU;cBUKY;cVEDE;
    cGLAGOLI;cDOBRO;cYESTU;cZHIVETE;cDZELO;cZEMLJA;cIZHE;cINITIAL IZHE;cI;cDJERVI;cKAKO;cLJUDIJE;
    cMYSLITE;cNASHI;cONU;cPOKOJI;cRITSI;cSLOVO;cTVRIDO;cUKU;cFRITU;cHERU;cOTU;cPE;cSHTA;cTSI;
    cCHRIVI;cSHA;cYERU;cYERI;cYATI;cSPIDERY HA;cYU;cSMALL YUS;eWITH TAIL;cYO;cIOTATED SMALL YUS;
    cBIG YUS;cIOTATED BIG YUS;cFITA;cIZHITSA;cSHTAPIC;cTROKUTASTI A;cLATINATE MYSLITE;
    cCAUDATE CHRIVI;LATIN CAPITAL LETTER L WITH DOUBLE BAR;aSMALL LETTER L WITH DOUBLE BAR;
    aCAPITAL LETTER L WITH MIDDLE TILDE;cP WITH STROKE;cR WITH TAIL;aSMALL LETTER A WITH STROKE;
    cT WITH DIAGONAL STROKE;aCAPITAL LETTER H WITH DESCENDER;aSMALL LETTER H WITH DESCENDER;
    aCAPITAL LETTER K WITH DESCENDER;aSMALL LETTER K WITH DESCENDER;
    aCAPITAL LETTER Z WITH DESCENDER;aSMALL LETTER Z WITH DESCENDER;aCAPITAL LETTER ALPHA;
    cM WITH HOOK;cTURNED A;dALPHA;aSMALL LETTER V WITH RIGHT HOOK;aCAPITAL LETTER W WITH HOOK;
    aSMALL LETTER W WITH HOOK;cV WITH CURL;aCAPITAL LETTER HALF H;aSMALL LETTER HALF H;
    cTAILLESS PHI;cE WITH NOTCH;cTURNED R WITH TAIL;cO WITH LOW RING INSIDE;
    aLETTER SMALL CAPITAL TURNED E;aSUBSCRIPT SMALL LETTER J;MODIFIER LETTER CAPITAL V;
    LATIN CAPITAL LETTER S WITH SWASH TAIL;cZ WITH SWASH TAIL;COPTIC CAPITAL LETTER ALFA;
    aSMALL LETTER ALFA;aCAPITAL LETTER VIDA;aSMALL LETTER VIDA;aCAPITAL LETTER GAMMA;
    aSMALL LETTER GAMMA;aCAPITAL LETTER DALDA;aSMALL LETTER DALDA;aCAPITAL LETTER EIE;
    aSMALL LETTER EIE;aCAPITAL LETTER SOU;aSMALL LETTER SOU;aCAPITAL LETTER ZATA;
    aSMALL LETTER ZATA;aCAPITAL LETTER HATE;aSMALL LETTER HATE;aCAPITAL LETTER THETHE;
    aSMALL LETTER THETHE;aCAPITAL LETTER IAUDA;aSMALL LETTER IAUDA;aCAPITAL LETTER KAPA;
    aSMALL LETTER KAPA;aCAPITAL LETTER LAULA;aSMALL LETTER LAULA;aCAPITAL LETTER MI;
    aSMALL LETTER MI;aCAPITAL LETTER NI;aSMALL LETTER NI;aCAPITAL LETTER KSI;aSMALL LETTER KSI;
    aCAPITAL LETTER O;aSMALL LETTER O;aCAPITAL LETTER PI;aSMALL LETTER PI;aCAPITAL LETTER RO;
    aSMALL LETTER RO;aCAPITAL LETTER SIMA;aSMALL LETTER SIMA;aCAPITAL LETTER TAU;
    aSMALL LETTER TAU;aCAPITAL LETTER UA;aSMALL LETTER UA;aCAPITAL LETTER FI;aSMALL LETTER FI;
    aCAPITAL LETTER KHI;aSMALL LETTER KHI;aCAPITAL LETTER PSI;aSMALL LETTER PSI;
    aCAPITAL LETTER OOU;aSMALL LETTER OOU;aCAPITAL LETTER DIALECT-P ALEF;
    aSMALL LETTER DIALECT-P ALEF;aCAPITAL LETTER OLD COPTIC AIN;aSMALL LETTER OLD COPTIC AIN;
    aCAPITAL LETTER CRYPTOGRAMMIC EIE;aSMALL LETTER CRYPTOGRAMMIC EIE;
    aCAPITAL LETTER DIALECT-P KAPA;aSMALL LETTER DIALECT-P KAPA;aCAPITAL LETTER DIALECT-P NI;
    aSMALL LETTER DIALECT-P NI;aCAPITAL LETTER CRYPTOGRAMMIC NI;aSMALL LETTER CRYPTOGRAMMIC NI;
    aCAPITAL LETTER OLD COPTIC OOU;aSMALL LETTER OLD COPTIC OOU;aCAPITAL LETTER SAMPI;
    aSMALL LETTER SAMPI;aCAPITAL LETTER CROSSED SHEI;aSMALL LETTER CROSSED SHEI;
    aCAPITAL LETTER OLD COPTIC SHEI;aSMALL LETTER OLD COPTIC SHEI;aCAPITAL LETTER OLD COPTIC ESH;
    aSMALL LETTER OLD COPTIC ESH;aCAPITAL LETTER AKHMIMIC KHEI;aSMALL LETTER AKHMIMIC KHEI;
    aCAPITAL LETTER DIALECT-P HORI;aSMALL LETTER DIALECT-P HORI;aCAPITAL LETTER OLD COPTIC HORI;
    aSMALL LETTER OLD COPTIC HORI;aCAPITAL LETTER OLD COPTIC HA;aSMALL LETTER OLD COPTIC HA;
    aCAPITAL LETTER L-SHAPED HA;aSMALL LETTER L-SHAPED HA;aCAPITAL LETTER OLD COPTIC HEI;
    aSMALL LETTER OLD COPTIC HEI;aCAPITAL LETTER OLD COPTIC HAT;aSMALL LETTER OLD COPTIC HAT;
    aCAPITAL LETTER OLD COPTIC GANGIA;aSMALL LETTER OLD COPTIC GANGIA;
    aCAPITAL LETTER OLD COPTIC DJA;aSMALL LETTER OLD COPTIC DJA;aCAPITAL LETTER OLD COPTIC SHIMA;
    aSMALL LETTER OLD COPTIC SHIMA;aCAPITAL LETTER OLD NUBIAN SHIMA;
    aSMALL LETTER OLD NUBIAN SHIMA;aCAPITAL LETTER OLD NUBIAN NGI;aSMALL LETTER OLD NUBIAN NGI;
    aCAPITAL LETTER OLD NUBIAN NYI;aSMALL LETTER OLD NUBIAN NYI;aCAPITAL LETTER OLD NUBIAN WAU;
    aSMALL LETTER OLD NUBIAN WAU;aSYMBOL KAI;bMI RO;bPI RO;bSTAUROS;bTAU RO;bKHI RO;bSHIMA SIMA;
    aCAPITAL LETTER CRYPTOGRAMMIC SHEI;aSMALL LETTER CRYPTOGRAMMIC SHEI;
    aCAPITAL LETTER CRYPTOGRAMMIC GANGIA;aSMALL LETTER CRYPTOGRAMMIC GANGIA;aCOMBINING NI ABOVE;
    bSPIRITUS ASPER;cLENIS;aCAPITAL LETTER BOHAIRIC KHEI;aSMALL LETTER BOHAIRIC KHEI"⟩,
  ⟨0x2cf9,
   "COPTIC OLD NUBIAN FULL STOP;cDIRECT QUESTION MARK;cINDIRECT QUESTION MARK;cVERSE DIVIDER;
    aFRACTION ONE HALF;aFULL STOP;aMORPHOLOGICAL DIVIDER"⟩,
  ⟨0x2d00,
   "GEORGIAN SMALL LETTER AN;cBAN;cGAN;cDON;cEN;cVIN;cZEN;cTAN;cIN;cKAN;cLAS;cMAN;cNAR;cON;cPAR;
    cZHAR;cRAE;cSAN;cTAR;cUN;cPHAR;cKHAR;cGHAN;cQAR;cSHIN;cCHIN;cCAN;cJIL;cCIL;cCHAR;cXAN;cJHAN;
    cHAE;cHE;cHIE;cWE;cHAR;cHOE"⟩,
  ⟨0x2d27, "GEORGIAN SMALL LETTER YN"⟩,
  ⟨0x2d2d, "GEORGIAN SMALL LETTER AEN"⟩,
  ⟨0x2d30,
   "TIFINAGH LETTER YA;bYAB;bYABH;bYAG;bYAGHH;bBERBER ACADEMY YAJ;bYAJ;bYAD;bYADH;bYADD;bYADDH;
    bYEY;bYAF;bYAK;bTUAREG YAK;bYAKHH;bYAH;bBERBER ACADEMY YAH;bTUAREG YAH;bYAHH;bYAA;bYAKH;
    bTUAREG YAKH;bYAQ;bTUAREG YAQ;bYI;bYAZH;bAHAGGAR YAZH;bTUAREG YAZH;bYAL;bYAM;bYAN;
    bTUAREG YAGN;cYANG;bYAP;bYU;bYAR;bYARR;bYAGH;bTUAREG YAGH;bAYER YAGH;bYAS;bYASS;bYASH;bYAT;
    bYATH;bYACH;bYATT;bYAV;bYAW;bYAY;bYAZ;bTAWELLEMET YAZ;bYAZZ;bYE;bYO"⟩,
  ⟨0x2d6f, "TIFINAGH MODIFIER LETTER LABIALIZATION MARK;aSEPARATOR MARK"⟩,
  ⟨0x2d7f,
   "TIFINAGH CONSONANT JOINER;ETHIOPIC SYLLABLE LOA;bMOA;bROA;bSOA;bSHOA;bBOA;bTOA;bCOA;bNOA;
    bNYOA;bGLOTTAL OA;bZOA;bDOA;bDDOA;bJOA;bTHOA;bCHOA;bPHOA;bPOA;bGGWA;bGGWI;bGGWEE;bGGWE"⟩,
  ⟨0x2da0, "ETHIOPIC SYLLABLE SSA;bSSU;bSSI;bSSAA;bSSEE;bSSE;bSSO"⟩,
  ⟨0x2da8, "ETHIOPIC SYLLABLE CCA;bCCU;bCCI;bCCAA;bCCEE;bCCE;bCCO"⟩,
  ⟨0x2db0, "ETHIOPIC SYLLABLE ZZA;bZZU;bZZI;bZZAA;bZZEE;bZZE;bZZO"⟩,
  ⟨0x2db8, "ETHIOPIC SYLLABLE CCHA;bCCHU;bCCHI;bCCHAA;bCCHEE;bCCHE;bCCHO"⟩,
  ⟨0x2dc0, "ETHIOPIC SYLLABLE QYA;bQYU;bQYI;bQYAA;bQYEE;bQYE;bQYO"⟩,
  ⟨0x2dc8, "ETHIOPIC SYLLABLE KYA;bKYU;bKYI;bKYAA;bKYEE;bKYE;bKYO"⟩,
  ⟨0x2dd0, "ETHIOPIC SYLLABLE XYA;bXYU;bXYI;bXYAA;bXYEE;bXYE;bXYO"⟩,
  ⟨0x2dd8, "ETHIOPIC SYLLABLE GYA;bGYU;bGYI;bGYAA;bGYEE;bGYE;bGYO"⟩,
  ⟨0x2de0,
   "COMBINING CYRILLIC LETTER BE;cVE;cGHE;cDE;cZHE;cZE;cKA;cEL;cEM;cEN;cO;cPE;cER;cES;cTE;cHA;
    cTSE;cCHE;cSHA;cSHCHA;cFITA;cES-TE;cA;cIE;cDJERV;cMONOGRAPH UK;cYAT;cYU;cIOTIFIED A;
    cLITTLE YUS;cBIG YUS;cIOTIFIED BIG YUS"⟩,
  ⟨0x2e00,
   "RIGHT ANGLE SUBSTITUTION MARKER;bDOTTED SUBSTITUTION MARKER;LEFT SUBSTITUTION BRACKET;
    RIGHT SUBSTITUTION BRACKET;LEFT DOTTED SUBSTITUTION BRACKET;
    RIGHT DOTTED SUBSTITUTION BRACKET;RAISED INTERPOLATION MARKER;aDOTTED INTERPOLATION MARKER;
    DOTTED TRANSPOSITION MARKER;LEFT TRANSPOSITION BRACKET;RIGHT TRANSPOSITION BRACKET;
    RAISED SQUARE;LEFT RAISED OMISSION BRACKET;RIGHT RAISED OMISSION BRACKET;EDITORIAL CORONIS;
    PARAGRAPHOS;FORKED PARAGRAPHOS;REVERSED FORKED PARAGRAPHOS;HYPODIASTOLE;DOTTED OBELOS;
    DOWNWARDS ANCORA;UPWARDS ANCORA;DOTTED RIGHT-POINTING ANGLE;DOUBLE OBLIQUE HYPHEN;
    INVERTED INTERROBANG;PALM BRANCH;HYPHEN WITH DIAERESIS;TILDE WITH RING ABOVE;
    LEFT LOW PARAPHRASE BRACKET;RIGHT LOW PARAPHRASE BRACKET;TILDE WITH DOT ABOVE;cBELOW;
    LEFT VERTICAL BAR WITH QUILL;RIGHT VERTICAL BAR WITH QUILL;TOP LEFT HALF BRACKET;
    aRIGHT HALF BRACKET;BOTTOM LEFT HALF BRACKET;aRIGHT HALF BRACKET;LEFT SIDEWAYS U BRACKET;
    RIGHT SIDEWAYS U BRACKET;LEFT DOUBLE PARENTHESIS;RIGHT DOUBLE PARENTHESIS;
    TWO DOTS OVER ONE DOT PUNCTUATION;ONE DOT OVER TWO DOTS PUNCTUATION;
    SQUARED FOUR DOT PUNCTUATION;FIVE DOT MARK;REVERSED QUESTION MARK;VERTICAL TILDE;RING POINT;
    WORD SEPARATOR MIDDLE DOT;TURNED COMMA;RAISED DOT;aCOMMA;TURNED SEMICOLON;
    DAGGER WITH LEFT GUARD;bRIGHT GUARD;TURNED DAGGER;TOP HALF SECTION SIGN;TWO-EM DASH;
    THREE-EM DASH;STENOGRAPHIC FULL STOP;VERTICAL SIX DOTS;WIGGLY VERTICAL LINE;CAPITULUM;
    DOUBLE HYPHEN;REVERSED COMMA;DOUBLE LOW-REVERSED-9 QUOTATION MARK;DASH WITH LEFT UPTURN;
    DOUBLE SUSPENSION MARK;INVERTED LOW KAVYKA;cWITH KAVYKA ABOVE;LOW KAVYKA;bWITH DOT;
    DOUBLE STACKED COMMA;DOTTED SOLIDUS;TRIPLE DAGGER;MEDIEVAL COMMA;PARAGRAPHUS MARK;
    PUNCTUS ELEVATUS MARK;CORNISH VERSE DIVIDER;CROSS PATTY WITH RIGHT CROSSBAR;cLEFT CROSSBAR;
    TIRONIAN SIGN CAPITAL ET;MEDIEVAL EXCLAMATION MARK;aQUESTION MARK;
    LEFT SQUARE BRACKET WITH STROKE;RIGHT SQUARE BRACKET WITH STROKE;
    LEFT SQUARE BRACKET WITH DOUBLE STROKE;RIGHT SQUARE BRACKET WITH DOUBLE STROKE;
    TOP HALF LEFT PARENTHESIS;bRIGHT PARENTHESIS;BOTTOM HALF LEFT PARENTHESIS;bRIGHT PARENTHESIS;
    OBLIQUE HYPHEN"⟩,
  ⟨0x2e80,
   "CJK RADICAL REPEAT;bCLIFF;bSECOND ONE;cTWO;cTHREE;bPERSON;bBOX;bTABLE;bKNIFE ONE;cTWO;
    bDIVINATION;bSEAL;bSMALL ONE;cTWO;bLAME ONE;cTWO;cTHREE;cFOUR;bSNAKE;bTHREAD;bSNOUT ONE;cTWO;
    bHEART ONE;cTWO;bHAND;bRAP"⟩,
  ⟨0x2e9b,
   "CJK RADICAL CHOKE;bSUN;bMOON;bDEATH;bMOTHER;bCIVILIAN;bWATER ONE;cTWO;bFIRE;bPAW ONE;cTWO;
    bSIMPLIFIED HALF TREE TRUNK;bCOW;bDOG;bJADE;bBOLT OF CLOTH;bEYE;bSPIRIT ONE;cTWO;bBAMBOO;
    bSILK;bC-SIMPLIFIED SILK;bNET ONE;cTWO;cTHREE;cFOUR;bMESH;bSHEEP;bRAM;bEWE;bOLD;bBRUSH ONE;
    cTWO;bMEAT;bMORTAR;bGRASS ONE;cTWO;cTHREE;bTIGER;bCLOTHES;bWEST ONE;cTWO;bC-SIMPLIFIED SEE;
    bSIMPLIFIED HORN;bHORN;bC-SIMPLIFIED SPEECH;cSHELL;bFOOT;bC-SIMPLIFIED CART;bSIMPLIFIED WALK;
    bWALK ONE;cTWO;bCITY;bC-SIMPLIFIED GOLD;bLONG ONE;cTWO;bC-SIMPLIFIED LONG;cGATE;bMOUND ONE;
    cTWO;bRAIN;bBLUE;bC-SIMPLIFIED TANNED LEATHER;cLEAF;cWIND;cFLY;bEAT ONE;cTWO;cTHREE;
    bC-SIMPLIFIED EAT;bHEAD;bC-SIMPLIFIED HORSE;bBONE;bGHOST;bC-SIMPLIFIED FISH;cBIRD;cSALT;
    bSIMPLIFIED WHEAT;cYELLOW;bC-SIMPLIFIED FROG;bJ-SIMPLIFIED EVEN;bC-SIMPLIFIED EVEN;
    bJ-SIMPLIFIED TOOTH;bC-SIMPLIFIED TOOTH;bJ-SIMPLIFIED DRAGON;bC-SIMPLIFIED DRAGON;bTURTLE;
    bJ-SIMPLIFIED TURTLE;bC-SIMPLIFIED TURTLE"⟩,
  ⟨0x2f00,
   "KANGXI RADICAL ONE;bLINE;bDOT;bSLASH;bSECOND;bHOOK;bTWO;bLID;bMAN;bLEGS;bENTER;bEIGHT;
    bDOWN BOX;bCOVER;bICE;bTABLE;bOPEN BOX;bKNIFE;bPOWER;bWRAP;bSPOON;bRIGHT OPEN BOX;
    bHIDING ENCLOSURE;bTEN;bDIVINATION;bSEAL;bCLIFF;bPRIVATE;bAGAIN;bMOUTH;bENCLOSURE;bEARTH;
    bSCHOLAR;bGO;cSLOWLY;bEVENING;bBIG;bWOMAN;bCHILD;bROOF;bINCH;bSMALL;bLAME;bCORPSE;bSPROUT;
    bMOUNTAIN;bRIVER;bWORK;bONESELF;bTURBAN;bDRY;bSHORT THREAD;bDOTTED CLIFF;bLONG STRIDE;
    bTWO HANDS;bSHOOT;bBOW;bSNOUT;bBRISTLE;bSTEP;bHEART;bHALBERD;bDOOR;bHAND;bBRANCH;bRAP;
    bSCRIPT;bDIPPER;bAXE;bSQUARE;bNOT;bSUN;bSAY;bMOON;bTREE;bLACK;bSTOP;bDEATH;bWEAPON;bDO NOT;
    bCOMPARE;bFUR;bCLAN;bSTEAM;bWATER;bFIRE;bCLAW;bFATHER;bDOUBLE X;bHALF TREE TRUNK;bSLICE;
    bFANG;bCOW;bDOG;bPROFOUND;bJADE;bMELON;bTILE;bSWEET;bLIFE;bUSE;bFIELD;bBOLT OF CLOTH;
    bSICKNESS;bDOTTED TENT;bWHITE;bSKIN;bDISH;bEYE;bSPEAR;bARROW;bSTONE;bSPIRIT;bTRACK;bGRAIN;
    bCAVE;bSTAND;bBAMBOO;bRICE;bSILK;bJAR;bNET;bSHEEP;bFEATHER;bOLD;bAND;bPLOW;bEAR;bBRUSH;bMEAT;
    bMINISTER;bSELF;bARRIVE;bMORTAR;bTONGUE;bOPPOSE;bBOAT;bSTOPPING;bCOLOR;bGRASS;bTIGER;bINSECT;
    bBLOOD;bWALK ENCLOSURE;bCLOTHES;bWEST;bSEE;bHORN;bSPEECH;bVALLEY;bBEAN;bPIG;bBADGER;bSHELL;
    bRED;bRUN;bFOOT;bBODY;bCART;bBITTER;bMORNING;bWALK;bCITY;bWINE;bDISTINGUISH;bVILLAGE;bGOLD;
    bLONG;bGATE;bMOUND;bSLAVE;bSHORT TAILED BIRD;bRAIN;bBLUE;bWRONG;bFACE;bLEATHER;
    bTANNED LEATHER;bLEEK;bSOUND;bLEAF;bWIND;bFLY;bEAT;bHEAD;bFRAGRANT;bHORSE;bBONE;bTALL;bHAIR;
    bFIGHT;bSACRIFICIAL WINE;bCAULDRON;bGHOST;bFISH;bBIRD;bSALT;bDEER;bWHEAT;bHEMP;bYELLOW;
    bMILLET;bBLACK;bEMBROIDERY;bFROG;bTRIPOD;bDRUM;bRAT;bNOSE;bEVEN;bTOOTH;bDRAGON;bTURTLE;bFLUTE"⟩,
  ⟨0x2ff0,
   "IDEOGRAPHIC DESCRIPTION CHARACTER LEFT TO RIGHT;cABOVE TO BELOW;cLEFT TO MIDDLE AND RIGHT;
    cABOVE TO MIDDLE AND BELOW;cFULL SURROUND;cSURROUND FROM ABOVE;eBELOW;eLEFT;eUPPER LEFT;
    fRIGHT;eLOWER LEFT;cOVERLAID"⟩]

end StreamLabel.Unicode
