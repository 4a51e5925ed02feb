import StreamLabel.Unicode.Name.Block

/-!
# Names from U+10000 on

Ancient scripts.
-/

namespace StreamLabel.Unicode

def namesFrom10000 : List NameBlock := [
  ⟨0x10000,
   "LINEAR B SYLLABLE B008 A;cB038 E;cB028 I;cB061 O;cB010 U;cB001 DA;cB045 DE;cB007 DI;cB014 DO;
    cB051 DU;cB057 JA;cB046 JE"⟩,
  ⟨0x1000d,
   "LINEAR B SYLLABLE B036 JO;cB065 JU;cB077 KA;cB044 KE;cB067 KI;cB070 KO;cB081 KU;cB080 MA;
    cB013 ME;cB073 MI;cB015 MO;cB023 MU;cB006 NA;cB024 NE;cB030 NI;cB052 NO;cB055 NU;cB003 PA;
    cB072 PE;cB039 PI;cB011 PO;cB050 PU;cB016 QA;cB078 QE;cB021 QI;cB032 QO"⟩,
  ⟨0x10028,
   "LINEAR B SYLLABLE B060 RA;cB027 RE;cB053 RI;cB002 RO;cB026 RU;cB031 SA;cB009 SE;cB041 SI;
    cB012 SO;cB058 SU;cB059 TA;cB004 TE;cB037 TI;cB005 TO;cB069 TU;cB054 WA;cB075 WE;cB040 WI;
    cB042 WO"⟩,
  ⟨0x1003c, "LINEAR B SYLLABLE B017 ZA;cB074 ZE"⟩,
  ⟨0x1003f,
   "LINEAR B SYLLABLE B020 ZO;cB025 A2;cB043 A3;cB085 AU;cB071 DWE;cB090 DWO;cB048 NWA;cB029 PU2;
    cB062 PTE;cB076 RA2;cB033 RA3;cB068 RO2;cB066 TA2;cB087 TWE;cB091 TWO"⟩,
  ⟨0x10050,
   "LINEAR B SYMBOL B018;cB019;cB022;cB034;cB047;cB049;cB056;cB063;cB064;cB079;cB082;cB083;cB086;
    cB089"⟩,
  ⟨0x10080,
   "LINEAR B IDEOGRAM B100 MAN;cB102 WOMAN;cB104 DEER;cB105 EQUID;cB105F MARE;cB105M STALLION;
    cB106F EWE;cB106M RAM;cB107F SHE-GOAT;cB107M HE-GOAT;cB108F SOW;cB108M BOAR;cB109F COW;
    cB109M BULL;cB120 WHEAT;cB121 BARLEY;cB122 OLIVE;cB123 SPICE;cB125 CYPERUS;
    bMONOGRAM B127 KAPO;cB128 KANAKO;bIDEOGRAM B130 OIL;cB131 WINE;cB132;bMONOGRAM B133 AREPA;
    cB135 MERI;bIDEOGRAM B140 BRONZE;cB141 GOLD;cB142;cB145 WOOL;cB146;cB150;cB151 HORN;cB152;
    cB153;cB154;bMONOGRAM B156 TURO2;bIDEOGRAM B157;cB158;cB159 CLOTH;cB160;cB161;cB162 GARMENT;
    cB163 ARMOUR;cB164;cB165;cB166;cB167;cB168;cB169;cB170;cB171;cB172;cB173 MONTH;cB174;
    cB176 TREE;cB177;cB178;cB179;cB180;cB181;cB182;cB183;cB184;cB185;cB189;cB190;cB191 HELMET;
    cB220 FOOTSTOOL;cB225 BATHTUB;cB230 SPEAR;cB231 ARROW;cB232;cB233 SWORD;cB234;cB236;
    cB240 WHEELED CHARIOT;cB241 CHARIOT;cB242 CHARIOT FRAME;cB243 WHEEL;cB245;cB246;
    bMONOGRAM B247 DIPTE;bIDEOGRAM B248;cB249;cB251;cB252;cB253;cB254 DART;cB255;cB256;cB257;
    cB258;cB259;cVESSEL B155;dB200;dB201;dB202;dB203;dB204;dB205;dB206;dB207;dB208;dB209;dB210;
    dB211;dB212;dB213;dB214;dB215;dB216;dB217;dB218;dB219;dB221;dB222;dB226;dB227;dB228;dB229;
    dB250;dB305"⟩,
  ⟨0x10100, "AEGEAN WORD SEPARATOR LINE;cDOT;aCHECK MARK"⟩,
  ⟨0x10107,
   "AEGEAN NUMBER ONE;bTWO;bTHREE;bFOUR;bFIVE;bSIX;bSEVEN;bEIGHT;bNINE;bTEN;bTWENTY;bTHIRTY;
    bFORTY;bFIFTY;bSIXTY;bSEVENTY;bEIGHTY;bNINETY;bONE HUNDRED;bTWO HUNDRED;bTHREE HUNDRED;
    bFOUR HUNDRED;bFIVE HUNDRED;bSIX HUNDRED;bSEVEN HUNDRED;bEIGHT HUNDRED;bNINE HUNDRED;
    bONE THOUSAND;bTWO THOUSAND;bTHREE THOUSAND;bFOUR THOUSAND;bFIVE THOUSAND;bSIX THOUSAND;
    bSEVEN THOUSAND;bEIGHT THOUSAND;bNINE THOUSAND;bTEN THOUSAND;bTWENTY THOUSAND;
    bTHIRTY THOUSAND;bFORTY THOUSAND;bFIFTY THOUSAND;bSIXTY THOUSAND;bSEVENTY THOUSAND;
    bEIGHTY THOUSAND;bNINETY THOUSAND"⟩,
  ⟨0x10137,
   "AEGEAN WEIGHT BASE UNIT;bFIRST SUBUNIT;bSECOND SUBUNIT;bTHIRD SUBUNIT;bFOURTH SUBUNIT;
    aDRY MEASURE FIRST SUBUNIT;aLIQUID MEASURE FIRST SUBUNIT;aMEASURE SECOND SUBUNIT;
    bTHIRD SUBUNIT;GREEK ACROPHONIC ATTIC ONE QUARTER;dHALF;dDRACHMA;cFIVE;cFIFTY;cFIVE HUNDRED;
    dTHOUSAND;cFIFTY THOUSAND;cFIVE TALENTS;cTEN TALENTS;cFIFTY TALENTS;cONE HUNDRED TALENTS;
    cFIVE HUNDRED TALENTS;cONE THOUSAND TALENTS;cFIVE THOUSAND TALENTS;dSTATERS;cTEN STATERS;
    cFIFTY STATERS;cONE HUNDRED STATERS;cFIVE HUNDRED STATERS;cONE THOUSAND STATERS;
    cTEN THOUSAND STATERS;cFIFTY THOUSAND STATERS;cTEN MNAS;bHERAEUM ONE PLETHRON;bTHESPIAN ONE;
    bHERMIONIAN ONE;bEPIDAUREAN TWO;bTHESPIAN TWO;bCYRENAIC TWO DRACHMAS;
    bEPIDAUREAN TWO DRACHMAS;bTROEZENIAN FIVE;cTEN;dALTERNATE FORM;bHERMIONIAN TEN;
    bMESSENIAN TEN;bTHESPIAN TEN;cTHIRTY;bTROEZENIAN FIFTY;dALTERNATE FORM;bHERMIONIAN FIFTY;
    bTHESPIAN FIFTY;cONE HUNDRED;cTHREE HUNDRED;bEPIDAUREAN FIVE HUNDRED;
    bTROEZENIAN FIVE HUNDRED;bTHESPIAN FIVE HUNDRED;bCARYSTIAN FIVE HUNDRED;bNAXIAN FIVE HUNDRED;
    bTHESPIAN ONE THOUSAND;cFIVE THOUSAND;bDELPHIC FIVE MNAS;bSTRATIAN FIFTY MNAS;aONE HALF SIGN;
    dALTERNATE FORM;aTWO THIRDS SIGN;aTHREE QUARTERS SIGN;aYEAR SIGN;aTALENT SIGN;aDRACHMA SIGN;
    aOBOL SIGN;aTWO OBOLS SIGN;aTHREE OBOLS SIGN;aFOUR OBOLS SIGN;aFIVE OBOLS SIGN;
    aMETRETES SIGN;aKYATHOS BASE SIGN;aLITRA SIGN;aOUNKIA SIGN;aXESTES SIGN;aARTABE SIGN;
    aAROURA SIGN;aGRAMMA SIGN;aTRYBLION BASE SIGN;aZERO SIGN;aONE QUARTER SIGN;aSINUSOID SIGN;
    aINDICTION SIGN;NOMISMA SIGN"⟩,
  ⟨0x10190,
   "ROMAN SEXTANS SIGN;aUNCIA SIGN;aSEMUNCIA SIGN;aSEXTULA SIGN;aDIMIDIA SEXTULA SIGN;
    aSILIQUA SIGN;aDENARIUS SIGN;aQUINARIUS SIGN;aSESTERTIUS SIGN;aDUPONDIUS SIGN;aAS SIGN;
    aCENTURIAL SIGN;ASCIA SYMBOL"⟩,
  ⟨0x101a0, "GREEK SYMBOL TAU RHO"⟩,
  ⟨0x101d0,
   "PHAISTOS DISC SIGN PEDESTRIAN;cPLUMED HEAD;cTATTOOED HEAD;cCAPTIVE;cCHILD;cWOMAN;cHELMET;
    cGAUNTLET;cTIARA;cARROW;cBOW;cSHIELD;cCLUB;cMANACLES;cMATTOCK;cSAW;cLID;cBOOMERANG;
    cCARPENTRY PLANE;cDOLIUM;cCOMB;cSLING;cCOLUMN;cBEEHIVE;cSHIP;cHORN;cHIDE;cBULLS LEG;cCAT;
    cRAM;cEAGLE;cDOVE;cTUNNY;cBEE;cPLANE TREE;cVINE;cPAPYRUS;cROSETTE;cLILY;cOX BACK;cFLUTE;
    cGRATER;cSTRAINER;cSMALL AXE;cWAVY BAND;cCOMBINING OBLIQUE STROKE"⟩,
  ⟨0x10280,
   "LYCIAN LETTER A;bE;bB;bBH;bG;bD;bI;bW;bZ;bTH;bJ;bK;bQ;bL;bM;bN;bMM;bNN;bU;bP;bKK;bR;bS;bT;
    bTT;bAN;bEN;bH;bX"⟩,
  ⟨0x102a0,
   "CARIAN LETTER A;bP2;bD;bL;bUUU;bR;bLD;bA2;bQ;bB;bM;bO;bD2;bT;bSH;bSH2;bS;bC-18;bU;bNN;bX;bN;
    bTT2;bP;bSS;bI;bE;bUUUU;bK;bK2;bND;bUU;bG;bG2;bST;bST2;bNG;bII;bC-39;bTT;bUUU2;bRR;bMB;bMB2;
    bMB3;bMB4;bLD2;bE2;bUUU3"⟩,
  ⟨0x102e0,
   "COPTIC EPACT THOUSANDS MARK;bDIGIT ONE;cTWO;cTHREE;cFOUR;cFIVE;cSIX;cSEVEN;cEIGHT;cNINE;
    bNUMBER TEN;cTWENTY;cTHIRTY;cFORTY;cFIFTY;cSIXTY;cSEVENTY;cEIGHTY;cNINETY;cONE HUNDRED;
    cTWO HUNDRED;cTHREE HUNDRED;cFOUR HUNDRED;cFIVE HUNDRED;cSIX HUNDRED;cSEVEN HUNDRED;
    cEIGHT HUNDRED;cNINE HUNDRED"⟩,
  ⟨0x10300,
   "OLD ITALIC LETTER A;cBE;cKE;cDE;cE;cVE;cZE;cHE;cTHE;cI;cKA;cEL;cEM;cEN;cESH;cO;cPE;cSHE;cKU;
    cER;cES;cTE;cU;cEKS;cPHE;cKHE;cEF;cERS;cCHE;cII;cUU;cESS;bNUMERAL ONE;cFIVE;cTEN;cFIFTY"⟩,
  ⟨0x1032d,
   "OLD ITALIC LETTER YE;cNORTHERN TSE;cSOUTHERN TSE;GOTHIC LETTER AHSA;bBAIRKAN;bGIBA;bDAGS;
    bAIHVUS;bQAIRTHRA;bIUJA;bHAGL;bTHIUTH;bEIS;bKUSMA;bLAGUS;bMANNA;bNAUTHS;bJER;bURUS;bPAIRTHRA;
    bNINETY;bRAIDA;bSAUIL;bTEIWS;bWINJA;bFAIHU;bIGGWS;bHWAIR;bOTHAL;bNINE HUNDRED"⟩,
  ⟨0x10350,
   "OLD PERMIC LETTER AN;cBUR;cGAI;cDOI;cE;cZHOI;cDZHOI;cZATA;cDZITA;cI;cKOKE;cLEI;cMENOE;cNENOE;
    cVOOI;cPEEI;cREI;cSII;cTAI;cU;cCHERY;cSHOOI;cSHCHOOI;cYRY;cYERU;cO;cOO;cEF;cHA;cTSIU;cVER;
    cYER;cYERI;cYAT;cIE;cYU;cYA;cIA;COMBINING OLD PERMIC LETTER AN;dDOI;dZATA;dNENOE;dSII"⟩,
  ⟨0x10380,
   "UGARITIC LETTER ALPA;bBETA;bGAMLA;bKHA;bDELTA;bHO;bWO;bZETA;bHOTA;bTET;bYOD;bKAF;bSHIN;
    bLAMDA;bMEM;bDHAL;bNUN;bZU;bSAMKA;bAIN;bPU;bSADE;bQOPA;bRASHA;bTHANNA;bGHAIN;bTO;bI;bU;bSSU"⟩,
  ⟨0x1039f,
   "UGARITIC WORD DIVIDER;OLD PERSIAN SIGN A;cI;cU;cKA;cKU;cGA;cGU;cXA;cCA;cJA;cJI;cTA;cTU;cDA;
    cDI;cDU;cTHA;cPA;cBA;cFA;cNA;cNU;cMA;cMI;cMU;cYA;cVA;cVI;cRA;cRU;cLA;cSA;cZA;cSHA;cSSA;cHA"⟩,
  ⟨0x103c8,
   "OLD PERSIAN SIGN AURAMAZDAA;cAURAMAZDAA-2;cAURAMAZDAAHA;cXSHAAYATHIYA;cDAHYAAUSH;
    cDAHYAAUSH-2;cBAGA;cBUUMISH;bWORD DIVIDER;bNUMBER ONE;cTWO;cTEN;cTWENTY;cHUNDRED"⟩,
  ⟨0x10400,
   "DESERET CAPITAL LETTER LONG I;dE;dA;dAH;dO;dOO;cSHORT I;dE;dA;dAH;dO;dOO;cAY;cOW;cWU;cYEE;cH;
    cPEE;cBEE;cTEE;cDEE;cCHEE;cJEE;cKAY;cGAY;cEF;cVEE;cETH;cTHEE;cES;cZEE;cESH;cZHEE;cER;cEL;cEM;
    cEN;cENG;cOI;cEW;aSMALL LETTER LONG I;dE;dA;dAH;dO;dOO;cSHORT I;dE;dA;dAH;dO;dOO;cAY;cOW;cWU;
    cYEE;cH;cPEE;cBEE;cTEE;cDEE;cCHEE;cJEE;cKAY;cGAY;cEF;cVEE;cETH;cTHEE;cES;cZEE;cESH;cZHEE;cER;
    cEL;cEM;cEN;cENG;cOI;cEW;SHAVIAN LETTER PEEP;bTOT;bKICK;bFEE;bTHIGH;bSO;bSURE;bCHURCH;bYEA;
    bHUNG;bBIB;bDEAD;bGAG;bVOW;bTHEY;bZOO;bMEASURE;bJUDGE;bWOE;bHA-HA;bLOLL;bMIME;bIF;bEGG;bASH;
    bADO;bON;bWOOL;bOUT;bAH;bROAR;bNUN;bEAT;bAGE;bICE;bUP;bOAK;bOOZE;bOIL;bAWE;bARE;bOR;bAIR;
    bERR;bARRAY;bEAR;bIAN;bYEW;OSMANYA LETTER ALEF;bBA;bTA;bJA;bXA;bKHA;bDEEL;bRA;bSA;bSHIIN;
    bDHA;bCAYN;bGA;bFA;bQAAF;bKAAF;bLAAN;bMIIN;bNUUN;bWAW;bHA;bYA;bA;bE;bI;bO;bU;bAA;bEE;bOO"⟩,
  ⟨0x104a0, "OSMANYA DIGIT ZERO;bONE;bTWO;bTHREE;bFOUR;bFIVE;bSIX;bSEVEN;bEIGHT;bNINE"⟩,
  ⟨0x104b0,
   "OSAGE CAPITAL LETTER A;cAI;cAIN;cAH;cBRA;cCHA;cEHCHA;cE;cEIN;cHA;cHYA;cI;cKA;cEHKA;cKYA;cLA;
    cMA;cNA;cO;cOIN;cPA;cEHPA;cSA;cSHA;cTA;cEHTA;cTSA;cEHTSA;cTSHA;cDHA;cU;cWA;cKHA;cGHA;cZA;cZHA"⟩,
  ⟨0x104d8,
   "OSAGE SMALL LETTER A;cAI;cAIN;cAH;cBRA;cCHA;cEHCHA;cE;cEIN;cHA;cHYA;cI;cKA;cEHKA;cKYA;cLA;
    cMA;cNA;cO;cOIN;cPA;cEHPA;cSA;cSHA;cTA;cEHTA;cTSA;cEHTSA;cTSHA;cDHA;cU;cWA;cKHA;cGHA;cZA;cZHA"⟩,
  ⟨0x10500,
   "ELBASAN LETTER A;bBE;bCE;bCHE;bDE;bNDE;bDHE;bEI;bE;bFE;bGE;bGJE;bHE;bI;bJE;bKE;bLE;bLLE;bME;
    bNE;bNA;bNJE;bO;bPE;bQE;bRE;bRRE;bSE;bSHE;bTE;bTHE;bU;bVE;bXE;bY;bZE;bZHE;bGHE;bGHAMMA;bKHE"⟩,
  ⟨0x10530,
   "CAUCASIAN ALBANIAN LETTER ALT;cBET;cGIM;cDAT;cEB;cZARL;cEYN;cZHIL;cTAS;cCHA;cYOWD;cZHA;cIRB;
    cSHA;cLAN;cINYA;cXEYN;cDYAN;cCAR;cJHOX;cKAR;cLYIT;cHEYT;cQAY;cAOR;cCHOY;cCHI;cCYAY;cMAQ;cQAR;
    cNOWC;cDZYAY;cSHAK;cJAYN;cON;cTYAY;cFAM;cDZAY;cCHAT;cPEN;cGHEYS;cRAT;cSEYK;cVEYZ;cTIWR;cSHOY;
    cIWN;cCYAW;cCAYN;cYAYD;cPIWR;cKIW"⟩,
  ⟨0x1056f,
   "CAUCASIAN ALBANIAN CITATION MARK;VITHKUQI CAPITAL LETTER A;cBBE;cBE;cCE;cCHE;cDE;cDHE;cEI;cE;
    cFE;cGA"⟩,
  ⟨0x1057c,
   "VITHKUQI CAPITAL LETTER HA;cHHA;cI;cIJE;cJE;cKA;cLA;cLLA;cME;cNE;cNJE;cO;cPE;cQA;cRE"⟩,
  ⟨0x1058c, "VITHKUQI CAPITAL LETTER SE;cSHE;cTE;cTHE;cU;cVE;cXE"⟩,
  ⟨0x10594, "VITHKUQI CAPITAL LETTER Y;cZE"⟩,
  ⟨0x10597, "VITHKUQI SMALL LETTER A;cBBE;cBE;cCE;cCHE;cDE;cDHE;cEI;cE;cFE;cGA"⟩,
  ⟨0x105a3,
   "VITHKUQI SMALL LETTER HA;cHHA;cI;cIJE;cJE;cKA;cLA;cLLA;cME;cNE;cNJE;cO;cPE;cQA;cRE"⟩,
  ⟨0x105b3, "VITHKUQI SMALL LETTER SE;cSHE;cTE;cTHE;cU;cVE;cXE"⟩,
  ⟨0x105bb, "VITHKUQI SMALL LETTER Y;cZE"⟩,
  ⟨0x10600,
   "LINEAR A SIGN AB001;cAB002;cAB003;cAB004;cAB005;cAB006;cAB007;cAB008;cAB009;cAB010;cAB011;
    cAB013;cAB016;cAB017;cAB020;cAB021;cAB021F;cAB021M;cAB022;cAB022F;cAB022M;cAB023;cAB023M;
    cAB024;cAB026;cAB027;cAB028;cA028B;cAB029;cAB030;cAB031;cAB034;cAB037;cAB038;cAB039;cAB040;
    cAB041;cAB044;cAB045;cAB046;cAB047;cAB048;cAB049;cAB050;cAB051;cAB053;cAB054;cAB055;cAB056;
    cAB057;cAB058;cAB059;cAB060;cAB061;cAB065;cAB066;cAB067;cAB069;cAB070;cAB073;cAB074;cAB076;
    cAB077;cAB078;cAB079;cAB080;cAB081;cAB082;cAB085;cAB086;cAB087;cA100-102;cAB118;cAB120;
    cA120B;cAB122;cAB123;cAB131A;cAB131B;cA131C;cAB164;cAB171;cAB180;cAB188;cAB191;cA301;cA302;
    cA303;cA304;cA305;cA306;cA307;cA308;cA309A;cA309B;cA309C;cA310;cA311;cA312;cA313A;cA313B;
    cA313C;cA314;cA315;cA316;cA317;cA318;cA319;cA320;cA321;cA322;cA323;cA324;cA325;cA326;cA327;
    cA328;cA329;cA330;cA331;cA332;cA333;cA334;cA335;cA336;cA337;cA338;cA339;cA340;cA341;cA342;
    cA343;cA344;cA345;cA346;cA347;cA348;cA349;cA350;cA351;cA352;cA353;cA354;cA355;cA356;cA357;
    cA358;cA359;cA360;cA361;cA362;cA363;cA364;cA365;cA366;cA367;cA368;cA369;cA370;cA371;
    cA400-VAS;cA401-VAS;cA402-VAS;cA403-VAS;cA404-VAS;cA405-VAS;cA406-VAS;cA407-VAS;cA408-VAS;
    cA409-VAS;cA410-VAS;cA411-VAS;cA412-VAS;cA413-VAS;cA414-VAS;cA415-VAS;cA416-VAS;cA417-VAS;
    cA418-VAS;cA501;cA502;cA503;cA504;cA505;cA506;cA508;cA509;cA510;cA511;cA512;cA513;cA515;
    cA516;cA520;cA521;cA523;cA524;cA525;cA526;cA527;cA528;cA529;cA530;cA531;cA532;cA534;cA535;
    cA536;cA537;cA538;cA539;cA540;cA541;cA542;cA545;cA547;cA548;cA549;cA550;cA551;cA552;cA553;
    cA554;cA555;cA556;cA557;cA559;cA563;cA564;cA565;cA566;cA568;cA569;cA570;cA571;cA572;cA573;
    cA574;cA575;cA576;cA577;cA578;cA579;cA580;cA581;cA582;cA583;cA584;cA585;cA586;cA587;cA588;
    cA589;cA591;cA592;cA594"⟩,
  ⟨0x10700,
   "LINEAR A SIGN A595;cA596;cA598;cA600;cA601;cA602;cA603;cA604;cA606;cA608;cA609;cA610;cA611;
    cA612;cA613;cA614;cA615;cA616;cA617;cA618;cA619;cA620;cA621;cA622;cA623;cA624;cA626;cA627;
    cA628;cA629;cA634;cA637;cA638;cA640;cA642;cA643;cA644;cA645;cA646;cA648;cA649;cA651;cA652;
    cA653;cA654;cA655;cA656;cA657;cA658;cA659;cA660;cA661;cA662;cA663;cA664"⟩,
  ⟨0x10740,
   "LINEAR A SIGN A701 A;cA702 B;cA703 D;cA704 E;cA705 F;cA706 H;cA707 J;cA708 K;cA709 L;
    cA709-2 L2;cA709-3 L3;cA709-4 L4;cA709-6 L6;cA710 W;cA711 X;cA712 Y;cA713 OMEGA;cA714 ABB;
    cA715 BB;cA717 DD;cA726 EYYY;cA732 JE"⟩,
  ⟨0x10760, "LINEAR A SIGN A800;cA801;cA802;cA803;cA804;cA805;cA806;cA807"⟩,
  ⟨0x10780,
   "MODIFIER LETTER SMALL CAPITAL AA;bSUPERSCRIPT TRIANGULAR COLON;cHALF TRIANGULAR COLON;
    bSMALL AE;cCAPITAL B;cB WITH HOOK"⟩,
  ⟨0x10787,
   "MODIFIER LETTER SMALL DZ DIGRAPH;eWITH RETROFLEX HOOK;fCURL;cDEZH DIGRAPH;cD WITH TAIL;eHOOK;
    fAND TAIL;cREVERSED E;cCLOSED REVERSED OPEN E;cFENG DIGRAPH;cRAMS HORN;cCAPITAL G;
    cG WITH HOOK;cCAPITAL G WITH HOOK;cH WITH STROKE;cCAPITAL H;cHENG WITH HOOK;
    cDOTLESS J WITH STROKE AND HOOK;cLS DIGRAPH;cLZ DIGRAPH;cL WITH BELT;cCAPITAL L WITH BELT;
    cL WITH RETROFLEX HOOK AND BELT;cLEZH;dWITH RETROFLEX HOOK;cTURNED Y;eWITH BELT;
    cO WITH STROKE;cCAPITAL OE;cCLOSED OMEGA;cQ;cTURNED R WITH LONG LEG;hAND RETROFLEX HOOK;
    cR WITH TAIL;eFISHHOOK;cCAPITAL R;cTC DIGRAPH WITH CURL;cTS DIGRAPH;eWITH RETROFLEX HOOK;
    cTESH DIGRAPH;cT WITH RETROFLEX HOOK;cV WITH RIGHT HOOK"⟩,
  ⟨0x107b2,
   "MODIFIER LETTER SMALL CAPITAL Y;bGLOTTAL STOP WITH STROKE;bREVERSED GLOTTAL STOP WITH STROKE;
    bBILABIAL CLICK;bDENTAL CLICK;bLATERAL CLICK;bALVEOLAR CLICK;
    bRETROFLEX CLICK WITH RETROFLEX HOOK;bSMALL S WITH CURL"⟩,
  ⟨0x10800, "CYPRIOT SYLLABLE A;bE;bI;bO;bU;bJA"⟩,
  ⟨0x10808, "CYPRIOT SYLLABLE JO"⟩,
  ⟨0x1080a,
   "CYPRIOT SYLLABLE KA;bKE;bKI;bKO;bKU;bLA;bLE;bLI;bLO;bLU;bMA;bME;bMI;bMO;bMU;bNA;bNE;bNI;bNO;
    bNU;bPA;bPE;bPI;bPO;bPU;bRA;bRE;bRI;bRO;bRU;bSA;bSE;bSI;bSO;bSU;bTA;bTE;bTI;bTO;bTU;bWA;bWE;
    bWI;bWO"⟩,
  ⟨0x10837, "CYPRIOT SYLLABLE XA;bXE"⟩,
  ⟨0x1083c, "CYPRIOT SYLLABLE ZA"⟩,
  ⟨0x1083f,
   "CYPRIOT SYLLABLE ZO;IMPERIAL ARAMAIC LETTER ALEPH;cBETH;cGIMEL;cDALETH;cHE;cWAW;cZAYIN;cHETH;
    cTETH;cYODH;cKAPH;cLAMEDH;cMEM;cNUN;cSAMEKH;cAYIN;cPE;cSADHE;cQOPH;cRESH;cSHIN;cTAW"⟩,
  ⟨0x10857,
   "IMPERIAL ARAMAIC SECTION SIGN;bNUMBER ONE;cTWO;cTHREE;cTEN;cTWENTY;cONE HUNDRED;dTHOUSAND;
    cTEN THOUSAND;PALMYRENE LETTER ALEPH;bBETH;bGIMEL;bDALETH;bHE;bWAW;bZAYIN;bHETH;bTETH;bYODH;
    bKAPH;bLAMEDH;bMEM;bFINAL NUN;bNUN;bSAMEKH;bAYIN;bPE;bSADHE;bQOPH;bRESH;bSHIN;bTAW;
    aLEFT-POINTING FLEURON;aRIGHT-POINTING FLEURON;aNUMBER ONE;bTWO;bTHREE;bFOUR;bFIVE;bTEN;
    bTWENTY;NABATAEAN LETTER FINAL ALEPH;bALEPH;bFINAL BETH;bBETH;bGIMEL;bDALETH;bFINAL HE;bHE;
    bWAW;bZAYIN;bHETH;bTETH;bFINAL YODH;bYODH;bFINAL KAPH;bKAPH;bFINAL LAMEDH;bLAMEDH;bFINAL MEM;
    bMEM;bFINAL NUN;bNUN;bSAMEKH;bAYIN;bPE;bSADHE;bQOPH;bRESH;bFINAL SHIN;bSHIN;bTAW"⟩,
  ⟨0x108a7,
   "NABATAEAN NUMBER ONE;bTWO;bTHREE;bFOUR;aCRUCIFORM NUMBER FOUR;aNUMBER FIVE;bTEN;bTWENTY;
    bONE HUNDRED"⟩,
  ⟨0x108e0,
   "HATRAN LETTER ALEPH;bBETH;bGIMEL;bDALETH-RESH;bHE;bWAW;bZAYN;bHETH;bTETH;bYODH;bKAPH;bLAMEDH;
    bMEM;bNUN;bSAMEKH;bAYN;bPE;bSADHE;bQOPH"⟩,
  ⟨0x108f4, "HATRAN LETTER SHIN;bTAW"⟩,
  ⟨0x108fb, "HATRAN NUMBER ONE;bFIVE;bTEN;bTWENTY;bONE HUNDRED"⟩,
  ⟨0x10900,
   "PHOENICIAN LETTER ALF;bBET;bGAML;bDELT;bHE;bWAU;bZAI;bHET;bTET;bYOD;bKAF;bLAMD;bMEM;bNUN;
    bSEMK;bAIN;bPE;bSADE;bQOF;bROSH;bSHIN;bTAU;aNUMBER ONE;bTEN;bTWENTY;bONE HUNDRED;bTWO;bTHREE"⟩,
  ⟨0x1091f,
   "PHOENICIAN WORD SEPARATOR;LYDIAN LETTER A;bB;bG;bD;bE;bV;bI;bY;bK;bL;bM;bN;bO;bR;bSS;bT;bU;
    bF;bQ;bS;bTT;bAN;bEN;bLY;bNN;bC"⟩,
  ⟨0x1093f, "LYDIAN TRIANGULAR MARK"⟩,
  ⟨0x10980,
   "MEROITIC HIEROGLYPHIC LETTER A;cE;cI;cO;cYA;cWA;cBA;cBA-2;cPA;cMA;cNA;cNA-2;cNE;cNE-2;cRA;
    cRA-2;cLA;cKHA;cHHA;cSA;cSA-2;cSE;cKA;cQA;cTA;cTA-2;cTE;cTE-2;cTO;cDA;bSYMBOL VIDJ;cVIDJ-2;
    aCURSIVE LETTER A;cE;cI;cO;cYA;cWA;cBA;cPA;cMA;cNA;cNE;cRA;cLA;cKHA;cHHA;cSA;cARCHAIC SA;cSE;
    cKA;cQA;cTA;cTE;cTO;cDA"⟩,
  ⟨0x109bc,
   "MEROITIC CURSIVE FRACTION ELEVEN TWELFTHS;cONE HALF;bLOGOGRAM RMT;cIMN;bNUMBER ONE;cTWO;
    cTHREE;cFOUR;cFIVE;cSIX;cSEVEN;cEIGHT;cNINE;cTEN;cTWENTY;cTHIRTY;cFORTY;cFIFTY;cSIXTY;
    cSEVENTY"⟩,
  ⟨0x109d2,
   "MEROITIC CURSIVE NUMBER ONE HUNDRED;cTWO HUNDRED;cTHREE HUNDRED;cFOUR HUNDRED;cFIVE HUNDRED;
    cSIX HUNDRED;cSEVEN HUNDRED;cEIGHT HUNDRED;cNINE HUNDRED;cONE THOUSAND;cTWO THOUSAND;
    cTHREE THOUSAND;cFOUR THOUSAND;cFIVE THOUSAND;cSIX THOUSAND;cSEVEN THOUSAND;cEIGHT THOUSAND;
    cNINE THOUSAND;cTEN THOUSAND;cTWENTY THOUSAND;cTHIRTY THOUSAND;cFORTY THOUSAND;
    cFIFTY THOUSAND;cSIXTY THOUSAND;cSEVENTY THOUSAND;cEIGHTY THOUSAND;cNINETY THOUSAND;
    cONE HUNDRED THOUSAND;cTWO HUNDRED THOUSAND;cTHREE HUNDRED THOUSAND;cFOUR HUNDRED THOUSAND;
    cFIVE HUNDRED THOUSAND;cSIX HUNDRED THOUSAND;cSEVEN HUNDRED THOUSAND;cEIGHT HUNDRED THOUSAND;
    cNINE HUNDRED THOUSAND;bFRACTION ONE TWELFTH;cTWO TWELFTHS;cTHREE TWELFTHS;cFOUR TWELFTHS;
    cFIVE TWELFTHS;cSIX TWELFTHS;cSEVEN TWELFTHS;cEIGHT TWELFTHS;cNINE TWELFTHS;cTEN TWELFTHS"⟩,
  ⟨0x10a00, "KHAROSHTHI LETTER A;aVOWEL SIGN I;cU;cVOCALIC R"⟩,
  ⟨0x10a05, "KHAROSHTHI VOWEL SIGN E;cO"⟩,
  ⟨0x10a0c,
   "KHAROSHTHI VOWEL LENGTH MARK;aSIGN DOUBLE RING BELOW;bANUSVARA;bVISARGA;aLETTER KA;bKHA;bGA;
    bGHA"⟩,
  ⟨0x10a15, "KHAROSHTHI LETTER CA;bCHA;bJA"⟩,
  ⟨0x10a19,
   "KHAROSHTHI LETTER NYA;bTTA;bTTHA;bDDA;bDDHA;bNNA;bTA;bTHA;bDA;bDHA;bNA;bPA;bPHA;bBA;bBHA;bMA;
    bYA;bRA;bLA;bVA;bSHA;bSSA;bSA;bZA;bHA;bKKA;bTTTHA;bTTTA;bVHA"⟩,
  ⟨0x10a38, "KHAROSHTHI SIGN BAR ABOVE;bCAUDA;bDOT BELOW"⟩,
  ⟨0x10a3f,
   "KHAROSHTHI VIRAMA;aDIGIT ONE;bTWO;bTHREE;bFOUR;aNUMBER TEN;bTWENTY;bONE HUNDRED;cTHOUSAND;
    aFRACTION ONE HALF"⟩,
  ⟨0x10a50,
   "KHAROSHTHI PUNCTUATION DOT;bSMALL CIRCLE;bCIRCLE;bCRESCENT BAR;bMANGALAM;bLOTUS;bDANDA;
    bDOUBLE DANDA;bLINES"⟩,
  ⟨0x10a60,
   "OLD SOUTH ARABIAN LETTER HE;dLAMEDH;dHETH;dMEM;dQOPH;dWAW;dSHIN;dRESH;dBETH;dTAW;dSAT;dKAPH;
    dNUN;dKHETH;dSADHE;dSAMEKH;dFE;dALEF;dAYN;dDHADHE;dGIMEL;dDALETH;dGHAYN;dTETH;dZAYN;dDHALETH;
    dYODH;dTHAW;dTHETH;cNUMBER ONE;dFIFTY;cNUMERIC INDICATOR;aNORTH ARABIAN LETTER HEH;dLAM;dHAH;
    dMEEM;dQAF;dWAW;dES-2;dREH;dBEH;dTEH;dES-1;dKAF;dNOON;dKHAH;dSAD;dES-3;dFEH;dALEF;dAIN;dDAD;
    dGEEM;dDAL;dGHAIN;dTAH;dZAIN;dTHAL;dYEH;dTHEH;dZAH;cNUMBER ONE;dTEN;dTWENTY"⟩,
  ⟨0x10ac0,
   "MANICHAEAN LETTER ALEPH;bBETH;bBHETH;bGIMEL;bGHIMEL;bDALETH;bHE;bWAW;aSIGN UD;aLETTER ZAYIN;
    bZHAYIN;bJAYIN;bJHAYIN;bHETH;bTETH;bYODH;bKAPH;bXAPH;bKHAPH;bLAMEDH;bDHAMEDH;bTHAMEDH;bMEM;
    bNUN;bSAMEKH;bAYIN;bAAYIN;bPE;bFE;bSADHE;bQOPH;bXOPH;bQHOPH;bRESH;bSHIN;bSSHIN;bTAW;
    aABBREVIATION MARK ABOVE;cBELOW"⟩,
  ⟨0x10aeb,
   "MANICHAEAN NUMBER ONE;bFIVE;bTEN;bTWENTY;bONE HUNDRED;aPUNCTUATION STAR;bFLEURON;
    bDOUBLE DOT WITHIN DOT;bDOT WITHIN DOT;c;bTWO DOTS;bLINE FILLER"⟩,
  ⟨0x10b00,
   "AVESTAN LETTER A;bAA;bAO;bAAO;bAN;bAAN;bAE;bAEE;bE;bEE;bO;bOO;bI;bII;bU;bUU;bKE;bXE;bXYE;
    bXVE;bGE;bGGE;bGHE;bCE;bJE;bTE;bTHE;bDE;bDHE;bTTE;bPE;bFE;bBE;bBHE;bNGE;bNGYE;bNGVE;bNE;bNYE;
    bNNE;bME;bHME;bYYE;bYE;bVE;bRE;bLE;bSE;bZE;bSHE;bZHE;bSHYE;bSSHE;bHE"⟩,
  ⟨0x10b39,
   "AVESTAN ABBREVIATION MARK;TINY TWO DOTS OVER ONE DOT PUNCTUATION;
    SMALL TWO DOTS OVER ONE DOT PUNCTUATION;LARGE TWO DOTS OVER ONE DOT PUNCTUATION;
    aONE DOT OVER TWO DOTS PUNCTUATION;aTWO RINGS OVER ONE RING PUNCTUATION;
    aONE RING OVER TWO RINGS PUNCTUATION;INSCRIPTIONAL PARTHIAN LETTER ALEPH;cBETH;cGIMEL;
    cDALETH;cHE;cWAW;cZAYIN;cHETH;cTETH;cYODH;cKAPH;cLAMEDH;cMEM;cNUN;cSAMEKH;cAYIN;cPE;cSADHE;
    cQOPH;cRESH;cSHIN;cTAW"⟩,
  ⟨0x10b58,
   "INSCRIPTIONAL PARTHIAN NUMBER ONE;cTWO;cTHREE;cFOUR;cTEN;cTWENTY;cONE HUNDRED;dTHOUSAND;
    aPAHLAVI LETTER ALEPH;cBETH;cGIMEL;cDALETH;cHE;cWAW-AYIN-RESH;cZAYIN;cHETH;cTETH;cYODH;cKAPH;
    cLAMEDH;cMEM-QOPH;cNUN;cSAMEKH;cPE;cSADHE;cSHIN;cTAW"⟩,
  ⟨0x10b78,
   "INSCRIPTIONAL PAHLAVI NUMBER ONE;cTWO;cTHREE;cFOUR;cTEN;cTWENTY;cONE HUNDRED;dTHOUSAND;
    PSALTER PAHLAVI LETTER ALEPH;cBETH;cGIMEL;cDALETH;cHE;cWAW-AYIN-RESH;cZAYIN;cHETH;cYODH;
    cKAPH;cLAMEDH;cMEM-QOPH;cNUN;cSAMEKH;cPE;cSADHE;cSHIN;cTAW"⟩,
  ⟨0x10b99, "PSALTER PAHLAVI SECTION MARK;bTURNED SECTION MARK;bFOUR DOTS WITH CROSS;eDOT"⟩,
  ⟨0x10ba9, "PSALTER PAHLAVI NUMBER ONE;cTWO;cTHREE;cFOUR;cTEN;cTWENTY;cONE HUNDRED"⟩,
  ⟨0x10c00,
   "OLD TURKIC LETTER ORKHON A;cYENISEI A;dAE;cORKHON I;cYENISEI I;dE;cORKHON O;dOE;cYENISEI OE;
    cORKHON AB;cYENISEI AB;cORKHON AEB;cYENISEI AEB;cORKHON AG;cYENISEI AG;cORKHON AEG;
    cYENISEI AEG;cORKHON AD;cYENISEI AD;cORKHON AED;dEZ;cYENISEI EZ;cORKHON AY;cYENISEI AY;
    cORKHON AEY;cYENISEI AEY;cORKHON AEK;cYENISEI AEK;cORKHON OEK;cYENISEI OEK;cORKHON AL;
    cYENISEI AL;cORKHON AEL;dELT;dEM;dAN;dAEN;cYENISEI AEN;cORKHON ENT;cYENISEI ENT;cORKHON ENC;
    cYENISEI ENC;cORKHON ENY;cYENISEI ENY;dANG;cORKHON ENG;cYENISEI AENG;cORKHON EP;dOP;dIC;dEC;
    cYENISEI EC;cORKHON AQ;cYENISEI AQ;cORKHON IQ;cYENISEI IQ;cORKHON OQ;cYENISEI OQ;cORKHON AR;
    cYENISEI AR;cORKHON AER;dAS;dAES;dASH;cYENISEI ASH;cORKHON ESH;cYENISEI ESH;cORKHON AT;
    cYENISEI AT;cORKHON AET;cYENISEI AET;cORKHON OT;dBASH"⟩,
  ⟨0x10c80,
   "OLD HUNGARIAN CAPITAL LETTER A;dAA;dEB;dAMB;dEC;dENC;dECS;dED;dAND;dE;dCLOSE E;dEE;dEF;dEG;
    dEGY;dEH;dI;dII;dEJ;dEK;dAK;dUNK;dEL;dELY;dEM;dEN;dENY;dO;dOO;dNIKOLSBURG OE;dRUDIMENTA OE;
    dOEE;dEP;dEMP;dER;dSHORT ER;dES;dESZ;dET;dENT;dETY;dECH;dU;dUU;dNIKOLSBURG UE;dRUDIMENTA UE;
    dEV;dEZ;dEZS;dENT-SHAPED SIGN;dUS"⟩,
  ⟨0x10cc0,
   "OLD HUNGARIAN SMALL LETTER A;dAA;dEB;dAMB;dEC;dENC;dECS;dED;dAND;dE;dCLOSE E;dEE;dEF;dEG;
    dEGY;dEH;dI;dII;dEJ;dEK;dAK;dUNK;dEL;dELY;dEM;dEN;dENY;dO;dOO;dNIKOLSBURG OE;dRUDIMENTA OE;
    dOEE;dEP;dEMP;dER;dSHORT ER;dES;dESZ;dET;dENT;dETY;dECH;dU;dUU;dNIKOLSBURG UE;dRUDIMENTA UE;
    dEV;dEZ;dEZS;dENT-SHAPED SIGN;dUS"⟩,
  ⟨0x10cfa, "OLD HUNGARIAN NUMBER ONE;cFIVE;cTEN;cFIFTY;cONE HUNDRED;dTHOUSAND"⟩,
  ⟨0x10d00,
   "HANIFI ROHINGYA LETTER A;cBA;cPA;cTA;cTTA;cJA;cCA;cHA;cKHA;cFA;cDA;cDDA;cRA;cRRA;cZA;cSA;
    cSHA;cKA;cGA;cLA;cMA;cNA;cWA;cKINNA WA;cYA;cKINNA YA;cNGA;cNYA;cVA;bVOWEL A;cI;cU;cE;cO;
    bMARK SAKIN;cNA KHONNA;bSIGN HARBAHAY;cTAHALA;cTANA;cTASSI"⟩,
  ⟨0x10d30,
   "HANIFI ROHINGYA DIGIT ZERO;cONE;cTWO;cTHREE;cFOUR;cFIVE;cSIX;cSEVEN;cEIGHT;cNINE"⟩,
  ⟨0x10e60,
   "RUMI DIGIT ONE;bTWO;bTHREE;bFOUR;bFIVE;bSIX;bSEVEN;bEIGHT;bNINE;aNUMBER TEN;bTWENTY;bTHIRTY;
    bFORTY;bFIFTY;bSIXTY;bSEVENTY;bEIGHTY;bNINETY;bONE HUNDRED;bTWO HUNDRED;bTHREE HUNDRED;
    bFOUR HUNDRED;bFIVE HUNDRED;bSIX HUNDRED;bSEVEN HUNDRED;bEIGHT HUNDRED;bNINE HUNDRED;
    aFRACTION ONE HALF;cQUARTER;cTHIRD;bTWO THIRDS"⟩,
  ⟨0x10e80,
   "YEZIDI LETTER ELIF;bBE;bPE;bPHE;bTHE;bSE;bCIM;bCHIM;bCHHIM;bHHA;bXA;bDAL;bZAL;bRA;bRHA;bZA;
    bJA;bSIN;bSHIN;bSAD;bDAD;bTA;bZE;bEYN;bXHEYN;bFA;bVA;cALTERNATE FORM;bQAF;bKAF;bKHAF;bGAF;
    bLAM;bMIM;bNUN;bUM;bWAW;bOW;bEW;bHAY;bYOT;bET"⟩,
  ⟨0x10eab, "YEZIDI COMBINING HAMZA MARK;bMADDA MARK;aHYPHENATION MARK"⟩,
  ⟨0x10eb0, "YEZIDI LETTER LAM WITH DOT ABOVE;bYOT WITH CIRCUMFLEX ABOVE"⟩,
  ⟨0x10f00,
   "OLD SOGDIAN LETTER ALEPH;cFINAL ALEPH;cBETH;cFINAL BETH;cGIMEL;cHE;cFINAL HE;cWAW;cZAYIN;
    cHETH;cYODH;cKAPH;cLAMEDH;cMEM;cNUN;cFINAL NUN;eWITH VERTICAL TAIL;cSAMEKH;cAYIN;
    cALTERNATE AYIN;cPE;cSADHE;cFINAL SADHE;eWITH VERTICAL TAIL;cRESH-AYIN-DALETH;cSHIN;cTAW;
    cFINAL TAW;eWITH VERTICAL TAIL;bNUMBER ONE;cTWO;cTHREE;cFOUR;cFIVE;cTEN;cTWENTY;cTHIRTY;
    cONE HUNDRED;bFRACTION ONE HALF;bLIGATURE AYIN-DALETH"⟩,
  ⟨0x10f30,
   "SOGDIAN LETTER ALEPH;bBETH;bGIMEL;bHE;bWAW;bZAYIN;bHETH;bYODH;bKAPH;bLAMEDH;bMEM;bNUN;
    bSAMEKH;bAYIN;bPE;bSADHE;bRESH-AYIN;bSHIN;bTAW;bFETH;bLESH;aINDEPENDENT SHIN;
    aCOMBINING DOT BELOW;bTWO DOTS BELOW;bDOT ABOVE;bTWO DOTS ABOVE;bCURVE ABOVE;cBELOW;
    bHOOK ABOVE;cBELOW;bLONG HOOK BELOW;bRESH BELOW;bSTROKE BELOW;aNUMBER ONE;bTEN;bTWENTY;
    bONE HUNDRED;aPUNCTUATION TWO VERTICAL BARS;eWITH DOTS;bCIRCLE WITH DOT;
    bTWO CIRCLES WITH DOTS;bHALF CIRCLE WITH DOT"⟩,
  ⟨0x10f70,
   "OLD UYGHUR LETTER ALEPH;cBETH;cGIMEL-HETH;cWAW;cZAYIN;cFINAL HETH;cYODH;cKAPH;cLAMEDH;cMEM;
    cNUN;cSAMEKH;cPE;cSADHE;cRESH;cSHIN;cTAW;cLESH;bCOMBINING DOT ABOVE;dBELOW;cTWO DOTS ABOVE;
    eBELOW;bPUNCTUATION BAR;cTWO BARS;dDOTS;cFOUR DOTS"⟩,
  ⟨0x10fb0,
   "CHORASMIAN LETTER ALEPH;bSMALL ALEPH;bBETH;bGIMEL;bDALETH;bHE;bWAW;bCURLED WAW;bZAYIN;bHETH;
    bYODH;bKAPH;bLAMEDH;bMEM;bNUN;bSAMEKH;bAYIN;bPE;bRESH;bSHIN;bTAW;aNUMBER ONE;bTWO;bTHREE;
    bFOUR;bTEN;bTWENTY;bONE HUNDRED"⟩,
  ⟨0x10fe0,
   "ELYMAIC LETTER ALEPH;bBETH;bGIMEL;bDALETH;bHE;bWAW;bZAYIN;bHETH;bTETH;bYODH;bKAPH;bLAMEDH;
    bMEM;bNUN;bSAMEKH;bAYIN;bPE;bSADHE;bQOPH;bRESH;bSHIN;bTAW;aLIGATURE ZAYIN-YODH"⟩]

end StreamLabel.Unicode
