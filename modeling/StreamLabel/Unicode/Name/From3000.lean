import StreamLabel.Unicode.Name.Block

/-!
# Names from U+3000 on

East Asian punctuation, letters and symbols.
-/

namespace StreamLabel.Unicode

def namesFrom3000 : List NameBlock := [
  ⟨0x3000,
   "IDEOGRAPHIC SPACE;aCOMMA;aFULL STOP;DITTO MARK;JAPANESE INDUSTRIAL STANDARD SYMBOL;
    IDEOGRAPHIC ITERATION MARK;aCLOSING MARK;aNUMBER ZERO;LEFT ANGLE BRACKET;RIGHT ANGLE BRACKET;
    LEFT DOUBLE ANGLE BRACKET;RIGHT DOUBLE ANGLE BRACKET;LEFT CORNER BRACKET;
    RIGHT CORNER BRACKET;LEFT WHITE CORNER BRACKET;RIGHT WHITE CORNER BRACKET;
    LEFT BLACK LENTICULAR BRACKET;RIGHT BLACK LENTICULAR BRACKET;POSTAL MARK;GETA MARK;
    LEFT TORTOISE SHELL BRACKET;RIGHT TORTOISE SHELL BRACKET;LEFT WHITE LENTICULAR BRACKET;
    RIGHT WHITE LENTICULAR BRACKET;LEFT WHITE TORTOISE SHELL BRACKET;
    RIGHT WHITE TORTOISE SHELL BRACKET;LEFT WHITE SQUARE BRACKET;RIGHT WHITE SQUARE BRACKET;
    WAVE DASH;REVERSED DOUBLE PRIME QUOTATION MARK;DOUBLE PRIME QUOTATION MARK;
    LOW DOUBLE PRIME QUOTATION MARK;POSTAL MARK FACE;HANGZHOU NUMERAL ONE;bTWO;bTHREE;bFOUR;
    bFIVE;bSIX;bSEVEN;bEIGHT;bNINE;IDEOGRAPHIC LEVEL TONE MARK;aRISING TONE MARK;
    aDEPARTING TONE MARK;aENTERING TONE MARK;HANGUL SINGLE DOT TONE MARK;aDOUBLE DOT TONE MARK;
    WAVY DASH;VERTICAL KANA REPEAT MARK;cWITH VOICED SOUND MARK;cMARK UPPER HALF;
    cWITH VOICED SOUND MARK UPPER HALF;cMARK LOWER HALF;CIRCLED POSTAL MARK;
    IDEOGRAPHIC TELEGRAPH LINE FEED SEPARATOR SYMBOL;HANGZHOU NUMERAL TEN;bTWENTY;bTHIRTY;
    VERTICAL IDEOGRAPHIC ITERATION MARK;MASU MARK;PART ALTERNATION MARK;
    IDEOGRAPHIC VARIATION INDICATOR;aHALF FILL SPACE"⟩,
  ⟨0x3041,
   "HIRAGANA LETTER SMALL A;bA;bSMALL I;bI;bSMALL U;bU;bSMALL E;bE;bSMALL O;bO;bKA;bGA;bKI;bGI;
    bKU;bGU;bKE;bGE;bKO;bGO;bSA;bZA;bSI;bZI;bSU;bZU;bSE;bZE;bSO;bZO;bTA;bDA;bTI;bDI;bSMALL TU;
    bTU;bDU;bTE;bDE;bTO;bDO;bNA;bNI;bNU;bNE;bNO;bHA;bBA;bPA;bHI;bBI;bPI;bHU;bBU;bPU;bHE;bBE;bPE;
    bHO;bBO;bPO;bMA;bMI;bMU;bME;bMO;bSMALL YA;bYA;bSMALL YU;bYU;bSMALL YO;bYO;bRA;bRI;bRU;bRE;
    bRO;bSMALL WA;bWA;bWI;bWE;bWO;bN;bVU;bSMALL KA;cKE"⟩,
  ⟨0x3099,
   "COMBINING KATAKANA-HIRAGANA VOICED SOUND MARK;bSEMI-VOICED SOUND MARK;
    KATAKANA-HIRAGANA VOICED SOUND MARK;aSEMI-VOICED SOUND MARK;HIRAGANA ITERATION MARK;
    aVOICED ITERATION MARK;aDIGRAPH YORI;KATAKANA-HIRAGANA DOUBLE HYPHEN;KATAKANA LETTER SMALL A;
    bA;bSMALL I;bI;bSMALL U;bU;bSMALL E;bE;bSMALL O;bO;bKA;bGA;bKI;bGI;bKU;bGU;bKE;bGE;bKO;bGO;
    bSA;bZA;bSI;bZI;bSU;bZU;bSE;bZE;bSO;bZO;bTA;bDA;bTI;bDI;bSMALL TU;bTU;bDU;bTE;bDE;bTO;bDO;
    bNA;bNI;bNU;bNE;bNO;bHA;bBA;bPA;bHI;bBI;bPI;bHU;bBU;bPU;bHE;bBE;bPE;bHO;bBO;bPO;bMA;bMI;bMU;
    bME;bMO;bSMALL YA;bYA;bSMALL YU;bYU;bSMALL YO;bYO;bRA;bRI;bRU;bRE;bRO;bSMALL WA;bWA;bWI;bWE;
    bWO;bN;bVU;bSMALL KA;cKE;bVA;bVI;bVE;bVO;aMIDDLE DOT;KATAKANA-HIRAGANA PROLONGED SOUND MARK;
    KATAKANA ITERATION MARK;aVOICED ITERATION MARK;aDIGRAPH KOTO"⟩,
  ⟨0x3105,
   "BOPOMOFO LETTER B;bP;bM;bF;bD;bT;bN;bL;bG;bK;bH;bJ;bQ;bX;bZH;bCH;bSH;bR;bZ;bC;bS;bA;bO;bE;
    bEH;bAI;bEI;bAU;bOU;bAN;bEN;bANG;bENG;bER;bI;bU;bIU;bV;bNG;bGN;bIH;bO WITH DOT ABOVE;bNN"⟩,
  ⟨0x3131,
   "HANGUL LETTER KIYEOK;bSSANGKIYEOK;bKIYEOK-SIOS;bNIEUN;bNIEUN-CIEUC;bNIEUN-HIEUH;bTIKEUT;
    bSSANGTIKEUT;bRIEUL;bRIEUL-KIYEOK;bRIEUL-MIEUM;bRIEUL-PIEUP;bRIEUL-SIOS;bRIEUL-THIEUTH;
    bRIEUL-PHIEUPH;bRIEUL-HIEUH;bMIEUM;bPIEUP;bSSANGPIEUP;bPIEUP-SIOS;bSIOS;bSSANGSIOS;bIEUNG;
    bCIEUC;bSSANGCIEUC;bCHIEUCH;bKHIEUKH;bTHIEUTH;bPHIEUPH;bHIEUH;bA;bAE;bYA;bYAE;bEO;bE;bYEO;
    bYE;bO;bWA;bWAE;bOE;bYO;bU;bWEO;bWE;bWI;bYU;bEU;bYI;bI;aFILLER;aLETTER SSANGNIEUN;
    bNIEUN-TIKEUT;bNIEUN-SIOS;bNIEUN-PANSIOS;bRIEUL-KIYEOK-SIOS;bRIEUL-TIKEUT;bRIEUL-PIEUP-SIOS;
    bRIEUL-PANSIOS;bRIEUL-YEORINHIEUH;bMIEUM-PIEUP;bMIEUM-SIOS;bMIEUM-PANSIOS;bKAPYEOUNMIEUM;
    bPIEUP-KIYEOK;bPIEUP-TIKEUT;bPIEUP-SIOS-KIYEOK;bPIEUP-SIOS-TIKEUT;bPIEUP-CIEUC;
    bPIEUP-THIEUTH;bKAPYEOUNPIEUP;bKAPYEOUNSSANGPIEUP;bSIOS-KIYEOK;bSIOS-NIEUN;bSIOS-TIKEUT;
    bSIOS-PIEUP;bSIOS-CIEUC;bPANSIOS;bSSANGIEUNG;bYESIEUNG;bYESIEUNG-SIOS;bYESIEUNG-PANSIOS;
    bKAPYEOUNPHIEUPH;bSSANGHIEUH;bYEORINHIEUH;bYO-YA;bYO-YAE;bYO-I;bYU-YEO;bYU-YE;bYU-I;bARAEA;
    bARAEAE"⟩,
  ⟨0x3190,
   "IDEOGRAPHIC ANNOTATION LINKING MARK;bREVERSE MARK;bONE MARK;bTWO MARK;bTHREE MARK;bFOUR MARK;
    bTOP MARK;bMIDDLE MARK;bBOTTOM MARK;bFIRST MARK;bSECOND MARK;bTHIRD MARK;bFOURTH MARK;
    bHEAVEN MARK;bEARTH MARK;bMAN MARK;BOPOMOFO LETTER BU;bZI;bJI;bGU;bEE;bENN;bOO;bONN;bIR;bANN;
    bINN;bUNN;bIM;bNGG;bAINN;bAUNN;bAM;bOM;bONG;bINNN;aFINAL LETTER P;cT;cK;cH;aLETTER GH;bLH;
    bZY;aFINAL LETTER G;aLETTER GW;bKW;bOE;bAH;CJK STROKE T;bWG;bXG;bBXG;bSW;bHZZ;bHZG;bHP;bHZWG;
    bSZWG;bHZT;bHZZP;bHPWG;bHZW;bHZZZ;bN;bH;bS;bP;bSP;bD;bHZ;bHG;bSZ;bSWZ;bST;bSG;bPD;bPZ;bTN;
    bSZZ;bSWG;bHXWG;bHZZZG;bPG;bQ"⟩,
  ⟨0x31f0,
   "KATAKANA LETTER SMALL KU;cSI;cSU;cTO;cNU;cHA;cHI;cHU;cHE;cHO;cMU;cRA;cRI;cRU;cRE;cRO"⟩,
  ⟨0x3200,
   "PARENTHESIZED HANGUL KIYEOK;bNIEUN;bTIKEUT;bRIEUL;bMIEUM;bPIEUP;bSIOS;bIEUNG;bCIEUC;bCHIEUCH;
    bKHIEUKH;bTHIEUTH;bPHIEUPH;bHIEUH;bKIYEOK A;bNIEUN A;bTIKEUT A;bRIEUL A;bMIEUM A;bPIEUP A;
    bSIOS A;bIEUNG A;bCIEUC A;bCHIEUCH A;bKHIEUKH A;bTHIEUTH A;bPHIEUPH A;bHIEUH A;bCIEUC U;
    aKOREAN CHARACTER OJEON;cO HU"⟩,
  ⟨0x3220,
   "PARENTHESIZED IDEOGRAPH ONE;bTWO;bTHREE;bFOUR;bFIVE;bSIX;bSEVEN;bEIGHT;bNINE;bTEN;bMOON;
    bFIRE;bWATER;bWOOD;bMETAL;bEARTH;bSUN;bSTOCK;bHAVE;bSOCIETY;bNAME;bSPECIAL;bFINANCIAL;
    bCONGRATULATION;bLABOR;bREPRESENT;bCALL;bSTUDY;bSUPERVISE;bENTERPRISE;bRESOURCE;bALLIANCE;
    bFESTIVAL;bREST;bSELF;bREACH;CIRCLED IDEOGRAPH QUESTION;bKINDERGARTEN;bSCHOOL;bKOTO;
    aNUMBER TEN ON BLACK SQUARE;bTWENTY ON BLACK SQUARE;bTHIRTY ON BLACK SQUARE;
    bFORTY ON BLACK SQUARE;bFIFTY ON BLACK SQUARE;bSIXTY ON BLACK SQUARE;
    bSEVENTY ON BLACK SQUARE;bEIGHTY ON BLACK SQUARE;PARTNERSHIP SIGN;CIRCLED NUMBER TWENTY ONE;
    cTWO;cTHREE;cFOUR;cFIVE;cSIX;cSEVEN;cEIGHT;cNINE;bTHIRTY;cONE;cTWO;cTHREE;cFOUR;cFIVE;
    aHANGUL KIYEOK;bNIEUN;bTIKEUT;bRIEUL;bMIEUM;bPIEUP;bSIOS;bIEUNG;bCIEUC;bCHIEUCH;bKHIEUKH;
    bTHIEUTH;bPHIEUPH;bHIEUH;bKIYEOK A;bNIEUN A;bTIKEUT A;bRIEUL A;bMIEUM A;bPIEUP A;bSIOS A;
    bIEUNG A;bCIEUC A;bCHIEUCH A;bKHIEUKH A;bTHIEUTH A;bPHIEUPH A;bHIEUH A;
    aKOREAN CHARACTER CHAMKO;cJUEUI;aHANGUL IEUNG U;KOREAN STANDARD SYMBOL;CIRCLED IDEOGRAPH ONE;
    bTWO;bTHREE;bFOUR;bFIVE;bSIX;bSEVEN;bEIGHT;bNINE;bTEN;bMOON;bFIRE;bWATER;bWOOD;bMETAL;bEARTH;
    bSUN;bSTOCK;bHAVE;bSOCIETY;bNAME;bSPECIAL;bFINANCIAL;bCONGRATULATION;bLABOR;bSECRET;bMALE;
    bFEMALE;bSUITABLE;bEXCELLENT;bPRINT;bATTENTION;bITEM;bREST;bCOPY;bCORRECT;bHIGH;bCENTRE;bLOW;
    bLEFT;bRIGHT;bMEDICINE;bRELIGION;bSTUDY;bSUPERVISE;bENTERPRISE;bRESOURCE;bALLIANCE;bNIGHT;
    aNUMBER THIRTY SIX;cSEVEN;cEIGHT;cNINE;bFORTY;cONE;cTWO;cTHREE;cFOUR;cFIVE;cSIX;cSEVEN;
    cEIGHT;cNINE;bFIFTY;IDEOGRAPHIC TELEGRAPH SYMBOL FOR JANUARY;dFEBRUARY;dMARCH;dAPRIL;dMAY;
    dJUNE;dJULY;dAUGUST;dSEPTEMBER;dOCTOBER;dNOVEMBER;dDECEMBER;SQUARE HG;aERG;aEV;
    LIMITED LIABILITY SIGN;CIRCLED KATAKANA A;bI;bU;bE;bO;bKA;bKI;bKU;bKE;bKO;bSA;bSI;bSU;bSE;
    bSO;bTA;bTI;bTU;bTE;bTO;bNA;bNI;bNU;bNE;bNO;bHA;bHI;bHU;bHE;bHO;bMA;bMI;bMU;bME;bMO;bYA;bYU;
    bYO;bRA;bRI;bRU;bRE;bRO;bWA;bWI;bWE;bWO;SQUARE ERA NAME REIWA"⟩,
  ⟨0x3300,
   "SQUARE APAATO;aARUHUA;aANPEA;aAARU;aININGU;aINTI;aUON;aESUKUUDO;aEEKAA;aONSU;aOOMU;aKAIRI;
    aKARATTO;aKARORII;aGARON;aGANMA;aGIGA;aGINII;aKYURII;aGIRUDAA;aKIRO;aKIROGURAMU;aKIROMEETORU;
    aKIROWATTO;aGURAMU;aGURAMUTON;aKURUZEIRO;aKUROONE;aKEESU;aKORUNA;aKOOPO;aSAIKURU;aSANTIIMU;
    aSIRINGU;aSENTI;aSENTO;aDAASU;aDESI;aDORU;aTON;aNANO;aNOTTO;aHAITU;aPAASENTO;aPAATU;aBAARERU;
    aPIASUTORU;aPIKURU;aPIKO;aBIRU;aHUARADDO;aHUIITO;aBUSSYERU;aHURAN;aHEKUTAARU;aPESO;aPENIHI;
    aHERUTU;aPENSU;aPEEZI;aBEETA;aPOINTO;aBORUTO;aHON;aPONDO;aHOORU;aHOON;aMAIKURO;aMAIRU;aMAHHA;
    aMARUKU;aMANSYON;aMIKURON;aMIRI;aMIRIBAARU;aMEGA;aMEGATON;aMEETORU;aYAADO;aYAARU;aYUAN;
    aRITTORU;aRIRA;aRUPII;aRUUBURU;aREMU;aRENTOGEN;aWATTO;
    IDEOGRAPHIC TELEGRAPH SYMBOL FOR HOUR ZERO;eONE;eTWO;eTHREE;eFOUR;eFIVE;eSIX;eSEVEN;eEIGHT;
    eNINE;eTEN;eELEVEN;eTWELVE;eTHIRTEEN;eFOURTEEN;eFIFTEEN;eSIXTEEN;eSEVENTEEN;eEIGHTEEN;
    eNINETEEN;eTWENTY;eTWENTY-ONE;eTWENTY-TWO;eTWENTY-THREE;eTWENTY-FOUR;SQUARE HPA;aDA;aAU;aBAR;
    aOV;aPC;aDM;bSQUARED;bCUBED;aIU;aERA NAME HEISEI;cSYOUWA;cTAISYOU;cMEIZI;aCORPORATION;
    aPA AMPS;aNA;aMU A;aMA;aKA;aKB;aMB;aGB;aCAL;aKCAL;aPF;aNF;aMU F;bG;aMG;aKG;aHZ;aKHZ;aMHZ;
    aGHZ;aTHZ;aMU L;aML;aDL;aKL;aFM;aNM;aMU M;aMM;aCM;aKM;aMM SQUARED;aCM SQUARED;aM SQUARED;
    aKM SQUARED;aMM CUBED;aCM CUBED;aM CUBED;aKM CUBED;aM OVER S;dSQUARED;aPA;aKPA;aMPA;aGPA;
    aRAD;bOVER S;dSQUARED;aPS;aNS;aMU S;aMS;aPV;aNV;aMU V;aMV;aKV;aMV MEGA;aPW;aNW;aMU W;aMW;aKW;
    aMW MEGA;aK OHM;aM OHM;aAM;aBQ;aCC;aCD;aC OVER KG;aCO;aDB;aGY;aHA;aHP;aIN;aKK;aKM CAPITAL;
    aKT;aLM;aLN;aLOG;aLX;aMB SMALL;aMIL;aMOL;aPH;aPM;aPPM;aPR;aSR;aSV;aWB;aV OVER M;aA OVER M;
    IDEOGRAPHIC TELEGRAPH SYMBOL FOR DAY ONE;eTWO;eTHREE;eFOUR;eFIVE;eSIX;eSEVEN;eEIGHT;eNINE;
    eTEN;eELEVEN;eTWELVE;eTHIRTEEN;eFOURTEEN;eFIFTEEN;eSIXTEEN;eSEVENTEEN;eEIGHTEEN;eNINETEEN;
    eTWENTY;eTWENTY-ONE;eTWENTY-TWO;eTWENTY-THREE;eTWENTY-FOUR;eTWENTY-FIVE;eTWENTY-SIX;
    eTWENTY-SEVEN;eTWENTY-EIGHT;eTWENTY-NINE;eTHIRTY;eTHIRTY-ONE;SQUARE GAL"⟩,
  ⟨0x4dc0,
   "HEXAGRAM FOR THE CREATIVE HEAVEN;cRECEPTIVE EARTH;bDIFFICULTY AT THE BEGINNING;
    bYOUTHFUL FOLLY;bWAITING;bCONFLICT;bTHE ARMY;bHOLDING TOGETHER;bSMALL TAMING;bTREADING;
    bPEACE;bSTANDSTILL;bFELLOWSHIP;bGREAT POSSESSION;bMODESTY;bENTHUSIASM;bFOLLOWING;
    bWORK ON THE DECAYED;bAPPROACH;bCONTEMPLATION;bBITING THROUGH;bGRACE;bSPLITTING APART;
    bRETURN;bINNOCENCE;bGREAT TAMING;bMOUTH CORNERS;bGREAT PREPONDERANCE;bTHE ABYSMAL WATER;
    cCLINGING FIRE;bINFLUENCE;bDURATION;bRETREAT;bGREAT POWER;bPROGRESS;bDARKENING OF THE LIGHT;
    bTHE FAMILY;bOPPOSITION;bOBSTRUCTION;bDELIVERANCE;bDECREASE;bINCREASE;bBREAKTHROUGH;
    bCOMING TO MEET;bGATHERING TOGETHER;bPUSHING UPWARD;bOPPRESSION;bTHE WELL;bREVOLUTION;
    bTHE CAULDRON;cAROUSING THUNDER;cKEEPING STILL MOUNTAIN;bDEVELOPMENT;bTHE MARRYING MAIDEN;
    bABUNDANCE;bTHE WANDERER;cGENTLE WIND;cJOYOUS LAKE;bDISPERSION;bLIMITATION;bINNER TRUTH;
    bSMALL PREPONDERANCE;bAFTER COMPLETION;bBEFORE COMPLETION"⟩]

end StreamLabel.Unicode
