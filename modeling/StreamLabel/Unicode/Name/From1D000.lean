import StreamLabel.Unicode.Name.Block

/-!
# Names from U+1D000 on

Musical, mathematical and sign writing symbols.
-/

namespace StreamLabel.Unicode

def namesFrom1D000 : List NameBlock := [
  ⟨0x1d000,
   "BYZANTINE MUSICAL SYMBOL PSILI;cDASEIA;cPERISPOMENI;cOXEIA EKFONITIKON;dDIPLI;
    cVAREIA EKFONITIKON;dDIPLI;cKATHISTI;cSYRMATIKI;cPARAKLITIKI;cYPOKRISIS;dDIPLI;cKREMASTI;
    cAPESO EKFONITIKON;cEXO EKFONITIKON;cTELEIA;cKENTIMATA;cAPOSTROFOS;dDIPLI;cSYNEVMA;cTHITA;
    cOLIGON ARCHAION;cGORGON ARCHAION;cPSILON;cCHAMILON;cVATHY;cISON ARCHAION;cKENTIMA ARCHAION;
    cKENTIMATA ARCHAION;cSAXIMATA;cPARICHON;cSTAVROS APODEXIA;cOXEIAI ARCHAION;cVAREIAI ARCHAION;
    cAPODERMA ARCHAION;cAPOTHEMA;cKLASMA;cREVMA;cPIASMA ARCHAION;cTINAGMA;cANATRICHISMA;cSEISMA;
    cSYNAGMA ARCHAION;dMETA STAVROU;cOYRANISMA ARCHAION;cTHEMA;cLEMOI;cDYO;cTRIA;cTESSERA;
    cKRATIMATA;cAPESO EXO NEO;cFTHORA ARCHAION;cIMIFTHORA;cTROMIKON ARCHAION;cKATAVA TROMIKON;
    cPELASTON;cPSIFISTON;cKONTEVMA;cCHOREVMA ARCHAION;cRAPISMA;cPARAKALESMA ARCHAION;
    cPARAKLITIKI ARCHAION;cICHADIN;cNANA;cPETASMA;cKONTEVMA ALLO;cTROMIKON ALLO;cSTRAGGISMATA;
    cGRONTHISMATA;cISON NEO;cOLIGON NEO;cOXEIA NEO;cPETASTI;cKOUFISMA;cPETASTOKOUFISMA;
    cKRATIMOKOUFISMA;cPELASTON NEO;cKENTIMATA NEO ANO;cKENTIMA NEO ANO;cYPSILI;cAPOSTROFOS NEO;
    cAPOSTROFOI SYNDESMOS NEO;cYPORROI;cKRATIMOYPORROON;cELAFRON;cCHAMILI;cMIKRON ISON;
    cVAREIA NEO;cPIASMA NEO;cPSIFISTON NEO;cOMALON;cANTIKENOMA;cLYGISMA;cPARAKLITIKI NEO;
    cPARAKALESMA NEO;cETERON PARAKALESMA;cKYLISMA;cANTIKENOKYLISMA;cTROMIKON NEO;cEKSTREPTON;
    cSYNAGMA NEO;cSYRMA;cCHOREVMA NEO;cEPEGERMA;cSEISMA NEO;cXIRON KLASMA;cTROMIKOPSIFISTON;
    cPSIFISTOLYGISMA;cTROMIKOLYGISMA;cTROMIKOPARAKALESMA;cPSIFISTOPARAKALESMA;cTROMIKOSYNAGMA;
    cPSIFISTOSYNAGMA;cGORGOSYNTHETON;cARGOSYNTHETON;cETERON ARGOSYNTHETON;cOYRANISMA NEO;
    cTHEMATISMOS ESO;dEXO;cTHEMA APLOUN;cTHES KAI APOTHES;cKATAVASMA;cENDOFONON;cYFEN KATO;dANO;
    cSTAVROS;cKLASMA ANO;cDIPLI ARCHAION;cKRATIMA ARCHAION;dALLO;dNEO;cAPODERMA NEO;cAPLI;cDIPLI;
    cTRIPLI;cTETRAPLI;cKORONIS;cLEIMMA ENOS CHRONOU;dDYO CHRONON;dTRION CHRONON;
    dTESSARON CHRONON;dIMISEOS CHRONOU;cGORGON NEO ANO;dPARESTIGMENON ARISTERA;eDEXIA;cDIGORGON;
    dPARESTIGMENON ARISTERA KATO;fANO;eDEXIA;cTRIGORGON;cARGON;cIMIDIARGON;cDIARGON;
    cAGOGI POLI ARGI;dARGOTERI;dARGI;dMETRIA;dMESI;dGORGI;dGORGOTERI;dPOLI GORGI;
    cMARTYRIA PROTOS ICHOS;dALLI PROTOS ICHOS;dDEYTEROS ICHOS;dALLI DEYTEROS ICHOS;dTRITOS ICHOS;
    dTRIFONIAS;dTETARTOS ICHOS;eLEGETOS ICHOS;dLEGETOS ICHOS;dPLAGIOS ICHOS;
    cISAKIA TELOUS ICHIMATOS;cAPOSTROFOI TELOUS ICHIMATOS;cFANEROSIS TETRAFONIAS;dMONOFONIAS;
    dDIFONIAS;cMARTYRIA VARYS ICHOS;dPROTOVARYS ICHOS;dPLAGIOS TETARTOS ICHOS;
    cGORTHMIKON N APLOUN;eDIPLOUN;cENARXIS KAI FTHORA VOU;cIMIFONON;cIMIFTHORON;
    cFTHORA ARCHAION DEYTEROU ICHOU;dDIATONIKI PA;eNANA;dNAOS ICHOS;dDIATONIKI DI;
    dSKLIRON DIATONON DI;dDIATONIKI KE;eZO;eNI KATO;fANO;dMALAKON CHROMA DIFONIAS;fMONOFONIAS;
    cFHTORA SKLIRON CHROMA VASIS;cFTHORA SKLIRON CHROMA SYNAFI;dNENANO;cCHROA ZYGOS;dKLITON;
    dSPATHI;cFTHORA I YFESIS TETARTIMORION;dENARMONIOS ANTIFONIA;cYFESIS TRITIMORION;
    cDIESIS TRITIMORION;dTETARTIMORION;dAPLI DYO DODEKATA;dMONOGRAMMOS TESSERA DODEKATA;
    dDIGRAMMOS EX DODEKATA;dTRIGRAMMOS OKTO DODEKATA;cYFESIS APLI DYO DODEKATA;
    dMONOGRAMMOS TESSERA DODEKATA;dDIGRAMMOS EX DODEKATA;dTRIGRAMMOS OKTO DODEKATA;
    cGENIKI DIESIS;dYFESIS;cDIASTOLI APLI MIKRI;eMEGALI;dDIPLI;dTHESEOS;cSIMANSIS THESEOS;
    eDISIMOU;eTRISIMOU;eTETRASIMOU;dARSEOS;eDISIMOU;eTRISIMOU;eTETRASIMOU;cDIGRAMMA GG;
    cDIFTOGGOS OU;cSTIGMA;cARKTIKO PA;dVOU;dGA;dDI;dKE;dZO;dNI;cKENTIMATA NEO MESO;
    cKENTIMA NEO MESO;cKENTIMATA NEO KATO;cKENTIMA NEO KATO;cKLASMA KATO;cGORGON NEO KATO"⟩,
  ⟨0x1d100,
   "MUSICAL SYMBOL SINGLE BARLINE;bDOUBLE BARLINE;bFINAL BARLINE;bREVERSE FINAL BARLINE;
    bDASHED BARLINE;bSHORT BARLINE;bLEFT REPEAT SIGN;bRIGHT REPEAT SIGN;bREPEAT DOTS;bDAL SEGNO;
    bDA CAPO;bSEGNO;bCODA;bREPEATED FIGURE-1;cFIGURE-2;cFIGURE-3;bFERMATA;cBELOW;bBREATH MARK;
    bCAESURA;bBRACE;bBRACKET;bONE-LINE STAFF;bTWO-LINE STAFF;bTHREE-LINE STAFF;bFOUR-LINE STAFF;
    bFIVE-LINE STAFF;bSIX-LINE STAFF;bSIX-STRING FRETBOARD;bFOUR-STRING FRETBOARD;bG CLEF;
    dOTTAVA ALTA;eBASSA;bC CLEF;bF CLEF;dOTTAVA ALTA;eBASSA;bDRUM CLEF-1;cCLEF-2"⟩,
  ⟨0x1d129,
   "MUSICAL SYMBOL MULTIPLE MEASURE REST;bDOUBLE SHARP;cFLAT;bFLAT UP;cDOWN;bNATURAL UP;cDOWN;
    bSHARP UP;cDOWN;bQUARTER TONE SHARP;dFLAT;bCOMMON TIME;bCUT TIME;bOTTAVA ALTA;cBASSA;
    bQUINDICESIMA ALTA;cBASSA;bMULTI REST;bWHOLE REST;bHALF REST;bQUARTER REST;bEIGHTH REST;
    bSIXTEENTH REST;bTHIRTY-SECOND REST;bSIXTY-FOURTH REST;bONE HUNDRED TWENTY-EIGHTH REST;
    bX NOTEHEAD;bPLUS NOTEHEAD;bCIRCLE X NOTEHEAD;bSQUARE NOTEHEAD WHITE;dBLACK;
    bTRIANGLE NOTEHEAD UP WHITE;eBLACK;dLEFT WHITE;eBLACK;dRIGHT WHITE;eBLACK;dDOWN WHITE;eBLACK;
    dUP RIGHT WHITE;fBLACK;bMOON NOTEHEAD WHITE;dBLACK;bTRIANGLE-ROUND NOTEHEAD DOWN WHITE;
    eBLACK;bPARENTHESIS NOTEHEAD;bVOID NOTEHEAD;bNOTEHEAD BLACK;bNULL NOTEHEAD;
    bCLUSTER NOTEHEAD WHITE;dBLACK;bBREVE;bWHOLE NOTE;bHALF NOTE;bQUARTER NOTE;bEIGHTH NOTE;
    bSIXTEENTH NOTE;bTHIRTY-SECOND NOTE;bSIXTY-FOURTH NOTE;bONE HUNDRED TWENTY-EIGHTH NOTE;
    bCOMBINING STEM;cSPRECHGESANG STEM;cTREMOLO-1;cTREMOLO-2;cTREMOLO-3;bFINGERED TREMOLO-1;
    cTREMOLO-2;cTREMOLO-3;bCOMBINING AUGMENTATION DOT;cFLAG-1;cFLAG-2;cFLAG-3;cFLAG-4;cFLAG-5;
    bBEGIN BEAM;bEND BEAM;bBEGIN TIE;bEND TIE;bBEGIN SLUR;bEND SLUR;bBEGIN PHRASE;bEND PHRASE;
    bCOMBINING ACCENT;cSTACCATO;cTENUTO;cSTACCATISSIMO;cMARCATO;cMARCATO-STACCATO;
    cACCENT-STACCATO;cLOURE;bARPEGGIATO UP;cDOWN;bCOMBINING DOIT;cRIP;cFLIP;cSMEAR;cBEND;
    cDOUBLE TONGUE;cTRIPLE TONGUE;bRINFORZANDO;bSUBITO;bZ;bPIANO;bMEZZO;bFORTE;bCRESCENDO;
    bDECRESCENDO;bGRACE NOTE SLASH;dNO SLASH;bTR;bTURN;bINVERTED TURN;bTURN SLASH;cUP;
    bORNAMENT STROKE-1;cSTROKE-2;cSTROKE-3;cSTROKE-4;cSTROKE-5;cSTROKE-6;cSTROKE-7;cSTROKE-8;
    cSTROKE-9;cSTROKE-10;cSTROKE-11;bHAUPTSTIMME;bNEBENSTIMME;bEND OF STIMME;bDEGREE SLASH;
    bCOMBINING DOWN BOW;cUP BOW;cHARMONIC;cSNAP PIZZICATO;bPEDAL MARK;cUP MARK;bHALF PEDAL MARK;
    bGLISSANDO UP;cDOWN;bWITH FINGERNAILS;bDAMP;cALL;bMAXIMA;bLONGA;bBREVIS;bSEMIBREVIS WHITE;
    cBLACK;bMINIMA;cBLACK;bSEMIMINIMA WHITE;cBLACK;bFUSA WHITE;cBLACK;bLONGA PERFECTA REST;
    cIMPERFECTA REST;bBREVIS REST;bSEMIBREVIS REST;bMINIMA REST;bSEMIMINIMA REST;
    bTEMPUS PERFECTUM CUM PROLATIONE PERFECTA;fIMPERFECTA;fPERFECTA DIMINUTION-1;
    cIMPERFECTUM CUM PROLATIONE PERFECTA;fIMPERFECTA;gDIMINUTION-1;gDIMINUTION-2;gDIMINUTION-3;
    bCROIX;bGREGORIAN C CLEF;cF CLEF;bSQUARE B;bVIRGA;bPODATUS;bCLIVIS;bSCANDICUS;bCLIMACUS;
    bTORCULUS;bPORRECTUS;cFLEXUS;bSCANDICUS FLEXUS;bTORCULUS RESUPINUS;bPES SUBPUNCTIS;
    bKIEVAN C CLEF;cEND OF PIECE;cFINAL NOTE;cRECITATIVE MARK;cWHOLE NOTE;cHALF NOTE;
    cQUARTER NOTE STEM DOWN;fUP;cEIGHTH NOTE STEM DOWN;fUP;cFLAT SIGN;bSORI;bKORON"⟩,
  ⟨0x1d200,
   "GREEK VOCAL NOTATION SYMBOL-1;cSYMBOL-2;cSYMBOL-3;cSYMBOL-4;cSYMBOL-5;cSYMBOL-6;cSYMBOL-7;
    cSYMBOL-8;cSYMBOL-9;cSYMBOL-10;cSYMBOL-11;cSYMBOL-12;cSYMBOL-13;cSYMBOL-14;cSYMBOL-15;
    cSYMBOL-16;cSYMBOL-17;cSYMBOL-18;cSYMBOL-19;cSYMBOL-20;cSYMBOL-21;cSYMBOL-22;cSYMBOL-23;
    cSYMBOL-24;cSYMBOL-50;cSYMBOL-51;cSYMBOL-52;cSYMBOL-53;cSYMBOL-54;
    aINSTRUMENTAL NOTATION SYMBOL-1;cSYMBOL-2;cSYMBOL-4;cSYMBOL-5;cSYMBOL-7;cSYMBOL-8;cSYMBOL-11;
    cSYMBOL-12;cSYMBOL-13;cSYMBOL-14;cSYMBOL-17;cSYMBOL-18;cSYMBOL-19;cSYMBOL-23;cSYMBOL-24;
    cSYMBOL-25;cSYMBOL-26;cSYMBOL-27;cSYMBOL-29;cSYMBOL-30;cSYMBOL-32;cSYMBOL-36;cSYMBOL-37;
    cSYMBOL-38;cSYMBOL-39;cSYMBOL-40;cSYMBOL-42;cSYMBOL-43;cSYMBOL-45;cSYMBOL-47;cSYMBOL-48;
    cSYMBOL-49;cSYMBOL-50;cSYMBOL-51;cSYMBOL-52;cSYMBOL-53;cSYMBOL-54;
    COMBINING GREEK MUSICAL TRISEME;cTETRASEME;cPENTASEME;GREEK MUSICAL LEIMMA"⟩,
  ⟨0x1d2e0,
   "MAYAN NUMERAL ZERO;bONE;bTWO;bTHREE;bFOUR;bFIVE;bSIX;bSEVEN;bEIGHT;bNINE;bTEN;bELEVEN;
    bTWELVE;bTHIRTEEN;bFOURTEEN;bFIFTEEN;bSIXTEEN;bSEVENTEEN;bEIGHTEEN;bNINETEEN"⟩,
  ⟨0x1d300,
   "MONOGRAM FOR EARTH;DIGRAM FOR HEAVENLY EARTH;bHUMAN EARTH;bEARTHLY HEAVEN;cHUMAN;bEARTH;
    TETRAGRAM FOR CENTRE;bFULL CIRCLE;bMIRED;bBARRIER;bKEEPING SMALL;bCONTRARIETY;bASCENT;
    bOPPOSITION;bBRANCHING OUT;bDEFECTIVENESS OR DISTORTION;bDIVERGENCE;bYOUTHFULNESS;bINCREASE;
    bPENETRATION;bREACH;bCONTACT;bHOLDING BACK;bWAITING;bFOLLOWING;bADVANCE;bRELEASE;bRESISTANCE;
    bEASE;bJOY;bCONTENTION;bENDEAVOUR;bDUTIES;bCHANGE;bDECISIVENESS;bBOLD RESOLUTION;bPACKING;
    bLEGION;bCLOSENESS;bKINSHIP;bGATHERING;bSTRENGTH;bPURITY;bFULLNESS;bRESIDENCE;bLAW OR MODEL;
    bRESPONSE;bGOING TO MEET;bENCOUNTERS;bSTOVE;bGREATNESS;bENLARGEMENT;bPATTERN;bRITUAL;bFLIGHT;
    bVASTNESS OR WASTING;bCONSTANCY;bMEASURE;bETERNITY;bUNITY;bDIMINISHMENT;bCLOSED MOUTH;
    bGUARDEDNESS;bGATHERING IN;bMASSING;bACCUMULATION;bEMBELLISHMENT;bDOUBT;bWATCH;bSINKING;
    bINNER;bDEPARTURE;bDARKENING;bDIMMING;bEXHAUSTION;bSEVERANCE;bSTOPPAGE;bHARDNESS;bCOMPLETION;
    bCLOSURE;bFAILURE;bAGGRAVATION;bCOMPLIANCE;bON THE VERGE;bDIFFICULTIES;bLABOURING;bFOSTERING"⟩,
  ⟨0x1d360,
   "COUNTING ROD UNIT DIGIT ONE;dTWO;dTHREE;dFOUR;dFIVE;dSIX;dSEVEN;dEIGHT;dNINE;bTENS DIGIT ONE;
    dTWO;dTHREE;dFOUR;dFIVE;dSIX;dSEVEN;dEIGHT;dNINE;IDEOGRAPHIC TALLY MARK ONE;cTWO;cTHREE;
    cFOUR;cFIVE;TALLY MARK ONE;bFIVE"⟩,
  ⟨0x1d400,
   "MATHEMATICAL BOLD CAPITAL A;cB;cC;cD;cE;cF;cG;cH;cI;cJ;cK;cL;cM;cN;cO;cP;cQ;cR;cS;cT;cU;cV;
    cW;cX;cY;cZ;bSMALL A;cB;cC;cD;cE;cF;cG;cH;cI;cJ;cK;cL;cM;cN;cO;cP;cQ;cR;cS;cT;cU;cV;cW;cX;cY;
    cZ;aITALIC CAPITAL A;cB;cC;cD;cE;cF;cG;cH;cI;cJ;cK;cL;cM;cN;cO;cP;cQ;cR;cS;cT;cU;cV;cW;cX;cY;
    cZ;bSMALL A;cB;cC;cD;cE;cF;cG"⟩,
  ⟨0x1d456,
   "MATHEMATICAL ITALIC SMALL I;cJ;cK;cL;cM;cN;cO;cP;cQ;cR;cS;cT;cU;cV;cW;cX;cY;cZ;
    aBOLD ITALIC CAPITAL A;dB;dC;dD;dE;dF;dG;dH;dI;dJ;dK;dL;dM;dN;dO;dP;dQ;dR;dS;dT;dU;dV;dW;dX;
    dY;dZ;cSMALL A;dB;dC;dD;dE;dF;dG;dH;dI;dJ;dK;dL;dM;dN;dO;dP;dQ;dR;dS;dT;dU;dV;dW;dX;dY;dZ;
    aSCRIPT CAPITAL A"⟩,
  ⟨0x1d49e, "MATHEMATICAL SCRIPT CAPITAL C;cD"⟩,
  ⟨0x1d4a2, "MATHEMATICAL SCRIPT CAPITAL G"⟩,
  ⟨0x1d4a5, "MATHEMATICAL SCRIPT CAPITAL J;cK"⟩,
  ⟨0x1d4a9, "MATHEMATICAL SCRIPT CAPITAL N;cO;cP;cQ"⟩,
  ⟨0x1d4ae, "MATHEMATICAL SCRIPT CAPITAL S;cT;cU;cV;cW;cX;cY;cZ;bSMALL A;cB;cC;cD"⟩,
  ⟨0x1d4bb, "MATHEMATICAL SCRIPT SMALL F"⟩,
  ⟨0x1d4bd, "MATHEMATICAL SCRIPT SMALL H;cI;cJ;cK;cL;cM;cN"⟩,
  ⟨0x1d4c5,
   "MATHEMATICAL SCRIPT SMALL P;cQ;cR;cS;cT;cU;cV;cW;cX;cY;cZ;aBOLD SCRIPT CAPITAL A;dB;dC;dD;dE;
    dF;dG;dH;dI;dJ;dK;dL;dM;dN;dO;dP;dQ;dR;dS;dT;dU;dV;dW;dX;dY;dZ;cSMALL A;dB;dC;dD;dE;dF;dG;dH;
    dI;dJ;dK;dL;dM;dN;dO;dP;dQ;dR;dS;dT;dU;dV"⟩,
  ⟨0x1d500, "MATHEMATICAL BOLD SCRIPT SMALL W;dX;dY;dZ;aFRAKTUR CAPITAL A;cB"⟩,
  ⟨0x1d507, "MATHEMATICAL FRAKTUR CAPITAL D;cE;cF;cG"⟩,
  ⟨0x1d50d, "MATHEMATICAL FRAKTUR CAPITAL J;cK;cL;cM;cN;cO;cP;cQ"⟩,
  ⟨0x1d516, "MATHEMATICAL FRAKTUR CAPITAL S;cT;cU;cV;cW;cX;cY"⟩,
  ⟨0x1d51e,
   "MATHEMATICAL FRAKTUR SMALL A;cB;cC;cD;cE;cF;cG;cH;cI;cJ;cK;cL;cM;cN;cO;cP;cQ;cR;cS;cT;cU;cV;
    cW;cX;cY;cZ;aDOUBLE-STRUCK CAPITAL A;cB"⟩,
  ⟨0x1d53b, "MATHEMATICAL DOUBLE-STRUCK CAPITAL D;cE;cF;cG"⟩,
  ⟨0x1d540, "MATHEMATICAL DOUBLE-STRUCK CAPITAL I;cJ;cK;cL;cM"⟩,
  ⟨0x1d546, "MATHEMATICAL DOUBLE-STRUCK CAPITAL O"⟩,
  ⟨0x1d54a, "MATHEMATICAL DOUBLE-STRUCK CAPITAL S;cT;cU;cV;cW;cX;cY"⟩,
  ⟨0x1d552,
   "MATHEMATICAL DOUBLE-STRUCK SMALL A;cB;cC;cD;cE;cF;cG;cH;cI;cJ;cK;cL;cM;cN;cO;cP;cQ;cR;cS;cT;
    cU;cV;cW;cX;cY;cZ;aBOLD FRAKTUR CAPITAL A;dB;dC;dD;dE;dF;dG;dH;dI;dJ;dK;dL;dM;dN;dO;dP;dQ;dR;
    dS;dT;dU;dV;dW;dX;dY;dZ;cSMALL A;dB;dC;dD;dE;dF;dG;dH;dI;dJ;dK;dL;dM;dN;dO;dP;dQ;dR;dS;dT;dU;
    dV;dW;dX;dY;dZ;aSANS-SERIF CAPITAL A;cB;cC;cD;cE;cF;cG;cH;cI;cJ;cK;cL;cM;cN;cO;cP;cQ;cR;cS;
    cT;cU;cV;cW;cX;cY;cZ;bSMALL A;cB;cC;cD;cE;cF;cG;cH;cI;cJ;cK;cL;cM;cN;cO;cP;cQ;cR;cS;cT;cU;cV;
    cW;cX;cY;cZ;bBOLD CAPITAL A;dB;dC;dD;dE;dF;dG;dH;dI;dJ;dK;dL;dM;dN;dO;dP;dQ;dR;dS;dT;dU;dV;
    dW;dX;dY;dZ;cSMALL A;dB;dC;dD;dE;dF;dG;dH;dI;dJ;dK;dL;dM;dN;dO;dP;dQ;dR"⟩,
  ⟨0x1d600,
   "MATHEMATICAL SANS-SERIF BOLD SMALL S;dT;dU;dV;dW;dX;dY;dZ;bITALIC CAPITAL A;dB;dC;dD;dE;dF;
    dG;dH;dI;dJ;dK;dL;dM;dN;dO;dP;dQ;dR;dS;dT;dU;dV;dW;dX;dY;dZ;cSMALL A;dB;dC;dD;dE;dF;dG;dH;dI;
    dJ;dK;dL;dM;dN;dO;dP;dQ;dR;dS;dT;dU;dV;dW;dX;dY;dZ;bBOLD ITALIC CAPITAL A;eB;eC;eD;eE;eF;eG;
    eH;eI;eJ;eK;eL;eM;eN;eO;eP;eQ;eR;eS;eT;eU;eV;eW;eX;eY;eZ;dSMALL A;eB;eC;eD;eE;eF;eG;eH;eI;eJ;
    eK;eL;eM;eN;eO;eP;eQ;eR;eS;eT;eU;eV;eW;eX;eY;eZ;aMONOSPACE CAPITAL A;cB;cC;cD;cE;cF;cG;cH;cI;
    cJ;cK;cL;cM;cN;cO;cP;cQ;cR;cS;cT;cU;cV;cW;cX;cY;cZ;bSMALL A;cB;cC;cD;cE;cF;cG;cH;cI;cJ;cK;cL;
    cM;cN;cO;cP;cQ;cR;cS;cT;cU;cV;cW;cX;cY;cZ;aITALIC SMALL DOTLESS I;dJ"⟩,
  ⟨0x1d6a8,
   "MATHEMATICAL BOLD CAPITAL ALPHA;cBETA;cGAMMA;cDELTA;cEPSILON;cZETA;cETA;cTHETA;cIOTA;cKAPPA;
    cLAMDA;cMU;cNU;cXI;cOMICRON;cPI;cRHO;cTHETA SYMBOL;cSIGMA;cTAU;cUPSILON;cPHI;cCHI;cPSI;
    cOMEGA;bNABLA;bSMALL ALPHA;cBETA;cGAMMA;cDELTA;cEPSILON;cZETA;cETA;cTHETA;cIOTA;cKAPPA;
    cLAMDA;cMU;cNU;cXI;cOMICRON;cPI;cRHO;cFINAL SIGMA;cSIGMA;cTAU;cUPSILON;cPHI;cCHI;cPSI;cOMEGA;
    bPARTIAL DIFFERENTIAL;bEPSILON SYMBOL;bTHETA SYMBOL;bKAPPA SYMBOL;bPHI SYMBOL;bRHO SYMBOL;
    bPI SYMBOL;aITALIC CAPITAL ALPHA;cBETA;cGAMMA;cDELTA;cEPSILON;cZETA;cETA;cTHETA;cIOTA;cKAPPA;
    cLAMDA;cMU;cNU;cXI;cOMICRON;cPI;cRHO;cTHETA SYMBOL;cSIGMA;cTAU;cUPSILON;cPHI;cCHI;cPSI;
    cOMEGA;bNABLA;bSMALL ALPHA;cBETA;cGAMMA;cDELTA"⟩,
  ⟨0x1d700,
   "MATHEMATICAL ITALIC SMALL EPSILON;cZETA;cETA;cTHETA;cIOTA;cKAPPA;cLAMDA;cMU;cNU;cXI;cOMICRON;
    cPI;cRHO;cFINAL SIGMA;cSIGMA;cTAU;cUPSILON;cPHI;cCHI;cPSI;cOMEGA;bPARTIAL DIFFERENTIAL;
    bEPSILON SYMBOL;bTHETA SYMBOL;bKAPPA SYMBOL;bPHI SYMBOL;bRHO SYMBOL;bPI SYMBOL;
    aBOLD ITALIC CAPITAL ALPHA;dBETA;dGAMMA;dDELTA;dEPSILON;dZETA;dETA;dTHETA;dIOTA;dKAPPA;
    dLAMDA;dMU;dNU;dXI;dOMICRON;dPI;dRHO;dTHETA SYMBOL;dSIGMA;dTAU;dUPSILON;dPHI;dCHI;dPSI;
    dOMEGA;cNABLA;cSMALL ALPHA;dBETA;dGAMMA;dDELTA;dEPSILON;dZETA;dETA;dTHETA;dIOTA;dKAPPA;
    dLAMDA;dMU;dNU;dXI;dOMICRON;dPI;dRHO;dFINAL SIGMA;dSIGMA;dTAU;dUPSILON;dPHI;dCHI;dPSI;dOMEGA;
    cPARTIAL DIFFERENTIAL;cEPSILON SYMBOL;cTHETA SYMBOL;cKAPPA SYMBOL;cPHI SYMBOL;cRHO SYMBOL;
    cPI SYMBOL;aSANS-SERIF BOLD CAPITAL ALPHA;dBETA;dGAMMA;dDELTA;dEPSILON;dZETA;dETA;dTHETA;
    dIOTA;dKAPPA;dLAMDA;dMU;dNU;dXI;dOMICRON;dPI;dRHO;dTHETA SYMBOL;dSIGMA;dTAU;dUPSILON;dPHI;
    dCHI;dPSI;dOMEGA;cNABLA;cSMALL ALPHA;dBETA;dGAMMA;dDELTA;dEPSILON;dZETA;dETA;dTHETA;dIOTA;
    dKAPPA;dLAMDA;dMU;dNU;dXI;dOMICRON;dPI;dRHO;dFINAL SIGMA;dSIGMA;dTAU;dUPSILON;dPHI;dCHI;dPSI;
    dOMEGA;cPARTIAL DIFFERENTIAL;cEPSILON SYMBOL;cTHETA SYMBOL;cKAPPA SYMBOL;cPHI SYMBOL;
    cRHO SYMBOL;cPI SYMBOL;cITALIC CAPITAL ALPHA;eBETA;eGAMMA;eDELTA;eEPSILON;eZETA;eETA;eTHETA;
    eIOTA;eKAPPA;eLAMDA;eMU;eNU;eXI;eOMICRON;ePI;eRHO;eTHETA SYMBOL;eSIGMA;eTAU;eUPSILON;ePHI;
    eCHI;ePSI;eOMEGA;dNABLA;dSMALL ALPHA;eBETA;eGAMMA;eDELTA;eEPSILON;eZETA;eETA;eTHETA;eIOTA;
    eKAPPA;eLAMDA;eMU;eNU;eXI;eOMICRON;ePI;eRHO;eFINAL SIGMA;eSIGMA;eTAU;eUPSILON;ePHI;eCHI;ePSI;
    eOMEGA;dPARTIAL DIFFERENTIAL;dEPSILON SYMBOL;dTHETA SYMBOL;dKAPPA SYMBOL;dPHI SYMBOL;
    dRHO SYMBOL;dPI SYMBOL;aBOLD CAPITAL DIGAMMA;bSMALL DIGAMMA"⟩,
  ⟨0x1d7ce,
   "MATHEMATICAL BOLD DIGIT ZERO;cONE;cTWO;cTHREE;cFOUR;cFIVE;cSIX;cSEVEN;cEIGHT;cNINE;
    aDOUBLE-STRUCK DIGIT ZERO;cONE;cTWO;cTHREE;cFOUR;cFIVE;cSIX;cSEVEN;cEIGHT;cNINE;
    aSANS-SERIF DIGIT ZERO;cONE;cTWO;cTHREE;cFOUR;cFIVE;cSIX;cSEVEN;cEIGHT;cNINE;
    bBOLD DIGIT ZERO;dONE;dTWO;dTHREE;dFOUR;dFIVE;dSIX;dSEVEN;dEIGHT;dNINE;aMONOSPACE DIGIT ZERO;
    cONE;cTWO;cTHREE;cFOUR;cFIVE;cSIX;cSEVEN;cEIGHT;cNINE"⟩,
  ⟨0x1d800,
   "SIGNWRITING HAND-FIST INDEX;aHAND-CIRCLE INDEX;aHAND-CUP INDEX;aHAND-OVAL INDEX;
    aHAND-HINGE INDEX;aHAND-ANGLE INDEX;aHAND-FIST INDEX BENT;aHAND-CIRCLE INDEX BENT;
    aHAND-FIST THUMB UNDER INDEX BENT;bINDEX RAISED KNUCKLE;cCUPPED;cHINGED;dLOW;
    aHAND-CIRCLE INDEX HINGE;aHAND-FIST INDEX MIDDLE;aHAND-CIRCLE INDEX MIDDLE;
    aHAND-FIST INDEX MIDDLE BENT;dRAISED KNUCKLES;dHINGED;cUP MIDDLE HINGED;cHINGED MIDDLE UP;
    cMIDDLE CONJOINED;eINDEX BENT;eMIDDLE BENT;eCUPPED;eHINGED;dCROSSED;
    aHAND-CIRCLE INDEX MIDDLE CROSSED;aHAND-FIST MIDDLE BENT OVER INDEX;bINDEX BENT OVER MIDDLE;
    cMIDDLE THUMB;aHAND-CIRCLE INDEX MIDDLE THUMB;aHAND-FIST INDEX MIDDLE STRAIGHT THUMB BENT;
    dBENT THUMB STRAIGHT;dTHUMB BENT;dHINGED SPREAD THUMB SIDE;cUP MIDDLE HINGED THUMB SIDE;
    gCONJOINED;cHINGED MIDDLE UP THUMB SIDE;cMIDDLE UP SPREAD THUMB FORWARD;dTHUMB CUPPED;
    eCIRCLED;eHOOKED;eHINGED;bTHUMB BETWEEN INDEX MIDDLE STRAIGHT;
    bINDEX MIDDLE CONJOINED THUMB SIDE;gCONJOINED;gBENT;bMIDDLE THUMB HOOKED INDEX UP;
    bINDEX THUMB HOOKED MIDDLE UP;cMIDDLE CONJOINED HINGED THUMB SIDE;dCROSSED THUMB SIDE;
    dCONJOINED THUMB FORWARD;eCUPPED THUMB FORWARD;bMIDDLE THUMB CUPPED INDEX UP;
    bINDEX THUMB CUPPED MIDDLE UP;bMIDDLE THUMB CIRCLED INDEX UP;fHINGED;
    bINDEX THUMB ANGLED OUT MIDDLE UP;eIN MIDDLE UP;dCIRCLED MIDDLE UP;
    cMIDDLE THUMB CONJOINED HINGED;eANGLED OUT;f;bMIDDLE THUMB ANGLED OUT INDEX UP;gCROSSED;
    eINDEX UP;bINDEX THUMB HOOKED MIDDLE HINGED;aHAND-FLAT FOUR FINGERS;dBENT;dHINGED;dCONJOINED;
    eSPLIT;aHAND-CLAW FOUR FINGERS CONJOINED;aHAND-FIST FOUR FINGERS CONJOINED BENT;
    aHAND-HINGE FOUR FINGERS CONJOINED;aHAND-FLAT FIVE FINGERS SPREAD;bHEEL FIVE FINGERS SPREAD;
    bFIVE FINGERS SPREAD FOUR BENT;bHEEL FIVE FINGERS SPREAD FOUR BENT;bFIVE FINGERS SPREAD BENT;
    bHEEL FIVE FINGERS SPREAD BENT;bFIVE FINGERS SPREAD THUMB FORWARD;
    aHAND-CUP FIVE FINGERS SPREAD;eOPEN;aHAND-HINGE FIVE FINGERS SPREAD OPEN;
    aHAND-OVAL FIVE FINGERS SPREAD;aHAND-FLAT FIVE FINGERS SPREAD HINGED;fTHUMB SIDE;fNO THUMB;b;
    bBETWEEN PALM FACINGS;bHEEL;bTHUMB SIDE;bHEEL THUMB SIDE;bTHUMB BENT;cFORWARD;
    bSPLIT INDEX THUMB SIDE;cCENTRE;dTHUMB SIDE;fBENT;cLITTLE;aHAND-CLAW;bTHUMB SIDE;bNO THUMB;
    bTHUMB FORWARD;aHAND-HOOK CURLICUE;b;aHAND-CUP OPEN;b;bOPEN THUMB SIDE;bTHUMB SIDE;
    bOPEN NO THUMB;bNO THUMB;bOPEN THUMB FORWARD;bTHUMB FORWARD;aHAND-CURLICUE OPEN;b;
    aHAND-CIRCLE;aHAND-OVAL;bTHUMB SIDE;bNO THUMB;bTHUMB FORWARD;aHAND-HINGE OPEN;cTHUMB FORWARD;
    b;bSMALL;bOPEN THUMB SIDE;bTHUMB SIDE;bOPEN NO THUMB;bNO THUMB;bTHUMB SIDE TOUCHING INDEX;
    cBETWEEN MIDDLE RING;aHAND-ANGLE;aHAND-FIST INDEX MIDDLE RING;aHAND-CIRCLE INDEX MIDDLE RING;
    aHAND-HINGE INDEX MIDDLE RING;aHAND-ANGLE INDEX MIDDLE RING;aHAND-HINGE LITTLE;
    aHAND-FIST INDEX MIDDLE RING BENT;eCONJOINED;aHAND-HINGE INDEX MIDDLE RING CONJOINED;
    aHAND-FIST LITTLE DOWN;dRIPPLE STRAIGHT;eCURVED;dOTHERS CIRCLED;cUP;bTHUMB UNDER LITTLE UP;
    aHAND-CIRCLE LITTLE UP;aHAND-OVAL LITTLE UP;aHAND-ANGLE LITTLE UP;
    aHAND-FIST LITTLE RAISED KNUCKLE;cBENT;cTOUCHES THUMB;cTHUMB;aHAND-HINGE LITTLE THUMB;
    aHAND-FIST LITTLE INDEX THUMB;aHAND-HINGE LITTLE INDEX THUMB;
    aHAND-ANGLE LITTLE INDEX THUMB INDEX THUMB OUT;g;aHAND-FIST LITTLE INDEX;
    aHAND-CIRCLE LITTLE INDEX;aHAND-HINGE LITTLE INDEX;aHAND-ANGLE LITTLE INDEX;
    aHAND-FIST INDEX MIDDLE LITTLE;aHAND-CIRCLE INDEX MIDDLE LITTLE;
    aHAND-HINGE INDEX MIDDLE LITTLE;bRING;aHAND-ANGLE INDEX MIDDLE LITTLE;
    aHAND-FIST INDEX MIDDLE CROSS LITTLE;aHAND-CIRCLE INDEX MIDDLE CROSS LITTLE;
    aHAND-FIST RING DOWN;aHAND-HINGE RING DOWN INDEX THUMB HOOK MIDDLE;
    aHAND-ANGLE RING DOWN MIDDLE THUMB INDEX CROSS;aHAND-FIST RING UP;cRAISED KNUCKLE;cLITTLE;
    aHAND-CIRCLE RING LITTLE;aHAND-OVAL RING LITTLE;aHAND-ANGLE RING LITTLE;
    aHAND-FIST RING MIDDLE;dCONJOINED;dRAISED KNUCKLES;cINDEX;cTHUMB;aHAND-HOOK RING THUMB;
    aHAND-FIST INDEX RING LITTLE;aHAND-CIRCLE INDEX RING LITTLE;
    aHAND-CURLICUE INDEX RING LITTLE ON;aHAND-HOOK INDEX RING LITTLE OUT;eIN;eUNDER;
    aHAND-CUP INDEX RING LITTLE;aHAND-HINGE INDEX RING LITTLE;aHAND-ANGLE INDEX RING LITTLE OUT;
    e;aHAND-FIST MIDDLE DOWN;aHAND-HINGE MIDDLE;aHAND-FIST MIDDLE UP;aHAND-CIRCLE MIDDLE UP;
    aHAND-FIST MIDDLE RAISED KNUCKLE;cUP THUMB SIDE;aHAND-HOOK MIDDLE THUMB;
    aHAND-FIST MIDDLE THUMB LITTLE;cLITTLE;cRING LITTLE;aHAND-CIRCLE MIDDLE RING LITTLE;
    aHAND-CURLICUE MIDDLE RING LITTLE ON;aHAND-CUP MIDDLE RING LITTLE;
    aHAND-HINGE MIDDLE RING LITTLE;aHAND-ANGLE MIDDLE RING LITTLE OUT;eIN;e;
    aHAND-CIRCLE MIDDLE RING LITTLE BENT;aHAND-CLAW MIDDLE RING LITTLE CONJOINED;fSIDE;
    aHAND-HOOK MIDDLE RING LITTLE CONJOINED OUT;fIN;f;aHAND-HINGE INDEX HINGED;
    aHAND-FIST INDEX THUMB SIDE;aHAND-HINGE INDEX THUMB SIDE;
    aHAND-FIST INDEX THUMB SIDE THUMB DIAGONAL;fCONJOINED;fBENT;eINDEX BENT;eBOTH BENT;
    eINDEX HINGE;dFORWARD INDEX STRAIGHT;fBENT;dHOOK;dCURLICUE;dCURVE THUMB INSIDE;
    aHAND-CLAW INDEX THUMB CURVE THUMB INSIDE;aHAND-FIST INDEX THUMB CURVE THUMB UNDER;dCIRCLE;
    aHAND-CUP INDEX THUMB;dOPEN;aHAND-HINGE INDEX THUMB OPEN;dLARGE;d;dSMALL;
    aHAND-ANGLE INDEX THUMB OUT;dIN;d;aHAND-FIST THUMB;cHEEL;cSIDE DIAGONAL;dCONJOINED;dBENT;
    cFORWARD;cBETWEEN INDEX MIDDLE;dMIDDLE RING;dRING LITTLE;cUNDER TWO FINGERS;cOVER TWO FINGERS"⟩,
  ⟨0x1d900,
   "SIGNWRITING HAND-FIST THUMB UNDER THREE FINGERS;dFOUR FINGERS;cOVER FOUR RAISED KNUCKLES;b;
    bHEEL;aTOUCH SINGLE;bMULTIPLE;bBETWEEN;aGRASP SINGLE;bMULTIPLE;bBETWEEN;aSTRIKE SINGLE;
    bMULTIPLE;bBETWEEN;aBRUSH SINGLE;bMULTIPLE;bBETWEEN;aRUB SINGLE;bMULTIPLE;bBETWEEN;
    aSURFACE SYMBOLS;bBETWEEN;aSQUEEZE LARGE SINGLE;bSMALL SINGLE;bLARGE MULTIPLE;
    bSMALL MULTIPLE;bSEQUENTIAL;aFLICK LARGE SINGLE;bSMALL SINGLE;bLARGE MULTIPLE;
    bSMALL MULTIPLE;bSEQUENTIAL;aSQUEEZE FLICK ALTERNATING;aMOVEMENT-HINGE UP DOWN LARGE;dSMALL;
    cSEQUENTIAL;bDOWN SEQUENTIAL;bUP DOWN ALTERNATING LARGE;eSMALL;bSIDE TO SIDE SCISSORS;
    aMOVEMENT-WALLPLANE FINGER CONTACT;aMOVEMENT-FLOORPLANE FINGER CONTACT;
    aMOVEMENT-WALLPLANE SINGLE STRAIGHT SMALL;dMEDIUM;dLARGE;dLARGEST;cWRIST FLEX;
    bDOUBLE STRAIGHT;cWRIST FLEX;cALTERNATING;dWRIST FLEX;bCROSS;bTRIPLE STRAIGHT MOVEMENT;
    cWRIST FLEX;cALTERNATING;dWRIST FLEX;bBEND SMALL;cMEDIUM;cLARGE;bCORNER SMALL;cMEDIUM;cLARGE;
    cROTATION;bCHECK SMALL;cMEDIUM;cLARGE;bBOX SMALL;cMEDIUM;cLARGE;bZIGZAG SMALL;cMEDIUM;cLARGE;
    bPEAKS SMALL;cMEDIUM;cLARGE;aTRAVEL-WALLPLANE ROTATION-WALLPLANE SINGLE;cDOUBLE;cALTERNATING;
    bROTATION-FLOORPLANE SINGLE;cDOUBLE;cALTERNATING;bSHAKING;bARM SPIRAL SINGLE;dDOUBLE;dTRIPLE;
    aMOVEMENT-DIAGONAL AWAY SMALL;cMEDIUM;cLARGE;cLARGEST;bTOWARDS SMALL;cMEDIUM;cLARGE;cLARGEST;
    bBETWEEN AWAY SMALL;dMEDIUM;dLARGE;dLARGEST;cTOWARDS SMALL;dMEDIUM;dLARGE;dLARGEST;
    aMOVEMENT-FLOORPLANE SINGLE STRAIGHT SMALL;dMEDIUM;dLARGE;dLARGEST;cWRIST FLEX;
    bDOUBLE STRAIGHT;cWRIST FLEX;cALTERNATING;dWRIST FLEX;bCROSS;bTRIPLE STRAIGHT MOVEMENT;
    cWRIST FLEX;cALTERNATING MOVEMENT;dWRIST FLEX;bBEND;bCORNER SMALL;cMEDIUM;cLARGE;bCHECK;
    bBOX SMALL;cMEDIUM;cLARGE;bZIGZAG SMALL;cMEDIUM;cLARGE;bPEAKS SMALL;cMEDIUM;cLARGE;
    aTRAVEL-FLOORPLANE ROTATION-FLOORPLANE SINGLE;cDOUBLE;cALTERNATING;
    bROTATION-WALLPLANE SINGLE;cDOUBLE;cALTERNATING;bSHAKING;
    aMOVEMENT-WALLPLANE CURVE QUARTER SMALL;dMEDIUM;dLARGE;dLARGEST;cHALF-CIRCLE SMALL;dMEDIUM;
    dLARGE;dLARGEST;cTHREE-QUARTER CIRCLE SMALL;eMEDIUM;bHUMP SMALL;cMEDIUM;cLARGE;bLOOP SMALL;
    cMEDIUM;cLARGE;cSMALL DOUBLE;bWAVE CURVE DOUBLE SMALL;eMEDIUM;eLARGE;dTRIPLE SMALL;eMEDIUM;
    eLARGE;bCURVE THEN STRAIGHT;bCURVED CROSS SMALL;dMEDIUM;aROTATION-WALLPLANE SINGLE;bDOUBLE;
    bALTERNATE;aMOVEMENT-WALLPLANE SHAKING;bCURVE HITTING FRONT WALL;bHUMP HITTING FRONT WALL;
    bLOOP HITTING FRONT WALL;bWAVE HITTING FRONT WALL;
    aROTATION-WALLPLANE SINGLE HITTING FRONT WALL;bDOUBLE HITTING FRONT WALL;
    bALTERNATING HITTING FRONT WALL;aMOVEMENT-WALLPLANE CURVE HITTING CHEST;bHUMP HITTING CHEST;
    bLOOP HITTING CHEST;bWAVE HITTING CHEST;aROTATION-WALLPLANE SINGLE HITTING CHEST;
    bDOUBLE HITTING CHEST;bALTERNATING HITTING CHEST;
    aMOVEMENT-WALLPLANE WAVE DIAGONAL PATH SMALL;eMEDIUM;eLARGE;
    aMOVEMENT-FLOORPLANE CURVE HITTING CEILING SMALL;eLARGE;bHUMP HITTING CEILING SMALL DOUBLE;
    eLARGE DOUBLE;eSMALL TRIPLE;eLARGE TRIPLE;bLOOP HITTING CEILING SMALL SINGLE;eLARGE SINGLE;
    eSMALL DOUBLE;eLARGE DOUBLE;bWAVE HITTING CEILING SMALL;eLARGE;
    aROTATION-FLOORPLANE SINGLE HITTING CEILING;bDOUBLE HITTING CEILING;
    bALTERNATING HITTING CEILING;aMOVEMENT-FLOORPLANE CURVE HITTING FLOOR SMALL;eLARGE;
    bHUMP HITTING FLOOR SMALL DOUBLE;eLARGE DOUBLE;eTRIPLE SMALL TRIPLE;fLARGE TRIPLE;
    bLOOP HITTING FLOOR SMALL SINGLE;eLARGE SINGLE;eSMALL DOUBLE;eLARGE DOUBLE;
    bWAVE HITTING FLOOR SMALL;eLARGE;aROTATION-FLOORPLANE SINGLE HITTING FLOOR;
    bDOUBLE HITTING FLOOR;bALTERNATING HITTING FLOOR;aMOVEMENT-FLOORPLANE CURVE SMALL;cMEDIUM;
    cLARGE;cLARGEST;cCOMBINED;bHUMP SMALL;bLOOP SMALL;bWAVE SNAKE;cSMALL;cLARGE;
    aROTATION-FLOORPLANE SINGLE;bDOUBLE;bALTERNATING;aMOVEMENT-FLOORPLANE SHAKING PARALLEL;
    aMOVEMENT-WALLPLANE ARM CIRCLE SMALL SINGLE;dMEDIUM SINGLE;dSMALL DOUBLE;dMEDIUM DOUBLE;
    aMOVEMENT-FLOORPLANE ARM CIRCLE HITTING WALL SMALL SINGLE;fMEDIUM SINGLE;fLARGE SINGLE;
    fSMALL DOUBLE;fMEDIUM DOUBLE;fLARGE DOUBLE;aMOVEMENT-WALLPLANE WRIST CIRCLE FRONT SINGLE;
    eDOUBLE;aMOVEMENT-FLOORPLANE WRIST CIRCLE HITTING WALL SINGLE;fDOUBLE;
    aMOVEMENT-WALLPLANE FINGER CIRCLES SINGLE;dDOUBLE;
    aMOVEMENT-FLOORPLANE FINGER CIRCLES HITTING WALL SINGLE;fDOUBLE;aDYNAMIC ARROWHEAD SMALL;
    cLARGE;bFAST;bSLOW;bTENSE;bRELAXED;bSIMULTANEOUS;cALTERNATING;bEVERY OTHER TIME;bGRADUAL;
    aHEAD"⟩,
  ⟨0x1da00,
   "SIGNWRITING HEAD RIM;bMOVEMENT-WALLPLANE STRAIGHT;cTILT;bMOVEMENT-FLOORPLANE STRAIGHT;
    bMOVEMENT-WALLPLANE CURVE;bMOVEMENT-FLOORPLANE CURVE;bMOVEMENT CIRCLE;
    aFACE DIRECTION POSITION NOSE FORWARD TILTING;eUP OR DOWN;hTILTING;aEYEBROWS STRAIGHT UP;
    cNEUTRAL;cDOWN;aDREAMY EYEBROWS NEUTRAL DOWN;cDOWN NEUTRAL;cUP NEUTRAL;cNEUTRAL UP;
    aFOREHEAD NEUTRAL;bCONTACT;bWRINKLED;aEYES OPEN;bSQUEEZED;bCLOSED;aEYE BLINK SINGLE;
    cMULTIPLE;aEYES HALF OPEN;bWIDE OPEN;bHALF CLOSED;bWIDENING MOVEMENT;aEYE WINK;aEYELASHES UP;
    bDOWN;bFLUTTERING;aEYEGAZE-WALLPLANE STRAIGHT;cDOUBLE;cALTERNATING;
    aEYEGAZE-FLOORPLANE STRAIGHT;cDOUBLE;cALTERNATING;aEYEGAZE-WALLPLANE CURVED;
    aEYEGAZE-FLOORPLANE CURVED;aEYEGAZE-WALLPLANE CIRCLING;aCHEEKS PUFFED;bNEUTRAL;bSUCKED;
    aTENSE CHEEKS HIGH;cMIDDLE;cLOW;aEARS;aNOSE NEUTRAL;bCONTACT;bWRINKLES;bWIGGLES;
    aAIR BLOWING OUT;bSUCKING IN;bBLOW SMALL ROTATIONS;bSUCK SMALL ROTATIONS;aBREATH INHALE;
    bEXHALE;aMOUTH CLOSED NEUTRAL;cFORWARD;cCONTACT;bSMILE;cWRINKLED;cOPEN;bFROWN;cWRINKLED;
    cOPEN;bOPEN CIRCLE;cFORWARD;cWRINKLED;cOVAL;dWRINKLED;dYAWN;cRECTANGLE;dWRINKLED;dYAWN;bKISS;
    cFORWARD;cWRINKLED;bTENSE;cFORWARD;cSUCKED;aLIPS PRESSED TOGETHER;aLIP LOWER OVER UPPER;
    bUPPER OVER LOWER;aMOUTH CORNERS;bWRINKLES SINGLE;cDOUBLE;aTONGUE STICKING OUT FAR;
    bLICKING LIPS;bTIP BETWEEN LIPS;cTOUCHING INSIDE MOUTH;bINSIDE MOUTH RELAXED;
    bMOVES AGAINST CHEEK;bCENTRE STICKING OUT;cINSIDE MOUTH;aTEETH;bMOVEMENT;bON TONGUE;
    dMOVEMENT;cLIPS;dMOVEMENT;bBITE LIPS;aMOVEMENT-WALLPLANE JAW;aMOVEMENT-FLOORPLANE JAW;aNECK;
    aHAIR;aEXCITEMENT;aSHOULDER HIP SPINE;cPOSITIONS;aWALLPLANE SHOULDER HIP MOVE;
    aFLOORPLANE SHOULDER HIP MOVE;aSHOULDER TILTING FROM WAIST;aTORSO-WALLPLANE STRAIGHT STRETCH;
    bCURVED BEND;aTORSO-FLOORPLANE TWISTING;aUPPER BODY TILTING FROM HIP JOINTS;
    aLIMB COMBINATION;bLENGTH-1;bLENGTH-2;bLENGTH-3;bLENGTH-4;bLENGTH-5;bLENGTH-6;bLENGTH-7;
    aFINGER;aLOCATION-WALLPLANE SPACE;aLOCATION-FLOORPLANE SPACE;aLOCATION HEIGHT;bWIDTH;bDEPTH;
    bHEAD NECK;bTORSO;bLIMBS DIGITS;aCOMMA;aFULL STOP;aSEMICOLON;aCOLON;aPARENTHESIS"⟩,
  ⟨0x1da9b, "SIGNWRITING FILL MODIFIER-2;bMODIFIER-3;bMODIFIER-4;bMODIFIER-5;bMODIFIER-6"⟩,
  ⟨0x1daa1,
   "SIGNWRITING ROTATION MODIFIER-2;bMODIFIER-3;bMODIFIER-4;bMODIFIER-5;bMODIFIER-6;bMODIFIER-7;
    bMODIFIER-8;bMODIFIER-9;bMODIFIER-10;bMODIFIER-11;bMODIFIER-12;bMODIFIER-13;bMODIFIER-14;
    bMODIFIER-15;bMODIFIER-16"⟩,
  ⟨0x1df00,
   "LATIN SMALL LETTER FENG DIGRAPH WITH TRILL;cREVERSED SCRIPT G;aLETTER SMALL CAPITAL TURNED G;
    aSMALL LETTER REVERSED K;aLETTER SMALL CAPITAL L WITH BELT;
    aSMALL LETTER LEZH WITH RETROFLEX HOOK;cTURNED Y WITH BELT;cREVERSED ENG;
    cTURNED R WITH LONG LEG AND RETROFLEX HOOK;cT WITH HOOK AND RETROFLEX HOOK;
    aLETTER RETROFLEX CLICK WITH RETROFLEX HOOK;aSMALL LETTER ESH WITH DOUBLE BAR;gAND CURL;
    cTURNED T WITH CURL;aLETTER INVERTED GLOTTAL STOP WITH CURL;bSTRETCHED C WITH CURL;
    bSMALL CAPITAL TURNED K;aSMALL LETTER L WITH FISHHOOK;cDEZH DIGRAPH WITH PALATAL HOOK;
    cL WITH BELT AND PALATAL HOOK;cENG WITH PALATAL HOOK;cTURNED R WITH PALATAL HOOK;
    cR WITH FISHHOOK AND PALATAL HOOK;cTESH DIGRAPH WITH PALATAL HOOK;cEZH WITH PALATAL HOOK;
    cDEZH DIGRAPH WITH RETROFLEX HOOK;cI WITH STROKE AND RETROFLEX HOOK;cO WITH RETROFLEX HOOK;
    cTESH DIGRAPH WITH RETROFLEX HOOK;cC WITH RETROFLEX HOOK;cS WITH CURL"⟩]

end StreamLabel.Unicode
