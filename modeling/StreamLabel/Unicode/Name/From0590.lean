import StreamLabel.Unicode.Name.Block

/-!
# Names from U+0590 on

The scripts of the Near East, of India and its neighbours.
-/

namespace StreamLabel.Unicode

def namesFrom0590 : List NameBlock := [
  ⟨0x591,
   "HEBREW ACCENT ETNAHTA;bSEGOL;bSHALSHELET;bZAQEF QATAN;cGADOL;bTIPEHA;bREVIA;bZARQA;bPASHTA;
    bYETIV;bTEVIR;bGERESH;cMUQDAM;bGERSHAYIM;bQARNEY PARA;bTELISHA GEDOLA;bPAZER;bATNAH HAFUKH;
    bMUNAH;bMAHAPAKH;bMERKHA;cKEFULA;bDARGA;bQADMA;bTELISHA QETANA;bYERAH BEN YOMO;bOLE;bILUY;
    bDEHI;bZINOR;aMARK MASORA CIRCLE;aPOINT SHEVA;bHATAF SEGOL;cPATAH;cQAMATS;bHIRIQ;bTSERE;
    bSEGOL;bPATAH;bQAMATS;bHOLAM;cHASER FOR VAV;bQUBUTS;bDAGESH OR MAPIQ;bMETEG;
    aPUNCTUATION MAQAF;aPOINT RAFE;aPUNCTUATION PASEQ;aPOINT SHIN DOT;bSIN DOT;
    aPUNCTUATION SOF PASUQ;aMARK UPPER DOT;bLOWER DOT;aPUNCTUATION NUN HAFUKHA;
    aPOINT QAMATS QATAN"⟩,
  ⟨0x5d0,
   "HEBREW LETTER ALEF;bBET;bGIMEL;bDALET;bHE;bVAV;bZAYIN;bHET;bTET;bYOD;bFINAL KAF;bKAF;bLAMED;
    bFINAL MEM;bMEM;bFINAL NUN;bNUN;bSAMEKH;bAYIN;bFINAL PE;bPE;bFINAL TSADI;bTSADI;bQOF;bRESH;
    bSHIN;bTAV"⟩,
  ⟨0x5ef,
   "HEBREW YOD TRIANGLE;aLIGATURE YIDDISH DOUBLE VAV;cVAV YOD;cDOUBLE YOD;aPUNCTUATION GERESH;
    bGERSHAYIM"⟩,
  ⟨0x600,
   "ARABIC NUMBER SIGN;aSIGN SANAH;aFOOTNOTE MARKER;aSIGN SAFHA;bSAMVAT;aNUMBER MARK ABOVE;
    ARABIC-INDIC CUBE ROOT;aFOURTH ROOT;ARABIC RAY;ARABIC-INDIC PER MILLE SIGN;
    bTEN THOUSAND SIGN;AFGHANI SIGN;ARABIC COMMA;aDATE SEPARATOR;aPOETIC VERSE SIGN;aSIGN MISRA;
    bSALLALLAHOU ALAYHE WASSALLAM;bALAYHE ASSALLAM;bRAHMATULLAH ALAYHE;bRADI ALLAHOU ANHU;
    bTAKHALLUS;aSMALL HIGH TAH;cLIGATURE ALEF WITH LAM WITH YEH;cZAIN;bFATHA;bDAMMA;bKASRA;
    aSEMICOLON;aLETTER MARK;aEND OF TEXT MARK;aTRIPLE DOT PUNCTUATION MARK;aQUESTION MARK;
    aLETTER KASHMIRI YEH;bHAMZA;bALEF WITH MADDA ABOVE;dHAMZA ABOVE;bWAW WITH HAMZA ABOVE;
    bALEF WITH HAMZA BELOW;bYEH WITH HAMZA ABOVE;bALEF;bBEH;bTEH MARBUTA;c;bTHEH;bJEEM;bHAH;
    bKHAH;bDAL;bTHAL;bREH;bZAIN;bSEEN;bSHEEN;bSAD;bDAD;bTAH;bZAH;bAIN;bGHAIN;
    bKEHEH WITH TWO DOTS ABOVE;dTHREE DOTS BELOW;bFARSI YEH WITH INVERTED V;eTWO DOTS ABOVE;
    eTHREE DOTS ABOVE;aTATWEEL;aLETTER FEH;bQAF;bKAF;bLAM;bMEEM;bNOON;bHEH;bWAW;bALEF MAKSURA;
    bYEH;aFATHATAN;aDAMMATAN;aKASRATAN;aFATHA;aDAMMA;aKASRA;aSHADDA;aSUKUN;aMADDAH ABOVE;
    aHAMZA ABOVE;bBELOW;aSUBSCRIPT ALEF;aINVERTED DAMMA;aMARK NOON GHUNNA;aZWARAKAY;
    aVOWEL SIGN SMALL V ABOVE;cINVERTED SMALL V ABOVE;cDOT BELOW;aREVERSED DAMMA;
    aFATHA WITH TWO DOTS;aWAVY HAMZA BELOW;ARABIC-INDIC DIGIT ZERO;bONE;bTWO;bTHREE;bFOUR;bFIVE;
    bSIX;bSEVEN;bEIGHT;bNINE;ARABIC PERCENT SIGN;aDECIMAL SEPARATOR;aTHOUSANDS SEPARATOR;
    aFIVE POINTED STAR;aLETTER DOTLESS BEH;cQAF;bSUPERSCRIPT ALEF;bALEF WASLA;
    cWITH WAVY HAMZA ABOVE;fBELOW;bHIGH HAMZA;dALEF;dWAW;bU WITH HAMZA ABOVE;bHIGH HAMZA YEH;
    bTTEH;bTTEHEH;bBEEH;bTEH WITH RING;dTHREE DOTS ABOVE DOWNWARDS;bPEH;bTEHEH;bBEHEH;
    bHAH WITH HAMZA ABOVE;dTWO DOTS VERTICAL ABOVE;bNYEH;bDYEH;bHAH WITH THREE DOTS ABOVE;bTCHEH;
    bTCHEHEH;bDDAL;bDAL WITH RING;dDOT BELOW;fAND SMALL TAH;bDAHAL;bDDAHAL;bDUL;
    bDAL WITH THREE DOTS ABOVE DOWNWARDS;dFOUR DOTS ABOVE;bRREH;bREH WITH SMALL V;dRING;
    dDOT BELOW;dSMALL V BELOW;dDOT BELOW AND DOT ABOVE;dTWO DOTS ABOVE;bJEH;
    bREH WITH FOUR DOTS ABOVE;bSEEN WITH DOT BELOW AND DOT ABOVE;dTHREE DOTS BELOW;
    gAND THREE DOTS ABOVE;bSAD WITH TWO DOTS BELOW;dTHREE DOTS ABOVE;bTAH WITH THREE DOTS ABOVE;
    bAIN WITH THREE DOTS ABOVE;bDOTLESS FEH;bFEH WITH DOT MOVED BELOW;eBELOW;bVEH;
    bFEH WITH THREE DOTS BELOW;bPEHEH;bQAF WITH DOT ABOVE;dTHREE DOTS ABOVE;bKEHEH;bSWASH KAF;
    bKAF WITH RING;dDOT ABOVE;bNG;bKAF WITH THREE DOTS BELOW;bGAF;cWITH RING;bNGOEH;
    bGAF WITH TWO DOTS BELOW;bGUEH;bGAF WITH THREE DOTS ABOVE;bLAM WITH SMALL V;dDOT ABOVE;
    dTHREE DOTS ABOVE;fBELOW;bNOON WITH DOT BELOW;cGHUNNA;bRNOON;bNOON WITH RING;
    dTHREE DOTS ABOVE;bHEH DOACHASHMEE;bTCHEH WITH DOT ABOVE;bHEH WITH YEH ABOVE;cGOAL;
    dWITH HAMZA ABOVE;bTEH MARBUTA GOAL;bWAW WITH RING;bKIRGHIZ OE;bOE;bU;bYU;bKIRGHIZ YU;
    bWAW WITH TWO DOTS ABOVE;bVE;bFARSI YEH;bYEH WITH TAIL;dSMALL V;bWAW WITH DOT ABOVE;bE;
    bYEH WITH THREE DOTS BELOW;cBARREE;dWITH HAMZA ABOVE;aFULL STOP;aLETTER AE;
    aSMALL HIGH LIGATURE SAD WITH LAM WITH ALEF MAKSURA;dQAF WITH LAM WITH ALEF MAKSURA;
    cMEEM INITIAL FORM;cLAM ALEF;cJEEM;cTHREE DOTS;cSEEN;aEND OF AYAH;aSTART OF RUB EL HIZB;
    aSMALL HIGH ROUNDED ZERO;cUPRIGHT RECTANGULAR ZERO;cDOTLESS HEAD OF KHAH;cMEEM ISOLATED FORM;
    bLOW SEEN;bHIGH MADDA;bWAW;bYEH;bHIGH YEH;cNOON;aPLACE OF SAJDAH;aEMPTY CENTRE LOW STOP;
    cHIGH STOP;aROUNDED HIGH STOP WITH FILLED CENTRE;aSMALL LOW MEEM;aLETTER DAL WITH INVERTED V;
    bREH WITH INVERTED V;EXTENDED ARABIC-INDIC DIGIT ZERO;cONE;cTWO;cTHREE;cFOUR;cFIVE;cSIX;
    cSEVEN;cEIGHT;cNINE;ARABIC LETTER SHEEN WITH DOT BELOW;bDAD WITH DOT BELOW;
    bGHAIN WITH DOT BELOW;aSIGN SINDHI AMPERSAND;cPOSTPOSITION MEN;aLETTER HEH WITH INVERTED V"⟩,
  ⟨0x700,
   "SYRIAC END OF PARAGRAPH;aSUPRALINEAR FULL STOP;aSUBLINEAR FULL STOP;aSUPRALINEAR COLON;
    aSUBLINEAR COLON;aHORIZONTAL COLON;aCOLON SKEWED LEFT;cRIGHT;aSUPRALINEAR COLON SKEWED LEFT;
    aSUBLINEAR COLON SKEWED RIGHT;aCONTRACTION;aHARKLEAN OBELUS;bMETOBELUS;bASTERISCUS"⟩,
  ⟨0x70f,
   "SYRIAC ABBREVIATION MARK;aLETTER ALAPH;bSUPERSCRIPT ALAPH;bBETH;bGAMAL;cGARSHUNI;bDALATH;
    bDOTLESS DALATH RISH;bHE;bWAW;bZAIN;bHETH;bTETH;cGARSHUNI;bYUDH;cHE;bKAPH;bLAMADH;bMIM;bNUN;
    bSEMKATH;bFINAL SEMKATH;bE;bPE;bREVERSED PE;bSADHE;bQAPH;bRISH;bSHIN;bTAW;bPERSIAN BHETH;
    cGHAMAL;cDHALATH;aPTHAHA ABOVE;bBELOW;bDOTTED;aZQAPHA ABOVE;bBELOW;bDOTTED;aRBASA ABOVE;
    bBELOW;aDOTTED ZLAMA HORIZONTAL;cANGULAR;aHBASA ABOVE;bBELOW;aHBASA-ESASA DOTTED;
    aESASA ABOVE;bBELOW;aRWAHA;aFEMININE DOT;aQUSHSHAYA;aRUKKAKHA;aTWO VERTICAL DOTS ABOVE;
    dBELOW;aTHREE DOTS ABOVE;cBELOW;aOBLIQUE LINE ABOVE;cBELOW;aMUSIC;aBARREKH"⟩,
  ⟨0x74d,
   "SYRIAC LETTER SOGDIAN ZHAIN;cKHAPH;cFE;ARABIC LETTER BEH WITH THREE DOTS HORIZONTALLY BELOW;
    dDOT BELOW AND THREE DOTS ABOVE;dTHREE DOTS POINTING UPWARDS BELOW;iAND TWO DOTS ABOVE;
    dTWO DOTS BELOW AND DOT ABOVE;dINVERTED SMALL V BELOW;dSMALL V;bHAH WITH TWO DOTS ABOVE;
    dTHREE DOTS POINTING UPWARDS BELOW;bDAL WITH TWO DOTS VERTICALLY BELOW AND SMALL TAH;
    dINVERTED SMALL V BELOW;bREH WITH STROKE;bSEEN WITH FOUR DOTS ABOVE;bAIN WITH TWO DOTS ABOVE;
    dTHREE DOTS POINTING DOWNWARDS ABOVE;dTWO DOTS VERTICALLY ABOVE;bFEH WITH TWO DOTS BELOW;
    dTHREE DOTS POINTING UPWARDS BELOW;bKEHEH WITH DOT ABOVE;dTHREE DOTS ABOVE;
    fPOINTING UPWARDS BELOW;bMEEM WITH DOT ABOVE;eBELOW;bNOON WITH TWO DOTS BELOW;dSMALL TAH;eV;
    bLAM WITH BAR;bREH WITH TWO DOTS VERTICALLY ABOVE;dHAMZA ABOVE;
    bSEEN WITH TWO DOTS VERTICALLY ABOVE;bHAH WITH SMALL ARABIC LETTER TAH BELOW;hAND TWO DOTS;
    bSEEN WITH SMALL ARABIC LETTER TAH AND TWO DOTS;
    bREH WITH SMALL ARABIC LETTER TAH AND TWO DOTS;bHAH WITH SMALL ARABIC LETTER TAH ABOVE;
    bALEF WITH EXTENDED ARABIC-INDIC DIGIT TWO ABOVE;gTHREE ABOVE;
    bFARSI YEH WITH EXTENDED ARABIC-INDIC DIGIT TWO ABOVE;hTHREE ABOVE;hFOUR BELOW;
    bWAW WITH EXTENDED ARABIC-INDIC DIGIT TWO ABOVE;gTHREE ABOVE;
    bYEH BARREE WITH EXTENDED ARABIC-INDIC DIGIT TWO ABOVE;hTHREE ABOVE;
    bHAH WITH EXTENDED ARABIC-INDIC DIGIT FOUR BELOW;
    bSEEN WITH EXTENDED ARABIC-INDIC DIGIT FOUR ABOVE;dINVERTED V;bKAF WITH TWO DOTS ABOVE;
    THAANA LETTER HAA;bSHAVIYANI;bNOONU;bRAA;bBAA;bLHAVIYANI;bKAAFU;bALIFU;bVAAVU;bMEEMU;bFAAFU;
    bDHAALU;bTHAA;bLAAMU;bGAAFU;bGNAVIYANI;bSEENU;bDAVIYANI;bZAVIYANI;bTAVIYANI;bYAA;bPAVIYANI;
    bJAVIYANI;bCHAVIYANI;bTTAA;bHHAA;bKHAA;bTHAALU;bZAA;bSHEENU;bSAADHU;bDAADHU;bTO;bZO;bAINU;
    bGHAINU;bQAAFU;bWAAVU;aABAFILI;aAABAAFILI;aIBIFILI;aEEBEEFILI;aUBUFILI;aOOBOOFILI;aEBEFILI;
    aEYBEYFILI;aOBOFILI;aOABOAFILI;aSUKUN;aLETTER NAA"⟩,
  ⟨0x7c0,
   "NKO DIGIT ZERO;bONE;bTWO;bTHREE;bFOUR;bFIVE;bSIX;bSEVEN;bEIGHT;bNINE;aLETTER A;bEE;bI;bE;bU;
    bOO;bO;bDAGBASINNA;bN;bBA;bPA;bTA;bJA;bCHA;bDA;bRA;bRRA;bSA;bGBA;bFA;bKA;bLA;bNA WOLOSO;bMA;
    bNYA;bNA;bHA;bWA;bYA;bNYA WOLOSO;bJONA JA;cCHA;cRA;aCOMBINING SHORT HIGH TONE;cLOW TONE;
    cRISING TONE;bLONG DESCENDING TONE;cHIGH TONE;cLOW TONE;cRISING TONE;bNASALIZATION MARK;
    bDOUBLE DOT ABOVE;aHIGH TONE APOSTROPHE;aLOW TONE APOSTROPHE;aSYMBOL OO DENNEN;bGBAKURUNEN;
    aCOMMA;aEXCLAMATION MARK;aLAJANYALAN"⟩,
  ⟨0x7fd, "NKO DANTAYALAN;aDOROME SIGN;aTAMAN SIGN"⟩,
  ⟨0x800,
   "SAMARITAN LETTER ALAF;bBIT;bGAMAN;bDALAT;bIY;bBAA;bZEN;bIT;bTIT;bYUT;bKAAF;bLABAT;bMIM;bNUN;
    bSINGAAT;bIN;bFI;bTSAADIY;bQUF;bRISH;bSHAN;bTAAF;aMARK IN;bIN-ALAF;bOCCLUSION;bDAGESH;
    aMODIFIER LETTER EPENTHETIC YUT;aMARK EPENTHETIC YUT;aVOWEL SIGN LONG E;cE;cOVERLONG AA;
    cLONG AA;cAA;cOVERLONG A;cLONG A;cA;aMODIFIER LETTER SHORT A;aVOWEL SIGN SHORT A;cLONG U;cU;
    aMODIFIER LETTER I;aVOWEL SIGN LONG I;cI;cO;cSUKUN;aMARK NEQUDAA"⟩,
  ⟨0x830,
   "SAMARITAN PUNCTUATION NEQUDAA;bAFSAAQ;bANGED;bBAU;bATMAAU;bSHIYYAALAA;aABBREVIATION MARK;
    aPUNCTUATION MELODIC QITSA;bZIQAA;bQITSA;bZAEF;bTURU;bARKAANU;bSOF MASHFAAT;bANNAAU"⟩,
  ⟨0x840,
   "MANDAIC LETTER HALQA;bAB;bAG;bAD;bAH;bUSHENNA;bAZ;bIT;bATT;bAKSA;bAK;bAL;bAM;bAN;bAS;bIN;bAP;
    bASZ;bAQ;bAR;bASH;bAT;bDUSHENNA;bKAD;bAIN;aAFFRICATION MARK;aVOCALIZATION MARK;
    aGEMINATION MARK"⟩,
  ⟨0x85e, "MANDAIC PUNCTUATION"⟩,
  ⟨0x860, "SYRIAC LETTER MALAYALAM NGA;cJA;cNYA;cTTA;cNNA;cNNNA;cBHA;cRA;cLLA;cLLLA;cSSA"⟩,
  ⟨0x870,
   "ARABIC LETTER ALEF WITH ATTACHED FATHA;eTOP RIGHT FATHA;dRIGHT MIDDLE STROKE;
    dLEFT MIDDLE STROKE;dATTACHED KASRA;eBOTTOM RIGHT KASRA;eROUND DOT ABOVE;eRIGHT ROUND DOT;
    eLEFT ROUND DOT;eROUND DOT BELOW;dDOT ABOVE;dATTACHED TOP RIGHT FATHA AND DOT ABOVE;
    dRIGHT MIDDLE STROKE AND DOT ABOVE;dATTACHED BOTTOM RIGHT KASRA AND DOT ABOVE;
    eTOP RIGHT FATHA AND LEFT RING;dRIGHT MIDDLE STROKE AND LEFT RING;
    dATTACHED BOTTOM RIGHT KASRA AND LEFT RING;eRIGHT HAMZA;eLEFT HAMZA;
    aTATWEEL WITH OVERSTRUCK HAMZA;dWAW;cTWO DOTS BELOW;aLETTER THIN YEH;aBASELINE ROUND DOT;
    aRAISED ROUND DOT;aLETTER NOON WITH INVERTED SMALL V;bHAH WITH INVERTED SMALL V BELOW;
    bTAH WITH DOT BELOW;dTHREE DOTS BELOW;bKEHEH WITH TWO DOTS VERTICALLY BELOW;aVERTICAL TAIL"⟩,
  ⟨0x890, "ARABIC POUND MARK ABOVE;aPIASTRE MARK ABOVE"⟩,
  ⟨0x898,
   "ARABIC SMALL HIGH WORD AL-JUZ;bLOW WORD ISHMAAM;dIMAALA;dTASHEEL;aMADDA WAAJIB;
    aSUPERSCRIPT ALEF MOKHASSAS;aDOUBLED MADDA;aHALF MADDA OVER MADDA;
    aLETTER BEH WITH SMALL V BELOW;dHAMZA ABOVE;bJEEM WITH TWO DOTS ABOVE;
    bTAH WITH TWO DOTS ABOVE;bFEH WITH DOT BELOW AND THREE DOTS ABOVE;bQAF WITH DOT BELOW;
    bLAM WITH DOUBLE BAR;bMEEM WITH THREE DOTS ABOVE;bYEH WITH TWO DOTS BELOW AND HAMZA ABOVE;
    hDOT ABOVE;bREH WITH LOOP;bWAW WITH DOT WITHIN;bROHINGYA YEH;bLOW ALEF;
    bDAL WITH THREE DOTS BELOW;bSAD WITH THREE DOTS BELOW;bGAF WITH INVERTED STROKE;
    bSTRAIGHT WAW;bZAIN WITH INVERTED V ABOVE;bAIN WITH THREE DOTS BELOW;bKAF WITH DOT BELOW;
    bQAF WITH DOT BELOW AND NO DOTS ABOVE;bBEH WITH SMALL MEEM ABOVE;bPEH WITH SMALL MEEM ABOVE;
    bTEH WITH SMALL TEH ABOVE;bREH WITH SMALL NOON ABOVE;
    bYEH WITH TWO DOTS BELOW AND SMALL NOON ABOVE;bAFRICAN FEH;cQAF;cNOON;bPEH WITH SMALL V;
    bTEH WITH SMALL V;bTTEH WITH SMALL V;bTCHEH WITH SMALL V;bKEHEH WITH SMALL V;
    bGHAIN WITH THREE DOTS ABOVE;bAFRICAN QAF WITH THREE DOTS ABOVE;bJEEM WITH THREE DOTS ABOVE;
    fBELOW;bLAM WITH SMALL ARABIC LETTER TAH ABOVE;bGRAF;aSMALL FARSI YEH;bHIGH FARSI YEH;
    cYEH BARREE WITH TWO DOTS BELOW;cWORD SAH;cZAH;aLARGE ROUND DOT ABOVE;dBELOW;aSUKUN BELOW;
    aLARGE CIRCLE BELOW;bROUND DOT INSIDE CIRCLE BELOW;aSMALL LOW WAW;bHIGH WORD AR-RUB;cSAD;
    cAIN;cQAF;cNOON WITH KASRA;bLOW NOON WITH KASRA;bHIGH WORD ATH-THALATHA;dAS-SAJDA;dAN-NISF;
    dSAKTA;dQIF;dWAQFA;cFOOTNOTE MARKER;cSIGN SAFHA;aDISPUTED END OF AYAH;aTURNED DAMMA BELOW;
    aCURLY FATHA;bDAMMA;bKASRA;bFATHATAN;bDAMMATAN;bKASRATAN;aTONE ONE DOT ABOVE;bTWO DOTS ABOVE;
    bLOOP ABOVE;bONE DOT BELOW;bTWO DOTS BELOW;bLOOP BELOW;aOPEN FATHATAN;bDAMMATAN;bKASRATAN;
    aSMALL HIGH WAW;aFATHA WITH RING;cDOT ABOVE;aKASRA WITH DOT BELOW;aLEFT ARROWHEAD ABOVE;
    aRIGHT ARROWHEAD ABOVE;aLEFT ARROWHEAD BELOW;aRIGHT ARROWHEAD BELOW;
    aDOUBLE RIGHT ARROWHEAD ABOVE;eWITH DOT;aRIGHT ARROWHEAD ABOVE WITH DOT;aDAMMA WITH DOT;
    aMARK SIDEWAYS NOON GHUNNA"⟩,
  ⟨0x900,
   "DEVANAGARI SIGN INVERTED CANDRABINDU;bCANDRABINDU;bANUSVARA;bVISARGA;aLETTER SHORT A;bA;bAA;
    bI;bII;bU;bUU;bVOCALIC R;cL;bCANDRA E;bSHORT E;bE;bAI;bCANDRA O;bSHORT O;bO;bAU;bKA;bKHA;bGA;
    bGHA;bNGA;bCA;bCHA;bJA;bJHA;bNYA;bTTA;bTTHA;bDDA;bDDHA;bNNA;bTA;bTHA;bDA;bDHA;bNA;bNNNA;bPA;
    bPHA;bBA;bBHA;bMA;bYA;bRA;bRRA;bLA;bLLA;bLLLA;bVA;bSHA;bSSA;bSA;bHA;aVOWEL SIGN OE;cOOE;
    aSIGN NUKTA;bAVAGRAHA;aVOWEL SIGN AA;cI;cII;cU;cUU;cVOCALIC R;dRR;cCANDRA E;cSHORT E;cE;cAI;
    cCANDRA O;cSHORT O;cO;cAU;aSIGN VIRAMA;aVOWEL SIGN PRISHTHAMATRA E;cAW;aOM;
    aSTRESS SIGN UDATTA;cANUDATTA;aGRAVE ACCENT;aACUTE ACCENT;aVOWEL SIGN CANDRA LONG E;cUE;cUUE;
    aLETTER QA;bKHHA;bGHHA;bZA;bDDDHA;bRHA;bFA;bYYA;bVOCALIC RR;cLL;aVOWEL SIGN VOCALIC L;dLL;
    aDANDA;aDOUBLE DANDA;aDIGIT ZERO;bONE;bTWO;bTHREE;bFOUR;bFIVE;bSIX;bSEVEN;bEIGHT;bNINE;
    aABBREVIATION SIGN;aSIGN HIGH SPACING DOT;aLETTER CANDRA A;bOE;bOOE;bAW;bUE;bUUE;
    bMARWARI DDA;bZHA;bHEAVY YA;bGGA;bJJA;bGLOTTAL STOP;bDDDA;bBBA;BENGALI ANJI;
    aSIGN CANDRABINDU;bANUSVARA;bVISARGA"⟩,
  ⟨0x985, "BENGALI LETTER A;bAA;bI;bII;bU;bUU;bVOCALIC R;cL"⟩,
  ⟨0x98f, "BENGALI LETTER E;bAI"⟩,
  ⟨0x993,
   "BENGALI LETTER O;bAU;bKA;bKHA;bGA;bGHA;bNGA;bCA;bCHA;bJA;bJHA;bNYA;bTTA;bTTHA;bDDA;bDDHA;
    bNNA;bTA;bTHA;bDA;bDHA;bNA"⟩,
  ⟨0x9aa, "BENGALI LETTER PA;bPHA;bBA;bBHA;bMA;bYA;bRA"⟩,
  ⟨0x9b2, "BENGALI LETTER LA"⟩,
  ⟨0x9b6, "BENGALI LETTER SHA;bSSA;bSA;bHA"⟩,
  ⟨0x9bc, "BENGALI SIGN NUKTA;bAVAGRAHA;aVOWEL SIGN AA;cI;cII;cU;cUU;cVOCALIC R;dRR"⟩,
  ⟨0x9c7, "BENGALI VOWEL SIGN E;cAI"⟩,
  ⟨0x9cb, "BENGALI VOWEL SIGN O;cAU;aSIGN VIRAMA;aLETTER KHANDA TA"⟩,
  ⟨0x9d7, "BENGALI AU LENGTH MARK"⟩,
  ⟨0x9dc, "BENGALI LETTER RRA;bRHA"⟩,
  ⟨0x9df, "BENGALI LETTER YYA;bVOCALIC RR;cLL;aVOWEL SIGN VOCALIC L;dLL"⟩,
  ⟨0x9e6,
   "BENGALI DIGIT ZERO;bONE;bTWO;bTHREE;bFOUR;bFIVE;bSIX;bSEVEN;bEIGHT;bNINE;
    aLETTER RA WITH MIDDLE DIAGONAL;dLOWER DIAGONAL;aRUPEE MARK;bSIGN;aCURRENCY NUMERATOR ONE;
    cTWO;cTHREE;cFOUR;cONE LESS THAN THE DENOMINATOR;bDENOMINATOR SIXTEEN;aISSHAR;aGANDA MARK;
    aLETTER VEDIC ANUSVARA;aABBREVIATION SIGN;aSANDHI MARK"⟩,
  ⟨0xa01, "GURMUKHI SIGN ADAK BINDI;bBINDI;bVISARGA"⟩,
  ⟨0xa05, "GURMUKHI LETTER A;bAA;bI;bII;bU;bUU"⟩,
  ⟨0xa0f, "GURMUKHI LETTER EE;bAI"⟩,
  ⟨0xa13,
   "GURMUKHI LETTER OO;bAU;bKA;bKHA;bGA;bGHA;bNGA;bCA;bCHA;bJA;bJHA;bNYA;bTTA;bTTHA;bDDA;bDDHA;
    bNNA;bTA;bTHA;bDA;bDHA;bNA"⟩,
  ⟨0xa2a, "GURMUKHI LETTER PA;bPHA;bBA;bBHA;bMA;bYA;bRA"⟩,
  ⟨0xa32, "GURMUKHI LETTER LA;bLLA"⟩,
  ⟨0xa35, "GURMUKHI LETTER VA;bSHA"⟩,
  ⟨0xa38, "GURMUKHI LETTER SA;bHA"⟩,
  ⟨0xa3c, "GURMUKHI SIGN NUKTA"⟩,
  ⟨0xa3e, "GURMUKHI VOWEL SIGN AA;cI;cII;cU;cUU"⟩,
  ⟨0xa47, "GURMUKHI VOWEL SIGN EE;cAI"⟩,
  ⟨0xa4b, "GURMUKHI VOWEL SIGN OO;cAU;aSIGN VIRAMA"⟩,
  ⟨0xa51, "GURMUKHI SIGN UDAAT"⟩,
  ⟨0xa59, "GURMUKHI LETTER KHHA;bGHHA;bZA;bRRA"⟩,
  ⟨0xa5e, "GURMUKHI LETTER FA"⟩,
  ⟨0xa66,
   "GURMUKHI DIGIT ZERO;bONE;bTWO;bTHREE;bFOUR;bFIVE;bSIX;bSEVEN;bEIGHT;bNINE;aTIPPI;aADDAK;aIRI;
    aURA;aEK ONKAR;aSIGN YAKASH;aABBREVIATION SIGN"⟩,
  ⟨0xa81, "GUJARATI SIGN CANDRABINDU;bANUSVARA;bVISARGA"⟩,
  ⟨0xa85, "GUJARATI LETTER A;bAA;bI;bII;bU;bUU;bVOCALIC R;cL;aVOWEL CANDRA E"⟩,
  ⟨0xa8f, "GUJARATI LETTER E;bAI;aVOWEL CANDRA O"⟩,
  ⟨0xa93,
   "GUJARATI LETTER O;bAU;bKA;bKHA;bGA;bGHA;bNGA;bCA;bCHA;bJA;bJHA;bNYA;bTTA;bTTHA;bDDA;bDDHA;
    bNNA;bTA;bTHA;bDA;bDHA;bNA"⟩,
  ⟨0xaaa, "GUJARATI LETTER PA;bPHA;bBA;bBHA;bMA;bYA;bRA"⟩,
  ⟨0xab2, "GUJARATI LETTER LA;bLLA"⟩,
  ⟨0xab5, "GUJARATI LETTER VA;bSHA;bSSA;bSA;bHA"⟩,
  ⟨0xabc,
   "GUJARATI SIGN NUKTA;bAVAGRAHA;aVOWEL SIGN AA;cI;cII;cU;cUU;cVOCALIC R;dRR;cCANDRA E"⟩,
  ⟨0xac7, "GUJARATI VOWEL SIGN E;cAI;cCANDRA O"⟩,
  ⟨0xacb, "GUJARATI VOWEL SIGN O;cAU;aSIGN VIRAMA"⟩,
  ⟨0xad0, "GUJARATI OM"⟩,
  ⟨0xae0, "GUJARATI LETTER VOCALIC RR;cLL;aVOWEL SIGN VOCALIC L;dLL"⟩,
  ⟨0xae6,
   "GUJARATI DIGIT ZERO;bONE;bTWO;bTHREE;bFOUR;bFIVE;bSIX;bSEVEN;bEIGHT;bNINE;aABBREVIATION SIGN;
    aRUPEE SIGN"⟩,
  ⟨0xaf9,
   "GUJARATI LETTER ZHA;aSIGN SUKUN;bSHADDA;bMADDAH;bTHREE-DOT NUKTA ABOVE;bCIRCLE NUKTA ABOVE;
    bTWO-CIRCLE NUKTA ABOVE"⟩,
  ⟨0xb01, "ORIYA SIGN CANDRABINDU;bANUSVARA;bVISARGA"⟩,
  ⟨0xb05, "ORIYA LETTER A;bAA;bI;bII;bU;bUU;bVOCALIC R;cL"⟩,
  ⟨0xb0f, "ORIYA LETTER E;bAI"⟩,
  ⟨0xb13,
   "ORIYA LETTER O;bAU;bKA;bKHA;bGA;bGHA;bNGA;bCA;bCHA;bJA;bJHA;bNYA;bTTA;bTTHA;bDDA;bDDHA;bNNA;
    bTA;bTHA;bDA;bDHA;bNA"⟩,
  ⟨0xb2a, "ORIYA LETTER PA;bPHA;bBA;bBHA;bMA;bYA;bRA"⟩,
  ⟨0xb32, "ORIYA LETTER LA;bLLA"⟩,
  ⟨0xb35, "ORIYA LETTER VA;bSHA;bSSA;bSA;bHA"⟩,
  ⟨0xb3c, "ORIYA SIGN NUKTA;bAVAGRAHA;aVOWEL SIGN AA;cI;cII;cU;cUU;cVOCALIC R;dRR"⟩,
  ⟨0xb47, "ORIYA VOWEL SIGN E;cAI"⟩,
  ⟨0xb4b, "ORIYA VOWEL SIGN O;cAU;aSIGN VIRAMA"⟩,
  ⟨0xb55, "ORIYA SIGN OVERLINE;aAI LENGTH MARK;aAU LENGTH MARK"⟩,
  ⟨0xb5c, "ORIYA LETTER RRA;bRHA"⟩,
  ⟨0xb5f, "ORIYA LETTER YYA;bVOCALIC RR;cLL;aVOWEL SIGN VOCALIC L;dLL"⟩,
  ⟨0xb66,
   "ORIYA DIGIT ZERO;bONE;bTWO;bTHREE;bFOUR;bFIVE;bSIX;bSEVEN;bEIGHT;bNINE;aISSHAR;aLETTER WA;
    aFRACTION ONE QUARTER;cHALF;bTHREE QUARTERS;bONE SIXTEENTH;cEIGHTH;bTHREE SIXTEENTHS"⟩,
  ⟨0xb82, "TAMIL SIGN ANUSVARA;bVISARGA"⟩,
  ⟨0xb85, "TAMIL LETTER A;bAA;bI;bII;bU;bUU"⟩,
  ⟨0xb8e, "TAMIL LETTER E;bEE;bAI"⟩,
  ⟨0xb92, "TAMIL LETTER O;bOO;bAU;bKA"⟩,
  ⟨0xb99, "TAMIL LETTER NGA;bCA"⟩,
  ⟨0xb9c, "TAMIL LETTER JA"⟩,
  ⟨0xb9e, "TAMIL LETTER NYA;bTTA"⟩,
  ⟨0xba3, "TAMIL LETTER NNA;bTA"⟩,
  ⟨0xba8, "TAMIL LETTER NA;bNNNA;bPA"⟩,
  ⟨0xbae, "TAMIL LETTER MA;bYA;bRA;bRRA;bLA;bLLA;bLLLA;bVA;bSHA;bSSA;bSA;bHA"⟩,
  ⟨0xbbe, "TAMIL VOWEL SIGN AA;cI;cII;cU;cUU"⟩,
  ⟨0xbc6, "TAMIL VOWEL SIGN E;cEE;cAI"⟩,
  ⟨0xbca, "TAMIL VOWEL SIGN O;cOO;cAU;aSIGN VIRAMA"⟩,
  ⟨0xbd0, "TAMIL OM"⟩,
  ⟨0xbd7, "TAMIL AU LENGTH MARK"⟩,
  ⟨0xbe6,
   "TAMIL DIGIT ZERO;bONE;bTWO;bTHREE;bFOUR;bFIVE;bSIX;bSEVEN;bEIGHT;bNINE;aNUMBER TEN;
    bONE HUNDRED;cTHOUSAND;aDAY SIGN;aMONTH SIGN;aYEAR SIGN;aDEBIT SIGN;aCREDIT SIGN;
    aAS ABOVE SIGN;aRUPEE SIGN;aNUMBER SIGN"⟩,
  ⟨0xc00,
   "TELUGU SIGN COMBINING CANDRABINDU ABOVE;bCANDRABINDU;bANUSVARA;bVISARGA;
    bCOMBINING ANUSVARA ABOVE;aLETTER A;bAA;bI;bII;bU;bUU;bVOCALIC R;cL"⟩,
  ⟨0xc0e, "TELUGU LETTER E;bEE;bAI"⟩,
  ⟨0xc12,
   "TELUGU LETTER O;bOO;bAU;bKA;bKHA;bGA;bGHA;bNGA;bCA;bCHA;bJA;bJHA;bNYA;bTTA;bTTHA;bDDA;bDDHA;
    bNNA;bTA;bTHA;bDA;bDHA;bNA"⟩,
  ⟨0xc2a,
   "TELUGU LETTER PA;bPHA;bBA;bBHA;bMA;bYA;bRA;bRRA;bLA;bLLA;bLLLA;bVA;bSHA;bSSA;bSA;bHA"⟩,
  ⟨0xc3c, "TELUGU SIGN NUKTA;bAVAGRAHA;aVOWEL SIGN AA;cI;cII;cU;cUU;cVOCALIC R;dRR"⟩,
  ⟨0xc46, "TELUGU VOWEL SIGN E;cEE;cAI"⟩,
  ⟨0xc4a, "TELUGU VOWEL SIGN O;cOO;cAU;aSIGN VIRAMA"⟩,
  ⟨0xc55, "TELUGU LENGTH MARK;aAI LENGTH MARK"⟩,
  ⟨0xc58, "TELUGU LETTER TSA;bDZA;bRRRA"⟩,
  ⟨0xc5d, "TELUGU LETTER NAKAARA POLLU"⟩,
  ⟨0xc60, "TELUGU LETTER VOCALIC RR;cLL;aVOWEL SIGN VOCALIC L;dLL"⟩,
  ⟨0xc66, "TELUGU DIGIT ZERO;bONE;bTWO;bTHREE;bFOUR;bFIVE;bSIX;bSEVEN;bEIGHT;bNINE"⟩,
  ⟨0xc77,
   "TELUGU SIGN SIDDHAM;aFRACTION DIGIT ZERO FOR ODD POWERS OF FOUR;cONE FOR ODD POWERS OF FOUR;
    cTWO FOR ODD POWERS OF FOUR;cTHREE FOR ODD POWERS OF FOUR;cONE FOR EVEN POWERS OF FOUR;
    cTWO FOR EVEN POWERS OF FOUR;cTHREE FOR EVEN POWERS OF FOUR;aSIGN TUUMU;
    KANNADA SIGN SPACING CANDRABINDU;bCANDRABINDU;bANUSVARA;bVISARGA;bSIDDHAM;aLETTER A;bAA;bI;
    bII;bU;bUU;bVOCALIC R;cL"⟩,
  ⟨0xc8e, "KANNADA LETTER E;bEE;bAI"⟩,
  ⟨0xc92,
   "KANNADA LETTER O;bOO;bAU;bKA;bKHA;bGA;bGHA;bNGA;bCA;bCHA;bJA;bJHA;bNYA;bTTA;bTTHA;bDDA;bDDHA;
    bNNA;bTA;bTHA;bDA;bDHA;bNA"⟩,
  ⟨0xcaa, "KANNADA LETTER PA;bPHA;bBA;bBHA;bMA;bYA;bRA;bRRA;bLA;bLLA"⟩,
  ⟨0xcb5, "KANNADA LETTER VA;bSHA;bSSA;bSA;bHA"⟩,
  ⟨0xcbc, "KANNADA SIGN NUKTA;bAVAGRAHA;aVOWEL SIGN AA;cI;cII;cU;cUU;cVOCALIC R;dRR"⟩,
  ⟨0xcc6, "KANNADA VOWEL SIGN E;cEE;cAI"⟩,
  ⟨0xcca, "KANNADA VOWEL SIGN O;cOO;cAU;aSIGN VIRAMA"⟩,
  ⟨0xcd5, "KANNADA LENGTH MARK;aAI LENGTH MARK"⟩,
  ⟨0xcdd, "KANNADA LETTER NAKAARA POLLU;bFA"⟩,
  ⟨0xce0, "KANNADA LETTER VOCALIC RR;cLL;aVOWEL SIGN VOCALIC L;dLL"⟩,
  ⟨0xce6, "KANNADA DIGIT ZERO;bONE;bTWO;bTHREE;bFOUR;bFIVE;bSIX;bSEVEN;bEIGHT;bNINE"⟩,
  ⟨0xcf1, "KANNADA SIGN JIHVAMULIYA;bUPADHMANIYA"⟩,
  ⟨0xd00,
   "MALAYALAM SIGN COMBINING ANUSVARA ABOVE;bCANDRABINDU;bANUSVARA;bVISARGA;
    aLETTER VEDIC ANUSVARA;bA;bAA;bI;bII;bU;bUU;bVOCALIC R;cL"⟩,
  ⟨0xd0e, "MALAYALAM LETTER E;bEE;bAI"⟩,
  ⟨0xd12,
   "MALAYALAM LETTER O;bOO;bAU;bKA;bKHA;bGA;bGHA;bNGA;bCA;bCHA;bJA;bJHA;bNYA;bTTA;bTTHA;bDDA;
    bDDHA;bNNA;bTA;bTHA;bDA;bDHA;bNA;bNNNA;bPA;bPHA;bBA;bBHA;bMA;bYA;bRA;bRRA;bLA;bLLA;bLLLA;bVA;
    bSHA;bSSA;bSA;bHA;bTTTA;aSIGN VERTICAL BAR VIRAMA;bCIRCULAR VIRAMA;bAVAGRAHA;aVOWEL SIGN AA;
    cI;cII;cU;cUU;cVOCALIC R;dRR"⟩,
  ⟨0xd46, "MALAYALAM VOWEL SIGN E;cEE;cAI"⟩,
  ⟨0xd4a, "MALAYALAM VOWEL SIGN O;cOO;cAU;aSIGN VIRAMA;aLETTER DOT REPH;aSIGN PARA"⟩,
  ⟨0xd54,
   "MALAYALAM LETTER CHILLU M;cY;cLLL;aAU LENGTH MARK;aFRACTION ONE ONE-HUNDRED-AND-SIXTIETH;
    cFORTIETH;bTHREE EIGHTIETHS;bONE TWENTIETH;cTENTH;bTHREE TWENTIETHS;bONE FIFTH;
    aLETTER ARCHAIC II;bVOCALIC RR;cLL;aVOWEL SIGN VOCALIC L;dLL"⟩,
  ⟨0xd66,
   "MALAYALAM DIGIT ZERO;bONE;bTWO;bTHREE;bFOUR;bFIVE;bSIX;bSEVEN;bEIGHT;bNINE;aNUMBER TEN;
    bONE HUNDRED;cTHOUSAND;aFRACTION ONE QUARTER;cHALF;bTHREE QUARTERS;bONE SIXTEENTH;cEIGHTH;
    bTHREE SIXTEENTHS;aDATE MARK;aLETTER CHILLU NN;cN;cRR;cL;cLL;cK"⟩,
  ⟨0xd81, "SINHALA SIGN CANDRABINDU;bANUSVARAYA;bVISARGAYA"⟩,
  ⟨0xd85,
   "SINHALA LETTER AYANNA;bAAYANNA;bAEYANNA;bAEEYANNA;bIYANNA;bIIYANNA;bUYANNA;bUUYANNA;
    bIRUYANNA;bIRUUYANNA;bILUYANNA;bILUUYANNA;bEYANNA;bEEYANNA;bAIYANNA;bOYANNA;bOOYANNA;bAUYANNA"⟩,
  ⟨0xd9a,
   "SINHALA LETTER ALPAPRAANA KAYANNA;bMAHAAPRAANA KAYANNA;bALPAPRAANA GAYANNA;
    bMAHAAPRAANA GAYANNA;bKANTAJA NAASIKYAYA;bSANYAKA GAYANNA;bALPAPRAANA CAYANNA;
    bMAHAAPRAANA CAYANNA;bALPAPRAANA JAYANNA;bMAHAAPRAANA JAYANNA;bTAALUJA NAASIKYAYA;
    cSANYOOGA NAAKSIKYAYA;bSANYAKA JAYANNA;bALPAPRAANA TTAYANNA;bMAHAAPRAANA TTAYANNA;
    bALPAPRAANA DDAYANNA;bMAHAAPRAANA DDAYANNA;bMUURDHAJA NAYANNA;bSANYAKA DDAYANNA;
    bALPAPRAANA TAYANNA;bMAHAAPRAANA TAYANNA;bALPAPRAANA DAYANNA;bMAHAAPRAANA DAYANNA;
    bDANTAJA NAYANNA"⟩,
  ⟨0xdb3,
   "SINHALA LETTER SANYAKA DAYANNA;bALPAPRAANA PAYANNA;bMAHAAPRAANA PAYANNA;bALPAPRAANA BAYANNA;
    bMAHAAPRAANA BAYANNA;bMAYANNA;bAMBA BAYANNA;bYAYANNA;bRAYANNA"⟩,
  ⟨0xdbd, "SINHALA LETTER DANTAJA LAYANNA"⟩,
  ⟨0xdc0,
   "SINHALA LETTER VAYANNA;bTAALUJA SAYANNA;bMUURDHAJA SAYANNA;bDANTAJA SAYANNA;bHAYANNA;
    bMUURDHAJA LAYANNA;bFAYANNA"⟩,
  ⟨0xdca, "SINHALA SIGN AL-LAKUNA"⟩,
  ⟨0xdcf,
   "SINHALA VOWEL SIGN AELA-PILLA;cKETTI AEDA-PILLA;cDIGA AEDA-PILLA;cKETTI IS-PILLA;
    cDIGA IS-PILLA;cKETTI PAA-PILLA"⟩,
  ⟨0xdd6, "SINHALA VOWEL SIGN DIGA PAA-PILLA"⟩,
  ⟨0xdd8,
   "SINHALA VOWEL SIGN GAETTA-PILLA;cKOMBUVA;cDIGA KOMBUVA;cKOMBU DEKA;cKOMBUVA HAA AELA-PILLA;
    eDIGA AELA-PILLA;eGAYANUKITTA;cGAYANUKITTA"⟩,
  ⟨0xde6, "SINHALA LITH DIGIT ZERO;cONE;cTWO;cTHREE;cFOUR;cFIVE;cSIX;cSEVEN;cEIGHT;cNINE"⟩,
  ⟨0xdf2, "SINHALA VOWEL SIGN DIGA GAETTA-PILLA;dGAYANUKITTA;aPUNCTUATION KUNDDALIYA"⟩,
  ⟨0xe01,
   "THAI CHARACTER KO KAI;bKHO KHAI;cKHUAT;cKHWAI;cKHON;cRAKHANG;bNGO NGU;bCHO CHAN;cCHING;
    cCHANG;bSO SO;bCHO CHOE;bYO YING;bDO CHADA;bTO PATAK;bTHO THAN;cNANGMONTHO;cPHUTHAO;bNO NEN;
    bDO DEK;bTO TAO;bTHO THUNG;cTHAHAN;cTHONG;bNO NU;bBO BAIMAI;bPO PLA;bPHO PHUNG;bFO FA;
    bPHO PHAN;bFO FAN;bPHO SAMPHAO;bMO MA;bYO YAK;bRO RUA;bRU;bLO LING;bLU;bWO WAEN;bSO SALA;
    cRUSI;cSUA;bHO HIP;bLO CHULA;bO ANG;bHO NOKHUK;bPAIYANNOI;bSARA A;bMAI HAN-AKAT;bSARA AA;cAM;
    cI;cII;cUE;cUEE;cU;cUU;bPHINTHU"⟩,
  ⟨0xe3f,
   "THAI CURRENCY SYMBOL BAHT;aCHARACTER SARA E;cAE;cO;cAI MAIMUAN;dMAIMALAI;bLAKKHANGYAO;
    bMAIYAMOK;bMAITAIKHU;bMAI EK;cTHO;cTRI;cCHATTAWA;bTHANTHAKHAT;bNIKHAHIT;bYAMAKKAN;bFONGMAN;
    aDIGIT ZERO;bONE;bTWO;bTHREE;bFOUR;bFIVE;bSIX;bSEVEN;bEIGHT;bNINE;aCHARACTER ANGKHANKHU;
    bKHOMUT"⟩,
  ⟨0xe81, "LAO LETTER KO;bKHO SUNG"⟩,
  ⟨0xe84, "LAO LETTER KHO TAM"⟩,
  ⟨0xe86, "LAO LETTER PALI GHA;bNGO;bCO;bPALI CHA;bSO TAM"⟩,
  ⟨0xe8c,
   "LAO LETTER PALI JHA;bNYO;bPALI NYA;cTTA;cTTHA;cDDA;cDDHA;cNNA;bDO;bTO;bTHO SUNG;cTAM;
    bPALI DHA;bNO;bBO;bPO;bPHO SUNG;bFO TAM;bPHO TAM;bFO SUNG;bPALI BHA;bMO;bYO;bLO LING"⟩,
  ⟨0xea5, "LAO LETTER LO LOOT"⟩,
  ⟨0xea7,
   "LAO LETTER WO;bSANSKRIT SHA;cSSA;bSO SUNG;bHO SUNG;bPALI LLA;bO;bHO TAM;aELLIPSIS;
    aVOWEL SIGN A;cMAI KAN;cAA;cAM;cI;cII;cY;cYY;cU;cUU;aSIGN PALI VIRAMA;aVOWEL SIGN MAI KON;
    aSEMIVOWEL SIGN LO;cNYO"⟩,
  ⟨0xec0, "LAO VOWEL SIGN E;cEI;cO;cAY;cAI"⟩,
  ⟨0xec6, "LAO KO LA"⟩,
  ⟨0xec8, "LAO TONE MAI EK;cTHO;cTI;cCATAWA;aCANCELLATION MARK;aNIGGAHITA"⟩,
  ⟨0xed0, "LAO DIGIT ZERO;bONE;bTWO;bTHREE;bFOUR;bFIVE;bSIX;bSEVEN;bEIGHT;bNINE"⟩,
  ⟨0xedc, "LAO HO NO;bMO;aLETTER KHMU GO;cNYO"⟩,
  ⟨0xf00,
   "TIBETAN SYLLABLE OM;aMARK GTER YIG MGO TRUNCATED A;e-UM RNAM BCAD MA;fGTER TSHEG MA;
    bINITIAL YIG MGO MDUN MA;bCLOSING YIG MGO SGAB MA;bCARET YIG MGO PHUR SHAD MA;
    bYIG MGO TSHEG SHAD MA;bSBRUL SHAD;bBSKUR YIG MGO;bBKA- SHOG YIG MGO;bINTERSYLLABIC TSHEG;
    bDELIMITER TSHEG BSTAR;bSHAD;bNYIS SHAD;bTSHEG SHAD;bNYIS TSHEG SHAD;bRIN CHEN SPUNGS SHAD;
    bRGYA GRAM SHAD;bCARET -DZUD RTAGS ME LONG CAN;bGTER TSHEG;aLOGOTYPE SIGN CHAD RTAGS;
    cLHAG RTAGS;aASTROLOGICAL SIGN SGRA GCAN -CHAR RTAGS;c-KHYUD PA;cSDONG TSHUGS;
    aSIGN RDEL DKAR GCIG;dGNYIS;dGSUM;cNAG GCIG;dGNYIS;cDKAR RDEL NAG;aDIGIT ZERO;bONE;bTWO;
    bTHREE;bFOUR;bFIVE;bSIX;bSEVEN;bEIGHT;bNINE;bHALF ONE;cTWO;cTHREE;cFOUR;cFIVE;cSIX;cSEVEN;
    cEIGHT;cNINE;cZERO;aMARK BSDUS RTAGS;bNGAS BZUNG NYI ZLA;bCARET -DZUD RTAGS BZHI MIG CAN;
    bNGAS BZUNG SGOR RTAGS;bCHE MGO;bTSA -PHRU;bGUG RTAGS GYON;dGYAS;bANG KHANG GYON;dGYAS;
    aSIGN YAR TSHES;bMAR TSHES;aLETTER KA;bKHA;bGA;bGHA;bNGA;bCA;bCHA;bJA"⟩,
  ⟨0xf49,
   "TIBETAN LETTER NYA;bTTA;bTTHA;bDDA;bDDHA;bNNA;bTA;bTHA;bDA;bDHA;bNA;bPA;bPHA;bBA;bBHA;bMA;
    bTSA;bTSHA;bDZA;bDZHA;bWA;bZHA;bZA;b-A;bYA;bRA;bLA;bSHA;bSSA;bSA;bHA;bA;bKSSA;bFIXED-FORM RA;
    bKKA;bRRA"⟩,
  ⟨0xf71,
   "TIBETAN VOWEL SIGN AA;cI;cII;cU;cUU;cVOCALIC R;dRR;dL;dLL;cE;cEE;cO;cOO;aSIGN RJES SU NGA RO;
    bRNAM BCAD;aVOWEL SIGN REVERSED I;dII;aSIGN NYI ZLA NAA DA;bSNA LDAN;aMARK HALANTA;bPALUTA;
    aSIGN LCI RTAGS;bYANG RTAGS;bLCE TSA CAN;bMCHU CAN;bGRU CAN RGYINGS;cMED RGYINGS;
    bINVERTED MCHU CAN;aSUBJOINED SIGN LCE TSA CAN;cMCHU CAN;cINVERTED MCHU CAN;bLETTER KA;cKHA;
    cGA;cGHA;cNGA;cCA;cCHA;cJA"⟩,
  ⟨0xf99,
   "TIBETAN SUBJOINED LETTER NYA;cTTA;cTTHA;cDDA;cDDHA;cNNA;cTA;cTHA;cDA;cDHA;cNA;cPA;cPHA;cBA;
    cBHA;cMA;cTSA;cTSHA;cDZA;cDZHA;cWA;cZHA;cZA;c-A;cYA;cRA;cLA;cSHA;cSSA;cSA;cHA;cA;cKSSA;
    cFIXED-FORM WA;dYA;dRA"⟩,
  ⟨0xfbe,
   "TIBETAN KU RU KHA;dBZHI MIG CAN;aCANTILLATION SIGN HEAVY BEAT;cLIGHT BEAT;cCANG TE-U;
    cSBUB -CHAL;aSYMBOL DRIL BU;bRDO RJE;bPADMA GDAN;bRDO RJE RGYA GRAM;bPHUR PA;bNOR BU;
    dNYIS -KHYIL;dGSUM -KHYIL;dBZHI -KHYIL"⟩,
  ⟨0xfce,
   "TIBETAN SIGN RDEL NAG RDEL DKAR;dGSUM;aMARK BSKA- SHOG GI MGO RGYAN;bMNYAM YIG GI MGO RGYAN;
    bNYIS TSHEG;bINITIAL BRDA RNYING YIG MGO MDUN MA;bCLOSING BRDA RNYING YIG MGO SGAB MA;
    RIGHT-FACING SVASTI SIGN;LEFT-FACING SVASTI SIGN;RIGHT-FACING SVASTI SIGN WITH DOTS;
    LEFT-FACING SVASTI SIGN WITH DOTS;TIBETAN MARK LEADING MCHAN RTAGS;bTRAILING MCHAN RTAGS"⟩]

end StreamLabel.Unicode
