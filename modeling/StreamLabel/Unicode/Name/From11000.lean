import StreamLabel.Unicode.Name.Block

/-!
# Names from U+11000 on

Scripts of India and its neighbours.
-/

namespace StreamLabel.Unicode

def namesFrom11000 : List NameBlock := [
  ⟨0x11000,
   "BRAHMI SIGN CANDRABINDU;bANUSVARA;bVISARGA;bJIHVAMULIYA;bUPADHMANIYA;aLETTER A;bAA;bI;bII;bU;
    bUU;bVOCALIC R;cRR;cL;cLL;bE;bAI;bO;bAU;bKA;bKHA;bGA;bGHA;bNGA;bCA;bCHA;bJA;bJHA;bNYA;bTTA;
    bTTHA;bDDA;bDDHA;bNNA;bTA;bTHA;bDA;bDHA;bNA;bPA;bPHA;bBA;bBHA;bMA;bYA;bRA;bLA;bVA;bSHA;bSSA;
    bSA;bHA;bLLA;bOLD TAMIL LLLA;dRRA;dNNNA;aVOWEL SIGN AA;cBHATTIPROLU AA;cI;cII;cU;cUU;
    cVOCALIC R;dRR;dL;dLL;cE;cAI;cO;cAU;aVIRAMA;aDANDA;aDOUBLE DANDA;aPUNCTUATION DOT;
    bDOUBLE DOT;bLINE;bCRESCENT BAR;bLOTUS"⟩,
  ⟨0x11052,
   "BRAHMI NUMBER ONE;bTWO;bTHREE;bFOUR;bFIVE;bSIX;bSEVEN;bEIGHT;bNINE;bTEN;bTWENTY;bTHIRTY;
    bFORTY;bFIFTY;bSIXTY;bSEVENTY;bEIGHTY;bNINETY;bONE HUNDRED;cTHOUSAND;aDIGIT ZERO;bONE;bTWO;
    bTHREE;bFOUR;bFIVE;bSIX;bSEVEN;bEIGHT;bNINE;aSIGN OLD TAMIL VIRAMA;aLETTER OLD TAMIL SHORT E;
    eO;aVOWEL SIGN OLD TAMIL SHORT E;fO;aLETTER OLD TAMIL LLA"⟩,
  ⟨0x1107f,
   "BRAHMI NUMBER JOINER;KAITHI SIGN CANDRABINDU;bANUSVARA;bVISARGA;aLETTER A;bAA;bI;bII;bU;bUU;
    bE;bAI;bO;bAU;bKA;bKHA;bGA;bGHA;bNGA;bCA;bCHA;bJA;bJHA;bNYA;bTTA;bTTHA;bDDA;bDDDHA;bDDHA;
    bRHA;bNNA;bTA;bTHA;bDA;bDHA;bNA;bPA;bPHA;bBA;bBHA;bMA;bYA;bRA;bLA;bVA;bSHA;bSSA;bSA;bHA;
    aVOWEL SIGN AA;cI;cII;cU;cUU;cE;cAI;cO;cAU;aSIGN VIRAMA;bNUKTA;aABBREVIATION SIGN;
    aENUMERATION SIGN;aNUMBER SIGN;aSECTION MARK;aDOUBLE SECTION MARK;aDANDA;aDOUBLE DANDA;
    aVOWEL SIGN VOCALIC R"⟩,
  ⟨0x110cd, "KAITHI NUMBER SIGN ABOVE"⟩,
  ⟨0x110d0,
   "SORA SOMPENG LETTER SAH;cTAH;cBAH;cCAH;cDAH;cGAH;cMAH;cNGAH;cLAH;cNAH;cVAH;cPAH;cYAH;cRAH;
    cHAH;cKAH;cJAH;cNYAH;cAH;cEEH;cIH;cUH;cOH;cEH;cMAE"⟩,
  ⟨0x110f0, "SORA SOMPENG DIGIT ZERO;cONE;cTWO;cTHREE;cFOUR;cFIVE;cSIX;cSEVEN;cEIGHT;cNINE"⟩,
  ⟨0x11100,
   "CHAKMA SIGN CANDRABINDU;bANUSVARA;bVISARGA;aLETTER AA;bI;bU;bE;bKAA;bKHAA;bGAA;bGHAA;bNGAA;
    bCAA;bCHAA;bJAA;bJHAA;bNYAA;bTTAA;bTTHAA;bDDAA;bDDHAA;bNNAA;bTAA;bTHAA;bDAA;bDHAA;bNAA;bPAA;
    bPHAA;bBAA;bBHAA;bMAA;bYYAA;bYAA;bRAA;bLAA;bWAA;bSAA;bHAA;aVOWEL SIGN A;cI;cII;cU;cUU;cE;cAI;
    cO;cAU;cOI;aO MARK;aAU MARK;aVIRAMA;aMAAYYAA"⟩,
  ⟨0x11136,
   "CHAKMA DIGIT ZERO;bONE;bTWO;bTHREE;bFOUR;bFIVE;bSIX;bSEVEN;bEIGHT;bNINE;aSECTION MARK;aDANDA;
    aDOUBLE DANDA;aQUESTION MARK;aLETTER LHAA;aVOWEL SIGN AA;cEI;aLETTER VAA"⟩,
  ⟨0x11150,
   "MAHAJANI LETTER A;bI;bU;bE;bO;bKA;bKHA;bGA;bGHA;bCA;bCHA;bJA;bJHA;bNYA;bTTA;bTTHA;bDDA;bDDHA;
    bNNA;bTA;bTHA;bDA;bDHA;bNA;bPA;bPHA;bBA;bBHA;bMA;bRA;bLA;bVA;bSA;bHA;bRRA;aSIGN NUKTA;
    aABBREVIATION SIGN;aSECTION MARK;aLIGATURE SHRI"⟩,
  ⟨0x11180,
   "SHARADA SIGN CANDRABINDU;bANUSVARA;bVISARGA;aLETTER A;bAA;bI;bII;bU;bUU;bVOCALIC R;cRR;cL;
    cLL;bE;bAI;bO;bAU;bKA;bKHA;bGA;bGHA;bNGA;bCA;bCHA;bJA;bJHA;bNYA;bTTA;bTTHA;bDDA;bDDHA;bNNA;
    bTA;bTHA;bDA;bDHA;bNA;bPA;bPHA;bBA;bBHA;bMA;bYA;bRA;bLA;bLLA;bVA;bSHA;bSSA;bSA;bHA;
    aVOWEL SIGN AA;cI;cII;cU;cUU;cVOCALIC R;dRR;dL;dLL;cE;cAI;cO;cAU;aSIGN VIRAMA;bAVAGRAHA;
    bJIHVAMULIYA;bUPADHMANIYA;aOM;aDANDA;aDOUBLE DANDA;aABBREVIATION SIGN;aSEPARATOR;
    aSANDHI MARK;aSIGN NUKTA;aVOWEL MODIFIER MARK;aEXTRA SHORT VOWEL MARK;aSUTRA MARK;
    aVOWEL SIGN PRISHTHAMATRA E;aSIGN INVERTED CANDRABINDU;aDIGIT ZERO;bONE;bTWO;bTHREE;bFOUR;
    bFIVE;bSIX;bSEVEN;bEIGHT;bNINE;aEKAM;aSIGN SIDDHAM;aHEADSTROKE;aCONTINUATION SIGN;
    aSECTION MARK-1;bMARK-2"⟩,
  ⟨0x111e1,
   "SINHALA ARCHAIC DIGIT ONE;cTWO;cTHREE;cFOUR;cFIVE;cSIX;cSEVEN;cEIGHT;cNINE;bNUMBER TEN;
    cTWENTY;cTHIRTY;cFORTY;cFIFTY;cSIXTY;cSEVENTY;cEIGHTY;cNINETY;cONE HUNDRED;dTHOUSAND"⟩,
  ⟨0x11200,
   "KHOJKI LETTER A;bAA;bI;bU;bE;bAI;bO;bAU;bKA;bKHA;bGA;bGGA;bGHA;bNGA;bCA;bCHA;bJA;bJJA"⟩,
  ⟨0x11213,
   "KHOJKI LETTER NYA;bTTA;bTTHA;bDDA;bDDHA;bNNA;bTA;bTHA;bDA;bDDDA;bDHA;bNA;bPA;bPHA;bBA;bBBA;
    bBHA;bMA;bYA;bRA;bLA;bVA;bSA;bHA;bLLA;aVOWEL SIGN AA;cI;cII;cU;cE;cAI;cO;cAU;aSIGN ANUSVARA;
    bVIRAMA;bNUKTA;bSHADDA;aDANDA;aDOUBLE DANDA;aWORD SEPARATOR;aSECTION MARK;
    aDOUBLE SECTION MARK;aABBREVIATION SIGN;aSIGN SUKUN"⟩,
  ⟨0x11280, "MULTANI LETTER A;bI;bU;bE;bKA;bKHA;bGA"⟩,
  ⟨0x11288, "MULTANI LETTER GHA"⟩,
  ⟨0x1128a, "MULTANI LETTER CA;bCHA;bJA;bJJA"⟩,
  ⟨0x1128f,
   "MULTANI LETTER NYA;bTTA;bTTHA;bDDA;bDDDA;bDDHA;bNNA;bTA;bTHA;bDA;bDHA;bNA;bPA;bPHA;bBA"⟩,
  ⟨0x1129f, "MULTANI LETTER BHA;bMA;bYA;bRA;bLA;bVA;bSA;bHA;bRRA;bRHA;aSECTION MARK"⟩,
  ⟨0x112b0,
   "KHUDAWADI LETTER A;bAA;bI;bII;bU;bUU;bE;bAI;bO;bAU;bKA;bKHA;bGA;bGGA;bGHA;bNGA;bCA;bCHA;bJA;
    bJJA;bJHA;bNYA;bTTA;bTTHA;bDDA;bDDDA;bRRA;bDDHA;bNNA;bTA;bTHA;bDA;bDHA;bNA;bPA;bPHA;bBA;bBBA;
    bBHA;bMA;bYA;bRA;bLA;bVA;bSHA;bSA;bHA;aSIGN ANUSVARA;aVOWEL SIGN AA;cI;cII;cU;cUU;cE;cAI;cO;
    cAU;aSIGN NUKTA;bVIRAMA"⟩,
  ⟨0x112f0, "KHUDAWADI DIGIT ZERO;bONE;bTWO;bTHREE;bFOUR;bFIVE;bSIX;bSEVEN;bEIGHT;bNINE"⟩,
  ⟨0x11300, "GRANTHA SIGN COMBINING ANUSVARA ABOVE;bCANDRABINDU;bANUSVARA;bVISARGA"⟩,
  ⟨0x11305, "GRANTHA LETTER A;bAA;bI;bII;bU;bUU;bVOCALIC R;cL"⟩,
  ⟨0x1130f, "GRANTHA LETTER EE;bAI"⟩,
  ⟨0x11313,
   "GRANTHA LETTER OO;bAU;bKA;bKHA;bGA;bGHA;bNGA;bCA;bCHA;bJA;bJHA;bNYA;bTTA;bTTHA;bDDA;bDDHA;
    bNNA;bTA;bTHA;bDA;bDHA;bNA"⟩,
  ⟨0x1132a, "GRANTHA LETTER PA;bPHA;bBA;bBHA;bMA;bYA;bRA"⟩,
  ⟨0x11332, "GRANTHA LETTER LA;bLLA"⟩,
  ⟨0x11335, "GRANTHA LETTER VA;bSHA;bSSA;bSA;bHA"⟩,
  ⟨0x1133b,
   "COMBINING BINDU BELOW;GRANTHA SIGN NUKTA;bAVAGRAHA;aVOWEL SIGN AA;cI;cII;cU;cUU;cVOCALIC R;
    dRR"⟩,
  ⟨0x11347, "GRANTHA VOWEL SIGN EE;cAI"⟩,
  ⟨0x1134b, "GRANTHA VOWEL SIGN OO;cAU;aSIGN VIRAMA"⟩,
  ⟨0x11350, "GRANTHA OM"⟩,
  ⟨0x11357, "GRANTHA AU LENGTH MARK"⟩,
  ⟨0x1135d,
   "GRANTHA SIGN PLUTA;aLETTER VEDIC ANUSVARA;cDOUBLE ANUSVARA;bVOCALIC RR;cLL;
    aVOWEL SIGN VOCALIC L;dLL"⟩,
  ⟨0x11366, "COMBINING GRANTHA DIGIT ZERO;cONE;cTWO;cTHREE;cFOUR;cFIVE;cSIX"⟩,
  ⟨0x11370, "COMBINING GRANTHA LETTER A;cKA;cNA;cVI;cPA"⟩,
  ⟨0x11400,
   "NEWA LETTER A;bAA;bI;bII;bU;bUU;bVOCALIC R;cRR;cL;cLL;bE;bAI;bO;bAU;bKA;bKHA;bGA;bGHA;bNGA;
    bNGHA;bCA;bCHA;bJA;bJHA;bNYA;bNYHA;bTTA;bTTHA;bDDA;bDDHA;bNNA;bTA;bTHA;bDA;bDHA;bNA;bNHA;bPA;
    bPHA;bBA;bBHA;bMA;bMHA;bYA;bRA;bRHA;bLA;bLHA;bWA;bSHA;bSSA;bSA;bHA;aVOWEL SIGN AA;cI;cII;cU;
    cUU;cVOCALIC R;dRR;dL;dLL;cE;cAI;cO;cAU;aSIGN VIRAMA;bCANDRABINDU;bANUSVARA;bVISARGA;bNUKTA;
    bAVAGRAHA;bFINAL ANUSVARA;aOM;aSIDDHI;aDANDA;aDOUBLE DANDA;aCOMMA;aGAP FILLER;
    aABBREVIATION SIGN;aDIGIT ZERO;bONE;bTWO;bTHREE;bFOUR;bFIVE;bSIX;bSEVEN;bEIGHT;bNINE;
    aDOUBLE COMMA;aPLACEHOLDER MARK"⟩,
  ⟨0x1145d,
   "NEWA INSERTION SIGN;aSANDHI MARK;aLETTER VEDIC ANUSVARA;aSIGN JIHVAMULIYA;bUPADHMANIYA"⟩,
  ⟨0x11480,
   "TIRHUTA ANJI;aLETTER A;bAA;bI;bII;bU;bUU;bVOCALIC R;cRR;cL;cLL;bE;bAI;bO;bAU;bKA;bKHA;bGA;
    bGHA;bNGA;bCA;bCHA;bJA;bJHA;bNYA;bTTA;bTTHA;bDDA;bDDHA;bNNA;bTA;bTHA;bDA;bDHA;bNA;bPA;bPHA;
    bBA;bBHA;bMA;bYA;bRA;bLA;bVA;bSHA;bSSA;bSA;bHA;aVOWEL SIGN AA;cI;cII;cU;cUU;cVOCALIC R;dRR;
    dL;dLL;cE;cSHORT E;cAI;cO;cSHORT O;cAU;aSIGN CANDRABINDU;bANUSVARA;bVISARGA;bVIRAMA;bNUKTA;
    bAVAGRAHA;aGVANG;aABBREVIATION SIGN;aOM"⟩,
  ⟨0x114d0, "TIRHUTA DIGIT ZERO;bONE;bTWO;bTHREE;bFOUR;bFIVE;bSIX;bSEVEN;bEIGHT;bNINE"⟩,
  ⟨0x11580,
   "SIDDHAM LETTER A;bAA;bI;bII;bU;bUU;bVOCALIC R;cRR;cL;cLL;bE;bAI;bO;bAU;bKA;bKHA;bGA;bGHA;
    bNGA;bCA;bCHA;bJA;bJHA;bNYA;bTTA;bTTHA;bDDA;bDDHA;bNNA;bTA;bTHA;bDA;bDHA;bNA;bPA;bPHA;bBA;
    bBHA;bMA;bYA;bRA;bLA;bVA;bSHA;bSSA;bSA;bHA;aVOWEL SIGN AA;cI;cII;cU;cUU;cVOCALIC R;dRR"⟩,
  ⟨0x115b8,
   "SIDDHAM VOWEL SIGN E;cAI;cO;cAU;aSIGN CANDRABINDU;bANUSVARA;bVISARGA;bVIRAMA;bNUKTA;bSIDDHAM;
    aDANDA;aDOUBLE DANDA;aSEPARATOR DOT;bBAR;aREPETITION MARK-1;bMARK-2;bMARK-3;
    aEND OF TEXT MARK;aSECTION MARK WITH TRIDENT AND U-SHAPED ORNAMENTS;fDOTTED CRESCENTS;
    dRAYS AND DOTTED CRESCENTS;gDOUBLE CRESCENTS;gTRIPLE CRESCENTS;cDOUBLE RING;eWITH RAYS;
    cWITH DOUBLE CRESCENTS;dTRIPLE CRESCENTS;dQUADRUPLE CRESCENTS;dSEPTUPLE CRESCENTS;
    dCIRCLES AND RAYS;fTWO ENCLOSURES;fFOUR ENCLOSURES;aLETTER THREE-CIRCLE ALTERNATE I;
    bTWO-CIRCLE ALTERNATE I;dII;bALTERNATE U;aVOWEL SIGN ALTERNATE U;dUU"⟩,
  ⟨0x11600,
   "MODI LETTER A;bAA;bI;bII;bU;bUU;bVOCALIC R;cRR;cL;cLL;bE;bAI;bO;bAU;bKA;bKHA;bGA;bGHA;bNGA;
    bCA;bCHA;bJA;bJHA;bNYA;bTTA;bTTHA;bDDA;bDDHA;bNNA;bTA;bTHA;bDA;bDHA;bNA;bPA;bPHA;bBA;bBHA;
    bMA;bYA;bRA;bLA;bVA;bSHA;bSSA;bSA;bHA;bLLA;aVOWEL SIGN AA;cI;cII;cU;cUU;cVOCALIC R;dRR;dL;
    dLL;cE;cAI;cO;cAU;aSIGN ANUSVARA;bVISARGA;bVIRAMA;bARDHACANDRA;aDANDA;aDOUBLE DANDA;
    aABBREVIATION SIGN;aSIGN HUVA"⟩,
  ⟨0x11650, "MODI DIGIT ZERO;bONE;bTWO;bTHREE;bFOUR;bFIVE;bSIX;bSEVEN;bEIGHT;bNINE"⟩,
  ⟨0x11660,
   "MONGOLIAN BIRGA WITH ORNAMENT;aROTATED BIRGA;aDOUBLE BIRGA WITH ORNAMENT;
    aTRIPLE BIRGA WITH ORNAMENT;aBIRGA WITH DOUBLE ORNAMENT;aROTATED BIRGA WITH ORNAMENT;
    dDOUBLE ORNAMENT;aINVERTED BIRGA;cWITH DOUBLE ORNAMENT;aSWIRL BIRGA;cWITH ORNAMENT;
    dDOUBLE ORNAMENT;aTURNED SWIRL BIRGA WITH DOUBLE ORNAMENT"⟩,
  ⟨0x11680,
   "TAKRI LETTER A;bAA;bI;bII;bU;bUU;bE;bAI;bO;bAU;bKA;bKHA;bGA;bGHA;bNGA;bCA;bCHA;bJA;bJHA;bNYA;
    bTTA;bTTHA;bDDA;bDDHA;bNNA;bTA;bTHA;bDA;bDHA;bNA;bPA;bPHA;bBA;bBHA;bMA;bYA;bRA;bLA;bVA;bSHA;
    bSA;bHA;bRRA;aSIGN ANUSVARA;bVISARGA;aVOWEL SIGN AA;cI;cII;cU;cUU;cE;cAI;cO;cAU;aSIGN VIRAMA;
    bNUKTA;aLETTER ARCHAIC KHA;aABBREVIATION SIGN"⟩,
  ⟨0x116c0, "TAKRI DIGIT ZERO;bONE;bTWO;bTHREE;bFOUR;bFIVE;bSIX;bSEVEN;bEIGHT;bNINE"⟩,
  ⟨0x11700,
   "AHOM LETTER KA;bKHA;bNGA;bNA;bTA;bALTERNATE TA;bPA;bPHA;bBA;bMA;bJA;bCHA;bTHA;bRA;bLA;bSA;
    bNYA;bHA;bA;bDA;bDHA;bGA;bALTERNATE GA;bGHA;bBHA;bJHA;bALTERNATE BA"⟩,
  ⟨0x1171d,
   "AHOM CONSONANT SIGN MEDIAL LA;dRA;dLIGATING RA;aVOWEL SIGN A;cAA;cI;cII;cU;cUU;cE;cAW;cO;cAI;
    cAM;aSIGN KILLER"⟩,
  ⟨0x11730,
   "AHOM DIGIT ZERO;bONE;bTWO;bTHREE;bFOUR;bFIVE;bSIX;bSEVEN;bEIGHT;bNINE;aNUMBER TEN;bTWENTY;
    aSIGN SMALL SECTION;bSECTION;bRULAI;aSYMBOL VI;aLETTER CA;bTTA;bTTHA;bDDA;bDDHA;bNNA;bLLA"⟩,
  ⟨0x11800,
   "DOGRA LETTER A;bAA;bI;bII;bU;bUU;bE;bAI;bO;bAU;bKA;bKHA;bGA;bGHA;bNGA;bCA;bCHA;bJA;bJHA;bNYA;
    bTTA;bTTHA;bDDA;bDDHA;bNNA;bTA;bTHA;bDA;bDHA;bNA;bPA;bPHA;bBA;bBHA;bMA;bYA;bRA;bLA;bVA;bSHA;
    bSSA;bSA;bHA;bRRA;aVOWEL SIGN AA;cI;cII;cU;cUU;cVOCALIC R;dRR;cE;cAI;cO;cAU;aSIGN ANUSVARA;
    bVISARGA;bVIRAMA;bNUKTA;aABBREVIATION SIGN"⟩,
  ⟨0x118a0,
   "WARANG CITI CAPITAL LETTER NGAA;dA;dWI;dYU;dYA;dYO;dII;dUU;dE;dO;dANG;dGA;dKO;dENY;dYUJ;dUC;
    dENN;dODD;dTTE;dNUNG;dDA;dAT;dAM;dBU;dPU;dHIYO;dHOLO;dHORR;dHAR;dSSUU;dSII;dVIYO;
    bSMALL LETTER NGAA;dA;dWI;dYU;dYA;dYO;dII;dUU;dE;dO;dANG;dGA;dKO;dENY;dYUJ;dUC;dENN;dODD;
    dTTE;dNUNG;dDA;dAT;dAM;dBU;dPU;dHIYO;dHOLO;dHORR;dHAR;dSSUU;dSII;dVIYO;bDIGIT ZERO;cONE;cTWO;
    cTHREE;cFOUR;cFIVE;cSIX;cSEVEN;cEIGHT;cNINE;bNUMBER TEN;cTWENTY;cTHIRTY;cFORTY;cFIFTY;cSIXTY;
    cSEVENTY;cEIGHTY;cNINETY"⟩,
  ⟨0x118ff, "WARANG CITI OM"⟩,
  ⟨0x11900, "DIVES AKURU LETTER A;cAA;cI;cII;cU;cUU;cE"⟩,
  ⟨0x11909, "DIVES AKURU LETTER O"⟩,
  ⟨0x1190c, "DIVES AKURU LETTER KA;cKHA;cGA;cGHA;cNGA;cCA;cCHA;cJA"⟩,
  ⟨0x11915, "DIVES AKURU LETTER NYA;cTTA"⟩,
  ⟨0x11918,
   "DIVES AKURU LETTER DDA;cDDHA;cNNA;cTA;cTHA;cDA;cDHA;cNA;cPA;cPHA;cBA;cBHA;cMA;cYA;cYYA;cRA;
    cLA;cVA;cSHA;cSSA;cSA;cHA;cLLA;cZA;bVOWEL SIGN AA;dI;dII;dU;dUU;dE"⟩,
  ⟨0x11937, "DIVES AKURU VOWEL SIGN AI;dO"⟩,
  ⟨0x1193b,
   "DIVES AKURU SIGN ANUSVARA;cCANDRABINDU;cHALANTA;bVIRAMA;bPREFIXED NASAL SIGN;bMEDIAL YA;
    bINITIAL RA;bMEDIAL RA;bSIGN NUKTA;bDOUBLE DANDA;bGAP FILLER;bEND OF TEXT MARK"⟩,
  ⟨0x11950, "DIVES AKURU DIGIT ZERO;cONE;cTWO;cTHREE;cFOUR;cFIVE;cSIX;cSEVEN;cEIGHT;cNINE"⟩,
  ⟨0x119a0, "NANDINAGARI LETTER A;bAA;bI;bII;bU;bUU;bVOCALIC R;cRR"⟩,
  ⟨0x119aa,
   "NANDINAGARI LETTER E;bAI;bO;bAU;bKA;bKHA;bGA;bGHA;bNGA;bCA;bCHA;bJA;bJHA;bNYA;bTTA;bTTHA;
    bDDA;bDDHA;bNNA;bTA;bTHA;bDA;bDHA;bNA;bPA;bPHA;bBA;bBHA;bMA;bYA;bRA;bLA;bVA;bSHA;bSSA;bSA;
    bHA;bLLA;bRRA;aVOWEL SIGN AA;cI;cII;cU;cUU;cVOCALIC R;dRR"⟩,
  ⟨0x119da,
   "NANDINAGARI VOWEL SIGN E;cAI;cO;cAU;aSIGN ANUSVARA;bVISARGA;bVIRAMA;bAVAGRAHA;bSIDDHAM;
    aHEADSTROKE;aVOWEL SIGN PRISHTHAMATRA E"⟩,
  ⟨0x11a00,
   "ZANABAZAR SQUARE LETTER A;bVOWEL SIGN I;dUE;dU;dE;dOE;dO;dAI;dAU;dREVERSED I;cLENGTH MARK;
    bLETTER KA;cKHA;cGA;cGHA;cNGA;cCA;cCHA;cJA;cNYA;cTTA;cTTHA;cDDA;cDDHA;cNNA;cTA;cTHA;cDA;cDHA;
    cNA;cPA;cPHA;cBA;cBHA;cMA;cTSA;cTSHA;cDZA;cDZHA;cZHA;cZA;c-A;cYA;cRA;cLA;cVA;cSHA;cSSA;cSA;
    cHA;cKSSA;bFINAL CONSONANT MARK;bSIGN VIRAMA;cCANDRABINDU;dWITH ORNAMENT;
    cCANDRA WITH ORNAMENT;cANUSVARA;cVISARGA;bCLUSTER-INITIAL LETTER RA;bCLUSTER-FINAL LETTER YA;
    dRA;dLA;dVA;bINITIAL HEAD MARK;bCLOSING HEAD MARK;bMARK TSHEG;cSHAD;cDOUBLE SHAD;cLONG TSHEG;
    bINITIAL DOUBLE-LINED HEAD MARK;bCLOSING DOUBLE-LINED HEAD MARK;bSUBJOINER"⟩,
  ⟨0x11a50,
   "SOYOMBO LETTER A;aVOWEL SIGN I;cUE;cU;cE;cO;cOE;cAI;cAU;cVOCALIC R;dL;bLENGTH MARK;
    aLETTER KA;bKHA;bGA;bGHA;bNGA;bCA;bCHA;bJA;bJHA;bNYA;bTTA;bTTHA;bDDA;bDDHA;bNNA;bTA;bTHA;bDA;
    bDHA;bNA;bPA;bPHA;bBA;bBHA;bMA;bTSA;bTSHA;bDZA;bZHA;bZA;b-A;bYA;bRA;bLA;bVA;bSHA;bSSA;bSA;
    bHA;bKSSA;aSIGN JIHVAMULIYA;bUPADHMANIYA;aCLUSTER-INITIAL LETTER RA;cLA;cSHA;cSA;
    aFINAL CONSONANT SIGN G;dK;dNG;dD;dN;dB;dM;dR;dL;dSH;dS;d-A;aSIGN ANUSVARA;bVISARGA;
    aGEMINATION MARK;aSUBJOINER;aMARK TSHEG;bSHAD;bDOUBLE SHAD;bPLUTA;
    aHEAD MARK WITH MOON AND SUN AND TRIPLE FLAME;hFLAME;g;aTERMINAL MARK-1;bMARK-2"⟩,
  ⟨0x11ab0,
   "CANADIAN SYLLABICS NATTILIK HI;cHII;cHO;cHOO;cHA;cHAA;cSHRI;cSHRII;cSHRO;cSHROO;cSHRA;cSHRAA;
    bSPE;bSPI;bSPO;bSPA;PAU CIN HAU LETTER PA;dKA;dLA;dMA;dDA;dZA;dVA;dNGA;dHA;dGA;dKHA;dSA;dBA;
    dCA;dTA;dTHA;dNA;dPHA;dRA;dFA;dCHA;dA;dE;dI;dO;dU;dUA;dIA;dFINAL P;eK;eT;eM;eN;eL;eW;eNG;eY;
    cRISING TONE LONG;e;cSANDHI GLOTTAL STOP;cRISING TONE LONG FINAL;eFINAL;
    cSANDHI GLOTTAL STOP FINAL;dTONE LONG;e;eLONG FINAL;eFINAL;cMID-LEVEL TONE;
    cGLOTTAL STOP VARIANT;cMID-LEVEL TONE LONG FINAL;eFINAL;cLOW-FALLING TONE LONG;e;
    cGLOTTAL STOP;cLOW-FALLING TONE LONG FINAL;eFINAL;cGLOTTAL STOP FINAL"⟩,
  ⟨0x11c00, "BHAIKSUKI LETTER A;bAA;bI;bII;bU;bUU;bVOCALIC R;cRR;cL"⟩,
  ⟨0x11c0a,
   "BHAIKSUKI LETTER E;bAI;bO;bAU;bKA;bKHA;bGA;bGHA;bNGA;bCA;bCHA;bJA;bJHA;bNYA;bTTA;bTTHA;bDDA;
    bDDHA;bNNA;bTA;bTHA;bDA;bDHA;bNA;bPA;bPHA;bBA;bBHA;bMA;bYA;bRA;bLA;bVA;bSHA;bSSA;bSA;bHA;
    aVOWEL SIGN AA;cI;cII;cU;cUU;cVOCALIC R;dRR;dL"⟩,
  ⟨0x11c38,
   "BHAIKSUKI VOWEL SIGN E;cAI;cO;cAU;aSIGN CANDRABINDU;bANUSVARA;bVISARGA;bVIRAMA;bAVAGRAHA;
    aDANDA;aDOUBLE DANDA;aWORD SEPARATOR;aGAP FILLER-1;bFILLER-2"⟩,
  ⟨0x11c50,
   "BHAIKSUKI DIGIT ZERO;bONE;bTWO;bTHREE;bFOUR;bFIVE;bSIX;bSEVEN;bEIGHT;bNINE;aNUMBER ONE;bTWO;
    bTHREE;bFOUR;bFIVE;bSIX;bSEVEN;bEIGHT;bNINE;bTEN;bTWENTY;bTHIRTY;bFORTY;bFIFTY;bSIXTY;
    bSEVENTY;bEIGHTY;bNINETY;aHUNDREDS UNIT MARK"⟩,
  ⟨0x11c70,
   "MARCHEN HEAD MARK;aMARK SHAD;aLETTER KA;bKHA;bGA;bNGA;bCA;bCHA;bJA;bNYA;bTA;bTHA;bDA;bNA;bPA;
    bPHA;bBA;bMA;bTSA;bTSHA;bDZA;bWA;bZHA;bZA;b-A;bYA;bRA;bLA;bSHA;bSA;bHA;bA"⟩,
  ⟨0x11c92,
   "MARCHEN SUBJOINED LETTER KA;cKHA;cGA;cNGA;cCA;cCHA;cJA;cNYA;cTA;cTHA;cDA;cNA;cPA;cPHA;cBA;
    cMA;cTSA;cTSHA;cDZA;cWA;cZHA;cZA"⟩,
  ⟨0x11ca9,
   "MARCHEN SUBJOINED LETTER YA;cRA;cLA;cSHA;cSA;cHA;cA;aVOWEL SIGN AA;cI;cU;cE;cO;
    aSIGN ANUSVARA;bCANDRABINDU"⟩,
  ⟨0x11d00, "MASARAM GONDI LETTER A;cAA;cI;cII;cU;cUU;cE"⟩,
  ⟨0x11d08, "MASARAM GONDI LETTER AI;cO"⟩,
  ⟨0x11d0b,
   "MASARAM GONDI LETTER AU;cKA;cKHA;cGA;cGHA;cNGA;cCA;cCHA;cJA;cJHA;cNYA;cTTA;cTTHA;cDDA;cDDHA;
    cNNA;cTA;cTHA;cDA;cDHA;cNA;cPA;cPHA;cBA;cBHA;cMA;cYA;cRA;cLA;cVA;cSHA;cSSA;cSA;cHA;cLLA;
    cKSSA;cJNYA;cTRA;bVOWEL SIGN AA;dI;dII;dU;dUU;dVOCALIC R"⟩,
  ⟨0x11d3a, "MASARAM GONDI VOWEL SIGN E"⟩,
  ⟨0x11d3c, "MASARAM GONDI VOWEL SIGN AI;dO"⟩,
  ⟨0x11d3f,
   "MASARAM GONDI VOWEL SIGN AU;bSIGN ANUSVARA;cVISARGA;cNUKTA;cCANDRA;cHALANTA;bVIRAMA;bREPHA;
    bRA-KARA"⟩,
  ⟨0x11d50, "MASARAM GONDI DIGIT ZERO;cONE;cTWO;cTHREE;cFOUR;cFIVE;cSIX;cSEVEN;cEIGHT;cNINE"⟩,
  ⟨0x11d60, "GUNJALA GONDI LETTER A;cAA;cI;cII;cU;cUU"⟩,
  ⟨0x11d67, "GUNJALA GONDI LETTER EE;cAI"⟩,
  ⟨0x11d6a,
   "GUNJALA GONDI LETTER OO;cAU;cYA;cVA;cBA;cBHA;cMA;cKA;cKHA;cTA;cTHA;cLA;cGA;cGHA;cDA;cDHA;cNA;
    cCA;cCHA;cTTA;cTTHA;cLLA;cJA;cJHA;cDDA;cDDHA;cNGA;cPA;cPHA;cHA;cRA;cSA;bVOWEL SIGN AA;dI;dII;
    dU;dUU"⟩,
  ⟨0x11d90, "GUNJALA GONDI VOWEL SIGN EE;dAI"⟩,
  ⟨0x11d93, "GUNJALA GONDI VOWEL SIGN OO;dAU;bSIGN ANUSVARA;cVISARGA;bVIRAMA;bOM"⟩,
  ⟨0x11da0, "GUNJALA GONDI DIGIT ZERO;cONE;cTWO;cTHREE;cFOUR;cFIVE;cSIX;cSEVEN;cEIGHT;cNINE"⟩,
  ⟨0x11ee0,
   "MAKASAR LETTER KA;bGA;bNGA;bPA;bBA;bMA;bTA;bDA;bNA;bCA;bJA;bNYA;bYA;bRA;bLA;bVA;bSA;bA;
    aANGKA;aVOWEL SIGN I;cU;cE;cO;aPASSIMBANG;aEND OF SECTION"⟩,
  ⟨0x11fb0, "LISU LETTER YHA"⟩,
  ⟨0x11fc0,
   "TAMIL FRACTION ONE THREE-HUNDRED-AND-TWENTIETH;cONE-HUNDRED-AND-SIXTIETH;cEIGHTIETH;
    cSIXTY-FOURTH;cFORTIETH;cTHIRTY-SECOND;bTHREE EIGHTIETHS;cSIXTY-FOURTHS;bONE TWENTIETH;
    cSIXTEENTH-1;cSIXTEENTH-2;cTENTH;cEIGHTH;bTHREE TWENTIETHS;cSIXTEENTHS;bONE FIFTH;cQUARTER;
    cHALF-1;cHALF-2;bTHREE QUARTERS;bDOWNSCALING FACTOR KIIZH;aSIGN NEL;bCEVITU;bAAZHAAKKU;
    bUZHAKKU;bMUUVUZHAKKU;bKURUNI;bPATHAKKU;bMUKKURUNI;bKAACU;bPANAM;bPON;bVARAAKAN;bPAARAM;
    bKUZHI;bVELI;aWET CULTIVATION SIGN;aDRY CULTIVATION SIGN;aLAND SIGN;aSALT PAN SIGN;
    aTRADITIONAL CREDIT SIGN;bNUMBER SIGN;aCURRENT SIGN;aAND ODD SIGN;aSPENT SIGN;aTOTAL SIGN;
    aIN POSSESSION SIGN;aSTARTING FROM SIGN;aSIGN MUTHALIYA;bVAKAIYARAA"⟩,
  ⟨0x11fff, "TAMIL PUNCTUATION END OF TEXT"⟩]

end StreamLabel.Unicode
