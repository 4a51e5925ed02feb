import StreamLabel.Unicode.Name.Block

/-!
# Names from U+12000 on

Cuneiform.
-/

namespace StreamLabel.Unicode

def namesFrom12000 : List NameBlock := [
  ⟨0x12000,
   "CUNEIFORM SIGN A;cTIMES A;dBAD;dGAN2 TENU;dHA;dIGI;dLAGAR GUNU;dMUSH;dSAG;bA2;bAB;
    cTIMES ASH2;dDUN3 GUNU;dGAL;dGAN2 TENU;dHA;dIGI GUNU;dIMIN;dLAGAB;dSHESH;dU PLUS U PLUS U;
    cGUNU;bAB2;cTIMES BALAG;dGAN2 TENU;dME PLUS EN;dSHA3;dTAK4;bAD;bAK;cTIMES ERIN2;
    dSHITA PLUS GISH;bAL;cTIMES AL;dDIM2;dGISH;dHA;dKAD3;dKI;dSHE;dUSH;bALAN;bALEPH;bAMAR;
    cTIMES SHE;bAN;cOVER AN;cTHREE TIMES;cPLUS NAGA OPPOSING AN PLUS NAGA;eSQUARED;bANSHE;bAPIN;
    bARAD;cTIMES KUR;bARKAB;bASAL2;bASH;cZIDA TENU;cKABA TENU;
    cOVER ASH TUG2 OVER TUG2 TUG2 OVER TUG2 PAP;eOVER ASH;gCROSSING ASH OVER ASH OVER ASH;bASH2;
    bASHGAB;bBA;bBAD;bBAG3;bBAHAR2;bBAL;cOVER BAL;bBALAG;bBAR;bBARA2;bBI;cTIMES A;dGAR;dIGI GUNU;
    bBU;cOVER BU AB;eUN;cCROSSING BU;bBULUG;cOVER BULUG;bBUR;bBUR2;bDA;bDAG;
    cKISIM5 TIMES A PLUS MASH;eAMAR;eBALAG;eBI;eGA;fPLUS MASH;eGI;eGIR2;eGUD;eHA;eIR;fPLUS LU;
    eKAK;eLA;eLU;fPLUS MASH2;eLUM;eNE;ePAP PLUS PAP;eSI;eTAK4;eU2 PLUS GIR2;eUSH;bDAM;bDAR;
    bDARA3;bDARA4;bDI;bDIB;bDIM;cTIMES SHE;bDIM2;bDIN;cKASKAL U GUNU DISH;bDISH;bDU;cOVER DU;
    cGUNU;cSHESHIG;bDUB;cTIMES ESH2;bDUB2;bDUG;bDUGUD;bDUH;bDUN;bDUN3;cGUNU;dGUNU;bDUN4;bDUR2;bE;
    cTIMES PAP;cOVER E NUN OVER NUN;bE2;cTIMES A PLUS HA PLUS DA;dGAR;dMI;dSAL;dSHE;dU;bEDIN;
    bEGIR;bEL;bEN;cTIMES GAN2;eTENU;dME;cCROSSING EN;cOPPOSING EN;cSQUARED;bEREN;bERIN2;bESH2;
    bEZEN;cTIMES A;ePLUS LAL;gTIMES LAL;dAN;dBAD;dDUN3 GUNU;fGUNU;dHA;eGUNU;dIGI GUNU;dKASKAL;
    eSQUARED;dKU3;dLA;dLAL TIMES LAL;dLI;dLU;dU2;dUD;bGA;cGUNU;bGA2;cTIMES A PLUS DA PLUS HA;fHA;
    fIGI;dAB2 TENU PLUS TAB;dAN;dASH;dASH2 PLUS GAL;dBAD;dBAR PLUS RA;dBUR;ePLUS RA;dDA;dDI;
    dDIM TIMES SHE;dDUB;dEL;ePLUS LA;dEN;eTIMES GAN2 TENU;dGAN2 TENU;dGAR;dGI;dGI4;ePLUS A;
    dGIR2 PLUS SU;dHA PLUS LU PLUS ESH2;dHAL;ePLUS LA;dHI PLUS LI;dHUB2;dIGI GUNU;
    dISH PLUS HU PLUS ASH;dKAK;dKASKAL;dKID;ePLUS LAL;dKU3 PLUS AN;dLA;dME PLUS EN;dMI;dNUN;
    eOVER NUN;dPA;dSAL;dSAR;dSHE;ePLUS TUR;dSHID;dSUM;dTAK4;dU;dUD;ePLUS DU;cOVER GA2;bGABA;
    cCROSSING GABA;bGAD;cOVER GAD GAR OVER GAR;bGAL;cGAD OVER GAD GAR OVER GAR;bGALAM;bGAM;bGAN;
    bGAN2;cTENU;cOVER GAN2;cCROSSING GAN2;bGAR;bGAR3;bGASHAN;bGESHTIN;cTIMES KUR"⟩,
  ⟨0x12100,
   "CUNEIFORM SIGN GI;cTIMES E;dU;cCROSSING GI;bGI4;cOVER GI4;cCROSSING GI4;bGIDIM;bGIR2;cGUNU;
    bGIR3;cTIMES A PLUS IGI;dGAN2 TENU;dIGI;dLU PLUS IGI;dPA;bGISAL;bGISH;cCROSSING GISH;
    cTIMES BAD;dTAK4;cTENU;bGU;cCROSSING GU;bGU2;cTIMES KAK;eTIMES IGI GUNU;dNUN;dSAL PLUS TUG2;
    cGUNU;bGUD;cTIMES A PLUS KUR;dKUR;cOVER GUD LUGAL;bGUL;bGUM;cTIMES SHE;bGUR;bGUR7;bGURUN;
    bGURUSH;bHA;cTENU;cGUNU;bHAL;bHI;cTIMES ASH;dASH2;dBAD;dDISH;dGAD;dKIN;dNUN;dSHE;dU;bHU;
    bHUB2;cTIMES AN;dHAL;dKASKAL;dLISH;dUD;bHUL2;bI;cA;bIB;bIDIM;cOVER IDIM BUR;eSQUARED;bIG;
    bIGI;cDIB;cRI;cOVER IGI SHIR OVER SHIR UD OVER UD;cGUNU;bIL;cTIMES GAN2 TENU;bIL2;bIM;
    cTIMES TAK4;cCROSSING IM;cOPPOSING IM;cSQUARED;bIMIN;bIN;bIR;bISH;bKA;cTIMES A;dAD;ePLUS KU3;
    dASH2;dBAD;dBALAG;dBAR;dBI;dERIN2;dESH2;dGA;dGAL;dGAN2 TENU;dGAR;ePLUS SHA3 PLUS A;dGI;dGIR2;
    dGISH PLUS SAR;eCROSSING GISH;dGU;dGUR7;dIGI;dIM;dKAK;dKI;dKID;dLI;dLU;dME;ePLUS DU;fGI;fTE;
    dMI;ePLUS NUNUZ;dNE;dNUN;dPI;dRU;dSA;dSAR;dSHA;dSHE;dSHID;dSHU;dSIG;dSUHUR;dTAR;dU;dU2;dUD;
    dUMUM TIMES PA;dUSH;dZI;bKA2;cCROSSING KA2;bKAB;bKAD2;bKAD3;bKAD4;bKAD5;cOVER KAD5;bKAK;
    cTIMES IGI GUNU;bKAL;cTIMES BAD;cCROSSING KAL;bKAM2;bKAM4;bKASKAL;
    cLAGAB TIMES U OVER LAGAB TIMES U;cOVER KASKAL LAGAB TIMES U OVER LAGAB TIMES U;bKESH2;bKI;
    cTIMES BAD;dU;dUD;bKID;bKIN;bKISAL;bKISH;bKISIM5;cOVER KISIM5;bKU;
    cOVER HI TIMES ASH2 KU OVER HI TIMES ASH2;bKU3;bKU4;cVARIANT FORM;bKU7;bKUL;cGUNU;bKUN;bKUR;
    cOPPOSING KUR;bKUSHU2;bKWU318;bLA;bLAGAB;cTIMES A;ePLUS DA PLUS HA;fGAR;fLAL;dAL;dAN;
    dASH ZIDA TENU;dBAD;dBI;dDAR;dEN;dGA;dGAR;dGUD;ePLUS GUD;dHA;dHAL;dHI TIMES NUN;dIGI GUNU;
    dIM;ePLUS HA;fLU;dKI;dKIN;dKU3;dKUL;ePLUS HI PLUS A;dLAGAB;dLISH;dLU;dLUL;dME;ePLUS EN;dMUSH;
    dNE;dSHE PLUS SUM;dSHITA PLUS GISH PLUS ERIN2;gTENU;dSHU2;ePLUS SHU2;dSUM;dTAG;dTAK4;
    dTE PLUS A PLUS SU PLUS NA;dU;ePLUS A;fU PLUS U;dU2 PLUS ASH;dUD;dUSH;cSQUARED;bLAGAR;
    cTIMES SHE;ePLUS SUM;cGUNU;dOVER LAGAR GUNU SHE;bLAHSHU;bLAL;cTIMES LAL;bLAM;cTIMES KUR;
    ePLUS RU;bLI;bLIL;bLIMMU2;bLISH;bLU;cTIMES BAD;bLU2;cTIMES AL;dBAD"⟩,
  ⟨0x12200,
   "CUNEIFORM SIGN LU2 TIMES ESH2;eTENU;dGAN2 TENU;dHI TIMES BAD;dIM;dKAD2;dKAD3;ePLUS ASH;dKI;
    dLA PLUS ASH;dLAGAB;dME PLUS EN;dNE;dNU;dSI PLUS ASH;dSIK2 PLUS BU;dTUG2;cTENU;cCROSSING LU2;
    cOPPOSING LU2;cSQUARED;cSHESHIG;bLU3;bLUGAL;cOVER LUGAL;cOPPOSING LUGAL;cSHESHIG;bLUH;bLUL;
    bLUM;cOVER LUM;eGAR OVER GAR;bMA;cTIMES TAK4;cGUNU;bMA2;bMAH;bMAR;bMASH;bMASH2;bME;bMES;bMI;
    bMIN;bMU;cOVER MU;bMUG;cGUNU;bMUNSUB;bMURGU2;bMUSH;cTIMES A;dKUR;dZA;cOVER MUSH;
    eTIMES A PLUS NA;cCROSSING MUSH;bMUSH3;cTIMES A;ePLUS DI;dDI;cGUNU;bNA;bNA2;bNAGA;cINVERTED;
    cTIMES SHU TENU;cOPPOSING NAGA;bNAGAR;bNAM NUTILLU;c;bNAM2;bNE;cTIMES A;dUD;cSHESHIG;bNI;
    cTIMES E;bNI2;bNIM;cTIMES GAN2 TENU;dGAR PLUS GAN2 TENU;bNINDA2;cTIMES AN;dASH;ePLUS ASH;
    dGUD;dME PLUS GAN2 TENU;dNE;dNUN;dSHE;ePLUS A AN;fASH;gPLUS ASH;dU2 PLUS ASH;dUSH;bNISAG;bNU;
    bNU11;bNUN;cLAGAR TIMES GAR;eMASH;eSAL;fOVER NUN LAGAR TIMES SAL;eUSH;cTENU;cOVER NUN;
    cCROSSING NUN;eLAGAR OVER LAGAR;bNUNUZ;cAB2 TIMES ASHGAB;eBI;eDUG;eGUD;eIGI GUNU;eKAD3;eLA;
    eNE;eSILA3;eU2;cKISIM5 TIMES BI;fU;bPA;bPAD;bPAN;bPAP;bPESH2;bPI;cTIMES A;dAB;dBI;dBU;dE;dI;
    dIB;dU;dU2;cCROSSING PI;bPIRIG;cTIMES KAL;dUD;dZA;cOPPOSING PIRIG;bRA;bRAB;bRI;bRU;bSA;
    bSAG NUTILLU;c;cTIMES A;dDU;dDUB;dHA;dKAK;dKUR;dLUM;dMI;dNUN;dSAL;dSHID;dTAB;dU2;dUB;dUM;dUR;
    dUSH;cOVER SAG;cGUNU;bSAL;cLAGAB TIMES ASH2;bSANGA2;bSAR;bSHA;bSHA3;cTIMES A;dBAD;dGISH;dNE;
    dSHU2;dTUR;dU;ePLUS A;bSHA6;bSHAB6;bSHAR2;bSHE;cHU;cOVER SHE GAD OVER GAD GAR OVER GAR;
    eTAB OVER TAB GAR OVER GAR;bSHEG9;bSHEN;bSHESH;bSHESH2;bSHESHLAM;bSHID;cTIMES A;dIM;bSHIM;
    cTIMES A;dBAL;dBULUG;dDIN;dGAR;dIGI;eGUNU;dKUSHU2;dLUL;dMUG;dSAL;bSHINIG;bSHIR;cTENU;
    cOVER SHIR BUR OVER BUR;bSHITA;bSHU;cOVER INVERTED SHU;bSHU2;bSHUBUR;bSI;cGUNU;bSIG;bSIG4;
    cOVER SIG4 SHU2;bSIK2;bSILA3;bSU;cOVER SU;bSUD;bSUD2;bSUHUR;bSUM;bSUMASH;bSUR;bSUR9;bTA;
    cASTERISK;cTIMES HI;dMI;cGUNU;bTAB;cOVER TAB NI OVER NI DISH OVER DISH;cSQUARED;bTAG;
    cTIMES BI;dGUD;dSHE;dSHU;dTUG2;dUD;bTAK4;bTAR;bTE;cGUNU;bTI;cTENU"⟩,
  ⟨0x12300,
   "CUNEIFORM SIGN TIL;bTIR;cTIMES TAK4;cOVER TIR;eGAD OVER GAD GAR OVER GAR;bTU;bTUG2;bTUK;bTUM;
    bTUR;cOVER TUR ZA OVER ZA;bU;cGUD;cU U;cOVER U PA OVER PA GAR OVER GAR;eSUR OVER SUR;
    eU REVERSED OVER U REVERSED;bU2;bUB;bUD;cKUSHU2;cTIMES BAD;dMI;dU PLUS U PLUS U;iGUNU;cGUNU;
    cSHESHIG;dTIMES BAD;bUDUG;bUM;cTIMES LAGAB;dME PLUS DA;dSHA3;dU;bUMBIN;bUMUM;cTIMES KASKAL;
    dPA;bUN;cGUNU;bUR;cCROSSING UR;cSHESHIG;bUR2;cTIMES A PLUS HA;fNA;dAL;dHA;dNUN;dU2;ePLUS ASH;
    fBI;bUR4;bURI;bURI3;bURU;cTIMES A;dASHGAB;dBAR;dDUN;dGA;dGAL;dGAN2 TENU;dGAR;dGU;dHA;dIGI;
    dIM;dISH;dKI;dLUM;dMIN;dPA;dSHE;dSIG4;dTU;dU PLUS GUD;dUD;dURUDA;bURUDA;cTIMES U;bUSH;
    cTIMES A;dKU;dKUR;dTAK4;bUSHX;bUSH2;bUSHUMX;bUTUKI;bUZ3;cTIMES KASKAL;bUZU;bZA;cTENU;
    cSQUARED TIMES KUR;bZAG;bZAMX;bZE2;bZI;cOVER ZI;bZI3;bZIB;cKABA TENU;bZIG;bZIZ2;bZU;bZU5;
    cTIMES A;bZUBUR;bZUM;bKAP ELAMITE;bAB TIMES NUN;bAB2 TIMES A;bAMAR TIMES KUG;
    bDAG KISIM5 TIMES U2 PLUS MASH;bDAG3;bDISH PLUS SHU;bDUB TIMES SHE;bEZEN TIMES GUD;dSHE;
    bGA2 TIMES AN PLUS KAK PLUS A;dASH2;bGE22;bGIG;bHUSH;bKA TIMES ANSHE;dASH3;dGISH;dGUD;
    dHI TIMES ASH2;dLUM;dPA;dSHUL;dTU;dUR2;bLAGAB TIMES GI;bLU2 SHESHIG TIMES BAD;
    cTIMES ESH2 PLUS LAL;dSHU;bMESH;bMUSH3 TIMES ZA;bNA4;bNIN;bNIN9;bNINDA2 TIMES BAL;dGI;
    bNU11 ROTATED NINETY DEGREES;bPESH2 ASTERISK;bPIR2;bSAG TIMES IGI GUNU;bTI2;bUM TIMES ME;bU U"⟩,
  ⟨0x12400,
   "CUNEIFORM NUMERIC SIGN TWO ASH;cTHREE ASH;cFOUR ASH;cFIVE ASH;cSIX ASH;cSEVEN ASH;cEIGHT ASH;
    cNINE ASH;cTHREE DISH;cFOUR DISH;cFIVE DISH;cSIX DISH;cSEVEN DISH;cEIGHT DISH;cNINE DISH;
    cFOUR U;cFIVE U;cSIX U;cSEVEN U;cEIGHT U;cNINE U;cONE GESH2;cTWO GESH2;cTHREE GESH2;
    cFOUR GESH2;cFIVE GESH2;cSIX GESH2;cSEVEN GESH2;cEIGHT GESH2;cNINE GESH2;cONE GESHU;
    cTWO GESHU;cTHREE GESHU;cFOUR GESHU;cFIVE GESHU;cTWO SHAR2;cTHREE SHAR2;eVARIANT FORM;
    cFOUR SHAR2;cFIVE SHAR2;cSIX SHAR2;cSEVEN SHAR2;cEIGHT SHAR2;cNINE SHAR2;cONE SHARU;
    cTWO SHARU;cTHREE SHARU;eVARIANT FORM;cFOUR SHARU;cFIVE SHARU;cSHAR2 TIMES GAL PLUS DISH;
    gMIN;cONE BURU;cTWO BURU;cTHREE BURU;eVARIANT FORM;cFOUR BURU;cFIVE BURU;
    cTHREE VARIANT FORM ESH16;fESH21;cFOUR VARIANT FORM LIMMU;fLIMMU4;fLIMMU A;gB;
    cSIX VARIANT FORM ASH9;cSEVEN VARIANT FORM IMIN3;fIMIN A;gB;cEIGHT VARIANT FORM USSU;fUSSU3;
    cNINE VARIANT FORM ILIMMU;fILIMMU3;fILIMMU4;fILIMMU A;cTWO ASH TENU;cTHREE ASH TENU;
    cFOUR ASH TENU;cFIVE ASH TENU;cSIX ASH TENU;cONE BAN2;cTWO BAN2;cTHREE BAN2;cFOUR BAN2;
    eVARIANT FORM;cFIVE BAN2;eVARIANT FORM;cNIGIDAMIN;cNIGIDAESH;cONE ESHE3;cTWO ESHE3;
    cONE THIRD DISH;cTWO THIRDS DISH;cFIVE SIXTHS DISH;cONE THIRD VARIANT FORM A;
    cTWO THIRDS VARIANT FORM A;cONE EIGHTH ASH;dQUARTER ASH;cOLD ASSYRIAN ONE SIXTH;fQUARTER;
    cONE QUARTER GUR;dHALF GUR;cELAMITE ONE THIRD;dTWO THIRDS;dFORTY;dFIFTY;cFOUR U VARIANT FORM;
    cFIVE U VARIANT FORM;cSIX U VARIANT FORM;cSEVEN U VARIANT FORM;cEIGHT U VARIANT FORM;
    cNINE U VARIANT FORM"⟩,
  ⟨0x12470,
   "CUNEIFORM PUNCTUATION SIGN OLD ASSYRIAN WORD DIVIDER;cVERTICAL COLON;cDIAGONAL COLON;
    dTRICOLON;dQUADCOLON"⟩,
  ⟨0x12480,
   "CUNEIFORM SIGN AB TIMES NUN TENU;dSHU2;bAD TIMES ESH2;bBAD TIMES DISH TENU;bBAHAR2 TIMES AB2;
    dNI;dZA;bBU OVER BU TIMES NA2;bDA TIMES TAK4;bDAG TIMES KUR;bDIM TIMES IGI;dU U U;
    bDIM2 TIMES UD;bDUG TIMES ANSHE;dASH;eAT LEFT;dDIN;dDUN;dERIN2;dGA;dGI;dGIR2 GUNU;dGISH;dHA;
    dHI;dIGI GUNU;dKASKAL;dKUR;dKUSHU2;ePLUS KASKAL;dLAK-020;dLAM;eTIMES KUR;dLUH PLUS GISH;
    dMASH;dMES;dMI;dNI;dPI;dSHE;dSI GUNU;bE2 TIMES KUR;dPAP;bERIN2 X;bESH2 CROSSING ESH2;
    bEZEN SHESHIG TIMES ASH;eHI;eIGI GUNU;eLA;eLAL;eME;eMES;eSU;cTIMES SU;bGA2 TIMES BAHAR2;
    dDIM GUNU;dDUG TIMES IGI GUNU;fKASKAL;dEREN;dGA;dGAR PLUS DI;fNE;dHA PLUS A;
    dKUSHU2 PLUS KASKAL;dLAM;eTIMES KUR;dLUH;dMUSH;dNE;ePLUS E2;fGI;dSHIM;dZIZ2;
    bGABA ROTATED NINETY DEGREES;bGESHTIN TIMES U;bGISH TIMES GISH CROSSING GISH;
    bGU2 TIMES IGI GUNU;bGUD PLUS GISH TIMES TAK4;bHA TENU GUNU;bHI TIMES ASH OVER HI TIMES ASH;
    bKA TIMES BU;dKA;dU U U;dUR;bLAGAB TIMES ZU OVER ZU;bLAK-003;bLAK-021;bLAK-025;bLAK-030;
    bLAK-050;bLAK-051;bLAK-062;bLAK-079 OVER LAK-079 GUNU;bLAK-080;bLAK-081 OVER LAK-081;
    bLAK-092;bLAK-130;bLAK-142;bLAK-210;bLAK-219;bLAK-220;bLAK-225;bLAK-228;bLAK-238;bLAK-265;
    bLAK-266;bLAK-343;bLAK-347;bLAK-348;bLAK-383;bLAK-384;bLAK-390;bLAK-441;bLAK-449;cTIMES GU;
    dIGI;dPAP PLUS LU3;fPAP PLUS LU3;dU2 PLUS BA;bLAK-450;bLAK-457;bLAK-470;bLAK-483;bLAK-490;
    bLAK-492;bLAK-493;bLAK-495;bLAK-550"⟩,
  ⟨0x12500,
   "CUNEIFORM SIGN LAK-608;bLAK-617;cTIMES ASH;dBAD;dDUN3 GUNU GUNU;dKU3;dLA;dTAR;dTE;dU2;dUD;
    dURUDA;bLAK-636;bLAK-648;cTIMES DUB;dGA;dIGI;eGUNU;dNI;dPAP PLUS PAP PLUS LU3;dSHESH PLUS KI;
    dUD;dURUDA;bLAK-724;bLAK-749;bLU2 GUNU TIMES ASH;cTIMES DISH;dHAL;dPAP;ePLUS PAP PLUS LU3;
    dTAK4;bMI PLUS ZA7;bMUSH OVER MUSH TIMES GA;fKAK;bNINDA2 TIMES DIM GUNU;dGISH;dGUL;dHI;
    dKESH2;dLAK-050;dMASH;dPAP PLUS PAP;dU;ePLUS U;dURUDA;bSAG GUNU TIMES HA;cTIMES EN;
    dSHE AT LEFT;dTAK4;bSHA6 TENU;bSHE OVER SHE;cPLUS HUB2;dNAM2;dSAR;bSHU2 PLUS DUG TIMES NI;
    dE2 TIMES AN;bSI TIMES TAK4;bTAK4 PLUS SAG;bTUM TIMES GAN2 TENU;dTHREE DISH;bUR2 INVERTED;
    cTIMES UD;bURU TIMES DARA3;dLAK-668;dLU3;bZA7;bZU OVER ZU PLUS SAR;bZU5 TIMES THREE DISH TENU"⟩,
  ⟨0x12f90,
   "CYPRO-MINOAN SIGN CM001;bCM002;bCM004;bCM005;bCM006;bCM007;bCM008;bCM009;bCM010;bCM011;
    bCM012;bCM012B;bCM013;bCM015;bCM017;bCM019;bCM021;bCM023;bCM024;bCM025;bCM026;bCM027;bCM028;
    bCM029;bCM030;bCM033;bCM034;bCM035;bCM036;bCM037;bCM038;bCM039;bCM040;bCM041;bCM044;bCM046;
    bCM047;bCM049;bCM050;bCM051;bCM052;bCM053;bCM054;bCM055;bCM056;bCM058;bCM059;bCM060;bCM061;
    bCM062;bCM063;bCM064;bCM066;bCM067;bCM068;bCM069;bCM070;bCM071;bCM072;bCM073;bCM074;bCM075;
    bCM075B;bCM076;bCM078;bCM079;bCM080;bCM081;bCM082;bCM083;bCM084;bCM085;bCM086;bCM087;bCM088;
    bCM089;bCM090;bCM091;bCM092;bCM094;bCM095;bCM096;bCM097;bCM098;bCM099;bCM100;bCM101;bCM102;
    bCM103;bCM104;bCM105;bCM107;bCM108;bCM109;bCM110;bCM112;bCM114;bCM301;bCM302"⟩]

end StreamLabel.Unicode
