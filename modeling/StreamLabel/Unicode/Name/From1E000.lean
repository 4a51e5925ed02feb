import StreamLabel.Unicode.Name.Block

/-!
# Names from U+1E000 on

Further scripts, pictographs, tags.
-/

namespace StreamLabel.Unicode

def namesFrom1E000 : List NameBlock := [
  ⟨0x1e000, "COMBINING GLAGOLITIC LETTER AZU;cBUKY;cVEDE;cGLAGOLI;cDOBRO;cYESTU;cZHIVETE"⟩,
  ⟨0x1e008,
   "COMBINING GLAGOLITIC LETTER ZEMLJA;cIZHE;cINITIAL IZHE;cI;cDJERVI;cKAKO;cLJUDIJE;cMYSLITE;
    cNASHI;cONU;cPOKOJI;cRITSI;cSLOVO;cTVRIDO;cUKU;cFRITU;cHERU"⟩,
  ⟨0x1e01b, "COMBINING GLAGOLITIC LETTER SHTA;cTSI;cCHRIVI;cSHA;cYERU;cYERI;cYATI"⟩,
  ⟨0x1e023, "COMBINING GLAGOLITIC LETTER YU;cSMALL YUS"⟩,
  ⟨0x1e026,
   "COMBINING GLAGOLITIC LETTER YO;cIOTATED SMALL YUS;cBIG YUS;cIOTATED BIG YUS;cFITA"⟩,
  ⟨0x1e100,
   "NYIAKENG PUACHUE HMONG LETTER MA;dTSA;dNTA;dTA;dHA;dNA;dXA;dNKA;dCA;dLA;dSA;dZA;dNCA;dNTSA;
    dKA;dDA;dNYA;dNRA;dVA;dNTXA;dTXA;dFA;dRA;dQA;dYA;dNQA;dPA;dXYA;dNPA;dDLA;dNPLA;dHAH;dMLA;
    dPLA;dGA;dRRA;dA;dAA;dI;dU;dO;dOO;dE;dEE;dW"⟩,
  ⟨0x1e130,
   "NYIAKENG PUACHUE HMONG TONE-B;cTONE-M;cTONE-J;cTONE-V;cTONE-S;cTONE-G;cTONE-D;
    cSIGN FOR PERSON;eTHING;eLOCATION;eANIMAL;eINVERTEBRATE;dXW XW;cSYLLABLE LENGTHENER"⟩,
  ⟨0x1e140,
   "NYIAKENG PUACHUE HMONG DIGIT ZERO;dONE;dTWO;dTHREE;dFOUR;dFIVE;dSIX;dSEVEN;dEIGHT;dNINE"⟩,
  ⟨0x1e14e, "NYIAKENG PUACHUE HMONG LOGOGRAM NYAJ;cCIRCLED CA"⟩,
  ⟨0x1e290,
   "TOTO LETTER PA;bBA;bTA;bDA;bKA;bGA;bMA;bNA;bNGA;bSA;bCHA;bYA;bWA;bJA;bHA;bRA;bLA;bI;
    bBREATHY I;bIU;bBREATHY IU;bU;bE;bBREATHY E;bEO;bBREATHY EO;bO;bAE;bBREATHY AE;bA;
    aSIGN RISING TONE"⟩,
  ⟨0x1e2c0,
   "WANCHO LETTER AA;bA;bBA;bCA;bDA;bGA;bYA;bPHA;bLA;bNA;bPA;bTA;bTHA;bFA;bSA;bSHA;bJA;bZA;bWA;
    bVA;bKA;bO;bAU;bRA;bMA;bKHA;bHA;bE;bI;bNGA;bU;bLLHA;bTSA;bTRA;bONG;bAANG;bANG;bING;bON;bEN;
    bAAN;bNYA;bUEN;bYIH;aTONE TUP;bTUPNI;bKOI;bKOINI;aDIGIT ZERO;bONE;bTWO;bTHREE;bFOUR;bFIVE;
    bSIX;bSEVEN;bEIGHT;bNINE"⟩,
  ⟨0x1e2ff, "WANCHO NGUN SIGN"⟩,
  ⟨0x1e7e0, "ETHIOPIC SYLLABLE HHYA;bHHYU;bHHYI;bHHYAA;bHHYEE;bHHYE;bHHYO"⟩,
  ⟨0x1e7e8, "ETHIOPIC SYLLABLE GURAGE HHWA;bHHWI;bHHWEE;bHHWE"⟩,
  ⟨0x1e7ed, "ETHIOPIC SYLLABLE GURAGE MWI;cMWEE"⟩,
  ⟨0x1e7f0,
   "ETHIOPIC SYLLABLE GURAGE QWI;cQWEE;cQWE;cBWI;cBWEE;cKWI;cKWEE;cKWE;cGWI;cGWEE;cGWE;cFWI;
    cFWEE;cPWI;cPWEE"⟩,
  ⟨0x1e800,
   "MENDE KIKAKUI SYLLABLE M001 KI;cM002 KA;cM003 KU;cM065 KEE;cM095 KE;cM076 KOO;cM048 KO;
    cM179 KUA;cM004 WI;cM005 WA;cM006 WU;cM126 WEE;cM118 WE;cM114 WOO;cM045 WO;cM194 WUI;
    cM143 WEI;cM061 WVI;cM049 WVA;cM139 WVE;cM007 MIN;cM008 MAN;cM009 MUN;cM059 MEN;cM094 MON;
    cM154 MUAN;cM189 MUEN;cM010 BI;cM011 BA;cM012 BU;cM150 BEE;cM097 BE;cM103 BOO;cM138 BO;
    cM013 I;cM014 A;cM015 U;cM163 EE;cM100 E;cM165 OO;cM147 O;cM137 EI;cM131 IN;cM135 IN;
    cM195 AN;cM178 EN;cM019 SI;cM020 SA;cM021 SU;cM162 SEE;cM116 SE;cM136 SOO;cM079 SO;cM196 SIA;
    cM025 LI;cM026 LA;cM027 LU;cM084 LEE;cM073 LE;cM054 LOO;cM153 LO;cM110 LONG LE;cM016 DI;
    cM017 DA;cM018 DU;cM089 DEE;cM180 DOO;cM181 DO;cM022 TI;cM023 TA;cM024 TU;cM091 TEE;cM055 TE;
    cM104 TOO;cM069 TO;cM028 JI;cM029 JA;cM030 JU;cM157 JEE;cM113 JE;cM160 JOO;cM063 JO;
    cM175 LONG JO;cM031 YI;cM032 YA;cM033 YU;cM109 YEE;cM080 YE;cM141 YOO;cM121 YO;cM034 FI;
    cM035 FA;cM036 FU;cM078 FEE;cM075 FE;cM133 FOO;cM088 FO;cM197 FUA;cM101 FAN;cM037 NIN;
    cM038 NAN;cM039 NUN;cM117 NEN;cM169 NON;cM176 HI;cM041 HA;cM186 HU;cM040 HEE;cM096 HE;
    cM042 HOO;cM140 HO;cM083 HEEI;cM128 HOOU;cM053 HIN;cM130 HAN;cM087 HUN;cM052 HEN;cM193 HON;
    cM046 HUAN;cM090 NGGI;cM043 NGGA;cM082 NGGU;cM115 NGGEE;cM146 NGGE;cM156 NGGOO;cM120 NGGO;
    cM159 NGGAA;cM127 NGGUA;cM086 LONG NGGE;cM106 LONG NGGOO;cM183 LONG NGGO;cM155 GI;cM111 GA;
    cM168 GU;cM190 GEE;cM166 GUEI;cM167 GUAN;cM184 NGEN;cM057 NGON;cM177 NGUAN;cM068 PI;cM099 PA;
    cM050 PU;cM081 PEE;cM051 PE;cM102 POO;cM066 PO;cM145 MBI;cM062 MBA;cM122 MBU;cM047 MBEE;
    cM188 MBEE;cM072 MBE;cM172 MBOO;cM174 MBO;cM187 MBUU;cM161 LONG MBE;cM105 LONG MBOO;
    cM142 LONG MBO;cM132 KPI;cM092 KPA;cM074 KPU;cM044 KPEE;cM108 KPE;cM112 KPOO;cM158 KPO;
    cM124 GBI;cM056 GBA;cM148 GBU;cM093 GBEE;cM107 GBE;cM071 GBOO;cM070 GBO;cM171 RA;cM123 NDI;
    cM129 NDA;cM125 NDU;cM191 NDEE;cM119 NDE;cM067 NDOO;cM064 NDO;cM152 NJA;cM192 NJU;cM149 NJEE;
    cM134 NJOO;cM182 VI;cM185 VA;cM151 VU;cM173 VEE;cM085 VE;cM144 VOO;cM077 VO;cM164 NYIN;
    cM058 NYAN;cM170 NYUN;cM098 NYEN;cM060 NYON"⟩,
  ⟨0x1e8c7,
   "MENDE KIKAKUI DIGIT ONE;cTWO;cTHREE;cFOUR;cFIVE;cSIX;cSEVEN;cEIGHT;cNINE;
    bCOMBINING NUMBER TEENS;dTENS;dHUNDREDS;dTHOUSANDS;dTEN THOUSANDS;dHUNDRED THOUSANDS;
    dMILLIONS"⟩,
  ⟨0x1e900,
   "ADLAM CAPITAL LETTER ALIF;cDAALI;cLAAM;cMIIM;cBA;cSINNYIIYHE;cPE;cBHE;cRA;cE;cFA;cI;cO;cDHA;
    cYHE;cWAW;cNUN;cKAF;cYA;cU;cJIIM;cCHI;cHA;cQAAF;cGA;cNYA;cTU;cNHA;cVA;cKHA;cGBE;cZAL;cKPO;
    cSHA;aSMALL LETTER ALIF;cDAALI;cLAAM;cMIIM;cBA;cSINNYIIYHE;cPE;cBHE;cRA;cE;cFA;cI;cO;cDHA;
    cYHE;cWAW;cNUN;cKAF;cYA;cU;cJIIM;cCHI;cHA;cQAAF;cGA;cNYA;cTU;cNHA;cVA;cKHA;cGBE;cZAL;cKPO;
    cSHA;aALIF LENGTHENER;aVOWEL LENGTHENER;aGEMINATION MARK;aHAMZA;aCONSONANT MODIFIER;
    aGEMINATE CONSONANT MODIFIER;aNUKTA;aNASALIZATION MARK"⟩,
  ⟨0x1e950, "ADLAM DIGIT ZERO;bONE;bTWO;bTHREE;bFOUR;bFIVE;bSIX;bSEVEN;bEIGHT;bNINE"⟩,
  ⟨0x1e95e, "ADLAM INITIAL EXCLAMATION MARK;bQUESTION MARK"⟩,
  ⟨0x1ec71,
   "INDIC SIYAQ NUMBER ONE;cTWO;cTHREE;cFOUR;cFIVE;cSIX;cSEVEN;cEIGHT;cNINE;cTEN;cTWENTY;cTHIRTY;
    cFORTY;cFIFTY;cSIXTY;cSEVENTY;cEIGHTY;cNINETY;cONE HUNDRED;cTWO HUNDRED;cTHREE HUNDRED;
    cFOUR HUNDRED;cFIVE HUNDRED;cSIX HUNDRED;cSEVEN HUNDRED;cEIGHT HUNDRED;cNINE HUNDRED;
    cONE THOUSAND;cTWO THOUSAND;cTHREE THOUSAND;cFOUR THOUSAND;cFIVE THOUSAND;cSIX THOUSAND;
    cSEVEN THOUSAND;cEIGHT THOUSAND;cNINE THOUSAND;cTEN THOUSAND;cTWENTY THOUSAND;
    cTHIRTY THOUSAND;cFORTY THOUSAND;cFIFTY THOUSAND;cSIXTY THOUSAND;cSEVENTY THOUSAND;
    cEIGHTY THOUSAND;cNINETY THOUSAND;cLAKH;cLAKHAN;bLAKH MARK;bNUMBER KAROR;cKARORAN;
    cPREFIXED ONE;dTWO;dTHREE;dFOUR;dFIVE;dSIX;dSEVEN;dEIGHT;dNINE;bPLACEHOLDER;
    bFRACTION ONE QUARTER;dHALF;cTHREE QUARTERS;bRUPEE MARK;bNUMBER ALTERNATE ONE;dTWO;
    dTEN THOUSAND;bALTERNATE LAKH MARK"⟩,
  ⟨0x1ed01,
   "OTTOMAN SIYAQ NUMBER ONE;cTWO;cTHREE;cFOUR;cFIVE;cSIX;cSEVEN;cEIGHT;cNINE;cTEN;cTWENTY;
    cTHIRTY;cFORTY;cFIFTY;cSIXTY;cSEVENTY;cEIGHTY;cNINETY;cONE HUNDRED;cTWO HUNDRED;
    cTHREE HUNDRED;cFOUR HUNDRED;cFIVE HUNDRED;cSIX HUNDRED;cSEVEN HUNDRED;cEIGHT HUNDRED;
    cNINE HUNDRED;cONE THOUSAND;cTWO THOUSAND;cTHREE THOUSAND;cFOUR THOUSAND;cFIVE THOUSAND;
    cSIX THOUSAND;cSEVEN THOUSAND;cEIGHT THOUSAND;cNINE THOUSAND;cTEN THOUSAND;cTWENTY THOUSAND;
    cTHIRTY THOUSAND;cFORTY THOUSAND;cFIFTY THOUSAND;cSIXTY THOUSAND;cSEVENTY THOUSAND;
    cEIGHTY THOUSAND;cNINETY THOUSAND;bMARRATAN;bALTERNATE NUMBER TWO;dTHREE;dFOUR;dFIVE;dSIX;
    dSEVEN;dEIGHT;dNINE;dTEN;dFOUR HUNDRED;dSIX HUNDRED;dTWO THOUSAND;dTEN THOUSAND;
    bFRACTION ONE HALF;dSIXTH"⟩,
  ⟨0x1ee00, "ARABIC MATHEMATICAL ALEF;bBEH;bJEEM;bDAL"⟩,
  ⟨0x1ee05,
   "ARABIC MATHEMATICAL WAW;bZAIN;bHAH;bTAH;bYEH;bKAF;bLAM;bMEEM;bNOON;bSEEN;bAIN;bFEH;bSAD;bQAF;
    bREH;bSHEEN;bTEH;bTHEH;bKHAH;bTHAL;bDAD;bZAH;bGHAIN;bDOTLESS BEH;cNOON;cFEH;cQAF"⟩,
  ⟨0x1ee21, "ARABIC MATHEMATICAL INITIAL BEH;cJEEM"⟩,
  ⟨0x1ee24, "ARABIC MATHEMATICAL INITIAL HEH"⟩,
  ⟨0x1ee27, "ARABIC MATHEMATICAL INITIAL HAH"⟩,
  ⟨0x1ee29, "ARABIC MATHEMATICAL INITIAL YEH;cKAF;cLAM;cMEEM;cNOON;cSEEN;cAIN;cFEH;cSAD;cQAF"⟩,
  ⟨0x1ee34, "ARABIC MATHEMATICAL INITIAL SHEEN;cTEH;cTHEH;cKHAH"⟩,
  ⟨0x1ee39, "ARABIC MATHEMATICAL INITIAL DAD"⟩,
  ⟨0x1ee3b, "ARABIC MATHEMATICAL INITIAL GHAIN"⟩,
  ⟨0x1ee42, "ARABIC MATHEMATICAL TAILED JEEM"⟩,
  ⟨0x1ee47, "ARABIC MATHEMATICAL TAILED HAH"⟩,
  ⟨0x1ee49, "ARABIC MATHEMATICAL TAILED YEH"⟩,
  ⟨0x1ee4b, "ARABIC MATHEMATICAL TAILED LAM"⟩,
  ⟨0x1ee4d, "ARABIC MATHEMATICAL TAILED NOON;cSEEN;cAIN"⟩,
  ⟨0x1ee51, "ARABIC MATHEMATICAL TAILED SAD;cQAF"⟩,
  ⟨0x1ee54, "ARABIC MATHEMATICAL TAILED SHEEN"⟩,
  ⟨0x1ee57, "ARABIC MATHEMATICAL TAILED KHAH"⟩,
  ⟨0x1ee59, "ARABIC MATHEMATICAL TAILED DAD"⟩,
  ⟨0x1ee5b, "ARABIC MATHEMATICAL TAILED GHAIN"⟩,
  ⟨0x1ee5d, "ARABIC MATHEMATICAL TAILED DOTLESS NOON"⟩,
  ⟨0x1ee5f, "ARABIC MATHEMATICAL TAILED DOTLESS QAF"⟩,
  ⟨0x1ee61, "ARABIC MATHEMATICAL STRETCHED BEH;cJEEM"⟩,
  ⟨0x1ee64, "ARABIC MATHEMATICAL STRETCHED HEH"⟩,
  ⟨0x1ee67, "ARABIC MATHEMATICAL STRETCHED HAH;cTAH;cYEH;cKAF"⟩,
  ⟨0x1ee6c, "ARABIC MATHEMATICAL STRETCHED MEEM;cNOON;cSEEN;cAIN;cFEH;cSAD;cQAF"⟩,
  ⟨0x1ee74, "ARABIC MATHEMATICAL STRETCHED SHEEN;cTEH;cTHEH;cKHAH"⟩,
  ⟨0x1ee79, "ARABIC MATHEMATICAL STRETCHED DAD;cZAH;cGHAIN;cDOTLESS BEH"⟩,
  ⟨0x1ee7e, "ARABIC MATHEMATICAL STRETCHED DOTLESS FEH"⟩,
  ⟨0x1ee80, "ARABIC MATHEMATICAL LOOPED ALEF;cBEH;cJEEM;cDAL;cHEH;cWAW;cZAIN;cHAH;cTAH;cYEH"⟩,
  ⟨0x1ee8b,
   "ARABIC MATHEMATICAL LOOPED LAM;cMEEM;cNOON;cSEEN;cAIN;cFEH;cSAD;cQAF;cREH;cSHEEN;cTEH;cTHEH;
    cKHAH;cTHAL;cDAD;cZAH;cGHAIN"⟩,
  ⟨0x1eea1, "ARABIC MATHEMATICAL DOUBLE-STRUCK BEH;cJEEM;cDAL"⟩,
  ⟨0x1eea5, "ARABIC MATHEMATICAL DOUBLE-STRUCK WAW;cZAIN;cHAH;cTAH;cYEH"⟩,
  ⟨0x1eeab,
   "ARABIC MATHEMATICAL DOUBLE-STRUCK LAM;cMEEM;cNOON;cSEEN;cAIN;cFEH;cSAD;cQAF;cREH;cSHEEN;cTEH;
    cTHEH;cKHAH;cTHAL;cDAD;cZAH;cGHAIN"⟩,
  ⟨0x1eef0, "ARABIC MATHEMATICAL OPERATOR MEEM WITH HAH WITH TATWEEL;cHAH WITH DAL"⟩,
  ⟨0x1f000,
   "MAHJONG TILE EAST WIND;bSOUTH WIND;bWEST WIND;bNORTH WIND;bRED DRAGON;bGREEN DRAGON;
    bWHITE DRAGON;bONE OF CHARACTERS;bTWO OF CHARACTERS;bTHREE OF CHARACTERS;bFOUR OF CHARACTERS;
    bFIVE OF CHARACTERS;bSIX OF CHARACTERS;bSEVEN OF CHARACTERS;bEIGHT OF CHARACTERS;
    bNINE OF CHARACTERS;bONE OF BAMBOOS;bTWO OF BAMBOOS;bTHREE OF BAMBOOS;bFOUR OF BAMBOOS;
    bFIVE OF BAMBOOS;bSIX OF BAMBOOS;bSEVEN OF BAMBOOS;bEIGHT OF BAMBOOS;bNINE OF BAMBOOS;
    bONE OF CIRCLES;bTWO OF CIRCLES;bTHREE OF CIRCLES;bFOUR OF CIRCLES;bFIVE OF CIRCLES;
    bSIX OF CIRCLES;bSEVEN OF CIRCLES;bEIGHT OF CIRCLES;bNINE OF CIRCLES;bPLUM;bORCHID;bBAMBOO;
    bCHRYSANTHEMUM;bSPRING;bSUMMER;bAUTUMN;bWINTER;bJOKER;bBACK"⟩,
  ⟨0x1f030,
   "DOMINO TILE HORIZONTAL BACK;bHORIZONTAL-00-00;bHORIZONTAL-00-01;bHORIZONTAL-00-02;
    bHORIZONTAL-00-03;bHORIZONTAL-00-04;bHORIZONTAL-00-05;bHORIZONTAL-00-06;bHORIZONTAL-01-00;
    bHORIZONTAL-01-01;bHORIZONTAL-01-02;bHORIZONTAL-01-03;bHORIZONTAL-01-04;bHORIZONTAL-01-05;
    bHORIZONTAL-01-06;bHORIZONTAL-02-00;bHORIZONTAL-02-01;bHORIZONTAL-02-02;bHORIZONTAL-02-03;
    bHORIZONTAL-02-04;bHORIZONTAL-02-05;bHORIZONTAL-02-06;bHORIZONTAL-03-00;bHORIZONTAL-03-01;
    bHORIZONTAL-03-02;bHORIZONTAL-03-03;bHORIZONTAL-03-04;bHORIZONTAL-03-05;bHORIZONTAL-03-06;
    bHORIZONTAL-04-00;bHORIZONTAL-04-01;bHORIZONTAL-04-02;bHORIZONTAL-04-03;bHORIZONTAL-04-04;
    bHORIZONTAL-04-05;bHORIZONTAL-04-06;bHORIZONTAL-05-00;bHORIZONTAL-05-01;bHORIZONTAL-05-02;
    bHORIZONTAL-05-03;bHORIZONTAL-05-04;bHORIZONTAL-05-05;bHORIZONTAL-05-06;bHORIZONTAL-06-00;
    bHORIZONTAL-06-01;bHORIZONTAL-06-02;bHORIZONTAL-06-03;bHORIZONTAL-06-04;bHORIZONTAL-06-05;
    bHORIZONTAL-06-06;bVERTICAL BACK;bVERTICAL-00-00;bVERTICAL-00-01;bVERTICAL-00-02;
    bVERTICAL-00-03;bVERTICAL-00-04;bVERTICAL-00-05;bVERTICAL-00-06;bVERTICAL-01-00;
    bVERTICAL-01-01;bVERTICAL-01-02;bVERTICAL-01-03;bVERTICAL-01-04;bVERTICAL-01-05;
    bVERTICAL-01-06;bVERTICAL-02-00;bVERTICAL-02-01;bVERTICAL-02-02;bVERTICAL-02-03;
    bVERTICAL-02-04;bVERTICAL-02-05;bVERTICAL-02-06;bVERTICAL-03-00;bVERTICAL-03-01;
    bVERTICAL-03-02;bVERTICAL-03-03;bVERTICAL-03-04;bVERTICAL-03-05;bVERTICAL-03-06;
    bVERTICAL-04-00;bVERTICAL-04-01;bVERTICAL-04-02;bVERTICAL-04-03;bVERTICAL-04-04;
    bVERTICAL-04-05;bVERTICAL-04-06;bVERTICAL-05-00;bVERTICAL-05-01;bVERTICAL-05-02;
    bVERTICAL-05-03;bVERTICAL-05-04;bVERTICAL-05-05;bVERTICAL-05-06;bVERTICAL-06-00;
    bVERTICAL-06-01;bVERTICAL-06-02;bVERTICAL-06-03;bVERTICAL-06-04;bVERTICAL-06-05;
    bVERTICAL-06-06"⟩,
  ⟨0x1f0a0,
   "PLAYING CARD BACK;bACE OF SPADES;bTWO OF SPADES;bTHREE OF SPADES;bFOUR OF SPADES;
    bFIVE OF SPADES;bSIX OF SPADES;bSEVEN OF SPADES;bEIGHT OF SPADES;bNINE OF SPADES;
    bTEN OF SPADES;bJACK OF SPADES;bKNIGHT OF SPADES;bQUEEN OF SPADES;bKING OF SPADES"⟩,
  ⟨0x1f0b1,
   "PLAYING CARD ACE OF HEARTS;bTWO OF HEARTS;bTHREE OF HEARTS;bFOUR OF HEARTS;bFIVE OF HEARTS;
    bSIX OF HEARTS;bSEVEN OF HEARTS;bEIGHT OF HEARTS;bNINE OF HEARTS;bTEN OF HEARTS;
    bJACK OF HEARTS;bKNIGHT OF HEARTS;bQUEEN OF HEARTS;bKING OF HEARTS;bRED JOKER"⟩,
  ⟨0x1f0c1,
   "PLAYING CARD ACE OF DIAMONDS;bTWO OF DIAMONDS;bTHREE OF DIAMONDS;bFOUR OF DIAMONDS;
    bFIVE OF DIAMONDS;bSIX OF DIAMONDS;bSEVEN OF DIAMONDS;bEIGHT OF DIAMONDS;bNINE OF DIAMONDS;
    bTEN OF DIAMONDS;bJACK OF DIAMONDS;bKNIGHT OF DIAMONDS;bQUEEN OF DIAMONDS;bKING OF DIAMONDS;
    bBLACK JOKER"⟩,
  ⟨0x1f0d1,
   "PLAYING CARD ACE OF CLUBS;bTWO OF CLUBS;bTHREE OF CLUBS;bFOUR OF CLUBS;bFIVE OF CLUBS;
    bSIX OF CLUBS;bSEVEN OF CLUBS;bEIGHT OF CLUBS;bNINE OF CLUBS;bTEN OF CLUBS;bJACK OF CLUBS;
    bKNIGHT OF CLUBS;bQUEEN OF CLUBS;bKING OF CLUBS;bWHITE JOKER;bFOOL;bTRUMP-1;bTRUMP-2;
    bTRUMP-3;bTRUMP-4;bTRUMP-5;bTRUMP-6;bTRUMP-7;bTRUMP-8;bTRUMP-9;bTRUMP-10;bTRUMP-11;bTRUMP-12;
    bTRUMP-13;bTRUMP-14;bTRUMP-15;bTRUMP-16;bTRUMP-17;bTRUMP-18;bTRUMP-19;bTRUMP-20;bTRUMP-21"⟩,
  ⟨0x1f100,
   "DIGIT ZERO FULL STOP;bCOMMA;aONE COMMA;aTWO COMMA;aTHREE COMMA;aFOUR COMMA;aFIVE COMMA;
    aSIX COMMA;aSEVEN COMMA;aEIGHT COMMA;aNINE COMMA;DINGBAT CIRCLED SANS-SERIF DIGIT ZERO;
    aNEGATIVE CIRCLED SANS-SERIF DIGIT ZERO;CIRCLED ZERO WITH SLASH;aANTICLOCKWISE ARROW;
    aDOLLAR SIGN WITH OVERLAID BACKSLASH;PARENTHESIZED LATIN CAPITAL LETTER A;dB;dC;dD;dE;dF;dG;
    dH;dI;dJ;dK;dL;dM;dN;dO;dP;dQ;dR;dS;dT;dU;dV;dW;dX;dY;dZ;
    TORTOISE SHELL BRACKETED LATIN CAPITAL LETTER S;CIRCLED ITALIC LATIN CAPITAL LETTER C;eR;aCD;
    aWZ;COPYLEFT SYMBOL;SQUARED LATIN CAPITAL LETTER A;dB;dC;dD;dE;dF;dG;dH;dI;dJ;dK;dL;dM;dN;dO;
    dP;dQ;dR;dS;dT;dU;dV;dW;dX;dY;dZ;aHV;aMV;aSD;aSS;aPPV;aWC;
    NEGATIVE CIRCLED LATIN CAPITAL LETTER A;eB;eC;eD;eE;eF;eG;eH;eI;eJ;eK;eL;eM;eN;eO;eP;eQ;eR;
    eS;eT;eU;eV;eW;eX;eY;eZ;RAISED MC SIGN;aMD SIGN;aMR SIGN;CIRCLED CC;
    aC WITH OVERLAID BACKSLASH;aHUMAN FIGURE;NEGATIVE SQUARED LATIN CAPITAL LETTER A;eB;eC;eD;eE;
    eF;eG;eH;eI;eJ;eK;eL;eM;eN;eO;eP;eQ;eR;eS;eT;eU;eV;eW;eX;eY;eZ;
    CROSSED NEGATIVE SQUARED LATIN CAPITAL LETTER P;NEGATIVE SQUARED IC;bPA;bSA;bAB;bWC;
    SQUARE DJ;SQUARED CL;aCOOL;aFREE;aID;aNEW;aNG;aOK;aSOS;aUP WITH EXCLAMATION MARK;aVS;
    aTHREE D;aSECOND SCREEN;aTWO K;aFOUR K;aEIGHT K;aFIVE POINT ONE;aSEVEN POINT ONE;
    aTWENTY-TWO POINT TWO;aSIXTY P;aONE HUNDRED TWENTY P;aLATIN SMALL LETTER D;aHC;aHDR;aHI-RES;
    aLOSSLESS;aSHV;aUHD;aVOD;MASK WORK SYMBOL"⟩,
  ⟨0x1f1e6,
   "REGIONAL INDICATOR SYMBOL LETTER A;dB;dC;dD;dE;dF;dG;dH;dI;dJ;dK;dL;dM;dN;dO;dP;dQ;dR;dS;dT;
    dU;dV;dW;dX;dY;dZ"⟩,
  ⟨0x1f200, "SQUARE HIRAGANA HOKA;SQUARED KATAKANA KOKO;bSA"⟩,
  ⟨0x1f210,
   "SQUARED CJK UNIFIED IDEOGRAPH-624B;cIDEOGRAPH-5B57;cIDEOGRAPH-53CC;aKATAKANA DE;
    aCJK UNIFIED IDEOGRAPH-4E8C;cIDEOGRAPH-591A;cIDEOGRAPH-89E3;cIDEOGRAPH-5929;cIDEOGRAPH-4EA4;
    cIDEOGRAPH-6620;cIDEOGRAPH-7121;cIDEOGRAPH-6599;cIDEOGRAPH-524D;cIDEOGRAPH-5F8C;
    cIDEOGRAPH-518D;cIDEOGRAPH-65B0;cIDEOGRAPH-521D;cIDEOGRAPH-7D42;cIDEOGRAPH-751F;
    cIDEOGRAPH-8CA9;cIDEOGRAPH-58F0;cIDEOGRAPH-5439;cIDEOGRAPH-6F14;cIDEOGRAPH-6295;
    cIDEOGRAPH-6355;cIDEOGRAPH-4E00;cIDEOGRAPH-4E09;cIDEOGRAPH-904A;cIDEOGRAPH-5DE6;
    cIDEOGRAPH-4E2D;cIDEOGRAPH-53F3;cIDEOGRAPH-6307;cIDEOGRAPH-8D70;cIDEOGRAPH-6253;
    cIDEOGRAPH-7981;cIDEOGRAPH-7A7A;cIDEOGRAPH-5408;cIDEOGRAPH-6E80;cIDEOGRAPH-6709;
    cIDEOGRAPH-6708;cIDEOGRAPH-7533;cIDEOGRAPH-5272;cIDEOGRAPH-55B6;cIDEOGRAPH-914D"⟩,
  ⟨0x1f240,
   "TORTOISE SHELL BRACKETED CJK UNIFIED IDEOGRAPH-672C;eIDEOGRAPH-4E09;eIDEOGRAPH-4E8C;
    eIDEOGRAPH-5B89;eIDEOGRAPH-70B9;eIDEOGRAPH-6253;eIDEOGRAPH-76D7;eIDEOGRAPH-52DD;
    eIDEOGRAPH-6557"⟩,
  ⟨0x1f250, "CIRCLED IDEOGRAPH ADVANTAGE;bACCEPT"⟩,
  ⟨0x1f260, "ROUNDED SYMBOL FOR FU;cLU;cSHOU;cXI;cSHUANGXI;cCAI"⟩,
  ⟨0x1f300,
   "CYCLONE;FOGGY;CLOSED UMBRELLA;NIGHT WITH STARS;SUNRISE OVER MOUNTAINS;a;CITYSCAPE AT DUSK;
    SUNSET OVER BUILDINGS;RAINBOW;BRIDGE AT NIGHT;WATER WAVE;VOLCANO;MILKY WAY;
    EARTH GLOBE EUROPE-AFRICA;bAMERICAS;bASIA-AUSTRALIA;GLOBE WITH MERIDIANS;NEW MOON SYMBOL;
    WAXING CRESCENT MOON SYMBOL;FIRST QUARTER MOON SYMBOL;WAXING GIBBOUS MOON SYMBOL;
    FULL MOON SYMBOL;WANING GIBBOUS MOON SYMBOL;LAST QUARTER MOON SYMBOL;
    WANING CRESCENT MOON SYMBOL;CRESCENT MOON;NEW MOON WITH FACE;FIRST QUARTER MOON WITH FACE;
    LAST QUARTER MOON WITH FACE;FULL MOON WITH FACE;SUN WITH FACE;GLOWING STAR;SHOOTING STAR;
    THERMOMETER;BLACK DROPLET;WHITE SUN;bWITH SMALL CLOUD;bBEHIND CLOUD;dWITH RAIN;
    CLOUD WITH RAIN;bSNOW;bLIGHTNING;bTORNADO;FOG;WIND BLOWING FACE;HOT DOG;TACO;BURRITO;
    CHESTNUT;SEEDLING;EVERGREEN TREE;DECIDUOUS TREE;PALM TREE;CACTUS;HOT PEPPER;TULIP;
    CHERRY BLOSSOM;ROSE;HIBISCUS;SUNFLOWER;BLOSSOM;EAR OF MAIZE;bRICE;HERB;FOUR LEAF CLOVER;
    MAPLE LEAF;FALLEN LEAF;LEAF FLUTTERING IN WIND;MUSHROOM;TOMATO;AUBERGINE;GRAPES;MELON;
    WATERMELON;TANGERINE;LEMON;BANANA;PINEAPPLE;RED APPLE;GREEN APPLE;PEAR;PEACH;CHERRIES;
    STRAWBERRY;HAMBURGER;SLICE OF PIZZA;MEAT ON BONE;POULTRY LEG;RICE CRACKER;aBALL;COOKED RICE;
    CURRY AND RICE;STEAMING BOWL;SPAGHETTI;BREAD;FRENCH FRIES;ROASTED SWEET POTATO;DANGO;ODEN;
    SUSHI;FRIED SHRIMP;FISH CAKE WITH SWIRL DESIGN;SOFT ICE CREAM;SHAVED ICE;ICE CREAM;DOUGHNUT;
    COOKIE;CHOCOLATE BAR;CANDY;LOLLIPOP;CUSTARD;HONEY POT;SHORTCAKE;BENTO BOX;POT OF FOOD;
    COOKING;FORK AND KNIFE;TEACUP WITHOUT HANDLE;SAKE BOTTLE AND CUP;WINE GLASS;COCKTAIL GLASS;
    TROPICAL DRINK;BEER MUG;CLINKING BEER MUGS;BABY BOTTLE;FORK AND KNIFE WITH PLATE;
    BOTTLE WITH POPPING CORK;POPCORN;RIBBON;WRAPPED PRESENT;BIRTHDAY CAKE;JACK-O-LANTERN;
    CHRISTMAS TREE;FATHER CHRISTMAS;FIREWORKS;FIREWORK SPARKLER;BALLOON;PARTY POPPER;
    CONFETTI BALL;TANABATA TREE;CROSSED FLAGS;PINE DECORATION;JAPANESE DOLLS;CARP STREAMER;
    WIND CHIME;MOON VIEWING CEREMONY;SCHOOL SATCHEL;GRADUATION CAP;HEART WITH TIP ON THE LEFT;
    BOUQUET OF FLOWERS;MILITARY MEDAL;REMINDER RIBBON;MUSICAL KEYBOARD WITH JACKS;
    STUDIO MICROPHONE;LEVEL SLIDER;CONTROL KNOBS;BEAMED ASCENDING MUSICAL NOTES;
    aDESCENDING MUSICAL NOTES;FILM FRAMES;ADMISSION TICKETS;CAROUSEL HORSE;FERRIS WHEEL;
    ROLLER COASTER;FISHING POLE AND FISH;MICROPHONE;MOVIE CAMERA;CINEMA;HEADPHONE;ARTIST PALETTE;
    TOP HAT;CIRCUS TENT;TICKET;CLAPPER BOARD;PERFORMING ARTS;VIDEO GAME;DIRECT HIT;SLOT MACHINE;
    BILLIARDS;GAME DIE;BOWLING;FLOWER PLAYING CARDS;MUSICAL NOTE;MULTIPLE MUSICAL NOTES;
    SAXOPHONE;GUITAR;MUSICAL KEYBOARD;TRUMPET;VIOLIN;MUSICAL SCORE;RUNNING SHIRT WITH SASH;
    TENNIS RACQUET AND BALL;SKI AND SKI BOOT;BASKETBALL AND HOOP;CHEQUERED FLAG;SNOWBOARDER;
    RUNNER;SURFER;SPORTS MEDAL;TROPHY;HORSE RACING;AMERICAN FOOTBALL;RUGBY FOOTBALL;SWIMMER;
    WEIGHT LIFTER;GOLFER;RACING MOTORCYCLE;aCAR;CRICKET BAT AND BALL;VOLLEYBALL;
    FIELD HOCKEY STICK AND BALL;ICE HOCKEY STICK AND PUCK;TABLE TENNIS PADDLE AND BALL;
    SNOW CAPPED MOUNTAIN;CAMPING;BEACH WITH UMBRELLA;BUILDING CONSTRUCTION;HOUSE BUILDINGS;
    CITYSCAPE;DERELICT HOUSE BUILDING;CLASSICAL BUILDING;DESERT;aISLAND;NATIONAL PARK;STADIUM;
    HOUSE BUILDING;aWITH GARDEN;OFFICE BUILDING;JAPANESE POST OFFICE;EUROPEAN POST OFFICE;
    HOSPITAL;BANK;AUTOMATED TELLER MACHINE;HOTEL;LOVE HOTEL;CONVENIENCE STORE;SCHOOL;
    DEPARTMENT STORE;FACTORY;IZAKAYA LANTERN;JAPANESE CASTLE;EUROPEAN CASTLE;WHITE PENNANT;
    BLACK PENNANT;WAVING WHITE FLAG;aBLACK FLAG;ROSETTE;BLACK ROSETTE;LABEL;
    BADMINTON RACQUET AND SHUTTLECOCK;BOW AND ARROW;AMPHORA;EMOJI MODIFIER FITZPATRICK TYPE-1-2;
    cTYPE-3;cTYPE-4;cTYPE-5;cTYPE-6"⟩,
  ⟨0x1f400,
   "RAT;MOUSE;OX;WATER BUFFALO;COW;TIGER;LEOPARD;RABBIT;CAT;DRAGON;CROCODILE;WHALE;SNAIL;SNAKE;
    HORSE;RAM;GOAT;SHEEP;MONKEY;ROOSTER;CHICKEN;DOG;PIG;BOAR;ELEPHANT;OCTOPUS;SPIRAL SHELL;BUG;
    ANT;HONEYBEE;LADY BEETLE;FISH;TROPICAL FISH;BLOWFISH;TURTLE;HATCHING CHICK;BABY CHICK;
    FRONT-FACING BABY CHICK;BIRD;PENGUIN;KOALA;POODLE;DROMEDARY CAMEL;BACTRIAN CAMEL;DOLPHIN;
    MOUSE FACE;COW FACE;TIGER FACE;RABBIT FACE;CAT FACE;DRAGON FACE;SPOUTING WHALE;HORSE FACE;
    MONKEY FACE;DOG FACE;PIG FACE;FROG FACE;HAMSTER FACE;WOLF FACE;BEAR FACE;PANDA FACE;PIG NOSE;
    PAW PRINTS;CHIPMUNK;EYES;EYE;EAR;NOSE;MOUTH;TONGUE;WHITE UP POINTING BACKHAND INDEX;
    aDOWN POINTING BACKHAND INDEX;aLEFT POINTING BACKHAND INDEX;aRIGHT POINTING BACKHAND INDEX;
    FISTED HAND SIGN;WAVING HAND SIGN;OK HAND SIGN;THUMBS UP SIGN;aDOWN SIGN;CLAPPING HANDS SIGN;
    OPEN HANDS SIGN;CROWN;WOMANS HAT;EYEGLASSES;NECKTIE;T-SHIRT;JEANS;DRESS;KIMONO;BIKINI;
    WOMANS CLOTHES;PURSE;HANDBAG;POUCH;MANS SHOE;ATHLETIC SHOE;HIGH-HEELED SHOE;WOMANS SANDAL;
    aBOOTS;FOOTPRINTS;BUST IN SILHOUETTE;BUSTS IN SILHOUETTE;BOY;GIRL;MAN;WOMAN;FAMILY;
    MAN AND WOMAN HOLDING HANDS;TWO MEN HOLDING HANDS;aWOMEN HOLDING HANDS;POLICE OFFICER;
    WOMAN WITH BUNNY EARS;BRIDE WITH VEIL;PERSON WITH BLOND HAIR;MAN WITH GUA PI MAO;bTURBAN;
    OLDER MAN;aWOMAN;BABY;CONSTRUCTION WORKER;PRINCESS;JAPANESE OGRE;aGOBLIN;GHOST;BABY ANGEL;
    EXTRATERRESTRIAL ALIEN;ALIEN MONSTER;IMP;SKULL;INFORMATION DESK PERSON;GUARDSMAN;DANCER;
    LIPSTICK;NAIL POLISH;FACE MASSAGE;HAIRCUT;BARBER POLE;SYRINGE;PILL;KISS MARK;LOVE LETTER;
    RING;GEM STONE;KISS;BOUQUET;COUPLE WITH HEART;WEDDING;BEATING HEART;BROKEN HEART;TWO HEARTS;
    SPARKLING HEART;GROWING HEART;HEART WITH ARROW;BLUE HEART;GREEN HEART;YELLOW HEART;
    PURPLE HEART;HEART WITH RIBBON;REVOLVING HEARTS;HEART DECORATION;
    DIAMOND SHAPE WITH A DOT INSIDE;ELECTRIC LIGHT BULB;ANGER SYMBOL;BOMB;SLEEPING SYMBOL;
    COLLISION SYMBOL;SPLASHING SWEAT SYMBOL;DROPLET;DASH SYMBOL;PILE OF POO;FLEXED BICEPS;
    DIZZY SYMBOL;SPEECH BALLOON;THOUGHT BALLOON;WHITE FLOWER;HUNDRED POINTS SYMBOL;MONEY BAG;
    CURRENCY EXCHANGE;HEAVY DOLLAR SIGN;CREDIT CARD;BANKNOTE WITH YEN SIGN;bDOLLAR SIGN;
    bEURO SIGN;bPOUND SIGN;MONEY WITH WINGS;CHART WITH UPWARDS TREND AND YEN SIGN;SEAT;
    PERSONAL COMPUTER;BRIEFCASE;MINIDISC;FLOPPY DISK;OPTICAL DISC;DVD;FILE FOLDER;
    OPEN FILE FOLDER;PAGE WITH CURL;aFACING UP;CALENDAR;TEAR-OFF CALENDAR;CARD INDEX;
    CHART WITH UPWARDS TREND;bDOWNWARDS TREND;BAR CHART;CLIPBOARD;PUSHPIN;ROUND PUSHPIN;
    PAPERCLIP;STRAIGHT RULER;TRIANGULAR RULER;BOOKMARK TABS;LEDGER;NOTEBOOK;
    aWITH DECORATIVE COVER;CLOSED BOOK;OPEN BOOK;GREEN BOOK;BLUE BOOK;ORANGE BOOK;BOOKS;
    NAME BADGE;SCROLL;MEMO;TELEPHONE RECEIVER;PAGER;FAX MACHINE;SATELLITE ANTENNA;
    PUBLIC ADDRESS LOUDSPEAKER;CHEERING MEGAPHONE;OUTBOX TRAY;INBOX TRAY;PACKAGE;E-MAIL SYMBOL;
    INCOMING ENVELOPE;ENVELOPE WITH DOWNWARDS ARROW ABOVE;CLOSED MAILBOX WITH LOWERED FLAG;
    cRAISED FLAG;OPEN MAILBOX WITH RAISED FLAG;cLOWERED FLAG;POSTBOX;POSTAL HORN;NEWSPAPER;
    MOBILE PHONE;bWITH RIGHTWARDS ARROW AT LEFT;VIBRATION MODE;MOBILE PHONE OFF;NO MOBILE PHONES;
    ANTENNA WITH BARS;CAMERA;aWITH FLASH;VIDEO CAMERA;TELEVISION;RADIO;VIDEOCASSETTE;
    FILM PROJECTOR;PORTABLE STEREO;PRAYER BEADS"⟩,
  ⟨0x1f500,
   "TWISTED RIGHTWARDS ARROWS;CLOCKWISE RIGHTWARDS AND LEFTWARDS OPEN CIRCLE ARROWS;
    gWITH CIRCLED ONE OVERLAY;aDOWNWARDS AND UPWARDS OPEN CIRCLE ARROWS;
    ANTICLOCKWISE DOWNWARDS AND UPWARDS OPEN CIRCLE ARROWS;LOW BRIGHTNESS SYMBOL;
    HIGH BRIGHTNESS SYMBOL;SPEAKER WITH CANCELLATION STROKE;a;aWITH ONE SOUND WAVE;
    bTHREE SOUND WAVES;BATTERY;ELECTRIC PLUG;LEFT-POINTING MAGNIFYING GLASS;
    RIGHT-POINTING MAGNIFYING GLASS;LOCK WITH INK PEN;CLOSED LOCK WITH KEY;KEY;LOCK;OPEN LOCK;
    BELL;aWITH CANCELLATION STROKE;BOOKMARK;LINK SYMBOL;RADIO BUTTON;
    BACK WITH LEFTWARDS ARROW ABOVE;END WITH LEFTWARDS ARROW ABOVE;
    ON WITH EXCLAMATION MARK WITH LEFT RIGHT ARROW ABOVE;SOON WITH RIGHTWARDS ARROW ABOVE;
    TOP WITH UPWARDS ARROW ABOVE;NO ONE UNDER EIGHTEEN SYMBOL;KEYCAP TEN;
    INPUT SYMBOL FOR LATIN CAPITAL LETTERS;dSMALL LETTERS;cNUMBERS;cSYMBOLS;cLATIN LETTERS;FIRE;
    ELECTRIC TORCH;WRENCH;HAMMER;NUT AND BOLT;HOCHO;PISTOL;MICROSCOPE;TELESCOPE;CRYSTAL BALL;
    SIX POINTED STAR WITH MIDDLE DOT;JAPANESE SYMBOL FOR BEGINNER;TRIDENT EMBLEM;
    BLACK SQUARE BUTTON;WHITE SQUARE BUTTON;LARGE RED CIRCLE;aBLUE CIRCLE;aORANGE DIAMOND;
    aBLUE DIAMOND;SMALL ORANGE DIAMOND;aBLUE DIAMOND;UP-POINTING RED TRIANGLE;
    DOWN-POINTING RED TRIANGLE;UP-POINTING SMALL RED TRIANGLE;DOWN-POINTING SMALL RED TRIANGLE;
    LOWER RIGHT SHADOWED WHITE CIRCLE;UPPER RIGHT SHADOWED WHITE CIRCLE;CIRCLED CROSS POMMEE;
    CROSS POMMEE WITH HALF-CIRCLE BELOW;b;NOTCHED LEFT SEMICIRCLE WITH THREE DOTS;
    aRIGHT SEMICIRCLE WITH THREE DOTS;SYMBOL FOR MARKS CHAPTER;WHITE LATIN CROSS;
    HEAVY LATIN CROSS;CELTIC CROSS;OM SYMBOL;DOVE OF PEACE;KAABA;MOSQUE;SYNAGOGUE;
    MENORAH WITH NINE BRANCHES;BOWL OF HYGIEIA;CLOCK FACE ONE OCLOCK;bTWO OCLOCK;bTHREE OCLOCK;
    bFOUR OCLOCK;bFIVE OCLOCK;bSIX OCLOCK;bSEVEN OCLOCK;bEIGHT OCLOCK;bNINE OCLOCK;bTEN OCLOCK;
    bELEVEN OCLOCK;bTWELVE OCLOCK;bONE-THIRTY;bTWO-THIRTY;bTHREE-THIRTY;bFOUR-THIRTY;
    bFIVE-THIRTY;bSIX-THIRTY;bSEVEN-THIRTY;bEIGHT-THIRTY;bNINE-THIRTY;bTEN-THIRTY;bELEVEN-THIRTY;
    bTWELVE-THIRTY;RIGHT SPEAKER;bWITH ONE SOUND WAVE;cTHREE SOUND WAVES;BULLHORN;
    aWITH SOUND WAVES;RINGING BELL;BOOK;CANDLE;MANTELPIECE CLOCK;BLACK SKULL AND CROSSBONES;
    NO PIRACY;HOLE;MAN IN BUSINESS SUIT LEVITATING;SLEUTH OR SPY;DARK SUNGLASSES;SPIDER;aWEB;
    JOYSTICK;MAN DANCING;LEFT HAND TELEPHONE RECEIVER;TELEPHONE RECEIVER WITH PAGE;
    RIGHT HAND TELEPHONE RECEIVER;WHITE TOUCHTONE TELEPHONE;BLACK TOUCHTONE TELEPHONE;
    TELEPHONE ON TOP OF MODEM;CLAMSHELL MOBILE PHONE;BACK OF ENVELOPE;STAMPED ENVELOPE;
    ENVELOPE WITH LIGHTNING;FLYING ENVELOPE;PEN OVER STAMPED ENVELOPE;LINKED PAPERCLIPS;
    BLACK PUSHPIN;LOWER LEFT PENCIL;bBALLPOINT PEN;bFOUNTAIN PEN;bPAINTBRUSH;bCRAYON;
    LEFT WRITING HAND;TURNED OK HAND SIGN;RAISED HAND WITH FINGERS SPLAYED;
    REVERSED RAISED HAND WITH FINGERS SPLAYED;aTHUMBS UP SIGN;bDOWN SIGN;aVICTORY HAND;
    aHAND WITH MIDDLE FINGER EXTENDED;RAISED HAND WITH PART BETWEEN MIDDLE AND RING FINGERS;
    WHITE DOWN POINTING LEFT HAND INDEX;SIDEWAYS WHITE LEFT POINTING INDEX;bRIGHT POINTING INDEX;
    aBLACK LEFT POINTING INDEX;bRIGHT POINTING INDEX;BLACK LEFT POINTING BACKHAND INDEX;
    aRIGHT POINTING BACKHAND INDEX;SIDEWAYS WHITE UP POINTING INDEX;bDOWN POINTING INDEX;
    aBLACK UP POINTING INDEX;bDOWN POINTING INDEX;BLACK UP POINTING BACKHAND INDEX;
    aDOWN POINTING BACKHAND INDEX;aHEART;DESKTOP COMPUTER;KEYBOARD AND MOUSE;
    THREE NETWORKED COMPUTERS;PRINTER;POCKET CALCULATOR;BLACK HARD SHELL FLOPPY DISK;
    WHITE HARD SHELL FLOPPY DISK;SOFT SHELL FLOPPY DISK;TAPE CARTRIDGE;WIRED KEYBOARD;
    ONE BUTTON MOUSE;TWO BUTTON MOUSE;THREE BUTTON MOUSE;TRACKBALL;OLD PERSONAL COMPUTER;
    HARD DISK;SCREEN;PRINTER ICON;FAX ICON;OPTICAL DISC ICON;DOCUMENT WITH TEXT;cAND PICTURE;
    bPICTURE;FRAME WITH PICTURE;bTILES;bAN X;BLACK FOLDER;FOLDER;OPEN FOLDER;CARD INDEX DIVIDERS;
    aFILE BOX;FILE CABINET;EMPTY NOTE;bPAGE;bPAD;NOTE;aPAGE;aPAD;EMPTY DOCUMENT;aPAGE;aPAGES;
    DOCUMENT;PAGE;PAGES;WASTEBASKET;SPIRAL NOTE PAD;aCALENDAR PAD;DESKTOP WINDOW;MINIMIZE;
    MAXIMIZE;OVERLAP;CLOCKWISE RIGHT AND LEFT SEMICIRCLE ARROWS;CANCELLATION X;
    INCREASE FONT SIZE SYMBOL;DECREASE FONT SIZE SYMBOL;COMPRESSION;OLD KEY;ROLLED-UP NEWSPAPER;
    PAGE WITH CIRCLED TEXT;STOCK CHART;DAGGER KNIFE;LIPS;SPEAKING HEAD IN SILHOUETTE;
    THREE RAYS ABOVE;bBELOW;bLEFT;bRIGHT;LEFT SPEECH BUBBLE;RIGHT SPEECH BUBBLE;
    TWO SPEECH BUBBLES;THREE SPEECH BUBBLES;LEFT THOUGHT BUBBLE;RIGHT THOUGHT BUBBLE;
    LEFT ANGER BUBBLE;RIGHT ANGER BUBBLE;MOOD BUBBLE;LIGHTNING MOOD BUBBLE;b;
    BALLOT BOX WITH BALLOT;aSCRIPT X;aBOX WITH SCRIPT X;aBOLD SCRIPT X;aBOX WITH BOLD SCRIPT X;
    LIGHT CHECK MARK;BALLOT BOX WITH BOLD CHECK;WORLD MAP;MOUNT FUJI;TOKYO TOWER;
    STATUE OF LIBERTY;SILHOUETTE OF JAPAN;MOYAI"⟩,
  ⟨0x1f600,
   "GRINNING FACE;bWITH SMILING EYES;FACE WITH TEARS OF JOY;SMILING FACE WITH OPEN MOUTH;
    eAND SMILING EYES;fCOLD SWEAT;fTIGHTLY-CLOSED EYES;cHALO;cHORNS;WINKING FACE;
    SMILING FACE WITH SMILING EYES;FACE SAVOURING DELICIOUS FOOD;RELIEVED FACE;
    SMILING FACE WITH HEART-SHAPED EYES;cSUNGLASSES;SMIRKING FACE;NEUTRAL FACE;
    EXPRESSIONLESS FACE;UNAMUSED FACE;FACE WITH COLD SWEAT;PENSIVE FACE;CONFUSED FACE;
    CONFOUNDED FACE;KISSING FACE;FACE THROWING A KISS;KISSING FACE WITH SMILING EYES;
    cCLOSED EYES;FACE WITH STUCK-OUT TONGUE;dAND WINKING EYE;eTIGHTLY-CLOSED EYES;
    DISAPPOINTED FACE;WORRIED FACE;ANGRY FACE;POUTING FACE;CRYING FACE;PERSEVERING FACE;
    FACE WITH LOOK OF TRIUMPH;DISAPPOINTED BUT RELIEVED FACE;FROWNING FACE WITH OPEN MOUTH;
    ANGUISHED FACE;FEARFUL FACE;WEARY FACE;SLEEPY FACE;TIRED FACE;GRIMACING FACE;
    LOUDLY CRYING FACE;FACE WITH OPEN MOUTH;HUSHED FACE;FACE WITH OPEN MOUTH AND COLD SWEAT;
    aSCREAMING IN FEAR;ASTONISHED FACE;FLUSHED FACE;SLEEPING FACE;DIZZY FACE;FACE WITHOUT MOUTH;
    aWITH MEDICAL MASK;GRINNING CAT FACE WITH SMILING EYES;CAT FACE WITH TEARS OF JOY;
    SMILING CAT FACE WITH OPEN MOUTH;dHEART-SHAPED EYES;CAT FACE WITH WRY SMILE;
    KISSING CAT FACE WITH CLOSED EYES;POUTING CAT FACE;CRYING CAT FACE;WEARY CAT FACE;
    SLIGHTLY FROWNING FACE;aSMILING FACE;UPSIDE-DOWN FACE;FACE WITH ROLLING EYES;
    bNO GOOD GESTURE;bOK GESTURE;PERSON BOWING DEEPLY;SEE-NO-EVIL MONKEY;HEAR-NO-EVIL MONKEY;
    SPEAK-NO-EVIL MONKEY;HAPPY PERSON RAISING ONE HAND;PERSON RAISING BOTH HANDS IN CELEBRATION;
    aFROWNING;aWITH POUTING FACE;bFOLDED HANDS;NORTH WEST POINTING LEAF;SOUTH WEST POINTING LEAF;
    NORTH EAST POINTING LEAF;SOUTH EAST POINTING LEAF;TURNED NORTH WEST POINTING LEAF;
    aSOUTH WEST POINTING LEAF;aNORTH EAST POINTING LEAF;aSOUTH EAST POINTING LEAF;
    NORTH WEST POINTING VINE LEAF;SOUTH WEST POINTING VINE LEAF;NORTH EAST POINTING VINE LEAF;
    SOUTH EAST POINTING VINE LEAF;HEAVY NORTH WEST POINTING VINE LEAF;
    aSOUTH WEST POINTING VINE LEAF;aNORTH EAST POINTING VINE LEAF;aSOUTH EAST POINTING VINE LEAF;
    NORTH WEST POINTING BUD;SOUTH WEST POINTING BUD;NORTH EAST POINTING BUD;
    SOUTH EAST POINTING BUD;HEAVY NORTH WEST POINTING BUD;aSOUTH WEST POINTING BUD;
    aNORTH EAST POINTING BUD;aSOUTH EAST POINTING BUD;HOLLOW QUILT SQUARE ORNAMENT;
    dIN BLACK SQUARE;SOLID QUILT SQUARE ORNAMENT;dIN BLACK SQUARE;LEFTWARDS ROCKET;
    UPWARDS ROCKET;RIGHTWARDS ROCKET;DOWNWARDS ROCKET;SCRIPT LIGATURE ET ORNAMENT;
    HEAVY SCRIPT LIGATURE ET ORNAMENT;LIGATURE OPEN ET ORNAMENT;HEAVY LIGATURE OPEN ET ORNAMENT;
    aAMPERSAND ORNAMENT;SWASH AMPERSAND ORNAMENT;
    SANS-SERIF HEAVY DOUBLE TURNED COMMA QUOTATION MARK ORNAMENT;cCOMMA QUOTATION MARK ORNAMENT;
    bLOW DOUBLE COMMA QUOTATION MARK ORNAMENT;HEAVY INTERROBANG ORNAMENT;
    SANS-SERIF INTERROBANG ORNAMENT;HEAVY SANS-SERIF INTERROBANG ORNAMENT;VERY HEAVY SOLIDUS;
    bREVERSE SOLIDUS;CHECKER BOARD;REVERSE CHECKER BOARD;ROCKET;HELICOPTER;STEAM LOCOMOTIVE;
    RAILWAY CAR;HIGH-SPEED TRAIN;bWITH BULLET NOSE;TRAIN;METRO;LIGHT RAIL;STATION;TRAM;aCAR;BUS;
    ONCOMING BUS;TROLLEYBUS;BUS STOP;MINIBUS;AMBULANCE;FIRE ENGINE;POLICE CAR;
    ONCOMING POLICE CAR;TAXI;ONCOMING TAXI;AUTOMOBILE;ONCOMING AUTOMOBILE;RECREATIONAL VEHICLE;
    DELIVERY TRUCK;ARTICULATED LORRY;TRACTOR;MONORAIL;MOUNTAIN RAILWAY;SUSPENSION RAILWAY;
    MOUNTAIN CABLEWAY;AERIAL TRAMWAY;SHIP;ROWBOAT;SPEEDBOAT;HORIZONTAL TRAFFIC LIGHT;
    VERTICAL TRAFFIC LIGHT;CONSTRUCTION SIGN;POLICE CARS REVOLVING LIGHT;TRIANGULAR FLAG ON POST;
    DOOR;NO ENTRY SIGN;SMOKING SYMBOL;NO SMOKING SYMBOL;PUT LITTER IN ITS PLACE SYMBOL;
    DO NOT LITTER SYMBOL;POTABLE WATER SYMBOL;NON-POTABLE WATER SYMBOL;BICYCLE;NO BICYCLES;
    BICYCLIST;MOUNTAIN BICYCLIST;PEDESTRIAN;NO PEDESTRIANS;CHILDREN CROSSING;MENS SYMBOL;
    WOMENS SYMBOL;RESTROOM;BABY SYMBOL;TOILET;WATER CLOSET;SHOWER;BATH;BATHTUB;PASSPORT CONTROL;
    CUSTOMS;BAGGAGE CLAIM;LEFT LUGGAGE;TRIANGLE WITH ROUNDED CORNERS;PROHIBITED SIGN;
    CIRCLED INFORMATION SOURCE;BOYS SYMBOL;GIRLS SYMBOL;COUCH AND LAMP;SLEEPING ACCOMMODATION;
    SHOPPING BAGS;BELLHOP BELL;BED;PLACE OF WORSHIP;OCTAGONAL SIGN;SHOPPING TROLLEY;STUPA;PAGODA;
    HINDU TEMPLE;HUT;ELEVATOR"⟩,
  ⟨0x1f6dd,
   "PLAYGROUND SLIDE;WHEEL;RING BUOY;HAMMER AND WRENCH;SHIELD;OIL DRUM;MOTORWAY;RAILWAY TRACK;
    MOTOR BOAT;UP-POINTING MILITARY AIRPLANE;aAIRPLANE;aSMALL AIRPLANE;SMALL AIRPLANE;
    NORTHEAST-POINTING AIRPLANE;AIRPLANE DEPARTURE;aARRIVING"⟩,
  ⟨0x1f6f0,
   "SATELLITE;ONCOMING FIRE ENGINE;DIESEL LOCOMOTIVE;PASSENGER SHIP;SCOOTER;MOTOR SCOOTER;CANOE;
    SLED;FLYING SAUCER;SKATEBOARD;AUTO RICKSHAW;PICKUP TRUCK;ROLLER SKATE"⟩,
  ⟨0x1f700,
   "ALCHEMICAL SYMBOL FOR QUINTESSENCE;cAIR;cFIRE;cEARTH;cWATER;cAQUAFORTIS;cAQUA REGIA;dREGIA-2;
    dVITAE;dVITAE-2;cVINEGAR;cVINEGAR-2;cVINEGAR-3;cSULFUR;cPHILOSOPHERS SULFUR;cBLACK SULFUR;
    cMERCURY SUBLIMATE;dSUBLIMATE-2;dSUBLIMATE-3;cCINNABAR;cSALT;cNITRE;cVITRIOL;cVITRIOL-2;
    cROCK SALT;dSALT-2;cGOLD;cSILVER;cIRON ORE;dORE-2;cCROCUS OF IRON;cREGULUS OF IRON;
    cCOPPER ORE;cIRON-COPPER ORE;cSUBLIMATE OF COPPER;cCROCUS OF COPPER;eCOPPER-2;
    cCOPPER ANTIMONIATE;cSALT OF COPPER ANTIMONIATE;cSUBLIMATE OF SALT OF COPPER;cVERDIGRIS;
    cTIN ORE;cLEAD ORE;cANTIMONY ORE;cSUBLIMATE OF ANTIMONY;cSALT OF ANTIMONY;
    cSUBLIMATE OF SALT OF ANTIMONY;cVINEGAR OF ANTIMONY;cREGULUS OF ANTIMONY;eANTIMONY-2;d;
    cREGULUS-2;cREGULUS-3;cREGULUS-4;cALKALI;cALKALI-2;cMARCASITE;cSAL-AMMONIAC;cARSENIC;
    cREALGAR;cREALGAR-2;cAURIPIGMENT;cBISMUTH ORE;cTARTAR;cTARTAR-2;cQUICK LIME;cBORAX;cBORAX-2;
    cBORAX-3;cALUM;cOIL;cSPIRIT;cTINCTURE;cGUM;cWAX;cPOWDER;cCALX;cTUTTY;cCAPUT MORTUUM;
    cSCEPTER OF JOVE;cCADUCEUS;cTRIDENT;cSTARRED TRIDENT;cLODESTONE;cSOAP;cURINE;cHORSE DUNG;
    cASHES;cPOT ASHES;cBRICK;cPOWDERED BRICK;cAMALGAM;cSTRATUM SUPER STRATUM;eSTRATUM-2;
    cSUBLIMATION;cPRECIPITATE;cDISTILL;cDISSOLVE;cDISSOLVE-2;cPURIFY;cPUTREFACTION;cCRUCIBLE;
    cCRUCIBLE-2;cCRUCIBLE-3;cCRUCIBLE-4;cCRUCIBLE-5;cALEMBIC;cBATH OF MARY;eVAPOURS;cRETORT;
    cHOUR;cNIGHT;cDAY-NIGHT;cMONTH;cHALF DRAM;dOUNCE"⟩,
  ⟨0x1f780,
   "BLACK LEFT-POINTING ISOSCELES RIGHT TRIANGLE;aUP-POINTING ISOSCELES RIGHT TRIANGLE;
    aRIGHT-POINTING ISOSCELES RIGHT TRIANGLE;aDOWN-POINTING ISOSCELES RIGHT TRIANGLE;
    aSLIGHTLY SMALL CIRCLE;MEDIUM BOLD WHITE CIRCLE;BOLD WHITE CIRCLE;HEAVY WHITE CIRCLE;
    VERY HEAVY WHITE CIRCLE;EXTREMELY HEAVY WHITE CIRCLE;
    WHITE CIRCLE CONTAINING BLACK SMALL CIRCLE;ROUND TARGET;BLACK TINY SQUARE;
    aSLIGHTLY SMALL SQUARE;LIGHT WHITE SQUARE;MEDIUM WHITE SQUARE;BOLD WHITE SQUARE;
    HEAVY WHITE SQUARE;VERY HEAVY WHITE SQUARE;EXTREMELY HEAVY WHITE SQUARE;
    WHITE SQUARE CONTAINING BLACK VERY SMALL SQUARE;dMEDIUM SQUARE;SQUARE TARGET;
    BLACK TINY DIAMOND;aVERY SMALL DIAMOND;aMEDIUM SMALL DIAMOND;
    WHITE DIAMOND CONTAINING BLACK VERY SMALL DIAMOND;dMEDIUM DIAMOND;DIAMOND TARGET;
    BLACK TINY LOZENGE;aVERY SMALL LOZENGE;aMEDIUM SMALL LOZENGE;
    WHITE LOZENGE CONTAINING BLACK SMALL LOZENGE;THIN GREEK CROSS;LIGHT GREEK CROSS;
    MEDIUM GREEK CROSS;BOLD GREEK CROSS;VERY BOLD GREEK CROSS;aHEAVY GREEK CROSS;
    EXTREMELY HEAVY GREEK CROSS;THIN SALTIRE;LIGHT SALTIRE;MEDIUM SALTIRE;BOLD SALTIRE;
    HEAVY SALTIRE;VERY HEAVY SALTIRE;EXTREMELY HEAVY SALTIRE;LIGHT FIVE SPOKED ASTERISK;
    MEDIUM FIVE SPOKED ASTERISK;BOLD FIVE SPOKED ASTERISK;HEAVY FIVE SPOKED ASTERISK;
    VERY HEAVY FIVE SPOKED ASTERISK;EXTREMELY HEAVY FIVE SPOKED ASTERISK;
    LIGHT SIX SPOKED ASTERISK;MEDIUM SIX SPOKED ASTERISK;BOLD SIX SPOKED ASTERISK;
    HEAVY SIX SPOKED ASTERISK;VERY HEAVY SIX SPOKED ASTERISK;EXTREMELY HEAVY SIX SPOKED ASTERISK;
    LIGHT EIGHT SPOKED ASTERISK;MEDIUM EIGHT SPOKED ASTERISK;BOLD EIGHT SPOKED ASTERISK;
    HEAVY EIGHT SPOKED ASTERISK;VERY HEAVY EIGHT SPOKED ASTERISK;LIGHT THREE POINTED BLACK STAR;
    MEDIUM THREE POINTED BLACK STAR;THREE POINTED BLACK STAR;MEDIUM THREE POINTED PINWHEEL STAR;
    LIGHT FOUR POINTED BLACK STAR;MEDIUM FOUR POINTED BLACK STAR;FOUR POINTED BLACK STAR;
    MEDIUM FOUR POINTED PINWHEEL STAR;REVERSE LIGHT FOUR POINTED PINWHEEL STAR;
    LIGHT FIVE POINTED BLACK STAR;HEAVY FIVE POINTED BLACK STAR;MEDIUM SIX POINTED BLACK STAR;
    HEAVY SIX POINTED BLACK STAR;SIX POINTED PINWHEEL STAR;MEDIUM EIGHT POINTED BLACK STAR;
    HEAVY EIGHT POINTED BLACK STAR;VERY HEAVY EIGHT POINTED BLACK STAR;
    HEAVY EIGHT POINTED PINWHEEL STAR;LIGHT TWELVE POINTED BLACK STAR;
    HEAVY TWELVE POINTED BLACK STAR;cPINWHEEL STAR;CIRCLED TRIANGLE;NEGATIVE CIRCLED TRIANGLE;
    CIRCLED SQUARE;NEGATIVE CIRCLED SQUARE"⟩,
  ⟨0x1f7e0,
   "LARGE ORANGE CIRCLE;aYELLOW CIRCLE;aGREEN CIRCLE;aPURPLE CIRCLE;aBROWN CIRCLE;aRED SQUARE;
    aBLUE SQUARE;aORANGE SQUARE;aYELLOW SQUARE;aGREEN SQUARE;aPURPLE SQUARE;aBROWN SQUARE"⟩,
  ⟨0x1f7f0, "HEAVY EQUALS SIGN"⟩,
  ⟨0x1f800,
   "LEFTWARDS ARROW WITH SMALL TRIANGLE ARROWHEAD;UPWARDS ARROW WITH SMALL TRIANGLE ARROWHEAD;
    RIGHTWARDS ARROW WITH SMALL TRIANGLE ARROWHEAD;DOWNWARDS ARROW WITH SMALL TRIANGLE ARROWHEAD;
    LEFTWARDS ARROW WITH MEDIUM TRIANGLE ARROWHEAD;UPWARDS ARROW WITH MEDIUM TRIANGLE ARROWHEAD;
    RIGHTWARDS ARROW WITH MEDIUM TRIANGLE ARROWHEAD;
    DOWNWARDS ARROW WITH MEDIUM TRIANGLE ARROWHEAD;LEFTWARDS ARROW WITH LARGE TRIANGLE ARROWHEAD;
    UPWARDS ARROW WITH LARGE TRIANGLE ARROWHEAD;RIGHTWARDS ARROW WITH LARGE TRIANGLE ARROWHEAD;
    DOWNWARDS ARROW WITH LARGE TRIANGLE ARROWHEAD"⟩,
  ⟨0x1f810,
   "LEFTWARDS ARROW WITH SMALL EQUILATERAL ARROWHEAD;
    UPWARDS ARROW WITH SMALL EQUILATERAL ARROWHEAD;
    RIGHTWARDS ARROW WITH SMALL EQUILATERAL ARROWHEAD;
    DOWNWARDS ARROW WITH SMALL EQUILATERAL ARROWHEAD;LEFTWARDS ARROW WITH EQUILATERAL ARROWHEAD;
    UPWARDS ARROW WITH EQUILATERAL ARROWHEAD;RIGHTWARDS ARROW WITH EQUILATERAL ARROWHEAD;
    DOWNWARDS ARROW WITH EQUILATERAL ARROWHEAD;HEAVY LEFTWARDS ARROW WITH EQUILATERAL ARROWHEAD;
    aUPWARDS ARROW WITH EQUILATERAL ARROWHEAD;aRIGHTWARDS ARROW WITH EQUILATERAL ARROWHEAD;
    aDOWNWARDS ARROW WITH EQUILATERAL ARROWHEAD;
    aLEFTWARDS ARROW WITH LARGE EQUILATERAL ARROWHEAD;
    aUPWARDS ARROW WITH LARGE EQUILATERAL ARROWHEAD;
    aRIGHTWARDS ARROW WITH LARGE EQUILATERAL ARROWHEAD;
    aDOWNWARDS ARROW WITH LARGE EQUILATERAL ARROWHEAD;
    LEFTWARDS TRIANGLE-HEADED ARROW WITH NARROW SHAFT;
    UPWARDS TRIANGLE-HEADED ARROW WITH NARROW SHAFT;
    RIGHTWARDS TRIANGLE-HEADED ARROW WITH NARROW SHAFT;
    DOWNWARDS TRIANGLE-HEADED ARROW WITH NARROW SHAFT;
    LEFTWARDS TRIANGLE-HEADED ARROW WITH MEDIUM SHAFT;
    UPWARDS TRIANGLE-HEADED ARROW WITH MEDIUM SHAFT;
    RIGHTWARDS TRIANGLE-HEADED ARROW WITH MEDIUM SHAFT;
    DOWNWARDS TRIANGLE-HEADED ARROW WITH MEDIUM SHAFT;
    LEFTWARDS TRIANGLE-HEADED ARROW WITH BOLD SHAFT;
    UPWARDS TRIANGLE-HEADED ARROW WITH BOLD SHAFT;
    RIGHTWARDS TRIANGLE-HEADED ARROW WITH BOLD SHAFT;
    DOWNWARDS TRIANGLE-HEADED ARROW WITH BOLD SHAFT;
    LEFTWARDS TRIANGLE-HEADED ARROW WITH HEAVY SHAFT;
    UPWARDS TRIANGLE-HEADED ARROW WITH HEAVY SHAFT;
    RIGHTWARDS TRIANGLE-HEADED ARROW WITH HEAVY SHAFT;
    DOWNWARDS TRIANGLE-HEADED ARROW WITH HEAVY SHAFT;
    LEFTWARDS TRIANGLE-HEADED ARROW WITH VERY HEAVY SHAFT;
    UPWARDS TRIANGLE-HEADED ARROW WITH VERY HEAVY SHAFT;
    RIGHTWARDS TRIANGLE-HEADED ARROW WITH VERY HEAVY SHAFT;
    DOWNWARDS TRIANGLE-HEADED ARROW WITH VERY HEAVY SHAFT;LEFTWARDS FINGER-POST ARROW;
    UPWARDS FINGER-POST ARROW;RIGHTWARDS FINGER-POST ARROW;DOWNWARDS FINGER-POST ARROW;
    LEFTWARDS SQUARED ARROW;UPWARDS SQUARED ARROW;RIGHTWARDS SQUARED ARROW;
    DOWNWARDS SQUARED ARROW;LEFTWARDS COMPRESSED ARROW;UPWARDS COMPRESSED ARROW;
    RIGHTWARDS COMPRESSED ARROW;DOWNWARDS COMPRESSED ARROW;LEFTWARDS HEAVY COMPRESSED ARROW;
    UPWARDS HEAVY COMPRESSED ARROW;RIGHTWARDS HEAVY COMPRESSED ARROW;
    DOWNWARDS HEAVY COMPRESSED ARROW;LEFTWARDS HEAVY ARROW;UPWARDS HEAVY ARROW;
    RIGHTWARDS HEAVY ARROW;DOWNWARDS HEAVY ARROW"⟩,
  ⟨0x1f850,
   "LEFTWARDS SANS-SERIF ARROW;UPWARDS SANS-SERIF ARROW;RIGHTWARDS SANS-SERIF ARROW;
    DOWNWARDS SANS-SERIF ARROW;NORTH WEST SANS-SERIF ARROW;aEAST SANS-SERIF ARROW;
    SOUTH EAST SANS-SERIF ARROW;aWEST SANS-SERIF ARROW;LEFT RIGHT SANS-SERIF ARROW;
    UP DOWN SANS-SERIF ARROW"⟩,
  ⟨0x1f860,
   "WIDE-HEADED LEFTWARDS LIGHT BARB ARROW;aUPWARDS LIGHT BARB ARROW;
    aRIGHTWARDS LIGHT BARB ARROW;aDOWNWARDS LIGHT BARB ARROW;aNORTH WEST LIGHT BARB ARROW;
    bEAST LIGHT BARB ARROW;aSOUTH EAST LIGHT BARB ARROW;bWEST LIGHT BARB ARROW;
    aLEFTWARDS BARB ARROW;aUPWARDS BARB ARROW;aRIGHTWARDS BARB ARROW;aDOWNWARDS BARB ARROW;
    aNORTH WEST BARB ARROW;bEAST BARB ARROW;aSOUTH EAST BARB ARROW;bWEST BARB ARROW;
    aLEFTWARDS MEDIUM BARB ARROW;aUPWARDS MEDIUM BARB ARROW;aRIGHTWARDS MEDIUM BARB ARROW;
    aDOWNWARDS MEDIUM BARB ARROW;aNORTH WEST MEDIUM BARB ARROW;bEAST MEDIUM BARB ARROW;
    aSOUTH EAST MEDIUM BARB ARROW;bWEST MEDIUM BARB ARROW;aLEFTWARDS HEAVY BARB ARROW;
    aUPWARDS HEAVY BARB ARROW;aRIGHTWARDS HEAVY BARB ARROW;aDOWNWARDS HEAVY BARB ARROW;
    aNORTH WEST HEAVY BARB ARROW;bEAST HEAVY BARB ARROW;aSOUTH EAST HEAVY BARB ARROW;
    bWEST HEAVY BARB ARROW;aLEFTWARDS VERY HEAVY BARB ARROW;aUPWARDS VERY HEAVY BARB ARROW;
    aRIGHTWARDS VERY HEAVY BARB ARROW;aDOWNWARDS VERY HEAVY BARB ARROW;
    aNORTH WEST VERY HEAVY BARB ARROW;bEAST VERY HEAVY BARB ARROW;
    aSOUTH EAST VERY HEAVY BARB ARROW;bWEST VERY HEAVY BARB ARROW"⟩,
  ⟨0x1f890,
   "LEFTWARDS TRIANGLE ARROWHEAD;UPWARDS TRIANGLE ARROWHEAD;RIGHTWARDS TRIANGLE ARROWHEAD;
    DOWNWARDS TRIANGLE ARROWHEAD;LEFTWARDS WHITE ARROW WITHIN TRIANGLE ARROWHEAD;
    UPWARDS WHITE ARROW WITHIN TRIANGLE ARROWHEAD;
    RIGHTWARDS WHITE ARROW WITHIN TRIANGLE ARROWHEAD;
    DOWNWARDS WHITE ARROW WITHIN TRIANGLE ARROWHEAD;LEFTWARDS ARROW WITH NOTCHED TAIL;
    UPWARDS ARROW WITH NOTCHED TAIL;RIGHTWARDS ARROW WITH NOTCHED TAIL;
    DOWNWARDS ARROW WITH NOTCHED TAIL;HEAVY ARROW SHAFT WIDTH ONE;dTWO THIRDS;dONE HALF;eTHIRD;
    LEFTWARDS BOTTOM-SHADED WHITE ARROW;RIGHTWARDS BOTTOM SHADED WHITE ARROW;
    LEFTWARDS TOP SHADED WHITE ARROW;RIGHTWARDS TOP SHADED WHITE ARROW;
    LEFTWARDS LEFT-SHADED WHITE ARROW;RIGHTWARDS RIGHT-SHADED WHITE ARROW;
    LEFTWARDS RIGHT-SHADED WHITE ARROW;RIGHTWARDS LEFT-SHADED WHITE ARROW;
    LEFTWARDS BACK-TILTED SHADOWED WHITE ARROW;RIGHTWARDS BACK-TILTED SHADOWED WHITE ARROW;
    LEFTWARDS FRONT-TILTED SHADOWED WHITE ARROW;RIGHTWARDS FRONT-TILTED SHADOWED WHITE ARROW;
    WHITE ARROW SHAFT WIDTH ONE;dTWO THIRDS"⟩,
  ⟨0x1f8b0, "ARROW POINTING UPWARDS THEN NORTH WEST;bRIGHTWARDS THEN CURVING SOUTH WEST"⟩,
  ⟨0x1f900,
   "CIRCLED CROSS FORMEE WITH FOUR DOTS;dTWO DOTS;c;LEFT HALF CIRCLE WITH FOUR DOTS;dTHREE DOTS;
    dTWO DOTS;dDOT;c;DOWNWARD FACING HOOK;bNOTCHED HOOK;bHOOK WITH DOT;bNOTCHED HOOK WITH DOT;
    PINCHED FINGERS;WHITE HEART;BROWN HEART;PINCHING HAND;ZIPPER-MOUTH FACE;MONEY-MOUTH FACE;
    FACE WITH THERMOMETER;NERD FACE;THINKING FACE;FACE WITH HEAD-BANDAGE;ROBOT FACE;HUGGING FACE;
    SIGN OF THE HORNS;CALL ME HAND;RAISED BACK OF HAND;LEFT-FACING FIST;RIGHT-FACING FIST;
    HANDSHAKE;HAND WITH INDEX AND MIDDLE FINGERS CROSSED;I LOVE YOU HAND SIGN;
    FACE WITH COWBOY HAT;CLOWN FACE;NAUSEATED FACE;ROLLING ON THE FLOOR LAUGHING;DROOLING FACE;
    LYING FACE;FACE PALM;SNEEZING FACE;FACE WITH ONE EYEBROW RAISED;GRINNING FACE WITH STAR EYES;
    cONE LARGE AND ONE SMALL EYE;FACE WITH FINGER COVERING CLOSED LIPS;
    SERIOUS FACE WITH SYMBOLS COVERING MOUTH;
    SMILING FACE WITH SMILING EYES AND HAND COVERING MOUTH;FACE WITH OPEN MOUTH VOMITING;
    SHOCKED FACE WITH EXPLODING HEAD;PREGNANT WOMAN;BREAST-FEEDING;PALMS UP TOGETHER;SELFIE;
    PRINCE;MAN IN TUXEDO;MOTHER CHRISTMAS;SHRUG;PERSON DOING CARTWHEEL;JUGGLING;FENCER;
    MODERN PENTATHLON;WRESTLERS;WATER POLO;HANDBALL;DIVING MASK;WILTED FLOWER;
    DRUM WITH DRUMSTICKS;CLINKING GLASSES;TUMBLER GLASS;SPOON;GOAL NET;RIFLE;FIRST PLACE MEDAL;
    SECOND PLACE MEDAL;THIRD PLACE MEDAL;BOXING GLOVE;MARTIAL ARTS UNIFORM;CURLING STONE;
    LACROSSE STICK AND BALL;SOFTBALL;FLYING DISC;CROISSANT;AVOCADO;CUCUMBER;BACON;POTATO;CARROT;
    BAGUETTE BREAD;GREEN SALAD;SHALLOW PAN OF FOOD;STUFFED FLATBREAD;EGG;GLASS OF MILK;PEANUTS;
    KIWIFRUIT;PANCAKES;DUMPLING;FORTUNE COOKIE;TAKEOUT BOX;CHOPSTICKS;BOWL WITH SPOON;
    CUP WITH STRAW;COCONUT;BROCCOLI;PIE;PRETZEL;CUT OF MEAT;SANDWICH;CANNED FOOD;LEAFY GREEN;
    MANGO;MOON CAKE;BAGEL;SMILING FACE WITH SMILING EYES AND THREE HEARTS;YAWNING FACE;
    SMILING FACE WITH TEAR;FACE WITH PARTY HORN AND PARTY HAT;bUNEVEN EYES AND WAVY MOUTH;
    OVERHEATED FACE;FREEZING FACE;NINJA;DISGUISED FACE;FACE HOLDING BACK TEARS;
    aWITH PLEADING EYES;SARI;LAB COAT;GOGGLES;HIKING BOOT;FLAT SHOE;CRAB;LION FACE;SCORPION;
    TURKEY;UNICORN FACE;EAGLE;DUCK;BAT;SHARK;OWL;FOX FACE;BUTTERFLY;DEER;GORILLA;LIZARD;
    RHINOCEROS;SHRIMP;SQUID;GIRAFFE FACE;ZEBRA FACE;HEDGEHOG;SAUROPOD;T-REX;CRICKET;KANGAROO;
    LLAMA;PEACOCK;HIPPOPOTAMUS;PARROT;RACCOON;LOBSTER;MOSQUITO;MICROBE;BADGER;SWAN;MAMMOTH;DODO;
    SLOTH;OTTER;ORANGUTAN;SKUNK;FLAMINGO;OYSTER;BEAVER;BISON;SEAL;GUIDE DOG;PROBING CANE;
    EMOJI COMPONENT RED HAIR;bCURLY HAIR;bBALD;bWHITE HAIR;BONE;LEG;FOOT;TOOTH;SUPERHERO;
    SUPERVILLAIN;SAFETY VEST;EAR WITH HEARING AID;MOTORIZED WHEELCHAIR;MANUAL WHEELCHAIR;
    MECHANICAL ARM;aLEG;CHEESE WEDGE;CUPCAKE;SALT SHAKER;BEVERAGE BOX;GARLIC;ONION;FALAFEL;
    WAFFLE;BUTTER;MATE DRINK;ICE CUBE;BUBBLE TEA;TROLL;STANDING PERSON;KNEELING PERSON;
    DEAF PERSON;FACE WITH MONOCLE;ADULT;CHILD;OLDER ADULT;BEARDED PERSON;PERSON WITH HEADSCARF;
    aIN STEAMY ROOM;aCLIMBING;aIN LOTUS POSITION;MAGE;FAIRY;VAMPIRE;MERPERSON;ELF;GENIE;ZOMBIE;
    BRAIN;ORANGE HEART;BILLED CAP;SCARF;GLOVES;COAT;SOCKS;RED GIFT ENVELOPE;FIRECRACKER;
    JIGSAW PUZZLE PIECE;TEST TUBE;PETRI DISH;DNA DOUBLE HELIX;COMPASS;ABACUS;FIRE EXTINGUISHER;
    TOOLBOX;BRICK;MAGNET;LUGGAGE;LOTION BOTTLE;SPOOL OF THREAD;BALL OF YARN;SAFETY PIN;
    TEDDY BEAR;BROOM;BASKET;ROLL OF PAPER;BAR OF SOAP;SPONGE;RECEIPT;NAZAR AMULET"⟩,
  ⟨0x1fa00,
   "NEUTRAL CHESS KING;bQUEEN;bROOK;bBISHOP;bKNIGHT;bPAWN;
    WHITE CHESS KNIGHT ROTATED FORTY-FIVE DEGREES;BLACK CHESS KNIGHT ROTATED FORTY-FIVE DEGREES;
    NEUTRAL CHESS KNIGHT ROTATED FORTY-FIVE DEGREES;WHITE CHESS KING ROTATED NINETY DEGREES;
    bQUEEN ROTATED NINETY DEGREES;bROOK ROTATED NINETY DEGREES;bBISHOP ROTATED NINETY DEGREES;
    bKNIGHT ROTATED NINETY DEGREES;bPAWN ROTATED NINETY DEGREES;
    BLACK CHESS KING ROTATED NINETY DEGREES;bQUEEN ROTATED NINETY DEGREES;
    bROOK ROTATED NINETY DEGREES;bBISHOP ROTATED NINETY DEGREES;bKNIGHT ROTATED NINETY DEGREES;
    bPAWN ROTATED NINETY DEGREES;NEUTRAL CHESS KING ROTATED NINETY DEGREES;
    bQUEEN ROTATED NINETY DEGREES;bROOK ROTATED NINETY DEGREES;bBISHOP ROTATED NINETY DEGREES;
    bKNIGHT ROTATED NINETY DEGREES;bPAWN ROTATED NINETY DEGREES;
    WHITE CHESS KNIGHT ROTATED ONE HUNDRED THIRTY-FIVE DEGREES;
    BLACK CHESS KNIGHT ROTATED ONE HUNDRED THIRTY-FIVE DEGREES;
    NEUTRAL CHESS KNIGHT ROTATED ONE HUNDRED THIRTY-FIVE DEGREES;WHITE CHESS TURNED KING;cQUEEN;
    cROOK;cBISHOP;cKNIGHT;cPAWN;BLACK CHESS TURNED KING;cQUEEN;cROOK;cBISHOP;cKNIGHT;cPAWN;
    NEUTRAL CHESS TURNED KING;cQUEEN;cROOK;cBISHOP;cKNIGHT;cPAWN;
    WHITE CHESS KNIGHT ROTATED TWO HUNDRED TWENTY-FIVE DEGREES;
    BLACK CHESS KNIGHT ROTATED TWO HUNDRED TWENTY-FIVE DEGREES;
    NEUTRAL CHESS KNIGHT ROTATED TWO HUNDRED TWENTY-FIVE DEGREES;
    WHITE CHESS KING ROTATED TWO HUNDRED SEVENTY DEGREES;
    bQUEEN ROTATED TWO HUNDRED SEVENTY DEGREES;bROOK ROTATED TWO HUNDRED SEVENTY DEGREES;
    bBISHOP ROTATED TWO HUNDRED SEVENTY DEGREES;bKNIGHT ROTATED TWO HUNDRED SEVENTY DEGREES;
    bPAWN ROTATED TWO HUNDRED SEVENTY DEGREES;
    BLACK CHESS KING ROTATED TWO HUNDRED SEVENTY DEGREES;
    bQUEEN ROTATED TWO HUNDRED SEVENTY DEGREES;bROOK ROTATED TWO HUNDRED SEVENTY DEGREES;
    bBISHOP ROTATED TWO HUNDRED SEVENTY DEGREES;bKNIGHT ROTATED TWO HUNDRED SEVENTY DEGREES;
    bPAWN ROTATED TWO HUNDRED SEVENTY DEGREES;
    NEUTRAL CHESS KING ROTATED TWO HUNDRED SEVENTY DEGREES;
    bQUEEN ROTATED TWO HUNDRED SEVENTY DEGREES;bROOK ROTATED TWO HUNDRED SEVENTY DEGREES;
    bBISHOP ROTATED TWO HUNDRED SEVENTY DEGREES;bKNIGHT ROTATED TWO HUNDRED SEVENTY DEGREES;
    bPAWN ROTATED TWO HUNDRED SEVENTY DEGREES;
    WHITE CHESS KNIGHT ROTATED THREE HUNDRED FIFTEEN DEGREES;
    BLACK CHESS KNIGHT ROTATED THREE HUNDRED FIFTEEN DEGREES;
    NEUTRAL CHESS KNIGHT ROTATED THREE HUNDRED FIFTEEN DEGREES;WHITE CHESS EQUIHOPPER;
    BLACK CHESS EQUIHOPPER;NEUTRAL CHESS EQUIHOPPER;
    WHITE CHESS EQUIHOPPER ROTATED NINETY DEGREES;BLACK CHESS EQUIHOPPER ROTATED NINETY DEGREES;
    NEUTRAL CHESS EQUIHOPPER ROTATED NINETY DEGREES;WHITE CHESS KNIGHT-QUEEN;bKNIGHT-ROOK;
    bKNIGHT-BISHOP;BLACK CHESS KNIGHT-QUEEN;bKNIGHT-ROOK;bKNIGHT-BISHOP"⟩,
  ⟨0x1fa60,
   "XIANGQI RED GENERAL;bMANDARIN;bELEPHANT;bHORSE;bCHARIOT;bCANNON;bSOLDIER;aBLACK GENERAL;
    bMANDARIN;bELEPHANT;bHORSE;bCHARIOT;bCANNON;bSOLDIER"⟩,
  ⟨0x1fa70, "BALLET SHOES;ONE-PIECE SWIMSUIT;BRIEFS;SHORTS;THONG SANDAL"⟩,
  ⟨0x1fa78, "DROP OF BLOOD;ADHESIVE BANDAGE;STETHOSCOPE;X-RAY;CRUTCH"⟩,
  ⟨0x1fa80, "YO-YO;KITE;PARACHUTE;BOOMERANG;MAGIC WAND;PINATA;NESTING DOLLS"⟩,
  ⟨0x1fa90,
   "RINGED PLANET;CHAIR;RAZOR;AXE;DIYA LAMP;BANJO;MILITARY HELMET;ACCORDION;LONG DRUM;COIN;
    CARPENTRY SAW;SCREWDRIVER;LADDER;HOOK;MIRROR;WINDOW;PLUNGER;SEWING NEEDLE;KNOT;BUCKET;
    MOUSE TRAP;TOOTHBRUSH;HEADSTONE;PLACARD;ROCK;MIRROR BALL;IDENTIFICATION CARD;LOW BATTERY;
    HAMSA"⟩,
  ⟨0x1fab0,
   "FLY;WORM;BEETLE;COCKROACH;POTTED PLANT;WOOD;FEATHER;LOTUS;CORAL;EMPTY NEST;NEST WITH EGGS"⟩,
  ⟨0x1fac0, "ANATOMICAL HEART;LUNGS;PEOPLE HUGGING;PREGNANT MAN;aPERSON;PERSON WITH CROWN"⟩,
  ⟨0x1fad0,
   "BLUEBERRIES;BELL PEPPER;OLIVE;FLATBREAD;TAMALE;FONDUE;TEAPOT;POURING LIQUID;BEANS;JAR"⟩,
  ⟨0x1fae0,
   "MELTING FACE;SALUTING FACE;FACE WITH OPEN EYES AND HAND OVER MOUTH;bPEEKING EYE;
    bDIAGONAL MOUTH;DOTTED LINE FACE;BITING LIP;BUBBLES"⟩,
  ⟨0x1faf0,
   "HAND WITH INDEX FINGER AND THUMB CROSSED;RIGHTWARDS HAND;LEFTWARDS HAND;PALM DOWN HAND;
    aUP HAND;INDEX POINTING AT THE VIEWER;HEART HANDS"⟩,
  ⟨0x1fb00,
   "BLOCK SEXTANT-1;aSEXTANT-2;aSEXTANT-12;aSEXTANT-3;aSEXTANT-13;aSEXTANT-23;aSEXTANT-123;
    aSEXTANT-4;aSEXTANT-14;aSEXTANT-24;aSEXTANT-124;aSEXTANT-34;aSEXTANT-134;aSEXTANT-234;
    aSEXTANT-1234;aSEXTANT-5;aSEXTANT-15;aSEXTANT-25;aSEXTANT-125;aSEXTANT-35;aSEXTANT-235;
    aSEXTANT-1235;aSEXTANT-45;aSEXTANT-145;aSEXTANT-245;aSEXTANT-1245;aSEXTANT-345;aSEXTANT-1345;
    aSEXTANT-2345;aSEXTANT-12345;aSEXTANT-6;aSEXTANT-16;aSEXTANT-26;aSEXTANT-126;aSEXTANT-36;
    aSEXTANT-136;aSEXTANT-236;aSEXTANT-1236;aSEXTANT-46;aSEXTANT-146;aSEXTANT-1246;aSEXTANT-346;
    aSEXTANT-1346;aSEXTANT-2346;aSEXTANT-12346;aSEXTANT-56;aSEXTANT-156;aSEXTANT-256;
    aSEXTANT-1256;aSEXTANT-356;aSEXTANT-1356;aSEXTANT-2356;aSEXTANT-12356;aSEXTANT-456;
    aSEXTANT-1456;aSEXTANT-2456;aSEXTANT-12456;aSEXTANT-3456;aSEXTANT-13456;aSEXTANT-23456;
    LOWER LEFT BLOCK DIAGONAL LOWER MIDDLE LEFT TO LOWER CENTRE;iRIGHT;
    dUPPER MIDDLE LEFT TO LOWER CENTRE;iRIGHT;eLEFT TO LOWER CENTRE;
    aRIGHT BLOCK DIAGONAL UPPER MIDDLE LEFT TO UPPER CENTRE;iRIGHT;
    dLOWER MIDDLE LEFT TO UPPER CENTRE;iRIGHT;eLEFT TO UPPER CENTRE;
    eMIDDLE LEFT TO UPPER MIDDLE RIGHT;eCENTRE TO LOWER MIDDLE RIGHT;eLEFT TO LOWER MIDDLE RIGHT;
    eCENTRE TO UPPER MIDDLE RIGHT;eLEFT TO UPPER MIDDLE RIGHT;eCENTRE TO UPPER RIGHT;
    aLEFT BLOCK DIAGONAL UPPER CENTRE TO UPPER MIDDLE RIGHT;eLEFT TO UPPER MIDDLE RIGHT;
    eCENTRE TO LOWER MIDDLE RIGHT;eLEFT TO LOWER MIDDLE RIGHT;eCENTRE TO LOWER RIGHT;
    eMIDDLE LEFT TO LOWER MIDDLE RIGHT;
    UPPER RIGHT BLOCK DIAGONAL LOWER MIDDLE LEFT TO LOWER CENTRE;iRIGHT;
    dUPPER MIDDLE LEFT TO LOWER CENTRE;iRIGHT;eLEFT TO LOWER CENTRE;
    aLEFT BLOCK DIAGONAL UPPER MIDDLE LEFT TO UPPER CENTRE;iRIGHT;
    dLOWER MIDDLE LEFT TO UPPER CENTRE;iRIGHT;eLEFT TO UPPER CENTRE;
    eMIDDLE LEFT TO UPPER MIDDLE RIGHT;eCENTRE TO LOWER MIDDLE RIGHT;eLEFT TO LOWER MIDDLE RIGHT;
    eCENTRE TO UPPER MIDDLE RIGHT;eLEFT TO UPPER MIDDLE RIGHT;eCENTRE TO UPPER RIGHT;
    aRIGHT BLOCK DIAGONAL UPPER CENTRE TO UPPER MIDDLE RIGHT;eLEFT TO UPPER MIDDLE RIGHT;
    eCENTRE TO LOWER MIDDLE RIGHT;eLEFT TO LOWER MIDDLE RIGHT;eCENTRE TO LOWER RIGHT;
    eMIDDLE LEFT TO LOWER MIDDLE RIGHT;aAND RIGHT AND LOWER TRIANGULAR THREE QUARTERS BLOCK;
    LEFT AND LOWER AND RIGHT TRIANGULAR THREE QUARTERS BLOCK;
    UPPER AND LEFT AND LOWER TRIANGULAR THREE QUARTERS BLOCK;
    LEFT AND UPPER AND RIGHT TRIANGULAR THREE QUARTERS BLOCK;aTRIANGULAR ONE QUARTER BLOCK;
    UPPER TRIANGULAR ONE QUARTER BLOCK;RIGHT TRIANGULAR ONE QUARTER BLOCK;
    LOWER TRIANGULAR ONE QUARTER BLOCK;VERTICAL ONE EIGHTH BLOCK-2;cBLOCK-3;cBLOCK-4;cBLOCK-5;
    cBLOCK-6;cBLOCK-7;HORIZONTAL ONE EIGHTH BLOCK-2;cBLOCK-3;cBLOCK-4;cBLOCK-5;cBLOCK-6;cBLOCK-7;
    LEFT AND LOWER ONE EIGHTH BLOCK;bUPPER ONE EIGHTH BLOCK;RIGHT AND UPPER ONE EIGHTH BLOCK;
    bLOWER ONE EIGHTH BLOCK;UPPER AND LOWER ONE EIGHTH BLOCK;HORIZONTAL ONE EIGHTH BLOCK-1358;
    UPPER ONE QUARTER BLOCK;aTHREE EIGHTHS BLOCK;aFIVE EIGHTHS BLOCK;aTHREE QUARTERS BLOCK;
    aSEVEN EIGHTHS BLOCK;RIGHT ONE QUARTER BLOCK;aTHREE EIGHTHS BLOCK;aFIVE EIGHTHS BLOCK;
    aTHREE QUARTERS BLOCK;aSEVEN EIGHTHS BLOCK;LEFT HALF MEDIUM SHADE;RIGHT HALF MEDIUM SHADE;
    UPPER HALF MEDIUM SHADE;LOWER HALF MEDIUM SHADE;INVERSE MEDIUM SHADE;
    UPPER HALF BLOCK AND LOWER HALF INVERSE MEDIUM SHADE;
    bINVERSE MEDIUM SHADE AND LOWER HALF BLOCK"⟩,
  ⟨0x1fb94,
   "LEFT HALF INVERSE MEDIUM SHADE AND RIGHT HALF BLOCK;CHECKER BOARD FILL;
    INVERSE CHECKER BOARD FILL;HEAVY HORIZONTAL FILL;UPPER LEFT TO LOWER RIGHT FILL;
    aRIGHT TO LOWER LEFT FILL;aAND LOWER TRIANGULAR HALF BLOCK;
    LEFT AND RIGHT TRIANGULAR HALF BLOCK;UPPER LEFT TRIANGULAR MEDIUM SHADE;
    aRIGHT TRIANGULAR MEDIUM SHADE;LOWER RIGHT TRIANGULAR MEDIUM SHADE;
    aLEFT TRIANGULAR MEDIUM SHADE;BOX DRAWINGS LIGHT DIAGONAL UPPER CENTRE TO MIDDLE LEFT;hRIGHT;
    dMIDDLE LEFT TO LOWER CENTRE;eRIGHT TO LOWER CENTRE;
    dUPPER CENTRE TO MIDDLE LEFT TO LOWER CENTRE;hRIGHT TO LOWER CENTRE;
    dMIDDLE LEFT TO LOWER CENTRE TO MIDDLE RIGHT;gUPPER CENTRE TO MIDDLE RIGHT;
    dUPPER CENTRE TO MIDDLE LEFT AND MIDDLE RIGHT TO LOWER CENTRE;
    hRIGHT AND MIDDLE LEFT TO LOWER CENTRE;iTO LOWER CENTRE TO MIDDLE LEFT;
    hLEFT TO LOWER CENTRE TO MIDDLE RIGHT;
    dMIDDLE LEFT TO UPPER CENTRE TO MIDDLE RIGHT TO LOWER CENTRE;
    eRIGHT TO UPPER CENTRE TO MIDDLE LEFT TO LOWER CENTRE;dDIAMOND;
    cHORIZONTAL WITH VERTICAL STROKE;ARROWHEAD-SHAPED POINTER;INVERSE CHECK MARK;
    LEFT HALF RUNNING MAN;RIGHT HALF RUNNING MAN;INVERSE DOWNWARDS ARROW WITH TIP LEFTWARDS;
    LEFTWARDS ARROW AND UPPER AND LOWER ONE EIGHTH BLOCK;
    RIGHTWARDS ARROW AND UPPER AND LOWER ONE EIGHTH BLOCK;
    DOWNWARDS ARROW AND RIGHT ONE EIGHTH BLOCK;UPWARDS ARROW AND RIGHT ONE EIGHTH BLOCK;
    LEFT HALF FOLDER;RIGHT HALF FOLDER;VOIDED GREEK CROSS;RIGHT OPEN SQUARED DOT;
    NEGATIVE DIAGONAL CROSS;bMIDDLE RIGHT TO LOWER CENTRE;bDIAMOND;
    WHITE HEAVY SALTIRE WITH ROUNDED CORNERS;LEFT THIRD WHITE RIGHT POINTING INDEX;
    MIDDLE THIRD WHITE RIGHT POINTING INDEX;RIGHT THIRD WHITE RIGHT POINTING INDEX;
    NEGATIVE SQUARED QUESTION MARK;STICK FIGURE;bWITH ARMS RAISED;bLEANING LEFT;cRIGHT;
    bWITH DRESS;WHITE UP-POINTING CHEVRON"⟩,
  ⟨0x1fbf0, "SEGMENTED DIGIT ZERO;bONE;bTWO;bTHREE;bFOUR;bFIVE;bSIX;bSEVEN;bEIGHT;bNINE"⟩,
  ⟨0xe0001, "LANGUAGE TAG"⟩,
  ⟨0xe0020,
   "TAG SPACE;aEXCLAMATION MARK;aQUOTATION MARK;aNUMBER SIGN;aDOLLAR SIGN;aPERCENT SIGN;
    aAMPERSAND;aAPOSTROPHE;aLEFT PARENTHESIS;aRIGHT PARENTHESIS;aASTERISK;aPLUS SIGN;aCOMMA;
    aHYPHEN-MINUS;aFULL STOP;aSOLIDUS;aDIGIT ZERO;bONE;bTWO;bTHREE;bFOUR;bFIVE;bSIX;bSEVEN;
    bEIGHT;bNINE;aCOLON;aSEMICOLON;aLESS-THAN SIGN;aEQUALS SIGN;aGREATER-THAN SIGN;
    aQUESTION MARK;aCOMMERCIAL AT;aLATIN CAPITAL LETTER A;dB;dC;dD;dE;dF;dG;dH;dI;dJ;dK;dL;dM;dN;
    dO;dP;dQ;dR;dS;dT;dU;dV;dW;dX;dY;dZ;aLEFT SQUARE BRACKET;aREVERSE SOLIDUS;
    aRIGHT SQUARE BRACKET;aCIRCUMFLEX ACCENT;aLOW LINE;aGRAVE ACCENT;aLATIN SMALL LETTER A;dB;dC;
    dD;dE;dF;dG;dH;dI;dJ;dK;dL;dM;dN;dO;dP;dQ;dR;dS;dT;dU;dV;dW;dX;dY;dZ;aLEFT CURLY BRACKET;
    aVERTICAL LINE;aRIGHT CURLY BRACKET;aTILDE;CANCEL TAG"⟩,
  ⟨0xe0100,
   "VARIATION SELECTOR-17;aSELECTOR-18;aSELECTOR-19;aSELECTOR-20;aSELECTOR-21;aSELECTOR-22;
    aSELECTOR-23;aSELECTOR-24;aSELECTOR-25;aSELECTOR-26;aSELECTOR-27;aSELECTOR-28;aSELECTOR-29;
    aSELECTOR-30;aSELECTOR-31;aSELECTOR-32;aSELECTOR-33;aSELECTOR-34;aSELECTOR-35;aSELECTOR-36;
    aSELECTOR-37;aSELECTOR-38;aSELECTOR-39;aSELECTOR-40;aSELECTOR-41;aSELECTOR-42;aSELECTOR-43;
    aSELECTOR-44;aSELECTOR-45;aSELECTOR-46;aSELECTOR-47;aSELECTOR-48;aSELECTOR-49;aSELECTOR-50;
    aSELECTOR-51;aSELECTOR-52;aSELECTOR-53;aSELECTOR-54;aSELECTOR-55;aSELECTOR-56;aSELECTOR-57;
    aSELECTOR-58;aSELECTOR-59;aSELECTOR-60;aSELECTOR-61;aSELECTOR-62;aSELECTOR-63;aSELECTOR-64;
    aSELECTOR-65;aSELECTOR-66;aSELECTOR-67;aSELECTOR-68;aSELECTOR-69;aSELECTOR-70;aSELECTOR-71;
    aSELECTOR-72;aSELECTOR-73;aSELECTOR-74;aSELECTOR-75;aSELECTOR-76;aSELECTOR-77;aSELECTOR-78;
    aSELECTOR-79;aSELECTOR-80;aSELECTOR-81;aSELECTOR-82;aSELECTOR-83;aSELECTOR-84;aSELECTOR-85;
    aSELECTOR-86;aSELECTOR-87;aSELECTOR-88;aSELECTOR-89;aSELECTOR-90;aSELECTOR-91;aSELECTOR-92;
    aSELECTOR-93;aSELECTOR-94;aSELECTOR-95;aSELECTOR-96;aSELECTOR-97;aSELECTOR-98;aSELECTOR-99;
    aSELECTOR-100;aSELECTOR-101;aSELECTOR-102;aSELECTOR-103;aSELECTOR-104;aSELECTOR-105;
    aSELECTOR-106;aSELECTOR-107;aSELECTOR-108;aSELECTOR-109;aSELECTOR-110;aSELECTOR-111;
    aSELECTOR-112;aSELECTOR-113;aSELECTOR-114;aSELECTOR-115;aSELECTOR-116;aSELECTOR-117;
    aSELECTOR-118;aSELECTOR-119;aSELECTOR-120;aSELECTOR-121;aSELECTOR-122;aSELECTOR-123;
    aSELECTOR-124;aSELECTOR-125;aSELECTOR-126;aSELECTOR-127;aSELECTOR-128;aSELECTOR-129;
    aSELECTOR-130;aSELECTOR-131;aSELECTOR-132;aSELECTOR-133;aSELECTOR-134;aSELECTOR-135;
    aSELECTOR-136;aSELECTOR-137;aSELECTOR-138;aSELECTOR-139;aSELECTOR-140;aSELECTOR-141;
    aSELECTOR-142;aSELECTOR-143;aSELECTOR-144;aSELECTOR-145;aSELECTOR-146;aSELECTOR-147;
    aSELECTOR-148;aSELECTOR-149;aSELECTOR-150;aSELECTOR-151;aSELECTOR-152;aSELECTOR-153;
    aSELECTOR-154;aSELECTOR-155;aSELECTOR-156;aSELECTOR-157;aSELECTOR-158;aSELECTOR-159;
    aSELECTOR-160;aSELECTOR-161;aSELECTOR-162;aSELECTOR-163;aSELECTOR-164;aSELECTOR-165;
    aSELECTOR-166;aSELECTOR-167;aSELECTOR-168;aSELECTOR-169;aSELECTOR-170;aSELECTOR-171;
    aSELECTOR-172;aSELECTOR-173;aSELECTOR-174;aSELECTOR-175;aSELECTOR-176;aSELECTOR-177;
    aSELECTOR-178;aSELECTOR-179;aSELECTOR-180;aSELECTOR-181;aSELECTOR-182;aSELECTOR-183;
    aSELECTOR-184;aSELECTOR-185;aSELECTOR-186;aSELECTOR-187;aSELECTOR-188;aSELECTOR-189;
    aSELECTOR-190;aSELECTOR-191;aSELECTOR-192;aSELECTOR-193;aSELECTOR-194;aSELECTOR-195;
    aSELECTOR-196;aSELECTOR-197;aSELECTOR-198;aSELECTOR-199;aSELECTOR-200;aSELECTOR-201;
    aSELECTOR-202;aSELECTOR-203;aSELECTOR-204;aSELECTOR-205;aSELECTOR-206;aSELECTOR-207;
    aSELECTOR-208;aSELECTOR-209;aSELECTOR-210;aSELECTOR-211;aSELECTOR-212;aSELECTOR-213;
    aSELECTOR-214;aSELECTOR-215;aSELECTOR-216;aSELECTOR-217;aSELECTOR-218;aSELECTOR-219;
    aSELECTOR-220;aSELECTOR-221;aSELECTOR-222;aSELECTOR-223;aSELECTOR-224;aSELECTOR-225;
    aSELECTOR-226;aSELECTOR-227;aSELECTOR-228;aSELECTOR-229;aSELECTOR-230;aSELECTOR-231;
    aSELECTOR-232;aSELECTOR-233;aSELECTOR-234;aSELECTOR-235;aSELECTOR-236;aSELECTOR-237;
    aSELECTOR-238;aSELECTOR-239;aSELECTOR-240;aSELECTOR-241;aSELECTOR-242;aSELECTOR-243;
    aSELECTOR-244;aSELECTOR-245;aSELECTOR-246;aSELECTOR-247;aSELECTOR-248;aSELECTOR-249;
    aSELECTOR-250;aSELECTOR-251;aSELECTOR-252;aSELECTOR-253;aSELECTOR-254;aSELECTOR-255;
    aSELECTOR-256"⟩]

end StreamLabel.Unicode
