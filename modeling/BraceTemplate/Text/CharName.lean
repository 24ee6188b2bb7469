import BraceTemplate.Text.Hex

namespace BraceTemplate.CharName

-- What the lower-case letters in the table below stand for.
def shorthands : List (Char × String) := [
  ('a', "LETTER "), ('b', "LATIN SMALL "), ('c', "CAPITAL "), ('d', "WITH "), ('e', "CYRILLIC "),
  ('f', "BOX DRAWINGS "), ('g', "LATIN "), ('h', "CYRILLIC SMALL "), ('i', "COMBINING "),
  ('j', "RIGHTWARDS "), ('k', "GREEK "), ('l', "WHITE "), ('m', "MODIFIER "),
  ('n', "ROMAN NUMERAL "), ('o', "RIGHT "), ('p', "AND "), ('q', "DINGBAT NEGATIVE CIRCLED "),
  ('r', "BLACK "), ('s', "HEAVY "), ('t', "SIGN"), ('u', "SMALL "), ('v', "DOUBLE "),
  ('w', "WITH DIAERESIS"), ('x', "WITH STROKE"), ('y', "LEFT "), ('z', "EQUAL TO")]

-- Names of characters that follow one another, semicolons between them, after the code point of the
-- first. Long names go over several pieces.
def runs : List (Nat × List String) := [
  (0x20, [
    "SPACE;EXCLAMATION MARK;QUOTATION MARK;NUMBER t;DOLLAR t;PERCENT t;AMPERSAND;APOSTROPHE;yPARE",
    "NTHESIS;oPARENTHESIS;ASTERISK;PLUS t;COMMA;HYPHEN-MINUS;FULL STOP;SOLIDUS;DIGIT ZERO;DIGIT O",
    "NE;DIGIT TWO;DIGIT THREE;DIGIT FOUR;DIGIT FIVE;DIGIT SIX;DIGIT SEVEN;DIGIT EIGHT;DIGIT NINE;",
    "COLON;SEMICOLON;LESS-THAN t;EQUALS t;GREATER-THAN t;QUESTION MARK;COMMERCIAL AT;gcaA;gcaB;gc",
    "aC;gcaD;gcaE;gcaF;gcaG;gcaH;gcaI;gcaJ;gcaK;gcaL;gcaM;gcaN;gcaO;gcaP;gcaQ;gcaR;gcaS;gcaT;gcaU",
    ";gcaV;gcaW;gcaX;gcaY;gcaZ;ySQUARE BRACKET;REVERSE SOLIDUS;oSQUARE BRACKET;CIRCUMFLEX ACCENT;",
    "LOW LINE;GRAVE ACCENT;baA;baB;baC;baD;baE;baF;baG;baH;baI;baJ;baK;baL;baM;baN;baO;baP;baQ;ba",
    "R;baS;baT;baU;baV;baW;baX;baY;baZ;yCURLY BRACKET;VERTICAL LINE;oCURLY BRACKET;TILDE"]),
  (0xA0, [
    "NO-BREAK SPACE;INVERTED EXCLAMATION MARK;CENT t;POUND t;CURRENCY t;YEN t;BROKEN BAR;SECTION ",
    "t;DIAERESIS;COPYot;FEMININE ORDINAL INDICATOR;LEFT-POINTING vANGLE QUOTATION MARK;NOT t;SOFT",
    " HYPHEN;REGISTERED t;MACRON;DEGREE t;PLUS-MINUS t;SUPERSCRIPT TWO;SUPERSCRIPT THREE;ACUTE AC",
    "CENT;MICRO t;PILCROW t;MIDDLE DOT;CEDILLA;SUPERSCRIPT ONE;MASCULINE ORDINAL INDICATOR;RIGHT-",
    "POINTING vANGLE QUOTATION MARK;VULGAR FRACTION ONE QUARTER;VULGAR FRACTION ONE HALF;VULGAR F",
    "RACTION THREE QUARTERS;INVERTED QUESTION MARK;gcaA dGRAVE;gcaA dACUTE;gcaA dCIRCUMFLEX;gcaA ",
    "dTILDE;gcaA w;gcaA dRING ABOVE;gcaAE;gcaC dCEDILLA;gcaE dGRAVE;gcaE dACUTE;gcaE dCIRCUMFLEX;",
    "gcaE w;gcaI dGRAVE;gcaI dACUTE;gcaI dCIRCUMFLEX;gcaI w;gcaETH;gcaN dTILDE;gcaO dGRAVE;gcaO d",
    "ACUTE;gcaO dCIRCUMFLEX;gcaO dTILDE;gcaO w;MULTIPLICATION t;gcaO x;gcaU dGRAVE;gcaU dACUTE;gc",
    "aU dCIRCUMFLEX;gcaU w;gcaY dACUTE;gcaTHORN;baSHARP S;baA dGRAVE;baA dACUTE;baA dCIRCUMFLEX;b",
    "aA dTILDE;baA w;baA dRING ABOVE;baAE;baC dCEDILLA;baE dGRAVE;baE dACUTE;baE dCIRCUMFLEX;baE ",
    "w;baI dGRAVE;baI dACUTE;baI dCIRCUMFLEX;baI w;baETH;baN dTILDE;baO dGRAVE;baO dACUTE;baO dCI",
    "RCUMFLEX;baO dTILDE;baO w;DIVISION t;baO x;baU dGRAVE;baU dACUTE;baU dCIRCUMFLEX;baU w;baY d",
    "ACUTE;baTHORN;baY w;gcaA dMACRON;baA dMACRON;gcaA dBREVE;baA dBREVE;gcaA dOGONEK;baA dOGONEK",
    ";gcaC dACUTE;baC dACUTE;gcaC dCIRCUMFLEX;baC dCIRCUMFLEX;gcaC dDOT ABOVE;baC dDOT ABOVE;gcaC",
    " dCARON;baC dCARON;gcaD dCARON;baD dCARON;gcaD x;baD x;gcaE dMACRON;baE dMACRON;gcaE dBREVE;",
    "baE dBREVE;gcaE dDOT ABOVE;baE dDOT ABOVE;gcaE dOGONEK;baE dOGONEK;gcaE dCARON;baE dCARON;gc",
    "aG dCIRCUMFLEX;baG dCIRCUMFLEX;gcaG dBREVE;baG dBREVE;gcaG dDOT ABOVE;baG dDOT ABOVE;gcaG dC",
    "EDILLA;baG dCEDILLA;gcaH dCIRCUMFLEX;baH dCIRCUMFLEX;gcaH x;baH x;gcaI dTILDE;baI dTILDE;gca",
    "I dMACRON;baI dMACRON;gcaI dBREVE;baI dBREVE;gcaI dOGONEK;baI dOGONEK;gcaI dDOT ABOVE;baDOTL",
    "ESS I;gcLIGATURE IJ;bLIGATURE IJ;gcaJ dCIRCUMFLEX;baJ dCIRCUMFLEX;gcaK dCEDILLA;baK dCEDILLA",
    ";baKRA;gcaL dACUTE;baL dACUTE;gcaL dCEDILLA;baL dCEDILLA;gcaL dCARON;baL dCARON;gcaL dMIDDLE",
    " DOT;baL dMIDDLE DOT;gcaL x;baL x;gcaN dACUTE;baN dACUTE;gcaN dCEDILLA;baN dCEDILLA;gcaN dCA",
    "RON;baN dCARON;baN PRECEDED BY APOSTROPHE;gcaENG;baENG;gcaO dMACRON;baO dMACRON;gcaO dBREVE;",
    "baO dBREVE;gcaO dvACUTE;baO dvACUTE;gcLIGATURE OE;bLIGATURE OE;gcaR dACUTE;baR dACUTE;gcaR d",
    "CEDILLA;baR dCEDILLA;gcaR dCARON;baR dCARON;gcaS dACUTE;baS dACUTE;gcaS dCIRCUMFLEX;baS dCIR",
    "CUMFLEX;gcaS dCEDILLA;baS dCEDILLA;gcaS dCARON;baS dCARON;gcaT dCEDILLA;baT dCEDILLA;gcaT dC",
    "ARON;baT dCARON;gcaT x;baT x;gcaU dTILDE;baU dTILDE;gcaU dMACRON;baU dMACRON;gcaU dBREVE;baU",
    " dBREVE;gcaU dRING ABOVE;baU dRING ABOVE;gcaU dvACUTE;baU dvACUTE;gcaU dOGONEK;baU dOGONEK;g",
    "caW dCIRCUMFLEX;baW dCIRCUMFLEX;gcaY dCIRCUMFLEX;baY dCIRCUMFLEX;gcaY w;gcaZ dACUTE;baZ dACU",
    "TE;gcaZ dDOT ABOVE;baZ dDOT ABOVE;gcaZ dCARON;baZ dCARON;baLONG S;baB x;gcaB dHOOK;gcaB dTOP",
    "BAR;baB dTOPBAR;gcaTONE SIX;baTONE SIX;gcaOPEN O;gcaC dHOOK;baC dHOOK;gcaAFRICAN D;gcaD dHOO",
    "K;gcaD dTOPBAR;baD dTOPBAR;baTURNED DELTA;gcaREVERSED E;gcaSCHWA;gcaOPEN E;gcaF dHOOK;baF dH",
    "OOK;gcaG dHOOK;gcaGAMMA;baHV;gcaIOTA;gcaI x;gcaK dHOOK;baK dHOOK;baL dBAR;baLAMBDA x;gcaTURN",
    "ED M;gcaN dyHOOK;baN dLONG oLEG;gcaO dMIDDLE TILDE;gcaO dHORN;baO dHORN;gcaOI;baOI;gcaP dHOO",
    "K;baP dHOOK;gaYR;gcaTONE TWO;baTONE TWO;gcaESH;gaREVERSED ESH LOOP;baT dPALATAL HOOK;gcaT dH",
    "OOK;baT dHOOK;gcaT dRETROFLEX HOOK;gcaU dHORN;baU dHORN;gcaUPSILON;gcaV dHOOK;gcaY dHOOK;baY",
    " dHOOK;gcaZ x;baZ x;gcaEZH;gcaEZH REVERSED;baEZH REVERSED;baEZH dTAIL;gaTWO x;gcaTONE FIVE;b",
    "aTONE FIVE;gaINVERTED GLOTTAL STOP x;gaWYNN;gaDENTAL CLICK;gaLATERAL CLICK;gaALVEOLAR CLICK;",
    "gaRETROFLEX CLICK;gcaDZ dCARON;gcaD duaZ dCARON;baDZ dCARON;gcaLJ;gcaL duaJ;baLJ;gcaNJ;gcaN ",
    "duaJ;baNJ;gcaA dCARON;baA dCARON;gcaI dCARON;baI dCARON;gcaO dCARON;baO dCARON;gcaU dCARON;b",
    "aU dCARON;gcaU w pMACRON;baU w pMACRON;gcaU w pACUTE;baU w pACUTE;gcaU w pCARON;baU w pCARON",
    ";gcaU w pGRAVE;baU w pGRAVE;baTURNED E;gcaA w pMACRON;baA w pMACRON;gcaA dDOT ABOVE pMACRON;",
    "baA dDOT ABOVE pMACRON;gcaAE dMACRON;baAE dMACRON;gcaG x;baG x;gcaG dCARON;baG dCARON;gcaK d",
    "CARON;baK dCARON;gcaO dOGONEK;baO dOGONEK;gcaO dOGONEK pMACRON;baO dOGONEK pMACRON;gcaEZH dC",
    "ARON;baEZH dCARON;baJ dCARON;gcaDZ;gcaD duaZ;baDZ;gcaG dACUTE;baG dACUTE;gcaHWAIR;gcaWYNN;gc",
    "aN dGRAVE;baN dGRAVE;gcaA dRING ABOVE pACUTE;baA dRING ABOVE pACUTE;gcaAE dACUTE;baAE dACUTE",
    ";gcaO x pACUTE;baO x pACUTE;gcaA dvGRAVE;baA dvGRAVE;gcaA dINVERTED BREVE;baA dINVERTED BREV",
    "E;gcaE dvGRAVE;baE dvGRAVE;gcaE dINVERTED BREVE;baE dINVERTED BREVE;gcaI dvGRAVE;baI dvGRAVE",
    ";gcaI dINVERTED BREVE;baI dINVERTED BREVE;gcaO dvGRAVE;baO dvGRAVE;gcaO dINVERTED BREVE;baO ",
    "dINVERTED BREVE;gcaR dvGRAVE;baR dvGRAVE;gcaR dINVERTED BREVE;baR dINVERTED BREVE;gcaU dvGRA",
    "VE;baU dvGRAVE;gcaU dINVERTED BREVE;baU dINVERTED BREVE;gcaS dCOMMA BELOW;baS dCOMMA BELOW;g",
    "caT dCOMMA BELOW;baT dCOMMA BELOW;gcaYOGH;baYOGH;gcaH dCARON;baH dCARON;gcaN dLONG oLEG;baD ",
    "dCURL;gcaOU;baOU;gcaZ dHOOK;baZ dHOOK;gcaA dDOT ABOVE;baA dDOT ABOVE;gcaE dCEDILLA;baE dCEDI",
    "LLA;gcaO w pMACRON;baO w pMACRON;gcaO dTILDE pMACRON;baO dTILDE pMACRON;gcaO dDOT ABOVE;baO ",
    "dDOT ABOVE;gcaO dDOT ABOVE pMACRON;baO dDOT ABOVE pMACRON;gcaY dMACRON;baY dMACRON;baL dCURL",
    ";baN dCURL;baT dCURL;baDOTLESS J;baDB DIGRAPH;baQP DIGRAPH;gcaA x;gcaC x;baC x;gcaL dBAR;gca",
    "T dDIAGONAL STROKE;baS dSWASH TAIL;baZ dSWASH TAIL;gcaGLOTTAL STOP;baGLOTTAL STOP;gcaB x;gca",
    "U BAR;gcaTURNED V;gcaE x;baE x;gcaJ x;baJ x;gcauQ dHOOK TAIL;baQ dHOOK TAIL;gcaR x;baR x;gca",
    "Y x;baY x;baTURNED A;baALPHA;baTURNED ALPHA;baB dHOOK;baOPEN O;baC dCURL;baD dTAIL;baD dHOOK",
    ";baREVERSED E;baSCHWA;baSCHWA dHOOK;baOPEN E;baREVERSED OPEN E;baREVERSED OPEN E dHOOK;baCLO",
    "SED REVERSED OPEN E;baDOTLESS J x;baG dHOOK;baSCRIPT G;gaucG;baGAMMA;baRAMS HORN;baTURNED H;",
    "baH dHOOK;baHENG dHOOK;baI x;baIOTA;gaucI;baL dMIDDLE TILDE;baL dBELT;baL dRETROFLEX HOOK;ba",
    "LEZH;baTURNED M;baTURNED M dLONG LEG;baM dHOOK;baN dyHOOK;baN dRETROFLEX HOOK;gaucN;baBARRED",
    " O;gaucOE;baCLOSED OMEGA;baPHI;baTURNED R;baTURNED R dLONG LEG;baTURNED R dHOOK;baR dLONG LE",
    "G;baR dTAIL;baR dFISHHOOK;baREVERSED R dFISHHOOK;gaucR;gaucINVERTED R;baS dHOOK;baESH;baDOTL",
    "ESS J x pHOOK;baSQUAT REVERSED ESH;baESH dCURL;baTURNED T;baT dRETROFLEX HOOK;baU BAR;baUPSI",
    "LON;baV dHOOK;baTURNED V;baTURNED W;baTURNED Y;gaucY;baZ dRETROFLEX HOOK;baZ dCURL;baEZH;baE",
    "ZH dCURL;gaGLOTTAL STOP;gaPHARYNGEAL VOICED FRICATIVE;gaINVERTED GLOTTAL STOP;gaSTRETCHED C;",
    "gaBILABIAL CLICK;gaucB;baCLOSED OPEN E;gaucG dHOOK;gaucH;baJ dCROSSED-TAIL;baTURNED K;gaucL;",
    "baQ dHOOK;gaGLOTTAL STOP x;gaREVERSED GLOTTAL STOP x;baDZ DIGRAPH;baDEZH DIGRAPH;baDZ DIGRAP",
    "H dCURL;baTS DIGRAPH;baTESH DIGRAPH;baTC DIGRAPH dCURL;baFENG DIGRAPH;baLS DIGRAPH;baLZ DIGR",
    "APH;gaBILABIAL PERCUSSIVE;gaBIDENTAL PERCUSSIVE;baTURNED H dFISHHOOK;baTURNED H dFISHHOOK pT",
    "AIL;mauH;mauH dHOOK;mauJ;mauR;mauTURNED R;mauTURNED R dHOOK;maucINVERTED R;mauW;mauY;maPRIME",
    ";mavPRIME;maTURNED COMMA;maAPOSTROPHE;maREVERSED COMMA;maoHALF RING;mayHALF RING;maGLOTTAL S",
    "TOP;maREVERSED GLOTTAL STOP;mayARROWHEAD;maoARROWHEAD;maUP ARROWHEAD;maDOWN ARROWHEAD;maCIRC",
    "UMFLEX ACCENT;CARON;maVERTICAL LINE;maMACRON;maACUTE ACCENT;maGRAVE ACCENT;maLOW VERTICAL LI",
    "NE;maLOW MACRON;maLOW GRAVE ACCENT;maLOW ACUTE ACCENT;maTRIANGULAR COLON;maHALF TRIANGULAR C",
    "OLON;maCENTRED oHALF RING;maCENTRED yHALF RING;maUP TACK;maDOWN TACK;maPLUS t;maMINUS t;BREV",
    "E;DOT ABOVE;RING ABOVE;OGONEK;uTILDE;vACUTE ACCENT;maRHOTIC HOOK;maCROSS ACCENT;mauGAMMA;mau",
    "L;mauS;mauX;mauREVERSED GLOTTAL STOP;maEXTRA-HIGH TONE BAR;maHIGH TONE BAR;maMID TONE BAR;ma",
    "LOW TONE BAR;maEXTRA-LOW TONE BAR;maYIN DEPARTING TONE MARK;maYANG DEPARTING TONE MARK;maVOI",
    "CING;maUNASPIRATED;mavAPOSTROPHE;maLOW DOWN ARROWHEAD;maLOW UP ARROWHEAD;maLOW yARROWHEAD;ma",
    "LOW oARROWHEAD;maLOW RING;maMIDDLE GRAVE ACCENT;maMIDDLE vGRAVE ACCENT;maMIDDLE vACUTE ACCEN",
    "T;maLOW TILDE;maRAISED COLON;maBEGIN HIGH TONE;maEND HIGH TONE;maBEGIN LOW TONE;maEND LOW TO",
    "NE;maSHELF;maOPEN SHELF;maLOW yARROW;iGRAVE ACCENT;iACUTE ACCENT;iCIRCUMFLEX ACCENT;iTILDE;i",
    "MACRON;iOVERLINE;iBREVE;iDOT ABOVE;iDIAERESIS;iHOOK ABOVE;iRING ABOVE;ivACUTE ACCENT;iCARON;",
    "iVERTICAL LINE ABOVE;ivVERTICAL LINE ABOVE;ivGRAVE ACCENT;iCANDRABINDU;iINVERTED BREVE;iTURN",
    "ED COMMA ABOVE;iCOMMA ABOVE;iREVERSED COMMA ABOVE;iCOMMA ABOVE RIGHT;iGRAVE ACCENT BELOW;iAC",
    "UTE ACCENT BELOW;iyTACK BELOW;ioTACK BELOW;iyANGLE ABOVE;iHORN;iyHALF RING BELOW;iUP TACK BE",
    "LOW;iDOWN TACK BELOW;iPLUS t BELOW;iMINUS t BELOW;iPALATALIZED HOOK BELOW;iRETROFLEX HOOK BE",
    "LOW;iDOT BELOW;iDIAERESIS BELOW;iRING BELOW;iCOMMA BELOW;iCEDILLA;iOGONEK;iVERTICAL LINE BEL",
    "OW;iBRIDGE BELOW;iINVERTED vARCH BELOW;iCARON BELOW;iCIRCUMFLEX ACCENT BELOW;iBREVE BELOW;iI",
    "NVERTED BREVE BELOW;iTILDE BELOW;iMACRON BELOW;iLOW LINE;ivLOW LINE;iTILDE OVERLAY;iSHORT ST",
    "ROKE OVERLAY;iLONG STROKE OVERLAY;iSHORT SOLIDUS OVERLAY;iLONG SOLIDUS OVERLAY;ioHALF RING B",
    "ELOW;iINVERTED BRIDGE BELOW;iSQUARE BELOW;iSEAGULL BELOW;iX ABOVE;iVERTICAL TILDE;ivOVERLINE"]),
  (0x370, [
    "kcaHETA;kuaHETA;kcaARCHAIC SAMPI;kuaARCHAIC SAMPI;kNUMERAL t;kLOWER NUMERAL t;kcaPAMPHYLIAN ",
    "DIGAMMA;kuaPAMPHYLIAN DIGAMMA"]),
  (0x37A, [
    "kYPOGEGRAMMENI;kuREVERSED LUNATE SIGMA SYMBOL;kuDOTTED LUNATE SIGMA SYMBOL;kuREVERSED DOTTED",
    " LUNATE SIGMA SYMBOL;kQUESTION MARK;kcaYOT"]),
  (0x384, [
    "kTONOS;kDIALYTIKA TONOS;kcaALPHA dTONOS;kANO TELEIA;kcaEPSILON dTONOS;kcaETA dTONOS;kcaIOTA ",
    "dTONOS"]),
  (0x38C, [
    "kcaOMICRON dTONOS"]),
  (0x38E, [
    "kcaUPSILON dTONOS;kcaOMEGA dTONOS;kuaIOTA dDIALYTIKA pTONOS;kcaALPHA;kcaBETA;kcaGAMMA;kcaDEL",
    "TA;kcaEPSILON;kcaZETA;kcaETA;kcaTHETA;kcaIOTA;kcaKAPPA;kcaLAMDA;kcaMU;kcaNU;kcaXI;kcaOMICRON",
    ";kcaPI;kcaRHO"]),
  (0x3A3, [
    "kcaSIGMA;kcaTAU;kcaUPSILON;kcaPHI;kcaCHI;kcaPSI;kcaOMEGA;kcaIOTA dDIALYTIKA;kcaUPSILON dDIAL",
    "YTIKA;kuaALPHA dTONOS;kuaEPSILON dTONOS;kuaETA dTONOS;kuaIOTA dTONOS;kuaUPSILON dDIALYTIKA p",
    "TONOS;kuaALPHA;kuaBETA;kuaGAMMA;kuaDELTA;kuaEPSILON;kuaZETA;kuaETA;kuaTHETA;kuaIOTA;kuaKAPPA",
    ";kuaLAMDA;kuaMU;kuaNU;kuaXI;kuaOMICRON;kuaPI;kuaRHO;kuaFINAL SIGMA;kuaSIGMA;kuaTAU;kuaUPSILO",
    "N;kuaPHI;kuaCHI;kuaPSI;kuaOMEGA;kuaIOTA dDIALYTIKA;kuaUPSILON dDIALYTIKA;kuaOMICRON dTONOS;k",
    "uaUPSILON dTONOS;kuaOMEGA dTONOS;kcKAI SYMBOL;kBETA SYMBOL;kTHETA SYMBOL;kUPSILON dHOOK SYMB",
    "OL;kUPSILON dACUTE pHOOK SYMBOL;kUPSILON w pHOOK SYMBOL;kPHI SYMBOL;kPI SYMBOL;kKAI SYMBOL;k",
    "aARCHAIC KOPPA;kuaARCHAIC KOPPA;kaSTIGMA;kuaSTIGMA;kaDIGAMMA;kuaDIGAMMA;kaKOPPA;kuaKOPPA;kaS",
    "AMPI;kuaSAMPI;COPTIC caSHEI;COPTIC uaSHEI;COPTIC caFEI;COPTIC uaFEI;COPTIC caKHEI;COPTIC uaK",
    "HEI;COPTIC caHORI;COPTIC uaHORI;COPTIC caGANGIA;COPTIC uaGANGIA;COPTIC caSHIMA;COPTIC uaSHIM",
    "A;COPTIC caDEI;COPTIC uaDEI;kKAPPA SYMBOL;kRHO SYMBOL;kLUNATE SIGMA SYMBOL;kaYOT;kcTHETA SYM",
    "BOL;kLUNATE EPSILON SYMBOL;kREVERSED LUNATE EPSILON SYMBOL;kcaSHO;kuaSHO;kcLUNATE SIGMA SYMB",
    "OL;kcaSAN;kuaSAN;kRHO x SYMBOL;kcREVERSED LUNATE SIGMA SYMBOL;kcDOTTED LUNATE SIGMA SYMBOL;k",
    "cREVERSED DOTTED LUNATE SIGMA SYMBOL;ecaIE dGRAVE;ecaIO;ecaDJE;ecaGJE;ecaUKRAINIAN IE;ecaDZE",
    ";ecaBYELORUSSIAN-UKRAINIAN I;ecaYI;ecaJE;ecaLJE;ecaNJE;ecaTSHE;ecaKJE;ecaI dGRAVE;ecaSHORT U",
    ";ecaDZHE;ecaA;ecaBE;ecaVE;ecaGHE;ecaDE;ecaIE;ecaZHE;ecaZE;ecaI;ecaSHORT I;ecaKA;ecaEL;ecaEM;",
    "ecaEN;ecaO;ecaPE;ecaER;ecaES;ecaTE;ecaU;ecaEF;ecaHA;ecaTSE;ecaCHE;ecaSHA;ecaSHCHA;ecaHARD t;",
    "ecaYERU;ecaSOFT t;ecaE;ecaYU;ecaYA;haA;haBE;haVE;haGHE;haDE;haIE;haZHE;haZE;haI;haSHORT I;ha",
    "KA;haEL;haEM;haEN;haO;haPE;haER;haES;haTE;haU;haEF;haHA;haTSE;haCHE;haSHA;haSHCHA;haHARD t;h",
    "aYERU;haSOFT t;haE;haYU;haYA;haIE dGRAVE;haIO;haDJE;haGJE;haUKRAINIAN IE;haDZE;haBYELORUSSIA",
    "N-UKRAINIAN I;haYI;haJE;haLJE;haNJE;haTSHE;haKJE;haI dGRAVE;haSHORT U;haDZHE;ecaOMEGA;haOMEG",
    "A;ecaYAT;haYAT;ecaIOTIFIED E;haIOTIFIED E;ecaLITTLE YUS;haLITTLE YUS;ecaIOTIFIED LITTLE YUS;",
    "haIOTIFIED LITTLE YUS;ecaBIG YUS;haBIG YUS;ecaIOTIFIED BIG YUS;haIOTIFIED BIG YUS;ecaKSI;haK",
    "SI;ecaPSI;haPSI;ecaFITA;haFITA;ecaIZHITSA;haIZHITSA;ecaIZHITSA dvGRAVE ACCENT;haIZHITSA dvGR",
    "AVE ACCENT;ecaUK;haUK;ecaROUND OMEGA;haROUND OMEGA;ecaOMEGA dTITLO;haOMEGA dTITLO;ecaOT;haOT",
    ";ecaKOPPA;haKOPPA;eTHOUSANDS t;ieTITLO;iePALATALIZATION;ieDASIA PNEUMATA;iePSILI PNEUMATA;ie",
    "POKRYTIE;ieHUNDRED THOUSANDS t;ieMILLIONS t;ecaSHORT I dTAIL;haSHORT I dTAIL;ecaSEMISOFT t;h",
    "aSEMISOFT t;ecaER dTICK;haER dTICK;ecaGHE dUPTURN;haGHE dUPTURN;ecaGHE x;haGHE x;ecaGHE dMID",
    "DLE HOOK;haGHE dMIDDLE HOOK;ecaZHE dDESCENDER;haZHE dDESCENDER;ecaZE dDESCENDER;haZE dDESCEN",
    "DER;ecaKA dDESCENDER;haKA dDESCENDER;ecaKA dVERTICAL STROKE;haKA dVERTICAL STROKE;ecaKA x;ha",
    "KA x;ecaBASHKIR KA;haBASHKIR KA;ecaEN dDESCENDER;haEN dDESCENDER;ecLIGATURE EN GHE;hLIGATURE",
    " EN GHE;ecaPE dMIDDLE HOOK;haPE dMIDDLE HOOK;ecaABKHASIAN HA;haABKHASIAN HA;ecaES dDESCENDER",
    ";haES dDESCENDER;ecaTE dDESCENDER;haTE dDESCENDER;ecaSTRAIGHT U;haSTRAIGHT U;ecaSTRAIGHT U x",
    ";haSTRAIGHT U x;ecaHA dDESCENDER;haHA dDESCENDER;ecLIGATURE TE TSE;hLIGATURE TE TSE;ecaCHE d",
    "DESCENDER;haCHE dDESCENDER;ecaCHE dVERTICAL STROKE;haCHE dVERTICAL STROKE;ecaSHHA;haSHHA;eca",
    "ABKHASIAN CHE;haABKHASIAN CHE;ecaABKHASIAN CHE dDESCENDER;haABKHASIAN CHE dDESCENDER;eaPALOC",
    "HKA;ecaZHE dBREVE;haZHE dBREVE;ecaKA dHOOK;haKA dHOOK;ecaEL dTAIL;haEL dTAIL;ecaEN dHOOK;haE",
    "N dHOOK;ecaEN dTAIL;haEN dTAIL;ecaKHAKASSIAN CHE;haKHAKASSIAN CHE;ecaEM dTAIL;haEM dTAIL;haP",
    "ALOCHKA;ecaA dBREVE;haA dBREVE;ecaA w;haA w;ecLIGATURE A IE;hLIGATURE A IE;ecaIE dBREVE;haIE",
    " dBREVE;ecaSCHWA;haSCHWA;ecaSCHWA w;haSCHWA w;ecaZHE w;haZHE w;ecaZE w;haZE w;ecaABKHASIAN D",
    "ZE;haABKHASIAN DZE;ecaI dMACRON;haI dMACRON;ecaI w;haI w;ecaO w;haO w;ecaBARRED O;haBARRED O",
    ";ecaBARRED O w;haBARRED O w;ecaE w;haE w;ecaU dMACRON;haU dMACRON;ecaU w;haU w;ecaU dvACUTE;",
    "haU dvACUTE;ecaCHE w;haCHE w;ecaGHE dDESCENDER;haGHE dDESCENDER;ecaYERU w;haYERU w;ecaGHE x ",
    "pHOOK;haGHE x pHOOK;ecaHA dHOOK;haHA dHOOK;ecaHA x;haHA x"]),
  (0x5D0, [
    "HEBREW aALEF;HEBREW aBET;HEBREW aGIMEL;HEBREW aDALET;HEBREW aHE;HEBREW aVAV;HEBREW aZAYIN;HE",
    "BREW aHET;HEBREW aTET;HEBREW aYOD;HEBREW aFINAL KAF;HEBREW aKAF;HEBREW aLAMED;HEBREW aFINAL ",
    "MEM;HEBREW aMEM;HEBREW aFINAL NUN;HEBREW aNUN;HEBREW aSAMEKH;HEBREW aAYIN;HEBREW aFINAL PE;H",
    "EBREW aPE;HEBREW aFINAL TSADI;HEBREW aTSADI;HEBREW aQOF;HEBREW aRESH;HEBREW aSHIN;HEBREW aTA",
    "V"]),
  (0x2000, [
    "EN QUAD;EM QUAD;EN SPACE;EM SPACE;THREE-PER-EM SPACE;FOUR-PER-EM SPACE;SIX-PER-EM SPACE;FIGU",
    "RE SPACE;PUNCTUATION SPACE;THIN SPACE;HAIR SPACE;ZERO WIDTH SPACE;ZERO WIDTH NON-JOINER;ZERO",
    " WIDTH JOINER;LEFT-TO-oMARK;RIGHT-TO-yMARK;HYPHEN;NON-BREAKING HYPHEN;FIGURE DASH;EN DASH;EM",
    " DASH;HORIZONTAL BAR;vVERTICAL LINE;vLOW LINE;ySINGLE QUOTATION MARK;oSINGLE QUOTATION MARK;",
    "SINGLE LOW-9 QUOTATION MARK;SINGLE HIGH-REVERSED-9 QUOTATION MARK;yvQUOTATION MARK;ovQUOTATI",
    "ON MARK;vLOW-9 QUOTATION MARK;vHIGH-REVERSED-9 QUOTATION MARK;DAGGER;vDAGGER;BULLET;TRIANGUL",
    "AR BULLET;ONE DOT LEADER;TWO DOT LEADER;HORIZONTAL ELLIPSIS;HYPHENATION POINT;LINE SEPARATOR",
    ";PARAGRAPH SEPARATOR;LEFT-TO-oEMBEDDING;RIGHT-TO-yEMBEDDING;POP DIRECTIONAL FORMATTING;LEFT-",
    "TO-oOVERRIDE;RIGHT-TO-yOVERRIDE;NARROW NO-BREAK SPACE;PER MILLE t;PER TEN THOUSpt;PRIME;vPRI",
    "ME;TRIPLE PRIME;REVERSED PRIME;REVERSED vPRIME;REVERSED TRIPLE PRIME;CARET;SINGLE LEFT-POINT",
    "ING ANGLE QUOTATION MARK;SINGLE RIGHT-POINTING ANGLE QUOTATION MARK;REFERENCE MARK;vEXCLAMAT",
    "ION MARK;INTERROBANG;OVERLINE;UNDERTIE;CHARACTER TIE;CARET INSERTION POINT;ASTERISM;HYPHEN B",
    "ULLET;FRACTION SLASH;ySQUARE BRACKET dQUILL;oSQUARE BRACKET dQUILL;vQUESTION MARK;QUESTION E",
    "XCLAMATION MARK;EXCLAMATION QUESTION MARK;TIRONIAN t ET;REVERSED PILCROW t;rLEFTWARDS BULLET",
    ";rjBULLET;LOW ASTERISK;REVERSED SEMICOLON;CLOSE UP;TWO ASTERISKS ALIGNED VERTICALLY;COMMERCI",
    "AL MINUS t;SWUNG DASH;INVERTED UNDERTIE;FLOWER PUNCTUATION MARK;THREE DOT PUNCTUATION;QUADRU",
    "PLE PRIME;FOUR DOT PUNCTUATION;FIVE DOT PUNCTUATION;TWO DOT PUNCTUATION;FOUR DOT MARK;DOTTED",
    " CROSS;TRICOLON;VERTICAL FOUR DOTS;MEDIUM MATHEMATICAL SPACE;WORD JOINER;FUNCTION APPLICATIO",
    "N;INVISIBLE TIMES;INVISIBLE SEPARATOR;INVISIBLE PLUS"]),
  (0x2066, [
    "LEFT-TO-oISOLATE;RIGHT-TO-yISOLATE;FIRST STRONG ISOLATE;POP DIRECTIONAL ISOLATE;INHIBIT SYMM",
    "ETRIC SWAPPING;ACTIVATE SYMMETRIC SWAPPING;INHIBIT ARABIC FORM SHAPING;ACTIVATE ARABIC FORM ",
    "SHAPING;NATIONAL DIGIT SHAPES;NOMINAL DIGIT SHAPES;SUPERSCRIPT ZERO;SUPERSCRIPT baI"]),
  (0x2074, [
    "SUPERSCRIPT FOUR;SUPERSCRIPT FIVE;SUPERSCRIPT SIX;SUPERSCRIPT SEVEN;SUPERSCRIPT EIGHT;SUPERS",
    "CRIPT NINE;SUPERSCRIPT PLUS t;SUPERSCRIPT MINUS;SUPERSCRIPT EQUALS t;SUPERSCRIPT yPARENTHESI",
    "S;SUPERSCRIPT oPARENTHESIS;SUPERSCRIPT baN;SUBSCRIPT ZERO;SUBSCRIPT ONE;SUBSCRIPT TWO;SUBSCR",
    "IPT THREE;SUBSCRIPT FOUR;SUBSCRIPT FIVE;SUBSCRIPT SIX;SUBSCRIPT SEVEN;SUBSCRIPT EIGHT;SUBSCR",
    "IPT NINE;SUBSCRIPT PLUS t;SUBSCRIPT MINUS;SUBSCRIPT EQUALS t;SUBSCRIPT yPARENTHESIS;SUBSCRIP",
    "T oPARENTHESIS"]),
  (0x2090, [
    "gSUBSCRIPT uaA;gSUBSCRIPT uaE;gSUBSCRIPT uaO;gSUBSCRIPT uaX;gSUBSCRIPT uaSCHWA;gSUBSCRIPT ua",
    "H;gSUBSCRIPT uaK;gSUBSCRIPT uaL;gSUBSCRIPT uaM;gSUBSCRIPT uaN;gSUBSCRIPT uaP;gSUBSCRIPT uaS;",
    "gSUBSCRIPT uaT"]),
  (0x20A0, [
    "EURO-CURRENCY t;COLON t;CRUZEIRO t;FRENCH FRANC t;LIRA t;MILL t;NAIRA t;PESETA t;RUPEE t;WON",
    " t;NEW SHEQEL t;DONG t;EURO t;KIP t;TUGRIK t;DRACHMA t;GERMAN PENNY t;PESO t;GUARANI t;AUSTR",
    "AL t;HRYVNIA t;CEDI t;LIVRE TOURNOIS t;SPESMILO t;TENGE t;INDIAN RUPEE t;TURKISH LIRA t;NORD",
    "IC MARK t;MANAT t;RUBLE t;LARI t;BITCOIN t;SOM t"]),
  (0x2100, [
    "ACCOUNT OF;ADDRESSED TO THE SUBJECT;DOUBLE-STRUCK cC;DEGREE CELSIUS;CENTRE LINE SYMBOL;CARE ",
    "OF;CADA UNA;EULER CONSTANT;SCRUPLE;DEGREE FAHRENHEIT;SCRIPT uG;SCRIPT cH;BLACK-acH;DOUBLE-ST",
    "RUCK cH;PLANCK CONSTANT;PLANCK CONSTANT OVER TWO PI;SCRIPT cI;BLACK-acI;SCRIPT cL;SCRIPT uL;",
    "L B BAR SYMBOL;DOUBLE-STRUCK cN;NUMERO t;SOUND RECORDING COPYRIGHT;SCRIPT cP;DOUBLE-STRUCK c",
    "P;DOUBLE-STRUCK cQ;SCRIPT cR;BLACK-acR;DOUBLE-STRUCK cR;PRESCRIPTION TAKE;RESPONSE;SERVICE M",
    "ARK;TELEPHONE t;TRADE MARK t;VERSICLE;DOUBLE-STRUCK cZ;OUNCE t;OHM t;INVERTED OHM t;BLACK-ac",
    "Z;TURNED kuaIOTA;KELVIN t;ANGSTROM t;SCRIPT cB;BLACK-acC;ESTIMATED SYMBOL;SCRIPT uE;SCRIPT c",
    "E;SCRIPT cF;TURNED cF;SCRIPT cM;SCRIPT uO;ALEF SYMBOL;BET SYMBOL;GIMEL SYMBOL;DALET SYMBOL;I",
    "NFORMATION SOURCE;ROTATED cQ;FACSIMILE t;DOUBLE-STRUCK uPI;DOUBLE-STRUCK uGAMMA;DOUBLE-STRUC",
    "K cGAMMA;DOUBLE-STRUCK cPI;DOUBLE-STRUCK N-ARY SUMMATION;TURNED SANS-SERIF cG;TURNED SANS-SE",
    "RIF cL;REVERSED SANS-SERIF cL;TURNED SANS-SERIF cY;DOUBLE-STRUCK ITALIC cD;DOUBLE-STRUCK ITA",
    "LIC uD;DOUBLE-STRUCK ITALIC uE;DOUBLE-STRUCK ITALIC uI;DOUBLE-STRUCK ITALIC uJ;PROPERTY LINE",
    ";TURNED AMPERSAND;PER t;AKTIESELSKAB;TURNED uF;SYMBOL FOR SAMARITAN SOURCE;VULGAR FRACTION O",
    "NE SEVENTH;VULGAR FRACTION ONE NINTH;VULGAR FRACTION ONE TENTH;VULGAR FRACTION ONE THIRD;VUL",
    "GAR FRACTION TWO THIRDS;VULGAR FRACTION ONE FIFTH;VULGAR FRACTION TWO FIFTHS;VULGAR FRACTION",
    " THREE FIFTHS;VULGAR FRACTION FOUR FIFTHS;VULGAR FRACTION ONE SIXTH;VULGAR FRACTION FIVE SIX",
    "THS;VULGAR FRACTION ONE EIGHTH;VULGAR FRACTION THREE EIGHTHS;VULGAR FRACTION FIVE EIGHTHS;VU",
    "LGAR FRACTION SEVEN EIGHTHS;FRACTION NUMERATOR ONE;nONE;nTWO;nTHREE;nFOUR;nFIVE;nSIX;nSEVEN;",
    "nEIGHT;nNINE;nTEN;nELEVEN;nTWELVE;nFIFTY;nONE HUNDRED;nFIVE HUNDRED;nONE THOUSAND;unONE;unTW",
    "O;unTHREE;unFOUR;unFIVE;unSIX;unSEVEN;unEIGHT;unNINE;unTEN;unELEVEN;unTWELVE;unFIFTY;unONE H",
    "UNDRED;unFIVE HUNDRED;unONE THOUSAND;nONE THOUSpC D;nFIVE THOUSAND;nTEN THOUSAND;nREVERSED O",
    "NE HUNDRED;baREVERSED C;nSIX LATE FORM;nFIFTY EARLY FORM;nFIFTY THOUSAND;nONE HUNDRED THOUSA",
    "ND;VULGAR FRACTION ZERO THIRDS;TURNED DIGIT TWO;TURNED DIGIT THREE"]),
  (0x2190, [
    "LEFTWARDS ARROW;UPWARDS ARROW;jARROW;DOWNWARDS ARROW;yoARROW;UP DOWN ARROW;NORTH WEST ARROW;",
    "NORTH EAST ARROW;SOUTH EAST ARROW;SOUTH WEST ARROW;LEFTWARDS ARROW x;jARROW x;LEFTWARDS WAVE",
    " ARROW;jWAVE ARROW;LEFTWARDS TWO HEADED ARROW;UPWARDS TWO HEADED ARROW;jTWO HEADED ARROW;DOW",
    "NWARDS TWO HEADED ARROW;LEFTWARDS ARROW dTAIL;jARROW dTAIL;LEFTWARDS ARROW FROM BAR;UPWARDS ",
    "ARROW FROM BAR;jARROW FROM BAR;DOWNWARDS ARROW FROM BAR;UP DOWN ARROW dBASE;LEFTWARDS ARROW ",
    "dHOOK;jARROW dHOOK;LEFTWARDS ARROW dLOOP;jARROW dLOOP;yoWAVE ARROW;yoARROW x;DOWNWARDS ZIGZA",
    "G ARROW;UPWARDS ARROW dTIP LEFTWARDS;UPWARDS ARROW dTIP RIGHTWARDS;DOWNWARDS ARROW dTIP LEFT",
    "WARDS;DOWNWARDS ARROW dTIP RIGHTWARDS;jARROW dCORNER DOWNWARDS;DOWNWARDS ARROW dCORNER LEFTW",
    "ARDS;ANTICLOCKWISE TOP SEMICIRCLE ARROW;CLOCKWISE TOP SEMICIRCLE ARROW;NORTH WEST ARROW TO L",
    "ONG BAR;LEFTWARDS ARROW TO BAR OVER jARROW TO BAR;ANTICLOCKWISE OPEN CIRCLE ARROW;CLOCKWISE ",
    "OPEN CIRCLE ARROW;LEFTWARDS HARPOON dBARB UPWARDS;LEFTWARDS HARPOON dBARB DOWNWARDS;UPWARDS ",
    "HARPOON dBARB RIGHTWARDS;UPWARDS HARPOON dBARB LEFTWARDS;jHARPOON dBARB UPWARDS;jHARPOON dBA",
    "RB DOWNWARDS;DOWNWARDS HARPOON dBARB RIGHTWARDS;DOWNWARDS HARPOON dBARB LEFTWARDS;jARROW OVE",
    "R LEFTWARDS ARROW;UPWARDS ARROW LEFTWARDS OF DOWNWARDS ARROW;LEFTWARDS ARROW OVER jARROW;LEF",
    "TWARDS PAIRED ARROWS;UPWARDS PAIRED ARROWS;jPAIRED ARROWS;DOWNWARDS PAIRED ARROWS;LEFTWARDS ",
    "HARPOON OVER jHARPOON;jHARPOON OVER LEFTWARDS HARPOON;LEFTWARDS vARROW x;yovARROW x;jvARROW ",
    "x;LEFTWARDS vARROW;UPWARDS vARROW;jvARROW;DOWNWARDS vARROW;yovARROW;UP DOWN vARROW;NORTH WES",
    "T vARROW;NORTH EAST vARROW;SOUTH EAST vARROW;SOUTH WEST vARROW;LEFTWARDS TRIPLE ARROW;jTRIPL",
    "E ARROW;LEFTWARDS SQUIGGLE ARROW;jSQUIGGLE ARROW;UPWARDS ARROW dvSTROKE;DOWNWARDS ARROW dvST",
    "ROKE;LEFTWARDS DASHED ARROW;UPWARDS DASHED ARROW;jDASHED ARROW;DOWNWARDS DASHED ARROW;LEFTWA",
    "RDS ARROW TO BAR;jARROW TO BAR;LEFTWARDS lARROW;UPWARDS lARROW;jlARROW;DOWNWARDS lARROW;UPWA",
    "RDS lARROW FROM BAR;UPWARDS lARROW ON PEDESTAL;UPWARDS lARROW ON PEDESTAL dHORIZONTAL BAR;UP",
    "WARDS lARROW ON PEDESTAL dVERTICAL BAR;UPWARDS lvARROW;UPWARDS lvARROW ON PEDESTAL;jlARROW F",
    "ROM WALL;NORTH WEST ARROW TO CORNER;SOUTH EAST ARROW TO CORNER;UP DOWN lARROW;oARROW duCIRCL",
    "E;DOWNWARDS ARROW LEFTWARDS OF UPWARDS ARROW;THREE jARROWS;LEFTWARDS ARROW dVERTICAL STROKE;",
    "jARROW dVERTICAL STROKE;yoARROW dVERTICAL STROKE;LEFTWARDS ARROW dvVERTICAL STROKE;jARROW dv",
    "VERTICAL STROKE;yoARROW dvVERTICAL STROKE;LEFTWARDS OPEN-HEADED ARROW;jOPEN-HEADED ARROW;yoO",
    "PEN-HEADED ARROW;FOR ALL;COMPLEMENT;PARTIAL DIFFERENTIAL;THERE EXISTS;THERE DOES NOT EXIST;E",
    "MPTY SET;INCREMENT;NABLA;ELEMENT OF;NOT AN ELEMENT OF;uELEMENT OF;CONTAINS AS MEMBER;DOES NO",
    "T CONTAIN AS MEMBER;uCONTAINS AS MEMBER;END OF PROOF;N-ARY PRODUCT;N-ARY COPRODUCT;N-ARY SUM",
    "MATION;MINUS t;MINUS-OR-PLUS t;DOT PLUS;DIVISION SLASH;SET MINUS;ASTERISK OPERATOR;RING OPER",
    "ATOR;BULLET OPERATOR;SQUARE ROOT;CUBE ROOT;FOURTH ROOT;PROPORTIONAL TO;INFINITY;oANGLE;ANGLE",
    ";MEASURED ANGLE;SPHERICAL ANGLE;DIVIDES;DOES NOT DIVIDE;PARALLEL TO;NOT PARALLEL TO;LOGICAL ",
    "AND;LOGICAL OR;INTERSECTION;UNION;INTEGRAL;vINTEGRAL;TRIPLE INTEGRAL;CONTOUR INTEGRAL;SURFAC",
    "E INTEGRAL;VOLUME INTEGRAL;CLOCKWISE INTEGRAL;CLOCKWISE CONTOUR INTEGRAL;ANTICLOCKWISE CONTO",
    "UR INTEGRAL;THEREFORE;BECAUSE;RATIO;PROPORTION;DOT MINUS;EXCESS;GEOMETRIC PROPORTION;HOMOTHE",
    "TIC;TILDE OPERATOR;REVERSED TILDE;INVERTED LAZY S;SINE WAVE;WREATH PRODUCT;NOT TILDE;MINUS T",
    "ILDE;ASYMPTOTICALLY z;NOT ASYMPTOTICALLY z;APPROXIMATELY z;APPROXIMATELY BUT NOT ACTUALLY z;",
    "NEITHER APPROXIMATELY NOR ACTUALLY z;ALMOST z;NOT ALMOST z;ALMOST EQUAL OR z;TRIPLE TILDE;AL",
    "L z;EQUIVALENT TO;GEOMETRICALLY EQUIVALENT TO;DIFFERENCE BETWEEN;APPROACHES THE LIMIT;GEOMET",
    "RICALLY z;APPROXIMATELY z OR THE IMAGE OF;IMAGE OF OR APPROXIMATELY z;COLON EQUALS;EQUALS CO",
    "LON;RING IN z;RING z;CORRESPONDS TO;ESTIMATES;EQUIANGULAR TO;STAR EQUALS;DELTA z;z BY DEFINI",
    "TION;MEASURED BY;QUESTIONED z;NOT z;IDENTICAL TO;NOT IDENTICAL TO;STRICTLY EQUIVALENT TO;LES",
    "S-THAN OR z;GREATER-THAN OR z;LESS-THAN OVER z;GREATER-THAN OVER z;LESS-THAN BUT NOT z;GREAT",
    "ER-THAN BUT NOT z;MUCH LESS-THAN;MUCH GREATER-THAN;BETWEEN;NOT EQUIVALENT TO;NOT LESS-THAN;N",
    "OT GREATER-THAN;NEITHER LESS-THAN NOR z;NEITHER GREATER-THAN NOR z;LESS-THAN OR EQUIVALENT T",
    "O;GREATER-THAN OR EQUIVALENT TO;NEITHER LESS-THAN NOR EQUIVALENT TO;NEITHER GREATER-THAN NOR",
    " EQUIVALENT TO;LESS-THAN OR GREATER-THAN;GREATER-THAN OR LESS-THAN;NEITHER LESS-THAN NOR GRE",
    "ATER-THAN;NEITHER GREATER-THAN NOR LESS-THAN;PRECEDES;SUCCEEDS;PRECEDES OR z;SUCCEEDS OR z;P",
    "RECEDES OR EQUIVALENT TO;SUCCEEDS OR EQUIVALENT TO;DOES NOT PRECEDE;DOES NOT SUCCEED;SUBSET ",
    "OF;SUPERSET OF;NOT A SUBSET OF;NOT A SUPERSET OF;SUBSET OF OR z;SUPERSET OF OR z;NEITHER A S",
    "UBSET OF NOR z;NEITHER A SUPERSET OF NOR z;SUBSET OF dNOT z;SUPERSET OF dNOT z;MULTISET;MULT",
    "ISET MULTIPLICATION;MULTISET UNION;SQUARE IMAGE OF;SQUARE ORIGINAL OF;SQUARE IMAGE OF OR z;S",
    "QUARE ORIGINAL OF OR z;SQUARE CAP;SQUARE CUP;CIRCLED PLUS;CIRCLED MINUS;CIRCLED TIMES;CIRCLE",
    "D DIVISION SLASH;CIRCLED DOT OPERATOR;CIRCLED RING OPERATOR;CIRCLED ASTERISK OPERATOR;CIRCLE",
    "D EQUALS;CIRCLED DASH;SQUARED PLUS;SQUARED MINUS;SQUARED TIMES;SQUARED DOT OPERATOR;oTACK;yT",
    "ACK;DOWN TACK;UP TACK;ASSERTION;MODELS;TRUE;FORCES;TRIPLE VERTICAL BAR oTURNSTILE;vVERTICAL ",
    "BAR voTURNSTILE;DOES NOT PROVE;NOT TRUE;DOES NOT FORCE;NEGATED vVERTICAL BAR voTURNSTILE;PRE",
    "CEDES UNDER RELATION;SUCCEEDS UNDER RELATION;NORMAL SUBGROUP OF;CONTAINS AS NORMAL SUBGROUP;",
    "NORMAL SUBGROUP OF OR z;CONTAINS AS NORMAL SUBGROUP OR z;ORIGINAL OF;IMAGE OF;MULTIMAP;HERMI",
    "TIAN CONJUGATE MATRIX;INTERCALATE;XOR;NAND;NOR;oANGLE dARC;oTRIANGLE;N-ARY LOGICAL AND;N-ARY",
    " LOGICAL OR;N-ARY INTERSECTION;N-ARY UNION;DIAMOND OPERATOR;DOT OPERATOR;STAR OPERATOR;DIVIS",
    "ION TIMES;BOWTIE;yNORMAL FACTOR SEMIDIRECT PRODUCT;oNORMAL FACTOR SEMIDIRECT PRODUCT;ySEMIDI",
    "RECT PRODUCT;oSEMIDIRECT PRODUCT;REVERSED TILDE EQUALS;CURLY LOGICAL OR;CURLY LOGICAL AND;vS",
    "UBSET;vSUPERSET;vINTERSECTION;vUNION;PITCHFORK;EQUAL pPARALLEL TO;LESS-THAN dDOT;GREATER-THA",
    "N dDOT;VERY MUCH LESS-THAN;VERY MUCH GREATER-THAN;LESS-THAN z OR GREATER-THAN;GREATER-THAN z",
    " OR LESS-THAN;z OR LESS-THAN;z OR GREATER-THAN;z OR PRECEDES;z OR SUCCEEDS;DOES NOT PRECEDE ",
    "OR EQUAL;DOES NOT SUCCEED OR EQUAL;NOT SQUARE IMAGE OF OR z;NOT SQUARE ORIGINAL OF OR z;SQUA",
    "RE IMAGE OF OR NOT z;SQUARE ORIGINAL OF OR NOT z;LESS-THAN BUT NOT EQUIVALENT TO;GREATER-THA",
    "N BUT NOT EQUIVALENT TO;PRECEDES BUT NOT EQUIVALENT TO;SUCCEEDS BUT NOT EQUIVALENT TO;NOT NO",
    "RMAL SUBGROUP OF;DOES NOT CONTAIN AS NORMAL SUBGROUP;NOT NORMAL SUBGROUP OF OR z;DOES NOT CO",
    "NTAIN AS NORMAL SUBGROUP OR EQUAL;VERTICAL ELLIPSIS;MIDLINE HORIZONTAL ELLIPSIS;UP oDIAGONAL",
    " ELLIPSIS;DOWN oDIAGONAL ELLIPSIS;ELEMENT OF dLONG HORIZONTAL STROKE;ELEMENT OF dVERTICAL BA",
    "R AT END OF HORIZONTAL STROKE;uELEMENT OF dVERTICAL BAR AT END OF HORIZONTAL STROKE;ELEMENT ",
    "OF dDOT ABOVE;ELEMENT OF dOVERBAR;uELEMENT OF dOVERBAR;ELEMENT OF dUNDERBAR;ELEMENT OF dTWO ",
    "HORIZONTAL STROKES;CONTAINS dLONG HORIZONTAL STROKE;CONTAINS dVERTICAL BAR AT END OF HORIZON",
    "TAL STROKE;uCONTAINS dVERTICAL BAR AT END OF HORIZONTAL STROKE;CONTAINS dOVERBAR;uCONTAINS d",
    "OVERBAR;Z NOTATION BAG MEMBERSHIP"]),
  (0x2500, [
    "fLIGHT HORIZONTAL;fsHORIZONTAL;fLIGHT VERTICAL;fsVERTICAL;fLIGHT TRIPLE DASH HORIZONTAL;fsTR",
    "IPLE DASH HORIZONTAL;fLIGHT TRIPLE DASH VERTICAL;fsTRIPLE DASH VERTICAL;fLIGHT QUADRUPLE DAS",
    "H HORIZONTAL;fsQUADRUPLE DASH HORIZONTAL;fLIGHT QUADRUPLE DASH VERTICAL;fsQUADRUPLE DASH VER",
    "TICAL;fLIGHT DOWN pRIGHT;fDOWN LIGHT poHEAVY;fDOWN spoLIGHT;fsDOWN pRIGHT;fLIGHT DOWN pLEFT;",
    "fDOWN LIGHT pyHEAVY;fDOWN spyLIGHT;fsDOWN pLEFT;fLIGHT UP pRIGHT;fUP LIGHT poHEAVY;fUP spoLI",
    "GHT;fsUP pRIGHT;fLIGHT UP pLEFT;fUP LIGHT pyHEAVY;fUP spyLIGHT;fsUP pLEFT;fLIGHT VERTICAL pR",
    "IGHT;fVERTICAL LIGHT poHEAVY;fUP spoDOWN LIGHT;fDOWN spoUP LIGHT;fVERTICAL spoLIGHT;fDOWN LI",
    "GHT poUP HEAVY;fUP LIGHT poDOWN HEAVY;fsVERTICAL pRIGHT;fLIGHT VERTICAL pLEFT;fVERTICAL LIGH",
    "T pyHEAVY;fUP spyDOWN LIGHT;fDOWN spyUP LIGHT;fVERTICAL spyLIGHT;fDOWN LIGHT pyUP HEAVY;fUP ",
    "LIGHT pyDOWN HEAVY;fsVERTICAL pLEFT;fLIGHT DOWN pHORIZONTAL;fyspoDOWN LIGHT;fospyDOWN LIGHT;",
    "fDOWN LIGHT pHORIZONTAL HEAVY;fDOWN spHORIZONTAL LIGHT;foLIGHT pyDOWN HEAVY;fyLIGHT poDOWN H",
    "EAVY;fsDOWN pHORIZONTAL;fLIGHT UP pHORIZONTAL;fyspoUP LIGHT;fospyUP LIGHT;fUP LIGHT pHORIZON",
    "TAL HEAVY;fUP spHORIZONTAL LIGHT;foLIGHT pyUP HEAVY;fyLIGHT poUP HEAVY;fsUP pHORIZONTAL;fLIG",
    "HT VERTICAL pHORIZONTAL;fyspoVERTICAL LIGHT;fospyVERTICAL LIGHT;fVERTICAL LIGHT pHORIZONTAL ",
    "HEAVY;fUP spDOWN HORIZONTAL LIGHT;fDOWN spUP HORIZONTAL LIGHT;fVERTICAL spHORIZONTAL LIGHT;f",
    "yUP spoDOWN LIGHT;foUP spyDOWN LIGHT;fyDOWN spoUP LIGHT;foDOWN spyUP LIGHT;fDOWN LIGHT pUP H",
    "ORIZONTAL HEAVY;fUP LIGHT pDOWN HORIZONTAL HEAVY;foLIGHT pyVERTICAL HEAVY;fyLIGHT poVERTICAL",
    " HEAVY;fsVERTICAL pHORIZONTAL;fLIGHT vDASH HORIZONTAL;fsvDASH HORIZONTAL;fLIGHT vDASH VERTIC",
    "AL;fsvDASH VERTICAL;fvHORIZONTAL;fvVERTICAL;fDOWN SINGLE poDOUBLE;fDOWN vpoSINGLE;fvDOWN pRI",
    "GHT;fDOWN SINGLE pyDOUBLE;fDOWN vpySINGLE;fvDOWN pLEFT;fUP SINGLE poDOUBLE;fUP vpoSINGLE;fvU",
    "P pRIGHT;fUP SINGLE pyDOUBLE;fUP vpySINGLE;fvUP pLEFT;fVERTICAL SINGLE poDOUBLE;fVERTICAL vp",
    "oSINGLE;fvVERTICAL pRIGHT;fVERTICAL SINGLE pyDOUBLE;fVERTICAL vpySINGLE;fvVERTICAL pLEFT;fDO",
    "WN SINGLE pHORIZONTAL DOUBLE;fDOWN vpHORIZONTAL SINGLE;fvDOWN pHORIZONTAL;fUP SINGLE pHORIZO",
    "NTAL DOUBLE;fUP vpHORIZONTAL SINGLE;fvUP pHORIZONTAL;fVERTICAL SINGLE pHORIZONTAL DOUBLE;fVE",
    "RTICAL vpHORIZONTAL SINGLE;fvVERTICAL pHORIZONTAL;fLIGHT ARC DOWN pRIGHT;fLIGHT ARC DOWN pLE",
    "FT;fLIGHT ARC UP pLEFT;fLIGHT ARC UP pRIGHT;fLIGHT DIAGONAL UPPER oTO LOWER LEFT;fLIGHT DIAG",
    "ONAL UPPER yTO LOWER RIGHT;fLIGHT DIAGONAL CROSS;fLIGHT LEFT;fLIGHT UP;fLIGHT RIGHT;fLIGHT D",
    "OWN;fsLEFT;fsUP;fsRIGHT;fsDOWN;fLIGHT ypsRIGHT;fLIGHT UP psDOWN;fsypLIGHT RIGHT;fsUP pLIGHT ",
    "DOWN;UPPER HALF BLOCK;LOWER ONE EIGHTH BLOCK;LOWER ONE QUARTER BLOCK;LOWER THREE EIGHTHS BLO",
    "CK;LOWER HALF BLOCK;LOWER FIVE EIGHTHS BLOCK;LOWER THREE QUARTERS BLOCK;LOWER SEVEN EIGHTHS ",
    "BLOCK;FULL BLOCK;ySEVEN EIGHTHS BLOCK;yTHREE QUARTERS BLOCK;yFIVE EIGHTHS BLOCK;yHALF BLOCK;",
    "yTHREE EIGHTHS BLOCK;yONE QUARTER BLOCK;yONE EIGHTH BLOCK;oHALF BLOCK;LIGHT SHADE;MEDIUM SHA",
    "DE;DARK SHADE;UPPER ONE EIGHTH BLOCK;oONE EIGHTH BLOCK;QUADRANT LOWER LEFT;QUADRANT LOWER RI",
    "GHT;QUADRANT UPPER LEFT;QUADRANT UPPER ypLOWER ypLOWER RIGHT;QUADRANT UPPER ypLOWER RIGHT;QU",
    "ADRANT UPPER ypUPPER opLOWER LEFT;QUADRANT UPPER ypUPPER opLOWER RIGHT;QUADRANT UPPER RIGHT;",
    "QUADRANT UPPER opLOWER LEFT;QUADRANT UPPER opLOWER ypLOWER RIGHT;rSQUARE;lSQUARE;lSQUARE dRO",
    "UNDED CORNERS;lSQUARE CONTAINING ruSQUARE;SQUARE dHORIZONTAL FILL;SQUARE dVERTICAL FILL;SQUA",
    "RE dORTHOGONAL CROSSHATCH FILL;SQUARE dUPPER yTO LOWER oFILL;SQUARE dUPPER oTO LOWER yFILL;S",
    "QUARE dDIAGONAL CROSSHATCH FILL;ruSQUARE;luSQUARE;rRECTANGLE;lRECTANGLE;rVERTICAL RECTANGLE;",
    "lVERTICAL RECTANGLE;rPARALLELOGRAM;lPARALLELOGRAM;rUP-POINTING TRIANGLE;lUP-POINTING TRIANGL",
    "E;rUP-POINTING uTRIANGLE;lUP-POINTING uTRIANGLE;rRIGHT-POINTING TRIANGLE;lRIGHT-POINTING TRI",
    "ANGLE;rRIGHT-POINTING uTRIANGLE;lRIGHT-POINTING uTRIANGLE;rRIGHT-POINTING POINTER;lRIGHT-POI",
    "NTING POINTER;rDOWN-POINTING TRIANGLE;lDOWN-POINTING TRIANGLE;rDOWN-POINTING uTRIANGLE;lDOWN",
    "-POINTING uTRIANGLE;rLEFT-POINTING TRIANGLE;lLEFT-POINTING TRIANGLE;rLEFT-POINTING uTRIANGLE",
    ";lLEFT-POINTING uTRIANGLE;rLEFT-POINTING POINTER;lLEFT-POINTING POINTER;rDIAMOND;lDIAMOND;lD",
    "IAMOND CONTAINING ruDIAMOND;FISHEYE;LOZENGE;lCIRCLE;DOTTED CIRCLE;CIRCLE dVERTICAL FILL;BULL",
    "SEYE;rCIRCLE;CIRCLE dyHALF BLACK;CIRCLE doHALF BLACK;CIRCLE dLOWER HALF BLACK;CIRCLE dUPPER ",
    "HALF BLACK;CIRCLE dUPPER oQUADRANT BLACK;CIRCLE dALL BUT UPPER yQUADRANT BLACK;yHALF rCIRCLE",
    ";oHALF rCIRCLE;INVERSE BULLET;INVERSE lCIRCLE;UPPER HALF INVERSE lCIRCLE;LOWER HALF INVERSE ",
    "lCIRCLE;UPPER yQUADRANT CIRCULAR ARC;UPPER oQUADRANT CIRCULAR ARC;LOWER oQUADRANT CIRCULAR A",
    "RC;LOWER yQUADRANT CIRCULAR ARC;UPPER HALF CIRCLE;LOWER HALF CIRCLE;rLOWER oTRIANGLE;rLOWER ",
    "yTRIANGLE;rUPPER yTRIANGLE;rUPPER oTRIANGLE;lBULLET;SQUARE dyHALF BLACK;SQUARE doHALF BLACK;",
    "SQUARE dUPPER yDIAGONAL HALF BLACK;SQUARE dLOWER oDIAGONAL HALF BLACK;lSQUARE dVERTICAL BISE",
    "CTING LINE;lUP-POINTING TRIANGLE dDOT;UP-POINTING TRIANGLE dyHALF BLACK;UP-POINTING TRIANGLE",
    " doHALF BLACK;LARGE CIRCLE;lSQUARE dUPPER yQUADRANT;lSQUARE dLOWER yQUADRANT;lSQUARE dLOWER ",
    "oQUADRANT;lSQUARE dUPPER oQUADRANT;lCIRCLE dUPPER yQUADRANT;lCIRCLE dLOWER yQUADRANT;lCIRCLE",
    " dLOWER oQUADRANT;lCIRCLE dUPPER oQUADRANT;UPPER yTRIANGLE;UPPER oTRIANGLE;LOWER yTRIANGLE;l",
    "MEDIUM SQUARE;rMEDIUM SQUARE;lMEDIUM uSQUARE;rMEDIUM uSQUARE;LOWER oTRIANGLE;rSUN dRAYS;CLOU",
    "D;UMBRELLA;SNOWMAN;COMET;rSTAR;lSTAR;LIGHTNING;THUNDERSTORM;SUN;ASCENDING NODE;DESCENDING NO",
    "DE;CONJUNCTION;OPPOSITION;rTELEPHONE;lTELEPHONE;BALLOT BOX;BALLOT BOX dCHECK;BALLOT BOX dX;S",
    "ALTIRE;UMBRELLA dRAIN DROPS;HOT BEVERAGE;lSHOGI PIECE;rSHOGI PIECE;SHAMROCK;REVERSED ROTATED",
    " FLORAL HEART BULLET;ryPOINTING INDEX;roPOINTING INDEX;lyPOINTING INDEX;lUP POINTING INDEX;l",
    "oPOINTING INDEX;lDOWN POINTING INDEX;SKULL pCROSSBONES;CAUTION t;RADIOACTIVE t;BIOHAZARD t;C",
    "ADUCEUS;ANKH;ORTHODOX CROSS;CHI RHO;CROSS OF LORRAINE;CROSS OF JERUSALEM;STAR pCRESCENT;FARS",
    "I SYMBOL;ADI SHAKTI;HAMMER pSICKLE;PEACE SYMBOL;YIN YANG;TRIGRAM FOR HEAVEN;TRIGRAM FOR LAKE",
    ";TRIGRAM FOR FIRE;TRIGRAM FOR THUNDER;TRIGRAM FOR WIND;TRIGRAM FOR WATER;TRIGRAM FOR MOUNTAI",
    "N;TRIGRAM FOR EARTH;WHEEL OF DHARMA;lFROWNING FACE;lSMILING FACE;rSMILING FACE;lSUN dRAYS;FI",
    "RST QUARTER MOON;LAST QUARTER MOON;MERCURY;FEMALE t;EARTH;MALE t;JUPITER;SATURN;URANUS;NEPTU",
    "NE;PLUTO;ARIES;TAURUS;GEMINI;CANCER;LEO;VIRGO;LIBRA;SCORPIUS;SAGITTARIUS;CAPRICORN;AQUARIUS;",
    "PISCES;lCHESS KING;lCHESS QUEEN;lCHESS ROOK;lCHESS BISHOP;lCHESS KNIGHT;lCHESS PAWN;rCHESS K",
    "ING;rCHESS QUEEN;rCHESS ROOK;rCHESS BISHOP;rCHESS KNIGHT;rCHESS PAWN;rSPADE SUIT;lHEART SUIT",
    ";lDIAMOND SUIT;rCLUB SUIT;lSPADE SUIT;rHEART SUIT;rDIAMOND SUIT;lCLUB SUIT;HOT SPRINGS;QUART",
    "ER NOTE;EIGHTH NOTE;BEAMED EIGHTH NOTES;BEAMED SIXTEENTH NOTES;MUSIC FLAT t;MUSIC NATURAL t;",
    "MUSIC SHARP t;WEST SYRIAC CROSS;EAST SYRIAC CROSS;UNIVERSAL RECYCLING SYMBOL;RECYCLING SYMBO",
    "L FOR TYPE-1 PLASTICS;RECYCLING SYMBOL FOR TYPE-2 PLASTICS;RECYCLING SYMBOL FOR TYPE-3 PLAST",
    "ICS;RECYCLING SYMBOL FOR TYPE-4 PLASTICS;RECYCLING SYMBOL FOR TYPE-5 PLASTICS;RECYCLING SYMB",
    "OL FOR TYPE-6 PLASTICS;RECYCLING SYMBOL FOR TYPE-7 PLASTICS;RECYCLING SYMBOL FOR GENERIC MAT",
    "ERIALS;rUNIVERSAL RECYCLING SYMBOL;RECYCLED PAPER SYMBOL;PARTIALLY-RECYCLED PAPER SYMBOL;PER",
    "MANENT PAPER t;WHEELCHAIR SYMBOL;DIE FACE-1;DIE FACE-2;DIE FACE-3;DIE FACE-4;DIE FACE-5;DIE ",
    "FACE-6;lCIRCLE dDOT RIGHT;lCIRCLE dTWO DOTS;rCIRCLE dlDOT RIGHT;rCIRCLE dTWO lDOTS;MONOGRAM ",
    "FOR YANG;MONOGRAM FOR YIN;DIGRAM FOR GREATER YANG;DIGRAM FOR LESSER YIN;DIGRAM FOR LESSER YA",
    "NG;DIGRAM FOR GREATER YIN;lFLAG;rFLAG;HAMMER pPICK;ANCHOR;CROSSED SWORDS;STAFF OF AESCULAPIU",
    "S;SCALES;ALEMBIC;FLOWER;GEAR;STAFF OF HERMES;ATOM SYMBOL;FLEUR-DE-LIS;OUTLINED lSTAR;THREE L",
    "INES CONVERGING RIGHT;THREE LINES CONVERGING LEFT;WARNING t;HIGH VOLTAGE t;DOUBLED FEMALE t;",
    "DOUBLED MALE t;INTERLOCKED FEMALE pMALE t;MALE pFEMALE t;MALE x t;MALE x pMALE pFEMALE t;VER",
    "TICAL MALE x t;HORIZONTAL MALE x t;MEDIUM lCIRCLE;MEDIUM rCIRCLE;MEDIUM ulCIRCLE;MARRIAGE SY",
    "MBOL;DIVORCE SYMBOL;UNMARRIED PARTNERSHIP SYMBOL;COFFIN;FUNERAL URN;NEUTER;CERES;PALLAS;JUNO",
    ";VESTA;CHIRON;rMOON LILITH;SEXTILE;SEMISEXTILE;QUINCUNX;SESQUIQUADRATE;SOCCER BALL;BASEBALL;",
    "SQUARED KEY;lDRAUGHTS MAN;lDRAUGHTS KING;rDRAUGHTS MAN;rDRAUGHTS KING;SNOWMAN WITHOUT SNOW;S",
    "UN BEHIND CLOUD;RAIN;rSNOWMAN;THUNDER CLOUD pRAIN;TURNED lSHOGI PIECE;TURNED rSHOGI PIECE;lD",
    "IAMOND IN SQUARE;CROSSING LANES;DISABLED CAR;OPHIUCHUS;PICK;CAR SLIDING;HELMET dlCROSS;CIRCL",
    "ED CROSSING LANES;CHAINS;NO ENTRY;ALTERNATE ONE-WAY yWAY TRAFFIC;rTWO-WAY yWAY TRAFFIC;lTWO-",
    "WAY yWAY TRAFFIC;ryLANE MERGE;lyLANE MERGE;DRIVE SLOW t;slDOWN-POINTING TRIANGLE;yCLOSED ENT",
    "RY;SQUARED SALTIRE;FALLING DIAGONAL IN lCIRCLE IN rSQUARE;rTRUCK;RESTRICTED yENTRY-1;RESTRIC",
    "TED yENTRY-2;ASTRONOMICAL SYMBOL FOR URANUS;sCIRCLE x pTWO DOTS ABOVE;PENTAGRAM;RIGHT-HANDED",
    " INTERLACED PENTAGRAM;LEFT-HANDED INTERLACED PENTAGRAM;INVERTED PENTAGRAM;rCROSS ON SHIELD;S",
    "HINTO SHRINE;CHURCH;CASTLE;HISTORIC SITE;GEAR WITHOUT HUB;GEAR dHANDLES;MAP SYMBOL FOR LIGHT",
    "HOUSE;MOUNTAIN;UMBRELLA ON GROUND;FOUNTAIN;FLAG IN HOLE;FERRY;SAILBOAT;SQUARE FOUR CORNERS;S",
    "KIER;ICE SKATE;PERSON dBALL;TENT;JAPANESE BANK SYMBOL;HEADSTONE GRAVEYARD SYMBOL;FUEL PUMP;C",
    "UP ON rSQUARE;lFLAG dHORIZONTAL MIDDLE rSTRIPE;rSAFETY SCISSORS;UPPER BLADE SCISSORS;rSCISSO",
    "RS;LOWER BLADE SCISSORS;lSCISSORS;lsCHECK MARK;TELEPHONE LOCATION t;TAPE DRIVE;AIRPLANE;ENVE",
    "LOPE;RAISED FIST;RAISED HAND;VICTORY HAND;WRITING HAND;LOWER oPENCIL;PENCIL;UPPER oPENCIL;lN",
    "IB;rNIB;CHECK MARK;sCHECK MARK;MULTIPLICATION X;sMULTIPLICATION X;BALLOT X;sBALLOT X;OUTLINE",
    "D kCROSS;skCROSS;OPEN CENTRE CROSS;sOPEN CENTRE CROSS;gCROSS;SHADOWED lgCROSS;OUTLINED gCROS",
    "S;MALTESE CROSS;STAR OF DAVID;FOUR TEARDROP-SPOKED ASTERISK;FOUR BALLOON-SPOKED ASTERISK;sFO",
    "UR BALLOON-SPOKED ASTERISK;FOUR CLUB-SPOKED ASTERISK;rFOUR POINTED STAR;lFOUR POINTED STAR;S",
    "PARKLES;STRESS OUTLINED lSTAR;CIRCLED lSTAR;OPEN CENTRE rSTAR;rCENTRE lSTAR;OUTLINED rSTAR;s",
    "OUTLINED rSTAR;PINWHEEL STAR;SHADOWED lSTAR;sASTERISK;OPEN CENTRE ASTERISK;EIGHT SPOKED ASTE",
    "RISK;EIGHT POINTED rSTAR;EIGHT POINTED PINWHEEL STAR;SIX POINTED rSTAR;EIGHT POINTED RECTILI",
    "NEAR rSTAR;sEIGHT POINTED RECTILINEAR rSTAR;TWELVE POINTED rSTAR;SIXTEEN POINTED ASTERISK;TE",
    "ARDROP-SPOKED ASTERISK;OPEN CENTRE TEARDROP-SPOKED ASTERISK;sTEARDROP-SPOKED ASTERISK;SIX PE",
    "TALLED rplFLORETTE;rFLORETTE;lFLORETTE;EIGHT PETALLED OUTLINED rFLORETTE;CIRCLED OPEN CENTRE",
    " EIGHT POINTED STAR;sTEARDROP-SPOKED PINWHEEL ASTERISK;SNOWFLAKE;TIGHT TRIFOLIATE SNOWFLAKE;",
    "sCHEVRON SNOWFLAKE;SPARKLE;sSPARKLE;BALLOON-SPOKED ASTERISK;EIGHT TEARDROP-SPOKED PROPELLER ",
    "ASTERISK;sEIGHT TEARDROP-SPOKED PROPELLER ASTERISK;CROSS MARK;SHADOWED lCIRCLE;NEGATIVE SQUA",
    "RED CROSS MARK;LOWER oDROP-SHADOWED lSQUARE;UPPER oDROP-SHADOWED lSQUARE;LOWER oSHADOWED lSQ",
    "UARE;UPPER oSHADOWED lSQUARE;rQUESTION MARK ORNAMENT;lQUESTION MARK ORNAMENT;lEXCLAMATION MA",
    "RK ORNAMENT;rDIAMOND MINUS lX;sEXCLAMATION MARK SYMBOL;LIGHT VERTICAL BAR;MEDIUM VERTICAL BA",
    "R;sVERTICAL BAR;sSINGLE TURNED COMMA QUOTATION MARK ORNAMENT;sSINGLE COMMA QUOTATION MARK OR",
    "NAMENT;svTURNED COMMA QUOTATION MARK ORNAMENT;svCOMMA QUOTATION MARK ORNAMENT;sLOW SINGLE CO",
    "MMA QUOTATION MARK ORNAMENT;sLOW vCOMMA QUOTATION MARK ORNAMENT;CURVED STEM PARAGRAPH t ORNA",
    "MENT;sEXCLAMATION MARK ORNAMENT;sHEART EXCLAMATION MARK ORNAMENT;srHEART;ROTATED srHEART BUL",
    "LET;FLORAL HEART;ROTATED FLORAL HEART BULLET;MEDIUM yPARENTHESIS ORNAMENT;MEDIUM oPARENTHESI",
    "S ORNAMENT;MEDIUM FLATTENED yPARENTHESIS ORNAMENT;MEDIUM FLATTENED oPARENTHESIS ORNAMENT;MED",
    "IUM LEFT-POINTING ANGLE BRACKET ORNAMENT;MEDIUM RIGHT-POINTING ANGLE BRACKET ORNAMENT;sLEFT-",
    "POINTING ANGLE QUOTATION MARK ORNAMENT;sRIGHT-POINTING ANGLE QUOTATION MARK ORNAMENT;sLEFT-P",
    "OINTING ANGLE BRACKET ORNAMENT;sRIGHT-POINTING ANGLE BRACKET ORNAMENT;LIGHT yTORTOISE SHELL ",
    "BRACKET ORNAMENT;LIGHT oTORTOISE SHELL BRACKET ORNAMENT;MEDIUM yCURLY BRACKET ORNAMENT;MEDIU",
    "M oCURLY BRACKET ORNAMENT;qDIGIT ONE;qDIGIT TWO;qDIGIT THREE;qDIGIT FOUR;qDIGIT FIVE;qDIGIT ",
    "SIX;qDIGIT SEVEN;qDIGIT EIGHT;qDIGIT NINE;qNUMBER TEN;DINGBAT CIRCLED SANS-SERIF DIGIT ONE;D",
    "INGBAT CIRCLED SANS-SERIF DIGIT TWO;DINGBAT CIRCLED SANS-SERIF DIGIT THREE;DINGBAT CIRCLED S",
    "ANS-SERIF DIGIT FOUR;DINGBAT CIRCLED SANS-SERIF DIGIT FIVE;DINGBAT CIRCLED SANS-SERIF DIGIT ",
    "SIX;DINGBAT CIRCLED SANS-SERIF DIGIT SEVEN;DINGBAT CIRCLED SANS-SERIF DIGIT EIGHT;DINGBAT CI",
    "RCLED SANS-SERIF DIGIT NINE;DINGBAT CIRCLED SANS-SERIF NUMBER TEN;qSANS-SERIF DIGIT ONE;qSAN",
    "S-SERIF DIGIT TWO;qSANS-SERIF DIGIT THREE;qSANS-SERIF DIGIT FOUR;qSANS-SERIF DIGIT FIVE;qSAN",
    "S-SERIF DIGIT SIX;qSANS-SERIF DIGIT SEVEN;qSANS-SERIF DIGIT EIGHT;qSANS-SERIF DIGIT NINE;qSA",
    "NS-SERIF NUMBER TEN;sWIDE-HEADED jARROW;sPLUS t;sMINUS t;sDIVISION t;sSOUTH EAST ARROW;sjARR",
    "OW;sNORTH EAST ARROW;DRAFTING POINT jARROW;sROUND-TIPPED jARROW;TRIANGLE-HEADED jARROW;sTRIA",
    "NGLE-HEADED jARROW;DASHED TRIANGLE-HEADED jARROW;sDASHED TRIANGLE-HEADED jARROW;rjARROW;THRE",
    "E-D TOP-LIGHTED jARROWHEAD;THREE-D BOTTOM-LIGHTED jARROWHEAD;rjARROWHEAD;srCURVED DOWNWARDS ",
    "pjARROW;srCURVED UPWARDS pjARROW;SQUAT rjARROW;sCONCAVE-POINTED rjARROW;RIGHT-SHADED ljARROW",
    ";LEFT-SHADED ljARROW;BACK-TILTED SHADOWED ljARROW;FRONT-TILTED SHADOWED ljARROW;sLOWER RIGHT",
    "-SHADOWED ljARROW;sUPPER RIGHT-SHADOWED ljARROW;NOTCHED LOWER RIGHT-SHADOWED ljARROW;CURLY L",
    "OOP;NOTCHED UPPER RIGHT-SHADOWED ljARROW;CIRCLED sljARROW;WHITE-FEATHERED jARROW;BLACK-FEATH",
    "ERED SOUTH EAST ARROW;BLACK-FEATHERED jARROW;BLACK-FEATHERED NORTH EAST ARROW;sBLACK-FEATHER",
    "ED SOUTH EAST ARROW;sBLACK-FEATHERED jARROW;sBLACK-FEATHERED NORTH EAST ARROW;TEARDROP-BARBE",
    "D jARROW;sTEARDROP-SHANKED jARROW;WEDGE-TAILED jARROW;sWEDGE-TAILED jARROW;OPEN-OUTLINED jAR",
    "ROW;vCURLY LOOP"]),
  (0x3000, [
    "IDEOGRAPHIC SPACE;IDEOGRAPHIC COMMA;IDEOGRAPHIC FULL STOP;DITTO MARK;JAPANESE INDUSTRIAL STA",
    "NDARD SYMBOL;IDEOGRAPHIC ITERATION MARK;IDEOGRAPHIC CLOSING MARK;IDEOGRAPHIC NUMBER ZERO;yAN",
    "GLE BRACKET;oANGLE BRACKET;yvANGLE BRACKET;ovANGLE BRACKET;yCORNER BRACKET;oCORNER BRACKET;y",
    "lCORNER BRACKET;olCORNER BRACKET;yrLENTICULAR BRACKET;orLENTICULAR BRACKET;POSTAL MARK;GETA ",
    "MARK;yTORTOISE SHELL BRACKET;oTORTOISE SHELL BRACKET;ylLENTICULAR BRACKET;olLENTICULAR BRACK",
    "ET;ylTORTOISE SHELL BRACKET;olTORTOISE SHELL BRACKET;ylSQUARE BRACKET;olSQUARE BRACKET;WAVE ",
    "DASH;REVERSED vPRIME QUOTATION MARK;vPRIME QUOTATION MARK;LOW vPRIME QUOTATION MARK;POSTAL M",
    "ARK FACE"]),
  (0xFB00, [
    "bLIGATURE FF;bLIGATURE FI;bLIGATURE FL;bLIGATURE FFI;bLIGATURE FFL;bLIGATURE LONG S T;bLIGAT",
    "URE ST"]),
  (0xFEFF, [
    "ZERO WIDTH NO-BREAK SPACE"]),
  (0xFFFC, [
    "OBJECT REPLACEMENT CHARACTER;REPLACEMENT CHARACTER"]),
  (0x1F300, [
    "CYCLONE;FOGGY;CLOSED UMBRELLA;NIGHT dSTARS;SUNRISE OVER MOUNTAINS;SUNRISE;CITYSCAPE AT DUSK;",
    "SUNSET OVER BUILDINGS;RAINBOW;BRIDGE AT NIGHT;WATER WAVE;VOLCANO;MILKY WAY;EARTH GLOBE EUROP",
    "E-AFRICA;EARTH GLOBE AMERICAS;EARTH GLOBE ASIA-AUSTRALIA;GLOBE dMERIDIANS;NEW MOON SYMBOL;WA",
    "XING CRESCENT MOON SYMBOL;FIRST QUARTER MOON SYMBOL;WAXING GIBBOUS MOON SYMBOL;FULL MOON SYM",
    "BOL;WANING GIBBOUS MOON SYMBOL;LAST QUARTER MOON SYMBOL;WANING CRESCENT MOON SYMBOL;CRESCENT",
    " MOON;NEW MOON dFACE;FIRST QUARTER MOON dFACE;LAST QUARTER MOON dFACE;FULL MOON dFACE;SUN dF",
    "ACE;GLOWING STAR;SHOOTING STAR"]),
  (0x1F389, [
    "PARTY POPPER"]),
  (0x1F44D, [
    "THUMBS UP t"]),
  (0x1F4A9, [
    "PILE OF POO"]),
  (0x1F525, [
    "FIRE"]),
  (0x1F600, [
    "GRINNING FACE;GRINNING FACE dSMILING EYES;FACE dTEARS OF JOY;SMILING FACE dOPEN MOUTH;SMILIN",
    "G FACE dOPEN MOUTH pSMILING EYES;SMILING FACE dOPEN MOUTH pCOLD SWEAT;SMILING FACE dOPEN MOU",
    "TH pTIGHTLY-CLOSED EYES;SMILING FACE dHALO;SMILING FACE dHORNS;WINKING FACE;SMILING FACE dSM",
    "ILING EYES;FACE SAVOURING DELICIOUS FOOD;RELIEVED FACE;SMILING FACE dHEART-SHAPED EYES;SMILI",
    "NG FACE dSUNGLASSES;SMIRKING FACE;NEUTRAL FACE;EXPRESSIONLESS FACE;UNAMUSED FACE;FACE dCOLD ",
    "SWEAT;PENSIVE FACE;CONFUSED FACE;CONFOUNDED FACE;KISSING FACE;FACE THROWING A KISS;KISSING F",
    "ACE dSMILING EYES;KISSING FACE dCLOSED EYES;FACE dSTUCK-OUT TONGUE;FACE dSTUCK-OUT TONGUE pW",
    "INKING EYE;FACE dSTUCK-OUT TONGUE pTIGHTLY-CLOSED EYES;DISAPPOINTED FACE;WORRIED FACE;ANGRY ",
    "FACE;POUTING FACE;CRYING FACE;PERSEVERING FACE;FACE dLOOK OF TRIUMPH;DISAPPOINTED BUT RELIEV",
    "ED FACE;FROWNING FACE dOPEN MOUTH;ANGUISHED FACE;FEARFUL FACE;WEARY FACE;SLEEPY FACE;TIRED F",
    "ACE;GRIMACING FACE;LOUDLY CRYING FACE;FACE dOPEN MOUTH;HUSHED FACE;FACE dOPEN MOUTH pCOLD SW",
    "EAT;FACE SCREAMING IN FEAR;ASTONISHED FACE;FLUSHED FACE;SLEEPING FACE;DIZZY FACE;FACE WITHOU",
    "T MOUTH;FACE dMEDICAL MASK;GRINNING CAT FACE dSMILING EYES;CAT FACE dTEARS OF JOY;SMILING CA",
    "T FACE dOPEN MOUTH;SMILING CAT FACE dHEART-SHAPED EYES;CAT FACE dWRY SMILE;KISSING CAT FACE ",
    "dCLOSED EYES;POUTING CAT FACE;CRYING CAT FACE;WEARY CAT FACE;SLIGHTLY FROWNING FACE;SLIGHTLY",
    " SMILING FACE;UPSIDE-DOWN FACE;FACE dROLLING EYES;FACE dNO GOOD GESTURE;FACE dOK GESTURE;PER",
    "SON BOWING DEEPLY;SEE-NO-EVIL MONKEY;HEAR-NO-EVIL MONKEY;SPEAK-NO-EVIL MONKEY;HAPPY PERSON R",
    "AISING ONE HAND;PERSON RAISING BOTH HANDS IN CELEBRATION;PERSON FROWNING;PERSON dPOUTING FAC",
    "E;PERSON dFOLDED HANDS"]),
  (0x1F680, [
    "ROCKET"])]

-- Other names of characters that have none of their own or more than one.
def others : List (String × Nat) := [
  ("NULL", 0), ("NUL", 0), ("ALERT", 7), ("BEL", 7), ("BACKSPACE", 8), ("BS", 8),
  ("CHARACTER TABULATION", 9), ("HORIZONTAL TABULATION", 9), ("HT", 9), ("TAB", 9),
  ("LINE FEED", 10), ("NEW LINE", 10), ("END OF LINE", 10), ("LF", 10), ("NL", 10), ("EOL", 10),
  ("LINE TABULATION", 11), ("VERTICAL TABULATION", 11), ("VT", 11), ("FORM FEED", 12), ("FF", 12),
  ("CARRIAGE RETURN", 13), ("CR", 13), ("ESCAPE", 27), ("ESC", 27), ("SP", 32), ("DELETE", 127),
  ("DEL", 127), ("NEXT LINE", 133), ("NEL", 133), ("NBSP", 160), ("SHY", 173), ("ZWSP", 8203),
  ("ZWNJ", 8204), ("ZWJ", 8205), ("LRM", 8206), ("RLM", 8207), ("NNBSP", 8239), ("WJ", 8288),
  ("BYTE ORDER MARK", 65279), ("BOM", 65279), ("ZWNBSP", 65279)]

def expanded (c : Char) : Text :=
  match shorthands.find? (·.1 == c) with
  | some (_, words) => words.toList
  | none => [c]

def namesOf (pieces : List String) : List Text :=
  Text.split ';' ((pieces.flatMap String.toList).flatMap expanded)

def ideographLead : Text := "CJK UNIFIED IDEOGRAPH-".toList

-- Where ideographs that are named by their code points start and end.
def ideographs : List (Nat × Nat) := [
  (0x3400, 0x4DBF), (0x4E00, 0x9FFF), (0x20000, 0x2A6DF), (0x2A700, 0x2B738), (0x2B740, 0x2B81D),
  (0x2B820, 0x2CEA1), (0x2CEB0, 0x2EBE0), (0x30000, 0x3134A)]

def isNameDigit (c : Char) : Bool :=
  c.isDigit || ('A' ≤ c && c ≤ 'F')

def ideograph? (name : Text) : Option Char := do
  let digits ← Text.after? ideographLead name
  if (digits.length = 4 ∨ digits.length = 5) ∧ digits.all isNameDigit then
    let n := digits.foldl (fun n c => n * 16 + (hexValue? c).getD 0) 0
    if ideographs.any fun (first, last) => first ≤ n && n ≤ last then some (Char.ofNat n) else none
  else none

-- The character of a name, whose letters may be of either case.
def find? (name : Text) : Option Char :=
  let capitals := name.map Char.toUpper
  match ideograph? name with
  | some c => some c
  | none =>
    match others.find? (fun entry => entry.1.toList == capitals) with
    | some (_, n) => some (Char.ofNat n)
    | none =>
      runs.findSome? fun (first, pieces) =>
        ((namesOf pieces).idxOf? capitals).map fun i => Char.ofNat (first + i)

end BraceTemplate.CharName
