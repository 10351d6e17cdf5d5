import TypeCatalog.Text.CodePoint

/-!
# Names of European and Near Eastern letters

Latin, Greek, Cyrillic, Armenian, Hebrew and Arabic, with ASCII before them.
-/

namespace TypeCatalog.Text.CharacterName

/-- The names from U+0020 to U+08FF. -/
def alphabets : List NameRun := [
  ⟨0x20, ["SPACEfEXCLAMATION MARKqQUOTATION MARKoNUMBER SIGNlDOLLAR SIGNlPERCENT SIGNmAMPERSAND",
    "iPOSTROPHEkLEFT PARENTHESISqRIGHT PARENTHESISrASTERISKiPLUS SIGNjCOMMAfHYPHEN-MINUSmFULL STOP",
    "jSOLIDUShDIGIT ZEROeONEdTWOcHREEfFOURdIVEeSIXcEVENfEIGHTfNINEkCOLONfSEMICOLONjLESS-THAN SIGN",
    "oEQUALS SIGNlGREATER-THAN SIGNrQUESTION MARKnCOMMERCIAL ATnLATIN CAPITAL LETTER AbBbCbDbEbFbG",
    "bHbIbJbKbLbMbNbObPbQbRbSbTbUbVbWbXbYbZvEFT SQUARE BRACKETtREVERSE SOLIDUSoIGHT SQUARE BRACKET",
    "uCIRCUMFLEX ACCENTrLOW LINEiGRAVE ACCENTmLATIN SMALL LETTER AbBbCbDbEbFbGbHbIbJbKbLbMbNbObPbQ",
    "bRbSbTbUbVbWbXbYbZtEFT CURLY BRACKETsVERTICAL LINEnRIGHT CURLY BRACKETtTILDE"]⟩,
  ⟨0xa0, ["NO-BREAK SPACEoINVERTED EXCLAMATION MARKzCENT SIGNjPOUND SIGNkCURRENCY SIGNnYEN SIGN",
    "iBROKEN BARkSECTION SIGNmDIAERESISjCOPYRIGHT SIGNoFEMININE ORDINAL INDICATOR",
    "zbLEFT-POINTING DOUBLE ANGLE QUOTATION MARKzqNOT SIGNiSOFT HYPHENlREGISTERED SIGNpMACRON",
    "gDEGREE SIGNlPLUS-MINUS SIGNpSUPERSCRIPT TWOcHREErACUTE ACCENTmMICRO SIGNkPILCROW SIGN",
    "mMIDDLE DOTkCEDILLAhSUPERSCRIPT ONEpMASCULINE ORDINAL INDICATOR",
    "zcRIGHT-POINTING DOUBLE ANGLE QUOTATION MARKzrVULGAR FRACTION ONE QUARTERhHALFiTHREE QUARTERS",
    "zfINVERTED QUESTION MARKwLATIN CAPITAL LETTER A WITH GRAVEfACUTEfCIRCUMFLEXkTILDEfDIAERESIS",
    "jRING ABOVEqEcC WITH CEDILLAoE WITH GRAVEfACUTEfCIRCUMFLEXkDIAERESISqI WITH GRAVEfACUTE",
    "fCIRCUMFLEXkDIAERESISqETHdN WITH TILDEmO WITH GRAVEfACUTEfCIRCUMFLEXkTILDEfDIAERESIS",
    "zmMULTIPLICATION SIGNtLATIN CAPITAL LETTER O WITH STROKEnU WITH GRAVEfACUTEfCIRCUMFLEX",
    "kDIAERESISqY WITH ACUTEmTHORNuSMALL LETTER SHARP ShA WITH GRAVEfACUTEfCIRCUMFLEXkTILDE",
    "fDIAERESISjRING ABOVEqEcC WITH CEDILLAoE WITH GRAVEfACUTEfCIRCUMFLEXkDIAERESISqI WITH GRAVE",
    "fACUTEfCIRCUMFLEXkDIAERESISqETHdN WITH TILDEmO WITH GRAVEfACUTEfCIRCUMFLEXkTILDEfDIAERESIS",
    "zkDIVISION SIGNnLATIN SMALL LETTER O WITH STROKEnU WITH GRAVEfACUTEfCIRCUMFLEXkDIAERESIS",
    "qY WITH ACUTEmTHORNfY WITH DIAERESISzeCAPITAL LETTER A WITH MACRON",
    "zdSMALL LETTER A WITH MACRONzbCAPITAL LETTER A WITH BREVEzcSMALL LETTER A WITH BREVE",
    "zCAPITAL LETTER A WITH OGONEKzdSMALL LETTER A WITH OGONEKzbCAPITAL LETTER C WITH ACUTE",
    "zcSMALL LETTER C WITH ACUTEzCAPITAL LETTER C WITH CIRCUMFLEXzhSMALL LETTER C WITH CIRCUMFLEX",
    "zfCAPITAL LETTER C WITH DOT ABOVEzgSMALL LETTER C WITH DOT ABOVEzeCAPITAL LETTER C WITH CARON",
    "zcSMALL LETTER C WITH CARONzCAPITAL LETTER D WITH CARONzcSMALL LETTER D WITH CARON",
    "zCAPITAL LETTER D WITH STROKEzdSMALL LETTER D WITH STROKEzbCAPITAL LETTER E WITH MACRON",
    "zdSMALL LETTER E WITH MACRONzbCAPITAL LETTER E WITH BREVEzcSMALL LETTER E WITH BREVE",
    "zCAPITAL LETTER E WITH DOT ABOVEzgSMALL LETTER E WITH DOT ABOVEzeCAPITAL LETTER E WITH OGONEK",
    "zdSMALL LETTER E WITH OGONEKzbCAPITAL LETTER E WITH CARONzcSMALL LETTER E WITH CARON",
    "zCAPITAL LETTER G WITH CIRCUMFLEXzhSMALL LETTER G WITH CIRCUMFLEX",
    "zfCAPITAL LETTER G WITH BREVEzcSMALL LETTER G WITH BREVEzCAPITAL LETTER G WITH DOT ABOVE",
    "zgSMALL LETTER G WITH DOT ABOVEzeCAPITAL LETTER G WITH CEDILLAzeSMALL LETTER G WITH CEDILLA",
    "zcCAPITAL LETTER H WITH CIRCUMFLEXzhSMALL LETTER H WITH CIRCUMFLEX",
    "zfCAPITAL LETTER H WITH STROKEzdSMALL LETTER H WITH STROKEzbCAPITAL LETTER I WITH TILDE",
    "zcSMALL LETTER I WITH TILDEzCAPITAL LETTER I WITH MACRONzdSMALL LETTER I WITH MACRON",
    "zbCAPITAL LETTER I WITH BREVEzcSMALL LETTER I WITH BREVEzCAPITAL LETTER I WITH OGONEK",
    "zdSMALL LETTER I WITH OGONEKzbCAPITAL LETTER I WITH DOT ABOVEzgSMALL LETTER DOTLESS I",
    "wCAPITAL LIGATURE IJtSMALL LIGATURE IJrCAPITAL LETTER J WITH CIRCUMFLEX",
    "zhSMALL LETTER J WITH CIRCUMFLEXzfCAPITAL LETTER K WITH CEDILLAzeSMALL LETTER K WITH CEDILLA",
    "nRAqCAPITAL LETTER L WITH ACUTEzcSMALL LETTER L WITH ACUTEzCAPITAL LETTER L WITH CEDILLA",
    "zeSMALL LETTER L WITH CEDILLAzcCAPITAL LETTER L WITH CARONzcSMALL LETTER L WITH CARON",
    "zCAPITAL LETTER L WITH MIDDLE DOTzhSMALL LETTER L WITH MIDDLE DOT",
    "zfCAPITAL LETTER L WITH STROKEzdSMALL LETTER L WITH STROKEzbCAPITAL LETTER N WITH ACUTE",
    "zcSMALL LETTER N WITH ACUTEzCAPITAL LETTER N WITH CEDILLAzeSMALL LETTER N WITH CEDILLA",
    "zcCAPITAL LETTER N WITH CARONzcSMALL LETTER N WITH CARONkPRECEDED BY APOSTROPHE",
    "zmCAPITAL LETTER ENGsSMALL LETTER ENGqCAPITAL LETTER O WITH MACRON",
    "zdSMALL LETTER O WITH MACRONzbCAPITAL LETTER O WITH BREVEzcSMALL LETTER O WITH BREVE",
    "zCAPITAL LETTER O WITH DOUBLE ACUTEzjSMALL LETTER O WITH DOUBLE ACUTEzhCAPITAL LIGATURE OE",
    "tSMALL LIGATURE OErCAPITAL LETTER R WITH ACUTEzcSMALL LETTER R WITH ACUTE",
    "zCAPITAL LETTER R WITH CEDILLAzeSMALL LETTER R WITH CEDILLAzcCAPITAL LETTER R WITH CARON",
    "zcSMALL LETTER R WITH CARONzCAPITAL LETTER S WITH ACUTEzcSMALL LETTER S WITH ACUTE",
    "zCAPITAL LETTER S WITH CIRCUMFLEXzhSMALL LETTER S WITH CIRCUMFLEX",
    "zfCAPITAL LETTER S WITH CEDILLAzeSMALL LETTER S WITH CEDILLAzcCAPITAL LETTER S WITH CARON",
    "zcSMALL LETTER S WITH CARONzCAPITAL LETTER T WITH CEDILLAzeSMALL LETTER T WITH CEDILLA",
    "zcCAPITAL LETTER T WITH CARONzcSMALL LETTER T WITH CARONzCAPITAL LETTER T WITH STROKE",
    "zdSMALL LETTER T WITH STROKEzbCAPITAL LETTER U WITH TILDEzcSMALL LETTER U WITH TILDE",
    "zCAPITAL LETTER U WITH MACRONzdSMALL LETTER U WITH MACRONzbCAPITAL LETTER U WITH BREVE",
    "zcSMALL LETTER U WITH BREVEzCAPITAL LETTER U WITH RING ABOVEzhSMALL LETTER U WITH RING ABOVE",
    "zfCAPITAL LETTER U WITH DOUBLE ACUTEzjSMALL LETTER U WITH DOUBLE ACUTE",
    "zhCAPITAL LETTER U WITH OGONEKzdSMALL LETTER U WITH OGONEKzbCAPITAL LETTER W WITH CIRCUMFLEX",
    "zhSMALL LETTER W WITH CIRCUMFLEXzfCAPITAL LETTER Y WITH CIRCUMFLEX",
    "zhSMALL LETTER Y WITH CIRCUMFLEXzfCAPITAL LETTER Y WITH DIAERESISqZ WITH ACUTE",
    "zcSMALL LETTER Z WITH ACUTEzCAPITAL LETTER Z WITH DOT ABOVEzgSMALL LETTER Z WITH DOT ABOVE",
    "zeCAPITAL LETTER Z WITH CARONzcSMALL LETTER Z WITH CARONmLONG SgB WITH STROKE",
    "zbCAPITAL LETTER B WITH HOOKeTOPBARzdSMALL LETTER B WITH TOPBARzbCAPITAL LETTER TONE SIX",
    "xSMALL LETTER TONE SIXvCAPITAL LETTER OPEN OgC WITH HOOKzbSMALL LETTER C WITH HOOK",
    "yCAPITAL LETTER AFRICAN DjD WITH HOOKeTOPBARzdSMALL LETTER D WITH TOPBARnTURNED DELTA",
    "zCAPITAL LETTER REVERSED EkSCHWAfOPEN EgF WITH HOOKzbSMALL LETTER F WITH HOOK",
    "yCAPITAL LETTER G WITH HOOKkAMMAuSMALL LETTER HVpCAPITAL LETTER IOTAd WITH STROKEnK WITH HOOK",
    "zbSMALL LETTER K WITH HOOKlL WITH BARjAMBDA WITH STROKEzgCAPITAL LETTER TURNED M",
    "iN WITH LEFT HOOKzgSMALL LETTER N WITH LONG RIGHT LEGzjCAPITAL LETTER O WITH MIDDLE TILDE",
    "mHORNzbSMALL LETTER O WITH HORNyCAPITAL LETTER OIrSMALL LETTER OIpCAPITAL LETTER P WITH HOOK",
    "zbSMALL LETTER P WITH HOOKyLETTER YRjCAPITAL LETTER TONE TWOxSMALL LETTER TONE TWO",
    "vCAPITAL LETTER ESHsLETTER REVERSED ESH LOOPySMALL LETTER T WITH PALATAL HOOK",
    "zhCAPITAL LETTER T WITH HOOKzbSMALL LETTER T WITH HOOKyCAPITAL LETTER T WITH RETROFLEX HOOK",
    "vU WITH HORNzbSMALL LETTER U WITH HORNyCAPITAL LETTER UPSILONhV WITH HOOKlY WITH HOOK",
    "zbSMALL LETTER Y WITH HOOKyCAPITAL LETTER Z WITH STROKEzdSMALL LETTER Z WITH STROKE",
    "zbCAPITAL LETTER EZHa REVERSEDzcSMALL LETTER EZH REVERSEDiWITH TAILzbLETTER TWO WITH STROKE",
    "wCAPITAL LETTER TONE FIVEySMALL LETTER TONE FIVEwLETTER INVERTED GLOTTAL STOP WITH STROKE",
    "ziWYNNeDENTAL CLICKmLATERAL CLICKnALVEOLAR CLICKoRETROFLEX CLICKwCAPITAL LETTER DZ WITH CARON",
    "m WITH SMALL LETTER Z WITH CARONzwSMALL LETTER DZ WITH CARONzbCAPITAL LETTER LJ",
    "b WITH SMALL LETTER JzlSMALL LETTER LJpCAPITAL LETTER NJb WITH SMALL LETTER J",
    "zlSMALL LETTER NJpCAPITAL LETTER A WITH CARONzcSMALL LETTER A WITH CARON",
    "zCAPITAL LETTER I WITH CARONzcSMALL LETTER I WITH CARONzCAPITAL LETTER O WITH CARON",
    "zcSMALL LETTER O WITH CARONzCAPITAL LETTER U WITH CARONzcSMALL LETTER U WITH CARON",
    "zCAPITAL LETTER U WITH DIAERESIS AND MACRONzrSMALL LETTER U WITH DIAERESIS AND MACRON",
    "zpCAPITAL LETTER U WITH DIAERESIS AND ACUTEzqSMALL LETTER U WITH DIAERESIS AND ACUTE",
    "zoCAPITAL LETTER U WITH DIAERESIS AND CARONzqSMALL LETTER U WITH DIAERESIS AND CARON",
    "zoCAPITAL LETTER U WITH DIAERESIS AND GRAVEzqSMALL LETTER U WITH DIAERESIS AND GRAVE",
    "zbTURNED EvCAPITAL LETTER A WITH DIAERESIS AND MACRON",
    "zrSMALL LETTER A WITH DIAERESIS AND MACRONzpCAPITAL LETTER A WITH DOT ABOVE AND MACRON",
    "zrSMALL LETTER A WITH DOT ABOVE AND MACRONzpCAPITAL LETTER AE WITH MACRON",
    "zeSMALL LETTER AE WITH MACRONzcCAPITAL LETTER G WITH STROKEzdSMALL LETTER G WITH STROKE",
    "zbCAPITAL LETTER G WITH CARONzcSMALL LETTER G WITH CARONzCAPITAL LETTER K WITH CARON",
    "zcSMALL LETTER K WITH CARONzCAPITAL LETTER O WITH OGONEKzdSMALL LETTER O WITH OGONEK",
    "zbCAPITAL LETTER O WITH OGONEK AND MACRONzoSMALL LETTER O WITH OGONEK AND MACRON",
    "zmCAPITAL LETTER EZH WITH CARONzeSMALL LETTER EZH WITH CARONoJ WITH CARONzCAPITAL LETTER DZ",
    "b WITH SMALL LETTER ZzlSMALL LETTER DZpCAPITAL LETTER G WITH ACUTEzcSMALL LETTER G WITH ACUTE",
    "zCAPITAL LETTER HWAIRfWYNNeN WITH GRAVEzcSMALL LETTER N WITH GRAVE",
    "zCAPITAL LETTER A WITH RING ABOVE AND ACUTEzrSMALL LETTER A WITH RING ABOVE AND ACUTE",
    "zpCAPITAL LETTER AE WITH ACUTEzdSMALL LETTER AE WITH ACUTE",
    "zbCAPITAL LETTER O WITH STROKE AND ACUTEznSMALL LETTER O WITH STROKE AND ACUTE",
    "zlCAPITAL LETTER A WITH DOUBLE GRAVEzjSMALL LETTER A WITH DOUBLE GRAVE",
    "zhCAPITAL LETTER A WITH INVERTED BREVEzlSMALL LETTER A WITH INVERTED BREVE",
    "zjCAPITAL LETTER E WITH DOUBLE GRAVEzjSMALL LETTER E WITH DOUBLE GRAVE",
    "zhCAPITAL LETTER E WITH INVERTED BREVEzlSMALL LETTER E WITH INVERTED BREVE",
    "zjCAPITAL LETTER I WITH DOUBLE GRAVEzjSMALL LETTER I WITH DOUBLE GRAVE",
    "zhCAPITAL LETTER I WITH INVERTED BREVEzlSMALL LETTER I WITH INVERTED BREVE",
    "zjCAPITAL LETTER O WITH DOUBLE GRAVEzjSMALL LETTER O WITH DOUBLE GRAVE",
    "zhCAPITAL LETTER O WITH INVERTED BREVEzlSMALL LETTER O WITH INVERTED BREVE",
    "zjCAPITAL LETTER R WITH DOUBLE GRAVEzjSMALL LETTER R WITH DOUBLE GRAVE",
    "zhCAPITAL LETTER R WITH INVERTED BREVEzlSMALL LETTER R WITH INVERTED BREVE",
    "zjCAPITAL LETTER U WITH DOUBLE GRAVEzjSMALL LETTER U WITH DOUBLE GRAVE",
    "zhCAPITAL LETTER U WITH INVERTED BREVEzlSMALL LETTER U WITH INVERTED BREVE",
    "zjCAPITAL LETTER S WITH COMMA BELOWziSMALL LETTER S WITH COMMA BELOW",
    "zgCAPITAL LETTER T WITH COMMA BELOWziSMALL LETTER T WITH COMMA BELOWzgCAPITAL LETTER YOGH",
    "tSMALL LETTER YOGHrCAPITAL LETTER H WITH CARONzcSMALL LETTER H WITH CARON",
    "zCAPITAL LETTER N WITH LONG RIGHT LEGzlSMALL LETTER D WITH CURLyCAPITAL LETTER OU",
    "rSMALL LETTER OUpCAPITAL LETTER Z WITH HOOKzbSMALL LETTER Z WITH HOOK",
    "yCAPITAL LETTER A WITH DOT ABOVEzgSMALL LETTER A WITH DOT ABOVE",
    "zeCAPITAL LETTER E WITH CEDILLAzeSMALL LETTER E WITH CEDILLA",
    "zcCAPITAL LETTER O WITH DIAERESIS AND MACRONzrSMALL LETTER O WITH DIAERESIS AND MACRON",
    "zpCAPITAL LETTER O WITH TILDE AND MACRONznSMALL LETTER O WITH TILDE AND MACRON",
    "zlCAPITAL LETTER O WITH DOT ABOVEzgSMALL LETTER O WITH DOT ABOVE",
    "zeCAPITAL LETTER O WITH DOT ABOVE AND MACRONzrSMALL LETTER O WITH DOT ABOVE AND MACRON",
    "zpCAPITAL LETTER Y WITH MACRONzdSMALL LETTER Y WITH MACRONnL WITH CURLlN WITH CURL",
    "lT WITH CURLlDOTLESS JiB DIGRAPHkQP DIGRAPHxCAPITAL LETTER A WITH STROKEnC WITH STROKE",
    "zdSMALL LETTER C WITH STROKEzbCAPITAL LETTER L WITH BARkT WITH DIAGONAL STROKE",
    "zmSMALL LETTER S WITH SWASH TAILrZ WITH SWASH TAILzfCAPITAL LETTER GLOTTAL STOP",
    "zcSMALL LETTER GLOTTAL STOPzCAPITAL LETTER B WITH STROKEnU BARfTURNED ViE WITH STROKE",
    "zdSMALL LETTER E WITH STROKEzbCAPITAL LETTER J WITH STROKEzdSMALL LETTER J WITH STROKE",
    "zbCAPITAL LETTER SMALL Q WITH HOOK TAILzmSMALL LETTER Q WITH HOOK TAIL",
    "zeCAPITAL LETTER R WITH STROKEzdSMALL LETTER R WITH STROKEzbCAPITAL LETTER Y WITH STROKE",
    "zdSMALL LETTER Y WITH STROKEnTURNED AiALPHAfTURNED ALPHAmB WITH HOOKlOPEN OgC WITH CURL",
    "lD WITH TAILeHOOKlREVERSED EkSCHWAa WITH HOOKpOPEN EgREVERSED OPEN Ea WITH HOOK",
    "zCLOSED REVERSED OPEN EwDOTLESS J WITH STROKEvG WITH HOOKlSCRIPT GvLETTER SMALL CAPITAL G",
    "wSMALL LETTER GAMMAfRAMS HORNjTURNED HiH WITH HOOKkENG WITH HOOKoI WITH STROKEmOTA",
    "rLETTER SMALL CAPITAL IwSMALL LETTER L WITH MIDDLE TILDEmBELTeRETROFLEX HOOKuEZHeTURNED M",
    "a WITH LONG LEGwM WITH HOOKlN WITH LEFT HOOKjRETROFLEX HOOKzjLETTER SMALL CAPITAL N",
    "wSMALL LETTER BARRED OvLETTER SMALL CAPITAL OExSMALL LETTER CLOSED OMEGAmPHIdTURNED R",
    "a WITH LONG LEGiHOOKsR WITH LONG LEGiTAILeFISHHOOKoEVERSED R WITH FISHHOOK",
    "zmLETTER SMALL CAPITAL RbINVERTED RzgSMALL LETTER S WITH HOOKlESH",
    "dDOTLESS J WITH STROKE AND HOOKzfSQUAT REVERSED ESHsESH WITH CURLnTURNED T",
    "h WITH RETROFLEX HOOKvU BARePSILONhV WITH HOOKlTURNED VbWbYvLETTER SMALL CAPITAL Y",
    "wSMALL LETTER Z WITH RETROFLEX HOOKoCURLlEZHa WITH CURLzbLETTER GLOTTAL STOP",
    "mPHARYNGEAL VOICED FRICATIVEzcINVERTED GLOTTAL STOPvSTRETCHED ClBILABIAL CLICK",
    "oSMALL CAPITAL BwSMALL LETTER CLOSED OPEN EzbLETTER SMALL CAPITAL G WITH HOOKlH",
    "wSMALL LETTER J WITH CROSSED-TAILtTURNED KvLETTER SMALL CAPITAL LwSMALL LETTER Q WITH HOOK",
    "yLETTER GLOTTAL STOP WITH STROKEyREVERSED GLOTTAL STOP WITH STROKEzpSMALL LETTER DZ DIGRAPH",
    "jEZH DIGRAPHlZ DIGRAPH WITH CURLuTS DIGRAPHjESH DIGRAPHlC DIGRAPH WITH CURLuFENG DIGRAPH",
    "mLS DIGRAPHjZ DIGRAPHxLETTER BILABIAL PERCUSSIVErDENTAL PERCUSSIVE",
    "zbSMALL LETTER TURNED H WITH FISHHOOKa AND TAILzzMODIFIER LETTER SMALL Ha WITH HOOKlJbR",
    "bTURNED Ra WITH HOOKsCAPITAL INVERTED RsWbYhPRIMEfDOUBLE PRIMEmTURNED COMMAmAPOSTROPHE",
    "kREVERSED COMMAnIGHT HALF RINGpLEFT HALF RINGoGLOTTAL STOPmREVERSED GLOTTAL STOP",
    "vLEFT ARROWHEADoRIGHT ARROWHEADpUP ARROWHEADmDOWN ARROWHEADoCIRCUMFLEX ACCENTziCARON",
    "fMODIFIER LETTER VERTICAL LINEnMACRONgACUTE ACCENTmGRAVE ACCENTmLOW VERTICAL LINEnMACRON",
    "gGRAVE ACCENTmACUTE ACCENTqTRIANGULAR COLONqHALF TRIANGULAR COLONvCENTRED RIGHT HALF RING",
    "pLEFT HALF RINGwUP TACKhDOWN TACKjPLUS SIGNjMINUS SIGNzbBREVEfDOT ABOVEjRING ABOVEkOGONEK",
    "gSMALL TILDElDOUBLE ACUTE ACCENTtMODIFIER LETTER RHOTIC HOOKlCROSS ACCENTmSMALL GAMMAfLbSbX",
    "bREVERSED GLOTTAL STOPzcEXTRA-HIGH TONE BARtHIGH TONE BARnMID TONE BARmLOW TONE BAR",
    "mEXTRA-LOW TONE BARsYIN DEPARTING TONE MARKwANG DEPARTING TONE MARKyVOICINGhUNASPIRATED",
    "lDOUBLE APOSTROPHErLOW DOWN ARROWHEADoUP ARROWHEADmLEFT ARROWHEADoRIGHT ARROWHEADnNG",
    "iMIDDLE GRAVE ACCENTmDOUBLE GRAVE ACCENTmACUTE ACCENTzbLOW TILDEjRAISED COLONmBEGIN HIGH TONE",
    "pEND HIGH TONEnBEGIN LOW TONEoEND LOW TONEmSHELFfOPEN SHELFkLOW LEFT ARROW",
    "zfCOMBINING GRAVE ACCENTmACUTE ACCENTmCIRCUMFLEX ACCENTrTILDEfMACRONgOVERLINEiBREVEfDOT ABOVE",
    "iIAERESISjHOOK ABOVEkRING ABOVEkDOUBLE ACUTE ACCENTtCARONfVERTICAL LINE ABOVE",
    "tDOUBLE VERTICAL LINE ABOVEtGRAVE ACCENTtCANDRABINDUlINVERTED BREVEoTURNED COMMA ABOVE",
    "sCOMMA ABOVElREVERSED COMMA ABOVEuCOMMA ABOVE RIGHTrGRAVE ACCENT BELOWsACUTE ACCENT BELOW",
    "sLEFT TACK BELOWpRIGHT TACK BELOWqLEFT ANGLE ABOVEqHORNeLEFT HALF RING BELOWuUP TACK BELOW",
    "nDOWN TACK BELOWpPLUS SIGN BELOWpMINUS SIGN BELOWqPALATALIZED HOOK BELOWwRETROFLEX HOOK BELOW",
    "uDOT BELOWiIAERESIS BELOWpRING BELOWkCOMMA BELOWkEDILLAhOGONEKgVERTICAL LINE BELOW",
    "tBRIDGE BELOWmINVERTED DOUBLE ARCH BELOWzbCARON BELOWkIRCUMFLEX ACCENT BELOWxBREVE BELOW",
    "lINVERTED BREVE BELOWuTILDE BELOWlMACRON BELOWmLOW LINEiDOUBLE LOW LINEpTILDE OVERLAY",
    "nSHORT STROKE OVERLAYuLONG STROKE OVERLAYtSHORT SOLIDUS OVERLAYvLONG SOLIDUS OVERLAY",
    "uRIGHT HALF RING BELOWvINVERTED BRIDGE BELOWvSQUARE BELOWlEAGULL BELOWnX ABOVEhVERTICAL TILDE",
    "oDOUBLE OVERLINEpGRAVE TONE MARKpACUTE TONE MARKpGREEK PERISPOMENIlKORONIShDIALYTIKA TONOS",
    "pYPOGEGRAMMENItBRIDGE ABOVEmEQUALS SIGN BELOWrDOUBLE VERTICAL LINE BELOWzbLEFT ANGLE BELOW",
    "qNOT TILDE ABOVEpHOMOTHETIC ABOVEqALMOST EQUAL TO ABOVEvLEFT RIGHT ARROW BELOW",
    "wUPWARDS ARROW BELOWtGRAPHEME JOINERpRIGHT ARROWHEAD ABOVEvLEFT HALF RING ABOVEuFERMATA",
    "hX BELOWhLEFT ARROWHEAD BELOWuRIGHT ARROWHEAD BELOWfAND UP ARROWHEAD BELOWzhHALF RING ABOVE",
    "vDOT ABOVE RIGHTpASTERISK BELOWoDOUBLE RING BELOWrZIGZAG ABOVEmDOUBLE BREVE BELOWhEfMACRON",
    "a BELOWmTILDEfINVERTED BREVEoRIGHTWARDS ARROW BELOWzeLATIN SMALL LETTER AbEbIbObUbCbDbHbMbRbT",
    "bVbXzfGREEK CAPITAL LETTER HETAtSMALL LETTER HETArCAPITAL LETTER ARCHAIC SAMPI",
    "zdSMALL LETTER ARCHAIC SAMPIzbNUMERAL SIGNmLOWER NUMERAL SIGN",
    "sCAPITAL LETTER PAMPHYLIAN DIGAMMAziSMALL LETTER PAMPHYLIAN DIGAMMA"]⟩,
  ⟨0x37a, ["GREEK YPOGEGRAMMENInSMALL REVERSED LUNATE SIGMA SYMBOLzdDOTTED LUNATE SIGMA SYMBOL",
    "zbREVERSED DOTTED LUNATE SIGMA SYMBOLzqQUESTION MARKnCAPITAL LETTER YOT"]⟩,
  ⟨0x384, ["GREEK TONOSfDIALYTIKA TONOSpCAPITAL LETTER ALPHA WITH TONOSzgANO TELEIA",
    "kCAPITAL LETTER EPSILON WITH TONOSrTA WITH TONOSoIOTA WITH TONOS"]⟩,
  ⟨0x38c, ["GREEK CAPITAL LETTER OMICRON WITH TONOS"]⟩,
  ⟨0x38e, ["GREEK CAPITAL LETTER UPSILON WITH TONOSsOMEGA WITH TONOS",
    "zgSMALL LETTER IOTA WITH DIALYTIKA AND TONOSzrCAPITAL LETTER ALPHAfBETAeGAMMAfDELTAfEPSILON",
    "hZETAeETAdTHETAfIOTAeKAPPAfLAMDAfMUcNUcXIcOMICRONhPIcRHO"]⟩,
  ⟨0x3a3, ["GREEK CAPITAL LETTER SIGMAfTAUdUPSILONhPHIdCHIdPSIdOMEGAfIOTA WITH DIALYTIKA",
    "tUPSILON WITH DIALYTIKAzmSMALL LETTER ALPHA WITH TONOSqEPSILON WITH TONOSrTA WITH TONOS",
    "oIOTA WITH TONOSpUPSILON WITH DIALYTIKA AND TONOSzhALPHAfBETAeGAMMAfDELTAfEPSILONhZETAeETA",
    "dTHETAfIOTAeKAPPAfLAMDAfMUcNUcXIcOMICRONhPIcRHOdFINAL SIGMAlSIGMAfTAUdUPSILONhPHIdCHIdPSI",
    "dOMEGAfIOTA WITH DIALYTIKAtUPSILON WITH DIALYTIKAwOMICRON WITH TONOSsUPSILON WITH TONOS",
    "sOMEGA WITH TONOSzeCAPITAL KAI SYMBOLsBETA SYMBOLlTHETA SYMBOLmUPSILON WITH HOOK SYMBOL",
    "lACUTE AND HOOK SYMBOLvDIAERESIS AND HOOK SYMBOLznPHI SYMBOLjI SYMBOLjKAI SYMBOL",
    "kLETTER ARCHAIC KOPPAuSMALL LETTER ARCHAIC KOPPAzbLETTER STIGMAnSMALL LETTER STIGMA",
    "tLETTER DIGAMMAoSMALL LETTER DIGAMMAuLETTER KOPPAmSMALL LETTER KOPPAsLETTER SAMPI",
    "mSMALL LETTER SAMPIyCOPTIC CAPITAL LETTER SHEItSMALL LETTER SHEIrCAPITAL LETTER FEI",
    "sSMALL LETTER FEIqCAPITAL LETTER KHEItSMALL LETTER KHEIrCAPITAL LETTER HORItSMALL LETTER HORI",
    "rCAPITAL LETTER GANGIAvSMALL LETTER GANGIAtCAPITAL LETTER SHIMAuSMALL LETTER SHIMA",
    "sCAPITAL LETTER DEIsSMALL LETTER DEIxGREEK KAPPA SYMBOLmRHO SYMBOLkLUNATE SIGMA SYMBOL",
    "sETTER YOTkCAPITAL THETA SYMBOLuLUNATE EPSILON SYMBOLvREVERSED LUNATE EPSILON SYMBOL",
    "zfCAPITAL LETTER SHOsSMALL LETTER SHOqCAPITAL LUNATE SIGMA SYMBOLsETTER SANsSMALL LETTER SAN",
    "qRHO WITH STROKE SYMBOLwCAPITAL REVERSED LUNATE SIGMA SYMBOLzdDOTTED LUNATE SIGMA SYMBOL",
    "zbREVERSED DOTTED LUNATE SIGMA SYMBOLzyCYRILLIC CAPITAL LETTER IE WITH GRAVEmOcDJEdGJE",
    "dUKRAINIAN IEmDZEdBYELORUSSIAN-UKRAINIAN IyYIcJEcLJEdNJEdTSHEeKJEdI WITH GRAVEmSHORT UhDZHEeA",
    "bBEcVEcGHEdDEcIEcZHEcEcIbSHORT IhKAcELbMbNcObPEcERbScTEcUbEFcHAcTSEdCHEdSHAbCHAfHARD SIGN",
    "jYERUeSOFT SIGNjEbYUbArSMALL LETTER AbBEcVEcGHEdDEcIEcZHEcEcIbSHORT IhKAcELbMbNcObPEcERbScTE",
    "cUbEFcHAcTSEdCHEdSHAbCHAfHARD SIGNjYERUeSOFT SIGNjEbYUbAcIE WITH GRAVEmOcDJEdGJEdUKRAINIAN IE",
    "mDZEdBYELORUSSIAN-UKRAINIAN IyYIcJEcLJEdNJEdTSHEeKJEdI WITH GRAVEmSHORT UhDZHE",
    "rCAPITAL LETTER OMEGAuSMALL LETTER OMEGAsCAPITAL LETTER YATsSMALL LETTER YAT",
    "qCAPITAL LETTER IOTIFIED EzSMALL LETTER IOTIFIED ExCAPITAL LETTER LITTLE YUS",
    "zSMALL LETTER LITTLE YUSxCAPITAL LETTER IOTIFIED LITTLE YUSzjSMALL LETTER IOTIFIED LITTLE YUS",
    "zhCAPITAL LETTER BIG YUSwSMALL LETTER BIG YUSuCAPITAL LETTER IOTIFIED BIG YUS",
    "zgSMALL LETTER IOTIFIED BIG YUSzeCAPITAL LETTER KSIsSMALL LETTER KSIqCAPITAL LETTER PSI",
    "sSMALL LETTER PSIqCAPITAL LETTER FITAtSMALL LETTER FITArCAPITAL LETTER IZHITSA",
    "wSMALL LETTER IZHITSAuCAPITAL LETTER IZHITSA WITH DOUBLE GRAVE ACCENT",
    "zwSMALL LETTER IZHITSA WITH DOUBLE GRAVE ACCENTzuCAPITAL LETTER UKrSMALL LETTER UK",
    "pCAPITAL LETTER ROUND OMEGAzbSMALL LETTER ROUND OMEGAyCAPITAL LETTER OMEGA WITH TITLO",
    "zgSMALL LETTER OMEGA WITH TITLOzeCAPITAL LETTER OTrSMALL LETTER OTpCAPITAL LETTER KOPPA",
    "uSMALL LETTER KOPPAsTHOUSANDS SIGNwOMBINING CYRILLIC TITLOfPALATALIZATIONoDASIA PNEUMATA",
    "oPSILI PNEUMATAnOKRYTIEiHUNDRED THOUSANDS SIGNwMILLIONS SIGN",
    "zgYRILLIC CAPITAL LETTER SHORT I WITH TAILzhSMALL LETTER SHORT I WITH TAIL",
    "zfCAPITAL LETTER SEMISOFT SIGNzdSMALL LETTER SEMISOFT SIGNzbCAPITAL LETTER ER WITH TICK",
    "zcSMALL LETTER ER WITH TICKzCAPITAL LETTER GHE WITH UPTURNzfSMALL LETTER GHE WITH UPTURN",
    "zdCAPITAL LETTER GHE WITH STROKEzfSMALL LETTER GHE WITH STROKE",
    "zdCAPITAL LETTER GHE WITH MIDDLE HOOKzkSMALL LETTER GHE WITH MIDDLE HOOK",
    "ziCAPITAL LETTER ZHE WITH DESCENDERziSMALL LETTER ZHE WITH DESCENDER",
    "zgCAPITAL LETTER ZE WITH DESCENDERzhSMALL LETTER ZE WITH DESCENDER",
    "zfCAPITAL LETTER KA WITH DESCENDERzhSMALL LETTER KA WITH DESCENDER",
    "zfCAPITAL LETTER KA WITH VERTICAL STROKEznSMALL LETTER KA WITH VERTICAL STROKE",
    "zlCAPITAL LETTER KA WITH STROKEzeSMALL LETTER KA WITH STROKEzcCAPITAL LETTER BASHKIR KA",
    "zSMALL LETTER BASHKIR KAxCAPITAL LETTER EN WITH DESCENDERzhSMALL LETTER EN WITH DESCENDER",
    "zfCAPITAL LIGATURE EN GHExSMALL LIGATURE EN GHEvCAPITAL LETTER PE WITH MIDDLE HOOK",
    "zjSMALL LETTER PE WITH MIDDLE HOOKzhCAPITAL LETTER ABKHASIAN HAzcSMALL LETTER ABKHASIAN HA",
    "zCAPITAL LETTER ES WITH DESCENDERzhSMALL LETTER ES WITH DESCENDER",
    "zfCAPITAL LETTER TE WITH DESCENDERzhSMALL LETTER TE WITH DESCENDERzfCAPITAL LETTER STRAIGHT U",
    "zSMALL LETTER STRAIGHT UxCAPITAL LETTER STRAIGHT U WITH STROKE",
    "zmSMALL LETTER STRAIGHT U WITH STROKEzkCAPITAL LETTER HA WITH DESCENDER",
    "zhSMALL LETTER HA WITH DESCENDERzfCAPITAL LIGATURE TE TSExSMALL LIGATURE TE TSE",
    "vCAPITAL LETTER CHE WITH DESCENDERziSMALL LETTER CHE WITH DESCENDER",
    "zgCAPITAL LETTER CHE WITH VERTICAL STROKEzoSMALL LETTER CHE WITH VERTICAL STROKE",
    "zmCAPITAL LETTER SHHAtSMALL LETTER SHHArCAPITAL LETTER ABKHASIAN CHE",
    "zdSMALL LETTER ABKHASIAN CHEzbCAPITAL LETTER ABKHASIAN CHE WITH DESCENDER",
    "zsSMALL LETTER ABKHASIAN CHE WITH DESCENDERzqLETTER PALOCHKApCAPITAL LETTER ZHE WITH BREVE",
    "zeSMALL LETTER ZHE WITH BREVEzcCAPITAL LETTER KA WITH HOOKzcSMALL LETTER KA WITH HOOK",
    "zCAPITAL LETTER EL WITH TAILzcSMALL LETTER EL WITH TAILzCAPITAL LETTER EN WITH HOOK",
    "zcSMALL LETTER EN WITH HOOKzCAPITAL LETTER EN WITH TAILzcSMALL LETTER EN WITH TAIL",
    "zCAPITAL LETTER KHAKASSIAN CHEzeSMALL LETTER KHAKASSIAN CHEzcCAPITAL LETTER EM WITH TAIL",
    "zcSMALL LETTER EM WITH TAILmPALOCHKAvCAPITAL LETTER A WITH BREVEzcSMALL LETTER A WITH BREVE",
    "zCAPITAL LETTER A WITH DIAERESISzgSMALL LETTER A WITH DIAERESISzeCAPITAL LIGATURE A IE",
    "vSMALL LIGATURE A IEtCAPITAL LETTER IE WITH BREVEzdSMALL LETTER IE WITH BREVE",
    "zbCAPITAL LETTER SCHWAuSMALL LETTER SCHWAsCAPITAL LETTER SCHWA WITH DIAERESIS",
    "zkSMALL LETTER SCHWA WITH DIAERESISziCAPITAL LETTER ZHE WITH DIAERESIS",
    "ziSMALL LETTER ZHE WITH DIAERESISzgCAPITAL LETTER ZE WITH DIAERESIS",
    "zhSMALL LETTER ZE WITH DIAERESISzfCAPITAL LETTER ABKHASIAN DZEzdSMALL LETTER ABKHASIAN DZE",
    "zbCAPITAL LETTER I WITH MACRONzdSMALL LETTER I WITH MACRONzbCAPITAL LETTER I WITH DIAERESIS",
    "zgSMALL LETTER I WITH DIAERESISzeCAPITAL LETTER O WITH DIAERESIS",
    "zgSMALL LETTER O WITH DIAERESISzeCAPITAL LETTER BARRED OxSMALL LETTER BARRED O",
    "vCAPITAL LETTER BARRED O WITH DIAERESISznSMALL LETTER BARRED O WITH DIAERESIS",
    "zlCAPITAL LETTER E WITH DIAERESISzgSMALL LETTER E WITH DIAERESIS",
    "zeCAPITAL LETTER U WITH MACRONzdSMALL LETTER U WITH MACRONzbCAPITAL LETTER U WITH DIAERESIS",
    "zgSMALL LETTER U WITH DIAERESISzeCAPITAL LETTER U WITH DOUBLE ACUTE",
    "zjSMALL LETTER U WITH DOUBLE ACUTEzhCAPITAL LETTER CHE WITH DIAERESIS",
    "ziSMALL LETTER CHE WITH DIAERESISzgCAPITAL LETTER GHE WITH DESCENDER",
    "ziSMALL LETTER GHE WITH DESCENDERzgCAPITAL LETTER YERU WITH DIAERESIS",
    "zjSMALL LETTER YERU WITH DIAERESISzhCAPITAL LETTER GHE WITH STROKE AND HOOK",
    "zoSMALL LETTER GHE WITH STROKE AND HOOKzmCAPITAL LETTER HA WITH HOOK",
    "zcSMALL LETTER HA WITH HOOKzCAPITAL LETTER HA WITH STROKEzeSMALL LETTER HA WITH STROKE",
    "zcCAPITAL LETTER KOMI DEwSMALL LETTER KOMI DEuCAPITAL LETTER KOMI DJExSMALL LETTER KOMI DJE",
    "vCAPITAL LETTER KOMI ZJExSMALL LETTER KOMI ZJEvCAPITAL LETTER KOMI DZJE",
    "ySMALL LETTER KOMI DZJEwCAPITAL LETTER KOMI LJExSMALL LETTER KOMI LJEvCAPITAL LETTER KOMI NJE",
    "xSMALL LETTER KOMI NJEvCAPITAL LETTER KOMI SJExSMALL LETTER KOMI SJEvCAPITAL LETTER KOMI TJE",
    "xSMALL LETTER KOMI TJEvCAPITAL LETTER REVERSED ZEzbSMALL LETTER REVERSED ZE",
    "yCAPITAL LETTER EL WITH HOOKzcSMALL LETTER EL WITH HOOKzCAPITAL LETTER LHAsSMALL LETTER LHA",
    "qCAPITAL LETTER RHAsSMALL LETTER RHAqCAPITAL LETTER YAEsSMALL LETTER YAEqCAPITAL LETTER QA",
    "rSMALL LETTER QApCAPITAL LETTER WErSMALL LETTER WEpCAPITAL LETTER ALEUT KA",
    "xSMALL LETTER ALEUT KAvCAPITAL LETTER EL WITH MIDDLE HOOKzjSMALL LETTER EL WITH MIDDLE HOOK",
    "zhCAPITAL LETTER EN WITH MIDDLE HOOKzjSMALL LETTER EN WITH MIDDLE HOOK",
    "zhCAPITAL LETTER PE WITH DESCENDERzhSMALL LETTER PE WITH DESCENDER",
    "zfCAPITAL LETTER SHHA WITH DESCENDERzjSMALL LETTER SHHA WITH DESCENDER",
    "zhCAPITAL LETTER EN WITH LEFT HOOKzhSMALL LETTER EN WITH LEFT HOOKzfCAPITAL LETTER DZZHE",
    "uSMALL LETTER DZZHEsCAPITAL LETTER DCHEtSMALL LETTER DCHErCAPITAL LETTER EL WITH DESCENDER",
    "zhSMALL LETTER EL WITH DESCENDER"]⟩,
  ⟨0x531, ["ARMENIAN CAPITAL LETTER AYBdBENdGIMdDAcECHdZAcEHbTcTOcZHEdINIdLIWNeXEHdCAcKENdHOcJA",
    "cGHADeCHEHeMENdYIcNOWdSHAdVOcCHAdPEHdJHEHeRAcSEHdVEWdTIWNeREHdCOcYIWNePIWReKEHdOHcFEH"]⟩,
  ⟨0x559, ["ARMENIAN MODIFIER LETTER LEFT HALF RINGzfAPOSTROPHEkEMPHASIS MARKmXCLAMATION MARK",
    "qCOMMAfQUESTION MARKnABBREVIATION MARKrSMALL LETTER TURNED AYBkAYBdBENdGIMdDAcECHdZAcEHbTcTO",
    "cZHEdINIdLIWNeXEHdCAcKENdHOcJAcGHADeCHEHeMENdYIcNOWdSHAdVOcCHAdPEHdJHEHeRAcSEHdVEWdTIWNeREH",
    "dCOcYIWNePIWReKEHdOHcFEHjIGATURE ECH YIWNqETTER YI WITH STROKEzcFULL STOPjHYPHEN"]⟩,
  ⟨0x58d, ["RIGHT-FACING ARMENIAN ETERNITY SIGNzkLEFT-FACING ARMENIAN ETERNITY SIGN",
    "zjARMENIAN DRAM SIGN"]⟩,
  ⟨0x591, ["HEBREW ACCENT ETNAHTAhSEGOLeHALSHELETkZAQEF QATANfGADOLlTIPEHAgREVIAfZARQAfPASHTA",
    "gYETIVfTEVIRfGERESHa MUQDAMkSHAYIMjQARNEY PARAlTELISHA GEDOLAoPAZERfATNAH HAFUKHmMUNAH",
    "eAHAPAKHhERKHAa KEFULAnDARGAfQADMAfTELISHA QETANAoYERAH BEN YOMOoOLEdILUYeDEHIeZINOR",
    "mMARK MASORA CIRCLEsPOINT SHEVAfHATAF SEGOLfPATAHfQAMATSlIRIQfTSEREfSEGOLfPATAHfQAMATSgHOLAM",
    "a HASER FOR VAVtQUBUTSgDAGESH OR MAPIQpMETEGkUNCTUATION MAQAFqOINT RAFEjUNCTUATION PASEQ",
    "qOINT SHIN DOThIN DOTmUNCTUATION SOF PASUQvMARK UPPER DOTjLOWER DOToPUNCTUATION NUN HAFUKHA",
    "wOINT QAMATS QATAN"]⟩,
  ⟨0x5d0, ["HEBREW LETTER ALEFeBETdGIMELfDALETfHEcVAVdZAYINfHETdTETdYODdFINAL KAFjKAFdLAMED",
    "fFINAL MEMjMEMdFINAL NUNjNUNdSAMEKHgAYINeFINAL PEiPEcFINAL TSADIlTSADIfQOFdRESHeSHINeTAV"]⟩,
  ⟨0x5ef, ["HEBREW YOD TRIANGLEmLIGATURE YIDDISH DOUBLE VAVkVAV YODhDOUBLE YODzcPUNCTUATION GERESH",
    "dSHAYIM"]⟩,
  ⟨0x600, ["ARABIC NUMBER SIGNlSIGN SANAHkFOOTNOTE MARKERpSIGN SAFHAdMVATlNUMBER MARK ABOVE",
    "s-INDIC CUBE ROOTjFOURTH ROOTs RAYe-INDIC PER MILLE SIGNkTEN THOUSAND SIGNziFGHANI SIGN",
    "lRABIC COMMAfDATE SEPARATORoPOETIC VERSE SIGNrSIGN MISRAfSALLALLAHOU ALAYHE WASSALLAM",
    "zdALAYHE ASSALLAMpRAHMATULLAH ALAYHEqDI ALLAHOU ANHUrTAKHALLUSnMALL HIGH TAH",
    "dLIGATURE ALEF WITH LAM WITH YEHzgZAINjFATHAfDAMMAfKASRAkEMICOLONjLETTER MARK",
    "lEND OF TEXT MARKqTRIPLE DOT PUNCTUATION MARKzcQUESTION MARKnLETTER KASHMIRI YEHmHAMZA",
    "fALEF WITH MADDA ABOVElHAMZA ABOVEvWAW WITH HAMZA ABOVEuALEF WITH HAMZA BELOW",
    "vYEH WITH HAMZA ABOVEuALEFeBEHdTEH MARBUTAjHcHEHeJEEMeHAHdKHAHeDALdTHALeREHdZAINeSEENdHEENeAD",
    "dDADdTAHdZAHdAINdGHAINfKEHEH WITH TWO DOTS ABOVEnHREE DOTS BELOWzcFARSI YEH WITH INVERTED V",
    "kTWO DOTS ABOVEnHREE DOTS ABOVEznTATWEELhLETTER FEHdQAFdKAFdLAMdMEEMeNOONeHEHdWAW",
    "dALEF MAKSURAmYEHkFATHATANiDAMMATANiKASRATANiFATHAfDAMMAfKASRAfSHADDAfUKUNfMADDAH ABOVE",
    "mHAMZA ABOVEfBELOWlSUBSCRIPT ALEFoINVERTED DAMMAoMARK NOON GHUNNAqZWARAKAY",
    "iVOWEL SIGN SMALL V ABOVEnINVERTED SMALL V ABOVEwDOT BELOWuREVERSED DAMMAoFATHA WITH TWO DOTS",
    "tWAVY HAMZA BELOWr-INDIC DIGIT ZEROeONEdTWOcHREEfFOURdIVEeSIXcEVENfEIGHTfNINEr PERCENT SIGN",
    "mDECIMAL SEPARATORrTHOUSANDS SEPARATORtFIVE POINTED STARrLETTER DOTLESS BEHdQAF",
    "lSUPERSCRIPT ALEFqALEF WASLAeITH WAVY HAMZA ABOVEfBELOWzbHIGH HAMZAa ALEFeWAW",
    "oU WITH HAMZA ABOVEsHIGH HAMZA YEHoTTEHaEHgBEEHeTEH WITH RINGeTHREE DOTS ABOVE DOWNWARDSzkPEH",
    "dTEHEHfBEHEHfHAH WITH HAMZA ABOVElTWO DOTS VERTICAL ABOVEzhNYEHeDYEH",
    "eHAH WITH THREE DOTS ABOVEzTCHEHaEHhDDALdAL WITH RINGeDOT BELOWa AND SMALL TAHzfHALeDAHALfUL",
    "cAL WITH THREE DOTS ABOVE DOWNWARDSzbFOUR DOTS ABOVEyRREHdEH WITH SMALL VhRINGeDOT BELOW",
    "jSMALL V BELOWnDOT BELOW AND DOT ABOVExTWO DOTS ABOVExJEHdREH WITH FOUR DOTS ABOVE",
    "ySEEN WITH DOT BELOW AND DOT ABOVExTHREE DOTS BELOWa AND THREE DOTS ABOVE",
    "zvAD WITH TWO DOTS BELOWnHREE DOTS ABOVEzTAH WITH THREE DOTS ABOVEzAIN WITH THREE DOTS ABOVE",
    "zDOTLESS FEHlFEH WITH DOT MOVED BELOWlBELOWsVEHdFEH WITH THREE DOTS BELOWzPEHEH",
    "fQAF WITH DOT ABOVEjTHREE DOTS ABOVEzKEHEHfSWASH KAFjKAF WITH RINGeDOT ABOVEsNG",
    "cKAF WITH THREE DOTS BELOWzGAFa WITH RINGnNGOEHfGAF WITH TWO DOTS BELOWwUEH",
    "dAF WITH THREE DOTS ABOVEzLAM WITH SMALL VhDOT ABOVEjTHREE DOTS ABOVEfBELOW",
    "zNOON WITH DOT BELOWoGHUNNAlRNOONfNOON WITH RINGeTHREE DOTS ABOVEzbHEH DOACHASHMEE",
    "pTCHEH WITH DOT ABOVEuHEH WITH YEH ABOVEoGOALa WITH HAMZA ABOVEzTEH MARBUTA GOAL",
    "qWAW WITH RINGnKIRGHIZ OEkOEcUbYUcKIRGHIZ YUkWAW WITH TWO DOTS ABOVExVEcFARSI YEH",
    "jYEH WITH TAILeSMALL VqWAW WITH DOT ABOVEsEbYEH WITH THREE DOTS BELOWvBARREE",
    "a WITH HAMZA ABOVEzjFULL STOPjLETTER AEjSMALL HIGH LIGATURE SAD WITH LAM WITH ALEF MAKSURA",
    "zfQAF WITH LAM WITH ALEF MAKSURAzoMEEM INITIAL FORMrLAM ALEFiJEEMeTHREE DOTSkSEENpEND OF AYAH",
    "lSTART OF RUB EL HIZBtMALL HIGH ROUNDED ZEROmUPRIGHT RECTANGULAR ZEROyDOTLESS HEAD OF KHAH",
    "uMEEM ISOLATED FORMxLOW SEENiHIGH MADDAkWAWdYEHdHIGH YEHdNOONpPLACE OF SAJDAH",
    "pEMPTY CENTRE LOW STOPiHIGH STOPwROUNDED HIGH STOP WITH FILLED CENTREzlSMALL LOW MEEM",
    "oLETTER DAL WITH INVERTED VtREH WITH INVERTED VziEXTENDED ARABIC-INDIC DIGIT ZEROeONEdTWO",
    "cHREEfFOURdIVEeSIXcEVENfEIGHTfNINEzhARABIC LETTER SHEEN WITH DOT BELOWuDAD WITH DOT BELOW",
    "sGHAIN WITH DOT BELOWzcSIGN SINDHI AMPERSANDjPOSTPOSITION MENzdLETTER HEH WITH INVERTED V",
    "ziSYRIAC END OF PARAGRAPHqSUPRALINEAR FULL STOPtBLINEAR FULL STOPrPRALINEAR COLON",
    "pBLINEAR COLONpHORIZONTAL COLONqCOLON SKEWED LEFTeRIGHTsSUPRALINEAR COLON SKEWED LEFT",
    "zcBLINEAR COLON SKEWED RIGHTzdCONTRACTIONlHARKLEAN OBELUSgMETOBELUSjASTERISCUS"]⟩,
  ⟨0x70f, ["SYRIAC ABBREVIATION MARKrLETTER ALAPHfSUPERSCRIPT ALAPHrBETHeGAMALa GARSHUNIoDALATH",
    "fOTLESS DALATH RISHtHEcWAWdZAINeHETHeTETHa GARSHUNInYUDHa HEhKAPHeLAMADHgMIMdNUNdSEMKATH",
    "hFINAL SEMKATHnEbPEcREVERSED PElSADHEfQAPHeRISHeSHINeTAWdPERSIAN BHETHfGHAMALgDHALATH",
    "wPTHAHA ABOVEfBELOWfDOTTEDnZQAPHA ABOVEfBELOWfDOTTEDnRBASA ABOVEfBELOW",
    "lDOTTED ZLAMA HORIZONTALkANGULARuHBASA ABOVEfBELOWg-ESASA DOTTEDsESASA ABOVEfBELOWlRWAHA",
    "fFEMININE DOTmQUSHSHAYAjRUKKAKHAiTWO VERTICAL DOTS ABOVEfBELOWwHREE DOTS ABOVEfBELOW",
    "qOBLIQUE LINE ABOVEfBELOWsMUSICfBARREKH"]⟩,
  ⟨0x74d, ["SYRIAC LETTER SOGDIAN ZHAINfKHAPHfFE",
    "yARABIC LETTER BEH WITH THREE DOTS HORIZONTALLY BELOWzeDOT BELOW AND THREE DOTS ABOVE",
    "zfTHREE DOTS POINTING UPWARDS BELOWa AND TWO DOTS ABOVEzzbWO DOTS BELOW AND DOT ABOVE",
    "zdINVERTED SMALL V BELOWwSMALL VqHAH WITH TWO DOTS ABOVEnHREE DOTS POINTING UPWARDS BELOW",
    "zrDAL WITH TWO DOTS VERTICALLY BELOW AND SMALL TAHzoINVERTED SMALL V BELOWzgREH WITH STROKE",
    "pSEEN WITH FOUR DOTS ABOVEzAIN WITH TWO DOTS ABOVEnHREE DOTS POINTING DOWNWARDS ABOVE",
    "zjWO DOTS VERTICALLY ABOVEzjFEH WITH TWO DOTS BELOWnHREE DOTS POINTING UPWARDS BELOW",
    "zrKEHEH WITH DOT ABOVEjTHREE DOTS ABOVEfPOINTING UPWARDS BELOWztMEEM WITH DOT ABOVEfBELOW",
    "tNOON WITH TWO DOTS BELOWoSMALL TAHdVrLAM WITH BARmREH WITH TWO DOTS VERTICALLY ABOVE",
    "zHAMZA ABOVEuSEEN WITH TWO DOTS VERTICALLY ABOVEzkHAH WITH SMALL ARABIC LETTER TAH BELOW",
    "fAND TWO DOTSzuSEEN WITH SMALL ARABIC LETTER TAH AND TWO DOTS",
    "zvREH WITH SMALL ARABIC LETTER TAH AND TWO DOTSzuHAH WITH SMALL ARABIC LETTER TAH ABOVE",
    "znALEF WITH EXTENDED ARABIC-INDIC DIGIT TWO ABOVEiHREE ABOVE",
    "zyFARSI YEH WITH EXTENDED ARABIC-INDIC DIGIT TWO ABOVEiHREE ABOVElFOUR BELOW",
    "zzdWAW WITH EXTENDED ARABIC-INDIC DIGIT TWO ABOVEiHREE ABOVE",
    "zxYEH BARREE WITH EXTENDED ARABIC-INDIC DIGIT TWO ABOVEiHREE ABOVE",
    "zzfHAH WITH EXTENDED ARABIC-INDIC DIGIT FOUR BELOW",
    "zwSEEN WITH EXTENDED ARABIC-INDIC DIGIT FOUR ABOVEznINVERTED VuKAF WITH TWO DOTS ABOVE",
    "zmTHAANA LETTER HAAdSHAVIYANIjNOONUfRAAdBAAdLHAVIYANIjKAAFUfALIFUfVAAVUfMEEMUfFAAFUfDHAALU",
    "gTHAAeLAAMUfGAAFUeNAVIYANIjSEENUfDAVIYANIiZAVIYANIiTAVIYANIiYAAdPAVIYANIiJAVIYANIiCHAVIYANI",
    "jTTAAeHHAAeKHAAeTHAALUgZAAdSHEENUfAADHUgDAADHUgTOcZOcAINUeGHAINUgQAAFUfWAAVUmABAFILIgABAAFILI",
    "jIBIFILIhEEBEEFILIjUBUFILIhOOBOOFILIjEBEFILIgYBEYFILIjOBOFILIgABOAFILIjSUKUNfLETTER NAA"]⟩,
  ⟨0x7c0, ["NKO DIGIT ZEROeONEdTWOcHREEfFOURdIVEeSIXcEVENfEIGHTfNINEkLETTER AbEEcIbEbUbOOcO",
    "bDAGBASINNAkNbBAcPAcTAcJAcCHAdDAcRAbRAdSAcGBAdFAcKAcLAcNA WOLOSOjMAcNYAcAcHAcWAcYAcNYA WOLOSO",
    "kJONA JAcCHAdRAoCOMBINING SHORT HIGH TONEjLOW TONEiRISING TONErLONG DESCENDING TONEpHIGH TONE",
    "jLOW TONEiRISING TONEqNASALIZATION MARKrDOUBLE DOT ABOVEzbHIGH TONE APOSTROPHE",
    "uLOW TONE APOSTROPHEtSYMBOL OO DENNENjGBAKURUNENrCOMMAfEXCLAMATION MARKqLAJANYALAN"]⟩,
  ⟨0x7fd, ["NKO DANTAYALANjOROME SIGNlTAMAN SIGNoSAMARITAN LETTER ALAFeBITdGAMANfDALATfIYcBAAdZEN",
    "dITcTITdYUTdKAAFeLABATfMIMdNUNdSINGAAThINcFIcTSAADIYhQUFdRISHeSHANeTAAFlMARK INa-ALAF",
    "hOCCLUSIONjDAGESHkODIFIER LETTER EPENTHETIC YUTzeARK EPENTHETIC YUTtVOWEL SIGN LONG EgE",
    "bOVERLONG AAlLONG AAhAAcOVERLONG AkLONG AgAmMODIFIER LETTER SHORT AxVOWEL SIGN SHORT AhLONG U",
    "gUmMODIFIER LETTER IrVOWEL SIGN LONG IgIbObSUKUNqMARK NEQUDAA"]⟩,
  ⟨0x830, ["SAMARITAN PUNCTUATION NEQUDAAhAFSAAQfNGEDfBAUdATMAAUgSHIYYAALAAwABBREVIATION MARK",
    "rPUNCTUATION MELODIC QITSAnZIQAAfQITSAfZAEFeTURUeARKAANUhSOF MASHFAATmANNAAU"]⟩,
  ⟨0x840, ["MANDAIC LETTER HALQAfABbGbDbHcUSHENNAhAZcITcATTcKSAdKbLbMbNbScINcAPbSZcQbRbSHcT",
    "cDUSHENNAiKADdAINkAFFRICATION MARKqVOCALIZATION MARKrGEMINATION MARK"]⟩,
  ⟨0x85e, ["MANDAIC PUNCTUATION"]⟩,
  ⟨0x860, ["SYRIAC LETTER MALAYALAM NGAdJAcNYAdTTAdNNAbNAeBHAdRAcLLAbLAeSSA"]⟩,
  ⟨0x870, ["ARABIC LETTER ALEF WITH ATTACHED FATHAfTOP RIGHT FATHAyRIGHT MIDDLE STROKE",
    "tLEFT MIDDLE STROKEsATTACHED KASRAfBOTTOM RIGHT KASRAsROUND DOT ABOVEoIGHT ROUND DOT",
    "pLEFT ROUND DOToROUND DOT BELOWyDOT ABOVEjATTACHED TOP RIGHT FATHA AND DOT ABOVE",
    "znRIGHT MIDDLE STROKE AND DOT ABOVEziATTACHED BOTTOM RIGHT KASRA AND DOT ABOVE",
    "zhTOP RIGHT FATHA AND LEFT RINGznRIGHT MIDDLE STROKE AND LEFT RING",
    "ziATTACHED BOTTOM RIGHT KASRA AND LEFT RINGzhRIGHT HAMZAlLEFT HAMZA",
    "zlTATWEEL WITH OVERSTRUCK HAMZAfWAWoTWO DOTS BELOWzcLETTER THIN YEHpBASELINE ROUND DOT",
    "sRAISED ROUND DOTqLETTER NOON WITH INVERTED SMALL VzbHAH WITH INVERTED SMALL V BELOW",
    "zgTAH WITH DOT BELOWjTHREE DOTS BELOWzKEHEH WITH TWO DOTS VERTICALLY BELOWzsVERTICAL TAIL"]⟩,
  ⟨0x890, ["ARABIC POUND MARK ABOVEpIASTRE MARK ABOVE"]⟩,
  ⟨0x898, ["ARABIC SMALL HIGH WORD AL-JUZqLOW WORD ISHMAAMgMAALAgTASHEELwMADDA WAAJIB",
    "mSUPERSCRIPT ALEF MOKHASSASzbDOUBLED MADDAnHALF MADDA OVER MADDA",
    "vLETTER BEH WITH SMALL V BELOWnHAMZA ABOVEuJEEM WITH TWO DOTS ABOVEyTAH WITH TWO DOTS ABOVE",
    "xFEH WITH DOT BELOW AND THREE DOTS ABOVEzoQAF WITH DOT BELOWsLAM WITH DOUBLE BAR",
    "tMEEM WITH THREE DOTS ABOVEzbYEH WITH TWO DOTS BELOW AND HAMZA ABOVElDOT ABOVEzmREH WITH LOOP",
    "nWAW WITH DOT WITHINtROHINGYA YEHmLOW ALEFiDAL WITH THREE DOTS BELOW",
    "zSAD WITH THREE DOTS BELOWzGAF WITH INVERTED STROKEySTRAIGHT WAWmZAIN WITH INVERTED V ABOVE",
    "zbAIN WITH THREE DOTS BELOWzKAF WITH DOT BELOWsQAF WITH DOT BELOW AND NO DOTS ABOVE",
    "zlBEH WITH SMALL MEEM ABOVEzPEH WITH SMALL MEEM ABOVEzTEH WITH SMALL TEH ABOVE",
    "yREH WITH SMALL NOON ABOVEzYEH WITH TWO DOTS BELOW AND SMALL NOON ABOVEztAFRICAN FEHdQAFdNOON",
    "mPEH WITH SMALL VqTEH WITH SMALL VpTEH WITH SMALL VqCHEH WITH SMALL VsKEHEH WITH SMALL V",
    "sGHAIN WITH THREE DOTS ABOVEzcAFRICAN QAF WITH THREE DOTS ABOVEziJEEM WITH THREE DOTS ABOVE",
    "fBELOWzbLAM WITH SMALL ARABIC LETTER TAH ABOVEznGRAFlSMALL FARSI YEHjHIGH FARSI YEH",
    "jYEH BARREE WITH TWO DOTS BELOWzfWORD SAHiZAHoLARGE ROUND DOT ABOVEfBELOWvSUKUN BELOW",
    "lLARGE CIRCLE BELOWmROUND DOT INSIDE CIRCLE BELOWzkSMALL LOW WAWhHIGH WORD AR-RUBlSADdAINdQAF",
    "dNOON WITH KASRAuLOW NOON WITH KASRAtHIGH WORD ATH-THALATHAlS-SAJDAhN-NISFhSAKTAfQIFdWAQFA",
    "kFOOTNOTE MARKERpSIGN SAFHAvDISPUTED END OF AYAHuTURNED DAMMA BELOWsCURLY FATHAfDAMMAfKASRA",
    "fFATHATANiDAMMATANiKASRATANoTONE ONE DOT ABOVEnTWO DOTS ABOVEoLOOP ABOVEkONE DOT BELOW",
    "nTWO DOTS BELOWoLOOP BELOWpOPEN FATHATANiDAMMATANiKASRATANnSMALL HIGH WAWoFATHA WITH RING",
    "eDOT ABOVEuKASRA WITH DOT BELOWuLEFT ARROWHEAD ABOVEuRIGHT ARROWHEAD ABOVE",
    "vLEFT ARROWHEAD BELOWuRIGHT ARROWHEAD BELOWvDOUBLE RIGHT ARROWHEAD ABOVEa WITH DOT",
    "zmRIGHT ARROWHEAD ABOVE WITH DOTzfDAMMA WITH DOToMARK SIDEWAYS NOON GHUNNA"]⟩]

end TypeCatalog.Text.CharacterName
