import TypeCatalog.Text.CodePoint

/-!
# Names of punctuation and operators

Phonetic and accented letters, then punctuation, arrows and mathematical operators.
-/

namespace TypeCatalog.Text.CharacterName

/-- The names from U+1D00 to U+24FF. -/
def punctuation : List NameRun := [
  ⟨0x1d00, ["LATIN LETTER SMALL CAPITAL AaExSMALL LETTER TURNED AEwLETTER SMALL CAPITAL BARRED BiC",
    "bDbETHdEwSMALL LETTER TURNED OPEN EgIvLETTER SMALL CAPITAL JbKbL WITH STROKEnMbREVERSED NkO",
    "aPEN OzcSMALL LETTER SIDEWAYS OaPEN Of WITH STROKEwTURNED OEwLETTER SMALL CAPITAL OU",
    "xSMALL LETTER TOP HALF OkBOTTOM HALF OzbLETTER SMALL CAPITAL PbREVERSED RkTURNED RiTbU",
    "wSMALL LETTER SIDEWAYS UbDIAERESIZED UnTURNED MzfLETTER SMALL CAPITAL VbWbZbEZH",
    "rVOICED LARYNGEAL SPIRANTyAINqGREEK LETTER SMALL CAPITAL GAMMAfLAMDAfPIcRHOdPSI",
    "zfCYRILLIC LETTER SMALL CAPITAL ELzhMODIFIER LETTER CAPITAL AaEcBaARRED BiDbEbREVERSED EkGbH",
    "bIbJbKbLbMbNbREVERSED NkOaUcPbRbTbUbWjSMALL AbTURNED AiALPHAfTURNED AEjBbDbEbSCHWAfOPEN E",
    "gTURNED OPEN EnGbTURNED IiKbMbENGdOaPEN OgTOP HALF OkBOTTOM HALF OnPbTbUbSIDEWAYS UkTURNED M",
    "iVbAINdBETAeGREEK GAMMAlDELTAfGREEK PHIjCHIzLATIN SUBSCRIPT SMALL LETTER IbRbUbV",
    "zfGREEK SUBSCRIPT SMALL LETTER BETAeGAMMAfRHOdPHIdCHIzhLATIN SMALL LETTER UE",
    "cB WITH MIDDLE TILDEtD WITH MIDDLE TILDEtF WITH MIDDLE TILDEtM WITH MIDDLE TILDE",
    "tN WITH MIDDLE TILDEtP WITH MIDDLE TILDEtR WITH MIDDLE TILDEmFISHHOOK AND MIDDLE TILDE",
    "zhS WITH MIDDLE TILDEtT WITH MIDDLE TILDEtZ WITH MIDDLE TILDEtTURNED G",
    "zcMODIFIER LETTER CYRILLIC ENzcLATIN SMALL LETTER INSULAR GjTH WITH STRIKETHROUGH",
    "zdCAPITAL LETTER I WITH STROKEzdLETTER IOTA WITH STROKEqP WITH STROKE",
    "uCAPITAL LETTER U WITH STROKEzdLETTER UPSILON WITH STROKEtB WITH PALATAL HOOK",
    "tD WITH PALATAL HOOKtF WITH PALATAL HOOKtG WITH PALATAL HOOKtK WITH PALATAL HOOK",
    "tL WITH PALATAL HOOKtM WITH PALATAL HOOKtN WITH PALATAL HOOKtP WITH PALATAL HOOK",
    "tR WITH PALATAL HOOKtS WITH PALATAL HOOKtESH WITH PALATAL HOOKvV WITH PALATAL HOOK",
    "tX WITH PALATAL HOOKtZ WITH PALATAL HOOKtA WITH RETROFLEX HOOKuLPHA WITH RETROFLEX HOOK",
    "zD WITH HOOK AND TAILuE WITH RETROFLEX HOOKvOPEN E WITH RETROFLEX HOOK",
    "zbREVERSED OPEN E WITH RETROFLEX HOOKzkSCHWA WITH RETROFLEX HOOKzI WITH RETROFLEX HOOK",
    "vOPEN O WITH RETROFLEX HOOKzbESH WITH RETROFLEX HOOKxU WITH RETROFLEX HOOK",
    "vEZH WITH RETROFLEX HOOKzrMODIFIER LETTER SMALL TURNED ALPHAmCa WITH CURLlETHdREVERSED OPEN E",
    "pFbDOTLESS J WITH STROKEvSCRIPT GiTURNED HiI WITH STROKEmOTAeCAPITAL Ia WITH STROKE",
    "vJ WITH CROSSED-TAILtL WITH RETROFLEX HOOKoPALATAL HOOKtCAPITAL LjM WITH HOOK",
    "lTURNED M WITH LONG LEGwN WITH LEFT HOOKjRETROFLEX HOOKvCAPITAL NjBARRED OiPHIdS WITH HOOK",
    "lESHdT WITH PALATAL HOOKtU BARePSILONhCAPITAL UjV WITH HOOKlTURNED ViZa WITH RETROFLEX HOOK",
    "oCURLlEZHdTHETAzcCOMBINING DOTTED GRAVE ACCENTmACUTE ACCENTtSNAKE BELOWkUSPENSION MARK",
    "pMACRON-ACUTEmGRAVE-MACRONmMACRON-GRAVEmACUTE-MACRONmGRAVE-ACUTE-GRAVErACUTE-GRAVE-ACUTE",
    "rLATIN SMALL LETTER R BELOWzbBREVE-MACRONmMACRON-BREVEmDOUBLE CIRCUMFLEX ABOVExOGONEK ABOVE",
    "mZIGZAG BELOWmIS BELOWiUR ABOVEhS ABOVEiLATIN SMALL LETTER FLATTENED OPEN A ABOVEwAEbObV",
    "cC CEDILLAjINSULAR DjETHdGoLETTER SMALL CAPITAL GwSMALL LETTER KbLoLETTER SMALL CAPITAL LbM",
    "wSMALL LETTER NoLETTER SMALL CAPITAL NbRwSMALL LETTER R ROTUNDAjSbLONG SgZbALPHAfBaETAeSCHWA",
    "fFbL WITH DOUBLE MIDDLE TILDEzbO WITH LIGHT CENTRALIZATION STROKEzjPbESH",
    "dU WITH LIGHT CENTRALIZATION STROKEzjWbA WITH DIAERESISqO WITH DIAERESISqU WITH DIAERESIS",
    "zkUP TACK ABOVEnKAVYKA ABOVE RIGHTfLEFTrDOT ABOVE LEFToWIDE INVERTED BRIDGE BELOW",
    "zbDOT BELOW LEFTnELETION MARKmOUBLE INVERTED BREVE BELOWzcALMOST EQUAL TO BELOW",
    "vLEFT ARROWHEAD ABOVEuRIGHT ARROWHEAD AND DOWN ARROWHEAD BELOW",
    "zzLATIN CAPITAL LETTER A WITH RING BELOWzhSMALL LETTER A WITH RING BELOW",
    "zfCAPITAL LETTER B WITH DOT ABOVEzgSMALL LETTER B WITH DOT ABOVE",
    "zeCAPITAL LETTER B WITH DOT BELOWzgSMALL LETTER B WITH DOT BELOW",
    "zeCAPITAL LETTER B WITH LINE BELOWzhSMALL LETTER B WITH LINE BELOW",
    "zfCAPITAL LETTER C WITH CEDILLA AND ACUTEzoSMALL LETTER C WITH CEDILLA AND ACUTE",
    "zmCAPITAL LETTER D WITH DOT ABOVEzgSMALL LETTER D WITH DOT ABOVE",
    "zeCAPITAL LETTER D WITH DOT BELOWzgSMALL LETTER D WITH DOT BELOW",
    "zeCAPITAL LETTER D WITH LINE BELOWzhSMALL LETTER D WITH LINE BELOW",
    "zfCAPITAL LETTER D WITH CEDILLAzeSMALL LETTER D WITH CEDILLA",
    "zcCAPITAL LETTER D WITH CIRCUMFLEX BELOWznSMALL LETTER D WITH CIRCUMFLEX BELOW",
    "zlCAPITAL LETTER E WITH MACRON AND GRAVEznSMALL LETTER E WITH MACRON AND GRAVE",
    "zlCAPITAL LETTER E WITH MACRON AND ACUTEznSMALL LETTER E WITH MACRON AND ACUTE",
    "zlCAPITAL LETTER E WITH CIRCUMFLEX BELOWznSMALL LETTER E WITH CIRCUMFLEX BELOW",
    "zlCAPITAL LETTER E WITH TILDE BELOWziSMALL LETTER E WITH TILDE BELOW",
    "zgCAPITAL LETTER E WITH CEDILLA AND BREVEzoSMALL LETTER E WITH CEDILLA AND BREVE",
    "zmCAPITAL LETTER F WITH DOT ABOVEzgSMALL LETTER F WITH DOT ABOVE",
    "zeCAPITAL LETTER G WITH MACRONzdSMALL LETTER G WITH MACRONzbCAPITAL LETTER H WITH DOT ABOVE",
    "zgSMALL LETTER H WITH DOT ABOVEzeCAPITAL LETTER H WITH DOT BELOW",
    "zgSMALL LETTER H WITH DOT BELOWzeCAPITAL LETTER H WITH DIAERESIS",
    "zgSMALL LETTER H WITH DIAERESISzeCAPITAL LETTER H WITH CEDILLAzeSMALL LETTER H WITH CEDILLA",
    "zcCAPITAL LETTER H WITH BREVE BELOWziSMALL LETTER H WITH BREVE BELOW",
    "zgCAPITAL LETTER I WITH TILDE BELOWziSMALL LETTER I WITH TILDE BELOW",
    "zgCAPITAL LETTER I WITH DIAERESIS AND ACUTEzqSMALL LETTER I WITH DIAERESIS AND ACUTE",
    "zoCAPITAL LETTER K WITH ACUTEzcSMALL LETTER K WITH ACUTEzCAPITAL LETTER K WITH DOT BELOW",
    "zgSMALL LETTER K WITH DOT BELOWzeCAPITAL LETTER K WITH LINE BELOW",
    "zhSMALL LETTER K WITH LINE BELOWzfCAPITAL LETTER L WITH DOT BELOW",
    "zgSMALL LETTER L WITH DOT BELOWzeCAPITAL LETTER L WITH DOT BELOW AND MACRON",
    "zrSMALL LETTER L WITH DOT BELOW AND MACRONzpCAPITAL LETTER L WITH LINE BELOW",
    "zhSMALL LETTER L WITH LINE BELOWzfCAPITAL LETTER L WITH CIRCUMFLEX BELOW",
    "znSMALL LETTER L WITH CIRCUMFLEX BELOWzlCAPITAL LETTER M WITH ACUTE",
    "zcSMALL LETTER M WITH ACUTEzCAPITAL LETTER M WITH DOT ABOVEzgSMALL LETTER M WITH DOT ABOVE",
    "zeCAPITAL LETTER M WITH DOT BELOWzgSMALL LETTER M WITH DOT BELOW",
    "zeCAPITAL LETTER N WITH DOT ABOVEzgSMALL LETTER N WITH DOT ABOVE",
    "zeCAPITAL LETTER N WITH DOT BELOWzgSMALL LETTER N WITH DOT BELOW",
    "zeCAPITAL LETTER N WITH LINE BELOWzhSMALL LETTER N WITH LINE BELOW",
    "zfCAPITAL LETTER N WITH CIRCUMFLEX BELOWznSMALL LETTER N WITH CIRCUMFLEX BELOW",
    "zlCAPITAL LETTER O WITH TILDE AND ACUTEzmSMALL LETTER O WITH TILDE AND ACUTE",
    "zkCAPITAL LETTER O WITH TILDE AND DIAERESISzqSMALL LETTER O WITH TILDE AND DIAERESIS",
    "zoCAPITAL LETTER O WITH MACRON AND GRAVEznSMALL LETTER O WITH MACRON AND GRAVE",
    "zlCAPITAL LETTER O WITH MACRON AND ACUTEznSMALL LETTER O WITH MACRON AND ACUTE",
    "zlCAPITAL LETTER P WITH ACUTEzcSMALL LETTER P WITH ACUTEzCAPITAL LETTER P WITH DOT ABOVE",
    "zgSMALL LETTER P WITH DOT ABOVEzeCAPITAL LETTER R WITH DOT ABOVE",
    "zgSMALL LETTER R WITH DOT ABOVEzeCAPITAL LETTER R WITH DOT BELOW",
    "zgSMALL LETTER R WITH DOT BELOWzeCAPITAL LETTER R WITH DOT BELOW AND MACRON",
    "zrSMALL LETTER R WITH DOT BELOW AND MACRONzpCAPITAL LETTER R WITH LINE BELOW",
    "zhSMALL LETTER R WITH LINE BELOWzfCAPITAL LETTER S WITH DOT ABOVE",
    "zgSMALL LETTER S WITH DOT ABOVEzeCAPITAL LETTER S WITH DOT BELOW",
    "zgSMALL LETTER S WITH DOT BELOWzeCAPITAL LETTER S WITH ACUTE AND DOT ABOVE",
    "zqSMALL LETTER S WITH ACUTE AND DOT ABOVEzoCAPITAL LETTER S WITH CARON AND DOT ABOVE",
    "zqSMALL LETTER S WITH CARON AND DOT ABOVEzoCAPITAL LETTER S WITH DOT BELOW AND DOT ABOVE",
    "zuSMALL LETTER S WITH DOT BELOW AND DOT ABOVEzsCAPITAL LETTER T WITH DOT ABOVE",
    "zgSMALL LETTER T WITH DOT ABOVEzeCAPITAL LETTER T WITH DOT BELOW",
    "zgSMALL LETTER T WITH DOT BELOWzeCAPITAL LETTER T WITH LINE BELOW",
    "zhSMALL LETTER T WITH LINE BELOWzfCAPITAL LETTER T WITH CIRCUMFLEX BELOW",
    "znSMALL LETTER T WITH CIRCUMFLEX BELOWzlCAPITAL LETTER U WITH DIAERESIS BELOW",
    "zmSMALL LETTER U WITH DIAERESIS BELOWzkCAPITAL LETTER U WITH TILDE BELOW",
    "ziSMALL LETTER U WITH TILDE BELOWzgCAPITAL LETTER U WITH CIRCUMFLEX BELOW",
    "znSMALL LETTER U WITH CIRCUMFLEX BELOWzlCAPITAL LETTER U WITH TILDE AND ACUTE",
    "zmSMALL LETTER U WITH TILDE AND ACUTEzkCAPITAL LETTER U WITH MACRON AND DIAERESIS",
    "zrSMALL LETTER U WITH MACRON AND DIAERESISzpCAPITAL LETTER V WITH TILDE",
    "zcSMALL LETTER V WITH TILDEzCAPITAL LETTER V WITH DOT BELOWzgSMALL LETTER V WITH DOT BELOW",
    "zeCAPITAL LETTER W WITH GRAVEzcSMALL LETTER W WITH GRAVEzCAPITAL LETTER W WITH ACUTE",
    "zcSMALL LETTER W WITH ACUTEzCAPITAL LETTER W WITH DIAERESISzgSMALL LETTER W WITH DIAERESIS",
    "zeCAPITAL LETTER W WITH DOT ABOVEzgSMALL LETTER W WITH DOT ABOVE",
    "zeCAPITAL LETTER W WITH DOT BELOWzgSMALL LETTER W WITH DOT BELOW",
    "zeCAPITAL LETTER X WITH DOT ABOVEzgSMALL LETTER X WITH DOT ABOVE",
    "zeCAPITAL LETTER X WITH DIAERESISzgSMALL LETTER X WITH DIAERESIS",
    "zeCAPITAL LETTER Y WITH DOT ABOVEzgSMALL LETTER Y WITH DOT ABOVE",
    "zeCAPITAL LETTER Z WITH CIRCUMFLEXzhSMALL LETTER Z WITH CIRCUMFLEX",
    "zfCAPITAL LETTER Z WITH DOT BELOWzgSMALL LETTER Z WITH DOT BELOW",
    "zeCAPITAL LETTER Z WITH LINE BELOWzhSMALL LETTER Z WITH LINE BELOWrH WITH LINE BELOW",
    "rT WITH DIAERESISqW WITH RING ABOVErY WITH RING ABOVErA WITH RIGHT HALF RING",
    "wLONG S WITH DOT ABOVEiIAGONAL STROKEpHIGH STROKEzlCAPITAL LETTER SHARP SwSMALL LETTER DELTA",
    "sCAPITAL LETTER A WITH DOT BELOWzgSMALL LETTER A WITH DOT BELOW",
    "zeCAPITAL LETTER A WITH HOOK ABOVEzhSMALL LETTER A WITH HOOK ABOVE",
    "zfCAPITAL LETTER A WITH CIRCUMFLEX AND ACUTEzrSMALL LETTER A WITH CIRCUMFLEX AND ACUTE",
    "zpCAPITAL LETTER A WITH CIRCUMFLEX AND GRAVEzrSMALL LETTER A WITH CIRCUMFLEX AND GRAVE",
    "zpCAPITAL LETTER A WITH CIRCUMFLEX AND HOOK ABOVE",
    "zwSMALL LETTER A WITH CIRCUMFLEX AND HOOK ABOVEzuCAPITAL LETTER A WITH CIRCUMFLEX AND TILDE",
    "zrSMALL LETTER A WITH CIRCUMFLEX AND TILDEzpCAPITAL LETTER A WITH CIRCUMFLEX AND DOT BELOW",
    "zvSMALL LETTER A WITH CIRCUMFLEX AND DOT BELOWztCAPITAL LETTER A WITH BREVE AND ACUTE",
    "zmSMALL LETTER A WITH BREVE AND ACUTEzkCAPITAL LETTER A WITH BREVE AND GRAVE",
    "zmSMALL LETTER A WITH BREVE AND GRAVEzkCAPITAL LETTER A WITH BREVE AND HOOK ABOVE",
    "zrSMALL LETTER A WITH BREVE AND HOOK ABOVEzpCAPITAL LETTER A WITH BREVE AND TILDE",
    "zmSMALL LETTER A WITH BREVE AND TILDEzkCAPITAL LETTER A WITH BREVE AND DOT BELOW",
    "zqSMALL LETTER A WITH BREVE AND DOT BELOWzoCAPITAL LETTER E WITH DOT BELOW",
    "zgSMALL LETTER E WITH DOT BELOWzeCAPITAL LETTER E WITH HOOK ABOVE",
    "zhSMALL LETTER E WITH HOOK ABOVEzfCAPITAL LETTER E WITH TILDEzcSMALL LETTER E WITH TILDE",
    "zCAPITAL LETTER E WITH CIRCUMFLEX AND ACUTEzrSMALL LETTER E WITH CIRCUMFLEX AND ACUTE",
    "zpCAPITAL LETTER E WITH CIRCUMFLEX AND GRAVEzrSMALL LETTER E WITH CIRCUMFLEX AND GRAVE",
    "zpCAPITAL LETTER E WITH CIRCUMFLEX AND HOOK ABOVE",
    "zwSMALL LETTER E WITH CIRCUMFLEX AND HOOK ABOVEzuCAPITAL LETTER E WITH CIRCUMFLEX AND TILDE",
    "zrSMALL LETTER E WITH CIRCUMFLEX AND TILDEzpCAPITAL LETTER E WITH CIRCUMFLEX AND DOT BELOW",
    "zvSMALL LETTER E WITH CIRCUMFLEX AND DOT BELOWztCAPITAL LETTER I WITH HOOK ABOVE",
    "zhSMALL LETTER I WITH HOOK ABOVEzfCAPITAL LETTER I WITH DOT BELOW",
    "zgSMALL LETTER I WITH DOT BELOWzeCAPITAL LETTER O WITH DOT BELOW",
    "zgSMALL LETTER O WITH DOT BELOWzeCAPITAL LETTER O WITH HOOK ABOVE",
    "zhSMALL LETTER O WITH HOOK ABOVEzfCAPITAL LETTER O WITH CIRCUMFLEX AND ACUTE",
    "zrSMALL LETTER O WITH CIRCUMFLEX AND ACUTEzpCAPITAL LETTER O WITH CIRCUMFLEX AND GRAVE",
    "zrSMALL LETTER O WITH CIRCUMFLEX AND GRAVEzpCAPITAL LETTER O WITH CIRCUMFLEX AND HOOK ABOVE",
    "zwSMALL LETTER O WITH CIRCUMFLEX AND HOOK ABOVEzuCAPITAL LETTER O WITH CIRCUMFLEX AND TILDE",
    "zrSMALL LETTER O WITH CIRCUMFLEX AND TILDEzpCAPITAL LETTER O WITH CIRCUMFLEX AND DOT BELOW",
    "zvSMALL LETTER O WITH CIRCUMFLEX AND DOT BELOWztCAPITAL LETTER O WITH HORN AND ACUTE",
    "zlSMALL LETTER O WITH HORN AND ACUTEzjCAPITAL LETTER O WITH HORN AND GRAVE",
    "zlSMALL LETTER O WITH HORN AND GRAVEzjCAPITAL LETTER O WITH HORN AND HOOK ABOVE",
    "zqSMALL LETTER O WITH HORN AND HOOK ABOVEzoCAPITAL LETTER O WITH HORN AND TILDE",
    "zlSMALL LETTER O WITH HORN AND TILDEzjCAPITAL LETTER O WITH HORN AND DOT BELOW",
    "zpSMALL LETTER O WITH HORN AND DOT BELOWznCAPITAL LETTER U WITH DOT BELOW",
    "zgSMALL LETTER U WITH DOT BELOWzeCAPITAL LETTER U WITH HOOK ABOVE",
    "zhSMALL LETTER U WITH HOOK ABOVEzfCAPITAL LETTER U WITH HORN AND ACUTE",
    "zlSMALL LETTER U WITH HORN AND ACUTEzjCAPITAL LETTER U WITH HORN AND GRAVE",
    "zlSMALL LETTER U WITH HORN AND GRAVEzjCAPITAL LETTER U WITH HORN AND HOOK ABOVE",
    "zqSMALL LETTER U WITH HORN AND HOOK ABOVEzoCAPITAL LETTER U WITH HORN AND TILDE",
    "zlSMALL LETTER U WITH HORN AND TILDEzjCAPITAL LETTER U WITH HORN AND DOT BELOW",
    "zpSMALL LETTER U WITH HORN AND DOT BELOWznCAPITAL LETTER Y WITH GRAVE",
    "zcSMALL LETTER Y WITH GRAVEzCAPITAL LETTER Y WITH DOT BELOWzgSMALL LETTER Y WITH DOT BELOW",
    "zeCAPITAL LETTER Y WITH HOOK ABOVEzhSMALL LETTER Y WITH HOOK ABOVE",
    "zfCAPITAL LETTER Y WITH TILDEzcSMALL LETTER Y WITH TILDEzCAPITAL LETTER MIDDLE-WELSH LL",
    "zfSMALL LETTER MIDDLE-WELSH LLzdCAPITAL LETTER MIDDLE-WELSH VzeSMALL LETTER MIDDLE-WELSH V",
    "zcCAPITAL LETTER Y WITH LOOPzbSMALL LETTER Y WITH LOOPzfGREEK SMALL LETTER ALPHA WITH PSILI",
    "fDASIAfPSILI AND VARIApDASIA AND VARIApPSILI AND OXIAoDASIA AND OXIAoPSILI AND PERISPOMENI",
    "vDASIA AND PERISPOMENIzuCAPITAL LETTER ALPHA WITH PSILIfDASIAfPSILI AND VARIApDASIA AND VARIA",
    "pPSILI AND OXIAoDASIA AND OXIAoPSILI AND PERISPOMENIvDASIA AND PERISPOMENI",
    "zwSMALL LETTER EPSILON WITH PSILIfDASIAfPSILI AND VARIApDASIA AND VARIApPSILI AND OXIA",
    "oDASIA AND OXIA"]⟩,
  ⟨0x1f18, ["GREEK CAPITAL LETTER EPSILON WITH PSILIfDASIAfPSILI AND VARIApDASIA AND VARIA",
    "pPSILI AND OXIAoDASIA AND OXIA"]⟩,
  ⟨0x1f20, ["GREEK SMALL LETTER ETA WITH PSILIfDASIAfPSILI AND VARIApDASIA AND VARIA",
    "pPSILI AND OXIAoDASIA AND OXIAoPSILI AND PERISPOMENIvDASIA AND PERISPOMENI",
    "zsCAPITAL LETTER ETA WITH PSILIfDASIAfPSILI AND VARIApDASIA AND VARIApPSILI AND OXIA",
    "oDASIA AND OXIAoPSILI AND PERISPOMENIvDASIA AND PERISPOMENIzuSMALL LETTER IOTA WITH PSILI",
    "fDASIAfPSILI AND VARIApDASIA AND VARIApPSILI AND OXIAoDASIA AND OXIAoPSILI AND PERISPOMENI",
    "vDASIA AND PERISPOMENIztCAPITAL LETTER IOTA WITH PSILIfDASIAfPSILI AND VARIApDASIA AND VARIA",
    "pPSILI AND OXIAoDASIA AND OXIAoPSILI AND PERISPOMENIvDASIA AND PERISPOMENI",
    "zvSMALL LETTER OMICRON WITH PSILIfDASIAfPSILI AND VARIApDASIA AND VARIApPSILI AND OXIA",
    "oDASIA AND OXIA"]⟩,
  ⟨0x1f48, ["GREEK CAPITAL LETTER OMICRON WITH PSILIfDASIAfPSILI AND VARIApDASIA AND VARIA",
    "pPSILI AND OXIAoDASIA AND OXIA"]⟩,
  ⟨0x1f50, ["GREEK SMALL LETTER UPSILON WITH PSILIfDASIAfPSILI AND VARIApDASIA AND VARIA",
    "pPSILI AND OXIAoDASIA AND OXIAoPSILI AND PERISPOMENIvDASIA AND PERISPOMENI"]⟩,
  ⟨0x1f59, ["GREEK CAPITAL LETTER UPSILON WITH DASIA"]⟩,
  ⟨0x1f5b, ["GREEK CAPITAL LETTER UPSILON WITH DASIA AND VARIA"]⟩,
  ⟨0x1f5d, ["GREEK CAPITAL LETTER UPSILON WITH DASIA AND OXIA"]⟩,
  ⟨0x1f5f, ["GREEK CAPITAL LETTER UPSILON WITH DASIA AND PERISPOMENI",
    "zySMALL LETTER OMEGA WITH PSILIfDASIAfPSILI AND VARIApDASIA AND VARIApPSILI AND OXIA",
    "oDASIA AND OXIAoPSILI AND PERISPOMENIvDASIA AND PERISPOMENIzuCAPITAL LETTER OMEGA WITH PSILI",
    "fDASIAfPSILI AND VARIApDASIA AND VARIApPSILI AND OXIAoDASIA AND OXIAoPSILI AND PERISPOMENI",
    "vDASIA AND PERISPOMENIzwSMALL LETTER ALPHA WITH VARIAfOXIApEPSILON WITH VARIAfOXIA",
    "qTA WITH VARIAfOXIAnIOTA WITH VARIAfOXIAoOMICRON WITH VARIAfOXIArUPSILON WITH VARIAfOXIA",
    "rOMEGA WITH VARIAfOXIA"]⟩,
  ⟨0x1f80, ["GREEK SMALL LETTER ALPHA WITH PSILI AND YPOGEGRAMMENIxDASIA AND YPOGEGRAMMENI",
    "xPSILI AND VARIA AND YPOGEGRAMMENIziDASIA AND VARIA AND YPOGEGRAMMENI",
    "ziPSILI AND OXIA AND YPOGEGRAMMENIzhDASIA AND OXIA AND YPOGEGRAMMENI",
    "zhPSILI AND PERISPOMENI AND YPOGEGRAMMENIzoDASIA AND PERISPOMENI AND YPOGEGRAMMENI",
    "zznCAPITAL LETTER ALPHA WITH PSILI AND PROSGEGRAMMENIyDASIA AND PROSGEGRAMMENI",
    "yPSILI AND VARIA AND PROSGEGRAMMENIzjDASIA AND VARIA AND PROSGEGRAMMENI",
    "zjPSILI AND OXIA AND PROSGEGRAMMENIziDASIA AND OXIA AND PROSGEGRAMMENI",
    "ziPSILI AND PERISPOMENI AND PROSGEGRAMMENIzpDASIA AND PERISPOMENI AND PROSGEGRAMMENI",
    "zzqSMALL LETTER ETA WITH PSILI AND YPOGEGRAMMENIxDASIA AND YPOGEGRAMMENI",
    "xPSILI AND VARIA AND YPOGEGRAMMENIziDASIA AND VARIA AND YPOGEGRAMMENI",
    "ziPSILI AND OXIA AND YPOGEGRAMMENIzhDASIA AND OXIA AND YPOGEGRAMMENI",
    "zhPSILI AND PERISPOMENI AND YPOGEGRAMMENIzoDASIA AND PERISPOMENI AND YPOGEGRAMMENI",
    "zzlCAPITAL LETTER ETA WITH PSILI AND PROSGEGRAMMENIyDASIA AND PROSGEGRAMMENI",
    "yPSILI AND VARIA AND PROSGEGRAMMENIzjDASIA AND VARIA AND PROSGEGRAMMENI",
    "zjPSILI AND OXIA AND PROSGEGRAMMENIziDASIA AND OXIA AND PROSGEGRAMMENI",
    "ziPSILI AND PERISPOMENI AND PROSGEGRAMMENIzpDASIA AND PERISPOMENI AND PROSGEGRAMMENI",
    "zzoSMALL LETTER OMEGA WITH PSILI AND YPOGEGRAMMENIxDASIA AND YPOGEGRAMMENI",
    "xPSILI AND VARIA AND YPOGEGRAMMENIziDASIA AND VARIA AND YPOGEGRAMMENI",
    "ziPSILI AND OXIA AND YPOGEGRAMMENIzhDASIA AND OXIA AND YPOGEGRAMMENI",
    "zhPSILI AND PERISPOMENI AND YPOGEGRAMMENIzoDASIA AND PERISPOMENI AND YPOGEGRAMMENI",
    "zznCAPITAL LETTER OMEGA WITH PSILI AND PROSGEGRAMMENIyDASIA AND PROSGEGRAMMENI",
    "yPSILI AND VARIA AND PROSGEGRAMMENIzjDASIA AND VARIA AND PROSGEGRAMMENI",
    "zjPSILI AND OXIA AND PROSGEGRAMMENIziDASIA AND OXIA AND PROSGEGRAMMENI",
    "ziPSILI AND PERISPOMENI AND PROSGEGRAMMENIzpDASIA AND PERISPOMENI AND PROSGEGRAMMENI",
    "zzqSMALL LETTER ALPHA WITH VRACHYgMACRONgVARIA AND YPOGEGRAMMENIxYPOGEGRAMMENI",
    "nOXIA AND YPOGEGRAMMENI"]⟩,
  ⟨0x1fb6, ["GREEK SMALL LETTER ALPHA WITH PERISPOMENIa AND YPOGEGRAMMENI",
    "zzdCAPITAL LETTER ALPHA WITH VRACHYgMACRONgVARIAfOXIAePROSGEGRAMMENIzpKORONIShPROSGEGRAMMENI",
    "nSILIeERISPOMENIlDIALYTIKA AND PERISPOMENIzSMALL LETTER ETA WITH VARIA AND YPOGEGRAMMENI",
    "xYPOGEGRAMMENInOXIA AND YPOGEGRAMMENI"]⟩,
  ⟨0x1fc6, ["GREEK SMALL LETTER ETA WITH PERISPOMENIa AND YPOGEGRAMMENI",
    "zzbCAPITAL LETTER EPSILON WITH VARIAfOXIAqTA WITH VARIAfOXIAePROSGEGRAMMENIznPSILI AND VARIA",
    "fOXIAePERISPOMENIvSMALL LETTER IOTA WITH VRACHYgMACRONgDIALYTIKA AND VARIAfOXIA"]⟩,
  ⟨0x1fd6, ["GREEK SMALL LETTER IOTA WITH PERISPOMENIlDIALYTIKA AND PERISPOMENI",
    "zxCAPITAL LETTER IOTA WITH VRACHYgMACRONgVARIAfOXIA"]⟩,
  ⟨0x1fdd, ["GREEK DASIA AND VARIAfOXIAePERISPOMENIvSMALL LETTER UPSILON WITH VRACHYgMACRON",
    "gDIALYTIKA AND VARIAfOXIAzgRHO WITH PSILIfDASIAoUPSILON WITH PERISPOMENI",
    "lDIALYTIKA AND PERISPOMENIzzbCAPITAL LETTER UPSILON WITH VRACHYgMACRONgVARIAfOXIA",
    "rRHO WITH DASIAzeDIALYTIKA AND VARIAfOXIAsVARIA"]⟩,
  ⟨0x1ff2, ["GREEK SMALL LETTER OMEGA WITH VARIA AND YPOGEGRAMMENIxYPOGEGRAMMENI",
    "nOXIA AND YPOGEGRAMMENI"]⟩,
  ⟨0x1ff6, ["GREEK SMALL LETTER OMEGA WITH PERISPOMENIa AND YPOGEGRAMMENI",
    "zzdCAPITAL LETTER OMICRON WITH VARIAfOXIApEGA WITH VARIAfOXIAePROSGEGRAMMENIzpOXIAeDASIA"]⟩,
  ⟨0x2000, ["EN QUADgM QUADgN SPACEhM SPACEiTHREE-PER-EM SPACEsFOUR-PER-EM SPACErSIX-PER-EM SPACE",
    "qFIGURE SPACEmPUNCTUATION SPACErTHIN SPACEkHAIR SPACEkZERO WIDTH SPACEfNON-JOINERkJOINER",
    "rLEFT-TO-RIGHT MARKsRIGHT-TO-LEFT MARKsHYPHENgNON-BREAKING HYPHENtFIGURE DASHlEN DASHgM DASH",
    "hHORIZONTAL BARoDOUBLE VERTICAL LINEnLOW LINEpLEFT SINGLE QUOTATION MARK",
    "zbRIGHT SINGLE QUOTATION MARKzcSINGLE LOW-9 QUOTATION MARKuHIGH-REVERSED-9 QUOTATION MARK",
    "zmLEFT DOUBLE QUOTATION MARKzbRIGHT DOUBLE QUOTATION MARKzcDOUBLE LOW-9 QUOTATION MARK",
    "uHIGH-REVERSED-9 QUOTATION MARKzlAGGERfOUBLE DAGGERnBULLETgTRIANGULAR BULLETrONE DOT LEADER",
    "oTWO DOT LEADERoHORIZONTAL ELLIPSISsYPHENATION POINTrLINE SEPARATORoPARAGRAPH SEPARATOR",
    "tLEFT-TO-RIGHT EMBEDDINGxRIGHT-TO-LEFT EMBEDDINGxPOP DIRECTIONAL FORMATTING",
    "zbLEFT-TO-RIGHT OVERRIDEwRIGHT-TO-LEFT OVERRIDEwNARROW NO-BREAK SPACEvPER MILLE SIGN",
    "kTEN THOUSAND SIGNuRIMEfDOUBLE PRIMEmTRIPLE PRIMEmREVERSED PRIMEfDOUBLE PRIMEmTRIPLE PRIME",
    "vCARETfSINGLE LEFT-POINTING ANGLE QUOTATION MARKzjRIGHT-POINTING ANGLE QUOTATION MARK",
    "zrREFERENCE MARKoDOUBLE EXCLAMATION MARKxINTERROBANGlOVERLINEiUNDERTIEiCHARACTER TIE",
    "mARET INSERTION POINTvASTERISMiHYPHEN BULLETnFRACTION SLASHoLEFT SQUARE BRACKET WITH QUILL",
    "zfRIGHT SQUARE BRACKET WITH QUILLzgDOUBLE QUESTION MARKuQUESTION EXCLAMATION MARK",
    "zEXCLAMATION QUESTION MARKzTIRONIAN SIGN ETqREVERSED PILCROW SIGNvBLACK LEFTWARDS BULLET",
    "qRIGHTWARDS BULLETxLOW ASTERISKmREVERSED SEMICOLONsCLOSE UPiTWO ASTERISKS ALIGNED VERTICALLY",
    "zhCOMMERCIAL MINUS SIGNvSWUNG DASHkINVERTED UNDERTIErFLOWER PUNCTUATION MARK",
    "xTHREE DOT PUNCTUATIONvQUADRUPLE PRIMEpFOUR DOT PUNCTUATIONtIVE DOT PUNCTUATION",
    "uTWO DOT PUNCTUATIONtFOUR DOT MARKnDOTTED CROSSmTRICOLONiVERTICAL FOUR DOTS",
    "sMEDIUM MATHEMATICAL SPACEzWORD JOINERlFUNCTION APPLICATIONuINVISIBLE TIMESfSEPARATORjPLUS"]⟩,
  ⟨0x2066, ["LEFT-TO-RIGHT ISOLATEvRIGHT-TO-LEFT ISOLATEvFIRST STRONG ISOLATE",
    "uPOP DIRECTIONAL ISOLATExINHIBIT SYMMETRIC SWAPPINGzbACTIVATE SYMMETRIC SWAPPING",
    "zcINHIBIT ARABIC FORM SHAPINGzcACTIVATE ARABIC FORM SHAPINGzdNATIONAL DIGIT SHAPES",
    "uOMINAL DIGIT SHAPESuSUPERSCRIPT ZEROeLATIN SMALL LETTER I"]⟩,
  ⟨0x2074, ["SUPERSCRIPT FOURdIVEeSIXcEVENfEIGHTfNINEePLUS SIGNjMINUSfEQUALS SIGNlLEFT PARENTHESIS",
    "qRIGHT PARENTHESISrLATIN SMALL LETTER NzfBSCRIPT ZEROeONEdTWOcHREEfFOURdIVEeSIXcEVENfEIGHT",
    "fNINEePLUS SIGNjMINUSfEQUALS SIGNlLEFT PARENTHESISqRIGHT PARENTHESIS"]⟩,
  ⟨0x2090, ["LATIN SUBSCRIPT SMALL LETTER AbEbObXbSCHWAfHbKbLbMbNbPbSbT"]⟩,
  ⟨0x20a0, ["EURO-CURRENCY SIGNsCOLON SIGNjRUZEIRO SIGNnFRENCH FRANC SIGNrLIRA SIGNjMILL SIGN",
    "jNAIRA SIGNkPESETA SIGNlRUPEE SIGNkWON SIGNiNEW SHEQEL SIGNpDONG SIGNjEURO SIGNjKIP SIGN",
    "iTUGRIK SIGNlDRACHMA SIGNmGERMAN PENNY SIGNrPESO SIGNjGUARANI SIGNmAUSTRAL SIGNmHRYVNIA SIGN",
    "mCEDI SIGNjLIVRE TOURNOIS SIGNtSPESMILO SIGNnTENGE SIGNkINDIAN RUPEE SIGNrTURKISH LIRA SIGN",
    "rNORDIC MARK SIGNqMANAT SIGNkRUBLE SIGNkLARI SIGNjBITCOIN SIGNmSOM SIGN"]⟩,
  ⟨0x20d0, ["COMBINING LEFT HARPOON ABOVEsRIGHT HARPOON ABOVEtLONG VERTICAL LINE OVERLAY",
    "zbSHORT VERTICAL LINE OVERLAYzcANTICLOCKWISE ARROW ABOVEzCLOCKWISE ARROW ABOVE",
    "vLEFT ARROW ABOVEqRIGHT ARROW ABOVEpNG OVERLAYmCLOCKWISE RING OVERLAY",
    "wANTICLOCKWISE RING OVERLAYzbTHREE DOTS ABOVEqFOUR DOTS ABOVEpENCLOSING CIRCLEgSQUAREgDIAMOND",
    "hCIRCLE BACKSLASHzbLEFT RIGHT ARROW ABOVEwENCLOSING SCREENgKEYCAPgUPWARD POINTING TRIANGLE",
    "zjREVERSE SOLIDUS OVERLAYxDOUBLE VERTICAL STROKE OVERLAYzfANNUITY SYMBOLoTRIPLE UNDERDOT",
    "pWIDE BRIDGE ABOVErLEFTWARDS ARROW OVERLAYwONG DOUBLE SOLIDUS OVERLAY",
    "zcRIGHTWARDS HARPOON WITH BARB DOWNWARDSznLEFTWARDS HARPOON WITH BARB DOWNWARDSzi ARROW BELOW",
    "qRIGHT ARROW BELOWrASTERISK ABOVE"]⟩,
  ⟨0x2100, ["ACCOUNT OFjDDRESSED TO THE SUBJECTyDOUBLE-STRUCK CAPITAL CwEGREE CELSIUS",
    "oCENTRE LINE SYMBOLrARE OFfDA UNAiEULER CONSTANToSCRUPLEhDEGREE FAHRENHEITrSCRIPT SMALL G",
    "hCAPITAL HqBLACK-LETTER CAPITAL HwDOUBLE-STRUCK CAPITAL HxPLANCK CONSTANTa OVER TWO PI",
    "zcSCRIPT CAPITAL IqBLACK-LETTER CAPITAL IwSCRIPT CAPITAL LjSMALL LoL B BAR SYMBOL",
    "oDOUBLE-STRUCK CAPITAL NxNUMERO SIGNlSOUND RECORDING COPYRIGHTyCRIPT CAPITAL P",
    "qDOUBLE-STRUCK CAPITAL PbQxSCRIPT CAPITAL RqBLACK-LETTER CAPITAL RwDOUBLE-STRUCK CAPITAL R",
    "xPRESCRIPTION TAKErRESPONSEiSERVICE MARKmTELEPHONE SIGNnRADE MARK SIGNpVERSICLE",
    "iDOUBLE-STRUCK CAPITAL ZxOUNCE SIGNjHM SIGNiINVERTED OHM SIGNrBLACK-LETTER CAPITAL Z",
    "wTURNED GREEK SMALL LETTER IOTAzfKELVIN SIGNlANGSTROM SIGNnSCRIPT CAPITAL B",
    "qBLACK-LETTER CAPITAL CwESTIMATED SYMBOLqSCRIPT SMALL EhCAPITAL EbFqTURNED CAPITAL F",
    "qSCRIPT CAPITAL MjSMALL OoALEF SYMBOLlBET SYMBOLkGIMEL SYMBOLmDALET SYMBOLmINFORMATION SOURCE",
    "sROTATED CAPITAL QrFACSIMILE SIGNoDOUBLE-STRUCK SMALL PIcGAMMAlCAPITAL GAMMAfPI",
    "kN-ARY SUMMATIONzeTURNED SANS-SERIF CAPITAL GbLzcREVERSED SANS-SERIF CAPITAL L",
    "zeTURNED SANS-SERIF CAPITAL YzcDOUBLE-STRUCK ITALIC CAPITAL DjSMALL DbEbIbJzdPROPERTY LINE",
    "nTURNED AMPERSANDqPER SIGNiAKTIESELSKABmTURNED SMALL FoSYMBOL FOR SAMARITAN SOURCE",
    "zcVULGAR FRACTION ONE SEVENTHhNINTHfTENTHeHIRDjTWO THIRDSkONE FIFTHjTWO FIFTHSjHREE FIFTHS",
    "mFOUR FIFTHSlONE SIXTHjFIVE SIXTHSlONE EIGHTHkTHREE EIGHTHSnFIVE EIGHTHSmSEVEN EIGHTHS",
    "zeFRACTION NUMERATOR ONEwROMAN NUMERAL ONEdTWOcHREEfFOURdIVEeSIXcEVENfEIGHTfNINEeTENdELEVEN",
    "gTWELVEgFIFTYfONE HUNDREDlFIVE HUNDREDmONE THOUSANDzbSMALL ROMAN NUMERAL ONEdTWOcHREEfFOUR",
    "dIVEeSIXcEVENfEIGHTfNINEeTENdELEVENgTWELVEgFIFTYfONE HUNDREDlFIVE HUNDREDmONE THOUSAND",
    "zhROMAN NUMERAL ONE THOUSAND C DqFIVE THOUSANDnTEN THOUSANDmREVERSED ONE HUNDRED",
    "zjLATIN SMALL LETTER REVERSED CzeROMAN NUMERAL SIX LATE FORMnFIFTY EARLY FORMkTHOUSAND",
    "oONE HUNDRED THOUSANDzjVULGAR FRACTION ZERO THIRDSzcTURNED DIGIT TWOcHREE"]⟩,
  ⟨0x2190, ["LEFTWARDS ARROWpUPWARDS ARROWnRIGHTWARDS ARROWqDOWNWARDS ARROWpLEFT RIGHT ARROW",
    "qUP DOWN ARROWnNORTH WEST ARROWkEAST ARROWqSOUTH EAST ARROWkWEST ARROW",
    "qLEFTWARDS ARROW WITH STROKEzcRIGHTWARDS ARROW WITH STROKEzdLEFTWARDS WAVE ARROW",
    "uRIGHTWARDS WAVE ARROWvLEFTWARDS TWO HEADED ARROWzbUPWARDS TWO HEADED ARROW",
    "yRIGHTWARDS TWO HEADED ARROWzcDOWNWARDS TWO HEADED ARROWzbLEFTWARDS ARROW WITH TAIL",
    "zRIGHTWARDS ARROW WITH TAILzbLEFTWARDS ARROW FROM BARyUPWARDS ARROW FROM BAR",
    "wRIGHTWARDS ARROW FROM BARzDOWNWARDS ARROW FROM BARyUP DOWN ARROW WITH BASE",
    "xLEFTWARDS ARROW WITH HOOKzRIGHTWARDS ARROW WITH HOOKzbLEFTWARDS ARROW WITH LOOP",
    "zRIGHTWARDS ARROW WITH LOOPzbLEFT RIGHT WAVE ARROWkARROW WITH STROKEzdDOWNWARDS ZIGZAG ARROW",
    "wUPWARDS ARROW WITH TIP LEFTWARDSjRIGHTWARDSziDOWNWARDS ARROW WITH TIP LEFTWARDSjRIGHTWARDS",
    "zkRIGHTWARDS ARROW WITH CORNER DOWNWARDSznDOWNWARDS ARROW WITH CORNER LEFTWARDS",
    "zmANTICLOCKWISE TOP SEMICIRCLE ARROWzjCLOCKWISE TOP SEMICIRCLE ARROW",
    "zfNORTH WEST ARROW TO LONG BARzdLEFTWARDS ARROW TO BAR OVER RIGHTWARDS ARROW TO BAR",
    "zzbANTICLOCKWISE OPEN CIRCLE ARROWzgCLOCKWISE OPEN CIRCLE ARROW",
    "zcLEFTWARDS HARPOON WITH BARB UPWARDShDOWNWARDSzmUPWARDS HARPOON WITH BARB RIGHTWARDS",
    "kLEFTWARDSzkRIGHTWARDS HARPOON WITH BARB UPWARDShDOWNWARDS",
    "znDOWNWARDS HARPOON WITH BARB RIGHTWARDSkLEFTWARDSzmRIGHTWARDS ARROW OVER LEFTWARDS ARROW",
    "zmUPWARDS ARROW LEFTWARDS OF DOWNWARDS ARROWzrLEFTWARDS ARROW OVER RIGHTWARDS ARROW",
    "zcPAIRED ARROWSxUPWARDS PAIRED ARROWSvRIGHTWARDS PAIRED ARROWSyDOWNWARDS PAIRED ARROWS",
    "xLEFTWARDS HARPOON OVER RIGHTWARDS HARPOONzqRIGHTWARDS HARPOON OVER LEFTWARDS HARPOON",
    "zqLEFTWARDS DOUBLE ARROW WITH STROKEzf RIGHT DOUBLE ARROW WITH STROKE",
    "zkRIGHTWARDS DOUBLE ARROW WITH STROKEzkLEFTWARDS DOUBLE ARROWwUPWARDS DOUBLE ARROW",
    "uRIGHTWARDS DOUBLE ARROWxDOWNWARDS DOUBLE ARROWwLEFT RIGHT DOUBLE ARROWxUP DOWN DOUBLE ARROW",
    "uNORTH WEST DOUBLE ARROWrEAST DOUBLE ARROWxSOUTH EAST DOUBLE ARROWrWEST DOUBLE ARROW",
    "xLEFTWARDS TRIPLE ARROWwRIGHTWARDS TRIPLE ARROWxLEFTWARDS SQUIGGLE ARROW",
    "yRIGHTWARDS SQUIGGLE ARROWzUPWARDS ARROW WITH DOUBLE STROKE",
    "zhDOWNWARDS ARROW WITH DOUBLE STROKEzjLEFTWARDS DASHED ARROWwUPWARDS DASHED ARROW",
    "uRIGHTWARDS DASHED ARROWxDOWNWARDS DASHED ARROWwLEFTWARDS ARROW TO BAR",
    "wRIGHTWARDS ARROW TO BARxLEFTWARDS WHITE ARROWvUPWARDS WHITE ARROWtRIGHTWARDS WHITE ARROW",
    "wDOWNWARDS WHITE ARROWvUPWARDS WHITE ARROW FROM BARiON PEDESTALa WITH HORIZONTAL BAR",
    "oVERTICAL BARzkDOUBLE ARROWa ON PEDESTALznRIGHTWARDS WHITE ARROW FROM WALL",
    "zhNORTH WEST ARROW TO CORNERzbSOUTH EAST ARROW TO CORNERzbUP DOWN WHITE ARROW",
    "tRIGHT ARROW WITH SMALL CIRCLEzeDOWNWARDS ARROW LEFTWARDS OF UPWARDS ARROW",
    "zrTHREE RIGHTWARDS ARROWSxLEFTWARDS ARROW WITH VERTICAL STROKE",
    "zlRIGHTWARDS ARROW WITH VERTICAL STROKEzmLEFT RIGHT ARROW WITH VERTICAL STROKE",
    "ziWARDS ARROW WITH DOUBLE VERTICAL STROKEzsRIGHTWARDS ARROW WITH DOUBLE VERTICAL STROKE",
    "ztLEFT RIGHT ARROW WITH DOUBLE VERTICAL STROKEzpWARDS OPEN-HEADED ARROW",
    "zcRIGHTWARDS OPEN-HEADED ARROWzdLEFT RIGHT OPEN-HEADED ARROWzdFOR ALLhCOMPLEMENT",
    "kPARTIAL DIFFERENTIALuTHERE EXISTSgDOES NOT EXISTuEMPTY SETjINCREMENTjNABLAfELEMENT OF",
    "kNOT AN ELEMENT OFrSMALL ELEMENT OFqCONTAINS AS MEMBERsDOES NOT CONTAIN AS MEMBER",
    "zbSMALL CONTAINS AS MEMBERyEND OF PROOFmN-ARY PRODUCThCOPRODUCTjSUMMATIONpMINUS SIGN",
    "f-OR-PLUS SIGNsDOT PLUShIVISION SLASHoSET MINUSjASTERISK OPERATORrRING OPERATOR",
    "nBULLET OPERATORpSQUARE ROOTlCUBE ROOTjFOURTH ROOTlPROPORTIONAL TOpINFINITYiRIGHT ANGLElANGLE",
    "fMEASURED ANGLEoSPHERICAL ANGLEpDIVIDESgOES NOT DIVIDEpPARALLEL TOlNOT PARALLEL TO",
    "pLOGICAL ANDdORkINTERSECTIONmUNIONfINTEGRALiDOUBLE INTEGRALpTRIPLE INTEGRALpCONTOUR INTEGRAL",
    "qSURFACE INTEGRALqVOLUME INTEGRALpCLOCKWISE INTEGRALiCONTOUR INTEGRAL",
    "zbANTICLOCKWISE CONTOUR INTEGRALzfTHEREFOREjBECAUSEhRATIOfPROPORTIONkDOT MINUSjEXCESS",
    "gGEOMETRIC PROPORTIONuHOMOTHETICkTILDE OPERATORoREVERSED TILDEoINVERTED LAZY SpSINE WAVE",
    "jWREATH PRODUCToNOT TILDEjMINUS TILDElASYMPTOTICALLY EQUAL TOxNOT ASYMPTOTICALLY EQUAL TO",
    "zcAPPROXIMATELY EQUAL TOiBUT NOT ACTUALLY EQUAL TO",
    "zoNEITHER APPROXIMATELY NOR ACTUALLY EQUAL TOzsALMOST EQUAL TOpNOT ALMOST EQUAL TO",
    "tALMOST EQUAL OR EQUAL TOyTRIPLE TILDEmALL EQUAL TOmEQUIVALENT TOnGEOMETRICALLY EQUIVALENT TO",
    "zcDIFFERENCE BETWEENsAPPROACHES THE LIMITuGEOMETRICALLY EQUAL TO",
    "wAPPROXIMATELY EQUAL TO OR THE IMAGE OFznIMAGE OF OR APPROXIMATELY EQUAL TOzjCOLON EQUALS",
    "mEQUALS COLONmRING IN EQUAL TOlEQUAL TOnCORRESPONDS TOoESTIMATESiQUIANGULAR TOoSTAR EQUALS",
    "lDELTA EQUAL TOoEQUAL TO BY DEFINITIONwMEASURED BYlQUESTIONED EQUAL TOtNOT EQUAL TO",
    "mIDENTICAL TOmNOT IDENTICAL TOqSTRICTLY EQUIVALENT TOwLESS-THAN OR EQUAL TO",
    "vGREATER-THAN OR EQUAL TOyLESS-THAN OVER EQUAL TOxGREATER-THAN OVER EQUAL TO",
    "zbLESS-THAN BUT NOT EQUAL TOzbGREATER-THAN BUT NOT EQUAL TOzeMUCH LESS-THANjGREATER-THAN",
    "rBETWEENhNOT EQUIVALENT TOnLESS-THANjGREATER-THANpEITHER LESS-THAN NOR EQUAL TO",
    "wGREATER-THAN NOR EQUAL TOziLESS-THAN OR EQUIVALENT TOzbGREATER-THAN OR EQUIVALENT TO",
    "zeNEITHER LESS-THAN NOR EQUIVALENT TOzcGREATER-THAN NOR EQUIVALENT TO",
    "znLESS-THAN OR GREATER-THANzGREATER-THAN OR LESS-THANzNEITHER LESS-THAN NOR GREATER-THAN",
    "zbGREATER-THAN NOR LESS-THANzjPRECEDESiSUCCEEDSiPRECEDES OR EQUAL TOuSUCCEEDS OR EQUAL TO",
    "uPRECEDES OR EQUIVALENT TOzSUCCEEDS OR EQUIVALENT TOzDOES NOT PRECEDEhSUCCEEDqSUBSET OF",
    "hPERSET OFlNOT A SUBSET OFhPERSET OFrSUBSET OF OR EQUAL TOtPERSET OF OR EQUAL TO",
    "xNEITHER A SUBSET OF NOR EQUAL TOuPERSET OF NOR EQUAL TOzjSUBSET OF WITH NOT EQUAL TO",
    "zPERSET OF WITH NOT EQUAL TOzeMULTISETa MULTIPLICATIONoUNIONoSQUARE IMAGE OFiORIGINAL OF",
    "lIMAGE OF OR EQUAL TOuORIGINAL OF OR EQUAL TOxCAPcUPkCIRCLED PLUSeMINUSfTIMESfDIVISION SLASH",
    "nOT OPERATORmRING OPERATORnASTERISK OPERATORrEQUALSgDASHmSQUARED PLUSeMINUSfTIMES",
    "fDOT OPERATORuRIGHT TACKkLEFT TACKjDOWN TACKjUP TACKhASSERTIONjMODELSgTRUEeFORCES",
    "gTRIPLE VERTICAL BAR RIGHT TURNSTILEzkDOUBLE VERTICAL BAR DOUBLE RIGHT TURNSTILE",
    "zpES NOT PROVEoNOT TRUEiDOES NOT FORCEoNEGATED DOUBLE VERTICAL BAR DOUBLE RIGHT TURNSTILE",
    "zzPRECEDES UNDER RELATIONxSUCCEEDS UNDER RELATIONxNORMAL SUBGROUP OF",
    "sCONTAINS AS NORMAL SUBGROUPzcNORMAL SUBGROUP OF OR EQUAL TO",
    "zfCONTAINS AS NORMAL SUBGROUP OR EQUAL TOzoORIGINAL OFlIMAGE OFiMULTIMAP",
    "iHERMITIAN CONJUGATE MATRIXzbINTERCALATElXORdNANDdORdRIGHT ANGLE WITH ARCoTRIANGLE",
    "oN-ARY LOGICAL ANDdORkINTERSECTIONmUNIONlDIAMOND OPERATORpOT OPERATORmSTAR OPERATOR",
    "nDIVISION TIMESoBOWTIEgLEFT NORMAL FACTOR SEMIDIRECT PRODUCT",
    "zmRIGHT NORMAL FACTOR SEMIDIRECT PRODUCTznLEFT SEMIDIRECT PRODUCTxRIGHT SEMIDIRECT PRODUCT",
    "xEVERSED TILDE EQUALSvCURLY LOGICAL ORcANDrDOUBLE SUBSETePERSETiINTERSECTIONmUNIONmPITCHFORK",
    "jEQUAL AND PARALLEL TOvLESS-THAN WITH DOTsGREATER-THAN WITH DOTvVERY MUCH LESS-THAN",
    "jGREATER-THANwLESS-THAN EQUAL TO OR GREATER-THANzjGREATER-THAN EQUAL TO OR LESS-THAN",
    "zjEQUAL TO OR LESS-THANjGREATER-THANmPRECEDESiSUCCEEDSuDOES NOT PRECEDE OR EQUAL",
    "qSUCCEED OR EQUALzNOT SQUARE IMAGE OF OR EQUAL TOuORIGINAL OF OR EQUAL TO",
    "zjSQUARE IMAGE OF OR NOT EQUAL TOyORIGINAL OF OR NOT EQUAL TO",
    "zjLESS-THAN BUT NOT EQUIVALENT TOzgGREATER-THAN BUT NOT EQUIVALENT TO",
    "zjPRECEDES BUT NOT EQUIVALENT TOzfSUCCEEDS BUT NOT EQUIVALENT TOzfNOT NORMAL SUBGROUP OF",
    "wDOES NOT CONTAIN AS NORMAL SUBGROUPzkNOT NORMAL SUBGROUP OF OR EQUAL TO",
    "zjDOES NOT CONTAIN AS NORMAL SUBGROUP OR EQUALztVERTICAL ELLIPSISrMIDLINE HORIZONTAL ELLIPSIS",
    "zcUP RIGHT DIAGONAL ELLIPSISzbDOWN RIGHT DIAGONAL ELLIPSIS",
    "zdELEMENT OF WITH LONG HORIZONTAL STROKEwVERTICAL BAR AT END OF HORIZONTAL STROKE",
    "zzgSMALL ELEMENT OF WITH VERTICAL BAR AT END OF HORIZONTAL STROKEzzmELEMENT OF WITH DOT ABOVE",
    "jOVERBARxSMALL ELEMENT OF WITH OVERBARzeELEMENT OF WITH UNDERBARiTWO HORIZONTAL STROKES",
    "znCONTAINS WITH LONG HORIZONTAL STROKEwVERTICAL BAR AT END OF HORIZONTAL STROKE",
    "zzeSMALL CONTAINS WITH VERTICAL BAR AT END OF HORIZONTAL STROKEzzkCONTAINS WITH OVERBAR",
    "vSMALL CONTAINS WITH OVERBARzcZ NOTATION BAG MEMBERSHIPzDIAMETER SIGNnELECTRIC ARROWoHOUSE",
    "fUP ARROWHEADmDOWN ARROWHEADoPROJECTIVEjERSPECTIVElWAVY LINEjLEFT CEILINGmRIGHT CEILING",
    "nLEFT FLOORkRIGHT FLOORlBOTTOM RIGHT CROPkLEFT CROPqTOP RIGHT CROPkLEFT CROP",
    "nREVERSED NOT SIGNrSQUARE LOZENGEoARCdSEGMENTfCTORgTELEPHONE RECORDERsPOSITION INDICATOR",
    "sVIEWDATA SQUAREpPLACE OF INTEREST SIGNwTURNED NOT SIGNpWATCHfHOURGLASSjTOP LEFT CORNER",
    "lRIGHT CORNERqBOTTOM LEFT CORNERlRIGHT CORNERtTOP HALF INTEGRALrBOTTOM HALF INTEGRALuFROWN",
    "fSMILEfUP ARROWHEAD BETWEEN TWO HORIZONTAL BARSzpOPTION KEYkERASE TO THE RIGHT",
    "sX IN A RECTANGLE BOXuKEYBOARDiLEFT-POINTING ANGLE BRACKETzcRIGHT-POINTING ANGLE BRACKET",
    "zdERASE TO THE LEFTrBENZENE RINGmCYLINDRICITYmALL AROUND-PROFILEsSYMMETRYiTOTAL RUNOUT",
    "mDIMENSION ORIGINqCONICAL TAPERnSLOPEfCOUNTERBOREeSINKlAPL FUNCTIONAL SYMBOL I-BEAM",
    "gSQUISH QUADlQUAD EQUALfDIVIDEeAMONDhJOTdCIRCLElCIRCLE STILEfJOTkSLASH BARjBACKSLASH BAR",
    "nQUAD SLASHfBACKSLASHjLESS-THANjGREATER-THANrLEFTWARDS VANEoRIGHTWARDS VANE",
    "pQUAD LEFTWARDS ARROWpRIGHTWARDS ARROWvCIRCLE BACKSLASHqDOWN TACK UNDERBARrELTA STILE",
    "lQUAD DOWN CARETjELTAkDOWN TACK JOTnUPWARDS VANEmQUAD UPWARDS ARROWsUP TACK OVERBARpDEL STILE",
    "jQUAD UP CARETiDELiUP TACK JOTlDOWNWARDS VANEoQUAD DOWNWARDS ARROWsOTE UNDERBAR",
    "oDELTA UNDERBARnIAMOND UNDERBARqJOT UNDERBARmCIRCLE UNDERBARpUP SHOE JOTlQUOTE QUAD",
    "kCIRCLE STARlQUAD COLONkUP TACK DIAERESISrDEL DIAERESISnSTAR DIAERESISoJOT DIAERESIS",
    "nCIRCLE DIAERESISqDOWN SHOE STILEpLEFT SHOE STILEpTILDE DIAERESISpGREATER-THAN DIAERESIS",
    "wCOMMA BARjDEL TILDEjZILDEfSTILE TILDEkEMICOLON UNDERBARsQUAD NOT EQUALjQUESTION",
    "nDOWN CARET TILDEqUP CARET TILDEoIOTAeRHOdOMEGAfALPHA UNDERBARoEPSILON UNDERBARqIOTA UNDERBAR",
    "nOMEGA UNDERBARoALPHAzcNOT CHECK MARKoRIGHT ANGLE WITH DOWNWARDS ZIGZAG ARROW",
    "zoSHOULDERED OPEN BOXtBELL SYMBOLlVERTICAL LINE WITH MIDDLE DOTzeINSERTION SYMBOL",
    "qCONTINUOUS UNDERLINE SYMBOLzcDISCONTINUOUS UNDERLINE SYMBOLzfEMPHASIS SYMBOL",
    "pCOMPOSITION SYMBOLsWHITE SQUARE WITH CENTRE VERTICAL LINEznENTER SYMBOL",
    "mALTERNATIVE KEY SYMBOLwHELM SYMBOLlCIRCLED HORIZONTAL BAR WITH NOTCHzTRIANGLE DOWN",
    "vBROKEN CIRCLE WITH NORTHWEST ARROWzjUNDO SYMBOLlMONOSTABLE SYMBOLrHYSTERESIS SYMBOL",
    "rOPEN-CIRCUIT-OUTPUT H-TYPE SYMBOLnL-TYPE SYMBOLziPASSIVE-PULL-DOWN-OUTPUT SYMBOL",
    "sUP-OUTPUT SYMBOLzeDIRECT CURRENT SYMBOL FORM TWOzfSOFTWARE-FUNCTION SYMBOL",
    "yAPL FUNCTIONAL SYMBOL QUADzbDECIMAL SEPARATOR KEY SYMBOLzdPREVIOUS PAGEnNEXT PAGE",
    "jPRINT SCREEN SYMBOLtCLEAR SCREEN SYMBOLtLEFT PARENTHESIS UPPER HOOKkEXTENSIONjLOWER HOOK",
    "zcRIGHT PARENTHESIS UPPER HOOKkEXTENSIONjLOWER HOOKzdLEFT SQUARE BRACKET UPPER CORNER",
    "mEXTENSIONjLOWER CORNERzhRIGHT SQUARE BRACKET UPPER CORNERmEXTENSIONjLOWER CORNER",
    "ziLEFT CURLY BRACKET UPPER HOOKkMIDDLE PIECEmLOWER HOOKzeCURLY BRACKET EXTENSION",
    "xRIGHT CURLY BRACKET UPPER HOOKkMIDDLE PIECEmLOWER HOOKzfINTEGRAL EXTENSION",
    "sHORIZONTAL LINE EXTENSIONzUPPER LEFT OR LOWER RIGHT CURLY BRACKET SECTION",
    "zqRIGHT OR LOWER LEFT CURLY BRACKET SECTIONzwSUMMATION TOPdBOTTOMqTOP SQUARE BRACKET",
    "sBOTTOM SQUARE BRACKETa OVER TOP SQUARE BRACKETzuRADICAL SYMBOL BOTTOMvLEFT VERTICAL BOX LINE",
    "wRIGHT VERTICAL BOX LINExHORIZONTAL SCAN LINE-1b3b7b9",
    "wDENTISTRY SYMBOL LIGHT VERTICAL AND TOP RIGHTjBOTTOM RIGHTqWITH CIRCLE",
    "uDOWN AND HORIZONTAL WITH CIRCLEzgUP AND HORIZONTAL WITH CIRCLEzeVERTICAL WITH TRIANGLE",
    "wDOWN AND HORIZONTAL WITH TRIANGLEziUP AND HORIZONTAL WITH TRIANGLEzgVERTICAL AND WAVE",
    "rDOWN AND HORIZONTAL WITH WAVEzeUP AND HORIZONTAL WITH WAVEzcDOWN AND HORIZONTAL",
    "tUP AND HORIZONTALrVERTICAL AND TOP LEFTiBOTTOM LEFTzwSQUARE FOOTlRETURN SYMBOLnEJECT SYMBOL",
    "mVERTICAL LINE EXTENSIONxMETRICAL BREVEfLONG OVER SHORTpSHORT OVER LONGpLONG OVER TWO SHORTS",
    "uTWO SHORTS OVER LONGjJOINEDqRISEMEgETRASEMEjPENTASEMEsEARTH GROUNDmFUSEeTOP PARENTHESIS",
    "pBOTTOM PARENTHESISsTOP CURLY BRACKETrBOTTOM CURLY BRACKETuTOP TORTOISE SHELL BRACKET",
    "zbBOTTOM TORTOISE SHELL BRACKETzeWHITE TRAPEZIUMpBENZENE RING WITH CIRCLEySTRAIGHTNESS",
    "mFLATNESSiAC CURRENTkELECTRICAL INTERSECTIONxDECIMAL EXPONENT SYMBOL",
    "xBLACK RIGHT-POINTING DOUBLE TRIANGLEzfLEFT-POINTING DOUBLE TRIANGLE",
    "zeUP-POINTING DOUBLE TRIANGLEzcDOWN-POINTING DOUBLE TRIANGLE",
    "zeRIGHT-POINTING DOUBLE TRIANGLE WITH VERTICAL BAR",
    "zxLEFT-POINTING DOUBLE TRIANGLE WITH VERTICAL BAR",
    "zwRIGHT-POINTING TRIANGLE WITH DOUBLE VERTICAL BARzzeALARM CLOCKlSTOPWATCHjTIMER CLOCK",
    "lHOURGLASS WITH FLOWING SANDzcBLACK MEDIUM LEFT-POINTING TRIANGLEwRIGHT-POINTING TRIANGLE",
    "xUP-POINTING TRIANGLEuDOWN-POINTING TRIANGLEzkDOUBLE VERTICAL BARtBLACK SQUARE FOR STOP",
    "pCIRCLE FOR RECORDxPOWER SYMBOLgON-OFF SYMBOLl SYMBOLjSLEEP SYMBOLsOBSERVER EYE SYMBOL",
    "tSYMBOL FOR NULLeSTART OF HEADINGhTEXTnEND OF TEXTdRANSMISSIONrQUIRYhACKNOWLEDGElBELL",
    "dACKSPACEjHORIZONTAL TABULATIONvLINE FEEDjVERTICAL TABULATIONtFORM FEEDjCARRIAGE RETURN",
    "pSHIFT OUTdINiDATA LINK ESCAPEpEVICE CONTROL ONEdTWOcHREEfFOURtNEGATIVE ACKNOWLEDGE",
    "uSYNCHRONOUS IDLEqEND OF TRANSMISSION BLOCKzCANCELgEND OF MEDIUMnSUBSTITUTEkESCAPE",
    "gFILE SEPARATORoGROUP SEPARATORpRECORD SEPARATORqUNIT SEPARATORoSPACEfDELETErBLANK SYMBOL",
    "mOPEN BOXiSYMBOL FOR NEWLINEhDELETE FORM TWOpSUBSTITUTE FORM TWO"]⟩,
  ⟨0x2440, ["OCR HOOKeCHAIRfFORKeINVERTED FORKnBELT BUCKLEkOW TIEgRANCH BANK IDENTIFICATION",
    "zbAMOUNT OF CHECKpDASHeCUSTOMER ACCOUNT NUMBERxDOUBLE BACKSLASH"]⟩,
  ⟨0x2460, ["CIRCLED DIGIT ONEdTWOcHREEfFOURdIVEeSIXcEVENfEIGHTfNINEkNUMBER TENdELEVENgTWELVE",
    "fHIRTEENiFOURTEENhIFTEENhSIXTEENgEVENTEENjEIGHTEENiNINETEENiTWENTYvPARENTHESIZED DIGIT ONE",
    "dTWOcHREEfFOURdIVEeSIXcEVENfEIGHTfNINEkNUMBER TENdELEVENgTWELVEfHIRTEENiFOURTEENhIFTEEN",
    "hSIXTEENgEVENTEENjEIGHTEENiNINETEENiTWENTYzcDIGIT ONE FULL STOPnTWO FULL STOPmHREE FULL STOP",
    "pFOUR FULL STOPnIVE FULL STOPoSIX FULL STOPmEVEN FULL STOPpEIGHT FULL STOPpNINE FULL STOP",
    "uNUMBER TEN FULL STOPnELEVEN FULL STOPqTWELVE FULL STOPpHIRTEEN FULL STOPsFOURTEEN FULL STOP",
    "rIFTEEN FULL STOPrSIXTEEN FULL STOPqEVENTEEN FULL STOPtEIGHTEEN FULL STOPsNINETEEN FULL STOP",
    "sTWENTY FULL STOPxPARENTHESIZED LATIN SMALL LETTER AbBbCbDbEbFbGbHbIbJbKbLbMbNbObPbQbRbSbTbU",
    "bVbWbXbYbZzjCIRCLED LATIN CAPITAL LETTER AbBbCbDbEbFbGbHbIbJbKbLbMbNbObPbQbRbSbTbUbVbWbXbYbZ",
    "qSMALL LETTER AbBbCbDbEbFbGbHbIbJbKbLbMbNbObPbQbRbSbTbUbVbWbXbYbZuDIGIT ZERO",
    "sNEGATIVE CIRCLED NUMBER ELEVENgTWELVEfHIRTEENiFOURTEENhIFTEENhSIXTEENgEVENTEENjEIGHTEEN",
    "iNINETEENiTWENTYzfDOUBLE CIRCLED DIGIT ONEdTWOcHREEfFOURdIVEeSIXcEVENfEIGHTfNINEkNUMBER TEN",
    "zNEGATIVE CIRCLED DIGIT ZERO"]⟩]

end TypeCatalog.Text.CharacterName
