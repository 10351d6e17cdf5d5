import TypeCatalog.Text.CodePoint

/-!
# Names of East Asian letters

Radicals, kana and Yi, with the additions to other scripts that stand between them.
-/

namespace TypeCatalog.Text.CharacterName

/-- The names from U+2C00 to U+ABF9. -/
def eastAsian : List NameRun := [
  ⟨0x2c00, ["GLAGOLITIC CAPITAL LETTER AZUdBUKYeVEDEeGLAGOLIhDOBROfYESTUfZHIVETEhDZELOfZEMLJAgIZHE",
    "dNITIAL IZHEmIbDJERVIgKAKOeLJUDIJEhMYSLITEhNASHIfONUdPOKOJIgRITSIfSLOVOfTVRIDOgUKUdFRITUfHERU",
    "eOTUdPEcSHTAeTSIdCHRIVIgSHAdYERUbIdATIeSPIDERY HAkYUcSMALL YUSa WITH TAILtYO",
    "cIOTATED SMALL YUSrBIG YUShIOTATED BIG YUSpFITAeIZHITSAhSHTAPIChTROKUTASTI AmLATINATE MYSLITE",
    "qCAUDATE CHRIVIzeSMALL LETTER AZUdBUKYeVEDEeGLAGOLIhDOBROfYESTUfZHIVETEhDZELOfZEMLJAgIZHE",
    "dNITIAL IZHEmIbDJERVIgKAKOeLJUDIJEhMYSLITEhNASHIfONUdPOKOJIgRITSIfSLOVOfTVRIDOgUKUdFRITUfHERU",
    "eOTUdPEcSHTAeTSIdCHRIVIgSHAdYERUbIdATIeSPIDERY HAkYUcSMALL YUSa WITH TAILtYO",
    "cIOTATED SMALL YUSrBIG YUShIOTATED BIG YUSpFITAeIZHITSAhSHTAPIChTROKUTASTI AmLATINATE MYSLITE",
    "qCAUDATE CHRIVIznLATIN CAPITAL LETTER L WITH DOUBLE BARzhSMALL LETTER L WITH DOUBLE BAR",
    "zfCAPITAL LETTER L WITH MIDDLE TILDEtP WITH STROKEnR WITH TAILzbSMALL LETTER A WITH STROKE",
    "nT WITH DIAGONAL STROKEzkCAPITAL LETTER H WITH DESCENDERzgSMALL LETTER H WITH DESCENDER",
    "zeCAPITAL LETTER K WITH DESCENDERzgSMALL LETTER K WITH DESCENDER",
    "zeCAPITAL LETTER Z WITH DESCENDERzgSMALL LETTER Z WITH DESCENDERzeCAPITAL LETTER ALPHA",
    "fM WITH HOOKlTURNED AaLPHAzcSMALL LETTER V WITH RIGHT HOOKzfCAPITAL LETTER W WITH HOOK",
    "zbSMALL LETTER W WITH HOOKlV WITH CURLyCAPITAL LETTER HALF HvSMALL LETTER HALF HgTAILLESS PHI",
    "mE WITH NOTCHmTURNED R WITH TAILsO WITH LOW RING INSIDEzkLETTER SMALL CAPITAL TURNED E",
    "zeSUBSCRIPT SMALL LETTER JzfMODIFIER LETTER CAPITAL VzLATIN CAPITAL LETTER S WITH SWASH TAIL",
    "rZ WITH SWASH TAILznCOPTIC CAPITAL LETTER ALFAtSMALL LETTER ALFArCAPITAL LETTER VIDA",
    "tSMALL LETTER VIDArCAPITAL LETTER GAMMAuSMALL LETTER GAMMAsCAPITAL LETTER DALDA",
    "uSMALL LETTER DALDAsCAPITAL LETTER EIEsSMALL LETTER EIEqCAPITAL LETTER SOUsSMALL LETTER SOU",
    "qCAPITAL LETTER ZATAtSMALL LETTER ZATArCAPITAL LETTER HATEtSMALL LETTER HATE",
    "rCAPITAL LETTER THETHEvSMALL LETTER THETHEtCAPITAL LETTER IAUDAuSMALL LETTER IAUDA",
    "sCAPITAL LETTER KAPAtSMALL LETTER KAPArCAPITAL LETTER LAULAuSMALL LETTER LAULA",
    "sCAPITAL LETTER MIrSMALL LETTER MIpCAPITAL LETTER NIrSMALL LETTER NIpCAPITAL LETTER KSI",
    "sSMALL LETTER KSIqCAPITAL LETTER OqSMALL LETTER OoCAPITAL LETTER PIrSMALL LETTER PI",
    "pCAPITAL LETTER ROrSMALL LETTER ROpCAPITAL LETTER SIMAtSMALL LETTER SIMArCAPITAL LETTER TAU",
    "sSMALL LETTER TAUqCAPITAL LETTER UArSMALL LETTER UApCAPITAL LETTER FIrSMALL LETTER FI",
    "pCAPITAL LETTER KHIsSMALL LETTER KHIqCAPITAL LETTER PSIsSMALL LETTER PSIqCAPITAL LETTER OOU",
    "sSMALL LETTER OOUqCAPITAL LETTER DIALECT-P ALEFzeSMALL LETTER DIALECT-P ALEF",
    "zcCAPITAL LETTER OLD COPTIC AINzeSMALL LETTER OLD COPTIC AIN",
    "zcCAPITAL LETTER CRYPTOGRAMMIC EIEzhSMALL LETTER CRYPTOGRAMMIC EIE",
    "zfCAPITAL LETTER DIALECT-P KAPAzeSMALL LETTER DIALECT-P KAPAzcCAPITAL LETTER DIALECT-P NI",
    "zcSMALL LETTER DIALECT-P NIzCAPITAL LETTER CRYPTOGRAMMIC NIzgSMALL LETTER CRYPTOGRAMMIC NI",
    "zeCAPITAL LETTER OLD COPTIC OOUzeSMALL LETTER OLD COPTIC OOUzcCAPITAL LETTER SAMPI",
    "uSMALL LETTER SAMPIsCAPITAL LETTER CROSSED SHEIzcSMALL LETTER CROSSED SHEI",
    "zCAPITAL LETTER OLD COPTIC SHEIzfSMALL LETTER OLD COPTIC SHEIzdCAPITAL LETTER OLD COPTIC ESH",
    "zeSMALL LETTER OLD COPTIC ESHzcCAPITAL LETTER AKHMIMIC KHEIzdSMALL LETTER AKHMIMIC KHEI",
    "zbCAPITAL LETTER DIALECT-P HORIzeSMALL LETTER DIALECT-P HORIzcCAPITAL LETTER OLD COPTIC HORI",
    "zfSMALL LETTER OLD COPTIC HORIzdCAPITAL LETTER OLD COPTIC HAzdSMALL LETTER OLD COPTIC HA",
    "zbCAPITAL LETTER L-SHAPED HAzbSMALL LETTER L-SHAPED HAyCAPITAL LETTER OLD COPTIC HEI",
    "zeSMALL LETTER OLD COPTIC HEIzcCAPITAL LETTER OLD COPTIC HATzeSMALL LETTER OLD COPTIC HAT",
    "zcCAPITAL LETTER OLD COPTIC GANGIAzhSMALL LETTER OLD COPTIC GANGIA",
    "zfCAPITAL LETTER OLD COPTIC DJAzeSMALL LETTER OLD COPTIC DJAzcCAPITAL LETTER OLD COPTIC SHIMA",
    "zgSMALL LETTER OLD COPTIC SHIMAzeCAPITAL LETTER OLD NUBIAN SHIMA",
    "zgSMALL LETTER OLD NUBIAN SHIMAzeCAPITAL LETTER OLD NUBIAN NGIzeSMALL LETTER OLD NUBIAN NGI",
    "zcCAPITAL LETTER OLD NUBIAN NYIzeSMALL LETTER OLD NUBIAN NYIzcCAPITAL LETTER OLD NUBIAN WAU",
    "zeSMALL LETTER OLD NUBIAN WAUzbYMBOL KAIdMI ROfPI ROfSTAUROShTAU ROgKHI ROgSHIMA SIMA",
    "rCAPITAL LETTER CRYPTOGRAMMIC SHEIziSMALL LETTER CRYPTOGRAMMIC SHEI",
    "zgCAPITAL LETTER CRYPTOGRAMMIC GANGIAzkSMALL LETTER CRYPTOGRAMMIC GANGIAziCOMBINING NI ABOVE",
    "iSPIRITUS ASPERfLENISxAPITAL LETTER BOHAIRIC KHEIzdSMALL LETTER BOHAIRIC KHEI"]⟩,
  ⟨0x2cf9, ["COPTIC OLD NUBIAN FULL STOPjDIRECT QUESTION MARKuINDIRECT QUESTION MARKwVERSE DIVIDER",
    "yFRACTION ONE HALFqULL STOPjMORPHOLOGICAL DIVIDERzdGEORGIAN SMALL LETTER ANcBANdGANdDONdEN",
    "cVINdZENdTANdINcKANdLASdMANdNARdONcPARdZHAReRAEdSANdTARdUNcPHAReKHAReGHANeQARdSHINeCHINdAN",
    "dJILdCILcHAReXANdJHANeHAEcEbIEdWEcHARcOE"]⟩,
  ⟨0x2d27, ["GEORGIAN SMALL LETTER YN"]⟩,
  ⟨0x2d2d, ["GEORGIAN SMALL LETTER AEN"]⟩,
  ⟨0x2d30, ["TIFINAGH LETTER YAaBaHcGaHHfBERBER ACADEMY YAJsYAJbDaHbDaHeEYcAFbKdTUAREG YAKkYAKHHdH",
    "dBERBER ACADEMY YAHsTUAREG YAHkYAHHcAbKHeTUAREG YAKHlYAQdTUAREG YAQkYIbAZHeAHAGGAR YAZH",
    "mTUAREG YAZHlYALbMbNdTUAREG YAGNcNGlYAPcUbARaRcGHeTUAREG YAGHlAYER YAGHjYASaSbHcTaHcCHcTTcVbW",
    "bYbZdTAWELLEMET YAZoYAZZdEbO"]⟩,
  ⟨0x2d6f, ["TIFINAGH MODIFIER LETTER LABIALIZATION MARKzjSEPARATOR MARK"]⟩,
  ⟨0x2d7f, ["TIFINAGH CONSONANT JOINERzETHIOPIC SYLLABLE LOAdMOAdROAdSOAcHOAeBOAdTOAdCOAdNOAcYOA",
    "eGLOTTAL OAkZOAdDOAcDOAeJOAdTHOAeCHOAePHOAdOAdGGWAbIbEEcE"]⟩,
  ⟨0x2da0, ["ETHIOPIC SYLLABLE SSAbUbIbAAcEEcEbO"]⟩,
  ⟨0x2da8, ["ETHIOPIC SYLLABLE CCAbUbIbAAcEEcEbO"]⟩,
  ⟨0x2db0, ["ETHIOPIC SYLLABLE ZZAbUbIbAAcEEcEbO"]⟩,
  ⟨0x2db8, ["ETHIOPIC SYLLABLE CCHAbUbIbAAcEEcEbO"]⟩,
  ⟨0x2dc0, ["ETHIOPIC SYLLABLE QYAbUbIbAAcEEcEbO"]⟩,
  ⟨0x2dc8, ["ETHIOPIC SYLLABLE KYAbUbIbAAcEEcEbO"]⟩,
  ⟨0x2dd0, ["ETHIOPIC SYLLABLE XYAbUbIbAAcEEcEbO"]⟩,
  ⟨0x2dd8, ["ETHIOPIC SYLLABLE GYAbUbIbAAcEEcEbO"]⟩,
  ⟨0x2de0, ["COMBINING CYRILLIC LETTER BEcVEcGHEdDEcZHEcEcKAcELbMbNcObPEcERbScTEcHAcTSEdCHEdSHA",
    "bCHAfFITAeES-TEfAbIEcDJERVfMONOGRAPH UKmYATcUcIOTIFIED AkLITTLE YUSkBIG YUShIOTIFIED BIG YUS",
    "zrRIGHT ANGLE SUBSTITUTION MARKERtDOTTED SUBSTITUTION MARKERznLEFT SUBSTITUTION BRACKET",
    "zRIGHT SUBSTITUTION BRACKETzbLEFT DOTTED SUBSTITUTION BRACKET",
    "zhRIGHT DOTTED SUBSTITUTION BRACKETzhAISED INTERPOLATION MARKERuDOTTED INTERPOLATION MARKER",
    "zjDOTTED TRANSPOSITION MARKERzcLEFT TRANSPOSITION BRACKETzbRIGHT TRANSPOSITION BRACKET",
    "zbAISED SQUAREnLEFT RAISED OMISSION BRACKETzdRIGHT RAISED OMISSION BRACKETzeEDITORIAL CORONIS",
    "rPARAGRAPHOSlFORKED PARAGRAPHOSsREVERSED FORKED PARAGRAPHOSzcHYPODIASTOLEmDOTTED OBELOS",
    "lWNWARDS ANCORAqUPWARDS ANCORAoDOTTED RIGHT-POINTING ANGLEzUBLE OBLIQUE HYPHEN",
    "vINVERTED INTERROBANGuPALM BRANCHlHYPHEN WITH DIAERESISvTILDE WITH RING ABOVE",
    "vLEFT LOW PARAPHRASE BRACKETzcRIGHT LOW PARAPHRASE BRACKETzdTILDE WITH DOT ABOVEfBELOW",
    "uLEFT VERTICAL BAR WITH QUILLzdRIGHT VERTICAL BAR WITH QUILLzeTOP LEFT HALF BRACKET",
    "rRIGHT HALF BRACKETwBOTTOM LEFT HALF BRACKETrRIGHT HALF BRACKETzLEFT SIDEWAYS U BRACKET",
    "xRIGHT SIDEWAYS U BRACKETyLEFT DOUBLE PARENTHESISxRIGHT DOUBLE PARENTHESIS",
    "yTWO DOTS OVER ONE DOT PUNCTUATIONziONE DOT OVER TWO DOTS PUNCTUATION",
    "ziSQUARED FOUR DOT PUNCTUATIONzdFIVE DOT MARKnREVERSED QUESTION MARKwVERTICAL TILDE",
    "oRING POINTkWORD SEPARATOR MIDDLE DOTzTURNED COMMAmRAISED DOTdCOMMAmTURNED SEMICOLON",
    "qDAGGER WITH LEFT GUARDkRIGHT GUARDxTURNED DAGGERmOP HALF SECTION SIGNuWO-EM DASH",
    "kHREE-EM DASHnSTENOGRAPHIC FULL STOPwVERTICAL SIX DOTSrWIGGLY VERTICAL LINEuCAPITULUM",
    "jDOUBLE HYPHENnREVERSED COMMAoDOUBLE LOW-REVERSED-9 QUOTATION MARKzkASH WITH LEFT UPTURN",
    "uOUBLE SUSPENSION MARKwINVERTED LOW KAVYKAa WITH KAVYKA ABOVEzmLOW KAVYKAa WITH DOT",
    "tDOUBLE STACKED COMMAsTTED SOLIDUSoTRIPLE DAGGERnMEDIEVAL COMMAoPARAGRAPHUS MARK",
    "pUNCTUS ELEVATUS MARKvCORNISH VERSE DIVIDERuROSS PATTY WITH RIGHT CROSSBARoLEFT CROSSBAR",
    "zfTIRONIAN SIGN CAPITAL ETyMEDIEVAL EXCLAMATION MARKqQUESTION MARK",
    "wLEFT SQUARE BRACKET WITH STROKEzgRIGHT SQUARE BRACKET WITH STROKE",
    "zhLEFT SQUARE BRACKET WITH DOUBLE STROKEznRIGHT SQUARE BRACKET WITH DOUBLE STROKE",
    "zoTOP HALF LEFT PARENTHESISqRIGHT PARENTHESISzbBOTTOM HALF LEFT PARENTHESISqRIGHT PARENTHESIS",
    "zeOBLIQUE HYPHEN"]⟩,
  ⟨0x2e80, ["CJK RADICAL REPEATgCLIFFfSECOND ONEdTWOcHREEmPERSONgBOXdTABLEfKNIFE ONEdTWO",
    "jDIVINATIONkSEALdMALL ONEdTWOjLAME ONEdTWOcHREEfFOURjSNAKEfTHREADgSNOUT ONEdTWOjHEART ONEdTWO",
    "iANDeRAP"]⟩,
  ⟨0x2e9b, ["CJK RADICAL CHOKEfSUNdMOONeDEATHfMOTHERgCIVILIANiWATER ONEdTWOjFIREePAW ONEdTWO",
    "hSIMPLIFIED HALF TREE TRUNKzbCOWdDOGdJADEeBOLT OF CLOTHnEYEdSPIRIT ONEdTWOkBAMBOOgSILK",
    "eC-SIMPLIFIED SILKrNET ONEdTWOcHREEfFOURiMESHeSHEEPfRAMdEWEdOLDdBRUSH ONEdTWOjMEATdORTAR",
    "gGRASS ONEdTWOcHREElTIGERfCLOTHEShWEST ONEdTWOiC-SIMPLIFIED SEEqSIMPLIFIED HORNpHORN",
    "eC-SIMPLIFIED SPEECHfHELLsFOOTeC-SIMPLIFIED CARTrSIMPLIFIED WALKpWALK ONEdTWOiCITY",
    "d-SIMPLIFIED GOLDrLONG ONEdTWOiC-SIMPLIFIED LONGeGATErMOUND ONEdTWOjRAINeBLUE",
    "eC-SIMPLIFIED TANNED LEATHERoLEAFeWINDeFLYqEAT ONEdTWOcHREEjC-SIMPLIFIED EATqHEAD",
    "eC-SIMPLIFIED HORSEsBONEeGHOSTfC-SIMPLIFIED FISHeBIRDeSALTrSIMPLIFIED WHEATfYELLOW",
    "rC-SIMPLIFIED FROGrJ-SIMPLIFIED EVENrC-SIMPLIFIED EVENrJ-SIMPLIFIED TOOTHsC-SIMPLIFIED TOOTH",
    "sJ-SIMPLIFIED DRAGONtC-SIMPLIFIED DRAGONtTURTLEgJ-SIMPLIFIED TURTLEtC-SIMPLIFIED TURTLE"]⟩,
  ⟨0x2f00, ["KANGXI RADICAL ONEdLINEeDOTdSLASHeECONDgHOOKeTWOdLIDdMANdLEGSeENTEReIGHTfDOWN BOX",
    "iCOVERfICEdTABLEfOPEN BOXiKNIFEfPOWERfWRAPeSPOONfRIGHT OPEN BOXoHIDING ENCLOSUREqTEN",
    "dDIVINATIONkSEALeCLIFFfPRIVATEhAGAINfMOUTHfENCLOSUREiARTHfSCHOLARhGOa SLOWLYjEVENINGhBIG",
    "dWOMANfCHILDfROOFeINCHeSMALLfLAMEeCORPSEgSPROUTgMOUNTAINiRIVERfWORKeONESELFhTURBANgDRY",
    "dSHORT THREADmDOTTED CLIFFmLONG STRIDElTWO HANDSjSHOOTfBOWdSNOUTfBRISTLEhSTEPeHEARTeALBERD",
    "hDOOReHANDeBRANCHgRAPdSCRIPTgDIPPERgAXEdSQUAREgNOTdSUNcAYdMOONeTREEeLACKeSTOPeDEATHfWEAPON",
    "gDO NOTgCOMPAREhFURdCLANeSTEAMfWATERfFIREeCLAWeFATHERgDOUBLE XiHALF TREE TRUNKpSLICEfFANGeCOW",
    "dDOGdPROFOUNDiJADEeMELONfTILEeSWEETfLIFEeUSEdFIELDfBOLT OF CLOTHnSICKNESSiDOTTED TENTlWHITE",
    "fSKINeDISHeEYEdSPEARfARROWfSTONEePIRITgTRACKfGRAINfCAVEeSTANDfBAMBOOgRICEeSILKeJARdNETdSHEEP",
    "fFEATHERhOLDdANDdPLOWeEARdBRUSHfMEATdINISTERiSELFeARRIVEgMORTARgTONGUEgOPPOSEgBOATeSTOPPING",
    "iCOLORfGRASSfTIGERfINSECTgBLOODfWALK ENCLOSUREoCLOTHEShWESTeSEEdHORNeSPEECHgVALLEYgBEANePIG",
    "dBADGERgSHELLfREDcUNdFOOTeBODYeCARTeBITTERgMORNINGhWALKeCITYeWINEeDISTINGUISHlVILLAGEhGOLD",
    "eLONGeGATEeMOUNDfSLAVEeHORT TAILED BIRDrRAINeBLUEeWRONGfFACEeLEATHERhTANNED LEATHERoLEEK",
    "eSOUNDfLEAFeWINDeFLYdEATdHEADeFRAGRANTiHORSEfBONEeTALLeHAIReFIGHTfSACRIFICIAL WINEqCAULDRON",
    "iGHOSTfFISHeBIRDeSALTeDEEReWHEATfHEMPeYELLOWgMILLETgBLACKfEMBROIDERYkFROGeTRIPODgDRUMeRAT",
    "dNOSEeEVENeTOOTHfDRAGONgTURTLEgFLUTE"]⟩,
  ⟨0x2ff0, ["IDEOGRAPHIC DESCRIPTION CHARACTER LEFT TO RIGHTnABOVE TO BELOW",
    "oLEFT TO MIDDLE AND RIGHTyABOVE TO MIDDLE AND BELOWzFULL SURROUNDnSURROUND FROM ABOVEfBELOW",
    "fLEFTeUPPER LEFTeRIGHTlLOWER LEFTyOVERLAID"]⟩,
  ⟨0x3000, ["IDEOGRAPHIC SPACEfCOMMAfFULL STOPvDITTO MARKkJAPANESE INDUSTRIAL STANDARD SYMBOL",
    "zkIDEOGRAPHIC ITERATION MARKoCLOSING MARKmNUMBER ZEROxLEFT ANGLE BRACKETsRIGHT ANGLE BRACKET",
    "tLEFT DOUBLE ANGLE BRACKETzRIGHT DOUBLE ANGLE BRACKETzbLEFT CORNER BRACKET",
    "tRIGHT CORNER BRACKETuLEFT WHITE CORNER BRACKETzRIGHT WHITE CORNER BRACKET",
    "zbLEFT BLACK LENTICULAR BRACKETzeRIGHT BLACK LENTICULAR BRACKETzfPOSTAL MARKlGETA MARK",
    "jLEFT TORTOISE SHELL BRACKETzcRIGHT TORTOISE SHELL BRACKETzdLEFT WHITE LENTICULAR BRACKET",
    "zeRIGHT WHITE LENTICULAR BRACKETzfLEFT WHITE TORTOISE SHELL BRACKET",
    "ziRIGHT WHITE TORTOISE SHELL BRACKETzjLEFT WHITE SQUARE BRACKETzRIGHT WHITE SQUARE BRACKET",
    "zbWAVE DASHjREVERSED DOUBLE PRIME QUOTATION MARKzlDOUBLE PRIME QUOTATION MARK",
    "zcLOW DOUBLE PRIME QUOTATION MARKzgPOSTAL MARK FACEqHANGZHOU NUMERAL ONEdTWOcHREEfFOURdIVE",
    "eSIXcEVENfEIGHTfNINEvIDEOGRAPHIC LEVEL TONE MARKpRISING TONE MARKqDEPARTING TONE MARK",
    "tENTERING TONE MARKzfHANGUL SINGLE DOT TONE MARKuDOUBLE DOT TONE MARKzcWAVY DASH",
    "jVERTICAL KANA REPEAT MARKeWITH VOICED SOUND MARKwMARK UPPER HALF",
    "pWITH VOICED SOUND MARK UPPER HALFziMARK LOWER HALFzlCIRCLED POSTAL MARK",
    "tIDEOGRAPHIC TELEGRAPH LINE FEED SEPARATOR SYMBOLzxHANGZHOU NUMERAL TENcWENTYfHIRTY",
    "xVERTICAL IDEOGRAPHIC ITERATION MARKzkMASU MARKjPART ALTERNATION MARK",
    "vIDEOGRAPHIC VARIATION INDICATORtHALF FILL SPACE"]⟩,
  ⟨0x3041, ["HIRAGANA LETTER SMALL AhAbSMALL IhIbSMALL UhUbSMALL EhEbSMALL OhObKAcGAcKIcGIcKUcGU",
    "cKEcGEcKOcGOcSAcZAcSIcZIcSUcZUcSEcZEcSOcZOcTAcDAcTIcDIcSMALL TUiTUcDUcTEcDEcTOcDOcNAbIbUbEbO",
    "cHAcBAcPAcHIcBIcPIcHUcBUcPUcHEcBEcPEcHOcBOcPOcMAbIbUbEbOcSMALL YAiYAcSMALL YUiYUcSMALL YOiYO",
    "cRAbIbUbEbOcSMALL WAiWAbIbEbOcNbVUcSMALL KAbE"]⟩,
  ⟨0x3099, ["COMBINING KATAKANA-HIRAGANA VOICED SOUND MARKrSEMI-VOICED SOUND MARK",
    "zzKATAKANA-HIRAGANA VOICED SOUND MARKrSEMI-VOICED SOUND MARKzpHIRAGANA ITERATION MARK",
    "oVOICED ITERATION MARKvDIGRAPH YORIvKATAKANA-HIRAGANA DOUBLE HYPHENx LETTER SMALL AhAbSMALL I",
    "hIbSMALL UhUbSMALL EhEbSMALL OhObKAcGAcKIcGIcKUcGUcKEcGEcKOcGOcSAcZAcSIcZIcSUcZUcSEcZEcSOcZO",
    "cTAcDAcTIcDIcSMALL TUiTUcDUcTEcDEcTOcDOcNAbIbUbEbOcHAcBAcPAcHIcBIcPIcHUcBUcPUcHEcBEcPEcHOcBO",
    "cPOcMAbIbUbEbOcSMALL YAiYAcSMALL YUiYUcSMALL YOiYOcRAbIbUbEbOcSMALL WAiWAbIbEbOcNbVUcSMALL KA",
    "bEiVAbIbEbOjMIDDLE DOTl-HIRAGANA PROLONGED SOUND MARKzf ITERATION MARKoVOICED ITERATION MARK",
    "vDIGRAPH KOTO"]⟩,
  ⟨0x3105, ["BOPOMOFO LETTER BbPbMbFbDbTbNbLbGbKbHbJbQbXbZHcCHcSHcRbZbCbSbAbObEaHcAIcEIcAUcOUcAN",
    "cENcANGdENGcRcIbUbIUcVbNGcGNcIHcO WITH DOT ABOVEqNN"]⟩,
  ⟨0x3131, ["HANGUL LETTER KIYEOKgSSANGKIYEOKlKIYEOK-SIOSlNIEUNa-CIEUCfHIEUHlTIKEUTgSSANGTIKEUT",
    "lRIEULa-KIYEOKgMIEUMfPIEUPfSIOSeTHIEUTHhPHIEUPHhHIEUHlMIEUMfPIEUPfSSANGPIEUPkPIEUP-SIOSkSIOS",
    "dSANGSIOSjIEUNGfCIEUCfSSANGCIEUCkCHIEUCHhKHIEUKHhTHIEUTHhPHIEUPHhHIEUHfAaEcYAaEdEOcEbYEOcEcO",
    "bWAaEdOEcYOcUbWEOcEbIcYUcEUcYIcIiFILLERgLETTER SSANGNIEUNkNIEUN-TIKEUTgSIOSePANSIOS",
    "nRIEUL-KIYEOK-SIOSlTIKEUTgPIEUP-SIOSjANSIOShYEORINHIEUHrMIEUM-PIEUPfSIOSePANSIOS",
    "nKAPYEOUNMIEUMnPIEUP-KIYEOKgTIKEUTgSIOS-KIYEOKgTIKEUTlCIEUCfTHIEUTHnKAPYEOUNPIEUPfSSANGPIEUP",
    "sSIOS-KIYEOKgNIEUNfTIKEUTgPIEUPfCIEUCkPANSIOShSSANGIEUNGkYESIEUNGa-SIOSePANSIOS",
    "qKAPYEOUNPHIEUPHpSSANGHIEUHkYEORINHIEUHkO-YAaEdIdU-YEOcEcIeARAEAaE"]⟩,
  ⟨0x3190, ["IDEOGRAPHIC ANNOTATION LINKING MARKmREVERSE MARKmONE MARKiTWO MARKhHREE MARK",
    "kFOUR MARKjTOP MARKiMIDDLE MARKlBOTTOM MARKlFIRST MARKkSECOND MARKlTHIRD MARKkFOURTH MARK",
    "lHEAVEN MARKlEARTH MARKkMAN MARKzgBOPOMOFO LETTER BUcZIcJIcGUcEEbNNdOObNNdIRcANNdINNdUNNdIM",
    "cNGGdAINNdUNNdMcOMbNGdINNNlFINAL LETTER PbTbKbHoLETTER GHcLHcZYjFINAL LETTER GoLETTER GWcKW",
    "cOEcAHsCJK STROKE TbWGcXGcBXGdSWcHZZbGcPbZWGeSZWGeHZTbZPdPWGdZWbZZeNbHbSbPbSPcDbHZbGcSZbWZcT",
    "bGcPDbZcTNcSZZcWGdHXWGdZZZGfPGcQ"]⟩,
  ⟨0x31f0, ["KATAKANA LETTER SMALL KUcSIbUcTOcNUcHAbIbUbEbOcMUcRAbIbUbEbO",
    "yPARENTHESIZED HANGUL KIYEOKgNIEUNfTIKEUTgRIEULfMIEUMfPIEUPfSIOSeIEUNGfCIEUCeHIEUCHhKHIEUKH",
    "hTHIEUTHhPHIEUPHhHIEUHfKIYEOK AiNIEUN AhTIKEUT AiRIEUL AhMIEUM AhPIEUP AhSIOS AgIEUNG A",
    "hCIEUC AgHIEUCH AjKHIEUKH AjTHIEUTH AjPHIEUPH AjHIEUH AhCIEUC UoKOREAN CHARACTER OJEONe HU"]⟩,
  ⟨0x3220, ["PARENTHESIZED IDEOGRAPH ONEdTWOcHREEfFOURdIVEeSIXcEVENfEIGHTfNINEeTENdMOONeFIREeWATER",
    "eOODeMETALfEARTHfSUNcTOCKfHAVEeSOCIETYhNAMEeSPECIALhFINANCIALjCONGRATULATIONoLABORfREPRESENT",
    "jCALLeSTUDYeUPERVISEjENTERPRISEkRESOURCEiALLIANCEiFESTIVALiRESTeSELFeREACH",
    "zeCIRCLED IDEOGRAPH QUESTIONiKINDERGARTENmSCHOOLgKOTOoNUMBER TEN ON BLACK SQUARE",
    "sWENTY ON BLACK SQUAREvHIRTY ON BLACK SQUAREwFORTY ON BLACK SQUAREuIFTY ON BLACK SQUARE",
    "vSIXTY ON BLACK SQUAREuEVENTY ON BLACK SQUARExEIGHTY ON BLACK SQUAREzmPARTNERSHIP SIGN",
    "qCIRCLED NUMBER TWENTY ONEdTWOcHREEfFOURdIVEeSIXcEVENfEIGHTfNINEkHIRTYa ONEdTWOcHREEfFOURdIVE",
    "sHANGUL KIYEOKgNIEUNfTIKEUTgRIEULfMIEUMfPIEUPfSIOSeIEUNGfCIEUCeHIEUCHhKHIEUKHhTHIEUTHhPHIEUPH",
    "hHIEUHfKIYEOK AiNIEUN AhTIKEUT AiRIEUL AhMIEUM AhPIEUP AhSIOS AgIEUNG AhCIEUC AgHIEUCH A",
    "jKHIEUKH AjTHIEUTH AjPHIEUPH AjHIEUH AoKOREAN CHARACTER CHAMKOgJUEUIwHANGUL IEUNG U",
    "wKOREAN STANDARD SYMBOLwCIRCLED IDEOGRAPH ONEdTWOcHREEfFOURdIVEeSIXcEVENfEIGHTfNINEeTENdMOON",
    "eFIREeWATEReOODeMETALfEARTHfSUNcTOCKfHAVEeSOCIETYhNAMEeSPECIALhFINANCIALjCONGRATULATIONoLABOR",
    "fSECRETgMALEeFEMALEgSUITABLEiEXCELLENTjPRINTfATTENTIONjITEMeRESTeCOPYcRRECThHIGHeCENTREgLOW",
    "cEFTeRIGHTfMEDICINEiRELIGIONiSTUDYeUPERVISEjENTERPRISEkRESOURCEiALLIANCEiNIGHT",
    "pNUMBER THIRTY SIXcEVENfEIGHTfNINElFORTYa ONEdTWOcHREEfFOURdIVEeSIXcEVENfEIGHTfNINEjIFTY",
    "uIDEOGRAPHIC TELEGRAPH SYMBOL FOR JANUARYhFEBRUARYiMARCHfAPRILfMAYdJUNEcLYeAUGUSTgSEPTEMBER",
    "jOCTOBERhNOVEMBERiDECEMBERzqSQUARE HGcERGcVjLIMITED LIABILITY SIGNwCIRCLED KATAKANA AbIbUbEbO",
    "bKAbIbUbEbOcSAbIbUbEbOcTAbIbUbEbOcNAbIbUbEbOcHAbIbUbEbOcMAbIbUbEbOcYAbUbOcRAbIbUbEbOcWAbIbEbO",
    "tSQUARE ERA NAME REIWAoAPAATOfRUHUAfNPEAeARUeININGUeTIeUONdESUKUUDOhEKAAfONSUdOMUeKAIRIdRATTO",
    "eORIIhGARONdNMAeIGAcNIIfKYURIIgGIRUDAAhKIROaGURAMUgMEETORUhWATTOjGURAMUaTONjKURUZEIROgOONE",
    "gEESUeORUNAeOPOfSAIKURUfNTIIMUhIRINGUgENTIbOfDAASUeESIdORUeTONdNANOdOTTOfHAITUfPAASENTOfTU",
    "fBAARERUhPIASUTORUhKURUdOeBIRUeHUARADDOgIITOgBUSSYERUiHURANeEKUTAARUjPESOcNIHIgHERUTUgPENSU",
    "dEZIfBEETAfPOINTOgBORUTOgHONdPONDOfHOORUcNeMAIKUROeRUdHHAdRUKUeNSYONgIKURONfRIaBAARUiEGAaTON",
    "fETORUhYAADOcRUeUANeRITTORUfRAdUPIIdUBURUgEMUcNTOGENiWATTO",
    "mIDEOGRAPHIC TELEGRAPH SYMBOL FOR HOUR ZEROeONEdTWOcHREEfFOURdIVEeSIXcEVENfEIGHTfNINEeTEN",
    "dELEVENgTWELVEfHIRTEENiFOURTEENhIFTEENhSIXTEENgEVENTEENjEIGHTEENiNINETEENiTWENTYa-ONEdTWO",
    "cHREEfFOURzySQUARE HPAdDAcAUcBARdOVcPCcDMa SQUAREDhCUBEDiIUcERA NAME HEISEIgSYOUWAgTAISYOU",
    "hMEIZIoCORPORATIONlPA AMPShNAcMU AdAcKAbBcMBcGBcCALdKCALePFcNFcMU FbGdGcKGcHZcKHZdMHZdGHZdTHZ",
    "dMU LdLcDLcKLcFMcNMcMU MdMcCMcKMcMM SQUAREDkCM SQUAREDkM SQUAREDjKM SQUAREDkMM CUBEDiCM CUBED",
    "iM CUBEDhKM CUBEDiM OVER Sa SQUAREDqPAcKPAdMPAdGPAdRADa OVER Sa SQUAREDsPScNScMU SdScPVcNV",
    "cMU VdVcKVcMV MEGAhPWcNWcMU WdWcKWcMW MEGAhK OHMfM OHMfAMcBQcCCbDb OVER KGiOcDBcGYcHAbPcINcKK",
    "bM CAPITALjTcLMbNbOGcXcMB SMALLhILcOLdPHbMbPMcRcSRbVcWBcV OVER MiA OVER M",
    "pIDEOGRAPHIC TELEGRAPH SYMBOL FOR DAY ONEdTWOcHREEfFOURdIVEeSIXcEVENfEIGHTfNINEeTENdELEVEN",
    "gTWELVEfHIRTEENiFOURTEENhIFTEENhSIXTEENgEVENTEENjEIGHTEENiNINETEENiTWENTYa-ONEdTWOcHREEfFOUR",
    "dIVEeSIXcEVENfEIGHTfNINEkHIRTYa-ONEzwSQUARE GAL"]⟩,
  ⟨0x4dc0, ["HEXAGRAM FOR THE CREATIVE HEAVENpRECEPTIVE EARTHtDIFFICULTY AT THE BEGINNING",
    "zcYOUTHFUL FOLLYoWAITINGhCONFLICTiTHE ARMYiHOLDING TOGETHERqSMALL TAMINGmTREADINGiPEACE",
    "fSTANDSTILLkFELLOWSHIPkGREAT POSSESSIONqMODESTYhENTHUSIASMkFOLLOWINGjWORK ON THE DECAYED",
    "tAPPROACHiCONTEMPLATIONnBITING THROUGHoGRACEfSPLITTING APARTpRETURNgINNOCENCEjGREAT TAMING",
    "mMOUTH CORNERSnGREAT PREPONDERANCEtTHE ABYSMAL WATERnCLINGING FIRErINFLUENCEjDURATIONiRETREAT",
    "hGREAT POWERlPROGRESSiDARKENING OF THE LIGHTwTHE FAMILYkOPPOSITIONjBSTRUCTIONlDELIVERANCE",
    "jCREASEiINCREASEiBREAKTHROUGHmCOMING TO MEEToGATHERING TOGETHERsPUSHING UPWARDoOPPRESSION",
    "kTHE WELLiREVOLUTIONkTHE CAULDRONiAROUSING THUNDERqKEEPING STILL MOUNTAINzbDEVELOPMENT",
    "lTHE MARRYING MAIDENtABUNDANCEjTHE WANDERERiGENTLE WINDlJOYOUS LAKEpDISPERSIONkLIMITATION",
    "kINNER TRUTHlSMALL PREPONDERANCEtAFTER COMPLETIONqBEFORE COMPLETION"]⟩,
  ⟨0xa000, ["YI SYLLABLE ITbXcIaPbETbXcEaPdATbXcAaPcUOXcOaPdOTbXcOaPcEXcEbWUcBITbXcIaPbETbXcEaPdAT",
    "bXcAaPcUOXcOaPdOTbXcOaPcEXcEaPcUTbXcUaPbRXcRcYTbXcYaPbRXcRdPITbXcIaPbEXcEaPdATbXcAaPcUOXcOaP",
    "dOTbXcOaPcUTbXcUaPbRXcRcYTbXcYaPbRXcRdBBITbXcIaPbETbXcEaPdATbXcAaPcUOXcOaPdOTbXcOaPcEXcEaPcUT",
    "bXcUaPbRXcRcYTbXcYaPeNBITbXcIaPbEXcEaPdATbXcAaPcOTbXcOaPcUTbXcUaPbRXcRcYTbXcYaPbRXcReHMITbXcI",
    "aPbEXcEaPdATbXcAaPcUOXcOaPdOTbXcOaPcUTbXcUaPbRXcRcYXcYaPbRXcReMITbXcIaPbEXcEaPdATbXcAaPcUOTbX",
    "cOaPdOTbXcOaPcEXcEbUTbXcUaPbRXcRcYTbXcYaPdFITbXcIaPcATbXcAaPcOXcOaPcUTbXcUaPbRXcRcYTbXcYaP",
    "dVITbXcIaPbETbXcEaPdATbXcAaPcOTbXcOaPcEXbPcUTbXcUaPbRXcRcYTbXcYaPbRXcRdDITbXcIaPbEXcEaPdATbX",
    "cAaPcUOXcOcOTbXcOaPcEXcEaPcUTbXcUaPbRXcRdTITbXcIaPbEXcEaPdATbXcAaPcUOTbXcOaPdOTbXcOaPcEXcEaP",
    "cUTbXcUaPbRXcRdDDITbXcIaPbEXcEaPdATbXcAaPcUOXcOaPdOTbXcOaPcEXcEaPcUTbXcUaPbRXcReNDITbXcIaPbEX",
    "cEcATbXcAaPcOTbXcOaPcEXcEaPcUTbXcUaPbRXcReHNITbXcIaPbETbXcEaPdATbXcAaPcUOXcOcOTbXbPcEXcEaPcUT",
    "eNITbXcIaPbEXcEaPdAXcAaPcUOXcOaPdOTbXcOaPcEXcEaPcUTbXcUaPbRXcRdHLITbXcIaPbEXcEaPdATbXcAaPcUOX",
    "cOaPdOXcOaPcEXcEaPcUTbXcUaPbRXcRcYTbXcYaPbRXcReLITbXcIaPbETbXcEaPdATbXcAaPcUOTbXcOaPdOTbXcOaP",
    "cEXcEaPcUTbXcUaPbRXcRcYTbXcYaPbRXcRdGITbXcIaPbETbXcEaPdATbXcAaPcUOTbXcOaPdOTbXcOaPcETbXcEaP",
    "cUTbXcUaPbRXcRdKITbXcIaPbEXcEaPdATbXcAaPcUOXcOaPdOTbXcOaPcETbXcEaPcUTbXcUaPbRXcRdGGITbXcIaEX",
    "cEaPdATbXcAaPcUOTbXcOaPdOTbXcOaPcETbXcEaPcUTbXcUaPbRXcReMGIEXcEcATbXcAaPcUOXcOaPdOTbXcOaPcEX",
    "cEaPcUTbXcUaPbRXcReHXITbXcIaPbETbXcEaPdATbXcAaPcUOTbXcOaPdOTbXcOaPcEXcEaPeNGIEXcEaPdATbXcAaP",
    "cUOTbXcOcOTbXcOaPcEXcEaPeHITbEXcEcATbXcAaPcUOTbXcOaPdOTbXcOaPcEXcEaPdWATbXcAaPcUOXcOaPdOXcOaP",
    "cEXcEaPdZITbXcIaPbEXcEaPdATbXcAaPcUOXcOaPdOTbXcOaPcEXcEaPcUTbXcUaPbRXcRcYTbXcYaPbRXcRdCITbXcI",
    "aPbETbXcEaPdATbXcAaPcUOXcOaPdOTbXcOaPcEXcEaPcUTbXcUaPbRXcRcYTbXcYaPbRXcRdZZITbXcIaPbETbXcEaP",
    "dATbXcAaPcOXcOaPcEXcEaPcUXcUaPbRXcRcYTbXcYaPbRXcReNZITbXcIaPbEXcEaPdATbXcAaPcUOXcOcOXbPcEXcE",
    "bUXcUaPbRXcRcYTbXcYaPbRXcReSITbXcIaPbEXcEaPdATbXcAaPcUOXcOaPdOTbXcOaPcEXcEaPcUTbXcUaPbRXcRcYT",
    "bXcYaPbRXcRcSITbXcIaPbEXcEaPdATbXcAaPcOTbXcOaPcEXcEaPcUTbXcUaPcYTbXcYaPbRXcReZHATbXcAaPcUOXcO",
    "aPdOTbXcOaPcETbXcEaPcUTbXcUaPbRXcRcYTbXcYaPbRXcReCHATbXcAaPcUOTbXcOaPdOTbXcOaPcETbXcEaPcUXcU",
    "aPbRXcRcYTbXcYaPbRXcReRRAXcAbUOXcOcOTbXcOaPcETbXcEaPcUTbXcUaPbRXcRcYTbXcYaPbRXcReNRATbXcAaP",
    "cOXcOaPcETbXcEaPcUTbXcUaPbRXcRcYTbXcYaPbRXcReSHATbXcAaPcUOXcOaPdOTbXcOaPcETbXcEaPcUTbXcUaPbRX",
    "cRcYTbXcYaPbRXcReRATbXcAaPcUOXcOaPdOTbXcOaPcEXcEaPcUTbXcUaPbRXcRcYTbXcYaPbRXcRdJITbXcIaPbETbX",
    "cEaPdUOTbXcOaPdOTbXcOaPcUTbXcUaPbRXcRcYTbXcYaPbRXcRdQITbXcIaPbETbXcEaPdUOTbXcOaPdOTbXcOaPcUT",
    "bXcUaPbRXcRcYTbXcYaPbRXcRdJJITbXcIaPbETbXcEaPdUOXcOaPdOTbXcOaPcUTbXcUaPbRXcRcYTbXcYaPeNJITbX",
    "cIaPbETbXcEaPdUOXcOcOTbXcOaPcUXcUaPbRXcRcYTbXcYaPbRXcRdYITbXcIaPbETbXcEaPdUOXcOaPdOTbXcOaPcUT",
    "bXcUaPeXITbXcIaPbETbXcEaPdUOXcOcOTbXcOaPcYTbXcYaPbRXcRdYITbXcIaPbETbXcEaPdUOTbXcOaPdOTbXcOaP",
    "cUTbXcUaPbRXcRcYTbXcYaPbRXcR"]⟩,
  ⟨0xa490, ["YI RADICAL QOTdLIcKITdNYIPeCYPdSSIdGGOPdEPdMIcHXITeLYRdBBUTeMOPdYOcPUTdHXUOeTATdGA",
    "cZUPdCYTdDDUReBURdGGUOeNYOPeTUcOPcJJUTeZOTdPYTdHMOdYITdVURdSHYdVEPdZAcJOcNZUPeJJYdGOTdJJIEeWO",
    "cDUcSHUReLIEdCYbUOPdIPdHXOPeSHATeZURdSHOPeCHEdZZIETfNBIEeKE"]⟩,
  ⟨0xa4d0, ["LISU LETTER BAcPAbHAdDAcTAbHAdGAcKAbHAdJAcCAbHAdDZAdTSAbHAeMAcNAcLAcSAcZHAcAcNGAdHA",
    "cXAcHHAdFAcWAcSHAdYAcGHAdAaEcEaUcIbObUaEbHcOEcTONE MYA TIgNA POfMYA CYAdBOcNAcJEU",
    "tPUNCTUATION COMMAfFULL STOPzbVAI SYLLABLE EEaNdHEEdWEEaNePEEdBHEEdEEdMBEEeKPEEeMGBEEfGBEE",
    "eFEEdVEEdTEEcHEEeDHEEcHEEfLEEdREEdDEEdNDEEeSEEcHEEeZEEcHEEeCEEdJEEdNJEEeYEEdKEEdNGGEEfGEEdMEE",
    "dNEEcYEEeIaNcHIaNdWIaNdPIcBHIcIcMBIdKPIdMGBIeGBIdFIcVIcTIbHIdDHIbHIeLIcRIcDIcNDIdSIbHIdZIbHI",
    "dCIcJIcNJIdYIcKIcNGGIeGIcMIcNIbYIdAaNcNGANeHAaNdWAaNdPAcBHAcAcMBAdKPAaNeMGBAeGBAdFAcVAcTAbHA",
    "dDHAbHAeLAcRAcDAcNDAdSAbHAdZAbHAdCAcJAcNJAdYAcKAaNdNGGAeGAcMAcNAbYAdOOaNdHOOdWOOaNePOOdBHOO",
    "dOOdMBOOeKPOOeMGBOOfGBOOeFOOdVOOdTOOcHOOeDHOOcHOOfLOOdROOdDOOdNDOOeSOOcHOOeZOOcHOOeCOOdJOO",
    "dNJOOeYOOdKOOdNGGOOfGOOdMOOdNOOcYOOeUaNcHUaNdWUaNdPUcBHUcUcMBUdKPUdMGBUeGBUdFUcVUcTUbHUdDHU",
    "bHUeLUcRUcDUcNDUdSUbHUdZUbHUdCUcJUcNJUdYUcKUcNGGUeGUcMUcNUbYUdOaNcNGONeHOaNdWOaNdPOcBHOcOcMBO",
    "dKPOdMGBOeGBOaNeFOcVOcTObHOdDHObHOeLOcROcDOcNDOdSObHOdZObHOdCOcJOcNJOdYOcKOcNGGOeGOcMOcNObYO",
    "dEaNcNGENeHEaNdWEaNdPEcBHEcEcMBEdKPEaNeMGBEeGBEaNeFEcVEcTEbHEdDHEbHEeLEcREcDEcNDEdSEbHEdZEbHE",
    "dCEcJEcNJEdYEcKEcNGGEaNfGEaNdMEcNEbYEcGcLENGTHENERtCOMMAfFULL STOPjQUESTION MARK",
    "nSYLLABLE NDOLE FAcKAcSOOqMBOL FEENGfKEENGfTINGeNIIdBANGeFAAdTAAdDANGdOONGfKUNGeTONGeDO-O",
    "eJONGlDIGIT ZEROeONEdTWOcHREEfFOURdIVEeSIXcEVENfEIGHTfNINEkSYLLABLE NDOLE MAcDO"]⟩,
  ⟨0xa640, ["CYRILLIC CAPITAL LETTER ZEMLYAvSMALL LETTER ZEMLYAtCAPITAL LETTER DZELO",
    "uSMALL LETTER DZELOsCAPITAL LETTER REVERSED DZEzcSMALL LETTER REVERSED DZE",
    "zCAPITAL LETTER IOTAtSMALL LETTER IOTArCAPITAL LETTER DJERVuSMALL LETTER DJERV",
    "sCAPITAL LETTER MONOGRAPH UKzcSMALL LETTER MONOGRAPH UKzCAPITAL LETTER BROAD OMEGA",
    "zbSMALL LETTER BROAD OMEGAyCAPITAL LETTER NEUTRAL YERzbSMALL LETTER NEUTRAL YER",
    "yCAPITAL LETTER YERU WITH BACK YERziSMALL LETTER YERU WITH BACK YER",
    "zgCAPITAL LETTER IOTIFIED YATzcSMALL LETTER IOTIFIED YATzCAPITAL LETTER REVERSED YU",
    "zbSMALL LETTER REVERSED YUyCAPITAL LETTER IOTIFIED AzSMALL LETTER IOTIFIED A",
    "xCAPITAL LETTER CLOSED LITTLE YUSzhSMALL LETTER CLOSED LITTLE YUSzfCAPITAL LETTER BLENDED YUS",
    "zbSMALL LETTER BLENDED YUSyCAPITAL LETTER IOTIFIED CLOSED LITTLE YUS",
    "zqSMALL LETTER IOTIFIED CLOSED LITTLE YUSzoCAPITAL LETTER YNrSMALL LETTER YN",
    "pCAPITAL LETTER REVERSED TSEzcSMALL LETTER REVERSED TSEzCAPITAL LETTER SOFT DE",
    "wSMALL LETTER SOFT DEuCAPITAL LETTER SOFT ELwSMALL LETTER SOFT ELuCAPITAL LETTER SOFT EM",
    "wSMALL LETTER SOFT EMuCAPITAL LETTER MONOCULAR OzbSMALL LETTER MONOCULAR O",
    "yCAPITAL LETTER BINOCULAR OzbSMALL LETTER BINOCULAR OyCAPITAL LETTER DOUBLE MONOCULAR O",
    "ziSMALL LETTER DOUBLE MONOCULAR OzgLETTER MULTIOCULAR OzdOMBINING CYRILLIC VZMET",
    "fTEN MILLIONS SIGNrHUNDRED MILLIONS SIGNvTHOUSAND MILLIONS SIGNzqSLAVONIC ASTERISK",
    "rCOMBINING CYRILLIC LETTER UKRAINIAN IEmIbYIcUbHARD SIGNjYERUeSOFT SIGNjOMEGAmKAVYKAgPAYEROK",
    "zYRILLIC KAVYKAgPAYEROKhCAPITAL LETTER DWEsSMALL LETTER DWEqCAPITAL LETTER DZWE",
    "tSMALL LETTER DZWErCAPITAL LETTER ZHWEtSMALL LETTER ZHWErCAPITAL LETTER CCHE",
    "tSMALL LETTER CCHErCAPITAL LETTER DZZEtSMALL LETTER DZZErCAPITAL LETTER TE WITH MIDDLE HOOK",
    "zjSMALL LETTER TE WITH MIDDLE HOOKzhCAPITAL LETTER TWEsSMALL LETTER TWEqCAPITAL LETTER TSWE",
    "tSMALL LETTER TSWErCAPITAL LETTER TSSEtSMALL LETTER TSSErCAPITAL LETTER TCHE",
    "tSMALL LETTER TCHErCAPITAL LETTER HWEsSMALL LETTER HWEqCAPITAL LETTER SHWEtSMALL LETTER SHWE",
    "rCAPITAL LETTER DOUBLE OxSMALL LETTER DOUBLE OvCAPITAL LETTER CROSSED O",
    "ySMALL LETTER CROSSED OzgMODIFIER LETTER CYRILLIC HARD SIGNjSOFT SIGN",
    "zjCOMBINING CYRILLIC LETTER EFcIOTIFIED EzlBAMUM LETTER AbKAcUbKUcEEcREEdTAEdObNYIdIbLAcPA",
    "cRIIbEEeLEEEEfMEEEEfTAAdNDAAdJAEMfMbSUUdMUcSHIIdIbHEUXeEUXeKYEEdETdNUAEdUbJUAEfYOQdSHUdYUQcA",
    "cNSHAeKEUXePEUXeNJEEdTEEePUEdWUEdPEEdFEEdRUcLUcMIcNIcREUXdAEdKENdNGKWAENfGAcAdSHOdPUAEeFUbOM",
    "dWAcNAcLIcPIcLOQdKOcMBENeRENdMENcAcTIcKIcMObBAAeTETdKPAdTENdNTUUeSAMBAfFAAMAEgKOVUUdGHOM",
    "nCOMBINING MARK KOQNDONhTUKWENTISyNJAEMLIhFULL STOPjCOLONdMMAfSEMICOLONjQUESTION MARK"]⟩,
  ⟨0xa700, ["MODIFIER LETTER CHINESE TONE YIN PINGhANG PINGiIN SHANGiANG SHANGjIN QUfANG QUgIN RU",
    "fANG RUuEXTRA-HIGH DOTTED TONE BARzbHIGH DOTTED TONE BARuMID DOTTED TONE BAR",
    "tLOW DOTTED TONE BARtEXTRA-LOW DOTTED TONE BARtHIGH DOTTED LEFT-STEM TONE BAR",
    "zlHIGH DOTTED LEFT-STEM TONE BARzfMID DOTTED LEFT-STEM TONE BAR",
    "zeLOW DOTTED LEFT-STEM TONE BARzeEXTRA-LOW DOTTED LEFT-STEM TONE BARzeHIGH LEFT-STEM TONE BAR",
    "zeHIGH LEFT-STEM TONE BARxMID LEFT-STEM TONE BARwLOW LEFT-STEM TONE BAR",
    "wEXTRA-LOW LEFT-STEM TONE BARzdDOT VERTICAL BARmSLASHfHORIZONTAL BARsLOWER RIGHT CORNER ANGLE",
    "yRAISED UP ARROWiDOWN ARROWkEXCLAMATION MARKqINVERTED EXCLAMATION MARK",
    "zhLOW INVERTED EXCLAMATION MARKzeSTRESS AND HIGH TONEjLOW TONE",
    "zkLATIN CAPITAL LETTER EGYPTOLOGICAL ALEFziSMALL LETTER EGYPTOLOGICAL ALEF",
    "zgCAPITAL LETTER EGYPTOLOGICAL AINzhSMALL LETTER EGYPTOLOGICAL AINzfCAPITAL LETTER HENG",
    "tSMALL LETTER HENGrCAPITAL LETTER TZrSMALL LETTER TZpCAPITAL LETTER TRESILLO",
    "xSMALL LETTER TRESILLOvCAPITAL LETTER CUATRILLOySMALL LETTER CUATRILLO",
    "wCAPITAL LETTER CUATRILLO WITH COMMAzkSMALL LETTER CUATRILLO WITH COMMA",
    "ziLETTER SMALL CAPITAL FbSwCAPITAL LETTER AArSMALL LETTER AApCAPITAL LETTER AO",
    "rSMALL LETTER AOpCAPITAL LETTER AUrSMALL LETTER AUpCAPITAL LETTER AVrSMALL LETTER AV",
    "pCAPITAL LETTER AV WITH HORIZONTAL BARzmSMALL LETTER AV WITH HORIZONTAL BAR",
    "zkCAPITAL LETTER AYrSMALL LETTER AYpCAPITAL LETTER REVERSED C WITH DOT",
    "zjSMALL LETTER REVERSED C WITH DOTzhCAPITAL LETTER K WITH STROKEzdSMALL LETTER K WITH STROKE",
    "zbCAPITAL LETTER K WITH DIAGONAL STROKEzmSMALL LETTER K WITH DIAGONAL STROKE",
    "zkCAPITAL LETTER K WITH STROKE AND DIAGONAL STROKE",
    "zxSMALL LETTER K WITH STROKE AND DIAGONAL STROKEzvCAPITAL LETTER BROKEN L",
    "xSMALL LETTER BROKEN LvCAPITAL LETTER L WITH HIGH STROKEziSMALL LETTER L WITH HIGH STROKE",
    "zgCAPITAL LETTER O WITH LONG STROKE OVERLAYzqSMALL LETTER O WITH LONG STROKE OVERLAY",
    "zoCAPITAL LETTER O WITH LOOPzbSMALL LETTER O WITH LOOPyCAPITAL LETTER OOrSMALL LETTER OO",
    "pCAPITAL LETTER P WITH STROKE THROUGH DESCENDERzvSMALL LETTER P WITH STROKE THROUGH DESCENDER",
    "ztCAPITAL LETTER P WITH FLOURISHzfSMALL LETTER P WITH FLOURISH",
    "zdCAPITAL LETTER P WITH SQUIRREL TAILzkSMALL LETTER P WITH SQUIRREL TAIL",
    "ziCAPITAL LETTER Q WITH STROKE THROUGH DESCENDER",
    "zvSMALL LETTER Q WITH STROKE THROUGH DESCENDERztCAPITAL LETTER Q WITH DIAGONAL STROKE",
    "zmSMALL LETTER Q WITH DIAGONAL STROKEzkCAPITAL LETTER R ROTUNDAySMALL LETTER R ROTUNDA",
    "wCAPITAL LETTER RUM ROTUNDAzbSMALL LETTER RUM ROTUNDAyCAPITAL LETTER V WITH DIAGONAL STROKE",
    "zmSMALL LETTER V WITH DIAGONAL STROKEzkCAPITAL LETTER VYrSMALL LETTER VY",
    "pCAPITAL LETTER VISIGOTHIC ZzcSMALL LETTER VISIGOTHIC ZzCAPITAL LETTER THORN WITH STROKE",
    "zhSMALL LETTER THORN WITH STROKEzfCAPITAL LETTER THORN WITH STROKE THROUGH DESCENDER",
    "zzSMALL LETTER THORN WITH STROKE THROUGH DESCENDERzxCAPITAL LETTER VENDtSMALL LETTER VEND",
    "rCAPITAL LETTER ETrSMALL LETTER ETpCAPITAL LETTER ISrSMALL LETTER ISpCAPITAL LETTER CON",
    "sSMALL LETTER CONwMODIFIER LETTER USsLATIN SMALL LETTER DUMdLUMdMUMdNUMdRUM",
    "qLETTER SMALL CAPITAL RUMySMALL LETTER TUMdUMpCAPITAL LETTER INSULAR DySMALL LETTER INSULAR D",
    "wCAPITAL LETTER INSULAR FySMALL LETTER INSULAR FwCAPITAL LETTER INSULAR GjTURNED INSULAR G",
    "zgSMALL LETTER TURNED INSULAR GzeCAPITAL LETTER TURNED LxSMALL LETTER TURNED L",
    "vCAPITAL LETTER INSULAR RySMALL LETTER INSULAR RwCAPITAL LETTER INSULAR S",
    "ySMALL LETTER INSULAR SwCAPITAL LETTER INSULAR TySMALL LETTER INSULAR T",
    "zdMODIFIER LETTER LOW CIRCUMFLEX ACCENTvCOLONfSHORT EQUALS SIGN",
    "ziLATIN CAPITAL LETTER SALTILLOxSMALL LETTER SALTILLOvCAPITAL LETTER TURNED H",
    "xSMALL LETTER L WITH RETROFLEX HOOK AND BELTzsLETTER SINOLOGICAL DOT",
    "wCAPITAL LETTER N WITH DESCENDERzgSMALL LETTER N WITH DESCENDERzeCAPITAL LETTER C WITH BAR",
    "zSMALL LETTER C WITH BARdPALATAL HOOKtH WITH PALATAL HOOKzhCAPITAL LETTER B WITH FLOURISH",
    "zfSMALL LETTER B WITH FLOURISHzdCAPITAL LETTER F WITH STROKEzdSMALL LETTER F WITH STROKE",
    "zbCAPITAL LETTER VOLAPUK AEzSMALL LETTER VOLAPUK AExCAPITAL LETTER VOLAPUK OE",
    "zSMALL LETTER VOLAPUK OExCAPITAL LETTER VOLAPUK UEzSMALL LETTER VOLAPUK UE",
    "xCAPITAL LETTER G WITH OBLIQUE STROKEzlSMALL LETTER G WITH OBLIQUE STROKE",
    "zjCAPITAL LETTER K WITH OBLIQUE STROKEzlSMALL LETTER K WITH OBLIQUE STROKE",
    "zjCAPITAL LETTER N WITH OBLIQUE STROKEzlSMALL LETTER N WITH OBLIQUE STROKE",
    "zjCAPITAL LETTER R WITH OBLIQUE STROKEzlSMALL LETTER R WITH OBLIQUE STROKE",
    "zjCAPITAL LETTER S WITH OBLIQUE STROKEzlSMALL LETTER S WITH OBLIQUE STROKE",
    "zjCAPITAL LETTER H WITH HOOKlREVERSED OPEN EpSCRIPT GiL WITH BELTlSMALL CAPITAL I",
    "zfLETTER SMALL CAPITAL QwCAPITAL LETTER TURNED KbTiJ WITH CROSSED-TAILtCHIdBETA",
    "tSMALL LETTER BETArCAPITAL LETTER OMEGAuSMALL LETTER OMEGAsCAPITAL LETTER U WITH STROKE",
    "zdSMALL LETTER U WITH STROKEzbCAPITAL LETTER GLOTTAL AySMALL LETTER GLOTTAL A",
    "wCAPITAL LETTER GLOTTAL IySMALL LETTER GLOTTAL IwCAPITAL LETTER GLOTTAL U",
    "ySMALL LETTER GLOTTAL UwCAPITAL LETTER OLD POLISH OzcSMALL LETTER OLD POLISH O",
    "zCAPITAL LETTER ANGLICANA WzbSMALL LETTER ANGLICANA WyCAPITAL LETTER C WITH PALATAL HOOK",
    "tS WITH HOOKlZ WITH PALATAL HOOKtD WITH SHORT STROKE OVERLAY",
    "zrSMALL LETTER D WITH SHORT STROKE OVERLAYzpCAPITAL LETTER S WITH SHORT STROKE OVERLAY",
    "zrSMALL LETTER S WITH SHORT STROKE OVERLAY"]⟩,
  ⟨0xa7d0, ["LATIN CAPITAL LETTER CLOSED INSULAR GzgSMALL LETTER CLOSED INSULAR G"]⟩,
  ⟨0xa7d3, ["LATIN SMALL LETTER DOUBLE THORN"]⟩,
  ⟨0xa7d5, ["LATIN SMALL LETTER DOUBLE WYNNyCAPITAL LETTER MIDDLE SCOTS S",
    "zeSMALL LETTER MIDDLE SCOTS SzcCAPITAL LETTER SIGMOID SySMALL LETTER SIGMOID S"]⟩,
  ⟨0xa7f2, ["MODIFIER LETTER CAPITAL CbFbQzLATIN CAPITAL LETTER REVERSED HALF H",
    "zfSMALL LETTER REVERSED HALF HzdEPIGRAPHIC LETTER SIDEWAYS I",
    "zjMODIFIER LETTER CAPITAL H WITH STROKEvSMALL LIGATURE OE",
    "ziLATIN LETTER SMALL CAPITAL TURNED MzeEPIGRAPHIC LETTER REVERSED FbPkINVERTED Mj LONGA",
    "hARCHAIC MziSYLOTI NAGRI LETTER AbIiSIGN DVISVARAnLETTER UbEbOiSIGN HASANTAmLETTER KObHOdGO",
    "bHOkSIGN ANUSVARAnLETTER CObHOdJObHOdTTObHOeDDObHOeTObHOdDObHOdNOcPObHOdBObHOdMOcROcLOcRROdSO",
    "cHOjVOWEL SIGN AbIbUbEbOOnPOETRY MARK-1b2b3b4nSIGN ALTERNATE HASANTA"]⟩,
  ⟨0xa830, ["NORTH INDIC FRACTION ONE QUARTERhHALFiTHREE QUARTERSoONE SIXTEENTHjEIGHTH",
    "kTHREE SIXTEENTHSzQUARTER MARKmPLACEHOLDER MARKqRUPEE MARKkQUANTITY MARK"]⟩,
  ⟨0xa840, ["PHAGS-PA LETTER KAbHAdGAcNGAdCAbHAdJAcNYAdTAbHAdDAcNAcPAbHAdBAcMAcTSAbHAeDZAdWAcZHAcA",
    "cSMALL AhYAcRAcLAcSHAcAcHAcAbIbUbEbObQAcXAcFAcGGAdEEjSUBJOINED LETTER WAcYAtLETTER TTAbHAeDDA",
    "dNNAdALTERNATE YAmVOICELESS SHAiD HAjASPIRATED FAtSUBJOINED LETTER RArPERFIXED LETTER RA",
    "uLETTER CANDRABINDUsSINGLE HEAD MARKqDOUBLE HEAD MARKqMARK SHADeDOUBLE SHAD"]⟩,
  ⟨0xa880, ["SAURASHTRA SIGN ANUSVARAiVISARGAmLETTER AaAcIaIcUaUcVOCALIC RaRcLaLkEaEcAIcOaOcAUcKA",
    "bHAdGAbHAdNGAdCAbHAdJAbHAdNYAdTTAbHAeDDAbHAeNNAdTAbHAdDAbHAdNAcPAbHAdBAbHAdMAcYAcRAcLAcVAcSHA",
    "cSAcAcHAcLLAkCONSONANT SIGN HAARUuVOWEL SIGN AAcIaIcUaUcVOCALIC RaRcLaLkEaEcAIcOaOcAU",
    "nSIGN VIRAMAgCANDRABINDU"]⟩,
  ⟨0xa8ce, ["SAURASHTRA DANDAeOUBLE DANDAlIGIT ZEROeONEdTWOcHREEfFOURdIVEeSIXcEVENfEIGHTfNINE"]⟩,
  ⟨0xa8e0, ["COMBINING DEVANAGARI DIGIT ZEROeONEdTWOcHREEfFOURdIVEeSIXcEVENfEIGHTfNINEkLETTER AbU",
    "bKAcNAcPAcRAcVIjSIGN AVAGRAHAzjDEVANAGARI SIGN SPACING CANDRABINDUtCANDRABINDU VIRAMA",
    "sDOUBLE CANDRABINDU VIRAMAzCANDRABINDU TWOcHREEfAVAGRAHAuPUSHPIKAnGAP FILLERkCARETfHEADSTROKE",
    "kSIGN SIDDHAMmJAIN OMhLETTER AYjVOWEL SIGN AYyKAYAH LI DIGIT ZEROeONEdTWOcHREEfFOURdIVEeSIX",
    "cEVENfEIGHTfNINEkLETTER KAbHAdGAcNGAdSAbHAdZAcNYAdTAcHTAdNAcPAbHAdMAcDAcBAcRAcYAcLAcWAcTHAdHA",
    "cVAcCAcAbOEcIbOOjVOWEL UEcEbUbEEcOhTONE PLOPHUgCALYAa PLOPHUrSIGN CWIdSHYAsREJANG LETTER KA",
    "cGAcNGAdTAcDAcNAcPAcBAcMAcCAcJAcNYAdSAcRAcLAcYAcWAcHAcMBAdNGGAdDAcYJAeAiVOWEL SIGN IbUbEbAIcO",
    "bAUcEUbAnCONSONANT SIGN NGcNbRbHqVIRAMA"]⟩,
  ⟨0xa95f, ["REJANG SECTION MARKtHANGUL CHOSEONG TIKEUT-MIEUMfPIEUPfSIOSeCIEUCmRIEUL-KIYEOK",
    "gSSANGKIYEOKlTIKEUTgSSANGTIKEUTlMIEUMfPIEUPfSSANGPIEUPkKAPYEOUNPIEUPnSIOSeCIEUCfKHIEUKH",
    "nMIEUM-KIYEOKgTIKEUTgSIOSkPIEUP-SIOS-THIEUTHmKHIEUKHhHIEUHlSSANGSIOS-PIEUPpIEUNG-RIEULfHIEUH",
    "lSSANGCIEUC-HIEUHlTHIEUTHmPHIEUPH-HIEUHnHIEUH-SIOSkSSANGYEORINHIEUH"]⟩,
  ⟨0xa980, ["JAVANESE SIGN PANYANGGAjCECAKfLAYARfWIGNYANmLETTER AbI KAWIgIaIcUbPA CEREKiNGA LELET",
    "a RASWADIrEbAIcObKAa SASAKfMURDAiGAa MURDAiNGAdCAa MURDAiJAcNYA MURDAjJA MAHAPRANAmNYAdTTA",
    "a MAHAPRANAnDDAa MAHAPRANAnNA MURDAiTAa MURDAiDAa MAHAPRANAmNAcPAa MURDAiBAa MURDAiMAcYAcRA",
    "a AGUNGiLAcWAcSA MURDAeAHAPRANAlAcHAjSIGN CECAK TELUpVOWEL SIGN TARUNGfOLONGgWULUa MELIKkSUKU",
    "a MENDUTlTALINGgDIRGA MUREkPEPETqCONSONANT SIGN KERETfPENGKALhCAKRAuPANGKONhLEFT RERENGGAN",
    "oRIGHT RERENGGANpPADA ANDAPfMADYAfLUHURfWINDUfPANGKAThLINGSAfUNGSIgADEGa ADEGjPISELEH",
    "mTURNED PADA PISELEH"]⟩,
  ⟨0xa9cf, ["JAVANESE PANGRANGKEPlDIGIT ZEROeONEdTWOcHREEfFOURdIVEeSIXcEVENfEIGHTfNINE"]⟩,
  ⟨0xa9de, ["JAVANESE PADA TIRTA TUMETESnISEN-ISENxMYANMAR LETTER SHAN GHAdCHAdJHAdNNAdBHA",
    "pSIGN SHAN SAWnMODIFIER LETTER SHAN REDUPLICATIONzjLETTER TAI LAING NYAdFAcGAbHAdJAbHAdDDAbHA",
    "eNNAuTAI LAING DIGIT ZEROeONEdTWOcHREEfFOURdIVEeSIXcEVENfEIGHTfNINEuLETTER TAI LAING LLAdDA",
    "bHAdBAbHA"]⟩,
  ⟨0xaa00, ["CHAM LETTER AbIbUbEbAIcObKAbHAdGAbHAdNGUEcAdCHAbHAeJAbHAdNHUEcAbJAeTAbHAdDAbHAdNUEcA",
    "cDDAdPAbPAcHAdBAbHAdMUEcAcBBAdYAcRAcLAcVAcSSAcAcHAjVOWEL SIGN AAcIaIcEIcUbOEcObAIbUcUE",
    "nCONSONANT SIGN YAcRAcLAcWA"]⟩,
  ⟨0xaa40, ["CHAM LETTER FINAL KbGbNGpCONSONANT SIGN FINAL NGxLETTER FINAL CHcTbNbPbYbRbLbSS",
    "pCONSONANT SIGN FINAL MbH"]⟩,
  ⟨0xaa50, ["CHAM DIGIT ZEROeONEdTWOcHREEfFOURdIVEeSIXcEVENfEIGHTfNINE"]⟩,
  ⟨0xaa5c, ["CHAM PUNCTUATION SPIRALgDANDAeOUBLE DANDAmTRIPLE DANDAzeMYANMAR LETTER KHAMTI GAcCA",
    "bHAdJAbHAdNYAdTTAbHAeDDAbHAdHAdNAcSAcHAbHAdFAqMODIFIER LETTER KHAMTI REDUPLICATION",
    "zlLETTER KHAMTI XAcZAcRApOGOGRAM KHAMTI OAYdQNcHMsSYMBOL AITON EXCLAMATIONlONEdTWO",
    "qLETTER AITON RApSIGN PAO KAREN TONEoTAI LAING TONE-2b5vLETTER SHWE PALAUNG CHAdSHA",
    "zgTAI VIET LETTER LOW KOgHIGH KOhLOW KHOhHIGH KHOiLOW KHHOiHIGH KHHOjLOW GOgHIGH GOhLOW NGO",
    "hHIGH NGOiLOW COgHIGH COhLOW CHOhHIGH CHOiLOW SOgHIGH SOhLOW NYOhHIGH NYOiLOW DOgHIGH DO",
    "hLOW TOgHIGH TOhLOW THOhHIGH THOiLOW NOgHIGH NOhLOW BOgHIGH BOhLOW POgHIGH POhLOW PHO",
    "hHIGH PHOiLOW FOgHIGH FOhLOW MOgHIGH MOhLOW YOgHIGH YOhLOW ROgHIGH ROhLOW LOgHIGH LOhLOW VO",
    "gHIGH VOhLOW HOgHIGH HOhLOW OfHIGH OnMAI KANGiVOWEL AAcIbUEcUbEbOhMAI KHITiVOWEL IAcUEAcAcAUE",
    "cYbNbMiTONE MAI EKcNUENGfTHOdSONG"]⟩,
  ⟨0xaadb, ["TAI VIET SYMBOL KONdNUENGfSAMdHO HOIgKOI KOIxMEETEI MAYEK LETTER EbObCHAdNYAdTTAbHA",
    "eDDAbHAeNNAdSHAcSAkVOWEL SIGN IIcUUcAAIcUbAUoCHEIKHANiAHANG KHUDAMlNJI",
    "eSYLLABLE REPETITION MARKyWORD REPETITION MARKuVOWEL SIGN VISARGArIRAMA"]⟩,
  ⟨0xab01, ["ETHIOPIC SYLLABLE TTHUbIbAAcEEcEbO"]⟩,
  ⟨0xab09, ["ETHIOPIC SYLLABLE DDHUbIbAAcEEcEbO"]⟩,
  ⟨0xab11, ["ETHIOPIC SYLLABLE DZUbIbAAcEEcEbO"]⟩,
  ⟨0xab20, ["ETHIOPIC SYLLABLE CCHHAbUbIbAAcEEcEbO"]⟩,
  ⟨0xab28, ["ETHIOPIC SYLLABLE BBAbUbIbAAcEEcEbO"]⟩,
  ⟨0xab30, ["LATIN SMALL LETTER BARRED ALPHAmA REVERSED-SCHWAqBLACKLETTER EmARRED E",
    "iE WITH FLOURISHpLENIS FhSCRIPT G WITH CROSSED-TAILzbL WITH INVERTED LAZY S",
    "pDOUBLE MIDDLE TILDEtMIDDLE RINGsM WITH CROSSED-TAILtN WITH CROSSED-TAIL",
    "tENG WITH CROSSED-TAILvBLACKLETTER Oa WITH STROKEzOPEN O WITH STROKEsINVERTED OE",
    "lTURNED OE WITH STROKEgHORIZONTAL STROKEy OPEN-Oa WITH STROKEzcSTIRRUP R",
    "wLETTER SMALL CAPITAL R WITH RIGHT LEGzmSMALL LETTER R WITHOUT HANDLEqDOUBLE R",
    "iR WITH CROSSED-TAILtDOUBLE R WITH CROSSED-TAILzbSCRIPT Ra WITH RINGsBASELINE ESH",
    "mU WITH SHORT RIGHT LEGuBAR WITH SHORT RIGHT LEGzIcTURNED UIjU WITH LEFT HOOKqCHI",
    "a WITH LOW RIGHT RINGkLEFT SERIFxX WITH LOW RIGHT RINGmNG LEFT LEGa AND LOW RIGHT RING",
    "sWITH SERIFzgY WITH SHORT RIGHT LEGzqMODIFIER BREVE WITH INVERTED BREVEzLETTER SMALL HENG",
    "eL WITH INVERTED LAZY SpMIDDLE TILDEtU WITH LEFT HOOKznLATIN SMALL LETTER SAKHA YAT",
    "jIOTIFIED EkOPEN OEhUOcINVERTED ALPHAziGREEK LETTER SMALL CAPITAL OMEGA",
    "zhLATIN SMALL LETTER DZ DIGRAPH WITH RETROFLEX HOOKzfTS DIGRAPH WITH RETROFLEX HOOK",
    "zeURNED R WITH MIDDLE TILDEzuMODIFIER LETTER SMALL TURNED WoLEFT TACKjRIGHT TACK"]⟩,
  ⟨0xab70, ["CHEROKEE SMALL LETTER AbEbIbObUbVbGAcKAcGEbIbObUbVcHAbEbIbObUbVcLAbEbIbObUbVcMAbEbIbO",
    "bUcNAcHNAdNAHcEbIbObUbVcQUAbEbIbObUbVdSAcSaEbIbObUbVcDAcTAcDEcTEcDIcTIcDObUbVbLAdTLAbEbIbObU",
    "bVcSAbEbIbObUbVdWAbEbIbObUbVcYAyMEETEI MAYEK LETTER KOKdSAMdLAIdMITdPAcNAcCHILeTILdKHOUeNGOU",
    "eTHOUeWAIdYANGeHUKdUNcIbPHAMeATIYAfGOKdJHAMeRAIdBAcJILdDILdGHOUeDHOUeBHAMeKOK LONSUM",
    "kLAI LONSUMkMIT LONSUMkPA LONSUMjNA LONSUMjTIL LONSUMkNGOU LONSUMlI LONSUMpVOWEL SIGN ONAP",
    "eINAPeANAPeYENAPfSOUNAPgUNAPeCHEINAPhNUNGpCHEIKHEIiLUM IYEKiAPUN IYEK"]⟩,
  ⟨0xabf0, ["MEETEI MAYEK DIGIT ZEROeONEdTWOcHREEfFOURdIVEeSIXcEVENfEIGHTfNINE"]⟩]

end TypeCatalog.Text.CharacterName
