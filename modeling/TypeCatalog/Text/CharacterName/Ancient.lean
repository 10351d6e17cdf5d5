import TypeCatalog.Text.CodePoint

/-!
# Names of ancient letters

Scripts of antiquity and minor scripts of Asia.
-/

namespace TypeCatalog.Text.CharacterName

/-- The names from U+10000 to U+11FFF. -/
def ancient : List NameRun := [
  ⟨0x10000, ["LINEAR B SYLLABLE B008 Ae38 Ee28 Ie61 Oe10 Ue01 DAf45 DEf07 DIf14 DOf51 DUe7 JA",
    "f46 JE"]⟩,
  ⟨0x1000d, ["LINEAR B SYLLABLE B036 JOf65 JUf77 KAf44 KEf67 KIf70 KOf81 KUe0 MAf13 MEf73 MIf15 MO",
    "f23 MUf06 NAf24 NEf30 NIf52 NOe5 NUf03 PAf72 PEf39 PIf11 POf50 PUf16 QAf78 QEf21 QIf32 QO"]⟩,
  ⟨0x10028, ["LINEAR B SYLLABLE B060 RAf27 REf53 RIf02 ROf26 RUf31 SAf09 SEf41 SIf12 SOf58 SUe9 TA",
    "f04 TEf37 TIf05 TOf69 TUf54 WAf75 WEf40 WIe2 WO"]⟩,
  ⟨0x1003c, ["LINEAR B SYLLABLE B017 ZAf74 ZE"]⟩,
  ⟨0x1003f, ["LINEAR B SYLLABLE B020 ZOe5 A2f43 A3f85 AUf71 DWEg90 DWOg48 NWAg29 PU2g62 PTEg76 RA2",
    "g33 RA3g68 RO2f6 TA2g87 TWEg91 TWO"]⟩,
  ⟨0x10050, ["LINEAR B SYMBOL B018b9c22c34c47b9c56c63b4c79c82b3b6b9"]⟩,
  ⟨0x10080, ["LINEAR B IDEOGRAM B100 MANf2 WOMANh4 DEERg5 EQUIDgF MAREgM STALLIONl6F EWEfM RAM",
    "g7F SHE-GOATkM HE-GOATk8F SOWfM BOARh9F COWfM BULLi20 WHEATh1 BARLEYi2 OLIVEh3 SPICE",
    "h5 CYPERUSvMONOGRAM B127 KAPOg8 KANAKOuIDEOGRAM B130 OILf1 WINEg2nMONOGRAM B133 AREPAh5 MERI",
    "sIDEOGRAM B140 BRONZEi1 GOLDg2b5 WOOLg6c50b1 HORNg2b3b4nMONOGRAM B156 TURO2tIDEOGRAM B157b8",
    "b9 CLOTHi60b1b2 GARMENTj3 ARMOURi4b5b6b7b8b9c70b1b2b3 MONTHh4b6 TREEg7b8b9c80b1b2b3b4b5b9c90",
    "b1 HELMETk220 FOOTSTOOLl5 BATHTUBk30 SPEARh1 ARROWh2b3 SWORDh4b6c40 WHEELED CHARIOTr1 CHARIOT",
    "j2 CHARIOT FRAMEp3 WHEELh5b6nMONOGRAM B247 DIPTEtIDEOGRAM B248b9c51b2b3b4 DARTg5b6b7b8b9",
    "eVESSEL B155d200b1b2b3b4b5b6b7b8b9c10b1b2b3b4b5b6b7b8b9c21b2b6b7b8b9c50d305"]⟩,
  ⟨0x10100, ["AEGEAN WORD SEPARATOR LINEeDOTsCHECK MARK"]⟩,
  ⟨0x10107, ["AEGEAN NUMBER ONEdTWOcHREEfFOURdIVEeSIXcEVENfEIGHTfNINEeTENcWENTYfHIRTYgFORTYeIFTY",
    "fSIXTYeEVENTYhEIGHTYgNINETYgONE HUNDREDlTWO HUNDREDkHREE HUNDREDnFOUR HUNDREDlIVE HUNDRED",
    "mSIX HUNDREDkEVEN HUNDREDnEIGHT HUNDREDnNINE HUNDREDmONE THOUSANDmTWO THOUSANDlHREE THOUSAND",
    "oFOUR THOUSANDmIVE THOUSANDnSIX THOUSANDlEVEN THOUSANDoEIGHT THOUSANDoNINE THOUSAND",
    "nTEN THOUSANDlWENTY THOUSANDoHIRTY THOUSANDpFORTY THOUSANDnIFTY THOUSANDoSIXTY THOUSAND",
    "nEVENTY THOUSANDqEIGHTY THOUSANDpNINETY THOUSAND"]⟩,
  ⟨0x10137, ["AEGEAN WEIGHT BASE UNITjFIRST SUBUNITnSECOND SUBUNIToTHIRD SUBUNITnFOURTH SUBUNIT",
    "vDRY MEASURE FIRST SUBUNITzLIQUID MEASURE FIRST SUBUNITzdMEASURE SECOND SUBUNIToTHIRD SUBUNIT",
    "zdGREEK ACROPHONIC ATTIC ONE QUARTERhHALFeDRACHMAlFIVEcFTYdVE HUNDREDhTHOUSANDlFTY THOUSAND",
    "mVE TALENTSmTEN TALENTSlFIFTY TALENTSnONE HUNDRED TALENTStFIVE HUNDRED TALENTS",
    "uONE THOUSAND TALENTSuFIVE THOUSAND TALENTSqSTATERSmTEN STATERSlFIFTY STATERS",
    "nONE HUNDRED STATERStFIVE HUNDRED STATERSuONE THOUSAND STATERSuTEN THOUSAND STATERS",
    "uFIFTY THOUSAND STATERSwTEN MNASoHERAEUM ONE PLETHRONuTHESPIAN ONEmHERMIONIAN ONE",
    "oEPIDAUREAN TWOoTHESPIAN TWOmCYRENAIC TWO DRACHMASvEPIDAUREAN TWO DRACHMASxTROEZENIAN FIVE",
    "eTENa ALTERNATE FORMzeHERMIONIAN TENoMESSENIAN TENnTHESPIAN TENcHIRTYoROEZENIAN FIFTY",
    "a ALTERNATE FORMzgHERMIONIAN FIFTYqTHESPIAN FIFTYfONE HUNDREDlTHREE HUNDRED",
    "wEPIDAUREAN FIVE HUNDREDxTROEZENIAN FIVE HUNDREDwHESPIAN FIVE HUNDREDvCARYSTIAN FIVE HUNDRED",
    "wNAXIAN FIVE HUNDREDtTHESPIAN ONE THOUSANDmFIVE THOUSANDwDELPHIC FIVE MNAS",
    "rSTRATIAN FIFTY MNASzfONE HALF SIGNa ALTERNATE FORMzdTWO THIRDS SIGNoHREE QUARTERS SIGN",
    "tYEAR SIGNjTALENT SIGNlDRACHMA SIGNmOBOL SIGNjTWO OBOLS SIGNnHREE OBOLS SIGNqFOUR OBOLS SIGN",
    "oIVE OBOLS SIGNpMETRETES SIGNnKYATHOS BASE SIGNrLITRA SIGNkOUNKIA SIGNlXESTES SIGN",
    "lARTABE SIGNjOURA SIGNlGRAMMA SIGNlTRYBLION BASE SIGNsZERO SIGNjONE QUARTER SIGN",
    "qSINUSOID SIGNnINDICTION SIGNuNOMISMA SIGN"]⟩,
  ⟨0x10190, ["ROMAN SEXTANS SIGNmUNCIA SIGNkSEMUNCIA SIGNlXTULA SIGNmDIMIDIA SEXTULA SIGN",
    "uSILIQUA SIGNmDENARIUS SIGNnQUINARIUS SIGNoSESTERTIUS SIGNpDUPONDIUS SIGNoAS SIGN",
    "hCENTURIAL SIGNuASCIA SYMBOL"]⟩,
  ⟨0x101a0, ["GREEK SYMBOL TAU RHO"]⟩,
  ⟨0x101d0, ["PHAISTOS DISC SIGN PEDESTRIANjLUMED HEADlTATTOOED HEADnCAPTIVEgHILDfWOMANfHELMET",
    "gGAUNTLETiTIARAfARROWfBOWdSHIELDgCLUBeMANACLESgTTOCKhSAWdLIDdBOOMERANGjCARPENTRY PLANEpDOLIUM",
    "gCOMBeSLINGfCOLUMNgBEEHIVEhSHIPeHORNdIDEeBULLS LEGjCATdRAMdEAGLEfDOVEeTUNNYfBEEdPLANE TREE",
    "kVINEePAPYRUShROSETTEhLILYeOX BACKhFLUTEfGRATERgSTRAINERhMALL AXEjWAVY BAND",
    "jCOMBINING OBLIQUE STROKE"]⟩,
  ⟨0x10280, ["LYCIAN LETTER AbEbBaHcGbDbIbWbZbTHcJbKbQbLbMbNbMMcNNcUbPbKKcRbSbTaTcANcENcHbX"]⟩,
  ⟨0x102a0, ["CARIAN LETTER AbP2cDbLbUUUdRbLDcA2cQbBbMbObD2cTbSHa2dSbC-18eUbNNcXbNbTT2dPbSScIbE",
    "bUUUUeKa2cNDcUUcGa2cSTa2dNGcIIcC-39eTTcUUU2eRRcMBa2b3b4dLD2dE2cUUU3"]⟩,
  ⟨0x102e0, ["COPTIC EPACT THOUSANDS MARKoDIGIT ONEdTWOcHREEfFOURdIVEeSIXcEVENfEIGHTfNINE",
    "kNUMBER TENcWENTYfHIRTYgFORTYeIFTYfSIXTYeEVENTYhEIGHTYgNINETYgONE HUNDREDlTWO HUNDRED",
    "kHREE HUNDREDnFOUR HUNDREDlIVE HUNDREDmSIX HUNDREDkEVEN HUNDREDnEIGHT HUNDREDnNINE HUNDRED"]⟩,
  ⟨0x10300, ["OLD ITALIC LETTER AbBEcKEcDEcEbVEcZEcHEcTHEdIbKAcELbMbNbSHdObPEcSHEdKUcERbScTEcUbEKS",
    "dPHEdKHEdEFbRSdCHEdIIcUUcESSkNUMERAL ONEdFIVEeTENdFIFTY"]⟩,
  ⟨0x1032d, ["OLD ITALIC LETTER YEcNORTHERN TSEmSOUTHERN TSEzfGOTHIC LETTER AHSAeBAIRKANhGIBAeDAGS",
    "eAIHVUSgQAIRTHRAiIUJAeHAGLeTHIUTHgEISdKUSMAfLAGUSfMANNAfNAUTHSgJERdURUSePAIRTHRAiNINETYgRAIDA",
    "fSAUILfTEIWSfWINJAfFAIHUfIGGWSfHWAIRfOTHALfNINE HUNDRED"]⟩,
  ⟨0x10350, ["OLD PERMIC LETTER ANcBURdGAIdDOIdEbZHOIeDZHOIfZATAeDZITAfIbKOKEeLEIdMENOEfNENOEfVOOI",
    "ePEEIeREIdSIIdTAIdUbCHERYfSHOOIdCHOOIhYRYcERUeOaOcEFcHAcTSIUeVERdYERaIdATdIEcYUbAcIA",
    "uCOMBINING OLD PERMIC LETTER ANcDOIdZATAeNENOEfSII"]⟩,
  ⟨0x10380, ["UGARITIC LETTER ALPAeBETAeGAMLAfKHAdDELTAfHOcWOcZETAeHOTAeTETdYODdKAFdSHINeLAMDAfMEM",
    "dDHALeNUNdZUcSAMKAfAINdPUcSADEeQOPAeRASHAfTHANNAgGHAINfTOcIbUbSSU"]⟩,
  ⟨0x1039f, ["UGARITIC WORD DIVIDERvOLD PERSIAN SIGN AbIbUbKAbUcGAbUcXAcCAcJAbIcTAbUcDAbIbUcTHAdPA",
    "cBAcFAcNAbUcMAbIbUcYAcVAbIcRAbUcLAcSAcZAcSHAcSAdHA"]⟩,
  ⟨0x103c8, ["OLD PERSIAN SIGN AURAMAZDAAa-2cHAmXSHAAYATHIYAmDAHYAAUSHa-2lBAGAdUUMISHmWORD DIVIDER",
    "mNUMBER ONEdTWOcENcWENTYgHUNDRED"]⟩,
  ⟨0x10400, ["DESERET CAPITAL LETTER LONG IbEbAaHcOaOhSHORT IbEbAaHcOaOiAYcOWcWUcYEEdHbPEEdBEEdTEE",
    "dDEEdCHEEeJEEdKAYdGAYdEFcVEEdETHdTHEEeEScZEEdESHdZHEEeERbLbMbNaGdOIcEWrSMALL LETTER LONG IbE",
    "bAaHcOaOhSHORT IbEbAaHcOaOiAYcOWcWUcYEEdHbPEEdBEEdTEEdDEEdCHEEeJEEdKAYdGAYdEFcVEEdETHdTHEEeES",
    "cZEEdESHdZHEEeERbLbMbNaGdOIcEWxSHAVIAN LETTER PEEPeTOTdKICKeFEEdTHIGHfSObUREeCHURCHgYEAdHUNG",
    "eBIBdDEADeGAGdVOWdTHEYeZOOdMEASUREhJUDGEfWOEdHA-HAfLOLLeMIMEeIFcEGGdASHcDOdONcWOOLeOUTdAH",
    "cROAReNUNdEATdAGEdICEdUPcOAKcOZEdILdAWEcREdORcAIRdERRdARRAYfEARdIANdYEWsOSMANYA LETTER ALEF",
    "eBAcTAcJAcXAcKHAdDEELeRAcSAbHIINfDHAdCAYNeGAcFAcQAAFeKAAFeLAANeMIINeNUUNeWAWdHAcYAcAbEbIbObU",
    "bAAcEEcOO"]⟩,
  ⟨0x104a0, ["OSMANYA DIGIT ZEROeONEdTWOcHREEfFOURdIVEeSIXcEVENfEIGHTfNINE"]⟩,
  ⟨0x104b0, ["OSAGE CAPITAL LETTER AaIaNcHcBRAdCHAdEHCHAfEaINdHAbYAdIbKAcEHKAeKYAdLAcMAcNAcOaINdPA",
    "cEHPAeSAbHAdTAcEHTAeTSAdEHTSAfTSHAeDHAdUbWAcKHAdGHAdZAbHA"]⟩,
  ⟨0x104d8, ["OSAGE SMALL LETTER AaIaNcHcBRAdCHAdEHCHAfEaINdHAbYAdIbKAcEHKAeKYAdLAcMAcNAcOaINdPA",
    "cEHPAeSAbHAdTAcEHTAeTSAdEHTSAfTSHAeDHAdUbWAcKHAdGHAdZAbHA"]⟩,
  ⟨0x10500, ["ELBASAN LETTER AbBEcCEbHEdDEcNDEdDHEdEIcEbFEcGEbJEdHEcIbJEcKEcLEbLEdMEcNEbAbJEdObPE",
    "cQEcREbREdSEbHEdTEbHEdUbVEcXEcYbZEbHEdGHEbAMMAgKHE"]⟩,
  ⟨0x10530, ["CAUCASIAN ALBANIAN LETTER ALTdBETdGIMdDATdEBcZARLeEYNdZHILeTASdCHAdYOWDeZHAdIRBdSHA",
    "dLANdINYAeXEYNeDYANeCARdJHOXeKARdLYITeHEYTeQAYdAORdCHOYcIcYAYeMAQdQARdNOWCeDZYAYfSHAKeJAYNeON",
    "cTYAYeFAMdDZAYeCHATePENdGHEYSfRATdSEYKeVEYZeTIWReSHOYeIWNdCYAWdAYNeYAYDePIWReKIW"]⟩,
  ⟨0x1056f, ["CAUCASIAN ALBANIAN CITATION MARKzhVITHKUQI CAPITAL LETTER AbBBEcEcCEbHEdDEbHEdEIcE",
    "bFEcGA"]⟩,
  ⟨0x1057c, ["VITHKUQI CAPITAL LETTER HAbHAdIaJEdJEcKAcLAbLAdMEcNEbJEdObPEcQAcRE"]⟩,
  ⟨0x1058c, ["VITHKUQI CAPITAL LETTER SEbHEdTEbHEdUbVEcXE"]⟩,
  ⟨0x10594, ["VITHKUQI CAPITAL LETTER YbZE"]⟩,
  ⟨0x10597, ["VITHKUQI SMALL LETTER AbBBEcEcCEbHEdDEbHEdEIcEbFEcGA"]⟩,
  ⟨0x105a3, ["VITHKUQI SMALL LETTER HAbHAdIaJEdJEcKAcLAbLAdMEcNEbJEdObPEcQAcRE"]⟩,
  ⟨0x105b3, ["VITHKUQI SMALL LETTER SEbHEdTEbHEdUbVEcXE"]⟩,
  ⟨0x105bb, ["VITHKUQI SMALL LETTER YbZE"]⟩,
  ⟨0x10600, ["LINEAR A SIGN AB001b2b3b4b5b6b7b8b9c10b1b3b6b7c20b1aFbMc2aFbMc3aMc4b6b7b8e028BeB029",
    "c30b1b4b7b8b9c40b1b4b5b6b7b8b9c50b1b3b4b5b6b7b8b9c60b1b5b6b7b9c70b3b4b6b7b8b9c80b1b2b5b6b7",
    "e100-102hB118c20e120BeB122b3c31AbBf131CeB164c71c80b8c91e301b2b3b4b5b6b7b8b9AbBbCd10b1b2b3AbB",
    "bCc4b5b6b7b8b9c20b1b2b3b4b5b6b7b8b9c30b1b2b3b4b5b6b7b8b9c40b1b2b3b4b5b6b7b8b9c50b1b2b3b4b5b6",
    "b7b8b9c60b1b2b3b4b5b6b7b8b9c70b1d400-VASf1-VASf2-VASf3-VASf4-VASf5-VASf6-VASf7-VASf8-VAS",
    "f9-VASg10-VASf1-VASf2-VASf3-VASf4-VASf5-VASf6-VASf7-VASf8-VASh501b2b3b4b5b6b8b9c10b1b2b3b5b6",
    "c20b1b3b4b5b6b7b8b9c30b1b2b4b5b6b7b8b9c40b1b2b5b7b8b9c50b1b2b3b4b5b6b7b9c63b4b5b6b8b9c70b1b2",
    "b3b4b5b6b7b8b9c80b1b2b3b4b5b6b7b8b9c91b2b4b5b6b8d600b1b2b3b4b6b8b9c10b1b2b3b4b5b6b7b8b9c20b1",
    "b2b3b4b6b7b8b9c34b7b8c40b2b3b4b5b6b8b9c51b2b3b4b5b6b7b8b9c60b1b2b3b4"]⟩,
  ⟨0x10740, ["LINEAR A SIGN A701 Ad2 Bd3 Dd4 Ed5 Fd6 Hd7 Jd8 Kd9 Lc-2 L2e3 L3e4 L4e6 L6h10 Wd1 X",
    "d2 Yd3 OMEGAh4 ABBf5 BBe7 DDf26 EYYYh32 JE"]⟩,
  ⟨0x10760, ["LINEAR A SIGN A800b1b2b3b4b5b6b7"]⟩,
  ⟨0x10780, ["MODIFIER LETTER SMALL CAPITAL AApUPERSCRIPT TRIANGULAR COLONqHALF TRIANGULAR COLON",
    "zhMALL AEcCAPITAL BjB WITH HOOK"]⟩,
  ⟨0x10787, ["MODIFIER LETTER SMALL DZ DIGRAPHa WITH RETROFLEX HOOKoCURLtEZH DIGRAPHl WITH TAIL",
    "eHOOKa AND TAILuREVERSED EkCLOSED REVERSED OPEN EwFENG DIGRAPHmRAMS HORNjCAPITAL G",
    "jG WITH HOOKlCAPITAL G WITH HOOKtH WITH STROKEnCAPITAL HjHENG WITH HOOK",
    "oDOTLESS J WITH STROKE AND HOOKzfLS DIGRAPHjZ DIGRAPHj WITH BELTlCAPITAL L WITH BELT",
    "tL WITH RETROFLEX HOOK AND BELTzeEZHa WITH RETROFLEX HOOKyTURNED Ya WITH BELTsO WITH STROKE",
    "nCAPITAL OEjLOSED OMEGAmQbTURNED R WITH LONG LEGa AND RETROFLEX HOOKzqR WITH TAILeFISHHOOK",
    "pCAPITAL RjTC DIGRAPH WITH CURLtS DIGRAPHa WITH RETROFLEX HOOKzeESH DIGRAPH",
    "l WITH RETROFLEX HOOKvV WITH RIGHT HOOK"]⟩,
  ⟨0x107b2, ["MODIFIER LETTER SMALL CAPITAL YpGLOTTAL STOP WITH STROKE",
    "yREVERSED GLOTTAL STOP WITH STROKEziBILABIAL CLICKoDENTAL CLICKmLATERAL CLICKnALVEOLAR CLICK",
    "oRETROFLEX CLICK WITH RETROFLEX HOOKzkSMALL S WITH CURL"]⟩,
  ⟨0x10800, ["CYPRIOT SYLLABLE AbEbIbObUbJA"]⟩,
  ⟨0x10808, ["CYPRIOT SYLLABLE JO"]⟩,
  ⟨0x1080a, ["CYPRIOT SYLLABLE KAbEbIbObUcLAbEbIbObUcMAbEbIbObUcNAbEbIbObUcPAbEbIbObUcRAbEbIbObU",
    "cSAbEbIbObUcTAbEbIbObUcWAbEbIbO"]⟩,
  ⟨0x10837, ["CYPRIOT SYLLABLE XAbE"]⟩,
  ⟨0x1083c, ["CYPRIOT SYLLABLE ZA"]⟩,
  ⟨0x1083f, ["CYPRIOT SYLLABLE ZOtIMPERIAL ARAMAIC LETTER ALEPHfBETHeGIMELfDALETHgHEcWAWdZAYIN",
    "fHETHeTETHeYODHeKAPHeLAMEDHgMEMdNUNdSAMEKHgAYINePEcSADHEfQOPHeRESHeSHINeTAW"]⟩,
  ⟨0x10857, ["IMPERIAL ARAMAIC SECTION SIGNmNUMBER ONEdTWOcHREEeENcWENTYgONE HUNDREDhTHOUSAND",
    "mTEN THOUSANDzlPALMYRENE LETTER ALEPHfBETHeGIMELfDALETHgHEcWAWdZAYINfHETHeTETHeYODHeKAPH",
    "eLAMEDHgMEMdFINAL NUNjNUNdSAMEKHgAYINePEcSADHEfQOPHeRESHeSHINeTAWiFT-POINTING FLEURON",
    "vRIGHT-POINTING FLEURONwNUMBER ONEdTWOcHREEfFOURdIVEeTENcWENTYxNABATAEAN LETTER FINAL ALEPH",
    "lALEPHfFINAL BETHkBETHeGIMELfDALETHgFINAL HEiHEcWAWdZAYINfHETHeTETHeFINAL YODHkYODH",
    "eFINAL KAPHkKAPHeFINAL LAMEDHmLAMEDHgFINAL MEMjMEMdFINAL NUNjNUNdSAMEKHgAYINePEcSADHEfQOPH",
    "eRESHeFINAL SHINkSHINeTAW"]⟩,
  ⟨0x108a7, ["NABATAEAN NUMBER ONEdTWOcHREEfFOURlCRUCIFORM NUMBER FOURvNUMBER FIVEeTENcWENTY",
    "gONE HUNDRED"]⟩,
  ⟨0x108e0, ["HATRAN LETTER ALEPHfBETHeGIMELfDALETH-RESHlHEcWAWdZAYNeHETHeTETHeYODHeKAPHeLAMEDH",
    "gMEMdNUNdSAMEKHgAYNdPEcSADHEfQOPH"]⟩,
  ⟨0x108f4, ["HATRAN LETTER SHINeTAW"]⟩,
  ⟨0x108fb, ["HATRAN NUMBER ONEdFIVEeTENcWENTYgONE HUNDREDzPHOENICIAN LETTER ALFdBETdGAMLeDELTeHE",
    "cWAUdZAIdHETdTETdYODdKAFdLAMDeMEMdNUNdSEMKeAINdPEcSADEeQOFdROSHeSHINeTAUkNUMBER ONEdTENcWENTY",
    "gONE HUNDREDlTWOcHREE"]⟩,
  ⟨0x1091f, ["PHOENICIAN WORD SEPARATORzLYDIAN LETTER AbBbGbDbEbVbIbYbKbLbMbNbObRbSScTbUbFbQbSbTT",
    "cANcENcLYcNNcC"]⟩,
  ⟨0x1093f, ["LYDIAN TRIANGULAR MARK"]⟩,
  ⟨0x10980, ["MEROITIC HIEROGLYPHIC LETTER AbEbIbObYAcWAcBAa-2ePAcMAcNAa-2dEa-2eRAa-2eLAcKHAdHHA",
    "dSAa-2dEcKAcQAcTAa-2dEa-2dOcDAjSYMBOL VIDJa-2zbCURSIVE LETTER AbEbIbObYAcWAcBAcPAcMAcNAbEcRA",
    "cLAcKHAdHHAdSAcARCHAIC SAkSEcKAcQAcTAbEbOcDA"]⟩,
  ⟨0x109bc, ["MEROITIC CURSIVE FRACTION ELEVEN TWELFTHSpONE HALFrLOGOGRAM RMTdIMNmNUMBER ONEdTWO",
    "cHREEfFOURdIVEeSIXcEVENfEIGHTfNINEeTENcWENTYfHIRTYgFORTYeIFTYfSIXTYeEVENTY"]⟩,
  ⟨0x109d2, ["MEROITIC CURSIVE NUMBER ONE HUNDREDlTWO HUNDREDkHREE HUNDREDnFOUR HUNDRED",
    "lIVE HUNDREDmSIX HUNDREDkEVEN HUNDREDnEIGHT HUNDREDnNINE HUNDREDmONE THOUSANDmTWO THOUSAND",
    "lHREE THOUSANDoFOUR THOUSANDmIVE THOUSANDnSIX THOUSANDlEVEN THOUSANDoEIGHT THOUSAND",
    "oNINE THOUSANDnTEN THOUSANDlWENTY THOUSANDoHIRTY THOUSANDpFORTY THOUSANDnIFTY THOUSAND",
    "oSIXTY THOUSANDnEVENTY THOUSANDqEIGHTY THOUSANDpNINETY THOUSANDpONE HUNDRED THOUSAND",
    "uTWO HUNDRED THOUSANDtHREE HUNDRED THOUSANDwFOUR HUNDRED THOUSANDuIVE HUNDRED THOUSAND",
    "vSIX HUNDRED THOUSANDtEVEN HUNDRED THOUSANDwEIGHT HUNDRED THOUSANDwNINE HUNDRED THOUSAND",
    "zdFRACTION ONE TWELFTHlTWO TWELFTHSlHREE TWELFTHSoFOUR TWELFTHSmIVE TWELFTHSnSIX TWELFTHS",
    "lEVEN TWELFTHSoEIGHT TWELFTHSoNINE TWELFTHSnTEN TWELFTHSznKHAROSHTHI LETTER AiVOWEL SIGN IbU",
    "bVOCALIC R"]⟩,
  ⟨0x10a05, ["KHAROSHTHI VOWEL SIGN EbO"]⟩,
  ⟨0x10a0c, ["KHAROSHTHI VOWEL LENGTH MARKrSIGN DOUBLE RING BELOWrANUSVARAiVISARGAmLETTER KAbHAdGA",
    "bHA"]⟩,
  ⟨0x10a15, ["KHAROSHTHI LETTER CAbHAdJA"]⟩,
  ⟨0x10a19, ["KHAROSHTHI LETTER NYAdTTAbHAeDDAbHAeNNAdTAbHAdDAbHAdNAcPAbHAdBAbHAdMAcYAcRAcLAcVA",
    "cSHAcSAcAcZAcHAcKKAdTTTHAcAeVHA"]⟩,
  ⟨0x10a38, ["KHAROSHTHI SIGN BAR ABOVEjCAUDAfDOT BELOW"]⟩,
  ⟨0x10a3f, ["KHAROSHTHI VIRAMAgDIGIT ONEdTWOcHREEfFOURkNUMBER TENcWENTYgONE HUNDREDhTHOUSAND",
    "tFRACTION ONE HALF"]⟩,
  ⟨0x10a50, ["KHAROSHTHI PUNCTUATION DOTdSMALL CIRCLEmCIRCLEfRESCENT BARmMANGALAMiLOTUSfDANDA",
    "eOUBLE DANDAmLINES"]⟩,
  ⟨0x10a60, ["OLD SOUTH ARABIAN LETTER HEcLAMEDHgHETHeMEMdQOPHeWAWdSHINeRESHeBETHeTAWdSATdKAPHeNUN",
    "dKHETHfSADHEdMEKHgFEcALEFdYNdDHADHEgGIMELfDALETHgGHAYNfTETHeZAYNeDHALETHhYODHeTHAWcETH",
    "mNUMBER ONEdFIFTYjERIC INDICATORzgNORTH ARABIAN LETTER HEHdLAMdHAHdMEEMeQAFdWAWdES-2eREHdBEH",
    "dTEHdES-1eKAFdNOONeKHAHeSADdES-3eFEHdALEFdINdDADdGEEMeDALdGHAINfTAHdZAINeTHALeYEHdTHEHeZAH",
    "kNUMBER ONEdTENcWENTY"]⟩,
  ⟨0x10ac0, ["MANICHAEAN LETTER ALEPHfBETHdHETHfGIMELeHIMELgDALETHgHEcWAWkSIGN UDhLETTER ZAYIN",
    "eHAYINgJAYINeHAYINgHETHeTETHeYODHeKAPHeXAPHeKHAPHfLAMEDHgDHAMEDHhTHAMEDHhMEMdNUNdSAMEKHgAYIN",
    "dAYINfPEcFEcSADHEfQOPHeXOPHeQHOPHfRESHeSHINdSHINfTAWkABBREVIATION MARK ABOVEfBELOW"]⟩,
  ⟨0x10aeb, ["MANICHAEAN NUMBER ONEdFIVEeTENcWENTYgONE HUNDREDsPUNCTUATION STAReFLEURON",
    "hDOUBLE DOT WITHIN DOTtT WITHIN DOTmTdTWO DOTSiLINE FILLER"]⟩,
  ⟨0x10b00, ["AVESTAN LETTER AaAbObAOcNbANcEaEdEaEcOaOcIaIcUaUcKEcXEbYEcVEdGEbGEcHEdCEcJEcTEbHEdDE",
    "bHEdTTEdPEcFEcBEbHEdNGEbYEcVEdEbYEcNEdMEcHMEdYYEcEcVEcREcLEcSEcZEcSHEdZHEdSHYEdSHEeHE"]⟩,
  ⟨0x10b39, ["AVESTAN ABBREVIATION MARKzTINY TWO DOTS OVER ONE DOT PUNCTUATION",
    "znSMALL TWO DOTS OVER ONE DOT PUNCTUATIONzoLARGE TWO DOTS OVER ONE DOT PUNCTUATION",
    "ziONE DOT OVER TWO DOTS PUNCTUATIONziTWO RINGS OVER ONE RING PUNCTUATION",
    "zkONE RING OVER TWO RINGS PUNCTUATIONzqINSCRIPTIONAL PARTHIAN LETTER ALEPHfBETHeGIMELfDALETH",
    "gHEcWAWdZAYINfHETHeTETHeYODHeKAPHeLAMEDHgMEMdNUNdSAMEKHgAYINePEcSADHEfQOPHeRESHeSHINeTAW"]⟩,
  ⟨0x10b58, ["INSCRIPTIONAL PARTHIAN NUMBER ONEdTWOcHREEfFOUReTENcWENTYgONE HUNDREDhTHOUSAND",
    "zbHLAVI LETTER ALEPHfBETHeGIMELfDALETHgHEcWAW-AYIN-RESHnZAYINfHETHeTETHeYODHeKAPHeLAMEDH",
    "gMEM-QOPHiNUNdSAMEKHgPEcSADHEeHINeTAW"]⟩,
  ⟨0x10b78, ["INSCRIPTIONAL PAHLAVI NUMBER ONEdTWOcHREEfFOUReTENcWENTYgONE HUNDREDhTHOUSAND",
    "zqPSALTER PAHLAVI LETTER ALEPHfBETHeGIMELfDALETHgHEcWAW-AYIN-RESHnZAYINfHETHeYODHeKAPHeLAMEDH",
    "gMEM-QOPHiNUNdSAMEKHgPEcSADHEeHINeTAW"]⟩,
  ⟨0x10b99, ["PSALTER PAHLAVI SECTION MARKmTURNED SECTION MARKtFOUR DOTS WITH CROSSfDOT"]⟩,
  ⟨0x10ba9, ["PSALTER PAHLAVI NUMBER ONEdTWOcHREEfFOUReTENcWENTYgONE HUNDRED"]⟩,
  ⟨0x10c00, ["OLD TURKIC LETTER ORKHON AiYENISEI AaEkORKHON IiYENISEI IbEjORKHON OaEjYENISEI OE",
    "kORKHON ABjYENISEI ABkORKHON AEBkYENISEI AEBlORKHON AGjYENISEI AGkORKHON AEGkYENISEI AEG",
    "lORKHON ADjYENISEI ADkORKHON AEDdEZjYENISEI EZkORKHON AYjYENISEI AYkORKHON AEYkYENISEI AEY",
    "lORKHON AEKkYENISEI AEKlORKHON OEKkYENISEI OEKlORKHON ALjYENISEI ALkORKHON AELdELTcMcANbEN",
    "kYENISEI AENlORKHON ENTkYENISEI ENTlORKHON ENCkYENISEI ENClORKHON ENYkYENISEI ENYdANG",
    "lORKHON ENGkYENISEI AENGmORKHON EPcOPcICcECjYENISEI ECkORKHON AQjYENISEI AQkORKHON IQ",
    "jYENISEI IQkORKHON OQjYENISEI OQkORKHON ARjYENISEI ARkORKHON AERcSbEScSHkYENISEI ASH",
    "lORKHON ESHkYENISEI ESHlORKHON ATjYENISEI ATkORKHON AETkYENISEI AETlORKHON OTcBASH"]⟩,
  ⟨0x10c80, ["OLD HUNGARIAN CAPITAL LETTER AaAcEBcAMBdECbNCcCScDcANDdEbCLOSE EhEEbFbGaYcHcIaIcEJbK",
    "cAKcUNKdELaYcMbNaYdOaOcNIKOLSBURG OEnRUDIMENTA OEmOEEdEPbMPcRcSHORT ERiESaZcTbNTcTYcCHdUaU",
    "cNIKOLSBURG UEnRUDIMENTA UEmEVbZaScNT-SHAPED SIGNpUS"]⟩,
  ⟨0x10cc0, ["OLD HUNGARIAN SMALL LETTER AaAcEBcAMBdECbNCcCScDcANDdEbCLOSE EhEEbFbGaYcHcIaIcEJbK",
    "cAKcUNKdELaYcMbNaYdOaOcNIKOLSBURG OEnRUDIMENTA OEmOEEdEPbMPcRcSHORT ERiESaZcTbNTcTYcCHdUaU",
    "cNIKOLSBURG UEnRUDIMENTA UEmEVbZaScNT-SHAPED SIGNpUS"]⟩,
  ⟨0x10cfa, ["OLD HUNGARIAN NUMBER ONEdFIVEeTENdFIFTYfONE HUNDREDhTHOUSAND",
    "ziHANIFI ROHINGYA LETTER AbBAcPAcTAbTAdJAcCAcHAcKHAdFAcDAbDAdRAbRAdZAcSAbHAdKAcGAcLAcMAcNAcWA",
    "cKINNA WAiYAcKINNA YAiNGAcYAdVAjVOWEL AbIbUbEbOhMARK SAKINfNA KHONNAoSIGN HARBAHAYiTAHALAeNA",
    "cSSI"]⟩,
  ⟨0x10d30, ["HANIFI ROHINGYA DIGIT ZEROeONEdTWOcHREEfFOURdIVEeSIXcEVENfEIGHTfNINE"]⟩,
  ⟨0x10e60, ["RUMI DIGIT ONEdTWOcHREEfFOURdIVEeSIXcEVENfEIGHTfNINEkNUMBER TENcWENTYfHIRTYgFORTY",
    "eIFTYfSIXTYeEVENTYhEIGHTYgNINETYgONE HUNDREDlTWO HUNDREDkHREE HUNDREDnFOUR HUNDRED",
    "lIVE HUNDREDmSIX HUNDREDkEVEN HUNDREDnEIGHT HUNDREDnNINE HUNDREDtFRACTION ONE HALFeQUARTER",
    "hTHIRDjTWO THIRDS"]⟩,
  ⟨0x10e80, ["YEZIDI LETTER ELIFeBEcPEbHEdTHEdSEcCIMcHIMcHIMfHHAdXAcDALdZALdRAbHAdZAcJAcSINcHINdAD",
    "dDADdTAcZEcEYNdXHEYNfFAcVAa ALTERNATE FORMrQAFdKAFcHAFeGAFdLAMdMIMdNUNdUMcWAWdOWcEWcHAYdYOT",
    "dET"]⟩,
  ⟨0x10eab, ["YEZIDI COMBINING HAMZA MARKkMADDA MARKuHYPHENATION MARK"]⟩,
  ⟨0x10eb0, ["YEZIDI LETTER LAM WITH DOT ABOVEsYOT WITH CIRCUMFLEX ABOVE"]⟩,
  ⟨0x10f00, ["OLD SOGDIAN LETTER ALEPHfFINAL ALEPHlBETHeFINAL BETHkGIMELfHEcFINAL HEiWAWdZAYIN",
    "fHETHeYODHeKAPHeLAMEDHgMEMdNUNdFINAL NUNa WITH VERTICAL TAILzdSAMEKHgAYINdLTERNATE AYINoPE",
    "cSADHEfFINAL SADHEa WITH VERTICAL TAILzfRESH-AYIN-DALETHqSHINeTAWdFINAL TAW",
    "a WITH VERTICAL TAILzkNUMBER ONEdTWOcHREEfFOURdIVEeTENcWENTYfHIRTYgONE HUNDRED",
    "sFRACTION ONE HALFrLIGATURE AYIN-DALETH"]⟩,
  ⟨0x10f30, ["SOGDIAN LETTER ALEPHfBETHeGIMELfHEcWAWdZAYINfHETHeYODHeKAPHeLAMEDHgMEMdNUNdSAMEKH",
    "gAYINePEcSADHEfRESH-AYINjSHINeTAWdFETHeLESHlINDEPENDENT SHINqCOMBINING DOT BELOW",
    "jTWO DOTS BELOWoDOT ABOVEjTWO DOTS ABOVEoCURVE ABOVEfBELOWlHOOK ABOVEfBELOWkLONG HOOK BELOW",
    "pRESH BELOWkSTROKE BELOWwNUMBER ONEdTENcWENTYgONE HUNDREDsPUNCTUATION TWO VERTICAL BARS",
    "a WITH DOTSzcCIRCLE WITH DOTpTWO CIRCLES WITH DOTSvHALF CIRCLE WITH DOT"]⟩,
  ⟨0x10f70, ["OLD UYGHUR LETTER ALEPHfBETHeGIMEL-HETHkWAWdZAYINfFINAL HETHkYODHeKAPHeLAMEDHgMEM",
    "dNUNdSAMEKHgPEcSADHEfRESHeSHINeTAWdLESHlCOMBINING DOT ABOVEfBELOWjTWO DOTS ABOVEfBELOW",
    "yPUNCTUATION BARdTWO BARSeDOTSiFOUR DOTS"]⟩,
  ⟨0x10fb0, ["CHORASMIAN LETTER ALEPHfSMALL ALEPHlBETHeGIMELfDALETHgHEcWAWdCURLED WAWkZAYINfHETH",
    "eYODHeKAPHeLAMEDHgMEMdNUNdSAMEKHgAYINePEcRESHeSHINeTAWkNUMBER ONEdTWOcHREEfFOUReTENcWENTY",
    "gONE HUNDRED"]⟩,
  ⟨0x10fe0, ["ELYMAIC LETTER ALEPHfBETHeGIMELfDALETHgHEcWAWdZAYINfHETHeTETHeYODHeKAPHeLAMEDHgMEM",
    "dNUNdSAMEKHgAYINePEcSADHEfQOPHeRESHeSHINeTAWjIGATURE ZAYIN-YODH"]⟩,
  ⟨0x11000, ["BRAHMI SIGN CANDRABINDUlANUSVARAiVISARGAhJIHVAMULIYAlUPADHMANIYAqLETTER AaAcIaIcUaU",
    "cVOCALIC RaRcLaLkEbAIcObAUcKAbHAdGAbHAdNGAdCAbHAdJAbHAdNYAdTTAbHAeDDAbHAeNNAdTAbHAdDAbHAdNA",
    "cPAbHAdBAbHAdMAcYAcRAcLAcVAcSHAcSAcAcHAcLLAdOLD TAMIL LLLAeRRAdNNNAvVOWEL SIGN AA",
    "cBHATTIPROLU AAoIaIcUaUcVOCALIC RaRcLaLkEbAIcObAUmIRAMAgDANDAeOUBLE DANDAmPUNCTUATION DOT",
    "bUBLE DOTkLINEeCRESCENT BARmLOTUS"]⟩,
  ⟨0x11052, ["BRAHMI NUMBER ONEdTWOcHREEfFOURdIVEeSIXcEVENfEIGHTfNINEeTENcWENTYfHIRTYgFORTYeIFTY",
    "fSIXTYeEVENTYhEIGHTYgNINETYgONE HUNDREDhTHOUSANDtDIGIT ZEROeONEdTWOcHREEfFOURdIVEeSIXcEVEN",
    "fEIGHTfNINEkSIGN OLD TAMIL VIRAMAvLETTER OLD TAMIL SHORT EbOyVOWEL SIGN OLD TAMIL SHORT EbO",
    "zdLETTER OLD TAMIL LLA"]⟩,
  ⟨0x1107f, ["BRAHMI NUMBER JOINERuKAITHI SIGN CANDRABINDUlANUSVARAiVISARGAmLETTER AaAcIaIcUaUcE",
    "bAIcObAUcKAbHAdGAbHAdNGAdCAbHAdJAbHAdNYAdTTAbHAeDDAbDHAdHAeRHAdNNAdTAbHAdDAbHAdNAcPAbHAdBAbHA",
    "dMAcYAcRAcLAcVAcSHAcSAcAcHAjVOWEL SIGN AAcIaIcUaUcEbAIcObAUnSIGN VIRAMAgNUKTA",
    "kABBREVIATION SIGNrENUMERATION SIGNqNUMBER SIGNlSECTION MARKmDOUBLE SECTION MARKsANDA",
    "eOUBLE DANDAmVOWEL SIGN VOCALIC R"]⟩,
  ⟨0x110cd, ["KAITHI NUMBER SIGN ABOVE"]⟩,
  ⟨0x110d0, ["SORA SOMPENG LETTER SAHdTAHdBAHdCAHdDAHdGAHdMAHdNGAHeLAHdNAHdVAHdPAHdYAHdRAHdHAHdKAH",
    "dJAHdNYAHeAHcEEHdIHcUHcOHcEHcMAE"]⟩,
  ⟨0x110f0, ["SORA SOMPENG DIGIT ZEROeONEdTWOcHREEfFOURdIVEeSIXcEVENfEIGHTfNINE"]⟩,
  ⟨0x11100, ["CHAKMA SIGN CANDRABINDUlANUSVARAiVISARGAmLETTER AAcIbUbEbKAAcHAAeGAAcHAAeNGAAeCAA",
    "cHAAeJAAcHAAeNYAAeTTAAcHAAfDDAAcHAAfNNAAeTAAcHAAeDAAcHAAeNAAdPAAcHAAeBAAcHAAeMAAdYYAAdAAdRAA",
    "dLAAdWAAdSAAdHAAkVOWEL SIGN AbIaIcUaUcEbAIcObAUcOInO MARKgAU MARKhVIRAMAgMAAYYAA"]⟩,
  ⟨0x11136, ["CHAKMA DIGIT ZEROeONEdTWOcHREEfFOURdIVEeSIXcEVENfEIGHTfNINEkSECTION MARKmDANDA",
    "eOUBLE DANDAmQUESTION MARKnLETTER LHAAlVOWEL SIGN AAcEInLETTER VAA"]⟩,
  ⟨0x11150, ["MAHAJANI LETTER AbIbUbEbObKAbHAdGAbHAdCAbHAdJAbHAdNYAdTTAbHAeDDAbHAeNNAdTAbHAdDAbHA",
    "dNAcPAbHAdBAbHAdMAcRAcLAcVAcSAcHAcRRAkSIGN NUKTAkABBREVIATION SIGNrSECTION MARK",
    "mLIGATURE SHRI"]⟩,
  ⟨0x11180, ["SHARADA SIGN CANDRABINDUlANUSVARAiVISARGAmLETTER AaAcIaIcUaUcVOCALIC RaRcLaLkEbAIcO",
    "bAUcKAbHAdGAbHAdNGAdCAbHAdJAbHAdNYAdTTAbHAeDDAbHAeNNAdTAbHAdDAbHAdNAcPAbHAdBAbHAdMAcYAcRAcLA",
    "bLAdVAcSHAcSAcAcHAjVOWEL SIGN AAcIaIcUaUcVOCALIC RaRcLaLkEbAIcObAUnSIGN VIRAMAgAVAGRAHA",
    "iJIHVAMULIYAlUPADHMANIYAqOMcDANDAeOUBLE DANDAmABBREVIATION SIGNrSEPARATORiANDHI MARK",
    "kIGN NUKTAkVOWEL MODIFIER MARKtEXTRA SHORT VOWEL MARKwSUTRA MARKkVOWEL SIGN PRISHTHAMATRA E",
    "zbSIGN INVERTED CANDRABINDUzDIGIT ZEROeONEdTWOcHREEfFOURdIVEeSIXcEVENfEIGHTfNINEkEKAM",
    "eSIGN SIDDHAMmHEADSTROKEkCONTINUATION SIGNrSECTION MARK-1b2"]⟩,
  ⟨0x111e1, ["SINHALA ARCHAIC DIGIT ONEdTWOcHREEfFOURdIVEeSIXcEVENfEIGHTfNINEkNUMBER TENcWENTY",
    "fHIRTYgFORTYeIFTYfSIXTYeEVENTYhEIGHTYgNINETYgONE HUNDREDhTHOUSAND"]⟩,
  ⟨0x11200, ["KHOJKI LETTER AaAcIbUbEbAIcObAUcKAbHAdGAbGAcHAdNGAdCAbHAdJAbJA"]⟩,
  ⟨0x11213, ["KHOJKI LETTER NYAdTTAbHAeDDAbHAeNNAdTAbHAdDAbDDAdHAdNAcPAbHAdBAbBAcHAdMAcYAcRAcLAcVA",
    "cSAcHAcLLAkVOWEL SIGN AAcIaIcUbEbAIcObAUnSIGN ANUSVARAiVIRAMAgNUKTAfSHADDAlDANDAeOUBLE DANDA",
    "mWORD SEPARATORoSECTION MARKmDOUBLE SECTION MARKtABBREVIATION SIGNrSIGN SUKUN"]⟩,
  ⟨0x11280, ["MULTANI LETTER AbIbUbEbKAbHAdGA"]⟩,
  ⟨0x11288, ["MULTANI LETTER GHA"]⟩,
  ⟨0x1128a, ["MULTANI LETTER CAbHAdJAbJA"]⟩,
  ⟨0x1128f, ["MULTANI LETTER NYAdTTAbHAeDDAbDAcHAeNNAdTAbHAdDAbHAdNAcPAbHAdBA"]⟩,
  ⟨0x1129f, ["MULTANI LETTER BHAdMAcYAcRAcLAcVAcSAcHAcRRAcHAkSECTION MARK"]⟩,
  ⟨0x112b0, ["KHUDAWADI LETTER AaAcIaIcUaUcEbAIcObAUcKAbHAdGAbGAcHAdNGAdCAbHAdJAbJAcHAdNYAdTTAbHA",
    "eDDAbDAeRRAdDDHAeNNAdTAbHAdDAbHAdNAcPAbHAdBAbBAcHAdMAcYAcRAcLAcVAcSHAcAcHAjSIGN ANUSVARA",
    "nVOWEL SIGN AAcIaIcUaUcEbAIcObAUnSIGN NUKTAfVIRAMA"]⟩,
  ⟨0x112f0, ["KHUDAWADI DIGIT ZEROeONEdTWOcHREEfFOURdIVEeSIXcEVENfEIGHTfNINE"]⟩,
  ⟨0x11300, ["GRANTHA SIGN COMBINING ANUSVARA ABOVExANDRABINDUlANUSVARAiVISARGA"]⟩,
  ⟨0x11305, ["GRANTHA LETTER AaAcIaIcUaUcVOCALIC RbL"]⟩,
  ⟨0x1130f, ["GRANTHA LETTER EEcAI"]⟩,
  ⟨0x11313, ["GRANTHA LETTER OOcAUcKAbHAdGAbHAdNGAdCAbHAdJAbHAdNYAdTTAbHAeDDAbHAeNNAdTAbHAdDAbHA",
    "dNA"]⟩,
  ⟨0x1132a, ["GRANTHA LETTER PAbHAdBAbHAdMAcYAcRA"]⟩,
  ⟨0x11332, ["GRANTHA LETTER LAbLA"]⟩,
  ⟨0x11335, ["GRANTHA LETTER VAcSHAcSAcAcHA"]⟩,
  ⟨0x1133b, ["COMBINING BINDU BELOWvGRANTHA SIGN NUKTAfAVAGRAHAnVOWEL SIGN AAcIaIcUaUcVOCALIC R",
    "aR"]⟩,
  ⟨0x11347, ["GRANTHA VOWEL SIGN EEcAI"]⟩,
  ⟨0x1134b, ["GRANTHA VOWEL SIGN OOcAUnSIGN VIRAMA"]⟩,
  ⟨0x11350, ["GRANTHA OM"]⟩,
  ⟨0x11357, ["GRANTHA AU LENGTH MARK"]⟩,
  ⟨0x1135d, ["GRANTHA SIGN PLUTAkLETTER VEDIC ANUSVARAiDOUBLE ANUSVARAuOCALIC RRcLL",
    "rVOWEL SIGN VOCALIC LaL"]⟩,
  ⟨0x11366, ["COMBINING GRANTHA DIGIT ZEROeONEdTWOcHREEfFOURdIVEeSIX"]⟩,
  ⟨0x11370, ["COMBINING GRANTHA LETTER AbKAcNAcVIcPA"]⟩,
  ⟨0x11400, ["NEWA LETTER AaAcIaIcUaUcVOCALIC RaRcLaLkEbAIcObAUcKAbHAdGAbHAdNGAbHAeCAbHAdJAbHAdNYA",
    "bHAeTTAbHAeDDAbHAeNNAdTAbHAdDAbHAdNAbHAdPAbHAdBAbHAdMAbHAdYAcRAbHAdLAbHAdWAcSHAcSAcAcHA",
    "jVOWEL SIGN AAcIaIcUaUcVOCALIC RaRcLaLkEbAIcObAUnSIGN VIRAMAgCANDRABINDUlANUSVARAiVISARGA",
    "hNUKTAfAVAGRAHAiFINAL ANUSVARAtOMcSIDDHIgDANDAeOUBLE DANDAmCOMMAfGAP FILLERkABBREVIATION SIGN",
    "rDIGIT ZEROeONEdTWOcHREEfFOURdIVEeSIXcEVENfEIGHTfNINEjOUBLE COMMAmPLACEHOLDER MARK"]⟩,
  ⟨0x1145d, ["NEWA INSERTION SIGNoSANDHI MARKlLETTER VEDIC ANUSVARAvSIGN JIHVAMULIYAlUPADHMANIYA"]⟩,
  ⟨0x11480, ["TIRHUTA ANJIeLETTER AaAcIaIcUaUcVOCALIC RaRcLaLkEbAIcObAUcKAbHAdGAbHAdNGAdCAbHAdJA",
    "bHAdNYAdTTAbHAeDDAbHAeNNAdTAbHAdDAbHAdNAcPAbHAdBAbHAdMAcYAcRAcLAcVAcSHAcSAcAcHAjVOWEL SIGN AA",
    "cIaIcUaUcVOCALIC RaRcLaLkEbSHORT EhAIcObSHORT OhAUnSIGN CANDRABINDUlANUSVARAiVISARGAfRAMA",
    "gNUKTAfAVAGRAHAnGVANGfABBREVIATION SIGNrOM"]⟩,
  ⟨0x114d0, ["TIRHUTA DIGIT ZEROeONEdTWOcHREEfFOURdIVEeSIXcEVENfEIGHTfNINE"]⟩,
  ⟨0x11580, ["SIDDHAM LETTER AaAcIaIcUaUcVOCALIC RaRcLaLkEbAIcObAUcKAbHAdGAbHAdNGAdCAbHAdJAbHAdNYA",
    "dTTAbHAeDDAbHAeNNAdTAbHAdDAbHAdNAcPAbHAdBAbHAdMAcYAcRAcLAcVAcSHAcSAcAcHAjVOWEL SIGN AAcIaIcU",
    "aUcVOCALIC RaR"]⟩,
  ⟨0x115b8, ["SIDDHAM VOWEL SIGN EbAIcObAUnSIGN CANDRABINDUlANUSVARAiVISARGAfRAMAgNUKTAfSIDDHAM",
    "mDANDAeOUBLE DANDAmSEPARATOR DOTdBARnREPETITION MARK-1b2b3rEND OF TEXT MARK",
    "qSECTION MARK WITH TRIDENT AND U-SHAPED ORNAMENTSsDOTTED CRESCENTSzdRAYS AND DOTTED CRESCENTS",
    "jDOUBLE CRESCENTSqTRIPLE CRESCENTSzmDOUBLE RINGa WITH RAYSvWITH DOUBLE CRESCENTS",
    "qTRIPLE CRESCENTSqQUADRUPLE CRESCENTStSEPTUPLE CRESCENTSsCIRCLES AND RAYSeTWO ENCLOSURES",
    "oFOUR ENCLOSURESzuLETTER THREE-CIRCLE ALTERNATE IxWO-CIRCLE ALTERNATE IaIxALTERNATE U",
    "sVOWEL SIGN ALTERNATE UaU"]⟩,
  ⟨0x11600, ["MODI LETTER AaAcIaIcUaUcVOCALIC RaRcLaLkEbAIcObAUcKAbHAdGAbHAdNGAdCAbHAdJAbHAdNYA",
    "dTTAbHAeDDAbHAeNNAdTAbHAdDAbHAdNAcPAbHAdBAbHAdMAcYAcRAcLAcVAcSHAcSAcAcHAcLLAkVOWEL SIGN AAcI",
    "aIcUaUcVOCALIC RaRcLaLkEbAIcObAUnSIGN ANUSVARAiVISARGAfRAMAgARDHACANDRAqDANDAeOUBLE DANDA",
    "mABBREVIATION SIGNrSIGN HUVA"]⟩,
  ⟨0x11650, ["MODI DIGIT ZEROeONEdTWOcHREEfFOURdIVEeSIXcEVENfEIGHTfNINE"]⟩,
  ⟨0x11660, ["MONGOLIAN BIRGA WITH ORNAMENTtROTATED BIRGAnDOUBLE BIRGA WITH ORNAMENT",
    "zbTRIPLE BIRGA WITH ORNAMENTzbBIRGA WITH DOUBLE ORNAMENTzbROTATED BIRGA WITH ORNAMENT",
    "iDOUBLE ORNAMENTzjINVERTED BIRGAa WITH DOUBLE ORNAMENTzkSWIRL BIRGAa WITH ORNAMENT",
    "iDOUBLE ORNAMENTzhTURNED SWIRL BIRGA WITH DOUBLE ORNAMENT"]⟩,
  ⟨0x11680, ["TAKRI LETTER AaAcIaIcUaUcEbAIcObAUcKAbHAdGAbHAdNGAdCAbHAdJAbHAdNYAdTTAbHAeDDAbHAeNNA",
    "dTAbHAdDAbHAdNAcPAbHAdBAbHAdMAcYAcRAcLAcVAcSHAcAcHAcRRAkSIGN ANUSVARAiVISARGAmVOWEL SIGN AAcI",
    "aIcUaUcEbAIcObAUnSIGN VIRAMAgNUKTAkLETTER ARCHAIC KHAsABBREVIATION SIGN"]⟩,
  ⟨0x116c0, ["TAKRI DIGIT ZEROeONEdTWOcHREEfFOURdIVEeSIXcEVENfEIGHTfNINE"]⟩,
  ⟨0x11700, ["AHOM LETTER KAbHAdNGAcAcTAcALTERNATE TAmPAbHAdBAcMAcJAcCHAdTHAdRAcLAcSAcNYAdHAcAbDA",
    "bHAdGAcALTERNATE GAmGHAdBHAdJHAdALTERNATE BA"]⟩,
  ⟨0x1171d, ["AHOM CONSONANT SIGN MEDIAL LAcRAcLIGATING RAziVOWEL SIGN AaAcIaIcUaUcEbAWcObAIbM",
    "nSIGN KILLER"]⟩,
  ⟨0x11730, ["AHOM DIGIT ZEROeONEdTWOcHREEfFOURdIVEeSIXcEVENfEIGHTfNINEkNUMBER TENcWENTY",
    "nSIGN SMALL SECTIONmECTIONhRULAIjYMBOL VIjLETTER CAcTTAbHAeDDAbHAeNNAdLLA"]⟩,
  ⟨0x11800, ["DOGRA LETTER AaAcIaIcUaUcEbAIcObAUcKAbHAdGAbHAdNGAdCAbHAdJAbHAdNYAdTTAbHAeDDAbHAeNNA",
    "dTAbHAdDAbHAdNAcPAbHAdBAbHAdMAcYAcRAcLAcVAcSHAcSAcAcHAcRRAkVOWEL SIGN AAcIaIcUaUcVOCALIC RaR",
    "kEbAIcObAUnSIGN ANUSVARAiVISARGAfRAMAgNUKTAkABBREVIATION SIGN"]⟩,
  ⟨0x118a0, ["WARANG CITI CAPITAL LETTER NGAAeAbWIcYUbAbOcIIcUUcEbObANGdGAcKOcENYdYUJdUCcENNdODD",
    "dTTEdNUNGeDAcATbMcBUcPUcHIYOdOLOcRRdARdSSUUdIIdVIYOtSMALL LETTER NGAAeAbWIcYUbAbOcIIcUUcEbO",
    "bANGdGAcKOcENYdYUJdUCcENNdODDdTTEdNUNGeDAcATbMcBUcPUcHIYOdOLOcRRdARdSSUUdIIdVIYOrDIGIT ZERO",
    "eONEdTWOcHREEfFOURdIVEeSIXcEVENfEIGHTfNINEkNUMBER TENcWENTYfHIRTYgFORTYeIFTYfSIXTYeEVENTY",
    "hEIGHTYgNINETY"]⟩,
  ⟨0x118ff, ["WARANG CITI OMoDIVES AKURU LETTER AaAcIaIcUaUcE"]⟩,
  ⟨0x11909, ["DIVES AKURU LETTER O"]⟩,
  ⟨0x1190c, ["DIVES AKURU LETTER KAbHAdGAbHAdNGAdCAbHAdJA"]⟩,
  ⟨0x11915, ["DIVES AKURU LETTER NYAdTTA"]⟩,
  ⟨0x11918, ["DIVES AKURU LETTER DDAbHAeNNAdTAbHAdDAbHAdNAcPAbHAdBAbHAdMAcYAbYAdRAcLAcVAcSHAcSAcA",
    "cHAcLLAdZAjVOWEL SIGN AAcIaIcUaUcE"]⟩,
  ⟨0x11937, ["DIVES AKURU VOWEL SIGN AIcO"]⟩,
  ⟨0x1193b, ["DIVES AKURU SIGN ANUSVARAiCANDRABINDUlHALANTAmVIRAMAgPREFIXED NASAL SIGNtMEDIAL YA",
    "jINITIAL RAkMEDIAL RAjSIGN NUKTAkDOUBLE DANDAmGAP FILLERkEND OF TEXT MARK"]⟩,
  ⟨0x11950, ["DIVES AKURU DIGIT ZEROeONEdTWOcHREEfFOURdIVEeSIXcEVENfEIGHTfNINE"]⟩,
  ⟨0x119a0, ["NANDINAGARI LETTER AaAcIaIcUaUcVOCALIC RaR"]⟩,
  ⟨0x119aa, ["NANDINAGARI LETTER EbAIcObAUcKAbHAdGAbHAdNGAdCAbHAdJAbHAdNYAdTTAbHAeDDAbHAeNNAdTAbHA",
    "dDAbHAdNAcPAbHAdBAbHAdMAcYAcRAcLAcVAcSHAcSAcAcHAcLLAdRRAkVOWEL SIGN AAcIaIcUaUcVOCALIC RaR"]⟩,
  ⟨0x119da, ["NANDINAGARI VOWEL SIGN EbAIcObAUnSIGN ANUSVARAiVISARGAfRAMAgAVAGRAHAiSIDDHAM",
    "mHEADSTROKEkVOWEL SIGN PRISHTHAMATRA E"]⟩,
  ⟨0x11a00, ["ZANABAZAR SQUARE LETTER AiVOWEL SIGN IbUEcUbEbOEcObAIbUcREVERSED IpLENGTH MARK",
    "rLETTER KAbHAdGAbHAdNGAdCAbHAdJAcNYAdTTAbHAeDDAbHAeNNAdTAbHAdDAbHAdNAcPAbHAdBAbHAdMAcTSAbHA",
    "eDZAbHAeZHAcAc-AcYAcRAcLAcVAcSHAcSAcAcHAcKSSAlFINAL CONSONANT MARKuSIGN VIRAMAgCANDRABINDU",
    "a WITH ORNAMENTt WITH ORNAMENTuANUSVARAiVISARGAmCLUSTER-INITIAL LETTER RArFINAL LETTER YAcRA",
    "cLAcVAxINITIAL HEAD MARKrCLOSING HEAD MARKrMARK TSHEGfSHADeDOUBLE SHADlLONG TSHEG",
    "pINITIAL DOUBLE-LINED HEAD MARKzfCLOSING DOUBLE-LINED HEAD MARKzfSUBJOINER"]⟩,
  ⟨0x11a50, ["SOYOMBO LETTER AiVOWEL SIGN IbUEcUbEbOaEcAIbUcVOCALIC RbLoLENGTH MARKrLETTER KAbHA",
    "dGAbHAdNGAdCAbHAdJAbHAdNYAdTTAbHAeDDAbHAeNNAdTAbHAdDAbHAdNAcPAbHAdBAbHAdMAcTSAbHAeDZAdZHAcA",
    "c-AcYAcRAcLAcVAcSHAcSAcAcHAcKSSAlSIGN JIHVAMULIYAlUPADHMANIYAqCLUSTER-INITIAL LETTER RAcLA",
    "cSHAcAzFINAL CONSONANT SIGN GbKbNGcDbNbBbMbRbLbSHcSb-AxSIGN ANUSVARAiVISARGAmGEMINATION MARK",
    "pSUBJOINERjMARK TSHEGfSHADeDOUBLE SHADlPLUTAkHEAD MARK WITH MOON AND SUN AND TRIPLE FLAME",
    "mFLAMElNzcTERMINAL MARK-1b2"]⟩,
  ⟨0x11ab0, ["CANADIAN SYLLABICS NATTILIK HIaIcOaOcAaAdSHRIaIcOaOcAaAoSPEbIbObA",
    "wPAU CIN HAU LETTER PAcKAcLAcMAcDAcZAcVAcNGAdHAcGAcKHAdSAcBAcCAcTAbHAdNAcPHAdRAcFAcCHAdAbEbI",
    "bObUaAcIAcFINAL PbKbTbMbNbLbWbNGcYoRISING TONE LONGgElSANDHI GLOTTAL STOP",
    "tRISING TONE LONG FINALkFINALrSANDHI GLOTTAL STOP FINALsTONE LONGgEa LONG FINALkFINAL",
    "rMID-LEVEL TONEoGLOTTAL STOP VARIANTuMID-LEVEL TONE LONG FINALkFINALuLOW-FALLING TONE LONGgE",
    "qGLOTTAL STOPmLOW-FALLING TONE LONG FINALkFINALwGLOTTAL STOP FINAL"]⟩,
  ⟨0x11c00, ["BHAIKSUKI LETTER AaAcIaIcUaUcVOCALIC RaRcL"]⟩,
  ⟨0x11c0a, ["BHAIKSUKI LETTER EbAIcObAUcKAbHAdGAbHAdNGAdCAbHAdJAbHAdNYAdTTAbHAeDDAbHAeNNAdTAbHA",
    "dDAbHAdNAcPAbHAdBAbHAdMAcYAcRAcLAcVAcSHAcSAcAcHAjVOWEL SIGN AAcIaIcUaUcVOCALIC RaRcL"]⟩,
  ⟨0x11c38, ["BHAIKSUKI VOWEL SIGN EbAIcObAUnSIGN CANDRABINDUlANUSVARAiVISARGAfRAMAgAVAGRAHAnDANDA",
    "eOUBLE DANDAmWORD SEPARATORoGAP FILLER-1b2"]⟩,
  ⟨0x11c50, ["BHAIKSUKI DIGIT ZEROeONEdTWOcHREEfFOURdIVEeSIXcEVENfEIGHTfNINEkNUMBER ONEdTWOcHREE",
    "fFOURdIVEeSIXcEVENfEIGHTfNINEeTENcWENTYfHIRTYgFORTYeIFTYfSIXTYeEVENTYhEIGHTYgNINETY",
    "nHUNDREDS UNIT MARK"]⟩,
  ⟨0x11c70, ["MARCHEN HEAD MARKjMARK SHADjLETTER KAbHAdGAcNGAdCAbHAdJAcNYAdTAbHAdDAcNAcPAbHAdBAcMA",
    "cTSAbHAeDZAdWAcZHAcAc-AcYAcRAcLAcSHAcAcHAcA"]⟩,
  ⟨0x11c92, ["MARCHEN SUBJOINED LETTER KAbHAdGAcNGAdCAbHAdJAcNYAdTAbHAdDAcNAcPAbHAdBAcMAcTSAbHA",
    "eDZAdWAcZHAcA"]⟩,
  ⟨0x11ca9, ["MARCHEN SUBJOINED LETTER YAcRAcLAcSHAcAcHAcAsVOWEL SIGN AAcIbUbEbOmSIGN ANUSVARA",
    "iCANDRABINDU"]⟩,
  ⟨0x11d00, ["MASARAM GONDI LETTER AaAcIaIcUaUcE"]⟩,
  ⟨0x11d08, ["MASARAM GONDI LETTER AIcO"]⟩,
  ⟨0x11d0b, ["MASARAM GONDI LETTER AUcKAbHAdGAbHAdNGAdCAbHAdJAbHAdNYAdTTAbHAeDDAbHAeNNAdTAbHAdDA",
    "bHAdNAcPAbHAdBAbHAdMAcYAcRAcLAcVAcSHAcSAcAcHAcLLAdKSSAeJNYAeTRAkVOWEL SIGN AAcIaIcUaU",
    "cVOCALIC R"]⟩,
  ⟨0x11d3a, ["MASARAM GONDI VOWEL SIGN E"]⟩,
  ⟨0x11d3c, ["MASARAM GONDI VOWEL SIGN AIcO"]⟩,
  ⟨0x11d3f, ["MASARAM GONDI VOWEL SIGN AUnSIGN ANUSVARAiVISARGAhNUKTAfCANDRAgHALANTAmVIRAMAgREPHA",
    "eA-KARA"]⟩,
  ⟨0x11d50, ["MASARAM GONDI DIGIT ZEROeONEdTWOcHREEfFOURdIVEeSIXcEVENfEIGHTfNINE"]⟩,
  ⟨0x11d60, ["GUNJALA GONDI LETTER AaAcIaIcUaU"]⟩,
  ⟨0x11d67, ["GUNJALA GONDI LETTER EEcAI"]⟩,
  ⟨0x11d6a, ["GUNJALA GONDI LETTER OOcAUcYAcVAcBAbHAdMAcKAbHAdTAbHAdLAcGAbHAdDAbHAdNAcCAbHAdTTAbHA",
    "eLLAdJAbHAdDDAbHAeNGAdPAbHAdHAcRAcSAjVOWEL SIGN AAcIaIcUaU"]⟩,
  ⟨0x11d90, ["GUNJALA GONDI VOWEL SIGN EEcAI"]⟩,
  ⟨0x11d93, ["GUNJALA GONDI VOWEL SIGN OOcAUnSIGN ANUSVARAiVISARGAmVIRAMAgOM"]⟩,
  ⟨0x11da0, ["GUNJALA GONDI DIGIT ZEROeONEdTWOcHREEfFOURdIVEeSIXcEVENfEIGHTfNINE"]⟩,
  ⟨0x11ee0, ["MAKASAR LETTER KAcGAcNGAdPAcBAcMAcTAcDAcNAcCAcJAcNYAdYAcRAcLAcVAcSAcAiANGKA",
    "fVOWEL SIGN IbUbEbOmPASSIMBANGkEND OF SECTION"]⟩,
  ⟨0x11fb0, ["LISU LETTER YHA"]⟩,
  ⟨0x11fc0, ["TAMIL FRACTION ONE THREE-HUNDRED-AND-TWENTIETHzcONE-HUNDRED-AND-SIXTIETHyEIGHTIETH",
    "jSIXTY-FOURTHmFORTIETHiTHIRTY-SECONDrTHREE EIGHTIETHSkSIXTY-FOURTHStONE TWENTIETHjSIXTEENTH-1",
    "b2lTENTHfEIGHTHkTHREE TWENTIETHSkSIXTEENTHSqONE FIFTHfQUARTERhHALF-1b2kTHREE QUARTERS",
    "oDOWNSCALING FACTOR KIIZHziSIGN NELdCEVITUgAAZHAAKKUjUZHAKKUhMUUVUZHAKKUlKURUNIgPATHAKKU",
    "iMUKKURUNIjKAACUfPANAMeONdVARAAKANiPAARAMgKUZHIfVELIjWET CULTIVATION SIGN",
    "uDRY CULTIVATION SIGNuLAND SIGNjSALT PAN SIGNnTRADITIONAL CREDIT SIGNlNUMBER SIGN",
    "xCURRENT SIGNmAND ODD SIGNmSPENT SIGNkTOTAL SIGNkIN POSSESSION SIGNsSTARTING FROM SIGN",
    "rIGN MUTHALIYAjVAKAIYARAA"]⟩,
  ⟨0x11fff, ["TAMIL PUNCTUATION END OF TEXT"]⟩]

end TypeCatalog.Text.CharacterName
