import TypeCatalog.Text.CodePoint

/-!
# Names of musical and mathematical symbols

Scores, styled letters for mathematics, and signs for movements.
-/

namespace TypeCatalog.Text.CharacterName

/-- The names from U+1D000 to U+1EEF1. -/
def scores : List NameRun := [
  ⟨0x1d000, ["BYZANTINE MUSICAL SYMBOL PSILIfDASEIAgPERISPOMENIlOXEIA EKFONITIKONlDIPLI",
    "lVAREIA EKFONITIKONlDIPLImKATHISTIiSYRMATIKIjPARAKLITIKIlYPOKRISISa DIPLIpKREMASTI",
    "iAPESO EKFONITIKONrEXO EKFONITIKONpTELEIAgKENTIMATAjAPOSTROFOSa DIPLIqSYNEVMAhTHITA",
    "fOLIGON ARCHAIONpGORGON ARCHAIONpPSILONgCHAMILONiVATHYfISON ARCHAIONnKENTIMA ARCHAION",
    "jTA ARCHAIONsSAXIMATAiPARICHONiSTAVROS APODEXIAqOXEIAI ARCHAIONpVAREIAI ARCHAION",
    "qAPODERMA ARCHAIONoTHEMAiKLASMAgREVMAfPIASMA ARCHAIONpTINAGMAhANATRICHISMAmSEISMA",
    "fYNAGMA ARCHAIONiMETA STAVROUuOYRANISMA ARCHAIONsTHEMAfLEMOIfDYOdTRIAdESSERAhKRATIMATA",
    "jAPESO EXO NEOnFTHORA ARCHAIONpIMIFTHORAjTROMIKON ARCHAIONrKATAVA TROMIKONpPELASTONhSIFISTON",
    "jKONTEVMAiCHOREVMA ARCHAIONrRAPISMAhPARAKALESMA ARCHAIONpLITIKI ARCHAIONuICHADINhNANAePETASMA",
    "hKONTEVMA ALLOnTROMIKON ALLOnSTRAGGISMATAmGRONTHISMATAmISON NEOiOLIGON NEOjXEIA NEOjPETASTI",
    "hKOUFISMAiPETASTOKOUFISMApKRATIMOKOUFISMApPELASTON NEOmKENTIMATA NEO ANOk NEO ANOpYPSILI",
    "gAPOSTROFOS NEOfI SYNDESMOS NEOyYPORROIhKRATIMOYPORROONpELAFRONhCHAMILIhMIKRON ISON",
    "lVAREIA NEOkPIASMA NEOjSIFISTON NEOnOMALONgANTIKENOMAkLYGISMAhPARAKLITIKI NEOkALESMA NEO",
    "pETERON PARAKALESMAsKYLISMAhANTIKENOKYLISMApTROMIKON NEOmEKSTREPTONkSYNAGMA NEOjRMA",
    "fCHOREVMA NEOmEPEGERMAiSEISMA NEOkXIRON KLASMAmTROMIKOPSIFISTONqPSIFISTOLYGISMA",
    "pTROMIKOLYGISMAhPARAKALESMAsPSIFISTOPARAKALESMAtTROMIKOSYNAGMAoPSIFISTOSYNAGMApGORGOSYNTHETON",
    "oARGOSYNTHETONnETERON ARGOSYNTHETONuOYRANISMA NEOnTHEMATISMOS ESOcXOk APLOUNjS KAI APOTHES",
    "qKATAVASMAjENDOFONONjYFEN KATOeANOiSTAVROShKLASMA ANOkDIPLI ARCHAIONoKRATIMA ARCHAIONhLLOeNEO",
    "lAPODERMA NEOkLIeDIPLIfTRIPLIfETRAPLIiKORONIShLEIMMA ENOS CHRONOUmDYO CHRONONlTRION CHRONON",
    "mESSARON CHRONONqIMISEOS CHRONOUwGORGON NEO ANOhPARESTIGMENON ARISTERAiDEXIAzbDIGORGON",
    "a PARESTIGMENON ARISTERA KATOeANOmDEXIAzdTRIGORGONjARGONfIMIDIARGONkDIARGONhAGOGI POLI ARGI",
    "jARGOTERIfIeMETRIAeSIeGORGIbOTERIjPOLI GORGIqMARTYRIA PROTOS ICHOSmALLI PROTOS ICHOS",
    "rDEYTEROS ICHOSoALLI DEYTEROS ICHOStTRITOS ICHOSjFONIASiETARTOS ICHOSfLEGETOS ICHOS",
    "wLEGETOS ICHOSnPLAGIOS ICHOSwISAKIA TELOUS ICHIMATOSxAPOSTROFOI TELOUS ICHIMATOS",
    "zcFANEROSIS TETRAFONIASlMONOFONIASkDIFONIASsMARTYRIA VARYS ICHOSlPROTOVARYS ICHOS",
    "pLAGIOS TETARTOS ICHOSzgGORTHMIKON N APLOUNgDIPLOUNuENARXIS KAI FTHORA VOUwIMIFONONeTHORON",
    "kFTHORA ARCHAION DEYTEROU ICHOUxDIATONIKI PAcNANAoNAOS ICHOSkDIATONIKI DImSKLIRON DIATONON DI",
    "tDIATONIKI KEcZOcNI KATOeANOqMALAKON CHROMA DIFONIASiMONOFONIASzgHTORA SKLIRON CHROMA VASIS",
    "zbTHORA SKLIRON CHROMA SYNAFIvNENANOnCHROA ZYGOSfKLITONgSPATHImFTHORA I YFESIS TETARTIMORION",
    "wENARMONIOS ANTIFONIAzcYFESIS TRITIMORIONsDIESIS TRITIMORIONkETARTIMORIONnAPLI DYO DODEKATA",
    "rMONOGRAMMOS TESSERA DODEKATAzdDIGRAMMOS EX DODEKATAvTRIGRAMMOS OKTO DODEKATA",
    "zgYFESIS APLI DYO DODEKATArMONOGRAMMOS TESSERA DODEKATAzdDIGRAMMOS EX DODEKATA",
    "vTRIGRAMMOS OKTO DODEKATAzgGENIKI DIESISgYFESISnDIASTOLI APLI MIKRIeEGALIlDIPLIfTHESEOS",
    "qSIMANSIS THESEOSa DISIMOUhTRISIMOUhETRASIMOUsARSEOSa DISIMOUhTRISIMOUhETRASIMOUzbDIGRAMMA GG",
    "jFTOGGOS OUmSTIGMAgARKTIKO PAcVOUdGAcDIcKEcZOcNIkKENTIMATA NEO MESOl NEO MESOjTA NEO KATO",
    "l NEO KATOpLASMA KATOlGORGON NEO KATO"]⟩,
  ⟨0x1d100, ["MUSICAL SYMBOL SINGLE BARLINEoDOUBLE BARLINEoFINAL BARLINEnREVERSE FINAL BARLINE",
    "vDASHED BARLINEoSHORT BARLINEnLEFT REPEAT SIGNqRIGHT REPEAT SIGNqEPEAT DOTSlDAL SEGNOh CAPO",
    "hSEGNOfCODAeREPEATED FIGURE-1b2b3rFERMATAa BELOWnBREATH MARKlCAESURAhBRACEbKEThONE-LINE STAFF",
    "oTWO-LINE STAFFnHREE-LINE STAFFqFOUR-LINE STAFFoIVE-LINE STAFFpSIX-LINE STAFF",
    "kSTRING FRETBOARDuFOUR-STRING FRETBOARDvG CLEFa OTTAVA ALTAeBASSAtC CLEFgF CLEFa OTTAVA ALTA",
    "eBASSAtDRUM CLEF-1b2"]⟩,
  ⟨0x1d129, ["MUSICAL SYMBOL MULTIPLE MEASURE RESTvDOUBLE SHARPfFLATlFLAT UPcDOWNjNATURAL UPcDOWN",
    "mSHARP UPcDOWNkQUARTER TONE SHARPfFLATrCOMMON TIMEkUT TIMEiOTTAVA ALTAeBASSA",
    "mQUINDICESIMA ALTAeBASSAsMULTI RESTkWHOLE RESTkHALF RESTjQUARTER RESTmEIGHTH REST",
    "lSIXTEENTH RESToTHIRTY-SECOND RESTsSIXTY-FOURTH RESTrONE HUNDRED TWENTY-EIGHTH REST",
    "zfX NOTEHEADkPLUS NOTEHEADnCIRCLE X NOTEHEADrSQUARE NOTEHEAD WHITEfBLACK",
    "vTRIANGLE NOTEHEAD UP WHITEfBLACKiLEFT WHITEfBLACKkRIGHT WHITEfBLACKlDOWN WHITEfBLACK",
    "kUP RIGHT WHITEfBLACKzhMOON NOTEHEAD WHITEfBLACKtTRIANGLE-ROUND NOTEHEAD DOWN WHITEfBLACK",
    "zjPARENTHESIS NOTEHEADuVOID NOTEHEADnNOTEHEAD BLACKnULL NOTEHEADnCLUSTER NOTEHEAD WHITEfBLACK",
    "wBREVEfWHOLE NOTEkHALF NOTEjQUARTER NOTEmEIGHTH NOTElSIXTEENTH NOTEoTHIRTY-SECOND NOTE",
    "sSIXTY-FOURTH NOTErONE HUNDRED TWENTY-EIGHTH NOTEzfCOMBINING STEMdPRECHGESANG STEMrTREMOLO-1",
    "b2b3tFINGERED TREMOLO-1b2b3sCOMBINING AUGMENTATION DOTqFLAG-1b2b3b4b5qBEGIN BEAMkEND BEAM",
    "iBEGIN TIEjEND TIEhBEGIN SLURkEND SLURiBEGIN PHRASEmEND PHRASEkCOMBINING ACCENTgSTACCATO",
    "iTENUTOgSTACCATISSIMOnMARCATOa-STACCATOqACCENT-STACCATOpLOUREpARPEGGIATO UPcDOWN",
    "pCOMBINING DOITeRIPdFLIPeSMEARfBENDeDOUBLE TONGUEnTRIPLE TONGUExRINFORZANDOlSUBITOgZbPIANO",
    "fMEZZOfFORTEfCRESCENDOjDECRESCENDOlGRACE NOTE SLASHfNO SLASHtTRbURNeINVERTED TURNnTURN SLASH",
    "fUPhORNAMENT STROKE-1b2b3b4b5b6b7b8b9b10b1sHAUPTSTIMMElNEBENSTIMMElEND OF STIMMEnDEGREE SLASH",
    "mCOMBINING DOWN BOWiUP BOWgHARMONICiSNAP PIZZICATOyPEDAL MARKeUP MARKnHALF PEDAL MARK",
    "pGLISSANDO UPcDOWNoWITH FINGERNAILSqDAMPa ALLiMAXIMAgLONGAfBREVISgSEMIBREVIS WHITEfBLACK",
    "qMINIMAa BLACKmSEMIMINIMA WHITEfBLACKqFUSA WHITEfBLACKkLONGA PERFECTA RESTnIMPERFECTA REST",
    "vBREVIS RESTlSEMIBREVIS RESTpMINIMA RESTlSEMIMINIMA REST",
    "pTEMPUS PERFECTUM CUM PROLATIONE PERFECTAiIMPERFECTAkPERFECTA DIMINUTION-1",
    "zvIMPERFECTUM CUM PROLATIONE PERFECTAiIMPERFECTAa DIMINUTION-1b2b3zzhCROIXfGREGORIAN C CLEF",
    "gF CLEFqSQUARE BiVIRGAfPODATUShCLIVISgSCANDICUSjCLIMACUSiTORCULUSiPORRECTUSa FLEXUS",
    "qSCANDICUS FLEXUSqTORCULUS RESUPINUSsPES SUBPUNCTISoKIEVAN C CLEFgEND OF PIECEmFINAL NOTE",
    "kRECITATIVE MARKpWHOLE NOTEkHALF NOTEjQUARTER NOTE STEM DOWNeUPuEIGHTH NOTE STEM DOWNeUP",
    "tFLAT SIGNqSORIeKORON"]⟩,
  ⟨0x1d200, ["GREEK VOCAL NOTATION SYMBOL-1b2b3b4b5b6b7b8b9b10b1b2b3b4b5b6b7b8b9c20b1b2b3b4c50b1b2",
    "b3b4yINSTRUMENTAL NOTATION SYMBOL-1b2b4b5b7b8b11b2b3b4b7b8b9c23b4b5b6b7b9c30b2b6b7b8b9c40b2b3",
    "b5b7b8b9c50b1b2b3b4zmCOMBINING GREEK MUSICAL TRISEMEgETRASEMEjPENTASEME",
    "ziGREEK MUSICAL LEIMMA"]⟩,
  ⟨0x1d2e0, ["MAYAN NUMERAL ZEROeONEdTWOcHREEfFOURdIVEeSIXcEVENfEIGHTfNINEeTENdELEVENgTWELVE",
    "fHIRTEENiFOURTEENhIFTEENhSIXTEENgEVENTEENjEIGHTEENiNINETEEN"]⟩,
  ⟨0x1d300, ["MONOGRAM FOR EARTHsDIGRAM FOR HEAVENLY EARTHnUMAN EARTHlEARTHLY HEAVENfUMANjH",
    "qTETRAGRAM FOR CENTREgFULL CIRCLElMIREDfBARRIERhKEEPING SMALLnCONTRARIETYlASCENTgOPPOSITION",
    "kBRANCHING OUTnDEFECTIVENESS OR DISTORTIONzbIVERGENCEkYOUTHFULNESSmINCREASEiPENETRATIONlREACH",
    "fCONTACThHOLDING BACKmWAITINGhFOLLOWINGjADVANCEhRELEASEfSISTANCEkEASEeJOYdCONTENTION",
    "kENDEAVOURjDUTIESgCHANGEgDECISIVENESSmBOLD RESOLUTIONpPACKINGhLEGIONgCLOSENESSjKINSHIP",
    "hGATHERINGjSTRENGTHiPURITYgFULLNESSiRESIDENCEjLAW OR MODELmRESPONSEiGOING TO MEETnENCOUNTERS",
    "kSTOVEfGREATNESSjENLARGEMENTlPATTERNhRITUALgFLIGHTgVASTNESS OR WASTINGtCONSTANCYjMEASURE",
    "hETERNITYiUNITYfDIMINISHMENTmCLOSED MOUTHmGUARDEDNESSkATHERING INmMASSINGhACCUMULATION",
    "mEMBELLISHMENTnDOUBTfWATCHfSINKINGhINNERfDEPARTUREiARKENINGiIMMINGhEXHAUSTIONkSEVERANCE",
    "iTOPPAGEiHARDNESSiCOMPLETIONjLOSUREhFAILUREhAGGRAVATIONlCOMPLIANCEkON THE VERGEmDIFFICULTIES",
    "mLABOURINGjFOSTERING"]⟩,
  ⟨0x1d360, ["COUNTING ROD UNIT DIGIT ONEdTWOcHREEfFOURdIVEeSIXcEVENfEIGHTfNINEpTENS DIGIT ONEdTWO",
    "cHREEfFOURdIVEeSIXcEVENfEIGHTfNINEzdIDEOGRAPHIC TALLY MARK ONEdTWOcHREEfFOURdIVE",
    "zcTALLY MARK ONEdFIVE"]⟩,
  ⟨0x1d400, ["MATHEMATICAL BOLD CAPITAL AbBbCbDbEbFbGbHbIbJbKbLbMbNbObPbQbRbSbTbUbVbWbXbYbZ",
    "jSMALL AbBbCbDbEbFbGbHbIbJbKbLbMbNbObPbQbRbSbTbUbVbWbXbYbZmITALIC CAPITAL AbBbCbDbEbFbGbHbIbJ",
    "bKbLbMbNbObPbQbRbSbTbUbVbWbXbYbZjSMALL AbBbCbDbEbFbG"]⟩,
  ⟨0x1d456, ["MATHEMATICAL ITALIC SMALL IbJbKbLbMbNbObPbQbRbSbTbUbVbWbXbYbZoBOLD ITALIC CAPITAL A",
    "bBbCbDbEbFbGbHbIbJbKbLbMbNbObPbQbRbSbTbUbVbWbXbYbZjSMALL AbBbCbDbEbFbGbHbIbJbKbLbMbNbObPbQbR",
    "bSbTbUbVbWbXbYbZtSCRIPT CAPITAL A"]⟩,
  ⟨0x1d49e, ["MATHEMATICAL SCRIPT CAPITAL CbD"]⟩,
  ⟨0x1d4a2, ["MATHEMATICAL SCRIPT CAPITAL G"]⟩,
  ⟨0x1d4a5, ["MATHEMATICAL SCRIPT CAPITAL JbK"]⟩,
  ⟨0x1d4a9, ["MATHEMATICAL SCRIPT CAPITAL NbObPbQ"]⟩,
  ⟨0x1d4ae, ["MATHEMATICAL SCRIPT CAPITAL SbTbUbVbWbXbYbZjSMALL AbBbCbD"]⟩,
  ⟨0x1d4bb, ["MATHEMATICAL SCRIPT SMALL F"]⟩,
  ⟨0x1d4bd, ["MATHEMATICAL SCRIPT SMALL HbIbJbKbLbMbN"]⟩,
  ⟨0x1d4c5, ["MATHEMATICAL SCRIPT SMALL PbQbRbSbTbUbVbWbXbYbZoBOLD SCRIPT CAPITAL AbBbCbDbEbFbGbH",
    "bIbJbKbLbMbNbObPbQbRbSbTbUbVbWbXbYbZjSMALL AbBbCbDbEbFbGbHbIbJbKbLbMbNbObPbQbRbSbTbUbVbWbXbY",
    "bZtFRAKTUR CAPITAL AbB"]⟩,
  ⟨0x1d507, ["MATHEMATICAL FRAKTUR CAPITAL DbEbFbG"]⟩,
  ⟨0x1d50d, ["MATHEMATICAL FRAKTUR CAPITAL JbKbLbMbNbObPbQ"]⟩,
  ⟨0x1d516, ["MATHEMATICAL FRAKTUR CAPITAL SbTbUbVbWbXbY"]⟩,
  ⟨0x1d51e, ["MATHEMATICAL FRAKTUR SMALL AbBbCbDbEbFbGbHbIbJbKbLbMbNbObPbQbRbSbTbUbVbWbXbYbZ",
    "pDOUBLE-STRUCK CAPITAL AbB"]⟩,
  ⟨0x1d53b, ["MATHEMATICAL DOUBLE-STRUCK CAPITAL DbEbFbG"]⟩,
  ⟨0x1d540, ["MATHEMATICAL DOUBLE-STRUCK CAPITAL IbJbKbLbM"]⟩,
  ⟨0x1d546, ["MATHEMATICAL DOUBLE-STRUCK CAPITAL O"]⟩,
  ⟨0x1d54a, ["MATHEMATICAL DOUBLE-STRUCK CAPITAL SbTbUbVbWbXbY"]⟩,
  ⟨0x1d552, ["MATHEMATICAL DOUBLE-STRUCK SMALL AbBbCbDbEbFbGbHbIbJbKbLbMbNbObPbQbRbSbTbUbVbWbXbYbZ",
    "vBOLD FRAKTUR CAPITAL AbBbCbDbEbFbGbHbIbJbKbLbMbNbObPbQbRbSbTbUbVbWbXbYbZjSMALL AbBbCbDbEbFbG",
    "bHbIbJbKbLbMbNbObPbQbRbSbTbUbVbWbXbYbZuSANS-SERIF CAPITAL AbBbCbDbEbFbGbHbIbJbKbLbMbNbObPbQbR",
    "bSbTbUbVbWbXbYbZjSMALL AbBbCbDbEbFbGbHbIbJbKbLbMbNbObPbQbRbSbTbUbVbWbXbYbZhBOLD CAPITAL AbBbC",
    "bDbEbFbGbHbIbJbKbLbMbNbObPbQbRbSbTbUbVbWbXbYbZjSMALL AbBbCbDbEbFbGbHbIbJbKbLbMbNbObPbQbRbSbT",
    "bUbVbWbXbYbZmITALIC CAPITAL AbBbCbDbEbFbGbHbIbJbKbLbMbNbObPbQbRbSbTbUbVbWbXbYbZjSMALL AbBbCbD",
    "bEbFbGbHbIbJbKbLbMbNbObPbQbRbSbTbUbVbWbXbYbZoBOLD ITALIC CAPITAL AbBbCbDbEbFbGbHbIbJbKbLbMbN",
    "bObPbQbRbSbTbUbVbWbXbYbZjSMALL AbBbCbDbEbFbGbHbIbJbKbLbMbNbObPbQbRbSbTbUbVbWbXbYbZ",
    "zfMONOSPACE CAPITAL AbBbCbDbEbFbGbHbIbJbKbLbMbNbObPbQbRbSbTbUbVbWbXbYbZjSMALL AbBbCbDbEbFbGbH",
    "bIbJbKbLbMbNbObPbQbRbSbTbUbVbWbXbYbZrITALIC SMALL DOTLESS IbJ"]⟩,
  ⟨0x1d6a8, ["MATHEMATICAL BOLD CAPITAL ALPHAfBETAeGAMMAfDELTAfEPSILONhZETAeETAdTHETAfIOTAeKAPPA",
    "fLAMDAfMUcNUcXIcOMICRONhPIcRHOdTHETA SYMBOLmSIGMAfTAUdUPSILONhPHIdCHIdPSIdOMEGAnNABLA",
    "fSMALL ALPHAfBETAeGAMMAfDELTAfEPSILONhZETAeETAdTHETAfIOTAeKAPPAfLAMDAfMUcNUcXIcOMICRONhPIcRHO",
    "dFINAL SIGMAlSIGMAfTAUdUPSILONhPHIdCHIdPSIdOMEGAlPARTIAL DIFFERENTIALuEPSILON SYMBOL",
    "oTHETA SYMBOLmKAPPA SYMBOLmPHI SYMBOLkRHO SYMBOLkPI SYMBOLoITALIC CAPITAL ALPHAfBETAeGAMMA",
    "fDELTAfEPSILONhZETAeETAdTHETAfIOTAeKAPPAfLAMDAfMUcNUcXIcOMICRONhPIcRHOdTHETA SYMBOLmSIGMAfTAU",
    "dUPSILONhPHIdCHIdPSIdOMEGAnNABLAfSMALL ALPHAfBETAeGAMMAfDELTAfEPSILONhZETAeETAdTHETAfIOTA",
    "eKAPPAfLAMDAfMUcNUcXIcOMICRONhPIcRHOdFINAL SIGMAlSIGMAfTAUdUPSILONhPHIdCHIdPSIdOMEGA",
    "lPARTIAL DIFFERENTIALuEPSILON SYMBOLoTHETA SYMBOLmKAPPA SYMBOLmPHI SYMBOLkRHO SYMBOL",
    "kPI SYMBOLqBOLD ITALIC CAPITAL ALPHAfBETAeGAMMAfDELTAfEPSILONhZETAeETAdTHETAfIOTAeKAPPAfLAMDA",
    "fMUcNUcXIcOMICRONhPIcRHOdTHETA SYMBOLmSIGMAfTAUdUPSILONhPHIdCHIdPSIdOMEGAnNABLAfSMALL ALPHA",
    "fBETAeGAMMAfDELTAfEPSILONhZETAeETAdTHETAfIOTAeKAPPAfLAMDAfMUcNUcXIcOMICRONhPIcRHOdFINAL SIGMA",
    "lSIGMAfTAUdUPSILONhPHIdCHIdPSIdOMEGAlPARTIAL DIFFERENTIALuEPSILON SYMBOLoTHETA SYMBOL",
    "mKAPPA SYMBOLmPHI SYMBOLkRHO SYMBOLkPI SYMBOLvSANS-SERIF BOLD CAPITAL ALPHAfBETAeGAMMAfDELTA",
    "fEPSILONhZETAeETAdTHETAfIOTAeKAPPAfLAMDAfMUcNUcXIcOMICRONhPIcRHOdTHETA SYMBOLmSIGMAfTAU",
    "dUPSILONhPHIdCHIdPSIdOMEGAnNABLAfSMALL ALPHAfBETAeGAMMAfDELTAfEPSILONhZETAeETAdTHETAfIOTA",
    "eKAPPAfLAMDAfMUcNUcXIcOMICRONhPIcRHOdFINAL SIGMAlSIGMAfTAUdUPSILONhPHIdCHIdPSIdOMEGA",
    "lPARTIAL DIFFERENTIALuEPSILON SYMBOLoTHETA SYMBOLmKAPPA SYMBOLmPHI SYMBOLkRHO SYMBOL",
    "kPI SYMBOLjITALIC CAPITAL ALPHAfBETAeGAMMAfDELTAfEPSILONhZETAeETAdTHETAfIOTAeKAPPAfLAMDAfMU",
    "cNUcXIcOMICRONhPIcRHOdTHETA SYMBOLmSIGMAfTAUdUPSILONhPHIdCHIdPSIdOMEGAnNABLAfSMALL ALPHAfBETA",
    "eGAMMAfDELTAfEPSILONhZETAeETAdTHETAfIOTAeKAPPAfLAMDAfMUcNUcXIcOMICRONhPIcRHOdFINAL SIGMA",
    "lSIGMAfTAUdUPSILONhPHIdCHIdPSIdOMEGAlPARTIAL DIFFERENTIALuEPSILON SYMBOLoTHETA SYMBOL",
    "mKAPPA SYMBOLmPHI SYMBOLkRHO SYMBOLkPI SYMBOLzhBOLD CAPITAL DIGAMMApSMALL DIGAMMA"]⟩,
  ⟨0x1d7ce, ["MATHEMATICAL BOLD DIGIT ZEROeONEdTWOcHREEfFOURdIVEeSIXcEVENfEIGHTfNINE",
    "pDOUBLE-STRUCK DIGIT ZEROeONEdTWOcHREEfFOURdIVEeSIXcEVENfEIGHTfNINEySANS-SERIF DIGIT ZEROeONE",
    "dTWOcHREEfFOURdIVEeSIXcEVENfEIGHTfNINEkBOLD DIGIT ZEROeONEdTWOcHREEfFOURdIVEeSIXcEVENfEIGHT",
    "fNINEzbMONOSPACE DIGIT ZEROeONEdTWOcHREEfFOURdIVEeSIXcEVENfEIGHTfNINE",
    "ziSIGNWRITING HAND-FIST INDEXkCIRCLE INDEXlUP INDEXjOVAL INDEXkHINGE INDEXlANGLE INDEX",
    "lFIST INDEX BENTpCIRCLE INDEX BENTrFIST THUMB UNDER INDEX BENTwINDEX RAISED KNUCKLEoCUPPED",
    "gHINGEDa LOWvCIRCLE INDEX HINGEsFIST INDEX MIDDLErCIRCLE INDEX MIDDLEtFIST INDEX MIDDLE BENT",
    "eRAISED KNUCKLESpHINGEDnUP MIDDLE HINGEDqHINGED MIDDLE UPqMIDDLE CONJOINEDa INDEX BENT",
    "kMIDDLE BENTlCUPPEDgHINGEDpROSSEDzCIRCLE INDEX MIDDLE CROSSEDzcFIST MIDDLE BENT OVER INDEX",
    "wINDEX BENT OVER MIDDLEqMIDDLE THUMBxCIRCLE INDEX MIDDLE THUMB",
    "zFIST INDEX MIDDLE STRAIGHT THUMB BENTtBENT THUMB STRAIGHTtTHUMB BENT",
    "kHINGED SPREAD THUMB SIDEzgUP MIDDLE HINGED THUMB SIDEeCONJOINEDzhHINGED MIDDLE UP THUMB SIDE",
    "zcMIDDLE UP SPREAD THUMB FORWARDxTHUMB CUPPEDfIRCLEDhHOOKEDfINGED",
    "zTHUMB BETWEEN INDEX MIDDLE STRAIGHTzkINDEX MIDDLE CONJOINED THUMB SIDEa CONJOINEDjBENT",
    "znMIDDLE THUMB HOOKED INDEX UPzdINDEX THUMB HOOKED MIDDLE UP",
    "wMIDDLE CONJOINED HINGED THUMB SIDEzbROSSED THUMB SIDErONJOINED THUMB FORWARD",
    "nCUPPED THUMB FORWARDzsMIDDLE THUMB CUPPED INDEX UPzdINDEX THUMB CUPPED MIDDLE UP",
    "zdMIDDLE THUMB CIRCLED INDEX UPcHINGEDziINDEX THUMB ANGLED OUT MIDDLE UPnIN MIDDLE UP",
    "tCIRCLED MIDDLE UPxMIDDLE THUMB CONJOINED HINGEDqANGLED OUTfD",
    "zMIDDLE THUMB ANGLED OUT INDEX UPcCROSSEDrINDEX UPzdINDEX THUMB HOOKED MIDDLE HINGED",
    "zlLAT FOUR FINGERSa BENTeHINGEDgCONJOINEDa SPLITziCLAW FOUR FINGERS CONJOINED",
    "zcFIST FOUR FINGERS CONJOINED BENTzhHINGE FOUR FINGERS CONJOINEDzdFLAT FIVE FINGERS SPREAD",
    "tHEEL FIVE FINGERS SPREADyFIVE FINGERS SPREAD FOUR BENTzeHEEL FIVE FINGERS SPREAD FOUR BENT",
    "zjFIVE FINGERS SPREAD BENTyHEEL FIVE FINGERS SPREAD BENTzeFIVE FINGERS SPREAD THUMB FORWARD",
    "znCUP FIVE FINGERS SPREADa OPENzdHINGE FIVE FINGERS SPREAD OPENzfOVAL FIVE FINGERS SPREAD",
    "yFLAT FIVE FINGERS SPREAD HINGEDa THUMB SIDEkNO THUMBzmTa BETWEEN PALM FACINGSuHEEL",
    "eTHUMB SIDEkHEEL THUMB SIDEpTHUMB BENTeFORWARDnSPLIT INDEX THUMB SIDEqCENTREa THUMB SIDE",
    "a BENTwLITTLErCLAWa THUMB SIDEkNO THUMBiTHUMB FORWARDsHOOK CURLICUEkKeCUP OPENgP",
    "a OPEN THUMB SIDEpTHUMB SIDEkOPEN NO THUMBnNO THUMBiOPEN THUMB FORWARDsTHUMB FORWARD",
    "pRLICUE OPENgEhIRCLEgOVALa THUMB SIDEkNO THUMBiTHUMB FORWARDsHINGE OPENa THUMB FORWARDuE",
    "a SMALLfOPEN THUMB SIDEpTHUMB SIDEkOPEN NO THUMBnNO THUMBiTHUMB SIDE TOUCHING INDEX",
    "tBETWEEN MIDDLE RINGzgANGLEfFIST INDEX MIDDLE RINGwCIRCLE INDEX MIDDLE RING",
    "yHINGE INDEX MIDDLE RINGxANGLE INDEX MIDDLE RINGxHINGE LITTLEmFIST INDEX MIDDLE RING BENT",
    "eCONJOINEDzhHINGE INDEX MIDDLE RING CONJOINEDziFIST LITTLE DOWNa RIPPLE STRAIGHTiCURVED",
    "nOTHERS CIRCLEDtUPjTHUMB UNDER LITTLE UPzbCIRCLE LITTLE UPqOVAL LITTLE UPoANGLE LITTLE UP",
    "pFIST LITTLE RAISED KNUCKLEoBENTeTOUCHES THUMBmHUMBrHINGE LITTLE THUMB",
    "sFIST LITTLE INDEX THUMBxHINGE LITTLE INDEX THUMByANGLE LITTLE INDEX THUMB INDEX THUMB OUTfB",
    "zlFIST LITTLE INDEXrCIRCLE LITTLE INDEXtHINGE LITTLE INDEXsANGLE LITTLE INDEX",
    "sFIST INDEX MIDDLE LITTLEyCIRCLE INDEX MIDDLE LITTLEzbHINGE INDEX MIDDLE LITTLEtRING",
    "kANGLE INDEX MIDDLE LITTLEzFIST INDEX MIDDLE CROSS LITTLEzfCIRCLE INDEX MIDDLE CROSS LITTLE",
    "zhFIST RING DOWNoHINGE RING DOWN INDEX THUMB HOOK MIDDLE",
    "zoANGLE RING DOWN MIDDLE THUMB INDEX CROSSzpFIST RING UPcRAISED KNUCKLEoLITTLE",
    "qCIRCLE RING LITTLEsOVAL RING LITTLEqANGLE RING LITTLErFIST RING MIDDLEa CONJOINED",
    "jRAISED KNUCKLESwINDEXfTHUMBpHOOK RING THUMBpFIST INDEX RING LITTLEwCIRCLE INDEX RING LITTLE",
    "xURLICUE INDEX RING LITTLE ONzeHOOK INDEX RING LITTLE OUTdINcUNDERzdCUP INDEX RING LITTLE",
    "vHINGE INDEX RING LITTLExANGLE INDEX RING LITTLE OUTfExFIST MIDDLE DOWNqHINGE MIDDLE",
    "mFIST MIDDLE UPoCIRCLE MIDDLE UPqFIST MIDDLE RAISED KNUCKLEoUP THUMB SIDEzHOOK MIDDLE THUMB",
    "rFIST MIDDLE THUMB LITTLEmLITTLEgRING LITTLExCIRCLE MIDDLE RING LITTLE",
    "yURLICUE MIDDLE RING LITTLE ONzdP MIDDLE RING LITTLEwHINGE MIDDLE RING LITTLE",
    "yANGLE MIDDLE RING LITTLE OUTdINeEyCIRCLE MIDDLE RING LITTLE BENT",
    "zeLAW MIDDLE RING LITTLE CONJOINEDa SIDEznHOOK MIDDLE RING LITTLE CONJOINED OUTdINeD",
    "zhINGE INDEX HINGEDsFIST INDEX THUMB SIDEvHINGE INDEX THUMB SIDE",
    "wFIST INDEX THUMB SIDE THUMB DIAGONALiCONJOINEDjBENTkINDEX BENTkBOTH BENTjINDEX HINGE",
    "qFORWARD INDEX STRAIGHTiBENTsHOOKeCURLICUEfVE THUMB INSIDE",
    "zkCLAW INDEX THUMB CURVE THUMB INSIDEzkFIST INDEX THUMB CURVE THUMB UNDERqIRCLE",
    "xCUP INDEX THUMBa OPENuHINGE INDEX THUMB OPENeLARGEhBa SMALLxANGLE INDEX THUMB OUTdINeB",
    "rFIST THUMBa HEELeSIDE DIAGONALiCONJOINEDjBENTjFORWARDhBETWEEN INDEX MIDDLEmMIDDLE RING",
    "lRING LITTLEtUNDER TWO FINGERSrOVER TWO FINGERSqUNDER THREE FINGERSnFOUR FINGERS",
    "sOVER FOUR RAISED KNUCKLESziTa HEELoTOUCH SINGLEgMULTIPLEiBETWEENnGRASP SINGLEgMULTIPLE",
    "iBETWEENnSTRIKE SINGLEgMULTIPLEiBETWEENoBRUSH SINGLEgMULTIPLEiBETWEENnRUB SINGLEgMULTIPLE",
    "iBETWEENlSURFACE SYMBOLShBETWEENoQUEEZE LARGE SINGLEmSMALL SINGLEmLARGE MULTIPLE",
    "oSMALL MULTIPLEnEQUENTIALsFLICK LARGE SINGLEmSMALL SINGLEmLARGE MULTIPLEoSMALL MULTIPLE",
    "nEQUENTIALqSQUEEZE FLICK ALTERNATINGzMOVEMENT-HINGE UP DOWN LARGEfSMALLkSEQUENTIAL",
    "nDOWN SEQUENTIALpUP DOWN ALTERNATING LARGEfSMALLzSIDE TO SIDE SCISSORS",
    "zcWALLPLANE FINGER CONTACTyFLOORPLANE FINGER CONTACTzWALLPLANE SINGLE STRAIGHT SMALLfMEDIUM",
    "gLARGEaSTqWRIST FLEXrDOUBLE STRAIGHTiWRIST FLEXkALTERNATINGa WRIST FLEXzeCROSS",
    "fTRIPLE STRAIGHT MOVEMENTrWRIST FLEXkALTERNATINGa WRIST FLEXzeBEND SMALLfMEDIUMgLARGE",
    "kCORNER SMALLfMEDIUMgLARGEfROTATIONoHECK SMALLfMEDIUMgLARGElBOX SMALLfMEDIUMgLARGE",
    "jZIGZAG SMALLfMEDIUMgLARGEmPEAKS SMALLfMEDIUMgLARGE",
    "zfTRAVEL-WALLPLANE ROTATION-WALLPLANE SINGLEgDOUBLEgALTERNATINGvFLOORPLANE SINGLEgDOUBLE",
    "gALTERNATINGzgSHAKINGhARM SPIRAL SINGLEgDOUBLEgTRIPLEzjMOVEMENT-DIAGONAL AWAY SMALLfMEDIUM",
    "gLARGEaSTmTOWARDS SMALLfMEDIUMgLARGEaSTpBETWEEN AWAY SMALLfMEDIUMgLARGEaSTmTOWARDS SMALL",
    "fMEDIUMgLARGEaSTzhFLOORPLANE SINGLE STRAIGHT SMALLfMEDIUMgLARGEaSTqWRIST FLEXrDOUBLE STRAIGHT",
    "iWRIST FLEXkALTERNATINGa WRIST FLEXzeCROSSfTRIPLE STRAIGHT MOVEMENTrWRIST FLEX",
    "kALTERNATING MOVEMENTiWRIST FLEXzeBENDeCORNER SMALLfMEDIUMgLARGElHECKfBOX SMALLfMEDIUMgLARGE",
    "jZIGZAG SMALLfMEDIUMgLARGEmPEAKS SMALLfMEDIUMgLARGE",
    "zgTRAVEL-FLOORPLANE ROTATION-FLOORPLANE SINGLEgDOUBLEgALTERNATINGwWALLPLANE SINGLEgDOUBLE",
    "gALTERNATINGzfSHAKINGzMOVEMENT-WALLPLANE CURVE QUARTER SMALLfMEDIUMgLARGEaST",
    "pHALF-CIRCLE SMALLfMEDIUMgLARGEaSTtTHREE-QUARTER CIRCLE SMALLfMEDIUMziHUMP SMALLfMEDIUMgLARGE",
    "kLOOP SMALLfMEDIUMgLARGEfSMALL DOUBLErWAVE CURVE DOUBLE SMALLfMEDIUMgLARGEmTRIPLE SMALL",
    "fMEDIUMgLARGExCURVE THEN STRAIGHToD CROSS SMALLfMEDIUMznROTATION-WALLPLANE SINGLEgDOUBLE",
    "gALTERNATEzdMOVEMENT-WALLPLANE SHAKINGhCURVE HITTING FRONT WALLyHUMP HITTING FRONT WALL",
    "xLOOP HITTING FRONT WALLxWAVE HITTING FRONT WALL",
    "zrROTATION-WALLPLANE SINGLE HITTING FRONT WALLzDOUBLE HITTING FRONT WALL",
    "zALTERNATING HITTING FRONT WALLzyMOVEMENT-WALLPLANE CURVE HITTING CHESTtHUMP HITTING CHEST",
    "sLOOP HITTING CHESTsWAVE HITTING CHESTzmROTATION-WALLPLANE SINGLE HITTING CHEST",
    "uDOUBLE HITTING CHESTuALTERNATING HITTING CHESTztMOVEMENT-WALLPLANE WAVE DIAGONAL PATH SMALL",
    "fMEDIUMgLARGEzjFLOORPLANE CURVE HITTING CEILING SMALLfLARGE",
    "zcHUMP HITTING CEILING SMALL DOUBLEmLARGE DOUBLEmSMALL TRIPLEmLARGE TRIPLE",
    "ziLOOP HITTING CEILING SMALL SINGLEmLARGE SINGLEmSMALL DOUBLEmLARGE DOUBLE",
    "ziWAVE HITTING CEILING SMALLfLARGEzvROTATION-FLOORPLANE SINGLE HITTING CEILING",
    "wDOUBLE HITTING CEILINGwALTERNATING HITTING CEILING",
    "zwMOVEMENT-FLOORPLANE CURVE HITTING FLOOR SMALLfLARGEzHUMP HITTING FLOOR SMALL DOUBLE",
    "mLARGE DOUBLEmTRIPLE SMALL TRIPLEmLARGE TRIPLEznLOOP HITTING FLOOR SMALL SINGLEmLARGE SINGLE",
    "mSMALL DOUBLEmLARGE DOUBLEzgWAVE HITTING FLOOR SMALLfLARGE",
    "ztROTATION-FLOORPLANE SINGLE HITTING FLOORuDOUBLE HITTING FLOORuALTERNATING HITTING FLOOR",
    "zuMOVEMENT-FLOORPLANE CURVE SMALLfMEDIUMgLARGEaSThCOMBINEDoHUMP SMALLkLOOP SMALLkWAVE SNAKE",
    "eMALLfLARGEzfROTATION-FLOORPLANE SINGLEgDOUBLEgALTERNATING",
    "zgMOVEMENT-FLOORPLANE SHAKING PARALLELzcWALLPLANE ARM CIRCLE SMALL SINGLEmMEDIUM SINGLE",
    "nSMALL DOUBLEmMEDIUM DOUBLEzjFLOORPLANE ARM CIRCLE HITTING WALL SMALL SINGLEmMEDIUM SINGLE",
    "nLARGE SINGLEmSMALL DOUBLEmMEDIUM DOUBLEnLARGE DOUBLEzwWALLPLANE WRIST CIRCLE FRONT SINGLE",
    "gDOUBLEzkFLOORPLANE WRIST CIRCLE HITTING WALL SINGLEgDOUBLEzsWALLPLANE FINGER CIRCLES SINGLE",
    "gDOUBLEzgFLOORPLANE FINGER CIRCLES HITTING WALL SINGLEgDOUBLEzzeDYNAMIC ARROWHEAD SMALLfLARGE",
    "pFASTeSLOWeTENSEfRELAXEDhSIMULTANEOUSa ALTERNATINGyEVERY OTHER TIMEqGRADUALpHEADa RIM",
    "dMOVEMENT-WALLPLANE STRAIGHTiTILToFLOORPLANE STRAIGHTtWALLPLANE CURVEpFLOORPLANE CURVE",
    "r CIRCLEuFACE DIRECTION POSITION NOSE FORWARD TILTINGpUP OR DOWNa TILTING",
    "zwEYEBROWS STRAIGHT UPcNEUTRALhDOWNwDREAMY EYEBROWS NEUTRAL DOWNmDOWN NEUTRALmUP NEUTRAL",
    "kNEUTRAL UPzbFOREHEAD NEUTRALhCONTACThWRINKLEDrEYES OPENeSQUEEZEDiCLOSEDi BLINK SINGLE",
    "gMULTIPLEpS HALF OPENjWIDE OPENjHALF CLOSEDlWIDENING MOVEMENTt WINKfLASHES UPcDOWNeFLUTTERING",
    "rGAZE-WALLPLANE STRAIGHTa DOUBLEgALTERNATINGzfFLOORPLANE STRAIGHTa DOUBLEgALTERNATING",
    "zgWALLPLANE CURVEDqFLOORPLANE CURVEDrWALLPLANE CIRCLINGzbCHEEKS PUFFEDgNEUTRALhSUCKED",
    "nTENSE CHEEKS HIGHeMIDDLEgLOWqEARSeNOSE NEUTRALhCONTACThWRINKLEShIGGLESmAIR BLOWING OUT",
    "lSUCKING INkBLOW SMALL ROTATIONSuSUCK SMALL ROTATIONSyBREATH INHALEgEXHALE",
    "nMOUTH CLOSED NEUTRALhFORWARDhCONTACToSMILEa WRINKLEDiOPENkFROWNa WRINKLEDiOPENkOPEN CIRCLE",
    "gFORWARDhWRINKLEDiOVALa WRINKLEDiYAWNjRECTANGLEa WRINKLEDiYAWNtKISSa FORWARDhWRINKLEDnTENSE",
    "a FORWARDhSUCKEDsLIPS PRESSED TOGETHERs LOWER OVER UPPERqUPPER OVER LOWERuMOUTH CORNERS",
    "hWRINKLES SINGLEgDOUBLEvTONGUE STICKING OUT FARqLICKING LIPSmTIP BETWEEN LIPS",
    "mTOUCHING INSIDE MOUTHzINSIDE MOUTH RELAXEDuMOVES AGAINST CHEEKtCENTRE STICKING OUT",
    "mINSIDE MOUTHzEETHa MOVEMENTiON TONGUEa MOVEMENTpLIPSa MOVEMENTqBITE LIPS",
    "pMOVEMENT-WALLPLANE JAWnFLOORPLANE JAWxNECKeHAIReEXCITEMENTkSHOULDER HIP SPINEfPOSITIONS",
    "wWALLPLANE SHOULDER HIP MOVEzcFLOORPLANE SHOULDER HIP MOVEzdSHOULDER TILTING FROM WAIST",
    "zcTORSO-WALLPLANE STRAIGHT STRETCHqCURVED BENDvFLOORPLANE TWISTING",
    "zUPPER BODY TILTING FROM HIP JOINTSzjLIMB COMBINATIONlLENGTH-1b2b3b4b5b6b7nFINGER",
    "gLOCATION-WALLPLANE SPACEpFLOORPLANE SPACEr HEIGHTgWIDTHfDEPTHfHEAD NECKjTORSOfLIMBS DIGITS",
    "vCOMMAfFULL STOPjSEMICOLONjCOLONfPARENTHESIS"]⟩,
  ⟨0x1da9b, ["SIGNWRITING FILL MODIFIER-2b3b4b5b6"]⟩,
  ⟨0x1daa1, ["SIGNWRITING ROTATION MODIFIER-2b3b4b5b6b7b8b9b10b1b2b3b4b5b6"]⟩,
  ⟨0x1df00, ["LATIN SMALL LETTER FENG DIGRAPH WITH TRILLxREVERSED SCRIPT G",
    "zfLETTER SMALL CAPITAL TURNED GzeSMALL LETTER REVERSED KxLETTER SMALL CAPITAL L WITH BELT",
    "zhSMALL LETTER LEZH WITH RETROFLEX HOOKyTURNED Y WITH BELTsREVERSED ENG",
    "mTURNED R WITH LONG LEG AND RETROFLEX HOOKzp WITH HOOK AND RETROFLEX HOOK",
    "zsLETTER RETROFLEX CLICK WITH RETROFLEX HOOKzrSMALL LETTER ESH WITH DOUBLE BARa AND CURL",
    "zdTURNED T WITH CURLzgLETTER INVERTED GLOTTAL STOP WITH CURLzgSTRETCHED C WITH CURL",
    "uMALL CAPITAL TURNED KzeSMALL LETTER L WITH FISHHOOKpDEZH DIGRAPH WITH PALATAL HOOK",
    "zfL WITH BELT AND PALATAL HOOKzdENG WITH PALATAL HOOKvTURNED R WITH PALATAL HOOK",
    "zbR WITH FISHHOOK AND PALATAL HOOKzhTESH DIGRAPH WITH PALATAL HOOKzfEZH WITH PALATAL HOOK",
    "vDEZH DIGRAPH WITH RETROFLEX HOOKzhI WITH STROKE AND RETROFLEX HOOKzhO WITH RETROFLEX HOOK",
    "vTESH DIGRAPH WITH RETROFLEX HOOKzhC WITH RETROFLEX HOOKvS WITH CURL"]⟩,
  ⟨0x1e000, ["COMBINING GLAGOLITIC LETTER AZUdBUKYeVEDEeGLAGOLIhDOBROfYESTUfZHIVETE"]⟩,
  ⟨0x1e008, ["COMBINING GLAGOLITIC LETTER ZEMLJAgIZHEdNITIAL IZHEmIbDJERVIgKAKOeLJUDIJEhMYSLITE",
    "hNASHIfONUdPOKOJIgRITSIfSLOVOfTVRIDOgUKUdFRITUfHERU"]⟩,
  ⟨0x1e01b, ["COMBINING GLAGOLITIC LETTER SHTAeTSIdCHRIVIgSHAdYERUbIdATI"]⟩,
  ⟨0x1e023, ["COMBINING GLAGOLITIC LETTER YUcSMALL YUS"]⟩,
  ⟨0x1e026, ["COMBINING GLAGOLITIC LETTER YOcIOTATED SMALL YUSrBIG YUShIOTATED BIG YUSpFITA"]⟩,
  ⟨0x1e100, ["NYIAKENG PUACHUE HMONG LETTER MAcTSAdNTAdTAcHAcNAcXAcNKAdCAcLAcSAcZAcNCAcTSAeKAcDA",
    "cNYAcRAdVAcNTXAeTXAdFAcRAcQAcYAcNQAdPAcXYAdNPAdDLAdNPLAeHAHdMLAdPLAdGAcRRAdAaAcIbUbOaOcEaE",
    "cW"]⟩,
  ⟨0x1e130, ["NYIAKENG PUACHUE HMONG TONE-BbMbJbVbSbGbDgSIGN FOR PERSONgTHINGfLOCATIONiANIMAL",
    "gINVERTEBRATEqXW XWjYLLABLE LENGTHENER"]⟩,
  ⟨0x1e140, ["NYIAKENG PUACHUE HMONG DIGIT ZEROeONEdTWOcHREEfFOURdIVEeSIXcEVENfEIGHTfNINE"]⟩,
  ⟨0x1e14e, ["NYIAKENG PUACHUE HMONG LOGOGRAM NYAJnCIRCLED CA"]⟩,
  ⟨0x1e290, ["TOTO LETTER PAcBAcTAcDAcKAcGAcMAcNAbGAdSAcCHAdYAcWAcJAcHAcRAcLAcIbBREATHY IjIU",
    "cBREATHY IUkUbEbBREATHY EjEOcBREATHY EOkObAEcBREATHY AEkAiSIGN RISING TONE"]⟩,
  ⟨0x1e2c0, ["WANCHO LETTER AAcAbBAcCAcDAcGAcYAcPHAdLAcNAcPAcTAbHAdFAcSAbHAdJAcZAcWAcVAcKAcObAUcRA",
    "cMAcKHAdHAcEbIbNGAdUbLLHAeTSAcRAdONGdAANGdNGdINGdONcENcAANdNYAdUENdYIHkTONE TUPaNIfKOIaNI",
    "kDIGIT ZEROeONEdTWOcHREEfFOURdIVEeSIXcEVENfEIGHTfNINE"]⟩,
  ⟨0x1e2ff, ["WANCHO NGUN SIGN"]⟩,
  ⟨0x1e7e0, ["ETHIOPIC SYLLABLE HHYAbUbIbAAcEEcEbO"]⟩,
  ⟨0x1e7e8, ["ETHIOPIC SYLLABLE GURAGE HHWAlHHWIbEEcE"]⟩,
  ⟨0x1e7ed, ["ETHIOPIC SYLLABLE GURAGE MWIbEE"]⟩,
  ⟨0x1e7f0, ["ETHIOPIC SYLLABLE GURAGE QWIbEEcEdBWIbEEeKWIbEEcEdGWIbEEcEdFWIbEEePWIbEE"]⟩,
  ⟨0x1e800, ["MENDE KIKAKUI SYLLABLE M001 KIe2 KAe3 KUf65 KEEg95 KEf76 KOOg48 KOg179 KUAh004 WI",
    "e5 WAe6 WUg126 WEEg18 WEe4 WOOh045 WOg194 WUIg43 WEIh061 WVIg49 WVAh139 WVEh007 MINf8 MAN",
    "f9 MUNg59 MENg94 MONh154 MUANh89 MUENi010 BIe1 BAe2 BUg150 BEEh097 BEg103 BOOg38 BOg013 Id4 A",
    "d5 Uf163 EEf00 Ee65 OOf47 Oe37 EIe1 INe5 INf95 ANf78 ENg019 SIf20 SAe1 SUg162 SEEg16 SE",
    "f36 SOOh079 SOg196 SIAh025 LIe6 LAe7 LUf84 LEEg73 LEf54 LOOh153 LOf10 LONG LEl016 DIe7 DA",
    "e8 DUf89 DEEh180 DOOf1 DOg022 TIe3 TAe4 TUf91 TEEg55 TEg104 TOOh069 TOf28 JIe9 JAf30 JU",
    "g157 JEEg13 JEf60 JOOh063 JOg175 LONG JOl031 YIe2 YAe3 YUg109 YEEh080 YEg141 YOOg21 YOg034 FI",
    "e5 FAe6 FUf78 FEEf5 FEg133 FOOh088 FOg197 FUAg01 FANh037 NINf8 NANf9 NUNh117 NENg69 NONg76 HI",
    "g041 HAg186 HUg040 HEEg96 HEf42 HOOh140 HOg083 HEEIi128 HOOUi053 HINh130 HANh087 HUNg52 HEN",
    "h193 HONh046 HUANh90 NGGIh43 NGGAh82 NGGUi115 NGGEEi46 NGGEh56 NGGOOi20 NGGOh59 NGGAA",
    "i27 NGGUAj086 LONG NGGEn106 LONG NGGOOn83 LONG NGGOm55 GIf11 GAf68 GUf90 GEEg66 GUEIg7 GUAN",
    "h84 NGENi057 NGONi177 NGUANj068 PIf99 PAf50 PUf81 PEEg51 PEg102 POOh066 POg145 MBIh062 MBA",
    "h122 MBUh047 MBEEi188 MBEEi072 MBEh172 MBOOg4 MBOg87 MBUUh61 LONG MBEl05 LONG MBOO",
    "m42 LONG MBOl32 KPIh092 KPAg74 KPUg44 KPEEi108 KPEg12 KPOOh58 KPOg24 GBIh056 GBAh148 GBU",
    "h093 GBEEi107 GBEh071 GBOOg0 GBOh171 RAf23 NDIf9 NDAf5 NDUg91 NDEEh19 NDEh067 NDOOg4 NDO",
    "h152 NJAg92 NJUg49 NJEEh34 NJOOh82 VIe5 VAf51 VUf73 VEEh085 VEg144 VOOh077 VOg164 NYIN",
    "i058 NYANi170 NYUNi098 NYENh60 NYON"]⟩,
  ⟨0x1e8c7, ["MENDE KIKAKUI DIGIT ONEdTWOcHREEfFOURdIVEeSIXcEVENfEIGHTfNINEkCOMBINING NUMBER TEENS",
    "dNSeHUNDREDSiTHOUSANDSiEN THOUSANDSnHUNDRED THOUSANDSrMILLIONS"]⟩,
  ⟨0x1e900, ["ADLAM CAPITAL LETTER ALIFeDAALIfLAAMeMIIMeBAcSINNYIIYHEkPEcBHEdRAcEbFAcIbObDHAdYHE",
    "dWAWdNUNdKAFdYAcUbJIIMeCHIdHAcQAAFeGAcNYAdTUcNHAdVAcKHAdGBEdZALdKPOdSHAsSMALL LETTER ALIF",
    "eDAALIfLAAMeMIIMeBAcSINNYIIYHEkPEcBHEdRAcEbFAcIbObDHAdYHEdWAWdNUNdKAFdYAcUbJIIMeCHIdHAcQAAF",
    "eGAcNYAdTUcNHAdVAcKHAdGBEdZALdKPOdSHAqALIF LENGTHENERpVOWEL LENGTHENERqGEMINATION MARKpHAMZA",
    "fCONSONANT MODIFIERsGEMINATE CONSONANT MODIFIERzcNUKTAeASALIZATION MARK"]⟩,
  ⟨0x1e950, ["ADLAM DIGIT ZEROeONEdTWOcHREEfFOURdIVEeSIXcEVENfEIGHTfNINE"]⟩,
  ⟨0x1e95e, ["ADLAM INITIAL EXCLAMATION MARKqQUESTION MARK"]⟩,
  ⟨0x1ec71, ["INDIC SIYAQ NUMBER ONEdTWOcHREEfFOURdIVEeSIXcEVENfEIGHTfNINEeTENcWENTYfHIRTYgFORTY",
    "eIFTYfSIXTYeEVENTYhEIGHTYgNINETYgONE HUNDREDlTWO HUNDREDkHREE HUNDREDnFOUR HUNDRED",
    "lIVE HUNDREDmSIX HUNDREDkEVEN HUNDREDnEIGHT HUNDREDnNINE HUNDREDmONE THOUSANDmTWO THOUSAND",
    "lHREE THOUSANDoFOUR THOUSANDmIVE THOUSANDnSIX THOUSANDlEVEN THOUSANDoEIGHT THOUSAND",
    "oNINE THOUSANDnTEN THOUSANDlWENTY THOUSANDoHIRTY THOUSANDpFORTY THOUSANDnIFTY THOUSAND",
    "oSIXTY THOUSANDnEVENTY THOUSANDqEIGHTY THOUSANDpNINETY THOUSANDpLAKHaANnLAKH MARK",
    "jNUMBER KARORaANhPREFIXED ONEdTWOcHREEfFOURdIVEeSIXcEVENfEIGHTfNINEuPLACEHOLDER",
    "lFRACTION ONE QUARTERhHALFiTHREE QUARTERSxRUPEE MARKkNUMBER ALTERNATE ONEdTWOcEN THOUSAND",
    "zeALTERNATE LAKH MARK"]⟩,
  ⟨0x1ed01, ["OTTOMAN SIYAQ NUMBER ONEdTWOcHREEfFOURdIVEeSIXcEVENfEIGHTfNINEeTENcWENTYfHIRTYgFORTY",
    "eIFTYfSIXTYeEVENTYhEIGHTYgNINETYgONE HUNDREDlTWO HUNDREDkHREE HUNDREDnFOUR HUNDRED",
    "lIVE HUNDREDmSIX HUNDREDkEVEN HUNDREDnEIGHT HUNDREDnNINE HUNDREDmONE THOUSANDmTWO THOUSAND",
    "lHREE THOUSANDoFOUR THOUSANDmIVE THOUSANDnSIX THOUSANDlEVEN THOUSANDoEIGHT THOUSAND",
    "oNINE THOUSANDnTEN THOUSANDlWENTY THOUSANDoHIRTY THOUSANDpFORTY THOUSANDnIFTY THOUSAND",
    "oSIXTY THOUSANDnEVENTY THOUSANDqEIGHTY THOUSANDpNINETY THOUSANDwMARRATANiALTERNATE NUMBER TWO",
    "cHREEfFOURdIVEeSIXcEVENfEIGHTfNINEeTENdFOUR HUNDREDmSIX HUNDREDlTWO THOUSANDlEN THOUSAND",
    "zeFRACTION ONE HALFeSIXTH"]⟩,
  ⟨0x1ee00, ["ARABIC MATHEMATICAL ALEFeBEHdJEEMeDAL"]⟩,
  ⟨0x1ee05, ["ARABIC MATHEMATICAL WAWdZAINeHAHdTAHdYEHdKAFdLAMdMEEMeNOONeSEENeAINdFEHdSADdQAFdREH",
    "dSHEENfTEHcHEHeKHAHeTHALeDADdZAHdGHAINfDOTLESS BEHdNOONeFEHdQAF"]⟩,
  ⟨0x1ee21, ["ARABIC MATHEMATICAL INITIAL BEHdJEEM"]⟩,
  ⟨0x1ee24, ["ARABIC MATHEMATICAL INITIAL HEH"]⟩,
  ⟨0x1ee27, ["ARABIC MATHEMATICAL INITIAL HAH"]⟩,
  ⟨0x1ee29, ["ARABIC MATHEMATICAL INITIAL YEHdKAFdLAMdMEEMeNOONeSEENeAINdFEHdSADdQAF"]⟩,
  ⟨0x1ee34, ["ARABIC MATHEMATICAL INITIAL SHEENfTEHcHEHeKHAH"]⟩,
  ⟨0x1ee39, ["ARABIC MATHEMATICAL INITIAL DAD"]⟩,
  ⟨0x1ee3b, ["ARABIC MATHEMATICAL INITIAL GHAIN"]⟩,
  ⟨0x1ee42, ["ARABIC MATHEMATICAL TAILED JEEM"]⟩,
  ⟨0x1ee47, ["ARABIC MATHEMATICAL TAILED HAH"]⟩,
  ⟨0x1ee49, ["ARABIC MATHEMATICAL TAILED YEH"]⟩,
  ⟨0x1ee4b, ["ARABIC MATHEMATICAL TAILED LAM"]⟩,
  ⟨0x1ee4d, ["ARABIC MATHEMATICAL TAILED NOONeSEENeAIN"]⟩,
  ⟨0x1ee51, ["ARABIC MATHEMATICAL TAILED SADdQAF"]⟩,
  ⟨0x1ee54, ["ARABIC MATHEMATICAL TAILED SHEEN"]⟩,
  ⟨0x1ee57, ["ARABIC MATHEMATICAL TAILED KHAH"]⟩,
  ⟨0x1ee59, ["ARABIC MATHEMATICAL TAILED DAD"]⟩,
  ⟨0x1ee5b, ["ARABIC MATHEMATICAL TAILED GHAIN"]⟩,
  ⟨0x1ee5d, ["ARABIC MATHEMATICAL TAILED DOTLESS NOON"]⟩,
  ⟨0x1ee5f, ["ARABIC MATHEMATICAL TAILED DOTLESS QAF"]⟩,
  ⟨0x1ee61, ["ARABIC MATHEMATICAL STRETCHED BEHdJEEM"]⟩,
  ⟨0x1ee64, ["ARABIC MATHEMATICAL STRETCHED HEH"]⟩,
  ⟨0x1ee67, ["ARABIC MATHEMATICAL STRETCHED HAHdTAHdYEHdKAF"]⟩,
  ⟨0x1ee6c, ["ARABIC MATHEMATICAL STRETCHED MEEMeNOONeSEENeAINdFEHdSADdQAF"]⟩,
  ⟨0x1ee74, ["ARABIC MATHEMATICAL STRETCHED SHEENfTEHcHEHeKHAH"]⟩,
  ⟨0x1ee79, ["ARABIC MATHEMATICAL STRETCHED DADdZAHdGHAINfDOTLESS BEH"]⟩,
  ⟨0x1ee7e, ["ARABIC MATHEMATICAL STRETCHED DOTLESS FEH"]⟩,
  ⟨0x1ee80, ["ARABIC MATHEMATICAL LOOPED ALEFeBEHdJEEMeDALdHEHdWAWdZAINeHAHdTAHdYEH"]⟩,
  ⟨0x1ee8b, ["ARABIC MATHEMATICAL LOOPED LAMdMEEMeNOONeSEENeAINdFEHdSADdQAFdREHdSHEENfTEHcHEHeKHAH",
    "eTHALeDADdZAHdGHAIN"]⟩,
  ⟨0x1eea1, ["ARABIC MATHEMATICAL DOUBLE-STRUCK BEHdJEEMeDAL"]⟩,
  ⟨0x1eea5, ["ARABIC MATHEMATICAL DOUBLE-STRUCK WAWdZAINeHAHdTAHdYEH"]⟩,
  ⟨0x1eeab, ["ARABIC MATHEMATICAL DOUBLE-STRUCK LAMdMEEMeNOONeSEENeAINdFEHdSADdQAFdREHdSHEENfTEH",
    "cHEHeKHAHeTHALeDADdZAHdGHAIN"]⟩,
  ⟨0x1eef0, ["ARABIC MATHEMATICAL OPERATOR MEEM WITH HAH WITH TATWEELzbHAH WITH DAL"]⟩]

end TypeCatalog.Text.CharacterName
