import TypeCatalog.Text.CodePoint

/-!
# Names of pictographs

Game tiles, faces and objects, then tags and variation selectors.
-/

namespace TypeCatalog.Text.CharacterName

/-- The names from U+1F000 to U+E01EF. -/
def pictographs : List NameRun := [
  ⟨0x1f000, ["MAHJONG TILE EAST WINDjSOUTH WINDkWEST WINDjNORTH WINDkRED DRAGONkGREEN DRAGON",
    "mWHITE DRAGONmONE OF CHARACTERSrTWO OF CHARACTERSqHREE OF CHARACTERStFOUR OF CHARACTERS",
    "rIVE OF CHARACTERSsSIX OF CHARACTERSqEVEN OF CHARACTERStEIGHT OF CHARACTERS",
    "tNINE OF CHARACTERSsONE OF BAMBOOSoTWO OF BAMBOOSnHREE OF BAMBOOSqFOUR OF BAMBOOS",
    "oIVE OF BAMBOOSpSIX OF BAMBOOSnEVEN OF BAMBOOSqEIGHT OF BAMBOOSqNINE OF BAMBOOS",
    "pONE OF CIRCLESoTWO OF CIRCLESnHREE OF CIRCLESqFOUR OF CIRCLESoIVE OF CIRCLESpSIX OF CIRCLES",
    "nEVEN OF CIRCLESqEIGHT OF CIRCLESqNINE OF CIRCLESpPLUMeORCHIDgBAMBOOgCHRYSANTHEMUMnSPRING",
    "fUMMERgAUTUMNgWINTERgJOKERfBACK"]⟩,
  ⟨0x1f030, ["DOMINO TILE HORIZONTAL BACKf-00-00b1b2b3b4b5b6e1-00b1b2b3b4b5b6e2-00b1b2b3b4b5b6",
    "e3-00b1b2b3b4b5b6e4-00b1b2b3b4b5b6e5-00b1b2b3b4b5b6e6-00b1b2b3b4b5b6qVERTICAL BACKf-00-00b1b2",
    "b3b4b5b6e1-00b1b2b3b4b5b6e2-00b1b2b3b4b5b6e3-00b1b2b3b4b5b6e4-00b1b2b3b4b5b6e5-00b1b2b3b4b5b6",
    "e6-00b1b2b3b4b5b6"]⟩,
  ⟨0x1f0a0, ["PLAYING CARD BACKeACE OF SPADESnTWO OF SPADESmHREE OF SPADESpFOUR OF SPADES",
    "nIVE OF SPADESoSIX OF SPADESmEVEN OF SPADESpEIGHT OF SPADESpNINE OF SPADESoTEN OF SPADES",
    "nJACK OF SPADESoKNIGHT OF SPADESqQUEEN OF SPADESpKING OF SPADES"]⟩,
  ⟨0x1f0b1, ["PLAYING CARD ACE OF HEARTSnTWO OF HEARTSmHREE OF HEARTSpFOUR OF HEARTSnIVE OF HEARTS",
    "oSIX OF HEARTSmEVEN OF HEARTSpEIGHT OF HEARTSpNINE OF HEARTSoTEN OF HEARTSnJACK OF HEARTS",
    "oKNIGHT OF HEARTSqQUEEN OF HEARTSpKING OF HEARTSoRED JOKER"]⟩,
  ⟨0x1f0c1, ["PLAYING CARD ACE OF DIAMONDSpTWO OF DIAMONDSoHREE OF DIAMONDSrFOUR OF DIAMONDS",
    "pIVE OF DIAMONDSqSIX OF DIAMONDSoEVEN OF DIAMONDSrEIGHT OF DIAMONDSrNINE OF DIAMONDS",
    "qTEN OF DIAMONDSpJACK OF DIAMONDSqKNIGHT OF DIAMONDSsQUEEN OF DIAMONDSrKING OF DIAMONDS",
    "qBLACK JOKER"]⟩,
  ⟨0x1f0d1, ["PLAYING CARD ACE OF CLUBSmTWO OF CLUBSlHREE OF CLUBSoFOUR OF CLUBSmIVE OF CLUBS",
    "nSIX OF CLUBSlEVEN OF CLUBSoEIGHT OF CLUBSoNINE OF CLUBSnTEN OF CLUBSmJACK OF CLUBS",
    "nKNIGHT OF CLUBSpQUEEN OF CLUBSoKING OF CLUBSnWHITE JOKERlFOOLeTRUMP-1b2b3b4b5b6b7b8b9b10b1b2",
    "b3b4b5b6b7b8b9c20b1"]⟩,
  ⟨0x1f100, ["DIGIT ZERO FULL STOPjCOMMAkONE COMMAjTWO COMMAiHREE COMMAlFOUR COMMAjIVE COMMA",
    "kSIX COMMAiEVEN COMMAlEIGHT COMMAlNINE COMMAoNGBAT CIRCLED SANS-SERIF DIGIT ZERO",
    "zeNEGATIVE CIRCLED SANS-SERIF DIGIT ZEROzvCIRCLED ZERO WITH SLASHpANTICLOCKWISE ARROW",
    "tDOLLAR SIGN WITH OVERLAID BACKSLASHzsPARENTHESIZED LATIN CAPITAL LETTER AbBbCbDbEbFbGbHbIbJ",
    "bKbLbMbNbObPbQbRbSbTbUbVbWbXbYbZzlTORTOISE SHELL BRACKETED LATIN CAPITAL LETTER S",
    "zwCIRCLED ITALIC LATIN CAPITAL LETTER CbRzeCDcWZjOPYLEFT SYMBOL",
    "pSQUARED LATIN CAPITAL LETTER AbBbCbDbEbFbGbHbIbJbKbLbMbNbObPbQbRbSbTbUbVbWbXbYbZwHVcMVcSDbS",
    "cPPVdWCkNEGATIVE CIRCLED LATIN CAPITAL LETTER AbBbCbDbEbFbGbHbIbJbKbLbMbNbObPbQbRbSbTbUbVbWbX",
    "bYbZzoRAISED MC SIGNgD SIGNgR SIGNoCIRCLED CCb WITH OVERLAID BACKSLASHzHUMAN FIGURE",
    "uNEGATIVE SQUARED LATIN CAPITAL LETTER AbBbCbDbEbFbGbHbIbJbKbLbMbNbObPbQbRbSbTbUbVbWbXbYbZ",
    "zoCROSSED NEGATIVE SQUARED LATIN CAPITAL LETTER PzwNEGATIVE SQUARED ICcPAcSAcABcWCtSQUARE DJ",
    "dD CLbOOLeFREEeIDcNEWcGcOKcSOSdUP WITH EXCLAMATION MARKyVScTHREE DhSECOND SCREENnTWO KfFOUR K",
    "gEIGHT KhFIVE POINT ONEoSEVEN POINT ONEpTWENTY-TWO POINT TWOuSIXTY PhONE HUNDRED TWENTY P",
    "uLATIN SMALL LETTER DuHCbDRcI-RESgLOSSLESSiSHVdUHDdVODlMASK WORK SYMBOL"]⟩,
  ⟨0x1f1e6, ["REGIONAL INDICATOR SYMBOL LETTER AbBbCbDbEbFbGbHbIbJbKbLbMbNbObPbQbRbSbTbUbVbWbXbYbZ",
    "zjSQUARE HIRAGANA HOKAoD KATAKANA KOKOeSA"]⟩,
  ⟨0x1f210, ["SQUARED CJK UNIFIED IDEOGRAPH-624Be5B57d3CCzbKATAKANA DElCJK UNIFIED IDEOGRAPH-4E8C",
    "e591Ae89E3e5929e4EA4e6620e7121e6599e524DdF8Cd18De65B0e521De7D42d51Fe8CA9e58F0d439e6F14d295",
    "d355e4E00b9e904Ae5DE6e4E2De53F3e6307e8D70e6253e7981dA7Ae5408e6E80d709b8e7533e5272d5B6e914D"]⟩,
  ⟨0x1f240, ["TORTOISE SHELL BRACKETED CJK UNIFIED IDEOGRAPH-672Ce4E09c8Ce5B89e70B9e6253e76D7e52DD",
    "e6557"]⟩,
  ⟨0x1f250, ["CIRCLED IDEOGRAPH ADVANTAGEiCCEPT"]⟩,
  ⟨0x1f260, ["ROUNDED SYMBOL FOR FUcLUcSHOUeXIcSHUANGXIiCAI"]⟩,
  ⟨0x1f300, ["CYCLONEhFOGGYfCLOSED UMBRELLApNIGHT WITH STARSqSUNRISE OVER MOUNTAINSqE",
    "hCITYSCAPE AT DUSKrSUNSET OVER BUILDINGSvRAINBOWhBRIDGE AT NIGHTpWATER WAVEkVOLCANOhMILKY WAY",
    "jEARTH GLOBE EUROPE-AFRICAnAMERICAShSIA-AUSTRALIAzbGLOBE WITH MERIDIANSuNEW MOON SYMBOL",
    "pWAXING CRESCENT MOON SYMBOLzcFIRST QUARTER MOON SYMBOLzWAXING GIBBOUS MOON SYMBOL",
    "zbFULL MOON SYMBOLqWANING GIBBOUS MOON SYMBOLzbLAST QUARTER MOON SYMBOL",
    "yWANING CRESCENT MOON SYMBOLzcCRESCENT MOONnNEW MOON WITH FACEsFIRST QUARTER MOON WITH FACE",
    "zdLAST QUARTER MOON WITH FACEzcFULL MOON WITH FACEtSUN WITH FACEnGLOWING STARmSHOOTING STAR",
    "nTHERMOMETERlBLACK DROPLETnWHITE SUNa WITH SMALL CLOUDqBEHIND CLOUDa WITH RAIN",
    "zhCLOUD WITH RAINeSNOWeLIGHTNINGjTORNADOsFOGdWIND BLOWING FACErHOT DOGhTACOeBURRITOhCHESTNUT",
    "iSEEDLINGiEVERGREEN TREEoDECIDUOUS TREEoPALM TREEjCACTUSgHOT PEPPERkTULIPfCHERRY BLOSSOMoROSE",
    "eHIBISCUSiSUNFLOWERjBLOSSOMhEAR OF MAIZEfRICElHERBeFOUR LEAF CLOVERqMAPLE LEAFkFALLEN LEAF",
    "lLEAF FLUTTERING IN WINDxMUSHROOMiTOMATOgAUBERGINEjGRAPESgMELONfWATERMELONkTANGERINEjLEMON",
    "fBANANAgPINEAPPLEjRED APPLEjGREEN APPLElPEARbCHfCHERRIESiSTRAWBERRYkHAMBURGERjSLICE OF PIZZA",
    "oMEAT ON BONEmPOULTRY LEGlRICE CRACKERhBALLjCOOKED RICEkURRY AND RICEoSTEAMING BOWLmPAGHETTI",
    "jBREADfFRENCH FRIESmROASTED SWEET POTATOuDANGOfODENeSUSHIfFRIED SHRIMP",
    "lISH CAKE WITH SWIRL DESIGNzcSOFT ICE CREAMnHAVED ICEkICE CREAMjDOUGHNUTiCOOKIEfHOCOLATE BAR",
    "mANDYfLOLLIPOPiCUSTARDhHONEY POTjSHORTCAKEjBENTO BOXjPOT OF FOODlCOOKINGhFORK AND KNIFE",
    "oTEACUP WITHOUT HANDLEvSAKE BOTTLE AND CUPtWINE GLASSkCOCKTAIL GLASSoTROPICAL DRINKoBEER MUG",
    "iCLINKING BEER MUGSsBABY BOTTLElFORK AND KNIFE WITH PLATEzBOTTLE WITH POPPING CORKyPOPCORN",
    "hRIBBONgWRAPPED PRESENTpBIRTHDAY CAKEnJACK-O-LANTERNoCHRISTMAS TREEoFATHER CHRISTMASpIREWORKS",
    "b SPARKLERrBALLOONhPARTY POPPERmCONFETTI BALLnTANABATA TREEnCROSSED FLAGSnPINE DECORATION",
    "pJAPANESE DOLLSoCARP STREAMERnWIND CHIMEkMOON VIEWING CEREMONYvSCHOOL SATCHELoGRADUATION CAP",
    "oHEART WITH TIP ON THE LEFTzbBOUQUET OF FLOWERSsMILITARY MEDALoREMINDER RIBBON",
    "pMUSICAL KEYBOARD WITH JACKSzcSTUDIO MICROPHONErLEVEL SLIDERmCONTROL KNOBS",
    "nBEAMED ASCENDING MUSICAL NOTESxDESCENDING MUSICAL NOTESzgFILM FRAMESlADMISSION TICKETS",
    "rCAROUSEL HORSEoFERRIS WHEELmROLLER COASTERoFISHING POLE AND FISHvMICROPHONEjOVIE CAMERA",
    "mCINEMAgHEADPHONEjARTIST PALETTEoTOP HAThCIRCUS TENTlTICKETgCLAPPER BOARDnPERFORMING ARTS",
    "pVIDEO GAMEkDIRECT HITkSLOT MACHINEmBILLIARDSjGAME DIEiBOWLINGhFLOWER PLAYING CARDS",
    "uMUSICAL NOTEkLTIPLE MUSICAL NOTESwSAXOPHONEjGUITARgMUSICAL KEYBOARDqTRUMPEThVIOLIN",
    "gMUSICAL SCOREnRUNNING SHIRT WITH SASHxTENNIS RACQUET AND BALLxSKI AND SKI BOOT",
    "qBASKETBALL AND HOOPtCHEQUERED FLAGoSNOWBOARDERlRUNNERgSURFERfPORTS MEDALmTROPHYgHORSE RACING",
    "mAMERICAN FOOTBALLrRUGBY FOOTBALLoSWIMMERhWEIGHT LIFTERnGOLFERgRACING MOTORCYCLEkCAR",
    "kCRICKET BAT AND BALLuVOLLEYBALLkFIELD HOCKEY STICK AND BALLzcICE HOCKEY STICK AND PUCK",
    "zTABLE TENNIS PADDLE AND BALLzdSNOW CAPPED MOUNTAINuCAMPINGhBEACH WITH UMBRELLA",
    "sUILDING CONSTRUCTIONvHOUSE BUILDINGSpCITYSCAPEjDERELICT HOUSE BUILDINGxCLASSICAL BUILDING",
    "sDESERTa ISLANDnNATIONAL PARKnSTADIUMhHOUSE BUILDINGiWITH GARDENrOFFICE BUILDING",
    "pJAPANESE POST OFFICEuEUROPEAN POST OFFICEuHOSPITALiBANKeAUTOMATED TELLER MACHINEyHOTEL",
    "fLOVE HOTELkCONVENIENCE STORErSCHOOLgDEPARTMENT STOREqFACTORYhIZAKAYA LANTERNpJAPANESE CASTLE",
    "pEUROPEAN CASTLEpWHITE PENNANTnBLACK PENNANTnWAVING WHITE FLAGkBLACK FLAGrROSETTE",
    "hBLACK ROSETTEnLABELfBADMINTON RACQUET AND SHUTTLECOCKzhOW AND ARROWnAMPHORA",
    "hEMOJI MODIFIER FITZPATRICK TYPE-1-2d3b4b5b6ziRATdMOUSEfOXcWATER BUFFALOnCOWdTIGERfLEOPARD",
    "hRABBITgCATdDRAGONgCROCODILEjWHALEfSNAILcKEfHORSEfRAMdGOATeSHEEPfMONKEYgROOSTERhCHICKENhDOG",
    "dPIGdBOAReELEPHANTiOCTOPUShSPIRAL SHELLmBUGdANTdHONEYBEEiLADY BEETLElFISHeTROPICAL FISH",
    "nBLOWFISHiTURTLEgHATCHING CHICKoBABY CHICKkFRONT-FACING BABY CHICKxBIRDePENGUINhKOALAfPOODLE",
    "gDROMEDARY CAMELpBACTRIAN CAMELoDOLPHINhMOUSE FACEkCOW FACEiTIGER FACEkRABBIT FACElCAT FACE",
    "iDRAGON FACElSPOUTING WHALEoHORSE FACEkMONKEY FACElDOG FACEiPIG FACEiFROG FACEjHAMSTER FACE",
    "mWOLF FACEjBEAR FACEjPANDA FACEjIG NOSEhAW PRINTSkCHIPMUNKiEYEScEcARdNOSEeMOUTHfTONGUE",
    "gWHITE UP POINTING BACKHAND INDEXzbDOWN POINTING BACKHAND INDEXzdLEFT POINTING BACKHAND INDEX",
    "zdRIGHT POINTING BACKHAND INDEXzkFISTED HAND SIGNqWAVING HAND SIGNqOK HAND SIGN",
    "mTHUMBS UP SIGNhDOWN SIGNqCLAPPING HANDS SIGNtOPEN HANDS SIGNpCROWNfWOMANS HATkEYEGLASSES",
    "kNECKTIEhT-SHIRThJEANSfDRESSfKIMONOgBIKINIgWOMANS CLOTHESoPURSEfHANDBAGhPOUCHfMANS SHOE",
    "jATHLETIC SHOEnHIGH-HEELED SHOEqWOMANS SANDALgBOOTSmFOOTPRINTSkBUST IN SILHOUETTE",
    "oS IN SILHOUETTEsOYdGIRLeMANdWOMANfFAMILYgMAN AND WOMAN HOLDING HANDSzcTWO MEN HOLDING HANDS",
    "rWOMEN HOLDING HANDSxPOLICE OFFICERoWOMAN WITH BUNNY EARSvBRIDE WITH VEIL",
    "pPERSON WITH BLOND HAIRwMAN WITH GUA PI MAOkTURBANpOLDER MANdWOMANlBABYeCONSTRUCTION WORKER",
    "tPRINCESSiJAPANESE OGREeGOBLINpGHOSTfBABY ANGELkEXTRATERRESTRIAL ALIENwALIEN MONSTERnIMP",
    "dSKULLfINFORMATION DESK PERSONxGUARDSMANjDANCERgLIPSTICKiNAIL POLISHlFACE MASSAGEmHAIRCUT",
    "hBARBER POLElSYRINGEhPILLeKISS MARKjLOVE LETTERlRINGeGEM STONEjKISSeBOUQUEThCOUPLE WITH HEART",
    "rWEDDINGhBEATING HEARTmROKEN HEARTmTWO HEARTSkSPARKLING HEARTpGROWING HEARTnHEART WITH ARROW",
    "qBLUE HEARTkGREEN HEARTlYELLOW HEARTmPURPLE HEARTmHEART WITH RIBBONrREVOLVING HEARTS",
    "qHEART DECORATIONqDIAMOND SHAPE WITH A DOT INSIDEzgELECTRIC LIGHT BULBtANGER SYMBOLmBOMB",
    "eSLEEPING SYMBOLpCOLLISION SYMBOLqSPLASHING SWEAT SYMBOLwDROPLETgASH SYMBOLlPILE OF POO",
    "lFLEXED BICEPSnDIZZY SYMBOLmSPEECH BALLOONoTHOUGHT BALLOONpWHITE FLOWERmHUNDRED POINTS SYMBOL",
    "vMONEY BAGjCURRENCY EXCHANGErHEAVY DOLLAR SIGNrCREDIT CARDlBANKNOTE WITH YEN SIGNiDOLLAR SIGN",
    "lEURO SIGNjPOUND SIGNyMONEY WITH WINGSqCHART WITH UPWARDS TREND AND YEN SIGNzmSEAT",
    "ePERSONAL COMPUTERrBRIEFCASEjMINIDISCiFLOPPY DISKlOPTICAL DISCmDVDdFILE FOLDER",
    "lOPEN FILE FOLDERqPAGE WITH CURLjFACING UPoCALENDARiTEAR-OFF CALENDARrCARD INDEX",
    "jHART WITH UPWARDS TRENDnDOWNWARDS TRENDzbBAR CHARTjCLIPBOARDjPUSHPINhROUND PUSHPINnPAPERCLIP",
    "jSTRAIGHT RULERoTRIANGULAR RULERqBOOKMARK TABSnLEDGERgNOTEBOOKa WITH DECORATIVE COVER",
    "zfCLOSED BOOKlOPEN BOOKjGREEN BOOKkBLUE BOOKjORANGE BOOKlBOOKSfNAME BADGEkSCROLLgMEMO",
    "eTELEPHONE RECEIVERsPAGERfFAX MACHINElSATELLITE ANTENNArPUBLIC ADDRESS LOUDSPEAKER",
    "zbCHEERING MEGAPHONEsOUTBOX TRAYlINBOX TRAYkPACKAGEhE-MAIL SYMBOLnINCOMING ENVELOPE",
    "rENVELOPE WITH DOWNWARDS ARROW ABOVEzkCLOSED MAILBOX WITH LOWERED FLAGmRAISED FLAG",
    "zgOPEN MAILBOX WITH RAISED FLAGlLOWERED FLAGzfPOSTBOXdAL HORNlNEWSPAPERjMOBILE PHONE",
    "a WITH RIGHTWARDS ARROW AT LEFTzrVIBRATION MODEoMOBILE PHONE OFFqNO MOBILE PHONES",
    "qANTENNA WITH BARSrCAMERAa WITH FLASHrVIDEO CAMERAmTELEVISIONkRADIOfVIDEOCASSETTE",
    "nFILM PROJECTORoPORTABLE STEREOoRAYER BEADSmTWISTED RIGHTWARDS ARROWS",
    "zCLOCKWISE RIGHTWARDS AND LEFTWARDS OPEN CIRCLE ARROWSa WITH CIRCLED ONE OVERLAY",
    "zzsDOWNWARDS AND UPWARDS OPEN CIRCLE ARROWS",
    "zzANTICLOCKWISE DOWNWARDS AND UPWARDS OPEN CIRCLE ARROWSzzeLOW BRIGHTNESS SYMBOL",
    "vHIGH BRIGHTNESS SYMBOLwSPEAKER WITH CANCELLATION STROKEzbRa WITH ONE SOUND WAVE",
    "oTHREE SOUND WAVESzfBATTERYhELECTRIC PLUGnLEFT-POINTING MAGNIFYING GLASS",
    "zfRIGHT-POINTING MAGNIFYING GLASSzgLOCK WITH INK PENrCLOSED LOCK WITH KEYuKEYdLOCKeOPEN LOCK",
    "jBELLa WITH CANCELLATION STROKEzdOOKMARKiLINK SYMBOLlRADIO BUTTON",
    "mBACK WITH LEFTWARDS ARROW ABOVEzgEND WITH LEFTWARDS ARROW ABOVE",
    "zfON WITH EXCLAMATION MARK WITH LEFT RIGHT ARROW ABOVEzzcSOON WITH RIGHTWARDS ARROW ABOVE",
    "zhTOP WITH UPWARDS ARROW ABOVEzdNO ONE UNDER EIGHTEEN SYMBOLzdKEYCAP TEN",
    "kINPUT SYMBOL FOR LATIN CAPITAL LETTERSpSMALL LETTERStNUMBERShSYMBOLShLATIN LETTERSzfFIRE",
    "eELECTRIC TORCHoWRENCHgHAMMERgNUT AND BOLTmHOCHOfPISTOLgMICROSCOPEkTELESCOPEjCRYSTAL BALL",
    "mSIX POINTED STAR WITH MIDDLE DOTzhJAPANESE SYMBOL FOR BEGINNERzdTRIDENT EMBLEM",
    "oBLACK SQUARE BUTTONtWHITE SQUARE BUTTONtLARGE RED CIRCLEkBLUE CIRCLElORANGE DIAMOND",
    "oBLUE DIAMONDsSMALL ORANGE DIAMONDoBLUE DIAMONDsUP-POINTING RED TRIANGLE",
    "yDOWN-POINTING RED TRIANGLEzbUP-POINTING SMALL RED TRIANGLEzfDOWN-POINTING SMALL RED TRIANGLE",
    "zhLOWER RIGHT SHADOWED WHITE CIRCLEziUPPER RIGHT SHADOWED WHITE CIRCLEziCIRCLED CROSS POMMEE",
    "tROSS POMMEE WITH HALF-CIRCLE BELOWyEmNOTCHED LEFT SEMICIRCLE WITH THREE DOTS",
    "zgRIGHT SEMICIRCLE WITH THREE DOTSzpSYMBOL FOR MARKS CHAPTERyWHITE LATIN CROSS",
    "rHEAVY LATIN CROSSrCELTIC CROSSmOM SYMBOLjDOVE OF PEACEnKAABAfMOSQUEgSYNAGOGUE",
    "jMENORAH WITH NINE BRANCHESzbBOWL OF HYGIEIApCLOCK FACE ONE OCLOCKkTWO OCLOCKjHREE OCLOCK",
    "mFOUR OCLOCKkIVE OCLOCKlSIX OCLOCKjEVEN OCLOCKmEIGHT OCLOCKmNINE OCLOCKlTEN OCLOCK",
    "kELEVEN OCLOCKnTWELVE OCLOCKnONE-THIRTYkTWO-THIRTYjHREE-THIRTYmFOUR-THIRTYkIVE-THIRTY",
    "lSIX-THIRTYjEVEN-THIRTYmEIGHT-THIRTYmNINE-THIRTYlTEN-THIRTYkELEVEN-THIRTYnTWELVE-THIRTY",
    "yRIGHT SPEAKERa WITH ONE SOUND WAVEoTHREE SOUND WAVESzlBULLHORNa WITH SOUND WAVES",
    "zRINGING BELLmBOOKeCANDLEgMANTELPIECE CLOCKrBLACK SKULL AND CROSSBONESzbNO PIRACYjHOLE",
    "eMAN IN BUSINESS SUIT LEVITATINGzgSLEUTH OR SPYnDARK SUNGLASSESpSPIDERa WEBkJOYSTICK",
    "iMAN DANCINGlLEFT HAND TELEPHONE RECEIVERzdTELEPHONE RECEIVER WITH PAGE",
    "zdRIGHT HAND TELEPHONE RECEIVERzeWHITE TOUCHTONE TELEPHONEzBLACK TOUCHTONE TELEPHONE",
    "zTELEPHONE ON TOP OF MODEMzCLAMSHELL MOBILE PHONEwBACK OF ENVELOPEqSTAMPED ENVELOPE",
    "qENVELOPE WITH LIGHTNINGxFLYING ENVELOPEpPEN OVER STAMPED ENVELOPEzLINKED PAPERCLIPS",
    "rBLACK PUSHPINnLOWER LEFT PENCILgBALLPOINT PENnFOUNTAIN PENmPAINTBRUSHkCRAYON",
    "qEFT WRITING HANDrTURNED OK HAND SIGNtRAISED HAND WITH FINGERS SPLAYED",
    "zgEVERSED RAISED HAND WITH FINGERS SPLAYEDzhTHUMBS UP SIGNhDOWN SIGNqVICTORY HAND",
    "mHAND WITH MIDDLE FINGER EXTENDEDzpAISED HAND WITH PART BETWEEN MIDDLE AND RING FINGERS",
    "zzdWHITE DOWN POINTING LEFT HAND INDEXzkSIDEWAYS WHITE LEFT POINTING INDEX",
    "tRIGHT POINTING INDEXzbBLACK LEFT POINTING INDEXtRIGHT POINTING INDEX",
    "zkBLACK LEFT POINTING BACKHAND INDEXzdRIGHT POINTING BACKHAND INDEX",
    "zkSIDEWAYS WHITE UP POINTING INDEXrDOWN POINTING INDEXzBLACK UP POINTING INDEX",
    "rDOWN POINTING INDEXzjBLACK UP POINTING BACKHAND INDEXzbDOWN POINTING BACKHAND INDEXzdHEART",
    "lDESKTOP COMPUTERqKEYBOARD AND MOUSEsTHREE NETWORKED COMPUTERSzPRINTERgOCKET CALCULATOR",
    "rBLACK HARD SHELL FLOPPY DISKzdWHITE HARD SHELL FLOPPY DISKzdSOFT SHELL FLOPPY DISK",
    "wTAPE CARTRIDGEoWIRED KEYBOARDoONE BUTTON MOUSEqTWO BUTTON MOUSEpHREE BUTTON MOUSErRACKBALL",
    "jOLD PERSONAL COMPUTERvHARD DISKjSCREENgPRINTER ICONmFAX ICONiOPTICAL DISC ICON",
    "rDOCUMENT WITH TEXTa AND PICTUREqPICTUREvFRAME WITH PICTUREhTILESfAN XpBLACK FOLDERmFOLDER",
    "gOPEN FOLDERlCARD INDEX DIVIDERSoFILE BOXnFILE CABINETmEMPTY NOTEa PAGEcDoNOTEa PAGEcD",
    "iEMPTY DOCUMENTiPAGEaSlDOCUMENTiPAGEaSfWASTEBASKETlSPIRAL NOTE PADiCALENDAR PAD",
    "tDESKTOP WINDOWoMINIMIZEhAXIMIZEiOVERLAPhCLOCKWISE RIGHT AND LEFT SEMICIRCLE ARROWS",
    "zqANCELLATION XoINCREASE FONT SIZE SYMBOLzDECREASE FONT SIZE SYMBOLzCOMPRESSIONlOLD KEY",
    "hROLLED-UP NEWSPAPERtPAGE WITH CIRCLED TEXTwSTOCK CHARTlDAGGER KNIFEmLIPS",
    "eSPEAKING HEAD IN SILHOUETTEzcTHREE RAYS ABOVEfBELOWfLEFTeRIGHTqLEFT SPEECH BUBBLE",
    "sRIGHT SPEECH BUBBLEtTWO SPEECH BUBBLESrHREE SPEECH BUBBLESuLEFT THOUGHT BUBBLE",
    "tRIGHT THOUGHT BUBBLEuLEFT ANGER BUBBLErRIGHT ANGER BUBBLEsMOOD BUBBLElLIGHTNING MOOD BUBBLE",
    "iDoBALLOT BOX WITH BALLOTpSCRIPT XiBOX WITH SCRIPT XpLD SCRIPT XlX WITH BOLD SCRIPT X",
    "zeLIGHT CHECK MARKqBALLOT BOX WITH BOLD CHECKzbWORLD MAPjMOUNT FUJIkTOKYO TOWER",
    "lSTATUE OF LIBERTYqILHOUETTE OF JAPANtMOYAIfGRINNING FACEa WITH SMILING EYES",
    "zgFACE WITH TEARS OF JOYwSMILING FACE WITH OPEN MOUTHa AND SMILING EYESmCOLD SWEAT",
    "kTIGHTLY-CLOSED EYESzjHALOdORNSxWINKING FACEmSMILING FACE WITH SMILING EYES",
    "zfFACE SAVOURING DELICIOUS FOODzeRELIEVED FACEnSMILING FACE WITH HEART-SHAPED EYESrSUNGLASSES",
    "zRKING FACEnNEUTRAL FACEmEXPRESSIONLESS FACEtUNAMUSED FACEnFACE WITH COLD SWEATuPENSIVE FACE",
    "mCONFUSED FACEjOUNDED FACEpKISSING FACEmFACE THROWING A KISSuKISSING FACE WITH SMILING EYES",
    "mCLOSED EYESzeFACE WITH STUCK-OUT TONGUEa AND WINKING EYElTIGHTLY-CLOSED EYES",
    "zzDISAPPOINTED FACErWORRIED FACEmANGRY FACEkPOUTING FACEmCRYING FACElPERSEVERING FACE",
    "qFACE WITH LOOK OF TRIUMPHzDISAPPOINTED BUT RELIEVED FACEzfFROWNING FACE WITH OPEN MOUTH",
    "zeANGUISHED FACEoFEARFUL FACEmWEARY FACEkSLEEPY FACElTIRED FACEkGRIMACING FACE",
    "oLOUDLY CRYING FACEsFACE WITH OPEN MOUTHuHUSHED FACElFACE WITH OPEN MOUTH AND COLD SWEAT",
    "zfSCREAMING IN FEARwASTONISHED FACEpFLUSHED FACEmSLEEPING FACEnDIZZY FACEkFACE WITHOUT MOUTH",
    "j MEDICAL MASKwGRINNING CAT FACE WITH SMILING EYESzkCAT FACE WITH TEARS OF JOY",
    "zbSMILING CAT FACE WITH OPEN MOUTHkHEART-SHAPED EYESzoCAT FACE WITH WRY SMILE",
    "xKISSING CAT FACE WITH CLOSED EYESziPOUTING CAT FACEqCRYING CAT FACEpWEARY CAT FACE",
    "oSLIGHTLY FROWNING FACEnSMILING FACEvUPSIDE-DOWN FACEqFACE WITH ROLLING EYESmNO GOOD GESTURE",
    "pOK GESTUREuPERSON BOWING DEEPLYuSEE-NO-EVIL MONKEYsHEAR-NO-EVIL MONKEYtSPEAK-NO-EVIL MONKEY",
    "uHAPPY PERSON RAISING ONE HANDzePERSON RAISING BOTH HANDS IN CELEBRATIONziFROWNING",
    "iWITH POUTING FACEmFOLDED HANDSyNORTH WEST POINTING LEAFySOUTH WEST POINTING LEAF",
    "yNORTH EAST POINTING LEAFySOUTH EAST POINTING LEAFyTURNED NORTH WEST POINTING LEAF",
    "ySOUTH WEST POINTING LEAFyNORTH EAST POINTING LEAFySOUTH EAST POINTING LEAF",
    "zgNORTH WEST POINTING VINE LEAFzeSOUTH WEST POINTING VINE LEAFzeNORTH EAST POINTING VINE LEAF",
    "zeSOUTH EAST POINTING VINE LEAFzeHEAVY NORTH WEST POINTING VINE LEAF",
    "zeSOUTH WEST POINTING VINE LEAFzeNORTH EAST POINTING VINE LEAFzeSOUTH EAST POINTING VINE LEAF",
    "zkNORTH WEST POINTING BUDxSOUTH WEST POINTING BUDxNORTH EAST POINTING BUD",
    "xSOUTH EAST POINTING BUDxHEAVY NORTH WEST POINTING BUDxSOUTH WEST POINTING BUD",
    "xNORTH EAST POINTING BUDxSOUTH EAST POINTING BUDzdOLLOW QUILT SQUARE ORNAMENT",
    "a IN BLACK SQUAREztSOLID QUILT SQUARE ORNAMENTa IN BLACK SQUAREzsLEFTWARDS ROCKET",
    "qUPWARDS ROCKEToRIGHTWARDS ROCKETrDOWNWARDS ROCKETqSCRIPT LIGATURE ET ORNAMENT",
    "zcHEAVY SCRIPT LIGATURE ET ORNAMENTziLIGATURE OPEN ET ORNAMENT",
    "zHEAVY LIGATURE OPEN ET ORNAMENTzAMPERSAND ORNAMENTySWASH AMPERSAND ORNAMENT",
    "xANS-SERIF HEAVY DOUBLE TURNED COMMA QUOTATION MARK ORNAMENTzlCOMMA QUOTATION MARK ORNAMENT",
    "zlLOW DOUBLE COMMA QUOTATION MARK ORNAMENTzzhHEAVY INTERROBANG ORNAMENT",
    "zbSANS-SERIF INTERROBANG ORNAMENTzgHEAVY SANS-SERIF INTERROBANG ORNAMENTzmVERY HEAVY SOLIDUS",
    "hREVERSE SOLIDUSzbCHECKER BOARDnREVERSE CHECKER BOARDuOCKETgHELICOPTERkSTEAM LOCOMOTIVE",
    "qRAILWAY CARlHIGH-SPEED TRAINa WITH BULLET NOSEziTRAINfMETROfLIGHT RAILkSTATIONhTRAMa CARiBUS",
    "dONCOMING BUSmTROLLEYBUSkBUS STOPiMINIBUShAMBULANCEjFIRE ENGINElPOLICE CAR",
    "kONCOMING POLICE CARtTAXIeONCOMING TAXInAUTOMOBILEkONCOMING AUTOMOBILEtRECREATIONAL VEHICLE",
    "uDELIVERY TRUCKoARTICULATED LORRYrTRACTORhMONORAILgUNTAIN RAILWAYqSUSPENSION RAILWAY",
    "sMOUNTAIN CABLEWAYrAERIAL TRAMWAYoSHIPeROWBOAThSPEEDBOATjHORIZONTAL TRAFFIC LIGHT",
    "yVERTICAL TRAFFIC LIGHTwCONSTRUCTION SIGNrPOLICE CARS REVOLVING LIGHT",
    "zcTRIANGULAR FLAG ON POSTxDOOReNO ENTRY SIGNnSMOKING SYMBOLoNO SMOKING SYMBOL",
    "rPUT LITTER IN ITS PLACE SYMBOLzfDO NOT LITTER SYMBOLuPOTABLE WATER SYMBOL",
    "uNON-POTABLE WATER SYMBOLyBICYCLEhNO BICYCLESlBICYCLISTjMOUNTAIN BICYCLISTsPEDESTRIAN",
    "kNO PEDESTRIANSoCHILDREN CROSSINGrMENS SYMBOLlWOMENS SYMBOLnRESTROOMiBABY SYMBOLlTOILET",
    "gWATER CLOSETmSHOWERgBATHaTUBhPASSPORT CONTROLqCUSTOMShBAGGAGE CLAIMnLEFT LUGGAGE",
    "mTRIANGLE WITH ROUNDED CORNERSzePROHIBITED SIGNpCIRCLED INFORMATION SOURCEzbBOYS SYMBOL",
    "lGIRLS SYMBOLmCOUCH AND LAMPoSLEEPING ACCOMMODATIONvHOPPING BAGSnBELLHOP BELLkD",
    "dPLACE OF WORSHIPqOCTAGONAL SIGNoSHOPPING TROLLEYpTUPAfPAGODAgHINDU TEMPLElUTdELEVATOR"]⟩,
  ⟨0x1f6dd, ["PLAYGROUND SLIDEqWHEELfRING BUOYjHAMMER AND WRENCHrSHIELDgOIL DRUMiMOTORWAY",
    "iRAILWAY TRACKnMOTOR BOATkUP-POINTING MILITARY AIRPLANErAIRPLANEiSMALL AIRPLANE",
    "zbSMALL AIRPLANEoNORTHEAST-POINTING AIRPLANEzcAIRPLANE DEPARTUREjARRIVING"]⟩,
  ⟨0x1f6f0, ["SATELLITEjONCOMING FIRE ENGINEuDIESEL LOCOMOTIVErPASSENGER SHIPoSCOOTER",
    "hMOTOR SCOOTERnCANOEfSLEDeFLYING SAUCERnSKATEBOARDkAUTO RICKSHAWnPICKUP TRUCKmROLLER SKATE"]⟩,
  ⟨0x1f700, ["ALCHEMICAL SYMBOL FOR QUINTESSENCEmAIRdFIREeEARTHfWATERfAQUAFORTISg REGIAa-2hVITAE",
    "a-2mVINEGARa-2b3jSULFURgPHILOSOPHERS SULFURtBLACK SULFURmMERCURY SUBLIMATEa-2b3tCINNABARiSALT",
    "eNITREfVITRIOLa-2jROCK SALTa-2lGOLDeSILVERgIRON OREa-2kCROCUS OF IRONoREGULUS OF IRON",
    "pCOPPER OREkIRON-COPPER OREpSUBLIMATE OF COPPERtCROCUS OF COPPERa-2rOPPER ANTIMONIATE",
    "sSALT OF COPPER ANTIMONIATEzUBLIMATE OF SALT OF COPPERzcVERDIGRISjTIN OREhLEAD ORE",
    "iANTIMONY OREmSUBLIMATE OF ANTIMONYuALT OF ANTIMONYpUBLIMATE OF SALT OF ANTIMONY",
    "zeVINEGAR OF ANTIMONYtREGULUS OF ANTIMONYa-2pSa-2b3b4jALKALIa-2iMARCASITEjSAL-AMMONIAC",
    "mARSENIChREALGARa-2jAURIPIGMENTlBISMUTH ORElTARTARa-2iQUICK LIMEkBORAXa-2b3hALUMeOILdSPIRIT",
    "gTINCTUREiGUMdWAXdPOWDERgCALXeTUTTYfCAPUT MORTUUMnSCEPTER OF JOVEpCADUCEUSiTRIDENT",
    "hSTARRED TRIDENTpLODESTONEjSOAPeURINEfHORSE DUNGkASHESfPOT ASHESjBRICKfPOWDERED BRICKoAMALGAM",
    "hSTRATUM SUPER STRATUMa-2wUBLIMATIONlPRECIPITATElDISTILLeSOLVEa-2kPURIFYeTREFACTIONmCRUCIBLE",
    "a-2b3b4b5kALEMBIChBATH OF MARYeVAPOURSpRETORTgHOUReNIGHTfDAY-NIGHTjMONTHfHALF DRAMeOUNCE"]⟩,
  ⟨0x1f780, ["BLACK LEFT-POINTING ISOSCELES RIGHT TRIANGLEznUP-POINTING ISOSCELES RIGHT TRIANGLE",
    "zlRIGHT-POINTING ISOSCELES RIGHT TRIANGLEzoDOWN-POINTING ISOSCELES RIGHT TRIANGLE",
    "znSLIGHTLY SMALL CIRCLEzcMEDIUM BOLD WHITE CIRCLEyBOLD WHITE CIRCLErHEAVY WHITE CIRCLE",
    "sVERY HEAVY WHITE CIRCLExEXTREMELY HEAVY WHITE CIRCLE",
    "zdWHITE CIRCLE CONTAINING BLACK SMALL CIRCLEzrROUND TARGETmBLACK TINY SQUARE",
    "lSLIGHTLY SMALL SQUAREzcLIGHT WHITE SQUAREsMEDIUM WHITE SQUAREtBOLD WHITE SQUARE",
    "rHEAVY WHITE SQUAREsVERY HEAVY WHITE SQUARExEXTREMELY HEAVY WHITE SQUARE",
    "zdWHITE SQUARE CONTAINING BLACK VERY SMALL SQUARErMEDIUM SQUAREzsSQUARE TARGET",
    "nBLACK TINY DIAMONDmVERY SMALL DIAMONDsMEDIUM SMALL DIAMOND",
    "zbWHITE DIAMOND CONTAINING BLACK VERY SMALL DIAMONDsMEDIUM DIAMONDzuDIAMOND TARGET",
    "oBLACK TINY LOZENGEmVERY SMALL LOZENGEsMEDIUM SMALL LOZENGE",
    "zbWHITE LOZENGE CONTAINING BLACK SMALL LOZENGEztTHIN GREEK CROSSqLIGHT GREEK CROSS",
    "rMEDIUM GREEK CROSSsBOLD GREEK CROSSqVERY BOLD GREEK CROSSqHEAVY GREEK CROSS",
    "wEXTREMELY HEAVY GREEK CROSSzcTHIN SALTIREmLIGHT SALTIREnMEDIUM SALTIREoBOLD SALTIRE",
    "mHEAVY SALTIREnVERY HEAVY SALTIREsEXTREMELY HEAVY SALTIRExLIGHT FIVE SPOKED ASTERISK",
    "zbMEDIUM FIVE SPOKED ASTERISKzcBOLD FIVE SPOKED ASTERISKzHEAVY FIVE SPOKED ASTERISK",
    "zbVERY HEAVY FIVE SPOKED ASTERISKzgEXTREMELY HEAVY FIVE SPOKED ASTERISK",
    "zlLIGHT SIX SPOKED ASTERISKzMEDIUM SIX SPOKED ASTERISKzbBOLD SIX SPOKED ASTERISK",
    "yHEAVY SIX SPOKED ASTERISKzVERY HEAVY SIX SPOKED ASTERISK",
    "zfEXTREMELY HEAVY SIX SPOKED ASTERISKzkLIGHT EIGHT SPOKED ASTERISK",
    "zcMEDIUM EIGHT SPOKED ASTERISKzdBOLD EIGHT SPOKED ASTERISKzbHEAVY EIGHT SPOKED ASTERISK",
    "zcVERY HEAVY EIGHT SPOKED ASTERISKzhLIGHT THREE POINTED BLACK STAR",
    "zfMEDIUM THREE POINTED BLACK STARzgTHREE POINTED BLACK STAR",
    "yMEDIUM THREE POINTED PINWHEEL STARzjLIGHT FOUR POINTED BLACK STAR",
    "zeMEDIUM FOUR POINTED BLACK STARzfFOUR POINTED BLACK STARxMEDIUM FOUR POINTED PINWHEEL STAR",
    "ziREVERSE LIGHT FOUR POINTED PINWHEEL STARzpLIGHT FIVE POINTED BLACK STAR",
    "zeHEAVY FIVE POINTED BLACK STARzeMEDIUM SIX POINTED BLACK STARzeHEAVY SIX POINTED BLACK STAR",
    "zdSIX POINTED PINWHEEL STARzMEDIUM EIGHT POINTED BLACK STARzgHEAVY EIGHT POINTED BLACK STAR",
    "zfVERY HEAVY EIGHT POINTED BLACK STARzkHEAVY EIGHT POINTED PINWHEEL STAR",
    "ziLIGHT TWELVE POINTED BLACK STARzgHEAVY TWELVE POINTED BLACK STARkPINWHEEL STAR",
    "zjCIRCLED TRIANGLEqNEGATIVE CIRCLED TRIANGLEzCIRCLED SQUAREoNEGATIVE CIRCLED SQUARE"]⟩,
  ⟨0x1f7e0, ["LARGE ORANGE CIRCLEnYELLOW CIRCLEnGREEN CIRCLEmPURPLE CIRCLEnBROWN CIRCLEmRED SQUARE",
    "kBLUE SQUARElORANGE SQUAREnYELLOW SQUAREnGREEN SQUAREmPURPLE SQUAREnBROWN SQUARE"]⟩,
  ⟨0x1f7f0, ["HEAVY EQUALS SIGN"]⟩,
  ⟨0x1f800, ["LEFTWARDS ARROW WITH SMALL TRIANGLE ARROWHEAD",
    "zuUPWARDS ARROW WITH SMALL TRIANGLE ARROWHEADzsRIGHTWARDS ARROW WITH SMALL TRIANGLE ARROWHEAD",
    "zvDOWNWARDS ARROW WITH SMALL TRIANGLE ARROWHEAD",
    "zuLEFTWARDS ARROW WITH MEDIUM TRIANGLE ARROWHEAD",
    "zvUPWARDS ARROW WITH MEDIUM TRIANGLE ARROWHEAD",
    "ztRIGHTWARDS ARROW WITH MEDIUM TRIANGLE ARROWHEAD",
    "zwDOWNWARDS ARROW WITH MEDIUM TRIANGLE ARROWHEAD",
    "zvLEFTWARDS ARROW WITH LARGE TRIANGLE ARROWHEADzuUPWARDS ARROW WITH LARGE TRIANGLE ARROWHEAD",
    "zsRIGHTWARDS ARROW WITH LARGE TRIANGLE ARROWHEAD",
    "zvDOWNWARDS ARROW WITH LARGE TRIANGLE ARROWHEAD"]⟩,
  ⟨0x1f810, ["LEFTWARDS ARROW WITH SMALL EQUILATERAL ARROWHEAD",
    "zxUPWARDS ARROW WITH SMALL EQUILATERAL ARROWHEAD",
    "zvRIGHTWARDS ARROW WITH SMALL EQUILATERAL ARROWHEAD",
    "zyDOWNWARDS ARROW WITH SMALL EQUILATERAL ARROWHEAD",
    "zxLEFTWARDS ARROW WITH EQUILATERAL ARROWHEADzrUPWARDS ARROW WITH EQUILATERAL ARROWHEAD",
    "zpRIGHTWARDS ARROW WITH EQUILATERAL ARROWHEADzsDOWNWARDS ARROW WITH EQUILATERAL ARROWHEAD",
    "zrHEAVY LEFTWARDS ARROW WITH EQUILATERAL ARROWHEADzrUPWARDS ARROW WITH EQUILATERAL ARROWHEAD",
    "zpRIGHTWARDS ARROW WITH EQUILATERAL ARROWHEADzsDOWNWARDS ARROW WITH EQUILATERAL ARROWHEAD",
    "zrLEFTWARDS ARROW WITH LARGE EQUILATERAL ARROWHEAD",
    "zxUPWARDS ARROW WITH LARGE EQUILATERAL ARROWHEAD",
    "zvRIGHTWARDS ARROW WITH LARGE EQUILATERAL ARROWHEAD",
    "zyDOWNWARDS ARROW WITH LARGE EQUILATERAL ARROWHEAD",
    "zzeLEFTWARDS TRIANGLE-HEADED ARROW WITH NARROW SHAFT",
    "zyUPWARDS TRIANGLE-HEADED ARROW WITH NARROW SHAFT",
    "zwRIGHTWARDS TRIANGLE-HEADED ARROW WITH NARROW SHAFT",
    "zzDOWNWARDS TRIANGLE-HEADED ARROW WITH NARROW SHAFT",
    "zyLEFTWARDS TRIANGLE-HEADED ARROW WITH MEDIUM SHAFT",
    "zyUPWARDS TRIANGLE-HEADED ARROW WITH MEDIUM SHAFT",
    "zwRIGHTWARDS TRIANGLE-HEADED ARROW WITH MEDIUM SHAFT",
    "zzDOWNWARDS TRIANGLE-HEADED ARROW WITH MEDIUM SHAFT",
    "zyLEFTWARDS TRIANGLE-HEADED ARROW WITH BOLD SHAFT",
    "zwUPWARDS TRIANGLE-HEADED ARROW WITH BOLD SHAFT",
    "zuRIGHTWARDS TRIANGLE-HEADED ARROW WITH BOLD SHAFT",
    "zxDOWNWARDS TRIANGLE-HEADED ARROW WITH BOLD SHAFT",
    "zwLEFTWARDS TRIANGLE-HEADED ARROW WITH HEAVY SHAFT",
    "zxUPWARDS TRIANGLE-HEADED ARROW WITH HEAVY SHAFT",
    "zvRIGHTWARDS TRIANGLE-HEADED ARROW WITH HEAVY SHAFT",
    "zyDOWNWARDS TRIANGLE-HEADED ARROW WITH HEAVY SHAFT",
    "zxLEFTWARDS TRIANGLE-HEADED ARROW WITH VERY HEAVY SHAFT",
    "zzdUPWARDS TRIANGLE-HEADED ARROW WITH VERY HEAVY SHAFT",
    "zzbRIGHTWARDS TRIANGLE-HEADED ARROW WITH VERY HEAVY SHAFT",
    "zzeDOWNWARDS TRIANGLE-HEADED ARROW WITH VERY HEAVY SHAFTzzdLEFTWARDS FINGER-POST ARROW",
    "zcUPWARDS FINGER-POST ARROWzRIGHTWARDS FINGER-POST ARROWzdDOWNWARDS FINGER-POST ARROW",
    "zcLEFTWARDS SQUARED ARROWxUPWARDS SQUARED ARROWvRIGHTWARDS SQUARED ARROW",
    "yDOWNWARDS SQUARED ARROWxLEFTWARDS COMPRESSED ARROWzbUPWARDS COMPRESSED ARROW",
    "yRIGHTWARDS COMPRESSED ARROWzcDOWNWARDS COMPRESSED ARROWzbLEFTWARDS HEAVY COMPRESSED ARROW",
    "zhUPWARDS HEAVY COMPRESSED ARROWzfRIGHTWARDS HEAVY COMPRESSED ARROW",
    "ziDOWNWARDS HEAVY COMPRESSED ARROWzhLEFTWARDS HEAVY ARROWvUPWARDS HEAVY ARROW",
    "tRIGHTWARDS HEAVY ARROWwDOWNWARDS HEAVY ARROW"]⟩,
  ⟨0x1f850, ["LEFTWARDS SANS-SERIF ARROWzbUPWARDS SANS-SERIF ARROWyRIGHTWARDS SANS-SERIF ARROW",
    "zcDOWNWARDS SANS-SERIF ARROWzbNORTH WEST SANS-SERIF ARROWvEAST SANS-SERIF ARROW",
    "zcSOUTH EAST SANS-SERIF ARROWvWEST SANS-SERIF ARROWzcLEFT RIGHT SANS-SERIF ARROW",
    "zcUP DOWN SANS-SERIF ARROW"]⟩,
  ⟨0x1f860, ["WIDE-HEADED LEFTWARDS LIGHT BARB ARROWzbUPWARDS LIGHT BARB ARROW",
    "yRIGHTWARDS LIGHT BARB ARROWzcDOWNWARDS LIGHT BARB ARROWzbNORTH WEST LIGHT BARB ARROW",
    "vEAST LIGHT BARB ARROWzcSOUTH EAST LIGHT BARB ARROWvWEST LIGHT BARB ARROW",
    "zcLEFTWARDS BARB ARROWuUPWARDS BARB ARROWsRIGHTWARDS BARB ARROWvDOWNWARDS BARB ARROW",
    "uNORTH WEST BARB ARROWpEAST BARB ARROWvSOUTH EAST BARB ARROWpWEST BARB ARROW",
    "vLEFTWARDS MEDIUM BARB ARROWzcUPWARDS MEDIUM BARB ARROWzRIGHTWARDS MEDIUM BARB ARROW",
    "zdDOWNWARDS MEDIUM BARB ARROWzcNORTH WEST MEDIUM BARB ARROWwEAST MEDIUM BARB ARROW",
    "zdSOUTH EAST MEDIUM BARB ARROWwWEST MEDIUM BARB ARROWzdLEFTWARDS HEAVY BARB ARROW",
    "zbUPWARDS HEAVY BARB ARROWyRIGHTWARDS HEAVY BARB ARROWzcDOWNWARDS HEAVY BARB ARROW",
    "zbNORTH WEST HEAVY BARB ARROWvEAST HEAVY BARB ARROWzcSOUTH EAST HEAVY BARB ARROW",
    "vWEST HEAVY BARB ARROWzcLEFTWARDS VERY HEAVY BARB ARROWzgUPWARDS VERY HEAVY BARB ARROW",
    "zeRIGHTWARDS VERY HEAVY BARB ARROWzhDOWNWARDS VERY HEAVY BARB ARROW",
    "zgNORTH WEST VERY HEAVY BARB ARROWzbEAST VERY HEAVY BARB ARROW",
    "zhSOUTH EAST VERY HEAVY BARB ARROWzbWEST VERY HEAVY BARB ARROW"]⟩,
  ⟨0x1f890, ["LEFTWARDS TRIANGLE ARROWHEADzdUPWARDS TRIANGLE ARROWHEAD",
    "zbRIGHTWARDS TRIANGLE ARROWHEADzeDOWNWARDS TRIANGLE ARROWHEAD",
    "zdLEFTWARDS WHITE ARROW WITHIN TRIANGLE ARROWHEAD",
    "zwUPWARDS WHITE ARROW WITHIN TRIANGLE ARROWHEAD",
    "zuRIGHTWARDS WHITE ARROW WITHIN TRIANGLE ARROWHEAD",
    "zxDOWNWARDS WHITE ARROW WITHIN TRIANGLE ARROWHEADzwLEFTWARDS ARROW WITH NOTCHED TAIL",
    "ziUPWARDS ARROW WITH NOTCHED TAILzgRIGHTWARDS ARROW WITH NOTCHED TAIL",
    "zjDOWNWARDS ARROW WITH NOTCHED TAILziHEAVY ARROW SHAFT WIDTH ONEdTWO THIRDSkONE HALFeTHIRD",
    "ziLEFTWARDS BOTTOM-SHADED WHITE ARROWzkRIGHTWARDS BOTTOM SHADED WHITE ARROW",
    "zlLEFTWARDS TOP SHADED WHITE ARROWzhRIGHTWARDS TOP SHADED WHITE ARROW",
    "ziLEFTWARDS LEFT-SHADED WHITE ARROWziRIGHTWARDS RIGHT-SHADED WHITE ARROW",
    "zkLEFTWARDS RIGHT-SHADED WHITE ARROWzjRIGHTWARDS LEFT-SHADED WHITE ARROW",
    "zjLEFTWARDS BACK-TILTED SHADOWED WHITE ARROWzrRIGHTWARDS BACK-TILTED SHADOWED WHITE ARROW",
    "zsLEFTWARDS FRONT-TILTED SHADOWED WHITE ARROWzsRIGHTWARDS FRONT-TILTED SHADOWED WHITE ARROW",
    "ztWHITE ARROW SHAFT WIDTH ONEdTWO THIRDS"]⟩,
  ⟨0x1f8b0, ["ARROW POINTING UPWARDS THEN NORTH WESTxRIGHTWARDS THEN CURVING SOUTH WEST"]⟩,
  ⟨0x1f900, ["CIRCLED CROSS FORMEE WITH FOUR DOTSjTWO DOTSpEuLEFT HALF CIRCLE WITH FOUR DOTS",
    "jTHREE DOTSjWO DOTSiDOTkEqDOWNWARD FACING HOOKeNOTCHED HOOKmHOOK WITH DOT",
    "nNOTCHED HOOK WITH DOTzmPINCHED FINGERSpWHITE HEARTlBROWN HEARTlPINCHING HAND",
    "nZIPPER-MOUTH FACErMONEY-MOUTH FACEqFACE WITH THERMOMETERvNERD FACEjTHINKING FACE",
    "nFACE WITH HEAD-BANDAGEwROBOT FACEkHUGGING FACEmSIGN OF THE HORNSrCALL ME HAND",
    "mRAISED BACK OF HANDtLEFT-FACING FISTqRIGHT-FACING FISTrHANDSHAKE",
    "f WITH INDEX AND MIDDLE FINGERS CROSSEDzrI LOVE YOU HAND SIGNuFACE WITH COWBOY HATuCLOWN FACE",
    "kNAUSEATED FACEoROLLING ON THE FLOOR LAUGHINGzeDROOLING FACEnLYING FACEkFACE PALM",
    "jSNEEZING FACEnFACE WITH ONE EYEBROW RAISEDzdGRINNING FACE WITH STAR EYES",
    "jONE LARGE AND ONE SMALL EYEzvFACE WITH FINGER COVERING CLOSED LIPS",
    "zmSERIOUS FACE WITH SYMBOLS COVERING MOUTH",
    "zoMILING FACE WITH SMILING EYES AND HAND COVERING MOUTHzzeFACE WITH OPEN MOUTH VOMITING",
    "zeSHOCKED FACE WITH EXPLODING HEADzhPREGNANT WOMANoBREAST-FEEDINGoPALMS UP TOGETHERrSELFIE",
    "gPRINCEgMAN IN TUXEDOmOTHER CHRISTMASqSHRUGfPERSON DOING CARTWHEELwJUGGLINGiFENCER",
    "gMODERN PENTATHLONrWRESTLERSiATER POLOkHANDBALLiDIVING MASKlWILTED FLOWER",
    "nDRUM WITH DRUMSTICKSuCLINKING GLASSESqTUMBLER GLASSnSPOONfGOAL NETiRIFLEfFIRST PLACE MEDAL",
    "rSECOND PLACE MEDALsTHIRD PLACE MEDALrBOXING GLOVEmMARTIAL ARTS UNIFORMuCURLING STONE",
    "nLACROSSE STICK AND BALLxSOFTBALLiFLYING DISClCROISSANTjAVOCADOhCUCUMBERiBACONfPOTATOgCARROT",
    "gBAGUETTE BREADoGREEN SALADlSHALLOW PAN OF FOODsTUFFED FLATBREADrEGGdGLASS OF MILKnPEANUTS",
    "hKIWIFRUITjPANCAKESiDUMPLINGiFORTUNE COOKIEoTAKEOUT BOXlCHOPSTICKSkBOWL WITH SPOON",
    "pCUP WITH STRAWnOCONUThBROCCOLIiPIEcRETZELhCUT OF MEATlSANDWICHiCANNED FOODlLEAFY GREENlMANGO",
    "eOON CAKEjBAGELfSMILING FACE WITH SMILING EYES AND THREE HEARTSzwYAWNING FACE",
    "mSMILING FACE WITH TEARwFACE WITH PARTY HORN AND PARTY HATyUNEVEN EYES AND WAVY MOUTH",
    "zlOVERHEATED FACEpFREEZING FACEnNINJAfDISGUISED FACEoFACE HOLDING BACK TEARS",
    "sWITH PLEADING EYESxSARIeLAB COATiGOGGLEShHIKING BOOTlFLAT SHOEjCRABeLION FACEjSCORPION",
    "iTURKEYgUNICORN FACEmEAGLEfDUCKeBATdSHARKfOWLdFOX FACEiBUTTERFLYjDEEReGORILLAhLIZARD",
    "gRHINOCEROSkSHRIMPfQUIDfGIRAFFE FACEmZEBRA FACEkHEDGEHOGiSAUROPODiT-REXfCRICKEThKANGAROO",
    "iLLAMAfPEACOCKhHIPPOPOTAMUSmPARROTgRACCOONhLOBSTERhMOSQUITOhICROBEhBADGERgSWANeMAMMOTHhDODO",
    "eSLOTHfOTTEReRANGUTANjSKUNKfFLAMINGOiOYSTERgBEAVERfISONfSEALeGUIDE DOGjPROBING CANE",
    "mEMOJI COMPONENT RED HAIRiCURLY HAIRkBALDeWHITE HAIRzbBONEeLEGdFOOTeTOOTHfSUPERHEROeVILLAIN",
    "lAFETY VESTlEAR WITH HEARING AIDuMOTORIZED WHEELCHAIRtANUAL WHEELCHAIRqECHANICAL ARMdLEG",
    "oCHEESE WEDGElUPCAKEhSALT SHAKERlBEVERAGE BOXmGARLICgONIONfFALAFELhWAFFLEgBUTTERgMATE DRINK",
    "kICE CUBEiBUBBLE TEAkTROLLfSTANDING PERSONpKNEELING PERSONpDEAF PERSONlFACE WITH MONOCLE",
    "rADULTfCHILDfOLDER ADULTlBEARDED PERSONoPERSON WITH HEADSCARFoIN STEAMY ROOMoCLIMBING",
    "iIN LOTUS POSITIONyMAGEeFAIRYfVAMPIREhMERPERSONjELFdGENIEfZOMBIEgBRAINfORANGE HEART",
    "mBILLED CAPkSCARFfGLOVESgCOATeSOCKSfRED GIFT ENVELOPErFIRECRACKERlJIGSAW PUZZLE PIECE",
    "tTEST TUBEjPETRI DISHkDNA DOUBLE HELIXqCOMPASShABACUSgFIRE EXTINGUISHERrTOOLBOXhBRICKfMAGNET",
    "gLUGGAGEgOTION BOTTLEnSPOOL OF THREADpBALL OF YARNmSAFETY PINkTEDDY BEARkBROOMeASKET",
    "gROLL OF PAPERnBAR OF SOAPlSPONGEgRECEIPThNAZAR AMULETlEUTRAL CHESS KINGeQUEENfROOKeBISHOP",
    "gKNIGHTgPAWNsWHITE CHESS KNIGHT ROTATED FORTY-FIVE DEGREES",
    "zuBLACK CHESS KNIGHT ROTATED FORTY-FIVE DEGREES",
    "zuNEUTRAL CHESS KNIGHT ROTATED FORTY-FIVE DEGREESzwWHITE CHESS KING ROTATED NINETY DEGREES",
    "zcQUEEN ROTATED NINETY DEGREESzdROOK ROTATED NINETY DEGREESzcBISHOP ROTATED NINETY DEGREES",
    "zeKNIGHT ROTATED NINETY DEGREESzePAWN ROTATED NINETY DEGREES",
    "zoBLACK CHESS KING ROTATED NINETY DEGREESzcQUEEN ROTATED NINETY DEGREES",
    "zdROOK ROTATED NINETY DEGREESzcBISHOP ROTATED NINETY DEGREESzeKNIGHT ROTATED NINETY DEGREES",
    "zePAWN ROTATED NINETY DEGREESzoNEUTRAL CHESS KING ROTATED NINETY DEGREES",
    "zcQUEEN ROTATED NINETY DEGREESzdROOK ROTATED NINETY DEGREESzcBISHOP ROTATED NINETY DEGREES",
    "zeKNIGHT ROTATED NINETY DEGREESzePAWN ROTATED NINETY DEGREES",
    "zqWHITE CHESS KNIGHT ROTATED ONE HUNDRED THIRTY-FIVE DEGREES",
    "zziBLACK CHESS KNIGHT ROTATED ONE HUNDRED THIRTY-FIVE DEGREES",
    "zziNEUTRAL CHESS KNIGHT ROTATED ONE HUNDRED THIRTY-FIVE DEGREESzzkWHITE CHESS TURNED KING",
    "eQUEENfROOKeBISHOPgKNIGHTgPAWNxBLACK CHESS TURNED KINGeQUEENfROOKeBISHOPgKNIGHTgPAWN",
    "xNEUTRAL CHESS TURNED KINGeQUEENfROOKeBISHOPgKNIGHTgPAWN",
    "zWHITE CHESS KNIGHT ROTATED TWO HUNDRED TWENTY-FIVE DEGREES",
    "zziBLACK CHESS KNIGHT ROTATED TWO HUNDRED TWENTY-FIVE DEGREES",
    "zziNEUTRAL CHESS KNIGHT ROTATED TWO HUNDRED TWENTY-FIVE DEGREES",
    "zzkWHITE CHESS KING ROTATED TWO HUNDRED SEVENTY DEGREES",
    "zpQUEEN ROTATED TWO HUNDRED SEVENTY DEGREESzqROOK ROTATED TWO HUNDRED SEVENTY DEGREES",
    "zpBISHOP ROTATED TWO HUNDRED SEVENTY DEGREESzrKNIGHT ROTATED TWO HUNDRED SEVENTY DEGREES",
    "zrPAWN ROTATED TWO HUNDRED SEVENTY DEGREES",
    "zzcBLACK CHESS KING ROTATED TWO HUNDRED SEVENTY DEGREES",
    "zpQUEEN ROTATED TWO HUNDRED SEVENTY DEGREESzqROOK ROTATED TWO HUNDRED SEVENTY DEGREES",
    "zpBISHOP ROTATED TWO HUNDRED SEVENTY DEGREESzrKNIGHT ROTATED TWO HUNDRED SEVENTY DEGREES",
    "zrPAWN ROTATED TWO HUNDRED SEVENTY DEGREES",
    "zzcNEUTRAL CHESS KING ROTATED TWO HUNDRED SEVENTY DEGREES",
    "zpQUEEN ROTATED TWO HUNDRED SEVENTY DEGREESzqROOK ROTATED TWO HUNDRED SEVENTY DEGREES",
    "zpBISHOP ROTATED TWO HUNDRED SEVENTY DEGREESzrKNIGHT ROTATED TWO HUNDRED SEVENTY DEGREES",
    "zrPAWN ROTATED TWO HUNDRED SEVENTY DEGREES",
    "zzeWHITE CHESS KNIGHT ROTATED THREE HUNDRED FIFTEEN DEGREES",
    "zzgBLACK CHESS KNIGHT ROTATED THREE HUNDRED FIFTEEN DEGREES",
    "zzgNEUTRAL CHESS KNIGHT ROTATED THREE HUNDRED FIFTEEN DEGREESzziWHITE CHESS EQUIHOPPER",
    "wBLACK CHESS EQUIHOPPERwNEUTRAL CHESS EQUIHOPPER",
    "yWHITE CHESS EQUIHOPPER ROTATED NINETY DEGREESzuBLACK CHESS EQUIHOPPER ROTATED NINETY DEGREES",
    "zuNEUTRAL CHESS EQUIHOPPER ROTATED NINETY DEGREESzwWHITE CHESS KNIGHT-QUEENfROOKeBISHOP",
    "zBLACK CHESS KNIGHT-QUEENfROOKeBISHOP"]⟩,
  ⟨0x1fa60, ["XIANGQI RED GENERALhMANDARINiELEPHANTiHORSEfCHARIOTgANNONgSOLDIERlBLACK GENERAL",
    "hMANDARINiELEPHANTiHORSEfCHARIOTgANNONgSOLDIER"]⟩,
  ⟨0x1fa70, ["BALLET SHOESmONE-PIECE SWIMSUITsBRIEFSgSHORTSgTHONG SANDAL"]⟩,
  ⟨0x1fa78, ["DROP OF BLOODnADHESIVE BANDAGEqSTETHOSCOPElX-RAYfCRUTCH"]⟩,
  ⟨0x1fa80, ["YO-YOfKITEePARACHUTEjBOOMERANGjMAGIC WANDkPINATAgNESTING DOLLS"]⟩,
  ⟨0x1fa90, ["RINGED PLANETnCHAIRfRAZORfAXEdDIYA LAMPjBANJOfMILITARY HELMETpACCORDIONjLONG DRUM",
    "jCOINdARPENTRY SAWnSCREWDRIVERlLADDERgHOOKeMIRRORgWINDOWgPLUNGERhSEWING NEEDLEnKNOTeBUCKET",
    "gMOUSE TRAPkTOOTHBRUSHkHEADSTONEjPLACARDhROCKeMIRROR BALLlIDENTIFICATION CARDtLOW BATTERY",
    "lHAMSA"]⟩,
  ⟨0x1fab0, ["FLYdWORMeBEETLEgCOCKROACHjPOTTED PLANTmWOODeFEATHERhLOTUSfCORALfEMPTY NEST",
    "kNEST WITH EGGS"]⟩,
  ⟨0x1fac0, ["ANATOMICAL HEARTqLUNGSfPEOPLE HUGGINGnREGNANT MANdPERSONoERSON WITH CROWN"]⟩,
  ⟨0x1fad0, ["BLUEBERRIESkELL PEPPERlOLIVEfFLATBREADjTAMALEgFONDUEgTEAPOTgPOURING LIQUIDoBEANS",
    "fJAR"]⟩,
  ⟨0x1fae0, ["MELTING FACEmSALUTING FACEnFACE WITH OPEN EYES AND HAND OVER MOUTHzePEEKING EYE",
    "lDIAGONAL MOUTHyDOTTED LINE FACEqBITING LIPjUBBLES"]⟩,
  ⟨0x1faf0, ["HAND WITH INDEX FINGER AND THUMB CROSSEDzpRIGHTWARDS HANDpLEFTWARDS HAND",
    "oPALM DOWN HANDjUP HANDmINDEX POINTING AT THE VIEWERzdHEART HANDS"]⟩,
  ⟨0x1fb00, ["BLOCK SEXTANT-1b2b12c3b13c23c123d4b14c24c124d34c134d234d1234e5b15c25c125d35c235d1235",
    "e45c145d245d1245e345d1345e2345e12345f6b16c26c126d36c136d236d1236e46c146c246e346d1346e2346",
    "e12346f56c156d256d1256e356d1356e2356e12356f456d1456e2456e12456f3456e13456f23456",
    "tLOWER LEFT BLOCK DIAGONAL LOWER MIDDLE LEFT TO LOWER CENTREgRIGHT",
    "zhUPPER MIDDLE LEFT TO LOWER CENTREgRIGHTzbLEFT TO LOWER CENTRE",
    "zvRIGHT BLOCK DIAGONAL UPPER MIDDLE LEFT TO UPPER CENTREgRIGHT",
    "zhLOWER MIDDLE LEFT TO UPPER CENTREgRIGHTzbLEFT TO UPPER CENTRE",
    "uMIDDLE LEFT TO UPPER MIDDLE RIGHTziCENTRE TO LOWER MIDDLE RIGHTzdLEFT TO LOWER MIDDLE RIGHT",
    "zbCENTRE TO UPPER MIDDLE RIGHTzdLEFT TO UPPER MIDDLE RIGHTzbCENTRE TO UPPER RIGHT",
    "zxLEFT BLOCK DIAGONAL UPPER CENTRE TO UPPER MIDDLE RIGHTzdLEFT TO UPPER MIDDLE RIGHT",
    "zbCENTRE TO LOWER MIDDLE RIGHTzdLEFT TO LOWER MIDDLE RIGHTzbCENTRE TO LOWER RIGHT",
    "vMIDDLE LEFT TO LOWER MIDDLE RIGHT",
    "zzpUPPER RIGHT BLOCK DIAGONAL LOWER MIDDLE LEFT TO LOWER CENTREgRIGHT",
    "zhUPPER MIDDLE LEFT TO LOWER CENTREgRIGHTzbLEFT TO LOWER CENTRE",
    "zwLEFT BLOCK DIAGONAL UPPER MIDDLE LEFT TO UPPER CENTREgRIGHT",
    "zhLOWER MIDDLE LEFT TO UPPER CENTREgRIGHTzbLEFT TO UPPER CENTRE",
    "uMIDDLE LEFT TO UPPER MIDDLE RIGHTziCENTRE TO LOWER MIDDLE RIGHTzdLEFT TO LOWER MIDDLE RIGHT",
    "zbCENTRE TO UPPER MIDDLE RIGHTzdLEFT TO UPPER MIDDLE RIGHTzbCENTRE TO UPPER RIGHT",
    "zwRIGHT BLOCK DIAGONAL UPPER CENTRE TO UPPER MIDDLE RIGHTzdLEFT TO UPPER MIDDLE RIGHT",
    "zbCENTRE TO LOWER MIDDLE RIGHTzdLEFT TO LOWER MIDDLE RIGHTzbCENTRE TO LOWER RIGHT",
    "vMIDDLE LEFT TO LOWER MIDDLE RIGHTzzkAND RIGHT AND LOWER TRIANGULAR THREE QUARTERS BLOCK",
    "zzhLEFT AND LOWER AND RIGHT TRIANGULAR THREE QUARTERS BLOCK",
    "zzgUPPER AND LEFT AND LOWER TRIANGULAR THREE QUARTERS BLOCK",
    "zzgLEFT AND UPPER AND RIGHT TRIANGULAR THREE QUARTERS BLOCKzzbTRIANGULAR ONE QUARTER BLOCK",
    "ziUPPER TRIANGULAR ONE QUARTER BLOCKzjRIGHT TRIANGULAR ONE QUARTER BLOCK",
    "zjLOWER TRIANGULAR ONE QUARTER BLOCKzjVERTICAL ONE EIGHTH BLOCK-2b3b4b5b6b7",
    "zcHORIZONTAL ONE EIGHTH BLOCK-2b3b4b5b6b7zeLEFT AND LOWER ONE EIGHTH BLOCK",
    "wUPPER ONE EIGHTH BLOCKzgRIGHT AND UPPER ONE EIGHTH BLOCKwLOWER ONE EIGHTH BLOCK",
    "zhUPPER AND LOWER ONE EIGHTH BLOCKzhHORIZONTAL ONE EIGHTH BLOCK-1358zhUPPER ONE QUARTER BLOCK",
    "rTHREE EIGHTHS BLOCKtFIVE EIGHTHS BLOCKsTHREE QUARTERS BLOCKuSEVEN EIGHTHS BLOCK",
    "zRIGHT ONE QUARTER BLOCKrTHREE EIGHTHS BLOCKtFIVE EIGHTHS BLOCKsTHREE QUARTERS BLOCK",
    "uSEVEN EIGHTHS BLOCKzLEFT HALF MEDIUM SHADEwRIGHT HALF MEDIUM SHADExUPPER HALF MEDIUM SHADE",
    "xLOWER HALF MEDIUM SHADExINVERSE MEDIUM SHADE",
    "uUPPER HALF BLOCK AND LOWER HALF INVERSE MEDIUM SHADE",
    "zqINVERSE MEDIUM SHADE AND LOWER HALF BLOCK"]⟩,
  ⟨0x1fb94, ["LEFT HALF INVERSE MEDIUM SHADE AND RIGHT HALF BLOCKzzbCHECKER BOARD FILL",
    "sINVERSE CHECKER BOARD FILLzbHEAVY HORIZONTAL FILLvUPPER LEFT TO LOWER RIGHT FILL",
    "yRIGHT TO LOWER LEFT FILLyAND LOWER TRIANGULAR HALF BLOCK",
    "zmLEFT AND RIGHT TRIANGULAR HALF BLOCKzlUPPER LEFT TRIANGULAR MEDIUM SHADE",
    "zdRIGHT TRIANGULAR MEDIUM SHADEzkLOWER RIGHT TRIANGULAR MEDIUM SHADE",
    "zeLEFT TRIANGULAR MEDIUM SHADEzjBOX DRAWINGS LIGHT DIAGONAL UPPER CENTRE TO MIDDLE LEFTeRIGHT",
    "zdMIDDLE LEFT TO LOWER CENTREuRIGHT TO LOWER CENTRE",
    "zdUPPER CENTRE TO MIDDLE LEFT TO LOWER CENTREuRIGHT TO LOWER CENTRE",
    "ztMIDDLE LEFT TO LOWER CENTRE TO MIDDLE RIGHTzdUPPER CENTRE TO MIDDLE RIGHT",
    "zsUPPER CENTRE TO MIDDLE LEFT AND MIDDLE RIGHT TO LOWER CENTRE",
    "zmRIGHT AND MIDDLE LEFT TO LOWER CENTREzgTO LOWER CENTRE TO MIDDLE LEFT",
    "zlLEFT TO LOWER CENTRE TO MIDDLE RIGHT",
    "zzjMIDDLE LEFT TO UPPER CENTRE TO MIDDLE RIGHT TO LOWER CENTRE",
    "zzcRIGHT TO UPPER CENTRE TO MIDDLE LEFT TO LOWER CENTREzzjDIAMOND",
    "qHORIZONTAL WITH VERTICAL STROKEzzARROWHEAD-SHAPED POINTERyINVERSE CHECK MARK",
    "sLEFT HALF RUNNING MANvRIGHT HALF RUNNING MANwINVERSE DOWNWARDS ARROW WITH TIP LEFTWARDS",
    "zrLEFTWARDS ARROW AND UPPER AND LOWER ONE EIGHTH BLOCK",
    "zzcRIGHTWARDS ARROW AND UPPER AND LOWER ONE EIGHTH BLOCK",
    "zzdDOWNWARDS ARROW AND RIGHT ONE EIGHTH BLOCKzrUPWARDS ARROW AND RIGHT ONE EIGHTH BLOCK",
    "zpLEFT HALF FOLDERqRIGHT HALF FOLDERrVOIDED GREEK CROSSsRIGHT OPEN SQUARED DOT",
    "wNEGATIVE DIAGONAL CROSSfMIDDLE RIGHT TO LOWER CENTREzdDIAMOND",
    "zWHITE HEAVY SALTIRE WITH ROUNDED CORNERSzpLEFT THIRD WHITE RIGHT POINTING INDEX",
    "zmMIDDLE THIRD WHITE RIGHT POINTING INDEXzoRIGHT THIRD WHITE RIGHT POINTING INDEX",
    "znNEGATIVE SQUARED QUESTION MARKzfSTICK FIGUREa WITH ARMS RAISEDqLEANING LEFTeRIGHT",
    "nWITH DRESSxWHITE UP-POINTING CHEVRON"]⟩,
  ⟨0x1fbf0, ["SEGMENTED DIGIT ZEROeONEdTWOcHREEfFOURdIVEeSIXcEVENfEIGHTfNINE"]⟩,
  ⟨0xe0001, ["LANGUAGE TAG"]⟩,
  ⟨0xe0020, ["TAG SPACEfEXCLAMATION MARKqQUOTATION MARKoNUMBER SIGNlDOLLAR SIGNlPERCENT SIGN",
    "mAMPERSANDiPOSTROPHEkLEFT PARENTHESISqRIGHT PARENTHESISrASTERISKiPLUS SIGNjCOMMAfHYPHEN-MINUS",
    "mFULL STOPjSOLIDUShDIGIT ZEROeONEdTWOcHREEfFOURdIVEeSIXcEVENfEIGHTfNINEkCOLONfSEMICOLON",
    "jLESS-THAN SIGNoEQUALS SIGNlGREATER-THAN SIGNrQUESTION MARKnCOMMERCIAL AT",
    "nLATIN CAPITAL LETTER AbBbCbDbEbFbGbHbIbJbKbLbMbNbObPbQbRbSbTbUbVbWbXbYbZvEFT SQUARE BRACKET",
    "tREVERSE SOLIDUSoIGHT SQUARE BRACKETuCIRCUMFLEX ACCENTrLOW LINEiGRAVE ACCENT",
    "mLATIN SMALL LETTER AbBbCbDbEbFbGbHbIbJbKbLbMbNbObPbQbRbSbTbUbVbWbXbYbZtEFT CURLY BRACKET",
    "sVERTICAL LINEnRIGHT CURLY BRACKETtTILDEjCANCEL TAG"]⟩,
  ⟨0xe0100, ["VARIATION SELECTOR-17b8b9c20b1b2b3b4b5b6b7b8b9c30b1b2b3b4b5b6b7b8b9c40b1b2b3b4b5b6b7",
    "b8b9c50b1b2b3b4b5b6b7b8b9c60b1b2b3b4b5b6b7b8b9c70b1b2b3b4b5b6b7b8b9c80b1b2b3b4b5b6b7b8b9c90b1",
    "b2b3b4b5b6b7b8b9c100b1b2b3b4b5b6b7b8b9c10b1b2b3b4b5b6b7b8b9c20b1b2b3b4b5b6b7b8b9c30b1b2b3b4b5",
    "b6b7b8b9c40b1b2b3b4b5b6b7b8b9c50b1b2b3b4b5b6b7b8b9c60b1b2b3b4b5b6b7b8b9c70b1b2b3b4b5b6b7b8b9",
    "c80b1b2b3b4b5b6b7b8b9c90b1b2b3b4b5b6b7b8b9d200b1b2b3b4b5b6b7b8b9c10b1b2b3b4b5b6b7b8b9c20b1b2",
    "b3b4b5b6b7b8b9c30b1b2b3b4b5b6b7b8b9c40b1b2b3b4b5b6b7b8b9c50b1b2b3b4b5b6"]⟩]

end TypeCatalog.Text.CharacterName
