import TypeCatalog.Text.CodePoint

/-!
# Names of drawing characters and symbols

Boxes, shapes, dingbats and further arrows.
-/

namespace TypeCatalog.Text.CharacterName

/-- The names from U+2500 to U+2BFF. -/
def drawing : List NameRun := [
  ⟨0x2500, ["BOX DRAWINGS LIGHT HORIZONTALqHEAVY HORIZONTALqLIGHT VERTICALoHEAVY VERTICAL",
    "oLIGHT TRIPLE DASH HORIZONTALzdHEAVY TRIPLE DASH HORIZONTALzdLIGHT TRIPLE DASH VERTICAL",
    "zbHEAVY TRIPLE DASH VERTICALzbLIGHT QUADRUPLE DASH HORIZONTAL",
    "zgHEAVY QUADRUPLE DASH HORIZONTALzgLIGHT QUADRUPLE DASH VERTICAL",
    "zeHEAVY QUADRUPLE DASH VERTICALzeLIGHT DOWN AND RIGHTuDOWN LIGHT AND RIGHT HEAVY",
    "vHEAVY AND RIGHT LIGHTzbHEAVY DOWN AND RIGHTuLIGHT DOWN AND LEFTtDOWN LIGHT AND LEFT HEAVY",
    "uHEAVY AND LEFT LIGHTzHEAVY DOWN AND LEFTtLIGHT UP AND RIGHTsUP LIGHT AND RIGHT HEAVY",
    "vHEAVY AND RIGHT LIGHTyHEAVY UP AND RIGHTsLIGHT UP AND LEFTrUP LIGHT AND LEFT HEAVY",
    "uHEAVY AND LEFT LIGHTxHEAVY UP AND LEFTrLIGHT VERTICAL AND RIGHT",
    "yVERTICAL LIGHT AND RIGHT HEAVYzfUP HEAVY AND RIGHT DOWN LIGHTzeDOWN HEAVY AND RIGHT UP LIGHT",
    "zeVERTICAL HEAVY AND RIGHT LIGHTzfDOWN LIGHT AND RIGHT UP HEAVY",
    "zeUP LIGHT AND RIGHT DOWN HEAVYzeHEAVY VERTICAL AND RIGHTyLIGHT VERTICAL AND LEFT",
    "xVERTICAL LIGHT AND LEFT HEAVYzeUP HEAVY AND LEFT DOWN LIGHTzdDOWN HEAVY AND LEFT UP LIGHT",
    "zdVERTICAL HEAVY AND LEFT LIGHTzeDOWN LIGHT AND LEFT UP HEAVYzdUP LIGHT AND LEFT DOWN HEAVY",
    "zdHEAVY VERTICAL AND LEFTxLIGHT DOWN AND HORIZONTALyEFT HEAVY AND RIGHT DOWN LIGHT",
    "zgRIGHT HEAVY AND LEFT DOWN LIGHTzgDOWN LIGHT AND HORIZONTAL HEAVY",
    "zbHEAVY AND HORIZONTAL LIGHTzgRIGHT LIGHT AND LEFT DOWN HEAVY",
    "zgLEFT LIGHT AND RIGHT DOWN HEAVYzgHEAVY DOWN AND HORIZONTALzLIGHT UP AND HORIZONTAL",
    "wEFT HEAVY AND RIGHT UP LIGHTzeRIGHT HEAVY AND LEFT UP LIGHTzeUP LIGHT AND HORIZONTAL HEAVY",
    "zbHEAVY AND HORIZONTAL LIGHTzeRIGHT LIGHT AND LEFT UP HEAVYzeLEFT LIGHT AND RIGHT UP HEAVY",
    "zeHEAVY UP AND HORIZONTALxLIGHT VERTICAL AND HORIZONTALzdEFT HEAVY AND RIGHT VERTICAL LIGHT",
    "zkRIGHT HEAVY AND LEFT VERTICAL LIGHTzkVERTICAL LIGHT AND HORIZONTAL HEAVY",
    "zkUP HEAVY AND DOWN HORIZONTAL LIGHTzjDOWN HEAVY AND UP HORIZONTAL LIGHT",
    "zjVERTICAL HEAVY AND HORIZONTAL LIGHTzkLEFT UP HEAVY AND RIGHT DOWN LIGHT",
    "zjRIGHT UP HEAVY AND LEFT DOWN LIGHTzjLEFT DOWN HEAVY AND RIGHT UP LIGHT",
    "zjRIGHT DOWN HEAVY AND LEFT UP LIGHTzjDOWN LIGHT AND UP HORIZONTAL HEAVY",
    "zjUP LIGHT AND DOWN HORIZONTAL HEAVYzjRIGHT LIGHT AND LEFT VERTICAL HEAVY",
    "zkLEFT LIGHT AND RIGHT VERTICAL HEAVYzkHEAVY VERTICAL AND HORIZONTAL",
    "zeLIGHT DOUBLE DASH HORIZONTALzdHEAVY DOUBLE DASH HORIZONTALzdLIGHT DOUBLE DASH VERTICAL",
    "zbHEAVY DOUBLE DASH VERTICALzbDOUBLE HORIZONTALkVERTICALnWN SINGLE AND RIGHT DOUBLE",
    "xDOUBLE AND RIGHT SINGLEzbUBLE DOWN AND RIGHTtWN SINGLE AND LEFT DOUBLE",
    "wDOUBLE AND LEFT SINGLEzUBLE DOWN AND LEFTuUP SINGLE AND RIGHT DOUBLExDOUBLE AND RIGHT SINGLE",
    "zbDOUBLE UP AND RIGHTtUP SINGLE AND LEFT DOUBLEwDOUBLE AND LEFT SINGLEzDOUBLE UP AND LEFT",
    "sVERTICAL SINGLE AND RIGHT DOUBLExDOUBLE AND RIGHT SINGLEzhDOUBLE VERTICAL AND RIGHT",
    "zVERTICAL SINGLE AND LEFT DOUBLEwDOUBLE AND LEFT SINGLEzgDOUBLE VERTICAL AND LEFT",
    "wWN SINGLE AND HORIZONTAL DOUBLEzdDOUBLE AND HORIZONTAL SINGLEzgUBLE DOWN AND HORIZONTAL",
    "zbUP SINGLE AND HORIZONTAL DOUBLEzdDOUBLE AND HORIZONTAL SINGLEzgDOUBLE UP AND HORIZONTAL",
    "yVERTICAL SINGLE AND HORIZONTAL DOUBLEzdDOUBLE AND HORIZONTAL SINGLE",
    "zmDOUBLE VERTICAL AND HORIZONTALzfLIGHT ARC DOWN AND RIGHTfLEFTnUP AND LEFTeRIGHT",
    "qDIAGONAL UPPER RIGHT TO LOWER LEFTtLEFT TO LOWER RIGHTzCROSSoLEFTeUPcRIGHTfDOWNkHEAVY LEFT",
    "eUPcRIGHTfDOWNkLIGHT LEFT AND HEAVY RIGHTuUP AND HEAVY DOWNxHEAVY LEFT AND LIGHT RIGHT",
    "uUP AND LIGHT DOWNzlUPPER HALF BLOCKqLOWER ONE EIGHTH BLOCKmQUARTER BLOCKrTHREE EIGHTHS BLOCK",
    "tHALF BLOCKkFIVE EIGHTHS BLOCKsTHREE QUARTERS BLOCKuSEVEN EIGHTHS BLOCKzFULL BLOCK",
    "kLEFT SEVEN EIGHTHS BLOCKtTHREE QUARTERS BLOCKuFIVE EIGHTHS BLOCKsHALF BLOCK",
    "kTHREE EIGHTHS BLOCKtONE QUARTER BLOCKnEIGHTH BLOCKvRIGHT HALF BLOCKqLIGHT SHADElMEDIUM SHADE",
    "mDARK SHADEkUPPER ONE EIGHTH BLOCKwRIGHT ONE EIGHTH BLOCKwQUADRANT LOWER LEFTeRIGHT",
    "lUPPER LEFTa AND LOWER LEFT AND LOWER RIGHTuRIGHTlUPPER RIGHT AND LOWER LEFTeRIGHTzlRIGHT",
    "a AND LOWER LEFTa AND LOWER RIGHTzzbBLACK SQUAREmWHITE SQUAREa WITH ROUNDED CORNERS",
    "uCONTAINING BLACK SMALL SQUAREzrSQUARE WITH HORIZONTAL FILLpVERTICAL FILL",
    "nORTHOGONAL CROSSHATCH FILLzbUPPER LEFT TO LOWER RIGHT FILLyRIGHT TO LOWER LEFT FILL",
    "zfDIAGONAL CROSSHATCH FILLzlBLACK SMALL SQUAREsWHITE SMALL SQUAREsBLACK RECTANGLE",
    "pWHITE RECTANGLEpBLACK VERTICAL RECTANGLEyWHITE VERTICAL RECTANGLEyBLACK PARALLELOGRAM",
    "tWHITE PARALLELOGRAMtBLACK UP-POINTING TRIANGLEzbWHITE UP-POINTING TRIANGLE",
    "zbBLACK UP-POINTING SMALL TRIANGLEzhWHITE UP-POINTING SMALL TRIANGLE",
    "zhBLACK RIGHT-POINTING TRIANGLEzeWHITE RIGHT-POINTING TRIANGLE",
    "zeBLACK RIGHT-POINTING SMALL TRIANGLEzkWHITE RIGHT-POINTING SMALL TRIANGLE",
    "zkBLACK RIGHT-POINTING POINTERzdWHITE RIGHT-POINTING POINTERzdBLACK DOWN-POINTING TRIANGLE",
    "zdWHITE DOWN-POINTING TRIANGLEzdBLACK DOWN-POINTING SMALL TRIANGLE",
    "zjWHITE DOWN-POINTING SMALL TRIANGLEzjBLACK LEFT-POINTING TRIANGLE",
    "zdWHITE LEFT-POINTING TRIANGLEzdBLACK LEFT-POINTING SMALL TRIANGLE",
    "zjWHITE LEFT-POINTING SMALL TRIANGLEzjBLACK LEFT-POINTING POINTER",
    "zcWHITE LEFT-POINTING POINTERzcBLACK DIAMONDnWHITE DIAMONDa CONTAINING BLACK SMALL DIAMOND",
    "ztFISHEYEhLOZENGEhWHITE CIRCLEmDOTTED CIRCLEnCIRCLE WITH VERTICAL FILLzBULLSEYEhLACK CIRCLE",
    "mCIRCLE WITH LEFT HALF BLACKpRIGHT HALF BLACKqLOWER HALF BLACKqUPPER HALF BLACK",
    "kRIGHT QUADRANT BLACKzbALL BUT UPPER LEFT QUADRANT BLACKzuLEFT HALF BLACK CIRCLE",
    "wRIGHT HALF BLACK CIRCLExINVERSE BULLETgWHITE CIRCLEuUPPER HALF INVERSE WHITE CIRCLE",
    "zgLOWER HALF INVERSE WHITE CIRCLEzgUPPER LEFT QUADRANT CIRCULAR ARC",
    "zbRIGHT QUADRANT CIRCULAR ARCziLOWER RIGHT QUADRANT CIRCULAR ARCzcLEFT QUADRANT CIRCULAR ARC",
    "zhUPPER HALF CIRCLErLOWER HALF CIRCLErBLACK LOWER RIGHT TRIANGLEoLEFT TRIANGLE",
    "tUPPER LEFT TRIANGLEnRIGHT TRIANGLEzbWHITE BULLETmSQUARE WITH LEFT HALF BLACK",
    "pRIGHT HALF BLACKqUPPER LEFT DIAGONAL HALF BLACKzfLOWER RIGHT DIAGONAL HALF BLACK",
    "zsWHITE SQUARE WITH VERTICAL BISECTING LINEzkUP-POINTING TRIANGLE WITH DOT",
    "zkUP-POINTING TRIANGLE WITH LEFT HALF BLACKpRIGHT HALF BLACKzrLARGE CIRCLE",
    "mWHITE SQUARE WITH UPPER LEFT QUADRANTtLOWER LEFT QUADRANTnRIGHT QUADRANT",
    "uUPPER RIGHT QUADRANTzhCIRCLE WITH UPPER LEFT QUADRANTtLOWER LEFT QUADRANTnRIGHT QUADRANT",
    "uUPPER RIGHT QUADRANTznUPPER LEFT TRIANGLEnRIGHT TRIANGLEuLOWER LEFT TRIANGLE",
    "tWHITE MEDIUM SQUAREtBLACK MEDIUM SQUAREtWHITE MEDIUM SMALL SQUAREzBLACK MEDIUM SMALL SQUARE",
    "zLOWER RIGHT TRIANGLEuBLACK SUN WITH RAYStCLOUDfUMBRELLAiSNOWMANhCOMETfBLACK STARkWHITE STAR",
    "kLIGHTNINGjTHUNDERSTORMmSUNdASCENDING NODEoDESCENDING NODEpCONJUNCTIONlOPPOSITION",
    "kBLACK TELEPHONEpWHITE TELEPHONEpBALLOT BOXa WITH CHECKfXrSALTIREhUMBRELLA WITH RAIN DROPS",
    "yHOT BEVERAGEmWHITE SHOGI PIECErBLACK SHOGI PIECErSHAMROCK",
    "iREVERSED ROTATED FLORAL HEART BULLETzlBLACK LEFT POINTING INDEXtRIGHT POINTING INDEX",
    "zbWHITE LEFT POINTING INDEXtUP POINTING INDEXrRIGHT POINTING INDEXuDOWN POINTING INDEX",
    "zSKULL AND CROSSBONESuCAUTION SIGNmRADIOACTIVE SIGNqBIOHAZARD SIGNoCADUCEUSiANKH",
    "eORTHODOX CROSSoCHI RHOgROSS OF LORRAINEiJERUSALEMsSTAR AND CRESCENTrFARSI SYMBOLmADI SHAKTI",
    "kHAMMER AND SICKLErPEACE SYMBOLmYIN YANGiTRIGRAM FOR HEAVENgLAKEeFIREeTHUNDERhWINDdATER",
    "fMOUNTAINiEARTHrWHEEL OF DHARMAnITE FROWNING FACEnSMILING FACEsBLACK SMILING FACE",
    "sWHITE SUN WITH RAYStFIRST QUARTER MOONsLAST QUARTER MOONrMERCURYhFEMALE SIGNlEARTHfMALE SIGN",
    "jJUPITERhSATURNgURANUSgNEPTUNEhPLUTOfARIESfTAURUSgGEMINIgCANCERgLEOdVIRGOfLIBRAfSCORPIUS",
    "hAGITTARIUSlCAPRICORNjAQUARIUSiPISCESgWHITE CHESS KINGeQUEENfROOKeBISHOPgKNIGHTgPAWN",
    "qBLACK CHESS KINGeQUEENfROOKeBISHOPgKNIGHTgPAWNkSPADE SUITqWHITE HEART SUITkDIAMOND SUIT",
    "sBLACK CLUB SUITpWHITE SPADE SUITqBLACK HEART SUITkDIAMOND SUITsWHITE CLUB SUITpHOT SPRINGS",
    "lQUARTER NOTEmEIGHTH NOTElBEAMED EIGHTH NOTESmSIXTEENTH NOTESwMUSIC FLAT SIGNjNATURAL SIGN",
    "mSHARP SIGNqWEST SYRIAC CROSSrEAST SYRIAC CROSSrUNIVERSAL RECYCLING SYMBOL",
    "zbRECYCLING SYMBOL FOR TYPE-1 PLASTICSk2 PLASTICSk3 PLASTICSk4 PLASTICSk5 PLASTICSk6 PLASTICS",
    "k7 PLASTICSpGENERIC MATERIALSznBLACK UNIVERSAL RECYCLING SYMBOLzhRECYCLED PAPER SYMBOL",
    "vPARTIALLY-RECYCLED PAPER SYMBOLzfERMANENT PAPER SIGNuWHEELCHAIR SYMBOLrDIE FACE-1b2b3b4b5b6",
    "kWHITE CIRCLE WITH DOT RIGHTjTWO DOTSzbBLACK CIRCLE WITH WHITE DOT RIGHTpTWO WHITE DOTS",
    "zhMONOGRAM FOR YANGdINqDIGRAM FOR GREATER YANGmLESSER YINcANGlGREATER YINwWHITE FLAG",
    "kBLACK FLAGkHAMMER AND PICKpANCHORgCROSSED SWORDSoSTAFF OF AESCULAPIUStCALESgALEMBIChFLOWER",
    "gGEAReSTAFF OF HERMESpATOM SYMBOLlFLEUR-DE-LISmOUTLINED WHITE STAR",
    "tTHREE LINES CONVERGING RIGHTfLEFTzcWARNING SIGNmHIGH VOLTAGE SIGNrDOUBLED FEMALE SIGN",
    "lMALE SIGNrINTERLOCKED FEMALE AND MALE SIGNzhMALE AND FEMALE SIGNpWITH STROKE SIGN",
    "eAND MALE AND FEMALE SIGNzqVERTICAL MALE WITH STROKE SIGNzfHORIZONTAL MALE WITH STROKE SIGN",
    "zhMEDIUM WHITE CIRCLEmBLACK CIRCLEmSMALL WHITE CIRCLEyARRIAGE SYMBOLpDIVORCE SYMBOL",
    "oUNMARRIED PARTNERSHIP SYMBOLzdCOFFINgFUNERAL URNlNEUTERgCERESfPALLASgJUNOeVESTAfCHIRON",
    "gBLACK MOON LILITHrSEXTILEfMISEXTILElQUINCUNXiSESQUIQUADRATEnOCCER BALLlBASEBALLiSQUARED KEY",
    "lWHITE DRAUGHTS MANdKINGtBLACK DRAUGHTS MANdKINGtSNOWMAN WITHOUT SNOWtUN BEHIND CLOUDqRAIN",
    "eBLACK SNOWMANnTHUNDER CLOUD AND RAINvURNED WHITE SHOGI PIECErBLACK SHOGI PIECE",
    "yWHITE DIAMOND IN SQUARExCROSSING LANESoDISABLED CARmOPHIUCHUSjPICKeCAR SLIDING",
    "lHELMET WITH WHITE CROSSxCIRCLED CROSSING LANESvHAINSgNO ENTRY",
    "iALTERNATE ONE-WAY LEFT WAY TRAFFICzjBLACK TWO-WAY LEFT WAY TRAFFIC",
    "zfWHITE TWO-WAY LEFT WAY TRAFFICzfBLACK LEFT LANE MERGEvWHITE LEFT LANE MERGEvDRIVE SLOW SIGN",
    "pHEAVY WHITE DOWN-POINTING TRIANGLEzjLEFT CLOSED ENTRYrSQUARED SALTIRE",
    "pFALLING DIAGONAL IN WHITE CIRCLE IN BLACK SQUAREzxBLACK TRUCKlRESTRICTED LEFT ENTRY-1b2",
    "xASTRONOMICAL SYMBOL FOR URANUSzfHEAVY CIRCLE WITH STROKE AND TWO DOTS ABOVEzsPENTAGRAM",
    "jRIGHT-HANDED INTERLACED PENTAGRAMziLEFT-HANDED INTERLACED PENTAGRAMzhINVERTED PENTAGRAM",
    "sBLACK CROSS ON SHIELDvSHINTO SHRINEnCHURCHfASTLEgHISTORIC SITEnGEAR WITHOUT HUBh HANDLES",
    "rMAP SYMBOL FOR LIGHTHOUSEyOUNTAINiUMBRELLA ON GROUNDsFOUNTAINhLAG IN HOLElERRYfSAILBOAT",
    "hQUARE FOUR CORNERSsKIERfICE SKATEjPERSON WITH BALLqTENTeJAPANESE BANK SYMBOL",
    "uHEADSTONE GRAVEYARD SYMBOLzbFUEL PUMPjCUP ON BLACK SQUARE",
    "tWHITE FLAG WITH HORIZONTAL MIDDLE BLACK STRIPEzvBLACK SAFETY SCISSORSvUPPER BLADE SCISSORS",
    "uBLACK SCISSORSoLOWER BLADE SCISSORSuWHITE SCISSORSiHEAVY CHECK MARKwTELEPHONE LOCATION SIGN",
    "wAPE DRIVEkAIRPLANEiENVELOPEiRAISED FISTeHANDlVICTORY HANDmWRITING HANDmLOWER RIGHT PENCIL",
    "sPENCILgUPPER RIGHT PENCILsWHITE NIBjBLACK NIBjCHECK MARKkHEAVY CHECK MARKqMULTIPLICATION X",
    "qHEAVY MULTIPLICATION XwBALLOT XiHEAVY BALLOT XoOUTLINED GREEK CROSSuHEAVY GREEK CROSS",
    "rOPEN CENTRE CROSSrHEAVY OPEN CENTRE CROSSxLATIN CROSSlSHADOWED WHITE LATIN CROSS",
    "zbOUTLINED LATIN CROSSuMALTESE CROSSnSTAR OF DAVIDnFOUR TEARDROP-SPOKED ASTERISK",
    "yBALLOON-SPOKED ASTERISKzdHEAVY FOUR BALLOON-SPOKED ASTERISKzjFOUR CLUB-SPOKED ASTERISK",
    "zBLACK FOUR POINTED STARxWHITE FOUR POINTED STARxSPARKLEShTRESS OUTLINED WHITE STAR",
    "zbCIRCLED WHITE STARsOPEN CENTRE BLACK STARwBLACK CENTRE WHITE STARxOUTLINED BLACK STAR",
    "tHEAVY OUTLINED BLACK STARzPINWHEEL STARnSHADOWED WHITE STARtHEAVY ASTERISK",
    "oOPEN CENTRE ASTERISKuEIGHT SPOKED ASTERISKpPOINTED BLACK STARkPINWHEEL STAR",
    "zcSIX POINTED BLACK STARwEIGHT POINTED RECTILINEAR BLACK STAR",
    "zlHEAVY EIGHT POINTED RECTILINEAR BLACK STARzrTWELVE POINTED BLACK STAR",
    "zSIXTEEN POINTED ASTERISKyTEARDROP-SPOKED ASTERISKyOPEN CENTRE TEARDROP-SPOKED ASTERISK",
    "zlHEAVY TEARDROP-SPOKED ASTERISKzfSIX PETALLED BLACK AND WHITE FLORETTEzmBLACK FLORETTE",
    "oWHITE FLORETTEoEIGHT PETALLED OUTLINED BLACK FLORETTE",
    "znCIRCLED OPEN CENTRE EIGHT POINTED STARznHEAVY TEARDROP-SPOKED PINWHEEL ASTERISKzoSNOWFLAKE",
    "jTIGHT TRIFOLIATE SNOWFLAKEzbHEAVY CHEVRON SNOWFLAKExSPARKLEhHEAVY SPARKLE",
    "nBALLOON-SPOKED ASTERISKxEIGHT TEARDROP-SPOKED PROPELLER ASTERISK",
    "zpHEAVY EIGHT TEARDROP-SPOKED PROPELLER ASTERISKzvCROSS MARKkSHADOWED WHITE CIRCLE",
    "vNEGATIVE SQUARED CROSS MARKzcLOWER RIGHT DROP-SHADOWED WHITE SQUARE",
    "znUPPER RIGHT DROP-SHADOWED WHITE SQUAREznLOWER RIGHT SHADOWED WHITE SQUARE",
    "ziUPPER RIGHT SHADOWED WHITE SQUAREziBLACK QUESTION MARK ORNAMENT",
    "zdWHITE QUESTION MARK ORNAMENTwEXCLAMATION MARK ORNAMENTzgBLACK DIAMOND MINUS WHITE X",
    "zcHEAVY EXCLAMATION MARK SYMBOLzeLIGHT VERTICAL BARsMEDIUM VERTICAL BARtHEAVY VERTICAL BAR",
    "mSINGLE TURNED COMMA QUOTATION MARK ORNAMENTzlCOMMA QUOTATION MARK ORNAMENT",
    "zlDOUBLE TURNED COMMA QUOTATION MARK ORNAMENTzlCOMMA QUOTATION MARK ORNAMENT",
    "zlLOW SINGLE COMMA QUOTATION MARK ORNAMENTzlDOUBLE COMMA QUOTATION MARK ORNAMENT",
    "zvCURVED STEM PARAGRAPH SIGN ORNAMENTzkHEAVY EXCLAMATION MARK ORNAMENT",
    "zHEART EXCLAMATION MARK ORNAMENTzgBLACK HEARTrROTATED HEAVY BLACK HEART BULLETzhFLORAL HEART",
    "mROTATED FLORAL HEART BULLETzcMEDIUM LEFT PARENTHESIS ORNAMENTzRIGHT PARENTHESIS ORNAMENT",
    "zbFLATTENED LEFT PARENTHESIS ORNAMENTzRIGHT PARENTHESIS ORNAMENT",
    "zlLEFT-POINTING ANGLE BRACKET ORNAMENTzlRIGHT-POINTING ANGLE BRACKET ORNAMENT",
    "ztHEAVY LEFT-POINTING ANGLE QUOTATION MARK ORNAMENT",
    "zsRIGHT-POINTING ANGLE QUOTATION MARK ORNAMENTztLEFT-POINTING ANGLE BRACKET ORNAMENT",
    "zlRIGHT-POINTING ANGLE BRACKET ORNAMENTzsLIGHT LEFT TORTOISE SHELL BRACKET ORNAMENT",
    "zlRIGHT TORTOISE SHELL BRACKET ORNAMENTzsMEDIUM LEFT CURLY BRACKET ORNAMENT",
    "zcRIGHT CURLY BRACKET ORNAMENTzkDINGBAT NEGATIVE CIRCLED DIGIT ONEdTWOcHREEfFOURdIVEeSIXcEVEN",
    "fEIGHTfNINEkNUMBER TENzcCIRCLED SANS-SERIF DIGIT ONEdTWOcHREEfFOURdIVEeSIXcEVENfEIGHTfNINE",
    "kNUMBER TENzeNEGATIVE CIRCLED SANS-SERIF DIGIT ONEdTWOcHREEfFOURdIVEeSIXcEVENfEIGHTfNINE",
    "kNUMBER TENzvHEAVY WIDE-HEADED RIGHTWARDS ARROWzdPLUS SIGNjMINUS SIGNkDIVISION SIGN",
    "nSOUTH EAST ARROWqRIGHTWARDS ARROWqNORTH EAST ARROWwDRAFTING POINT RIGHTWARDS ARROW",
    "zgHEAVY ROUND-TIPPED RIGHTWARDS ARROWzkTRIANGLE-HEADED RIGHTWARDS ARROW",
    "zhHEAVY TRIANGLE-HEADED RIGHTWARDS ARROWznDASHED TRIANGLE-HEADED RIGHTWARDS ARROW",
    "zoHEAVY DASHED TRIANGLE-HEADED RIGHTWARDS ARROWzuBLACK RIGHTWARDS ARROW",
    "wTHREE-D TOP-LIGHTED RIGHTWARDS ARROWHEADzhBOTTOM-LIGHTED RIGHTWARDS ARROWHEAD",
    "zsBLACK RIGHTWARDS ARROWHEADzbHEAVY BLACK CURVED DOWNWARDS AND RIGHTWARDS ARROW",
    "zfUPWARDS AND RIGHTWARDS ARROWzwSQUAT BLACK RIGHTWARDS ARROW",
    "zdHEAVY CONCAVE-POINTED BLACK RIGHTWARDS ARROWztRIGHT-SHADED WHITE RIGHTWARDS ARROW",
    "zkLEFT-SHADED WHITE RIGHTWARDS ARROWzjBACK-TILTED SHADOWED WHITE RIGHTWARDS ARROW",
    "zsFRONT-TILTED SHADOWED WHITE RIGHTWARDS ARROW",
    "ztHEAVY LOWER RIGHT-SHADOWED WHITE RIGHTWARDS ARROW",
    "zsUPPER RIGHT-SHADOWED WHITE RIGHTWARDS ARROW",
    "zyNOTCHED LOWER RIGHT-SHADOWED WHITE RIGHTWARDS ARROWzzbCURLY LOOP",
    "kNOTCHED UPPER RIGHT-SHADOWED WHITE RIGHTWARDS ARROWzzbCIRCLED HEAVY WHITE RIGHTWARDS ARROW",
    "zlWHITE-FEATHERED RIGHTWARDS ARROWzhBLACK-FEATHERED SOUTH EAST ARROWqRIGHTWARDS ARROW",
    "qNORTH EAST ARROWzhHEAVY BLACK-FEATHERED SOUTH EAST ARROWqRIGHTWARDS ARROWqNORTH EAST ARROW",
    "znTEARDROP-BARBED RIGHTWARDS ARROWzhHEAVY TEARDROP-SHANKED RIGHTWARDS ARROW",
    "zoWEDGE-TAILED RIGHTWARDS ARROWzeHEAVY WEDGE-TAILED RIGHTWARDS ARROW",
    "zkOPEN-OUTLINED RIGHTWARDS ARROWzfDOUBLE CURLY LOOPrTHREE DIMENSIONAL ANGLE",
    "xWHITE TRIANGLE CONTAINING SMALL WHITE TRIANGLEzvPERPENDICULARnOPEN SUBSETePERSET",
    "nLEFT S-SHAPED BAG DELIMITERzcRIGHT S-SHAPED BAG DELIMITERzdOR WITH DOT INSIDE",
    "sREVERSE SOLIDUS PRECEDING SUBSETzhSUPERSET PRECEDING SOLIDUS",
    "zbVERTICAL BAR WITH HORIZONTAL STROKEzkMATHEMATICAL RISING DIAGONALzdLONG DIVISION",
    "nMATHEMATICAL FALLING DIAGONALzeSQUARED LOGICAL ANDdORsWHITE DIAMOND WITH CENTRED DOT",
    "zfAND WITH DOTmELEMENT OF OPENING UPWARDSzbLOWER RIGHT CORNER WITH DOT",
    "zcUPPER LEFT CORNER WITH DOTzbLEFT OUTER JOINpRIGHT OUTER JOINqFULL OUTER JOINpLARGE UP TACK",
    "hDOWN TACKoEFT AND RIGHT DOUBLE TURNSTILEqTACKoMULTIMAPmONG RIGHT TACKkLEFT TACK",
    "oUP TACK WITH CIRCLE ABOVEzLOZENGE DIVIDED BY HORIZONTAL RULEzjWHITE CONCAVE-SIDED DIAMOND",
    "a WITH LEFTWARDS TICKoRIGHTWARDS TICKzrSQUARE WITH LEFTWARDS TICKoRIGHTWARDS TICK",
    "ziMATHEMATICAL LEFT WHITE SQUARE BRACKETzRIGHT WHITE SQUARE BRACKETzbLEFT ANGLE BRACKET",
    "sRIGHT ANGLE BRACKETtLEFT DOUBLE ANGLE BRACKETzRIGHT DOUBLE ANGLE BRACKET",
    "zbLEFT WHITE TORTOISE SHELL BRACKETziRIGHT WHITE TORTOISE SHELL BRACKET",
    "zjLEFT FLATTENED PARENTHESISzbRIGHT FLATTENED PARENTHESISzpUPWARDS QUADRUPLE ARROW",
    "xDOWNWARDS QUADRUPLE ARROWzANTICLOCKWISE GAPPED CIRCLE ARROWziCLOCKWISE GAPPED CIRCLE ARROW",
    "zeRIGHT ARROW WITH CIRCLED PLUSzeLONG LEFTWARDS ARROWpRIGHTWARDS ARROWqLEFT RIGHT ARROW",
    "mWARDS DOUBLE ARROWwRIGHTWARDS DOUBLE ARROWxLEFT RIGHT DOUBLE ARROWtWARDS ARROW FROM BAR",
    "yRIGHTWARDS ARROW FROM BARzLEFTWARDS DOUBLE ARROW FROM BARzgRIGHTWARDS DOUBLE ARROW FROM BAR",
    "vSQUIGGLE ARROWzfBRAILLE PATTERN BLANKfDOTS-1b2b12c3b13c23c123d4b14c24c124d34c134d234d1234e5",
    "b15c25c125d35c135d235d1235e45c145d245d1245e345d1345e2345e12345f6b16c26c126d36c136d236d1236e46",
    "c146d246d1246e346d1346e2346e12346f56c156d256d1256e356d1356e2356e12356f456d1456e2456e12456",
    "f3456e13456f23456f123456g7b17c27c127d37c137d237d1237e47c147d247d1247e347d1347e2347e12347f57",
    "c157d257d1257e357d1357e2357e12357f457d1457e2457e12457f3457e13457f23457f123457g67c167d267d1267",
    "e367d1367e2367e12367f467d1467e2467e12467f3467e13467f23467f123467g567d1567e2567e12567f3567",
    "e13567f23567f123567g4567e14567f24567f124567g34567f134567g234567g1234567h8b18c28c128d38c138",
    "d238d1238e48c148d248d1248e348d1348e2348e12348f58c158d258d1258e358d1358e2358e12358f458d1458",
    "e2458e12458f3458e13458f23458f123458g68c168d268d1268e368d1368e2368e12368f468d1468e2468e12468",
    "f3468e13468f23468f123468g568d1568e2568e12568f3568e13568f23568f123568g4568e14568f24568f124568",
    "g34568f134568g234568g1234568h78c178d278d1278e378d1378e2378e12378f478d1478e2478e12478f3478",
    "e13478f23478f123478g578d1578e2578e12578f3578e13578f23578f123578g4578e14578f24578f124578g34578",
    "f134578g234578g1234578h678d1678e2678e12678f3678e13678f23678f123678g4678e14678f24678f124678",
    "g34678f134678g234678g1234678h5678e15678f25678f125678g35678f135678g235678g1235678h45678f145678",
    "g245678g1245678h345678g1345678h2345678h12345678",
    "zeRIGHTWARDS TWO-HEADED ARROW WITH VERTICAL STROKEpDOUBLE VERTICAL STROKE",
    "zzfLEFTWARDS DOUBLE ARROW WITH VERTICAL STROKEzsRIGHTWARDS DOUBLE ARROW WITH VERTICAL STROKE",
    "ztLEFT RIGHT DOUBLE ARROW WITH VERTICAL STROKEztRIGHTWARDS TWO-HEADED ARROW FROM BAR",
    "zlLEFTWARDS DOUBLE ARROW FROM BARzgRIGHTWARDS DOUBLE ARROW FROM BAR",
    "zhDOWNWARDS ARROW WITH HORIZONTAL STROKEznUPWARDS ARROW WITH HORIZONTAL STROKEzdTRIPLE ARROW",
    "uDOWNWARDS TRIPLE ARROWwLEFTWARDS DOUBLE DASH ARROWzcRIGHTWARDS DOUBLE DASH ARROW",
    "zdLEFTWARDS TRIPLE DASH ARROWzcRIGHTWARDS TRIPLE DASH ARROWqWO-HEADED TRIPLE DASH ARROW",
    "zdARROW WITH DOTTED STEMziUPWARDS ARROW TO BARuDOWNWARDS ARROW TO BAR",
    "wRIGHTWARDS ARROW WITH TAIL WITH VERTICAL STROKEpDOUBLE VERTICAL STROKE",
    "zsTWO-HEADED ARROW WITH TAILa WITH VERTICAL STROKEpDOUBLE VERTICAL STROKE",
    "zzpLEFTWARDS ARROW-TAILuRIGHTWARDS ARROW-TAILvLEFTWARDS DOUBLE ARROW-TAIL",
    "zcRIGHTWARDS DOUBLE ARROW-TAILzdLEFTWARDS ARROW TO BLACK DIAMOND",
    "zhRIGHTWARDS ARROW TO BLACK DIAMONDziLEFTWARDS ARROW FROM BAR TO BLACK DIAMOND",
    "zqRIGHTWARDS ARROW FROM BAR TO BLACK DIAMONDzrNORTH WEST AND SOUTH EAST ARROW",
    "zEAST AND SOUTH WEST ARROWzWEST ARROW WITH HOOKuEAST ARROW WITH HOOK",
    "zbSOUTH EAST ARROW WITH HOOKuWEST ARROW WITH HOOKzbNORTH WEST ARROW AND NORTH EAST ARROW",
    "zgEAST ARROW AND SOUTH EAST ARROWzmSOUTH EAST ARROW AND SOUTH WEST ARROW",
    "zgWEST ARROW AND NORTH WEST ARROWzmRISING DIAGONAL CROSSING FALLING DIAGONAL",
    "zqFALLING DIAGONAL CROSSING RISING DIAGONALzqSOUTH EAST ARROW CROSSING NORTH EAST ARROW",
    "zrNORTH EAST ARROW CROSSING SOUTH EAST ARROWzrFALLING DIAGONAL CROSSING NORTH EAST ARROW",
    "zrRISING DIAGONAL CROSSING SOUTH EAST ARROWzqNORTH EAST ARROW CROSSING NORTH WEST ARROW",
    "zlWEST ARROW CROSSING NORTH EAST ARROWzrWAVE ARROW POINTING DIRECTLY RIGHT",
    "zjARROW POINTING RIGHTWARDS THEN CURVING UPWARDShDOWNWARDSziDOWNWARDS THEN CURVING LEFTWARDS",
    "jRIGHTWARDSzxRIGHT-SIDE ARC CLOCKWISE ARROWzfLEFT-SIDE ARC ANTICLOCKWISE ARROW",
    "ziTOP ARC ANTICLOCKWISE ARROWzcBOTTOM ARC ANTICLOCKWISE ARROW",
    "zfTOP ARC CLOCKWISE ARROW WITH MINUSzbANTICLOCKWISE ARROW WITH PLUS",
    "zmLOWER RIGHT SEMICIRCULAR CLOCKWISE ARROWzjLEFT SEMICIRCULAR ANTICLOCKWISE ARROW",
    "zsANTICLOCKWISE CLOSED CIRCLE ARROWziCLOCKWISE CLOSED CIRCLE ARROW",
    "zeRIGHTWARDS ARROW ABOVE SHORT LEFTWARDS ARROWztLEFTWARDS ARROW ABOVE SHORT RIGHTWARDS ARROW",
    "ztSHORT RIGHTWARDS ARROW ABOVE LEFTWARDS ARROWztRIGHTWARDS ARROW WITH PLUS BELOW",
    "zhLEFTWARDS ARROW WITH PLUS BELOWzgRIGHTWARDS ARROW THROUGH X",
    "zbLEFT RIGHT ARROW THROUGH SMALL CIRCLEzmUPWARDS TWO-HEADED ARROW FROM SMALL CIRCLE",
    "zrLEFT BARB UP RIGHT BARB DOWN HARPOONzbDOWN RIGHT BARB UP HARPOON",
    "zlUP BARB RIGHT DOWN BARB LEFT HARPOONzdLEFT DOWN BARB RIGHT HARPOON",
    "zlLEFT BARB UP RIGHT BARB UP HARPOONzjUP BARB RIGHT DOWN BARB RIGHT HARPOON",
    "zmLEFT BARB DOWN RIGHT BARB DOWN HARPOONznUP BARB LEFT DOWN BARB LEFT HARPOON",
    "zkLEFTWARDS HARPOON WITH BARB UP TO BARzmRIGHTWARDS HARPOON WITH BARB UP TO BAR",
    "znUPWARDS HARPOON WITH BARB RIGHT TO BARznDOWNWARDS HARPOON WITH BARB RIGHT TO BAR",
    "zpLEFTWARDS HARPOON WITH BARB DOWN TO BARzoRIGHTWARDS HARPOON WITH BARB DOWN TO BAR",
    "zpUPWARDS HARPOON WITH BARB LEFT TO BARzmDOWNWARDS HARPOON WITH BARB LEFT TO BAR",
    "zoLEFTWARDS HARPOON WITH BARB UP FROM BARzoRIGHTWARDS HARPOON WITH BARB UP FROM BAR",
    "zpUPWARDS HARPOON WITH BARB RIGHT FROM BARzpDOWNWARDS HARPOON WITH BARB RIGHT FROM BAR",
    "zrLEFTWARDS HARPOON WITH BARB DOWN FROM BARzqRIGHTWARDS HARPOON WITH BARB DOWN FROM BAR",
    "zrUPWARDS HARPOON WITH BARB LEFT FROM BARzoDOWNWARDS HARPOON WITH BARB LEFT FROM BAR",
    "zqLEFTWARDS HARPOON WITH BARB UP ABOVE LEFTWARDS HARPOON WITH BARB DOWN",
    "zztUPWARDS HARPOON WITH BARB LEFT BESIDE UPWARDS HARPOON WITH BARB RIGHT",
    "zztRIGHTWARDS HARPOON WITH BARB UP ABOVE RIGHTWARDS HARPOON WITH BARB DOWN",
    "zzvDOWNWARDS HARPOON WITH BARB LEFT BESIDE DOWNWARDS HARPOON WITH BARB RIGHT",
    "zzxLEFTWARDS HARPOON WITH BARB UP ABOVE RIGHTWARDS HARPOON WITH BARB UP",
    "zpDOWN ABOVE RIGHTWARDS HARPOON WITH BARB DOWN",
    "zzwRIGHTWARDS HARPOON WITH BARB UP ABOVE LEFTWARDS HARPOON WITH BARB UP",
    "zoDOWN ABOVE LEFTWARDS HARPOON WITH BARB DOWN",
    "zzwLEFTWARDS HARPOON WITH BARB UP ABOVE LONG DASHsDOWN BELOW LONG DASH",
    "zxRIGHTWARDS HARPOON WITH BARB UP ABOVE LONG DASHsDOWN BELOW LONG DASH",
    "zyUPWARDS HARPOON WITH BARB LEFT BESIDE DOWNWARDS HARPOON WITH BARB RIGHT",
    "zzvDOWNWARDS HARPOON WITH BARB LEFT BESIDE UPWARDS HARPOON WITH BARB RIGHT",
    "zzvRIGHT DOUBLE ARROW WITH ROUNDED HEADzlEQUALS SIGN ABOVE RIGHTWARDS ARROW",
    "zjTILDE OPERATOR ABOVE RIGHTWARDS ARROWzmLEFTWARDS ARROW ABOVE TILDE OPERATOR",
    "zlRIGHTWARDS ARROW ABOVE TILDE OPERATORoALMOST EQUAL TOznLESS-THAN ABOVE LEFTWARDS ARROW",
    "zeFTWARDS ARROW THROUGH LESS-THANziGREATER-THAN ABOVE RIGHTWARDS ARROW",
    "zkSUBSET ABOVE RIGHTWARDS ARROWzeLEFTWARDS ARROW THROUGH SUBSET",
    "zfSUPERSET ABOVE LEFTWARDS ARROWzfLEFT FISH TAILoRIGHT FISH TAILpUP FISH TAILmDOWN FISH TAIL",
    "oTRIPLE VERTICAL BAR DELIMITERzeZ NOTATION SPOTeTYPE COLONvLEFT WHITE CURLY BRACKET",
    "yRIGHT WHITE CURLY BRACKETzLEFT WHITE PARENTHESISwRIGHT WHITE PARENTHESIS",
    "xZ NOTATION LEFT IMAGE BRACKETsRIGHT IMAGE BRACKETtLEFT BINDING BRACKETuRIGHT BINDING BRACKET",
    "zhLEFT SQUARE BRACKET WITH UNDERBARziRIGHT SQUARE BRACKET WITH UNDERBAR",
    "zjLEFT SQUARE BRACKET WITH TICK IN TOP CORNER",
    "zsRIGHT SQUARE BRACKET WITH TICK IN BOTTOM CORNER",
    "zwLEFT SQUARE BRACKET WITH TICK IN BOTTOM CORNER",
    "zvRIGHT SQUARE BRACKET WITH TICK IN TOP CORNERztLEFT ANGLE BRACKET WITH DOT",
    "zcRIGHT ANGLE BRACKET WITH DOTzdLEFT ARC LESS-THAN BRACKETzbRIGHT ARC GREATER-THAN BRACKET",
    "zfDOUBLE LEFT ARC GREATER-THAN BRACKETzeRIGHT ARC LESS-THAN BRACKET",
    "zjLEFT BLACK TORTOISE SHELL BRACKETziRIGHT BLACK TORTOISE SHELL BRACKETzjDOTTED FENCE",
    "mVERTICAL ZIGZAG LINEuMEASURED ANGLE OPENING LEFTzcRIGHT ANGLE VARIANT WITH SQUARE",
    "zgMEASURED RIGHT ANGLE WITH DOTzeANGLE WITH S INSIDEsCUTE ANGLElSPHERICAL ANGLE OPENING LEFT",
    "eUPzbTURNED ANGLEmREVERSED ANGLEoANGLE WITH UNDERBARtREVERSED ANGLE WITH UNDERBAR",
    "zdOBLIQUE ANGLE OPENING UPcDOWN",
    "zbMEASURED ANGLE WITH OPEN ARM ENDING IN ARROW POINTING UP AND RIGHTfLEFTlDOWN AND RIGHTfLEFT",
    "nRIGHT AND UPmLEFT AND UPlRIGHT AND DOWNoLEFT AND DOWNzzrREVERSED EMPTY SET",
    "sEMPTY SET WITH OVERBARhSMALL CIRCLE ABOVEsRIGHT ARROW ABOVErLEFT ARROW ABOVE",
    "zgCIRCLE WITH HORIZONTAL BARuD VERTICAL BARmPARALLELiREVERSE SOLIDUSpPERPENDICULAR",
    "p DIVIDED BY HORIZONTAL BAR AND TOP HALF DIVIDED BY VERTICAL BARzzmWITH SUPERIMPOSED X",
    "uD ANTICLOCKWISE-ROTATED DIVISION SIGNzsUP ARROW THROUGH CIRCLExCIRCLED WHITE BULLETmBULLET",
    "gLESS-THANjGREATER-THANo WITH SMALL CIRCLE TO THE RIGHTzTWO HORIZONTAL STROKES TO THE RIGHT",
    "zwSQUARED RISING DIAGONAL SLASHvFALLING DIAGONAL SLASHwASTERISKiSMALL CIRCLElQUARE",
    "oTWO JOINED SQUARESrRIANGLE WITH DOT ABOVEjUNDERBARwS IN TRIANGLE",
    "nTRIANGLE WITH SERIFS AT BOTTOMzfRIGHT TRIANGLE ABOVE LEFT TRIANGLE",
    "zjLEFT TRIANGLE BESIDE VERTICAL BARziVERTICAL BAR BESIDE RIGHT TRIANGLE",
    "zjBOWTIE WITH LEFT HALF BLACKpRIGHT HALF BLACKzcLACK BOWTIEmTIMES WITH LEFT HALF BLACK",
    "pRIGHT HALF BLACKzcWHITE HOURGLASSpBLACK HOURGLASSpLEFT WIGGLY FENCErRIGHT WIGGLY FENCE",
    "sLEFT DOUBLE WIGGLY FENCEyRIGHT DOUBLE WIGGLY FENCEzINCOMPLETE INFINITYtTIE OVER INFINITY",
    "rINFINITY NEGATED WITH VERTICAL BARzjDOUBLE-ENDED MULTIMAPvSQUARE WITH CONTOURED OUTLINE",
    "zeINCREASES ASmSHUFFLE PRODUCTpEQUALS SIGN AND SLANTED PARALLELa WITH TILDE ABOVE",
    "zyIDENTICAL TO AND SLANTED PARALLELziGLEICH STARKmTHERMODYNAMIC",
    "nDOWN-POINTING TRIANGLE WITH LEFT HALF BLACKpRIGHT HALF BLACKztBLACK DIAMOND WITH DOWN ARROW",
    "xLOZENGEnWHITE CIRCLE WITH DOWN ARROWzdBLACK CIRCLE WITH DOWN ARROW",
    "zdERROR-BARRED WHITE SQUAREmBLACK SQUAREmWHITE DIAMONDnBLACK DIAMONDnWHITE CIRCLE",
    "mBLACK CIRCLEzRULE-DELAYEDlEVERSE SOLIDUS OPERATORySOLIDUS WITH OVERBAR",
    "uREVERSE SOLIDUS WITH HORIZONTAL STROKEznBIG SOLIDUShREVERSE SOLIDUStDOUBLE PLUSlTRIPLE PLUS",
    "lLEFT-POINTING CURVED ANGLE BRACKETzjRIGHT-POINTING CURVED ANGLE BRACKETzkTINYeMINY",
    "eN-ARY CIRCLED DOT OPERATORmPLUS OPERATORnTIMES OPERATORwUNION OPERATOR WITH DOTdPLUS",
    "ySQUARE INTERSECTION OPERATORvUNION OPERATORzcTWO LOGICAL AND OPERATORmOR OPERATOR",
    "xN-ARY TIMES OPERATORuMODULO TWO SUMoSUMMATION WITH INTEGRALxQUADRUPLE INTEGRAL OPERATOR",
    "zcFINITE PART INTEGRALuINTEGRAL WITH DOUBLE STROKEsAVERAGE WITH SLASHzcCIRCULATION FUNCTION",
    "uANTICLOCKWISE INTEGRATIONzLINE INTEGRATION WITH RECTANGULAR PATH AROUND POLE",
    "zdSEMICIRCULAR PATH AROUND POLEzjNOT INCLUDING THE POLEzoINTEGRAL AROUND A POINT OPERATOR",
    "zhQUATERNION INTEGRAL OPERATORzdINTEGRAL WITH LEFTWARDS ARROW WITH HOOKzTIMES SIGN",
    "kINTERSECTIONmUNIONfOVERBARhUNDERBARwJOINeLARGE LEFT TRIANGLE OPERATOR",
    "zdZ NOTATION SCHEMA COMPOSITIONlPIPINGfROJECTIONzdPLUS SIGN WITH SMALL CIRCLE ABOVE",
    "sCIRCUMFLEX ACCENT ABOVExTILDE ABOVElDOT BELOWjTILDE BELOWlSUBSCRIPT TWOnBLACK TRIANGLE",
    "zeMINUS SIGN WITH COMMA ABOVElDOT BELOWjFALLING DOTSmRISING DOTS",
    "zcPLUS SIGN IN LEFT HALF CIRCLEqRIGHT HALF CIRCLEzfVECTOR OR CROSS PRODUCT",
    "xMULTIPLICATION SIGN WITH DOT ABOVEjUNDERBARziSEMIDIRECT PRODUCT WITH BOTTOM CLOSED",
    "zlMASH PRODUCTnMULTIPLICATION SIGN IN LEFT HALF CIRCLEqRIGHT HALF CIRCLE",
    "zpCIRCLED MULTIPLICATION SIGN WITH CIRCUMFLEX ACCENTzzMULTIPLICATION SIGN IN DOUBLE CIRCLE",
    "zlCIRCLED DIVISION SIGNvPLUS SIGN IN TRIANGLEvMINUS SIGN IN TRIANGLE",
    "vULTIPLICATION SIGN IN TRIANGLEzgINTERIOR PRODUCTqRIGHTHAND INTERIOR PRODUCT",
    "zbZ NOTATION RELATIONAL COMPOSITIONziAMALGAMATION OR COPRODUCTzINTERSECTION WITH DOT",
    "vUNION WITH MINUS SIGNkOVERBARsINTERSECTION WITH OVERBARhLOGICAL ANDzeUNION WITH LOGICAL OR",
    "pABOVE INTERSECTIONyINTERSECTION ABOVE UNIONyUNION ABOVE BAR ABOVE INTERSECTION",
    "zjINTERSECTION ABOVE BAR ABOVE UNIONzjUNION BESIDE AND JOINED WITH UNION",
    "zjINTERSECTION BESIDE AND JOINED WITH INTERSECTIONzxCLOSED UNION WITH SERIFS",
    "rINTERSECTION WITH SERIFSzgDOUBLE SQUARE INTERSECTIONmUNION",
    "tCLOSED UNION WITH SERIFS AND SMASH PRODUCTzrLOGICAL AND WITH DOT ABOVEsOR WITH DOT ABOVE",
    "zDOUBLE LOGICAL ANDdORrTWO INTERSECTING LOGICAL ANDdORzcSLOPING LARGE ORcAND",
    "rLOGICAL OR OVERLAPPING LOGICAL ANDzbAND WITH MIDDLE STEMuOR WITH MIDDLE STEM",
    "tAND WITH HORIZONTAL DASHyOR WITH HORIZONTAL DASHxAND WITH DOUBLE OVERBARoUNDERBAR",
    "iDOUBLE UNDERBARzhSMALL VEE WITH UNDERBARxLOGICAL OR WITH DOUBLE OVERBARhUNDERBAR",
    "zgZ NOTATION DOMAIN ANTIRESTRICTIONwRANGE ANTIRESTRICTIONzhEQUALS SIGN WITH DOT BELOW",
    "zbIDENTICAL WITH DOT ABOVEyTRIPLE HORIZONTAL BAR WITH DOUBLE VERTICAL STROKE",
    "wTRIPLE VERTICAL STROKEzxILDE OPERATOR WITH DOT ABOVEjRISING DOTSzgSIMILAR MINUS SIMILAR",
    "vCONGRUENT WITH DOT ABOVEyEQUALS WITH ASTERISKuALMOST EQUAL TO WITH CIRCUMFLEX ACCENT",
    "zmPPROXIMATELY EQUAL OR EQUAL TOzgEQUALS SIGN ABOVE PLUS SIGNzcPLUS SIGN ABOVE EQUALS SIGN",
    "zcEQUALS SIGN ABOVE TILDE OPERATORzhDOUBLE COLON EQUALsTWO CONSECUTIVE EQUALS SIGNS",
    "zcHREE CONSECUTIVE EQUALS SIGNSzfEQUALS SIGN WITH TWO DOTS ABOVE AND TWO DOTS BELOW",
    "zwIVALENT WITH FOUR DOTS ABOVEzgLESS-THAN WITH CIRCLE INSIDEzdGREATER-THAN WITH CIRCLE INSIDE",
    "zgLESS-THAN WITH QUESTION MARK ABOVEzjGREATER-THAN WITH QUESTION MARK ABOVE",
    "zmLESS-THAN OR SLANTED EQUAL TOzeGREATER-THAN OR SLANTED EQUAL TO",
    "zhLESS-THAN OR SLANTED EQUAL TO WITH DOT INSIDE",
    "zuGREATER-THAN OR SLANTED EQUAL TO WITH DOT INSIDE",
    "zxLESS-THAN OR SLANTED EQUAL TO WITH DOT ABOVE",
    "ztGREATER-THAN OR SLANTED EQUAL TO WITH DOT ABOVE",
    "zwLESS-THAN OR SLANTED EQUAL TO WITH DOT ABOVE RIGHT",
    "zzGREATER-THAN OR SLANTED EQUAL TO WITH DOT ABOVE LEFTzzcLESS-THAN OR APPROXIMATE",
    "yGREATER-THAN OR APPROXIMATEzcLESS-THAN AND SINGLE-LINE NOT EQUAL TO",
    "znGREATER-THAN AND SINGLE-LINE NOT EQUAL TOzqLESS-THAN AND NOT APPROXIMATE",
    "zeGREATER-THAN AND NOT APPROXIMATEzhLESS-THAN ABOVE DOUBLE-LINE EQUAL ABOVE GREATER-THAN",
    "zzcGREATER-THAN ABOVE DOUBLE-LINE EQUAL ABOVE LESS-THANzzcLESS-THAN ABOVE SIMILAR OR EQUAL",
    "zhGREATER-THAN ABOVE SIMILAR OR EQUALzkLESS-THAN ABOVE SIMILAR ABOVE GREATER-THAN",
    "zrGREATER-THAN ABOVE SIMILAR ABOVE LESS-THAN",
    "zrLESS-THAN ABOVE GREATER-THAN ABOVE DOUBLE-LINE EQUAL",
    "zzcGREATER-THAN ABOVE LESS-THAN ABOVE DOUBLE-LINE EQUAL",
    "zzcLESS-THAN ABOVE SLANTED EQUAL ABOVE GREATER-THAN ABOVE SLANTED EQUAL",
    "zzsGREATER-THAN ABOVE SLANTED EQUAL ABOVE LESS-THAN ABOVE SLANTED EQUAL",
    "zzsSLANTED EQUAL TO OR LESS-THANjGREATER-THANmLESS-THAN WITH DOT INSIDE",
    "zGREATER-THAN WITH DOT INSIDEzxDOUBLE-LINE EQUAL TO OR LESS-THANjGREATER-THAN",
    "ySLANTED EQUAL TO OR LESS-THANjGREATER-THANztSIMILAR OR LESS-THANjGREATER-THAN",
    "pABOVE LESS-THAN ABOVE EQUALS SIGNzcGREATER-THAN ABOVE EQUALS SIGNztDOUBLE NESTED LESS-THAN",
    "jGREATER-THANmLESS-THAN WITH UNDERBARzmGREATER-THAN OVERLAPPING LESS-THANvBESIDE LESS-THAN",
    "zeLESS-THAN CLOSED BY CURVEzGREATER-THAN CLOSED BY CURVE",
    "zdLESS-THAN CLOSED BY CURVE ABOVE SLANTED EQUAL",
    "zuGREATER-THAN CLOSED BY CURVE ABOVE SLANTED EQUALzxSMALLER THANmLARGER THAN",
    "lSMALLER THAN OR EQUAL TOyLARGER THAN OR EQUAL TOxEQUALS SIGN WITH BUMPY ABOVE",
    "zdPRECEDES ABOVE SINGLE-LINE EQUALS SIGNznSUCCEEDS ABOVE SINGLE-LINE EQUALS SIGN",
    "znPRECEDES ABOVE SINGLE-LINE NOT EQUAL TOzoSUCCEEDS ABOVE SINGLE-LINE NOT EQUAL TO",
    "zoPRECEDES ABOVE EQUALS SIGNzbSUCCEEDS ABOVE EQUALS SIGNzbPRECEDES ABOVE NOT EQUAL TO",
    "zcSUCCEEDS ABOVE NOT EQUAL TOzcPRECEDES ABOVE ALMOST EQUAL TOzfSUCCEEDS ABOVE ALMOST EQUAL TO",
    "zfPRECEDES ABOVE NOT ALMOST EQUAL TOzjSUCCEEDS ABOVE NOT ALMOST EQUAL TOzjDOUBLE PRECEDES",
    "iSUCCEEDSpSUBSET WITH DOTnPERSET WITH DOTpBSET WITH PLUS SIGN BELOW",
    "zPERSET WITH PLUS SIGN BELOWzcBSET WITH MULTIPLICATION SIGN BELOW",
    "zkPERSET WITH MULTIPLICATION SIGN BELOWzmBSET OF OR EQUAL TO WITH DOT ABOVE",
    "zjPERSET OF OR EQUAL TO WITH DOT ABOVEzlBSET OF ABOVE EQUALS SIGNzPERSET OF ABOVE EQUALS SIGN",
    "zcBSET OF ABOVE TILDE OPERATORzdPERSET OF ABOVE TILDE OPERATORzfBSET OF ABOVE ALMOST EQUAL TO",
    "zePERSET OF ABOVE ALMOST EQUAL TOzgBSET OF ABOVE NOT EQUAL TOzbPERSET OF ABOVE NOT EQUAL TO",
    "zeQUARE LEFT OPEN BOX OPERATORwRIGHT OPEN BOX OPERATORzfCLOSED SUBSETePERSETgBSET OR EQUAL TO",
    "qPERSET OR EQUAL TOzcSUBSET ABOVE SUPERSETtPERSET ABOVE SUBSETtBSET ABOVE SUBSET",
    "rPERSET ABOVE SUPERSEToBESIDE SUBSETgAND JOINED BY DASH WITH SUBSET",
    "zvELEMENT OF OPENING DOWNWARDSzdPITCHFORK WITH TEE TOPwTRANSVERSAL INTERSECTIONyFORKING",
    "hNONFORKINGkSHORT LEFT TACKjDOWN TACKjUP TACKnPERPENDICULAR WITH S",
    "uVERTICAL BAR TRIPLE RIGHT TURNSTILEzkDOUBLE VERTICAL BAR LEFT TURNSTILE",
    "zjVERTICAL BAR DOUBLE LEFT TURNSTILEzjDOUBLE VERTICAL BAR DOUBLE LEFT TURNSTILE",
    "zqLONG DASH FROM LEFT MEMBER OF DOUBLE VERTICALzuSHORT DOWN TACK WITH OVERBAR",
    "wUP TACK WITH UNDERBARnABOVE SHORT DOWN TACKzkDOUBLE DOWN TACKjUP TACKhSTROKE NOT SIGN",
    "wREVERSED DOUBLE STROKE NOT SIGNzgDOES NOT DIVIDE WITH REVERSED NEGATION SLASH",
    "ztVERTICAL LINE WITH CIRCLE ABOVEfBELOWzgDOWN TACK WITH CIRCLE BELOW",
    "zcPARALLEL WITH HORIZONTAL STROKErTILDE OPERATORzdTRIPLE VERTICAL BAR BINARY RELATION",
    "pWITH HORIZONTAL STROKEzkCOLON OPERATORoNESTED LESS-THANjGREATER-THAN",
    "zbDOUBLE-LINE SLANTED LESS-THAN OR EQUAL TOvGREATER-THAN OR EQUAL TO",
    "ztTRIPLE SOLIDUS BINARY RELATIONzfLARGE TRIPLE VERTICAL BAR OPERATORzjDOUBLE SOLIDUS OPERATOR",
    "xWHITE VERTICAL BARsN-ARY WHITE VERTICAL BARxORTH EAST WHITE ARROWqWEST WHITE ARROW",
    "wSOUTH EAST WHITE ARROWqWEST WHITE ARROWwLEFT RIGHT WHITE ARROWsWARDS BLACK ARROW",
    "vUPWARDS BLACK ARROWtDOWNWARDS BLACK ARROWvNORTH EAST BLACK ARROWqWEST BLACK ARROW",
    "wSOUTH EAST BLACK ARROWqWEST BLACK ARROWwLEFT RIGHT BLACK ARROWwUP DOWN BLACK ARROW",
    "tRIGHTWARDS ARROW WITH TIP DOWNWARDSjUPWARDSziLEFTWARDS ARROW WITH TIP DOWNWARDSjUPWARDS",
    "zhSQUARE WITH TOP HALF BLACKoBOTTOM HALF BLACKrUPPER RIGHT DIAGONAL HALF BLACK",
    "zgLOWER LEFT DIAGONAL HALF BLACKzrDIAMOND WITH LEFT HALF BLACKpRIGHT HALF BLACK",
    "qTOP HALF BLACKoBOTTOM HALF BLACKzeOTTED SQUAREnBLACK LARGE SQUAREsWHITE LARGE SQUARE",
    "sBLACK VERY SMALL SQUARExWHITE VERY SMALL SQUARExBLACK PENTAGONoWHITE PENTAGONiHEXAGON",
    "nBLACK HEXAGONnHORIZONTAL BLACK HEXAGONyBLACK LARGE CIRCLEmMEDIUM DIAMOND",
    "uWHITE MEDIUM DIAMONDuBLACK MEDIUM LOZENGEuWHITE MEDIUM LOZENGEuBLACK SMALL DIAMONDhLOZENGE",
    "tWHITE SMALL LOZENGEtBLACK HORIZONTAL ELLIPSEyWHITE HORIZONTAL ELLIPSEyBLACK VERTICAL ELLIPSE",
    "wWHITE VERTICAL ELLIPSEwLEFT ARROW WITH SMALL CIRCLEzdTHREE LEFTWARDS ARROWS",
    "wLEFT ARROW WITH CIRCLED PLUSzcONG LEFTWARDS SQUIGGLE ARROW",
    "zdEFTWARDS TWO-HEADED ARROW WITH VERTICAL STROKEpDOUBLE VERTICAL STROKEzcFROM BAR",
    "oTRIPLE DASH ARROWzdARROW WITH DOTTED STEMlTAIL WITH VERTICAL STROKEpDOUBLE VERTICAL STROKE",
    "zsTWO-HEADED ARROW WITH TAILa WITH VERTICAL STROKEpDOUBLE VERTICAL STROKEzzeARROW THROUGH X",
    "zWAVE ARROW POINTING DIRECTLY LEFTziEQUALS SIGN ABOVE LEFTWARDS ARROW",
    "ziREVERSE TILDE OPERATOR ABOVE LEFTWARDS ARROWztLEFTWARDS ARROW ABOVE REVERSE ALMOST EQUAL TO",
    "zuRIGHTWARDS ARROW THROUGH GREATER-THANmSUPERSETziLEFTWARDS QUADRUPLE ARROW",
    "zRIGHTWARDS QUADRUPLE ARROWzEVERSE TILDE OPERATOR ABOVE RIGHTWARDS ARROW",
    "ztIGHTWARDS ARROW ABOVE REVERSE ALMOST EQUAL TOzvTILDE OPERATOR ABOVE LEFTWARDS ARROW",
    "zlLEFTWARDS ARROW ABOVE ALMOST EQUAL TOpREVERSE TILDE OPERATOR",
    "ztRIGHTWARDS ARROW ABOVE REVERSE TILDE OPERATORzuDOWNWARDS TRIANGLE-HEADED ZIGZAG ARROW",
    "znSHORT SLANTED NORTH ARROWtBACKSLANTED SOUTH ARROWzeWHITE MEDIUM STARrBLACK SMALL STAR",
    "qWHITE SMALL STARqBLACK RIGHT-POINTING PENTAGONzeWHITE RIGHT-POINTING PENTAGON",
    "zeHEAVY LARGE CIRCLEmOVAL WITH OVAL INSIDEvCIRCLE WITH CIRCLE INSIDEuEaD SALTIRE",
    "vSLANTED NORTH ARROW WITH HOOKED HEADzlBACKSLANTED SOUTH ARROW WITH HOOKED TAIL",
    "zpSLANTED NORTH ARROW WITH HORIZONTAL TAILzpBACKSLANTED SOUTH ARROW WITH HORIZONTAL TAIL",
    "zsENT ARROW POINTING DOWNWARDS THEN NORTH EAST",
    "zuSHORT BENT ARROW POINTING DOWNWARDS THEN NORTH EASTzzbLEFTWARDS TRIANGLE-HEADED ARROW",
    "zgUPWARDS TRIANGLE-HEADED ARROWzeRIGHTWARDS TRIANGLE-HEADED ARROW",
    "zhDOWNWARDS TRIANGLE-HEADED ARROWzgLEFT RIGHT TRIANGLE-HEADED ARROW",
    "zhUP DOWN TRIANGLE-HEADED ARROWzeNORTH WEST TRIANGLE-HEADED ARROWzbEAST TRIANGLE-HEADED ARROW",
    "zhSOUTH EAST TRIANGLE-HEADED ARROWzbWEST TRIANGLE-HEADED ARROW",
    "zhLEFTWARDS TRIANGLE-HEADED DASHED ARROWznUPWARDS TRIANGLE-HEADED DASHED ARROW",
    "zlRIGHTWARDS TRIANGLE-HEADED DASHED ARROWzoDOWNWARDS TRIANGLE-HEADED DASHED ARROW",
    "znCLOCKWISE TRIANGLE-HEADED OPEN CIRCLE ARROW",
    "zsANTICLOCKWISE TRIANGLE-HEADED OPEN CIRCLE ARROWzwLEFTWARDS TRIANGLE-HEADED ARROW TO BAR",
    "znUPWARDS TRIANGLE-HEADED ARROW TO BARzlRIGHTWARDS TRIANGLE-HEADED ARROW TO BAR",
    "zoDOWNWARDS TRIANGLE-HEADED ARROW TO BAR"]⟩,
  ⟨0x2b76, ["NORTH WEST TRIANGLE-HEADED ARROW TO BARziEAST TRIANGLE-HEADED ARROW TO BAR",
    "zoSOUTH EAST TRIANGLE-HEADED ARROW TO BARziWEST TRIANGLE-HEADED ARROW TO BAR",
    "zoLEFTWARDS TRIANGLE-HEADED ARROW WITH DOUBLE HORIZONTAL STROKE",
    "zzlUPWARDS TRIANGLE-HEADED ARROW WITH DOUBLE HORIZONTAL STROKE",
    "zzjRIGHTWARDS TRIANGLE-HEADED ARROW WITH DOUBLE HORIZONTAL STROKE",
    "zzmDOWNWARDS TRIANGLE-HEADED ARROW WITH DOUBLE HORIZONTAL STROKEzzlHORIZONTAL TAB KEY",
    "sVERTICAL TAB KEYqLEFTWARDS TRIANGLE-HEADED ARROW OVER RIGHTWARDS TRIANGLE-HEADED ARROW",
    "zztUPWARDS TRIANGLE-HEADED ARROW LEFTWARDS OF DOWNWARDS TRIANGLE-HEADED ARROW",
    "zzyRIGHTWARDS TRIANGLE-HEADED ARROW OVER LEFTWARDS TRIANGLE-HEADED ARROW",
    "zztDOWNWARDS TRIANGLE-HEADED ARROW LEFTWARDS OF UPWARDS TRIANGLE-HEADED ARROW",
    "zzyLEFTWARDS TRIANGLE-HEADED PAIRED ARROWSzoUPWARDS TRIANGLE-HEADED PAIRED ARROWS",
    "zmRIGHTWARDS TRIANGLE-HEADED PAIRED ARROWSzpDOWNWARDS TRIANGLE-HEADED PAIRED ARROWS",
    "zoLEFTWARDS BLACK CIRCLED WHITE ARROWzkUPWARDS BLACK CIRCLED WHITE ARROW",
    "ziRIGHTWARDS BLACK CIRCLED WHITE ARROWzlDOWNWARDS BLACK CIRCLED WHITE ARROW",
    "zkANTICLOCKWISE TRIANGLE-HEADED RIGHT U-SHAPED ARROWuBOTTOM U-SHAPED ARROW",
    "vLEFT U-SHAPED ARROWtTOP U-SHAPED ARROWzxRETURN LEFTeRIGHTmNEWLINE LEFTeRIGHT",
    "nFOUR CORNER ARROWS CIRCLING ANTICLOCKWISEzqRIGHTWARDS BLACK ARROW"]⟩,
  ⟨0x2b97, ["SYMBOL FOR TYPE A ELECTRONICSzeTHREE-D TOP-LIGHTED LEFTWARDS EQUILATERAL ARROWHEAD",
    "zsRIGHT-LIGHTED UPWARDS EQUILATERAL ARROWHEADzsTOP-LIGHTED RIGHTWARDS EQUILATERAL ARROWHEAD",
    "ztLEFT-LIGHTED DOWNWARDS EQUILATERAL ARROWHEADzzcBLACK LEFTWARDS EQUILATERAL ARROWHEAD",
    "zgUPWARDS EQUILATERAL ARROWHEADzeRIGHTWARDS EQUILATERAL ARROWHEAD",
    "zhDOWNWARDS EQUILATERAL ARROWHEADzmDOWNWARDS TRIANGLE-HEADED ARROW WITH LONG TIP LEFTWARDS",
    "jRIGHTWARDSzzgUPWARDS TRIANGLE-HEADED ARROW WITH LONG TIP LEFTWARDSjRIGHTWARDS",
    "zzeLEFTWARDS TRIANGLE-HEADED ARROW WITH LONG TIP UPWARDS",
    "zzdRIGHTWARDS TRIANGLE-HEADED ARROW WITH LONG TIP UPWARDS",
    "zzeLEFTWARDS TRIANGLE-HEADED ARROW WITH LONG TIP DOWNWARDS",
    "zzfRIGHTWARDS TRIANGLE-HEADED ARROW WITH LONG TIP DOWNWARDS",
    "zzgBLACK CURVED DOWNWARDS AND LEFTWARDS ARROWpRIGHTWARDS ARROWzfUPWARDS AND LEFTWARDS ARROW",
    "pRIGHTWARDS ARROWzdLEFTWARDS AND UPWARDS ARROWzcRIGHTWARDS AND UPWARDS ARROW",
    "zdLEFTWARDS AND DOWNWARDS ARROWzeRIGHTWARDS AND DOWNWARDS ARROWzsRIBBON ARROW DOWN LEFTeRIGHT",
    "kUP LEFTeRIGHTiLEFT UPhRIGHT UPiLEFT DOWNjRIGHT DOWN",
    "xUPWARDS WHITE ARROW FROM BAR WITH HORIZONTAL BARzv ARROWHEAD IN A RECTANGLE BOX",
    "zgOVERLAPPING WHITE SQUAREShAND BLACK SQUARESxBLACK SQUARESzBALLOT BOX WITH LIGHT XxCIRCLED X",
    "bBOLD XoBLACK SQUARE CENTREDoDIAMOND CENTREDvTURNED BLACK PENTAGONvHORIZONTAL BLACK OCTAGON",
    "yBLACK OCTAGONhMEDIUM UP-POINTING TRIANGLE CENTREDzdDOWN-POINTING TRIANGLE CENTRED",
    "zfLEFT-POINTING TRIANGLE CENTREDzfRIGHT-POINTING TRIANGLE CENTREDztNEPTUNE FORM TWO",
    "qTOP HALF BLACK CIRCLEvBOTTOM HALF BLACK CIRCLEyLIGHT FOUR POINTED BLACK CUSP",
    "zeROTATED LIGHT FOUR POINTED BLACK CUSPzmWHITE FOUR POINTED CUSP",
    "xROTATED WHITE FOUR POINTED CUSPzgSQUARE POSITION INDICATORzUNCERTAINTY SIGNqGROUP MARK",
    "kPLUTO FORM TWOcHREEfFOURdIVEpTRANSPLUTOkPROSERPINAkASTRAEAhHYGIEAgPHOLUSgNESSUS",
    "gWHITE MOON SELENArBLACK DIAMOND ON CROSSwTRUE LIGHT MOON ARTAuCUPIDOgHADESfZEUSeKRONOS",
    "gAPOLLONgDMETOShVULCANUSiPOSEIDONiLEFT HALF BLACK STARuRIGHT HALF BLACK STAR",
    "vSTAR WITH LEFT HALF BLACKpRIGHT HALF BLACK",
    "zbLEFTWARDS TWO-HEADED ARROW WITH TRIANGLE ARROWHEADS",
    "zzbUPWARDS TWO-HEADED ARROW WITH TRIANGLE ARROWHEADS",
    "zyRIGHTWARDS TWO-HEADED ARROW WITH TRIANGLE ARROWHEADS",
    "zzcDOWNWARDS TWO-HEADED ARROW WITH TRIANGLE ARROWHEADSzzbERIS FORM ONEdTWOnSEDNA",
    "fRUSSIAN ASTROLOGICAL SYMBOL VIGINTILEjNOVILEgQUINTILEiBINOVILEiSENTAGONiTREDECILE",
    "zmEQUALS SIGN WITH INFINITY BELOWzgUNITED SYMBOLnSEPARATED SYMBOLqDOUBLED SYMBOL",
    "oPASSED SYMBOLnREVERSED RIGHT ANGLEuHELLSCHREIBER PAUSE SYMBOL"]⟩]

end TypeCatalog.Text.CharacterName
