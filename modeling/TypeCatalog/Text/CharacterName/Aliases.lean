import TypeCatalog.Text.CodePoint

/-!
# Further names of characters

Control characters have no other names; some characters have a corrected name or an
abbreviation beside their own.
-/

namespace TypeCatalog.Text.CharacterName

/-- The further names, abbreviations among them. -/
def aliases : List NameRun := [
  ⟨0x0, ["NULLeSTART OF HEADINGhTEXTnEND OF TEXTdRANSMISSIONrQUIRYhACKNOWLEDGEkLERTfBACKSPACE",
    "jCHARACTER TABULATIONuLINE FEEDeTABULATIONpFORM FEEDjCARRIAGE RETURNpSHIFT OUTdIN",
    "iDATA LINK ESCAPEpEVICE CONTROL ONEdTWOcHREEfFOURtNEGATIVE ACKNOWLEDGEuSYNCHRONOUS IDLE",
    "qEND OF TRANSMISSION BLOCKzCANCELgEND OF MEDIUMnSUBSTITUTEkESCAPEgINFORMATION SEPARATOR FOUR",
    "eTHREEeWOdONEzSP"]⟩,
  ⟨0x0, ["NULdSOHcTXdETXcOTcNQdACKdBELcScHORIZONTAL TABULATIONvNEW LINEiVERTICAL TABULATIONtFFcCR",
    "cLOCKING-SHIFT ONEdZEROsDLEcC1b2b3b4dNAKdSYNdETBdCANdEOMdSUBdESCdFILE SEPARATOR",
    "oGROUP SEPARATORpRECORD SEPARATORqUNIT SEPARATOR"]⟩,
  ⟨0x9, ["HTcEND OF LINElVT"]⟩,
  ⟨0x9, ["TABdEOL"]⟩,
  ⟨0xa, ["LF"]⟩,
  ⟨0xa, ["NL"]⟩,
  ⟨0xe, ["SObI"]⟩,
  ⟨0x1c, ["FScGScRScUS"]⟩,
  ⟨0x7f, ["DELETEgPADDING CHARACTERrHIGH OCTET PRESETrBREAK PERMITTED HEREuNO BREAK HEREnINDEX",
    "fNEXT LINEjSTART OF SELECTED AREAwEND OF SELECTED AREAuCHARACTER TABULATION SET",
    "dWITH JUSTIFICATIONzoLINE TABULATION SETtPARTIAL LINE FORWARDhBACKWARDvREVERSE LINE FEED",
    "rSINGLE SHIFT TWOcHREEsDEVICE CONTROL STRINGvPRIVATE USE ONEdTWOpSET TRANSMIT STATE",
    "sCANCEL CHARACTERqMESSAGE WAITINGpSTART OF GUARDED AREAvEND OF GUARDED AREAtSTART OF STRING",
    "oINGLE GRAPHIC CHARACTER INTRODUCERzdCHARACTER INTRODUCERzcCONTROL SEQUENCE INTRODUCER",
    "zcSTRING TERMINATORrOPERATING SYSTEM COMMANDyPRIVACY MESSAGEpAPPLICATION PROGRAM COMMAND",
    "zcNBSP"]⟩,
  ⟨0x7f, ["DELdPADdHOPdBPHdNBHdINDdNELdSSAdESAdHORIZONTAL TABULATION SETdWITH JUSTIFICATION",
    "zpVERTICAL TABULATION SETxPARTIAL LINE DOWNeUPpREVERSE INDEXnSINGLE-SHIFT-2b3oDCS",
    "dPRIVATE USE-1b2nSTSdCCHdMWcSTART OF PROTECTED AREAxEND OF PROTECTED AREAvSOScGCcCIdCSIdST",
    "cOSCdPMcAPC"]⟩,
  ⟨0x88, ["HTSbJdVTSdPLDbUdRIcSS2b3"]⟩,
  ⟨0x91, ["PU1b2"]⟩,
  ⟨0x96, ["SPAdEPA"]⟩,
  ⟨0xad, ["SHY"]⟩,
  ⟨0x1a2, ["LATIN CAPITAL LETTER GHAsSMALL LETTER GHA"]⟩,
  ⟨0x34f, ["CGJ"]⟩,
  ⟨0x61c, ["ALM"]⟩,
  ⟨0x709, ["SYRIAC SUBLINEAR COLON SKEWED LEFT"]⟩,
  ⟨0xcde, ["KANNADA LETTER LLLA"]⟩,
  ⟨0xe9d, ["LAO LETTER FO FON"]⟩,
  ⟨0xe9f, ["LAO LETTER FO FAY"]⟩,
  ⟨0xea3, ["LAO LETTER RO"]⟩,
  ⟨0xea5, ["LAO LETTER LO"]⟩,
  ⟨0xfd0, ["TIBETAN MARK BKA- SHOG GI MGO RGYAN"]⟩,
  ⟨0x11ec, ["HANGUL JONGSEONG YESIEUNG-KIYEOKgSSANGKIYEOKuSSANGYESIEUNGnYESIEUNG-KHIEUKH"]⟩,
  ⟨0x180b, ["FVS1b2b3eMVSdFVS4"]⟩,
  ⟨0x200b, ["ZWSPcNJcJdLRMdRLM"]⟩,
  ⟨0x202a, ["LREdRLEdPDFdLROdRLOdNNBSP"]⟩,
  ⟨0x205f, ["MMSPeWJ"]⟩,
  ⟨0x2066, ["LRIdRLIdFSIdPDI"]⟩,
  ⟨0x2118, ["WEIERSTRASS ELLIPTIC FUNCTION"]⟩,
  ⟨0x2448, ["MICR ON US SYMBOLmDASH SYMBOL"]⟩,
  ⟨0x2b7a, ["LEFTWARDS TRIANGLE-HEADED ARROW WITH DOUBLE VERTICAL STROKE"]⟩,
  ⟨0x2b7c, ["RIGHTWARDS TRIANGLE-HEADED ARROW WITH DOUBLE VERTICAL STROKE"]⟩,
  ⟨0xa015, ["YI SYLLABLE ITERATION MARK"]⟩,
  ⟨0xaa6e, ["MYANMAR LETTER KHAMTI LLA"]⟩,
  ⟨0xfe00, ["VS1b2b3b4b5b6b7b8b9b10b1b2b3b4b5b6"]⟩,
  ⟨0xfe18, ["PRESENTATION FORM FOR VERTICAL RIGHT WHITE LENTICULAR BRACKET"]⟩,
  ⟨0xfeff, ["BYTE ORDER MARK"]⟩,
  ⟨0xfeff, ["BOM"]⟩,
  ⟨0xfeff, ["ZWNBSP"]⟩,
  ⟨0x122d4, ["CUNEIFORM SIGN NU11 TENUeOVER NU11 BUR OVER BUR"]⟩,
  ⟨0x16e56, ["MEDEFAIDRIN CAPITAL LETTER HbNG"]⟩,
  ⟨0x16e76, ["MEDEFAIDRIN SMALL LETTER HbNG"]⟩,
  ⟨0x1b001, ["HENTAIGANA LETTER E-1"]⟩,
  ⟨0x1d0c5, ["BYZANTINE MUSICAL SYMBOL FTHORA SKLIRON CHROMA VASIS"]⟩,
  ⟨0xe0100, ["VS17b8b9c20b1b2b3b4b5b6b7b8b9c30b1b2b3b4b5b6b7b8b9c40b1b2b3b4b5b6b7b8b9c50b1b2b3b4b5",
    "b6b7b8b9c60b1b2b3b4b5b6b7b8b9c70b1b2b3b4b5b6b7b8b9c80b1b2b3b4b5b6b7b8b9c90b1b2b3b4b5b6b7b8b9",
    "c100b1b2b3b4b5b6b7b8b9c10b1b2b3b4b5b6b7b8b9c20b1b2b3b4b5b6b7b8b9c30b1b2b3b4b5b6b7b8b9c40b1b2",
    "b3b4b5b6b7b8b9c50b1b2b3b4b5b6b7b8b9c60b1b2b3b4b5b6b7b8b9c70b1b2b3b4b5b6b7b8b9c80b1b2b3b4b5b6",
    "b7b8b9c90b1b2b3b4b5b6b7b8b9d200b1b2b3b4b5b6b7b8b9c10b1b2b3b4b5b6b7b8b9c20b1b2b3b4b5b6b7b8b9",
    "c30b1b2b3b4b5b6b7b8b9c40b1b2b3b4b5b6b7b8b9c50b1b2b3b4b5b6"]⟩]

end TypeCatalog.Text.CharacterName
