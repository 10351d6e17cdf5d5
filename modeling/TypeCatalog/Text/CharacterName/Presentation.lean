import TypeCatalog.Text.CodePoint

/-!
# Names of presentation forms

Arabic ligatures, variants of punctuation, and wide and narrow forms.
-/

namespace TypeCatalog.Text.CharacterName

/-- The names from U+D7B0 to U+FFFD. -/
def presentation : List NameRun := [
  ⟨0xd7b0, ["HANGUL JUNGSEONG O-YEOdO-IfYO-AaEcEOfU-YEOdI-IfYU-AEcOeEU-AbEOcEbOeI-YA-OcEcEOcEcO-I",
    "dYObUcIdARAEA-AbE"]⟩,
  ⟨0xd7cb, ["HANGUL JONGSEONG NIEUN-RIEULfCHIEUCHnSSANGTIKEUTa-PIEUPrTIKEUT-PIEUPfSIOSa-KIYEOK",
    "lCIEUCeHIEUCHhTHIEUTHoRIEUL-SSANGKIYEOKlKIYEOK-HIEUHsSSANGRIEUL-KHIEUKHsRIEUL-MIEUM-HIEUH",
    "lPIEUP-TIKEUTgPHIEUPHnYESIEUNGgORINHIEUH-HIEUHxKAPYEOUNRIEULnMIEUM-NIEUNfSSANGNIEUN",
    "qSSANGMIEUMkMIEUM-PIEUP-SIOSkCIEUClPIEUP-TIKEUTgRIEUL-PHIEUPHnMIEUMlSSANGPIEUP",
    "kPIEUP-SIOS-TIKEUTlCIEUCeHIEUCHnSIOS-MIEUMfKAPYEOUNPIEUPrSANGSIOS-KIYEOKgTIKEUTpIOS-PANSIOS",
    "hCIEUCeHIEUCHhTHIEUTHhHIEUHkPANSIOS-PIEUPfKAPYEOUNPIEUPvYESIEUNG-MIEUMfHIEUHoCIEUC-PIEUP",
    "fSSANGPIEUPqSSANGCIEUCkPHIEUPH-SIOSeTHIEUTH"]⟩,
  ⟨0xfb00, ["LATIN SMALL LIGATURE FFbIbLbFIbLdLONG S TiST"]⟩,
  ⟨0xfb13, ["ARMENIAN SMALL LIGATURE MEN NOWdECHdINIhVEW NOWhMEN XEH"]⟩,
  ⟨0xfb1d, ["HEBREW LETTER YOD WITH HIRIQvPOINT JUDEO-SPANISH VARIKA",
    "zbLIGATURE YIDDISH YOD YOD PATAHzeETTER ALTERNATIVE AYINqWIDE ALEFeDALETfHEcKAFdLAMED",
    "fFINAL MEMjRESHeTAViALTERNATIVE PLUS SIGNvSHIN WITH SHIN DOThIN DOThDAGESH AND SHIN DOT",
    "hIN DOTzdALEF WITH PATAHfQAMATSgMAPIQpBET WITH DAGESHpGIMEL WITH DAGESHrDALET WITH DAGESH",
    "rHE WITH MAPIQnVAV WITH DAGESHpZAYIN WITH DAGESH"]⟩,
  ⟨0xfb38, ["HEBREW LETTER TET WITH DAGESHpYOD WITH DAGESHpFINAL KAF WITH DAGESHvKAF WITH DAGESH",
    "pLAMED WITH DAGESH"]⟩,
  ⟨0xfb3e, ["HEBREW LETTER MEM WITH DAGESH"]⟩,
  ⟨0xfb40, ["HEBREW LETTER NUN WITH DAGESHpSAMEKH WITH DAGESH"]⟩,
  ⟨0xfb43, ["HEBREW LETTER FINAL PE WITH DAGESHuPE WITH DAGESH"]⟩,
  ⟨0xfb46, ["HEBREW LETTER TSADI WITH DAGESHrQOF WITH DAGESHpRESH WITH DAGESHqSHIN WITH DAGESH",
    "qTAV WITH DAGESHpVAV WITH HOLAMoBET WITH RAFEnKAF WITH RAFEnPE WITH RAFEsIGATURE ALEF LAMED",
    "zbARABIC LETTER ALEF WASLA ISOLATED FORMnFINAL FORMvBEEH ISOLATED FORMnFINAL FORM",
    "kINITIAL FORMmMEDIAL FORMqPEH ISOLATED FORMnFINAL FORMkINITIAL FORMmMEDIAL FORM",
    "pBEHEH ISOLATED FORMnFINAL FORMkINITIAL FORMmMEDIAL FORMrTTEHEH ISOLATED FORMnFINAL FORM",
    "kINITIAL FORMmMEDIAL FORMrEHEH ISOLATED FORMnFINAL FORMkINITIAL FORMmMEDIAL FORM",
    "qTEH ISOLATED FORMnFINAL FORMkINITIAL FORMmMEDIAL FORMqVEH ISOLATED FORMnFINAL FORM",
    "kINITIAL FORMmMEDIAL FORMpPEHEH ISOLATED FORMnFINAL FORMkINITIAL FORMmMEDIAL FORM",
    "rDYEH ISOLATED FORMnFINAL FORMkINITIAL FORMmMEDIAL FORMqNYEH ISOLATED FORMnFINAL FORM",
    "kINITIAL FORMmMEDIAL FORMqTCHEH ISOLATED FORMnFINAL FORMkINITIAL FORMmMEDIAL FORM",
    "mEH ISOLATED FORMnFINAL FORMkINITIAL FORMmMEDIAL FORMtDDAHAL ISOLATED FORMnFINAL FORM",
    "qAHAL ISOLATED FORMnFINAL FORMpUL ISOLATED FORMnFINAL FORMnDAL ISOLATED FORMnFINAL FORM",
    "pJEH ISOLATED FORMnFINAL FORMoRREH ISOLATED FORMnFINAL FORMpKEHEH ISOLATED FORMnFINAL FORM",
    "kINITIAL FORMmMEDIAL FORMrGAF ISOLATED FORMnFINAL FORMkINITIAL FORMmMEDIAL FORM",
    "oUEH ISOLATED FORMnFINAL FORMkINITIAL FORMmMEDIAL FORMqNGOEH ISOLATED FORMnFINAL FORM",
    "kINITIAL FORMmMEDIAL FORMqOON GHUNNA ISOLATED FORMnFINAL FORMwRNOON ISOLATED FORMnFINAL FORM",
    "kINITIAL FORMmMEDIAL FORMrHEH WITH YEH ABOVE ISOLATED FORMnFINAL FORMzGOAL ISOLATED FORM",
    "nFINAL FORMkINITIAL FORMmMEDIAL FORMqDOACHASHMEE ISOLATED FORMnFINAL FORMkINITIAL FORM",
    "mMEDIAL FORMzcYEH BARREE ISOLATED FORMnFINAL FORMkWITH HAMZA ABOVE ISOLATED FORMnFINAL FORM",
    "zuSYMBOL DOT ABOVEfBELOWjTWO DOTS ABOVEfBELOWnHREE DOTS ABOVEfBELOWfPOINTING DOWNWARDS ABOVE",
    "fBELOWzkFOUR DOTS ABOVEfBELOWpDOUBLE VERTICAL BAR BELOWzTWO DOTS VERTICALLY ABOVEfBELOWzRING",
    "eSMALL TAH ABOVEfBELOWpWASLA ABOVE"]⟩,
  ⟨0xfbd3, ["ARABIC LETTER NG ISOLATED FORMnFINAL FORMkINITIAL FORMmMEDIAL FORMoU ISOLATED FORM",
    "nFINAL FORMmOE ISOLATED FORMnFINAL FORMnYU ISOLATED FORMnFINAL FORM",
    "nU WITH HAMZA ABOVE ISOLATED FORMzhVE ISOLATED FORMnFINAL FORMnKIRGHIZ OE ISOLATED FORM",
    "nFINAL FORMnYU ISOLATED FORMnFINAL FORMvE ISOLATED FORMnFINAL FORMkINITIAL FORMmMEDIAL FORM",
    "nUIGHUR KAZAKH KIRGHIZ ALEF MAKSURA INITIAL FORMmMEDIAL FORM",
    "zzcIGATURE YEH WITH HAMZA ABOVE WITH ALEF ISOLATED FORMnFINAL FORMoE ISOLATED FORMnFINAL FORM",
    "nWAW ISOLATED FORMnFINAL FORMoU ISOLATED FORMnFINAL FORMmOE ISOLATED FORMnFINAL FORM",
    "nYU ISOLATED FORMnFINAL FORMnE ISOLATED FORMnFINAL FORMkINITIAL FORM",
    "zpUIGHUR KIRGHIZ YEH WITH HAMZA ABOVE WITH ALEF MAKSURA ISOLATED FORMnFINAL FORMkINITIAL FORM",
    "zzyETTER FARSI YEH ISOLATED FORMnFINAL FORMkINITIAL FORMmMEDIAL FORM",
    "zcIGATURE YEH WITH HAMZA ABOVE WITH JEEM ISOLATED FORMsHAH ISOLATED FORMrMEEM ISOLATED FORM",
    "sALEF MAKSURA ISOLATED FORMzbYEH ISOLATED FORMzsBEH WITH JEEM ISOLATED FORMsHAH ISOLATED FORM",
    "rKHAH ISOLATED FORMsMEEM ISOLATED FORMsALEF MAKSURA ISOLATED FORMzbYEH ISOLATED FORM",
    "zbTEH WITH JEEM ISOLATED FORMsHAH ISOLATED FORMrKHAH ISOLATED FORMsMEEM ISOLATED FORM",
    "sALEF MAKSURA ISOLATED FORMzbYEH ISOLATED FORMzHEH WITH JEEM ISOLATED FORMsMEEM ISOLATED FORM",
    "sALEF MAKSURA ISOLATED FORMzbYEH ISOLATED FORMzcJEEM WITH HAH ISOLATED FORM",
    "rMEEM ISOLATED FORMzdHAH WITH JEEM ISOLATED FORMsMEEM ISOLATED FORM",
    "zcKHAH WITH JEEM ISOLATED FORMsHAH ISOLATED FORMrMEEM ISOLATED FORM",
    "zdSEEN WITH JEEM ISOLATED FORMsHAH ISOLATED FORMrKHAH ISOLATED FORMsMEEM ISOLATED FORM",
    "zcAD WITH HAH ISOLATED FORMrMEEM ISOLATED FORMzcDAD WITH JEEM ISOLATED FORMsHAH ISOLATED FORM",
    "rKHAH ISOLATED FORMsMEEM ISOLATED FORMzcTAH WITH HAH ISOLATED FORMrMEEM ISOLATED FORM",
    "zcZAH WITH MEEM ISOLATED FORMzcAIN WITH JEEM ISOLATED FORMsMEEM ISOLATED FORM",
    "zcGHAIN WITH JEEM ISOLATED FORMsMEEM ISOLATED FORMzeFEH WITH JEEM ISOLATED FORM",
    "sHAH ISOLATED FORMrKHAH ISOLATED FORMsMEEM ISOLATED FORMsALEF MAKSURA ISOLATED FORM",
    "zbYEH ISOLATED FORMzbQAF WITH HAH ISOLATED FORMrMEEM ISOLATED FORMsALEF MAKSURA ISOLATED FORM",
    "zbYEH ISOLATED FORMzbKAF WITH ALEF ISOLATED FORMsJEEM ISOLATED FORMsHAH ISOLATED FORM",
    "rKHAH ISOLATED FORMsLAM ISOLATED FORMrMEEM ISOLATED FORMsALEF MAKSURA ISOLATED FORM",
    "zbYEH ISOLATED FORMzbLAM WITH JEEM ISOLATED FORMsHAH ISOLATED FORMrKHAH ISOLATED FORM",
    "sMEEM ISOLATED FORMsALEF MAKSURA ISOLATED FORMzbYEH ISOLATED FORM",
    "zbMEEM WITH JEEM ISOLATED FORMsHAH ISOLATED FORMrKHAH ISOLATED FORMsMEEM ISOLATED FORM",
    "sALEF MAKSURA ISOLATED FORMzbYEH ISOLATED FORMzcNOON WITH JEEM ISOLATED FORM",
    "sHAH ISOLATED FORMrKHAH ISOLATED FORMsMEEM ISOLATED FORMsALEF MAKSURA ISOLATED FORM",
    "zbYEH ISOLATED FORMzcHEH WITH JEEM ISOLATED FORMsMEEM ISOLATED FORM",
    "sALEF MAKSURA ISOLATED FORMzbYEH ISOLATED FORMzbYEH WITH JEEM ISOLATED FORMsHAH ISOLATED FORM",
    "rKHAH ISOLATED FORMsMEEM ISOLATED FORMsALEF MAKSURA ISOLATED FORMzbYEH ISOLATED FORM",
    "zbTHAL WITH SUPERSCRIPT ALEF ISOLATED FORMzpREH WITH SUPERSCRIPT ALEF ISOLATED FORM",
    "zoALEF MAKSURA WITH SUPERSCRIPT ALEF ISOLATED FORMzxSHADDA WITH DAMMATAN ISOLATED FORM",
    "wKASRATAN ISOLATED FORMwFATHA ISOLATED FORMtDAMMA ISOLATED FORMtKASRA ISOLATED FORM",
    "tSUPERSCRIPT ALEF ISOLATED FORMzrYEH WITH HAMZA ABOVE WITH REH FINAL FORMoZAIN FINAL FORM",
    "pMEEM FINAL FORMpNOON FINAL FORMpALEF MAKSURA FINAL FORMxYEH FINAL FORM",
    "zpBEH WITH REH FINAL FORMoZAIN FINAL FORMpMEEM FINAL FORMpNOON FINAL FORM",
    "pALEF MAKSURA FINAL FORMxYEH FINAL FORMxTEH WITH REH FINAL FORMoZAIN FINAL FORM",
    "pMEEM FINAL FORMpNOON FINAL FORMpALEF MAKSURA FINAL FORMxYEH FINAL FORM",
    "wHEH WITH REH FINAL FORMoZAIN FINAL FORMpMEEM FINAL FORMpNOON FINAL FORM",
    "pALEF MAKSURA FINAL FORMxYEH FINAL FORMyFEH WITH ALEF MAKSURA FINAL FORMxYEH FINAL FORM",
    "xQAF WITH ALEF MAKSURA FINAL FORMxYEH FINAL FORMxKAF WITH ALEF FINAL FORMpLAM FINAL FORM",
    "oMEEM FINAL FORMpALEF MAKSURA FINAL FORMxYEH FINAL FORMxLAM WITH MEEM FINAL FORM",
    "pALEF MAKSURA FINAL FORMxYEH FINAL FORMxMEEM WITH ALEF FINAL FORMpMEEM FINAL FORM",
    "zNOON WITH REH FINAL FORMoZAIN FINAL FORMpMEEM FINAL FORMpNOON FINAL FORM",
    "pALEF MAKSURA FINAL FORMxYEH FINAL FORMyALEF MAKSURA WITH SUPERSCRIPT ALEF FINAL FORM",
    "zuYEH WITH REH FINAL FORMoZAIN FINAL FORMpMEEM FINAL FORMpNOON FINAL FORM",
    "pALEF MAKSURA FINAL FORMxYEH FINAL FORMoHAMZA ABOVE WITH JEEM INITIAL FORMrHAH INITIAL FORM",
    "qKHAH INITIAL FORMrMEEM INITIAL FORMrHEH INITIAL FORMzrBEH WITH JEEM INITIAL FORM",
    "rHAH INITIAL FORMqKHAH INITIAL FORMrMEEM INITIAL FORMrHEH INITIAL FORM",
    "zTEH WITH JEEM INITIAL FORMrHAH INITIAL FORMqKHAH INITIAL FORMrMEEM INITIAL FORM",
    "rHEH INITIAL FORMyHEH WITH MEEM INITIAL FORMzcJEEM WITH HAH INITIAL FORMqMEEM INITIAL FORM",
    "zcHAH WITH JEEM INITIAL FORMrMEEM INITIAL FORMzbKHAH WITH JEEM INITIAL FORMrMEEM INITIAL FORM",
    "zcSEEN WITH JEEM INITIAL FORMrHAH INITIAL FORMqKHAH INITIAL FORMrMEEM INITIAL FORM",
    "zbAD WITH HAH INITIAL FORMqKHAH INITIAL FORMrMEEM INITIAL FORMzbDAD WITH JEEM INITIAL FORM",
    "rHAH INITIAL FORMqKHAH INITIAL FORMrMEEM INITIAL FORMzbTAH WITH HAH INITIAL FORM",
    "zZAH WITH MEEM INITIAL FORMzbAIN WITH JEEM INITIAL FORMrMEEM INITIAL FORM",
    "zbGHAIN WITH JEEM INITIAL FORMrMEEM INITIAL FORMzdFEH WITH JEEM INITIAL FORMrHAH INITIAL FORM",
    "qKHAH INITIAL FORMrMEEM INITIAL FORMzbQAF WITH HAH INITIAL FORMqMEEM INITIAL FORM",
    "zbKAF WITH JEEM INITIAL FORMrHAH INITIAL FORMqKHAH INITIAL FORMrLAM INITIAL FORM",
    "qMEEM INITIAL FORMzbLAM WITH JEEM INITIAL FORMrHAH INITIAL FORMqKHAH INITIAL FORM",
    "rMEEM INITIAL FORMrHEH INITIAL FORMzMEEM WITH JEEM INITIAL FORMrHAH INITIAL FORM",
    "qKHAH INITIAL FORMrMEEM INITIAL FORMzcNOON WITH JEEM INITIAL FORMrHAH INITIAL FORM",
    "qKHAH INITIAL FORMrMEEM INITIAL FORMrHEH INITIAL FORMzbHEH WITH JEEM INITIAL FORM",
    "rMEEM INITIAL FORMrSUPERSCRIPT ALEF INITIAL FORMznYEH WITH JEEM INITIAL FORMrHAH INITIAL FORM",
    "qKHAH INITIAL FORMrMEEM INITIAL FORMrHEH INITIAL FORMpAMZA ABOVE WITH MEEM MEDIAL FORM",
    "qHEH MEDIAL FORMzqBEH WITH MEEM MEDIAL FORMqHEH MEDIAL FORMyTEH WITH MEEM MEDIAL FORM",
    "qHEH MEDIAL FORMxHEH WITH MEEM MEDIAL FORMqHEH MEDIAL FORMzSEEN WITH MEEM MEDIAL FORM",
    "qHEH MEDIAL FORMyHEEN WITH MEEM MEDIAL FORMqHEH MEDIAL FORMzbKAF WITH LAM MEDIAL FORM",
    "pMEEM MEDIAL FORMzLAM WITH MEEM MEDIAL FORMzNOON WITH MEEM MEDIAL FORMqHEH MEDIAL FORM",
    "zYEH WITH MEEM MEDIAL FORMqHEH MEDIAL FORMySHADDA WITH FATHA MEDIAL FORMrDAMMA MEDIAL FORM",
    "rKASRA MEDIAL FORMzeTAH WITH ALEF MAKSURA ISOLATED FORMzbYEH ISOLATED FORM",
    "zbAIN WITH ALEF MAKSURA ISOLATED FORMzbYEH ISOLATED FORM",
    "zbGHAIN WITH ALEF MAKSURA ISOLATED FORMzbYEH ISOLATED FORM",
    "zdSEEN WITH ALEF MAKSURA ISOLATED FORMzbYEH ISOLATED FORM",
    "zbHEEN WITH ALEF MAKSURA ISOLATED FORMzbYEH ISOLATED FORM",
    "zdHAH WITH ALEF MAKSURA ISOLATED FORMzbYEH ISOLATED FORM",
    "zbJEEM WITH ALEF MAKSURA ISOLATED FORMzbYEH ISOLATED FORM",
    "zcKHAH WITH ALEF MAKSURA ISOLATED FORMzbYEH ISOLATED FORM",
    "zcSAD WITH ALEF MAKSURA ISOLATED FORMzbYEH ISOLATED FORMzbDAD WITH ALEF MAKSURA ISOLATED FORM",
    "zbYEH ISOLATED FORMzbSHEEN WITH JEEM ISOLATED FORMsHAH ISOLATED FORMrKHAH ISOLATED FORM",
    "sMEEM ISOLATED FORMsREH ISOLATED FORMzcEEN WITH REH ISOLATED FORMzbAD WITH REH ISOLATED FORM",
    "zbDAD WITH REH ISOLATED FORMzbTAH WITH ALEF MAKSURA FINAL FORMxYEH FINAL FORM",
    "xAIN WITH ALEF MAKSURA FINAL FORMxYEH FINAL FORMxGHAIN WITH ALEF MAKSURA FINAL FORM",
    "xYEH FINAL FORMzSEEN WITH ALEF MAKSURA FINAL FORMxYEH FINAL FORM",
    "xHEEN WITH ALEF MAKSURA FINAL FORMxYEH FINAL FORMzHAH WITH ALEF MAKSURA FINAL FORM",
    "xYEH FINAL FORMxJEEM WITH ALEF MAKSURA FINAL FORMxYEH FINAL FORM",
    "yKHAH WITH ALEF MAKSURA FINAL FORMxYEH FINAL FORMySAD WITH ALEF MAKSURA FINAL FORM",
    "xYEH FINAL FORMxDAD WITH ALEF MAKSURA FINAL FORMxYEH FINAL FORMxSHEEN WITH JEEM FINAL FORM",
    "pHAH FINAL FORMoKHAH FINAL FORMpMEEM FINAL FORMpREH FINAL FORMyEEN WITH REH FINAL FORM",
    "xAD WITH REH FINAL FORMxDAD WITH REH FINAL FORMxSHEEN WITH JEEM INITIAL FORMrHAH INITIAL FORM",
    "qKHAH INITIAL FORMrMEEM INITIAL FORMzcEEN WITH HEH INITIAL FORMzHEEN WITH HEH INITIAL FORM",
    "zcTAH WITH MEEM INITIAL FORMzbSEEN WITH JEEM MEDIAL FORMqHAH MEDIAL FORMpKHAH MEDIAL FORM",
    "zHEEN WITH JEEM MEDIAL FORMqHAH MEDIAL FORMpKHAH MEDIAL FORMzcTAH WITH MEEM MEDIAL FORM",
    "zZAH WITH MEEM MEDIAL FORMzALEF WITH FATHATAN FINAL FORMkISOLATED FORM",
    "zxORNATE LEFT PARENTHESISqRIGHT PARENTHESISyARABIC LIGATURE RAHIMAHU ALLAAHnDI ALLAAHU ANHaAA",
    "cUMaAAdNNAuSALLALLAAHU ALAYHI WA-AALIHzcALAYHI AS-SALAAMkM AS-SALAAMkAA AS-SALAAM",
    "n AS-SALAATU WAS-SALAAMzdQUDDISA SIRRAHoSALLALLAHU ALAYHI WAAALIHEE WA-SALLAM",
    "zmALAYHAA AS-SALAAMrTABAARAKA WA-TAAALAAuRAHIMAHUM ALLAAH",
    "qTEH WITH JEEM WITH MEEM INITIAL FORMzcHAH WITH JEEM FINAL FORMkINITIAL FORM",
    "rMEEM INITIAL FORMzbKHAH WITH MEEM INITIAL FORMzcMEEM WITH JEEM INITIAL FORMrHAH INITIAL FORM",
    "qKHAH INITIAL FORMzlJEEM WITH MEEM WITH HAH FINAL FORMkINITIAL FORM",
    "zlHAH WITH MEEM WITH YEH FINAL FORMoALEF MAKSURA FINAL FORM",
    "zrSEEN WITH HAH WITH JEEM INITIAL FORMzbJEEM WITH HAH INITIAL FORMqALEF MAKSURA FINAL FORM",
    "ziMEEM WITH HAH FINAL FORMkINITIAL FORMqJEEM INITIAL FORMrMEEM FINAL FORMkINITIAL FORM",
    "zlAD WITH HAH WITH HAH FINAL FORMkINITIAL FORMzMEEM WITH MEEM FINAL FORM",
    "ziHEEN WITH HAH WITH MEEM FINAL FORMkINITIAL FORMzbJEEM WITH YEH FINAL FORM",
    "yMEEM WITH KHAH FINAL FORMkINITIAL FORMrMEEM FINAL FORMkINITIAL FORM",
    "znDAD WITH HAH WITH ALEF MAKSURA FINAL FORMzhKHAH WITH MEEM FINAL FORMkINITIAL FORM",
    "zlTAH WITH MEEM WITH HAH FINAL FORMkINITIAL FORMqMEEM INITIAL FORMrYEH FINAL FORM",
    "ziAIN WITH JEEM WITH MEEM FINAL FORMzMEEM WITH MEEM FINAL FORMkINITIAL FORM",
    "rALEF MAKSURA FINAL FORMzrGHAIN WITH MEEM WITH MEEM FINAL FORMpYEH FINAL FORM",
    "oALEF MAKSURA FINAL FORMztFEH WITH KHAH WITH MEEM FINAL FORMkINITIAL FORM",
    "zlQAF WITH MEEM WITH HAH FINAL FORMoMEEM FINAL FORMzjLAM WITH HAH WITH MEEM FINAL FORM",
    "pYEH FINAL FORMoALEF MAKSURA FINAL FORMzhJEEM WITH JEEM INITIAL FORMmFINAL FORM",
    "zKHAH WITH MEEM FINAL FORMkINITIAL FORMzcMEEM WITH HAH FINAL FORMkINITIAL FORM",
    "zkMEEM WITH HAH WITH JEEM INITIAL FORMrMEEM INITIAL FORMrYEH FINAL FORM",
    "xJEEM WITH HAH INITIAL FORMqMEEM INITIAL FORMzcKHAH WITH JEEM INITIAL FORM",
    "rMEEM INITIAL FORM"]⟩,
  ⟨0xfd92, ["ARABIC LIGATURE MEEM WITH JEEM WITH KHAH INITIAL FORM",
    "zmHEH WITH MEEM WITH JEEM INITIAL FORMrMEEM INITIAL FORM",
    "zlNOON WITH HAH WITH MEEM INITIAL FORMrALEF MAKSURA FINAL FORMzhJEEM WITH MEEM FINAL FORM",
    "kINITIAL FORMrALEF MAKSURA FINAL FORMziMEEM WITH YEH FINAL FORMoALEF MAKSURA FINAL FORM",
    "zsYEH WITH MEEM WITH MEEM FINAL FORMkINITIAL FORMzlBEH WITH KHAH WITH YEH FINAL FORM",
    "ziTEH WITH JEEM WITH YEH FINAL FORMoALEF MAKSURA FINAL FORMziKHAH WITH YEH FINAL FORM",
    "oALEF MAKSURA FINAL FORMziMEEM WITH YEH FINAL FORMoALEF MAKSURA FINAL FORM",
    "zrJEEM WITH MEEM WITH YEH FINAL FORMyHAH WITH ALEF MAKSURA FINAL FORM",
    "zhMEEM WITH ALEF MAKSURA FINAL FORMzsSEEN WITH KHAH WITH ALEF MAKSURA FINAL FORM",
    "zrAD WITH HAH WITH YEH FINAL FORMzgHEEN WITH HAH WITH YEH FINAL FORM",
    "zjDAD WITH HAH WITH YEH FINAL FORMzhLAM WITH JEEM WITH YEH FINAL FORM",
    "yMEEM WITH YEH FINAL FORMziYEH WITH HAH WITH YEH FINAL FORMxJEEM WITH YEH FINAL FORM",
    "yMEEM WITH YEH FINAL FORMziMEEM WITH MEEM WITH YEH FINAL FORM",
    "zjQAF WITH MEEM WITH YEH FINAL FORMziNOON WITH HAH WITH YEH FINAL FORM",
    "ziQAF WITH MEEM WITH HAH INITIAL FORMzkLAM WITH HAH WITH MEEM INITIAL FORM",
    "zkAIN WITH MEEM WITH YEH FINAL FORMziKAF WITH MEEM WITH YEH FINAL FORM",
    "ziNOON WITH JEEM WITH HAH INITIAL FORMzlMEEM WITH KHAH WITH YEH FINAL FORM",
    "zjLAM WITH JEEM WITH MEEM INITIAL FORMzlKAF WITH MEEM WITH MEEM FINAL FORM",
    "zjLAM WITH JEEM WITH MEEM FINAL FORMzjNOON WITH JEEM WITH HAH FINAL FORM",
    "zjJEEM WITH HAH WITH YEH FINAL FORMziHAH WITH JEEM WITH YEH FINAL FORM",
    "ziMEEM WITH JEEM WITH YEH FINAL FORMzjFEH WITH MEEM WITH YEH FINAL FORM",
    "ziBEH WITH HAH WITH YEH FINAL FORMzhKAF WITH MEEM WITH MEEM INITIAL FORM",
    "zlAIN WITH JEEM WITH MEEM INITIAL FORMzlSAD WITH MEEM WITH MEEM INITIAL FORM",
    "zkEEN WITH KHAH WITH YEH FINAL FORMzjNOON WITH JEEM WITH YEH FINAL FORM"]⟩,
  ⟨0xfdcf, ["ARABIC LIGATURE SALAAMUHU ALAYNAA"]⟩,
  ⟨0xfdf0, ["ARABIC LIGATURE SALLA USED AS KORANIC STOP SIGN ISOLATED FORM",
    "zuQALA USED AS KORANIC STOP SIGN ISOLATED FORMztALLAH ISOLATED FORMsKBAR ISOLATED FORM",
    "tMOHAMMAD ISOLATED FORMwSALAM ISOLATED FORMtRASOUL ISOLATED FORMuALAYHE ISOLATED FORM",
    "uWASALLAM ISOLATED FORMwSALLA ISOLATED FORMoLLAHOU ALAYHE WASALLAMzcJALLAJALALOUHOU",
    "zgRIAL SIGNjARABIC LIGATURE BISMILLAH AR-RAHMAN AR-RAHEEMzeSUBHAANAHU WA TAAALAAvAZZA WA JALL",
    "zdVARIATION SELECTOR-1b2b3b4b5b6b7b8b9b10b1b2b3b4b5b6vPRESENTATION FORM FOR VERTICAL COMMA",
    "fIDEOGRAPHIC COMMAfFULL STOPvCOLONfSEMICOLONjEXCLAMATION MARKqQUESTION MARK",
    "nLEFT WHITE LENTICULAR BRACKETzeRIGHT WHITE LENTICULAR BRAKCETzfHORIZONTAL ELLIPSIS"]⟩,
  ⟨0xfe20, ["COMBINING LIGATURE LEFT HALFjRIGHT HALFtDOUBLE TILDE LEFT HALFjRIGHT HALF",
    "xMACRON LEFT HALFjRIGHT HALFrCONJOINING MACRONrLIGATURE LEFT HALF BELOWpRIGHT HALF BELOW",
    "zTILDE LEFT HALF BELOWpRIGHT HALF BELOWwMACRON LEFT HALF BELOWpRIGHT HALF BELOW",
    "xCONJOINING MACRON BELOWwYRILLIC TITLO LEFT HALFjRIGHT HALF",
    "zkPRESENTATION FORM FOR VERTICAL TWO DOT LEADERoEM DASHgN DASHhLOW LINEiWAVY LOW LINE",
    "nLEFT PARENTHESISqRIGHT PARENTHESISrLEFT CURLY BRACKETsRIGHT CURLY BRACKET",
    "tLEFT TORTOISE SHELL BRACKETzcRIGHT TORTOISE SHELL BRACKETzdLEFT BLACK LENTICULAR BRACKET",
    "zeRIGHT BLACK LENTICULAR BRACKETzfLEFT DOUBLE ANGLE BRACKETzRIGHT DOUBLE ANGLE BRACKET",
    "zbLEFT ANGLE BRACKETsRIGHT ANGLE BRACKETtLEFT CORNER BRACKETtRIGHT CORNER BRACKET",
    "uLEFT WHITE CORNER BRACKETzRIGHT WHITE CORNER BRACKETzzhSESAME DOTkWHITE SESAME DOT",
    "qPRESENTATION FORM FOR VERTICAL LEFT SQUARE BRACKETtRIGHT SQUARE BRACKETzzbDASHED OVERLINE",
    "pCENTRELINE OVERLINEtWAVY OVERLINEnDOUBLE WAVY OVERLINEtASHED LOW LINEpCENTRELINE LOW LINE",
    "tWAVY LOW LINEnSMALL COMMAfIDEOGRAPHIC COMMArFULL STOP"]⟩,
  ⟨0xfe54, ["SMALL SEMICOLONjCOLONfQUESTION MARKnEXCLAMATION MARKpM DASHhLEFT PARENTHESIS",
    "qRIGHT PARENTHESISrLEFT CURLY BRACKETsRIGHT CURLY BRACKETtLEFT TORTOISE SHELL BRACKET",
    "zcRIGHT TORTOISE SHELL BRACKETzdNUMBER SIGNlAMPERSANDiSTERISKiPLUS SIGNjHYPHEN-MINUS",
    "mLESS-THAN SIGNoGREATER-THAN SIGNrEQUALS SIGN"]⟩,
  ⟨0xfe68, ["SMALL REVERSE SOLIDUSpDOLLAR SIGNlPERCENT SIGNmCOMMERCIAL AT"]⟩,
  ⟨0xfe70, ["ARABIC FATHATAN ISOLATED FORMwTATWEEL WITH FATHATAN ABOVEzcDAMMATAN ISOLATED FORM",
    "wTAIL FRAGMENTnKASRATAN ISOLATED FORM"]⟩,
  ⟨0xfe76, ["ARABIC FATHA ISOLATED FORMnMEDIAL FORMrDAMMA ISOLATED FORMnMEDIAL FORM",
    "rKASRA ISOLATED FORMnMEDIAL FORMrSHADDA ISOLATED FORMnMEDIAL FORMrUKUN ISOLATED FORM",
    "nMEDIAL FORMrLETTER HAMZA ISOLATED FORMtALEF WITH MADDA ABOVE ISOLATED FORMnFINAL FORM",
    "wHAMZA ABOVE ISOLATED FORMnFINAL FORMzhWAW WITH HAMZA ABOVE ISOLATED FORMnFINAL FORM",
    "zgALEF WITH HAMZA BELOW ISOLATED FORMnFINAL FORMzhYEH WITH HAMZA ABOVE ISOLATED FORM",
    "nFINAL FORMkINITIAL FORMmMEDIAL FORMzhALEF ISOLATED FORMnFINAL FORMpBEH ISOLATED FORM",
    "nFINAL FORMkINITIAL FORMmMEDIAL FORMpTEH MARBUTA ISOLATED FORMnFINAL FORMsISOLATED FORM",
    "nFINAL FORMkINITIAL FORMmMEDIAL FORMoHEH ISOLATED FORMnFINAL FORMkINITIAL FORMmMEDIAL FORM",
    "qJEEM ISOLATED FORMnFINAL FORMkINITIAL FORMmMEDIAL FORMqHAH ISOLATED FORMnFINAL FORM",
    "kINITIAL FORMmMEDIAL FORMpKHAH ISOLATED FORMnFINAL FORMkINITIAL FORMmMEDIAL FORM",
    "qDAL ISOLATED FORMnFINAL FORMoTHAL ISOLATED FORMnFINAL FORMpREH ISOLATED FORMnFINAL FORM",
    "oZAIN ISOLATED FORMnFINAL FORMpSEEN ISOLATED FORMnFINAL FORMkINITIAL FORMmMEDIAL FORM",
    "pHEEN ISOLATED FORMnFINAL FORMkINITIAL FORMmMEDIAL FORMqAD ISOLATED FORMnFINAL FORM",
    "kINITIAL FORMmMEDIAL FORMpDAD ISOLATED FORMnFINAL FORMkINITIAL FORMmMEDIAL FORM",
    "pTAH ISOLATED FORMnFINAL FORMkINITIAL FORMmMEDIAL FORMpZAH ISOLATED FORMnFINAL FORM",
    "kINITIAL FORMmMEDIAL FORMpAIN ISOLATED FORMnFINAL FORMkINITIAL FORMmMEDIAL FORM",
    "pGHAIN ISOLATED FORMnFINAL FORMkINITIAL FORMmMEDIAL FORMrFEH ISOLATED FORMnFINAL FORM",
    "kINITIAL FORMmMEDIAL FORMpQAF ISOLATED FORMnFINAL FORMkINITIAL FORMmMEDIAL FORM",
    "pKAF ISOLATED FORMnFINAL FORMkINITIAL FORMmMEDIAL FORMpLAM ISOLATED FORMnFINAL FORM",
    "kINITIAL FORMmMEDIAL FORMpMEEM ISOLATED FORMnFINAL FORMkINITIAL FORMmMEDIAL FORM",
    "qNOON ISOLATED FORMnFINAL FORMkINITIAL FORMmMEDIAL FORMqHEH ISOLATED FORMnFINAL FORM",
    "kINITIAL FORMmMEDIAL FORMpWAW ISOLATED FORMnFINAL FORMoALEF MAKSURA ISOLATED FORMnFINAL FORM",
    "xYEH ISOLATED FORMnFINAL FORMkINITIAL FORMmMEDIAL FORM",
    "vIGATURE LAM WITH ALEF WITH MADDA ABOVE ISOLATED FORMnFINAL FORMwHAMZA ABOVE ISOLATED FORM",
    "nFINAL FORMqBELOW ISOLATED FORMnFINAL FORMzcISOLATED FORMnFINAL FORM"]⟩,
  ⟨0xfeff, ["ZERO WIDTH NO-BREAK SPACE"]⟩,
  ⟨0xff01, ["FULLWIDTH EXCLAMATION MARKqQUOTATION MARKoNUMBER SIGNlDOLLAR SIGNlPERCENT SIGN",
    "mAMPERSANDiPOSTROPHEkLEFT PARENTHESISqRIGHT PARENTHESISrASTERISKiPLUS SIGNjCOMMAfHYPHEN-MINUS",
    "mFULL STOPjSOLIDUShDIGIT ZEROeONEdTWOcHREEfFOURdIVEeSIXcEVENfEIGHTfNINEkCOLONfSEMICOLON",
    "jLESS-THAN SIGNoEQUALS SIGNlGREATER-THAN SIGNrQUESTION MARKnCOMMERCIAL AT",
    "nLATIN CAPITAL LETTER AbBbCbDbEbFbGbHbIbJbKbLbMbNbObPbQbRbSbTbUbVbWbXbYbZvEFT SQUARE BRACKET",
    "tREVERSE SOLIDUSoIGHT SQUARE BRACKETuCIRCUMFLEX ACCENTrLOW LINEiGRAVE ACCENT",
    "mLATIN SMALL LETTER AbBbCbDbEbFbGbHbIbJbKbLbMbNbObPbQbRbSbTbUbVbWbXbYbZtEFT CURLY BRACKET",
    "sVERTICAL LINEnRIGHT CURLY BRACKETtTILDEfLEFT WHITE PARENTHESISwRIGHT WHITE PARENTHESIS",
    "ziHALFWIDTH IDEOGRAPHIC FULL STOPvLEFT CORNER BRACKETtRIGHT CORNER BRACKETuIDEOGRAPHIC COMMA",
    "rKATAKANA MIDDLE DOTkLETTER WOcSMALL AbIbUbEbObYAbUbOcTUq-HIRAGANA PROLONGED SOUND MARK",
    "zf LETTER AbIbUbEbObKAbIbUbEbOcSAbIbUbEbOcTAbIbUbEbOcNAbIbUbEbOcHAbIbUbEbOcMAbIbUbEbOcYAbUbO",
    "cRAbIbUbEbOcWAcNiVOICED SOUND MARKrSEMI-VOICED SOUND MARKzgHANGUL FILLERgLETTER KIYEOK",
    "gSSANGKIYEOKlKIYEOK-SIOSlNIEUNa-CIEUCfHIEUHlTIKEUTgSSANGTIKEUTlRIEULa-KIYEOKgMIEUMfPIEUPfSIOS",
    "eTHIEUTHhPHIEUPHhHIEUHlMIEUMfPIEUPfSSANGPIEUPkPIEUP-SIOSkSIOSdSANGSIOSjIEUNGfCIEUCfSSANGCIEUC",
    "kCHIEUCHhKHIEUKHhTHIEUTHhPHIEUPHhHIEUH"]⟩,
  ⟨0xffc2, ["HALFWIDTH HANGUL LETTER AaEcYAaEdEOcE"]⟩,
  ⟨0xffca, ["HALFWIDTH HANGUL LETTER YEOcEcObWAaEdOE"]⟩,
  ⟨0xffd2, ["HALFWIDTH HANGUL LETTER YOcUbWEOcEbIcYU"]⟩,
  ⟨0xffda, ["HALFWIDTH HANGUL LETTER EUcYIcI"]⟩,
  ⟨0xffe0, ["FULLWIDTH CENT SIGNjPOUND SIGNkNOT SIGNiMACRONgBROKEN BARkYEN SIGNiWON SIGN"]⟩,
  ⟨0xffe8, ["HALFWIDTH FORMS LIGHT VERTICALuLEFTWARDS ARROWpUPWARDS ARROWnRIGHTWARDS ARROW",
    "qDOWNWARDS ARROWpBLACK SQUAREmWHITE CIRCLE"]⟩,
  ⟨0xfff9, ["INTERLINEAR ANNOTATION ANCHORgSEPARATORjTERMINATORziOBJECT REPLACEMENT CHARACTER",
    "zdREPLACEMENT CHARACTER"]⟩]

end TypeCatalog.Text.CharacterName
