import TypeCatalog.Text.CodePoint

/-!
# Names of South Asian, African and American letters

The scripts of India and its neighbours, Hangul letters, Ethiopic and Cherokee.
-/

namespace TypeCatalog.Text.CharacterName

/-- The names from U+0900 to U+1CFA. -/
def syllabaries : List NameRun := [
  ⟨0x900, ["DEVANAGARI SIGN INVERTED CANDRABINDUuCANDRABINDUlANUSVARAiVISARGAmLETTER SHORT AhAaAcI",
    "aIcUaUcVOCALIC RbLjCANDRA EiSHORT EhEbAIcCANDRA OiSHORT OhObAUcKAbHAdGAbHAdNGAdCAbHAdJAbHA",
    "dNYAdTTAbHAeDDAbHAeNNAdTAbHAdDAbHAdNAbNNAePAbHAdBAbHAdMAcYAcRAbRAdLAbLAbLAeVAcSHAcSAcAcHA",
    "jVOWEL SIGN OEbOEoSIGN NUKTAfAVAGRAHAnVOWEL SIGN AAcIaIcUaUcVOCALIC RaRkCANDRA EiSHORT EhEbAI",
    "cCANDRA OiSHORT OhObAUnSIGN VIRAMAlVOWEL SIGN PRISHTHAMATRA EpAWnOMcSTRESS SIGN UDATTA",
    "gANUDATTAuGRAVE ACCENTmACUTE ACCENTmVOWEL SIGN CANDRA LONG EnUEbUEoLETTER QAcKHHAeGHHAeZA",
    "cDDDHAfRHAdFAcYYAdVOCALIC RRcLLrVOWEL SIGN VOCALIC LaLvDANDAeOUBLE DANDAlIGIT ZEROeONEdTWO",
    "cHREEfFOURdIVEeSIXcEVENfEIGHTfNINEkABBREVIATION SIGNrSIGN HIGH SPACING DOTvLETTER CANDRA AiOE",
    "bOEdAWcUEbUEdMARWARI DDAlZHAdHEAVY YAiGGAdJJAdGLOTTAL STOPmDDDAeBBAvBENGALI ANJI",
    "eSIGN CANDRABINDUlANUSVARAiVISARGA"]⟩,
  ⟨0x985, ["BENGALI LETTER AaAcIaIcUaUcVOCALIC RbL"]⟩,
  ⟨0x98f, ["BENGALI LETTER EbAI"]⟩,
  ⟨0x993, ["BENGALI LETTER ObAUcKAbHAdGAbHAdNGAdCAbHAdJAbHAdNYAdTTAbHAeDDAbHAeNNAdTAbHAdDAbHAdNA"]⟩,
  ⟨0x9aa, ["BENGALI LETTER PAbHAdBAbHAdMAcYAcRA"]⟩,
  ⟨0x9b2, ["BENGALI LETTER LA"]⟩,
  ⟨0x9b6, ["BENGALI LETTER SHAcSAcAcHA"]⟩,
  ⟨0x9bc, ["BENGALI SIGN NUKTAfAVAGRAHAnVOWEL SIGN AAcIaIcUaUcVOCALIC RaR"]⟩,
  ⟨0x9c7, ["BENGALI VOWEL SIGN EbAI"]⟩,
  ⟨0x9cb, ["BENGALI VOWEL SIGN ObAUnSIGN VIRAMAlLETTER KHANDA TA"]⟩,
  ⟨0x9d7, ["BENGALI AU LENGTH MARK"]⟩,
  ⟨0x9dc, ["BENGALI LETTER RRAcHA"]⟩,
  ⟨0x9df, ["BENGALI LETTER YYAdVOCALIC RRcLLrVOWEL SIGN VOCALIC LaL"]⟩,
  ⟨0x9e6, ["BENGALI DIGIT ZEROeONEdTWOcHREEfFOURdIVEeSIXcEVENfEIGHTfNINE",
    "kLETTER RA WITH MIDDLE DIAGONALpLOWER DIAGONALzeRUPEE MARKeSIGNkCURRENCY NUMERATOR ONEdTWO",
    "cHREEfFOUReONE LESS THAN THE DENOMINATORzoDENOMINATOR SIXTEENzdISSHARgGANDA MARK",
    "kLETTER VEDIC ANUSVARAvABBREVIATION SIGNrSANDHI MARK"]⟩,
  ⟨0xa01, ["GURMUKHI SIGN ADAK BINDIkBINDIfVISARGA"]⟩,
  ⟨0xa05, ["GURMUKHI LETTER AaAcIaIcUaU"]⟩,
  ⟨0xa0f, ["GURMUKHI LETTER EEcAI"]⟩,
  ⟨0xa13, ["GURMUKHI LETTER OOcAUcKAbHAdGAbHAdNGAdCAbHAdJAbHAdNYAdTTAbHAeDDAbHAeNNAdTAbHAdDAbHA",
    "dNA"]⟩,
  ⟨0xa2a, ["GURMUKHI LETTER PAbHAdBAbHAdMAcYAcRA"]⟩,
  ⟨0xa32, ["GURMUKHI LETTER LAbLA"]⟩,
  ⟨0xa35, ["GURMUKHI LETTER VAcSHA"]⟩,
  ⟨0xa38, ["GURMUKHI LETTER SAcHA"]⟩,
  ⟨0xa3c, ["GURMUKHI SIGN NUKTA"]⟩,
  ⟨0xa3e, ["GURMUKHI VOWEL SIGN AAcIaIcUaU"]⟩,
  ⟨0xa47, ["GURMUKHI VOWEL SIGN EEcAI"]⟩,
  ⟨0xa4b, ["GURMUKHI VOWEL SIGN OOcAUnSIGN VIRAMA"]⟩,
  ⟨0xa51, ["GURMUKHI SIGN UDAAT"]⟩,
  ⟨0xa59, ["GURMUKHI LETTER KHHAeGHHAeZAcRRA"]⟩,
  ⟨0xa5e, ["GURMUKHI LETTER FA"]⟩,
  ⟨0xa66, ["GURMUKHI DIGIT ZEROeONEdTWOcHREEfFOURdIVEeSIXcEVENfEIGHTfNINEkTIPPIfADDAKfIRIdURA",
    "dEK ONKARiSIGN YAKASHlABBREVIATION SIGN"]⟩,
  ⟨0xa81, ["GUJARATI SIGN CANDRABINDUlANUSVARAiVISARGA"]⟩,
  ⟨0xa85, ["GUJARATI LETTER AaAcIaIcUaUcVOCALIC RbLqVOWEL CANDRA E"]⟩,
  ⟨0xa8f, ["GUJARATI LETTER EbAIjVOWEL CANDRA O"]⟩,
  ⟨0xa93, ["GUJARATI LETTER ObAUcKAbHAdGAbHAdNGAdCAbHAdJAbHAdNYAdTTAbHAeDDAbHAeNNAdTAbHAdDAbHA",
    "dNA"]⟩,
  ⟨0xaaa, ["GUJARATI LETTER PAbHAdBAbHAdMAcYAcRA"]⟩,
  ⟨0xab2, ["GUJARATI LETTER LAbLA"]⟩,
  ⟨0xab5, ["GUJARATI LETTER VAcSHAcSAcAcHA"]⟩,
  ⟨0xabc, ["GUJARATI SIGN NUKTAfAVAGRAHAnVOWEL SIGN AAcIaIcUaUcVOCALIC RaRkCANDRA E"]⟩,
  ⟨0xac7, ["GUJARATI VOWEL SIGN EbAIcCANDRA O"]⟩,
  ⟨0xacb, ["GUJARATI VOWEL SIGN ObAUnSIGN VIRAMA"]⟩,
  ⟨0xad0, ["GUJARATI OM"]⟩,
  ⟨0xae0, ["GUJARATI LETTER VOCALIC RRcLLrVOWEL SIGN VOCALIC LaL"]⟩,
  ⟨0xae6, ["GUJARATI DIGIT ZEROeONEdTWOcHREEfFOURdIVEeSIXcEVENfEIGHTfNINEkABBREVIATION SIGN",
    "rRUPEE SIGN"]⟩,
  ⟨0xaf9, ["GUJARATI LETTER ZHAkSIGN SUKUNeHADDAgMADDAHgTHREE-DOT NUKTA ABOVEvCIRCLE NUKTA ABOVE",
    "sTWO-CIRCLE NUKTA ABOVE"]⟩,
  ⟨0xb01, ["ORIYA SIGN CANDRABINDUlANUSVARAiVISARGA"]⟩,
  ⟨0xb05, ["ORIYA LETTER AaAcIaIcUaUcVOCALIC RbL"]⟩,
  ⟨0xb0f, ["ORIYA LETTER EbAI"]⟩,
  ⟨0xb13, ["ORIYA LETTER ObAUcKAbHAdGAbHAdNGAdCAbHAdJAbHAdNYAdTTAbHAeDDAbHAeNNAdTAbHAdDAbHAdNA"]⟩,
  ⟨0xb2a, ["ORIYA LETTER PAbHAdBAbHAdMAcYAcRA"]⟩,
  ⟨0xb32, ["ORIYA LETTER LAbLA"]⟩,
  ⟨0xb35, ["ORIYA LETTER VAcSHAcSAcAcHA"]⟩,
  ⟨0xb3c, ["ORIYA SIGN NUKTAfAVAGRAHAnVOWEL SIGN AAcIaIcUaUcVOCALIC RaR"]⟩,
  ⟨0xb47, ["ORIYA VOWEL SIGN EbAI"]⟩,
  ⟨0xb4b, ["ORIYA VOWEL SIGN ObAUnSIGN VIRAMA"]⟩,
  ⟨0xb55, ["ORIYA SIGN OVERLINEnAI LENGTH MARKnU LENGTH MARK"]⟩,
  ⟨0xb5c, ["ORIYA LETTER RRAcHA"]⟩,
  ⟨0xb5f, ["ORIYA LETTER YYAdVOCALIC RRcLLrVOWEL SIGN VOCALIC LaL"]⟩,
  ⟨0xb66, ["ORIYA DIGIT ZEROeONEdTWOcHREEfFOURdIVEeSIXcEVENfEIGHTfNINEkISSHARgLETTER WA",
    "jFRACTION ONE QUARTERhHALFiTHREE QUARTERSoONE SIXTEENTHjEIGHTHkTHREE SIXTEENTHS"]⟩,
  ⟨0xb82, ["TAMIL SIGN ANUSVARAiVISARGA"]⟩,
  ⟨0xb85, ["TAMIL LETTER AaAcIaIcUaU"]⟩,
  ⟨0xb8e, ["TAMIL LETTER EaEcAI"]⟩,
  ⟨0xb92, ["TAMIL LETTER OaOcAUcKA"]⟩,
  ⟨0xb99, ["TAMIL LETTER NGAdCA"]⟩,
  ⟨0xb9c, ["TAMIL LETTER JA"]⟩,
  ⟨0xb9e, ["TAMIL LETTER NYAdTTA"]⟩,
  ⟨0xba3, ["TAMIL LETTER NNAdTA"]⟩,
  ⟨0xba8, ["TAMIL LETTER NAbNNAePA"]⟩,
  ⟨0xbae, ["TAMIL LETTER MAcYAcRAbRAdLAbLAbLAeVAcSHAcSAcAcHA"]⟩,
  ⟨0xbbe, ["TAMIL VOWEL SIGN AAcIaIcUaU"]⟩,
  ⟨0xbc6, ["TAMIL VOWEL SIGN EaEcAI"]⟩,
  ⟨0xbca, ["TAMIL VOWEL SIGN OaOcAUnSIGN VIRAMA"]⟩,
  ⟨0xbd0, ["TAMIL OM"]⟩,
  ⟨0xbd7, ["TAMIL AU LENGTH MARK"]⟩,
  ⟨0xbe6, ["TAMIL DIGIT ZEROeONEdTWOcHREEfFOURdIVEeSIXcEVENfEIGHTfNINEkNUMBER TENdONE HUNDRED",
    "hTHOUSANDtDAY SIGNiMONTH SIGNkYEAR SIGNjDEBIT SIGNkCREDIT SIGNlAS ABOVE SIGNnRUPEE SIGN",
    "kNUMBER SIGN"]⟩,
  ⟨0xc00, ["TELUGU SIGN COMBINING CANDRABINDU ABOVEzbANDRABINDUlANUSVARAiVISARGA",
    "hCOMBINING ANUSVARA ABOVEzeLETTER AaAcIaIcUaUcVOCALIC RbL"]⟩,
  ⟨0xc0e, ["TELUGU LETTER EaEcAI"]⟩,
  ⟨0xc12, ["TELUGU LETTER OaOcAUcKAbHAdGAbHAdNGAdCAbHAdJAbHAdNYAdTTAbHAeDDAbHAeNNAdTAbHAdDAbHA",
    "dNA"]⟩,
  ⟨0xc2a, ["TELUGU LETTER PAbHAdBAbHAdMAcYAcRAbRAdLAbLAbLAeVAcSHAcSAcAcHA"]⟩,
  ⟨0xc3c, ["TELUGU SIGN NUKTAfAVAGRAHAnVOWEL SIGN AAcIaIcUaUcVOCALIC RaR"]⟩,
  ⟨0xc46, ["TELUGU VOWEL SIGN EaEcAI"]⟩,
  ⟨0xc4a, ["TELUGU VOWEL SIGN OaOcAUnSIGN VIRAMA"]⟩,
  ⟨0xc55, ["TELUGU LENGTH MARKlAI LENGTH MARK"]⟩,
  ⟨0xc58, ["TELUGU LETTER TSAdDZAdRRRA"]⟩,
  ⟨0xc5d, ["TELUGU LETTER NAKAARA POLLU"]⟩,
  ⟨0xc60, ["TELUGU LETTER VOCALIC RRcLLrVOWEL SIGN VOCALIC LaL"]⟩,
  ⟨0xc66, ["TELUGU DIGIT ZEROeONEdTWOcHREEfFOURdIVEeSIXcEVENfEIGHTfNINE"]⟩,
  ⟨0xc77, ["TELUGU SIGN SIDDHAMmFRACTION DIGIT ZERO FOR ODD POWERS OF FOUR",
    "zcONE FOR ODD POWERS OF FOURzbTWO FOR ODD POWERS OF FOURzHREE FOR ODD POWERS OF FOUR",
    "zdONE FOR EVEN POWERS OF FOURzcTWO FOR EVEN POWERS OF FOURzbHREE FOR EVEN POWERS OF FOUR",
    "ztSIGN TUUMUrKANNADA SIGN SPACING CANDRABINDUtCANDRABINDUlANUSVARAiVISARGAhSIDDHAMmLETTER AaA",
    "cIaIcUaUcVOCALIC RbL"]⟩,
  ⟨0xc8e, ["KANNADA LETTER EaEcAI"]⟩,
  ⟨0xc92, ["KANNADA LETTER OaOcAUcKAbHAdGAbHAdNGAdCAbHAdJAbHAdNYAdTTAbHAeDDAbHAeNNAdTAbHAdDAbHA",
    "dNA"]⟩,
  ⟨0xcaa, ["KANNADA LETTER PAbHAdBAbHAdMAcYAcRAbRAdLAbLA"]⟩,
  ⟨0xcb5, ["KANNADA LETTER VAcSHAcSAcAcHA"]⟩,
  ⟨0xcbc, ["KANNADA SIGN NUKTAfAVAGRAHAnVOWEL SIGN AAcIaIcUaUcVOCALIC RaR"]⟩,
  ⟨0xcc6, ["KANNADA VOWEL SIGN EaEcAI"]⟩,
  ⟨0xcca, ["KANNADA VOWEL SIGN OaOcAUnSIGN VIRAMA"]⟩,
  ⟨0xcd5, ["KANNADA LENGTH MARKlAI LENGTH MARK"]⟩,
  ⟨0xcdd, ["KANNADA LETTER NAKAARA POLLUnFA"]⟩,
  ⟨0xce0, ["KANNADA LETTER VOCALIC RRcLLrVOWEL SIGN VOCALIC LaL"]⟩,
  ⟨0xce6, ["KANNADA DIGIT ZEROeONEdTWOcHREEfFOURdIVEeSIXcEVENfEIGHTfNINE"]⟩,
  ⟨0xcf1, ["KANNADA SIGN JIHVAMULIYAlUPADHMANIYA"]⟩,
  ⟨0xd00, ["MALAYALAM SIGN COMBINING ANUSVARA ABOVExANDRABINDUlANUSVARAiVISARGA",
    "mLETTER VEDIC ANUSVARAoAaAcIaIcUaUcVOCALIC RbL"]⟩,
  ⟨0xd0e, ["MALAYALAM LETTER EaEcAI"]⟩,
  ⟨0xd12, ["MALAYALAM LETTER OaOcAUcKAbHAdGAbHAdNGAdCAbHAdJAbHAdNYAdTTAbHAeDDAbHAeNNAdTAbHAdDAbHA",
    "dNAbNNAePAbHAdBAbHAdMAcYAcRAbRAdLAbLAbLAeVAcSHAcSAcAcHAcTTTAlSIGN VERTICAL BAR VIRAMA",
    "tCIRCULAR VIRAMApAVAGRAHAnVOWEL SIGN AAcIaIcUaUcVOCALIC RaR"]⟩,
  ⟨0xd46, ["MALAYALAM VOWEL SIGN EaEcAI"]⟩,
  ⟨0xd4a, ["MALAYALAM VOWEL SIGN OaOcAUnSIGN VIRAMAlLETTER DOT REPHpSIGN PARA"]⟩,
  ⟨0xd54, ["MALAYALAM LETTER CHILLU MbYbLLLrAU LENGTH MARKoFRACTION ONE ONE-HUNDRED-AND-SIXTIETH",
    "yFORTIETHmTHREE EIGHTIETHSqONE TWENTIETHiENTHjTHREE TWENTIETHSqONE FIFTHsLETTER ARCHAIC II",
    "kVOCALIC RRcLLrVOWEL SIGN VOCALIC LaL"]⟩,
  ⟨0xd66, ["MALAYALAM DIGIT ZEROeONEdTWOcHREEfFOURdIVEeSIXcEVENfEIGHTfNINEkNUMBER TENdONE HUNDRED",
    "hTHOUSANDtFRACTION ONE QUARTERhHALFiTHREE QUARTERSoONE SIXTEENTHjEIGHTHkTHREE SIXTEENTHS",
    "zDATE MARKjLETTER CHILLU NNcNbRRcLaLcK"]⟩,
  ⟨0xd81, ["SINHALA SIGN CANDRABINDUlANUSVARAYAkVISARGAYA"]⟩,
  ⟨0xd85, ["SINHALA LETTER AYANNAfAYANNAgEYANNAfEYANNAiIYANNAfIYANNAhUYANNAfUYANNAhIRUYANNAfUYANNA",
    "iLUYANNAfUYANNAjEYANNAfEYANNAhAIYANNAhOYANNAfOYANNAhAUYANNA"]⟩,
  ⟨0xd9a, ["SINHALA LETTER ALPAPRAANA KAYANNAsMAHAAPRAANA KAYANNAtALPAPRAANA GAYANNA",
    "sMAHAAPRAANA GAYANNAtKANTAJA NAASIKYAYAsSANYAKA GAYANNApALPAPRAANA CAYANNA",
    "sMAHAAPRAANA CAYANNAtALPAPRAANA JAYANNAsMAHAAPRAANA JAYANNAtTAALUJA NAASIKYAYA",
    "kSANYOOGA NAAKSIKYAYAzdSANYAKA JAYANNApALPAPRAANA TTAYANNAtMAHAAPRAANA TTAYANNA",
    "uALPAPRAANA DDAYANNAtMAHAAPRAANA DDAYANNAtUURDHAJA NAYANNArSANYAKA DDAYANNA",
    "qALPAPRAANA TAYANNAsMAHAAPRAANA TAYANNAtALPAPRAANA DAYANNAsMAHAAPRAANA DAYANNA",
    "tDANTAJA NAYANNA"]⟩,
  ⟨0xdb3, ["SINHALA LETTER SANYAKA DAYANNApALPAPRAANA PAYANNAsMAHAAPRAANA PAYANNA",
    "tALPAPRAANA BAYANNAsMAHAAPRAANA BAYANNArYANNAhAMBA BAYANNAmYAYANNAhRAYANNA"]⟩,
  ⟨0xdbd, ["SINHALA LETTER DANTAJA LAYANNA"]⟩,
  ⟨0xdc0, ["SINHALA LETTER VAYANNAhTAALUJA SAYANNApMUURDHAJA SAYANNArDANTAJA SAYANNApHAYANNA",
    "hMUURDHAJA LAYANNArFAYANNA"]⟩,
  ⟨0xdca, ["SINHALA SIGN AL-LAKUNA"]⟩,
  ⟨0xdcf, ["SINHALA VOWEL SIGN AELA-PILLAkKETTI AEDA-PILLAqDIGA AEDA-PILLApKETTI IS-PILLA",
    "oDIGA IS-PILLAnKETTI PAA-PILLA"]⟩,
  ⟨0xdd6, ["SINHALA VOWEL SIGN DIGA PAA-PILLA"]⟩,
  ⟨0xdd8, ["SINHALA VOWEL SIGN GAETTA-PILLAmKOMBUVAhDIGA KOMBUVAmKOMBU DEKAfVA HAA AELA-PILLA",
    "kDIGA AELA-PILLApGAYANUKITTAxGAYANUKITTA"]⟩,
  ⟨0xde6, ["SINHALA LITH DIGIT ZEROeONEdTWOcHREEfFOURdIVEeSIXcEVENfEIGHTfNINE"]⟩,
  ⟨0xdf2, ["SINHALA VOWEL SIGN DIGA GAETTA-PILLAkYANUKITTAzcPUNCTUATION KUNDDALIYA"]⟩,
  ⟨0xe01, ["THAI CHARACTER KO KAIfHO KHAIcUATdWAIdONeRAKHANGlNGO NGUhCHO CHANcINGdANGjSO SO",
    "fCHO CHOEiYO YINGhDO CHADAiTO PATAKhHO THANeNANGMONTHOkPHUTHAOlNO NENgDO DEKgTO TAOfHO THUNG",
    "dAHANeONGjNO NUfBO BAIMAIjPO PLAfHO PHUNGjFO FAfPHO PHANiFO FANgPHO SAMPHAOlMO MAfYO YAK",
    "gRO RUAfUcLO LINGgUcWO WAENhSO SALAeRUSIeSUAgHO HIPgLO CHULAiO ANGfHO NOKHUKjPAIYANNOIjSARA A",
    "gMAI HAN-AKATmSARA AAbMcIaIcUEaEdUaUhPHINTHU"]⟩,
  ⟨0xe3f, ["THAI CURRENCY SYMBOL BAHTtHARACTER SARA EbAEcObAI MAIMUANdALAIqLAKKHANGYAOlMAIYAMOK",
    "fTAIKHUg EKcTHOcRIdCHATTAWAmTHANTHAKHATlNIKHAHITiYAMAKKANiFONGMANrDIGIT ZEROeONEdTWOcHREE",
    "fFOURdIVEeSIXcEVENfEIGHTfNINEkCHARACTER ANGKHANKHUkKHOMUT"]⟩,
  ⟨0xe81, ["LAO LETTER KObHO SUNG"]⟩,
  ⟨0xe84, ["LAO LETTER KHO TAM"]⟩,
  ⟨0xe86, ["LAO LETTER PALI GHAiNGOdCOcPALI CHAiSO TAM"]⟩,
  ⟨0xe8c, ["LAO LETTER PALI JHAiNYOdPALI NYAdTTAbHAeDDAbHAeNNAiDOcTObHO SUNGeTAMhPALI DHAiNOcBOcPO",
    "bHO SUNGiFO TAMgPHO TAMhFO SUNGhPALI BHAiMOcYOcLO LING"]⟩,
  ⟨0xea5, ["LAO LETTER LO LOOT"]⟩,
  ⟨0xea7, ["LAO LETTER WOcSANSKRIT SHAcSAlO SUNGhHO SUNGhPALI LLAiObHO TAMnELLIPSISiVOWEL SIGN A",
    "bMAI KANhAAbMcIaIcYaYcUaUnSIGN PALI VIRAMAqVOWEL SIGN MAI KONsSEMIVOWEL SIGN LOcNYO"]⟩,
  ⟨0xec0, ["LAO VOWEL SIGN EaIcObAYbI"]⟩,
  ⟨0xec6, ["LAO KO LA"]⟩,
  ⟨0xec8, ["LAO TONE MAI EKcTHOcIcCATAWApCANCELLATION MARKrNIGGAHITA"]⟩,
  ⟨0xed0, ["LAO DIGIT ZEROeONEdTWOcHREEfFOURdIVEeSIXcEVENfEIGHTfNINE"]⟩,
  ⟨0xedc, ["LAO HO NOcMOfLETTER KHMU GOcNYO"]⟩,
  ⟨0xf00, ["TIBETAN SYLLABLE OMlMARK GTER YIG MGO TRUNCATED Al-UM RNAM BCAD MAmGTER TSHEG MA",
    "zfINITIAL YIG MGO MDUN MAxCLOSING YIG MGO SGAB MAwARET YIG MGO PHUR SHAD MA",
    "zbYIG MGO TSHEG SHAD MAvSBRUL SHADkBSKUR YIG MGOmKA- SHOG YIG MGOrINTERSYLLABIC TSHEG",
    "tDELIMITER TSHEG BSTARvSHADeNYIS SHADjTSHEG SHADkNYIS TSHEG SHADpRIN CHEN SPUNGS SHAD",
    "tGYA GRAM SHADoCARET -DZUD RTAGS ME LONG CANzeGTER TSHEGpLOGOTYPE SIGN CHAD RTAGSkLHAG RTAGS",
    "yASTROLOGICAL SIGN SGRA GCAN -CHAR RTAGSv-KHYUD PAjSDONG TSHUGSzfSIGN RDEL DKAR GCIGdNYISeSUM",
    "jNAG GCIGdNYISjDKAR RDEL NAGxDIGIT ZEROeONEdTWOcHREEfFOURdIVEeSIXcEVENfEIGHTfNINEeHALF ONE",
    "dTWOcHREEfFOURdIVEeSIXcEVENfEIGHTfNINEeZEROpMARK BSDUS RTAGSlNGAS BZUNG NYI ZLA",
    "sCARET -DZUD RTAGS BZHI MIG CANzfNGAS BZUNG SGOR RTAGSvCHE MGOhTSA -PHRUjGUG RTAGS GYONcAS",
    "oANG KHANG GYONcAStSIGN YAR TSHESjMAR TSHESoLETTER KAbHAdGAbHAdNGAdCAbHAdJA"]⟩,
  ⟨0xf49, ["TIBETAN LETTER NYAdTTAbHAeDDAbHAeNNAdTAbHAdDAbHAdNAcPAbHAdBAbHAdMAcTSAbHAeDZAbHAeWA",
    "cZHAcAc-AcYAcRAcLAcSHAcSAcAcHAcAbKSSAeFIXED-FORM RAnKKAdRRA"]⟩,
  ⟨0xf71, ["TIBETAN VOWEL SIGN AAcIaIcUaUcVOCALIC RaRcLaLkEaEcOaOnSIGN RJES SU NGA ROnNAM BCAD",
    "oVOWEL SIGN REVERSED IaIwSIGN NYI ZLA NAA DAoSNA LDANnMARK HALANTAhPALUTAlSIGN LCI RTAGS",
    "jYANG RTAGSkLCE TSA CANlMCHU CANiGRU CAN RGYINGSlMED RGYINGSpINVERTED MCHU CAN",
    "vUBJOINED SIGN LCE TSA CANlMCHU CANiINVERTED MCHU CANwLETTER KAbHAdGAbHAdNGAdCAbHAdJA"]⟩,
  ⟨0xf99, ["TIBETAN SUBJOINED LETTER NYAdTTAbHAeDDAbHAeNNAdTAbHAdDAbHAdNAcPAbHAdBAbHAdMAcTSAbHA",
    "eDZAbHAeWAcZHAcAc-AcYAcRAcLAcSHAcSAcAcHAcAbKSSAeFIXED-FORM WAcYAcRA"]⟩,
  ⟨0xfbe, ["TIBETAN KU RU KHAa BZHI MIG CANwCANTILLATION SIGN HEAVY BEATkLIGHT BEATkCANG TE-U",
    "jSBUB -CHALzdSYMBOL DRIL BUhRDO RJEhPADMA GDANkRDO RJE RGYA GRAMrPHUR PAhNOR BUa NYIS -KHYIL",
    "lGSUM -KHYILlBZHI -KHYIL"]⟩,
  ⟨0xfce, ["TIBETAN SIGN RDEL NAG RDEL DKARjGSUMsMARK BSKA- SHOG GI MGO RGYAN",
    "xMNYAM YIG GI MGO RGYANwNYIS TSHEGkINITIAL BRDA RNYING YIG MGO MDUN MA",
    "zkCLOSING BRDA RNYING YIG MGO SGAB MAzxRIGHT-FACING SVASTI SIGNyLEFT-FACING SVASTI SIGN",
    "xRIGHT-FACING SVASTI SIGN WITH DOTSzjLEFT-FACING SVASTI SIGN WITH DOTS",
    "ziTIBETAN MARK LEADING MCHAN RTAGStTRAILING MCHAN RTAGS"]⟩,
  ⟨0x1000, ["MYANMAR LETTER KAbHAdGAbHAdNGAdCAbHAdJAbHAdNYAcNYAeTTAbHAeDDAbHAeNNAdTAbHAdDAbHAdNA",
    "cPAbHAdBAbHAdMAcYAcRAcLAcWAcSAcHAcLLAdAbSHAN AgIaIcUaUcEbMON EfObAUjVOWEL SIGN TALL AAhAAcIaI",
    "cUaUcEbAIcMON IIcOfE ABOVEsSIGN ANUSVARAiDOT BELOWjVISARGAfRAMAgASATjCONSONANT SIGN MEDIAL YA",
    "cRAcWAcHAyLETTER GREAT SApDIGIT ZEROeONEdTWOcHREEfFOURdIVEeSIXcEVENfEIGHTfNINE",
    "kSIGN LITTLE SECTIONoSECTIONlYMBOL LOCATIVEiCOMPLETEDjAFOREMENTIONEDoGENITIVEpLETTER SHAcSA",
    "dVOCALIC RaRcLaLrVOWEL SIGN VOCALIC RaRcLaLvLETTER MON NGAdJHAdBBAbE",
    "oCONSONANT SIGN MON MEDIAL NAcMAcLAzdLETTER SGAW KAREN SHAvVOWEL SIGN SGAW KAREN EU",
    "yTONE MARK SGAW KAREN HATHIfKE PHOzcLETTER WESTERN PWO KAREN THAdPWA",
    "zdVOWEL SIGN WESTERN PWO KAREN EUcUEzgSIGN WESTERN PWO KAREN TONE-1b2b3b4b5",
    "zeLETTER EASTERN PWO KAREN NNAdYWAdGHWAzeVOWEL SIGN GEBA KAREN ImKAYAH OEcUbEEtLETTER SHAN KA",
    "bHAdGAcCAcZAcNYAdDAcNAcPHAdFAcBAcTHAdHAoCONSONANT SIGN SHAN MEDIAL WAzeVOWEL SIGN SHAN AAcE",
    "a ABOVEhFINAL YxSIGN SHAN TONE-2b3b5b6gCOUNCIL TONE-2b3gEMPHATIC TONE",
    "zgLETTER RUMAI PALAUNG FAxSIGN RUMAI PALAUNG TONE-5yHAN DIGIT ZEROeONEdTWOcHREEfFOURdIVEeSIX",
    "cEVENfEIGHTfNINEoIGN KHAMTI TONE-1b3sVOWEL SIGN AITON AaItSYMBOL SHAN ONEdEXCLAMATION",
    "zgGEORGIAN CAPITAL LETTER ANcBANdGANdDONdENcVINdZENdTANdINcKANdLASdMANdNARdONcPARdZHAReRAE",
    "dSANdTARdUNcPHAReKHAReGHANeQARdSHINeCHINdANdJILdCILcHAReXANdJHANeHAEcEbIEdWEcHARcOE"]⟩,
  ⟨0x10c7, ["GEORGIAN CAPITAL LETTER YN"]⟩,
  ⟨0x10cd, ["GEORGIAN CAPITAL LETTER AEN"]⟩,
  ⟨0x10d0, ["GEORGIAN LETTER ANcBANdGANdDONdENcVINdZENdTANdINcKANdLASdMANdNARdONcPARdZHAReRAEdSAN",
    "dTARdUNcPHAReKHAReGHANeQARdSHINeCHINdANdJILdCILcHAReXANdJHANeHAEcEbIEdWEcHARcOEdFIcYNcELIFI",
    "fTURNED GANkAINkPARAGRAPH SEPARATORzdMODIFIER LETTER GEORGIAN NARzdGEORGIAN LETTER AEN",
    "dHARD SIGNjLABIAL SIGNzcHANGUL CHOSEONG KIYEOKgSSANGKIYEOKlNIEUNfTIKEUTgSSANGTIKEUTlRIEUL",
    "fMIEUMfPIEUPfSSANGPIEUPjIOSdSANGSIOSjIEUNGfCIEUCfSSANGCIEUCkCHIEUCHhKHIEUKHhTHIEUTHhPHIEUPH",
    "hHIEUHfNIEUN-KIYEOKmSSANGNIEUNkNIEUN-TIKEUTgPIEUPlTIKEUT-KIYEOKnRIEUL-NIEUNlSSANGRIEUL",
    "kRIEUL-HIEUHlKAPYEOUNRIEULnMIEUM-PIEUPlKAPYEOUNMIEUMnPIEUP-KIYEOKgNIEUNfTIKEUTgSIOSa-KIYEOK",
    "gTIKEUTgPIEUPjSANGSIOSiIOS-CIEUCkCIEUCeHIEUCHhTHIEUTHhPHIEUPHnKAPYEOUNPIEUPfSSANGPIEUP",
    "sSIOS-KIYEOKgNIEUNfTIKEUTgRIEULfMIEUMfPIEUPa-KIYEOKmSSANGSIOSjIEUNGfCIEUCeHIEUCHhKHIEUKH",
    "hTHIEUTHhPHIEUPHhHIEUHkCHITUEUMSIOSdSANGSIOSqEONGCHIEUMSIOSdSANGSIOSuPANSIOShIEUNG-KIYEOK",
    "gTIKEUTgMIEUMfPIEUPfSIOSePANSIOSnSSANGIEUNGkIEUNG-CIEUCeHIEUCHhTHIEUTHhPHIEUPHnYESIEUNG",
    "iCIEUC-IEUNGkHITUEUMCIEUCfSSANGCIEUCrEONGCHIEUMCIEUCfSSANGCIEUCuHIEUCH-KHIEUKHhHIEUH",
    "kTUEUMCHIEUCHoEONGCHIEUMCHIEUCHsPHIEUPH-PIEUPnKAPYEOUNPHIEUPHpSSANGHIEUHkYEORINHIEUH",
    "lKIYEOK-TIKEUTnNIEUN-SIOSeCIEUCfHIEUHlTIKEUT-RIEULmFILLERpJUNGSEONG FILLERgAaEcYAaEdEOcEbYEO",
    "cEcObWAaEdOEcYOcUbWEOcEbIcYUcEUcYIcIbA-ObUdYA-ObYOfEO-ObUbEUfYEO-ObUfO-EOcEbYEcObUdYO-YAaEcEO",
    "dObIeU-AaEcEO-EUfYEcUdYU-AbEOcEbYEOcEcUbIeEU-UbEUfYI-UeI-AbYAcObUbEUcARAEAhARAEAa-EOcUbI",
    "hSSANGARAEAkA-EUeYA-UdEO-YAgO-YAaEoONGSEONG KIYEOKgSSANGKIYEOKlKIYEOK-SIOSlNIEUNa-CIEUCfHIEUH",
    "lTIKEUTgRIEULa-KIYEOKgMIEUMfPIEUPfSIOSeTHIEUTHhPHIEUPHhHIEUHlMIEUMfPIEUPa-SIOSkSIOSdSANGSIOS",
    "jIEUNGfCIEUCeHIEUCHhKHIEUKHhTHIEUTHhPHIEUPHhHIEUHfKIYEOK-RIEULfSIOS-KIYEOKsNIEUN-KIYEOK",
    "gTIKEUTgSIOSePANSIOShTHIEUTHnTIKEUT-KIYEOKgRIEULmRIEUL-KIYEOK-SIOSlNIEUNfTIKEUTa-HIEUH",
    "sSSANGRIEULkRIEUL-MIEUM-KIYEOKgSIOSkPIEUP-SIOSeHIEUHlKAPYEOUNPIEUPnSSANGSIOSjPANSIOShKHIEUKH",
    "hYEORINHIEUHrMIEUM-KIYEOKgRIEULfPIEUPfSIOSdSANGSIOSjPANSIOShCHIEUCHhHIEUHlKAPYEOUNMIEUM",
    "nPIEUP-RIEULfPHIEUPHhHIEUHlKAPYEOUNPIEUPnSIOS-KIYEOKgTIKEUTgRIEULfPIEUPkPANSIOShIEUNG-KIYEOK",
    "gSSANGKIYEOKrSSANGIEUNGkIEUNG-KHIEUKHnYESIEUNGa-SIOSePANSIOSqPHIEUPH-PIEUPnKAPYEOUNPHIEUPH",
    "pHIEUH-NIEUNfRIEULfMIEUMfPIEUPlYEORINHIEUHlKIYEOK-NIEUNfPIEUPfCHIEUCHhKHIEUKHhHIEUH",
    "mSSANGNIEUNzcETHIOPIC SYLLABLE HAbUbIbAAcEEcEbOaAdLAbUbIbAAcEEcEbObWAdHHAbUbIbAAcEEcEbObWAeMA",
    "bUbIbAAcEEcEbObWAdSZAbUbIbAAcEEcEbObWAeRAbUbIbAAcEEcEbObWAdSAbUbIbAAcEEcEbObWAcHAbUbIbAAcEEcE",
    "bObWAeQAbUbIbAAcEEcEbOaAcWA"]⟩,
  ⟨0x124a, ["ETHIOPIC SYLLABLE QWIbAAcEEcE"]⟩,
  ⟨0x1250, ["ETHIOPIC SYLLABLE QHAbUbIbAAcEEcEbO"]⟩,
  ⟨0x1258, ["ETHIOPIC SYLLABLE QHWA"]⟩,
  ⟨0x125a, ["ETHIOPIC SYLLABLE QHWIbAAcEEcE"]⟩,
  ⟨0x1260, ["ETHIOPIC SYLLABLE BAbUbIbAAcEEcEbObWAdVAbUbIbAAcEEcEbObWAdTAbUbIbAAcEEcEbObWAdCAbUbI",
    "bAAcEEcEbObWAdXAbUbIbAAcEEcEbOaAcWA"]⟩,
  ⟨0x128a, ["ETHIOPIC SYLLABLE XWIbAAcEEcE"]⟩,
  ⟨0x1290, ["ETHIOPIC SYLLABLE NAbUbIbAAcEEcEbObWAcYAbUbIbAAcEEcEbObWAeGLOTTAL AbUbIbAAcEEcEbObWA",
    "kKAbUbIbAAcEEcEbOaAcWA"]⟩,
  ⟨0x12b2, ["ETHIOPIC SYLLABLE KWIbAAcEEcE"]⟩,
  ⟨0x12b8, ["ETHIOPIC SYLLABLE KXAbUbIbAAcEEcEbO"]⟩,
  ⟨0x12c0, ["ETHIOPIC SYLLABLE KXWA"]⟩,
  ⟨0x12c2, ["ETHIOPIC SYLLABLE KXWIbAAcEEcE"]⟩,
  ⟨0x12c8, ["ETHIOPIC SYLLABLE WAbUbIbAAcEEcEbOaAdPHARYNGEAL AbUbIbAAcEEcEbO"]⟩,
  ⟨0x12d8, ["ETHIOPIC SYLLABLE ZAbUbIbAAcEEcEbObWAcHAbUbIbAAcEEcEbObWAeYAbUbIbAAcEEcEbOaAdDAbUbI",
    "bAAcEEcEbObWAcDAbUbIbAAcEEcEbObWAeJAbUbIbAAcEEcEbObWAdGAbUbIbAAcEEcEbOaAcWA"]⟩,
  ⟨0x1312, ["ETHIOPIC SYLLABLE GWIbAAcEEcE"]⟩,
  ⟨0x1318, ["ETHIOPIC SYLLABLE GGAbUbIbAAcEEcEbObWAAfTHAbUbIbAAcEEcEbObWAeCHAbUbIbAAcEEcEbObWAePHA",
    "bUbIbAAcEEcEbObWAeTSAbUbIbAAcEEcEbObWAdZAbUbIbAAcEEcEbOaAeFAbUbIbAAcEEcEbObWAdPAbUbIbAAcEEcE",
    "bObWAdRYAdMYAdFYA"]⟩,
  ⟨0x135d, ["ETHIOPIC COMBINING GEMINATION AND VOWEL LENGTH MARKzhVOWEL LENGTH MARK",
    "rGEMINATION MARKzSECTION MARKmWORDSPACEjFULL STOPjCOMMAfSEMICOLONjCOLONfPREFACE COLON",
    "nQUESTION MARKnPARAGRAPH SEPARATORtDIGIT ONEdTWOcHREEfFOURdIVEeSIXcEVENfEIGHTfNINEkNUMBER TEN",
    "cWENTYfHIRTYgFORTYeIFTYfSIXTYeEVENTYhEIGHTYgNINETYgHUNDREDhTEN THOUSAND"]⟩,
  ⟨0x1380, ["ETHIOPIC SYLLABLE SEBATBEIT MWAnMWIbEEcEdSEBATBEIT BWAnBWIbEEcEdSEBATBEIT FWAnFWIbEE",
    "cEdSEBATBEIT PWAnPWIbEEcEmTONAL MARK YIZETfDERETfRIKRIKgSHORT RIKRIKmDIFATfKENATfCHIRETgHIDET",
    "fDERET-HIDETlKURT"]⟩,
  ⟨0x13a0, ["CHEROKEE LETTER AbEbIbObUbVbGAcKAcGEbIbObUbVcHAbEbIbObUbVcLAbEbIbObUbVcMAbEbIbObUcNA",
    "cHNAdNAHcEbIbObUbVcQUAbEbIbObUbVdSAcSaEbIbObUbVcDAcTAcDEcTEcDIcTIcDObUbVbLAdTLAbEbIbObUbVcSA",
    "bEbIbObUbVdWAbEbIbObUbVcYAbEbIbObUbVcMV"]⟩,
  ⟨0x13f8, ["CHEROKEE SMALL LETTER YEbIbObUbVcMV"]⟩,
  ⟨0x1400, ["CANADIAN SYLLABICS HYPHENgEbAAIdIaIcOaOcY-CREE OOjCARRIER EEcIjAaAcWEaST-CREE WElI",
    "bEST-CREE WIlIIcEST-CREE WIImObEST-CREE WOlOOcEST-CREE WOOnNASKAPI WOOlWAbEST-CREE WAlAA",
    "cEST-CREE WAAnNASKAPI WAAlAIcY-CREE WiGLOTTAL STOPmFINAL ACUTEfGRAVEfBOTTOM HALF RING",
    "qTOP HALF RINGnRIGHT HALF RINGnNGeDOUBLE ACUTEfSHORT VERTICAL STROKESzeMIDDLE DOT",
    "kSHORT HORIZONTAL STROKExPLUSeDOWN TACKpENcINcONcANcPEbAAIdIaIcOaOdY-CREE POOkCARRIER HEEcI",
    "kPAaAcWEdWEST-CREE PWEnPWIdWEST-CREE PWInPWIIeWEST-CREE PWIIoPWOdWEST-CREE PWOnPWOO",
    "eWEST-CREE PWOOoPWAdWEST-CREE PWAnPWAAeWEST-CREE PWAAoY-CREE PWAAlPbWEST-CREE PlCARRIER HjTE",
    "bAAIdIaIcOaOdY-CREE TOOkCARRIER DEEcIkTAaAcWEdWEST-CREE TWEnTWIdWEST-CREE TWInTWII",
    "eWEST-CREE TWIIoTWOdWEST-CREE TWOnTWOOeWEST-CREE TWOOoTWAdWEST-CREE TWAnTWAAeWEST-CREE TWAA",
    "oNASKAPI TWAAmTaTEbIbObAdKEbAAIdIaIcOaOdY-CREE KOOkKAaAcWEdWEST-CREE KWEnKWIdWEST-CREE KWI",
    "nKWIIeWEST-CREE KWIIoKWOdWEST-CREE KWOnKWOOeWEST-CREE KWOOoKWAdWEST-CREE KWAnKWAA",
    "eWEST-CREE KWAAoNASKAPI KWAAmKaWcSOUTH-SLAVEY KEHcIHcOHcAHqCEbAAIdIaIcOaOdY-CREE COOkCAaAcWE",
    "dWEST-CREE CWEnCWIdWEST-CREE CWInCWIIeWEST-CREE CWIIoCWOdWEST-CREE CWOnCWOOeWEST-CREE CWOO",
    "oCWAdWEST-CREE CWAnCWAAeWEST-CREE CWAAoNASKAPI CWAAmCbSAYISI THjMEbAAIdIaIcOaOdY-CREE MOOkMA",
    "aAcWEdWEST-CREE MWEnMWIdWEST-CREE MWInMWIIeWEST-CREE MWIIoMWOdWEST-CREE MWOnMWOO",
    "eWEST-CREE MWOOoMWAdWEST-CREE MWAnMWAAeWEST-CREE MWAAoNASKAPI MWAAmMbWEST-CREE MlMH",
    "cATHAPASCAN MmSAYISI MiNEbAAIdIaIcOaOdY-CREE NOOkNAaAcWEdWEST-CREE NWEnNWAdWEST-CREE NWAnNWAA",
    "eWEST-CREE NWAAoNASKAPI NWAAmNbCARRIER NGkNHcLEbAAIdIaIcOaOdY-CREE LOOkLAaAcWEdWEST-CREE LWE",
    "nLWIdWEST-CREE LWInLWIIeWEST-CREE LWIIoLWOdWEST-CREE LWOnLWOOeWEST-CREE LWOOoLWA",
    "dWEST-CREE LWAnLWAAeWEST-CREE LWAAoLbWEST-CREE LlMEDIAL LiSEbAAIdIaIcOaOdY-CREE SOOkSAaAcWE",
    "dWEST-CREE SWEnSWIdWEST-CREE SWInSWIIeWEST-CREE SWIIoSWOdWEST-CREE SWOnSWOOeWEST-CREE SWOO",
    "oSWAdWEST-CREE SWAnSWAAeWEST-CREE SWAAoNASKAPI SWAAmSbATHAPASCAN SmSWcBLACKFOOT S",
    "lMOOSE-CREE SKnNASKAPI SKWc-WcPWAdTWAdKWAdCWAmSHEbIaIcOaOcAaAcWEeWEST-CREE SHWEoSHWI",
    "eWEST-CREE SHWIoSHWIIfWEST-CREE SHWIIpSHWOeWEST-CREE SHWOoSHWOOfWEST-CREE SHWOOpSHWA",
    "eWEST-CREE SHWAoSHWAAfWEST-CREE SHWAApSHcYEbAAIdIaIcOaOc-CREE YOOjAaAcWEdWEST-CREE YWEnYWI",
    "dWEST-CREE YWInYWIIeWEST-CREE YWIIoYWOdWEST-CREE YWOnYWOOeWEST-CREE YWOOoYWAdWEST-CREE YWA",
    "nYWAAeWEST-CREE YWAAoNASKAPI YWAAmYbBIBLE-CREE YmWEST-CREE YlSAYISI YIjREb-CREE RE",
    "jWEST-CREE LEmRAAIdIaIcOaOdWEST-CREE LOmRAaAdWEST-CREE LAmRWAAeWEST-CREE RWAAoRbWEST-CREE R",
    "lMEDIAL RiFEbAAIdIaIcOaOcAaAcWAAeWEST-CREE FWAAoFbTHEdN-CREE THEkTHIdN-CREE THIkTHII",
    "eN-CREE THIIlTHOaOcAaAcWAAfWEST-CREE THWAApTHbTHEbIbObAcHcYEbIbObAdNUNAVIK HEbIaIcOaOcAaAdH",
    "eUT HjHKcQAAIdIaIcOaOcAaAdQbTLHEbIbObAeWEST-CREE REbIbObAmNGAAIdIaIcOaOcAaAdGbNGdSAYISI SHEbI",
    "bObAkWOODS-CREE THEbIbObAcHnLHIaIcOaOcAaAdHcTH-CREE THEbIaIcOaOcAaAdHkAIVILIK BjBLACKFOOT EbI",
    "bObAbWEbIbObAcNEbIbObAcKEbIbObAmSAYISI HEbIbObAjCARRIER GHUbObEaEcIbAdRUbObEaEcIbAcWUbObEaEcI",
    "bAcHWUbObEaEcIbAdTHUbObEaEcIbAcTUbObEaEcIbAdPUbObEaEcIbAcPbGUbObEaEcIbAcKHUbObEaEcIbAcKUbObE",
    "aEcIbAcKcNUbObEaEcIbAcMUbObEaEcIbAcYUbObEaEcIbAcJUkSAYISI JUjCARRIER JObEaEcIkSAYISI JI",
    "jCARRIER JAbJUbObEaEcIbAdLUbObEaEcIbAcDLUbObEaEcIbAdLHUbObEaEcIbAdTLHUbObEaEcIbAcUbObEaEcIbA",
    "dZUbObEaEcIbAcZbINITIAL ZjDZUbObEaEcIbAdSUbObEaEcIbAbHUbObEaEcIbAcHcTSUbObEaEcIbAdCHUbObEaEcI",
    "bAdTTSUbObEaEcIbAlHI SIGNiFULL STOPjQAIdNGAIdNGIaIcOaOcAaAfWOODS-CREE THWEEcIaIcOaOcAaA",
    "fFINAL THtBLACKFOOT WzfOGHAM SPACE MARKkLETTER BEITHfLUISeFEARNfSAILeNIONeUATHeDAIReTINNE",
    "fCOLLdEIRTfMUINeGORTeNGEADALhSTRAIFgRUISeAILMeONNdURcEADHADHhIODHADHhEABHADHhORcUILLEANNiIFIN",
    "eEAMHANCHOLLlPEITHmFEATHER MARKmREVERSED FEATHER MARK"]⟩,
  ⟨0x16a0, ["RUNIC LETTER FEHU FEOH FE FoVbURUZ UR UjYRcYbWbTHURISAZ THURS THORNuETHdANSUZ AhOS O",
    "eAC AdESCeLONG-BRANCH-OSS OrSHORT-TWIG-OSS OqOaEbNcRAIDO RAD REID RqKAUNAfCENdKAUN KgGbENG",
    "dGEBO GYFU GkARdWUNJO WYNN WmHAGLAZ HgEGL HhLONG-BRANCH-HAGALL HuSHORT-TWIG-HAGALL H",
    "tNAUDIZ NYD NAUD NrSHORT-TWIG-NAUD NrDOTTED-NiISAZ IS ISS InEbJERAN JhGERdLONG-BRANCH-AR AE",
    "rSHORT-TWIG-AR ApIWAZ EOHiPERTHO PEORTH PpALGIZ EOLHXlSOWILO ShIGEL LONG-BRANCH-SOL S",
    "wHORT-TWIG-SOL SqCbZbTIWAZ TIR TYR TpSHORT-TWIG-TYR TqDbBERKANAN BEORC BJARKAN B",
    "ySHORT-TWIG-BJARKAN BuDOTTED-PiOPEN-PgEHWAZ EH EkMANNAZ MAN MmLONG-BRANCH-MADR M",
    "sSHORT-TWIG-MADR MrLAUKAZ LAGU LOGR LsDOTTED-LiINGWAZeGdDAGAZ DAEG DmOTHALAN ETHEL OpEARdIOR",
    "dCWEORTHgALCdEALCfSTANeLONG-BRANCH-YRoSHORT-TWIG-YRnICELANDIC-YRmQbXiSINGLE PUNCTUATION",
    "sMULTIPLE PUNCTUATIONuCROSS PUNCTUATIONrARLAUG SYMBOLnTVIMADUR SYMBOLpBELGTHOR SYMBOL",
    "pLETTER KbSHcOOcFRANKS CASKET OScIScEHcACbESC"]⟩,
  ⟨0x1700, ["TAGALOG LETTER AbIbUbKAcGAcNGAdTAcDAcNAcPAcBAcMAcYAcRAcLAcWAcSAcHAjVOWEL SIGN IbU",
    "mSIGN VIRAMAgPAMUDPOD"]⟩,
  ⟨0x171f, ["TAGALOG LETTER ARCHAIC RAzHANUNOO LETTER AbIbUbKAcGAcNGAdTAcDAcNAcPAcBAcMAcYAcRAcLA",
    "cWAcSAcHAjVOWEL SIGN IbUmSIGN PAMUDPODvPHILIPPINE SINGLE PUNCTUATIONsDOUBLE PUNCTUATION"]⟩,
  ⟨0x1740, ["BUHID LETTER AbIbUbKAcGAcNGAdTAcDAcNAcPAcBAcMAcYAcRAcLAcWAcSAcHAjVOWEL SIGN IbU"]⟩,
  ⟨0x1760, ["TAGBANWA LETTER AbIbUbKAcGAcNGAdTAcDAcNAcPAcBAcMAcYA"]⟩,
  ⟨0x176e, ["TAGBANWA LETTER LAcWAcSA"]⟩,
  ⟨0x1772, ["TAGBANWA VOWEL SIGN IbU"]⟩,
  ⟨0x1780, ["KHMER LETTER KAbHAcObHOdNGOdCAbHAcObHOdNYOdDAcTTHAeDOcTTHOeNNOdTAbHAcObHOdNOcBAcPHAcO",
    "bHOdMOcYOcROcLOcVOcSHAcSOcAcHAcLAcQAjINDEPENDENT VOWEL QAQbAcIaIcUaKbUaVeRYaYdLYaYdQEbAI",
    "cOO TYPE ONEdTWOlAUvVOWEL INHERENT AQbAlSIGN AAcIaIcYaYcUaUbAcOEcYAcIEcEbAEbIcOOcAU",
    "nSIGN NIKAHIThREAHMUKhYUUKALEAPINTUnMUUSIKATOANlTRIISAPhBANTOCgROBATfTOANDAKHIATlKAKABAT",
    "hAHSDAfSAMYOK SANNYAnVIRIAMgCOENGfBATHAMASATkKHANeBARIYOOSANkCAMNUC PII KUUHpLEK TOOhBEYYAL",
    "gPHNAEK MUANlKOOMUUTmCURRENCY SYMBOL RIELuSIGN AVAKRAHASANYAmTTHACAN"]⟩,
  ⟨0x17e0, ["KHMER DIGIT ZEROeONEdTWOcHREEfFOURdIVEeSIXcEVENfEIGHTfNINE"]⟩,
  ⟨0x17f0, ["KHMER SYMBOL LEK ATTAK SONdMUOYePIIdBEIcUONePRAMa-MUOYePIIdBEIcUON"]⟩,
  ⟨0x1800, ["MONGOLIAN BIRGAfELLIPSISiCOMMAfFULL STOPjCOLONfFOUR DOTSjTODO SOFT HYPHEN",
    "qSIBE SYLLABLE BOUNDARY MARKERzeMANCHU COMMAfFULL STOPqNIRUGUgFREE VARIATION SELECTOR ONEdTWO",
    "cHREEzeVOWEL SEPARATORpFREE VARIATION SELECTOR FOURzdDIGIT ZEROeONEdTWOcHREEfFOURdIVEeSIX",
    "cEVENfEIGHTfNINE"]⟩,
  ⟨0x1820, ["MONGOLIAN LETTER AbEbIbObUbOEcUEcEEcNAcANGdBAcPAcQAcGAcMAcLAcSAbHAdTAcDAcCHAdJAcYAcRA",
    "cWAcFAcKAbHAdTSAdZAcHAAdZRAdLHAdZHIdCHIdTODO LONG VOWEL SIGNpEbIbObUbOEcUEcANGdBAcPAcQAcGAcMA",
    "cTAcDAcCHAdJAcTSAdYAcWAcKAcGAAdHAAdJIAdNIAdDZAiSIBE EbIaYcUEcUbANGdKAcGAcHAcPAcSHAdTAcDAcJA",
    "cFAcGAAdHAAdTSAdZAcRAAdCHAdZHAiMANCHU IbKAcRAcFAcZHAkCHA WITH TWO DOTS"]⟩,
  ⟨0x1880, ["MONGOLIAN LETTER ALI GALI ANUSVARA ONEmVISARGA ONElDAMARUgUBADAMAhINVERTED UBADAMA",
    "qBALUDAgTHREE BALUDAmAbIbKAcNGAdCAcTTAbHAeDDAdNNAdTAcDAcPAbHAdSSAdZHAcAcAHlTODO ALI GALI TA",
    "cZHArMANCHU ALI GALI GHAdNGAdCAcJHAdTTAdDDHAeTAcDHAdSSAdCYAdZHAcAsALI GALI HALF UbYA",
    "qMANCHU ALI GALI BHAtALI GALI DAGALGAqMANCHU ALI GALI LHA"]⟩,
  ⟨0x18b0, ["CANADIAN SYLLABICS OYcAYbAYdWAYdPOYcAYcWOYeTAYdKAYcWAYeMAYdNOYcAYdLAYdSOYcAYcHOYcAY",
    "cWOYfYOYcAYdRAYdNWIdOJIBWAY NWIlNWIIeOJIBWAY NWIImNWOdOJIBWAY NWOlNWOOeOJIBWAY NWOOmRWEEcIaI",
    "cOaOcAdOJIBWAY PbTbKbCbMbNbSaHkEASTERN WjWESTERN WjFINAL SMALL RINGkRAISED DOTqR-CREE RWE",
    "kWEST-CREE LOOcAAnTHWEbAdTHWEcOOcAAeLHWEcOOfSAYISI SHWEcOOeHOOkCARRIER GWUdDENE GEEiGAAcWA",
    "lSAYISI JUUkCARRIER JWAlBEAVER DENE LbRnCARRIER DENTAL S"]⟩,
  ⟨0x1900, ["LIMBU VOWEL-CARRIER LETTERuLETTER KAbHAdGAbHAdNGAdCAbHAdJAbHAdYANdTAbHAdDAbHAdNAcPA",
    "bHAdBAbHAdMAcYAcRAcLAcWAcSHAcSAcAcHAcGYANeTRA"]⟩,
  ⟨0x1920, ["LIMBU VOWEL SIGN AbIbUbEEcAIcOOcAUcEbOmSUBJOINED LETTER YAcRAcWA"]⟩,
  ⟨0x1930, ["LIMBU SMALL LETTER KAcNGAdANUSVARAiTAcNAcPAcMAcRAcLAoIGN MUKPHRENGjKEMPHRENGjSA-I"]⟩,
  ⟨0x1940, ["LIMBU SIGN LOO"]⟩,
  ⟨0x1944, ["LIMBU EXCLAMATION MARKqQUESTION MARKnDIGIT ZEROeONEdTWOcHREEfFOURdIVEeSIXcEVENfEIGHT",
    "fNINEqTAI LE LETTER KAcXAcNGAdTSAdSAcYAcTAbHAdLAcPAbHAdMAcFAcVAcHAcQAcKHAdTSHAeNAcAbIbEEbHcU",
    "bOOcObUEcEbAUEcI"]⟩,
  ⟨0x1970, ["TAI LE LETTER TONE-2b3b4b5b6"]⟩,
  ⟨0x1980, ["NEW TAI LUE LETTER HIGH QAhLOW QAgHIGH KAcXAcNGAiLOW KAcXAcNGAhHIGH TSAdSAcYAhLOW TSA",
    "dSAcYAgHIGH TAbHAdNAhLOW TAbHAdNAgHIGH PAbHAdMAhLOW PAbHAdMAgHIGH FAcVAcLAhLOW FAcVAcLA",
    "gHIGH HAcDAcBAhLOW HAcDAcBAgHIGH KVAdXVAiLOW KVAdXVAhHIGH SUAiLOW SUA"]⟩,
  ⟨0x19b0, ["NEW TAI LUE VOWEL SIGN VOWEL SHORTENERpAAcIIcUaUcEbAEcOaAcUEcAYbAYdUYcOYbAYdUEYdIY",
    "nLETTER FINAL VbNGcNbMbKbDbBoTONE MARK-1b2"]⟩,
  ⟨0x19d0, ["NEW TAI LUE DIGIT ZEROeONEdTWOcHREEfFOURdIVEeSIXcEVENfEIGHTfNINEkTHAM DIGIT ONE"]⟩,
  ⟨0x19de, ["NEW TAI LUE SIGN LAEaVvKHMER SYMBOL PATHAMASATkMUOY KOETjPII KOETiBEI KOEThUON KOET",
    "jPRAM KOETf-MUOY KOETjPII KOETiBEI KOEThUON KOEToDAP KOETf-MUOY KOETjPII KOETiBEI KOET",
    "hUON KOETjPRAM KOETnTUTEYASATjMUOY ROCiPII ROChBEI ROCgUON ROCiPRAM ROCe-MUOY ROCiPII ROC",
    "hBEI ROCgUON ROCnDAP ROCe-MUOY ROCiPII ROChBEI ROCgUON ROCiPRAM ROCzBUGINESE LETTER KAcGAcNGA",
    "bKAePAcBAcMAbPAdTAcDAcNAbRAdCAcJAcNYAbCAeYAcRAcLAcVAcSAcAbHAjVOWEL SIGN IbUbEbObAE"]⟩,
  ⟨0x1a1e, ["BUGINESE PALLAWAhEND OF SECTIONxTAI THAM LETTER HIGH KAbHAcXAiLOW KAbXAcHAhNGA",
    "dHIGH CAbHAiLOW CAcSAcCHAhNYAdRATAeHIGH RATHAkDAcLOW RATHAjRANAeHIGH TAbHAiLOW TAbHAhNAcBA",
    "cHIGH PAbHAdFAhLOW PAcFAcPHAhMAcLOW YAgHIGH YAhRAbUEdLAbUEdWAcHIGH SHAcSAcAcHAhLLAdAbLOW HAgI",
    "aIcUaUcEEcOOcLAEdGREAT SApCONSONANT SIGN MEDIAL RAcLAjLA TANG LAIzbSIGN MAI KANG LAI",
    "rCONSONANT SIGN FINAL NGAjLOW PAgHIGH RATHA OR LOW PAuMAcBAcSA"]⟩,
  ⟨0x1a60, ["TAI THAM SIGN SAKOTkVOWEL SIGN AbMAI SAThAAcTALL AAhIaIcUEbUEdUaUcOaA BELOWhYcEbAEcOO",
    "cAIcTHAM AIhOA ABOVEtSIGN MAI KANGiTONE-1b2gKHUEN TONE-3b4b5mRA HAAMhMAI SAM",
    "hKHUEN-LUE KARAN"]⟩,
  ⟨0x1a7f, ["TAI THAM COMBINING CRYPTOGRAMMIC DOTzcHORA DIGIT ZEROeONEdTWOcHREEfFOURdIVEeSIXcEVEN",
    "fEIGHTfNINE"]⟩,
  ⟨0x1a90, ["TAI THAM THAM DIGIT ZEROeONEdTWOcHREEfFOURdIVEeSIXcEVENfEIGHTfNINE"]⟩,
  ⟨0x1aa0, ["TAI THAM SIGN WIANGaWAAKjSAWANfKEOWeHOYdDOKMAIgREVERSED ROTATED RANAvMAI YAMOKjKAAN",
    "aKUUhSATKAANaKUUkHANGeCAANG"]⟩,
  ⟨0x1ab0, ["COMBINING DOUBLED CIRCUMFLEX ACCENTyIAERESIS-RINGoINFINITYiDOWNWARDS ARROWpTRIPLE DOT",
    "kX-X BELOWjWIGGLY LINE BELOWrOPEN MARK BELOWpDOUBLE OPEN MARK BELOW",
    "wLIGHT CENTRALIZATION STROKE BELOWziSTRONG CENTRALIZATION STROKE BELOWzjPARENTHESES ABOVE",
    "rDOUBLE PARENTHESES ABOVEyPARENTHESES BELOWfOVERLAYtLATIN SMALL LETTER W BELOWhTURNED W BELOW",
    "zhEFT PARENTHESIS ABOVE LEFTzcRIGHT PARENTHESIS ABOVE RIGHTzeLEFT PARENTHESIS BELOW LEFT",
    "zcRIGHT PARENTHESIS BELOW RIGHTzeSQUARE BRACKETS ABOVEvNUMBER SIGN ABOVE",
    "rINVERTED DOUBLE ARCH ABOVEzbPLUS SIGN ABOVEpDOUBLE PLUS SIGN ABOVEfBELOWwTRIPLE ACUTE ACCENT",
    "tLATIN SMALL LETTER INSULAR GbRbT"]⟩,
  ⟨0x1b00, ["BALINESE SIGN ULU RICEMfCANDRAkCECEKfSURANGgBISAHkLETTER AKARAa TEDUNGmIKARAa TEDUNG",
    "mUKARAa TEDUNGmRA REPAa TEDUNGoLA LENGAa TEDUNGpEKARAfAIKARAgOKARAa TEDUNGmKAa MAHAPRANAmGA",
    "a GORAhNGAdCAa LACAhJAa JERAhNYAdTA LATIKfMURDA MAHAPRANAsDA MURDA ALPAPRANAjMAHAPRANA",
    "sNA RAMBATjTAa TAWAhDAa MADUhNAcPAa KAPALiBAa KEMBANGkMAcYAcRAcLAcWAcSA SAGAcPAgAcHA",
    "jSIGN REREKANmVOWEL SIGN TEDUNGgULUa SARIiSUKUa ILUTjRA REPAa TEDUNGoLA LENGAa TEDUNGpTALING",
    "a REPAeTEDUNGgREPA TEDUNGsPEPETa TEDUNGxADEG ADEGjLETTER KAF SASAKiHOT SASAKkTZIR SASAK",
    "kEF SASAKiVE SASAKiZAL SASAKjASYURA SASAKlRCHAIC JNYA"]⟩,
  ⟨0x1b50, ["BALINESE DIGIT ZEROeONEdTWOcHREEfFOURdIVEeSIXcEVENfEIGHTfNINEkPANTIdMADAgWINDU",
    "fCARIK PAMUNGKAHjSIKIePARERENnPAMENENGiMUSICAL SYMBOL DONGdENGdUNGdANGa SURANGkINGdAENGeEUNG",
    "eAINGdNG GEDEjCOMBINING TEGEHfENDEPfKEMPULcLIgJEGOGANhKEMPUL WITH JEGOGANpLI WITH JEGOGAN",
    "tBENDEfGONGoRIGHT-HAND OPEN DUGcAGiCLOSED TUKcAKvLEFT-HAND OPEN PANGdUNGjCLOSED PLAKcUK",
    "lOPEN PINGzjPANTI LANTANGlMADA LANTANG"]⟩,
  ⟨0x1b80, ["SUNDANESE SIGN PANYECEKfGLAYARfWISADoLETTER AbIbUbAEcObEaUcKAcQAcGAcNGAdCAcJAcZAcNYA",
    "dTAcDAcNAcPAcFAcVAcBAcMAcYAcRAcLAcWAcSAcXAcHAjCONSONANT SIGN PAMINGKALhNYAKRAeIKU",
    "wVOWEL SIGN PANGHULUfYUKUeAELAENGhOLONGgMEPETfNEULEUNGvSIGN PAMAAEHhVIRAMA",
    "lCONSONANT SIGN PASANGAN MAcWAzbLETTER KHAdSYAkDIGIT ZEROeONEdTWOcHREEfFOURdIVEeSIXcEVEN",
    "fEIGHTfNINEkAVAGRAHAiLETTER REUdLEUdBHAdFINAL KbMyBATAK LETTER AbSIMALUNGUN AmHA",
    "cSIMALUNGUN HAnMANDAILING HAnBAcKARO BAhPAcSIMALUNGUN PAnNAcMANDAILING NAnWAcSIMALUNGUN WA",
    "nPAKPAK WAjGAcSIMALUNGUN GAnJAcDAcRAcSIMALUNGUN RAnMAcSIMALUNGUN MAmOUTHERN TAlNORTHERN TAlSA",
    "bIMALUNGUN SAnMANDAILING SAnYAcSIMALUNGUN YAnNGAdLAcSIMALUNGUN LAnNYAdCAcNDAdMBAdIbU",
    "iSIGN TOMPIkVOWEL SIGN EbPAKPAK EiEEcIbKARO IgObKARO OgUa FOR SIMALUNGUN SA",
    "zfCONSONANT SIGN NGcHqPANGOLATfONGONAN"]⟩,
  ⟨0x1bfc, ["BATAK SYMBOL BINDU NA METEKiPINARBORASkJUDULfPANGOLATzcLEPCHA LETTER KAbLAcHAdGAbLA",
    "dNGAdCAbHAdJAcNYAdTAbHAdDAcNAcPAbLAcHAdFAbLAdBAbLAdMAbLAdTSAbHAeDZAdYAcRAcLAcHAbLAdVAcSAbHA",
    "dWAcAiSUBJOINED LETTER YAcRAtVOWEL SIGN AAcIbOaOcUaUcEmCONSONANT SIGN KbMbLbNbPbRbTbNYIN-DO",
    "hKANGtSIGN RANdNUKTA"]⟩,
  ⟨0x1c3b, ["LEPCHA PUNCTUATION TA-ROLgNYET THYOOM TA-ROLsCER-WAgTSHOOK CER-WAiKsDIGIT ZEROeONE",
    "dTWOcHREEfFOURdIVEeSIXcEVENfEIGHTfNINE"]⟩,
  ⟨0x1c4d, ["LEPCHA LETTER TTAbHAeDDArOL CHIKI DIGIT ZEROeONEdTWOcHREEfFOURdIVEeSIXcEVENfEIGHT",
    "fNINEkLETTER LAcATbGbNGcLcLAAdAAKbJbMbWdLIcISbHbNYcRcLUcUCbDbNNcYcLEcEPbDDcNbRRdLOcOTTcBbVbH",
    "jMU TTUDDAGkGAAHLAA TTUDDAAGqMU-GAAHLAA TTUDDAAGtRELAAfPHAARKAAiAHADePUNCTUATION MUCAAD",
    "gDOUBLE MUCAADzjCYRILLIC SMALL LETTER ROUNDED VEkLONG-LEGGED DEoNARROW OiWIDE EShTALL TE",
    "gHREE-LEGGED TEoALL HARD SIGNjYATiUNBLENDED UK"]⟩,
  ⟨0x1c90, ["GEORGIAN MTAVRULI CAPITAL LETTER ANcBANdGANdDONdENcVINdZENdTANdINcKANdLASdMANdNARdON",
    "cPARdZHAReRAEdSANdTARdUNcPHAReKHAReGHANeQARdSHINeCHINdANdJILdCILcHAReXANdJHANeHAEcEbIEdWEcHAR",
    "cOEdFIcYNcELIFIfTURNED GANkAIN"]⟩,
  ⟨0x1cbd, ["GEORGIAN MTAVRULI CAPITAL LETTER AENdHARD SIGNjLABIAL SIGN",
    "ztSUNDANESE PUNCTUATION BINDU SURYAfPANGLONGhURNAMAhCAKRAfLEU SATANGAlKA SATANGAkDA SATANGA",
    "kBA SATANGA"]⟩,
  ⟨0x1cd0, ["VEDIC TONE KARSHANAiSHARAfPRENKHAmSIGN NIHSHVASAjYAJURVEDIC MIDLINE SVARITA",
    "zgTONE YAJURVEDIC AGGRAVATED INDEPENDENT SVARITAzfINDEPENDENT SVARITA",
    "tKATHAKA INDEPENDENT SVARITAznCANDRA BELOWmYAJURVEDIC KATHAKA INDEPENDENT SVARITA SCHROEDER",
    "zxDOUBLE SVARITAoTRIPLE SVARITAoKATHAKA ANUDATTAqDOT BELOWjTWO DOTS BELOWnHREE DOTS BELOW",
    "qRIGVEDIC KASHMIRI INDEPENDENT SVARITAzmATHARVAVEDIC INDEPENDENT SVARITA",
    "zmSIGN VISARGA SVARITAhUDATTAoREVERSED VISARGA UDATTAxVISARGA ANUDATTA",
    "qREVERSED VISARGA ANUDATTAzVISARGA UDATTA WITH TAILqANUDATTA WITH TAILzbANUSVARA ANTARGOMUKHA",
    "mBAHIRGOMUKHAmVAMAGOMUKHAa WITH TAILzfTIRYAKgHEXIFORM LONG ANUSVARAwLONG ANUSVARA",
    "nRTHANG LONG ANUSVARAuANUSVARA UBHAYATO MUKHAwRDHAVISARGAmROTATED ARDHAVISARGA",
    "zTONE CANDRA ABOVErSIGN JIHVAMULIYAlUPADHMANIYAlATIKRAMAnTONE RING ABOVEkDOUBLE RING ABOVE",
    "wSIGN DOUBLE ANUSVARA ANTARGOMUKHA"]⟩]

end TypeCatalog.Text.CharacterName
