import TypeCatalog.Text.CodePoint

/-!
# Names of cuneiform signs and hieroglyphs

Signs of cuneiform, Egyptian and Anatolian writing, and large syllabaries.
-/

namespace TypeCatalog.Text.CharacterName

/-- The names from U+12000 to U+1CFC3. -/
def inscriptions : List NameRun := [
  ⟨0x12000, ["CUNEIFORM SIGN Aa TIMES AbBADdGAN2 TENUjHAcIGIdLAGAR GUNUkMUSHeSAGk2bBa TIMES ASH2",
    "eDUN3 GUNUjGALbN2 TENUjHAcIGI GUNUhMINeLAGABfSHESHfU PLUS U PLUS UvGUNUf2a TIMES BALAG",
    "fGAN2 TENUjME PLUS ENkSHA3eTAK4nDbKa TIMES ERIN2fSHITA PLUS GISHxLa TIMES ALcDIM2eGISHeHA",
    "cKAD3dIcSHEdUSHkANcEPHeMARa TIMES SHEnNa OVER ANhTHREE TIMESlPLUS NAGA OPPOSING AN PLUS NAGA",
    "vSQUAREDsSHEePINdRADa TIMES KURmKABeSAL2dHa ZIDA TENUjKABA TENU",
    "jOVER ASH TUG2 OVER TUG2 TUG2 OVER TUG2 PAPziOVER ASHa CROSSING ASH OVER ASH OVER ASHzy2bGAB",
    "gBAaDbG3cHAR2eLa OVER BALjAGdRaA2eIa TIMES AbGARdIGI GUNUqUa OVER BU ABcUNkCROSSING BUmLUG",
    "a OVER BULUGoRa2eDAaGa KISIM5 TIMES A PLUS MASHkMAReBALAGeIcGAa PLUS MASHlIaR2dUDdHAcIR",
    "a PLUS LUkKAKdLAbUa PLUS MASH2lMdNEcPAP PLUS PAPmSIcTAK4eU2 PLUS GIR2lSHsMbRaA3b4eIaBbM",
    "a TIMES SHEk2cNa KASKAL U GUNU DISHuSHdUa OVER DUhGUNUeSHESHIGiBa TIMES ESH2l2cGaUDdHbNa3",
    "a GUNUa GUNUl4cR2eEa TIMES PAPjOVER E NUN OVER NUNu2a TIMES A PLUS HA PLUS DArGARdMIcSALcHEdU",
    "jDINdGIRdLbNa TIMES GAN2a TENUjMEiCROSSING ENlOPPOSING ENlSQUAREDjRENcIN2eSH2dZENa TIMES A",
    "a PLUS LALa TIMES LALtNcBADdDUN3 GUNUa GUNUoHAa GUNUhIGI GUNUiKASKALa SQUAREDnU3dLA",
    "aL TIMES LALmIbUcU2bDnGAa GUNUf2a TIMES A PLUS DA PLUS HAkHAcIGIjB2 TENU PLUS TABqNbSH",
    "a2 PLUS GALnBADbR PLUS RAkURa PLUS RAlDAbIaM TIMES SHEmUBdELa PLUS LAjNa TIMES GAN2 TENU",
    "sGAN2 TENUhRcIa4a PLUS AiR2 PLUS SUmHA PLUS LU PLUS ESH2sLa PLUS LAkI PLUS LIjUB2eIGI GUNU",
    "hSH PLUS HU PLUS ASHuKAKbSKALfIDa PLUS LALlU3 PLUS ANlLAcME PLUS ENjIcNUNa OVER NUNmPAcSALbR",
    "cHEa PLUS TURkIDdUMdTAK4eUaDa PLUS DUqOVER GA2kBAa CROSSING GABAqDa OVER GAD GAR OVER GARxL",
    "a GAD OVER GAD GAR OVER GARzbAMdMbNa2a TENUeOVER GAN2jCROSSING GAN2qRa3cSHANfESHTIN",
    "a TIMES KURqIa TIMES EbUhCROSSING GIm4a OVER GI4iCROSSING GI4oDIMdR2a GUNUg3",
    "a TIMES A PLUS IGIkGAN2 TENUjIGIdLU PLUS IGIlPAlSALcHa CROSSING GISHnTIMES BADdTAK4jENUiU",
    "a CROSSING GUm2a TIMES KAKa TIMES IGI GUNUsNUNdSAL PLUS TUG2tGUNUgDa TIMES A PLUS KURkKUR",
    "jOVER GUD LUGALqLbMa TIMES SHElRa7bUNbSHgHAa TENUeGUNUfLcIa TIMES ASHa2eBADdDISHeGADdKINdNUN",
    "dSHEdUjUaB2a TIMES ANcHALdKASKALgLISHeUDlL2eIa AcBbDIMa OVER IDIM BURdSQUAREDvGaIa DIBdRI",
    "cOVER IGI SHIR OVER SHIR UD OVER UDzjGUNUhLa TIMES GAN2 TENUq2cMa TIMES TAK4kCROSSING IM",
    "lOPPOSING IMlSQUAREDiINdNbRbSHdKAa TIMES AaDa PLUS KU3kSH2eBADbLAGdRcIcERIN2eSH2eGAaLbN2 TENU",
    "hRa PLUS SHA3 PLUS AtIaR2cSH PLUS SARiCROSSING GISHrUaR7eIGIcMcKAKcIaDdLIbUcMEa PLUS DUcGIcTE",
    "jIa PLUS NUNUZnNEbUNdPIcRUcSAaRcHAbEbIDcUcIGcUHURfTARdUa2bDbMUM TIMES PAmSHdZIj2",
    "a CROSSING KA2oBbD2b3b4b5a OVER KAD5mKa TIMES IGI GUNUqLa TIMES BADjCROSSING KALoM2b4cSKAL",
    "a LAGAB TIMES U OVER LAGAB TIMES UzhOVER KASKAL LAGAB TIMES U OVER LAGAB TIMES UzzESH2eI",
    "a TIMES BADdUaDjDbNbSALcHbIM5a OVER KISIM5rUa OVER HI TIMES ASH2 KU OVER HI TIMES ASH2zq3b4",
    "a VARIANT FORMo7bLa GUNUgNbRa OPPOSING KURoSHU2fWU318gLAaGABa TIMES Aa PLUS DA PLUS HAkGAR",
    "dLALjLbNbSH ZIDA TENUnBADcIcDARdENcGAaRcUDa PLUS GUDmHAaLcI TIMES NUNmIGI GUNUhMa PLUS HAcLU",
    "kKIaNcU3bLa PLUS HI PLUS AsLAGABeISHdUaLdMEa PLUS ENjUSHeNEcSHE PLUS SUM",
    "kITA PLUS GISH PLUS ERIN2kTENUsU2a PLUS SHU2nUMdTAGbK4dE PLUS A PLUS SU PLUS NAzUa PLUS A",
    "bU PLUS Uo2 PLUS ASHkDbSHjSQUAREDjRa TIMES SHEa PLUS SUMsGUNUa OVER LAGAR GUNU SHEzdHSHUeL",
    "a TIMES LALlMa TIMES KURa PLUS RUuIaLbMMU2eSHdUa TIMES BADk2a TIMES ALcBADdESH2a TENU",
    "jGAN2 TENUjHI TIMES BADmIMcKAD2b3a PLUS ASHmIcLA PLUS ASHjGABfME PLUS ENkNEbUcSI PLUS ASH",
    "jK2 PLUS BUmTUG2jENUeCROSSING LU2mOPPOSING LU2mSQUAREDgHESHIGj3bGALa OVER LUGALjPPOSING LUGAL",
    "oSHESHIGlHbLbMa OVER LUMa GAR OVER GARzMAa TIMES TAK4kGUNUf2bHbRbSHa2eEaScIaNcUa OVER MUiG",
    "a GUNUgNSUBeRGU2eSHa TIMES AbKURdZAiOVER MUSHa TIMES A PLUS NAzCROSSING MUSHo3a TIMES A",
    "a PLUS DIjDIiGUNUkNAa2bGAa INVERTEDiTIMES SHU TENUoOPPOSING NAGAoRdM NUTILLUjMa2dEa TIMES A",
    "bUDiSHESHIGjIa TIMES Ei2bMa TIMES GAN2 TENUhR PLUS GAN2 TENUzbNDA2a TIMES ANbSHa PLUS ASHmGUD",
    "dME PLUS GAN2 TENUrNEbUNdSHEa PLUS A ANdSHa PLUS ASHvU2 PLUS ASHkSHoSAGeUa11cN",
    "a LAGAR TIMES GARdMASHeSALa OVER NUN LAGAR TIMES SALzdUSHpTENUeOVER NUNiCROSSING NUN",
    "a LAGAR OVER LAGARzfUZa AB2 TIMES ASHGABgBIcDUGdGUDdIGI GUNUiKAD3eLAcNEcSILA3fU2",
    "mKISIM5 TIMES BIa UxPAaDbNbPcESH2eIa TIMES AaBcBIbUcEbIaBcUa2iCROSSING PImRIGa TIMES KALdUD",
    "cZAiOPPOSING PIRIGuRAaBcIbUcSAaG NUTILLUjGa TIMES AbDUaBdHAcKAKcURdLUMdMIcNUNdSALcHIDeTABdU2",
    "bBbMbRbSHjOVER SAGiGUNUgLa LAGAB TIMES ASH2sNGA2eRcHAa3a TIMES AbBADdGISHeNEcSHU2eTURdU",
    "a PLUS Aq6bB6cR2dEa HUcOVER SHE GAD OVER GAD GAR OVER GARzTAB OVER TAB GAR OVER GARzkG9cNbSH",
    "a2bLAMgIDa TIMES AbIMkMa TIMES AbBALcULUGfDINdGARdIGIa GUNUiKUSHU2gLULdMUGdSALlNIGdRa TENU",
    "eOVER SHIR BUR OVER BURyTAdUa OVER INVERTED SHUs2bBURfIa GUNUfGa4a OVER SIG4 SHU2rK2cLA3eU",
    "a OVER SUiDa2cHURdMaASHeRa9eTAa ASTERISKiTIMES HIcMIiGUNUfB",
    "a OVER TAB NI OVER NI DISH OVER DISHzjSQUAREDjGa TIMES BIcGUDdSHEbUdTUG2eUDkK4cRcEa GUNUgI",
    "a TENUfLbRa TIMES TAK4kOVER TIRa GAD OVER GAD GAR OVER GARzmUaG2cKbMbRa OVER TUR ZA OVER ZAxU",
    "a GUDdU UdOVER U PA OVER PA GAR OVER GARxSUR OVER SURmU REVERSED OVER U REVERSEDzj2bBbD",
    "a KUSHU2gTIMES BADdMIcU PLUS U PLUS Ua GUNUzbGUNUeSHESHIGa TIMES BADsUGdMa TIMES LAGAB",
    "fME PLUS DAkSHA3eUiBINdUMa TIMES KASKALgPAmNa GUNUgRa CROSSING URlSHESHIGi2a TIMES A PLUS HA",
    "cNAiLcHAcNUNdU2a PLUS ASHdBIs4bIa3cUa TIMES AaSHGABgBARdDUNdGAaLbN2 TENUhRcUcHAcIGIcMbSHdKI",
    "cLUMdMINdPAcSHEcIG4eTUcU PLUS GUDjDbRUDAmDAa TIMES UmSHa TIMES AbKUaRdTAK4lXb2bUMXfTUKIeZ3",
    "a TIMES KASKALoUdZAa TENUeSQUARED TIMES KURsGbMXdE2cIa OVER ZIi3bBa KABA TENUlGbZ2dUa5",
    "a TIMES AjBURdMdKAP ELAMITElAB TIMES NUNk2 TIMES AkMAR TIMES KUG",
    "oDAG KISIM5 TIMES U2 PLUS MASHzb3dISH PLUS SHUmUB TIMES SHEnEZEN TIMES GUDdSHE",
    "oGA2 TIMES AN PLUS KAK PLUS ArSH2nE22dIGdHUSHeKA TIMES ANSHEeSH3eGISHdUDdHI TIMES ASH2nLUMdPA",
    "cSHULeTUcUR2mLAGAB TIMES GInU2 SHESHIG TIMES BADrTIMES ESH2 PLUS LALnSHUnMESHdUSH3 TIMES ZA",
    "oNA4cINa9bDA2 TIMES BALdGIoU11 ROTATED NINETY DEGREESzcPESH2 ASTERISKnIR2eSAG TIMES IGI GUNU",
    "sTI2dUM TIMES MEk U"]⟩,
  ⟨0x12400, ["CUNEIFORM NUMERIC SIGN TWO ASHgHREE ASHjFOUR ASHhIVE ASHiSIX ASHgEVEN ASHjEIGHT ASH",
    "jNINE ASHiTHREE DISHkFOUR DISHiIVE DISHjSIX DISHhEVEN DISHkEIGHT DISHkNINE DISHjFOUR UfIVE U",
    "gSIX UeEVEN UhEIGHT UhNINE UgONE GESH2jTWO GESH2iHREE GESH2lFOUR GESH2jIVE GESH2kSIX GESH2",
    "iEVEN GESH2lEIGHT GESH2lNINE GESH2kONE GESHUjTWO GESHUiHREE GESHUlFOUR GESHUjIVE GESHU",
    "kTWO SHAR2iHREE SHAR2a VARIANT FORMyFOUR SHAR2jIVE SHAR2kSIX SHAR2iEVEN SHAR2lEIGHT SHAR2",
    "lNINE SHAR2kONE SHARUjTWO SHARUiHREE SHARUa VARIANT FORMyFOUR SHARUjIVE SHARU",
    "kSHAR2 TIMES GAL PLUS DISHeMINyONE BURUiTWO BURUhHREE BURUa VARIANT FORMxFOUR BURUiIVE BURU",
    "jTHREE VARIANT FORM ESH16c21yFOUR VARIANT FORM LIMMUa4b AbBzSIX VARIANT FORM ASH9",
    "uEVEN VARIANT FORM IMIN3b AbBzEIGHT VARIANT FORM USSUa3yNINE VARIANT FORM ILIMMUa3b4b A",
    "zbTWO ASH TENUlHREE ASH TENUoFOUR ASH TENUmIVE ASH TENUnSIX ASH TENUmONE BAN2iTWO BAN2",
    "hHREE BAN2kFOUR BAN2a VARIANT FORMvIVE BAN2a VARIANT FORMwNIGIDAMINdESHjONE ESHE3jTWO ESHE3",
    "jONE THIRD DISHoTWO THIRDS DISHpFIVE SIXTHS DISHqONE THIRD VARIANT FORM A",
    "yTWO THIRDS VARIANT FORM AzONE EIGHTH ASHkQUARTER ASHoLD ASSYRIAN ONE SIXTHfQUARTER",
    "xNE QUARTER GURlHALF GURmELAMITE ONE THIRDjTWO THIRDSkFORTYeIFTYnFOUR U VARIANT FORM",
    "sIVE U VARIANT FORMtSIX U VARIANT FORMrEVEN U VARIANT FORMuEIGHT U VARIANT FORM",
    "uNINE U VARIANT FORM"]⟩,
  ⟨0x12470, ["CUNEIFORM PUNCTUATION SIGN OLD ASSYRIAN WORD DIVIDERzVERTICAL COLONoDIAGONAL COLON",
    "fTRICOLONiQUADCOLON"]⟩,
  ⟨0x12480, ["CUNEIFORM SIGN AB TIMES NUN TENUiSHU2mD TIMES ESH2nBAD TIMES DISH TENU",
    "rHAR2 TIMES AB2dNIcZAoU OVER BU TIMES NA2uDA TIMES TAK4lG TIMES KURmIM TIMES IGIdU U U",
    "m2 TIMES UDmUG TIMES ANSHEeSHa AT LEFTlDINcUNdERIN2fGAbIaR2 GUNUhSHeHAbIcIGI GUNUiKASKALfUR",
    "bSHU2a PLUS KASKALsLAK-020fMa TIMES KURmUH PLUS GISHnMASHdEScIcNIcPIcSHEcI GUNUrE2 TIMES KUR",
    "dPAPlRIN2 XgSH2 CROSSING ESH2rZEN SHESHIG TIMES ASHdHIcIGI GUNUiLAaLdMEaSdSUqTIMES SU",
    "nGA2 TIMES BAHAR2gDIM GUNUhUG TIMES IGI GUNUiKASKALqERENeGAaR PLUS DIcNElHA PLUS A",
    "jKUSHU2 PLUS KASKALsLAMa TIMES KURmUHdMUSHeNEa PLUS E2cGIkSHIMeZIZ2mBA ROTATED NINETY DEGREES",
    "zbESHTIN TIMES UoISH TIMES GISH CROSSING GISHzdU2 TIMES IGI GUNUqD PLUS GISH TIMES TAK4",
    "yHA TENU GUNUlI TIMES ASH OVER HI TIMES ASHzfKA TIMES BUcKAcU U UeRlLAGAB TIMES ZU OVER ZU",
    "uK-003c21b5c30c50b1c62c79 OVER LAK-079 GUNUu80b1 OVER LAK-081p92d130c42d210b9c20b5b8c38c65b6",
    "d343b7b8c83b4c90d441b9a TIMES GUcIGIdPAP PLUS LU3dPAP PLUS LU3vU2 PLUS BAt50b7c70c83c90b2b3b5",
    "d550d608c17a TIMES ASHdBADdDUN3 GUNU GUNUoKU3dLAcTARcEcU2bDbRUDAo36c48a TIMES DUBdGAcIGI",
    "a GUNUiNIcPAP PLUS PAP PLUS LU3vSHESH PLUS KInUDbRUDAp724c49gU2 GUNU TIMES ASHoTIMES DISHeHAL",
    "dPAPa PLUS PAP PLUS LU3vTAK4oMI PLUS ZA7kUSH OVER MUSH TIMES GAcKAKyNINDA2 TIMES DIM GUNU",
    "iGISHdULdHIcKESH2fLAK-050hMASHePAP PLUS PAPmUa PLUS UhRUDAsSAG GUNU TIMES HAnTIMES EN",
    "cSHE AT LEFTlTAK4nHA6 TENUhE OVER SHEiPLUS HUB2eNAM2eSARkU2 PLUS DUG TIMES NImE2 TIMES AN",
    "uI TIMES TAK4nTAK4 PLUS SAGmUM TIMES GAN2 TENUjTHREE DISHuUR2 INVERTEDiTIMES UDkU TIMES DARA3",
    "fLAK-668gU3nZA7cU OVER ZU PLUS SARr5 TIMES THREE DISH TENU"]⟩,
  ⟨0x12f90, ["CYPRO-MINOAN SIGN CM001b2b4b5b6b7b8b9c10b1b2aBc3b5b7b9c21b3b4b5b6b7b8b9c30b3b4b5b6b7",
    "b8b9c40b1b4b6b7b9c50b1b2b3b4b5b6b8b9c60b1b2b3b4b6b7b8b9c70b1b2b3b4b5aBc6b8b9c80b1b2b3b4b5b6b7",
    "b8b9c90b1b2b4b5b6b7b8b9d100b1b2b3b4b5b7b8b9c10b2b4d301b2"]⟩,
  ⟨0x13000, ["EGYPTIAN HIEROGLYPH A001b2b3b4b5aAc6aAbBc7b8b9c10b1b2b3b4aAc5b6b7aAc8b9c20b1b2b3b4b5",
    "b6b7b8b9c30b1b2aAc3b4b5b6b7b8b9c40aAc1b2aAc3aAc4b5aAc6b7b8b9c50b1b2b3b4b5b6b7b8b9c60b1b2b3b4",
    "b5b6b7b8b9c70eB001b2b3b4b5aAc6b7b8b9eC001b2aAbBbCc3b4b5b6b7b8b9c10aAc1b2b3b4b5b6b7b8b9c20b1b2",
    "b3b4eD001b2b3b4b5b6b7b8aAc9c10b1b2b3b4b5b6b7b8b9c20b1b2b3b4b5b6b7aAc8b9c30b1aAc2b3b4aAc5b6b7",
    "b8b9c40b1b2b3b4b5b6aAc7b8aAc9c50aAbBbCbDbEbFbGbHbIc1b2aAc3b4aAc5b6b7b8b9c60b1b2b3b4b5b6b7aAbB",
    "bCbDbEbFbGbHfE001b2b3b4b5b6b7b8aAc9aAd10b1b2b3b4b5b6aAc7aAc8b9c20aAc1b2b3b4b5b6b7b8aAc9c30b1",
    "b2b3b4aAc6b7b8eF001aAc2b3b4b5b6b7b8b9c10b1b2b3aAc4b5b6b7b8b9c20b1aAc2b3b4b5b6b7b8b9c30b1aAc2",
    "b3b4b5b6b7aAc8aAc9c40b1b2b3b4b5aAc6aAc7aAc8b9c50b1aAbBbCc2b3eG001b2b3b4b5b6aAc7aAbBc8b9c10b1",
    "aAc2b3b4b5b6b7b8b9c20aAc1b2b3b4b5b6aAc7b8b9c30b1b2b3b4b5b6aAc7aAc8b9c40b1b2b3aAc4b5aAc6b7b8b9",
    "c50b1b2b3b4eH001b2b3b4b5b6aAc7b8eI001b2b3b4b5aAc6b7b8b9aAd10aAc1aAc2b3b4b5eK001b2b3b4b5b6b7b8",
    "eL001b2aAc3b4b5b6aAc7b8eM001aAbBc2b3aAc4b5b6b7b8b9c10aAc1b2aAbBbCbDbEbFbGbHc3b4b5aAc6aAc7aAc8",
    "b9c20b1b2aAc3b4aAc5b6b7b8aAc9c30b1aAc2b3aAbBc4b5b6b7b8b9c40aAc1b2b3b4eN001b2b3b4b5b6b7b8b9c10",
    "b1b2b3b4b5b6b7b8aAbBc9c20b1b2b3b4b5aAc6b7b8b9c30b1b2b3aAc4aAc5aAc6b7aAc8b9c40b1b2dL001b2b3b4",
    "b5aAc6b7b8b9c10b1b2b3b4b5b6b7aAc8b9c20eU001b2b3b4b5b6b7b8b9c10aAc1aAc2b3b4b5b6b7b8aAc9c20b1b2",
    "aAgO001aAc2b3b4b5aAc6aAbBbCbDbEbFc7b8b9c10aAbBbCc1b2b3b4b5b6b7b8b9aAd20aAc1b2b3b4aAc5aAc6b7b8",
    "b9aAd30aAc1b2b3aAc4b5b6aAbBbCbDc7b8b9c40b1b2b3b4b5b6b7b8b9c50aAbBc1eP001aAc2b3aAc4b5b6b7b8b9",
    "c10b1eQ001b2b3b4b5b6b7eR001b2aAc3aAbBc4b5b6b7b8b9c10aAc1b2b3b4b5b6aAc7b8b9c20b1b2b3b4b5b6b7b8",
    "b9eS001b2aAc3b4b5b6aAc7b8b9c10b1b2b3b4aAbBc5b6b7aAc8b9c20b1b2b3b4b5b6aAbBc7b8b9c30b1b2b3b4b5",
    "aAc6b7b8b9c40b1b2b3b4b5b6eT001b2b3aAc4b5b6b7aAc8aAc9aAd10b1aAc2b3b4b5b6aAc7b8b9c20b1b2b3b4b5",
    "b6b7b8b9c30b1b2aAc3aAc4b5b6eU001b2b3b4b5b6aAbBc7b8b9c10b1b2b3b4b5b6b7b8b9c20b1b2b3aAc4b5b6b7",
    "b8b9aAd30b1b2aAc3b4b5b6b7b8b9c40b1b2eV001aAbBbCbDbEbFbGbHbIc2aAc3b4b5b6b7aAbBc8b9c10b1aAbBbC",
    "c2aAbBc3b4b5b6b7b8b9c20aAbBbCbDbEbFbGbHbIbJbKbLc1b2b3aAc4b5b6b7b8aAc9aAd30aAc1aAc2b3aAc4b5b6",
    "b7aAc8b9c40aAfW001b2b3aAc4b5b6b7b8b9aAd10aAc1b2b3b4aAc5b6b7aAc8aAc9c20b1b2b3b4aAc5eX001b2b3b4",
    "aAbBc5b6aAc7b8aAfY001aAc2b3b4b5b6b7b8eZ001b2aAbBbCbDc3aAbBc4aAc5aAc6b7b8b9c10b1b2b3b4b5aAbBbC",
    "bDbEbFbGbHbIc6aAbBbCbDbEbFbGbHfAA001b2b3b4b5b6b7aAbBc8b9c10b1b2b3b4b5b6b7b8b9c20b1b2b3b4b5b6",
    "b7b8b9c30b1b2"]⟩,
  ⟨0x13430, ["EGYPTIAN HIEROGLYPH VERTICAL JOINERpHORIZONTAL JOINERrINSERT AT TOP START",
    "jBOTTOM STARTmTOP ENDhBOTTOM ENDuOVERLAY MIDDLEoBEGIN SEGMENTnEND SEGMENT"]⟩,
  ⟨0x14400, ["ANATOLIAN HIEROGLYPH A001b2b3b4b5b6b7b8b9c10aAc1b2b3b4b5b6b7b8b9c20b1b2b3b4b5b6aAc7",
    "b8b9c30b1b2b3b4b5b6b7b8b9aAd40b1aAc2b3b4b5aAc6aAbBc7b8b9c50b1b2b3b4b5b6b7b8b9c60b1b2b3b4b5b6",
    "aAbBbCc7b8b9c70b1b2b3b4b5b6b7b8b9c80b1b2b3b4b5b6b7b8b9c90b1b2b3b4b5b6b7aAc8aAc9d100aAc1aAc2aA",
    "c3b4aAbBbCc5aAbBc6b7aAbBbCc8b9c10aAbBc1b2b3b4b5aAc6b7b8b9c20b1b2b3b4b5aAc6b7b8b9c30b1b2b3b4b5",
    "aAc6b7b8b9c40b1b2b3b4b5b6b7b8b9c50b1b2b3b4b5b6b7b8b9c60b1b2b3b4b5b6b7b8b9c70b1b2b3b4b5b6b7b8",
    "b9c80b1b2b3b4b5b6b7b8b9c90b1b2b3b4b5b6b7b8b9d200b1b2aAbBc3b4b5b6b7aAc8b9aAd10b1b2b3b4b5aAc6aA",
    "c7b8b9c20b1b2b3b4b5b6b7aAc8b9c30b1b2b3b4b5b6b7b8b9c40b1b2b3b4b5b6b7b8b9c50b1b2b3b4b5b6b7b8b9",
    "c60b1b2b3b4b5b6b7aAc8b9c70b1b2b3b4b5b6b7b8b9c80b1b2b3b4b5b6b7b8b9aAd90b1b2b3b4aAc5b6b7b8b9aA",
    "e300b1b2b3b4b5b6b7b8b9aAd10b1b2b3b4b5b6b7b8b9c20b1b2b3b4b5b6b7b8b9aAd30b1b2AbBbCc3b4b5b6aAbB",
    "bCc7b8b9c40b1b2b3b4b5b6b7b8b9c50b1b2b3b4b5b6b7b8b9aAd60b1b2b3b4aAc5b6b7b8aAc9c70b1aAc2b3b4b5",
    "b6b7b8b9c80b1aAc2b3 RA OR RIjAc4b5b6aAc7b8b9c90b1b2b3 EIGHTh4b5b6b7b8b9d400b1b2b3b4b5b6b7b8b9",
    "c10 BEGIN LOGOGRAM MARKuA END LOGOGRAM MARKu1b2b3b4b5b6b7b8b9c20b1b2b3b4b5b6b7b8b9c30b1b2b3b4",
    "b5b6b7b8b9c40b1b2b3b4b5b6b7b8b9c50aAc1b2b3b4b5b6b7aAc8b9c60b1b2b3b4b5b6b7b8b9c70b1b2b3b4b5b6",
    "b7b8b9c80b1b2b3b4b5b6b7b8b9c90b1b2b3b4b5b6b7d501b2b3b4b5b6b7b8b9c10b1b2b3b4b5b6b7b8b9c20b1b2",
    "b3b4b5b6b7b8b9c30"]⟩,
  ⟨0x16800, ["BAMUM LETTER PHASE-A NGKUE MFONkGBIEE FONjPON MFON PIPAEMGBIEEfBArNAA MFON",
    "iSHUENSHUETkTITA MFONjNZA MFONiSHINDA PA NJInPON PA NJI PIPAEMGBIEEfBAtMAEMBGBIEEkTU MAEMBA",
    "jNGANGUgMAEMVEUXgNSUAEgVEUAENGAMkSEUNYAMhNTOQPENhKEUKEUTNDAkNKINDIgSUUdNGKUENZEUMkLAPAQ",
    "eET KUThNTAP MFAAjMAEKEUPhPASHAEgGHEUAERAEjPAMSHAEhMON NGGEUAETmNZUN MEUTjU YUQ NAE",
    "jGHEUAEGHEUAEmNTAP NTAAjSISAeMGBASAfEUNJOMNDEUQlOOMPUQhKAFAePA LEERAEWAlNDA LEERAEWAmPET",
    "dMAEMKPENiNIKAePUPdTUAEPfLUAEPfSONJAMgTEUTEUWENjMAENYIgKETdNDAANGGEUAETmKUOQeMOOMEUThSHUM",
    "eLOMMAEgFIRIeROMdKPOQeSOQdMAP PIEETjSHIRAEgNTAPeSHOQ NSHUT YUMoNYIT MONGKEUAEQpPAARAEgNKAARAE",
    "hUNKNOWNhNGGENfMAESIfNJAMeMBANYIgNYETeTEUAENgSOTdPAAMeNSHIEEgMAEMeNYIdKAQdNSHAeVEEdLUcNENcAQ",
    "dMBAQgB NSHUETgTU MAEMGBIEEmSIEEdET TUgLOM NTEUMjMBA MAELEEkKIEEMfYEURAEgMBAARAEhKAMdPEESHI",
    "gYAFU LEERAEWAnLAM NSHUT NYAMoNTIEE SHEUOQlDU NJAAiGHEUGHEUAEMlPITdTU NSIEEiSHET NJAQgUAEQTU",
    "jMFON TEUAEQkBIT MBAAKETmNYI NTEUMjKEUPUQgGHEUGHENiKEUYEUXhLAANAEgPARUMfVEUMeNGKINDI MVOP",
    "kGEU MBUjWUAETfSAKEUAEhTAAMeMEUQeNGGUOQa LARGEmMFIYAQgSUEdMBEURIfONTIEENiNYAEMAEhPUNGAAM",
    "hMEUT NGGEETlFEUXeMBUOQfFEEdKEUAEMgMA NJEUAENAgUQAiLETdNGGAAMfSENeMAcKIQdNGOMgC NGKUE MAEMBA",
    "lZAdYUMdWANGKUOQiNGGENeDEUAEREEiGKAQfGHARAEgMBEEKEETiGBAYIfNYIR MKPARAQ MEUNqTU MBITiMBEUM",
    "fPIRIEENhNDOMBUgMBAA CABBAGE-TREErKEUSHEUAEPkGHAPeKEUKAQgYU MUOMAEjNZEUMfMBUEeNSEUAENhMBIT",
    "eYEUQeKPARAQfAAdSEUXeNDIDAfTAASHAEhNJUEQfTITA YUEiSUAETfNGGUAEN NYAMmVEUXeNANSANAQiMA KEUAERI",
    "kNTAAdGGUONgLAPdMBIRIEENhGBASAQhNTEUNGBAiTEUTEUXhNGGUMfFUEdNDEUTeSAbHAQfBUNGeVEUAEPENiMBERAE",
    "gRUcNJAEMfLAMdTITUAEPhNSUOT NGOMjJEEEEgKETdNGGUeMAESIeBUAEMgLUcKUTdNJAMdGOMeWUPdNGGUEETgSOM",
    "dTENeKUOP NKAARAEmNSUNdDAMeMA NSIEEiYAAdNDAPeSHUEQeETFONgMBIcAEMBAfBANYIgKEUSEUXhMBEUXfKEUM",
    "eMBAA PICKETlYUWOQfNJEUXfMIEEdUAEeSHIQeKEN LAWdFATIGUElNGAQdAQdLIQdPINcENdTETfD MBUOeWAPdNJI",
    "dMFONeNJIEEfLIEEeNJEUTeSHEEeGGAAMAEhYAMeWUAENfNGKUNfSHEEeNGKAPfKEUAETMEUNkTEUTeSHEUAEgNJAP",
    "eSUEdKETdYAEMMAEhKUOMeSAPdMFEUTfNDEUXfMALEERIgEUTeSEUAEQgYENdNJEUAEMhKEUOT MBUAElNGKEURIhTU",
    "cGHAAeNGKYEEgFEUFEUAETjNDEEeMGBOFUMhLEUAEPgNDONeMONIdGBEUNgPUUTeMGBIEEfFOdLUMdNSIEEPgMBAA",
    "eKWAETfNYETeTEUAENgSOTdYUWOQfKEUMeRAEMeTEEEEfNGKEUAEQiMFEUAEgNSIEETgKEUPePIPcEUTAEgNYUEeLET",
    "dNGGAAMgMFIEEfNGGWAENhYUOMePAPdYUOPeNDAMdTEUMfSUAEeKUNdNGGEUXeKIEEgTUOTeMEUNeKUQdNSUMeTEUN",
    "eMAENJEThNGGAPfLEUMeNGGUOMfSHUTeJUEQfGHEUAEgKUcREN OLDhTAEcOQdNYIdRIIdLEEEEfMEEEEfMbSUUdMU",
    "cSHIIcEUXfKYEEeNUcSHUdNTEEePEEdNIcSHOQePUQdMVOPeLOQdREN MUCHiTIcNTUUeMBAA SEVENkSAQdFAA",
    "fE NDAPeTOONeMBEUMfLAPdVOMdLOONePAAdSOMdRAQdNSHUOPfDUNePUAEeTAMdNGKAeKPEUXfWUOdSEEdNGGEUAET",
    "iPAAMeTOOdKUOPeLOMdNSHIEEfGOPeMAEMeNGKEUXeOQdSHUEfRIMGBAgNJEUXfPEEMeSAAdNGGURAEhMGBAeGHEUX",
    "fNGKEUAEMhJAEMLIhMAPdLOOTeNGGEEEEgDIQeTAEN NTEUMkSETdPUMdNDAA SOFTNESSmGGUAESHAE NYAMpYIEE",
    "eGHEUNfTUAEeYEUAEfPOcTUMAEfKEUAEfSUAENfTEUAEQgVEUAEfWEUXeLAAMePUcTAAQeGHAAMAEhNGEUREUT",
    "iSHEUAEQhMGBENeBEEeNZAQdKOMeGBETeTUMdKUETeYAPdNYI CLEAVERlYITdMFEUQfNDIAQfPIEEQfYUEQeLEUAEM",
    "gFUEdGBEUXfNGKUPfKETdMAEdNGKAAMIhGHETeFAcNTUMePEUTeYEUMeNGGEUAEgYI BETWEENkZUQePOONeMIEEeFUET",
    "eNAEdMUAEeGHEUAEgFU IeMVIdPUAQeNGKUMfKUTdPIETeNTAPeYEUAETgNGGUPfPA PEOPLEjFU CALLgOMdNJEEeA",
    "bTOQdObIbLAQdPA PLURALjTAAbQdNDAA MY HOUSEnSHIQeYEUXeNGUAEfYUAENeOQ SWIMMINGiCOVERiUQbNdKEUX",
    "ePEUXeNJEE EPOCHkPUEdWUEdFEEdVEEdLUcMIcREUXdAEdNGUAETeAdSHOaQeFU REMEDYjNAcPIcLOQdKOcMENcAaQ",
    "dTEUdKIcMONdTENdFAQdGHOMgF KAcUbKUcEEcREEdTAEdNYIdLAcRIIbEEeMEEEEfTAAdNDAAdJAEMfMbSUUcHIIdI",
    "bEUXeKYEEdETdNUAEdUbJUAEfYOQdSHUdYAcNSHAePEUXeNTEEeWUEdPEEdRUcNIcREUXeKENdNGKWAENfGAeSHOdPUAE",
    "eFOMdWAcLIbOQdKOcMBENeRENdMAbObBAAeTETdKPAdSAMBAfVUEQ"]⟩,
  ⟨0x16a40, ["MRO LETTER TAcNGIdYOcMIMdBAcDAcAbPHIdKHAIeHAOdDAIdCHUdKEAAEfOLcMAEMeNINdPAcOOcObRO",
    "cSHIdTHEAeEAcWAcEbKOcLANcAcHAIdRIcTEK"]⟩,
  ⟨0x16a60, ["MRO DIGIT ZEROeONEdTWOcHREEfFOURdIVEeSIXcEVENfEIGHTfNINE"]⟩,
  ⟨0x16a6e, ["MRO DANDAeOUBLE DANDAqTANGSA LETTER OZbCbQbXcAZbCbQbXcVZbCbQbXcEZbCbQbXcIZbCbQbXcUZ",
    "bCbQbXcAWZbCbQbXdUIZbCbQbXdFINAL NGiLONG UEXiSHORT UEZdAWXjUECbZbQbXcIUZbCbQbXeMZbCbQbXcKAbHA",
    "dGAcNGAdSAcYAcWAcPAcNYAdPHAdBAcMAcNAcHAcLAcHTAdTAcDAcRAcNHAdSHAdCAcTSAdGHAdHTTAeTHAdXAcFAcDHA",
    "dCHAdZA"]⟩,
  ⟨0x16ac0, ["TANGSA DIGIT ZEROeONEdTWOcHREEfFOURdIVEeSIXcEVENfEIGHTfNINE"]⟩,
  ⟨0x16ad0, ["BASSA VAH LETTER ENNIeKAcSEcFAcMBEdYIEdGAHdDHIIeKPAHeJOcHWAHeWAcZOcGBUdDOcCEcUWUdTO",
    "cBAcVUcYEINePAcWADDAfAbOaOcUbEEcEbI"]⟩,
  ⟨0x16af0, ["BASSA VAH COMBINING HIGH TONEjLOW TONEiMID TONEiLOW-MID TONEmHIGH-LOW TONE",
    "xFULL STOP"]⟩,
  ⟨0x16b00, ["PAHAWH HMONG VOWEL KEEBbVdIBbVcAUBbVdUBbVcEBbVcAIBbVdOOBbVdAWBbVdUABbVdOBbVcIABbVdAB",
    "bVcWBbVcAABbVkCONSONANT VAUdNTSAUfLAUdHAUdNLAUeRAUdNKAUeQHAUeYAUdHLAUeMAUdCHAUeNCHAUfHNAU",
    "ePLHAUfNTHAUeAUdAUcXAUdCAUnMARK CIM TUBdSOcKEScHAVeSUAMeHOMdTAUMnSIGN VOS THOMdSHAB CEEB",
    "oCIM CHEEMjVOS THIABfFEEMiXYEEM NTXIVfRHOdTOVdFAIBkVOS SEEViMEEJ SUABjVOS NRUAiIB YAMgXAUS",
    "eCIM TSOV ROG"]⟩,
  ⟨0x16b50, ["PAHAWH HMONG DIGIT ZEROeONEdTWOcHREEfFOURdIVEeSIXcEVENfEIGHTfNINE"]⟩,
  ⟨0x16b5b, ["PAHAWH HMONG NUMBER TENSeHUNDREDSiTEN THOUSANDSnMILLIONSiHUNDRED MILLIONS",
    "qTEN BILLIONSlRILLIONS"]⟩,
  ⟨0x16b63, ["PAHAWH HMONG SIGN VOS LUBhXYOOeHLIdTHIRD-STAGE HLIpZWJ THAJiHNUBeNQIGeXIABeNTUJeAV",
    "cTXHEEJ CEEVlMEEJ TSEEBkTAUdLOSdMUSdCIM HAIS LUS NTOG NTOGsCUAM TSHOOJlTXWVa CHWVjPUB DAWB",
    "iNRES TOS"]⟩,
  ⟨0x16b7d, ["PAHAWH HMONG CLAN SIGN TSHEEJgYEEGeLIScAUJeXYOOJfKOOdHAWJeMUASeTHOJdSABePHABeKHAB",
    "eHAMdVAJdFAJdYAJdTSWBeKWMdVWJ"]⟩,
  ⟨0x16e40, ["MEDEFAIDRIN CAPITAL LETTER MbSbVbWbATIUeZbKPcPbTbGbFbIbKbAbJbEbBbCbUbYUcLbQbHPcNYcX",
    "bDbOEcNbRbObAIcYqSMALL LETTER MbSbVbWbATIUeZbKPcPbTbGbFbIbKbAbJbEbBbCbUbYUcLbQbHPcNYcXbDbOEcN",
    "bRbObAIcYoDIGIT ZEROeONEdTWOcHREEfFOURdIVEeSIXcEVENfEIGHTfNINEkNUMBER TENdELEVENgTWELVE",
    "fHIRTEENiFOURTEENhIFTEENhSIXTEENgEVENTEENjEIGHTEENiNINETEENpDIGIT ONE ALTERNATE FORM",
    "sTWO ALTERNATE FORMrHREE ALTERNATE FORMzbCOMMAfFULL STOPjSYMBOL AIVAlEXCLAMATION OH"]⟩,
  ⟨0x16f00, ["MIAO LETTER PAcBAcYI PAfPLAdMAbHAdARCHAIC MAkFAcVAbFAdTAcDAcYI TTAcAfTTAdDDAdNAbHA",
    "dYI NNAgARCHAIC NAkNNAbHAeLAbYAcHAbYAeTLHAeDLHAeTLHYAfDLHYAfKAcGAcYI KAfQAbGAdNGAbHA",
    "eARCHAIC NGAlHAcXAcGHAbHAeTSSAeDZZAeNYAbHAeTSHAeDZHAeYI TSHAeDZHAhREFORMED TSHAnSHAcSAdZHA",
    "cSHAeTSAdDZAdYI TSAgSAcZAbSAcZAbSAeARCHAIC ZZAlZZYAcSYAfWAcAHcHHAdBRIdSYIdDZYIeTEbSEdRTE"]⟩,
  ⟨0x16f4f, ["MIAO SIGN CONSONANT MODIFIER BARzcLETTER NASALIZATIONtSIGN ASPIRATION",
    "kREFORMED VOICINGhASPIRATIONyVOWEL SIGN AaAbHHcNaGdOaOcWOcWbEaNaGdOEYdIaAaNaGdObEbIbUbNGdUaA",
    "aNaGdUbEIcNGdYaIcAEaEdERRdROUNDED ERRlERcROUNDED ERkAIcEIcAUcOUcNaGcUOGdYUIdOGbERdVWcIGcEA",
    "cIONGeUI"]⟩,
  ⟨0x16f8f, ["MIAO TONE RIGHTfTOP RIGHTjABOVEfBELOWkLETTER TONE-2b3b4b5b6b7b8gREFORMED TONE-1b2b4",
    "b5b6b8"]⟩,
  ⟨0x16fe0, ["TANGUT ITERATION MARKvNUSHU ITERATION MARKuOLD CHINESE HOOK MARKjITERATION MARK",
    "zbKHITAN SMALL SCRIPT FILLER"]⟩,
  ⟨0x16ff0, ["VIETNAMESE ALTERNATE READING MARK CAcNHAY"]⟩,
  ⟨0x18800, ["TANGUT COMPONENT-001b2b3b4b5b6b7b8b9c10b1b2b3b4b5b6b7b8b9c20b1b2b3b4b5b6b7b8b9c30b1",
    "b2b3b4b5b6b7b8b9c40b1b2b3b4b5b6b7b8b9c50b1b2b3b4b5b6b7b8b9c60b1b2b3b4b5b6b7b8b9c70b1b2b3b4b5",
    "b6b7b8b9c80b1b2b3b4b5b6b7b8b9c90b1b2b3b4b5b6b7b8b9d100b1b2b3b4b5b6b7b8b9c10b1b2b3b4b5b6b7b8b9",
    "c20b1b2b3b4b5b6b7b8b9c30b1b2b3b4b5b6b7b8b9c40b1b2b3b4b5b6b7b8b9c50b1b2b3b4b5b6b7b8b9c60b1b2b3",
    "b4b5b6b7b8b9c70b1b2b3b4b5b6b7b8b9c80b1b2b3b4b5b6b7b8b9c90b1b2b3b4b5b6b7b8b9d200b1b2b3b4b5b6b7",
    "b8b9c10b1b2b3b4b5b6b7b8b9c20b1b2b3b4b5b6b7b8b9c30b1b2b3b4b5b6b7b8b9c40b1b2b3b4b5b6b7b8b9c50b1",
    "b2b3b4b5b6b7b8b9c60b1b2b3b4b5b6b7b8b9c70b1b2b3b4b5b6b7b8b9c80b1b2b3b4b5b6b7b8b9c90b1b2b3b4b5",
    "b6b7b8b9d300b1b2b3b4b5b6b7b8b9c10b1b2b3b4b5b6b7b8b9c20b1b2b3b4b5b6b7b8b9c30b1b2b3b4b5b6b7b8b9",
    "c40b1b2b3b4b5b6b7b8b9c50b1b2b3b4b5b6b7b8b9c60b1b2b3b4b5b6b7b8b9c70b1b2b3b4b5b6b7b8b9c80b1b2b3",
    "b4b5b6b7b8b9c90b1b2b3b4b5b6b7b8b9d400b1b2b3b4b5b6b7b8b9c10b1b2b3b4b5b6b7b8b9c20b1b2b3b4b5b6b7",
    "b8b9c30b1b2b3b4b5b6b7b8b9c40b1b2b3b4b5b6b7b8b9c50b1b2b3b4b5b6b7b8b9c60b1b2b3b4b5b6b7b8b9c70b1",
    "b2b3b4b5b6b7b8b9c80b1b2b3b4b5b6b7b8b9c90b1b2b3b4b5b6b7b8b9d500b1b2b3b4b5b6b7b8b9c10b1b2b3b4b5",
    "b6b7b8b9c20b1b2b3b4b5b6b7b8b9c30b1b2b3b4b5b6b7b8b9c40b1b2b3b4b5b6b7b8b9c50b1b2b3b4b5b6b7b8b9",
    "c60b1b2b3b4b5b6b7b8b9c70b1b2b3b4b5b6b7b8b9c80b1b2b3b4b5b6b7b8b9c90b1b2b3b4b5b6b7b8b9d600b1b2",
    "b3b4b5b6b7b8b9c10b1b2b3b4b5b6b7b8b9c20b1b2b3b4b5b6b7b8b9c30b1b2b3b4b5b6b7b8b9c40b1b2b3b4b5b6",
    "b7b8b9c50b1b2b3b4b5b6b7b8b9c60b1b2b3b4b5b6b7b8b9c70b1b2b3b4b5b6b7b8b9c80b1b2b3b4b5b6b7b8b9c90",
    "b1b2b3b4b5b6b7b8b9d700b1b2b3b4b5b6b7b8b9c10b1b2b3b4b5b6b7b8b9c20b1b2b3b4b5b6b7b8b9c30b1b2b3b4",
    "b5b6b7b8b9c40b1b2b3b4b5b6b7b8b9c50b1b2b3b4b5b6b7b8b9c60b1b2b3b4b5b6b7b8"]⟩,
  ⟨0x1aff0, ["KATAKANA LETTER MINNAN TONE-2b3b4b5"]⟩,
  ⟨0x1aff5, ["KATAKANA LETTER MINNAN TONE-7b8gNASALIZED TONE-1b2b3b4b5"]⟩,
  ⟨0x1affd, ["KATAKANA LETTER MINNAN NASALIZED TONE-7b8"]⟩,
  ⟨0x1b000, ["KATAKANA LETTER ARCHAIC EzHIRAGANA LETTER ARCHAIC YEzENTAIGANA LETTER A-1b2b3bWOeI-1",
    "b2b3b4dU-1b2b3b4b5dE-2b3b4b5b6dO-1b2b3dKA-1b2b3b4b5b6b7b8b9b10b1cKEeI-1b2b3b4b5b6b7b8dU-1b2b3",
    "b4b5b6b7dE-1b2b3b4b5b6dO-1b2b3bKIfSA-1b2b3b4b5b6b7b8dI-1b2b3b4b5b6dU-1b2b3b4b5b6b7b8dE-1b2b3",
    "b4b5dO-1b2b3b4b5b6b7eTA-1b2b3b4dI-1b2b3b4b5b6b7dU-1b2b3b4bTOeE-1b2b3b4b5b6b7b8b9dO-1b2b3b4b5",
    "b6bRAfNA-1b2b3b4b5b6b7b8b9dI-1b2b3b4b5b6b7bTEeU-1b2b3dE-1b2b3b4b5b6bKOeO-1b2b3b4b5eHA-1b2b3b4",
    "b5b6b7b8b9b10b1eI-1b2b3b4b5b6b7dU-1b2b3dE-1b2b3b4b5b6b7dO-1b2b3b4b5b6b7b8eMA-1b2b3b4b5b6b7",
    "dI-1b2b3b4b5b6b7dU-1b2b3b4dE-1b2bMAeO-1b2b3b4b5b6eYA-1b2b3b4b5bYOeU-1b2b3b4dO-1b2b3b4b5b6",
    "eRA-1b2b3b4dI-1b2b3b4b5b6b7dU-1b2b3b4b5b6dE-1b2b3b4dO-1b2b3b4b5b6eWA-1b2b3b4b5dI-1b2b3b4b5",
    "dE-1b2b3b4dO-1b2b3b4b5b6b7eN-MU-MO-1b2zbIRAGANA LETTER ARCHAIC WUzbKATAKANA LETTER ARCHAIC YI",
    "bEcWU"]⟩,
  ⟨0x1b150, ["HIRAGANA LETTER SMALL WIbEbO"]⟩,
  ⟨0x1b164, ["KATAKANA LETTER SMALL WIbEbOcN"]⟩,
  ⟨0x1bc00, ["DUPLOYAN LETTER HbXbPbTbFbKbLbBbDbVbGbRbP NdD SdF NdK MdR SdTHcSLOAN DHiDHcKK",
    "cSLOAN JhHLcLHcRHcMbNbJbSbM NdN MdJ MdS JdM WITH DOTkN WITH DOTkJ WITH DOTaS INSIDE AND ABOVE",
    "zdS WITH DOTa BELOWqM SdN SdJ SdS SdM N SfN M SfJ M SfS J SfJ S WITH DOTkNa SfS Ta RdPa RfT S",
    "bR SfWaHb RdS NbMdK R SfG R SfS Ka RfAbSLOAN OWiOAcObAOUdIbEbIEcSHORT IhUIcEEcSLOAN EH",
    "iROMANIAN IkSLOAN EEiLONG IgYEcUbEUcXWcU NdLONG UgROMANIAN UkUHcSLOAN UhOOHcWbUcWAbObIbEIcOW",
    "dNASAL UbObIbAhPERNIN ANbMjSLOAN ENcANcONiVOCALIC M"]⟩,
  ⟨0x1bc70, ["DUPLOYAN AFFIX LEFT HORIZONTAL SECANTwMID HORIZONTAL SECANTvRIGHT HORIZONTAL SECANT",
    "xLOW VERTICAL SECANTtMID VERTICAL SECANTtHIGH VERTICAL SECANTuATTACHED SECANT",
    "gLEFT-TO-RIGHT SECANTuTANGENTfILeE HOOKgI HOOKgTANGENT HOOK"]⟩,
  ⟨0x1bc80, ["DUPLOYAN AFFIX HIGH ACUTEfTIGHT ACUTElGRAVEfLONG GRAVEkDOTdCIRCLEgLINEeWAVE",
    "eVERTICAL"]⟩,
  ⟨0x1bc90, ["DUPLOYAN AFFIX LOW ACUTEfTIGHT ACUTElGRAVEfLONG GRAVEkDOTdCIRCLEgLINEeWAVEeVERTICAL",
    "iARROW"]⟩,
  ⟨0x1bc9c, ["DUPLOYAN SIGN O WITH CROSSrTHICK LETTER SELECTORvDOUBLE MARK",
    "lPUNCTUATION CHINOOK FULL STOPznSHORTHAND FORMAT LETTER OVERLAPoCONTINUING OVERLAPsDOWN STEP",
    "jUP STEP"]⟩,
  ⟨0x1cf00, ["ZNAMENNY COMBINING MARK GORAZDO NIZKO S KRYZHEM ON LEFTzgNIZKO S KRYZHEM ON LEFT",
    "xTSATA ON LEFTnGORAZDO NIZKO ON LEFTvNIZKO ON LEFTnSREDNE ON LEFToMALO POVYSHE ON LEFT",
    "uPOVYSHE ON LEFTpVYSOKO ON LEFToMALO POVYSHE S KHOKHLOM ON LEFTzgPOVYSHE S KHOKHLOM ON LEFT",
    "zbVYSOKO S KHOKHLOM ON LEFTzGORAZDO NIZKO S KRYZHEM ON RIGHTzhNIZKO S KRYZHEM ON RIGHT",
    "yTSATA ON RIGHToGORAZDO NIZKO ON RIGHTwNIZKO ON RIGHToSREDNE ON RIGHTpMALO POVYSHE ON RIGHT",
    "vPOVYSHE ON RIGHTqVYSOKO ON RIGHTpMALO POVYSHE S KHOKHLOM ON RIGHT",
    "zhPOVYSHE S KHOKHLOM ON RIGHTzcVYSOKO S KHOKHLOM ON RIGHTzbTSATA S KRYZHEM",
    "pMALO POVYSHE S KRYZHEMwSTRANNO MALO POVYSHEuPOVYSHE S KRYZHEMiTRANNOpVYSOKO S KRYZHEM",
    "qMALO POVYSHE STRANNOuGORAZDO VYSOKOoZELOeONcRAVNOfTIKHAYAhBORZAYAhUDARKAgPODVERTKAjLOMKA",
    "fKUPNAYAgACHKAgZEVOKfSKOBAfRAZSEKAhKRYZH ON LEFT"]⟩,
  ⟨0x1cf30, ["ZNAMENNY COMBINING TONAL RANGE MARK MRACHNOhSVETLOgTRESVETLOzbMARK ZADERZHKA",
    "jDEMESTVENNY ZADERZHKAvOTSECHKAiPODCHASHIEa WITH VERTICAL STROKEzgCHASHKAa POLNAYApOBLACHKO",
    "iSOROCHYA NOZHKApTOCHKAgDVOETOCHIEpATTACHING VERTICAL OMETxMARK CURVED OMETlKRYZH",
    "kLOWER TONAL RANGE INDICATORzmPRIZNAK MODIFIER LEVEL-2b3hDIRECTION FLIPoKRYZHfROG"]⟩,
  ⟨0x1cf50, ["ZNAMENNY NEUME KRYUKa TIKHYlPARAKLITiDVA V CHELNUmKLYUCHgZANOZHEKiSTOPITSAa S OCHKOM",
    "rPEREVODKAa NEPOSTOYANNAYAySTOPITSA WITH SOROCHYA NOZHKAzeCHELYUSTKAkPALKAfZAPYATAYA",
    "jGOLUBCHIK BORZYfTIKHYfMRACHNYhSVETLYgTRESVETLYtVRAKHIYA PROSTAYAiMRACHNAYAjSVETLAYA",
    "iTRESVETLAYAlKLYUCHEVAYA PROSTAYAiMRACHNAYAjSVETLAYAiTRESVETLAYAzhDOUBLE ZAPYATAYA",
    "qREVERSED CHELYUSTKAtDERBITSAiKHAMILOhCHASHKAhPODCHASHIEkSKAMEYTSA MRACHNAYAjSVETLAYA",
    "iTRESVETLAYAkIKHAYArDEMESTVENNY KLYUCHsSKAMEYTSA KLYUCHEVAYA SVETLAYAnNEPOSTOYANNAYA",
    "oVAYA TIKHAYAtDVOECHELNAYA PROSTAYAiSVETLAYAiNEPOSTOYANNAYAoKLYUCHEVAYAziLOZHITIEa S ZAPYATOY",
    "kZAKRYTOEiS KRYZHEMtKRYZHfROGdFITAeKOBYLAgZMEYTSAhSTATYAa S ZAPYATOYiKRYZHEM",
    "hZAPYATOY I KRYZHEMsKRYZHEM I ZAPYATOYuZAKRYTAYAa S ZAPYATOYuS ROGOMfDVUMYA ZAPYATYMI",
    "qZAPYATOY I PODCHASHIEMzgPOLKULIZMYkSTATYA NEPOSTOYANNAYAtRELA PROSTAYAiMRACHNOTIKHAYA",
    "oKRYZHEVAYAkPOLUPOVODNAYAlVODNAYAjNEPOSTOYANNAYAoKLYUCHEPOVODNAYAjNEPOSTOYANNAYA",
    "vTIKHAYA PUTNAYApDVOECHELNAYAdOKRYZHEVAYAkPOVODNAYAkAYA KLYUCHEVAYApOPOVODNAYA KLYUCHEVAYA",
    "zgGROMNAYA WITH SINGLE ZAPYATAYAzbOPOVODNAYA WITH SINGLE ZAPYATAYAzhNAYAeOPOVODNAYA",
    "a WITH DOUBLE ZAPYATAYAzgKRYZHEVAYAa POVODNAYAzhMECHIKa POVODNYhKLYUCHEVOYdPOVODNY",
    "hNEPOSTOYANNYzbSTRELA TRYASOGLASNAYAiPOVODNAYAjSTRELNAYAwOSOKAa SVETLAYAiTRESVETLAYA",
    "lKRYUKOVAYA SVETLAYAsLYUCHEVAYA SVETLAYAiNEPOSTOYANNAYAzhSTRELA KRYUKOVAYAa POVODNAYA",
    "jGROMNAYA WITH SINGLE ZAPYATAYAzbOPOVODNAYA WITH SINGLE ZAPYATAYAzhNAYAeOPOVODNAYA",
    "a WITH DOUBLE ZAPYATAYAzgKRYZHEVAYAa POVODNAYAzTRYASKAzKUFISMAhOBLAKOgDUDAeNEMKAfPAUK"]⟩]

end TypeCatalog.Text.CharacterName
