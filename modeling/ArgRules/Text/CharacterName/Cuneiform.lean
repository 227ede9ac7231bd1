import ArgRules.Text.CharacterName.Block

/-!
# Names of characters: cuneiform signs and Egyptian hieroglyphs

The names of the characters from U+12000 to U+143FF in Unicode 14.0, in blocks of code points.
-/

namespace ArgRules.Text.CharacterName

/-- The names of cuneiform signs and Egyptian hieroglyphs. -/
def cuneiform : List Block := [
  ⟨0x12000, [
    "CUNEIFORM SIGN Aa TIMES AbBADdGAN2 TENUjHAcIGIdLAGAR GUNUkMUSHeSAGk2bBa TIMES ASH2eDUN3 GUNU",
    "jGALbN2 TENUjHAcIGI GUNUhMINeLAGABfSHESHfU PLUS U PLUS UvGUNUf2a TIMES BALAGfGAN2 TENUjME PL",
    "US ENkSHA3eTAK4nDbKa TIMES ERIN2fSHITA PLUS GISHxLa TIMES ALcDIM2eGISHeHAcKAD3dIcSHEdUSHkANc",
    "EPHeMARa TIMES SHEnNa OVER ANhTHREE TIMESlPLUS NAGA OPPOSING AN PLUS NAGAvSQUAREDsSHEePINdRA",
    "Da TIMES KURmKABeSAL2dHa ZIDA TENUjKABA TENUjOVER ASH TUG2 OVER TUG2 TUG2 OVER TUG2 PAPh+OVE",
    "R ASHa CROSSING ASH OVER ASH OVER ASHx+2bGABgBAaDbG3cHAR2eLa OVER BALjAGdRaA2eIa TIMES AbGAR",
    "dIGI GUNUqUa OVER BU ABcUNkCROSSING BUmLUGa OVER BULUGoRa2eDAaGa KISIM5 TIMES A PLUS MASHkMA",
    "ReBALAGeIcGAa PLUS MASHlIaR2dUDdHAcIRa PLUS LUkKAKdLAbUa PLUS MASH2lMdNEcPAP PLUS PAPmSIcTAK",
    "4eU2 PLUS GIR2lSHsMbRaA3b4eIaBbMa TIMES SHEk2cNa KASKAL U GUNU DISHuSHdUa OVER DUhGUNUeSHESH",
    "IGiBa TIMES ESH2l2cGaUDdHbNa3a GUNUa GUNUl4cR2eEa TIMES PAPjOVER E NUN OVER NUNu2a TIMES A P",
    "LUS HA PLUS DArGARdMIcSALcHEdUjDINdGIRdLbNa TIMES GAN2a TENUjMEiCROSSING ENlOPPOSING ENlSQUA",
    "REDjRENcIN2eSH2dZENa TIMES Aa PLUS LALa TIMES LALtNcBADdDUN3 GUNUa GUNUoHAa GUNUhIGI GUNUiKA",
    "SKALa SQUAREDnU3dLAaL TIMES LALmIbUcU2bDnGAa GUNUf2a TIMES A PLUS DA PLUS HAkHAcIGIjB2 TENU ",
    "PLUS TABqNbSHa2 PLUS GALnBADbR PLUS RAkURa PLUS RAlDAbIaM TIMES SHEmUBdELa PLUS LAjNa TIMES ",
    "GAN2 TENUsGAN2 TENUhRcIa4a PLUS AiR2 PLUS SUmHA PLUS LU PLUS ESH2sLa PLUS LAkI PLUS LIjUB2eI",
    "GI GUNUhSH PLUS HU PLUS ASHuKAKbSKALfIDa PLUS LALlU3 PLUS ANlLAcME PLUS ENjIcNUNa OVER NUNmP",
    "AcSALbRcHEa PLUS TURkIDdUMdTAK4eUaDa PLUS DUqOVER GA2kBAa CROSSING GABAqDa OVER GAD GAR OVER",
    " GARxLa GAD OVER GAD GAR OVER GARa+AMdMbNa2a TENUeOVER GAN2jCROSSING GAN2qRa3cSHANfESHTINa T",
    "IMES KURqIa TIMES EbUhCROSSING GIm4a OVER GI4iCROSSING GI4oDIMdR2a GUNUg3a TIMES A PLUS IGIk",
    "GAN2 TENUjIGIdLU PLUS IGIlPAlSALcHa CROSSING GISHnTIMES BADdTAK4jENUiUa CROSSING GUm2a TIMES",
    " KAKa TIMES IGI GUNUsNUNdSAL PLUS TUG2tGUNUgDa TIMES A PLUS KURkKURjOVER GUD LUGALqLbMa TIME",
    "S SHElRa7bUNbSHgHAa TENUeGUNUfLcIa TIMES ASHa2eBADdDISHeGADdKINdNUNdSHEdUjUaB2a TIMES ANcHAL",
    "dKASKALgLISHeUDlL2eIa AcBbDIMa OVER IDIM BURdSQUAREDvGaIa DIBdRIcOVER IGI SHIR OVER SHIR UD ",
    "OVER UDi+GUNUhLa TIMES GAN2 TENUq2cMa TIMES TAK4kCROSSING IMlOPPOSING IMlSQUAREDiINdNbRbSHdK",
    "Aa TIMES AaDa PLUS KU3kSH2eBADbLAGdRcIcERIN2eSH2eGAaLbN2 TENUhRa PLUS SHA3 PLUS AtIaR2cSH PL",
    "US SARiCROSSING GISHrUaR7eIGIcMcKAKcIaDdLIbUcMEa PLUS DUcGIcTEjIa PLUS NUNUZnNEbUNdPIcRUcSAa",
    "RcHAbEbIDcUcIGcUHURfTARdUa2bDbMUM TIMES PAmSHdZIj2a CROSSING KA2oBbD2b3b4b5a OVER KAD5mKa TI",
    "MES IGI GUNUqLa TIMES BADjCROSSING KALoM2b4cSKALa LAGAB TIMES U OVER LAGAB TIMES Ug+OVER KAS",
    "KAL LAGAB TIMES U OVER LAGAB TIMES Uy+ESH2eIa TIMES BADdUaDjDbNbSALcHbIM5a OVER KISIM5rUa OV",
    "ER HI TIMES ASH2 KU OVER HI TIMES ASH2p+3b4a VARIANT FORMo7bLa GUNUgNbRa OPPOSING KURoSHU2fW",
    "U318gLAaGABa TIMES Aa PLUS DA PLUS HAkGARdLALjLbNbSH ZIDA TENUnBADcIcDARdENcGAaRcUDa PLUS GU",
    "DmHAaLcI TIMES NUNmIGI GUNUhMa PLUS HAcLUkKIaNcU3bLa PLUS HI PLUS AsLAGABeISHdUaLdMEa PLUS E",
    "NjUSHeNEcSHE PLUS SUMkITA PLUS GISH PLUS ERIN2kTENUsU2a PLUS SHU2nUMdTAGbK4dE PLUS A PLUS SU",
    " PLUS NAzUa PLUS AbU PLUS Uo2 PLUS ASHkDbSHjSQUAREDjRa TIMES SHEa PLUS SUMsGUNUa OVER LAGAR ",
    "GUNU SHEc+HSHUeLa TIMES LALlMa TIMES KURa PLUS RUuIaLbMMU2eSHdUa TIMES BADk2a TIMES ALcBADdE",
    "SH2a TENUjGAN2 TENUjHI TIMES BADmIMcKAD2b3a PLUS ASHmIcLA PLUS ASHjGABfME PLUS ENkNEbUcSI PL",
    "US ASHjK2 PLUS BUmTUG2jENUeCROSSING LU2mOPPOSING LU2mSQUAREDgHESHIGj3bGALa OVER LUGALjPPOSIN",
    "G LUGALoSHESHIGlHbLbMa OVER LUMa GAR OVER GARzMAa TIMES TAK4kGUNUf2bHbRbSHa2eEaScIaNcUa OVER",
    " MUiGa GUNUgNSUBeRGU2eSHa TIMES AbKURdZAiOVER MUSHa TIMES A PLUS NAzCROSSING MUSHo3a TIMES A",
    "a PLUS DIjDIiGUNUkNAa2bGAa INVERTEDiTIMES SHU TENUoOPPOSING NAGAoRdM NUTILLUia2dEa TIMES AbU",
    "DiSHESHIGjIa TIMES Ei2bMa TIMES GAN2 TENUhR PLUS GAN2 TENUa+NDA2a TIMES ANbSHa PLUS ASHmGUDd",
    "ME PLUS GAN2 TENUrNEbUNdSHEa PLUS A ANdSHa PLUS ASHvU2 PLUS ASHkSHoSAGeUa11cNa LAGAR TIMES G",
    "ARdMASHeSALa OVER NUN LAGAR TIMES SALc+USHpTENUeOVER NUNiCROSSING NUNa LAGAR OVER LAGARe+UZa",
    " AB2 TIMES ASHGABgBIcDUGdGUDdIGI GUNUiKAD3eLAcNEcSILA3fU2mKISIM5 TIMES BIa UxPAaDbNbPcESH2eI",
    "a TIMES AaBcBIbUcEbIaBcUa2iCROSSING PImRIGa TIMES KALdUDcZAiOPPOSING PIRIGuRAaBcIbUcSAaG NUT",
    "ILLUia TIMES AbDUaBdHAcKAKcURdLUMdMIcNUNdSALcHIDeTABdU2bBbMbRbSHjOVER SAGiGUNUgLa LAGAB TIME",
    "S ASH2sNGA2eRcHAa3a TIMES AbBADdGISHeNEcSHU2eTURdUa PLUS Aq6bB6cR2dEa HUcOVER SHE GAD OVER G",
    "AD GAR OVER GARzTAB OVER TAB GAR OVER GARj+G9cNbSHa2bLAMgIDa TIMES AbIMkMa TIMES AbBALcULUGf",
    "DINdGARdIGIa GUNUiKUSHU2gLULdMUGdSALlNIGdRa TENUeOVER SHIR BUR OVER BURyTAdUa OVER INVERTED ",
    "SHUs2bBURfIa GUNUfGa4a OVER SIG4 SHU2rK2cLA3eUa OVER SUiDa2cHURdMaASHeRa9eTAa ASTERISKiTIMES",
    " HIcMIiGUNUfBa OVER TAB NI OVER NI DISH OVER DISHi+SQUAREDjGa TIMES BIcGUDdSHEbUdTUG2eUDkK4c",
    "RcEa GUNUgIa TENUfLbRa TIMES TAK4kOVER TIRa GAD OVER GAD GAR OVER GARl+UaG2cKbMbRa OVER TUR ",
    "ZA OVER ZAxUa GUDdU UdOVER U PA OVER PA GAR OVER GARxSUR OVER SURmU REVERSED OVER U REVERSED",
    "i+2bBbDa KUSHU2gTIMES BADdMIcU PLUS U PLUS Ua GUNUa+GUNUeSHESHIGa TIMES BADsUGdMa TIMES LAGA",
    "BfME PLUS DAkSHA3eUiBINdUMa TIMES KASKALgPAmNa GUNUgRa CROSSING URlSHESHIGi2a TIMES A PLUS H",
    "AcNAiLcHAcNUNdU2a PLUS ASHdBIs4bIa3cUa TIMES AaSHGABgBARdDUNdGAaLbN2 TENUhRcUcHAcIGIcMbSHdKI",
    "cLUMdMINdPAcSHEcIG4eTUcU PLUS GUDjDbRUDAmDAa TIMES UmSHa TIMES AbKUaRdTAK4lXb2bUMXfTUKIeZ3a ",
    "TIMES KASKALoUdZAa TENUeSQUARED TIMES KURsGbMXdE2cIa OVER ZIi3bBa KABA TENUlGbZ2dUa5a TIMES ",
    "AjBURdMdKAP ELAMITElAB TIMES NUNk2 TIMES AkMAR TIMES KUGoDAG KISIM5 TIMES U2 PLUS MASHa+3dIS",
    "H PLUS SHUmUB TIMES SHEnEZEN TIMES GUDdSHEoGA2 TIMES AN PLUS KAK PLUS ArSH2nE22dIGdHUSHeKA T",
    "IMES ANSHEeSH3eGISHdUDdHI TIMES ASH2nLUMdPAcSHULeTUcUR2mLAGAB TIMES GInU2 SHESHIG TIMES BADr",
    "TIMES ESH2 PLUS LALnSHUnMESHdUSH3 TIMES ZAoNA4cINa9bDA2 TIMES BALdGIoU11 ROTATED NINETY DEGR",
    "EESb+PESH2 ASTERISKnIR2eSAG TIMES IGI GUNUsTI2dUM TIMES MEk U"]⟩,
  ⟨0x12400, [
    "CUNEIFORM NUMERIC SIGN TWO ASHgHREE ASHjFOUR ASHhIVE ASHiSIX ASHgEVEN ASHjEIGHT ASHjNINE ASH",
    "iTHREE DISHkFOUR DISHiIVE DISHjSIX DISHhEVEN DISHkEIGHT DISHkNINE DISHjFOUR UfIVE UgSIX UeEV",
    "EN UhEIGHT UhNINE UgONE GESH2jTWO GESH2iHREE GESH2lFOUR GESH2jIVE GESH2kSIX GESH2iEVEN GESH2",
    "lEIGHT GESH2lNINE GESH2kONE GESHUjTWO GESHUiHREE GESHUlFOUR GESHUjIVE GESHUkTWO SHAR2iHREE S",
    "HAR2a VARIANT FORMyFOUR SHAR2jIVE SHAR2kSIX SHAR2iEVEN SHAR2lEIGHT SHAR2lNINE SHAR2kONE SHAR",
    "UjTWO SHARUiHREE SHARUa VARIANT FORMyFOUR SHARUjIVE SHARUkSHAR2 TIMES GAL PLUS DISHeMINyONE ",
    "BURUiTWO BURUhHREE BURUa VARIANT FORMxFOUR BURUiIVE BURUjTHREE VARIANT FORM ESH16c21yFOUR VA",
    "RIANT FORM LIMMUa4b AbBzSIX VARIANT FORM ASH9uEVEN VARIANT FORM IMIN3b AbBzEIGHT VARIANT FOR",
    "M USSUa3yNINE VARIANT FORM ILIMMUa3b4b Aa+TWO ASH TENUlHREE ASH TENUoFOUR ASH TENUmIVE ASH T",
    "ENUnSIX ASH TENUmONE BAN2iTWO BAN2hHREE BAN2kFOUR BAN2a VARIANT FORMvIVE BAN2a VARIANT FORMw",
    "NIGIDAMINdESHjONE ESHE3jTWO ESHE3jONE THIRD DISHoTWO THIRDS DISHpFIVE SIXTHS DISHqONE THIRD ",
    "VARIANT FORM AyTWO THIRDS VARIANT FORM AzONE EIGHTH ASHkQUARTER ASHoLD ASSYRIAN ONE SIXTHfQU",
    "ARTERxNE QUARTER GURlHALF GURmELAMITE ONE THIRDjTWO THIRDSkFORTYeIFTYnFOUR U VARIANT FORMsIV",
    "E U VARIANT FORMtSIX U VARIANT FORMrEVEN U VARIANT FORMuEIGHT U VARIANT FORMuNINE U VARIANT ",
    "FORMag+PUNCTUATION SIGN OLD ASSYRIAN WORD DIVIDERzVERTICAL COLONoDIAGONAL COLONfTRICOLONiQUA",
    "DCOLON"]⟩,
  ⟨0x12480, [
    "CUNEIFORM SIGN AB TIMES NUN TENUiSHU2mD TIMES ESH2nBAD TIMES DISH TENUrHAR2 TIMES AB2dNIcZAo",
    "U OVER BU TIMES NA2uDA TIMES TAK4lG TIMES KURmIM TIMES IGIdU U Um2 TIMES UDmUG TIMES ANSHEeS",
    "Ha AT LEFTlDINcUNdERIN2fGAbIaR2 GUNUhSHeHAbIcIGI GUNUiKASKALfURbSHU2a PLUS KASKALsLAK-020fMa",
    " TIMES KURmUH PLUS GISHnMASHdEScIcNIcPIcSHEcI GUNUrE2 TIMES KURdPAPlRIN2 XgSH2 CROSSING ESH2",
    "rZEN SHESHIG TIMES ASHdHIcIGI GUNUiLAaLdMEaSdSUqTIMES SUnGA2 TIMES BAHAR2gDIM GUNUhUG TIMES ",
    "IGI GUNUiKASKALqERENeGAaR PLUS DIcNElHA PLUS AjKUSHU2 PLUS KASKALsLAMa TIMES KURmUHdMUSHeNEa",
    " PLUS E2cGIkSHIMeZIZ2mBA ROTATED NINETY DEGREESa+ESHTIN TIMES UoISH TIMES GISH CROSSING GISH",
    "c+U2 TIMES IGI GUNUqD PLUS GISH TIMES TAK4yHA TENU GUNUlI TIMES ASH OVER HI TIMES ASHe+KA TI",
    "MES BUcKAcU U UeRlLAGAB TIMES ZU OVER ZUuK-003c21b5c30c50b1c62c79 OVER LAK-079 GUNUu80b1 OVE",
    "R LAK-081p92d130c42d210b9c20b5b8c38c65b6d343b7b8c83b4c90d441b9a TIMES GUcIGIdPAP PLUS LU3dPA",
    "P PLUS LU3vU2 PLUS BAt50b7c70c83c90b2b3b5d550d608c17a TIMES ASHdBADdDUN3 GUNU GUNUoKU3dLAcTA",
    "RcEcU2bDbRUDAo36c48a TIMES DUBdGAcIGIa GUNUiNIcPAP PLUS PAP PLUS LU3vSHESH PLUS KInUDbRUDAp7",
    "24c49gU2 GUNU TIMES ASHoTIMES DISHeHALdPAPa PLUS PAP PLUS LU3vTAK4oMI PLUS ZA7kUSH OVER MUSH",
    " TIMES GAcKAKyNINDA2 TIMES DIM GUNUiGISHdULdHIcKESH2fLAK-050hMASHePAP PLUS PAPmUa PLUS UhRUD",
    "AsSAG GUNU TIMES HAnTIMES ENcSHE AT LEFTlTAK4nHA6 TENUhE OVER SHEiPLUS HUB2eNAM2eSARkU2 PLUS",
    " DUG TIMES NImE2 TIMES ANuI TIMES TAK4nTAK4 PLUS SAGmUM TIMES GAN2 TENUjTHREE DISHuUR2 INVER",
    "TEDiTIMES UDkU TIMES DARA3fLAK-668gU3nZA7cU OVER ZU PLUS SARr5 TIMES THREE DISH TENU"]⟩,
  ⟨0x12F90, [
    "CYPRO-MINOAN SIGN CM001b2b4b5b6b7b8b9c10b1b2aBc3b5b7b9c21b3b4b5b6b7b8b9c30b3b4b5b6b7b8b9c40b",
    "1b4b6b7b9c50b1b2b3b4b5b6b8b9c60b1b2b3b4b6b7b8b9c70b1b2b3b4b5aBc6b8b9c80b1b2b3b4b5b6b7b8b9c90",
    "b1b2b4b5b6b7b8b9d100b1b2b3b4b5b7b8b9c10b2b4d301b2"]⟩,
  ⟨0x13000, [
    "EGYPTIAN HIEROGLYPH A001b2b3b4b5aAc6aAbBc7b8b9c10b1b2b3b4aAc5b6b7aAc8b9c20b1b2b3b4b5b6b7b8b9",
    "c30b1b2aAc3b4b5b6b7b8b9c40aAc1b2aAc3aAc4b5aAc6b7b8b9c50b1b2b3b4b5b6b7b8b9c60b1b2b3b4b5b6b7b8",
    "b9c70eB001b2b3b4b5aAc6b7b8b9eC001b2aAbBbCc3b4b5b6b7b8b9c10aAc1b2b3b4b5b6b7b8b9c20b1b2b3b4eD0",
    "01b2b3b4b5b6b7b8aAc9c10b1b2b3b4b5b6b7b8b9c20b1b2b3b4b5b6b7aAc8b9c30b1aAc2b3b4aAc5b6b7b8b9c40",
    "b1b2b3b4b5b6aAc7b8aAc9c50aAbBbCbDbEbFbGbHbIc1b2aAc3b4aAc5b6b7b8b9c60b1b2b3b4b5b6b7aAbBbCbDbE",
    "bFbGbHfE001b2b3b4b5b6b7b8aAc9aAd10b1b2b3b4b5b6aAc7aAc8b9c20aAc1b2b3b4b5b6b7b8aAc9c30b1b2b3b4",
    "aAc6b7b8eF001aAc2b3b4b5b6b7b8b9c10b1b2b3aAc4b5b6b7b8b9c20b1aAc2b3b4b5b6b7b8b9c30b1aAc2b3b4b5",
    "b6b7aAc8aAc9c40b1b2b3b4b5aAc6aAc7aAc8b9c50b1aAbBbCc2b3eG001b2b3b4b5b6aAc7aAbBc8b9c10b1aAc2b3",
    "b4b5b6b7b8b9c20aAc1b2b3b4b5b6aAc7b8b9c30b1b2b3b4b5b6aAc7aAc8b9c40b1b2b3aAc4b5aAc6b7b8b9c50b1",
    "b2b3b4eH001b2b3b4b5b6aAc7b8eI001b2b3b4b5aAc6b7b8b9aAd10aAc1aAc2b3b4b5eK001b2b3b4b5b6b7b8eL00",
    "1b2aAc3b4b5b6aAc7b8eM001aAbBc2b3aAc4b5b6b7b8b9c10aAc1b2aAbBbCbDbEbFbGbHc3b4b5aAc6aAc7aAc8b9c",
    "20b1b2aAc3b4aAc5b6b7b8aAc9c30b1aAc2b3aAbBc4b5b6b7b8b9c40aAc1b2b3b4eN001b2b3b4b5b6b7b8b9c10b1",
    "b2b3b4b5b6b7b8aAbBc9c20b1b2b3b4b5aAc6b7b8b9c30b1b2b3aAc4aAc5aAc6b7aAc8b9c40b1b2dL001b2b3b4b5",
    "aAc6b7b8b9c10b1b2b3b4b5b6b7aAc8b9c20eU001b2b3b4b5b6b7b8b9c10aAc1aAc2b3b4b5b6b7b8aAc9c20b1b2a",
    "AgO001aAc2b3b4b5aAc6aAbBbCbDbEbFc7b8b9c10aAbBbCc1b2b3b4b5b6b7b8b9aAd20aAc1b2b3b4aAc5aAc6b7b8",
    "b9aAd30aAc1b2b3aAc4b5b6aAbBbCbDc7b8b9c40b1b2b3b4b5b6b7b8b9c50aAbBc1eP001aAc2b3aAc4b5b6b7b8b9",
    "c10b1eQ001b2b3b4b5b6b7eR001b2aAc3aAbBc4b5b6b7b8b9c10aAc1b2b3b4b5b6aAc7b8b9c20b1b2b3b4b5b6b7b",
    "8b9eS001b2aAc3b4b5b6aAc7b8b9c10b1b2b3b4aAbBc5b6b7aAc8b9c20b1b2b3b4b5b6aAbBc7b8b9c30b1b2b3b4b",
    "5aAc6b7b8b9c40b1b2b3b4b5b6eT001b2b3aAc4b5b6b7aAc8aAc9aAd10b1aAc2b3b4b5b6aAc7b8b9c20b1b2b3b4b",
    "5b6b7b8b9c30b1b2aAc3aAc4b5b6eU001b2b3b4b5b6aAbBc7b8b9c10b1b2b3b4b5b6b7b8b9c20b1b2b3aAc4b5b6b",
    "7b8b9aAd30b1b2aAc3b4b5b6b7b8b9c40b1b2eV001aAbBbCbDbEbFbGbHbIc2aAc3b4b5b6b7aAbBc8b9c10b1aAbBb",
    "Cc2aAbBc3b4b5b6b7b8b9c20aAbBbCbDbEbFbGbHbIbJbKbLc1b2b3aAc4b5b6b7b8aAc9aAd30aAc1aAc2b3aAc4b5b",
    "6b7aAc8b9c40aAfW001b2b3aAc4b5b6b7b8b9aAd10aAc1b2b3b4aAc5b6b7aAc8aAc9c20b1b2b3b4aAc5eX001b2b3",
    "b4aAbBc5b6aAc7b8aAfY001aAc2b3b4b5b6b7b8eZ001b2aAbBbCbDc3aAbBc4aAc5aAc6b7b8b9c10b1b2b3b4b5aAb",
    "BbCbDbEbFbGbHbIc6aAbBbCbDbEbFbGbHfAA001b2b3b4b5b6b7aAbBc8b9c10b1b2b3b4b5b6b7b8b9c20b1b2b3b4b",
    "5b6b7b8b9c30b1b2afVERTICAL JOINERpHORIZONTAL JOINERrINSERT AT TOP STARTjBOTTOM STARTmTOP END",
    "hBOTTOM ENDuOVERLAY MIDDLEoBEGIN SEGMENTnEND SEGMENT"]⟩]

end ArgRules.Text.CharacterName
