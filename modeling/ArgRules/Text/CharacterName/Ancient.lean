import ArgRules.Text.CharacterName.Block

/-!
# Names of characters: historic alphabets and syllabaries

The names of the characters from U+10000 to U+11FFF in Unicode 14.0, in blocks of code points.
-/

namespace ArgRules.Text.CharacterName

/-- The names of historic alphabets and syllabaries. -/
def ancient : List Block := [
  ⟨0x10000, [
    "LINEAR B SYLLABLE B008 Ae38 Ee28 Ie61 Oe10 Ue01 DAf45 DEf07 DIf14 DOf51 DUe7 JAf46 JEaf36 JO",
    "f65 JUf77 KAf44 KEf67 KIf70 KOf81 KUe0 MAf13 MEf73 MIf15 MOf23 MUf06 NAf24 NEf30 NIf52 NOe5 ",
    "NUf03 PAf72 PEf39 PIf11 POf50 PUf16 QAf78 QEf21 QIf32 QOaf60 RAf27 REf53 RIf02 ROf26 RUf31 S",
    "Af09 SEf41 SIf12 SOf58 SUe9 TAf04 TEf37 TIf05 TOf69 TUf54 WAf75 WEf40 WIe2 WOaf17 ZAf74 ZEaf",
    "20 ZOe5 A2f43 A3f85 AUf71 DWEg90 DWOg48 NWAg29 PU2g62 PTEg76 RA2g33 RA3g68 RO2f6 TA2g87 TWEg",
    "91 TWOaapMBOL B018b9c22c34c47b9c56c63b4c79c82b3b6b9"]⟩,
  ⟨0x10080, [
    "LINEAR B IDEOGRAM B100 MANf2 WOMANh4 DEERg5 EQUIDgF MAREgM STALLIONl6F EWEfM RAMg7F SHE-GOAT",
    "kM HE-GOATk8F SOWfM BOARh9F COWfM BULLi20 WHEATh1 BARLEYi2 OLIVEh3 SPICEh5 CYPERUSvMONOGRAM ",
    "B127 KAPOg8 KANAKOuIDEOGRAM B130 OILf1 WINEg2nMONOGRAM B133 AREPAh5 MERIsIDEOGRAM B140 BRONZ",
    "Ei1 GOLDg2b5 WOOLg6c50b1 HORNg2b3b4nMONOGRAM B156 TURO2tIDEOGRAM B157b8b9 CLOTHi60b1b2 GARME",
    "NTj3 ARMOURi4b5b6b7b8b9c70b1b2b3 MONTHh4b6 TREEg7b8b9c80b1b2b3b4b5b9c90b1 HELMETk220 FOOTSTO",
    "OLl5 BATHTUBk30 SPEARh1 ARROWh2b3 SWORDh4b6c40 WHEELED CHARIOTr1 CHARIOTj2 CHARIOT FRAMEp3 W",
    "HEELh5b6nMONOGRAM B247 DIPTEtIDEOGRAM B248b9c51b2b3b4 DARTg5b6b7b8b9eVESSEL B155d200b1b2b3b4",
    "b5b6b7b8b9c10b1b2b3b4b5b6b7b8b9c21b2b6b7b8b9c50d305aaaaad+AEGEAN WORD SEPARATOR LINEeDOTsCHE",
    "CK MARKaaaakNUMBER ONEdTWOcHREEfFOURdIVEeSIXcEVENfEIGHTfNINEeTENcWENTYfHIRTYgFORTYeIFTYfSIXT",
    "YeEVENTYhEIGHTYgNINETYgONE HUNDREDlTWO HUNDREDkHREE HUNDREDnFOUR HUNDREDlIVE HUNDREDmSIX HUN",
    "DREDkEVEN HUNDREDnEIGHT HUNDREDnNINE HUNDREDmONE THOUSANDmTWO THOUSANDlHREE THOUSANDoFOUR TH",
    "OUSANDmIVE THOUSANDnSIX THOUSANDlEVEN THOUSANDoEIGHT THOUSANDoNINE THOUSANDnTEN THOUSANDlWEN",
    "TY THOUSANDoHIRTY THOUSANDpFORTY THOUSANDnIFTY THOUSANDoSIXTY THOUSANDnEVENTY THOUSANDqEIGHT",
    "Y THOUSANDpNINETY THOUSANDaaawWEIGHT BASE UNITjFIRST SUBUNITnSECOND SUBUNIToTHIRD SUBUNITnFO",
    "URTH SUBUNITvDRY MEASURE FIRST SUBUNITzLIQUID MEASURE FIRST SUBUNITc+MEASURE SECOND SUBUNITo",
    "THIRD SUBUNITc+GREEK ACROPHONIC ATTIC ONE QUARTERhHALFeDRACHMAlFIVEcFTYdVE HUNDREDhTHOUSANDl",
    "FTY THOUSANDmVE TALENTSmTEN TALENTSlFIFTY TALENTSnONE HUNDRED TALENTStFIVE HUNDRED TALENTSuO",
    "NE THOUSAND TALENTSuFIVE THOUSAND TALENTSqSTATERSmTEN STATERSlFIFTY STATERSnONE HUNDRED STAT",
    "ERStFIVE HUNDRED STATERSuONE THOUSAND STATERSuTEN THOUSAND STATERSuFIFTY THOUSAND STATERSwTE",
    "N MNASoHERAEUM ONE PLETHRONuTHESPIAN ONEmHERMIONIAN ONEoEPIDAUREAN TWOoTHESPIAN TWOmCYRENAIC",
    " TWO DRACHMASvEPIDAUREAN TWO DRACHMASxTROEZENIAN FIVEeTENa ALTERNATE FORMd+HERMIONIAN TENoME",
    "SSENIAN TENnTHESPIAN TENcHIRTYoROEZENIAN FIFTYa ALTERNATE FORMf+HERMIONIAN FIFTYqTHESPIAN FI",
    "FTYfONE HUNDREDlTHREE HUNDREDwEPIDAUREAN FIVE HUNDREDxTROEZENIAN FIVE HUNDREDwHESPIAN FIVE H",
    "UNDREDvCARYSTIAN FIVE HUNDREDwNAXIAN FIVE HUNDREDtTHESPIAN ONE THOUSANDmFIVE THOUSANDwDELPHI",
    "C FIVE MNASrSTRATIAN FIFTY MNASe+ONE HALF SIGNa ALTERNATE FORMc+TWO THIRDS SIGNoHREE QUARTER",
    "S SIGNtYEAR SIGNjTALENT SIGNlDRACHMA SIGNmOBOL SIGNjTWO OBOLS SIGNnHREE OBOLS SIGNqFOUR OBOL",
    "S SIGNoIVE OBOLS SIGNpMETRETES SIGNnKYATHOS BASE SIGNrLITRA SIGNkOUNKIA SIGNlXESTES SIGNlART",
    "ABE SIGNjOURA SIGNlGRAMMA SIGNlTRYBLION BASE SIGNsZERO SIGNjONE QUARTER SIGNqSINUSOID SIGNnI",
    "NDICTION SIGNuNOMISMA SIGNamROMAN SEXTANS SIGNmUNCIA SIGNkSEMUNCIA SIGNlXTULA SIGNmDIMIDIA S",
    "EXTULA SIGNuSILIQUA SIGNmDENARIUS SIGNnQUINARIUS SIGNoSESTERTIUS SIGNpDUPONDIUS SIGNoAS SIGN",
    "hCENTURIAL SIGNuASCIA SYMBOLaaamGREEK SYMBOL TAU RHO"]⟩,
  ⟨0x101D0, [
    "PHAISTOS DISC SIGN PEDESTRIANjLUMED HEADlTATTOOED HEADnCAPTIVEgHILDfWOMANfHELMETgGAUNTLETiTI",
    "ARAfARROWfBOWdSHIELDgCLUBeMANACLESgTTOCKhSAWdLIDdBOOMERANGjCARPENTRY PLANEpDOLIUMgCOMBeSLING",
    "fCOLUMNgBEEHIVEhSHIPeHORNdIDEeBULLS LEGjCATdRAMdEAGLEfDOVEeTUNNYfBEEdPLANE TREEkVINEePAPYRUS",
    "hROSETTEhLILYeOX BACKhFLUTEfGRATERgSTRAINERhMALL AXEjWAVY BANDjCOMBINING OBLIQUE STROKE"]⟩,
  ⟨0x10280, [
    "LYCIAN LETTER AbEbBaHcGbDbIbWbZbTHcJbKbQbLbMbNbMMcNNcUbPbKKcRbSbTaTcANcENcHbXaaapCARIAN LETT",
    "ER AbP2cDbLbUUUdRbLDcA2cQbBbMbObD2cTbSHa2cbC-18eUbNNcXbNbTT2dPbSScIbEbUUUUeKa2cNDcUUcGa2cSTa",
    "2dNGcIIcC-39eTTcUUU2eRRcMBa2b3b4dLD2dE2cUUU3"]⟩,
  ⟨0x102E0, [
    "COPTIC EPACT THOUSANDS MARKoDIGIT ONEdTWOcHREEfFOURdIVEeSIXcEVENfEIGHTfNINEkNUMBER TENcWENTY",
    "fHIRTYgFORTYeIFTYfSIXTYeEVENTYhEIGHTYgNINETYgONE HUNDREDlTWO HUNDREDkHREE HUNDREDnFOUR HUNDR",
    "EDlIVE HUNDREDmSIX HUNDREDkEVEN HUNDREDnEIGHT HUNDREDnNINE HUNDREDaaaag+OLD ITALIC LETTER Ab",
    "BEcKEcDEcEbVEcZEcHEcTHEdIbKAcELbMbNbSHdObPEcSHEdKUcERbScTEcUbEKSdPHEdKHEdEFbRSdCHEdIIcUUcESS",
    "kNUMERAL ONEdFIVEeTENdFIFTY"]⟩,
  ⟨0x1032D, [
    "OLD ITALIC LETTER YEcNORTHERN TSEmSOUTHERN TSEe+GOTHIC LETTER AHSAeBAIRKANhGIBAeDAGSeAIHVUSg",
    "QAIRTHRAiIUJAeHAGLeTHIUTHgEISdKUSMAfLAGUSfMANNAfNAUTHSgJERdURUSePAIRTHRAiNINETYgRAIDAfSAUILf",
    "TEIWSfWINJAfFAIHUfIGGWSfHWAIRfOTHALfNINE HUNDREDaaaaaa+OLD PERMIC LETTER ANcBURdGAIdDOIdEbZH",
    "OIeDZHOIfZATAeDZITAfIbKOKEeLEIdMENOEfNENOEfVOOIePEEIeREIdSIIdTAIdUbCHERYfSHOOIdCHOOIhYRYcERU",
    "eOaOcEFcHAcTSIUeVERdYERaIdATdIEcYUbAcIAuCOMBINING OLD PERMIC LETTER ANcDOIdZATAeNENOEfSIIaaa",
    "aaf+UGARITIC LETTER ALPAeBETAeGAMLAfKHAdDELTAfHOcWOcZETAeHOTAeTETdYODdKAFdSHINeLAMDAfMEMdDHA",
    "LeNUNdZUcSAMKAfAINdPUcSADEeQOPAeRASHAfTHANNAgGHAINfTOcIbUbSSUakWORD DIVIDERvOLD PERSIAN SIGN",
    " AbIbUbKAbUcGAbUcXAcCAcJAbIcTAbUcDAbIbUcTHAdPAcBAcFAcNAbUcMAbIbUcYAcVAbIcRAbUcLAcSAcZAcSHAcS",
    "AdHAaaaacAURAMAZDAAa-2cHAmXSHAAYATHIYAmDAHYAAUSHa-2lBAGAdUUMISHmWORD DIVIDERmNUMBER ONEdTWOc",
    "ENcWENTYgHUNDRED"]⟩,
  ⟨0x10400, [
    "DESERET CAPITAL LETTER LONG IbEbAaHcOaOhSHORT IbEbAaHcOaOiAYcOWcWUcYEEdHbPEEdBEEdTEEdDEEdCHE",
    "EeJEEdKAYdGAYdEFcVEEdETHdTHEEeEScZEEdESHdZHEEeERbLbMbNaGdOIcEWrSMALL LETTER LONG IbEbAaHcOaO",
    "hSHORT IbEbAaHcOaOiAYcOWcWUcYEEdHbPEEdBEEdTEEdDEEdCHEEeJEEdKAYdGAYdEFcVEEdETHdTHEEeEScZEEdES",
    "HdZHEEeERbLbMbNaGdOIcEWxSHAVIAN LETTER PEEPeTOTdKICKeFEEdTHIGHfSObUREeCHURCHgYEAdHUNGeBIBdDE",
    "ADeGAGdVOWdTHEYeZOOdMEASUREhJUDGEfWOEdHA-HAfLOLLeMIMEeIFcEGGdASHcDOdONcWOOLeOUTdAHcROAReNUNd",
    "EATdAGEdICEdUPcOAKcOZEdILdAWEcREdORcAIRdERRdARRAYfEARdIANdYEWsOSMANYA LETTER ALEFeBAcTAcJAcX",
    "AcKHAdDEELeRAcSAbHIINfDHAdCAYNeGAcFAcQAAFeKAAFeLAANeMIINeNUUNeWAWdHAcYAcAbEbIbObUbAAcEEcOOaa",
    "jDIGIT ZEROeONEdTWOcHREEfFOURdIVEeSIXcEVENfEIGHTfNINEaaaaaaqAGE CAPITAL LETTER AaIaNcHcBRAdC",
    "HAdEHCHAeaINdHAbYAdIbKAcEHKAeKYAdLAcMAcNAcOaINdPAcEHPAeSAbHAdTAcEHTAeTSAdEHTSAfTSHAeDHAdUbWA",
    "cKHAdGHAdZAbHAaaaasSMALL LETTER AaIaNcHcBRAdCHAdEHCHAeaINdHAbYAdIbKAcEHKAeKYAdLAcMAcNAcOaINd",
    "PAcEHPAeSAbHAdTAcEHTAeTSAdEHTSAfTSHAeDHAdUbWAcKHAdGHAdZAbHAaaaawELBASAN LETTER AbBEcCEbHEdDE",
    "cNDEdDHEdEIbbFEcGEbJEdHEcIbJEcKEcLEbLEdMEcNEbAbJEdObPEcQEcREbREdSEbHEdTEbHEdUbVEcXEcYbZEbHEd",
    "GHEbAMMAgKHE"]⟩,
  ⟨0x10530, [
    "CAUCASIAN ALBANIAN LETTER ALTdBETdGIMdDATdEBcZARLeEYNdZHILeTASdCHAdYOWDeZHAdIRBdSHAdLANdINYA",
    "eXEYNeDYANeCARdJHOXeKARdLYITeHEYTeQAYdAORdCHOYcIcYAYeMAQdQARdNOWCeDZYAYfSHAKeJAYNeONcTYAYeFA",
    "MdDZAYeCHATePENdGHEYSfRATdSEYKeVEYZeTIWReSHOYeIWNdCYAWdAYNeYAYDePIWReKIW"]⟩,
  ⟨0x1056F, [
    "CAUCASIAN ALBANIAN CITATION MARKg+VITHKUQI CAPITAL LETTER AbBBEcEcCEbHEdDEbHEdEIbbFEcGAacHAb",
    "HAdIaJEdJEcKAcLAbLAdMEcNEbJEdObPEcQAcREacSEbHEdTEbHEdUbVEcXEacYbZEarSMALL LETTER AbBBEcEcCEb",
    "HEdDEbHEdEIbbFEcGAacHAbHAdIaJEdJEcKAcLAbLAdMEcNEbJEdObPEcQAcREacSEbHEdTEbHEdUbVEcXEacYbZE"]⟩,
  ⟨0x10600, [
    "LINEAR A SIGN AB001b2b3b4b5b6b7b8b9c10b1b3b6b7c20b1aFbMc2aFbMc3aMc4b6b7b8e028BeB029c30b1b4b7",
    "b8b9c40b1b4b5b6b7b8b9c50b1b3b4b5b6b7b8b9c60b1b5b6b7b9c70b3b4b6b7b8b9c80b1b2b5b6b7e100-102hB1",
    "18c20e120BeB122b3c31AbBf131CeB164c71c80b8c91e301b2b3b4b5b6b7b8b9AbBbCd10b1b2b3AbBbCc4b5b6b7b",
    "8b9c20b1b2b3b4b5b6b7b8b9c30b1b2b3b4b5b6b7b8b9c40b1b2b3b4b5b6b7b8b9c50b1b2b3b4b5b6b7b8b9c60b1",
    "b2b3b4b5b6b7b8b9c70b1d400-VASf1-VASf2-VASf3-VASf4-VASf5-VASf6-VASf7-VASf8-VASf9-VASg10-VASf1",
    "-VASf2-VASf3-VASf4-VASf5-VASf6-VASf7-VASf8-VASh501b2b3b4b5b6b8b9c10b1b2b3b5b6c20b1b3b4b5b6b7",
    "b8b9c30b1b2b4b5b6b7b8b9c40b1b2b5b7b8b9c50b1b2b3b4b5b6b7b9c63b4b5b6b8b9c70b1b2b3b4b5b6b7b8b9c",
    "80b1b2b3b4b5b6b7b8b9c91b2b4b5b6b8d600b1b2b3b4b6b8b9c10b1b2b3b4b5b6b7b8b9c20b1b2b3b4b6b7b8b9c",
    "34b7b8c40b2b3b4b5b6b8b9c51b2b3b4b5b6b7b8b9c60b1b2b3b4"]⟩,
  ⟨0x10740, [
    "LINEAR A SIGN A701 Ad2 Bd3 Dd4 Ed5 Fd6 Hd7 Jd8 Kd9 Lc-2 L2e3 L3e4 L4e6 L6h10 Wd1 Xd2 Yd3 OME",
    "GAh4 ABBf5 BBe7 DDf26 EYYYh32 JE"]⟩,
  ⟨0x10760, ["LINEAR A SIGN A800b1b2b3b4b5b6b7"]⟩,
  ⟨0x10780, [
    "MODIFIER LETTER SMALL CAPITAL AApUPERSCRIPT TRIANGULAR COLONqHALF TRIANGULAR COLONg+MALL AEc",
    "CAPITAL BjB WITH HOOKalDZ DIGRAPHa WITH RETROFLEX HOOKoCURLtEZH DIGRAPHl WITH TAILeHOOKa AND",
    " TAILuREVERSED EkCLOSED REVERSED OPEN EwFENG DIGRAPHmRAMS HORNjCAPITAL GjG WITH HOOKlCAPITAL",
    " G WITH HOOKtH WITH STROKEnCAPITAL HjHENG WITH HOOKoDOTLESS J WITH STROKE AND HOOKe+LS DIGRA",
    "PHjZ DIGRAPHj WITH BELTlCAPITAL L WITH BELTtL WITH RETROFLEX HOOK AND BELTd+EZHa WITH RETROF",
    "LEX HOOKyTURNED Ya WITH BELTsO WITH STROKEnCAPITAL OEjLOSED OMEGAmQbTURNED R WITH LONG LEGa ",
    "AND RETROFLEX HOOKp+R WITH TAILeFISHHOOKpCAPITAL RjTC DIGRAPH WITH CURLtS DIGRAPHa WITH RETR",
    "OFLEX HOOKd+ESH DIGRAPHl WITH RETROFLEX HOOKvV WITH RIGHT HOOKarCAPITAL YpGLOTTAL STOP WITH ",
    "STROKEyREVERSED GLOTTAL STOP WITH STROKEh+BILABIAL CLICKoDENTAL CLICKmLATERAL CLICKnALVEOLAR",
    " CLICKoRETROFLEX CLICK WITH RETROFLEX HOOKj+SMALL S WITH CURL"]⟩,
  ⟨0x10800, [
    "CYPRIOT SYLLABLE AbEbIbObUbJAaabOacKAbEbIbObUcLAbEbIbObUcMAbEbIbObUcNAbEbIbObUcPAbEbIbObUcRA",
    "bEbIbObUcSAbEbIbObUcTAbEbIbObUcWAbEbIbOacXAbEaaacZAaabOtIMPERIAL ARAMAIC LETTER ALEPHfBETHeG",
    "IMELfDALETHgHEcWAWdZAYINfHETHeTETHeYODHeKAPHeLAMEDHgMEMdNUNdSAMEKHgAYINePEcSADHEfQOPHeRESHeS",
    "HINeTAWakSECTION SIGNmNUMBER ONEdTWOcHREEeENcWENTYgONE HUNDREDhTHOUSANDmTEN THOUSANDk+PALMYR",
    "ENE LETTER ALEPHfBETHeGIMELfDALETHgHEcWAWdZAYINfHETHeTETHeYODHeKAPHeLAMEDHgMEMdFINAL NUNjNUN",
    "dSAMEKHgAYINePEcSADHEfQOPHeRESHeSHINeTAWiFT-POINTING FLEURONvRIGHT-POINTING FLEURONwNUMBER O",
    "NEdTWOcHREEfFOURdIVEeTENcWENTYxNABATAEAN LETTER FINAL ALEPHlALEPHfFINAL BETHkBETHeGIMELfDALE",
    "THgFINAL HEiHEcWAWdZAYINfHETHeTETHeFINAL YODHkYODHeFINAL KAPHkKAPHeFINAL LAMEDHmLAMEDHgFINAL",
    " MEMjMEMdFINAL NUNjNUNdSAMEKHgAYINePEcSADHEfQOPHeRESHeFINAL SHINkSHINeTAW"]⟩,
  ⟨0x108A7, [
    "NABATAEAN NUMBER ONEdTWOcHREEfFOURlCRUCIFORM NUMBER FOURvNUMBER FIVEeTENcWENTYgONE HUNDRED"]⟩,
  ⟨0x108E0, [
    "HATRAN LETTER ALEPHfBETHeGIMELfDALETH-RESHlHEcWAWdZAYNeHETHeTETHeYODHeKAPHeLAMEDHgMEMdNUNdSA",
    "MEKHgAYNdPEcSADHEfQOPHaeSHINeTAWaaaaakNUMBER ONEdFIVEeTENcWENTYgONE HUNDREDzPHOENICIAN LETTE",
    "R ALFdBETdGAMLeDELTeHEcWAUdZAIdHETdTETdYODdKAFdLAMDeMEMdNUNdSEMKeAINdPEcSADEeQOFdROSHeSHINeT",
    "AUkNUMBER ONEdTENcWENTYgONE HUNDREDlTWOcHREEaaamWORD SEPARATORzLYDIAN LETTER AbBbGbDbEbVbIbY",
    "bKbLbMbNbObRbSScTbUbFbQbSbTTcANcENcLYcNNcCaaaaaiTRIANGULAR MARK"]⟩,
  ⟨0x10980, [
    "MEROITIC HIEROGLYPHIC LETTER AbEbIbObYAcWAcBAa-2ePAcMAcNAa-2dEa-2eRAa-2eLAcKHAdHHAdSAa-2dEcK",
    "AcQAcTAa-2dEa-2dOcDAjSYMBOL VIDJa-2a+CURSIVE LETTER AbEbIbObYAcWAcBAcPAcMAcNAbEcRAcLAcKHAdHH",
    "AdSAcARCHAIC SAkSEcKAcQAcTAbEbOcDAaaaajFRACTION ELEVEN TWELFTHSpONE HALFrLOGOGRAM RMTdIMNmNU",
    "MBER ONEdTWOcHREEfFOURdIVEeSIXcEVENfEIGHTfNINEeTENcWENTYfHIRTYgFORTYeIFTYfSIXTYeEVENTYaahONE",
    " HUNDREDlTWO HUNDREDkHREE HUNDREDnFOUR HUNDREDlIVE HUNDREDmSIX HUNDREDkEVEN HUNDREDnEIGHT HU",
    "NDREDnNINE HUNDREDmONE THOUSANDmTWO THOUSANDlHREE THOUSANDoFOUR THOUSANDmIVE THOUSANDnSIX TH",
    "OUSANDlEVEN THOUSANDoEIGHT THOUSANDoNINE THOUSANDnTEN THOUSANDlWENTY THOUSANDoHIRTY THOUSAND",
    "pFORTY THOUSANDnIFTY THOUSANDoSIXTY THOUSANDnEVENTY THOUSANDqEIGHTY THOUSANDpNINETY THOUSAND",
    "pONE HUNDRED THOUSANDuTWO HUNDRED THOUSANDtHREE HUNDRED THOUSANDwFOUR HUNDRED THOUSANDuIVE H",
    "UNDRED THOUSANDvSIX HUNDRED THOUSANDtEVEN HUNDRED THOUSANDwEIGHT HUNDRED THOUSANDwNINE HUNDR",
    "ED THOUSANDc+FRACTION ONE TWELFTHlTWO TWELFTHSlHREE TWELFTHSoFOUR TWELFTHSmIVE TWELFTHSnSIX ",
    "TWELFTHSlEVEN TWELFTHSoEIGHT TWELFTHSoNINE TWELFTHSnTEN TWELFTHSm+KHAROSHTHI LETTER AiVOWEL ",
    "SIGN IbUbVOCALIC RajEbOaaaaagLENGTH MARKrSIGN DOUBLE RING BELOWrANUSVARAiVISARGAmLETTER KAbH",
    "AdGAbHAadCAbHAdJAacNYAdTTAbHAeDDAbHAeNNAdTAbHAdDAbHAdNAcPAbHAdBAbHAdMAcYAcRAcLAcVAcSHAcSAcAc",
    "ZAcHAcKKAdTTTHAcAeVHAaakSIGN BAR ABOVEjCAUDAfDOT BELOWaaaaoVIRAMAgDIGIT ONEdTWOcHREEfFOURkNU",
    "MBER TENcWENTYgONE HUNDREDhTHOUSANDtFRACTION ONE HALF"]⟩,
  ⟨0x10A50, [
    "KHAROSHTHI PUNCTUATION DOTdSMALL CIRCLEmCIRCLEfRESCENT BARmMANGALAMiLOTUSfDANDAeOUBLE DANDAm",
    "LINES"]⟩,
  ⟨0x10A60, [
    "OLD SOUTH ARABIAN LETTER HEcLAMEDHgHETHeMEMdQOPHeWAWdSHINeRESHeBETHeTAWdSATdKAPHeNUNdKHETHfS",
    "ADHEdMEKHgFEcALEFdYNdDHADHEgGIMELfDALETHgGHAYNfTETHeZAYNeDHALETHhYODHeTHAWcETHmNUMBER ONEdFI",
    "FTYjERIC INDICATORf+NORTH ARABIAN LETTER HEHdLAMdHAHdMEEMeQAFdWAWdES-2eREHdBEHdTEHdES-1eKAFd",
    "NOONeKHAHeSADdES-3eFEHdALEFdINdDADdGEEMeDALdGHAINfTAHdZAINeTHALeYEHdTHEHeZAHkNUMBER ONEdTENc",
    "WENTY"]⟩,
  ⟨0x10AC0, [
    "MANICHAEAN LETTER ALEPHfBETHdHETHfGIMELeHIMELgDALETHgHEcWAWkSIGN UDhLETTER ZAYINeHAYINgJAYIN",
    "eHAYINgHETHeTETHeYODHeKAPHeXAPHeKHAPHfLAMEDHgDHAMEDHhTHAMEDHhMEMdNUNdSAMEKHgAYINdAYINfPEcFEc",
    "SADHEfQOPHeXOPHeQHOPHfRESHeSHINdSHINfTAWkABBREVIATION MARK ABOVEfBELOWaaaaxNUMBER ONEdFIVEeT",
    "ENcWENTYgONE HUNDREDsPUNCTUATION STAReFLEURONhDOUBLE DOT WITHIN DOTtT WITHIN DOTldTWO DOTSiL",
    "INE FILLER"]⟩,
  ⟨0x10B00, [
    "AVESTAN LETTER AaAbObAOcNbANcEaEdEaEcOaOcIaIcUaUcKEcXEbYEcVEdGEbGEcHEdCEcJEcTEbHEdDEbHEdTTEd",
    "PEcFEcBEbHEdNGEbYEcVEdEbYEcNEdMEcHMEdYYEcEcVEcREcLEcSEcZEcSHEdZHEdSHYEdSHEeHEaaajABBREVIATIO",
    "N MARKzTINY TWO DOTS OVER ONE DOT PUNCTUATIONm+SMALL TWO DOTS OVER ONE DOT PUNCTUATIONn+LARG",
    "E TWO DOTS OVER ONE DOT PUNCTUATIONh+ONE DOT OVER TWO DOTS PUNCTUATIONh+TWO RINGS OVER ONE R",
    "ING PUNCTUATIONj+ONE RING OVER TWO RINGS PUNCTUATIONp+INSCRIPTIONAL PARTHIAN LETTER ALEPHfBE",
    "THeGIMELfDALETHgHEcWAWdZAYINfHETHeTETHeYODHeKAPHeLAMEDHgMEMdNUNdSAMEKHgAYINePEcSADHEfQOPHeRE",
    "SHeSHINeTAWaakNUMBER ONEdTWOcHREEfFOUReTENcWENTYgONE HUNDREDhTHOUSANDa+HLAVI LETTER ALEPHfBE",
    "THeGIMELfDALETHgHEcWAW-AYIN-RESHnZAYINfHETHeTETHeYODHeKAPHeLAMEDHgMEM-QOPHiNUNdSAMEKHgPEcSAD",
    "HEeHINeTAWaaaaakNUMBER ONEdTWOcHREEfFOUReTENcWENTYgONE HUNDREDhTHOUSANDp+PSALTER PAHLAVI LET",
    "TER ALEPHfBETHeGIMELfDALETHgHEcWAW-AYIN-RESHnZAYINfHETHeYODHeKAPHeLAMEDHgMEM-QOPHiNUNdSAMEKH",
    "gPEcSADHEeHINeTAW"]⟩,
  ⟨0x10B99, ["PSALTER PAHLAVI SECTION MARKmTURNED SECTION MARKtFOUR DOTS WITH CROSSfDOT"]⟩,
  ⟨0x10BA9, ["PSALTER PAHLAVI NUMBER ONEdTWOcHREEfFOUReTENcWENTYgONE HUNDRED"]⟩,
  ⟨0x10C00, [
    "OLD TURKIC LETTER ORKHON AiYENISEI AaEkORKHON IiYENISEI IbEjORKHON OaEjYENISEI OEkORKHON ABj",
    "YENISEI ABkORKHON AEBkYENISEI AEBlORKHON AGjYENISEI AGkORKHON AEGkYENISEI AEGlORKHON ADjYENI",
    "SEI ADkORKHON AEDdEZjYENISEI EZkORKHON AYjYENISEI AYkORKHON AEYkYENISEI AEYlORKHON AEKkYENIS",
    "EI AEKlORKHON OEKkYENISEI OEKlORKHON ALjYENISEI ALkORKHON AELdELTcMcANbENkYENISEI AENlORKHON",
    " ENTkYENISEI ENTlORKHON ENCkYENISEI ENClORKHON ENYkYENISEI ENYdANGlORKHON ENGkYENISEI AENGmO",
    "RKHON EPcOPcICcECjYENISEI ECkORKHON AQjYENISEI AQkORKHON IQjYENISEI IQkORKHON OQjYENISEI OQk",
    "ORKHON ARjYENISEI ARkORKHON AERcSbEScSHkYENISEI ASHlORKHON ESHkYENISEI ESHlORKHON ATjYENISEI",
    " ATkORKHON AETkYENISEI AETlORKHON OTcBASH"]⟩,
  ⟨0x10C80, [
    "OLD HUNGARIAN CAPITAL LETTER AaAcEBcAMBdECbNCcCScDcANDdEbCLOSE EhEEbFbGaYcHcIaIcEJbKcAKcUNKd",
    "ELaYcMbNaYdOaOcNIKOLSBURG OEnRUDIMENTA OEmOEEdEPbMPcRcSHORT ERiESaZcTbNTcTYcCHdUaUcNIKOLSBUR",
    "G UEnRUDIMENTA UEmEVbZaScNT-SHAPED SIGNpUS"]⟩,
  ⟨0x10CC0, [
    "OLD HUNGARIAN SMALL LETTER AaAcEBcAMBdECbNCcCScDcANDdEbCLOSE EhEEbFbGaYcHcIaIcEJbKcAKcUNKdEL",
    "aYcMbNaYdOaOcNIKOLSBURG OEnRUDIMENTA OEmOEEdEPbMPcRcSHORT ERiESaZcTbNTcTYcCHdUaUcNIKOLSBURG ",
    "UEnRUDIMENTA UEmEVbZaScNT-SHAPED SIGNpUS"]⟩,
  ⟨0x10CFA, [
    "OLD HUNGARIAN NUMBER ONEdFIVEeTENdFIFTYfONE HUNDREDhTHOUSANDh+HANIFI ROHINGYA LETTER AbBAcPA",
    "cTAbTAdJAcCAcHAcKHAdFAcDAbDAdRAbRAdZAcSAbHAdKAcGAcLAcMAcNAcWAcKINNA WAiYAcKINNA YAiNGAcYAdVA",
    "jVOWEL AbIbUbEbOhMARK SAKINfNA KHONNAoSIGN HARBAHAYiTAHALAeNAcSSI"]⟩,
  ⟨0x10D30, ["HANIFI ROHINGYA DIGIT ZEROeONEdTWOcHREEfFOURdIVEeSIXcEVENfEIGHTfNINE"]⟩,
  ⟨0x10E60, [
    "RUMI DIGIT ONEdTWOcHREEfFOURdIVEeSIXcEVENfEIGHTfNINEkNUMBER TENcWENTYfHIRTYgFORTYeIFTYfSIXTY",
    "eEVENTYhEIGHTYgNINETYgONE HUNDREDlTWO HUNDREDkHREE HUNDREDnFOUR HUNDREDlIVE HUNDREDmSIX HUND",
    "REDkEVEN HUNDREDnEIGHT HUNDREDnNINE HUNDREDtFRACTION ONE HALFeQUARTERhTHIRDjTWO THIRDSayYEZI",
    "DI LETTER ELIFeBEcPEbHEdTHEdSEcCIMcHIMcHIMfHHAdXAcDALdZALdRAbHAdZAcJAcSINcHINdADdDADdTAcZEcE",
    "YNdXHEYNfFAcVAa ALTERNATE FORMrQAFdKAFcHAFeGAFdLAMdMIMdNUNdUMcWAWdOWcEWcHAYdYOTdETajCOMBININ",
    "G HAMZA MARKkMADDA MARKuHYPHENATION MARKaaqLETTER LAM WITH DOT ABOVEsYOT WITH CIRCUMFLEX ABO",
    "VE"]⟩,
  ⟨0x10F00, [
    "OLD SOGDIAN LETTER ALEPHfFINAL ALEPHlBETHeFINAL BETHkGIMELfHEcFINAL HEiWAWdZAYINfHETHeYODHeK",
    "APHeLAMEDHgMEMdNUNdFINAL NUNa WITH VERTICAL TAILc+SAMEKHgAYINdLTERNATE AYINoPEcSADHEfFINAL S",
    "ADHEa WITH VERTICAL TAILe+RESH-AYIN-DALETHqSHINeTAWdFINAL TAWa WITH VERTICAL TAILj+NUMBER ON",
    "EdTWOcHREEfFOURdIVEeTENcWENTYfHIRTYgONE HUNDREDsFRACTION ONE HALFrLIGATURE AYIN-DALETH"]⟩,
  ⟨0x10F30, [
    "SOGDIAN LETTER ALEPHfBETHeGIMELfHEcWAWdZAYINfHETHeYODHeKAPHeLAMEDHgMEMdNUNdSAMEKHgAYINePEcSA",
    "DHEfRESH-AYINjSHINeTAWdFETHeLESHlINDEPENDENT SHINqCOMBINING DOT BELOWjTWO DOTS BELOWoDOT ABO",
    "VEjTWO DOTS ABOVEoCURVE ABOVEfBELOWlHOOK ABOVEfBELOWkLONG HOOK BELOWpRESH BELOWkSTROKE BELOW",
    "wNUMBER ONEdTENcWENTYgONE HUNDREDsPUNCTUATION TWO VERTICAL BARSa WITH DOTSb+CIRCLE WITH DOTp",
    "TWO CIRCLES WITH DOTSvHALF CIRCLE WITH DOT"]⟩,
  ⟨0x10F70, [
    "OLD UYGHUR LETTER ALEPHfBETHeGIMEL-HETHkWAWdZAYINfFINAL HETHkYODHeKAPHeLAMEDHgMEMdNUNdSAMEKH",
    "gPEcSADHEfRESHeSHINeTAWdLESHlCOMBINING DOT ABOVEfBELOWjTWO DOTS ABOVEfBELOWyPUNCTUATION BARd",
    "TWO BARSeDOTSiFOUR DOTS"]⟩,
  ⟨0x10FB0, [
    "CHORASMIAN LETTER ALEPHfSMALL ALEPHlBETHeGIMELfDALETHgHEcWAWdCURLED WAWkZAYINfHETHeYODHeKAPH",
    "eLAMEDHgMEMdNUNdSAMEKHgAYINePEcRESHeSHINeTAWkNUMBER ONEdTWOcHREEfFOUReTENcWENTYgONE HUNDRED"]⟩,
  ⟨0x10FE0, [
    "ELYMAIC LETTER ALEPHfBETHeGIMELfDALETHgHEcWAWdZAYINfHETHeTETHeYODHeKAPHeLAMEDHgMEMdNUNdSAMEK",
    "HgAYINePEcSADHEfQOPHeRESHeSHINeTAWjIGATURE ZAYIN-YODH"]⟩,
  ⟨0x11000, [
    "BRAHMI SIGN CANDRABINDUlANUSVARAiVISARGAhJIHVAMULIYAlUPADHMANIYAqLETTER AaAcIaIcUaUcVOCALIC ",
    "RaRcLaLkEbAIcObAUcKAbHAdGAbHAdNGAdCAbHAdJAbHAdNYAdTTAbHAeDDAbHAeNNAdTAbHAdDAbHAdNAcPAbHAdBAb",
    "HAdMAcYAcRAcLAcVAcSHAcSAcAcHAcLLAdOLD TAMIL LLLAeRRAdNNNAvVOWEL SIGN AAcBHATTIPROLU AAoIaIcU",
    "aUcVOCALIC RaRcLaLkEbAIcObAUmIRAMAgDANDAeOUBLE DANDAmPUNCTUATION DOTbUBLE DOTkLINEeCRESCENT ",
    "BARmLOTUSaaaarNUMBER ONEdTWOcHREEfFOURdIVEeSIXcEVENfEIGHTfNINEeTENcWENTYfHIRTYgFORTYeIFTYfSI",
    "XTYeEVENTYhEIGHTYgNINETYgONE HUNDREDhTHOUSANDtDIGIT ZEROeONEdTWOcHREEfFOURdIVEeSIXcEVENfEIGH",
    "TfNINEkSIGN OLD TAMIL VIRAMAvLETTER OLD TAMIL SHORT EbOyVOWEL SIGN OLD TAMIL SHORT EbOc+LETT",
    "ER OLD TAMIL LLA"]⟩,
  ⟨0x1107F, [
    "BRAHMI NUMBER JOINERuKAITHI SIGN CANDRABINDUlANUSVARAiVISARGAmLETTER AaAcIaIcUaUcEbAIcObAUcK",
    "AbHAdGAbHAdNGAdCAbHAdJAbHAdNYAdTTAbHAeDDAbDHAdHAeRHAdNNAdTAbHAdDAbHAdNAcPAbHAdBAbHAdMAcYAcRA",
    "cLAcVAcSHAcSAcAcHAjVOWEL SIGN AAcIaIcUaUcEbAIcObAUnSIGN VIRAMAgNUKTAkABBREVIATION SIGNrENUME",
    "RATION SIGNqNUMBER SIGNlSECTION MARKmDOUBLE SECTION MARKsANDAeOUBLE DANDAmVOWEL SIGN VOCALIC",
    " R"]⟩,
  ⟨0x110CD, [
    "KAITHI NUMBER SIGN ABOVEaaySORA SOMPENG LETTER SAHdTAHdBAHdCAHdDAHdGAHdMAHdNGAHeLAHdNAHdVAHd",
    "PAHdYAHdRAHdHAHdKAHdJAHdNYAHeAHcEEHdIHcUHcOHcEHcMAE"]⟩,
  ⟨0x110F0, [
    "SORA SOMPENG DIGIT ZEROeONEdTWOcHREEfFOURdIVEeSIXcEVENfEIGHTfNINEaaaaaaxCHAKMA SIGN CANDRABI",
    "NDUlANUSVARAiVISARGAmLETTER AAcIbUbEbKAAcHAAeGAAcHAAeNGAAeCAAcHAAeJAAcHAAeNYAAeTTAAcHAAfDDAA",
    "cHAAfNNAAeTAAcHAAeDAAcHAAeNAAdPAAcHAAeBAAcHAAeMAAdYYAAdAAdRAAdLAAdWAAdSAAdHAAkVOWEL SIGN AbI",
    "aIcUaUcEbAIcObAUcOInO MARKgAU MARKhVIRAMAgMAAYYAAahDIGIT ZEROeONEdTWOcHREEfFOURdIVEeSIXcEVEN",
    "fEIGHTfNINEkSECTION MARKmDANDAeOUBLE DANDAmQUESTION MARKnLETTER LHAAlVOWEL SIGN AAcEInLETTER",
    " VAA"]⟩,
  ⟨0x11150, [
    "MAHAJANI LETTER AbIbUbEbObKAbHAdGAbHAdCAbHAdJAbHAdNYAdTTAbHAeDDAbHAeNNAdTAbHAdDAbHAdNAcPAbHA",
    "dBAbHAdMAcRAcLAcVAcSAcHAcRRAkSIGN NUKTAkABBREVIATION SIGNrSECTION MARKmLIGATURE SHRI"]⟩,
  ⟨0x11180, [
    "SHARADA SIGN CANDRABINDUlANUSVARAiVISARGAmLETTER AaAcIaIcUaUcVOCALIC RaRcLaLkEbAIcObAUcKAbHA",
    "dGAbHAdNGAdCAbHAdJAbHAdNYAdTTAbHAeDDAbHAeNNAdTAbHAdDAbHAdNAcPAbHAdBAbHAdMAcYAcRAcLAbLAdVAcSH",
    "AcSAcAcHAjVOWEL SIGN AAcIaIcUaUcVOCALIC RaRcLaLkEbAIcObAUnSIGN VIRAMAgAVAGRAHAiJIHVAMULIYAlU",
    "PADHMANIYAqOMcDANDAeOUBLE DANDAmABBREVIATION SIGNrSEPARATORiANDHI MARKkIGN NUKTAkVOWEL MODIF",
    "IER MARKtEXTRA SHORT VOWEL MARKwSUTRA MARKkVOWEL SIGN PRISHTHAMATRA Ea+SIGN INVERTED CANDRAB",
    "INDUzDIGIT ZEROeONEdTWOcHREEfFOURdIVEeSIXcEVENfEIGHTfNINEkEKAMeSIGN SIDDHAMmHEADSTROKEkCONTI",
    "NUATION SIGNrSECTION MARK-1b2avINHALA ARCHAIC DIGIT ONEdTWOcHREEfFOURdIVEeSIXcEVENfEIGHTfNIN",
    "EkNUMBER TENcWENTYfHIRTYgFORTYeIFTYfSIXTYeEVENTYhEIGHTYgNINETYgONE HUNDREDhTHOUSAND"]⟩,
  ⟨0x11200, [
    "KHOJKI LETTER AaAcIbUbEbAIcObAUcKAbHAdGAbGAcHAdNGAdCAbHAdJAbJAadNYAdTTAbHAeDDAbHAeNNAdTAbHAd",
    "DAbDDAdHAdNAcPAbHAdBAbBAcHAdMAcYAcRAcLAcVAcSAcHAcLLAkVOWEL SIGN AAcIaIcUbEbAIcObAUnSIGN ANUS",
    "VARAiVIRAMAgNUKTAfSHADDAlDANDAeOUBLE DANDAmWORD SEPARATORoSECTION MARKmDOUBLE SECTION MARKtA",
    "BBREVIATION SIGNrSIGN SUKUN"]⟩,
  ⟨0x11280, [
    "MULTANI LETTER AbIbUbEbKAbHAdGAabHAadCAbHAdJAbJAadNYAdTTAbHAeDDAbDAcHAeNNAdTAbHAdDAbHAdNAcPA",
    "bHAdBAabHAdMAcYAcRAcLAcVAcSAcHAcRRAcHAkSECTION MARKaaaaaauKHUDAWADI LETTER AaAcIaIcUaUcEbAIc",
    "ObAUcKAbHAdGAbGAcHAdNGAdCAbHAdJAbJAcHAdNYAdTTAbHAeDDAbDAeRRAdDDHAeNNAdTAbHAdDAbHAdNAcPAbHAdB",
    "AbBAcHAdMAcYAcRAcLAcVAcSHAcAcHAjSIGN ANUSVARAnVOWEL SIGN AAcIaIcUaUcEbAIcObAUnSIGN NUKTAfVIR",
    "AMAaaaaalDIGIT ZEROeONEdTWOcHREEfFOURdIVEeSIXcEVENfEIGHTfNINEaaaaaauGRANTHA SIGN COMBINING A",
    "NUSVARA ABOVExANDRABINDUlANUSVARAiVISARGAamLETTER AaAcIaIcUaUcVOCALIC RbLaajEEcAIaacOOcAUcKA",
    "bHAdGAbHAdNGAdCAbHAdJAbHAdNYAdTTAbHAeDDAbHAeNNAdTAbHAdDAbHAdNAacPAbHAdBAbHAdMAcYAcRAacLAbLAa",
    "dVAcSHAcSAcAcHAarCOMBINING BINDU BELOWvGRANTHA SIGN NUKTAfAVAGRAHAnVOWEL SIGN AAcIaIcUaUcVOC",
    "ALIC RaRaakEEcAIaacOOcAUnSIGN VIRAMAaalOMaaaaaacAU LENGTH MARKaaaaaoSIGN PLUTAkLETTER VEDIC ",
    "ANUSVARAiDOUBLE ANUSVARAuOCALIC RRcLLrVOWEL SIGN VOCALIC LaLaad+COMBINING GRANTHA DIGIT ZERO",
    "eONEdTWOcHREEfFOURdIVEeSIXaaajLETTER AbKAcNAcVIcPA"]⟩,
  ⟨0x11400, [
    "NEWA LETTER AaAcIaIcUaUcVOCALIC RaRcLaLkEbAIcObAUcKAbHAdGAbHAdNGAbHAeCAbHAdJAbHAdNYAbHAeTTAb",
    "HAeDDAbHAeNNAdTAbHAdDAbHAdNAbHAdPAbHAdBAbHAdMAbHAdYAcRAbHAdLAbHAdWAcSHAcSAcAcHAjVOWEL SIGN A",
    "AcIaIcUaUcVOCALIC RaRcLaLkEbAIcObAUnSIGN VIRAMAgCANDRABINDUlANUSVARAiVISARGAhNUKTAfAVAGRAHAi",
    "FINAL ANUSVARAtOMcSIDDHIgDANDAeOUBLE DANDAmCOMMAfGAP FILLERkABBREVIATION SIGNrDIGIT ZEROeONE",
    "dTWOcHREEfFOURdIVEeSIXcEVENfEIGHTfNINEjOUBLE COMMAmPLACEHOLDER MARKaqINSERTION SIGNoSANDHI M",
    "ARKlLETTER VEDIC ANUSVARAvSIGN JIHVAMULIYAlUPADHMANIYA"]⟩,
  ⟨0x11480, [
    "TIRHUTA ANJIeLETTER AaAcIaIcUaUcVOCALIC RaRcLaLkEbAIcObAUcKAbHAdGAbHAdNGAdCAbHAdJAbHAdNYAdTT",
    "AbHAeDDAbHAeNNAdTAbHAdDAbHAdNAcPAbHAdBAbHAdMAcYAcRAcLAcVAcSHAcSAcAcHAjVOWEL SIGN AAcIaIcUaUc",
    "VOCALIC RaRcLaLkEbSHORT EhAIcObSHORT OhAUnSIGN CANDRABINDUlANUSVARAiVISARGAfRAMAgNUKTAfAVAGR",
    "AHAnGVANGfABBREVIATION SIGNrOM"]⟩,
  ⟨0x114D0, ["TIRHUTA DIGIT ZEROeONEdTWOcHREEfFOURdIVEeSIXcEVENfEIGHTfNINE"]⟩,
  ⟨0x11580, [
    "SIDDHAM LETTER AaAcIaIcUaUcVOCALIC RaRcLaLkEbAIcObAUcKAbHAdGAbHAdNGAdCAbHAdJAbHAdNYAdTTAbHAe",
    "DDAbHAeNNAdTAbHAdDAbHAdNAcPAbHAdBAbHAdMAcYAcRAcLAcVAcSHAcSAcAcHAjVOWEL SIGN AAcIaIcUaUcVOCAL",
    "IC RaRaakEbAIcObAUnSIGN CANDRABINDUlANUSVARAiVISARGAfRAMAgNUKTAfSIDDHAMmDANDAeOUBLE DANDAmSE",
    "PARATOR DOTdBARnREPETITION MARK-1b2b3rEND OF TEXT MARKqSECTION MARK WITH TRIDENT AND U-SHAPE",
    "D ORNAMENTSsDOTTED CRESCENTSc+RAYS AND DOTTED CRESCENTSjDOUBLE CRESCENTSqTRIPLE CRESCENTSl+D",
    "OUBLE RINGa WITH RAYSvWITH DOUBLE CRESCENTSqTRIPLE CRESCENTSqQUADRUPLE CRESCENTStSEPTUPLE CR",
    "ESCENTSsCIRCLES AND RAYSeTWO ENCLOSURESoFOUR ENCLOSURESt+LETTER THREE-CIRCLE ALTERNATE IxWO-",
    "CIRCLE ALTERNATE IaIxALTERNATE UsVOWEL SIGN ALTERNATE UaU"]⟩,
  ⟨0x11600, [
    "MODI LETTER AaAcIaIcUaUcVOCALIC RaRcLaLkEbAIcObAUcKAbHAdGAbHAdNGAdCAbHAdJAbHAdNYAdTTAbHAeDDA",
    "bHAeNNAdTAbHAdDAbHAdNAcPAbHAdBAbHAdMAcYAcRAcLAcVAcSHAcSAcAcHAcLLAkVOWEL SIGN AAcIaIcUaUcVOCA",
    "LIC RaRcLaLkEbAIcObAUnSIGN ANUSVARAiVISARGAfRAMAgARDHACANDRAqDANDAeOUBLE DANDAmABBREVIATION ",
    "SIGNrSIGN HUVA"]⟩,
  ⟨0x11650, [
    "MODI DIGIT ZEROeONEdTWOcHREEfFOURdIVEeSIXcEVENfEIGHTfNINEaaaaaanNGOLIAN BIRGA WITH ORNAMENTt",
    "ROTATED BIRGAnDOUBLE BIRGA WITH ORNAMENTa+TRIPLE BIRGA WITH ORNAMENTa+BIRGA WITH DOUBLE ORNA",
    "MENTa+ROTATED BIRGA WITH ORNAMENTiDOUBLE ORNAMENTi+INVERTED BIRGAa WITH DOUBLE ORNAMENTj+SWI",
    "RL BIRGAa WITH ORNAMENTiDOUBLE ORNAMENTg+TURNED SWIRL BIRGA WITH DOUBLE ORNAMENT"]⟩,
  ⟨0x11680, [
    "TAKRI LETTER AaAcIaIcUaUcEbAIcObAUcKAbHAdGAbHAdNGAdCAbHAdJAbHAdNYAdTTAbHAeDDAbHAeNNAdTAbHAdD",
    "AbHAdNAcPAbHAdBAbHAdMAcYAcRAcLAcVAcSHAcAcHAcRRAkSIGN ANUSVARAiVISARGAmVOWEL SIGN AAcIaIcUaUc",
    "EbAIcObAUnSIGN VIRAMAgNUKTAkLETTER ARCHAIC KHAsABBREVIATION SIGNaaaaaarDIGIT ZEROeONEdTWOcHR",
    "EEfFOURdIVEeSIXcEVENfEIGHTfNINE"]⟩,
  ⟨0x11700, [
    "AHOM LETTER KAbHAdNGAcAcTAcALTERNATE TAmPAbHAdBAcMAcJAcCHAdTHAdRAcLAcSAcNYAdHAcAbDAbHAdGAcAL",
    "TERNATE GAmGHAdBHAdJHAdALTERNATE BAaatCONSONANT SIGN MEDIAL LAcRAcLIGATING RAh+VOWEL SIGN Aa",
    "AcIaIcUaUcEbAWcObAIbMnSIGN KILLERaaaalDIGIT ZEROeONEdTWOcHREEfFOURdIVEeSIXcEVENfEIGHTfNINEkN",
    "UMBER TENcWENTYnSIGN SMALL SECTIONmECTIONhRULAIjYMBOL VIjLETTER CAcTTAbHAeDDAbHAeNNAdLLA"]⟩,
  ⟨0x11800, [
    "DOGRA LETTER AaAcIaIcUaUcEbAIcObAUcKAbHAdGAbHAdNGAdCAbHAdJAbHAdNYAdTTAbHAeDDAbHAeNNAdTAbHAdD",
    "AbHAdNAcPAbHAdBAbHAdMAcYAcRAcLAcVAcSHAcSAcAcHAcRRAkVOWEL SIGN AAcIaIcUaUcVOCALIC RaRkEbAIcOb",
    "AUnSIGN ANUSVARAiVISARGAfRAMAgNUKTAkABBREVIATION SIGN"]⟩,
  ⟨0x118A0, [
    "WARANG CITI CAPITAL LETTER NGAAeAbWIcYUbAbOcIIcUUcEbObANGdGAcKOcENYdYUJdUCcENNdODDdTTEdNUNGe",
    "DAcATbMcBUcPUcHIYOdOLOcRRdARdSSUUdIIdVIYOtSMALL LETTER NGAAeAbWIcYUbAbOcIIcUUcEbObANGdGAcKOc",
    "ENYdYUJdUCcENNdODDdTTEdNUNGeDAcATbMcBUcPUcHIYOdOLOcRRdARdSSUUdIIdVIYOrDIGIT ZEROeONEdTWOcHRE",
    "EfFOURdIVEeSIXcEVENfEIGHTfNINEkNUMBER TENcWENTYfHIRTYgFORTYeIFTYfSIXTYeEVENTYhEIGHTYgNINETY"]⟩,
  ⟨0x118FF, [
    "WARANG CITI OMoDIVES AKURU LETTER AaAcIaIcUaUcEaabOaabKAbHAdGAbHAdNGAdCAbHAdJAacNYAdTTAadDDA",
    "bHAeNNAdTAbHAdDAbHAdNAcPAbHAdBAbHAdMAcYAbYAdRAcLAcVAcSHAcSAcAcHAcLLAdZAjVOWEL SIGN AAcIaIcUa",
    "UcEabAIcOaamSIGN ANUSVARAiCANDRABINDUlHALANTAmVIRAMAgPREFIXED NASAL SIGNtMEDIAL YAjINITIAL R",
    "AkMEDIAL RAjSIGN NUKTAkDOUBLE DANDAmGAP FILLERkEND OF TEXT MARK"]⟩,
  ⟨0x11950, ["DIVES AKURU DIGIT ZEROeONEdTWOcHREEfFOURdIVEeSIXcEVENfEIGHTfNINE"]⟩,
  ⟨0x119A0, [
    "NANDINAGARI LETTER AaAcIaIcUaUcVOCALIC RaRaakEbAIcObAUcKAbHAdGAbHAdNGAdCAbHAdJAbHAdNYAdTTAbH",
    "AeDDAbHAeNNAdTAbHAdDAbHAdNAcPAbHAdBAbHAdMAcYAcRAcLAcVAcSHAcSAcAcHAcLLAdRRAkVOWEL SIGN AAcIaI",
    "cUaUcVOCALIC RaRaakEbAIcObAUnSIGN ANUSVARAiVISARGAfRAMAgAVAGRAHAiSIDDHAMmHEADSTROKEkVOWEL SI",
    "GN PRISHTHAMATRA E"]⟩,
  ⟨0x11A00, [
    "ZANABAZAR SQUARE LETTER AiVOWEL SIGN IbUEbbEbOEbbAIbUcREVERSED IpLENGTH MARKrLETTER KAbHAdGA",
    "bHAdNGAdCAbHAdJAcNYAdTTAbHAeDDAbHAeNNAdTAbHAdDAbHAdNAcPAbHAdBAbHAdMAcTSAbHAeDZAbHAeZHAcAc-Ac",
    "YAcRAcLAcVAcSHAcSAcAcHAcKSSAlFINAL CONSONANT MARKuSIGN VIRAMAgCANDRABINDUa WITH ORNAMENTt WI",
    "TH ORNAMENTuANUSVARAiVISARGAmCLUSTER-INITIAL LETTER RArFINAL LETTER YAcRAcLAcVAxINITIAL HEAD",
    " MARKrCLOSING HEAD MARKrMARK TSHEGfSHADeDOUBLE SHADlLONG TSHEGpINITIAL DOUBLE-LINED HEAD MAR",
    "Ke+CLOSING DOUBLE-LINED HEAD MARKe+SUBJOINER"]⟩,
  ⟨0x11A50, [
    "SOYOMBO LETTER AiVOWEL SIGN IbUEbbEbOaEcAIbUcVOCALIC RbLoLENGTH MARKrLETTER KAbHAdGAbHAdNGAd",
    "CAbHAdJAbHAdNYAdTTAbHAeDDAbHAeNNAdTAbHAdDAbHAdNAcPAbHAdBAbHAdMAcTSAbHAeDZAdZHAcAc-AcYAcRAcLA",
    "cVAcSHAcSAcAcHAcKSSAlSIGN JIHVAMULIYAlUPADHMANIYAqCLUSTER-INITIAL LETTER RAcLAcSHAcAzFINAL C",
    "ONSONANT SIGN GbKbNGcDbNbBbMbRbLbSHbb-AxSIGN ANUSVARAiVISARGAmGEMINATION MARKpSUBJOINERjMARK",
    " TSHEGfSHADeDOUBLE SHADlPLUTAkHEAD MARK WITH MOON AND SUN AND TRIPLE FLAMEmFLAMEkb+TERMINAL ",
    "MARK-1b2"]⟩,
  ⟨0x11AB0, [
    "CANADIAN SYLLABICS NATTILIK HIaIcOaOcAaAdSHRIaIcOaOcAaAoSPEbIbObAwPAU CIN HAU LETTER PAcKAcL",
    "AcMAcDAcZAcVAcNGAdHAcGAcKHAdSAcBAcCAcTAbHAdNAcPHAdRAcFAcCHAdAbEbIbObUaAcIAcFINAL PbKbTbMbNbL",
    "bWbNGcYoRISING TONE LONGflSANDHI GLOTTAL STOPtRISING TONE LONG FINALkFINALrSANDHI GLOTTAL ST",
    "OP FINALsTONE LONGfa LONG FINALkFINALrMID-LEVEL TONEoGLOTTAL STOP VARIANTuMID-LEVEL TONE LON",
    "G FINALkFINALuLOW-FALLING TONE LONGfqGLOTTAL STOPmLOW-FALLING TONE LONG FINALkFINALwGLOTTAL ",
    "STOP FINAL"]⟩,
  ⟨0x11C00, [
    "BHAIKSUKI LETTER AaAcIaIcUaUcVOCALIC RaRcLajEbAIcObAUcKAbHAdGAbHAdNGAdCAbHAdJAbHAdNYAdTTAbHA",
    "eDDAbHAeNNAdTAbHAdDAbHAdNAcPAbHAdBAbHAdMAcYAcRAcLAcVAcSHAcSAcAcHAjVOWEL SIGN AAcIaIcUaUcVOCA",
    "LIC RaRcLajEbAIcObAUnSIGN CANDRABINDUlANUSVARAiVISARGAfRAMAgAVAGRAHAnDANDAeOUBLE DANDAmWORD ",
    "SEPARATORoGAP FILLER-1b2"]⟩,
  ⟨0x11C50, [
    "BHAIKSUKI DIGIT ZEROeONEdTWOcHREEfFOURdIVEeSIXcEVENfEIGHTfNINEkNUMBER ONEdTWOcHREEfFOURdIVEe",
    "SIXcEVENfEIGHTfNINEeTENcWENTYfHIRTYgFORTYeIFTYfSIXTYeEVENTYhEIGHTYgNINETYnHUNDREDS UNIT MARK",
    "aaac+MARCHEN HEAD MARKjMARK SHADjLETTER KAbHAdGAcNGAdCAbHAdJAcNYAdTAbHAdDAcNAcPAbHAdBAcMAcTS",
    "AbHAeDZAdWAcZHAcAc-AcYAcRAcLAcSHAcAcHAcAaaiSUBJOINED LETTER KAbHAdGAcNGAdCAbHAdJAcNYAdTAbHAd",
    "DAcNAcPAbHAdBAcMAcTSAbHAeDZAdWAcZHAcAacYAcRAcLAcSHAcAcHAcAsVOWEL SIGN AAcIbUbEbOmSIGN ANUSVA",
    "RAiCANDRABINDU"]⟩,
  ⟨0x11D00, [
    "MASARAM GONDI LETTER AaAcIaIcUaUcEabAIcOabAUcKAbHAdGAbHAdNGAdCAbHAdJAbHAdNYAdTTAbHAeDDAbHAeN",
    "NAdTAbHAdDAbHAdNAcPAbHAdBAbHAdMAcYAcRAcLAcVAcSHAcSAcAcHAcLLAdKSSAeJNYAeTRAkVOWEL SIGN AAcIaI",
    "cUaUcVOCALIC RaaajEabAIcOabAUnSIGN ANUSVARAiVISARGAhNUKTAfCANDRAgHALANTAmVIRAMAgREPHAeA-KARA"]⟩,
  ⟨0x11D50, [
    "MASARAM GONDI DIGIT ZEROeONEdTWOcHREEfFOURdIVEeSIXcEVENfEIGHTfNINEaaaaaayGUNJALA GONDI LETTE",
    "R AaAcIaIcUaUacEEcAIacOOcAUcYAcVAcBAbHAdMAcKAbHAdTAbHAdLAcGAbHAdDAbHAdNAcCAbHAdTTAbHAeLLAdJA",
    "bHAdDDAbHAeNGAdPAbHAdHAcRAcSAjVOWEL SIGN AAcIaIcUaUacEEcAIacOOcAUnSIGN ANUSVARAiVISARGAmVIRA",
    "MAgOM"]⟩,
  ⟨0x11DA0, ["GUNJALA GONDI DIGIT ZEROeONEdTWOcHREEfFOURdIVEeSIXcEVENfEIGHTfNINE"]⟩,
  ⟨0x11EE0, [
    "MAKASAR LETTER KAcGAcNGAdPAcBAcMAcTAcDAcNAcCAcJAcNYAdYAcRAcLAcVAcSAcAiANGKAfVOWEL SIGN IbUbE",
    "bOmPASSIMBANGkEND OF SECTION"]⟩,
  ⟨0x11FB0, ["LISU LETTER YHA"]⟩,
  ⟨0x11FC0, [
    "TAMIL FRACTION ONE THREE-HUNDRED-AND-TWENTIETHb+ONE-HUNDRED-AND-SIXTIETHyEIGHTIETHjSIXTY-FOU",
    "RTHmFORTIETHiTHIRTY-SECONDrTHREE EIGHTIETHSkSIXTY-FOURTHStONE TWENTIETHjSIXTEENTH-1b2lTENTHf",
    "EIGHTHkTHREE TWENTIETHSkSIXTEENTHSqONE FIFTHfQUARTERhHALF-1b2kTHREE QUARTERSoDOWNSCALING FAC",
    "TOR KIIZHh+SIGN NELdCEVITUgAAZHAAKKUjUZHAKKUhMUUVUZHAKKUlKURUNIgPATHAKKUiMUKKURUNIjKAACUfPAN",
    "AMeONdVARAAKANiPAARAMgKUZHIfVELIjWET CULTIVATION SIGNuDRY CULTIVATION SIGNuLAND SIGNjSALT PA",
    "N SIGNnTRADITIONAL CREDIT SIGNlNUMBER SIGNxCURRENT SIGNmAND ODD SIGNmSPENT SIGNkTOTAL SIGNkI",
    "N POSSESSION SIGNsSTARTING FROM SIGNrIGN MUTHALIYAjVAKAIYARAA"]⟩,
  ⟨0x11FFF, ["TAMIL PUNCTUATION END OF TEXT"]⟩]

end ArgRules.Text.CharacterName
