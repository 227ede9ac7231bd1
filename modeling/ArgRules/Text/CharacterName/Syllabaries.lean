import ArgRules.Text.CharacterName.Block

/-!
# Names of characters: Anatolian hieroglyphs and further syllabaries

The names of the characters from U+14400 to U+1CFFF in Unicode 14.0, in blocks of code points.
-/

namespace ArgRules.Text.CharacterName

/-- The names of Anatolian hieroglyphs and further syllabaries. -/
def syllabaries : List Block := [
  ⟨0x14400, [
    "ANATOLIAN HIEROGLYPH A001b2b3b4b5b6b7b8b9c10aAc1b2b3b4b5b6b7b8b9c20b1b2b3b4b5b6aAc7b8b9c30b1",
    "b2b3b4b5b6b7b8b9aAd40b1aAc2b3b4b5aAc6aAbBc7b8b9c50b1b2b3b4b5b6b7b8b9c60b1b2b3b4b5b6aAbBbCc7b",
    "8b9c70b1b2b3b4b5b6b7b8b9c80b1b2b3b4b5b6b7b8b9c90b1b2b3b4b5b6b7aAc8aAc9d100aAc1aAc2aAc3b4aAbB",
    "bCc5aAbBc6b7aAbBbCc8b9c10aAbBc1b2b3b4b5aAc6b7b8b9c20b1b2b3b4b5aAc6b7b8b9c30b1b2b3b4b5aAc6b7b",
    "8b9c40b1b2b3b4b5b6b7b8b9c50b1b2b3b4b5b6b7b8b9c60b1b2b3b4b5b6b7b8b9c70b1b2b3b4b5b6b7b8b9c80b1",
    "b2b3b4b5b6b7b8b9c90b1b2b3b4b5b6b7b8b9d200b1b2aAbBc3b4b5b6b7aAc8b9aAd10b1b2b3b4b5aAc6aAc7b8b9",
    "c20b1b2b3b4b5b6b7aAc8b9c30b1b2b3b4b5b6b7b8b9c40b1b2b3b4b5b6b7b8b9c50b1b2b3b4b5b6b7b8b9c60b1b",
    "2b3b4b5b6b7aAc8b9c70b1b2b3b4b5b6b7b8b9c80b1b2b3b4b5b6b7b8b9aAd90b1b2b3b4aAc5b6b7b8b9aAe300b1",
    "b2b3b4b5b6b7b8b9aAd10b1b2b3b4b5b6b7b8b9c20b1b2b3b4b5b6b7b8b9aAd30b1b2AbBbCc3b4b5b6aAbBbCc7b8",
    "b9c40b1b2b3b4b5b6b7b8b9c50b1b2b3b4b5b6b7b8b9aAd60b1b2b3b4aAc5b6b7b8aAc9c70b1aAc2b3b4b5b6b7b8",
    "b9c80b1aAc2b3 RA OR RIjAc4b5b6aAc7b8b9c90b1b2b3 EIGHTh4b5b6b7b8b9d400b1b2b3b4b5b6b7b8b9c10 B",
    "EGIN LOGOGRAM MARKuA END LOGOGRAM MARKu1b2b3b4b5b6b7b8b9c20b1b2b3b4b5b6b7b8b9c30b1b2b3b4b5b6",
    "b7b8b9c40b1b2b3b4b5b6b7b8b9c50aAc1b2b3b4b5b6b7aAc8b9c60b1b2b3b4b5b6b7b8b9c70b1b2b3b4b5b6b7b8",
    "b9c80b1b2b3b4b5b6b7b8b9c90b1b2b3b4b5b6b7d501b2b3b4b5b6b7b8b9c10b1b2b3b4b5b6b7b8b9c20b1b2b3b4",
    "b5b6b7b8b9c30"]⟩,
  ⟨0x16800, [
    "BAMUM LETTER PHASE-A NGKUE MFONkGBIEE FONjPON MFON PIPAEMGBIEEfBArNAA MFONiSHUENSHUETkTITA M",
    "FONjNZA MFONiSHINDA PA NJInPON PA NJI PIPAEMGBIEEfBAtMAEMBGBIEEkTU MAEMBAjNGANGUgMAEMVEUXgNS",
    "UAEgVEUAENGAMkSEUNYAMhNTOQPENhKEUKEUTNDAkNKINDIgSUUdNGKUENZEUMkLAPAQeET KUThNTAP MFAAjMAEKEU",
    "PhPASHAEgGHEUAERAEjPAMSHAEhMON NGGEUAETmNZUN MEUTjU YUQ NAEjGHEUAEGHEUAEmNTAP NTAAjSISAeMGBA",
    "SAfEUNJOMNDEUQlOOMPUQhKAFAePA LEERAEWAlNDA LEERAEWAmPETdMAEMKPENiNIKAePUPdTUAEPfLUAEPfSONJAM",
    "gTEUTEUWENjMAENYIgKETdNDAANGGEUAETmKUOQeMOOMEUThSHUMeLOMMAEgFIRIeROMdKPOQeSOQdMAP PIEETjSHIR",
    "AEgNTAPeSHOQ NSHUT YUMoNYIT MONGKEUAEQpPAARAEgNKAARAEhUNKNOWNhNGGENfMAESIfNJAMeMBANYIgNYETeT",
    "EUAENgSOTdPAAMeNSHIEEgMAEMeNYIdKAQdNSHAeVEEdLUcNENcAQdMBAQgB NSHUETgTU MAEMGBIEEmSIEEdET TUg",
    "LOM NTEUMjMBA MAELEEkKIEEMfYEURAEgMBAARAEhKAMdPEESHIgYAFU LEERAEWAnLAM NSHUT NYAMoNTIEE SHEU",
    "OQlDU NJAAiGHEUGHEUAEMlPITdTU NSIEEiSHET NJAQgUAEQTUjMFON TEUAEQkBIT MBAAKETmNYI NTEUMjKEUPU",
    "QgGHEUGHENiKEUYEUXhLAANAEgPARUMfVEUMeNGKINDI MVOPkGEU MBUjWUAETfSAKEUAEhTAAMeMEUQeNGGUOQa LA",
    "RGEmMFIYAQgSUEdMBEURIfONTIEENiNYAEMAEhPUNGAAMhMEUT NGGEETlFEUXeMBUOQfFEEdKEUAEMgMA NJEUAENAg",
    "UQAiLETdNGGAAMfSENeMAcKIQdNGOMgC NGKUE MAEMBAlZAdYUMdWANGKUOQiNGGENeDEUAEREEiGKAQfGHARAEgMBE",
    "EKEETiGBAYIfNYIR MKPARAQ MEUNqTU MBITiMBEUMfPIRIEENhNDOMBUgMBAA CABBAGE-TREErKEUSHEUAEPkGHAP",
    "eKEUKAQgYU MUOMAEjNZEUMfMBUEeNSEUAENhMBITeYEUQeKPARAQfAAdSEUXeNDIDAfTAASHAEhNJUEQfTITA YUEiS",
    "UAETfNGGUAEN NYAMmVEUXeNANSANAQiMA KEUAERIkNTAAdGGUONgLAPdMBIRIEENhGBASAQhNTEUNGBAiTEUTEUXhN",
    "GGUMfFUEdNDEUTeSAbHAQfBUNGeVEUAEPENiMBERAEgRUcNJAEMfLAMdTITUAEPhNSUOT NGOMjJEEEEgKETdNGGUeMA",
    "ESIeBUAEMgLUcKUTdNJAMdGOMeWUPdNGGUEETgSOMdTENeKUOP NKAARAEmNSUNdDAMeMA NSIEEiYAAdNDAPeSHUEQe",
    "ETFONgMBIcAEMBAfBANYIgKEUSEUXhMBEUXfKEUMeMBAA PICKETlYUWOQfNJEUXfMIEEdUAEeSHIQeKEN LAWdFATIG",
    "UElNGAQdAQdLIQdPINcENdTETfD MBUOeWAPdNJIdMFONeNJIEEfLIEEeNJEUTeSHEEeGGAAMAEhYAMeWUAENfNGKUNf",
    "SHEEeNGKAPfKEUAETMEUNkTEUTeSHEUAEgNJAPeSUEdKETdYAEMMAEhKUOMeSAPdMFEUTfNDEUXfMALEERIgEUTeSEUA",
    "EQgYENdNJEUAEMhKEUOT MBUAElNGKEURIhTUcGHAAeNGKYEEgFEUFEUAETjNDEEeMGBOFUMhLEUAEPgNDONeMONIdGB",
    "EUNgPUUTeMGBIEEfFOdLUMdNSIEEPgMBAAeKWAETfNYETeTEUAENgSOTdYUWOQfKEUMeRAEMeTEEEEfNGKEUAEQiMFEU",
    "AEgNSIEETgKEUPePIPcEUTAEgNYUEeLETdNGGAAMgMFIEEfNGGWAENhYUOMePAPdYUOPeNDAMdTEUMfSUAEeKUNdNGGE",
    "UXeKIEEgTUOTeMEUNeKUQdNSUMeTEUNeMAENJEThNGGAPfLEUMeNGGUOMfSHUTeJUEQfGHEUAEgKUcREN OLDhTAEcOQ",
    "dNYIdRIIdLEEEEfMEEEEebSUUdMUcSHIIcEUXfKYEEeNUcSHUdNTEEePEEdNIcSHOQePUQdMVOPeLOQdREN MUCHiTIc",
    "NTUUeMBAA SEVENkSAQdFAAfE NDAPeTOONeMBEUMfLAPdVOMdLOONePAAdSOMdRAQdNSHUOPfDUNePUAEeTAMdNGKAe",
    "KPEUXfWUOdSEEdNGGEUAETiPAAMeTOOdKUOPeLOMdNSHIEEfGOPeMAEMeNGKEUXeOQdSHUEfRIMGBAgNJEUXfPEEMeSA",
    "AdNGGURAEhMGBAeGHEUXfNGKEUAEMhJAEMLIhMAPdLOOTeNGGEEEEgDIQeTAEN NTEUMkSETdPUMdNDAA SOFTNESSmG",
    "GUAESHAE NYAMpYIEEeGHEUNfTUAEeYEUAEfPOcTUMAEfKEUAEfSUAENfTEUAEQgVEUAEfWEUXeLAAMePUcTAAQeGHAA",
    "MAEhNGEUREUTiSHEUAEQhMGBENeBEEeNZAQdKOMeGBETeTUMdKUETeYAPdNYI CLEAVERlYITdMFEUQfNDIAQfPIEEQf",
    "YUEQeLEUAEMgFUEdGBEUXfNGKUPfKETdMAEdNGKAAMIhGHETeFAcNTUMePEUTeYEUMeNGGEUAEgYI BETWEENkZUQePO",
    "ONeMIEEeFUETeNAEdMUAEeGHEUAEgFU IeMVIdPUAQeNGKUMfKUTdPIETeNTAPeYEUAETgNGGUPfPA PEOPLEjFU CAL",
    "LgOMdNJEEeAbTOQdObIbLAQdPA PLURALjTAAbQdNDAA MY HOUSEnSHIQeYEUXeNGUAEfYUAENeOQ SWIMMINGiCOVE",
    "RiUQbNdKEUXePEUXeNJEE EPOCHkPUEdWUEdFEEdVEEdLUcMIcREUXdAEdNGUAETeAdSHOaQeFU REMEDYjNAcPIcLOQ",
    "dKOcMENcAaQdTEUdKIcMONdTENdFAQdGHOMgF KAcUbKUcEEcREEdTAEdNYIdLAcRIIbEEeMEEEEfTAAdNDAAdJAEMfM",
    "bSUUcHIIdIbEUXeKYEEdETdNUAEcbJUAEfYOQdSHUdYAcNSHAePEUXeNTEEeWUEdPEEdRUcNIcREUXeKENdNGKWAENfG",
    "AeSHOdPUAEeFOMdWAcLIbOQdKOcMBENeRENdMAbObBAAeTETdKPAdSAMBAfVUEQ"]⟩,
  ⟨0x16A40, [
    "MRO LETTER TAcNGIdYOcMIMdBAcDAcAbPHIdKHAIeHAOdDAIdCHUdKEAAEfOLcMAEMeNINdPAcOObbROcSHIdTHEAeE",
    "AcWAcEbKOcLANbcHAIdRIcTEKakDIGIT ZEROeONEdTWOcHREEfFOURdIVEeSIXcEVENfEIGHTfNINEaaaajANDAeOUB",
    "LE DANDAqTANGSA LETTER OZbCbQbXcAZbCbQbXcVZbCbQbXcEZbCbQbXcIZbCbQbXcUZbCbQbXcAWZbCbQbXdUIZbC",
    "bQbXdFINAL NGiLONG UEXiSHORT UEZdAWXjUECbZbQbXcIUZbCbQbXeMZbCbQbXcKAbHAdGAcNGAdSAcYAcWAcPAcN",
    "YAdPHAdBAcMAcNAcHAcLAcHTAdTAcDAcRAcNHAdSHAdCAcTSAdGHAdHTTAeTHAdXAcFAcDHAdCHAdZAajDIGIT ZEROe",
    "ONEdTWOcHREEfFOURdIVEeSIXcEVENfEIGHTfNINEaaaaaarBASSA VAH LETTER ENNIeKAcSEcFAcMBEdYIEdGAHdD",
    "HIIeKPAHeJOcHWAHeWAcZOcGBUdDOcCEcUWUdTOcBAcVUcYEINePAcWADDAfAbOaOcUbEEbbIaaiCOMBINING HIGH T",
    "ONEjLOW TONEiMID TONEiLOW-MID TONEmHIGH-LOW TONExFULL STOP"]⟩,
  ⟨0x16B00, [
    "PAHAWH HMONG VOWEL KEEBbVdIBbVcAUBbVdUBbVcEBbVcAIBbVdOOBbVdAWBbVdUABbVdOBbVcIABbVdABbVcWBbVc",
    "AABbVkCONSONANT VAUdNTSAUfLAUdHAUdNLAUeRAUdNKAUeQHAUeYAUdHLAUeMAUdCHAUeNCHAUfHNAUePLHAUfNTHA",
    "UeAUdAUcXAUdCAUnMARK CIM TUBdSOcKEScHAVeSUAMeHOMdTAUMnSIGN VOS THOMdSHAB CEEBoCIM CHEEMjVOS ",
    "THIABfFEEMiXYEEM NTXIVfRHOdTOVdFAIBkVOS SEEViMEEJ SUABjVOS NRUAiIB YAMgXAUSeCIM TSOV ROG"]⟩,
  ⟨0x16B50, [
    "PAHAWH HMONG DIGIT ZEROeONEdTWOcHREEfFOURdIVEeSIXcEVENfEIGHTfNINEakNUMBER TENSeHUNDREDSiTEN ",
    "THOUSANDSnMILLIONSiHUNDRED MILLIONSqTEN BILLIONSlRILLIONSaqSIGN VOS LUBhXYOOeHLIdTHIRD-STAGE",
    " HLIpZWJ THAJiHNUBeNQIGeXIABeNTUJeAVcTXHEEJ CEEVlMEEJ TSEEBkTAUdLOSdMUSdCIM HAIS LUS NTOG NT",
    "OGsCUAM TSHOOJlTXWVa CHWVjPUB DAWBiNRES TOSaaaaarCLAN SIGN TSHEEJgYEEGeLIScAUJeXYOOJfKOOdHAW",
    "JeMUASeTHOJdSABePHABeKHABeHAMdVAJdFAJdYAJdTSWBeKWMdVWJ"]⟩,
  ⟨0x16E40, [
    "MEDEFAIDRIN CAPITAL LETTER MbSbVbWbATIUeZbKPcPbTbGbFbIbKbAbJbEbBbCbUbYUcLbQbHPcNYcXbDbOEcNbR",
    "bObAIcYqSMALL LETTER MbSbVbWbATIUeZbKPcPbTbGbFbIbKbAbJbEbBbCbUbYUcLbQbHPcNYcXbDbOEcNbRbObAIc",
    "YoDIGIT ZEROeONEdTWOcHREEfFOURdIVEeSIXcEVENfEIGHTfNINEkNUMBER TENdELEVENgTWELVEfHIRTEENiFOUR",
    "TEENhIFTEENhSIXTEENgEVENTEENjEIGHTEENiNINETEENpDIGIT ONE ALTERNATE FORMsTWO ALTERNATE FORMrH",
    "REE ALTERNATE FORMa+COMMAfFULL STOPjSYMBOL AIVAlEXCLAMATION OH"]⟩,
  ⟨0x16F00, [
    "MIAO LETTER PAcBAcYI PAfPLAdMAbHAdARCHAIC MAkFAcVAbFAdTAcDAcYI TTAcAfTTAdDDAdNAbHAdYI NNAgAR",
    "CHAIC NAkNNAbHAeLAbYAcHAbYAeTLHAeDLHAeTLHYAfDLHYAfKAcGAcYI KAfQAbGAdNGAbHAeARCHAIC NGAlHAcXA",
    "cGHAbHAeTSSAeDZZAeNYAbHAeTSHAeDZHAeYI TSHAeDZHAhREFORMED TSHAnSHAcSAdZHAcSHAeTSAdDZAdYI TSAg",
    "SAcZAbSAcZAbSAeARCHAIC ZZAlZZYAcSYAfWAcAHcHHAdBRIdSYIdDZYIeTEbSEdRTEaaaakSIGN CONSONANT MODI",
    "FIER BARb+LETTER NASALIZATIONtSIGN ASPIRATIONkREFORMED VOICINGhASPIRATIONyVOWEL SIGN AaAbHHc",
    "NaGdOaOcWObbEaNaGdOEYdIaAaNaGdObEbIbUbNGdUaAaNaGdUbEIcNGdYaIcAEaEdERRdROUNDED ERRlERcROUNDED",
    " ERkAIcEIcAUcOUcNaGcUOGdYUIdOGbERdVWcIGcEAcIONGeUI"]⟩,
  ⟨0x16F8F, [
    "MIAO TONE RIGHTfTOP RIGHTjABOVEfBELOWkLETTER TONE-2b3b4b5b6b7b8gREFORMED TONE-1b2b4b5b6b8"]⟩,
  ⟨0x16FE0, [
    "TANGUT ITERATION MARKvNUSHU ITERATION MARKuOLD CHINESE HOOK MARKjITERATION MARKa+KHITAN SMAL",
    "L SCRIPT FILLER"]⟩,
  ⟨0x16FF0, ["VIETNAMESE ALTERNATE READING MARK CAcNHAY"]⟩,
  ⟨0x18800, [
    "TANGUT COMPONENT-001b2b3b4b5b6b7b8b9c10b1b2b3b4b5b6b7b8b9c20b1b2b3b4b5b6b7b8b9c30b1b2b3b4b5b",
    "6b7b8b9c40b1b2b3b4b5b6b7b8b9c50b1b2b3b4b5b6b7b8b9c60b1b2b3b4b5b6b7b8b9c70b1b2b3b4b5b6b7b8b9c",
    "80b1b2b3b4b5b6b7b8b9c90b1b2b3b4b5b6b7b8b9d100b1b2b3b4b5b6b7b8b9c10b1b2b3b4b5b6b7b8b9c20b1b2b",
    "3b4b5b6b7b8b9c30b1b2b3b4b5b6b7b8b9c40b1b2b3b4b5b6b7b8b9c50b1b2b3b4b5b6b7b8b9c60b1b2b3b4b5b6b",
    "7b8b9c70b1b2b3b4b5b6b7b8b9c80b1b2b3b4b5b6b7b8b9c90b1b2b3b4b5b6b7b8b9d200b1b2b3b4b5b6b7b8b9c1",
    "0b1b2b3b4b5b6b7b8b9c20b1b2b3b4b5b6b7b8b9c30b1b2b3b4b5b6b7b8b9c40b1b2b3b4b5b6b7b8b9c50b1b2b3b",
    "4b5b6b7b8b9c60b1b2b3b4b5b6b7b8b9c70b1b2b3b4b5b6b7b8b9c80b1b2b3b4b5b6b7b8b9c90b1b2b3b4b5b6b7b",
    "8b9d300b1b2b3b4b5b6b7b8b9c10b1b2b3b4b5b6b7b8b9c20b1b2b3b4b5b6b7b8b9c30b1b2b3b4b5b6b7b8b9c40b",
    "1b2b3b4b5b6b7b8b9c50b1b2b3b4b5b6b7b8b9c60b1b2b3b4b5b6b7b8b9c70b1b2b3b4b5b6b7b8b9c80b1b2b3b4b",
    "5b6b7b8b9c90b1b2b3b4b5b6b7b8b9d400b1b2b3b4b5b6b7b8b9c10b1b2b3b4b5b6b7b8b9c20b1b2b3b4b5b6b7b8",
    "b9c30b1b2b3b4b5b6b7b8b9c40b1b2b3b4b5b6b7b8b9c50b1b2b3b4b5b6b7b8b9c60b1b2b3b4b5b6b7b8b9c70b1b",
    "2b3b4b5b6b7b8b9c80b1b2b3b4b5b6b7b8b9c90b1b2b3b4b5b6b7b8b9d500b1b2b3b4b5b6b7b8b9c10b1b2b3b4b5",
    "b6b7b8b9c20b1b2b3b4b5b6b7b8b9c30b1b2b3b4b5b6b7b8b9c40b1b2b3b4b5b6b7b8b9c50b1b2b3b4b5b6b7b8b9",
    "c60b1b2b3b4b5b6b7b8b9c70b1b2b3b4b5b6b7b8b9c80b1b2b3b4b5b6b7b8b9c90b1b2b3b4b5b6b7b8b9d600b1b2",
    "b3b4b5b6b7b8b9c10b1b2b3b4b5b6b7b8b9c20b1b2b3b4b5b6b7b8b9c30b1b2b3b4b5b6b7b8b9c40b1b2b3b4b5b6",
    "b7b8b9c50b1b2b3b4b5b6b7b8b9c60b1b2b3b4b5b6b7b8b9c70b1b2b3b4b5b6b7b8b9c80b1b2b3b4b5b6b7b8b9c9",
    "0b1b2b3b4b5b6b7b8b9d700b1b2b3b4b5b6b7b8b9c10b1b2b3b4b5b6b7b8b9c20b1b2b3b4b5b6b7b8b9c30b1b2b3",
    "b4b5b6b7b8b9c40b1b2b3b4b5b6b7b8b9c50b1b2b3b4b5b6b7b8b9c60b1b2b3b4b5b6b7b8"]⟩,
  ⟨0x1AFF0, [
    "KATAKANA LETTER MINNAN TONE-2b3b4b5ab7b8gNASALIZED TONE-1b2b3b4b5ab7b8axARCHAIC EzHIRAGANA L",
    "ETTER ARCHAIC YEzENTAIGANA LETTER A-1b2b3bWOeI-1b2b3b4dU-1b2b3b4b5dE-2b3b4b5b6dO-1b2b3dKA-1b",
    "2b3b4b5b6b7b8b9b10b1cKEeI-1b2b3b4b5b6b7b8dU-1b2b3b4b5b6b7dE-1b2b3b4b5b6dO-1b2b3bKIfSA-1b2b3b",
    "4b5b6b7b8dI-1b2b3b4b5b6dU-1b2b3b4b5b6b7b8dE-1b2b3b4b5dO-1b2b3b4b5b6b7eTA-1b2b3b4dI-1b2b3b4b5",
    "b6b7dU-1b2b3b4bTOeE-1b2b3b4b5b6b7b8b9dO-1b2b3b4b5b6bRAfNA-1b2b3b4b5b6b7b8b9dI-1b2b3b4b5b6b7b",
    "TEeU-1b2b3dE-1b2b3b4b5b6bKOeO-1b2b3b4b5eHA-1b2b3b4b5b6b7b8b9b10b1eI-1b2b3b4b5b6b7dU-1b2b3dE-",
    "1b2b3b4b5b6b7dO-1b2b3b4b5b6b7b8eMA-1b2b3b4b5b6b7dI-1b2b3b4b5b6b7dU-1b2b3b4dE-1b2bMAeO-1b2b3b",
    "4b5b6eYA-1b2b3b4b5bYOeU-1b2b3b4dO-1b2b3b4b5b6eRA-1b2b3b4dI-1b2b3b4b5b6b7dU-1b2b3b4b5b6dE-1b2",
    "b3b4dO-1b2b3b4b5b6eWA-1b2b3b4b5dI-1b2b3b4b5dE-1b2b3b4dO-1b2b3b4b5b6b7eN-MU-MO-1b2a+IRAGANA L",
    "ETTER ARCHAIC WUa+KATAKANA LETTER ARCHAIC YIbEcWU"]⟩,
  ⟨0x1B150, ["HIRAGANA LETTER SMALL WIbEbO"]⟩,
  ⟨0x1B164, ["KATAKANA LETTER SMALL WIbEbOcN"]⟩,
  ⟨0x1BC00, [
    "DUPLOYAN LETTER HbXbPbTbFbKbLbBbDbVbGbRbP NdD SdF NdK MdR SdTHcSLOAN DHiDHcKKcSLOAN JhHLcLHc",
    "RHcMbNbJbSbM NdN MdJ MdS JdM WITH DOTkN WITH DOTkJ WITH DOTaS INSIDE AND ABOVEc+S WITH DOTa ",
    "BELOWqM SdN SdJ SdS SdM N SfN M SfJ M SfS J SfJ S WITH DOTkNa SfS Ta RdPa RfT SbR SfWaHb RdS",
    " NbMdK R SfG R SfS Ka RfAbSLOAN OWiOAbbAOUdIbEbIEcSHORT IhUIcEEcSLOAN EHiROMANIAN IkSLOAN EE",
    "iLONG IgYEcUbEUcXWcU NdLONG UgROMANIAN UkUHcSLOAN UhOOHcWbUcWAbObIbEIcOWdNASAL UbObIbAhPERNI",
    "N ANbMjSLOAN ENcANcONiVOCALIC MaaaaaqAFFIX LEFT HORIZONTAL SECANTwMID HORIZONTAL SECANTvRIGH",
    "T HORIZONTAL SECANTxLOW VERTICAL SECANTtMID VERTICAL SECANTtHIGH VERTICAL SECANTuATTACHED SE",
    "CANTgLEFT-TO-RIGHT SECANTuTANGENTfILeE HOOKgI HOOKgTANGENT HOOKaaavHIGH ACUTEfTIGHT ACUTElGR",
    "AVEfLONG GRAVEkDOTdCIRCLEgLINEeWAVEeVERTICAL"]⟩,
  ⟨0x1BC90, [
    "DUPLOYAN AFFIX LOW ACUTEfTIGHT ACUTElGRAVEfLONG GRAVEkDOTdCIRCLEgLINEeWAVEeVERTICALiARROWaap",
    "SIGN O WITH CROSSrTHICK LETTER SELECTORvDOUBLE MARKlPUNCTUATION CHINOOK FULL STOPm+SHORTHAND",
    " FORMAT LETTER OVERLAPoCONTINUING OVERLAPsDOWN STEPjUP STEP"]⟩,
  ⟨0x1CF00, [
    "ZNAMENNY COMBINING MARK GORAZDO NIZKO S KRYZHEM ON LEFTf+NIZKO S KRYZHEM ON LEFTxTSATA ON LE",
    "FTnGORAZDO NIZKO ON LEFTvNIZKO ON LEFTnSREDNE ON LEFToMALO POVYSHE ON LEFTuPOVYSHE ON LEFTpV",
    "YSOKO ON LEFToMALO POVYSHE S KHOKHLOM ON LEFTf+POVYSHE S KHOKHLOM ON LEFTa+VYSOKO S KHOKHLOM",
    " ON LEFTzGORAZDO NIZKO S KRYZHEM ON RIGHTg+NIZKO S KRYZHEM ON RIGHTyTSATA ON RIGHToGORAZDO N",
    "IZKO ON RIGHTwNIZKO ON RIGHToSREDNE ON RIGHTpMALO POVYSHE ON RIGHTvPOVYSHE ON RIGHTqVYSOKO O",
    "N RIGHTpMALO POVYSHE S KHOKHLOM ON RIGHTg+POVYSHE S KHOKHLOM ON RIGHTb+VYSOKO S KHOKHLOM ON ",
    "RIGHTa+TSATA S KRYZHEMpMALO POVYSHE S KRYZHEMwSTRANNO MALO POVYSHEuPOVYSHE S KRYZHEMiTRANNOp",
    "VYSOKO S KRYZHEMqMALO POVYSHE STRANNOuGORAZDO VYSOKOoZELOeONcRAVNOfTIKHAYAhBORZAYAhUDARKAgPO",
    "DVERTKAjLOMKAfKUPNAYAgACHKAgZEVOKfSKOBAfRAZSEKAhKRYZH ON LEFTaasTONAL RANGE MARK MRACHNOhSVE",
    "TLOgTRESVETLOa+MARK ZADERZHKAjDEMESTVENNY ZADERZHKAvOTSECHKAiPODCHASHIEa WITH VERTICAL STROK",
    "Ef+CHASHKAa POLNAYApOBLACHKOiSOROCHYA NOZHKApTOCHKAgDVOETOCHIEpATTACHING VERTICAL OMETxMARK ",
    "CURVED OMETlKRYZHkLOWER TONAL RANGE INDICATORl+PRIZNAK MODIFIER LEVEL-2b3hDIRECTION FLIPoKRY",
    "ZHfROG"]⟩,
  ⟨0x1CF50, [
    "ZNAMENNY NEUME KRYUKa TIKHYlPARAKLITiDVA V CHELNUmKLYUCHgZANOZHEKiSTOPITSAa S OCHKOMrPEREVOD",
    "KAa NEPOSTOYANNAYAySTOPITSA WITH SOROCHYA NOZHKAd+CHELYUSTKAkPALKAfZAPYATAYAjGOLUBCHIK BORZY",
    "fTIKHYfMRACHNYhSVETLYgTRESVETLYtVRAKHIYA PROSTAYAiMRACHNAYAjSVETLAYAiTRESVETLAYAlKLYUCHEVAYA",
    " PROSTAYAiMRACHNAYAjSVETLAYAiTRESVETLAYAg+DOUBLE ZAPYATAYAqREVERSED CHELYUSTKAtDERBITSAiKHAM",
    "ILOhCHASHKAhPODCHASHIEkSKAMEYTSA MRACHNAYAjSVETLAYAiTRESVETLAYAkIKHAYArDEMESTVENNY KLYUCHsSK",
    "AMEYTSA KLYUCHEVAYA SVETLAYAnNEPOSTOYANNAYAoVAYA TIKHAYAtDVOECHELNAYA PROSTAYAiSVETLAYAiNEPO",
    "STOYANNAYAoKLYUCHEVAYAh+LOZHITIEa S ZAPYATOYkZAKRYTOEiS KRYZHEMtKRYZHfROGdFITAeKOBYLAgZMEYTS",
    "AhSTATYAa S ZAPYATOYiKRYZHEMhZAPYATOY I KRYZHEMsKRYZHEM I ZAPYATOYuZAKRYTAYAa S ZAPYATOYuS R",
    "OGOMfDVUMYA ZAPYATYMIqZAPYATOY I PODCHASHIEMf+POLKULIZMYkSTATYA NEPOSTOYANNAYAtRELA PROSTAYA",
    "iMRACHNOTIKHAYAoKRYZHEVAYAkPOLUPOVODNAYAlVODNAYAjNEPOSTOYANNAYAoKLYUCHEPOVODNAYAjNEPOSTOYANN",
    "AYAvTIKHAYA PUTNAYApDVOECHELNAYAdOKRYZHEVAYAkPOVODNAYAkAYA KLYUCHEVAYApOPOVODNAYA KLYUCHEVAY",
    "Af+GROMNAYA WITH SINGLE ZAPYATAYAa+OPOVODNAYA WITH SINGLE ZAPYATAYAg+NAYAeOPOVODNAYAa WITH D",
    "OUBLE ZAPYATAYAf+KRYZHEVAYAa POVODNAYAg+MECHIKa POVODNYhKLYUCHEVOYdPOVODNYhNEPOSTOYANNYa+STR",
    "ELA TRYASOGLASNAYAiPOVODNAYAjSTRELNAYAwOSOKAa SVETLAYAiTRESVETLAYAlKRYUKOVAYA SVETLAYAsLYUCH",
    "EVAYA SVETLAYAiNEPOSTOYANNAYAg+STRELA KRYUKOVAYAa POVODNAYAjGROMNAYA WITH SINGLE ZAPYATAYAa+",
    "OPOVODNAYA WITH SINGLE ZAPYATAYAg+NAYAeOPOVODNAYAa WITH DOUBLE ZAPYATAYAf+KRYZHEVAYAa POVODN",
    "AYAzTRYASKAzKUFISMAhOBLAKOgDUDAeNEMKAfPAUK"]⟩]

end ArgRules.Text.CharacterName
