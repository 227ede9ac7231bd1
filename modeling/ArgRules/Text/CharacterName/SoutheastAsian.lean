import ArgRules.Text.CharacterName.Block

/-!
# Names of characters: the scripts from Myanmar to polytonic Greek

The names of the characters from U+1000 to U+1FFF in Unicode 14.0, in blocks of code points.
-/

namespace ArgRules.Text.CharacterName

/-- The names of the scripts from Myanmar to polytonic Greek. -/
def southeastAsian : List Block := [
  ⟨0x1000, [
    "MYANMAR LETTER KAbHAdGAbHAdNGAdCAbHAdJAbHAdNYAcNYAeTTAbHAeDDAbHAeNNAdTAbHAdDAbHAdNAcPAbHAdBA",
    "bHAdMAcYAcRAcLAcWAcSAcHAcLLAdAbSHAN AgIaIcUaUcEbMON EfObAUjVOWEL SIGN TALL AAhAAcIaIcUaUcEbA",
    "IcMON IIcOfE ABOVEsSIGN ANUSVARAiDOT BELOWjVISARGAfRAMAgASATjCONSONANT SIGN MEDIAL YAcRAcWAc",
    "HAyLETTER GREAT SApDIGIT ZEROeONEdTWOcHREEfFOURdIVEeSIXcEVENfEIGHTfNINEkSIGN LITTLE SECTIONo",
    "SECTIONlYMBOL LOCATIVEiCOMPLETEDjAFOREMENTIONEDoGENITIVEpLETTER SHAcSAdVOCALIC RaRcLaLrVOWEL",
    " SIGN VOCALIC RaRcLaLvLETTER MON NGAdJHAdBBAbEoCONSONANT SIGN MON MEDIAL NAcMAcLAc+LETTER SG",
    "AW KAREN SHAvVOWEL SIGN SGAW KAREN EUyTONE MARK SGAW KAREN HATHIfKE PHOb+LETTER WESTERN PWO ",
    "KAREN THAdPWAc+VOWEL SIGN WESTERN PWO KAREN EUcUEf+SIGN WESTERN PWO KAREN TONE-1b2b3b4b5d+LE",
    "TTER EASTERN PWO KAREN NNAdYWAdGHWAd+VOWEL SIGN GEBA KAREN ImKAYAH OEcUbEEtLETTER SHAN KAbHA",
    "dGAcCAcZAcNYAdDAcNAcPHAdFAcBAcTHAdHAoCONSONANT SIGN SHAN MEDIAL WAd+VOWEL SIGN SHAN AAcEa AB",
    "OVEhFINAL YxSIGN SHAN TONE-2b3b5b6gCOUNCIL TONE-2b3gEMPHATIC TONEf+LETTER RUMAI PALAUNG FAxS",
    "IGN RUMAI PALAUNG TONE-5yHAN DIGIT ZEROeONEdTWOcHREEfFOURdIVEeSIXcEVENfEIGHTfNINEoIGN KHAMTI",
    " TONE-1b3sVOWEL SIGN AITON AaItSYMBOL SHAN ONEdEXCLAMATIONf+GEORGIAN CAPITAL LETTER ANcBANdG",
    "ANdDONdENcVINdZENdTANdINcKANdLASdMANdNARdONcPARdZHAReRAEdSANdTARdUNcPHAReKHAReGHANeQARdSHINe",
    "CHINdANdJILdCILcHAReXANdJHANeHAEcEbIEdWEcHARcOEadYNaaaaacAENaasLETTER ANcBANdGANdDONdENcVINd",
    "ZENdTANdINcKANdLASdMANdNARdONcPARdZHAReRAEdSANdTARdUNcPHAReKHAReGHANeQARdSHINeCHINdANdJILdCI",
    "LcHAReXANdJHANeHAEcEbIEdWEcHARcOEdFIcYNcELIFIfTURNED GANkAINkPARAGRAPH SEPARATORc+MODIFIER L",
    "ETTER GEORGIAN NARc+GEORGIAN LETTER AENdHARD SIGNjLABIAL SIGNb+HANGUL CHOSEONG KIYEOKgSSANGK",
    "IYEOKlNIEUNfTIKEUTgSSANGTIKEUTlRIEULfMIEUMfPIEUPfSSANGPIEUPjIOSdSANGSIOSjIEUNGfCIEUCfSSANGCI",
    "EUCkCHIEUCHhKHIEUKHhTHIEUTHhPHIEUPHhHIEUHfNIEUN-KIYEOKmSSANGNIEUNkNIEUN-TIKEUTgPIEUPlTIKEUT-",
    "KIYEOKnRIEUL-NIEUNlSSANGRIEULkRIEUL-HIEUHlKAPYEOUNRIEULnMIEUM-PIEUPlKAPYEOUNMIEUMnPIEUP-KIYE",
    "OKgNIEUNfTIKEUTgSIOSa-KIYEOKgTIKEUTgPIEUPjSANGSIOSiIOS-CIEUCkCIEUCeHIEUCHhTHIEUTHhPHIEUPHnKA",
    "PYEOUNPIEUPfSSANGPIEUPsSIOS-KIYEOKgNIEUNfTIKEUTgRIEULfMIEUMfPIEUPa-KIYEOKmSSANGSIOSjIEUNGfCI",
    "EUCeHIEUCHhKHIEUKHhTHIEUTHhPHIEUPHhHIEUHkCHITUEUMSIOSdSANGSIOSqEONGCHIEUMSIOSdSANGSIOSuPANSI",
    "OShIEUNG-KIYEOKgTIKEUTgMIEUMfPIEUPfSIOSePANSIOSnSSANGIEUNGkIEUNG-CIEUCeHIEUCHhTHIEUTHhPHIEUP",
    "HnYESIEUNGiCIEUC-IEUNGkHITUEUMCIEUCfSSANGCIEUCrEONGCHIEUMCIEUCfSSANGCIEUCuHIEUCH-KHIEUKHhHIE",
    "UHkTUEUMCHIEUCHoEONGCHIEUMCHIEUCHsPHIEUPH-PIEUPnKAPYEOUNPHIEUPHpSSANGHIEUHkYEORINHIEUHlKIYEO",
    "K-TIKEUTnNIEUN-SIOSeCIEUCfHIEUHlTIKEUT-RIEULmFILLERpJUNGSEONG FILLERgAaEcYAaEdEObbYEObcObWAa",
    "EdOEcYOcUbWEObbIcYUcEUcYIcIbA-ObUdYA-ObYOfEO-ObUbEUfYEO-ObUfO-EObbYEcObUdYO-YAaEcEOdObIeU-Aa",
    "EcEO-EUfYEcUdYU-AbEObbYEObcUbIeEU-UbEUfYI-UeI-AbYAcObUbEUcARAEAhARAEAa-EOcUbIhSSANGARAEAkA-E",
    "UeYA-UdEO-YAgO-YAaEoONGSEONG KIYEOKgSSANGKIYEOKlKIYEOK-SIOSlNIEUNa-CIEUCfHIEUHlTIKEUTgRIEULa",
    "-KIYEOKgMIEUMfPIEUPfSIOSeTHIEUTHhPHIEUPHhHIEUHlMIEUMfPIEUPa-SIOSkSIOSdSANGSIOSjIEUNGfCIEUCeH",
    "IEUCHhKHIEUKHhTHIEUTHhPHIEUPHhHIEUHfKIYEOK-RIEULfSIOS-KIYEOKsNIEUN-KIYEOKgTIKEUTgSIOSePANSIO",
    "ShTHIEUTHnTIKEUT-KIYEOKgRIEULmRIEUL-KIYEOK-SIOSlNIEUNfTIKEUTa-HIEUHsSSANGRIEULkRIEUL-MIEUM-K",
    "IYEOKgSIOSkPIEUP-SIOSeHIEUHlKAPYEOUNPIEUPnSSANGSIOSjPANSIOShKHIEUKHhYEORINHIEUHrMIEUM-KIYEOK",
    "gRIEULfPIEUPfSIOSdSANGSIOSjPANSIOShCHIEUCHhHIEUHlKAPYEOUNMIEUMnPIEUP-RIEULfPHIEUPHhHIEUHlKAP",
    "YEOUNPIEUPnSIOS-KIYEOKgTIKEUTgRIEULfPIEUPkPANSIOShIEUNG-KIYEOKgSSANGKIYEOKrSSANGIEUNGkIEUNG-",
    "KHIEUKHnYESIEUNGa-SIOSePANSIOSqPHIEUPH-PIEUPnKAPYEOUNPHIEUPHpHIEUH-NIEUNfRIEULfMIEUMfPIEUPlY",
    "EORINHIEUHlKIYEOK-NIEUNfPIEUPfCHIEUCHhKHIEUKHhHIEUHmSSANGNIEUNb+ETHIOPIC SYLLABLE HAbUbIbAAc",
    "EEbbOaAdLAbUbIbAAcEEbbObWAdHHAbUbIbAAcEEbbObWAeMAbUbIbAAcEEbbObWAdSZAbUbIbAAcEEbbObWAeRAbUbI",
    "bAAcEEbbObWAdSAbUbIbAAcEEbbObWAcHAbUbIbAAcEEbbObWAeQAbUbIbAAcEEbbOaAcWAabIbAAcEEbaacHAbUbIbA",
    "AcEEbbOabWAabIbAAcEEbaaeBAbUbIbAAcEEbbObWAdVAbUbIbAAcEEbbObWAdTAbUbIbAAcEEbbObWAdCAbUbIbAAcE",
    "EbbObWAdXAbUbIbAAcEEbbOaAcWAabIbAAcEEbaadNAbUbIbAAcEEbbObWAcYAbUbIbAAcEEbbObWAeGLOTTAL AbUbI",
    "bAAcEEbbObWAkKAbUbIbAAcEEbbOaAcWAabIbAAcEEbaacXAbUbIbAAcEEbbOabWAabIbAAcEEbaaeWAbUbIbAAcEEbb",
    "OaAdPHARYNGEAL AbUbIbAAcEEbbOamZAbUbIbAAcEEbbObWAcHAbUbIbAAcEEbbObWAeYAbUbIbAAcEEbbOaAdDAbUb",
    "IbAAcEEbbObWAcDAbUbIbAAcEEbbObWAeJAbUbIbAAcEEbbObWAdGAbUbIbAAcEEbbOaAcWAabIbAAcEEbaacGAbUbIb",
    "AAcEEbbObWAAfTHAbUbIbAAcEEbbObWAeCHAbUbIbAAcEEbbObWAePHAbUbIbAAcEEbbObWAeTSAbUbIbAAcEEbbObWA",
    "dZAbUbIbAAcEEbbOaAeFAbUbIbAAcEEbbObWAdPAbUbIbAAcEEbbObWAdRYAdMYAdFYAaamCOMBINING GEMINATION ",
    "AND VOWEL LENGTH MARKg+VOWEL LENGTH MARKrGEMINATION MARKzSECTION MARKmWORDSPACEjFULL STOPjCO",
    "MMAfSEMICOLONjCOLONfPREFACE COLONnQUESTION MARKnPARAGRAPH SEPARATORtDIGIT ONEdTWOcHREEfFOURd",
    "IVEeSIXcEVENfEIGHTfNINEkNUMBER TENcWENTYfHIRTYgFORTYeIFTYfSIXTYeEVENTYhEIGHTYgNINETYgHUNDRED",
    "hTEN THOUSANDaaatSYLLABLE SEBATBEIT MWAnMWIbEEbdSEBATBEIT BWAnBWIbEEbdSEBATBEIT FWAnFWIbEEbd",
    "SEBATBEIT PWAnPWIbEEbmTONAL MARK YIZETfDERETfRIKRIKgSHORT RIKRIKmDIFATfKENATfCHIRETgHIDETfDE",
    "RET-HIDETlKURTaaaaaayCHEROKEE LETTER AbEbIbObUbVbGAcKAcGEbIbObUbVcHAbEbIbObUbVcLAbEbIbObUbVc",
    "MAbEbIbObUcNAcHNAdNAHcEbIbObUbVcQUAbEbIbObUbVdSAbaEbIbObUbVcDAcTAcDEcTEcDIcTIcDObUbVbLAdTLAb",
    "EbIbObUbVcSAbEbIbObUbVdWAbEbIbObUbVcYAbEbIbObUbVcMVaajSMALL LETTER YEbIbObUbVcMVaaxANADIAN S",
    "YLLABICS HYPHENgEbAAIdIaIcOaOcY-CREE OOjCARRIER EEcIjAaAcWEaST-CREE WElIbEST-CREE WIlIIcEST-",
    "CREE WIImObEST-CREE WOlOOcEST-CREE WOOnNASKAPI WOOlWAbEST-CREE WAlAAcEST-CREE WAAnNASKAPI WA",
    "AlAIcY-CREE WiGLOTTAL STOPmFINAL ACUTEfGRAVEfBOTTOM HALF RINGqTOP HALF RINGnRIGHT HALF RINGn",
    "NGeDOUBLE ACUTEfSHORT VERTICAL STROKESd+MIDDLE DOTkSHORT HORIZONTAL STROKExPLUSeDOWN TACKpEN",
    "cINcONcANcPEbAAIdIaIcOaOdY-CREE POOkCARRIER HEEcIkPAaAcWEdWEST-CREE PWEnPWIdWEST-CREE PWInPW",
    "IIeWEST-CREE PWIIoPWOdWEST-CREE PWOnPWOOeWEST-CREE PWOOoPWAdWEST-CREE PWAnPWAAeWEST-CREE PWA",
    "AoY-CREE PWAAlPbWEST-CREE PlCARRIER HjTEbAAIdIaIcOaOdY-CREE TOOkCARRIER DEEcIkTAaAcWEdWEST-C",
    "REE TWEnTWIdWEST-CREE TWInTWIIeWEST-CREE TWIIoTWOdWEST-CREE TWOnTWOOeWEST-CREE TWOOoTWAdWEST",
    "-CREE TWAnTWAAeWEST-CREE TWAAoNASKAPI TWAAmTaTEbIbObAdKEbAAIdIaIcOaOdY-CREE KOOkKAaAcWEdWEST",
    "-CREE KWEnKWIdWEST-CREE KWInKWIIeWEST-CREE KWIIoKWOdWEST-CREE KWOnKWOOeWEST-CREE KWOOoKWAdWE",
    "ST-CREE KWAnKWAAeWEST-CREE KWAAoNASKAPI KWAAmKaWcSOUTH-SLAVEY KEHcIHcOHcAHqCEbAAIdIaIcOaOdY-",
    "CREE COOkCAaAcWEdWEST-CREE CWEnCWIdWEST-CREE CWInCWIIeWEST-CREE CWIIoCWOdWEST-CREE CWOnCWOOe",
    "WEST-CREE CWOOoCWAdWEST-CREE CWAnCWAAeWEST-CREE CWAAoNASKAPI CWAAmCbSAYISI THjMEbAAIdIaIcOaO",
    "dY-CREE MOOkMAaAcWEdWEST-CREE MWEnMWIdWEST-CREE MWInMWIIeWEST-CREE MWIIoMWOdWEST-CREE MWOnMW",
    "OOeWEST-CREE MWOOoMWAdWEST-CREE MWAnMWAAeWEST-CREE MWAAoNASKAPI MWAAmMbWEST-CREE MlMHcATHAPA",
    "SCAN MmSAYISI MiNEbAAIdIaIcOaOdY-CREE NOOkNAaAcWEdWEST-CREE NWEnNWAdWEST-CREE NWAnNWAAeWEST-",
    "CREE NWAAoNASKAPI NWAAlbCARRIER NGkNHcLEbAAIdIaIcOaOdY-CREE LOOkLAaAcWEdWEST-CREE LWEnLWIdWE",
    "ST-CREE LWInLWIIeWEST-CREE LWIIoLWOdWEST-CREE LWOnLWOOeWEST-CREE LWOOoLWAdWEST-CREE LWAnLWAA",
    "eWEST-CREE LWAAoLbWEST-CREE LlMEDIAL LiSEbAAIdIaIcOaOdY-CREE SOOkSAaAcWEdWEST-CREE SWEnSWIdW",
    "EST-CREE SWInSWIIeWEST-CREE SWIIoSWOdWEST-CREE SWOnSWOOeWEST-CREE SWOOoSWAdWEST-CREE SWAnSWA",
    "AeWEST-CREE SWAAoNASKAPI SWAAmSbATHAPASCAN SmSWcBLACKFOOT SlMOOSE-CREE SKnNASKAPI SKWc-WcPWA",
    "dTWAdKWAdCWAmSHEbIaIcOaOcAaAcWEeWEST-CREE SHWEoSHWIeWEST-CREE SHWIoSHWIIfWEST-CREE SHWIIpSHW",
    "OeWEST-CREE SHWOoSHWOOfWEST-CREE SHWOOpSHWAeWEST-CREE SHWAoSHWAAfWEST-CREE SHWAApSHcYEbAAIdI",
    "aIcOaOc-CREE YOOjAaAcWEdWEST-CREE YWEnYWIdWEST-CREE YWInYWIIeWEST-CREE YWIIoYWOdWEST-CREE YW",
    "OnYWOOeWEST-CREE YWOOoYWAdWEST-CREE YWAnYWAAeWEST-CREE YWAAoNASKAPI YWAAmYbBIBLE-CREE YmWEST",
    "-CREE YlSAYISI YIjREb-CREE REjWEST-CREE LEmRAAIdIaIcOaOdWEST-CREE LOmRAaAdWEST-CREE LAmRWAAe",
    "WEST-CREE RWAAoRbWEST-CREE RlMEDIAL RiFEbAAIdIaIcOaOcAaAcWAAeWEST-CREE FWAAoFbTHEdN-CREE THE",
    "kTHIdN-CREE THIkTHIIeN-CREE THIIlTHOaOcAaAcWAAfWEST-CREE THWAApTHbTHEbIbObAbcYEbIbObAdNUNAVI",
    "K HEbIaIcOaOcAaAceUT HjHKcQAAIdIaIcOaOcAaAcbTLHEbIbObAeWEST-CREE REbIbObAmNGAAIdIaIcOaOcAaAc",
    "bNGdSAYISI SHEbIbObAkWOODS-CREE THEbIbObAbnLHIaIcOaOcAaAccTH-CREE THEbIaIcOaOcAaAckAIVILIK B",
    "jBLACKFOOT EbIbObAbWEbIbObAcNEbIbObAcKEbIbObAmSAYISI HEbIbObAjCARRIER GHUbObEaEcIbAdRUbObEaE",
    "cIbAcWUbObEaEcIbAcHWUbObEaEcIbAdTHUbObEaEcIbAcTUbObEaEcIbAdPUbObEaEcIbAbbGUbObEaEcIbAcKHUbOb",
    "EaEcIbAcKUbObEaEcIbAbcNUbObEaEcIbAcMUbObEaEcIbAcYUbObEaEcIbAcJUkSAYISI JUjCARRIER JObEaEcIkS",
    "AYISI JIjCARRIER JAbJUbObEaEcIbAdLUbObEaEcIbAcDLUbObEaEcIbAdLHUbObEaEcIbAdTLHUbObEaEcIbAcUbO",
    "bEaEcIbAdZUbObEaEcIbAbbINITIAL ZjDZUbObEaEcIbAdSUbObEaEcIbAbHUbObEaEcIbAbcTSUbObEaEcIbAdCHUb",
    "ObEaEcIbAdTTSUbObEaEcIbAlHI SIGNiFULL STOPjQAIdNGAIdNGIaIcOaOcAaAfWOODS-CREE THWEEcIaIcOaOcA",
    "aAfFINAL THtBLACKFOOT We+OGHAM SPACE MARKkLETTER BEITHfLUISeFEARNfSAILeNIONeUATHeDAIReTINNEf",
    "COLLdEIRTfMUINeGORTeNGEADALhSTRAIFgRUISeAILMeONNdURcEADHADHhIODHADHhEABHADHhORcUILLEANNiIFIN",
    "eEAMHANCHOLLlPEITHmFEATHER MARKmREVERSED FEATHER MARKaaab+RUNIC LETTER FEHU FEOH FE FoVbURUZ",
    " UR UjYRbbWbTHURISAZ THURS THORNuETHdANSUZ AhOS OeAC AdESCeLONG-BRANCH-OSS OrSHORT-TWIG-OSS ",
    "OqOaEbNcRAIDO RAD REID RqKAUNAfCENdKAUN KgGbENGdGEBO GYFU GkARdWUNJO WYNN WmHAGLAZ HgEGL HhL",
    "ONG-BRANCH-HAGALL HuSHORT-TWIG-HAGALL HtNAUDIZ NYD NAUD NrSHORT-TWIG-NAUD NrDOTTED-NiISAZ IS",
    " ISS InEbJERAN JhGERdLONG-BRANCH-AR AErSHORT-TWIG-AR ApIWAZ EOHiPERTHO PEORTH PpALGIZ EOLHXl",
    "SOWILO ShIGEL LONG-BRANCH-SOL SwHORT-TWIG-SOL SqCbZbTIWAZ TIR TYR TpSHORT-TWIG-TYR TqDbBERKA",
    "NAN BEORC BJARKAN BySHORT-TWIG-BJARKAN BuDOTTED-PiOPEN-PgEHWAZ EH EkMANNAZ MAN MmLONG-BRANCH",
    "-MADR MsSHORT-TWIG-MADR MrLAUKAZ LAGU LOGR LsDOTTED-LiINGWAZddDAGAZ DAEG DmOTHALAN ETHEL OpE",
    "ARdIORdCWEORTHgALCdEALCfSTANeLONG-BRANCH-YRoSHORT-TWIG-YRnICELANDIC-YRmQbXiSINGLE PUNCTUATIO",
    "NsMULTIPLE PUNCTUATIONuCROSS PUNCTUATIONrARLAUG SYMBOLnTVIMADUR SYMBOLpBELGTHOR SYMBOLpLETTE",
    "R KbSHcOOcFRANKS CASKET OScIScEHcACbESC"]⟩,
  ⟨0x1700, [
    "TAGALOG LETTER AbIbUbKAcGAcNGAdTAcDAcNAcPAcBAcMAcYAcRAcLAcWAcSAcHAjVOWEL SIGN IbUmSIGN VIRAM",
    "AgPAMUDPOD"]⟩,
  ⟨0x171F, [
    "TAGALOG LETTER ARCHAIC RAzHANUNOO LETTER AbIbUbKAcGAcNGAdTAcDAcNAcPAcBAcMAcYAcRAcLAcWAcSAcHA",
    "jVOWEL SIGN IbUmSIGN PAMUDPODvPHILIPPINE SINGLE PUNCTUATIONsDOUBLE PUNCTUATION"]⟩,
  ⟨0x1740, ["BUHID LETTER AbIbUbKAcGAcNGAdTAcDAcNAcPAcBAcMAcYAcRAcLAcWAcSAcHAjVOWEL SIGN IbU"]⟩,
  ⟨0x1760, ["TAGBANWA LETTER AbIbUbKAcGAcNGAdTAcDAcNAcPAcBAcMAcYAacLAcWAcSAajVOWEL SIGN IbU"]⟩,
  ⟨0x1780, [
    "KHMER LETTER KAbHAcObHOdNGOdCAbHAcObHOdNYOdDAcTTHAeDOcTTHOeNNOdTAbHAcObHOdNOcBAcPHAcObHOdMOc",
    "YOcROcLOcVOcSHAcSOcAcHAcLAcQAjINDEPENDENT VOWEL QAQbAcIaIcUaKbUaVeRYaYdLYaYdQEbAIcOO TYPE ON",
    "EdTWOlAUvVOWEL INHERENT AQbAlSIGN AAcIaIcYaYcUaUbAcOEcYAcIEcEbAEbIcOOcAUnSIGN NIKAHIThREAHMU",
    "KhYUUKALEAPINTUnMUUSIKATOANlTRIISAPhBANTOCgROBATfTOANDAKHIATlKAKABAThAHSDAfSAMYOK SANNYAnVIR",
    "IAMgCOENGfBATHAMASATkKHANeBARIYOOSANkCAMNUC PII KUUHpLEK TOOhBEYYALgPHNAEK MUANlKOOMUUTmCURR",
    "ENCY SYMBOL RIELuSIGN AVAKRAHASANYAmTTHACANaanDIGIT ZEROeONEdTWOcHREEfFOURdIVEeSIXcEVENfEIGH",
    "TfNINEaaaaaakSYMBOL LEK ATTAK SONdMUOYePIIdBEIcUONePRAMa-MUOYePIIdBEIcUONaaaaaag+MONGOLIAN B",
    "IRGAfELLIPSISiCOMMAfFULL STOPjCOLONfFOUR DOTSjTODO SOFT HYPHENqSIBE SYLLABLE BOUNDARY MARKER",
    "d+MANCHU COMMAfFULL STOPqNIRUGUgFREE VARIATION SELECTOR ONEdTWOcHREEd+VOWEL SEPARATORpFREE V",
    "ARIATION SELECTOR FOURc+DIGIT ZEROeONEdTWOcHREEfFOURdIVEeSIXcEVENfEIGHTfNINEaaaaaakLETTER Ab",
    "EbIbObUbOEcUEcEEcNAcANGdBAcPAcQAcGAcMAcLAcSAbHAdTAcDAcCHAdJAcYAcRAcWAcFAcKAbHAdTSAdZAcHAAdZR",
    "AdLHAdZHIdCHIdTODO LONG VOWEL SIGNpEbIbObUbOEcUEcANGdBAcPAcQAcGAcMAcTAcDAcCHAdJAcTSAdYAcWAcK",
    "AcGAAdHAAdJIAdNIAdDZAiSIBE EbIaYcUEbbANGdKAcGAcHAcPAcSHAdTAcDAcJAcFAcGAAdHAAdTSAdZAcRAAdCHAd",
    "ZHAiMANCHU IbKAcRAcFAcZHAkCHA WITH TWO DOTS"]⟩,
  ⟨0x1880, [
    "MONGOLIAN LETTER ALI GALI ANUSVARA ONEmVISARGA ONElDAMARUgUBADAMAhINVERTED UBADAMAqBALUDAgTH",
    "REE BALUDAmAbIbKAcNGAdCAcTTAbHAeDDAdNNAdTAcDAcPAbHAdSSAdZHAcAcAHlTODO ALI GALI TAcZHArMANCHU",
    " ALI GALI GHAdNGAdCAcJHAdTTAdDDHAeTAcDHAdSSAdCYAdZHAcAsALI GALI HALF UbYAqMANCHU ALI GALI BH",
    "AtALI GALI DAGALGAqMANCHU ALI GALI LHAaaaaak+CANADIAN SYLLABICS OYcAYbAYdWAYdPOYcAYcWOYeTAYd",
    "KAYcWAYeMAYdNOYcAYdLAYdSOYcAYcHOYcAYcWOYfYOYcAYdRAYdNWIdOJIBWAY NWIlNWIIeOJIBWAY NWIImNWOdOJ",
    "IBWAY NWOlNWOOeOJIBWAY NWOOmRWEEcIaIcOaOcAdOJIBWAY PbTbKbCbMbNbSaHkEASTERN WjWESTERN WjFINAL",
    " SMALL RINGkRAISED DOTqR-CREE RWEkWEST-CREE LOOcAAnTHWEbAdTHWEcOOcAAeLHWEcOOfSAYISI SHWEcOOe",
    "HOOkCARRIER GWUdDENE GEEiGAAcWAlSAYISI JUUkCARRIER JWAlBEAVER DENE LbRnCARRIER DENTAL S"]⟩,
  ⟨0x1900, [
    "LIMBU VOWEL-CARRIER LETTERuLETTER KAbHAdGAbHAdNGAdCAbHAdJAbHAdYANdTAbHAdDAbHAdNAcPAbHAdBAbHA",
    "dMAcYAcRAcLAcWAcSHAcSAcAcHAcGYANeTRAakVOWEL SIGN AbIbUbEEcAIcOOcAUcEbOmSUBJOINED LETTER YAcR",
    "AcWAaaaasMALL LETTER KAcNGAdANUSVARAiTAcNAcPAcMAcRAcLAoIGN MUKPHRENGjKEMPHRENGjSA-IaaaaeLOOa",
    "aaiEXCLAMATION MARKqQUESTION MARKnDIGIT ZEROeONEdTWOcHREEfFOURdIVEeSIXcEVENfEIGHTfNINEqTAI L",
    "E LETTER KAcXAcNGAdTSAdSAcYAcTAbHAdLAcPAbHAdMAcFAcVAcHAcQAcKHAdTSHAeNAcAbIbEEbHcUbOObbUEcEbA",
    "UEcIaacTONE-2b3b4b5b6"]⟩,
  ⟨0x1980, [
    "NEW TAI LUE LETTER HIGH QAhLOW QAgHIGH KAcXAcNGAiLOW KAcXAcNGAhHIGH TSAdSAcYAhLOW TSAdSAcYAg",
    "HIGH TAbHAdNAhLOW TAbHAdNAgHIGH PAbHAdMAhLOW PAbHAdMAgHIGH FAcVAcLAhLOW FAcVAcLAgHIGH HAcDAc",
    "BAhLOW HAcDAcBAgHIGH KVAdXVAiLOW KVAdXVAhHIGH SUAiLOW SUAaaaaoVOWEL SIGN VOWEL SHORTENERpAAc",
    "IIcUaUcEbAEcOaAcUEcAYbAYdUYcOYbAYdUEYdIYnLETTER FINAL VbNGbbMbKbDbBoTONE MARK-1b2aaaaaalDIGI",
    "T ZEROeONEdTWOcHREEfFOURdIVEeSIXcEVENfEIGHTfNINEkTHAM DIGIT ONEaaaoSIGN LAEaVvKHMER SYMBOL P",
    "ATHAMASATkMUOY KOETjPII KOETiBEI KOEThUON KOETjPRAM KOETf-MUOY KOETjPII KOETiBEI KOEThUON KO",
    "EToDAP KOETf-MUOY KOETjPII KOETiBEI KOEThUON KOETjPRAM KOETnTUTEYASATjMUOY ROCiPII ROChBEI R",
    "OCgUON ROCiPRAM ROCe-MUOY ROCiPII ROChBEI ROCgUON ROCnDAP ROCe-MUOY ROCiPII ROChBEI ROCgUON ",
    "ROCiPRAM ROCzBUGINESE LETTER KAcGAcNGAbKAePAcBAcMAbPAdTAcDAcNAbRAdCAcJAcNYAbCAeYAcRAcLAcVAcS",
    "AcAbHAjVOWEL SIGN IbUbEbObAEaanPALLAWAhEND OF SECTIONxTAI THAM LETTER HIGH KAbHAcXAiLOW KAbX",
    "AcHAhNGAdHIGH CAbHAiLOW CAcSAcCHAhNYAdRATAeHIGH RATHAkDAcLOW RATHAjRANAeHIGH TAbHAiLOW TAbHA",
    "hNAcBAcHIGH PAbHAdFAhLOW PAcFAcPHAhMAcLOW YAgHIGH YAhRAbUEdLAbUEdWAcHIGH SHAcSAcAcHAhLLAdAbL",
    "OW HAgIaIcUaUcEEcOOcLAEdGREAT SApCONSONANT SIGN MEDIAL RAcLAjLA TANG LAIa+SIGN MAI KANG LAIr",
    "CONSONANT SIGN FINAL NGAjLOW PAgHIGH RATHA OR LOW PAuMAcBAcSAarSIGN SAKOTkVOWEL SIGN AbMAI S",
    "AThAAcTALL AAhIaIcUEbUEcaUcOaA BELOWhYcEbAEcOOcAIcTHAM AIhOA ABOVEtSIGN MAI KANGiTONE-1b2gKH",
    "UEN TONE-3b4b5mRA HAAMhMAI SAMhKHUEN-LUE KARANaauCOMBINING CRYPTOGRAMMIC DOTb+HORA DIGIT ZER",
    "OeONEdTWOcHREEfFOURdIVEeSIXcEVENfEIGHTfNINEaaaaaapTHAM DIGIT ZEROeONEdTWOcHREEfFOURdIVEeSIXc",
    "EVENfEIGHTfNINEaaaaaapSIGN WIANGaWAAKjSAWANfKEOWeHOYdDOKMAIgREVERSED ROTATED RANAvMAI YAMOKj",
    "KAANaKUUhSATKAANaKUUkHANGeCAANGaatCOMBINING DOUBLED CIRCUMFLEX ACCENTyIAERESIS-RINGoINFINITY",
    "iDOWNWARDS ARROWpTRIPLE DOTkX-X BELOWjWIGGLY LINE BELOWrOPEN MARK BELOWpDOUBLE OPEN MARK BEL",
    "OWwLIGHT CENTRALIZATION STROKE BELOWh+STRONG CENTRALIZATION STROKE BELOWi+PARENTHESES ABOVEr",
    "DOUBLE PARENTHESES ABOVEyPARENTHESES BELOWfOVERLAYtLATIN SMALL LETTER W BELOWhTURNED W BELOW",
    "g+EFT PARENTHESIS ABOVE LEFTb+RIGHT PARENTHESIS ABOVE RIGHTd+LEFT PARENTHESIS BELOW LEFTb+RI",
    "GHT PARENTHESIS BELOW RIGHTd+SQUARE BRACKETS ABOVEvNUMBER SIGN ABOVErINVERTED DOUBLE ARCH AB",
    "OVEa+PLUS SIGN ABOVEpDOUBLE PLUS SIGN ABOVEfBELOWwTRIPLE ACUTE ACCENTtLATIN SMALL LETTER INS",
    "ULAR GbRbT"]⟩,
  ⟨0x1B00, [
    "BALINESE SIGN ULU RICEMfCANDRAkCECEKfSURANGgBISAHkLETTER AKARAa TEDUNGmIKARAa TEDUNGmUKARAa ",
    "TEDUNGmRA REPAa TEDUNGoLA LENGAa TEDUNGpEKARAfAIKARAgOKARAa TEDUNGmKAa MAHAPRANAmGAa GORAhNG",
    "AdCAa LACAhJAa JERAhNYAdTA LATIKfMURDA MAHAPRANAsDA MURDA ALPAPRANAjMAHAPRANAsNA RAMBATjTAa ",
    "TAWAhDAa MADUhNAcPAa KAPALiBAa KEMBANGkMAcYAcRAcLAcWAcSA SAGAcPAfcHAjSIGN REREKANmVOWEL SIGN",
    " TEDUNGgULUa SARIiSUKUa ILUTjRA REPAa TEDUNGoLA LENGAa TEDUNGpTALINGa REPAeTEDUNGgREPA TEDUN",
    "GsPEPETa TEDUNGxADEG ADEGjLETTER KAF SASAKiHOT SASAKkTZIR SASAKkEF SASAKiVE SASAKiZAL SASAKj",
    "ASYURA SASAKlRCHAIC JNYAaaatDIGIT ZEROeONEdTWOcHREEfFOURdIVEeSIXcEVENfEIGHTfNINEkPANTIdMADAg",
    "WINDUfCARIK PAMUNGKAHjSIKIePARERENnPAMENENGiMUSICAL SYMBOL DONGdENGdUNGdANGa SURANGkINGdAENG",
    "eEUNGeAINGdNG GEDEjCOMBINING TEGEHfENDEPfKEMPULcLIgJEGOGANhKEMPUL WITH JEGOGANpLI WITH JEGOG",
    "ANtBENDEfGONGoRIGHT-HAND OPEN DUGcAGiCLOSED TUKcAKvLEFT-HAND OPEN PANGdUNGjCLOSED PLAKcUKlOP",
    "EN PINGi+PANTI LANTANGlMADA LANTANGaxSUNDANESE SIGN PANYECEKfGLAYARfWISADoLETTER AbIbUbAEcOb",
    "EaUcKAcQAcGAcNGAdCAcJAcZAcNYAdTAcDAcNAcPAcFAcVAcBAcMAcYAcRAcLAcWAcSAcXAcHAjCONSONANT SIGN PA",
    "MINGKALhNYAKRAeIKUwVOWEL SIGN PANGHULUfYUKUeAELAENGhOLONGgMEPETfNEULEUNGvSIGN PAMAAEHhVIRAMA",
    "lCONSONANT SIGN PASANGAN MAcWAa+LETTER KHAdSYAkDIGIT ZEROeONEdTWOcHREEfFOURdIVEeSIXcEVENfEIG",
    "HTfNINEkAVAGRAHAiLETTER REUdLEUdBHAdFINAL KbMyBATAK LETTER AbSIMALUNGUN AmHAcSIMALUNGUN HAnM",
    "ANDAILING HAnBAcKARO BAhPAcSIMALUNGUN PAnNAcMANDAILING NAnWAcSIMALUNGUN WAnPAKPAK WAjGAcSIMA",
    "LUNGUN GAnJAcDAcRAcSIMALUNGUN RAnMAcSIMALUNGUN MAmOUTHERN TAlNORTHERN TAlSAbIMALUNGUN SAnMAN",
    "DAILING SAnYAcSIMALUNGUN YAnNGAdLAcSIMALUNGUN LAnNYAdCAcNDAdMBAdIbUiSIGN TOMPIkVOWEL SIGN Eb",
    "PAKPAK EiEEcIbKARO IgObKARO OgUa FOR SIMALUNGUN SAe+CONSONANT SIGN NGcHqPANGOLATfONGONAN"]⟩,
  ⟨0x1BFC, [
    "BATAK SYMBOL BINDU NA METEKiPINARBORASkJUDULfPANGOLATb+LEPCHA LETTER KAbLAcHAdGAbLAdNGAdCAbH",
    "AdJAcNYAdTAbHAdDAcNAcPAbLAcHAdFAbLAdBAbLAdMAbLAdTSAbHAeDZAdYAcRAcLAcHAbLAdVAcSAbHAdWAcAiSUBJ",
    "OINED LETTER YAcRAtVOWEL SIGN AAcIbOaOcUaUcEmCONSONANT SIGN KbMbLbNbPbRbTbNYIN-DOhKANGtSIGN ",
    "RANdNUKTAaaakPUNCTUATION TA-ROLgNYET THYOOM TA-ROLsCER-WAgTSHOOK CER-WAhsDIGIT ZEROeONEdTWOc",
    "HREEfFOURdIVEeSIXcEVENfEIGHTfNINEaaakLETTER TTAbHAeDDArOL CHIKI DIGIT ZEROeONEdTWOcHREEfFOUR",
    "dIVEeSIXcEVENfEIGHTfNINEkLETTER LAcATbGbNGcLcLAAdAAKbJbMbWdLIcISbHbNYcRcLUcUCbDbNNcYcLEcEPbD",
    "DcNbRRdLOcOTTcBbVbHjMU TTUDDAGkGAAHLAA TTUDDAAGqMU-GAAHLAA TTUDDAAGtRELAAfPHAARKAAiAHADePUNC",
    "TUATION MUCAADgDOUBLE MUCAADi+CYRILLIC SMALL LETTER ROUNDED VEkLONG-LEGGED DEoNARROW OiWIDE ",
    "EShTALL TEgHREE-LEGGED TEoALL HARD SIGNjYATiUNBLENDED UK"]⟩,
  ⟨0x1C90, [
    "GEORGIAN MTAVRULI CAPITAL LETTER ANcBANdGANdDONdENcVINdZENdTANdINcKANdLASdMANdNARdONcPARdZHA",
    "ReRAEdSANdTARdUNcPHAReKHAReGHANeQARdSHINeCHINdANdJILdCILcHAReXANdJHANeHAEcEbIEdWEcHARcOEdFIc",
    "YNcELIFIfTURNED GANkAINaacENdHARD SIGNjLABIAL SIGNs+SUNDANESE PUNCTUATION BINDU SURYAfPANGLO",
    "NGhURNAMAhCAKRAfLEU SATANGAlKA SATANGAkDA SATANGAkBA SATANGA"]⟩,
  ⟨0x1CD0, [
    "VEDIC TONE KARSHANAiSHARAfPRENKHAmSIGN NIHSHVASAjYAJURVEDIC MIDLINE SVARITAf+TONE YAJURVEDIC",
    " AGGRAVATED INDEPENDENT SVARITAe+INDEPENDENT SVARITAtKATHAKA INDEPENDENT SVARITAm+CANDRA BEL",
    "OWmYAJURVEDIC KATHAKA INDEPENDENT SVARITA SCHROEDERw+DOUBLE SVARITAoTRIPLE SVARITAoKATHAKA A",
    "NUDATTAqDOT BELOWjTWO DOTS BELOWnHREE DOTS BELOWqRIGVEDIC KASHMIRI INDEPENDENT SVARITAl+ATHA",
    "RVAVEDIC INDEPENDENT SVARITAl+SIGN VISARGA SVARITAhUDATTAoREVERSED VISARGA UDATTAxVISARGA AN",
    "UDATTAqREVERSED VISARGA ANUDATTAzVISARGA UDATTA WITH TAILqANUDATTA WITH TAILa+ANUSVARA ANTAR",
    "GOMUKHAmBAHIRGOMUKHAmVAMAGOMUKHAa WITH TAILe+TIRYAKgHEXIFORM LONG ANUSVARAwLONG ANUSVARAnRTH",
    "ANG LONG ANUSVARAuANUSVARA UBHAYATO MUKHAwRDHAVISARGAmROTATED ARDHAVISARGAzTONE CANDRA ABOVE",
    "rSIGN JIHVAMULIYAlUPADHMANIYAlATIKRAMAnTONE RING ABOVEkDOUBLE RING ABOVEwSIGN DOUBLE ANUSVAR",
    "A ANTARGOMUKHAaaaaan+LATIN LETTER SMALL CAPITAL AaExSMALL LETTER TURNED AEwLETTER SMALL CAPI",
    "TAL BARRED BiCbDbETHcwSMALL LETTER TURNED OPEN EgIvLETTER SMALL CAPITAL JbKbL WITH STROKEnMb",
    "REVERSED NkOaPEN Ob+SMALL LETTER SIDEWAYS OaPEN Of WITH STROKEwTURNED OEwLETTER SMALL CAPITA",
    "L OUxSMALL LETTER TOP HALF OkBOTTOM HALF Oa+LETTER SMALL CAPITAL PbREVERSED RkTURNED RhbUwSM",
    "ALL LETTER SIDEWAYS UbDIAERESIZED UnTURNED Me+LETTER SMALL CAPITAL VbWbZbEZHrVOICED LARYNGEA",
    "L SPIRANTyAINqGREEK LETTER SMALL CAPITAL GAMMAfLAMDAfPIcRHOdPSIe+CYRILLIC LETTER SMALL CAPIT",
    "AL ELg+MODIFIER LETTER CAPITAL AaEcBaARRED BiDbEbREVERSED EkGbHbIbJbKbLbMbNbREVERSED NkOaUcP",
    "bRbTbUbWjSMALL AbTURNED AiALPHAfTURNED AEjBbDbEbSCHWAfOPEN EgTURNED OPEN EnGbTURNED IiKbMbEN",
    "GdOaPEN OgTOP HALF OkBOTTOM HALF OnPbTbUbSIDEWAYS UkTURNED MiVbAINdBETAeGREEK GAMMAlDELTAfGR",
    "EEK PHIjCHIzLATIN SUBSCRIPT SMALL LETTER IbRbUbVe+GREEK SUBSCRIPT SMALL LETTER BETAeGAMMAfRH",
    "OdPHIdCHIg+LATIN SMALL LETTER UEcB WITH MIDDLE TILDEtD WITH MIDDLE TILDEtF WITH MIDDLE TILDE",
    "tM WITH MIDDLE TILDEtN WITH MIDDLE TILDEtP WITH MIDDLE TILDEtR WITH MIDDLE TILDEmFISHHOOK AN",
    "D MIDDLE TILDEg+S WITH MIDDLE TILDEtT WITH MIDDLE TILDEtZ WITH MIDDLE TILDEtTURNED Gb+MODIFI",
    "ER LETTER CYRILLIC ENb+LATIN SMALL LETTER INSULAR GjTH WITH STRIKETHROUGHc+CAPITAL LETTER I ",
    "WITH STROKEc+LETTER IOTA WITH STROKEqP WITH STROKEuCAPITAL LETTER U WITH STROKEc+LETTER UPSI",
    "LON WITH STROKEtB WITH PALATAL HOOKtD WITH PALATAL HOOKtF WITH PALATAL HOOKtG WITH PALATAL H",
    "OOKtK WITH PALATAL HOOKtL WITH PALATAL HOOKtM WITH PALATAL HOOKtN WITH PALATAL HOOKtP WITH P",
    "ALATAL HOOKtR WITH PALATAL HOOKtS WITH PALATAL HOOKtESH WITH PALATAL HOOKvV WITH PALATAL HOO",
    "KtX WITH PALATAL HOOKtZ WITH PALATAL HOOKtA WITH RETROFLEX HOOKuLPHA WITH RETROFLEX HOOKzD W",
    "ITH HOOK AND TAILuE WITH RETROFLEX HOOKvOPEN E WITH RETROFLEX HOOKa+REVERSED OPEN E WITH RET",
    "ROFLEX HOOKj+SCHWA WITH RETROFLEX HOOKzI WITH RETROFLEX HOOKvOPEN O WITH RETROFLEX HOOKa+ESH",
    " WITH RETROFLEX HOOKxU WITH RETROFLEX HOOKvEZH WITH RETROFLEX HOOKq+MODIFIER LETTER SMALL TU",
    "RNED ALPHAmCa WITH CURLlETHdREVERSED OPEN EpFbDOTLESS J WITH STROKEvSCRIPT GiTURNED HiI WITH",
    " STROKEmOTAeCAPITAL Ia WITH STROKEvJ WITH CROSSED-TAILtL WITH RETROFLEX HOOKoPALATAL HOOKtCA",
    "PITAL LjM WITH HOOKlTURNED M WITH LONG LEGwN WITH LEFT HOOKjRETROFLEX HOOKvCAPITAL NjBARRED ",
    "OiPHIdS WITH HOOKlESHdT WITH PALATAL HOOKtU BARePSILONhCAPITAL UjV WITH HOOKlTURNED ViZa WIT",
    "H RETROFLEX HOOKoCURLlEZHdTHETAb+COMBINING DOTTED GRAVE ACCENTmACUTE ACCENTtSNAKE BELOWkUSPE",
    "NSION MARKpMACRON-ACUTEmGRAVE-MACRONmMACRON-GRAVEmACUTE-MACRONmGRAVE-ACUTE-GRAVErACUTE-GRAVE",
    "-ACUTErLATIN SMALL LETTER R BELOWa+BREVE-MACRONmMACRON-BREVEmDOUBLE CIRCUMFLEX ABOVExOGONEK ",
    "ABOVEmZIGZAG BELOWmIS BELOWiUR ABOVEhS ABOVEiLATIN SMALL LETTER FLATTENED OPEN A ABOVEwAEbOb",
    "VcC CEDILLAjINSULAR DjETHdGoLETTER SMALL CAPITAL GwSMALL LETTER KbLoLETTER SMALL CAPITAL LbM",
    "wSMALL LETTER NoLETTER SMALL CAPITAL NbRwSMALL LETTER R ROTUNDAjSbLONG SgZbALPHAfBaETAeSCHWA",
    "fFbL WITH DOUBLE MIDDLE TILDEa+O WITH LIGHT CENTRALIZATION STROKEi+PbESHdU WITH LIGHT CENTRA",
    "LIZATION STROKEi+WbA WITH DIAERESISqO WITH DIAERESISqU WITH DIAERESISj+UP TACK ABOVEnKAVYKA ",
    "ABOVE RIGHTfLEFTrDOT ABOVE LEFToWIDE INVERTED BRIDGE BELOWa+DOT BELOW LEFTnELETION MARKmOUBL",
    "E INVERTED BREVE BELOWb+ALMOST EQUAL TO BELOWvLEFT ARROWHEAD ABOVEuRIGHT ARROWHEAD AND DOWN ",
    "ARROWHEAD BELOWy+LATIN CAPITAL LETTER A WITH RING BELOWg+SMALL LETTER A WITH RING BELOWe+CAP",
    "ITAL LETTER B WITH DOT ABOVEf+SMALL LETTER B WITH DOT ABOVEd+CAPITAL LETTER B WITH DOT BELOW",
    "f+SMALL LETTER B WITH DOT BELOWd+CAPITAL LETTER B WITH LINE BELOWg+SMALL LETTER B WITH LINE ",
    "BELOWe+CAPITAL LETTER C WITH CEDILLA AND ACUTEn+SMALL LETTER C WITH CEDILLA AND ACUTEl+CAPIT",
    "AL LETTER D WITH DOT ABOVEf+SMALL LETTER D WITH DOT ABOVEd+CAPITAL LETTER D WITH DOT BELOWf+",
    "SMALL LETTER D WITH DOT BELOWd+CAPITAL LETTER D WITH LINE BELOWg+SMALL LETTER D WITH LINE BE",
    "LOWe+CAPITAL LETTER D WITH CEDILLAd+SMALL LETTER D WITH CEDILLAb+CAPITAL LETTER D WITH CIRCU",
    "MFLEX BELOWm+SMALL LETTER D WITH CIRCUMFLEX BELOWk+CAPITAL LETTER E WITH MACRON AND GRAVEm+S",
    "MALL LETTER E WITH MACRON AND GRAVEk+CAPITAL LETTER E WITH MACRON AND ACUTEm+SMALL LETTER E ",
    "WITH MACRON AND ACUTEk+CAPITAL LETTER E WITH CIRCUMFLEX BELOWm+SMALL LETTER E WITH CIRCUMFLE",
    "X BELOWk+CAPITAL LETTER E WITH TILDE BELOWh+SMALL LETTER E WITH TILDE BELOWf+CAPITAL LETTER ",
    "E WITH CEDILLA AND BREVEn+SMALL LETTER E WITH CEDILLA AND BREVEl+CAPITAL LETTER F WITH DOT A",
    "BOVEf+SMALL LETTER F WITH DOT ABOVEd+CAPITAL LETTER G WITH MACRONc+SMALL LETTER G WITH MACRO",
    "Na+CAPITAL LETTER H WITH DOT ABOVEf+SMALL LETTER H WITH DOT ABOVEd+CAPITAL LETTER H WITH DOT",
    " BELOWf+SMALL LETTER H WITH DOT BELOWd+CAPITAL LETTER H WITH DIAERESISf+SMALL LETTER H WITH ",
    "DIAERESISd+CAPITAL LETTER H WITH CEDILLAd+SMALL LETTER H WITH CEDILLAb+CAPITAL LETTER H WITH",
    " BREVE BELOWh+SMALL LETTER H WITH BREVE BELOWf+CAPITAL LETTER I WITH TILDE BELOWh+SMALL LETT",
    "ER I WITH TILDE BELOWf+CAPITAL LETTER I WITH DIAERESIS AND ACUTEp+SMALL LETTER I WITH DIAERE",
    "SIS AND ACUTEn+CAPITAL LETTER K WITH ACUTEb+SMALL LETTER K WITH ACUTEzCAPITAL LETTER K WITH ",
    "DOT BELOWf+SMALL LETTER K WITH DOT BELOWd+CAPITAL LETTER K WITH LINE BELOWg+SMALL LETTER K W",
    "ITH LINE BELOWe+CAPITAL LETTER L WITH DOT BELOWf+SMALL LETTER L WITH DOT BELOWd+CAPITAL LETT",
    "ER L WITH DOT BELOW AND MACRONq+SMALL LETTER L WITH DOT BELOW AND MACRONo+CAPITAL LETTER L W",
    "ITH LINE BELOWg+SMALL LETTER L WITH LINE BELOWe+CAPITAL LETTER L WITH CIRCUMFLEX BELOWm+SMAL",
    "L LETTER L WITH CIRCUMFLEX BELOWk+CAPITAL LETTER M WITH ACUTEb+SMALL LETTER M WITH ACUTEzCAP",
    "ITAL LETTER M WITH DOT ABOVEf+SMALL LETTER M WITH DOT ABOVEd+CAPITAL LETTER M WITH DOT BELOW",
    "f+SMALL LETTER M WITH DOT BELOWd+CAPITAL LETTER N WITH DOT ABOVEf+SMALL LETTER N WITH DOT AB",
    "OVEd+CAPITAL LETTER N WITH DOT BELOWf+SMALL LETTER N WITH DOT BELOWd+CAPITAL LETTER N WITH L",
    "INE BELOWg+SMALL LETTER N WITH LINE BELOWe+CAPITAL LETTER N WITH CIRCUMFLEX BELOWm+SMALL LET",
    "TER N WITH CIRCUMFLEX BELOWk+CAPITAL LETTER O WITH TILDE AND ACUTEl+SMALL LETTER O WITH TILD",
    "E AND ACUTEj+CAPITAL LETTER O WITH TILDE AND DIAERESISp+SMALL LETTER O WITH TILDE AND DIAERE",
    "SISn+CAPITAL LETTER O WITH MACRON AND GRAVEm+SMALL LETTER O WITH MACRON AND GRAVEk+CAPITAL L",
    "ETTER O WITH MACRON AND ACUTEm+SMALL LETTER O WITH MACRON AND ACUTEk+CAPITAL LETTER P WITH A",
    "CUTEb+SMALL LETTER P WITH ACUTEzCAPITAL LETTER P WITH DOT ABOVEf+SMALL LETTER P WITH DOT ABO",
    "VEd+CAPITAL LETTER R WITH DOT ABOVEf+SMALL LETTER R WITH DOT ABOVEd+CAPITAL LETTER R WITH DO",
    "T BELOWf+SMALL LETTER R WITH DOT BELOWd+CAPITAL LETTER R WITH DOT BELOW AND MACRONq+SMALL LE",
    "TTER R WITH DOT BELOW AND MACRONo+CAPITAL LETTER R WITH LINE BELOWg+SMALL LETTER R WITH LINE",
    " BELOWe+CAPITAL LETTER S WITH DOT ABOVEf+SMALL LETTER S WITH DOT ABOVEd+CAPITAL LETTER S WIT",
    "H DOT BELOWf+SMALL LETTER S WITH DOT BELOWd+CAPITAL LETTER S WITH ACUTE AND DOT ABOVEp+SMALL",
    " LETTER S WITH ACUTE AND DOT ABOVEn+CAPITAL LETTER S WITH CARON AND DOT ABOVEp+SMALL LETTER ",
    "S WITH CARON AND DOT ABOVEn+CAPITAL LETTER S WITH DOT BELOW AND DOT ABOVEt+SMALL LETTER S WI",
    "TH DOT BELOW AND DOT ABOVEr+CAPITAL LETTER T WITH DOT ABOVEf+SMALL LETTER T WITH DOT ABOVEd+",
    "CAPITAL LETTER T WITH DOT BELOWf+SMALL LETTER T WITH DOT BELOWd+CAPITAL LETTER T WITH LINE B",
    "ELOWg+SMALL LETTER T WITH LINE BELOWe+CAPITAL LETTER T WITH CIRCUMFLEX BELOWm+SMALL LETTER T",
    " WITH CIRCUMFLEX BELOWk+CAPITAL LETTER U WITH DIAERESIS BELOWl+SMALL LETTER U WITH DIAERESIS",
    " BELOWj+CAPITAL LETTER U WITH TILDE BELOWh+SMALL LETTER U WITH TILDE BELOWf+CAPITAL LETTER U",
    " WITH CIRCUMFLEX BELOWm+SMALL LETTER U WITH CIRCUMFLEX BELOWk+CAPITAL LETTER U WITH TILDE AN",
    "D ACUTEl+SMALL LETTER U WITH TILDE AND ACUTEj+CAPITAL LETTER U WITH MACRON AND DIAERESISq+SM",
    "ALL LETTER U WITH MACRON AND DIAERESISo+CAPITAL LETTER V WITH TILDEb+SMALL LETTER V WITH TIL",
    "DEzCAPITAL LETTER V WITH DOT BELOWf+SMALL LETTER V WITH DOT BELOWd+CAPITAL LETTER W WITH GRA",
    "VEb+SMALL LETTER W WITH GRAVEzCAPITAL LETTER W WITH ACUTEb+SMALL LETTER W WITH ACUTEzCAPITAL",
    " LETTER W WITH DIAERESISf+SMALL LETTER W WITH DIAERESISd+CAPITAL LETTER W WITH DOT ABOVEf+SM",
    "ALL LETTER W WITH DOT ABOVEd+CAPITAL LETTER W WITH DOT BELOWf+SMALL LETTER W WITH DOT BELOWd",
    "+CAPITAL LETTER X WITH DOT ABOVEf+SMALL LETTER X WITH DOT ABOVEd+CAPITAL LETTER X WITH DIAER",
    "ESISf+SMALL LETTER X WITH DIAERESISd+CAPITAL LETTER Y WITH DOT ABOVEf+SMALL LETTER Y WITH DO",
    "T ABOVEd+CAPITAL LETTER Z WITH CIRCUMFLEXg+SMALL LETTER Z WITH CIRCUMFLEXe+CAPITAL LETTER Z ",
    "WITH DOT BELOWf+SMALL LETTER Z WITH DOT BELOWd+CAPITAL LETTER Z WITH LINE BELOWg+SMALL LETTE",
    "R Z WITH LINE BELOWrH WITH LINE BELOWrT WITH DIAERESISqW WITH RING ABOVErY WITH RING ABOVErA",
    " WITH RIGHT HALF RINGwLONG S WITH DOT ABOVEiIAGONAL STROKEpHIGH STROKEk+CAPITAL LETTER SHARP",
    " SwSMALL LETTER DELTAsCAPITAL LETTER A WITH DOT BELOWf+SMALL LETTER A WITH DOT BELOWd+CAPITA",
    "L LETTER A WITH HOOK ABOVEg+SMALL LETTER A WITH HOOK ABOVEe+CAPITAL LETTER A WITH CIRCUMFLEX",
    " AND ACUTEq+SMALL LETTER A WITH CIRCUMFLEX AND ACUTEo+CAPITAL LETTER A WITH CIRCUMFLEX AND G",
    "RAVEq+SMALL LETTER A WITH CIRCUMFLEX AND GRAVEo+CAPITAL LETTER A WITH CIRCUMFLEX AND HOOK AB",
    "OVEv+SMALL LETTER A WITH CIRCUMFLEX AND HOOK ABOVEt+CAPITAL LETTER A WITH CIRCUMFLEX AND TIL",
    "DEq+SMALL LETTER A WITH CIRCUMFLEX AND TILDEo+CAPITAL LETTER A WITH CIRCUMFLEX AND DOT BELOW",
    "u+SMALL LETTER A WITH CIRCUMFLEX AND DOT BELOWs+CAPITAL LETTER A WITH BREVE AND ACUTEl+SMALL",
    " LETTER A WITH BREVE AND ACUTEj+CAPITAL LETTER A WITH BREVE AND GRAVEl+SMALL LETTER A WITH B",
    "REVE AND GRAVEj+CAPITAL LETTER A WITH BREVE AND HOOK ABOVEq+SMALL LETTER A WITH BREVE AND HO",
    "OK ABOVEo+CAPITAL LETTER A WITH BREVE AND TILDEl+SMALL LETTER A WITH BREVE AND TILDEj+CAPITA",
    "L LETTER A WITH BREVE AND DOT BELOWp+SMALL LETTER A WITH BREVE AND DOT BELOWn+CAPITAL LETTER",
    " E WITH DOT BELOWf+SMALL LETTER E WITH DOT BELOWd+CAPITAL LETTER E WITH HOOK ABOVEg+SMALL LE",
    "TTER E WITH HOOK ABOVEe+CAPITAL LETTER E WITH TILDEb+SMALL LETTER E WITH TILDEzCAPITAL LETTE",
    "R E WITH CIRCUMFLEX AND ACUTEq+SMALL LETTER E WITH CIRCUMFLEX AND ACUTEo+CAPITAL LETTER E WI",
    "TH CIRCUMFLEX AND GRAVEq+SMALL LETTER E WITH CIRCUMFLEX AND GRAVEo+CAPITAL LETTER E WITH CIR",
    "CUMFLEX AND HOOK ABOVEv+SMALL LETTER E WITH CIRCUMFLEX AND HOOK ABOVEt+CAPITAL LETTER E WITH",
    " CIRCUMFLEX AND TILDEq+SMALL LETTER E WITH CIRCUMFLEX AND TILDEo+CAPITAL LETTER E WITH CIRCU",
    "MFLEX AND DOT BELOWu+SMALL LETTER E WITH CIRCUMFLEX AND DOT BELOWs+CAPITAL LETTER I WITH HOO",
    "K ABOVEg+SMALL LETTER I WITH HOOK ABOVEe+CAPITAL LETTER I WITH DOT BELOWf+SMALL LETTER I WIT",
    "H DOT BELOWd+CAPITAL LETTER O WITH DOT BELOWf+SMALL LETTER O WITH DOT BELOWd+CAPITAL LETTER ",
    "O WITH HOOK ABOVEg+SMALL LETTER O WITH HOOK ABOVEe+CAPITAL LETTER O WITH CIRCUMFLEX AND ACUT",
    "Eq+SMALL LETTER O WITH CIRCUMFLEX AND ACUTEo+CAPITAL LETTER O WITH CIRCUMFLEX AND GRAVEq+SMA",
    "LL LETTER O WITH CIRCUMFLEX AND GRAVEo+CAPITAL LETTER O WITH CIRCUMFLEX AND HOOK ABOVEv+SMAL",
    "L LETTER O WITH CIRCUMFLEX AND HOOK ABOVEt+CAPITAL LETTER O WITH CIRCUMFLEX AND TILDEq+SMALL",
    " LETTER O WITH CIRCUMFLEX AND TILDEo+CAPITAL LETTER O WITH CIRCUMFLEX AND DOT BELOWu+SMALL L",
    "ETTER O WITH CIRCUMFLEX AND DOT BELOWs+CAPITAL LETTER O WITH HORN AND ACUTEk+SMALL LETTER O ",
    "WITH HORN AND ACUTEi+CAPITAL LETTER O WITH HORN AND GRAVEk+SMALL LETTER O WITH HORN AND GRAV",
    "Ei+CAPITAL LETTER O WITH HORN AND HOOK ABOVEp+SMALL LETTER O WITH HORN AND HOOK ABOVEn+CAPIT",
    "AL LETTER O WITH HORN AND TILDEk+SMALL LETTER O WITH HORN AND TILDEi+CAPITAL LETTER O WITH H",
    "ORN AND DOT BELOWo+SMALL LETTER O WITH HORN AND DOT BELOWm+CAPITAL LETTER U WITH DOT BELOWf+",
    "SMALL LETTER U WITH DOT BELOWd+CAPITAL LETTER U WITH HOOK ABOVEg+SMALL LETTER U WITH HOOK AB",
    "OVEe+CAPITAL LETTER U WITH HORN AND ACUTEk+SMALL LETTER U WITH HORN AND ACUTEi+CAPITAL LETTE",
    "R U WITH HORN AND GRAVEk+SMALL LETTER U WITH HORN AND GRAVEi+CAPITAL LETTER U WITH HORN AND ",
    "HOOK ABOVEp+SMALL LETTER U WITH HORN AND HOOK ABOVEn+CAPITAL LETTER U WITH HORN AND TILDEk+S",
    "MALL LETTER U WITH HORN AND TILDEi+CAPITAL LETTER U WITH HORN AND DOT BELOWo+SMALL LETTER U ",
    "WITH HORN AND DOT BELOWm+CAPITAL LETTER Y WITH GRAVEb+SMALL LETTER Y WITH GRAVEzCAPITAL LETT",
    "ER Y WITH DOT BELOWf+SMALL LETTER Y WITH DOT BELOWd+CAPITAL LETTER Y WITH HOOK ABOVEg+SMALL ",
    "LETTER Y WITH HOOK ABOVEe+CAPITAL LETTER Y WITH TILDEb+SMALL LETTER Y WITH TILDEzCAPITAL LET",
    "TER MIDDLE-WELSH LLe+SMALL LETTER MIDDLE-WELSH LLc+CAPITAL LETTER MIDDLE-WELSH Vd+SMALL LETT",
    "ER MIDDLE-WELSH Vb+CAPITAL LETTER Y WITH LOOPa+SMALL LETTER Y WITH LOOPe+GREEK SMALL LETTER ",
    "ALPHA WITH PSILIfDASIAfPSILI AND VARIApDASIA AND VARIApPSILI AND OXIAoDASIA AND OXIAoPSILI A",
    "ND PERISPOMENIvDASIA AND PERISPOMENIt+CAPITAL LETTER ALPHA WITH PSILIfDASIAfPSILI AND VARIAp",
    "DASIA AND VARIApPSILI AND OXIAoDASIA AND OXIAoPSILI AND PERISPOMENIvDASIA AND PERISPOMENIv+S",
    "MALL LETTER EPSILON WITH PSILIfDASIAfPSILI AND VARIApDASIA AND VARIApPSILI AND OXIAoDASIA AN",
    "D OXIAaao+CAPITAL LETTER EPSILON WITH PSILIfDASIAfPSILI AND VARIApDASIA AND VARIApPSILI AND ",
    "OXIAoDASIA AND OXIAaaq+SMALL LETTER ETA WITH PSILIfDASIAfPSILI AND VARIApDASIA AND VARIApPSI",
    "LI AND OXIAoDASIA AND OXIAoPSILI AND PERISPOMENIvDASIA AND PERISPOMENIr+CAPITAL LETTER ETA W",
    "ITH PSILIfDASIAfPSILI AND VARIApDASIA AND VARIApPSILI AND OXIAoDASIA AND OXIAoPSILI AND PERI",
    "SPOMENIvDASIA AND PERISPOMENIt+SMALL LETTER IOTA WITH PSILIfDASIAfPSILI AND VARIApDASIA AND ",
    "VARIApPSILI AND OXIAoDASIA AND OXIAoPSILI AND PERISPOMENIvDASIA AND PERISPOMENIs+CAPITAL LET",
    "TER IOTA WITH PSILIfDASIAfPSILI AND VARIApDASIA AND VARIApPSILI AND OXIAoDASIA AND OXIAoPSIL",
    "I AND PERISPOMENIvDASIA AND PERISPOMENIu+SMALL LETTER OMICRON WITH PSILIfDASIAfPSILI AND VAR",
    "IApDASIA AND VARIApPSILI AND OXIAoDASIA AND OXIAaao+CAPITAL LETTER OMICRON WITH PSILIfDASIAf",
    "PSILI AND VARIApDASIA AND VARIApPSILI AND OXIAoDASIA AND OXIAaaq+SMALL LETTER UPSILON WITH P",
    "SILIfDASIAfPSILI AND VARIApDASIA AND VARIApPSILI AND OXIAoDASIA AND OXIAoPSILI AND PERISPOME",
    "NIvDASIA AND PERISPOMENIav+CAPITAL LETTER UPSILON WITH DASIAaa AND VARIAafOXIAaePERISPOMENIx",
    "+SMALL LETTER OMEGA WITH PSILIfDASIAfPSILI AND VARIApDASIA AND VARIApPSILI AND OXIAoDASIA AN",
    "D OXIAoPSILI AND PERISPOMENIvDASIA AND PERISPOMENIt+CAPITAL LETTER OMEGA WITH PSILIfDASIAfPS",
    "ILI AND VARIApDASIA AND VARIApPSILI AND OXIAoDASIA AND OXIAoPSILI AND PERISPOMENIvDASIA AND ",
    "PERISPOMENIv+SMALL LETTER ALPHA WITH VARIAfOXIApEPSILON WITH VARIAfOXIAqTA WITH VARIAfOXIAnI",
    "OTA WITH VARIAfOXIAoOMICRON WITH VARIAfOXIArUPSILON WITH VARIAfOXIArOMEGA WITH VARIAfOXIAaap",
    "ALPHA WITH PSILI AND YPOGEGRAMMENIxDASIA AND YPOGEGRAMMENIxPSILI AND VARIA AND YPOGEGRAMMENI",
    "h+DASIA AND VARIA AND YPOGEGRAMMENIh+PSILI AND OXIA AND YPOGEGRAMMENIg+DASIA AND OXIA AND YP",
    "OGEGRAMMENIg+PSILI AND PERISPOMENI AND YPOGEGRAMMENIn+DASIA AND PERISPOMENI AND YPOGEGRAMMEN",
    "Il++CAPITAL LETTER ALPHA WITH PSILI AND PROSGEGRAMMENIyDASIA AND PROSGEGRAMMENIyPSILI AND VA",
    "RIA AND PROSGEGRAMMENIi+DASIA AND VARIA AND PROSGEGRAMMENIi+PSILI AND OXIA AND PROSGEGRAMMEN",
    "Ih+DASIA AND OXIA AND PROSGEGRAMMENIh+PSILI AND PERISPOMENI AND PROSGEGRAMMENIo+DASIA AND PE",
    "RISPOMENI AND PROSGEGRAMMENIo++SMALL LETTER ETA WITH PSILI AND YPOGEGRAMMENIxDASIA AND YPOGE",
    "GRAMMENIxPSILI AND VARIA AND YPOGEGRAMMENIh+DASIA AND VARIA AND YPOGEGRAMMENIh+PSILI AND OXI",
    "A AND YPOGEGRAMMENIg+DASIA AND OXIA AND YPOGEGRAMMENIg+PSILI AND PERISPOMENI AND YPOGEGRAMME",
    "NIn+DASIA AND PERISPOMENI AND YPOGEGRAMMENIj++CAPITAL LETTER ETA WITH PSILI AND PROSGEGRAMME",
    "NIyDASIA AND PROSGEGRAMMENIyPSILI AND VARIA AND PROSGEGRAMMENIi+DASIA AND VARIA AND PROSGEGR",
    "AMMENIi+PSILI AND OXIA AND PROSGEGRAMMENIh+DASIA AND OXIA AND PROSGEGRAMMENIh+PSILI AND PERI",
    "SPOMENI AND PROSGEGRAMMENIo+DASIA AND PERISPOMENI AND PROSGEGRAMMENIm++SMALL LETTER OMEGA WI",
    "TH PSILI AND YPOGEGRAMMENIxDASIA AND YPOGEGRAMMENIxPSILI AND VARIA AND YPOGEGRAMMENIh+DASIA ",
    "AND VARIA AND YPOGEGRAMMENIh+PSILI AND OXIA AND YPOGEGRAMMENIg+DASIA AND OXIA AND YPOGEGRAMM",
    "ENIg+PSILI AND PERISPOMENI AND YPOGEGRAMMENIn+DASIA AND PERISPOMENI AND YPOGEGRAMMENIl++CAPI",
    "TAL LETTER OMEGA WITH PSILI AND PROSGEGRAMMENIyDASIA AND PROSGEGRAMMENIyPSILI AND VARIA AND ",
    "PROSGEGRAMMENIi+DASIA AND VARIA AND PROSGEGRAMMENIi+PSILI AND OXIA AND PROSGEGRAMMENIh+DASIA",
    " AND OXIA AND PROSGEGRAMMENIh+PSILI AND PERISPOMENI AND PROSGEGRAMMENIo+DASIA AND PERISPOMEN",
    "I AND PROSGEGRAMMENIo++SMALL LETTER ALPHA WITH VRACHYgMACRONgVARIA AND YPOGEGRAMMENIxYPOGEGR",
    "AMMENInOXIA AND YPOGEGRAMMENIawPERISPOMENIa AND YPOGEGRAMMENIb++CAPITAL LETTER ALPHA WITH VR",
    "ACHYgMACRONgVARIAfOXIAePROSGEGRAMMENIo+KORONIShPROSGEGRAMMENInSILIeERISPOMENIlDIALYTIKA AND ",
    "PERISPOMENIzSMALL LETTER ETA WITH VARIA AND YPOGEGRAMMENIxYPOGEGRAMMENInOXIA AND YPOGEGRAMME",
    "NIawPERISPOMENIa AND YPOGEGRAMMENIz+CAPITAL LETTER EPSILON WITH VARIAfOXIAqTA WITH VARIAfOXI",
    "AePROSGEGRAMMENIm+PSILI AND VARIAfOXIAePERISPOMENIvSMALL LETTER IOTA WITH VRACHYgMACRONgDIAL",
    "YTIKA AND VARIAfOXIAaasPERISPOMENIlDIALYTIKA AND PERISPOMENIw+CAPITAL LETTER IOTA WITH VRACH",
    "YgMACRONgVARIAfOXIAad+DASIA AND VARIAfOXIAePERISPOMENIvSMALL LETTER UPSILON WITH VRACHYgMACR",
    "ONgDIALYTIKA AND VARIAfOXIAf+RHO WITH PSILIfDASIAoUPSILON WITH PERISPOMENIlDIALYTIKA AND PER",
    "ISPOMENIz+CAPITAL LETTER UPSILON WITH VRACHYgMACRONgVARIAfOXIArRHO WITH DASIAd+DIALYTIKA AND",
    " VARIAfOXIAsVARIAaafSMALL LETTER OMEGA WITH VARIA AND YPOGEGRAMMENIxYPOGEGRAMMENInOXIA AND Y",
    "POGEGRAMMENIawPERISPOMENIa AND YPOGEGRAMMENIb++CAPITAL LETTER OMICRON WITH VARIAfOXIApEGA WI",
    "TH VARIAfOXIAePROSGEGRAMMENIo+OXIAeDASIA"]⟩]

end ArgRules.Text.CharacterName
