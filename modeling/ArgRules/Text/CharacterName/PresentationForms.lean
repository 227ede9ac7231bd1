import ArgRules.Text.CharacterName.Block

/-!
# Names of characters: forms of letters in compound scripts

The names of the characters from U+AC00 to U+FFFF in Unicode 14.0, in blocks of code points.
-/

namespace ArgRules.Text.CharacterName

/-- The names of forms of letters in compound scripts. -/
def presentationForms : List Block := [
  ⟨0xD7B0, [
    "HANGUL JUNGSEONG O-YEOdO-IfYO-AaEcEOfU-YEOdI-IfYU-AEcOeEU-AbEObbOeI-YA-OcEcEObcO-IdYObUcIdAR",
    "AEA-AbEaaaaqONGSEONG NIEUN-RIEULfCHIEUCHnSSANGTIKEUTa-PIEUPrTIKEUT-PIEUPfSIOSa-KIYEOKlCIEUCe",
    "HIEUCHhTHIEUTHoRIEUL-SSANGKIYEOKlKIYEOK-HIEUHsSSANGRIEUL-KHIEUKHsRIEUL-MIEUM-HIEUHlPIEUP-TIK",
    "EUTgPHIEUPHnYESIEUNGgORINHIEUH-HIEUHxKAPYEOUNRIEULnMIEUM-NIEUNfSSANGNIEUNqSSANGMIEUMkMIEUM-P",
    "IEUP-SIOSkCIEUClPIEUP-TIKEUTgRIEUL-PHIEUPHnMIEUMlSSANGPIEUPkPIEUP-SIOS-TIKEUTlCIEUCeHIEUCHnS",
    "IOS-MIEUMfKAPYEOUNPIEUPrSANGSIOS-KIYEOKgTIKEUTpIOS-PANSIOShCIEUCeHIEUCHhTHIEUTHhHIEUHkPANSIO",
    "S-PIEUPfKAPYEOUNPIEUPvYESIEUNG-MIEUMfHIEUHoCIEUC-PIEUPfSSANGPIEUPqSSANGCIEUCkPHIEUPH-SIOSeTH",
    "IEUTH"]⟩,
  ⟨0xFB00, ["LATIN SMALL LIGATURE FFbIbLbFIbLdLONG S TiST"]⟩,
  ⟨0xFB13, [
    "ARMENIAN SMALL LIGATURE MEN NOWdECHdINIhVEW NOWhMEN XEHaaaaaf+HEBREW LETTER YOD WITH HIRIQvP",
    "OINT JUDEO-SPANISH VARIKAa+LIGATURE YIDDISH YOD YOD PATAHd+ETTER ALTERNATIVE AYINqWIDE ALEFe",
    "DALETfHEcKAFdLAMEDfFINAL MEMjRESHeTAViALTERNATIVE PLUS SIGNvSHIN WITH SHIN DOThIN DOThDAGESH",
    " AND SHIN DOThIN DOTc+ALEF WITH PATAHfQAMATSgMAPIQpBET WITH DAGESHpGIMEL WITH DAGESHrDALET W",
    "ITH DAGESHrHE WITH MAPIQnVAV WITH DAGESHpZAYIN WITH DAGESHarTET WITH DAGESHpYOD WITH DAGESHp",
    "FINAL KAF WITH DAGESHvKAF WITH DAGESHpLAMED WITH DAGESHarMEM WITH DAGESHapNUN WITH DAGESHpSA",
    "MEKH WITH DAGESHasFINAL PE WITH DAGESHuPE WITH DAGESHaoTSADI WITH DAGESHrQOF WITH DAGESHpRES",
    "H WITH DAGESHqSHIN WITH DAGESHqTAV WITH DAGESHpVAV WITH HOLAMoBET WITH RAFEnKAF WITH RAFEnPE",
    " WITH RAFEsIGATURE ALEF LAMEDa+ARABIC LETTER ALEF WASLA ISOLATED FORMnFINAL FORMvBEEH ISOLAT",
    "ED FORMnFINAL FORMkINITIAL FORMmMEDIAL FORMqPEH ISOLATED FORMnFINAL FORMkINITIAL FORMmMEDIAL",
    " FORMpBEHEH ISOLATED FORMnFINAL FORMkINITIAL FORMmMEDIAL FORMrTTEHEH ISOLATED FORMnFINAL FOR",
    "MkINITIAL FORMmMEDIAL FORMrEHEH ISOLATED FORMnFINAL FORMkINITIAL FORMmMEDIAL FORMqTEH ISOLAT",
    "ED FORMnFINAL FORMkINITIAL FORMmMEDIAL FORMqVEH ISOLATED FORMnFINAL FORMkINITIAL FORMmMEDIAL",
    " FORMpPEHEH ISOLATED FORMnFINAL FORMkINITIAL FORMmMEDIAL FORMrDYEH ISOLATED FORMnFINAL FORMk",
    "INITIAL FORMmMEDIAL FORMqNYEH ISOLATED FORMnFINAL FORMkINITIAL FORMmMEDIAL FORMqTCHEH ISOLAT",
    "ED FORMnFINAL FORMkINITIAL FORMmMEDIAL FORMmEH ISOLATED FORMnFINAL FORMkINITIAL FORMmMEDIAL ",
    "FORMtDDAHAL ISOLATED FORMnFINAL FORMqAHAL ISOLATED FORMnFINAL FORMpUL ISOLATED FORMnFINAL FO",
    "RMnDAL ISOLATED FORMnFINAL FORMpJEH ISOLATED FORMnFINAL FORMoRREH ISOLATED FORMnFINAL FORMpK",
    "EHEH ISOLATED FORMnFINAL FORMkINITIAL FORMmMEDIAL FORMrGAF ISOLATED FORMnFINAL FORMkINITIAL ",
    "FORMmMEDIAL FORMoUEH ISOLATED FORMnFINAL FORMkINITIAL FORMmMEDIAL FORMqNGOEH ISOLATED FORMnF",
    "INAL FORMkINITIAL FORMmMEDIAL FORMqOON GHUNNA ISOLATED FORMnFINAL FORMwRNOON ISOLATED FORMnF",
    "INAL FORMkINITIAL FORMmMEDIAL FORMrHEH WITH YEH ABOVE ISOLATED FORMnFINAL FORMzGOAL ISOLATED",
    " FORMnFINAL FORMkINITIAL FORMmMEDIAL FORMqDOACHASHMEE ISOLATED FORMnFINAL FORMkINITIAL FORMm",
    "MEDIAL FORMb+YEH BARREE ISOLATED FORMnFINAL FORMkWITH HAMZA ABOVE ISOLATED FORMnFINAL FORMt+",
    "SYMBOL DOT ABOVEfBELOWjTWO DOTS ABOVEfBELOWnHREE DOTS ABOVEfBELOWfPOINTING DOWNWARDS ABOVEfB",
    "ELOWj+FOUR DOTS ABOVEfBELOWpDOUBLE VERTICAL BAR BELOWzTWO DOTS VERTICALLY ABOVEfBELOWzRINGeS",
    "MALL TAH ABOVEfBELOWpWASLA ABOVE"]⟩,
  ⟨0xFBD3, [
    "ARABIC LETTER NG ISOLATED FORMnFINAL FORMkINITIAL FORMmMEDIAL FORMoU ISOLATED FORMnFINAL FOR",
    "MmOE ISOLATED FORMnFINAL FORMnYU ISOLATED FORMnFINAL FORMnU WITH HAMZA ABOVE ISOLATED FORMg+",
    "VE ISOLATED FORMnFINAL FORMnKIRGHIZ OE ISOLATED FORMnFINAL FORMnYU ISOLATED FORMnFINAL FORMv",
    "E ISOLATED FORMnFINAL FORMkINITIAL FORMmMEDIAL FORMnUIGHUR KAZAKH KIRGHIZ ALEF MAKSURA INITI",
    "AL FORMmMEDIAL FORMa++IGATURE YEH WITH HAMZA ABOVE WITH ALEF ISOLATED FORMnFINAL FORMoE ISOL",
    "ATED FORMnFINAL FORMnWAW ISOLATED FORMnFINAL FORMoU ISOLATED FORMnFINAL FORMmOE ISOLATED FOR",
    "MnFINAL FORMnYU ISOLATED FORMnFINAL FORMnE ISOLATED FORMnFINAL FORMkINITIAL FORMo+UIGHUR KIR",
    "GHIZ YEH WITH HAMZA ABOVE WITH ALEF MAKSURA ISOLATED FORMnFINAL FORMkINITIAL FORMw++ETTER FA",
    "RSI YEH ISOLATED FORMnFINAL FORMkINITIAL FORMmMEDIAL FORMb+IGATURE YEH WITH HAMZA ABOVE WITH",
    " JEEM ISOLATED FORMsHAH ISOLATED FORMrMEEM ISOLATED FORMsALEF MAKSURA ISOLATED FORMa+YEH ISO",
    "LATED FORMr+BEH WITH JEEM ISOLATED FORMsHAH ISOLATED FORMrKHAH ISOLATED FORMsMEEM ISOLATED F",
    "ORMsALEF MAKSURA ISOLATED FORMa+YEH ISOLATED FORMa+TEH WITH JEEM ISOLATED FORMsHAH ISOLATED ",
    "FORMrKHAH ISOLATED FORMsMEEM ISOLATED FORMsALEF MAKSURA ISOLATED FORMa+YEH ISOLATED FORMzHEH",
    " WITH JEEM ISOLATED FORMsMEEM ISOLATED FORMsALEF MAKSURA ISOLATED FORMa+YEH ISOLATED FORMb+J",
    "EEM WITH HAH ISOLATED FORMrMEEM ISOLATED FORMc+HAH WITH JEEM ISOLATED FORMsMEEM ISOLATED FOR",
    "Mb+KHAH WITH JEEM ISOLATED FORMsHAH ISOLATED FORMrMEEM ISOLATED FORMc+SEEN WITH JEEM ISOLATE",
    "D FORMsHAH ISOLATED FORMrKHAH ISOLATED FORMsMEEM ISOLATED FORMb+AD WITH HAH ISOLATED FORMrME",
    "EM ISOLATED FORMb+DAD WITH JEEM ISOLATED FORMsHAH ISOLATED FORMrKHAH ISOLATED FORMsMEEM ISOL",
    "ATED FORMb+TAH WITH HAH ISOLATED FORMrMEEM ISOLATED FORMb+ZAH WITH MEEM ISOLATED FORMb+AIN W",
    "ITH JEEM ISOLATED FORMsMEEM ISOLATED FORMb+GHAIN WITH JEEM ISOLATED FORMsMEEM ISOLATED FORMd",
    "+FEH WITH JEEM ISOLATED FORMsHAH ISOLATED FORMrKHAH ISOLATED FORMsMEEM ISOLATED FORMsALEF MA",
    "KSURA ISOLATED FORMa+YEH ISOLATED FORMa+QAF WITH HAH ISOLATED FORMrMEEM ISOLATED FORMsALEF M",
    "AKSURA ISOLATED FORMa+YEH ISOLATED FORMa+KAF WITH ALEF ISOLATED FORMsJEEM ISOLATED FORMsHAH ",
    "ISOLATED FORMrKHAH ISOLATED FORMsLAM ISOLATED FORMrMEEM ISOLATED FORMsALEF MAKSURA ISOLATED ",
    "FORMa+YEH ISOLATED FORMa+LAM WITH JEEM ISOLATED FORMsHAH ISOLATED FORMrKHAH ISOLATED FORMsME",
    "EM ISOLATED FORMsALEF MAKSURA ISOLATED FORMa+YEH ISOLATED FORMa+MEEM WITH JEEM ISOLATED FORM",
    "sHAH ISOLATED FORMrKHAH ISOLATED FORMsMEEM ISOLATED FORMsALEF MAKSURA ISOLATED FORMa+YEH ISO",
    "LATED FORMb+NOON WITH JEEM ISOLATED FORMsHAH ISOLATED FORMrKHAH ISOLATED FORMsMEEM ISOLATED ",
    "FORMsALEF MAKSURA ISOLATED FORMa+YEH ISOLATED FORMb+HEH WITH JEEM ISOLATED FORMsMEEM ISOLATE",
    "D FORMsALEF MAKSURA ISOLATED FORMa+YEH ISOLATED FORMa+YEH WITH JEEM ISOLATED FORMsHAH ISOLAT",
    "ED FORMrKHAH ISOLATED FORMsMEEM ISOLATED FORMsALEF MAKSURA ISOLATED FORMa+YEH ISOLATED FORMa",
    "+THAL WITH SUPERSCRIPT ALEF ISOLATED FORMo+REH WITH SUPERSCRIPT ALEF ISOLATED FORMn+ALEF MAK",
    "SURA WITH SUPERSCRIPT ALEF ISOLATED FORMw+SHADDA WITH DAMMATAN ISOLATED FORMwKASRATAN ISOLAT",
    "ED FORMwFATHA ISOLATED FORMtDAMMA ISOLATED FORMtKASRA ISOLATED FORMtSUPERSCRIPT ALEF ISOLATE",
    "D FORMq+YEH WITH HAMZA ABOVE WITH REH FINAL FORMoZAIN FINAL FORMpMEEM FINAL FORMpNOON FINAL ",
    "FORMpALEF MAKSURA FINAL FORMxYEH FINAL FORMo+BEH WITH REH FINAL FORMoZAIN FINAL FORMpMEEM FI",
    "NAL FORMpNOON FINAL FORMpALEF MAKSURA FINAL FORMxYEH FINAL FORMxTEH WITH REH FINAL FORMoZAIN",
    " FINAL FORMpMEEM FINAL FORMpNOON FINAL FORMpALEF MAKSURA FINAL FORMxYEH FINAL FORMwHEH WITH ",
    "REH FINAL FORMoZAIN FINAL FORMpMEEM FINAL FORMpNOON FINAL FORMpALEF MAKSURA FINAL FORMxYEH F",
    "INAL FORMyFEH WITH ALEF MAKSURA FINAL FORMxYEH FINAL FORMxQAF WITH ALEF MAKSURA FINAL FORMxY",
    "EH FINAL FORMxKAF WITH ALEF FINAL FORMpLAM FINAL FORMoMEEM FINAL FORMpALEF MAKSURA FINAL FOR",
    "MxYEH FINAL FORMxLAM WITH MEEM FINAL FORMpALEF MAKSURA FINAL FORMxYEH FINAL FORMxMEEM WITH A",
    "LEF FINAL FORMpMEEM FINAL FORMzNOON WITH REH FINAL FORMoZAIN FINAL FORMpMEEM FINAL FORMpNOON",
    " FINAL FORMpALEF MAKSURA FINAL FORMxYEH FINAL FORMyALEF MAKSURA WITH SUPERSCRIPT ALEF FINAL ",
    "FORMt+YEH WITH REH FINAL FORMoZAIN FINAL FORMpMEEM FINAL FORMpNOON FINAL FORMpALEF MAKSURA F",
    "INAL FORMxYEH FINAL FORMoHAMZA ABOVE WITH JEEM INITIAL FORMrHAH INITIAL FORMqKHAH INITIAL FO",
    "RMrMEEM INITIAL FORMrHEH INITIAL FORMq+BEH WITH JEEM INITIAL FORMrHAH INITIAL FORMqKHAH INIT",
    "IAL FORMrMEEM INITIAL FORMrHEH INITIAL FORMzTEH WITH JEEM INITIAL FORMrHAH INITIAL FORMqKHAH",
    " INITIAL FORMrMEEM INITIAL FORMrHEH INITIAL FORMyHEH WITH MEEM INITIAL FORMb+JEEM WITH HAH I",
    "NITIAL FORMqMEEM INITIAL FORMb+HAH WITH JEEM INITIAL FORMrMEEM INITIAL FORMa+KHAH WITH JEEM ",
    "INITIAL FORMrMEEM INITIAL FORMb+SEEN WITH JEEM INITIAL FORMrHAH INITIAL FORMqKHAH INITIAL FO",
    "RMrMEEM INITIAL FORMa+AD WITH HAH INITIAL FORMqKHAH INITIAL FORMrMEEM INITIAL FORMa+DAD WITH",
    " JEEM INITIAL FORMrHAH INITIAL FORMqKHAH INITIAL FORMrMEEM INITIAL FORMa+TAH WITH HAH INITIA",
    "L FORMzZAH WITH MEEM INITIAL FORMa+AIN WITH JEEM INITIAL FORMrMEEM INITIAL FORMa+GHAIN WITH ",
    "JEEM INITIAL FORMrMEEM INITIAL FORMc+FEH WITH JEEM INITIAL FORMrHAH INITIAL FORMqKHAH INITIA",
    "L FORMrMEEM INITIAL FORMa+QAF WITH HAH INITIAL FORMqMEEM INITIAL FORMa+KAF WITH JEEM INITIAL",
    " FORMrHAH INITIAL FORMqKHAH INITIAL FORMrLAM INITIAL FORMqMEEM INITIAL FORMa+LAM WITH JEEM I",
    "NITIAL FORMrHAH INITIAL FORMqKHAH INITIAL FORMrMEEM INITIAL FORMrHEH INITIAL FORMzMEEM WITH ",
    "JEEM INITIAL FORMrHAH INITIAL FORMqKHAH INITIAL FORMrMEEM INITIAL FORMb+NOON WITH JEEM INITI",
    "AL FORMrHAH INITIAL FORMqKHAH INITIAL FORMrMEEM INITIAL FORMrHEH INITIAL FORMa+HEH WITH JEEM",
    " INITIAL FORMrMEEM INITIAL FORMrSUPERSCRIPT ALEF INITIAL FORMm+YEH WITH JEEM INITIAL FORMrHA",
    "H INITIAL FORMqKHAH INITIAL FORMrMEEM INITIAL FORMrHEH INITIAL FORMpAMZA ABOVE WITH MEEM MED",
    "IAL FORMqHEH MEDIAL FORMp+BEH WITH MEEM MEDIAL FORMqHEH MEDIAL FORMyTEH WITH MEEM MEDIAL FOR",
    "MqHEH MEDIAL FORMxHEH WITH MEEM MEDIAL FORMqHEH MEDIAL FORMzSEEN WITH MEEM MEDIAL FORMqHEH M",
    "EDIAL FORMyHEEN WITH MEEM MEDIAL FORMqHEH MEDIAL FORMa+KAF WITH LAM MEDIAL FORMpMEEM MEDIAL ",
    "FORMzLAM WITH MEEM MEDIAL FORMzNOON WITH MEEM MEDIAL FORMqHEH MEDIAL FORMzYEH WITH MEEM MEDI",
    "AL FORMqHEH MEDIAL FORMySHADDA WITH FATHA MEDIAL FORMrDAMMA MEDIAL FORMrKASRA MEDIAL FORMd+T",
    "AH WITH ALEF MAKSURA ISOLATED FORMa+YEH ISOLATED FORMa+AIN WITH ALEF MAKSURA ISOLATED FORMa+",
    "YEH ISOLATED FORMa+GHAIN WITH ALEF MAKSURA ISOLATED FORMa+YEH ISOLATED FORMc+SEEN WITH ALEF ",
    "MAKSURA ISOLATED FORMa+YEH ISOLATED FORMa+HEEN WITH ALEF MAKSURA ISOLATED FORMa+YEH ISOLATED",
    " FORMc+HAH WITH ALEF MAKSURA ISOLATED FORMa+YEH ISOLATED FORMa+JEEM WITH ALEF MAKSURA ISOLAT",
    "ED FORMa+YEH ISOLATED FORMb+KHAH WITH ALEF MAKSURA ISOLATED FORMa+YEH ISOLATED FORMb+SAD WIT",
    "H ALEF MAKSURA ISOLATED FORMa+YEH ISOLATED FORMa+DAD WITH ALEF MAKSURA ISOLATED FORMa+YEH IS",
    "OLATED FORMa+SHEEN WITH JEEM ISOLATED FORMsHAH ISOLATED FORMrKHAH ISOLATED FORMsMEEM ISOLATE",
    "D FORMsREH ISOLATED FORMb+EEN WITH REH ISOLATED FORMa+AD WITH REH ISOLATED FORMa+DAD WITH RE",
    "H ISOLATED FORMa+TAH WITH ALEF MAKSURA FINAL FORMxYEH FINAL FORMxAIN WITH ALEF MAKSURA FINAL",
    " FORMxYEH FINAL FORMxGHAIN WITH ALEF MAKSURA FINAL FORMxYEH FINAL FORMzSEEN WITH ALEF MAKSUR",
    "A FINAL FORMxYEH FINAL FORMxHEEN WITH ALEF MAKSURA FINAL FORMxYEH FINAL FORMzHAH WITH ALEF M",
    "AKSURA FINAL FORMxYEH FINAL FORMxJEEM WITH ALEF MAKSURA FINAL FORMxYEH FINAL FORMyKHAH WITH ",
    "ALEF MAKSURA FINAL FORMxYEH FINAL FORMySAD WITH ALEF MAKSURA FINAL FORMxYEH FINAL FORMxDAD W",
    "ITH ALEF MAKSURA FINAL FORMxYEH FINAL FORMxSHEEN WITH JEEM FINAL FORMpHAH FINAL FORMoKHAH FI",
    "NAL FORMpMEEM FINAL FORMpREH FINAL FORMyEEN WITH REH FINAL FORMxAD WITH REH FINAL FORMxDAD W",
    "ITH REH FINAL FORMxSHEEN WITH JEEM INITIAL FORMrHAH INITIAL FORMqKHAH INITIAL FORMrMEEM INIT",
    "IAL FORMb+EEN WITH HEH INITIAL FORMzHEEN WITH HEH INITIAL FORMb+TAH WITH MEEM INITIAL FORMa+",
    "SEEN WITH JEEM MEDIAL FORMqHAH MEDIAL FORMpKHAH MEDIAL FORMzHEEN WITH JEEM MEDIAL FORMqHAH M",
    "EDIAL FORMpKHAH MEDIAL FORMb+TAH WITH MEEM MEDIAL FORMzZAH WITH MEEM MEDIAL FORMzALEF WITH F",
    "ATHATAN FINAL FORMkISOLATED FORMw+ORNATE LEFT PARENTHESISqRIGHT PARENTHESISyARABIC LIGATURE ",
    "RAHIMAHU ALLAAHnDI ALLAAHU ANHaAAcUMaAAdNNAuSALLALLAAHU ALAYHI WA-AALIHb+ALAYHI AS-SALAAMkM ",
    "AS-SALAAMkAA AS-SALAAMn AS-SALAATU WAS-SALAAMc+QUDDISA SIRRAHoSALLALLAHU ALAYHI WAAALIHEE WA",
    "-SALLAMl+ALAYHAA AS-SALAAMrTABAARAKA WA-TAAALAAuRAHIMAHUM ALLAAHqTEH WITH JEEM WITH MEEM INI",
    "TIAL FORMb+HAH WITH JEEM FINAL FORMkINITIAL FORMrMEEM INITIAL FORMa+KHAH WITH MEEM INITIAL F",
    "ORMb+MEEM WITH JEEM INITIAL FORMrHAH INITIAL FORMqKHAH INITIAL FORMk+JEEM WITH MEEM WITH HAH",
    " FINAL FORMkINITIAL FORMk+HAH WITH MEEM WITH YEH FINAL FORMoALEF MAKSURA FINAL FORMq+SEEN WI",
    "TH HAH WITH JEEM INITIAL FORMa+JEEM WITH HAH INITIAL FORMqALEF MAKSURA FINAL FORMh+MEEM WITH",
    " HAH FINAL FORMkINITIAL FORMqJEEM INITIAL FORMrMEEM FINAL FORMkINITIAL FORMk+AD WITH HAH WIT",
    "H HAH FINAL FORMkINITIAL FORMzMEEM WITH MEEM FINAL FORMh+HEEN WITH HAH WITH MEEM FINAL FORMk",
    "INITIAL FORMa+JEEM WITH YEH FINAL FORMyMEEM WITH KHAH FINAL FORMkINITIAL FORMrMEEM FINAL FOR",
    "MkINITIAL FORMm+DAD WITH HAH WITH ALEF MAKSURA FINAL FORMg+KHAH WITH MEEM FINAL FORMkINITIAL",
    " FORMk+TAH WITH MEEM WITH HAH FINAL FORMkINITIAL FORMqMEEM INITIAL FORMrYEH FINAL FORMh+AIN ",
    "WITH JEEM WITH MEEM FINAL FORMzMEEM WITH MEEM FINAL FORMkINITIAL FORMrALEF MAKSURA FINAL FOR",
    "Mq+GHAIN WITH MEEM WITH MEEM FINAL FORMpYEH FINAL FORMoALEF MAKSURA FINAL FORMs+FEH WITH KHA",
    "H WITH MEEM FINAL FORMkINITIAL FORMk+QAF WITH MEEM WITH HAH FINAL FORMoMEEM FINAL FORMi+LAM ",
    "WITH HAH WITH MEEM FINAL FORMpYEH FINAL FORMoALEF MAKSURA FINAL FORMg+JEEM WITH JEEM INITIAL",
    " FORMmFINAL FORMzKHAH WITH MEEM FINAL FORMkINITIAL FORMb+MEEM WITH HAH FINAL FORMkINITIAL FO",
    "RMj+MEEM WITH HAH WITH JEEM INITIAL FORMrMEEM INITIAL FORMrYEH FINAL FORMxJEEM WITH HAH INIT",
    "IAL FORMqMEEM INITIAL FORMb+KHAH WITH JEEM INITIAL FORMrMEEM INITIAL FORMaab+JEEM WITH KHAH ",
    "INITIAL FORMl+HEH WITH MEEM WITH JEEM INITIAL FORMrMEEM INITIAL FORMk+NOON WITH HAH WITH MEE",
    "M INITIAL FORMrALEF MAKSURA FINAL FORMg+JEEM WITH MEEM FINAL FORMkINITIAL FORMrALEF MAKSURA ",
    "FINAL FORMh+MEEM WITH YEH FINAL FORMoALEF MAKSURA FINAL FORMr+YEH WITH MEEM WITH MEEM FINAL ",
    "FORMkINITIAL FORMk+BEH WITH KHAH WITH YEH FINAL FORMh+TEH WITH JEEM WITH YEH FINAL FORMoALEF",
    " MAKSURA FINAL FORMh+KHAH WITH YEH FINAL FORMoALEF MAKSURA FINAL FORMh+MEEM WITH YEH FINAL F",
    "ORMoALEF MAKSURA FINAL FORMq+JEEM WITH MEEM WITH YEH FINAL FORMyHAH WITH ALEF MAKSURA FINAL ",
    "FORMg+MEEM WITH ALEF MAKSURA FINAL FORMr+SEEN WITH KHAH WITH ALEF MAKSURA FINAL FORMq+AD WIT",
    "H HAH WITH YEH FINAL FORMf+HEEN WITH HAH WITH YEH FINAL FORMi+DAD WITH HAH WITH YEH FINAL FO",
    "RMg+LAM WITH JEEM WITH YEH FINAL FORMyMEEM WITH YEH FINAL FORMh+YEH WITH HAH WITH YEH FINAL ",
    "FORMxJEEM WITH YEH FINAL FORMyMEEM WITH YEH FINAL FORMh+MEEM WITH MEEM WITH YEH FINAL FORMi+",
    "QAF WITH MEEM WITH YEH FINAL FORMh+NOON WITH HAH WITH YEH FINAL FORMh+QAF WITH MEEM WITH HAH",
    " INITIAL FORMj+LAM WITH HAH WITH MEEM INITIAL FORMj+AIN WITH MEEM WITH YEH FINAL FORMh+KAF W",
    "ITH MEEM WITH YEH FINAL FORMh+NOON WITH JEEM WITH HAH INITIAL FORMk+MEEM WITH KHAH WITH YEH ",
    "FINAL FORMi+LAM WITH JEEM WITH MEEM INITIAL FORMk+KAF WITH MEEM WITH MEEM FINAL FORMi+LAM WI",
    "TH JEEM WITH MEEM FINAL FORMi+NOON WITH JEEM WITH HAH FINAL FORMi+JEEM WITH HAH WITH YEH FIN",
    "AL FORMh+HAH WITH JEEM WITH YEH FINAL FORMh+MEEM WITH JEEM WITH YEH FINAL FORMi+FEH WITH MEE",
    "M WITH YEH FINAL FORMh+BEH WITH HAH WITH YEH FINAL FORMg+KAF WITH MEEM WITH MEEM INITIAL FOR",
    "Mk+AIN WITH JEEM WITH MEEM INITIAL FORMk+SAD WITH MEEM WITH MEEM INITIAL FORMj+EEN WITH KHAH",
    " WITH YEH FINAL FORMi+NOON WITH JEEM WITH YEH FINAL FORM"]⟩,
  ⟨0xFDCF, ["ARABIC LIGATURE SALAAMUHU ALAYNAA"]⟩,
  ⟨0xFDF0, [
    "ARABIC LIGATURE SALLA USED AS KORANIC STOP SIGN ISOLATED FORMt+QALA USED AS KORANIC STOP SIG",
    "N ISOLATED FORMs+ALLAH ISOLATED FORMsKBAR ISOLATED FORMtMOHAMMAD ISOLATED FORMwSALAM ISOLATE",
    "D FORMtRASOUL ISOLATED FORMuALAYHE ISOLATED FORMuWASALLAM ISOLATED FORMwSALLA ISOLATED FORMo",
    "LLAHOU ALAYHE WASALLAMb+JALLAJALALOUHOUf+RIAL SIGNjARABIC LIGATURE BISMILLAH AR-RAHMAN AR-RA",
    "HEEMd+SUBHAANAHU WA TAAALAAvAZZA WA JALLc+VARIATION SELECTOR-1b2b3b4b5b6b7b8b9b10b1b2b3b4b5b",
    "6vPRESENTATION FORM FOR VERTICAL COMMAfIDEOGRAPHIC COMMAfFULL STOPvCOLONfSEMICOLONjEXCLAMATI",
    "ON MARKqQUESTION MARKnLEFT WHITE LENTICULAR BRACKETd+RIGHT WHITE LENTICULAR BRAKCETe+HORIZON",
    "TAL ELLIPSISaaaaaay+COMBINING LIGATURE LEFT HALFjRIGHT HALFtDOUBLE TILDE LEFT HALFjRIGHT HAL",
    "FxMACRON LEFT HALFjRIGHT HALFrCONJOINING MACRONrLIGATURE LEFT HALF BELOWpRIGHT HALF BELOWzTI",
    "LDE LEFT HALF BELOWpRIGHT HALF BELOWwMACRON LEFT HALF BELOWpRIGHT HALF BELOWxCONJOINING MACR",
    "ON BELOWwYRILLIC TITLO LEFT HALFjRIGHT HALFj+PRESENTATION FORM FOR VERTICAL TWO DOT LEADERoE",
    "M DASHgN DASHhLOW LINEiWAVY LOW LINEnLEFT PARENTHESISqRIGHT PARENTHESISrLEFT CURLY BRACKETsR",
    "IGHT CURLY BRACKETtLEFT TORTOISE SHELL BRACKETb+RIGHT TORTOISE SHELL BRACKETc+LEFT BLACK LEN",
    "TICULAR BRACKETd+RIGHT BLACK LENTICULAR BRACKETe+LEFT DOUBLE ANGLE BRACKETzRIGHT DOUBLE ANGL",
    "E BRACKETa+LEFT ANGLE BRACKETsRIGHT ANGLE BRACKETtLEFT CORNER BRACKETtRIGHT CORNER BRACKETuL",
    "EFT WHITE CORNER BRACKETzRIGHT WHITE CORNER BRACKETf++SESAME DOTkWHITE SESAME DOTqPRESENTATI",
    "ON FORM FOR VERTICAL LEFT SQUARE BRACKETtRIGHT SQUARE BRACKETz+DASHED OVERLINEpCENTRELINE OV",
    "ERLINEtWAVY OVERLINEnDOUBLE WAVY OVERLINEtASHED LOW LINEpCENTRELINE LOW LINEtWAVY LOW LINEnS",
    "MALL COMMAfIDEOGRAPHIC COMMArFULL STOPajSEMICOLONjCOLONfQUESTION MARKnEXCLAMATION MARKpM DAS",
    "HhLEFT PARENTHESISqRIGHT PARENTHESISrLEFT CURLY BRACKETsRIGHT CURLY BRACKETtLEFT TORTOISE SH",
    "ELL BRACKETb+RIGHT TORTOISE SHELL BRACKETc+NUMBER SIGNlAMPERSANDiSTERISKiPLUS SIGNjHYPHEN-MI",
    "NUSmLESS-THAN SIGNoGREATER-THAN SIGNrEQUALS SIGNalREVERSE SOLIDUSpDOLLAR SIGNlPERCENT SIGNmC",
    "OMMERCIAL ATaaaatARABIC FATHATAN ISOLATED FORMwTATWEEL WITH FATHATAN ABOVEb+DAMMATAN ISOLATE",
    "D FORMwTAIL FRAGMENTnKASRATAN ISOLATED FORMawFATHA ISOLATED FORMnMEDIAL FORMrDAMMA ISOLATED ",
    "FORMnMEDIAL FORMrKASRA ISOLATED FORMnMEDIAL FORMrSHADDA ISOLATED FORMnMEDIAL FORMrUKUN ISOLA",
    "TED FORMnMEDIAL FORMrLETTER HAMZA ISOLATED FORMtALEF WITH MADDA ABOVE ISOLATED FORMnFINAL FO",
    "RMwHAMZA ABOVE ISOLATED FORMnFINAL FORMg+WAW WITH HAMZA ABOVE ISOLATED FORMnFINAL FORMf+ALEF",
    " WITH HAMZA BELOW ISOLATED FORMnFINAL FORMg+YEH WITH HAMZA ABOVE ISOLATED FORMnFINAL FORMkIN",
    "ITIAL FORMmMEDIAL FORMg+ALEF ISOLATED FORMnFINAL FORMpBEH ISOLATED FORMnFINAL FORMkINITIAL F",
    "ORMmMEDIAL FORMpTEH MARBUTA ISOLATED FORMnFINAL FORMsISOLATED FORMnFINAL FORMkINITIAL FORMmM",
    "EDIAL FORMoHEH ISOLATED FORMnFINAL FORMkINITIAL FORMmMEDIAL FORMqJEEM ISOLATED FORMnFINAL FO",
    "RMkINITIAL FORMmMEDIAL FORMqHAH ISOLATED FORMnFINAL FORMkINITIAL FORMmMEDIAL FORMpKHAH ISOLA",
    "TED FORMnFINAL FORMkINITIAL FORMmMEDIAL FORMqDAL ISOLATED FORMnFINAL FORMoTHAL ISOLATED FORM",
    "nFINAL FORMpREH ISOLATED FORMnFINAL FORMoZAIN ISOLATED FORMnFINAL FORMpSEEN ISOLATED FORMnFI",
    "NAL FORMkINITIAL FORMmMEDIAL FORMpHEEN ISOLATED FORMnFINAL FORMkINITIAL FORMmMEDIAL FORMqAD ",
    "ISOLATED FORMnFINAL FORMkINITIAL FORMmMEDIAL FORMpDAD ISOLATED FORMnFINAL FORMkINITIAL FORMm",
    "MEDIAL FORMpTAH ISOLATED FORMnFINAL FORMkINITIAL FORMmMEDIAL FORMpZAH ISOLATED FORMnFINAL FO",
    "RMkINITIAL FORMmMEDIAL FORMpAIN ISOLATED FORMnFINAL FORMkINITIAL FORMmMEDIAL FORMpGHAIN ISOL",
    "ATED FORMnFINAL FORMkINITIAL FORMmMEDIAL FORMrFEH ISOLATED FORMnFINAL FORMkINITIAL FORMmMEDI",
    "AL FORMpQAF ISOLATED FORMnFINAL FORMkINITIAL FORMmMEDIAL FORMpKAF ISOLATED FORMnFINAL FORMkI",
    "NITIAL FORMmMEDIAL FORMpLAM ISOLATED FORMnFINAL FORMkINITIAL FORMmMEDIAL FORMpMEEM ISOLATED ",
    "FORMnFINAL FORMkINITIAL FORMmMEDIAL FORMqNOON ISOLATED FORMnFINAL FORMkINITIAL FORMmMEDIAL F",
    "ORMqHEH ISOLATED FORMnFINAL FORMkINITIAL FORMmMEDIAL FORMpWAW ISOLATED FORMnFINAL FORMoALEF ",
    "MAKSURA ISOLATED FORMnFINAL FORMxYEH ISOLATED FORMnFINAL FORMkINITIAL FORMmMEDIAL FORMvIGATU",
    "RE LAM WITH ALEF WITH MADDA ABOVE ISOLATED FORMnFINAL FORMwHAMZA ABOVE ISOLATED FORMnFINAL F",
    "ORMqBELOW ISOLATED FORMnFINAL FORMb+ISOLATED FORMnFINAL FORMaao+ZERO WIDTH NO-BREAK SPACEazF",
    "ULLWIDTH EXCLAMATION MARKqQUOTATION MARKoNUMBER SIGNlDOLLAR SIGNlPERCENT SIGNmAMPERSANDiPOST",
    "ROPHEkLEFT PARENTHESISqRIGHT PARENTHESISrASTERISKiPLUS SIGNjCOMMAfHYPHEN-MINUSmFULL STOPjSOL",
    "IDUShDIGIT ZEROeONEdTWOcHREEfFOURdIVEeSIXcEVENfEIGHTfNINEkCOLONfSEMICOLONjLESS-THAN SIGNoEQU",
    "ALS SIGNlGREATER-THAN SIGNrQUESTION MARKnCOMMERCIAL ATnLATIN CAPITAL LETTER AbBbCbDbEbFbGbHb",
    "IbJbKbLbMbNbObPbQbRbSbTbUbVbWbXbYbZvEFT SQUARE BRACKETtREVERSE SOLIDUSoIGHT SQUARE BRACKETuC",
    "IRCUMFLEX ACCENTrLOW LINEiGRAVE ACCENTmLATIN SMALL LETTER AbBbCbDbEbFbGbHbIbJbKbLbMbNbObPbQb",
    "RbSbTbUbVbWbXbYbZtEFT CURLY BRACKETsVERTICAL LINEnRIGHT CURLY BRACKETtTILDEfLEFT WHITE PAREN",
    "THESISwRIGHT WHITE PARENTHESISh+HALFWIDTH IDEOGRAPHIC FULL STOPvLEFT CORNER BRACKETtRIGHT CO",
    "RNER BRACKETuIDEOGRAPHIC COMMArKATAKANA MIDDLE DOTkLETTER WOcSMALL AbIbUbEbObYAbUbOcTUq-HIRA",
    "GANA PROLONGED SOUND MARKe+ LETTER AbIbUbEbObKAbIbUbEbOcSAbIbUbEbOcTAbIbUbEbOcNAbIbUbEbOcHAb",
    "IbUbEbOcMAbIbUbEbOcYAbUbOcRAbIbUbEbOcWAcNiVOICED SOUND MARKrSEMI-VOICED SOUND MARKf+HANGUL F",
    "ILLERgLETTER KIYEOKgSSANGKIYEOKlKIYEOK-SIOSlNIEUNa-CIEUCfHIEUHlTIKEUTgSSANGTIKEUTlRIEULa-KIY",
    "EOKgMIEUMfPIEUPfSIOSeTHIEUTHhPHIEUPHhHIEUHlMIEUMfPIEUPfSSANGPIEUPkPIEUP-SIOSkSIOSdSANGSIOSjI",
    "EUNGfCIEUCfSSANGCIEUCkCHIEUCHhKHIEUKHhTHIEUTHhPHIEUPHhHIEUHaaafAaEcYAaEdEObaabYEObcObWAaEdOE",
    "aacYOcUbWEObbIcYUaacEUcYIcIaaazFULLWIDTH CENT SIGNjPOUND SIGNkNOT SIGNiMACRONgBROKEN BARkYEN",
    " SIGNiWON SIGNasHALFWIDTH FORMS LIGHT VERTICALuLEFTWARDS ARROWpUPWARDS ARROWnRIGHTWARDS ARRO",
    "WqDOWNWARDS ARROWpBLACK SQUAREmWHITE CIRCLE"]⟩,
  ⟨0xFFF9, [
    "INTERLINEAR ANNOTATION ANCHORgSEPARATORjTERMINATORh+OBJECT REPLACEMENT CHARACTERc+REPLACEMEN",
    "T CHARACTER"]⟩]

end ArgRules.Text.CharacterName
