import ArgRules.Text.CharacterName.Block

/-!
# Names of characters: the scripts from Arabic to Tibetan

The names of the characters from U+0600 to U+0FFF in Unicode 14.0, in blocks of code points.
-/

namespace ArgRules.Text.CharacterName

/-- The names of the scripts from Arabic to Tibetan. -/
def southAsian : List Block := [
  ⟨0x600, [
    "ARABIC NUMBER SIGNlSIGN SANAHkFOOTNOTE MARKERpSIGN SAFHAdMVATlNUMBER MARK ABOVEs-INDIC CUBE ",
    "ROOTjFOURTH ROOTs RAYe-INDIC PER MILLE SIGNkTEN THOUSAND SIGNh+FGHANI SIGNlRABIC COMMAfDATE ",
    "SEPARATORoPOETIC VERSE SIGNrSIGN MISRAfSALLALLAHOU ALAYHE WASSALLAMc+ALAYHE ASSALLAMpRAHMATU",
    "LLAH ALAYHEqDI ALLAHOU ANHUrTAKHALLUSnMALL HIGH TAHdLIGATURE ALEF WITH LAM WITH YEHf+ZAINjFA",
    "THAfDAMMAfKASRAkEMICOLONjLETTER MARKlEND OF TEXT MARKqTRIPLE DOT PUNCTUATION MARKb+QUESTION ",
    "MARKnLETTER KASHMIRI YEHmHAMZAfALEF WITH MADDA ABOVElHAMZA ABOVEvWAW WITH HAMZA ABOVEuALEF W",
    "ITH HAMZA BELOWvYEH WITH HAMZA ABOVEuALEFeBEHdTEH MARBUTAicHEHeJEEMeHAHdKHAHeDALdTHALeREHdZA",
    "INeSEENdHEENeADdDADdTAHdZAHdAINdGHAINfKEHEH WITH TWO DOTS ABOVEnHREE DOTS BELOWb+FARSI YEH W",
    "ITH INVERTED VkTWO DOTS ABOVEnHREE DOTS ABOVEm+TATWEELhLETTER FEHdQAFdKAFdLAMdMEEMeNOONeHEHd",
    "WAWdALEF MAKSURAmYEHkFATHATANiDAMMATANiKASRATANiFATHAfDAMMAfKASRAfSHADDAfUKUNfMADDAH ABOVEmH",
    "AMZA ABOVEfBELOWlSUBSCRIPT ALEFoINVERTED DAMMAoMARK NOON GHUNNAqZWARAKAYiVOWEL SIGN SMALL V ",
    "ABOVEnINVERTED SMALL V ABOVEwDOT BELOWuREVERSED DAMMAoFATHA WITH TWO DOTStWAVY HAMZA BELOWr-",
    "INDIC DIGIT ZEROeONEdTWOcHREEfFOURdIVEeSIXcEVENfEIGHTfNINEr PERCENT SIGNmDECIMAL SEPARATORrT",
    "HOUSANDS SEPARATORtFIVE POINTED STARrLETTER DOTLESS BEHdQAFlSUPERSCRIPT ALEFqALEF WASLAeITH ",
    "WAVY HAMZA ABOVEfBELOWa+HIGH HAMZAa ALEFeWAWoU WITH HAMZA ABOVEsHIGH HAMZA YEHoTTEHaEHgBEEHe",
    "TEH WITH RINGeTHREE DOTS ABOVE DOWNWARDSj+PEHdTEHEHfBEHEHfHAH WITH HAMZA ABOVElTWO DOTS VERT",
    "ICAL ABOVEg+NYEHeDYEHeHAH WITH THREE DOTS ABOVEzTCHEHaEHhDDALdAL WITH RINGeDOT BELOWa AND SM",
    "ALL TAHe+HALeDAHALfULcAL WITH THREE DOTS ABOVE DOWNWARDSa+FOUR DOTS ABOVEyRREHdEH WITH SMALL",
    " VhRINGeDOT BELOWjSMALL V BELOWnDOT BELOW AND DOT ABOVExTWO DOTS ABOVExJEHdREH WITH FOUR DOT",
    "S ABOVEySEEN WITH DOT BELOW AND DOT ABOVExTHREE DOTS BELOWa AND THREE DOTS ABOVEu+AD WITH TW",
    "O DOTS BELOWnHREE DOTS ABOVEzTAH WITH THREE DOTS ABOVEzAIN WITH THREE DOTS ABOVEzDOTLESS FEH",
    "lFEH WITH DOT MOVED BELOWlBELOWsVEHdFEH WITH THREE DOTS BELOWzPEHEHfQAF WITH DOT ABOVEjTHREE",
    " DOTS ABOVEzKEHEHfSWASH KAFjKAF WITH RINGeDOT ABOVEsNGcKAF WITH THREE DOTS BELOWzGAFa WITH R",
    "INGnNGOEHfGAF WITH TWO DOTS BELOWwUEHdAF WITH THREE DOTS ABOVEzLAM WITH SMALL VhDOT ABOVEjTH",
    "REE DOTS ABOVEfBELOWzNOON WITH DOT BELOWoGHUNNAlRNOONfNOON WITH RINGeTHREE DOTS ABOVEa+HEH D",
    "OACHASHMEEpTCHEH WITH DOT ABOVEuHEH WITH YEH ABOVEoGOALa WITH HAMZA ABOVEzTEH MARBUTA GOALqW",
    "AW WITH RINGnKIRGHIZ OEkOEcUbYUcKIRGHIZ YUkWAW WITH TWO DOTS ABOVExVEcFARSI YEHjYEH WITH TAI",
    "LeSMALL VqWAW WITH DOT ABOVEsEbYEH WITH THREE DOTS BELOWvBARREEa WITH HAMZA ABOVEi+FULL STOP",
    "jLETTER AEjSMALL HIGH LIGATURE SAD WITH LAM WITH ALEF MAKSURAe+QAF WITH LAM WITH ALEF MAKSUR",
    "An+MEEM INITIAL FORMrLAM ALEFiJEEMeTHREE DOTSkSEENpEND OF AYAHlSTART OF RUB EL HIZBtMALL HIG",
    "H ROUNDED ZEROmUPRIGHT RECTANGULAR ZEROyDOTLESS HEAD OF KHAHuMEEM ISOLATED FORMxLOW SEENiHIG",
    "H MADDAkWAWdYEHdHIGH YEHdNOONpPLACE OF SAJDAHpEMPTY CENTRE LOW STOPiHIGH STOPwROUNDED HIGH S",
    "TOP WITH FILLED CENTREk+SMALL LOW MEEMoLETTER DAL WITH INVERTED VtREH WITH INVERTED Vh+EXTEN",
    "DED ARABIC-INDIC DIGIT ZEROeONEdTWOcHREEfFOURdIVEeSIXcEVENfEIGHTfNINEg+ARABIC LETTER SHEEN W",
    "ITH DOT BELOWuDAD WITH DOT BELOWsGHAIN WITH DOT BELOWb+SIGN SINDHI AMPERSANDjPOSTPOSITION ME",
    "Nc+LETTER HEH WITH INVERTED Vh+SYRIAC END OF PARAGRAPHqSUPRALINEAR FULL STOPtBLINEAR FULL ST",
    "OPrPRALINEAR COLONpBLINEAR COLONpHORIZONTAL COLONqCOLON SKEWED LEFTeRIGHTsSUPRALINEAR COLON ",
    "SKEWED LEFTb+BLINEAR COLON SKEWED RIGHTc+CONTRACTIONlHARKLEAN OBELUSgMETOBELUSjASTERISCUSatA",
    "BBREVIATION MARKrLETTER ALAPHfSUPERSCRIPT ALAPHrBETHeGAMALa GARSHUNIoDALATHfOTLESS DALATH RI",
    "SHtHEcWAWdZAINeHETHeTETHa GARSHUNInYUDHa HEhKAPHeLAMADHgMIMdNUNdSEMKATHhFINAL SEMKATHnEbPEcR",
    "EVERSED PElSADHEfQAPHeRISHeSHINeTAWdPERSIAN BHETHfGHAMALgDHALATHwPTHAHA ABOVEfBELOWfDOTTEDnZ",
    "QAPHA ABOVEfBELOWfDOTTEDnRBASA ABOVEfBELOWlDOTTED ZLAMA HORIZONTALkANGULARuHBASA ABOVEfBELOW",
    "g-ESASA DOTTEDsESASA ABOVEfBELOWlRWAHAfFEMININE DOTmQUSHSHAYAjRUKKAKHAiTWO VERTICAL DOTS ABO",
    "VEfBELOWwHREE DOTS ABOVEfBELOWqOBLIQUE LINE ABOVEfBELOWsMUSICfBARREKHaahLETTER SOGDIAN ZHAIN",
    "fKHAPHfFEyARABIC LETTER BEH WITH THREE DOTS HORIZONTALLY BELOWd+DOT BELOW AND THREE DOTS ABO",
    "VEe+THREE DOTS POINTING UPWARDS BELOWa AND TWO DOTS ABOVEz+WO DOTS BELOW AND DOT ABOVEc+INVE",
    "RTED SMALL V BELOWwSMALL VqHAH WITH TWO DOTS ABOVEnHREE DOTS POINTING UPWARDS BELOWq+DAL WIT",
    "H TWO DOTS VERTICALLY BELOW AND SMALL TAHn+INVERTED SMALL V BELOWf+REH WITH STROKEpSEEN WITH",
    " FOUR DOTS ABOVEzAIN WITH TWO DOTS ABOVEnHREE DOTS POINTING DOWNWARDS ABOVEi+WO DOTS VERTICA",
    "LLY ABOVEi+FEH WITH TWO DOTS BELOWnHREE DOTS POINTING UPWARDS BELOWq+KEHEH WITH DOT ABOVEjTH",
    "REE DOTS ABOVEfPOINTING UPWARDS BELOWs+MEEM WITH DOT ABOVEfBELOWtNOON WITH TWO DOTS BELOWoSM",
    "ALL TAHdVrLAM WITH BARmREH WITH TWO DOTS VERTICALLY ABOVEzHAMZA ABOVEuSEEN WITH TWO DOTS VER",
    "TICALLY ABOVEj+HAH WITH SMALL ARABIC LETTER TAH BELOWfAND TWO DOTSt+SEEN WITH SMALL ARABIC L",
    "ETTER TAH AND TWO DOTSu+REH WITH SMALL ARABIC LETTER TAH AND TWO DOTSt+HAH WITH SMALL ARABIC",
    " LETTER TAH ABOVEm+ALEF WITH EXTENDED ARABIC-INDIC DIGIT TWO ABOVEiHREE ABOVEx+FARSI YEH WIT",
    "H EXTENDED ARABIC-INDIC DIGIT TWO ABOVEiHREE ABOVElFOUR BELOWb++WAW WITH EXTENDED ARABIC-IND",
    "IC DIGIT TWO ABOVEiHREE ABOVEw+YEH BARREE WITH EXTENDED ARABIC-INDIC DIGIT TWO ABOVEiHREE AB",
    "OVEd++HAH WITH EXTENDED ARABIC-INDIC DIGIT FOUR BELOWv+SEEN WITH EXTENDED ARABIC-INDIC DIGIT",
    " FOUR ABOVEm+INVERTED VuKAF WITH TWO DOTS ABOVEl+THAANA LETTER HAAdSHAVIYANIjNOONUfRAAdBAAdL",
    "HAVIYANIjKAAFUfALIFUfVAAVUfMEEMUfFAAFUfDHAALUgTHAAeLAAMUfGAAFUeNAVIYANIjSEENUfDAVIYANIiZAVIY",
    "ANIiTAVIYANIiYAAdPAVIYANIiJAVIYANIiCHAVIYANIjTTAAeHHAAeKHAAeTHAALUgZAAdSHEENUfAADHUgDAADHUgT",
    "OcZOcAINUeGHAINUgQAAFUfWAAVUmABAFILIgABAAFILIjIBIFILIhEEBEEFILIjUBUFILIhOOBOOFILIjEBEFILIgYB",
    "EYFILIjOBOFILIgABOAFILIjSUKUNfLETTER NAA"]⟩,
  ⟨0x7C0, [
    "NKO DIGIT ZEROeONEdTWOcHREEfFOURdIVEeSIXcEVENfEIGHTfNINEkLETTER AbEEcIbEbUbOObbDAGBASINNAkNb",
    "BAcPAcTAcJAcCHAdDAcRAbRAdSAcGBAdFAcKAcLAcNA WOLOSOjMAcNYAcAcHAcWAcYAcNYA WOLOSOkJONA JAcCHAd",
    "RAoCOMBINING SHORT HIGH TONEjLOW TONEiRISING TONErLONG DESCENDING TONEpHIGH TONEjLOW TONEiRI",
    "SING TONEqNASALIZATION MARKrDOUBLE DOT ABOVEa+HIGH TONE APOSTROPHEuLOW TONE APOSTROPHEtSYMBO",
    "L OO DENNENjGBAKURUNENrCOMMAfEXCLAMATION MARKqLAJANYALANaakDANTAYALANjOROME SIGNlTAMAN SIGNo",
    "SAMARITAN LETTER ALAFeBITdGAMANfDALATfIYcBAAdZENdITcTITdYUTdKAAFeLABATfMIMdNUNdSINGAAThINcFI",
    "cTSAADIYhQUFdRISHeSHANeTAAFlMARK INa-ALAFhOCCLUSIONjDAGESHkODIFIER LETTER EPENTHETIC YUTd+AR",
    "K EPENTHETIC YUTtVOWEL SIGN LONG EgEbOVERLONG AAlLONG AAhAAcOVERLONG AkLONG AgAmMODIFIER LET",
    "TER SHORT AxVOWEL SIGN SHORT AhLONG UgUmMODIFIER LETTER IrVOWEL SIGN LONG IgIbObSUKUNqMARK N",
    "EQUDAAaamPUNCTUATION NEQUDAAhAFSAAQfNGEDfBAUdATMAAUgSHIYYAALAAwABBREVIATION MARKrPUNCTUATION",
    " MELODIC QITSAnZIQAAfQITSAfZAEFeTURUeARKAANUhSOF MASHFAATmANNAAUac+MANDAIC LETTER HALQAfABbG",
    "bDbHcUSHENNAhAZcITcATTcKSAcbLbMbNbScINcAPbSZcQbRbSHcTcDUSHENNAiKADdAINkAFFRICATION MARKqVOCA",
    "LIZATION MARKrGEMINATION MARKaapPUNCTUATIONatSYRIAC LETTER MALAYALAM NGAdJAcNYAdTTAdNNAbNAeB",
    "HAdRAcLLAbLAeSSAaaaaab+ARABIC LETTER ALEF WITH ATTACHED FATHAfTOP RIGHT FATHAyRIGHT MIDDLE S",
    "TROKEtLEFT MIDDLE STROKEsATTACHED KASRAfBOTTOM RIGHT KASRAsROUND DOT ABOVEoIGHT ROUND DOTpLE",
    "FT ROUND DOToROUND DOT BELOWyDOT ABOVEjATTACHED TOP RIGHT FATHA AND DOT ABOVEm+RIGHT MIDDLE ",
    "STROKE AND DOT ABOVEh+ATTACHED BOTTOM RIGHT KASRA AND DOT ABOVEg+TOP RIGHT FATHA AND LEFT RI",
    "NGm+RIGHT MIDDLE STROKE AND LEFT RINGh+ATTACHED BOTTOM RIGHT KASRA AND LEFT RINGg+RIGHT HAMZ",
    "AlLEFT HAMZAk+TATWEEL WITH OVERSTRUCK HAMZAfWAWoTWO DOTS BELOWb+LETTER THIN YEHpBASELINE ROU",
    "ND DOTsRAISED ROUND DOTqLETTER NOON WITH INVERTED SMALL Va+HAH WITH INVERTED SMALL V BELOWf+",
    "TAH WITH DOT BELOWjTHREE DOTS BELOWzKEHEH WITH TWO DOTS VERTICALLY BELOWr+VERTICAL TAILanPOU",
    "ND MARK ABOVEpIASTRE MARK ABOVEaaaaaasSMALL HIGH WORD AL-JUZqLOW WORD ISHMAAMgMAALAgTASHEELw",
    "MADDA WAAJIBmSUPERSCRIPT ALEF MOKHASSASa+DOUBLED MADDAnHALF MADDA OVER MADDAvLETTER BEH WITH",
    " SMALL V BELOWnHAMZA ABOVEuJEEM WITH TWO DOTS ABOVEyTAH WITH TWO DOTS ABOVExFEH WITH DOT BEL",
    "OW AND THREE DOTS ABOVEn+QAF WITH DOT BELOWsLAM WITH DOUBLE BARtMEEM WITH THREE DOTS ABOVEa+",
    "YEH WITH TWO DOTS BELOW AND HAMZA ABOVElDOT ABOVEl+REH WITH LOOPnWAW WITH DOT WITHINtROHINGY",
    "A YEHmLOW ALEFiDAL WITH THREE DOTS BELOWzSAD WITH THREE DOTS BELOWzGAF WITH INVERTED STROKEy",
    "STRAIGHT WAWmZAIN WITH INVERTED V ABOVEa+AIN WITH THREE DOTS BELOWzKAF WITH DOT BELOWsQAF WI",
    "TH DOT BELOW AND NO DOTS ABOVEk+BEH WITH SMALL MEEM ABOVEzPEH WITH SMALL MEEM ABOVEzTEH WITH",
    " SMALL TEH ABOVEyREH WITH SMALL NOON ABOVEzYEH WITH TWO DOTS BELOW AND SMALL NOON ABOVEs+AFR",
    "ICAN FEHdQAFdNOONmPEH WITH SMALL VqTEH WITH SMALL VpTEH WITH SMALL VqCHEH WITH SMALL VsKEHEH",
    " WITH SMALL VsGHAIN WITH THREE DOTS ABOVEb+AFRICAN QAF WITH THREE DOTS ABOVEh+JEEM WITH THRE",
    "E DOTS ABOVEfBELOWa+LAM WITH SMALL ARABIC LETTER TAH ABOVEm+GRAFlSMALL FARSI YEHjHIGH FARSI ",
    "YEHjYEH BARREE WITH TWO DOTS BELOWe+WORD SAHiZAHoLARGE ROUND DOT ABOVEfBELOWvSUKUN BELOWlLAR",
    "GE CIRCLE BELOWmROUND DOT INSIDE CIRCLE BELOWj+SMALL LOW WAWhHIGH WORD AR-RUBlSADdAINdQAFdNO",
    "ON WITH KASRAuLOW NOON WITH KASRAtHIGH WORD ATH-THALATHAlS-SAJDAhN-NISFhSAKTAfQIFdWAQFAkFOOT",
    "NOTE MARKERpSIGN SAFHAvDISPUTED END OF AYAHuTURNED DAMMA BELOWsCURLY FATHAfDAMMAfKASRAfFATHA",
    "TANiDAMMATANiKASRATANoTONE ONE DOT ABOVEnTWO DOTS ABOVEoLOOP ABOVEkONE DOT BELOWnTWO DOTS BE",
    "LOWoLOOP BELOWpOPEN FATHATANiDAMMATANiKASRATANnSMALL HIGH WAWoFATHA WITH RINGeDOT ABOVEuKASR",
    "A WITH DOT BELOWuLEFT ARROWHEAD ABOVEuRIGHT ARROWHEAD ABOVEvLEFT ARROWHEAD BELOWuRIGHT ARROW",
    "HEAD BELOWvDOUBLE RIGHT ARROWHEAD ABOVEa WITH DOTl+RIGHT ARROWHEAD ABOVE WITH DOTe+DAMMA WIT",
    "H DOToMARK SIDEWAYS NOON GHUNNAg+DEVANAGARI SIGN INVERTED CANDRABINDUuCANDRABINDUlANUSVARAiV",
    "ISARGAmLETTER SHORT AhAaAcIaIcUaUcVOCALIC RbLjCANDRA EiSHORT EhEbAIcCANDRA OiSHORT OhObAUcKA",
    "bHAdGAbHAdNGAdCAbHAdJAbHAdNYAdTTAbHAeDDAbHAeNNAdTAbHAdDAbHAdNAbNNAePAbHAdBAbHAdMAcYAcRAbRAdL",
    "AbLAbLAeVAcSHAcSAcAcHAjVOWEL SIGN OEbOEoSIGN NUKTAfAVAGRAHAnVOWEL SIGN AAcIaIcUaUcVOCALIC Ra",
    "RkCANDRA EiSHORT EhEbAIcCANDRA OiSHORT OhObAUnSIGN VIRAMAlVOWEL SIGN PRISHTHAMATRA EpAWnOMcS",
    "TRESS SIGN UDATTAgANUDATTAuGRAVE ACCENTmACUTE ACCENTmVOWEL SIGN CANDRA LONG EnUEbUEoLETTER Q",
    "AcKHHAeGHHAeZAcDDDHAfRHAdFAcYYAdVOCALIC RRcLLrVOWEL SIGN VOCALIC LaLvDANDAeOUBLE DANDAlIGIT ",
    "ZEROeONEdTWOcHREEfFOURdIVEeSIXcEVENfEIGHTfNINEkABBREVIATION SIGNrSIGN HIGH SPACING DOTvLETTE",
    "R CANDRA AiOEbOEdAWcUEbUEdMARWARI DDAlZHAdHEAVY YAiGGAdJJAdGLOTTAL STOPmDDDAeBBAvBENGALI ANJ",
    "IeSIGN CANDRABINDUlANUSVARAiVISARGAamLETTER AaAcIaIcUaUcVOCALIC RbLaajEbAIaacObAUcKAbHAdGAbH",
    "AdNGAdCAbHAdJAbHAdNYAdTTAbHAeDDAbHAeNNAdTAbHAdDAbHAdNAacPAbHAdBAbHAdMAcYAcRAacLAaaacSHAcSAcA",
    "cHAaajSIGN NUKTAfAVAGRAHAnVOWEL SIGN AAcIaIcUaUcVOCALIC RaRaakEbAIaacObAUnSIGN VIRAMAlLETTER",
    " KHANDA TA"]⟩,
  ⟨0x9D7, [
    "BENGALI AU LENGTH MARKaaaaoLETTER RRAcHAadYYAdVOCALIC RRcLLrVOWEL SIGN VOCALIC LaLaavDIGIT Z",
    "EROeONEdTWOcHREEfFOURdIVEeSIXcEVENfEIGHTfNINEkLETTER RA WITH MIDDLE DIAGONALpLOWER DIAGONALd",
    "+RUPEE MARKeSIGNkCURRENCY NUMERATOR ONEdTWOcHREEfFOUReONE LESS THAN THE DENOMINATORn+DENOMIN",
    "ATOR SIXTEENc+ISSHARgGANDA MARKkLETTER VEDIC ANUSVARAvABBREVIATION SIGNrSANDHI MARKaatGURMUK",
    "HI SIGN ADAK BINDIkBINDIfVISARGAamLETTER AaAcIaIcUaUaaaacEEcAIaacOOcAUcKAbHAdGAbHAdNGAdCAbHA",
    "dJAbHAdNYAdTTAbHAeDDAbHAeNNAdTAbHAdDAbHAdNAacPAbHAdBAbHAdMAcYAcRAacLAbLAadVAcSHAacAcHAaajSIG",
    "N NUKTAakVOWEL SIGN AAcIaIcUaUaaaacEEcAIaacOOcAUnSIGN VIRAMAaaagUDAAT"]⟩,
  ⟨0xA59, ["GURMUKHI LETTER KHHAeGHHAeZAcRRAadFA"]⟩,
  ⟨0xA66, [
    "GURMUKHI DIGIT ZEROeONEdTWOcHREEfFOURdIVEeSIXcEVENfEIGHTfNINEkTIPPIfADDAKfIRIdURAdEK ONKARiS",
    "IGN YAKASHlABBREVIATION SIGN"]⟩,
  ⟨0xA81, [
    "GUJARATI SIGN CANDRABINDUlANUSVARAiVISARGAamLETTER AaAcIaIcUaUcVOCALIC RbLqVOWEL CANDRA EaoL",
    "ETTER EbAIjVOWEL CANDRA OaoLETTER ObAUcKAbHAdGAbHAdNGAdCAbHAdJAbHAdNYAdTTAbHAeDDAbHAeNNAdTAb",
    "HAdDAbHAdNAacPAbHAdBAbHAdMAcYAcRAacLAbLAadVAcSHAcSAcAcHAaajSIGN NUKTAfAVAGRAHAnVOWEL SIGN AA",
    "cIaIcUaUcVOCALIC RaRkCANDRA EaiEbAIcCANDRA OaiObAUnSIGN VIRAMAaalOM"]⟩,
  ⟨0xAE0, [
    "GUJARATI LETTER VOCALIC RRcLLrVOWEL SIGN VOCALIC LaLaavDIGIT ZEROeONEdTWOcHREEfFOURdIVEeSIXc",
    "EVENfEIGHTfNINEkABBREVIATION SIGNrRUPEE SIGN"]⟩,
  ⟨0xAF9, [
    "GUJARATI LETTER ZHAkSIGN SUKUNeHADDAgMADDAHgTHREE-DOT NUKTA ABOVEvCIRCLE NUKTA ABOVEsTWO-CIR",
    "CLE NUKTA ABOVEak+ORIYA SIGN CANDRABINDUlANUSVARAiVISARGAamLETTER AaAcIaIcUaUcVOCALIC RbLaaj",
    "EbAIaacObAUcKAbHAdGAbHAdNGAdCAbHAdJAbHAdNYAdTTAbHAeDDAbHAeNNAdTAbHAdDAbHAdNAacPAbHAdBAbHAdMA",
    "cYAcRAacLAbLAadVAcSHAcSAcAcHAaajSIGN NUKTAfAVAGRAHAnVOWEL SIGN AAcIaIcUaUcVOCALIC RaRaakEbAI",
    "aacObAUnSIGN VIRAMA"]⟩,
  ⟨0xB55, [
    "ORIYA SIGN OVERLINEnAI LENGTH MARKnU LENGTH MARKaaaaoLETTER RRAcHAadYYAdVOCALIC RRcLLrVOWEL ",
    "SIGN VOCALIC LaLaavDIGIT ZEROeONEdTWOcHREEfFOURdIVEeSIXcEVENfEIGHTfNINEkISSHARgLETTER WAjFRA",
    "CTION ONE QUARTERhHALFiTHREE QUARTERSoONE SIXTEENTHjEIGHTHkTHREE SIXTEENTHS"]⟩,
  ⟨0xB82, [
    "TAMIL SIGN ANUSVARAiVISARGAamLETTER AaAcIaIcUaUaaacEaEcAIacOaOcAUcKAaaacNGAdCAacJAacNYAdTTAa",
    "aadNNAdTAaaacNAbNNAePAaaacMAcYAcRAbRAdLAbLAbLAeVAcSHAcSAcAcHAaaaajVOWEL SIGN AAcIaIcUaUaaacE",
    "aEcAIacOaOcAUnSIGN VIRAMAaalOMaaaaaacAU LENGTH MARK"]⟩,
  ⟨0xBE6, [
    "TAMIL DIGIT ZEROeONEdTWOcHREEfFOURdIVEeSIXcEVENfEIGHTfNINEkNUMBER TENdONE HUNDREDhTHOUSANDtD",
    "AY SIGNiMONTH SIGNkYEAR SIGNjDEBIT SIGNkCREDIT SIGNlAS ABOVE SIGNnRUPEE SIGNkNUMBER SIGNaaaa",
    "aqELUGU SIGN COMBINING CANDRABINDU ABOVEa+ANDRABINDUlANUSVARAiVISARGAhCOMBINING ANUSVARA ABO",
    "VEd+LETTER AaAcIaIcUaUcVOCALIC RbLajEaEcAIacOaOcAUcKAbHAdGAbHAdNGAdCAbHAdJAbHAdNYAdTTAbHAeDD",
    "AbHAeNNAdTAbHAdDAbHAdNAacPAbHAdBAbHAdMAcYAcRAbRAdLAbLAbLAeVAcSHAcSAcAcHAaajSIGN NUKTAfAVAGRA",
    "HAnVOWEL SIGN AAcIaIcUaUcVOCALIC RaRakEaEcAIacOaOcAUnSIGN VIRAMA"]⟩,
  ⟨0xC55, [
    "TELUGU LENGTH MARKlAI LENGTH MARKaoLETTER TSAdDZAdRRRAaaeNAKAARA POLLUaanVOCALIC RRcLLrVOWEL",
    " SIGN VOCALIC LaLaavDIGIT ZEROeONEdTWOcHREEfFOURdIVEeSIXcEVENfEIGHTfNINE"]⟩,
  ⟨0xC77, [
    "TELUGU SIGN SIDDHAMmFRACTION DIGIT ZERO FOR ODD POWERS OF FOURb+ONE FOR ODD POWERS OF FOURa+",
    "TWO FOR ODD POWERS OF FOURzHREE FOR ODD POWERS OF FOURc+ONE FOR EVEN POWERS OF FOURb+TWO FOR",
    " EVEN POWERS OF FOURa+HREE FOR EVEN POWERS OF FOURs+SIGN TUUMUrKANNADA SIGN SPACING CANDRABI",
    "NDUtCANDRABINDUlANUSVARAiVISARGAhSIDDHAMmLETTER AaAcIaIcUaUcVOCALIC RbLajEaEcAIacOaOcAUcKAbH",
    "AdGAbHAdNGAdCAbHAdJAbHAdNYAdTTAbHAeDDAbHAeNNAdTAbHAdDAbHAdNAacPAbHAdBAbHAdMAcYAcRAbRAdLAbLAa",
    "dVAcSHAcSAcAcHAaajSIGN NUKTAfAVAGRAHAnVOWEL SIGN AAcIaIcUaUcVOCALIC RaRakEaEcAIacOaOcAUnSIGN",
    " VIRAMA"]⟩,
  ⟨0xCD5, [
    "KANNADA LENGTH MARKlAI LENGTH MARKaaaaaaoLETTER NAKAARA POLLUnFAacVOCALIC RRcLLrVOWEL SIGN V",
    "OCALIC LaLaavDIGIT ZEROeONEdTWOcHREEfFOURdIVEeSIXcEVENfEIGHTfNINEakSIGN JIHVAMULIYAlUPADHMAN",
    "IYA"]⟩,
  ⟨0xD00, [
    "MALAYALAM SIGN COMBINING ANUSVARA ABOVExANDRABINDUlANUSVARAiVISARGAmLETTER VEDIC ANUSVARAoAa",
    "AcIaIcUaUcVOCALIC RbLajEaEcAIacOaOcAUcKAbHAdGAbHAdNGAdCAbHAdJAbHAdNYAdTTAbHAeDDAbHAeNNAdTAbH",
    "AdDAbHAdNAbNNAePAbHAdBAbHAdMAcYAcRAbRAdLAbLAbLAeVAcSHAcSAcAcHAcTTTAlSIGN VERTICAL BAR VIRAMA",
    "tCIRCULAR VIRAMApAVAGRAHAnVOWEL SIGN AAcIaIcUaUcVOCALIC RaRakEaEcAIacOaOcAUnSIGN VIRAMAlLETT",
    "ER DOT REPHpSIGN PARAaaaajLETTER CHILLU MbYbLLLrAU LENGTH MARKoFRACTION ONE ONE-HUNDRED-AND-",
    "SIXTIETHyFORTIETHmTHREE EIGHTIETHSqONE TWENTIETHiENTHjTHREE TWENTIETHSqONE FIFTHsLETTER ARCH",
    "AIC IIkVOCALIC RRcLLrVOWEL SIGN VOCALIC LaLaavDIGIT ZEROeONEdTWOcHREEfFOURdIVEeSIXcEVENfEIGH",
    "TfNINEkNUMBER TENdONE HUNDREDhTHOUSANDtFRACTION ONE QUARTERhHALFiTHREE QUARTERSoONE SIXTEENT",
    "HjEIGHTHkTHREE SIXTEENTHSzDATE MARKjLETTER CHILLU NNbbRRcLaLcKazSINHALA SIGN CANDRABINDUlANU",
    "SVARAYAkVISARGAYAaoLETTER AYANNAfAYANNAgEYANNAfEYANNAiIYANNAfIYANNAhUYANNAfUYANNAhIRUYANNAfU",
    "YANNAiLUYANNAfUYANNAjEYANNAfEYANNAhAIYANNAhOYANNAfOYANNAhAUYANNAaaagLPAPRAANA KAYANNAsMAHAAP",
    "RAANA KAYANNAtALPAPRAANA GAYANNAsMAHAAPRAANA GAYANNAtKANTAJA NAASIKYAYAsSANYAKA GAYANNApALPA",
    "PRAANA CAYANNAsMAHAAPRAANA CAYANNAtALPAPRAANA JAYANNAsMAHAAPRAANA JAYANNAtTAALUJA NAASIKYAYA",
    "kSANYOOGA NAAKSIKYAYAc+SANYAKA JAYANNApALPAPRAANA TTAYANNAtMAHAAPRAANA TTAYANNAuALPAPRAANA D",
    "DAYANNAtMAHAAPRAANA DDAYANNAtUURDHAJA NAYANNArSANYAKA DDAYANNAqALPAPRAANA TAYANNAsMAHAAPRAAN",
    "A TAYANNAtALPAPRAANA DAYANNAsMAHAAPRAANA DAYANNAtDANTAJA NAYANNAapSANYAKA DAYANNApALPAPRAANA",
    " PAYANNAsMAHAAPRAANA PAYANNAtALPAPRAANA BAYANNAsMAHAAPRAANA BAYANNArYANNAhAMBA BAYANNAmYAYAN",
    "NAhRAYANNAahDANTAJA LAYANNAaapVAYANNAhTAALUJA SAYANNApMUURDHAJA SAYANNArDANTAJA SAYANNApHAYA",
    "NNAhMUURDHAJA LAYANNArFAYANNAaaaoSIGN AL-LAKUNAaaaaoVOWEL SIGN AELA-PILLAkKETTI AEDA-PILLAqD",
    "IGA AEDA-PILLApKETTI IS-PILLAoDIGA IS-PILLAnKETTI PAA-PILLAapDIGA PAA-PILLAaoGAETTA-PILLAmKO",
    "MBUVAhDIGA KOMBUVAmKOMBU DEKAfVA HAA AELA-PILLAkDIGA AELA-PILLApGAYANUKITTAxGAYANUKITTAaaaaa",
    "awLITH DIGIT ZEROeONEdTWOcHREEfFOURdIVEeSIXcEVENfEIGHTfNINEaapVOWEL SIGN DIGA GAETTA-PILLAkY",
    "ANUKITTAb+PUNCTUATION KUNDDALIYA"]⟩,
  ⟨0xE01, [
    "THAI CHARACTER KO KAIfHO KHAIcUATdWAIdONeRAKHANGlNGO NGUhCHO CHANcINGdANGjSO SOfCHO CHOEiYO ",
    "YINGhDO CHADAiTO PATAKhHO THANeNANGMONTHOkPHUTHAOlNO NENgDO DEKgTO TAOfHO THUNGdAHANeONGjNO ",
    "NUfBO BAIMAIjPO PLAfHO PHUNGjFO FAfPHO PHANiFO FANgPHO SAMPHAOlMO MAfYO YAKgRO RUAfUcLO LING",
    "gUcWO WAENhSO SALAeRUSIeSUAgHO HIPgLO CHULAiO ANGfHO NOKHUKjPAIYANNOIjSARA AgMAI HAN-AKATmSA",
    "RA AAbMcIaIcUEaEcaUhPHINTHUaaaaqURRENCY SYMBOL BAHTtHARACTER SARA EbAEcObAI MAIMUANdALAIqLAK",
    "KHANGYAOlMAIYAMOKfTAIKHUg EKcTHOcRIdCHATTAWAmTHANTHAKHATlNIKHAHITiYAMAKKANiFONGMANrDIGIT ZER",
    "OeONEdTWOcHREEfFOURdIVEeSIXcEVENfEIGHTfNINEkCHARACTER ANGKHANKHUkKHOMUT"]⟩,
  ⟨0xE81, [
    "LAO LETTER KObHO SUNGaeTAMahPALI GHAiNGOdCOcPALI CHAiSO TAMagPALI JHAiNYOdPALI NYAdTTAbHAeDD",
    "AbHAeNNAiDOcTObHO SUNGeTAMhPALI DHAiNOcBOcPObHO SUNGiFO TAMgPHO TAMhFO SUNGhPALI BHAiMOcYOcL",
    "O LINGadOOTahWOcSANSKRIT SHAcSAlO SUNGhHO SUNGhPALI LLAiObHO TAMnELLIPSISiVOWEL SIGN AbMAI K",
    "ANhAAbMcIaIcYaYcUaUnSIGN PALI VIRAMAqVOWEL SIGN MAI KONsSEMIVOWEL SIGN LOcNYOaasVOWEL SIGN E",
    "aIcObAYbIanKO LAafTONE MAI EKcTHOcIcCATAWApCANCELLATION MARKrNIGGAHITAaajDIGIT ZEROeONEdTWOc",
    "HREEfFOURdIVEeSIXcEVENfEIGHTfNINEaakHO NOcMOfLETTER KHMU GOcNYO"]⟩,
  ⟨0xF00, [
    "TIBETAN SYLLABLE OMlMARK GTER YIG MGO TRUNCATED Al-UM RNAM BCAD MAmGTER TSHEG MAe+INITIAL YI",
    "G MGO MDUN MAxCLOSING YIG MGO SGAB MAwARET YIG MGO PHUR SHAD MAa+YIG MGO TSHEG SHAD MAvSBRUL",
    " SHADkBSKUR YIG MGOmKA- SHOG YIG MGOrINTERSYLLABIC TSHEGtDELIMITER TSHEG BSTARvSHADeNYIS SHA",
    "DjTSHEG SHADkNYIS TSHEG SHADpRIN CHEN SPUNGS SHADtGYA GRAM SHADoCARET -DZUD RTAGS ME LONG CA",
    "Nd+GTER TSHEGpLOGOTYPE SIGN CHAD RTAGSkLHAG RTAGSyASTROLOGICAL SIGN SGRA GCAN -CHAR RTAGSv-K",
    "HYUD PAjSDONG TSHUGSe+SIGN RDEL DKAR GCIGdNYISeSUMjNAG GCIGdNYISjDKAR RDEL NAGxDIGIT ZEROeON",
    "EdTWOcHREEfFOURdIVEeSIXcEVENfEIGHTfNINEeHALF ONEdTWOcHREEfFOURdIVEeSIXcEVENfEIGHTfNINEeZEROp",
    "MARK BSDUS RTAGSlNGAS BZUNG NYI ZLAsCARET -DZUD RTAGS BZHI MIG CANe+NGAS BZUNG SGOR RTAGSvCH",
    "E MGOhTSA -PHRUjGUG RTAGS GYONcASoANG KHANG GYONcAStSIGN YAR TSHESjMAR TSHESoLETTER KAbHAdGA",
    "bHAdNGAdCAbHAdJAacNYAdTTAbHAeDDAbHAeNNAdTAbHAdDAbHAdNAcPAbHAdBAbHAdMAcTSAbHAeDZAbHAeWAcZHAcA",
    "c-AcYAcRAcLAcSHAcSAcAcHAcAbKSSAeFIXED-FORM RAnKKAdRRAaaaakVOWEL SIGN AAcIaIcUaUcVOCALIC RaRc",
    "LaLkEaEcOaOnSIGN RJES SU NGA ROnNAM BCADoVOWEL SIGN REVERSED IaIwSIGN NYI ZLA NAA DAoSNA LDA",
    "NnMARK HALANTAhPALUTAlSIGN LCI RTAGSjYANG RTAGSkLCE TSA CANlMCHU CANiGRU CAN RGYINGSlMED RGY",
    "INGSpINVERTED MCHU CANvUBJOINED SIGN LCE TSA CANlMCHU CANiINVERTED MCHU CANwLETTER KAbHAdGAb",
    "HAdNGAdCAbHAdJAacNYAdTTAbHAeDDAbHAeNNAdTAbHAdDAbHAdNAcPAbHAdBAbHAdMAcTSAbHAeDZAbHAeWAcZHAcAc",
    "-AcYAcRAcLAcSHAcSAcAcHAcAbKSSAeFIXED-FORM WAcYAcRAae+KU RU KHAa BZHI MIG CANwCANTILLATION SI",
    "GN HEAVY BEATkLIGHT BEATkCANG TE-UjSBUB -CHALc+SYMBOL DRIL BUhRDO RJEhPADMA GDANkRDO RJE RGY",
    "A GRAMrPHUR PAhNOR BUa NYIS -KHYILlGSUM -KHYILlBZHI -KHYILayIGN RDEL NAG RDEL DKARjGSUMsMARK",
    " BSKA- SHOG GI MGO RGYANxMNYAM YIG GI MGO RGYANwNYIS TSHEGkINITIAL BRDA RNYING YIG MGO MDUN ",
    "MAj+CLOSING BRDA RNYING YIG MGO SGAB MAw+RIGHT-FACING SVASTI SIGNyLEFT-FACING SVASTI SIGNxRI",
    "GHT-FACING SVASTI SIGN WITH DOTSi+LEFT-FACING SVASTI SIGN WITH DOTSh+TIBETAN MARK LEADING MC",
    "HAN RTAGStTRAILING MCHAN RTAGS"]⟩]

end ArgRules.Text.CharacterName
