import ArgRules.Text.CharacterName.Block

/-!
# Names of characters: the scripts from Glagolitic to Meetei Mayek

The names of the characters from U+2C00 to U+ABFF in Unicode 14.0, in blocks of code points.
-/

namespace ArgRules.Text.CharacterName

/-- The names of the scripts from Glagolitic to Meetei Mayek. -/
def eastAsian : List Block := [
  ⟨0x2C00, [
    "GLAGOLITIC CAPITAL LETTER AZUdBUKYeVEDEeGLAGOLIhDOBROfYESTUfZHIVETEhDZELOfZEMLJAgIZHEdNITIAL",
    " IZHElbDJERVIgKAKOeLJUDIJEhMYSLITEhNASHIfONUdPOKOJIgRITSIfSLOVOfTVRIDOgUKUdFRITUfHERUeOTUdPE",
    "cSHTAeTSIdCHRIVIgSHAdYERUbIdATIeSPIDERY HAkYUcSMALL YUSa WITH TAILtYOcIOTATED SMALL YUSrBIG ",
    "YUShIOTATED BIG YUSpFITAeIZHITSAhSHTAPIChTROKUTASTI AmLATINATE MYSLITEqCAUDATE CHRIVId+SMALL",
    " LETTER AZUdBUKYeVEDEeGLAGOLIhDOBROfYESTUfZHIVETEhDZELOfZEMLJAgIZHEdNITIAL IZHElbDJERVIgKAKO",
    "eLJUDIJEhMYSLITEhNASHIfONUdPOKOJIgRITSIfSLOVOfTVRIDOgUKUdFRITUfHERUeOTUdPEcSHTAeTSIdCHRIVIgS",
    "HAdYERUbIdATIeSPIDERY HAkYUcSMALL YUSa WITH TAILtYOcIOTATED SMALL YUSrBIG YUShIOTATED BIG YU",
    "SpFITAeIZHITSAhSHTAPIChTROKUTASTI AmLATINATE MYSLITEqCAUDATE CHRIVIm+LATIN CAPITAL LETTER L ",
    "WITH DOUBLE BARg+SMALL LETTER L WITH DOUBLE BARe+CAPITAL LETTER L WITH MIDDLE TILDEtP WITH S",
    "TROKEnR WITH TAILa+SMALL LETTER A WITH STROKEnT WITH DIAGONAL STROKEj+CAPITAL LETTER H WITH ",
    "DESCENDERf+SMALL LETTER H WITH DESCENDERd+CAPITAL LETTER K WITH DESCENDERf+SMALL LETTER K WI",
    "TH DESCENDERd+CAPITAL LETTER Z WITH DESCENDERf+SMALL LETTER Z WITH DESCENDERd+CAPITAL LETTER",
    " ALPHAfM WITH HOOKlTURNED AaLPHAb+SMALL LETTER V WITH RIGHT HOOKe+CAPITAL LETTER W WITH HOOK",
    "a+SMALL LETTER W WITH HOOKlV WITH CURLyCAPITAL LETTER HALF HvSMALL LETTER HALF HgTAILLESS PH",
    "ImE WITH NOTCHmTURNED R WITH TAILsO WITH LOW RING INSIDEj+LETTER SMALL CAPITAL TURNED Ed+SUB",
    "SCRIPT SMALL LETTER Je+MODIFIER LETTER CAPITAL VzLATIN CAPITAL LETTER S WITH SWASH TAILrZ WI",
    "TH SWASH TAILm+COPTIC CAPITAL LETTER ALFAtSMALL LETTER ALFArCAPITAL LETTER VIDAtSMALL LETTER",
    " VIDArCAPITAL LETTER GAMMAuSMALL LETTER GAMMAsCAPITAL LETTER DALDAuSMALL LETTER DALDAsCAPITA",
    "L LETTER EIEsSMALL LETTER EIEqCAPITAL LETTER SOUsSMALL LETTER SOUqCAPITAL LETTER ZATAtSMALL ",
    "LETTER ZATArCAPITAL LETTER HATEtSMALL LETTER HATErCAPITAL LETTER THETHEvSMALL LETTER THETHEt",
    "CAPITAL LETTER IAUDAuSMALL LETTER IAUDAsCAPITAL LETTER KAPAtSMALL LETTER KAPArCAPITAL LETTER",
    " LAULAuSMALL LETTER LAULAsCAPITAL LETTER MIrSMALL LETTER MIpCAPITAL LETTER NIrSMALL LETTER N",
    "IpCAPITAL LETTER KSIsSMALL LETTER KSIqCAPITAL LETTER OqSMALL LETTER OoCAPITAL LETTER PIrSMAL",
    "L LETTER PIpCAPITAL LETTER ROrSMALL LETTER ROpCAPITAL LETTER SIMAtSMALL LETTER SIMArCAPITAL ",
    "LETTER TAUsSMALL LETTER TAUqCAPITAL LETTER UArSMALL LETTER UApCAPITAL LETTER FIrSMALL LETTER",
    " FIpCAPITAL LETTER KHIsSMALL LETTER KHIqCAPITAL LETTER PSIsSMALL LETTER PSIqCAPITAL LETTER O",
    "OUsSMALL LETTER OOUqCAPITAL LETTER DIALECT-P ALEFd+SMALL LETTER DIALECT-P ALEFb+CAPITAL LETT",
    "ER OLD COPTIC AINd+SMALL LETTER OLD COPTIC AINb+CAPITAL LETTER CRYPTOGRAMMIC EIEg+SMALL LETT",
    "ER CRYPTOGRAMMIC EIEe+CAPITAL LETTER DIALECT-P KAPAd+SMALL LETTER DIALECT-P KAPAb+CAPITAL LE",
    "TTER DIALECT-P NIb+SMALL LETTER DIALECT-P NIzCAPITAL LETTER CRYPTOGRAMMIC NIf+SMALL LETTER C",
    "RYPTOGRAMMIC NId+CAPITAL LETTER OLD COPTIC OOUd+SMALL LETTER OLD COPTIC OOUb+CAPITAL LETTER ",
    "SAMPIuSMALL LETTER SAMPIsCAPITAL LETTER CROSSED SHEIb+SMALL LETTER CROSSED SHEIzCAPITAL LETT",
    "ER OLD COPTIC SHEIe+SMALL LETTER OLD COPTIC SHEIc+CAPITAL LETTER OLD COPTIC ESHd+SMALL LETTE",
    "R OLD COPTIC ESHb+CAPITAL LETTER AKHMIMIC KHEIc+SMALL LETTER AKHMIMIC KHEIa+CAPITAL LETTER D",
    "IALECT-P HORId+SMALL LETTER DIALECT-P HORIb+CAPITAL LETTER OLD COPTIC HORIe+SMALL LETTER OLD",
    " COPTIC HORIc+CAPITAL LETTER OLD COPTIC HAc+SMALL LETTER OLD COPTIC HAa+CAPITAL LETTER L-SHA",
    "PED HAa+SMALL LETTER L-SHAPED HAyCAPITAL LETTER OLD COPTIC HEId+SMALL LETTER OLD COPTIC HEIb",
    "+CAPITAL LETTER OLD COPTIC HATd+SMALL LETTER OLD COPTIC HATb+CAPITAL LETTER OLD COPTIC GANGI",
    "Ag+SMALL LETTER OLD COPTIC GANGIAe+CAPITAL LETTER OLD COPTIC DJAd+SMALL LETTER OLD COPTIC DJ",
    "Ab+CAPITAL LETTER OLD COPTIC SHIMAf+SMALL LETTER OLD COPTIC SHIMAd+CAPITAL LETTER OLD NUBIAN",
    " SHIMAf+SMALL LETTER OLD NUBIAN SHIMAd+CAPITAL LETTER OLD NUBIAN NGId+SMALL LETTER OLD NUBIA",
    "N NGIb+CAPITAL LETTER OLD NUBIAN NYId+SMALL LETTER OLD NUBIAN NYIb+CAPITAL LETTER OLD NUBIAN",
    " WAUd+SMALL LETTER OLD NUBIAN WAUa+YMBOL KAIdMI ROfPI ROfSTAUROShTAU ROgKHI ROgSHIMA SIMArCA",
    "PITAL LETTER CRYPTOGRAMMIC SHEIh+SMALL LETTER CRYPTOGRAMMIC SHEIf+CAPITAL LETTER CRYPTOGRAMM",
    "IC GANGIAj+SMALL LETTER CRYPTOGRAMMIC GANGIAh+COMBINING NI ABOVEiSPIRITUS ASPERfLENISxAPITAL",
    " LETTER BOHAIRIC KHEIc+SMALL LETTER BOHAIRIC KHEIaaaaaa+OLD NUBIAN FULL STOPjDIRECT QUESTION",
    " MARKuINDIRECT QUESTION MARKwVERSE DIVIDERyFRACTION ONE HALFqULL STOPjMORPHOLOGICAL DIVIDERc",
    "+GEORGIAN SMALL LETTER ANcBANdGANdDONdENcVINdZENdTANdINcKANdLASdMANdNARdONcPARdZHAReRAEdSANd",
    "TARdUNcPHAReKHAReGHANeQARdSHINeCHINdANdJILdCILcHAReXANdJHANeHAEcEbIEdWEcHARcOEadYNaaaaacAENa",
    "azTIFINAGH LETTER YAaBaHcGaHHfBERBER ACADEMY YAJsYAJbDaHbDaHeEYcAFbKdTUAREG YAKkYAKHHdHdBERB",
    "ER ACADEMY YAHsTUAREG YAHkYAHHcAbKHeTUAREG YAKHlYAQdTUAREG YAQkYIbAZHeAHAGGAR YAZHmTUAREG YA",
    "ZHlYALbMbNdTUAREG YAGNcNGlYAPcUbARaRcGHeTUAREG YAGHlAYER YAGHjYASaSbHcTaHcCHcTTcVbWbYbZdTAWE",
    "LLEMET YAZoYAZZdEbO"]⟩,
  ⟨0x2D6F, ["TIFINAGH MODIFIER LETTER LABIALIZATION MARKi+SEPARATOR MARK"]⟩,
  ⟨0x2D7F, [
    "TIFINAGH CONSONANT JOINERzETHIOPIC SYLLABLE LOAdMOAdROAdSOAcHOAeBOAdTOAdCOAdNOAcYOAeGLOTTAL ",
    "OAkZOAdDOAcDOAeJOAdTHOAeCHOAePHOAdOAdGGWAbIbEEb"]⟩,
  ⟨0x2DA0, [
    "ETHIOPIC SYLLABLE SSAbUbIbAAcEEbbOadCCAbUbIbAAcEEbbOadZZAbUbIbAAcEEbbOadCCHAbUbIbAAcEEbbOaeQ",
    "YAbUbIbAAcEEbbOadKYAbUbIbAAcEEbbOadXYAbUbIbAAcEEbbOadGYAbUbIbAAcEEbbOavCOMBINING CYRILLIC LE",
    "TTER BEcVEcGHEdDEcZHEcEcKAcELbMbNcObPEcERbScTEcHAcTSEdCHEdSHAbCHAfFITAeES-TEfAbIEcDJERVfMONO",
    "GRAPH UKmYATcUcIOTIFIED AkLITTLE YUSkBIG YUShIOTIFIED BIG YUSq+RIGHT ANGLE SUBSTITUTION MARK",
    "ERtDOTTED SUBSTITUTION MARKERm+LEFT SUBSTITUTION BRACKETzRIGHT SUBSTITUTION BRACKETa+LEFT DO",
    "TTED SUBSTITUTION BRACKETg+RIGHT DOTTED SUBSTITUTION BRACKETg+AISED INTERPOLATION MARKERuDOT",
    "TED INTERPOLATION MARKERi+DOTTED TRANSPOSITION MARKERb+LEFT TRANSPOSITION BRACKETa+RIGHT TRA",
    "NSPOSITION BRACKETa+AISED SQUAREnLEFT RAISED OMISSION BRACKETc+RIGHT RAISED OMISSION BRACKET",
    "d+EDITORIAL CORONISrPARAGRAPHOSlFORKED PARAGRAPHOSsREVERSED FORKED PARAGRAPHOSb+HYPODIASTOLE",
    "mDOTTED OBELOSlWNWARDS ANCORAqUPWARDS ANCORAoDOTTED RIGHT-POINTING ANGLEzUBLE OBLIQUE HYPHEN",
    "vINVERTED INTERROBANGuPALM BRANCHlHYPHEN WITH DIAERESISvTILDE WITH RING ABOVEvLEFT LOW PARAP",
    "HRASE BRACKETb+RIGHT LOW PARAPHRASE BRACKETc+TILDE WITH DOT ABOVEfBELOWuLEFT VERTICAL BAR WI",
    "TH QUILLc+RIGHT VERTICAL BAR WITH QUILLd+TOP LEFT HALF BRACKETrRIGHT HALF BRACKETwBOTTOM LEF",
    "T HALF BRACKETrRIGHT HALF BRACKETzLEFT SIDEWAYS U BRACKETxRIGHT SIDEWAYS U BRACKETyLEFT DOUB",
    "LE PARENTHESISxRIGHT DOUBLE PARENTHESISyTWO DOTS OVER ONE DOT PUNCTUATIONh+ONE DOT OVER TWO ",
    "DOTS PUNCTUATIONh+SQUARED FOUR DOT PUNCTUATIONc+FIVE DOT MARKnREVERSED QUESTION MARKwVERTICA",
    "L TILDEoRING POINTkWORD SEPARATOR MIDDLE DOTzTURNED COMMAmRAISED DOTdCOMMAmTURNED SEMICOLONq",
    "DAGGER WITH LEFT GUARDkRIGHT GUARDxTURNED DAGGERmOP HALF SECTION SIGNuWO-EM DASHkHREE-EM DAS",
    "HnSTENOGRAPHIC FULL STOPwVERTICAL SIX DOTSrWIGGLY VERTICAL LINEuCAPITULUMjDOUBLE HYPHENnREVE",
    "RSED COMMAoDOUBLE LOW-REVERSED-9 QUOTATION MARKj+ASH WITH LEFT UPTURNuOUBLE SUSPENSION MARKw",
    "INVERTED LOW KAVYKAa WITH KAVYKA ABOVEl+LOW KAVYKAa WITH DOTtDOUBLE STACKED COMMAsTTED SOLID",
    "USoTRIPLE DAGGERnMEDIEVAL COMMAoPARAGRAPHUS MARKpUNCTUS ELEVATUS MARKvCORNISH VERSE DIVIDERu",
    "ROSS PATTY WITH RIGHT CROSSBARoLEFT CROSSBARe+TIRONIAN SIGN CAPITAL ETyMEDIEVAL EXCLAMATION ",
    "MARKqQUESTION MARKwLEFT SQUARE BRACKET WITH STROKEf+RIGHT SQUARE BRACKET WITH STROKEg+LEFT S",
    "QUARE BRACKET WITH DOUBLE STROKEm+RIGHT SQUARE BRACKET WITH DOUBLE STROKEn+TOP HALF LEFT PAR",
    "ENTHESISqRIGHT PARENTHESISa+BOTTOM HALF LEFT PARENTHESISqRIGHT PARENTHESISd+OBLIQUE HYPHEN"]⟩,
  ⟨0x2E80, [
    "CJK RADICAL REPEATgCLIFFfSECOND ONEdTWOcHREEmPERSONgBOXdTABLEfKNIFE ONEdTWOjDIVINATIONkSEALd",
    "MALL ONEdTWOjLAME ONEdTWOcHREEfFOURjSNAKEfTHREADgSNOUT ONEdTWOjHEART ONEdTWOiANDeRAPadCHOKEf",
    "SUNdMOONeDEATHfMOTHERgCIVILIANiWATER ONEdTWOjFIREePAW ONEdTWOhSIMPLIFIED HALF TREE TRUNKa+CO",
    "WdDOGdJADEeBOLT OF CLOTHnEYEdSPIRIT ONEdTWOkBAMBOOgSILKeC-SIMPLIFIED SILKrNET ONEdTWOcHREEfF",
    "OURiMESHeSHEEPfRAMdEWEdOLDdBRUSH ONEdTWOjMEATdORTARgGRASS ONEdTWOcHREElTIGERfCLOTHEShWEST ON",
    "EdTWOiC-SIMPLIFIED SEEqSIMPLIFIED HORNpHORNeC-SIMPLIFIED SPEECHfHELLsFOOTeC-SIMPLIFIED CARTr",
    "SIMPLIFIED WALKpWALK ONEdTWOiCITYd-SIMPLIFIED GOLDrLONG ONEdTWOiC-SIMPLIFIED LONGeGATErMOUND",
    " ONEdTWOjRAINeBLUEeC-SIMPLIFIED TANNED LEATHERoLEAFeWINDeFLYqEAT ONEdTWOcHREEjC-SIMPLIFIED E",
    "ATqHEADeC-SIMPLIFIED HORSEsBONEeGHOSTfC-SIMPLIFIED FISHeBIRDeSALTrSIMPLIFIED WHEATfYELLOWrC-",
    "SIMPLIFIED FROGrJ-SIMPLIFIED EVENrC-SIMPLIFIED EVENrJ-SIMPLIFIED TOOTHsC-SIMPLIFIED TOOTHsJ-",
    "SIMPLIFIED DRAGONtC-SIMPLIFIED DRAGONtTURTLEgJ-SIMPLIFIED TURTLEtC-SIMPLIFIED TURTLE"]⟩,
  ⟨0x2F00, [
    "KANGXI RADICAL ONEdLINEeDOTdSLASHeECONDgHOOKeTWOdLIDdMANdLEGSeENTEReIGHTfDOWN BOXiCOVERfICEd",
    "TABLEfOPEN BOXiKNIFEfPOWERfWRAPeSPOONfRIGHT OPEN BOXoHIDING ENCLOSUREqTENdDIVINATIONkSEALeCL",
    "IFFfPRIVATEhAGAINfMOUTHfENCLOSUREiARTHfSCHOLARhGOa SLOWLYjEVENINGhBIGdWOMANfCHILDfROOFeINCHe",
    "SMALLfLAMEeCORPSEgSPROUTgMOUNTAINiRIVERfWORKeONESELFhTURBANgDRYdSHORT THREADmDOTTED CLIFFmLO",
    "NG STRIDElTWO HANDSjSHOOTfBOWdSNOUTfBRISTLEhSTEPeHEARTeALBERDhDOOReHANDeBRANCHgRAPdSCRIPTgDI",
    "PPERgAXEdSQUAREgNOTdSUNcAYdMOONeTREEeLACKeSTOPeDEATHfWEAPONgDO NOTgCOMPAREhFURdCLANeSTEAMfWA",
    "TERfFIREeCLAWeFATHERgDOUBLE XiHALF TREE TRUNKpSLICEfFANGeCOWdDOGdPROFOUNDiJADEeMELONfTILEeSW",
    "EETfLIFEeUSEdFIELDfBOLT OF CLOTHnSICKNESSiDOTTED TENTlWHITEfSKINeDISHeEYEdSPEARfARROWfSTONEe",
    "PIRITgTRACKfGRAINfCAVEeSTANDfBAMBOOgRICEeSILKeJARdNETdSHEEPfFEATHERhOLDdANDdPLOWeEARdBRUSHfM",
    "EATdINISTERiSELFeARRIVEgMORTARgTONGUEgOPPOSEgBOATeSTOPPINGiCOLORfGRASSfTIGERfINSECTgBLOODfWA",
    "LK ENCLOSUREoCLOTHEShWESTeSEEdHORNeSPEECHgVALLEYgBEANePIGdBADGERgSHELLfREDcUNdFOOTeBODYeCART",
    "eBITTERgMORNINGhWALKeCITYeWINEeDISTINGUISHlVILLAGEhGOLDeLONGeGATEeMOUNDfSLAVEeHORT TAILED BI",
    "RDrRAINeBLUEeWRONGfFACEeLEATHERhTANNED LEATHERoLEEKeSOUNDfLEAFeWINDeFLYdEATdHEADeFRAGRANTiHO",
    "RSEfBONEeTALLeHAIReFIGHTfSACRIFICIAL WINEqCAULDRONiGHOSTfFISHeBIRDeSALTeDEEReWHEATfHEMPeYELL",
    "OWgMILLETgBLACKfEMBROIDERYkFROGeTRIPODgDRUMeRATdNOSEeEVENeTOOTHfDRAGONgTURTLEgFLUTE"]⟩,
  ⟨0x2FF0, [
    "IDEOGRAPHIC DESCRIPTION CHARACTER LEFT TO RIGHTnABOVE TO BELOWoLEFT TO MIDDLE AND RIGHTyABOV",
    "E TO MIDDLE AND BELOWzFULL SURROUNDnSURROUND FROM ABOVEfBELOWfLEFTeUPPER LEFTeRIGHTlLOWER LE",
    "FTyOVERLAIDaaaae+SPACEfCOMMAfFULL STOPvDITTO MARKkJAPANESE INDUSTRIAL STANDARD SYMBOLj+IDEOG",
    "RAPHIC ITERATION MARKoCLOSING MARKmNUMBER ZEROxLEFT ANGLE BRACKETsRIGHT ANGLE BRACKETtLEFT D",
    "OUBLE ANGLE BRACKETzRIGHT DOUBLE ANGLE BRACKETa+LEFT CORNER BRACKETtRIGHT CORNER BRACKETuLEF",
    "T WHITE CORNER BRACKETzRIGHT WHITE CORNER BRACKETa+LEFT BLACK LENTICULAR BRACKETd+RIGHT BLAC",
    "K LENTICULAR BRACKETe+POSTAL MARKlGETA MARKjLEFT TORTOISE SHELL BRACKETb+RIGHT TORTOISE SHEL",
    "L BRACKETc+LEFT WHITE LENTICULAR BRACKETd+RIGHT WHITE LENTICULAR BRACKETe+LEFT WHITE TORTOIS",
    "E SHELL BRACKETh+RIGHT WHITE TORTOISE SHELL BRACKETi+LEFT WHITE SQUARE BRACKETzRIGHT WHITE S",
    "QUARE BRACKETa+WAVE DASHjREVERSED DOUBLE PRIME QUOTATION MARKk+DOUBLE PRIME QUOTATION MARKb+",
    "LOW DOUBLE PRIME QUOTATION MARKf+POSTAL MARK FACEqHANGZHOU NUMERAL ONEdTWOcHREEfFOURdIVEeSIX",
    "cEVENfEIGHTfNINEvIDEOGRAPHIC LEVEL TONE MARKpRISING TONE MARKqDEPARTING TONE MARKtENTERING T",
    "ONE MARKe+HANGUL SINGLE DOT TONE MARKuDOUBLE DOT TONE MARKb+WAVY DASHjVERTICAL KANA REPEAT M",
    "ARKeWITH VOICED SOUND MARKwMARK UPPER HALFpWITH VOICED SOUND MARK UPPER HALFh+MARK LOWER HAL",
    "Fk+CIRCLED POSTAL MARKtIDEOGRAPHIC TELEGRAPH LINE FEED SEPARATOR SYMBOLw+HANGZHOU NUMERAL TE",
    "NcWENTYfHIRTYxVERTICAL IDEOGRAPHIC ITERATION MARKj+MASU MARKjPART ALTERNATION MARKvIDEOGRAPH",
    "IC VARIATION INDICATORtHALF FILL SPACEab+HIRAGANA LETTER SMALL AhAbSMALL IhIbSMALL UhUbSMALL",
    " EhEbSMALL OhObKAcGAcKIcGIcKUcGUcKEcGEcKOcGOcSAcZAcSIcZIcSUcZUcSEcZEcSOcZOcTAcDAcTIcDIcSMALL",
    " TUiTUcDUcTEcDEcTOcDOcNAbIbUbEbOcHAcBAcPAcHIcBIcPIcHUcBUcPUcHEcBEcPEcHOcBOcPOcMAbIbUbEbOcSMA",
    "LL YAiYAcSMALL YUiYUcSMALL YOiYOcRAbIbUbEbOcSMALL WAiWAbIbEbOcNbVUcSMALL KAbEaayCOMBINING KA",
    "TAKANA-HIRAGANA VOICED SOUND MARKrSEMI-VOICED SOUND MARKy+KATAKANA-HIRAGANA VOICED SOUND MAR",
    "KrSEMI-VOICED SOUND MARKo+HIRAGANA ITERATION MARKoVOICED ITERATION MARKvDIGRAPH YORIvKATAKAN",
    "A-HIRAGANA DOUBLE HYPHENx LETTER SMALL AhAbSMALL IhIbSMALL UhUbSMALL EhEbSMALL OhObKAcGAcKIc",
    "GIcKUcGUcKEcGEcKOcGOcSAcZAcSIcZIcSUcZUcSEcZEcSOcZOcTAcDAcTIcDIcSMALL TUiTUcDUcTEcDEcTOcDOcNA",
    "bIbUbEbOcHAcBAcPAcHIcBIcPIcHUcBUcPUcHEcBEcPEcHOcBOcPOcMAbIbUbEbOcSMALL YAiYAcSMALL YUiYUcSMA",
    "LL YOiYOcRAbIbUbEbOcSMALL WAiWAbIbEbOcNbVUcSMALL KAbEiVAbIbEbOjMIDDLE DOTl-HIRAGANA PROLONGE",
    "D SOUND MARKe+ ITERATION MARKoVOICED ITERATION MARKvDIGRAPH KOTOaaaaavBOPOMOFO LETTER BbPbMb",
    "FbDbTbNbLbGbKbHbJbQbXbZHcCHcSHcRbZbCbSbAbObEaHcAIcEIcAUcOUcANcENcANGdENGcRcIbUbIUcVbNGcGNcIH",
    "cO WITH DOT ABOVEqNNasHANGUL LETTER KIYEOKgSSANGKIYEOKlKIYEOK-SIOSlNIEUNa-CIEUCfHIEUHlTIKEUT",
    "gSSANGTIKEUTlRIEULa-KIYEOKgMIEUMfPIEUPfSIOSeTHIEUTHhPHIEUPHhHIEUHlMIEUMfPIEUPfSSANGPIEUPkPIE",
    "UP-SIOSkSIOSdSANGSIOSjIEUNGfCIEUCfSSANGCIEUCkCHIEUCHhKHIEUKHhTHIEUTHhPHIEUPHhHIEUHfAaEcYAaEd",
    "EObbYEObcObWAaEdOEcYOcUbWEObbIcYUcEUcYIcIiFILLERgLETTER SSANGNIEUNkNIEUN-TIKEUTgSIOSePANSIOS",
    "nRIEUL-KIYEOK-SIOSlTIKEUTgPIEUP-SIOSjANSIOShYEORINHIEUHrMIEUM-PIEUPfSIOSePANSIOSnKAPYEOUNMIE",
    "UMnPIEUP-KIYEOKgTIKEUTgSIOS-KIYEOKgTIKEUTlCIEUCfTHIEUTHnKAPYEOUNPIEUPfSSANGPIEUPsSIOS-KIYEOK",
    "gNIEUNfTIKEUTgPIEUPfCIEUCkPANSIOShSSANGIEUNGkYESIEUNGa-SIOSePANSIOSqKAPYEOUNPHIEUPHpSSANGHIE",
    "UHkYEORINHIEUHkO-YAaEdIdU-YEObcIeARAEAaEauIDEOGRAPHIC ANNOTATION LINKING MARKmREVERSE MARKmO",
    "NE MARKiTWO MARKhHREE MARKkFOUR MARKjTOP MARKiMIDDLE MARKlBOTTOM MARKlFIRST MARKkSECOND MARK",
    "lTHIRD MARKkFOURTH MARKlHEAVEN MARKlEARTH MARKkMAN MARKf+BOPOMOFO LETTER BUcZIcJIcGUcEEbNNdO",
    "ObNNdIRcANNdINNdUNNdIMcNGGdAINNdUNNdMcOMbNGdINNNlFINAL LETTER PbTbKbHoLETTER GHcLHcZYjFINAL ",
    "LETTER GoLETTER GWcKWcOEcAHsCJK STROKE TbWGcXGcBXGdSWcHZZbGcPbZWGeSZWGeHZTbZPdPWGdZWbZZeNbHb",
    "SbPbSPcDbHZbGcSZbWZcTbGcPDbZcTNcSZZcWGdHXWGdZZZGfPGcQ"]⟩,
  ⟨0x31F0, [
    "KATAKANA LETTER SMALL KUcSIbUcTOcNUcHAbIbUbEbOcMUcRAbIbUbEbOyPARENTHESIZED HANGUL KIYEOKgNIE",
    "UNfTIKEUTgRIEULfMIEUMfPIEUPfSIOSeIEUNGfCIEUCeHIEUCHhKHIEUKHhTHIEUTHhPHIEUPHhHIEUHfKIYEOK AiN",
    "IEUN AhTIKEUT AiRIEUL AhMIEUM AhPIEUP AhSIOS AgIEUNG AhCIEUC AgHIEUCH AjKHIEUKH AjTHIEUTH Aj",
    "PHIEUPH AjHIEUH AhCIEUC UoKOREAN CHARACTER OJEONe HUavIDEOGRAPH ONEdTWOcHREEfFOURdIVEeSIXcEV",
    "ENfEIGHTfNINEeTENdMOONeFIREeWATEReOODeMETALfEARTHfSUNcTOCKfHAVEeSOCIETYhNAMEeSPECIALhFINANCI",
    "ALjCONGRATULATIONoLABORfREPRESENTjCALLeSTUDYeUPERVISEjENTERPRISEkRESOURCEiALLIANCEiFESTIVALi",
    "RESTeSELFeREACHd+CIRCLED IDEOGRAPH QUESTIONiKINDERGARTENmSCHOOLgKOTOoNUMBER TEN ON BLACK SQU",
    "AREsWENTY ON BLACK SQUAREvHIRTY ON BLACK SQUAREwFORTY ON BLACK SQUAREuIFTY ON BLACK SQUAREvS",
    "IXTY ON BLACK SQUAREuEVENTY ON BLACK SQUARExEIGHTY ON BLACK SQUAREl+PARTNERSHIP SIGNqCIRCLED",
    " NUMBER TWENTY ONEdTWOcHREEfFOURdIVEeSIXcEVENfEIGHTfNINEkHIRTYa ONEdTWOcHREEfFOURdIVEsHANGUL",
    " KIYEOKgNIEUNfTIKEUTgRIEULfMIEUMfPIEUPfSIOSeIEUNGfCIEUCeHIEUCHhKHIEUKHhTHIEUTHhPHIEUPHhHIEUH",
    "fKIYEOK AiNIEUN AhTIKEUT AiRIEUL AhMIEUM AhPIEUP AhSIOS AgIEUNG AhCIEUC AgHIEUCH AjKHIEUKH A",
    "jTHIEUTH AjPHIEUPH AjHIEUH AoKOREAN CHARACTER CHAMKOgJUEUIwHANGUL IEUNG UwKOREAN STANDARD SY",
    "MBOLwCIRCLED IDEOGRAPH ONEdTWOcHREEfFOURdIVEeSIXcEVENfEIGHTfNINEeTENdMOONeFIREeWATEReOODeMET",
    "ALfEARTHfSUNcTOCKfHAVEeSOCIETYhNAMEeSPECIALhFINANCIALjCONGRATULATIONoLABORfSECRETgMALEeFEMAL",
    "EgSUITABLEiEXCELLENTjPRINTfATTENTIONjITEMeRESTeCOPYcRRECThHIGHeCENTREgLOWcEFTeRIGHTfMEDICINE",
    "iRELIGIONiSTUDYeUPERVISEjENTERPRISEkRESOURCEiALLIANCEiNIGHTpNUMBER THIRTY SIXcEVENfEIGHTfNIN",
    "ElFORTYa ONEdTWOcHREEfFOURdIVEeSIXcEVENfEIGHTfNINEjIFTYuIDEOGRAPHIC TELEGRAPH SYMBOL FOR JAN",
    "UARYhFEBRUARYiMARCHfAPRILfMAYdJUNEcLYeAUGUSTgSEPTEMBERjOCTOBERhNOVEMBERiDECEMBERp+SQUARE HGc",
    "ERGcVjLIMITED LIABILITY SIGNwCIRCLED KATAKANA AbIbUbEbObKAbIbUbEbOcSAbIbUbEbOcTAbIbUbEbOcNAb",
    "IbUbEbOcHAbIbUbEbOcMAbIbUbEbOcYAbUbOcRAbIbUbEbOcWAbIbEbOtSQUARE ERA NAME REIWAoAPAATOfRUHUAf",
    "NPEAeARUeININGUeTIeUONdESUKUUDOhEKAAfONSUdOMUeKAIRIdRATTOeORIIhGARONdNMAeIGAcNIIfKYURIIgGIRU",
    "DAAhKIROaGURAMUgMEETORUhWATTOjGURAMUaTONjKURUZEIROgOONEgEESUeORUNAeOPOfSAIKURUfNTIIMUhIRINGU",
    "gENTIbOfDAASUeESIdORUeTONdNANOdOTTOfHAITUfPAASENTOfTUfBAARERUhPIASUTORUhKURUdOeBIRUeHUARADDO",
    "gIITOgBUSSYERUiHURANeEKUTAARUjPESOcNIHIgHERUTUgPENSUdEZIfBEETAfPOINTOgBORUTOgHONdPONDOfHOORU",
    "cNeMAIKUROeRUdHHAdRUKUeNSYONgIKURONfRIaBAARUiEGAaTONfETORUhYAADOcRUeUANeRITTORUfRAdUPIIdUBUR",
    "UgEMUcNTOGENiWATTOmIDEOGRAPHIC TELEGRAPH SYMBOL FOR HOUR ZEROeONEdTWOcHREEfFOURdIVEeSIXcEVEN",
    "fEIGHTfNINEeTENdELEVENgTWELVEfHIRTEENiFOURTEENhIFTEENhSIXTEENgEVENTEENjEIGHTEENiNINETEENiTWE",
    "NTYa-ONEdTWOcHREEfFOURx+SQUARE HPAdDAcAUcBARdOVcPCcDMa SQUAREDhCUBEDiIUcERA NAME HEISEIgSYOU",
    "WAgTAISYOUhMEIZIoCORPORATIONlPA AMPShNAcMU AdAcKAbBcMBcGBcCALdKCALePFcNFcMU FbGdGcKGcHZcKHZd",
    "MHZdGHZdTHZdMU LdLcDLcKLcFMcNMcMU MdMcCMcKMcMM SQUAREDkCM SQUAREDkM SQUAREDjKM SQUAREDkMM CU",
    "BEDiCM CUBEDiM CUBEDhKM CUBEDiM OVER Sa SQUAREDqPAcKPAdMPAdGPAdRADa OVER Sa SQUAREDsPScNScMU",
    " SdScPVcNVcMU VdVcKVcMV MEGAhPWcNWcMU WdWcKWcMW MEGAhK OHMfM OHMfAMcBQcCCbDb OVER KGiOcDBcGY",
    "cHAbPcINcKKbM CAPITALjTcLMbNbOGcXcMB SMALLhILcOLdPHbMbPMcRcSRbVcWBcV OVER MiA OVER MpIDEOGRA",
    "PHIC TELEGRAPH SYMBOL FOR DAY ONEdTWOcHREEfFOURdIVEeSIXcEVENfEIGHTfNINEeTENdELEVENgTWELVEfHI",
    "RTEENiFOURTEENhIFTEENhSIXTEENgEVENTEENjEIGHTEENiNINETEENiTWENTYa-ONEdTWOcHREEfFOURdIVEeSIXcE",
    "VENfEIGHTfNINEkHIRTYa-ONEv+SQUARE GAL"]⟩,
  ⟨0x4DC0, [
    "HEXAGRAM FOR THE CREATIVE HEAVENpRECEPTIVE EARTHtDIFFICULTY AT THE BEGINNINGb+YOUTHFUL FOLLY",
    "oWAITINGhCONFLICTiTHE ARMYiHOLDING TOGETHERqSMALL TAMINGmTREADINGiPEACEfSTANDSTILLkFELLOWSHI",
    "PkGREAT POSSESSIONqMODESTYhENTHUSIASMkFOLLOWINGjWORK ON THE DECAYEDtAPPROACHiCONTEMPLATIONnB",
    "ITING THROUGHoGRACEfSPLITTING APARTpRETURNgINNOCENCEjGREAT TAMINGmMOUTH CORNERSnGREAT PREPON",
    "DERANCEtTHE ABYSMAL WATERnCLINGING FIRErINFLUENCEjDURATIONiRETREAThGREAT POWERlPROGRESSiDARK",
    "ENING OF THE LIGHTwTHE FAMILYkOPPOSITIONjBSTRUCTIONlDELIVERANCEjCREASEiINCREASEiBREAKTHROUGH",
    "mCOMING TO MEEToGATHERING TOGETHERsPUSHING UPWARDoOPPRESSIONkTHE WELLiREVOLUTIONkTHE CAULDRO",
    "NiAROUSING THUNDERqKEEPING STILL MOUNTAINa+DEVELOPMENTlTHE MARRYING MAIDENtABUNDANCEjTHE WAN",
    "DERERiGENTLE WINDlJOYOUS LAKEpDISPERSIONkLIMITATIONkINNER TRUTHlSMALL PREPONDERANCEtAFTER CO",
    "MPLETIONqBEFORE COMPLETION"]⟩,
  ⟨0xA000, [
    "YI SYLLABLE ITbXbaPbETbXbaPdATbXbaPcUOXbaPdOTbXbaPcEXbbWUcBITbXbaPbETbXbaPdATbXbaPcUOXbaPdOT",
    "bXbaPcEXbaPcUTbXbaPbRXbcYTbXbaPbRXbdPITbXbaPbEXbaPdATbXbaPcUOXbaPdOTbXbaPcUTbXbaPbRXbcYTbXba",
    "PbRXbdBBITbXbaPbETbXbaPdATbXbaPcUOXbaPdOTbXbaPcEXbaPcUTbXbaPbRXbcYTbXbaPeNBITbXbaPbEXbaPdATb",
    "XbaPcOTbXbaPcUTbXbaPbRXbcYTbXbaPbRXbeHMITbXbaPbEXbaPdATbXbaPcUOXbaPdOTbXbaPcUTbXbaPbRXbcYXba",
    "PbRXbeMITbXbaPbEXbaPdATbXbaPcUOTbXbaPdOTbXbaPcEXbbUTbXbaPbRXbcYTbXbaPdFITbXbaPcATbXbaPcOXbaP",
    "cUTbXbaPbRXbcYTbXbaPdVITbXbaPbETbXbaPdATbXbaPcOTbXbaPcEXbPcUTbXbaPbRXbcYTbXbaPbRXbdDITbXbaPb",
    "EXbaPdATbXbaPcUOXbcOTbXbaPcEXbaPcUTbXbaPbRXbdTITbXbaPbEXbaPdATbXbaPcUOTbXbaPdOTbXbaPcEXbaPcU",
    "TbXbaPbRXbdDDITbXbaPbEXbaPdATbXbaPcUOXbaPdOTbXbaPcEXbaPcUTbXbaPbRXbeNDITbXbaPbEXbcATbXbaPcOT",
    "bXbaPcEXbaPcUTbXbaPbRXbeHNITbXbaPbETbXbaPdATbXbaPcUOXbcOTbXbPcEXbaPcUTeNITbXbaPbEXbaPdAXbaPc",
    "UOXbaPdOTbXbaPcEXbaPcUTbXbaPbRXbdHLITbXbaPbEXbaPdATbXbaPcUOXbaPdOXbaPcEXbaPcUTbXbaPbRXbcYTbX",
    "baPbRXbeLITbXbaPbETbXbaPdATbXbaPcUOTbXbaPdOTbXbaPcEXbaPcUTbXbaPbRXbcYTbXbaPbRXbdGITbXbaPbETb",
    "XbaPdATbXbaPcUOTbXbaPdOTbXbaPcETbXbaPcUTbXbaPbRXbdKITbXbaPbEXbaPdATbXbaPcUOXbaPdOTbXbaPcETbX",
    "baPcUTbXbaPbRXbdGGITbXbaEXbaPdATbXbaPcUOTbXbaPdOTbXbaPcETbXbaPcUTbXbaPbRXbeMGIEXbcATbXbaPcUO",
    "XbaPdOTbXbaPcEXbaPcUTbXbaPbRXbeHXITbXbaPbETbXbaPdATbXbaPcUOTbXbaPdOTbXbaPcEXbaPeNGIEXbaPdATb",
    "XbaPcUOTbXbcOTbXbaPcEXbaPeHITbEXbcATbXbaPcUOTbXbaPdOTbXbaPcEXbaPdWATbXbaPcUOXbaPdOXbaPcEXbaP",
    "dZITbXbaPbEXbaPdATbXbaPcUOXbaPdOTbXbaPcEXbaPcUTbXbaPbRXbcYTbXbaPbRXbdCITbXbaPbETbXbaPdATbXba",
    "PcUOXbaPdOTbXbaPcEXbaPcUTbXbaPbRXbcYTbXbaPbRXbdZZITbXbaPbETbXbaPdATbXbaPcOXbaPcEXbaPcUXbaPbR",
    "XbcYTbXbaPbRXbeNZITbXbaPbEXbaPdATbXbaPcUOXbcOXbPcEXbbUXbaPbRXbcYTbXbaPbRXbeSITbXbaPbEXbaPdAT",
    "bXbaPcUOXbaPdOTbXbaPcEXbaPcUTbXbaPbRXbcYTbXbaPbRXbcSITbXbaPbEXbaPdATbXbaPcOTbXbaPcEXbaPcUTbX",
    "baPcYTbXbaPbRXbeZHATbXbaPcUOXbaPdOTbXbaPcETbXbaPcUTbXbaPbRXbcYTbXbaPbRXbeCHATbXbaPcUOTbXbaPd",
    "OTbXbaPcETbXbaPcUXbaPbRXbcYTbXbaPbRXbeRRAXbbUOXbcOTbXbaPcETbXbaPcUTbXbaPbRXbcYTbXbaPbRXbeNRA",
    "TbXbaPcOXbaPcETbXbaPcUTbXbaPbRXbcYTbXbaPbRXbeSHATbXbaPcUOXbaPdOTbXbaPcETbXbaPcUTbXbaPbRXbcYT",
    "bXbaPbRXbeRATbXbaPcUOXbaPdOTbXbaPcEXbaPcUTbXbaPbRXbcYTbXbaPbRXbdJITbXbaPbETbXbaPdUOTbXbaPdOT",
    "bXbaPcUTbXbaPbRXbcYTbXbaPbRXbdQITbXbaPbETbXbaPdUOTbXbaPdOTbXbaPcUTbXbaPbRXbcYTbXbaPbRXbdJJIT",
    "bXbaPbETbXbaPdUOXbaPdOTbXbaPcUTbXbaPbRXbcYTbXbaPeNJITbXbaPbETbXbaPdUOXbcOTbXbaPcUXbaPbRXbcYT",
    "bXbaPbRXbdYITbXbaPbETbXbaPdUOXbaPdOTbXbaPcUTbXbaPeXITbXbaPbETbXbaPdUOXbcOTbXbaPcYTbXbaPbRXbd",
    "YITbXbaPbETbXbaPdUOTbXbaPdOTbXbaPcUTbXbaPbRXbcYTbXbaPbRXbaaamRADICAL QOTdLIcKITdNYIPeCYPdSSI",
    "dGGOPdEPdMIcHXITeLYRdBBUTeMOPdYOcPUTdHXUOeTATdGAcZUPdCYTdDDUReBURdGGUOeNYOPeTUcOPcJJUTeZOTdP",
    "YTdHMOdYITdVURdSHYdVEPdZAcJOcNZUPeJJYdGOTdJJIEeWOcDUcSHUReLIEdCYbUOPdIPdHXOPeSHATeZURdSHOPeC",
    "HEdZZIETfNBIEeKE"]⟩,
  ⟨0xA4D0, [
    "LISU LETTER BAcPAbHAdDAcTAbHAdGAcKAbHAdJAcCAbHAdDZAdTSAbHAeMAcNAcLAcSAcZHAcAcNGAdHAcXAcHHAdF",
    "AcWAcSHAdYAcGHAdAaEcEaUcIbObUaEbHcOEcTONE MYA TIgNA POfMYA CYAdBOcNAcJEUtPUNCTUATION COMMAfF",
    "ULL STOPa+VAI SYLLABLE EEaNdHEEdWEEaNePEEdBHEEdEEdMBEEeKPEEeMGBEEfGBEEeFEEdVEEdTEEcHEEeDHEEc",
    "HEEfLEEdREEdDEEdNDEEeSEEcHEEeZEEcHEEeCEEdJEEdNJEEeYEEdKEEdNGGEEfGEEdMEEdNEEcYEEeIaNcHIaNdWIa",
    "NdPIcBHIcIcMBIdKPIdMGBIeGBIdFIcVIcTIbHIdDHIbHIeLIcRIcDIcNDIdSIbHIdZIbHIdCIcJIcNJIdYIcKIcNGGI",
    "eGIcMIcNIbYIdAaNcNGANeHAaNdWAaNdPAcBHAcAcMBAdKPAaNeMGBAeGBAdFAcVAcTAbHAdDHAbHAeLAcRAcDAcNDAd",
    "SAbHAdZAbHAdCAcJAcNJAdYAcKAaNdNGGAeGAcMAcNAbYAdOOaNdHOOdWOOaNePOOdBHOOdOOdMBOOeKPOOeMGBOOfGB",
    "OOeFOOdVOOdTOOcHOOeDHOOcHOOfLOOdROOdDOOdNDOOeSOOcHOOeZOOcHOOeCOOdJOOdNJOOeYOOdKOOdNGGOOfGOOd",
    "MOOdNOOcYOOeUaNcHUaNdWUaNdPUcBHUcUcMBUdKPUdMGBUeGBUdFUcVUcTUbHUdDHUbHUeLUcRUcDUcNDUdSUbHUdZU",
    "bHUdCUcJUcNJUdYUcKUcNGGUeGUcMUcNUbYUdOaNcNGONeHOaNdWOaNdPOcBHOcOcMBOdKPOdMGBOeGBOaNeFOcVOcTO",
    "bHOdDHObHOeLOcROcDOcNDOdSObHOdZObHOdCOcJOcNJOdYOcKOcNGGOeGOcMOcNObYOdEaNcNGENeHEaNdWEaNdPEcB",
    "HEcEcMBEdKPEaNeMGBEeGBEaNeFEcVEcTEbHEdDHEbHEeLEcREcDEcNDEdSEbHEdZEbHEdCEcJEcNJEdYEcKEcNGGEaN",
    "fGEaNdMEcNEbYEcGcLENGTHENERtCOMMAfFULL STOPjQUESTION MARKnSYLLABLE NDOLE FAcKAcSOOqMBOL FEEN",
    "GfKEENGfTINGeNIIdBANGeFAAdTAAdDANGdOONGfKUNGeTONGeDO-OeJONGlDIGIT ZEROeONEdTWOcHREEfFOURdIVE",
    "eSIXcEVENfEIGHTfNINEkSYLLABLE NDOLE MAcDO"]⟩,
  ⟨0xA640, [
    "CYRILLIC CAPITAL LETTER ZEMLYAvSMALL LETTER ZEMLYAtCAPITAL LETTER DZELOuSMALL LETTER DZELOsC",
    "APITAL LETTER REVERSED DZEb+SMALL LETTER REVERSED DZEzCAPITAL LETTER IOTAtSMALL LETTER IOTAr",
    "CAPITAL LETTER DJERVuSMALL LETTER DJERVsCAPITAL LETTER MONOGRAPH UKb+SMALL LETTER MONOGRAPH ",
    "UKzCAPITAL LETTER BROAD OMEGAa+SMALL LETTER BROAD OMEGAyCAPITAL LETTER NEUTRAL YERa+SMALL LE",
    "TTER NEUTRAL YERyCAPITAL LETTER YERU WITH BACK YERh+SMALL LETTER YERU WITH BACK YERf+CAPITAL",
    " LETTER IOTIFIED YATb+SMALL LETTER IOTIFIED YATzCAPITAL LETTER REVERSED YUa+SMALL LETTER REV",
    "ERSED YUyCAPITAL LETTER IOTIFIED AzSMALL LETTER IOTIFIED AxCAPITAL LETTER CLOSED LITTLE YUSg",
    "+SMALL LETTER CLOSED LITTLE YUSe+CAPITAL LETTER BLENDED YUSa+SMALL LETTER BLENDED YUSyCAPITA",
    "L LETTER IOTIFIED CLOSED LITTLE YUSp+SMALL LETTER IOTIFIED CLOSED LITTLE YUSn+CAPITAL LETTER",
    " YNrSMALL LETTER YNpCAPITAL LETTER REVERSED TSEb+SMALL LETTER REVERSED TSEzCAPITAL LETTER SO",
    "FT DEwSMALL LETTER SOFT DEuCAPITAL LETTER SOFT ELwSMALL LETTER SOFT ELuCAPITAL LETTER SOFT E",
    "MwSMALL LETTER SOFT EMuCAPITAL LETTER MONOCULAR Oa+SMALL LETTER MONOCULAR OyCAPITAL LETTER B",
    "INOCULAR Oa+SMALL LETTER BINOCULAR OyCAPITAL LETTER DOUBLE MONOCULAR Oh+SMALL LETTER DOUBLE ",
    "MONOCULAR Of+LETTER MULTIOCULAR Oc+OMBINING CYRILLIC VZMETfTEN MILLIONS SIGNrHUNDRED MILLION",
    "S SIGNvTHOUSAND MILLIONS SIGNp+SLAVONIC ASTERISKrCOMBINING CYRILLIC LETTER UKRAINIAN IEmIbYI",
    "cUbHARD SIGNjYERUeSOFT SIGNjOMEGAmKAVYKAgPAYEROKzYRILLIC KAVYKAgPAYEROKhCAPITAL LETTER DWEsS",
    "MALL LETTER DWEqCAPITAL LETTER DZWEtSMALL LETTER DZWErCAPITAL LETTER ZHWEtSMALL LETTER ZHWEr",
    "CAPITAL LETTER CCHEtSMALL LETTER CCHErCAPITAL LETTER DZZEtSMALL LETTER DZZErCAPITAL LETTER T",
    "E WITH MIDDLE HOOKi+SMALL LETTER TE WITH MIDDLE HOOKg+CAPITAL LETTER TWEsSMALL LETTER TWEqCA",
    "PITAL LETTER TSWEtSMALL LETTER TSWErCAPITAL LETTER TSSEtSMALL LETTER TSSErCAPITAL LETTER TCH",
    "EtSMALL LETTER TCHErCAPITAL LETTER HWEsSMALL LETTER HWEqCAPITAL LETTER SHWEtSMALL LETTER SHW",
    "ErCAPITAL LETTER DOUBLE OxSMALL LETTER DOUBLE OvCAPITAL LETTER CROSSED OySMALL LETTER CROSSE",
    "D Of+MODIFIER LETTER CYRILLIC HARD SIGNjSOFT SIGNi+COMBINING CYRILLIC LETTER EFcIOTIFIED Ek+",
    "BAMUM LETTER AbKAcUbKUcEEcREEdTAEdObNYIdIbLAcPAcRIIbEEeLEEEEfMEEEEfTAAdNDAAdJAEMfMbSUUdMUcSH",
    "IIdIbHEUXeEUXeKYEEdETdNUAEcbJUAEfYOQdSHUdYUQcAcNSHAeKEUXePEUXeNJEEdTEEePUEdWUEdPEEdFEEdRUcLU",
    "cMIcNIcREUXdAEdKENdNGKWAENfGAcAdSHOdPUAEeFUbOMdWAcNAcLIcPIcLOQdKOcMBENeRENdMENcAcTIcKIcMObBA",
    "AeTETdKPAdTENdNTUUeSAMBAfFAAMAEgKOVUUdGHOMnCOMBINING MARK KOQNDONhTUKWENTISyNJAEMLIhFULL STO",
    "PjCOLONdMMAfSEMICOLONjQUESTION MARK"]⟩,
  ⟨0xA700, [
    "MODIFIER LETTER CHINESE TONE YIN PINGhANG PINGiIN SHANGiANG SHANGjIN QUfANG QUgIN RUfANG RUu",
    "EXTRA-HIGH DOTTED TONE BARa+HIGH DOTTED TONE BARuMID DOTTED TONE BARtLOW DOTTED TONE BARtEXT",
    "RA-LOW DOTTED TONE BARtHIGH DOTTED LEFT-STEM TONE BARk+HIGH DOTTED LEFT-STEM TONE BARe+MID D",
    "OTTED LEFT-STEM TONE BARd+LOW DOTTED LEFT-STEM TONE BARd+EXTRA-LOW DOTTED LEFT-STEM TONE BAR",
    "d+HIGH LEFT-STEM TONE BARd+HIGH LEFT-STEM TONE BARxMID LEFT-STEM TONE BARwLOW LEFT-STEM TONE",
    " BARwEXTRA-LOW LEFT-STEM TONE BARc+DOT VERTICAL BARmSLASHfHORIZONTAL BARsLOWER RIGHT CORNER ",
    "ANGLEyRAISED UP ARROWiDOWN ARROWkEXCLAMATION MARKqINVERTED EXCLAMATION MARKg+LOW INVERTED EX",
    "CLAMATION MARKd+STRESS AND HIGH TONEjLOW TONEj+LATIN CAPITAL LETTER EGYPTOLOGICAL ALEFh+SMAL",
    "L LETTER EGYPTOLOGICAL ALEFf+CAPITAL LETTER EGYPTOLOGICAL AINg+SMALL LETTER EGYPTOLOGICAL AI",
    "Ne+CAPITAL LETTER HENGtSMALL LETTER HENGrCAPITAL LETTER TZrSMALL LETTER TZpCAPITAL LETTER TR",
    "ESILLOxSMALL LETTER TRESILLOvCAPITAL LETTER CUATRILLOySMALL LETTER CUATRILLOwCAPITAL LETTER ",
    "CUATRILLO WITH COMMAj+SMALL LETTER CUATRILLO WITH COMMAh+LETTER SMALL CAPITAL FbSwCAPITAL LE",
    "TTER AArSMALL LETTER AApCAPITAL LETTER AOrSMALL LETTER AOpCAPITAL LETTER AUrSMALL LETTER AUp",
    "CAPITAL LETTER AVrSMALL LETTER AVpCAPITAL LETTER AV WITH HORIZONTAL BARl+SMALL LETTER AV WIT",
    "H HORIZONTAL BARj+CAPITAL LETTER AYrSMALL LETTER AYpCAPITAL LETTER REVERSED C WITH DOTi+SMAL",
    "L LETTER REVERSED C WITH DOTg+CAPITAL LETTER K WITH STROKEc+SMALL LETTER K WITH STROKEa+CAPI",
    "TAL LETTER K WITH DIAGONAL STROKEl+SMALL LETTER K WITH DIAGONAL STROKEj+CAPITAL LETTER K WIT",
    "H STROKE AND DIAGONAL STROKEw+SMALL LETTER K WITH STROKE AND DIAGONAL STROKEu+CAPITAL LETTER",
    " BROKEN LxSMALL LETTER BROKEN LvCAPITAL LETTER L WITH HIGH STROKEh+SMALL LETTER L WITH HIGH ",
    "STROKEf+CAPITAL LETTER O WITH LONG STROKE OVERLAYp+SMALL LETTER O WITH LONG STROKE OVERLAYn+",
    "CAPITAL LETTER O WITH LOOPa+SMALL LETTER O WITH LOOPyCAPITAL LETTER OOrSMALL LETTER OOpCAPIT",
    "AL LETTER P WITH STROKE THROUGH DESCENDERu+SMALL LETTER P WITH STROKE THROUGH DESCENDERs+CAP",
    "ITAL LETTER P WITH FLOURISHe+SMALL LETTER P WITH FLOURISHc+CAPITAL LETTER P WITH SQUIRREL TA",
    "ILj+SMALL LETTER P WITH SQUIRREL TAILh+CAPITAL LETTER Q WITH STROKE THROUGH DESCENDERu+SMALL",
    " LETTER Q WITH STROKE THROUGH DESCENDERs+CAPITAL LETTER Q WITH DIAGONAL STROKEl+SMALL LETTER",
    " Q WITH DIAGONAL STROKEj+CAPITAL LETTER R ROTUNDAySMALL LETTER R ROTUNDAwCAPITAL LETTER RUM ",
    "ROTUNDAa+SMALL LETTER RUM ROTUNDAyCAPITAL LETTER V WITH DIAGONAL STROKEl+SMALL LETTER V WITH",
    " DIAGONAL STROKEj+CAPITAL LETTER VYrSMALL LETTER VYpCAPITAL LETTER VISIGOTHIC Zb+SMALL LETTE",
    "R VISIGOTHIC ZzCAPITAL LETTER THORN WITH STROKEg+SMALL LETTER THORN WITH STROKEe+CAPITAL LET",
    "TER THORN WITH STROKE THROUGH DESCENDERy+SMALL LETTER THORN WITH STROKE THROUGH DESCENDERw+C",
    "APITAL LETTER VENDtSMALL LETTER VENDrCAPITAL LETTER ETrSMALL LETTER ETpCAPITAL LETTER ISrSMA",
    "LL LETTER ISpCAPITAL LETTER CONsSMALL LETTER CONwMODIFIER LETTER USsLATIN SMALL LETTER DUMdL",
    "UMdMUMdNUMdRUMqLETTER SMALL CAPITAL RUMySMALL LETTER TUMdUMpCAPITAL LETTER INSULAR DySMALL L",
    "ETTER INSULAR DwCAPITAL LETTER INSULAR FySMALL LETTER INSULAR FwCAPITAL LETTER INSULAR GjTUR",
    "NED INSULAR Gf+SMALL LETTER TURNED INSULAR Gd+CAPITAL LETTER TURNED LxSMALL LETTER TURNED Lv",
    "CAPITAL LETTER INSULAR RySMALL LETTER INSULAR RwCAPITAL LETTER INSULAR SySMALL LETTER INSULA",
    "R SwCAPITAL LETTER INSULAR TySMALL LETTER INSULAR Tc+MODIFIER LETTER LOW CIRCUMFLEX ACCENTvC",
    "OLONfSHORT EQUALS SIGNh+LATIN CAPITAL LETTER SALTILLOxSMALL LETTER SALTILLOvCAPITAL LETTER T",
    "URNED HxSMALL LETTER L WITH RETROFLEX HOOK AND BELTr+LETTER SINOLOGICAL DOTwCAPITAL LETTER N",
    " WITH DESCENDERf+SMALL LETTER N WITH DESCENDERd+CAPITAL LETTER C WITH BARzSMALL LETTER C WIT",
    "H BARdPALATAL HOOKtH WITH PALATAL HOOKg+CAPITAL LETTER B WITH FLOURISHe+SMALL LETTER B WITH ",
    "FLOURISHc+CAPITAL LETTER F WITH STROKEc+SMALL LETTER F WITH STROKEa+CAPITAL LETTER VOLAPUK A",
    "EzSMALL LETTER VOLAPUK AExCAPITAL LETTER VOLAPUK OEzSMALL LETTER VOLAPUK OExCAPITAL LETTER V",
    "OLAPUK UEzSMALL LETTER VOLAPUK UExCAPITAL LETTER G WITH OBLIQUE STROKEk+SMALL LETTER G WITH ",
    "OBLIQUE STROKEi+CAPITAL LETTER K WITH OBLIQUE STROKEk+SMALL LETTER K WITH OBLIQUE STROKEi+CA",
    "PITAL LETTER N WITH OBLIQUE STROKEk+SMALL LETTER N WITH OBLIQUE STROKEi+CAPITAL LETTER R WIT",
    "H OBLIQUE STROKEk+SMALL LETTER R WITH OBLIQUE STROKEi+CAPITAL LETTER S WITH OBLIQUE STROKEk+",
    "SMALL LETTER S WITH OBLIQUE STROKEi+CAPITAL LETTER H WITH HOOKlREVERSED OPEN EpSCRIPT GiL WI",
    "TH BELTlSMALL CAPITAL Ie+LETTER SMALL CAPITAL QwCAPITAL LETTER TURNED KbTiJ WITH CROSSED-TAI",
    "LtCHIdBETAtSMALL LETTER BETArCAPITAL LETTER OMEGAuSMALL LETTER OMEGAsCAPITAL LETTER U WITH S",
    "TROKEc+SMALL LETTER U WITH STROKEa+CAPITAL LETTER GLOTTAL AySMALL LETTER GLOTTAL AwCAPITAL L",
    "ETTER GLOTTAL IySMALL LETTER GLOTTAL IwCAPITAL LETTER GLOTTAL UySMALL LETTER GLOTTAL UwCAPIT",
    "AL LETTER OLD POLISH Ob+SMALL LETTER OLD POLISH OzCAPITAL LETTER ANGLICANA Wa+SMALL LETTER A",
    "NGLICANA WyCAPITAL LETTER C WITH PALATAL HOOKtS WITH HOOKlZ WITH PALATAL HOOKtD WITH SHORT S",
    "TROKE OVERLAYq+SMALL LETTER D WITH SHORT STROKE OVERLAYo+CAPITAL LETTER S WITH SHORT STROKE ",
    "OVERLAYq+SMALL LETTER S WITH SHORT STROKE OVERLAYaaaaao+CAPITAL LETTER CLOSED INSULAR Gf+SMA",
    "LL LETTER CLOSED INSULAR GaqDOUBLE THORNafWYNNyCAPITAL LETTER MIDDLE SCOTS Sd+SMALL LETTER M",
    "IDDLE SCOTS Sb+CAPITAL LETTER SIGMOID SySMALL LETTER SIGMOID S"]⟩,
  ⟨0xA7F2, [
    "MODIFIER LETTER CAPITAL CbFbQzLATIN CAPITAL LETTER REVERSED HALF He+SMALL LETTER REVERSED HA",
    "LF Hc+EPIGRAPHIC LETTER SIDEWAYS Ii+MODIFIER LETTER CAPITAL H WITH STROKEvSMALL LIGATURE OEh",
    "+LATIN LETTER SMALL CAPITAL TURNED Md+EPIGRAPHIC LETTER REVERSED FbPkINVERTED Mj LONGAhARCHA",
    "IC Mh+SYLOTI NAGRI LETTER AbIiSIGN DVISVARAnLETTER UbEbOiSIGN HASANTAmLETTER KObHOdGObHOkSIG",
    "N ANUSVARAnLETTER CObHOdJObHOdTTObHOeDDObHOeTObHOdDObHOdNOcPObHOdBObHOdMOcROcLOcRROdSOcHOjVO",
    "WEL SIGN AbIbUbEbOOnPOETRY MARK-1b2b3b4nSIGN ALTERNATE HASANTAaaaj+NORTH INDIC FRACTION ONE ",
    "QUARTERhHALFiTHREE QUARTERSoONE SIXTEENTHjEIGHTHkTHREE SIXTEENTHSzQUARTER MARKmPLACEHOLDER M",
    "ARKqRUPEE MARKkQUANTITY MARKaaaaaazPHAGS-PA LETTER KAbHAdGAcNGAdCAbHAdJAcNYAdTAbHAdDAcNAcPAb",
    "HAdBAcMAcTSAbHAeDZAdWAcZHAcAcSMALL AhYAcRAcLAcSHAcAcHAcAbIbUbEbObQAcXAcFAcGGAdEEjSUBJOINED L",
    "ETTER WAcYAtLETTER TTAbHAeDDAdNNAdALTERNATE YAmVOICELESS SHAiD HAjASPIRATED FAtSUBJOINED LET",
    "TER RArPERFIXED LETTER RAuLETTER CANDRABINDUsSINGLE HEAD MARKqDOUBLE HEAD MARKqMARK SHADeDOU",
    "BLE SHAD"]⟩,
  ⟨0xA880, [
    "SAURASHTRA SIGN ANUSVARAiVISARGAmLETTER AaAcIaIcUaUcVOCALIC RaRcLaLkEaEcAIcOaOcAUcKAbHAdGAbH",
    "AdNGAdCAbHAdJAbHAdNYAdTTAbHAeDDAbHAeNNAdTAbHAdDAbHAdNAcPAbHAdBAbHAdMAcYAcRAcLAcVAcSHAcSAcAcH",
    "AcLLAkCONSONANT SIGN HAARUuVOWEL SIGN AAcIaIcUaUcVOCALIC RaRcLaLkEaEcAIcOaOcAUnSIGN VIRAMAgC",
    "ANDRABINDU"]⟩,
  ⟨0xA8CE, [
    "SAURASHTRA DANDAeOUBLE DANDAlIGIT ZEROeONEdTWOcHREEfFOURdIVEeSIXcEVENfEIGHTfNINEaaaaaavCOMBI",
    "NING DEVANAGARI DIGIT ZEROeONEdTWOcHREEfFOURdIVEeSIXcEVENfEIGHTfNINEkLETTER AbUbKAcNAcPAcRAc",
    "VIjSIGN AVAGRAHAi+DEVANAGARI SIGN SPACING CANDRABINDUtCANDRABINDU VIRAMAsDOUBLE CANDRABINDU ",
    "VIRAMAzCANDRABINDU TWOcHREEfAVAGRAHAuPUSHPIKAnGAP FILLERkCARETfHEADSTROKEkSIGN SIDDHAMmJAIN ",
    "OMhLETTER AYjVOWEL SIGN AYyKAYAH LI DIGIT ZEROeONEdTWOcHREEfFOURdIVEeSIXcEVENfEIGHTfNINEkLET",
    "TER KAbHAdGAcNGAdSAbHAdZAcNYAdTAcHTAdNAcPAbHAdMAcDAcBAcRAcYAcLAcWAcTHAdHAcVAcCAcAbOEcIbOOjVO",
    "WEL UEcEbUbEEcOhTONE PLOPHUgCALYAa PLOPHUrSIGN CWIdSHYAsREJANG LETTER KAcGAcNGAdTAcDAcNAcPAc",
    "BAcMAcCAcJAcNYAdSAcRAcLAcYAcWAcHAcMBAdNGGAdDAcYJAeAiVOWEL SIGN IbUbEbAIcObAUcEUbAnCONSONANT ",
    "SIGN NGbbRbHqVIRAMA"]⟩,
  ⟨0xA95F, [
    "REJANG SECTION MARKtHANGUL CHOSEONG TIKEUT-MIEUMfPIEUPfSIOSeCIEUCmRIEUL-KIYEOKgSSANGKIYEOKlT",
    "IKEUTgSSANGTIKEUTlMIEUMfPIEUPfSSANGPIEUPkKAPYEOUNPIEUPnSIOSeCIEUCfKHIEUKHnMIEUM-KIYEOKgTIKEU",
    "TgSIOSkPIEUP-SIOS-THIEUTHmKHIEUKHhHIEUHlSSANGSIOS-PIEUPpIEUNG-RIEULfHIEUHlSSANGCIEUC-HIEUHlT",
    "HIEUTHmPHIEUPH-HIEUHnHIEUH-SIOSkSSANGYEORINHIEUHaaag+JAVANESE SIGN PANYANGGAjCECAKfLAYARfWIG",
    "NYANmLETTER AbI KAWIfaIcUbPA CEREKiNGA LELETa RASWADIrEbAIcObKAa SASAKfMURDAiGAa MURDAiNGAdC",
    "Aa MURDAiJAcNYA MURDAjJA MAHAPRANAmNYAdTTAa MAHAPRANAnDDAa MAHAPRANAnNA MURDAiTAa MURDAiDAa ",
    "MAHAPRANAmNAcPAa MURDAiBAa MURDAiMAcYAcRAa AGUNGiLAcWAcSA MURDAeAHAPRANAkcHAjSIGN CECAK TELU",
    "pVOWEL SIGN TARUNGfOLONGgWULUa MELIKkSUKUa MENDUTlTALINGgDIRGA MUREkPEPETqCONSONANT SIGN KER",
    "ETfPENGKALhCAKRAuPANGKONhLEFT RERENGGANoRIGHT RERENGGANpPADA ANDAPfMADYAfLUHURfWINDUfPANGKAT",
    "hLINGSAfUNGSIgADEGa ADEGjPISELEHmTURNED PADA PISELEHatPANGRANGKEPlDIGIT ZEROeONEdTWOcHREEfFO",
    "URdIVEeSIXcEVENfEIGHTfNINEaaaakPADA TIRTA TUMETESnISEN-ISENxMYANMAR LETTER SHAN GHAdCHAdJHAd",
    "NNAdBHApSIGN SHAN SAWnMODIFIER LETTER SHAN REDUPLICATIONi+LETTER TAI LAING NYAdFAcGAbHAdJAbH",
    "AdDDAbHAeNNAuTAI LAING DIGIT ZEROeONEdTWOcHREEfFOURdIVEeSIXcEVENfEIGHTfNINEuLETTER TAI LAING",
    " LLAdDAbHAdBAbHAac+CHAM LETTER AbIbUbEbAIcObKAbHAdGAbHAdNGUEcAdCHAbHAeJAbHAdNHUEcAbJAeTAbHAd",
    "DAbHAdNUEcAcDDAdPAbPAcHAdBAbHAdMUEcAcBBAdYAcRAcLAcVAcSSAcAcHAjVOWEL SIGN AAcIaIcEIcUbOEbbAIb",
    "UcUEnCONSONANT SIGN YAcRAcLAcWA"]⟩,
  ⟨0xAA40, [
    "CHAM LETTER FINAL KbGbNGpCONSONANT SIGN FINAL NGxLETTER FINAL CHcTbNbPbYbRbLbSSpCONSONANT SI",
    "GN FINAL MbHaawDIGIT ZEROeONEdTWOcHREEfFOURdIVEeSIXcEVENfEIGHTfNINEaakPUNCTUATION SPIRALgDAN",
    "DAeOUBLE DANDAmTRIPLE DANDAd+MYANMAR LETTER KHAMTI GAcCAbHAdJAbHAdNYAdTTAbHAeDDAbHAdHAdNAcSA",
    "cHAbHAdFAqMODIFIER LETTER KHAMTI REDUPLICATIONk+LETTER KHAMTI XAcZAcRApOGOGRAM KHAMTI OAYdQN",
    "cHMsSYMBOL AITON EXCLAMATIONlONEdTWOqLETTER AITON RApSIGN PAO KAREN TONEoTAI LAING TONE-2b5v",
    "LETTER SHWE PALAUNG CHAdSHAf+TAI VIET LETTER LOW KOgHIGH KOhLOW KHOhHIGH KHOiLOW KHHOiHIGH K",
    "HHOjLOW GOgHIGH GOhLOW NGOhHIGH NGOiLOW COgHIGH COhLOW CHOhHIGH CHOiLOW SOgHIGH SOhLOW NYOhH",
    "IGH NYOiLOW DOgHIGH DOhLOW TOgHIGH TOhLOW THOhHIGH THOiLOW NOgHIGH NOhLOW BOgHIGH BOhLOW POg",
    "HIGH POhLOW PHOhHIGH PHOiLOW FOgHIGH FOhLOW MOgHIGH MOhLOW YOgHIGH YOhLOW ROgHIGH ROhLOW LOg",
    "HIGH LOhLOW VOgHIGH VOhLOW HOgHIGH HOhLOW OfHIGH OnMAI KANGiVOWEL AAcIbUEbbEbOhMAI KHITiVOWE",
    "L IAcUEAcAcAUEcYbNbMiTONE MAI EKcNUENGfTHOdSONG"]⟩,
  ⟨0xAADB, [
    "TAI VIET SYMBOL KONdNUENGfSAMdHO HOIgKOI KOIxMEETEI MAYEK LETTER EbObCHAdNYAdTTAbHAeDDAbHAeN",
    "NAdSHAcSAkVOWEL SIGN IIcUUcAAIcUbAUoCHEIKHANiAHANG KHUDAMlNJIeSYLLABLE REPETITION MARKyWORD ",
    "REPETITION MARKuVOWEL SIGN VISARGArIRAMA"]⟩,
  ⟨0xAB01, ["ETHIOPIC SYLLABLE TTHUbIbAAcEEbbOaaeDDHUbIbAAcEEbbOaadZUbIbAAcEEbbO"]⟩,
  ⟨0xAB20, [
    "ETHIOPIC SYLLABLE CCHHAbUbIbAAcEEbbOafBBAbUbIbAAcEEbbOavLATIN SMALL LETTER BARRED ALPHAmA RE",
    "VERSED-SCHWAqBLACKLETTER EmARRED EiE WITH FLOURISHpLENIS FhSCRIPT G WITH CROSSED-TAILa+L WIT",
    "H INVERTED LAZY SpDOUBLE MIDDLE TILDEtMIDDLE RINGsM WITH CROSSED-TAILtN WITH CROSSED-TAILtEN",
    "G WITH CROSSED-TAILvBLACKLETTER Oa WITH STROKEzOPEN O WITH STROKEsINVERTED OElTURNED OE WITH",
    " STROKEgHORIZONTAL STROKEy OPEN-Oa WITH STROKEb+STIRRUP RwLETTER SMALL CAPITAL R WITH RIGHT ",
    "LEGl+SMALL LETTER R WITHOUT HANDLEqDOUBLE RiR WITH CROSSED-TAILtDOUBLE R WITH CROSSED-TAILa+",
    "SCRIPT Ra WITH RINGsBASELINE ESHmU WITH SHORT RIGHT LEGuBAR WITH SHORT RIGHT LEGzIcTURNED UI",
    "jU WITH LEFT HOOKqCHIa WITH LOW RIGHT RINGkLEFT SERIFxX WITH LOW RIGHT RINGmNG LEFT LEGa AND",
    " LOW RIGHT RINGsWITH SERIFf+Y WITH SHORT RIGHT LEGp+MODIFIER BREVE WITH INVERTED BREVEzLETTE",
    "R SMALL HENGeL WITH INVERTED LAZY SpMIDDLE TILDEtU WITH LEFT HOOKm+LATIN SMALL LETTER SAKHA ",
    "YATjIOTIFIED EkOPEN OEhUOcINVERTED ALPHAh+GREEK LETTER SMALL CAPITAL OMEGAg+LATIN SMALL LETT",
    "ER DZ DIGRAPH WITH RETROFLEX HOOKe+TS DIGRAPH WITH RETROFLEX HOOKd+URNED R WITH MIDDLE TILDE",
    "t+MODIFIER LETTER SMALL TURNED WoLEFT TACKjRIGHT TACKaaaaa+CHEROKEE SMALL LETTER AbEbIbObUbV",
    "bGAcKAcGEbIbObUbVcHAbEbIbObUbVcLAbEbIbObUbVcMAbEbIbObUcNAcHNAdNAHcEbIbObUbVcQUAbEbIbObUbVdSA",
    "baEbIbObUbVcDAcTAcDEcTEcDIcTIcDObUbVbLAdTLAbEbIbObUbVcSAbEbIbObUbVdWAbEbIbObUbVcYAyMEETEI MA",
    "YEK LETTER KOKdSAMdLAIdMITdPAcNAcCHILeTILdKHOUeNGOUeTHOUeWAIdYANGeHUKdUNcIbPHAMeATIYAfGOKdJH",
    "AMeRAIdBAcJILdDILdGHOUeDHOUeBHAMeKOK LONSUMkLAI LONSUMkMIT LONSUMkPA LONSUMjNA LONSUMjTIL LO",
    "NSUMkNGOU LONSUMlI LONSUMpVOWEL SIGN ONAPeINAPeANAPeYENAPfSOUNAPgUNAPeCHEINAPhNUNGpCHEIKHEIi",
    "LUM IYEKiAPUN IYEKaajDIGIT ZEROeONEdTWOcHREEfFOURdIVEeSIXcEVENfEIGHTfNINE"]⟩]

end ArgRules.Text.CharacterName
