import ArgRules.Text.CharacterName.Block

/-!
# Names of characters: the alphabets of Europe and Hebrew

The names of the characters from U+0020 to U+05FF in Unicode 14.0, in blocks of code points.
-/

namespace ArgRules.Text.CharacterName

/-- The names of the alphabets of Europe and Hebrew. -/
def european : List Block := [
  ⟨0x20, [
    "SPACEfEXCLAMATION MARKqQUOTATION MARKoNUMBER SIGNlDOLLAR SIGNlPERCENT SIGNmAMPERSANDiPOSTROP",
    "HEkLEFT PARENTHESISqRIGHT PARENTHESISrASTERISKiPLUS SIGNjCOMMAfHYPHEN-MINUSmFULL STOPjSOLIDU",
    "ShDIGIT ZEROeONEdTWOcHREEfFOURdIVEeSIXcEVENfEIGHTfNINEkCOLONfSEMICOLONjLESS-THAN SIGNoEQUALS",
    " SIGNlGREATER-THAN SIGNrQUESTION MARKnCOMMERCIAL ATnLATIN CAPITAL LETTER AbBbCbDbEbFbGbHbIbJ",
    "bKbLbMbNbObPbQbRbSbTbUbVbWbXbYbZvEFT SQUARE BRACKETtREVERSE SOLIDUSoIGHT SQUARE BRACKETuCIRC",
    "UMFLEX ACCENTrLOW LINEiGRAVE ACCENTmLATIN SMALL LETTER AbBbCbDbEbFbGbHbIbJbKbLbMbNbObPbQbRbS",
    "bTbUbVbWbXbYbZtEFT CURLY BRACKETsVERTICAL LINEnRIGHT CURLY BRACKETtTILDE"]⟩,
  ⟨0xA0, [
    "NO-BREAK SPACEoINVERTED EXCLAMATION MARKzCENT SIGNjPOUND SIGNkCURRENCY SIGNnYEN SIGNiBROKEN ",
    "BARkSECTION SIGNmDIAERESISjCOPYRIGHT SIGNoFEMININE ORDINAL INDICATORa+LEFT-POINTING DOUBLE A",
    "NGLE QUOTATION MARKp+NOT SIGNiSOFT HYPHENlREGISTERED SIGNpMACRONgDEGREE SIGNlPLUS-MINUS SIGN",
    "pSUPERSCRIPT TWOcHREErACUTE ACCENTmMICRO SIGNkPILCROW SIGNmMIDDLE DOTkCEDILLAhSUPERSCRIPT ON",
    "EpMASCULINE ORDINAL INDICATORb+RIGHT-POINTING DOUBLE ANGLE QUOTATION MARKq+VULGAR FRACTION O",
    "NE QUARTERhHALFiTHREE QUARTERSe+INVERTED QUESTION MARKwLATIN CAPITAL LETTER A WITH GRAVEfACU",
    "TEfCIRCUMFLEXkTILDEfDIAERESISjRING ABOVEqEcC WITH CEDILLAoE WITH GRAVEfACUTEfCIRCUMFLEXkDIAE",
    "RESISqI WITH GRAVEfACUTEfCIRCUMFLEXkDIAERESISqETHdN WITH TILDEmO WITH GRAVEfACUTEfCIRCUMFLEX",
    "kTILDEfDIAERESISl+MULTIPLICATION SIGNtLATIN CAPITAL LETTER O WITH STROKEnU WITH GRAVEfACUTEf",
    "CIRCUMFLEXkDIAERESISqY WITH ACUTEmTHORNuSMALL LETTER SHARP ShA WITH GRAVEfACUTEfCIRCUMFLEXkT",
    "ILDEfDIAERESISjRING ABOVEqEcC WITH CEDILLAoE WITH GRAVEfACUTEfCIRCUMFLEXkDIAERESISqI WITH GR",
    "AVEfACUTEfCIRCUMFLEXkDIAERESISqETHdN WITH TILDEmO WITH GRAVEfACUTEfCIRCUMFLEXkTILDEfDIAERESI",
    "Sj+DIVISION SIGNnLATIN SMALL LETTER O WITH STROKEnU WITH GRAVEfACUTEfCIRCUMFLEXkDIAERESISqY ",
    "WITH ACUTEmTHORNfY WITH DIAERESISd+CAPITAL LETTER A WITH MACRONc+SMALL LETTER A WITH MACRONa",
    "+CAPITAL LETTER A WITH BREVEb+SMALL LETTER A WITH BREVEzCAPITAL LETTER A WITH OGONEKc+SMALL ",
    "LETTER A WITH OGONEKa+CAPITAL LETTER C WITH ACUTEb+SMALL LETTER C WITH ACUTEzCAPITAL LETTER ",
    "C WITH CIRCUMFLEXg+SMALL LETTER C WITH CIRCUMFLEXe+CAPITAL LETTER C WITH DOT ABOVEf+SMALL LE",
    "TTER C WITH DOT ABOVEd+CAPITAL LETTER C WITH CARONb+SMALL LETTER C WITH CARONzCAPITAL LETTER",
    " D WITH CARONb+SMALL LETTER D WITH CARONzCAPITAL LETTER D WITH STROKEc+SMALL LETTER D WITH S",
    "TROKEa+CAPITAL LETTER E WITH MACRONc+SMALL LETTER E WITH MACRONa+CAPITAL LETTER E WITH BREVE",
    "b+SMALL LETTER E WITH BREVEzCAPITAL LETTER E WITH DOT ABOVEf+SMALL LETTER E WITH DOT ABOVEd+",
    "CAPITAL LETTER E WITH OGONEKc+SMALL LETTER E WITH OGONEKa+CAPITAL LETTER E WITH CARONb+SMALL",
    " LETTER E WITH CARONzCAPITAL LETTER G WITH CIRCUMFLEXg+SMALL LETTER G WITH CIRCUMFLEXe+CAPIT",
    "AL LETTER G WITH BREVEb+SMALL LETTER G WITH BREVEzCAPITAL LETTER G WITH DOT ABOVEf+SMALL LET",
    "TER G WITH DOT ABOVEd+CAPITAL LETTER G WITH CEDILLAd+SMALL LETTER G WITH CEDILLAb+CAPITAL LE",
    "TTER H WITH CIRCUMFLEXg+SMALL LETTER H WITH CIRCUMFLEXe+CAPITAL LETTER H WITH STROKEc+SMALL ",
    "LETTER H WITH STROKEa+CAPITAL LETTER I WITH TILDEb+SMALL LETTER I WITH TILDEzCAPITAL LETTER ",
    "I WITH MACRONc+SMALL LETTER I WITH MACRONa+CAPITAL LETTER I WITH BREVEb+SMALL LETTER I WITH ",
    "BREVEzCAPITAL LETTER I WITH OGONEKc+SMALL LETTER I WITH OGONEKa+CAPITAL LETTER I WITH DOT AB",
    "OVEf+SMALL LETTER DOTLESS IwCAPITAL LIGATURE IJtSMALL LIGATURE IJrCAPITAL LETTER J WITH CIRC",
    "UMFLEXg+SMALL LETTER J WITH CIRCUMFLEXe+CAPITAL LETTER K WITH CEDILLAd+SMALL LETTER K WITH C",
    "EDILLAnRAqCAPITAL LETTER L WITH ACUTEb+SMALL LETTER L WITH ACUTEzCAPITAL LETTER L WITH CEDIL",
    "LAd+SMALL LETTER L WITH CEDILLAb+CAPITAL LETTER L WITH CARONb+SMALL LETTER L WITH CARONzCAPI",
    "TAL LETTER L WITH MIDDLE DOTg+SMALL LETTER L WITH MIDDLE DOTe+CAPITAL LETTER L WITH STROKEc+",
    "SMALL LETTER L WITH STROKEa+CAPITAL LETTER N WITH ACUTEb+SMALL LETTER N WITH ACUTEzCAPITAL L",
    "ETTER N WITH CEDILLAd+SMALL LETTER N WITH CEDILLAb+CAPITAL LETTER N WITH CARONb+SMALL LETTER",
    " N WITH CARONkPRECEDED BY APOSTROPHEl+CAPITAL LETTER ENGsSMALL LETTER ENGqCAPITAL LETTER O W",
    "ITH MACRONc+SMALL LETTER O WITH MACRONa+CAPITAL LETTER O WITH BREVEb+SMALL LETTER O WITH BRE",
    "VEzCAPITAL LETTER O WITH DOUBLE ACUTEi+SMALL LETTER O WITH DOUBLE ACUTEg+CAPITAL LIGATURE OE",
    "tSMALL LIGATURE OErCAPITAL LETTER R WITH ACUTEb+SMALL LETTER R WITH ACUTEzCAPITAL LETTER R W",
    "ITH CEDILLAd+SMALL LETTER R WITH CEDILLAb+CAPITAL LETTER R WITH CARONb+SMALL LETTER R WITH C",
    "ARONzCAPITAL LETTER S WITH ACUTEb+SMALL LETTER S WITH ACUTEzCAPITAL LETTER S WITH CIRCUMFLEX",
    "g+SMALL LETTER S WITH CIRCUMFLEXe+CAPITAL LETTER S WITH CEDILLAd+SMALL LETTER S WITH CEDILLA",
    "b+CAPITAL LETTER S WITH CARONb+SMALL LETTER S WITH CARONzCAPITAL LETTER T WITH CEDILLAd+SMAL",
    "L LETTER T WITH CEDILLAb+CAPITAL LETTER T WITH CARONb+SMALL LETTER T WITH CARONzCAPITAL LETT",
    "ER T WITH STROKEc+SMALL LETTER T WITH STROKEa+CAPITAL LETTER U WITH TILDEb+SMALL LETTER U WI",
    "TH TILDEzCAPITAL LETTER U WITH MACRONc+SMALL LETTER U WITH MACRONa+CAPITAL LETTER U WITH BRE",
    "VEb+SMALL LETTER U WITH BREVEzCAPITAL LETTER U WITH RING ABOVEg+SMALL LETTER U WITH RING ABO",
    "VEe+CAPITAL LETTER U WITH DOUBLE ACUTEi+SMALL LETTER U WITH DOUBLE ACUTEg+CAPITAL LETTER U W",
    "ITH OGONEKc+SMALL LETTER U WITH OGONEKa+CAPITAL LETTER W WITH CIRCUMFLEXg+SMALL LETTER W WIT",
    "H CIRCUMFLEXe+CAPITAL LETTER Y WITH CIRCUMFLEXg+SMALL LETTER Y WITH CIRCUMFLEXe+CAPITAL LETT",
    "ER Y WITH DIAERESISqZ WITH ACUTEb+SMALL LETTER Z WITH ACUTEzCAPITAL LETTER Z WITH DOT ABOVEf",
    "+SMALL LETTER Z WITH DOT ABOVEd+CAPITAL LETTER Z WITH CARONb+SMALL LETTER Z WITH CARONmLONG ",
    "SgB WITH STROKEa+CAPITAL LETTER B WITH HOOKeTOPBARc+SMALL LETTER B WITH TOPBARa+CAPITAL LETT",
    "ER TONE SIXxSMALL LETTER TONE SIXvCAPITAL LETTER OPEN OgC WITH HOOKa+SMALL LETTER C WITH HOO",
    "KyCAPITAL LETTER AFRICAN DjD WITH HOOKeTOPBARc+SMALL LETTER D WITH TOPBARnTURNED DELTAzCAPIT",
    "AL LETTER REVERSED EkSCHWAfOPEN EgF WITH HOOKa+SMALL LETTER F WITH HOOKyCAPITAL LETTER G WIT",
    "H HOOKkAMMAuSMALL LETTER HVpCAPITAL LETTER IOTAd WITH STROKEnK WITH HOOKa+SMALL LETTER K WIT",
    "H HOOKlL WITH BARjAMBDA WITH STROKEf+CAPITAL LETTER TURNED MiN WITH LEFT HOOKf+SMALL LETTER ",
    "N WITH LONG RIGHT LEGi+CAPITAL LETTER O WITH MIDDLE TILDEmHORNa+SMALL LETTER O WITH HORNyCAP",
    "ITAL LETTER OIrSMALL LETTER OIpCAPITAL LETTER P WITH HOOKa+SMALL LETTER P WITH HOOKyLETTER Y",
    "RjCAPITAL LETTER TONE TWOxSMALL LETTER TONE TWOvCAPITAL LETTER ESHsLETTER REVERSED ESH LOOPy",
    "SMALL LETTER T WITH PALATAL HOOKg+CAPITAL LETTER T WITH HOOKa+SMALL LETTER T WITH HOOKyCAPIT",
    "AL LETTER T WITH RETROFLEX HOOKvU WITH HORNa+SMALL LETTER U WITH HORNyCAPITAL LETTER UPSILON",
    "hV WITH HOOKlY WITH HOOKa+SMALL LETTER Y WITH HOOKyCAPITAL LETTER Z WITH STROKEc+SMALL LETTE",
    "R Z WITH STROKEa+CAPITAL LETTER EZHa REVERSEDb+SMALL LETTER EZH REVERSEDiWITH TAILa+LETTER T",
    "WO WITH STROKEwCAPITAL LETTER TONE FIVEySMALL LETTER TONE FIVEwLETTER INVERTED GLOTTAL STOP ",
    "WITH STROKEh+WYNNeDENTAL CLICKmLATERAL CLICKnALVEOLAR CLICKoRETROFLEX CLICKwCAPITAL LETTER D",
    "Z WITH CARONm WITH SMALL LETTER Z WITH CARONv+SMALL LETTER DZ WITH CARONa+CAPITAL LETTER LJb",
    " WITH SMALL LETTER Jk+SMALL LETTER LJpCAPITAL LETTER NJb WITH SMALL LETTER Jk+SMALL LETTER N",
    "JpCAPITAL LETTER A WITH CARONb+SMALL LETTER A WITH CARONzCAPITAL LETTER I WITH CARONb+SMALL ",
    "LETTER I WITH CARONzCAPITAL LETTER O WITH CARONb+SMALL LETTER O WITH CARONzCAPITAL LETTER U ",
    "WITH CARONb+SMALL LETTER U WITH CARONzCAPITAL LETTER U WITH DIAERESIS AND MACRONq+SMALL LETT",
    "ER U WITH DIAERESIS AND MACRONo+CAPITAL LETTER U WITH DIAERESIS AND ACUTEp+SMALL LETTER U WI",
    "TH DIAERESIS AND ACUTEn+CAPITAL LETTER U WITH DIAERESIS AND CARONp+SMALL LETTER U WITH DIAER",
    "ESIS AND CARONn+CAPITAL LETTER U WITH DIAERESIS AND GRAVEp+SMALL LETTER U WITH DIAERESIS AND",
    " GRAVEa+TURNED EvCAPITAL LETTER A WITH DIAERESIS AND MACRONq+SMALL LETTER A WITH DIAERESIS A",
    "ND MACRONo+CAPITAL LETTER A WITH DOT ABOVE AND MACRONq+SMALL LETTER A WITH DOT ABOVE AND MAC",
    "RONo+CAPITAL LETTER AE WITH MACRONd+SMALL LETTER AE WITH MACRONb+CAPITAL LETTER G WITH STROK",
    "Ec+SMALL LETTER G WITH STROKEa+CAPITAL LETTER G WITH CARONb+SMALL LETTER G WITH CARONzCAPITA",
    "L LETTER K WITH CARONb+SMALL LETTER K WITH CARONzCAPITAL LETTER O WITH OGONEKc+SMALL LETTER ",
    "O WITH OGONEKa+CAPITAL LETTER O WITH OGONEK AND MACRONn+SMALL LETTER O WITH OGONEK AND MACRO",
    "Nl+CAPITAL LETTER EZH WITH CARONd+SMALL LETTER EZH WITH CARONoJ WITH CARONzCAPITAL LETTER DZ",
    "b WITH SMALL LETTER Zk+SMALL LETTER DZpCAPITAL LETTER G WITH ACUTEb+SMALL LETTER G WITH ACUT",
    "EzCAPITAL LETTER HWAIRfWYNNeN WITH GRAVEb+SMALL LETTER N WITH GRAVEzCAPITAL LETTER A WITH RI",
    "NG ABOVE AND ACUTEq+SMALL LETTER A WITH RING ABOVE AND ACUTEo+CAPITAL LETTER AE WITH ACUTEc+",
    "SMALL LETTER AE WITH ACUTEa+CAPITAL LETTER O WITH STROKE AND ACUTEm+SMALL LETTER O WITH STRO",
    "KE AND ACUTEk+CAPITAL LETTER A WITH DOUBLE GRAVEi+SMALL LETTER A WITH DOUBLE GRAVEg+CAPITAL ",
    "LETTER A WITH INVERTED BREVEk+SMALL LETTER A WITH INVERTED BREVEi+CAPITAL LETTER E WITH DOUB",
    "LE GRAVEi+SMALL LETTER E WITH DOUBLE GRAVEg+CAPITAL LETTER E WITH INVERTED BREVEk+SMALL LETT",
    "ER E WITH INVERTED BREVEi+CAPITAL LETTER I WITH DOUBLE GRAVEi+SMALL LETTER I WITH DOUBLE GRA",
    "VEg+CAPITAL LETTER I WITH INVERTED BREVEk+SMALL LETTER I WITH INVERTED BREVEi+CAPITAL LETTER",
    " O WITH DOUBLE GRAVEi+SMALL LETTER O WITH DOUBLE GRAVEg+CAPITAL LETTER O WITH INVERTED BREVE",
    "k+SMALL LETTER O WITH INVERTED BREVEi+CAPITAL LETTER R WITH DOUBLE GRAVEi+SMALL LETTER R WIT",
    "H DOUBLE GRAVEg+CAPITAL LETTER R WITH INVERTED BREVEk+SMALL LETTER R WITH INVERTED BREVEi+CA",
    "PITAL LETTER U WITH DOUBLE GRAVEi+SMALL LETTER U WITH DOUBLE GRAVEg+CAPITAL LETTER U WITH IN",
    "VERTED BREVEk+SMALL LETTER U WITH INVERTED BREVEi+CAPITAL LETTER S WITH COMMA BELOWh+SMALL L",
    "ETTER S WITH COMMA BELOWf+CAPITAL LETTER T WITH COMMA BELOWh+SMALL LETTER T WITH COMMA BELOW",
    "f+CAPITAL LETTER YOGHtSMALL LETTER YOGHrCAPITAL LETTER H WITH CARONb+SMALL LETTER H WITH CAR",
    "ONzCAPITAL LETTER N WITH LONG RIGHT LEGk+SMALL LETTER D WITH CURLyCAPITAL LETTER OUrSMALL LE",
    "TTER OUpCAPITAL LETTER Z WITH HOOKa+SMALL LETTER Z WITH HOOKyCAPITAL LETTER A WITH DOT ABOVE",
    "f+SMALL LETTER A WITH DOT ABOVEd+CAPITAL LETTER E WITH CEDILLAd+SMALL LETTER E WITH CEDILLAb",
    "+CAPITAL LETTER O WITH DIAERESIS AND MACRONq+SMALL LETTER O WITH DIAERESIS AND MACRONo+CAPIT",
    "AL LETTER O WITH TILDE AND MACRONm+SMALL LETTER O WITH TILDE AND MACRONk+CAPITAL LETTER O WI",
    "TH DOT ABOVEf+SMALL LETTER O WITH DOT ABOVEd+CAPITAL LETTER O WITH DOT ABOVE AND MACRONq+SMA",
    "LL LETTER O WITH DOT ABOVE AND MACRONo+CAPITAL LETTER Y WITH MACRONc+SMALL LETTER Y WITH MAC",
    "RONnL WITH CURLlN WITH CURLlT WITH CURLlDOTLESS JiB DIGRAPHkQP DIGRAPHxCAPITAL LETTER A WITH",
    " STROKEnC WITH STROKEc+SMALL LETTER C WITH STROKEa+CAPITAL LETTER L WITH BARkT WITH DIAGONAL",
    " STROKEl+SMALL LETTER S WITH SWASH TAILrZ WITH SWASH TAILe+CAPITAL LETTER GLOTTAL STOPb+SMAL",
    "L LETTER GLOTTAL STOPzCAPITAL LETTER B WITH STROKEnU BARfTURNED ViE WITH STROKEc+SMALL LETTE",
    "R E WITH STROKEa+CAPITAL LETTER J WITH STROKEc+SMALL LETTER J WITH STROKEa+CAPITAL LETTER SM",
    "ALL Q WITH HOOK TAILl+SMALL LETTER Q WITH HOOK TAILd+CAPITAL LETTER R WITH STROKEc+SMALL LET",
    "TER R WITH STROKEa+CAPITAL LETTER Y WITH STROKEc+SMALL LETTER Y WITH STROKEnTURNED AiALPHAfT",
    "URNED ALPHAmB WITH HOOKlOPEN OgC WITH CURLlD WITH TAILeHOOKlREVERSED EkSCHWAa WITH HOOKpOPEN",
    " EgREVERSED OPEN Ea WITH HOOKzCLOSED REVERSED OPEN EwDOTLESS J WITH STROKEvG WITH HOOKlSCRIP",
    "T GvLETTER SMALL CAPITAL GwSMALL LETTER GAMMAfRAMS HORNjTURNED HiH WITH HOOKkENG WITH HOOKoI",
    " WITH STROKEmOTArLETTER SMALL CAPITAL IwSMALL LETTER L WITH MIDDLE TILDEmBELTeRETROFLEX HOOK",
    "uEZHeTURNED Ma WITH LONG LEGwM WITH HOOKlN WITH LEFT HOOKjRETROFLEX HOOKi+LETTER SMALL CAPIT",
    "AL NwSMALL LETTER BARRED OvLETTER SMALL CAPITAL OExSMALL LETTER CLOSED OMEGAmPHIdTURNED Ra W",
    "ITH LONG LEGiHOOKsR WITH LONG LEGiTAILeFISHHOOKoEVERSED R WITH FISHHOOKl+LETTER SMALL CAPITA",
    "L RbINVERTED Rf+SMALL LETTER S WITH HOOKlESHdDOTLESS J WITH STROKE AND HOOKe+SQUAT REVERSED ",
    "ESHsESH WITH CURLnTURNED Th WITH RETROFLEX HOOKvU BARePSILONhV WITH HOOKlTURNED VbWbYvLETTER",
    " SMALL CAPITAL YwSMALL LETTER Z WITH RETROFLEX HOOKoCURLlEZHa WITH CURLa+LETTER GLOTTAL STOP",
    "mPHARYNGEAL VOICED FRICATIVEb+INVERTED GLOTTAL STOPvSTRETCHED ClBILABIAL CLICKoSMALL CAPITAL",
    " BwSMALL LETTER CLOSED OPEN Ea+LETTER SMALL CAPITAL G WITH HOOKlHwSMALL LETTER J WITH CROSSE",
    "D-TAILtTURNED KvLETTER SMALL CAPITAL LwSMALL LETTER Q WITH HOOKyLETTER GLOTTAL STOP WITH STR",
    "OKEyREVERSED GLOTTAL STOP WITH STROKEo+SMALL LETTER DZ DIGRAPHjEZH DIGRAPHlZ DIGRAPH WITH CU",
    "RLuTS DIGRAPHjESH DIGRAPHlC DIGRAPH WITH CURLuFENG DIGRAPHmLS DIGRAPHjZ DIGRAPHxLETTER BILAB",
    "IAL PERCUSSIVErDENTAL PERCUSSIVEa+SMALL LETTER TURNED H WITH FISHHOOKa AND TAILy+MODIFIER LE",
    "TTER SMALL Ha WITH HOOKlJbRbTURNED Ra WITH HOOKsCAPITAL INVERTED RsWbYhPRIMEfDOUBLE PRIMEmTU",
    "RNED COMMAmAPOSTROPHEkREVERSED COMMAnIGHT HALF RINGpLEFT HALF RINGoGLOTTAL STOPmREVERSED GLO",
    "TTAL STOPvLEFT ARROWHEADoRIGHT ARROWHEADpUP ARROWHEADmDOWN ARROWHEADoCIRCUMFLEX ACCENTh+CARO",
    "NfMODIFIER LETTER VERTICAL LINEnMACRONgACUTE ACCENTmGRAVE ACCENTmLOW VERTICAL LINEnMACRONgGR",
    "AVE ACCENTmACUTE ACCENTqTRIANGULAR COLONqHALF TRIANGULAR COLONvCENTRED RIGHT HALF RINGpLEFT ",
    "HALF RINGwUP TACKhDOWN TACKjPLUS SIGNjMINUS SIGNa+BREVEfDOT ABOVEjRING ABOVEkOGONEKgSMALL TI",
    "LDElDOUBLE ACUTE ACCENTtMODIFIER LETTER RHOTIC HOOKlCROSS ACCENTmSMALL GAMMAfLbSbXbREVERSED ",
    "GLOTTAL STOPb+EXTRA-HIGH TONE BARtHIGH TONE BARnMID TONE BARmLOW TONE BARmEXTRA-LOW TONE BAR",
    "sYIN DEPARTING TONE MARKwANG DEPARTING TONE MARKyVOICINGhUNASPIRATEDlDOUBLE APOSTROPHErLOW D",
    "OWN ARROWHEADoUP ARROWHEADmLEFT ARROWHEADoRIGHT ARROWHEADnNGiMIDDLE GRAVE ACCENTmDOUBLE GRAV",
    "E ACCENTmACUTE ACCENTa+LOW TILDEjRAISED COLONmBEGIN HIGH TONEpEND HIGH TONEnBEGIN LOW TONEoE",
    "ND LOW TONEmSHELFfOPEN SHELFkLOW LEFT ARROWe+COMBINING GRAVE ACCENTmACUTE ACCENTmCIRCUMFLEX ",
    "ACCENTrTILDEfMACRONgOVERLINEiBREVEfDOT ABOVEiIAERESISjHOOK ABOVEkRING ABOVEkDOUBLE ACUTE ACC",
    "ENTtCARONfVERTICAL LINE ABOVEtDOUBLE VERTICAL LINE ABOVEtGRAVE ACCENTtCANDRABINDUlINVERTED B",
    "REVEoTURNED COMMA ABOVEsCOMMA ABOVElREVERSED COMMA ABOVEuCOMMA ABOVE RIGHTrGRAVE ACCENT BELO",
    "WsACUTE ACCENT BELOWsLEFT TACK BELOWpRIGHT TACK BELOWqLEFT ANGLE ABOVEqHORNeLEFT HALF RING B",
    "ELOWuUP TACK BELOWnDOWN TACK BELOWpPLUS SIGN BELOWpMINUS SIGN BELOWqPALATALIZED HOOK BELOWwR",
    "ETROFLEX HOOK BELOWuDOT BELOWiIAERESIS BELOWpRING BELOWkCOMMA BELOWkEDILLAhOGONEKgVERTICAL L",
    "INE BELOWtBRIDGE BELOWmINVERTED DOUBLE ARCH BELOWa+CARON BELOWkIRCUMFLEX ACCENT BELOWxBREVE ",
    "BELOWlINVERTED BREVE BELOWuTILDE BELOWlMACRON BELOWmLOW LINEiDOUBLE LOW LINEpTILDE OVERLAYnS",
    "HORT STROKE OVERLAYuLONG STROKE OVERLAYtSHORT SOLIDUS OVERLAYvLONG SOLIDUS OVERLAYuRIGHT HAL",
    "F RING BELOWvINVERTED BRIDGE BELOWvSQUARE BELOWlEAGULL BELOWnX ABOVEhVERTICAL TILDEoDOUBLE O",
    "VERLINEpGRAVE TONE MARKpACUTE TONE MARKpGREEK PERISPOMENIlKORONIShDIALYTIKA TONOSpYPOGEGRAMM",
    "ENItBRIDGE ABOVEmEQUALS SIGN BELOWrDOUBLE VERTICAL LINE BELOWa+LEFT ANGLE BELOWqNOT TILDE AB",
    "OVEpHOMOTHETIC ABOVEqALMOST EQUAL TO ABOVEvLEFT RIGHT ARROW BELOWwUPWARDS ARROW BELOWtGRAPHE",
    "ME JOINERpRIGHT ARROWHEAD ABOVEvLEFT HALF RING ABOVEuFERMATAhX BELOWhLEFT ARROWHEAD BELOWuRI",
    "GHT ARROWHEAD BELOWfAND UP ARROWHEAD BELOWg+HALF RING ABOVEvDOT ABOVE RIGHTpASTERISK BELOWoD",
    "OUBLE RING BELOWrZIGZAG ABOVEmDOUBLE BREVE BELOWgfMACRONa BELOWmTILDEfINVERTED BREVEoRIGHTWA",
    "RDS ARROW BELOWd+LATIN SMALL LETTER AbEbIbObUbCbDbHbMbRbTbVbXe+GREEK CAPITAL LETTER HETAtSMA",
    "LL LETTER HETArCAPITAL LETTER ARCHAIC SAMPIc+SMALL LETTER ARCHAIC SAMPIa+NUMERAL SIGNmLOWER ",
    "NUMERAL SIGNsCAPITAL LETTER PAMPHYLIAN DIGAMMAh+SMALL LETTER PAMPHYLIAN DIGAMMAaaf+YPOGEGRAM",
    "MENInSMALL REVERSED LUNATE SIGMA SYMBOLc+DOTTED LUNATE SIGMA SYMBOLa+REVERSED DOTTED LUNATE ",
    "SIGMA SYMBOLp+QUESTION MARKnCAPITAL LETTER YOTaaaasTONOSfDIALYTIKA TONOSpCAPITAL LETTER ALPH",
    "A WITH TONOSf+ANO TELEIAkCAPITAL LETTER EPSILON WITH TONOSrTA WITH TONOSoIOTA WITH TONOSapOM",
    "ICRON WITH TONOSasUPSILON WITH TONOSsOMEGA WITH TONOSf+SMALL LETTER IOTA WITH DIALYTIKA AND ",
    "TONOSq+CAPITAL LETTER ALPHAfBETAeGAMMAfDELTAfEPSILONhZETAeETAdTHETAfIOTAeKAPPAfLAMDAfMUcNUcX",
    "IcOMICRONhPIcRHOadSIGMAfTAUdUPSILONhPHIdCHIdPSIdOMEGAfIOTA WITH DIALYTIKAtUPSILON WITH DIALY",
    "TIKAl+SMALL LETTER ALPHA WITH TONOSqEPSILON WITH TONOSrTA WITH TONOSoIOTA WITH TONOSpUPSILON",
    " WITH DIALYTIKA AND TONOSg+ALPHAfBETAeGAMMAfDELTAfEPSILONhZETAeETAdTHETAfIOTAeKAPPAfLAMDAfMU",
    "cNUcXIcOMICRONhPIcRHOdFINAL SIGMAlSIGMAfTAUdUPSILONhPHIdCHIdPSIdOMEGAfIOTA WITH DIALYTIKAtUP",
    "SILON WITH DIALYTIKAwOMICRON WITH TONOSsUPSILON WITH TONOSsOMEGA WITH TONOSd+CAPITAL KAI SYM",
    "BOLsBETA SYMBOLlTHETA SYMBOLmUPSILON WITH HOOK SYMBOLlACUTE AND HOOK SYMBOLvDIAERESIS AND HO",
    "OK SYMBOLm+PHI SYMBOLjI SYMBOLjKAI SYMBOLkLETTER ARCHAIC KOPPAuSMALL LETTER ARCHAIC KOPPAa+L",
    "ETTER STIGMAnSMALL LETTER STIGMAtLETTER DIGAMMAoSMALL LETTER DIGAMMAuLETTER KOPPAmSMALL LETT",
    "ER KOPPAsLETTER SAMPImSMALL LETTER SAMPIyCOPTIC CAPITAL LETTER SHEItSMALL LETTER SHEIrCAPITA",
    "L LETTER FEIsSMALL LETTER FEIqCAPITAL LETTER KHEItSMALL LETTER KHEIrCAPITAL LETTER HORItSMAL",
    "L LETTER HORIrCAPITAL LETTER GANGIAvSMALL LETTER GANGIAtCAPITAL LETTER SHIMAuSMALL LETTER SH",
    "IMAsCAPITAL LETTER DEIsSMALL LETTER DEIxGREEK KAPPA SYMBOLmRHO SYMBOLkLUNATE SIGMA SYMBOLsET",
    "TER YOTkCAPITAL THETA SYMBOLuLUNATE EPSILON SYMBOLvREVERSED LUNATE EPSILON SYMBOLe+CAPITAL L",
    "ETTER SHOsSMALL LETTER SHOqCAPITAL LUNATE SIGMA SYMBOLsETTER SANsSMALL LETTER SANqRHO WITH S",
    "TROKE SYMBOLwCAPITAL REVERSED LUNATE SIGMA SYMBOLc+DOTTED LUNATE SIGMA SYMBOLa+REVERSED DOTT",
    "ED LUNATE SIGMA SYMBOLx+CYRILLIC CAPITAL LETTER IE WITH GRAVEmOcDJEdGJEdUKRAINIAN IEmDZEdBYE",
    "LORUSSIAN-UKRAINIAN IyYIcJEcLJEdNJEdTSHEeKJEdI WITH GRAVEmSHORT UhDZHEeAbBEcVEcGHEdDEcIEcZHE",
    "cEcIbSHORT IhKAcELbMbNcObPEcERbScTEcUbEFcHAcTSEdCHEdSHAbCHAfHARD SIGNjYERUeSOFT SIGNjEbYUbAr",
    "SMALL LETTER AbBEcVEcGHEdDEcIEcZHEcEcIbSHORT IhKAcELbMbNcObPEcERbScTEcUbEFcHAcTSEdCHEdSHAbCH",
    "AfHARD SIGNjYERUeSOFT SIGNjEbYUbAcIE WITH GRAVEmOcDJEdGJEdUKRAINIAN IEmDZEdBYELORUSSIAN-UKRA",
    "INIAN IyYIcJEcLJEdNJEdTSHEeKJEdI WITH GRAVEmSHORT UhDZHErCAPITAL LETTER OMEGAuSMALL LETTER O",
    "MEGAsCAPITAL LETTER YATsSMALL LETTER YATqCAPITAL LETTER IOTIFIED EzSMALL LETTER IOTIFIED ExC",
    "APITAL LETTER LITTLE YUSzSMALL LETTER LITTLE YUSxCAPITAL LETTER IOTIFIED LITTLE YUSi+SMALL L",
    "ETTER IOTIFIED LITTLE YUSg+CAPITAL LETTER BIG YUSwSMALL LETTER BIG YUSuCAPITAL LETTER IOTIFI",
    "ED BIG YUSf+SMALL LETTER IOTIFIED BIG YUSd+CAPITAL LETTER KSIsSMALL LETTER KSIqCAPITAL LETTE",
    "R PSIsSMALL LETTER PSIqCAPITAL LETTER FITAtSMALL LETTER FITArCAPITAL LETTER IZHITSAwSMALL LE",
    "TTER IZHITSAuCAPITAL LETTER IZHITSA WITH DOUBLE GRAVE ACCENTv+SMALL LETTER IZHITSA WITH DOUB",
    "LE GRAVE ACCENTt+CAPITAL LETTER UKrSMALL LETTER UKpCAPITAL LETTER ROUND OMEGAa+SMALL LETTER ",
    "ROUND OMEGAyCAPITAL LETTER OMEGA WITH TITLOf+SMALL LETTER OMEGA WITH TITLOd+CAPITAL LETTER O",
    "TrSMALL LETTER OTpCAPITAL LETTER KOPPAuSMALL LETTER KOPPAsTHOUSANDS SIGNwOMBINING CYRILLIC T",
    "ITLOfPALATALIZATIONoDASIA PNEUMATAoPSILI PNEUMATAnOKRYTIEiHUNDRED THOUSANDS SIGNwMILLIONS SI",
    "GNf+YRILLIC CAPITAL LETTER SHORT I WITH TAILg+SMALL LETTER SHORT I WITH TAILe+CAPITAL LETTER",
    " SEMISOFT SIGNc+SMALL LETTER SEMISOFT SIGNa+CAPITAL LETTER ER WITH TICKb+SMALL LETTER ER WIT",
    "H TICKzCAPITAL LETTER GHE WITH UPTURNe+SMALL LETTER GHE WITH UPTURNc+CAPITAL LETTER GHE WITH",
    " STROKEe+SMALL LETTER GHE WITH STROKEc+CAPITAL LETTER GHE WITH MIDDLE HOOKj+SMALL LETTER GHE",
    " WITH MIDDLE HOOKh+CAPITAL LETTER ZHE WITH DESCENDERh+SMALL LETTER ZHE WITH DESCENDERf+CAPIT",
    "AL LETTER ZE WITH DESCENDERg+SMALL LETTER ZE WITH DESCENDERe+CAPITAL LETTER KA WITH DESCENDE",
    "Rg+SMALL LETTER KA WITH DESCENDERe+CAPITAL LETTER KA WITH VERTICAL STROKEm+SMALL LETTER KA W",
    "ITH VERTICAL STROKEk+CAPITAL LETTER KA WITH STROKEd+SMALL LETTER KA WITH STROKEb+CAPITAL LET",
    "TER BASHKIR KAzSMALL LETTER BASHKIR KAxCAPITAL LETTER EN WITH DESCENDERg+SMALL LETTER EN WIT",
    "H DESCENDERe+CAPITAL LIGATURE EN GHExSMALL LIGATURE EN GHEvCAPITAL LETTER PE WITH MIDDLE HOO",
    "Ki+SMALL LETTER PE WITH MIDDLE HOOKg+CAPITAL LETTER ABKHASIAN HAb+SMALL LETTER ABKHASIAN HAz",
    "CAPITAL LETTER ES WITH DESCENDERg+SMALL LETTER ES WITH DESCENDERe+CAPITAL LETTER TE WITH DES",
    "CENDERg+SMALL LETTER TE WITH DESCENDERe+CAPITAL LETTER STRAIGHT UzSMALL LETTER STRAIGHT UxCA",
    "PITAL LETTER STRAIGHT U WITH STROKEl+SMALL LETTER STRAIGHT U WITH STROKEj+CAPITAL LETTER HA ",
    "WITH DESCENDERg+SMALL LETTER HA WITH DESCENDERe+CAPITAL LIGATURE TE TSExSMALL LIGATURE TE TS",
    "EvCAPITAL LETTER CHE WITH DESCENDERh+SMALL LETTER CHE WITH DESCENDERf+CAPITAL LETTER CHE WIT",
    "H VERTICAL STROKEn+SMALL LETTER CHE WITH VERTICAL STROKEl+CAPITAL LETTER SHHAtSMALL LETTER S",
    "HHArCAPITAL LETTER ABKHASIAN CHEc+SMALL LETTER ABKHASIAN CHEa+CAPITAL LETTER ABKHASIAN CHE W",
    "ITH DESCENDERr+SMALL LETTER ABKHASIAN CHE WITH DESCENDERp+LETTER PALOCHKApCAPITAL LETTER ZHE",
    " WITH BREVEd+SMALL LETTER ZHE WITH BREVEb+CAPITAL LETTER KA WITH HOOKb+SMALL LETTER KA WITH ",
    "HOOKzCAPITAL LETTER EL WITH TAILb+SMALL LETTER EL WITH TAILzCAPITAL LETTER EN WITH HOOKb+SMA",
    "LL LETTER EN WITH HOOKzCAPITAL LETTER EN WITH TAILb+SMALL LETTER EN WITH TAILzCAPITAL LETTER",
    " KHAKASSIAN CHEd+SMALL LETTER KHAKASSIAN CHEb+CAPITAL LETTER EM WITH TAILb+SMALL LETTER EM W",
    "ITH TAILmPALOCHKAvCAPITAL LETTER A WITH BREVEb+SMALL LETTER A WITH BREVEzCAPITAL LETTER A WI",
    "TH DIAERESISf+SMALL LETTER A WITH DIAERESISd+CAPITAL LIGATURE A IEvSMALL LIGATURE A IEtCAPIT",
    "AL LETTER IE WITH BREVEc+SMALL LETTER IE WITH BREVEa+CAPITAL LETTER SCHWAuSMALL LETTER SCHWA",
    "sCAPITAL LETTER SCHWA WITH DIAERESISj+SMALL LETTER SCHWA WITH DIAERESISh+CAPITAL LETTER ZHE ",
    "WITH DIAERESISh+SMALL LETTER ZHE WITH DIAERESISf+CAPITAL LETTER ZE WITH DIAERESISg+SMALL LET",
    "TER ZE WITH DIAERESISe+CAPITAL LETTER ABKHASIAN DZEc+SMALL LETTER ABKHASIAN DZEa+CAPITAL LET",
    "TER I WITH MACRONc+SMALL LETTER I WITH MACRONa+CAPITAL LETTER I WITH DIAERESISf+SMALL LETTER",
    " I WITH DIAERESISd+CAPITAL LETTER O WITH DIAERESISf+SMALL LETTER O WITH DIAERESISd+CAPITAL L",
    "ETTER BARRED OxSMALL LETTER BARRED OvCAPITAL LETTER BARRED O WITH DIAERESISm+SMALL LETTER BA",
    "RRED O WITH DIAERESISk+CAPITAL LETTER E WITH DIAERESISf+SMALL LETTER E WITH DIAERESISd+CAPIT",
    "AL LETTER U WITH MACRONc+SMALL LETTER U WITH MACRONa+CAPITAL LETTER U WITH DIAERESISf+SMALL ",
    "LETTER U WITH DIAERESISd+CAPITAL LETTER U WITH DOUBLE ACUTEi+SMALL LETTER U WITH DOUBLE ACUT",
    "Eg+CAPITAL LETTER CHE WITH DIAERESISh+SMALL LETTER CHE WITH DIAERESISf+CAPITAL LETTER GHE WI",
    "TH DESCENDERh+SMALL LETTER GHE WITH DESCENDERf+CAPITAL LETTER YERU WITH DIAERESISi+SMALL LET",
    "TER YERU WITH DIAERESISg+CAPITAL LETTER GHE WITH STROKE AND HOOKn+SMALL LETTER GHE WITH STRO",
    "KE AND HOOKl+CAPITAL LETTER HA WITH HOOKb+SMALL LETTER HA WITH HOOKzCAPITAL LETTER HA WITH S",
    "TROKEd+SMALL LETTER HA WITH STROKEb+CAPITAL LETTER KOMI DEwSMALL LETTER KOMI DEuCAPITAL LETT",
    "ER KOMI DJExSMALL LETTER KOMI DJEvCAPITAL LETTER KOMI ZJExSMALL LETTER KOMI ZJEvCAPITAL LETT",
    "ER KOMI DZJEySMALL LETTER KOMI DZJEwCAPITAL LETTER KOMI LJExSMALL LETTER KOMI LJEvCAPITAL LE",
    "TTER KOMI NJExSMALL LETTER KOMI NJEvCAPITAL LETTER KOMI SJExSMALL LETTER KOMI SJEvCAPITAL LE",
    "TTER KOMI TJExSMALL LETTER KOMI TJEvCAPITAL LETTER REVERSED ZEa+SMALL LETTER REVERSED ZEyCAP",
    "ITAL LETTER EL WITH HOOKb+SMALL LETTER EL WITH HOOKzCAPITAL LETTER LHAsSMALL LETTER LHAqCAPI",
    "TAL LETTER RHAsSMALL LETTER RHAqCAPITAL LETTER YAEsSMALL LETTER YAEqCAPITAL LETTER QArSMALL ",
    "LETTER QApCAPITAL LETTER WErSMALL LETTER WEpCAPITAL LETTER ALEUT KAxSMALL LETTER ALEUT KAvCA",
    "PITAL LETTER EL WITH MIDDLE HOOKi+SMALL LETTER EL WITH MIDDLE HOOKg+CAPITAL LETTER EN WITH M",
    "IDDLE HOOKi+SMALL LETTER EN WITH MIDDLE HOOKg+CAPITAL LETTER PE WITH DESCENDERg+SMALL LETTER",
    " PE WITH DESCENDERe+CAPITAL LETTER SHHA WITH DESCENDERi+SMALL LETTER SHHA WITH DESCENDERg+CA",
    "PITAL LETTER EN WITH LEFT HOOKg+SMALL LETTER EN WITH LEFT HOOKe+CAPITAL LETTER DZZHEuSMALL L",
    "ETTER DZZHEsCAPITAL LETTER DCHEtSMALL LETTER DCHErCAPITAL LETTER EL WITH DESCENDERg+SMALL LE",
    "TTER EL WITH DESCENDERan+ARMENIAN CAPITAL LETTER AYBdBENdGIMdDAcECHdZAcEHbTcTOcZHEdINIdLIWNe",
    "XEHdCAcKENdHOcJAcGHADeCHEHeMENdYIcNOWdSHAdVOcCHAdPEHdJHEHeRAcSEHdVEWdTIWNeREHdCOcYIWNePIWReK",
    "EHdOHcFEHaasMODIFIER LETTER LEFT HALF RINGe+APOSTROPHEkEMPHASIS MARKmXCLAMATION MARKqCOMMAfQ",
    "UESTION MARKnABBREVIATION MARKrSMALL LETTER TURNED AYBkAYBdBENdGIMdDAcECHdZAcEHbTcTOcZHEdINI",
    "dLIWNeXEHdCAcKENdHOcJAcGHADeCHEHeMENdYIcNOWdSHAdVOcCHAdPEHdJHEHeRAcSEHdVEWdTIWNeREHdCOcYIWNe",
    "PIWReKEHdOHcFEHjIGATURE ECH YIWNqETTER YI WITH STROKEb+FULL STOPjHYPHENaapRIGHT-FACING ARMEN",
    "IAN ETERNITY SIGNj+LEFT-FACING ARMENIAN ETERNITY SIGNi+ARMENIAN DRAM SIGNasHEBREW ACCENT ETN",
    "AHTAhSEGOLeHALSHELETkZAQEF QATANfGADOLlTIPEHAgREVIAfZARQAfPASHTAgYETIVfTEVIRfGERESHa MUQDAMk",
    "SHAYIMjQARNEY PARAlTELISHA GEDOLAoPAZERfATNAH HAFUKHmMUNAHeAHAPAKHhERKHAa KEFULAnDARGAfQADMA",
    "fTELISHA QETANAoYERAH BEN YOMOoOLEdILUYeDEHIeZINORmMARK MASORA CIRCLEsPOINT SHEVAfHATAF SEGO",
    "LfPATAHfQAMATSlIRIQfTSEREfSEGOLfPATAHfQAMATSgHOLAMa HASER FOR VAVtQUBUTSgDAGESH OR MAPIQpMET",
    "EGkUNCTUATION MAQAFqOINT RAFEjUNCTUATION PASEQqOINT SHIN DOThIN DOTmUNCTUATION SOF PASUQvMAR",
    "K UPPER DOTjLOWER DOToPUNCTUATION NUN HAFUKHAwOINT QAMATS QATAN"]⟩,
  ⟨0x5D0, [
    "HEBREW LETTER ALEFeBETdGIMELfDALETfHEcVAVdZAYINfHETdTETdYODdFINAL KAFjKAFdLAMEDfFINAL MEMjME",
    "MdFINAL NUNjNUNdSAMEKHgAYINeFINAL PEiPEcFINAL TSADIlTSADIfQOFdRESHeSHINeTAVaaaakYOD TRIANGLE",
    "mLIGATURE YIDDISH DOUBLE VAVkVAV YODhDOUBLE YODb+PUNCTUATION GERESHdSHAYIM"]⟩]

end ArgRules.Text.CharacterName
