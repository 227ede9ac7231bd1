import ArgRules.Text.CharacterName.Block

/-!
# Names of characters: musical and mathematical notations

The names of the characters from U+1D000 to U+1EFFF in Unicode 14.0, in blocks of code points.
-/

namespace ArgRules.Text.CharacterName

/-- The names of musical and mathematical notations. -/
def notations : List Block := [
  ⟨0x1D000, [
    "BYZANTINE MUSICAL SYMBOL PSILIfDASEIAgPERISPOMENIlOXEIA EKFONITIKONlDIPLIlVAREIA EKFONITIKON",
    "lDIPLImKATHISTIiSYRMATIKIjPARAKLITIKIlYPOKRISISa DIPLIpKREMASTIiAPESO EKFONITIKONrEXO EKFONI",
    "TIKONpTELEIAgKENTIMATAjAPOSTROFOSa DIPLIqSYNEVMAhTHITAfOLIGON ARCHAIONpGORGON ARCHAIONpPSILO",
    "NgCHAMILONiVATHYfISON ARCHAIONnKENTIMA ARCHAIONjTA ARCHAIONsSAXIMATAiPARICHONiSTAVROS APODEX",
    "IAqOXEIAI ARCHAIONpVAREIAI ARCHAIONqAPODERMA ARCHAIONoTHEMAiKLASMAgREVMAfPIASMA ARCHAIONpTIN",
    "AGMAhANATRICHISMAmSEISMAfYNAGMA ARCHAIONiMETA STAVROUuOYRANISMA ARCHAIONsTHEMAfLEMOIfDYOdTRI",
    "AdESSERAhKRATIMATAjAPESO EXO NEOnFTHORA ARCHAIONpIMIFTHORAjTROMIKON ARCHAIONrKATAVA TROMIKON",
    "pPELASTONhSIFISTONjKONTEVMAiCHOREVMA ARCHAIONrRAPISMAhPARAKALESMA ARCHAIONpLITIKI ARCHAIONuI",
    "CHADINhNANAePETASMAhKONTEVMA ALLOnTROMIKON ALLOnSTRAGGISMATAmGRONTHISMATAmISON NEOiOLIGON NE",
    "OjXEIA NEOjPETASTIhKOUFISMAiPETASTOKOUFISMApKRATIMOKOUFISMApPELASTON NEOmKENTIMATA NEO ANOk ",
    "NEO ANOpYPSILIgAPOSTROFOS NEOfI SYNDESMOS NEOyYPORROIhKRATIMOYPORROONpELAFRONhCHAMILIhMIKRON",
    " ISONlVAREIA NEOkPIASMA NEOjSIFISTON NEOnOMALONgANTIKENOMAkLYGISMAhPARAKLITIKI NEOkALESMA NE",
    "OpETERON PARAKALESMAsKYLISMAhANTIKENOKYLISMApTROMIKON NEOmEKSTREPTONkSYNAGMA NEOjRMAfCHOREVM",
    "A NEOmEPEGERMAiSEISMA NEOkXIRON KLASMAmTROMIKOPSIFISTONqPSIFISTOLYGISMApTROMIKOLYGISMAhPARAK",
    "ALESMAsPSIFISTOPARAKALESMAtTROMIKOSYNAGMAoPSIFISTOSYNAGMApGORGOSYNTHETONoARGOSYNTHETONnETERO",
    "N ARGOSYNTHETONuOYRANISMA NEOnTHEMATISMOS ESOcXOk APLOUNjS KAI APOTHESqKATAVASMAjENDOFONONjY",
    "FEN KATOeANOiSTAVROShKLASMA ANOkDIPLI ARCHAIONoKRATIMA ARCHAIONhLLOeNEOlAPODERMA NEOkLIeDIPL",
    "IfTRIPLIfETRAPLIiKORONIShLEIMMA ENOS CHRONOUmDYO CHRONONlTRION CHRONONmESSARON CHRONONqIMISE",
    "OS CHRONOUwGORGON NEO ANOhPARESTIGMENON ARISTERAiDEXIAa+DIGORGONa PARESTIGMENON ARISTERA KAT",
    "OeANOmDEXIAc+TRIGORGONjARGONfIMIDIARGONkDIARGONhAGOGI POLI ARGIjARGOTERIfIeMETRIAeSIeGORGIbO",
    "TERIjPOLI GORGIqMARTYRIA PROTOS ICHOSmALLI PROTOS ICHOSrDEYTEROS ICHOSoALLI DEYTEROS ICHOStT",
    "RITOS ICHOSjFONIASiETARTOS ICHOSfLEGETOS ICHOSwLEGETOS ICHOSnPLAGIOS ICHOSwISAKIA TELOUS ICH",
    "IMATOSxAPOSTROFOI TELOUS ICHIMATOSb+FANEROSIS TETRAFONIASlMONOFONIASkDIFONIASsMARTYRIA VARYS",
    " ICHOSlPROTOVARYS ICHOSpLAGIOS TETARTOS ICHOSf+GORTHMIKON N APLOUNgDIPLOUNuENARXIS KAI FTHOR",
    "A VOUwIMIFONONeTHORONkFTHORA ARCHAION DEYTEROU ICHOUxDIATONIKI PAcNANAoNAOS ICHOSkDIATONIKI ",
    "DImSKLIRON DIATONON DItDIATONIKI KEcZOcNI KATOeANOqMALAKON CHROMA DIFONIASiMONOFONIASf+HTORA",
    " SKLIRON CHROMA VASISa+THORA SKLIRON CHROMA SYNAFIvNENANOnCHROA ZYGOSfKLITONgSPATHImFTHORA I",
    " YFESIS TETARTIMORIONwENARMONIOS ANTIFONIAb+YFESIS TRITIMORIONsDIESIS TRITIMORIONkETARTIMORI",
    "ONnAPLI DYO DODEKATArMONOGRAMMOS TESSERA DODEKATAc+DIGRAMMOS EX DODEKATAvTRIGRAMMOS OKTO DOD",
    "EKATAf+YFESIS APLI DYO DODEKATArMONOGRAMMOS TESSERA DODEKATAc+DIGRAMMOS EX DODEKATAvTRIGRAMM",
    "OS OKTO DODEKATAf+GENIKI DIESISgYFESISnDIASTOLI APLI MIKRIeEGALIlDIPLIfTHESEOSqSIMANSIS THES",
    "EOSa DISIMOUhTRISIMOUhETRASIMOUsARSEOSa DISIMOUhTRISIMOUhETRASIMOUa+DIGRAMMA GGjFTOGGOS OUmS",
    "TIGMAgARKTIKO PAcVOUdGAcDIcKEcZOcNIkKENTIMATA NEO MESOl NEO MESOjTA NEO KATOl NEO KATOpLASMA",
    " KATOlGORGON NEO KATO"]⟩,
  ⟨0x1D100, [
    "MUSICAL SYMBOL SINGLE BARLINEoDOUBLE BARLINEoFINAL BARLINEnREVERSE FINAL BARLINEvDASHED BARL",
    "INEoSHORT BARLINEnLEFT REPEAT SIGNqRIGHT REPEAT SIGNqEPEAT DOTSlDAL SEGNOh CAPOhSEGNOfCODAeR",
    "EPEATED FIGURE-1b2b3rFERMATAa BELOWnBREATH MARKlCAESURAhBRACEbKEThONE-LINE STAFFoTWO-LINE ST",
    "AFFnHREE-LINE STAFFqFOUR-LINE STAFFoIVE-LINE STAFFpSIX-LINE STAFFkSTRING FRETBOARDuFOUR-STRI",
    "NG FRETBOARDvG CLEFa OTTAVA ALTAeBASSAtC CLEFgF CLEFa OTTAVA ALTAeBASSAtDRUM CLEF-1b2aalMULT",
    "IPLE MEASURE RESTvDOUBLE SHARPfFLATlFLAT UPcDOWNjNATURAL UPcDOWNmSHARP UPcDOWNkQUARTER TONE ",
    "SHARPfFLATrCOMMON TIMEkUT TIMEiOTTAVA ALTAeBASSAmQUINDICESIMA ALTAeBASSAsMULTI RESTkWHOLE RE",
    "STkHALF RESTjQUARTER RESTmEIGHTH RESTlSIXTEENTH RESToTHIRTY-SECOND RESTsSIXTY-FOURTH RESTrON",
    "E HUNDRED TWENTY-EIGHTH RESTe+X NOTEHEADkPLUS NOTEHEADnCIRCLE X NOTEHEADrSQUARE NOTEHEAD WHI",
    "TEfBLACKvTRIANGLE NOTEHEAD UP WHITEfBLACKiLEFT WHITEfBLACKkRIGHT WHITEfBLACKlDOWN WHITEfBLAC",
    "KkUP RIGHT WHITEfBLACKg+MOON NOTEHEAD WHITEfBLACKtTRIANGLE-ROUND NOTEHEAD DOWN WHITEfBLACKi+",
    "PARENTHESIS NOTEHEADuVOID NOTEHEADnNOTEHEAD BLACKnULL NOTEHEADnCLUSTER NOTEHEAD WHITEfBLACKw",
    "BREVEfWHOLE NOTEkHALF NOTEjQUARTER NOTEmEIGHTH NOTElSIXTEENTH NOTEoTHIRTY-SECOND NOTEsSIXTY-",
    "FOURTH NOTErONE HUNDRED TWENTY-EIGHTH NOTEe+COMBINING STEMdPRECHGESANG STEMrTREMOLO-1b2b3tFI",
    "NGERED TREMOLO-1b2b3sCOMBINING AUGMENTATION DOTqFLAG-1b2b3b4b5qBEGIN BEAMkEND BEAMiBEGIN TIE",
    "jEND TIEhBEGIN SLURkEND SLURiBEGIN PHRASEmEND PHRASEkCOMBINING ACCENTgSTACCATOiTENUTOgSTACCA",
    "TISSIMOnMARCATOa-STACCATOqACCENT-STACCATOpLOUREpARPEGGIATO UPcDOWNpCOMBINING DOITeRIPdFLIPeS",
    "MEARfBENDeDOUBLE TONGUEnTRIPLE TONGUExRINFORZANDOlSUBITOgZbPIANOfMEZZOfFORTEfCRESCENDOjDECRE",
    "SCENDOlGRACE NOTE SLASHfNO SLASHtTRbURNeINVERTED TURNnTURN SLASHfUPhORNAMENT STROKE-1b2b3b4b",
    "5b6b7b8b9b10b1sHAUPTSTIMMElNEBENSTIMMElEND OF STIMMEnDEGREE SLASHmCOMBINING DOWN BOWiUP BOWg",
    "HARMONICiSNAP PIZZICATOyPEDAL MARKeUP MARKnHALF PEDAL MARKpGLISSANDO UPcDOWNoWITH FINGERNAIL",
    "SqDAMPa ALLiMAXIMAgLONGAfBREVISgSEMIBREVIS WHITEfBLACKqMINIMAa BLACKmSEMIMINIMA WHITEfBLACKq",
    "FUSA WHITEfBLACKkLONGA PERFECTA RESTnIMPERFECTA RESTvBREVIS RESTlSEMIBREVIS RESTpMINIMA REST",
    "lSEMIMINIMA RESTpTEMPUS PERFECTUM CUM PROLATIONE PERFECTAiIMPERFECTAkPERFECTA DIMINUTION-1u+",
    "IMPERFECTUM CUM PROLATIONE PERFECTAiIMPERFECTAa DIMINUTION-1b2b3f++CROIXfGREGORIAN C CLEFgF ",
    "CLEFqSQUARE BiVIRGAfPODATUShCLIVISgSCANDICUSjCLIMACUSiTORCULUSiPORRECTUSa FLEXUSqSCANDICUS F",
    "LEXUSqTORCULUS RESUPINUSsPES SUBPUNCTISoKIEVAN C CLEFgEND OF PIECEmFINAL NOTEkRECITATIVE MAR",
    "KpWHOLE NOTEkHALF NOTEjQUARTER NOTE STEM DOWNeUPuEIGHTH NOTE STEM DOWNeUPtFLAT SIGNqSORIeKOR",
    "ON"]⟩,
  ⟨0x1D200, [
    "GREEK VOCAL NOTATION SYMBOL-1b2b3b4b5b6b7b8b9b10b1b2b3b4b5b6b7b8b9c20b1b2b3b4c50b1b2b3b4yINS",
    "TRUMENTAL NOTATION SYMBOL-1b2b4b5b7b8b11b2b3b4b7b8b9c23b4b5b6b7b9c30b2b6b7b8b9c40b2b3b5b7b8b",
    "9c50b1b2b3b4l+COMBINING GREEK MUSICAL TRISEMEgETRASEMEjPENTASEMEh+GREEK MUSICAL LEIMMA"]⟩,
  ⟨0x1D2E0, [
    "MAYAN NUMERAL ZEROeONEdTWOcHREEfFOURdIVEeSIXcEVENfEIGHTfNINEeTENdELEVENgTWELVEfHIRTEENiFOURT",
    "EENhIFTEENhSIXTEENgEVENTEENjEIGHTEENiNINETEEN"]⟩,
  ⟨0x1D300, [
    "MONOGRAM FOR EARTHsDIGRAM FOR HEAVENLY EARTHnUMAN EARTHlEARTHLY HEAVENfUMANiqTETRAGRAM FOR C",
    "ENTREgFULL CIRCLElMIREDfBARRIERhKEEPING SMALLnCONTRARIETYlASCENTgOPPOSITIONkBRANCHING OUTnDE",
    "FECTIVENESS OR DISTORTIONa+IVERGENCEkYOUTHFULNESSmINCREASEiPENETRATIONlREACHfCONTACThHOLDING",
    " BACKmWAITINGhFOLLOWINGjADVANCEhRELEASEfSISTANCEkEASEeJOYdCONTENTIONkENDEAVOURjDUTIESgCHANGE",
    "gDECISIVENESSmBOLD RESOLUTIONpPACKINGhLEGIONgCLOSENESSjKINSHIPhGATHERINGjSTRENGTHiPURITYgFUL",
    "LNESSiRESIDENCEjLAW OR MODELmRESPONSEiGOING TO MEETnENCOUNTERSkSTOVEfGREATNESSjENLARGEMENTlP",
    "ATTERNhRITUALgFLIGHTgVASTNESS OR WASTINGtCONSTANCYjMEASUREhETERNITYiUNITYfDIMINISHMENTmCLOSE",
    "D MOUTHmGUARDEDNESSkATHERING INmMASSINGhACCUMULATIONmEMBELLISHMENTnDOUBTfWATCHfSINKINGhINNER",
    "fDEPARTUREiARKENINGiIMMINGhEXHAUSTIONkSEVERANCEiTOPPAGEiHARDNESSiCOMPLETIONjLOSUREhFAILUREhA",
    "GGRAVATIONlCOMPLIANCEkON THE VERGEmDIFFICULTIESmLABOURINGjFOSTERING"]⟩,
  ⟨0x1D360, [
    "COUNTING ROD UNIT DIGIT ONEdTWOcHREEfFOURdIVEeSIXcEVENfEIGHTfNINEpTENS DIGIT ONEdTWOcHREEfFO",
    "URdIVEeSIXcEVENfEIGHTfNINEc+IDEOGRAPHIC TALLY MARK ONEdTWOcHREEfFOURdIVEb+TALLY MARK ONEdFIV",
    "E"]⟩,
  ⟨0x1D400, [
    "MATHEMATICAL BOLD CAPITAL AbBbCbDbEbFbGbHbIbJbKbLbMbNbObPbQbRbSbTbUbVbWbXbYbZjSMALL AbBbCbDb",
    "EbFbGbHbIbJbKbLbMbNbObPbQbRbSbTbUbVbWbXbYbZmITALIC CAPITAL AbBbCbDbEbFbGbHbIbJbKbLbMbNbObPbQ",
    "bRbSbTbUbVbWbXbYbZjSMALL AbBbCbDbEbFbGabIbJbKbLbMbNbObPbQbRbSbTbUbVbWbXbYbZoBOLD ITALIC CAPI",
    "TAL AbBbCbDbEbFbGbHbIbJbKbLbMbNbObPbQbRbSbTbUbVbWbXbYbZjSMALL AbBbCbDbEbFbGbHbIbJbKbLbMbNbOb",
    "PbQbRbSbTbUbVbWbXbYbZtSCRIPT CAPITAL AabCbDaabGaabJbKaabNbObPbQabSbTbUbVbWbXbYbZjSMALL AbBbC",
    "bDabFabHbIbJbKbLbMbNabPbQbRbSbTbUbVbWbXbYbZoBOLD SCRIPT CAPITAL AbBbCbDbEbFbGbHbIbJbKbLbMbNb",
    "ObPbQbRbSbTbUbVbWbXbYbZjSMALL AbBbCbDbEbFbGbHbIbJbKbLbMbNbObPbQbRbSbTbUbVbWbXbYbZtFRAKTUR CA",
    "PITAL AbBabDbEbFbGaabJbKbLbMbNbObPbQabSbTbUbVbWbXbYajSMALL AbBbCbDbEbFbGbHbIbJbKbLbMbNbObPbQ",
    "bRbSbTbUbVbWbXbYbZpDOUBLE-STRUCK CAPITAL AbBabDbEbFbGabIbJbKbLbMabOaaabSbTbUbVbWbXbYajSMALL ",
    "AbBbCbDbEbFbGbHbIbJbKbLbMbNbObPbQbRbSbTbUbVbWbXbYbZvBOLD FRAKTUR CAPITAL AbBbCbDbEbFbGbHbIbJ",
    "bKbLbMbNbObPbQbRbSbTbUbVbWbXbYbZjSMALL AbBbCbDbEbFbGbHbIbJbKbLbMbNbObPbQbRbSbTbUbVbWbXbYbZuS",
    "ANS-SERIF CAPITAL AbBbCbDbEbFbGbHbIbJbKbLbMbNbObPbQbRbSbTbUbVbWbXbYbZjSMALL AbBbCbDbEbFbGbHb",
    "IbJbKbLbMbNbObPbQbRbSbTbUbVbWbXbYbZhBOLD CAPITAL AbBbCbDbEbFbGbHbIbJbKbLbMbNbObPbQbRbSbTbUbV",
    "bWbXbYbZjSMALL AbBbCbDbEbFbGbHbIbJbKbLbMbNbObPbQbRbSbTbUbVbWbXbYbZmITALIC CAPITAL AbBbCbDbEb",
    "FbGbHbIbJbKbLbMbNbObPbQbRbSbTbUbVbWbXbYbZjSMALL AbBbCbDbEbFbGbHbIbJbKbLbMbNbObPbQbRbSbTbUbVb",
    "WbXbYbZoBOLD ITALIC CAPITAL AbBbCbDbEbFbGbHbIbJbKbLbMbNbObPbQbRbSbTbUbVbWbXbYbZjSMALL AbBbCb",
    "DbEbFbGbHbIbJbKbLbMbNbObPbQbRbSbTbUbVbWbXbYbZe+MONOSPACE CAPITAL AbBbCbDbEbFbGbHbIbJbKbLbMbN",
    "bObPbQbRbSbTbUbVbWbXbYbZjSMALL AbBbCbDbEbFbGbHbIbJbKbLbMbNbObPbQbRbSbTbUbVbWbXbYbZrITALIC SM",
    "ALL DOTLESS IbJaawBOLD CAPITAL ALPHAfBETAeGAMMAfDELTAfEPSILONhZETAeETAdTHETAfIOTAeKAPPAfLAMD",
    "AfMUcNUcXIcOMICRONhPIcRHOdTHETA SYMBOLmSIGMAfTAUdUPSILONhPHIdCHIdPSIdOMEGAnNABLAfSMALL ALPHA",
    "fBETAeGAMMAfDELTAfEPSILONhZETAeETAdTHETAfIOTAeKAPPAfLAMDAfMUcNUcXIcOMICRONhPIcRHOdFINAL SIGM",
    "AlSIGMAfTAUdUPSILONhPHIdCHIdPSIdOMEGAlPARTIAL DIFFERENTIALuEPSILON SYMBOLoTHETA SYMBOLmKAPPA",
    " SYMBOLmPHI SYMBOLkRHO SYMBOLkPI SYMBOLoITALIC CAPITAL ALPHAfBETAeGAMMAfDELTAfEPSILONhZETAeE",
    "TAdTHETAfIOTAeKAPPAfLAMDAfMUcNUcXIcOMICRONhPIcRHOdTHETA SYMBOLmSIGMAfTAUdUPSILONhPHIdCHIdPSI",
    "dOMEGAnNABLAfSMALL ALPHAfBETAeGAMMAfDELTAfEPSILONhZETAeETAdTHETAfIOTAeKAPPAfLAMDAfMUcNUcXIcO",
    "MICRONhPIcRHOdFINAL SIGMAlSIGMAfTAUdUPSILONhPHIdCHIdPSIdOMEGAlPARTIAL DIFFERENTIALuEPSILON S",
    "YMBOLoTHETA SYMBOLmKAPPA SYMBOLmPHI SYMBOLkRHO SYMBOLkPI SYMBOLqBOLD ITALIC CAPITAL ALPHAfBE",
    "TAeGAMMAfDELTAfEPSILONhZETAeETAdTHETAfIOTAeKAPPAfLAMDAfMUcNUcXIcOMICRONhPIcRHOdTHETA SYMBOLm",
    "SIGMAfTAUdUPSILONhPHIdCHIdPSIdOMEGAnNABLAfSMALL ALPHAfBETAeGAMMAfDELTAfEPSILONhZETAeETAdTHET",
    "AfIOTAeKAPPAfLAMDAfMUcNUcXIcOMICRONhPIcRHOdFINAL SIGMAlSIGMAfTAUdUPSILONhPHIdCHIdPSIdOMEGAlP",
    "ARTIAL DIFFERENTIALuEPSILON SYMBOLoTHETA SYMBOLmKAPPA SYMBOLmPHI SYMBOLkRHO SYMBOLkPI SYMBOL",
    "vSANS-SERIF BOLD CAPITAL ALPHAfBETAeGAMMAfDELTAfEPSILONhZETAeETAdTHETAfIOTAeKAPPAfLAMDAfMUcN",
    "UcXIcOMICRONhPIcRHOdTHETA SYMBOLmSIGMAfTAUdUPSILONhPHIdCHIdPSIdOMEGAnNABLAfSMALL ALPHAfBETAe",
    "GAMMAfDELTAfEPSILONhZETAeETAdTHETAfIOTAeKAPPAfLAMDAfMUcNUcXIcOMICRONhPIcRHOdFINAL SIGMAlSIGM",
    "AfTAUdUPSILONhPHIdCHIdPSIdOMEGAlPARTIAL DIFFERENTIALuEPSILON SYMBOLoTHETA SYMBOLmKAPPA SYMBO",
    "LmPHI SYMBOLkRHO SYMBOLkPI SYMBOLjITALIC CAPITAL ALPHAfBETAeGAMMAfDELTAfEPSILONhZETAeETAdTHE",
    "TAfIOTAeKAPPAfLAMDAfMUcNUcXIcOMICRONhPIcRHOdTHETA SYMBOLmSIGMAfTAUdUPSILONhPHIdCHIdPSIdOMEGA",
    "nNABLAfSMALL ALPHAfBETAeGAMMAfDELTAfEPSILONhZETAeETAdTHETAfIOTAeKAPPAfLAMDAfMUcNUcXIcOMICRON",
    "hPIcRHOdFINAL SIGMAlSIGMAfTAUdUPSILONhPHIdCHIdPSIdOMEGAlPARTIAL DIFFERENTIALuEPSILON SYMBOLo",
    "THETA SYMBOLmKAPPA SYMBOLmPHI SYMBOLkRHO SYMBOLkPI SYMBOLg+BOLD CAPITAL DIGAMMApSMALL DIGAMM",
    "AaanDIGIT ZEROeONEdTWOcHREEfFOURdIVEeSIXcEVENfEIGHTfNINEpDOUBLE-STRUCK DIGIT ZEROeONEdTWOcHR",
    "EEfFOURdIVEeSIXcEVENfEIGHTfNINEySANS-SERIF DIGIT ZEROeONEdTWOcHREEfFOURdIVEeSIXcEVENfEIGHTfN",
    "INEkBOLD DIGIT ZEROeONEdTWOcHREEfFOURdIVEeSIXcEVENfEIGHTfNINEa+MONOSPACE DIGIT ZEROeONEdTWOc",
    "HREEfFOURdIVEeSIXcEVENfEIGHTfNINEh+SIGNWRITING HAND-FIST INDEXkCIRCLE INDEXlUP INDEXjOVAL IN",
    "DEXkHINGE INDEXlANGLE INDEXlFIST INDEX BENTpCIRCLE INDEX BENTrFIST THUMB UNDER INDEX BENTwIN",
    "DEX RAISED KNUCKLEoCUPPEDgHINGEDa LOWvCIRCLE INDEX HINGEsFIST INDEX MIDDLErCIRCLE INDEX MIDD",
    "LEtFIST INDEX MIDDLE BENTeRAISED KNUCKLESpHINGEDnUP MIDDLE HINGEDqHINGED MIDDLE UPqMIDDLE CO",
    "NJOINEDa INDEX BENTkMIDDLE BENTlCUPPEDgHINGEDpROSSEDzCIRCLE INDEX MIDDLE CROSSEDb+FIST MIDDL",
    "E BENT OVER INDEXwINDEX BENT OVER MIDDLEqMIDDLE THUMBxCIRCLE INDEX MIDDLE THUMBzFIST INDEX M",
    "IDDLE STRAIGHT THUMB BENTtBENT THUMB STRAIGHTtTHUMB BENTkHINGED SPREAD THUMB SIDEf+UP MIDDLE",
    " HINGED THUMB SIDEeCONJOINEDg+HINGED MIDDLE UP THUMB SIDEb+MIDDLE UP SPREAD THUMB FORWARDxTH",
    "UMB CUPPEDfIRCLEDhHOOKEDfINGEDzTHUMB BETWEEN INDEX MIDDLE STRAIGHTj+INDEX MIDDLE CONJOINED T",
    "HUMB SIDEa CONJOINEDjBENTm+MIDDLE THUMB HOOKED INDEX UPc+INDEX THUMB HOOKED MIDDLE UPwMIDDLE",
    " CONJOINED HINGED THUMB SIDEa+ROSSED THUMB SIDErONJOINED THUMB FORWARDnCUPPED THUMB FORWARDr",
    "+MIDDLE THUMB CUPPED INDEX UPc+INDEX THUMB CUPPED MIDDLE UPc+MIDDLE THUMB CIRCLED INDEX UPcH",
    "INGEDh+INDEX THUMB ANGLED OUT MIDDLE UPnIN MIDDLE UPtCIRCLED MIDDLE UPxMIDDLE THUMB CONJOINE",
    "D HINGEDqANGLED OUTezMIDDLE THUMB ANGLED OUT INDEX UPcCROSSEDrINDEX UPc+INDEX THUMB HOOKED M",
    "IDDLE HINGEDk+LAT FOUR FINGERSa BENTeHINGEDgCONJOINEDa SPLITh+CLAW FOUR FINGERS CONJOINEDb+F",
    "IST FOUR FINGERS CONJOINED BENTg+HINGE FOUR FINGERS CONJOINEDc+FLAT FIVE FINGERS SPREADtHEEL",
    " FIVE FINGERS SPREADyFIVE FINGERS SPREAD FOUR BENTd+HEEL FIVE FINGERS SPREAD FOUR BENTi+FIVE",
    " FINGERS SPREAD BENTyHEEL FIVE FINGERS SPREAD BENTd+FIVE FINGERS SPREAD THUMB FORWARDm+CUP F",
    "IVE FINGERS SPREADa OPENc+HINGE FIVE FINGERS SPREAD OPENe+OVAL FIVE FINGERS SPREADyFLAT FIVE",
    " FINGERS SPREAD HINGEDa THUMB SIDEkNO THUMBk+a BETWEEN PALM FACINGSuHEELeTHUMB SIDEkHEEL THU",
    "MB SIDEpTHUMB BENTeFORWARDnSPLIT INDEX THUMB SIDEqCENTREa THUMB SIDEa BENTwLITTLErCLAWa THUM",
    "B SIDEkNO THUMBiTHUMB FORWARDsHOOK CURLICUEjeCUP OPENfa OPEN THUMB SIDEpTHUMB SIDEkOPEN NO T",
    "HUMBnNO THUMBiOPEN THUMB FORWARDsTHUMB FORWARDpRLICUE OPENfhIRCLEgOVALa THUMB SIDEkNO THUMBi",
    "THUMB FORWARDsHINGE OPENa THUMB FORWARDta SMALLfOPEN THUMB SIDEpTHUMB SIDEkOPEN NO THUMBnNO ",
    "THUMBiTHUMB SIDE TOUCHING INDEXtBETWEEN MIDDLE RINGf+ANGLEfFIST INDEX MIDDLE RINGwCIRCLE IND",
    "EX MIDDLE RINGyHINGE INDEX MIDDLE RINGxANGLE INDEX MIDDLE RINGxHINGE LITTLEmFIST INDEX MIDDL",
    "E RING BENTeCONJOINEDg+HINGE INDEX MIDDLE RING CONJOINEDh+FIST LITTLE DOWNa RIPPLE STRAIGHTi",
    "CURVEDnOTHERS CIRCLEDtUPjTHUMB UNDER LITTLE UPa+CIRCLE LITTLE UPqOVAL LITTLE UPoANGLE LITTLE",
    " UPpFIST LITTLE RAISED KNUCKLEoBENTeTOUCHES THUMBmHUMBrHINGE LITTLE THUMBsFIST LITTLE INDEX ",
    "THUMBxHINGE LITTLE INDEX THUMByANGLE LITTLE INDEX THUMB INDEX THUMB OUTek+FIST LITTLE INDEXr",
    "CIRCLE LITTLE INDEXtHINGE LITTLE INDEXsANGLE LITTLE INDEXsFIST INDEX MIDDLE LITTLEyCIRCLE IN",
    "DEX MIDDLE LITTLEa+HINGE INDEX MIDDLE LITTLEtRINGkANGLE INDEX MIDDLE LITTLEzFIST INDEX MIDDL",
    "E CROSS LITTLEe+CIRCLE INDEX MIDDLE CROSS LITTLEg+FIST RING DOWNoHINGE RING DOWN INDEX THUMB",
    " HOOK MIDDLEn+ANGLE RING DOWN MIDDLE THUMB INDEX CROSSo+FIST RING UPcRAISED KNUCKLEoLITTLEqC",
    "IRCLE RING LITTLEsOVAL RING LITTLEqANGLE RING LITTLErFIST RING MIDDLEa CONJOINEDjRAISED KNUC",
    "KLESwINDEXfTHUMBpHOOK RING THUMBpFIST INDEX RING LITTLEwCIRCLE INDEX RING LITTLExURLICUE IND",
    "EX RING LITTLE ONd+HOOK INDEX RING LITTLE OUTdINcUNDERc+CUP INDEX RING LITTLEvHINGE INDEX RI",
    "NG LITTLExANGLE INDEX RING LITTLE OUTexFIST MIDDLE DOWNqHINGE MIDDLEmFIST MIDDLE UPoCIRCLE M",
    "IDDLE UPqFIST MIDDLE RAISED KNUCKLEoUP THUMB SIDEzHOOK MIDDLE THUMBrFIST MIDDLE THUMB LITTLE",
    "mLITTLEgRING LITTLExCIRCLE MIDDLE RING LITTLEyURLICUE MIDDLE RING LITTLE ONc+P MIDDLE RING L",
    "ITTLEwHINGE MIDDLE RING LITTLEyANGLE MIDDLE RING LITTLE OUTdINdyCIRCLE MIDDLE RING LITTLE BE",
    "NTd+LAW MIDDLE RING LITTLE CONJOINEDa SIDEm+HOOK MIDDLE RING LITTLE CONJOINED OUTdINdg+INGE ",
    "INDEX HINGEDsFIST INDEX THUMB SIDEvHINGE INDEX THUMB SIDEwFIST INDEX THUMB SIDE THUMB DIAGON",
    "ALiCONJOINEDjBENTkINDEX BENTkBOTH BENTjINDEX HINGEqFORWARD INDEX STRAIGHTiBENTsHOOKeCURLICUE",
    "fVE THUMB INSIDEj+CLAW INDEX THUMB CURVE THUMB INSIDEj+FIST INDEX THUMB CURVE THUMB UNDERqIR",
    "CLExCUP INDEX THUMBa OPENuHINGE INDEX THUMB OPENeLARGEga SMALLxANGLE INDEX THUMB OUTdINdrFIS",
    "T THUMBa HEELeSIDE DIAGONALiCONJOINEDjBENTjFORWARDhBETWEEN INDEX MIDDLEmMIDDLE RINGlRING LIT",
    "TLEtUNDER TWO FINGERSrOVER TWO FINGERSqUNDER THREE FINGERSnFOUR FINGERSsOVER FOUR RAISED KNU",
    "CKLESg+a HEELoTOUCH SINGLEgMULTIPLEiBETWEENnGRASP SINGLEgMULTIPLEiBETWEENnSTRIKE SINGLEgMULT",
    "IPLEiBETWEENoBRUSH SINGLEgMULTIPLEiBETWEENnRUB SINGLEgMULTIPLEiBETWEENlSURFACE SYMBOLShBETWE",
    "ENoQUEEZE LARGE SINGLEmSMALL SINGLEmLARGE MULTIPLEoSMALL MULTIPLEnEQUENTIALsFLICK LARGE SING",
    "LEmSMALL SINGLEmLARGE MULTIPLEoSMALL MULTIPLEnEQUENTIALqSQUEEZE FLICK ALTERNATINGzMOVEMENT-H",
    "INGE UP DOWN LARGEfSMALLkSEQUENTIALnDOWN SEQUENTIALpUP DOWN ALTERNATING LARGEfSMALLzSIDE TO ",
    "SIDE SCISSORSb+WALLPLANE FINGER CONTACTyFLOORPLANE FINGER CONTACTzWALLPLANE SINGLE STRAIGHT ",
    "SMALLfMEDIUMgLARGEaSTqWRIST FLEXrDOUBLE STRAIGHTiWRIST FLEXkALTERNATINGa WRIST FLEXd+CROSSfT",
    "RIPLE STRAIGHT MOVEMENTrWRIST FLEXkALTERNATINGa WRIST FLEXd+BEND SMALLfMEDIUMgLARGEkCORNER S",
    "MALLfMEDIUMgLARGEfROTATIONoHECK SMALLfMEDIUMgLARGElBOX SMALLfMEDIUMgLARGEjZIGZAG SMALLfMEDIU",
    "MgLARGEmPEAKS SMALLfMEDIUMgLARGEe+TRAVEL-WALLPLANE ROTATION-WALLPLANE SINGLEgDOUBLEgALTERNAT",
    "INGvFLOORPLANE SINGLEgDOUBLEgALTERNATINGf+SHAKINGhARM SPIRAL SINGLEgDOUBLEgTRIPLEi+MOVEMENT-",
    "DIAGONAL AWAY SMALLfMEDIUMgLARGEaSTmTOWARDS SMALLfMEDIUMgLARGEaSTpBETWEEN AWAY SMALLfMEDIUMg",
    "LARGEaSTmTOWARDS SMALLfMEDIUMgLARGEaSTg+FLOORPLANE SINGLE STRAIGHT SMALLfMEDIUMgLARGEaSTqWRI",
    "ST FLEXrDOUBLE STRAIGHTiWRIST FLEXkALTERNATINGa WRIST FLEXd+CROSSfTRIPLE STRAIGHT MOVEMENTrW",
    "RIST FLEXkALTERNATING MOVEMENTiWRIST FLEXd+BENDeCORNER SMALLfMEDIUMgLARGElHECKfBOX SMALLfMED",
    "IUMgLARGEjZIGZAG SMALLfMEDIUMgLARGEmPEAKS SMALLfMEDIUMgLARGEf+TRAVEL-FLOORPLANE ROTATION-FLO",
    "ORPLANE SINGLEgDOUBLEgALTERNATINGwWALLPLANE SINGLEgDOUBLEgALTERNATINGe+SHAKINGzMOVEMENT-WALL",
    "PLANE CURVE QUARTER SMALLfMEDIUMgLARGEaSTpHALF-CIRCLE SMALLfMEDIUMgLARGEaSTtTHREE-QUARTER CI",
    "RCLE SMALLfMEDIUMh+HUMP SMALLfMEDIUMgLARGEkLOOP SMALLfMEDIUMgLARGEfSMALL DOUBLErWAVE CURVE D",
    "OUBLE SMALLfMEDIUMgLARGEmTRIPLE SMALLfMEDIUMgLARGExCURVE THEN STRAIGHToD CROSS SMALLfMEDIUMm",
    "+ROTATION-WALLPLANE SINGLEgDOUBLEgALTERNATEc+MOVEMENT-WALLPLANE SHAKINGhCURVE HITTING FRONT ",
    "WALLyHUMP HITTING FRONT WALLxLOOP HITTING FRONT WALLxWAVE HITTING FRONT WALLq+ROTATION-WALLP",
    "LANE SINGLE HITTING FRONT WALLzDOUBLE HITTING FRONT WALLzALTERNATING HITTING FRONT WALLx+MOV",
    "EMENT-WALLPLANE CURVE HITTING CHESTtHUMP HITTING CHESTsLOOP HITTING CHESTsWAVE HITTING CHEST",
    "l+ROTATION-WALLPLANE SINGLE HITTING CHESTuDOUBLE HITTING CHESTuALTERNATING HITTING CHESTs+MO",
    "VEMENT-WALLPLANE WAVE DIAGONAL PATH SMALLfMEDIUMgLARGEi+FLOORPLANE CURVE HITTING CEILING SMA",
    "LLfLARGEb+HUMP HITTING CEILING SMALL DOUBLEmLARGE DOUBLEmSMALL TRIPLEmLARGE TRIPLEh+LOOP HIT",
    "TING CEILING SMALL SINGLEmLARGE SINGLEmSMALL DOUBLEmLARGE DOUBLEh+WAVE HITTING CEILING SMALL",
    "fLARGEu+ROTATION-FLOORPLANE SINGLE HITTING CEILINGwDOUBLE HITTING CEILINGwALTERNATING HITTIN",
    "G CEILINGv+MOVEMENT-FLOORPLANE CURVE HITTING FLOOR SMALLfLARGEzHUMP HITTING FLOOR SMALL DOUB",
    "LEmLARGE DOUBLEmTRIPLE SMALL TRIPLEmLARGE TRIPLEm+LOOP HITTING FLOOR SMALL SINGLEmLARGE SING",
    "LEmSMALL DOUBLEmLARGE DOUBLEf+WAVE HITTING FLOOR SMALLfLARGEs+ROTATION-FLOORPLANE SINGLE HIT",
    "TING FLOORuDOUBLE HITTING FLOORuALTERNATING HITTING FLOORt+MOVEMENT-FLOORPLANE CURVE SMALLfM",
    "EDIUMgLARGEaSThCOMBINEDoHUMP SMALLkLOOP SMALLkWAVE SNAKEeMALLfLARGEe+ROTATION-FLOORPLANE SIN",
    "GLEgDOUBLEgALTERNATINGf+MOVEMENT-FLOORPLANE SHAKING PARALLELb+WALLPLANE ARM CIRCLE SMALL SIN",
    "GLEmMEDIUM SINGLEnSMALL DOUBLEmMEDIUM DOUBLEi+FLOORPLANE ARM CIRCLE HITTING WALL SMALL SINGL",
    "EmMEDIUM SINGLEnLARGE SINGLEmSMALL DOUBLEmMEDIUM DOUBLEnLARGE DOUBLEv+WALLPLANE WRIST CIRCLE",
    " FRONT SINGLEgDOUBLEj+FLOORPLANE WRIST CIRCLE HITTING WALL SINGLEgDOUBLEr+WALLPLANE FINGER C",
    "IRCLES SINGLEgDOUBLEf+FLOORPLANE FINGER CIRCLES HITTING WALL SINGLEgDOUBLEc++DYNAMIC ARROWHE",
    "AD SMALLfLARGEpFASTeSLOWeTENSEfRELAXEDhSIMULTANEOUSa ALTERNATINGyEVERY OTHER TIMEqGRADUALpHE",
    "ADa RIMdMOVEMENT-WALLPLANE STRAIGHTiTILToFLOORPLANE STRAIGHTtWALLPLANE CURVEpFLOORPLANE CURV",
    "Er CIRCLEuFACE DIRECTION POSITION NOSE FORWARD TILTINGpUP OR DOWNa TILTINGv+EYEBROWS STRAIGH",
    "T UPcNEUTRALhDOWNwDREAMY EYEBROWS NEUTRAL DOWNmDOWN NEUTRALmUP NEUTRALkNEUTRAL UPa+FOREHEAD ",
    "NEUTRALhCONTACThWRINKLEDrEYES OPENeSQUEEZEDiCLOSEDi BLINK SINGLEgMULTIPLEpS HALF OPENjWIDE O",
    "PENjHALF CLOSEDlWIDENING MOVEMENTt WINKfLASHES UPcDOWNeFLUTTERINGrGAZE-WALLPLANE STRAIGHTa D",
    "OUBLEgALTERNATINGe+FLOORPLANE STRAIGHTa DOUBLEgALTERNATINGf+WALLPLANE CURVEDqFLOORPLANE CURV",
    "EDrWALLPLANE CIRCLINGa+CHEEKS PUFFEDgNEUTRALhSUCKEDnTENSE CHEEKS HIGHeMIDDLEgLOWqEARSeNOSE N",
    "EUTRALhCONTACThWRINKLEShIGGLESmAIR BLOWING OUTlSUCKING INkBLOW SMALL ROTATIONSuSUCK SMALL RO",
    "TATIONSyBREATH INHALEgEXHALEnMOUTH CLOSED NEUTRALhFORWARDhCONTACToSMILEa WRINKLEDiOPENkFROWN",
    "a WRINKLEDiOPENkOPEN CIRCLEgFORWARDhWRINKLEDiOVALa WRINKLEDiYAWNjRECTANGLEa WRINKLEDiYAWNtKI",
    "SSa FORWARDhWRINKLEDnTENSEa FORWARDhSUCKEDsLIPS PRESSED TOGETHERs LOWER OVER UPPERqUPPER OVE",
    "R LOWERuMOUTH CORNERShWRINKLES SINGLEgDOUBLEvTONGUE STICKING OUT FARqLICKING LIPSmTIP BETWEE",
    "N LIPSmTOUCHING INSIDE MOUTHzINSIDE MOUTH RELAXEDuMOVES AGAINST CHEEKtCENTRE STICKING OUTmIN",
    "SIDE MOUTHzEETHa MOVEMENTiON TONGUEa MOVEMENTpLIPSa MOVEMENTqBITE LIPSpMOVEMENT-WALLPLANE JA",
    "WnFLOORPLANE JAWxNECKeHAIReEXCITEMENTkSHOULDER HIP SPINEfPOSITIONSwWALLPLANE SHOULDER HIP MO",
    "VEb+FLOORPLANE SHOULDER HIP MOVEc+SHOULDER TILTING FROM WAISTb+TORSO-WALLPLANE STRAIGHT STRE",
    "TCHqCURVED BENDvFLOORPLANE TWISTINGzUPPER BODY TILTING FROM HIP JOINTSi+LIMB COMBINATIONlLEN",
    "GTH-1b2b3b4b5b6b7nFINGERgLOCATION-WALLPLANE SPACEpFLOORPLANE SPACEr HEIGHTgWIDTHfDEPTHfHEAD ",
    "NECKjTORSOfLIMBS DIGITSvCOMMAfFULL STOPjSEMICOLONjCOLONfPARENTHESIS"]⟩,
  ⟨0x1DA9B, [
    "SIGNWRITING FILL MODIFIER-2b3b4b5b6apROTATION MODIFIER-2b3b4b5b6b7b8b9b10b1b2b3b4b5b6"]⟩,
  ⟨0x1DF00, [
    "LATIN SMALL LETTER FENG DIGRAPH WITH TRILLxREVERSED SCRIPT Ge+LETTER SMALL CAPITAL TURNED Gd",
    "+SMALL LETTER REVERSED KxLETTER SMALL CAPITAL L WITH BELTg+SMALL LETTER LEZH WITH RETROFLEX ",
    "HOOKyTURNED Y WITH BELTsREVERSED ENGmTURNED R WITH LONG LEG AND RETROFLEX HOOKo+ WITH HOOK A",
    "ND RETROFLEX HOOKr+LETTER RETROFLEX CLICK WITH RETROFLEX HOOKq+SMALL LETTER ESH WITH DOUBLE ",
    "BARa AND CURLc+TURNED T WITH CURLf+LETTER INVERTED GLOTTAL STOP WITH CURLf+STRETCHED C WITH ",
    "CURLuMALL CAPITAL TURNED Kd+SMALL LETTER L WITH FISHHOOKpDEZH DIGRAPH WITH PALATAL HOOKe+L W",
    "ITH BELT AND PALATAL HOOKc+ENG WITH PALATAL HOOKvTURNED R WITH PALATAL HOOKa+R WITH FISHHOOK",
    " AND PALATAL HOOKg+TESH DIGRAPH WITH PALATAL HOOKe+EZH WITH PALATAL HOOKvDEZH DIGRAPH WITH R",
    "ETROFLEX HOOKg+I WITH STROKE AND RETROFLEX HOOKg+O WITH RETROFLEX HOOKvTESH DIGRAPH WITH RET",
    "ROFLEX HOOKg+C WITH RETROFLEX HOOKvS WITH CURL"]⟩,
  ⟨0x1E000, [
    "COMBINING GLAGOLITIC LETTER AZUdBUKYeVEDEeGLAGOLIhDOBROfYESTUfZHIVETEagEMLJAgIZHEdNITIAL IZH",
    "ElbDJERVIgKAKOeLJUDIJEhMYSLITEhNASHIfONUdPOKOJIgRITSIfSLOVOfTVRIDOgUKUdFRITUfHERUaaeSHTAeTSI",
    "dCHRIVIgSHAdYERUbIdATIadUcSMALL YUSajYOcIOTATED SMALL YUSrBIG YUShIOTATED BIG YUSpFITA"]⟩,
  ⟨0x1E100, [
    "NYIAKENG PUACHUE HMONG LETTER MAcTSAdNTAdTAcHAcNAcXAcNKAdCAcLAcSAcZAcNCAcTSAeKAcDAcNYAcRAdVA",
    "cNTXAeTXAdFAcRAcQAcYAcNQAdPAcXYAdNPAdDLAdNPLAeHAHdMLAdPLAdGAcRRAdAaAcIbUbOaOcEaEcWaaaiTONE-B",
    "bMbJbVbSbGbDgSIGN FOR PERSONgTHINGfLOCATIONiANIMALgINVERTEBRATEqXW XWjYLLABLE LENGTHENERaatD",
    "IGIT ZEROeONEdTWOcHREEfFOURdIVEeSIXcEVENfEIGHTfNINEaaaakLOGOGRAM NYAJnCIRCLED CA"]⟩,
  ⟨0x1E290, [
    "TOTO LETTER PAcBAcTAcDAcKAcGAcMAcNAbGAdSAcCHAdYAcWAcJAcHAcRAcLAcIbBREATHY IjIUcBREATHY IUkUb",
    "EbBREATHY EjEOcBREATHY EOkObAEcBREATHY AEkAiSIGN RISING TONE"]⟩,
  ⟨0x1E2C0, [
    "WANCHO LETTER AAbbBAcCAcDAcGAcYAcPHAdLAcNAcPAcTAbHAdFAcSAbHAdJAcZAcWAcVAcKAcObAUcRAcMAcKHAdH",
    "AcEbIbNGAdUbLLHAeTSAcRAdONGdAANGdNGdINGdONcENcAANdNYAdUENdYIHkTONE TUPaNIfKOIaNIkDIGIT ZEROe",
    "ONEdTWOcHREEfFOURdIVEeSIXcEVENfEIGHTfNINEaaaaakNGUN SIGN"]⟩,
  ⟨0x1E7E0, [
    "ETHIOPIC SYLLABLE HHYAbUbIbAAcEEbbOaeGURAGE HHWAlHHWIbEEbaeGURAGE MWIbEEaeQWIbEEbdBWIbEEeKWI",
    "bEEbdGWIbEEbdFWIbEEePWIbEEad+MENDE KIKAKUI SYLLABLE M001 KIe2 KAe3 KUf65 KEEg95 KEf76 KOOg48",
    " KOg179 KUAh004 WIe5 WAe6 WUg126 WEEg18 WEe4 WOOh045 WOg194 WUIg43 WEIh061 WVIg49 WVAh139 WV",
    "Eh007 MINf8 MANf9 MUNg59 MENg94 MONh154 MUANh89 MUENi010 BIe1 BAe2 BUg150 BEEh097 BEg103 BOO",
    "g38 BOg013 Id4 Ad5 Uf163 EEf00 Ee65 OOf47 Oe37 EIe1 INe5 INf95 ANf78 ENg019 SIf20 SAe1 SUg16",
    "2 SEEg16 SEf36 SOOh079 SOg196 SIAh025 LIe6 LAe7 LUf84 LEEg73 LEf54 LOOh153 LOf10 LONG LEl016",
    " DIe7 DAe8 DUf89 DEEh180 DOOf1 DOg022 TIe3 TAe4 TUf91 TEEg55 TEg104 TOOh069 TOf28 JIe9 JAf30",
    " JUg157 JEEg13 JEf60 JOOh063 JOg175 LONG JOl031 YIe2 YAe3 YUg109 YEEh080 YEg141 YOOg21 YOg03",
    "4 FIe5 FAe6 FUf78 FEEf5 FEg133 FOOh088 FOg197 FUAg01 FANh037 NINf8 NANf9 NUNh117 NENg69 NONg",
    "76 HIg041 HAg186 HUg040 HEEg96 HEf42 HOOh140 HOg083 HEEIi128 HOOUi053 HINh130 HANh087 HUNg52",
    " HENh193 HONh046 HUANh90 NGGIh43 NGGAh82 NGGUi115 NGGEEi46 NGGEh56 NGGOOi20 NGGOh59 NGGAAi27",
    " NGGUAj086 LONG NGGEn106 LONG NGGOOn83 LONG NGGOm55 GIf11 GAf68 GUf90 GEEg66 GUEIg7 GUANh84 ",
    "NGENi057 NGONi177 NGUANj068 PIf99 PAf50 PUf81 PEEg51 PEg102 POOh066 POg145 MBIh062 MBAh122 M",
    "BUh047 MBEEi188 MBEEi072 MBEh172 MBOOg4 MBOg87 MBUUh61 LONG MBEl05 LONG MBOOm42 LONG MBOl32 ",
    "KPIh092 KPAg74 KPUg44 KPEEi108 KPEg12 KPOOh58 KPOg24 GBIh056 GBAh148 GBUh093 GBEEi107 GBEh07",
    "1 GBOOg0 GBOh171 RAf23 NDIf9 NDAf5 NDUg91 NDEEh19 NDEh067 NDOOg4 NDOh152 NJAg92 NJUg49 NJEEh",
    "34 NJOOh82 VIe5 VAf51 VUf73 VEEh085 VEg144 VOOh077 VOg164 NYINi058 NYANi170 NYUNi098 NYENh60",
    " NYONaasDIGIT ONEdTWOcHREEfFOURdIVEeSIXcEVENfEIGHTfNINEkCOMBINING NUMBER TEENSdNSeHUNDREDSiT",
    "HOUSANDSiEN THOUSANDSnHUNDRED THOUSANDSrMILLIONS"]⟩,
  ⟨0x1E900, [
    "ADLAM CAPITAL LETTER ALIFeDAALIfLAAMeMIIMeBAcSINNYIIYHEkPEcBHEdRAcEbFAcIbObDHAdYHEdWAWdNUNdK",
    "AFdYAcUbJIIMeCHIdHAcQAAFeGAcNYAdTUcNHAdVAcKHAdGBEdZALdKPOdSHAsSMALL LETTER ALIFeDAALIfLAAMeM",
    "IIMeBAcSINNYIIYHEkPEcBHEdRAcEbFAcIbObDHAdYHEdWAWdNUNdKAFdYAcUbJIIMeCHIdHAcQAAFeGAcNYAdTUcNHA",
    "dVAcKHAdGBEdZALdKPOdSHAqALIF LENGTHENERpVOWEL LENGTHENERqGEMINATION MARKpHAMZAfCONSONANT MOD",
    "IFIERsGEMINATE CONSONANT MODIFIERb+NUKTAeASALIZATION MARKaaaarDIGIT ZEROeONEdTWOcHREEfFOURdI",
    "VEeSIXcEVENfEIGHTfNINEaaaakINITIAL EXCLAMATION MARKqQUESTION MARK"]⟩,
  ⟨0x1EC71, [
    "INDIC SIYAQ NUMBER ONEdTWOcHREEfFOURdIVEeSIXcEVENfEIGHTfNINEeTENcWENTYfHIRTYgFORTYeIFTYfSIXT",
    "YeEVENTYhEIGHTYgNINETYgONE HUNDREDlTWO HUNDREDkHREE HUNDREDnFOUR HUNDREDlIVE HUNDREDmSIX HUN",
    "DREDkEVEN HUNDREDnEIGHT HUNDREDnNINE HUNDREDmONE THOUSANDmTWO THOUSANDlHREE THOUSANDoFOUR TH",
    "OUSANDmIVE THOUSANDnSIX THOUSANDlEVEN THOUSANDoEIGHT THOUSANDoNINE THOUSANDnTEN THOUSANDlWEN",
    "TY THOUSANDoHIRTY THOUSANDpFORTY THOUSANDnIFTY THOUSANDoSIXTY THOUSANDnEVENTY THOUSANDqEIGHT",
    "Y THOUSANDpNINETY THOUSANDpLAKHaANnLAKH MARKjNUMBER KARORaANhPREFIXED ONEdTWOcHREEfFOURdIVEe",
    "SIXcEVENfEIGHTfNINEuPLACEHOLDERlFRACTION ONE QUARTERhHALFiTHREE QUARTERSxRUPEE MARKkNUMBER A",
    "LTERNATE ONEdTWOcEN THOUSANDd+ALTERNATE LAKH MARK"]⟩,
  ⟨0x1ED01, [
    "OTTOMAN SIYAQ NUMBER ONEdTWOcHREEfFOURdIVEeSIXcEVENfEIGHTfNINEeTENcWENTYfHIRTYgFORTYeIFTYfSI",
    "XTYeEVENTYhEIGHTYgNINETYgONE HUNDREDlTWO HUNDREDkHREE HUNDREDnFOUR HUNDREDlIVE HUNDREDmSIX H",
    "UNDREDkEVEN HUNDREDnEIGHT HUNDREDnNINE HUNDREDmONE THOUSANDmTWO THOUSANDlHREE THOUSANDoFOUR ",
    "THOUSANDmIVE THOUSANDnSIX THOUSANDlEVEN THOUSANDoEIGHT THOUSANDoNINE THOUSANDnTEN THOUSANDlW",
    "ENTY THOUSANDoHIRTY THOUSANDpFORTY THOUSANDnIFTY THOUSANDoSIXTY THOUSANDnEVENTY THOUSANDqEIG",
    "HTY THOUSANDpNINETY THOUSANDwMARRATANiALTERNATE NUMBER TWOcHREEfFOURdIVEeSIXcEVENfEIGHTfNINE",
    "eTENdFOUR HUNDREDmSIX HUNDREDlTWO THOUSANDlEN THOUSANDd+FRACTION ONE HALFeSIXTH"]⟩,
  ⟨0x1EE00, [
    "ARABIC MATHEMATICAL ALEFeBEHdJEEMeDALadWAWdZAINeHAHdTAHdYEHdKAFdLAMdMEEMeNOONeSEENeAINdFEHdS",
    "ADdQAFdREHdSHEENfTEHcHEHeKHAHeTHALeDADdZAHdGHAINfDOTLESS BEHdNOONeFEHdQAFalINITIAL BEHdJEEMa",
    "eHEHaacAHadYEHdKAFdLAMdMEEMeNOONeSEENeAINdFEHdSADdQAFadSHEENfTEHcHEHeKHAHaeDADadGHAINaaaaaan",
    "TAILED JEEMaaaaeHAHadYEHadLAMadNOONeSEENeAINadSADdQAFadSHEENaafKHAHaeDADadGHAINafDOTLESS NOO",
    "NaeQAFasSTRETCHED BEHdJEEMaeHEHaacAHdTAHdYEHdKAFadMEEMeNOONeSEENeAINdFEHdSADdQAFadSHEENfTEHc",
    "HEHeKHAHaeDADdZAHdGHAINfDOTLESS BEHadFEHavLOOPED ALEFeBEHdJEEMeDALdHEHdWAWdZAINeHAHdTAHdYEHa",
    "dLAMdMEEMeNOONeSEENeAINdFEHdSADdQAFdREHdSHEENfTEHcHEHeKHAHeTHALeDADdZAHdGHAINaaaaamDOUBLE-ST",
    "RUCK BEHdJEEMeDALadWAWdZAINeHAHdTAHdYEHadLAMdMEEMeNOONeSEENeAINdFEHdSADdQAFdREHdSHEENfTEHcHE",
    "HeKHAHeTHALeDADdZAHdGHAIN"]⟩,
  ⟨0x1EEF0, ["ARABIC MATHEMATICAL OPERATOR MEEM WITH HAH WITH TATWEELa+HAH WITH DAL"]⟩]

end ArgRules.Text.CharacterName
