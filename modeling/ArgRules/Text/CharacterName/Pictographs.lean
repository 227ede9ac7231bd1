import ArgRules.Text.CharacterName.Block

/-!
# Names of characters: game tiles, pictographs and tags

The names of the characters from U+1F000 to U+10FFFF in Unicode 14.0, in blocks of code points.
-/

namespace ArgRules.Text.CharacterName

/-- The names of game tiles, pictographs and tags. -/
def pictographs : List Block := [
  ⟨0x1F000, [
    "MAHJONG TILE EAST WINDjSOUTH WINDkWEST WINDjNORTH WINDkRED DRAGONkGREEN DRAGONmWHITE DRAGONm",
    "ONE OF CHARACTERSrTWO OF CHARACTERSqHREE OF CHARACTERStFOUR OF CHARACTERSrIVE OF CHARACTERSs",
    "SIX OF CHARACTERSqEVEN OF CHARACTERStEIGHT OF CHARACTERStNINE OF CHARACTERSsONE OF BAMBOOSoT",
    "WO OF BAMBOOSnHREE OF BAMBOOSqFOUR OF BAMBOOSoIVE OF BAMBOOSpSIX OF BAMBOOSnEVEN OF BAMBOOSq",
    "EIGHT OF BAMBOOSqNINE OF BAMBOOSpONE OF CIRCLESoTWO OF CIRCLESnHREE OF CIRCLESqFOUR OF CIRCL",
    "ESoIVE OF CIRCLESpSIX OF CIRCLESnEVEN OF CIRCLESqEIGHT OF CIRCLESqNINE OF CIRCLESpPLUMeORCHI",
    "DgBAMBOOgCHRYSANTHEMUMnSPRINGfUMMERgAUTUMNgWINTERgJOKERfBACKaaaarDOMINO TILE HORIZONTAL BACK",
    "f-00-00b1b2b3b4b5b6e1-00b1b2b3b4b5b6e2-00b1b2b3b4b5b6e3-00b1b2b3b4b5b6e4-00b1b2b3b4b5b6e5-00",
    "b1b2b3b4b5b6e6-00b1b2b3b4b5b6qVERTICAL BACKf-00-00b1b2b3b4b5b6e1-00b1b2b3b4b5b6e2-00b1b2b3b4",
    "b5b6e3-00b1b2b3b4b5b6e4-00b1b2b3b4b5b6e5-00b1b2b3b4b5b6e6-00b1b2b3b4b5b6"]⟩,
  ⟨0x1F0A0, [
    "PLAYING CARD BACKeACE OF SPADESnTWO OF SPADESmHREE OF SPADESpFOUR OF SPADESnIVE OF SPADESoSI",
    "X OF SPADESmEVEN OF SPADESpEIGHT OF SPADESpNINE OF SPADESoTEN OF SPADESnJACK OF SPADESoKNIGH",
    "T OF SPADESqQUEEN OF SPADESpKING OF SPADESaaoACE OF HEARTSnTWO OF HEARTSmHREE OF HEARTSpFOUR",
    " OF HEARTSnIVE OF HEARTSoSIX OF HEARTSmEVEN OF HEARTSpEIGHT OF HEARTSpNINE OF HEARTSoTEN OF ",
    "HEARTSnJACK OF HEARTSoKNIGHT OF HEARTSqQUEEN OF HEARTSpKING OF HEARTSoRED JOKERajACE OF DIAM",
    "ONDSpTWO OF DIAMONDSoHREE OF DIAMONDSrFOUR OF DIAMONDSpIVE OF DIAMONDSqSIX OF DIAMONDSoEVEN ",
    "OF DIAMONDSrEIGHT OF DIAMONDSrNINE OF DIAMONDSqTEN OF DIAMONDSpJACK OF DIAMONDSqKNIGHT OF DI",
    "AMONDSsQUEEN OF DIAMONDSrKING OF DIAMONDSqBLACK JOKERalACE OF CLUBSmTWO OF CLUBSlHREE OF CLU",
    "BSoFOUR OF CLUBSmIVE OF CLUBSnSIX OF CLUBSlEVEN OF CLUBSoEIGHT OF CLUBSoNINE OF CLUBSnTEN OF",
    " CLUBSmJACK OF CLUBSnKNIGHT OF CLUBSpQUEEN OF CLUBSoKING OF CLUBSnWHITE JOKERlFOOLeTRUMP-1b2",
    "b3b4b5b6b7b8b9b10b1b2b3b4b5b6b7b8b9c20b1"]⟩,
  ⟨0x1F100, [
    "DIGIT ZERO FULL STOPjCOMMAkONE COMMAjTWO COMMAiHREE COMMAlFOUR COMMAjIVE COMMAkSIX COMMAiEVE",
    "N COMMAlEIGHT COMMAlNINE COMMAoNGBAT CIRCLED SANS-SERIF DIGIT ZEROd+NEGATIVE CIRCLED SANS-SE",
    "RIF DIGIT ZEROu+CIRCLED ZERO WITH SLASHpANTICLOCKWISE ARROWtDOLLAR SIGN WITH OVERLAID BACKSL",
    "ASHr+PARENTHESIZED LATIN CAPITAL LETTER AbBbCbDbEbFbGbHbIbJbKbLbMbNbObPbQbRbSbTbUbVbWbXbYbZk",
    "+TORTOISE SHELL BRACKETED LATIN CAPITAL LETTER Sv+CIRCLED ITALIC LATIN CAPITAL LETTER CbRd+C",
    "DcWZjOPYLEFT SYMBOLpSQUARED LATIN CAPITAL LETTER AbBbCbDbEbFbGbHbIbJbKbLbMbNbObPbQbRbSbTbUbV",
    "bWbXbYbZwHVcMVcSDbScPPVdWCkNEGATIVE CIRCLED LATIN CAPITAL LETTER AbBbCbDbEbFbGbHbIbJbKbLbMbN",
    "bObPbQbRbSbTbUbVbWbXbYbZn+RAISED MC SIGNgD SIGNgR SIGNoCIRCLED CCb WITH OVERLAID BACKSLASHzH",
    "UMAN FIGUREuNEGATIVE SQUARED LATIN CAPITAL LETTER AbBbCbDbEbFbGbHbIbJbKbLbMbNbObPbQbRbSbTbUb",
    "VbWbXbYbZn+CROSSED NEGATIVE SQUARED LATIN CAPITAL LETTER Pv+NEGATIVE SQUARED ICcPAcSAcABcWCt",
    "SQUARE DJdD CLbOOLeFREEeIDcNEWcGcOKcSOSdUP WITH EXCLAMATION MARKyVScTHREE DhSECOND SCREENnTW",
    "O KfFOUR KgEIGHT KhFIVE POINT ONEoSEVEN POINT ONEpTWENTY-TWO POINT TWOuSIXTY PhONE HUNDRED T",
    "WENTY PuLATIN SMALL LETTER DuHCbDRcI-RESgLOSSLESSiSHVdUHDdVODlMASK WORK SYMBOL"]⟩,
  ⟨0x1F1E6, [
    "REGIONAL INDICATOR SYMBOL LETTER AbBbCbDbEbFbGbHbIbJbKbLbMbNbObPbQbRbSbTbUbVbWbXbYbZi+SQUARE",
    " HIRAGANA HOKAoD KATAKANA KOKOeSA"]⟩,
  ⟨0x1F210, [
    "SQUARED CJK UNIFIED IDEOGRAPH-624Be5B57d3CCa+KATAKANA DElCJK UNIFIED IDEOGRAPH-4E8Ce591Ae89E",
    "3e5929e4EA4e6620e7121e6599e524DdF8Cd18De65B0e521De7D42d51Fe8CA9e58F0d439e6F14d295d355e4E00b9",
    "e904Ae5DE6e4E2De53F3e6307e8D70e6253e7981dA7Ae5408e6E80d709b8e7533e5272d5B6e914Daaaai+TORTOIS",
    "E SHELL BRACKETED CJK UNIFIED IDEOGRAPH-672Ce4E09c8Ce5B89e70B9e6253e76D7e52DDe6557"]⟩,
  ⟨0x1F250, ["CIRCLED IDEOGRAPH ADVANTAGEiCCEPT"]⟩,
  ⟨0x1F260, ["ROUNDED SYMBOL FOR FUcLUcSHOUeXIcSHUANGXIiCAI"]⟩,
  ⟨0x1F300, [
    "CYCLONEhFOGGYfCLOSED UMBRELLApNIGHT WITH STARSqSUNRISE OVER MOUNTAINSphCITYSCAPE AT DUSKrSUN",
    "SET OVER BUILDINGSvRAINBOWhBRIDGE AT NIGHTpWATER WAVEkVOLCANOhMILKY WAYjEARTH GLOBE EUROPE-A",
    "FRICAnAMERICAShSIA-AUSTRALIAa+GLOBE WITH MERIDIANSuNEW MOON SYMBOLpWAXING CRESCENT MOON SYMB",
    "OLb+FIRST QUARTER MOON SYMBOLzWAXING GIBBOUS MOON SYMBOLa+FULL MOON SYMBOLqWANING GIBBOUS MO",
    "ON SYMBOLa+LAST QUARTER MOON SYMBOLyWANING CRESCENT MOON SYMBOLb+CRESCENT MOONnNEW MOON WITH",
    " FACEsFIRST QUARTER MOON WITH FACEc+LAST QUARTER MOON WITH FACEb+FULL MOON WITH FACEtSUN WIT",
    "H FACEnGLOWING STARmSHOOTING STARnTHERMOMETERlBLACK DROPLETnWHITE SUNa WITH SMALL CLOUDqBEHI",
    "ND CLOUDa WITH RAINg+CLOUD WITH RAINeSNOWeLIGHTNINGjTORNADOsFOGdWIND BLOWING FACErHOT DOGhTA",
    "COeBURRITOhCHESTNUTiSEEDLINGiEVERGREEN TREEoDECIDUOUS TREEoPALM TREEjCACTUSgHOT PEPPERkTULIP",
    "fCHERRY BLOSSOMoROSEeHIBISCUSiSUNFLOWERjBLOSSOMhEAR OF MAIZEfRICElHERBeFOUR LEAF CLOVERqMAPL",
    "E LEAFkFALLEN LEAFlLEAF FLUTTERING IN WINDxMUSHROOMiTOMATOgAUBERGINEjGRAPESgMELONfWATERMELON",
    "kTANGERINEjLEMONfBANANAgPINEAPPLEjRED APPLEjGREEN APPLElPEARbCHfCHERRIESiSTRAWBERRYkHAMBURGE",
    "RjSLICE OF PIZZAoMEAT ON BONEmPOULTRY LEGlRICE CRACKERhBALLjCOOKED RICEkURRY AND RICEoSTEAMI",
    "NG BOWLmPAGHETTIjBREADfFRENCH FRIESmROASTED SWEET POTATOuDANGOfODENeSUSHIfFRIED SHRIMPlISH C",
    "AKE WITH SWIRL DESIGNb+SOFT ICE CREAMnHAVED ICEkICE CREAMjDOUGHNUTiCOOKIEfHOCOLATE BARmANDYf",
    "LOLLIPOPiCUSTARDhHONEY POTjSHORTCAKEjBENTO BOXjPOT OF FOODlCOOKINGhFORK AND KNIFEoTEACUP WIT",
    "HOUT HANDLEvSAKE BOTTLE AND CUPtWINE GLASSkCOCKTAIL GLASSoTROPICAL DRINKoBEER MUGiCLINKING B",
    "EER MUGSsBABY BOTTLElFORK AND KNIFE WITH PLATEzBOTTLE WITH POPPING CORKyPOPCORNhRIBBONgWRAPP",
    "ED PRESENTpBIRTHDAY CAKEnJACK-O-LANTERNoCHRISTMAS TREEoFATHER CHRISTMASpIREWORKSb SPARKLERrB",
    "ALLOONhPARTY POPPERmCONFETTI BALLnTANABATA TREEnCROSSED FLAGSnPINE DECORATIONpJAPANESE DOLLS",
    "oCARP STREAMERnWIND CHIMEkMOON VIEWING CEREMONYvSCHOOL SATCHELoGRADUATION CAPoHEART WITH TIP",
    " ON THE LEFTa+BOUQUET OF FLOWERSsMILITARY MEDALoREMINDER RIBBONpMUSICAL KEYBOARD WITH JACKSb",
    "+STUDIO MICROPHONErLEVEL SLIDERmCONTROL KNOBSnBEAMED ASCENDING MUSICAL NOTESxDESCENDING MUSI",
    "CAL NOTESf+FILM FRAMESlADMISSION TICKETSrCAROUSEL HORSEoFERRIS WHEELmROLLER COASTERoFISHING ",
    "POLE AND FISHvMICROPHONEjOVIE CAMERAmCINEMAgHEADPHONEjARTIST PALETTEoTOP HAThCIRCUS TENTlTIC",
    "KETgCLAPPER BOARDnPERFORMING ARTSpVIDEO GAMEkDIRECT HITkSLOT MACHINEmBILLIARDSjGAME DIEiBOWL",
    "INGhFLOWER PLAYING CARDSuMUSICAL NOTEkLTIPLE MUSICAL NOTESwSAXOPHONEjGUITARgMUSICAL KEYBOARD",
    "qTRUMPEThVIOLINgMUSICAL SCOREnRUNNING SHIRT WITH SASHxTENNIS RACQUET AND BALLxSKI AND SKI BO",
    "OTqBASKETBALL AND HOOPtCHEQUERED FLAGoSNOWBOARDERlRUNNERgSURFERfPORTS MEDALmTROPHYgHORSE RAC",
    "INGmAMERICAN FOOTBALLrRUGBY FOOTBALLoSWIMMERhWEIGHT LIFTERnGOLFERgRACING MOTORCYCLEkCARkCRIC",
    "KET BAT AND BALLuVOLLEYBALLkFIELD HOCKEY STICK AND BALLb+ICE HOCKEY STICK AND PUCKzTABLE TEN",
    "NIS PADDLE AND BALLc+SNOW CAPPED MOUNTAINuCAMPINGhBEACH WITH UMBRELLAsUILDING CONSTRUCTIONvH",
    "OUSE BUILDINGSpCITYSCAPEjDERELICT HOUSE BUILDINGxCLASSICAL BUILDINGsDESERTa ISLANDnNATIONAL ",
    "PARKnSTADIUMhHOUSE BUILDINGiWITH GARDENrOFFICE BUILDINGpJAPANESE POST OFFICEuEUROPEAN POST O",
    "FFICEuHOSPITALiBANKeAUTOMATED TELLER MACHINEyHOTELfLOVE HOTELkCONVENIENCE STORErSCHOOLgDEPAR",
    "TMENT STOREqFACTORYhIZAKAYA LANTERNpJAPANESE CASTLEpEUROPEAN CASTLEpWHITE PENNANTnBLACK PENN",
    "ANTnWAVING WHITE FLAGkBLACK FLAGrROSETTEhBLACK ROSETTEnLABELfBADMINTON RACQUET AND SHUTTLECO",
    "CKg+OW AND ARROWnAMPHORAhEMOJI MODIFIER FITZPATRICK TYPE-1-2d3b4b5b6h+RATdMOUSEfOXcWATER BUF",
    "FALOnCOWdTIGERfLEOPARDhRABBITgCATdDRAGONgCROCODILEjWHALEfSNAILcKEfHORSEfRAMdGOATeSHEEPfMONKE",
    "YgROOSTERhCHICKENhDOGdPIGdBOAReELEPHANTiOCTOPUShSPIRAL SHELLmBUGdANTdHONEYBEEiLADY BEETLElFI",
    "SHeTROPICAL FISHnBLOWFISHiTURTLEgHATCHING CHICKoBABY CHICKkFRONT-FACING BABY CHICKxBIRDePENG",
    "UINhKOALAfPOODLEgDROMEDARY CAMELpBACTRIAN CAMELoDOLPHINhMOUSE FACEkCOW FACEiTIGER FACEkRABBI",
    "T FACElCAT FACEiDRAGON FACElSPOUTING WHALEoHORSE FACEkMONKEY FACElDOG FACEiPIG FACEiFROG FAC",
    "EjHAMSTER FACEmWOLF FACEjBEAR FACEjPANDA FACEjIG NOSEhAW PRINTSkCHIPMUNKiEYESbcARdNOSEeMOUTH",
    "fTONGUEgWHITE UP POINTING BACKHAND INDEXa+DOWN POINTING BACKHAND INDEXc+LEFT POINTING BACKHA",
    "ND INDEXc+RIGHT POINTING BACKHAND INDEXj+FISTED HAND SIGNqWAVING HAND SIGNqOK HAND SIGNmTHUM",
    "BS UP SIGNhDOWN SIGNqCLAPPING HANDS SIGNtOPEN HANDS SIGNpCROWNfWOMANS HATkEYEGLASSESkNECKTIE",
    "hT-SHIRThJEANSfDRESSfKIMONOgBIKINIgWOMANS CLOTHESoPURSEfHANDBAGhPOUCHfMANS SHOEjATHLETIC SHO",
    "EnHIGH-HEELED SHOEqWOMANS SANDALgBOOTSmFOOTPRINTSkBUST IN SILHOUETTEoS IN SILHOUETTEsOYdGIRL",
    "eMANdWOMANfFAMILYgMAN AND WOMAN HOLDING HANDSb+TWO MEN HOLDING HANDSrWOMEN HOLDING HANDSxPOL",
    "ICE OFFICERoWOMAN WITH BUNNY EARSvBRIDE WITH VEILpPERSON WITH BLOND HAIRwMAN WITH GUA PI MAO",
    "kTURBANpOLDER MANdWOMANlBABYeCONSTRUCTION WORKERtPRINCESSiJAPANESE OGREeGOBLINpGHOSTfBABY AN",
    "GELkEXTRATERRESTRIAL ALIENwALIEN MONSTERnIMPdSKULLfINFORMATION DESK PERSONxGUARDSMANjDANCERg",
    "LIPSTICKiNAIL POLISHlFACE MASSAGEmHAIRCUThBARBER POLElSYRINGEhPILLeKISS MARKjLOVE LETTERlRIN",
    "GeGEM STONEjKISSeBOUQUEThCOUPLE WITH HEARTrWEDDINGhBEATING HEARTmROKEN HEARTmTWO HEARTSkSPAR",
    "KLING HEARTpGROWING HEARTnHEART WITH ARROWqBLUE HEARTkGREEN HEARTlYELLOW HEARTmPURPLE HEARTm",
    "HEART WITH RIBBONrREVOLVING HEARTSqHEART DECORATIONqDIAMOND SHAPE WITH A DOT INSIDEf+ELECTRI",
    "C LIGHT BULBtANGER SYMBOLmBOMBeSLEEPING SYMBOLpCOLLISION SYMBOLqSPLASHING SWEAT SYMBOLwDROPL",
    "ETgASH SYMBOLlPILE OF POOlFLEXED BICEPSnDIZZY SYMBOLmSPEECH BALLOONoTHOUGHT BALLOONpWHITE FL",
    "OWERmHUNDRED POINTS SYMBOLvMONEY BAGjCURRENCY EXCHANGErHEAVY DOLLAR SIGNrCREDIT CARDlBANKNOT",
    "E WITH YEN SIGNiDOLLAR SIGNlEURO SIGNjPOUND SIGNyMONEY WITH WINGSqCHART WITH UPWARDS TREND A",
    "ND YEN SIGNl+SEATePERSONAL COMPUTERrBRIEFCASEjMINIDISCiFLOPPY DISKlOPTICAL DISCmDVDdFILE FOL",
    "DERlOPEN FILE FOLDERqPAGE WITH CURLjFACING UPoCALENDARiTEAR-OFF CALENDARrCARD INDEXjHART WIT",
    "H UPWARDS TRENDnDOWNWARDS TRENDa+BAR CHARTjCLIPBOARDjPUSHPINhROUND PUSHPINnPAPERCLIPjSTRAIGH",
    "T RULERoTRIANGULAR RULERqBOOKMARK TABSnLEDGERgNOTEBOOKa WITH DECORATIVE COVERe+CLOSED BOOKlO",
    "PEN BOOKjGREEN BOOKkBLUE BOOKjORANGE BOOKlBOOKSfNAME BADGEkSCROLLgMEMOeTELEPHONE RECEIVERsPA",
    "GERfFAX MACHINElSATELLITE ANTENNArPUBLIC ADDRESS LOUDSPEAKERa+CHEERING MEGAPHONEsOUTBOX TRAY",
    "lINBOX TRAYkPACKAGEhE-MAIL SYMBOLnINCOMING ENVELOPErENVELOPE WITH DOWNWARDS ARROW ABOVEj+CLO",
    "SED MAILBOX WITH LOWERED FLAGmRAISED FLAGf+OPEN MAILBOX WITH RAISED FLAGlLOWERED FLAGe+POSTB",
    "OXdAL HORNlNEWSPAPERjMOBILE PHONEa WITH RIGHTWARDS ARROW AT LEFTq+VIBRATION MODEoMOBILE PHON",
    "E OFFqNO MOBILE PHONESqANTENNA WITH BARSrCAMERAa WITH FLASHrVIDEO CAMERAmTELEVISIONkRADIOfVI",
    "DEOCASSETTEnFILM PROJECTORoPORTABLE STEREOoRAYER BEADSmTWISTED RIGHTWARDS ARROWSzCLOCKWISE R",
    "IGHTWARDS AND LEFTWARDS OPEN CIRCLE ARROWSa WITH CIRCLED ONE OVERLAYq++DOWNWARDS AND UPWARDS",
    " OPEN CIRCLE ARROWSy+ANTICLOCKWISE DOWNWARDS AND UPWARDS OPEN CIRCLE ARROWSc++LOW BRIGHTNESS",
    " SYMBOLvHIGH BRIGHTNESS SYMBOLwSPEAKER WITH CANCELLATION STROKEza WITH ONE SOUND WAVEoTHREE ",
    "SOUND WAVESe+BATTERYhELECTRIC PLUGnLEFT-POINTING MAGNIFYING GLASSe+RIGHT-POINTING MAGNIFYING",
    " GLASSf+LOCK WITH INK PENrCLOSED LOCK WITH KEYuKEYdLOCKeOPEN LOCKjBELLa WITH CANCELLATION ST",
    "ROKEc+OOKMARKiLINK SYMBOLlRADIO BUTTONmBACK WITH LEFTWARDS ARROW ABOVEf+END WITH LEFTWARDS A",
    "RROW ABOVEe+ON WITH EXCLAMATION MARK WITH LEFT RIGHT ARROW ABOVEa++SOON WITH RIGHTWARDS ARRO",
    "W ABOVEg+TOP WITH UPWARDS ARROW ABOVEc+NO ONE UNDER EIGHTEEN SYMBOLc+KEYCAP TENkINPUT SYMBOL",
    " FOR LATIN CAPITAL LETTERSpSMALL LETTERStNUMBERShSYMBOLShLATIN LETTERSe+FIREeELECTRIC TORCHo",
    "WRENCHgHAMMERgNUT AND BOLTmHOCHOfPISTOLgMICROSCOPEkTELESCOPEjCRYSTAL BALLmSIX POINTED STAR W",
    "ITH MIDDLE DOTg+JAPANESE SYMBOL FOR BEGINNERc+TRIDENT EMBLEMoBLACK SQUARE BUTTONtWHITE SQUAR",
    "E BUTTONtLARGE RED CIRCLEkBLUE CIRCLElORANGE DIAMONDoBLUE DIAMONDsSMALL ORANGE DIAMONDoBLUE ",
    "DIAMONDsUP-POINTING RED TRIANGLEyDOWN-POINTING RED TRIANGLEa+UP-POINTING SMALL RED TRIANGLEe",
    "+DOWN-POINTING SMALL RED TRIANGLEg+LOWER RIGHT SHADOWED WHITE CIRCLEh+UPPER RIGHT SHADOWED W",
    "HITE CIRCLEh+CIRCLED CROSS POMMEEtROSS POMMEE WITH HALF-CIRCLE BELOWxmNOTCHED LEFT SEMICIRCL",
    "E WITH THREE DOTSf+RIGHT SEMICIRCLE WITH THREE DOTSo+SYMBOL FOR MARKS CHAPTERyWHITE LATIN CR",
    "OSSrHEAVY LATIN CROSSrCELTIC CROSSmOM SYMBOLjDOVE OF PEACEnKAABAfMOSQUEgSYNAGOGUEjMENORAH WI",
    "TH NINE BRANCHESa+BOWL OF HYGIEIApCLOCK FACE ONE OCLOCKkTWO OCLOCKjHREE OCLOCKmFOUR OCLOCKkI",
    "VE OCLOCKlSIX OCLOCKjEVEN OCLOCKmEIGHT OCLOCKmNINE OCLOCKlTEN OCLOCKkELEVEN OCLOCKnTWELVE OC",
    "LOCKnONE-THIRTYkTWO-THIRTYjHREE-THIRTYmFOUR-THIRTYkIVE-THIRTYlSIX-THIRTYjEVEN-THIRTYmEIGHT-T",
    "HIRTYmNINE-THIRTYlTEN-THIRTYkELEVEN-THIRTYnTWELVE-THIRTYyRIGHT SPEAKERa WITH ONE SOUND WAVEo",
    "THREE SOUND WAVESk+BULLHORNa WITH SOUND WAVESzRINGING BELLmBOOKeCANDLEgMANTELPIECE CLOCKrBLA",
    "CK SKULL AND CROSSBONESa+NO PIRACYjHOLEeMAN IN BUSINESS SUIT LEVITATINGf+SLEUTH OR SPYnDARK ",
    "SUNGLASSESpSPIDERa WEBkJOYSTICKiMAN DANCINGlLEFT HAND TELEPHONE RECEIVERc+TELEPHONE RECEIVER",
    " WITH PAGEc+RIGHT HAND TELEPHONE RECEIVERd+WHITE TOUCHTONE TELEPHONEzBLACK TOUCHTONE TELEPHO",
    "NEzTELEPHONE ON TOP OF MODEMzCLAMSHELL MOBILE PHONEwBACK OF ENVELOPEqSTAMPED ENVELOPEqENVELO",
    "PE WITH LIGHTNINGxFLYING ENVELOPEpPEN OVER STAMPED ENVELOPEzLINKED PAPERCLIPSrBLACK PUSHPINn",
    "LOWER LEFT PENCILgBALLPOINT PENnFOUNTAIN PENmPAINTBRUSHkCRAYONqEFT WRITING HANDrTURNED OK HA",
    "ND SIGNtRAISED HAND WITH FINGERS SPLAYEDf+EVERSED RAISED HAND WITH FINGERS SPLAYEDg+THUMBS U",
    "P SIGNhDOWN SIGNqVICTORY HANDmHAND WITH MIDDLE FINGER EXTENDEDo+AISED HAND WITH PART BETWEEN",
    " MIDDLE AND RING FINGERSb++WHITE DOWN POINTING LEFT HAND INDEXj+SIDEWAYS WHITE LEFT POINTING",
    " INDEXtRIGHT POINTING INDEXa+BLACK LEFT POINTING INDEXtRIGHT POINTING INDEXj+BLACK LEFT POIN",
    "TING BACKHAND INDEXc+RIGHT POINTING BACKHAND INDEXj+SIDEWAYS WHITE UP POINTING INDEXrDOWN PO",
    "INTING INDEXzBLACK UP POINTING INDEXrDOWN POINTING INDEXi+BLACK UP POINTING BACKHAND INDEXa+",
    "DOWN POINTING BACKHAND INDEXc+HEARTlDESKTOP COMPUTERqKEYBOARD AND MOUSEsTHREE NETWORKED COMP",
    "UTERSzPRINTERgOCKET CALCULATORrBLACK HARD SHELL FLOPPY DISKc+WHITE HARD SHELL FLOPPY DISKc+S",
    "OFT SHELL FLOPPY DISKwTAPE CARTRIDGEoWIRED KEYBOARDoONE BUTTON MOUSEqTWO BUTTON MOUSEpHREE B",
    "UTTON MOUSErRACKBALLjOLD PERSONAL COMPUTERvHARD DISKjSCREENgPRINTER ICONmFAX ICONiOPTICAL DI",
    "SC ICONrDOCUMENT WITH TEXTa AND PICTUREqPICTUREvFRAME WITH PICTUREhTILESfAN XpBLACK FOLDERmF",
    "OLDERgOPEN FOLDERlCARD INDEX DIVIDERSoFILE BOXnFILE CABINETmEMPTY NOTEa PAGEcDoNOTEa PAGEcDi",
    "EMPTY DOCUMENTiPAGEaSlDOCUMENTiPAGEaSfWASTEBASKETlSPIRAL NOTE PADiCALENDAR PADtDESKTOP WINDO",
    "WoMINIMIZEhAXIMIZEiOVERLAPhCLOCKWISE RIGHT AND LEFT SEMICIRCLE ARROWSp+ANCELLATION XoINCREAS",
    "E FONT SIZE SYMBOLzDECREASE FONT SIZE SYMBOLzCOMPRESSIONlOLD KEYhROLLED-UP NEWSPAPERtPAGE WI",
    "TH CIRCLED TEXTwSTOCK CHARTlDAGGER KNIFEmLIPSeSPEAKING HEAD IN SILHOUETTEb+THREE RAYS ABOVEf",
    "BELOWfLEFTeRIGHTqLEFT SPEECH BUBBLEsRIGHT SPEECH BUBBLEtTWO SPEECH BUBBLESrHREE SPEECH BUBBL",
    "ESuLEFT THOUGHT BUBBLEtRIGHT THOUGHT BUBBLEuLEFT ANGER BUBBLErRIGHT ANGER BUBBLEsMOOD BUBBLE",
    "lLIGHTNING MOOD BUBBLEhoBALLOT BOX WITH BALLOTpSCRIPT XiBOX WITH SCRIPT XpLD SCRIPT XlX WITH",
    " BOLD SCRIPT Xd+LIGHT CHECK MARKqBALLOT BOX WITH BOLD CHECKa+WORLD MAPjMOUNT FUJIkTOKYO TOWE",
    "RlSTATUE OF LIBERTYqILHOUETTE OF JAPANtMOYAIfGRINNING FACEa WITH SMILING EYESf+FACE WITH TEA",
    "RS OF JOYwSMILING FACE WITH OPEN MOUTHa AND SMILING EYESmCOLD SWEATkTIGHTLY-CLOSED EYESi+HAL",
    "OdORNSxWINKING FACEmSMILING FACE WITH SMILING EYESe+FACE SAVOURING DELICIOUS FOODd+RELIEVED ",
    "FACEnSMILING FACE WITH HEART-SHAPED EYESrSUNGLASSESzRKING FACEnNEUTRAL FACEmEXPRESSIONLESS F",
    "ACEtUNAMUSED FACEnFACE WITH COLD SWEATuPENSIVE FACEmCONFUSED FACEjOUNDED FACEpKISSING FACEmF",
    "ACE THROWING A KISSuKISSING FACE WITH SMILING EYESmCLOSED EYESd+FACE WITH STUCK-OUT TONGUEa ",
    "AND WINKING EYElTIGHTLY-CLOSED EYESy+DISAPPOINTED FACErWORRIED FACEmANGRY FACEkPOUTING FACEm",
    "CRYING FACElPERSEVERING FACEqFACE WITH LOOK OF TRIUMPHzDISAPPOINTED BUT RELIEVED FACEe+FROWN",
    "ING FACE WITH OPEN MOUTHd+ANGUISHED FACEoFEARFUL FACEmWEARY FACEkSLEEPY FACElTIRED FACEkGRIM",
    "ACING FACEoLOUDLY CRYING FACEsFACE WITH OPEN MOUTHuHUSHED FACElFACE WITH OPEN MOUTH AND COLD",
    " SWEATe+SCREAMING IN FEARwASTONISHED FACEpFLUSHED FACEmSLEEPING FACEnDIZZY FACEkFACE WITHOUT",
    " MOUTHj MEDICAL MASKwGRINNING CAT FACE WITH SMILING EYESj+CAT FACE WITH TEARS OF JOYa+SMILIN",
    "G CAT FACE WITH OPEN MOUTHkHEART-SHAPED EYESn+CAT FACE WITH WRY SMILExKISSING CAT FACE WITH ",
    "CLOSED EYESh+POUTING CAT FACEqCRYING CAT FACEpWEARY CAT FACEoSLIGHTLY FROWNING FACEnSMILING ",
    "FACEvUPSIDE-DOWN FACEqFACE WITH ROLLING EYESmNO GOOD GESTUREpOK GESTUREuPERSON BOWING DEEPLY",
    "uSEE-NO-EVIL MONKEYsHEAR-NO-EVIL MONKEYtSPEAK-NO-EVIL MONKEYuHAPPY PERSON RAISING ONE HANDd+",
    "PERSON RAISING BOTH HANDS IN CELEBRATIONh+FROWNINGiWITH POUTING FACEmFOLDED HANDSyNORTH WEST",
    " POINTING LEAFySOUTH WEST POINTING LEAFyNORTH EAST POINTING LEAFySOUTH EAST POINTING LEAFyTU",
    "RNED NORTH WEST POINTING LEAFySOUTH WEST POINTING LEAFyNORTH EAST POINTING LEAFySOUTH EAST P",
    "OINTING LEAFf+NORTH WEST POINTING VINE LEAFd+SOUTH WEST POINTING VINE LEAFd+NORTH EAST POINT",
    "ING VINE LEAFd+SOUTH EAST POINTING VINE LEAFd+HEAVY NORTH WEST POINTING VINE LEAFd+SOUTH WES",
    "T POINTING VINE LEAFd+NORTH EAST POINTING VINE LEAFd+SOUTH EAST POINTING VINE LEAFj+NORTH WE",
    "ST POINTING BUDxSOUTH WEST POINTING BUDxNORTH EAST POINTING BUDxSOUTH EAST POINTING BUDxHEAV",
    "Y NORTH WEST POINTING BUDxSOUTH WEST POINTING BUDxNORTH EAST POINTING BUDxSOUTH EAST POINTIN",
    "G BUDc+OLLOW QUILT SQUARE ORNAMENTa IN BLACK SQUAREs+SOLID QUILT SQUARE ORNAMENTa IN BLACK S",
    "QUAREr+LEFTWARDS ROCKETqUPWARDS ROCKEToRIGHTWARDS ROCKETrDOWNWARDS ROCKETqSCRIPT LIGATURE ET",
    " ORNAMENTb+HEAVY SCRIPT LIGATURE ET ORNAMENTh+LIGATURE OPEN ET ORNAMENTzHEAVY LIGATURE OPEN ",
    "ET ORNAMENTzAMPERSAND ORNAMENTySWASH AMPERSAND ORNAMENTxANS-SERIF HEAVY DOUBLE TURNED COMMA ",
    "QUOTATION MARK ORNAMENTk+COMMA QUOTATION MARK ORNAMENTk+LOW DOUBLE COMMA QUOTATION MARK ORNA",
    "MENTf++HEAVY INTERROBANG ORNAMENTa+SANS-SERIF INTERROBANG ORNAMENTf+HEAVY SANS-SERIF INTERRO",
    "BANG ORNAMENTl+VERY HEAVY SOLIDUShREVERSE SOLIDUSa+CHECKER BOARDnREVERSE CHECKER BOARDuOCKET",
    "gHELICOPTERkSTEAM LOCOMOTIVEqRAILWAY CARlHIGH-SPEED TRAINa WITH BULLET NOSEh+TRAINfMETROfLIG",
    "HT RAILkSTATIONhTRAMa CARiBUSdONCOMING BUSmTROLLEYBUSkBUS STOPiMINIBUShAMBULANCEjFIRE ENGINE",
    "lPOLICE CARkONCOMING POLICE CARtTAXIeONCOMING TAXInAUTOMOBILEkONCOMING AUTOMOBILEtRECREATION",
    "AL VEHICLEuDELIVERY TRUCKoARTICULATED LORRYrTRACTORhMONORAILgUNTAIN RAILWAYqSUSPENSION RAILW",
    "AYsMOUNTAIN CABLEWAYrAERIAL TRAMWAYoSHIPeROWBOAThSPEEDBOATjHORIZONTAL TRAFFIC LIGHTyVERTICAL",
    " TRAFFIC LIGHTwCONSTRUCTION SIGNrPOLICE CARS REVOLVING LIGHTb+TRIANGULAR FLAG ON POSTxDOOReN",
    "O ENTRY SIGNnSMOKING SYMBOLoNO SMOKING SYMBOLrPUT LITTER IN ITS PLACE SYMBOLe+DO NOT LITTER ",
    "SYMBOLuPOTABLE WATER SYMBOLuNON-POTABLE WATER SYMBOLyBICYCLEhNO BICYCLESlBICYCLISTjMOUNTAIN ",
    "BICYCLISTsPEDESTRIANkNO PEDESTRIANSoCHILDREN CROSSINGrMENS SYMBOLlWOMENS SYMBOLnRESTROOMiBAB",
    "Y SYMBOLlTOILETgWATER CLOSETmSHOWERgBATHaTUBhPASSPORT CONTROLqCUSTOMShBAGGAGE CLAIMnLEFT LUG",
    "GAGEmTRIANGLE WITH ROUNDED CORNERSd+PROHIBITED SIGNpCIRCLED INFORMATION SOURCEa+BOYS SYMBOLl",
    "GIRLS SYMBOLmCOUCH AND LAMPoSLEEPING ACCOMMODATIONvHOPPING BAGSnBELLHOP BELLkDdPLACE OF WORS",
    "HIPqOCTAGONAL SIGNoSHOPPING TROLLEYpTUPAfPAGODAgHINDU TEMPLElUTdELEVATORaaaaaiPLAYGROUND SLI",
    "DEqWHEELfRING BUOYjHAMMER AND WRENCHrSHIELDgOIL DRUMiMOTORWAYiRAILWAY TRACKnMOTOR BOATkUP-PO",
    "INTING MILITARY AIRPLANErAIRPLANEiSMALL AIRPLANEa+SMALL AIRPLANEoNORTHEAST-POINTING AIRPLANE",
    "b+AIRPLANE DEPARTUREjARRIVINGaaarSATELLITEjONCOMING FIRE ENGINEuDIESEL LOCOMOTIVErPASSENGER ",
    "SHIPoSCOOTERhMOTOR SCOOTERnCANOEfSLEDeFLYING SAUCERnSKATEBOARDkAUTO RICKSHAWnPICKUP TRUCKmRO",
    "LLER SKATEaaamALCHEMICAL SYMBOL FOR QUINTESSENCEmAIRdFIREeEARTHfWATERfAQUAFORTISg REGIAa-2hV",
    "ITAEa-2mVINEGARa-2b3jSULFURgPHILOSOPHERS SULFURtBLACK SULFURmMERCURY SUBLIMATEa-2b3tCINNABAR",
    "iSALTeNITREfVITRIOLa-2jROCK SALTa-2lGOLDeSILVERgIRON OREa-2kCROCUS OF IRONoREGULUS OF IRONpC",
    "OPPER OREkIRON-COPPER OREpSUBLIMATE OF COPPERtCROCUS OF COPPERa-2rOPPER ANTIMONIATEsSALT OF ",
    "COPPER ANTIMONIATEzUBLIMATE OF SALT OF COPPERb+VERDIGRISjTIN OREhLEAD OREiANTIMONY OREmSUBLI",
    "MATE OF ANTIMONYuALT OF ANTIMONYpUBLIMATE OF SALT OF ANTIMONYd+VINEGAR OF ANTIMONYtREGULUS O",
    "F ANTIMONYa-2oa-2b3b4jALKALIa-2iMARCASITEjSAL-AMMONIACmARSENIChREALGARa-2jAURIPIGMENTlBISMUT",
    "H ORElTARTARa-2iQUICK LIMEkBORAXa-2b3hALUMeOILdSPIRITgTINCTUREiGUMdWAXdPOWDERgCALXeTUTTYfCAP",
    "UT MORTUUMnSCEPTER OF JOVEpCADUCEUSiTRIDENThSTARRED TRIDENTpLODESTONEjSOAPeURINEfHORSE DUNGk",
    "ASHESfPOT ASHESjBRICKfPOWDERED BRICKoAMALGAMhSTRATUM SUPER STRATUMa-2wUBLIMATIONlPRECIPITATE",
    "lDISTILLeSOLVEa-2kPURIFYeTREFACTIONmCRUCIBLEa-2b3b4b5kALEMBIChBATH OF MARYeVAPOURSpRETORTgHO",
    "UReNIGHTfDAY-NIGHTjMONTHfHALF DRAMeOUNCE"]⟩,
  ⟨0x1F780, [
    "BLACK LEFT-POINTING ISOSCELES RIGHT TRIANGLEm+UP-POINTING ISOSCELES RIGHT TRIANGLEk+RIGHT-PO",
    "INTING ISOSCELES RIGHT TRIANGLEn+DOWN-POINTING ISOSCELES RIGHT TRIANGLEm+SLIGHTLY SMALL CIRC",
    "LEb+MEDIUM BOLD WHITE CIRCLEyBOLD WHITE CIRCLErHEAVY WHITE CIRCLEsVERY HEAVY WHITE CIRCLExEX",
    "TREMELY HEAVY WHITE CIRCLEc+WHITE CIRCLE CONTAINING BLACK SMALL CIRCLEq+ROUND TARGETmBLACK T",
    "INY SQUARElSLIGHTLY SMALL SQUAREb+LIGHT WHITE SQUAREsMEDIUM WHITE SQUAREtBOLD WHITE SQUARErH",
    "EAVY WHITE SQUAREsVERY HEAVY WHITE SQUARExEXTREMELY HEAVY WHITE SQUAREc+WHITE SQUARE CONTAIN",
    "ING BLACK VERY SMALL SQUARErMEDIUM SQUAREr+SQUARE TARGETnBLACK TINY DIAMONDmVERY SMALL DIAMO",
    "NDsMEDIUM SMALL DIAMONDa+WHITE DIAMOND CONTAINING BLACK VERY SMALL DIAMONDsMEDIUM DIAMONDt+D",
    "IAMOND TARGEToBLACK TINY LOZENGEmVERY SMALL LOZENGEsMEDIUM SMALL LOZENGEa+WHITE LOZENGE CONT",
    "AINING BLACK SMALL LOZENGEs+THIN GREEK CROSSqLIGHT GREEK CROSSrMEDIUM GREEK CROSSsBOLD GREEK",
    " CROSSqVERY BOLD GREEK CROSSqHEAVY GREEK CROSSwEXTREMELY HEAVY GREEK CROSSb+THIN SALTIREmLIG",
    "HT SALTIREnMEDIUM SALTIREoBOLD SALTIREmHEAVY SALTIREnVERY HEAVY SALTIREsEXTREMELY HEAVY SALT",
    "IRExLIGHT FIVE SPOKED ASTERISKa+MEDIUM FIVE SPOKED ASTERISKb+BOLD FIVE SPOKED ASTERISKzHEAVY",
    " FIVE SPOKED ASTERISKa+VERY HEAVY FIVE SPOKED ASTERISKf+EXTREMELY HEAVY FIVE SPOKED ASTERISK",
    "k+LIGHT SIX SPOKED ASTERISKzMEDIUM SIX SPOKED ASTERISKa+BOLD SIX SPOKED ASTERISKyHEAVY SIX S",
    "POKED ASTERISKzVERY HEAVY SIX SPOKED ASTERISKe+EXTREMELY HEAVY SIX SPOKED ASTERISKj+LIGHT EI",
    "GHT SPOKED ASTERISKb+MEDIUM EIGHT SPOKED ASTERISKc+BOLD EIGHT SPOKED ASTERISKa+HEAVY EIGHT S",
    "POKED ASTERISKb+VERY HEAVY EIGHT SPOKED ASTERISKg+LIGHT THREE POINTED BLACK STARe+MEDIUM THR",
    "EE POINTED BLACK STARf+THREE POINTED BLACK STARyMEDIUM THREE POINTED PINWHEEL STARi+LIGHT FO",
    "UR POINTED BLACK STARd+MEDIUM FOUR POINTED BLACK STARe+FOUR POINTED BLACK STARxMEDIUM FOUR P",
    "OINTED PINWHEEL STARh+REVERSE LIGHT FOUR POINTED PINWHEEL STARo+LIGHT FIVE POINTED BLACK STA",
    "Rd+HEAVY FIVE POINTED BLACK STARd+MEDIUM SIX POINTED BLACK STARd+HEAVY SIX POINTED BLACK STA",
    "Rc+SIX POINTED PINWHEEL STARzMEDIUM EIGHT POINTED BLACK STARf+HEAVY EIGHT POINTED BLACK STAR",
    "e+VERY HEAVY EIGHT POINTED BLACK STARj+HEAVY EIGHT POINTED PINWHEEL STARh+LIGHT TWELVE POINT",
    "ED BLACK STARf+HEAVY TWELVE POINTED BLACK STARkPINWHEEL STARi+CIRCLED TRIANGLEqNEGATIVE CIRC",
    "LED TRIANGLEzCIRCLED SQUAREoNEGATIVE CIRCLED SQUARE"]⟩,
  ⟨0x1F7E0, [
    "LARGE ORANGE CIRCLEnYELLOW CIRCLEnGREEN CIRCLEmPURPLE CIRCLEnBROWN CIRCLEmRED SQUAREkBLUE SQ",
    "UARElORANGE SQUAREnYELLOW SQUAREnGREEN SQUAREmPURPLE SQUAREnBROWN SQUAREaaaasHEAVY EQUALS SI",
    "GN"]⟩,
  ⟨0x1F800, [
    "LEFTWARDS ARROW WITH SMALL TRIANGLE ARROWHEADt+UPWARDS ARROW WITH SMALL TRIANGLE ARROWHEADr+",
    "RIGHTWARDS ARROW WITH SMALL TRIANGLE ARROWHEADu+DOWNWARDS ARROW WITH SMALL TRIANGLE ARROWHEA",
    "Dt+LEFTWARDS ARROW WITH MEDIUM TRIANGLE ARROWHEADu+UPWARDS ARROW WITH MEDIUM TRIANGLE ARROWH",
    "EADs+RIGHTWARDS ARROW WITH MEDIUM TRIANGLE ARROWHEADv+DOWNWARDS ARROW WITH MEDIUM TRIANGLE A",
    "RROWHEADu+LEFTWARDS ARROW WITH LARGE TRIANGLE ARROWHEADt+UPWARDS ARROW WITH LARGE TRIANGLE A",
    "RROWHEADr+RIGHTWARDS ARROW WITH LARGE TRIANGLE ARROWHEADu+DOWNWARDS ARROW WITH LARGE TRIANGL",
    "E ARROWHEADaaaat+LEFTWARDS ARROW WITH SMALL EQUILATERAL ARROWHEADw+UPWARDS ARROW WITH SMALL ",
    "EQUILATERAL ARROWHEADu+RIGHTWARDS ARROW WITH SMALL EQUILATERAL ARROWHEADx+DOWNWARDS ARROW WI",
    "TH SMALL EQUILATERAL ARROWHEADw+LEFTWARDS ARROW WITH EQUILATERAL ARROWHEADq+UPWARDS ARROW WI",
    "TH EQUILATERAL ARROWHEADo+RIGHTWARDS ARROW WITH EQUILATERAL ARROWHEADr+DOWNWARDS ARROW WITH ",
    "EQUILATERAL ARROWHEADq+HEAVY LEFTWARDS ARROW WITH EQUILATERAL ARROWHEADq+UPWARDS ARROW WITH ",
    "EQUILATERAL ARROWHEADo+RIGHTWARDS ARROW WITH EQUILATERAL ARROWHEADr+DOWNWARDS ARROW WITH EQU",
    "ILATERAL ARROWHEADq+LEFTWARDS ARROW WITH LARGE EQUILATERAL ARROWHEADw+UPWARDS ARROW WITH LAR",
    "GE EQUILATERAL ARROWHEADu+RIGHTWARDS ARROW WITH LARGE EQUILATERAL ARROWHEADx+DOWNWARDS ARROW",
    " WITH LARGE EQUILATERAL ARROWHEADc++LEFTWARDS TRIANGLE-HEADED ARROW WITH NARROW SHAFTx+UPWAR",
    "DS TRIANGLE-HEADED ARROW WITH NARROW SHAFTv+RIGHTWARDS TRIANGLE-HEADED ARROW WITH NARROW SHA",
    "FTy+DOWNWARDS TRIANGLE-HEADED ARROW WITH NARROW SHAFTx+LEFTWARDS TRIANGLE-HEADED ARROW WITH ",
    "MEDIUM SHAFTx+UPWARDS TRIANGLE-HEADED ARROW WITH MEDIUM SHAFTv+RIGHTWARDS TRIANGLE-HEADED AR",
    "ROW WITH MEDIUM SHAFTy+DOWNWARDS TRIANGLE-HEADED ARROW WITH MEDIUM SHAFTx+LEFTWARDS TRIANGLE",
    "-HEADED ARROW WITH BOLD SHAFTv+UPWARDS TRIANGLE-HEADED ARROW WITH BOLD SHAFTt+RIGHTWARDS TRI",
    "ANGLE-HEADED ARROW WITH BOLD SHAFTw+DOWNWARDS TRIANGLE-HEADED ARROW WITH BOLD SHAFTv+LEFTWAR",
    "DS TRIANGLE-HEADED ARROW WITH HEAVY SHAFTw+UPWARDS TRIANGLE-HEADED ARROW WITH HEAVY SHAFTu+R",
    "IGHTWARDS TRIANGLE-HEADED ARROW WITH HEAVY SHAFTx+DOWNWARDS TRIANGLE-HEADED ARROW WITH HEAVY",
    " SHAFTw+LEFTWARDS TRIANGLE-HEADED ARROW WITH VERY HEAVY SHAFTb++UPWARDS TRIANGLE-HEADED ARRO",
    "W WITH VERY HEAVY SHAFTz+RIGHTWARDS TRIANGLE-HEADED ARROW WITH VERY HEAVY SHAFTc++DOWNWARDS ",
    "TRIANGLE-HEADED ARROW WITH VERY HEAVY SHAFTb++LEFTWARDS FINGER-POST ARROWb+UPWARDS FINGER-PO",
    "ST ARROWzRIGHTWARDS FINGER-POST ARROWc+DOWNWARDS FINGER-POST ARROWb+LEFTWARDS SQUARED ARROWx",
    "UPWARDS SQUARED ARROWvRIGHTWARDS SQUARED ARROWyDOWNWARDS SQUARED ARROWxLEFTWARDS COMPRESSED ",
    "ARROWa+UPWARDS COMPRESSED ARROWyRIGHTWARDS COMPRESSED ARROWb+DOWNWARDS COMPRESSED ARROWa+LEF",
    "TWARDS HEAVY COMPRESSED ARROWg+UPWARDS HEAVY COMPRESSED ARROWe+RIGHTWARDS HEAVY COMPRESSED A",
    "RROWh+DOWNWARDS HEAVY COMPRESSED ARROWg+LEFTWARDS HEAVY ARROWvUPWARDS HEAVY ARROWtRIGHTWARDS",
    " HEAVY ARROWwDOWNWARDS HEAVY ARROW"]⟩,
  ⟨0x1F850, [
    "LEFTWARDS SANS-SERIF ARROWa+UPWARDS SANS-SERIF ARROWyRIGHTWARDS SANS-SERIF ARROWb+DOWNWARDS ",
    "SANS-SERIF ARROWa+NORTH WEST SANS-SERIF ARROWvEAST SANS-SERIF ARROWb+SOUTH EAST SANS-SERIF A",
    "RROWvWEST SANS-SERIF ARROWb+LEFT RIGHT SANS-SERIF ARROWb+UP DOWN SANS-SERIF ARROWaaaaaayWIDE",
    "-HEADED LEFTWARDS LIGHT BARB ARROWa+UPWARDS LIGHT BARB ARROWyRIGHTWARDS LIGHT BARB ARROWb+DO",
    "WNWARDS LIGHT BARB ARROWa+NORTH WEST LIGHT BARB ARROWvEAST LIGHT BARB ARROWb+SOUTH EAST LIGH",
    "T BARB ARROWvWEST LIGHT BARB ARROWb+LEFTWARDS BARB ARROWuUPWARDS BARB ARROWsRIGHTWARDS BARB ",
    "ARROWvDOWNWARDS BARB ARROWuNORTH WEST BARB ARROWpEAST BARB ARROWvSOUTH EAST BARB ARROWpWEST ",
    "BARB ARROWvLEFTWARDS MEDIUM BARB ARROWb+UPWARDS MEDIUM BARB ARROWzRIGHTWARDS MEDIUM BARB ARR",
    "OWc+DOWNWARDS MEDIUM BARB ARROWb+NORTH WEST MEDIUM BARB ARROWwEAST MEDIUM BARB ARROWc+SOUTH ",
    "EAST MEDIUM BARB ARROWwWEST MEDIUM BARB ARROWc+LEFTWARDS HEAVY BARB ARROWa+UPWARDS HEAVY BAR",
    "B ARROWyRIGHTWARDS HEAVY BARB ARROWb+DOWNWARDS HEAVY BARB ARROWa+NORTH WEST HEAVY BARB ARROW",
    "vEAST HEAVY BARB ARROWb+SOUTH EAST HEAVY BARB ARROWvWEST HEAVY BARB ARROWb+LEFTWARDS VERY HE",
    "AVY BARB ARROWf+UPWARDS VERY HEAVY BARB ARROWd+RIGHTWARDS VERY HEAVY BARB ARROWg+DOWNWARDS V",
    "ERY HEAVY BARB ARROWf+NORTH WEST VERY HEAVY BARB ARROWa+EAST VERY HEAVY BARB ARROWg+SOUTH EA",
    "ST VERY HEAVY BARB ARROWa+WEST VERY HEAVY BARB ARROW"]⟩,
  ⟨0x1F890, [
    "LEFTWARDS TRIANGLE ARROWHEADc+UPWARDS TRIANGLE ARROWHEADa+RIGHTWARDS TRIANGLE ARROWHEADd+DOW",
    "NWARDS TRIANGLE ARROWHEADc+LEFTWARDS WHITE ARROW WITHIN TRIANGLE ARROWHEADv+UPWARDS WHITE AR",
    "ROW WITHIN TRIANGLE ARROWHEADt+RIGHTWARDS WHITE ARROW WITHIN TRIANGLE ARROWHEADw+DOWNWARDS W",
    "HITE ARROW WITHIN TRIANGLE ARROWHEADv+LEFTWARDS ARROW WITH NOTCHED TAILh+UPWARDS ARROW WITH ",
    "NOTCHED TAILf+RIGHTWARDS ARROW WITH NOTCHED TAILi+DOWNWARDS ARROW WITH NOTCHED TAILh+HEAVY A",
    "RROW SHAFT WIDTH ONEdTWO THIRDSkONE HALFeTHIRDh+LEFTWARDS BOTTOM-SHADED WHITE ARROWj+RIGHTWA",
    "RDS BOTTOM SHADED WHITE ARROWk+LEFTWARDS TOP SHADED WHITE ARROWg+RIGHTWARDS TOP SHADED WHITE",
    " ARROWh+LEFTWARDS LEFT-SHADED WHITE ARROWh+RIGHTWARDS RIGHT-SHADED WHITE ARROWj+LEFTWARDS RI",
    "GHT-SHADED WHITE ARROWi+RIGHTWARDS LEFT-SHADED WHITE ARROWi+LEFTWARDS BACK-TILTED SHADOWED W",
    "HITE ARROWq+RIGHTWARDS BACK-TILTED SHADOWED WHITE ARROWr+LEFTWARDS FRONT-TILTED SHADOWED WHI",
    "TE ARROWr+RIGHTWARDS FRONT-TILTED SHADOWED WHITE ARROWs+WHITE ARROW SHAFT WIDTH ONEdTWO THIR",
    "DSaai+ARROW POINTING UPWARDS THEN NORTH WESTxRIGHTWARDS THEN CURVING SOUTH WEST"]⟩,
  ⟨0x1F900, [
    "CIRCLED CROSS FORMEE WITH FOUR DOTSjTWO DOTSouLEFT HALF CIRCLE WITH FOUR DOTSjTHREE DOTSjWO ",
    "DOTSiDOTjqDOWNWARD FACING HOOKeNOTCHED HOOKmHOOK WITH DOTnNOTCHED HOOK WITH DOTl+PINCHED FIN",
    "GERSpWHITE HEARTlBROWN HEARTlPINCHING HANDnZIPPER-MOUTH FACErMONEY-MOUTH FACEqFACE WITH THER",
    "MOMETERvNERD FACEjTHINKING FACEnFACE WITH HEAD-BANDAGEwROBOT FACEkHUGGING FACEmSIGN OF THE H",
    "ORNSrCALL ME HANDmRAISED BACK OF HANDtLEFT-FACING FISTqRIGHT-FACING FISTrHANDSHAKEf WITH IND",
    "EX AND MIDDLE FINGERS CROSSEDq+I LOVE YOU HAND SIGNuFACE WITH COWBOY HATuCLOWN FACEkNAUSEATE",
    "D FACEoROLLING ON THE FLOOR LAUGHINGd+DROOLING FACEnLYING FACEkFACE PALMjSNEEZING FACEnFACE ",
    "WITH ONE EYEBROW RAISEDc+GRINNING FACE WITH STAR EYESjONE LARGE AND ONE SMALL EYEu+FACE WITH",
    " FINGER COVERING CLOSED LIPSl+SERIOUS FACE WITH SYMBOLS COVERING MOUTHn+MILING FACE WITH SMI",
    "LING EYES AND HAND COVERING MOUTHc++FACE WITH OPEN MOUTH VOMITINGd+SHOCKED FACE WITH EXPLODI",
    "NG HEADg+PREGNANT WOMANoBREAST-FEEDINGoPALMS UP TOGETHERrSELFIEgPRINCEgMAN IN TUXEDOmOTHER C",
    "HRISTMASqSHRUGfPERSON DOING CARTWHEELwJUGGLINGiFENCERgMODERN PENTATHLONrWRESTLERSiATER POLOk",
    "HANDBALLiDIVING MASKlWILTED FLOWERnDRUM WITH DRUMSTICKSuCLINKING GLASSESqTUMBLER GLASSnSPOON",
    "fGOAL NETiRIFLEfFIRST PLACE MEDALrSECOND PLACE MEDALsTHIRD PLACE MEDALrBOXING GLOVEmMARTIAL ",
    "ARTS UNIFORMuCURLING STONEnLACROSSE STICK AND BALLxSOFTBALLiFLYING DISClCROISSANTjAVOCADOhCU",
    "CUMBERiBACONfPOTATOgCARROTgBAGUETTE BREADoGREEN SALADlSHALLOW PAN OF FOODsTUFFED FLATBREADrE",
    "GGdGLASS OF MILKnPEANUTShKIWIFRUITjPANCAKESiDUMPLINGiFORTUNE COOKIEoTAKEOUT BOXlCHOPSTICKSkB",
    "OWL WITH SPOONpCUP WITH STRAWnOCONUThBROCCOLIiPIEcRETZELhCUT OF MEATlSANDWICHiCANNED FOODlLE",
    "AFY GREENlMANGOeOON CAKEjBAGELfSMILING FACE WITH SMILING EYES AND THREE HEARTSv+YAWNING FACE",
    "mSMILING FACE WITH TEARwFACE WITH PARTY HORN AND PARTY HATyUNEVEN EYES AND WAVY MOUTHk+OVERH",
    "EATED FACEpFREEZING FACEnNINJAfDISGUISED FACEoFACE HOLDING BACK TEARSsWITH PLEADING EYESxSAR",
    "IeLAB COATiGOGGLEShHIKING BOOTlFLAT SHOEjCRABeLION FACEjSCORPIONiTURKEYgUNICORN FACEmEAGLEfD",
    "UCKeBATdSHARKfOWLdFOX FACEiBUTTERFLYjDEEReGORILLAhLIZARDgRHINOCEROSkSHRIMPfQUIDfGIRAFFE FACE",
    "mZEBRA FACEkHEDGEHOGiSAUROPODiT-REXfCRICKEThKANGAROOiLLAMAfPEACOCKhHIPPOPOTAMUSmPARROTgRACCO",
    "ONhLOBSTERhMOSQUITOhICROBEhBADGERgSWANeMAMMOTHhDODOeSLOTHfOTTEReRANGUTANjSKUNKfFLAMINGOiOYST",
    "ERgBEAVERfISONfSEALeGUIDE DOGjPROBING CANEmEMOJI COMPONENT RED HAIRiCURLY HAIRkBALDeWHITE HA",
    "IRa+BONEeLEGdFOOTeTOOTHfSUPERHEROeVILLAINlAFETY VESTlEAR WITH HEARING AIDuMOTORIZED WHEELCHA",
    "IRtANUAL WHEELCHAIRqECHANICAL ARMdLEGoCHEESE WEDGElUPCAKEhSALT SHAKERlBEVERAGE BOXmGARLICgON",
    "IONfFALAFELhWAFFLEgBUTTERgMATE DRINKkICE CUBEiBUBBLE TEAkTROLLfSTANDING PERSONpKNEELING PERS",
    "ONpDEAF PERSONlFACE WITH MONOCLErADULTfCHILDfOLDER ADULTlBEARDED PERSONoPERSON WITH HEADSCAR",
    "FoIN STEAMY ROOMoCLIMBINGiIN LOTUS POSITIONyMAGEeFAIRYfVAMPIREhMERPERSONjELFdGENIEfZOMBIEgBR",
    "AINfORANGE HEARTmBILLED CAPkSCARFfGLOVESgCOATeSOCKSfRED GIFT ENVELOPErFIRECRACKERlJIGSAW PUZ",
    "ZLE PIECEtTEST TUBEjPETRI DISHkDNA DOUBLE HELIXqCOMPASShABACUSgFIRE EXTINGUISHERrTOOLBOXhBRI",
    "CKfMAGNETgLUGGAGEgOTION BOTTLEnSPOOL OF THREADpBALL OF YARNmSAFETY PINkTEDDY BEARkBROOMeASKE",
    "TgROLL OF PAPERnBAR OF SOAPlSPONGEgRECEIPThNAZAR AMULETlEUTRAL CHESS KINGeQUEENfROOKeBISHOPg",
    "KNIGHTgPAWNsWHITE CHESS KNIGHT ROTATED FORTY-FIVE DEGREESt+BLACK CHESS KNIGHT ROTATED FORTY-",
    "FIVE DEGREESt+NEUTRAL CHESS KNIGHT ROTATED FORTY-FIVE DEGREESv+WHITE CHESS KING ROTATED NINE",
    "TY DEGREESb+QUEEN ROTATED NINETY DEGREESc+ROOK ROTATED NINETY DEGREESb+BISHOP ROTATED NINETY",
    " DEGREESd+KNIGHT ROTATED NINETY DEGREESd+PAWN ROTATED NINETY DEGREESn+BLACK CHESS KING ROTAT",
    "ED NINETY DEGREESb+QUEEN ROTATED NINETY DEGREESc+ROOK ROTATED NINETY DEGREESb+BISHOP ROTATED",
    " NINETY DEGREESd+KNIGHT ROTATED NINETY DEGREESd+PAWN ROTATED NINETY DEGREESn+NEUTRAL CHESS K",
    "ING ROTATED NINETY DEGREESb+QUEEN ROTATED NINETY DEGREESc+ROOK ROTATED NINETY DEGREESb+BISHO",
    "P ROTATED NINETY DEGREESd+KNIGHT ROTATED NINETY DEGREESd+PAWN ROTATED NINETY DEGREESp+WHITE ",
    "CHESS KNIGHT ROTATED ONE HUNDRED THIRTY-FIVE DEGREESg++BLACK CHESS KNIGHT ROTATED ONE HUNDRE",
    "D THIRTY-FIVE DEGREESg++NEUTRAL CHESS KNIGHT ROTATED ONE HUNDRED THIRTY-FIVE DEGREESi++WHITE",
    " CHESS TURNED KINGeQUEENfROOKeBISHOPgKNIGHTgPAWNxBLACK CHESS TURNED KINGeQUEENfROOKeBISHOPgK",
    "NIGHTgPAWNxNEUTRAL CHESS TURNED KINGeQUEENfROOKeBISHOPgKNIGHTgPAWNzWHITE CHESS KNIGHT ROTATE",
    "D TWO HUNDRED TWENTY-FIVE DEGREESg++BLACK CHESS KNIGHT ROTATED TWO HUNDRED TWENTY-FIVE DEGRE",
    "ESg++NEUTRAL CHESS KNIGHT ROTATED TWO HUNDRED TWENTY-FIVE DEGREESi++WHITE CHESS KING ROTATED",
    " TWO HUNDRED SEVENTY DEGREESo+QUEEN ROTATED TWO HUNDRED SEVENTY DEGREESp+ROOK ROTATED TWO HU",
    "NDRED SEVENTY DEGREESo+BISHOP ROTATED TWO HUNDRED SEVENTY DEGREESq+KNIGHT ROTATED TWO HUNDRE",
    "D SEVENTY DEGREESq+PAWN ROTATED TWO HUNDRED SEVENTY DEGREESa++BLACK CHESS KING ROTATED TWO H",
    "UNDRED SEVENTY DEGREESo+QUEEN ROTATED TWO HUNDRED SEVENTY DEGREESp+ROOK ROTATED TWO HUNDRED ",
    "SEVENTY DEGREESo+BISHOP ROTATED TWO HUNDRED SEVENTY DEGREESq+KNIGHT ROTATED TWO HUNDRED SEVE",
    "NTY DEGREESq+PAWN ROTATED TWO HUNDRED SEVENTY DEGREESa++NEUTRAL CHESS KING ROTATED TWO HUNDR",
    "ED SEVENTY DEGREESo+QUEEN ROTATED TWO HUNDRED SEVENTY DEGREESp+ROOK ROTATED TWO HUNDRED SEVE",
    "NTY DEGREESo+BISHOP ROTATED TWO HUNDRED SEVENTY DEGREESq+KNIGHT ROTATED TWO HUNDRED SEVENTY ",
    "DEGREESq+PAWN ROTATED TWO HUNDRED SEVENTY DEGREESc++WHITE CHESS KNIGHT ROTATED THREE HUNDRED",
    " FIFTEEN DEGREESe++BLACK CHESS KNIGHT ROTATED THREE HUNDRED FIFTEEN DEGREESe++NEUTRAL CHESS ",
    "KNIGHT ROTATED THREE HUNDRED FIFTEEN DEGREESg++WHITE CHESS EQUIHOPPERwBLACK CHESS EQUIHOPPER",
    "wNEUTRAL CHESS EQUIHOPPERyWHITE CHESS EQUIHOPPER ROTATED NINETY DEGREESt+BLACK CHESS EQUIHOP",
    "PER ROTATED NINETY DEGREESt+NEUTRAL CHESS EQUIHOPPER ROTATED NINETY DEGREESv+WHITE CHESS KNI",
    "GHT-QUEENfROOKeBISHOPzBLACK CHESS KNIGHT-QUEENfROOKeBISHOP"]⟩,
  ⟨0x1FA60, [
    "XIANGQI RED GENERALhMANDARINiELEPHANTiHORSEfCHARIOTgANNONgSOLDIERlBLACK GENERALhMANDARINiELE",
    "PHANTiHORSEfCHARIOTgANNONgSOLDIERaavBALLET SHOESmONE-PIECE SWIMSUITsBRIEFSgSHORTSgTHONG SAND",
    "ALaaamDROP OF BLOODnADHESIVE BANDAGEqSTETHOSCOPElX-RAYfCRUTCHaaagYO-YOfKITEePARACHUTEjBOOMER",
    "ANGjMAGIC WANDkPINATAgNESTING DOLLS"]⟩,
  ⟨0x1FA90, [
    "RINGED PLANETnCHAIRfRAZORfAXEdDIYA LAMPjBANJOfMILITARY HELMETpACCORDIONjLONG DRUMjCOINdARPEN",
    "TRY SAWnSCREWDRIVERlLADDERgHOOKeMIRRORgWINDOWgPLUNGERhSEWING NEEDLEnKNOTeBUCKETgMOUSE TRAPkT",
    "OOTHBRUSHkHEADSTONEjPLACARDhROCKeMIRROR BALLlIDENTIFICATION CARDtLOW BATTERYlHAMSAaaafFLYdWO",
    "RMeBEETLEgCOCKROACHjPOTTED PLANTmWOODeFEATHERhLOTUSfCORALfEMPTY NESTkNEST WITH EGGSaaaaaoANA",
    "TOMICAL HEARTqLUNGSfPEOPLE HUGGINGnREGNANT MANdPERSONoERSON WITH CROWN"]⟩,
  ⟨0x1FAD0, [
    "BLUEBERRIESkELL PEPPERlOLIVEfFLATBREADjTAMALEgFONDUEgTEAPOTgPOURING LIQUIDoBEANSfJARaaaaaadM",
    "ELTING FACEmSALUTING FACEnFACE WITH OPEN EYES AND HAND OVER MOUTHd+PEEKING EYElDIAGONAL MOUT",
    "HyDOTTED LINE FACEqBITING LIPjUBBLES"]⟩,
  ⟨0x1FAF0, [
    "HAND WITH INDEX FINGER AND THUMB CROSSEDo+RIGHTWARDS HANDpLEFTWARDS HANDoPALM DOWN HANDjUP H",
    "ANDmINDEX POINTING AT THE VIEWERc+HEART HANDS"]⟩,
  ⟨0x1FB00, [
    "BLOCK SEXTANT-1b2b12c3b13c23c123d4b14c24c124d34c134d234d1234e5b15c25c125d35c235d1235e45c145d",
    "245d1245e345d1345e2345e12345f6b16c26c126d36c136d236d1236e46c146c246e346d1346e2346e12346f56c1",
    "56d256d1256e356d1356e2356e12356f456d1456e2456e12456f3456e13456f23456tLOWER LEFT BLOCK DIAGON",
    "AL LOWER MIDDLE LEFT TO LOWER CENTREgRIGHTg+UPPER MIDDLE LEFT TO LOWER CENTREgRIGHTa+LEFT TO",
    " LOWER CENTREu+RIGHT BLOCK DIAGONAL UPPER MIDDLE LEFT TO UPPER CENTREgRIGHTg+LOWER MIDDLE LE",
    "FT TO UPPER CENTREgRIGHTa+LEFT TO UPPER CENTREuMIDDLE LEFT TO UPPER MIDDLE RIGHTh+CENTRE TO ",
    "LOWER MIDDLE RIGHTc+LEFT TO LOWER MIDDLE RIGHTa+CENTRE TO UPPER MIDDLE RIGHTc+LEFT TO UPPER ",
    "MIDDLE RIGHTa+CENTRE TO UPPER RIGHTw+LEFT BLOCK DIAGONAL UPPER CENTRE TO UPPER MIDDLE RIGHTc",
    "+LEFT TO UPPER MIDDLE RIGHTa+CENTRE TO LOWER MIDDLE RIGHTc+LEFT TO LOWER MIDDLE RIGHTa+CENTR",
    "E TO LOWER RIGHTvMIDDLE LEFT TO LOWER MIDDLE RIGHTn++UPPER RIGHT BLOCK DIAGONAL LOWER MIDDLE",
    " LEFT TO LOWER CENTREgRIGHTg+UPPER MIDDLE LEFT TO LOWER CENTREgRIGHTa+LEFT TO LOWER CENTREv+",
    "LEFT BLOCK DIAGONAL UPPER MIDDLE LEFT TO UPPER CENTREgRIGHTg+LOWER MIDDLE LEFT TO UPPER CENT",
    "REgRIGHTa+LEFT TO UPPER CENTREuMIDDLE LEFT TO UPPER MIDDLE RIGHTh+CENTRE TO LOWER MIDDLE RIG",
    "HTc+LEFT TO LOWER MIDDLE RIGHTa+CENTRE TO UPPER MIDDLE RIGHTc+LEFT TO UPPER MIDDLE RIGHTa+CE",
    "NTRE TO UPPER RIGHTv+RIGHT BLOCK DIAGONAL UPPER CENTRE TO UPPER MIDDLE RIGHTc+LEFT TO UPPER ",
    "MIDDLE RIGHTa+CENTRE TO LOWER MIDDLE RIGHTc+LEFT TO LOWER MIDDLE RIGHTa+CENTRE TO LOWER RIGH",
    "TvMIDDLE LEFT TO LOWER MIDDLE RIGHTi++AND RIGHT AND LOWER TRIANGULAR THREE QUARTERS BLOCKf++",
    "LEFT AND LOWER AND RIGHT TRIANGULAR THREE QUARTERS BLOCKe++UPPER AND LEFT AND LOWER TRIANGUL",
    "AR THREE QUARTERS BLOCKe++LEFT AND UPPER AND RIGHT TRIANGULAR THREE QUARTERS BLOCKz+TRIANGUL",
    "AR ONE QUARTER BLOCKh+UPPER TRIANGULAR ONE QUARTER BLOCKi+RIGHT TRIANGULAR ONE QUARTER BLOCK",
    "i+LOWER TRIANGULAR ONE QUARTER BLOCKi+VERTICAL ONE EIGHTH BLOCK-2b3b4b5b6b7b+HORIZONTAL ONE ",
    "EIGHTH BLOCK-2b3b4b5b6b7d+LEFT AND LOWER ONE EIGHTH BLOCKwUPPER ONE EIGHTH BLOCKf+RIGHT AND ",
    "UPPER ONE EIGHTH BLOCKwLOWER ONE EIGHTH BLOCKg+UPPER AND LOWER ONE EIGHTH BLOCKg+HORIZONTAL ",
    "ONE EIGHTH BLOCK-1358g+UPPER ONE QUARTER BLOCKrTHREE EIGHTHS BLOCKtFIVE EIGHTHS BLOCKsTHREE ",
    "QUARTERS BLOCKuSEVEN EIGHTHS BLOCKzRIGHT ONE QUARTER BLOCKrTHREE EIGHTHS BLOCKtFIVE EIGHTHS ",
    "BLOCKsTHREE QUARTERS BLOCKuSEVEN EIGHTHS BLOCKzLEFT HALF MEDIUM SHADEwRIGHT HALF MEDIUM SHAD",
    "ExUPPER HALF MEDIUM SHADExLOWER HALF MEDIUM SHADExINVERSE MEDIUM SHADEuUPPER HALF BLOCK AND ",
    "LOWER HALF INVERSE MEDIUM SHADEp+INVERSE MEDIUM SHADE AND LOWER HALF BLOCKaa++LEFT HALF INVE",
    "RSE MEDIUM SHADE AND RIGHT HALF BLOCKz+CHECKER BOARD FILLsINVERSE CHECKER BOARD FILLa+HEAVY ",
    "HORIZONTAL FILLvUPPER LEFT TO LOWER RIGHT FILLyRIGHT TO LOWER LEFT FILLyAND LOWER TRIANGULAR",
    " HALF BLOCKl+LEFT AND RIGHT TRIANGULAR HALF BLOCKk+UPPER LEFT TRIANGULAR MEDIUM SHADEc+RIGHT",
    " TRIANGULAR MEDIUM SHADEj+LOWER RIGHT TRIANGULAR MEDIUM SHADEd+LEFT TRIANGULAR MEDIUM SHADEi",
    "+BOX DRAWINGS LIGHT DIAGONAL UPPER CENTRE TO MIDDLE LEFTeRIGHTc+MIDDLE LEFT TO LOWER CENTREu",
    "RIGHT TO LOWER CENTREc+UPPER CENTRE TO MIDDLE LEFT TO LOWER CENTREuRIGHT TO LOWER CENTREs+MI",
    "DDLE LEFT TO LOWER CENTRE TO MIDDLE RIGHTc+UPPER CENTRE TO MIDDLE RIGHTr+UPPER CENTRE TO MID",
    "DLE LEFT AND MIDDLE RIGHT TO LOWER CENTREl+RIGHT AND MIDDLE LEFT TO LOWER CENTREf+TO LOWER C",
    "ENTRE TO MIDDLE LEFTk+LEFT TO LOWER CENTRE TO MIDDLE RIGHTh++MIDDLE LEFT TO UPPER CENTRE TO ",
    "MIDDLE RIGHT TO LOWER CENTREa++RIGHT TO UPPER CENTRE TO MIDDLE LEFT TO LOWER CENTREh++DIAMON",
    "DqHORIZONTAL WITH VERTICAL STROKEy+ARROWHEAD-SHAPED POINTERyINVERSE CHECK MARKsLEFT HALF RUN",
    "NING MANvRIGHT HALF RUNNING MANwINVERSE DOWNWARDS ARROW WITH TIP LEFTWARDSq+LEFTWARDS ARROW ",
    "AND UPPER AND LOWER ONE EIGHTH BLOCKa++RIGHTWARDS ARROW AND UPPER AND LOWER ONE EIGHTH BLOCK",
    "b++DOWNWARDS ARROW AND RIGHT ONE EIGHTH BLOCKq+UPWARDS ARROW AND RIGHT ONE EIGHTH BLOCKo+LEF",
    "T HALF FOLDERqRIGHT HALF FOLDERrVOIDED GREEK CROSSsRIGHT OPEN SQUARED DOTwNEGATIVE DIAGONAL ",
    "CROSSfMIDDLE RIGHT TO LOWER CENTREc+DIAMONDzWHITE HEAVY SALTIRE WITH ROUNDED CORNERSo+LEFT T",
    "HIRD WHITE RIGHT POINTING INDEXl+MIDDLE THIRD WHITE RIGHT POINTING INDEXn+RIGHT THIRD WHITE ",
    "RIGHT POINTING INDEXm+NEGATIVE SQUARED QUESTION MARKe+STICK FIGUREa WITH ARMS RAISEDqLEANING",
    " LEFTeRIGHTnWITH DRESSxWHITE UP-POINTING CHEVRON"]⟩,
  ⟨0x1FBF0, ["SEGMENTED DIGIT ZEROeONEdTWOcHREEfFOURdIVEeSIXcEVENfEIGHTfNINE"]⟩,
  ⟨0xE0001, ["LANGUAGE TAG"]⟩,
  ⟨0xE0020, [
    "TAG SPACEfEXCLAMATION MARKqQUOTATION MARKoNUMBER SIGNlDOLLAR SIGNlPERCENT SIGNmAMPERSANDiPOS",
    "TROPHEkLEFT PARENTHESISqRIGHT PARENTHESISrASTERISKiPLUS SIGNjCOMMAfHYPHEN-MINUSmFULL STOPjSO",
    "LIDUShDIGIT ZEROeONEdTWOcHREEfFOURdIVEeSIXcEVENfEIGHTfNINEkCOLONfSEMICOLONjLESS-THAN SIGNoEQ",
    "UALS SIGNlGREATER-THAN SIGNrQUESTION MARKnCOMMERCIAL ATnLATIN CAPITAL LETTER AbBbCbDbEbFbGbH",
    "bIbJbKbLbMbNbObPbQbRbSbTbUbVbWbXbYbZvEFT SQUARE BRACKETtREVERSE SOLIDUSoIGHT SQUARE BRACKETu",
    "CIRCUMFLEX ACCENTrLOW LINEiGRAVE ACCENTmLATIN SMALL LETTER AbBbCbDbEbFbGbHbIbJbKbLbMbNbObPbQ",
    "bRbSbTbUbVbWbXbYbZtEFT CURLY BRACKETsVERTICAL LINEnRIGHT CURLY BRACKETtTILDEjCANCEL TAG"]⟩,
  ⟨0xE0100, [
    "VARIATION SELECTOR-17b8b9c20b1b2b3b4b5b6b7b8b9c30b1b2b3b4b5b6b7b8b9c40b1b2b3b4b5b6b7b8b9c50b",
    "1b2b3b4b5b6b7b8b9c60b1b2b3b4b5b6b7b8b9c70b1b2b3b4b5b6b7b8b9c80b1b2b3b4b5b6b7b8b9c90b1b2b3b4b",
    "5b6b7b8b9c100b1b2b3b4b5b6b7b8b9c10b1b2b3b4b5b6b7b8b9c20b1b2b3b4b5b6b7b8b9c30b1b2b3b4b5b6b7b8",
    "b9c40b1b2b3b4b5b6b7b8b9c50b1b2b3b4b5b6b7b8b9c60b1b2b3b4b5b6b7b8b9c70b1b2b3b4b5b6b7b8b9c80b1b",
    "2b3b4b5b6b7b8b9c90b1b2b3b4b5b6b7b8b9d200b1b2b3b4b5b6b7b8b9c10b1b2b3b4b5b6b7b8b9c20b1b2b3b4b5",
    "b6b7b8b9c30b1b2b3b4b5b6b7b8b9c40b1b2b3b4b5b6b7b8b9c50b1b2b3b4b5b6"]⟩]

end ArgRules.Text.CharacterName
