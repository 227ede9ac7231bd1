import ArgRules.Text.CharacterName.Block

/-!
# Names of characters: punctuation, arrows, mathematical signs and other symbols

The names of the characters from U+2000 to U+2BFF in Unicode 14.0, in blocks of code points.
-/

namespace ArgRules.Text.CharacterName

/-- The names of punctuation, arrows, mathematical signs and other symbols. -/
def symbols : List Block := [
  ⟨0x2000, [
    "EN QUADgM QUADgN SPACEhM SPACEiTHREE-PER-EM SPACEsFOUR-PER-EM SPACErSIX-PER-EM SPACEqFIGURE ",
    "SPACEmPUNCTUATION SPACErTHIN SPACEkHAIR SPACEkZERO WIDTH SPACEfNON-JOINERkJOINERrLEFT-TO-RIG",
    "HT MARKsRIGHT-TO-LEFT MARKsHYPHENgNON-BREAKING HYPHENtFIGURE DASHlEN DASHgM DASHhHORIZONTAL ",
    "BARoDOUBLE VERTICAL LINEnLOW LINEpLEFT SINGLE QUOTATION MARKa+RIGHT SINGLE QUOTATION MARKb+S",
    "INGLE LOW-9 QUOTATION MARKuHIGH-REVERSED-9 QUOTATION MARKl+LEFT DOUBLE QUOTATION MARKa+RIGHT",
    " DOUBLE QUOTATION MARKb+DOUBLE LOW-9 QUOTATION MARKuHIGH-REVERSED-9 QUOTATION MARKk+AGGERfOU",
    "BLE DAGGERnBULLETgTRIANGULAR BULLETrONE DOT LEADERoTWO DOT LEADERoHORIZONTAL ELLIPSISsYPHENA",
    "TION POINTrLINE SEPARATORoPARAGRAPH SEPARATORtLEFT-TO-RIGHT EMBEDDINGxRIGHT-TO-LEFT EMBEDDIN",
    "GxPOP DIRECTIONAL FORMATTINGa+LEFT-TO-RIGHT OVERRIDEwRIGHT-TO-LEFT OVERRIDEwNARROW NO-BREAK ",
    "SPACEvPER MILLE SIGNkTEN THOUSAND SIGNuRIMEfDOUBLE PRIMEmTRIPLE PRIMEmREVERSED PRIMEfDOUBLE ",
    "PRIMEmTRIPLE PRIMEvCARETfSINGLE LEFT-POINTING ANGLE QUOTATION MARKi+RIGHT-POINTING ANGLE QUO",
    "TATION MARKq+REFERENCE MARKoDOUBLE EXCLAMATION MARKxINTERROBANGlOVERLINEiUNDERTIEiCHARACTER ",
    "TIEmARET INSERTION POINTvASTERISMiHYPHEN BULLETnFRACTION SLASHoLEFT SQUARE BRACKET WITH QUIL",
    "Le+RIGHT SQUARE BRACKET WITH QUILLf+DOUBLE QUESTION MARKuQUESTION EXCLAMATION MARKzEXCLAMATI",
    "ON QUESTION MARKzTIRONIAN SIGN ETqREVERSED PILCROW SIGNvBLACK LEFTWARDS BULLETqRIGHTWARDS BU",
    "LLETxLOW ASTERISKmREVERSED SEMICOLONsCLOSE UPiTWO ASTERISKS ALIGNED VERTICALLYg+COMMERCIAL M",
    "INUS SIGNvSWUNG DASHkINVERTED UNDERTIErFLOWER PUNCTUATION MARKxTHREE DOT PUNCTUATIONvQUADRUP",
    "LE PRIMEpFOUR DOT PUNCTUATIONtIVE DOT PUNCTUATIONuTWO DOT PUNCTUATIONtFOUR DOT MARKnDOTTED C",
    "ROSSmTRICOLONiVERTICAL FOUR DOTSsMEDIUM MATHEMATICAL SPACEzWORD JOINERlFUNCTION APPLICATIONu",
    "INVISIBLE TIMESfSEPARATORjPLUSaoLEFT-TO-RIGHT ISOLATEvRIGHT-TO-LEFT ISOLATEvFIRST STRONG ISO",
    "LATEuPOP DIRECTIONAL ISOLATExINHIBIT SYMMETRIC SWAPPINGa+ACTIVATE SYMMETRIC SWAPPINGb+INHIBI",
    "T ARABIC FORM SHAPINGb+ACTIVATE ARABIC FORM SHAPINGc+NATIONAL DIGIT SHAPESuOMINAL DIGIT SHAP",
    "ESuSUPERSCRIPT ZEROeLATIN SMALL LETTER IaauFOURdIVEeSIXcEVENfEIGHTfNINEePLUS SIGNjMINUSfEQUA",
    "LS SIGNlLEFT PARENTHESISqRIGHT PARENTHESISrLATIN SMALL LETTER Ne+BSCRIPT ZEROeONEdTWOcHREEfF",
    "OURdIVEeSIXcEVENfEIGHTfNINEePLUS SIGNjMINUSfEQUALS SIGNlLEFT PARENTHESISqRIGHT PARENTHESISab",
    "+LATIN SUBSCRIPT SMALL LETTER AbEbObXbSCHWAfHbKbLbMbNbPbSbTaaae+EURO-CURRENCY SIGNsCOLON SIG",
    "NjRUZEIRO SIGNnFRENCH FRANC SIGNrLIRA SIGNjMILL SIGNjNAIRA SIGNkPESETA SIGNlRUPEE SIGNkWON S",
    "IGNiNEW SHEQEL SIGNpDONG SIGNjEURO SIGNjKIP SIGNiTUGRIK SIGNlDRACHMA SIGNmGERMAN PENNY SIGNr",
    "PESO SIGNjGUARANI SIGNmAUSTRAL SIGNmHRYVNIA SIGNmCEDI SIGNjLIVRE TOURNOIS SIGNtSPESMILO SIGN",
    "nTENGE SIGNkINDIAN RUPEE SIGNrTURKISH LIRA SIGNrNORDIC MARK SIGNqMANAT SIGNkRUBLE SIGNkLARI ",
    "SIGNjBITCOIN SIGNmSOM SIGN"]⟩,
  ⟨0x20D0, [
    "COMBINING LEFT HARPOON ABOVEsRIGHT HARPOON ABOVEtLONG VERTICAL LINE OVERLAYa+SHORT VERTICAL ",
    "LINE OVERLAYb+ANTICLOCKWISE ARROW ABOVEzCLOCKWISE ARROW ABOVEvLEFT ARROW ABOVEqRIGHT ARROW A",
    "BOVEpNG OVERLAYmCLOCKWISE RING OVERLAYwANTICLOCKWISE RING OVERLAYa+THREE DOTS ABOVEqFOUR DOT",
    "S ABOVEpENCLOSING CIRCLEgSQUAREgDIAMONDhCIRCLE BACKSLASHa+LEFT RIGHT ARROW ABOVEwENCLOSING S",
    "CREENgKEYCAPgUPWARD POINTING TRIANGLEi+REVERSE SOLIDUS OVERLAYxDOUBLE VERTICAL STROKE OVERLA",
    "Ye+ANNUITY SYMBOLoTRIPLE UNDERDOTpWIDE BRIDGE ABOVErLEFTWARDS ARROW OVERLAYwONG DOUBLE SOLID",
    "US OVERLAYb+RIGHTWARDS HARPOON WITH BARB DOWNWARDSm+LEFTWARDS HARPOON WITH BARB DOWNWARDSh+ ",
    "ARROW BELOWqRIGHT ARROW BELOWrASTERISK ABOVE"]⟩,
  ⟨0x2100, [
    "ACCOUNT OFjDDRESSED TO THE SUBJECTyDOUBLE-STRUCK CAPITAL CwEGREE CELSIUSoCENTRE LINE SYMBOLr",
    "ARE OFfDA UNAiEULER CONSTANToSCRUPLEhDEGREE FAHRENHEITrSCRIPT SMALL GhCAPITAL HqBLACK-LETTER",
    " CAPITAL HwDOUBLE-STRUCK CAPITAL HxPLANCK CONSTANTa OVER TWO PIb+SCRIPT CAPITAL IqBLACK-LETT",
    "ER CAPITAL IwSCRIPT CAPITAL LjSMALL LoL B BAR SYMBOLoDOUBLE-STRUCK CAPITAL NxNUMERO SIGNlSOU",
    "ND RECORDING COPYRIGHTyCRIPT CAPITAL PqDOUBLE-STRUCK CAPITAL PbQxSCRIPT CAPITAL RqBLACK-LETT",
    "ER CAPITAL RwDOUBLE-STRUCK CAPITAL RxPRESCRIPTION TAKErRESPONSEiSERVICE MARKmTELEPHONE SIGNn",
    "RADE MARK SIGNpVERSICLEiDOUBLE-STRUCK CAPITAL ZxOUNCE SIGNjHM SIGNiINVERTED OHM SIGNrBLACK-L",
    "ETTER CAPITAL ZwTURNED GREEK SMALL LETTER IOTAe+KELVIN SIGNlANGSTROM SIGNnSCRIPT CAPITAL BqB",
    "LACK-LETTER CAPITAL CwESTIMATED SYMBOLqSCRIPT SMALL EhCAPITAL EbFqTURNED CAPITAL FqSCRIPT CA",
    "PITAL MjSMALL OoALEF SYMBOLlBET SYMBOLkGIMEL SYMBOLmDALET SYMBOLmINFORMATION SOURCEsROTATED ",
    "CAPITAL QrFACSIMILE SIGNoDOUBLE-STRUCK SMALL PIcGAMMAlCAPITAL GAMMAfPIkN-ARY SUMMATIONd+TURN",
    "ED SANS-SERIF CAPITAL GbLb+REVERSED SANS-SERIF CAPITAL Ld+TURNED SANS-SERIF CAPITAL Yb+DOUBL",
    "E-STRUCK ITALIC CAPITAL DjSMALL DbEbIbJc+PROPERTY LINEnTURNED AMPERSANDqPER SIGNiAKTIESELSKA",
    "BmTURNED SMALL FoSYMBOL FOR SAMARITAN SOURCEb+VULGAR FRACTION ONE SEVENTHhNINTHfTENTHeHIRDjT",
    "WO THIRDSkONE FIFTHjTWO FIFTHSjHREE FIFTHSmFOUR FIFTHSlONE SIXTHjFIVE SIXTHSlONE EIGHTHkTHRE",
    "E EIGHTHSnFIVE EIGHTHSmSEVEN EIGHTHSd+FRACTION NUMERATOR ONEwROMAN NUMERAL ONEdTWOcHREEfFOUR",
    "dIVEeSIXcEVENfEIGHTfNINEeTENdELEVENgTWELVEgFIFTYfONE HUNDREDlFIVE HUNDREDmONE THOUSANDa+SMAL",
    "L ROMAN NUMERAL ONEdTWOcHREEfFOURdIVEeSIXcEVENfEIGHTfNINEeTENdELEVENgTWELVEgFIFTYfONE HUNDRE",
    "DlFIVE HUNDREDmONE THOUSANDg+ROMAN NUMERAL ONE THOUSAND C DqFIVE THOUSANDnTEN THOUSANDmREVER",
    "SED ONE HUNDREDi+LATIN SMALL LETTER REVERSED Cd+ROMAN NUMERAL SIX LATE FORMnFIFTY EARLY FORM",
    "kTHOUSANDoONE HUNDRED THOUSANDi+VULGAR FRACTION ZERO THIRDSb+TURNED DIGIT TWOcHREEaaaasLEFTW",
    "ARDS ARROWpUPWARDS ARROWnRIGHTWARDS ARROWqDOWNWARDS ARROWpLEFT RIGHT ARROWqUP DOWN ARROWnNOR",
    "TH WEST ARROWkEAST ARROWqSOUTH EAST ARROWkWEST ARROWqLEFTWARDS ARROW WITH STROKEb+RIGHTWARDS",
    " ARROW WITH STROKEc+LEFTWARDS WAVE ARROWuRIGHTWARDS WAVE ARROWvLEFTWARDS TWO HEADED ARROWa+U",
    "PWARDS TWO HEADED ARROWyRIGHTWARDS TWO HEADED ARROWb+DOWNWARDS TWO HEADED ARROWa+LEFTWARDS A",
    "RROW WITH TAILzRIGHTWARDS ARROW WITH TAILa+LEFTWARDS ARROW FROM BARyUPWARDS ARROW FROM BARwR",
    "IGHTWARDS ARROW FROM BARzDOWNWARDS ARROW FROM BARyUP DOWN ARROW WITH BASExLEFTWARDS ARROW WI",
    "TH HOOKzRIGHTWARDS ARROW WITH HOOKa+LEFTWARDS ARROW WITH LOOPzRIGHTWARDS ARROW WITH LOOPa+LE",
    "FT RIGHT WAVE ARROWkARROW WITH STROKEc+DOWNWARDS ZIGZAG ARROWwUPWARDS ARROW WITH TIP LEFTWAR",
    "DSjRIGHTWARDSh+DOWNWARDS ARROW WITH TIP LEFTWARDSjRIGHTWARDSj+RIGHTWARDS ARROW WITH CORNER D",
    "OWNWARDSm+DOWNWARDS ARROW WITH CORNER LEFTWARDSl+ANTICLOCKWISE TOP SEMICIRCLE ARROWi+CLOCKWI",
    "SE TOP SEMICIRCLE ARROWe+NORTH WEST ARROW TO LONG BARc+LEFTWARDS ARROW TO BAR OVER RIGHTWARD",
    "S ARROW TO BARz+ANTICLOCKWISE OPEN CIRCLE ARROWf+CLOCKWISE OPEN CIRCLE ARROWb+LEFTWARDS HARP",
    "OON WITH BARB UPWARDShDOWNWARDSl+UPWARDS HARPOON WITH BARB RIGHTWARDSkLEFTWARDSj+RIGHTWARDS ",
    "HARPOON WITH BARB UPWARDShDOWNWARDSm+DOWNWARDS HARPOON WITH BARB RIGHTWARDSkLEFTWARDSl+RIGHT",
    "WARDS ARROW OVER LEFTWARDS ARROWl+UPWARDS ARROW LEFTWARDS OF DOWNWARDS ARROWq+LEFTWARDS ARRO",
    "W OVER RIGHTWARDS ARROWb+PAIRED ARROWSxUPWARDS PAIRED ARROWSvRIGHTWARDS PAIRED ARROWSyDOWNWA",
    "RDS PAIRED ARROWSxLEFTWARDS HARPOON OVER RIGHTWARDS HARPOONp+RIGHTWARDS HARPOON OVER LEFTWAR",
    "DS HARPOONp+LEFTWARDS DOUBLE ARROW WITH STROKEe+ RIGHT DOUBLE ARROW WITH STROKEj+RIGHTWARDS ",
    "DOUBLE ARROW WITH STROKEj+LEFTWARDS DOUBLE ARROWwUPWARDS DOUBLE ARROWuRIGHTWARDS DOUBLE ARRO",
    "WxDOWNWARDS DOUBLE ARROWwLEFT RIGHT DOUBLE ARROWxUP DOWN DOUBLE ARROWuNORTH WEST DOUBLE ARRO",
    "WrEAST DOUBLE ARROWxSOUTH EAST DOUBLE ARROWrWEST DOUBLE ARROWxLEFTWARDS TRIPLE ARROWwRIGHTWA",
    "RDS TRIPLE ARROWxLEFTWARDS SQUIGGLE ARROWyRIGHTWARDS SQUIGGLE ARROWzUPWARDS ARROW WITH DOUBL",
    "E STROKEg+DOWNWARDS ARROW WITH DOUBLE STROKEi+LEFTWARDS DASHED ARROWwUPWARDS DASHED ARROWuRI",
    "GHTWARDS DASHED ARROWxDOWNWARDS DASHED ARROWwLEFTWARDS ARROW TO BARwRIGHTWARDS ARROW TO BARx",
    "LEFTWARDS WHITE ARROWvUPWARDS WHITE ARROWtRIGHTWARDS WHITE ARROWwDOWNWARDS WHITE ARROWvUPWAR",
    "DS WHITE ARROW FROM BARiON PEDESTALa WITH HORIZONTAL BARoVERTICAL BARj+DOUBLE ARROWa ON PEDE",
    "STALm+RIGHTWARDS WHITE ARROW FROM WALLg+NORTH WEST ARROW TO CORNERa+SOUTH EAST ARROW TO CORN",
    "ERa+UP DOWN WHITE ARROWtRIGHT ARROW WITH SMALL CIRCLEd+DOWNWARDS ARROW LEFTWARDS OF UPWARDS ",
    "ARROWq+THREE RIGHTWARDS ARROWSxLEFTWARDS ARROW WITH VERTICAL STROKEk+RIGHTWARDS ARROW WITH V",
    "ERTICAL STROKEl+LEFT RIGHT ARROW WITH VERTICAL STROKEh+WARDS ARROW WITH DOUBLE VERTICAL STRO",
    "KEr+RIGHTWARDS ARROW WITH DOUBLE VERTICAL STROKEs+LEFT RIGHT ARROW WITH DOUBLE VERTICAL STRO",
    "KEo+WARDS OPEN-HEADED ARROWb+RIGHTWARDS OPEN-HEADED ARROWc+LEFT RIGHT OPEN-HEADED ARROWc+FOR",
    " ALLhCOMPLEMENTkPARTIAL DIFFERENTIALuTHERE EXISTSgDOES NOT EXISTuEMPTY SETjINCREMENTjNABLAfE",
    "LEMENT OFkNOT AN ELEMENT OFrSMALL ELEMENT OFqCONTAINS AS MEMBERsDOES NOT CONTAIN AS MEMBERa+",
    "SMALL CONTAINS AS MEMBERyEND OF PROOFmN-ARY PRODUCThCOPRODUCTjSUMMATIONpMINUS SIGNf-OR-PLUS ",
    "SIGNsDOT PLUShIVISION SLASHoSET MINUSjASTERISK OPERATORrRING OPERATORnBULLET OPERATORpSQUARE",
    " ROOTlCUBE ROOTjFOURTH ROOTlPROPORTIONAL TOpINFINITYiRIGHT ANGLElANGLEfMEASURED ANGLEoSPHERI",
    "CAL ANGLEpDIVIDESgOES NOT DIVIDEpPARALLEL TOlNOT PARALLEL TOpLOGICAL ANDdORkINTERSECTIONmUNI",
    "ONfINTEGRALiDOUBLE INTEGRALpTRIPLE INTEGRALpCONTOUR INTEGRALqSURFACE INTEGRALqVOLUME INTEGRA",
    "LpCLOCKWISE INTEGRALiCONTOUR INTEGRALa+ANTICLOCKWISE CONTOUR INTEGRALe+THEREFOREjBECAUSEhRAT",
    "IOfPROPORTIONkDOT MINUSjEXCESSgGEOMETRIC PROPORTIONuHOMOTHETICkTILDE OPERATORoREVERSED TILDE",
    "oINVERTED LAZY SpSINE WAVEjWREATH PRODUCToNOT TILDEjMINUS TILDElASYMPTOTICALLY EQUAL TOxNOT ",
    "ASYMPTOTICALLY EQUAL TOb+APPROXIMATELY EQUAL TOiBUT NOT ACTUALLY EQUAL TOn+NEITHER APPROXIMA",
    "TELY NOR ACTUALLY EQUAL TOr+ALMOST EQUAL TOpNOT ALMOST EQUAL TOtALMOST EQUAL OR EQUAL TOyTRI",
    "PLE TILDEmALL EQUAL TOmEQUIVALENT TOnGEOMETRICALLY EQUIVALENT TOb+DIFFERENCE BETWEENsAPPROAC",
    "HES THE LIMITuGEOMETRICALLY EQUAL TOwAPPROXIMATELY EQUAL TO OR THE IMAGE OFm+IMAGE OF OR APP",
    "ROXIMATELY EQUAL TOi+COLON EQUALSmEQUALS COLONmRING IN EQUAL TOlEQUAL TOnCORRESPONDS TOoESTI",
    "MATESiQUIANGULAR TOoSTAR EQUALSlDELTA EQUAL TOoEQUAL TO BY DEFINITIONwMEASURED BYlQUESTIONED",
    " EQUAL TOtNOT EQUAL TOmIDENTICAL TOmNOT IDENTICAL TOqSTRICTLY EQUIVALENT TOwLESS-THAN OR EQU",
    "AL TOvGREATER-THAN OR EQUAL TOyLESS-THAN OVER EQUAL TOxGREATER-THAN OVER EQUAL TOa+LESS-THAN",
    " BUT NOT EQUAL TOa+GREATER-THAN BUT NOT EQUAL TOd+MUCH LESS-THANjGREATER-THANrBETWEENhNOT EQ",
    "UIVALENT TOnLESS-THANjGREATER-THANpEITHER LESS-THAN NOR EQUAL TOwGREATER-THAN NOR EQUAL TOh+",
    "LESS-THAN OR EQUIVALENT TOa+GREATER-THAN OR EQUIVALENT TOd+NEITHER LESS-THAN NOR EQUIVALENT ",
    "TOb+GREATER-THAN NOR EQUIVALENT TOm+LESS-THAN OR GREATER-THANzGREATER-THAN OR LESS-THANzNEIT",
    "HER LESS-THAN NOR GREATER-THANa+GREATER-THAN NOR LESS-THANi+PRECEDESiSUCCEEDSiPRECEDES OR EQ",
    "UAL TOuSUCCEEDS OR EQUAL TOuPRECEDES OR EQUIVALENT TOzSUCCEEDS OR EQUIVALENT TOzDOES NOT PRE",
    "CEDEhSUCCEEDqSUBSET OFhPERSET OFlNOT A SUBSET OFhPERSET OFrSUBSET OF OR EQUAL TOtPERSET OF O",
    "R EQUAL TOxNEITHER A SUBSET OF NOR EQUAL TOuPERSET OF NOR EQUAL TOi+SUBSET OF WITH NOT EQUAL",
    " TOzPERSET OF WITH NOT EQUAL TOd+MULTISETa MULTIPLICATIONoUNIONoSQUARE IMAGE OFiORIGINAL OFl",
    "IMAGE OF OR EQUAL TOuORIGINAL OF OR EQUAL TOxCAPcUPkCIRCLED PLUSeMINUSfTIMESfDIVISION SLASHn",
    "OT OPERATORmRING OPERATORnASTERISK OPERATORrEQUALSgDASHmSQUARED PLUSeMINUSfTIMESfDOT OPERATO",
    "RuRIGHT TACKkLEFT TACKjDOWN TACKjUP TACKhASSERTIONjMODELSgTRUEeFORCESgTRIPLE VERTICAL BAR RI",
    "GHT TURNSTILEj+DOUBLE VERTICAL BAR DOUBLE RIGHT TURNSTILEo+ES NOT PROVEoNOT TRUEiDOES NOT FO",
    "RCEoNEGATED DOUBLE VERTICAL BAR DOUBLE RIGHT TURNSTILEy+PRECEDES UNDER RELATIONxSUCCEEDS UND",
    "ER RELATIONxNORMAL SUBGROUP OFsCONTAINS AS NORMAL SUBGROUPb+NORMAL SUBGROUP OF OR EQUAL TOe+",
    "CONTAINS AS NORMAL SUBGROUP OR EQUAL TOn+ORIGINAL OFlIMAGE OFiMULTIMAPiHERMITIAN CONJUGATE M",
    "ATRIXa+INTERCALATElXORdNANDdORdRIGHT ANGLE WITH ARCoTRIANGLEoN-ARY LOGICAL ANDdORkINTERSECTI",
    "ONmUNIONlDIAMOND OPERATORpOT OPERATORmSTAR OPERATORnDIVISION TIMESoBOWTIEgLEFT NORMAL FACTOR",
    " SEMIDIRECT PRODUCTl+RIGHT NORMAL FACTOR SEMIDIRECT PRODUCTm+LEFT SEMIDIRECT PRODUCTxRIGHT S",
    "EMIDIRECT PRODUCTxEVERSED TILDE EQUALSvCURLY LOGICAL ORcANDrDOUBLE SUBSETePERSETiINTERSECTIO",
    "NmUNIONmPITCHFORKjEQUAL AND PARALLEL TOvLESS-THAN WITH DOTsGREATER-THAN WITH DOTvVERY MUCH L",
    "ESS-THANjGREATER-THANwLESS-THAN EQUAL TO OR GREATER-THANi+GREATER-THAN EQUAL TO OR LESS-THAN",
    "i+EQUAL TO OR LESS-THANjGREATER-THANmPRECEDESiSUCCEEDSuDOES NOT PRECEDE OR EQUALqSUCCEED OR ",
    "EQUALzNOT SQUARE IMAGE OF OR EQUAL TOuORIGINAL OF OR EQUAL TOi+SQUARE IMAGE OF OR NOT EQUAL ",
    "TOyORIGINAL OF OR NOT EQUAL TOi+LESS-THAN BUT NOT EQUIVALENT TOf+GREATER-THAN BUT NOT EQUIVA",
    "LENT TOi+PRECEDES BUT NOT EQUIVALENT TOe+SUCCEEDS BUT NOT EQUIVALENT TOe+NOT NORMAL SUBGROUP",
    " OFwDOES NOT CONTAIN AS NORMAL SUBGROUPj+NOT NORMAL SUBGROUP OF OR EQUAL TOi+DOES NOT CONTAI",
    "N AS NORMAL SUBGROUP OR EQUALs+VERTICAL ELLIPSISrMIDLINE HORIZONTAL ELLIPSISb+UP RIGHT DIAGO",
    "NAL ELLIPSISa+DOWN RIGHT DIAGONAL ELLIPSISc+ELEMENT OF WITH LONG HORIZONTAL STROKEwVERTICAL ",
    "BAR AT END OF HORIZONTAL STROKEe++SMALL ELEMENT OF WITH VERTICAL BAR AT END OF HORIZONTAL ST",
    "ROKEk++ELEMENT OF WITH DOT ABOVEjOVERBARxSMALL ELEMENT OF WITH OVERBARd+ELEMENT OF WITH UNDE",
    "RBARiTWO HORIZONTAL STROKESm+CONTAINS WITH LONG HORIZONTAL STROKEwVERTICAL BAR AT END OF HOR",
    "IZONTAL STROKEc++SMALL CONTAINS WITH VERTICAL BAR AT END OF HORIZONTAL STROKEi++CONTAINS WIT",
    "H OVERBARvSMALL CONTAINS WITH OVERBARb+Z NOTATION BAG MEMBERSHIPzDIAMETER SIGNnELECTRIC ARRO",
    "WoHOUSEfUP ARROWHEADmDOWN ARROWHEADoPROJECTIVEjERSPECTIVElWAVY LINEjLEFT CEILINGmRIGHT CEILI",
    "NGnLEFT FLOORkRIGHT FLOORlBOTTOM RIGHT CROPkLEFT CROPqTOP RIGHT CROPkLEFT CROPnREVERSED NOT ",
    "SIGNrSQUARE LOZENGEoARCdSEGMENTfCTORgTELEPHONE RECORDERsPOSITION INDICATORsVIEWDATA SQUAREpP",
    "LACE OF INTEREST SIGNwTURNED NOT SIGNpWATCHfHOURGLASSjTOP LEFT CORNERlRIGHT CORNERqBOTTOM LE",
    "FT CORNERlRIGHT CORNERtTOP HALF INTEGRALrBOTTOM HALF INTEGRALuFROWNfSMILEfUP ARROWHEAD BETWE",
    "EN TWO HORIZONTAL BARSo+OPTION KEYkERASE TO THE RIGHTsX IN A RECTANGLE BOXuKEYBOARDiLEFT-POI",
    "NTING ANGLE BRACKETb+RIGHT-POINTING ANGLE BRACKETc+ERASE TO THE LEFTrBENZENE RINGmCYLINDRICI",
    "TYmALL AROUND-PROFILEsSYMMETRYiTOTAL RUNOUTmDIMENSION ORIGINqCONICAL TAPERnSLOPEfCOUNTERBORE",
    "eSINKlAPL FUNCTIONAL SYMBOL I-BEAMgSQUISH QUADlQUAD EQUALfDIVIDEeAMONDhJOTdCIRCLElCIRCLE STI",
    "LEfJOTkSLASH BARjBACKSLASH BARnQUAD SLASHfBACKSLASHjLESS-THANjGREATER-THANrLEFTWARDS VANEoRI",
    "GHTWARDS VANEpQUAD LEFTWARDS ARROWpRIGHTWARDS ARROWvCIRCLE BACKSLASHqDOWN TACK UNDERBARrELTA",
    " STILElQUAD DOWN CARETjELTAkDOWN TACK JOTnUPWARDS VANEmQUAD UPWARDS ARROWsUP TACK OVERBARpDE",
    "L STILEjQUAD UP CARETiDELiUP TACK JOTlDOWNWARDS VANEoQUAD DOWNWARDS ARROWsOTE UNDERBARoDELTA",
    " UNDERBARnIAMOND UNDERBARqJOT UNDERBARmCIRCLE UNDERBARpUP SHOE JOTlQUOTE QUADkCIRCLE STARlQU",
    "AD COLONkUP TACK DIAERESISrDEL DIAERESISnSTAR DIAERESISoJOT DIAERESISnCIRCLE DIAERESISqDOWN ",
    "SHOE STILEpLEFT SHOE STILEpTILDE DIAERESISpGREATER-THAN DIAERESISwCOMMA BARjDEL TILDEjZILDEf",
    "STILE TILDEkEMICOLON UNDERBARsQUAD NOT EQUALjQUESTIONnDOWN CARET TILDEqUP CARET TILDEoIOTAeR",
    "HOdOMEGAfALPHA UNDERBARoEPSILON UNDERBARqIOTA UNDERBARnOMEGA UNDERBARoALPHAb+NOT CHECK MARKo",
    "RIGHT ANGLE WITH DOWNWARDS ZIGZAG ARROWn+SHOULDERED OPEN BOXtBELL SYMBOLlVERTICAL LINE WITH ",
    "MIDDLE DOTd+INSERTION SYMBOLqCONTINUOUS UNDERLINE SYMBOLb+DISCONTINUOUS UNDERLINE SYMBOLe+EM",
    "PHASIS SYMBOLpCOMPOSITION SYMBOLsWHITE SQUARE WITH CENTRE VERTICAL LINEm+ENTER SYMBOLmALTERN",
    "ATIVE KEY SYMBOLwHELM SYMBOLlCIRCLED HORIZONTAL BAR WITH NOTCHzTRIANGLE DOWNvBROKEN CIRCLE W",
    "ITH NORTHWEST ARROWi+UNDO SYMBOLlMONOSTABLE SYMBOLrHYSTERESIS SYMBOLrOPEN-CIRCUIT-OUTPUT H-T",
    "YPE SYMBOLnL-TYPE SYMBOLh+PASSIVE-PULL-DOWN-OUTPUT SYMBOLsUP-OUTPUT SYMBOLd+DIRECT CURRENT S",
    "YMBOL FORM TWOe+SOFTWARE-FUNCTION SYMBOLyAPL FUNCTIONAL SYMBOL QUADa+DECIMAL SEPARATOR KEY S",
    "YMBOLc+PREVIOUS PAGEnNEXT PAGEjPRINT SCREEN SYMBOLtCLEAR SCREEN SYMBOLtLEFT PARENTHESIS UPPE",
    "R HOOKkEXTENSIONjLOWER HOOKb+RIGHT PARENTHESIS UPPER HOOKkEXTENSIONjLOWER HOOKc+LEFT SQUARE ",
    "BRACKET UPPER CORNERmEXTENSIONjLOWER CORNERg+RIGHT SQUARE BRACKET UPPER CORNERmEXTENSIONjLOW",
    "ER CORNERh+LEFT CURLY BRACKET UPPER HOOKkMIDDLE PIECEmLOWER HOOKd+CURLY BRACKET EXTENSIONxRI",
    "GHT CURLY BRACKET UPPER HOOKkMIDDLE PIECEmLOWER HOOKe+INTEGRAL EXTENSIONsHORIZONTAL LINE EXT",
    "ENSIONzUPPER LEFT OR LOWER RIGHT CURLY BRACKET SECTIONp+RIGHT OR LOWER LEFT CURLY BRACKET SE",
    "CTIONv+SUMMATION TOPdBOTTOMqTOP SQUARE BRACKETsBOTTOM SQUARE BRACKETa OVER TOP SQUARE BRACKE",
    "Tt+RADICAL SYMBOL BOTTOMvLEFT VERTICAL BOX LINEwRIGHT VERTICAL BOX LINExHORIZONTAL SCAN LINE",
    "-1b3b7b9wDENTISTRY SYMBOL LIGHT VERTICAL AND TOP RIGHTjBOTTOM RIGHTqWITH CIRCLEuDOWN AND HOR",
    "IZONTAL WITH CIRCLEf+UP AND HORIZONTAL WITH CIRCLEd+VERTICAL WITH TRIANGLEwDOWN AND HORIZONT",
    "AL WITH TRIANGLEh+UP AND HORIZONTAL WITH TRIANGLEf+VERTICAL AND WAVErDOWN AND HORIZONTAL WIT",
    "H WAVEd+UP AND HORIZONTAL WITH WAVEb+DOWN AND HORIZONTALtUP AND HORIZONTALrVERTICAL AND TOP ",
    "LEFTiBOTTOM LEFTv+SQUARE FOOTlRETURN SYMBOLnEJECT SYMBOLmVERTICAL LINE EXTENSIONxMETRICAL BR",
    "EVEfLONG OVER SHORTpSHORT OVER LONGpLONG OVER TWO SHORTSuTWO SHORTS OVER LONGjJOINEDqRISEMEg",
    "ETRASEMEjPENTASEMEsEARTH GROUNDmFUSEeTOP PARENTHESISpBOTTOM PARENTHESISsTOP CURLY BRACKETrBO",
    "TTOM CURLY BRACKETuTOP TORTOISE SHELL BRACKETa+BOTTOM TORTOISE SHELL BRACKETd+WHITE TRAPEZIU",
    "MpBENZENE RING WITH CIRCLEySTRAIGHTNESSmFLATNESSiAC CURRENTkELECTRICAL INTERSECTIONxDECIMAL ",
    "EXPONENT SYMBOLxBLACK RIGHT-POINTING DOUBLE TRIANGLEe+LEFT-POINTING DOUBLE TRIANGLEd+UP-POIN",
    "TING DOUBLE TRIANGLEb+DOWN-POINTING DOUBLE TRIANGLEd+RIGHT-POINTING DOUBLE TRIANGLE WITH VER",
    "TICAL BARw+LEFT-POINTING DOUBLE TRIANGLE WITH VERTICAL BARv+RIGHT-POINTING TRIANGLE WITH DOU",
    "BLE VERTICAL BARc++ALARM CLOCKlSTOPWATCHjTIMER CLOCKlHOURGLASS WITH FLOWING SANDb+BLACK MEDI",
    "UM LEFT-POINTING TRIANGLEwRIGHT-POINTING TRIANGLExUP-POINTING TRIANGLEuDOWN-POINTING TRIANGL",
    "Ej+DOUBLE VERTICAL BARtBLACK SQUARE FOR STOPpCIRCLE FOR RECORDxPOWER SYMBOLgON-OFF SYMBOLl S",
    "YMBOLjSLEEP SYMBOLsOBSERVER EYE SYMBOLtSYMBOL FOR NULLeSTART OF HEADINGhTEXTnEND OF TEXTdRAN",
    "SMISSIONrQUIRYhACKNOWLEDGElBELLdACKSPACEjHORIZONTAL TABULATIONvLINE FEEDjVERTICAL TABULATION",
    "tFORM FEEDjCARRIAGE RETURNpSHIFT OUTdINiDATA LINK ESCAPEpEVICE CONTROL ONEdTWOcHREEfFOURtNEG",
    "ATIVE ACKNOWLEDGEuSYNCHRONOUS IDLEqEND OF TRANSMISSION BLOCKzCANCELgEND OF MEDIUMnSUBSTITUTE",
    "kESCAPEgFILE SEPARATORoGROUP SEPARATORpRECORD SEPARATORqUNIT SEPARATORoSPACEfDELETErBLANK SY",
    "MBOLmOPEN BOXiSYMBOL FOR NEWLINEhDELETE FORM TWOpSUBSTITUTE FORM TWO"]⟩,
  ⟨0x2440, [
    "OCR HOOKeCHAIRfFORKeINVERTED FORKnBELT BUCKLEkOW TIEgRANCH BANK IDENTIFICATIONa+AMOUNT OF CH",
    "ECKpDASHeCUSTOMER ACCOUNT NUMBERxDOUBLE BACKSLASH"]⟩,
  ⟨0x2460, [
    "CIRCLED DIGIT ONEdTWOcHREEfFOURdIVEeSIXcEVENfEIGHTfNINEkNUMBER TENdELEVENgTWELVEfHIRTEENiFOU",
    "RTEENhIFTEENhSIXTEENgEVENTEENjEIGHTEENiNINETEENiTWENTYvPARENTHESIZED DIGIT ONEdTWOcHREEfFOUR",
    "dIVEeSIXcEVENfEIGHTfNINEkNUMBER TENdELEVENgTWELVEfHIRTEENiFOURTEENhIFTEENhSIXTEENgEVENTEENjE",
    "IGHTEENiNINETEENiTWENTYb+DIGIT ONE FULL STOPnTWO FULL STOPmHREE FULL STOPpFOUR FULL STOPnIVE",
    " FULL STOPoSIX FULL STOPmEVEN FULL STOPpEIGHT FULL STOPpNINE FULL STOPuNUMBER TEN FULL STOPn",
    "ELEVEN FULL STOPqTWELVE FULL STOPpHIRTEEN FULL STOPsFOURTEEN FULL STOPrIFTEEN FULL STOPrSIXT",
    "EEN FULL STOPqEVENTEEN FULL STOPtEIGHTEEN FULL STOPsNINETEEN FULL STOPsTWENTY FULL STOPxPARE",
    "NTHESIZED LATIN SMALL LETTER AbBbCbDbEbFbGbHbIbJbKbLbMbNbObPbQbRbSbTbUbVbWbXbYbZi+CIRCLED LA",
    "TIN CAPITAL LETTER AbBbCbDbEbFbGbHbIbJbKbLbMbNbObPbQbRbSbTbUbVbWbXbYbZqSMALL LETTER AbBbCbDb",
    "EbFbGbHbIbJbKbLbMbNbObPbQbRbSbTbUbVbWbXbYbZuDIGIT ZEROsNEGATIVE CIRCLED NUMBER ELEVENgTWELVE",
    "fHIRTEENiFOURTEENhIFTEENhSIXTEENgEVENTEENjEIGHTEENiNINETEENiTWENTYe+DOUBLE CIRCLED DIGIT ONE",
    "dTWOcHREEfFOURdIVEeSIXcEVENfEIGHTfNINEkNUMBER TENzNEGATIVE CIRCLED DIGIT ZEROb+BOX DRAWINGS ",
    "LIGHT HORIZONTALqHEAVY HORIZONTALqLIGHT VERTICALoHEAVY VERTICALoLIGHT TRIPLE DASH HORIZONTAL",
    "c+HEAVY TRIPLE DASH HORIZONTALc+LIGHT TRIPLE DASH VERTICALa+HEAVY TRIPLE DASH VERTICALa+LIGH",
    "T QUADRUPLE DASH HORIZONTALf+HEAVY QUADRUPLE DASH HORIZONTALf+LIGHT QUADRUPLE DASH VERTICALd",
    "+HEAVY QUADRUPLE DASH VERTICALd+LIGHT DOWN AND RIGHTuDOWN LIGHT AND RIGHT HEAVYvHEAVY AND RI",
    "GHT LIGHTa+HEAVY DOWN AND RIGHTuLIGHT DOWN AND LEFTtDOWN LIGHT AND LEFT HEAVYuHEAVY AND LEFT",
    " LIGHTzHEAVY DOWN AND LEFTtLIGHT UP AND RIGHTsUP LIGHT AND RIGHT HEAVYvHEAVY AND RIGHT LIGHT",
    "yHEAVY UP AND RIGHTsLIGHT UP AND LEFTrUP LIGHT AND LEFT HEAVYuHEAVY AND LEFT LIGHTxHEAVY UP ",
    "AND LEFTrLIGHT VERTICAL AND RIGHTyVERTICAL LIGHT AND RIGHT HEAVYe+UP HEAVY AND RIGHT DOWN LI",
    "GHTd+DOWN HEAVY AND RIGHT UP LIGHTd+VERTICAL HEAVY AND RIGHT LIGHTe+DOWN LIGHT AND RIGHT UP ",
    "HEAVYd+UP LIGHT AND RIGHT DOWN HEAVYd+HEAVY VERTICAL AND RIGHTyLIGHT VERTICAL AND LEFTxVERTI",
    "CAL LIGHT AND LEFT HEAVYd+UP HEAVY AND LEFT DOWN LIGHTc+DOWN HEAVY AND LEFT UP LIGHTc+VERTIC",
    "AL HEAVY AND LEFT LIGHTd+DOWN LIGHT AND LEFT UP HEAVYc+UP LIGHT AND LEFT DOWN HEAVYc+HEAVY V",
    "ERTICAL AND LEFTxLIGHT DOWN AND HORIZONTALyEFT HEAVY AND RIGHT DOWN LIGHTf+RIGHT HEAVY AND L",
    "EFT DOWN LIGHTf+DOWN LIGHT AND HORIZONTAL HEAVYa+HEAVY AND HORIZONTAL LIGHTf+RIGHT LIGHT AND",
    " LEFT DOWN HEAVYf+LEFT LIGHT AND RIGHT DOWN HEAVYf+HEAVY DOWN AND HORIZONTALzLIGHT UP AND HO",
    "RIZONTALwEFT HEAVY AND RIGHT UP LIGHTd+RIGHT HEAVY AND LEFT UP LIGHTd+UP LIGHT AND HORIZONTA",
    "L HEAVYa+HEAVY AND HORIZONTAL LIGHTd+RIGHT LIGHT AND LEFT UP HEAVYd+LEFT LIGHT AND RIGHT UP ",
    "HEAVYd+HEAVY UP AND HORIZONTALxLIGHT VERTICAL AND HORIZONTALc+EFT HEAVY AND RIGHT VERTICAL L",
    "IGHTj+RIGHT HEAVY AND LEFT VERTICAL LIGHTj+VERTICAL LIGHT AND HORIZONTAL HEAVYj+UP HEAVY AND",
    " DOWN HORIZONTAL LIGHTi+DOWN HEAVY AND UP HORIZONTAL LIGHTi+VERTICAL HEAVY AND HORIZONTAL LI",
    "GHTj+LEFT UP HEAVY AND RIGHT DOWN LIGHTi+RIGHT UP HEAVY AND LEFT DOWN LIGHTi+LEFT DOWN HEAVY",
    " AND RIGHT UP LIGHTi+RIGHT DOWN HEAVY AND LEFT UP LIGHTi+DOWN LIGHT AND UP HORIZONTAL HEAVYi",
    "+UP LIGHT AND DOWN HORIZONTAL HEAVYi+RIGHT LIGHT AND LEFT VERTICAL HEAVYj+LEFT LIGHT AND RIG",
    "HT VERTICAL HEAVYj+HEAVY VERTICAL AND HORIZONTALd+LIGHT DOUBLE DASH HORIZONTALc+HEAVY DOUBLE",
    " DASH HORIZONTALc+LIGHT DOUBLE DASH VERTICALa+HEAVY DOUBLE DASH VERTICALa+DOUBLE HORIZONTALk",
    "VERTICALnWN SINGLE AND RIGHT DOUBLExDOUBLE AND RIGHT SINGLEa+UBLE DOWN AND RIGHTtWN SINGLE A",
    "ND LEFT DOUBLEwDOUBLE AND LEFT SINGLEzUBLE DOWN AND LEFTuUP SINGLE AND RIGHT DOUBLExDOUBLE A",
    "ND RIGHT SINGLEa+DOUBLE UP AND RIGHTtUP SINGLE AND LEFT DOUBLEwDOUBLE AND LEFT SINGLEzDOUBLE",
    " UP AND LEFTsVERTICAL SINGLE AND RIGHT DOUBLExDOUBLE AND RIGHT SINGLEg+DOUBLE VERTICAL AND R",
    "IGHTzVERTICAL SINGLE AND LEFT DOUBLEwDOUBLE AND LEFT SINGLEf+DOUBLE VERTICAL AND LEFTwWN SIN",
    "GLE AND HORIZONTAL DOUBLEc+DOUBLE AND HORIZONTAL SINGLEf+UBLE DOWN AND HORIZONTALa+UP SINGLE",
    " AND HORIZONTAL DOUBLEc+DOUBLE AND HORIZONTAL SINGLEf+DOUBLE UP AND HORIZONTALyVERTICAL SING",
    "LE AND HORIZONTAL DOUBLEc+DOUBLE AND HORIZONTAL SINGLEl+DOUBLE VERTICAL AND HORIZONTALe+LIGH",
    "T ARC DOWN AND RIGHTfLEFTnUP AND LEFTeRIGHTqDIAGONAL UPPER RIGHT TO LOWER LEFTtLEFT TO LOWER",
    " RIGHTzCROSSoLEFTeUPcRIGHTfDOWNkHEAVY LEFTeUPcRIGHTfDOWNkLIGHT LEFT AND HEAVY RIGHTuUP AND H",
    "EAVY DOWNxHEAVY LEFT AND LIGHT RIGHTuUP AND LIGHT DOWNk+UPPER HALF BLOCKqLOWER ONE EIGHTH BL",
    "OCKmQUARTER BLOCKrTHREE EIGHTHS BLOCKtHALF BLOCKkFIVE EIGHTHS BLOCKsTHREE QUARTERS BLOCKuSEV",
    "EN EIGHTHS BLOCKzFULL BLOCKkLEFT SEVEN EIGHTHS BLOCKtTHREE QUARTERS BLOCKuFIVE EIGHTHS BLOCK",
    "sHALF BLOCKkTHREE EIGHTHS BLOCKtONE QUARTER BLOCKnEIGHTH BLOCKvRIGHT HALF BLOCKqLIGHT SHADEl",
    "MEDIUM SHADEmDARK SHADEkUPPER ONE EIGHTH BLOCKwRIGHT ONE EIGHTH BLOCKwQUADRANT LOWER LEFTeRI",
    "GHTlUPPER LEFTa AND LOWER LEFT AND LOWER RIGHTuRIGHTlUPPER RIGHT AND LOWER LEFTeRIGHTk+RIGHT",
    "a AND LOWER LEFTa AND LOWER RIGHTz+BLACK SQUAREmWHITE SQUAREa WITH ROUNDED CORNERSuCONTAININ",
    "G BLACK SMALL SQUAREq+SQUARE WITH HORIZONTAL FILLpVERTICAL FILLnORTHOGONAL CROSSHATCH FILLa+",
    "UPPER LEFT TO LOWER RIGHT FILLyRIGHT TO LOWER LEFT FILLe+DIAGONAL CROSSHATCH FILLk+BLACK SMA",
    "LL SQUAREsWHITE SMALL SQUAREsBLACK RECTANGLEpWHITE RECTANGLEpBLACK VERTICAL RECTANGLEyWHITE ",
    "VERTICAL RECTANGLEyBLACK PARALLELOGRAMtWHITE PARALLELOGRAMtBLACK UP-POINTING TRIANGLEa+WHITE",
    " UP-POINTING TRIANGLEa+BLACK UP-POINTING SMALL TRIANGLEg+WHITE UP-POINTING SMALL TRIANGLEg+B",
    "LACK RIGHT-POINTING TRIANGLEd+WHITE RIGHT-POINTING TRIANGLEd+BLACK RIGHT-POINTING SMALL TRIA",
    "NGLEj+WHITE RIGHT-POINTING SMALL TRIANGLEj+BLACK RIGHT-POINTING POINTERc+WHITE RIGHT-POINTIN",
    "G POINTERc+BLACK DOWN-POINTING TRIANGLEc+WHITE DOWN-POINTING TRIANGLEc+BLACK DOWN-POINTING S",
    "MALL TRIANGLEi+WHITE DOWN-POINTING SMALL TRIANGLEi+BLACK LEFT-POINTING TRIANGLEc+WHITE LEFT-",
    "POINTING TRIANGLEc+BLACK LEFT-POINTING SMALL TRIANGLEi+WHITE LEFT-POINTING SMALL TRIANGLEi+B",
    "LACK LEFT-POINTING POINTERb+WHITE LEFT-POINTING POINTERb+BLACK DIAMONDnWHITE DIAMONDa CONTAI",
    "NING BLACK SMALL DIAMONDs+FISHEYEhLOZENGEhWHITE CIRCLEmDOTTED CIRCLEnCIRCLE WITH VERTICAL FI",
    "LLzBULLSEYEhLACK CIRCLEmCIRCLE WITH LEFT HALF BLACKpRIGHT HALF BLACKqLOWER HALF BLACKqUPPER ",
    "HALF BLACKkRIGHT QUADRANT BLACKa+ALL BUT UPPER LEFT QUADRANT BLACKt+LEFT HALF BLACK CIRCLEwR",
    "IGHT HALF BLACK CIRCLExINVERSE BULLETgWHITE CIRCLEuUPPER HALF INVERSE WHITE CIRCLEf+LOWER HA",
    "LF INVERSE WHITE CIRCLEf+UPPER LEFT QUADRANT CIRCULAR ARCa+RIGHT QUADRANT CIRCULAR ARCh+LOWE",
    "R RIGHT QUADRANT CIRCULAR ARCb+LEFT QUADRANT CIRCULAR ARCg+UPPER HALF CIRCLErLOWER HALF CIRC",
    "LErBLACK LOWER RIGHT TRIANGLEoLEFT TRIANGLEtUPPER LEFT TRIANGLEnRIGHT TRIANGLEa+WHITE BULLET",
    "mSQUARE WITH LEFT HALF BLACKpRIGHT HALF BLACKqUPPER LEFT DIAGONAL HALF BLACKe+LOWER RIGHT DI",
    "AGONAL HALF BLACKr+WHITE SQUARE WITH VERTICAL BISECTING LINEj+UP-POINTING TRIANGLE WITH DOTj",
    "+UP-POINTING TRIANGLE WITH LEFT HALF BLACKpRIGHT HALF BLACKq+LARGE CIRCLEmWHITE SQUARE WITH ",
    "UPPER LEFT QUADRANTtLOWER LEFT QUADRANTnRIGHT QUADRANTuUPPER RIGHT QUADRANTg+CIRCLE WITH UPP",
    "ER LEFT QUADRANTtLOWER LEFT QUADRANTnRIGHT QUADRANTuUPPER RIGHT QUADRANTm+UPPER LEFT TRIANGL",
    "EnRIGHT TRIANGLEuLOWER LEFT TRIANGLEtWHITE MEDIUM SQUAREtBLACK MEDIUM SQUAREtWHITE MEDIUM SM",
    "ALL SQUAREzBLACK MEDIUM SMALL SQUAREzLOWER RIGHT TRIANGLEuBLACK SUN WITH RAYStCLOUDfUMBRELLA",
    "iSNOWMANhCOMETfBLACK STARkWHITE STARkLIGHTNINGjTHUNDERSTORMmSUNdASCENDING NODEoDESCENDING NO",
    "DEpCONJUNCTIONlOPPOSITIONkBLACK TELEPHONEpWHITE TELEPHONEpBALLOT BOXa WITH CHECKfXrSALTIREhU",
    "MBRELLA WITH RAIN DROPSyHOT BEVERAGEmWHITE SHOGI PIECErBLACK SHOGI PIECErSHAMROCKiREVERSED R",
    "OTATED FLORAL HEART BULLETk+BLACK LEFT POINTING INDEXtRIGHT POINTING INDEXa+WHITE LEFT POINT",
    "ING INDEXtUP POINTING INDEXrRIGHT POINTING INDEXuDOWN POINTING INDEXzSKULL AND CROSSBONESuCA",
    "UTION SIGNmRADIOACTIVE SIGNqBIOHAZARD SIGNoCADUCEUSiANKHeORTHODOX CROSSoCHI RHOgROSS OF LORR",
    "AINEiJERUSALEMsSTAR AND CRESCENTrFARSI SYMBOLmADI SHAKTIkHAMMER AND SICKLErPEACE SYMBOLmYIN ",
    "YANGiTRIGRAM FOR HEAVENgLAKEeFIREeTHUNDERhWINDdATERfMOUNTAINiEARTHrWHEEL OF DHARMAnITE FROWN",
    "ING FACEnSMILING FACEsBLACK SMILING FACEsWHITE SUN WITH RAYStFIRST QUARTER MOONsLAST QUARTER",
    " MOONrMERCURYhFEMALE SIGNlEARTHfMALE SIGNjJUPITERhSATURNgURANUSgNEPTUNEhPLUTOfARIESfTAURUSgG",
    "EMINIgCANCERgLEOdVIRGOfLIBRAfSCORPIUShAGITTARIUSlCAPRICORNjAQUARIUSiPISCESgWHITE CHESS KINGe",
    "QUEENfROOKeBISHOPgKNIGHTgPAWNqBLACK CHESS KINGeQUEENfROOKeBISHOPgKNIGHTgPAWNkSPADE SUITqWHIT",
    "E HEART SUITkDIAMOND SUITsBLACK CLUB SUITpWHITE SPADE SUITqBLACK HEART SUITkDIAMOND SUITsWHI",
    "TE CLUB SUITpHOT SPRINGSlQUARTER NOTEmEIGHTH NOTElBEAMED EIGHTH NOTESmSIXTEENTH NOTESwMUSIC ",
    "FLAT SIGNjNATURAL SIGNmSHARP SIGNqWEST SYRIAC CROSSrEAST SYRIAC CROSSrUNIVERSAL RECYCLING SY",
    "MBOLa+RECYCLING SYMBOL FOR TYPE-1 PLASTICSk2 PLASTICSk3 PLASTICSk4 PLASTICSk5 PLASTICSk6 PLA",
    "STICSk7 PLASTICSpGENERIC MATERIALSm+BLACK UNIVERSAL RECYCLING SYMBOLg+RECYCLED PAPER SYMBOLv",
    "PARTIALLY-RECYCLED PAPER SYMBOLe+ERMANENT PAPER SIGNuWHEELCHAIR SYMBOLrDIE FACE-1b2b3b4b5b6k",
    "WHITE CIRCLE WITH DOT RIGHTjTWO DOTSa+BLACK CIRCLE WITH WHITE DOT RIGHTpTWO WHITE DOTSg+MONO",
    "GRAM FOR YANGdINqDIGRAM FOR GREATER YANGmLESSER YINcANGlGREATER YINwWHITE FLAGkBLACK FLAGkHA",
    "MMER AND PICKpANCHORgCROSSED SWORDSoSTAFF OF AESCULAPIUStCALESgALEMBIChFLOWERgGEAReSTAFF OF ",
    "HERMESpATOM SYMBOLlFLEUR-DE-LISmOUTLINED WHITE STARtTHREE LINES CONVERGING RIGHTfLEFTb+WARNI",
    "NG SIGNmHIGH VOLTAGE SIGNrDOUBLED FEMALE SIGNlMALE SIGNrINTERLOCKED FEMALE AND MALE SIGNg+MA",
    "LE AND FEMALE SIGNpWITH STROKE SIGNeAND MALE AND FEMALE SIGNp+VERTICAL MALE WITH STROKE SIGN",
    "e+HORIZONTAL MALE WITH STROKE SIGNg+MEDIUM WHITE CIRCLEmBLACK CIRCLEmSMALL WHITE CIRCLEyARRI",
    "AGE SYMBOLpDIVORCE SYMBOLoUNMARRIED PARTNERSHIP SYMBOLc+COFFINgFUNERAL URNlNEUTERgCERESfPALL",
    "ASgJUNOeVESTAfCHIRONgBLACK MOON LILITHrSEXTILEfMISEXTILElQUINCUNXiSESQUIQUADRATEnOCCER BALLl",
    "BASEBALLiSQUARED KEYlWHITE DRAUGHTS MANdKINGtBLACK DRAUGHTS MANdKINGtSNOWMAN WITHOUT SNOWtUN",
    " BEHIND CLOUDqRAINeBLACK SNOWMANnTHUNDER CLOUD AND RAINvURNED WHITE SHOGI PIECErBLACK SHOGI ",
    "PIECEyWHITE DIAMOND IN SQUARExCROSSING LANESoDISABLED CARmOPHIUCHUSjPICKeCAR SLIDINGlHELMET ",
    "WITH WHITE CROSSxCIRCLED CROSSING LANESvHAINSgNO ENTRYiALTERNATE ONE-WAY LEFT WAY TRAFFICi+B",
    "LACK TWO-WAY LEFT WAY TRAFFICe+WHITE TWO-WAY LEFT WAY TRAFFICe+BLACK LEFT LANE MERGEvWHITE L",
    "EFT LANE MERGEvDRIVE SLOW SIGNpHEAVY WHITE DOWN-POINTING TRIANGLEi+LEFT CLOSED ENTRYrSQUARED",
    " SALTIREpFALLING DIAGONAL IN WHITE CIRCLE IN BLACK SQUAREw+BLACK TRUCKlRESTRICTED LEFT ENTRY",
    "-1b2xASTRONOMICAL SYMBOL FOR URANUSe+HEAVY CIRCLE WITH STROKE AND TWO DOTS ABOVEr+PENTAGRAMj",
    "RIGHT-HANDED INTERLACED PENTAGRAMh+LEFT-HANDED INTERLACED PENTAGRAMg+INVERTED PENTAGRAMsBLAC",
    "K CROSS ON SHIELDvSHINTO SHRINEnCHURCHfASTLEgHISTORIC SITEnGEAR WITHOUT HUBh HANDLESrMAP SYM",
    "BOL FOR LIGHTHOUSEyOUNTAINiUMBRELLA ON GROUNDsFOUNTAINhLAG IN HOLElERRYfSAILBOAThQUARE FOUR ",
    "CORNERSsKIERfICE SKATEjPERSON WITH BALLqTENTeJAPANESE BANK SYMBOLuHEADSTONE GRAVEYARD SYMBOL",
    "a+FUEL PUMPjCUP ON BLACK SQUAREtWHITE FLAG WITH HORIZONTAL MIDDLE BLACK STRIPEu+BLACK SAFETY",
    " SCISSORSvUPPER BLADE SCISSORSuBLACK SCISSORSoLOWER BLADE SCISSORSuWHITE SCISSORSiHEAVY CHEC",
    "K MARKwTELEPHONE LOCATION SIGNwAPE DRIVEkAIRPLANEiENVELOPEiRAISED FISTeHANDlVICTORY HANDmWRI",
    "TING HANDmLOWER RIGHT PENCILsPENCILgUPPER RIGHT PENCILsWHITE NIBjBLACK NIBjCHECK MARKkHEAVY ",
    "CHECK MARKqMULTIPLICATION XqHEAVY MULTIPLICATION XwBALLOT XiHEAVY BALLOT XoOUTLINED GREEK CR",
    "OSSuHEAVY GREEK CROSSrOPEN CENTRE CROSSrHEAVY OPEN CENTRE CROSSxLATIN CROSSlSHADOWED WHITE L",
    "ATIN CROSSa+OUTLINED LATIN CROSSuMALTESE CROSSnSTAR OF DAVIDnFOUR TEARDROP-SPOKED ASTERISKyB",
    "ALLOON-SPOKED ASTERISKc+HEAVY FOUR BALLOON-SPOKED ASTERISKi+FOUR CLUB-SPOKED ASTERISKzBLACK ",
    "FOUR POINTED STARxWHITE FOUR POINTED STARxSPARKLEShTRESS OUTLINED WHITE STARa+CIRCLED WHITE ",
    "STARsOPEN CENTRE BLACK STARwBLACK CENTRE WHITE STARxOUTLINED BLACK STARtHEAVY OUTLINED BLACK",
    " STARzPINWHEEL STARnSHADOWED WHITE STARtHEAVY ASTERISKoOPEN CENTRE ASTERISKuEIGHT SPOKED AST",
    "ERISKpPOINTED BLACK STARkPINWHEEL STARb+SIX POINTED BLACK STARwEIGHT POINTED RECTILINEAR BLA",
    "CK STARk+HEAVY EIGHT POINTED RECTILINEAR BLACK STARq+TWELVE POINTED BLACK STARzSIXTEEN POINT",
    "ED ASTERISKyTEARDROP-SPOKED ASTERISKyOPEN CENTRE TEARDROP-SPOKED ASTERISKk+HEAVY TEARDROP-SP",
    "OKED ASTERISKe+SIX PETALLED BLACK AND WHITE FLORETTEl+BLACK FLORETTEoWHITE FLORETTEoEIGHT PE",
    "TALLED OUTLINED BLACK FLORETTEm+CIRCLED OPEN CENTRE EIGHT POINTED STARm+HEAVY TEARDROP-SPOKE",
    "D PINWHEEL ASTERISKn+SNOWFLAKEjTIGHT TRIFOLIATE SNOWFLAKEa+HEAVY CHEVRON SNOWFLAKExSPARKLEhH",
    "EAVY SPARKLEnBALLOON-SPOKED ASTERISKxEIGHT TEARDROP-SPOKED PROPELLER ASTERISKo+HEAVY EIGHT T",
    "EARDROP-SPOKED PROPELLER ASTERISKu+CROSS MARKkSHADOWED WHITE CIRCLEvNEGATIVE SQUARED CROSS M",
    "ARKb+LOWER RIGHT DROP-SHADOWED WHITE SQUAREm+UPPER RIGHT DROP-SHADOWED WHITE SQUAREm+LOWER R",
    "IGHT SHADOWED WHITE SQUAREh+UPPER RIGHT SHADOWED WHITE SQUAREh+BLACK QUESTION MARK ORNAMENTc",
    "+WHITE QUESTION MARK ORNAMENTwEXCLAMATION MARK ORNAMENTf+BLACK DIAMOND MINUS WHITE Xb+HEAVY ",
    "EXCLAMATION MARK SYMBOLd+LIGHT VERTICAL BARsMEDIUM VERTICAL BARtHEAVY VERTICAL BARmSINGLE TU",
    "RNED COMMA QUOTATION MARK ORNAMENTk+COMMA QUOTATION MARK ORNAMENTk+DOUBLE TURNED COMMA QUOTA",
    "TION MARK ORNAMENTk+COMMA QUOTATION MARK ORNAMENTk+LOW SINGLE COMMA QUOTATION MARK ORNAMENTk",
    "+DOUBLE COMMA QUOTATION MARK ORNAMENTu+CURVED STEM PARAGRAPH SIGN ORNAMENTj+HEAVY EXCLAMATIO",
    "N MARK ORNAMENTzHEART EXCLAMATION MARK ORNAMENTf+BLACK HEARTrROTATED HEAVY BLACK HEART BULLE",
    "Tg+FLORAL HEARTmROTATED FLORAL HEART BULLETb+MEDIUM LEFT PARENTHESIS ORNAMENTzRIGHT PARENTHE",
    "SIS ORNAMENTa+FLATTENED LEFT PARENTHESIS ORNAMENTzRIGHT PARENTHESIS ORNAMENTk+LEFT-POINTING ",
    "ANGLE BRACKET ORNAMENTk+RIGHT-POINTING ANGLE BRACKET ORNAMENTs+HEAVY LEFT-POINTING ANGLE QUO",
    "TATION MARK ORNAMENTr+RIGHT-POINTING ANGLE QUOTATION MARK ORNAMENTs+LEFT-POINTING ANGLE BRAC",
    "KET ORNAMENTk+RIGHT-POINTING ANGLE BRACKET ORNAMENTr+LIGHT LEFT TORTOISE SHELL BRACKET ORNAM",
    "ENTk+RIGHT TORTOISE SHELL BRACKET ORNAMENTr+MEDIUM LEFT CURLY BRACKET ORNAMENTb+RIGHT CURLY ",
    "BRACKET ORNAMENTj+DINGBAT NEGATIVE CIRCLED DIGIT ONEdTWOcHREEfFOURdIVEeSIXcEVENfEIGHTfNINEkN",
    "UMBER TENb+CIRCLED SANS-SERIF DIGIT ONEdTWOcHREEfFOURdIVEeSIXcEVENfEIGHTfNINEkNUMBER TENd+NE",
    "GATIVE CIRCLED SANS-SERIF DIGIT ONEdTWOcHREEfFOURdIVEeSIXcEVENfEIGHTfNINEkNUMBER TENu+HEAVY ",
    "WIDE-HEADED RIGHTWARDS ARROWc+PLUS SIGNjMINUS SIGNkDIVISION SIGNnSOUTH EAST ARROWqRIGHTWARDS",
    " ARROWqNORTH EAST ARROWwDRAFTING POINT RIGHTWARDS ARROWf+HEAVY ROUND-TIPPED RIGHTWARDS ARROW",
    "j+TRIANGLE-HEADED RIGHTWARDS ARROWg+HEAVY TRIANGLE-HEADED RIGHTWARDS ARROWm+DASHED TRIANGLE-",
    "HEADED RIGHTWARDS ARROWn+HEAVY DASHED TRIANGLE-HEADED RIGHTWARDS ARROWt+BLACK RIGHTWARDS ARR",
    "OWwTHREE-D TOP-LIGHTED RIGHTWARDS ARROWHEADg+BOTTOM-LIGHTED RIGHTWARDS ARROWHEADr+BLACK RIGH",
    "TWARDS ARROWHEADa+HEAVY BLACK CURVED DOWNWARDS AND RIGHTWARDS ARROWe+UPWARDS AND RIGHTWARDS ",
    "ARROWv+SQUAT BLACK RIGHTWARDS ARROWc+HEAVY CONCAVE-POINTED BLACK RIGHTWARDS ARROWs+RIGHT-SHA",
    "DED WHITE RIGHTWARDS ARROWj+LEFT-SHADED WHITE RIGHTWARDS ARROWi+BACK-TILTED SHADOWED WHITE R",
    "IGHTWARDS ARROWr+FRONT-TILTED SHADOWED WHITE RIGHTWARDS ARROWs+HEAVY LOWER RIGHT-SHADOWED WH",
    "ITE RIGHTWARDS ARROWr+UPPER RIGHT-SHADOWED WHITE RIGHTWARDS ARROWx+NOTCHED LOWER RIGHT-SHADO",
    "WED WHITE RIGHTWARDS ARROWz+CURLY LOOPkNOTCHED UPPER RIGHT-SHADOWED WHITE RIGHTWARDS ARROWz+",
    "CIRCLED HEAVY WHITE RIGHTWARDS ARROWk+WHITE-FEATHERED RIGHTWARDS ARROWg+BLACK-FEATHERED SOUT",
    "H EAST ARROWqRIGHTWARDS ARROWqNORTH EAST ARROWg+HEAVY BLACK-FEATHERED SOUTH EAST ARROWqRIGHT",
    "WARDS ARROWqNORTH EAST ARROWm+TEARDROP-BARBED RIGHTWARDS ARROWg+HEAVY TEARDROP-SHANKED RIGHT",
    "WARDS ARROWn+WEDGE-TAILED RIGHTWARDS ARROWd+HEAVY WEDGE-TAILED RIGHTWARDS ARROWj+OPEN-OUTLIN",
    "ED RIGHTWARDS ARROWe+DOUBLE CURLY LOOPrTHREE DIMENSIONAL ANGLExWHITE TRIANGLE CONTAINING SMA",
    "LL WHITE TRIANGLEu+PERPENDICULARnOPEN SUBSETePERSETnLEFT S-SHAPED BAG DELIMITERb+RIGHT S-SHA",
    "PED BAG DELIMITERc+OR WITH DOT INSIDEsREVERSE SOLIDUS PRECEDING SUBSETg+SUPERSET PRECEDING S",
    "OLIDUSa+VERTICAL BAR WITH HORIZONTAL STROKEj+MATHEMATICAL RISING DIAGONALc+LONG DIVISIONnMAT",
    "HEMATICAL FALLING DIAGONALd+SQUARED LOGICAL ANDdORsWHITE DIAMOND WITH CENTRED DOTe+AND WITH ",
    "DOTmELEMENT OF OPENING UPWARDSa+LOWER RIGHT CORNER WITH DOTb+UPPER LEFT CORNER WITH DOTa+LEF",
    "T OUTER JOINpRIGHT OUTER JOINqFULL OUTER JOINpLARGE UP TACKhDOWN TACKoEFT AND RIGHT DOUBLE T",
    "URNSTILEqTACKoMULTIMAPmONG RIGHT TACKkLEFT TACKoUP TACK WITH CIRCLE ABOVEzLOZENGE DIVIDED BY",
    " HORIZONTAL RULEi+WHITE CONCAVE-SIDED DIAMONDa WITH LEFTWARDS TICKoRIGHTWARDS TICKq+SQUARE W",
    "ITH LEFTWARDS TICKoRIGHTWARDS TICKh+MATHEMATICAL LEFT WHITE SQUARE BRACKETzRIGHT WHITE SQUAR",
    "E BRACKETa+LEFT ANGLE BRACKETsRIGHT ANGLE BRACKETtLEFT DOUBLE ANGLE BRACKETzRIGHT DOUBLE ANG",
    "LE BRACKETa+LEFT WHITE TORTOISE SHELL BRACKETh+RIGHT WHITE TORTOISE SHELL BRACKETi+LEFT FLAT",
    "TENED PARENTHESISa+RIGHT FLATTENED PARENTHESISo+UPWARDS QUADRUPLE ARROWxDOWNWARDS QUADRUPLE ",
    "ARROWzANTICLOCKWISE GAPPED CIRCLE ARROWh+CLOCKWISE GAPPED CIRCLE ARROWd+RIGHT ARROW WITH CIR",
    "CLED PLUSd+LONG LEFTWARDS ARROWpRIGHTWARDS ARROWqLEFT RIGHT ARROWmWARDS DOUBLE ARROWwRIGHTWA",
    "RDS DOUBLE ARROWxLEFT RIGHT DOUBLE ARROWtWARDS ARROW FROM BARyRIGHTWARDS ARROW FROM BARzLEFT",
    "WARDS DOUBLE ARROW FROM BARf+RIGHTWARDS DOUBLE ARROW FROM BARvSQUIGGLE ARROWe+BRAILLE PATTER",
    "N BLANKfDOTS-1b2b12c3b13c23c123d4b14c24c124d34c134d234d1234e5b15c25c125d35c135d235d1235e45c1",
    "45d245d1245e345d1345e2345e12345f6b16c26c126d36c136d236d1236e46c146d246d1246e346d1346e2346e12",
    "346f56c156d256d1256e356d1356e2356e12356f456d1456e2456e12456f3456e13456f23456f123456g7b17c27c",
    "127d37c137d237d1237e47c147d247d1247e347d1347e2347e12347f57c157d257d1257e357d1357e2357e12357f",
    "457d1457e2457e12457f3457e13457f23457f123457g67c167d267d1267e367d1367e2367e12367f467d1467e246",
    "7e12467f3467e13467f23467f123467g567d1567e2567e12567f3567e13567f23567f123567g4567e14567f24567",
    "f124567g34567f134567g234567g1234567h8b18c28c128d38c138d238d1238e48c148d248d1248e348d1348e234",
    "8e12348f58c158d258d1258e358d1358e2358e12358f458d1458e2458e12458f3458e13458f23458f123458g68c1",
    "68d268d1268e368d1368e2368e12368f468d1468e2468e12468f3468e13468f23468f123468g568d1568e2568e12",
    "568f3568e13568f23568f123568g4568e14568f24568f124568g34568f134568g234568g1234568h78c178d278d1",
    "278e378d1378e2378e12378f478d1478e2478e12478f3478e13478f23478f123478g578d1578e2578e12578f3578",
    "e13578f23578f123578g4578e14578f24578f124578g34578f134578g234578g1234578h678d1678e2678e12678f",
    "3678e13678f23678f123678g4678e14678f24678f124678g34678f134678g234678g1234678h5678e15678f25678",
    "f125678g35678f135678g235678g1235678h45678f145678g245678g1245678h345678g1345678h2345678h12345",
    "678d+RIGHTWARDS TWO-HEADED ARROW WITH VERTICAL STROKEpDOUBLE VERTICAL STROKEd++LEFTWARDS DOU",
    "BLE ARROW WITH VERTICAL STROKEr+RIGHTWARDS DOUBLE ARROW WITH VERTICAL STROKEs+LEFT RIGHT DOU",
    "BLE ARROW WITH VERTICAL STROKEs+RIGHTWARDS TWO-HEADED ARROW FROM BARk+LEFTWARDS DOUBLE ARROW",
    " FROM BARf+RIGHTWARDS DOUBLE ARROW FROM BARg+DOWNWARDS ARROW WITH HORIZONTAL STROKEm+UPWARDS",
    " ARROW WITH HORIZONTAL STROKEc+TRIPLE ARROWuDOWNWARDS TRIPLE ARROWwLEFTWARDS DOUBLE DASH ARR",
    "OWb+RIGHTWARDS DOUBLE DASH ARROWc+LEFTWARDS TRIPLE DASH ARROWb+RIGHTWARDS TRIPLE DASH ARROWq",
    "WO-HEADED TRIPLE DASH ARROWc+ARROW WITH DOTTED STEMh+UPWARDS ARROW TO BARuDOWNWARDS ARROW TO",
    " BARwRIGHTWARDS ARROW WITH TAIL WITH VERTICAL STROKEpDOUBLE VERTICAL STROKEr+TWO-HEADED ARRO",
    "W WITH TAILa WITH VERTICAL STROKEpDOUBLE VERTICAL STROKEn++LEFTWARDS ARROW-TAILuRIGHTWARDS A",
    "RROW-TAILvLEFTWARDS DOUBLE ARROW-TAILb+RIGHTWARDS DOUBLE ARROW-TAILc+LEFTWARDS ARROW TO BLAC",
    "K DIAMONDg+RIGHTWARDS ARROW TO BLACK DIAMONDh+LEFTWARDS ARROW FROM BAR TO BLACK DIAMONDp+RIG",
    "HTWARDS ARROW FROM BAR TO BLACK DIAMONDq+NORTH WEST AND SOUTH EAST ARROWzEAST AND SOUTH WEST",
    " ARROWzWEST ARROW WITH HOOKuEAST ARROW WITH HOOKa+SOUTH EAST ARROW WITH HOOKuWEST ARROW WITH",
    " HOOKa+NORTH WEST ARROW AND NORTH EAST ARROWf+EAST ARROW AND SOUTH EAST ARROWl+SOUTH EAST AR",
    "ROW AND SOUTH WEST ARROWf+WEST ARROW AND NORTH WEST ARROWl+RISING DIAGONAL CROSSING FALLING ",
    "DIAGONALp+FALLING DIAGONAL CROSSING RISING DIAGONALp+SOUTH EAST ARROW CROSSING NORTH EAST AR",
    "ROWq+NORTH EAST ARROW CROSSING SOUTH EAST ARROWq+FALLING DIAGONAL CROSSING NORTH EAST ARROWq",
    "+RISING DIAGONAL CROSSING SOUTH EAST ARROWp+NORTH EAST ARROW CROSSING NORTH WEST ARROWk+WEST",
    " ARROW CROSSING NORTH EAST ARROWq+WAVE ARROW POINTING DIRECTLY RIGHTi+ARROW POINTING RIGHTWA",
    "RDS THEN CURVING UPWARDShDOWNWARDSh+DOWNWARDS THEN CURVING LEFTWARDSjRIGHTWARDSw+RIGHT-SIDE ",
    "ARC CLOCKWISE ARROWe+LEFT-SIDE ARC ANTICLOCKWISE ARROWh+TOP ARC ANTICLOCKWISE ARROWb+BOTTOM ",
    "ARC ANTICLOCKWISE ARROWe+TOP ARC CLOCKWISE ARROW WITH MINUSa+ANTICLOCKWISE ARROW WITH PLUSl+",
    "LOWER RIGHT SEMICIRCULAR CLOCKWISE ARROWi+LEFT SEMICIRCULAR ANTICLOCKWISE ARROWr+ANTICLOCKWI",
    "SE CLOSED CIRCLE ARROWh+CLOCKWISE CLOSED CIRCLE ARROWd+RIGHTWARDS ARROW ABOVE SHORT LEFTWARD",
    "S ARROWs+LEFTWARDS ARROW ABOVE SHORT RIGHTWARDS ARROWs+SHORT RIGHTWARDS ARROW ABOVE LEFTWARD",
    "S ARROWs+RIGHTWARDS ARROW WITH PLUS BELOWg+LEFTWARDS ARROW WITH PLUS BELOWf+RIGHTWARDS ARROW",
    " THROUGH Xa+LEFT RIGHT ARROW THROUGH SMALL CIRCLEl+UPWARDS TWO-HEADED ARROW FROM SMALL CIRCL",
    "Eq+LEFT BARB UP RIGHT BARB DOWN HARPOONa+DOWN RIGHT BARB UP HARPOONk+UP BARB RIGHT DOWN BARB",
    " LEFT HARPOONc+LEFT DOWN BARB RIGHT HARPOONk+LEFT BARB UP RIGHT BARB UP HARPOONi+UP BARB RIG",
    "HT DOWN BARB RIGHT HARPOONl+LEFT BARB DOWN RIGHT BARB DOWN HARPOONm+UP BARB LEFT DOWN BARB L",
    "EFT HARPOONj+LEFTWARDS HARPOON WITH BARB UP TO BARl+RIGHTWARDS HARPOON WITH BARB UP TO BARm+",
    "UPWARDS HARPOON WITH BARB RIGHT TO BARm+DOWNWARDS HARPOON WITH BARB RIGHT TO BARo+LEFTWARDS ",
    "HARPOON WITH BARB DOWN TO BARn+RIGHTWARDS HARPOON WITH BARB DOWN TO BARo+UPWARDS HARPOON WIT",
    "H BARB LEFT TO BARl+DOWNWARDS HARPOON WITH BARB LEFT TO BARn+LEFTWARDS HARPOON WITH BARB UP ",
    "FROM BARn+RIGHTWARDS HARPOON WITH BARB UP FROM BARo+UPWARDS HARPOON WITH BARB RIGHT FROM BAR",
    "o+DOWNWARDS HARPOON WITH BARB RIGHT FROM BARq+LEFTWARDS HARPOON WITH BARB DOWN FROM BARp+RIG",
    "HTWARDS HARPOON WITH BARB DOWN FROM BARq+UPWARDS HARPOON WITH BARB LEFT FROM BARn+DOWNWARDS ",
    "HARPOON WITH BARB LEFT FROM BARp+LEFTWARDS HARPOON WITH BARB UP ABOVE LEFTWARDS HARPOON WITH",
    " BARB DOWNr++UPWARDS HARPOON WITH BARB LEFT BESIDE UPWARDS HARPOON WITH BARB RIGHTr++RIGHTWA",
    "RDS HARPOON WITH BARB UP ABOVE RIGHTWARDS HARPOON WITH BARB DOWNt++DOWNWARDS HARPOON WITH BA",
    "RB LEFT BESIDE DOWNWARDS HARPOON WITH BARB RIGHTv++LEFTWARDS HARPOON WITH BARB UP ABOVE RIGH",
    "TWARDS HARPOON WITH BARB UPo+DOWN ABOVE RIGHTWARDS HARPOON WITH BARB DOWNu++RIGHTWARDS HARPO",
    "ON WITH BARB UP ABOVE LEFTWARDS HARPOON WITH BARB UPn+DOWN ABOVE LEFTWARDS HARPOON WITH BARB",
    " DOWNu++LEFTWARDS HARPOON WITH BARB UP ABOVE LONG DASHsDOWN BELOW LONG DASHw+RIGHTWARDS HARP",
    "OON WITH BARB UP ABOVE LONG DASHsDOWN BELOW LONG DASHx+UPWARDS HARPOON WITH BARB LEFT BESIDE",
    " DOWNWARDS HARPOON WITH BARB RIGHTt++DOWNWARDS HARPOON WITH BARB LEFT BESIDE UPWARDS HARPOON",
    " WITH BARB RIGHTt++RIGHT DOUBLE ARROW WITH ROUNDED HEADk+EQUALS SIGN ABOVE RIGHTWARDS ARROWi",
    "+TILDE OPERATOR ABOVE RIGHTWARDS ARROWl+LEFTWARDS ARROW ABOVE TILDE OPERATORk+RIGHTWARDS ARR",
    "OW ABOVE TILDE OPERATORoALMOST EQUAL TOm+LESS-THAN ABOVE LEFTWARDS ARROWd+FTWARDS ARROW THRO",
    "UGH LESS-THANh+GREATER-THAN ABOVE RIGHTWARDS ARROWj+SUBSET ABOVE RIGHTWARDS ARROWd+LEFTWARDS",
    " ARROW THROUGH SUBSETe+SUPERSET ABOVE LEFTWARDS ARROWe+LEFT FISH TAILoRIGHT FISH TAILpUP FIS",
    "H TAILmDOWN FISH TAILoTRIPLE VERTICAL BAR DELIMITERd+Z NOTATION SPOTeTYPE COLONvLEFT WHITE C",
    "URLY BRACKETyRIGHT WHITE CURLY BRACKETzLEFT WHITE PARENTHESISwRIGHT WHITE PARENTHESISxZ NOTA",
    "TION LEFT IMAGE BRACKETsRIGHT IMAGE BRACKETtLEFT BINDING BRACKETuRIGHT BINDING BRACKETg+LEFT",
    " SQUARE BRACKET WITH UNDERBARh+RIGHT SQUARE BRACKET WITH UNDERBARi+LEFT SQUARE BRACKET WITH ",
    "TICK IN TOP CORNERr+RIGHT SQUARE BRACKET WITH TICK IN BOTTOM CORNERv+LEFT SQUARE BRACKET WIT",
    "H TICK IN BOTTOM CORNERu+RIGHT SQUARE BRACKET WITH TICK IN TOP CORNERs+LEFT ANGLE BRACKET WI",
    "TH DOTb+RIGHT ANGLE BRACKET WITH DOTc+LEFT ARC LESS-THAN BRACKETa+RIGHT ARC GREATER-THAN BRA",
    "CKETe+DOUBLE LEFT ARC GREATER-THAN BRACKETd+RIGHT ARC LESS-THAN BRACKETi+LEFT BLACK TORTOISE",
    " SHELL BRACKETh+RIGHT BLACK TORTOISE SHELL BRACKETi+DOTTED FENCEmVERTICAL ZIGZAG LINEuMEASUR",
    "ED ANGLE OPENING LEFTb+RIGHT ANGLE VARIANT WITH SQUAREf+MEASURED RIGHT ANGLE WITH DOTd+ANGLE",
    " WITH S INSIDEsCUTE ANGLElSPHERICAL ANGLE OPENING LEFTeUPa+TURNED ANGLEmREVERSED ANGLEoANGLE",
    " WITH UNDERBARtREVERSED ANGLE WITH UNDERBARc+OBLIQUE ANGLE OPENING UPcDOWNa+MEASURED ANGLE W",
    "ITH OPEN ARM ENDING IN ARROW POINTING UP AND RIGHTfLEFTlDOWN AND RIGHTfLEFTnRIGHT AND UPmLEF",
    "T AND UPlRIGHT AND DOWNoLEFT AND DOWNp++REVERSED EMPTY SETsEMPTY SET WITH OVERBARhSMALL CIRC",
    "LE ABOVEsRIGHT ARROW ABOVErLEFT ARROW ABOVEf+CIRCLE WITH HORIZONTAL BARuD VERTICAL BARmPARAL",
    "LELiREVERSE SOLIDUSpPERPENDICULARp DIVIDED BY HORIZONTAL BAR AND TOP HALF DIVIDED BY VERTICA",
    "L BARk++WITH SUPERIMPOSED XuD ANTICLOCKWISE-ROTATED DIVISION SIGNr+UP ARROW THROUGH CIRCLExC",
    "IRCLED WHITE BULLETmBULLETgLESS-THANjGREATER-THANo WITH SMALL CIRCLE TO THE RIGHTzTWO HORIZO",
    "NTAL STROKES TO THE RIGHTv+SQUARED RISING DIAGONAL SLASHvFALLING DIAGONAL SLASHwASTERISKiSMA",
    "LL CIRCLElQUAREoTWO JOINED SQUARESrRIANGLE WITH DOT ABOVEjUNDERBARwS IN TRIANGLEnTRIANGLE WI",
    "TH SERIFS AT BOTTOMe+RIGHT TRIANGLE ABOVE LEFT TRIANGLEi+LEFT TRIANGLE BESIDE VERTICAL BARh+",
    "VERTICAL BAR BESIDE RIGHT TRIANGLEi+BOWTIE WITH LEFT HALF BLACKpRIGHT HALF BLACKb+LACK BOWTI",
    "EmTIMES WITH LEFT HALF BLACKpRIGHT HALF BLACKb+WHITE HOURGLASSpBLACK HOURGLASSpLEFT WIGGLY F",
    "ENCErRIGHT WIGGLY FENCEsLEFT DOUBLE WIGGLY FENCEyRIGHT DOUBLE WIGGLY FENCEzINCOMPLETE INFINI",
    "TYtTIE OVER INFINITYrINFINITY NEGATED WITH VERTICAL BARi+DOUBLE-ENDED MULTIMAPvSQUARE WITH C",
    "ONTOURED OUTLINEd+INCREASES ASmSHUFFLE PRODUCTpEQUALS SIGN AND SLANTED PARALLELa WITH TILDE ",
    "ABOVEx+IDENTICAL TO AND SLANTED PARALLELh+GLEICH STARKmTHERMODYNAMICnDOWN-POINTING TRIANGLE ",
    "WITH LEFT HALF BLACKpRIGHT HALF BLACKs+BLACK DIAMOND WITH DOWN ARROWxLOZENGEnWHITE CIRCLE WI",
    "TH DOWN ARROWc+BLACK CIRCLE WITH DOWN ARROWc+ERROR-BARRED WHITE SQUAREmBLACK SQUAREmWHITE DI",
    "AMONDnBLACK DIAMONDnWHITE CIRCLEmBLACK CIRCLEzRULE-DELAYEDlEVERSE SOLIDUS OPERATORySOLIDUS W",
    "ITH OVERBARuREVERSE SOLIDUS WITH HORIZONTAL STROKEm+BIG SOLIDUShREVERSE SOLIDUStDOUBLE PLUSl",
    "TRIPLE PLUSlLEFT-POINTING CURVED ANGLE BRACKETi+RIGHT-POINTING CURVED ANGLE BRACKETj+TINYeMI",
    "NYeN-ARY CIRCLED DOT OPERATORmPLUS OPERATORnTIMES OPERATORwUNION OPERATOR WITH DOTdPLUSySQUA",
    "RE INTERSECTION OPERATORvUNION OPERATORb+TWO LOGICAL AND OPERATORmOR OPERATORxN-ARY TIMES OP",
    "ERATORuMODULO TWO SUMoSUMMATION WITH INTEGRALxQUADRUPLE INTEGRAL OPERATORb+FINITE PART INTEG",
    "RALuINTEGRAL WITH DOUBLE STROKEsAVERAGE WITH SLASHb+CIRCULATION FUNCTIONuANTICLOCKWISE INTEG",
    "RATIONzLINE INTEGRATION WITH RECTANGULAR PATH AROUND POLEc+SEMICIRCULAR PATH AROUND POLEi+NO",
    "T INCLUDING THE POLEn+INTEGRAL AROUND A POINT OPERATORg+QUATERNION INTEGRAL OPERATORc+INTEGR",
    "AL WITH LEFTWARDS ARROW WITH HOOKzTIMES SIGNkINTERSECTIONmUNIONfOVERBARhUNDERBARwJOINeLARGE ",
    "LEFT TRIANGLE OPERATORc+Z NOTATION SCHEMA COMPOSITIONlPIPINGfROJECTIONc+PLUS SIGN WITH SMALL",
    " CIRCLE ABOVEsCIRCUMFLEX ACCENT ABOVExTILDE ABOVElDOT BELOWjTILDE BELOWlSUBSCRIPT TWOnBLACK ",
    "TRIANGLEd+MINUS SIGN WITH COMMA ABOVElDOT BELOWjFALLING DOTSmRISING DOTSb+PLUS SIGN IN LEFT ",
    "HALF CIRCLEqRIGHT HALF CIRCLEe+VECTOR OR CROSS PRODUCTxMULTIPLICATION SIGN WITH DOT ABOVEjUN",
    "DERBARh+SEMIDIRECT PRODUCT WITH BOTTOM CLOSEDk+MASH PRODUCTnMULTIPLICATION SIGN IN LEFT HALF",
    " CIRCLEqRIGHT HALF CIRCLEo+CIRCLED MULTIPLICATION SIGN WITH CIRCUMFLEX ACCENTy+MULTIPLICATIO",
    "N SIGN IN DOUBLE CIRCLEk+CIRCLED DIVISION SIGNvPLUS SIGN IN TRIANGLEvMINUS SIGN IN TRIANGLEv",
    "ULTIPLICATION SIGN IN TRIANGLEf+INTERIOR PRODUCTqRIGHTHAND INTERIOR PRODUCTa+Z NOTATION RELA",
    "TIONAL COMPOSITIONh+AMALGAMATION OR COPRODUCTzINTERSECTION WITH DOTvUNION WITH MINUS SIGNkOV",
    "ERBARsINTERSECTION WITH OVERBARhLOGICAL ANDd+UNION WITH LOGICAL ORpABOVE INTERSECTIONyINTERS",
    "ECTION ABOVE UNIONyUNION ABOVE BAR ABOVE INTERSECTIONi+INTERSECTION ABOVE BAR ABOVE UNIONi+U",
    "NION BESIDE AND JOINED WITH UNIONi+INTERSECTION BESIDE AND JOINED WITH INTERSECTIONw+CLOSED ",
    "UNION WITH SERIFSrINTERSECTION WITH SERIFSf+DOUBLE SQUARE INTERSECTIONmUNIONtCLOSED UNION WI",
    "TH SERIFS AND SMASH PRODUCTq+LOGICAL AND WITH DOT ABOVEsOR WITH DOT ABOVEzDOUBLE LOGICAL AND",
    "dORrTWO INTERSECTING LOGICAL ANDdORb+SLOPING LARGE ORcANDrLOGICAL OR OVERLAPPING LOGICAL AND",
    "a+AND WITH MIDDLE STEMuOR WITH MIDDLE STEMtAND WITH HORIZONTAL DASHyOR WITH HORIZONTAL DASHx",
    "AND WITH DOUBLE OVERBARoUNDERBARiDOUBLE UNDERBARg+SMALL VEE WITH UNDERBARxLOGICAL OR WITH DO",
    "UBLE OVERBARhUNDERBARf+Z NOTATION DOMAIN ANTIRESTRICTIONwRANGE ANTIRESTRICTIONg+EQUALS SIGN ",
    "WITH DOT BELOWa+IDENTICAL WITH DOT ABOVEyTRIPLE HORIZONTAL BAR WITH DOUBLE VERTICAL STROKEwT",
    "RIPLE VERTICAL STROKEw+ILDE OPERATOR WITH DOT ABOVEjRISING DOTSf+SIMILAR MINUS SIMILARvCONGR",
    "UENT WITH DOT ABOVEyEQUALS WITH ASTERISKuALMOST EQUAL TO WITH CIRCUMFLEX ACCENTl+PPROXIMATEL",
    "Y EQUAL OR EQUAL TOf+EQUALS SIGN ABOVE PLUS SIGNb+PLUS SIGN ABOVE EQUALS SIGNb+EQUALS SIGN A",
    "BOVE TILDE OPERATORg+DOUBLE COLON EQUALsTWO CONSECUTIVE EQUALS SIGNSb+HREE CONSECUTIVE EQUAL",
    "S SIGNSe+EQUALS SIGN WITH TWO DOTS ABOVE AND TWO DOTS BELOWv+IVALENT WITH FOUR DOTS ABOVEf+L",
    "ESS-THAN WITH CIRCLE INSIDEc+GREATER-THAN WITH CIRCLE INSIDEf+LESS-THAN WITH QUESTION MARK A",
    "BOVEi+GREATER-THAN WITH QUESTION MARK ABOVEl+LESS-THAN OR SLANTED EQUAL TOd+GREATER-THAN OR ",
    "SLANTED EQUAL TOg+LESS-THAN OR SLANTED EQUAL TO WITH DOT INSIDEt+GREATER-THAN OR SLANTED EQU",
    "AL TO WITH DOT INSIDEw+LESS-THAN OR SLANTED EQUAL TO WITH DOT ABOVEs+GREATER-THAN OR SLANTED",
    " EQUAL TO WITH DOT ABOVEv+LESS-THAN OR SLANTED EQUAL TO WITH DOT ABOVE RIGHTy+GREATER-THAN O",
    "R SLANTED EQUAL TO WITH DOT ABOVE LEFTa++LESS-THAN OR APPROXIMATEyGREATER-THAN OR APPROXIMAT",
    "Eb+LESS-THAN AND SINGLE-LINE NOT EQUAL TOm+GREATER-THAN AND SINGLE-LINE NOT EQUAL TOp+LESS-T",
    "HAN AND NOT APPROXIMATEd+GREATER-THAN AND NOT APPROXIMATEg+LESS-THAN ABOVE DOUBLE-LINE EQUAL",
    " ABOVE GREATER-THANa++GREATER-THAN ABOVE DOUBLE-LINE EQUAL ABOVE LESS-THANa++LESS-THAN ABOVE",
    " SIMILAR OR EQUALg+GREATER-THAN ABOVE SIMILAR OR EQUALj+LESS-THAN ABOVE SIMILAR ABOVE GREATE",
    "R-THANq+GREATER-THAN ABOVE SIMILAR ABOVE LESS-THANq+LESS-THAN ABOVE GREATER-THAN ABOVE DOUBL",
    "E-LINE EQUALa++GREATER-THAN ABOVE LESS-THAN ABOVE DOUBLE-LINE EQUALa++LESS-THAN ABOVE SLANTE",
    "D EQUAL ABOVE GREATER-THAN ABOVE SLANTED EQUALq++GREATER-THAN ABOVE SLANTED EQUAL ABOVE LESS",
    "-THAN ABOVE SLANTED EQUALq++SLANTED EQUAL TO OR LESS-THANjGREATER-THANmLESS-THAN WITH DOT IN",
    "SIDEzGREATER-THAN WITH DOT INSIDEw+DOUBLE-LINE EQUAL TO OR LESS-THANjGREATER-THANySLANTED EQ",
    "UAL TO OR LESS-THANjGREATER-THANs+SIMILAR OR LESS-THANjGREATER-THANpABOVE LESS-THAN ABOVE EQ",
    "UALS SIGNb+GREATER-THAN ABOVE EQUALS SIGNs+DOUBLE NESTED LESS-THANjGREATER-THANmLESS-THAN WI",
    "TH UNDERBARl+GREATER-THAN OVERLAPPING LESS-THANvBESIDE LESS-THANd+LESS-THAN CLOSED BY CURVEz",
    "GREATER-THAN CLOSED BY CURVEc+LESS-THAN CLOSED BY CURVE ABOVE SLANTED EQUALt+GREATER-THAN CL",
    "OSED BY CURVE ABOVE SLANTED EQUALw+SMALLER THANmLARGER THANlSMALLER THAN OR EQUAL TOyLARGER ",
    "THAN OR EQUAL TOxEQUALS SIGN WITH BUMPY ABOVEc+PRECEDES ABOVE SINGLE-LINE EQUALS SIGNm+SUCCE",
    "EDS ABOVE SINGLE-LINE EQUALS SIGNm+PRECEDES ABOVE SINGLE-LINE NOT EQUAL TOn+SUCCEEDS ABOVE S",
    "INGLE-LINE NOT EQUAL TOn+PRECEDES ABOVE EQUALS SIGNa+SUCCEEDS ABOVE EQUALS SIGNa+PRECEDES AB",
    "OVE NOT EQUAL TOb+SUCCEEDS ABOVE NOT EQUAL TOb+PRECEDES ABOVE ALMOST EQUAL TOe+SUCCEEDS ABOV",
    "E ALMOST EQUAL TOe+PRECEDES ABOVE NOT ALMOST EQUAL TOi+SUCCEEDS ABOVE NOT ALMOST EQUAL TOi+D",
    "OUBLE PRECEDESiSUCCEEDSpSUBSET WITH DOTnPERSET WITH DOTpBSET WITH PLUS SIGN BELOWzPERSET WIT",
    "H PLUS SIGN BELOWb+BSET WITH MULTIPLICATION SIGN BELOWj+PERSET WITH MULTIPLICATION SIGN BELO",
    "Wl+BSET OF OR EQUAL TO WITH DOT ABOVEi+PERSET OF OR EQUAL TO WITH DOT ABOVEk+BSET OF ABOVE E",
    "QUALS SIGNzPERSET OF ABOVE EQUALS SIGNb+BSET OF ABOVE TILDE OPERATORc+PERSET OF ABOVE TILDE ",
    "OPERATORe+BSET OF ABOVE ALMOST EQUAL TOd+PERSET OF ABOVE ALMOST EQUAL TOf+BSET OF ABOVE NOT ",
    "EQUAL TOa+PERSET OF ABOVE NOT EQUAL TOd+QUARE LEFT OPEN BOX OPERATORwRIGHT OPEN BOX OPERATOR",
    "e+CLOSED SUBSETePERSETgBSET OR EQUAL TOqPERSET OR EQUAL TOb+SUBSET ABOVE SUPERSETtPERSET ABO",
    "VE SUBSETtBSET ABOVE SUBSETrPERSET ABOVE SUPERSEToBESIDE SUBSETgAND JOINED BY DASH WITH SUBS",
    "ETu+ELEMENT OF OPENING DOWNWARDSc+PITCHFORK WITH TEE TOPwTRANSVERSAL INTERSECTIONyFORKINGhNO",
    "NFORKINGkSHORT LEFT TACKjDOWN TACKjUP TACKnPERPENDICULAR WITH SuVERTICAL BAR TRIPLE RIGHT TU",
    "RNSTILEj+DOUBLE VERTICAL BAR LEFT TURNSTILEi+VERTICAL BAR DOUBLE LEFT TURNSTILEi+DOUBLE VERT",
    "ICAL BAR DOUBLE LEFT TURNSTILEp+LONG DASH FROM LEFT MEMBER OF DOUBLE VERTICALt+SHORT DOWN TA",
    "CK WITH OVERBARwUP TACK WITH UNDERBARnABOVE SHORT DOWN TACKj+DOUBLE DOWN TACKjUP TACKhSTROKE",
    " NOT SIGNwREVERSED DOUBLE STROKE NOT SIGNf+DOES NOT DIVIDE WITH REVERSED NEGATION SLASHs+VER",
    "TICAL LINE WITH CIRCLE ABOVEfBELOWf+DOWN TACK WITH CIRCLE BELOWb+PARALLEL WITH HORIZONTAL ST",
    "ROKErTILDE OPERATORc+TRIPLE VERTICAL BAR BINARY RELATIONpWITH HORIZONTAL STROKEj+COLON OPERA",
    "TORoNESTED LESS-THANjGREATER-THANa+DOUBLE-LINE SLANTED LESS-THAN OR EQUAL TOvGREATER-THAN OR",
    " EQUAL TOs+TRIPLE SOLIDUS BINARY RELATIONe+LARGE TRIPLE VERTICAL BAR OPERATORi+DOUBLE SOLIDU",
    "S OPERATORxWHITE VERTICAL BARsN-ARY WHITE VERTICAL BARxORTH EAST WHITE ARROWqWEST WHITE ARRO",
    "WwSOUTH EAST WHITE ARROWqWEST WHITE ARROWwLEFT RIGHT WHITE ARROWsWARDS BLACK ARROWvUPWARDS B",
    "LACK ARROWtDOWNWARDS BLACK ARROWvNORTH EAST BLACK ARROWqWEST BLACK ARROWwSOUTH EAST BLACK AR",
    "ROWqWEST BLACK ARROWwLEFT RIGHT BLACK ARROWwUP DOWN BLACK ARROWtRIGHTWARDS ARROW WITH TIP DO",
    "WNWARDSjUPWARDSh+LEFTWARDS ARROW WITH TIP DOWNWARDSjUPWARDSg+SQUARE WITH TOP HALF BLACKoBOTT",
    "OM HALF BLACKrUPPER RIGHT DIAGONAL HALF BLACKf+LOWER LEFT DIAGONAL HALF BLACKq+DIAMOND WITH ",
    "LEFT HALF BLACKpRIGHT HALF BLACKqTOP HALF BLACKoBOTTOM HALF BLACKd+OTTED SQUAREnBLACK LARGE ",
    "SQUAREsWHITE LARGE SQUAREsBLACK VERY SMALL SQUARExWHITE VERY SMALL SQUARExBLACK PENTAGONoWHI",
    "TE PENTAGONiHEXAGONnBLACK HEXAGONnHORIZONTAL BLACK HEXAGONyBLACK LARGE CIRCLEmMEDIUM DIAMOND",
    "uWHITE MEDIUM DIAMONDuBLACK MEDIUM LOZENGEuWHITE MEDIUM LOZENGEuBLACK SMALL DIAMONDhLOZENGEt",
    "WHITE SMALL LOZENGEtBLACK HORIZONTAL ELLIPSEyWHITE HORIZONTAL ELLIPSEyBLACK VERTICAL ELLIPSE",
    "wWHITE VERTICAL ELLIPSEwLEFT ARROW WITH SMALL CIRCLEc+THREE LEFTWARDS ARROWSwLEFT ARROW WITH",
    " CIRCLED PLUSb+ONG LEFTWARDS SQUIGGLE ARROWc+EFTWARDS TWO-HEADED ARROW WITH VERTICAL STROKEp",
    "DOUBLE VERTICAL STROKEb+FROM BARoTRIPLE DASH ARROWc+ARROW WITH DOTTED STEMlTAIL WITH VERTICA",
    "L STROKEpDOUBLE VERTICAL STROKEr+TWO-HEADED ARROW WITH TAILa WITH VERTICAL STROKEpDOUBLE VER",
    "TICAL STROKEc++ARROW THROUGH XzWAVE ARROW POINTING DIRECTLY LEFTh+EQUALS SIGN ABOVE LEFTWARD",
    "S ARROWh+REVERSE TILDE OPERATOR ABOVE LEFTWARDS ARROWs+LEFTWARDS ARROW ABOVE REVERSE ALMOST ",
    "EQUAL TOt+RIGHTWARDS ARROW THROUGH GREATER-THANmSUPERSETh+LEFTWARDS QUADRUPLE ARROWzRIGHTWAR",
    "DS QUADRUPLE ARROWzEVERSE TILDE OPERATOR ABOVE RIGHTWARDS ARROWs+IGHTWARDS ARROW ABOVE REVER",
    "SE ALMOST EQUAL TOu+TILDE OPERATOR ABOVE LEFTWARDS ARROWk+LEFTWARDS ARROW ABOVE ALMOST EQUAL",
    " TOpREVERSE TILDE OPERATORs+RIGHTWARDS ARROW ABOVE REVERSE TILDE OPERATORt+DOWNWARDS TRIANGL",
    "E-HEADED ZIGZAG ARROWm+SHORT SLANTED NORTH ARROWtBACKSLANTED SOUTH ARROWd+WHITE MEDIUM STARr",
    "BLACK SMALL STARqWHITE SMALL STARqBLACK RIGHT-POINTING PENTAGONd+WHITE RIGHT-POINTING PENTAG",
    "ONd+HEAVY LARGE CIRCLEmOVAL WITH OVAL INSIDEvCIRCLE WITH CIRCLE INSIDEtaD SALTIREvSLANTED NO",
    "RTH ARROW WITH HOOKED HEADk+BACKSLANTED SOUTH ARROW WITH HOOKED TAILo+SLANTED NORTH ARROW WI",
    "TH HORIZONTAL TAILo+BACKSLANTED SOUTH ARROW WITH HORIZONTAL TAILr+ENT ARROW POINTING DOWNWAR",
    "DS THEN NORTH EASTt+SHORT BENT ARROW POINTING DOWNWARDS THEN NORTH EASTz+LEFTWARDS TRIANGLE-",
    "HEADED ARROWf+UPWARDS TRIANGLE-HEADED ARROWd+RIGHTWARDS TRIANGLE-HEADED ARROWg+DOWNWARDS TRI",
    "ANGLE-HEADED ARROWf+LEFT RIGHT TRIANGLE-HEADED ARROWg+UP DOWN TRIANGLE-HEADED ARROWd+NORTH W",
    "EST TRIANGLE-HEADED ARROWa+EAST TRIANGLE-HEADED ARROWg+SOUTH EAST TRIANGLE-HEADED ARROWa+WES",
    "T TRIANGLE-HEADED ARROWg+LEFTWARDS TRIANGLE-HEADED DASHED ARROWm+UPWARDS TRIANGLE-HEADED DAS",
    "HED ARROWk+RIGHTWARDS TRIANGLE-HEADED DASHED ARROWn+DOWNWARDS TRIANGLE-HEADED DASHED ARROWm+",
    "CLOCKWISE TRIANGLE-HEADED OPEN CIRCLE ARROWr+ANTICLOCKWISE TRIANGLE-HEADED OPEN CIRCLE ARROW",
    "v+LEFTWARDS TRIANGLE-HEADED ARROW TO BARm+UPWARDS TRIANGLE-HEADED ARROW TO BARk+RIGHTWARDS T",
    "RIANGLE-HEADED ARROW TO BARn+DOWNWARDS TRIANGLE-HEADED ARROW TO BARaam+NORTH WEST TRIANGLE-H",
    "EADED ARROW TO BARh+EAST TRIANGLE-HEADED ARROW TO BARn+SOUTH EAST TRIANGLE-HEADED ARROW TO B",
    "ARh+WEST TRIANGLE-HEADED ARROW TO BARn+LEFTWARDS TRIANGLE-HEADED ARROW WITH DOUBLE HORIZONTA",
    "L STROKEj++UPWARDS TRIANGLE-HEADED ARROW WITH DOUBLE HORIZONTAL STROKEh++RIGHTWARDS TRIANGLE",
    "-HEADED ARROW WITH DOUBLE HORIZONTAL STROKEk++DOWNWARDS TRIANGLE-HEADED ARROW WITH DOUBLE HO",
    "RIZONTAL STROKEj++HORIZONTAL TAB KEYsVERTICAL TAB KEYqLEFTWARDS TRIANGLE-HEADED ARROW OVER R",
    "IGHTWARDS TRIANGLE-HEADED ARROWr++UPWARDS TRIANGLE-HEADED ARROW LEFTWARDS OF DOWNWARDS TRIAN",
    "GLE-HEADED ARROWw++RIGHTWARDS TRIANGLE-HEADED ARROW OVER LEFTWARDS TRIANGLE-HEADED ARROWr++D",
    "OWNWARDS TRIANGLE-HEADED ARROW LEFTWARDS OF UPWARDS TRIANGLE-HEADED ARROWw++LEFTWARDS TRIANG",
    "LE-HEADED PAIRED ARROWSn+UPWARDS TRIANGLE-HEADED PAIRED ARROWSl+RIGHTWARDS TRIANGLE-HEADED P",
    "AIRED ARROWSo+DOWNWARDS TRIANGLE-HEADED PAIRED ARROWSn+LEFTWARDS BLACK CIRCLED WHITE ARROWj+",
    "UPWARDS BLACK CIRCLED WHITE ARROWh+RIGHTWARDS BLACK CIRCLED WHITE ARROWk+DOWNWARDS BLACK CIR",
    "CLED WHITE ARROWj+ANTICLOCKWISE TRIANGLE-HEADED RIGHT U-SHAPED ARROWuBOTTOM U-SHAPED ARROWvL",
    "EFT U-SHAPED ARROWtTOP U-SHAPED ARROWw+RETURN LEFTeRIGHTmNEWLINE LEFTeRIGHTnFOUR CORNER ARRO",
    "WS CIRCLING ANTICLOCKWISEp+RIGHTWARDS BLACK ARROWawSYMBOL FOR TYPE A ELECTRONICSd+THREE-D TO",
    "P-LIGHTED LEFTWARDS EQUILATERAL ARROWHEADr+RIGHT-LIGHTED UPWARDS EQUILATERAL ARROWHEADr+TOP-",
    "LIGHTED RIGHTWARDS EQUILATERAL ARROWHEADs+LEFT-LIGHTED DOWNWARDS EQUILATERAL ARROWHEADa++BLA",
    "CK LEFTWARDS EQUILATERAL ARROWHEADf+UPWARDS EQUILATERAL ARROWHEADd+RIGHTWARDS EQUILATERAL AR",
    "ROWHEADg+DOWNWARDS EQUILATERAL ARROWHEADl+DOWNWARDS TRIANGLE-HEADED ARROW WITH LONG TIP LEFT",
    "WARDSjRIGHTWARDSe++UPWARDS TRIANGLE-HEADED ARROW WITH LONG TIP LEFTWARDSjRIGHTWARDSc++LEFTWA",
    "RDS TRIANGLE-HEADED ARROW WITH LONG TIP UPWARDSb++RIGHTWARDS TRIANGLE-HEADED ARROW WITH LONG",
    " TIP UPWARDSc++LEFTWARDS TRIANGLE-HEADED ARROW WITH LONG TIP DOWNWARDSd++RIGHTWARDS TRIANGLE",
    "-HEADED ARROW WITH LONG TIP DOWNWARDSe++BLACK CURVED DOWNWARDS AND LEFTWARDS ARROWpRIGHTWARD",
    "S ARROWe+UPWARDS AND LEFTWARDS ARROWpRIGHTWARDS ARROWc+LEFTWARDS AND UPWARDS ARROWb+RIGHTWAR",
    "DS AND UPWARDS ARROWc+LEFTWARDS AND DOWNWARDS ARROWd+RIGHTWARDS AND DOWNWARDS ARROWr+RIBBON ",
    "ARROW DOWN LEFTeRIGHTkUP LEFTeRIGHTiLEFT UPhRIGHT UPiLEFT DOWNjRIGHT DOWNxUPWARDS WHITE ARRO",
    "W FROM BAR WITH HORIZONTAL BARu+ ARROWHEAD IN A RECTANGLE BOXf+OVERLAPPING WHITE SQUAREShAND",
    " BLACK SQUARESxBLACK SQUARESzBALLOT BOX WITH LIGHT XxCIRCLED XbBOLD XoBLACK SQUARE CENTREDoD",
    "IAMOND CENTREDvTURNED BLACK PENTAGONvHORIZONTAL BLACK OCTAGONyBLACK OCTAGONhMEDIUM UP-POINTI",
    "NG TRIANGLE CENTREDc+DOWN-POINTING TRIANGLE CENTREDe+LEFT-POINTING TRIANGLE CENTREDe+RIGHT-P",
    "OINTING TRIANGLE CENTREDs+NEPTUNE FORM TWOqTOP HALF BLACK CIRCLEvBOTTOM HALF BLACK CIRCLEyLI",
    "GHT FOUR POINTED BLACK CUSPd+ROTATED LIGHT FOUR POINTED BLACK CUSPl+WHITE FOUR POINTED CUSPx",
    "ROTATED WHITE FOUR POINTED CUSPf+SQUARE POSITION INDICATORzUNCERTAINTY SIGNqGROUP MARKkPLUTO",
    " FORM TWOcHREEfFOURdIVEpTRANSPLUTOkPROSERPINAkASTRAEAhHYGIEAgPHOLUSgNESSUSgWHITE MOON SELENA",
    "rBLACK DIAMOND ON CROSSwTRUE LIGHT MOON ARTAuCUPIDOgHADESfZEUSeKRONOSgAPOLLONgDMETOShVULCANU",
    "SiPOSEIDONiLEFT HALF BLACK STARuRIGHT HALF BLACK STARvSTAR WITH LEFT HALF BLACKpRIGHT HALF B",
    "LACKa+LEFTWARDS TWO-HEADED ARROW WITH TRIANGLE ARROWHEADSz+UPWARDS TWO-HEADED ARROW WITH TRI",
    "ANGLE ARROWHEADSx+RIGHTWARDS TWO-HEADED ARROW WITH TRIANGLE ARROWHEADSa++DOWNWARDS TWO-HEADE",
    "D ARROW WITH TRIANGLE ARROWHEADSz+ERIS FORM ONEdTWOnSEDNAfRUSSIAN ASTROLOGICAL SYMBOL VIGINT",
    "ILEjNOVILEgQUINTILEiBINOVILEiSENTAGONiTREDECILEl+EQUALS SIGN WITH INFINITY BELOWf+UNITED SYM",
    "BOLnSEPARATED SYMBOLqDOUBLED SYMBOLoPASSED SYMBOLnREVERSED RIGHT ANGLEuHELLSCHREIBER PAUSE S",
    "YMBOL"]⟩]

end ArgRules.Text.CharacterName
