/-!
# Names of characters from `0x2000` up to `0x2fff`
-/

set_option autoImplicit false

namespace TreePredicate.Text.CharacterName

/-- Runs of characters from `0x2000` up to `0x2fff`: where each starts, and the lines in which its
names are written. -/
def symbols : List (Nat × List String) := [
  (0x2000, ["aEN QUADbM QUADbN SPACEbM SPACEaTHREE-PER-EM SPACEaFOUR-PER-EM SPACEaSIX-PER-EM SPACE",
    "aFIGURE SPACEaPUNCTUATION SPACEaTHIN SPACEaHAIR SPACEaZERO WIDTH SPACElNON-JOINERlJOINERaLEFT",
    "-TO-RIGHT MARKaRIGHT-TO-LEFT MARKaHYPHENaNON-BREAKING HYPHENaFIGURE DASHaEN DASHbM DASHaHORIZ",
    "ONTAL BARaDOUBLE VERTICAL LINEhLOW LINEaLEFT SINGLE QUOTATION MARKaRIGHT SINGLE QUOTATION MAR",
    "KaSINGLE LOW-9 QUOTATION MARKhHIGH-REVERSED-9 QUOTATION MARKaLEFT DOUBLE QUOTATION MARKaRIGHT",
    " DOUBLE QUOTATION MARKaDOUBLE LOW-9 QUOTATION MARKhHIGH-REVERSED-9 QUOTATION MARKbAGGERbOUBLE",
    " DAGGERaBULLETaTRIANGULAR BULLETaONE DOT LEADERaTWO DOT LEADERaHORIZONTAL ELLIPSISbYPHENATION",
    " POINTaLINE SEPARATORaPARAGRAPH SEPARATORaLEFT-TO-RIGHT EMBEDDINGaRIGHT-TO-LEFT EMBEDDINGaPOP",
    " DIRECTIONAL FORMATTINGaLEFT-TO-RIGHT OVERRIDEaRIGHT-TO-LEFT OVERRIDEaNARROW NO-BREAK SPACEaP",
    "ER MILLE SIGNeTEN THOUSAND SIGNbRIMEaDOUBLE PRIMEaTRIPLE PRIMEaREVERSED PRIMEjDOUBLE PRIMEjTR",
    "IPLE PRIMEaCARETaSINGLE LEFT-POINTING ANGLE QUOTATION MARKhRIGHT-POINTING ANGLE QUOTATION MAR",
    "KaREFERENCE MARKaDOUBLE EXCLAMATION MARKaINTERROBANGaOVERLINEaUNDERTIEaCHARACTER TIEbARET INS",
    "ERTION POINTaASTERISMaHYPHEN BULLETaFRACTION SLASHaLEFT SQUARE BRACKET WITH QUILLaRIGHT SQUAR",
    "E BRACKET WITH QUILLaDOUBLE QUESTION MARKaQUESTION EXCLAMATION MARKaEXCLAMATION QUESTION MARK",
    "aTIRONIAN SIGN ETaREVERSED PILCROW SIGNaBLACK LEFTWARDS BULLETgRIGHTWARDS BULLETaLOW ASTERISK",
    "aREVERSED SEMICOLONaCLOSE UPaTWO ASTERISKS ALIGNED VERTICALLYaCOMMERCIAL MINUS SIGNaSWUNG DAS",
    "HaINVERTED UNDERTIEaFLOWER PUNCTUATION MARKaTHREE DOT PUNCTUATIONaQUADRUPLE PRIMEaFOUR DOT PU",
    "NCTUATIONbIVE DOT PUNCTUATIONaTWO DOT PUNCTUATIONaFOUR DOT MARKaDOTTED CROSSaTRICOLONaVERTICA",
    "L FOUR DOTSaMEDIUM MATHEMATICAL SPACEaWORD JOINERaFUNCTION APPLICATIONaINVISIBLE TIMESkSEPARA",
    "TORkPLUS"]),
  (0x2066, ["aLEFT-TO-RIGHT ISOLATEaRIGHT-TO-LEFT ISOLATEaFIRST STRONG ISOLATEaPOP DIRECTIONAL ISO",
    "LATEaINHIBIT SYMMETRIC SWAPPINGaACTIVATE SYMMETRIC SWAPPINGaINHIBIT ARABIC FORM SHAPINGaACTIV",
    "ATE ARABIC FORM SHAPINGaNATIONAL DIGIT SHAPESbOMINAL DIGIT SHAPESaSUPERSCRIPT ZEROmLATIN SMAL",
    "L LETTER I"]),
  (0x2074, ["aSUPERSCRIPT FOURnIVEmSIXnEVENmEIGHTmNINEmPLUS SIGNmMINUSmEQUALS SIGNmLEFT PARENTHESI",
    "SmRIGHT PARENTHESISmLATIN SMALL LETTER NcBSCRIPT ZEROkONEkTWOlHREEkFOURlIVEkSIXlEVENkEIGHTkNI",
    "NEkPLUS SIGNkMINUSkEQUALS SIGNkLEFT PARENTHESISkRIGHT PARENTHESIS"]),
  (0x2090, ["aLATIN SUBSCRIPT SMALL LETTER AbdEbdObdXbdSCHWAbdHbdKbdLbdMbdNbdPbdSbdT"]),
  (0x20a0, ["aEURO-CURRENCY SIGNaCOLON SIGNbRUZEIRO SIGNaFRENCH FRANC SIGNaLIRA SIGNaMILL SIGNaNAI",
    "RA SIGNaPESETA SIGNaRUPEE SIGNaWON SIGNaNEW SHEQEL SIGNaDONG SIGNaEURO SIGNaKIP SIGNaTUGRIK S",
    "IGNaDRACHMA SIGNaGERMAN PENNY SIGNaPESO SIGNaGUARANI SIGNaAUSTRAL SIGNaHRYVNIA SIGNaCEDI SIGN",
    "aLIVRE TOURNOIS SIGNaSPESMILO SIGNaTENGE SIGNaINDIAN RUPEE SIGNaTURKISH LIRA SIGNaNORDIC MARK",
    " SIGNaMANAT SIGNaRUBLE SIGNaLARI SIGNaBITCOIN SIGNaSOM SIGN"]),
  (0x20d0, ["aCOMBINING LEFT HARPOON ABOVEkRIGHT HARPOON ABOVEkLONG VERTICAL LINE OVERLAYkSHORT VE",
    "RTICAL LINE OVERLAYkANTICLOCKWISE ARROW ABOVEkCLOCKWISE ARROW ABOVEkLEFT ARROW ABOVEkRIGHT AR",
    "ROW ABOVEmNG OVERLAYkCLOCKWISE RING OVERLAYkANTICLOCKWISE RING OVERLAYkTHREE DOTS ABOVEkFOUR ",
    "DOTS ABOVEkENCLOSING CIRCLEuSQUAREuDIAMONDuCIRCLE BACKSLASHkLEFT RIGHT ARROW ABOVEkENCLOSING ",
    "SCREENuKEYCAPuUPWARD POINTING TRIANGLEkREVERSE SOLIDUS OVERLAYkDOUBLE VERTICAL STROKE OVERLAY",
    "kANNUITY SYMBOLkTRIPLE UNDERDOTkWIDE BRIDGE ABOVEkLEFTWARDS ARROW OVERLAYlONG DOUBLE SOLIDUS ",
    "OVERLAYkRIGHTWARDS HARPOON WITH BARB DOWNWARDSkLEFTWARDS HARPOON WITH BARB DOWNWARDSo ARROW B",
    "ELOWkRIGHT ARROW BELOWkASTERISK ABOVE"]),
  (0x2100, ["aACCOUNT OFbDDRESSED TO THE SUBJECTaDOUBLE-STRUCK CAPITAL CbEGREE CELSIUSaCENTRE LINE",
    " SYMBOLbARE OFcDA UNAaEULER CONSTANTaSCRUPLEaDEGREE FAHRENHEITaSCRIPT SMALL GhCAPITAL HaBLACK",
    "-LETTER CAPITAL HaDOUBLE-STRUCK CAPITAL HaPLANCK CONSTANTp OVER TWO PIaSCRIPT CAPITAL IaBLACK",
    "-LETTER CAPITAL IaSCRIPT CAPITAL LhSMALL LaL B BAR SYMBOLaDOUBLE-STRUCK CAPITAL NaNUMERO SIGN",
    "aSOUND RECORDING COPYRIGHTbCRIPT CAPITAL PaDOUBLE-STRUCK CAPITAL PwQaSCRIPT CAPITAL RaBLACK-L",
    "ETTER CAPITAL RaDOUBLE-STRUCK CAPITAL RaPRESCRIPTION TAKEaRESPONSEaSERVICE MARKaTELEPHONE SIG",
    "NbRADE MARK SIGNaVERSICLEaDOUBLE-STRUCK CAPITAL ZaOUNCE SIGNbHM SIGNaINVERTED OHM SIGNaBLACK-",
    "LETTER CAPITAL ZaTURNED GREEK SMALL LETTER IOTAaKELVIN SIGNaANGSTROM SIGNaSCRIPT CAPITAL BaBL",
    "ACK-LETTER CAPITAL CaESTIMATED SYMBOLaSCRIPT SMALL EhCAPITAL EpFaTURNED CAPITAL FaSCRIPT CAPI",
    "TAL MhSMALL OaALEF SYMBOLaBET SYMBOLaGIMEL SYMBOLaDALET SYMBOLaINFORMATION SOURCEaROTATED CAP",
    "ITAL QaFACSIMILE SIGNaDOUBLE-STRUCK SMALL PIuGAMMAoCAPITAL GAMMAwPIoN-ARY SUMMATIONaTURNED SA",
    "NS-SERIF CAPITAL GbaLaREVERSED SANS-SERIF CAPITAL LaTURNED SANS-SERIF CAPITAL YaDOUBLE-STRUCK",
    " ITALIC CAPITAL DvSMALL DbbEbbIbbJaPROPERTY LINEaTURNED AMPERSANDaPER SIGNaAKTIESELSKABaTURNE",
    "D SMALL FaSYMBOL FOR SAMARITAN SOURCEaVULGAR FRACTION ONE SEVENTHuNINTHuTENTHvHIRDqTWO THIRDS",
    "qONE FIFTHqTWO FIFTHSrHREE FIFTHSqFOUR FIFTHSqONE SIXTHqFIVE SIXTHSqONE EIGHTHqTHREE EIGHTHSq",
    "FIVE EIGHTHSqSEVEN EIGHTHSaFRACTION NUMERATOR ONEaROMAN NUMERAL ONEoTWOpHREEoFOURpIVEoSIXpEVE",
    "NoEIGHToNINEoTENoELEVENoTWELVEoFIFTYoONE HUNDREDoFIVE HUNDREDoONE THOUSANDaSMALL ROMAN NUMERA",
    "L ONEuTWOvHREEuFOURvIVEuSIXvEVENuEIGHTuNINEuTENuELEVENuTWELVEuFIFTYuONE HUNDREDuFIVE HUNDREDu",
    "ONE THOUSANDaROMAN NUMERAL ONE THOUSAND C DoFIVE THOUSANDoTEN THOUSANDoREVERSED ONE HUNDREDaL",
    "ATIN SMALL LETTER REVERSED CaROMAN NUMERAL SIX LATE FORMoFIFTY EARLY FORMuTHOUSANDoONE HUNDRE",
    "D THOUSANDaVULGAR FRACTION ZERO THIRDSaTURNED DIGIT TWOoHREE"]),
  (0x2190, ["aLEFTWARDS ARROWaUPWARDS ARROWaRIGHTWARDS ARROWaDOWNWARDS ARROWaLEFT RIGHT ARROWaUP D",
    "OWN ARROWaNORTH WEST ARROWgEAST ARROWaSOUTH EAST ARROWgWEST ARROWaLEFTWARDS ARROW WITH STROKE",
    "aRIGHTWARDS ARROW WITH STROKEaLEFTWARDS WAVE ARROWaRIGHTWARDS WAVE ARROWaLEFTWARDS TWO HEADED",
    " ARROWaUPWARDS TWO HEADED ARROWaRIGHTWARDS TWO HEADED ARROWaDOWNWARDS TWO HEADED ARROWaLEFTWA",
    "RDS ARROW WITH TAILaRIGHTWARDS ARROW WITH TAILaLEFTWARDS ARROW FROM BARaUPWARDS ARROW FROM BA",
    "RaRIGHTWARDS ARROW FROM BARaDOWNWARDS ARROW FROM BARaUP DOWN ARROW WITH BASEaLEFTWARDS ARROW ",
    "WITH HOOKaRIGHTWARDS ARROW WITH HOOKaLEFTWARDS ARROW WITH LOOPaRIGHTWARDS ARROW WITH LOOPaLEF",
    "T RIGHT WAVE ARROWlARROW WITH STROKEaDOWNWARDS ZIGZAG ARROWaUPWARDS ARROW WITH TIP LEFTWARDSx",
    "RIGHTWARDSaDOWNWARDS ARROW WITH TIP LEFTWARDSzRIGHTWARDSaRIGHTWARDS ARROW WITH CORNER DOWNWAR",
    "DSaDOWNWARDS ARROW WITH CORNER LEFTWARDSaANTICLOCKWISE TOP SEMICIRCLE ARROWaCLOCKWISE TOP SEM",
    "ICIRCLE ARROWaNORTH WEST ARROW TO LONG BARaLEFTWARDS ARROW TO BAR OVER RIGHTWARDS ARROW TO BA",
    "RaANTICLOCKWISE OPEN CIRCLE ARROWaCLOCKWISE OPEN CIRCLE ARROWaLEFTWARDS HARPOON WITH BARB UPW",
    "ARDSbcDOWNWARDSaUPWARDS HARPOON WITH BARB RIGHTWARDSbaLEFTWARDSaRIGHTWARDS HARPOON WITH BARB ",
    "UPWARDSbdDOWNWARDSaDOWNWARDS HARPOON WITH BARB RIGHTWARDSbcLEFTWARDSaRIGHTWARDS ARROW OVER LE",
    "FTWARDS ARROWaUPWARDS ARROW LEFTWARDS OF DOWNWARDS ARROWaLEFTWARDS ARROW OVER RIGHTWARDS ARRO",
    "WkPAIRED ARROWSaUPWARDS PAIRED ARROWSaRIGHTWARDS PAIRED ARROWSaDOWNWARDS PAIRED ARROWSaLEFTWA",
    "RDS HARPOON OVER RIGHTWARDS HARPOONaRIGHTWARDS HARPOON OVER LEFTWARDS HARPOONaLEFTWARDS DOUBL",
    "E ARROW WITH STROKEe RIGHT DOUBLE ARROW WITH STROKEaRIGHTWARDS DOUBLE ARROW WITH STROKEaLEFTW",
    "ARDS DOUBLE ARROWaUPWARDS DOUBLE ARROWaRIGHTWARDS DOUBLE ARROWaDOWNWARDS DOUBLE ARROWaLEFT RI",
    "GHT DOUBLE ARROWaUP DOWN DOUBLE ARROWaNORTH WEST DOUBLE ARROWgEAST DOUBLE ARROWaSOUTH EAST DO",
    "UBLE ARROWgWEST DOUBLE ARROWaLEFTWARDS TRIPLE ARROWaRIGHTWARDS TRIPLE ARROWaLEFTWARDS SQUIGGL",
    "E ARROWaRIGHTWARDS SQUIGGLE ARROWaUPWARDS ARROW WITH DOUBLE STROKEaDOWNWARDS ARROW WITH DOUBL",
    "E STROKEaLEFTWARDS DASHED ARROWaUPWARDS DASHED ARROWaRIGHTWARDS DASHED ARROWaDOWNWARDS DASHED",
    " ARROWaLEFTWARDS ARROW TO BARaRIGHTWARDS ARROW TO BARaLEFTWARDS WHITE ARROWaUPWARDS WHITE ARR",
    "OWaRIGHTWARDS WHITE ARROWaDOWNWARDS WHITE ARROWaUPWARDS WHITE ARROW FROM BARuON PEDESTALbf WI",
    "TH HORIZONTAL BARblVERTICAL BARoDOUBLE ARROWba ON PEDESTALaRIGHTWARDS WHITE ARROW FROM WALLaN",
    "ORTH WEST ARROW TO CORNERaSOUTH EAST ARROW TO CORNERaUP DOWN WHITE ARROWaRIGHT ARROW WITH SMA",
    "LL CIRCLEaDOWNWARDS ARROW LEFTWARDS OF UPWARDS ARROWaTHREE RIGHTWARDS ARROWSaLEFTWARDS ARROW ",
    "WITH VERTICAL STROKEaRIGHTWARDS ARROW WITH VERTICAL STROKEaLEFT RIGHT ARROW WITH VERTICAL STR",
    "OKEeWARDS ARROW WITH DOUBLE VERTICAL STROKEaRIGHTWARDS ARROW WITH DOUBLE VERTICAL STROKEaLEFT",
    " RIGHT ARROW WITH DOUBLE VERTICAL STROKEeWARDS OPEN-HEADED ARROWaRIGHTWARDS OPEN-HEADED ARROW",
    "aLEFT RIGHT OPEN-HEADED ARROWaFOR ALLaCOMPLEMENTaPARTIAL DIFFERENTIALaTHERE EXISTSgDOES NOT E",
    "XISTaEMPTY SETaINCREMENTaNABLAaELEMENT OFaNOT AN ELEMENT OFaSMALL ELEMENT OFaCONTAINS AS MEMB",
    "ERaDOES NOT CONTAIN AS MEMBERaSMALL CONTAINS AS MEMBERaEND OF PROOFaN-ARY PRODUCTgCOPRODUCTgS",
    "UMMATIONaMINUS SIGNf-OR-PLUS SIGNaDOT PLUSbIVISION SLASHaSET MINUSaASTERISK OPERATORaRING OPE",
    "RATORaBULLET OPERATORaSQUARE ROOTaCUBE ROOTaFOURTH ROOTaPROPORTIONAL TOaINFINITYaRIGHT ANGLEa",
    "ANGLEaMEASURED ANGLEaSPHERICAL ANGLEaDIVIDESbOES NOT DIVIDEaPARALLEL TOaNOT PARALLEL TOaLOGIC",
    "AL ANDiORaINTERSECTIONaUNIONaINTEGRALaDOUBLE INTEGRALaTRIPLE INTEGRALaCONTOUR INTEGRALaSURFAC",
    "E INTEGRALaVOLUME INTEGRALaCLOCKWISE INTEGRALkCONTOUR INTEGRALaANTICLOCKWISE CONTOUR INTEGRAL",
    "aTHEREFOREaBECAUSEaRATIOaPROPORTIONaDOT MINUSaEXCESSaGEOMETRIC PROPORTIONaHOMOTHETICaTILDE OP",
    "ERATORaREVERSED TILDEaINVERTED LAZY SaSINE WAVEaWREATH PRODUCTaNOT TILDEaMINUS TILDEaASYMPTOT",
    "ICALLY EQUAL TOaNOT ASYMPTOTICALLY EQUAL TOaAPPROXIMATELY EQUAL TOoBUT NOT ACTUALLY EQUAL TOa",
    "NEITHER APPROXIMATELY NOR ACTUALLY EQUAL TOaALMOST EQUAL TOaNOT ALMOST EQUAL TOaALMOST EQUAL ",
    "OR EQUAL TOaTRIPLE TILDEaALL EQUAL TOaEQUIVALENT TOaGEOMETRICALLY EQUIVALENT TOaDIFFERENCE BE",
    "TWEENaAPPROACHES THE LIMITaGEOMETRICALLY EQUAL TOaAPPROXIMATELY EQUAL TO OR THE IMAGE OFaIMAG",
    "E OF OR APPROXIMATELY EQUAL TOaCOLON EQUALSaEQUALS COLONaRING IN EQUAL TOfEQUAL TOaCORRESPOND",
    "S TOaESTIMATESbQUIANGULAR TOaSTAR EQUALSaDELTA EQUAL TOaEQUAL TO BY DEFINITIONaMEASURED BYaQU",
    "ESTIONED EQUAL TOaNOT EQUAL TOaIDENTICAL TOaNOT IDENTICAL TOaSTRICTLY EQUIVALENT TOaLESS-THAN",
    " OR EQUAL TOaGREATER-THAN OR EQUAL TOaLESS-THAN OVER EQUAL TOaGREATER-THAN OVER EQUAL TOaLESS",
    "-THAN BUT NOT EQUAL TOaGREATER-THAN BUT NOT EQUAL TOaMUCH LESS-THANfGREATER-THANaBETWEENaNOT ",
    "EQUIVALENT TOeLESS-THANeGREATER-THANbEITHER LESS-THAN NOR EQUAL TOiGREATER-THAN NOR EQUAL TOa",
    "LESS-THAN OR EQUIVALENT TOaGREATER-THAN OR EQUIVALENT TOaNEITHER LESS-THAN NOR EQUIVALENT TOi",
    "GREATER-THAN NOR EQUIVALENT TOaLESS-THAN OR GREATER-THANaGREATER-THAN OR LESS-THANaNEITHER LE",
    "SS-THAN NOR GREATER-THANiGREATER-THAN NOR LESS-THANaPRECEDESaSUCCEEDSaPRECEDES OR EQUAL TOaSU",
    "CCEEDS OR EQUAL TOaPRECEDES OR EQUIVALENT TOaSUCCEEDS OR EQUIVALENT TOaDOES NOT PRECEDEjSUCCE",
    "EDaSUBSET OFcPERSET OFaNOT A SUBSET OFiPERSET OFaSUBSET OF OR EQUAL TOcPERSET OF OR EQUAL TOa",
    "NEITHER A SUBSET OF NOR EQUAL TOmPERSET OF NOR EQUAL TOaSUBSET OF WITH NOT EQUAL TOcPERSET OF",
    " WITH NOT EQUAL TOaMULTISETi MULTIPLICATIONjUNIONaSQUARE IMAGE OFhORIGINAL OFhIMAGE OF OR EQU",
    "AL TOhORIGINAL OF OR EQUAL TOhCAPiUPaCIRCLED PLUSiMINUSiTIMESiDIVISION SLASHjOT OPERATORiRING",
    " OPERATORiASTERISK OPERATORiEQUALSiDASHaSQUARED PLUSiMINUSiTIMESiDOT OPERATORaRIGHT TACKaLEFT",
    " TACKaDOWN TACKaUP TACKaASSERTIONaMODELSaTRUEaFORCESaTRIPLE VERTICAL BAR RIGHT TURNSTILEaDOUB",
    "LE VERTICAL BAR DOUBLE RIGHT TURNSTILEcES NOT PROVEaNOT TRUEaDOES NOT FORCEaNEGATED DOUBLE VE",
    "RTICAL BAR DOUBLE RIGHT TURNSTILEaPRECEDES UNDER RELATIONaSUCCEEDS UNDER RELATIONaNORMAL SUBG",
    "ROUP OFaCONTAINS AS NORMAL SUBGROUPaNORMAL SUBGROUP OF OR EQUAL TOaCONTAINS AS NORMAL SUBGROU",
    "P OR EQUAL TOaORIGINAL OFaIMAGE OFaMULTIMAPaHERMITIAN CONJUGATE MATRIXaINTERCALATEaXORaNANDbO",
    "RaRIGHT ANGLE WITH ARCgTRIANGLEaN-ARY LOGICAL ANDoORgINTERSECTIONgUNIONaDIAMOND OPERATORbOT O",
    "PERATORaSTAR OPERATORaDIVISION TIMESaBOWTIEaLEFT NORMAL FACTOR SEMIDIRECT PRODUCTaRIGHT NORMA",
    "L FACTOR SEMIDIRECT PRODUCTaLEFT SEMIDIRECT PRODUCTaRIGHT SEMIDIRECT PRODUCTbEVERSED TILDE EQ",
    "UALSaCURLY LOGICAL ORoANDaDOUBLE SUBSETjPERSEThINTERSECTIONhUNIONaPITCHFORKaEQUAL AND PARALLE",
    "L TOaLESS-THAN WITH DOTaGREATER-THAN WITH DOTaVERY MUCH LESS-THANkGREATER-THANaLESS-THAN EQUA",
    "L TO OR GREATER-THANaGREATER-THAN EQUAL TO OR LESS-THANaEQUAL TO OR LESS-THANmGREATER-THANmPR",
    "ECEDESmSUCCEEDSaDOES NOT PRECEDE OR EQUALjSUCCEED OR EQUALaNOT SQUARE IMAGE OF OR EQUAL TOlOR",
    "IGINAL OF OR EQUAL TOaSQUARE IMAGE OF OR NOT EQUAL TOhORIGINAL OF OR NOT EQUAL TOaLESS-THAN B",
    "UT NOT EQUIVALENT TOaGREATER-THAN BUT NOT EQUIVALENT TOaPRECEDES BUT NOT EQUIVALENT TOaSUCCEE",
    "DS BUT NOT EQUIVALENT TOaNOT NORMAL SUBGROUP OFaDOES NOT CONTAIN AS NORMAL SUBGROUPaNOT NORMA",
    "L SUBGROUP OF OR EQUAL TOaDOES NOT CONTAIN AS NORMAL SUBGROUP OR EQUALaVERTICAL ELLIPSISaMIDL",
    "INE HORIZONTAL ELLIPSISaUP RIGHT DIAGONAL ELLIPSISaDOWN RIGHT DIAGONAL ELLIPSISaELEMENT OF WI",
    "TH LONG HORIZONTAL STROKEqVERTICAL BAR AT END OF HORIZONTAL STROKEaSMALL ELEMENT OF WITH VERT",
    "ICAL BAR AT END OF HORIZONTAL STROKEaELEMENT OF WITH DOT ABOVEqOVERBARaSMALL ELEMENT OF WITH ",
    "OVERBARaELEMENT OF WITH UNDERBARqTWO HORIZONTAL STROKESaCONTAINS WITH LONG HORIZONTAL STROKEo",
    "VERTICAL BAR AT END OF HORIZONTAL STROKEaSMALL CONTAINS WITH VERTICAL BAR AT END OF HORIZONTA",
    "L STROKEaCONTAINS WITH OVERBARaSMALL CONTAINS WITH OVERBARaZ NOTATION BAG MEMBERSHIPaDIAMETER",
    " SIGNaELECTRIC ARROWaHOUSEaUP ARROWHEADaDOWN ARROWHEADaPROJECTIVEbERSPECTIVEaWAVY LINEaLEFT C",
    "EILINGaRIGHT CEILINGaLEFT FLOORaRIGHT FLOORaBOTTOM RIGHT CROPhLEFT CROPaTOP RIGHT CROPeLEFT C",
    "ROPaREVERSED NOT SIGNaSQUARE LOZENGEaARCaSEGMENTcCTORaTELEPHONE RECORDERaPOSITION INDICATORaV",
    "IEWDATA SQUAREaPLACE OF INTEREST SIGNaTURNED NOT SIGNaWATCHaHOURGLASSaTOP LEFT CORNEReRIGHT C",
    "ORNERaBOTTOM LEFT CORNERhRIGHT CORNERaTOP HALF INTEGRALaBOTTOM HALF INTEGRALaFROWNaSMILEaUP A",
    "RROWHEAD BETWEEN TWO HORIZONTAL BARSaOPTION KEYaERASE TO THE RIGHTaX IN A RECTANGLE BOXaKEYBO",
    "ARDaLEFT-POINTING ANGLE BRACKETaRIGHT-POINTING ANGLE BRACKETaERASE TO THE LEFTaBENZENE RINGaC",
    "YLINDRICITYaALL AROUND-PROFILEaSYMMETRYaTOTAL RUNOUTaDIMENSION ORIGINaCONICAL TAPERaSLOPEaCOU",
    "NTERBOREhSINKaAPL FUNCTIONAL SYMBOL I-BEAMwSQUISH QUADwQUAD EQUALbbDIVIDEbdAMONDbbJOTbbCIRCLE",
    "wCIRCLE STILEbdJOTwSLASH BARwBACKSLASH BARwQUAD SLASHbbBACKSLASHbbLESS-THANbbGREATER-THANwLEF",
    "TWARDS VANEwRIGHTWARDS VANEwQUAD LEFTWARDS ARROWbbRIGHTWARDS ARROWwCIRCLE BACKSLASHwDOWN TACK",
    " UNDERBARxELTA STILEwQUAD DOWN CARETbcELTAwDOWN TACK JOTwUPWARDS VANEwQUAD UPWARDS ARROWwUP T",
    "ACK OVERBARwDEL STILEwQUAD UP CARETbbDELwUP TACK JOTwDOWNWARDS VANEwQUAD DOWNWARDS ARROWyOTE ",
    "UNDERBARwDELTA UNDERBARxIAMOND UNDERBARwJOT UNDERBARwCIRCLE UNDERBARwUP SHOE JOTwQUOTE QUADwC",
    "IRCLE STARwQUAD COLONwUP TACK DIAERESISwDEL DIAERESISwSTAR DIAERESISwJOT DIAERESISwCIRCLE DIA",
    "ERESISwDOWN SHOE STILEwLEFT SHOE STILEwTILDE DIAERESISwGREATER-THAN DIAERESISwCOMMA BARwDEL T",
    "ILDEwZILDEwSTILE TILDExEMICOLON UNDERBARwQUAD NOT EQUALbbQUESTIONwDOWN CARET TILDEwUP CARET T",
    "ILDEwIOTAwRHOwOMEGAwALPHA UNDERBARwEPSILON UNDERBARwIOTA UNDERBARwOMEGA UNDERBARwALPHAaNOT CH",
    "ECK MARKaRIGHT ANGLE WITH DOWNWARDS ZIGZAG ARROWaSHOULDERED OPEN BOXaBELL SYMBOLaVERTICAL LIN",
    "E WITH MIDDLE DOTaINSERTION SYMBOLaCONTINUOUS UNDERLINE SYMBOLaDISCONTINUOUS UNDERLINE SYMBOL",
    "aEMPHASIS SYMBOLaCOMPOSITION SYMBOLaWHITE SQUARE WITH CENTRE VERTICAL LINEaENTER SYMBOLaALTER",
    "NATIVE KEY SYMBOLaHELM SYMBOLaCIRCLED HORIZONTAL BAR WITH NOTCHiTRIANGLE DOWNaBROKEN CIRCLE W",
    "ITH NORTHWEST ARROWaUNDO SYMBOLaMONOSTABLE SYMBOLaHYSTERESIS SYMBOLaOPEN-CIRCUIT-OUTPUT H-TYP",
    "E SYMBOLuL-TYPE SYMBOLaPASSIVE-PULL-DOWN-OUTPUT SYMBOLnUP-OUTPUT SYMBOLaDIRECT CURRENT SYMBOL",
    " FORM TWOaSOFTWARE-FUNCTION SYMBOLaAPL FUNCTIONAL SYMBOL QUADaDECIMAL SEPARATOR KEY SYMBOLaPR",
    "EVIOUS PAGEaNEXT PAGEaPRINT SCREEN SYMBOLaCLEAR SCREEN SYMBOLaLEFT PARENTHESIS UPPER HOOKrEXT",
    "ENSIONrLOWER HOOKaRIGHT PARENTHESIS UPPER HOOKsEXTENSIONsLOWER HOOKaLEFT SQUARE BRACKET UPPER",
    " CORNERuEXTENSIONuLOWER CORNERaRIGHT SQUARE BRACKET UPPER CORNERvEXTENSIONvLOWER CORNERaLEFT ",
    "CURLY BRACKET UPPER HOOKtMIDDLE PIECEtLOWER HOOKaCURLY BRACKET EXTENSIONaRIGHT CURLY BRACKET ",
    "UPPER HOOKuMIDDLE PIECEuLOWER HOOKaINTEGRAL EXTENSIONaHORIZONTAL LINE EXTENSIONaUPPER LEFT OR",
    " LOWER RIGHT CURLY BRACKET SECTIONgRIGHT OR LOWER LEFT CURLY BRACKET SECTIONaSUMMATION TOPkBO",
    "TTOMaTOP SQUARE BRACKETaBOTTOM SQUARE BRACKETv OVER TOP SQUARE BRACKETaRADICAL SYMBOL BOTTOMa",
    "LEFT VERTICAL BOX LINEaRIGHT VERTICAL BOX LINEaHORIZONTAL SCAN LINE-1v3v7v9aDENTISTRY SYMBOL ",
    "LIGHT VERTICAL AND TOP RIGHTbkBOTTOM RIGHTbgWITH CIRCLExDOWN AND HORIZONTAL WITH CIRCLExUP AN",
    "D HORIZONTAL WITH CIRCLExVERTICAL WITH TRIANGLExDOWN AND HORIZONTAL WITH TRIANGLExUP AND HORI",
    "ZONTAL WITH TRIANGLExVERTICAL AND WAVExDOWN AND HORIZONTAL WITH WAVExUP AND HORIZONTAL WITH W",
    "AVExDOWN AND HORIZONTALxUP AND HORIZONTALxVERTICAL AND TOP LEFTbkBOTTOM LEFTaSQUARE FOOTaRETU",
    "RN SYMBOLaEJECT SYMBOLaVERTICAL LINE EXTENSIONaMETRICAL BREVEjLONG OVER SHORTjSHORT OVER LONG",
    "jLONG OVER TWO SHORTSjTWO SHORTS OVER LONGuJOINEDkRISEMEkETRASEMEjPENTASEMEaEARTH GROUNDaFUSE",
    "aTOP PARENTHESISaBOTTOM PARENTHESISaTOP CURLY BRACKETaBOTTOM CURLY BRACKETaTOP TORTOISE SHELL",
    " BRACKETaBOTTOM TORTOISE SHELL BRACKETaWHITE TRAPEZIUMaBENZENE RING WITH CIRCLEaSTRAIGHTNESSa",
    "FLATNESSaAC CURRENTaELECTRICAL INTERSECTIONaDECIMAL EXPONENT SYMBOLaBLACK RIGHT-POINTING DOUB",
    "LE TRIANGLEgLEFT-POINTING DOUBLE TRIANGLEgUP-POINTING DOUBLE TRIANGLEgDOWN-POINTING DOUBLE TR",
    "IANGLEgRIGHT-POINTING DOUBLE TRIANGLE WITH VERTICAL BARgLEFT-POINTING DOUBLE TRIANGLE WITH VE",
    "RTICAL BARgRIGHT-POINTING TRIANGLE WITH DOUBLE VERTICAL BARaALARM CLOCKaSTOPWATCHaTIMER CLOCK",
    "aHOURGLASS WITH FLOWING SANDaBLACK MEDIUM LEFT-POINTING TRIANGLEnRIGHT-POINTING TRIANGLEnUP-P",
    "OINTING TRIANGLEnDOWN-POINTING TRIANGLEaDOUBLE VERTICAL BARaBLACK SQUARE FOR STOPgCIRCLE FOR ",
    "RECORDaPOWER SYMBOLgON-OFF SYMBOLi SYMBOLgSLEEP SYMBOLaOBSERVER EYE SYMBOLaSYMBOL FOR NULLlST",
    "ART OF HEADINGuTEXTlEND OF TEXTtRANSMISSIONnQUIRYlACKNOWLEDGElBELLmACKSPACElHORIZONTAL TABULA",
    "TIONlLINE FEEDlVERTICAL TABULATIONlFORM FEEDlCARRIAGE RETURNlSHIFT OUTrINlDATA LINK ESCAPEmEV",
    "ICE CONTROL ONEbaTWObbHREEbaFOURlNEGATIVE ACKNOWLEDGElSYNCHRONOUS IDLElEND OF TRANSMISSION BL",
    "OCKlCANCELlEND OF MEDIUMlSUBSTITUTElESCAPElFILE SEPARATORlGROUP SEPARATORlRECORD SEPARATORlUN",
    "IT SEPARATORlSPACElDELETEaBLANK SYMBOLaOPEN BOXaSYMBOL FOR NEWLINElDELETE FORM TWOlSUBSTITUTE",
    " FORM TWO"]),
  (0x2440, ["aOCR HOOKeCHAIReFORKeINVERTED FORKeBELT BUCKLEfOW TIEfRANCH BANK IDENTIFICATIONeAMOUN",
    "T OF CHECKeDASHeCUSTOMER ACCOUNT NUMBEReDOUBLE BACKSLASH"]),
  (0x2460, ["aCIRCLED DIGIT ONEoTWOpHREEoFOURpIVEoSIXpEVENoEIGHToNINEiNUMBER TENpELEVENpTWELVEqHIR",
    "TEENpFOURTEENqIFTEENpSIXTEENqEVENTEENpEIGHTEENpNINETEENpTWENTYaPARENTHESIZED DIGIT ONEuTWOvHR",
    "EEuFOURvIVEuSIXvEVENuEIGHTuNINEoNUMBER TENvELEVENvTWELVEwHIRTEENvFOURTEENwIFTEENvSIXTEENwEVEN",
    "TEENvEIGHTEENvNINETEENvTWENTYaDIGIT ONE FULL STOPgTWO FULL STOPhHREE FULL STOPgFOUR FULL STOP",
    "hIVE FULL STOPgSIX FULL STOPhEVEN FULL STOPgEIGHT FULL STOPgNINE FULL STOPaNUMBER TEN FULL ST",
    "OPhELEVEN FULL STOPhTWELVE FULL STOPiHIRTEEN FULL STOPhFOURTEEN FULL STOPiIFTEEN FULL STOPhSI",
    "XTEEN FULL STOPiEVENTEEN FULL STOPhEIGHTEEN FULL STOPhNINETEEN FULL STOPhTWENTY FULL STOPaPAR",
    "ENTHESIZED LATIN SMALL LETTER AbhBbhCbhDbhEbhFbhGbhHbhIbhJbhKbhLbhMbhNbhObhPbhQbhRbhSbhTbhUbh",
    "VbhWbhXbhYbhZaCIRCLED LATIN CAPITAL LETTER AbdBbdCbdDbdEbdFbdGbdHbdIbdJbdKbdLbdMbdNbdObdPbdQb",
    "dRbdSbdTbdUbdVbdWbdXbdYbdZoSMALL LETTER AbbBbbCbbDbbEbbFbbGbbHbbIbbJbbKbbLbbMbbNbbObbPbbQbbRb",
    "bSbbTbbUbbVbbWbbXbbYbbZiDIGIT ZEROaNEGATIVE CIRCLED NUMBER ELEVENyTWELVEzHIRTEENyFOURTEENzIFT",
    "EENySIXTEENzEVENTEENyEIGHTEENyNINETEENyTWENTYaDOUBLE CIRCLED DIGIT ONEvTWOwHREEvFOURwIVEvSIXw",
    "EVENvEIGHTvNINEpNUMBER TENaNEGATIVE CIRCLED DIGIT ZEROaBOX DRAWINGS LIGHT HORIZONTALnHEAVY HO",
    "RIZONTALnLIGHT VERTICALnHEAVY VERTICALnLIGHT TRIPLE DASH HORIZONTALnHEAVY TRIPLE DASH HORIZON",
    "TALnLIGHT TRIPLE DASH VERTICALnHEAVY TRIPLE DASH VERTICALnLIGHT QUADRUPLE DASH HORIZONTALnHEA",
    "VY QUADRUPLE DASH HORIZONTALnLIGHT QUADRUPLE DASH VERTICALnHEAVY QUADRUPLE DASH VERTICALnLIGH",
    "T DOWN AND RIGHTnDOWN LIGHT AND RIGHT HEAVYsHEAVY AND RIGHT LIGHTnHEAVY DOWN AND RIGHTnLIGHT ",
    "DOWN AND LEFTnDOWN LIGHT AND LEFT HEAVYsHEAVY AND LEFT LIGHTnHEAVY DOWN AND LEFTnLIGHT UP AND",
    " RIGHTnUP LIGHT AND RIGHT HEAVYqHEAVY AND RIGHT LIGHTnHEAVY UP AND RIGHTnLIGHT UP AND LEFTnUP",
    " LIGHT AND LEFT HEAVYqHEAVY AND LEFT LIGHTnHEAVY UP AND LEFTnLIGHT VERTICAL AND RIGHTnVERTICA",
    "L LIGHT AND RIGHT HEAVYnUP HEAVY AND RIGHT DOWN LIGHTnDOWN HEAVY AND RIGHT UP LIGHTnVERTICAL ",
    "HEAVY AND RIGHT LIGHTnDOWN LIGHT AND RIGHT UP HEAVYnUP LIGHT AND RIGHT DOWN HEAVYnHEAVY VERTI",
    "CAL AND RIGHTnLIGHT VERTICAL AND LEFTnVERTICAL LIGHT AND LEFT HEAVYnUP HEAVY AND LEFT DOWN LI",
    "GHTnDOWN HEAVY AND LEFT UP LIGHTnVERTICAL HEAVY AND LEFT LIGHTnDOWN LIGHT AND LEFT UP HEAVYnU",
    "P LIGHT AND LEFT DOWN HEAVYnHEAVY VERTICAL AND LEFTnLIGHT DOWN AND HORIZONTALoEFT HEAVY AND R",
    "IGHT DOWN LIGHTnRIGHT HEAVY AND LEFT DOWN LIGHTnDOWN LIGHT AND HORIZONTAL HEAVYsHEAVY AND HOR",
    "IZONTAL LIGHTnRIGHT LIGHT AND LEFT DOWN HEAVYnLEFT LIGHT AND RIGHT DOWN HEAVYnHEAVY DOWN AND ",
    "HORIZONTALnLIGHT UP AND HORIZONTALoEFT HEAVY AND RIGHT UP LIGHTnRIGHT HEAVY AND LEFT UP LIGHT",
    "nUP LIGHT AND HORIZONTAL HEAVYqHEAVY AND HORIZONTAL LIGHTnRIGHT LIGHT AND LEFT UP HEAVYnLEFT ",
    "LIGHT AND RIGHT UP HEAVYnHEAVY UP AND HORIZONTALnLIGHT VERTICAL AND HORIZONTALoEFT HEAVY AND ",
    "RIGHT VERTICAL LIGHTnRIGHT HEAVY AND LEFT VERTICAL LIGHTnVERTICAL LIGHT AND HORIZONTAL HEAVYn",
    "UP HEAVY AND DOWN HORIZONTAL LIGHTnDOWN HEAVY AND UP HORIZONTAL LIGHTnVERTICAL HEAVY AND HORI",
    "ZONTAL LIGHTnLEFT UP HEAVY AND RIGHT DOWN LIGHTnRIGHT UP HEAVY AND LEFT DOWN LIGHTnLEFT DOWN ",
    "HEAVY AND RIGHT UP LIGHTnRIGHT DOWN HEAVY AND LEFT UP LIGHTnDOWN LIGHT AND UP HORIZONTAL HEAV",
    "YnUP LIGHT AND DOWN HORIZONTAL HEAVYnRIGHT LIGHT AND LEFT VERTICAL HEAVYnLEFT LIGHT AND RIGHT",
    " VERTICAL HEAVYnHEAVY VERTICAL AND HORIZONTALnLIGHT DOUBLE DASH HORIZONTALnHEAVY DOUBLE DASH ",
    "HORIZONTALnLIGHT DOUBLE DASH VERTICALnHEAVY DOUBLE DASH VERTICALnDOUBLE HORIZONTALuVERTICALpW",
    "N SINGLE AND RIGHT DOUBLEsDOUBLE AND RIGHT SINGLEpUBLE DOWN AND RIGHTpWN SINGLE AND LEFT DOUB",
    "LEsDOUBLE AND LEFT SINGLEpUBLE DOWN AND LEFTnUP SINGLE AND RIGHT DOUBLEqDOUBLE AND RIGHT SING",
    "LEnDOUBLE UP AND RIGHTnUP SINGLE AND LEFT DOUBLEqDOUBLE AND LEFT SINGLEnDOUBLE UP AND LEFTnVE",
    "RTICAL SINGLE AND RIGHT DOUBLEwDOUBLE AND RIGHT SINGLEnDOUBLE VERTICAL AND RIGHTnVERTICAL SIN",
    "GLE AND LEFT DOUBLEwDOUBLE AND LEFT SINGLEnDOUBLE VERTICAL AND LEFTpWN SINGLE AND HORIZONTAL ",
    "DOUBLEsDOUBLE AND HORIZONTAL SINGLEpUBLE DOWN AND HORIZONTALnUP SINGLE AND HORIZONTAL DOUBLEq",
    "DOUBLE AND HORIZONTAL SINGLEnDOUBLE UP AND HORIZONTALnVERTICAL SINGLE AND HORIZONTAL DOUBLEwD",
    "OUBLE AND HORIZONTAL SINGLEnDOUBLE VERTICAL AND HORIZONTALnLIGHT ARC DOWN AND RIGHTbgLEFTxUP ",
    "AND LEFTbeRIGHTtDIAGONAL UPPER RIGHT TO LOWER LEFTbiLEFT TO LOWER RIGHTbcCROSStLEFTtUPtRIGHTt",
    "DOWNnHEAVY LEFTtUPtRIGHTtDOWNnLIGHT LEFT AND HEAVY RIGHTtUP AND HEAVY DOWNnHEAVY LEFT AND LIG",
    "HT RIGHTtUP AND LIGHT DOWNaUPPER HALF BLOCKaLOWER ONE EIGHTH BLOCKkQUARTER BLOCKgTHREE EIGHTH",
    "S BLOCKgHALF BLOCKgFIVE EIGHTHS BLOCKgTHREE QUARTERS BLOCKgSEVEN EIGHTHS BLOCKaFULL BLOCKaLEF",
    "T SEVEN EIGHTHS BLOCKfTHREE QUARTERS BLOCKfFIVE EIGHTHS BLOCKfHALF BLOCKfTHREE EIGHTHS BLOCKf",
    "ONE QUARTER BLOCKjEIGHTH BLOCKaRIGHT HALF BLOCKaLIGHT SHADEaMEDIUM SHADEaDARK SHADEaUPPER ONE",
    " EIGHTH BLOCKaRIGHT ONE EIGHTH BLOCKaQUADRANT LOWER LEFTpRIGHTjUPPER LEFTt AND LOWER LEFT AND",
    " LOWER RIGHTbeRIGHTyUPPER RIGHT AND LOWER LEFTbuRIGHTpRIGHTu AND LOWER LEFTbj AND LOWER RIGHT",
    "aBLACK SQUAREaWHITE SQUAREm WITH ROUNDED CORNERSnCONTAINING BLACK SMALL SQUAREaSQUARE WITH HO",
    "RIZONTAL FILLmVERTICAL FILLmORTHOGONAL CROSSHATCH FILLmUPPER LEFT TO LOWER RIGHT FILLsRIGHT T",
    "O LOWER LEFT FILLmDIAGONAL CROSSHATCH FILLaBLACK SMALL SQUAREaWHITE SMALL SQUAREaBLACK RECTAN",
    "GLEaWHITE RECTANGLEaBLACK VERTICAL RECTANGLEaWHITE VERTICAL RECTANGLEaBLACK PARALLELOGRAMaWHI",
    "TE PARALLELOGRAMaBLACK UP-POINTING TRIANGLEaWHITE UP-POINTING TRIANGLEaBLACK UP-POINTING SMAL",
    "L TRIANGLEaWHITE UP-POINTING SMALL TRIANGLEaBLACK RIGHT-POINTING TRIANGLEaWHITE RIGHT-POINTIN",
    "G TRIANGLEaBLACK RIGHT-POINTING SMALL TRIANGLEaWHITE RIGHT-POINTING SMALL TRIANGLEaBLACK RIGH",
    "T-POINTING POINTERaWHITE RIGHT-POINTING POINTERaBLACK DOWN-POINTING TRIANGLEaWHITE DOWN-POINT",
    "ING TRIANGLEaBLACK DOWN-POINTING SMALL TRIANGLEaWHITE DOWN-POINTING SMALL TRIANGLEaBLACK LEFT",
    "-POINTING TRIANGLEaWHITE LEFT-POINTING TRIANGLEaBLACK LEFT-POINTING SMALL TRIANGLEaWHITE LEFT",
    "-POINTING SMALL TRIANGLEaBLACK LEFT-POINTING POINTERaWHITE LEFT-POINTING POINTERaBLACK DIAMON",
    "DaWHITE DIAMONDn CONTAINING BLACK SMALL DIAMONDaFISHEYEaLOZENGEaWHITE CIRCLEaDOTTED CIRCLEaCI",
    "RCLE WITH VERTICAL FILLaBULLSEYEbLACK CIRCLEaCIRCLE WITH LEFT HALF BLACKmRIGHT HALF BLACKmLOW",
    "ER HALF BLACKmUPPER HALF BLACKsRIGHT QUADRANT BLACKmALL BUT UPPER LEFT QUADRANT BLACKaLEFT HA",
    "LF BLACK CIRCLEaRIGHT HALF BLACK CIRCLEaINVERSE BULLETiWHITE CIRCLEaUPPER HALF INVERSE WHITE ",
    "CIRCLEaLOWER HALF INVERSE WHITE CIRCLEaUPPER LEFT QUADRANT CIRCULAR ARCgRIGHT QUADRANT CIRCUL",
    "AR ARCaLOWER RIGHT QUADRANT CIRCULAR ARCgLEFT QUADRANT CIRCULAR ARCaUPPER HALF CIRCLEaLOWER H",
    "ALF CIRCLEaBLACK LOWER RIGHT TRIANGLEmLEFT TRIANGLEgUPPER LEFT TRIANGLEmRIGHT TRIANGLEaWHITE ",
    "BULLETaSQUARE WITH LEFT HALF BLACKmRIGHT HALF BLACKmUPPER LEFT DIAGONAL HALF BLACKmLOWER RIGH",
    "T DIAGONAL HALF BLACKaWHITE SQUARE WITH VERTICAL BISECTING LINEgUP-POINTING TRIANGLE WITH DOT",
    "aUP-POINTING TRIANGLE WITH LEFT HALF BLACKbaRIGHT HALF BLACKaLARGE CIRCLEaWHITE SQUARE WITH U",
    "PPER LEFT QUADRANTsLOWER LEFT QUADRANTyRIGHT QUADRANTsUPPER RIGHT QUADRANTgCIRCLE WITH UPPER ",
    "LEFT QUADRANTsLOWER LEFT QUADRANTyRIGHT QUADRANTsUPPER RIGHT QUADRANTaUPPER LEFT TRIANGLEgRIG",
    "HT TRIANGLEaLOWER LEFT TRIANGLEaWHITE MEDIUM SQUAREaBLACK MEDIUM SQUAREaWHITE MEDIUM SMALL SQ",
    "UAREaBLACK MEDIUM SMALL SQUAREaLOWER RIGHT TRIANGLEaBLACK SUN WITH RAYSaCLOUDaUMBRELLAaSNOWMA",
    "NaCOMETaBLACK STARaWHITE STARaLIGHTNINGaTHUNDERSTORMaSUNaASCENDING NODEaDESCENDING NODEaCONJU",
    "NCTIONaOPPOSITIONaBLACK TELEPHONEaWHITE TELEPHONEaBALLOT BOXk WITH CHECKqXaSALTIREaUMBRELLA W",
    "ITH RAIN DROPSaHOT BEVERAGEaWHITE SHOGI PIECEaBLACK SHOGI PIECEaSHAMROCKaREVERSED ROTATED FLO",
    "RAL HEART BULLETaBLACK LEFT POINTING INDEXgRIGHT POINTING INDEXaWHITE LEFT POINTING INDEXgUP ",
    "POINTING INDEXgRIGHT POINTING INDEXgDOWN POINTING INDEXaSKULL AND CROSSBONESaCAUTION SIGNaRAD",
    "IOACTIVE SIGNaBIOHAZARD SIGNaCADUCEUSaANKHaORTHODOX CROSSaCHI RHObROSS OF LORRAINEjJERUSALEMa",
    "STAR AND CRESCENTaFARSI SYMBOLaADI SHAKTIaHAMMER AND SICKLEaPEACE SYMBOLaYIN YANGaTRIGRAM FOR",
    " HEAVENmLAKEmFIREmTHUNDERmWINDnATERmMOUNTAINmEARTHaWHEEL OF DHARMAcITE FROWNING FACEgSMILING ",
    "FACEaBLACK SMILING FACEaWHITE SUN WITH RAYSaFIRST QUARTER MOONaLAST QUARTER MOONaMERCURYaFEMA",
    "LE SIGNaEARTHaMALE SIGNaJUPITERaSATURNaURANUSaNEPTUNEaPLUTOaARIESaTAURUSaGEMINIaCANCERaLEOaVI",
    "RGOaLIBRAaSCORPIUSbAGITTARIUSaCAPRICORNaAQUARIUSaPISCESaWHITE CHESS KINGmQUEENmROOKmBISHOPmKN",
    "IGHTmPAWNaBLACK CHESS KINGmQUEENmROOKmBISHOPmKNIGHTmPAWNgSPADE SUITaWHITE HEART SUITgDIAMOND ",
    "SUITaBLACK CLUB SUITaWHITE SPADE SUITaBLACK HEART SUITgDIAMOND SUITaWHITE CLUB SUITaHOT SPRIN",
    "GSaQUARTER NOTEaEIGHTH NOTEaBEAMED EIGHTH NOTEShSIXTEENTH NOTESaMUSIC FLAT SIGNgNATURAL SIGNg",
    "SHARP SIGNaWEST SYRIAC CROSSaEAST SYRIAC CROSSaUNIVERSAL RECYCLING SYMBOLaRECYCLING SYMBOL FO",
    "R TYPE-1 PLASTICSba2 PLASTICSba3 PLASTICSba4 PLASTICSba5 PLASTICSba6 PLASTICSba7 PLASTICSvGEN",
    "ERIC MATERIALSaBLACK UNIVERSAL RECYCLING SYMBOLaRECYCLED PAPER SYMBOLaPARTIALLY-RECYCLED PAPE",
    "R SYMBOLbERMANENT PAPER SIGNaWHEELCHAIR SYMBOLaDIE FACE-1j2j3j4j5j6aWHITE CIRCLE WITH DOT RIG",
    "HTsTWO DOTSaBLACK CIRCLE WITH WHITE DOT RIGHTsTWO WHITE DOTSaMONOGRAM FOR YANGoINaDIGRAM FOR ",
    "GREATER YANGlLESSER YINtANGlGREATER YINaWHITE FLAGaBLACK FLAGaHAMMER AND PICKaANCHORaCROSSED ",
    "SWORDSaSTAFF OF AESCULAPIUSbCALESaALEMBICaFLOWERaGEARaSTAFF OF HERMESaATOM SYMBOLaFLEUR-DE-LI",
    "SaOUTLINED WHITE STARaTHREE LINES CONVERGING RIGHTxLEFTaWARNING SIGNaHIGH VOLTAGE SIGNaDOUBLE",
    "D FEMALE SIGNiMALE SIGNaINTERLOCKED FEMALE AND MALE SIGNaMALE AND FEMALE SIGNfWITH STROKE SIG",
    "NrAND MALE AND FEMALE SIGNaVERTICAL MALE WITH STROKE SIGNaHORIZONTAL MALE WITH STROKE SIGNaME",
    "DIUM WHITE CIRCLEhBLACK CIRCLEhSMALL WHITE CIRCLEbARRIAGE SYMBOLaDIVORCE SYMBOLaUNMARRIED PAR",
    "TNERSHIP SYMBOLaCOFFINaFUNERAL URNaNEUTERaCERESaPALLASaJUNOaVESTAaCHIRONaBLACK MOON LILITHaSE",
    "XTILEcMISEXTILEaQUINCUNXaSESQUIQUADRATEbOCCER BALLaBASEBALLaSQUARED KEYaWHITE DRAUGHTS MANpKI",
    "NGaBLACK DRAUGHTS MANpKINGaSNOWMAN WITHOUT SNOWbUN BEHIND CLOUDaRAINaBLACK SNOWMANaTHUNDER CL",
    "OUD AND RAINbURNED WHITE SHOGI PIECEhBLACK SHOGI PIECEaWHITE DIAMOND IN SQUAREaCROSSING LANES",
    "aDISABLED CARaOPHIUCHUSaPICKaCAR SLIDINGaHELMET WITH WHITE CROSSaCIRCLED CROSSING LANESbHAINS",
    "aNO ENTRYaALTERNATE ONE-WAY LEFT WAY TRAFFICaBLACK TWO-WAY LEFT WAY TRAFFICaWHITE TWO-WAY LEF",
    "T WAY TRAFFICaBLACK LEFT LANE MERGEaWHITE LEFT LANE MERGEaDRIVE SLOW SIGNaHEAVY WHITE DOWN-PO",
    "INTING TRIANGLEaLEFT CLOSED ENTRYaSQUARED SALTIREaFALLING DIAGONAL IN WHITE CIRCLE IN BLACK S",
    "QUAREaBLACK TRUCKaRESTRICTED LEFT ENTRY-1w2aASTRONOMICAL SYMBOL FOR URANUSaHEAVY CIRCLE WITH ",
    "STROKE AND TWO DOTS ABOVEaPENTAGRAMaRIGHT-HANDED INTERLACED PENTAGRAMaLEFT-HANDED INTERLACED ",
    "PENTAGRAMaINVERTED PENTAGRAMaBLACK CROSS ON SHIELDaSHINTO SHRINEaCHURCHbASTLEaHISTORIC SITEaG",
    "EAR WITHOUT HUBj HANDLESaMAP SYMBOL FOR LIGHTHOUSEbOUNTAINaUMBRELLA ON GROUNDaFOUNTAINbLAG IN",
    " HOLEbERRYaSAILBOATbQUARE FOUR CORNERSbKIERaICE SKATEaPERSON WITH BALLaTENTaJAPANESE BANK SYM",
    "BOLaHEADSTONE GRAVEYARD SYMBOLaFUEL PUMPaCUP ON BLACK SQUAREaWHITE FLAG WITH HORIZONTAL MIDDL",
    "E BLACK STRIPEaBLACK SAFETY SCISSORSaUPPER BLADE SCISSORSaBLACK SCISSORSaLOWER BLADE SCISSORS",
    "aWHITE SCISSORSgHEAVY CHECK MARKaTELEPHONE LOCATION SIGNbAPE DRIVEaAIRPLANEaENVELOPEaRAISED F",
    "ISThHANDaVICTORY HANDaWRITING HANDaLOWER RIGHT PENCILaPENCILaUPPER RIGHT PENCILaWHITE NIBaBLA",
    "CK NIBaCHECK MARKaHEAVY CHECK MARKaMULTIPLICATION XaHEAVY MULTIPLICATION XaBALLOT XaHEAVY BAL",
    "LOT XaOUTLINED GREEK CROSSaHEAVY GREEK CROSSaOPEN CENTRE CROSSaHEAVY OPEN CENTRE CROSSaLATIN ",
    "CROSSaSHADOWED WHITE LATIN CROSSaOUTLINED LATIN CROSSaMALTESE CROSSaSTAR OF DAVIDaFOUR TEARDR",
    "OP-SPOKED ASTERISKfBALLOON-SPOKED ASTERISKaHEAVY FOUR BALLOON-SPOKED ASTERISKaFOUR CLUB-SPOKE",
    "D ASTERISKaBLACK FOUR POINTED STARaWHITE FOUR POINTED STARaSPARKLESbTRESS OUTLINED WHITE STAR",
    "aCIRCLED WHITE STARaOPEN CENTRE BLACK STARaBLACK CENTRE WHITE STARaOUTLINED BLACK STARaHEAVY ",
    "OUTLINED BLACK STARaPINWHEEL STARaSHADOWED WHITE STARaHEAVY ASTERISKaOPEN CENTRE ASTERISKaEIG",
    "HT SPOKED ASTERISKgPOINTED BLACK STARoPINWHEEL STARaSIX POINTED BLACK STARaEIGHT POINTED RECT",
    "ILINEAR BLACK STARaHEAVY EIGHT POINTED RECTILINEAR BLACK STARaTWELVE POINTED BLACK STARaSIXTE",
    "EN POINTED ASTERISKaTEARDROP-SPOKED ASTERISKaOPEN CENTRE TEARDROP-SPOKED ASTERISKaHEAVY TEARD",
    "ROP-SPOKED ASTERISKaSIX PETALLED BLACK AND WHITE FLORETTEaBLACK FLORETTEaWHITE FLORETTEaEIGHT",
    " PETALLED OUTLINED BLACK FLORETTEaCIRCLED OPEN CENTRE EIGHT POINTED STARaHEAVY TEARDROP-SPOKE",
    "D PINWHEEL ASTERISKaSNOWFLAKEaTIGHT TRIFOLIATE SNOWFLAKEaHEAVY CHEVRON SNOWFLAKEaSPARKLEaHEAV",
    "Y SPARKLEaBALLOON-SPOKED ASTERISKaEIGHT TEARDROP-SPOKED PROPELLER ASTERISKaHEAVY EIGHT TEARDR",
    "OP-SPOKED PROPELLER ASTERISKaCROSS MARKaSHADOWED WHITE CIRCLEaNEGATIVE SQUARED CROSS MARKaLOW",
    "ER RIGHT DROP-SHADOWED WHITE SQUAREaUPPER RIGHT DROP-SHADOWED WHITE SQUAREaLOWER RIGHT SHADOW",
    "ED WHITE SQUAREaUPPER RIGHT SHADOWED WHITE SQUAREaBLACK QUESTION MARK ORNAMENTaWHITE QUESTION",
    " MARK ORNAMENTgEXCLAMATION MARK ORNAMENTaBLACK DIAMOND MINUS WHITE XaHEAVY EXCLAMATION MARK S",
    "YMBOLaLIGHT VERTICAL BARaMEDIUM VERTICAL BARaHEAVY VERTICAL BARgSINGLE TURNED COMMA QUOTATION",
    " MARK ORNAMENTnCOMMA QUOTATION MARK ORNAMENTgDOUBLE TURNED COMMA QUOTATION MARK ORNAMENTnCOMM",
    "A QUOTATION MARK ORNAMENTgLOW SINGLE COMMA QUOTATION MARK ORNAMENTkDOUBLE COMMA QUOTATION MAR",
    "K ORNAMENTaCURVED STEM PARAGRAPH SIGN ORNAMENTaHEAVY EXCLAMATION MARK ORNAMENTgHEART EXCLAMAT",
    "ION MARK ORNAMENTgBLACK HEARTaROTATED HEAVY BLACK HEART BULLETaFLORAL HEARTaROTATED FLORAL HE",
    "ART BULLETaMEDIUM LEFT PARENTHESIS ORNAMENThRIGHT PARENTHESIS ORNAMENThFLATTENED LEFT PARENTH",
    "ESIS ORNAMENTrRIGHT PARENTHESIS ORNAMENThLEFT-POINTING ANGLE BRACKET ORNAMENThRIGHT-POINTING ",
    "ANGLE BRACKET ORNAMENTaHEAVY LEFT-POINTING ANGLE QUOTATION MARK ORNAMENTgRIGHT-POINTING ANGLE",
    " QUOTATION MARK ORNAMENTgLEFT-POINTING ANGLE BRACKET ORNAMENTgRIGHT-POINTING ANGLE BRACKET OR",
    "NAMENTaLIGHT LEFT TORTOISE SHELL BRACKET ORNAMENTgRIGHT TORTOISE SHELL BRACKET ORNAMENTaMEDIU",
    "M LEFT CURLY BRACKET ORNAMENThRIGHT CURLY BRACKET ORNAMENTaDINGBAT NEGATIVE CIRCLED DIGIT ONE",
    "bfTWObgHREEbfFOURbgIVEbfSIXbgEVENbfEIGHTbfNINEzNUMBER TENiCIRCLED SANS-SERIF DIGIT ONEbhTWObi",
    "HREEbhFOURbiIVEbhSIXbiEVENbhEIGHTbhNINEbbNUMBER TENiNEGATIVE CIRCLED SANS-SERIF DIGIT ONEbqTW",
    "ObrHREEbqFOURbrIVEbqSIXbrEVENbqEIGHTbqNINEbkNUMBER TENaHEAVY WIDE-HEADED RIGHTWARDS ARROWgPLU",
    "S SIGNgMINUS SIGNgDIVISION SIGNgSOUTH EAST ARROWgRIGHTWARDS ARROWgNORTH EAST ARROWaDRAFTING P",
    "OINT RIGHTWARDS ARROWaHEAVY ROUND-TIPPED RIGHTWARDS ARROWaTRIANGLE-HEADED RIGHTWARDS ARROWaHE",
    "AVY TRIANGLE-HEADED RIGHTWARDS ARROWaDASHED TRIANGLE-HEADED RIGHTWARDS ARROWaHEAVY DASHED TRI",
    "ANGLE-HEADED RIGHTWARDS ARROWaBLACK RIGHTWARDS ARROWaTHREE-D TOP-LIGHTED RIGHTWARDS ARROWHEAD",
    "iBOTTOM-LIGHTED RIGHTWARDS ARROWHEADaBLACK RIGHTWARDS ARROWHEADaHEAVY BLACK CURVED DOWNWARDS ",
    "AND RIGHTWARDS ARROWtUPWARDS AND RIGHTWARDS ARROWaSQUAT BLACK RIGHTWARDS ARROWaHEAVY CONCAVE-",
    "POINTED BLACK RIGHTWARDS ARROWaRIGHT-SHADED WHITE RIGHTWARDS ARROWaLEFT-SHADED WHITE RIGHTWAR",
    "DS ARROWaBACK-TILTED SHADOWED WHITE RIGHTWARDS ARROWaFRONT-TILTED SHADOWED WHITE RIGHTWARDS A",
    "RROWaHEAVY LOWER RIGHT-SHADOWED WHITE RIGHTWARDS ARROWgUPPER RIGHT-SHADOWED WHITE RIGHTWARDS ",
    "ARROWaNOTCHED LOWER RIGHT-SHADOWED WHITE RIGHTWARDS ARROWaCURLY LOOPaNOTCHED UPPER RIGHT-SHAD",
    "OWED WHITE RIGHTWARDS ARROWaCIRCLED HEAVY WHITE RIGHTWARDS ARROWaWHITE-FEATHERED RIGHTWARDS A",
    "RROWaBLACK-FEATHERED SOUTH EAST ARROWqRIGHTWARDS ARROWqNORTH EAST ARROWaHEAVY BLACK-FEATHERED",
    " SOUTH EAST ARROWwRIGHTWARDS ARROWwNORTH EAST ARROWaTEARDROP-BARBED RIGHTWARDS ARROWaHEAVY TE",
    "ARDROP-SHANKED RIGHTWARDS ARROWaWEDGE-TAILED RIGHTWARDS ARROWaHEAVY WEDGE-TAILED RIGHTWARDS A",
    "RROWaOPEN-OUTLINED RIGHTWARDS ARROWaDOUBLE CURLY LOOPaTHREE DIMENSIONAL ANGLEaWHITE TRIANGLE ",
    "CONTAINING SMALL WHITE TRIANGLEaPERPENDICULARaOPEN SUBSEThPERSETaLEFT S-SHAPED BAG DELIMITERa",
    "RIGHT S-SHAPED BAG DELIMITERaOR WITH DOT INSIDEaREVERSE SOLIDUS PRECEDING SUBSETaSUPERSET PRE",
    "CEDING SOLIDUSaVERTICAL BAR WITH HORIZONTAL STROKEaMATHEMATICAL RISING DIAGONALaLONG DIVISION",
    "aMATHEMATICAL FALLING DIAGONALaSQUARED LOGICAL ANDqORaWHITE DIAMOND WITH CENTRED DOTaAND WITH",
    " DOTaELEMENT OF OPENING UPWARDSaLOWER RIGHT CORNER WITH DOTaUPPER LEFT CORNER WITH DOTaLEFT O",
    "UTER JOINaRIGHT OUTER JOINaFULL OUTER JOINaLARGE UP TACKgDOWN TACKbEFT AND RIGHT DOUBLE TURNS",
    "TILEpTACKfMULTIMAPbONG RIGHT TACKfLEFT TACKaUP TACK WITH CIRCLE ABOVEaLOZENGE DIVIDED BY HORI",
    "ZONTAL RULEaWHITE CONCAVE-SIDED DIAMONDbb WITH LEFTWARDS TICKbhRIGHTWARDS TICKgSQUARE WITH LE",
    "FTWARDS TICKsRIGHTWARDS TICKaMATHEMATICAL LEFT WHITE SQUARE BRACKETnRIGHT WHITE SQUARE BRACKE",
    "TnLEFT ANGLE BRACKETnRIGHT ANGLE BRACKETnLEFT DOUBLE ANGLE BRACKETnRIGHT DOUBLE ANGLE BRACKET",
    "nLEFT WHITE TORTOISE SHELL BRACKETnRIGHT WHITE TORTOISE SHELL BRACKETnLEFT FLATTENED PARENTHE",
    "SISnRIGHT FLATTENED PARENTHESISaUPWARDS QUADRUPLE ARROWaDOWNWARDS QUADRUPLE ARROWaANTICLOCKWI",
    "SE GAPPED CIRCLE ARROWaCLOCKWISE GAPPED CIRCLE ARROWaRIGHT ARROW WITH CIRCLED PLUSaLONG LEFTW",
    "ARDS ARROWfRIGHTWARDS ARROWfLEFT RIGHT ARROWjWARDS DOUBLE ARROWfRIGHTWARDS DOUBLE ARROWfLEFT ",
    "RIGHT DOUBLE ARROWjWARDS ARROW FROM BARfRIGHTWARDS ARROW FROM BARfLEFTWARDS DOUBLE ARROW FROM",
    " BARfRIGHTWARDS DOUBLE ARROW FROM BARqSQUIGGLE ARROWaBRAILLE PATTERN BLANKqDOTS-1v2v12v3v13v2",
    "3v123v4v14v24v124v34v134v234v1234v5v15v25v125v35v135v235v1235v45v145v245v1245v345v1345v2345v1",
    "2345v6v16v26v126v36v136v236v1236v46v146v246v1246v346v1346v2346v12346v56v156v256v1256v356v1356",
    "v2356v12356v456v1456v2456v12456v3456v13456v23456v123456v7v17v27v127v37v137v237v1237v47v147v24",
    "7v1247v347v1347v2347v12347v57v157v257v1257v357v1357v2357v12357v457v1457v2457v12457v3457v13457",
    "v23457v123457v67v167v267v1267v367v1367v2367v12367v467v1467v2467v12467v3467v13467v23467v123467",
    "v567v1567v2567v12567v3567v13567v23567v123567v4567v14567v24567v124567v34567v134567v234567v1234",
    "567v8v18v28v128v38v138v238v1238v48v148v248v1248v348v1348v2348v12348v58v158v258v1258v358v1358v",
    "2358v12358v458v1458v2458v12458v3458v13458v23458v123458v68v168v268v1268v368v1368v2368v12368v46",
    "8v1468v2468v12468v3468v13468v23468v123468v568v1568v2568v12568v3568v13568v23568v123568v4568v14",
    "568v24568v124568v34568v134568v234568v1234568v78v178v278v1278v378v1378v2378v12378v478v1478v247",
    "8v12478v3478v13478v23478v123478v578v1578v2578v12578v3578v13578v23578v123578v4578v14578v24578v",
    "124578v34578v134578v234578v1234578v678v1678v2678v12678v3678v13678v23678v123678v4678v14678v246",
    "78v124678v34678v134678v234678v1234678v5678v15678v25678v125678v35678v135678v235678v1235678v456",
    "78v145678v245678v1245678v345678v1345678v2345678v12345678aRIGHTWARDS TWO-HEADED ARROW WITH VER",
    "TICAL STROKEbhDOUBLE VERTICAL STROKEaLEFTWARDS DOUBLE ARROW WITH VERTICAL STROKEaRIGHTWARDS D",
    "OUBLE ARROW WITH VERTICAL STROKEaLEFT RIGHT DOUBLE ARROW WITH VERTICAL STROKEaRIGHTWARDS TWO-",
    "HEADED ARROW FROM BARaLEFTWARDS DOUBLE ARROW FROM BARaRIGHTWARDS DOUBLE ARROW FROM BARaDOWNWA",
    "RDS ARROW WITH HORIZONTAL STROKEaUPWARDS ARROW WITH HORIZONTAL STROKEiTRIPLE ARROWaDOWNWARDS ",
    "TRIPLE ARROWaLEFTWARDS DOUBLE DASH ARROWaRIGHTWARDS DOUBLE DASH ARROWaLEFTWARDS TRIPLE DASH A",
    "RROWaRIGHTWARDS TRIPLE DASH ARROWmWO-HEADED TRIPLE DASH ARROWlARROW WITH DOTTED STEMaUPWARDS ",
    "ARROW TO BARaDOWNWARDS ARROW TO BARaRIGHTWARDS ARROW WITH TAIL WITH VERTICAL STROKEbgDOUBLE V",
    "ERTICAL STROKElTWO-HEADED ARROW WITH TAILbl WITH VERTICAL STROKEbrDOUBLE VERTICAL STROKEaLEFT",
    "WARDS ARROW-TAILaRIGHTWARDS ARROW-TAILaLEFTWARDS DOUBLE ARROW-TAILaRIGHTWARDS DOUBLE ARROW-TA",
    "ILaLEFTWARDS ARROW TO BLACK DIAMONDaRIGHTWARDS ARROW TO BLACK DIAMONDaLEFTWARDS ARROW FROM BA",
    "R TO BLACK DIAMONDaRIGHTWARDS ARROW FROM BAR TO BLACK DIAMONDaNORTH WEST AND SOUTH EAST ARROW",
    "gEAST AND SOUTH WEST ARROWgWEST ARROW WITH HOOKgEAST ARROW WITH HOOKaSOUTH EAST ARROW WITH HO",
    "OKgWEST ARROW WITH HOOKaNORTH WEST ARROW AND NORTH EAST ARROWgEAST ARROW AND SOUTH EAST ARROW",
    "aSOUTH EAST ARROW AND SOUTH WEST ARROWgWEST ARROW AND NORTH WEST ARROWaRISING DIAGONAL CROSSI",
    "NG FALLING DIAGONALaFALLING DIAGONAL CROSSING RISING DIAGONALaSOUTH EAST ARROW CROSSING NORTH",
    " EAST ARROWaNORTH EAST ARROW CROSSING SOUTH EAST ARROWaFALLING DIAGONAL CROSSING NORTH EAST A",
    "RROWaRISING DIAGONAL CROSSING SOUTH EAST ARROWaNORTH EAST ARROW CROSSING NORTH WEST ARROWgWES",
    "T ARROW CROSSING NORTH EAST ARROWaWAVE ARROW POINTING DIRECTLY RIGHTaARROW POINTING RIGHTWARD",
    "S THEN CURVING UPWARDSbnDOWNWARDSpDOWNWARDS THEN CURVING LEFTWARDSbmRIGHTWARDSaRIGHT-SIDE ARC",
    " CLOCKWISE ARROWaLEFT-SIDE ARC ANTICLOCKWISE ARROWaTOP ARC ANTICLOCKWISE ARROWaBOTTOM ARC ANT",
    "ICLOCKWISE ARROWaTOP ARC CLOCKWISE ARROW WITH MINUSiANTICLOCKWISE ARROW WITH PLUSaLOWER RIGHT",
    " SEMICIRCULAR CLOCKWISE ARROWgLEFT SEMICIRCULAR ANTICLOCKWISE ARROWaANTICLOCKWISE CLOSED CIRC",
    "LE ARROWaCLOCKWISE CLOSED CIRCLE ARROWaRIGHTWARDS ARROW ABOVE SHORT LEFTWARDS ARROWaLEFTWARDS",
    " ARROW ABOVE SHORT RIGHTWARDS ARROWaSHORT RIGHTWARDS ARROW ABOVE LEFTWARDS ARROWaRIGHTWARDS A",
    "RROW WITH PLUS BELOWaLEFTWARDS ARROW WITH PLUS BELOWaRIGHTWARDS ARROW THROUGH XaLEFT RIGHT AR",
    "ROW THROUGH SMALL CIRCLEaUPWARDS TWO-HEADED ARROW FROM SMALL CIRCLEaLEFT BARB UP RIGHT BARB D",
    "OWN HARPOONkDOWN RIGHT BARB UP HARPOONaUP BARB RIGHT DOWN BARB LEFT HARPOONiLEFT DOWN BARB RI",
    "GHT HARPOONaLEFT BARB UP RIGHT BARB UP HARPOONaUP BARB RIGHT DOWN BARB RIGHT HARPOONaLEFT BAR",
    "B DOWN RIGHT BARB DOWN HARPOONaUP BARB LEFT DOWN BARB LEFT HARPOONaLEFTWARDS HARPOON WITH BAR",
    "B UP TO BARaRIGHTWARDS HARPOON WITH BARB UP TO BARaUPWARDS HARPOON WITH BARB RIGHT TO BARaDOW",
    "NWARDS HARPOON WITH BARB RIGHT TO BARaLEFTWARDS HARPOON WITH BARB DOWN TO BARaRIGHTWARDS HARP",
    "OON WITH BARB DOWN TO BARaUPWARDS HARPOON WITH BARB LEFT TO BARaDOWNWARDS HARPOON WITH BARB L",
    "EFT TO BARaLEFTWARDS HARPOON WITH BARB UP FROM BARaRIGHTWARDS HARPOON WITH BARB UP FROM BARaU",
    "PWARDS HARPOON WITH BARB RIGHT FROM BARaDOWNWARDS HARPOON WITH BARB RIGHT FROM BARaLEFTWARDS ",
    "HARPOON WITH BARB DOWN FROM BARaRIGHTWARDS HARPOON WITH BARB DOWN FROM BARaUPWARDS HARPOON WI",
    "TH BARB LEFT FROM BARaDOWNWARDS HARPOON WITH BARB LEFT FROM BARaLEFTWARDS HARPOON WITH BARB U",
    "P ABOVE LEFTWARDS HARPOON WITH BARB DOWNaUPWARDS HARPOON WITH BARB LEFT BESIDE UPWARDS HARPOO",
    "N WITH BARB RIGHTaRIGHTWARDS HARPOON WITH BARB UP ABOVE RIGHTWARDS HARPOON WITH BARB DOWNaDOW",
    "NWARDS HARPOON WITH BARB LEFT BESIDE DOWNWARDS HARPOON WITH BARB RIGHTaLEFTWARDS HARPOON WITH",
    " BARB UP ABOVE RIGHTWARDS HARPOON WITH BARB UPbcDOWN ABOVE RIGHTWARDS HARPOON WITH BARB DOWNa",
    "RIGHTWARDS HARPOON WITH BARB UP ABOVE LEFTWARDS HARPOON WITH BARB UPbdDOWN ABOVE LEFTWARDS HA",
    "RPOON WITH BARB DOWNaLEFTWARDS HARPOON WITH BARB UP ABOVE LONG DASHbcDOWN BELOW LONG DASHaRIG",
    "HTWARDS HARPOON WITH BARB UP ABOVE LONG DASHbdDOWN BELOW LONG DASHaUPWARDS HARPOON WITH BARB ",
    "LEFT BESIDE DOWNWARDS HARPOON WITH BARB RIGHTaDOWNWARDS HARPOON WITH BARB LEFT BESIDE UPWARDS",
    " HARPOON WITH BARB RIGHTaRIGHT DOUBLE ARROW WITH ROUNDED HEADaEQUALS SIGN ABOVE RIGHTWARDS AR",
    "ROWaTILDE OPERATOR ABOVE RIGHTWARDS ARROWaLEFTWARDS ARROW ABOVE TILDE OPERATORaRIGHTWARDS ARR",
    "OW ABOVE TILDE OPERATORxALMOST EQUAL TOaLESS-THAN ABOVE LEFTWARDS ARROWcFTWARDS ARROW THROUGH",
    " LESS-THANaGREATER-THAN ABOVE RIGHTWARDS ARROWaSUBSET ABOVE RIGHTWARDS ARROWaLEFTWARDS ARROW ",
    "THROUGH SUBSETaSUPERSET ABOVE LEFTWARDS ARROWaLEFT FISH TAILaRIGHT FISH TAILaUP FISH TAILaDOW",
    "N FISH TAILaTRIPLE VERTICAL BAR DELIMITERaZ NOTATION SPOTlTYPE COLONaLEFT WHITE CURLY BRACKET",
    "aRIGHT WHITE CURLY BRACKETaLEFT WHITE PARENTHESISaRIGHT WHITE PARENTHESISaZ NOTATION LEFT IMA",
    "GE BRACKETlRIGHT IMAGE BRACKETlLEFT BINDING BRACKETlRIGHT BINDING BRACKETaLEFT SQUARE BRACKET",
    " WITH UNDERBARaRIGHT SQUARE BRACKET WITH UNDERBARaLEFT SQUARE BRACKET WITH TICK IN TOP CORNER",
    "aRIGHT SQUARE BRACKET WITH TICK IN BOTTOM CORNERaLEFT SQUARE BRACKET WITH TICK IN BOTTOM CORN",
    "ERaRIGHT SQUARE BRACKET WITH TICK IN TOP CORNERaLEFT ANGLE BRACKET WITH DOTaRIGHT ANGLE BRACK",
    "ET WITH DOTaLEFT ARC LESS-THAN BRACKETaRIGHT ARC GREATER-THAN BRACKETaDOUBLE LEFT ARC GREATER",
    "-THAN BRACKEThRIGHT ARC LESS-THAN BRACKETaLEFT BLACK TORTOISE SHELL BRACKETaRIGHT BLACK TORTO",
    "ISE SHELL BRACKETaDOTTED FENCEaVERTICAL ZIGZAG LINEaMEASURED ANGLE OPENING LEFTaRIGHT ANGLE V",
    "ARIANT WITH SQUAREaMEASURED RIGHT ANGLE WITH DOTaANGLE WITH S INSIDEbCUTE ANGLEaSPHERICAL ANG",
    "LE OPENING LEFTyUPaTURNED ANGLEaREVERSED ANGLEaANGLE WITH UNDERBARaREVERSED ANGLE WITH UNDERB",
    "ARaOBLIQUE ANGLE OPENING UPwDOWNaMEASURED ANGLE WITH OPEN ARM ENDING IN ARROW POINTING UP AND",
    " RIGHTcjLEFTccDOWN AND RIGHTclLEFTccRIGHT AND UPccLEFT AND UPccRIGHT AND DOWNccLEFT AND DOWNa",
    "REVERSED EMPTY SETaEMPTY SET WITH OVERBARpSMALL CIRCLE ABOVEpRIGHT ARROW ABOVEpLEFT ARROW ABO",
    "VEaCIRCLE WITH HORIZONTAL BARgD VERTICAL BARiPARALLELiREVERSE SOLIDUSiPERPENDICULARg DIVIDED ",
    "BY HORIZONTAL BAR AND TOP HALF DIVIDED BY VERTICAL BARhWITH SUPERIMPOSED XgD ANTICLOCKWISE-RO",
    "TATED DIVISION SIGNaUP ARROW THROUGH CIRCLEaCIRCLED WHITE BULLETiBULLETiLESS-THANiGREATER-THA",
    "Ng WITH SMALL CIRCLE TO THE RIGHTmTWO HORIZONTAL STROKES TO THE RIGHTaSQUARED RISING DIAGONAL",
    " SLASHiFALLING DIAGONAL SLASHiASTERISKiSMALL CIRCLEjQUAREaTWO JOINED SQUARESbRIANGLE WITH DOT",
    " ABOVEoUNDERBARaS IN TRIANGLEaTRIANGLE WITH SERIFS AT BOTTOMaRIGHT TRIANGLE ABOVE LEFT TRIANG",
    "LEaLEFT TRIANGLE BESIDE VERTICAL BARaVERTICAL BAR BESIDE RIGHT TRIANGLEaBOWTIE WITH LEFT HALF",
    " BLACKmRIGHT HALF BLACKbLACK BOWTIEaTIMES WITH LEFT HALF BLACKlRIGHT HALF BLACKaWHITE HOURGLA",
    "SSaBLACK HOURGLASSaLEFT WIGGLY FENCEaRIGHT WIGGLY FENCEaLEFT DOUBLE WIGGLY FENCEaRIGHT DOUBLE",
    " WIGGLY FENCEaINCOMPLETE INFINITYaTIE OVER INFINITYaINFINITY NEGATED WITH VERTICAL BARaDOUBLE",
    "-ENDED MULTIMAPaSQUARE WITH CONTOURED OUTLINEaINCREASES ASaSHUFFLE PRODUCTaEQUALS SIGN AND SL",
    "ANTED PARALLELbg WITH TILDE ABOVEaIDENTICAL TO AND SLANTED PARALLELaGLEICH STARKaTHERMODYNAMI",
    "CaDOWN-POINTING TRIANGLE WITH LEFT HALF BLACKbcRIGHT HALF BLACKaBLACK DIAMOND WITH DOWN ARROW",
    "gLOZENGEaWHITE CIRCLE WITH DOWN ARROWaBLACK CIRCLE WITH DOWN ARROWaERROR-BARRED WHITE SQUAREn",
    "BLACK SQUAREnWHITE DIAMONDnBLACK DIAMONDnWHITE CIRCLEnBLACK CIRCLEaRULE-DELAYEDbEVERSE SOLIDU",
    "S OPERATORaSOLIDUS WITH OVERBARaREVERSE SOLIDUS WITH HORIZONTAL STROKEaBIG SOLIDUSeREVERSE SO",
    "LIDUSaDOUBLE PLUSaTRIPLE PLUSaLEFT-POINTING CURVED ANGLE BRACKETaRIGHT-POINTING CURVED ANGLE ",
    "BRACKETaTINYaMINYaN-ARY CIRCLED DOT OPERATORoPLUS OPERATORoTIMES OPERATORgUNION OPERATOR WITH",
    " DOTbaPLUSgSQUARE INTERSECTION OPERATORnUNION OPERATORaTWO LOGICAL AND OPERATORmOR OPERATORaN",
    "-ARY TIMES OPERATORaMODULO TWO SUMaSUMMATION WITH INTEGRALaQUADRUPLE INTEGRAL OPERATORaFINITE",
    " PART INTEGRALaINTEGRAL WITH DOUBLE STROKEjAVERAGE WITH SLASHaCIRCULATION FUNCTIONaANTICLOCKW",
    "ISE INTEGRATIONaLINE INTEGRATION WITH RECTANGULAR PATH AROUND POLEwSEMICIRCULAR PATH AROUND P",
    "OLErNOT INCLUDING THE POLEaINTEGRAL AROUND A POINT OPERATORaQUATERNION INTEGRAL OPERATORaINTE",
    "GRAL WITH LEFTWARDS ARROW WITH HOOKoTIMES SIGNoINTERSECTIONoUNIONoOVERBARoUNDERBARaJOINaLARGE",
    " LEFT TRIANGLE OPERATORaZ NOTATION SCHEMA COMPOSITIONsPIPINGtROJECTIONaPLUS SIGN WITH SMALL C",
    "IRCLE ABOVEpCIRCUMFLEX ACCENT ABOVEpTILDE ABOVEpDOT BELOWpTILDE BELOWpSUBSCRIPT TWOpBLACK TRI",
    "ANGLEaMINUS SIGN WITH COMMA ABOVEqDOT BELOWqFALLING DOTSqRISING DOTSaPLUS SIGN IN LEFT HALF C",
    "IRCLEnRIGHT HALF CIRCLEaVECTOR OR CROSS PRODUCTaMULTIPLICATION SIGN WITH DOT ABOVEzUNDERBARaS",
    "EMIDIRECT PRODUCT WITH BOTTOM CLOSEDbMASH PRODUCTaMULTIPLICATION SIGN IN LEFT HALF CIRCLExRIG",
    "HT HALF CIRCLEaCIRCLED MULTIPLICATION SIGN WITH CIRCUMFLEX ACCENTaMULTIPLICATION SIGN IN DOUB",
    "LE CIRCLEaCIRCLED DIVISION SIGNaPLUS SIGN IN TRIANGLEaMINUS SIGN IN TRIANGLEbULTIPLICATION SI",
    "GN IN TRIANGLEaINTERIOR PRODUCTaRIGHTHAND INTERIOR PRODUCTaZ NOTATION RELATIONAL COMPOSITIONa",
    "AMALGAMATION OR COPRODUCTaINTERSECTION WITH DOTaUNION WITH MINUS SIGNlOVERBARaINTERSECTION WI",
    "TH OVERBARsLOGICAL ANDaUNION WITH LOGICAL ORgABOVE INTERSECTIONaINTERSECTION ABOVE UNIONaUNIO",
    "N ABOVE BAR ABOVE INTERSECTIONaINTERSECTION ABOVE BAR ABOVE UNIONaUNION BESIDE AND JOINED WIT",
    "H UNIONaINTERSECTION BESIDE AND JOINED WITH INTERSECTIONaCLOSED UNION WITH SERIFShINTERSECTIO",
    "N WITH SERIFSaDOUBLE SQUARE INTERSECTIONoUNIONaCLOSED UNION WITH SERIFS AND SMASH PRODUCTaLOG",
    "ICAL AND WITH DOT ABOVEiOR WITH DOT ABOVEaDOUBLE LOGICAL ANDpORaTWO INTERSECTING LOGICAL ANDz",
    "ORaSLOPING LARGE ORoANDaLOGICAL OR OVERLAPPING LOGICAL ANDiAND WITH MIDDLE STEMiOR WITH MIDDL",
    "E STEMiAND WITH HORIZONTAL DASHiOR WITH HORIZONTAL DASHiAND WITH DOUBLE OVERBARrUNDERBARrDOUB",
    "LE UNDERBARaSMALL VEE WITH UNDERBARaLOGICAL OR WITH DOUBLE OVERBARxUNDERBARaZ NOTATION DOMAIN",
    " ANTIRESTRICTIONlRANGE ANTIRESTRICTIONaEQUALS SIGN WITH DOT BELOWaIDENTICAL WITH DOT ABOVEaTR",
    "IPLE HORIZONTAL BAR WITH DOUBLE VERTICAL STROKEbbTRIPLE VERTICAL STROKEbILDE OPERATOR WITH DO",
    "T ABOVEuRISING DOTSaSIMILAR MINUS SIMILARaCONGRUENT WITH DOT ABOVEaEQUALS WITH ASTERISKaALMOS",
    "T EQUAL TO WITH CIRCUMFLEX ACCENTbPPROXIMATELY EQUAL OR EQUAL TOaEQUALS SIGN ABOVE PLUS SIGNa",
    "PLUS SIGN ABOVE EQUALS SIGNaEQUALS SIGN ABOVE TILDE OPERATORaDOUBLE COLON EQUALaTWO CONSECUTI",
    "VE EQUALS SIGNSbHREE CONSECUTIVE EQUALS SIGNSaEQUALS SIGN WITH TWO DOTS ABOVE AND TWO DOTS BE",
    "LOWdIVALENT WITH FOUR DOTS ABOVEaLESS-THAN WITH CIRCLE INSIDEaGREATER-THAN WITH CIRCLE INSIDE",
    "aLESS-THAN WITH QUESTION MARK ABOVEaGREATER-THAN WITH QUESTION MARK ABOVEaLESS-THAN OR SLANTE",
    "D EQUAL TOaGREATER-THAN OR SLANTED EQUAL TOaLESS-THAN OR SLANTED EQUAL TO WITH DOT INSIDEaGRE",
    "ATER-THAN OR SLANTED EQUAL TO WITH DOT INSIDEaLESS-THAN OR SLANTED EQUAL TO WITH DOT ABOVEaGR",
    "EATER-THAN OR SLANTED EQUAL TO WITH DOT ABOVEaLESS-THAN OR SLANTED EQUAL TO WITH DOT ABOVE RI",
    "GHTaGREATER-THAN OR SLANTED EQUAL TO WITH DOT ABOVE LEFTaLESS-THAN OR APPROXIMATEaGREATER-THA",
    "N OR APPROXIMATEaLESS-THAN AND SINGLE-LINE NOT EQUAL TOaGREATER-THAN AND SINGLE-LINE NOT EQUA",
    "L TOaLESS-THAN AND NOT APPROXIMATEaGREATER-THAN AND NOT APPROXIMATEaLESS-THAN ABOVE DOUBLE-LI",
    "NE EQUAL ABOVE GREATER-THANaGREATER-THAN ABOVE DOUBLE-LINE EQUAL ABOVE LESS-THANaLESS-THAN AB",
    "OVE SIMILAR OR EQUALaGREATER-THAN ABOVE SIMILAR OR EQUALaLESS-THAN ABOVE SIMILAR ABOVE GREATE",
    "R-THANaGREATER-THAN ABOVE SIMILAR ABOVE LESS-THANaLESS-THAN ABOVE GREATER-THAN ABOVE DOUBLE-L",
    "INE EQUALaGREATER-THAN ABOVE LESS-THAN ABOVE DOUBLE-LINE EQUALaLESS-THAN ABOVE SLANTED EQUAL ",
    "ABOVE GREATER-THAN ABOVE SLANTED EQUALaGREATER-THAN ABOVE SLANTED EQUAL ABOVE LESS-THAN ABOVE",
    " SLANTED EQUALaSLANTED EQUAL TO OR LESS-THANuGREATER-THANuLESS-THAN WITH DOT INSIDEuGREATER-T",
    "HAN WITH DOT INSIDEaDOUBLE-LINE EQUAL TO OR LESS-THANyGREATER-THANmSLANTED EQUAL TO OR LESS-T",
    "HANbgGREATER-THANaSIMILAR OR LESS-THANlGREATER-THANiABOVE LESS-THAN ABOVE EQUALS SIGNoGREATER",
    "-THAN ABOVE EQUALS SIGNaDOUBLE NESTED LESS-THANoGREATER-THANoLESS-THAN WITH UNDERBARaGREATER-",
    "THAN OVERLAPPING LESS-THANnBESIDE LESS-THANaLESS-THAN CLOSED BY CURVEaGREATER-THAN CLOSED BY ",
    "CURVEaLESS-THAN CLOSED BY CURVE ABOVE SLANTED EQUALaGREATER-THAN CLOSED BY CURVE ABOVE SLANTE",
    "D EQUALaSMALLER THANaLARGER THANaSMALLER THAN OR EQUAL TOaLARGER THAN OR EQUAL TOaEQUALS SIGN",
    " WITH BUMPY ABOVEaPRECEDES ABOVE SINGLE-LINE EQUALS SIGNaSUCCEEDS ABOVE SINGLE-LINE EQUALS SI",
    "GNaPRECEDES ABOVE SINGLE-LINE NOT EQUAL TOaSUCCEEDS ABOVE SINGLE-LINE NOT EQUAL TOaPRECEDES A",
    "BOVE EQUALS SIGNaSUCCEEDS ABOVE EQUALS SIGNaPRECEDES ABOVE NOT EQUAL TOaSUCCEEDS ABOVE NOT EQ",
    "UAL TOaPRECEDES ABOVE ALMOST EQUAL TOaSUCCEEDS ABOVE ALMOST EQUAL TOaPRECEDES ABOVE NOT ALMOS",
    "T EQUAL TOaSUCCEEDS ABOVE NOT ALMOST EQUAL TOaDOUBLE PRECEDEShSUCCEEDSaSUBSET WITH DOTcPERSET",
    " WITH DOTcBSET WITH PLUS SIGN BELOWcPERSET WITH PLUS SIGN BELOWcBSET WITH MULTIPLICATION SIGN",
    " BELOWcPERSET WITH MULTIPLICATION SIGN BELOWcBSET OF OR EQUAL TO WITH DOT ABOVEcPERSET OF OR ",
    "EQUAL TO WITH DOT ABOVEcBSET OF ABOVE EQUALS SIGNcPERSET OF ABOVE EQUALS SIGNcBSET OF ABOVE T",
    "ILDE OPERATORcPERSET OF ABOVE TILDE OPERATORcBSET OF ABOVE ALMOST EQUAL TOcPERSET OF ABOVE AL",
    "MOST EQUAL TOcBSET OF ABOVE NOT EQUAL TOcPERSET OF ABOVE NOT EQUAL TObQUARE LEFT OPEN BOX OPE",
    "RATORhRIGHT OPEN BOX OPERATORaCLOSED SUBSETjPERSETjBSET OR EQUAL TOjPERSET OR EQUAL TOaSUBSET",
    " ABOVE SUPERSETcPERSET ABOVE SUBSETcBSET ABOVE SUBSETcPERSET ABOVE SUPERSETjBESIDE SUBSETqAND",
    " JOINED BY DASH WITH SUBSETaELEMENT OF OPENING DOWNWARDSaPITCHFORK WITH TEE TOPaTRANSVERSAL I",
    "NTERSECTIONaFORKINGaNONFORKINGaSHORT LEFT TACKgDOWN TACKgUP TACKaPERPENDICULAR WITH SaVERTICA",
    "L BAR TRIPLE RIGHT TURNSTILEaDOUBLE VERTICAL BAR LEFT TURNSTILEaVERTICAL BAR DOUBLE LEFT TURN",
    "STILEaDOUBLE VERTICAL BAR DOUBLE LEFT TURNSTILEaLONG DASH FROM LEFT MEMBER OF DOUBLE VERTICAL",
    "aSHORT DOWN TACK WITH OVERBARgUP TACK WITH UNDERBARoABOVE SHORT DOWN TACKaDOUBLE DOWN TACKhUP",
    " TACKhSTROKE NOT SIGNaREVERSED DOUBLE STROKE NOT SIGNaDOES NOT DIVIDE WITH REVERSED NEGATION ",
    "SLASHaVERTICAL LINE WITH CIRCLE ABOVEbaBELOWaDOWN TACK WITH CIRCLE BELOWaPARALLEL WITH HORIZO",
    "NTAL STROKEoTILDE OPERATORaTRIPLE VERTICAL BAR BINARY RELATIONuWITH HORIZONTAL STROKEhCOLON O",
    "PERATORhNESTED LESS-THANoGREATER-THANaDOUBLE-LINE SLANTED LESS-THAN OR EQUAL TOuGREATER-THAN ",
    "OR EQUAL TOaTRIPLE SOLIDUS BINARY RELATIONaLARGE TRIPLE VERTICAL BAR OPERATORaDOUBLE SOLIDUS ",
    "OPERATORaWHITE VERTICAL BARaN-ARY WHITE VERTICAL BARbORTH EAST WHITE ARROWgWEST WHITE ARROWaS",
    "OUTH EAST WHITE ARROWgWEST WHITE ARROWaLEFT RIGHT WHITE ARROWeWARDS BLACK ARROWaUPWARDS BLACK",
    " ARROWaDOWNWARDS BLACK ARROWaNORTH EAST BLACK ARROWgWEST BLACK ARROWaSOUTH EAST BLACK ARROWgW",
    "EST BLACK ARROWaLEFT RIGHT BLACK ARROWaUP DOWN BLACK ARROWaRIGHTWARDS ARROW WITH TIP DOWNWARD",
    "SbaUPWARDSaLEFTWARDS ARROW WITH TIP DOWNWARDSzUPWARDSaSQUARE WITH TOP HALF BLACKmBOTTOM HALF ",
    "BLACKmUPPER RIGHT DIAGONAL HALF BLACKmLOWER LEFT DIAGONAL HALF BLACKaDIAMOND WITH LEFT HALF B",
    "LACKnRIGHT HALF BLACKnTOP HALF BLACKnBOTTOM HALF BLACKbOTTED SQUAREaBLACK LARGE SQUAREaWHITE ",
    "LARGE SQUAREaBLACK VERY SMALL SQUAREaWHITE VERY SMALL SQUAREaBLACK PENTAGONaWHITE PENTAGONgHE",
    "XAGONaBLACK HEXAGONaHORIZONTAL BLACK HEXAGONaBLACK LARGE CIRCLEgMEDIUM DIAMONDaWHITE MEDIUM D",
    "IAMONDaBLACK MEDIUM LOZENGEaWHITE MEDIUM LOZENGEaBLACK SMALL DIAMONDmLOZENGEaWHITE SMALL LOZE",
    "NGEaBLACK HORIZONTAL ELLIPSEaWHITE HORIZONTAL ELLIPSEaBLACK VERTICAL ELLIPSEaWHITE VERTICAL E",
    "LLIPSEaLEFT ARROW WITH SMALL CIRCLEaTHREE LEFTWARDS ARROWSaLEFT ARROW WITH CIRCLED PLUSbONG L",
    "EFTWARDS SQUIGGLE ARROWbEFTWARDS TWO-HEADED ARROW WITH VERTICAL STROKEbgDOUBLE VERTICAL STROK",
    "EbbFROM BARvTRIPLE DASH ARROWkARROW WITH DOTTED STEMvTAIL WITH VERTICAL STROKEbfDOUBLE VERTIC",
    "AL STROKEkTWO-HEADED ARROW WITH TAILbk WITH VERTICAL STROKEbqDOUBLE VERTICAL STROKEkARROW THR",
    "OUGH XaWAVE ARROW POINTING DIRECTLY LEFTaEQUALS SIGN ABOVE LEFTWARDS ARROWaREVERSE TILDE OPER",
    "ATOR ABOVE LEFTWARDS ARROWaLEFTWARDS ARROW ABOVE REVERSE ALMOST EQUAL TOaRIGHTWARDS ARROW THR",
    "OUGH GREATER-THANzSUPERSETaLEFTWARDS QUADRUPLE ARROWaRIGHTWARDS QUADRUPLE ARROWbEVERSE TILDE ",
    "OPERATOR ABOVE RIGHTWARDS ARROWbIGHTWARDS ARROW ABOVE REVERSE ALMOST EQUAL TOaTILDE OPERATOR ",
    "ABOVE LEFTWARDS ARROWaLEFTWARDS ARROW ABOVE ALMOST EQUAL TOwREVERSE TILDE OPERATORaRIGHTWARDS",
    " ARROW ABOVE REVERSE TILDE OPERATORaDOWNWARDS TRIANGLE-HEADED ZIGZAG ARROWaSHORT SLANTED NORT",
    "H ARROWgBACKSLANTED SOUTH ARROWaWHITE MEDIUM STARaBLACK SMALL STARaWHITE SMALL STARaBLACK RIG",
    "HT-POINTING PENTAGONaWHITE RIGHT-POINTING PENTAGONaHEAVY LARGE CIRCLEgOVAL WITH OVAL INSIDEgC",
    "IRCLE WITH CIRCLE INSIDElEmD SALTIREaSLANTED NORTH ARROW WITH HOOKED HEADaBACKSLANTED SOUTH A",
    "RROW WITH HOOKED TAILaSLANTED NORTH ARROW WITH HORIZONTAL TAILaBACKSLANTED SOUTH ARROW WITH H",
    "ORIZONTAL TAILbENT ARROW POINTING DOWNWARDS THEN NORTH EASTaSHORT BENT ARROW POINTING DOWNWAR",
    "DS THEN NORTH EASTaLEFTWARDS TRIANGLE-HEADED ARROWaUPWARDS TRIANGLE-HEADED ARROWaRIGHTWARDS T",
    "RIANGLE-HEADED ARROWaDOWNWARDS TRIANGLE-HEADED ARROWaLEFT RIGHT TRIANGLE-HEADED ARROWaUP DOWN",
    " TRIANGLE-HEADED ARROWaNORTH WEST TRIANGLE-HEADED ARROWgEAST TRIANGLE-HEADED ARROWaSOUTH EAST",
    " TRIANGLE-HEADED ARROWgWEST TRIANGLE-HEADED ARROWaLEFTWARDS TRIANGLE-HEADED DASHED ARROWaUPWA",
    "RDS TRIANGLE-HEADED DASHED ARROWaRIGHTWARDS TRIANGLE-HEADED DASHED ARROWaDOWNWARDS TRIANGLE-H",
    "EADED DASHED ARROWaCLOCKWISE TRIANGLE-HEADED OPEN CIRCLE ARROWaANTICLOCKWISE TRIANGLE-HEADED ",
    "OPEN CIRCLE ARROWaLEFTWARDS TRIANGLE-HEADED ARROW TO BARaUPWARDS TRIANGLE-HEADED ARROW TO BAR",
    "aRIGHTWARDS TRIANGLE-HEADED ARROW TO BARaDOWNWARDS TRIANGLE-HEADED ARROW TO BAR"]),
  (0x2b76, ["aNORTH WEST TRIANGLE-HEADED ARROW TO BARgEAST TRIANGLE-HEADED ARROW TO BARaSOUTH EAST",
    " TRIANGLE-HEADED ARROW TO BARgWEST TRIANGLE-HEADED ARROW TO BARaLEFTWARDS TRIANGLE-HEADED ARR",
    "OW WITH DOUBLE HORIZONTAL STROKEaUPWARDS TRIANGLE-HEADED ARROW WITH DOUBLE HORIZONTAL STROKEa",
    "RIGHTWARDS TRIANGLE-HEADED ARROW WITH DOUBLE HORIZONTAL STROKEaDOWNWARDS TRIANGLE-HEADED ARRO",
    "W WITH DOUBLE HORIZONTAL STROKEaHORIZONTAL TAB KEYaVERTICAL TAB KEYaLEFTWARDS TRIANGLE-HEADED",
    " ARROW OVER RIGHTWARDS TRIANGLE-HEADED ARROWaUPWARDS TRIANGLE-HEADED ARROW LEFTWARDS OF DOWNW",
    "ARDS TRIANGLE-HEADED ARROWaRIGHTWARDS TRIANGLE-HEADED ARROW OVER LEFTWARDS TRIANGLE-HEADED AR",
    "ROWaDOWNWARDS TRIANGLE-HEADED ARROW LEFTWARDS OF UPWARDS TRIANGLE-HEADED ARROWaLEFTWARDS TRIA",
    "NGLE-HEADED PAIRED ARROWSaUPWARDS TRIANGLE-HEADED PAIRED ARROWSaRIGHTWARDS TRIANGLE-HEADED PA",
    "IRED ARROWSaDOWNWARDS TRIANGLE-HEADED PAIRED ARROWSaLEFTWARDS BLACK CIRCLED WHITE ARROWaUPWAR",
    "DS BLACK CIRCLED WHITE ARROWaRIGHTWARDS BLACK CIRCLED WHITE ARROWaDOWNWARDS BLACK CIRCLED WHI",
    "TE ARROWaANTICLOCKWISE TRIANGLE-HEADED RIGHT U-SHAPED ARROWbeBOTTOM U-SHAPED ARROWbeLEFT U-SH",
    "APED ARROWbeTOP U-SHAPED ARROWaRETURN LEFThRIGHTaNEWLINE LEFTiRIGHTaFOUR CORNER ARROWS CIRCLI",
    "NG ANTICLOCKWISEaRIGHTWARDS BLACK ARROW"]),
  (0x2b97, ["aSYMBOL FOR TYPE A ELECTRONICSaTHREE-D TOP-LIGHTED LEFTWARDS EQUILATERAL ARROWHEADiRI",
    "GHT-LIGHTED UPWARDS EQUILATERAL ARROWHEADiTOP-LIGHTED RIGHTWARDS EQUILATERAL ARROWHEADiLEFT-L",
    "IGHTED DOWNWARDS EQUILATERAL ARROWHEADaBLACK LEFTWARDS EQUILATERAL ARROWHEADgUPWARDS EQUILATE",
    "RAL ARROWHEADgRIGHTWARDS EQUILATERAL ARROWHEADgDOWNWARDS EQUILATERAL ARROWHEADaDOWNWARDS TRIA",
    "NGLE-HEADED ARROW WITH LONG TIP LEFTWARDSbuRIGHTWARDSaUPWARDS TRIANGLE-HEADED ARROW WITH LONG",
    " TIP LEFTWARDSbsRIGHTWARDSaLEFTWARDS TRIANGLE-HEADED ARROW WITH LONG TIP UPWARDSaRIGHTWARDS T",
    "RIANGLE-HEADED ARROW WITH LONG TIP UPWARDSaLEFTWARDS TRIANGLE-HEADED ARROW WITH LONG TIP DOWN",
    "WARDSaRIGHTWARDS TRIANGLE-HEADED ARROW WITH LONG TIP DOWNWARDSaBLACK CURVED DOWNWARDS AND LEF",
    "TWARDS ARROWbbRIGHTWARDS ARROWnUPWARDS AND LEFTWARDS ARROWzRIGHTWARDS ARROWnLEFTWARDS AND UPW",
    "ARDS ARROWnRIGHTWARDS AND UPWARDS ARROWnLEFTWARDS AND DOWNWARDS ARROWnRIGHTWARDS AND DOWNWARD",
    "S ARROWaRIBBON ARROW DOWN LEFTsRIGHTnUP LEFTqRIGHTnLEFT UPnRIGHT UPnLEFT DOWNnRIGHT DOWNaUPWA",
    "RDS WHITE ARROW FROM BAR WITH HORIZONTAL BARc ARROWHEAD IN A RECTANGLE BOXaOVERLAPPING WHITE ",
    "SQUARESsAND BLACK SQUARESmBLACK SQUARESaBALLOT BOX WITH LIGHT XaCIRCLED XiBOLD XaBLACK SQUARE",
    " CENTREDgDIAMOND CENTREDaTURNED BLACK PENTAGONaHORIZONTAL BLACK OCTAGONaBLACK OCTAGONgMEDIUM ",
    "UP-POINTING TRIANGLE CENTREDnDOWN-POINTING TRIANGLE CENTREDnLEFT-POINTING TRIANGLE CENTREDnRI",
    "GHT-POINTING TRIANGLE CENTREDaNEPTUNE FORM TWOaTOP HALF BLACK CIRCLEaBOTTOM HALF BLACK CIRCLE",
    "aLIGHT FOUR POINTED BLACK CUSPaROTATED LIGHT FOUR POINTED BLACK CUSPaWHITE FOUR POINTED CUSPa",
    "ROTATED WHITE FOUR POINTED CUSPaSQUARE POSITION INDICATORaUNCERTAINTY SIGNaGROUP MARKaPLUTO F",
    "ORM TWOmHREElFOURmIVEaTRANSPLUTOaPROSERPINAaASTRAEAaHYGIEAaPHOLUSaNESSUSaWHITE MOON SELENAaBL",
    "ACK DIAMOND ON CROSSaTRUE LIGHT MOON ARTAaCUPIDOaHADESaZEUSaKRONOSaAPOLLONbDMETOSaVULCANUSaPO",
    "SEIDONaLEFT HALF BLACK STARaRIGHT HALF BLACK STARaSTAR WITH LEFT HALF BLACKkRIGHT HALF BLACKa",
    "LEFTWARDS TWO-HEADED ARROW WITH TRIANGLE ARROWHEADSaUPWARDS TWO-HEADED ARROW WITH TRIANGLE AR",
    "ROWHEADSaRIGHTWARDS TWO-HEADED ARROW WITH TRIANGLE ARROWHEADSaDOWNWARDS TWO-HEADED ARROW WITH",
    " TRIANGLE ARROWHEADSaERIS FORM ONEkTWOaSEDNAaRUSSIAN ASTROLOGICAL SYMBOL VIGINTILEbcNOVILEbcQ",
    "UINTILEbcBINOVILEbcSENTAGONbcTREDECILEaEQUALS SIGN WITH INFINITY BELOWaUNITED SYMBOLaSEPARATE",
    "D SYMBOLaDOUBLED SYMBOLaPASSED SYMBOLaREVERSED RIGHT ANGLEaHELLSCHREIBER PAUSE SYMBOLaGLAGOLI",
    "TIC CAPITAL LETTER AZUbaBUKYbaVEDEbaGLAGOLIbaDOBRObaYESTUbaZHIVETEbaDZELObaZEMLJAbaIZHEbbNITI",
    "AL IZHEbaIbaDJERVIbaKAKObaLJUDIJEbaMYSLITEbaNASHIbaONUbaPOKOJIbaRITSIbaSLOVObaTVRIDObaUKUbaFR",
    "ITUbaHERUbaOTUbaPEbaSHTAbaTSIbaCHRIVIbaSHAbaYERUbdIbbATIbaSPIDERY HAbaYUbaSMALL YUSbj WITH TA",
    "ILbaYObaIOTATED SMALL YUSbaBIG YUSbaIOTATED BIG YUSbaFITAbaIZHITSAbaSHTAPICbaTROKUTASTI AbaLA",
    "TINATE MYSLITEbaCAUDATE CHRIVIlSMALL LETTER AZUyBUKYyVEDEyGLAGOLIyDOBROyYESTUyZHIVETEyDZELOyZ",
    "EMLJAyIZHEzNITIAL IZHEyIyDJERVIyKAKOyLJUDIJEyMYSLITEyNASHIyONUyPOKOJIyRITSIySLOVOyTVRIDOyUKUy",
    "FRITUyHERUyOTUyPEySHTAyTSIyCHRIVIySHAyYERUbbIzATIySPIDERY HAyYUySMALL YUSbh WITH TAILyYOyIOTA",
    "TED SMALL YUSyBIG YUSyIOTATED BIG YUSyFITAyIZHITSAySHTAPICyTROKUTASTI AyLATINATE MYSLITEyCAUD",
    "ATE CHRIVIaLATIN CAPITAL LETTER L WITH DOUBLE BARgSMALL LETTER L WITH DOUBLE BARgCAPITAL LETT",
    "ER L WITH MIDDLE TILDEvP WITH STROKEvR WITH TAILgSMALL LETTER A WITH STROKEtT WITH DIAGONAL S",
    "TROKEgCAPITAL LETTER H WITH DESCENDERgSMALL LETTER H WITH DESCENDERgCAPITAL LETTER K WITH DES",
    "CENDERgSMALL LETTER K WITH DESCENDERgCAPITAL LETTER Z WITH DESCENDERgSMALL LETTER Z WITH DESC",
    "ENDERgCAPITAL LETTER ALPHAvM WITH HOOKvTURNED AbdLPHAgSMALL LETTER V WITH RIGHT HOOKgCAPITAL ",
    "LETTER W WITH HOOKgSMALL LETTER W WITH HOOKtV WITH CURLgCAPITAL LETTER HALF HgSMALL LETTER HA",
    "LF HtTAILLESS PHItE WITH NOTCHtTURNED R WITH TAILtO WITH LOW RING INSIDEgLETTER SMALL CAPITAL",
    " TURNED EgSUBSCRIPT SMALL LETTER JaMODIFIER LETTER CAPITAL VaLATIN CAPITAL LETTER S WITH SWAS",
    "H TAILvZ WITH SWASH TAILaCOPTIC CAPITAL LETTER ALFAhSMALL LETTER ALFAhCAPITAL LETTER VIDAhSMA",
    "LL LETTER VIDAhCAPITAL LETTER GAMMAhSMALL LETTER GAMMAhCAPITAL LETTER DALDAhSMALL LETTER DALD",
    "AhCAPITAL LETTER EIEhSMALL LETTER EIEhCAPITAL LETTER SOUhSMALL LETTER SOUhCAPITAL LETTER ZATA",
    "hSMALL LETTER ZATAhCAPITAL LETTER HATEhSMALL LETTER HATEhCAPITAL LETTER THETHEhSMALL LETTER T",
    "HETHEhCAPITAL LETTER IAUDAhSMALL LETTER IAUDAhCAPITAL LETTER KAPAhSMALL LETTER KAPAhCAPITAL L",
    "ETTER LAULAhSMALL LETTER LAULAhCAPITAL LETTER MIhSMALL LETTER MIhCAPITAL LETTER NIhSMALL LETT",
    "ER NIhCAPITAL LETTER KSIhSMALL LETTER KSIhCAPITAL LETTER OhSMALL LETTER OhCAPITAL LETTER PIhS",
    "MALL LETTER PIhCAPITAL LETTER ROhSMALL LETTER ROhCAPITAL LETTER SIMAhSMALL LETTER SIMAhCAPITA",
    "L LETTER TAUhSMALL LETTER TAUhCAPITAL LETTER UAhSMALL LETTER UAhCAPITAL LETTER FIhSMALL LETTE",
    "R FIhCAPITAL LETTER KHIhSMALL LETTER KHIhCAPITAL LETTER PSIhSMALL LETTER PSIhCAPITAL LETTER O",
    "OUhSMALL LETTER OOUhCAPITAL LETTER DIALECT-P ALEFhSMALL LETTER DIALECT-P ALEFhCAPITAL LETTER ",
    "OLD COPTIC AINhSMALL LETTER OLD COPTIC AINhCAPITAL LETTER CRYPTOGRAMMIC EIEhSMALL LETTER CRYP",
    "TOGRAMMIC EIEhCAPITAL LETTER DIALECT-P KAPAhSMALL LETTER DIALECT-P KAPAhCAPITAL LETTER DIALEC",
    "T-P NIhSMALL LETTER DIALECT-P NIhCAPITAL LETTER CRYPTOGRAMMIC NIhSMALL LETTER CRYPTOGRAMMIC N",
    "IhCAPITAL LETTER OLD COPTIC OOUhSMALL LETTER OLD COPTIC OOUhCAPITAL LETTER SAMPIhSMALL LETTER",
    " SAMPIhCAPITAL LETTER CROSSED SHEIhSMALL LETTER CROSSED SHEIhCAPITAL LETTER OLD COPTIC SHEIhS",
    "MALL LETTER OLD COPTIC SHEIhCAPITAL LETTER OLD COPTIC ESHhSMALL LETTER OLD COPTIC ESHhCAPITAL",
    " LETTER AKHMIMIC KHEIhSMALL LETTER AKHMIMIC KHEIhCAPITAL LETTER DIALECT-P HORIhSMALL LETTER D",
    "IALECT-P HORIhCAPITAL LETTER OLD COPTIC HORIhSMALL LETTER OLD COPTIC HORIhCAPITAL LETTER OLD ",
    "COPTIC HAhSMALL LETTER OLD COPTIC HAhCAPITAL LETTER L-SHAPED HAhSMALL LETTER L-SHAPED HAhCAPI",
    "TAL LETTER OLD COPTIC HEIhSMALL LETTER OLD COPTIC HEIhCAPITAL LETTER OLD COPTIC HAThSMALL LET",
    "TER OLD COPTIC HAThCAPITAL LETTER OLD COPTIC GANGIAhSMALL LETTER OLD COPTIC GANGIAhCAPITAL LE",
    "TTER OLD COPTIC DJAhSMALL LETTER OLD COPTIC DJAhCAPITAL LETTER OLD COPTIC SHIMAhSMALL LETTER ",
    "OLD COPTIC SHIMAhCAPITAL LETTER OLD NUBIAN SHIMAhSMALL LETTER OLD NUBIAN SHIMAhCAPITAL LETTER",
    " OLD NUBIAN NGIhSMALL LETTER OLD NUBIAN NGIhCAPITAL LETTER OLD NUBIAN NYIhSMALL LETTER OLD NU",
    "BIAN NYIhCAPITAL LETTER OLD NUBIAN WAUhSMALL LETTER OLD NUBIAN WAUiYMBOL KAIoMI ROoPI ROoSTAU",
    "ROSoTAU ROoKHI ROoSHIMA SIMAhCAPITAL LETTER CRYPTOGRAMMIC SHEIhSMALL LETTER CRYPTOGRAMMIC SHE",
    "IhCAPITAL LETTER CRYPTOGRAMMIC GANGIAhSMALL LETTER CRYPTOGRAMMIC GANGIAhCOMBINING NI ABOVErSP",
    "IRITUS ASPERbaLENISiAPITAL LETTER BOHAIRIC KHEIhSMALL LETTER BOHAIRIC KHEI"]),
  (0x2cf9, ["aCOPTIC OLD NUBIAN FULL STOPsDIRECT QUESTION MARKsINDIRECT QUESTION MARKsVERSE DIVIDE",
    "RhFRACTION ONE HALFiULL STOPhMORPHOLOGICAL DIVIDERaGEORGIAN SMALL LETTER ANwBANwGANwDONwENwVI",
    "NwZENwTANwINwKANwLASwMANwNARwONwPARwZHARwRAEwSANwTARwUNwPHARwKHARwGHANwQARwSHINwCHINxANwJILwC",
    "ILxHARwXANwJHANwHAExExIEwWEwHARxOE"]),
  (0x2d27, ["aGEORGIAN SMALL LETTER YN"]),
  (0x2d2d, ["aGEORGIAN SMALL LETTER AEN"]),
  (0x2d30, ["aTIFINAGH LETTER YAsBtHsGtHHqBERBER ACADEMY YAJqYAJsDtHtDuHrEYrAFsKqTUAREG YAKqYAKHHs",
    "HqBERBER ACADEMY YAHqTUAREG YAHqYAHHsAsKHqTUAREG YAKHqYAQqTUAREG YAQqYIrAZHqAHAGGAR YAZHqTUAR",
    "EG YAZHqYALsMsNqTUAREG YAGNzNGqYAPrUrARtRsGHqTUAREG YAGHqAYER YAGHqYAStStHsTtHsCHsTTsVsWsYsZq",
    "TAWELLEMET YAZqYAZZrErO"]),
  (0x2d6f, ["aTIFINAGH MODIFIER LETTER LABIALIZATION MARKjSEPARATOR MARK"]),
  (0x2d7f, ["aTIFINAGH CONSONANT JOINERaETHIOPIC SYLLABLE LOAsMOAsROAsSOAtHOAsBOAsTOAsCOAsNOAtYOAs",
    "GLOTTAL OAsZOAsDOAtDOAsJOAsTHOAsCHOAsPHOAtOAsGGWAvIvEEvE"]),
  (0x2da0, ["aETHIOPIC SYLLABLE SSAuUuIuAAuEEuEuO"]),
  (0x2da8, ["aETHIOPIC SYLLABLE CCAuUuIuAAuEEuEuO"]),
  (0x2db0, ["aETHIOPIC SYLLABLE ZZAuUuIuAAuEEuEuO"]),
  (0x2db8, ["aETHIOPIC SYLLABLE CCHAvUvIvAAvEEvEvO"]),
  (0x2dc0, ["aETHIOPIC SYLLABLE QYAuUuIuAAuEEuEuO"]),
  (0x2dc8, ["aETHIOPIC SYLLABLE KYAuUuIuAAuEEuEuO"]),
  (0x2dd0, ["aETHIOPIC SYLLABLE XYAuUuIuAAuEEuEuO"]),
  (0x2dd8, ["aETHIOPIC SYLLABLE GYAuUuIuAAuEEuEuO"]),
  (0x2de0, ["aCOMBINING CYRILLIC LETTER BEbaVEbaGHEbaDEbaZHEbbEbaKAbaELbbMbbNbaObaPEbaERbbSbaTEbaH",
    "AbaTSEbaCHEbaSHAbcCHAbaFITAbaES-TEbaAbaIEbaDJERVbaMONOGRAPH UKbaYATbbUbaIOTIFIED AbaLITTLE YU",
    "SbaBIG YUSbaIOTIFIED BIG YUSaRIGHT ANGLE SUBSTITUTION MARKERmDOTTED SUBSTITUTION MARKERaLEFT ",
    "SUBSTITUTION BRACKETaRIGHT SUBSTITUTION BRACKETaLEFT DOTTED SUBSTITUTION BRACKETaRIGHT DOTTED",
    " SUBSTITUTION BRACKETbAISED INTERPOLATION MARKERhDOTTED INTERPOLATION MARKERaDOTTED TRANSPOSI",
    "TION MARKERaLEFT TRANSPOSITION BRACKETaRIGHT TRANSPOSITION BRACKETbAISED SQUAREaLEFT RAISED O",
    "MISSION BRACKETaRIGHT RAISED OMISSION BRACKETaEDITORIAL CORONISaPARAGRAPHOSaFORKED PARAGRAPHO",
    "SaREVERSED FORKED PARAGRAPHOSaHYPODIASTOLEaDOTTED OBELOScWNWARDS ANCORAaUPWARDS ANCORAaDOTTED",
    " RIGHT-POINTING ANGLEcUBLE OBLIQUE HYPHENaINVERTED INTERROBANGaPALM BRANCHaHYPHEN WITH DIAERE",
    "SISaTILDE WITH RING ABOVEaLEFT LOW PARAPHRASE BRACKETaRIGHT LOW PARAPHRASE BRACKETaTILDE WITH",
    " DOT ABOVEpBELOWaLEFT VERTICAL BAR WITH QUILLaRIGHT VERTICAL BAR WITH QUILLaTOP LEFT HALF BRA",
    "CKETeRIGHT HALF BRACKETaBOTTOM LEFT HALF BRACKEThRIGHT HALF BRACKETaLEFT SIDEWAYS U BRACKETaR",
    "IGHT SIDEWAYS U BRACKETaLEFT DOUBLE PARENTHESISaRIGHT DOUBLE PARENTHESISaTWO DOTS OVER ONE DO",
    "T PUNCTUATIONaONE DOT OVER TWO DOTS PUNCTUATIONaSQUARED FOUR DOT PUNCTUATIONaFIVE DOT MARKaRE",
    "VERSED QUESTION MARKaVERTICAL TILDEaRING POINTaWORD SEPARATOR MIDDLE DOTaTURNED COMMAaRAISED ",
    "DOThCOMMAaTURNED SEMICOLONaDAGGER WITH LEFT GUARDmRIGHT GUARDaTURNED DAGGERbOP HALF SECTION S",
    "IGNbWO-EM DASHbHREE-EM DASHaSTENOGRAPHIC FULL STOPaVERTICAL SIX DOTSaWIGGLY VERTICAL LINEaCAP",
    "ITULUMaDOUBLE HYPHENaREVERSED COMMAaDOUBLE LOW-REVERSED-9 QUOTATION MARKbASH WITH LEFT UPTURN",
    "bOUBLE SUSPENSION MARKaINVERTED LOW KAVYKAt WITH KAVYKA ABOVEaLOW KAVYKAk WITH DOTaDOUBLE STA",
    "CKED COMMAcTTED SOLIDUSaTRIPLE DAGGERaMEDIEVAL COMMAaPARAGRAPHUS MARKbUNCTUS ELEVATUS MARKaCO",
    "RNISH VERSE DIVIDERbROSS PATTY WITH RIGHT CROSSBARrLEFT CROSSBARaTIRONIAN SIGN CAPITAL ETaMED",
    "IEVAL EXCLAMATION MARKjQUESTION MARKaLEFT SQUARE BRACKET WITH STROKEaRIGHT SQUARE BRACKET WIT",
    "H STROKEaLEFT SQUARE BRACKET WITH DOUBLE STROKEaRIGHT SQUARE BRACKET WITH DOUBLE STROKEaTOP H",
    "ALF LEFT PARENTHESISjRIGHT PARENTHESISaBOTTOM HALF LEFT PARENTHESISmRIGHT PARENTHESISaOBLIQUE",
    " HYPHEN"]),
  (0x2e80, ["aCJK RADICAL REPEATmCLIFFmSECOND ONEtTWOuHREEmPERSONmBOXmTABLEmKNIFE ONEsTWOmDIVINATI",
    "ONmSEALnMALL ONEsTWOmLAME ONErTWOsHREErFOURmSNAKEmTHREADmSNOUT ONEsTWOmHEART ONEsTWOnANDmRA",
    "P"]),
  (0x2e9b, ["aCJK RADICAL CHOKEmSUNmMOONmDEATHmMOTHERmCIVILIANmWATER ONEsTWOmFIREmPAW ONEqTWOmSIMP",
    "LIFIED HALF TREE TRUNKmCOWmDOGmJADEmBOLT OF CLOTHmEYEmSPIRIT ONEtTWOmBAMBOOmSILKmC-SIMPLIFIED",
    " SILKmNET ONEqTWOrHREEqFOURmMESHmSHEEPmRAMmEWEmOLDmBRUSH ONEsTWOmMEATnORTARmGRASS ONEsTWOtHRE",
    "EmTIGERmCLOTHESmWEST ONErTWOmC-SIMPLIFIED SEEmSIMPLIFIED HORNmHORNmC-SIMPLIFIED SPEECHbaHELLm",
    "FOOTmC-SIMPLIFIED CARTmSIMPLIFIED WALKmWALK ONErTWOmCITYn-SIMPLIFIED GOLDmLONG ONErTWOmC-SIMP",
    "LIFIED LONGzGATEmMOUND ONEsTWOmRAINmBLUEmC-SIMPLIFIED TANNED LEATHERzLEAFzWINDzFLYmEAT ONEqTW",
    "OrHREEmC-SIMPLIFIED EATmHEADmC-SIMPLIFIED HORSEmBONEmGHOSTmC-SIMPLIFIED FISHzBIRDzSALTmSIMPLI",
    "FIED WHEATxYELLOWmC-SIMPLIFIED FROGmJ-SIMPLIFIED EVENmC-SIMPLIFIED EVENmJ-SIMPLIFIED TOOTHmC-",
    "SIMPLIFIED TOOTHmJ-SIMPLIFIED DRAGONmC-SIMPLIFIED DRAGONmTURTLEmJ-SIMPLIFIED TURTLEmC-SIMPLIF",
    "IED TURTLE"]),
  (0x2f00, ["aKANGXI RADICAL ONEpLINEpDOTpSLASHqECONDpHOOKpTWOpLIDpMANpLEGSpENTERqIGHTpDOWN BOXpCO",
    "VERpICEpTABLEpOPEN BOXpKNIFEpPOWERpWRAPpSPOONpRIGHT OPEN BOXpHIDING ENCLOSUREpTENpDIVINATIONp",
    "SEALpCLIFFpPRIVATEpAGAINpMOUTHpENCLOSUREqARTHpSCHOLARpGOr SLOWLYpEVENINGpBIGpWOMANpCHILDpROOF",
    "pINCHpSMALLpLAMEpCORPSEpSPROUTpMOUNTAINpRIVERpWORKpONESELFpTURBANpDRYpSHORT THREADpDOTTED CLI",
    "FFpLONG STRIDEpTWO HANDSpSHOOTpBOWpSNOUTpBRISTLEpSTEPpHEARTqALBERDpDOORpHANDpBRANCHpRAPpSCRIP",
    "TpDIPPERpAXEpSQUAREpNOTpSUNqAYpMOONpTREEpLACKpSTOPpDEATHpWEAPONpDO NOTpCOMPAREpFURpCLANpSTEAM",
    "pWATERpFIREpCLAWpFATHERpDOUBLE XpHALF TREE TRUNKpSLICEpFANGpCOWpDOGpPROFOUNDpJADEpMELONpTILEp",
    "SWEETpLIFEpUSEpFIELDpBOLT OF CLOTHpSICKNESSpDOTTED TENTpWHITEpSKINpDISHpEYEpSPEARpARROWpSTONE",
    "qPIRITpTRACKpGRAINpCAVEpSTANDpBAMBOOpRICEpSILKpJARpNETpSHEEPpFEATHERpOLDpANDpPLOWpEARpBRUSHpM",
    "EATqINISTERpSELFpARRIVEpMORTARpTONGUEpOPPOSEpBOATpSTOPPINGpCOLORpGRASSpTIGERpINSECTpBLOODpWAL",
    "K ENCLOSUREpCLOTHESpWESTpSEEpHORNpSPEECHpVALLEYpBEANpPIGpBADGERpSHELLpREDqUNpFOOTpBODYpCARTpB",
    "ITTERpMORNINGpWALKpCITYpWINEpDISTINGUISHpVILLAGEpGOLDpLONGpGATEpMOUNDpSLAVEqHORT TAILED BIRDp",
    "RAINpBLUEpWRONGpFACEpLEATHERpTANNED LEATHERpLEEKpSOUNDpLEAFpWINDpFLYpEATpHEADpFRAGRANTpHORSEp",
    "BONEpTALLpHAIRpFIGHTpSACRIFICIAL WINEpCAULDRONpGHOSTpFISHpBIRDpSALTpDEERpWHEATpHEMPpYELLOWpMI",
    "LLETpBLACKpEMBROIDERYpFROGpTRIPODpDRUMpRATpNOSEpEVENpTOOTHpDRAGONpTURTLEpFLUTE"]),
  (0x2ff0, ["aIDEOGRAPHIC DESCRIPTION CHARACTER LEFT TO RIGHTbiABOVE TO BELOWbiLEFT TO MIDDLE AND ",
    "RIGHTbiABOVE TO MIDDLE AND BELOWbiFULL SURROUNDbiSURROUND FROM ABOVEbwBELOWbwLEFTbwUPPER LEFT",
    "ccRIGHTbwLOWER LEFTbiOVERLAID"])]

end TreePredicate.Text.CharacterName
