/-!
# Names of characters from `0x1f000` on
-/

set_option autoImplicit false

namespace TreePredicate.Text.CharacterName

/-- Runs of characters from `0x1f000` on: where each starts, and the lines in which its
names are written. -/
def pictographs : List (Nat × List String) := [
  (0x1f000, ["aMAHJONG TILE EAST WINDnSOUTH WINDnWEST WINDnNORTH WINDnRED DRAGONnGREEN DRAGONnWHIT",
    "E DRAGONnONE OF CHARACTERSnTWO OF CHARACTERSoHREE OF CHARACTERSnFOUR OF CHARACTERSoIVE OF CHA",
    "RACTERSnSIX OF CHARACTERSoEVEN OF CHARACTERSnEIGHT OF CHARACTERSnNINE OF CHARACTERSnONE OF BA",
    "MBOOSnTWO OF BAMBOOSoHREE OF BAMBOOSnFOUR OF BAMBOOSoIVE OF BAMBOOSnSIX OF BAMBOOSoEVEN OF BA",
    "MBOOSnEIGHT OF BAMBOOSnNINE OF BAMBOOSnONE OF CIRCLESnTWO OF CIRCLESoHREE OF CIRCLESnFOUR OF ",
    "CIRCLESoIVE OF CIRCLESnSIX OF CIRCLESoEVEN OF CIRCLESnEIGHT OF CIRCLESnNINE OF CIRCLESnPLUMnO",
    "RCHIDnBAMBOOnCHRYSANTHEMUMnSPRINGoUMMERnAUTUMNnWINTERnJOKERnBACK"]),
  (0x1f030, ["aDOMINO TILE HORIZONTAL BACKw-00-00bb1bb2bb3bb4bb5bb6y1-00bb1bb2bb3bb4bb5bb6y2-00bb1",
    "bb2bb3bb4bb5bb6y3-00bb1bb2bb3bb4bb5bb6y4-00bb1bb2bb3bb4bb5bb6y5-00bb1bb2bb3bb4bb5bb6y6-00bb1b",
    "b2bb3bb4bb5bb6mVERTICAL BACKu-00-00z1z2z3z4z5z6w1-00z1z2z3z4z5z6w2-00z1z2z3z4z5z6w3-00z1z2z3z",
    "4z5z6w4-00z1z2z3z4z5z6w5-00z1z2z3z4z5z6w6-00z1z2z3z4z5z6"]),
  (0x1f0a0, ["aPLAYING CARD BACKnACE OF SPADESnTWO OF SPADESoHREE OF SPADESnFOUR OF SPADESoIVE OF ",
    "SPADESnSIX OF SPADESoEVEN OF SPADESnEIGHT OF SPADESnNINE OF SPADESnTEN OF SPADESnJACK OF SPAD",
    "ESnKNIGHT OF SPADESnQUEEN OF SPADESnKING OF SPADES"]),
  (0x1f0b1, ["aPLAYING CARD ACE OF HEARTSnTWO OF HEARTSoHREE OF HEARTSnFOUR OF HEARTSoIVE OF HEART",
    "SnSIX OF HEARTSoEVEN OF HEARTSnEIGHT OF HEARTSnNINE OF HEARTSnTEN OF HEARTSnJACK OF HEARTSnKN",
    "IGHT OF HEARTSnQUEEN OF HEARTSnKING OF HEARTSnRED JOKER"]),
  (0x1f0c1, ["aPLAYING CARD ACE OF DIAMONDSnTWO OF DIAMONDSoHREE OF DIAMONDSnFOUR OF DIAMONDSoIVE ",
    "OF DIAMONDSnSIX OF DIAMONDSoEVEN OF DIAMONDSnEIGHT OF DIAMONDSnNINE OF DIAMONDSnTEN OF DIAMON",
    "DSnJACK OF DIAMONDSnKNIGHT OF DIAMONDSnQUEEN OF DIAMONDSnKING OF DIAMONDSnBLACK JOKER"]),
  (0x1f0d1, ["aPLAYING CARD ACE OF CLUBSnTWO OF CLUBSoHREE OF CLUBSnFOUR OF CLUBSoIVE OF CLUBSnSIX",
    " OF CLUBSoEVEN OF CLUBSnEIGHT OF CLUBSnNINE OF CLUBSnTEN OF CLUBSnJACK OF CLUBSnKNIGHT OF CLU",
    "BSnQUEEN OF CLUBSnKING OF CLUBSnWHITE JOKERnFOOLnTRUMP-1t2t3t4t5t6t7t8t9t10u1u2u3u4u5u6u7u8u9",
    "t20u1"]),
  (0x1f100, ["aDIGIT ZERO FULL STOPlCOMMAgONE COMMAgTWO COMMAhHREE COMMAgFOUR COMMAhIVE COMMAgSIX ",
    "COMMAhEVEN COMMAgEIGHT COMMAgNINE COMMAcNGBAT CIRCLED SANS-SERIF DIGIT ZEROiNEGATIVE CIRCLED ",
    "SANS-SERIF DIGIT ZEROaCIRCLED ZERO WITH SLASHiANTICLOCKWISE ARROWiDOLLAR SIGN WITH OVERLAID B",
    "ACKSLASHaPARENTHESIZED LATIN CAPITAL LETTER AbjBbjCbjDbjEbjFbjGbjHbjIbjJbjKbjLbjMbjNbjObjPbjQ",
    "bjRbjSbjTbjUbjVbjWbjXbjYbjZaTORTOISE SHELL BRACKETED LATIN CAPITAL LETTER SaCIRCLED ITALIC LA",
    "TIN CAPITAL LETTER CbkRiCDiWZbOPYLEFT SYMBOLaSQUARED LATIN CAPITAL LETTER AbdBbdCbdDbdEbdFbdG",
    "bdHbdIbdJbdKbdLbdMbdNbdObdPbdQbdRbdSbdTbdUbdVbdWbdXbdYbdZiHViMViSDjSiPPViWCaNEGATIVE CIRCLED ",
    "LATIN CAPITAL LETTER AbmBbmCbmDbmEbmFbmGbmHbmIbmJbmKbmLbmMbmNbmObmPbmQbmRbmSbmTbmUbmVbmWbmXbm",
    "YbmZaRAISED MC SIGNiD SIGNiR SIGNaCIRCLED CCj WITH OVERLAID BACKSLASHiHUMAN FIGUREaNEGATIVE S",
    "QUARED LATIN CAPITAL LETTER AbmBbmCbmDbmEbmFbmGbmHbmIbmJbmKbmLbmMbmNbmObmPbmQbmRbmSbmTbmUbmVb",
    "mWbmXbmYbmZaCROSSED NEGATIVE SQUARED LATIN CAPITAL LETTER PaNEGATIVE SQUARED ICrPArSArABrWCaS",
    "QUARE DJgD CLjOOLiFREEiIDiNEWjGiOKiSOSiUP WITH EXCLAMATION MARKiVSiTHREE DiSECOND SCREENiTWO ",
    "KiFOUR KiEIGHT KiFIVE POINT ONEiSEVEN POINT ONEiTWENTY-TWO POINT TWOiSIXTY PiONE HUNDRED TWEN",
    "TY PiLATIN SMALL LETTER DiHCjDRjI-RESiLOSSLESSiSHViUHDiVODaMASK WORK SYMBOL"]),
  (0x1f1e6, ["aREGIONAL INDICATOR SYMBOL LETTER AbhBbhCbhDbhEbhFbhGbhHbhIbhJbhKbhLbhMbhNbhObhPbhQb",
    "hRbhSbhTbhUbhVbhWbhXbhYbhZaSQUARE HIRAGANA HOKAgD KATAKANA KOKOrSA"]),
  (0x1f210, ["aSQUARED CJK UNIFIED IDEOGRAPH-624Bbe5B57bf3CCiKATAKANA DEiCJK UNIFIED IDEOGRAPH-4E8",
    "Cbe591Abe89E3be5929be4EA4be6620be7121be6599be524DbfF8Cbf18Dbe65B0be521Dbe7D42bf51Fbe8CA9be58F",
    "0bf439be6F14bf295bf355be4E00bh9be904Abe5DE6be4E2Dbe53F3be6307be8D70be6253be7981bfA7Abe5408be6",
    "E80bf709bh8be7533be5272bf5B6be914D"]),
  (0x1f240, ["aTORTOISE SHELL BRACKETED CJK UNIFIED IDEOGRAPH-672Cbv4E09bx8Cbv5B89bv70B9bv6253bv76",
    "D7bv52DDbv6557"]),
  (0x1f250, ["aCIRCLED IDEOGRAPH ADVANTAGEtCCEPT"]),
  (0x1f260, ["aROUNDED SYMBOL FOR FUtLUtSHOUtXItSHUANGXItCAI"]),
  (0x1f300, ["aCYCLONEaFOGGYaCLOSED UMBRELLAaNIGHT WITH STARSaSUNRISE OVER MOUNTAINSgEaCITYSCAPE A",
    "T DUSKaSUNSET OVER BUILDINGSaRAINBOWaBRIDGE AT NIGHTaWATER WAVEaVOLCANOaMILKY WAYaEARTH GLOBE",
    " EUROPE-AFRICAmAMERICASnSIA-AUSTRALIAaGLOBE WITH MERIDIANSaNEW MOON SYMBOLaWAXING CRESCENT MO",
    "ON SYMBOLaFIRST QUARTER MOON SYMBOLaWAXING GIBBOUS MOON SYMBOLaFULL MOON SYMBOLaWANING GIBBOU",
    "S MOON SYMBOLaLAST QUARTER MOON SYMBOLaWANING CRESCENT MOON SYMBOLaCRESCENT MOONaNEW MOON WIT",
    "H FACEaFIRST QUARTER MOON WITH FACEaLAST QUARTER MOON WITH FACEaFULL MOON WITH FACEaSUN WITH ",
    "FACEaGLOWING STARaSHOOTING STARaTHERMOMETERaBLACK DROPLETaWHITE SUNj WITH SMALL CLOUDkBEHIND ",
    "CLOUDw WITH RAINaCLOUD WITH RAINlSNOWlLIGHTNINGlTORNADOaFOGaWIND BLOWING FACEaHOT DOGaTACOaBU",
    "RRITOaCHESTNUTaSEEDLINGaEVERGREEN TREEaDECIDUOUS TREEaPALM TREEaCACTUSaHOT PEPPERaTULIPaCHERR",
    "Y BLOSSOMaROSEaHIBISCUSaSUNFLOWERaBLOSSOMaEAR OF MAIZEhRICEaHERBaFOUR LEAF CLOVERaMAPLE LEAFa",
    "FALLEN LEAFaLEAF FLUTTERING IN WINDaMUSHROOMaTOMATOaAUBERGINEaGRAPESaMELONaWATERMELONaTANGERI",
    "NEaLEMONaBANANAaPINEAPPLEaRED APPLEaGREEN APPLEaPEARdCHaCHERRIESaSTRAWBERRYaHAMBURGERaSLICE O",
    "F PIZZAaMEAT ON BONEaPOULTRY LEGaRICE CRACKERfBALLaCOOKED RICEbURRY AND RICEaSTEAMING BOWLbPA",
    "GHETTIaBREADaFRENCH FRIESaROASTED SWEET POTATOaDANGOaODENaSUSHIaFRIED SHRIMPbISH CAKE WITH SW",
    "IRL DESIGNaSOFT ICE CREAMbHAVED ICEaICE CREAMaDOUGHNUTaCOOKIEbHOCOLATE BARbANDYaLOLLIPOPaCUST",
    "ARDaHONEY POTaSHORTCAKEaBENTO BOXaPOT OF FOODaCOOKINGaFORK AND KNIFEaTEACUP WITHOUT HANDLEaSA",
    "KE BOTTLE AND CUPaWINE GLASSaCOCKTAIL GLASSaTROPICAL DRINKaBEER MUGaCLINKING BEER MUGSaBABY B",
    "OTTLEaFORK AND KNIFE WITH PLATEaBOTTLE WITH POPPING CORKaPOPCORNaRIBBONaWRAPPED PRESENTaBIRTH",
    "DAY CAKEaJACK-O-LANTERNaCHRISTMAS TREEaFATHER CHRISTMASbIREWORKSi SPARKLERaBALLOONaPARTY POPP",
    "ERaCONFETTI BALLaTANABATA TREEaCROSSED FLAGSaPINE DECORATIONaJAPANESE DOLLSaCARP STREAMERaWIN",
    "D CHIMEaMOON VIEWING CEREMONYaSCHOOL SATCHELaGRADUATION CAPaHEART WITH TIP ON THE LEFTaBOUQUE",
    "T OF FLOWERSaMILITARY MEDALaREMINDER RIBBONaMUSICAL KEYBOARD WITH JACKSaSTUDIO MICROPHONEaLEV",
    "EL SLIDERaCONTROL KNOBSaBEAMED ASCENDING MUSICAL NOTEShDESCENDING MUSICAL NOTESaFILM FRAMESaA",
    "DMISSION TICKETSaCAROUSEL HORSEaFERRIS WHEELaROLLER COASTERaFISHING POLE AND FISHaMICROPHONEb",
    "OVIE CAMERAaCINEMAaHEADPHONEaARTIST PALETTEaTOP HATaCIRCUS TENTaTICKETaCLAPPER BOARDaPERFORMI",
    "NG ARTSaVIDEO GAMEaDIRECT HITaSLOT MACHINEaBILLIARDSaGAME DIEaBOWLINGaFLOWER PLAYING CARDSaMU",
    "SICAL NOTEcLTIPLE MUSICAL NOTESaSAXOPHONEaGUITARaMUSICAL KEYBOARDaTRUMPETaVIOLINaMUSICAL SCOR",
    "EaRUNNING SHIRT WITH SASHaTENNIS RACQUET AND BALLaSKI AND SKI BOOTaBASKETBALL AND HOOPaCHEQUE",
    "RED FLAGaSNOWBOARDERaRUNNERaSURFERbPORTS MEDALaTROPHYaHORSE RACINGaAMERICAN FOOTBALLaRUGBY FO",
    "OTBALLaSWIMMERaWEIGHT LIFTERaGOLFERaRACING MOTORCYCLEhCARaCRICKET BAT AND BALLaVOLLEYBALLaFIE",
    "LD HOCKEY STICK AND BALLaICE HOCKEY STICK AND PUCKaTABLE TENNIS PADDLE AND BALLaSNOW CAPPED M",
    "OUNTAINaCAMPINGaBEACH WITH UMBRELLAbUILDING CONSTRUCTIONaHOUSE BUILDINGSaCITYSCAPEaDERELICT H",
    "OUSE BUILDINGaCLASSICAL BUILDINGaDESERTg ISLANDaNATIONAL PARKaSTADIUMaHOUSE BUILDINGgWITH GAR",
    "DENaOFFICE BUILDINGaJAPANESE POST OFFICEaEUROPEAN POST OFFICEaHOSPITALaBANKaAUTOMATED TELLER ",
    "MACHINEaHOTELaLOVE HOTELaCONVENIENCE STOREaSCHOOLaDEPARTMENT STOREaFACTORYaIZAKAYA LANTERNaJA",
    "PANESE CASTLEaEUROPEAN CASTLEaWHITE PENNANTaBLACK PENNANTaWAVING WHITE FLAGhBLACK FLAGaROSETT",
    "EaBLACK ROSETTEaLABELaBADMINTON RACQUET AND SHUTTLECOCKbOW AND ARROWaAMPHORAaEMOJI MODIFIER F",
    "ITZPATRICK TYPE-1-2bg3bg4bg5bg6aRATaMOUSEaOXaWATER BUFFALOaCOWaTIGERaLEOPARDaRABBITaCATaDRAGO",
    "NaCROCODILEaWHALEaSNAILdKEaHORSEaRAMaGOATaSHEEPaMONKEYaROOSTERaCHICKENaDOGaPIGaBOARaELEPHANTa",
    "OCTOPUSaSPIRAL SHELLaBUGaANTaHONEYBEEaLADY BEETLEaFISHaTROPICAL FISHaBLOWFISHaTURTLEaHATCHING",
    " CHICKaBABY CHICKaFRONT-FACING BABY CHICKaBIRDaPENGUINaKOALAaPOODLEaDROMEDARY CAMELaBACTRIAN ",
    "CAMELaDOLPHINaMOUSE FACEaCOW FACEaTIGER FACEaRABBIT FACEaCAT FACEaDRAGON FACEaSPOUTING WHALEa",
    "HORSE FACEaMONKEY FACEaDOG FACEaPIG FACEaFROG FACEaHAMSTER FACEaWOLF FACEaBEAR FACEaPANDA FAC",
    "EbIG NOSEbAW PRINTSaCHIPMUNKaEYEScEbARaNOSEaMOUTHaTONGUEaWHITE UP POINTING BACKHAND INDEXgDOW",
    "N POINTING BACKHAND INDEXgLEFT POINTING BACKHAND INDEXgRIGHT POINTING BACKHAND INDEXaFISTED H",
    "AND SIGNaWAVING HAND SIGNaOK HAND SIGNaTHUMBS UP SIGNhDOWN SIGNaCLAPPING HANDS SIGNaOPEN HAND",
    "S SIGNaCROWNaWOMANS HATaEYEGLASSESaNECKTIEaT-SHIRTaJEANSaDRESSaKIMONOaBIKINIaWOMANS CLOTHESaP",
    "URSEaHANDBAGaPOUCHaMANS SHOEaATHLETIC SHOEaHIGH-HEELED SHOEaWOMANS SANDALhBOOTSaFOOTPRINTSaBU",
    "ST IN SILHOUETTEeS IN SILHOUETTEbOYaGIRLaMANaWOMANaFAMILYaMAN AND WOMAN HOLDING HANDSaTWO MEN",
    " HOLDING HANDSeWOMEN HOLDING HANDSaPOLICE OFFICERaWOMAN WITH BUNNY EARSaBRIDE WITH VEILaPERSO",
    "N WITH BLOND HAIRaMAN WITH GUA PI MAOjTURBANaOLDER MANgWOMANaBABYaCONSTRUCTION WORKERaPRINCES",
    "SaJAPANESE OGREjGOBLINaGHOSTaBABY ANGELaEXTRATERRESTRIAL ALIENaALIEN MONSTERaIMPaSKULLaINFORM",
    "ATION DESK PERSONaGUARDSMANaDANCERaLIPSTICKaNAIL POLISHaFACE MASSAGEaHAIRCUTaBARBER POLEaSYRI",
    "NGEaPILLaKISS MARKaLOVE LETTERaRINGaGEM STONEaKISSaBOUQUETaCOUPLE WITH HEARTaWEDDINGaBEATING ",
    "HEARTbROKEN HEARTaTWO HEARTSaSPARKLING HEARTaGROWING HEARTaHEART WITH ARROWaBLUE HEARTaGREEN ",
    "HEARTaYELLOW HEARTaPURPLE HEARTaHEART WITH RIBBONaREVOLVING HEARTSaHEART DECORATIONaDIAMOND S",
    "HAPE WITH A DOT INSIDEaELECTRIC LIGHT BULBaANGER SYMBOLaBOMBaSLEEPING SYMBOLaCOLLISION SYMBOL",
    "aSPLASHING SWEAT SYMBOLaDROPLETbASH SYMBOLaPILE OF POOaFLEXED BICEPSaDIZZY SYMBOLaSPEECH BALL",
    "OONaTHOUGHT BALLOONaWHITE FLOWERaHUNDRED POINTS SYMBOLaMONEY BAGaCURRENCY EXCHANGEaHEAVY DOLL",
    "AR SIGNaCREDIT CARDaBANKNOTE WITH YEN SIGNoDOLLAR SIGNoEURO SIGNoPOUND SIGNaMONEY WITH WINGSa",
    "CHART WITH UPWARDS TREND AND YEN SIGNaSEATaPERSONAL COMPUTERaBRIEFCASEaMINIDISCaFLOPPY DISKaO",
    "PTICAL DISCaDVDaFILE FOLDERaOPEN FILE FOLDERaPAGE WITH CURLfFACING UPaCALENDARaTEAR-OFF CALEN",
    "DARaCARD INDEXbHART WITH UPWARDS TRENDlDOWNWARDS TRENDaBAR CHARTaCLIPBOARDaPUSHPINaROUND PUSH",
    "PINaPAPERCLIPaSTRAIGHT RULERaTRIANGULAR RULERaBOOKMARK TABSaLEDGERaNOTEBOOKi WITH DECORATIVE ",
    "COVERaCLOSED BOOKaOPEN BOOKaGREEN BOOKaBLUE BOOKaORANGE BOOKaBOOKSaNAME BADGEaSCROLLaMEMOaTEL",
    "EPHONE RECEIVERaPAGERaFAX MACHINEaSATELLITE ANTENNAaPUBLIC ADDRESS LOUDSPEAKERaCHEERING MEGAP",
    "HONEaOUTBOX TRAYaINBOX TRAYaPACKAGEaE-MAIL SYMBOLaINCOMING ENVELOPEaENVELOPE WITH DOWNWARDS A",
    "RROW ABOVEaCLOSED MAILBOX WITH LOWERED FLAGuRAISED FLAGaOPEN MAILBOX WITH RAISED FLAGsLOWERED",
    " FLAGaPOSTBOXeAL HORNaNEWSPAPERaMOBILE PHONEm WITH RIGHTWARDS ARROW AT LEFTaVIBRATION MODEaMO",
    "BILE PHONE OFFaNO MOBILE PHONESaANTENNA WITH BARSaCAMERAg WITH FLASHaVIDEO CAMERAaTELEVISIONa",
    "RADIOaVIDEOCASSETTEaFILM PROJECTORaPORTABLE STEREObRAYER BEADSaTWISTED RIGHTWARDS ARROWSaCLOC",
    "KWISE RIGHTWARDS AND LEFTWARDS OPEN CIRCLE ARROWScb WITH CIRCLED ONE OVERLAYkDOWNWARDS AND UP",
    "WARDS OPEN CIRCLE ARROWSaANTICLOCKWISE DOWNWARDS AND UPWARDS OPEN CIRCLE ARROWSaLOW BRIGHTNES",
    "S SYMBOLaHIGH BRIGHTNESS SYMBOLaSPEAKER WITH CANCELLATION STROKEgRh WITH ONE SOUND WAVEnTHREE",
    " SOUND WAVESaBATTERYaELECTRIC PLUGaLEFT-POINTING MAGNIFYING GLASSaRIGHT-POINTING MAGNIFYING G",
    "LASSaLOCK WITH INK PENaCLOSED LOCK WITH KEYaKEYaLOCKaOPEN LOCKaBELLe WITH CANCELLATION STROKE",
    "bOOKMARKaLINK SYMBOLaRADIO BUTTONaBACK WITH LEFTWARDS ARROW ABOVEaEND WITH LEFTWARDS ARROW AB",
    "OVEaON WITH EXCLAMATION MARK WITH LEFT RIGHT ARROW ABOVEaSOON WITH RIGHTWARDS ARROW ABOVEaTOP",
    " WITH UPWARDS ARROW ABOVEaNO ONE UNDER EIGHTEEN SYMBOLaKEYCAP TENaINPUT SYMBOL FOR LATIN CAPI",
    "TAL LETTERSxSMALL LETTERSrNUMBERSrSYMBOLSrLATIN LETTERSaFIREaELECTRIC TORCHaWRENCHaHAMMERaNUT",
    " AND BOLTaHOCHOaPISTOLaMICROSCOPEaTELESCOPEaCRYSTAL BALLaSIX POINTED STAR WITH MIDDLE DOTaJAP",
    "ANESE SYMBOL FOR BEGINNERaTRIDENT EMBLEMaBLACK SQUARE BUTTONaWHITE SQUARE BUTTONaLARGE RED CI",
    "RCLEgBLUE CIRCLEgORANGE DIAMONDgBLUE DIAMONDaSMALL ORANGE DIAMONDgBLUE DIAMONDaUP-POINTING RE",
    "D TRIANGLEaDOWN-POINTING RED TRIANGLEaUP-POINTING SMALL RED TRIANGLEaDOWN-POINTING SMALL RED ",
    "TRIANGLEaLOWER RIGHT SHADOWED WHITE CIRCLEaUPPER RIGHT SHADOWED WHITE CIRCLEaCIRCLED CROSS PO",
    "MMEEbROSS POMMEE WITH HALF-CIRCLE BELOWlEaNOTCHED LEFT SEMICIRCLE WITH THREE DOTSiRIGHT SEMIC",
    "IRCLE WITH THREE DOTSaSYMBOL FOR MARKS CHAPTERaWHITE LATIN CROSSaHEAVY LATIN CROSSaCELTIC CRO",
    "SSaOM SYMBOLaDOVE OF PEACEaKAABAaMOSQUEaSYNAGOGUEaMENORAH WITH NINE BRANCHESaBOWL OF HYGIEIAa",
    "CLOCK FACE ONE OCLOCKlTWO OCLOCKmHREE OCLOCKlFOUR OCLOCKmIVE OCLOCKlSIX OCLOCKmEVEN OCLOCKlEI",
    "GHT OCLOCKlNINE OCLOCKlTEN OCLOCKlELEVEN OCLOCKlTWELVE OCLOCKlONE-THIRTYlTWO-THIRTYmHREE-THIR",
    "TYlFOUR-THIRTYmIVE-THIRTYlSIX-THIRTYmEVEN-THIRTYlEIGHT-THIRTYlNINE-THIRTYlTEN-THIRTYlELEVEN-T",
    "HIRTYlTWELVE-THIRTYaRIGHT SPEAKERn WITH ONE SOUND WAVEtTHREE SOUND WAVESaBULLHORNi WITH SOUND",
    " WAVESaRINGING BELLaBOOKaCANDLEaMANTELPIECE CLOCKaBLACK SKULL AND CROSSBONESaNO PIRACYaHOLEaM",
    "AN IN BUSINESS SUIT LEVITATINGaSLEUTH OR SPYaDARK SUNGLASSESaSPIDERg WEBaJOYSTICKaMAN DANCING",
    "aLEFT HAND TELEPHONE RECEIVERaTELEPHONE RECEIVER WITH PAGEaRIGHT HAND TELEPHONE RECEIVERaWHIT",
    "E TOUCHTONE TELEPHONEaBLACK TOUCHTONE TELEPHONEaTELEPHONE ON TOP OF MODEMaCLAMSHELL MOBILE PH",
    "ONEaBACK OF ENVELOPEaSTAMPED ENVELOPEaENVELOPE WITH LIGHTNINGaFLYING ENVELOPEaPEN OVER STAMPE",
    "D ENVELOPEaLINKED PAPERCLIPSaBLACK PUSHPINaLOWER LEFT PENCILlBALLPOINT PENlFOUNTAIN PENlPAINT",
    "BRUSHlCRAYONbEFT WRITING HANDaTURNED OK HAND SIGNaRAISED HAND WITH FINGERS SPLAYEDbEVERSED RA",
    "ISED HAND WITH FINGERS SPLAYEDjTHUMBS UP SIGNqDOWN SIGNjVICTORY HANDjHAND WITH MIDDLE FINGER ",
    "EXTENDEDbAISED HAND WITH PART BETWEEN MIDDLE AND RING FINGERSaWHITE DOWN POINTING LEFT HAND I",
    "NDEXaSIDEWAYS WHITE LEFT POINTING INDEXpRIGHT POINTING INDEXjBLACK LEFT POINTING INDEXpRIGHT ",
    "POINTING INDEXaBLACK LEFT POINTING BACKHAND INDEXgRIGHT POINTING BACKHAND INDEXaSIDEWAYS WHIT",
    "E UP POINTING INDEXpDOWN POINTING INDEXjBLACK UP POINTING INDEXpDOWN POINTING INDEXaBLACK UP ",
    "POINTING BACKHAND INDEXgDOWN POINTING BACKHAND INDEXgHEARTaDESKTOP COMPUTERaKEYBOARD AND MOUS",
    "EaTHREE NETWORKED COMPUTERSaPRINTERbOCKET CALCULATORaBLACK HARD SHELL FLOPPY DISKaWHITE HARD ",
    "SHELL FLOPPY DISKaSOFT SHELL FLOPPY DISKaTAPE CARTRIDGEaWIRED KEYBOARDaONE BUTTON MOUSEaTWO B",
    "UTTON MOUSEbHREE BUTTON MOUSEbRACKBALLaOLD PERSONAL COMPUTERaHARD DISKaSCREENaPRINTER ICONaFA",
    "X ICONaOPTICAL DISC ICONaDOCUMENT WITH TEXTs AND PICTUREoPICTUREaFRAME WITH PICTURElTILESlAN ",
    "XaBLACK FOLDERaFOLDERaOPEN FOLDERaCARD INDEX DIVIDERSfFILE BOXaFILE CABINETaEMPTY NOTEk PAGEn",
    "DaNOTEe PAGEhDaEMPTY DOCUMENTgPAGEkSaDOCUMENTaPAGEeSaWASTEBASKETaSPIRAL NOTE PADhCALENDAR PAD",
    "aDESKTOP WINDOWaMINIMIZEbAXIMIZEaOVERLAPaCLOCKWISE RIGHT AND LEFT SEMICIRCLE ARROWSbANCELLATI",
    "ON XaINCREASE FONT SIZE SYMBOLaDECREASE FONT SIZE SYMBOLaCOMPRESSIONaOLD KEYaROLLED-UP NEWSPA",
    "PERaPAGE WITH CIRCLED TEXTaSTOCK CHARTaDAGGER KNIFEaLIPSaSPEAKING HEAD IN SILHOUETTEaTHREE RA",
    "YS ABOVElBELOWlLEFTlRIGHTaLEFT SPEECH BUBBLEaRIGHT SPEECH BUBBLEaTWO SPEECH BUBBLESbHREE SPEE",
    "CH BUBBLESaLEFT THOUGHT BUBBLEaRIGHT THOUGHT BUBBLEaLEFT ANGER BUBBLEaRIGHT ANGER BUBBLEaMOOD",
    " BUBBLEaLIGHTNING MOOD BUBBLEnDaBALLOT BOX WITH BALLOThSCRIPT XhBOX WITH SCRIPT XjLD SCRIPT X",
    "jX WITH BOLD SCRIPT XaLIGHT CHECK MARKaBALLOT BOX WITH BOLD CHECKaWORLD MAPaMOUNT FUJIaTOKYO ",
    "TOWERaSTATUE OF LIBERTYbILHOUETTE OF JAPANaMOYAIaGRINNING FACEn WITH SMILING EYESaFACE WITH T",
    "EARS OF JOYaSMILING FACE WITH OPEN MOUTHbc AND SMILING EYESbhCOLD SWEATbhTIGHTLY-CLOSED EYESs",
    "HALOtORNSaWINKING FACEaSMILING FACE WITH SMILING EYESaFACE SAVOURING DELICIOUS FOODaRELIEVED ",
    "FACEaSMILING FACE WITH HEART-SHAPED EYESsSUNGLASSESdRKING FACEaNEUTRAL FACEaEXPRESSIONLESS FA",
    "CEaUNAMUSED FACEaFACE WITH COLD SWEATaPENSIVE FACEaCONFUSED FACEeOUNDED FACEaKISSING FACEaFAC",
    "E THROWING A KISSaKISSING FACE WITH SMILING EYESsCLOSED EYESaFACE WITH STUCK-OUT TONGUEba AND",
    " WINKING EYEbfTIGHTLY-CLOSED EYESaDISAPPOINTED FACEaWORRIED FACEaANGRY FACEaPOUTING FACEaCRYI",
    "NG FACEaPERSEVERING FACEaFACE WITH LOOK OF TRIUMPHaDISAPPOINTED BUT RELIEVED FACEaFROWNING FA",
    "CE WITH OPEN MOUTHaANGUISHED FACEaFEARFUL FACEaWEARY FACEaSLEEPY FACEaTIRED FACEaGRIMACING FA",
    "CEaLOUDLY CRYING FACEaFACE WITH OPEN MOUTHaHUSHED FACEaFACE WITH OPEN MOUTH AND COLD SWEATfSC",
    "REAMING IN FEARaASTONISHED FACEaFLUSHED FACEaSLEEPING FACEaDIZZY FACEaFACE WITHOUT MOUTHj MED",
    "ICAL MASKaGRINNING CAT FACE WITH SMILING EYESaCAT FACE WITH TEARS OF JOYaSMILING CAT FACE WIT",
    "H OPEN MOUTHwHEART-SHAPED EYESaCAT FACE WITH WRY SMILEaKISSING CAT FACE WITH CLOSED EYESaPOUT",
    "ING CAT FACEaCRYING CAT FACEaWEARY CAT FACEaSLIGHTLY FROWNING FACEjSMILING FACEaUPSIDE-DOWN F",
    "ACEaFACE WITH ROLLING EYESkNO GOOD GESTUREkOK GESTUREaPERSON BOWING DEEPLYaSEE-NO-EVIL MONKEY",
    "aHEAR-NO-EVIL MONKEYaSPEAK-NO-EVIL MONKEYaHAPPY PERSON RAISING ONE HANDaPERSON RAISING BOTH H",
    "ANDS IN CELEBRATIONhFROWNINGhWITH POUTING FACEmFOLDED HANDSaNORTH WEST POINTING LEAFaSOUTH WE",
    "ST POINTING LEAFaNORTH EAST POINTING LEAFaSOUTH EAST POINTING LEAFaTURNED NORTH WEST POINTING",
    " LEAFhSOUTH WEST POINTING LEAFhNORTH EAST POINTING LEAFhSOUTH EAST POINTING LEAFaNORTH WEST P",
    "OINTING VINE LEAFaSOUTH WEST POINTING VINE LEAFaNORTH EAST POINTING VINE LEAFaSOUTH EAST POIN",
    "TING VINE LEAFaHEAVY NORTH WEST POINTING VINE LEAFgSOUTH WEST POINTING VINE LEAFgNORTH EAST P",
    "OINTING VINE LEAFgSOUTH EAST POINTING VINE LEAFaNORTH WEST POINTING BUDaSOUTH WEST POINTING B",
    "UDaNORTH EAST POINTING BUDaSOUTH EAST POINTING BUDaHEAVY NORTH WEST POINTING BUDgSOUTH WEST P",
    "OINTING BUDgNORTH EAST POINTING BUDgSOUTH EAST POINTING BUDbOLLOW QUILT SQUARE ORNAMENTbc IN ",
    "BLACK SQUAREaSOLID QUILT SQUARE ORNAMENTbb IN BLACK SQUAREaLEFTWARDS ROCKETaUPWARDS ROCKETaRI",
    "GHTWARDS ROCKETaDOWNWARDS ROCKETaSCRIPT LIGATURE ET ORNAMENTaHEAVY SCRIPT LIGATURE ET ORNAMEN",
    "TaLIGATURE OPEN ET ORNAMENTaHEAVY LIGATURE OPEN ET ORNAMENTgAMPERSAND ORNAMENTaSWASH AMPERSAN",
    "D ORNAMENTbANS-SERIF HEAVY DOUBLE TURNED COMMA QUOTATION MARK ORNAMENTyCOMMA QUOTATION MARK O",
    "RNAMENTrLOW DOUBLE COMMA QUOTATION MARK ORNAMENTaHEAVY INTERROBANG ORNAMENTaSANS-SERIF INTERR",
    "OBANG ORNAMENTaHEAVY SANS-SERIF INTERROBANG ORNAMENTaVERY HEAVY SOLIDUSlREVERSE SOLIDUSaCHECK",
    "ER BOARDaREVERSE CHECKER BOARDbOCKETaHELICOPTERaSTEAM LOCOMOTIVEaRAILWAY CARaHIGH-SPEED TRAIN",
    "q WITH BULLET NOSEaTRAINaMETROaLIGHT RAILaSTATIONaTRAMe CARaBUSaONCOMING BUSaTROLLEYBUSaBUS S",
    "TOPaMINIBUSaAMBULANCEaFIRE ENGINEaPOLICE CARaONCOMING POLICE CARaTAXIaONCOMING TAXIaAUTOMOBIL",
    "EaONCOMING AUTOMOBILEaRECREATIONAL VEHICLEaDELIVERY TRUCKaARTICULATED LORRYaTRACTORaMONORAILc",
    "UNTAIN RAILWAYaSUSPENSION RAILWAYaMOUNTAIN CABLEWAYaAERIAL TRAMWAYaSHIPaROWBOATaSPEEDBOATaHOR",
    "IZONTAL TRAFFIC LIGHTaVERTICAL TRAFFIC LIGHTaCONSTRUCTION SIGNaPOLICE CARS REVOLVING LIGHTaTR",
    "IANGULAR FLAG ON POSTaDOORaNO ENTRY SIGNaSMOKING SYMBOLaNO SMOKING SYMBOLaPUT LITTER IN ITS P",
    "LACE SYMBOLaDO NOT LITTER SYMBOLaPOTABLE WATER SYMBOLaNON-POTABLE WATER SYMBOLaBICYCLEaNO BIC",
    "YCLESaBICYCLISTaMOUNTAIN BICYCLISTaPEDESTRIANaNO PEDESTRIANSaCHILDREN CROSSINGaMENS SYMBOLaWO",
    "MENS SYMBOLaRESTROOMaBABY SYMBOLaTOILETaWATER CLOSETaSHOWERaBATHeTUBaPASSPORT CONTROLaCUSTOMS",
    "aBAGGAGE CLAIMaLEFT LUGGAGEaTRIANGLE WITH ROUNDED CORNERSaPROHIBITED SIGNaCIRCLED INFORMATION",
    " SOURCEaBOYS SYMBOLaGIRLS SYMBOLaCOUCH AND LAMPaSLEEPING ACCOMMODATIONbHOPPING BAGSaBELLHOP B",
    "ELLcDaPLACE OF WORSHIPaOCTAGONAL SIGNaSHOPPING TROLLEYbTUPAaPAGODAaHINDU TEMPLEbUTaELEVATO",
    "R"]),
  (0x1f6dd, ["aPLAYGROUND SLIDEaWHEELaRING BUOYaHAMMER AND WRENCHaSHIELDaOIL DRUMaMOTORWAYaRAILWAY",
    " TRACKaMOTOR BOATaUP-POINTING MILITARY AIRPLANEmAIRPLANEmSMALL AIRPLANEaSMALL AIRPLANEaNORTHE",
    "AST-POINTING AIRPLANEaAIRPLANE DEPARTUREjARRIVING"]),
  (0x1f6f0, ["aSATELLITEaONCOMING FIRE ENGINEaDIESEL LOCOMOTIVEaPASSENGER SHIPaSCOOTERaMOTOR SCOOT",
    "ERaCANOEaSLEDaFLYING SAUCERaSKATEBOARDaAUTO RICKSHAWaPICKUP TRUCKaROLLER SKATE"]),
  (0x1f700, ["aALCHEMICAL SYMBOL FOR QUINTESSENCEwAIRwFIREwEARTHwWATERwAQUAFORTISba REGIAbg-2bbVIT",
    "AEbg-2wVINEGARbd-2be3wSULFURwPHILOSOPHERS SULFURwBLACK SULFURwMERCURY SUBLIMATEbn-2bo3wCINNAB",
    "ARwSALTwNITREwVITRIOLbd-2wROCK SALTbf-2wGOLDwSILVERwIRON OREbe-2wCROCUS OF IRONwREGULUS OF IR",
    "ONwCOPPER OREwIRON-COPPER OREwSUBLIMATE OF COPPERwCROCUS OF COPPERbm-2xOPPER ANTIMONIATEwSALT",
    " OF COPPER ANTIMONIATExUBLIMATE OF SALT OF COPPERwVERDIGRISwTIN OREwLEAD OREwANTIMONY OREwSUB",
    "LIMATE OF ANTIMONYxALT OF ANTIMONYxUBLIMATE OF SALT OF ANTIMONYwVINEGAR OF ANTIMONYwREGULUS O",
    "F ANTIMONYbp-2bcSbd-2be3be4wALKALIbc-2wMARCASITEwSAL-AMMONIACwARSENICwREALGARbd-2wAURIPIGMENT",
    "wBISMUTH OREwTARTARbc-2wQUICK LIMEwBORAXbb-2bc3wALUMwOILwSPIRITwTINCTUREwGUMwWAXwPOWDERwCALXw",
    "TUTTYwCAPUT MORTUUMwSCEPTER OF JOVEwCADUCEUSwTRIDENTwSTARRED TRIDENTwLODESTONEwSOAPwURINEwHOR",
    "SE DUNGwASHESwPOT ASHESwBRICKwPOWDERED BRICKwAMALGAMwSTRATUM SUPER STRATUMbr-2xUBLIMATIONwPRE",
    "CIPITATEwDISTILLzSOLVEbe-2wPURIFYyTREFACTIONwCRUCIBLEbe-2bf3bf4bf5wALEMBICwBATH OF MARYbeVAPO",
    "URSwRETORTwHOURwNIGHTwDAY-NIGHTwMONTHwHALF DRAMbbOUNCE"]),
  (0x1f780, ["aBLACK LEFT-POINTING ISOSCELES RIGHT TRIANGLEgUP-POINTING ISOSCELES RIGHT TRIANGLEgR",
    "IGHT-POINTING ISOSCELES RIGHT TRIANGLEgDOWN-POINTING ISOSCELES RIGHT TRIANGLEgSLIGHTLY SMALL ",
    "CIRCLEaMEDIUM BOLD WHITE CIRCLEaBOLD WHITE CIRCLEaHEAVY WHITE CIRCLEaVERY HEAVY WHITE CIRCLEa",
    "EXTREMELY HEAVY WHITE CIRCLEaWHITE CIRCLE CONTAINING BLACK SMALL CIRCLEaROUND TARGETaBLACK TI",
    "NY SQUAREgSLIGHTLY SMALL SQUAREaLIGHT WHITE SQUAREaMEDIUM WHITE SQUAREaBOLD WHITE SQUAREaHEAV",
    "Y WHITE SQUAREaVERY HEAVY WHITE SQUAREaEXTREMELY HEAVY WHITE SQUAREaWHITE SQUARE CONTAINING B",
    "LACK VERY SMALL SQUAREbeMEDIUM SQUAREaSQUARE TARGETaBLACK TINY DIAMONDgVERY SMALL DIAMONDgMED",
    "IUM SMALL DIAMONDaWHITE DIAMOND CONTAINING BLACK VERY SMALL DIAMONDbfMEDIUM DIAMONDaDIAMOND T",
    "ARGETaBLACK TINY LOZENGEgVERY SMALL LOZENGEgMEDIUM SMALL LOZENGEaWHITE LOZENGE CONTAINING BLA",
    "CK SMALL LOZENGEaTHIN GREEK CROSSaLIGHT GREEK CROSSaMEDIUM GREEK CROSSaBOLD GREEK CROSSaVERY ",
    "BOLD GREEK CROSSfHEAVY GREEK CROSSaEXTREMELY HEAVY GREEK CROSSaTHIN SALTIREaLIGHT SALTIREaMED",
    "IUM SALTIREaBOLD SALTIREaHEAVY SALTIREaVERY HEAVY SALTIREaEXTREMELY HEAVY SALTIREaLIGHT FIVE ",
    "SPOKED ASTERISKaMEDIUM FIVE SPOKED ASTERISKaBOLD FIVE SPOKED ASTERISKaHEAVY FIVE SPOKED ASTER",
    "ISKaVERY HEAVY FIVE SPOKED ASTERISKaEXTREMELY HEAVY FIVE SPOKED ASTERISKaLIGHT SIX SPOKED AST",
    "ERISKaMEDIUM SIX SPOKED ASTERISKaBOLD SIX SPOKED ASTERISKaHEAVY SIX SPOKED ASTERISKaVERY HEAV",
    "Y SIX SPOKED ASTERISKaEXTREMELY HEAVY SIX SPOKED ASTERISKaLIGHT EIGHT SPOKED ASTERISKaMEDIUM ",
    "EIGHT SPOKED ASTERISKaBOLD EIGHT SPOKED ASTERISKaHEAVY EIGHT SPOKED ASTERISKaVERY HEAVY EIGHT",
    " SPOKED ASTERISKaLIGHT THREE POINTED BLACK STARaMEDIUM THREE POINTED BLACK STARaTHREE POINTED",
    " BLACK STARaMEDIUM THREE POINTED PINWHEEL STARaLIGHT FOUR POINTED BLACK STARaMEDIUM FOUR POIN",
    "TED BLACK STARaFOUR POINTED BLACK STARaMEDIUM FOUR POINTED PINWHEEL STARaREVERSE LIGHT FOUR P",
    "OINTED PINWHEEL STARaLIGHT FIVE POINTED BLACK STARaHEAVY FIVE POINTED BLACK STARaMEDIUM SIX P",
    "OINTED BLACK STARaHEAVY SIX POINTED BLACK STARaSIX POINTED PINWHEEL STARaMEDIUM EIGHT POINTED",
    " BLACK STARaHEAVY EIGHT POINTED BLACK STARaVERY HEAVY EIGHT POINTED BLACK STARaHEAVY EIGHT PO",
    "INTED PINWHEEL STARaLIGHT TWELVE POINTED BLACK STARaHEAVY TWELVE POINTED BLACK STARvPINWHEEL ",
    "STARaCIRCLED TRIANGLEaNEGATIVE CIRCLED TRIANGLEaCIRCLED SQUAREaNEGATIVE CIRCLED SQUARE"]),
  (0x1f7e0, ["aLARGE ORANGE CIRCLEgYELLOW CIRCLEgGREEN CIRCLEgPURPLE CIRCLEgBROWN CIRCLEgRED SQUAR",
    "EgBLUE SQUAREgORANGE SQUAREgYELLOW SQUAREgGREEN SQUAREgPURPLE SQUAREgBROWN SQUARE"]),
  (0x1f7f0, ["aHEAVY EQUALS SIGN"]),
  (0x1f800, ["aLEFTWARDS ARROW WITH SMALL TRIANGLE ARROWHEADaUPWARDS ARROW WITH SMALL TRIANGLE ARR",
    "OWHEADaRIGHTWARDS ARROW WITH SMALL TRIANGLE ARROWHEADaDOWNWARDS ARROW WITH SMALL TRIANGLE ARR",
    "OWHEADaLEFTWARDS ARROW WITH MEDIUM TRIANGLE ARROWHEADaUPWARDS ARROW WITH MEDIUM TRIANGLE ARRO",
    "WHEADaRIGHTWARDS ARROW WITH MEDIUM TRIANGLE ARROWHEADaDOWNWARDS ARROW WITH MEDIUM TRIANGLE AR",
    "ROWHEADaLEFTWARDS ARROW WITH LARGE TRIANGLE ARROWHEADaUPWARDS ARROW WITH LARGE TRIANGLE ARROW",
    "HEADaRIGHTWARDS ARROW WITH LARGE TRIANGLE ARROWHEADaDOWNWARDS ARROW WITH LARGE TRIANGLE ARROW",
    "HEAD"]),
  (0x1f810, ["aLEFTWARDS ARROW WITH SMALL EQUILATERAL ARROWHEADaUPWARDS ARROW WITH SMALL EQUILATER",
    "AL ARROWHEADaRIGHTWARDS ARROW WITH SMALL EQUILATERAL ARROWHEADaDOWNWARDS ARROW WITH SMALL EQU",
    "ILATERAL ARROWHEADaLEFTWARDS ARROW WITH EQUILATERAL ARROWHEADaUPWARDS ARROW WITH EQUILATERAL ",
    "ARROWHEADaRIGHTWARDS ARROW WITH EQUILATERAL ARROWHEADaDOWNWARDS ARROW WITH EQUILATERAL ARROWH",
    "EADaHEAVY LEFTWARDS ARROW WITH EQUILATERAL ARROWHEADgUPWARDS ARROW WITH EQUILATERAL ARROWHEAD",
    "gRIGHTWARDS ARROW WITH EQUILATERAL ARROWHEADgDOWNWARDS ARROW WITH EQUILATERAL ARROWHEADgLEFTW",
    "ARDS ARROW WITH LARGE EQUILATERAL ARROWHEADgUPWARDS ARROW WITH LARGE EQUILATERAL ARROWHEADgRI",
    "GHTWARDS ARROW WITH LARGE EQUILATERAL ARROWHEADgDOWNWARDS ARROW WITH LARGE EQUILATERAL ARROWH",
    "EADaLEFTWARDS TRIANGLE-HEADED ARROW WITH NARROW SHAFTaUPWARDS TRIANGLE-HEADED ARROW WITH NARR",
    "OW SHAFTaRIGHTWARDS TRIANGLE-HEADED ARROW WITH NARROW SHAFTaDOWNWARDS TRIANGLE-HEADED ARROW W",
    "ITH NARROW SHAFTaLEFTWARDS TRIANGLE-HEADED ARROW WITH MEDIUM SHAFTaUPWARDS TRIANGLE-HEADED AR",
    "ROW WITH MEDIUM SHAFTaRIGHTWARDS TRIANGLE-HEADED ARROW WITH MEDIUM SHAFTaDOWNWARDS TRIANGLE-H",
    "EADED ARROW WITH MEDIUM SHAFTaLEFTWARDS TRIANGLE-HEADED ARROW WITH BOLD SHAFTaUPWARDS TRIANGL",
    "E-HEADED ARROW WITH BOLD SHAFTaRIGHTWARDS TRIANGLE-HEADED ARROW WITH BOLD SHAFTaDOWNWARDS TRI",
    "ANGLE-HEADED ARROW WITH BOLD SHAFTaLEFTWARDS TRIANGLE-HEADED ARROW WITH HEAVY SHAFTaUPWARDS T",
    "RIANGLE-HEADED ARROW WITH HEAVY SHAFTaRIGHTWARDS TRIANGLE-HEADED ARROW WITH HEAVY SHAFTaDOWNW",
    "ARDS TRIANGLE-HEADED ARROW WITH HEAVY SHAFTaLEFTWARDS TRIANGLE-HEADED ARROW WITH VERY HEAVY S",
    "HAFTaUPWARDS TRIANGLE-HEADED ARROW WITH VERY HEAVY SHAFTaRIGHTWARDS TRIANGLE-HEADED ARROW WIT",
    "H VERY HEAVY SHAFTaDOWNWARDS TRIANGLE-HEADED ARROW WITH VERY HEAVY SHAFTaLEFTWARDS FINGER-POS",
    "T ARROWaUPWARDS FINGER-POST ARROWaRIGHTWARDS FINGER-POST ARROWaDOWNWARDS FINGER-POST ARROWaLE",
    "FTWARDS SQUARED ARROWaUPWARDS SQUARED ARROWaRIGHTWARDS SQUARED ARROWaDOWNWARDS SQUARED ARROWa",
    "LEFTWARDS COMPRESSED ARROWaUPWARDS COMPRESSED ARROWaRIGHTWARDS COMPRESSED ARROWaDOWNWARDS COM",
    "PRESSED ARROWaLEFTWARDS HEAVY COMPRESSED ARROWaUPWARDS HEAVY COMPRESSED ARROWaRIGHTWARDS HEAV",
    "Y COMPRESSED ARROWaDOWNWARDS HEAVY COMPRESSED ARROWaLEFTWARDS HEAVY ARROWaUPWARDS HEAVY ARROW",
    "aRIGHTWARDS HEAVY ARROWaDOWNWARDS HEAVY ARROW"]),
  (0x1f850, ["aLEFTWARDS SANS-SERIF ARROWaUPWARDS SANS-SERIF ARROWaRIGHTWARDS SANS-SERIF ARROWaDOW",
    "NWARDS SANS-SERIF ARROWaNORTH WEST SANS-SERIF ARROWgEAST SANS-SERIF ARROWaSOUTH EAST SANS-SER",
    "IF ARROWgWEST SANS-SERIF ARROWaLEFT RIGHT SANS-SERIF ARROWaUP DOWN SANS-SERIF ARROW"]),
  (0x1f860, ["aWIDE-HEADED LEFTWARDS LIGHT BARB ARROWmUPWARDS LIGHT BARB ARROWmRIGHTWARDS LIGHT BA",
    "RB ARROWmDOWNWARDS LIGHT BARB ARROWmNORTH WEST LIGHT BARB ARROWsEAST LIGHT BARB ARROWmSOUTH E",
    "AST LIGHT BARB ARROWsWEST LIGHT BARB ARROWmLEFTWARDS BARB ARROWmUPWARDS BARB ARROWmRIGHTWARDS",
    " BARB ARROWmDOWNWARDS BARB ARROWmNORTH WEST BARB ARROWsEAST BARB ARROWmSOUTH EAST BARB ARROWs",
    "WEST BARB ARROWmLEFTWARDS MEDIUM BARB ARROWmUPWARDS MEDIUM BARB ARROWmRIGHTWARDS MEDIUM BARB ",
    "ARROWmDOWNWARDS MEDIUM BARB ARROWmNORTH WEST MEDIUM BARB ARROWsEAST MEDIUM BARB ARROWmSOUTH E",
    "AST MEDIUM BARB ARROWsWEST MEDIUM BARB ARROWmLEFTWARDS HEAVY BARB ARROWmUPWARDS HEAVY BARB AR",
    "ROWmRIGHTWARDS HEAVY BARB ARROWmDOWNWARDS HEAVY BARB ARROWmNORTH WEST HEAVY BARB ARROWsEAST H",
    "EAVY BARB ARROWmSOUTH EAST HEAVY BARB ARROWsWEST HEAVY BARB ARROWmLEFTWARDS VERY HEAVY BARB A",
    "RROWmUPWARDS VERY HEAVY BARB ARROWmRIGHTWARDS VERY HEAVY BARB ARROWmDOWNWARDS VERY HEAVY BARB",
    " ARROWmNORTH WEST VERY HEAVY BARB ARROWsEAST VERY HEAVY BARB ARROWmSOUTH EAST VERY HEAVY BARB",
    " ARROWsWEST VERY HEAVY BARB ARROW"]),
  (0x1f890, ["aLEFTWARDS TRIANGLE ARROWHEADaUPWARDS TRIANGLE ARROWHEADaRIGHTWARDS TRIANGLE ARROWHE",
    "ADaDOWNWARDS TRIANGLE ARROWHEADaLEFTWARDS WHITE ARROW WITHIN TRIANGLE ARROWHEADaUPWARDS WHITE",
    " ARROW WITHIN TRIANGLE ARROWHEADaRIGHTWARDS WHITE ARROW WITHIN TRIANGLE ARROWHEADaDOWNWARDS W",
    "HITE ARROW WITHIN TRIANGLE ARROWHEADaLEFTWARDS ARROW WITH NOTCHED TAILaUPWARDS ARROW WITH NOT",
    "CHED TAILaRIGHTWARDS ARROW WITH NOTCHED TAILaDOWNWARDS ARROW WITH NOTCHED TAILaHEAVY ARROW SH",
    "AFT WIDTH ONEyTWO THIRDSyONE HALFbcTHIRDaLEFTWARDS BOTTOM-SHADED WHITE ARROWaRIGHTWARDS BOTTO",
    "M SHADED WHITE ARROWaLEFTWARDS TOP SHADED WHITE ARROWaRIGHTWARDS TOP SHADED WHITE ARROWaLEFTW",
    "ARDS LEFT-SHADED WHITE ARROWaRIGHTWARDS RIGHT-SHADED WHITE ARROWaLEFTWARDS RIGHT-SHADED WHITE",
    " ARROWaRIGHTWARDS LEFT-SHADED WHITE ARROWaLEFTWARDS BACK-TILTED SHADOWED WHITE ARROWaRIGHTWAR",
    "DS BACK-TILTED SHADOWED WHITE ARROWaLEFTWARDS FRONT-TILTED SHADOWED WHITE ARROWaRIGHTWARDS FR",
    "ONT-TILTED SHADOWED WHITE ARROWaWHITE ARROW SHAFT WIDTH ONEyTWO THIRDS"]),
  (0x1f8b0, ["aARROW POINTING UPWARDS THEN NORTH WESTpRIGHTWARDS THEN CURVING SOUTH WEST"]),
  (0x1f900, ["aCIRCLED CROSS FORMEE WITH FOUR DOTSbaTWO DOTStEaLEFT HALF CIRCLE WITH FOUR DOTSwTHR",
    "EE DOTSxWO DOTSwDOTpEaDOWNWARD FACING HOOKqNOTCHED HOOKqHOOK WITH DOTqNOTCHED HOOK WITH DOTaP",
    "INCHED FINGERSaWHITE HEARTaBROWN HEARTaPINCHING HANDaZIPPER-MOUTH FACEaMONEY-MOUTH FACEaFACE ",
    "WITH THERMOMETERaNERD FACEaTHINKING FACEaFACE WITH HEAD-BANDAGEaROBOT FACEaHUGGING FACEaSIGN ",
    "OF THE HORNSaCALL ME HANDaRAISED BACK OF HANDaLEFT-FACING FISTaRIGHT-FACING FISTaHANDSHAKEe W",
    "ITH INDEX AND MIDDLE FINGERS CROSSEDaI LOVE YOU HAND SIGNaFACE WITH COWBOY HATaCLOWN FACEaNAU",
    "SEATED FACEaROLLING ON THE FLOOR LAUGHINGaDROOLING FACEaLYING FACEaFACE PALMaSNEEZING FACEaFA",
    "CE WITH ONE EYEBROW RAISEDaGRINNING FACE WITH STAR EYEStONE LARGE AND ONE SMALL EYEaFACE WITH",
    " FINGER COVERING CLOSED LIPSaSERIOUS FACE WITH SYMBOLS COVERING MOUTHbMILING FACE WITH SMILIN",
    "G EYES AND HAND COVERING MOUTHaFACE WITH OPEN MOUTH VOMITINGaSHOCKED FACE WITH EXPLODING HEAD",
    "aPREGNANT WOMANaBREAST-FEEDINGaPALMS UP TOGETHERaSELFIEaPRINCEaMAN IN TUXEDObOTHER CHRISTMASa",
    "SHRUGaPERSON DOING CARTWHEELaJUGGLINGaFENCERaMODERN PENTATHLONaWRESTLERSbATER POLOaHANDBALLaD",
    "IVING MASKaWILTED FLOWERaDRUM WITH DRUMSTICKSaCLINKING GLASSESaTUMBLER GLASSaSPOONaGOAL NETaR",
    "IFLEaFIRST PLACE MEDALaSECOND PLACE MEDALaTHIRD PLACE MEDALaBOXING GLOVEaMARTIAL ARTS UNIFORM",
    "aCURLING STONEaLACROSSE STICK AND BALLaSOFTBALLaFLYING DISCaCROISSANTaAVOCADOaCUCUMBERaBACONa",
    "POTATOaCARROTaBAGUETTE BREADaGREEN SALADaSHALLOW PAN OF FOODbTUFFED FLATBREADaEGGaGLASS OF MI",
    "LKaPEANUTSaKIWIFRUITaPANCAKESaDUMPLINGaFORTUNE COOKIEaTAKEOUT BOXaCHOPSTICKSaBOWL WITH SPOONa",
    "CUP WITH STRAWbOCONUTaBROCCOLIaPIEbRETZELaCUT OF MEATaSANDWICHaCANNED FOODaLEAFY GREENaMANGOb",
    "OON CAKEaBAGELaSMILING FACE WITH SMILING EYES AND THREE HEARTSaYAWNING FACEaSMILING FACE WITH",
    " TEARaFACE WITH PARTY HORN AND PARTY HATkUNEVEN EYES AND WAVY MOUTHaOVERHEATED FACEaFREEZING ",
    "FACEaNINJAaDISGUISED FACEaFACE HOLDING BACK TEARSfWITH PLEADING EYESaSARIaLAB COATaGOGGLESaHI",
    "KING BOOTaFLAT SHOEaCRABaLION FACEaSCORPIONaTURKEYaUNICORN FACEaEAGLEaDUCKaBATaSHARKaOWLaFOX ",
    "FACEaBUTTERFLYaDEERaGORILLAaLIZARDaRHINOCEROSaSHRIMPbQUIDaGIRAFFE FACEaZEBRA FACEaHEDGEHOGaSA",
    "UROPODaT-REXaCRICKETaKANGAROOaLLAMAaPEACOCKaHIPPOPOTAMUSaPARROTaRACCOONaLOBSTERaMOSQUITObICRO",
    "BEaBADGERaSWANaMAMMOTHaDODOaSLOTHaOTTERbRANGUTANaSKUNKaFLAMINGOaOYSTERaBEAVERbISONaSEALaGUIDE",
    " DOGaPROBING CANEaEMOJI COMPONENT RED HAIRqCURLY HAIRqBALDqWHITE HAIRaBONEaLEGaFOOTaTOOTHaSUP",
    "ERHEROfVILLAINbAFETY VESTaEAR WITH HEARING AIDaMOTORIZED WHEELCHAIRbANUAL WHEELCHAIRbECHANICA",
    "L ARMlLEGaCHEESE WEDGEbUPCAKEaSALT SHAKERaBEVERAGE BOXaGARLICaONIONaFALAFELaWAFFLEaBUTTERaMAT",
    "E DRINKaICE CUBEaBUBBLE TEAaTROLLaSTANDING PERSONaKNEELING PERSONaDEAF PERSONaFACE WITH MONOC",
    "LEaADULTaCHILDaOLDER ADULTaBEARDED PERSONaPERSON WITH HEADSCARFhIN STEAMY ROOMhCLIMBINGhIN LO",
    "TUS POSITIONaMAGEaFAIRYaVAMPIREaMERPERSONaELFaGENIEaZOMBIEaBRAINaORANGE HEARTaBILLED CAPaSCAR",
    "FaGLOVESaCOATaSOCKSaRED GIFT ENVELOPEaFIRECRACKERaJIGSAW PUZZLE PIECEaTEST TUBEaPETRI DISHaDN",
    "A DOUBLE HELIXaCOMPASSaABACUSaFIRE EXTINGUISHERaTOOLBOXaBRICKaMAGNETaLUGGAGEbOTION BOTTLEaSPO",
    "OL OF THREADaBALL OF YARNaSAFETY PINaTEDDY BEARaBROOMbASKETaROLL OF PAPERaBAR OF SOAPaSPONGEa",
    "RECEIPTaNAZAR AMULETbEUTRAL CHESS KINGoQUEENoROOKoBISHOPoKNIGHToPAWNaWHITE CHESS KNIGHT ROTAT",
    "ED FORTY-FIVE DEGREESaBLACK CHESS KNIGHT ROTATED FORTY-FIVE DEGREESaNEUTRAL CHESS KNIGHT ROTA",
    "TED FORTY-FIVE DEGREESaWHITE CHESS KING ROTATED NINETY DEGREESmQUEEN ROTATED NINETY DEGREESmR",
    "OOK ROTATED NINETY DEGREESmBISHOP ROTATED NINETY DEGREESmKNIGHT ROTATED NINETY DEGREESmPAWN R",
    "OTATED NINETY DEGREESaBLACK CHESS KING ROTATED NINETY DEGREESmQUEEN ROTATED NINETY DEGREESmRO",
    "OK ROTATED NINETY DEGREESmBISHOP ROTATED NINETY DEGREESmKNIGHT ROTATED NINETY DEGREESmPAWN RO",
    "TATED NINETY DEGREESaNEUTRAL CHESS KING ROTATED NINETY DEGREESoQUEEN ROTATED NINETY DEGREESoR",
    "OOK ROTATED NINETY DEGREESoBISHOP ROTATED NINETY DEGREESoKNIGHT ROTATED NINETY DEGREESoPAWN R",
    "OTATED NINETY DEGREESaWHITE CHESS KNIGHT ROTATED ONE HUNDRED THIRTY-FIVE DEGREESaBLACK CHESS ",
    "KNIGHT ROTATED ONE HUNDRED THIRTY-FIVE DEGREESaNEUTRAL CHESS KNIGHT ROTATED ONE HUNDRED THIRT",
    "Y-FIVE DEGREESaWHITE CHESS TURNED KINGtQUEENtROOKtBISHOPtKNIGHTtPAWNaBLACK CHESS TURNED KINGt",
    "QUEENtROOKtBISHOPtKNIGHTtPAWNaNEUTRAL CHESS TURNED KINGvQUEENvROOKvBISHOPvKNIGHTvPAWNaWHITE C",
    "HESS KNIGHT ROTATED TWO HUNDRED TWENTY-FIVE DEGREESaBLACK CHESS KNIGHT ROTATED TWO HUNDRED TW",
    "ENTY-FIVE DEGREESaNEUTRAL CHESS KNIGHT ROTATED TWO HUNDRED TWENTY-FIVE DEGREESaWHITE CHESS KI",
    "NG ROTATED TWO HUNDRED SEVENTY DEGREESmQUEEN ROTATED TWO HUNDRED SEVENTY DEGREESmROOK ROTATED",
    " TWO HUNDRED SEVENTY DEGREESmBISHOP ROTATED TWO HUNDRED SEVENTY DEGREESmKNIGHT ROTATED TWO HU",
    "NDRED SEVENTY DEGREESmPAWN ROTATED TWO HUNDRED SEVENTY DEGREESaBLACK CHESS KING ROTATED TWO H",
    "UNDRED SEVENTY DEGREESmQUEEN ROTATED TWO HUNDRED SEVENTY DEGREESmROOK ROTATED TWO HUNDRED SEV",
    "ENTY DEGREESmBISHOP ROTATED TWO HUNDRED SEVENTY DEGREESmKNIGHT ROTATED TWO HUNDRED SEVENTY DE",
    "GREESmPAWN ROTATED TWO HUNDRED SEVENTY DEGREESaNEUTRAL CHESS KING ROTATED TWO HUNDRED SEVENTY",
    " DEGREESoQUEEN ROTATED TWO HUNDRED SEVENTY DEGREESoROOK ROTATED TWO HUNDRED SEVENTY DEGREESoB",
    "ISHOP ROTATED TWO HUNDRED SEVENTY DEGREESoKNIGHT ROTATED TWO HUNDRED SEVENTY DEGREESoPAWN ROT",
    "ATED TWO HUNDRED SEVENTY DEGREESaWHITE CHESS KNIGHT ROTATED THREE HUNDRED FIFTEEN DEGREESaBLA",
    "CK CHESS KNIGHT ROTATED THREE HUNDRED FIFTEEN DEGREESaNEUTRAL CHESS KNIGHT ROTATED THREE HUND",
    "RED FIFTEEN DEGREESaWHITE CHESS EQUIHOPPERaBLACK CHESS EQUIHOPPERaNEUTRAL CHESS EQUIHOPPERaWH",
    "ITE CHESS EQUIHOPPER ROTATED NINETY DEGREESaBLACK CHESS EQUIHOPPER ROTATED NINETY DEGREESaNEU",
    "TRAL CHESS EQUIHOPPER ROTATED NINETY DEGREESaWHITE CHESS KNIGHT-QUEENtROOKtBISHOPaBLACK CHESS",
    " KNIGHT-QUEENtROOKtBISHOP"]),
  (0x1fa60, ["aXIANGQI RED GENERALmMANDARINmELEPHANTmHORSEmCHARIOTnANNONmSOLDIERiBLACK GENERALoMAN",
    "DARINoELEPHANToHORSEoCHARIOTpANNONoSOLDIER"]),
  (0x1fa70, ["aBALLET SHOESaONE-PIECE SWIMSUITaBRIEFSaSHORTSaTHONG SANDAL"]),
  (0x1fa78, ["aDROP OF BLOODaADHESIVE BANDAGEaSTETHOSCOPEaX-RAYaCRUTCH"]),
  (0x1fa80, ["aYO-YOaKITEaPARACHUTEaBOOMERANGaMAGIC WANDaPINATAaNESTING DOLLS"]),
  (0x1fa90, ["aRINGED PLANETaCHAIRaRAZORaAXEaDIYA LAMPaBANJOaMILITARY HELMETaACCORDIONaLONG DRUMaC",
    "OINbARPENTRY SAWaSCREWDRIVERaLADDERaHOOKaMIRRORaWINDOWaPLUNGERaSEWING NEEDLEaKNOTaBUCKETaMOUS",
    "E TRAPaTOOTHBRUSHaHEADSTONEaPLACARDaROCKaMIRROR BALLaIDENTIFICATION CARDaLOW BATTERYaHAMSA"]),
  (0x1fab0, ["aFLYaWORMaBEETLEaCOCKROACHaPOTTED PLANTaWOODaFEATHERaLOTUSaCORALaEMPTY NESTaNEST WIT",
    "H EGGS"]),
  (0x1fac0, ["aANATOMICAL HEARTaLUNGSaPEOPLE HUGGINGbREGNANT MANjPERSONbERSON WITH CROWN"]),
  (0x1fad0, ["aBLUEBERRIESbELL PEPPERaOLIVEaFLATBREADaTAMALEaFONDUEaTEAPOTaPOURING LIQUIDaBEANSaJA",
    "R"]),
  (0x1fae0, ["aMELTING FACEaSALUTING FACEaFACE WITH OPEN EYES AND HAND OVER MOUTHkPEEKING EYEkDIAG",
    "ONAL MOUTHaDOTTED LINE FACEaBITING LIPbUBBLES"]),
  (0x1faf0, ["aHAND WITH INDEX FINGER AND THUMB CROSSEDaRIGHTWARDS HANDaLEFTWARDS HANDaPALM DOWN H",
    "ANDfUP HANDaINDEX POINTING AT THE VIEWERaHEART HANDS"]),
  (0x1fb00, ["aBLOCK SEXTANT-1o2o12o3o13o23o123o4o14o24o124o34o134o234o1234o5o15o25o125o35o235o123",
    "5o45o145o245o1245o345o1345o2345o12345o6o16o26o126o36o136o236o1236o46o146p246o346o1346o2346o12",
    "346o56o156o256o1256o356o1356o2356o12356o456o1456o2456o12456o3456o13456o23456aLOWER LEFT BLOCK",
    " DIAGONAL LOWER MIDDLE LEFT TO LOWER CENTREcbRIGHTbaUPPER MIDDLE LEFT TO LOWER CENTREcbRIGHTb",
    "gLEFT TO LOWER CENTREgRIGHT BLOCK DIAGONAL UPPER MIDDLE LEFT TO UPPER CENTREccRIGHTbbLOWER MI",
    "DDLE LEFT TO UPPER CENTREccRIGHTbhLEFT TO UPPER CENTREbhMIDDLE LEFT TO UPPER MIDDLE RIGHTbhCE",
    "NTRE TO LOWER MIDDLE RIGHTbhLEFT TO LOWER MIDDLE RIGHTbhCENTRE TO UPPER MIDDLE RIGHTbhLEFT TO",
    " UPPER MIDDLE RIGHTbhCENTRE TO UPPER RIGHTgLEFT BLOCK DIAGONAL UPPER CENTRE TO UPPER MIDDLE R",
    "IGHTbgLEFT TO UPPER MIDDLE RIGHTbgCENTRE TO LOWER MIDDLE RIGHTbgLEFT TO LOWER MIDDLE RIGHTbgC",
    "ENTRE TO LOWER RIGHTbgMIDDLE LEFT TO LOWER MIDDLE RIGHTaUPPER RIGHT BLOCK DIAGONAL LOWER MIDD",
    "LE LEFT TO LOWER CENTREccRIGHTbbUPPER MIDDLE LEFT TO LOWER CENTREccRIGHTbhLEFT TO LOWER CENTR",
    "EgLEFT BLOCK DIAGONAL UPPER MIDDLE LEFT TO UPPER CENTREcbRIGHTbaLOWER MIDDLE LEFT TO UPPER CE",
    "NTREcbRIGHTbgLEFT TO UPPER CENTREbgMIDDLE LEFT TO UPPER MIDDLE RIGHTbgCENTRE TO LOWER MIDDLE ",
    "RIGHTbgLEFT TO LOWER MIDDLE RIGHTbgCENTRE TO UPPER MIDDLE RIGHTbgLEFT TO UPPER MIDDLE RIGHTbg",
    "CENTRE TO UPPER RIGHTgRIGHT BLOCK DIAGONAL UPPER CENTRE TO UPPER MIDDLE RIGHTbhLEFT TO UPPER ",
    "MIDDLE RIGHTbhCENTRE TO LOWER MIDDLE RIGHTbhLEFT TO LOWER MIDDLE RIGHTbhCENTRE TO LOWER RIGHT",
    "bhMIDDLE LEFT TO LOWER MIDDLE RIGHTgAND RIGHT AND LOWER TRIANGULAR THREE QUARTERS BLOCKaLEFT ",
    "AND LOWER AND RIGHT TRIANGULAR THREE QUARTERS BLOCKaUPPER AND LEFT AND LOWER TRIANGULAR THREE",
    " QUARTERS BLOCKaLEFT AND UPPER AND RIGHT TRIANGULAR THREE QUARTERS BLOCKfTRIANGULAR ONE QUART",
    "ER BLOCKaUPPER TRIANGULAR ONE QUARTER BLOCKaRIGHT TRIANGULAR ONE QUARTER BLOCKaLOWER TRIANGUL",
    "AR ONE QUARTER BLOCKaVERTICAL ONE EIGHTH BLOCK-2ba3ba4ba5ba6ba7aHORIZONTAL ONE EIGHTH BLOCK-2",
    "bc3bc4bc5bc6bc7aLEFT AND LOWER ONE EIGHTH BLOCKjUPPER ONE EIGHTH BLOCKaRIGHT AND UPPER ONE EI",
    "GHTH BLOCKkLOWER ONE EIGHTH BLOCKaUPPER AND LOWER ONE EIGHTH BLOCKaHORIZONTAL ONE EIGHTH BLOC",
    "K-1358aUPPER ONE QUARTER BLOCKgTHREE EIGHTHS BLOCKgFIVE EIGHTHS BLOCKgTHREE QUARTERS BLOCKgSE",
    "VEN EIGHTHS BLOCKaRIGHT ONE QUARTER BLOCKgTHREE EIGHTHS BLOCKgFIVE EIGHTHS BLOCKgTHREE QUARTE",
    "RS BLOCKgSEVEN EIGHTHS BLOCKaLEFT HALF MEDIUM SHADEaRIGHT HALF MEDIUM SHADEaUPPER HALF MEDIUM",
    " SHADEaLOWER HALF MEDIUM SHADEaINVERSE MEDIUM SHADEaUPPER HALF BLOCK AND LOWER HALF INVERSE M",
    "EDIUM SHADElINVERSE MEDIUM SHADE AND LOWER HALF BLOCK"]),
  (0x1fb94, ["aLEFT HALF INVERSE MEDIUM SHADE AND RIGHT HALF BLOCKaCHECKER BOARD FILLaINVERSE CHEC",
    "KER BOARD FILLaHEAVY HORIZONTAL FILLaUPPER LEFT TO LOWER RIGHT FILLgRIGHT TO LOWER LEFT FILLg",
    "AND LOWER TRIANGULAR HALF BLOCKaLEFT AND RIGHT TRIANGULAR HALF BLOCKaUPPER LEFT TRIANGULAR ME",
    "DIUM SHADEgRIGHT TRIANGULAR MEDIUM SHADEaLOWER RIGHT TRIANGULAR MEDIUM SHADEgLEFT TRIANGULAR ",
    "MEDIUM SHADEaBOX DRAWINGS LIGHT DIAGONAL UPPER CENTRE TO MIDDLE LEFTbzRIGHTbcMIDDLE LEFT TO L",
    "OWER CENTREbjRIGHT TO LOWER CENTREbcUPPER CENTRE TO MIDDLE LEFT TO LOWER CENTREbzRIGHT TO LOW",
    "ER CENTREbcMIDDLE LEFT TO LOWER CENTRE TO MIDDLE RIGHTbrUPPER CENTRE TO MIDDLE RIGHTbcUPPER C",
    "ENTRE TO MIDDLE LEFT AND MIDDLE RIGHT TO LOWER CENTREbzRIGHT AND MIDDLE LEFT TO LOWER CENTREc",
    "fTO LOWER CENTRE TO MIDDLE LEFTbzLEFT TO LOWER CENTRE TO MIDDLE RIGHTbcMIDDLE LEFT TO UPPER C",
    "ENTRE TO MIDDLE RIGHT TO LOWER CENTREbjRIGHT TO UPPER CENTRE TO MIDDLE LEFT TO LOWER CENTREbc",
    "DIAMONDtHORIZONTAL WITH VERTICAL STROKEaARROWHEAD-SHAPED POINTERaINVERSE CHECK MARKaLEFT HALF",
    " RUNNING MANaRIGHT HALF RUNNING MANaINVERSE DOWNWARDS ARROW WITH TIP LEFTWARDSaLEFTWARDS ARRO",
    "W AND UPPER AND LOWER ONE EIGHTH BLOCKaRIGHTWARDS ARROW AND UPPER AND LOWER ONE EIGHTH BLOCKa",
    "DOWNWARDS ARROW AND RIGHT ONE EIGHTH BLOCKaUPWARDS ARROW AND RIGHT ONE EIGHTH BLOCKaLEFT HALF",
    " FOLDERaRIGHT HALF FOLDERaVOIDED GREEK CROSSaRIGHT OPEN SQUARED DOTaNEGATIVE DIAGONAL CROSSsM",
    "IDDLE RIGHT TO LOWER CENTREsDIAMONDaWHITE HEAVY SALTIRE WITH ROUNDED CORNERSaLEFT THIRD WHITE",
    " RIGHT POINTING INDEXaMIDDLE THIRD WHITE RIGHT POINTING INDEXaRIGHT THIRD WHITE RIGHT POINTIN",
    "G INDEXaNEGATIVE SQUARED QUESTION MARKaSTICK FIGUREm WITH ARMS RAISEDnLEANING LEFTvRIGHTnWITH",
    " DRESSaWHITE UP-POINTING CHEVRON"]),
  (0x1fbf0, ["aSEGMENTED DIGIT ZEROqONEqTWOrHREEqFOURrIVEqSIXrEVENqEIGHTqNINE"]),
  (0x2f800, ["aCJK COMPATIBILITY IDEOGRAPH-2F800bg1bg2bg3bg4bg5bg6bg7bg8bg9bgAbgBbgCbgDbgEbgFbf10b",
    "g1bg2bg3bg4bg5bg6bg7bg8bg9bgAbgBbgCbgDbgEbgFbf20bg1bg2bg3bg4bg5bg6bg7bg8bg9bgAbgBbgCbgDbgEbgF",
    "bf30bg1bg2bg3bg4bg5bg6bg7bg8bg9bgAbgBbgCbgDbgEbgFbf40bg1bg2bg3bg4bg5bg6bg7bg8bg9bgAbgBbgCbgDb",
    "gEbgFbf50bg1bg2bg3bg4bg5bg6bg7bg8bg9bgAbgBbgCbgDbgEbgFbf60bg1bg2bg3bg4bg5bg6bg7bg8bg9bgAbgBbg",
    "CbgDbgEbgFbf70bg1bg2bg3bg4bg5bg6bg7bg8bg9bgAbgBbgCbgDbgEbgFbf80bg1bg2bg3bg4bg5bg6bg7bg8bg9bgA",
    "bgBbgCbgDbgEbgFbf90bg1bg2bg3bg4bg5bg6bg7bg8bg9bgAbgBbgCbgDbgEbgFbfA0bg1bg2bg3bg4bg5bg6bg7bg8b",
    "g9bgAbgBbgCbgDbgEbgFbfB0bg1bg2bg3bg4bg5bg6bg7bg8bg9bgAbgBbgCbgDbgEbgFbfC0bg1bg2bg3bg4bg5bg6bg",
    "7bg8bg9bgAbgBbgCbgDbgEbgFbfD0bg1bg2bg3bg4bg5bg6bg7bg8bg9bgAbgBbgCbgDbgEbgFbfE0bg1bg2bg3bg4bg5",
    "bg6bg7bg8bg9bgAbgBbgCbgDbgEbgFbfF0bg1bg2bg3bg4bg5bg6bg7bg8bg9bgAbgBbgCbgDbgEbgFbe900bg1bg2bg3",
    "bg4bg5bg6bg7bg8bg9bgAbgBbgCbgDbgEbgFbf10bg1bg2bg3bg4bg5bg6bg7bg8bg9bgAbgBbgCbgDbgEbgFbf20bg1b",
    "g2bg3bg4bg5bg6bg7bg8bg9bgAbgBbgCbgDbgEbgFbf30bg1bg2bg3bg4bg5bg6bg7bg8bg9bgAbgBbgCbgDbgEbgFbf4",
    "0bg1bg2bg3bg4bg5bg6bg7bg8bg9bgAbgBbgCbgDbgEbgFbf50bg1bg2bg3bg4bg5bg6bg7bg8bg9bgAbgBbgCbgDbgEb",
    "gFbf60bg1bg2bg3bg4bg5bg6bg7bg8bg9bgAbgBbgCbgDbgEbgFbf70bg1bg2bg3bg4bg5bg6bg7bg8bg9bgAbgBbgCbg",
    "DbgEbgFbf80bg1bg2bg3bg4bg5bg6bg7bg8bg9bgAbgBbgCbgDbgEbgFbf90bg1bg2bg3bg4bg5bg6bg7bg8bg9bgAbgB",
    "bgCbgDbgEbgFbfA0bg1bg2bg3bg4bg5bg6bg7bg8bg9bgAbgBbgCbgDbgEbgFbfB0bg1bg2bg3bg4bg5bg6bg7bg8bg9b",
    "gAbgBbgCbgDbgEbgFbfC0bg1bg2bg3bg4bg5bg6bg7bg8bg9bgAbgBbgCbgDbgEbgFbfD0bg1bg2bg3bg4bg5bg6bg7bg",
    "8bg9bgAbgBbgCbgDbgEbgFbfE0bg1bg2bg3bg4bg5bg6bg7bg8bg9bgAbgBbgCbgDbgEbgFbfF0bg1bg2bg3bg4bg5bg6",
    "bg7bg8bg9bgAbgBbgCbgDbgEbgFbeA00bg1bg2bg3bg4bg5bg6bg7bg8bg9bgAbgBbgCbgDbgEbgFbf10bg1bg2bg3bg4",
    "bg5bg6bg7bg8bg9bgAbgBbgCbgD"]),
  (0xe0001, ["aLANGUAGE TAG"]),
  (0xe0020, ["aTAG SPACEeEXCLAMATION MARKeQUOTATION MARKeNUMBER SIGNeDOLLAR SIGNePERCENT SIGNeAMPE",
    "RSANDfPOSTROPHEeLEFT PARENTHESISeRIGHT PARENTHESISeASTERISKePLUS SIGNeCOMMAeHYPHEN-MINUSeFULL",
    " STOPeSOLIDUSeDIGIT ZEROkONEkTWOlHREEkFOURlIVEkSIXlEVENkEIGHTkNINEeCOLONeSEMICOLONeLESS-THAN ",
    "SIGNeEQUALS SIGNeGREATER-THAN SIGNeQUESTION MARKeCOMMERCIAL ATeLATIN CAPITAL LETTER AzBzCzDzE",
    "zFzGzHzIzJzKzLzMzNzOzPzQzRzSzTzUzVzWzXzYzZfEFT SQUARE BRACKETeREVERSE SOLIDUSfIGHT SQUARE BRA",
    "CKETeCIRCUMFLEX ACCENTeLOW LINEeGRAVE ACCENTeLATIN SMALL LETTER AxBxCxDxExFxGxHxIxJxKxLxMxNxO",
    "xPxQxRxSxTxUxVxWxXxYxZfEFT CURLY BRACKETeVERTICAL LINEeRIGHT CURLY BRACKETeTILDEaCANCEL TA",
    "G"]),
  (0xe0100, ["aVARIATION SELECTOR-17u8u9t20u1u2u3u4u5u6u7u8u9t30u1u2u3u4u5u6u7u8u9t40u1u2u3u4u5u6u",
    "7u8u9t50u1u2u3u4u5u6u7u8u9t60u1u2u3u4u5u6u7u8u9t70u1u2u3u4u5u6u7u8u9t80u1u2u3u4u5u6u7u8u9t90u",
    "1u2u3u4u5u6u7u8u9t100v1v2v3v4v5v6v7v8v9u10v1v2v3v4v5v6v7v8v9u20v1v2v3v4v5v6v7v8v9u30v1v2v3v4v",
    "5v6v7v8v9u40v1v2v3v4v5v6v7v8v9u50v1v2v3v4v5v6v7v8v9u60v1v2v3v4v5v6v7v8v9u70v1v2v3v4v5v6v7v8v9",
    "u80v1v2v3v4v5v6v7v8v9u90v1v2v3v4v5v6v7v8v9t200v1v2v3v4v5v6v7v8v9u10v1v2v3v4v5v6v7v8v9u20v1v2v",
    "3v4v5v6v7v8v9u30v1v2v3v4v5v6v7v8v9u40v1v2v3v4v5v6v7v8v9u50v1v2v3v4v5v6"])]

end TreePredicate.Text.CharacterName
