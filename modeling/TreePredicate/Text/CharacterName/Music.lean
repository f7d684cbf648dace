/-!
# Names of characters from `0x1d000` up to `0x1efff`
-/

set_option autoImplicit false

namespace TreePredicate.Text.CharacterName

/-- Runs of characters from `0x1d000` up to `0x1efff`: where each starts, and the lines in which its
names are written. -/
def music : List (Nat × List String) := [
  (0x1d000, ["aBYZANTINE MUSICAL SYMBOL PSILIzDASEIAzPERISPOMENIzOXEIA EKFONITIKONbfDIPLIzVAREIA E",
    "KFONITIKONbgDIPLIzKATHISTIzSYRMATIKIzPARAKLITIKIzYPOKRISISbi DIPLIzKREMASTIzAPESO EKFONITIKON",
    "zEXO EKFONITIKONzTELEIAzKENTIMATAzAPOSTROFOSbj DIPLIzSYNEVMAzTHITAzOLIGON ARCHAIONzGORGON ARC",
    "HAIONzPSILONzCHAMILONzVATHYzISON ARCHAIONzKENTIMA ARCHAIONbgTA ARCHAIONzSAXIMATAzPARICHONzSTA",
    "VROS APODEXIAzOXEIAI ARCHAIONzVAREIAI ARCHAIONzAPODERMA ARCHAIONbcTHEMAzKLASMAzREVMAzPIASMA A",
    "RCHAIONzTINAGMAzANATRICHISMAzSEISMAbaYNAGMA ARCHAIONbhMETA STAVROUzOYRANISMA ARCHAIONzTHEMAzL",
    "EMOIzDYOzTRIAbaESSERAzKRATIMATAzAPESO EXO NEOzFTHORA ARCHAIONzIMIFTHORAzTROMIKON ARCHAIONzKAT",
    "AVA TROMIKONzPELASTONbaSIFISTONzKONTEVMAzCHOREVMA ARCHAIONzRAPISMAzPARAKALESMA ARCHAIONbeLITI",
    "KI ARCHAIONzICHADINzNANAzPETASMAzKONTEVMA ALLOzTROMIKON ALLOzSTRAGGISMATAzGRONTHISMATAzISON N",
    "EOzOLIGON NEObaXEIA NEOzPETASTIzKOUFISMAzPETASTOKOUFISMAzKRATIMOKOUFISMAzPELASTON NEOzKENTIMA",
    "TA NEO ANObg NEO ANOzYPSILIzAPOSTROFOS NEObiI SYNDESMOS NEOzYPORROIzKRATIMOYPORROONzELAFRONzC",
    "HAMILIzMIKRON ISONzVAREIA NEOzPIASMA NEObaSIFISTON NEOzOMALONzANTIKENOMAzLYGISMAzPARAKLITIKI ",
    "NEObeALESMA NEOzETERON PARAKALESMAzKYLISMAzANTIKENOKYLISMAzTROMIKON NEOzEKSTREPTONzSYNAGMA NE",
    "ObbRMAzCHOREVMA NEOzEPEGERMAzSEISMA NEOzXIRON KLASMAzTROMIKOPSIFISTONzPSIFISTOLYGISMAzTROMIKO",
    "LYGISMAbgPARAKALESMAzPSIFISTOPARAKALESMAzTROMIKOSYNAGMAzPSIFISTOSYNAGMAzGORGOSYNTHETONzARGOSY",
    "NTHETONzETERON ARGOSYNTHETONzOYRANISMA NEOzTHEMATISMOS ESObmXObe APLOUNbcS KAI APOTHESzKATAVA",
    "SMAzENDOFONONzYFEN KATObeANOzSTAVROSzKLASMA ANOzDIPLI ARCHAIONzKRATIMA ARCHAIONbiLLObhNEOzAPO",
    "DERMA NEObbLIzDIPLIzTRIPLIbaETRAPLIzKORONISzLEIMMA ENOS CHRONOUbgDYO CHRONONbgTRION CHRONONbh",
    "ESSARON CHRONONbgIMISEOS CHRONOUzGORGON NEO ANObgPARESTIGMENON ARISTERAbuDEXIAzDIGORGONbh PAR",
    "ESTIGMENON ARISTERA KATOcfANObwDEXIAzTRIGORGONzARGONzIMIDIARGONzDIARGONzAGOGI POLI ARGIbfARGO",
    "TERIbiIbfMETRIAbhSIbfGORGIbjOTERIbfPOLI GORGIzMARTYRIA PROTOS ICHOSbiALLI PROTOS ICHOSbiDEYTE",
    "ROS ICHOSbiALLI DEYTEROS ICHOSbiTRITOS ICHOSblFONIASbjETARTOS ICHOSbrLEGETOS ICHOSbiLEGETOS I",
    "CHOSbiPLAGIOS ICHOSzISAKIA TELOUS ICHIMATOSzAPOSTROFOI TELOUS ICHIMATOSzFANEROSIS TETRAFONIAS",
    "bjMONOFONIASbjDIFONIASzMARTYRIA VARYS ICHOSbiPROTOVARYS ICHOSbjLAGIOS TETARTOS ICHOSzGORTHMIK",
    "ON N APLOUNbmDIPLOUNzENARXIS KAI FTHORA VOUzIMIFONONbdTHORONzFTHORA ARCHAION DEYTEROU ICHOUbg",
    "DIATONIKI PAbqNANAbgNAOS ICHOSbgDIATONIKI DIbgSKLIRON DIATONON DIbgDIATONIKI KEbqZObqNI KATOb",
    "tANObgMALAKON CHROMA DIFONIASbvMONOFONIASbaHTORA SKLIRON CHROMA VASISbaTHORA SKLIRON CHROMA S",
    "YNAFIbgNENANOzCHROA ZYGOSbfKLITONbfSPATHIzFTHORA I YFESIS TETARTIMORIONbgENARMONIOS ANTIFONIA",
    "zYFESIS TRITIMORIONzDIESIS TRITIMORIONbhETARTIMORIONbgAPLI DYO DODEKATAbgMONOGRAMMOS TESSERA ",
    "DODEKATAbgDIGRAMMOS EX DODEKATAbgTRIGRAMMOS OKTO DODEKATAzYFESIS APLI DYO DODEKATAbgMONOGRAMM",
    "OS TESSERA DODEKATAbgDIGRAMMOS EX DODEKATAbgTRIGRAMMOS OKTO DODEKATAzGENIKI DIESISbgYFESISzDI",
    "ASTOLI APLI MIKRIboEGALIbiDIPLIbiTHESEOSzSIMANSIS THESEOSbp DISIMOUbqTRISIMOUbrETRASIMOUbiARS",
    "EOSbo DISIMOUbpTRISIMOUbqETRASIMOUzDIGRAMMA GGbbFTOGGOS OUzSTIGMAzARKTIKO PAbhVOUbhGAbhDIbhKE",
    "bhZObhNIzKENTIMATA NEO MESObg NEO MESObgTA NEO KATObg NEO KATObaLASMA KATOzGORGON NEO KATO"]),
  (0x1d100, ["aMUSICAL SYMBOL SINGLE BARLINEpDOUBLE BARLINEpFINAL BARLINEpREVERSE FINAL BARLINEpDA",
    "SHED BARLINEpSHORT BARLINEpLEFT REPEAT SIGNpRIGHT REPEAT SIGNqEPEAT DOTSpDAL SEGNOr CAPOpSEGN",
    "OpCODApREPEATED FIGURE-1bf2bf3pFERMATAw BELOWpBREATH MARKpCAESURApBRACEtKETpONE-LINE STAFFpTW",
    "O-LINE STAFFqHREE-LINE STAFFpFOUR-LINE STAFFqIVE-LINE STAFFpSIX-LINE STAFFtSTRING FRETBOARDpF",
    "OUR-STRING FRETBOARDpG CLEFv OTTAVA ALTAbdBASSApC CLEFpF CLEFv OTTAVA ALTAbdBASSApDRUM CLEF-1",
    "z2"]),
  (0x1d129, ["aMUSICAL SYMBOL MULTIPLE MEASURE RESTpDOUBLE SHARPwFLATpFLAT UPuDOWNpNATURAL UPxDOWN",
    "pSHARP UPvDOWNpQUARTER TONE SHARPbcFLATpCOMMON TIMEqUT TIMEpOTTAVA ALTAwBASSApQUINDICESIMA AL",
    "TAbcBASSApMULTI RESTpWHOLE RESTpHALF RESTpQUARTER RESTpEIGHTH RESTpSIXTEENTH RESTpTHIRTY-SECO",
    "ND RESTpSIXTY-FOURTH RESTpONE HUNDRED TWENTY-EIGHTH RESTpX NOTEHEADpPLUS NOTEHEADpCIRCLE X NO",
    "TEHEADpSQUARE NOTEHEAD WHITEbfBLACKpTRIANGLE NOTEHEAD UP WHITEbkBLACKbhLEFT WHITEbmBLACKbhRIG",
    "HT WHITEbnBLACKbhDOWN WHITEbmBLACKbhUP RIGHT WHITEbqBLACKpMOON NOTEHEAD WHITEbdBLACKpTRIANGLE",
    "-ROUND NOTEHEAD DOWN WHITEbsBLACKpPARENTHESIS NOTEHEADpVOID NOTEHEADpNOTEHEAD BLACKqULL NOTEH",
    "EADpCLUSTER NOTEHEAD WHITEbgBLACKpBREVEpWHOLE NOTEpHALF NOTEpQUARTER NOTEpEIGHTH NOTEpSIXTEEN",
    "TH NOTEpTHIRTY-SECOND NOTEpSIXTY-FOURTH NOTEpONE HUNDRED TWENTY-EIGHTH NOTEpCOMBINING STEMbaP",
    "RECHGESANG STEMzTREMOLO-1bh2bh3pFINGERED TREMOLO-1bg2bg3pCOMBINING AUGMENTATION DOTzFLAG-1be2",
    "be3be4be5pBEGIN BEAMpEND BEAMpBEGIN TIEpEND TIEpBEGIN SLURpEND SLURpBEGIN PHRASEpEND PHRASEpC",
    "OMBINING ACCENTzSTACCATOzTENUTOzSTACCATISSIMOzMARCATObg-STACCATOzACCENT-STACCATOzLOUREpARPEGG",
    "IATO UPbaDOWNpCOMBINING DOITzRIPzFLIPzSMEARzBENDzDOUBLE TONGUEzTRIPLE TONGUEpRINFORZANDOpSUBI",
    "TOpZpPIANOpMEZZOpFORTEpCRESCENDOpDECRESCENDOpGRACE NOTE SLASHbaNO SLASHpTRqURNpINVERTED TURNp",
    "TURN SLASHuUPpORNAMENT STROKE-1bf2bf3bf4bf5bf6bf7bf8bf9bf10bg1pHAUPTSTIMMEpNEBENSTIMMEpEND OF",
    " STIMMEpDEGREE SLASHpCOMBINING DOWN BOWzUP BOWzHARMONICzSNAP PIZZICATOpPEDAL MARKvUP MARKpHAL",
    "F PEDAL MARKpGLISSANDO UPzDOWNpWITH FINGERNAILSpDAMPt ALLpMAXIMApLONGApBREVISpSEMIBREVIS WHIT",
    "EbaBLACKpMINIMAv BLACKpSEMIMINIMA WHITEbaBLACKpFUSA WHITEuBLACKpLONGA PERFECTA RESTvIMPERFECT",
    "A RESTpBREVIS RESTpSEMIBREVIS RESTpMINIMA RESTpSEMIMINIMA RESTpTEMPUS PERFECTUM CUM PROLATION",
    "E PERFECTAbvIMPERFECTAbvPERFECTA DIMINUTION-1wIMPERFECTUM CUM PROLATIONE PERFECTAbxIMPERFECTA",
    "ch DIMINUTION-1ct2ct3pCROIXpGREGORIAN C CLEFzF CLEFpSQUARE BpVIRGApPODATUSpCLIVISpSCANDICUSpC",
    "LIMACUSpTORCULUSpPORRECTUSy FLEXUSpSCANDICUS FLEXUSpTORCULUS RESUPINUSpPES SUBPUNCTISpKIEVAN ",
    "C CLEFwEND OF PIECEwFINAL NOTEwRECITATIVE MARKwWHOLE NOTEwHALF NOTEwQUARTER NOTE STEM DOWNboU",
    "PwEIGHTH NOTE STEM DOWNbnUPwFLAT SIGNpSORIpKORON"]),
  (0x1d200, ["aGREEK VOCAL NOTATION SYMBOL-1bc2bc3bc4bc5bc6bc7bc8bc9bc10bd1bd2bd3bd4bd5bd6bd7bd8bd",
    "9bc20bd1bd2bd3bd4bc50bd1bd2bd3bd4gINSTRUMENTAL NOTATION SYMBOL-1bj2bj4bj5bj7bj8bj11bk2bk3bk4b",
    "k7bk8bk9bj23bk4bk5bk6bk7bk9bj30bk2bk6bk7bk8bk9bj40bk2bk3bk5bk7bk8bk9bj50bk1bk2bk3bk4aCOMBININ",
    "G GREEK MUSICAL TRISEMEzETRASEMEyPENTASEMEaGREEK MUSICAL LEIMMA"]),
  (0x1d2e0, ["aMAYAN NUMERAL ZEROoONEoTWOpHREEoFOURpIVEoSIXpEVENoEIGHToNINEoTENoELEVENoTWELVEpHIRT",
    "EENoFOURTEENpIFTEENoSIXTEENpEVENTEENoEIGHTEENoNINETEEN"]),
  (0x1d300, ["aMONOGRAM FOR EARTHaDIGRAM FOR HEAVENLY EARTHmUMAN EARTHlEARTHLY HEAVENuUMANpHaTETRA",
    "GRAM FOR CENTREoFULL CIRCLEoMIREDoBARRIERoKEEPING SMALLoCONTRARIETYoASCENToOPPOSITIONoBRANCHI",
    "NG OUToDEFECTIVENESS OR DISTORTIONpIVERGENCEoYOUTHFULNESSoINCREASEoPENETRATIONoREACHoCONTACTo",
    "HOLDING BACKoWAITINGoFOLLOWINGoADVANCEoRELEASEqSISTANCEoEASEoJOYoCONTENTIONoENDEAVOURoDUTIESo",
    "CHANGEoDECISIVENESSoBOLD RESOLUTIONoPACKINGoLEGIONoCLOSENESSoKINSHIPoGATHERINGoSTRENGTHoPURIT",
    "YoFULLNESSoRESIDENCEoLAW OR MODELoRESPONSEoGOING TO MEEToENCOUNTERSoSTOVEoGREATNESSoENLARGEME",
    "NToPATTERNoRITUALoFLIGHToVASTNESS OR WASTINGoCONSTANCYoMEASUREoETERNITYoUNITYoDIMINISHMENToCL",
    "OSED MOUTHoGUARDEDNESSpATHERING INoMASSINGoACCUMULATIONoEMBELLISHMENToDOUBToWATCHoSINKINGoINN",
    "ERoDEPARTUREpARKENINGpIMMINGoEXHAUSTIONoSEVERANCEpTOPPAGEoHARDNESSoCOMPLETIONpLOSUREoFAILUREo",
    "AGGRAVATIONoCOMPLIANCEoON THE VERGEoDIFFICULTIESoLABOURINGoFOSTERING"]),
  (0x1d360, ["aCOUNTING ROD UNIT DIGIT ONEyTWOzHREEyFOURzIVEySIXzEVENyEIGHTyNINEnTENS DIGIT ONEyTW",
    "OzHREEyFOURzIVEySIXzEVENyEIGHTyNINEaIDEOGRAPHIC TALLY MARK ONExTWOyHREExFOURyIVEaTALLY MARK O",
    "NElFIVE"]),
  (0x1d400, ["aMATHEMATICAL BOLD CAPITAL AbaBbaCbaDbaEbaFbaGbaHbaIbaJbaKbaLbaMbaNbaObaPbaQbaRbaSba",
    "TbaUbaVbaWbaXbaYbaZsSMALL AyByCyDyEyFyGyHyIyJyKyLyMyNyOyPyQyRySyTyUyVyWyXyYyZnITALIC CAPITAL ",
    "AbcBbcCbcDbcEbcFbcGbcHbcIbcJbcKbcLbcMbcNbcObcPbcQbcRbcSbcTbcUbcVbcWbcXbcYbcZuSMALL AbaBbaCbaD",
    "baEbaFbaG"]),
  (0x1d456, ["aMATHEMATICAL ITALIC SMALL IbaJbaKbaLbaMbaNbaObaPbaQbaRbaSbaTbaUbaVbaWbaXbaYbaZnBOLD",
    " ITALIC CAPITAL AbhBbhCbhDbhEbhFbhGbhHbhIbhJbhKbhLbhMbhNbhObhPbhQbhRbhSbhTbhUbhVbhWbhXbhYbhZz",
    "SMALL AbfBbfCbfDbfEbfFbfGbfHbfIbfJbfKbfLbfMbfNbfObfPbfQbfRbfSbfTbfUbfVbfWbfXbfYbfZnSCRIPT CAP",
    "ITAL A"]),
  (0x1d49e, ["aMATHEMATICAL SCRIPT CAPITAL CbcD"]),
  (0x1d4a2, ["aMATHEMATICAL SCRIPT CAPITAL G"]),
  (0x1d4a5, ["aMATHEMATICAL SCRIPT CAPITAL JbcK"]),
  (0x1d4a9, ["aMATHEMATICAL SCRIPT CAPITAL NbcObcPbcQ"]),
  (0x1d4ae, ["aMATHEMATICAL SCRIPT CAPITAL SbcTbcUbcVbcWbcXbcYbcZuSMALL AbaBbaCbaD"]),
  (0x1d4bb, ["aMATHEMATICAL SCRIPT SMALL F"]),
  (0x1d4bd, ["aMATHEMATICAL SCRIPT SMALL HbaIbaJbaKbaLbaMbaN"]),
  (0x1d4c5, ["aMATHEMATICAL SCRIPT SMALL PbaQbaRbaSbaTbaUbaVbaWbaXbaYbaZnBOLD SCRIPT CAPITAL AbhBb",
    "hCbhDbhEbhFbhGbhHbhIbhJbhKbhLbhMbhNbhObhPbhQbhRbhSbhTbhUbhVbhWbhXbhYbhZzSMALL AbfBbfCbfDbfEbf",
    "FbfGbfHbfIbfJbfKbfLbfMbfNbfObfPbfQbfRbfSbfTbfUbfVbfWbfXbfYbfZnFRAKTUR CAPITAL AbdB"]),
  (0x1d507, ["aMATHEMATICAL FRAKTUR CAPITAL DbdEbdFbdG"]),
  (0x1d50d, ["aMATHEMATICAL FRAKTUR CAPITAL JbdKbdLbdMbdNbdObdPbdQ"]),
  (0x1d516, ["aMATHEMATICAL FRAKTUR CAPITAL SbdTbdUbdVbdWbdXbdY"]),
  (0x1d51e, ["aMATHEMATICAL FRAKTUR SMALL AbbBbbCbbDbbEbbFbbGbbHbbIbbJbbKbbLbbMbbNbbObbPbbQbbRbbSb",
    "bTbbUbbVbbWbbXbbYbbZnDOUBLE-STRUCK CAPITAL AbjB"]),
  (0x1d53b, ["aMATHEMATICAL DOUBLE-STRUCK CAPITAL DbjEbjFbjG"]),
  (0x1d540, ["aMATHEMATICAL DOUBLE-STRUCK CAPITAL IbjJbjKbjLbjM"]),
  (0x1d546, ["aMATHEMATICAL DOUBLE-STRUCK CAPITAL O"]),
  (0x1d54a, ["aMATHEMATICAL DOUBLE-STRUCK CAPITAL SbjTbjUbjVbjWbjXbjY"]),
  (0x1d552, ["aMATHEMATICAL DOUBLE-STRUCK SMALL AbhBbhCbhDbhEbhFbhGbhHbhIbhJbhKbhLbhMbhNbhObhPbhQb",
    "hRbhSbhTbhUbhVbhWbhXbhYbhZnBOLD FRAKTUR CAPITAL AbiBbiCbiDbiEbiFbiGbiHbiIbiJbiKbiLbiMbiNbiObi",
    "PbiQbiRbiSbiTbiUbiVbiWbiXbiYbiZbaSMALL AbgBbgCbgDbgEbgFbgGbgHbgIbgJbgKbgLbgMbgNbgObgPbgQbgRbg",
    "SbgTbgUbgVbgWbgXbgYbgZnSANS-SERIF CAPITAL AbgBbgCbgDbgEbgFbgGbgHbgIbgJbgKbgLbgMbgNbgObgPbgQbg",
    "RbgSbgTbgUbgVbgWbgXbgYbgZySMALL AbeBbeCbeDbeEbeFbeGbeHbeIbeJbeKbeLbeMbeNbeObePbeQbeRbeSbeTbeU",
    "beVbeWbeXbeYbeZyBOLD CAPITAL AblBblCblDblEblFblGblHblIblJblKblLblMblNblOblPblQblRblSblTblUblV",
    "blWblXblYblZbdSMALL AbjBbjCbjDbjEbjFbjGbjHbjIbjJbjKbjLbjMbjNbjObjPbjQbjRbjSbjTbjUbjVbjWbjXbjY",
    "bjZyITALIC CAPITAL AbnBbnCbnDbnEbnFbnGbnHbnIbnJbnKbnLbnMbnNbnObnPbnQbnRbnSbnTbnUbnVbnWbnXbnYb",
    "nZbfSMALL AblBblCblDblEblFblGblHblIblJblKblLblMblNblOblPblQblRblSblTblUblVblWblXblYblZyBOLD I",
    "TALIC CAPITAL AbsBbsCbsDbsEbsFbsGbsHbsIbsJbsKbsLbsMbsNbsObsPbsQbsRbsSbsTbsUbsVbsWbsXbsYbsZbkS",
    "MALL AbqBbqCbqDbqEbqFbqGbqHbqIbqJbqKbqLbqMbqNbqObqPbqQbqRbqSbqTbqUbqVbqWbqXbqYbqZnMONOSPACE C",
    "APITAL AbfBbfCbfDbfEbfFbfGbfHbfIbfJbfKbfLbfMbfNbfObfPbfQbfRbfSbfTbfUbfVbfWbfXbfYbfZxSMALL Abd",
    "BbdCbdDbdEbdFbdGbdHbdIbdJbdKbdLbdMbdNbdObdPbdQbdRbdSbdTbdUbdVbdWbdXbdYbdZnITALIC SMALL DOTLES",
    "S IbiJ"]),
  (0x1d6a8, ["aMATHEMATICAL BOLD CAPITAL ALPHAbaBETAbaGAMMAbaDELTAbaEPSILONbaZETAbaETAbaTHETAbaIOT",
    "AbaKAPPAbaLAMDAbaMUbaNUbaXIbaOMICRONbaPIbaRHObaTHETA SYMBOLbaSIGMAbaTAUbaUPSILONbaPHIbaCHIbaP",
    "SIbaOMEGAsNABLAsSMALL ALPHAyBETAyGAMMAyDELTAyEPSILONyZETAyETAyTHETAyIOTAyKAPPAyLAMDAyMUyNUyXI",
    "yOMICRONyPIyRHOyFINAL SIGMAySIGMAyTAUyUPSILONyPHIyCHIyPSIyOMEGAsPARTIAL DIFFERENTIALsEPSILON ",
    "SYMBOLsTHETA SYMBOLsKAPPA SYMBOLsPHI SYMBOLsRHO SYMBOLsPI SYMBOLnITALIC CAPITAL ALPHAbcBETAbc",
    "GAMMAbcDELTAbcEPSILONbcZETAbcETAbcTHETAbcIOTAbcKAPPAbcLAMDAbcMUbcNUbcXIbcOMICRONbcPIbcRHObcTH",
    "ETA SYMBOLbcSIGMAbcTAUbcUPSILONbcPHIbcCHIbcPSIbcOMEGAuNABLAuSMALL ALPHAbaBETAbaGAMMAbaDELTAba",
    "EPSILONbaZETAbaETAbaTHETAbaIOTAbaKAPPAbaLAMDAbaMUbaNUbaXIbaOMICRONbaPIbaRHObaFINAL SIGMAbaSIG",
    "MAbaTAUbaUPSILONbaPHIbaCHIbaPSIbaOMEGAuPARTIAL DIFFERENTIALuEPSILON SYMBOLuTHETA SYMBOLuKAPPA",
    " SYMBOLuPHI SYMBOLuRHO SYMBOLuPI SYMBOLnBOLD ITALIC CAPITAL ALPHAbhBETAbhGAMMAbhDELTAbhEPSILO",
    "NbhZETAbhETAbhTHETAbhIOTAbhKAPPAbhLAMDAbhMUbhNUbhXIbhOMICRONbhPIbhRHObhTHETA SYMBOLbhSIGMAbhT",
    "AUbhUPSILONbhPHIbhCHIbhPSIbhOMEGAzNABLAzSMALL ALPHAbfBETAbfGAMMAbfDELTAbfEPSILONbfZETAbfETAbf",
    "THETAbfIOTAbfKAPPAbfLAMDAbfMUbfNUbfXIbfOMICRONbfPIbfRHObfFINAL SIGMAbfSIGMAbfTAUbfUPSILONbfPH",
    "IbfCHIbfPSIbfOMEGAzPARTIAL DIFFERENTIALzEPSILON SYMBOLzTHETA SYMBOLzKAPPA SYMBOLzPHI SYMBOLzR",
    "HO SYMBOLzPI SYMBOLnSANS-SERIF BOLD CAPITAL ALPHAblBETAblGAMMAblDELTAblEPSILONblZETAblETAblTH",
    "ETAblIOTAblKAPPAblLAMDAblMUblNUblXIblOMICRONblPIblRHOblTHETA SYMBOLblSIGMAblTAUblUPSILONblPHI",
    "blCHIblPSIblOMEGAbdNABLAbdSMALL ALPHAbjBETAbjGAMMAbjDELTAbjEPSILONbjZETAbjETAbjTHETAbjIOTAbjK",
    "APPAbjLAMDAbjMUbjNUbjXIbjOMICRONbjPIbjRHObjFINAL SIGMAbjSIGMAbjTAUbjUPSILONbjPHIbjCHIbjPSIbjO",
    "MEGAbdPARTIAL DIFFERENTIALbdEPSILON SYMBOLbdTHETA SYMBOLbdKAPPA SYMBOLbdPHI SYMBOLbdRHO SYMBO",
    "LbdPI SYMBOLbdITALIC CAPITAL ALPHAbsBETAbsGAMMAbsDELTAbsEPSILONbsZETAbsETAbsTHETAbsIOTAbsKAPP",
    "AbsLAMDAbsMUbsNUbsXIbsOMICRONbsPIbsRHObsTHETA SYMBOLbsSIGMAbsTAUbsUPSILONbsPHIbsCHIbsPSIbsOME",
    "GAbkNABLAbkSMALL ALPHAbqBETAbqGAMMAbqDELTAbqEPSILONbqZETAbqETAbqTHETAbqIOTAbqKAPPAbqLAMDAbqMU",
    "bqNUbqXIbqOMICRONbqPIbqRHObqFINAL SIGMAbqSIGMAbqTAUbqUPSILONbqPHIbqCHIbqPSIbqOMEGAbkPARTIAL D",
    "IFFERENTIALbkEPSILON SYMBOLbkTHETA SYMBOLbkKAPPA SYMBOLbkPHI SYMBOLbkRHO SYMBOLbkPI SYMBOLnBO",
    "LD CAPITAL DIGAMMAsSMALL DIGAMMA"]),
  (0x1d7ce, ["aMATHEMATICAL BOLD DIGIT ZEROyONEyTWOzHREEyFOURzIVEySIXzEVENyEIGHTyNINEnDOUBLE-STRUC",
    "K DIGIT ZERObhONEbhTWObiHREEbhFOURbiIVEbhSIXbiEVENbhEIGHTbhNINEnSANS-SERIF DIGIT ZERObeONEbeT",
    "WObfHREEbeFOURbfIVEbeSIXbfEVENbeEIGHTbeNINEyBOLD DIGIT ZERObjONEbjTWObkHREEbjFOURbkIVEbjSIXbk",
    "EVENbjEIGHTbjNINEnMONOSPACE DIGIT ZERObdONEbdTWObeHREEbdFOURbeIVEbdSIXbeEVENbdEIGHTbdNINEaSIG",
    "NWRITING HAND-FIST INDEXrCIRCLE INDEXsUP INDEXrOVAL INDEXrHINGE INDEXrANGLE INDEXrFIST INDEX ",
    "BENTrCIRCLE INDEX BENTrFIST THUMB UNDER INDEX BENTwINDEX RAISED KNUCKLEbcCUPPEDbcHINGEDbi LOW",
    "rCIRCLE INDEX HINGErFIST INDEX MIDDLErCIRCLE INDEX MIDDLErFIST INDEX MIDDLE BENTbjRAISED KNUC",
    "KLESbjHINGEDbcUP MIDDLE HINGEDbcHINGED MIDDLE UPbcMIDDLE CONJOINEDbs INDEX BENTbtMIDDLE BENTb",
    "tCUPPEDbtHINGEDbkROSSEDrCIRCLE INDEX MIDDLE CROSSEDrFIST MIDDLE BENT OVER INDEXwINDEX BENT OV",
    "ER MIDDLEbcMIDDLE THUMBrCIRCLE INDEX MIDDLE THUMBrFIST INDEX MIDDLE STRAIGHT THUMB BENTbjBENT",
    " THUMB STRAIGHTbjTHUMB BENTbjHINGED SPREAD THUMB SIDEbcUP MIDDLE HINGED THUMB SIDEbzCONJOINED",
    "bcHINGED MIDDLE UP THUMB SIDEbcMIDDLE UP SPREAD THUMB FORWARDbjTHUMB CUPPEDbqIRCLEDbpHOOKEDbq",
    "INGEDwTHUMB BETWEEN INDEX MIDDLE STRAIGHTwINDEX MIDDLE CONJOINED THUMB SIDEcd CONJOINEDceBENT",
    "wMIDDLE THUMB HOOKED INDEX UPwINDEX THUMB HOOKED MIDDLE UPbcMIDDLE CONJOINED HINGED THUMB SID",
    "EbkROSSED THUMB SIDEbkONJOINED THUMB FORWARDbtCUPPED THUMB FORWARDwMIDDLE THUMB CUPPED INDEX ",
    "UPwINDEX THUMB CUPPED MIDDLE UPwMIDDLE THUMB CIRCLED INDEX UPbxHINGEDwINDEX THUMB ANGLED OUT ",
    "MIDDLE UPbpIN MIDDLE UPbiCIRCLED MIDDLE UPbcMIDDLE THUMB CONJOINED HINGEDbpANGLED OUTbuDwMIDD",
    "LE THUMB ANGLED OUT INDEX UPcaCROSSEDbqINDEX UPwINDEX THUMB HOOKED MIDDLE HINGEDsLAT FOUR FIN",
    "GERSbi BENTbjHINGEDbjCONJOINEDbs SPLITrCLAW FOUR FINGERS CONJOINEDrFIST FOUR FINGERS CONJOINE",
    "D BENTrHINGE FOUR FINGERS CONJOINEDrFLAT FIVE FINGERS SPREADwHEEL FIVE FINGERS SPREADwFIVE FI",
    "NGERS SPREAD FOUR BENTwHEEL FIVE FINGERS SPREAD FOUR BENTwFIVE FINGERS SPREAD BENTwHEEL FIVE ",
    "FINGERS SPREAD BENTwFIVE FINGERS SPREAD THUMB FORWARDrCUP FIVE FINGERS SPREADbo OPENrHINGE FI",
    "VE FINGERS SPREAD OPENrOVAL FIVE FINGERS SPREADrFLAT FIVE FINGERS SPREAD HINGEDbw THUMB SIDEb",
    "xNO THUMBuTv BETWEEN PALM FACINGSwHEELwTHUMB SIDEwHEEL THUMB SIDEwTHUMB BENTbcFORWARDwSPLIT I",
    "NDEX THUMB SIDEbcCENTREbi THUMB SIDEbt BENTbcLITTLErCLAWv THUMB SIDEwNO THUMBwTHUMB FORWARDrH",
    "OOK CURLICUEuKrCUP OPENtPu OPEN THUMB SIDEvTHUMB SIDEvOPEN NO THUMBvNO THUMBvOPEN THUMB FORWA",
    "RDvTHUMB FORWARDtRLICUE OPENyEsIRCLErOVALv THUMB SIDEwNO THUMBwTHUMB FORWARDrHINGE OPENbb THU",
    "MB FORWARDvEw SMALLxOPEN THUMB SIDExTHUMB SIDExOPEN NO THUMBxNO THUMBxTHUMB SIDE TOUCHING IND",
    "EXbdBETWEEN MIDDLE RINGrANGLErFIST INDEX MIDDLE RINGrCIRCLE INDEX MIDDLE RINGrHINGE INDEX MID",
    "DLE RINGrANGLE INDEX MIDDLE RINGrHINGE LITTLErFIST INDEX MIDDLE RING BENTboCONJOINEDrHINGE IN",
    "DEX MIDDLE RING CONJOINEDrFIST LITTLE DOWNbh RIPPLE STRAIGHTbpCURVEDbiOTHERS CIRCLEDbdUPwTHUM",
    "B UNDER LITTLE UPrCIRCLE LITTLE UPrOVAL LITTLE UPrANGLE LITTLE UPrFIST LITTLE RAISED KNUCKLEb",
    "dBENTbdTOUCHES THUMBbeHUMBrHINGE LITTLE THUMBrFIST LITTLE INDEX THUMBrHINGE LITTLE INDEX THUM",
    "BrANGLE LITTLE INDEX THUMB INDEX THUMB OUTcaBrFIST LITTLE INDEXrCIRCLE LITTLE INDEXrHINGE LIT",
    "TLE INDEXrANGLE LITTLE INDEXrFIST INDEX MIDDLE LITTLErCIRCLE INDEX MIDDLE LITTLErHINGE INDEX ",
    "MIDDLE LITTLExRINGrANGLE INDEX MIDDLE LITTLErFIST INDEX MIDDLE CROSS LITTLErCIRCLE INDEX MIDD",
    "LE CROSS LITTLErFIST RING DOWNrHINGE RING DOWN INDEX THUMB HOOK MIDDLErANGLE RING DOWN MIDDLE",
    " THUMB INDEX CROSSrFIST RING UPbbRAISED KNUCKLEbbLITTLErCIRCLE RING LITTLErOVAL RING LITTLErA",
    "NGLE RING LITTLErFIST RING MIDDLEbh CONJOINEDbiRAISED KNUCKLESbbINDEXbbTHUMBrHOOK RING THUMBr",
    "FIST INDEX RING LITTLErCIRCLE INDEX RING LITTLEsURLICUE INDEX RING LITTLE ONrHOOK INDEX RING ",
    "LITTLE OUTboINboUNDERrCUP INDEX RING LITTLErHINGE INDEX RING LITTLErANGLE INDEX RING LITTLE O",
    "UTbnErFIST MIDDLE DOWNrHINGE MIDDLErFIST MIDDLE UPrCIRCLE MIDDLE UPrFIST MIDDLE RAISED KNUCKL",
    "EbdUP THUMB SIDErHOOK MIDDLE THUMBrFIST MIDDLE THUMB LITTLEbdLITTLEbdRING LITTLErCIRCLE MIDDL",
    "E RING LITTLEsURLICUE MIDDLE RING LITTLE ONtP MIDDLE RING LITTLErHINGE MIDDLE RING LITTLErANG",
    "LE MIDDLE RING LITTLE OUTbqINboErCIRCLE MIDDLE RING LITTLE BENTsLAW MIDDLE RING LITTLE CONJOI",
    "NEDby SIDErHOOK MIDDLE RING LITTLE CONJOINED OUTbzINbxDsINGE INDEX HINGEDrFIST INDEX THUMB SI",
    "DErHINGE INDEX THUMB SIDErFIST INDEX THUMB SIDE THUMB DIAGONALbtCONJOINEDbtBENTbnINDEX BENTbn",
    "BOTH BENTbnINDEX HINGEbiFORWARD INDEX STRAIGHTbwBENTbiHOOKbiCURLICUEblVE THUMB INSIDErCLAW IN",
    "DEX THUMB CURVE THUMB INSIDErFIST INDEX THUMB CURVE THUMB UNDERbjIRCLErCUP INDEX THUMBbg OPEN",
    "rHINGE INDEX THUMB OPENbjLARGEbhBbi SMALLrANGLE INDEX THUMB OUTbjINbhBrFIST THUMBbb HEELbcSID",
    "E DIAGONALbhCONJOINEDbhBENTbcFORWARDbcBETWEEN INDEX MIDDLEbkMIDDLE RINGbkRING LITTLEbcUNDER T",
    "WO FINGERSbcOVER TWO FINGERSbcUNDER THREE FINGERSbiFOUR FINGERSbcOVER FOUR RAISED KNUCKLESuTv",
    " HEELmTOUCH SINGLEsMULTIPLEsBETWEENmGRASP SINGLEsMULTIPLEsBETWEENmSTRIKE SINGLEtMULTIPLEtBETW",
    "EENmBRUSH SINGLEsMULTIPLEsBETWEENmRUB SINGLEqMULTIPLEqBETWEENmSURFACE SYMBOLSuBETWEENnQUEEZE ",
    "LARGE SINGLEuSMALL SINGLEuLARGE MULTIPLEuSMALL MULTIPLEvEQUENTIALmFLICK LARGE SINGLEsSMALL SI",
    "NGLEsLARGE MULTIPLEsSMALL MULTIPLEtEQUENTIALmSQUEEZE FLICK ALTERNATINGmMOVEMENT-HINGE UP DOWN",
    " LARGEbjSMALLbeSEQUENTIALbbDOWN SEQUENTIALbbUP DOWN ALTERNATING LARGEbvSMALLbbSIDE TO SIDE SC",
    "ISSORSvWALLPLANE FINGER CONTACTvFLOORPLANE FINGER CONTACTvWALLPLANE SINGLE STRAIGHT SMALLbvME",
    "DIUMbvLARGEcaSTbmWRIST FLEXbfDOUBLE STRAIGHTbmWRIST FLEXbmALTERNATINGbx WRIST FLEXbfCROSSbfTR",
    "IPLE STRAIGHT MOVEMENTbmWRIST FLEXbmALTERNATINGbx WRIST FLEXbfBEND SMALLbkMEDIUMbkLARGEbfCORN",
    "ER SMALLbmMEDIUMbmLARGEbmROTATIONbgHECK SMALLblMEDIUMblLARGEbfBOX SMALLbjMEDIUMbjLARGEbfZIGZA",
    "G SMALLbmMEDIUMbmLARGEbfPEAKS SMALLblMEDIUMblLARGEmTRAVEL-WALLPLANE ROTATION-WALLPLANE SINGLE",
    "bwDOUBLEbwALTERNATINGbmFLOORPLANE SINGLEbxDOUBLEbxALTERNATINGbdSHAKINGbdARM SPIRAL SINGLEboDO",
    "UBLEboTRIPLEmMOVEMENT-DIAGONAL AWAY SMALLbjMEDIUMbjLARGEboSTbeTOWARDS SMALLbmMEDIUMbmLARGEbrS",
    "TbeBETWEEN AWAY SMALLbrMEDIUMbrLARGEbwSTbmTOWARDS SMALLbuMEDIUMbuLARGEbzSTvFLOORPLANE SINGLE ",
    "STRAIGHT SMALLbwMEDIUMbwLARGEcbSTbnWRIST FLEXbgDOUBLE STRAIGHTbnWRIST FLEXbnALTERNATINGby WRI",
    "ST FLEXbgCROSSbgTRIPLE STRAIGHT MOVEMENTbnWRIST FLEXbnALTERNATING MOVEMENTbzWRIST FLEXbgBENDb",
    "gCORNER SMALLbnMEDIUMbnLARGEbhHECKbgBOX SMALLbkMEDIUMbkLARGEbgZIGZAG SMALLbnMEDIUMbnLARGEbgPE",
    "AKS SMALLbmMEDIUMbmLARGEmTRAVEL-FLOORPLANE ROTATION-FLOORPLANE SINGLEbyDOUBLEbyALTERNATINGbnW",
    "ALLPLANE SINGLEbxDOUBLEbxALTERNATINGbeSHAKINGmMOVEMENT-WALLPLANE CURVE QUARTER SMALLbtMEDIUMb",
    "tLARGEbySTblHALF-CIRCLE SMALLbxMEDIUMbxLARGEccSTblTHREE-QUARTER CIRCLE SMALLcgMEDIUMbfHUMP SM",
    "ALLbkMEDIUMbkLARGEbfLOOP SMALLbkMEDIUMbkLARGEbkSMALL DOUBLEbfWAVE CURVE DOUBLE SMALLbxMEDIUMb",
    "xLARGEbqTRIPLE SMALLbxMEDIUMbxLARGEbfCURVE THEN STRAIGHTbkD CROSS SMALLbsMEDIUMmROTATION-WALL",
    "PLANE SINGLEbfDOUBLEbfALTERNATEmMOVEMENT-WALLPLANE SHAKINGbfCURVE HITTING FRONT WALLbfHUMP HI",
    "TTING FRONT WALLbfLOOP HITTING FRONT WALLbfWAVE HITTING FRONT WALLmROTATION-WALLPLANE SINGLE ",
    "HITTING FRONT WALLbfDOUBLE HITTING FRONT WALLbfALTERNATING HITTING FRONT WALLmMOVEMENT-WALLPL",
    "ANE CURVE HITTING CHESTbfHUMP HITTING CHESTbfLOOP HITTING CHESTbfWAVE HITTING CHESTmROTATION-",
    "WALLPLANE SINGLE HITTING CHESTbfDOUBLE HITTING CHESTbfALTERNATING HITTING CHESTmMOVEMENT-WALL",
    "PLANE WAVE DIAGONAL PATH SMALLbyMEDIUMbyLARGEvFLOORPLANE CURVE HITTING CEILING SMALLccLARGEbg",
    "HUMP HITTING CEILING SMALL DOUBLEcbLARGE DOUBLEcbSMALL TRIPLEcbLARGE TRIPLEbgLOOP HITTING CEI",
    "LING SMALL SINGLEcbLARGE SINGLEcbSMALL DOUBLEcbLARGE DOUBLEbgWAVE HITTING CEILING SMALLcbLARG",
    "EmROTATION-FLOORPLANE SINGLE HITTING CEILINGbgDOUBLE HITTING CEILINGbgALTERNATING HITTING CEI",
    "LINGmMOVEMENT-FLOORPLANE CURVE HITTING FLOOR SMALLcaLARGEbgHUMP HITTING FLOOR SMALL DOUBLEbzL",
    "ARGE DOUBLEbzTRIPLE SMALL TRIPLEcgLARGE TRIPLEbgLOOP HITTING FLOOR SMALL SINGLEbzLARGE SINGLE",
    "bzSMALL DOUBLEbzLARGE DOUBLEbgWAVE HITTING FLOOR SMALLbzLARGEmROTATION-FLOORPLANE SINGLE HITT",
    "ING FLOORbgDOUBLE HITTING FLOORbgALTERNATING HITTING FLOORmMOVEMENT-FLOORPLANE CURVE SMALLbmM",
    "EDIUMbmLARGEbrSTbmCOMBINEDbgHUMP SMALLbgLOOP SMALLbgWAVE SNAKEbmMALLblLARGEmROTATION-FLOORPLA",
    "NE SINGLEbgDOUBLEbgALTERNATINGmMOVEMENT-FLOORPLANE SHAKING PARALLELvWALLPLANE ARM CIRCLE SMAL",
    "L SINGLEbqMEDIUM SINGLEbqSMALL DOUBLEbqMEDIUM DOUBLEvFLOORPLANE ARM CIRCLE HITTING WALL SMALL",
    " SINGLEceMEDIUM SINGLEceLARGE SINGLEceSMALL DOUBLEceMEDIUM DOUBLEceLARGE DOUBLEvWALLPLANE WRI",
    "ST CIRCLE FRONT SINGLEbyDOUBLEvFLOORPLANE WRIST CIRCLE HITTING WALL SINGLEcgDOUBLEvWALLPLANE ",
    "FINGER CIRCLES SINGLEbuDOUBLEvFLOORPLANE FINGER CIRCLES HITTING WALL SINGLEciDOUBLEmDYNAMIC A",
    "RROWHEAD SMALLbeLARGEuFASTuSLOWuTENSEuRELAXEDuSIMULTANEOUSbg ALTERNATINGuEVERY OTHER TIMEuGRA",
    "DUALmHEADq RIMrMOVEMENT-WALLPLANE STRAIGHTbkTILTbaFLOORPLANE STRAIGHTbaWALLPLANE CURVEbaFLOOR",
    "PLANE CURVEz CIRCLEmFACE DIRECTION POSITION NOSE FORWARD TILTINGbpUP OR DOWNbz TILTINGmEYEBRO",
    "WS STRAIGHT UPbeNEUTRALbeDOWNmDREAMY EYEBROWS NEUTRAL DOWNbcDOWN NEUTRALbcUP NEUTRALbcNEUTRAL",
    " UPmFOREHEAD NEUTRALvCONTACTvWRINKLEDmEYES OPENrSQUEEZEDrCLOSEDp BLINK SINGLEwMULTIPLEpS HALF",
    " OPENrWIDE OPENrHALF CLOSEDrWIDENING MOVEMENTp WINKpLASHES UPwDOWNwFLUTTERINGpGAZE-WALLPLANE ",
    "STRAIGHTbm DOUBLEbnALTERNATINGuFLOORPLANE STRAIGHTbn DOUBLEboALTERNATINGuWALLPLANE CURVEDuFLO",
    "ORPLANE CURVEDuWALLPLANE CIRCLINGmCHEEKS PUFFEDtNEUTRALtSUCKEDmTENSE CHEEKS HIGHzMIDDLEzLOWmE",
    "ARSmNOSE NEUTRALrCONTACTrWRINKLESsIGGLESmAIR BLOWING OUTqSUCKING INqBLOW SMALL ROTATIONSqSUCK",
    " SMALL ROTATIONSmBREATH INHALEtEXHALEmMOUTH CLOSED NEUTRALzFORWARDzCONTACTsSMILEx WRINKLEDyOP",
    "ENsFROWNx WRINKLEDyOPENsOPEN CIRCLExFORWARDxWRINKLEDxOVALbb WRINKLEDbcYAWNxRECTANGLEbg WRINKL",
    "EDbhYAWNsKISSw FORWARDxWRINKLEDsTENSEx FORWARDySUCKEDmLIPS PRESSED TOGETHERp LOWER OVER UPPER",
    "qUPPER OVER LOWERmMOUTH CORNERSsWRINKLES SINGLEbbDOUBLEmTONGUE STICKING OUT FARtLICKING LIPSt",
    "TIP BETWEEN LIPSxTOUCHING INSIDE MOUTHtINSIDE MOUTH RELAXEDtMOVES AGAINST CHEEKtCENTRE STICKI",
    "NG OUTbaINSIDE MOUTHnEETHr MOVEMENTsON TONGUEbb MOVEMENTvLIPSz MOVEMENTsBITE LIPSmMOVEMENT-WA",
    "LLPLANE JAWvFLOORPLANE JAWmNECKmHAIRmEXCITEMENTmSHOULDER HIP SPINEzPOSITIONSmWALLPLANE SHOULD",
    "ER HIP MOVEmFLOORPLANE SHOULDER HIP MOVEmSHOULDER TILTING FROM WAISTmTORSO-WALLPLANE STRAIGHT",
    " STRETCHbcCURVED BENDsFLOORPLANE TWISTINGmUPPER BODY TILTING FROM HIP JOINTSmLIMB COMBINATION",
    "rLENGTH-1y2y3y4y5y6y7mFINGERmLOCATION-WALLPLANE SPACEvFLOORPLANE SPACEu HEIGHTvWIDTHvDEPTHvHE",
    "AD NECKvTORSOvLIMBS DIGITSmCOMMAmFULL STOPmSEMICOLONmCOLONmPARENTHESIS"]),
  (0x1da9b, ["aSIGNWRITING FILL MODIFIER-2ba3ba4ba5ba6"]),
  (0x1daa1, ["aSIGNWRITING ROTATION MODIFIER-2be3be4be5be6be7be8be9be10bf1bf2bf3bf4bf5bf6"]),
  (0x1df00, ["aLATIN SMALL LETTER FENG DIGRAPH WITH TRILLtREVERSED SCRIPT GgLETTER SMALL CAPITAL T",
    "URNED GgSMALL LETTER REVERSED KgLETTER SMALL CAPITAL L WITH BELTgSMALL LETTER LEZH WITH RETRO",
    "FLEX HOOKtTURNED Y WITH BELTtREVERSED ENGtTURNED R WITH LONG LEG AND RETROFLEX HOOKu WITH HOO",
    "K AND RETROFLEX HOOKgLETTER RETROFLEX CLICK WITH RETROFLEX HOOKgSMALL LETTER ESH WITH DOUBLE ",
    "BARbm AND CURLtTURNED T WITH CURLgLETTER INVERTED GLOTTAL STOP WITH CURLnSTRETCHED C WITH CUR",
    "LoMALL CAPITAL TURNED KgSMALL LETTER L WITH FISHHOOKtDEZH DIGRAPH WITH PALATAL HOOKtL WITH BE",
    "LT AND PALATAL HOOKtENG WITH PALATAL HOOKtTURNED R WITH PALATAL HOOKtR WITH FISHHOOK AND PALA",
    "TAL HOOKtTESH DIGRAPH WITH PALATAL HOOKtEZH WITH PALATAL HOOKtDEZH DIGRAPH WITH RETROFLEX HOO",
    "KtI WITH STROKE AND RETROFLEX HOOKtO WITH RETROFLEX HOOKtTESH DIGRAPH WITH RETROFLEX HOOKtC W",
    "ITH RETROFLEX HOOKtS WITH CURL"]),
  (0x1e000, ["aCOMBINING GLAGOLITIC LETTER AZUbcBUKYbcVEDEbcGLAGOLIbcDOBRObcYESTUbcZHIVETE"]),
  (0x1e008, ["aCOMBINING GLAGOLITIC LETTER ZEMLJAbcIZHEbdNITIAL IZHEbcIbcDJERVIbcKAKObcLJUDIJEbcMY",
    "SLITEbcNASHIbcONUbcPOKOJIbcRITSIbcSLOVObcTVRIDObcUKUbcFRITUbcHERU"]),
  (0x1e01b, ["aCOMBINING GLAGOLITIC LETTER SHTAbcTSIbcCHRIVIbcSHAbcYERUbfIbdATI"]),
  (0x1e023, ["aCOMBINING GLAGOLITIC LETTER YUbcSMALL YUS"]),
  (0x1e026, ["aCOMBINING GLAGOLITIC LETTER YObcIOTATED SMALL YUSbcBIG YUSbcIOTATED BIG YUSbcFIT",
    "A"]),
  (0x1e100, ["aNYIAKENG PUACHUE HMONG LETTER MAbeTSAbeNTAbeTAbeHAbeNAbeXAbeNKAbeCAbeLAbeSAbeZAbeNC",
    "AbfTSAbeKAbeDAbeNYAbfRAbeVAbeNTXAbeTXAbeFAbeRAbeQAbeYAbeNQAbePAbeXYAbeNPAbeDLAbeNPLAbeHAHbeML",
    "AbePLAbeGAbeRRAbeAbfAbeIbeUbeObfObeEbfEbeW"]),
  (0x1e130, ["aNYIAKENG PUACHUE HMONG TONE-BbcMbcJbcVbcSbcGbcDxSIGN FOR PERSONbgTHINGbgLOCATIONbgA",
    "NIMALbgINVERTEBRATEbcXW XWyYLLABLE LENGTHENER"]),
  (0x1e140, ["aNYIAKENG PUACHUE HMONG DIGIT ZERObdONEbdTWObeHREEbdFOURbeIVEbdSIXbeEVENbdEIGHTbdNIN",
    "E"]),
  (0x1e14e, ["aNYIAKENG PUACHUE HMONG LOGOGRAM NYAJxCIRCLED CA"]),
  (0x1e290, ["aTOTO LETTER PAmBAmTAmDAmKAmGAmMAmNAnGAmSAmCHAmYAmWAmJAmHAmRAmLAmImBREATHY ImIUmBREA",
    "THY IUmUmEmBREATHY EmEOmBREATHY EOmOmAEmBREATHY AEmAfSIGN RISING TONE"]),
  (0x1e2c0, ["aWANCHO LETTER AAoAoBAoCAoDAoGAoYAoPHAoLAoNAoPAoTApHAoFAoSApHAoJAoZAoWAoVAoKAoOoAUoR",
    "AoMAoKHAoHAoEoIoNGAoUoLLHAoTSApRAoONGoAANGpNGoINGoONoENoAANoNYAoUENoYIHhTONE TUPpNImKOIpNIhDI",
    "GIT ZEROnONEnTWOoHREEnFOURoIVEnSIXoEVENnEIGHTnNINE"]),
  (0x1e2ff, ["aWANCHO NGUN SIGN"]),
  (0x1e7e0, ["aETHIOPIC SYLLABLE HHYAvUvIvAAvEEvEvO"]),
  (0x1e7e8, ["aETHIOPIC SYLLABLE GURAGE HHWAsHHWIvEEvE"]),
  (0x1e7ed, ["aETHIOPIC SYLLABLE GURAGE MWIbbEE"]),
  (0x1e7f0, ["aETHIOPIC SYLLABLE GURAGE QWIbbEEbbEzBWIbbEEzKWIbbEEbbEzGWIbbEEbbEzFWIbbEEzPWIbbE",
    "E"]),
  (0x1e800, ["aMENDE KIKAKUI SYLLABLE M001 KIba2 KAba3 KUz65 KEEz95 KEz76 KOOz48 KOy179 KUAy004 WI",
    "ba5 WAba6 WUy126 WEEz18 WEba4 WOOy045 WOy194 WUIz43 WEIy061 WVIz49 WVAy139 WVEy007 MINba8 MAN",
    "ba9 MUNz59 MENz94 MONy154 MUANz89 MUENy010 BIba1 BAba2 BUy150 BEEy097 BEy103 BOOz38 BOy013 Ib",
    "a4 Aba5 Uy163 EEz00 Ez65 OOz47 Oz37 EIba1 INba5 INz95 ANz78 ENy019 SIz20 SAba1 SUy162 SEEz16 ",
    "SEz36 SOOy079 SOy196 SIAy025 LIba6 LAba7 LUz84 LEEz73 LEz54 LOOy153 LOz10 LONG LEy016 DIba7 D",
    "Aba8 DUz89 DEEy180 DOOba1 DOy022 TIba3 TAba4 TUz91 TEEz55 TEy104 TOOy069 TOz28 JIba9 JAz30 JU",
    "y157 JEEz13 JEz60 JOOy063 JOy175 LONG JOy031 YIba2 YAba3 YUy109 YEEy080 YEy141 YOOz21 YOy034 ",
    "FIba5 FAba6 FUz78 FEEba5 FEy133 FOOy088 FOy197 FUAz01 FANy037 NINba8 NANba9 NUNy117 NENz69 NO",
    "Nz76 HIy041 HAy186 HUy040 HEEz96 HEz42 HOOy140 HOy083 HEEIy128 HOOUy053 HINy130 HANy087 HUNz5",
    "2 HENy193 HONy046 HUANz90 NGGIz43 NGGAz82 NGGUy115 NGGEEz46 NGGEz56 NGGOOz20 NGGOz59 NGGAAz27",
    " NGGUAy086 LONG NGGEy106 LONG NGGOOz83 LONG NGGOz55 GIz11 GAz68 GUz90 GEEz66 GUEIba7 GUANz84 ",
    "NGENy057 NGONy177 NGUANy068 PIz99 PAz50 PUz81 PEEz51 PEy102 POOy066 POy145 MBIy062 MBAy122 MB",
    "Uy047 MBEEy188 MBEEy072 MBEy172 MBOOba4 MBOz87 MBUUz61 LONG MBEz05 LONG MBOOz42 LONG MBOz32 K",
    "PIy092 KPAz74 KPUz44 KPEEy108 KPEz12 KPOOz58 KPOz24 GBIy056 GBAy148 GBUy093 GBEEy107 GBEy071 ",
    "GBOOba0 GBOy171 RAz23 NDIba9 NDAba5 NDUz91 NDEEz19 NDEy067 NDOOba4 NDOy152 NJAz92 NJUz49 NJEE",
    "z34 NJOOz82 VIba5 VAz51 VUz73 VEEy085 VEy144 VOOy077 VOy164 NYINy058 NYANy170 NYUNy098 NYENz6",
    "0 NYON"]),
  (0x1e8c7, ["aMENDE KIKAKUI DIGIT ONEuTWOvHREEuFOURvIVEuSIXvEVENuEIGHTuNINEoCOMBINING NUMBER TEEN",
    "SbhNSbfHUNDREDSbfTHOUSANDSbgEN THOUSANDSbfHUNDRED THOUSANDSbfMILLIONS"]),
  (0x1e900, ["aADLAM CAPITAL LETTER ALIFvDAALIvLAAMvMIIMvBAvSINNYIIYHEvPEvBHEvRAvEvFAvIvOvDHAvYHEv",
    "WAWvNUNvKAFvYAvUvJIIMvCHIvHAvQAAFvGAvNYAvTUvNHAvVAvKHAvGBEvZALvKPOvSHAgSMALL LETTER ALIFtDAAL",
    "ItLAAMtMIIMtBAtSINNYIIYHEtPEtBHEtRAtEtFAtItOtDHAtYHEtWAWtNUNtKAFtYAtUtJIIMtCHItHAtQAAFtGAtNYA",
    "tTUtNHAtVAtKHAtGBEtZALtKPOtSHAgALIF LENGTHENERgVOWEL LENGTHENERgGEMINATION MARKgHAMZAgCONSONA",
    "NT MODIFIERgGEMINATE CONSONANT MODIFIERgNUKTAhASALIZATION MARK"]),
  (0x1e950, ["aADLAM DIGIT ZEROmONEmTWOnHREEmFOURnIVEmSIXnEVENmEIGHTmNINE"]),
  (0x1e95e, ["aADLAM INITIAL EXCLAMATION MARKoQUESTION MARK"]),
  (0x1ec71, ["aINDIC SIYAQ NUMBER ONEtTWOuHREEtFOURuIVEtSIXuEVENtEIGHTtNINEtTENuWENTYuHIRTYtFORTYu",
    "IFTYtSIXTYuEVENTYtEIGHTYtNINETYtONE HUNDREDtTWO HUNDREDuHREE HUNDREDtFOUR HUNDREDuIVE HUNDRED",
    "tSIX HUNDREDuEVEN HUNDREDtEIGHT HUNDREDtNINE HUNDREDtONE THOUSANDtTWO THOUSANDuHREE THOUSANDt",
    "FOUR THOUSANDuIVE THOUSANDtSIX THOUSANDuEVEN THOUSANDtEIGHT THOUSANDtNINE THOUSANDtTEN THOUSA",
    "NDuWENTY THOUSANDuHIRTY THOUSANDtFORTY THOUSANDuIFTY THOUSANDtSIXTY THOUSANDuEVENTY THOUSANDt",
    "EIGHTY THOUSANDtNINETY THOUSANDtLAKHxANmLAKH MARKmNUMBER KARORyANtPREFIXED ONEbcTWObdHREEbcFO",
    "URbdIVEbcSIXbdEVENbcEIGHTbcNINEmPLACEHOLDERmFRACTION ONE QUARTERzHALFvTHREE QUARTERSmRUPEE MA",
    "RKmNUMBER ALTERNATE ONEbdTWObeEN THOUSANDmALTERNATE LAKH MARK"]),
  (0x1ed01, ["aOTTOMAN SIYAQ NUMBER ONEvTWOwHREEvFOURwIVEvSIXwEVENvEIGHTvNINEvTENwWENTYwHIRTYvFORT",
    "YwIFTYvSIXTYwEVENTYvEIGHTYvNINETYvONE HUNDREDvTWO HUNDREDwHREE HUNDREDvFOUR HUNDREDwIVE HUNDR",
    "EDvSIX HUNDREDwEVEN HUNDREDvEIGHT HUNDREDvNINE HUNDREDvONE THOUSANDvTWO THOUSANDwHREE THOUSAN",
    "DvFOUR THOUSANDwIVE THOUSANDvSIX THOUSANDwEVEN THOUSANDvEIGHT THOUSANDvNINE THOUSANDvTEN THOU",
    "SANDwWENTY THOUSANDwHIRTY THOUSANDvFORTY THOUSANDwIFTY THOUSANDvSIXTY THOUSANDwEVENTY THOUSAN",
    "DvEIGHTY THOUSANDvNINETY THOUSANDoMARRATANoALTERNATE NUMBER TWObgHREEbfFOURbgIVEbfSIXbgEVENbf",
    "EIGHTbfNINEbfTENbfFOUR HUNDREDbfSIX HUNDREDbfTWO THOUSANDbgEN THOUSANDoFRACTION ONE HALFbbSIX",
    "TH"]),
  (0x1ee00, ["aARABIC MATHEMATICAL ALEFuBEHuJEEMuDAL"]),
  (0x1ee05, ["aARABIC MATHEMATICAL WAWuZAINuHAHuTAHuYEHuKAFuLAMuMEEMuNOONuSEENuAINuFEHuSADuQAFuREH",
    "uSHEENuTEHvHEHuKHAHuTHALuDADuZAHuGHAINuDOTLESS BEHbcNOONbcFEHbcQAF"]),
  (0x1ee21, ["aARABIC MATHEMATICAL INITIAL BEHbcJEEM"]),
  (0x1ee24, ["aARABIC MATHEMATICAL INITIAL HEH"]),
  (0x1ee27, ["aARABIC MATHEMATICAL INITIAL HAH"]),
  (0x1ee29, ["aARABIC MATHEMATICAL INITIAL YEHbcKAFbcLAMbcMEEMbcNOONbcSEENbcAINbcFEHbcSADbcQAF"]),
  (0x1ee34, ["aARABIC MATHEMATICAL INITIAL SHEENbcTEHbdHEHbcKHAH"]),
  (0x1ee39, ["aARABIC MATHEMATICAL INITIAL DAD"]),
  (0x1ee3b, ["aARABIC MATHEMATICAL INITIAL GHAIN"]),
  (0x1ee42, ["aARABIC MATHEMATICAL TAILED JEEM"]),
  (0x1ee47, ["aARABIC MATHEMATICAL TAILED HAH"]),
  (0x1ee49, ["aARABIC MATHEMATICAL TAILED YEH"]),
  (0x1ee4b, ["aARABIC MATHEMATICAL TAILED LAM"]),
  (0x1ee4d, ["aARABIC MATHEMATICAL TAILED NOONbbSEENbbAIN"]),
  (0x1ee51, ["aARABIC MATHEMATICAL TAILED SADbbQAF"]),
  (0x1ee54, ["aARABIC MATHEMATICAL TAILED SHEEN"]),
  (0x1ee57, ["aARABIC MATHEMATICAL TAILED KHAH"]),
  (0x1ee59, ["aARABIC MATHEMATICAL TAILED DAD"]),
  (0x1ee5b, ["aARABIC MATHEMATICAL TAILED GHAIN"]),
  (0x1ee5d, ["aARABIC MATHEMATICAL TAILED DOTLESS NOON"]),
  (0x1ee5f, ["aARABIC MATHEMATICAL TAILED DOTLESS QAF"]),
  (0x1ee61, ["aARABIC MATHEMATICAL STRETCHED BEHbeJEEM"]),
  (0x1ee64, ["aARABIC MATHEMATICAL STRETCHED HEH"]),
  (0x1ee67, ["aARABIC MATHEMATICAL STRETCHED HAHbeTAHbeYEHbeKAF"]),
  (0x1ee6c, ["aARABIC MATHEMATICAL STRETCHED MEEMbeNOONbeSEENbeAINbeFEHbeSADbeQAF"]),
  (0x1ee74, ["aARABIC MATHEMATICAL STRETCHED SHEENbeTEHbfHEHbeKHAH"]),
  (0x1ee79, ["aARABIC MATHEMATICAL STRETCHED DADbeZAHbeGHAINbeDOTLESS BEH"]),
  (0x1ee7e, ["aARABIC MATHEMATICAL STRETCHED DOTLESS FEH"]),
  (0x1ee80, ["aARABIC MATHEMATICAL LOOPED ALEFbbBEHbbJEEMbbDALbbHEHbbWAWbbZAINbbHAHbbTAHbbYEH"]),
  (0x1ee8b, ["aARABIC MATHEMATICAL LOOPED LAMbbMEEMbbNOONbbSEENbbAINbbFEHbbSADbbQAFbbREHbbSHEENbbT",
    "EHbcHEHbbKHAHbbTHALbbDADbbZAHbbGHAIN"]),
  (0x1eea1, ["aARABIC MATHEMATICAL DOUBLE-STRUCK BEHbiJEEMbiDAL"]),
  (0x1eea5, ["aARABIC MATHEMATICAL DOUBLE-STRUCK WAWbiZAINbiHAHbiTAHbiYEH"]),
  (0x1eeab, ["aARABIC MATHEMATICAL DOUBLE-STRUCK LAMbiMEEMbiNOONbiSEENbiAINbiFEHbiSADbiQAFbiREHbiS",
    "HEENbiTEHbjHEHbiKHAHbiTHALbiDADbiZAHbiGHAIN"]),
  (0x1eef0, ["aARABIC MATHEMATICAL OPERATOR MEEM WITH HAH WITH TATWEELbdHAH WITH DAL"])]

end TreePredicate.Text.CharacterName
