/-!
# Names of characters from `0x3000` up to `0xffff`
-/

set_option autoImplicit false

namespace TreePredicate.Text.CharacterName

/-- Runs of characters from `0x3000` up to `0xffff`: where each starts, and the lines in which its
names are written. -/
def ideographs : List (Nat × List String) := [
  (0x3000, ["aIDEOGRAPHIC SPACEmCOMMAmFULL STOPaDITTO MARKaJAPANESE INDUSTRIAL STANDARD SYMBOLaIDE",
    "OGRAPHIC ITERATION MARKmCLOSING MARKmNUMBER ZEROaLEFT ANGLE BRACKETaRIGHT ANGLE BRACKETaLEFT ",
    "DOUBLE ANGLE BRACKETaRIGHT DOUBLE ANGLE BRACKETaLEFT CORNER BRACKETaRIGHT CORNER BRACKETaLEFT",
    " WHITE CORNER BRACKETaRIGHT WHITE CORNER BRACKETaLEFT BLACK LENTICULAR BRACKETaRIGHT BLACK LE",
    "NTICULAR BRACKETaPOSTAL MARKaGETA MARKaLEFT TORTOISE SHELL BRACKETaRIGHT TORTOISE SHELL BRACK",
    "ETaLEFT WHITE LENTICULAR BRACKETaRIGHT WHITE LENTICULAR BRACKETaLEFT WHITE TORTOISE SHELL BRA",
    "CKETaRIGHT WHITE TORTOISE SHELL BRACKETaLEFT WHITE SQUARE BRACKETaRIGHT WHITE SQUARE BRACKETa",
    "WAVE DASHaREVERSED DOUBLE PRIME QUOTATION MARKaDOUBLE PRIME QUOTATION MARKaLOW DOUBLE PRIME Q",
    "UOTATION MARKaPOSTAL MARK FACEaHANGZHOU NUMERAL ONErTWOsHREErFOURsIVErSIXsEVENrEIGHTrNINEaIDE",
    "OGRAPHIC LEVEL TONE MARKmRISING TONE MARKmDEPARTING TONE MARKmENTERING TONE MARKaHANGUL SINGL",
    "E DOT TONE MARKhDOUBLE DOT TONE MARKaWAVY DASHaVERTICAL KANA REPEAT MARKvWITH VOICED SOUND MA",
    "RKvMARK UPPER HALFvWITH VOICED SOUND MARK UPPER HALFvMARK LOWER HALFaCIRCLED POSTAL MARKaIDEO",
    "GRAPHIC TELEGRAPH LINE FEED SEPARATOR SYMBOLaHANGZHOU NUMERAL TENsWENTYsHIRTYaVERTICAL IDEOGR",
    "APHIC ITERATION MARKaMASU MARKaPART ALTERNATION MARKaIDEOGRAPHIC VARIATION INDICATORmHALF FIL",
    "L SPACE"]),
  (0x3041, ["aHIRAGANA LETTER SMALL AqAqSMALL IqIqSMALL UqUqSMALL EqEqSMALL OqOqKAqGAqKIqGIqKUqGUq",
    "KEqGEqKOqGOqSAqZAqSIqZIqSUqZUqSEqZEqSOqZOqTAqDAqTIqDIqSMALL TUqTUqDUqTEqDEqTOqDOqNArIrUrErOqH",
    "AqBAqPAqHIqBIqPIqHUqBUqPUqHEqBEqPEqHOqBOqPOqMArIrUrErOqSMALL YAqYAqSMALL YUqYUqSMALL YOqYOqRA",
    "rIrUrErOqSMALL WAqWArIrErOqNqVUqSMALL KAxE"]),
  (0x3099, ["aCOMBINING KATAKANA-HIRAGANA VOICED SOUND MARKbcSEMI-VOICED SOUND MARKaKATAKANA-HIRAG",
    "ANA VOICED SOUND MARKsSEMI-VOICED SOUND MARKaHIRAGANA ITERATION MARKjVOICED ITERATION MARKjDI",
    "GRAPH YORIaKATAKANA-HIRAGANA DOUBLE HYPHENi LETTER SMALL AqAqSMALL IqIqSMALL UqUqSMALL EqEqSM",
    "ALL OqOqKAqGAqKIqGIqKUqGUqKEqGEqKOqGOqSAqZAqSIqZIqSUqZUqSEqZEqSOqZOqTAqDAqTIqDIqSMALL TUqTUqD",
    "UqTEqDEqTOqDOqNArIrUrErOqHAqBAqPAqHIqBIqPIqHUqBUqPUqHEqBEqPEqHOqBOqPOqMArIrUrErOqSMALL YAqYAq",
    "SMALL YUqYUqSMALL YOqYOqRArIrUrErOqSMALL WAqWArIrErOqNqVUqSMALL KAxEqVArIrErOjMIDDLE DOTi-HIR",
    "AGANA PROLONGED SOUND MARKi ITERATION MARKjVOICED ITERATION MARKjDIGRAPH KOTO"]),
  (0x3105, ["aBOPOMOFO LETTER BqPqMqFqDqTqNqLqGqKqHqJqQqXqZHqCHqSHqRqZqCqSqAqOqErHqAIqEIqAUqOUqANq",
    "ENqANGqENGrRqIqUqIUqVqNGqGNqIHqO WITH DOT ABOVEqNN"]),
  (0x3131, ["aHANGUL LETTER KIYEOKoSSANGKIYEOKoKIYEOK-SIOSoNIEUNt-CIEUCuHIEUHoTIKEUToSSANGTIKEUToR",
    "IEULt-KIYEOKuMIEUMuPIEUPuSIOSuTHIEUTHuPHIEUPHuHIEUHoMIEUMoPIEUPoSSANGPIEUPoPIEUP-SIOSoSIOSpSA",
    "NGSIOSoIEUNGoCIEUCoSSANGCIEUCoCHIEUCHoKHIEUKHoTHIEUTHoPHIEUPHoHIEUHoApEoYAqEoEOoEoYEOpEoOoWAq",
    "EoOEoYOoUoWEOpEpIoYUoEUoYIoIhFILLERhLETTER SSANGNIEUNoNIEUN-TIKEUTuSIOSuPANSIOSoRIEUL-KIYEOK-",
    "SIOSuTIKEUTuPIEUP-SIOSvANSIOSuYEORINHIEUHoMIEUM-PIEUPuSIOSuPANSIOSoKAPYEOUNMIEUMoPIEUP-KIYEOK",
    "uTIKEUTuSIOS-KIYEOKzTIKEUTuCIEUCuTHIEUTHoKAPYEOUNPIEUPwSSANGPIEUPoSIOS-KIYEOKtNIEUNtTIKEUTtPI",
    "EUPtCIEUCoPANSIOSoSSANGIEUNGoYESIEUNGw-SIOSxPANSIOSoKAPYEOUNPHIEUPHoSSANGHIEUHoYEORINHIEUHpO-",
    "YAtErIpU-YEOsErIoARAEAtE"]),
  (0x3190, ["aIDEOGRAPHIC ANNOTATION LINKING MARKxREVERSE MARKxONE MARKxTWO MARKyHREE MARKxFOUR MA",
    "RKxTOP MARKxMIDDLE MARKxBOTTOM MARKxFIRST MARKxSECOND MARKxTHIRD MARKxFOURTH MARKxHEAVEN MARK",
    "xEARTH MARKxMAN MARKaBOPOMOFO LETTER BUqZIqJIqGUqEErNNqOOrNNqIRqANNqINNqUNNqIMqNGGqAINNrUNNrM",
    "qOMrNGqINNNjFINAL LETTER PwTwKwHjLETTER GHqLHqZYjFINAL LETTER GjLETTER GWqKWqOEqAHaCJK STROKE",
    " TlWGlXGlBXGlSWlHZZnGmPmZWGlSZWGlHZTnZPmPWGmZWnZZlNlHlSlPlSPlDlHZmGlSZmWZmTmGlPDmZlTNlSZZmWGl",
    "HXWGmZZZGlPGlQ"]),
  (0x31f0, ["aKATAKANA LETTER SMALL KUwSIxUwTOwNUwHAxIxUxExOwMUwRAxIxUxExOaPARENTHESIZED HANGUL KI",
    "YEOKvNIEUNvTIKEUTvRIEULvMIEUMvPIEUPvSIOSvIEUNGvCIEUCwHIEUCHvKHIEUKHvTHIEUTHvPHIEUPHvHIEUHvKIY",
    "EOK AvNIEUN AvTIKEUT AvRIEUL AvMIEUM AvPIEUP AvSIOS AvIEUNG AvCIEUC AwHIEUCH AvKHIEUKH AvTHIE",
    "UTH AvPHIEUPH AvHIEUH AvCIEUC UoKOREAN CHARACTER OJEONbg HU"]),
  (0x3220, ["aPARENTHESIZED IDEOGRAPH ONEyTWOzHREEyFOURzIVEySIXzEVENyEIGHTyNINEyTENyMOONyFIREyWATE",
    "RzOODyMETALyEARTHySUNzTOCKyHAVEySOCIETYyNAMEySPECIALyFINANCIALyCONGRATULATIONyLABORyREPRESENT",
    "yCALLySTUDYzUPERVISEyENTERPRISEyRESOURCEyALLIANCEyFESTIVALyRESTySELFyREACHaCIRCLED IDEOGRAPH ",
    "QUESTIONsKINDERGARTENsSCHOOLsKOTOiNUMBER TEN ON BLACK SQUAREqWENTY ON BLACK SQUAREqHIRTY ON B",
    "LACK SQUAREpFORTY ON BLACK SQUAREqIFTY ON BLACK SQUAREpSIXTY ON BLACK SQUAREqEVENTY ON BLACK ",
    "SQUAREpEIGHTY ON BLACK SQUAREaPARTNERSHIP SIGNaCIRCLED NUMBER TWENTY ONEwTWOxHREEwFOURxIVEwSI",
    "XxEVENwEIGHTwNINEqHIRTYv ONEwTWOxHREEwFOURxIVEiHANGUL KIYEOKpNIEUNpTIKEUTpRIEULpMIEUMpPIEUPpS",
    "IOSpIEUNGpCIEUCqHIEUCHpKHIEUKHpTHIEUTHpPHIEUPHpHIEUHpKIYEOK ApNIEUN ApTIKEUT ApRIEUL ApMIEUM ",
    "ApPIEUP ApSIOS ApIEUNG ApCIEUC AqHIEUCH ApKHIEUKH ApTHIEUTH ApPHIEUPH ApHIEUH AiKOREAN CHARAC",
    "TER CHAMKOzJUEUIiHANGUL IEUNG UaKOREAN STANDARD SYMBOLaCIRCLED IDEOGRAPH ONEsTWOtHREEsFOURtIV",
    "EsSIXtEVENsEIGHTsNINEsTENsMOONsFIREsWATERtOODsMETALsEARTHsSUNtTOCKsHAVEsSOCIETYsNAMEsSPECIALs",
    "FINANCIALsCONGRATULATIONsLABORsSECRETsMALEsFEMALEsSUITABLEsEXCELLENTsPRINTsATTENTIONsITEMsRES",
    "TsCOPYuRRECTsHIGHsCENTREsLOWtEFTsRIGHTsMEDICINEsRELIGIONsSTUDYtUPERVISEsENTERPRISEsRESOURCEsA",
    "LLIANCEsNIGHTiNUMBER THIRTY SIXxEVENwEIGHTwNINEpFORTYu ONEvTWOwHREEvFOURwIVEvSIXwEVENvEIGHTvN",
    "INEqIFTYaIDEOGRAPHIC TELEGRAPH SYMBOL FOR JANUARYbhFEBRUARYbhMARCHbhAPRILbhMAYbhJUNEbjLYbhAUG",
    "USTbhSEPTEMBERbhOCTOBERbhNOVEMBERbhDECEMBERaSQUARE HGhERGiVaLIMITED LIABILITY SIGNaCIRCLED KA",
    "TAKANA ArIrUrErOrKAsIsUsEsOrSAsIsUsEsOrTAsIsUsEsOrNAsIsUsEsOrHAsIsUsEsOrMAsIsUsEsOrYAsUsOrRAs",
    "IsUsEsOrWAsIsEsOaSQUARE ERA NAME REIWAhAPAATOiRUHUAiNPEAiARUhININGUjTIhUONhESUKUUDOiEKAAhONSU",
    "iOMUhKAIRIjRATTOkORIIhGARONjNMAiIGAjNIIhKYURIIhGIRUDAAhKIROlGURAMUlMEETORUlWATTOhGURAMUnTONhK",
    "URUZEIROkOONEiEESUiORUNAjOPOhSAIKURUjNTIIMUiIRINGUiENTIlOhDAASUiESIiORUhTONhNANOiOTTOhHAITUhP",
    "AASENTOkTUhBAARERUhPIASUTORUjKURUkOhBIRUhHUARADDOjIITOhBUSSYERUhHURANiEKUTAARUhPESOjNIHIhHERU",
    "TUhPENSUjEZIhBEETAhPOINTOhBORUTOhHONhPONDOhHOORUkNhMAIKUROkRUjHHAjRUKUjNSYONiIKURONjRIlBAARUi",
    "EGAlTONjETORUhYAADOkRUiUANhRITTORUjRAiUPIIjUBURUiEMUjNTOGENhWATTOaIDEOGRAPHIC TELEGRAPH SYMBO",
    "L FOR HOUR ZERObmONEbmTWObnHREEbmFOURbnIVEbmSIXbnEVENbmEIGHTbmNINEbmTENbmELEVENbmTWELVEbnHIRT",
    "EENbmFOURTEENbnIFTEENbmSIXTEENbnEVENTEENbmEIGHTEENbmNINETEENbmTWENTYbs-ONEbtTWObuHREEbtFOURaS",
    "QUARE HPAhDAhAUhBARhOVhPChDMj SQUAREDkCUBEDhIUhERA NAME HEISEIqSYOUWAqTAISYOUqMEIZIhCORPORATI",
    "ONhPA AMPShNAhMU AiAhKAiBhMBhGBhCALhKCALhPFhNFhMU FkGiGhKGhHZhKHZhMHZhGHZhTHZhMU LiLhDLhKLhFM",
    "hNMhMU MiMhCMhKMhMM SQUAREDhCM SQUAREDhM SQUAREDhKM SQUAREDhMM CUBEDhCM CUBEDhM CUBEDhKM CUBE",
    "DhM OVER Sp SQUAREDhPAhKPAhMPAhGPAhRADk OVER Sr SQUAREDhPShNShMU SiShPVhNVhMU ViVhKVhMV MEGAh",
    "PWhNWhMU WiWhKWhMW MEGAhK OHMhM OHMhAMhBQhCCiDi OVER KGiOhDBhGYhHAiPhINhKKiM CAPITALiThLMiNiO",
    "GiXhMB SMALLiILiOLhPHiMiPMiRhSRiVhWBhV OVER MhA OVER MaIDEOGRAPHIC TELEGRAPH SYMBOL FOR DAY O",
    "NEblTWObmHREEblFOURbmIVEblSIXbmEVENblEIGHTblNINEblTENblELEVENblTWELVEbmHIRTEENblFOURTEENbmIFT",
    "EENblSIXTEENbmEVENTEENblEIGHTEENblNINETEENblTWENTYbr-ONEbsTWObtHREEbsFOURbtIVEbsSIXbtEVENbsEI",
    "GHTbsNINEbmHIRTYbr-ONEaSQUARE GAL"]),
  (0x4dc0, ["aHEXAGRAM FOR THE CREATIVE HEAVENrRECEPTIVE EARTHnDIFFICULTY AT THE BEGINNINGnYOUTHFU",
    "L FOLLYnWAITINGnCONFLICTnTHE ARMYnHOLDING TOGETHERnSMALL TAMINGnTREADINGnPEACEnSTANDSTILLnFEL",
    "LOWSHIPnGREAT POSSESSIONnMODESTYnENTHUSIASMnFOLLOWINGnWORK ON THE DECAYEDnAPPROACHnCONTEMPLAT",
    "IONnBITING THROUGHnGRACEnSPLITTING APARTnRETURNnINNOCENCEnGREAT TAMINGnMOUTH CORNERSnGREAT PR",
    "EPONDERANCEnTHE ABYSMAL WATERrCLINGING FIREnINFLUENCEnDURATIONnRETREATnGREAT POWERnPROGRESSnD",
    "ARKENING OF THE LIGHTnTHE FAMILYnOPPOSITIONoBSTRUCTIONnDELIVERANCEpCREASEnINCREASEnBREAKTHROU",
    "GHnCOMING TO MEETnGATHERING TOGETHERnPUSHING UPWARDnOPPRESSIONnTHE WELLnREVOLUTIONnTHE CAULDR",
    "ONrAROUSING THUNDERrKEEPING STILL MOUNTAINnDEVELOPMENTnTHE MARRYING MAIDENnABUNDANCEnTHE WAND",
    "ERERrGENTLE WINDrJOYOUS LAKEnDISPERSIONnLIMITATIONnINNER TRUTHnSMALL PREPONDERANCEnAFTER COMP",
    "LETIONnBEFORE COMPLETION"]),
  (0xa000, ["aYI SYLLABLE ITnXmInPnEToXnEoPmATnXmAnPmUOXnOoPmOTnXmOnPmEXmEmWUmBIToXnIoPoETpXoEpPnA",
    "ToXnAoPnUOXoOpPnOToXnOoPnEXnEoPnUToXnUoPoRXoRnYToXnYoPoRXoRmPIToXnIoPoEXoEpPnAToXnAoPnUOXoOpP",
    "nOToXnOoPnUToXnUoPoRXoRnYToXnYoPoRXoRmBBITpXoIpPpETqXpEqPoATpXoApPoUOXpOqPoOTpXoOpPoEXoEpPoUT",
    "pXoUpPpRXpRoYTpXoYpPmNBITpXoIpPpEXpEqPoATpXoApPoOTpXoOpPoUTpXoUpPpRXpRoYTpXoYpPpRXpRmHMITpXoI",
    "pPpEXpEqPoATpXoApPoUOXpOqPoOTpXoOpPoUTpXoUpPpRXpRoYXoYpPpRXpRmMIToXnIoPoEXoEpPnAToXnAoPnUOTpX",
    "oOpPnOToXnOoPnEXnEnUToXnUoPoRXoRnYToXnYoPmFIToXnIoPnAToXnAoPnOXnOoPnUToXnUoPoRXoRnYToXnYoPmVI",
    "ToXnIoPoETpXoEpPnAToXnAoPnOToXnOoPnEXoPnUToXnUoPoRXoRnYToXnYoPoRXoRmDIToXnIoPoEXoEpPnAToXnAoP",
    "nUOXoOnOToXnOoPnEXnEoPnUToXnUoPoRXoRmTIToXnIoPoEXoEpPnAToXnAoPnUOTpXoOpPnOToXnOoPnEXnEoPnUToX",
    "nUoPoRXoRmDDITpXoIpPpEXpEqPoATpXoApPoUOXpOqPoOTpXoOpPoEXoEpPoUTpXoUpPpRXpRmNDITpXoIpPpEXpEoAT",
    "pXoApPoOTpXoOpPoEXoEpPoUTpXoUpPpRXpRmHNITpXoIpPpETqXpEqPoATpXoApPoUOXpOoOTpXpPoEXoEpPoUTmNITo",
    "XnIoPoEXoEpPnAXnAoPnUOXoOpPnOToXnOoPnEXnEoPnUToXnUoPoRXoRmHLITpXoIpPpEXpEqPoATpXoApPoUOXpOqPo",
    "OXoOpPoEXoEpPoUTpXoUpPpRXpRoYTpXoYpPpRXpRmLIToXnIoPoETpXoEpPnAToXnAoPnUOTpXoOpPnOToXnOoPnEXnE",
    "oPnUToXnUoPoRXoRnYToXnYoPoRXoRmGIToXnIoPoETpXoEpPnAToXnAoPnUOTpXoOpPnOToXnOoPnEToXnEoPnUToXnU",
    "oPoRXoRmKIToXnIoPoEXoEpPnAToXnAoPnUOXoOpPnOToXnOoPnEToXnEoPnUToXnUoPoRXoRmGGITpXoIpEXpEqPoATp",
    "XoApPoUOTqXpOqPoOTpXoOpPoETpXoEpPoUTpXoUpPpRXpRmMGIEXpEoATpXoApPoUOXpOqPoOTpXoOpPoEXoEpPoUTpX",
    "oUpPpRXpRmHXITpXoIpPpETqXpEqPoATpXoApPoUOTqXpOqPoOTpXoOpPoEXoEpPmNGIEXpEqPoATpXoApPoUOTqXpOoO",
    "TpXoOpPoEXoEpPmHIToEXoEnAToXnAoPnUOTpXoOpPnOToXnOoPnEXnEoPmWAToXnAoPnUOXoOpPnOXnOoPnEXnEoPmZI",
    "ToXnIoPoEXoEpPnAToXnAoPnUOXoOpPnOToXnOoPnEXnEoPnUToXnUoPoRXoRnYToXnYoPoRXoRmCIToXnIoPoETpXoEp",
    "PnAToXnAoPnUOXoOpPnOToXnOoPnEXnEoPnUToXnUoPoRXoRnYToXnYoPoRXoRmZZITpXoIpPpETqXpEqPoATpXoApPoO",
    "XoOpPoEXoEpPoUXoUpPpRXpRoYTpXoYpPpRXpRmNZITpXoIpPpEXpEqPoATpXoApPoUOXpOoOXpPoEXoEoUXoUpPpRXpR",
    "oYTpXoYpPpRXpRmSIToXnIoPoEXoEpPnAToXnAoPnUOXoOpPnOToXnOoPnEXnEoPnUToXnUoPoRXoRnYToXnYoPoRXoRn",
    "SITpXoIpPpEXpEqPoATpXoApPoOTpXoOpPoEXoEpPoUTpXoUpPoYTpXoYpPpRXpRmZHATpXoApPoUOXpOqPoOTpXoOpPo",
    "ETpXoEpPoUTpXoUpPpRXpRoYTpXoYpPpRXpRmCHATpXoApPoUOTqXpOqPoOTpXoOpPoETpXoEpPoUXoUpPpRXpRoYTpXo",
    "YpPpRXpRmRRAXoAoUOXpOoOTpXoOpPoETpXoEpPoUTpXoUpPpRXpRoYTpXoYpPpRXpRmNRATpXoApPoOXoOpPoETpXoEp",
    "PoUTpXoUpPpRXpRoYTpXoYpPpRXpRmSHATpXoApPoUOXpOqPoOTpXoOpPoETpXoEpPoUTpXoUpPpRXpRoYTpXoYpPpRXp",
    "RmRAToXnAoPnUOXoOpPnOToXnOoPnEXnEoPnUToXnUoPoRXoRnYToXnYoPoRXoRmJIToXnIoPoETpXoEpPnUOTpXoOpPn",
    "OToXnOoPnUToXnUoPoRXoRnYToXnYoPoRXoRmQIToXnIoPoETpXoEpPnUOTpXoOpPnOToXnOoPnUToXnUoPoRXoRnYToX",
    "nYoPoRXoRmJJITpXoIpPpETqXpEqPoUOXpOqPoOTpXoOpPoUTpXoUpPpRXpRoYTpXoYpPmNJITpXoIpPpETqXpEqPoUOX",
    "pOoOTpXoOpPoUXoUpPpRXpRoYTpXoYpPpRXpRnYITpXoIpPpETqXpEqPoUOXpOqPoOTpXoOpPoUTpXoUpPmXIToXnIoPo",
    "ETpXoEpPnUOXoOnOToXnOoPnYToXnYoPoRXoRmYIToXnIoPoETpXoEpPnUOTpXoOpPnOToXnOoPnUToXnUoPoRXoRnYTo",
    "XnYoPoRXoR"]),
  (0xa490, ["aYI RADICAL QOTlLIlKITlNYIPlCYPlSSIlGGOPmEPlMIlHXITlLYRlBBUTlMOPlYOlPUTlHXUOlTATlGAlZ",
    "UPlCYTlDDURlBURlGGUOlNYOPlTUlOPlJJUTlZOTlPYTlHMOlYITlVURlSHYlVEPlZAlJOlNZUPlJJYlGOTlJJIElWOlD",
    "UlSHURlLIElCYmUOPmIPlHXOPlSHATlZURlSHOPlCHElZZIETlNBIElKE"]),
  (0xa4d0, ["aLISU LETTER BAmPAnHAmDAmTAnHAmGAmKAnHAmJAmCAnHAmDZAmTSAoHAmMAmNAmLAmSAmZHAnAmNGAmHAm",
    "XAmHHAmFAmWAmSHAmYAmGHAmAnEmEnUmImOmUnEnHmOEmTONE MYA TIrNA POrMYA CYAvBOvNAvJEUfPUNCTUATION ",
    "COMMArFULL STOPaVAI SYLLABLE EEpNnHEEnWEEqNnPEEnBHEEoEEnMBEEnKPEEnMGBEEnGBEEnFEEnVEEnTEEoHEEn",
    "DHEEpHEEnLEEnREEnDEEnNDEEnSEEoHEEnZEEoHEEnCEEnJEEnNJEEnYEEnKEEnNGGEEnGEEnMEEnNEEoYEEnIoNnHIpN",
    "nWIpNnPInBHIoInMBInKPInMGBInGBInFInVInTIoHInDHIpHInLInRInDInNDInSIoHInZIoHInCInJInNJInYInKInN",
    "GGInGInMInNIoYInAoNnNGANnHApNnWApNnPAnBHAoAnMBAnKPAqNnMGBAnGBAnFAnVAnTAoHAnDHApHAnLAnRAnDAnND",
    "AnSAoHAnZAoHAnCAnJAnNJAnYAnKApNnNGGAnGAnMAnNAoYAnOOpNnHOOnWOOqNnPOOnBHOOoOOnMBOOnKPOOnMGBOOnG",
    "BOOnFOOnVOOnTOOoHOOnDHOOpHOOnLOOnROOnDOOnNDOOnSOOoHOOnZOOoHOOnCOOnJOOnNJOOnYOOnKOOnNGGOOnGOOn",
    "MOOnNOOoYOOnUoNnHUpNnWUpNnPUnBHUoUnMBUnKPUnMGBUnGBUnFUnVUnTUoHUnDHUpHUnLUnRUnDUnNDUnSUoHUnZUo",
    "HUnCUnJUnNJUnYUnKUnNGGUnGUnMUnNUoYUnOoNnNGONnHOpNnWOpNnPOnBHOoOnMBOnKPOnMGBOnGBOqNnFOnVOnTOoH",
    "OnDHOpHOnLOnROnDOnNDOnSOoHOnZOoHOnCOnJOnNJOnYOnKOnNGGOnGOnMOnNOoYOnEoNnNGENnHEpNnWEpNnPEnBHEo",
    "EnMBEnKPEqNnMGBEnGBEqNnFEnVEnTEoHEnDHEpHEnLEnREnDEnNDEnSEoHEnZEoHEnCEnJEnNJEnYEnKEnNGGErNnGEp",
    "NnMEnNEoYEoGnLENGTHENEReCOMMAeFULL STOPeQUESTION MARKeSYLLABLE NDOLE FAtKAtSOOgMBOL FEENGlKEE",
    "NGlTINGlNIIlBANGlFAAlTAAlDANGmOONGlKUNGlTONGlDO-OlJONGeDIGIT ZEROkONEkTWOlHREEkFOURlIVEkSIXlE",
    "VENkEIGHTkNINEeSYLLABLE NDOLE MAtDO"]),
  (0xa640, ["aCYRILLIC CAPITAL LETTER ZEMLYAjSMALL LETTER ZEMLYAjCAPITAL LETTER DZELOjSMALL LETTER",
    " DZELOjCAPITAL LETTER REVERSED DZEjSMALL LETTER REVERSED DZEjCAPITAL LETTER IOTAjSMALL LETTER",
    " IOTAjCAPITAL LETTER DJERVjSMALL LETTER DJERVjCAPITAL LETTER MONOGRAPH UKjSMALL LETTER MONOGR",
    "APH UKjCAPITAL LETTER BROAD OMEGAjSMALL LETTER BROAD OMEGAjCAPITAL LETTER NEUTRAL YERjSMALL L",
    "ETTER NEUTRAL YERjCAPITAL LETTER YERU WITH BACK YERjSMALL LETTER YERU WITH BACK YERjCAPITAL L",
    "ETTER IOTIFIED YATjSMALL LETTER IOTIFIED YATjCAPITAL LETTER REVERSED YUjSMALL LETTER REVERSED",
    " YUjCAPITAL LETTER IOTIFIED AjSMALL LETTER IOTIFIED AjCAPITAL LETTER CLOSED LITTLE YUSjSMALL ",
    "LETTER CLOSED LITTLE YUSjCAPITAL LETTER BLENDED YUSjSMALL LETTER BLENDED YUSjCAPITAL LETTER I",
    "OTIFIED CLOSED LITTLE YUSjSMALL LETTER IOTIFIED CLOSED LITTLE YUSjCAPITAL LETTER YNjSMALL LET",
    "TER YNjCAPITAL LETTER REVERSED TSEjSMALL LETTER REVERSED TSEjCAPITAL LETTER SOFT DEjSMALL LET",
    "TER SOFT DEjCAPITAL LETTER SOFT ELjSMALL LETTER SOFT ELjCAPITAL LETTER SOFT EMjSMALL LETTER S",
    "OFT EMjCAPITAL LETTER MONOCULAR OjSMALL LETTER MONOCULAR OjCAPITAL LETTER BINOCULAR OjSMALL L",
    "ETTER BINOCULAR OjCAPITAL LETTER DOUBLE MONOCULAR OjSMALL LETTER DOUBLE MONOCULAR OjLETTER MU",
    "LTIOCULAR ObOMBINING CYRILLIC VZMETtTEN MILLIONS SIGNtHUNDRED MILLIONS SIGNtTHOUSAND MILLIONS",
    " SIGNaSLAVONIC ASTERISKaCOMBINING CYRILLIC LETTER UKRAINIAN IEbaIbaYIbaUbaHARD SIGNbaYERUbaSO",
    "FT SIGNbaOMEGAtKAVYKAtPAYEROKbYRILLIC KAVYKAjPAYEROKjCAPITAL LETTER DWEjSMALL LETTER DWEjCAPI",
    "TAL LETTER DZWEjSMALL LETTER DZWEjCAPITAL LETTER ZHWEjSMALL LETTER ZHWEjCAPITAL LETTER CCHEjS",
    "MALL LETTER CCHEjCAPITAL LETTER DZZEjSMALL LETTER DZZEjCAPITAL LETTER TE WITH MIDDLE HOOKjSMA",
    "LL LETTER TE WITH MIDDLE HOOKjCAPITAL LETTER TWEjSMALL LETTER TWEjCAPITAL LETTER TSWEjSMALL L",
    "ETTER TSWEjCAPITAL LETTER TSSEjSMALL LETTER TSSEjCAPITAL LETTER TCHEjSMALL LETTER TCHEjCAPITA",
    "L LETTER HWEjSMALL LETTER HWEjCAPITAL LETTER SHWEjSMALL LETTER SHWEjCAPITAL LETTER DOUBLE OjS",
    "MALL LETTER DOUBLE OjCAPITAL LETTER CROSSED OjSMALL LETTER CROSSED OaMODIFIER LETTER CYRILLIC",
    " HARD SIGNzSOFT SIGNaCOMBINING CYRILLIC LETTER EFbaIOTIFIED EaBAMUM LETTER AnKAnUnKUnEEnREEnT",
    "AEnOnNYInInLAnPAnRIIpEEnLEEEEnMEEEEnTAAnNDAAoJAEMnMnSUUnMUnSHIIoIoHEUXoEUXnKYEEoETnNUAEoUoJUA",
    "EnYOQnSHUnYUQoAnNSHAnKEUXnPEUXnNJEEoTEEnPUEnWUEnPEEnFEEnRUnLUnMInNInREUXoAEnKENnNGKWAENpGApAn",
    "SHOnPUAEnFUoOMnWAnNAnLInPInLOQnKOnMBENnRENnMENoAnTInKInMOoBAAnTETnKPAnTENnNTUUnSAMBAnFAAMAEnK",
    "OVUUpGHOMgCOMBINING MARK KOQNDONvTUKWENTISgNJAEMLIgFULL STOPgCOLONiMMAgSEMICOLONgQUESTION MAR",
    "K"]),
  (0xa700, ["aMODIFIER LETTER CHINESE TONE YIN PINGbeANG PINGbeIN SHANGbeANG SHANGbeIN QUbeANG QUb",
    "eIN RUbeANG RUqEXTRA-HIGH DOTTED TONE BARqHIGH DOTTED TONE BARqMID DOTTED TONE BARqLOW DOTTED",
    " TONE BARqEXTRA-LOW DOTTED TONE BARwHIGH DOTTED LEFT-STEM TONE BARqHIGH DOTTED LEFT-STEM TONE",
    " BARqMID DOTTED LEFT-STEM TONE BARqLOW DOTTED LEFT-STEM TONE BARqEXTRA-LOW DOTTED LEFT-STEM T",
    "ONE BARwHIGH LEFT-STEM TONE BARqHIGH LEFT-STEM TONE BARqMID LEFT-STEM TONE BARqLOW LEFT-STEM ",
    "TONE BARqEXTRA-LOW LEFT-STEM TONE BARqDOT VERTICAL BARuSLASHuHORIZONTAL BARqLOWER RIGHT CORNE",
    "R ANGLEqRAISED UP ARROWxDOWN ARROWxEXCLAMATION MARKxINVERTED EXCLAMATION MARKqLOW INVERTED EX",
    "CLAMATION MARKqSTRESS AND HIGH TONEbbLOW TONEaLATIN CAPITAL LETTER EGYPTOLOGICAL ALEFgSMALL L",
    "ETTER EGYPTOLOGICAL ALEFgCAPITAL LETTER EGYPTOLOGICAL AINgSMALL LETTER EGYPTOLOGICAL AINgCAPI",
    "TAL LETTER HENGgSMALL LETTER HENGgCAPITAL LETTER TZgSMALL LETTER TZgCAPITAL LETTER TRESILLOgS",
    "MALL LETTER TRESILLOgCAPITAL LETTER CUATRILLOgSMALL LETTER CUATRILLOgCAPITAL LETTER CUATRILLO",
    " WITH COMMAgSMALL LETTER CUATRILLO WITH COMMAgLETTER SMALL CAPITAL FbbSgCAPITAL LETTER AAgSMA",
    "LL LETTER AAgCAPITAL LETTER AOgSMALL LETTER AOgCAPITAL LETTER AUgSMALL LETTER AUgCAPITAL LETT",
    "ER AVgSMALL LETTER AVgCAPITAL LETTER AV WITH HORIZONTAL BARgSMALL LETTER AV WITH HORIZONTAL B",
    "ARgCAPITAL LETTER AYgSMALL LETTER AYgCAPITAL LETTER REVERSED C WITH DOTgSMALL LETTER REVERSED",
    " C WITH DOTgCAPITAL LETTER K WITH STROKEgSMALL LETTER K WITH STROKEgCAPITAL LETTER K WITH DIA",
    "GONAL STROKEgSMALL LETTER K WITH DIAGONAL STROKEgCAPITAL LETTER K WITH STROKE AND DIAGONAL ST",
    "ROKEgSMALL LETTER K WITH STROKE AND DIAGONAL STROKEgCAPITAL LETTER BROKEN LgSMALL LETTER BROK",
    "EN LgCAPITAL LETTER L WITH HIGH STROKEgSMALL LETTER L WITH HIGH STROKEgCAPITAL LETTER O WITH ",
    "LONG STROKE OVERLAYgSMALL LETTER O WITH LONG STROKE OVERLAYgCAPITAL LETTER O WITH LOOPgSMALL ",
    "LETTER O WITH LOOPgCAPITAL LETTER OOgSMALL LETTER OOgCAPITAL LETTER P WITH STROKE THROUGH DES",
    "CENDERgSMALL LETTER P WITH STROKE THROUGH DESCENDERgCAPITAL LETTER P WITH FLOURISHgSMALL LETT",
    "ER P WITH FLOURISHgCAPITAL LETTER P WITH SQUIRREL TAILgSMALL LETTER P WITH SQUIRREL TAILgCAPI",
    "TAL LETTER Q WITH STROKE THROUGH DESCENDERgSMALL LETTER Q WITH STROKE THROUGH DESCENDERgCAPIT",
    "AL LETTER Q WITH DIAGONAL STROKEgSMALL LETTER Q WITH DIAGONAL STROKEgCAPITAL LETTER R ROTUNDA",
    "gSMALL LETTER R ROTUNDAgCAPITAL LETTER RUM ROTUNDAgSMALL LETTER RUM ROTUNDAgCAPITAL LETTER V ",
    "WITH DIAGONAL STROKEgSMALL LETTER V WITH DIAGONAL STROKEgCAPITAL LETTER VYgSMALL LETTER VYgCA",
    "PITAL LETTER VISIGOTHIC ZgSMALL LETTER VISIGOTHIC ZgCAPITAL LETTER THORN WITH STROKEgSMALL LE",
    "TTER THORN WITH STROKEgCAPITAL LETTER THORN WITH STROKE THROUGH DESCENDERgSMALL LETTER THORN ",
    "WITH STROKE THROUGH DESCENDERgCAPITAL LETTER VENDgSMALL LETTER VENDgCAPITAL LETTER ETgSMALL L",
    "ETTER ETgCAPITAL LETTER ISgSMALL LETTER ISgCAPITAL LETTER CONgSMALL LETTER CONaMODIFIER LETTE",
    "R USaLATIN SMALL LETTER DUMtLUMtMUMtNUMtRUMgLETTER SMALL CAPITAL RUMgSMALL LETTER TUMtUMgCAPI",
    "TAL LETTER INSULAR DgSMALL LETTER INSULAR DgCAPITAL LETTER INSULAR FgSMALL LETTER INSULAR FgC",
    "APITAL LETTER INSULAR GvTURNED INSULAR GgSMALL LETTER TURNED INSULAR GgCAPITAL LETTER TURNED ",
    "LgSMALL LETTER TURNED LgCAPITAL LETTER INSULAR RgSMALL LETTER INSULAR RgCAPITAL LETTER INSULA",
    "R SgSMALL LETTER INSULAR SgCAPITAL LETTER INSULAR TgSMALL LETTER INSULAR TaMODIFIER LETTER LO",
    "W CIRCUMFLEX ACCENTqCOLONqSHORT EQUALS SIGNaLATIN CAPITAL LETTER SALTILLOgSMALL LETTER SALTIL",
    "LOgCAPITAL LETTER TURNED HgSMALL LETTER L WITH RETROFLEX HOOK AND BELTgLETTER SINOLOGICAL DOT",
    "gCAPITAL LETTER N WITH DESCENDERgSMALL LETTER N WITH DESCENDERgCAPITAL LETTER C WITH BARgSMAL",
    "L LETTER C WITH BARbaPALATAL HOOKtH WITH PALATAL HOOKgCAPITAL LETTER B WITH FLOURISHgSMALL LE",
    "TTER B WITH FLOURISHgCAPITAL LETTER F WITH STROKEgSMALL LETTER F WITH STROKEgCAPITAL LETTER V",
    "OLAPUK AEgSMALL LETTER VOLAPUK AEgCAPITAL LETTER VOLAPUK OEgSMALL LETTER VOLAPUK OEgCAPITAL L",
    "ETTER VOLAPUK UEgSMALL LETTER VOLAPUK UEgCAPITAL LETTER G WITH OBLIQUE STROKEgSMALL LETTER G ",
    "WITH OBLIQUE STROKEgCAPITAL LETTER K WITH OBLIQUE STROKEgSMALL LETTER K WITH OBLIQUE STROKEgC",
    "APITAL LETTER N WITH OBLIQUE STROKEgSMALL LETTER N WITH OBLIQUE STROKEgCAPITAL LETTER R WITH ",
    "OBLIQUE STROKEgSMALL LETTER R WITH OBLIQUE STROKEgCAPITAL LETTER S WITH OBLIQUE STROKEgSMALL ",
    "LETTER S WITH OBLIQUE STROKEgCAPITAL LETTER H WITH HOOKvREVERSED OPEN EvSCRIPT GvL WITH BELTv",
    "SMALL CAPITAL IgLETTER SMALL CAPITAL QgCAPITAL LETTER TURNED KbcTvJ WITH CROSSED-TAILvCHIvBET",
    "AgSMALL LETTER BETAgCAPITAL LETTER OMEGAgSMALL LETTER OMEGAgCAPITAL LETTER U WITH STROKEgSMAL",
    "L LETTER U WITH STROKEgCAPITAL LETTER GLOTTAL AgSMALL LETTER GLOTTAL AgCAPITAL LETTER GLOTTAL",
    " IgSMALL LETTER GLOTTAL IgCAPITAL LETTER GLOTTAL UgSMALL LETTER GLOTTAL UgCAPITAL LETTER OLD ",
    "POLISH OgSMALL LETTER OLD POLISH OgCAPITAL LETTER ANGLICANA WgSMALL LETTER ANGLICANA WgCAPITA",
    "L LETTER C WITH PALATAL HOOKvS WITH HOOKvZ WITH PALATAL HOOKvD WITH SHORT STROKE OVERLAYgSMAL",
    "L LETTER D WITH SHORT STROKE OVERLAYgCAPITAL LETTER S WITH SHORT STROKE OVERLAYgSMALL LETTER ",
    "S WITH SHORT STROKE OVERLAY"]),
  (0xa7d0, ["aLATIN CAPITAL LETTER CLOSED INSULAR GgSMALL LETTER CLOSED INSULAR G"]),
  (0xa7d3, ["aLATIN SMALL LETTER DOUBLE THORN"]),
  (0xa7d5, ["aLATIN SMALL LETTER DOUBLE WYNNgCAPITAL LETTER MIDDLE SCOTS SgSMALL LETTER MIDDLE SCO",
    "TS SgCAPITAL LETTER SIGMOID SgSMALL LETTER SIGMOID S"]),
  (0xa7f2, ["aMODIFIER LETTER CAPITAL CyFyQaLATIN CAPITAL LETTER REVERSED HALF HgSMALL LETTER REVE",
    "RSED HALF HgEPIGRAPHIC LETTER SIDEWAYS IaMODIFIER LETTER CAPITAL H WITH STROKEqSMALL LIGATURE",
    " OEaLATIN LETTER SMALL CAPITAL TURNED MgEPIGRAPHIC LETTER REVERSED FbhPyINVERTED Mz LONGAyARC",
    "HAIC MaSYLOTI NAGRI LETTER AuInSIGN DVISVARAnLETTER UuEuOnSIGN HASANTAnLETTER KOvHOuGOvHOnSIG",
    "N ANUSVARAnLETTER COvHOuJOvHOuTTOwHOuDDOwHOuTOvHOuDOvHOuNOuPOvHOuBOvHOuMOuROuLOuRROuSOuHOnVOW",
    "EL SIGN AyIyUyEyOOnPOETRY MARK-1z2z3z4nSIGN ALTERNATE HASANTA"]),
  (0xa830, ["aNORTH INDIC FRACTION ONE QUARTERzHALFvTHREE QUARTERSvONE SIXTEENTHzEIGHTHvTHREE SIXT",
    "EENTHSmQUARTER MARKmPLACEHOLDER MARKmRUPEE MARKmQUANTITY MARK"]),
  (0xa840, ["aPHAGS-PA LETTER KArHAqGAqNGAqCArHAqJAqNYAqTArHAqDAqNAqPArHAqBAqMAqTSAsHAqDZAqWAqZHAr",
    "AqSMALL AqYAqRAqLAqSHArAqHAqAqIqUqEqOqQAqXAqFAqGGAqEEjSUBJOINED LETTER WAbaYAjLETTER TTAsHAqD",
    "DAqNNAqALTERNATE YAqVOICELESS SHAvD HAqASPIRATED FAjSUBJOINED LETTER RAlPERFIXED LETTER RAjLE",
    "TTER CANDRABINDUjSINGLE HEAD MARKjDOUBLE HEAD MARKjMARK SHADoDOUBLE SHAD"]),
  (0xa880, ["aSAURASHTRA SIGN ANUSVARAqVISARGAlLETTER AtAsItIsUtUsVOCALIC RbbRbaLbbLsEtEsAIsOtOsAU",
    "sKAtHAsGAtHAsNGAsCAtHAsJAtHAsNYAsTTAuHAsDDAuHAsNNAsTAtHAsDAtHAsNAsPAtHAsBAtHAsMAsYAsRAsLAsVAs",
    "SHAtSAtAsHAsLLAlCONSONANT SIGN HAARUlVOWEL SIGN AAwIxIwUxUwVOCALIC RbfRbeLbfLwExEwAIwOxOwAUlS",
    "IGN VIRAMAqCANDRABINDU"]),
  (0xa8ce, ["aSAURASHTRA DANDAmOUBLE DANDAmIGIT ZEROrONErTWOsHREErFOURsIVErSIXsEVENrEIGHTrNINE"]),
  (0xa8e0, ["aCOMBINING DEVANAGARI DIGIT ZERObbONEbbTWObcHREEbbFOURbcIVEbbSIXbcEVENbbEIGHTbbNINEvL",
    "ETTER AbcUbcKAbcNAbcPAbcRAbcVIvSIGN AVAGRAHAaDEVANAGARI SIGN SPACING CANDRABINDUqCANDRABINDU ",
    "VIRAMAqDOUBLE CANDRABINDU VIRAMAqCANDRABINDU TWObdHREEbcAVAGRAHAqPUSHPIKAlGAP FILLERlCARETlHE",
    "ADSTROKElSIGN SIDDHAMlJAIN OMlLETTER AYlVOWEL SIGN AYaKAYAH LI DIGIT ZEROpONEpTWOqHREEpFOURqI",
    "VEpSIXqEVENpEIGHTpNINEjLETTER KArHAqGAqNGAqSArHAqZAqNYAqTAqHTAqNAqPArHAqMAqDAqBAqRAqYAqLAqWAq",
    "THAqHAqVAqCAqAqOEqIqOOjVOWEL UEpEpUpEEpOjTONE PLOPHUoCALYAt PLOPHUjSIGN CWIoSHYAaREJANG LETTE",
    "R KAoGAoNGAoTAoDAoNAoPAoBAoMAoCAoJAoNYAoSAoRAoLAoYAoWAoHAoMBAoNGGApDApYJAoAhVOWEL SIGN IsUsEs",
    "AIsOsAUsEUtAhCONSONANT SIGN NGwNwRwHhVIRAMA"]),
  (0xa95f, ["aREJANG SECTION MARKaHANGUL CHOSEONG TIKEUT-MIEUMxPIEUPxSIOSxCIEUCqRIEUL-KIYEOKwSSANG",
    "KIYEOKwTIKEUTwSSANGTIKEUTwMIEUMwPIEUPwSSANGPIEUPwKAPYEOUNPIEUPwSIOSwCIEUCwKHIEUKHqMIEUM-KIYEO",
    "KwTIKEUTwSIOSqPIEUP-SIOS-THIEUTHwKHIEUKHwHIEUHqSSANGSIOS-PIEUPqIEUNG-RIEULwHIEUHqSSANGCIEUC-H",
    "IEUHvTHIEUTHqPHIEUPH-HIEUHqHIEUH-SIOSqSSANGYEORINHIEUH"]),
  (0xa980, ["aJAVANESE SIGN PANYANGGAoCECAKoLAYARoWIGNYANjLETTER AqI KAWIqIrIqUqPA CEREKqNGA LELET",
    "z RASWADIqEqAIqOqKAs SASAKtMURDAqGAs MURDAqNGAqCAs MURDAqJAqNYA MURDAqJA MAHAPRANAqNYAqTTAt M",
    "AHAPRANAqDDAt MAHAPRANAqNA MURDAqTAs MURDAqDAs MAHAPRANAqNAqPAs MURDAqBAs MURDAqMAqYAqRAs AGU",
    "NGqLAqWAqSA MURDAuAHAPRANArAqHAjSIGN CECAK TELUjVOWEL SIGN TARUNGvOLONGuWULUy MELIKuSUKUy MEN",
    "DUTuTALINGuDIRGA MUREuPEPETjCONSONANT SIGN KERETyPENGKALyCAKRAjPANGKONjLEFT RERENGGANjRIGHT R",
    "ERENGGANjPADA ANDAPoMADYAoLUHURoWINDUoPANGKAToLINGSApUNGSIoADEGs ADEGoPISELEHjTURNED PADA PIS",
    "ELEH"]),
  (0xa9cf, ["aJAVANESE PANGRANGKEPjDIGIT ZEROpONEpTWOqHREEpFOURqIVEpSIXqEVENpEIGHTpNINE"]),
  (0xa9de, ["aJAVANESE PADA TIRTA TUMETESoISEN-ISENaMYANMAR LETTER SHAN GHAuCHAuJHAuNNAuBHAiSIGN S",
    "HAN SAWiMODIFIER LETTER SHAN REDUPLICATIONiLETTER TAI LAING NYAzFAzGAbaHAzJAbaHAzDDAbbHAzNNAi",
    "TAI LAING DIGIT ZEROyONEyTWOzHREEyFOURzIVEySIXzEVENyEIGHTyNINEiLETTER TAI LAING LLAzDAbaHAzBA",
    "baHA"]),
  (0xaa00, ["aCHAM LETTER AmImUmEmAImOmKAnHAmGAnHAmNGUEoAmCHAoHAmJAnHAmNHUEoAoJAmTAnHAmDAnHAmNUEnA",
    "mDDAmPAnPAnHAmBAnHAmMUEnAmBBAmYAmRAmLAmVAmSSAnAmHAfVOWEL SIGN AAqIrIqEIqUqOEqOqAIrUqUEfCONSON",
    "ANT SIGN YAuRAuLAuWA"]),
  (0xaa40, ["aCHAM LETTER FINAL KsGsNGfCONSONANT SIGN FINAL NGfLETTER FINAL CHsTsNsPsYsRsLsSSfCONS",
    "ONANT SIGN FINAL MbaH"]),
  (0xaa50, ["aCHAM DIGIT ZEROlONElTWOmHREElFOURmIVElSIXmEVENlEIGHTlNINE"]),
  (0xaa5c, ["aCHAM PUNCTUATION SPIRALrDANDAsOUBLE DANDArTRIPLE DANDAaMYANMAR LETTER KHAMTI GAwCAxH",
    "AwJAxHAwNYAwTTAyHAwDDAyHAxHAwNAwSAwHAxHAwFAiMODIFIER LETTER KHAMTI REDUPLICATIONiLETTER KHAMT",
    "I XAwZAwRAjOGOGRAM KHAMTI OAYyQNyHMiSYMBOL AITON EXCLAMATIONvONEvTWOiLETTER AITON RAiSIGN PAO",
    " KAREN TONEnTAI LAING TONE-2bc5iLETTER SHWE PALAUNG CHAbcSHAaTAI VIET LETTER LOW KOqHIGH KOqL",
    "OW KHOqHIGH KHOqLOW KHHOqHIGH KHHOqLOW GOqHIGH GOqLOW NGOqHIGH NGOqLOW COqHIGH COqLOW CHOqHIG",
    "H CHOqLOW SOqHIGH SOqLOW NYOqHIGH NYOqLOW DOqHIGH DOqLOW TOqHIGH TOqLOW THOqHIGH THOqLOW NOqH",
    "IGH NOqLOW BOqHIGH BOqLOW POqHIGH POqLOW PHOqHIGH PHOqLOW FOqHIGH FOqLOW MOqHIGH MOqLOW YOqHI",
    "GH YOqLOW ROqHIGH ROqLOW LOqHIGH LOqLOW VOqHIGH VOqLOW HOqHIGH HOqLOW OqHIGH OjMAI KANGjVOWEL",
    " AApIpUEpUpEpOjMAI KHITjVOWEL IApUEAqApAUEqYqNqMjTONE MAI EKsNUENGsTHOsSONG"]),
  (0xaadb, ["aTAI VIET SYMBOL KONqNUENGqSAMqHO HOIqKOI KOIaMEETEI MAYEK LETTER EuOuCHAuNYAuTTAwHAu",
    "DDAwHAuNNAuSHAvSAnVOWEL SIGN IIyUUyAAIzUzAUnCHEIKHANnAHANG KHUDAMoNJInSYLLABLE REPETITION MAR",
    "KnWORD REPETITION MARKnVOWEL SIGN VISARGAoIRAMA"]),
  (0xab01, ["aETHIOPIC SYLLABLE TTHUvIvAAvEEvEvO"]),
  (0xab09, ["aETHIOPIC SYLLABLE DDHUvIvAAvEEvEvO"]),
  (0xab11, ["aETHIOPIC SYLLABLE DZUuIuAAuEEuEuO"]),
  (0xab20, ["aETHIOPIC SYLLABLE CCHHAwUwIwAAwEEwEwO"]),
  (0xab28, ["aETHIOPIC SYLLABLE BBAuUuIuAAuEEuEuO"]),
  (0xab30, ["aLATIN SMALL LETTER BARRED ALPHAtA REVERSED-SCHWAtBLACKLETTER EuARRED EtE WITH FLOURI",
    "SHtLENIS FtSCRIPT G WITH CROSSED-TAILtL WITH INVERTED LAZY SbaDOUBLE MIDDLE TILDEbaMIDDLE RIN",
    "GtM WITH CROSSED-TAILtN WITH CROSSED-TAILtENG WITH CROSSED-TAILtBLACKLETTER Obg WITH STROKEtO",
    "PEN O WITH STROKEtINVERTED OEtTURNED OE WITH STROKEbiHORIZONTAL STROKEbb OPEN-Obi WITH STROKE",
    "tSTIRRUP RgLETTER SMALL CAPITAL R WITH RIGHT LEGgSMALL LETTER R WITHOUT HANDLEtDOUBLE RtR WIT",
    "H CROSSED-TAILtDOUBLE R WITH CROSSED-TAILtSCRIPT Rbb WITH RINGtBASELINE ESHtU WITH SHORT RIGH",
    "T LEGvBAR WITH SHORT RIGHT LEGuItTURNED UItU WITH LEFT HOOKtCHIw WITH LOW RIGHT RINGbgLEFT SE",
    "RIFtX WITH LOW RIGHT RINGbcNG LEFT LEGbn AND LOW RIGHT RINGboWITH SERIFtY WITH SHORT RIGHT LE",
    "GaMODIFIER BREVE WITH INVERTED BREVEjLETTER SMALL HENGwL WITH INVERTED LAZY SbdMIDDLE TILDEwU",
    " WITH LEFT HOOKaLATIN SMALL LETTER SAKHA YATtIOTIFIED EtOPEN OEtUOtINVERTED ALPHAaGREEK LETTE",
    "R SMALL CAPITAL OMEGAaLATIN SMALL LETTER DZ DIGRAPH WITH RETROFLEX HOOKtTS DIGRAPH WITH RETRO",
    "FLEX HOOKuURNED R WITH MIDDLE TILDEaMODIFIER LETTER SMALL TURNED WqLEFT TACKqRIGHT TACK"]),
  (0xab70, ["aCHEROKEE SMALL LETTER AwEwIwOwUwVwGAwKAwGExIxOxUxVwHAxExIxOxUxVwLAxExIxOxUxVwMAxExIx",
    "OxUwNAwHNAwNAHxExIxOxUxVwQUAyEyIyOyUyVwSAwSxExIxOxUxVwDAwTAwDEwTEwDIwTIwDOxUxVxLAwTLAyEyIyOyU",
    "yVxSAyEyIyOyUyVwWAxExIxOxUxVwYAaMEETEI MAYEK LETTER KOKuSAMuLAIuMITuPAuNAuCHILuTILuKHOUuNGOUu",
    "THOUuWAIuYANGuHUKuUNuIuPHAMuATIYAuGOKuJHAMuRAIuBAuJILuDILuGHOUuDHOUuBHAMuKOK LONSUMuLAI LONSU",
    "MuMIT LONSUMuPA LONSUMuNA LONSUMuTIL LONSUMuNGOU LONSUMuI LONSUMnVOWEL SIGN ONAPyINAPyANAPyYE",
    "NAPySOUNAPyUNAPyCHEINAPyNUNGnCHEIKHEInLUM IYEKnAPUN IYEK"]),
  (0xabf0, ["aMEETEI MAYEK DIGIT ZEROtONEtTWOuHREEtFOURuIVEtSIXuEVENtEIGHTtNINE"]),
  (0xd7b0, ["aHANGUL JUNGSEONG O-YEOtO-IrYO-AvEuEOrU-YEOtI-IrYU-AEuOrEU-AuEOuEuOrI-YA-OvEuEOuEtO-I",
    "tYOuUtIrARAEA-AxE"]),
  (0xd7cb, ["aHANGUL JONGSEONG NIEUN-RIEULxCHIEUCHrSSANGTIKEUTbc-PIEUPrTIKEUT-PIEUPySIOSbc-KIYEOKy",
    "CIEUCzHIEUCHyTHIEUTHrRIEUL-SSANGKIYEOKxKIYEOK-HIEUHrSSANGRIEUL-KHIEUKHrRIEUL-MIEUM-HIEUHxPIEU",
    "P-TIKEUTbdPHIEUPHxYESIEUNGzORINHIEUH-HIEUHrKAPYEOUNRIEULrMIEUM-NIEUNxSSANGNIEUNrSSANGMIEUMrMI",
    "EUM-PIEUP-SIOSxCIEUCrPIEUP-TIKEUTxRIEUL-PHIEUPHxMIEUMrSSANGPIEUPrPIEUP-SIOS-TIKEUTxCIEUCyHIEU",
    "CHrSIOS-MIEUMwKAPYEOUNPIEUPsSANGSIOS-KIYEOKbbTIKEUTsIOS-PANSIOSwCIEUCxHIEUCHwTHIEUTHwHIEUHrPA",
    "NSIOS-PIEUPzKAPYEOUNPIEUPrYESIEUNG-MIEUMbaHIEUHrCIEUC-PIEUPxSSANGPIEUPrSSANGCIEUCrPHIEUPH-SIO",
    "SzTHIEUTH"]),
  (0xf900, ["aCJK COMPATIBILITY IDEOGRAPH-F900bf1bf2bf3bf4bf5bf6bf7bf8bf9bfAbfBbfCbfDbfEbfFbe10bf1",
    "bf2bf3bf4bf5bf6bf7bf8bf9bfAbfBbfCbfDbfEbfFbe20bf1bf2bf3bf4bf5bf6bf7bf8bf9bfAbfBbfCbfDbfEbfFbe",
    "30bf1bf2bf3bf4bf5bf6bf7bf8bf9bfAbfBbfCbfDbfEbfFbe40bf1bf2bf3bf4bf5bf6bf7bf8bf9bfAbfBbfCbfDbfE",
    "bfFbe50bf1bf2bf3bf4bf5bf6bf7bf8bf9bfAbfBbfCbfDbfEbfFbe60bf1bf2bf3bf4bf5bf6bf7bf8bf9bfAbfBbfCb",
    "fDbfEbfFbe70bf1bf2bf3bf4bf5bf6bf7bf8bf9bfAbfBbfCbfDbfEbfFbe80bf1bf2bf3bf4bf5bf6bf7bf8bf9bfAbf",
    "BbfCbfDbfEbfFbe90bf1bf2bf3bf4bf5bf6bf7bf8bf9bfAbfBbfCbfDbfEbfFbeA0bf1bf2bf3bf4bf5bf6bf7bf8bf9",
    "bfAbfBbfCbfDbfEbfFbeB0bf1bf2bf3bf4bf5bf6bf7bf8bf9bfAbfBbfCbfDbfEbfFbeC0bf1bf2bf3bf4bf5bf6bf7b",
    "f8bf9bfAbfBbfCbfDbfEbfFbeD0bf1bf2bf3bf4bf5bf6bf7bf8bf9bfAbfBbfCbfDbfEbfFbeE0bf1bf2bf3bf4bf5bf",
    "6bf7bf8bf9bfAbfBbfCbfDbfEbfFbeF0bf1bf2bf3bf4bf5bf6bf7bf8bf9bfAbfBbfCbfDbfEbfFbdA00bf1bf2bf3bf",
    "4bf5bf6bf7bf8bf9bfAbfBbfCbfDbfEbfFbe10bf1bf2bf3bf4bf5bf6bf7bf8bf9bfAbfBbfCbfDbfEbfFbe20bf1bf2",
    "bf3bf4bf5bf6bf7bf8bf9bfAbfBbfCbfDbfEbfFbe30bf1bf2bf3bf4bf5bf6bf7bf8bf9bfAbfBbfCbfDbfEbfFbe40b",
    "f1bf2bf3bf4bf5bf6bf7bf8bf9bfAbfBbfCbfDbfEbfFbe50bf1bf2bf3bf4bf5bf6bf7bf8bf9bfAbfBbfCbfDbfEbfF",
    "be60bf1bf2bf3bf4bf5bf6bf7bf8bf9bfAbfBbfCbfD"]),
  (0xfa70, ["aCJK COMPATIBILITY IDEOGRAPH-FA70bf1bf2bf3bf4bf5bf6bf7bf8bf9bfAbfBbfCbfDbfEbfFbe80bf1",
    "bf2bf3bf4bf5bf6bf7bf8bf9bfAbfBbfCbfDbfEbfFbe90bf1bf2bf3bf4bf5bf6bf7bf8bf9bfAbfBbfCbfDbfEbfFbe",
    "A0bf1bf2bf3bf4bf5bf6bf7bf8bf9bfAbfBbfCbfDbfEbfFbeB0bf1bf2bf3bf4bf5bf6bf7bf8bf9bfAbfBbfCbfDbfE",
    "bfFbeC0bf1bf2bf3bf4bf5bf6bf7bf8bf9bfAbfBbfCbfDbfEbfFbeD0bf1bf2bf3bf4bf5bf6bf7bf8bf9"]),
  (0xfb00, ["aLATIN SMALL LIGATURE FFwIwLwFIxLvLONG S TvST"]),
  (0xfb13, ["aARMENIAN SMALL LIGATURE MEN NOWbcECHbcINIyVEW NOWyMEN XEH"]),
  (0xfb1d, ["aHEBREW LETTER YOD WITH HIRIQhPOINT JUDEO-SPANISH VARIKAhLIGATURE YIDDISH YOD YOD PAT",
    "AHiETTER ALTERNATIVE AYINoWIDE ALEFtDALETtHEtKAFtLAMEDtFINAL MEMtRESHtTAVoALTERNATIVE PLUS SI",
    "GNoSHIN WITH SHIN DOTzIN DOTyDAGESH AND SHIN DOTbkIN DOToALEF WITH PATAHyQAMATSyMAPIQoBET WIT",
    "H DAGESHoGIMEL WITH DAGESHoDALET WITH DAGESHoHE WITH MAPIQoVAV WITH DAGESHoZAYIN WITH DAGES",
    "H"]),
  (0xfb38, ["aHEBREW LETTER TET WITH DAGESHoYOD WITH DAGESHoFINAL KAF WITH DAGESHoKAF WITH DAGESHo",
    "LAMED WITH DAGESH"]),
  (0xfb3e, ["aHEBREW LETTER MEM WITH DAGESH"]),
  (0xfb40, ["aHEBREW LETTER NUN WITH DAGESHoSAMEKH WITH DAGESH"]),
  (0xfb43, ["aHEBREW LETTER FINAL PE WITH DAGESHoPE WITH DAGESH"]),
  (0xfb46, ["aHEBREW LETTER TSADI WITH DAGESHoQOF WITH DAGESHoRESH WITH DAGESHoSHIN WITH DAGESHoTA",
    "V WITH DAGESHoVAV WITH HOLAMoBET WITH RAFEoKAF WITH RAFEoPE WITH RAFEiIGATURE ALEF LAMEDaARAB",
    "IC LETTER ALEF WASLA ISOLATED FORMzFINAL FORMoBEEH ISOLATED FORMtFINAL FORMtINITIAL FORMtMEDI",
    "AL FORMoPEH ISOLATED FORMsFINAL FORMsINITIAL FORMsMEDIAL FORMoBEHEH ISOLATED FORMuFINAL FORMu",
    "INITIAL FORMuMEDIAL FORMoTTEHEH ISOLATED FORMvFINAL FORMvINITIAL FORMvMEDIAL FORMpEHEH ISOLAT",
    "ED FORMuFINAL FORMuINITIAL FORMuMEDIAL FORMpTEH ISOLATED FORMtFINAL FORMtINITIAL FORMtMEDIAL ",
    "FORMoVEH ISOLATED FORMsFINAL FORMsINITIAL FORMsMEDIAL FORMoPEHEH ISOLATED FORMuFINAL FORMuINI",
    "TIAL FORMuMEDIAL FORMoDYEH ISOLATED FORMtFINAL FORMtINITIAL FORMtMEDIAL FORMoNYEH ISOLATED FO",
    "RMtFINAL FORMtINITIAL FORMtMEDIAL FORMoTCHEH ISOLATED FORMuFINAL FORMuINITIAL FORMuMEDIAL FOR",
    "MtEH ISOLATED FORMwFINAL FORMwINITIAL FORMwMEDIAL FORMoDDAHAL ISOLATED FORMvFINAL FORMpAHAL I",
    "SOLATED FORMuFINAL FORMpUL ISOLATED FORMsFINAL FORMpDAL ISOLATED FORMtFINAL FORMoJEH ISOLATED",
    " FORMsFINAL FORMoRREH ISOLATED FORMtFINAL FORMoKEHEH ISOLATED FORMuFINAL FORMuINITIAL FORMuME",
    "DIAL FORMoGAF ISOLATED FORMsFINAL FORMsINITIAL FORMsMEDIAL FORMpUEH ISOLATED FORMtFINAL FORMt",
    "INITIAL FORMtMEDIAL FORMoNGOEH ISOLATED FORMuFINAL FORMuINITIAL FORMuMEDIAL FORMpOON GHUNNA I",
    "SOLATED FORMbaFINAL FORMoRNOON ISOLATED FORMuFINAL FORMuINITIAL FORMuMEDIAL FORMoHEH WITH YEH",
    " ABOVE ISOLATED FORMbhFINAL FORMsGOAL ISOLATED FORMxFINAL FORMxINITIAL FORMxMEDIAL FORMsDOACH",
    "ASHMEE ISOLATED FORMbeFINAL FORMbeINITIAL FORMbeMEDIAL FORMoYEH BARREE ISOLATED FORMzFINAL FO",
    "RMzWITH HAMZA ABOVE ISOLATED FORMbqFINAL FORMhSYMBOL DOT ABOVEsBELOWoTWO DOTS ABOVExBELOWpHRE",
    "E DOTS ABOVEzBELOWzPOINTING DOWNWARDS ABOVEbsBELOWoFOUR DOTS ABOVEyBELOWoDOUBLE VERTICAL BAR ",
    "BELOWoTWO DOTS VERTICALLY ABOVEbiBELOWoRINGoSMALL TAH ABOVEyBELOWoWASLA ABOVE"]),
  (0xfbd3, ["aARABIC LETTER NG ISOLATED FORMrFINAL FORMrINITIAL FORMrMEDIAL FORMoU ISOLATED FORMqF",
    "INAL FORMoOE ISOLATED FORMrFINAL FORMoYU ISOLATED FORMrFINAL FORMoU WITH HAMZA ABOVE ISOLATED",
    " FORMoVE ISOLATED FORMrFINAL FORMoKIRGHIZ OE ISOLATED FORMzFINAL FORMwYU ISOLATED FORMzFINAL ",
    "FORMoE ISOLATED FORMqFINAL FORMqINITIAL FORMqMEDIAL FORMoUIGHUR KAZAKH KIRGHIZ ALEF MAKSURA I",
    "NITIAL FORMbxMEDIAL FORMiIGATURE YEH WITH HAMZA ABOVE WITH ALEF ISOLATED FORMbvFINAL FORMbrE ",
    "ISOLATED FORMbtFINAL FORMbqWAW ISOLATED FORMbuFINAL FORMbqU ISOLATED FORMbsFINAL FORMbqOE ISO",
    "LATED FORMbtFINAL FORMbqYU ISOLATED FORMbtFINAL FORMbqE ISOLATED FORMbsFINAL FORMbsINITIAL FO",
    "RMqUIGHUR KIRGHIZ YEH WITH HAMZA ABOVE WITH ALEF MAKSURA ISOLATED FORMcsFINAL FORMcsINITIAL F",
    "ORMiETTER FARSI YEH ISOLATED FORMyFINAL FORMyINITIAL FORMyMEDIAL FORMiIGATURE YEH WITH HAMZA ",
    "ABOVE WITH JEEM ISOLATED FORMbqHAH ISOLATED FORMbqMEEM ISOLATED FORMbqALEF MAKSURA ISOLATED F",
    "ORMbqYEH ISOLATED FORMqBEH WITH JEEM ISOLATED FORMzHAH ISOLATED FORMzKHAH ISOLATED FORMzMEEM ",
    "ISOLATED FORMzALEF MAKSURA ISOLATED FORMzYEH ISOLATED FORMqTEH WITH JEEM ISOLATED FORMzHAH IS",
    "OLATED FORMzKHAH ISOLATED FORMzMEEM ISOLATED FORMzALEF MAKSURA ISOLATED FORMzYEH ISOLATED FOR",
    "MrHEH WITH JEEM ISOLATED FORMbaMEEM ISOLATED FORMbaALEF MAKSURA ISOLATED FORMbaYEH ISOLATED F",
    "ORMqJEEM WITH HAH ISOLATED FORMbaMEEM ISOLATED FORMqHAH WITH JEEM ISOLATED FORMzMEEM ISOLATED",
    " FORMqKHAH WITH JEEM ISOLATED FORMbaHAH ISOLATED FORMbaMEEM ISOLATED FORMqSEEN WITH JEEM ISOL",
    "ATED FORMbaHAH ISOLATED FORMbaKHAH ISOLATED FORMbaMEEM ISOLATED FORMrAD WITH HAH ISOLATED FOR",
    "MzMEEM ISOLATED FORMqDAD WITH JEEM ISOLATED FORMzHAH ISOLATED FORMzKHAH ISOLATED FORMzMEEM IS",
    "OLATED FORMqTAH WITH HAH ISOLATED FORMzMEEM ISOLATED FORMqZAH WITH MEEM ISOLATED FORMqAIN WIT",
    "H JEEM ISOLATED FORMzMEEM ISOLATED FORMqGHAIN WITH JEEM ISOLATED FORMbbMEEM ISOLATED FORMqFEH",
    " WITH JEEM ISOLATED FORMzHAH ISOLATED FORMzKHAH ISOLATED FORMzMEEM ISOLATED FORMzALEF MAKSURA",
    " ISOLATED FORMzYEH ISOLATED FORMqQAF WITH HAH ISOLATED FORMzMEEM ISOLATED FORMzALEF MAKSURA I",
    "SOLATED FORMzYEH ISOLATED FORMqKAF WITH ALEF ISOLATED FORMzJEEM ISOLATED FORMzHAH ISOLATED FO",
    "RMzKHAH ISOLATED FORMzLAM ISOLATED FORMzMEEM ISOLATED FORMzALEF MAKSURA ISOLATED FORMzYEH ISO",
    "LATED FORMqLAM WITH JEEM ISOLATED FORMzHAH ISOLATED FORMzKHAH ISOLATED FORMzMEEM ISOLATED FOR",
    "MzALEF MAKSURA ISOLATED FORMzYEH ISOLATED FORMqMEEM WITH JEEM ISOLATED FORMbaHAH ISOLATED FOR",
    "MbaKHAH ISOLATED FORMbaMEEM ISOLATED FORMbaALEF MAKSURA ISOLATED FORMbaYEH ISOLATED FORMqNOON",
    " WITH JEEM ISOLATED FORMbaHAH ISOLATED FORMbaKHAH ISOLATED FORMbaMEEM ISOLATED FORMbaALEF MAK",
    "SURA ISOLATED FORMbaYEH ISOLATED FORMqHEH WITH JEEM ISOLATED FORMzMEEM ISOLATED FORMzALEF MAK",
    "SURA ISOLATED FORMzYEH ISOLATED FORMqYEH WITH JEEM ISOLATED FORMzHAH ISOLATED FORMzKHAH ISOLA",
    "TED FORMzMEEM ISOLATED FORMzALEF MAKSURA ISOLATED FORMzYEH ISOLATED FORMqTHAL WITH SUPERSCRIP",
    "T ALEF ISOLATED FORMqREH WITH SUPERSCRIPT ALEF ISOLATED FORMqALEF MAKSURA WITH SUPERSCRIPT AL",
    "EF ISOLATED FORMqSHADDA WITH DAMMATAN ISOLATED FORMbcKASRATAN ISOLATED FORMbcFATHA ISOLATED F",
    "ORMbcDAMMA ISOLATED FORMbcKASRA ISOLATED FORMbcSUPERSCRIPT ALEF ISOLATED FORMqYEH WITH HAMZA ",
    "ABOVE WITH REH FINAL FORMbqZAIN FINAL FORMbqMEEM FINAL FORMbqNOON FINAL FORMbqALEF MAKSURA FI",
    "NAL FORMbqYEH FINAL FORMqBEH WITH REH FINAL FORMzZAIN FINAL FORMzMEEM FINAL FORMzNOON FINAL F",
    "ORMzALEF MAKSURA FINAL FORMzYEH FINAL FORMqTEH WITH REH FINAL FORMzZAIN FINAL FORMzMEEM FINAL",
    " FORMzNOON FINAL FORMzALEF MAKSURA FINAL FORMzYEH FINAL FORMrHEH WITH REH FINAL FORMbaZAIN FI",
    "NAL FORMbaMEEM FINAL FORMbaNOON FINAL FORMbaALEF MAKSURA FINAL FORMbaYEH FINAL FORMqFEH WITH ",
    "ALEF MAKSURA FINAL FORMzYEH FINAL FORMqQAF WITH ALEF MAKSURA FINAL FORMzYEH FINAL FORMqKAF WI",
    "TH ALEF FINAL FORMzLAM FINAL FORMzMEEM FINAL FORMzALEF MAKSURA FINAL FORMzYEH FINAL FORMqLAM ",
    "WITH MEEM FINAL FORMzALEF MAKSURA FINAL FORMzYEH FINAL FORMqMEEM WITH ALEF FINAL FORMbaMEEM F",
    "INAL FORMqNOON WITH REH FINAL FORMbaZAIN FINAL FORMbaMEEM FINAL FORMbaNOON FINAL FORMbaALEF M",
    "AKSURA FINAL FORMbaYEH FINAL FORMqALEF MAKSURA WITH SUPERSCRIPT ALEF FINAL FORMqYEH WITH REH ",
    "FINAL FORMzZAIN FINAL FORMzMEEM FINAL FORMzNOON FINAL FORMzALEF MAKSURA FINAL FORMzYEH FINAL ",
    "FORMzHAMZA ABOVE WITH JEEM INITIAL FORMbqHAH INITIAL FORMbqKHAH INITIAL FORMbqMEEM INITIAL FO",
    "RMbqHEH INITIAL FORMqBEH WITH JEEM INITIAL FORMzHAH INITIAL FORMzKHAH INITIAL FORMzMEEM INITI",
    "AL FORMzHEH INITIAL FORMqTEH WITH JEEM INITIAL FORMzHAH INITIAL FORMzKHAH INITIAL FORMzMEEM I",
    "NITIAL FORMzHEH INITIAL FORMrHEH WITH MEEM INITIAL FORMqJEEM WITH HAH INITIAL FORMbaMEEM INIT",
    "IAL FORMqHAH WITH JEEM INITIAL FORMzMEEM INITIAL FORMqKHAH WITH JEEM INITIAL FORMbaMEEM INITI",
    "AL FORMqSEEN WITH JEEM INITIAL FORMbaHAH INITIAL FORMbaKHAH INITIAL FORMbaMEEM INITIAL FORMrA",
    "D WITH HAH INITIAL FORMzKHAH INITIAL FORMzMEEM INITIAL FORMqDAD WITH JEEM INITIAL FORMzHAH IN",
    "ITIAL FORMzKHAH INITIAL FORMzMEEM INITIAL FORMqTAH WITH HAH INITIAL FORMqZAH WITH MEEM INITIA",
    "L FORMqAIN WITH JEEM INITIAL FORMzMEEM INITIAL FORMqGHAIN WITH JEEM INITIAL FORMbbMEEM INITIA",
    "L FORMqFEH WITH JEEM INITIAL FORMzHAH INITIAL FORMzKHAH INITIAL FORMzMEEM INITIAL FORMqQAF WI",
    "TH HAH INITIAL FORMzMEEM INITIAL FORMqKAF WITH JEEM INITIAL FORMzHAH INITIAL FORMzKHAH INITIA",
    "L FORMzLAM INITIAL FORMzMEEM INITIAL FORMqLAM WITH JEEM INITIAL FORMzHAH INITIAL FORMzKHAH IN",
    "ITIAL FORMzMEEM INITIAL FORMzHEH INITIAL FORMqMEEM WITH JEEM INITIAL FORMbaHAH INITIAL FORMba",
    "KHAH INITIAL FORMbaMEEM INITIAL FORMqNOON WITH JEEM INITIAL FORMbaHAH INITIAL FORMbaKHAH INIT",
    "IAL FORMbaMEEM INITIAL FORMbaHEH INITIAL FORMqHEH WITH JEEM INITIAL FORMzMEEM INITIAL FORMzSU",
    "PERSCRIPT ALEF INITIAL FORMqYEH WITH JEEM INITIAL FORMzHAH INITIAL FORMzKHAH INITIAL FORMzMEE",
    "M INITIAL FORMzHEH INITIAL FORMbaAMZA ABOVE WITH MEEM MEDIAL FORMbqHEH MEDIAL FORMqBEH WITH M",
    "EEM MEDIAL FORMzHEH MEDIAL FORMqTEH WITH MEEM MEDIAL FORMzHEH MEDIAL FORMrHEH WITH MEEM MEDIA",
    "L FORMbaHEH MEDIAL FORMqSEEN WITH MEEM MEDIAL FORMbaHEH MEDIAL FORMrHEEN WITH MEEM MEDIAL FOR",
    "MbbHEH MEDIAL FORMqKAF WITH LAM MEDIAL FORMzMEEM MEDIAL FORMqLAM WITH MEEM MEDIAL FORMqNOON W",
    "ITH MEEM MEDIAL FORMbaHEH MEDIAL FORMqYEH WITH MEEM MEDIAL FORMzHEH MEDIAL FORMqSHADDA WITH F",
    "ATHA MEDIAL FORMbcDAMMA MEDIAL FORMbcKASRA MEDIAL FORMqTAH WITH ALEF MAKSURA ISOLATED FORMzYE",
    "H ISOLATED FORMqAIN WITH ALEF MAKSURA ISOLATED FORMzYEH ISOLATED FORMqGHAIN WITH ALEF MAKSURA",
    " ISOLATED FORMbbYEH ISOLATED FORMqSEEN WITH ALEF MAKSURA ISOLATED FORMbaYEH ISOLATED FORMrHEE",
    "N WITH ALEF MAKSURA ISOLATED FORMbbYEH ISOLATED FORMqHAH WITH ALEF MAKSURA ISOLATED FORMzYEH ",
    "ISOLATED FORMqJEEM WITH ALEF MAKSURA ISOLATED FORMbaYEH ISOLATED FORMqKHAH WITH ALEF MAKSURA ",
    "ISOLATED FORMbaYEH ISOLATED FORMqSAD WITH ALEF MAKSURA ISOLATED FORMzYEH ISOLATED FORMqDAD WI",
    "TH ALEF MAKSURA ISOLATED FORMzYEH ISOLATED FORMqSHEEN WITH JEEM ISOLATED FORMbbHAH ISOLATED F",
    "ORMbbKHAH ISOLATED FORMbbMEEM ISOLATED FORMbbREH ISOLATED FORMrEEN WITH REH ISOLATED FORMrAD ",
    "WITH REH ISOLATED FORMqDAD WITH REH ISOLATED FORMqTAH WITH ALEF MAKSURA FINAL FORMzYEH FINAL ",
    "FORMqAIN WITH ALEF MAKSURA FINAL FORMzYEH FINAL FORMqGHAIN WITH ALEF MAKSURA FINAL FORMbbYEH ",
    "FINAL FORMqSEEN WITH ALEF MAKSURA FINAL FORMbaYEH FINAL FORMrHEEN WITH ALEF MAKSURA FINAL FOR",
    "MbbYEH FINAL FORMqHAH WITH ALEF MAKSURA FINAL FORMzYEH FINAL FORMqJEEM WITH ALEF MAKSURA FINA",
    "L FORMbaYEH FINAL FORMqKHAH WITH ALEF MAKSURA FINAL FORMbaYEH FINAL FORMqSAD WITH ALEF MAKSUR",
    "A FINAL FORMzYEH FINAL FORMqDAD WITH ALEF MAKSURA FINAL FORMzYEH FINAL FORMqSHEEN WITH JEEM F",
    "INAL FORMbbHAH FINAL FORMbbKHAH FINAL FORMbbMEEM FINAL FORMbbREH FINAL FORMrEEN WITH REH FINA",
    "L FORMrAD WITH REH FINAL FORMqDAD WITH REH FINAL FORMqSHEEN WITH JEEM INITIAL FORMbbHAH INITI",
    "AL FORMbbKHAH INITIAL FORMbbMEEM INITIAL FORMrEEN WITH HEH INITIAL FORMrHEEN WITH HEH INITIAL",
    " FORMqTAH WITH MEEM INITIAL FORMqSEEN WITH JEEM MEDIAL FORMbaHAH MEDIAL FORMbaKHAH MEDIAL FOR",
    "MrHEEN WITH JEEM MEDIAL FORMbbHAH MEDIAL FORMbbKHAH MEDIAL FORMqTAH WITH MEEM MEDIAL FORMqZAH",
    " WITH MEEM MEDIAL FORMqALEF WITH FATHATAN FINAL FORMbjISOLATED FORMaORNATE LEFT PARENTHESIShR",
    "IGHT PARENTHESISaARABIC LIGATURE RAHIMAHU ALLAAHsDI ALLAAHU ANHbgAAbgUMbiAAbhNNAqSALLALLAAHU ",
    "ALAYHI WA-AALIHqALAYHI AS-SALAAMwM AS-SALAAMxAA AS-SALAAMw AS-SALAATU WAS-SALAAMqQUDDISA SIRR",
    "AHqSALLALLAHU ALAYHI WAAALIHEE WA-SALLAMqALAYHAA AS-SALAAMqTABAARAKA WA-TAAALAAqRAHIMAHUM ALL",
    "AAHqTEH WITH JEEM WITH MEEM INITIAL FORMzHAH WITH JEEM FINAL FORMbnINITIAL FORMbiMEEM INITIAL",
    " FORMzKHAH WITH MEEM INITIAL FORMzMEEM WITH JEEM INITIAL FORMbjHAH INITIAL FORMbjKHAH INITIAL",
    " FORMqJEEM WITH MEEM WITH HAH FINAL FORMboINITIAL FORMqHAH WITH MEEM WITH YEH FINAL FORMbjALE",
    "F MAKSURA FINAL FORMqSEEN WITH HAH WITH JEEM INITIAL FORMbaJEEM WITH HAH INITIAL FORMbkALEF M",
    "AKSURA FINAL FORMbaMEEM WITH HAH FINAL FORMboINITIAL FORMbkJEEM INITIAL FORMbkMEEM FINAL FORM",
    "bpINITIAL FORMrAD WITH HAH WITH HAH FINAL FORMbmINITIAL FORMzMEEM WITH MEEM FINAL FORMrHEEN W",
    "ITH HAH WITH MEEM FINAL FORMbpINITIAL FORMbbJEEM WITH YEH FINAL FORMbbMEEM WITH KHAH FINAL FO",
    "RMbqINITIAL FORMblMEEM FINAL FORMbqINITIAL FORMqDAD WITH HAH WITH ALEF MAKSURA FINAL FORMzKHA",
    "H WITH MEEM FINAL FORMboINITIAL FORMqTAH WITH MEEM WITH HAH FINAL FORMbnINITIAL FORMbjMEEM IN",
    "ITIAL FORMbjYEH FINAL FORMqAIN WITH JEEM WITH MEEM FINAL FORMzMEEM WITH MEEM FINAL FORMboINIT",
    "IAL FORMbjALEF MAKSURA FINAL FORMqGHAIN WITH MEEM WITH MEEM FINAL FORMblYEH FINAL FORMblALEF ",
    "MAKSURA FINAL FORMqFEH WITH KHAH WITH MEEM FINAL FORMboINITIAL FORMqQAF WITH MEEM WITH HAH FI",
    "NAL FORMbjMEEM FINAL FORMqLAM WITH HAH WITH MEEM FINAL FORMbiYEH FINAL FORMbiALEF MAKSURA FIN",
    "AL FORMzJEEM WITH JEEM INITIAL FORMboFINAL FORMzKHAH WITH MEEM FINAL FORMboINITIAL FORMzMEEM ",
    "WITH HAH FINAL FORMbnINITIAL FORMqMEEM WITH HAH WITH JEEM INITIAL FORMbjMEEM INITIAL FORMbjYE",
    "H FINAL FORMbaJEEM WITH HAH INITIAL FORMbkMEEM INITIAL FORMbaKHAH WITH JEEM INITIAL FORMbkMEE",
    "M INITIAL FORM"]),
  (0xfd92, ["aARABIC LIGATURE MEEM WITH JEEM WITH KHAH INITIAL FORMqHEH WITH MEEM WITH JEEM INITIA",
    "L FORMbjMEEM INITIAL FORMqNOON WITH HAH WITH MEEM INITIAL FORMbjALEF MAKSURA FINAL FORMbaJEEM",
    " WITH MEEM FINAL FORMbpINITIAL FORMbkALEF MAKSURA FINAL FORMbaMEEM WITH YEH FINAL FORMbkALEF ",
    "MAKSURA FINAL FORMqYEH WITH MEEM WITH MEEM FINAL FORMboINITIAL FORMqBEH WITH KHAH WITH YEH FI",
    "NAL FORMqTEH WITH JEEM WITH YEH FINAL FORMbjALEF MAKSURA FINAL FORMzKHAH WITH YEH FINAL FORMb",
    "jALEF MAKSURA FINAL FORMzMEEM WITH YEH FINAL FORMbjALEF MAKSURA FINAL FORMqJEEM WITH MEEM WIT",
    "H YEH FINAL FORMbaHAH WITH ALEF MAKSURA FINAL FORMbaMEEM WITH ALEF MAKSURA FINAL FORMqSEEN WI",
    "TH KHAH WITH ALEF MAKSURA FINAL FORMrAD WITH HAH WITH YEH FINAL FORMrHEEN WITH HAH WITH YEH F",
    "INAL FORMqDAD WITH HAH WITH YEH FINAL FORMqLAM WITH JEEM WITH YEH FINAL FORMzMEEM WITH YEH FI",
    "NAL FORMqYEH WITH HAH WITH YEH FINAL FORMzJEEM WITH YEH FINAL FORMzMEEM WITH YEH FINAL FORMqM",
    "EEM WITH MEEM WITH YEH FINAL FORMqQAF WITH MEEM WITH YEH FINAL FORMqNOON WITH HAH WITH YEH FI",
    "NAL FORMqQAF WITH MEEM WITH HAH INITIAL FORMqLAM WITH HAH WITH MEEM INITIAL FORMqAIN WITH MEE",
    "M WITH YEH FINAL FORMqKAF WITH MEEM WITH YEH FINAL FORMqNOON WITH JEEM WITH HAH INITIAL FORMq",
    "MEEM WITH KHAH WITH YEH FINAL FORMqLAM WITH JEEM WITH MEEM INITIAL FORMqKAF WITH MEEM WITH ME",
    "EM FINAL FORMqLAM WITH JEEM WITH MEEM FINAL FORMqNOON WITH JEEM WITH HAH FINAL FORMqJEEM WITH",
    " HAH WITH YEH FINAL FORMqHAH WITH JEEM WITH YEH FINAL FORMqMEEM WITH JEEM WITH YEH FINAL FORM",
    "qFEH WITH MEEM WITH YEH FINAL FORMqBEH WITH HAH WITH YEH FINAL FORMqKAF WITH MEEM WITH MEEM I",
    "NITIAL FORMqAIN WITH JEEM WITH MEEM INITIAL FORMqSAD WITH MEEM WITH MEEM INITIAL FORMrEEN WIT",
    "H KHAH WITH YEH FINAL FORMqNOON WITH JEEM WITH YEH FINAL FORM"]),
  (0xfdcf, ["aARABIC LIGATURE SALAAMUHU ALAYNAA"]),
  (0xfdf0, ["aARABIC LIGATURE SALLA USED AS KORANIC STOP SIGN ISOLATED FORMqQALA USED AS KORANIC S",
    "TOP SIGN ISOLATED FORMqALLAH ISOLATED FORMrKBAR ISOLATED FORMqMOHAMMAD ISOLATED FORMqSALAM IS",
    "OLATED FORMqRASOUL ISOLATED FORMqALAYHE ISOLATED FORMqWASALLAM ISOLATED FORMqSALLA ISOLATED F",
    "ORMvLLAHOU ALAYHE WASALLAMqJALLAJALALOUHOUaRIAL SIGNaARABIC LIGATURE BISMILLAH AR-RAHMAN AR-R",
    "AHEEMqSUBHAANAHU WA TAAALAAqAZZA WA JALLaVARIATION SELECTOR-1t2t3t4t5t6t7t8t9t10u1u2u3u4u5u6a",
    "PRESENTATION FORM FOR VERTICAL COMMAbfIDEOGRAPHIC COMMAbrFULL STOPbfCOLONbfSEMICOLONbfEXCLAMA",
    "TION MARKbfQUESTION MARKbfLEFT WHITE LENTICULAR BRACKETbfRIGHT WHITE LENTICULAR BRAKCETbfHORI",
    "ZONTAL ELLIPSIS"]),
  (0xfe20, ["aCOMBINING LIGATURE LEFT HALFtRIGHT HALFkDOUBLE TILDE LEFT HALFxRIGHT HALFkMACRON LEF",
    "T HALFrRIGHT HALFkCONJOINING MACRONkLIGATURE LEFT HALF BELOWtRIGHT HALF BELOWkTILDE LEFT HALF",
    " BELOWqRIGHT HALF BELOWkMACRON LEFT HALF BELOWrRIGHT HALF BELOWkCONJOINING MACRON BELOWlYRILL",
    "IC TITLO LEFT HALFzRIGHT HALFaPRESENTATION FORM FOR VERTICAL TWO DOT LEADERbfEM DASHbgN DASHb",
    "fLOW LINEbfWAVY LOW LINEbfLEFT PARENTHESISbfRIGHT PARENTHESISbfLEFT CURLY BRACKETbfRIGHT CURL",
    "Y BRACKETbfLEFT TORTOISE SHELL BRACKETbfRIGHT TORTOISE SHELL BRACKETbfLEFT BLACK LENTICULAR B",
    "RACKETbfRIGHT BLACK LENTICULAR BRACKETbfLEFT DOUBLE ANGLE BRACKETbfRIGHT DOUBLE ANGLE BRACKET",
    "bfLEFT ANGLE BRACKETbfRIGHT ANGLE BRACKETbfLEFT CORNER BRACKETbfRIGHT CORNER BRACKETbfLEFT WH",
    "ITE CORNER BRACKETbfRIGHT WHITE CORNER BRACKETaSESAME DOTaWHITE SESAME DOTaPRESENTATION FORM ",
    "FOR VERTICAL LEFT SQUARE BRACKETbfRIGHT SQUARE BRACKETaDASHED OVERLINEaCENTRELINE OVERLINEaWA",
    "VY OVERLINEaDOUBLE WAVY OVERLINEbASHED LOW LINEaCENTRELINE LOW LINEaWAVY LOW LINEaSMALL COMMA",
    "gIDEOGRAPHIC COMMAgFULL STOP"]),
  (0xfe54, ["aSMALL SEMICOLONgCOLONgQUESTION MARKgEXCLAMATION MARKhM DASHgLEFT PARENTHESISgRIGHT P",
    "ARENTHESISgLEFT CURLY BRACKETgRIGHT CURLY BRACKETgLEFT TORTOISE SHELL BRACKETgRIGHT TORTOISE ",
    "SHELL BRACKETgNUMBER SIGNgAMPERSANDhSTERISKgPLUS SIGNgHYPHEN-MINUSgLESS-THAN SIGNgGREATER-THA",
    "N SIGNgEQUALS SIGN"]),
  (0xfe68, ["aSMALL REVERSE SOLIDUSgDOLLAR SIGNgPERCENT SIGNgCOMMERCIAL AT"]),
  (0xfe70, ["aARABIC FATHATAN ISOLATED FORMhTATWEEL WITH FATHATAN ABOVEhDAMMATAN ISOLATED FORMhTAI",
    "L FRAGMENThKASRATAN ISOLATED FORM"]),
  (0xfe76, ["aARABIC FATHA ISOLATED FORMnMEDIAL FORMhDAMMA ISOLATED FORMnMEDIAL FORMhKASRA ISOLATE",
    "D FORMnMEDIAL FORMhSHADDA ISOLATED FORMoMEDIAL FORMiUKUN ISOLATED FORMnMEDIAL FORMhLETTER HAM",
    "ZA ISOLATED FORMoALEF WITH MADDA ABOVE ISOLATED FORMbkFINAL FORMyHAMZA ABOVE ISOLATED FORMbkF",
    "INAL FORMoWAW WITH HAMZA ABOVE ISOLATED FORMbjFINAL FORMoALEF WITH HAMZA BELOW ISOLATED FORMb",
    "kFINAL FORMoYEH WITH HAMZA ABOVE ISOLATED FORMbjFINAL FORMbjINITIAL FORMbjMEDIAL FORMoALEF IS",
    "OLATED FORMtFINAL FORMoBEH ISOLATED FORMsFINAL FORMsINITIAL FORMsMEDIAL FORMoTEH MARBUTA ISOL",
    "ATED FORMbaFINAL FORMsISOLATED FORMsFINAL FORMsINITIAL FORMsMEDIAL FORMpHEH ISOLATED FORMtFIN",
    "AL FORMtINITIAL FORMtMEDIAL FORMoJEEM ISOLATED FORMtFINAL FORMtINITIAL FORMtMEDIAL FORMoHAH I",
    "SOLATED FORMsFINAL FORMsINITIAL FORMsMEDIAL FORMoKHAH ISOLATED FORMtFINAL FORMtINITIAL FORMtM",
    "EDIAL FORMoDAL ISOLATED FORMsFINAL FORMoTHAL ISOLATED FORMtFINAL FORMoREH ISOLATED FORMsFINAL",
    " FORMoZAIN ISOLATED FORMtFINAL FORMoSEEN ISOLATED FORMtFINAL FORMtINITIAL FORMtMEDIAL FORMpHE",
    "EN ISOLATED FORMuFINAL FORMuINITIAL FORMuMEDIAL FORMpAD ISOLATED FORMsFINAL FORMsINITIAL FORM",
    "sMEDIAL FORMoDAD ISOLATED FORMsFINAL FORMsINITIAL FORMsMEDIAL FORMoTAH ISOLATED FORMsFINAL FO",
    "RMsINITIAL FORMsMEDIAL FORMoZAH ISOLATED FORMsFINAL FORMsINITIAL FORMsMEDIAL FORMoAIN ISOLATE",
    "D FORMsFINAL FORMsINITIAL FORMsMEDIAL FORMoGHAIN ISOLATED FORMuFINAL FORMuINITIAL FORMuMEDIAL",
    " FORMoFEH ISOLATED FORMsFINAL FORMsINITIAL FORMsMEDIAL FORMoQAF ISOLATED FORMsFINAL FORMsINIT",
    "IAL FORMsMEDIAL FORMoKAF ISOLATED FORMsFINAL FORMsINITIAL FORMsMEDIAL FORMoLAM ISOLATED FORMs",
    "FINAL FORMsINITIAL FORMsMEDIAL FORMoMEEM ISOLATED FORMtFINAL FORMtINITIAL FORMtMEDIAL FORMoNO",
    "ON ISOLATED FORMtFINAL FORMtINITIAL FORMtMEDIAL FORMoHEH ISOLATED FORMsFINAL FORMsINITIAL FOR",
    "MsMEDIAL FORMoWAW ISOLATED FORMsFINAL FORMoALEF MAKSURA ISOLATED FORMbbFINAL FORMoYEH ISOLATE",
    "D FORMsFINAL FORMsINITIAL FORMsMEDIAL FORMiIGATURE LAM WITH ALEF WITH MADDA ABOVE ISOLATED FO",
    "RMbvFINAL FORMbjHAMZA ABOVE ISOLATED FORMbvFINAL FORMbpBELOW ISOLATED FORMbvFINAL FORMbeISOLA",
    "TED FORMbeFINAL FORM"]),
  (0xfeff, ["aZERO WIDTH NO-BREAK SPACE"]),
  (0xff01, ["aFULLWIDTH EXCLAMATION MARKkQUOTATION MARKkNUMBER SIGNkDOLLAR SIGNkPERCENT SIGNkAMPER",
    "SANDlPOSTROPHEkLEFT PARENTHESISkRIGHT PARENTHESISkASTERISKkPLUS SIGNkCOMMAkHYPHEN-MINUSkFULL ",
    "STOPkSOLIDUSkDIGIT ZEROqONEqTWOrHREEqFOURrIVEqSIXrEVENqEIGHTqNINEkCOLONkSEMICOLONkLESS-THAN S",
    "IGNkEQUALS SIGNkGREATER-THAN SIGNkQUESTION MARKkCOMMERCIAL ATkLATIN CAPITAL LETTER AbfBbfCbfD",
    "bfEbfFbfGbfHbfIbfJbfKbfLbfMbfNbfObfPbfQbfRbfSbfTbfUbfVbfWbfXbfYbfZlEFT SQUARE BRACKETkREVERSE",
    " SOLIDUSlIGHT SQUARE BRACKETkCIRCUMFLEX ACCENTkLOW LINEkGRAVE ACCENTkLATIN SMALL LETTER AbdBb",
    "dCbdDbdEbdFbdGbdHbdIbdJbdKbdLbdMbdNbdObdPbdQbdRbdSbdTbdUbdVbdWbdXbdYbdZlEFT CURLY BRACKETkVER",
    "TICAL LINEkRIGHT CURLY BRACKETkTILDEkLEFT WHITE PARENTHESISkRIGHT WHITE PARENTHESISaHALFWIDTH",
    " IDEOGRAPHIC FULL STOPkLEFT CORNER BRACKETkRIGHT CORNER BRACKETkIDEOGRAPHIC COMMAkKATAKANA MI",
    "DDLE DOTtLETTER WObaSMALL AbgIbgUbgEbgObgYAbhUbhObgTUs-HIRAGANA PROLONGED SOUND MARKs LETTER ",
    "AbaIbaUbaEbaObaKAbbIbbUbbEbbObaSAbbIbbUbbEbbObaTAbbIbbUbbEbbObaNAbbIbbUbbEbbObaHAbbIbbUbbEbbO",
    "baMAbbIbbUbbEbbObaYAbbUbbObaRAbbIbbUbbEbbObaWAbaNtVOICED SOUND MARKtSEMI-VOICED SOUND MARKkHA",
    "NGUL FILLERrLETTER KIYEOKySSANGKIYEOKyKIYEOK-SIOSyNIEUNbd-CIEUCbeHIEUHyTIKEUTySSANGTIKEUTyRIE",
    "ULbd-KIYEOKbeMIEUMbePIEUPbeSIOSbeTHIEUTHbePHIEUPHbeHIEUHyMIEUMyPIEUPySSANGPIEUPyPIEUP-SIOSySI",
    "OSzSANGSIOSyIEUNGyCIEUCySSANGCIEUCyCHIEUCHyKHIEUKHyTHIEUTHyPHIEUPHyHIEUH"]),
  (0xffc2, ["aHALFWIDTH HANGUL LETTER AzEyYAbaEyEOyE"]),
  (0xffca, ["aHALFWIDTH HANGUL LETTER YEOzEyOyWAbaEyOE"]),
  (0xffd2, ["aHALFWIDTH HANGUL LETTER YOyUyWEOzEzIyYU"]),
  (0xffda, ["aHALFWIDTH HANGUL LETTER EUyYIyI"]),
  (0xffe0, ["aFULLWIDTH CENT SIGNkPOUND SIGNkNOT SIGNkMACRONkBROKEN BARkYEN SIGNkWON SIGN"]),
  (0xffe8, ["aHALFWIDTH FORMS LIGHT VERTICALkLEFTWARDS ARROWkUPWARDS ARROWkRIGHTWARDS ARROWkDOWNWA",
    "RDS ARROWkBLACK SQUAREkWHITE CIRCLE"]),
  (0xfff9, ["aINTERLINEAR ANNOTATION ANCHORxSEPARATORxTERMINATORaOBJECT REPLACEMENT CHARACTERaREPL",
    "ACEMENT CHARACTER"])]

end TreePredicate.Text.CharacterName
