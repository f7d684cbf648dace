/-!
# Names of characters from `0x10000` up to `0x12fff`
-/

set_option autoImplicit false

namespace TreePredicate.Text.CharacterName

/-- Runs of characters from `0x10000` up to `0x12fff`: where each starts, and the lines in which its
names are written. -/
def ancient : List (Nat × List String) := [
  (0x10000, ["aLINEAR B SYLLABLE B008 Au38 Eu28 Iu61 Ou10 Uu01 DAu45 DEu07 DIu14 DOu51 DUv7 JAu46 ",
    "JE"]),
  (0x1000d, ["aLINEAR B SYLLABLE B036 JOu65 JUu77 KAu44 KEu67 KIu70 KOu81 KUv0 MAu13 MEu73 MIu15 M",
    "Ou23 MUu06 NAu24 NEu30 NIu52 NOv5 NUu03 PAu72 PEu39 PIu11 POu50 PUu16 QAu78 QEu21 QIu32 QO"]),
  (0x10028, ["aLINEAR B SYLLABLE B060 RAu27 REu53 RIu02 ROu26 RUu31 SAu09 SEu41 SIu12 SOu58 SUv9 T",
    "Au04 TEu37 TIu05 TOu69 TUu54 WAu75 WEu40 WIv2 WO"]),
  (0x1003c, ["aLINEAR B SYLLABLE B017 ZAu74 ZE"]),
  (0x1003f, ["aLINEAR B SYLLABLE B020 ZOv5 A2u43 A3u85 AUu71 DWEu90 DWOu48 NWAu29 PU2u62 PTEu76 RA",
    "2u33 RA3u68 RO2v6 TA2u87 TWEu91 TWO"]),
  (0x10050, ["aLINEAR B SYMBOL B018t9s22s34s47t9s56s63t4s79s82t3t6t9"]),
  (0x10080, ["aLINEAR B IDEOGRAM B100 MANv2 WOMANv4 DEERv5 EQUIDwF MAREwM STALLIONv6F EWEwM RAMv7F",
    " SHE-GOATwM HE-GOATv8F SOWwM BOARv9F COWwM BULLu20 WHEATv1 BARLEYv2 OLIVEv3 SPICEv5 CYPERUSjM",
    "ONOGRAM B127 KAPOv8 KANAKOjIDEOGRAM B130 OILv1 WINEv2jMONOGRAM B133 AREPAv5 MERIjIDEOGRAM B14",
    "0 BRONZEv1 GOLDv2v5 WOOLv6u50v1 HORNv2v3v4jMONOGRAM B156 TURO2jIDEOGRAM B157v8v9 CLOTHu60v1v2",
    " GARMENTv3 ARMOURv4v5v6v7v8v9u70v1v2v3 MONTHv4v6 TREEv7v8v9u80v1v2v3v4v5v9u90v1 HELMETt220 FO",
    "OTSTOOLv5 BATHTUBu30 SPEARv1 ARROWv2v3 SWORDv4v6u40 WHEELED CHARIOTv1 CHARIOTv2 CHARIOT FRAME",
    "v3 WHEELv5v6jMONOGRAM B247 DIPTEjIDEOGRAM B248v9u51v2v3v4 DARTv5v6v7v8v9sVESSEL B155ba200bc1b",
    "c2bc3bc4bc5bc6bc7bc8bc9bb10bc1bc2bc3bc4bc5bc6bc7bc8bc9bb21bc2bc6bc7bc8bc9bb50ba305"]),
  (0x10100, ["aAEGEAN WORD SEPARATOR LINEwDOThCHECK MARK"]),
  (0x10107, ["aAEGEAN NUMBER ONEoTWOpHREEoFOURpIVEoSIXpEVENoEIGHToNINEoTENpWENTYpHIRTYoFORTYpIFTYo",
    "SIXTYpEVENTYoEIGHTYoNINETYoONE HUNDREDoTWO HUNDREDpHREE HUNDREDoFOUR HUNDREDpIVE HUNDREDoSIX ",
    "HUNDREDpEVEN HUNDREDoEIGHT HUNDREDoNINE HUNDREDoONE THOUSANDoTWO THOUSANDpHREE THOUSANDoFOUR ",
    "THOUSANDpIVE THOUSANDoSIX THOUSANDpEVEN THOUSANDoEIGHT THOUSANDoNINE THOUSANDoTEN THOUSANDpWE",
    "NTY THOUSANDpHIRTY THOUSANDoFORTY THOUSANDpIFTY THOUSANDoSIXTY THOUSANDpEVENTY THOUSANDoEIGHT",
    "Y THOUSANDoNINETY THOUSAND"]),
  (0x10137, ["aAEGEAN WEIGHT BASE UNIToFIRST SUBUNIToSECOND SUBUNIToTHIRD SUBUNIToFOURTH SUBUNIThD",
    "RY MEASURE FIRST SUBUNIThLIQUID MEASURE FIRST SUBUNIThMEASURE SECOND SUBUNITpTHIRD SUBUNITaGR",
    "EEK ACROPHONIC ATTIC ONE QUARTERbbHALFbbDRACHMAxFIVEzFTYzVE HUNDREDbcTHOUSANDzFTY THOUSANDzVE",
    " TALENTSxTEN TALENTSxFIFTY TALENTSxONE HUNDRED TALENTSxFIVE HUNDRED TALENTSxONE THOUSAND TALE",
    "NTSxFIVE THOUSAND TALENTSbcSTATERSxTEN STATERSxFIFTY STATERSxONE HUNDRED STATERSxFIVE HUNDRED",
    " STATERSxONE THOUSAND STATERSxTEN THOUSAND STATERSxFIFTY THOUSAND STATERSxTEN MNASrHERAEUM ON",
    "E PLETHRONrTHESPIAN ONErHERMIONIAN ONErEPIDAUREAN TWOrTHESPIAN TWOrCYRENAIC TWO DRACHMASrEPID",
    "AUREAN TWO DRACHMASrTROEZENIAN FIVEbcTENbf ALTERNATE FORMrHERMIONIAN TENrMESSENIAN TENrTHESPI",
    "AN TENbbHIRTYsROEZENIAN FIFTYbh ALTERNATE FORMrHERMIONIAN FIFTYrTHESPIAN FIFTYbaONE HUNDREDba",
    "THREE HUNDREDrEPIDAUREAN FIVE HUNDREDrTROEZENIAN FIVE HUNDREDsHESPIAN FIVE HUNDREDrCARYSTIAN ",
    "FIVE HUNDREDrNAXIAN FIVE HUNDREDrTHESPIAN ONE THOUSANDbaFIVE THOUSANDrDELPHIC FIVE MNASrSTRAT",
    "IAN FIFTY MNASgONE HALF SIGNt ALTERNATE FORMgTWO THIRDS SIGNhHREE QUARTERS SIGNgYEAR SIGNgTAL",
    "ENT SIGNgDRACHMA SIGNgOBOL SIGNgTWO OBOLS SIGNhHREE OBOLS SIGNgFOUR OBOLS SIGNhIVE OBOLS SIGN",
    "gMETRETES SIGNgKYATHOS BASE SIGNgLITRA SIGNgOUNKIA SIGNgXESTES SIGNgARTABE SIGNiOURA SIGNgGRA",
    "MMA SIGNgTRYBLION BASE SIGNgZERO SIGNgONE QUARTER SIGNgSINUSOID SIGNgINDICTION SIGNaNOMISMA S",
    "IGN"]),
  (0x10190, ["aROMAN SEXTANS SIGNgUNCIA SIGNgSEMUNCIA SIGNiXTULA SIGNgDIMIDIA SEXTULA SIGNgSILIQUA",
    " SIGNgDENARIUS SIGNgQUINARIUS SIGNgSESTERTIUS SIGNgDUPONDIUS SIGNgAS SIGNgCENTURIAL SIGNaASCI",
    "A SYMBOL"]),
  (0x101a0, ["aGREEK SYMBOL TAU RHO"]),
  (0x101d0, ["aPHAISTOS DISC SIGN PEDESTRIANuLUMED HEADtTATTOOED HEADtCAPTIVEuHILDtWOMANtHELMETtGA",
    "UNTLETtTIARAtARROWtBOWtSHIELDtCLUBtMANACLESvTTOCKtSAWtLIDtBOOMERANGtCARPENTRY PLANEtDOLIUMtCO",
    "MBtSLINGtCOLUMNtBEEHIVEtSHIPtHORNuIDEtBULLS LEGtCATtRAMtEAGLEtDOVEtTUNNYtBEEtPLANE TREEtVINEt",
    "PAPYRUStROSETTEtLILYtOX BACKtFLUTEtGRATERtSTRAINERuMALL AXEtWAVY BANDtCOMBINING OBLIQUE STROK",
    "E"]),
  (0x10280, ["aLYCIAN LETTER AoEoBpHoGoDoIoWoZoTHoJoKoQoLoMoNoMMoNNoUoPoKKoRoSoTpToANoENoHoX"]),
  (0x102a0, ["aCARIAN LETTER AoP2oDoLoUUUoRoLDoA2oQoBoMoOoD2oToSHq2oSoC-18oUoNNoXoNoTT2oPoSSoIoEoU",
    "UUUoKp2oNDoUUoGp2oSTq2oNGoIIoC-39oTToUUU2oRRoMBq2q3q4oLD2oE2oUUU3"]),
  (0x102e0, ["aCOPTIC EPACT THOUSANDS MARKnDIGIT ONEtTWOuHREEtFOURuIVEtSIXuEVENtEIGHTtNINEnNUMBER ",
    "TENvWENTYvHIRTYuFORTYvIFTYuSIXTYvEVENTYuEIGHTYuNINETYuONE HUNDREDuTWO HUNDREDvHREE HUNDREDuFO",
    "UR HUNDREDvIVE HUNDREDuSIX HUNDREDvEVEN HUNDREDuEIGHT HUNDREDuNINE HUNDRED"]),
  (0x10300, ["aOLD ITALIC LETTER AsBEsKEsDEsEsVEsZEsHEsTHEsIsKAsELtMtNtSHsOsPEsSHEsKUsERtSsTEsUsEK",
    "SsPHEsKHEsEFtRSsCHEsIIsUUsESSlNUMERAL ONEtFIVEtTENtFIFTY"]),
  (0x1032d, ["aOLD ITALIC LETTER YEsNORTHERN TSEsSOUTHERN TSEaGOTHIC LETTER AHSAoBAIRKANoGIBAoDAGS",
    "oAIHVUSoQAIRTHRAoIUJAoHAGLoTHIUTHoEISoKUSMAoLAGUSoMANNAoNAUTHSoJERoURUSoPAIRTHRAoNINETYoRAIDA",
    "oSAUILoTEIWSoWINJAoFAIHUoIGGWSoHWAIRoOTHALoNINE HUNDRED"]),
  (0x10350, ["aOLD PERMIC LETTER ANsBURsGAIsDOIsEsZHOIsDZHOIsZATAsDZITAsIsKOKEsLEIsMENOEsNENOEsVOO",
    "IsPEEIsREIsSIIsTAIsUsCHERYsSHOOIuCHOOIsYRYtERUsOtOsEFsHAsTSIUsVERsYERvItATsIEsYUtAsIAaCOMBINI",
    "NG OLD PERMIC LETTER ANbcDOIbcZATAbcNENOEbcSII"]),
  (0x10380, ["aUGARITIC LETTER ALPAqBETAqGAMLAqKHAqDELTAqHOqWOqZETAqHOTAqTETqYODqKAFqSHINqLAMDAqME",
    "MqDHALqNUNqZUqSAMKAqAINqPUqSADEqQOPAqRASHAqTHANNAqGHAINqTOqIqUqSSU"]),
  (0x1039f, ["aUGARITIC WORD DIVIDERaOLD PERSIAN SIGN ArIrUrKAsUrGAsUrXArCArJAsIrTAsUrDAsIsUrTHArP",
    "ArBArFArNAsUrMAsIsUrYArVAsIrRAsUrLArSArZArSHAsSArHA"]),
  (0x103c8, ["aOLD PERSIAN SIGN AURAMAZDAAbb-2bbHArXSHAAYATHIYArDAHYAAUSHba-2rBAGAsUUMISHmWORD DIV",
    "IDERmNUMBER ONEtTWOuENuWENTYtHUNDRED"]),
  (0x10400, ["aDESERET CAPITAL LETTER LONG IbcEbcAbdHbcObdOxSHORT IbdEbdAbeHbdObeOxAYxOWxWUxYEExHx",
    "PEExBEExTEExDEExCHEExJEExKAYxGAYxEFxVEExETHxTHEExESxZEExESHxZHEExERyLyMyNzGxOIxEWiSMALL LETTE",
    "R LONG IbaEbaAbbHbaObbOvSHORT IbbEbbAbcHbbObcOvAYvOWvWUvYEEvHvPEEvBEEvTEEvDEEvCHEEvJEEvKAYvGA",
    "YvEFvVEEvETHvTHEEvESvZEEvESHvZHEEvERwLwMwNxGvOIvEWaSHAVIAN LETTER PEEPpTOTpKICKpFEEpTHIGHpSOq",
    "UREpCHURCHpYEApHUNGpBIBpDEADpGAGpVOWpTHEYpZOOpMEASUREpJUDGEpWOEpHA-HApLOLLpMIMEpIFpEGGpASHqDO",
    "pONpWOOLpOUTpAHpROARpNUNpEATpAGEpICEpUPpOAKqOZEqILpAWEqREpORpAIRpERRpARRAYpEARpIANpYEWaOSMANY",
    "A LETTER ALEFpBApTApJApXApKHApDEELpRApSAqHIINpDHApCAYNpGApFApQAAFpKAAFpLAANpMIINpNUUNpWAWpHAp",
    "YApApEpIpOpUpAApEEpOO"]),
  (0x104a0, ["aOSMANYA DIGIT ZEROoONEoTWOpHREEoFOURpIVEoSIXpEVENoEIGHToNINE"]),
  (0x104b0, ["aOSAGE CAPITAL LETTER AwIxNwHvBRAvCHAvEHCHAvEwINvHAwYAvIvKAvEHKAvKYAvLAvMAvNAvOwINvP",
    "AvEHPAvSAwHAvTAvEHTAvTSAvEHTSAvTSHAvDHAvUvWAvKHAvGHAvZAwHA"]),
  (0x104d8, ["aOSAGE SMALL LETTER AuIvNuHtBRAtCHAtEHCHAtEuINtHAuYAtItKAtEHKAtKYAtLAtMAtNAtOuINtPAt",
    "EHPAtSAuHAtTAtEHTAtTSAtEHTSAtTSHAtDHAtUtWAtKHAtGHAtZAuHA"]),
  (0x10500, ["aELBASAN LETTER ApBEpCEqHEpDEpNDEpDHEpEIpEpFEpGEqJEpHEpIpJEpKEpLEqLEpMEpNEqAqJEpOpPE",
    "pQEpREqREpSEqHEpTEqHEpUpVEpXEpYpZEqHEpGHErAMMApKHE"]),
  (0x10530, ["aCAUCASIAN ALBANIAN LETTER ALTbaBETbaGIMbaDATbaEBbaZARLbaEYNbaZHILbaTASbaCHAbaYOWDba",
    "ZHAbaIRBbaSHAbaLANbaINYAbaXEYNbaDYANbaCARbaJHOXbaKARbaLYITbaHEYTbaQAYbaAORbaCHOYbcIbbYAYbaMAQ",
    "baQARbaNOWCbaDZYAYbaSHAKbaJAYNbaONbaTYAYbaFAMbaDZAYbaCHATbaPENbaGHEYSbaRATbaSEYKbaVEYZbaTIWRb",
    "aSHOYbaIWNbaCYAWbbAYNbaYAYDbaPIWRbaKIW"]),
  (0x1056f, ["aCAUCASIAN ALBANIAN CITATION MARKaVITHKUQI CAPITAL LETTER AyBBEzEyCEzHEyDEzHEyEIyEyF",
    "EyGA"]),
  (0x1057c, ["aVITHKUQI CAPITAL LETTER HAzHAyIzJEyJEyKAyLAzLAyMEyNEzJEyOyPEyQAyRE"]),
  (0x1058c, ["aVITHKUQI CAPITAL LETTER SEzHEyTEzHEyUyVEyXE"]),
  (0x10594, ["aVITHKUQI CAPITAL LETTER YyZE"]),
  (0x10597, ["aVITHKUQI SMALL LETTER AwBBExEwCExHEwDExHEwEIwEwFEwGA"]),
  (0x105a3, ["aVITHKUQI SMALL LETTER HAxHAwIxJEwJEwKAwLAxLAwMEwNExJEwOwPEwQAwRE"]),
  (0x105b3, ["aVITHKUQI SMALL LETTER SExHEwTExHEwUwVEwXE"]),
  (0x105bb, ["aVITHKUQI SMALL LETTER YwZE"]),
  (0x10600, ["aLINEAR A SIGN AB001s2s3s4s5s6s7s8s9r10s1s3s6s7r20s1tFtMs2tFtMs3tMs4s6s7s8p028BpB029",
    "r30s1s4s7s8s9r40s1s4s5s6s7s8s9r50s1s3s4s5s6s7s8s9r60s1s5s6s7s9r70s3s4s6s7s8s9r80s1s2s5s6s7p10",
    "0-102pB118r20p120BpB122s3r31AtBp131CpB164r71r80s8r91p301r2r3r4r5r6r7r8r9AsBsCq10r1r2r3AsBsCr4",
    "r5r6r7r8r9q20r1r2r3r4r5r6r7r8r9q30r1r2r3r4r5r6r7r8r9q40r1r2r3r4r5r6r7r8r9q50r1r2r3r4r5r6r7r8r",
    "9q60r1r2r3r4r5r6r7r8r9q70r1p400-VASr1-VASr2-VASr3-VASr4-VASr5-VASr6-VASr7-VASr8-VASr9-VASq10-",
    "VASr1-VASr2-VASr3-VASr4-VASr5-VASr6-VASr7-VASr8-VASp501r2r3r4r5r6r8r9q10r1r2r3r5r6q20r1r3r4r5",
    "r6r7r8r9q30r1r2r4r5r6r7r8r9q40r1r2r5r7r8r9q50r1r2r3r4r5r6r7r9q63r4r5r6r8r9q70r1r2r3r4r5r6r7r8",
    "r9q80r1r2r3r4r5r6r7r8r9q91r2r4r5r6r8p600r1r2r3r4r6r8r9q10r1r2r3r4r5r6r7r8r9q20r1r2r3r4r6r7r8r",
    "9q34r7r8q40r2r3r4r5r6r8r9q51r2r3r4r5r6r7r8r9q60r1r2r3r4"]),
  (0x10740, ["aLINEAR A SIGN A701 Ar2 Br3 Dr4 Er5 Fr6 Hr7 Jr8 Kr9 Ls-2 L2t3 L3t4 L4t6 L6q10 Wr1 Xr",
    "2 Yr3 OMEGAr4 ABBr5 BBr7 DDq26 EYYYq32 JE"]),
  (0x10760, ["aLINEAR A SIGN A800r1r2r3r4r5r6r7"]),
  (0x10780, ["aMODIFIER LETTER SMALL CAPITAL AArUPERSCRIPT TRIANGULAR COLONbcHALF TRIANGULAR COLON",
    "rMALL AEwCAPITAL BwB WITH HOOK"]),
  (0x10787, ["aMODIFIER LETTER SMALL DZ DIGRAPHbg WITH RETROFLEX HOOKbmCURLxEZH DIGRAPHx WITH TAIL",
    "bdHOOKbh AND TAILwREVERSED EwCLOSED REVERSED OPEN EwFENG DIGRAPHwRAMS HORNwCAPITAL GwG WITH H",
    "OOKwCAPITAL G WITH HOOKwH WITH STROKEwCAPITAL HwHENG WITH HOOKwDOTLESS J WITH STROKE AND HOOK",
    "wLS DIGRAPHxZ DIGRAPHx WITH BELTwCAPITAL L WITH BELTwL WITH RETROFLEX HOOK AND BELTxEZHba WIT",
    "H RETROFLEX HOOKwTURNED Ybe WITH BELTwO WITH STROKEwCAPITAL OExLOSED OMEGAwQwTURNED R WITH LO",
    "NG LEGbs AND RETROFLEX HOOKwR WITH TAILbdFISHHOOKwCAPITAL RwTC DIGRAPH WITH CURLxS DIGRAPHbg ",
    "WITH RETROFLEX HOOKxESH DIGRAPHx WITH RETROFLEX HOOKwV WITH RIGHT HOOK"]),
  (0x107b2, ["aMODIFIER LETTER SMALL CAPITAL YqGLOTTAL STOP WITH STROKEqREVERSED GLOTTAL STOP WITH",
    " STROKEqBILABIAL CLICKqDENTAL CLICKqLATERAL CLICKqALVEOLAR CLICKqRETROFLEX CLICK WITH RETROFL",
    "EX HOOKqSMALL S WITH CURL"]),
  (0x10800, ["aCYPRIOT SYLLABLE ArErIrOrUrJA"]),
  (0x10808, ["aCYPRIOT SYLLABLE JO"]),
  (0x1080a, ["aCYPRIOT SYLLABLE KAsEsIsOsUrLAsEsIsOsUrMAsEsIsOsUrNAsEsIsOsUrPAsEsIsOsUrRAsEsIsOsUr",
    "SAsEsIsOsUrTAsEsIsOsUrWAsEsIsO"]),
  (0x10837, ["aCYPRIOT SYLLABLE XAsE"]),
  (0x1083c, ["aCYPRIOT SYLLABLE ZA"]),
  (0x1083f, ["aCYPRIOT SYLLABLE ZOaIMPERIAL ARAMAIC LETTER ALEPHyBETHyGIMELyDALETHyHEyWAWyZAYINyHE",
    "THyTETHyYODHyKAPHyLAMEDHyMEMyNUNySAMEKHyAYINyPEySADHEyQOPHyRESHySHINyTAW"]),
  (0x10857, ["aIMPERIAL ARAMAIC SECTION SIGNrNUMBER ONEyTWOzHREEzENzWENTYyONE HUNDREDbcTHOUSANDyTE",
    "N THOUSANDaPALMYRENE LETTER ALEPHrBETHrGIMELrDALETHrHErWAWrZAYINrHETHrTETHrYODHrKAPHrLAMEDHrM",
    "EMrFINAL NUNrNUNrSAMEKHrAYINrPErSADHErQOPHrRESHrSHINrTAWmFT-POINTING FLEURONkRIGHT-POINTING F",
    "LEURONkNUMBER ONErTWOsHREErFOURsIVErTENsWENTYaNABATAEAN LETTER FINAL ALEPHrALEPHrFINAL BETHrB",
    "ETHrGIMELrDALETHrFINAL HErHErWAWrZAYINrHETHrTETHrFINAL YODHrYODHrFINAL KAPHrKAPHrFINAL LAMEDH",
    "rLAMEDHrFINAL MEMrMEMrFINAL NUNrNUNrSAMEKHrAYINrPErSADHErQOPHrRESHrFINAL SHINrSHINrTAW"]),
  (0x108a7, ["aNABATAEAN NUMBER ONErTWOsHREErFOURkCRUCIFORM NUMBER FOURkNUMBER FIVErTENsWENTYrONE ",
    "HUNDRED"]),
  (0x108e0, ["aHATRAN LETTER ALEPHoBETHoGIMELoDALETH-RESHoHEoWAWoZAYNoHETHoTETHoYODHoKAPHoLAMEDHoM",
    "EMoNUNoSAMEKHoAYNoPEoSADHEoQOPH"]),
  (0x108f4, ["aHATRAN LETTER SHINoTAW"]),
  (0x108fb, ["aHATRAN NUMBER ONEoFIVEoTENpWENTYoONE HUNDREDaPHOENICIAN LETTER ALFsBETsGAMLsDELTsHE",
    "sWAUsZAIsHETsTETsYODsKAFsLAMDsMEMsNUNsSEMKsAINsPEsSADEsQOFsROSHsSHINsTAUlNUMBER ONEsTENtWENTY",
    "sONE HUNDREDsTWOtHREE"]),
  (0x1091f, ["aPHOENICIAN WORD SEPARATORaLYDIAN LETTER AoBoGoDoEoVoIoYoKoLoMoNoOoRoSSoToUoFoQoSoTT",
    "oANoENoLYoNNoC"]),
  (0x1093f, ["aLYDIAN TRIANGULAR MARK"]),
  (0x10980, ["aMEROITIC HIEROGLYPHIC LETTER AbdEbdIbdObdYAbdWAbdBAbf-2bdPAbdMAbdNAbf-2beEbf-2bdRAb",
    "f-2bdLAbdKHAbdHHAbdSAbf-2beEbdKAbdQAbdTAbf-2beEbf-2beObdDAwSYMBOL VIDJbh-2jCURSIVE LETTER AyE",
    "yIyOyYAyWAyBAyPAyMAyNAzEyRAyLAyKHAyHHAySAyARCHAIC SAySEyKAyQAyTAzEzOyDA"]),
  (0x109bc, ["aMEROITIC CURSIVE FRACTION ELEVEN TWELFTHSbaONE HALFrLOGOGRAM RMTbaIMNrNUMBER ONEyTW",
    "OzHREEyFOURzIVEySIXzEVENyEIGHTyNINEyTENzWENTYzHIRTYyFORTYzIFTYySIXTYzEVENTY"]),
  (0x109d2, ["aMEROITIC CURSIVE NUMBER ONE HUNDREDyTWO HUNDREDzHREE HUNDREDyFOUR HUNDREDzIVE HUNDR",
    "EDySIX HUNDREDzEVEN HUNDREDyEIGHT HUNDREDyNINE HUNDREDyONE THOUSANDyTWO THOUSANDzHREE THOUSAN",
    "DyFOUR THOUSANDzIVE THOUSANDySIX THOUSANDzEVEN THOUSANDyEIGHT THOUSANDyNINE THOUSANDyTEN THOU",
    "SANDzWENTY THOUSANDzHIRTY THOUSANDyFORTY THOUSANDzIFTY THOUSANDySIXTY THOUSANDzEVENTY THOUSAN",
    "DyEIGHTY THOUSANDyNINETY THOUSANDyONE HUNDRED THOUSANDyTWO HUNDRED THOUSANDzHREE HUNDRED THOU",
    "SANDyFOUR HUNDRED THOUSANDzIVE HUNDRED THOUSANDySIX HUNDRED THOUSANDzEVEN HUNDRED THOUSANDyEI",
    "GHT HUNDRED THOUSANDyNINE HUNDRED THOUSANDrFRACTION ONE TWELFTHbaTWO TWELFTHSbbHREE TWELFTHSb",
    "aFOUR TWELFTHSbbIVE TWELFTHSbaSIX TWELFTHSbbEVEN TWELFTHSbaEIGHT TWELFTHSbaNINE TWELFTHSbaTEN",
    " TWELFTHSaKHAROSHTHI LETTER AlVOWEL SIGN IwUwVOCALIC R"]),
  (0x10a05, ["aKHAROSHTHI VOWEL SIGN EwO"]),
  (0x10a0c, ["aKHAROSHTHI VOWEL LENGTH MARKlSIGN DOUBLE RING BELOWqANUSVARAqVISARGAlLETTER KAtHAsG",
    "AtHA"]),
  (0x10a15, ["aKHAROSHTHI LETTER CAtHAsJA"]),
  (0x10a19, ["aKHAROSHTHI LETTER NYAsTTAuHAsDDAuHAsNNAsTAtHAsDAtHAsNAsPAtHAsBAtHAsMAsYAsRAsLAsVAsS",
    "HAtSAtAsZAsHAsKKAsTTTHAvAsVHA"]),
  (0x10a38, ["aKHAROSHTHI SIGN BAR ABOVEqCAUDAqDOT BELOW"]),
  (0x10a3f, ["aKHAROSHTHI VIRAMAlDIGIT ONErTWOsHREErFOURlNUMBER TENtWENTYsONE HUNDREDwTHOUSANDlFRA",
    "CTION ONE HALF"]),
  (0x10a50, ["aKHAROSHTHI PUNCTUATION DOTxSMALL CIRCLExCIRCLEyRESCENT BARxMANGALAMxLOTUSxDANDAyOUB",
    "LE DANDAxLINES"]),
  (0x10a60, ["aOLD SOUTH ARABIAN LETTER HEzLAMEDHzHETHzMEMzQOPHzWAWzSHINzRESHzBETHzTAWzSATzKAPHzNU",
    "NzKHETHzSADHEbbMEKHzFEzALEFbaYNzDHADHEzGIMELzDALETHzGHAYNzTETHzZAYNzDHALETHzYODHzTHAWbbETHsNU",
    "MBER ONEzFIFTYvERIC INDICATOReNORTH ARABIAN LETTER HEHzLAMzHAHzMEEMzQAFzWAWzES-2zREHzBEHzTEHz",
    "ES-1zKAFzNOONzKHAHzSADzES-3zFEHzALEFbaINzDADzGEEMzDALzGHAINzTAHzZAINzTHALzYEHzTHEHzZAHsNUMBER",
    " ONEzTENbaWENTY"]),
  (0x10ac0, ["aMANICHAEAN LETTER ALEPHsBETHtHETHsGIMELtHIMELsDALETHsHEsWAWlSIGN UDlLETTER ZAYINtHA",
    "YINsJAYINtHAYINsHETHsTETHsYODHsKAPHsXAPHsKHAPHsLAMEDHsDHAMEDHsTHAMEDHsMEMsNUNsSAMEKHsAYINtAYI",
    "NsPEsFEsSADHEsQOPHsXOPHsQHOPHsRESHsSHINtSHINsTAWlABBREVIATION MARK ABOVEbdBELOW"]),
  (0x10aeb, ["aMANICHAEAN NUMBER ONEsFIVEsTENtWENTYsONE HUNDREDlPUNCTUATION STARxFLEURONxDOUBLE DO",
    "T WITHIN DOTzT WITHIN DOTzTxTWO DOTSxLINE FILLER"]),
  (0x10b00, ["aAVESTAN LETTER AqAqOqAOqNqANqErEpEqEpOqOpIqIpUqUpKEpXEqYEqVEpGEqGEqHEpCEpJEpTEqHEpD",
    "EqHEpTTEpPEpFEpBEqHEpNGErYErVEqEqYEqNEpMEpHMEpYYEqEpVEpREpLEpSEpZEpSHEpZHEpSHYEqSHEpHE"]),
  (0x10b39, ["aAVESTAN ABBREVIATION MARKaTINY TWO DOTS OVER ONE DOT PUNCTUATIONaSMALL TWO DOTS OVE",
    "R ONE DOT PUNCTUATIONaLARGE TWO DOTS OVER ONE DOT PUNCTUATIONgONE DOT OVER TWO DOTS PUNCTUATI",
    "ONgTWO RINGS OVER ONE RING PUNCTUATIONgONE RING OVER TWO RINGS PUNCTUATIONaINSCRIPTIONAL PART",
    "HIAN LETTER ALEPHbeBETHbeGIMELbeDALETHbeHEbeWAWbeZAYINbeHETHbeTETHbeYODHbeKAPHbeLAMEDHbeMEMbe",
    "NUNbeSAMEKHbeAYINbePEbeSADHEbeQOPHbeRESHbeSHINbeTAW"]),
  (0x10b58, ["aINSCRIPTIONAL PARTHIAN NUMBER ONEbeTWObfHREEbeFOURbeTENbfWENTYbeONE HUNDREDbiTHOUSA",
    "NDqHLAVI LETTER ALEPHbdBETHbdGIMELbdDALETHbdHEbdWAW-AYIN-RESHbdZAYINbdHETHbdTETHbdYODHbdKAPHb",
    "dLAMEDHbdMEM-QOPHbdNUNbdSAMEKHbdPEbdSADHEbeHINbdTAW"]),
  (0x10b78, ["aINSCRIPTIONAL PAHLAVI NUMBER ONEbdTWObeHREEbdFOURbdTENbeWENTYbdONE HUNDREDbhTHOUSAN",
    "DaPSALTER PAHLAVI LETTER ALEPHxBETHxGIMELxDALETHxHExWAW-AYIN-RESHxZAYINxHETHxYODHxKAPHxLAMEDH",
    "xMEM-QOPHxNUNxSAMEKHxPExSADHEyHINxTAW"]),
  (0x10b99, ["aPSALTER PAHLAVI SECTION MARKqTURNED SECTION MARKqFOUR DOTS WITH CROSSbfDOT"]),
  (0x10ba9, ["aPSALTER PAHLAVI NUMBER ONExTWOyHREExFOURxTENyWENTYxONE HUNDRED"]),
  (0x10c00, ["aOLD TURKIC LETTER ORKHON AsYENISEI AbbEsORKHON IsYENISEI IbaEsORKHON ObaEsYENISEI O",
    "EsORKHON ABsYENISEI ABsORKHON AEBsYENISEI AEBsORKHON AGsYENISEI AGsORKHON AEGsYENISEI AEGsORK",
    "HON ADsYENISEI ADsORKHON AEDzEZsYENISEI EZsORKHON AYsYENISEI AYsORKHON AEYsYENISEI AEYsORKHON",
    " AEKsYENISEI AEKsORKHON OEKsYENISEI OEKsORKHON ALsYENISEI ALsORKHON AELzELTbaMzANbaENsYENISEI",
    " AENsORKHON ENTsYENISEI ENTsORKHON ENCsYENISEI ENCsORKHON ENYsYENISEI ENYbaANGsORKHON ENGsYEN",
    "ISEI AENGsORKHON EPzOPzICzECsYENISEI ECsORKHON AQsYENISEI AQsORKHON IQsYENISEI IQsORKHON OQsY",
    "ENISEI OQsORKHON ARsYENISEI ARsORKHON AERbaSbaESbaSHsYENISEI ASHsORKHON ESHsYENISEI ESHsORKHO",
    "N ATsYENISEI ATsORKHON AETsYENISEI AETsORKHON OTzBASH"]),
  (0x10c80, ["aOLD HUNGARIAN CAPITAL LETTER AbeAbdEBbdAMBbdECbeNCbeCSbeDbdANDbdEbdCLOSE EbdEEbeFbe",
    "GbfYbeHbdIbeIbdEJbeKbdAKbdUNKbdELbfYbeMbeNbfYbdObeObdNIKOLSBURG OEbdRUDIMENTA OEbdOEEbdEPbeMP",
    "beRbdSHORT ERbdESbfZbeTbeNTbeTYbeCHbdUbeUbdNIKOLSBURG UEbdRUDIMENTA UEbdEVbeZbfSbeNT-SHAPED S",
    "IGNbdUS"]),
  (0x10cc0, ["aOLD HUNGARIAN SMALL LETTER AbcAbbEBbbAMBbbECbcNCbcCSbcDbbANDbbEbbCLOSE EbbEEbcFbcGb",
    "dYbcHbbIbcIbbEJbcKbbAKbbUNKbbELbdYbcMbcNbdYbbObcObbNIKOLSBURG OEbbRUDIMENTA OEbbOEEbbEPbcMPbc",
    "RbbSHORT ERbbESbdZbcTbcNTbcTYbcCHbbUbcUbbNIKOLSBURG UEbbRUDIMENTA UEbbEVbcZbdSbcNT-SHAPED SIG",
    "NbbUS"]),
  (0x10cfa, ["aOLD HUNGARIAN NUMBER ONEvFIVEvTENvFIFTYvONE HUNDREDzTHOUSANDaHANIFI ROHINGYA LETTER",
    " AxBAxPAxTAyTAxJAxCAxHAxKHAxFAxDAyDAxRAyRAxZAxSAyHAxKAxGAxLAxMAxNAxWAxKINNA WAxYAxKINNA YAxNG",
    "AyYAxVAqVOWEL AwIwUwEwOqMARK SAKINvNA KHONNAqSIGN HARBAHAYvTAHALAxNAxSSI"]),
  (0x10d30, ["aHANIFI ROHINGYA DIGIT ZEROwONEwTWOxHREEwFOURxIVEwSIXxEVENwEIGHTwNINE"]),
  (0x10e60, ["aRUMI DIGIT ONElTWOmHREElFOURmIVElSIXmEVENlEIGHTlNINEfNUMBER TENnWENTYnHIRTYmFORTYnI",
    "FTYmSIXTYnEVENTYmEIGHTYmNINETYmONE HUNDREDmTWO HUNDREDnHREE HUNDREDmFOUR HUNDREDnIVE HUNDREDm",
    "SIX HUNDREDnEVEN HUNDREDmEIGHT HUNDREDmNINE HUNDREDfFRACTION ONE HALFsQUARTERsTHIRDoTWO THIRD",
    "S"]),
  (0x10e80, ["aYEZIDI LETTER ELIFoBEoPEpHEoTHEoSEoCIMpHIMqHIMoHHAoXAoDALoZALoRApHAoZAoJAoSINpHINpA",
    "DoDADoTAoZEoEYNoXHEYNoFAoVAq ALTERNATE FORMoQAFoKAFpHAFoGAFoLAMoMIMoNUNoUMoWAWoOWoEWoHAYoYOTo",
    "ET"]),
  (0x10eab, ["aYEZIDI COMBINING HAMZA MARKrMADDA MARKhHYPHENATION MARK"]),
  (0x10eb0, ["aYEZIDI LETTER LAM WITH DOT ABOVEoYOT WITH CIRCUMFLEX ABOVE"]),
  (0x10f00, ["aOLD SOGDIAN LETTER ALEPHtFINAL ALEPHtBETHtFINAL BETHtGIMELtHEtFINAL HEtWAWtZAYINtHE",
    "THtYODHtKAPHtLAMEDHtMEMtNUNtFINAL NUNbc WITH VERTICAL TAILtSAMEKHtAYINuLTERNATE AYINtPEtSADHE",
    "tFINAL SADHEbe WITH VERTICAL TAILtRESH-AYIN-DALETHtSHINtTAWtFINAL TAWbc WITH VERTICAL TAILmNU",
    "MBER ONEtTWOuHREEtFOURuIVEtTENuWENTYuHIRTYtONE HUNDREDmFRACTION ONE HALFmLIGATURE AYIN-DALET",
    "H"]),
  (0x10f30, ["aSOGDIAN LETTER ALEPHpBETHpGIMELpHEpWAWpZAYINpHETHpYODHpKAPHpLAMEDHpMEMpNUNpSAMEKHpA",
    "YINpPEpSADHEpRESH-AYINpSHINpTAWpFETHpLESHiINDEPENDENT SHINiCOMBINING DOT BELOWsTWO DOTS BELOW",
    "sDOT ABOVEsTWO DOTS ABOVEsCURVE ABOVEyBELOWsHOOK ABOVExBELOWsLONG HOOK BELOWsRESH BELOWsSTROK",
    "E BELOWiNUMBER ONEpTENqWENTYpONE HUNDREDiPUNCTUATION TWO VERTICAL BARSbl WITH DOTSuCIRCLE WIT",
    "H DOTuTWO CIRCLES WITH DOTSuHALF CIRCLE WITH DOT"]),
  (0x10f70, ["aOLD UYGHUR LETTER ALEPHsBETHsGIMEL-HETHsWAWsZAYINsFINAL HETHsYODHsKAPHsLAMEDHsMEMsN",
    "UNsSAMEKHsPEsSADHEsRESHsSHINsTAWsLESHlCOMBINING DOT ABOVEzBELOWvTWO DOTS ABOVEbeBELOWlPUNCTUA",
    "TION BARxTWO BARSbbDOTSxFOUR DOTS"]),
  (0x10fb0, ["aCHORASMIAN LETTER ALEPHsSMALL ALEPHsBETHsGIMELsDALETHsHEsWAWsCURLED WAWsZAYINsHETHs",
    "YODHsKAPHsLAMEDHsMEMsNUNsSAMEKHsAYINsPEsRESHsSHINsTAWlNUMBER ONEsTWOtHREEsFOURsTENtWENTYsONE ",
    "HUNDRED"]),
  (0x10fe0, ["aELYMAIC LETTER ALEPHpBETHpGIMELpDALETHpHEpWAWpZAYINpHETHpTETHpYODHpKAPHpLAMEDHpMEMp",
    "NUNpSAMEKHpAYINpPEpSADHEpQOPHpRESHpSHINpTAWjIGATURE ZAYIN-YODH"]),
  (0x11000, ["aBRAHMI SIGN CANDRABINDUmANUSVARAmVISARGAmJIHVAMULIYAmUPADHMANIYAhLETTER ApAoIpIoUpU",
    "oVOCALIC RxRwLxLoEoAIoOoAUoKApHAoGApHAoNGAoCApHAoJApHAoNYAoTTAqHAoDDAqHAoNNAoTApHAoDApHAoNAoP",
    "ApHAoBApHAoMAoYAoRAoLAoVAoSHApSApAoHAoLLAoOLD TAMIL LLLAyRRAyNNNAhVOWEL SIGN AAsBHATTIPROLU A",
    "AsItIsUtUsVOCALIC RbbRbaLbbLsEsAIsOsAUiIRAMAhDANDAiOUBLE DANDAhPUNCTUATION DOTvUBLE DOTtLINEt",
    "CRESCENT BARtLOTUS"]),
  (0x11052, ["aBRAHMI NUMBER ONEoTWOpHREEoFOURpIVEoSIXpEVENoEIGHToNINEoTENpWENTYpHIRTYoFORTYpIFTYo",
    "SIXTYpEVENTYoEIGHTYoNINETYoONE HUNDREDsTHOUSANDhDIGIT ZEROnONEnTWOoHREEnFOURoIVEnSIXoEVENnEIG",
    "HTnNINEhSIGN OLD TAMIL VIRAMAhLETTER OLD TAMIL SHORT EbeOhVOWEL SIGN OLD TAMIL SHORT EbiOhLET",
    "TER OLD TAMIL LLA"]),
  (0x1107f, ["aBRAHMI NUMBER JOINERaKAITHI SIGN CANDRABINDUmANUSVARAmVISARGAhLETTER ApAoIpIoUpUoEo",
    "AIoOoAUoKApHAoGApHAoNGAoCApHAoJApHAoNYAoTTAqHAoDDAqDHAqHAoRHAoNNAoTApHAoDApHAoNAoPApHAoBApHAo",
    "MAoYAoRAoLAoVAoSHApSApAoHAhVOWEL SIGN AAsItIsUtUsEsAIsOsAUhSIGN VIRAMAmNUKTAhABBREVIATION SIG",
    "NhENUMERATION SIGNhNUMBER SIGNhSECTION MARKhDOUBLE SECTION MARKiANDAiOUBLE DANDAhVOWEL SIGN V",
    "OCALIC R"]),
  (0x110cd, ["aKAITHI NUMBER SIGN ABOVE"]),
  (0x110d0, ["aSORA SOMPENG LETTER SAHuTAHuBAHuCAHuDAHuGAHuMAHuNGAHuLAHuNAHuVAHuPAHuYAHuRAHuHAHuKA",
    "HuJAHuNYAHuAHuEEHuIHuUHuOHuEHuMAE"]),
  (0x110f0, ["aSORA SOMPENG DIGIT ZEROtONEtTWOuHREEtFOURuIVEtSIXuEVENtEIGHTtNINE"]),
  (0x11100, ["aCHAKMA SIGN CANDRABINDUmANUSVARAmVISARGAhLETTER AAoIoUoEoKAApHAAoGAApHAAoNGAAoCAApH",
    "AAoJAApHAAoNYAAoTTAAqHAAoDDAAqHAAoNNAAoTAApHAAoDAApHAAoNAAoPAApHAAoBAApHAAoMAAoYYAApAAoRAAoLA",
    "AoWAAoSAAoHAAhVOWEL SIGN AsItIsUtUsEsAIsOsAUsOIhO MARKhAU MARKhVIRAMAhMAAYYAA"]),
  (0x11136, ["aCHAKMA DIGIT ZEROnONEnTWOoHREEnFOURoIVEnSIXoEVENnEIGHTnNINEhSECTION MARKhDANDAiOUBL",
    "E DANDAhQUESTION MARKhLETTER LHAAhVOWEL SIGN AAsEIhLETTER VAA"]),
  (0x11150, ["aMAHAJANI LETTER AqIqUqEqOqKArHAqGArHAqCArHAqJArHAqNYAqTTAsHAqDDAsHAqNNAqTArHAqDArHA",
    "qNAqPArHAqBArHAqMAqRAqLAqVAqSAqHAqRRAjSIGN NUKTAjABBREVIATION SIGNjSECTION MARKjLIGATURE SHR",
    "I"]),
  (0x11180, ["aSHARADA SIGN CANDRABINDUnANUSVARAnVISARGAiLETTER AqApIqIpUqUpVOCALIC RyRxLyLpEpAIpO",
    "pAUpKAqHApGAqHApNGApCAqHApJAqHApNYApTTArHApDDArHApNNApTAqHApDAqHApNApPAqHApBAqHApMApYApRApLAq",
    "LApVApSHAqSAqApHAiVOWEL SIGN AAtIuItUuUtVOCALIC RbcRbbLbcLtEtAItOtAUiSIGN VIRAMAnAVAGRAHAnJIH",
    "VAMULIYAnUPADHMANIYAiOMiDANDAjOUBLE DANDAiABBREVIATION SIGNiSEPARATORjANDHI MARKjIGN NUKTAiVO",
    "WEL MODIFIER MARKiEXTRA SHORT VOWEL MARKiSUTRA MARKiVOWEL SIGN PRISHTHAMATRA EiSIGN INVERTED ",
    "CANDRABINDUiDIGIT ZEROoONEoTWOpHREEoFOURpIVEoSIXpEVENoEIGHToNINEiEKAMiSIGN SIDDHAMiHEADSTROKE",
    "iCONTINUATION SIGNiSECTION MARK-1v2"]),
  (0x111e1, ["aSINHALA ARCHAIC DIGIT ONEwTWOxHREEwFOURxIVEwSIXxEVENwEIGHTwNINEqNUMBER TENyWENTYyHI",
    "RTYxFORTYyIFTYxSIXTYyEVENTYxEIGHTYxNINETYxONE HUNDREDbbTHOUSAND"]),
  (0x11200, ["aKHOJKI LETTER ApAoIoUoEoAIoOoAUoKApHAoGApGApHAoNGAoCApHAoJApJA"]),
  (0x11213, ["aKHOJKI LETTER NYAoTTAqHAoDDAqHAoNNAoTApHAoDApDDApHAoNAoPApHAoBApBApHAoMAoYAoRAoLAoV",
    "AoSAoHAoLLAhVOWEL SIGN AAsItIsUsEsAIsOsAUhSIGN ANUSVARAmVIRAMAmNUKTAmSHADDAhDANDAiOUBLE DANDA",
    "hWORD SEPARATORhSECTION MARKhDOUBLE SECTION MARKhABBREVIATION SIGNhSIGN SUKUN"]),
  (0x11280, ["aMULTANI LETTER ApIpUpEpKAqHApGA"]),
  (0x11288, ["aMULTANI LETTER GHA"]),
  (0x1128a, ["aMULTANI LETTER CAqHApJAqJA"]),
  (0x1128f, ["aMULTANI LETTER NYApTTArHApDDArDArHApNNApTAqHApDAqHApNApPAqHApBA"]),
  (0x1129f, ["aMULTANI LETTER BHApMApYApRApLApVApSApHApRRAqHAiSECTION MARK"]),
  (0x112b0, ["aKHUDAWADI LETTER AsArIsIrUsUrErAIrOrAUrKAsHArGAsGAsHArNGArCAsHArJAsJAsHArNYArTTAtHA",
    "rDDAtDArRRArDDHArNNArTAsHArDAsHArNArPAsHArBAsBAsHArMArYArRArLArVArSHAsArHAkSIGN ANUSVARAkVOWE",
    "L SIGN AAvIwIvUwUvEvAIvOvAUkSIGN NUKTApVIRAMA"]),
  (0x112f0, ["aKHUDAWADI DIGIT ZEROqONEqTWOrHREEqFOURrIVEqSIXrEVENqEIGHTqNINE"]),
  (0x11300, ["aGRANTHA SIGN COMBINING ANUSVARA ABOVEoANDRABINDUnANUSVARAnVISARGA"]),
  (0x11305, ["aGRANTHA LETTER AqApIqIpUqUpVOCALIC RxL"]),
  (0x1130f, ["aGRANTHA LETTER EEpAI"]),
  (0x11313, ["aGRANTHA LETTER OOpAUpKAqHApGAqHApNGApCAqHApJAqHApNYApTTArHApDDArHApNNApTAqHApDAqHAp",
    "NA"]),
  (0x1132a, ["aGRANTHA LETTER PAqHApBAqHApMApYApRA"]),
  (0x11332, ["aGRANTHA LETTER LAqLA"]),
  (0x11335, ["aGRANTHA LETTER VApSHAqSAqApHA"]),
  (0x1133b, ["aCOMBINING BINDU BELOWaGRANTHA SIGN NUKTAnAVAGRAHAiVOWEL SIGN AAtIuItUuUtVOCALIC Rbc",
    "R"]),
  (0x11347, ["aGRANTHA VOWEL SIGN EEtAI"]),
  (0x1134b, ["aGRANTHA VOWEL SIGN OOtAUiSIGN VIRAMA"]),
  (0x11350, ["aGRANTHA OM"]),
  (0x11357, ["aGRANTHA AU LENGTH MARK"]),
  (0x1135d, ["aGRANTHA SIGN PLUTAiLETTER VEDIC ANUSVARAvDOUBLE ANUSVARAqOCALIC RRxLLiVOWEL SIGN VO",
    "CALIC LbcL"]),
  (0x11366, ["aCOMBINING GRANTHA DIGIT ZEROyONEyTWOzHREEyFOURzIVEySIX"]),
  (0x11370, ["aCOMBINING GRANTHA LETTER AzKAzNAzVIzPA"]),
  (0x11400, ["aNEWA LETTER AnAmInImUnUmVOCALIC RvRuLvLmEmAImOmAUmKAnHAmGAnHAmNGAoHAmCAnHAmJAnHAmNY",
    "AoHAmTTAoHAmDDAoHAmNNAmTAnHAmDAnHAmNAnHAmPAnHAmBAnHAmMAnHAmYAmRAnHAmLAnHAmWAmSHAnSAnAmHAfVOWE",
    "L SIGN AAqIrIqUrUqVOCALIC RzRyLzLqEqAIqOqAUfSIGN VIRAMAkCANDRABINDUkANUSVARAkVISARGAkNUKTAkAV",
    "AGRAHAkFINAL ANUSVARAfOMfSIDDHIfDANDAgOUBLE DANDAfCOMMAfGAP FILLERfABBREVIATION SIGNfDIGIT ZE",
    "ROlONElTWOmHREElFOURmIVElSIXmEVENlEIGHTlNINEgOUBLE COMMAfPLACEHOLDER MARK"]),
  (0x1145d, ["aNEWA INSERTION SIGNfSANDHI MARKfLETTER VEDIC ANUSVARAfSIGN JIHVAMULIYAkUPADHMANIY",
    "A"]),
  (0x11480, ["aTIRHUTA ANJIiLETTER AqApIqIpUqUpVOCALIC RyRxLyLpEpAIpOpAUpKAqHApGAqHApNGApCAqHApJAq",
    "HApNYApTTArHApDDArHApNNApTAqHApDAqHApNApPAqHApBAqHApMApYApRApLApVApSHAqSAqApHAiVOWEL SIGN AAt",
    "IuItUuUtVOCALIC RbcRbbLbcLtEtSHORT EtAItOtSHORT OtAUiSIGN CANDRABINDUnANUSVARAnVISARGApRAMAnN",
    "UKTAnAVAGRAHAiGVANGiABBREVIATION SIGNiOM"]),
  (0x114d0, ["aTIRHUTA DIGIT ZEROoONEoTWOpHREEoFOURpIVEoSIXpEVENoEIGHToNINE"]),
  (0x11580, ["aSIDDHAM LETTER AqApIqIpUqUpVOCALIC RyRxLyLpEpAIpOpAUpKAqHApGAqHApNGApCAqHApJAqHApNY",
    "ApTTArHApDDArHApNNApTAqHApDAqHApNApPAqHApBAqHApMApYApRApLApVApSHAqSAqApHAiVOWEL SIGN AAtIuItU",
    "uUtVOCALIC RbcR"]),
  (0x115b8, ["aSIDDHAM VOWEL SIGN EtAItOtAUiSIGN CANDRABINDUnANUSVARAnVISARGApRAMAnNUKTAnSIDDHAMiD",
    "ANDAjOUBLE DANDAiSEPARATOR DOTsBARiREPETITION MARK-1y2y3iEND OF TEXT MARKiSECTION MARK WITH T",
    "RIDENT AND U-SHAPED ORNAMENTSbmDOTTED CRESCENTSbaRAYS AND DOTTED CRESCENTSbqDOUBLE CRESCENTSb",
    "qTRIPLE CRESCENTSvDOUBLE RINGbg WITH RAYSvWITH DOUBLE CRESCENTSbaTRIPLE CRESCENTSbaQUADRUPLE ",
    "CRESCENTSbaSEPTUPLE CRESCENTSbaCIRCLES AND RAYSbmTWO ENCLOSURESbmFOUR ENCLOSURESiLETTER THREE",
    "-CIRCLE ALTERNATE IqWO-CIRCLE ALTERNATE IblIpALTERNATE UiVOWEL SIGN ALTERNATE UbeU"]),
  (0x11600, ["aMODI LETTER AnAmInImUnUmVOCALIC RvRuLvLmEmAImOmAUmKAnHAmGAnHAmNGAmCAnHAmJAnHAmNYAmT",
    "TAoHAmDDAoHAmNNAmTAnHAmDAnHAmNAmPAnHAmBAnHAmMAmYAmRAmLAmVAmSHAnSAnAmHAmLLAfVOWEL SIGN AAqIrIq",
    "UrUqVOCALIC RzRyLzLqEqAIqOqAUfSIGN ANUSVARAkVISARGAmRAMAkARDHACANDRAfDANDAgOUBLE DANDAfABBREV",
    "IATION SIGNfSIGN HUVA"]),
  (0x11650, ["aMODI DIGIT ZEROlONElTWOmHREElFOURmIVElSIXmEVENlEIGHTlNINE"]),
  (0x11660, ["aMONGOLIAN BIRGA WITH ORNAMENTkROTATED BIRGAkDOUBLE BIRGA WITH ORNAMENTkTRIPLE BIRGA",
    " WITH ORNAMENTkBIRGA WITH DOUBLE ORNAMENTkROTATED BIRGA WITH ORNAMENTbdDOUBLE ORNAMENTkINVERT",
    "ED BIRGAy WITH DOUBLE ORNAMENTkSWIRL BIRGAv WITH ORNAMENTbbDOUBLE ORNAMENTkTURNED SWIRL BIRGA",
    " WITH DOUBLE ORNAMENT"]),
  (0x11680, ["aTAKRI LETTER AoAnIoInUoUnEnAInOnAUnKAoHAnGAoHAnNGAnCAoHAnJAoHAnNYAnTTApHAnDDApHAnNN",
    "AnTAoHAnDAoHAnNAnPAoHAnBAoHAnMAnYAnRAnLAnVAnSHAoAnHAnRRAgSIGN ANUSVARAlVISARGAgVOWEL SIGN AAr",
    "IsIrUsUrErAIrOrAUgSIGN VIRAMAlNUKTAgLETTER ARCHAIC KHAgABBREVIATION SIGN"]),
  (0x116c0, ["aTAKRI DIGIT ZEROmONEmTWOnHREEmFOURnIVEmSIXnEVENmEIGHTmNINE"]),
  (0x11700, ["aAHOM LETTER KAnHAmNGAnAmTAmALTERNATE TAmPAnHAmBAmMAmJAmCHAmTHAmRAmLAmSAmNYAmHAmAmDA",
    "nHAmGAmALTERNATE GAmGHAmBHAmJHAmALTERNATE BA"]),
  (0x1171d, ["aAHOM CONSONANT SIGN MEDIAL LAbbRAbbLIGATING RAfVOWEL SIGN ArAqIrIqUrUqEqAWqOqAIrMfS",
    "IGN KILLER"]),
  (0x11730, ["aAHOM DIGIT ZEROlONElTWOmHREElFOURmIVElSIXmEVENlEIGHTlNINEfNUMBER TENnWENTYfSIGN SMA",
    "LL SECTIONlECTIONkRULAIgYMBOL VIfLETTER CAmTTAoHAmDDAoHAmNNAmLLA"]),
  (0x11800, ["aDOGRA LETTER AoAnIoInUoUnEnAInOnAUnKAoHAnGAoHAnNGAnCAoHAnJAoHAnNYAnTTApHAnDDApHAnNN",
    "AnTAoHAnDAoHAnNAnPAoHAnBAoHAnMAnYAnRAnLAnVAnSHAoSAoAnHAnRRAgVOWEL SIGN AArIsIrUsUrVOCALIC Rba",
    "RrErAIrOrAUgSIGN ANUSVARAlVISARGAnRAMAlNUKTAgABBREVIATION SIGN"]),
  (0x118a0, ["aWARANG CITI CAPITAL LETTER NGAAbbAbbWIbbYUbcAbcObbIIbbUUbbEbbObbANGbbGAbbKObbENYbbY",
    "UJbbUCbbENNbbODDbbTTEbbNUNGbbDAbbATbcMbbBUbbPUbbHIYObcOLObdRRbcARbbSSUUbcIIbbVIYOmSMALL LETTE",
    "R NGAAzAzWIzYUbaAbaOzIIzUUzEzOzANGzGAzKOzENYzYUJzUCzENNzODDzTTEzNUNGzDAzATbaMzBUzPUzHIYObaOLO",
    "bbRRbaARzSSUUbaIIzVIYOmDIGIT ZEROsONEsTWOtHREEsFOURtIVEsSIXtEVENsEIGHTsNINEmNUMBER TENuWENTYu",
    "HIRTYtFORTYuIFTYtSIXTYuEVENTYtEIGHTYtNINETY"]),
  (0x118ff, ["aWARANG CITI OMaDIVES AKURU LETTER AuAtIuItUuUtE"]),
  (0x11909, ["aDIVES AKURU LETTER O"]),
  (0x1190c, ["aDIVES AKURU LETTER KAuHAtGAuHAtNGAtCAuHAtJA"]),
  (0x11915, ["aDIVES AKURU LETTER NYAtTTA"]),
  (0x11918, ["aDIVES AKURU LETTER DDAvHAtNNAtTAuHAtDAuHAtNAtPAuHAtBAuHAtMAtYAuYAtRAtLAtVAtSHAuSAuA",
    "tHAtLLAtZAmVOWEL SIGN AAxIyIxUyUxE"]),
  (0x11937, ["aDIVES AKURU VOWEL SIGN AIxO"]),
  (0x1193b, ["aDIVES AKURU SIGN ANUSVARArCANDRABINDUrHALANTAmVIRAMAmPREFIXED NASAL SIGNmMEDIAL YAm",
    "INITIAL RAmMEDIAL RAmSIGN NUKTAmDOUBLE DANDAmGAP FILLERmEND OF TEXT MARK"]),
  (0x11950, ["aDIVES AKURU DIGIT ZEROsONEsTWOtHREEsFOURtIVEsSIXtEVENsEIGHTsNINE"]),
  (0x119a0, ["aNANDINAGARI LETTER AuAtIuItUuUtVOCALIC RbcR"]),
  (0x119aa, ["aNANDINAGARI LETTER EtAItOtAUtKAuHAtGAuHAtNGAtCAuHAtJAuHAtNYAtTTAvHAtDDAvHAtNNAtTAuH",
    "AtDAuHAtNAtPAuHAtBAuHAtMAtYAtRAtLAtVAtSHAuSAuAtHAtLLAtRRAmVOWEL SIGN AAxIyIxUyUxVOCALIC Rbg",
    "R"]),
  (0x119da, ["aNANDINAGARI VOWEL SIGN ExAIxOxAUmSIGN ANUSVARArVISARGAtRAMArAVAGRAHArSIDDHAMmHEADST",
    "ROKEmVOWEL SIGN PRISHTHAMATRA E"]),
  (0x11a00, ["aZANABAZAR SQUARE LETTER ArVOWEL SIGN IbcUEbcUbcEbcOEbcObcAIbdUbcREVERSED IxLENGTH M",
    "ARKrLETTER KAzHAyGAzHAyNGAyCAzHAyJAyNYAyTTAbaHAyDDAbaHAyNNAyTAzHAyDAzHAyNAyPAzHAyBAzHAyMAyTSA",
    "baHAyDZAbaHAyZHAzAy-AyYAyRAyLAyVAySHAzSAzAyHAyKSSArFINAL CONSONANT MARKrSIGN VIRAMAwCANDRABIN",
    "DUbh WITH ORNAMENTbc WITH ORNAMENTwANUSVARAwVISARGArCLUSTER-INITIAL LETTER RAzFINAL LETTER YA",
    "bmRAbmLAbmVArINITIAL HEAD MARKrCLOSING HEAD MARKrMARK TSHEGwSHADwDOUBLE SHADwLONG TSHEGrINITI",
    "AL DOUBLE-LINED HEAD MARKrCLOSING DOUBLE-LINED HEAD MARKrSUBJOINER"]),
  (0x11a50, ["aSOYOMBO LETTER AiVOWEL SIGN ItUEtUtEtOuEtAIuUtVOCALIC RbbLoLENGTH MARKiLETTER KAqHA",
    "pGAqHApNGApCAqHApJAqHApNYApTTArHApDDArHApNNApTAqHApDAqHApNApPAqHApBAqHApMApTSArHApDZApZHAqAp-",
    "ApYApRApLApVApSHAqSAqApHApKSSAiSIGN JIHVAMULIYAnUPADHMANIYAiCLUSTER-INITIAL LETTER RAbfLAbfSH",
    "AbgAiFINAL CONSONANT SIGN GbdKbdNGbdDbdNbdBbdMbdRbdLbdSHbdSbd-AiSIGN ANUSVARAnVISARGAiGEMINAT",
    "ION MARKiSUBJOINERiMARK TSHEGnSHADnDOUBLE SHADnPLUTAiHEAD MARK WITH MOON AND SUN AND TRIPLE F",
    "LAMEboFLAMEbiNiTERMINAL MARK-1w2"]),
  (0x11ab0, ["aCANADIAN SYLLABICS NATTILIK HIbeIbdObeObdAbeAbcSHRIbgIbfObgObfAbgAtSPEvIvOvAaPAU CI",
    "N HAU LETTER PAtKAtLAtMAtDAtZAtVAtNGAtHAtGAtKHAtSAtBAtCAtTAuHAtNAtPHAtRAtFAtCHAtAtEtItOtUuAtI",
    "AtFINAL PzKzTzMzNzLzWzNGzYmRISING TONE LONGwEmSANDHI GLOTTAL STOPmRISING TONE LONG FINALyFINA",
    "LmSANDHI GLOTTAL STOP FINALtTONE LONGwEx LONG FINALyFINALmMID-LEVEL TONEmGLOTTAL STOP VARIANT",
    "mMID-LEVEL TONE LONG FINALbbFINALmLOW-FALLING TONE LONGbbEmGLOTTAL STOPmLOW-FALLING TONE LONG",
    " FINALbdFINALmGLOTTAL STOP FINAL"]),
  (0x11c00, ["aBHAIKSUKI LETTER AsArIsIrUsUrVOCALIC RbaRzL"]),
  (0x11c0a, ["aBHAIKSUKI LETTER ErAIrOrAUrKAsHArGAsHArNGArCAsHArJAsHArNYArTTAtHArDDAtHArNNArTAsHAr",
    "DAsHArNArPAsHArBAsHArMArYArRArLArVArSHAsSAsArHAkVOWEL SIGN AAvIwIvUwUvVOCALIC RbeRbdL"]),
  (0x11c38, ["aBHAIKSUKI VOWEL SIGN EvAIvOvAUkSIGN CANDRABINDUpANUSVARApVISARGArRAMApAVAGRAHAkDAND",
    "AlOUBLE DANDAkWORD SEPARATORkGAP FILLER-1v2"]),
  (0x11c50, ["aBHAIKSUKI DIGIT ZEROqONEqTWOrHREEqFOURrIVEqSIXrEVENqEIGHTqNINEkNUMBER ONErTWOsHREEr",
    "FOURsIVErSIXsEVENrEIGHTrNINErTENsWENTYsHIRTYrFORTYsIFTYrSIXTYsEVENTYrEIGHTYrNINETYkHUNDREDS U",
    "NIT MARK"]),
  (0x11c70, ["aMARCHEN HEAD MARKiMARK SHADiLETTER KAqHApGApNGApCAqHApJApNYApTAqHApDApNApPAqHApBApM",
    "ApTSArHApDZApWApZHAqAp-ApYApRApLApSHAqApHApA"]),
  (0x11c92, ["aMARCHEN SUBJOINED LETTER KAbaHAzGAzNGAzCAbaHAzJAzNYAzTAbaHAzDAzNAzPAbaHAzBAzMAzTSAb",
    "bHAzDZAzWAzZHAbaA"]),
  (0x11ca9, ["aMARCHEN SUBJOINED LETTER YAzRAzLAzSHAbaAzHAzAiVOWEL SIGN AAtItUtEtOiSIGN ANUSVARAnC",
    "ANDRABINDU"]),
  (0x11d00, ["aMASARAM GONDI LETTER AwAvIwIvUwUvE"]),
  (0x11d08, ["aMASARAM GONDI LETTER AIvO"]),
  (0x11d0b, ["aMASARAM GONDI LETTER AUvKAwHAvGAwHAvNGAvCAwHAvJAwHAvNYAvTTAxHAvDDAxHAvNNAvTAwHAvDAw",
    "HAvNAvPAwHAvBAwHAvMAvYAvRAvLAvVAvSHAwSAwAvHAvLLAvKSSAvJNYAvTRAoVOWEL SIGN AAzIbaIzUbaUzVOCALI",
    "C R"]),
  (0x11d3a, ["aMASARAM GONDI VOWEL SIGN E"]),
  (0x11d3c, ["aMASARAM GONDI VOWEL SIGN AIzO"]),
  (0x11d3f, ["aMASARAM GONDI VOWEL SIGN AUoSIGN ANUSVARAtVISARGAtNUKTAtCANDRAtHALANTAoVIRAMAoREPHA",
    "pA-KARA"]),
  (0x11d50, ["aMASARAM GONDI DIGIT ZEROuONEuTWOvHREEuFOURvIVEuSIXvEVENuEIGHTuNINE"]),
  (0x11d60, ["aGUNJALA GONDI LETTER AwAvIwIvUwU"]),
  (0x11d67, ["aGUNJALA GONDI LETTER EEvAI"]),
  (0x11d6a, ["aGUNJALA GONDI LETTER OOvAUvYAvVAvBAwHAvMAvKAwHAvTAwHAvLAvGAwHAvDAwHAvNAvCAwHAvTTAxH",
    "AvLLAvJAwHAvDDAxHAvNGAvPAwHAvHAvRAvSAoVOWEL SIGN AAzIbaIzUbaU"]),
  (0x11d90, ["aGUNJALA GONDI VOWEL SIGN EEzAI"]),
  (0x11d93, ["aGUNJALA GONDI VOWEL SIGN OOzAUoSIGN ANUSVARAtVISARGAoVIRAMAoOM"]),
  (0x11da0, ["aGUNJALA GONDI DIGIT ZEROuONEuTWOvHREEuFOURvIVEuSIXvEVENuEIGHTuNINE"]),
  (0x11ee0, ["aMAKASAR LETTER KApGApNGApPApBApMApTApDApNApCApJApNYApYApRApLApVApSApAiANGKAiVOWEL S",
    "IGN ItUtEtOiPASSIMBANGiEND OF SECTION"]),
  (0x11fb0, ["aLISU LETTER YHA"]),
  (0x11fc0, ["aTAMIL FRACTION ONE THREE-HUNDRED-AND-TWENTIETHtONE-HUNDRED-AND-SIXTIETHtEIGHTIETHtS",
    "IXTY-FOURTHtFORTIETHtTHIRTY-SECONDpTHREE EIGHTIETHSvSIXTY-FOURTHSpONE TWENTIETHtSIXTEENTH-1bd",
    "2tTENTHtEIGHTHpTHREE TWENTIETHSvSIXTEENTHSpONE FIFTHtQUARTERtHALF-1y2pTHREE QUARTERSpDOWNSCAL",
    "ING FACTOR KIIZHgSIGN NELlCEVITUlAAZHAAKKUlUZHAKKUlMUUVUZHAKKUlKURUNIlPATHAKKUlMUKKURUNIlKAAC",
    "UlPANAMmONlVARAAKANlPAARAMlKUZHIlVELIgWET CULTIVATION SIGNgDRY CULTIVATION SIGNgLAND SIGNgSAL",
    "T PAN SIGNgTRADITIONAL CREDIT SIGNsNUMBER SIGNgCURRENT SIGNgAND ODD SIGNgSPENT SIGNgTOTAL SIG",
    "NgIN POSSESSION SIGNgSTARTING FROM SIGNhIGN MUTHALIYAlVAKAIYARAA"]),
  (0x11fff, ["aTAMIL PUNCTUATION END OF TEXTaCUNEIFORM SIGN Aq TIMES AxBADxGAN2 TENUxHAxIGIxLAGAR ",
    "GUNUxMUSHxSAGq2qBr TIMES ASH2yDUN3 GUNUyGALbaN2 TENUyHAyIGI GUNUzMINyLAGABySHESHyU PLUS U PLU",
    "S UsGUNUr2s TIMES BALAGzGAN2 TENUzME PLUS ENzSHA3zTAK4qDqKr TIMES ERIN2ySHITA PLUS GISHqLr TI",
    "MES ALyDIM2yGISHyHAyKAD3zIySHEyUSHrANrEPHqMARt TIMES SHEqNr OVER ANsTHREE TIMESsPLUS NAGA OPP",
    "OSING AN PLUS NAGAbcSQUAREDrSHEqPINqRADt TIMES KURrKABqSAL2rHs ZIDA TENUtKABA TENUtOVER ASH T",
    "UG2 OVER TUG2 TUG2 OVER TUG2 PAPbcOVER ASHbk CROSSING ASH OVER ASH OVER ASHs2sGABpBArDrG3rHAR",
    "2rLs OVER BALsAGrRsA2qIr TIMES AyGARyIGI GUNUqUr OVER BU ABbaUNsCROSSING BUrLUGu OVER BULUGrR",
    "s2pDArGs KISIM5 TIMES A PLUS MASHbhMARbgBALAGbhIbgGAbi PLUS MASHbhIbiR2bhUDbgHAbgIRbi PLUS LU",
    "bgKAKbgLAbhUbi PLUS MASH2biMbgNEbgPAP PLUS PAPbgSIbgTAK4bgU2 PLUS GIR2bhSHrMrRsA3t4qIrBrMs TI",
    "MES SHEs2rNs KASKAL U GUNU DISHrSHqUr OVER DUsGUNUsSHESHIGrBs TIMES ESH2s2rGsUDrHrNs3t GUNUy ",
    "GUNUs4rR2pEq TIMES PAPrOVER E NUN OVER NUNq2r TIMES A PLUS HA PLUS DAyGARyMIySALzHEyUqDINqGIR",
    "qLqNr TIMES GAN2bc TENUyMEsCROSSING ENsOPPOSING ENsSQUAREDqRENrIN2qSH2qZENt TIMES Abb PLUS LA",
    "Lbk TIMES LALbbNbaBADbaDUN3 GUNUbj GUNUbaHAbc GUNUbaIGI GUNUbaKASKALbg SQUAREDbbU3baLAbcL TIM",
    "ES LALbbIbbUbaU2bbDpGAr GUNUr2s TIMES A PLUS DA PLUS HAbgHAbgIGIbaB2 TENU PLUS TABbaNbaSHbc2 ",
    "PLUS GALzBADbbR PLUS RAbaURbc PLUS RAzDAbaIbbM TIMES SHEbaUBzELbb PLUS LAbaNbb TIMES GAN2 TEN",
    "UzGAN2 TENUbbRbaIbb4bc PLUS AbbR2 PLUS SUzHA PLUS LU PLUS ESH2bbLbc PLUS LAbaI PLUS LIbaUB2zI",
    "GI GUNUbaSH PLUS HU PLUS ASHzKAKbbSKALbaIDbc PLUS LALbaU3 PLUS ANzLAzME PLUS ENbaIzNUNbc OVER",
    " NUNzPAzSALbbRbaHEbc PLUS TURbbIDbaUMzTAK4zUbaDbb PLUS DUtOVER GA2rBAt CROSSING GABArDs OVER ",
    "GAD GAR OVER GARrLs GAD OVER GAD GAR OVER GARsAMrMrNs2t TENUuOVER GAN2uCROSSING GAN2rRs3rSHAN",
    "qESHTINw TIMES KURqIr TIMES EyUsCROSSING GIr4s OVER GI4tCROSSING GI4rDIMrR2t GUNUs3t TIMES A ",
    "PLUS IGIbaGAN2 TENUbaIGIbaLU PLUS IGIbaPArSALsHt CROSSING GISHuTIMES BADbaTAK4vENUqUr CROSSIN",
    "G GUr2s TIMES KAKbc TIMES IGI GUNUzNUNzSAL PLUS TUG2tGUNUrDs TIMES A PLUS KURzKURtOVER GUD LU",
    "GALrLrMs TIMES SHErRs7sUNtSHpHAr TENUsGUNUrLqIr TIMES ASHbb2yBADyDISHyGADyKINyNUNySHEyUqUrB2t",
    " TIMES ANbaHALbaKASKALbaLISHbaUDrL2pIq AqBqDIMt OVER IDIM BURbeSQUAREDqGrIs DIBtRItOVER IGI S",
    "HIR OVER SHIR UD OVER UDtGUNUqLr TIMES GAN2 TENUr2qMr TIMES TAK4sCROSSING IMsOPPOSING IMsSQUA",
    "REDrINqNqRqSHpKAr TIMES AzDba PLUS KU3zSH2yBADbaLAGbaRzIyERIN2zSH2yGAbaLbaN2 TENUbaRbb PLUS S",
    "HA3 PLUS AzIbaR2baSH PLUS SARbdCROSSING GISHzUbaR7yIGIzMyKAKzIbaDyLIzUyMEba PLUS DUbgGIbgTEzI",
    "ba PLUS NUNUZyNEzUNyPIyRUySAbaRzHAbaEbaIDbaUzIGzUHURyTARyUz2zDzMUM TIMES PAzSHyZIr2s CROSSING",
    " KA2rBrD2s3s4s5t OVER KAD5rKs TIMES IGI GUNUrLs TIMES BADtCROSSING KALrM2s4rSKALv LAGAB TIMES",
    " U OVER LAGAB TIMES UwOVER KASKAL LAGAB TIMES U OVER LAGAB TIMES UqESH2qIr TIMES BADyUzDrDrNr",
    "SALsHsIM5v OVER KISIM5qUr OVER HI TIMES ASH2 KU OVER HI TIMES ASH2r3r4s VARIANT FORMr7rLs GUN",
    "UrNrRs OPPOSING KURrSHU2qWU318pLArGABu TIMES Abc PLUS DA PLUS HAbiGARbiLALbcLbcNbcSH ZIDA TEN",
    "UbbBADbcIbbDARbbENbbGAbdRbcUDbe PLUS GUDbbHAbdLbcI TIMES NUNbbIGI GUNUbcMbd PLUS HAbjLUbbKIbd",
    "NbcU3bdLbe PLUS HI PLUS AbbLAGABbcISHbcUbdLbbMEbd PLUS ENbcUSHbbNEbbSHE PLUS SUMbdITA PLUS GI",
    "SH PLUS ERIN2brTENUbdU2bf PLUS SHU2bcUMbbTAGbdK4bcE PLUS A PLUS SU PLUS NAbbUbc PLUS AbiU PLU",
    "S Ubc2 PLUS ASHbcDbcSHvSQUAREDtRu TIMES SHEbe PLUS SUMvGUNUz OVER LAGAR GUNU SHErHSHUrLs TIME",
    "S LALrMs TIMES KURbc PLUS RUqIrLrMMU2rSHqUr TIMES BADr2s TIMES ALzBADzESH2bd TENUzGAN2 TENUzH",
    "I TIMES BADzIMzKAD2bc3bd PLUS ASHbaIzLA PLUS ASHbbGABzME PLUS ENzNEbaUzSI PLUS ASHbbK2 PLUS B",
    "UzTUG2uENUtCROSSING LU2tOPPOSING LU2tSQUAREDuHESHIGr3rGALu OVER LUGALwPPOSING LUGALvSHESHIGrH",
    "rLrMs OVER LUMbb GAR OVER GARpMAr TIMES TAK4sGUNUr2rHrRrSHt2qErSqIrNqUr OVER MUrGs GUNUrNSUBr",
    "RGU2rSHt TIMES AbaKURbaZAuOVER MUSHbd TIMES A PLUS NAuCROSSING MUSHt3u TIMES Abc PLUS DIbbDIv",
    "GUNUpNAr2rGAt INVERTEDuTIMES SHU TENUuOPPOSING NAGAtRrM NUTILLUrMs2qEr TIMES AyUDsSHESHIGqIr ",
    "TIMES Er2rMs TIMES GAN2 TENUbbR PLUS GAN2 TENUrNDA2v TIMES ANbdSHbf PLUS ASHbcGUDbcME PLUS GA",
    "N2 TENUbcNEbdUNbcSHEbf PLUS A ANbmSHbo PLUS ASHbcU2 PLUS ASHbdSHrSAGqUr11rNs LAGAR TIMES GARb",
    "fMASHbfSALbi OVER NUN LAGAR TIMES SALbfUSHtTENUtOVER NUNtCROSSING NUNbf LAGAR OVER LAGARsUZu ",
    "AB2 TIMES ASHGABbfBIbfDUGbfGUDbfIGI GUNUbfKAD3bfLAbfNEbfSILA3bfU2vKISIM5 TIMES BIbk UpPArDrNr",
    "PqESH2qIr TIMES AzByBIzUyEyIzByUz2sCROSSING PIrRIGu TIMES KALbbUDbbZAvOPPOSING PIRIGpRArBqIqU",
    "pSArG NUTILLUrGs TIMES AzDUbbBzHAzKAKbaURzLUMzMIzNUNzSALbaHIDzTABzU2baBbaMbaRbaSHtOVER SAGtGU",
    "NUrLs LAGAB TIMES ASH2rNGA2rRqHAs3t TIMES AbaBADbaGISHbaNEbaSHU2baTURbaUbb PLUS As6sB6sR2rEs ",
    "HUtOVER SHE GAD OVER GAD GAR OVER GARbcTAB OVER TAB GAR OVER GARsG9sNsSHu2uLAMrIDt TIMES AbaI",
    "MsMt TIMES AbaBALbbULUGbaDINbaGARbaIGIbd GUNUbaKUSHU2baLULbaMUGbaSALsNIGsRt TENUuOVER SHIR BU",
    "R OVER BURsTArUs OVER INVERTED SHUs2sBURqIr GUNUrGs4t OVER SIG4 SHU2rK2rLA3qUr OVER SUrDs2rHU",
    "RrMsASHrRs9pTAr ASTERISKsTIMES HIyMIsGUNUrBs OVER TAB NI OVER NI DISH OVER DISHtSQUAREDrGs TI",
    "MES BIzGUDzSHEbbUzTUG2zUDrK4rRqEr GUNUqIr TENUrLrRs TIMES TAK4tOVER TIRbb GAD OVER GAD GAR OV",
    "ER GARqUrG2rKrMrRs OVER TUR ZA OVER ZApUq GUDrU UrOVER U PA OVER PA GAR OVER GARySUR OVER SUR",
    "yU REVERSED OVER U REVERSEDq2qBqDr KUSHU2sTIMES BADyMIyU PLUS U PLUS Ubn GUNUsGUNUsSHESHIGz T",
    "IMES BADrUGqMr TIMES LAGAByME PLUS DAySHA3yUrBINrUMt TIMES KASKALbaPAqNr GUNUqRr CROSSING URs",
    "SHESHIGr2s TIMES A PLUS HAbgNAbaLzHAzNUNzU2bb PLUS ASHbhBIr4rIs3rUs TIMES AbaSHGABzBARzDUNzGA",
    "bbLbbN2 TENUbbRbaUzHAzIGIbaMbaSHzKIzLUMzMINzPAzSHEbaIG4zTUzU PLUS GUDbaDbaRUDAsDAu TIMES UqSH",
    "s TIMES AzKUbbRzTAK4sXs2sUMXqTUKIqZ3s TIMES KASKALrUpZAr TENUsSQUARED TIMES KURrGrMXqE2qIr OV",
    "ER ZIr3rBs KABA TENUrGrZ2qUr5s TIMES ArBURrMpKAP ELAMITEpAB TIMES NUNr2 TIMES AqMAR TIMES KUG",
    "pDAG KISIM5 TIMES U2 PLUS MASHs3qISH PLUS SHUqUB TIMES SHEpEZEN TIMES GUDbaSHEpGA2 TIMES AN P",
    "LUS KAK PLUS AbaSH2qE22qIGpHUSHpKA TIMES ANSHEzSH3yGISHzUDyHI TIMES ASH2yLUMyPAySHULyTUyUR2pL",
    "AGAB TIMES GIqU2 SHESHIG TIMES BADtTIMES ESH2 PLUS LALzSHUpMESHqUSH3 TIMES ZApNA4qINs9sDA2 TI",
    "MES BALbcGIqU11 ROTATED NINETY DEGREESpPESH2 ASTERISKqIR2pSAG TIMES IGI GUNUpTI2pUM TIMES MEq",
    " U"]),
  (0x12400, ["aCUNEIFORM NUMERIC SIGN TWO ASHyHREE ASHxFOUR ASHyIVE ASHxSIX ASHyEVEN ASHxEIGHT ASH",
    "xNINE ASHxTHREE DISHxFOUR DISHyIVE DISHxSIX DISHyEVEN DISHxEIGHT DISHxNINE DISHxFOUR UyIVE Ux",
    "SIX UyEVEN UxEIGHT UxNINE UxONE GESH2xTWO GESH2yHREE GESH2xFOUR GESH2yIVE GESH2xSIX GESH2yEVE",
    "N GESH2xEIGHT GESH2xNINE GESH2xONE GESHUxTWO GESHUyHREE GESHUxFOUR GESHUyIVE GESHUxTWO SHAR2y",
    "HREE SHAR2bi VARIANT FORMxFOUR SHAR2yIVE SHAR2xSIX SHAR2yEVEN SHAR2xEIGHT SHAR2xNINE SHAR2xON",
    "E SHARUxTWO SHARUyHREE SHARUbi VARIANT FORMxFOUR SHARUyIVE SHARUxSHAR2 TIMES GAL PLUS DISHbsM",
    "INxONE BURUxTWO BURUyHREE BURUbh VARIANT FORMxFOUR BURUyIVE BURUxTHREE VARIANT FORM ESH16bt21",
    "xFOUR VARIANT FORM LIMMUbu4bu AbvBxSIX VARIANT FORM ASH9yEVEN VARIANT FORM IMIN3bu AbvBxEIGHT",
    " VARIANT FORM USSUbu3xNINE VARIANT FORM ILIMMUbv3bv4bv AxTWO ASH TENUyHREE ASH TENUxFOUR ASH ",
    "TENUyIVE ASH TENUxSIX ASH TENUxONE BAN2xTWO BAN2yHREE BAN2xFOUR BAN2bg VARIANT FORMyIVE BAN2b",
    "g VARIANT FORMxNIGIDAMINbdESHxONE ESHE3xTWO ESHE3xONE THIRD DISHxTWO THIRDS DISHxFIVE SIXTHS ",
    "DISHxONE THIRD VARIANT FORM AxTWO THIRDS VARIANT FORM AxONE EIGHTH ASHbbQUARTER ASHyLD ASSYRI",
    "AN ONE SIXTHboQUARTERyNE QUARTER GURbbHALF GURxELAMITE ONE THIRDbfTWO THIRDSbfFORTYbgIFTYxFOU",
    "R U VARIANT FORMyIVE U VARIANT FORMxSIX U VARIANT FORMyEVEN U VARIANT FORMxEIGHT U VARIANT FO",
    "RMxNINE U VARIANT FORM"]),
  (0x12470, ["aCUNEIFORM PUNCTUATION SIGN OLD ASSYRIAN WORD DIVIDERbbVERTICAL COLONbbDIAGONAL COLO",
    "NbkTRICOLONbkQUADCOLON"]),
  (0x12480, ["aCUNEIFORM SIGN AB TIMES NUN TENUySHU2qD TIMES ESH2pBAD TIMES DISH TENUrHAR2 TIMES A",
    "B2bcNIbcZAqU OVER BU TIMES NA2pDA TIMES TAK4rG TIMES KURqIM TIMES IGIzU U Us2 TIMES UDqUG TIM",
    "ES ANSHEbaSHbc AT LEFTzDINbaUNzERIN2zGAbaIbbR2 GUNUbbSHzHAbaIzIGI GUNUzKASKALbaURbbSHU2bf PLU",
    "S KASKALzLAK-020bbMbc TIMES KURbaUH PLUS GISHzMASHbaESbaIzNIzPIzSHEbaI GUNUpE2 TIMES KURyPAPq",
    "RIN2 XqSH2 CROSSING ESH2qZEN SHESHIG TIMES ASHbiHIbiIGI GUNUbiLAbkLbiMEbkSbiSUuTIMES SUpGA2 T",
    "IMES BAHAR2zDIM GUNUbaUG TIMES IGI GUNUbjKASKALzERENzGAbbR PLUS DIbiNEzHA PLUS AzKUSHU2 PLUS ",
    "KASKALzLAMbc TIMES KURbaUHzMUSHzNEbb PLUS E2bhGIzSHIMzZIZ2rBA ROTATED NINETY DEGREESqESHTIN T",
    "IMES UqISH TIMES GISH CROSSING GISHqU2 TIMES IGI GUNUrD PLUS GISH TIMES TAK4pHA TENU GUNUqI T",
    "IMES ASH OVER HI TIMES ASHpKA TIMES BUyKAyU U UzRpLAGAB TIMES ZU OVER ZUrK-003u21v5u30u50v1u6",
    "2u79 OVER LAK-079 GUNUu80v1 OVER LAK-081u92t130u42t210v9u20v5v8u38u65v6t343v7v8u83v4u90t441v9",
    "w TIMES GUbdIGIbdPAP PLUS LU3bmPAP PLUS LU3bdU2 PLUS BAu50v7u70u83u90v2v3v5t550t608u17w TIMES",
    " ASHbdBADbdDUN3 GUNU GUNUbdKU3bdLAbdTARbeEbdU2beDbeRUDAu36u48w TIMES DUBbdGAbdIGIbg GUNUbdNIb",
    "dPAP PLUS PAP PLUS LU3bdSHESH PLUS KIbdUDbeRUDAt724u49qU2 GUNU TIMES ASHtTIMES DISHzHALzPAPbc",
    " PLUS PAP PLUS LU3zTAK4pMI PLUS ZA7qUSH OVER MUSH TIMES GAbkKAKpNINDA2 TIMES DIM GUNUbcGISHbd",
    "ULbcHIbcKESH2bcLAK-050bcMASHbcPAP PLUS PAPbcUbd PLUS UbdRUDApSAG GUNU TIMES HAtTIMES ENzSHE A",
    "T LEFTzTAK4qHA6 TENUrE OVER SHEtPLUS HUB2yNAM2ySARrU2 PLUS DUG TIMES NIzE2 TIMES ANqI TIMES T",
    "AK4pTAK4 PLUS SAGqUM TIMES GAN2 TENUzTHREE DISHpUR2 INVERTEDtTIMES UDrU TIMES DARA3zLAK-668ba",
    "U3pZA7qU OVER ZU PLUS SARr5 TIMES THREE DISH TENU"]),
  (0x12f90, ["aCYPRO-MINOAN SIGN CM001w2w4w5w6w7w8w9v10w1w2xBw3w5w7w9v21w3w4w5w6w7w8w9v30w3w4w5w6w",
    "7w8w9v40w1w4w6w7w9v50w1w2w3w4w5w6w8w9v60w1w2w3w4w6w7w8w9v70w1w2w3w4w5xBw6w8w9v80w1w2w3w4w5w6w",
    "7w8w9v90w1w2w4w5w6w7w8w9u100w1w2w3w4w5w7w8w9v10w2w4u301w2"])]

end TreePredicate.Text.CharacterName
