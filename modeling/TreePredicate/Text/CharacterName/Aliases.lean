/-!
# Other names of characters
-/

set_option autoImplicit false

namespace TreePredicate.Text.CharacterName

/-- Runs of characters with other names besides: where each starts, and the lines in which those
names are written. -/
def aliases : List (Nat × List String) := [
  (0x0, ["aNULaSOHbTART OF TEXTaEND OF TEXTiRANSMISSIONcQaACKbLERTaBACKSPACEaCHARACTER TABULATIONa",
    "END OF LINEaLINE TABULATIONaFFaCARRIAGE RETURNaLOCKING-SHIFT ONEoZEROaDATA LINK ESCAPEbC1c2c3",
    "c4aNAKaSYNaEND OF TRANSMISSION BLOCKaCANaEND OF MEDIUMaSUBaESCaFILE SEPARATORaGROUP SEPARATOR",
    "aINFORMATION SEPARATOR TWOwONEaSP"]),
  (0x0, ["aNULLaSTART OF HEADINGcXaETXbOTbNQUIRYaACKNOWLEDGEaBELbSaHORIZONTAL TABULATIONaEOLaVERTI",
    "CAL TABULATIONaFORM FEEDaCRaSHIFT OUTgINaDLEbEVICE CONTROL ONEpTWOqHREEpFOURaNEGATIVE ACKNOWL",
    "EDGEaSYNCHRONOUS IDLEaETBaCANCELaEOMaSUBSTITUTEaESCAPEaFSaGSaRECORD SEPARATORaUNIT SEPARATO",
    "R"]),
  (0x9, ["aHTaLFaVT"]),
  (0x9, ["aTABaLINE FEED"]),
  (0xa, ["aNEW LINE"]),
  (0xa, ["aNL"]),
  (0xe, ["aSObI"]),
  (0x1c, ["aINFORMATION SEPARATOR FOURwTHREEaRSaUS"]),
  (0x7f, ["aDELaPADaHIGH OCTET PRESETaBPHaNBHaINDaNELaSSAaEND OF SELECTED AREAaCHARACTER TABULATIO",
    "N SETvWITH JUSTIFICATIONaLINE TABULATION SETaPARTIAL LINE DOWNnBACKWARDaREVERSE INDEXaSINGLE ",
    "SHIFT TWOoHREEaDCSaPRIVATE USE ONEmTWOaSET TRANSMIT STATEaCANCEL CHARACTERaMESSAGE WAITINGaSP",
    "AaEND OF GUARDED AREAaSOSbGCbCIaCONTROL SEQUENCE INTRODUCERaSTaOPERATING SYSTEM COMMANDaPMaAP",
    "CaNBSP"]),
  (0x7f, ["aDELETEaPADDING CHARACTERaHOPaBREAK PERMITTED HEREaNO BREAK HEREaINDEXaNEXT LINEaSTART ",
    "OF SELECTED AREAaESAaHORIZONTAL TABULATION SETwWITH JUSTIFICATIONaVERTICAL TABULATION SETaPAR",
    "TIAL LINE FORWARDnUPaREVERSE LINE FEEDaSINGLE-SHIFT-2n3aDEVICE CONTROL STRINGaPRIVATE USE-1m2",
    "aSTSaCCHaMWaSTART OF GUARDED AREAaEND OF PROTECTED AREAaSTART OF STRINGbINGLE GRAPHIC CHARACT",
    "ER INTRODUCERhCHARACTER INTRODUCERaCSIaSTRING TERMINATORaOSCaPRIVACY MESSAGEaAPPLICATION PROG",
    "RAM COMMAND"]),
  (0x88, ["aHTScJaVTSaPLDcUaRIaSS2c3"]),
  (0x91, ["aPU1c2"]),
  (0x96, ["aSTART OF PROTECTED AREAaEPA"]),
  (0xad, ["aSHY"]),
  (0x1a2, ["aLATIN CAPITAL LETTER GHAgSMALL LETTER GHA"]),
  (0x34f, ["aCGJ"]),
  (0x61c, ["aALM"]),
  (0x709, ["aSYRIAC SUBLINEAR COLON SKEWED LEFT"]),
  (0xcde, ["aKANNADA LETTER LLLA"]),
  (0xe9d, ["aLAO LETTER FO FON"]),
  (0xe9f, ["aLAO LETTER FO FAY"]),
  (0xea3, ["aLAO LETTER RO"]),
  (0xea5, ["aLAO LETTER LO"]),
  (0xfd0, ["aTIBETAN MARK BKA- SHOG GI MGO RGYAN"]),
  (0x11ec, ["aHANGUL JONGSEONG YESIEUNG-KIYEOKbaSSANGKIYEOKrSSANGYESIEUNGrYESIEUNG-KHIEUKH"]),
  (0x180b, ["aFVS1d2d3aMVSaFVS4"]),
  (0x200b, ["aZWSPcNJcJaLRMaRLM"]),
  (0x202a, ["aLREaRLEaPDFaLROaRLOaNNBSP"]),
  (0x205f, ["aMMSPaWJ"]),
  (0x2066, ["aLRIaRLIaFSIaPDI"]),
  (0x2118, ["aWEIERSTRASS ELLIPTIC FUNCTION"]),
  (0x2448, ["aMICR ON US SYMBOLfDASH SYMBOL"]),
  (0x2b7a, ["aLEFTWARDS TRIANGLE-HEADED ARROW WITH DOUBLE VERTICAL STROKE"]),
  (0x2b7c, ["aRIGHTWARDS TRIANGLE-HEADED ARROW WITH DOUBLE VERTICAL STROKE"]),
  (0xa015, ["aYI SYLLABLE ITERATION MARK"]),
  (0xaa6e, ["aMYANMAR LETTER KHAMTI LLA"]),
  (0xfe00, ["aVS1c2c3c4c5c6c7c8c9c10d1d2d3d4d5d6"]),
  (0xfe18, ["aPRESENTATION FORM FOR VERTICAL RIGHT WHITE LENTICULAR BRACKET"]),
  (0xfeff, ["aBOM"]),
  (0xfeff, ["aBYTE ORDER MARK"]),
  (0xfeff, ["aZWNBSP"]),
  (0x122d4, ["aCUNEIFORM SIGN NU11 TENUuOVER NU11 BUR OVER BUR"]),
  (0x16e56, ["aMEDEFAIDRIN CAPITAL LETTER HbbNG"]),
  (0x16e76, ["aMEDEFAIDRIN SMALL LETTER HzNG"]),
  (0x1b001, ["aHENTAIGANA LETTER E-1"]),
  (0x1d0c5, ["aBYZANTINE MUSICAL SYMBOL FTHORA SKLIRON CHROMA VASIS"]),
  (0xe0100, ["aVS17d8d9c20d1d2d3d4d5d6d7d8d9c30d1d2d3d4d5d6d7d8d9c40d1d2d3d4d5d6d7d8d9c50d1d2d3d4d",
    "5d6d7d8d9c60d1d2d3d4d5d6d7d8d9c70d1d2d3d4d5d6d7d8d9c80d1d2d3d4d5d6d7d8d9c90d1d2d3d4d5d6d7d8d9",
    "c100e1e2e3e4e5e6e7e8e9d10e1e2e3e4e5e6e7e8e9d20e1e2e3e4e5e6e7e8e9d30e1e2e3e4e5e6e7e8e9d40e1e2e",
    "3e4e5e6e7e8e9d50e1e2e3e4e5e6e7e8e9d60e1e2e3e4e5e6e7e8e9d70e1e2e3e4e5e6e7e8e9d80e1e2e3e4e5e6e7",
    "e8e9d90e1e2e3e4e5e6e7e8e9c200e1e2e3e4e5e6e7e8e9d10e1e2e3e4e5e6e7e8e9d20e1e2e3e4e5e6e7e8e9d30e",
    "1e2e3e4e5e6e7e8e9d40e1e2e3e4e5e6e7e8e9d50e1e2e3e4e5e6"])]

end TreePredicate.Text.CharacterName
