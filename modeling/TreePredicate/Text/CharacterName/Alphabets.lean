/-!
# Names of characters from zero up to `0xfff`
-/

set_option autoImplicit false

namespace TreePredicate.Text.CharacterName

/-- Runs of characters from zero up to `0xfff`: where each starts, and the lines in which its
names are written. -/
def alphabets : List (Nat × List String) := [
  (0x20, ["aSPACEaEXCLAMATION MARKaQUOTATION MARKaNUMBER SIGNaDOLLAR SIGNaPERCENT SIGNaAMPERSANDbP",
    "OSTROPHEaLEFT PARENTHESISaRIGHT PARENTHESISaASTERISKaPLUS SIGNaCOMMAaHYPHEN-MINUSaFULL STOPaS",
    "OLIDUSaDIGIT ZEROgONEgTWOhHREEgFOURhIVEgSIXhEVENgEIGHTgNINEaCOLONaSEMICOLONaLESS-THAN SIGNaEQ",
    "UALS SIGNaGREATER-THAN SIGNaQUESTION MARKaCOMMERCIAL ATaLATIN CAPITAL LETTER AvBvCvDvEvFvGvHv",
    "IvJvKvLvMvNvOvPvQvRvSvTvUvVvWvXvYvZbEFT SQUARE BRACKETaREVERSE SOLIDUSbIGHT SQUARE BRACKETaCI",
    "RCUMFLEX ACCENTaLOW LINEaGRAVE ACCENTaLATIN SMALL LETTER AtBtCtDtEtFtGtHtItJtKtLtMtNtOtPtQtRt",
    "StTtUtVtWtXtYtZbEFT CURLY BRACKETaVERTICAL LINEaRIGHT CURLY BRACKETaTILDE"]),
  (0xa0, ["aNO-BREAK SPACEaINVERTED EXCLAMATION MARKaCENT SIGNaPOUND SIGNaCURRENCY SIGNaYEN SIGNaB",
    "ROKEN BARaSECTION SIGNaDIAERESISaCOPYRIGHT SIGNaFEMININE ORDINAL INDICATORaLEFT-POINTING DOUB",
    "LE ANGLE QUOTATION MARKaNOT SIGNaSOFT HYPHENaREGISTERED SIGNaMACRONaDEGREE SIGNaPLUS-MINUS SI",
    "GNaSUPERSCRIPT TWOnHREEaACUTE ACCENTaMICRO SIGNaPILCROW SIGNaMIDDLE DOTaCEDILLAaSUPERSCRIPT O",
    "NEaMASCULINE ORDINAL INDICATORaRIGHT-POINTING DOUBLE ANGLE QUOTATION MARKaVULGAR FRACTION ONE",
    " QUARTERuHALFqTHREE QUARTERSaINVERTED QUESTION MARKaLATIN CAPITAL LETTER A WITH GRAVEbcACUTEb",
    "cCIRCUMFLEXbcTILDEbcDIAERESISbcRING ABOVEwEvC WITH CEDILLAvE WITH GRAVEbcACUTEbcCIRCUMFLEXbcD",
    "IAERESISvI WITH GRAVEbcACUTEbcCIRCUMFLEXbcDIAERESISvETHvN WITH TILDEvO WITH GRAVEbcACUTEbcCIR",
    "CUMFLEXbcTILDEbcDIAERESISaMULTIPLICATION SIGNaLATIN CAPITAL LETTER O WITH STROKEvU WITH GRAVE",
    "bcACUTEbcCIRCUMFLEXbcDIAERESISvY WITH ACUTEvTHORNgSMALL LETTER SHARP StA WITH GRAVEbaACUTEbaC",
    "IRCUMFLEXbaTILDEbaDIAERESISbaRING ABOVEuEtC WITH CEDILLAtE WITH GRAVEbaACUTEbaCIRCUMFLEXbaDIA",
    "ERESIStI WITH GRAVEbaACUTEbaCIRCUMFLEXbaDIAERESIStETHtN WITH TILDEtO WITH GRAVEbaACUTEbaCIRCU",
    "MFLEXbaTILDEbaDIAERESISaDIVISION SIGNaLATIN SMALL LETTER O WITH STROKEtU WITH GRAVEbaACUTEbaC",
    "IRCUMFLEXbaDIAERESIStY WITH ACUTEtTHORNtY WITH DIAERESISgCAPITAL LETTER A WITH MACRONgSMALL L",
    "ETTER A WITH MACRONgCAPITAL LETTER A WITH BREVEgSMALL LETTER A WITH BREVEgCAPITAL LETTER A WI",
    "TH OGONEKgSMALL LETTER A WITH OGONEKgCAPITAL LETTER C WITH ACUTEgSMALL LETTER C WITH ACUTEgCA",
    "PITAL LETTER C WITH CIRCUMFLEXgSMALL LETTER C WITH CIRCUMFLEXgCAPITAL LETTER C WITH DOT ABOVE",
    "gSMALL LETTER C WITH DOT ABOVEgCAPITAL LETTER C WITH CARONgSMALL LETTER C WITH CARONgCAPITAL ",
    "LETTER D WITH CARONgSMALL LETTER D WITH CARONgCAPITAL LETTER D WITH STROKEgSMALL LETTER D WIT",
    "H STROKEgCAPITAL LETTER E WITH MACRONgSMALL LETTER E WITH MACRONgCAPITAL LETTER E WITH BREVEg",
    "SMALL LETTER E WITH BREVEgCAPITAL LETTER E WITH DOT ABOVEgSMALL LETTER E WITH DOT ABOVEgCAPIT",
    "AL LETTER E WITH OGONEKgSMALL LETTER E WITH OGONEKgCAPITAL LETTER E WITH CARONgSMALL LETTER E",
    " WITH CARONgCAPITAL LETTER G WITH CIRCUMFLEXgSMALL LETTER G WITH CIRCUMFLEXgCAPITAL LETTER G ",
    "WITH BREVEgSMALL LETTER G WITH BREVEgCAPITAL LETTER G WITH DOT ABOVEgSMALL LETTER G WITH DOT ",
    "ABOVEgCAPITAL LETTER G WITH CEDILLAgSMALL LETTER G WITH CEDILLAgCAPITAL LETTER H WITH CIRCUMF",
    "LEXgSMALL LETTER H WITH CIRCUMFLEXgCAPITAL LETTER H WITH STROKEgSMALL LETTER H WITH STROKEgCA",
    "PITAL LETTER I WITH TILDEgSMALL LETTER I WITH TILDEgCAPITAL LETTER I WITH MACRONgSMALL LETTER",
    " I WITH MACRONgCAPITAL LETTER I WITH BREVEgSMALL LETTER I WITH BREVEgCAPITAL LETTER I WITH OG",
    "ONEKgSMALL LETTER I WITH OGONEKgCAPITAL LETTER I WITH DOT ABOVEgSMALL LETTER DOTLESS IgCAPITA",
    "L LIGATURE IJgSMALL LIGATURE IJgCAPITAL LETTER J WITH CIRCUMFLEXgSMALL LETTER J WITH CIRCUMFL",
    "EXgCAPITAL LETTER K WITH CEDILLAgSMALL LETTER K WITH CEDILLAuRAgCAPITAL LETTER L WITH ACUTEgS",
    "MALL LETTER L WITH ACUTEgCAPITAL LETTER L WITH CEDILLAgSMALL LETTER L WITH CEDILLAgCAPITAL LE",
    "TTER L WITH CARONgSMALL LETTER L WITH CARONgCAPITAL LETTER L WITH MIDDLE DOTgSMALL LETTER L W",
    "ITH MIDDLE DOTgCAPITAL LETTER L WITH STROKEgSMALL LETTER L WITH STROKEgCAPITAL LETTER N WITH ",
    "ACUTEgSMALL LETTER N WITH ACUTEgCAPITAL LETTER N WITH CEDILLAgSMALL LETTER N WITH CEDILLAgCAP",
    "ITAL LETTER N WITH CARONgSMALL LETTER N WITH CARONvPRECEDED BY APOSTROPHEgCAPITAL LETTER ENGg",
    "SMALL LETTER ENGgCAPITAL LETTER O WITH MACRONgSMALL LETTER O WITH MACRONgCAPITAL LETTER O WIT",
    "H BREVEgSMALL LETTER O WITH BREVEgCAPITAL LETTER O WITH DOUBLE ACUTEgSMALL LETTER O WITH DOUB",
    "LE ACUTEgCAPITAL LIGATURE OEgSMALL LIGATURE OEgCAPITAL LETTER R WITH ACUTEgSMALL LETTER R WIT",
    "H ACUTEgCAPITAL LETTER R WITH CEDILLAgSMALL LETTER R WITH CEDILLAgCAPITAL LETTER R WITH CARON",
    "gSMALL LETTER R WITH CARONgCAPITAL LETTER S WITH ACUTEgSMALL LETTER S WITH ACUTEgCAPITAL LETT",
    "ER S WITH CIRCUMFLEXgSMALL LETTER S WITH CIRCUMFLEXgCAPITAL LETTER S WITH CEDILLAgSMALL LETTE",
    "R S WITH CEDILLAgCAPITAL LETTER S WITH CARONgSMALL LETTER S WITH CARONgCAPITAL LETTER T WITH ",
    "CEDILLAgSMALL LETTER T WITH CEDILLAgCAPITAL LETTER T WITH CARONgSMALL LETTER T WITH CARONgCAP",
    "ITAL LETTER T WITH STROKEgSMALL LETTER T WITH STROKEgCAPITAL LETTER U WITH TILDEgSMALL LETTER",
    " U WITH TILDEgCAPITAL LETTER U WITH MACRONgSMALL LETTER U WITH MACRONgCAPITAL LETTER U WITH B",
    "REVEgSMALL LETTER U WITH BREVEgCAPITAL LETTER U WITH RING ABOVEgSMALL LETTER U WITH RING ABOV",
    "EgCAPITAL LETTER U WITH DOUBLE ACUTEgSMALL LETTER U WITH DOUBLE ACUTEgCAPITAL LETTER U WITH O",
    "GONEKgSMALL LETTER U WITH OGONEKgCAPITAL LETTER W WITH CIRCUMFLEXgSMALL LETTER W WITH CIRCUMF",
    "LEXgCAPITAL LETTER Y WITH CIRCUMFLEXgSMALL LETTER Y WITH CIRCUMFLEXgCAPITAL LETTER Y WITH DIA",
    "ERESISvZ WITH ACUTEgSMALL LETTER Z WITH ACUTEgCAPITAL LETTER Z WITH DOT ABOVEgSMALL LETTER Z ",
    "WITH DOT ABOVEgCAPITAL LETTER Z WITH CARONgSMALL LETTER Z WITH CARONtLONG StB WITH STROKEgCAP",
    "ITAL LETTER B WITH HOOKbcTOPBARgSMALL LETTER B WITH TOPBARgCAPITAL LETTER TONE SIXgSMALL LETT",
    "ER TONE SIXgCAPITAL LETTER OPEN OvC WITH HOOKgSMALL LETTER C WITH HOOKgCAPITAL LETTER AFRICAN",
    " DvD WITH HOOKbcTOPBARgSMALL LETTER D WITH TOPBARtTURNED DELTAgCAPITAL LETTER REVERSED EvSCHW",
    "AvOPEN EvF WITH HOOKgSMALL LETTER F WITH HOOKgCAPITAL LETTER G WITH HOOKwAMMAgSMALL LETTER HV",
    "gCAPITAL LETTER IOTAw WITH STROKEvK WITH HOOKgSMALL LETTER K WITH HOOKtL WITH BARuAMBDA WITH ",
    "STROKEgCAPITAL LETTER TURNED MvN WITH LEFT HOOKgSMALL LETTER N WITH LONG RIGHT LEGgCAPITAL LE",
    "TTER O WITH MIDDLE TILDEbcHORNgSMALL LETTER O WITH HORNgCAPITAL LETTER OIgSMALL LETTER OIgCAP",
    "ITAL LETTER P WITH HOOKgSMALL LETTER P WITH HOOKgLETTER YRgCAPITAL LETTER TONE TWOgSMALL LETT",
    "ER TONE TWOgCAPITAL LETTER ESHgLETTER REVERSED ESH LOOPgSMALL LETTER T WITH PALATAL HOOKgCAPI",
    "TAL LETTER T WITH HOOKgSMALL LETTER T WITH HOOKgCAPITAL LETTER T WITH RETROFLEX HOOKvU WITH H",
    "ORNgSMALL LETTER U WITH HORNgCAPITAL LETTER UPSILONvV WITH HOOKvY WITH HOOKgSMALL LETTER Y WI",
    "TH HOOKgCAPITAL LETTER Z WITH STROKEgSMALL LETTER Z WITH STROKEgCAPITAL LETTER EZHy REVERSEDg",
    "SMALL LETTER EZH REVERSEDxWITH TAILgLETTER TWO WITH STROKEgCAPITAL LETTER TONE FIVEgSMALL LET",
    "TER TONE FIVEgLETTER INVERTED GLOTTAL STOP WITH STROKEnWYNNnDENTAL CLICKnLATERAL CLICKnALVEOL",
    "AR CLICKnRETROFLEX CLICKgCAPITAL LETTER DZ WITH CARONw WITH SMALL LETTER Z WITH CARONgSMALL L",
    "ETTER DZ WITH CARONgCAPITAL LETTER LJw WITH SMALL LETTER JgSMALL LETTER LJgCAPITAL LETTER NJw",
    " WITH SMALL LETTER JgSMALL LETTER NJgCAPITAL LETTER A WITH CARONgSMALL LETTER A WITH CARONgCA",
    "PITAL LETTER I WITH CARONgSMALL LETTER I WITH CARONgCAPITAL LETTER O WITH CARONgSMALL LETTER ",
    "O WITH CARONgCAPITAL LETTER U WITH CARONgSMALL LETTER U WITH CARONgCAPITAL LETTER U WITH DIAE",
    "RESIS AND MACRONgSMALL LETTER U WITH DIAERESIS AND MACRONgCAPITAL LETTER U WITH DIAERESIS AND",
    " ACUTEgSMALL LETTER U WITH DIAERESIS AND ACUTEgCAPITAL LETTER U WITH DIAERESIS AND CARONgSMAL",
    "L LETTER U WITH DIAERESIS AND CARONgCAPITAL LETTER U WITH DIAERESIS AND GRAVEgSMALL LETTER U ",
    "WITH DIAERESIS AND GRAVEtTURNED EgCAPITAL LETTER A WITH DIAERESIS AND MACRONgSMALL LETTER A W",
    "ITH DIAERESIS AND MACRONgCAPITAL LETTER A WITH DOT ABOVE AND MACRONgSMALL LETTER A WITH DOT A",
    "BOVE AND MACRONgCAPITAL LETTER AE WITH MACRONgSMALL LETTER AE WITH MACRONgCAPITAL LETTER G WI",
    "TH STROKEgSMALL LETTER G WITH STROKEgCAPITAL LETTER G WITH CARONgSMALL LETTER G WITH CARONgCA",
    "PITAL LETTER K WITH CARONgSMALL LETTER K WITH CARONgCAPITAL LETTER O WITH OGONEKgSMALL LETTER",
    " O WITH OGONEKgCAPITAL LETTER O WITH OGONEK AND MACRONgSMALL LETTER O WITH OGONEK AND MACRONg",
    "CAPITAL LETTER EZH WITH CARONgSMALL LETTER EZH WITH CARONtJ WITH CARONgCAPITAL LETTER DZw WIT",
    "H SMALL LETTER ZgSMALL LETTER DZgCAPITAL LETTER G WITH ACUTEgSMALL LETTER G WITH ACUTEgCAPITA",
    "L LETTER HWAIRvWYNNvN WITH GRAVEgSMALL LETTER N WITH GRAVEgCAPITAL LETTER A WITH RING ABOVE A",
    "ND ACUTEgSMALL LETTER A WITH RING ABOVE AND ACUTEgCAPITAL LETTER AE WITH ACUTEgSMALL LETTER A",
    "E WITH ACUTEgCAPITAL LETTER O WITH STROKE AND ACUTEgSMALL LETTER O WITH STROKE AND ACUTEgCAPI",
    "TAL LETTER A WITH DOUBLE GRAVEgSMALL LETTER A WITH DOUBLE GRAVEgCAPITAL LETTER A WITH INVERTE",
    "D BREVEgSMALL LETTER A WITH INVERTED BREVEgCAPITAL LETTER E WITH DOUBLE GRAVEgSMALL LETTER E ",
    "WITH DOUBLE GRAVEgCAPITAL LETTER E WITH INVERTED BREVEgSMALL LETTER E WITH INVERTED BREVEgCAP",
    "ITAL LETTER I WITH DOUBLE GRAVEgSMALL LETTER I WITH DOUBLE GRAVEgCAPITAL LETTER I WITH INVERT",
    "ED BREVEgSMALL LETTER I WITH INVERTED BREVEgCAPITAL LETTER O WITH DOUBLE GRAVEgSMALL LETTER O",
    " WITH DOUBLE GRAVEgCAPITAL LETTER O WITH INVERTED BREVEgSMALL LETTER O WITH INVERTED BREVEgCA",
    "PITAL LETTER R WITH DOUBLE GRAVEgSMALL LETTER R WITH DOUBLE GRAVEgCAPITAL LETTER R WITH INVER",
    "TED BREVEgSMALL LETTER R WITH INVERTED BREVEgCAPITAL LETTER U WITH DOUBLE GRAVEgSMALL LETTER ",
    "U WITH DOUBLE GRAVEgCAPITAL LETTER U WITH INVERTED BREVEgSMALL LETTER U WITH INVERTED BREVEgC",
    "APITAL LETTER S WITH COMMA BELOWgSMALL LETTER S WITH COMMA BELOWgCAPITAL LETTER T WITH COMMA ",
    "BELOWgSMALL LETTER T WITH COMMA BELOWgCAPITAL LETTER YOGHgSMALL LETTER YOGHgCAPITAL LETTER H ",
    "WITH CARONgSMALL LETTER H WITH CARONgCAPITAL LETTER N WITH LONG RIGHT LEGgSMALL LETTER D WITH",
    " CURLgCAPITAL LETTER OUgSMALL LETTER OUgCAPITAL LETTER Z WITH HOOKgSMALL LETTER Z WITH HOOKgC",
    "APITAL LETTER A WITH DOT ABOVEgSMALL LETTER A WITH DOT ABOVEgCAPITAL LETTER E WITH CEDILLAgSM",
    "ALL LETTER E WITH CEDILLAgCAPITAL LETTER O WITH DIAERESIS AND MACRONgSMALL LETTER O WITH DIAE",
    "RESIS AND MACRONgCAPITAL LETTER O WITH TILDE AND MACRONgSMALL LETTER O WITH TILDE AND MACRONg",
    "CAPITAL LETTER O WITH DOT ABOVEgSMALL LETTER O WITH DOT ABOVEgCAPITAL LETTER O WITH DOT ABOVE",
    " AND MACRONgSMALL LETTER O WITH DOT ABOVE AND MACRONgCAPITAL LETTER Y WITH MACRONgSMALL LETTE",
    "R Y WITH MACRONtL WITH CURLtN WITH CURLtT WITH CURLtDOTLESS JuB DIGRAPHtQP DIGRAPHgCAPITAL LE",
    "TTER A WITH STROKEvC WITH STROKEgSMALL LETTER C WITH STROKEgCAPITAL LETTER L WITH BARvT WITH ",
    "DIAGONAL STROKEgSMALL LETTER S WITH SWASH TAILtZ WITH SWASH TAILgCAPITAL LETTER GLOTTAL STOPg",
    "SMALL LETTER GLOTTAL STOPgCAPITAL LETTER B WITH STROKEvU BARvTURNED VvE WITH STROKEgSMALL LET",
    "TER E WITH STROKEgCAPITAL LETTER J WITH STROKEgSMALL LETTER J WITH STROKEgCAPITAL LETTER SMAL",
    "L Q WITH HOOK TAILgSMALL LETTER Q WITH HOOK TAILgCAPITAL LETTER R WITH STROKEgSMALL LETTER R ",
    "WITH STROKEgCAPITAL LETTER Y WITH STROKEgSMALL LETTER Y WITH STROKEtTURNED AtALPHAtTURNED ALP",
    "HAtB WITH HOOKtOPEN OtC WITH CURLtD WITH TAILbaHOOKtREVERSED EtSCHWAy WITH HOOKtOPEN EtREVERS",
    "ED OPEN Ebi WITH HOOKtCLOSED REVERSED OPEN EtDOTLESS J WITH STROKEtG WITH HOOKtSCRIPT GgLETTE",
    "R SMALL CAPITAL GgSMALL LETTER GAMMAtRAMS HORNtTURNED HtH WITH HOOKuENG WITH HOOKtI WITH STRO",
    "KEuOTAgLETTER SMALL CAPITAL IgSMALL LETTER L WITH MIDDLE TILDEbaBELTbaRETROFLEX HOOKuEZHtTURN",
    "ED Mbb WITH LONG LEGtM WITH HOOKtN WITH LEFT HOOKbaRETROFLEX HOOKgLETTER SMALL CAPITAL NgSMAL",
    "L LETTER BARRED OgLETTER SMALL CAPITAL OEgSMALL LETTER CLOSED OMEGAtPHItTURNED Rbb WITH LONG ",
    "LEGbhHOOKtR WITH LONG LEGbaTAILbaFISHHOOKuEVERSED R WITH FISHHOOKgLETTER SMALL CAPITAL RbbINV",
    "ERTED RgSMALL LETTER S WITH HOOKtESHtDOTLESS J WITH STROKE AND HOOKtSQUAT REVERSED ESHtESH WI",
    "TH CURLtTURNED Tu WITH RETROFLEX HOOKtU BARuPSILONtV WITH HOOKtTURNED VbaWbaYgLETTER SMALL CA",
    "PITAL YgSMALL LETTER Z WITH RETROFLEX HOOKbaCURLtEZHw WITH CURLgLETTER GLOTTAL STOPnPHARYNGEA",
    "L VOICED FRICATIVEnINVERTED GLOTTAL STOPnSTRETCHED CnBILABIAL CLICKnSMALL CAPITAL BgSMALL LET",
    "TER CLOSED OPEN EgLETTER SMALL CAPITAL G WITH HOOKbbHgSMALL LETTER J WITH CROSSED-TAILtTURNED",
    " KgLETTER SMALL CAPITAL LgSMALL LETTER Q WITH HOOKgLETTER GLOTTAL STOP WITH STROKEnREVERSED G",
    "LOTTAL STOP WITH STROKEgSMALL LETTER DZ DIGRAPHuEZH DIGRAPHuZ DIGRAPH WITH CURLtTS DIGRAPHuES",
    "H DIGRAPHuC DIGRAPH WITH CURLtFENG DIGRAPHtLS DIGRAPHuZ DIGRAPHgLETTER BILABIAL PERCUSSIVEpDE",
    "NTAL PERCUSSIVEgSMALL LETTER TURNED H WITH FISHHOOKbp AND TAILaMODIFIER LETTER SMALL Hx WITH ",
    "HOOKwJwRwTURNED Rbe WITH HOOKwCAPITAL INVERTED RwWwYqPRIMEqDOUBLE PRIMEqTURNED COMMAqAPOSTROP",
    "HEqREVERSED COMMArIGHT HALF RINGqLEFT HALF RINGqGLOTTAL STOPqREVERSED GLOTTAL STOPqLEFT ARROW",
    "HEADqRIGHT ARROWHEADqUP ARROWHEADqDOWN ARROWHEADqCIRCUMFLEX ACCENTaCARONaMODIFIER LETTER VERT",
    "ICAL LINEqMACRONqACUTE ACCENTqGRAVE ACCENTqLOW VERTICAL LINEuMACRONuGRAVE ACCENTuACUTE ACCENT",
    "qTRIANGULAR COLONqHALF TRIANGULAR COLONqCENTRED RIGHT HALF RINGyLEFT HALF RINGqUP TACKqDOWN T",
    "ACKqPLUS SIGNqMINUS SIGNaBREVEaDOT ABOVEaRING ABOVEaOGONEKaSMALL TILDEaDOUBLE ACUTE ACCENTaMO",
    "DIFIER LETTER RHOTIC HOOKqCROSS ACCENTqSMALL GAMMAwLwSwXwREVERSED GLOTTAL STOPqEXTRA-HIGH TON",
    "E BARqHIGH TONE BARqMID TONE BARqLOW TONE BARqEXTRA-LOW TONE BARqYIN DEPARTING TONE MARKrANG ",
    "DEPARTING TONE MARKqVOICINGqUNASPIRATEDqDOUBLE APOSTROPHEqLOW DOWN ARROWHEADuUP ARROWHEADuLEF",
    "T ARROWHEADuRIGHT ARROWHEADwNGqMIDDLE GRAVE ACCENTxDOUBLE GRAVE ACCENTbeACUTE ACCENTqLOW TILD",
    "EqRAISED COLONqBEGIN HIGH TONEqEND HIGH TONEqBEGIN LOW TONEqEND LOW TONEqSHELFqOPEN SHELFqLOW",
    " LEFT ARROWaCOMBINING GRAVE ACCENTkACUTE ACCENTkCIRCUMFLEX ACCENTkTILDEkMACRONkOVERLINEkBREVE",
    "kDOT ABOVElIAERESISkHOOK ABOVEkRING ABOVEkDOUBLE ACUTE ACCENTkCARONkVERTICAL LINE ABOVEkDOUBL",
    "E VERTICAL LINE ABOVErGRAVE ACCENTkCANDRABINDUkINVERTED BREVEkTURNED COMMA ABOVEkCOMMA ABOVEk",
    "REVERSED COMMA ABOVEkCOMMA ABOVE RIGHTkGRAVE ACCENT BELOWkACUTE ACCENT BELOWkLEFT TACK BELOWk",
    "RIGHT TACK BELOWkLEFT ANGLE ABOVEkHORNkLEFT HALF RING BELOWkUP TACK BELOWkDOWN TACK BELOWkPLU",
    "S SIGN BELOWkMINUS SIGN BELOWkPALATALIZED HOOK BELOWkRETROFLEX HOOK BELOWkDOT BELOWlIAERESIS ",
    "BELOWkRING BELOWkCOMMA BELOWlEDILLAkOGONEKkVERTICAL LINE BELOWkBRIDGE BELOWkINVERTED DOUBLE A",
    "RCH BELOWkCARON BELOWlIRCUMFLEX ACCENT BELOWkBREVE BELOWkINVERTED BREVE BELOWkTILDE BELOWkMAC",
    "RON BELOWkLOW LINEkDOUBLE LOW LINEkTILDE OVERLAYkSHORT STROKE OVERLAYkLONG STROKE OVERLAYkSHO",
    "RT SOLIDUS OVERLAYkLONG SOLIDUS OVERLAYkRIGHT HALF RING BELOWkINVERTED BRIDGE BELOWkSQUARE BE",
    "LOWlEAGULL BELOWkX ABOVEkVERTICAL TILDEkDOUBLE OVERLINEkGRAVE TONE MARKkACUTE TONE MARKkGREEK",
    " PERISPOMENIqKORONISqDIALYTIKA TONOSqYPOGEGRAMMENIkBRIDGE ABOVEkEQUALS SIGN BELOWkDOUBLE VERT",
    "ICAL LINE BELOWkLEFT ANGLE BELOWkNOT TILDE ABOVEkHOMOTHETIC ABOVEkALMOST EQUAL TO ABOVEkLEFT ",
    "RIGHT ARROW BELOWkUPWARDS ARROW BELOWkGRAPHEME JOINERkRIGHT ARROWHEAD ABOVEkLEFT HALF RING AB",
    "OVEkFERMATAkX BELOWkLEFT ARROWHEAD BELOWkRIGHT ARROWHEAD BELOWbaAND UP ARROWHEAD BELOWqHALF R",
    "ING ABOVEkDOT ABOVE RIGHTkASTERISK BELOWkDOUBLE RING BELOWkZIGZAG ABOVEkDOUBLE BREVE BELOWvEr",
    "MACRONx BELOWrTILDErINVERTED BREVErRIGHTWARDS ARROW BELOWkLATIN SMALL LETTER AbdEbdIbdObdUbdC",
    "bdDbdHbdMbdRbdTbdVbdXaGREEK CAPITAL LETTER HETAgSMALL LETTER HETAgCAPITAL LETTER ARCHAIC SAMP",
    "IgSMALL LETTER ARCHAIC SAMPIgNUMERAL SIGNgLOWER NUMERAL SIGNgCAPITAL LETTER PAMPHYLIAN DIGAMM",
    "AgSMALL LETTER PAMPHYLIAN DIGAMMA"]),
  (0x37a, ["aGREEK YPOGEGRAMMENIgSMALL REVERSED LUNATE SIGMA SYMBOLmDOTTED LUNATE SIGMA SYMBOLmREV",
    "ERSED DOTTED LUNATE SIGMA SYMBOLgQUESTION MARKgCAPITAL LETTER YOT"]),
  (0x384, ["aGREEK TONOSgDIALYTIKA TONOSgCAPITAL LETTER ALPHA WITH TONOSgANO TELEIAgCAPITAL LETTER",
    " EPSILON WITH TONOSwTA WITH TONOSvIOTA WITH TONOS"]),
  (0x38c, ["aGREEK CAPITAL LETTER OMICRON WITH TONOS"]),
  (0x38e, ["aGREEK CAPITAL LETTER UPSILON WITH TONOSvOMEGA WITH TONOSgSMALL LETTER IOTA WITH DIALY",
    "TIKA AND TONOSgCAPITAL LETTER ALPHAvBETAvGAMMAvDELTAvEPSILONvZETAvETAvTHETAvIOTAvKAPPAvLAMDAv",
    "MUvNUvXIvOMICRONvPIvRHO"]),
  (0x3a3, ["aGREEK CAPITAL LETTER SIGMAvTAUvUPSILONvPHIvCHIvPSIvOMEGAvIOTA WITH DIALYTIKAvUPSILON ",
    "WITH DIALYTIKAgSMALL LETTER ALPHA WITH TONOStEPSILON WITH TONOSuTA WITH TONOStIOTA WITH TONOS",
    "tUPSILON WITH DIALYTIKA AND TONOStALPHAtBETAtGAMMAtDELTAtEPSILONtZETAtETAtTHETAtIOTAtKAPPAtLA",
    "MDAtMUtNUtXItOMICRONtPItRHOtFINAL SIGMAtSIGMAtTAUtUPSILONtPHItCHItPSItOMEGAtIOTA WITH DIALYTI",
    "KAtUPSILON WITH DIALYTIKAtOMICRON WITH TONOStUPSILON WITH TONOStOMEGA WITH TONOSgCAPITAL KAI ",
    "SYMBOLgBETA SYMBOLgTHETA SYMBOLgUPSILON WITH HOOK SYMBOLtACUTE AND HOOK SYMBOLtDIAERESIS AND ",
    "HOOK SYMBOLgPHI SYMBOLhI SYMBOLgKAI SYMBOLgLETTER ARCHAIC KOPPAgSMALL LETTER ARCHAIC KOPPAgLE",
    "TTER STIGMAgSMALL LETTER STIGMAgLETTER DIGAMMAgSMALL LETTER DIGAMMAgLETTER KOPPAgSMALL LETTER",
    " KOPPAgLETTER SAMPIgSMALL LETTER SAMPIaCOPTIC CAPITAL LETTER SHEIhSMALL LETTER SHEIhCAPITAL L",
    "ETTER FEIhSMALL LETTER FEIhCAPITAL LETTER KHEIhSMALL LETTER KHEIhCAPITAL LETTER HORIhSMALL LE",
    "TTER HORIhCAPITAL LETTER GANGIAhSMALL LETTER GANGIAhCAPITAL LETTER SHIMAhSMALL LETTER SHIMAhC",
    "APITAL LETTER DEIhSMALL LETTER DEIaGREEK KAPPA SYMBOLgRHO SYMBOLgLUNATE SIGMA SYMBOLhETTER YO",
    "TgCAPITAL THETA SYMBOLgLUNATE EPSILON SYMBOLgREVERSED LUNATE EPSILON SYMBOLgCAPITAL LETTER SH",
    "OgSMALL LETTER SHOgCAPITAL LUNATE SIGMA SYMBOLpETTER SANgSMALL LETTER SANgRHO WITH STROKE SYM",
    "BOLgCAPITAL REVERSED LUNATE SIGMA SYMBOLoDOTTED LUNATE SIGMA SYMBOLoREVERSED DOTTED LUNATE SI",
    "GMA SYMBOLaCYRILLIC CAPITAL LETTER IE WITH GRAVEzOyDJEyGJEyUKRAINIAN IEyDZEyBYELORUSSIAN-UKRA",
    "INIAN IyYIyJEyLJEyNJEyTSHEyKJEyI WITH GRAVEySHORT UyDZHEyAyBEyVEyGHEyDEyIEyZHEzEyIySHORT IyKA",
    "yELzMzNyOyPEyERzSyTEyUyEFyHAyTSEyCHEySHAbaCHAyHARD SIGNyYERUySOFT SIGNyEyYUzAjSMALL LETTER Aw",
    "BEwVEwGHEwDEwIEwZHExEwIwSHORT IwKAwELxMxNwOwPEwERxSwTEwUwEFwHAwTSEwCHEwSHAyCHAwHARD SIGNwYERU",
    "wSOFT SIGNwEwYUxAwIE WITH GRAVExOwDJEwGJEwUKRAINIAN IEwDZEwBYELORUSSIAN-UKRAINIAN IwYIwJEwLJE",
    "wNJEwTSHEwKJEwI WITH GRAVEwSHORT UwDZHEjCAPITAL LETTER OMEGAjSMALL LETTER OMEGAjCAPITAL LETTE",
    "R YATjSMALL LETTER YATjCAPITAL LETTER IOTIFIED EjSMALL LETTER IOTIFIED EjCAPITAL LETTER LITTL",
    "E YUSjSMALL LETTER LITTLE YUSjCAPITAL LETTER IOTIFIED LITTLE YUSjSMALL LETTER IOTIFIED LITTLE",
    " YUSjCAPITAL LETTER BIG YUSjSMALL LETTER BIG YUSjCAPITAL LETTER IOTIFIED BIG YUSjSMALL LETTER",
    " IOTIFIED BIG YUSjCAPITAL LETTER KSIjSMALL LETTER KSIjCAPITAL LETTER PSIjSMALL LETTER PSIjCAP",
    "ITAL LETTER FITAjSMALL LETTER FITAjCAPITAL LETTER IZHITSAjSMALL LETTER IZHITSAjCAPITAL LETTER",
    " IZHITSA WITH DOUBLE GRAVE ACCENTjSMALL LETTER IZHITSA WITH DOUBLE GRAVE ACCENTjCAPITAL LETTE",
    "R UKjSMALL LETTER UKjCAPITAL LETTER ROUND OMEGAjSMALL LETTER ROUND OMEGAjCAPITAL LETTER OMEGA",
    " WITH TITLOjSMALL LETTER OMEGA WITH TITLOjCAPITAL LETTER OTjSMALL LETTER OTjCAPITAL LETTER KO",
    "PPAjSMALL LETTER KOPPAjTHOUSANDS SIGNbOMBINING CYRILLIC TITLOtPALATALIZATIONtDASIA PNEUMATAtP",
    "SILI PNEUMATAuOKRYTIEtHUNDRED THOUSANDS SIGNtMILLIONS SIGNbYRILLIC CAPITAL LETTER SHORT I WIT",
    "H TAILjSMALL LETTER SHORT I WITH TAILjCAPITAL LETTER SEMISOFT SIGNjSMALL LETTER SEMISOFT SIGN",
    "jCAPITAL LETTER ER WITH TICKjSMALL LETTER ER WITH TICKjCAPITAL LETTER GHE WITH UPTURNjSMALL L",
    "ETTER GHE WITH UPTURNjCAPITAL LETTER GHE WITH STROKEjSMALL LETTER GHE WITH STROKEjCAPITAL LET",
    "TER GHE WITH MIDDLE HOOKjSMALL LETTER GHE WITH MIDDLE HOOKjCAPITAL LETTER ZHE WITH DESCENDERj",
    "SMALL LETTER ZHE WITH DESCENDERjCAPITAL LETTER ZE WITH DESCENDERjSMALL LETTER ZE WITH DESCEND",
    "ERjCAPITAL LETTER KA WITH DESCENDERjSMALL LETTER KA WITH DESCENDERjCAPITAL LETTER KA WITH VER",
    "TICAL STROKEjSMALL LETTER KA WITH VERTICAL STROKEjCAPITAL LETTER KA WITH STROKEjSMALL LETTER ",
    "KA WITH STROKEjCAPITAL LETTER BASHKIR KAjSMALL LETTER BASHKIR KAjCAPITAL LETTER EN WITH DESCE",
    "NDERjSMALL LETTER EN WITH DESCENDERjCAPITAL LIGATURE EN GHEjSMALL LIGATURE EN GHEjCAPITAL LET",
    "TER PE WITH MIDDLE HOOKjSMALL LETTER PE WITH MIDDLE HOOKjCAPITAL LETTER ABKHASIAN HAjSMALL LE",
    "TTER ABKHASIAN HAjCAPITAL LETTER ES WITH DESCENDERjSMALL LETTER ES WITH DESCENDERjCAPITAL LET",
    "TER TE WITH DESCENDERjSMALL LETTER TE WITH DESCENDERjCAPITAL LETTER STRAIGHT UjSMALL LETTER S",
    "TRAIGHT UjCAPITAL LETTER STRAIGHT U WITH STROKEjSMALL LETTER STRAIGHT U WITH STROKEjCAPITAL L",
    "ETTER HA WITH DESCENDERjSMALL LETTER HA WITH DESCENDERjCAPITAL LIGATURE TE TSEjSMALL LIGATURE",
    " TE TSEjCAPITAL LETTER CHE WITH DESCENDERjSMALL LETTER CHE WITH DESCENDERjCAPITAL LETTER CHE ",
    "WITH VERTICAL STROKEjSMALL LETTER CHE WITH VERTICAL STROKEjCAPITAL LETTER SHHAjSMALL LETTER S",
    "HHAjCAPITAL LETTER ABKHASIAN CHEjSMALL LETTER ABKHASIAN CHEjCAPITAL LETTER ABKHASIAN CHE WITH",
    " DESCENDERjSMALL LETTER ABKHASIAN CHE WITH DESCENDERjLETTER PALOCHKAjCAPITAL LETTER ZHE WITH ",
    "BREVEjSMALL LETTER ZHE WITH BREVEjCAPITAL LETTER KA WITH HOOKjSMALL LETTER KA WITH HOOKjCAPIT",
    "AL LETTER EL WITH TAILjSMALL LETTER EL WITH TAILjCAPITAL LETTER EN WITH HOOKjSMALL LETTER EN ",
    "WITH HOOKjCAPITAL LETTER EN WITH TAILjSMALL LETTER EN WITH TAILjCAPITAL LETTER KHAKASSIAN CHE",
    "jSMALL LETTER KHAKASSIAN CHEjCAPITAL LETTER EM WITH TAILjSMALL LETTER EM WITH TAILwPALOCHKAjC",
    "APITAL LETTER A WITH BREVEjSMALL LETTER A WITH BREVEjCAPITAL LETTER A WITH DIAERESISjSMALL LE",
    "TTER A WITH DIAERESISjCAPITAL LIGATURE A IEjSMALL LIGATURE A IEjCAPITAL LETTER IE WITH BREVEj",
    "SMALL LETTER IE WITH BREVEjCAPITAL LETTER SCHWAjSMALL LETTER SCHWAjCAPITAL LETTER SCHWA WITH ",
    "DIAERESISjSMALL LETTER SCHWA WITH DIAERESISjCAPITAL LETTER ZHE WITH DIAERESISjSMALL LETTER ZH",
    "E WITH DIAERESISjCAPITAL LETTER ZE WITH DIAERESISjSMALL LETTER ZE WITH DIAERESISjCAPITAL LETT",
    "ER ABKHASIAN DZEjSMALL LETTER ABKHASIAN DZEjCAPITAL LETTER I WITH MACRONjSMALL LETTER I WITH ",
    "MACRONjCAPITAL LETTER I WITH DIAERESISjSMALL LETTER I WITH DIAERESISjCAPITAL LETTER O WITH DI",
    "AERESISjSMALL LETTER O WITH DIAERESISjCAPITAL LETTER BARRED OjSMALL LETTER BARRED OjCAPITAL L",
    "ETTER BARRED O WITH DIAERESISjSMALL LETTER BARRED O WITH DIAERESISjCAPITAL LETTER E WITH DIAE",
    "RESISjSMALL LETTER E WITH DIAERESISjCAPITAL LETTER U WITH MACRONjSMALL LETTER U WITH MACRONjC",
    "APITAL LETTER U WITH DIAERESISjSMALL LETTER U WITH DIAERESISjCAPITAL LETTER U WITH DOUBLE ACU",
    "TEjSMALL LETTER U WITH DOUBLE ACUTEjCAPITAL LETTER CHE WITH DIAERESISjSMALL LETTER CHE WITH D",
    "IAERESISjCAPITAL LETTER GHE WITH DESCENDERjSMALL LETTER GHE WITH DESCENDERjCAPITAL LETTER YER",
    "U WITH DIAERESISjSMALL LETTER YERU WITH DIAERESISjCAPITAL LETTER GHE WITH STROKE AND HOOKjSMA",
    "LL LETTER GHE WITH STROKE AND HOOKjCAPITAL LETTER HA WITH HOOKjSMALL LETTER HA WITH HOOKjCAPI",
    "TAL LETTER HA WITH STROKEjSMALL LETTER HA WITH STROKEjCAPITAL LETTER KOMI DEjSMALL LETTER KOM",
    "I DEjCAPITAL LETTER KOMI DJEjSMALL LETTER KOMI DJEjCAPITAL LETTER KOMI ZJEjSMALL LETTER KOMI ",
    "ZJEjCAPITAL LETTER KOMI DZJEjSMALL LETTER KOMI DZJEjCAPITAL LETTER KOMI LJEjSMALL LETTER KOMI",
    " LJEjCAPITAL LETTER KOMI NJEjSMALL LETTER KOMI NJEjCAPITAL LETTER KOMI SJEjSMALL LETTER KOMI ",
    "SJEjCAPITAL LETTER KOMI TJEjSMALL LETTER KOMI TJEjCAPITAL LETTER REVERSED ZEjSMALL LETTER REV",
    "ERSED ZEjCAPITAL LETTER EL WITH HOOKjSMALL LETTER EL WITH HOOKjCAPITAL LETTER LHAjSMALL LETTE",
    "R LHAjCAPITAL LETTER RHAjSMALL LETTER RHAjCAPITAL LETTER YAEjSMALL LETTER YAEjCAPITAL LETTER ",
    "QAjSMALL LETTER QAjCAPITAL LETTER WEjSMALL LETTER WEjCAPITAL LETTER ALEUT KAjSMALL LETTER ALE",
    "UT KAjCAPITAL LETTER EL WITH MIDDLE HOOKjSMALL LETTER EL WITH MIDDLE HOOKjCAPITAL LETTER EN W",
    "ITH MIDDLE HOOKjSMALL LETTER EN WITH MIDDLE HOOKjCAPITAL LETTER PE WITH DESCENDERjSMALL LETTE",
    "R PE WITH DESCENDERjCAPITAL LETTER SHHA WITH DESCENDERjSMALL LETTER SHHA WITH DESCENDERjCAPIT",
    "AL LETTER EN WITH LEFT HOOKjSMALL LETTER EN WITH LEFT HOOKjCAPITAL LETTER DZZHEjSMALL LETTER ",
    "DZZHEjCAPITAL LETTER DCHEjSMALL LETTER DCHEjCAPITAL LETTER EL WITH DESCENDERjSMALL LETTER EL ",
    "WITH DESCENDER"]),
  (0x531, ["aARMENIAN CAPITAL LETTER AYByBENyGIMyDAyECHyZAyEHzTyTOyZHEyINIyLIWNyXEHyCAyKENyHOyJAyG",
    "HADyCHEHyMENyYIyNOWySHAyVOyCHAyPEHyJHEHyRAySEHyVEWyTIWNyREHyCOyYIWNyPIWRyKEHyOHyFEH"]),
  (0x559, ["aARMENIAN MODIFIER LETTER LEFT HALF RINGjAPOSTROPHEjEMPHASIS MARKkXCLAMATION MARKjCOMM",
    "AjQUESTION MARKjABBREVIATION MARKjSMALL LETTER TURNED AYBwAYBwBENwGIMwDAwECHwZAwEHxTwTOwZHEwI",
    "NIwLIWNwXEHwCAwKENwHOwJAwGHADwCHEHwMENwYIwNOWwSHAwVOwCHAwPEHwJHEHwRAwSEHwVEWwTIWNwREHwCOwYIWN",
    "wPIWRwKEHwOHwFEHqIGATURE ECH YIWNqETTER YI WITH STROKEjFULL STOPjHYPHEN"]),
  (0x58d, ["aRIGHT-FACING ARMENIAN ETERNITY SIGNaLEFT-FACING ARMENIAN ETERNITY SIGNaARMENIAN DRAM ",
    "SIGN"]),
  (0x591, ["aHEBREW ACCENT ETNAHTAoSEGOLpHALSHELEToZAQEF QATANuGADOLoTIPEHAoREVIAoZARQAoPASHTAoYET",
    "IVoTEVIRoGERESHu MUQDAMrSHAYIMoQARNEY PARAoTELISHA GEDOLAoPAZERoATNAH HAFUKHoMUNAHpAHAPAKHpER",
    "KHAu KEFULAoDARGAoQADMAoTELISHA QETANAoYERAH BEN YOMOoOLEoILUYoDEHIoZINORhMARK MASORA CIRCLEh",
    "POINT SHEVAnHATAF SEGOLtPATAHtQAMATSoIRIQnTSEREnSEGOLnPATAHnQAMATSnHOLAMs HASER FOR VAVnQUBUT",
    "SnDAGESH OR MAPIQnMETEGiUNCTUATION MAQAFiOINT RAFEiUNCTUATION PASEQiOINT SHIN DOToIN DOTiUNCT",
    "UATION SOF PASUQhMARK UPPER DOTmLOWER DOThPUNCTUATION NUN HAFUKHAiOINT QAMATS QATAN"]),
  (0x5d0, ["aHEBREW LETTER ALEFoBEToGIMELoDALEToHEoVAVoZAYINoHEToTEToYODoFINAL KAFoKAFoLAMEDoFINAL",
    " MEMoMEMoFINAL NUNoNUNoSAMEKHoAYINoFINAL PEoPEoFINAL TSADIoTSADIoQOFoRESHoSHINoTAV"]),
  (0x5ef, ["aHEBREW YOD TRIANGLEhLIGATURE YIDDISH DOUBLE VAVyVAV YODyDOUBLE YODhPUNCTUATION GERESH",
    "wSHAYIM"]),
  (0x600, ["aARABIC NUMBER SIGNhSIGN SANAHhFOOTNOTE MARKERhSIGN SAFHAoMVAThNUMBER MARK ABOVEg-INDI",
    "C CUBE ROOTnFOURTH ROOTg RAYg-INDIC PER MILLE SIGNrTEN THOUSAND SIGNbFGHANI SIGNbRABIC COMMAh",
    "DATE SEPARATORhPOETIC VERSE SIGNhSIGN MISRAmSALLALLAHOU ALAYHE WASSALLAMmALAYHE ASSALLAMmRAHM",
    "ATULLAH ALAYHEoDI ALLAHOU ANHUmTAKHALLUSiMALL HIGH TAHsLIGATURE ALEF WITH LAM WITH YEHsZAINnF",
    "ATHAnDAMMAnKASRAiEMICOLONhLETTER MARKhEND OF TEXT MARKhTRIPLE DOT PUNCTUATION MARKhQUESTION M",
    "ARKhLETTER KASHMIRI YEHoHAMZAoALEF WITH MADDA ABOVEyHAMZA ABOVEoWAW WITH HAMZA ABOVEoALEF WIT",
    "H HAMZA BELOWoYEH WITH HAMZA ABOVEoALEFoBEHoTEH MARBUTAqHpHEHoJEEMoHAHoKHAHoDALoTHALoREHoZAIN",
    "oSEENpHEENpADoDADoTAHoZAHoAINoGHAINoKEHEH WITH TWO DOTS ABOVEbaHREE DOTS BELOWoFARSI YEH WITH",
    " INVERTED VbdTWO DOTS ABOVEbeHREE DOTS ABOVEhTATWEELhLETTER FEHoQAFoKAFoLAMoMEEMoNOONoHEHoWAW",
    "oALEF MAKSURAoYEHhFATHATANhDAMMATANhKASRATANhFATHAhDAMMAhKASRAhSHADDAiUKUNhMADDAH ABOVEhHAMZA",
    " ABOVEnBELOWhSUBSCRIPT ALEFhINVERTED DAMMAhMARK NOON GHUNNAhZWARAKAYhVOWEL SIGN SMALL V ABOVE",
    "sINVERTED SMALL V ABOVEsDOT BELOWhREVERSED DAMMAhFATHA WITH TWO DOTShWAVY HAMZA BELOWg-INDIC ",
    "DIGIT ZEROtONEtTWOuHREEtFOURuIVEtSIXuEVENtEIGHTtNINEg PERCENT SIGNhDECIMAL SEPARATORhTHOUSAND",
    "S SEPARATORhFIVE POINTED STARhLETTER DOTLESS BEHwQAFoSUPERSCRIPT ALEFoALEF WASLAuITH WAVY HAM",
    "ZA ABOVEbjBELOWoHIGH HAMZAy ALEFzWAWoU WITH HAMZA ABOVEoHIGH HAMZA YEHoTTEHsEHoBEEHoTEH WITH ",
    "RINGxTHREE DOTS ABOVE DOWNWARDSoPEHoTEHEHoBEHEHoHAH WITH HAMZA ABOVExTWO DOTS VERTICAL ABOVEo",
    "NYEHoDYEHoHAH WITH THREE DOTS ABOVEoTCHEHtEHoDDALpAL WITH RINGxDOT BELOWbg AND SMALL TAHqHALp",
    "DAHALpULpAL WITH THREE DOTS ABOVE DOWNWARDSxFOUR DOTS ABOVEoRREHpEH WITH SMALL VxRINGxDOT BEL",
    "OWxSMALL V BELOWxDOT BELOW AND DOT ABOVExTWO DOTS ABOVEoJEHoREH WITH FOUR DOTS ABOVEoSEEN WIT",
    "H DOT BELOW AND DOT ABOVEyTHREE DOTS BELOWbo AND THREE DOTS ABOVEpAD WITH TWO DOTS BELOWyHREE",
    " DOTS ABOVEoTAH WITH THREE DOTS ABOVEoAIN WITH THREE DOTS ABOVEoDOTLESS FEHoFEH WITH DOT MOVE",
    "D BELOWbbBELOWoVEHoFEH WITH THREE DOTS BELOWoPEHEHoQAF WITH DOT ABOVExTHREE DOTS ABOVEoKEHEHo",
    "SWASH KAFoKAF WITH RINGxDOT ABOVEoNGoKAF WITH THREE DOTS BELOWoGAFr WITH RINGoNGOEHoGAF WITH ",
    "TWO DOTS BELOWpUEHpAF WITH THREE DOTS ABOVEoLAM WITH SMALL VxDOT ABOVExTHREE DOTS ABOVEbiBELO",
    "WoNOON WITH DOT BELOWtGHUNNAoRNOONoNOON WITH RINGyTHREE DOTS ABOVEoHEH DOACHASHMEEoTCHEH WITH",
    " DOT ABOVEoHEH WITH YEH ABOVEsGOALw WITH HAMZA ABOVEoTEH MARBUTA GOALoWAW WITH RINGoKIRGHIZ O",
    "EoOEoUoYUoKIRGHIZ YUoWAW WITH TWO DOTS ABOVEoVEoFARSI YEHoYEH WITH TAILxSMALL VoWAW WITH DOT ",
    "ABOVEoEoYEH WITH THREE DOTS BELOWsBARREEy WITH HAMZA ABOVEhFULL STOPhLETTER AEhSMALL HIGH LIG",
    "ATURE SAD WITH LAM WITH ALEF MAKSURAbbQAF WITH LAM WITH ALEF MAKSURAsMEEM INITIAL FORMsLAM AL",
    "EFsJEEMsTHREE DOTSsSEENhEND OF AYAHhSTART OF RUB EL HIZBiMALL HIGH ROUNDED ZEROsUPRIGHT RECTA",
    "NGULAR ZEROsDOTLESS HEAD OF KHAHsMEEM ISOLATED FORMnLOW SEENnHIGH MADDAnWAWnYEHnHIGH YEHsNOON",
    "hPLACE OF SAJDAHhEMPTY CENTRE LOW STOPuHIGH STOPhROUNDED HIGH STOP WITH FILLED CENTREhSMALL L",
    "OW MEEMhLETTER DAL WITH INVERTED VoREH WITH INVERTED VaEXTENDED ARABIC-INDIC DIGIT ZERObcONEb",
    "cTWObdHREEbcFOURbdIVEbcSIXbdEVENbcEIGHTbcNINEaARABIC LETTER SHEEN WITH DOT BELOWoDAD WITH DOT",
    " BELOWoGHAIN WITH DOT BELOWhSIGN SINDHI AMPERSANDtPOSTPOSITION MENhLETTER HEH WITH INVERTED V",
    "aSYRIAC END OF PARAGRAPHhSUPRALINEAR FULL STOPjBLINEAR FULL STOPjPRALINEAR COLONjBLINEAR COLO",
    "NhHORIZONTAL COLONhCOLON SKEWED LEFTuRIGHThSUPRALINEAR COLON SKEWED LEFTjBLINEAR COLON SKEWED",
    " RIGHThCONTRACTIONhHARKLEAN OBELUSqMETOBELUSqASTERISCUS"]),
  (0x70f, ["aSYRIAC ABBREVIATION MARKhLETTER ALAPHoSUPERSCRIPT ALAPHoBETHoGAMALt GARSHUNIoDALATHpO",
    "TLESS DALATH RISHoHEoWAWoZAINoHETHoTETHs GARSHUNIoYUDHs HEoKAPHoLAMADHoMIMoNUNoSEMKATHoFINAL ",
    "SEMKATHoEoPEoREVERSED PEoSADHEoQAPHoRISHoSHINoTAWoPERSIAN BHETHwGHAMALwDHALATHhPTHAHA ABOVEoB",
    "ELOWoDOTTEDhZQAPHA ABOVEoBELOWoDOTTEDhRBASA ABOVEnBELOWhDOTTED ZLAMA HORIZONTALuANGULARhHBASA",
    " ABOVEnBELOWm-ESASA DOTTEDhESASA ABOVEnBELOWhRWAHAhFEMININE DOThQUSHSHAYAhRUKKAKHAhTWO VERTIC",
    "AL DOTS ABOVEzBELOWiHREE DOTS ABOVEsBELOWhOBLIQUE LINE ABOVEuBELOWhMUSIChBARREKH"]),
  (0x74d, ["aSYRIAC LETTER SOGDIAN ZHAINwKHAPHwFEaARABIC LETTER BEH WITH THREE DOTS HORIZONTALLY B",
    "ELOWxDOT BELOW AND THREE DOTS ABOVExTHREE DOTS POINTING UPWARDS BELOWce AND TWO DOTS ABOVEyWO",
    " DOTS BELOW AND DOT ABOVExINVERTED SMALL V BELOWxSMALL VoHAH WITH TWO DOTS ABOVEyHREE DOTS PO",
    "INTING UPWARDS BELOWoDAL WITH TWO DOTS VERTICALLY BELOW AND SMALL TAHxINVERTED SMALL V BELOWo",
    "REH WITH STROKEoSEEN WITH FOUR DOTS ABOVEoAIN WITH TWO DOTS ABOVEyHREE DOTS POINTING DOWNWARD",
    "S ABOVEyWO DOTS VERTICALLY ABOVEoFEH WITH TWO DOTS BELOWyHREE DOTS POINTING UPWARDS BELOWoKEH",
    "EH WITH DOT ABOVEzTHREE DOTS ABOVEbkPOINTING UPWARDS BELOWoMEEM WITH DOT ABOVEbcBELOWoNOON WI",
    "TH TWO DOTS BELOWySMALL TAHbeVoLAM WITH BARoREH WITH TWO DOTS VERTICALLY ABOVExHAMZA ABOVEoSE",
    "EN WITH TWO DOTS VERTICALLY ABOVEoHAH WITH SMALL ARABIC LETTER TAH BELOWbvAND TWO DOTSoSEEN W",
    "ITH SMALL ARABIC LETTER TAH AND TWO DOTSoREH WITH SMALL ARABIC LETTER TAH AND TWO DOTSoHAH WI",
    "TH SMALL ARABIC LETTER TAH ABOVEoALEF WITH EXTENDED ARABIC-INDIC DIGIT TWO ABOVEcbHREE ABOVEo",
    "FARSI YEH WITH EXTENDED ARABIC-INDIC DIGIT TWO ABOVEcgHREE ABOVEcfFOUR BELOWoWAW WITH EXTENDE",
    "D ARABIC-INDIC DIGIT TWO ABOVEcaHREE ABOVEoYEH BARREE WITH EXTENDED ARABIC-INDIC DIGIT TWO AB",
    "OVEchHREE ABOVEoHAH WITH EXTENDED ARABIC-INDIC DIGIT FOUR BELOWoSEEN WITH EXTENDED ARABIC-IND",
    "IC DIGIT FOUR ABOVEyINVERTED VoKAF WITH TWO DOTS ABOVEaTHAANA LETTER HAAoSHAVIYANIoNOONUoRAAo",
    "BAAoLHAVIYANIoKAAFUoALIFUoVAAVUoMEEMUoFAAFUoDHAALUoTHAAoLAAMUoGAAFUpNAVIYANIoSEENUoDAVIYANIoZ",
    "AVIYANIoTAVIYANIoYAAoPAVIYANIoJAVIYANIoCHAVIYANIoTTAAoHHAAoKHAAoTHAALUoZAAoSHEENUpAADHUoDAADH",
    "UoTOoZOoAINUoGHAINUoQAAFUoWAAVUhABAFILIiABAAFILIhIBIFILIhEEBEEFILIhUBUFILIhOOBOOFILIhEBEFILIi",
    "YBEYFILIhOBOFILIiABOAFILIhSUKUNhLETTER NAA"]),
  (0x7c0, ["aNKO DIGIT ZEROkONEkTWOlHREEkFOURlIVEkSIXlEVENkEIGHTkNINEeLETTER AlEElIlElUlOOlOlDAGBA",
    "SINNAlNlBAlPAlTAlJAlCHAlDAlRAmRAlSAlGBAlFAlKAlLAlNA WOLOSOlMAlNYAmAlHAlWAlYAlNYA WOLOSOlJONA ",
    "JAqCHAqRAeCOMBINING SHORT HIGH TONEuLOW TONEuRISING TONEoLONG DESCENDING TONEtHIGH TONEtLOW T",
    "ONEtRISING TONEoNASALIZATION MARKoDOUBLE DOT ABOVEeHIGH TONE APOSTROPHEeLOW TONE APOSTROPHEeS",
    "YMBOL OO DENNENlGBAKURUNENeCOMMAeEXCLAMATION MARKeLAJANYALAN"]),
  (0x7fd, ["aNKO DANTAYALANfOROME SIGNeTAMAN SIGNaSAMARITAN LETTER ALAFrBITrGAMANrDALATrIYrBAArZEN",
    "rITrTITrYUTrKAAFrLABATrMIMrNUNrSINGAATrINrFIrTSAADIYrQUFrRISHrSHANrTAAFkMARK INr-ALAFpOCCLUSI",
    "ONpDAGESHlODIFIER LETTER EPENTHETIC YUTlARK EPENTHETIC YUTkVOWEL SIGN LONG EvEvOVERLONG AAvLO",
    "NG AAvAAvOVERLONG AvLONG AvAkMODIFIER LETTER SHORT AkVOWEL SIGN SHORT AvLONG UvUkMODIFIER LET",
    "TER IkVOWEL SIGN LONG IvIvOvSUKUNkMARK NEQUDAA"]),
  (0x830, ["aSAMARITAN PUNCTUATION NEQUDAAwAFSAAQxNGEDwBAUwATMAAUwSHIYYAALAAkABBREVIATION MARKkPUN",
    "CTUATION MELODIC QITSAwZIQAAwQITSAwZAEFwTURUwARKAANUwSOF MASHFAATwANNAAU"]),
  (0x840, ["aMANDAIC LETTER HALQApABqGqDqHpUSHENNApAZpITpATTqKSAqKqLqMqNqSpINpAPqSZqQqRqSHqTpDUSHE",
    "NNApKADpAINiAFFRICATION MARKiVOCALIZATION MARKiGEMINATION MARK"]),
  (0x85e, ["aMANDAIC PUNCTUATION"]),
  (0x860, ["aSYRIAC LETTER MALAYALAM NGAyJAyNYAyTTAyNNAbaNAyBHAyRAyLLAbaLAySSA"]),
  (0x870, ["aARABIC LETTER ALEF WITH ATTACHED FATHAbhTOP RIGHT FATHAyRIGHT MIDDLE STROKEyLEFT MIDD",
    "LE STROKEyATTACHED KASRAbhBOTTOM RIGHT KASRAbhROUND DOT ABOVEbiIGHT ROUND DOTbhLEFT ROUND DOT",
    "bhROUND DOT BELOWyDOT ABOVEyATTACHED TOP RIGHT FATHA AND DOT ABOVEyRIGHT MIDDLE STROKE AND DO",
    "T ABOVEyATTACHED BOTTOM RIGHT KASRA AND DOT ABOVEbhTOP RIGHT FATHA AND LEFT RINGyRIGHT MIDDLE",
    " STROKE AND LEFT RINGyATTACHED BOTTOM RIGHT KASRA AND LEFT RINGbhRIGHT HAMZAbhLEFT HAMZAhTATW",
    "EEL WITH OVERSTRUCK HAMZAbfWAWuTWO DOTS BELOWhLETTER THIN YEHhBASELINE ROUND DOThRAISED ROUND",
    " DOThLETTER NOON WITH INVERTED SMALL VoHAH WITH INVERTED SMALL V BELOWoTAH WITH DOT BELOWxTHR",
    "EE DOTS BELOWoKEHEH WITH TWO DOTS VERTICALLY BELOWhVERTICAL TAIL"]),
  (0x890, ["aARABIC POUND MARK ABOVEiIASTRE MARK ABOVE"]),
  (0x898, ["aARABIC SMALL HIGH WORD AL-JUZnLOW WORD ISHMAAMxMAALAwTASHEELhMADDA WAAJIBhSUPERSCRIPT",
    " ALEF MOKHASSAShDOUBLED MADDAhHALF MADDA OVER MADDAhLETTER BEH WITH SMALL V BELOWxHAMZA ABOVE",
    "oJEEM WITH TWO DOTS ABOVEoTAH WITH TWO DOTS ABOVEoFEH WITH DOT BELOW AND THREE DOTS ABOVEoQAF",
    " WITH DOT BELOWoLAM WITH DOUBLE BARoMEEM WITH THREE DOTS ABOVEoYEH WITH TWO DOTS BELOW AND HA",
    "MZA ABOVEbqDOT ABOVEoREH WITH LOOPoWAW WITH DOT WITHINoROHINGYA YEHoLOW ALEFoDAL WITH THREE D",
    "OTS BELOWoSAD WITH THREE DOTS BELOWoGAF WITH INVERTED STROKEoSTRAIGHT WAWoZAIN WITH INVERTED ",
    "V ABOVEoAIN WITH THREE DOTS BELOWoKAF WITH DOT BELOWoQAF WITH DOT BELOW AND NO DOTS ABOVEoBEH",
    " WITH SMALL MEEM ABOVEoPEH WITH SMALL MEEM ABOVEoTEH WITH SMALL TEH ABOVEoREH WITH SMALL NOON",
    " ABOVEoYEH WITH TWO DOTS BELOW AND SMALL NOON ABOVEoAFRICAN FEHwQAFwNOONoPEH WITH SMALL VoTEH",
    " WITH SMALL VpTEH WITH SMALL VpCHEH WITH SMALL VoKEHEH WITH SMALL VoGHAIN WITH THREE DOTS ABO",
    "VEoAFRICAN QAF WITH THREE DOTS ABOVEoJEEM WITH THREE DOTS ABOVEbjBELOWoLAM WITH SMALL ARABIC ",
    "LETTER TAH ABOVEoGRAFhSMALL FARSI YEHnHIGH FARSI YEHsYEH BARREE WITH TWO DOTS BELOWsWORD SAHs",
    "ZAHhLARGE ROUND DOT ABOVExBELOWhSUKUN BELOWhLARGE CIRCLE BELOWnROUND DOT INSIDE CIRCLE BELOWh",
    "SMALL LOW WAWnHIGH WORD AR-RUBsSADsAINsQAFsNOON WITH KASRAnLOW NOON WITH KASRAnHIGH WORD ATH-",
    "THALATHAyS-SAJDAyN-NISFxSAKTAxQIFxWAQFAsFOOTNOTE MARKERsSIGN SAFHAhDISPUTED END OF AYAHhTURNE",
    "D DAMMA BELOWhCURLY FATHAnDAMMAnKASRAnFATHATANnDAMMATANnKASRATANhTONE ONE DOT ABOVEmTWO DOTS ",
    "ABOVEmLOOP ABOVEmONE DOT BELOWmTWO DOTS BELOWmLOOP BELOWhOPEN FATHATANmDAMMATANmKASRATANhSMAL",
    "L HIGH WAWhFATHA WITH RINGsDOT ABOVEhKASRA WITH DOT BELOWhLEFT ARROWHEAD ABOVEhRIGHT ARROWHEA",
    "D ABOVEhLEFT ARROWHEAD BELOWhRIGHT ARROWHEAD BELOWhDOUBLE RIGHT ARROWHEAD ABOVEbj WITH DOThRI",
    "GHT ARROWHEAD ABOVE WITH DOThDAMMA WITH DOThMARK SIDEWAYS NOON GHUNNAaDEVANAGARI SIGN INVERTE",
    "D CANDRABINDUqCANDRABINDUqANUSVARAqVISARGAlLETTER SHORT AsAtAsItIsUtUsVOCALIC RbaLsCANDRA EsS",
    "HORT EsEsAIsCANDRA OsSHORT OsOsAUsKAtHAsGAtHAsNGAsCAtHAsJAtHAsNYAsTTAuHAsDDAuHAsNNAsTAtHAsDAt",
    "HAsNAtNNAsPAtHAsBAtHAsMAsYAsRAtRAsLAtLAuLAsVAsSHAtSAtAsHAlVOWEL SIGN OExOElSIGN NUKTAqAVAGRAH",
    "AlVOWEL SIGN AAwIxIwUxUwVOCALIC RbfRwCANDRA EwSHORT EwEwAIwCANDRA OwSHORT OwOwAUlSIGN VIRAMAl",
    "VOWEL SIGN PRISHTHAMATRA EwAWlOMlSTRESS SIGN UDATTAxANUDATTAlGRAVE ACCENTlACUTE ACCENTlVOWEL ",
    "SIGN CANDRA LONG EwUExUElLETTER QAsKHHAsGHHAsZAsDDDHAsRHAsFAsYYAsVOCALIC RRbaLLlVOWEL SIGN VO",
    "CALIC LbfLlDANDAmOUBLE DANDAmIGIT ZEROrONErTWOsHREErFOURsIVErSIXsEVENrEIGHTrNINElABBREVIATION",
    " SIGNlSIGN HIGH SPACING DOTlLETTER CANDRA AsOEtOEsAWsUEtUEsMARWARI DDAsZHAsHEAVY YAsGGAsJJAsG",
    "LOTTAL STOPsDDDAsBBAaBENGALI ANJIiSIGN CANDRABINDUnANUSVARAnVISARGA"]),
  (0x985, ["aBENGALI LETTER AqApIqIpUqUpVOCALIC RxL"]),
  (0x98f, ["aBENGALI LETTER EpAI"]),
  (0x993, ["aBENGALI LETTER OpAUpKAqHApGAqHApNGApCAqHApJAqHApNYApTTArHApDDArHApNNApTAqHApDAqHApN",
    "A"]),
  (0x9aa, ["aBENGALI LETTER PAqHApBAqHApMApYApRA"]),
  (0x9b2, ["aBENGALI LETTER LA"]),
  (0x9b6, ["aBENGALI LETTER SHAqSAqApHA"]),
  (0x9bc, ["aBENGALI SIGN NUKTAnAVAGRAHAiVOWEL SIGN AAtIuItUuUtVOCALIC RbcR"]),
  (0x9c7, ["aBENGALI VOWEL SIGN EtAI"]),
  (0x9cb, ["aBENGALI VOWEL SIGN OtAUiSIGN VIRAMAiLETTER KHANDA TA"]),
  (0x9d7, ["aBENGALI AU LENGTH MARK"]),
  (0x9dc, ["aBENGALI LETTER RRAqHA"]),
  (0x9df, ["aBENGALI LETTER YYApVOCALIC RRxLLiVOWEL SIGN VOCALIC LbcL"]),
  (0x9e6, ["aBENGALI DIGIT ZEROoONEoTWOpHREEoFOURpIVEoSIXpEVENoEIGHToNINEiLETTER RA WITH MIDDLE DI",
    "AGONALxLOWER DIAGONALiRUPEE MARKoSIGNiCURRENCY NUMERATOR ONEbbTWObcHREEbbFOURbbONE LESS THAN ",
    "THE DENOMINATORrDENOMINATOR SIXTEENiISSHARiGANDA MARKiLETTER VEDIC ANUSVARAiABBREVIATION SIGN",
    "iSANDHI MARK"]),
  (0xa01, ["aGURMUKHI SIGN ADAK BINDIoBINDIoVISARGA"]),
  (0xa05, ["aGURMUKHI LETTER ArAqIrIqUrU"]),
  (0xa0f, ["aGURMUKHI LETTER EEqAI"]),
  (0xa13, ["aGURMUKHI LETTER OOqAUqKArHAqGArHAqNGAqCArHAqJArHAqNYAqTTAsHAqDDAsHAqNNAqTArHAqDArHAqN",
    "A"]),
  (0xa2a, ["aGURMUKHI LETTER PArHAqBArHAqMAqYAqRA"]),
  (0xa32, ["aGURMUKHI LETTER LArLA"]),
  (0xa35, ["aGURMUKHI LETTER VAqSHA"]),
  (0xa38, ["aGURMUKHI LETTER SAqHA"]),
  (0xa3c, ["aGURMUKHI SIGN NUKTA"]),
  (0xa3e, ["aGURMUKHI VOWEL SIGN AAuIvIuUvU"]),
  (0xa47, ["aGURMUKHI VOWEL SIGN EEuAI"]),
  (0xa4b, ["aGURMUKHI VOWEL SIGN OOuAUjSIGN VIRAMA"]),
  (0xa51, ["aGURMUKHI SIGN UDAAT"]),
  (0xa59, ["aGURMUKHI LETTER KHHAqGHHAqZAqRRA"]),
  (0xa5e, ["aGURMUKHI LETTER FA"]),
  (0xa66, ["aGURMUKHI DIGIT ZEROpONEpTWOqHREEpFOURqIVEpSIXqEVENpEIGHTpNINEjTIPPIjADDAKjIRIjURAjEK ",
    "ONKARjSIGN YAKASHjABBREVIATION SIGN"]),
  (0xa81, ["aGUJARATI SIGN CANDRABINDUoANUSVARAoVISARGA"]),
  (0xa85, ["aGUJARATI LETTER ArAqIrIqUrUqVOCALIC RyLjVOWEL CANDRA E"]),
  (0xa8f, ["aGUJARATI LETTER EqAIjVOWEL CANDRA O"]),
  (0xa93, ["aGUJARATI LETTER OqAUqKArHAqGArHAqNGAqCArHAqJArHAqNYAqTTAsHAqDDAsHAqNNAqTArHAqDArHAqN",
    "A"]),
  (0xaaa, ["aGUJARATI LETTER PArHAqBArHAqMAqYAqRA"]),
  (0xab2, ["aGUJARATI LETTER LArLA"]),
  (0xab5, ["aGUJARATI LETTER VAqSHArSArAqHA"]),
  (0xabc, ["aGUJARATI SIGN NUKTAoAVAGRAHAjVOWEL SIGN AAuIvIuUvUuVOCALIC RbdRuCANDRA E"]),
  (0xac7, ["aGUJARATI VOWEL SIGN EuAIuCANDRA O"]),
  (0xacb, ["aGUJARATI VOWEL SIGN OuAUjSIGN VIRAMA"]),
  (0xad0, ["aGUJARATI OM"]),
  (0xae0, ["aGUJARATI LETTER VOCALIC RRyLLjVOWEL SIGN VOCALIC LbdL"]),
  (0xae6, ["aGUJARATI DIGIT ZEROpONEpTWOqHREEpFOURqIVEpSIXqEVENpEIGHTpNINEjABBREVIATION SIGNjRUPEE",
    " SIGN"]),
  (0xaf9, ["aGUJARATI LETTER ZHAjSIGN SUKUNpHADDAoMADDAHoTHREE-DOT NUKTA ABOVEoCIRCLE NUKTA ABOVEo",
    "TWO-CIRCLE NUKTA ABOVE"]),
  (0xb01, ["aORIYA SIGN CANDRABINDUlANUSVARAlVISARGA"]),
  (0xb05, ["aORIYA LETTER AoAnIoInUoUnVOCALIC RvL"]),
  (0xb0f, ["aORIYA LETTER EnAI"]),
  (0xb13, ["aORIYA LETTER OnAUnKAoHAnGAoHAnNGAnCAoHAnJAoHAnNYAnTTApHAnDDApHAnNNAnTAoHAnDAoHAnNA"]),
  (0xb2a, ["aORIYA LETTER PAoHAnBAoHAnMAnYAnRA"]),
  (0xb32, ["aORIYA LETTER LAoLA"]),
  (0xb35, ["aORIYA LETTER VAnSHAoSAoAnHA"]),
  (0xb3c, ["aORIYA SIGN NUKTAlAVAGRAHAgVOWEL SIGN AArIsIrUsUrVOCALIC RbaR"]),
  (0xb47, ["aORIYA VOWEL SIGN ErAI"]),
  (0xb4b, ["aORIYA VOWEL SIGN OrAUgSIGN VIRAMA"]),
  (0xb55, ["aORIYA SIGN OVERLINEgAI LENGTH MARKhU LENGTH MARK"]),
  (0xb5c, ["aORIYA LETTER RRAoHA"]),
  (0xb5f, ["aORIYA LETTER YYAnVOCALIC RRvLLgVOWEL SIGN VOCALIC LbaL"]),
  (0xb66, ["aORIYA DIGIT ZEROmONEmTWOnHREEmFOURnIVEmSIXnEVENmEIGHTmNINEgISSHARgLETTER WAgFRACTION ",
    "ONE QUARTERtHALFpTHREE QUARTERSpONE SIXTEENTHtEIGHTHpTHREE SIXTEENTHS"]),
  (0xb82, ["aTAMIL SIGN ANUSVARAlVISARGA"]),
  (0xb85, ["aTAMIL LETTER AoAnIoInUoU"]),
  (0xb8e, ["aTAMIL LETTER EoEnAI"]),
  (0xb92, ["aTAMIL LETTER OoOnAUnKA"]),
  (0xb99, ["aTAMIL LETTER NGAnCA"]),
  (0xb9c, ["aTAMIL LETTER JA"]),
  (0xb9e, ["aTAMIL LETTER NYAnTTA"]),
  (0xba3, ["aTAMIL LETTER NNAnTA"]),
  (0xba8, ["aTAMIL LETTER NAoNNAnPA"]),
  (0xbae, ["aTAMIL LETTER MAnYAnRAoRAnLAoLApLAnVAnSHAoSAoAnHA"]),
  (0xbbe, ["aTAMIL VOWEL SIGN AArIsIrUsU"]),
  (0xbc6, ["aTAMIL VOWEL SIGN EsErAI"]),
  (0xbca, ["aTAMIL VOWEL SIGN OsOrAUgSIGN VIRAMA"]),
  (0xbd0, ["aTAMIL OM"]),
  (0xbd7, ["aTAMIL AU LENGTH MARK"]),
  (0xbe6, ["aTAMIL DIGIT ZEROmONEmTWOnHREEmFOURnIVEmSIXnEVENmEIGHTmNINEgNUMBER TENnONE HUNDREDrTHO",
    "USANDgDAY SIGNgMONTH SIGNgYEAR SIGNgDEBIT SIGNgCREDIT SIGNgAS ABOVE SIGNgRUPEE SIGNgNUMBER SI",
    "GN"]),
  (0xc00, ["aTELUGU SIGN COMBINING CANDRABINDU ABOVEnANDRABINDUmANUSVARAmVISARGAmCOMBINING ANUSVAR",
    "A ABOVEhLETTER ApAoIpIoUpUoVOCALIC RwL"]),
  (0xc0e, ["aTELUGU LETTER EpEoAI"]),
  (0xc12, ["aTELUGU LETTER OpOoAUoKApHAoGApHAoNGAoCApHAoJApHAoNYAoTTAqHAoDDAqHAoNNAoTApHAoDApHAoN",
    "A"]),
  (0xc2a, ["aTELUGU LETTER PApHAoBApHAoMAoYAoRApRAoLApLAqLAoVAoSHApSApAoHA"]),
  (0xc3c, ["aTELUGU SIGN NUKTAmAVAGRAHAhVOWEL SIGN AAsItIsUtUsVOCALIC RbbR"]),
  (0xc46, ["aTELUGU VOWEL SIGN EtEsAI"]),
  (0xc4a, ["aTELUGU VOWEL SIGN OtOsAUhSIGN VIRAMA"]),
  (0xc55, ["aTELUGU LENGTH MARKhAI LENGTH MARK"]),
  (0xc58, ["aTELUGU LETTER TSAoDZAoRRRA"]),
  (0xc5d, ["aTELUGU LETTER NAKAARA POLLU"]),
  (0xc60, ["aTELUGU LETTER VOCALIC RRwLLhVOWEL SIGN VOCALIC LbbL"]),
  (0xc66, ["aTELUGU DIGIT ZEROnONEnTWOoHREEnFOURoIVEnSIXoEVENnEIGHTnNINE"]),
  (0xc77, ["aTELUGU SIGN SIDDHAMhFRACTION DIGIT ZERO FOR ODD POWERS OF FOURwONE FOR ODD POWERS OF ",
    "FOURwTWO FOR ODD POWERS OF FOURxHREE FOR ODD POWERS OF FOURwONE FOR EVEN POWERS OF FOURwTWO F",
    "OR EVEN POWERS OF FOURxHREE FOR EVEN POWERS OF FOURhSIGN TUUMUaKANNADA SIGN SPACING CANDRABIN",
    "DUnCANDRABINDUnANUSVARAnVISARGAnSIDDHAMiLETTER AqApIqIpUqUpVOCALIC RxL"]),
  (0xc8e, ["aKANNADA LETTER EqEpAI"]),
  (0xc92, ["aKANNADA LETTER OqOpAUpKAqHApGAqHApNGApCAqHApJAqHApNYApTTArHApDDArHApNNApTAqHApDAqHApN",
    "A"]),
  (0xcaa, ["aKANNADA LETTER PAqHApBAqHApMApYApRAqRApLAqLA"]),
  (0xcb5, ["aKANNADA LETTER VApSHAqSAqApHA"]),
  (0xcbc, ["aKANNADA SIGN NUKTAnAVAGRAHAiVOWEL SIGN AAtIuItUuUtVOCALIC RbcR"]),
  (0xcc6, ["aKANNADA VOWEL SIGN EuEtAI"]),
  (0xcca, ["aKANNADA VOWEL SIGN OuOtAUiSIGN VIRAMA"]),
  (0xcd5, ["aKANNADA LENGTH MARKiAI LENGTH MARK"]),
  (0xcdd, ["aKANNADA LETTER NAKAARA POLLUpFA"]),
  (0xce0, ["aKANNADA LETTER VOCALIC RRxLLiVOWEL SIGN VOCALIC LbcL"]),
  (0xce6, ["aKANNADA DIGIT ZEROoONEoTWOpHREEoFOURpIVEoSIXpEVENoEIGHToNINE"]),
  (0xcf1, ["aKANNADA SIGN JIHVAMULIYAnUPADHMANIYA"]),
  (0xd00, ["aMALAYALAM SIGN COMBINING ANUSVARA ABOVEqANDRABINDUpANUSVARApVISARGAkLETTER VEDIC ANUS",
    "VARArAsArIsIrUsUrVOCALIC RzL"]),
  (0xd0e, ["aMALAYALAM LETTER EsErAI"]),
  (0xd12, ["aMALAYALAM LETTER OsOrAUrKAsHArGAsHArNGArCAsHArJAsHArNYArTTAtHArDDAtHArNNArTAsHArDAsHA",
    "rNAsNNArPAsHArBAsHArMArYArRAsRArLAsLAtLArVArSHAsSAsArHArTTTAkSIGN VERTICAL BAR VIRAMApCIRCULA",
    "R VIRAMApAVAGRAHAkVOWEL SIGN AAvIwIvUwUvVOCALIC RbeR"]),
  (0xd46, ["aMALAYALAM VOWEL SIGN EwEvAI"]),
  (0xd4a, ["aMALAYALAM VOWEL SIGN OwOvAUkSIGN VIRAMAkLETTER DOT REPHkSIGN PARA"]),
  (0xd54, ["aMALAYALAM LETTER CHILLU MyYyLLLkAU LENGTH MARKkFRACTION ONE ONE-HUNDRED-AND-SIXTIETHx",
    "FORTIETHtTHREE EIGHTIETHStONE TWENTIETHyENTHtTHREE TWENTIETHStONE FIFTHkLETTER ARCHAIC IIrVOC",
    "ALIC RRzLLkVOWEL SIGN VOCALIC LbeL"]),
  (0xd66, ["aMALAYALAM DIGIT ZEROqONEqTWOrHREEqFOURrIVEqSIXrEVENqEIGHTqNINEkNUMBER TENrONE HUNDRED",
    "vTHOUSANDkFRACTION ONE QUARTERxHALFtTHREE QUARTERStONE SIXTEENTHxEIGHTHtTHREE SIXTEENTHSkDATE",
    " MARKkLETTER CHILLU NNyNyRRyLzLyK"]),
  (0xd81, ["aSINHALA SIGN CANDRABINDUnANUSVARAYAnVISARGAYA"]),
  (0xd85, ["aSINHALA LETTER AYANNAqAYANNAqEYANNArEYANNApIYANNAqIYANNApUYANNAqUYANNApIRUYANNAsUYANN",
    "AqLUYANNAsUYANNApEYANNAqEYANNApAIYANNApOYANNAqOYANNApAUYANNA"]),
  (0xd9a, ["aSINHALA LETTER ALPAPRAANA KAYANNApMAHAAPRAANA KAYANNApALPAPRAANA GAYANNApMAHAAPRAANA ",
    "GAYANNApKANTAJA NAASIKYAYApSANYAKA GAYANNApALPAPRAANA CAYANNApMAHAAPRAANA CAYANNApALPAPRAANA ",
    "JAYANNApMAHAAPRAANA JAYANNApTAALUJA NAASIKYAYAxSANYOOGA NAAKSIKYAYApSANYAKA JAYANNApALPAPRAAN",
    "A TTAYANNApMAHAAPRAANA TTAYANNApALPAPRAANA DDAYANNApMAHAAPRAANA DDAYANNAqUURDHAJA NAYANNApSAN",
    "YAKA DDAYANNApALPAPRAANA TAYANNApMAHAAPRAANA TAYANNApALPAPRAANA DAYANNApMAHAAPRAANA DAYANNApD",
    "ANTAJA NAYANNA"]),
  (0xdb3, ["aSINHALA LETTER SANYAKA DAYANNApALPAPRAANA PAYANNApMAHAAPRAANA PAYANNApALPAPRAANA BAYA",
    "NNApMAHAAPRAANA BAYANNArYANNApAMBA BAYANNApYAYANNApRAYANNA"]),
  (0xdbd, ["aSINHALA LETTER DANTAJA LAYANNA"]),
  (0xdc0, ["aSINHALA LETTER VAYANNApTAALUJA SAYANNApMUURDHAJA SAYANNApDANTAJA SAYANNApHAYANNApMUUR",
    "DHAJA LAYANNApFAYANNA"]),
  (0xdca, ["aSINHALA SIGN AL-LAKUNA"]),
  (0xdcf, ["aSINHALA VOWEL SIGN AELA-PILLAtKETTI AEDA-PILLAtDIGA AEDA-PILLAtKETTI IS-PILLAtDIGA IS",
    "-PILLAtKETTI PAA-PILLA"]),
  (0xdd6, ["aSINHALA VOWEL SIGN DIGA PAA-PILLA"]),
  (0xdd8, ["aSINHALA VOWEL SIGN GAETTA-PILLAtKOMBUVAtDIGA KOMBUVAtKOMBU DEKAyVA HAA AELA-PILLAbfDI",
    "GA AELA-PILLAbfGAYANUKITTAtGAYANUKITTA"]),
  (0xde6, ["aSINHALA LITH DIGIT ZEROtONEtTWOuHREEtFOURuIVEtSIXuEVENtEIGHTtNINE"]),
  (0xdf2, ["aSINHALA VOWEL SIGN DIGA GAETTA-PILLAbaYANUKITTAiPUNCTUATION KUNDDALIYA"]),
  (0xe01, ["aTHAI CHARACTER KO KAIqHO KHAIvUATvWAIvONtRAKHANGpNGO NGUpCHO CHANvINGvANGpSO SOpCHO C",
    "HOEpYO YINGpDO CHADApTO PATAKqHO THANtNANGMONTHOtPHUTHAOpNO NENpDO DEKpTO TAOqHO THUNGvAHANvO",
    "NGpNO NUpBO BAIMAIpPO PLAqHO PHUNGpFO FApPHO PHANpFO FANpPHO SAMPHAOpMO MApYO YAKpRO RUAqUpLO",
    " LINGqUpWO WAENpSO SALAsRUSIsSUApHO HIPpLO CHULApO ANGpHO NOKHUKpPAIYANNOIpSARA ApMAI HAN-AKA",
    "TpSARA AAvMuIvIuUEwEuUvUpPHINTHU"]),
  (0xe3f, ["aTHAI CURRENCY SYMBOL BAHTgHARACTER SARA EuAEuOuAI MAIMUANbbALAIpLAKKHANGYAOpMAIYAMOKs",
    "TAIKHUs EKtTHOuRItCHATTAWApTHANTHAKHATpNIKHAHITpYAMAKKANpFONGMANfDIGIT ZEROlONElTWOmHREElFOUR",
    "mIVElSIXmEVENlEIGHTlNINEfCHARACTER ANGKHANKHUpKHOMUT"]),
  (0xe81, ["aLAO LETTER KOmHO SUNG"]),
  (0xe84, ["aLAO LETTER KHO TAM"]),
  (0xe86, ["aLAO LETTER PALI GHAlNGOlCOlPALI CHAlSO TAM"]),
  (0xe8c, ["aLAO LETTER PALI JHAlNYOlPALI NYAqTTAsHAqDDAsHAqNNAlDOlTOmHO SUNGpTAMlPALI DHAlNOlBOlP",
    "OmHO SUNGlFO TAMlPHO TAMlFO SUNGlPALI BHAlMOlYOlLO LING"]),
  (0xea5, ["aLAO LETTER LO LOOT"]),
  (0xea7, ["aLAO LETTER WOlSANSKRIT SHAvSAmO SUNGlHO SUNGlPALI LLAlOlHO TAMeELLIPSISeVOWEL SIGN Ap",
    "MAI KANpAAqMpIqIpYqYpUqUeSIGN PALI VIRAMAeVOWEL SIGN MAI KONeSEMIVOWEL SIGN LOtNYO"]),
  (0xec0, ["aLAO VOWEL SIGN EqIpOpAYqI"]),
  (0xec6, ["aLAO KO LA"]),
  (0xec8, ["aLAO TONE MAI EKnTHOoInCATAWAeCANCELLATION MARKeNIGGAHITA"]),
  (0xed0, ["aLAO DIGIT ZEROkONEkTWOlHREEkFOURlIVEkSIXlEVENkEIGHTkNINE"]),
  (0xedc, ["aLAO HO NOhMOeLETTER KHMU GOqNYO"]),
  (0xf00, ["aTIBETAN SYLLABLE OMiMARK GTER YIG MGO TRUNCATED Aba-UM RNAM BCAD MAbeGTER TSHEG MAnIN",
    "ITIAL YIG MGO MDUN MAnCLOSING YIG MGO SGAB MAoARET YIG MGO PHUR SHAD MAnYIG MGO TSHEG SHAD MA",
    "nSBRUL SHADnBSKUR YIG MGOoKA- SHOG YIG MGOnINTERSYLLABIC TSHEGnDELIMITER TSHEG BSTARnSHADnNYI",
    "S SHADnTSHEG SHADnNYIS TSHEG SHADnRIN CHEN SPUNGS SHADoGYA GRAM SHADnCARET -DZUD RTAGS ME LON",
    "G CANnGTER TSHEGiLOGOTYPE SIGN CHAD RTAGSwLHAG RTAGSiASTROLOGICAL SIGN SGRA GCAN -CHAR RTAGSb",
    "a-KHYUD PAbaSDONG TSHUGSiSIGN RDEL DKAR GCIGyNYISySUMsNAG GCIGxNYISsDKAR RDEL NAGiDIGIT ZEROo",
    "ONEoTWOpHREEoFOURpIVEoSIXpEVENoEIGHToNINEoHALF ONEtTWOuHREEtFOURuIVEtSIXuEVENtEIGHTtNINEtZERO",
    "iMARK BSDUS RTAGSnNGAS BZUNG NYI ZLAnCARET -DZUD RTAGS BZHI MIG CANnNGAS BZUNG SGOR RTAGSnCHE",
    " MGOnTSA -PHRUnGUG RTAGS GYONzASnANG KHANG GYONzASiSIGN YAR TSHESnMAR TSHESiLETTER KAqHApGAqH",
    "ApNGApCAqHApJA"]),
  (0xf49, ["aTIBETAN LETTER NYApTTArHApDDArHApNNApTAqHApDAqHApNApPAqHApBAqHApMApTSArHApDZArHApWApZ",
    "HAqAp-ApYApRApLApSHAqSAqApHApApKSSApFIXED-FORM RApKKApRRA"]),
  (0xf71, ["aTIBETAN VOWEL SIGN AAtIuItUuUtVOCALIC RbcRbbLbcLtEuEtOuOiSIGN RJES SU NGA ROoNAM BCAD",
    "iVOWEL SIGN REVERSED IbdIiSIGN NYI ZLA NAA DAnSNA LDANiMARK HALANTAnPALUTAiSIGN LCI RTAGSnYAN",
    "G RTAGSnLCE TSA CANnMCHU CANnGRU CAN RGYINGSrMED RGYINGSnINVERTED MCHU CANjUBJOINED SIGN LCE ",
    "TSA CANxMCHU CANxINVERTED MCHU CANsLETTER KAbaHAzGAbaHAzNGAzCAbaHAzJA"]),
  (0xf99, ["aTIBETAN SUBJOINED LETTER NYAzTTAbbHAzDDAbbHAzNNAzTAbaHAzDAbaHAzNAzPAbaHAzBAbaHAzMAzTS",
    "AbbHAzDZAbbHAzWAzZHAbaAz-AzYAzRAzLAzSHAbaSAbaAzHAzAzKSSAzFIXED-FORM WAbkYAbkRA"]),
  (0xfbe, ["aTIBETAN KU RU KHAr BZHI MIG CANiCANTILLATION SIGN HEAVY BEATbaLIGHT BEATbaCANG TE-Uba",
    "SBUB -CHALiSYMBOL DRIL BUpRDO RJEpPADMA GDANpRDO RJE RGYA GRAMpPHUR PApNOR BUv NYIS -KHYILwGS",
    "UM -KHYILwBZHI -KHYIL"]),
  (0xfce, ["aTIBETAN SIGN RDEL NAG RDEL DKARwGSUMiMARK BSKA- SHOG GI MGO RGYANnMNYAM YIG GI MGO RG",
    "YANnNYIS TSHEGnINITIAL BRDA RNYING YIG MGO MDUN MAnCLOSING BRDA RNYING YIG MGO SGAB MAaRIGHT-",
    "FACING SVASTI SIGNaLEFT-FACING SVASTI SIGNaRIGHT-FACING SVASTI SIGN WITH DOTSaLEFT-FACING SVA",
    "STI SIGN WITH DOTSaTIBETAN MARK LEADING MCHAN RTAGSnTRAILING MCHAN RTAGS"])]

end TreePredicate.Text.CharacterName
