/-!
# Names of characters from `0x1000` up to `0x1fff`
-/

set_option autoImplicit false

namespace TreePredicate.Text.CharacterName

/-- Runs of characters from `0x1000` up to `0x1fff`: where each starts, and the lines in which its
names are written. -/
def syllabaries : List (Nat × List String) := [
  (0x1000, ["aMYANMAR LETTER KAqHApGAqHApNGApCAqHApJAqHApNYAqNYApTTArHApDDArHApNNApTAqHApDAqHApNAp",
    "PAqHApBAqHApMApYApRApLApWApSApHApLLApApSHAN ApIqIpUqUpEpMON EpOpAUiVOWEL SIGN TALL AAtAAtIuIt",
    "UuUtEtAItMON IIxOtE ABOVEiSIGN ANUSVARAnDOT BELOWnVISARGApRAMAnASATiCONSONANT SIGN MEDIAL YAb",
    "eRAbeWAbeHAiLETTER GREAT SAiDIGIT ZEROoONEoTWOpHREEoFOURpIVEoSIXpEVENoEIGHToNINEiSIGN LITTLE ",
    "SECTIONnSECTIONjYMBOL LOCATIVEpCOMPLETEDpAFOREMENTIONEDpGENITIVEiLETTER SHAqSApVOCALIC RyRxLy",
    "LiVOWEL SIGN VOCALIC RbcRbbLbcLiLETTER MON NGAtJHAtBBAvEiCONSONANT SIGN MON MEDIAL NAbiMAbiLA",
    "iLETTER SGAW KAREN SHAiVOWEL SIGN SGAW KAREN EUiTONE MARK SGAW KAREN HATHIbdKE PHOiLETTER WES",
    "TERN PWO KAREN THAbhPWAiVOWEL SIGN WESTERN PWO KAREN EUblUEiSIGN WESTERN PWO KAREN TONE-1bk2b",
    "k3bk4bk5iLETTER EASTERN PWO KAREN NNAbhYWAbhGHWAiVOWEL SIGN GEBA KAREN ItKAYAH OEzUzEEiLETTER",
    " SHAN KAvHAuGAuCAuZAuNYAuDAuNAuPHAuFAuBAuTHAuHAiCONSONANT SIGN SHAN MEDIAL WAiVOWEL SIGN SHAN",
    " AAyEz ABOVEyFINAL YiSIGN SHAN TONE-2x3x5x6sCOUNCIL TONE-2bf3baEMPHATIC TONEiLETTER RUMAI PAL",
    "AUNG FAiSIGN RUMAI PALAUNG TONE-5jHAN DIGIT ZEROtONEtTWOuHREEtFOURuIVEtSIXuEVENtEIGHTtNINEjIG",
    "N KHAMTI TONE-1z3iVOWEL SIGN AITON AbaIiSYMBOL SHAN ONEuEXCLAMATIONaGEORGIAN CAPITAL LETTER A",
    "NyBANyGANyDONyENyVINyZENyTANyINyKANyLASyMANyNARyONyPARyZHARyRAEySANyTARyUNyPHARyKHARyGHANyQAR",
    "ySHINyCHINzANyJILyCILzHARyXANyJHANyHAEzEzIEyWEyHARzOE"]),
  (0x10c7, ["aGEORGIAN CAPITAL LETTER YN"]),
  (0x10cd, ["aGEORGIAN CAPITAL LETTER AEN"]),
  (0x10d0, ["aGEORGIAN LETTER ANqBANqGANqDONqENqVINqZENqTANqINqKANqLASqMANqNARqONqPARqZHARqRAEqSAN",
    "qTARqUNqPHARqKHARqGHANqQARqSHINqCHINrANqJILqCILrHARqXANqJHANqHAErErIEqWEqHARrOEqFIqYNqELIFIqT",
    "URNED GANqAINjPARAGRAPH SEPARATORaMODIFIER LETTER GEORGIAN NARaGEORGIAN LETTER AENqHARD SIGNq",
    "LABIAL SIGNaHANGUL CHOSEONG KIYEOKqSSANGKIYEOKqNIEUNqTIKEUTqSSANGTIKEUTqRIEULqMIEUMqPIEUPqSSA",
    "NGPIEUPrIOSrSANGSIOSqIEUNGqCIEUCqSSANGCIEUCqCHIEUCHqKHIEUKHqTHIEUTHqPHIEUPHqHIEUHqNIEUN-KIYEO",
    "KqSSANGNIEUNqNIEUN-TIKEUTwPIEUPqTIKEUT-KIYEOKqRIEUL-NIEUNqSSANGRIEULqRIEUL-HIEUHqKAPYEOUNRIEU",
    "LqMIEUM-PIEUPqKAPYEOUNMIEUMqPIEUP-KIYEOKwNIEUNwTIKEUTwSIOSba-KIYEOKbbTIKEUTbbPIEUPxSANGSIOSxI",
    "OS-CIEUCwCIEUCxHIEUCHwTHIEUTHwPHIEUPHqKAPYEOUNPIEUPySSANGPIEUPqSIOS-KIYEOKvNIEUNvTIKEUTvRIEUL",
    "vMIEUMvPIEUPba-KIYEOKvSSANGSIOSvIEUNGvCIEUCwHIEUCHvKHIEUKHvTHIEUTHvPHIEUPHvHIEUHqCHITUEUMSIOS",
    "zSANGSIOSrEONGCHIEUMSIOSbcSANGSIOSqPANSIOSqIEUNG-KIYEOKwTIKEUTwMIEUMwPIEUPwSIOSwPANSIOSqSSANG",
    "IEUNGqIEUNG-CIEUCxHIEUCHwTHIEUTHwPHIEUPHqYESIEUNGqCIEUC-IEUNGrHITUEUMCIEUCySSANGCIEUCrEONGCHI",
    "EUMCIEUCbbSSANGCIEUCrHIEUCH-KHIEUKHyHIEUHtTUEUMCHIEUCHrEONGCHIEUMCHIEUCHqPHIEUPH-PIEUPqKAPYEO",
    "UNPHIEUPHqSSANGHIEUHqYEORINHIEUHqKIYEOK-TIKEUTqNIEUN-SIOSwCIEUCwHIEUHqTIKEUT-RIEULqFILLERhJUN",
    "GSEONG FILLERrAsErYAtErEOrErYEOsErOrWAtErOErYOrUrWEOsEsIrYUrEUrYIrIrA-OtUrYA-OuYOrEO-OuUuEUrY",
    "EO-OvUrO-EOtEtYEtOtUrYO-YAwEvEOuOuIrU-AuEtEO-EUtYEtUrYU-AuEOuEuYEOvEuUuIrEU-UuEUrYI-UrI-AtYAt",
    "OtUtEUtARAEArARAEAw-EOxUxIrSSANGARAEArA-EUrYA-UsEO-YArO-YAvEiONGSEONG KIYEOKrSSANGKIYEOKrKIYE",
    "OK-SIOSrNIEUNw-CIEUCxHIEUHrTIKEUTrRIEULw-KIYEOKxMIEUMxPIEUPxSIOSxTHIEUTHxPHIEUPHxHIEUHrMIEUMr",
    "PIEUPw-SIOSrSIOSsSANGSIOSrIEUNGrCIEUCsHIEUCHrKHIEUKHrTHIEUTHrPHIEUPHrHIEUHrKIYEOK-RIEULySIOS-",
    "KIYEOKrNIEUN-KIYEOKxTIKEUTxSIOSxPANSIOSxTHIEUTHrTIKEUT-KIYEOKyRIEULrRIEUL-KIYEOK-SIOSxNIEUNxT",
    "IKEUTbd-HIEUHrSSANGRIEULrRIEUL-MIEUM-KIYEOKbdSIOSxPIEUP-SIOSbdHIEUHxKAPYEOUNPIEUPxSSANGSIOSxP",
    "ANSIOSxKHIEUKHxYEORINHIEUHrMIEUM-KIYEOKxRIEULxPIEUPxSIOSySANGSIOSxPANSIOSxCHIEUCHxHIEUHrKAPYE",
    "OUNMIEUMrPIEUP-RIEULxPHIEUPHxHIEUHrKAPYEOUNPIEUPrSIOS-KIYEOKwTIKEUTwRIEULwPIEUPrPANSIOSrIEUNG",
    "-KIYEOKxSSANGKIYEOKrSSANGIEUNGrIEUNG-KHIEUKHrYESIEUNGz-SIOSbaPANSIOSrPHIEUPH-PIEUPrKAPYEOUNPH",
    "IEUPHrHIEUH-NIEUNxRIEULxMIEUMxPIEUPrYEORINHIEUHrKIYEOK-NIEUNyPIEUPyCHIEUCHyKHIEUKHyHIEUHrSSAN",
    "GNIEUNaETHIOPIC SYLLABLE HAtUtItAAtEEtEtOuAsLAtUtItAAtEEtEtOtWAsHHAuUuIuAAuEEuEuOuWAsMAtUtItA",
    "AtEEtEtOtWAsSZAuUuIuAAuEEuEuOuWAsRAtUtItAAtEEtEtOtWAsSAtUtItAAtEEtEtOtWAtHAuUuIuAAuEEuEuOuWAs",
    "QAtUtItAAtEEtEtOuAtWA"]),
  (0x124a, ["aETHIOPIC SYLLABLE QWIuAAuEEuE"]),
  (0x1250, ["aETHIOPIC SYLLABLE QHAuUuIuAAuEEuEuO"]),
  (0x1258, ["aETHIOPIC SYLLABLE QHWA"]),
  (0x125a, ["aETHIOPIC SYLLABLE QHWIvAAvEEvE"]),
  (0x1260, ["aETHIOPIC SYLLABLE BAtUtItAAtEEtEtOtWAsVAtUtItAAtEEtEtOtWAsTAtUtItAAtEEtEtOtWAsCAtUtI",
    "tAAtEEtEtOtWAsXAtUtItAAtEEtEtOuAtWA"]),
  (0x128a, ["aETHIOPIC SYLLABLE XWIuAAuEEuE"]),
  (0x1290, ["aETHIOPIC SYLLABLE NAtUtItAAtEEtEtOtWAtYAuUuIuAAuEEuEuOuWAsGLOTTAL AbaUbaIbaAAbaEEbaE",
    "baObaWAsKAtUtItAAtEEtEtOuAtWA"]),
  (0x12b2, ["aETHIOPIC SYLLABLE KWIuAAuEEuE"]),
  (0x12b8, ["aETHIOPIC SYLLABLE KXAuUuIuAAuEEuEuO"]),
  (0x12c0, ["aETHIOPIC SYLLABLE KXWA"]),
  (0x12c2, ["aETHIOPIC SYLLABLE KXWIvAAvEEvE"]),
  (0x12c8, ["aETHIOPIC SYLLABLE WAtUtItAAtEEtEtOuAsPHARYNGEAL AbdUbdIbdAAbdEEbdEbdO"]),
  (0x12d8, ["aETHIOPIC SYLLABLE ZAtUtItAAtEEtEtOtWAtHAuUuIuAAuEEuEuOuWAsYAtUtItAAtEEtEtOuAsDAtUtIt",
    "AAtEEtEtOtWAtDAuUuIuAAuEEuEuOuWAsJAtUtItAAtEEtEtOtWAsGAtUtItAAtEEtEtOuAtWA"]),
  (0x1312, ["aETHIOPIC SYLLABLE GWIuAAuEEuE"]),
  (0x1318, ["aETHIOPIC SYLLABLE GGAuUuIuAAuEEuEuOuWAAsTHAuUuIuAAuEEuEuOuWAsCHAuUuIuAAuEEuEuOuWAsPH",
    "AuUuIuAAuEEuEuOuWAsTSAuUuIuAAuEEuEuOuWAtZAuUuIuAAuEEuEuOvAsFAtUtItAAtEEtEtOtWAsPAtUtItAAtEEtE",
    "tOtWAsRYAsMYAsFYA"]),
  (0x135d, ["aETHIOPIC COMBINING GEMINATION AND VOWEL LENGTH MARKtVOWEL LENGTH MARKtGEMINATION MAR",
    "KjSECTION MARKjWORDSPACEjFULL STOPjCOMMAjSEMICOLONjCOLONjPREFACE COLONjQUESTION MARKjPARAGRAP",
    "H SEPARATORjDIGIT ONEpTWOqHREEpFOURqIVEpSIXqEVENpEIGHTpNINEjNUMBER TENrWENTYrHIRTYqFORTYrIFTY",
    "qSIXTYrEVENTYqEIGHTYqNINETYqHUNDREDqTEN THOUSAND"]),
  (0x1380, ["aETHIOPIC SYLLABLE SEBATBEIT MWAsMWIuEEuEsSEBATBEIT BWAsBWIuEEuEsSEBATBEIT FWAsFWIuEE",
    "uEsSEBATBEIT PWAsPWIuEEuEjTONAL MARK YIZETuDERETuRIKRIKuSHORT RIKRIKuDIFATuKENATuCHIRETuHIDET",
    "uDERET-HIDETuKURT"]),
  (0x13a0, ["aCHEROKEE LETTER AqEqIqOqUqVqGAqKAqGErIrOrUrVqHArErIrOrUrVqLArErIrOrUrVqMArErIrOrUqNA",
    "qHNAqNAHrErIrOrUrVqQUAsEsIsOsUsVqSAqSrErIrOrUrVqDAqTAqDEqTEqDIqTIqDOrUrVrLAqTLAsEsIsOsUsVrSAs",
    "EsIsOsUsVqWArErIrOrUrVqYArErIrOrUrVqMV"]),
  (0x13f8, ["aCHEROKEE SMALL LETTER YExIxOxUxVwMV"]),
  (0x1400, ["aCANADIAN SYLLABICS HYPHENtEtAAItIuItOuOtY-CREE OOtCARRIER EEbbItAuAtWEvST-CREE WEuIu",
    "EST-CREE WIuIIuEST-CREE WIIuOuEST-CREE WOuOOuEST-CREE WOOtNASKAPI WOOtWAuEST-CREE WAuAAuEST-C",
    "REE WAAtNASKAPI WAAtAItY-CREE WtGLOTTAL STOPtFINAL ACUTEzGRAVEzBOTTOM HALF RINGzTOP HALF RING",
    "zRIGHT HALF RINGbbNGzDOUBLE ACUTEbgSHORT VERTICAL STROKESzMIDDLE DOTzSHORT HORIZONTAL STROKEz",
    "PLUSzDOWN TACKtENtINtONtANtPEuAAIuIvIuOvOtY-CREE POOtCARRIER HEEbcItPAvAuWEtWEST-CREE PWEtPWI",
    "tWEST-CREE PWItPWIItWEST-CREE PWIItPWOtWEST-CREE PWOtPWOOtWEST-CREE PWOOtPWAtWEST-CREE PWAtPW",
    "AAtWEST-CREE PWAAtY-CREE PWAAtPtWEST-CREE PtCARRIER HtTEuAAIuIvIuOvOtY-CREE TOOtCARRIER DEEbc",
    "ItTAvAuWEtWEST-CREE TWEtTWItWEST-CREE TWItTWIItWEST-CREE TWIItTWOtWEST-CREE TWOtTWOOtWEST-CRE",
    "E TWOOtTWAtWEST-CREE TWAtTWAAtWEST-CREE TWAAtNASKAPI TWAAtTuTEvIvOvAtKEuAAIuIvIuOvOtY-CREE KO",
    "OtKAvAuWEtWEST-CREE KWEtKWItWEST-CREE KWItKWIItWEST-CREE KWIItKWOtWEST-CREE KWOtKWOOtWEST-CRE",
    "E KWOOtKWAtWEST-CREE KWAtKWAAtWEST-CREE KWAAtNASKAPI KWAAtKuWtSOUTH-SLAVEY KEHbhIHbhOHbhAHtCE",
    "uAAIuIvIuOvOtY-CREE COOtCAvAuWEtWEST-CREE CWEtCWItWEST-CREE CWItCWIItWEST-CREE CWIItCWOtWEST-",
    "CREE CWOtCWOOtWEST-CREE CWOOtCWAtWEST-CREE CWAtCWAAtWEST-CREE CWAAtNASKAPI CWAAtCtSAYISI THtM",
    "EuAAIuIvIuOvOtY-CREE MOOtMAvAuWEtWEST-CREE MWEtMWItWEST-CREE MWItMWIItWEST-CREE MWIItMWOtWEST",
    "-CREE MWOtMWOOtWEST-CREE MWOOtMWAtWEST-CREE MWAtMWAAtWEST-CREE MWAAtNASKAPI MWAAtMtWEST-CREE ",
    "MtMHtATHAPASCAN MtSAYISI MtNEuAAIuIvIuOvOtY-CREE NOOtNAvAuWEtWEST-CREE NWEtNWAtWEST-CREE NWAt",
    "NWAAtWEST-CREE NWAAtNASKAPI NWAAtNtCARRIER NGtNHtLEuAAIuIvIuOvOtY-CREE LOOtLAvAuWEtWEST-CREE ",
    "LWEtLWItWEST-CREE LWItLWIItWEST-CREE LWIItLWOtWEST-CREE LWOtLWOOtWEST-CREE LWOOtLWAtWEST-CREE",
    " LWAtLWAAtWEST-CREE LWAAtLtWEST-CREE LtMEDIAL LtSEuAAIuIvIuOvOtY-CREE SOOtSAvAuWEtWEST-CREE S",
    "WEtSWItWEST-CREE SWItSWIItWEST-CREE SWIItSWOtWEST-CREE SWOtSWOOtWEST-CREE SWOOtSWAtWEST-CREE ",
    "SWAtSWAAtWEST-CREE SWAAtNASKAPI SWAAtStATHAPASCAN StSWtBLACKFOOT StMOOSE-CREE SKtNASKAPI SKWb",
    "c-WbcPWAbcTWAbcKWAbcCWAtSHEvIwIvOwOvAwAvWEtWEST-CREE SHWEtSHWItWEST-CREE SHWItSHWIItWEST-CREE",
    " SHWIItSHWOtWEST-CREE SHWOtSHWOOtWEST-CREE SHWOOtSHWAtWEST-CREE SHWAtSHWAAtWEST-CREE SHWAAtSH",
    "tYEuAAIuIvIuOvOu-CREE YOOuAvAuWEtWEST-CREE YWEtYWItWEST-CREE YWItYWIItWEST-CREE YWIItYWOtWEST",
    "-CREE YWOtYWOOtWEST-CREE YWOOtYWAtWEST-CREE YWAtYWAAtWEST-CREE YWAAtNASKAPI YWAAtYtBIBLE-CREE",
    " YtWEST-CREE YtSAYISI YItREu-CREE REtWEST-CREE LEtRAAIuIvIuOvOtWEST-CREE LOtRAvAtWEST-CREE LA",
    "tRWAAtWEST-CREE RWAAtRtWEST-CREE RtMEDIAL RtFEuAAIuIvIuOvOuAvAuWAAtWEST-CREE FWAAtFtTHEtN-CRE",
    "E THEtTHItN-CREE THItTHIItN-CREE THIItTHOwOvAwAvWAAtWEST-CREE THWAAtTHuTHEwIwOwAvHuYEvIvOvAtN",
    "UNAVIK HEbcIbdIbcObdObcAbdAbbHyUT HtHKtQAAIuIvIuOvOuAvAtQtTLHEwIwOwAtWEST-CREE REbeIbeObeAtNG",
    "AAIvIwIvOwOvAwAuGuNGtSAYISI SHEbcIbcObcAtWOODS-CREE THEbgIbgObgAbfHtLHIwIvOwOvAwAuHtTH-CREE T",
    "HEbdIbeIbdObeObdAbeAbcHtAIVILIK BtBLACKFOOT EbdIbdObdAbdWEbeIbeObeAbdNEbeIbeObeAbdKEbeIbeObeA",
    "tSAYISI HEbbIbbObbAtCARRIER GHUbdObdEbeEbdIbdAbbRUbcObcEbdEbcIbcAbbWUbcObcEbdEbcIbcAbbHWUbdOb",
    "dEbeEbdIbdAbbTHUbdObdEbeEbdIbdAbcTUbdObdEbeEbdIbdAbbPUbcObcEbdEbcIbcAbbPbbGUbcObcEbdEbcIbcAbb",
    "KHUbdObdEbeEbdIbdAbcKUbdObdEbeEbdIbdAbcKbbNUbcObcEbdEbcIbcAbbMUbcObcEbdEbcIbcAbbYUbcObcEbdEbc",
    "IbcAbbJUtSAYISI JUtCARRIER JObcEbdEbcItSAYISI JItCARRIER JAbcJUbdObdEbeEbdIbdAbbLUbcObcEbdEbc",
    "IbcAbbDLUbdObdEbeEbdIbdAbbLHUbdObdEbeEbdIbdAbbTLHUbeObeEbfEbeIbeAbdUbdObdEbeEbdIbdAbbZUbcObcE",
    "bdEbcIbcAbbZbbINITIAL ZbbDZUbdObdEbeEbdIbdAbbSUbcObcEbdEbcIbcAbcHUbdObdEbeEbdIbdAbcHbbTSUbdOb",
    "dEbeEbdIbdAbbCHUbdObdEbeEbdIbdAbbTTSUbeObeEbfEbeIbeAuHI SIGNtFULL STOPtQAItNGAIuNGIxIwOxOwAxA",
    "tWOODS-CREE THWEEbhIbiIbhObiObhAbiAbeFINAL THtBLACKFOOT WaOGHAM SPACE MARKgLETTER BEITHnLUISn",
    "FEARNnSAILnNIONnUATHnDAIRnTINNEnCOLLoEIRTnMUINnGORTnNGEADALnSTRAIFnRUISnAILMnONNnURnEADHADHnI",
    "ODHADHnEABHADHnORnUILLEANNnIFINnEAMHANCHOLLnPEITHgFEATHER MARKgREVERSED FEATHER MARK"]),
  (0x16a0, ["aRUNIC LETTER FEHU FEOH FE FnVnURUZ UR UnYRnYnWnTHURISAZ THURS THORNnETHnANSUZ AnOS O",
    "nAC AoESCnLONG-BRANCH-OSS OnSHORT-TWIG-OSS OnOoEoNnRAIDO RAD REID RnKAUNAnCENnKAUN KnGnENGnGE",
    "BO GYFU GoARnWUNJO WYNN WnHAGLAZ HpEGL HnLONG-BRANCH-HAGALL HnSHORT-TWIG-HAGALL HnNAUDIZ NYD ",
    "NAUD NnSHORT-TWIG-NAUD NnDOTTED-NnISAZ IS ISS InEnJERAN JnGERnLONG-BRANCH-AR AEnSHORT-TWIG-AR",
    " AnIWAZ EOHnPERTHO PEORTH PnALGIZ EOLHXnSOWILO SoIGEL LONG-BRANCH-SOL SoHORT-TWIG-SOL SnCnZnT",
    "IWAZ TIR TYR TnSHORT-TWIG-TYR TnDnBERKANAN BEORC BJARKAN BnSHORT-TWIG-BJARKAN BnDOTTED-PnOPEN",
    "-PnEHWAZ EH EnMANNAZ MAN MnLONG-BRANCH-MADR MnSHORT-TWIG-MADR MnLAUKAZ LAGU LOGR LnDOTTED-LnI",
    "NGWAZpGnDAGAZ DAEG DnOTHALAN ETHEL OnEARnIORnCWEORTHoALCoEALCnSTANnLONG-BRANCH-YRnSHORT-TWIG-",
    "YRnICELANDIC-YRnQnXgSINGLE PUNCTUATIONgMULTIPLE PUNCTUATIONgCROSS PUNCTUATIONgARLAUG SYMBOLgT",
    "VIMADUR SYMBOLgBELGTHOR SYMBOLgLETTER KnSHnOOnFRANKS CASKET OSbbISbbEHbbACbcESC"]),
  (0x1700, ["aTAGALOG LETTER ApIpUpKApGApNGApTApDApNApPApBApMApYApRApLApWApSApHAiVOWEL SIGN ItUiSI",
    "GN VIRAMAnPAMUDPOD"]),
  (0x171f, ["aTAGALOG LETTER ARCHAIC RAaHANUNOO LETTER ApIpUpKApGApNGApTApDApNApPApBApMApYApRApLAp",
    "WApSApHAiVOWEL SIGN ItUiSIGN PAMUDPODaPHILIPPINE SINGLE PUNCTUATIONlDOUBLE PUNCTUATION"]),
  (0x1740, ["aBUHID LETTER AnInUnKAnGAnNGAnTAnDAnNAnPAnBAnMAnYAnRAnLAnWAnSAnHAgVOWEL SIGN IrU"]),
  (0x1760, ["aTAGBANWA LETTER AqIqUqKAqGAqNGAqTAqDAqNAqPAqBAqMAqYA"]),
  (0x176e, ["aTAGBANWA LETTER LAqWAqSA"]),
  (0x1772, ["aTAGBANWA VOWEL SIGN IuU"]),
  (0x1780, ["aKHMER LETTER KAoHAoOoHOnNGOnCAoHAoOoHOnNYOnDAnTTHAnDOnTTHOnNNOnTAoHAoOoHOnNOnBAnPHAo",
    "OoHOnMOnYOnROnLOnVOnSHAoSOoAnHAnLAnQAgINDEPENDENT VOWEL QAQbaAzIbaIzUbaKbaUbbVyRYbaYyLYbaYyQE",
    "zAIzOO TYPE ONEbhTWOzAUgVOWEL INHERENT AQwAmSIGN AArIsIrYsYrUsUsArOErYArIErErAEsIrOOrAUgSIGN ",
    "NIKAHITlREAHMUKlYUUKALEAPINTUlMUUSIKATOANlTRIISAPlBANTOClROBATlTOANDAKHIATlKAKABATlAHSDAlSAMY",
    "OK SANNYAlVIRIAMlCOENGlBATHAMASATlKHANlBARIYOOSANlCAMNUC PII KUUHlLEK TOOlBEYYALlPHNAEK MUANl",
    "KOOMUUTgCURRENCY SYMBOL RIELgSIGN AVAKRAHASANYAmTTHACAN"]),
  (0x17e0, ["aKHMER DIGIT ZEROmONEmTWOnHREEmFOURnIVEmSIXnEVENmEIGHTmNINE"]),
  (0x17f0, ["aKHMER SYMBOL LEK ATTAK SONxMUOYxPIIxBEIyUONxPRAMbb-MUOYbcPIIbcBEIbdUON"]),
  (0x1800, ["aMONGOLIAN BIRGAkELLIPSISkCOMMAkFULL STOPkCOLONkFOUR DOTSkTODO SOFT HYPHENkSIBE SYLLA",
    "BLE BOUNDARY MARKERkMANCHU COMMArFULL STOPkNIRUGUkFREE VARIATION SELECTOR ONEbiTWObjHREEkVOWE",
    "L SEPARATORkFREE VARIATION SELECTOR FOURkDIGIT ZEROqONEqTWOrHREEqFOURrIVEqSIXrEVENqEIGHTqNIN",
    "E"]),
  (0x1820, ["aMONGOLIAN LETTER ArErIrOrUrOErUErEErNArANGrBArPArQArGArMArLArSAsHArTArDArCHArJArYArR",
    "ArWArFArKAsHArTSArZArHAArZRArLHArZHIrCHIrTODO LONG VOWEL SIGNwEwIwOwUwOEwUEwANGwBAwPAwQAwGAwM",
    "AwTAwDAwCHAwJAwTSAwYAwWAwKAwGAAwHAAwJIAwNIAwDZArSIBE EwIxYwUEwUwANGwKAwGAwHAwPAwSHAwTAwDAwJAw",
    "FAwGAAwHAAwTSAwZAwRAAwCHAwZHArMANCHU IyKAyRAyFAyZHArCHA WITH TWO DOTS"]),
  (0x1880, ["aMONGOLIAN LETTER ALI GALI ANUSVARA ONEbaVISARGA ONEbaDAMARUbaUBADAMAbaINVERTED UBADA",
    "MAbaBALUDAbaTHREE BALUDAbaAbaIbaKAbaNGAbaCAbaTTAbcHAbaDDAbaNNAbaTAbaDAbaPAbbHAbaSSAbaZHAbbAba",
    "AHrTODO ALI GALI TAbfZHArMANCHU ALI GALI GHAbhNGAbhCAbhJHAbhTTAbhDDHAbhTAbhDHAbhSSAbhCYAbhZHA",
    "biArALI GALI HALF UbfYArMANCHU ALI GALI BHArALI GALI DAGALGArMANCHU ALI GALI LHA"]),
  (0x18b0, ["aCANADIAN SYLLABICS OYtAYuAYtWAYtPOYuAYuWOYtTAYtKAYuWAYtMAYtNOYuAYtLAYtSOYuAYuHOYvAYv",
    "WOYtYOYuAYtRAYtNWItOJIBWAY NWItNWIItOJIBWAY NWIItNWOtOJIBWAY NWOtNWOOtOJIBWAY NWOOtRWEEvIwIvO",
    "wOvAtOJIBWAY PbbTbbKbbCbbMbbNbbSbcHtEASTERN WtWESTERN WtFINAL SMALL RINGzRAISED DOTtR-CREE RW",
    "EtWEST-CREE LOObeAAtTHWEwAuTHWEwOOwAAuLHWEwOOtSAYISI SHWEbcOObaHOOtCARRIER GWUbbDENE GEEbbGAA",
    "bcWAtSAYISI JUUtCARRIER JWAtBEAVER DENE LbfRtCARRIER DENTAL S"]),
  (0x1900, ["aLIMBU VOWEL-CARRIER LETTERgLETTER KAoHAnGAoHAnNGAnCAoHAnJAoHAnYANnTAoHAnDAoHAnNAnPAo",
    "HAnBAoHAnMAnYAnRAnLAnWAnSHAoSAoAnHAnGYANnTRA"]),
  (0x1920, ["aLIMBU VOWEL SIGN ArIrUrEErAIrOOrAUrErOgSUBJOINED LETTER YAxRAxWA"]),
  (0x1930, ["aLIMBU SMALL LETTER KAtNGAtANUSVARAtTAtNAtPAtMAtRAtLAhIGN MUKPHRENGlKEMPHRENGlSA-I"]),
  (0x1940, ["aLIMBU SIGN LOO"]),
  (0x1944, ["aLIMBU EXCLAMATION MARKgQUESTION MARKgDIGIT ZEROmONEmTWOnHREEmFOURnIVEmSIXnEVENmEIGHT",
    "mNINEaTAI LE LETTER KAoXAoNGAoTSAoSAoYAoTApHAoLAoPApHAoMAoFAoVAoHAoQAoKHAoTSHAoNAoAoIoEEpHoUo",
    "OOoOoUEoEoAUEpI"]),
  (0x1970, ["aTAI LE LETTER TONE-2t3t4t5t6"]),
  (0x1980, ["aNEW TAI LUE LETTER HIGH QAtLOW QAtHIGH KAyXAyNGAtLOW KAxXAxNGAtHIGH TSAySAyYAtLOW TS",
    "AxSAxYAtHIGH TAzHAyNAtLOW TAyHAxNAtHIGH PAzHAyMAtLOW PAyHAxMAtHIGH FAyVAyLAtLOW FAxVAxLAtHIGH",
    " HAyDAyBAtLOW HAxDAxBAtHIGH KVAyXVAtLOW KVAxXVAtHIGH SUAtLOW SUA"]),
  (0x19b0, ["aNEW TAI LUE VOWEL SIGN VOWEL SHORTENERxAAxIIxUyUxExAExOyAxUExAYyAYxUYxOYyAYxUEYxIYmL",
    "ETTER FINAL VzNGzNzMzKzDzBmTONE MARK-1w2"]),
  (0x19d0, ["aNEW TAI LUE DIGIT ZEROsONEsTWOtHREEsFOURtIVEsSIXtEVENsEIGHTsNINEmTHAM DIGIT ONE"]),
  (0x19de, ["aNEW TAI LUE SIGN LAEuVaKHMER SYMBOL PATHAMASATnMUOY KOETnPII KOETnBEI KOEToUON KOETn",
    "PRAM KOETr-MUOY KOETsPII KOETsBEI KOETtUON KOETnDAP KOETq-MUOY KOETrPII KOETrBEI KOETsUON KOE",
    "TrPRAM KOETnTUTEYASATnMUOY ROCnPII ROCnBEI ROCoUON ROCnPRAM ROCr-MUOY ROCsPII ROCsBEI ROCtUON",
    " ROCnDAP ROCq-MUOY ROCrPII ROCrBEI ROCsUON ROCrPRAM ROCaBUGINESE LETTER KAqGAqNGAsKAqPAqBAqMA",
    "rPAqTAqDAqNArRAqCAqJAqNYAsCAqYAqRAqLAqVAqSAqAqHAjVOWEL SIGN IuUuEuOuAE"]),
  (0x1a1e, ["aBUGINESE PALLAWAjEND OF SECTIONaTAI THAM LETTER HIGH KAwHAwXAqLOW KAvXAvHAqNGAqHIGH ",
    "CAwHAqLOW CAuSAuCHAqNYAqRATAqHIGH RATHAqDAqLOW RATHAqRANAqHIGH TAwHAqLOW TAvHAqNAqBAqHIGH PAw",
    "HAvFAqLOW PAuFAuPHAqMAqLOW YAqHIGH YAqRArUEqLArUEqWAqHIGH SHAwSAwAvHAqLLAqAqLOW HAqIrIqUrUqEE",
    "qOOqLAEqGREAT SAjCONSONANT SIGN MEDIAL RAbfLAyLA TANG LAIjSIGN MAI KANG LAIjCONSONANT SIGN FI",
    "NAL NGAyLOW PAyHIGH RATHA OR LOW PAyMAyBAySA"]),
  (0x1a60, ["aTAI THAM SIGN SAKOTjVOWEL SIGN AuMAI SATuAAuTALL AAuIvIuUEvUEuUvUuOvA BELOWvYuEuAEuO",
    "OuAIuTHAM AIuOA ABOVEjSIGN MAI KANGoTONE-1t2oKHUEN TONE-3z4z5oRA HAAMoMAI SAMoKHUEN-LUE KARA",
    "N"]),
  (0x1a7f, ["aTAI THAM COMBINING CRYPTOGRAMMIC DOTjHORA DIGIT ZEROuONEuTWOvHREEuFOURvIVEuSIXvEVENu",
    "EIGHTuNINE"]),
  (0x1a90, ["aTAI THAM THAM DIGIT ZEROuONEuTWOvHREEuFOURvIVEuSIXvEVENuEIGHTuNINE"]),
  (0x1aa0, ["aTAI THAM SIGN WIANGtWAAKoSAWANoKEOWoHOYoDOKMAIoREVERSED ROTATED RANAoMAI YAMOKoKAANs",
    "KUUoSATKAANvKUUoHANGoCAANG"]),
  (0x1ab0, ["aCOMBINING DOUBLED CIRCUMFLEX ACCENTlIAERESIS-RINGkINFINITYkDOWNWARDS ARROWkTRIPLE DO",
    "TkX-X BELOWkWIGGLY LINE BELOWkOPEN MARK BELOWkDOUBLE OPEN MARK BELOWkLIGHT CENTRALIZATION STR",
    "OKE BELOWkSTRONG CENTRALIZATION STROKE BELOWkPARENTHESES ABOVEkDOUBLE PARENTHESES ABOVEkPAREN",
    "THESES BELOWwOVERLAYkLATIN SMALL LETTER W BELOWbdTURNED W BELOWlEFT PARENTHESIS ABOVE LEFTkRI",
    "GHT PARENTHESIS ABOVE RIGHTkLEFT PARENTHESIS BELOW LEFTkRIGHT PARENTHESIS BELOW RIGHTkSQUARE ",
    "BRACKETS ABOVEkNUMBER SIGN ABOVEkINVERTED DOUBLE ARCH ABOVEkPLUS SIGN ABOVEkDOUBLE PLUS SIGN ",
    "ABOVEbbBELOWkTRIPLE ACUTE ACCENTkLATIN SMALL LETTER INSULAR GblRblT"]),
  (0x1b00, ["aBALINESE SIGN ULU RICEMsCANDRAoCECEKoSURANGoBISAHjLETTER AKARAv TEDUNGqIKARAv TEDUNG",
    "qUKARAv TEDUNGqRA REPAx TEDUNGqLA LENGAy TEDUNGqEKARAqAIKARAqOKARAv TEDUNGqKAs MAHAPRANAqGAs ",
    "GORAqNGAqCAs LACAqJAs JERAqNYAqTA LATIKtMURDA MAHAPRANAqDA MURDA ALPAPRANAzMAHAPRANAqNA RAMBA",
    "TqTAs TAWAqDAs MADUqNAqPAs KAPALqBAs KEMBANGqMAqYAqRAqLAqWAqSA SAGAvPArAqHAjSIGN REREKANjVOWE",
    "L SIGN TEDUNGuULUx SARIuSUKUy ILUTuRA REPAbb TEDUNGuLA LENGAbc TEDUNGuTALINGba REPAbbTEDUNGbb",
    "REPA TEDUNGuPEPETz TEDUNGjADEG ADEGjLETTER KAF SASAKrHOT SASAKqTZIR SASAKqEF SASAKqVE SASAKqZ",
    "AL SASAKqASYURA SASAKrRCHAIC JNYA"]),
  (0x1b50, ["aBALINESE DIGIT ZEROpONEpTWOqHREEpFOURqIVEpSIXqEVENpEIGHTpNINEjPANTIlMADAjWINDUjCARIK",
    " PAMUNGKAHpSIKIpPARERENjPAMENENGjMUSICAL SYMBOL DONGzENGzUNGzANGbc SURANGzINGzAENGzEUNGzAINGb",
    "aNG GEDEyCOMBINING TEGEHbiENDEPbiKEMPULbmLIbiJEGOGANbiKEMPUL WITH JEGOGANbmLI WITH JEGOGANbiB",
    "ENDEbiGONGyRIGHT-HAND OPEN DUGbpAGbjCLOSED TUKbrAKyLEFT-HAND OPEN PANGboUNGbiCLOSED PLAKbrUKb",
    "iOPEN PINGjPANTI LANTANGlMADA LANTANG"]),
  (0x1b80, ["aSUNDANESE SIGN PANYECEKsGLAYARtWISADkLETTER ArIrUrAErOrEsUrKArQArGArNGArCArJArZArNYA",
    "rTArDArNArPArFArVArBArMArYArRArLArWArSArXArHAkCONSONANT SIGN PAMINGKALbbNYAKRAbdIKUkVOWEL SIG",
    "N PANGHULUyYUKUyAELAENGyOLONGxMEPETxNEULEUNGkSIGN PAMAAEHpVIRAMAkCONSONANT SIGN PASANGAN MAbi",
    "WAkLETTER KHArSYAkDIGIT ZEROqONEqTWOrHREEqFOURrIVEqSIXrEVENqEIGHTqNINEkAVAGRAHAkLETTER REUrLE",
    "UrBHArFINAL KxMaBATAK LETTER AnSIMALUNGUN AnHAnSIMALUNGUN HAnMANDAILING HAnBAnKARO BAnPAnSIMA",
    "LUNGUN PAnNAnMANDAILING NAnWAnSIMALUNGUN WAnPAKPAK WAnGAnSIMALUNGUN GAnJAnDAnRAnSIMALUNGUN RA",
    "nMAnSIMALUNGUN MAoOUTHERN TAnNORTHERN TAnSAoIMALUNGUN SAnMANDAILING SAnYAnSIMALUNGUN YAnNGAnL",
    "AnSIMALUNGUN LAnNYAnCAnNDAnMBAnInUgSIGN TOMPIgVOWEL SIGN ErPAKPAK ErEErIrKARO IrOrKARO OrUs F",
    "OR SIMALUNGUN SAgCONSONANT SIGN NGvHgPANGOLATjONGONAN"]),
  (0x1bfc, ["aBATAK SYMBOL BINDU NA METEKtPINARBORAStJUDULtPANGOLATaLEPCHA LETTER KApLApHAoGApLAoN",
    "GAoCApHAoJAoNYAoTApHAoDAoNAoPApLApHAoFApLAoBApLAoMApLAoTSAqHAoDZAoYAoRAoLAoHApLAoVAoSApHAoWAo",
    "AhSUBJOINED LETTER YAyRAhVOWEL SIGN AAsIsOtOsUtUsEhCONSONANT SIGN KwMwLwNwPwRwTwNYIN-DOwKANGh",
    "SIGN RANmNUKTA"]),
  (0x1c3b, ["aLEPCHA PUNCTUATION TA-ROLtNYET THYOOM TA-ROLtCER-WAtTSHOOK CER-WAyKhDIGIT ZEROnONEnT",
    "WOoHREEnFOURoIVEnSIXoEVENnEIGHTnNINE"]),
  (0x1c4d, ["aLEPCHA LETTER TTAqHAoDDAaOL CHIKI DIGIT ZEROpONEpTWOqHREEpFOURqIVEpSIXqEVENpEIGHTpNI",
    "NEjLETTER LAqATrGrNGrLqLAAqAAKsJsMsWqLIqISrHrNYrRqLUqUCrDrNNrYqLEqEPrDDrNrRRqLOqOTTrBrVrHjMU ",
    "TTUDDAGjGAAHLAA TTUDDAAGjMU-GAAHLAA TTUDDAAGjRELAAjPHAARKAAjAHADjPUNCTUATION MUCAADvDOUBLE MU",
    "CAADaCYRILLIC SMALL LETTER ROUNDED VEwLONG-LEGGED DEwNARROW OwWIDE ESwTALL TExHREE-LEGGED TEx",
    "ALL HARD SIGNbbYATwUNBLENDED UK"]),
  (0x1c90, ["aGEORGIAN MTAVRULI CAPITAL LETTER ANbhBANbhGANbhDONbhENbhVINbhZENbhTANbhINbhKANbhLASb",
    "hMANbhNARbhONbhPARbhZHARbhRAEbhSANbhTARbhUNbhPHARbhKHARbhGHANbhQARbhSHINbhCHINbiANbhJILbhCILb",
    "iHARbhXANbhJHANbhHAEbiEbiIEbhWEbhHARbiOEbhFIbhYNbhELIFIbhTURNED GANbhAIN"]),
  (0x1cbd, ["aGEORGIAN MTAVRULI CAPITAL LETTER AENbhHARD SIGNbhLABIAL SIGNaSUNDANESE PUNCTUATION B",
    "INDU SURYAbcPANGLONGbdURNAMAbcCAKRAbcLEU SATANGAbcKA SATANGAbcDA SATANGAbcBA SATANGA"]),
  (0x1cd0, ["aVEDIC TONE KARSHANAlSHARAlPRENKHAgSIGN NIHSHVASAlYAJURVEDIC MIDLINE SVARITAgTONE YAJ",
    "URVEDIC AGGRAVATED INDEPENDENT SVARITAwINDEPENDENT SVARITAwKATHAKA INDEPENDENT SVARITAlCANDRA",
    " BELOWlYAJURVEDIC KATHAKA INDEPENDENT SVARITA SCHROEDERlDOUBLE SVARITAlTRIPLE SVARITAlKATHAKA",
    " ANUDATTAlDOT BELOWlTWO DOTS BELOWmHREE DOTS BELOWlRIGVEDIC KASHMIRI INDEPENDENT SVARITAlATHA",
    "RVAVEDIC INDEPENDENT SVARITAgSIGN VISARGA SVARITAtUDATTAlREVERSED VISARGA UDATTAlVISARGA ANUD",
    "ATTAlREVERSED VISARGA ANUDATTAlVISARGA UDATTA WITH TAILtANUDATTA WITH TAILlANUSVARA ANTARGOMU",
    "KHAuBAHIRGOMUKHAuVAMAGOMUKHAbf WITH TAILlTIRYAKlHEXIFORM LONG ANUSVARAlLONG ANUSVARAlRTHANG L",
    "ONG ANUSVARAlANUSVARA UBHAYATO MUKHAmRDHAVISARGAlROTATED ARDHAVISARGAgTONE CANDRA ABOVEgSIGN ",
    "JIHVAMULIYAlUPADHMANIYAlATIKRAMAgTONE RING ABOVElDOUBLE RING ABOVEgSIGN DOUBLE ANUSVARA ANTAR",
    "GOMUKHA"]),
  (0x1d00, ["aLATIN LETTER SMALL CAPITAL AbcEgSMALL LETTER TURNED AEgLETTER SMALL CAPITAL BARRED B",
    "bbCbbDbbETHbbEgSMALL LETTER TURNED OPEN EbaIgLETTER SMALL CAPITAL JbbKbbL WITH STROKEbbMbbREV",
    "ERSED NbbObcPEN OgSMALL LETTER SIDEWAYS ObdPEN Obd WITH STROKEtTURNED OEgLETTER SMALL CAPITAL",
    " OUgSMALL LETTER TOP HALF OtBOTTOM HALF OgLETTER SMALL CAPITAL PbbREVERSED RbbTURNED RbbTbbUg",
    "SMALL LETTER SIDEWAYS UbcDIAERESIZED UbcTURNED MgLETTER SMALL CAPITAL VbbWbbZbbEZHnVOICED LAR",
    "YNGEAL SPIRANTnAINaGREEK LETTER SMALL CAPITAL GAMMAbbLAMDAbbPIbbRHObbPSIaCYRILLIC LETTER SMAL",
    "L CAPITAL ELaMODIFIER LETTER CAPITAL AzEyBzARRED ByDyEyREVERSED EyGyHyIyJyKyLyMyNyREVERSED Ny",
    "OzUyPyRyTyUyWqSMALL AwTURNED AwALPHAwTURNED AEwBwDwEwSCHWAwOPEN EwTURNED OPEN EwGwTURNED IwKw",
    "MwENGwOxPEN OwTOP HALF OwBOTTOM HALF OwPwTwUwSIDEWAYS UwTURNED MwVwAINwBETAwGREEK GAMMAwDELTA",
    "wGREEK PHIwCHIaLATIN SUBSCRIPT SMALL LETTER IbdRbdUbdVaGREEK SUBSCRIPT SMALL LETTER BETAbdGAM",
    "MAbdRHObdPHIbdCHIaLATIN SMALL LETTER UEtB WITH MIDDLE TILDEtD WITH MIDDLE TILDEtF WITH MIDDLE",
    " TILDEtM WITH MIDDLE TILDEtN WITH MIDDLE TILDEtP WITH MIDDLE TILDEtR WITH MIDDLE TILDEbaFISHH",
    "OOK AND MIDDLE TILDEtS WITH MIDDLE TILDEtT WITH MIDDLE TILDEtZ WITH MIDDLE TILDEtTURNED GaMOD",
    "IFIER LETTER CYRILLIC ENaLATIN SMALL LETTER INSULAR GtTH WITH STRIKETHROUGHmCAPITAL LETTER I ",
    "WITH STROKEmLETTER IOTA WITH STROKEtP WITH STROKEmCAPITAL LETTER U WITH STROKEmLETTER UPSILON",
    " WITH STROKEtB WITH PALATAL HOOKtD WITH PALATAL HOOKtF WITH PALATAL HOOKtG WITH PALATAL HOOKt",
    "K WITH PALATAL HOOKtL WITH PALATAL HOOKtM WITH PALATAL HOOKtN WITH PALATAL HOOKtP WITH PALATA",
    "L HOOKtR WITH PALATAL HOOKtS WITH PALATAL HOOKtESH WITH PALATAL HOOKtV WITH PALATAL HOOKtX WI",
    "TH PALATAL HOOKtZ WITH PALATAL HOOKtA WITH RETROFLEX HOOKuLPHA WITH RETROFLEX HOOKtD WITH HOO",
    "K AND TAILtE WITH RETROFLEX HOOKtOPEN E WITH RETROFLEX HOOKtREVERSED OPEN E WITH RETROFLEX HO",
    "OKtSCHWA WITH RETROFLEX HOOKtI WITH RETROFLEX HOOKtOPEN O WITH RETROFLEX HOOKtESH WITH RETROF",
    "LEX HOOKtU WITH RETROFLEX HOOKtEZH WITH RETROFLEX HOOKaMODIFIER LETTER SMALL TURNED ALPHAwCx ",
    "WITH CURLwETHwREVERSED OPEN EwFwDOTLESS J WITH STROKEwSCRIPT GwTURNED HwI WITH STROKExOTAwCAP",
    "ITAL Ibf WITH STROKEwJ WITH CROSSED-TAILwL WITH RETROFLEX HOOKbdPALATAL HOOKwCAPITAL LwM WITH",
    " HOOKwTURNED M WITH LONG LEGwN WITH LEFT HOOKbdRETROFLEX HOOKwCAPITAL NwBARRED OwPHIwS WITH H",
    "OOKwESHwT WITH PALATAL HOOKwU BARxPSILONwCAPITAL UwV WITH HOOKwTURNED VwZx WITH RETROFLEX HOO",
    "KbdCURLwEZHwTHETAaCOMBINING DOTTED GRAVE ACCENTrACUTE ACCENTkSNAKE BELOWlUSPENSION MARKkMACRO",
    "N-ACUTEkGRAVE-MACRONkMACRON-GRAVEkACUTE-MACRONkGRAVE-ACUTE-GRAVEkACUTE-GRAVE-ACUTEkLATIN SMAL",
    "L LETTER R BELOWkBREVE-MACRONkMACRON-BREVEkDOUBLE CIRCUMFLEX ABOVEkOGONEK ABOVEkZIGZAG BELOWk",
    "IS BELOWkUR ABOVElS ABOVEkLATIN SMALL LETTER FLATTENED OPEN A ABOVEbdAEbeObeVbdC CEDILLAbdINS",
    "ULAR DbdETHbdGqLETTER SMALL CAPITAL GqSMALL LETTER KbdLqLETTER SMALL CAPITAL LblMqSMALL LETTE",
    "R NqLETTER SMALL CAPITAL NblRqSMALL LETTER R ROTUNDAbdSbdLONG SbdZbdALPHAbdBbeETAbdSCHWAbdFbd",
    "L WITH DOUBLE MIDDLE TILDEbdO WITH LIGHT CENTRALIZATION STROKEbdPbdESHbdU WITH LIGHT CENTRALI",
    "ZATION STROKEbdWbdA WITH DIAERESISbdO WITH DIAERESISbdU WITH DIAERESISkUP TACK ABOVEkKAVYKA A",
    "BOVE RIGHTxLEFTkDOT ABOVE LEFTkWIDE INVERTED BRIDGE BELOWkDOT BELOW LEFTlELETION MARKlOUBLE I",
    "NVERTED BREVE BELOWkALMOST EQUAL TO BELOWkLEFT ARROWHEAD ABOVEkRIGHT ARROWHEAD AND DOWN ARROW",
    "HEAD BELOWaLATIN CAPITAL LETTER A WITH RING BELOWgSMALL LETTER A WITH RING BELOWgCAPITAL LETT",
    "ER B WITH DOT ABOVEgSMALL LETTER B WITH DOT ABOVEgCAPITAL LETTER B WITH DOT BELOWgSMALL LETTE",
    "R B WITH DOT BELOWgCAPITAL LETTER B WITH LINE BELOWgSMALL LETTER B WITH LINE BELOWgCAPITAL LE",
    "TTER C WITH CEDILLA AND ACUTEgSMALL LETTER C WITH CEDILLA AND ACUTEgCAPITAL LETTER D WITH DOT",
    " ABOVEgSMALL LETTER D WITH DOT ABOVEgCAPITAL LETTER D WITH DOT BELOWgSMALL LETTER D WITH DOT ",
    "BELOWgCAPITAL LETTER D WITH LINE BELOWgSMALL LETTER D WITH LINE BELOWgCAPITAL LETTER D WITH C",
    "EDILLAgSMALL LETTER D WITH CEDILLAgCAPITAL LETTER D WITH CIRCUMFLEX BELOWgSMALL LETTER D WITH",
    " CIRCUMFLEX BELOWgCAPITAL LETTER E WITH MACRON AND GRAVEgSMALL LETTER E WITH MACRON AND GRAVE",
    "gCAPITAL LETTER E WITH MACRON AND ACUTEgSMALL LETTER E WITH MACRON AND ACUTEgCAPITAL LETTER E",
    " WITH CIRCUMFLEX BELOWgSMALL LETTER E WITH CIRCUMFLEX BELOWgCAPITAL LETTER E WITH TILDE BELOW",
    "gSMALL LETTER E WITH TILDE BELOWgCAPITAL LETTER E WITH CEDILLA AND BREVEgSMALL LETTER E WITH ",
    "CEDILLA AND BREVEgCAPITAL LETTER F WITH DOT ABOVEgSMALL LETTER F WITH DOT ABOVEgCAPITAL LETTE",
    "R G WITH MACRONgSMALL LETTER G WITH MACRONgCAPITAL LETTER H WITH DOT ABOVEgSMALL LETTER H WIT",
    "H DOT ABOVEgCAPITAL LETTER H WITH DOT BELOWgSMALL LETTER H WITH DOT BELOWgCAPITAL LETTER H WI",
    "TH DIAERESISgSMALL LETTER H WITH DIAERESISgCAPITAL LETTER H WITH CEDILLAgSMALL LETTER H WITH ",
    "CEDILLAgCAPITAL LETTER H WITH BREVE BELOWgSMALL LETTER H WITH BREVE BELOWgCAPITAL LETTER I WI",
    "TH TILDE BELOWgSMALL LETTER I WITH TILDE BELOWgCAPITAL LETTER I WITH DIAERESIS AND ACUTEgSMAL",
    "L LETTER I WITH DIAERESIS AND ACUTEgCAPITAL LETTER K WITH ACUTEgSMALL LETTER K WITH ACUTEgCAP",
    "ITAL LETTER K WITH DOT BELOWgSMALL LETTER K WITH DOT BELOWgCAPITAL LETTER K WITH LINE BELOWgS",
    "MALL LETTER K WITH LINE BELOWgCAPITAL LETTER L WITH DOT BELOWgSMALL LETTER L WITH DOT BELOWgC",
    "APITAL LETTER L WITH DOT BELOW AND MACRONgSMALL LETTER L WITH DOT BELOW AND MACRONgCAPITAL LE",
    "TTER L WITH LINE BELOWgSMALL LETTER L WITH LINE BELOWgCAPITAL LETTER L WITH CIRCUMFLEX BELOWg",
    "SMALL LETTER L WITH CIRCUMFLEX BELOWgCAPITAL LETTER M WITH ACUTEgSMALL LETTER M WITH ACUTEgCA",
    "PITAL LETTER M WITH DOT ABOVEgSMALL LETTER M WITH DOT ABOVEgCAPITAL LETTER M WITH DOT BELOWgS",
    "MALL LETTER M WITH DOT BELOWgCAPITAL LETTER N WITH DOT ABOVEgSMALL LETTER N WITH DOT ABOVEgCA",
    "PITAL LETTER N WITH DOT BELOWgSMALL LETTER N WITH DOT BELOWgCAPITAL LETTER N WITH LINE BELOWg",
    "SMALL LETTER N WITH LINE BELOWgCAPITAL LETTER N WITH CIRCUMFLEX BELOWgSMALL LETTER N WITH CIR",
    "CUMFLEX BELOWgCAPITAL LETTER O WITH TILDE AND ACUTEgSMALL LETTER O WITH TILDE AND ACUTEgCAPIT",
    "AL LETTER O WITH TILDE AND DIAERESISgSMALL LETTER O WITH TILDE AND DIAERESISgCAPITAL LETTER O",
    " WITH MACRON AND GRAVEgSMALL LETTER O WITH MACRON AND GRAVEgCAPITAL LETTER O WITH MACRON AND ",
    "ACUTEgSMALL LETTER O WITH MACRON AND ACUTEgCAPITAL LETTER P WITH ACUTEgSMALL LETTER P WITH AC",
    "UTEgCAPITAL LETTER P WITH DOT ABOVEgSMALL LETTER P WITH DOT ABOVEgCAPITAL LETTER R WITH DOT A",
    "BOVEgSMALL LETTER R WITH DOT ABOVEgCAPITAL LETTER R WITH DOT BELOWgSMALL LETTER R WITH DOT BE",
    "LOWgCAPITAL LETTER R WITH DOT BELOW AND MACRONgSMALL LETTER R WITH DOT BELOW AND MACRONgCAPIT",
    "AL LETTER R WITH LINE BELOWgSMALL LETTER R WITH LINE BELOWgCAPITAL LETTER S WITH DOT ABOVEgSM",
    "ALL LETTER S WITH DOT ABOVEgCAPITAL LETTER S WITH DOT BELOWgSMALL LETTER S WITH DOT BELOWgCAP",
    "ITAL LETTER S WITH ACUTE AND DOT ABOVEgSMALL LETTER S WITH ACUTE AND DOT ABOVEgCAPITAL LETTER",
    " S WITH CARON AND DOT ABOVEgSMALL LETTER S WITH CARON AND DOT ABOVEgCAPITAL LETTER S WITH DOT",
    " BELOW AND DOT ABOVEgSMALL LETTER S WITH DOT BELOW AND DOT ABOVEgCAPITAL LETTER T WITH DOT AB",
    "OVEgSMALL LETTER T WITH DOT ABOVEgCAPITAL LETTER T WITH DOT BELOWgSMALL LETTER T WITH DOT BEL",
    "OWgCAPITAL LETTER T WITH LINE BELOWgSMALL LETTER T WITH LINE BELOWgCAPITAL LETTER T WITH CIRC",
    "UMFLEX BELOWgSMALL LETTER T WITH CIRCUMFLEX BELOWgCAPITAL LETTER U WITH DIAERESIS BELOWgSMALL",
    " LETTER U WITH DIAERESIS BELOWgCAPITAL LETTER U WITH TILDE BELOWgSMALL LETTER U WITH TILDE BE",
    "LOWgCAPITAL LETTER U WITH CIRCUMFLEX BELOWgSMALL LETTER U WITH CIRCUMFLEX BELOWgCAPITAL LETTE",
    "R U WITH TILDE AND ACUTEgSMALL LETTER U WITH TILDE AND ACUTEgCAPITAL LETTER U WITH MACRON AND",
    " DIAERESISgSMALL LETTER U WITH MACRON AND DIAERESISgCAPITAL LETTER V WITH TILDEgSMALL LETTER ",
    "V WITH TILDEgCAPITAL LETTER V WITH DOT BELOWgSMALL LETTER V WITH DOT BELOWgCAPITAL LETTER W W",
    "ITH GRAVEgSMALL LETTER W WITH GRAVEgCAPITAL LETTER W WITH ACUTEgSMALL LETTER W WITH ACUTEgCAP",
    "ITAL LETTER W WITH DIAERESISgSMALL LETTER W WITH DIAERESISgCAPITAL LETTER W WITH DOT ABOVEgSM",
    "ALL LETTER W WITH DOT ABOVEgCAPITAL LETTER W WITH DOT BELOWgSMALL LETTER W WITH DOT BELOWgCAP",
    "ITAL LETTER X WITH DOT ABOVEgSMALL LETTER X WITH DOT ABOVEgCAPITAL LETTER X WITH DIAERESISgSM",
    "ALL LETTER X WITH DIAERESISgCAPITAL LETTER Y WITH DOT ABOVEgSMALL LETTER Y WITH DOT ABOVEgCAP",
    "ITAL LETTER Z WITH CIRCUMFLEXgSMALL LETTER Z WITH CIRCUMFLEXgCAPITAL LETTER Z WITH DOT BELOWg",
    "SMALL LETTER Z WITH DOT BELOWgCAPITAL LETTER Z WITH LINE BELOWgSMALL LETTER Z WITH LINE BELOW",
    "tH WITH LINE BELOWtT WITH DIAERESIStW WITH RING ABOVEtY WITH RING ABOVEtA WITH RIGHT HALF RIN",
    "GtLONG S WITH DOT ABOVEbgIAGONAL STROKEbfHIGH STROKEgCAPITAL LETTER SHARP SgSMALL LETTER DELT",
    "AgCAPITAL LETTER A WITH DOT BELOWgSMALL LETTER A WITH DOT BELOWgCAPITAL LETTER A WITH HOOK AB",
    "OVEgSMALL LETTER A WITH HOOK ABOVEgCAPITAL LETTER A WITH CIRCUMFLEX AND ACUTEgSMALL LETTER A ",
    "WITH CIRCUMFLEX AND ACUTEgCAPITAL LETTER A WITH CIRCUMFLEX AND GRAVEgSMALL LETTER A WITH CIRC",
    "UMFLEX AND GRAVEgCAPITAL LETTER A WITH CIRCUMFLEX AND HOOK ABOVEgSMALL LETTER A WITH CIRCUMFL",
    "EX AND HOOK ABOVEgCAPITAL LETTER A WITH CIRCUMFLEX AND TILDEgSMALL LETTER A WITH CIRCUMFLEX A",
    "ND TILDEgCAPITAL LETTER A WITH CIRCUMFLEX AND DOT BELOWgSMALL LETTER A WITH CIRCUMFLEX AND DO",
    "T BELOWgCAPITAL LETTER A WITH BREVE AND ACUTEgSMALL LETTER A WITH BREVE AND ACUTEgCAPITAL LET",
    "TER A WITH BREVE AND GRAVEgSMALL LETTER A WITH BREVE AND GRAVEgCAPITAL LETTER A WITH BREVE AN",
    "D HOOK ABOVEgSMALL LETTER A WITH BREVE AND HOOK ABOVEgCAPITAL LETTER A WITH BREVE AND TILDEgS",
    "MALL LETTER A WITH BREVE AND TILDEgCAPITAL LETTER A WITH BREVE AND DOT BELOWgSMALL LETTER A W",
    "ITH BREVE AND DOT BELOWgCAPITAL LETTER E WITH DOT BELOWgSMALL LETTER E WITH DOT BELOWgCAPITAL",
    " LETTER E WITH HOOK ABOVEgSMALL LETTER E WITH HOOK ABOVEgCAPITAL LETTER E WITH TILDEgSMALL LE",
    "TTER E WITH TILDEgCAPITAL LETTER E WITH CIRCUMFLEX AND ACUTEgSMALL LETTER E WITH CIRCUMFLEX A",
    "ND ACUTEgCAPITAL LETTER E WITH CIRCUMFLEX AND GRAVEgSMALL LETTER E WITH CIRCUMFLEX AND GRAVEg",
    "CAPITAL LETTER E WITH CIRCUMFLEX AND HOOK ABOVEgSMALL LETTER E WITH CIRCUMFLEX AND HOOK ABOVE",
    "gCAPITAL LETTER E WITH CIRCUMFLEX AND TILDEgSMALL LETTER E WITH CIRCUMFLEX AND TILDEgCAPITAL ",
    "LETTER E WITH CIRCUMFLEX AND DOT BELOWgSMALL LETTER E WITH CIRCUMFLEX AND DOT BELOWgCAPITAL L",
    "ETTER I WITH HOOK ABOVEgSMALL LETTER I WITH HOOK ABOVEgCAPITAL LETTER I WITH DOT BELOWgSMALL ",
    "LETTER I WITH DOT BELOWgCAPITAL LETTER O WITH DOT BELOWgSMALL LETTER O WITH DOT BELOWgCAPITAL",
    " LETTER O WITH HOOK ABOVEgSMALL LETTER O WITH HOOK ABOVEgCAPITAL LETTER O WITH CIRCUMFLEX AND",
    " ACUTEgSMALL LETTER O WITH CIRCUMFLEX AND ACUTEgCAPITAL LETTER O WITH CIRCUMFLEX AND GRAVEgSM",
    "ALL LETTER O WITH CIRCUMFLEX AND GRAVEgCAPITAL LETTER O WITH CIRCUMFLEX AND HOOK ABOVEgSMALL ",
    "LETTER O WITH CIRCUMFLEX AND HOOK ABOVEgCAPITAL LETTER O WITH CIRCUMFLEX AND TILDEgSMALL LETT",
    "ER O WITH CIRCUMFLEX AND TILDEgCAPITAL LETTER O WITH CIRCUMFLEX AND DOT BELOWgSMALL LETTER O ",
    "WITH CIRCUMFLEX AND DOT BELOWgCAPITAL LETTER O WITH HORN AND ACUTEgSMALL LETTER O WITH HORN A",
    "ND ACUTEgCAPITAL LETTER O WITH HORN AND GRAVEgSMALL LETTER O WITH HORN AND GRAVEgCAPITAL LETT",
    "ER O WITH HORN AND HOOK ABOVEgSMALL LETTER O WITH HORN AND HOOK ABOVEgCAPITAL LETTER O WITH H",
    "ORN AND TILDEgSMALL LETTER O WITH HORN AND TILDEgCAPITAL LETTER O WITH HORN AND DOT BELOWgSMA",
    "LL LETTER O WITH HORN AND DOT BELOWgCAPITAL LETTER U WITH DOT BELOWgSMALL LETTER U WITH DOT B",
    "ELOWgCAPITAL LETTER U WITH HOOK ABOVEgSMALL LETTER U WITH HOOK ABOVEgCAPITAL LETTER U WITH HO",
    "RN AND ACUTEgSMALL LETTER U WITH HORN AND ACUTEgCAPITAL LETTER U WITH HORN AND GRAVEgSMALL LE",
    "TTER U WITH HORN AND GRAVEgCAPITAL LETTER U WITH HORN AND HOOK ABOVEgSMALL LETTER U WITH HORN",
    " AND HOOK ABOVEgCAPITAL LETTER U WITH HORN AND TILDEgSMALL LETTER U WITH HORN AND TILDEgCAPIT",
    "AL LETTER U WITH HORN AND DOT BELOWgSMALL LETTER U WITH HORN AND DOT BELOWgCAPITAL LETTER Y W",
    "ITH GRAVEgSMALL LETTER Y WITH GRAVEgCAPITAL LETTER Y WITH DOT BELOWgSMALL LETTER Y WITH DOT B",
    "ELOWgCAPITAL LETTER Y WITH HOOK ABOVEgSMALL LETTER Y WITH HOOK ABOVEgCAPITAL LETTER Y WITH TI",
    "LDEgSMALL LETTER Y WITH TILDEgCAPITAL LETTER MIDDLE-WELSH LLgSMALL LETTER MIDDLE-WELSH LLgCAP",
    "ITAL LETTER MIDDLE-WELSH VgSMALL LETTER MIDDLE-WELSH VgCAPITAL LETTER Y WITH LOOPgSMALL LETTE",
    "R Y WITH LOOPaGREEK SMALL LETTER ALPHA WITH PSILIbeDASIAbePSILI AND VARIAbeDASIA AND VARIAbeP",
    "SILI AND OXIAbeDASIA AND OXIAbePSILI AND PERISPOMENIbeDASIA AND PERISPOMENIgCAPITAL LETTER AL",
    "PHA WITH PSILIbgDASIAbgPSILI AND VARIAbgDASIA AND VARIAbgPSILI AND OXIAbgDASIA AND OXIAbgPSIL",
    "I AND PERISPOMENIbgDASIA AND PERISPOMENIgSMALL LETTER EPSILON WITH PSILIbgDASIAbgPSILI AND VA",
    "RIAbgDASIA AND VARIAbgPSILI AND OXIAbgDASIA AND OXIA"]),
  (0x1f18, ["aGREEK CAPITAL LETTER EPSILON WITH PSILIbiDASIAbiPSILI AND VARIAbiDASIA AND VARIAbiPS",
    "ILI AND OXIAbiDASIA AND OXIA"]),
  (0x1f20, ["aGREEK SMALL LETTER ETA WITH PSILIbcDASIAbcPSILI AND VARIAbcDASIA AND VARIAbcPSILI AN",
    "D OXIAbcDASIA AND OXIAbcPSILI AND PERISPOMENIbcDASIA AND PERISPOMENIgCAPITAL LETTER ETA WITH ",
    "PSILIbeDASIAbePSILI AND VARIAbeDASIA AND VARIAbePSILI AND OXIAbeDASIA AND OXIAbePSILI AND PER",
    "ISPOMENIbeDASIA AND PERISPOMENIgSMALL LETTER IOTA WITH PSILIbdDASIAbdPSILI AND VARIAbdDASIA A",
    "ND VARIAbdPSILI AND OXIAbdDASIA AND OXIAbdPSILI AND PERISPOMENIbdDASIA AND PERISPOMENIgCAPITA",
    "L LETTER IOTA WITH PSILIbfDASIAbfPSILI AND VARIAbfDASIA AND VARIAbfPSILI AND OXIAbfDASIA AND ",
    "OXIAbfPSILI AND PERISPOMENIbfDASIA AND PERISPOMENIgSMALL LETTER OMICRON WITH PSILIbgDASIAbgPS",
    "ILI AND VARIAbgDASIA AND VARIAbgPSILI AND OXIAbgDASIA AND OXIA"]),
  (0x1f48, ["aGREEK CAPITAL LETTER OMICRON WITH PSILIbiDASIAbiPSILI AND VARIAbiDASIA AND VARIAbiPS",
    "ILI AND OXIAbiDASIA AND OXIA"]),
  (0x1f50, ["aGREEK SMALL LETTER UPSILON WITH PSILIbgDASIAbgPSILI AND VARIAbgDASIA AND VARIAbgPSIL",
    "I AND OXIAbgDASIA AND OXIAbgPSILI AND PERISPOMENIbgDASIA AND PERISPOMENI"]),
  (0x1f59, ["aGREEK CAPITAL LETTER UPSILON WITH DASIA"]),
  (0x1f5b, ["aGREEK CAPITAL LETTER UPSILON WITH DASIA AND VARIA"]),
  (0x1f5d, ["aGREEK CAPITAL LETTER UPSILON WITH DASIA AND OXIA"]),
  (0x1f5f, ["aGREEK CAPITAL LETTER UPSILON WITH DASIA AND PERISPOMENIgSMALL LETTER OMEGA WITH PSIL",
    "IbeDASIAbePSILI AND VARIAbeDASIA AND VARIAbePSILI AND OXIAbeDASIA AND OXIAbePSILI AND PERISPO",
    "MENIbeDASIA AND PERISPOMENIgCAPITAL LETTER OMEGA WITH PSILIbgDASIAbgPSILI AND VARIAbgDASIA AN",
    "D VARIAbgPSILI AND OXIAbgDASIA AND OXIAbgPSILI AND PERISPOMENIbgDASIA AND PERISPOMENIgSMALL L",
    "ETTER ALPHA WITH VARIAbeOXIAtEPSILON WITH VARIAbgOXIAuTA WITH VARIAbcOXIAtIOTA WITH VARIAbdOX",
    "IAtOMICRON WITH VARIAbgOXIAtUPSILON WITH VARIAbgOXIAtOMEGA WITH VARIAbeOXIA"]),
  (0x1f80, ["aGREEK SMALL LETTER ALPHA WITH PSILI AND YPOGEGRAMMENIbeDASIA AND YPOGEGRAMMENIbePSIL",
    "I AND VARIA AND YPOGEGRAMMENIbeDASIA AND VARIA AND YPOGEGRAMMENIbePSILI AND OXIA AND YPOGEGRA",
    "MMENIbeDASIA AND OXIA AND YPOGEGRAMMENIbePSILI AND PERISPOMENI AND YPOGEGRAMMENIbeDASIA AND P",
    "ERISPOMENI AND YPOGEGRAMMENIgCAPITAL LETTER ALPHA WITH PSILI AND PROSGEGRAMMENIbgDASIA AND PR",
    "OSGEGRAMMENIbgPSILI AND VARIA AND PROSGEGRAMMENIbgDASIA AND VARIA AND PROSGEGRAMMENIbgPSILI A",
    "ND OXIA AND PROSGEGRAMMENIbgDASIA AND OXIA AND PROSGEGRAMMENIbgPSILI AND PERISPOMENI AND PROS",
    "GEGRAMMENIbgDASIA AND PERISPOMENI AND PROSGEGRAMMENIgSMALL LETTER ETA WITH PSILI AND YPOGEGRA",
    "MMENIbcDASIA AND YPOGEGRAMMENIbcPSILI AND VARIA AND YPOGEGRAMMENIbcDASIA AND VARIA AND YPOGEG",
    "RAMMENIbcPSILI AND OXIA AND YPOGEGRAMMENIbcDASIA AND OXIA AND YPOGEGRAMMENIbcPSILI AND PERISP",
    "OMENI AND YPOGEGRAMMENIbcDASIA AND PERISPOMENI AND YPOGEGRAMMENIgCAPITAL LETTER ETA WITH PSIL",
    "I AND PROSGEGRAMMENIbeDASIA AND PROSGEGRAMMENIbePSILI AND VARIA AND PROSGEGRAMMENIbeDASIA AND",
    " VARIA AND PROSGEGRAMMENIbePSILI AND OXIA AND PROSGEGRAMMENIbeDASIA AND OXIA AND PROSGEGRAMME",
    "NIbePSILI AND PERISPOMENI AND PROSGEGRAMMENIbeDASIA AND PERISPOMENI AND PROSGEGRAMMENIgSMALL ",
    "LETTER OMEGA WITH PSILI AND YPOGEGRAMMENIbeDASIA AND YPOGEGRAMMENIbePSILI AND VARIA AND YPOGE",
    "GRAMMENIbeDASIA AND VARIA AND YPOGEGRAMMENIbePSILI AND OXIA AND YPOGEGRAMMENIbeDASIA AND OXIA",
    " AND YPOGEGRAMMENIbePSILI AND PERISPOMENI AND YPOGEGRAMMENIbeDASIA AND PERISPOMENI AND YPOGEG",
    "RAMMENIgCAPITAL LETTER OMEGA WITH PSILI AND PROSGEGRAMMENIbgDASIA AND PROSGEGRAMMENIbgPSILI A",
    "ND VARIA AND PROSGEGRAMMENIbgDASIA AND VARIA AND PROSGEGRAMMENIbgPSILI AND OXIA AND PROSGEGRA",
    "MMENIbgDASIA AND OXIA AND PROSGEGRAMMENIbgPSILI AND PERISPOMENI AND PROSGEGRAMMENIbgDASIA AND",
    " PERISPOMENI AND PROSGEGRAMMENIgSMALL LETTER ALPHA WITH VRACHYbeMACRONbeVARIA AND YPOGEGRAMME",
    "NIbeYPOGEGRAMMENIbeOXIA AND YPOGEGRAMMENI"]),
  (0x1fb6, ["aGREEK SMALL LETTER ALPHA WITH PERISPOMENIbp AND YPOGEGRAMMENIgCAPITAL LETTER ALPHA W",
    "ITH VRACHYbgMACRONbgVARIAbgOXIAbgPROSGEGRAMMENIgKORONISgPROSGEGRAMMENIhSILIhERISPOMENIgDIALYT",
    "IKA AND PERISPOMENIgSMALL LETTER ETA WITH VARIA AND YPOGEGRAMMENIbcYPOGEGRAMMENIbcOXIA AND YP",
    "OGEGRAMMENI"]),
  (0x1fc6, ["aGREEK SMALL LETTER ETA WITH PERISPOMENIbn AND YPOGEGRAMMENIgCAPITAL LETTER EPSILON W",
    "ITH VARIAbiOXIAwTA WITH VARIAbeOXIAbePROSGEGRAMMENIgPSILI AND VARIAqOXIAqPERISPOMENIgSMALL LE",
    "TTER IOTA WITH VRACHYbdMACRONbdDIALYTIKA AND VARIAbrOXIA"]),
  (0x1fd6, ["aGREEK SMALL LETTER IOTA WITH PERISPOMENIbdDIALYTIKA AND PERISPOMENIgCAPITAL LETTER I",
    "OTA WITH VRACHYbfMACRONbfVARIAbfOXIA"]),
  (0x1fdd, ["aGREEK DASIA AND VARIAqOXIAqPERISPOMENIgSMALL LETTER UPSILON WITH VRACHYbgMACRONbgDIA",
    "LYTIKA AND VARIAbuOXIAtRHO WITH PSILIbcDASIAtUPSILON WITH PERISPOMENIbgDIALYTIKA AND PERISPOM",
    "ENIgCAPITAL LETTER UPSILON WITH VRACHYbiMACRONbiVARIAbiOXIAvRHO WITH DASIAgDIALYTIKA AND VARI",
    "AuOXIAgVARIA"]),
  (0x1ff2, ["aGREEK SMALL LETTER OMEGA WITH VARIA AND YPOGEGRAMMENIbeYPOGEGRAMMENIbeOXIA AND YPOGE",
    "GRAMMENI"]),
  (0x1ff6, ["aGREEK SMALL LETTER OMEGA WITH PERISPOMENIbp AND YPOGEGRAMMENIgCAPITAL LETTER OMICRON",
    " WITH VARIAbiOXIAxEGA WITH VARIAbgOXIAbgPROSGEGRAMMENIgOXIAgDASIA"])]

end TreePredicate.Text.CharacterName
