/-!
# Names of characters from `0x13000` up to `0x1cfff`
-/

set_option autoImplicit false

namespace TreePredicate.Text.CharacterName

/-- Runs of characters from `0x13000` up to `0x1cfff`: where each starts, and the lines in which its
names are written. -/
def hieroglyphs : List (Nat × List String) := [
  (0x13000, ["aEGYPTIAN HIEROGLYPH A001x2x3x4x5yAx6yAyBx7x8x9w10x1x2x3x4yAx5x6x7yAx8x9w20x1x2x3x4x",
    "5x6x7x8x9w30x1x2yAx3x4x5x6x7x8x9w40yAx1x2yAx3yAx4x5yAx6x7x8x9w50x1x2x3x4x5x6x7x8x9w60x1x2x3x4",
    "x5x6x7x8x9w70uB001x2x3x4x5yAx6x7x8x9uC001x2yAyByCx3x4x5x6x7x8x9w10yAx1x2x3x4x5x6x7x8x9w20x1x2",
    "x3x4uD001x2x3x4x5x6x7x8yAx9w10x1x2x3x4x5x6x7x8x9w20x1x2x3x4x5x6x7yAx8x9w30x1yAx2x3x4yAx5x6x7x",
    "8x9w40x1x2x3x4x5x6yAx7x8yAx9w50yAyByCyDyEyFyGyHyIx1x2yAx3x4yAx5x6x7x8x9w60x1x2x3x4x5x6x7yAyBy",
    "CyDyEyFyGyHuE001x2x3x4x5x6x7x8yAx9yAw10x1x2x3x4x5x6yAx7yAx8x9w20yAx1x2x3x4x5x6x7x8yAx9w30x1x2",
    "x3x4yAx6x7x8uF001yAx2x3x4x5x6x7x8x9w10x1x2x3yAx4x5x6x7x8x9w20x1yAx2x3x4x5x6x7x8x9w30x1yAx2x3x",
    "4x5x6x7yAx8yAx9w40x1x2x3x4x5yAx6yAx7yAx8x9w50x1yAyByCx2x3uG001x2x3x4x5x6yAx7yAyBx8x9w10x1yAx2",
    "x3x4x5x6x7x8x9w20yAx1x2x3x4x5x6yAx7x8x9w30x1x2x3x4x5x6yAx7yAx8x9w40x1x2x3yAx4x5yAx6x7x8x9w50x",
    "1x2x3x4uH001x2x3x4x5x6yAx7x8uI001x2x3x4x5yAx6x7x8x9yAw10yAx1yAx2x3x4x5uK001x2x3x4x5x6x7x8uL00",
    "1x2yAx3x4x5x6yAx7x8uM001yAyBx2x3yAx4x5x6x7x8x9w10yAx1x2yAyByCyDyEyFyGyHx3x4x5yAx6yAx7yAx8x9w2",
    "0x1x2yAx3x4yAx5x6x7x8yAx9w30x1yAx2x3yAyBx4x5x6x7x8x9w40yAx1x2x3x4uN001x2x3x4x5x6x7x8x9w10x1x2",
    "x3x4x5x6x7x8yAyBx9w20x1x2x3x4x5yAx6x7x8x9w30x1x2x3yAx4yAx5yAx6x7yAx8x9w40x1x2vL001y2y3y4y5zAy",
    "6y7y8y9x10y1y2y3y4y5y6y7zAy8y9x20vU001y2y3y4y5y6y7y8y9x10zAy1zAy2y3y4y5y6y7y8zAy9x20y1y2zAuO0",
    "01yAx2x3x4x5yAx6yAyByCyDyEyFx7x8x9w10yAyByCx1x2x3x4x5x6x7x8x9yAw20yAx1x2x3x4yAx5yAx6x7x8x9yAw",
    "30yAx1x2x3yAx4x5x6yAyByCyDx7x8x9w40x1x2x3x4x5x6x7x8x9w50yAyBx1uP001yAx2x3yAx4x5x6x7x8x9w10x1u",
    "Q001x2x3x4x5x6x7uR001x2yAx3yAyBx4x5x6x7x8x9w10yAx1x2x3x4x5x6yAx7x8x9w20x1x2x3x4x5x6x7x8x9uS00",
    "1x2yAx3x4x5x6yAx7x8x9w10x1x2x3x4yAyBx5x6x7yAx8x9w20x1x2x3x4x5x6yAyBx7x8x9w30x1x2x3x4x5yAx6x7x",
    "8x9w40x1x2x3x4x5x6uT001x2x3yAx4x5x6x7yAx8yAx9yAw10x1yAx2x3x4x5x6yAx7x8x9w20x1x2x3x4x5x6x7x8x9",
    "w30x1x2yAx3yAx4x5x6uU001x2x3x4x5x6yAyBx7x8x9w10x1x2x3x4x5x6x7x8x9w20x1x2x3yAx4x5x6x7x8x9yAw30",
    "x1x2yAx3x4x5x6x7x8x9w40x1x2uV001yAyByCyDyEyFyGyHyIx2yAx3x4x5x6x7yAyBx8x9w10x1yAyByCx2yAyBx3x4",
    "x5x6x7x8x9w20yAyByCyDyEyFyGyHyIyJyKyLx1x2x3yAx4x5x6x7x8yAx9yAw30yAx1yAx2x3yAx4x5x6x7yAx8x9w40",
    "yAuW001x2x3yAx4x5x6x7x8x9yAw10yAx1x2x3x4yAx5x6x7yAx8yAx9w20x1x2x3x4yAx5uX001x2x3x4yAyBx5x6yAx",
    "7x8yAuY001yAx2x3x4x5x6x7x8uZ001x2yAyByCyDx3yAyBx4yAx5yAx6x7x8x9w10x1x2x3x4x5yAyByCyDyEyFyGyHy",
    "Ix6yAyByCyDyEyFyGyHuAA001y2y3y4y5y6y7zAzBy8y9x10y1y2y3y4y5y6y7y8y9x20y1y2y3y4y5y6y7y8y9x30y1y",
    "2"]),
  (0x13430, ["aEGYPTIAN HIEROGLYPH VERTICAL JOINERuHORIZONTAL JOINERuINSERT AT TOP STARTbeBOTTOM S",
    "TARTbeTOP ENDbeBOTTOM ENDuOVERLAY MIDDLEuBEGIN SEGMENTuEND SEGMENT"]),
  (0x14400, ["aANATOLIAN HIEROGLYPH A001y2y3y4y5y6y7y8y9x10zAy1y2y3y4y5y6y7y8y9x20y1y2y3y4y5y6zAy7",
    "y8y9x30y1y2y3y4y5y6y7y8y9zAx40y1zAy2y3y4y5zAy6zAzBy7y8y9x50y1y2y3y4y5y6y7y8y9x60y1y2y3y4y5y6z",
    "AzBzCy7y8y9x70y1y2y3y4y5y6y7y8y9x80y1y2y3y4y5y6y7y8y9x90y1y2y3y4y5y6y7zAy8zAy9w100zAy1zAy2zAy",
    "3y4zAzBzCy5zAzBy6y7zAzBzCy8y9x10zAzBy1y2y3y4y5zAy6y7y8y9x20y1y2y3y4y5zAy6y7y8y9x30y1y2y3y4y5z",
    "Ay6y7y8y9x40y1y2y3y4y5y6y7y8y9x50y1y2y3y4y5y6y7y8y9x60y1y2y3y4y5y6y7y8y9x70y1y2y3y4y5y6y7y8y9",
    "x80y1y2y3y4y5y6y7y8y9x90y1y2y3y4y5y6y7y8y9w200y1y2zAzBy3y4y5y6y7zAy8y9zAx10y1y2y3y4y5zAy6zAy7",
    "y8y9x20y1y2y3y4y5y6y7zAy8y9x30y1y2y3y4y5y6y7y8y9x40y1y2y3y4y5y6y7y8y9x50y1y2y3y4y5y6y7y8y9x60",
    "y1y2y3y4y5y6y7zAy8y9x70y1y2y3y4y5y6y7y8y9x80y1y2y3y4y5y6y7y8y9zAx90y1y2y3y4zAy5y6y7y8y9zAw300",
    "y1y2y3y4y5y6y7y8y9zAx10y1y2y3y4y5y6y7y8y9x20y1y2y3y4y5y6y7y8y9zAx30y1y2AzBzCy3y4y5y6zAzBzCy7y",
    "8y9x40y1y2y3y4y5y6y7y8y9x50y1y2y3y4y5y6y7y8y9zAx60y1y2y3y4zAy5y6y7y8zAy9x70y1zAy2y3y4y5y6y7y8",
    "y9x80y1zAy2y3 RA OR RIzAy4y5y6zAy7y8y9x90y1y2y3 EIGHTy4y5y6y7y8y9w400y1y2y3y4y5y6y7y8y9x10 BE",
    "GIN LOGOGRAM MARKzA END LOGOGRAM MARKy1y2y3y4y5y6y7y8y9x20y1y2y3y4y5y6y7y8y9x30y1y2y3y4y5y6y7",
    "y8y9x40y1y2y3y4y5y6y7y8y9x50zAy1y2y3y4y5y6y7zAy8y9x60y1y2y3y4y5y6y7y8y9x70y1y2y3y4y5y6y7y8y9x",
    "80y1y2y3y4y5y6y7y8y9x90y1y2y3y4y5y6y7w501y2y3y4y5y6y7y8y9x10y1y2y3y4y5y6y7y8y9x20y1y2y3y4y5y6",
    "y7y8y9x30"]),
  (0x16800, ["aBAMUM LETTER PHASE-A NGKUE MFONvGBIEE FONvPON MFON PIPAEMGBIEEbkBAvNAA MFONvSHUENSH",
    "UETvTITA MFONvNZA MFONvSHINDA PA NJIvPON PA NJI PIPAEMGBIEEbmBAvMAEMBGBIEEvTU MAEMBAvNGANGUvM",
    "AEMVEUXxNSUAEwVEUAENGAMvSEUNYAMvNTOQPENvKEUKEUTNDAvNKINDIvSUUvNGKUENZEUMvLAPAQwET KUTvNTAP MF",
    "AAvMAEKEUPvPASHAEvGHEUAERAEvPAMSHAEvMON NGGEUAETvNZUN MEUTvU YUQ NAEvGHEUAEGHEUAEvNTAP NTAAvS",
    "ISAvMGBASAwEUNJOMNDEUQwOOMPUQvKAFAvPA LEERAEWAvNDA LEERAEWAvPETvMAEMKPENvNIKAvPUPvTUAEPvLUAEP",
    "vSONJAMvTEUTEUWENvMAENYIvKETvNDAANGGEUAETvKUOQvMOOMEUTvSHUMvLOMMAEvFIRIvROMvKPOQvSOQvMAP PIEE",
    "TvSHIRAEvNTAPvSHOQ NSHUT YUMvNYIT MONGKEUAEQvPAARAEvNKAARAEvUNKNOWNvNGGENvMAESIvNJAMvMBANYIvN",
    "YETvTEUAENvSOTvPAAMvNSHIEEvMAEMvNYIvKAQvNSHAvVEEvLUvNENwAQvMBAQtB NSHUETvTU MAEMGBIEEvSIEEwET",
    " TUvLOM NTEUMvMBA MAELEEvKIEEMvYEURAEvMBAARAEvKAMvPEESHIvYAFU LEERAEWAvLAM NSHUT NYAMvNTIEE S",
    "HEUOQwDU NJAAvGHEUGHEUAEMvPITvTU NSIEEvSHET NJAQyUAEQTUvMFON TEUAEQwBIT MBAAKETvNYI NTEUMvKEU",
    "PUQvGHEUGHENvKEUYEUXvLAANAEvPARUMvVEUMvNGKINDI MVOPxGEU MBUvWUAETvSAKEUAEvTAAMvMEUQvNGGUOQbb ",
    "LARGEvMFIYAQvSUEvMBEURIwONTIEENvNYAEMAEvPUNGAAMvMEUT NGGEETvFEUXvMBUOQvFEEvKEUAEMvMA NJEUAENA",
    "baUQAvLETvNGGAAMwSENvMAvKIQvNGOMtC NGKUE MAEMBAwZAvYUMvWANGKUOQvNGGENwDEUAEREEwGKAQvGHARAEvMB",
    "EEKEETvGBAYIvNYIR MKPARAQ MEUNwTU MBITvMBEUMvPIRIEENvNDOMBUvMBAA CABBAGE-TREEvKEUSHEUAEPvGHAP",
    "vKEUKAQvYU MUOMAEvNZEUMvMBUEvNSEUAENvMBITvYEUQvKPARAQwAAvSEUXvNDIDAvTAASHAEvNJUEQvTITA YUEvSU",
    "AETvNGGUAEN NYAMvVEUXvNANSANAQvMA KEUAERIvNTAAwGGUONvLAPvMBIRIEENwGBASAQvNTEUNGBAvTEUTEUXvNGG",
    "UMvFUEvNDEUTwSAxHAQvBUNGvVEUAEPENvMBERAEvRUvNJAEMvLAMvTITUAEPvNSUOT NGOMwJEEEEvKETvNGGUvMAESI",
    "wBUAEMvLUvKUTvNJAMwGOMvWUPvNGGUEETwSOMwTENvKUOP NKAARAEvNSUNwDAMvMA NSIEEvYAAvNDAPvSHUEQwETFO",
    "NvMBIwAEMBAwBANYIvKEUSEUXvMBEUXvKEUMvMBAA PICKETvYUWOQvNJEUXvMIEEwUAEvSHIQvKEN LAWzFATIGUEvNG",
    "AQwAQvLIQvPINwENvTETtD MBUOvWAPvNJIvMFONvNJIEEvLIEEvNJEUTwSHEEwGGAAMAEwYAMvWUAENvNGKUNvSHEEvN",
    "GKAPvKEUAETMEUNvTEUTvSHEUAEvNJAPvSUEvKETvYAEMMAEvKUOMvSAPvMFEUTvNDEUXvMALEERIwEUTvSEUAEQvYENv",
    "NJEUAEMvKEUOT MBUAEvNGKEURIvTUvGHAAvNGKYEEvFEUFEUAETvNDEEvMGBOFUMvLEUAEPvNDONvMONIwGBEUNvPUUT",
    "vMGBIEEwFOvLUMvNSIEEPvMBAAvKWAETvNYETvTEUAENvSOTvYUWOQvKEUMvRAEMvTEEEEvNGKEUAEQvMFEUAEvNSIEET",
    "vKEUPvPIPwEUTAEvNYUEvLETvNGGAAMvMFIEEvNGGWAENvYUOMvPAPvYUOPvNDAMwTEUMvSUAEvKUNvNGGEUXxKIEEvTU",
    "OTvMEUNvKUQvNSUMvTEUNvMAENJETvNGGAPvLEUMvNGGUOMwSHUTwJUEQvGHEUAEvKUvREN OLDvTAEwOQvNYIvRIIvLE",
    "EEEvMEEEEvMvSUUvMUvSHIIxEUXvKYEEvNUvSHUvNTEEvPEEvNIvSHOQvPUQvMVOPvLOQvREN MUCHvTIvNTUUvMBAA S",
    "EVENvSAQvFAAtE NDAPvTOONvMBEUMvLAPvVOMvLOONvPAAvSOMvRAQvNSHUOPwDUNvPUAEvTAMvNGKAvKPEUXvWUOvSE",
    "EvNGGEUAETvPAAMvTOOvKUOPvLOMvNSHIEEwGOPvMAEMvNGKEUXxOQwSHUEvRIMGBAvNJEUXvPEEMvSAAvNGGURAEvMGB",
    "AvGHEUXvNGKEUAEMwJAEMLIvMAPvLOOTvNGGEEEEwDIQvTAEN NTEUMvSETvPUMvNDAA SOFTNESSwGGUAESHAE NYAMv",
    "YIEEvGHEUNvTUAEvYEUAEvPOvTUMAEvKEUAEvSUAENvTEUAEQvVEUAEvWEUXvLAAMvPUvTAAQvGHAAMAEvNGEUREUTvSH",
    "EUAEQvMGBENwBEEvNZAQwKOMvGBETvTUMvKUETvYAPvNYI CLEAVERvYITvMFEUQvNDIAQvPIEEQvYUEQvLEUAEMvFUEv",
    "GBEUXvNGKUPvKETvMAEvNGKAAMIvGHETvFAvNTUMvPEUTvYEUMvNGGEUAEwYI BETWEENwZUQvPOONvMIEEvFUETvNAEv",
    "MUAEvGHEUAEvFU IvMVIvPUAQvNGKUMvKUTvPIETvNTAPvYEUAETvNGGUPvPA PEOPLEvFU CALLwOMvNJEEvAvTOQvOv",
    "IvLAQvPA PLURALvTAAxQvNDAA MY HOUSEvSHIQvYEUXvNGUAEvYUAENwOQ SWIMMINGzCOVERwUQxNvKEUXvPEUXvNJ",
    "EE EPOCHvPUEvWUEvFEEvVEEvLUvMIvREUXwAEvNGUAETxAvSHOyQvFU REMEDYvNAvPIvLOQvKOvMENwAxQvTEUvKIvM",
    "ONvTENvFAQvGHOMtF KAvUvKUvEEvREEvTAEvNYIvLAvRIIxEEvMEEEEvTAAvNDAAwJAEMvMvSUUwHIIwIwEUXvKYEEwE",
    "TvNUAEwUwJUAEvYOQvSHUvYAvNSHAvPEUXvNTEEvWUEvPEEvRUvNIvREUXvKENvNGKWAENxGAvSHOvPUAEvFOMvWAvLIw",
    "OQvKOvMBENvRENvMAwOwBAAvTETvKPAvSAMBAvVUEQ"]),
  (0x16a40, ["aMRO LETTER TAlNGIlYOlMIMlBAlDAlAlPHIlKHAIlHAOlDAIlCHUlKEAAElOLlMAEMlNINlPAlOOlOlROl",
    "SHIlTHEAlEAlWAlElKOlLANmAlHAIlRIlTEK"]),
  (0x16a60, ["aMRO DIGIT ZEROkONEkTWOlHREEkFOURlIVEkSIXlEVENkEIGHTkNINE"]),
  (0x16a6e, ["aMRO DANDAfOUBLE DANDAaTANGSA LETTER OZpCpQpXoAZpCpQpXoVZpCpQpXoEZpCpQpXoIZpCpQpXoUZ",
    "pCpQpXoAWZqCqQqXoUIZqCqQqXoFINAL NGoLONG UEXoSHORT UEZuAWXoUECqZqQqXpIUZrCrQrXoMZpCpQpXoKApHA",
    "oGAoNGAoSAoYAoWAoPAoNYAoPHAoBAoMAoNAoHAoLAoHTAoTAoDAoRAoNHAoSHAoCAoTSAoGHAoHTTAoTHAoXAoFAoDHA",
    "oCHAoZA"]),
  (0x16ac0, ["aTANGSA DIGIT ZEROnONEnTWOoHREEnFOURoIVEnSIXoEVENnEIGHTnNINE"]),
  (0x16ad0, ["aBASSA VAH LETTER ENNIrKArSErFArMBErYIErGAHrDHIIrKPAHrJOrHWAHrWArZOrGBUrDOrCErUWUrTO",
    "rBArVUrYEINrPArWADDArArOsOrUrEErErI"]),
  (0x16af0, ["aBASSA VAH COMBINING HIGH TONEuLOW TONEuMID TONEuLOW-MID TONEuHIGH-LOW TONEkFULL STO",
    "P"]),
  (0x16b00, ["aPAHAWH HMONG VOWEL KEEBwVuIBvVuAUBwVuUBvVuEBvVuAIBwVuOOBwVuAWBwVuUABwVuOBvVuIABwVuA",
    "BvVuWBvVuAABwVnCONSONANT VAUxNTSAUxLAUxHAUxNLAUxRAUxNKAUxQHAUxYAUxHLAUxMAUxCHAUxNCHAUxHNAUxPL",
    "HAUxNTHAUyAUxAUxXAUxCAUnMARK CIM TUBwSOwKESxHAVwSUAMwHOMwTAUMnSIGN VOS THOMxSHAB CEEBsCIM CHE",
    "EMsVOS THIABwFEEMsXYEEM NTXIVyRHOyTOVyFAIBsVOS SEEVsMEEJ SUABsVOS NRUAsIB YAMsXAUSsCIM TSOV R",
    "OG"]),
  (0x16b50, ["aPAHAWH HMONG DIGIT ZEROtONEtTWOuHREEtFOURuIVEtSIXuEVENtEIGHTtNINE"]),
  (0x16b5b, ["aPAHAWH HMONG NUMBER TENSuHUNDREDSuTEN THOUSANDSuMILLIONSuHUNDRED MILLIONSuTEN BILLI",
    "ONSvRILLIONS"]),
  (0x16b63, ["aPAHAWH HMONG SIGN VOS LUBsXYOOsHLIsTHIRD-STAGE HLIsZWJ THAJsHNUBsNQIGsXIABsNTUJsAVs",
    "TXHEEJ CEEVsMEEJ TSEEBsTAUsLOSsMUSsCIM HAIS LUS NTOG NTOGwCUAM TSHOOJwTXWVba CHWVwPUB DAWBwNR",
    "ES TOS"]),
  (0x16b7d, ["aPAHAWH HMONG CLAN SIGN TSHEEJxYEEGxLISyAUJxXYOOJxKOOxHAWJxMUASxTHOJySABxPHABxKHABxH",
    "AMxVAJxFAJxYAJxTSWBxKWMxVWJ"]),
  (0x16e40, ["aMEDEFAIDRIN CAPITAL LETTER MbbSbbVbbWbbATIUbbZbbKPbbPbbTbbGbbFbbIbbKbbAbbJbbEbbBbbC",
    "bbUbbYUbbLbbQbbHPbbNYbbXbbDbbOEbbNbbRbbObbAIbbYmSMALL LETTER MzSzVzWzATIUzZzKPzPzTzGzFzIzKzAz",
    "JzEzBzCzUzYUzLzQzHPzNYzXzDzOEzNzRzOzAIzYmDIGIT ZEROsONEsTWOtHREEsFOURtIVEsSIXtEVENsEIGHTsNINE",
    "mNUMBER TENtELEVENtTWELVEuHIRTEENtFOURTEENuIFTEENtSIXTEENuEVENTEENtEIGHTEENtNINETEENmDIGIT ON",
    "E ALTERNATE FORMsTWO ALTERNATE FORMtHREE ALTERNATE FORMmCOMMAmFULL STOPmSYMBOL AIVAmEXCLAMATI",
    "ON OH"]),
  (0x16f00, ["aMIAO LETTER PAmBAmYI PAmPLAmMAnHAmARCHAIC MAmFAmVAnFAmTAmDAmYI TTAqAmTTAmDDAmNAnHAm",
    "YI NNAmARCHAIC NAmNNAoHAmLAnYAnHAoYAmTLHAmDLHAmTLHYAmDLHYAmKAmGAmYI KAmQAnGAmNGAoHAmARCHAIC N",
    "GAmHAmXAmGHAoHAmTSSAmDZZAmNYAoHAmTSHAmDZHAmYI TSHApDZHAmREFORMED TSHAmSHAnSAmZHAnSHAmTSAmDZAm",
    "YI TSAmSAmZAnSAnZAoSAmARCHAIC ZZAmZZYAoSYAmWAmAHmHHAmBRImSYImDZYImTEnSEmRTE"]),
  (0x16f4f, ["aMIAO SIGN CONSONANT MODIFIER BARfLETTER NASALIZATIONfSIGN ASPIRATIONkREFORMED VOICI",
    "NGtASPIRATIONfVOWEL SIGN ArArHHrNsGqOrOqWOqWqErNsGqOEYqIrAsNtGrOrErIrUrNGqUrAsNtGrUrEIrNGqYrI",
    "qAEsEqERRqROUNDED ERRqERqROUNDED ERqAIqEIqAUqOUqNrGqUOGqYUIqOGrERqVWqIGqEAqIONGqUI"]),
  (0x16f8f, ["aMIAO TONE RIGHTkTOP RIGHTkABOVEkBELOWfLETTER TONE-2r3r4r5r6r7r8mREFORMED TONE-1ba2b",
    "a4ba5ba6ba8"]),
  (0x16fe0, ["aTANGUT ITERATION MARKaNUSHU ITERATION MARKaOLD CHINESE HOOK MARKmITERATION MARKaKHI",
    "TAN SMALL SCRIPT FILLER"]),
  (0x16ff0, ["aVIETNAMESE ALTERNATE READING MARK CAbiNHAY"]),
  (0x18800, ["aTANGUT COMPONENT-001t2t3t4t5t6t7t8t9s10t1t2t3t4t5t6t7t8t9s20t1t2t3t4t5t6t7t8t9s30t1",
    "t2t3t4t5t6t7t8t9s40t1t2t3t4t5t6t7t8t9s50t1t2t3t4t5t6t7t8t9s60t1t2t3t4t5t6t7t8t9s70t1t2t3t4t5t",
    "6t7t8t9s80t1t2t3t4t5t6t7t8t9s90t1t2t3t4t5t6t7t8t9r100t1t2t3t4t5t6t7t8t9s10t1t2t3t4t5t6t7t8t9s",
    "20t1t2t3t4t5t6t7t8t9s30t1t2t3t4t5t6t7t8t9s40t1t2t3t4t5t6t7t8t9s50t1t2t3t4t5t6t7t8t9s60t1t2t3t",
    "4t5t6t7t8t9s70t1t2t3t4t5t6t7t8t9s80t1t2t3t4t5t6t7t8t9s90t1t2t3t4t5t6t7t8t9r200t1t2t3t4t5t6t7t",
    "8t9s10t1t2t3t4t5t6t7t8t9s20t1t2t3t4t5t6t7t8t9s30t1t2t3t4t5t6t7t8t9s40t1t2t3t4t5t6t7t8t9s50t1t",
    "2t3t4t5t6t7t8t9s60t1t2t3t4t5t6t7t8t9s70t1t2t3t4t5t6t7t8t9s80t1t2t3t4t5t6t7t8t9s90t1t2t3t4t5t6",
    "t7t8t9r300t1t2t3t4t5t6t7t8t9s10t1t2t3t4t5t6t7t8t9s20t1t2t3t4t5t6t7t8t9s30t1t2t3t4t5t6t7t8t9s4",
    "0t1t2t3t4t5t6t7t8t9s50t1t2t3t4t5t6t7t8t9s60t1t2t3t4t5t6t7t8t9s70t1t2t3t4t5t6t7t8t9s80t1t2t3t4",
    "t5t6t7t8t9s90t1t2t3t4t5t6t7t8t9r400t1t2t3t4t5t6t7t8t9s10t1t2t3t4t5t6t7t8t9s20t1t2t3t4t5t6t7t8",
    "t9s30t1t2t3t4t5t6t7t8t9s40t1t2t3t4t5t6t7t8t9s50t1t2t3t4t5t6t7t8t9s60t1t2t3t4t5t6t7t8t9s70t1t2",
    "t3t4t5t6t7t8t9s80t1t2t3t4t5t6t7t8t9s90t1t2t3t4t5t6t7t8t9r500t1t2t3t4t5t6t7t8t9s10t1t2t3t4t5t6",
    "t7t8t9s20t1t2t3t4t5t6t7t8t9s30t1t2t3t4t5t6t7t8t9s40t1t2t3t4t5t6t7t8t9s50t1t2t3t4t5t6t7t8t9s60",
    "t1t2t3t4t5t6t7t8t9s70t1t2t3t4t5t6t7t8t9s80t1t2t3t4t5t6t7t8t9s90t1t2t3t4t5t6t7t8t9r600t1t2t3t4",
    "t5t6t7t8t9s10t1t2t3t4t5t6t7t8t9s20t1t2t3t4t5t6t7t8t9s30t1t2t3t4t5t6t7t8t9s40t1t2t3t4t5t6t7t8t",
    "9s50t1t2t3t4t5t6t7t8t9s60t1t2t3t4t5t6t7t8t9s70t1t2t3t4t5t6t7t8t9s80t1t2t3t4t5t6t7t8t9s90t1t2t",
    "3t4t5t6t7t8t9r700t1t2t3t4t5t6t7t8t9s10t1t2t3t4t5t6t7t8t9s20t1t2t3t4t5t6t7t8t9s30t1t2t3t4t5t6t",
    "7t8t9s40t1t2t3t4t5t6t7t8t9s50t1t2t3t4t5t6t7t8t9s60t1t2t3t4t5t6t7t8aKHITAN SMALL SCRIPT CHARAC",
    "TER-18B00bi1bi2bi3bi4bi5bi6bi7bi8bi9biAbiBbiCbiDbiEbiFbh10bi1bi2bi3bi4bi5bi6bi7bi8bi9biAbiBbi",
    "CbiDbiEbiFbh20bi1bi2bi3bi4bi5bi6bi7bi8bi9biAbiBbiCbiDbiEbiFbh30bi1bi2bi3bi4bi5bi6bi7bi8bi9biA",
    "biBbiCbiDbiEbiFbh40bi1bi2bi3bi4bi5bi6bi7bi8bi9biAbiBbiCbiDbiEbiFbh50bi1bi2bi3bi4bi5bi6bi7bi8b",
    "i9biAbiBbiCbiDbiEbiFbh60bi1bi2bi3bi4bi5bi6bi7bi8bi9biAbiBbiCbiDbiEbiFbh70bi1bi2bi3bi4bi5bi6bi",
    "7bi8bi9biAbiBbiCbiDbiEbiFbh80bi1bi2bi3bi4bi5bi6bi7bi8bi9biAbiBbiCbiDbiEbiFbh90bi1bi2bi3bi4bi5",
    "bi6bi7bi8bi9biAbiBbiCbiDbiEbiFbhA0bi1bi2bi3bi4bi5bi6bi7bi8bi9biAbiBbiCbiDbiEbiFbhB0bi1bi2bi3b",
    "i4bi5bi6bi7bi8bi9biAbiBbiCbiDbiEbiFbhC0bi1bi2bi3bi4bi5bi6bi7bi8bi9biAbiBbiCbiDbiEbiFbhD0bi1bi",
    "2bi3bi4bi5bi6bi7bi8bi9biAbiBbiCbiDbiEbiFbhE0bi1bi2bi3bi4bi5bi6bi7bi8bi9biAbiBbiCbiDbiEbiFbhF0",
    "bi1bi2bi3bi4bi5bi6bi7bi8bi9biAbiBbiCbiDbiEbiFbgC00bi1bi2bi3bi4bi5bi6bi7bi8bi9biAbiBbiCbiDbiEb",
    "iFbh10bi1bi2bi3bi4bi5bi6bi7bi8bi9biAbiBbiCbiDbiEbiFbh20bi1bi2bi3bi4bi5bi6bi7bi8bi9biAbiBbiCbi",
    "DbiEbiFbh30bi1bi2bi3bi4bi5bi6bi7bi8bi9biAbiBbiCbiDbiEbiFbh40bi1bi2bi3bi4bi5bi6bi7bi8bi9biAbiB",
    "biCbiDbiEbiFbh50bi1bi2bi3bi4bi5bi6bi7bi8bi9biAbiBbiCbiDbiEbiFbh60bi1bi2bi3bi4bi5bi6bi7bi8bi9b",
    "iAbiBbiCbiDbiEbiFbh70bi1bi2bi3bi4bi5bi6bi7bi8bi9biAbiBbiCbiDbiEbiFbh80bi1bi2bi3bi4bi5bi6bi7bi",
    "8bi9biAbiBbiCbiDbiEbiFbh90bi1bi2bi3bi4bi5bi6bi7bi8bi9biAbiBbiCbiDbiEbiFbhA0bi1bi2bi3bi4bi5bi6",
    "bi7bi8bi9biAbiBbiCbiDbiEbiFbhB0bi1bi2bi3bi4bi5bi6bi7bi8bi9biAbiBbiCbiDbiEbiFbhC0bi1bi2bi3bi4b",
    "i5bi6bi7bi8bi9biAbiBbiCbiDbiEbiFbhD0bi1bi2bi3bi4bi5"]),
  (0x1aff0, ["aKATAKANA LETTER MINNAN TONE-2bc3bc4bc5"]),
  (0x1aff5, ["aKATAKANA LETTER MINNAN TONE-7bc8xNASALIZED TONE-1bm2bm3bm4bm5"]),
  (0x1affd, ["aKATAKANA LETTER MINNAN NASALIZED TONE-7bm8"]),
  (0x1b000, ["aKATAKANA LETTER ARCHAIC EaHIRAGANA LETTER ARCHAIC YEbENTAIGANA LETTER A-1u2u3uWOsI-",
    "1u2u3u4sU-1u2u3u4u5sE-2u3u4u5u6sO-1u2u3sKA-1v2v3v4v5v6v7v8v9v10w1vKEtI-1v2v3v4v5v6v7v8tU-1v2v",
    "3v4v5v6v7tE-1v2v3v4v5v6tO-1v2v3vKIsSA-1v2v3v4v5v6v7v8tI-1v2v3v4v5v6tU-1v2v3v4v5v6v7v8tE-1v2v3",
    "v4v5tO-1v2v3v4v5v6v7sTA-1v2v3v4tI-1v2v3v4v5v6v7tU-1v2v3v4vTOtE-1v2v3v4v5v6v7v8v9tO-1v2v3v4v5v",
    "6vRAsNA-1v2v3v4v5v6v7v8v9tI-1v2v3v4v5v6v7vTEtU-1v2v3tE-1v2v3v4v5v6vKOtO-1v2v3v4v5sHA-1v2v3v4v",
    "5v6v7v8v9v10w1tI-1v2v3v4v5v6v7tU-1v2v3tE-1v2v3v4v5v6v7tO-1v2v3v4v5v6v7v8sMA-1v2v3v4v5v6v7tI-1",
    "v2v3v4v5v6v7tU-1v2v3v4tE-1v2vMAtO-1v2v3v4v5v6sYA-1v2v3v4v5vYOtU-1v2v3v4tO-1v2v3v4v5v6sRA-1v2v",
    "3v4tI-1v2v3v4v5v6v7tU-1v2v3v4v5v6tE-1v2v3v4tO-1v2v3v4v5v6sWA-1v2v3v4v5tI-1v2v3v4v5tE-1v2v3v4t",
    "O-1v2v3v4v5v6v7sN-MU-MO-1ba2bIRAGANA LETTER ARCHAIC WUaKATAKANA LETTER ARCHAIC YIzEyWU"]),
  (0x1b150, ["aHIRAGANA LETTER SMALL WIxExO"]),
  (0x1b164, ["aKATAKANA LETTER SMALL WIxExOwN"]),
  (0x1b170, ["aNUSHU CHARACTER-1B170u1u2u3u4u5u6u7u8u9uAuBuCuDuEuFt80u1u2u3u4u5u6u7u8u9uAuBuCuDuEu",
    "Ft90u1u2u3u4u5u6u7u8u9uAuBuCuDuEuFtA0u1u2u3u4u5u6u7u8u9uAuBuCuDuEuFtB0u1u2u3u4u5u6u7u8u9uAuBu",
    "CuDuEuFtC0u1u2u3u4u5u6u7u8u9uAuBuCuDuEuFtD0u1u2u3u4u5u6u7u8u9uAuBuCuDuEuFtE0u1u2u3u4u5u6u7u8u",
    "9uAuBuCuDuEuFtF0u1u2u3u4u5u6u7u8u9uAuBuCuDuEuFs200u1u2u3u4u5u6u7u8u9uAuBuCuDuEuFt10u1u2u3u4u5",
    "u6u7u8u9uAuBuCuDuEuFt20u1u2u3u4u5u6u7u8u9uAuBuCuDuEuFt30u1u2u3u4u5u6u7u8u9uAuBuCuDuEuFt40u1u2",
    "u3u4u5u6u7u8u9uAuBuCuDuEuFt50u1u2u3u4u5u6u7u8u9uAuBuCuDuEuFt60u1u2u3u4u5u6u7u8u9uAuBuCuDuEuFt",
    "70u1u2u3u4u5u6u7u8u9uAuBuCuDuEuFt80u1u2u3u4u5u6u7u8u9uAuBuCuDuEuFt90u1u2u3u4u5u6u7u8u9uAuBuCu",
    "DuEuFtA0u1u2u3u4u5u6u7u8u9uAuBuCuDuEuFtB0u1u2u3u4u5u6u7u8u9uAuBuCuDuEuFtC0u1u2u3u4u5u6u7u8u9u",
    "AuBuCuDuEuFtD0u1u2u3u4u5u6u7u8u9uAuBuCuDuEuFtE0u1u2u3u4u5u6u7u8u9uAuBuCuDuEuFtF0u1u2u3u4u5u6u",
    "7u8u9uAuB"]),
  (0x1bc00, ["aDUPLOYAN LETTER HqXqPqTqFqKqLqBqDqVqGqRqP NqD SqF NqK MqR SqTHqSLOAN DHqDHqKKqSLOAN",
    " JqHLqLHqRHqMqNqJqSqM NqN MqJ MqS JqM WITH DOTqN WITH DOTqJ WITH DOTbaS INSIDE AND ABOVEqS WI",
    "TH DOTba BELOWqM SqN SqJ SqS SqM N SqN M SqJ M SqS J SqJ S WITH DOTsNt SqS Tt RsPt RqT SsR Sq",
    "WrHr RqS NsMqK R SqG R SqS Kt RqAqSLOAN OWqOAqOqAOUqIqEqIEqSHORT IqUIqEEqSLOAN EHqROMANIAN Iq",
    "SLOAN EEqLONG IqYEqUqEUqXWqU NqLONG UqROMANIAN UqUHqSLOAN UqOOHrWrUqWArOrIrEIrOWqNASAL UwOwIw",
    "AqPERNIN ANyMqSLOAN ENwANwONqVOCALIC M"]),
  (0x1bc70, ["aDUPLOYAN AFFIX LEFT HORIZONTAL SECANTpMID HORIZONTAL SECANTpRIGHT HORIZONTAL SECANT",
    "pLOW VERTICAL SECANTpMID VERTICAL SECANTpHIGH VERTICAL SECANTpATTACHED SECANTyLEFT-TO-RIGHT S",
    "ECANTyTANGENTbaILyE HOOKyI HOOKyTANGENT HOOK"]),
  (0x1bc80, ["aDUPLOYAN AFFIX HIGH ACUTEuTIGHT ACUTEuGRAVEuLONG GRAVEuDOTuCIRCLEuLINEuWAVEuVERTICA",
    "L"]),
  (0x1bc90, ["aDUPLOYAN AFFIX LOW ACUTEtTIGHT ACUTEtGRAVEtLONG GRAVEtDOTtCIRCLEtLINEtWAVEtVERTICAL",
    "tARROW"]),
  (0x1bc9c, ["aDUPLOYAN SIGN O WITH CROSSjTHICK LETTER SELECTORjDOUBLE MARKjPUNCTUATION CHINOOK FU",
    "LL STOPaSHORTHAND FORMAT LETTER OVERLAPrCONTINUING OVERLAPrDOWN STEPrUP STEP"]),
  (0x1cf00, ["aZNAMENNY COMBINING MARK GORAZDO NIZKO S KRYZHEM ON LEFTyNIZKO S KRYZHEM ON LEFTyTSA",
    "TA ON LEFTyGORAZDO NIZKO ON LEFTyNIZKO ON LEFTySREDNE ON LEFTyMALO POVYSHE ON LEFTyPOVYSHE ON",
    " LEFTyVYSOKO ON LEFTyMALO POVYSHE S KHOKHLOM ON LEFTyPOVYSHE S KHOKHLOM ON LEFTyVYSOKO S KHOK",
    "HLOM ON LEFTyGORAZDO NIZKO S KRYZHEM ON RIGHTyNIZKO S KRYZHEM ON RIGHTyTSATA ON RIGHTyGORAZDO",
    " NIZKO ON RIGHTyNIZKO ON RIGHTySREDNE ON RIGHTyMALO POVYSHE ON RIGHTyPOVYSHE ON RIGHTyVYSOKO ",
    "ON RIGHTyMALO POVYSHE S KHOKHLOM ON RIGHTyPOVYSHE S KHOKHLOM ON RIGHTyVYSOKO S KHOKHLOM ON RI",
    "GHTyTSATA S KRYZHEMyMALO POVYSHE S KRYZHEMySTRANNO MALO POVYSHEyPOVYSHE S KRYZHEMbhTRANNOyVYS",
    "OKO S KRYZHEMyMALO POVYSHE STRANNOyGORAZDO VYSOKOyZELOyONyRAVNOyTIKHAYAyBORZAYAyUDARKAyPODVER",
    "TKAyLOMKAyKUPNAYAzACHKAyZEVOKySKOBAyRAZSEKAyKRYZH ON LEFT"]),
  (0x1cf30, ["aZNAMENNY COMBINING TONAL RANGE MARK MRACHNObkSVETLObkTRESVETLOtMARK ZADERZHKAyDEMES",
    "TVENNY ZADERZHKAyOTSECHKAyPODCHASHIEbi WITH VERTICAL STROKEyCHASHKAbf POLNAYAyOBLACHKOySOROCH",
    "YA NOZHKAyTOCHKAyDVOETOCHIEtATTACHING VERTICAL OMETtMARK CURVED OMETyKRYZHtLOWER TONAL RANGE ",
    "INDICATORjPRIZNAK MODIFIER LEVEL-2bg3baDIRECTION FLIPbaKRYZHbaROG"]),
  (0x1cf50, ["aZNAMENNY NEUME KRYUKu TIKHYpPARAKLITpDVA V CHELNUpKLYUCHpZANOZHEKpSTOPITSAx S OCHKO",
    "MpPEREVODKAy NEPOSTOYANNAYApSTOPITSA WITH SOROCHYA NOZHKApCHELYUSTKApPALKApZAPYATAYApGOLUBCHI",
    "K BORZYzTIKHYzMRACHNYzSVETLYzTRESVETLYpVRAKHIYA PROSTAYAyMRACHNAYAySVETLAYAyTRESVETLAYAyKLYUC",
    "HEVAYA PROSTAYAbkMRACHNAYAbkSVETLAYAbkTRESVETLAYApDOUBLE ZAPYATAYApREVERSED CHELYUSTKApDERBIT",
    "SApKHAMILOpCHASHKApPODCHASHIEpSKAMEYTSA MRACHNAYAzSVETLAYAzTRESVETLAYAbaIKHAYApDEMESTVENNY KL",
    "YUCHpSKAMEYTSA KLYUCHEVAYA SVETLAYAbgNEPOSTOYANNAYAbgVAYA TIKHAYAzDVOECHELNAYA PROSTAYAbmSVET",
    "LAYAbmNEPOSTOYANNAYAbmKLYUCHEVAYAqLOZHITIEy S ZAPYATOYzZAKRYTOEzS KRYZHEMpKRYZHpROGpFITApKOBY",
    "LApZMEYTSApSTATYAv S ZAPYATOYyKRYZHEMyZAPYATOY I KRYZHEMyKRYZHEM I ZAPYATOYwZAKRYTAYAbf S ZAP",
    "YATOYwS ROGOMyDVUMYA ZAPYATYMIyZAPYATOY I PODCHASHIEMpPOLKULIZMYpSTATYA NEPOSTOYANNAYArRELA P",
    "ROSTAYAwMRACHNOTIKHAYAwKRYZHEVAYAwPOLUPOVODNAYAyVODNAYAwNEPOSTOYANNAYAwKLYUCHEPOVODNAYAbdNEPO",
    "STOYANNAYAwTIKHAYA PUTNAYAwDVOECHELNAYAbfOKRYZHEVAYAbgPOVODNAYAbfAYA KLYUCHEVAYAbfOPOVODNAYA ",
    "KLYUCHEVAYAwGROMNAYA WITH SINGLE ZAPYATAYAbaOPOVODNAYA WITH SINGLE ZAPYATAYAbaNAYAbaOPOVODNAY",
    "Abk WITH DOUBLE ZAPYATAYAbbKRYZHEVAYAbl POVODNAYApMECHIKv POVODNYwKLYUCHEVOYbdPOVODNYbdNEPOST",
    "OYANNYpSTRELA TRYASOGLASNAYAbcPOVODNAYAbcSTRELNAYApOSOKAu SVETLAYAvTRESVETLAYAvKRYUKOVAYA SVE",
    "TLAYAwLYUCHEVAYA SVETLAYAbhNEPOSTOYANNAYApSTRELA KRYUKOVAYAbg POVODNAYAbhGROMNAYA WITH SINGLE",
    " ZAPYATAYAblOPOVODNAYA WITH SINGLE ZAPYATAYAblNAYAblOPOVODNAYAbv WITH DOUBLE ZAPYATAYAbmKRYZH",
    "EVAYAbw POVODNAYAbhTRYASKApKUFISMApOBLAKOpDUDApNEMKApPAUK"])]

end TreePredicate.Text.CharacterName
