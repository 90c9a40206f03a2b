/-!
# Names of characters as data

Every named character that has no rule for its name, in order.  A line begins with the code of its
first character, in hexadecimal digits, and goes on with the names of that character and of those
that follow it directly.  A name is given by how many letters it shares with the name before it,
first at its front and then at its end, and by what stands between.  A number is a small letter, `a`
for 0, and each plus sign before it adds 26.
-/
namespace FormRules.Unicode

/-- The names of characters, each by its difference from the one before. -/
def nameTable : String :=
"20 aaSPACEaaEXCLAMATION MARKakQUOTaaNUMBER SIGNagDOLLAafPERCENTaaAMPERSANDbaPOSTROPHE
28 aaLEFT PARENTHESISanRIGHaaASTERISKaaPLUS SIGNaaCOMMAaaHYPHEN-MINUSaaFULL STOPaaSOLIDUS
30 aaDIGIT ZEROgaONEgaTWOhaHREEgaFOURhaIVEgaSIXhaEVENgaEIGHTgaNINEaaCOLONafSEMIabLESS-THAN SIG
3D afEQUALSafGREATER-THANaaQUESTION MARKaaCOMMERCIAL ATaaLATIN CAPITAL LETTER AvaBvaCvaDvaEvaFvaG
48 vaHvaIvaJvaKvaLvaMvaNvaOvaPvaQvaRvaSvaTvaUvaVvaWvaXvaYvaZbaEFT SQUARE BRACKETaaREVERSE SOLIDUS
5D baIGHT SQUARE BRACKETabCIRCUMFLEX ACCENaaLOW LINEaaGRAVE ACCENTaaLATIN SMALL LETTER AtaBtaCtaD
65 taEtaFtaGtaHtaItaJtaKtaLtaMtaNtaOtaPtaQtaRtaStaTtaUtaVtaWtaXtaYtaZbaEFT CURLY BRACKET
7C aaVERTICAL LINEaaRIGHT CURLY BRACKETaaTILDE
A0 abNO-BREAK SPACaaINVERTED EXCLAMATION MARKaaCENT SIGNafPOUNDafCURRENCYafYENaaBROKEN BAR
A7 aaSECTION SIGNaaDIAERESISaaCOPYRIGHT SIGNaaFEMININE ORDINAL INDICATOR
AB aaLEFT-POINTING DOUBLE ANGLE QUOTATION MARKaaNOT SIGNabSOFT HYPHEabREGISTERED SIGabMACRO
B0 abDEGREE SIGafPLUS-MINUSaaSUPERSCRIPT TWOnaHREEaaACUTE ACCENTaaMICRO SIGNafPILCROWaaMIDDLE DOT
B8 aaCEDILLAaaSUPERSCRIPT ONEaaMASCULINE ORDINAL INDICATOR
BB aaRIGHT-POINTING DOUBLE ANGLE QUOTATION MARKaaVULGAR FRACTION ONE QUARTERuaHALFqaTHREE QUARTERS
BF aaINVERTED QUESTION MARKaaLATIN CAPITAL LETTER A WITH GRAVE+cbACUT+caCIRCUMFLEX+caTILDE
C4 +caDIAERESIS+caRING ABOVEwbvaC WITH CEDILLAvaE WITH GRAVE+cbACUT+caCIRCUMFLEX+caDIAERESIS
CC vaI WITH GRAVE+cbACUT+caCIRCUMFLEX+caDIAERESISvaETHvaN WITH TILDEvbO WITH GRAV+cbACUT
D4 +caCIRCUMFLEX+caTILDE+caDIAERESISaaMULTIPLICATION SIGNaaLATIN CAPITAL LETTER O WITH STROKE
D9 vbU WITH GRAV+cbACUT+caCIRCUMFLEX+caDIAERESISvaY WITH ACUTEvaTHORNgaSMALL LETTER SHARP S
E0 taA WITH GRAVE+abACUT+aaCIRCUMFLEX+aaTILDE+aaDIAERESIS+aaRING ABOVEubtaC WITH CEDILLA
E8 taE WITH GRAVE+abACUT+aaCIRCUMFLEX+aaDIAERESIStaI WITH GRAVE+abACUT+aaCIRCUMFLEX+aaDIAERESIS
F0 taETHtaN WITH TILDEtbO WITH GRAV+abACUT+aaCIRCUMFLEX+aaTILDE+aaDIAERESISaaDIVISION SIGN
F8 aaLATIN SMALL LETTER O WITH STROKEtbU WITH GRAV+abACUT+aaCIRCUMFLEX+aaDIAERESIStaY WITH ACUTE
FE taTHORNtaY WITH DIAERESISgaCAPITAL LETTER A WITH MACRONgwSMALgaCAPITAL LETTER A WITH BREVE
103 gvSMALgaCAPITAL LETTER A WITH OGONEKgwSMALgaCAPITAL LETTER C WITH ACUTEgvSMAL
108 gaCAPITAL LETTER C WITH CIRCUMFLEXg+aSMALgaCAPITAL LETTER C WITH DOT ABOVEgzSMAL
10C gaCAPITAL LETTER C WITH CARONgvSMALglCAPITAL LETTER DgvSMALgaCAPITAL LETTER D WITH STROKE
111 gwSMALgaCAPITAL LETTER E WITH MACRONgwSMALgaCAPITAL LETTER E WITH BREVEgvSMAL
116 gcCAPITAL LETTER E WITH DOT ABOgzSMALgaCAPITAL LETTER E WITH OGONEKgwSMAL
11A gaCAPITAL LETTER E WITH CARONgvSMALgaCAPITAL LETTER G WITH CIRCUMFLEXg+aSMAL
11E gaCAPITAL LETTER G WITH BREVEgvSMALgcCAPITAL LETTER G WITH DOT ABOgzSMAL
122 gaCAPITAL LETTER G WITH CEDILLAgxSMALgaCAPITAL LETTER H WITH CIRCUMFLEXg+aSMAL
126 gaCAPITAL LETTER H WITH STROKEgwSMALgbCAPITAL LETTER I WITH TILDgvSMAL
12A gaCAPITAL LETTER I WITH MACRONgwSMALgaCAPITAL LETTER I WITH BREVEgvSMAL
12E gaCAPITAL LETTER I WITH OGONEKgwSMALgaCAPITAL LETTER I WITH DOT ABOVEgaSMALL LETTER DOTLESS I
132 gaCAPITAL LIGATURE IJgnSMALgaCAPITAL LETTER J WITH CIRCUMFLEXg+aSMAL
136 gaCAPITAL LETTER K WITH CEDILLAgxSMALubRgaCAPITAL LETTER L WITH ACUTEgvSMAL
13B gaCAPITAL LETTER L WITH CEDILLAgxSMALgaCAPITAL LETTER L WITH CARONgvSMAL
13F gaCAPITAL LETTER L WITH MIDDLE DOTg+aSMALgaCAPITAL LETTER L WITH STROKEgwSMAL
143 gbCAPITAL LETTER N WITH ACUTgvSMALgaCAPITAL LETTER N WITH CEDILLAgxSMAL
147 gaCAPITAL LETTER N WITH CARONgvSMALvaPRECEDED BY APOSTROPHEgaCAPITAL LETTER ENGgmSMAL
14C gaCAPITAL LETTER O WITH MACRONgwSMALgaCAPITAL LETTER O WITH BREVEgvSMAL
150 gbCAPITAL LETTER O WITH DOUBLE ACUTg+cSMALgbCAPITAL LIGATURE OgnSMAL
154 gbCAPITAL LETTER R WITH ACUTgvSMALgaCAPITAL LETTER R WITH CEDILLAgxSMAL
158 gaCAPITAL LETTER R WITH CARONgvSMALgaCAPITAL LETTER S WITH ACUTEgvSMAL
15C gaCAPITAL LETTER S WITH CIRCUMFLEXg+aSMALgaCAPITAL LETTER S WITH CEDILLAgxSMAL
160 gaCAPITAL LETTER S WITH CARONgvSMALgaCAPITAL LETTER T WITH CEDILLAgxSMAL
164 gaCAPITAL LETTER T WITH CARONgvSMALgaCAPITAL LETTER T WITH STROKEgwSMAL
168 gbCAPITAL LETTER U WITH TILDgvSMALgaCAPITAL LETTER U WITH MACRONgwSMAL
16C gaCAPITAL LETTER U WITH BREVEgvSMALgcCAPITAL LETTER U WITH RING ABOg+aSMAL
170 gbCAPITAL LETTER U WITH DOUBLE ACUTg+cSMALgaCAPITAL LETTER U WITH OGONEKgwSMAL
174 gaCAPITAL LETTER W WITH CIRCUMFLEXg+aSMALgqCAPITAL LETTER Yg+aSMAL
178 gaCAPITAL LETTER Y WITH DIAERESISvaZ WITH ACUTEgvSMALgbCAPITAL LETTER Z WITH DOT ABOVgzSMAL
17D gaCAPITAL LETTER Z WITH CARONgvSMALtaLONG StaB WITH STROKEgaCAPITAL LETTER B WITH HOOK
182 +caTOPBARgwSMALgaCAPITAL LETTER TONE SIXgrSMALgaCAPITAL LETTER OPEN OvaC WITH HOOKguSMAL
189 gaCAPITAL LETTER AFRICAN DvaD WITH HOOK+caTOPBARgwSMALtaTURNED DELTA
18E gaCAPITAL LETTER REVERSED EvaSCHWAvaOPEN EvaF WITH HOOKguSMALgkCAPITAL LETTER GwaAMMA
195 gaSMALL LETTER HVgaCAPITAL LETTER IOTAwa WITH STROKEvaK WITH HOOKguSMALtaL WITH BAR
19B uaAMBDA WITH STROKEgaCAPITAL LETTER TURNED MvaN WITH LEFT HOOK
19E gaSMALL LETTER N WITH LONG RIGHT LEGgaCAPITAL LETTER O WITH MIDDLE TILDE+caHORNguSMAL
1A2 gaCAPITAL LETTER OIglSMALgaCAPITAL LETTER P WITH HOOKguSMALgaLETTER YR
1A7 gaCAPITAL LETTER TONE TWOgrSMALgaCAPITAL LETTER ESHgaLETTER REVERSED ESH LOOP
1AB gaSMALL LETTER T WITH PALATAL HOOKgfCAPITAL LETTER T WITHguSMAL
1AE gfCAPITAL LETTER T WITH RETROFLEXvaU WITH HORNguSMALgbCAPITAL LETTER UPSILOvaV WITH HOOKvkY
1B4 guSMALgaCAPITAL LETTER Z WITH STROKEgwSMALgaCAPITAL LETTER EZHya REVERSEDgvSMALxaWITH TAIL
1BB gaLETTER TWO WITH STROKEgbCAPITAL LETTER TONE FIVgsSMAL
1BE gbLETTER INVERTED GLOTTAL STOP WITH STROKnaWYNNnaDENTAL CLICKniLATERngALVEOLARngRETROFLEX
1C4 gaCAPITAL LETTER DZ WITH CARONwm WITH SMALL LETTER gmSMALL LETTER DgaCAPITAL LETTER LJ
1C8 wb WITH SMALL LETTER gbSMALL LETTER LgbCAPITAL LETTER Nwb WITH SMALL LETTER gbSMALL LETTER N
1CD gaCAPITAL LETTER A WITH CARONgvSMALglCAPITAL LETTER IgvSMALglCAPITAL LETTER OgvSMAL
1D3 glCAPITAL LETTER UgvSMALgdCAPITAL LETTER U WITH DIAERESIS AND MACg+kSMAL
1D7 gaCAPITAL LETTER U WITH DIAERESIS AND ACUTEg+jSMALgaCAPITAL LETTER U WITH DIAERESIS AND CARON
1DA g+jSMALgaCAPITAL LETTER U WITH DIAERESIS AND GRAVEg+jSMALtbTURNED 
1DE gaCAPITAL LETTER A WITH DIAERESIS AND MACRONg+kSMALglCAPITAL LETTER A WITH DOT ABOVEg+kSMAL
1E2 ghCAPITAL LETTER AE WITHgxSMALgaCAPITAL LETTER G WITH STROKEgwSMAL
1E6 gaCAPITAL LETTER G WITH CARONgvSMALglCAPITAL LETTER KgvSMALgaCAPITAL LETTER O WITH OGONEK
1EB gwSMALgaCAPITAL LETTER O WITH OGONEK AND MACRONg+hSMALgdCAPITAL LETTER EZH WITH CAgxSMALtlJ
1F1 gaCAPITAL LETTER DZwb WITH SMALL LETTER gbSMALL LETTER DgaCAPITAL LETTER G WITH ACUTEgvSMAL
1F6 gaCAPITAL LETTER HWAIRvaWYNNvaN WITH GRAVEgvSMALgbCAPITAL LETTER A WITH RING ABOVE AND ACUT
1FB g+kSMALggCAPITAL LETTER AE WITHgwSMALggCAPITAL LETTER O WITH STROKE ANDg+gSMAL
200 gbCAPITAL LETTER A WITH DOUBLE GRAVg+cSMALgcCAPITAL LETTER A WITH INVERTED BREg+eSMAL
204 gcCAPITAL LETTER E WITH DOUBLE GRAg+cSMALgcCAPITAL LETTER E WITH INVERTED BREg+eSMAL
208 gcCAPITAL LETTER I WITH DOUBLE GRAg+cSMALgcCAPITAL LETTER I WITH INVERTED BREg+eSMAL
20C gcCAPITAL LETTER O WITH DOUBLE GRAg+cSMALgcCAPITAL LETTER O WITH INVERTED BREg+eSMAL
210 gcCAPITAL LETTER R WITH DOUBLE GRAg+cSMALgcCAPITAL LETTER R WITH INVERTED BREg+eSMAL
214 gcCAPITAL LETTER U WITH DOUBLE GRAg+cSMALgcCAPITAL LETTER U WITH INVERTED BREg+eSMAL
218 gaCAPITAL LETTER S WITH COMMA BELOWg+bSMALgrCAPITAL LETTER Tg+bSMALgaCAPITAL LETTER YOGHgnSMAL
21E gaCAPITAL LETTER H WITH CARONgvSMALgaCAPITAL LETTER N WITH LONG RIGHT LEG
221 gaSMALL LETTER D WITH CURLgaCAPITAL LETTER OUglSMALgaCAPITAL LETTER Z WITH HOOKguSMAL
226 gaCAPITAL LETTER A WITH DOT ABOVEgzSMALgaCAPITAL LETTER E WITH CEDILLAgxSMAL
22A gaCAPITAL LETTER O WITH DIAERESIS AND MACRONg+kSMALglCAPITAL LETTER O WITH TILDEg+gSMAL
22E gaCAPITAL LETTER O WITH DOT ABOVEgzSMALgaCAPITAL LETTER O WITH DOT ABOVE AND MACRONg+kSMAL
232 ghCAPITAL LETTER Y WITHgwSMALtaL WITH CURLtkNtkTtaDOTLESS JuaB DIGRAPHtiQP
23A gaCAPITAL LETTER A WITH STROKEvmCgwSMALgaCAPITAL LETTER L WITH BARvaT WITH DIAGONAL STROKE
23F gaSMALL LETTER S WITH SWASH TAILtqZgaCAPITAL LETTER GLOTTAL STOPgvSMAL
243 gaCAPITAL LETTER B WITH STROKEvaU BARvaTURNED VvaE WITH STROKEgwSMALgmCAPITAL LETTER JgwSMAL
24A gaCAPITAL LETTER SMALL Q WITH HOOK TAILgrSMALL LETTERgaCAPITAL LETTER R WITH STROKEgwSMAL
24E gmCAPITAL LETTER YgwSMALtaTURNED AtbALPHtfTURNED taB WITH HOOKtaOPEN OtaC WITH CURL
256 tbD WITH TAI+aaHOOKtaREVERSED EtaSCHWAya WITH HOOKtaOPEN EtgREVERSED +ia WITH HOOK
25E taCLOSED REVERSED OPEN EtbDOTLESS J WITH STROKtaG WITH HOOKtaSCRIPT GgcLETTER SMALL CAPITAL
263 gaSMALL LETTER GAMMAtaRAMS HORNtaTURNED HtaH WITH HOOKukENGtaI WITH STROKEuaOTA
26A gaLETTER SMALL CAPITAL IgaSMALL LETTER L WITH MIDDLE TILDE+aaBELT+aaRETROFLEX HOOKuaEZH
26F taTURNED M+ba WITH LONG LEGtaM WITH HOOKtfN WITH LEFT+afRETROFLEXgaLETTER SMALL CAPITAL N
275 gaSMALL LETTER BARRED OgaLETTER SMALL CAPITAL OEgaSMALL LETTER CLOSED OMEGAtaPHItaTURNED R
27A +ba WITH LONG LEG+haHOOKtaR WITH LONG LEG+aaTAIL+aaFISHHOOKuoEVERSED RgaLETTER SMALL CAPITAL R
281 +bbINVERTED gaSMALL LETTER S WITH HOOKtaESHtaDOTLESS J WITH STROKE AND HOOK
285 taSQUAT REVERSED ESHtaESH WITH CURLtaTURNED Tua WITH RETROFLEX HOOKtaU BARuaPSILON
28B taV WITH HOOKtaTURNED V+aaW+aaYgcLETTER SMALL CAPITALgaSMALL LETTER Z WITH RETROFLEX HOOK
291 +aaCURLtaEZHwa WITH CURLgaLETTER GLOTTAL STOPnaPHARYNGEAL VOICED FRICATIVE
296 naINVERTED GLOTTAL STOPnaSTRETCHED CnaBILABIAL CLICKnaSMALL CAPITAL B
29A gaSMALL LETTER CLOSED OPEN EgaLETTER SMALL CAPITAL G WITH HOOK+baH
29D gaSMALL LETTER J WITH CROSSED-TAILtaTURNED KgaLETTER SMALL CAPITAL LgaSMALL LETTER Q WITH HOOK
2A1 gaLETTER GLOTTAL STOP WITH STROKEnyREVERSED gaSMALL LETTER DZ DIGRAPHuiEZH
2A5 uaZ DIGRAPH WITH CURLtaTS DIGRAPHuiESHuaC DIGRAPH WITH CURLtaFENG DIGRAPHtiLSuiZ
2AC gaLETTER BILABIAL PERCUSSIVEpnDENTgaSMALL LETTER TURNED H WITH FISHHOOK+pa AND TAIL
2B0 aaMODIFIER LETTER SMALL Hxa WITH HOOKwaJwaRwbTURNED +ea WITH HOOKwaCAPITAL INVERTED RwaWwaY
2B9 qaPRIMEqfDOUBLE qaTURNED COMMAqaAPOSTROPHEqaREVERSED COMMAraIGHT HALF RINGqlLEFqaGLOTTAL STOP
2C1 qmREVERSED qaLEFT ARROWHEADqlRIGHqkUPqkDOWNqaCIRCUMFLEX ACCENTaaCARON
2C8 aaMODIFIER LETTER VERTICAL LINEqaMACRONqaACUTE ACCENTqiGRAVqaLOW VERTICAL LINEuaMACRON
2CE uaGRAVE ACCENTuiACUTqaTRIANGULAR COLONqqHALF qaCENTRED RIGHT HALF RINGylLEFqaUP TACKqfDOWN
2D6 qaPLUS SIGNqhMINaaBREVEacDOT ABOagRINGaaOGONEKaaSMALL TILDEaaDOUBLE ACUTE ACCENT
2DE aaMODIFIER LETTER RHOTIC HOOKqaCROSS ACCENTqaSMALL GAMMAwaLwaSwaXwaREVERSED GLOTTAL STOP
2E5 qaEXTRA-HIGH TONE BARqnqjMIDqjLOWqmEXTRA-qaYIN DEPARTING TONE MARKruANGqaVOICINGqaUNASPIRATED
2EE qaDOUBLE APOSTROPHEqaLOW DOWN ARROWHEADukUPukLEFTulRIGHwaNGqaMIDDLE GRAVE ACCENTxmDOUBLE 
2F6 +eiACUTqaLOW TILDEqaRAISED COLONqaBEGIN HIGH TONEqkENDqfBEGIN LOWqjENDqaSHELFqfOPEN 
2FF qaLOW LEFT ARROWaaCOMBINING GRAVE ACCENTkiACUTkhCIRCUMFLEXkaTILDEkaMACRONkaOVERLINEkbBREV
307 kcDOT ABOlaIAERESISkaHOOK ABOVEkgRINGkaDOUBLE ACUTE ACCENTkaCARONkaVERTICAL LINE ABOVE
30E ktDOUBLE raGRAVE ACCENTkaCANDRABINDUkaINVERTED BREVEkcTURNED COMMA ABOklklREVERSED 
315 kaCOMMA ABOVE RIGHTkaGRAVE ACCENT BELOWkoACUTkgLEFT TACKkmRIGHkaLEFT ANGLE ABOVEkaHORN
31C kaLEFT HALF RING BELOWkgUP TACKklDOWNkgPLUS SIGNknMINkgPALATALIZED HOOKklRETROFLEXkgDOT
324 lgIAERESISkgRINGkgCOMMAlaEDILLAkaOGONEKkaVERTICAL LINE BELOWkhBRIDGkgINVERTED DOUBLE ARCH
32C kgCARONlgIRCUMFLEX ACCENTkgBREVEklINVERTED khTILDkgMACRONkaLOW LINEkiDOUBLE kaTILDE OVERLAY
335 kjSHORT STROKkpLONGkiSHORT SOLIDUSkqLONGkaRIGHT HALF RING BELOWkgINVERTED BRIDGEkhSQUAR
33C lgEAGULLkaX ABOVEkbVERTICAL TILDkbDOUBLE OVERLINkaGRAVE TONE MARKklACUTkaGREEK PERISPOMENI
343 qaKORONISqbDIALYTIKA TONOqaYPOGEGRAMMENIkaBRIDGE ABOVEkaEQUALS SIGN BELOW
348 kgDOUBLE VERTICAL LINEkhLEFT ANGLkaNOT TILDE ABOVEkgHOMOTHETICkgALMOST EQUAL TO
34D kaLEFT RIGHT ARROW BELOWkmUPWARDSkaGRAPHEME JOINERkaRIGHT ARROWHEAD ABOVEkgLEFT HALF RING
352 kaFERMATAkaX BELOWkgLEFT ARROWHEADkrRIGH+afAND UP ARROWHEAD qaHALF RING ABOVEkaDOT ABOVE RIGHT
359 kaASTERISK BELOWkgDOUBLE RINGkaZIGZAG ABOVEkaDOUBLE BREVE BELOWwaraMACRONxa BELOWraTILDE
361 rbINVERTED BREVraRIGHTWARDS ARROW BELOWkaLATIN SMALL LETTER A+daE+daI+daO+daU+daC+daD+daH+daM
36C +daR+daT+daV+daXaaGREEK CAPITAL LETTER HETAgnSMALgaCAPITAL LETTER ARCHAIC SAMPIgwSMAL
374 gaNUMERAL SIGNgmLOWER gaCAPITAL LETTER PAMPHYLIAN DIGAMMAg+bSMAL
37A gaYPOGEGRAMMENIgaSMALL REVERSED LUNATE SIGMA SYMBOLmwDOTTm+aREVERSED gaQUESTION MARK
37F gaCAPITAL LETTER YOT
384 gaTONOSgfDIALYTIKA ggCAPITAL LETTER ALPHA WITHgaANO TELEIAgaCAPITAL LETTER EPSILON WITH TONOS
389 wlTAvnIO
38C vlOMICRON
38E vnUPSILvlOMEGAggSMALL LETTER IOTA WITH DIALYTIKA ANDgaCAPITAL LETTER ALPHAvbBETvbGAMMvbDELT
395 vaEPSILONvaZETAvdvdTHvcIOvbKAPPvbLAMDvaMUvbNvaXIvaOMICRONvaPIvaRHO
3A3 vaSIGMAvaTAUvaUPSILONvaPHIvcCvbPSvaOMEGAvbIOTA WITH DIALYTIKvpUPSILON
3AC gaSMALL LETTER ALPHA WITH TONOStlEPSILONulTAtnIOtgUPSILON WITH DIALYTIKA ANDtaALPHAtbBETtbGAMM
3B4 tbDELTtaEPSILONtaZETAtdtdTHtcIOtbKAPPtbLAMDtaMUtbNtaXItaOMICRONtaPItaRHOtaFINAL SIGMAtftaTAU
3C5 taUPSILONtaPHItcCtbPStaOMEGAtbIOTA WITH DIALYTIKtpUPSILONtaOMICRON WITH TONOStnUPSILtlOMEGA
3CF gaCAPITAL KAI SYMBOLghBETAgkTHghUPSILON WITH HOOKtlACUTE AND tqDIAERESISghPHIhigiKA
3D8 gaLETTER ARCHAIC KOPPAguSMALL gbLETTER STIGMgnSMALL gcLETTER DIGAMgoSMALL gbLETTER KOPP
3DF gmSMALL gaLETTER SAMPIgmSMALL abCOPTIC CAPITAL LETTER SHEhnSMALhcCAPITAL LETTER FhmSMAL
3E6 hcCAPITAL LETTER KHhnSMALhbCAPITAL LETTER HORhnSMALhaCAPITAL LETTER GANGIAhpSMAL
3EC hbCAPITAL LETTER SHIMhoSMALhaCAPITAL LETTER DEIhmSMALaaGREEK KAPPA SYMBOLghRHOghLUNATE SIGMA
3F3 haETTER YOTgaCAPITAL THETA SYMBOLghLUNATE EPSILONgvREVERSED gaCAPITAL LETTER SHOgmSMAL
3F9 gaCAPITAL LUNATE SIGMA SYMBOLpaETTER SANgmSMALgaRHO WITH STROKE SYMBOL
3FD ghCAPITAL REVERSED LUNATE SIGMAowDOTTo+aREVERSED aaCYRILLIC CAPITAL LETTER IE WITH GRAVEzaO
402 yaDJEycGybUKRAINIAN IybDZyaBYELORUSSIAN-UKRAINIAN IybYyaJEycLycNybTSHybKJybI WITH GRAV
40E yaSHORT UyaDZHEyaAyaBEybVybGHybDybIybZHzbyaIybSHORT yaKAyaELzaMzaNyaOyaPEyaERzaSyaTEyaUyaEF
425 yaHAyaTSEybCHyaSHA+abCHyaHARD SIGNyaYERUyaSOFT SIGNyaEyaYUzaAjbSMALL LETTER waBEwbVwbGHwbDwbI
436 wbZHxbwaIwbSHORT waKAwaELxaMxaNwaOwaPEwaERxaSwaTEwaUwaEFwaHAwaTSEwbCHwaSHAybCHwaHARD SIGN
44B waYERUwaSOFT SIGNwaEwaYUxaAwaIE WITH GRAVExaOwaDJEwcGwbUKRAINIAN IwbDZ
456 waBYELORUSSIAN-UKRAINIAN IwbYwaJEwcLwcNwbTSHwbKJwbI WITH GRAVwaSHORT UwaDZHE
460 jaCAPITAL LETTER OMEGAjoSMALjaCAPITAL LETTER YATjmSMALjaCAPITAL LETTER IOTIFIED EjtSMAL
466 jaCAPITAL LETTER LITTLE YUSjtSMALjlCAPITAL LETTER IOTIFIEDj+cSMALjeCAPITAL LETTER BIGjqSMAL
46C jiCAPITAL LETTER IOTIFIEDjzSMALjaCAPITAL LETTER KSIjmSMALjcCAPITAL LETTER PjmSMAL
472 jaCAPITAL LETTER FITAjnSMALjbCAPITAL LETTER IZHITSjqSMAL
476 jaCAPITAL LETTER IZHITSA WITH DOUBLE GRAVE ACCENTj+pSMALjaCAPITAL LETTER UKjlSMAL
47A jaCAPITAL LETTER ROUND OMEGAjuSMALjaCAPITAL LETTER OMEGA WITH TITLOjzSMALjaCAPITAL LETTER OT
47F jlSMALjaCAPITAL LETTER KOPPAjoSMALjaTHOUSANDS SIGNbaOMBINING CYRILLIC TITLOtaPALATALIZATION
485 taDASIA PNEUMATAtjPSILIuaOKRYTIEtaHUNDRED THOUSANDS SIGNtgMILLION
48A baYRILLIC CAPITAL LETTER SHORT I WITH TAILj+aSMALjaCAPITAL LETTER SEMISOFT SIGNjwSMAL
48E jaCAPITAL LETTER ER WITH TICKjvSMALjaCAPITAL LETTER GHE WITH UPTURNjySMAL
492 jaCAPITAL LETTER GHE WITH STROKEjySMALjaCAPITAL LETTER GHE WITH MIDDLE HOOKj+dSMAL
496 jaCAPITAL LETTER ZHE WITH DESCENDERj+bSMALjqCAPITAL LETTER Zj+aSMALjpCAPITAL LETTER KAj+aSMAL
49C jaCAPITAL LETTER KA WITH VERTICAL STROKEj+gSMALjhCAPITAL LETTER KA WITHjxSMAL
4A0 jaCAPITAL LETTER BASHKIR KAjtSMALjaCAPITAL LETTER EN WITH DESCENDERj+aSMAL
4A4 jaCAPITAL LIGATURE EN GHEjrSMALjaCAPITAL LETTER PE WITH MIDDLE HOOKj+cSMAL
4A8 jaCAPITAL LETTER ABKHASIAN HAjvSMALjaCAPITAL LETTER ES WITH DESCENDERj+aSMAL
4AC jpCAPITAL LETTER TEj+aSMALjaCAPITAL LETTER STRAIGHT UjtSMAL
4B0 jaCAPITAL LETTER STRAIGHT U WITH STROKEj+fSMALjaCAPITAL LETTER HA WITH DESCENDERj+aSMAL
4B4 jaCAPITAL LIGATURE TE TSEjrSMALjaCAPITAL LETTER CHE WITH DESCENDERj+bSMAL
4B8 jaCAPITAL LETTER CHE WITH VERTICAL STROKEj+hSMALjaCAPITAL LETTER SHHAjnSMAL
4BC jaCAPITAL LETTER ABKHASIAN CHEjwSMALjaCAPITAL LETTER ABKHASIAN CHE WITH DESCENDERj+lSMAL
4C0 jaLETTER PALOCHKAjaCAPITAL LETTER ZHE WITH BREVEjxSMALjaCAPITAL LETTER KA WITH HOOKjvSMAL
4C5 jaCAPITAL LETTER EL WITH TAILjvSMALjaCAPITAL LETTER EN WITH HOOKjvSMAL
4C9 jaCAPITAL LETTER EN WITH TAILjvSMALjaCAPITAL LETTER KHAKASSIAN CHEjxSMAL
4CD jaCAPITAL LETTER EM WITH TAILjvSMALwaPALOCHKAjaCAPITAL LETTER A WITH BREVEjvSMAL
4D2 jaCAPITAL LETTER A WITH DIAERESISjzSMALjaCAPITAL LIGATURE A IEjpSMAL
4D6 jbCAPITAL LETTER IE WITH BREVjwSMALjaCAPITAL LETTER SCHWAjoSMAL
4DA jaCAPITAL LETTER SCHWA WITH DIAERESISj+dSMALjpCAPITAL LETTER ZHEj+bSMALjqCAPITAL LETTER Z
4DF j+aSMALjaCAPITAL LETTER ABKHASIAN DZEjwSMALjaCAPITAL LETTER I WITH MACRONjwSMAL
4E4 jaCAPITAL LETTER I WITH DIAERESISjzSMALjpCAPITAL LETTER OjzSMALjaCAPITAL LETTER BARRED OjrSMAL
4EA jaCAPITAL LETTER BARRED O WITH DIAERESISj+gSMALjpCAPITAL LETTER EjzSMAL
4EE jaCAPITAL LETTER U WITH MACRONjwSMALjaCAPITAL LETTER U WITH DIAERESISjzSMAL
4F2 jaCAPITAL LETTER U WITH DOUBLE ACUTEj+cSMALjaCAPITAL LETTER CHE WITH DIAERESISj+bSMAL
4F6 jaCAPITAL LETTER GHE WITH DESCENDERj+bSMALjaCAPITAL LETTER YERU WITH DIAERESISj+cSMAL
4FA jaCAPITAL LETTER GHE WITH STROKE AND HOOKj+hSMALjfCAPITAL LETTER HA WITHjvSMAL
4FE jaCAPITAL LETTER HA WITH STROKEjxSMALjbCAPITAL LETTER KOMI DjqSMALjbCAPITAL LETTER KOMI DJ
503 jrSMALjcCAPITAL LETTER KOMI ZjrSMALjdCAPITAL LETTER KOMI DjsSMALjcCAPITAL LETTER KOMI LjrSMAL
50A jcCAPITAL LETTER KOMI NjrSMALjcCAPITAL LETTER KOMI SjrSMALjcCAPITAL LETTER KOMI TjrSMAL
510 jbCAPITAL LETTER REVERSED ZjuSMALjaCAPITAL LETTER EL WITH HOOKjvSMALjaCAPITAL LETTER LHAjmSMAL
516 jcCAPITAL LETTER RjmSMALjaCAPITAL LETTER YAEjmSMALjaCAPITAL LETTER QAjlSMALjaCAPITAL LETTER WE
51D jlSMALjaCAPITAL LETTER ALEUT KAjrSMALjaCAPITAL LETTER EL WITH MIDDLE HOOKj+cSMAL
522 jrCAPITAL LETTER ENj+cSMALjaCAPITAL LETTER PE WITH DESCENDERj+aSMALjpCAPITAL LETTER SHHA
527 j+cSMALjaCAPITAL LETTER EN WITH LEFT HOOKj+aSMALjaCAPITAL LETTER DZZHEjoSMAL
52C jcCAPITAL LETTER DCjnSMALjaCAPITAL LETTER EL WITH DESCENDERj+aSMAL
531 aaARMENIAN CAPITAL LETTER AYByaBENyaGIMyaDAyaECHyaZAyaEHzaTyaTOyaZHEyaINIyaLIWNyaXEHyaCAyaKEN
540 yaHOyaJAyaGHADyaCHEHyaMENyaYIyaNOWyaSHAyaVOyaCHAyaPEHycJHyaRAyaSEHyaVEWyaTIWNyaREHyaCOyaYIWN
553 yaPIWRyaKEHybOybFE
559 jaMODIFIER LETTER LEFT HALF RINGjaAPOSTROPHEjaEMPHASIS MARKkfXCLAMATIONjaCOMMAjaQUESTION MARK
55F jjABBREVIAjaSMALL LETTER TURNED AYBwdwaBENwaGIMwaDAwaECHwaZAwaEHxaTwaTOwaZHEwaINIwaLIWNwaXEH
56E waCAwaKENwaHOwaJAwaGHADwaCHEHwaMENwaYIwaNOWwaSHAwaVOwaCHAwaPEHwcJHwaRAwaSEHwaVEWwaTIWNwaREH
581 waCOwaYIWNwaPIWRwaKEHwbOwbFEqaIGATURE ECH YIWNqaETTER YI WITH STROKEjaFULL STOPjaHYPHEN
58D abRIGHT-FACING ARMENIAN ETERNITY SIGa+fLEFafARMENIAN DRAM
591 aaHEBREW ACCENT ETNAHTAoaSEGOLpaHALSHELEToaZAQEF QATANuaGADOLoaTIPEHAobREVIobZARQobPASHT
59A oaYETIVoaTEVIRoaGERESHua MUQDAMrbSHAYIoaQARNEY PARAobTELISHA GEDOLoaPAZERoaATNAH HAFUKHobMUNA
5A4 pbAHAPAKpaERKHAua KEFULAobDARGobQADMobTELISHA QETANoaYERAH BEN YOMOoaOLEoaILUYoaDEHIoaZINOR
5AF haMARK MASORA CIRCLEhaPOINT SHEVAnaHATAF SEGOLtaPATAHtaQAMATSoaIRIQnaTSEREnaSEGOLnaPATAH
5B8 naQAMATSnaHOLAMsa HASER FOR VAVnaQUBUTSnaDAGESH OR MAPIQnaMETEGiaUNCTUATION MAQAFiaOINT RAFE
5C0 iaUNCTUATION PASEQiaOINT SHIN DOTogiaUNCTUATION SOF PASUQhaMARK UPPER DOTmgLOW
5C6 haPUNCTUATION NUN HAFUKHAiaOINT QAMATS QATAN
5D0 haLETTER ALEFoaBEToaGIMELoaDALEToaHEoaVAVoaZAYINoaHETocToaYODoaFINAL KAFodoaLAMEDoaFINAL MEMod
5DF oaFINAL NUNodoaSAMEKHoaAYINoaFINAL PEocoaFINAL TSADIofoaQOFoaRESHoaSHINoaTAV
5EF haYOD TRIANGLEhaLIGATURE YIDDISH DOUBLE VAVyaVAV YODyeDOUBLEhaPUNCTUATION GERESHwaSHAYIM
600 aaARABIC NUMBER SIGNhaSIGN SANAHhaFOOTNOTE MARKERhaSIGN SAFHAoaMVAThaNUMBER MARK ABOVE
606 ga-INDIC CUBE ROOTnfFOURTHga RAYga-INDIC PER MILLE SIGNrfTEN THOUSANDbfFGHANIbaRABIC COMMA
60D haDATE SEPARATORhaPOETIC VERSE SIGNhaSIGN MISRAmaSALLALLAHOU ALAYHE WASSALLAMmiALAYHE 
612 maRAHMATULLAH ALAYHEoaDI ALLAHOU ANHUmaTAKHALLUSiaMALL HIGH TAH
616 sbLIGATURE ALEF WITH LAM WITH YEsaZAINnaFATHAnbDAMMnbKASRiaEMICOLONhaLETTER MARKhfEND OF TEXT
61E hfTRIPLE DOT PUNCTUATIONhjQUEShaLETTER KASHMIRI YEHoaHAMZAoaALEF WITH MADDA ABOVEyhHAMZorWAW
625 oaALEF WITH HAMZA BELOWoaYEH WITH HAMZA ABOVEoaALEFoaBEHoaTEH MARBUTArapcHoaJEEMoaHAHodKoaDAL
630 ocTHoaREHoaZAINobSEEpdHpaADocDoaTAHocZoaAINodGHoaKEHEH WITH TWO DOTS ABOVE+aaHREE DOTS BELOW
63D oaFARSI YEH WITH INVERTED V+daTWO DOTS ABOVE+elHREEhaTATWEELhaLETTER FEHoaQAFocKoaLAMobMEE
646 oaNOONoaHEHoaWAWoaALEF MAKSURAoaYEHhaFATHATANheDAMMheKASRhaFATHAhbDAMMhbKASRhbSHADDiaUKUN
653 haMADDAH ABOVEhgHAMZAnaBELOWhaSUBSCRIPT ALEFhaINVERTED DAMMAhbMARK NOON GHUNNhaZWARAKAY
65A haVOWEL SIGN SMALL V ABOVEsnINVERTED saDOT BELOWhaREVERSED DAMMAhaFATHA WITH TWO DOTS
65F haWAVY HAMZA BELOWga-INDIC DIGIT ZEROtaONEtaTWOuaHREEtaFOURuaIVEtaSIXuaEVENtaEIGHTtaNINE
66A ga PERCENT SIGNhaDECIMAL SEPARATORhkTHOUSANDShbFIVE POINTED STAhaLETTER DOTLESS BEHwaQAF
670 obSUPERSCRIPT ALEoaALEF WASLAuaITH WAVY HAMZA ABOVE+jaBELOWoaHIGH HAMZAya ALEFzaWAW
677 oaU WITH HAMZA ABOVEoaHIGH HAMZA YEHocTTsaEHocBEoaTEH WITH RINGxaTHREE DOTS ABOVE DOWNWARDS
67E oaPEHocTEHoeBoaHAH WITH HAMZA ABOVExgTWO DOTS VERTICALoaNYEHodDoaHAH WITH THREE DOTS ABOVE
686 oaTCHEHtaEHoaDDALpaAL WITH RINGxaDOT BELOW+ga AND SMALL TAHqaHALpeDpbU
68F paAL WITH THREE DOTS ABOVE DOWNWARDSxaFOUR DOTS ABOVEoaRREHpaEH WITH SMALL VxaRINGxaDOT BELOW
695 xgSMALL VxaDOT BELOW AND DOT ABOVExgTWO DOTSoaJEHoaREH WITH FOUR DOTS ABOVE
69A ogSEEN WITH DOT BELOW AND DOTyaTHREE DOTS BELOW+oa AND THREE DOTS ABOVE
69D paAD WITH TWO DOTS BELOWyaHREE DOTS ABOVEowTAHowAINoaDOTLESS FEHoaFEH WITH DOT MOVED BELOW+bf
6A4 oaVEHoaFEH WITH THREE DOTS BELOWoaPEHEHoaQAF WITH DOT ABOVExgTHREE DOTSoaKEHEHoaSWASH KAF
6AB oaKAF WITH RINGxaDOT ABOVEoaNGoaKAF WITH THREE DOTS BELOWoaGAFra WITH RINGoaNGOEH
6B2 oaGAF WITH TWO DOTS BELOWpaUEHpaAF WITH THREE DOTS ABOVEoaLAM WITH SMALL VxaDOT ABOVE
6B7 xgTHREE DOTS+iaBELOWogNOON WITH DOTtaGHUNNAoaRNOONoaNOON WITH RINGyaTHREE DOTS ABOVE
6BE obHEH DOACHASHMEobTCHEH WITH DOT ABOVogHEH WITH YEHsaGOALwa WITH HAMZA ABOVEoaTEH MARBUTA GOAL
6C4 oaWAW WITH RINGoaKIRGHIZ OEocoaUobYocKIRGHIZ oaWAW WITH TWO DOTS ABOVEocoaFARSI YEH
6CD oaYEH WITH TAILxaSMALL VoaWAW WITH DOT ABOVEoboaYEH WITH THREE DOTS BELOWsaBARREE
6D3 ya WITH HAMZA ABOVEhaFULL STOPhaLETTER AEhaSMALL HIGH LIGATURE SAD WITH LAM WITH ALEF MAKSURA
6D7 +b+bQAFsaMEEM INITIAL FORMsaLAM ALEFsaJEEMsaTHREE DOTSsaSEENhaEND OF AYAH
6DE haSTART OF RUB EL HIZBiaMALL HIGH ROUNDED ZEROsfUPRIGHT RECTANGULARsaDOTLESS HEAD OF KHAH
6E2 saMEEM ISOLATED FORMnaLOW SEENnaHIGH MADDAnaWAWnaYEHndHIGH saNOONhaPLACE OF SAJDAH
6EA haEMPTY CENTRE LOW STOPufHIGHhaROUNDED HIGH STOP WITH FILLED CENTREhaSMALL LOW MEEM
6EE haLETTER DAL WITH INVERTED VoqREHaaEXTENDED ARABIC-INDIC DIGIT ZERO+caONE+caTWO+daHREE+caFOUR
6F5 +daIVE+caSIX+daEVEN+caEIGHT+caNINEaaARABIC LETTER SHEEN WITH DOT BELOWopDADopGHAIN
6FD haSIGN SINDHI AMPERSANDtaPOSTPOSITION MENhaLETTER HEH WITH INVERTED VaaSYRIAC END OF PARAGRAPH
701 haSUPRALINEAR FULL STOPjqBjaPRALINEAR COLONjmBhgHORIZONTALhaCOLON SKEWED LEFTubRIGH
708 hbSUPRALINEAR COLON SKEWED LEFjbBLINEAR COLON SKEWED RIGHhaCONTRACTIONhaHARKLEAN OBELUSqgMET
70D qcASTERISC
70F haABBREVIATION MARKhaLETTER ALAPHofSUPERSCRIPT obBEToaGAMALta GARSHUNIoaDALATH
716 pbOTLESS DALATH RISoaHEoaWAWoaZAINoaHETHodTsa GARSHUNIoaYUDHsa HEoaKAPHobLAMADoaMIMoaNUN
723 oaSEMKATHohFINAL oaEobPocREVERSED obSADHoaQAPHobRISoaSHINoaTAWoaPERSIAN BHETHwaGHAMALwaDHALATH
730 haPTHAHA ABOVEoaBELOWoaDOTTEDhaZQAPHA ABOVEoaBELOWoaDOTTEDhaRBASA ABOVEnaBELOW
738 haDOTTED ZLAMA HORIZONTALuaANGULARhaHBASA ABOVEnaBELOWma-ESASA DOTTEDhaESASA ABOVEnaBELOW
73F haRWAHAhaFEMININE DOThaQUSHSHAYAhbRUKKAKHhaTWO VERTICAL DOTS ABOVEzaBELOWiaHREE DOTS ABOVE
746 saBELOWhaOBLIQUE LINE ABOVEuaBELOWhaMUSIChaBARREKH
74D haLETTER SOGDIAN ZHAINwaKHAPHwaFEaaARABIC LETTER BEH WITH THREE DOTS HORIZONTALLY BELOW
751 xaDOT BELOW AND THREE DOTS ABOVExaTHREE DOTS POINTING UPWARDS BELOW++ea AND TWO DOTS ABOVE
754 ygWO DOTS BELOW AND DOTxaINVERTED SMALL V BELOWxaSMALL VoaHAH WITH TWO DOTS ABOVE
758 yaHREE DOTS POINTING UPWARDS BELOWoaDAL WITH TWO DOTS VERTICALLY BELOW AND SMALL TAH
75A xaINVERTED SMALL V BELOWoaREH WITH STROKEobSEEN WITH FOUR DOTS ABOVolAIN WITH TWO
75E yhHREE DOTS POINTING DOWNWARDygWO DOTS VERTICALLYoaFEH WITH TWO DOTS BELOW
761 yhHREE DOTS POINTING UPWARDoaKEHEH WITH DOT ABOVEzgTHREE DOTS+kaPOINTING UPWARDS BELOW
765 oaMEEM WITH DOT ABOVE+caBELOWogNOON WITH TWO DOTSyaSMALL TAH+eaVoaLAM WITH BAR
76B oaREH WITH TWO DOTS VERTICALLY ABOVExgHAMZAogSEEN WITH TWO DOTS VERTICALLY
76E oaHAH WITH SMALL ARABIC LETTER TAH BELOW+vaAND TWO DOTSo+qSEENo+qREH
772 oaHAH WITH SMALL ARABIC LETTER TAH ABOVEogALEF WITH EXTENDED ARABIC-INDIC DIGIT TWO++bgHREE
775 ogFARSI YEH WITH EXTENDED ARABIC-INDIC DIGIT TWO++ggHREE++faFOUR BELOW
778 oaWAW WITH EXTENDED ARABIC-INDIC DIGIT TWO ABOVE++agHREE
77A ogYEH BARREE WITH EXTENDED ARABIC-INDIC DIGIT TWO++hgHREE
77C oaHAH WITH EXTENDED ARABIC-INDIC DIGIT FOUR BELOW
77D oaSEEN WITH EXTENDED ARABIC-INDIC DIGIT FOUR ABOVEyaINVERTED VoaKAF WITH TWO DOTS ABOVE
780 aaTHAANA LETTER HAAoaSHAVIYANIoaNOONUoaRAAocBoaLHAVIYANIoaKAAFUocALIobVAAVobMEEMobFAAFobDHAAL
78C oaTHAAoaLAAMUobGAAFpaNAVIYANIoaSEENUoaDAVIYANIohZohToaYAAoaPAVIYANIohJohCHoaTTAAocHHodK
79B oaTHAALUoaZAAoaSHEENUpbAADHofDoaTOobZoaAINUoeGHobQAAFobWAAVhaABAFILIifABAheIBIheEEBEEheUBU
7AB heOOBOOheEBEieYBEYheOBOieABOAhaSUKUNhaLETTER NAA
7C0 aaNKO DIGIT ZEROkaONEkaTWOlaHREEkaFOURlaIVEkaSIXlaEVENkaEIGHTkaNINEeaLETTER AlaEElaIlaElaUlaOO
7D0 malaDAGBASINNAlaNlaBAlbPlbTlbJlbCHlbDlbRmbRlbSlbGBlbFlbKlbLlaNA WOLOSOlaMAlbNYmblbHlbWlbY
7E7 laNYA WOLOSOlaJONA JAqbCHqbReaCOMBINING SHORT HIGH TONEufLOWufRISINGoiLONG DESCENDtfHIGHtfLOW
7F1 tfRISINGoaNASALIZATION MARKoaDOUBLE DOT ABOVEebHIGH TONE APOSTROPHeqLOWeaSYMBOL OO DENNEN
7F7 ldGBAKURUeaCOMMAeaEXCLAMATION MARKeaLAJANYALAN
7FD efDANTAfbOROME SIGefTAMANaaSAMARITAN LETTER ALAFraBITraGAMANraDALATraIYraBAAraZENraITrcTrbYU
80A raKAAFraLABATraMIMraNUNraSINGAATraINraFIraTSAADIYraQUFraRISHraSHANraTAAFkaMARK INra-ALAF
818 paOCCLUSIONpaDAGESHlaODIFIER LETTER EPENTHETIC YUTlpARKkaVOWEL SIGN LONG EvbvaOVERLONG AAvhvc
821 vbOVERLONG vgvbkcMODIFIER LETTER SHORTkiVOWEL SIGNvaLONG UvbkaMODIFIER LETTER I
829 kcVOWEL SIGN LONGvbvaOvaSUKUNkaMARK NEQUDAA
830 kiPUNCTUATIONwaAFSAAQxaNGEDwaBAUwcATMAwaSHIYYAALAAkaABBREVIATION MARK
837 kaPUNCTUATION MELODIC QITSAwbZIQAwbQITSwaZAEFwaTURUwbARKAANwaSOF MASHFAATwaANNAAU
840 aaMANDAIC LETTER HALQApaABqaGqaDqaHpaUSHENNApaAZpaITpbATqaKSAraqaLqaMqaNqaSpaINpaAPqaSZqaQqaR
854 qaSHqaTpaDUSHENNApaKADpaAINiaAFFRICATION MARKikVOCALIZikGEMIN
85E iaPUNCTUATION
860 aaSYRIAC LETTER MALAYALAM NGAybJybNYybTTybNN+abNybBHybRybLL+abLybSS
870 abARABIC LETTER ALEF WITH ATTACHED FATH+hfTOP RIGHT yaRIGHT MIDDLE STROKEypLEFyaATTACHED KASRA
875 +hfBOTTOM RIGHT +haROUND DOT ABOVE+iaIGHT ROUND DOT+hlLEF+haROUND DOT BELOWyaDOT ABOVE
87B yjATTACHED TOP RIGHT FATHA AND yoRIGHT MIDDLE STROKEyoATTACHED BOTTOM RIGHT KASRA
87E +haTOP RIGHT FATHA AND LEFT RINGyoRIGHT MIDDLE STROKEyoATTACHED BOTTOM RIGHT KASRA
881 +haRIGHT HAMZA+hhLEFhgTATWEEL WITH OVERSTRUCK+faWAWubTWO DOTS BELOhaLETTER THIN YEH
887 haBASELINE ROUND DOThkRAISEDhaLETTER NOON WITH INVERTED SMALL V
88A oaHAH WITH INVERTED SMALL V BELOWogTAH WITH DOTxgTHREE DOTSogKEHEH WITH TWO DOTS VERTICALLY
88E haVERTICAL TAIL
890 haPOUND MARK ABOVEilIASTRE
898 haSMALL HIGH WORD AL-JUZnaLOW WORD ISHMAAMxaMAALAwaTASHEELhaMADDA WAAJIB
89D haSUPERSCRIPT ALEF MOKHASSAShaDOUBLED MADDAhgHALF MADDA OVERhaLETTER BEH WITH SMALL V BELOW
8A1 xaHAMZA ABOVEogJEEM WITH TWO DOTSouTAHolFEH WITH DOT BELOW AND THREEoaQAF WITH DOT BELOW
8A6 oaLAM WITH DOUBLE BARoaMEEM WITH THREE DOTS ABOVEogYEH WITH TWO DOTS BELOW AND HAMZA+qgDOT
8AA oaREH WITH LOOPoaWAW WITH DOT WITHINoaROHINGYA YEHoaLOW ALEFoaDAL WITH THREE DOTS BELOWowSAD
8B0 oaGAF WITH INVERTED STROKEoaSTRAIGHT WAWoaZAIN WITH INVERTED V ABOVE
8B3 oaAIN WITH THREE DOTS BELOWogKAF WITH DOToaQAF WITH DOT BELOW AND NO DOTS ABOVE
8B6 ogBEH WITH SMALL MEEMoyPogTEH WITH SMALL TEHogREH WITH SMALL NOONorYEH WITH TWO DOTS BELOW AND
8BB oaAFRICAN FEHwaQAFwaNOONoaPEH WITH SMALL VopTppTppCHoqKEoaGHAIN WITH THREE DOTS ABOVE
8C4 owAFRICAN QAFowJEEM+jaBELOWoaLAM WITH SMALL ARABIC LETTER TAH ABOVEoaGRAFhaSMALL FARSI YEH
8CA njHIGH saYEH BARREE WITH TWO DOTS BELOWsaWORD SAHscZhaLARGE ROUND DOT ABOVExaBELOWhgSUKUN
8D1 hgLARGE CIRCLEnmROUND DOT INSIDE hbSMALL LOW WAnaHIGH WORD AR-RUBsaSADsaAINsaQAF
8D8 saNOON WITH KASRAnqLOWnbHIGH WORD ATH-THALATHybS-SAJDyaN-NISFxaSAKTAxaQIFxaWAQFA
8E0 saFOOTNOTE MARKERsaSIGN SAFHAhaDISPUTED END OF AYAHhaTURNED DAMMA BELOWhaCURLY FATHAnbDAMM
8E6 nbKASRnaFATHATANneDAMMneKASRhaTONE ONE DOT ABOVEmgTWO DOTSmgLOOPmaONE DOT BELOWmgTWO DOTS
8EF mgLOOPhaOPEN FATHATANmeDAMMmeKASRhaSMALL HIGH WAWhaFATHA WITH RINGsaDOT ABOVE
8F6 haKASRA WITH DOT BELOWhaLEFT ARROWHEAD ABOVEhrRIGHhaLEFT ARROWHEAD BELOWhrRIGH
8FB haDOUBLE RIGHT ARROWHEAD ABOVE+ja WITH DOTh+ehjDAMMAhaMARK SIDEWAYS NOON GHUNNA
900 aaDEVANAGARI SIGN INVERTED CANDRABINDUqlqaANUSVARAqbVISARGlbLETTER SHORT sbtaAsaItaIsaUtaU
90B saVOCALIC R+aaLsaCANDRA EscSHORTsbsaAIsaCANDRA OscSHORTsbsaAUsaKAtbHsbGtbHsbNGsbCtbHsbJtbHsbNY
91F sbTTubHsbDDubHsbNNsbTtbHsbDtbHsbNtbNNsbPtbHsbBtbHsbMsbYsbRtbRsbLtbLubLsbVsbSHtbStbsbH
93A laVOWEL SIGN OExbOlaSIGN NUKTAqbAVAGRAHlbVOWEL SIGN AwaIxaIwaUxaUwaVOCALIC R+faRwaCANDRA E
946 wcSHORTwbwaAIwaCANDRA OwcSHORTwbwaAUlaSIGN VIRAMAlaVOWEL SIGN PRISHTHAMATRA EwaAWlaOM
951 laSTRESS SIGN UDATTAxgANlaGRAVE ACCENTliACUTlaVOWEL SIGN CANDRA LONG EwbUxbUlaLETTER QAsbKHH
95A sdGsbZsbDDDHscRsbFsbYYsaVOCALIC RR+aaLLlbVOWEL SIGN VOCALIC +faLlaDANDAmeOUBLE DmaIGIT ZERO
967 raONEraTWOsaHREEraFOURsaIVEraSIXsaEVENraEIGHTraNINElaABBREVIATION SIGNlaSIGN HIGH SPACING DOT
972 laLETTER CANDRA AsaOEtbOsaAWsaUEtbUsaMARWARI DDAsbZHsbHEAVY YsbGGsbJJsaGLOTTAL STOPsaDDDAsbBB
980 aaBENGALI ANJIiaSIGN CANDRABINDUnaANUSVARAnbVISARG
985 ibLETTER qaApaIqaIpaUqaUpaVOCALIC RxaL
98F paEpaAI
993 paOpaAUpaKAqbHpbGqbHpbNGpbCqbHpbJqbHpbNYpbTTrbHpbDDrbHpbNNpbTqbHpbDqbHpbN
9AA pbPqbHpbBqbHpbMpbYpbR
9B2 pbL
9B6 pbSHqbSqbpbH
9BC ibSIGN NUKTnbAVAGRAHibVOWEL SIGN AtaIuaItaUuaUtaVOCALIC R+caR
9C7 taEtaAI
9CB taOtaAUiaSIGN VIRAMAibLETTER KHANDA T
9D7 iaAU LENGTH MARK
9DC iaLETTER RRAqbH
9DF pbYYpaVOCALIC RRxaLLibVOWEL SIGN VOCALIC +caL
9E6 iaDIGIT ZEROoaONEoaTWOpaHREEoaFOURpaIVEoaSIXpaEVENoaEIGHToaNINE
9F0 iaLETTER RA WITH MIDDLE DIAGONALxjLOWERiaRUPEE MARKoaSIGNiaCURRENCY NUMERATOR ONE+baTWO+caHREE
9F7 +baFOUR+bbONE LESS THAN THE DENOMINATOraDENOMINATOR SIXTEENiaISSHARiaGANDA MARK
9FC iaLETTER VEDIC ANUSVARAiaABBREVIATION SIGNiaSANDHI MARK
A01 aaGURMUKHI SIGN ADAK BINDIofoaVISARGA
A05 jbLETTER raAqaIraIqaUraU
A0F qaEEqaAI
A13 qaOOqaAUqaKArbHqbGrbHqbNGqbCrbHqbJrbHqbNYqbTTsbHqbDDsbHqbNNqbTrbHqbDrbHqbN
A2A qbPrbHqbBrbHqbMqbYqbR
A32 qbLrbL
A35 qbVqbSH
A38 rbqbH
A3C jbSIGN NUKT
A3E jbVOWEL SIGN AuaIvaIuaUvaU
A47 uaEEuaAI
A4B uaOOuaAUjaSIGN VIRAMA
A51 oaUDAAT
A59 jaLETTER KHHAqdGqbZqbRR
A5E qbF
A66 jaDIGIT ZEROpaONEpaTWOqaHREEpaFOURqaIVEpaSIXqaEVENpaEIGHTpaNINEjaTIPPIjaADDAKjaIRIjaURA
A74 jaEK ONKARjaSIGN YAKASHjaABBREVIATION SIGN
A81 caJARATI SIGN CANDRABINDUoaANUSVARAobVISARG
A85 jbLETTER raAqaIraIqaUraUqaVOCALIC RyaLjaVOWEL CANDRA E
A8F jcLETTERqaAIjaVOWEL CANDRA O
A93 jcLETTERqaAUqaKArbHqbGrbHqbNGqbCrbHqbJrbHqbNYqbTTsbHqbDDsbHqbNNqbTrbHqbDrbHqbN
AAA qbPrbHqbBrbHqbMqbYqbR
AB2 qbLrbL
AB5 qbVqbSHrbSrbqbH
ABC jbSIGN NUKTobAVAGRAHjbVOWEL SIGN AuaIvaIuaUvaUuaVOCALIC R+daRuaCANDRA E
AC7 ubuaAIuaCANDRA O
ACB ubuaAUjaSIGN VIRAMA
AD0 jaOM
AE0 jaLETTER VOCALIC RRyaLLjbVOWEL SIGN VOCALIC +daL
AE6 jaDIGIT ZEROpaONEpaTWOqaHREEpaFOURqaIVEpaSIXqaEVENpaEIGHTpaNINEjaABBREVIATION SIGNjfRUPEE
AF9 jaLETTER ZHAjaSIGN SUKUNpaHADDAoaMADDAHoaTHREE-DOT NUKTA ABOVEomCIRCLEosTWO-
B01 aaORIYA SIGN CANDRABINDUlaANUSVARAlbVISARG
B05 gbLETTER oaAnaIoaInaUoaUnaVOCALIC RvaL
B0F naEnaAI
B13 naOnaAUnaKAobHnbGobHnbNGnbCobHnbJobHnbNYnbTTpbHnbDDpbHnbNNnbTobHnbDobHnbN
B2A nbPobHnbBobHnbMnbYnbR
B32 nbLobL
B35 nbVnbSHobSobnbH
B3C gbSIGN NUKTlbAVAGRAHgbVOWEL SIGN AraIsaIraUsaUraVOCALIC R+aaR
B47 raEraAI
B4B raOraAUgaSIGN VIRAMA
B55 laOVERLINEgaAI LENGTH MARKhmU
B5C gaLETTER RRAobH
B5F nbYYnaVOCALIC RRvaLLgbVOWEL SIGN VOCALIC +aaL
B66 gaDIGIT ZEROmaONEmaTWOnaHREEmaFOURnaIVEmaSIXnaEVENmaEIGHTmaNINEgaISSHARgaLETTER WA
B72 gaFRACTION ONE QUARTERtaHALFpaTHREE QUARTERSpaONE SIXTEENTHtcEIGHpaTHREE SIXTEENTHS
B82 aaTAMIL SIGN ANUSVARAlbVISARG
B85 gbLETTER oaAnaIoaInaUoaU
B8E naEoaEnaAI
B92 naOoaOnaAUnaKA
B99 nbNGnbC
B9C nbJ
B9E nbNYnbTT
BA3 nbNNnbT
BA8 nbNobNNnbP
BAE nbMnbYnbRobRnbLobLpbLnbVnbSHobSobnbH
BBE gbVOWEL SIGN AraIsaIraUsaU
BC6 raEsaEraAI
BCA raOsaOraAUgaSIGN VIRAMA
BD0 gaOM
BD7 gaAU LENGTH MARK
BE6 gaDIGIT ZEROmaONEmaTWOnaHREEmaFOURnaIVEmaSIXnaEVENmaEIGHTmaNINEgaNUMBER TENnaONE HUNDRED
BF2 rbTHOUSANgaDAY SIGNgfMONTHgfYEARgfDEBITghCREDgfAS ABOVEggRUPEgfNUMBER
C00 baELUGU SIGN COMBINING CANDRABINDU ABOVEnaANDRABINDUmaANUSVARAmbVISARG
C04 maCOMBINING ANUSVARA ABOVEhaLETTER ApaAoaIpaIoaUpaUoaVOCALIC RwaL
C0E oaEpaEoaAI
C12 oaOpaOoaAUoaKApbHobGpbHobNGobCpbHobJpbHobNYobTTqbHobDDqbHobNNobTpbHobDpbHobN
C2A obPpbHobBpbHobMobYobRpbRobLpbLqbLobVobSHpbSpbobH
C3C hbSIGN NUKTmbAVAGRAHhbVOWEL SIGN AsaItaIsaUtaUsaVOCALIC R+baR
C46 saEtaEsaAI
C4A saOtaOsaAUhaSIGN VIRAMA
C55 haLENGTH MARKhlAI 
C58 haLETTER TSAobDZobRRR
C5D oaNAKAARA POLLU
C60 oaVOCALIC RRwaLLhbVOWEL SIGN VOCALIC +baL
C66 haDIGIT ZEROnaONEnaTWOoaHREEnaFOURoaIVEnaSIXoaEVENnaEIGHTnaNINE
C77 haSIGN SIDDHAMhaFRACTION DIGIT ZERO FOR ODD POWERS OF FOURwxONEwxTWOxxHREEwpONE FOR EVENwyTWO
C7E xyHREEhaSIGN TUUMUabKANNADA SIGN SPACING CANDRABINDnlnaANUSVARAnbVISARGnaSIDDHAMiaLETTER AqaA
C87 paIqaIpaUqaUpaVOCALIC RxaL
C8E paEqaEpaAI
C92 paOqaOpaAUpaKAqbHpbGqbHpbNGpbCqbHpbJqbHpbNYpbTTrbHpbDDrbHpbNNpbTqbHpbDqbHpbN
CAA pbPqbHpbBqbHpbMpbYpbRqbRpbLqbL
CB5 pbVpbSHqbSqbpbH
CBC ibSIGN NUKTnbAVAGRAHibVOWEL SIGN AtaIuaItaUuaUtaVOCALIC R+caR
CC6 taEuaEtaAI
CCA taOuaOtaAUiaSIGN VIRAMA
CD5 iaLENGTH MARKilAI 
CDD iaLETTER NAKAARA POLLUpaFA
CE0 paVOCALIC RRxaLLibVOWEL SIGN VOCALIC +caL
CE6 iaDIGIT ZEROoaONEoaTWOpaHREEoaFOURpaIVEoaSIXpaEVENoaEIGHToaNINE
CF1 iaSIGN JIHVAMULIYAndUPADHMAN
D00 aaMALAYALAM SIGN COMBINING ANUSVARA ABOVEqaANDRABINDUpaANUSVARApbVISARGkbLETTER VEDIC ANUSVAR
D05 rbsaAraIsaIraUsaUraVOCALIC RzaL
D0E raEsaEraAI
D12 raOsaOraAUraKAsbHrbGsbHrbNGrbCsbHrbJsbHrbNYrbTTtbHrbDDtbHrbNNrbTsbHrbDsbHrbNsbNNrbPsbHrbBsbH
D2E rbMrbYrbRsbRrbLsbLtbLrbVrbSHsbSsbrbHrbTTTkbSIGN VERTICAL BAR VIRAMpjCIRCULpbAVAGRAH
D3E kbVOWEL SIGN AvaIwaIvaUwaUvaVOCALIC R+eaR
D46 vaEwaEvaAI
D4A vaOwaOvaAUkaSIGN VIRAMAkaLETTER DOT REPHkaSIGN PARA
D54 kaLETTER CHILLU MyaYyaLLLkaAU LENGTH MARKkaFRACTION ONE ONE-HUNDRED-AND-SIXTIETHxfFOR
D5A taTHREE EIGHTIETHStaONE TWENTIETHycENtaTHREE TWENTIETHStaONE FIFTHkaLETTER ARCHAIC II
D60 raVOCALIC RRzaLLkbVOWEL SIGN VOCALIC +eaL
D66 kaDIGIT ZEROqaONEqaTWOraHREEqaFOURraIVEqaSIXraEVENqaEIGHTqaNINEkaNUMBER TENraONE HUNDRED
D72 vbTHOUSANkaFRACTION ONE QUARTERxaHALFtaTHREE QUARTERStaONE SIXTEENTHxcEIGHtaTHREE SIXTEENTHS
D79 kaDATE MARKkaLETTER CHILLU NNzayaRRyaLzaLyaK
D81 aaSINHALA SIGN CANDRABINDUnaANUSVARAYAndVISARG
D85 ibLETTER AYANNqfAqfErfEpfIqfIpfUqfUpgIRsfUqgLsfUpfEqfEpfAIpfOqfOpfAU
D9A qfLPAPRAANA KAppMAHApgALPAPRAANA GppMAHApbKANTAJA NAASIKYAYpbSANYAKA GAYANNpgALPAPRAANA C
DA1 ppMAHApgALPAPRAANA JppMAHApbTAALUJA NAASIKYAYxhSANYOOGA NAAKpbSANYAKA JAYANNpgALPAPRAANA TT
DA8 pqMAHApgALPAPRAANA DDpqMAHAqgUURDHAJA NpgSANYAKA DDpgALPAPRAANA TppMAHApgALPAPRAANA DppMAHA
DB1 pgDANTAJA N
DB3 pgSANYAKA DpgALPAPRAANA PppMAHApgALPAPRAANA BppMAHArfpgAMBA BpgYpgR
DBD pgDANTAJA L
DC0 pgVpgTAALUJA SpkMUURDHAplDANTpgHpgMUURDHAJA LpgF
DCA icSIGN AL-LAKU
DCF ibVOWEL SIGN AELA-PILLthKETTI AEDtlDIGAtgKETTI IStjDIGAtgKETTI PAA
DD6 tkDIGA
DD8 thGAETTtbKOMBUVthDIGA tbKOMBU DEKybVA HAA AELA-PILL+fkDIGA +fbGAYANUKITTtl
DE6 iaLITH DIGIT ZEROtaONEtaTWOuaHREEtaFOURuaIVEtaSIXuaEVENtaEIGHTtaNINE
DF2 iaVOWEL SIGN DIGA GAETTA-PILLA+abYANUKITTibPUNCTUATION KUNDDALIY
E01 aaTHAI CHARACTER KO KAIqcHO KHvaUATvaWAIvaONtaRAKHANGpaNGO NGUpaCHO CHANvaINGvcApaSO SO
E0C paCHO CHOEpaYO YINGpaDO CHADApaTO PATAKqaHO THANtaNANGMONTHOtbPHUTHApaNO NENpaDO DEKpaTO TAO
E16 qaHO THUNGvaAHANvaONGpaNO NUpaBO BAIMAIpaPO PLAqaHO PHUNGpaFO FApaPHO PHANpcFO FpaPHO SAMPHAO
E21 paMO MApaYO YAKpaRO RUAqaUpaLO LINGqaUpaWO WAENpaSO SALAsaRUSIsaSUApaHO HIPpaLO CHULApaO ANG
E2E paHO NOKHUKpaPAIYANNOIpaSARA ApaMAI HAN-AKATpaSARA AAvaMuaIvaIuaUEwaEvavaUpbPHINTH
E3F gaURRENCY SYMBOL BAHTgaHARACTER SARA EubAuaOuaAI MAIMUAN+baALAIpaLAKKHANGYAOpaMAIYAMOKsaTAIKHU
E48 sa EKtaTHOuaRItaCHATTAWApaTHANTHAKHATpbNIKHAHIpaYAMAKKANpcFONGMfaDIGIT ZEROlaONElaTWOmaHREE
E54 laFOURmaIVElaSIXmaEVENlaEIGHTlaNINEfaCHARACTER ANGKHANKHUpaKHOMUT
E81 aaLAO LETTER KOmaHO SUNG
E84 paTAM
E86 laPALI GHAlaNGOlbClaPALI CHAlaSO TAM
E8C laPALI JHAlaNYOlaPALI NYAqbTTsbHqbDDsbHqbNNlaDOlbTmaHO SUNGpaTAMlaPALI DHAlaNOlbBlbPmaHO SUNG
E9D laFO TAMlfPHlaFO SUNGlaPALI BHAlaMOlbYlaLO LING
EA5 paOOT
EA7 laWOlaSANSKRIT SHAvbSmaO SUNGlgHlaPALI LLAlaOlaHO TAMeaELLIPSISeaVOWEL SIGN ApaMAI KANpaAAqaM
EB4 paIqaIpaYqaYpaUqaUeaSIGN PALI VIRAMAeaVOWEL SIGN MAI KONeaSEMIVOWEL SIGN LOtbNY
EC0 eaVOWEL SIGN EqaIpaOpaAYqaI
EC6 eaKO LA
EC8 eaTONE MAI EKnaTHOoaInaCATAWAeaCANCELLATION MARKeaNIGGAHITA
ED0 eaDIGIT ZEROkaONEkaTWOlaHREEkaFOURlaIVEkaSIXlaEVENkaEIGHTkaNINE
EDC eaHO NOhbMebLETTER KHMU GqbNY
F00 aaTIBETAN SYLLABLE OMiaMARK GTER YIG MGO TRUNCATED A+ab-UM RNAM BCAD M+edGTER TSHEG
F04 ndINITIAL YIG MGO MDUNndCLOSING YIG MGO SGABodARET YIG MGO PHUR SHADniYIG MGO TSHEG
F08 naSBRUL SHADnaBSKUR YIG MGOoiKA- SHOGnaINTERSYLLABIC TSHEGnaDELIMITER TSHEG BSTARnaSHADneNYIS 
F0F nfTSHEGnkNYIS nfRIN CHEN SPUNGSofGYA GRAMnaCARET -DZUD RTAGS ME LONG CANnaGTER TSHEG
F15 iaLOGOTYPE SIGN CHAD RTAGSwgLHAGigASTROLOGICAL SIGN SGRA GCAN -CHAR+aa-KHYUD PA+aaSDONG TSHUGS
F1A iaSIGN RDEL DKAR GCIGyaNYISyaSUMsaNAG GCIGxaNYISsaDKAR RDEL NAGiaDIGIT ZEROoaONEoaTWOpaHREE
F24 oaFOURpaIVEoaSIXpaEVENoaEIGHToaNINEocHALF OtaTWOuaHREEtaFOURuaIVEtaSIXuaEVENtaEIGHTtaNINE
F33 taZEROiaMARK BSDUS RTAGSnaNGAS BZUNG NYI ZLAnaCARET -DZUD RTAGS BZHI MIG CAN
F37 naNGAS BZUNG SGOR RTAGSnaCHE MGOnaTSA -PHRUnaGUG RTAGS GYONzaASnaANG KHANG GYONzaAS
F3E ibSIGN YAR TSHEniMiaLETTER KAqbHpbGqbHpbNGpbCqbHpbJ
F49 pbNYpbTTrbHpbDDrbHpbNNpbTqbHpbDqbHpbNpbPqbHpbBqbHpbMpbTSrbHpbDZrbHpbWpbZHqbpb-pbYpbRpbLpbSHqbS
F66 qbpbHpbpbKSSpbFIXED-FORM RpbKKpbRR
F71 ibVOWEL SIGN AtaIuaItaUuaUtaVOCALIC R+caR+baL+caLtaEuaEtaOuaOibSIGN RJES SU NGA RoaNAM BCAD
F80 iaVOWEL SIGN REVERSED I+daIiaSIGN NYI ZLA NAA DAnaSNA LDANiaMARK HALANTAncPALUiaSIGN LCI RTAGS
F87 ngYANGnaLCE TSA CANneMCHUnaGRU CAN RGYINGSriMEDnaINVERTED MCHU CANjeUBJOINED SIGN LCE TSA
F8E xeMCHUxiINVERTED saLETTER KA+abHzbG+abHzbNGzbC+abHzbJ
F99 zbNYzbTT+bbHzbDD+bbHzbNNzbT+abHzbD+abHzbNzbP+abHzbB+abHzbMzbTS+bbHzbDZ+bbHzbWzbZH+abzb-zbYzbR
FB3 zbLzbSH+abS+abzbHzbzbKSSzbFIXED-FORM W+kbY+kbR
FBE ibKU RU KHra BZHI MIG CANiaCANTILLATION SIGN HEAVY BEAT+afLIGHT+aaCANG TE-U+aaSBUB -CHAL
FC4 iaSYMBOL DRIL BUpaRDO RJEpaPADMA GDANpaRDO RJE RGYA GRAMpaPHUR PApaNOR BUva NYIS -KHYILwhGSUM
FCC whBZHI
FCE jaIGN RDEL NAG RDEL DKARwaGSUMiaMARK BSKA- SHOG GI MGO RGYANnoMNYAM YInaNYIS TSHEG
FD3 naINITIAL BRDA RNYING YIG MGO MDUN MAndCLOSING BRDA RNYING YIG MGO SGAB
FD5 aaRIGHT-FACING SVASTI SIGNauLEFaaRIGHT-FACING SVASTI SIGN WITH DOTSa+eLEF
FD9 abTIBETAN MARK LEADING MCHAN RTAGnpTRAIL
1000 aaMYANMAR LETTER KAqbHpbGqbHpbNGpbCqbHpbJqbHpbNYqcNpbTTrbHpbDDrbHpbNNpbTqbHpbDqbHpbNpbPqbHpbB
1018 qbHpbMpbYpbRpbLpbWpbSpbHpbLLpbpbSHAN paIqaIpaUqaUpaEpbMON paOpaAUiaVOWEL SIGN TALL AAtctaIuaI
102F taUuaUtaEtaAItbMON IxaOtaE ABOVEiaSIGN ANUSVARAnaDOT BELOWnaVISARGApbRAMnaASAT
103B iaCONSONANT SIGN MEDIAL YA+ebR+ebW+ebHibLETTER GREAT SiaDIGIT ZEROoaONEoaTWOpaHREEoaFOURpaIVE
1046 oaSIXpaEVENoaEIGHToaNINEiaSIGN LITTLE SECTIONnhjaYMBOL LOCATIVEpaCOMPLETEDpcAFOREMENTION
104F paGENITIVEiaLETTER SHAqbSpaVOCALIC RyaRxaLyaLiaVOWEL SIGN VOCALIC R+caR+baL+caL
105A iaLETTER MON NGAtbJHtbBBvaEiaCONSONANT SIGN MON MEDIAL NA+ibM+ibLibLETTER SGAW KAREN SH
1062 iaVOWEL SIGN SGAW KAREN EUiaTONE MARK SGAW KAREN HATHI+daKE PHOiaLETTER WESTERN PWO KAREN THA
1066 +hbPWiaVOWEL SIGN WESTERN PWO KAREN EU+laUEiaSIGN WESTERN PWO KAREN TONE-1+ka2+ka3+ka4+ka5
106E iaLETTER EASTERN PWO KAREN NNA+hbYW+hcGHiaVOWEL SIGN GEBA KAREN ItaKAYAH OEzaUzaEE
1075 iaLETTER SHAN KAvbHubGubCubZubNYubDubNubPHubFubBubTHucibCONSONANT SIGN SHAN MEDIAL W
1083 ibVOWEL SIGN SHAN AyaEza ABOVEyaFINAL YiaSIGN SHAN TONE-2xa3xa5xa6saCOUNCIL TONE-2+fa3
108D +aaEMPHATIC TONEiaLETTER RUMAI PALAUNG FAiaSIGN RUMAI PALAUNG TONE-5jaHAN DIGIT ZEROtaONE
1092 taTWOuaHREEtaFOURuaIVEtaSIXuaEVENtaEIGHTtaNINEjaIGN KHAMTI TONE-1za3iaVOWEL SIGN AITON A+aaI
109E iaSYMBOL SHAN ONEuaEXCLAMATIONabGEORGIAN CAPITAL LETTER AycBycGybDOybEybVIybZEybTAybIybKA
10AA yaLASyaMANyaNARyaONyaPARycZHyaRAEyaSANyaTARyaUNyaPHARydKyaGHANyaQARyaSHINydCzbAyaJILycCzaHAR
10BE yaXANycJHyaHAEzbzbIybWyaHARzaOE
10C7 yaYN
10CD ybAE
10D0 jbLETTER AqcBqcGqbDOqbEqbVIqbZEqbTAqbIqbKAqaLASqaMANqaNARqaONqaPARqcZHqaRAEqaSANqaTARqaUN
10E4 qaPHARqdKqaGHANqaQARqaSHINqdCrbAqaJILqcCraHARqaXANqcJHqaHAErbrbIqbWqaHARraOEqaFIqaYNqaELIFI
10F9 qaTURNED GANqbAIjaPARAGRAPH SEPARATORabMODIFIER LETTER GEORGIAN NAaaGEORGIAN LETTER AEN
10FE qbHARD SIGqfLABIALaaHANGUL CHOSEONG KIYEOKqgSSANGqaNIEUNqaTIKEUTqgSSANGqaRIEULqaMIEUMqaPIEUP
1108 qfSSANGraIOSrdSANGSqaIEUNGqaCIEUCqfSSANGqaCHIEUCHqbKHIEUKqbTHIEUTqbPHIEUPqbHIEUqaNIEUN-KIYEOK
1114 qaSSANGNIEUNqaNIEUN-TIKEUTwaPIEUPqaTIKEUT-KIYEOKqaRIEUL-NIEUNqaSSANGRIEULqaRIEUL-HIEUH
111B qaKAPYEOUNRIEULqaMIEUM-PIEUPqaKAPYEOUNMIEUMqaPIEUP-KIYEOKwaNIEUNwaTIKEUTwaSIOS+aa-KIYEOK
1123 +baTIKEUT+baPIEUPxaSANGSIOSxaIOS-CIEUCwfxaHIEUCHwbTHIEUTwbPHIEUPqaKAPYEOUNPIEUPyfSSANG
112D qaSIOS-KIYEOKvaNIEUNvaTIKEUTvaRIEULvaMIEUMvaPIEUP+aa-KIYEOKvaSSANGSIOSvaIEUNGvaCIEUCwaHIEUCH
1138 vbKHIEUKvbTHIEUTvbPHIEUPvbHIEUqaCHITUEUMSIOSzdSANGSreEONGCHIEUM+cdSANGSqePANqaIEUNG-KIYEOK
1142 waTIKEUTwaMIEUMwaPIEUPwaSIOSwePANqaSSANGIEUNGqaIEUNG-CIEUCxaHIEUCHwbTHIEUTwbPHIEUPqaYESIEUNG
114D qfCIEUC-raHITUEUMCIEUCyfSSANGrfEONGCHIEUM+bfSSANGraHIEUCH-KHIEUKHybHIEUtbTUEUMCHIEUCrkEONGCHI
1156 qaPHIEUPH-PIEUPqaKAPYEOUNPHIEUPHqbSSANGHIEUqfYEORINqaKIYEOK-TIKEUTqaNIEUN-SIOSwaCIEUCwaHIEUH
115E qaTIKEUT-RIEULqaFILLERhmJUNGraAsaEraYAtaEraEOsaraYEOtaraOraWAtaErbOraYOraUraWEOtasaIraYUrbE
1174 raYIrbraA-OtaUraYA-OubYrbEO-uaUubEraYEO-OvaUraO-EOuatbYtaOtaUraYO-YAwaEvaEOubuaIraU-AuaE
118B taEO-EUtaYEtaUraYU-AuaEOvauaYEOwauaUuaIraEU-UubErbYI-raI-AtbYtaOtaUtbEtaARAEArfwa-EOxaUxaI
11A2 raSSANGARAEAraA-EUrbYA-saEO-YArevaEiaONGSEONG KIYEOKrgSSANGraKIYEOK-SIOSraNIEUNwa-CIEUC
11AD xaHIEUHraTIKEUTraRIEULwa-KIYEOKxaMIEUMxaPIEUPxaSIOSxaTHIEUTHxbPHIEUPxbHIEUraMIEUMraPIEUP
11B9 wa-SIOSresdSANGSraIEUNGraCIEUCsaHIEUCHrbKHIEUKrbTHIEUTrbPHIEUPrbHIEUraKIYEOK-RIEUL
11C4 yaSIOS-KIYEOKrhNIEUNxaTIKEUTxaSIOSxePANxaTHIEUTHraTIKEUT-KIYEOKyaRIEULraRIEUL-KIYEOK-SIOS
11CD xaNIEUNxaTIKEUT+da-HIEUHraSSANGRIEULraRIEUL-MIEUM-KIYEOK+daSIOSxfPIEUP+daHIEUHxaKAPYEOUNPIEUP
11D6 xaSSANGSIOSxePANxaKHIEUKHxbYEORINHIEUraMIEUM-KIYEOKxaRIEULxaPIEUPxaSIOSydSANGSxePANxaCHIEUCH
11E1 xbHIEUraKAPYEOUNMIEUMraPIEUP-RIEULxaPHIEUPHxbHIEUraKAPYEOUNPIEUPraSIOS-KIYEOKwaTIKEUTwaRIEUL
11EA waPIEUPraPANSIOSraIEUNG-KIYEOKxgSSANGraSSANGIEUNGraIEUNG-KHIEUKHraYESIEUNGza-SIOS+aePAN
11F3 raPHIEUPH-PIEUPraKAPYEOUNPHIEUPHraHIEUH-NIEUNxaRIEULxaMIEUMxaPIEUPraYEORINHIEUHraKIYEOK-NIEUN
11FB yaPIEUPyaCHIEUCHybKHIEUKybHIEUraSSANGNIEUNaaETHIOPIC SYLLABLE HAtaUtaItaAAtaEEuataOuaAsbLtaU
120A taItaAAtaEEuataOtaWAsbHHuaUuaIuaAAuaEEvauaOuaWAsbMtaUtaItaAAtaEEuataOtaWAsbSZuaUuaIuaAAuaEEva
1226 uaOuaWAsbRtaUtaItaAAtaEEuataOtaWAsbStaUtaItaAAtaEEuataOtaWAtbHuaUuaIuaAAuaEEvauaOuaWAsbQtaU
1242 taItaAAtaEEuataOuaAtbW
124A uaIuaAAuaEEva
1250 taHAuaUuaIuaAAuaEEvauaO
1258 uaWA
125A vaIvaAAvaEEwa
1260 saBAtaUtaItaAAtaEEuataOtaWAsbVtaUtaItaAAtaEEuataOtaWAsbTtaUtaItaAAtaEEuataOtaWAsbCtaUtaItaAA
127C taEEuataOtaWAsbXtaUtaItaAAtaEEuataOuaAtbW
128A uaIuaAAuaEEva
1290 saNAtaUtaItaAAtaEEuataOtaWAtbYuaUuaIuaAAuaEEvauaOuaWAsbGLOTTAL +aaU+aaI+aaAA+aaEE+ba+aaO+aaWA
12A8 sbKtaUtaItaAAtaEEuataOuaAtbW
12B2 uaIuaAAuaEEva
12B8 taXAuaUuaIuaAAuaEEvauaO
12C0 uaWA
12C2 vaIvaAAvaEEwa
12C8 saWAtaUtaItaAAtaEEuataOuaAsbPHARYNGEAL +daU+daI+daAA+daEE+ea+daO
12D8 saZAtaUtaItaAAtaEEuataOtaWAtbHuaUuaIuaAAuaEEvauaOuaWAsbYtaUtaItaAAtaEEuataOuaAsbDtaUtaItaAA
12F4 taEEuataOtaWAtbDuaUuaIuaAAuaEEvauaOuaWAsbJtaUtaItaAAtaEEuataOtaWAsbGtaUtaItaAAtaEEuataOuaAtbW
1312 uaIuaAAuaEEva
1318 taGAuaUuaIuaAAuaEEvauaOuaWAAsbTHuaUuaIuaAAuaEEvauaOuaWAsbCHuaUuaIuaAAuaEEvauaOuaWAsbPHuaUuaI
1333 uaAAuaEEvauaOuaWAsbTSuaUuaIuaAAuaEEvauaOuaWAtbZuaUuaIuaAAuaEEvauaOvaAsbFtaUtaItaAAtaEEuataO
134F taWAsbPtaUtaItaAAtaEEuataOtaWAsbRYscMscF
135D jaCOMBINING GEMINATION AND VOWEL LENGTH MARKtrtfGEMINATIONjjSECjaWORDSPACEjaFULL STOPjaCOMMA
1364 jaSEMICOLONjfjfPREFACE jaQUESTION MARKjaPARAGRAPH SEPARATORjaDIGIT ONEpaTWOqaHREEpaFOURqaIVE
136E paSIXqaEVENpaEIGHTpaNINEjaNUMBER TENraWENTYrcHIRqdFOrcIFqcSIXrcEVENqcEIGHqcNINEqaHUNDRED
137C qbTEN THOUSAN
1380 jaSYLLABLE SEBATBEIT MWAsaMWIuaEEvasaSEBATBEIT BWAsaBWIuaEEvasaSEBATBEIT FWAsaFWIuaEEva
138C saSEBATBEIT PWAsaPWIuaEEvajaTONAL MARK YIZETucDERuaRIKRIKugSHORT uaDIFATucKENubCHIREucHID
1398 ufDERET-ubKUR
13A0 aaCHEROKEE LETTER AqaEqaIqaOqaUqaVqaGAqbKqaGEraIraOraUraVqaHAraEraIraOraUraVqaLAraEraIraOraU
13B8 raVqaMAraEraIraOraUqaNAqcHqaNAHraEraIraOraUraVqaQUAsaEsaIsaOsaUsaVqaSAraraEraIraOraUraVqaDA
13D4 qbTqaDEqbTqaDIqbTqaDOraUraVraLAqcTsaEsaIsaOsaUsaVraSAsaEsaIsaOsaUsaVqaWAraEraIraOraUraVqaYA
13F0 raEraIraOraUraVqbM
13F8 jaSMALL LETTER YExaIxaOxaUxaVwbM
1400 baANADIAN SYLLABICS HYPHENtaEtaAAItbuaItaOuaOtcY-CREE taCARRIER EE+baItaAuaAtaWEvaST-CREE WE
140E uaIubEST-CREE WubIucEST-CREE WuaOubEST-CREE WubOucEST-CREE WteNASKAPItaWAubEST-CREE WubA
141A ucEST-CREE WteNASKAPItaAItaY-CREE WtaGLOTTAL STOPtaFINAL ACUTEzbGRAVzaBOTTOM HALF RINGzkTOP
1423 zkRIGHT+bczaDOUBLE ACUTE+gaSHORT VERTICAL STROKESzaMIDDLE DOTzaSHORT HORIZONTAL STROKEzaPLUS
142A zaDOWN TACKtaENtbItbOtbAtaPEuaAAIubvaIuaOvaOtdY-CREE taCARRIER HEE+caItaPAvaAuaWEtdWEST-CREE 
143C taPWItdWEST-CREE tbPWIteWEST-CREE taPWOtdWEST-CREE tbPWOteWEST-CREE taPWAtdWEST-CREE tbPWA
1447 teWEST-CREE tkYtaPtbWEST-CREE taCARRIER HtaTEuaAAIubvaIuaOvaOtdY-CREE taCARRIER DEE+caItaTA
1456 vaAuaWEtdWEST-CREE taTWItdWEST-CREE tbTWIteWEST-CREE taTWOtdWEST-CREE tbTWOteWEST-CREE taTWA
1462 tdWEST-CREE tbTWAteWEST-CREE tfNASKAPItaTuaTEvaIvaOvaAtaKEuaAAIubvaIuaOvaOtdY-CREE taKAvaA
1474 uaWEtdWEST-CREE taKWItdWEST-CREE tbKWIteWEST-CREE taKWOtdWEST-CREE tbKWOteWEST-CREE taKWA
147F tdWEST-CREE tbKWAteWEST-CREE tfNASKAPItaKuaWtaSOUTH-SLAVEY KEH+hbI+hbO+hbAtaCEuaAAIubvaIuaO
148E vaOtdY-CREE taCAvaAuaWEtdWEST-CREE taCWItdWEST-CREE tbCWIteWEST-CREE taCWOtdWEST-CREE tbCWO
149B teWEST-CREE taCWAtdWEST-CREE tbCWAteWEST-CREE tfNASKAPItaCtaSAYISI THtaMEuaAAIubvaIuaOvaO
14A9 tdY-CREE taMAvaAuaWEtdWEST-CREE taMWItdWEST-CREE tbMWIteWEST-CREE taMWOtdWEST-CREE tbMWO
14B5 teWEST-CREE taMWAtdWEST-CREE tbMWAteWEST-CREE tfNASKAPItaMtbWEST-CREE taMHtaATHAPASCAN M
14BF tcSAYISItaNEuaAAIubvaIuaOvaOtdY-CREE taNAvaAuaWEtdWEST-CREE taNWAtdWEST-CREE tbNWA
14CE teWEST-CREE tfNASKAPIuataCARRIER NGtaNHtaLEuaAAIubvaIuaOvaOtdY-CREE taLAvaAuaWEtdWEST-CREE 
14DE taLWItdWEST-CREE tbLWIteWEST-CREE taLWOtdWEST-CREE tbLWOteWEST-CREE taLWAtdWEST-CREE tbLWA
14E9 teWEST-CREE taLtbWEST-CREE tcMEDIALtaSEuaAAIubvaIuaOvaOtdY-CREE taSAvaAuaWEtdWEST-CREE taSWI
14F9 tdWEST-CREE tbSWIteWEST-CREE taSWOtdWEST-CREE tbSWOteWEST-CREE taSWAtdWEST-CREE tbSWA
1503 teWEST-CREE tfNASKAPItaStbATHAPASCAN taSWtaBLACKFOOT StaMOOSE-CREE SKtaNASKAPI SKW+cb-+caPWA
150D +ccT+ccK+ccCtaSHEvaIwaIvaOwaOvaAwaAvaWEteWEST-CREE taSHWIteWEST-CREE tbSHWItfWEST-CREE taSHWO
151E teWEST-CREE tbSHWOtfWEST-CREE taSHWAteWEST-CREE tbSHWAtfWEST-CREE taSHtaYEuaAAIubvaIuaOvaO
152C uc-CREE YuaAvaAuaWEtdWEST-CREE taYWItdWEST-CREE tbYWIteWEST-CREE taYWOtdWEST-CREE tbYWO
1538 teWEST-CREE taYWAtdWEST-CREE tbYWAteWEST-CREE tfNASKAPItaYtbBIBLE-CREE thWESTtaSAYISI YItaRE
1543 ub-CREE RtbWEST-CREE LtaRAAIubvaIuaOvaOtbWEST-CREE LtaRAvaAtbWEST-CREE LtbRWAteWEST-CREE taR
1551 tbWEST-CREE tcMEDIALtaFEuaAAIubvaIuaOvaOuaAvaAucWteWEST-CREE taFtaTHEtdN-CREE taTHItdN-CREE 
1562 tbTHIteN-CREE taTHOwaOvaAwaAvcWtfWEST-CREE taTHuaTHEwaIwaOwaAwauaYEvaIvaOvaAtaNUNAVIK HE+caI
1576 +daI+caO+daO+caA+daA+caycUTtaHKtaQAAIubvaIuaOvaOuaAvaAuataTLHEwaIwaOwaAtaWEST-CREE RE+eaI+eaO
158D +eaAtaNGAAIvbwaIvaOwaOvaAwaAvaubNtaSAYISI SHE+caI+caO+caAtaWOODS-CREE THE+gaI+gaO+gaA+gataLHI
15A1 waIvaOwaOvaAwaAvataTH-CREE THE+daI+eaI+daO+eaO+daA+eaA+dataAIVILIK BtaBLACKFOOT E+daI+daO+daA
15B4 +daWE+eaI+eaO+eaA+daNE+eaI+eaO+eaA+daKE+eaI+eaO+eaAtaSAYISI HE+baI+baO+baAtaCARRIER GHU+daO
15C6 +daE+eaE+daI+daA+baRU+caO+caE+daE+caI+caA+baWU+caO+caE+daE+caI+caA+baHWU+daO+daE+eaE+daI+daA
15DC +baTHU+daO+daE+eaE+daI+daA+caTU+daO+daE+eaE+daI+daA+baPU+caO+caE+daE+caI+caA+ca+baGU+caO+caE
15F2 +daE+caI+caA+baKHU+daO+daE+eaE+daI+daA+caKU+daO+daE+eaE+daI+daA+da+baNU+caO+caE+daE+caI+caA
1608 +baMU+caO+caE+daE+caI+caA+baYU+caO+caE+daE+caI+caA+baJUtdSAYISItaCARRIER JO+caE+daE+caI
161A tdSAYISItaCARRIER JA+caJU+daO+daE+eaE+daI+daA+baLU+caO+caE+daE+caI+caA+baDLU+daO+daE+eaE+daI
162D +daA+baLHU+daO+daE+eaE+daI+daA+baTLHU+eaO+eaE+faE+eaI+eaA+daU+daO+daE+eaE+daI+daA+baZU+caO
1642 +caE+daE+caI+caA+ca+bbINITIAL +baDZU+daO+daE+eaE+daI+daA+baSU+caO+caE+daE+caI+caA+caHU+daO
1656 +daE+eaE+daI+daA+da+baTSU+daO+daE+eaE+daI+daA+baCHU+daO+daE+eaE+daI+daA+baTTSU+eaO+eaE+faE
166B +eaI+eaAuaHI SIGNtaFULL STOPtaQAItcNGubNGxaIwaOxaOwaAxaAtaWOODS-CREE THWEE+haI+iaI+haO+iaO
167C +haA+iaA+eaFINAL THtaBLACKFOOT WaaOGHAM SPACE MARKgaLETTER BEITHnaLUISnaFEARNnaSAILnaNION
1686 naUATHnaDAIRnaTINNEnaCOLLoaEIRTnaMUINnaGORTnaNGEADALnaSTRAIFnaRUISnaAILMnaONNnaURnaEADHADH
1694 nfIOneEABnaORnaUILLEANNnbIFInaEAMHANCHOLLnaPEITHgaFEATHER MARKgmREVERSED 
16A0 aaRUNIC LETTER FEHU FEOH FE FnaVnaURUZ UR UnaYRoanaWnaTHURISAZ THURS THORNnaETHnaANSUZ A
16A9 naOS OnaAC AoaESCnaLONG-BRANCH-OSS OngSHORT-TWIGnboaEoaNnaRAIDO RAD REID RnaKAUNAnaCEN
16B4 naKAUN KnaGnbENnbGEBO GYFU oaARnaWUNJO WYNN WnaHAGLAZ HpcEGLndLONG-BRANCH-HAGALnjSHORT-TWIG
16BE naNAUDIZ NYD NAUD NngSHORT-TWIG-nbDOTTED-naISAZ IS ISS InaEnaJERAN JnaGERnaLONG-BRANCH-AR AE
16C6 naSHORT-TWIG-AR AnaIWAZ EOHnaPERTHO PEORTH PnaALGIZ EOLHXnaSOWILO SocIGEL LONG-BRANCH-SOL
16CC ogHORT-TWIGnaCnaZnaTIWAZ TIR TYR TnfSHORT-TWIG-naDnaBERKANAN BEORC BJARKAN BnjSHORT-TWIG-
16D4 naDOTTED-PncOPENnaEHWAZ EH EnaMANNAZ MAN MncLONG-BRANCH-MADRnhSHORT-TWIGnaLAUKAZ LAGU LOGR L
16DB nbDOTTED-naINGWAZqanaDAGAZ DAEG DnaOTHALAN ETHEL OnaEARnbIOnaCWEORTHoaALCodEnaSTAN
16E6 naLONG-BRANCH-YRndSHORT-TWIGndICELANDICnaQnaXgaSINGLE PUNCTUATIONgoMULTIPgmCROSS
16EE gaARLAUG SYMBOLghTVIMADURgiBELGTHOgaLETTER KnaSHnaOOnaFRANKS CASKET OS+bbI+baEH+baAC+cbES
1700 aaTAGALOG LETTER ApaIpaUpaKApbGpcNpbTpbDpbNpbPpbBpbMpbYpbRpbLpbWpbSpbHiaVOWEL SIGN ItaU
1714 iaSIGN VIRAMAnaPAMUDPOD
171F iaLETTER ARCHAIC RAabHANUNOO LETTER paIpaUpaKApbGpcNpbTpbDpbNpbPpbBpbMpbYpbRpbLpbWpbSpbH
1732 iaVOWEL SIGN ItaUiaSIGN PAMUDPODaaPHILIPPINE SINGLE PUNCTUATIONloDOUB
1740 aaBUHID LETTER AnaInaUnaKAnbGncNnbTnbDnbNnbPnbBnbMnbYnbRnbLnbWnbSnbHgaVOWEL SIGN IraU
1760 aaTAGBANWA LETTER AqaIqaUqaKAqbGqcNqbTqbDqbNqbPqbBqbMqbY
176E qbLqbWqbS
1772 jaVOWEL SIGN IuaU
1780 aaKHMER LETTER KAobHoaOobHnbNGnaCAobHoaOobHnbNYnaDAnbTTHnaDOnbTTHnbNNnaTAobHoaOobHnbNnaBAnbPH
1796 oaOobHnbMnbYnbRnbLnbVnaSHAoaSOoaAnbHnbLnbQgaINDEPENDENT VOWEL QAQ+aaAzaI+aaIzaU+aaK+aaU+baV
17AB yaRY+aaYybL+aaYyaQEzaAIzaOO TYPE ONE+haTWOzaAUgaVOWEL INHERENT AQwaAmdSIGNraIsaIraYsaYraUsaU
17BD saAraOEraYAraIErbrbAsaIraOOraAUgaSIGN NIKAHITlaREAHMUKlaYUUKALEAPINTUlaMUUSIKATOANlaTRIISAP
17CB laBANTOClaROBATlcTOANDAKHIlcKAKABlaAHSDAlbSAMYOK SANNYlaVIRIAMlaCOENGlaBATHAMASATlaKHAN
17D5 lcBARIYOOSlaCAMNUC PII KUUHlaLEK TOOlaBEYYALlaPHNAEK MUANlaKOOMUUTgaCURRENCY SYMBOL RIEL
17DC gaSIGN AVAKRAHASANYAmaTTHACAN
17E0 gaDIGIT ZEROmaONEmaTWOnaHREEmaFOURnaIVEmaSIXnaEVENmaEIGHTmaNINE
17F0 gaSYMBOL LEK ATTAK SONxaMUOYxaPIIxbBEyaUONxaPRAM+ba-MUOY+caPII+cbBE+daUON
1800 aaMONGOLIAN BIRGAkaELLIPSISkaCOMMAkaFULL STOPkaCOLONkaFOUR DOTSkaTODO SOFT HYPHEN
1807 kaSIBE SYLLABLE BOUNDARY MARKERkaMANCHU COMMAraFULL STOPkaNIRUGUkaFREE VARIATION SELECTOR ONE
180C +iaTWO+jaHREEkaVOWEL SEPARATORkbFREE VARIATION SELECTOR FOUkaDIGIT ZEROqaONEqaTWOraHREEqaFOUR
1815 raIVEqaSIXraEVENqaEIGHTqaNINE
1820 kaLETTER AraEraIraOraUraOErbUrbEraNAraANGraBArbPrbQrbGrbMrbLrbSsbHrbTrbDrbCHrbJrbYrbRrbWrbF
183A rbKsbHrbTSrbZrbHArbZRrbLHraZHIrcCraTODO LONG VOWEL SIGNwaEwaIwaOwaUwaOEwbUwaANGwaBAwbPwbQwbG
184F wbMwbTwbDwbCHwbJwbTSwbYwbWwbKwbGAwcHwbJIwcNwbDZraSIBE EwaIxaYwaUExawaANGwaKAwbGwbHwbPwbSHwbT
1869 wbDwbJwbFwbGAwcHwbTSwbZwbRAwbCHwcZraMANCHU IyaKAybRybFybZHraCHA WITH TWO DOTS
1880 raALI GALI ANUSVARA ONE+afVISARG+aaDAMARU+aaUBADAMA+ahINVERTED +abBALUD+agTHREE +ab+aaI+aaKA
188A +abNG+abC+abTT+cbH+abDD+abNN+abT+abD+abP+bbH+abSS+abZH+bb+aaAHraTODO ALI GALI TA+fbZH
189A rcMANCHU ALI GALI G+hbNG+hbC+hbJH+hbTT+hbDDH+hbT+hbDH+hbSS+hbCY+hbZH+ibraALI GALI HALF U+faYA
18A8 rbMANCHU ALI GALI BHrbALI GALI DAGALGrbMANCHU ALI GALI LH
18B0 aaCANADIAN SYLLABICS OYtbAubAtcWtbPOubAubWOtbTAtcKucWtcMtbNOubAtcLtbSOubAubHOvbAvbWOtcYubAtcR
18C6 taNWItdOJIBWAY tbNWIteOJIBWAY taNWOtdOJIBWAY tbNWOteOJIBWAY taRWEEvaIwaIvaOwaOvaAtaOJIBWAY P
18D5 +baT+baK+baC+baM+baN+baS+caHtaEASTERN WthWEtaFINAL SMALL RINGzaRAISED DOTtaR-CREE RWE
18E1 taWEST-CREE LOO+eaAAtaTHWEwaAuaTHWEwaOOwaAAuaLHWEwaOOtaSAYISI SHWE+caOO+adtaCARRIER GWU
18EE +baDENE GEE+baGAA+cbWtaSAYISI JUUtaCARRIER JWAtaBEAVER DENE L+faRtaCARRIER DENTAL S
1900 aaLIMBU VOWEL-CARRIER LETTERgaLETTER KAobHnbGobHnbNGnbCobHnbJobHnaYANnaTAobHnbDobHnbNnbPobH
1912 nbBobHnbMnbYnbRnbLnbWnbSHobSobnbHnaGYANnaTRA
1920 gbVOWEL SIGN raIraUraEEraAIraOOraAUraEraOgaSUBJOINED LETTER YAxbRxbW
1930 hbMALL LETTER KtbNGtbANUSVARtbTtbNtbPtbMtbRtbLhaIGN MUKPHRENGlgKEMlaSA-I
1940 laLOO
1944 gaEXCLAMATION MARKgjQUESgaDIGIT ZEROmaONEmaTWOnaHREEmaFOURnaIVEmaSIXnaEVENmaEIGHTmaNINE
1950 aaTAI LE LETTER KAobXobNGobTSocobYobTpbHobLobPpbHobMobFobVobHobQobKHocTSobNoboaIoaEEpaHoaU
1968 oaOOpaoaUEobobAUpaI
1970 oaTONE-2ta3ta4ta5ta6
1980 aaNEW TAI LUE LETTER HIGH QAtdLOWtbHIGH KybXybNGtbLOW KxbXxbNGtbHIGH TSycybYtbLOW TSxcxbY
198E tbHIGH TzbHybNtbLOW TybHxbNtbHIGH PzbHybMtbLOW PybHxbMtbHIGH FybVybLtbLOW FxbVxbLtbHIGH HybD
19A2 ybBtbLOW HxbDxbBtbHIGH KVycXtcLOW KxcXtbHIGH SUteLOW
19B0 maVOWEL SIGN VOWEL SHORTENERxaAAxaIIxaUyaUxaExbAxaOyaAxaUExaAYybAxbUxbOybAxbUExbI
19C1 maLETTER FINAL VzaNG+aazaMzaKzaDzaBmaTONE MARK-1wa2
19D0 maDIGIT ZEROsaONEsaTWOtaHREEsaFOURtaIVEsaSIXtaEVENsaEIGHTsaNINEmcTHAM DIGIT O
19DE mbSIGN LAuaVaaKHMER SYMBOL PATHAMASATnbMUOY KOEnfPIIngBEofUONnfPRAMrf-MUOYsfPIIsgBEtfUONnfDAP
19EB qf-MUOYrfPIIrgBEsfUONrfPRAMnbTUTEYASAnaMUOY ROCnePIInfBEoeUONnePRAMre-MUOYsePIIsfBEteUONneDAP
19FB qe-MUOYrePIIrfBEseUONrePRAMaaBUGINESE LETTER KAqbGqcNsbKqbPqbBqbMrbPqbTqbDqbNrbRqbCqbJqbNYsbC
1A10 qbYqbRqbLqbVqbSqbqbHjaVOWEL SIGN IuaUuaEuaOuaAE
1A1E jaPALLAWAjaEND OF SECTIONaaTAI THAM LETTER HIGH KAwbHwbXqbLOW KvbXvbHqbNGqbHIGH CwbHqbLOW C
1A2A ubSubCHqbNYqbRATqbHIGH RATHqbDqbLOW RATHqbRANqbHIGH TwbHqbLOW TvbHqbNqbBqbHIGH PwbHvbFqbLOW P
1A3C ubFubPHqbMqbLOW YqdHIGHqbRraUEqaLAraUEqaWAqbHIGH SHwbSwbvbHqbLLqbqbLOW HqaIraIqaUraUqaEEqaOO
1A53 qaLAEqaGREAT SAjbCONSONANT SIGN MEDIAL R+fbLyaLA TANG LAIjhSIGN MAI K
1A59 jaCONSONANT SIGN FINAL NGAybLOW PygHIGH RATHA OR ybMybBybS
1A60 jaSIGN SAKOTjaVOWEL SIGN AuaMAI SATuaAAucTALL uaIvaIuaUEvbUvavaUuaOvaA BELOWvaYuaEubAuaOOuaAI
1A72 ucTHAM uaOA ABOVEjaSIGN MAI KANGoaTONE-1ta2oaKHUEN TONE-3za4za5oaRA HAAMocMAI S
1A7C oaKHUEN-LUE KARAN
1A7F jaCOMBINING CRYPTOGRAMMIC DOTjaHORA DIGIT ZEROuaONEuaTWOvaHREEuaFOURvaIVEuaSIXvaEVENuaEIGHT
1A89 uaNINE
1A90 jaTHAM DIGIT ZEROuaONEuaTWOvaHREEuaFOURvaIVEuaSIXvaEVENuaEIGHTuaNINE
1AA0 jaSIGN WIANGtaWAAKoaSAWANoaKEOWoaHOYoaDOKMAIoaREVERSED ROTATED RANAoaMAI YAMOKoaKAANsaKUU
1AAA oaSATKAANvaKUUoaHANGodCA
1AB0 aaCOMBINING DOUBLED CIRCUMFLEX ACCENTlaIAERESIS-RINGkaINFINITYkaDOWNWARDS ARROWkaTRIPLE DOT
1AB5 kaX-X BELOWkgWIGGLY LINEkgOPEN MARKkpDOUBLE kgLIGHT CENTRALIZATION STROKEk+cSTRONG
1ABB kaPARENTHESES ABOVEkrDOUBLE kaPARENTHESES BELOWwaOVERLAYkaLATIN SMALL LETTER W BELOW
1AC0 +dhTURNED laEFT PARENTHESIS ABOVE LEFTkbRIGHT PARENTHESIS ABOVE RIGH
1AC3 kbLEFT PARENTHESIS BELOW LEFkbRIGHT PARENTHESIS BELOW RIGHkaSQUARE BRACKETS ABOVE
1AC6 kgNUMBER SIGNkgINVERTED DOUBLE ARCHkgPLUS SIGNkpDOUBLE +baBELOWkaTRIPLE ACUTE ACCENT
1ACC kaLATIN SMALL LETTER INSULAR G+laR+laT
1B00 aaBALINESE SIGN ULU RICEMsaCANDRAoaCECEKoaSURANGoaBISAHjaLETTER AKARAva TEDUNGqaIKARA
1B08 va TEDUNGqaUKARAva TEDUNGqaRA REPAxa TEDUNGqaLA LENGAya TEDUNGqaEKARAqeAIqeOva TEDUNGqaKA
1B14 sa MAHAPRANAqbGsa GORAqbNGqbCsa LACAqbJsa JERAqbNYqaTA LATIKtaMURDA MAHAPRANAqgDA MURDA ALP
1B20 zgMAHqaNA RAMBATqaTAsa TAWAqbDsa MADUqaNAqbPsa KAPALqaBAsa KEMBANGqaMAqbYqbRqbLqbWqbSA SAGvbP
1B32 saqbHjaSIGN REREKANjaVOWEL SIGN TEDUNGuaULUxa SARIuaSUKUya ILUTuaRA REPA+ba TEDUNGuaLA LENGA
1B3D +ca TEDUNGucTALI+aa REPA+baTEDUNG+bgREPA uaPEPETza TEDUNGjbADEG ADEjaLETTER KAF SASAKrgHOT
1B47 qgTZIRqgEFqgVEqgZALqgASYURAraRCHAIC JNYA
1B50 jaDIGIT ZEROpaONEpaTWOqaHREEpaFOURqaIVEpaSIXqaEVENpaEIGHTpaNINEjaPANTIlaMADAjaWINDU
1B5D jaCARIK PAMUNGKAHpaSIKIpaPARERENjaPAMENENGjcMUSICAL SYMBOL DOzcEzcUzcA+ca SURANGzcIzcAEzcEU
1B69 zcAI+aaNG GEDEyaCOMBINING TEGEH+iaENDEP+iaKEMPUL+maLI+iaJEGOGAN+ihKEMPUL WITH +mnLI+iaBENDE
1B73 +iaGONGybRIGHT-HAND OPEN DU+pbA+jaCLOSED TUK+rbAyaLEFT-HAND OPEN PANG+ocU+iaCLOSED PLAK+rbU
1B7C +iaOPEN PINGjcPANTI LANTAliMADA
1B80 aaSUNDANESE SIGN PANYECEKsaGLAYARtaWISADkaLETTER AraIraUraAEraOraEsaUraKArbQrbGrcNrbCrbJrbZ
1B91 rbNYrbTrbDrbNrbPrbFrbVrbBrbMrbYrbRrbLrbWrbSrbXrbHkaCONSONANT SIGN PAMINGKAL+baNYAKRA+daIKU
1BA4 kbVOWEL SIGN PANGHULybYUKyaAELAENGycOLOxaMEPETxaNEULEUNGkaSIGN PAMAAEHpaVIRAMA
1BAC kcCONSONANT SIGN PASANGAN +ibWkbLETTER KHrbSYkaDIGIT ZEROqaONEqaTWOraHREEqaFOURraIVEqaSIX
1BB7 raEVENqaEIGHTqaNINEkaAVAGRAHAkaLETTER REUrcLraBHAraFINAL KxaMaaBATAK LETTER AnbSIMALUNGUN nbH
1BC3 ncSIMALUNGUN ndMANDAILINGnbBncKARO nbPncSIMALUNGUN nbNncMANDAILING nbWncSIMALUNGUN ndPAKPAK
1BCE nbGncSIMALUNGUN nbJnbDnbRncSIMALUNGUN nbMncSIMALUNGUN obOUTHERN TniNORnbSobIMALUNGUN S
1BDA ndMANDAILINGnbYncSIMALUNGUN nbNGnbLncSIMALUNGUN nbNYnbCnbNDnbMBnaInaUgaSIGN TOMPI
1BE7 gaVOWEL SIGN ErbPAKPAK rbEraIrbKARO raOrbKARO raUsa FOR SIMALUNGUN SAgaCONSONANT SIGN NGvaH
1BF2 gaPANGOLATjaONGONAN
1BFC gaSYMBOL BINDU NA METEKtaPINARBORAStaJUDULtaPANGOLATaaLEPCHA LETTER KApbLpbHobGpbLobNGobCpbH
1C08 obJobNYobTpbHobDobNobPpbLpbHobFpbLobBpbLobMpbLobTSqbHobDZobYobRobLobHpbLobVobSpbHobWob
1C24 hbSUBJOINED LETTER YybRhbVOWEL SIGN AsaIsaOtaOsaUtaUsaEhaCONSONANT SIGN KwaMwaLwaNwaPwaRwaT
1C34 waNYIN-DOwaKANGhaSIGN RANmaNUKTA
1C3B haPUNCTUATION TA-ROLtgNYET THYOOM taCER-WAtgTSHOOK zahaDIGIT ZEROnaONEnaTWOoaHREEnaFOURoaIVE
1C46 naSIXoaEVENnaEIGHTnaNINE
1C4D haLETTER TTAqbHobDDaaOL CHIKI DIGIT ZEROpaONEpaTWOqaHREEpaFOURqaIVEpaSIXqaEVENpaEIGHTpaNINE
1C5A jaLETTER LAqaATraGrbNraLqaLAAqaAAKsaJsaMsaWqaLIqaISraHraNYraRqaLUqaUCraDraNNraYqaLEqaEPraDD
1C71 raNraRRqaLOqaOTTraBraVraHjaMU TTUDDAGjcGAAHLAA TTUDDAjqMU-jaRELAAjcPHAARKjaAHAD
1C7E jcPUNCTUATION MUCAvgDOUBLE aaCYRILLIC SMALL LETTER ROUNDED VEwbLONG-LEGGED DwaNARROW O
1C83 waWIDE ESwaTALL TExdHREE-LEGGEDxaALL HARD SIGN+baYATwaUNBLENDED UK
1C90 aaGEORGIAN MTAVRULI CAPITAL LETTER AN+hcB+hcG+hbDO+hbE+hbVI+hbZE+hbTA+hbI+hbKA+haLAS+haMAN
1C9C +haNAR+haON+haPAR+hcZH+haRAE+haSAN+haTAR+haUN+haPHAR+hdK+haGHAN+haQAR+haSHIN+hdC+ibA+haJIL
1CAC +hcC+iaHAR+haXAN+hcJH+haHAE+ib+ibI+hbW+haHAR+iaOE+haFI+haYN+haELIFI+haTURNED GAN+hbAI
1CBD +ibE+hbHARD SIG+hfLABIALaaSUNDANESE PUNCTUATION BINDU SURYA+caPANGLONG+daURNAMA+cbCAKR
1CC4 +cbLEU SATANG+ciKA+cjD+cjB
1CD0 abVEDIC TONE KARSHANlbSHARlbPRENKHgbSIGN NIHSHVASlbYAJURVEDIC MIDLINE SVARIT
1CD5 giTONE YAJURVEDIC AGGRAVATED INDEPENDENTwtwtKATHAKA laCANDRA BELOW
1CD9 laYAJURVEDIC KATHAKA INDEPENDENT SVARITA SCHROEDERlaDOUBLE SVARITAlkTRIPlcKATHAKA ANUDAT
1CDD laDOT BELOWlgTWO DOTSmlHREElaRIGVEDIC KASHMIRI INDEPENDENT SVARITAluATHARVAVEDIC
1CE2 giSIGN VISARGAtcUDATloREVERSED lgVISARGA ANlqREVERSED laVISARGA UDATTA WITH TAILtqAN
1CE9 laANUSVARA ANTARGOMUKHAuiBAHIuhVAMA+fa WITH TAILlaTIRYAKlaHEXIFORM LONG ANUSVARAlnlnRTHANG 
1CF1 lbANUSVARA UBHAYATO MUKHmbRDHAVISARGlmROTATED gaTONE CANDRA ABOVEgaSIGN JIHVAMULIYAldUPADHMAN
1CF7 lbATIKRAMgaTONE RING ABOVElkDOUBLE gaSIGN DOUBLE ANUSVARA ANTARGOMUKHA
1D00 abLATIN LETTER SMALL CAPITAL +caEgdSMALL LETTER TURNEDgaLETTER SMALL CAPITAL BARRED B+baC+baD
1D06 +baETH+cagcSMALL LETTER TURNED OPEN+aaIgaLETTER SMALL CAPITAL J+baK+baL WITH STROKE+baM
1D0E +baREVERSED N+baO+caPEN OgcSMALL LETTER SIDEWAYS+daPEN O+da WITH STROKEtbTURNED O
1D15 gaLETTER SMALL CAPITAL OUgaSMALL LETTER TOP HALF OthBOTTOMgaLETTER SMALL CAPITAL P
1D19 +baREVERSED R+beTURN+ca+baUgcSMALL LETTER SIDEWAYS+cbDIAERESIZED +caTURNED M
1D20 gaLETTER SMALL CAPITAL V+baW+baZ+baEZHnaVOICED LARYNGEAL SPIRANTnaAIN
1D26 aaGREEK LETTER SMALL CAPITAL GAMMA+bbLAMD+baPI+baRHO+baPSIaaCYRILLIC LETTER SMALL CAPITAL EL
1D2C aaMODIFIER LETTER CAPITAL AzaEyaBzaARRED ByaDyaEybREVERSED yaGyaHyaIyaJyaKyaLyaMyaN
1D3B ybREVERSED yaOzaUyaPyaRyaTyaUyaWqaSMALL AwbTURNED wbALPHwaTURNED AEwaBwaDwaEwaSCHWAwaOPEN E
1D4C wgTURNED waGwaTURNED IwaKwaMwaENGwaOxaPEN OwcTOP HALFwhBOTTOMwaPwaTwaUwbSIDEWAYS waTURNED M
1D5B waVwaAINwaBETAwbGREEK GAMMwbDELTwaGREEK PHIwcCabLATIN SUBSCRIPT SMALL LETTER +daR+daU+daV
1D66 aaGREEK SUBSCRIPT SMALL LETTER BETA+dbGAMM+daRHO+daPHI+dcCaaLATIN SMALL LETTER UE
1D6C tbB WITH MIDDLE TILDtsDtsFtsMtsNtsPtsR+amFISHHOOK AND tnS WITHtsTtsZtaTURNED G
1D78 aaMODIFIER LETTER CYRILLIC ENaaLATIN SMALL LETTER INSULAR GtaTH WITH STRIKETHROUGH
1D7B maCAPITAL LETTER I WITH STROKEmmLETTER IOTAtmPmmCAPITAL LETTER UmmLETTER UPSILON
1D80 taB WITH PALATAL HOOKtsDtsFtsGtsKtsLtsMtsNtsPtsRtsStsESHtsVtsXtsZtfA WITH RETROFLEXuuLPHA
1D91 taD WITH HOOK AND TAILtaE WITH RETROFLEX HOOKtvOPEN t+aREVERSED tuSCHWAtuItuOPEN OtuESHtuU
1D9A tuEZHaaMODIFIER LETTER SMALL TURNED ALPHAwaCxa WITH CURLwaETHwaREVERSED OPEN EwaF
1DA1 waDOTLESS J WITH STROKEwaSCRIPT GwaTURNED HwaI WITH STROKExaOTAwaCAPITAL I+fa WITH STROKE
1DA8 waJ WITH CROSSED-TAILwaL WITH RETROFLEX HOOK+dfPALATALwaCAPITAL LwaM WITH HOOK
1DAD waTURNED M WITH LONG LEGwaN WITH LEFT HOOK+dfRETROFLEXwaCAPITAL NwaBARRED OwaPHIwaS WITH HOOK
1DB4 waESHwaT WITH PALATAL HOOKwaU BARxaPSILONwaCAPITAL UwaV WITH HOOKwaTURNED VwaZ
1DBC xa WITH RETROFLEX HOOK+daCURLwaEZHwaTHETAaaCOMBINING DOTTED GRAVE ACCENTriACUTkaSNAKE BELOW
1DC3 laUSPENSION MARKkaMACRON-ACUTEkaGRAVE-MACRONkaMACRON-GRAVEkaACUTE-MACRONkaGRAVE-ACUTE-GRAVE
1DC9 kbACUTE-GRAVE-ACUTkaLATIN SMALL LETTER R BELOWkaBREVE-MACRONkaMACRON-BREVE
1DCD kcDOUBLE CIRCUMFLEX ABOkgOGONEKkaZIGZAG BELOWkgISkaUR ABOVElgS
1DD3 kgLATIN SMALL LETTER FLATTENED OPEN A+dbA+eaO+eaV+daC CEDILLA+daINSULAR D+daETH+daG
1DDB qcLETTER SMALL CAPITALqaSMALL LETTER K+daLqcLETTER SMALL CAPITAL+laMqaSMALL LETTER N
1DE1 qcLETTER SMALL CAPITAL+laRqaSMALL LETTER R ROTUNDA+daS+dbLONG +daZ+daALPHA+daB+eaETA+dbSCHW
1DEB +daF+daL WITH DOUBLE MIDDLE TILDE+dbO WITH LIGHT CENTRALIZATION STROK+daP+daESH
1DF0 +daU WITH LIGHT CENTRALIZATION STROKE+daW+daA WITH DIAERESIS+dpO+dpUkaUP TACK ABOVE
1DF6 kaKAVYKA ABOVE RIGHTxbLEFklDOTkaWIDE INVERTED BRIDGE BELOWkaDOT BELOW LEFTlaELETION MARK
1DFC laOUBLE INVERTED BREVE BELOWkgALMOST EQUAL TOkaLEFT ARROWHEAD ABOVE
1DFF kaRIGHT ARROWHEAD AND DOWN ARROWHEAD BELOWagLATIN CAPITAL LETTER A WITH RINGg+aSMAL
1E02 gaCAPITAL LETTER B WITH DOT ABOVEgzSMALgaCAPITAL LETTER B WITH DOT BELOWgzSMAL
1E06 ggCAPITAL LETTER B WITH LINEg+aSMALgaCAPITAL LETTER C WITH CEDILLA AND ACUTEg+hSMAL
1E0A gbCAPITAL LETTER D WITH DOT ABOVgzSMALgaCAPITAL LETTER D WITH DOT BELOWgzSMAL
1E0E ggCAPITAL LETTER D WITH LINEg+aSMALgaCAPITAL LETTER D WITH CEDILLAgxSMAL
1E12 gaCAPITAL LETTER D WITH CIRCUMFLEX BELOWg+gSMALgaCAPITAL LETTER E WITH MACRON AND GRAVE
1E15 g+gSMALgbCAPITAL LETTER E WITH MACRON AND ACUTg+gSMALgaCAPITAL LETTER E WITH CIRCUMFLEX BELOW
1E19 g+gSMALggCAPITAL LETTER E WITH TILDEg+bSMALgaCAPITAL LETTER E WITH CEDILLA AND BREVEg+hSMAL
1E1E gcCAPITAL LETTER F WITH DOT ABOgzSMALgaCAPITAL LETTER G WITH MACRONgwSMAL
1E22 gaCAPITAL LETTER H WITH DOT ABOVEgzSMALgaCAPITAL LETTER H WITH DOT BELOWgzSMAL
1E26 gaCAPITAL LETTER H WITH DIAERESISgzSMALgaCAPITAL LETTER H WITH CEDILLAgxSMAL
1E2A gaCAPITAL LETTER H WITH BREVE BELOWg+bSMALghCAPITAL LETTER I WITH TILDg+bSMAL
1E2E gaCAPITAL LETTER I WITH DIAERESIS AND ACUTEg+jSMALggCAPITAL LETTER K WITHgvSMAL
1E32 gaCAPITAL LETTER K WITH DOT BELOWgzSMALggCAPITAL LETTER K WITH LINEg+aSMAL
1E36 ggCAPITAL LETTER L WITH DOTgzSMALgaCAPITAL LETTER L WITH DOT BELOW AND MACRONg+kSMAL
1E3A gaCAPITAL LETTER L WITH LINE BELOWg+aSMALggCAPITAL LETTER L WITH CIRCUMFLEXg+gSMAL
1E3E gaCAPITAL LETTER M WITH ACUTEgvSMALgbCAPITAL LETTER M WITH DOT ABOVgzSMAL
1E42 gaCAPITAL LETTER M WITH DOT BELOWgzSMALgaCAPITAL LETTER N WITH DOT ABOVEgzSMAL
1E46 gaCAPITAL LETTER N WITH DOT BELOWgzSMALggCAPITAL LETTER N WITH LINEg+aSMAL
1E4A ggCAPITAL LETTER N WITH CIRCUMFLEXg+gSMALgaCAPITAL LETTER O WITH TILDE AND ACUTEg+fSMAL
1E4E gaCAPITAL LETTER O WITH TILDE AND DIAERESISg+jSMALgaCAPITAL LETTER O WITH MACRON AND GRAVE
1E51 g+gSMALgbCAPITAL LETTER O WITH MACRON AND ACUTg+gSMALggCAPITAL LETTER P WITHgvSMAL
1E56 gbCAPITAL LETTER P WITH DOT ABOVgzSMALgpCAPITAL LETTER RgzSMAL
1E5A gaCAPITAL LETTER R WITH DOT BELOWgzSMALgaCAPITAL LETTER R WITH DOT BELOW AND MACRONg+kSMAL
1E5E gaCAPITAL LETTER R WITH LINE BELOWg+aSMALgaCAPITAL LETTER S WITH DOT ABOVEgzSMAL
1E62 gaCAPITAL LETTER S WITH DOT BELOWgzSMALgaCAPITAL LETTER S WITH ACUTE AND DOT ABOVEg+jSMAL
1E66 goCAPITAL LETTER S WITH CARONg+jSMALgoCAPITAL LETTER S WITH DOT BELOWg+nSMAL
1E6A gkCAPITAL LETTER T WITHgzSMALgaCAPITAL LETTER T WITH DOT BELOWgzSMAL
1E6E ggCAPITAL LETTER T WITH LINEg+aSMALggCAPITAL LETTER T WITH CIRCUMFLEXg+gSMAL
1E72 ggCAPITAL LETTER U WITH DIAERESISg+fSMALggCAPITAL LETTER U WITH TILDEg+bSMAL
1E76 ggCAPITAL LETTER U WITH CIRCUMFLEXg+gSMALgaCAPITAL LETTER U WITH TILDE AND ACUTEg+fSMAL
1E7A gaCAPITAL LETTER U WITH MACRON AND DIAERESISg+kSMALgaCAPITAL LETTER V WITH TILDEgvSMAL
1E7E gaCAPITAL LETTER V WITH DOT BELOWgzSMALgaCAPITAL LETTER W WITH GRAVEgvSMAL
1E82 gbCAPITAL LETTER W WITH ACUTgvSMALgaCAPITAL LETTER W WITH DIAERESISgzSMAL
1E86 gaCAPITAL LETTER W WITH DOT ABOVEgzSMALgaCAPITAL LETTER W WITH DOT BELOWgzSMAL
1E8A gaCAPITAL LETTER X WITH DOT ABOVEgzSMALgaCAPITAL LETTER X WITH DIAERESISgzSMAL
1E8E gaCAPITAL LETTER Y WITH DOT ABOVEgzSMALgaCAPITAL LETTER Z WITH CIRCUMFLEXg+aSMAL
1E92 gaCAPITAL LETTER Z WITH DOT BELOWgzSMALggCAPITAL LETTER Z WITH LINEg+aSMALtqH
1E97 taT WITH DIAERESIStaW WITH RING ABOVEtqYtaA WITH RIGHT HALF RINGtaLONG S WITH DOT ABOVE
1E9C +gbIAGONAL STROK+fhHIGHgaCAPITAL LETTER SHARP SgaSMALL LETTER DELTA
1EA0 gaCAPITAL LETTER A WITH DOT BELOWgzSMALgaCAPITAL LETTER A WITH HOOK ABOVEg+aSMAL
1EA4 gbCAPITAL LETTER A WITH CIRCUMFLEX AND ACUTg+kSMALgbCAPITAL LETTER A WITH CIRCUMFLEX AND GRAV
1EA7 g+kSMALgcCAPITAL LETTER A WITH CIRCUMFLEX AND HOOK ABOg+pSMAL
1EAA gbCAPITAL LETTER A WITH CIRCUMFLEX AND TILDg+kSMAL
1EAC gaCAPITAL LETTER A WITH CIRCUMFLEX AND DOT BELOWg+oSMAL
1EAE gaCAPITAL LETTER A WITH BREVE AND ACUTEg+fSMALgbCAPITAL LETTER A WITH BREVE AND GRAVg+fSMAL
1EB2 gcCAPITAL LETTER A WITH BREVE AND HOOK ABOg+kSMALgbCAPITAL LETTER A WITH BREVE AND TILD
1EB5 g+fSMALgaCAPITAL LETTER A WITH BREVE AND DOT BELOWg+jSMALgkCAPITAL LETTER E WITHgzSMAL
1EBA gaCAPITAL LETTER E WITH HOOK ABOVEg+aSMALgbCAPITAL LETTER E WITH TILDgvSMAL
1EBE gbCAPITAL LETTER E WITH CIRCUMFLEX AND ACUTg+kSMALgbCAPITAL LETTER E WITH CIRCUMFLEX AND GRAV
1EC1 g+kSMALgcCAPITAL LETTER E WITH CIRCUMFLEX AND HOOK ABOg+pSMAL
1EC4 gbCAPITAL LETTER E WITH CIRCUMFLEX AND TILDg+kSMAL
1EC6 gaCAPITAL LETTER E WITH CIRCUMFLEX AND DOT BELOWg+oSMALgaCAPITAL LETTER I WITH HOOK ABOVE
1EC9 g+aSMALgaCAPITAL LETTER I WITH DOT BELOWgzSMALgpCAPITAL LETTER OgzSMAL
1ECE gaCAPITAL LETTER O WITH HOOK ABOVEg+aSMALgbCAPITAL LETTER O WITH CIRCUMFLEX AND ACUTg+kSMAL
1ED2 gbCAPITAL LETTER O WITH CIRCUMFLEX AND GRAVg+kSMAL
1ED4 gcCAPITAL LETTER O WITH CIRCUMFLEX AND HOOK ABOg+pSMAL
1ED6 gbCAPITAL LETTER O WITH CIRCUMFLEX AND TILDg+kSMAL
1ED8 gaCAPITAL LETTER O WITH CIRCUMFLEX AND DOT BELOWg+oSMALgaCAPITAL LETTER O WITH HORN AND ACUTE
1EDB g+eSMALgbCAPITAL LETTER O WITH HORN AND GRAVg+eSMALgcCAPITAL LETTER O WITH HORN AND HOOK ABO
1EDF g+jSMALgbCAPITAL LETTER O WITH HORN AND TILDg+eSMALgaCAPITAL LETTER O WITH HORN AND DOT BELOW
1EE3 g+iSMALgkCAPITAL LETTER U WITHgzSMALgaCAPITAL LETTER U WITH HOOK ABOVEg+aSMAL
1EE8 gbCAPITAL LETTER U WITH HORN AND ACUTg+eSMALgbCAPITAL LETTER U WITH HORN AND GRAVg+eSMAL
1EEC gcCAPITAL LETTER U WITH HORN AND HOOK ABOg+jSMALgbCAPITAL LETTER U WITH HORN AND TILDg+eSMAL
1EF0 gaCAPITAL LETTER U WITH HORN AND DOT BELOWg+iSMALgaCAPITAL LETTER Y WITH GRAVEgvSMAL
1EF4 gaCAPITAL LETTER Y WITH DOT BELOWgzSMALgaCAPITAL LETTER Y WITH HOOK ABOVEg+aSMAL
1EF8 gbCAPITAL LETTER Y WITH TILDgvSMALgaCAPITAL LETTER MIDDLE-WELSH LLgySMAL
1EFC gaCAPITAL LETTER MIDDLE-WELSH VgxSMALgaCAPITAL LETTER Y WITH LOOPguSMAL
1F00 aaGREEK SMALL LETTER ALPHA WITH PSILI+eaDASIA+ecPSILI AND VAR+ekDASIA+ecPSILI AND OX+ejDASIA
1F06 +eaPSILI AND PERISPOMENI+eqDASIAgbCAPITAL LETTER ALPHA WITH PSIL+gaDASIA+gcPSILI AND VAR
1F0B +gkDASIA+gcPSILI AND OX+gjDASIA+gaPSILI AND PERISPOMENI+gqDASIA
1F10 gbSMALL LETTER EPSILON WITH PSIL+gaDASIA+gcPSILI AND VAR+gkDASIA+gcPSILI AND OX+gjDASIA
1F18 gaCAPITAL LETTER EPSILON WITH PSILI+iaDASIA+icPSILI AND VAR+ikDASIA+icPSILI AND OX+ijDASIA
1F20 gaSMALL LETTER ETA WITH PSILI+caDASIA+ccPSILI AND VAR+ckDASIA+ccPSILI AND OX+cjDASIA
1F26 +caPSILI AND PERISPOMENI+cqDASIAgbCAPITAL LETTER ETA WITH PSIL+eaDASIA+ecPSILI AND VAR
1F2B +ekDASIA+ecPSILI AND OX+ejDASIA+eaPSILI AND PERISPOMENI+eqDASIAgbSMALL LETTER IOTA WITH PSIL
1F31 +daDASIA+dcPSILI AND VAR+dkDASIA+dcPSILI AND OX+djDASIA+daPSILI AND PERISPOMENI+dqDASIA
1F38 gbCAPITAL LETTER IOTA WITH PSIL+faDASIA+fcPSILI AND VAR+fkDASIA+fcPSILI AND OX+fjDASIA
1F3E +faPSILI AND PERISPOMENI+fqDASIAgbSMALL LETTER OMICRON WITH PSIL+gaDASIA+gcPSILI AND VAR
1F43 +gkDASIA+gcPSILI AND OX+gjDASIA
1F48 gaCAPITAL LETTER OMICRON WITH PSILI+iaDASIA+icPSILI AND VAR+ikDASIA+icPSILI AND OX+ijDASIA
1F50 gaSMALL LETTER UPSILON WITH PSILI+gaDASIA+gcPSILI AND VAR+gkDASIA+gcPSILI AND OX+gjDASIA
1F56 +gaPSILI AND PERISPOMENI+gqDASIA
1F59 gaCAPITAL LETTER UPSILON WITH DASIA
1F5B +na AND VARIA
1F5D +scOX
1F5F +saPERISPOMENIgbSMALL LETTER OMEGA WITH PSIL+eaDASIA+ecPSILI AND VAR+ekDASIA+ecPSILI AND OX
1F65 +ejDASIA+eaPSILI AND PERISPOMENI+eqDASIAgbCAPITAL LETTER OMEGA WITH PSIL+gaDASIA
1F6A +gcPSILI AND VAR+gkDASIA+gcPSILI AND OX+gjDASIA+gaPSILI AND PERISPOMENI+gqDASIA
1F70 gaSMALL LETTER ALPHA WITH VARIA+ecOXtcEPSILON WITH VAR+gcOXucTA WITH VAR+ccOXtcIOTA WITH VAR
1F77 +dcOXtcOMICRON WITH VAR+gcOXtcUPSILON WITH VAR+gcOXtcOMEGA WITH VAR+ecOX
1F80 taALPHA WITH PSILI AND YPOGEGRAMMENI+esDASIA+euPSILI AND VAR+e+cDASIA+euPSILI AND OX+e+bDASIA
1F86 +esPSILI AND PERISPOMENI+e+iDASIAgkCAPITAL LETTER ALPHA WITH PSILI AND PROS+gtDASIA
1F8A +gvPSILI AND VAR+g+dDASIA+gvPSILI AND OX+g+cDASIA+gtPSILI AND PERISPOMENI+g+jDASIA
1F90 gkSMALL LETTER ETA WITH PSILI AND YPO+csDASIA+cuPSILI AND VAR+c+cDASIA+cuPSILI AND OX
1F95 +c+bDASIA+csPSILI AND PERISPOMENI+c+iDASIAgkCAPITAL LETTER ETA WITH PSILI AND PROS+etDASIA
1F9A +evPSILI AND VAR+e+dDASIA+evPSILI AND OX+e+cDASIA+etPSILI AND PERISPOMENI+e+jDASIA
1FA0 gkSMALL LETTER OMEGA WITH PSILI AND YPO+esDASIA+euPSILI AND VAR+e+cDASIA+euPSILI AND OX
1FA5 +e+bDASIA+esPSILI AND PERISPOMENI+e+iDASIAgkCAPITAL LETTER OMEGA WITH PSILI AND PROS+gtDASIA
1FAA +gvPSILI AND VAR+g+dDASIA+gvPSILI AND OX+g+cDASIA+gtPSILI AND PERISPOMENI+g+jDASIA
1FB0 gaSMALL LETTER ALPHA WITH VRACHY+eaMACRON+eaVARIA AND YPOGEGRAMMENI+en+enOXIA AND 
1FB6 +eePERISPO+pa AND YPOGEGRAMMENIgaCAPITAL LETTER ALPHA WITH VRACHY+gaMACRON+gaVARIA+gcOX
1FBC +gaPROSGEGRAMMENIgaKORONISgaPROSGEGRAMMENIhbSILhbERISPOMENglDIALYTIKA AND 
1FC2 geSMALL LETTER ETA WITH VARIA AND YPOGEGRAM+cn+cnOXIA AND 
1FC6 +cePERISPO+na AND YPOGEGRAMMENIgaCAPITAL LETTER EPSILON WITH VARIA+icOXwcTA WITH VAR+ecOX
1FCC +eaPROSGEGRAMMENIgaPSILI AND VARIAqcOXqaPERISPOMENIgaSMALL LETTER IOTA WITH VRACHY+daMACRON
1FD2 +daDIALYTIKA AND VARIA+rcOX
1FD6 +daPERISPOMENI+dlDIALYTIKA AND gaCAPITAL LETTER IOTA WITH VRACHY+faMACRON+faVARIA+fcOX
1FDD gcDASIA AND VARqcOXqaPERISPOMENIgaSMALL LETTER UPSILON WITH VRACHY+gaMACRON
1FE2 +gaDIALYTIKA AND VARIA+ucOXtaRHO WITH PSILI+caDASIAtaUPSILON WITH PERISPOMENI
1FE7 +glDIALYTIKA AND gaCAPITAL LETTER UPSILON WITH VRACHY+iaMACRON+iaVARIA+icOXvcRHO WITH DAS
1FED gcDIALYTIKA AND VARucOXgcVAR
1FF2 gaSMALL LETTER OMEGA WITH VARIA AND YPOGEGRAMMENI+en+enOXIA AND 
1FF6 +eePERISPO+pa AND YPOGEGRAMMENIgaCAPITAL LETTER OMICRON WITH VARIA+icOXxcEGA WITH VAR+gcOX
1FFC +gaPROSGEGRAMMENIgaOXIAgcDAS
2000 aaEN QUADbfMbaN SPACEbgMaiTHREE-PER-anFOURanSIXagFIGUREagPUNCTUATIONahTHIagHAIRagZERO WIDTH
200C laNON-JOINERlgaaLEFT-TO-RIGHT MARKagRIGHT-TO-LEFaaHYPHENagNON-BREAKING aaFIGURE DASHafENbfM
2015 aaHORIZONTAL BARaaDOUBLE VERTICAL LINEhfLOWaaLEFT SINGLE QUOTATION MARKaxRIGHapSINGLE LOW-9
201B hrHIGH-REVERSEDapLEFT DOUBLEaxRIGHapDOUBLE LOW-9hrHIGH-REVERSEDbaAGGERbfOUBLE DaaBULLET
2023 agTRIANGULAR aaONE DOT LEADERalTWOaaHORIZONTAL ELLIPSISbaYPHENATION POINTaaLINE SEPARATOR
2029 akPARAGRAPHaaLEFT-TO-RIGHT EMBEDDINGalRIGHT-TO-LEFadPOP DIRECTIONAL FORMATT
202D aaLEFT-TO-RIGHT OVERRIDEakRIGHT-TO-LEFabNARROW NO-BREAK SPACaaPER MILLE SIGNefTEN THOUSAND
2032 baRIMEafDOUBLE aiTRIPagREVERSEDjfDOUBLE jiTRIPaaCARET
2039 aaSINGLE LEFT-POINTING ANGLE QUOTATION MARKh+fRIGHafREFERENCEafDOUBLE EXCLAMATION
203D aaINTERROBANGaaOVERLINEabUNDERTIadCHARACTER baARET INSERTION POINTaaASTERISMaaHYPHEN BULLET
2044 aaFRACTION SLASHaaLEFT SQUARE BRACKET WITH QUILLa+bRIGHaaDOUBLE QUESTION MARK
2048 ajQUESTION EXCLAMAajEXCLAMATION QUESaaTIRONIAN SIGN ETaaREVERSED PILCROW SIGN
204C aaBLACK LEFTWARDS BULLETgnRIGHaaLOW ASTERISKaaREVERSED SEMICOLONaaCLOSE UP
2051 aaTWO ASTERISKS ALIGNED VERTICALLYaaCOMMERCIAL MINUS SIGNaaSWUNG DASHaaINVERTED UNDERTIE
2055 aaFLOWER PUNCTUATION MARKaaTHREE DOT PUNCTUATIONaaQUADRUPLE PRIMEaaFOUR DOT PUNCTUATIONbqIVE
205A aqTWOaaFOUR DOT MARKaaDOTTED CROSSaaTRICOLONaaVERTICAL FOUR DOTSaaMEDIUM MATHEMATICAL SPACE
2060 aaWORD JOINERaaFUNCTION APPLICATIONaaINVISIBLE TIMESkaSEPARATORkaPLUS
2066 aaLEFT-TO-RIGHT ISOLATEajRIGHT-TO-LEFaiFIRST STRONGaiPOP DIRECTIONAL
206A aaINHIBIT SYMMETRIC SWAPPINGatACTIVATEaeINHIBIT ARABIC FORM SHAauACTIVATE
206E aaNATIONAL DIGIT SHAPESbqOMIaaSUPERSCRIPT ZEROmaLATIN SMALL LETTER I
2074 maFOURnaIVEmaSIXnaEVENmaEIGHTmaNINEmaPLUS SIGNmaMINUSmaEQUALS SIGNmaLEFT PARENTHESISmnRIGH
207F maLATIN SMALL LETTER NcaBSCRIPT ZEROkaONEkaTWOlaHREEkaFOURlaIVEkaSIXlaEVENkaEIGHTkaNINE
208A kaPLUS SIGNkaMINUSkaEQUALS SIGNkaLEFT PARENTHESISknRIGH
2090 aaLATIN SUBSCRIPT SMALL LETTER A+daE+daO+daX+daSCHWA+daH+daK+daL+daM+daN+daP+daS+daT
20A0 aaEURO-CURRENCY SIGNafCOLONbfRUZEIROafFRENCH FRANCafLIRAafMILLafNAIRAagPESETafRUPEEafWON
20AA afNEW SHEQELafDONGafEUROafKIPafTUGRIKafDRACHMAafGERMAN PENNYafPESOafGUARANIafAUSTRALafHRYVNIA
20B5 afCEDIafLIVRE TOURNOISafSPESMILOafTENGEagINDIAN RUPEafTURKISH LIRAafNORDIC MARKafMANATafRUBLE
20BE afLARIafBITCOINafSOM
20D0 aaCOMBINING LEFT HARPOON ABOVEkpRIGHkaLONG VERTICAL LINE OVERLAYkwSHORT
20D4 kaANTICLOCKWISE ARROW ABOVEkvkmLEFTknRIGHmaNG OVERLAYkmCLOCKWISE kwANTIkaTHREE DOTS ABOVE
20DC klFOURkbENCLOSING CIRCLubSQUARuaDIAMONDuaCIRCLE BACKSLASHkaLEFT RIGHT ARROW ABOVE
20E2 kaENCLOSING SCREENuaKEYCAPuaUPWARD POINTING TRIANGLEkaREVERSE SOLIDUS OVERLAY
20E6 kiDOUBLE VERTICAL STROKEkaANNUITY SYMBOLkaTRIPLE UNDERDOTkaWIDE BRIDGE ABOVE
20EA kaLEFTWARDS ARROW OVERLAYliONG DOUBLE SOLIDUSkaRIGHTWARDS HARPOON WITH BARB DOWNWARDSk+iLEF
20EE oa ARROW BELOWknRIGHkaASTERISK ABOVE
2100 aaACCOUNT OFbaDDRESSED TO THE SUBJECTaaDOUBLE-STRUCK CAPITAL CbaEGREE CELSIUS
2104 aaCENTRE LINE SYMBOLbaARE OFcaDA UNAaaEULER CONSTANTaaSCRUPLEaaDEGREE FAHRENHEIT
210A aaSCRIPT SMALL GhaCAPITAL HakBLACK-LETTERakDOUBLE-STRUCKaaPLANCK CONSTANTpa OVER TWO PI
2110 abSCRIPT CAPITAL akBLACK-LETTERaaSCRIPT CAPITAL LhdSMALabL B BAR SYMBO
2115 aaDOUBLE-STRUCK CAPITAL NabNUMERO SIGaaSOUND RECORDING COPYRIGHTbaCRIPT CAPITAL P
2119 akDOUBLE-STRUCKwaQaaSCRIPT CAPITAL RakBLACK-LETTERakDOUBLE-STRUCKaaPRESCRIPTION TAKEabRESPONS
2120 aaSERVICE MARKaaTELEPHONE SIGNbfRADE MARKaaVERSICLEaaDOUBLE-STRUCK CAPITAL ZaaOUNCE SIGNbfHM
2127 aiINVERTED aaBLACK-LETTER CAPITAL ZaaTURNED GREEK SMALL LETTER IOTAaaKELVIN SIGNafANGSTROM
212C aaSCRIPT CAPITAL BaaBLACK-LETTER CAPITAL CaaESTIMATED SYMBOLaaSCRIPT SMALL EhdCAPITApaF
2132 akTURNEDaaSCRIPT CAPITAL MhaSMALL OaaALEF SYMBOLahBETahGIMELahDALETaaINFORMATION SOURCE
213A aaROTATED CAPITAL QaaFACSIMILE SIGNaaDOUBLE-STRUCK SMALL PIuaGAMMAohCAPITAwaPI
2140 oaN-ARY SUMMATIONaaTURNED SANS-SERIF CAPITAL G+aaLaxREVERSaaTURNED SANS-SERIF CAPITAL Y
2145 aaDOUBLE-STRUCK ITALIC CAPITAL DvdSMAL+baE+baI+baJaaPROPERTY LINEaaTURNED AMPERSANDaaPER SIGN
214D aaAKTIESELSKABaaTURNED SMALL FaaSYMBOL FOR SAMARITAN SOURCEaaVULGAR FRACTION ONE SEVENTHudNI
2152 udTEvaHIRDqaTWO THIRDSqaONE FIFTHqaTWO FIFTHSrhHREEqhFOURqaONE SIXTHqaFIVE SIXTHSqaONE EIGHTH
215C qaTHREE EIGHTHSqjFIVqiSEVENaaFRACTION NUMERATOR ONEaeROMAN NUMERALoaTWOpaHREEoaFOURpaIVEoaSIX
2166 paEVENoaEIGHToaNINEoaTENocELEVoaTWELVEoaFIFTYoaONE HUNDREDojFIVobONE THOUSAN
2170 aaSMALL ROMAN NUMERAL ONEuaTWOvaHREEuaFOURvaIVEuaSIXvaEVENuaEIGHTuaNINEuaTENucELEVuaTWELVE
217C uaFIFTYuaONE HUNDREDujFIVubONE THOUSANabROMAN NUMERAL ONE THOUSAND C obFIVE THOUSANojTEN
2183 obREVERSED ONE HUNDREaaLATIN SMALL LETTER REVERSED CaaROMAN NUMERAL SIX LATE FORM
2186 ofFIFTY EARLYuaTHOUSANDojONE HUNDREDaaVULGAR FRACTION ZERO THIRDSaaTURNED DIGIT TWOoaHREE
2190 aaLEFTWARDS ARROWalUPalRIGHTalDOWNagLEFT RIGHTagUP DOWNagNORTH WESTgiEAanSOUgiWE
219A aaLEFTWARDS ARROW WITH STROKEayRIGHaaLEFTWARDS WAVE ARROWarRIGHagLEFTWARDS TWO HEADEDawUP
21A0 awRIGHTawDOWNaaLEFTWARDS ARROW WITH TAILawRIGHaaLEFTWARDS ARROW FROM BARauUPauRIGHTauDOWN
21A8 aaUP DOWN ARROW WITH BASEaaLEFTWARDS ARROW WITH HOOKawRIGHaaLEFTWARDS ARROW WITH LOOPawRIGH
21AD aaLEFT RIGHT WAVE ARROWlaARROW WITH STROKEaaDOWNWARDS ZIGZAG ARROW
21B0 aaUPWARDS ARROW WITH TIP LEFTWARDSxgRIGHagDOWNWARDS ARROW WITH TIP LEFzgRIGH
21B4 afRIGHTWARDS ARROW WITH CORNER DOWNafDOWNWARDS ARROW WITH CORNER LEFT
21B6 aaANTICLOCKWISE TOP SEMICIRCLE ARROWa+eaaNORTH WEST ARROW TO LONG BAR
21B9 aeLEFTWARDS ARROW TO BAR OVER RIGHTWARDS ARROW TOaaANTICLOCKWISE OPEN CIRCLE ARROWa+b
21BC aaLEFTWARDS HARPOON WITH BARB UPWARDS+cfDOWNafUPWARDS HARPOON WITH BARB RIGHT+agLEF
21C0 afRIGHTWARDS HARPOON WITH BARB UP+dfDOWNafDOWNWARDS HARPOON WITH BARB RIGHT+cgLEF
21C4 aaRIGHTWARDS ARROW OVER LEFTWARDS ARROWalUPWARDS ARROW LEFTWARDS OF DOWN
21C6 alLEFTWARDS ARROW OVER RIGHTkaPAIRED ARROWSatUPatRIGHTatDOWN
21CB aaLEFTWARDS HARPOON OVER RIGHTWARDS HARPOONaoRIGHTWARDS HARPOON OVER LEF
21CD aaLEFTWARDS DOUBLE ARROW WITH STROKEez RIGHTazRIGHTWARDSaaLEFTWARDS DOUBLE ARROWasUPasRIGHT
21D3 asDOWNanLEFT RIGHTanUP DOWNanNORTH WESTgpEAauSOUgpWEaiLEFTWARDS TRIPatRIGHaiLEFTWARDS SQUIGG
21DD avRIGHaaUPWARDS ARROW WITH DOUBLE STROKEa+eDOWNaaLEFTWARDS DASHED ARROWasUPasRIGHTasDOWN
21E4 aaLEFTWARDS ARROW TO BARatRIGHaaLEFTWARDS WHITE ARROWarUParRIGHTarDOWN
21EA aaUPWARDS WHITE ARROW FROM BARuaON PEDESTAL+fa WITH HORIZONTAL BAR+lgVERTICoaDOUBLE ARROW
21EF +aa ON PEDESTALabRIGHTWARDS WHITE ARROW FROM WALaaNORTH WEST ARROW TO CORNERasSOUTH EA
21F3 aaUP DOWN WHITE ARROWaaRIGHT ARROW WITH SMALL CIRCLE
21F5 aaDOWNWARDS ARROW LEFTWARDS OF UPWARDS ARROWaaTHREE RIGHTWARDS ARROWS
21F7 aaLEFTWARDS ARROW WITH VERTICAL STROKEa+hRIGHa+bLEFT RIGHTeqWARDS ARROW WITH DOUBLEa+oRIGH
21FC a+iLEFT RIGHTeaWARDS OPEN-HEADED ARROWayRIGHasLEFT RIGHTaaFOR ALLaaCOMPLEMENT
2202 aaPARTIAL DIFFERENTIALaaTHERE EXISTSgaDOES NOT EXISTabEMPTY SEabINCREMENaaNABLAaaELEMENT OF
2209 akNOT AN alSMALLaaCONTAINS AS MEMBERakDOES NOT CONTAINakSMALL CONTAINSaaEND OF PROOF
220F aaN-ARY PRODUCTghCOgaSUMMATIONabMINUS SIGff-OR-PLUSaaDOT PLUSbaIVISION SLASHaaSET MINUS
2217 aaASTERISK OPERATORajRINGajBULLETaaSQUARE ROOTagCUBafFOURTHaaPROPORTIONAL TOaaINFINITY
221F aaRIGHT ANGLEafafMEASURED agSPHERICALaaDIVIDESbaOES NOT DIVIDEaaPARALLEL TOalNOT 
2227 aaLOGICAL ANDiaORaaINTERSECTIONadUNaaINTEGRALaiDOUBLE alTRIPajCONTOURajSURFACEakVOLUM
2231 akCLOCKWISkiCONTOUR a+aANTIaaTHEREFOREabBECAUSaaRATIOaaPROPORTIONaaDOT MINUSabEXCES
223A aaGEOMETRIC PROPORTIONaaHOMOTHETICaaTILDE OPERATORaaREVERSED TILDEaaINVERTED LAZY S
223F aaSINE WAVEaaWREATH PRODUCTaaNOT TILDEagMINUSaaASYMPTOTICALLY EQUAL TOaxNOT alAPPROXIMATE
2246 oiBUT NOT ACTUALLY asNEITHER APPROXIMATELY NORajALMOSTapNOT ajALMOST EQUAL ORaaTRIPLE TILDE
224C aaALL EQUAL TOadEQUIVALENTanGEOMETRICALLY aaDIFFERENCE BETWEENaaAPPROACHES THE LIMIT
2251 aaGEOMETRICALLY EQUAL TOaaAPPROXIMATELY EQUAL TO OR THE IMAGE OF
2253 aaIMAGE OF OR APPROXIMATELY EQUAL TOaaCOLON EQUALSaaEQUALS COLONaaRING IN EQUAL TOfi
2258 adCORRESPONDSaaESTIMATESbaQUIANGULAR TOaaSTAR EQUALSaaDELTA EQUAL TOaaEQUAL TO BY DEFINITION
225E aaMEASURED BYaaQUESTIONED EQUAL TOajNOTafIDENTICamNOT adSTRICTLY EQUIVALENT
2264 adLESS-THAN OR EQUALarGREATERakLESS-THAN OVEatGREATERajLESS-THAN BUT NOTawGREATER
226A aaMUCH LESS-THANffGREATERabBETWEEaaNOT EQUIVALENT TOeaLESS-THANefGREATER
2270 baEITHER LESS-THAN NOR EQUAL TOisGREATERadLESS-THAN OR EQUIVALENTawGREATER
2274 aqNEITHER LESS-THAN NixGREATERaaLESS-THAN OR GREATER-THANafGREATER-THAN OR LESS
2278 afNEITHER LESS-THAN NOR GREATERifGREATER-THAN NOR LESSaaPRECEDESabSUCCEED
227C aaPRECEDES OR EQUAL TOanSUCCEEDadPRECEDES OR EQUIVALENTasSUCCEEDaaDOES NOT PRECEDEjaSUCCEED
2282 aaSUBSET OFcgPERagNOT A SUBigPERaaSUBSET OF OR EQUAL TOcsPERalNEITHER A SUBSET OF NmtPER
228A ajSUBSET OF WITH NOTcyPERaaMULTISETia MULTIPLICATIONjdUNaaSQUARE IMAGE OFhdORIGINAL
2291 haIMAGE OF OR EQUAL TOhpORIGINALhaCAPibUaaCIRCLED PLUSicMINibTIMEiaDIVISION SLASH
2299 jaOT OPERATORijRINGijASTERISKiaEQUALSiaDASHaaSQUARED PLUSicMINibTIMEiaDOT OPERATOR
22A2 aaRIGHT TACKagLEFafDOWNafUPaaASSERTIONaaMODELSaaTRUEaaFORCES
22AA aaTRIPLE VERTICAL BAR RIGHT TURNSTILEaqDOUBLE VERTICAL BAR DOUBLEcbES NOT PROVabNOT TRU
22AE abDOES NOT FORCabNEGATED DOUBLE VERTICAL BAR DOUBLE RIGHT TURNSTILaaPRECEDES UNDER RELATION
22B1 aqSUCCEEDaaNORMAL SUBGROUP OFaaCONTAINS AS NORMAL SUBGROUPaaNORMAL SUBGROUP OF OR EQUAL TO
22B5 amCONTAINS AS NORMAL SUBGROUPaaORIGINAL OFadIMAGEaaMULTIMAPaaHERMITIAN CONJUGATE MATRIX
22BA aaINTERCALATEaaXORaaNANDbaORaaRIGHT ANGLE WITH ARCgaTRIANGLEaaN-ARY LOGICAL ANDoaOR
22C2 gaINTERSECTIONgdUNaaDIAMOND OPERATORbjOTajSTARaaDIVISION TIMESaaBOWTIE
22C9 aaLEFT NORMAL FACTOR SEMIDIRECT PRODUCTa+iRIGHatLEFTauRIGHbaEVERSED TILDE EQUALS
22CE aaCURLY LOGICAL ORoaANDaaDOUBLE SUBSETjdPERhaINTERSECTIONhdUNaaPITCHFORK
22D5 aaEQUAL AND PARALLEL TOaaLESS-THAN WITH DOTaoGREATERaaVERY MUCH LESS-THANkfGREATER
22DA anLESS-THAN EQUAL TO ORafGREATER-THAN EQUAL TO OR LESSavmfGREATERmaPRECEDESmbSUCCEED
22E0 aaDOES NOT PRECEDE OR EQUALjjSUCCEEDaaNOT SQUARE IMAGE OF OR EQUAL TOlpORIGINAL
22E4 ajSQUARE IMAGE OF OR NOThtORIGINALadLESS-THAN BUT NOT EQUIVALENTa+bGREATERawPRECEDESaxSUCCEED
22EA aaNOT NORMAL SUBGROUP OFaaDOES NOT CONTAIN AS NORMAL SUBGROUP
22EC aaNOT NORMAL SUBGROUP OF OR EQUAL TOaaDOES NOT CONTAIN AS NORMAL SUBGROUP OR EQUAL
22EE aaVERTICAL ELLIPSISalMIDLINE HORIZONTalUP RIGHT DIAGONayDOWN
22F2 aaELEMENT OF WITH LONG HORIZONTAL STROKEqsVERTICAL BAR AT END OFa++eSMALL 
22F5 abELEMENT OF WITH DOT ABOVqaOVERBARaxSMALL afELEMENT OF WITH UNDqaTWO HORIZONTAL STROKES
22FA aaCONTAINS WITH LONG HORIZONTAL STROKEosVERTICAL BAR AT END OFa++cSMALL 
22FD aaCONTAINS WITH OVERBARavSMALL aaZ NOTATION BAG MEMBERSHIPaaDIAMETER SIGNaaELECTRIC ARROW
2302 aaHOUSEaaUP ARROWHEADakDOWNaaPROJECTIVEbgERSPabWAVY LINaaLEFT CEILINGajRIGHaaLEFT FLOORahRIGH
230C aaBOTTOM RIGHT CROPhgLEFagTOP RIGHegLEFaaREVERSED NOT SIGNaaSQUARE LOZENGEaaARCaaSEGMENT
2314 caCTORabTELEPHONE RECORDEabPOSITION INDICATOaaVIEWDATA SQUAREaaPLACE OF INTEREST SIGN
2319 agTURNED NOaaWATCHaaHOURGLASSaaTOP LEFT CORNEReiRIGHaiBOTTOM LEFhiRIGHaaTOP HALF INTEGRAL
2321 aoBOTTOMaaFROWNaaSMILEaaUP ARROWHEAD BETWEEN TWO HORIZONTAL BARSaaOPTION KEY
2326 aaERASE TO THE RIGHTaaX IN A RECTANGLE BOXaaKEYBOARDaaLEFT-POINTING ANGLE BRACKETayRIGH
232B abERASE TO THE LEFaaBENZENE RINGaaCYLINDRICITYaaALL AROUND-PROFILEaaSYMMETRYaaTOTAL RUNOUT
2331 aaDIMENSION ORIGINaaCONICAL TAPERaaSLOPEabCOUNTERBORhaSINKaaAPL FUNCTIONAL SYMBOL I-BEAM
2337 waSQUISH QUADwaQUAD EQUAL+baDIVIDE+daAMOND+baJOT+baCIRCLEwcCIRCLE STI+daJOTwaSLASH BARwjBACK
2341 waQUAD SLASH+bfBACK+baLESS-THAN+bfGREATERwaLEFTWARDS VANEwlRIGHwaQUAD LEFTWARDS ARROW+bmRIGH
2349 waCIRCLE BACKSLASHwaDOWN TACK UNDERBARxaELTA STILEwaQUAD DOWN CARET+caELTAwaDOWN TACK JOT
234F waUPWARDS VANEwaQUAD UPWARDS ARROWwaUP TACK OVERBARwaDEL STILEwaQUAD UP CARET+baDEL
2355 waUP TACK JOTwaDOWNWARDS VANEwaQUAD DOWNWARDS ARROWyaOTE UNDERBARwjDELTAxjIAMONDwjJOTwjCIRCLE
235D waUP SHOE JOTwaQUOTE QUADwaCIRCLE STARwaQUAD COLONwaUP TACK DIAERESISwkDELwkSTARwkJOTwkCIRCLE
2366 waDOWN SHOE STILEwlLEFTwaTILDE DIAERESISwkGREATER-THANwaCOMMA BARwaDEL TILDEweZweSTILE T
236E xaEMICOLON UNDERBARwaQUAD NOT EQUAL+baQUESTIONwaDOWN CARET TILDEwmUPwaIOTAwaRHOwaOMEGA
2376 waALPHA UNDERBARwjEPSILONwjIOTAwkOMEGwaALPHAaaNOT CHECK MARK
237C aaRIGHT ANGLE WITH DOWNWARDS ZIGZAG ARROWaaSHOULDERED OPEN BOXaaBELL SYMBOL
237F aaVERTICAL LINE WITH MIDDLE DOTaaINSERTION SYMBOLahCONTINUOUS UNDERLINEa+bDISahEMPHASIS
2384 ahCOMPOSITIONaaWHITE SQUARE WITH CENTRE VERTICAL LINEaaENTER SYMBOLahALTERNATIVE KEYahHELM
2389 aaCIRCLED HORIZONTAL BAR WITH NOTCHiaTRIANGLE DOWNaaBROKEN CIRCLE WITH NORTHWEST ARROW
238C aaUNDO SYMBOLahMONOSTABLEahHYSTERESISahOPEN-CIRCUIT-OUTPUT H-TYPEumL
2391 ahPASSIVE-PULL-DOWN-OUTPUTnoUPaaDIRECT CURRENT SYMBOL FORM TWOaaSOFTWARE-FUNCTION SYMBOL
2395 aaAPL FUNCTIONAL SYMBOL QUADaaDECIMAL SEPARATOR KEY SYMBOLaaPREVIOUS PAGEafNEXT
2399 aaPRINT SCREEN SYMBOLaoCLEARaaLEFT PARENTHESIS UPPER HOOKraEXTENSIONraLOWER HOOK
239E ahRIGHT PARENTHESIS UPPsaEXTENSIONsaLOWER HOOKaaLEFT SQUARE BRACKET UPPER CORNERuaEXTENSION
23A3 uaLOWER CORNERajRIGHT SQUARE BRACKET UPPvaEXTENSIONvaLOWER CORNER
23A7 aaLEFT CURLY BRACKET UPPER HOOKtaMIDDLE PIECEtaLOWER HOOKaaCURLY BRACKET EXTENSION
23AB aaRIGHT CURLY BRACKET UPPER HOOKuaMIDDLE PIECEuaLOWER HOOKaaINTEGRAL EXTENSION
23AF akHORIZONTAL LINEadUPPER LEFT OR LOWER RIGHT CURLY BRACKET SECTgxRIGHT OR LOWER LEF
23B2 aaSUMMATION TOPkaBOTTOMaaTOP SQUARE BRACKETapBOTTOMva OVER TOP SQUARE BRACKET
23B7 aaRADICAL SYMBOL BOTTOMaaLEFT VERTICAL BOX LINEatRIGHaaHORIZONTAL SCAN LINE-1va3va7va9
23BE aaDENTISTRY SYMBOL LIGHT VERTICAL AND TOP RIGHT+kgBOTTOM+gaWITH CIRCLExoDOWN AND HORIZONT
23C2 x+bUPxcVERTICAL WITH TRIANGxqDOWN AND HORIZONTx+dUPxbVERTICAL AND WAV
23C7 xfDOWN AND HORIZONTAL WITHxzUPxaDOWN AND HORIZONTALxpUPxaVERTICAL AND TOP LEFT+kfBOTTOM
23CD abSQUARE FOOaaRETURN SYMBOLahEJECTaaVERTICAL LINE EXTENSIONaaMETRICAL BREVEjaLONG OVER SHORT
23D3 jaSHORT OVER LONGjaLONG OVER TWO SHORTSjaTWO SHORTS OVER LONGuaJOINEDkaRISEMEkeETRAjfPENT
23DA aaEARTH GROUNDaaFUSEaaTOP PARENTHESISamBOTTOMaaTOP CURLY BRACKETaoBOTTOMaiTOP TORTOISE SHELL
23E1 axBOTTOMaaWHITE TRAPEZIUMaaBENZENE RING WITH CIRCLEaaSTRAIGHTNESSafFLAaaAC CURRENT
23E7 aaELECTRICAL INTERSECTIONaaDECIMAL EXPONENT SYMBOLaaBLACK RIGHT-POINTING DOUBLE TRIANGLE
23EA g+aLEFgzUPgzDOWNgaRIGHT-POINTING DOUBLE TRIANGLE WITH VERTICAL BARg+sLEF
23EF gnRIGHT-POINTING TRIANGLE WITH DOUBLEaaALARM CLOCKaaSTOPWATCHaaTIMER CLOCK
23F3 aaHOURGLASS WITH FLOWING SANDaaBLACK MEDIUM LEFT-POINTING TRIANGLEntRIGHnsUPnsDOWN
23F8 aaDOUBLE VERTICAL BARaaBLACK SQUARE FOR STOPgaCIRCLE FOR RECORDaaPOWER SYMBOLggON-OFF ih
23FE ghSLEEPahOBSERVER EYEabSYMBOL FOR NULlaSTART OF HEADINGuaTEXTliENDtaRANSMISSIONnaQUIRY
2406 laACKNOWLEDGElaBELLmaACKSPACElaHORIZONTAL TABULATIONlaLINE FEEDlaVERTICAL TABULATION
240C laFORM FEEDlaCARRIAGE RETURNlaSHIFT OUTraINlaDATA LINK ESCAPEmbEVICE CONTROL ON+aaTWO+baHREE
2414 +aaFOURlaNEGATIVE ACKNOWLEDGElbSYNCHRONOUS IDLlaEND OF TRANSMISSION BLOCKlaCANCEL
2419 laEND OF MEDIUMlaSUBSTITUTElbESCAPlaFILE SEPARATORlkGROUPlkRECORDlkUNITlaSPACElbDELET
2422 aaBLANK SYMBOLaaOPEN BOXaaSYMBOL FOR NEWLINElaDELETE FORM TWOllSUBSTITU
2440 aaOCR HOOKeaCHAIReaFORKeeINVERTED eaBELT BUCKLEfbOW TIfaRANCH BANK IDENTIFICATION
2447 eaAMOUNT OF CHECKeaDASHeaCUSTOMER ACCOUNT NUMBEReaDOUBLE BACKSLASH
2460 aaCIRCLED DIGIT ONEoaTWOpaHREEoaFOURpaIVEoaSIXpaEVENoaEIGHToaNINEiaNUMBER TENpcELEVpaTWELVE
246C qaHIRTEENpfFOUqeIFpeSIXqeEVENpeEIGHpeNINEpaTWENTYaaPARENTHESIZED DIGIT ONEuaTWOvaHREEuaFOUR
2478 vaIVEuaSIXvaEVENuaEIGHTuaNINEoaNUMBER TENvcELEVvaTWELVEwaHIRTEENvfFOUweIFveSIXweEVENveEIGH
2486 veNINEvaTWENTYaaDIGIT ONE FULL STOPgkTWOhkHREEgkFOURhkIVEgkSIXhkEVENgkEIGHTgkNINEakNUMBER TEN
2492 hmELEVhkTWELVEikHIRTEENhpFOUioIFhoSIXioEVENhoEIGHhoNINEhkTWENTY
249C aaPARENTHESIZED LATIN SMALL LETTER A+haB+haC+haD+haE+haF+haG+haH+haI+haJ+haK+haL+haM+haN+haO
24AB +haP+haQ+haR+haS+haT+haU+haV+haW+haX+haY+haZaaCIRCLED LATIN CAPITAL LETTER A+daB+daC+daD+daE
24BB +daF+daG+daH+daI+daJ+daK+daL+daM+daN+daO+daP+daQ+daR+daS+daT+daU+daV+daW+daX+daY+daZ
24D0 oaSMALL LETTER A+baB+baC+baD+baE+baF+baG+baH+baI+baJ+baK+baL+baM+baN+baO+baP+baQ+baR+baS+baT
24E4 +baU+baV+baW+baX+baY+baZiaDIGIT ZEROaaNEGATIVE CIRCLED NUMBER ELEVENyaTWELVEzaHIRTEENyfFOU
24EF zeIFyeSIXzeEVENyeEIGHyeNINEyaTWENTYaaDOUBLE CIRCLED DIGIT ONEvaTWOwaHREEvaFOURwaIVEvaSIX
24FB waEVENvaEIGHTvaNINEpaNUMBER TENaaNEGATIVE CIRCLED DIGIT ZEROaaBOX DRAWINGS LIGHT HORIZONTAL
2501 nlHEAVYncLIGHT VERTICnjHEAVYncLIGHT TRIPLE DASH HORIZONTnxHEAVYncLIGHT TRIPLE DASH VERTIC
2507 nvHEAVYncLIGHT QUADRUPLE DASH HORIZONTn+aHEAVYncLIGHT QUADRUPLE DASH VERTICnyHEAVY
250C naLIGHT DOWN AND RIGHTnaDOWN LIGHT AND RIGHT HEAVYsaHEAVY AND RIGHT LIGHTneHEAVY DOWN AND R
2510 nbLIGHT DOWN AND LEFnaDOWN LIGHT AND LEFT HEAVYsaHEAVY AND LEFT LIGHTnbHEAVY DOWN AND LEF
2514 nbLIGHT UP AND RIGHnaUP LIGHT AND RIGHT HEAVYqaHEAVY AND RIGHT LIGHTneHEAVY UP AND R
2518 nbLIGHT UP AND LEFnaUP LIGHT AND LEFT HEAVYqaHEAVY AND LEFT LIGHTnbHEAVY UP AND LEF
251C nbLIGHT VERTICAL AND RIGHnaVERTICAL LIGHT AND RIGHT HEAVYnaUP HEAVY AND RIGHT DOWN LIGHT
251F ngDOWN HEAVY AND RIGHT UPngVERTICAL HEAVY AND RIGHTnaDOWN LIGHT AND RIGHT UP HEAVY
2522 ngUP LIGHT AND RIGHT DOWNnaHEAVY VERTICAL AND RIGHTnbLIGHT VERTICAL AND LEF
2525 naVERTICAL LIGHT AND LEFT HEAVYnaUP HEAVY AND LEFT DOWN LIGHTngDOWN HEAVY AND LEFT UP
2528 ngVERTICAL HEAVY AND LEFTnaDOWN LIGHT AND LEFT UP HEAVYngUP LIGHT AND LEFT DOWN
252B naHEAVY VERTICAL AND LEFTnaLIGHT DOWN AND HORIZONTALoaEFT HEAVY AND RIGHT DOWN LIGHT
252E nmRIGHT HEAVY AND LEFnaDOWN LIGHT AND HORIZONTAL HEAVYsaHEAVY AND HORIZONTAL LIGHT
2531 naRIGHT LIGHT AND LEFT DOWN HEAVYnmLEFT LIGHT AND RIGHnaHEAVY DOWN AND HORIZONTALnpLIGHT UP
2535 oaEFT HEAVY AND RIGHT UP LIGHTnkRIGHT HEAVY AND LEFnaUP LIGHT AND HORIZONTAL HEAVY
2538 qaHEAVY AND HORIZONTAL LIGHTnaRIGHT LIGHT AND LEFT UP HEAVYnkLEFT LIGHT AND RIGH
253B naHEAVY UP AND HORIZONTALnpLIGHT VERTICALoaEFT HEAVY AND RIGHT VERTICAL LIGHT
253E nqRIGHT HEAVY AND LEFnaVERTICAL LIGHT AND HORIZONTAL HEAVY
2540 naUP HEAVY AND DOWN HORIZONTAL LIGHTnrDOWN HEAVY AND UPnrVERTICAL HEAVY AND
2543 ngLEFT UP HEAVY AND RIGHT DOWNnmRIGHT UP HEAVY AND LEFngLEFT DOWN HEAVY AND RIGHT UP
2546 nkRIGHT DOWN HEAVY AND LEFnaDOWN LIGHT AND UP HORIZONTAL HEAVYnrUP LIGHT AND DOWN
2549 niRIGHT LIGHT AND LEFT VERTICnqLEFT LIGHT AND RIGHnaHEAVY VERTICAL AND HORIZONTAL
254C nlLIGHT DOUBLE DASHnxHEAVYncLIGHT DOUBLE DASH VERTICnvHEAVYncDOUBLE HORIZONTucVERTIC
2552 paWN SINGLE AND RIGHT DOUBLEscDOUBLE AND RIGHT SINGpaUBLE DOWN AND RIGHT
2555 paWN SINGLE AND LEFT DOUBLEscDOUBLE AND LEFT SINGpaUBLE DOWN AND LEFT
2558 naUP SINGLE AND RIGHT DOUBLEqcDOUBLE AND RIGHT SINGnaDOUBLE UP AND RIGHT
255B naUP SINGLE AND LEFT DOUBLEqcDOUBLE AND LEFT SINGnaDOUBLE UP AND LEFT
255E naVERTICAL SINGLE AND RIGHT DOUBLEwcDOUBLE AND RIGHT SINGnaDOUBLE VERTICAL AND RIGHT
2561 naVERTICAL SINGLE AND LEFT DOUBLEwcDOUBLE AND LEFT SINGnaDOUBLE VERTICAL AND LEFT
2564 paWN SINGLE AND HORIZONTAL DOUBLEscDOUBLE AND HORIZONTAL SINGpaUBLE DOWN AND HORIZONTAL
2567 naUP SINGLE AND HORIZONTAL DOUBLEqcDOUBLE AND HORIZONTAL SINGnaDOUBLE UP AND HORIZONTAL
256A naVERTICAL SINGLE AND HORIZONTAL DOUBLEwcDOUBLE AND HORIZONTAL SING
256C naDOUBLE VERTICAL AND HORIZONTALnaLIGHT ARC DOWN AND RIGHT+gbLEFxjUP+ebRIGH
2571 tbDIAGONAL UPPER RIGHT TO LOWER LEF+ibLEFT TO LOWER RIGH+caCROSStaLEFTtaUPtaRIGHTtaDOWN
2578 naHEAVY LEFTtaUPtaRIGHTtaDOWNnaLIGHT LEFT AND HEAVY RIGHTtaUP AND HEAVY DOWN
257E naHEAVY LEFT AND LIGHT RIGHTtaUP AND LIGHT DOWNaaUPPER HALF BLOCKagLOWER ONE EIGHTHkgQUARTER
2583 ggTHREE EIGHTHSggHALFggFIVE EIGHTHSghTHREE QUARTERghSEVEN EIGHTHagFULLagLEFT SEVEN EIGHTHS
258A fhTHREE QUARTERfhFIVE EIGHTHfgHALFfgTHREE EIGHTHSfgONE QUARTERjgEIGHTHagRIGHT HALF
2591 aaLIGHT SHADEagMEDIUMagDARKaaUPPER ONE EIGHTH BLOCKarRIGHTaaQUADRANT LOWER LEFTpbRIGH
2598 jbUPPER LEFta AND LOWER LEFT AND LOWER RIGHT+efybUPPER RIGHT AND LOWER LEF+ubRIGHpf
259E ua AND LOWER LEFT+ja AND LOWER RIGHTaaBLACK SQUAREahWHITEma WITH ROUNDED CORNERS
25A3 naCONTAINING BLACK SMALL SQUAREaaSQUARE WITH HORIZONTAL FILLmhVERTICmfORTHOGONAL CROSSHATCH
25A7 mfUPPER LEFT TO LOWER RIGHTsgRIGHT TO LOWER LEFmfDIAGONAL CROSSHATCHaaBLACK SMALL SQUARE
25AB anWHITEabBLACK RECTANGLakWHITEakBLACK VERTICALatWHITEaaBLACK PARALLELOGRAMaoWHITE
25B2 aaBLACK UP-POINTING TRIANGLEavWHITEajBLACK UP-POINTING SMALLa+bWHITEajBLACK RIGHT-POINTING
25B7 ayWHITEajBLACK RIGHT-POINTING SMALLa+eWHITEaaBLACK RIGHT-POINTING POINTERaxWHITE
25BC aaBLACK DOWN-POINTING TRIANGLEaxWHITEajBLACK DOWN-POINTING SMALLa+dWHITEajBLACK LEFT-POINTING
25C1 axWHITEajBLACK LEFT-POINTING SMALLa+dWHITEaaBLACK LEFT-POINTING POINTERawWHITEaaBLACK DIAMOND
25C7 aiWHITEna CONTAINING BLACK SMALL DIAMONDaaFISHEYEabLOZENGabWHITE CIRCLahDOTTED
25CD aaCIRCLE WITH VERTICAL FILLaaBULLSEYEbbLACK CIRCLaaCIRCLE WITH LEFT HALF BLACKmmRIGHmlLOWER
25D3 mnUPPsgRIGHT QUADRANTmqALL BUT UPPER LEFaaLEFT HALF BLACK CIRCLEatRIGHaaINVERSE BULLET
25D9 iaWHITE CIRCLEauUPPER HALF a+cLOWaaUPPER LEFT QUADRANT CIRCULAR ARCgxRIGHa+eLOWgxLEF
25E0 aaUPPER HALF CIRCLEaoLOWacBLACK LOWER RIGHT TRIANGmkLEFgqUPPmkRIGHaaWHITE BULLET
25E7 aaSQUARE WITH LEFT HALF BLACKmmRIGHmlUPPER LEFT DIAGONALmvLOWER RIGH
25EB aaWHITE SQUARE WITH VERTICAL BISECTING LINEgaUP-POINTING TRIANGLE WITH DOT
25ED aaUP-POINTING TRIANGLE WITH LEFT HALF BLACK+amRIGHaaLARGE CIRCLE
25F0 aaWHITE SQUARE WITH UPPER LEFT QUADRANTsqLOWykRIGHsrUPPgkCIRCLE WITH UPPER LEFsqLOWykRIGH
25F7 srUPPaaUPPER LEFT TRIANGLEgkRIGHakLOWER LEFabWHITE MEDIUM SQUARaoBLACKahWHITE MEDIUM SMALL
25FE auBLACKabLOWER RIGHT TRIANGLaaBLACK SUN WITH RAYSaaCLOUDaaUMBRELLAaaSNOWMANaaCOMET
2605 aaBLACK STARafWHITEaaLIGHTNINGaaTHUNDERSTORMaaSUNaaASCENDING NODEanDEaaCONJUNCTIONaeOPPOSI
260E aaBLACK TELEPHONEakWHITEaaBALLOT BOXka WITH CHECKqaXaaSALTIREaaUMBRELLA WITH RAIN DROPS
2615 aaHOT BEVERAGEabWHITE SHOGI PIECamBLACKaaSHAMROCKaaREVERSED ROTATED FLORAL HEART BULLET
261A aaBLACK LEFT POINTING INDEXgqRIGHaqWHITE LEFgpUPgpRIGHTgpDOWNaaSKULL AND CROSSBONES
2621 aaCAUTION SIGNafRADIOACTIVEafBIOHAZARDaaCADUCEUSaaANKHaaORTHODOX CROSSaaCHI RHO
2628 baROSS OF LORRAINEjaJERUSALEMaaSTAR AND CRESCENTaaFARSI SYMBOLaaADI SHAKTIaaHAMMER AND SICKLE
262E aaPEACE SYMBOLaaYIN YANGaaTRIGRAM FOR HEAVENmaLAKEmbFIRmaTHUNDERmaWINDnaATERmaMOUNTAINmaEARTH
2638 aaWHEEL OF DHARMAcaITE FROWNING FACEgiSMILanBLACKaaWHITE SUN WITH RAYSaaFIRST QUARTER MOON
263E apLAaaMERCURYaaFEMALE SIGNaaEARTHaaMALE SIGNaaJUPITERaaSATURNaaURANUSaaNEPTUNEaaPLUTOaaARIES
2649 abTAURUaaGEMINIaaCANCERaaLEOabVIRGaaLIBRAaaSCORPIUSbdAGITTARaaCAPRICORNaaAQUARIUSabPISCE
2654 aaWHITE CHESS KINGmaQUEENmaROOKmaBISHOPmaKNIGHTmaPAWNaaBLACK CHESS KINGmaQUEENmaROOKmaBISHOP
265E maKNIGHTmaPAWNgaSPADE SUITafWHITE HEARTgfDIAMONDafBLACK CLUBafWHITE SPADEafBLACK HEART
2666 gfDIAMONDafWHITE CLUBaaHOT SPRINGSaaQUARTER NOTEafEIGHTHaaBEAMED EIGHTH NOTEShiSIXTEEN
266D aaMUSIC FLAT SIGNgfNATURALgfSHARPaaWEST SYRIAC CROSSapEAaaUNIVERSAL RECYCLING SYMBOL
2673 aaRECYCLING SYMBOL FOR TYPE-1 PLASTICS+aj2+aj3+aj4+aj5+aj6+aj7vbGENERIC MATERIAL
267B aaBLACK UNIVERSAL RECYCLING SYMBOLahRECYCLED PAPERavPARTIALLY-baERMANENT PAPER SIGN
267F aaWHEELCHAIR SYMBOLaaDIE FACE-1ja2ja3ja4ja5ja6aaWHITE CIRCLE WITH DOT RIGHTsaTWO DOTS
2688 aaBLACK CIRCLE WITH WHITE DOT RIGHTsaTWO WHITE DOTSaaMONOGRAM FOR YANGoaIN
268C aaDIGRAM FOR GREATER YANGlaLESSER YINtaANGlaGREATER YINaaWHITE FLAGafBLACKaaHAMMER AND PICK
2693 aaANCHORaaCROSSED SWORDSabSTAFF OF AESCULAPIUbbCALEaaALEMBICaaFLOWERabGEAaaSTAFF OF HERMES
269B aaATOM SYMBOLaaFLEUR-DE-LISaaOUTLINED WHITE STARaaTHREE LINES CONVERGING RIGHTxbLEF
26A0 aaWARNING SIGNafHIGH VOLTAGEagDOUBLED FEMALijalINTERLOCKED FEMALE ANajMALE AND FEfgWITH STROK
26A7 reAND MALE AND FEMALE agVERTICAL MALE WITH STROKayHORIZONTaaMEDIUM WHITE CIRCLEhhBLACK
26AC hhSMALL WHITEbaARRIAGE SYMBOLaiDIVORCahUNMARRIED PARTNERSHIPaaCOFFINabFUNERAL URaaNEUTER
26B3 aaCERESabPALLAaaJUNOaaVESTAaaCHIRONaaBLACK MOON LILITHaaSEXTILEcfMISEaaQUINCUNX
26BC aaSESQUIQUADRATEbaOCCER BALLaeBASEaaSQUARED KEYaaWHITE DRAUGHTS MANpaKINGaaBLACK DRAUGHTS MAN
26C3 paKINGaaSNOWMAN WITHOUT SNOWbaUN BEHIND CLOUDaaRAINabBLACK SNOWMAabTHUNDER CLOUD AND RAI
26C9 baURNED WHITE SHOGI PIECEhmBLACKabWHITE DIAMOND IN SQUARaaCROSSING LANESaaDISABLED CAR
26CE aaOPHIUCHUSaaPICKaaCAR SLIDINGaaHELMET WITH WHITE CROSSabCIRCLED CROSSING LANEbbHAIN
26D4 aaNO ENTRYaaALTERNATE ONE-WAY LEFT WAY TRAFFICavBLACK TWOazWHITEaaBLACK LEFT LANE MERGE
26D9 aqWHITEaaDRIVE SLOW SIGNaaHEAVY WHITE DOWN-POINTING TRIANGLEaaLEFT CLOSED ENTRY
26DD aaSQUARED SALTIREacFALLING DIAGONAL IN WHITE CIRCLE IN BLACK SQUAaaBLACK TRUCK
26E0 aaRESTRICTED LEFT ENTRY-1wa2aaASTRONOMICAL SYMBOL FOR URANUS
26E3 aaHEAVY CIRCLE WITH STROKE AND TWO DOTS ABOVEaaPENTAGRAMajRIGHT-HANDED INTERLACED a+dLEF
26E7 amINVERTaaBLACK CROSS ON SHIELDaaSHINTO SHRINEaaCHURCHbaASTLEabHISTORIC SITaaGEAR WITHOUT HUB
26EE ja HANDLESaaMAP SYMBOL FOR LIGHTHOUSEbaOUNTAINaaUMBRELLA ON GROUNDaaFOUNTAINbaLAG IN HOLE
26F4 baERRYaaSAILBOATbaQUARE FOUR CORNERSbaKIERaaICE SKATEaaPERSON WITH BALLaaTENT
26FB aaJAPANESE BANK SYMBOLahHEADSTONE GRAVEYARDaaFUEL PUMPaaCUP ON BLACK SQUARE
26FF abWHITE FLAG WITH HORIZONTAL MIDDLE BLACK STRIPaaBLACK SAFETY SCISSORSajUPPER BLADEajBLACK
2703 ajLOWER BLADEakWHITgaHEAVY CHECK MARKaaTELEPHONE LOCATION SIGNbaAPE DRIVEabAIRPLANabENVELOP
270A aaRAISED FISThaHANDafVICTORYafWRITINGaaLOWER RIGHT PENCILagagUPPER RIGHT aaWHITE NIBaeBLACK
2713 aaCHECK MARKakHEAVY aaMULTIPLICATION XaqHEAVY acBALLOTaiHEAVY aaOUTLINED GREEK CROSSamHEAVY
271B agOPEN CENTREarHEAVY agLATINalSHADOWED WHITE amOUTLINEDagMALTESEaaSTAR OF DAVID
2722 aaFOUR TEARDROP-SPOKED ASTERISKfqBALLOONa+cHEAVY aqFOUR CLUBaaBLACK FOUR POINTED STARasWHITE
2728 aaSPARKLESbaTRESS OUTLINED WHITE STARanCIRCLafOPEN CENTRE BLACKafBLACK CENTRE WHITE
272D afOUTLINED BLACKatHEAVY afPINWHEELafSHADOWED WHITEaaHEAVY ASTERISKajOPEN CENTREajEIGHT SPOKED
2734 gaPOINTED BLACK STARofPINWHEELafSIX POINTED BLACKalEIGHT POINTED RECTILINEARa+kHEAVY 
2739 alTWELVE POINTEDaaSIXTEEN POINTED ASTERISKalTEARDROP-SPOKayOPEN CENTRE azHEAVY
273E aaSIX PETALLED BLACK AND WHITE FLORETTEajBLACKajWHITEajEIGHT PETALLED OUTLINED BLACK
2742 aaCIRCLED OPEN CENTRE EIGHT POINTED STARaaHEAVY TEARDROP-SPOKED PINWHEEL ASTERISKaaSNOWFLAKE
2745 ajTIGHT TRIFOLIATE akHEAVY CHEVRONabSPARKLahHEAVY aaBALLOON-SPOKED ASTERISK
274A ajEIGHT TEARDROP-SPOKED PROPELLERa+oHEAVY abCROSS MARaaSHADOWED WHITE CIRCLE
274E aaNEGATIVE SQUARED CROSS MARKaaLOWER RIGHT DROP-SHADOWED WHITE SQUAREa+jUPPavLOWER RIGHT 
2752 a+eUPPaaBLACK QUESTION MARK ORNAMENTaxWHITEgsEXCLAMAaaBLACK DIAMOND MINUS WHITE X
2757 aaHEAVY EXCLAMATION MARK SYMBOLaaLIGHT VERTICAL BARanMEDIUManHEAVY
275B gaSINGLE TURNED COMMA QUOTATION MARK ORNAMENTn+dg+eDOUBLE TURNEDn+dg+gLOW SINGk+gDOUB
2761 ajCURVED STEM PARAGRAPH SIGNajHEAVY EXCLAMATION MARKgzHEART gbBLACK HEAR
2765 abROTATED HEAVY BLACK HEART BULLEabFLORAL HEARabROTATED FLORAL HEART BULLE
2768 abMEDIUM LEFT PARENTHESIS ORNAMENhwRIGHhwFLATTENED LEFrwRIGHhjLEFT-POINTING ANGLE BRACKET
276D h+hRIGHajHEAVY LEFT-POINTING ANGLE QUOTATION MARKg+oRIGHgjLEFT-POINTING ANGLE BRACKETg+hRIGH
2772 arLIGHT LEFT TORTOISE SHELLg+hRIGHarMEDIUM LEFT CURLYhyRIGH
2776 aaDINGBAT NEGATIVE CIRCLED DIGIT ONE+faTWO+gaHREE+faFOUR+gaIVE+faSIX+gaEVEN+faEIGHT+faNINE
277F zaNUMBER TENiaCIRCLED SANS-SERIF DIGIT ONE+haTWO+iaHREE+haFOUR+iaIVE+haSIX+iaEVEN+haEIGHT
2788 +haNINE+baNUMBER TENiaNEGATIVE CIRCLED SANS-SERIF DIGIT ONE+qaTWO+raHREE+qaFOUR+raIVE+qaSIX
2790 +raEVEN+qaEIGHT+qaNINE+kaNUMBER TENaaHEAVY WIDE-HEADED RIGHTWARDS ARROWgaPLUS SIGNghMIN
2797 gfDIVISIONgaSOUTH EAST ARROWggRIGHTWARDSggNORTH EASTagDRAFTING POINT RIGHTWARDS
279C arHEAVY ROUND-TIPPEDatTRIANGLE-HEADa+gHEAVY a+hDASHEDa+nHEAVY arBLACK
27A2 aaTHREE-D TOP-LIGHTED RIGHTWARDS ARROWHEADi+dBOTTOMavBLACK
27A5 aaHEAVY BLACK CURVED DOWNWARDS AND RIGHTWARDS ARROWt+aUParSQUAT BLACKaxHEAVY CONCAVE-POINTED
27A9 arRIGHT-SHADED WHITEa+fLEFazBACK-TILTED SHADOWa+nFRONTa+fHEAVY LOWER RIGHT-g+oUPP
27AF a+oNOTCHED LOWaaCURLY LOOPaaNOTCHED UPPER RIGHT-SHADOWED WHITE RIGHTWARDS ARROW
27B2 axCIRCLED HEAVYarWHITE-FEATHEREDagBLACK-FEATHERED SOUTH EASTqgRIGHTWARDSqgNORTH EAST
27B7 anHEAVY BLACK-FEATHERED SOUwgRIGHTWARDSwgNORTH EASTagTEARDROP-BARBED RIGHTWARDS
27BB atHEAVY TEARDROP-SHANKatWEDGE-TAILa+dHEAVY atOPEN-OUTLINaaDOUBLE CURLY LOOP
27C0 aaTHREE DIMENSIONAL ANGLEafWHITE TRIANGLE CONTAINING SMALL WHITE TRIaaPERPENDICULAR
27C3 aaOPEN SUBSEThdPERaaLEFT S-SHAPED BAG DELIMITERayRIGHaaOR WITH DOT INSIDE
27C8 aaREVERSE SOLIDUS PRECEDING SUBSETaaSUPERSET PRECEDING SOLIDUS
27CA aaVERTICAL BAR WITH HORIZONTAL STROKEaaMATHEMATICAL RISING DIAGONALaaLONG DIVISION
27CD aaMATHEMATICAL FALLING DIAGONALaaSQUARED LOGICAL ANDqaORaaWHITE DIAMOND WITH CENTRED DOT
27D1 aeAND WITHaaELEMENT OF OPENING UPWARDSaaLOWER RIGHT CORNER WITH DOTarUPPER LEF
27D5 aaLEFT OUTER JOINamRIGHalFULLaaLARGE UP TACKgfDOWNbaEFT AND RIGHT DOUBLE TURNSTILEpaTACK
27DC faMULTIMAPbaONG RIGHT TACKfgLEFaaUP TACK WITH CIRCLE ABOVEabLOZENGE DIVIDED BY HORIZONTAL RUL
27E1 aaWHITE CONCAVE-SIDED DIAMOND+ba WITH LEFTWARDS TICK+hlRIGHglSQUARE WITH LEFslRIGH
27E6 aaMATHEMATICAL LEFT WHITE SQUARE BRACKETnwRIGHnjLEFT ANGLnpRIGHnoLEFT DOUBLEnwRIGH
27EC niLEFT WHITE TORTOISE SHELLn+eRIGHnaLEFT FLATTENED PARENTHESISnxRIGHaaUPWARDS QUADRUPLE ARROW
27F1 avDOWNaiANTICLOCKWISE GAPPED CIRCa+daaRIGHT ARROW WITH CIRCLED PLUSaaLONG LEFTWARDS ARROW
27F6 fmRIGHfgLEFT RIGHTjgWARDS DOUBLEftRIGHfnLEFT RIGHTjaWARDS ARROW FROM BARfvRIGH
27FD fpLEFTWARDS DOUBLEf+cRIGHqaSQUIGGLE ARROWaaBRAILLE PATTERN BLANKqaDOTS-1va2vb1va3vb1vb2vc1va4
2809 vb1vb2vc1vb3vc1vc2vd1va5vb1vb2vc1vb3vc1vc2vd1vb4vc1vc2vd1vc3vd1vd2ve1va6vb1vb2vc1vb3vc1vc2vd1
2828 vb4vc1vc2vd1vc3vd1vd2ve1vb5vc1vc2vd1vc3vd1vd2ve1vc4vd1vd2ve1vd3ve1ve2vf1va7vb1vb2vc1vb3vc1vc2
2847 vd1vb4vc1vc2vd1vc3vd1vd2ve1vb5vc1vc2vd1vc3vd1vd2ve1vc4vd1vd2ve1vd3ve1ve2vf1vb6vc1vc2vd1vc3vd1
2866 vd2ve1vc4vd1vd2ve1vd3ve1ve2vf1vc5vd1vd2ve1vd3ve1ve2vf1vd4ve1ve2vf1ve3vf1vf2vg1va8vb1vb2vc1vb3
2885 vc1vc2vd1vb4vc1vc2vd1vc3vd1vd2ve1vb5vc1vc2vd1vc3vd1vd2ve1vc4vd1vd2ve1vd3ve1ve2vf1vb6vc1vc2vd1
28A4 vc3vd1vd2ve1vc4vd1vd2ve1vd3ve1ve2vf1vc5vd1vd2ve1vd3ve1ve2vf1vd4ve1ve2vf1ve3vf1vf2vg1vb7vc1vc2
28C3 vd1vc3vd1vd2ve1vc4vd1vd2ve1vd3ve1ve2vf1vc5vd1vd2ve1vd3ve1ve2vf1vd4ve1ve2vf1ve3vf1vf2vg1vc6vd1
28E2 vd2ve1vd3ve1ve2vf1vd4ve1ve2vf1ve3vf1vf2vg1vd5ve1ve2vf1ve3vf1vf2vg1ve4vf1vf2vg1vf3vg1vg2vh1
2900 aaRIGHTWARDS TWO-HEADED ARROW WITH VERTICAL STROKE+hpDOUBLE aqLEFTWARDS DOUBLE ARROW WITH
2903 a+oRIGHa+iLEFT RIGHTaaRIGHTWARDS TWO-HEADED ARROW FROM BARapLEFTWARDS DOUBLEa+cRIGH
2908 aaDOWNWARDS ARROW WITH HORIZONTAL STROKEa+iUPiaTRIPLE ARROWasDOWNagLEFTWARDS DOUBLE DASH
290D ayRIGHanLEFTWARDS TRIPayRIGHmqWO-HEADED TlaARROW WITH DOTTED STEMaaUPWARDS ARROW TO BARasDOWN
2914 aaRIGHTWARDS ARROW WITH TAIL WITH VERTICAL STROKE+gpDOUBLE laTWO-HEADED ARROW WITH TAIL
2917 +la WITH VERTICAL STROKE+rpDOUBLE aaLEFTWARDS ARROW-TAILarRIGHalLEFTWARDS DOUBLEayRIGH
291D aaLEFTWARDS ARROW TO BLACK DIAMONDa+dRIGHarLEFTWARDS ARROW FROM BARa+mRIGH
2921 aaNORTH WEST AND SOUTH EAST ARROWgiEAST AND SOUTH WEgaWEST ARROW WITH HOOKgsEAaxSOUgsWE
2927 aaNORTH WEST ARROW AND NORTH EAST ARROWgnEAST ARROW AND SOUaiSOUTH EAST ARROW AND SOUTH WE
292A gnWEST ARROW AND NORaaRISING DIAGONAL CROSSING FALLING DIAGONAL
292C amFALLING DIAGONAL CROSSING RISaaSOUTH EAST ARROW CROSSING NORTH EAST ARROW
292E anNORTH EAST ARROW CROSSING SOUanFALLING DIAGONAL CROSSING NORanRISING DIAGONAL CROSSING SOU
2931 aiNORTH EAST ARROW CROSSING NORTH WEgiWEST ARROW CROSSING NORTH EA
2933 aaWAVE ARROW POINTING DIRECTLY RIGHTaaARROW POINTING RIGHTWARDS THEN CURVING UPWARDS+nfDOWN
2936 pfDOWNWARDS THEN CURVING LEFT+mgRIGHaaRIGHT-SIDE ARC CLOCKWISE ARROWapLEFT-SIDE ARC ANTIayTOP
293B ayBOTTOMaaTOP ARC CLOCKWISE ARROW WITH MINUSicANTICLOCKWISE ARROW WITH PL
293E aaLOWER RIGHT SEMICIRCULAR CLOCKWISE ARROWgpLEFT SEMICIRCULAR ANTI
2940 ahANTICLOCKWISE CLOSED CIRCLa+dagRIGHTWARDS ARROW ABOVE SHORT LEFTWARDS
2943 amLEFTWARDS ARROW ABOVE SHORT RIGHamSHORT RIGHTWARDS ARROW ABOVE LEF
2945 acRIGHTWARDS ARROW WITH PLUS BELa+cLEFaaRIGHTWARDS ARROW THROUGH X
2948 aaLEFT RIGHT ARROW THROUGH SMALL CIRCLEanUPWARDS TWO-HEADED ARROW FROM
294A aaLEFT BARB UP RIGHT BARB DOWN HARPOONkiDOWN RIGHT BARB UPaiUP BARB RIGHT DOWN BARB LEFT
294D ijLEFT DOWN BARB RIGHaiLEFT BARB UP RIGHT BARB UPaiUP BARB RIGHT DOWN BARB RIGHT
2950 aiLEFT BARB DOWN RIGHT BARB DOWNaiUP BARB LEFT DOWN BARB LEFT
2952 aaLEFTWARDS HARPOON WITH BARB UP TO BARa+iRIGHahUPWARDS HARPOON WITH BARB RIGHTa+kDOWN
2956 ahLEFTWARDS HARPOON WITH BARB DOWNa+kRIGHahUPWARDS HARPOON WITH BARB LEFTa+jDOWN
295A aeLEFTWARDS HARPOON WITH BARB UP FROMa+kRIGHajUPWARDS HARPOON WITH BARB RIGHTa+mDOWN
295E ajLEFTWARDS HARPOON WITH BARB DOWNa+mRIGHajUPWARDS HARPOON WITH BARB LEFTa+lDOWN
2962 aaLEFTWARDS HARPOON WITH BARB UP ABOVE LEFTWARDS HARPOON WITH BARB DOWN
2963 aaUPWARDS HARPOON WITH BARB LEFT BESIDE UPWARDS HARPOON WITH BARB RIGHT
2964 aaRIGHTWARDS HARPOON WITH BARB UP ABOVE RIGHTWARDS HARPOON WITH BARB DOWN
2965 aaDOWNWARDS HARPOON WITH BARB LEFT BESIDE DOWNWARDS HARPOON WITH BARB RIGHT
2966 aaLEFTWARDS HARPOON WITH BARB UP ABOVE RIGHTWARDS HARPOON WITH BARB UP
2967 +caDOWN ABOVE RIGHTWARDS HARPOON WITH BARB DOWN
2968 aaRIGHTWARDS HARPOON WITH BARB UP ABOVE LEFTWARDS HARPOON WITH BARB UP
2969 +daDOWN ABOVE LEFTWARDS HARPOON WITH BARB DOWN
296A aaLEFTWARDS HARPOON WITH BARB UP ABOVE LONG DASH+ckDOWN BELOW
296C akRIGHTWARDS HARPOON WITH BARB UP ABOVE+dkDOWN BELOW
296E aaUPWARDS HARPOON WITH BARB LEFT BESIDE DOWNWARDS HARPOON WITH BARB RIGHT
296F a+dDOWNWARDS HARPOON WITH BARB LEFT BESIDE UPaaRIGHT DOUBLE ARROW WITH ROUNDED HEAD
2971 aaEQUALS SIGN ABOVE RIGHTWARDS ARROWaxTILDE OPERATORaaLEFTWARDS ARROW ABOVE TILDE OPERATOR
2974 a+hRIGHxaALMOST EQUAL TOaaLESS-THAN ABOVE LEFTWARDS ARROWcaFTWARDS ARROW THROUGH LESS-THAN
2978 aaGREATER-THAN ABOVE RIGHTWARDS ARROWaxSUBSETaaLEFTWARDS ARROW THROUGH SUBSET
297B aaSUPERSET ABOVE LEFTWARDS ARROWaaLEFT FISH TAILalRIGHakUPakDOWN
2980 aaTRIPLE VERTICAL BAR DELIMITERaaZ NOTATION SPOTlaTYPE COLONaaLEFT WHITE CURLY BRACKETavRIGH
2985 aaLEFT WHITE PARENTHESISatRIGHaaZ NOTATION LEFT IMAGE BRACKETlpRIGHliLEFT BINDINGlrRIGH
298B aaLEFT SQUARE BRACKET WITH UNDERBARa+eRIGHabLEFT SQUARE BRACKET WITH TICK IN TOP CORNE
298E ahRIGHT SQUARE BRACKET WITH TICK IN BOTTOMa+rLEFahRIGHT SQUARE BRACKET WITH TICK IN TOP
2991 aaLEFT ANGLE BRACKET WITH DOTayRIGHabLEFT ARC LESS-THAN BRACKEanRIGHT ARC GREATER
2995 a+aDOUBLE LEFhnRIGHT ARC LESSaiLEFT BLACK TORTOISE SHELLa+eRIGHaaDOTTED FENCE
299A abVERTICAL ZIGZAG LINaaMEASURED ANGLE OPENING LEFTaaRIGHT ANGLE VARIANT WITH SQUARE
299D aaMEASURED RIGHT ANGLE WITH DOTaaANGLE WITH S INSIDEbbCUTE ANGLaaSPHERICAL ANGLE OPENING LEFT
29A1 yaUPaaTURNED ANGLEaiREVERSaaANGLE WITH UNDERBARatREVERSED aaOBLIQUE ANGLE OPENING UPwaDOWN
29A8 aaMEASURED ANGLE WITH OPEN ARM ENDING IN ARROW POINTING UP AND RIGHT++jbLEF++cbDOWN AND RIGH
29AB ++lbLEF++caRIGHT AND UP++ciLEF++caRIGHT AND DOWN++ckLEFaaREVERSED EMPTY SET
29B1 aaEMPTY SET WITH OVERBARpaSMALL CIRCLE ABOVEpgRIGHT ARROWpnLEFaaCIRCLE WITH HORIZONTAL BAR
29B6 ggD VERTICiaPARALLELiaREVERSE SOLIDUSiaPERPENDICULAR
29BA gc DIVIDED BY HORIZONTAL BAR AND TOP HALF DIVIDED BY VERTICAL BhaWITH SUPERIMPOSED X
29BC gaD ANTICLOCKWISE-ROTATED DIVISION SIGNaaUP ARROW THROUGH CIRCLEaaCIRCLED WHITE BULLETig
29C0 iaLESS-THANifGREATERga WITH SMALL CIRCLE TO THE RIGHTmnTWO HORIZONTAL STROKES
29C4 aaSQUARED RISING DIAGONAL SLASHisFALLiaASTERISKiaSMALL CIRCLEjbQUARaaTWO JOINED SQUARES
29CA baRIANGLE WITH DOT ABOVEoaUNDERBARaaS IN TRIANGLEaaTRIANGLE WITH SERIFS AT BOTTOM
29CE aaRIGHT TRIANGLE ABOVE LEFT TRIANGLEaaLEFT TRIANGLE BESIDE VERTICAL BAR
29D0 aaVERTICAL BAR BESIDE RIGHT TRIANGLEaaBOWTIE WITH LEFT HALF BLACKmmRIGHbaLACK BOWTIE
29D4 aaTIMES WITH LEFT HALF BLACKlmRIGHaaWHITE HOURGLASSakBLACKaaLEFT WIGGLY FENCEaoRIGH
29DA anLEFT DOUBLEavRIGHaaINCOMPLETE INFINITYajTIE OVERaaINFINITY NEGATED WITH VERTICAL BAR
29DF aaDOUBLE-ENDED MULTIMAPaaSQUARE WITH CONTOURED OUTLINEaaINCREASES ASaaSHUFFLE PRODUCT
29E3 aaEQUALS SIGN AND SLANTED PARALLEL+ga WITH TILDE ABOVEaaIDENTICAL TO AND SLANTED PARALLEL
29E6 aaGLEICH STARKaaTHERMODYNAMICaaDOWN-POINTING TRIANGLE WITH LEFT HALF BLACK+cmRIGH
29EA aaBLACK DIAMOND WITH DOWN ARROWgaLOZENGEaaWHITE CIRCLE WITH DOWN ARROWaxBLACK
29EE aaERROR-BARRED WHITE SQUAREnhBLACKnaWHITE DIAMONDniBLACKnaWHITE CIRCLEnhBLACKaaRULE-DELAYED
29F5 baEVERSE SOLIDUS OPERATORabSOLIDUS WITH OVERBAaaREVERSE SOLIDUS WITH HORIZONTAL STROKE
29F8 aaBIG SOLIDUSehREVERSE acDOUBLE PLahTRIPaaLEFT-POINTING CURVED ANGLE BRACKETa+fRIGHaaTINYadM
2A00 aaN-ARY CIRCLED DOT OPERATORojPLUSokTIMEgaUNION OPERATOR WITH DOT+aaPLUS
2A05 gaSQUARE INTERSECTION OPERATORnmUNajTWO LOGICAL ANDmjORajN-ARY TIMESaaMODULO TWO SUM
2A0B aaSUMMATION WITH INTEGRALaaQUADRUPLE INTEGRAL OPERATORaaFINITE PART INTEGRAL
2A0E aaINTEGRAL WITH DOUBLE STROKEjaAVERAGE WITH SLASHaaCIRCULATION FUNCTION
2A11 aeANTICLOCKWISE INTEGRAaaLINE INTEGRATION WITH RECTANGULAR PATH AROUND POLEwvSEMICIRC
2A14 rfNOT INCLUDING THEaaINTEGRAL AROUND A POINT OPERATORajQUATERNION INTEGRAL
2A17 aaINTEGRAL WITH LEFTWARDS ARROW WITH HOOKoaTIMES SIGNobINTERSECTIOodUNoaOVERBARofUNDaaJOIN
2A1E aaLARGE LEFT TRIANGLE OPERATORaaZ NOTATION SCHEMA COMPOSITIONsaPIPINGtaROJECTION
2A22 aaPLUS SIGN WITH SMALL CIRCLE ABOVEpgCIRCUMFLEX ACCENTpgTILDEpaDOT BELOWpgTILDE
2A27 paSUBSCRIPT TWOpaBLACK TRIANGLEabMINUS SIGN WITH COMMA ABOVqaDOT BELOWqaFALLING DOTSqiRIS
2A2D aaPLUS SIGN IN LEFT HALF CIRCLEnnRIGHaaVECTOR OR CROSS PRODUCT
2A30 aaMULTIPLICATION SIGN WITH DOT ABOVEzaUNDERBARaaSEMIDIRECT PRODUCT WITH BOTTOM CLOSED
2A33 baMASH PRODUCTaaMULTIPLICATION SIGN IN LEFT HALF CIRCLExnRIGH
2A36 aaCIRCLED MULTIPLICATION SIGN WITH CIRCUMFLEX ACCENTaaMULTIPLICATION SIGN IN DOUBLE CIRCLE
2A38 aaCIRCLED DIVISION SIGNaaPLUS SIGN IN TRIANGLEatMINbrULTIPLICATIONaaINTERIOR PRODUCT
2A3D aqRIGHTHAND aaZ NOTATION RELATIONAL COMPOSITIONaaAMALGAMATION OR COPRODUCT
2A40 abINTERSECTION WITH DOaaUNION WITH MINUS SIGNlaOVERBARaqINTERSECTsaLOGICAL AND
2A45 aaUNION WITH LOGICAL ORgaABOVE INTERSECTIONadINTERSECTION ABOVE UN
2A48 adUNION ABOVE BAR ABOVE INTERSECTadINTERSECTION ABOVE BAR ABOVE UN
2A4A agUNION BESIDE AND JOINED WITHadINTERSECTION BESIDE AND JOINED WITH INTERSECT
2A4C aaCLOSED UNION WITH SERIFShpINTERSECTaaDOUBLE SQUARE INTERSECTIONodUN
2A50 aaCLOSED UNION WITH SERIFS AND SMASH PRODUCTaaLOGICAL AND WITH DOT ABOVEipOR
2A53 aaDOUBLE LOGICAL ANDpaORaaTWO INTERSECTING LOGICAL ANDzaORadSLOPING LARGEoaAND
2A59 aeLOGICAL OR OVERLAPPING LOGICALiaAND WITH MIDDLE STEMirORiaAND WITH HORIZONTAL DASHivOR
2A5E iaAND WITH DOUBLE OVERBARrfUNDriDOUBLE ajSMALL VEE WITHafLOGICAL OR WITH DOUBLE OVxfUND
2A64 aaZ NOTATION DOMAIN ANTIRESTRICTIONlqRANGEaaEQUALS SIGN WITH DOT BELOW
2A67 aaIDENTICAL WITH DOT ABOVEabTRIPLE HORIZONTAL BAR WITH DOUBLE VERTICAL STROK+bsTRIP
2A6A bbILDE OPERATOR WITH DOT ABOVuaRISING DOTSaaSIMILAR MINUS SIMILARaaCONGRUENT WITH DOT ABOVE
2A6E aaEQUALS WITH ASTERISKaaALMOST EQUAL TO WITH CIRCUMFLEX ACCENT
2A70 baPPROXIMATELY EQUAL OR EQUAL TOaaEQUALS SIGN ABOVE PLUS SIGNagPLUS SIGN ABOVE EQUAL
2A73 aaEQUALS SIGN ABOVE TILDE OPERATORaaDOUBLE COLON EQUALaaTWO CONSECUTIVE EQUALS SIGNSbzHREE
2A77 aaEQUALS SIGN WITH TWO DOTS ABOVE AND TWO DOTS BELOWdaIVALENT WITH FOUR DOTS ABOVE
2A79 abLESS-THAN WITH CIRCLE INSIDayGREATERabLESS-THAN WITH QUESTION MARK ABOVa+eGREATER
2A7D aaLESS-THAN OR SLANTED EQUAL TOazGREATERaaLESS-THAN OR SLANTED EQUAL TO WITH DOT INSIDE
2A80 a+pGREATERabLESS-THAN OR SLANTED EQUAL TO WITH DOT ABOVa+oGREATER
2A83 aaLESS-THAN OR SLANTED EQUAL TO WITH DOT ABOVE RIGHT
2A84 abGREATER-THAN OR SLANTED EQUAL TO WITH DOT ABOVE LEFaaLESS-THAN OR APPROXIMATEauGREATER
2A87 aaLESS-THAN AND SINGLE-LINE NOT EQUAL TOa+iGREATERaaLESS-THAN AND NOT APPROXIMATEazGREATER
2A8B aaLESS-THAN ABOVE DOUBLE-LINE EQUAL ABOVE GREATER-THAN
2A8C afGREATER-THAN ABOVE DOUBLE-LINE EQUAL ABOVE LESSaaLESS-THAN ABOVE SIMILAR OR EQUALa+cGREATER
2A8F aaLESS-THAN ABOVE SIMILAR ABOVE GREATER-THANafGREATER-THAN ABOVE SIMILAR ABOVE LESS
2A91 aaLESS-THAN ABOVE GREATER-THAN ABOVE DOUBLE-LINE EQUALa+dGREATER-THAN ABOVE LESS
2A93 agLESS-THAN ABOVE SLANTED EQUAL ABOVE GREATER-THAN ABOVE SLANTED
2A94 azGREATER-THAN ABOVE SLANTED EQUAL ABOVE LESSaaSLANTED EQUAL TO OR LESS-THANufGREATER
2A97 uaLESS-THAN WITH DOT INSIDEuvGREATERaaDOUBLE-LINE EQUAL TO OR LESS-THANyfGREATER
2A9B mfSLANTED EQUAL TO OR LESS+gfGREATERafSIMILAR OR LESSlfGREATER
2A9F ibABOVE LESS-THAN ABOVE EQUALS SIGoxGREATERabDOUBLE NESTED LESS-THAofGREATER
2AA3 oaLESS-THAN WITH UNDERBARaaGREATER-THAN OVERLAPPING LESS-THANnkBESIDE
2AA6 aaLESS-THAN CLOSED BY CURVEavGREATERaaLESS-THAN CLOSED BY CURVE ABOVE SLANTED EQUALa+pGREATER
2AAA aaSMALLER THANahLARGaaSMALLER THAN OR EQUAL TOatLARGaaEQUALS SIGN WITH BUMPY ABOVE
2AAF aaPRECEDES ABOVE SINGLE-LINE EQUALS SIGNa+fSUCCEEDaaPRECEDES ABOVE SINGLE-LINE NOT EQUAL TO
2AB2 a+gSUCCEEDaaPRECEDES ABOVE EQUALS SIGNatSUCCEEDaaPRECEDES ABOVE NOT EQUAL TOauSUCCEED
2AB7 akPRECEDES ABOVE ALMOSaxSUCCEEDaqPRECEDES ABOVE NOTa+bSUCCEEDaaDOUBLE PRECEDEShbSUCCEED
2ABD aaSUBSET WITH DOTcmPERcaBSET WITH PLUS SIGN BELOWcyPERclBSET WITH MULTIPLICATIONc+iPER
2AC3 caBSET OF OR EQUAL TO WITH DOT ABOVEc+hPERcaBSET OF ABOVE EQUALS SIGNcyPER
2AC7 caBSET OF ABOVE TILDE OPERATORc+bPERcaBSET OF ABOVE ALMOST EQUAL TOc+cPERckBSET OF ABOVE NO
2ACC czPERbaQUARE LEFT OPEN BOX OPERATORhtRIGHaaCLOSED SUBSETjdPERjaBSET OR EQUAL TOjpPER
2AD3 aaSUBSET ABOVE SUPERSETcdPERSET ABOVE SUBcqBcdPERSET ABOVE SUPERjdBESIDE SUB
2AD8 qgAND JOINED BY DASH WITH aaELEMENT OF OPENING DOWNWARDSaaPITCHFORK WITH TEE TOP
2ADB aaTRANSVERSAL INTERSECTIONaaFORKINGahNONaaSHORT LEFT TACKgfDOWNgfUPaaPERPENDICULAR WITH S
2AE2 aaVERTICAL BAR TRIPLE RIGHT TURNSTILEalDOUBLE VERTICAL BAR LEFapVERTICAL BAR DOUBLEa+iDOUBLE 
2AE6 aaLONG DASH FROM LEFT MEMBER OF DOUBLE VERTICALaaSHORT DOWN TACK WITH OVERBAR
2AE8 gfUP TACK WITH UNDoaABOVE SHORT DOWN TACKakDOUBLEhfUPhaSTROKE NOT SIGNawREVERSED 
2AEE aaDOES NOT DIVIDE WITH REVERSED NEGATION SLASHaaVERTICAL LINE WITH CIRCLE ABOVE+aaBELOW
2AF1 asDOWN TACKaaPARALLEL WITH HORIZONTAL STROKEoaTILDE OPERATOR
2AF4 aaTRIPLE VERTICAL BAR BINARY RELATIONuaWITH HORIZONTAL STROKEhaCOLON OPERATOR
2AF7 haNESTED LESS-THANofGREATERaaDOUBLE-LINE SLANTED LESS-THAN OR EQUAL TOurGREATER
2AFB aaTRIPLE SOLIDUS BINARY RELATIONaaLARGE TRIPLE VERTICAL BAR OPERATORajDOUBLE SOLIDUS
2AFE abWHITE VERTICAL BAasN-ARY baORTH EAST WHITE ARROWgoWEaoSOUTH EAgoWEanLEFT RIGHegWARDS BLACK
2B06 arUParDOWNamNORTH EASTgoWEaoSOUTH EAgoWEanLEFT RIGHamUP DOWN
2B0E aaRIGHTWARDS ARROW WITH TIP DOWNWARDS+afUPafLEFTWARDS ARROW WITH TIP DOWNzfUP
2B12 aaSQUARE WITH TOP HALF BLACKmlBOTTOMmlUPPER RIGHT DIAGONALmvLOWER LEFalDIAMOND WITH LEFT
2B17 nmRIGHnlTOPnlBOTTOMbaOTTED SQUAREahBLACK LARGEanWHITEahBLACK VERY SMALLasWHITE
2B1F aaBLACK PENTAGONajWHITEgeHEXaiBLACKanHORIZONTAL aaBLACK LARGE CIRCLEgaMEDIUM DIAMONDapWHITE
2B27 aaBLACK MEDIUM LOZENGEapWHITEaaBLACK SMALL DIAMONDmaLOZENGEaoWHITEabBLACK HORIZONTAL ELLIPS
2B2D atWHITEakBLACK VERTICarWHITEabLEFT ARROW WITH SMALL CIRCLaaTHREE LEFTWARDS ARROWS
2B32 abLEFT ARROW WITH CIRCLED PLUbaONG LEFTWARDS SQUIGGLE ARROW
2B34 baEFTWARDS TWO-HEADED ARROW WITH VERTICAL STROKE+gpDOUBLE +baFROM BARvaTRIPLE DASH ARROW
2B38 kaARROW WITH DOTTED STEMvaTAIL WITH VERTICAL STROKE+fpDOUBLE kaTWO-HEADED ARROW WITH TAIL
2B3C +ka WITH VERTICAL STROKE+qpDOUBLE kaARROW THROUGH XaaWAVE ARROW POINTING DIRECTLY LEFT
2B40 aaEQUALS SIGN ABOVE LEFTWARDS ARROWawREVERSE TILDE OPERATOR
2B42 aaLEFTWARDS ARROW ABOVE REVERSE ALMOST EQUAL TOaaRIGHTWARDS ARROW THROUGH GREATER-THAN
2B44 zaSUPERSETaaLEFTWARDS QUADRUPLE ARROWawRIGHbgEVERSE TILDE OPERATOR ABOVE RIGHTWARDS
2B48 baIGHTWARDS ARROW ABOVE REVERSE ALMOST EQUAL TOaaTILDE OPERATOR ABOVE LEFTWARDS ARROW
2B4A aaLEFTWARDS ARROW ABOVE ALMOST EQUAL TOwaREVERSE TILDE OPERATORa+pRIGH
2B4D aaDOWNWARDS TRIANGLE-HEADED ZIGZAG ARROWagSHORT SLANTED NORTHgiBACKSLANTED SOU
2B50 aaWHITE MEDIUM STARafBLACK SMALLalWHITEaaBLACK RIGHT-POINTING PENTAGONayWHITE
2B55 aaHEAVY LARGE CIRCLEgbOVAL WITH OVAL INSIDghCIRCLE WITH CIRCLEmamaD SALTIRE
2B5A aaSLANTED NORTH ARROW WITH HOOKED HEADaaBACKSLANTED SOUTH ARROW WITH HOOKED TAIL
2B5C afSLANTED NORTH ARROW WITH HORIZONTALa+dBACKSLANTED SOU
2B5E baENT ARROW POINTING DOWNWARDS THEN NORTH EASTa+tSHORT aaLEFTWARDS TRIANGLE-HEADED ARROWa+bUP
2B62 a+bRIGHTa+bDOWNawLEFT RIGHTawUP DOWNawNORTH WESTgyEAa+dSOUgyWE
2B6A aiLEFTWARDS TRIANGLE-HEADED DASHa+iUPa+iRIGHTa+iDOWNagCLOCKWISE TRIANGLE-HEADED OPEN CIRCLE
2B6F a+rANTIaaLEFTWARDS TRIANGLE-HEADED ARROW TO BARa+iUPa+iRIGHTa+iDOWN
2B76 a+dNORTH WESTg+fEAa+kSOUg+fWEaaLEFTWARDS TRIANGLE-HEADED ARROW WITH DOUBLE HORIZONTAL STROKE
2B7B a++fUPa++fRIGHTa++fDOWNaaHORIZONTAL TAB KEYakVERTIC
2B80 aaLEFTWARDS TRIANGLE-HEADED ARROW OVER RIGHTWARDS TRIANGLE-HEADED ARROW
2B81 a+bUPWARDS TRIANGLE-HEADED ARROW LEFTWARDS OF DOWN
2B82 a+bRIGHTWARDS TRIANGLE-HEADED ARROW OVER LEFT
2B83 a+bDOWNWARDS TRIANGLE-HEADED ARROW LEFTWARDS OF UPaaLEFTWARDS TRIANGLE-HEADED PAIRED ARROWS
2B85 a+jUPa+jRIGHTa+jDOWNaaLEFTWARDS BLACK CIRCLED WHITE ARROWa+fUPa+fRIGHTa+fDOWN
2B8C agANTICLOCKWISE TRIANGLE-HEADED RIGHT U-SHAPED+epBOTTOM+epLEFT+epTOPaaRETURN LEFThbRIGH
2B92 abNEWLINE LEFibRIGHaaFOUR CORNER ARROWS CIRCLING ANTICLOCKWISEaaRIGHTWARDS BLACK ARROW
2B97 aaSYMBOL FOR TYPE A ELECTRONICSaaTHREE-D TOP-LIGHTED LEFTWARDS EQUILATERAL ARROWHEAD
2B99 i+bRIGHT-LIGHTED UPi+bTOP-LIGHTED RIGHTi+bLEFT-LIGHTED DOWNa+bBLACK LEFTg+bUPg+bRIGHTg+bDOWN
2BA0 aaDOWNWARDS TRIANGLE-HEADED ARROW WITH LONG TIP LEFTWARDS+ugRIGH
2BA2 agUPWARDS TRIANGLE-HEADED ARROW WITH LONG TIP LEF+sgRIGH
2BA4 afLEFTWARDS TRIANGLE-HEADED ARROW WITH LONG TIP UPa+yRIGH
2BA6 afLEFTWARDS TRIANGLE-HEADED ARROW WITH LONG TIP DOWNa++aRIGH
2BA8 aaBLACK CURVED DOWNWARDS AND LEFTWARDS ARROW+bmRIGHnmUPWARDS AND LEFzmRIGHnlLEFTWARDS AND UP
2BAD nyRIGHnlLEFTWARDS AND DOWNn+aRIGHaaRIBBON ARROW DOWN LEFTsbRIGHnbUP LEFqbRIGHnaLEFT UPneRIGH
2BB6 naLEFT DOWNngRIGHaaUPWARDS WHITE ARROW FROM BAR WITH HORIZONTAL BAR
2BB9 ca ARROWHEAD IN A RECTANGLE BOXaaOVERLAPPING WHITE SQUARESshAND BLACK mn
2BBD aaBALLOT BOX WITH LIGHT XacCIRCLEDibBOLD aaBLACK SQUARE CENTREDgiDIAMOND
2BC2 aaTURNED BLACK PENTAGONafHORIZONTAL BLACK OCangaMEDIUM UP-POINTING TRIANGLE CENTREDn+aDOWN
2BC7 n+aLEFTn+bRIGHaaNEPTUNE FORM TWOaaTOP HALF BLACK CIRCLEasBOTTOM
2BCC aaLIGHT FOUR POINTED BLACK CUSPa+dROTATED afWHITE FOUR POINTEDaxROTATED 
2BD0 aaSQUARE POSITION INDICATORaaUNCERTAINTY SIGNaaGROUP MARKaaPLUTO FORM TWOmaHREElaFOURmaIVE
2BD7 aaTRANSPLUTOaaPROSERPINAabASTRAEacHYGIaaPHOLUSacNESSaaWHITE MOON SELENA
2BDE aaBLACK DIAMOND ON CROSSaaTRUE LIGHT MOON ARTAaaCUPIDOaaHADESabZEUabKRONOaaAPOLLONbaDMETOS
2BE6 abVULCANUaaPOSEIDONaaLEFT HALF BLACK STARarRIGHaaSTAR WITH LEFT HALF BLACKkmRIGH
2BEC aaLEFTWARDS TWO-HEADED ARROW WITH TRIANGLE ARROWHEADSa+vUPa+vRIGHTa+vDOWNaaERIS FORM ONEkaTWO
2BF2 aaSEDNAaaRUSSIAN ASTROLOGICAL SYMBOL VIGINTILE+cdNOV+cdQUINT+cdBINOV+caSENTAGON+caTREDECILE
2BF9 aaEQUALS SIGN WITH INFINITY BELOWaaUNITED SYMBOLakSEPARAajDOUBLajPASSaaREVERSED RIGHT ANGLE
2BFF aaHELLSCHREIBER PAUSE SYMBOLaaGLAGOLITIC CAPITAL LETTER AZU+aaBUKY+aaVEDE+aaGLAGOLI+aaDOBRO
2C05 +aaYESTU+aaZHIVETE+aaDZELO+aaZEMLJA+aaIZHE+bdNITIAL I+ba+abDJERV+aaKAKO+aaLJUDIJE+abMYSLIT
2C10 +aaNASHI+aaONU+aaPOKOJI+abRITS+aaSLOVO+abTVRID+aaUKU+abFRIT+abHER+abOT+aaPE+aaSHTA+aaTSI
2C1D +abCHRIV+aaSHA+aaYERU+daI+bbAT+aaSPIDERY HA+aaYU+aaSMALL YUS+ja WITH TAIL+aaYO
2C27 +aaIOTATED SMALL YUS+aeBIG+ahIOTATED +aaFITA+abIZHITS+aaSHTAPIC+aaTROKUTASTI A
2C2E +aaLATINATE MYSLITE+aaCAUDATE CHRIVIlaSMALL LETTER AZUyaBUKYyaVEDEyaGLAGOLIyaDOBROyaYESTU
2C36 yaZHIVETEyaDZELOyaZEMLJAyaIZHEzdNITIAL IzaybDJERVyaKAKOyaLJUDIJEybMYSLITyaNASHIyaONUyaPOKOJI
2C43 ybRITSyaSLOVOybTVRIDyaUKUybFRITybHERybOTyaPEyaSHTAyaTSIybCHRIVyaSHAyaYERU+baIzbATyaSPIDERY HA
2C53 yaYUyaSMALL YUS+ha WITH TAILyaYOyaIOTATED SMALL YUSyeBIGyhIOTATED yaFITAybIZHITSyaSHTAPIC
2C5D yaTROKUTASTI AyaLATINATE MYSLITEyaCAUDATE CHRIVIaaLATIN CAPITAL LETTER L WITH DOUBLE BAR
2C61 g+aSMALgaCAPITAL LETTER L WITH MIDDLE TILDEvbP WITH STROKvaR WITH TAIL
2C65 gaSMALL LETTER A WITH STROKEthT WITH DIAGONALgaCAPITAL LETTER H WITH DESCENDERgzSMAL
2C69 gpCAPITAL LETTER KgzSMALgpCAPITAL LETTER ZgzSMALgaCAPITAL LETTER ALPHAvaM WITH HOOKvaTURNED A
2C70 +daLPHAgaSMALL LETTER V WITH RIGHT HOOKgfCAPITAL LETTER W WITHguSMALtaV WITH CURL
2C75 gaCAPITAL LETTER HALF HgpSMALtaTAILLESS PHItaE WITH NOTCHtaTURNED R WITH TAIL
2C7A taO WITH LOW RING INSIDEgbLETTER SMALL CAPITAL TURNED gaSUBSCRIPT SMALL LETTER J
2C7D aaMODIFIER LETTER CAPITAL VaaLATIN CAPITAL LETTER S WITH SWASH TAILvqZ
2C80 aaCOPTIC CAPITAL LETTER ALFAhnSMALhbCAPITAL LETTER VIDhnSMALhbCAPITAL LETTER GAMMhoSMAL
2C86 hbCAPITAL LETTER DALDhoSMALhaCAPITAL LETTER EIEhmSMALhaCAPITAL LETTER SOUhmSMAL
2C8C haCAPITAL LETTER ZATAhnSMALhaCAPITAL LETTER HATEhnSMALhbCAPITAL LETTER THETHhpSMAL
2C92 haCAPITAL LETTER IAUDAhoSMALhbCAPITAL LETTER KAPhnSMALhbCAPITAL LETTER LAULhoSMAL
2C98 haCAPITAL LETTER MIhlSMALhbCAPITAL LETTER NhlSMALhbCAPITAL LETTER KShmSMALhaCAPITAL LETTER O
2C9F hkSMALhaCAPITAL LETTER PIhlSMALhaCAPITAL LETTER ROhlSMALhaCAPITAL LETTER SIMAhnSMAL
2CA6 haCAPITAL LETTER TAUhmSMALhaCAPITAL LETTER UAhlSMALhaCAPITAL LETTER FIhlSMAL
2CAC hbCAPITAL LETTER KHhmSMALhbCAPITAL LETTER PShmSMALhaCAPITAL LETTER OOUhmSMAL
2CB2 haCAPITAL LETTER DIALECT-P ALEFhxSMALhaCAPITAL LETTER OLD COPTIC AINhxSMAL
2CB6 haCAPITAL LETTER CRYPTOGRAMMIC EIEh+aSMALhaCAPITAL LETTER DIALECT-P KAPAhxSMAL
2CBA haCAPITAL LETTER DIALECT-P NIhvSMALhdCAPITAL LETTER CRYPTOGRAMMIChzSMAL
2CBE haCAPITAL LETTER OLD COPTIC OOUhxSMALhaCAPITAL LETTER SAMPIhoSMALhbCAPITAL LETTER CROSSED SHE
2CC3 hvSMALhfCAPITAL LETTER OLD COPTIChySMALhaCAPITAL LETTER OLD COPTIC ESHhxSMAL
2CC8 haCAPITAL LETTER AKHMIMIC KHEIhwSMALhbCAPITAL LETTER DIALECT-P HORhxSMAL
2CCC hfCAPITAL LETTER OLD COPTIChySMALhaCAPITAL LETTER OLD COPTIC HAhwSMAL
2CD0 hdCAPITAL LETTER L-SHAPEDhuSMALhaCAPITAL LETTER OLD COPTIC HEIhxSMAL
2CD4 haCAPITAL LETTER OLD COPTIC HAThxSMALhaCAPITAL LETTER OLD COPTIC GANGIAh+aSMAL
2CD8 hbCAPITAL LETTER OLD COPTIC DJhxSMALhbCAPITAL LETTER OLD COPTIC SHIMhzSMAL
2CDC hgCAPITAL LETTER OLD NUBIANhzSMALhaCAPITAL LETTER OLD NUBIAN NGIhxSMAL
2CE0 hbCAPITAL LETTER OLD NUBIAN NYhxSMALhaCAPITAL LETTER OLD NUBIAN WAUhxSMALiaYMBOL KAIoaMI RO
2CE6 oePoaSTAUROSoaTAU ROodKHIoaSHIMA SIMAhaCAPITAL LETTER CRYPTOGRAMMIC SHEIh+bSMAL
2CED haCAPITAL LETTER CRYPTOGRAMMIC GANGIAh+dSMALhaCOMBINING NI ABOVEraSPIRITUS ASPER+aaLENIS
2CF2 iaAPITAL LETTER BOHAIRIC KHEIhwSMAL
2CF9 haOLD NUBIAN FULL STOPsaDIRECT QUESTION MARKsuINsaVERSE DIVIDERhaFRACTION ONE HALFiaULL STOP
2CFF haMORPHOLOGICAL DIVIDERaaGEORGIAN SMALL LETTER ANwcBwcGwbDOwbEwbVIwbZEwbTAwbIwbKAwaLASwaMAN
2D0C waNARwaONwaPARwcZHwaRAEwaSANwaTARwaUNwaPHARwdKwaGHANwaQARwaSHINwdCxbAwaJILwcCxaHARwaXANwcJH
2D20 waHAExbxbIwbWwaHARxaOE
2D27 waYN
2D2D wbAE
2D30 aaTIFINAGH LETTER YAsaBtaHsaGtaHHqaBERBER ACADEMY YAJqdsaDtaHtaDuaHraEYraAFsaKqdTUAREG 
2D3F qaYAKHHsbqdBERBER ACADEMY qeTUAREGqbYAHsaAsaKHqeTUAREG qaYAQqdTUAREG qaYIraAZHqeAHAGGAR 
2D4C qfTUAREGqaYALsaMsaNqbTUAREG YAGzaNGqaYAPraUraARtaRsaGHqeTUAREG qfAYERqaYAStaStaHsaTtaHsbCsaTT
2D60 saVsaWsaYsaZqdTAWELLEMET qbYAZraEraO
2D6F jaMODIFIER LETTER LABIALIZATION MARKjfSEPARATOR
2D7F jaCONSONANT JOINERaaETHIOPIC SYLLABLE LOAscMscRscStcHscBscTscCscNtcYscGLOTTAL scZscDtcDscJ
2D8F scTHsdCsdPtcsbGGWvaIvaEEwa
2DA0 saSSAuaUuaIuaAAuaEEvauaO
2DA8 saCCAuaUuaIuaAAuaEEvauaO
2DB0 saZZAuaUuaIuaAAuaEEvauaO
2DB8 saCCHAvaUvaIvaAAvaEEwavaO
2DC0 saQYAuaUuaIuaAAuaEEvauaO
2DC8 saKYAuaUuaIuaAAuaEEvauaO
2DD0 saXYAuaUuaIuaAAuaEEvauaO
2DD8 saGYAuaUuaIuaAAuaEEvauaO
2DE0 aaCOMBINING CYRILLIC LETTER BE+abV+abGH+abD+abZH+bb+aaKA+aaEL+baM+baN+aaO+aaPE+aaER+baS+aaTE
2DEF +aaHA+aaTSE+abCH+aaSHA+cbCH+abFIT+aaES-TE+aaA+aaIE+aaDJERV+aaMONOGRAPH UK+aaYAT+baU
2DFC +aaIOTIFIED A+aaLITTLE YUS+aeBIG+ahIOTIFIED aaRIGHT ANGLE SUBSTITUTION MARKERmtDOTTED 
2E02 aaLEFT SUBSTITUTION BRACKETawRIGHavLEFT DOTTEDa+dRIGHbaAISED INTERPOLATION MARKERhuDOTTED 
2E08 alDOTTED TRANSPOSIaaLEFT TRANSPOSITION BRACKETaxRIGHbaAISED SQUARE
2E0C aaLEFT RAISED OMISSION BRACKETazRIGHaaEDITORIAL CORONISabPARAGRAPHOalFORKED asREVERSED 
2E12 aaHYPODIASTOLEaaDOTTED OBELOScaWNWARDS ANCORAamUPaaDOTTED RIGHT-POINTING ANGLE
2E17 caUBLE OBLIQUE HYPHENaaINVERTED INTERROBANGaaPALM BRANCHaaHYPHEN WITH DIAERESIS
2E1B aaTILDE WITH RING ABOVEaaLEFT LOW PARAPHRASE BRACKETayRIGHaaTILDE WITH DOT ABOVEpaBELOW
2E20 aaLEFT VERTICAL BAR WITH QUILLazRIGHaaTOP LEFT HALF BRACKETeoRIGHaoBOTTOM LEFhoRIGH
2E26 aiLEFT SIDEWAYS UauRIGHaaLEFT DOUBLE PARENTHESISauRIGHaaTWO DOTS OVER ONE DOT PUNCTUATION
2E2B amONE DOT OVER TWO DOTSamSQUARED FOUR DOTaaFIVE DOT MARKafREVERSED QUESTIONaaVERTICAL TILDE
2E30 aaRING POINTabWORD SEPARATOR MIDDLE DOaaTURNED COMMAaaRAISED DOThaCOMMAaaTURNED SEMICOLON
2E36 aaDAGGER WITH LEFT GUARDmhRIGHaaTURNED DAGGERbaOP HALF SECTION SIGNbaWO-EM DASHbiHREE
2E3C aaSTENOGRAPHIC FULL STOPaaVERTICAL SIX DOTSaaWIGGLY VERTICAL LINEaaCAPITULUMaaDOUBLE HYPHEN
2E41 aaREVERSED COMMAaaDOUBLE LOW-REVERSED-9 QUOTATION MARKbaASH WITH LEFT UPTURN
2E44 baOUBLE SUSPENSION MARKaaINVERTED LOW KAVYKAta WITH KAVYKA ABOVEaaLOW KAVYKAka WITH DOT
2E49 aaDOUBLE STACKED COMMAcaTTED SOLIDUSaaTRIPLE DAGGERaaMEDIEVAL COMMAaaPARAGRAPHUS MARK
2E4E bhUNCTUS ELEVATaaCORNISH VERSE DIVIDERbbROSS PATTY WITH RIGHT CROSSBArkLEF
2E52 aaTIRONIAN SIGN CAPITAL ETaaMEDIEVAL EXCLAMATION MARKjjQUESaaLEFT SQUARE BRACKET WITH STROKE
2E56 a+cRIGHahLEFT SQUARE BRACKET WITH DOUBLEa+jRIGHaaTOP HALF LEFT PARENTHESISjnRIGH
2E5B anBOTTOM HALF LEFmnRIGHaaOBLIQUE HYPHEN
2E80 aaCJK RADICAL REPEATmaCLIFFmaSECOND ONEtaTWOuaHREEmaPERSONmaBOXmaTABLEmbKNIFE ONsaTWO
2E8A maDIVINATIONmaSEALnaMALL ONEsaTWOmaLAME ONEraTWOsaHREEraFOURmaSNAKEmaTHREADmaSNOUT ONEsaTWO
2E96 maHEART ONEsaTWOnaANDmaRAP
2E9B maCHOKEmaSUNmbMOOmaDEATHmaMOTHERmaCIVILIANmaWATER ONEsaTWOmaFIREmbPAW ONqaTWO
2EA6 maSIMPLIFIED HALF TREE TRUNKmaCOWmaDOGmaJADEmaBOLT OF CLOTHmaEYEmbSPIRIT ONtaTWOmbBAMBOmaSILK
2EB0 meC-SIMPLIFIED maNET ONEqaTWOraHREEqaFOURmaMESHmaSHEEPmaRAMmaEWEmaOLDmaBRUSH ONEsaTWOmaMEAT
2EBD naORTARmaGRASS ONEsaTWOtaHREEmaTIGERmaCLOTHESmaWEST ONEraTWOmaC-SIMPLIFIED SEE
2EC6 maSIMPLIFIED HORNmemaC-SIMPLIFIED SPEECH+aaHELLmaFOOTmbC-SIMPLIFIED CARmaSIMPLIFIED WALK
2ECD maWALK ONEraTWOmaCITYna-SIMPLIFIED GOLDmaLONG ONEraTWOmaC-SIMPLIFIED LONGzaGATEmbMOUND ON
2ED6 saTWOmaRAINmaBLUEmaC-SIMPLIFIED TANNED LEATHERzaLEAFzaWINDzaFLYmaEAT ONEqaTWOraHREE
2EE0 maC-SIMPLIFIED EATmaHEADmaC-SIMPLIFIED HORSEmbBONmaGHOSTmaC-SIMPLIFIED FISHzaBIRDzaSALT
2EE8 mbSIMPLIFIED WHEAxaYELLOWmaC-SIMPLIFIED FROGmaJ-SIMPLIFIED EVENmqCmaJ-SIMPLIFIED TOOTHmrC
2EEF maJ-SIMPLIFIED DRAGONmsCmaTURTLEmgJ-SIMPLIFIED msC
2F00 abKANGXI RADICAL ONpcLIpaDOTpaSLASHqaECONDpaHOOKpaTWOpaLIDpaMANpaLEGSpaENTERqaIGHTpaDOWN BOX
2F0D paCOVERpaICEpbTABLpaOPEN BOXpaKNIFEpaPOWERpaWRAPpaSPOONpaRIGHT OPEN BOXpaHIDING ENCLOSURE
2F17 paTENpbDIVINATIOpaSEALpaCLIFFpaPRIVATEpaAGAINpaMOUTHpaENCLOSUREqaARTHpaSCHOLARpaGOra SLOWLY
2F23 paEVENINGpbBIpaWOMANpaCHILDpaROOFpaINCHpaSMALLpaLAMEpbCORPSpaSPROUTpaMOUNTAINpaRIVERpaWORK
2F30 paONESELFpaTURBANpaDRYpaSHORT THREADpaDOTTED CLIFFpaLONG STRIDEpaTWO HANDSpaSHOOTpaBOWpaSNOUT
2F3A paBRISTLEpaSTEPpaHEARTqaALBERDpaDOORpaHANDpaBRANCHpaRAPpaSCRIPTpaDIPPERpaAXEpbSQUARpaNOTpaSUN
2F48 qaAYpaMOONpaTREEpaLACKpaSTOPpaDEATHpaWEAPONpaDO NOTpaCOMPAREpaFURpaCLANpaSTEAMpaWATERpaFIRE
2F56 paCLAWpaFATHERpaDOUBLE XpaHALF TREE TRUNKpaSLICEpaFANGpaCOWpaDOGpaPROFOUNDpaJADEpaMELONpaTILE
2F62 paSWEETpaLIFEpbUSpaFIELDpaBOLT OF CLOTHpaSICKNESSpaDOTTED TENTpaWHITEpaSKINpaDISHpaEYEpaSPEAR
2F6E paARROWpaSTONEqaPIRITpaTRACKpaGRAINpaCAVEpaSTANDpaBAMBOOpaRICEpaSILKpaJARpaNETpaSHEEP
2F7B paFEATHERpaOLDpbANpaPLOWpaEARpaBRUSHpaMEATqaINISTERpaSELFpaARRIVEpaMORTARpaTONGUEpbOPPOS
2F88 paBOATpaSTOPPINGpaCOLORpaGRASSpaTIGERpaINSECTpaBLOODpaWALK ENCLOSUREpaCLOTHESpaWESTpaSEE
2F93 paHORNpaSPEECHpaVALLEYpaBEANpaPIGpaBADGERpaSHELLpaREDqaUNpaFOOTpaBODYpaCARTpaBITTERpaMORNING
2FA1 paWALKpaCITYpaWINEpaDISTINGUISHpaVILLAGEpaGOLDpaLONGpaGATEpaMOUNDpaSLAVEqaHORT TAILED BIRD
2FAC paRAINpaBLUEpaWRONGpaFACEpaLEATHERphTANNED paLEEKpaSOUNDpaLEAFpaWINDpaFLYpaEATpaHEAD
2FB9 paFRAGRANTpaHORSEpbBONpaTALLpaHAIRpaFIGHTpaSACRIFICIAL WINEpaCAULDRONpaGHOSTpaFISHpaBIRD
2FC4 paSALTpaDEERpaWHEATpaHEMPpaYELLOWpaMILLETpaBLACKpaEMBROIDERYpaFROGpaTRIPODpaDRUMpaRATpaNOSE
2FD1 paEVENpaTOOTHpaDRAGONpaTURTLEpbFLUT
2FF0 aaIDEOGRAPHIC DESCRIPTION CHARACTER LEFT TO RIGHT+iaABOVE TO BELOW+iaLEFT TO MIDDLE AND RIGHT
2FF3 +iaABOVE TO MIDDLE AND BELOW+iaFULL SURROUND+iaSURROUND FROM ABOVE+waBELOW+waLEFT+weUPPER 
2FF9 ++cbRIGH+wbLOWER LEF+iaOVERLAID
3000 maSPACEmaCOMMAmaFULL STOPaaDITTO MARKaaJAPANESE INDUSTRIAL STANDARD SYMBOL
3005 aaIDEOGRAPHIC ITERATION MARKmfCLOSINGmaNUMBER ZEROaaLEFT ANGLE BRACKETapRIGHaoLEFT DOUBLE
300B awRIGHaiLEFT CORNERaqRIGHapLEFT WHITEawRIGHajLEFT BLACK LENTICULAa+aRIGHaaPOSTAL MARKafGETA
3014 aaLEFT TORTOISE SHELL BRACKETayRIGHaiLEFT WHITE LENTICULARa+aRIGHaiLEFT WHITE TORTOISE SHELL
3019 a+eRIGHaiLEFT WHITE SQUAREawRIGHaaWAVE DASHaaREVERSED DOUBLE PRIME QUOTATION MARKa+ba+bLOW 
3020 aaPOSTAL MARK FACEabHANGZHOU NUMERAL ONraTWOsaHREEraFOURsaIVEraSIXsaEVENraEIGHTraNINE
302A aaIDEOGRAPHIC LEVEL TONE MARKmkRISINGmnDEPARTmnENTERakHANGUL SINGLE DOThqDOUBaaWAVY DASH
3031 aaVERTICAL KANA REPEAT MARKveWITH VOICED SOUND vaMARK UPPER HALFvpWITH VOICED SOUND 
3035 vhMARK LOWaaCIRCLED POSTAL MARKaaIDEOGRAPHIC TELEGRAPH LINE FEED SEPARATOR SYMBOL
3038 aaHANGZHOU NUMERAL TENsaWENTYscHIRaaVERTICAL IDEOGRAPHIC ITERATION MARKafMASU
303D afPART ALTERNATIONaaIDEOGRAPHIC VARIATION INDICATORmaHALF FILL SPACE
3041 aaHIRAGANA LETTER SMALL AqbqaSMALL IqbqaSMALL UqbqaSMALL EqbqaSMALL OqbqaKAqbGqaKIqbGqaKUqbG
3051 qaKEqbGqaKOqbGqaSAqbZqaSIqbZqaSUqbZqaSEqbZqaSOqbZqaTAqbDqaTIqbDqaSMALL TUqcqbDqaTEqbDqaTOqbD
306A qaNAraIraUraEraOqaHAqbBqbPqaHIqbBqbPqaHUqbBqbPqaHEqbBqbPqaHOqbBqbPqaMAraIraUraEraOqaSMALL YA
3084 qcqaSMALL YUqcqaSMALL YOqcqaRAraIraUraEraOqaSMALL WAqcraIraEraOqaNqaVUqaSMALL KAxaE
3099 aaCOMBINING KATAKANA-HIRAGANA VOICED SOUND MARK+crSEMI-arKATAKANA-HIRAGANA srSEMI-
309D afHIRAGANA ITERATIONjoVOICED jaDIGRAPH YORIaaKATAKANA-HIRAGANA DOUBLE HYPHENia LETTER SMALL A
30A2 qbqaSMALL IqbqaSMALL UqbqaSMALL EqbqaSMALL OqbqaKAqbGqaKIqbGqaKUqbGqaKEqbGqaKOqbGqaSAqbZqaSI
30B8 qbZqaSUqbZqaSEqbZqaSOqbZqaTAqbDqaTIqbDqaSMALL TUqcqbDqaTEqbDqaTOqbDqaNAraIraUraEraOqaHAqbBqbP
30D2 qaHIqbBqbPqaHUqbBqbPqaHEqbBqbPqaHOqbBqbPqaMAraIraUraEraOqaSMALL YAqcqaSMALL YUqcqaSMALL YOqc
30E9 qaRAraIraUraEraOqaSMALL WAqcraIraEraOqaNqaVUqaSMALL KAxaEqaVAraIraEraOjaMIDDLE DOT
30FC ia-HIRAGANA PROLONGED SOUND MARKif ITERATIONjoVOICED jaDIGRAPH KOTO
3105 aaBOPOMOFO LETTER BqaPqaMqaFqaDqaTqaNqaLqaGqaKqaHqaJqaQqaXqaZHqbCqbSqaRqaZqaCqaSqaAqaOqaEraH
311E qaAIqbEqaAUqbOqaANqbEqaANGqcEraRqaIqaUqbIqaVqaNGqaGNqaIHqaO WITH DOT ABOVEqaNN
3131 aaHANGUL LETTER KIYEOKogSSANGoaKIYEOK-SIOSoaNIEUNta-CIEUCuaHIEUHoaTIKEUTogSSANGoaRIEUL
313A ta-KIYEOKuaMIEUMuaPIEUPuaSIOSuaTHIEUTHubPHIEUPubHIEUoaMIEUMoaPIEUPofSSANGoaPIEUP-SIOSoe
3146 pdSANGSoaIEUNGoaCIEUCofSSANGoaCHIEUCHobKHIEUKobTHIEUTobPHIEUPobHIEUoaApaEoaYAqaEoaEOpaoaYEOqa
3157 oaOoaWAqaEobOoaYOoaUoaWEOqapaIoaYUobEoaYIobhaFILLERhaLETTER SSANGNIEUNoaNIEUN-TIKEUTuaSIOS
3168 uePANoeRIEUL-KIYEOK-uaTIKEUTuaPIEUP-SIOSveANuaYEORINHIEUHoaMIEUM-PIEUPuaSIOSuePAN
3171 oaKAPYEOUNMIEUMoaPIEUP-KIYEOKuaTIKEUTuaSIOS-KIYEOKzaTIKEUTuaCIEUCuaTHIEUTHoaKAPYEOUNPIEUP
3179 wfSSANGoaSIOS-KIYEOKtaNIEUNtaTIKEUTtaPIEUPtaCIEUCoaPANSIOSoaSSANGIEUNGofYESwa-SIOSxePAN
3184 oaKAPYEOUNPHIEUPHobSSANGHIEUofYEORINpaO-YAtaEraIpaU-YEOtaraIoaARAEAtaE
3190 aaIDEOGRAPHIC ANNOTATION LINKING MARKxfREVERSExgONxfTWOyfHREExfFOURxfTOPxfMIDDLExfBOTTOM
3199 xfFIRSTxfSECONDxgTHIRxfFOURTHxfHEAVENxfEARTHxfMANaaBOPOMOFO LETTER BUqaZIqbJqaGUqaEEraNNqaOO
31A7 raNNqaIRqaANNqcIqcUqaIMqaNGGqaAINNrcUraMqbOraNGqaINNNjaFINAL LETTER PwaTwaKwaHjbLETTER GqbL
31BA qaZYjaFINAL LETTER GjaLETTER GWqbKqaOEqaAHaaCJK STROKE TlaWGlbXlcBlaSWlaHZZnaGmaPmaZWGldS
31CA laHZTnaZPmaPWGmaZWnaZZlaNlaHlaSlaPlbSlaDlaHZmaGlaSZmbWmaTmaGlaPDmaZlaTNlaSZZmaWGlcHXmbZZZlbP
31E3 laQ
31F0 aaKATAKANA LETTER SMALL KUwaSIxaUwaTOwaNUwaHAxaIxaUxaExaOwaMUwaRAxaIxaUxaExaO
3200 aaPARENTHESIZED HANGUL KIYEOKvaNIEUNvaTIKEUTvaRIEULvaMIEUMvaPIEUPvaSIOSvaIEUNGvaCIEUCwaHIEUCH
320A vbKHIEUKvbTHIEUTvbPHIEUPvbHIEUvaKIYEOK AvcNIEUNvcTIKEUTvcRIEULvcMIEUMvcPIEUPvcSIOSvcIEUNG
3216 vcCIEUCwcHIEUCHvdKHIEUKvdTHIEUTvdPHIEUPvdHIEUvaCIEUC UoaKOREAN CHARACTER OJEON+ga HU
3220 oaIDEOGRAPH ONEyaTWOzaHREEyaFOURzaIVEyaSIXzaEVENyaEIGHTyaNINEyaTENybMOOyaFIREyaWATERzaOOD
322E yaMETALyaEARTHyaSUNzaTOCKyaHAVEyaSOCIETYyaNAMEyaSPECIALyeFINANyaCONGRATULATIONyaLABOR
3239 yaREPRESENTyaCALLyaSTUDYzaUPERVISEydENTERPRybRESOURCycALLIANyaFESTIVALyaRESTyaSELFyaREACH
3244 aaCIRCLED IDEOGRAPH QUESTIONsbKINDERGARTEsaSCHOOLsaKOTOiaNUMBER TEN ON BLACK SQUAREqqWENTY
324A qsHIRptFOqsIFpsSIXqsEVENpsEIGHaaPARTNERSHIP SIGNaaCIRCLED NUMBER TWENTY ONEwaTWOxaHREEwaFOUR
3255 xaIVEwaSIXxaEVENwaEIGHTwaNINEqaHIRTYva ONEwaTWOxaHREEwaFOURxaIVEiaHANGUL KIYEOKpaNIEUN
3262 paTIKEUTpaRIEULpaMIEUMpaPIEUPpaSIOSpaIEUNGpaCIEUCqaHIEUCHpbKHIEUKpbTHIEUTpbPHIEUPpbHIEU
326E paKIYEOK ApcNIEUNpcTIKEUTpcRIEULpcMIEUMpcPIEUPpcSIOSpcIEUNGpcCIEUCqcHIEUCHpdKHIEUKpdTHIEUT
327A pdPHIEUPpdHIEUiaKOREAN CHARACTER CHAMKOzaJUEUIiaHANGUL IEUNG UaaKOREAN STANDARD SYMBOL
3280 aaCIRCLED IDEOGRAPH ONEsaTWOtaHREEsaFOURtaIVEsaSIXtaEVENsaEIGHTsaNINEsaTENsbMOOsaFIREsaWATER
328D taOODsaMETALsaEARTHsaSUNtaTOCKsaHAVEsaSOCIETYsaNAMEsaSPECIALseFINANsaCONGRATULATIONsaLABOR
3299 saSECRETsaMALEseFEscSUITABsaEXCELLENTscPRIsaATTENTIONsaITEMsaRESTsaCOPYuaRRECTsaHIGHsaCENTRE
32A6 saLOWtaEFTsbRIGHsaMEDICINEsaRELIGIONsaSTUDYtaUPERVISEsdENTERPRsbRESOURCscALLIANsaNIGHT
32B1 iaNUMBER THIRTY SIXxaEVENwaEIGHTwaNINEpaFORTYua ONEvaTWOwaHREEvaFOURwaIVEvaSIXwaEVENvaEIGHT
32BE vaNINEqaIFTYabIDEOGRAPHIC TELEGRAPH SYMBOL FOR JANUAR+heFEBR+haMARCH+haAPRIL+haMAY+haJUNE
32C6 +jaLY+haAUGUST+haSEPTEMBER+hdOCTO+hdNOVEM+hfDECaaSQUARE HGhbERiaVaaLIMITED LIABILITY SIGN
32D0 aaCIRCLED KATAKANA AraIraUraEraOraKAsaIsaUsaEsaOraSAsaIsaUsaEsaOraTAsaIsaUsaEsaOraNAsaIsaUsaE
32E8 saOraHAsaIsaUsaEsaOraMAsaIsaUsaEsaOraYAsaUsaOraRAsaIsaUsaEsaOraWAsaIsaEsaO
32FF aaSQUARE ERA NAME REIWAhaAPAATOiaRUHUAibNPEiaARUhbININGjaTIhaUONhaESUKUUDOiaEKAAhaONSUibOM
330B haKAIRIjaRATTOkaORIIhaGARONjaNMAibIGjaNIIhcKYURhaGIRUDAAhaKIROlaGURAMUlbMEETORlaWATTOhaGURAMU
3319 naTONhaKURUZEIROkaOONEiaEESUiaORUNAjaOPOhaSAIKURUjbNTIIMibIRINGiaENTIlaOhaDAASUiaESIiaORU
3327 haTONhaNANOibOTThaHAITUhaPAASENTOkaTUhbBAARERhcPIASUTOjcKUkaOhaBIRUhaHUARADDOjbIIThaBUSSYERU
3335 haHURANiaEKUTAARUhaPESOjaNIHIhaHERUTUhbPENSjaEZIhaBEETAhaPOINTOhcBORUhaHONhaPONDOhaHOORUkaN
3343 haMAIKUROkaRUjaHHAjaRUKUjaNSYONicIKURjaRIlaBAARUiaEGAlaTONjaETORUhaYAADOkaRUiaUANhaRITTORU
3352 jaRAiaUPIIjaUBURUibEMjaNTOGENhaWATTOabIDEOGRAPHIC TELEGRAPH SYMBOL FOR HOUR ZER+maONE+maTWO
335B +naHREE+maFOUR+naIVE+maSIX+naEVEN+maEIGHT+maNINE+maTEN+mcELEV+maTWELVE+naHIRTEEN+mfFOU+neIF
3368 +meSIX+neEVEN+meEIGH+meNINE+maTWENTY+sa-ONE+taTWO+uaHREE+taFOURaaSQUARE HPAhbDhaAUhaBARhaOV
3376 haPChaDMja SQUAREDkcCUBhaIUhaERA NAME HEISEIqaSYOUWAqaTAISYOUqaMEIZIhaCORPORATIONhaPA AMPS
3381 haNAhbMU ibhbKiaBhbMhbGhaCALhdKhaPFhbNhbMU kaGibhbKhaHZhcKhcMhcGhcThaMU LibhbDhbKhaFMhbNhbMU 
339C ibhbChbKhaMM SQUAREDhjChjhjKhcMM CUBhhChhhhKhaM OVER Spa SQUAREDhaPAhcKhcMhcGhaRADka OVER S
33AF ra SQUAREDhaPShbNhbMU ibhaPVhbNhbMU ibhbKhaMV MEGAhaPWhbNhbMU ibhbKhaMW MEGAhaK OHMheMhbAhaBQ
33C4 haCCiaDia OVER KGiaOhaDBhaGYhaHAiaPhaINhaKKiaM CAPITALiaThaLMiaNiaOGiaXhaMB SMALLibIibOhaPH
33D8 iaMibPiaRhbSiaVhaWBhaV OVER MhhAaaIDEOGRAPHIC TELEGRAPH SYMBOL FOR DAY ONE+laTWO+maHREE
33E3 +laFOUR+maIVE+laSIX+maEVEN+laEIGHT+laNINE+laTEN+lcELEV+laTWELVE+maHIRTEEN+lfFOU+meIF+leSIX
33F0 +meEVEN+leEIGH+leNINE+laTWENTY+ra-ONE+saTWO+taHREE+saFOUR+taIVE+saSIX+taEVEN+saEIGHT+saNINE
33FD +maHIRTY+ra-ONEaaSQUARE GAL
4DC0 aaHEXAGRAM FOR THE CREATIVE HEAVENraRECEPTIVE EARTHnaDIFFICULTY AT THE BEGINNING
4DC3 naYOUTHFUL FOLLYnaWAITINGnaCONFLICTnaTHE ARMYnaHOLDING TOGETHERnaSMALL TAMINGndTREADnaPEACE
4DCB naSTANDSTILLnaFELLOWSHIPnaGREAT POSSESSIONnaMODESTYnaENTHUSIASMnaFOLLOWING
4DD1 naWORK ON THE DECAYEDnaAPPROACHnaCONTEMPLATIONnaBITING THROUGHnaGRACEnaSPLITTING APART
4DD7 naRETURNnaINNOCENCEnaGREAT TAMINGnaMOUTH CORNERSnaGREAT PREPONDERANCEnaTHE ABYSMAL WATER
4DDD raCLINGING FIREnbINFLUENCnaDURATIONnaRETREATnaGREAT POWERnaPROGRESSnaDARKENING OF THE LIGHT
4DE4 naTHE FAMILYnaOPPOSITIONoeBSTRUCnaDELIVERANCEpbCREASngINnaBREAKTHROUGHnaCOMING TO MEET
4DEC naGATHERING TOGETHERnaPUSHING UPWARDnaOPPRESSIONnaTHE WELLnaREVOLUTIONncTHE CAULDR
4DF2 raAROUSING THUNDERraKEEPING STILL MOUNTAINnaDEVELOPMENTnaTHE MARRYING MAIDENnaABUNDANCE
4DF7 naTHE WANDERERraGENTLE WINDraJOYOUS LAKEnaDISPERSIONndLIMITATnaINNER TRUTH
4DFD naSMALL PREPONDERANCEnaAFTER COMPLETIONnlBEFORE
A000 aaYI SYLLABLE ITnaXnanaPnaEToaXoaoaPmaATnaXnanaPmaUOXoaoaPmaOTnaXnanaPmaEXnamaWUmaBIToaXoaoaP
A01A oaETpaXpapaPnaAToaXoaoaPnaUOXpapaPnaOToaXoaoaPnaEXoaoaPnaUToaXoaoaPoaRXpanaYToaXoaoaPoaRXpa
A038 maPIToaXoaoaPoaEXpapaPnaAToaXoaoaPnaUOXpapaPnaOToaXoaoaPnaUToaXoaoaPoaRXpanaYToaXoaoaPoaRXpa
A056 maBBITpaXpapaPpaETqaXqaqaPoaATpaXpapaPoaUOXqaqaPoaOTpaXpapaPoaEXpapaPoaUTpaXpapaPpaRXqaoaYT
A073 paXpapaPmaNBITpaXpapaPpaEXqaqaPoaATpaXpapaPoaOTpaXpapaPoaUTpaXpapaPpaRXqaoaYTpaXpapaPpaRXqa
A091 maHMITpaXpapaPpaEXqaqaPoaATpaXpapaPoaUOXqaqaPoaOTpaXpapaPoaUTpaXpapaPpaRXqaoaYXpapaPpaRXqa
A0AE maMIToaXoaoaPoaEXpapaPnaAToaXoaoaPnaUOTpaXpapaPnaOToaXoaoaPnaEXoanaUToaXoaoaPoaRXpanaYToaXoa
A0CC oaPmaFIToaXoaoaPnaAToaXoaoaPnaOXoaoaPnaUToaXoaoaPoaRXpanaYToaXoaoaPmaVIToaXoaoaPoaETpaXpapaP
A0EA naAToaXoaoaPnaOToaXoaoaPnaEXoaPnaUToaXoaoaPoaRXpanaYToaXoaoaPoaRXpamaDIToaXoaoaPoaEXpapaPnaAT
A108 oaXoaoaPnaUOXpanaOToaXoaoaPnaEXoaoaPnaUToaXoaoaPoaRXpamaTIToaXoaoaPoaEXpapaPnaAToaXoaoaPnaUOT
A126 paXpapaPnaOToaXoaoaPnaEXoaoaPnaUToaXoaoaPoaRXpamaDDITpaXpapaPpaEXqaqaPoaATpaXpapaPoaUOXqaqaP
A144 oaOTpaXpapaPoaEXpapaPoaUTpaXpapaPpaRXqamaNDITpaXpapaPpaEXqaoaATpaXpapaPoaOTpaXpapaPoaEXpapaP
A162 oaUTpaXpapaPpaRXqamaHNITpaXpapaPpaETqaXqaqaPoaATpaXpapaPoaUOXqaoaOTpaXpaPoaEXpapaPoaUTmbNIoaX
A17F oaoaPoaEXpapaPnaAXoaoaPnaUOXpapaPnaOToaXoaoaPnaEXoaoaPnaUToaXoaoaPoaRXpamaHLITpaXpapaPpaEXqa
A19D qaPoaATpaXpapaPoaUOXqaqaPoaOXpapaPoaEXpapaPoaUTpaXpapaPpaRXqaoaYTpaXpapaPpaRXqamaLIToaXoaoaP
A1BB oaETpaXpapaPnaAToaXoaoaPnaUOTpaXpapaPnaOToaXoaoaPnaEXoaoaPnaUToaXoaoaPoaRXpanaYToaXoaoaPoaRX
A1D9 pamaGIToaXoaoaPoaETpaXpapaPnaAToaXoaoaPnaUOTpaXpapaPnaOToaXoaoaPnaEToaXoaoaPnaUToaXoaoaPoaRX
A1F7 pamaKIToaXoaoaPoaEXpapaPnaAToaXoaoaPnaUOXpapaPnaOToaXoaoaPnaEToaXoaoaPnaUToaXoaoaPoaRXpa
A214 maGGITpaXpapaEXqaqaPoaATpaXpapaPoaUOTqaXqaqaPoaOTpaXpapaPoaETpaXpapaPoaUTpaXpapaPpaRXqa
A230 maMGIEXqaoaATpaXpapaPoaUOXqaqaPoaOTpaXpapaPoaEXpapaPoaUTpaXpapaPpaRXqamaHXITpaXpapaPpaETqaXqa
A24D qaPoaATpaXpapaPoaUOTqaXqaqaPoaOTpaXpapaPoaEXpapaPmaNGIEXqaqaPoaATpaXpapaPoaUOTqaXqaoaOTpaXpa
A26A paPoaEXpapaPmaHIToaEXpanaAToaXoaoaPnaUOTpaXpapaPnaOToaXoaoaPnaEXoaoaPmaWAToaXoaoaPnaUOXpapaP
A287 naOXoaoaPnaEXoaoaPmaZIToaXoaoaPoaEXpapaPnaAToaXoaoaPnaUOXpapaPnaOToaXoaoaPnaEXoaoaPnaUToaXoa
A2A5 oaPoaRXpanaYToaXoaoaPoaRXpamaCIToaXoaoaPoaETpaXpapaPnaAToaXoaoaPnaUOXpapaPnaOToaXoaoaPnaEXoa
A2C3 oaPnaUToaXoaoaPoaRXpanaYToaXoaoaPoaRXpamaZZITpaXpapaPpaETqaXqaqaPoaATpaXpapaPoaOXpapaPoaEXpa
A2E1 paPoaUXpapaPpaRXqaoaYTpaXpapaPpaRXqamaNZITpaXpapaPpaEXqaqaPoaATpaXpapaPoaUOXqaoaOXpaPoaEXpa
A2FE oaUXpapaPpaRXqaoaYTpaXpapaPpaRXqamaSIToaXoaoaPoaEXpapaPnaAToaXoaoaPnaUOXpapaPnaOToaXoaoaPnaEX
A31C oaoaPnaUToaXoaoaPoaRXpanaYToaXoaoaPoaRXpanaSITpaXpapaPpaEXqaqaPoaATpaXpapaPoaOTpaXpapaPoaEXpa
A33B paPoaUTpaXpapaPoaYTpaXpapaPpaRXqamaZHATpaXpapaPoaUOXqaqaPoaOTpaXpapaPoaETpaXpapaPoaUTpaXpapaP
A359 paRXqaoaYTpaXpapaPpaRXqamaCHATpaXpapaPoaUOTqaXqaqaPoaOTpaXpapaPoaETpaXpapaPoaUXpapaPpaRXqa
A376 oaYTpaXpapaPpaRXqamaRRAXpaoaUOXqaoaOTpaXpapaPoaETpaXpapaPoaUTpaXpapaPpaRXqaoaYTpaXpapaPpaRXqa
A394 maNRATpaXpapaPoaOXpapaPoaETpaXpapaPoaUTpaXpapaPpaRXqaoaYTpaXpapaPpaRXqamaSHATpaXpapaPoaUOXqa
A3B1 qaPoaOTpaXpapaPoaETpaXpapaPoaUTpaXpapaPpaRXqaoaYTpaXpapaPpaRXqamaRAToaXoaoaPnaUOXpapaPnaOToaX
A3CF oaoaPnaEXoaoaPnaUToaXoaoaPoaRXpanaYToaXoaoaPoaRXpamaJIToaXoaoaPoaETpaXpapaPnaUOTpaXpapaPnaOT
A3ED oaXoaoaPnaUToaXoaoaPoaRXpanaYToaXoaoaPoaRXpamaQIToaXoaoaPoaETpaXpapaPnaUOTpaXpapaPnaOToaXoa
A40B oaPnaUToaXoaoaPoaRXpanaYToaXoaoaPoaRXpamaJJITpaXpapaPpaETqaXqaqaPoaUOXqaqaPoaOTpaXpapaPoaUT
A428 paXpapaPpaRXqaoaYTpaXpapaPmaNJITpaXpapaPpaETqaXqaqaPoaUOXqaoaOTpaXpapaPoaUXpapaPpaRXqaoaYTpaX
A446 papaPpaRXqanaYITpaXpapaPpaETqaXqaqaPoaUOXqaqaPoaOTpaXpapaPoaUTpaXpapaPmaXIToaXoaoaPoaETpaXpa
A464 paPnaUOXpanaOToaXoaoaPnaYToaXoaoaPoaRXpamaYIToaXoaoaPoaETpaXpapaPnaUOTpaXpapaPnaOToaXoaoaP
A481 naUToaXoaoaPoaRXpanaYToaXoaoaPoaRXpa
A490 daRADICAL QOTlaLIlaKITlaNYIPlbCYlaSSIlaGGOPmbElaMIlaHXITlaLYRlaBBUTlaMOPlaYOlaPUTlaHXUOlaTAT
A4A1 laGAlaZUPlaCYTlaDDURlcBlaGGUOlaNYOPlaTUlaOPlaJJUTlbZOlbPYlaHMOlaYITlaVURlaSHYlaVEPlaZAlaJO
A4B4 laNZUPlaJJYlaGOTlaJJIElaWOlaDUlaSHURlaLIElaCYmaUOPmbIlbHXOlaSHATlaZURlaSHOPlaCHElaZZIETlaNBIE
A4C6 lbK
A4D0 aaLISU LETTER BAmbPnbHmbDmbTnbHmbGmbKnbHmbJmbCnbHmbDZmbTSobHmbMmbNmbLmbSmbZHnbmbNGmbHmbXmbHH
A4E9 mbFmbWmbSHmbYmbGHmbnaEmbnaUmaImaOmaUnaEnaHmaOEmaTONE MYA TIraNA POraMYA CYAvaBOvaNAvaJEU
A4FE faPUNCTUATION COMMAraFULL STOPaaVAI SYLLABLE EEpaNnaHEEncWqaNnaPEEncBHocndMncKPncMGBnencFncV
A50E ncTocHndDpcHncLncRncDndNncSocHncZocHncCncJndNncYncKncNGGndncMncNocYnaIoaNnaHIpaNnaWIpaNnaPI
A52B nbBHobncMnbKPnbMGBndnbFnbVnbTobHncDpbHnbLnbRnbDncNnbSobHnbZobHnbCnbJncNnbYnbKnbNGGncnbMnbNobY
A549 naAoaNncNGnaHApaNnaWApaNnaPAnbBHobncMnbKPqaNnaMGBAndnbFnbVnbTobHncDpbHnbLnbRnbDncNnbSobHnbZ
A565 obHnbCnbJncNnbYnbKpaNnaNGGAncnbMnbNobYnaOOpaNnaHOOncWqaNnaPOOncBHocndMncKPncMGBnencFncVncTocH
A581 ndDpcHncLncRncDndNncSocHncZocHncCncJndNncYncKncNGGndncMncNocYnaUoaNnaHUpaNnaWUpaNnaPUnbBHob
A59E ncMnbKPnbMGBndnbFnbVnbTobHncDpbHnbLnbRnbDncNnbSobHnbZobHnbCnbJncNnbYnbKnbNGGncnbMnbNobYnaOoaN
A5BC ncNGnaHOpaNnaWOpaNnaPOnbBHobncMnbKPnbMGBndqaNnaFOnbVnbTobHncDpbHnbLnbRnbDncNnbSobHnbZobHnbC
A5D8 nbJncNnbYnbKnbNGGncnbMnbNobYnaEoaNncNGnaHEpaNnaWEpaNnaPEnbBHobncMnbKPqaNnaMGBEndqaNnaFEnbVnbT
A5F4 obHncDpbHnbLnbRnbDncNnbSobHnbZobHnbCnbJncNnbYnbKnbNGGraNnaGEpaNnaMEnbNobYoaGnaLENGTHENER
A60D eaCOMMAeaFULL STOPeaQUESTION MARKeaSYLLABLE NDOLE FAtbKtaSOOgaMBOL FEENGleKlcTIlaNIIlaBANG
A618 laFAAlcTlaDANGmcOOlcKUlcTOlaDO-OlaJONGeaDIGIT ZEROkaONEkaTWOlaHREEkaFOURlaIVEkaSIXlaEVEN
A628 kaEIGHTkaNINEeaSYLLABLE NDOLE MAtaDO
A640 aaCYRILLIC CAPITAL LETTER ZEMLYAjpSMALjaCAPITAL LETTER DZELOjoSMAL
A644 jaCAPITAL LETTER REVERSED DZEjvSMALjaCAPITAL LETTER IOTAjnSMALjaCAPITAL LETTER DJERVjoSMAL
A64A jaCAPITAL LETTER MONOGRAPH UKjvSMALjaCAPITAL LETTER BROAD OMEGAjuSMAL
A64E jaCAPITAL LETTER NEUTRAL YERjuSMALjeCAPITAL LETTER YERU WITH BACKj+bSMAL
A652 jaCAPITAL LETTER IOTIFIED YATjvSMALjaCAPITAL LETTER REVERSED YUjuSMAL
A656 jaCAPITAL LETTER IOTIFIED AjtSMALjaCAPITAL LETTER CLOSED LITTLE YUSj+aSMAL
A65A jeCAPITAL LETTER BLENDEDjuSMALjeCAPITAL LETTER IOTIFIED CLOSED LITTLEj+jSMAL
A65E jaCAPITAL LETTER YNjlSMALjaCAPITAL LETTER REVERSED TSEjvSMALjbCAPITAL LETTER SOFT DjqSMAL
A664 jaCAPITAL LETTER SOFT ELjqSMALjaCAPITAL LETTER SOFT EMjqSMALjaCAPITAL LETTER MONOCULAR O
A669 juSMALjjCAPITAL LETTER BIjuSMALjjCAPITAL LETTER DOUBLE MOj+bSMALjiLETTER MULTI
A66F baOMBINING CYRILLIC VZMETtaTEN MILLIONS SIGNtoHUNDREDtpTHOUSANaaSLAVONIC ASTERISK
A674 aaCOMBINING CYRILLIC LETTER UKRAINIAN IE+aaI+abY+aaU+aaHARD SIGN+aaYERU+aaSOFT SIGN+aaOMEGA
A67C tbKAVYKtaPAYEROKbaYRILLIC KAVYKAjaPAYEROKjaCAPITAL LETTER DWEjmSMALjcCAPITAL LETTER DZjnSMAL
A684 jcCAPITAL LETTER ZHjnSMALjbCAPITAL LETTER CCHjnSMALjbCAPITAL LETTER DZZjnSMAL
A68A jaCAPITAL LETTER TE WITH MIDDLE HOOKj+cSMALjaCAPITAL LETTER TWEjmSMALjcCAPITAL LETTER TS
A68F jnSMALjbCAPITAL LETTER TSSjnSMALjbCAPITAL LETTER TCHjnSMALjbCAPITAL LETTER HWjmSMAL
A696 jdCAPITAL LETTER SjnSMALjaCAPITAL LETTER DOUBLE OjrSMALjcCAPITAL LETTER CROSSEDjsSMAL
A69C aaMODIFIER LETTER CYRILLIC HARD SIGNzfSOFTaaCOMBINING CYRILLIC LETTER EF+aaIOTIFIED E
A6A0 aaBAMUM LETTER AnbKnaUnbKnaEEncRnbTAnaOnaNYInbnaLAnbPnaRIIpaEEncLEEneMnaTAAncNDoaJAEMnbnaSUU
A6B5 nbMnaSHIIoboaHEUXodnaKYEEoaETnaNUAEpaoaJUAEnaYOQnaSHUnaYUQoaAnbNSHnaKEUXndPnaNJEEocTnbPUncW
A6CA nbPEncFnaRUnbLnaMInbNnaREUXoaAEnaKENncNGKWApaGApbnaSHOnaPUAEnaFUoaOMnaWAnbNnaLInbPnaLOQnaKO
A6E0 naMBENncRncMoaAnaTInbKnaMOoaBAAnaTETnaKPAnaTENnaNTUUnaSAMBAnaFAAMAEnaKOVUUpaGHOM
A6F0 gaCOMBINING MARK KOQNDONvaTUKWENTISgaNJAEMLIgaFULL STOPgaCOLONiaMMAgaSEMICOLONgaQUESTION MARK
A700 aaMODIFIER LETTER CHINESE TONE YIN PING+efANG+ecIN SHA+egANG+eaIN QU+edANG+ebIN R+edANG
A708 qaEXTRA-HIGH DOTTED TONE BARquqqMIDqqLOWqtEXTRA-wjHIGH DOTTED LEFT-STEMq+eq+aMIDq+aLOW
A711 q+dEXTRA-wtHIGHqxqtMIDqtLOWqwEXTRA-qeDOT VERTICALuaSLASHuaHORIZONTAL BAR
A71A qaLOWER RIGHT CORNER ANGLEqaRAISED UP ARROWxgDOWNxaEXCLAMATION MARKxqINVERTED q+aLOW
A720 qaSTRESS AND HIGH TONE+bfLOWaaLATIN CAPITAL LETTER EGYPTOLOGICAL ALEFg+bSMAL
A724 gaCAPITAL LETTER EGYPTOLOGICAL AINg+aSMALgaCAPITAL LETTER HENGgnSMALgaCAPITAL LETTER TZglSMAL
A72A gaCAPITAL LETTER TRESILLOgrSMALgeCAPITAL LETTER CUATRgsSMAL
A72E gaCAPITAL LETTER CUATRILLO WITH COMMAg+dSMALgaLETTER SMALL CAPITAL F+baSgaCAPITAL LETTER AA
A733 glSMALgaCAPITAL LETTER AOglSMALgaCAPITAL LETTER AUglSMALgaCAPITAL LETTER AVglSMAL
A73A gaCAPITAL LETTER AV WITH HORIZONTAL BARg+fSMALgaCAPITAL LETTER AYglSMAL
A73E gaCAPITAL LETTER REVERSED C WITH DOTg+cSMALgaCAPITAL LETTER K WITH STROKEgwSMAL
A742 ghCAPITAL LETTER K WITH DIAGONALg+fSMALgqCAPITAL LETTER K WITH STROKE ANDg+qSMAL
A746 gaCAPITAL LETTER BROKEN LgrSMALgaCAPITAL LETTER L WITH HIGH STROKEg+bSMAL
A74A gaCAPITAL LETTER O WITH LONG STROKE OVERLAYg+jSMALgaCAPITAL LETTER O WITH LOOPguSMAL
A74E gaCAPITAL LETTER OOglSMALgaCAPITAL LETTER P WITH STROKE THROUGH DESCENDERg+oSMAL
A752 gaCAPITAL LETTER P WITH FLOURISHgySMALgaCAPITAL LETTER P WITH SQUIRREL TAILg+dSMAL
A756 gaCAPITAL LETTER Q WITH STROKE THROUGH DESCENDERg+oSMAL
A758 gaCAPITAL LETTER Q WITH DIAGONAL STROKEg+fSMALgaCAPITAL LETTER R ROTUNDAgsSMAL
A75C giCAPITAL LETTER RUMguSMALgaCAPITAL LETTER V WITH DIAGONAL STROKEg+fSMALgaCAPITAL LETTER VY
A761 glSMALgaCAPITAL LETTER VISIGOTHIC ZgvSMALgaCAPITAL LETTER THORN WITH STROKEg+aSMAL
A766 gaCAPITAL LETTER THORN WITH STROKE THROUGH DESCENDERg+sSMALgaCAPITAL LETTER VENDgnSMAL
A76A gaCAPITAL LETTER ETglSMALgaCAPITAL LETTER ISglSMALgaCAPITAL LETTER CONgmSMAL
A770 aaMODIFIER LETTER USaaLATIN SMALL LETTER DUMtcLtcMtcNtcRgeLETTER SMALL CAPITAL
A777 gcSMALL LETTER TtcgaCAPITAL LETTER INSULAR DgsSMALgaCAPITAL LETTER INSULAR FgsSMAL
A77D gaCAPITAL LETTER INSULAR GvjTURNED gzSMALgaCAPITAL LETTER TURNED LgrSMAL
A782 gaCAPITAL LETTER INSULAR RgsSMALgaCAPITAL LETTER INSULAR SgsSMALgaCAPITAL LETTER INSULAR T
A787 gsSMALabMODIFIER LETTER LOW CIRCUMFLEX ACCENqaCOLONqbSHORT EQUALS SIG
A78B aaLATIN CAPITAL LETTER SALTILLOgrSMALgaCAPITAL LETTER TURNED H
A78E gaSMALL LETTER L WITH RETROFLEX HOOK AND BELTgbLETTER SINOLOGICAL DO
A790 gaCAPITAL LETTER N WITH DESCENDERgzSMALgbCAPITAL LETTER C WITH BAgtSMAL+aaPALATAL HOOKtsH
A796 gaCAPITAL LETTER B WITH FLOURISHgySMALgaCAPITAL LETTER F WITH STROKEgwSMAL
A79A gbCAPITAL LETTER VOLAPUK AgtSMALgbCAPITAL LETTER VOLAPUK OgtSMALgbCAPITAL LETTER VOLAPUK U
A79F gtSMALgbCAPITAL LETTER G WITH OBLIQUE STROKg+eSMALguCAPITAL LETTER Kg+eSMALguCAPITAL LETTER N
A7A5 g+eSMALguCAPITAL LETTER Rg+eSMALguCAPITAL LETTER Sg+eSMALgaCAPITAL LETTER H WITH HOOK
A7AB vaREVERSED OPEN EvaSCRIPT GvaL WITH BELTvaSMALL CAPITAL IgaLETTER SMALL CAPITAL Q
A7B0 gaCAPITAL LETTER TURNED K+caTvaJ WITH CROSSED-TAILvaCHIvaBETAgnSMALgbCAPITAL LETTER OMEG
A7B7 goSMALgaCAPITAL LETTER U WITH STROKEgwSMALgaCAPITAL LETTER GLOTTAL AgsSMAL
A7BC gaCAPITAL LETTER GLOTTAL IgsSMALgaCAPITAL LETTER GLOTTAL UgsSMALgaCAPITAL LETTER OLD POLISH O
A7C1 gvSMALgaCAPITAL LETTER ANGLICANA WguSMALgaCAPITAL LETTER C WITH PALATAL HOOKvfS WITH
A7C6 vfZ WITH PALATALvaD WITH SHORT STROKE OVERLAYg+kSMALg+aCAPITAL LETTER Sg+kSMAL
A7D0 gaCAPITAL LETTER CLOSED INSULAR GgzSMAL
A7D3 taDOUBLE THORN
A7D5 +abWYNgaCAPITAL LETTER MIDDLE SCOTS SgxSMALgcCAPITAL LETTER SIGMOIDgsSMAL
A7F2 aaMODIFIER LETTER CAPITAL CyaFyaQaaLATIN CAPITAL LETTER REVERSED HALF HgySMAL
A7F7 gaEPIGRAPHIC LETTER SIDEWAYS IaaMODIFIER LETTER CAPITAL H WITH STROKEqbSMALL LIGATURE O
A7FA aaLATIN LETTER SMALL CAPITAL TURNED MgaEPIGRAPHIC LETTER REVERSED F+haPyaINVERTED Mza LONGA
A7FF yaARCHAIC MaaSYLOTI NAGRI LETTER AuaInaSIGN DVISVARAnaLETTER UuaEuaOnaSIGN HASANTAnaLETTER KO
A808 vbHubGvbHnaSIGN ANUSVARAnaLETTER COvbHubJvbHubTTwbHubDDwbHubTvbHubDvbHubNubPvbHubBvbHubMubR
A81F ubLubRRubSubHnaVOWEL SIGN AyaIyaUyaEyaOOnaPOETRY MARK-1za2za3za4naSIGN ALTERNATE HASANTA
A830 aaNORTH INDIC FRACTION ONE QUARTERzaHALFvaTHREE QUARTERSvaONE SIXTEENTHzcEIGH
A835 vaTHREE SIXTEENTHSmaQUARTER MARKmhPLACEHOLDmfRUPEEmfQUANTITY
A840 aaPHAGS-PA LETTER KArbHqbGqcNqbCrbHqbJqbNYqbTrbHqbDqbNqbPrbHqbBqbMqbTSsbHqbDZqbWqbZHrb
A856 qbSMALL qbYqbRqbLqbSHrbqbHqbqaIqaUqaEqaOqaQAqbXqbFqbGGqaEEjaSUBJOINED LETTER WA+abY
A869 jbLETTER TTsbHqbDDqbNNqbALTERNATE YqbVOICELESS SHvcD qbASPIRATED FjbSUBJOINED LETTER R
A872 lmPERFIXjaLETTER CANDRABINDUjaSINGLE HEAD MARKjmDOUBjaMARK SHADoeDOUBLE 
A880 aaSAURASHTRA SIGN ANUSVARAqbVISARGlbLETTER taAsaItaIsaUtaUsaVOCALIC R+baR+aaL+baLsaEtaEsaAI
A88F saOtaOsaAUsaKAtbHsbGtbHsbNGsbCtbHsbJtbHsbNYsbTTubHsbDDubHsbNNsbTtbHsbDtbHsbNsbPtbHsbBtbHsbM
A8AB sbYsbRsbLsbVsbSHtbStbsbHsbLLlaCONSONANT SIGN HAARUlaVOWEL SIGN AAwaIxaIwaUxaUwaVOCALIC R+faR
A8BC +eaL+faLwaExaEwaAIwaOxaOwaAUlaSIGN VIRAMAqaCANDRABINDU
A8CE laDANDAmeOUBLE DmaIGIT ZEROraONEraTWOsaHREEraFOURsaIVEraSIXsaEVENraEIGHTraNINE
A8E0 aaCOMBINING DEVANAGARI DIGIT ZERO+baONE+baTWO+caHREE+baFOUR+caIVE+baSIX+caEVEN+baEIGHT+baNINE
A8EA vaLETTER A+caU+caKA+cbN+cbP+cbR+caVIvaSIGN AVAGRAHAaaDEVANAGARI SIGN SPACING CANDRABINDU
A8F3 qaCANDRABINDU VIRAMAqsDOUBLE qaCANDRABINDU TWO+daHREE+caAVAGRAHAqbPUSHPIKlaGAP FILLERlaCARET
A8FB laHEADSTROKElaSIGN SIDDHAMlbJAIN OlaLETTER AYldVOWEL SIGNaaKAYAH LI DIGIT ZEROpaONEpaTWO
A903 qaHREEpaFOURqaIVEpaSIXqaEVENpaEIGHTpaNINEjaLETTER KArbHqbGqcNqbSrbHqbZqbNYqbTqcHqbNqbPrbHqbM
A918 qbDqbBqbRqbYqbLqbWqbTHqcqbVqbCqbqaOEqaIqaOOjaVOWEL UEpbpaUpaEEpaOjaTONE PLOPHUoaCALYA
A92D ta PLOPHUjaSIGN CWIoaSHYAabREJANG LETTER KobGocNobTobDobNobPobBobMobCobJobNYobSobRobLobYobW
A941 obHobMBobNGGpbDpbYJobhaVOWEL SIGN IsaUsaEsaAIsaOsaAUsbEtaAhaCONSONANT SIGN NGxawaRwaHhaVIRAMA
A95F haSECTION MARKaaHANGUL CHOSEONG TIKEUT-MIEUMxaPIEUPxaSIOSxaCIEUCqaRIEUL-KIYEOKwgSSANGwaTIKEUT
A967 wgSSANGwaMIEUMwaPIEUPwfSSANGwfKAPYEOUNwaSIOSwaCIEUCwaKHIEUKHqaMIEUM-KIYEOKwaTIKEUTwaSIOS
A972 qaPIEUP-SIOS-THIEUTHwbKHIEUKwbHIEUqaSSANGSIOS-PIEUPqaIEUNG-RIEULwaHIEUHqgSSANGCIEUCvbTHIEUT
A97A qbPHIEUPH-HIEUqaHIEUH-SIOSqaSSANGYEORINHIEUH
A980 aaJAVANESE SIGN PANYANGGAoaCECAKoaLAYARoaWIGNYANjaLETTER AqaI KAWIraraIqaUqaPA CEREK
A98A qaNGA LELETza RASWADIqaEqaAIqaOqaKAsa SASAKtaMURDAqbGsa MURDAqbNGqbCsa MURDAqbJqbNYA MURD
A999 qbJA MAHAPRANqbNYqbTTta MAHAPRANAqbDDta MAHAPRANAqbNA MURDqbTsa MURDAqcsa MAHAPRANAqcqbP
A9A6 sa MURDAqbBsa MURDAqbMqbYqbRsa AGUNGqaLAqbWqbSA MURDubAHAPRANsaqbHjaSIGN CECAK TELU
A9B4 jaVOWEL SIGN TARUNGvcOLOuaWULUya MELIKuaSUKUya MENDUTuaTALINGuaDIRGA MUREuaPEPET
A9BD jcCONSONANT SIGN KERyaPENGKALyaCAKRAjaPANGKONjbLEFT RERENGGAjlRIGHjaPADA ANDAPoaMADYAoaLUHUR
A9C6 oaWINDUoaPANGKAToaLINGSApaUNGSIoaADEGsa ADEGoaPISELEHjmTURNED 
A9CF jaPANGRANGKEPjaDIGIT ZEROpaONEpaTWOqaHREEpaFOURqaIVEpaSIXqaEVENpaEIGHTpaNINE
A9DE jaPADA TIRTA TUMETESoaISEN-ISENaaMYANMAR LETTER SHAN GHAucCucJubNNubBHiaSIGN SHAN SAW
A9E6 iaMODIFIER LETTER SHAN REDUPLICATIONiaLETTER TAI LAING NYAzbFzbG+abHzbJ+abHzbDD+bbHzbNN
A9F0 iaTAI LAING DIGIT ZEROyaONEyaTWOzaHREEyaFOURzaIVEyaSIXzaEVENyaEIGHTyaNINE
A9FA iaLETTER TAI LAING LLAzbD+abHzbB+abH
AA00 abCHAM LETTER maImaUmaEmaAImaOmaKAnbHmbGnbHmaNGUEoaAmbCHobHmbJnbHmaNHUEoaAobJmbTnbHmbDnbH
AA17 maNUEnaAmbDDmbPnbPnbHmbBnbHmaMUEnaAmbBBmbYmbRmbLmbVmbSSnbmbHfbVOWEL SIGN AqaIraIqbEqaUqaOEra
AA30 qaAIraUqaUEfaCONSONANT SIGN YAubRubLubW
AA40 faLETTER FINAL KsaGsbNfjCONSONANT SIGNfaLETTER FINAL CHsaTsaNsaPsaYsaRsaLsaSS
AA4C faCONSONANT SIGN FINAL M+aaH
AA50 faDIGIT ZEROlaONElaTWOmaHREElaFOURmaIVElaSIXmaEVENlaEIGHTlaNINE
AA5C faPUNCTUATION SPIRALraDANDAseOUBLE DriTRIPabMYANMAR LETTER KHAMTI GwbCxbHwbJxbHwbNYwbTTybH
AA68 wbDDybHxcwbNwbSwbHxbHwbFiaMODIFIER LETTER KHAMTI REDUPLICATIONiaLETTER KHAMTI XAwbZwbR
AA74 jaOGOGRAM KHAMTI OAYyaQNyaHMiaSYMBOL AITON EXCLAMATIONvaONEvaTWOiaLETTER AITON RA
AA7B iaSIGN PAO KAREN TONEnaTAI LAING TONE-2+ca5iaLETTER SHWE PALAUNG CHA+ccS
AA80 aaTAI VIET LETTER LOW KOqdHIGHqbLOW KHqeHIGHqcLOW KHqfHIGHqbLOW GqdHIGHqcLOW NqeHIGHqbLOW C
AA8B qdHIGHqbLOW CHqeHIGHqbLOW SqdHIGHqbLOW NYqeHIGHqbLOW DqdHIGHqbLOW TqdHIGHqbLOW THqeHIGH
AA98 qbLOW NqdHIGHqbLOW BqdHIGHqbLOW PqdHIGHqbLOW PHqeHIGHqbLOW FqdHIGHqbLOW MqdHIGHqbLOW YqdHIGH
AAA6 qbLOW RqdHIGHqbLOW LqdHIGHqbLOW VqdHIGHqbLOW HqdHIGHqbLOW qcHIGHjaMAI KANGjaVOWEL AApaIpaUEqa
AAB5 paEpaOjaMAI KHITjaVOWEL IApbUEqbpaAUEqaYqaNqaMjaTONE MAI EKsaNUENGsaTHOsaSONG
AADB jaSYMBOL KONqaNUENGqaSAMqaHO HOIqcKOI KaaMEETEI MAYEK LETTER EuaOuaCHAubNYubTTwbHubDDwbHubNN
AAE9 ubSHvbSnaVOWEL SIGN IIyaUUyaAAIzaUzbAnaCHEIKHANnaAHANG KHUDAMoaNJInaSYLLABLE REPETITION MARK
AAF4 nqWORDnaVOWEL SIGN VISARGAobIRAM
AB01 aaETHIOPIC SYLLABLE TTHUvaIvaAAvaEEwavaO
AB09 saDDHUvaIvaAAvaEEwavaO
AB11 taZUuaIuaAAuaEEvauaO
AB20 saCCHHAwaUwaIwaAAwaEExawaO
AB28 saBBAuaUuaIuaAAuaEEvauaO
AB30 aaLATIN SMALL LETTER BARRED ALPHAtbA REVERSED-SCHWtaBLACKLETTER EucARREDtaE WITH FLOURISH
AB35 taLENIS FtaSCRIPT G WITH CROSSED-TAILtaL WITH INVERTED LAZY S+aaDOUBLE MIDDLE TILDE
AB39 +aaMIDDLE RINGtaM WITH CROSSED-TAILtsNtsENGtaBLACKLETTER O+ga WITH STROKEtoOPENtbINVERTED O
AB41 tbTURNED OE WITH STROK+igHORIZONTAL +ba OPEN-O+ia WITH STROKEtaSTIRRUP R
AB46 gaLETTER SMALL CAPITAL R WITH RIGHT LEGgaSMALL LETTER R WITHOUT HANDLEtaDOUBLE R
AB49 taR WITH CROSSED-TAILttDOUBLE taSCRIPT R+ba WITH RINGtaBASELINE ESHtaU WITH SHORT RIGHT LEG
AB4F vuBAR uaItcTURNED taU WITH LEFT HOOKtaCHIwa WITH LOW RIGHT RING+gaLEFT SERIF
AB56 taX WITH LOW RIGHT RING+cbNG LEFT LE+na AND LOW RIGHT RING+oaWITH SERIF
AB5A taY WITH SHORT RIGHT LEGaaMODIFIER BREVE WITH INVERTED BREVEjaLETTER SMALL HENG
AB5D waL WITH INVERTED LAZY S+daMIDDLE TILDEwaU WITH LEFT HOOKaaLATIN SMALL LETTER SAKHA YAT
AB61 taIOTIFIED EtbOPEN OtaUOtaINVERTED ALPHAabGREEK LETTER SMALL CAPITAL OMEG
AB66 aaLATIN SMALL LETTER DZ DIGRAPH WITH RETROFLEX HOOKt+cTSuaURNED R WITH MIDDLE TILDE
AB69 aaMODIFIER LETTER SMALL TURNED WqaLEFT TACKqgRIGH
AB70 aaCHEROKEE SMALL LETTER AwaEwaIwaOwaUwaVwaGAwbKwaGExaIxaOxaUxaVwaHAxaExaIxaOxaUxaVwaLAxaExaI
AB86 xaOxaUxaVwaMAxaExaIxaOxaUwaNAwcHwaNAHxaExaIxaOxaUxaVwaQUAyaEyaIyaOyaUyaVwaSAxaxaExaIxaOxaUxaV
ABA3 waDAwbTwaDEwbTwaDIwbTwaDOxaUxaVxaLAwcTyaEyaIyaOyaUyaVxaSAyaEyaIyaOyaUyaVwaWAxaExaIxaOxaUxaV
ABBF waYAaaMEETEI MAYEK LETTER KOKuaSAMuaLAIuaMITuaPAubNuaCHILucTuaKHOUucNGucTHuaWAIuaYANGuaHUK
ABCE uaUNuaIuaPHAMuaATIYAuaGOKuaJHAMuaRAIuaBAuaJILucDuaGHOUudDuaBHAMubKOK LONSUuhLAIuhMITuhPAuiN
ABE0 uhTILuhNGOUuhInaVOWEL SIGN ONAPydIydAydYEydSOUyeydCHEIyaNUNGnaCHEIKHEInaLUM IYEKnfAPUN
ABF0 naDIGIT ZEROtaONEtaTWOuaHREEtaFOURuaIVEtaSIXuaEVENtaEIGHTtaNINE
D7B0 aaHANGUL JUNGSEONG O-YEOtaO-IraYO-AvaEuaEOrcU-YtaI-IraYU-AEuaOraEU-AuaEOvauaOrcI-YAvaEuaEOva
D7C1 taO-ItaYOuaUtaIraARAEA-AxaE
D7CB iaONGSEONG NIEUN-RIEULxaCHIEUCHraSSANGTIKEUT+ca-PIEUPrmyaSIOS+ca-KIYEOKyaCIEUCzaHIEUCH
D7D4 ybTHIEUTraRIEUL-SSANGKIYEOKxaKIYEOK-HIEUHrbSSANGRIEUL-KHIEUKrbRIEUL-MIEUM-HIEUxaPIEUP-TIKEUT
D7DA +daPHIEUPHxaYESIEUNGzaORINHIEUH-HIEUHraKAPYEOUNRIEULraMIEUM-NIEUNxfSSANGraSSANGMIEUM
D7E1 raMIEUM-PIEUP-SIOSxaCIEUCraPIEUP-TIKEUTxaRIEUL-PHIEUPHxaMIEUMraSSANGPIEUPraPIEUP-SIOS-TIKEUT
D7E8 xaCIEUCyaHIEUCHraSIOS-MIEUMwaKAPYEOUNPIEUPsaSANGSIOS-KIYEOK+baTIKEUTsaIOS-PANSIOSwaCIEUC
D7F0 xaHIEUCHwbTHIEUTwbHIEUraPANSIOS-PIEUPzfKAPYEOUNraYESIEUNG-MIEUM+aaHIEUHraCIEUC-PIEUPxfSSANG
D7F9 raSSANGCIEUCraPHIEUPH-SIOSzaTHIEUTH
F900 aaCJK COMPATIBILITY IDEOGRAPH-F900+fa1+fa2+fa3+fa4+fa5+fa6+fa7+fa8+fa9+faA+faB+faC+faD+faE
F90F +faF+ea10+fa1+fa2+fa3+fa4+fa5+fa6+fa7+fa8+fa9+faA+faB+faC+faD+faE+faF+ea20+fa1+fa2+fa3+fa4
F925 +fa5+fa6+fa7+fa8+fa9+faA+faB+faC+faD+faE+faF+ea30+fa1+fa2+fa3+fa4+fa5+fa6+fa7+fa8+fa9+faA+faB
F93C +faC+faD+faE+faF+ea40+fa1+fa2+fa3+fa4+fa5+fa6+fa7+fa8+fa9+faA+faB+faC+faD+faE+faF+ea50+fa1
F952 +fa2+fa3+fa4+fa5+fa6+fa7+fa8+fa9+faA+faB+faC+faD+faE+faF+ea60+fa1+fa2+fa3+fa4+fa5+fa6+fa7+fa8
F969 +fa9+faA+faB+faC+faD+faE+faF+ea70+fa1+fa2+fa3+fa4+fa5+fa6+fa7+fa8+fa9+faA+faB+faC+faD+faE+faF
F980 +ea80+fa1+fa2+fa3+fa4+fa5+fa6+fa7+fa8+fa9+faA+faB+faC+faD+faE+faF+ea90+fa1+fa2+fa3+fa4+fa5
F996 +fa6+fa7+fa8+fa9+faA+faB+faC+faD+faE+faF+eaA0+fa1+fa2+fa3+fa4+fa5+fa6+fa7+fa8+fa9+faA+faB+faC
F9AD +faD+faE+faF+eaB0+fa1+fa2+fa3+fa4+fa5+fa6+fa7+fa8+fa9+faA+faB+faC+faD+faE+faF+eaC0+fa1+fa2
F9C3 +fa3+fa4+fa5+fa6+fa7+fa8+fa9+faA+faB+faC+faD+faE+faF+eaD0+fa1+fa2+fa3+fa4+fa5+fa6+fa7+fa8+fa9
F9DA +faA+faB+faC+faD+faE+faF+eaE0+fa1+fa2+fa3+fa4+fa5+fa6+fa7+fa8+fa9+faA+faB+faC+faD+faE+faF
F9F0 +eaF0+fa1+fa2+fa3+fa4+fa5+fa6+fa7+fa8+fa9+faA+faB+faC+faD+faE+faF+daA00+fa1+fa2+fa3+fa4+fa5
FA06 +fa6+fa7+fa8+fa9+faA+faB+faC+faD+faE+faF+ea10+fa1+fa2+fa3+fa4+fa5+fa6+fa7+fa8+fa9+faA+faB+faC
FA1D +faD+faE+faF+ea20+fa1+fa2+fa3+fa4+fa5+fa6+fa7+fa8+fa9+faA+faB+faC+faD+faE+faF+ea30+fa1+fa2
FA33 +fa3+fa4+fa5+fa6+fa7+fa8+fa9+faA+faB+faC+faD+faE+faF+ea40+fa1+fa2+fa3+fa4+fa5+fa6+fa7+fa8+fa9
FA4A +faA+faB+faC+faD+faE+faF+ea50+fa1+fa2+fa3+fa4+fa5+fa6+fa7+fa8+fa9+faA+faB+faC+faD+faE+faF
FA60 +ea60+fa1+fa2+fa3+fa4+fa5+fa6+fa7+fa8+fa9+faA+faB+faC+faD
FA70 +ea70+fa1+fa2+fa3+fa4+fa5+fa6+fa7+fa8+fa9+faA+faB+faC+faD+faE+faF+ea80+fa1+fa2+fa3+fa4+fa5
FA86 +fa6+fa7+fa8+fa9+faA+faB+faC+faD+faE+faF+ea90+fa1+fa2+fa3+fa4+fa5+fa6+fa7+fa8+fa9+faA+faB+faC
FA9D +faD+faE+faF+eaA0+fa1+fa2+fa3+fa4+fa5+fa6+fa7+fa8+fa9+faA+faB+faC+faD+faE+faF+eaB0+fa1+fa2
FAB3 +fa3+fa4+fa5+fa6+fa7+fa8+fa9+faA+faB+faC+faD+faE+faF+eaC0+fa1+fa2+fa3+fa4+fa5+fa6+fa7+fa8+fa9
FACA +faA+faB+faC+faD+faE+faF+eaD0+fa1+fa2+fa3+fa4+fa5+fa6+fa7+fa8+fa9
FB00 aaLATIN SMALL LIGATURE FFwaIwaLwaFIxaLvaLONG S TvbS
FB13 aaARMENIAN SMALL LIGATURE MEN NOW+caECH+caINIyaVEW NOWyaMEN XEH
FB1D aaHEBREW LETTER YOD WITH HIRIQhaPOINT JUDEO-SPANISH VARIKAhaLIGATURE YIDDISH YOD YOD PATAH
FB20 iaETTER ALTERNATIVE AYINoaWIDE ALEFtaDALETtaHEtaKAFtaLAMEDtaFINAL MEMtaRESHtaTAV
FB29 oaALTERNATIVE PLUS SIGNoaSHIN WITH SHIN DOTzgygDAGESH AND SH+kgoaALEF WITH PATAHyaQAMATS
FB30 yaMAPIQoaBET WITH DAGESHomGIMELomDALEToaHE WITH MAPIQoaVAV WITH DAGESHomZAYIN
FB38 omTETomYODomFINAL KAFopomLAMED
FB3E omMEM
FB40 omNUNomSAMEKH
FB43 omFINAL PEoo
FB46 omTSADIomQOFomRESHomSHINomTAVoaVAV WITH HOLAMoaBET WITH RAFEokKAFokPEiaIGATURE ALEF LAMED
FB50 aaARABIC LETTER ALEF WASLA ISOLATED FORMzfFINALofBEEH ISOLATEDtfFINALthINITItiMED
FB56 ofPEH ISOLATEDsfFINALshINITIsiMEDofBEHEH ISOLATEDufFINALuhINITIuiMEDofTTEHEH ISOLATEDvfFINAL
FB60 vhINITIviMEDpfEHEH ISOLATEDufFINALuhINITIuiMEDpfTEH ISOLATEDtfFINALthINITItiMEDofVEH ISOLATED
FB6B sfFINALshINITIsiMEDofPEHEH ISOLATEDufFINALuhINITIuiMEDofDYEH ISOLATEDtfFINALthINITItiMED
FB76 ofNYEH ISOLATEDtfFINALthINITItiMEDofTCHEH ISOLATEDufFINALuhINITIuiMEDtfEH ISOLATEDwfFINAL
FB80 whINITIwiMEDofDDAHAL ISOLATEDvfFINALpfAHAL ISOLATEDufFINALpfUL ISOLATEDsfFINALpfDAL ISOLATED
FB89 tfFINALofJEH ISOLATEDsfFINALofRREH ISOLATEDtfFINALofKEHEH ISOLATEDufFINALuhINITIuiMED
FB92 ofGAF ISOLATEDsfFINALshINITIsiMEDpfUEH ISOLATEDtfFINALthINITItiMEDofNGOEH ISOLATEDufFINAL
FB9C uhINITIuiMEDpfOON GHUNNA ISOLATED+afFINALofRNOON ISOLATEDufFINALuhINITIuiMED
FBA4 ofHEH WITH YEH ABOVE ISOLATED+hfFINALsfGOAL ISOLATEDxfFINALxhINITIxiMEDsfDOACHASHMEE ISOLATED
FBAB +efFINAL+ehINITI+eiMEDofYEH BARREE ISOLATEDzfFINALzfWITH HAMZA ABOVE ISOLATED+qfFINAL
FBB2 haSYMBOL DOT ABOVEsaBELOWoaTWO DOTS ABOVExaBELOWpaHREE DOTS ABOVEzaBELOW
FBB8 zaPOINTING DOWNWARDS ABOVE+saBELOWoaFOUR DOTS ABOVEyaBELOWogDOUBLE VERTICAL BAR
FBBD oaTWO DOTS VERTICALLY ABOVE+iaBELOWoaRINGoaSMALL TAH ABOVEyaBELOWoaWASLA ABOVE
FBD3 haLETTER NG ISOLATED FORMrfFINALrhINITIriMEDofU ISOLATEDqfFINALofOE ISOLATEDrfFINAL
FBDB ofYU ISOLATEDrfFINALofU WITH HAMZA ABOVE ISOLATEDoqrfFINALofKIRGHIZ OE ISOLATEDzfFINAL
FBE2 wfYU ISOLATEDzfFINALofE ISOLATEDqfFINALqhINITIqiMEDoiUIGHUR KAZAKH KIRGHIZ ALEF MAKSURA INIT
FBE9 +xiMEDifIGATURE YEH WITH HAMZA ABOVE WITH ALEF ISOLATED+vfFINAL+rfE ISOLATED+tfFINAL
FBEE +qfWAW ISOLATED+ufFINAL+qfU ISOLATED+sfFINAL+qfOE ISOLATED+tfFINAL+qfYU ISOLATED+tfFINAL
FBF6 +qfE ISOLATED+sfFINAL+shINITIqfUIGHUR KIRGHIZ YEH WITH HAMZA ABOVE WITH ALEF MAKSURA ISOLATED
FBFA ++sfFINAL++shINITIifETTER FARSI YEH ISOLATEDyfFINALyhINITIyiMED
FC00 ifIGATURE YEH WITH HAMZA ABOVE WITH JEEM ISOLATED+qoHAH+qoMEEM+qoALEF MAKSURA+qoYEH
FC05 qoBEH WITH JEEMzoHAHzrKzoMEEMzoALEF MAKSURAzoYEHqoTEH WITH JEEMzoHAHzrKzoMEEMzoALEF MAKSURA
FC10 zoYEHroHEH WITH JEEM+arM+aoALEF MAKSURA+aoYEHqpJEEM WITH HA+aoMEEMqrHAH WITH JzrM
FC19 qrKHAH WITH J+aoHAH+aoMEEMqrSEEN WITH J+aoHAH+arK+aoMEEMroAD WITH HAHzoMEEMqrDAD WITH JzoHAH
FC24 zrKzoMEEMqoTAH WITH HAHzoMEEMq+aZqrAIN WITH JzrMqrGHAIN WITH J+brMqrFEH WITH JzoHAHzrKzoMEEM
FC31 zoALEF MAKSURAzoYEHqpQAF WITH HAzoMEEMzoALEF MAKSURAzoYEHqoKAF WITH ALEFzoJEEMzoHAHzrKzoLAM
FC3C zpMEEzoALEF MAKSURAzoYEHqoLAM WITH JEEMzoHAHzrKzoMEEMzoALEF MAKSURAzoYEHqoMEEM WITH JEEM
FC46 +aoHAH+arK+aoMEEM+aoALEF MAKSURA+aoYEHqoNOON WITH JEEM+aoHAH+arK+aoMEEM+aoALEF MAKSURA+aoYEH
FC51 qoHEH WITH JEEMzrMzoALEF MAKSURAzoYEHqoYEH WITH JEEMzoHAHzrKzoMEEMzoALEF MAKSURAzoYEH
FC5B qoTHAL WITH SUPERSCRIPT ALEFq+kREHq+kALEF MAKSURAqoSHADDA WITH DAMMATAN+csKASR+coFATHA+cpDAMM
FC62 +cpKASR+coSUPERSCRIPT ALEFqfYEH WITH HAMZA ABOVE WITH REH FINAL+qlZAIN+qlMEEM+qlNOON
FC68 +qlALEF MAKSURA+qlYEHqnBEH WITH RzlZAINzlMEEMzlNOONzlALEF MAKSURAzlYEHqnTEH WITH RzlZAIN
FC72 zlMEEMzlNOONzlALEF MAKSURAzlYEHrnHEH WITH R+alZAIN+alMEEM+alNOON+alALEF MAKSURA+alYEH
FC7C qlFEH WITH ALEF MAKSURAzlYEHqlQAF WITH ALEF MAKSURAzlYEHqlKAF WITH ALEFzlLAMzmMEE
FC83 zlALEF MAKSURAzlYEHqlLAM WITH MEEMzlALEF MAKSURAzlYEHqlMEEM WITH ALEF+alMEEMqlNOON WITH REH
FC8B +alZAIN+alMEEM+alNOON+alALEF MAKSURA+alYEHqlALEF MAKSURA WITH SUPERSCRIPT ALEFqlYEH WITH REH
FC92 zlZAINzlMEEMzlNOONzlALEF MAKSURAzlYEHzhHAMZA ABOVE WITH JEEM INITI+qnHAH+qqK+qnMEEM+qnHEH
FC9C qnBEH WITH JEEMznHAHzqKznMEEMznHEHqnTEH WITH JEEMznHAHzqKznMEEMznHEHrnHEH WITH MEEM
FCA7 qnJEEM WITH HAH+anMEEMqqHAH WITH JzqMqqKHAH WITH J+aqMqqSEEN WITH J+anHAH+aqK+anMEEM
FCB1 rnAD WITH HAHzqKznMEEMqqDAD WITH JznHAHzqKznMEEMqnTAH WITH HAHqnZAH WITH MEEMqqAIN WITH JzqM
FCBC qqGHAIN WITH J+bqMqqFEH WITH JznHAHzqKznMEEMqnQAF WITH HAHznMEEMqqKAF WITH JznHAHzqKznLAM
FCC8 zoMEEqqLAM WITH JznHAHzqKznMEEMznHEHqnMEEM WITH JEEM+anHAH+aqK+anMEEMqqNOON WITH J+anHAH+aqK
FCD5 +anMEEM+anHEHqnHEH WITH JEEMzqMznSUPERSCRIPT ALEFqnYEH WITH JEEMznHAHzqKznMEEMznHEH
FCDF +aiAMZA ABOVE WITH MEEM MED+qmHEHqmBEH WITH MEEMzmHEHqmTEH WITH MEEMzmHEHrmHEH WITH MEEM
FCE6 +amHEHqmSEEN WITH MEEM+amHEHrmHEEN WITH MEEM+bmHEHqmKAF WITH LAMznMEEqwLAMqwNOON+amHEH
FCF0 qmYEH WITH MEEMzmHEHqmSHADDA WITH FATHA+cnDAMM+cnKASRqfTAH WITH ALEF MAKSURA ISOLATEDzoYEH
FCF7 qoAIN WITH ALEF MAKSURAzoYEHqoGHAIN WITH ALEF MAKSURA+boYEHqoSEEN WITH ALEF MAKSURA+aoYEH
FCFD roHEEN WITH ALEF MAKSURA+boYEHqoHAH WITH ALEF MAKSURAzoYEHqoJEEM WITH ALEF MAKSURA+aoYEH
FD03 qoKHAH WITH ALEF MAKSURA+aoYEHqoSAD WITH ALEF MAKSURAzoYEHqoDAD WITH ALEF MAKSURAzoYEH
FD09 qoSHEEN WITH JEEM+boHAH+brK+boMEEM+boREHr+arxADqzDqfTAH WITH ALEF MAKSURA FINALzlYEH
FD13 qlAIN WITH ALEF MAKSURAzlYEHqlGHAIN WITH ALEF MAKSURA+blYEHqlSEEN WITH ALEF MAKSURA+alYEH
FD19 rlHEEN WITH ALEF MAKSURA+blYEHqlHAH WITH ALEF MAKSURAzlYEHqlJEEM WITH ALEF MAKSURA+alYEH
FD1F qlKHAH WITH ALEF MAKSURA+alYEHqlSAD WITH ALEF MAKSURAzlYEHqlDAD WITH ALEF MAKSURAzlYEH
FD25 qlSHEEN WITH JEEM+blHAH+boK+blMEEM+blREHrxruADqwDqhSHEEN WITH JEEM INITI+bnHAH+bqK+bnMEEM
FD31 rnEEN WITH HEHrzHqnTAH WITH MEEMqiSEEN WITH JEEM MED+amHAH+apKrmHEEN WITH JEEM+bmHAH+bpK
FD3A qmTAH WITH MEEMqyZqhALEF WITH FATHATAN FIN+jfISOLATEDaaORNATE LEFT PARENTHESIShnRIGH
FD40 aaARABIC LIGATURE RAHIMAHU ALLAAHsbDI ALLAAHU AN+gaAA+gaUM+iaAA+hbNN
FD46 qaSALLALLAAHU ALAYHI WA-AALIHqaALAYHI AS-SALAAMwkMxkAAwj AS-SALAATU WqaQUDDISA SIRRAH
FD4C qaSALLALLAHU ALAYHI WAAALIHEE WA-SALLAMqcALAYHAA AS-SALAqaTABAARAKA WA-TAAALAA
FD4F qaRAHIMAHUM ALLAAHqaTEH WITH JEEM WITH MEEM INITIAL FORMzhHAH WITH JEEM FIN+nhINITI+iqMz+aK
FD55 zqMEEM WITH J+jnHAH+jqKqhJEEM WITH MEEM WITH HAH FIN+ohINITIqhHAH WITH MEEM WITH YEH FIN
FD5B +jlALEF MAKSURAqhSEEN WITH HAH WITH JEEM INITI+anJEEM WITH HAH+khALEF MAKSURA FIN
FD5F +alMEEM WITH HAH+ohINITI+knJEEM+khMEEM FIN+phINITIrhAD WITH HAH WITH HAH FIN+mhINITI
FD66 zhMEEM WITH MEEM FINrvHEEN WITH HAH+phINITI+bhJEEM WITH YEH FIN+bmMEEM WITH KHA+qhINITI
FD6C +lhMEEM FIN+qhINITIqhDAD WITH HAH WITH ALEF MAKSURA FINzlKHAH WITH MEEM+ohINITI
FD71 qhTAH WITH MEEM WITH HAH FIN+nhINITI+jnMEEM+jhYEH FINqlAIN WITH JEEM WITH MEEMzyM+ohINITI
FD78 +jhALEF MAKSURA FINqlGHAIN WITH MEEM WITH MEEM+llYEH+llALEF MAKSURAqlFEH WITH KHAH WITH MEEM
FD7D +ohINITIqhQAF WITH MEEM WITH HAH FIN+jlMEEMqvLAM WITH HAH+ilYEH+ilALEF MAKSURA
FD83 zhJEEM WITH JEEM INITI+ohFINzoKHAH WITH M+ohINITIzhMEEM WITH HAH FIN+nhINITI
FD89 qnMEEM WITH HAH WITH JEEM+jqM+jhYEH FIN+ahJEEM WITH HAH INITI+knMEEM+aqKHAH WITH J+kqM
FD92 +anJEEM WITH KHAHqnHEH WITH MEEM WITH JEEM+jqMqxNOON WITH HAH+jhALEF MAKSURA FIN
FD97 +alJEEM WITH MEEM+phINITI+khALEF MAKSURA FIN+alMEEM WITH YEH+klALEF MAKSURA
FD9C qlYEH WITH MEEM WITH MEEM+ohINITIqhBEH WITH KHAH WITH YEH FINquTEH WITH JEEM+jlALEF MAKSURA
FDA1 zlKHAH WITH YEH+jlALEF MAKSURAzlMEEM WITH YEH+jlALEF MAKSURAqlJEEM WITH MEEM WITH YEH
FDA6 +alHAH WITH ALEF MAKSURA+a+dMEEMq+dSEEN WITH KHAHrlAD WITH HAH WITH YEHr+dHEENq+dDAD
FDAC quLAM WITH JEEMzxMquYEH WITH HAHzuJEEMzxMq+eMEEMq+eQAFquNOON WITH HAH
FDB4 qhQAF WITH MEEM WITH HAH INITIqnLAM WITH HAH WITH MEEMqhAIN WITH MEEM WITH YEH FINq+eKAF
FDB8 qhNOON WITH JEEM WITH HAH INITIqhMEEM WITH KHAH WITH YEH FINqhLAM WITH JEEM WITH MEEM INITI
FDBB qhKAF WITH MEEM WITH MEEM FINqyLAM WITH JqlNOON WITH JEEM WITH HAHqmJEEM WITH HAH WITH YE
FDBF quHAH WITH JEEMq+eMEEMqxFEH WITH MquBEH WITH HAHqhKAF WITH MEEM WITH MEEM INITIq+aAIN WITH J
FDC5 q+aSAD WITH MrhEEN WITH KHAH WITH YEH FINquNOON WITH JEEM
FDCF qaSALAAMUHU ALAYNAA
FDF0 taLA USED AS KORANIC STOP SIGN ISOLATED FORMq+qQAqoALLAHroKBARqoMOHAMMADqoSALAMqoRASOUL
FDF7 qoALAYHEqoWASALLAMqoSALLAvbLLAHOU ALAYHE WASALLAqaJALLAJALALOUHOUaaRIAL SIGN
FDFD aaARABIC LIGATURE BISMILLAH AR-RAHMAN AR-RAHEEMqaSUBHAANAHU WA TAAALAAqaAZZA WA JALL
FE00 aaVARIATION SELECTOR-1ta2ta3ta4ta5ta6ta7ta8ta9ta10ua1ua2ua3ua4ua5ua6
FE10 aaPRESENTATION FORM FOR VERTICAL COMMA+ffIDEOGRAPHIC +raFULL STOP+faCOLON+ffSEMI
FE15 +faEXCLAMATION MARK+fjQUES+faLEFT WHITE LENTICULAR BRACKET+fcRIGHT WHITE LENTICULAR BRAKC
FE19 +faHORIZONTAL ELLIPSIS
FE20 aaCOMBINING LIGATURE LEFT HALFtgRIGHkgDOUBLE TILDE LEFxgRIGHkgMACRON LEFrgRIGH
FE26 kaCONJOINING MACRONkaLIGATURE LEFT HALF BELOWtmRIGHkmTILDE LEFqmRIGHkmMACRON LEFrmRIGH
FE2D kgCONJOINING MACRONlaYRILLIC TITLO LEFT HALFzgRIGH
FE30 aaPRESENTATION FORM FOR VERTICAL TWO DOT LEADER+faEM DASH+gfN+faLOW LINE+fiWAVY 
FE35 +faLEFT PARENTHESIS+fnRIGH+faLEFT CURLY BRACKET+fpRIGH+fiLEFT TORTOISE SHELL+fyRIGH
FE3B +fiLEFT BLACK LENTICULAR+f+aRIGH+fiLEFT DOUBLE ANGLE+fwRIGH+foLEFT+fpRIGH+fiLEFT CORNER
FE42 +fqRIGH+fpLEFT WHITE+fwRIGHabSESAME DOakWHITE 
FE47 abPRESENTATION FORM FOR VERTICAL LEFT SQUARE BRACKE+fqRIGHaaDASHED OVERLINEajCENTRELINEajWAVY
FE4C anDOUBLE beASHED LOW ajCENTRELINEajWAVYaaSMALL COMMAgfIDEOGRAPHIC gaFULL STOP
FE54 gaSEMICOLONgfgaQUESTION MARKgjEXCLAMAhaM DASHgaLEFT PARENTHESISgnRIGHgaLEFT CURLY BRACKET
FE5C gpRIGHgiLEFT TORTOISE SHELLgyRIGHgaNUMBER SIGNgaAMPERSANDhaSTERISKgaPLUS SIGNgaHYPHEN-MINUS
FE64 gaLESS-THAN SIGNgkGREATERgfEQUALS
FE68 gaREVERSE SOLIDUSgaDOLLAR SIGNgfPERCENTgaCOMMERCIAL AT
FE70 aaARABIC FATHATAN ISOLATED FORMhaTATWEEL WITH FATHATAN ABOVEhaDAMMATAN ISOLATED FORM
FE73 haTAIL FRAGMENThaKASRATAN ISOLATED FORM
FE76 hoFATHAnfMEDIALhfDAMMA ISOLATEDnfMEDIALhfKASRA ISOLATEDnfMEDIALhfSHADDA ISOLATEDofMEDIAL
FE7E ifUKUN ISOLATEDnfMEDIALhfLETTER HAMZA ISOLATEDooALEF WITH MADDA ABOVE+kfFINAL
FE83 yfHAMZA ABOVE ISOLATED+kfFINALofWAW WITH HAMZA ABOVE ISOLATED+jfFINAL
FE87 ofALEF WITH HAMZA BELOW ISOLATED+kfFINALofYEH WITH HAMZA ABOVE ISOLATED+jfFINAL+jhINITI+jiMED
FE8D ofALEF ISOLATEDtfFINALofBEH ISOLATEDsfFINALshINITIsiMEDofTEH MARBUTA ISOLATED+afFINAL
FE95 sfISOLATEDsfFINALshINITIsiMEDpfHEH ISOLATEDtfFINALthINITItiMEDofJEEM ISOLATEDtfFINALthINITI
FEA0 tiMEDofHAH ISOLATEDsfFINALshINITIsiMEDofKHAH ISOLATEDtfFINALthINITItiMEDofDAL ISOLATEDsfFINAL
FEAB ofTHAL ISOLATEDtfFINALofREH ISOLATEDsfFINALofZAIN ISOLATEDtfFINALofSEEN ISOLATEDtfFINAL
FEB3 thINITItiMEDpfHEEN ISOLATEDufFINALuhINITIuiMEDpfAD ISOLATEDsfFINALshINITIsiMEDofDAD ISOLATED
FEBE sfFINALshINITIsiMEDofTAH ISOLATEDsfFINALshINITIsiMEDofZAH ISOLATEDsfFINALshINITIsiMED
FEC9 ofAIN ISOLATEDsfFINALshINITIsiMEDofGHAIN ISOLATEDufFINALuhINITIuiMEDofFEH ISOLATEDsfFINAL
FED3 shINITIsiMEDofQAF ISOLATEDsfFINALshINITIsiMEDofKAF ISOLATEDsfFINALshINITIsiMEDofLAM ISOLATED
FEDE sfFINALshINITIsiMEDofMEEM ISOLATEDtfFINALthINITItiMEDofNOON ISOLATEDtfFINALthINITItiMED
FEE9 ofHEH ISOLATEDsfFINALshINITIsiMEDofWAW ISOLATEDsfFINALofALEF MAKSURA ISOLATED+bfFINAL
FEF1 ofYEH ISOLATEDsfFINALshINITIsiMEDifIGATURE LAM WITH ALEF WITH MADDA ABOVE ISOLATED+vfFINAL
FEF7 +jfHAMZA ABOVE ISOLATED+vfFINAL+pfBELOW ISOLATED+vfFINAL+efISOLATED+efFINAL
FEFF aaZERO WIDTH NO-BREAK SPACE
FF01 aaFULLWIDTH EXCLAMATION MARKkkQUOTkaNUMBER SIGNkgDOLLAkfPERCENTkaAMPERSANDlaPOSTROPHE
FF08 kaLEFT PARENTHESISknRIGHkaASTERISKkaPLUS SIGNkaCOMMAkaHYPHEN-MINUSkaFULL STOPkaSOLIDUS
FF10 kaDIGIT ZEROqaONEqaTWOraHREEqaFOURraIVEqaSIXraEVENqaEIGHTqaNINEkaCOLONkfSEMIkbLESS-THAN SIG
FF1D kfEQUALSkfGREATER-THANkaQUESTION MARKkaCOMMERCIAL ATkaLATIN CAPITAL LETTER A+faB+faC+faD+faE
FF26 +faF+faG+faH+faI+faJ+faK+faL+faM+faN+faO+faP+faQ+faR+faS+faT+faU+faV+faW+faX+faY+faZ
FF3B laEFT SQUARE BRACKETkaREVERSE SOLIDUSlaIGHT SQUARE BRACKETkbCIRCUMFLEX ACCENkaLOW LINE
FF40 kaGRAVE ACCENTkaLATIN SMALL LETTER A+daB+daC+daD+daE+daF+daG+daH+daI+daJ+daK+daL+daM+daN+daO
FF50 +daP+daQ+daR+daS+daT+daU+daV+daW+daX+daY+daZlaEFT CURLY BRACKETkaVERTICAL LINE
FF5D kaRIGHT CURLY BRACKETkaTILDEkaLEFT WHITE PARENTHESISktRIGHaaHALFWIDTH IDEOGRAPHIC FULL STOP
FF62 kaLEFT CORNER BRACKETkqRIGHkaIDEOGRAPHIC COMMAkaKATAKANA MIDDLE DOTtaLETTER WO+aaSMALL A+gaI
FF69 +gaU+gaE+gaO+gaYA+haU+haO+gaTUsa-HIRAGANA PROLONGED SOUND MARKsa LETTER A+aaI+aaU+aaE+aaO
FF76 +aaKA+baI+baU+baE+baO+aaSA+baI+baU+baE+baO+aaTA+baI+baU+baE+baO+aaNA+baI+baU+baE+baO+aaHA+baI
FF8C +baU+baE+baO+aaMA+baI+baU+baE+baO+aaYA+baU+baO+aaRA+baI+baU+baE+baO+aaWA+aaN
FF9E taVOICED SOUND MARKtrSEMI-kaHANGUL FILLERraLETTER KIYEOKygSSANGyaKIYEOK-SIOSyaNIEUN+da-CIEUC
FFA6 +eaHIEUHyaTIKEUTygSSANGyaRIEUL+da-KIYEOK+eaMIEUM+eaPIEUP+eaSIOS+eaTHIEUTH+ebPHIEUP+ebHIEU
FFB1 yaMIEUMyaPIEUPyfSSANGyaPIEUP-SIOSyezdSANGSyaIEUNGyaCIEUCyfSSANGyaCHIEUCHybKHIEUKybTHIEUT
FFBD ybPHIEUPybHIEU
FFC2 yaAzaEyaYA+aaEyaEOza
FFCA yaYEO+aayaOyaWA+aaEybO
FFD2 yaYOyaUyaWEO+aazaIyaYU
FFDA ybEyaYIyb
FFE0 aaFULLWIDTH CENT SIGNkfPOUNDkfNOTkbMACROkaBROKEN BARkaYEN SIGNkgWO
FFE8 aaHALFWIDTH FORMS LIGHT VERTICALkaLEFTWARDS ARROWklUPklRIGHTklDOWNkaBLACK SQUAREkbWHITE CIRCL
FFF9 aaINTERLINEAR ANNOTATION ANCHORxcSEPARATxeTERMINabOBJECT REPLACEMENT CHARACTEav
10000 aaLINEAR B SYLLABLE B008 Aua38 Eua28 Iua61 Oua10 Uua01 DAua45 DEua07 DIua14 DOua51 DUva7 JA
1000B ua46 JE
1000D ua36 JOua65 JUua77 KAua44 KEua67 KIua70 KOua81 KUva0 MAua13 MEua73 MIua15 MOua23 MUua06 NA
1001A ua24 NEua30 NIua52 NOva5 NUua03 PAua72 PEua39 PIua11 POua50 PUua16 QAua78 QEua21 QIua32 QO
10028 ua60 RAua27 REua53 RIua02 ROua26 RUua31 SAua09 SEua41 SIua12 SOua58 SUva9 TAua04 TEua37 TI
10035 ua05 TOua69 TUua54 WAua75 WEua40 WIva2 WO
1003C ua17 ZAua74 ZE
1003F ua20 ZOva5 A2ua43 A3ua85 AUua71 DWEua90 DWOua48 NWAua29 PU2ua62 PTEua76 RA2ua33 RA3ua68 RO2
1004B vb6 TAua87 TWEua91 TWO
10050 laMBOL B018ta9sa22sa34sa47ta9sa56sa63ta4sa79sa82ta3ta6ta9
10080 jaIDEOGRAM B100 MANvd2 WOva4 DEERva5 EQUIDwaF MAREwaM STALLIONva6F EWEwaM RAMva7F SHE-GOAT
10089 whM va8F SOWwaM BOARva9F COWwaM BULLua20 WHEATva1 BARLEYva2 OLIVEvb3 SPICva5 CYPERUS
10093 jaMONOGRAM B127 KAPOvb8 KANAKjaIDEOGRAM B130 OILva1 WINEva2jaMONOGRAM B133 AREPAva5 MERI
1009A jaIDEOGRAM B140 BRONZEva1 GOLDva2va5 WOOLva6ua50va1 HORNva2va3va4jaMONOGRAM B156 TURO2
100A5 jaIDEOGRAM B157va8va9 CLOTHua60va1va2 GARMENTva3 ARMOURva4va5va6va7va8va9ua70va1va2va3 MONTH
100B6 va4va6 TREEva7va8va9ua80va1va2va3va4va5va9ua90va1 HELMETta220 FOOTSTOOLva5 BATHTUBua30 SPEAR
100C7 va1 ARROWva2va3 SWORDva4va6ua40 WHEELED CHARIOTvi1va2 CHARIOT FRAMEva3 WHEELva5va6
100D2 jaMONOGRAM B247 DIPTEjaIDEOGRAM B248va9ua51va2va3va4 DARTva5va6va7va8va9saVESSEL B155+aa200
100E0 +ca1+ca2+ca3+ca4+ca5+ca6+ca7+ca8+ca9+ba10+ca1+ca2+ca3+ca4+ca5+ca6+ca7+ca8+ca9+ba21+ca2+ca6
100F6 +ca7+ca8+ca9+ba50+aa305
10100 aaAEGEAN WORD SEPARATOR LINEwaDOThaCHECK MARK
10107 haNUMBER ONEoaTWOpaHREEoaFOURpaIVEoaSIXpaEVENoaEIGHToaNINEoaTENpaWENTYpcHIRodFOpcIFocSIX
10116 pcEVENocEIGHocNINEoaONE HUNDREDoiTWOpiHREEoiFOURpiIVEoiSIXpiEVENoiEIGHToiNINEobONE THOUSAN
10123 ojTWOpjHREEojFOURpjIVEojSIXpjEVENojEIGHTojNINEojTENpjWENTYplHIRomFOplIFolSIXplEVENolEIGH
10133 olNINE
10137 haWEIGHT BASE UNIToeFIRST SUBoiSECONDojTHIRoiFOURTHhiDRY MEASURE FIRSThwLIQUID
1013E hiMEASURE SECONDpjTHIRaaGREEK ACROPHONIC ATTIC ONE QUARTER+baHALF+baDRACHMAxaFIVEzaFTY
10145 zaVE HUNDRED+cbTHOUSANzjFTYzaVE TALENTSxiTENxiFIFTYxiONE HUNDREDxrFIVxjONE THOUSANxsFIV
1014F +cbSTATERxiTENxiFIFTYxiONE HUNDREDxrFIVxjONE THOUSANxrTENxrFIFTYxbTEN MNA
10158 raHERAEUM ONE PLETHRONraTHESPIAN ONErhHERMIONraEPIDAUREAN TWOrgTHESPIraCYRENAIC TWO DRACHMAS
1015E rnEPIDAUREANraTROEZENIAN FIVE+caTEN+fa ALTERNATE FORMraHERMIONIAN TENriMESSErhTHESP+baHIRTY
10166 scROEZENIAN FIF+ha ALTERNATE FORMraHERMIONIAN FIFTYrjTHESP+aaONE HUNDRED+ajTHRE
1016C rjEPIDAUREAN FIVrpTROEZENIsqHESPrqCARYSTrqNAXrbTHESPIAN ONE THOUSAN+akFIVraDELPHIC FIVE MNAS
10174 rfSTRATIAN FIFTYgaONE HALF SIGNta ALTERNATE FORMgaTWO THIRDS SIGNhgHREE QUARTERgfYEAR
1017A gfTALENTgfDRACHMAgfOBOLgfTWO OBOLShlHREEglFOURhlIVEggMETRETEgfKYATHOS BASEgfLITRAggOUNKI
10185 gfXESTESgfARTABEifOURAggGRAMMgfTRYBLION BASEgfZEROgfONE QUARTERgfSINUSOIDgfINDICTION
1018E afNOMISMA
10190 afROMAN SEXTANSgfUNCIAgkSEMigXTULgmDIMIDIA ggSILIQUgfDENARIUSglQUIgiSESTERTgiDUPONDggA
1019B gfCENTURIALaaASCIA SYMBOL
101A0 aaGREEK SYMBOL TAU RHO
101D0 aaPHAISTOS DISC SIGN PEDESTRIANuaLUMED HEADthTATTOOtaCAPTIVEuaHILDtaWOMANtaHELMETtcGAUNTL
101D8 taTIARAtaARROWtcBtaSHIELDtaCLUBtaMANACLESvaTTOCKtaSAWtaLIDtaBOOMERANGtaCARPENTRY PLANE
101E3 taDOLIUMtaCOMBtaSLINGtaCOLUMNtaBEEHIVEtaSHIPtaHORNuaIDEtaBULLS LEGtaCATtaRAMtaEAGLEtbDOV
101F0 taTUNNYtaBEEtcPLANE TRtbVINtaPAPYRUStaROSETTEtaLILYtaOX BACKtaFLUTEtaGRATERtcSTRAIN
101FB uaMALL AXEtaWAVY BANDtaCOMBINING OBLIQUE STROKE
10280 aaLYCIAN LETTER AoaEoaBpaHoaGoaDoaIoaWoaZoaTHoaJoaKoaQoaLoaMoaNoaMMoaNNoaUoaPoaKKoaRoaSoaT
10298 paToaANobEoaHoaX
102A0 aaCARIAN LETTER AoaP2oaDoaLoaUUUoaRoaLDoaA2oaQoaBoaMoaOoaD2oaToaSHqa2paoaC-18oaUoaNNoaXoaN
102B6 oaTT2oaPoaSSoaIoaEoaUUUUoaKpa2oaNDoaUUoaGpa2oaSTqa2oaNGoaIIoaC-39oaTToaUUU2oaRRoaMBqa2qa3qa4
102CE oaLD2obEoaUUU3
102E0 baOPTIC EPACT THOUSANDS MARKnaDIGIT ONEtaTWOuaHREEtaFOURuaIVEtaSIXuaEVENtaEIGHTtaNINE
102EA naNUMBER TENvaWENTYvcHIRudFOvcIFucSIXvcEVENucEIGHucNINEuaONE HUNDREDuiTWOviHREEuiFOURviIVE
102F8 uiSIXviEVENuiEIGHTuiNINE
10300 aaOLD ITALIC LETTER AsaBEsbKsbDsbsbVsbZsbHscTsaIsaKAsaELtaMtaNtaSHsaOsaPEsbSHsaKUsaERtaSsaTE
10316 saUsaEKSsaPHEscKsaEFtaRSsaCHEsaIIsaUUsaESSlaNUMERAL ONEtbFIVtaTENtaFIFTY
1032D laLETTER YEsbNORTHERN TSsjSOUaaGOTHIC LETTER AHSAoaBAIRKANoaGIBAoaDAGSobAIHVUoaQAIRTHRAobIUJ
10337 oaHAGLoaTHIUTHoaEISoaKUSMAoaLAGUSoaMANNAoaNAUTHSoaJERoaURUSoaPAIRTHRAoaNINETYoaRAIDAoaSAUIL
10344 oaTEIWSoaWINJAoaFAIHUoaIGGWSoaHWAIRoaOTHALoaNINE HUNDRED
10350 aaOLD PERMIC LETTER ANsaBURsaGAIsbDOsaEsaZHOIseDsaZATAscDZIsaIsaKOKEsaLEIsaMENOEseNsaVOOI
1035F sbPEEscRsbSIsbTAsaUsaCHERYsaSHOOIudCHsaYRYtaERUsaOtaOsaEFsaHAsaTSIUsaVERscYvaItaATsaIEsaYU
10374 taAsbIaaCOMBINING OLD PERMIC LETTER AN+caDOI+caZATA+caNENOE+caSII
10380 aaUGARITIC LETTER ALPAqbBETqbGAMLqbKHqbDELTqaHOqbWqaZETAqcHOqaTETqaYODqaKAFqaSHINqaLAMDA
1038E qaMEMqaDHALqaNUNqaZUqaSAMKAqaAINqaPUqaSADEqaQOPAqbRASHqbTHANNqaGHAINqaTOqaIqaUqbSS
1039F jaWORD DIVIDERaaOLD PERSIAN SIGN AraIraUraKAsaUraGAsaUraXArbCrbJsaIraTAsaUraDAsaIsaUraTHArbP
103B2 rbBrbFrbNsaUraMAsaIsaUraYArbVsaIraRAsaUraLArbSrbZrbSHsbSrbH
103C8 rbAURAMAZDA+ba-2+baHArbXSHAAYATHIYraDAHYAAUSH+aa-2raBAGAsaUUMISHmaWORD DIVIDERmaNUMBER ONE
103D2 taTWOuaENuaWENTYtaHUNDRED
10400 aaDESERET CAPITAL LETTER LONG I+caE+caA+daH+caO+daOxaSHORT I+daE+daA+eaH+daO+eaOxaAYxaOWxaWU
1040F xaYEExaHxaPEExcBxcTxcDxcCHxcJxaKAYxcGxaEFxaVEExaETHxaTHEExaESxaZEExaESHxaZHEExaERyaLyaMyaN
10425 zaGxaOIxaEWiaSMALL LETTER LONG I+aaE+aaA+baH+aaO+baOvaSHORT I+baE+baA+caH+baO+caOvaAYvaOW
10436 vaWUvaYEEvaHvaPEEvcBvcTvcDvcCHvcJvaKAYvcGvaEFvaVEEvaETHvaTHEEvaESvaZEEvaESHvaZHEEvaERwaLwaM
1044C waNxaGvaOIvaEWaaSHAVIAN LETTER PEEPpaTOTpaKICKpaFEEpaTHIGHpaSOqaUREpaCHURCHpaYEApaHUNGpaBIB
1045B paDEADpaGAGpaVOWpaTHEYpaZOOpaMEASUREpbJUDGpbWOpaHA-HApaLOLLpaMIMEpaIFpaEGGpaASHqaDOpaON
1046B paWOOLpaOUTpaAHpaROARpaNUNpaEATpaAGEpbICpaUPpaOAKqaOZEqaILpaAWEqbRpaORpbAIpbERpaARRAYpaEAR
1047E paIANpaYEWaaOSMANYA LETTER ALEFpaBApbTpbJpbXpbKHpaDEELpaRApbSqaHIINpaDHApaCAYNpaGApbFpaQAAF
1048F pdKpaLAANpbMIIpbNUUpaWAWpaHApbYpbpaEpaIpaOpaUpaAApaEEpaOO
104A0 ibDIGIT ZERoaONEoaTWOpaHREEoaFOURpaIVEoaSIXpaEVENoaEIGHToaNINE
104B0 caAGE CAPITAL LETTER AwaIxaNwaHvaBRAvbCHvdEHwawaINvaHAwbYvaIvaKAvcEHvbKYvbLvbMvbNvaOwaINvaPA
104C5 vcEHvbSwbHvbTvcEHvbTSvdEHvbTSHvcDvaUvaWAvbKHvcGvbZwbH
104D8 gbSMALL LETTER uaIvaNuaHtaBRAtbCHtdEHuauaINtaHAubYtaItaKAtcEHtbKYtbLtbMtbNtaOuaINtaPAtcEHtbS
104EF ubHtbTtcEHtbTStdEHtbTSHtcDtaUtaWAtbKHtcGtbZubH
10500 abELBASAN LETTER paBEpbCqbHpbDpcNpbDHpaEIqapbFpbGqbJpbHpaIpaJEpbKpbLqbLpbMpbNqaAqaJEpaOpaPE
10518 pbQpbRqbRpbSqbHpbTqbHpaUpaVEpbXpaYpaZEqbHpcGraAMMApaKHE
10530 aaCAUCASIAN ALBANIAN LETTER ALT+abBE+aaGIM+aaDAT+aaEB+aaZARL+aaEYN+aaZHIL+aaTAS+aaCHA+aaYOWD
1053B +aaZHA+aaIRB+aaSHA+aaLAN+aaINYA+aaXEYN+abDYA+aaCAR+aaJHOX+aaKAR+aaLYIT+abHEY+aaQAY+aaAOR
10549 +aaCHOY+caI+baYAY+aaMAQ+aaQAR+aaNOWC+aaDZYAY+aaSHAK+aaJAYN+abO+aaTYAY+aaFAM+aaDZAY+aaCHAT
10557 +aaPEN+aaGHEYS+aaRAT+aaSEYK+aaVEYZ+aaTIWR+aaSHOY+aaIWN+aaCYAW+baAYN+aaYAYD+aaPIWR+aaKIW
1056F taCITATION MARKaaVITHKUQI CAPITAL LETTER AyaBBEzbybCzbHybDzbHyaEIzaybFyaGA
1057C ybHzbHyaIzaJEycyaKAybLzbLyaMEybNzbJyaOyaPEyaQAyaRE
1058C ybSzbHybTzbHyaUyaVEybX
10594 yaYyaZE
10597 jaSMALL LETTER AwaBBExbwbCxbHwbDxbHwaEIxawbFwaGA
105A3 wbHxbHwaIxaJEwcwaKAwbLxbLwaMEwbNxbJwaOwaPEwaQAwaRE
105B3 wbSxbHwbTxbHwaUwaVEwbX
105BB waYwaZE
10600 aaLINEAR A SIGN AB001sa2sa3sa4sa5sa6sa7sa8sa9ra10sa1sa3sa6sa7ra20sa1taFtaMsa2taFtaMsa3taMsa4
10618 sa6sa7sa8pa028BpaB029ra30sa1sa4sa7sa8sa9ra40sa1sa4sa5sa6sa7sa8sa9ra50sa1sa3sa4sa5sa6sa7sa8
10633 sa9ra60sa1sa5sa6sa7sa9ra70sa3sa4sa6sa7sa8sa9ra80sa1sa2sa5sa6sa7pa100-102paB118ra20pa120B
1064B paB122sa3ra31AtaBpa131CpaB164ra71ra80sa8ra91pb30ra2ra3ra4ra5ra6ra7ra8ra9AsaBsaCqa10ra1ra2
10663 ra3AsaBsaCra4ra5ra6ra7ra8ra9qa20ra1ra2ra3ra4ra5ra6ra7ra8ra9qa30ra1ra2ra3ra4ra5ra6ra7ra8ra9
10680 qa40ra1ra2ra3ra4ra5ra6ra7ra8ra9qa50ra1ra2ra3ra4ra5ra6ra7ra8ra9qa60ra1ra2ra3ra4ra5ra6ra7ra8
1069D ra9qa70ra1pa400-VASre1re2re3re4re5re6re7re8re9qe10re1re2re3re4re5re6re7re8pa501ra2ra3ra4ra5
106B8 ra6ra8ra9qa10ra1ra2ra3ra5ra6qa20ra1ra3ra4ra5ra6ra7ra8ra9qa30ra1ra2ra4ra5ra6ra7ra8ra9qa40ra1
106D5 ra2ra5ra7ra8ra9qa50ra1ra2ra3ra4ra5ra6ra7ra9qa63ra4ra5ra6ra8ra9qa70ra1ra2ra3ra4ra5ra6ra7ra8
106F2 ra9qa80ra1ra2ra3ra4ra5ra6ra7ra8ra9qa91ra2ra4ra5ra6ra8pa600ra1ra2ra3ra4ra6ra8ra9qa10ra1ra2ra3
1070F ra4ra5ra6ra7ra8ra9qa20ra1ra2ra3ra4ra6ra7ra8ra9qa34ra7ra8qa40ra2ra3ra4ra5ra6ra8ra9qa51ra2ra3
1072C ra4ra5ra6ra7ra8ra9qa60ra1ra2ra3ra4
10740 pa701 Ara2 Bra3 Dra4 Era5 Fra6 Hra7 Jra8 Kra9 Lsa-2 L2ta3 L3ta4 L4ta6 L6qa10 Wra1 Xra2 Y
10750 ra3 OMEGAra4 ABBrc5 ra7 DDqa26 EYYYqa32 JE
10760 pa800ra1ra2ra3ra4ra5ra6ra7
10780 aaMODIFIER LETTER SMALL CAPITAL AAraUPERSCRIPT TRIANGULAR COLON+cqHALF raMALL AEwaCAPITAL B
10785 waB WITH HOOK
10787 waDZ DIGRAPH+ga WITH RETROFLEX HOOK+maCURLxaEZH DIGRAPHxa WITH TAIL+daHOOK+ha AND TAIL
1078E waREVERSED EwcCLOSED REVERSED OPENwaFENG DIGRAPHwaRAMS HORNwaCAPITAL GwaG WITH HOOK
10794 wlCAPITAL waH WITH STROKEwaCAPITAL HwaHENG WITH HOOKwfDOTLESS J WITH STROKE ANDwaLS DIGRAPH
1079A xiZxa WITH BELTwlCAPITAL wfL WITH RETROFLEX HOOK ANDxaEZH+aa WITH RETROFLEX HOOKwaTURNED Y
107A1 +ea WITH BELTwaO WITH STROKEwbCAPITAL OxaLOSED OMEGAwaQwaTURNED R WITH LONG LEG
107A7 +sa AND RETROFLEX HOOKwaR WITH TAIL+daFISHHOOKwaCAPITAL RwaTC DIGRAPH WITH CURLxaS DIGRAPH
107AD +ga WITH RETROFLEX HOOKxaESH DIGRAPHxa WITH RETROFLEX HOOKwfV WITH RIGHT
107B2 waCAPITAL YqaGLOTTAL STOP WITH STROKEqyREVERSED qaBILABIAL CLICKqiDENTqiLATERqgALVEOLAR
107B9 qbRETROFLEX CLICK WITH RETROFLEX HOOqaSMALL S WITH CURL
10800 aaCYPRIOT SYLLABLE AraEraIraOraUraJA
10808 saO
1080A raKAsaEsaIsaOsaUraLAsaEsaIsaOsaUraMAsaEsaIsaOsaUraNAsaEsaIsaOsaUraPAsaEsaIsaOsaUraRAsaEsaI
10826 saOsaUraSAsaEsaIsaOsaUraTAsaEsaIsaOsaUraWAsaEsaIsaO
10837 raXAsaE
1083C raZA
1083F saOaaIMPERIAL ARAMAIC LETTER ALEPHybBETyaGIMELyaDALETHyaHEyaWAWyaZAYINyaHETHydTybYODybKAP
1084B ybLAMEDyaMEMyaNUNyaSAMEKHyaAYINyaPEybSADHyaQOPHybRESyaSHINyaTAW
10857 raSECTION SIGNraNUMBER ONEyaTWOzaHREEzaENzaWENTYyaONE HUNDRED+cbTHOUSANyjTEN
10860 aaPALMYRENE LETTER ALEPHrbBETraGIMELraDALETHraHEraWAWraZAYINraHETHrdTrbYODrbKAPrbLAMEDraMEM
1086D raFINAL NUNrdraSAMEKHraAYINraPErbSADHraQOPHrbRESraSHINraTAWmaFT-POINTING FLEURONksRIGH
10879 kaNUMBER ONEraTWOsaHREEraFOURsaIVEraTENsaWENTYaaNABATAEAN LETTER FINAL ALEPHrfrbFINAL BETre
10884 raGIMELraDALETHraFINAL HErcraWAWraZAYINraHETHrdTrbFINAL YODrerbFINAL KAPrerbFINAL LAMEDrg
10892 raFINAL MEMrdraFINAL NUNrdraSAMEKHraAYINraPErbSADHraQOPHrbRESraFINAL SHINreraTAW
108A7 kaNUMBER ONEraTWOsaHREEraFOURklCRUCIFORM kaNUMBER FIVEraTENsaWENTYraONE HUNDRED
108E0 aaHATRAN LETTER ALEPHobBEToaGIMELoaDALETH-RESHoaHEoaWAWoaZAYNoaHETHodTobYODobKAPobLAMEDoaMEM
108ED oaNUNoaSAMEKHoaAYNoaPEobSADHoaQOPH
108F4 oaSHINoaTAW
108FB haNUMBER ONEobFIVoaTENpaWENTYoaONE HUNDREDaaPHOENICIAN LETTER ALFsaBETsaGAMLsaDELTsaHEsaWAU
10906 saZAIsaHETscTsaYODsaKAFsaLAMDsaMEMsaNUNsaSEMKsaAINsaPEsbSADsaQOFsaROSHsaSHINsaTAU
10916 laNUMBER ONEsaTENtaWENTYsaONE HUNDREDsaTWOtaHREE
1091F laWORD SEPARATORaaLYDIAN LETTER AoaBoaGoaDoaEoaVoaIoaYoaKoaLoaMoaNoaOoaRoaSSoaToaUoaFoaQoaS
10934 oaTToaANobEoaLYoaNNoaC
1093F haTRIANGULAR MARK
10980 aaMEROITIC HIEROGLYPHIC LETTER A+daE+daI+daO+daYA+dbW+dbB+fa-2+daPA+dbM+dbN+fa-2+eaE+fa-2
1098E +daRA+fa-2+daLA+dbKH+dcH+dbS+fa-2+eaE+daKA+dbQ+dbT+fa-2+eaE+fa-2+eaO+daDAwaSYMBOL VIDJ+ha-2
109A0 jaCURSIVE LETTER AyaEyaIyaOyaYAybWybBybPybMybNzaEyaRAybLybKHycHybSycARCHAIC yaSEyaKAybQybT
109B5 zaEzaOyaDA
109BC raFRACTION ELEVEN TWELFTHS+aaONE HALFraLOGOGRAM RMT+aaIMNraNUMBER ONEyaTWOzaHREEyaFOURzaIVE
109C5 yaSIXzaEVENyaEIGHTyaNINEyaTENzaWENTYzcHIRydFOzcIFycSIXzcEVEN
109D2 yaONE HUNDREDyiTWOziHREEyiFOURziIVEyiSIXziEVENyiEIGHTyiNINEybONE THOUSANyjTWOzjHREEyjFOUR
109DF zjIVEyjSIXzjEVENyjEIGHTyjNINEyjTENzjWENTYzlHIRymFOzlIFylSIXzlEVENylEIGHylNINEyjONE HUNDRED
109EE yrTWOzrHREEyrFOURzrIVEyrSIXzrEVENyrEIGHTyrNINEraFRACTION ONE TWELFTH+aaTWO TWELFTHS+bjHREE
109F9 +ajFOUR+bjIVE+ajSIX+bjEVEN+ajEIGHT+ajNINE+ajTENaaKHAROSHTHI LETTER AlaVOWEL SIGN IwaU
10A03 waVOCALIC R
10A05 waEwaO
10A0C raLENGTH MARKlaSIGN DOUBLE RING BELOWqaANUSVARAqbVISARGlbLETTER KtbHsbGtbH
10A15 sbCtbHsbJ
10A19 sbNYsbTTubHsbDDubHsbNNsbTtbHsbDtbHsbNsbPtbHsbBtbHsbMsbYsbRsbLsbVsbSHtbStbsbZsbHsbKKsbTTTHvb
10A35 sbVH
10A38 laSIGN BAR ABOVEqaCAUDAqaDOT BELOW
10A3F laVIRAMAlaDIGIT ONEraTWOsaHREEraFOURlaNUMBER TENtaWENTYsaONE HUNDREDwbTHOUSAN
10A48 laFRACTION ONE HALF
10A50 laPUNCTUATION DOTxaSMALL CIRCLExgyaRESCENT BARxaMANGALAMxaLOTUSxaDANDAyeOUBLE DxaLINES
10A60 aaOLD SOUTH ARABIAN LETTER HEzaLAMEDHzbHETzaMEMzaQOPHzaWAWzaSHINzaRESHzbBETzaTAWzaSATzaKAPH
10A6C zaNUNzaKHETHzaSADHE+baMEKHzaFEzaALEF+aaYNzaDHADHEzaGIMELzaDALETHzaGHAYNzaTETHzaZAYNzaDHALETH
10A7A zbYODzaTHAW+baETHsaNUMBER ONEzaFIFTYvaERIC INDICATOReaNORTH ARABIAN LETTER HEHzaLAMzaHAH
10A83 zaMEEMzaQAFzaWAWzaES-2zaREHzcBzcTzaES-1zaKAFzaNOONzaKHAHzaSADzaES-3zaFEHzaALEF+aaINzaDAD
10A94 zaGEEMzaDALzaGHAINzaTAHzaZAINzaTHALzaYEHzcTHzbZAsaNUMBER ONEzaTEN+aaWENTY
10AC0 aaMANICHAEAN LETTER ALEPHsbBETtdHsaGIMELteHsaDALETHsaHEsaWAWlaSIGN UDlaLETTER ZAYINteHseJteH
10ACD saHETHsdTsbYODsbKAPsdXsdKHsbLAMEDsfDHsgTsaMEMsaNUNsaSAMEKHsaAYINtdAsaPEsbFsbSADHsaQOPHsdX
10AE0 sdQHsbRESsaSHINtdSsaTAWlaABBREVIATION MARK ABOVE+daBELOW
10AEB laNUMBER ONEsbFIVsaTENtaWENTYsaONE HUNDREDlaPUNCTUATION STARxaFLEURONxaDOUBLE DOT WITHIN DOT
10AF3 zm+aaxaTWO DOTSxaLINE FILLER
10B00 aaAVESTAN LETTER AqaAqaOqbAqaNqbAqaEraEpbqaEpaOqaOpaIqaIpaUqaUpaKEpbXqbYqbVpbGqbGqbHpbCpbJ
10B19 pbTqbHpbDqbHpbTTpbPpbFpbBqbHpbNGrbYrbVqbqbYqbNpbMpcHpbYYqbpbVpbRpbLpbSpbZpbSHpcZpbSHYqbSHpc
10B39 iaABBREVIATION MARKaaTINY TWO DOTS OVER ONE DOT PUNCTUATIONa+iSMALLa+iLARGE
10B3D gmONE DOT OVER TWO DOTSgmTWO RINGS OVER ONE RINGgmONE RING OVER TWO RINGS
10B40 aaINSCRIPTIONAL PARTHIAN LETTER ALEPH+ebBET+eaGIMEL+eaDALETH+eaHE+eaWAW+eaZAYIN+eaHETH+edT
10B49 +ebYOD+ebKAP+ebLAMED+eaMEM+eaNUN+eaSAMEKH+eaAYIN+eaPE+ebSADH+eaQOPH+ebRES+eaSHIN+eaTAW
10B58 xaNUMBER ONE+eaTWO+faHREE+eaFOUR+eaTEN+faWENTY+eaONE HUNDRED+ibTHOUSANqaHLAVI LETTER ALEPH
10B61 +dbBET+daGIMEL+daDALETH+daHE+daWAW-AYIN-RESH+daZAYIN+daHETH+ddT+dbYOD+dbKAP+dbLAMED
10B6C +dbMEM-QOP+daNUN+daSAMEKH+daPE+dbSADH+eaHIN+daTAW
10B78 waNUMBER ONE+daTWO+eaHREE+daFOUR+daTEN+eaWENTY+daONE HUNDRED+hbTHOUSAN
10B80 aaPSALTER PAHLAVI LETTER ALEPHxbBETxaGIMELxaDALETHxaHExaWAW-AYIN-RESHxaZAYINxaHETHxbYODxbKAP
10B8A xbLAMEDxbMEM-QOPxaNUNxaSAMEKHxaPExbSADHyaHINxaTAW
10B99 qaSECTION MARKqmTURNED qaFOUR DOTS WITH CROSS+faDOT
10BA9 qaNUMBER ONExaTWOyaHREExaFOURxaTENyaWENTYxaONE HUNDRED
10C00 aaOLD TURKIC LETTER ORKHON AscYENISEI+baEsaORKHON IscYENISEI+aaEsaORKHON O+aaEsdYENISEI
10C09 saORKHON ABsdYENISEIsbORKHON AEseYENISEIsaORKHON AGsdYENISEIsbORKHON AEseYENISEIsaORKHON AD
10C12 sdYENISEIsbORKHON AEzaEZsdYENISEIsaORKHON AYsdYENISEIsbORKHON AEseYENISEIsaORKHON AEK
10C1B seYENISEIscORKHON OseYENISEIsaORKHON ALsdYENISEIsbORKHON AEzaELT+aaMzaAN+abEseYENISEI
10C26 saORKHON ENTseYENISEIsaORKHON ENCseYENISEIsaORKHON ENYseYENISEI+aaANGscORKHON EsdYENISEI A
10C2F saORKHON EPzbOzaICzbEsdYENISEIsaORKHON AQsdYENISEIsbORKHON IsdYENISEIsbORKHON OsdYENISEI
10C3A saORKHON ARsdYENISEIsbORKHON AE+aaS+abE+aaSHseYENISEIscORKHON EseYENISEIsaORKHON ATsdYENISEI
10C45 sbORKHON AEseYENISEIsbORKHON OzaBASH
10C80 eaHUNGARIAN CAPITAL LETTER A+eaA+daEB+dbAM+daEC+ebN+eaCS+eaD+dbAN+daE+dbCLOSE +dbE+eaF+eaG
10C8E +faY+eaH+daI+eaI+daEJ+eaK+dbA+dbUN+daEL+faY+eaM+eaN+faY+daO+eaO+daNIKOLSBURG OE+ddRUDIMENTA
10C9F +dbOE+daEP+ebM+eaR+dcSHORT +daES+faZ+eaT+ebN+eaTY+eaCH+daU+eaU+daNIKOLSBURG UE+ddRUDIMENTA
10CAE +daEV+eaZ+faS+eaNT-SHAPED SIGN+daUS
10CC0 oaSMALL LETTER A+caA+baEB+bbAM+baEC+cbN+caCS+caD+bbAN+baE+bbCLOSE +bbE+caF+caG+daY+caH+baI
10CD1 +caI+baEJ+caK+bbA+bbUN+baEL+daY+caM+caN+daY+baO+caO+baNIKOLSBURG OE+bdRUDIMENTA+bbOE+baEP
10CE1 +cbM+caR+bcSHORT +baES+daZ+caT+cbN+caTY+caCH+baU+caU+baNIKOLSBURG UE+bdRUDIMENTA+baEV+caZ
10CF0 +daS+caNT-SHAPED SIGN+baUS
10CFA oaNUMBER ONEvbFIVvaTENvaFIFTYvaONE HUNDREDzbTHOUSANaaHANIFI ROHINGYA LETTER AxbBxbPxbTybTxbJ
10D06 xbCxbHxcKxbFxbDybDxbRybRxbZxbSybHxbKxbGxbLxbMxbNxbWxcKINNA xbYxcKINNA xbNGybYxbVqbVOWEL waI
10D1F waUwaEwaOqaMARK SAKINvaNA KHONNAqaSIGN HARBAHAYvaTAHALAxbNxaSSI
10D30 qaDIGIT ZEROwaONEwaTWOxaHREEwaFOURxaIVEwaSIXxaEVENwaEIGHTwaNINE
10E60 acRUMI DIGIT OlaTWOmaHREElaFOURmaIVElaSIXmaEVENlaEIGHTlaNINEfaNUMBER TENnaWENTYncHIRmdFOncIF
10E6E mcSIXncEVENmcEIGHmcNINEmaONE HUNDREDmiTWOniHREEmiFOURniIVEmiSIXniEVENmiEIGHTmiNINE
10E7B faFRACTION ONE HALFsaQUARTERsaTHIRDoaTWO THIRDS
10E80 aaYEZIDI LETTER ELIFoaBEobPpbHocTobSoaCIMpcHqcHoaHHAobXoaDALocZoaRApbHobZobJoaSINpcHpaADocD
10E95 oaTAoaZEoaEYNodXHoaFAobVqa ALTERNATE FORMoaQAFocKpcHocGoaLAMobMIoaNUNoaUMoaWAWobOobEoaHAY
10EA8 oaYOTobE
10EAB haCOMBINING HAMZA MARKrgMADDhfHYPHENATION
10EB0 haLETTER LAM WITH DOT ABOVEogYOT WITH CIRCUMFLEX
10F00 aaOLD SOGDIAN LETTER ALEPHtfFINAL tbBETteFINAL taGIMELtaHEtcFINAL taWAWtaZAYINtaHETHtbYOD
10F0B tbKAPtbLAMEDtaMEMtaNUNtdFINAL +ca WITH VERTICAL TAILtaSAMEKHtaAYINudLTERNATE AtaPEtbSADH
10F16 tfFINAL +ea WITH VERTICAL TAILtaRESH-AYIN-DALETHtaSHINtaTAWtdFINAL +ca WITH VERTICAL TAIL
10F1D maNUMBER ONEtaTWOuaHREEtaFOURuaIVEtaTENuaWENTYucHIRtaONE HUNDREDmaFRACTION ONE HALF
10F27 maLIGATURE AYIN-DALETH
10F30 abSOGDIAN LETTER ALEPpbBETpaGIMELpaHEpaWAWpaZAYINpaHETHpbYODpbKAPpbLAMEDpaMEMpaNUNpaSAMEKH
10F3D paAYINpaPEpbSADHpaRESH-AYINpcSHpaTAWpaFETHpbLESiaINDEPENDENT SHINiaCOMBINING DOT BELOW
10F47 sgTWO DOTSsaDOT ABOVEsgTWO DOTSsgCURVEyaBELOWsaHOOK ABOVExaBELOWskLONG sgRESHsgSTROKE
10F51 iaNUMBER ONEpaTENqaWENTYpaONE HUNDREDiaPUNCTUATION TWO VERTICAL BARS+la WITH DOTS
10F57 uaCIRCLE WITH DOTuaTWO CIRCLES WITH DOTSuaHALF CIRCLE WITH DOT
10F70 aaOLD UYGHUR LETTER ALEPHsbBETsdGIMEL-HsaWAWsaZAYINsaFINAL HETHsbYODsbKAPsbLAMEDsaMEMsaNUN
10F7B saSAMEKHsaPEsbSADHsaRESHsaSHINsaTAWsaLESHlaCOMBINING DOT ABOVEzaBELOWvaTWO DOTS ABOVE
10F85 +eaBELOWlaPUNCTUATION BARxaTWO BARS+bbDOTxfFOUR
10FB0 aaCHORASMIAN LETTER ALEPHsfSMALL sbBETsaGIMELsaDALETHsaHEsaWAWsdCURLED saZAYINsaHETHsbYOD
10FBB sbKAPsbLAMEDsaMEMsaNUNsaSAMEKHsaAYINsaPEsaRESHsaSHINsaTAWlaNUMBER ONEsaTWOtaHREEsaFOURsaTEN
10FCA taWENTYsaONE HUNDRED
10FE0 aaELYMAIC LETTER ALEPHpbBETpaGIMELpaDALETHpaHEpaWAWpaZAYINpaHETHpdTpbYODpbKAPpbLAMEDpaMEM
10FED paNUNpaSAMEKHpaAYINpaPEpbSADHpaQOPHpbRESpaSHINpaTAWjaIGATURE ZAYIN-YODH
11000 aaBRAHMI SIGN CANDRABINDUmaANUSVARAmbVISARGmbJIHVAMULIYmdUPADHMANhbLETTER paAoaIpaIoaUpaU
1100B oaVOCALIC RxaRwaLxaLoaEoaAIoaOoaAUoaKApbHobGpbHobNGobCpbHobJpbHobNYobTTqbHobDDqbHobNNobTpbH
11024 obDpbHobNobPpbHobBpbHobMobYobRobLobVobSHpbSpbobHobLLodOLD TAMIL LybRRybNNNhbVOWEL SIGN A
11039 scBHATTIPROLU saItaIsaUtaUsaVOCALIC R+baR+aaL+baLsaEsaAIsaOsaAUiaIRAMAhbDANDieOUBLE D
11049 haPUNCTUATION DOTvbUBLE DOtaLINEtaCRESCENT BARtaLOTUS
11052 haNUMBER ONEoaTWOpaHREEoaFOURpaIVEoaSIXpaEVENoaEIGHToaNINEoaTENpaWENTYpcHIRodFOpcIFocSIX
11061 pcEVENocEIGHocNINEoaONE HUNDREDsbTHOUSANhaDIGIT ZEROnaONEnaTWOoaHREEnaFOURoaIVEnaSIXoaEVEN
1106E naEIGHTnaNINEhaSIGN OLD TAMIL VIRAMAhaLETTER OLD TAMIL SHORT E+eaO
11073 haVOWEL SIGN OLD TAMIL SHORT E+iaOhaLETTER OLD TAMIL LLA
1107F haNUMBER JOINERaaKAITHI SIGN CANDRABINDUmaANUSVARAmbVISARGhbLETTER paAoaIpaIoaUpaUoaEoaAIoaO
1108C oaAUoaKApbHobGpbHobNGobCpbHobJpbHobNYobTTqbHobDDqbDHqcocRobNNobTpbHobDpbHobNobPpbHobBpbHobM
110A8 obYobRobLobVobSHpbSpbobHhbVOWEL SIGN AsaItaIsaUtaUsaEsaAIsaOsaAUhaSIGN VIRAMAmbNUKT
110BB haABBREVIATION SIGNhkENUMERhfNUMBERhaSECTION MARKhmDOUBLE iaANDAieOUBLE D
110C2 haVOWEL SIGN VOCALIC R
110CD haNUMBER SIGN ABOVE
110D0 aaSORA SOMPENG LETTER SAHucTucBucCucDucGucMucNGucLucNucVucPucYucRucHucKucJucNYucubEEubIubU
110E6 ubOubEuaMAE
110F0 naDIGIT ZEROtaONEtaTWOuaHREEtaFOURuaIVEtaSIXuaEVENtaEIGHTtaNINE
11100 aaCHAKMA SIGN CANDRABINDUmaANUSVARAmbVISARGhbLETTER AoaIoaUoaEoaKAApcHocGpcHocNGocCpcHocJpcH
11110 ocNYocTTqcHocDDqcHocNNocTpcHocDpcHocNocPpcHocBpcHocMocYYpcocRocLocWocSocHhbVOWEL SIGN saItaI
1112A saUtaUsaEsaAIsaOsaAUsaOIhaO MARKhfAUhaVIRAMAhbMAAYYA
11136 haDIGIT ZEROnaONEnaTWOoaHREEnaFOURoaIVEnaSIXoaEVENnaEIGHTnaNINEhaSECTION MARKhaDANDA
11142 ieOUBLE DhaQUESTION MARKhaLETTER LHAAhcVOWEL SIGN saEIhaLETTER VAA
11150 abMAHAJANI LETTER qaIqaUqaEqaOqaKArbHqbGrbHqbCrbHqbJrbHqbNYqbTTsbHqbDDsbHqbNNqbTrbHqbDrbHqbN
11168 qbPrbHqbBrbHqbMqbRqbLqbVqbSqbHqbRRjbSIGN NUKTjaABBREVIATION SIGNjaSECTION MARK
11176 jaLIGATURE SHRI
11180 aaSHARADA SIGN CANDRABINDUnaANUSVARAnbVISARGibLETTER qaApaIqaIpaUqaUpaVOCALIC RyaRxaLyaLpaE
1118E paAIpaOpaAUpaKAqbHpbGqbHpbNGpbCqbHpbJqbHpbNYpbTTrbHpbDDrbHpbNNpbTqbHpbDqbHpbNpbPqbHpbBqbHpbM
111AA pbYpbRpbLqbLpbVpbSHqbSqbpbHibVOWEL SIGN AtaIuaItaUuaUtaVOCALIC R+caR+baL+caLtaEtaAItaOtaAU
111C0 iaSIGN VIRAMAnbAVAGRAHnbJIHVAMULIYndUPADHMANiaOMiaDANDAjeOUBLE DiaABBREVIATION SIGN
111C8 iaSEPARATORjaANDHI MARKjaIGN NUKTAiaVOWEL MODIFIER MARKifEXTRA SHORT VOWELifSUTRA
111CE iaVOWEL SIGN PRISHTHAMATRA EiaSIGN INVERTED CANDRABINDUiaDIGIT ZEROoaONEoaTWOpaHREEoaFOUR
111D5 paIVEoaSIXpaEVENoaEIGHToaNINEiaEKAMicSIGN SIDDHiaHEADSTROKEiaCONTINUATION SIGN
111DE iaSECTION MARK-1va2
111E1 baINHALA ARCHAIC DIGIT ONEwaTWOxaHREEwaFOURxaIVEwaSIXxaEVENwaEIGHTwaNINEqaNUMBER TENyaWENTY
111EC ycHIRxdFOycIFxcSIXycEVENxcEIGHxcNINExaONE HUNDRED+bbTHOUSAN
11200 aaKHOJKI LETTER ApaAoaIoaUoaEoaAIoaOoaAUoaKApbHobGpbGpbHobNGobCpbHobJpbJ
11213 obNYobTTqbHobDDqbHobNNobTpbHobDpbDDpbHobNobPpbHobBpbBpbHobMobYobRobLobVobSobHobLL
1122C hbVOWEL SIGN AsaItaIsaUsaEsaAIsaOsaAUhaSIGN ANUSVARAmbVIRAMmbNUKTmbSHADDhcDANieOUBLE D
1123A haWORD SEPARATORhaSECTION MARKhmDOUBLE haABBREVIATION SIGNhbSIGN SUKU
11280 aaMULTANI LETTER ApaIpaUpaEpaKAqbHpbG
11288 qbH
1128A pbCqbHpbJqbJ
1128F pbNYpbTTrbHpbDDrbDrbHpbNNpbTqbHpbDqbHpbNpbPqbHpbB
1129F qbHpbMpbYpbRpbLpbVpbSpbHpbRRqbHiaSECTION MARK
112B0 aaKHUDAWADI LETTER AsaAraIsaIraUsaUraEraAIraOraAUraKAsbHrbGsbGsbHrbNGrbCsbHrbJsbJsbHrbNYrbTT
112C7 tbHrbDDtbDrbRRrbDDHrbNNrbTsbHrbDsbHrbNrbPsbHrbBsbBsbHrbMrbYrbRrbLrbVrbSHsbrbHkbSIGN ANUSVAR
112E0 kbVOWEL SIGN AvaIwaIvaUwaUvaEvaAIvaOvaAUkaSIGN NUKTApbVIRAM
112F0 kaDIGIT ZEROqaONEqaTWOraHREEqaFOURraIVEqaSIXraEVENqaEIGHTqaNINE
11300 abGRANTHA SIGN COMBINING ANUSVARA ABOVoaANDRABINDUnaANUSVARAnbVISARG
11305 ibLETTER qaApaIqaIpaUqaUpaVOCALIC RxaL
1130F paEEpaAI
11313 paOOpaAUpaKAqbHpbGqbHpbNGpbCqbHpbJqbHpbNYpbTTrbHpbDDrbHpbNNpbTqbHpbDqbHpbN
1132A pbPqbHpbBqbHpbMpbYpbR
11332 pbLqbL
11335 pbVpbSHqbSqbpbH
1133B aaCOMBINING BINDU BELOWaaGRANTHA SIGN NUKTAnbAVAGRAHibVOWEL SIGN AtaIuaItaUuaUtaVOCALIC R
11344 +caR
11347 taEEtaAI
1134B taOOtaAUiaSIGN VIRAMA
11350 iaOM
11357 iaAU LENGTH MARK
1135D iaSIGN PLUTAibLETTER VEDIC ANUSVARviDOUBLE qaOCALIC RRxaLLibVOWEL SIGN VOCALIC +caL
11366 aaCOMBINING GRANTHA DIGIT ZEROyaONEyaTWOzaHREEyaFOURzaIVEyaSIX
11370 saLETTER AzbKzbNzaVIzaPA
11400 abNEWA LETTER naAmaInaImaUnaUmaVOCALIC RvaRuaLvaLmaEmaAImaOmaAUmaKAnbHmbGnbHmbNGobHmbCnbHmbJ
11417 nbHmbNYobHmbTTobHmbDDobHmbNNmbTnbHmbDnbHmbNnbHmbPnbHmbBnbHmbMnbHmbYmbRnbHmbLnbHmbWmbSHnbSnb
11434 mbHfbVOWEL SIGN AqaIraIqaUraUqaVOCALIC RzaRyaLzaLqaEqaAIqaOqaAUfaSIGN VIRAMAkaCANDRABINDU
11444 kaANUSVARAkbVISARGkbNUKTkbAVAGRAHkbFINAL ANUSVARfaOMfaSIDDHIfaDANDAgeOUBLE DfbCOMM
1144E faGAP FILLERfaABBREVIATION SIGNfaDIGIT ZEROlaONElaTWOmaHREElaFOURmaIVElaSIXmaEVENlaEIGHT
11459 laNINEgaOUBLE COMMAfaPLACEHOLDER MARK
1145D faINSERTION SIGNfaSANDHI MARKfaLETTER VEDIC ANUSVARAfbSIGN JIHVAMULIYkdUPADHMAN
11480 aaTIRHUTA ANJIiaLETTER AqaApaIqaIpaUqaUpaVOCALIC RyaRxaLyaLpaEpaAIpaOpaAUpaKAqbHpbGqbHpbNG
11494 pbCqbHpbJqbHpbNYpbTTrbHpbDDrbHpbNNpbTqbHpbDqbHpbNpbPqbHpbBqbHpbMpbYpbRpbLpbVpbSHqbSqbpbH
114B0 ibVOWEL SIGN AtaIuaItaUuaUtaVOCALIC R+caR+baL+caLtaEtbSHORT taAItaOtbSHORT taAU
114BF ibSIGN CANDRABINDnaANUSVARAnbVISARGpbRAMnbNUKTnbAVAGRAHiaGVANGiaABBREVIATION SIGNiaOM
114D0 iaDIGIT ZEROoaONEoaTWOpaHREEoaFOURpaIVEoaSIXpaEVENoaEIGHToaNINE
11580 aaSIDDHAM LETTER AqaApaIqaIpaUqaUpaVOCALIC RyaRxaLyaLpaEpaAIpaOpaAUpaKAqbHpbGqbHpbNGpbCqbH
11595 pbJqbHpbNYpbTTrbHpbDDrbHpbNNpbTqbHpbDqbHpbNpbPqbHpbBqbHpbMpbYpbRpbLpbVpbSHqbSqbpbH
115AF ibVOWEL SIGN AtaIuaItaUuaUtaVOCALIC R+caR
115B8 taEtaAItaOtaAUibSIGN CANDRABINDnaANUSVARAnbVISARGpbRAMnbNUKTnaSIDDHAMiaDANDAjeOUBLE D
115C4 iaSEPARATOR DOTsaBARiaREPETITION MARK-1ya2ya3iaEND OF TEXT MARK
115CA iaSECTION MARK WITH TRIDENT AND U-SHAPED ORNAMENTS+meDOTTED CRESC+avRAYS+qjDOUBLE +qmTRIP
115CF vaDOUBLE RING+ga WITH RAYSvbWITH DOUBLE CRESCENT+amTRIP+anQUADRU+aoSEPT+abCIRCLES AND RAY
115D6 +mbTWO ENCLOSURE+mlFOURiaLETTER THREE-CIRCLE ALTERNATE IqtWO+laIpaALTERNATE UimVOWEL SIGN
115DD +eaU
11600 aaMODI LETTER AnaAmaInaImaUnaUmaVOCALIC RvaRuaLvaLmaEmaAImaOmaAUmaKAnbHmbGnbHmbNGmbCnbHmbJ
11616 nbHmbNYmbTTobHmbDDobHmbNNmbTnbHmbDnbHmbNmbPnbHmbBnbHmbMmbYmbRmbLmbVmbSHnbSnbmbHmbLL
11630 fbVOWEL SIGN AqaIraIqaUraUqaVOCALIC RzaRyaLzaLqaEqaAIqaOqaAUfaSIGN ANUSVARAkbVISARGmbRAM
11640 kbARDHACANDRfbDANDgeOUBLE DfaABBREVIATION SIGNfaSIGN HUVA
11650 faDIGIT ZEROlaONElaTWOmaHREElaFOURmaIVElaSIXmaEVENlaEIGHTlaNINE
11660 caNGOLIAN BIRGA WITH ORNAMENTkaROTATED BIRGAkaDOUBLE BIRGA WITH ORNAMENTkwTRIP
11664 kjBIRGA WITH DOUBLEkjROTATED BIRGA WITH+diDOUBLE kaINVERTED BIRGAya WITH DOUBLE ORNAMENT
11669 kaSWIRL BIRGAva WITH ORNAMENT+biDOUBLE k+gTURNED 
11680 aaTAKRI LETTER AoaAnaIoaInaUoaUnaEnaAInaOnaAUnaKAobHnbGobHnbNGnbCobHnbJobHnbNYnbTTpbHnbDDpbH
11698 nbNNnbTobHnbDobHnbNnbPobHnbBobHnbMnbYnbRnbLnbVnbSHobnbHnbRRgcSIGN ANUSVAlbVISARG
116AD gbVOWEL SIGN AraIsaIraUsaUraEraAIraOraAUgaSIGN VIRAMAlbNUKTgbLETTER ARCHAIC KH
116B9 gaABBREVIATION SIGN
116C0 gaDIGIT ZEROmaONEmaTWOnaHREEmaFOURnaIVEmaSIXnaEVENmaEIGHTmaNINE
11700 aaAHOM LETTER KAnbHmbNGnbmbTmcALTERNATE mbPnbHmbBmbMmbJmbCHmcTmbRmbLmbSmbNYmbHmbmbDnbHmbG
11716 mcALTERNATE mbGHmcBmcJmbALTERNATE B
1171D fbCONSONANT SIGN MEDIAL L+bbR+bcLIGATING fbVOWEL SIGN raAqaIraIqaUraUqaEqaAWqaOqaAIraM
1172B faSIGN KILLER
11730 faDIGIT ZEROlaONElaTWOmaHREElaFOURmaIVElaSIXmaEVENlaEIGHTlaNINEfaNUMBER TENnaWENTY
1173C faSIGN SMALL SECTIONlgkaRULAIgbYMBOL VfaLETTER CAmbTTobHmbDDobHmbNNmbLL
11800 abDOGRA LETTER oaAnaIoaInaUoaUnaEnaAInaOnaAUnaKAobHnbGobHnbNGnbCobHnbJobHnbNYnbTTpbHnbDDpbH
11818 nbNNnbTobHnbDobHnbNnbPobHnbBobHnbMnbYnbRnbLnbVnbSHobSobnbHnbRRgbVOWEL SIGN AraIsaIraUsaU
11831 raVOCALIC R+aaRraEraAIraOraAUgaSIGN ANUSVARAlbVISARGnbRAMlbNUKTgaABBREVIATION SIGN
118A0 aaWARANG CITI CAPITAL LETTER NGAA+bb+baWI+baYU+caA+caO+baII+baUU+baE+baO+baANG+baGA+baKO
118AD +baENY+baYUJ+baUC+baENN+baODD+baTTE+baNUNG+baDA+baAT+caM+baBU+bbP+baHIYO+cbOL+daRR+cbA
118BD +baSSUU+caII+baVIYOmaSMALL LETTER NGAAzbzaWIzaYU+aaA+aaOzaIIzaUUzaEzaOzaANGzaGAzaKOzaENY
118CE zaYUJzaUCzaENNzaODDzaTTEzaNUNGzaDAzaAT+aaMzaBUzbPzaHIYO+abOL+baRR+abAzaSSUU+aaIIzaVIYO
118E0 mbDIGIT ZERsaONEsaTWOtaHREEsaFOURtaIVEsaSIXtaEVENsaEIGHTsaNINEmaNUMBER TENuaWENTYucHIRtdFO
118EE ucIFtcSIXucEVENtcEIGHtcNINE
118FF maOMaaDIVES AKURU LETTER AuaAtaIuaItaUuaUtaE
11909 taO
1190C taKAubHtbGubHtbNGtbCubHtbJ
11915 tbNYtbTT
11918 tbDDvbHtbNNtbTubHtbDubHtbNtbPubHtbBubHtbMtbYubYtbRtbLtbVtbSHubSubtbHtbLLtbZmbVOWEL SIGN AxaI
11932 yaIxaUyaUxaE
11937 xaAIxaO
1193B maSIGN ANUSVARAraCANDRABINDUraHALANTAmbVIRAMmaPREFIXED NASAL SIGNmaMEDIAL YAmbINITIAL RmgMED
11943 mbSIGN NUKTmbDOUBLE DANDmaGAP FILLERmaEND OF TEXT MARK
11950 maDIGIT ZEROsaONEsaTWOtaHREEsaFOURtaIVEsaSIXtaEVENsaEIGHTsaNINE
119A0 aaNANDINAGARI LETTER AuaAtaIuaItaUuaUtaVOCALIC R+caR
119AA taEtaAItaOtaAUtaKAubHtbGubHtbNGtbCubHtbJubHtbNYtbTTvbHtbDDvbHtbNNtbTubHtbDubHtbNtbPubHtbBubH
119C6 tbMtbYtbRtbLtbVtbSHubSubtbHtbLLtbRRmbVOWEL SIGN AxaIyaIxaUyaUxaVOCALIC R+gaR
119DA xaExaAIxaOxaAUmaSIGN ANUSVARArbVISARGtbRAMrbAVAGRAHraSIDDHAMmaHEADSTROKE
119E4 mbVOWEL SIGN PRISHTHAMATRA 
11A00 aaZANABAZAR SQUARE LETTER AraVOWEL SIGN I+caUE+da+caE+cbO+da+caAI+daU+caREVERSED I
11A0A xaLENGTH MARKraLETTER KAzbHybGzbHybNGybCzbHybJybNYybTT+abHybDD+abHybNNybTzbHybDzbHybNybPzbH
11A20 ybBzbHybMybTS+abHybDZ+abHydzbyb-ybYybRybLybVybSHzbSzbybHybKSSraFINAL CONSONANT MARK
11A34 raSIGN VIRAMAwaCANDRABINDU+ha WITH ORNAMENT+cowaANUSVARAwbVISARGrbCLUSTER-INITIAL LETTER R
11A3B zbFINAL LETTER Y+mbR+mbL+mbVraINITIAL HEAD MARKrkCLOSINGraMARK TSHEGwaSHADweDOUBLE 
11A44 waLONG TSHEGraINITIAL DOUBLE-LINED HEAD MARKrxCLOSINGraSUBJOINER
11A50 aaSOYOMBO LETTER AiaVOWEL SIGN ItaUEuataEtaOuaEtaAIuaUtaVOCALIC R+baLoaLENGTH MARK
11A5C iaLETTER KAqbHpbGqbHpbNGpbCqbHpbJqbHpbNYpbTTrbHpbDDrbHpbNNpbTqbHpbDqbHpbNpbPqbHpbBqbHpbMpbTS
11A76 rbHpbDZpbZHqbpb-pbYpbRpbLpbVpbSHqbSqbpbHpbKSSibSIGN JIHVAMULIYndUPADHMAN
11A86 ibCLUSTER-INITIAL LETTER R+fbL+fbSH+gbiaFINAL CONSONANT SIGN G+daK+daNG+daD+daN+daB+daM+daR
11A92 +daL+daSH+ea+da-AibSIGN ANUSVARnbVISARGiaGEMINATION MARKiaSUBJOINERiaMARK TSHEGnaSHAD
11A9C neDOUBLE naPLUTAiaHEAD MARK WITH MOON AND SUN AND TRIPLE FLAME+of+jaiaTERMINAL MARK-1wa2
11AB0 aaCANADIAN SYLLABICS NATTILIK HI+eaI+daO+eaO+daA+eaA+caSHRI+gaI+faO+gaO+faA+gaAtaSPEvaIvaO
11ABF vaAacPAU CIN HAU LETTER tbKtbLtbMtbDtbZtbVtbNGtbHtbGtbKHtbStbBtbCtbTubHtbNtbPHtbRtbFtbCHtb
11AD6 taEtaItaOtaUuaAtbItaFINAL PzaKzaTzaMzaNzaLzaWzaNGzaYmaRISING TONE LONGxa
11AE7 maSANDHI GLOTTAL STOPmaRISING TONE LONG FINALyfmgSANDHI GLOTTAL STOPtaTONE LONGxa
11AED xa LONG FINALyfmaMID-LEVEL TONEmaGLOTTAL STOP VARIANTmaMID-LEVEL TONE LONG FINAL+bf
11AF3 maLOW-FALLING TONE LONG+camaGLOTTAL STOPmaLOW-FALLING TONE LONG FINAL+dfmgGLOTTAL STOP
11C00 aaBHAIKSUKI LETTER AsaAraIsaIraUsaUraVOCALIC R+aaRzaL
11C0A raEraAIraOraAUraKAsbHrbGsbHrbNGrbCsbHrbJsbHrbNYrbTTtbHrbDDtbHrbNNrbTsbHrbDsbHrbNrbPsbHrbBsbH
11C26 rbMrbYrbRrbLrbVrbSHsbSsbrbHkbVOWEL SIGN AvaIwaIvaUwaUvaVOCALIC R+eaR+daL
11C38 vaEvaAIvaOvaAUkbSIGN CANDRABINDpaANUSVARApbVISARGrbRAMpbAVAGRAHkbDANDleOUBLE D
11C43 kaWORD SEPARATORkaGAP FILLER-1va2
11C50 kaDIGIT ZEROqaONEqaTWOraHREEqaFOURraIVEqaSIXraEVENqaEIGHTqaNINEkcNUMBER OraTWOsaHREEraFOUR
11C5E saIVEraSIXsaEVENraEIGHTraNINEraTENsaWENTYscHIRrdFOscIFrcSIXscEVENrcEIGHrcNINE
11C6C kaHUNDREDS UNIT MARK
11C70 afMARCHEN HEADiaMARK SHADiaLETTER KAqbHpbGpcNpbCqbHpbJpbNYpbTqbHpbDpbNpbPqbHpbBpbMpbTSrbH
11C84 pbDZpbWpbZHqbpb-pbYpbRpbLpbSHqbpbHpb
11C92 ibSUBJOINED LETTER K+abHzbGzcNzbC+abHzbJzbNYzbT+abHzbDzbNzbP+abHzbBzbMzbTS+bbHzbDZzbWzbZH+ab
11CA9 zbYzbRzbLzbSH+abzbHzbibVOWEL SIGN AtaItaUtaEtaOiaSIGN ANUSVARAnaCANDRABINDU
11D00 caSARAM GONDI LETTER AwaAvaIwaIvaUwaUvaE
11D08 vaAIvaO
11D0B vaAUvaKAwbHvbGwbHvbNGvbCwbHvbJwbHvbNYvbTTxbHvbDDxbHvbNNvbTwbHvbDwbHvbNvbPwbHvbBwbHvbMvbYvbR
11D27 vbLvbVvbSHwbSwbvbHvbLLvbKSSvbJNYvbTRobVOWEL SIGN AzaI+aaIzaU+aaUzaVOCALIC R
11D3A zaE
11D3C zaAIzaO
11D3F zaAUoaSIGN ANUSVARAtbVISARGtbNUKTtbCANDRtbHALANTobVIRAMobREPHpbA-KAR
11D50 oaDIGIT ZEROuaONEuaTWOvaHREEuaFOURvaIVEuaSIXvaEVENuaEIGHTuaNINE
11D60 aaGUNJALA GONDI LETTER AwaAvaIwaIvaUwaU
11D67 vaEEvaAI
11D6A vaOOvaAUvaYAvbVvbBwbHvbMvbKwbHvbTwbHvbLvbGwbHvbDwbHvbNvbCwbHvbTTxbHvbLLvbJwbHvbDDxbHvbNGvbP
11D86 wbHvcvbRvbSobVOWEL SIGN AzaI+aaIzaU+aaU
11D90 zaEEzaAI
11D93 zaOOzaAUoaSIGN ANUSVARAtbVISARGobVIRAMoaOM
11DA0 oaDIGIT ZEROuaONEuaTWOvaHREEuaFOURvaIVEuaSIXvaEVENuaEIGHTuaNINE
11EE0 aaMAKASAR LETTER KApbGpcNpbPpbBpbMpbTpbDpbNpbCpbJpbNYpcpbRpbLpbVpbSpbibANGKiaVOWEL SIGN ItaU
11EF5 taEtaOiaPASSIMBANGiaEND OF SECTION
11FB0 aaLISU LETTER YHA
11FC0 aaTAMIL FRACTION ONE THREE-HUNDRED-AND-TWENTIETHtfONE-HUNDRED-AND-SIXtfEIGHtcSIXTY-FOUR
11FC4 tcFORTIEtaTHIRTY-SECONDpaTHREE EIGHTIETHSvdSIXTY-FOURpaONE TWENTIETHtaSIXTEENTH-1+da2taTENTH
11FCC tcEIGHpaTHREE TWENTIETHSvdSIXTEENpaONE FIFTHtaQUARTERtaHALF-1ya2paTHREE QUARTERS
11FD4 paDOWNSCALING FACTOR KIIZHgaSIGN NELlaCEVITUlbAAZHAAKKleUZHlhMUUVlaKURUNIlaPATHAKKU
11FDC laMUKKURUNIlaKAACUlaPANAMmaONlbVARAAKAlaPAARAMlaKUZHIlbVELgaWET CULTIVATION SIGNgrDRYgfLAND
11FE7 gfSALT PANgfTRADITIONAL CREDITsfNUMBERgfCURRENTgfAND ODDgfSPENTgfTOTALgfIN POSSESSION
11FEF gfSTARTING FROMhaIGN MUTHALIYAlbVAKAIYARA
11FFF gaPUNCTUATION END OF TEXTaaCUNEIFORM SIGN Aqa TIMES AxaBADxaGAN2 TENUxaHAxaIGIxaLAGAR GUNU
12007 xaMUSHxaSAGqa2qaBra TIMES ASH2yaDUN3 GUNUyaGAL+aaN2 TENUyaHAyaIGI GUNUzaMINyaLAGAByaSHESH
12014 yaU PLUS U PLUS UsbGUNra2sa TIMES BALAGzaGAN2 TENUzaME PLUS ENzaSHA3zaTAK4qaDqaK
1201E ra TIMES ERIN2yaSHITA PLUS GISHqaLra TIMES ALyaDIM2yaGISHyaHAyaKAD3zaIyaSHEyaUSHraANraEPH
1202B qaMARta TIMES SHEqaNra OVER ANsaTHREE TIMESsaPLUS NAGA OPPOSING AN PLUS NAGA+caSQUAREDraSHE
12033 qaPINqaRADta TIMES KURraKABqaSAL2raHsa ZIDA TENUtgKAB
1203B taOVER ASH TUG2 OVER TUG2 TUG2 OVER TUG2 PAP+caOVER ASH+ka CROSSING ASH OVER ASH OVER ASHsa2
1203F saGABpaBAraDraG3raHAR2raLsa OVER BALsaAGraRsaA2qaIra TIMES AyaGARyaIGI GUNUqbra OVER BU AB
1204F +aaUNsaCROSSING BUraLUGua OVER BULUGraRsa2paDAraGsa KISIM5 TIMES A PLUS MASH+haMAR+gaBALAG
1205A +haI+gaGA+ia PLUS MASH+haI+iaR2+haUD+gaHA+gaIR+ia PLUS LU+gaKAK+gaLA+haU+ia PLUS MASH2+iaM
12068 +gaNE+gaPAP PLUS PAP+gaSI+gaTAK4+gaU2 PLUS GIR2+haSHraMraRsaA3ta4qaIraBraMsa TIMES SHEsa2raN
12078 sa KASKAL U GUNU DISHrcqaUra OVER DUsbGUNsaSHESHIGraBsa TIMES ESH2sbraGsaUDraHraNsa3ta GUNU
12087 ya GUNUsa4raR2paEqa TIMES PAPraOVER E NUN OVER NUNqa2ra TIMES A PLUS HA PLUS DAyaGARyaMI
12091 yaSALzaHEyaUqaDINqaGIRqaLqaNra TIMES GAN2+ca TENUyaMEsaCROSSING ENshOPPOsaSQUAREDqaRENraIN2
120A0 qbSHqaZENta TIMES A+ba PLUS LAL+ka TIMES LAL+baN+aaBAD+aaDUN3 GUNU+ja GUNU+aaHA+ca GUNU
120AB +afIGI+aaKASKAL+ga SQUARED+baU3+aaLA+caL TIMES LAL+baI+baU+aaU2+baDpaGAra GUNUra2
120B8 sa TIMES A PLUS DA PLUS HA+gc+gaIGI+aaB2 TENU PLUS TAB+aaN+aaSH+ca2 PLUS GALzaBAD
120C0 +baR PLUS RA+aaUR+ca PLUS RAzbD+aaI+baM TIMES SHE+aaUBzaEL+ba PLUS LA+aaN+ba TIMES GAN2 TENU
120CB zj+baR+aaI+ba4+ca PLUS A+baR2 PLUS SUzaHA PLUS LU PLUS ESH2+baL+ca PLUS LA+aaI PLUS LI+aaUB2
120D6 zaIGI GUNU+aaSH PLUS HU PLUS ASHzaKAK+baSKAL+aaID+ca PLUS LAL+aaU3 PLUS ANzaLAzaME PLUS EN
120DF +aaIzaNUN+ca OVER NUNzaPAzaSAL+baR+aaHE+ca PLUS TUR+baID+aaUMzaTAK4zaU+aaD+ba PLUS DU
120ED taOVER GA2raBAta CROSSING GABAraDsa OVER GAD GAR OVER GARraLsa GAD OVER GAD GAR OVER GARsaAM
120F5 rbraNsa2ta TENUuaOVER GAN2ufCROSSINGraRsa3raSHANqbESHTIwa TIMES KURqaIra TIMES EyaU
12103 saCROSSING GIra4sa OVER GI4teCROSSINGraDIMraR2ta GUNUsa3ta TIMES A PLUS IGI+aaGAN2 TENU
1210D +aaIGI+adLU PLUS +aaPAraSALsaHta CROSSING GISHuaTIMES BAD+aaTAK4vaENUqbra CROSSING GUra2
12119 sa TIMES KAK+ca TIMES IGI GUNUzaNUNzaSAL PLUS TUG2taGUNUraDsa TIMES A PLUS KURzd
12121 taOVER GUD LUGALrbraMsa TIMES SHEraRsa7saUNtaSHpaHAra TENUscGUraLqaIra TIMES ASH+ba2yaBAD
12131 yaDISHyaGADyaKINybNUyaSHEyaUqbraB2ta TIMES AN+aaHAL+acKASK+aaLISH+aaUDraL2paIqa AqaBqaDIM
12143 ta OVER IDIM BUR+eaSQUAREDqaGraIsa DIBtaRItaOVER IGI SHIR OVER SHIR UD OVER UDtaGUNUqaL
1214C ra TIMES GAN2 TENUra2qaMra TIMES TAK4saCROSSING IMshOPPOsaSQUAREDraINqbqaRqaSHpaKAra TIMES A
12159 zaD+aa PLUS KU3zaSH2yaBAD+aaLAG+aaRzaIyaERIN2zbSHyaGA+aaL+aaN2 TENU+aaR+ba PLUS SHA3 PLUS A
12167 zaI+aaR2+aaSH PLUS SAR+daCROSSING GISHzaU+aaR7yaIGIzaMyaKAKzaI+aaDyaLIzaUyaME+aa PLUS DU
12176 +gaGI+gaTEzaI+aa PLUS NUNUZyaNEzaUNyaPIyaRUyaSA+aaRzaHA+aaE+aaID+aaUzaIGzaUHURybTAyaUza2zaD
1218A zaMUM TIMES PAzaSHyaZIra2sa CROSSING KA2raBraD2sa3sa4sa5ta OVER KAD5raKsa TIMES IGI GUNUraL
12198 sa TIMES BADtaCROSSING KALraM2sa4raSKALva LAGAB TIMES U OVER LAGAB TIMES Uw+gOVER KASKAL 
1219F qaESH2qaIra TIMES BADyaUzaDrbraNraSALsaHsaIM5va OVER KISIM5qaU
121AB ra OVER HI TIMES ASH2 KU OVER HI TIMES ASH2ra3ra4sa VARIANT FORMra7raLsa GUNUraNraR
121B4 sa OPPOSING KURraSHU2qaWU318paLAraGABua TIMES A+ca PLUS DA PLUS HA+iaGAR+iaLAL+cb+caN
121BF +caSH ZIDA TENU+baBAD+caI+baDAR+baEN+baGA+daR+caUD+ea PLUS GUD+baHA+daL+caI TIMES NUN
121CB +baIGI GUNU+caM+da PLUS HA+jaLU+baKI+daN+caU3+daL+ea PLUS HI PLUS A+baLAGAB+caISH+caU+daL
121D8 +baME+da PLUS EN+caUSH+baNE+baSHE PLUS SUM+daITA PLUS GISH PLUS ERIN2+raTENU+daU2
121E0 +fa PLUS SHU2+caUM+baTAG+daK4+caE PLUS A PLUS SU PLUS NA+baU+ca PLUS A+iaU PLUS U
121E8 +ca2 PLUS ASH+caD+caSHvaSQUAREDtaRua TIMES SHE+ea PLUS SUMvaGUNUza OVER LAGAR GUNU SHEraHSHU
121F2 raLsa TIMES LALraMsa TIMES KUR+ca PLUS RUqaIraLraMMU2raSHqaUra TIMES BADra2sa TIMES ALzaBAD
12200 zaESH2+da TENUzgGANzaHI TIMES BADzaIMzaKAD2+ca3+da PLUS ASH+aaIzaLA PLUS ASH+baGAB
1220B zaME PLUS ENzaNE+aaUzaSI PLUS ASH+baK2 PLUS BUzaTUG2uaENUtaCROSSING LU2tiOPPOtaSQUARED
12215 uaHESHIGra3raGALua OVER LUGALwgPPOSINGvaSHESHIGraHraLraMsa OVER LUM+ba GAR OVER GARpaMA
12221 ra TIMES TAK4saGUNUra2raHraRraSHta2qaEraSqaIraNqaUra OVER MUraGsa GUNUraNSUBraRGU2raSH
12233 ta TIMES A+aaKUR+aaZAuaOVER MUSH+da TIMES A PLUS NAuaCROSSING MUSHta3ua TIMES A+ca PLUS DI
1223C +bcvaGUNUpaNAra2raGAta INVERTEDuaTIMES SHU TENUuaOPPOSING NAGAtaRraM NUTILLUsasa2qaE
12249 ra TIMES AyaUDsaSHESHIGqaIra TIMES Era2raMsa TIMES GAN2 TENU+bhR PLUS GAraNDA2va TIMES AN
12254 +daSH+fa PLUS ASH+caGUD+caME PLUS GAN2 TENU+caNE+daUN+caSHE+fa PLUS A AN+maSH+oa PLUS ASH
1225E +cjU2+dcraSAGqaUra11raNsa LAGAR TIMES GAR+faMASH+faSAL+ia OVER NUN LAGAR TIMES SAL+faUSH
12269 taTENUtaOVER NUNteCROSSING+fa LAGAR OVER LAGARsaUZua AB2 TIMES ASHGAB+faBI+faDUG+faGUD
12272 +faIGI GUNU+faKAD3+faLA+faNE+faSILA3+faU2vaKISIM5 TIMES BI+ka UpaPAraDraNraPqaESH2qaI
12280 ra TIMES AzaByaBIzaUyaEyaIzaByaUza2saCROSSING PIraRIGua TIMES KAL+baUD+baZAvaOPPOSING PIRIG
1228F paRAraBqaIqaUpaSAraG NUTILLUsasa TIMES AzaDU+baBzaHAzaKAK+aaURzaLUMzaMIzaNUNzaSAL+aaHIDzaTAB
122A2 zaU2+aaB+aaM+aaR+aaSHtaOVER SAGtaGUNUraLsa LAGAB TIMES ASH2rbNGAraRqaHAsa3ta TIMES A+aaBAD
122B1 +aaGISH+aaNE+aaSHU2+aaTUR+aaU+ba PLUS Asa6sbBsaR2raEsa HU
122BC taOVER SHE GAD OVER GAD GAR OVER GAR+cnTAB OVER TABsaG9saNsaSHua2uaLAMraIDta TIMES A+aaIMsb
122C7 ta TIMES A+aaBAL+baULUG+aaDIN+aaGAR+aaIGI+da GUNU+aaKUSHU2+aaLUL+aaMUG+aaSALsaNIGsaRta TENU
122D5 uaOVER SHIR BUR OVER BURsaTAraUsa OVER INVERTED SHUsa2saBURqaIra GUNUraGsa4ta OVER SIG4 SHU2
122E0 rbKraLA3qaUra OVER SUraDsa2raHURraMsaASHraRsa9paTAra ASTERISKsaTIMES HIybMsaGUNUraB
122F1 sa OVER TAB NI OVER NI DISH OVER DISHtaSQUAREDraGsa TIMES BIzaGUDzaSHE+baUzaTUG2zaUDraK4raR
122FC qaEra GUNUqaIra TENUraLraRsa TIMES TAK4taOVER TIR+ba GAD OVER GAD GAR OVER GARqaUraG2raKraM
12309 raRsa OVER TUR ZA OVER ZApaUqa GUDraU UraOVER U PA OVER PA GAR OVER GARybSUR OVER SU
12310 yaU REVERSED OVER U REVERSEDqa2qaBqaDra KUSHU2saTIMES BADyaMIyaU PLUS U PLUS U+na GUNUse
1231A saSHESHIGza TIMES BADraUGqaMra TIMES LAGAByaME PLUS DAyaSHA3yaUraBINraUMta TIMES KASKAL+aaPA
12326 qaNra GUNUqaRra CROSSING URsaSHESHIGra2sa TIMES A PLUS HA+gbN+aaLzaHAzaNUNzaU2+ba PLUS ASH
12333 +haBIra4raIsa3raUsa TIMES A+aaSHGABzaBARzaDUNzaGA+baL+baN2 TENU+baR+aaUzaHAzaIGI+aaM+aaSH
12345 zaKIzaLUMzaMINzaPAzaSHE+aaIG4zaTUzaU PLUS GUD+ab+aaRUDAscua TIMES UqaSHsa TIMES AzaKU+baR
12355 zaTAK4saXsa2saUMXqaTUKIqaZ3sa TIMES KASKALraUpaZAra TENUsaSQUARED TIMES KURraGraMXqaE2qaI
12364 ra OVER ZIra3raBsa KABA TENUraGraZ2qaUra5sa TIMES AraBURraMpaKAP ELAMITEpaAB TIMES NUN
12371 ra2 TIMES AqaMAR TIMES KUGpaDAG KISIM5 TIMES U2 PLUS MASHsa3qaISH PLUS SHUqaUB TIMES SHE
12377 paEZEN TIMES GUD+aaSHEpaGA2 TIMES AN PLUS KAK PLUS A+aaSH2qbE2qaIGpaHUSHpaKA TIMES ANSHE
1237F zaSH3yaGISHzaUDyaHI TIMES ASH2yaLUMyaPAyaSHULyaTUyaUR2paLAGAB TIMES GIqaU2 SHESHIG TIMES BAD
1238A taTIMES ESH2 PLUS LALzaSHUpaMESHqaUSH3 TIMES ZApaNA4qaINsa9saDA2 TIMES BAL+caGI
12393 qaU11 ROTATED NINETY DEGREESpaPESH2 ASTERISKqaIR2paSAG TIMES IGI GUNUpaTI2paUM TIMES MEqa U
12400 kaNUMERIC SIGN TWO ASHyeHREExeFOURyeIVExeSIXyeEVENxeEIGHTxeNINExcTHREE DIxfFOURyfIVExfSIX
1240C yfEVENxfEIGHTxfNINExaFOUR UycIVExcSIXycEVENxcEIGHTxcNINExaONE GESH2xgTWOygHREExgFOURygIVE
1241A xgSIXygEVENxgEIGHTxgNINExaONE GESHUxgTWOygHREExgFOURygIVExaTWO SHAR2ygHREE+ia VARIANT FORM
12426 xaFOUR SHAR2ygIVExgSIXygEVENxgEIGHTxgNINExaONE SHARUxgTWOygHREE+ia VARIANT FORMxaFOUR SHARU
12431 ygIVExaSHAR2 TIMES GAL PLUS DISH+saMINxaONE BURUxfTWOyfHREE+ha VARIANT FORMxaFOUR BURUyfIVE
1243A xaTHREE VARIANT FORM ESH16+ta21xaFOUR VARIANT FORM LIMMU+ua4+ua A+vaBxaSIX VARIANT FORM ASH9
12441 yaEVEN VARIANT FORM IMIN3+ua A+vaBxaEIGHT VARIANT FORM USSU+ua3xaNINE VARIANT FORM ILIMMU
12447 +va3+va4+va AxaTWO ASH TENUyjHREExjFOURyjIVExjSIXxaONE BAN2xfTWOyfHREExfFOUR+ga VARIANT FORM
12454 yaIVE BAN2+ga VARIANT FORMxaNIGIDAMIN+daESHxaONE ESHE3xgTWOxaONE THIRD DISHxfTWO THIRDS
1245C xgFIVE SIXTHxaONE THIRD VARIANT FORM AxpTWO THIRDSxaONE EIGHTH ASH+beQUARTER
12461 ybLD ASSYRIAN ONE SIXT+oaQUARTERybNE QUARTER GU+beHALFxaELAMITE ONE THIRD+faTWO THIRDS
12467 +faFORTY+gcIFxaFOUR U VARIANT FORMypIVExpSIXypEVENxpEIGHTxpNINE
12470 kaPUNCTUATION SIGN OLD ASSYRIAN WORD DIVIDER+baVERTICAL COLON+biDIAGON+kfTRI+kfQUAD
12480 kaSIGN AB TIMES NUN TENUyaSHU2qbD TIMES ESHpaBAD TIMES DISH TENUraHAR2 TIMES AB2+caNI+caZA
12487 qaU OVER BU TIMES NA2paDA TIMES TAK4raG TIMES KURqaIM TIMES IGIzaU U Usa2 TIMES UD
1248D qaUG TIMES ANSHE+aaSH+ca AT LEFTzaDIN+abUzaERIN2zaGA+aaI+baR2 GUNU+baSHzaHA+aaIzaIGI GUNU
1249A zaKASKAL+aaUR+baSHU2+fa PLUS KASKALzaLAK-020+baM+ca TIMES KUR+aaUH PLUS GISHzcMA+aaES+aaIzbN
124A6 zbPzaSHE+aaI GUNUpaE2 TIMES KURyaPAPqaRIN2 XqaSH2 CROSSING ESH2qaZEN SHESHIG TIMES ASH+iaHI
124AF +iaIGI GUNU+iaLA+kaL+iaME+kaS+iaSUuipaGA2 TIMES BAHAR2zaDIM GUNU+afUG TIMES IGI+jaKASKAL
124BA zaERENzaGA+baR PLUS DI+iaNEzaHA PLUS AzaKUSHU2 PLUS KASKALzaLAM+ca TIMES KUR+aaUHzbMUSzaNE
124C5 +ba PLUS E2+haGIzaSHIMzaZIZ2raBA ROTATED NINETY DEGREESqaESHTIN TIMES U
124CB qaISH TIMES GISH CROSSING GISHqaU2 TIMES IGI GUNUraD PLUS GISH TIMES TAK4paHA TENU GUNU
124CF qaI TIMES ASH OVER HI TIMES ASHpaKA TIMES BUyaKAyaU U UzaRpaLAGAB TIMES ZU OVER ZUraK-003
124D6 ua21va5ua30ub5va1ua62ua79 OVER LAK-079 GUNUua80va1 OVER LAK-081ua92ta130ua42ta210va9ua20va5
124E6 va8ub3ua65va6ta343va7va8ua83va4ua90ta441va9wa TIMES GU+daIGI+daPAP PLUS LU3+mdPAP PLUS 
124F6 +daU2 PLUS BAua50va7ua70ua83ua90va2va3va5ta550ta608ua17wa TIMES ASH+daBAD+daDUN3 GUNU GUNU
12505 +daKU3+daLA+daTAR+eaE+daU2+eaD+eaRUDAua36ua48wa TIMES DUB+daGA+daIGI+ga GUNU+daNI
12513 +daPAP PLUS PAP PLUS LU3+daSHESH PLUS KI+daUD+eaRUDAta724ua49qaU2 GUNU TIMES ASHtcTIMES DI
1251B zaHALzaPAP+ca PLUS PAP PLUS LU3zaTAK4paMI PLUS ZA7qaUSH OVER MUSH TIMES GA+kaKAK
12522 paNINDA2 TIMES DIM GUNU+caGISH+daUL+caHI+caKESH2+caLAK-050+caMASH+caPAP PLUS PAP+caU
1252B +da PLUS U+daRUDApbSAG GUNU TIMES HtaTIMES ENzaSHE AT LEFTzaTAK4qaHA6 TENUraE OVER SHE
12533 taPLUS HUB2ybNAMyaSARraU2 PLUS DUG TIMES NIzaE2 TIMES ANqaI TIMES TAK4paTAK4 PLUS SAG
1253A qaUM TIMES GAN2 TENUzaTHREE DISHpaUR2 INVERTEDtbTIMES UraU TIMES DARA3zaLAK-668+aaU3paZA7
12542 qaU OVER ZU PLUS SARra5 TIMES THREE DISH TENU
12F90 baYPRO-MINOAN SIGN CM001wa2wa4wa5wa6wa7wa8wa9va10wa1wa2xaBwa3wa5wa7wa9va21wa3wa4wa5wa6wa7wa8
12FA7 wa9va30wa3wa4wa5wa6wa7wa8wa9va40wa1wa4wa6wa7wa9va50wa1wa2wa3wa4wa5wa6wa8wa9va60wa1wa2wa3wa4
12FC4 wa6wa7wa8wa9va70wa1wa2wa3wa4wa5xaBwa6wa8wa9va80wa1wa2wa3wa4wa5wa6wa7wa8wa9va90wa1wa2wa4wa5
12FE1 wa6wa7wa8wa9ua100wa1wa2wa3wa4wa5wa7wa8wa9va10wa2wa4ua301wa2
13000 aaEGYPTIAN HIEROGLYPH A001xa2xa3xa4xa5yaAxa6yaAyaBxa7xa8xa9wa10xa1xa2xa3xa4yaAxa5xa6xa7yaA
13016 xa8xa9wa20xa1xa2xa3xa4xa5xa6xa7xa8xa9wa30xa1xa2yaAxa3xa4xa5xa6xa7xa8xa9wa40yaAxa1xa2yaAxa3
13033 yaAxa4xa5yaAxa6xa7xa8xa9wa50xa1xa2xa3xa4xa5xa6xa7xa8xa9wa60xa1xa2xa3xa4xa5xa6xa7xa8xa9wa70
13050 uaB001xa2xa3xa4xa5yaAxa6xa7xa8xa9uaC001xa2yaAyaByaCxa3xa4xa5xa6xa7xa8xa9wa10yaAxa1xa2xa3xa4
1306C xa5xa6xa7xa8xa9wa20xa1xa2xa3xa4uaD001xa2xa3xa4xa5xa6xa7xa8yaAxa9wa10xa1xa2xa3xa4xa5xa6xa7xa8
13089 xa9wa20xa1xa2xa3xa4xa5xa6xa7yaAxa8xa9wa30xa1yaAxa2xa3xa4yaAxa5xa6xa7xa8xa9wa40xa1xa2xa3xa4
130A6 xa5xa6yaAxa7xa8yaAxa9wa50yaAyaByaCyaDyaEyaFyaGyaHyaIxa1xa2yaAxa3xa4yaAxa5xa6xa7xa8xa9wa60xa1
130C4 xa2xa3xa4xa5xa6xa7yaAyaByaCyaDyaEyaFyaGyaHuaE001xa2xa3xa4xa5xa6xa7xa8yaAxa9yaAwa10xa1xa2xa3
130E1 xa4xa5xa6yaAxa7yaAxa8xa9wa20yaAxa1xa2xa3xa4xa5xa6xa7xa8yaAxa9wa30xa1xa2xa3xa4yaAxa6xa7xa8
130FE uaF001yaAxa2xa3xa4xa5xa6xa7xa8xa9wa10xa1xa2xa3yaAxa4xa5xa6xa7xa8xa9wa20xa1yaAxa2xa3xa4xa5xa6
1311B xa7xa8xa9wa30xa1yaAxa2xa3xa4xa5xa6xa7yaAxa8yaAxa9wa40xa1xa2xa3xa4xa5yaAxa6yaAxa7yaAxa8xa9
13138 wa50xa1yaAyaByaCxa2xa3uaG001xa2xa3xa4xa5xa6yaAxa7yaAyaBxa8xa9wa10xa1yaAxa2xa3xa4xa5xa6xa7xa8
13155 xa9wa20yaAxa1xa2xa3xa4xa5xa6yaAxa7xa8xa9wa30xa1xa2xa3xa4xa5xa6yaAxa7yaAxa8xa9wa40xa1xa2xa3
13172 yaAxa4xa5yaAxa6xa7xa8xa9wa50xa1xa2xa3xa4uaH001xa2xa3xa4xa5xa6yaAxa7xa8uaI001xa2xa3xa4xa5yaA
1318E xa6xa7xa8xa9yaAwa10yaAxa1yaAxa2xa3xa4xa5uaK001xa2xa3xa4xa5xa6xa7xa8uaL001xa2yaAxa3xa4xa5xa6
131AA yaAxa7xa8uaM001yaAyaBxa2xa3yaAxa4xa5xa6xa7xa8xa9wa10yaAxa1xa2yaAyaByaCyaDyaEyaFyaGyaHxa3xa4
131C7 xa5yaAxa6yaAxa7yaAxa8xa9wa20xa1xa2yaAxa3xa4yaAxa5xa6xa7xa8yaAxa9wa30xa1yaAxa2xa3yaAyaBxa4xa5
131E5 xa6xa7xa8xa9wa40yaAxa1xa2xa3xa4uaN001xa2xa3xa4xa5xa6xa7xa8xa9wa10xa1xa2xa3xa4xa5xa6xa7xa8yaA
13202 yaBxa9wa20xa1xa2xa3xa4xa5yaAxa6xa7xa8xa9wa30xa1xa2xa3yaAxa4yaAxa5yaAxa6xa7yaAxa8xa9wa40xa1
1321F xa2vaL001ya2ya3ya4ya5zaAya6ya7ya8ya9xa10ya1ya2ya3ya4ya5ya6ya7zaAya8ya9xa20vaU001ya2ya3ya4ya5
1323B ya6ya7ya8ya9xa10zaAya1zaAya2ya3ya4ya5ya6ya7ya8zaAya9xa20ya1ya2zaAuaO001yaAxa2xa3xa4xa5yaAxa6
13258 yaAyaByaCyaDyaEyaFxa7xa8xa9wa10yaAyaByaCxa1xa2xa3xa4xa5xa6xa7xa8xa9yaAwa20yaAxa1xa2xa3xa4yaA
13276 xa5yaAxa6xa7xa8xa9yaAwa30yaAxa1xa2xa3yaAxa4xa5xa6yaAyaByaCyaDxa7xa8xa9wa40xa1xa2xa3xa4xa5xa6
13294 xa7xa8xa9wa50yaAyaBxa1ubP00yaAxa2xa3yaAxa4xa5xa6xa7xa8xa9wa10xa1ubQ00xa2xa3xa4xa5xa6xa7
132AF uaR001xa2yaAxa3yaAyaBxa4xa5xa6xa7xa8xa9wa10yaAxa1xa2xa3xa4xa5xa6yaAxa7xa8xa9wa20xa1xa2xa3xa4
132CC xa5xa6xa7xa8xa9uaS001xa2yaAxa3xa4xa5xa6yaAxa7xa8xa9wa10xa1xa2xa3xa4yaAyaBxa5xa6xa7yaAxa8xa9
132E9 wa20xa1xa2xa3xa4xa5xa6yaAyaBxa7xa8xa9wa30xa1xa2xa3xa4xa5yaAxa6xa7xa8xa9wa40xa1xa2xa3xa4xa5
13306 xa6uaT001xa2xa3yaAxa4xa5xa6xa7yaAxa8yaAxa9yaAwa10xa1yaAxa2xa3xa4xa5xa6yaAxa7xa8xa9wa20xa1xa2
13323 xa3xa4xa5xa6xa7xa8xa9wa30xa1xa2yaAxa3yaAxa4xa5xa6uaU001xa2xa3xa4xa5xa6yaAyaBxa7xa8xa9wa10xa1
13340 xa2xa3xa4xa5xa6xa7xa8xa9wa20xa1xa2xa3yaAxa4xa5xa6xa7xa8xa9yaAwa30xa1xa2yaAxa3xa4xa5xa6xa7xa8
1335E xa9wa40xa1xa2uaV001yaAyaByaCyaDyaEyaFyaGyaHyaIxa2yaAxa3xa4xa5xa6xa7yaAyaBxa8xa9wa10xa1yaAyaB
1337B yaCxa2yaAyaBxa3xa4xa5xa6xa7xa8xa9wa20yaAyaByaCyaDyaEyaFyaGyaHyaIyaJyaKyaLxa1xa2xa3yaAxa4xa5
13399 xa6xa7xa8yaAxa9yaAwa30yaAxa1yaAxa2xa3yaAxa4xa5xa6xa7yaAxa8xa9wa40yaAuaW001xa2xa3yaAxa4xa5xa6
133B6 xa7xa8xa9yaAwa10yaAxa1xa2xa3xa4yaAxa5xa6xa7yaAxa8yaAxa9wa20xa1xa2xa3xa4yaAxa5uaX001xa2xa3xa4
133D3 yaAyaBxa5xa6yaAxa7xa8yaAuaY001yaAxa2xa3xa4xa5xa6xa7xa8uaZ001xa2yaAyaByaCyaDxa3yaAyaBxa4yaA
133EF xa5yaAxa6xa7xa8xa9wa10xa1xa2xa3xa4xa5yaAyaByaCyaDyaEyaFyaGyaHyaIxa6yaAyaByaCyaDyaEyaFyaGyaH
1340D uaAA001ya2ya3ya4ya5ya6ya7zaAzaBya8ya9xa10ya1ya2ya3ya4ya5ya6ya7ya8ya9xa20ya1ya2ya3ya4ya5ya6
13429 ya7ya8ya9xa30ya1ya2
13430 uaVERTICAL JOINERujHORIZONTuaINSERT AT TOP START+egBOTTOM+eaTOP END+eeBOTTOMuaOVERLAY MIDDLE
13437 uaBEGIN SEGMENTuiEND
14400 aaANATOLIAN HIEROGLYPH A001ya2ya3ya4ya5ya6ya7ya8ya9xa10zaAya1ya2ya3ya4ya5ya6ya7ya8ya9xa20ya1
14416 ya2ya3ya4ya5ya6zaAya7ya8ya9xa30ya1ya2ya3ya4ya5ya6ya7ya8ya9zaAxa40ya1zaAya2ya3ya4ya5zaAya6zaA
14434 zaBya7ya8ya9xa50ya1ya2ya3ya4ya5ya6ya7ya8ya9xa60ya1ya2ya3ya4ya5ya6zaAzaBzaCya7ya8ya9xa70ya1
14451 ya2ya3ya4ya5ya6ya7ya8ya9xa80ya1ya2ya3ya4ya5ya6ya7ya8ya9xa90ya1ya2ya3ya4ya5ya6ya7zaAya8zaAya9
1446F wa100zaAya1zaAya2zaAya3ya4zaAzaBzaCya5zaAzaBya6ya7zaAzaBzaCya8ya9xa10zaAzaBya1ya2ya3ya4ya5
1448C zaAya6ya7ya8ya9xa20ya1ya2ya3ya4ya5zaAya6ya7ya8ya9xa30ya1ya2ya3ya4ya5zaAya6ya7ya8ya9xa40ya1
144A9 ya2ya3ya4ya5ya6ya7ya8ya9xa50ya1ya2ya3ya4ya5ya6ya7ya8ya9xa60ya1ya2ya3ya4ya5ya6ya7ya8ya9xa70
144C6 ya1ya2ya3ya4ya5ya6ya7ya8ya9xa80ya1ya2ya3ya4ya5ya6ya7ya8ya9xa90ya1ya2ya3ya4ya5ya6ya7ya8ya9
144E3 wa200ya1ya2zaAzaBya3ya4ya5ya6ya7zaAya8ya9zaAxa10ya1ya2ya3ya4ya5zaAya6zaAya7ya8ya9xa20ya1ya2
14500 ya3ya4ya5ya6ya7zaAya8ya9xa30ya1ya2ya3ya4ya5ya6ya7ya8ya9xa40ya1ya2ya3ya4ya5ya6ya7ya8ya9xa50
1451D ya1ya2ya3ya4ya5ya6ya7ya8ya9xa60ya1ya2ya3ya4ya5ya6ya7zaAya8ya9xa70ya1ya2ya3ya4ya5ya6ya7ya8ya9
1453B xa80ya1ya2ya3ya4ya5ya6ya7ya8ya9zaAxa90ya1ya2ya3ya4zaAya5ya6ya7ya8ya9zaAwa300ya1ya2ya3ya4ya5
14558 ya6ya7ya8ya9zaAxa10ya1ya2ya3ya4ya5ya6ya7ya8ya9xa20ya1ya2ya3ya4ya5ya6ya7ya8ya9zaAxa30ya1ya2A
14575 zaBzaCya3ya4ya5ya6zaAzaBzaCya7ya8ya9xa40ya1ya2ya3ya4ya5ya6ya7ya8ya9xa50ya1ya2ya3ya4ya5ya6ya7
14593 ya8ya9zaAxa60ya1ya2ya3ya4zaAya5ya6ya7ya8zaAya9xa70ya1zaAya2ya3ya4ya5ya6ya7ya8ya9xa80ya1zaA
145B0 ya2ya3 RA OR RIzaAya4ya5ya6zaAya7ya8ya9xa90ya1ya2ya3 EIGHTya4ya5ya6ya7ya8ya9wa400ya1ya2ya3
145C8 ya4ya5ya6ya7ya8ya9xa10 BEGIN LOGOGRAM MARKzoA ENDya1ya2ya3ya4ya5ya6ya7ya8ya9xa20ya1ya2ya3ya4
145DE ya5ya6ya7ya8ya9xa30ya1ya2ya3ya4ya5ya6ya7ya8ya9xa40ya1ya2ya3ya4ya5ya6ya7ya8ya9xa50zaAya1ya2
145FB ya3ya4ya5ya6ya7zaAya8ya9xa60ya1ya2ya3ya4ya5ya6ya7ya8ya9xa70ya1ya2ya3ya4ya5ya6ya7ya8ya9xa80
14618 ya1ya2ya3ya4ya5ya6ya7ya8ya9xa90ya1ya2ya3ya4ya5ya6ya7wa501ya2ya3ya4ya5ya6ya7ya8ya9xa10ya1ya2
14635 ya3ya4ya5ya6ya7ya8ya9xa20ya1ya2ya3ya4ya5ya6ya7ya8ya9xa30
16800 aaBAMUM LETTER PHASE-A NGKUE MFONvdGBIEE vaPON MFON PIPAEMGBIEE+kaBAvaNAA MFONvaSHUENSHUET
16806 vaTITA MFONvgNZvaSHINDA PA NJIvaPON PA NJI PIPAEMGBIEE+maBAvaMAEMBGBIEEvaTU MAEMBAvaNGANGU
1680E vaMAEMVEUXxaNSUAEwaVEUAENGAMvcSEUNYvaNTOQPENvaKEUKEUTNDAvaNKINDIvaSUUvaNGKUENZEUMvaLAPAQ
16818 waET KUTvaNTAP MFAAvaMAEKEUPvaPASHAEvcGHEUAERvcPAMSHvaMON NGGEUAETvbNZUN MEUvaU YUQ NAE
16821 vcGHEUAEGHEUvaNTAP NTAAvbSISvcMGBAwaEUNJOMNDEUQwcOOMPvaKAFAvbPA LEERAEWvkNDvaPETvaMAEMKPEN
1682C vaNIKAvaPUPvbTUAEveLvaSONJAMvaTEUTEUWENvaMAENYIvaKETvcNDAANGGEUAvaKUOQvaMOOMEUTvaSHUM
16838 vaLOMMAEvaFIRIvaROMvaKPOQvcSvaMAP PIEETvaSHIRAEvaNTAPvaSHOQ NSHUT YUMvaNYIT MONGKEUAEQ
16842 vaPAARAEvfNKvaUNKNOWNvbNGGEvaMAESIvaNJAMvaMBANYIvaNYETvaTEUAENvaSOTvaPAAMvaNSHIEEvaMAEMvaNYI
16850 vaKAQvaNSHAvaVEEvaLUvaNENwaAQvcMBtaB NSHUETvaTU MAEMGBIEEvdSwaET TUvaLOM NTEUMvaMBA MAELEE
1685D vaKIEEMvaYEURAEvdMBAAvaKAMvaPEESHIvaYAFU LEERAEWAvaLAM NSHUT NYAMvaNTIEE SHEUOQwaDU NJAA
16866 vaGHEUGHEUAEMvaPITvaTU NSIEEvaSHET NJAQyaUAEQTUvaMFON TEUAEQwaBIT MBAAKETvaNYI NTEUMvaKEUPUQ
1686F vaGHEUGHENvaKEUYEUXvaLAANAEvaPARUMvcVEvaNGKINDI MVOPxaGEU MBUvaWUAETvaSAKEUAEvaTAAMvaMEUQ
1687A vbNGGUO+ba LARGEvaMFIYAQvaSUEvaMBEURIwaONTIEENvaNYAEMAEvaPUNGAAMvaMEUT NGGEETvaFEUXvaMBUOQ
16885 vaFEEvaKEUAEMvaMA NJEUAENA+abUQvaLETvaNGGAAMwaSENvaMAvaKIQvaNGOMtaC NGKUE MAEMBAwbZvaYUM
16892 vaWANGKUOQvaNGGENwaDEUAEREEwaGKAQvaGHARAEvaMBEEKEETvaGBAYIvaNYIR MKPARAQ MEUNwaTU MBIT
1689B vaMBEUMvaPIRIEENvaNDOMBUvaMBAA CABBAGE-TREEvaKEUSHEUAEPvbGHAvaKEUKAQvaYU MUOMAEvaNZEUMvaMBUE
168A5 vaNSEUAENvaMBITvaYEUQvbKPARAwaAAvaSEUXvaNDIDAvaTAASHAEvaNJUEQvaTITA YUEvaSUAETvaNGGUAEN NYAM
168B1 vaVEUXvaNANSANAQvaMA KEUAERIvaNTAAwaGGUONvaLAPvaMBIRIEENwaGBASAQvaNTEUNGBAvaTEUTEUXvaNGGUM
168BC vaFUEvaNDEUTwaSAxaHAQvaBUNGvaVEUAEPENvaMBERAEvaRUvaNJAEMvbLAvaTITUAEPvaNSUOT NGOMwaJEEEE
168C9 vaKETvaNGGUvaMAESIwaBUAEMvaLUvaKUTvaNJAMwbGOvaWUPvaNGGUEETwaSOMwaTENvaKUOP NKAARAEvaNSUN
168D7 waDAMvaMA NSIEEvaYAAvaNDAPvaSHUEQwaETFONvaMBIwaAEMBAwaBANYIvaKEUSEUXvdMBvaKEUMvaMBAA PICKET
168E4 vaYUWOQvaNJEUXvaMIEEwbUAvaSHIQvaKEN LAWzaFATIGUEvaNGAQwcvbLIvaPINwbEvaTETtaD MBUOvaWAPvaNJI
168F4 vaMFONvaNJIEEvdLvaNJEUTwaSHEEwbGGAAMAwaYAMvaWUAENvbNGKUvaSHEEvaNGKAPvaKEUAETMEUNvaTEUT
16901 vaSHEUAEvaNJAPvaSUEvaKETvaYAEMMAEvaKUOMvaSAPvaMFEUTvaNDEUXvaMALEERIwaEUTvaSEUAEQvaYEN
1690E vaNJEUAEMvaKEUOT MBUAEvaNGKEURIvaTUvaGHAAvaNGKYEEvaFEUFEUAETvaNDEEvaMGBOFUMvaLEUAEPvaNDON
16919 vaMONIwaGBEUNvaPUUTvaMGBIEEwaFOvaLUMvaNSIEEPvaMBAAvaKWAETvcNYvaTEUAENvaSOTvaYUWOQvaKEUMvbRAE
16928 vaTEEEEvaNGKEUAEQvaMFEUAEvaNSIEETvaKEUPvbPIwaEUTAEvbNYUvaLETvaNGGAAMvaMFIEEvaNGGWAENvaYUOM
16935 vaPAPvbYUOvaNDAMwbTEUvaSUAEvaKUNvaNGGEUXxaKIEEvaTUOTvaMEUNvaKUQvaNSUMvaTEUNvaMAENJETvaNGGAP
16944 vaLEUMvbNGGUOwaSHUTwaJUEQvaGHEUAEvaKUvaREN OLDvaTAEwaOQvaNYIvbRIvaLEEEEveMwavaSUUvbMvaSHII
16955 xaEUXvaKYEEvaNUvbSHvaNTEEvcPvaNIvaSHOQvbPUvaMVOPvaLOQvaREN MUCHvaTIvaNTUUvaMBAA SEVENvaSAQ
16965 vaFAAtaE NDAPvaTOONvaMBEUMvaLAPvaVOMvaLOONvaPAAvaSOMvaRAQvaNSHUOPwaDUNvaPUAEvaTAMvaNGKA
16974 vaKPEUXvaWUOvaSEEvaNGGEUAETvaPAAMvaTOOvaKUOPvaLOMvaNSHIEEwaGOPvaMAEMvaNGKEUXxaOQwaSHUE
16982 vaRIMGBAvaNJEUXvaPEEMvaSAAvaNGGURAEvaMGBAvaGHEUXvaNGKEUAEMwaJAEMLIvaMAPvaLOOTvaNGGEEEEwaDIQ
1698F vaTAEN NTEUMvaSETvaPUMvaNDAA SOFTNESSwaGGUAESHAE NYAMvaYIEEvaGHEUNvaTUAEvdYEvaPOvaTUMAEvcKEU
1699B vaSUAENvaTEUAEQvaVEUAEvaWEUXvaLAAMvaPUvaTAAQvaGHAAMAEvaNGEUREUTvaSHEUAEQvaMGBENwaBEEvaNZAQ
169A8 waKOMvaGBETvaTUMvaKUETvaYAPvaNYI CLEAVERvaYITvaMFEUQvbNDIAvbPIEEvcYUvaLEUAEMvaFUEvaGBEUX
169B6 vaNGKUPvaKETvaMAEvaNGKAAMIvaGHETvaFAvaNTUMvaPEUTvaYEUMvaNGGEUAEwaYI BETWEENwaZUQvaPOONvaMIEE
169C4 vaFUETvaNAEvcMUvdGHEvaFU IvbMVvaPUAQvaNGKUMvaKUTvbPIEvaNTAPvaYEUAETvaNGGUPvaPA PEOPLE
169D2 vaFU CALLwaOMvaNJEEvaAvaTOQvaOvaIvaLAQvaPA PLURALvaTAAxaQvaNDAA MY HOUSEvaSHIQvaYEUXvaNGUAE
169E1 vaYUAENwaOQ SWIMMINGzaCOVERwaUQxaNvaKEUXvdPvaNJEE EPOCHvaPUEvcWvbFEvcVvaLUvaMIvaREUXwaAE
169F1 vaNGUAETxaAvaSHOyaQvaFU REMEDYvaNAvaPIvaLOQvaKOvaMENwaAxaQvaTEUvaKIvaMONvbTEvaFAQvaGHOM
16A03 taF KAvaUvbKvaEEvcRvbTAvaNYIvaLAvaRIIxaEEvcMEEvaTAAvcNDwaJAEMvbvaSUUwaHIIwbwaEUXvaKYEEwaET
16A18 vaNUAExawaJUAEvaYOQvaSHUvaYAvbNSHvaPEUXvaNTEEvbWUvbPEvaRUvaNIvaREUXvaKENvcNGKWAxaGAvaSHO
16A2A vaPUAEvaFOMvaWAvaLIwaOQvaKOvaMBENvcRvaMAwaOwaBAAvaTETvaKPAvbSAMBvaVUEQ
16A40 aaMRO LETTER TAlaNGIlaYOlaMIMlaBAlbDlblaPHIlbKHAlaHAOlaDAIlaCHUlaKEAAElaOLlaMAEMlaNINlaPA
16A51 laOOmalbRlaSHIlaTHEAlclbWlaElaKOlaLANnalaHAIlbRlaTEK
16A60 eaDIGIT ZEROkaONEkaTWOlaHREEkaFOURlaIVEkaSIXlaEVENkaEIGHTkaNINE
16A6E faANDAfeOUBLE DaaTANGSA LETTER OZpaCpaQpaXoaAZpaCpaQpaXoaVZpaCpaQpaXoaEZpaCpaQpaXoaIZpaCpaQ
16A83 paXoaUZpaCpaQpaXoaAWZqaCqaQqaXoaUIZqaCqaQqaXoaFINAL NGoaLONG UEXoaSHORT UEZuaAWXoaUECqaZqaQ
16A97 qaXpaIUZraCraQraXoaMZpaCpaQpaXoaKApbHobGocNobSobYobWobPobNYobPHobBobMobNobHobLobHTocobDobR
16AB3 obNHocSobCobTSobGHobHTTobTHobXobFobDHocCobZ
16AC0 haDIGIT ZEROnaONEnaTWOoaHREEnaFOURoaIVEnaSIXoaEVENnaEIGHTnaNINE
16AD0 aaBASSA VAH LETTER ENNIraKAraSEraFAraMBErbYIraGAHraDHIIraKPAHraJOraHWAHraWAraZOraGBUraDOraCE
16AE0 raUWUraTOraBAraVUraYEINraPArbWADDrbraOsaOraUraEEsaraI
16AF0 kaCOMBINING HIGH TONEufLOWufMIDuiLOW-ufHIGH-LOWkaFULL STOP
16B00 aaPAHAWH HMONG VOWEL KEEBwaVuaIBvaVuaAUBwaVuaUBvaVuaEBvaVuaAIBwaVuaOOBwaVuaAWBwaVuaUABwaV
16B12 uaOBvaVuaIABwaVuaABvaVuaWBvaVuaAABwaVnaCONSONANT VAUxcNTSxcLxcHxcNLxcRxcNKxcQHxcYxcHLxcMxcCH
16B28 xeNxcHNxcPLHxdNTycxcxcXxcCnaMARK CIM TUBwaSOwaKESxaHAVwaSUAMwbHOwbTAUnbSIGN VOS THO
16B38 xaSHAB CEEBsaCIM CHEEMsaVOS THIABwaFEEMsaXYEEM NTXIVyaRHOyaTOVyaFAIBsaVOS SEEVsaMEEJ SUAB
16B42 saVOS NRUAsaIB YAMsaXAUSsaCIM TSOV ROG
16B50 naDIGIT ZEROtaONEtaTWOuaHREEtaFOURuaIVEtaSIXuaEVENtaEIGHTtaNINE
16B5B naNUMBER TENSubHUNDREDucTEN THOUSANubMILLIONuiHUNDRED uhTEN BvhR
16B63 naSIGN VOS LUBsaXYOOsaHLIsdTHIRD-STAGE saZWJ THAJsaHNUBsaNQIGsaXIABsaNTUJsaAVsbTXHEEJ CEE
16B6E saMEEJ TSEEBsaTAUsaLOSsbMUsaCIM HAIS LUS NTOG NTOGwaCUAM TSHOOJwaTXWV+aa CHWVwaPUB DAWB
16B77 waNRES TOS
16B7D naCLAN SIGN TSHEEJxaYEEGxaLISyaAUJxbXYOOxaKOOxaHAWJxaMUASxaTHOJyaSABxcPHxdKxaHAMxaVAJxcFxcY
16B8D xaTSWBxaKWMxaVWJ
16E40 aaMEDEFAIDRIN CAPITAL LETTER M+baS+baV+baW+baATIU+baZ+baKP+bb+baT+baG+baF+baI+baK+baA+baJ
16E4F +baE+baB+baC+baU+bbY+baL+baQ+baHP+baNY+baX+baD+baOE+baN+baR+baO+baAI+baYmaSMALL LETTER MzaS
16E62 zaVzaWzaATIUzaZzaKPzbzaTzaGzaFzaIzaKzaAzaJzaEzaBzaCzaUzbYzaLzaQzaHPzaNYzaXzaDzaOEzaNzaRzaO
16E7E zaAIzaYmaDIGIT ZEROsaONEsaTWOtaHREEsaFOURtaIVEsaSIXtaEVENsaEIGHTsaNINEmaNUMBER TENtcELEV
16E8C taTWELVEuaHIRTEENtfFOUueIFteSIXueEVENteEIGHteNINEmaDIGIT ONE ALTERNATE FORMspTWOtpHREE
16E97 maCOMMAmaFULL STOPmaSYMBOL AIVAmaEXCLAMATION OH
16F00 baIAO LETTER PAmbBmbYI PmbPLmbMnbHmbARCHAIC MmbFmbVnbFmbTmbDmbYI TTqbmcTmbDDmbNnbHmbYI NN
16F13 mcARCHAIC mcNobHmbLnbYnbHobYmbTLHmdDmbTLHYmeDmbKmbGmbYI KmbQnbGmcNobHmbARCHAIC NGmbHmbXmbGH
16F29 obHmbTSSmbDZZmbNYobHmcTSmcDZmcYI TSpcDZmcREFORMED TSmdnbSmbZHncSmbTSmbDZmbYI TSmcmbZnbSnbZ
16F3E obSmbARCHAIC ZZmbZZYocSmbWmaAHmaHHAmaBRImbSYmcDZmaTEnbSmbRT
16F4F faSIGN CONSONANT MODIFIER BARfaLETTER NASALIZATIONffSIGN ASPIRkaREFORMED VOICINGtaASPIRATION
16F54 faVOWEL SIGN AraAraHHraNsaGqaOraOqbWraqaEraNsaGqaOEYqaIraAsaNtaGraOraEraIraUraNGqaUraAsaNtaG
16F6E raUraEIraNGqaYraIqaAEsaEqaERRqdROUNDED qbEqcROUNDED qaAIqbEqaAUqbOqaNraGqbUOqaYUIqaOGraER
16F83 qaVWqaIGqaEAqaIONGqaUI
16F8F faTONE RIGHTkfTOP kaABOVEkaBELOWfaLETTER TONE-2ra3ra4ra5ra6ra7ra8maREFORMED TONE-1+aa2+aa4
16F9D +aa5+aa6+aa8
16FE0 aaTANGUT ITERATION MARKapNUSHUafOLD CHINESE HOOKmfITERATIONaaKHITAN SMALL SCRIPT FILLER
16FF0 aaVIETNAMESE ALTERNATE READING MARK CA+iaNHAY
18800 aaTANGUT COMPONENT-001ta2ta3ta4ta5ta6ta7ta8ta9sa10ta1ta2ta3ta4ta5ta6ta7ta8ta9sa20ta1ta2ta3
18817 ta4ta5ta6ta7ta8ta9sa30ta1ta2ta3ta4ta5ta6ta7ta8ta9sa40ta1ta2ta3ta4ta5ta6ta7ta8ta9sa50ta1ta2
18834 ta3ta4ta5ta6ta7ta8ta9sa60ta1ta2ta3ta4ta5ta6ta7ta8ta9sa70ta1ta2ta3ta4ta5ta6ta7ta8ta9sa80ta1
18851 ta2ta3ta4ta5ta6ta7ta8ta9sa90ta1ta2ta3ta4ta5ta6ta7ta8ta9ra100ta1ta2ta3ta4ta5ta6ta7ta8ta9sa10
1886E ta1ta2ta3ta4ta5ta6ta7ta8ta9sa20ta1ta2ta3ta4ta5ta6ta7ta8ta9sa30ta1ta2ta3ta4ta5ta6ta7ta8ta9
1888B sa40ta1ta2ta3ta4ta5ta6ta7ta8ta9sa50ta1ta2ta3ta4ta5ta6ta7ta8ta9sa60ta1ta2ta3ta4ta5ta6ta7ta8
188A8 ta9sa70ta1ta2ta3ta4ta5ta6ta7ta8ta9sa80ta1ta2ta3ta4ta5ta6ta7ta8ta9sa90ta1ta2ta3ta4ta5ta6ta7
188C5 ta8ta9ra200ta1ta2ta3ta4ta5ta6ta7ta8ta9sa10ta1ta2ta3ta4ta5ta6ta7ta8ta9sa20ta1ta2ta3ta4ta5ta6
188E2 ta7ta8ta9sa30ta1ta2ta3ta4ta5ta6ta7ta8ta9sa40ta1ta2ta3ta4ta5ta6ta7ta8ta9sa50ta1ta2ta3ta4ta5
188FF ta6ta7ta8ta9sa60ta1ta2ta3ta4ta5ta6ta7ta8ta9sa70ta1ta2ta3ta4ta5ta6ta7ta8ta9sa80ta1ta2ta3ta4
1891C ta5ta6ta7ta8ta9sa90ta1ta2ta3ta4ta5ta6ta7ta8ta9ra300ta1ta2ta3ta4ta5ta6ta7ta8ta9sa10ta1ta2ta3
18939 ta4ta5ta6ta7ta8ta9sa20ta1ta2ta3ta4ta5ta6ta7ta8ta9sa30ta1ta2ta3ta4ta5ta6ta7ta8ta9sa40ta1ta2
18956 ta3ta4ta5ta6ta7ta8ta9sa50ta1ta2ta3ta4ta5ta6ta7ta8ta9sa60ta1ta2ta3ta4ta5ta6ta7ta8ta9sa70ta1
18973 ta2ta3ta4ta5ta6ta7ta8ta9sa80ta1ta2ta3ta4ta5ta6ta7ta8ta9sa90ta1ta2ta3ta4ta5ta6ta7ta8ta9ra400
18990 ta1ta2ta3ta4ta5ta6ta7ta8ta9sa10ta1ta2ta3ta4ta5ta6ta7ta8ta9sa20ta1ta2ta3ta4ta5ta6ta7ta8ta9
189AD sa30ta1ta2ta3ta4ta5ta6ta7ta8ta9sa40ta1ta2ta3ta4ta5ta6ta7ta8ta9sa50ta1ta2ta3ta4ta5ta6ta7ta8
189CA ta9sa60ta1ta2ta3ta4ta5ta6ta7ta8ta9sa70ta1ta2ta3ta4ta5ta6ta7ta8ta9sa80ta1ta2ta3ta4ta5ta6ta7
189E7 ta8ta9sa90ta1ta2ta3ta4ta5ta6ta7ta8ta9ra500ta1ta2ta3ta4ta5ta6ta7ta8ta9sa10ta1ta2ta3ta4ta5ta6
18A04 ta7ta8ta9sa20ta1ta2ta3ta4ta5ta6ta7ta8ta9sa30ta1ta2ta3ta4ta5ta6ta7ta8ta9sa40ta1ta2ta3ta4ta5
18A21 ta6ta7ta8ta9sa50ta1ta2ta3ta4ta5ta6ta7ta8ta9sa60ta1ta2ta3ta4ta5ta6ta7ta8ta9sa70ta1ta2ta3ta4
18A3E ta5ta6ta7ta8ta9sa80ta1ta2ta3ta4ta5ta6ta7ta8ta9sa90ta1ta2ta3ta4ta5ta6ta7ta8ta9ra600ta1ta2ta3
18A5B ta4ta5ta6ta7ta8ta9sa10ta1ta2ta3ta4ta5ta6ta7ta8ta9sa20ta1ta2ta3ta4ta5ta6ta7ta8ta9sa30ta1ta2
18A78 ta3ta4ta5ta6ta7ta8ta9sa40ta1ta2ta3ta4ta5ta6ta7ta8ta9sa50ta1ta2ta3ta4ta5ta6ta7ta8ta9sa60ta1
18A95 ta2ta3ta4ta5ta6ta7ta8ta9sa70ta1ta2ta3ta4ta5ta6ta7ta8ta9sa80ta1ta2ta3ta4ta5ta6ta7ta8ta9sa90
18AB2 ta1ta2ta3ta4ta5ta6ta7ta8ta9ra700ta1ta2ta3ta4ta5ta6ta7ta8ta9sa10ta1ta2ta3ta4ta5ta6ta7ta8ta9
18ACF sa20ta1ta2ta3ta4ta5ta6ta7ta8ta9sa30ta1ta2ta3ta4ta5ta6ta7ta8ta9sa40ta1ta2ta3ta4ta5ta6ta7ta8
18AEC ta9sa50ta1ta2ta3ta4ta5ta6ta7ta8ta9sa60ta1ta2ta3ta4ta5ta6ta7ta8
18B00 aaKHITAN SMALL SCRIPT CHARACTER-18B00+ia1+ia2+ia3+ia4+ia5+ia6+ia7+ia8+ia9+iaA+iaB+iaC+iaD
18B0E +iaE+iaF+ha10+ia1+ia2+ia3+ia4+ia5+ia6+ia7+ia8+ia9+iaA+iaB+iaC+iaD+iaE+iaF+ha20+ia1+ia2+ia3
18B24 +ia4+ia5+ia6+ia7+ia8+ia9+iaA+iaB+iaC+iaD+iaE+iaF+ha30+ia1+ia2+ia3+ia4+ia5+ia6+ia7+ia8+ia9
18B3A +iaA+iaB+iaC+iaD+iaE+iaF+ha40+ia1+ia2+ia3+ia4+ia5+ia6+ia7+ia8+ia9+iaA+iaB+iaC+iaD+iaE+iaF
18B50 +ha50+ia1+ia2+ia3+ia4+ia5+ia6+ia7+ia8+ia9+iaA+iaB+iaC+iaD+iaE+iaF+ha60+ia1+ia2+ia3+ia4+ia5
18B66 +ia6+ia7+ia8+ia9+iaA+iaB+iaC+iaD+iaE+iaF+ha70+ia1+ia2+ia3+ia4+ia5+ia6+ia7+ia8+ia9+iaA+iaB
18B7C +iaC+iaD+iaE+iaF+ha80+ia1+ia2+ia3+ia4+ia5+ia6+ia7+ia8+ia9+iaA+iaB+iaC+iaD+iaE+iaF+ha90+ia1
18B92 +ia2+ia3+ia4+ia5+ia6+ia7+ia8+ia9+iaA+iaB+iaC+iaD+iaE+iaF+haA0+ia1+ia2+ia3+ia4+ia5+ia6+ia7
18BA8 +ia8+ia9+iaA+iaB+iaC+iaD+iaE+iaF+haB0+ia1+ia2+ia3+ia4+ia5+ia6+ia7+ia8+ia9+iaA+iaB+iaC+iaD
18BBE +iaE+iaF+haC0+ia1+ia2+ia3+ia4+ia5+ia6+ia7+ia8+ia9+iaA+iaB+iaC+iaD+iaE+iaF+haD0+ia1+ia2+ia3
18BD4 +ia4+ia5+ia6+ia7+ia8+ia9+iaA+iaB+iaC+iaD+iaE+iaF+haE0+ia1+ia2+ia3+ia4+ia5+ia6+ia7+ia8+ia9
18BEA +iaA+iaB+iaC+iaD+iaE+iaF+haF0+ia1+ia2+ia3+ia4+ia5+ia6+ia7+ia8+ia9+iaA+iaB+iaC+iaD+iaE+iaF
18C00 +gaC00+ia1+ia2+ia3+ia4+ia5+ia6+ia7+ia8+ia9+iaA+iaB+iaC+iaD+iaE+iaF+ha10+ia1+ia2+ia3+ia4+ia5
18C16 +ia6+ia7+ia8+ia9+iaA+iaB+iaC+iaD+iaE+iaF+ha20+ia1+ia2+ia3+ia4+ia5+ia6+ia7+ia8+ia9+iaA+iaB
18C2C +iaC+iaD+iaE+iaF+ha30+ia1+ia2+ia3+ia4+ia5+ia6+ia7+ia8+ia9+iaA+iaB+iaC+iaD+iaE+iaF+ha40+ia1
18C42 +ia2+ia3+ia4+ia5+ia6+ia7+ia8+ia9+iaA+iaB+iaC+iaD+iaE+iaF+ha50+ia1+ia2+ia3+ia4+ia5+ia6+ia7
18C58 +ia8+ia9+iaA+iaB+iaC+iaD+iaE+iaF+ha60+ia1+ia2+ia3+ia4+ia5+ia6+ia7+ia8+ia9+iaA+iaB+iaC+iaD
18C6E +iaE+iaF+ha70+ia1+ia2+ia3+ia4+ia5+ia6+ia7+ia8+ia9+iaA+iaB+iaC+iaD+iaE+iaF+ha80+ia1+ia2+ia3
18C84 +ia4+ia5+ia6+ia7+ia8+ia9+iaA+iaB+iaC+iaD+iaE+iaF+ha90+ia1+ia2+ia3+ia4+ia5+ia6+ia7+ia8+ia9
18C9A +iaA+iaB+iaC+iaD+iaE+iaF+haA0+ia1+ia2+ia3+ia4+ia5+ia6+ia7+ia8+ia9+iaA+iaB+iaC+iaD+iaE+iaF
18CB0 +haB0+ia1+ia2+ia3+ia4+ia5+ia6+ia7+ia8+ia9+iaA+iaB+iaC+iaD+iaE+iaF+haC0+ia1+ia2+ia3+ia4+ia5
18CC6 +ia6+ia7+ia8+ia9+iaA+iaB+iaC+iaD+iaE+iaF+haD0+ia1+ia2+ia3+ia4+ia5
1AFF0 baATAKANA LETTER MINNAN TONE-2+ca3+ca4+ca5
1AFF5 +ca7+ca8xaNASALIZED TONE-1+ma2+ma3+ma4+ma5
1AFFD +ma7+ma8
1B000 qaARCHAIC EabHIRAGANA LETTER ARCHAIC YbaENTAIGANA LETTER A-1ua2ua3uaWOsaI-1ua2ua3ua4saU-1ua2
1B00C ua3ua4ua5saE-2ua3ua4ua5ua6saO-1ua2ua3saKA-1va2va3va4va5va6va7va8va9va10wa1vaKEtaI-1va2va3va4
1B027 va5va6va7va8taU-1va2va3va4va5va6va7taE-1va2va3va4va5va6taO-1va2va3vaKIsaSA-1va2va3va4va5va6
1B042 va7va8taI-1va2va3va4va5va6taU-1va2va3va4va5va6va7va8taE-1va2va3va4va5taO-1va2va3va4va5va6va7
1B05E saTA-1va2va3va4taI-1va2va3va4va5va6va7taU-1va2va3va4vaTOtaE-1va2va3va4va5va6va7va8va9taO-1
1B078 va2va3va4va5va6vaRAsaNA-1va2va3va4va5va6va7va8va9taI-1va2va3va4va5va6va7vaTEtaU-1va2va3taE-1
1B093 va2va3va4va5va6vaKOtaO-1va2va3va4va5saHA-1va2va3va4va5va6va7va8va9va10wa1tbI-va2va3va4va5va6
1B0AF va7taU-1va2va3taE-1va2va3va4va5va6va7taO-1va2va3va4va5va6va7va8saMA-1va2va3va4va5va6va7taI-1
1B0CA va2va3va4va5va6va7taU-1va2va3va4taE-1va2vaMAtaO-1va2va3va4va5va6saYA-1va2va3va4va5vaYOtaU-1
1B0E4 va2va3va4taO-1va2va3va4va5va6saRA-1va2va3va4taI-1va2va3va4va5va6va7taU-1va2va3va4va5va6taE-1
1B0FF va2va3va4taO-1va2va3va4va5va6saWA-1va2va3va4va5taI-1va2va3va4va5taE-1va2va3va4taO-1va2va3va4
1B11A va5va6va7saN-MU-MO-1+aa2baIRAGANA LETTER ARCHAIC WUaaKATAKANA LETTER ARCHAIC YIzaEyaWU
1B150 aaHIRAGANA LETTER SMALL WIxaExaO
1B164 aaKATAKANA LETTER SMALL WIxaExaOwaN
1B170 aaNUSHU CHARACTER-1B170ua1ua2ua3ua4ua5ua6ua7ua8ua9uaAuaBuaCuaDuaEuaFta80ua1ua2ua3ua4ua5ua6
1B187 ua7ua8ua9uaAuaBuaCuaDuaEuaFta90ua1ua2ua3ua4ua5ua6ua7ua8ua9uaAuaBuaCuaDuaEuaFtaA0ua1ua2ua3ua4
1B1A5 ua5ua6ua7ua8ua9uaAuaBuaCuaDuaEuaFtaB0ua1ua2ua3ua4ua5ua6ua7ua8ua9uaAuaBuaCuaDuaEuaFtaC0ua1ua2
1B1C3 ua3ua4ua5ua6ua7ua8ua9uaAuaBuaCuaDuaEuaFtaD0ua1ua2ua3ua4ua5ua6ua7ua8ua9uaAuaBuaCuaDuaEuaFtaE0
1B1E1 ua1ua2ua3ua4ua5ua6ua7ua8ua9uaAuaBuaCuaDuaEuaFtaF0ua1ua2ua3ua4ua5ua6ua7ua8ua9uaAuaBuaCuaDuaE
1B1FF uaFsa200ua1ua2ua3ua4ua5ua6ua7ua8ua9uaAuaBuaCuaDuaEuaFta10ua1ua2ua3ua4ua5ua6ua7ua8ua9uaAuaB
1B21C uaCuaDuaEuaFta20ua1ua2ua3ua4ua5ua6ua7ua8ua9uaAuaBuaCuaDuaEuaFta30ua1ua2ua3ua4ua5ua6ua7ua8ua9
1B23A uaAuaBuaCuaDuaEuaFta40ua1ua2ua3ua4ua5ua6ua7ua8ua9uaAuaBuaCuaDuaEuaFta50ua1ua2ua3ua4ua5ua6ua7
1B258 ua8ua9uaAuaBuaCuaDuaEuaFta60ua1ua2ua3ua4ua5ua6ua7ua8ua9uaAuaBuaCuaDuaEuaFta70ua1ua2ua3ua4ua5
1B276 ua6ua7ua8ua9uaAuaBuaCuaDuaEuaFta80ua1ua2ua3ua4ua5ua6ua7ua8ua9uaAuaBuaCuaDuaEuaFta90ua1ua2ua3
1B294 ua4ua5ua6ua7ua8ua9uaAuaBuaCuaDuaEuaFtaA0ua1ua2ua3ua4ua5ua6ua7ua8ua9uaAuaBuaCuaDuaEuaFtaB0ua1
1B2B2 ua2ua3ua4ua5ua6ua7ua8ua9uaAuaBuaCuaDuaEuaFtaC0ua1ua2ua3ua4ua5ua6ua7ua8ua9uaAuaBuaCuaDuaEuaF
1B2D0 taD0ua1ua2ua3ua4ua5ua6ua7ua8ua9uaAuaBuaCuaDuaEuaFtaE0ua1ua2ua3ua4ua5ua6ua7ua8ua9uaAuaBuaCuaD
1B2EE uaEuaFtaF0ua1ua2ua3ua4ua5ua6ua7ua8ua9uaAuaB
1BC00 aaDUPLOYAN LETTER HqaXqaPqaTqaFqaKqaLqaBqaDqaVqaGqaRqaP NqaD SqaF NqaK MqaR SqaTHqbSLOAN Dqc
1BC14 qaKKqaSLOAN JqaHLqaLHqbRqaMqaNqaJqaSqaM NqaN MqcJqaS JqaM WITH DOTqjNqjJ
1BC24 +aaS INSIDE AND ABOVEqaS WITH DOT+aa BELOWqaM SqcNqcJqcSqcM NqcN MqeJqcS JqaJ S WITH DOTsaN
1BC31 ta SqaS Tta RsaPta RqaT SsbR qaWraHra RqaS NsaMqaK R SqeGqaS Kta RqaAqaSLOAN OWqaOAraqaAOU
1BC46 qaIqaEqbIqaSHORT IqbUqaEEqaSLOAN EHqaROMANIAN IqaSLOAN EEqaLONG IqaYEqaUqbEqaXWqaU NqaLONG U
1BC56 qcROMANIANqaUHqaSLOAN UqaOOHraWraUqaWAraOraIrbEraOWqaNASAL UwaOwaIwaAqaPERNIN ANyaM
1BC67 qaSLOAN ENwbAwbOqaVOCALIC M
1BC70 jaAFFIX LEFT HORIZONTAL SECANTpsMIDpsRIGHTpjLOW VERTICpqMIDpqHIGHphATTACHEDygLEFT-TO-RIGHT 
1BC78 ycTANGE+aaILyaE HOOKyfIyfTANGENT
1BC80 paHIGH ACUTEufTIGHT ubGRAVufLONG uaDOTuaCIRCLEubLINubWAVuaVERTICAL
1BC90 paLOW ACUTEtfTIGHT tbGRAVtfLONG taDOTtaCIRCLEtbLINtbWAVtaVERTICALtaARROW
1BC9C jaSIGN O WITH CROSSjaTHICK LETTER SELECTORjaDOUBLE MARKjaPUNCTUATION CHINOOK FULL STOP
1BCA0 abSHORTHAND FORMAT LETTER OVERLAriCONTINUINGrbDOWN STErfUP
1CF00 aaZNAMENNY COMBINING MARK GORAZDO NIZKO S KRYZHEM ON LEFTyxyiTSATAyiGORAZDO NIZKOynyiSREDNE
1CF06 yjMALO POVYSHypyiVYSOKOyiMALO POVYSHE S KHOKHLOMy+aytVYSOKOybGORAZDO NIZKO S KRYZHEM ON RIGH
1CF0D yyyjTSATAyjGORAZDO NIZKOyoyjSREDNEykMALO POVYSHyqyjVYSOKOyjMALO POVYSHE S KHOKHLOMy+b
1CF17 yuVYSOKOyaTSATA S KRYZHEMykMALO POVYSHEyaSTRANNO MALO POVYSHEyaPOVYSHE S KRYZHEM+haTRANNO
1CF1D yaVYSOKO S KRYZHEMyaMALO POVYSHE STRANNOybGORAZDO VYSOKybZELyaONyaRAVNOyaTIKHAYAydBORZ
1CF25 ybUDARKycPODVERTycLOMybKUPNAYzbACHKyaZEVOKyaSKOBAybRAZSEKyaKRYZH ON LEFT
1CF30 taTONAL RANGE MARK MRACHNO+kbSVETL+kgTREtaMARK ZADERZHKAyjDEMESTVENNY ydOTSECyaPODCHASHIE
1CF37 +ia WITH VERTICAL STROKEyaCHASHKA+fa POLNAYAyaOBLACHKOyaSOROCHYA NOZHKAydTOCyaDVOETOCHIE
1CF3E taATTACHING VERTICAL OMETtfMARK CURVEDyaKRYZHtaLOWER TONAL RANGE INDICATOR
1CF42 jaPRIZNAK MODIFIER LEVEL-2+ga3+aaDIRECTION FLIP+aaKRYZH+aaROG
1CF50 jaNEUME KRYUKua TIKHYpaPARAKLITpaDVA V CHELNUpaKLYUCHpaZANOZHEKpaSTOPITSAxa S OCHKOM
1CF58 paPEREVODKAya NEPOSTOYANNAYApbSTOPITSA WITH SOROCHYA NOZHKpcCHELYUSTpcPALpbZAPYATAY
1CF5E paGOLUBCHIK BORZYzbTIKHzbMRACHNzbSVETLzgTREpaVRAKHIYA PROSTAYAydMRACHNydSVETLyiTRE
1CF67 ydKLYUCHEVAYA PROST+kdMRACHN+kdSVETL+kiTREpdDOUBLE ZAPYATpbREVERSED CHELYUSTKpbDERBITS
1CF6E paKHAMILOpaCHASHKApaPODCHASHIEpaSKAMEYTSA MRACHNAYAzdSVETLziTRE+adIKHpaDEMESTVENNY KLYUCH
1CF76 paSKAMEYTSA KLYUCHEVAYA SVETLAYA+gdNEPOSTOYANN+gdVAYA TIKHzdDVOECHELNAYA PROST+mdSVETL
1CF7B +mdNEPOSTOYANN+mdKLYUCHEVqaLOZHITIEya S ZAPYATOYzaZAKRYTOEzaS KRYZHEMpaKRYZHpaROGpaFITA
1CF84 pbKOBYLpbZMEYTSpbSTATYva S ZAPYATOYyaKRYZHEMyhZAPYATOY I yaKRYZHEM I ZAPYATOYwaZAKRYTAYA
1CF8C +fa S ZAPYATOYwaS ROGOMyaDVUMYA ZAPYATYMIyaZAPYATOY I PODCHASHIEMpaPOLKULIZMY
1CF91 paSTATYA NEPOSTOYANNAYArdRELA PROSTwdMRACHNOTIKHwdKRYZHEVwdPOLUPOVODNyhweNEPOSTOYAN
1CF98 weKLYUCHEPOVOD+deNEPOSTOYANweTIKHAYA PUTweDVOECHEL+fdOKRYZHEV+gdPOVODN+fdAYA KLYUCHEV
1CF9F +fpOPOVODNwdGROMNAYA WITH SINGLE ZAPYAT+a+aOPOVOD+adN+aeOPOVOD+ka WITH DOUBLE ZAPYATAYA
1CFA5 +bdKRYZHEV+la POVODNAYApaMECHIKva POVODNYwbKLYUCHEVO+dbPOVODN+dcNEPOSTOYAN
1CFAC paSTRELA TRYASOGLASNAYA+cePOVOD+ceSTRELpbOSOKua SVETLAYAviTREviKRYUKOVAYA wnLYUCHE
1CFB4 +hdNEPOSTOYANNpdSTRELA KRYUKOV+ga POVODNAYA+hdGROMNAYA WITH SINGLE ZAPYAT+l+aOPOVOD+ldN
1CFBA +leOPOVOD+va WITH DOUBLE ZAPYATAYA+mdKRYZHEV+wa POVODNAYA+hbTRYASKpbKUFISMpaOBLAKOpaDUDA
1CFC2 pbNEMKpaPAUK
1D000 aaBYZANTINE MUSICAL SYMBOL PSILIzaDASEIAzaPERISPOMENIzaOXEIA EKFONITIKON+faDIPLI
1D005 zaVAREIA EKFONITIKON+gaDIPLIzbKATHISTzbSYRMATIKzePARAKLIzaYPOKRISIS+ia DIPLIzbKREMAST
1D00D zaAPESO EKFONITIKONznEXzaTELEIAzbKENTIMATzaAPOSTROFOS+ja DIPLIzaSYNEVMAzbTHIT
1D015 zaOLIGON ARCHAIONzmGORzcPSILzeCHAMzaVATHYzaISON ARCHAIONzjKENTIMA+gjTAzaSAXIMATAzaPARICHON
1D01F zaSTAVROS APODEXIAzaOXEIAI ARCHAIONznVARzjAPODERMA+caTHEMAzcKLASzcREVzaPIASMA ARCHAION
1D027 zaTINAGMAzcANATRICHISzeSE+aaYNAGMA ARCHAION+haMETA STAVROUzaOYRANISMA ARCHAIONzaTHEMAzaLEMOI
1D02F zaDYOzaTRIA+abESSERzbKRATIMATzaAPESO EXO NEOzaFTHORA ARCHAIONzaIMIFTHORAzaTROMIKON ARCHAION
1D037 zcKATAVA TROMIKzcPELAST+aeSIFIzaKONTEVMAzaCHOREVMA ARCHAIONzaRAPISMAzaPARAKALESMA ARCHAION
1D03E +ejLITIKIzbICHADIzaNANAzbPETASMzaKONTEVMA ALLOzfTROMIKONzaSTRAGGISMATAzgGRONTHzaISON NEO
1D047 zgOLIG+aeXEIAzaPETASTIzaKOUFISMAziPETASTOzjKRATIMzaPELASTON NEOzbKENTIMATA NEO AN+gizaYPSILI
1D051 zaAPOSTROFOS NEO+ifI SYNDESMOzaYPORROIzaKRATIMOYPORROONzcELAFRzaCHAMILIzaMIKRON ISON
1D058 zaVAREIA NEOzfPIASM+aeSIFISTONzaOMALONzaANTIKENOMAzcLYGISzaPARAKLITIKI NEO+eeALESMA
1D060 zaETERON PARAKALESMAzdKYLIzhANTIKENOzaTROMIKON NEOzaEKSTREPTONzaSYNAGMA NEO+baRMA
1D067 zaCHOREVMA NEOzaEPEGERMAzaSEISMA NEOzaXIRON KLASMAzaTROMIKOPSIFISTONzaPSIFISTOLYGISMA
1D06D ziTROMIK+gdPARAKALEzmPSIFISTzcTROMIKOSYNAGziPSIFISTzaGORGOSYNTHETONzmAznETERON 
1D075 zaOYRANISMA NEOzbTHEMATISMOS ES+mbX+ea APLOUN+caS KAI APOTHESzaKATAVASMAzaENDOFONON
1D07C zaYFEN KATO+ebANzaSTAVROSzaKLASMA ANOzaDIPLI ARCHAIONzjKRATIMA+iaLLO+hbNEzgAPODER+baLIzdDI
1D087 zeTR+adETRAzaKORONISzaLEIMMA ENOS CHRONOU+gaDYO CHRONON+giTRION+hkESSAR+gaIMISEOS CHRONOU
1D08F zaGORGON NEO ANO+gaPARESTIGMENON ARISTERA+ubDEXIzaDIGORGON+ha PARESTIGMENON ARISTERA KATO
1D094 ++fbAN+waDEXIAzaTRIGORGONzeAzfIMIDIzhzaAGOGI POLI ARGI+fbARGOTER+ib+faMETRIA+haSI+fbGORG
1D0A0 +jbOTER+fbPOLI GORGzaMARTYRIA PROTOS ICHOS+imALLI +iiDEYTER+ioALLI +iiTRIT+lbFONIA
1D0A8 +jbETARTOS ICHO+rfLEGETOS +in+iiPLAGIzcISAKIA TELOUS ICHIMATzrAPOSTROFOI
1D0AE zbFANEROSIS TETRAFONIA+jgMONO+jgDIzbMARTYRIA VARYS ICHO+ilPROTO+jhLAGIOS TETARTO
1D0B4 zaGORTHMIKON N APLOUN+mfDIzaENARXIS KAI FTHORA VOUzaIMIFONON+dcTHOR
1D0B9 zaFTHORA ARCHAION DEYTEROU ICHOU+gaDIATONIKI PA+qbNAN+gaNAOS ICHOS+gaDIATONIKI DI
1D0BE +gdSKLIRON DIATONON+gaDIATONIKI KE+qaZO+qbNI KAT+tbAN+gaMALAKON CHROMA DIFONIAS+vgMONO
1D0C5 +abHTORA SKLIRON CHROMA VASI+aaTHORA SKLIRON CHROMA SYNAFI+gaNENANOzaCHROA ZYGOS+faKLITON
1D0CA +faSPATHIzaFTHORA I YFESIS TETARTIMORION+gaENARMONIOS ANTIFONIAzaYFESIS TRITIMORIONzqDI
1D0CF +hiETAR+gaAPLI DYO DODEKATA+gjMONOGRAMMOS TESSERA+gjDIGRAMMOS EX+gjTRIGRAMMOS OKTO
1D0D4 zkYFESIS APLI DY+gjMONOGRAMMOS TESSERA+gjDIGRAMMOS EX+gjTRIGRAMMOS OKTOzaGENIKI DIESIS+geYF
1D0DA zaDIASTOLI APLI MIKRI+obEGAL+icDIP+iaTHESEOSziSIMANSIS+pa DISIMOU+qgTR+rfETRA+iaARSEOS
1D0E3 +oa DISIMOU+pgTR+qfETRAzaDIGRAMMA GG+baFTOGGOS OUzaSTIGMAzbARKTIKO P+haVOU+haGA+haDI+haKE
1D0EE +haZO+haNIzaKENTIMATA NEO MESO+gj+gbTA NEO KAT+gj+afLASMAzfGORGON NEO
1D100 aaMUSICAL SYMBOL SINGLE BARLINEpkDOUBpiFINALpnREVERSE piDASHEDpiSHORTpaLEFT REPEAT SIGN
1D107 pnRIGHqaEPEAT DOTSpaDAL SEGNOrb CAPpbSEGNpaCODApaREPEATED FIGURE-1+fa2+fa3paFERMATAwa BELOW
1D112 paBREATH MARKpaCAESURApaBRACEtaKETpaONE-LINE STAFFplTWOqlHREEplFOURqlIVEplSIX
1D11C taSTRING FRETBOARDprFOURpaG CLEFva OTTAVA ALTA+dbBASSpaC CLEFpfFva OTTAVA ALTA+dbBASS
1D125 paDRUM CLEF-1za2
1D129 paMULTIPLE MEASURE RESTpaDOUBLE SHARPwaFLATpaFLAT UPuaDOWNpaNATURAL UPxaDOWNpaSHARP UPvaDOWN
1D132 paQUARTER TONE SHARP+caFLATpaCOMMON TIMEqfUTpaOTTAVA ALTAwbBASSpbQUINDICESIMA ALT+cbBASS
1D13A paMULTI RESTpfWHOLEpfHALFpfQUARTERpfEIGHTHphSIXTEENpfTHIRTY-SECONDpfSIXTY-FOURTH
1D142 phONE HUNDRED TWENTY-EIGHpaX NOTEHEADpjPLUSpjCIRCLE XpaSQUARE NOTEHEAD WHITE+faBLACK
1D148 paTRIANGLE NOTEHEAD UP WHITE+kaBLACK+haLEFT WHITE+maBLACK+haRIGHT WHITE+naBLACK+haDOWN WHITE
1D14F +maBLACK+haUP RIGHT WHITE+qaBLACKpaMOON NOTEHEAD WHITE+daBLACK
1D154 paTRIANGLE-ROUND NOTEHEAD DOWN WHITE+saBLACKpaPARENTHESIS NOTEHEADpjVOIDpaNOTEHEAD BLACK
1D159 qaULL NOTEHEADpaCLUSTER NOTEHEAD WHITE+gaBLACKpaBREVEpbWHOLE NOTpfHALFpfQUARTERpfEIGHTH
1D161 phSIXTEENpfTHIRTY-SECONDpfSIXTY-FOURTHphONE HUNDRED TWENTY-EIGHpaCOMBINING STEM
1D166 +adPRECHGESANG SzaTREMOLO-1+ha2+ha3paFINGERED TREMOLO-1+ga2+ga3paCOMBINING AUGMENTATION DOT
1D16E zaFLAG-1+ea2+ea3+ea4+ea5paBEGIN BEAMpfENDpaBEGIN TIEpeENDpaBEGIN SLURpfENDpaBEGIN PHRASE
1D17A phENDpaCOMBINING ACCENTzaSTACCATOzcTENUzbSTACCATISSIMzbMARCAT+ga-STACCATOzjACCENTzaLOURE
1D183 paARPEGGIATO UP+aaDOWNpaCOMBINING DOITzaRIPzcFLzaSMEARzaBENDzaDOUBLE TONGUEzjTRIP
1D18C paRINFORZANDOpbSUBITpaZpaPIANOpbMEZZpaFORTEpaCRESCENDOpjDEpaGRACE NOTE SLASH+afNO paTRqaURN
1D198 peINVERTED paTURN SLASHuaUPpaORNAMENT STROKE-1+fa2+fa3+fa4+fa5+fa6+fa7+fa8+fa9+fa10+ga1
1D1A6 paHAUPTSTIMMEpgNEBENpgEND OF paDEGREE SLASHpaCOMBINING DOWN BOWzeUPzaHARMONIC
1D1AD zaSNAP PIZZICATOpaPEDAL MARKveUP pfHALF PEDALpaGLISSANDO UPzaDOWNpaWITH FINGERNAILSpaDAMP
1D1B5 ta ALLpaMAXIMApbLONGpaBREVISpaSEMIBREVIS WHITE+aaBLACKpaMINIMAva BLACKpaSEMIMINIMA WHITE
1D1BE +aaBLACKpaFUSA WHITEuaBLACKpaLONGA PERFECTA RESTvnIMpfBREVISplSEMIpfMINIMAplSEMI
1D1C7 paTEMPUS PERFECTUM CUM PROLATIONE PERFECTA+viIM+vaPERFECTA DIMINUTION-1
1D1CA waIMPERFECTUM CUM PROLATIONE PERFECTA+xiIM++ha DIMINUTION-1++ta2++ta3paCROIX
1D1D0 paGREGORIAN C CLEFzfFpaSQUARE BpaVIRGApaPODATUSpbCLIVIpbSCANDICUpdCLIMApcTORCULpcPORRECT
1D1DA ya FLEXUSpjSCANDICpcTORCULUS RESUPINpbPES SUBPUNCTIpaKIEVAN C CLEFwaEND OF PIECEwbFINAL NOT
1D1E1 waRECITATIVE MARKwaWHOLE NOTEwfHALFwaQUARTER NOTE STEM DOWN+oaUPwaEIGHTH NOTE STEM DOWN+naUP
1D1E8 waFLAT SIGNpaSORIpaKORON
1D200 aaGREEK VOCAL NOTATION SYMBOL-1+ca2+ca3+ca4+ca5+ca6+ca7+ca8+ca9+ca10+da1+da2+da3+da4+da5+da6
1D210 +da7+da8+da9+ca20+da1+da2+da3+da4+ca50+da1+da2+da3+da4gaINSTRUMENTAL NOTATION SYMBOL-1+ja2
1D21F +ja4+ja5+ja7+ja8+ja11+ka2+ka3+ka4+ka7+ka8+ka9+ja23+ka4+ka5+ka6+ka7+ka9+ja30+ka2+ka6+ka7+ka8
1D235 +ka9+ja40+ka2+ka3+ka5+ka7+ka8+ka9+ja50+ka1+ka2+ka3+ka4aaCOMBINING GREEK MUSICAL TRISEME
1D243 zeETRAyfPENTaaGREEK MUSICAL LEIMMA
1D2E0 aaMAYAN NUMERAL ZEROoaONEoaTWOpaHREEoaFOURpaIVEoaSIXpaEVENoaEIGHToaNINEoaTENocELEVoaTWELVE
1D2ED paHIRTEENofFOUpeIFoeSIXpeEVENoeEIGHoeNINE
1D300 baONOGRAM FOR EARTHagDIGRAM FOR HEAVENLYmgUMANlaEARTHLY HEAVENubUMAqaaaTETRAGRAM FOR CENTRE
1D307 obFULL CIRCLoaMIREDoaBARRIERoaKEEPING SMALLoaCONTRARIETYoaASCENToaOPPOSITIONoaBRANCHING OUT
1D30F oaDEFECTIVENESS OR DISTORTIONpaIVERGENCEoaYOUTHFULNESSoaINCREASEoaPENETRATIONoaREACH
1D315 oaCONTACToaHOLDING BACKoaWAITINGodFOLLOWoaADVANCEobRELEASqbSISTANCobEASoaJOYoaCONTENTION
1D31F oaENDEAVOURoaDUTIESoaCHANGEoaDECISIVENESSoaBOLD RESOLUTIONoaPACKINGoaLEGIONoaCLOSENESS
1D327 oaKINSHIPoaGATHERINGoaSTRENGTHoaPURITYoaFULLNESSoaRESIDENCEoaLAW OR MODELoaRESPONSE
1D32F oaGOING TO MEEToaENCOUNTERSoaSTOVEoaGREATNESSoaENLARGEMENToaPATTERNoaRITUALoaFLIGHT
1D337 oaVASTNESS OR WASTINGoaCONSTANCYoaMEASUREoaETERNITYoeUoaDIMINISHMENToaCLOSED MOUTH
1D33E oaGUARDEDNESSpaATHERING INoaMASSINGoaACCUMULATIONoaEMBELLISHMENTobDOUBoaWATCHoaSINKING
1D346 oaINNERoaDEPARTUREpaARKENINGpdIMMoaEXHAUSTIONoaSEVERANCEpbTOPPAGoaHARDNESSoaCOMPLETION
1D34F paLOSUREodFAILoaAGGRAVATIONoaCOMPLIANCEobON THE VERGoaDIFFICULTIESoaLABOURINGoeFOSTE
1D360 aaCOUNTING ROD UNIT DIGIT ONEyaTWOzaHREEyaFOURzaIVEyaSIXzaEVENyaEIGHTyaNINEncTENS DIGIT O
1D36A yaTWOzaHREEyaFOURzaIVEyaSIXzaEVENyaEIGHTyaNINEacIDEOGRAPHIC TALLY MARK OxaTWOyaHREExaFOUR
1D376 yaIVEabTALLY MARK ONlbFIV
1D400 aaMATHEMATICAL BOLD CAPITAL A+aaB+aaC+aaD+aaE+aaF+aaG+aaH+aaI+aaJ+aaK+aaL+aaM+aaN+aaO+aaP
1D410 +aaQ+aaR+aaS+aaT+aaU+aaV+aaW+aaX+aaY+aaZsaSMALL AyaByaCyaDyaEyaFyaGyaHyaIyaJyaKyaLyaMyaNyaO
1D429 yaPyaQyaRyaSyaTyaUyaVyaWyaXyaYyaZnaITALIC CAPITAL A+caB+caC+caD+caE+caF+caG+caH+caI+caJ+caK
1D43F +caL+caM+caN+caO+caP+caQ+caR+caS+caT+caU+caV+caW+caX+caY+caZuaSMALL A+aaB+aaC+aaD+aaE+aaF
1D454 +aaG
1D456 +aaI+aaJ+aaK+aaL+aaM+aaN+aaO+aaP+aaQ+aaR+aaS+aaT+aaU+aaV+aaW+aaX+aaY+aaZ
1D468 naBOLD ITALIC CAPITAL A+haB+haC+haD+haE+haF+haG+haH+haI+haJ+haK+haL+haM+haN+haO+haP+haQ+haR
1D47A +haS+haT+haU+haV+haW+haX+haY+haZzaSMALL A+faB+faC+faD+faE+faF+faG+faH+faI+faJ+faK+faL+faM
1D48F +faN+faO+faP+faQ+faR+faS+faT+faU+faV+faW+faX+faY+faZnaSCRIPT CAPITAL A
1D49E +caC+caD
1D4A2 +caG
1D4A5 +caJ+caK
1D4A9 +caN+caO+caP+caQ
1D4AE +caS+caT+caU+caV+caW+caX+caY+caZuaSMALL A+aaB+aaC+aaD
1D4BB +aaF
1D4BD +aaH+aaI+aaJ+aaK+aaL+aaM+aaN
1D4C5 +aaP+aaQ+aaR+aaS+aaT+aaU+aaV+aaW+aaX+aaY+aaZnaBOLD SCRIPT CAPITAL A+haB+haC+haD+haE+haF+haG
1D4D7 +haH+haI+haJ+haK+haL+haM+haN+haO+haP+haQ+haR+haS+haT+haU+haV+haW+haX+haY+haZzaSMALL A+faB
1D4EC +faC+faD+faE+faF+faG+faH+faI+faJ+faK+faL+faM+faN+faO+faP+faQ+faR+faS+faT+faU+faV+faW+faX+faY
1D503 +faZnaFRAKTUR CAPITAL A+daB
1D507 +daD+daE+daF+daG
1D50D +daJ+daK+daL+daM+daN+daO+daP+daQ
1D516 +daS+daT+daU+daV+daW+daX+daY
1D51E vaSMALL A+baB+baC+baD+baE+baF+baG+baH+baI+baJ+baK+baL+baM+baN+baO+baP+baQ+baR+baS+baT+baU
1D533 +baV+baW+baX+baY+baZnaDOUBLE-STRUCK CAPITAL A+jaB
1D53B +jaD+jaE+jaF+jaG
1D540 +jaI+jaJ+jaK+jaL+jaM
1D546 +jaO
1D54A +jaS+jaT+jaU+jaV+jaW+jaX+jaY
1D552 +baSMALL A+haB+haC+haD+haE+haF+haG+haH+haI+haJ+haK+haL+haM+haN+haO+haP+haQ+haR+haS+haT+haU
1D567 +haV+haW+haX+haY+haZnaBOLD FRAKTUR CAPITAL A+iaB+iaC+iaD+iaE+iaF+iaG+iaH+iaI+iaJ+iaK+iaL+iaM
1D579 +iaN+iaO+iaP+iaQ+iaR+iaS+iaT+iaU+iaV+iaW+iaX+iaY+iaZ+aaSMALL A+gaB+gaC+gaD+gaE+gaF+gaG+gaH
1D58E +gaI+gaJ+gaK+gaL+gaM+gaN+gaO+gaP+gaQ+gaR+gaS+gaT+gaU+gaV+gaW+gaX+gaY+gaZ
1D5A0 naSANS-SERIF CAPITAL A+gaB+gaC+gaD+gaE+gaF+gaG+gaH+gaI+gaJ+gaK+gaL+gaM+gaN+gaO+gaP+gaQ+gaR
1D5B2 +gaS+gaT+gaU+gaV+gaW+gaX+gaY+gaZyaSMALL A+eaB+eaC+eaD+eaE+eaF+eaG+eaH+eaI+eaJ+eaK+eaL+eaM
1D5C7 +eaN+eaO+eaP+eaQ+eaR+eaS+eaT+eaU+eaV+eaW+eaX+eaY+eaZyaBOLD CAPITAL A+laB+laC+laD+laE+laF+laG
1D5DB +laH+laI+laJ+laK+laL+laM+laN+laO+laP+laQ+laR+laS+laT+laU+laV+laW+laX+laY+laZ+daSMALL A+jaB
1D5F0 +jaC+jaD+jaE+jaF+jaG+jaH+jaI+jaJ+jaK+jaL+jaM+jaN+jaO+jaP+jaQ+jaR+jaS+jaT+jaU+jaV+jaW+jaX+jaY
1D607 +jaZyaITALIC CAPITAL A+naB+naC+naD+naE+naF+naG+naH+naI+naJ+naK+naL+naM+naN+naO+naP+naQ+naR
1D61A +naS+naT+naU+naV+naW+naX+naY+naZ+faSMALL A+laB+laC+laD+laE+laF+laG+laH+laI+laJ+laK+laL+laM
1D62F +laN+laO+laP+laQ+laR+laS+laT+laU+laV+laW+laX+laY+laZyaBOLD ITALIC CAPITAL A+saB+saC+saD+saE
1D641 +saF+saG+saH+saI+saJ+saK+saL+saM+saN+saO+saP+saQ+saR+saS+saT+saU+saV+saW+saX+saY+saZ
1D656 +kaSMALL A+qaB+qaC+qaD+qaE+qaF+qaG+qaH+qaI+qaJ+qaK+qaL+qaM+qaN+qaO+qaP+qaQ+qaR+qaS+qaT+qaU
1D66B +qaV+qaW+qaX+qaY+qaZnaMONOSPACE CAPITAL A+faB+faC+faD+faE+faF+faG+faH+faI+faJ+faK+faL+faM
1D67D +faN+faO+faP+faQ+faR+faS+faT+faU+faV+faW+faX+faY+faZxaSMALL A+daB+daC+daD+daE+daF+daG+daH
1D692 +daI+daJ+daK+daL+daM+daN+daO+daP+daQ+daR+daS+daT+daU+daV+daW+daX+daY+daZ
1D6A4 naITALIC SMALL DOTLESS I+iaJ
1D6A8 naBOLD CAPITAL ALPHA+abBET+abGAMM+abDELT+aaEPSILON+aaZETA+ad+adTH+acIO+abKAPP+abLAMD+aaMU
1D6B4 +abN+aaXI+aaOMICRON+aaPI+aaRHO+aaTHETA SYMBOL+aaSIGMA+aaTAU+aaUPSILON+aaPHI+acC+abPS+aaOMEGA
1D6C1 sbNABLsbSMALL ALPHybBETybGAMMybDELTyaEPSILONyaZETAydydTHycIOybKAPPybLAMDyaMUybNyaXIyaOMICRON
1D6D1 yaPIyaRHOyaFINAL SIGMAyfyaTAUyaUPSILONyaPHIycCybPSyaOMEGAsaPARTIAL DIFFERENTIAL
1D6DC sbEPSILON SYMBOshTHETAsiKAPPshPHIshRHOshPInaITALIC CAPITAL ALPHA+cbBET+cbGAMM+cbDELT
1D6E6 +caEPSILON+caZETA+cd+cdTH+ccIO+cbKAPP+cbLAMD+caMU+cbN+caXI+caOMICRON+caPI+caRHO
1D6F3 +caTHETA SYMBOL+caSIGMA+caTAU+caUPSILON+caPHI+ccC+cbPS+caOMEGAubNABLubSMALL ALPH+abBET
1D6FE +abGAMM+abDELT+aaEPSILON+aaZETA+ad+adTH+acIO+abKAPP+abLAMD+aaMU+abN+aaXI+aaOMICRON+aaPI
1D70C +aaRHO+aaFINAL SIGMA+af+aaTAU+aaUPSILON+aaPHI+acC+abPS+aaOMEGAuaPARTIAL DIFFERENTIAL
1D716 ubEPSILON SYMBOuhTHETAuiKAPPuhPHIuhRHOuhPInaBOLD ITALIC CAPITAL ALPHA+hbBET+hbGAMM+hbDELT
1D720 +haEPSILON+haZETA+hd+hdTH+hcIO+hbKAPP+hbLAMD+haMU+hbN+haXI+haOMICRON+haPI+haRHO
1D72D +haTHETA SYMBOL+haSIGMA+haTAU+haUPSILON+haPHI+hcC+hbPS+haOMEGAzbNABLzbSMALL ALPH+fbBET
1D738 +fbGAMM+fbDELT+faEPSILON+faZETA+fd+fdTH+fcIO+fbKAPP+fbLAMD+faMU+fbN+faXI+faOMICRON+faPI
1D746 +faRHO+faFINAL SIGMA+ff+faTAU+faUPSILON+faPHI+fcC+fbPS+faOMEGAzaPARTIAL DIFFERENTIAL
1D750 zbEPSILON SYMBOzhTHETAziKAPPzhPHIzhRHOzhPInaSANS-SERIF BOLD CAPITAL ALPHA+lbBET+lbGAMM
1D759 +lbDELT+laEPSILON+laZETA+ld+ldTH+lcIO+lbKAPP+lbLAMD+laMU+lbN+laXI+laOMICRON+laPI+laRHO
1D767 +laTHETA SYMBOL+laSIGMA+laTAU+laUPSILON+laPHI+lcC+lbPS+laOMEGA+dbNABL+dbSMALL ALPH+jbBET
1D772 +jbGAMM+jbDELT+jaEPSILON+jaZETA+jd+jdTH+jcIO+jbKAPP+jbLAMD+jaMU+jbN+jaXI+jaOMICRON+jaPI
1D780 +jaRHO+jaFINAL SIGMA+jf+jaTAU+jaUPSILON+jaPHI+jcC+jbPS+jaOMEGA+daPARTIAL DIFFERENTIAL
1D78A +dbEPSILON SYMBO+dhTHETA+diKAPP+dhPHI+dhRHO+dhPI+daITALIC CAPITAL ALPHA+sbBET+sbGAMM+sbDELT
1D794 +saEPSILON+saZETA+sd+sdTH+scIO+sbKAPP+sbLAMD+saMU+sbN+saXI+saOMICRON+saPI+saRHO
1D7A1 +saTHETA SYMBOL+saSIGMA+saTAU+saUPSILON+saPHI+scC+sbPS+saOMEGA+kbNABL+kbSMALL ALPH+qbBET
1D7AC +qbGAMM+qbDELT+qaEPSILON+qaZETA+qd+qdTH+qcIO+qbKAPP+qbLAMD+qaMU+qbN+qaXI+qaOMICRON+qaPI
1D7BA +qaRHO+qaFINAL SIGMA+qf+qaTAU+qaUPSILON+qaPHI+qcC+qbPS+qaOMEGA+kaPARTIAL DIFFERENTIAL
1D7C4 +kbEPSILON SYMBO+khTHETA+kiKAPP+khPHI+khRHO+khPInaBOLD CAPITAL DIGAMMAsjSMAL
1D7CE saDIGIT ZEROyaONEyaTWOzaHREEyaFOURzaIVEyaSIXzaEVENyaEIGHTyaNINEnaDOUBLE-STRUCK DIGIT ZERO
1D7D9 +haONE+haTWO+iaHREE+haFOUR+iaIVE+haSIX+iaEVEN+haEIGHT+haNINEnaSANS-SERIF DIGIT ZERO+eaONE
1D7E4 +eaTWO+faHREE+eaFOUR+faIVE+eaSIX+faEVEN+eaEIGHT+eaNINEyaBOLD DIGIT ZERO+jaONE+jaTWO+kaHREE
1D7F0 +jaFOUR+kaIVE+jaSIX+kaEVEN+jaEIGHT+jaNINEnaMONOSPACE DIGIT ZERO+daONE+daTWO+eaHREE+daFOUR
1D7FB +eaIVE+daSIX+eaEVEN+daEIGHT+daNINEaaSIGNWRITING HAND-FIST INDEXrgCIRCLEsgUPrgOVALrgHINGE
1D805 rhANGLraFIST INDEX BENTrlCIRCLErlFIST THUMB UNDERwaINDEX RAISED KNUCKLE+caCUPPED+ccHING
1D80C +ia LOWraCIRCLE INDEX HINGErbFIST INDEX MIDDLrnCIRCLEraFIST INDEX MIDDLE BENT
1D811 +jaRAISED KNUCKLES+jaHINGED+cnUP +caHINGED MIDDLE UP+caMIDDLE CONJOINED+sa INDEX BENT
1D817 +tfMIDDLE+taCUPPED+tcHING+kcROSSrvCIRCLEraFIST MIDDLE BENT OVER INDEX
1D81D waINDEX BENT OVER MIDDLE+caMIDDLE THUMBrtCIRCLEraFIST INDEX MIDDLE STRAIGHT THUMB BENT
1D821 +jbBENT THUMB STRAIGH+jbTHUMB BEN+jaHINGED SPREAD THUMB SIDE+cmUP MIDDLE HINGE+zaCONJOINED
1D826 +caHINGED MIDDLE UP THUMB SIDE+caMIDDLE UP SPREAD THUMB FORWARD+jbTHUMB CUPPE+qcIRCL+pcHOOK
1D82B +qcINGwaTHUMB BETWEEN INDEX MIDDLE STRAIGHTwaINDEX MIDDLE CONJOINED THUMB SIDE++da CONJOINED
1D82F ++eaBENTwaMIDDLE THUMB HOOKED INDEX UPwdINDEX THUMB HOOKED MIDDLE
1D832 +caMIDDLE CONJOINED HINGED THUMB SIDE+knROSS+kaONJOINED THUMB FORWARD+tnCUPPED 
1D836 waMIDDLE THUMB CUPPED INDEX UPwdINDEX THUMB CUPPED MIDDLEwdMIDDLE THUMB CIRCLED INDEX
1D839 +xaHINGEDwaINDEX THUMB ANGLED OUT MIDDLE UP+pkIN+ikCIRCLED+caMIDDLE THUMB CONJOINED HINGED
1D83E +paANGLED OUT+vawaMIDDLE THUMB ANGLED OUT INDEX UP++aaCROSSED+qaINDEX UP
1D843 waINDEX THUMB HOOKED MIDDLE HINGEDsaLAT FOUR FINGERS+ia BENT+jaHINGED+jcCONJOIN+sa SPLIT
1D849 raCLAW FOUR FINGERS CONJOINEDraFIST FOUR FINGERS CONJOINED BENT
1D84B raHINGE FOUR FINGERS CONJOINEDrbFLAT FIVE FINGERS SPREAwtHEEL 
1D84E waFIVE FINGERS SPREAD FOUR BENTw+dHEEL wfFIVE FINGERS SPREADwyHEEL 
1D852 waFIVE FINGERS SPREAD THUMB FORWARDrbCUP FIVE FINGERS SPREA+oa OPENrzHINGE
1D856 raOVAL FIVE FINGERS SPREADrbFLAT FIVE FINGERS SPREAD HINGE+wa THUMB SIDE+xaNO THUMBva
1D85B va BETWEEN PALM FACINGSwaHEELwaTHUMB SIDEwkHEEL waTHUMB BENT+caFORWARD
1D861 waSPLIT INDEX THUMB SIDE+cbCENTR+ia THUMB SIDE+ta BENT+caLITTLEraCLAWva THUMB SIDEwaNO THUMB
1D869 waTHUMB FORWARDraHOOK CURLICUEvaraCUP OPENuaua OPEN THUMB SIDEvkvaOPEN NO THUMBvi
1D872 vaOPEN THUMB FORWARDvntaRLICUE OPENzasbIRCLraOVALva THUMB SIDEwaNO THUMBwaTHUMB FORWARD
1D87B raHINGE OPEN+ba THUMB FORWARDwawa SMALLxaOPEN THUMB SIDExkxaOPEN NO THUMBxi
1D883 xaTHUMB SIDE TOUCHING INDEX+daBETWEEN MIDDLE RINGraANGLEraFIST INDEX MIDDLE RINGrsCIRCLE
1D888 rtHINGrtANGLraHINGE LITTLEraFIST INDEX MIDDLE RING BENT+oaCONJOINEDr+cHINGE
1D88E raFIST LITTLE DOWN+ha RIPPLE STRAIGHT+paCURVED+icOTHERS CIRCL+daUPwjTHUMB UNDER rkCIRCLE
1D895 rkOVALrkANGLEraFIST LITTLE RAISED KNUCKLE+daBENT+daTOUCHES THUMB+eernHINGE
1D89C rgFIST LITTLE INDEXrtHINGEraANGLE LITTLE INDEX THUMB INDEX THUMB OUT++baraFIST LITTLE INDEX
1D8A1 rnCIRCLEroHINGroANGLraFIST INDEX MIDDLE LITTLEruCIRCLErvHINGxaRING
1D8A8 raANGLE INDEX MIDDLE LITTLErhFIST INDEX MIDDLE CROSSr+aCIRCLEraFIST RING DOWN
1D8AC raHINGE RING DOWN INDEX THUMB HOOK MIDDLEraANGLE RING DOWN MIDDLE THUMB INDEX CROSS
1D8AE raFIST RING UP+baRAISED KNUCKLE+bcLITTrmCIRCLErmOVALrmANGLErcFIST RING MIDD+ha CONJOINED
1D8B6 +iaRAISED KNUCKLES+baINDEX+baTHUMBrlHOOKraFIST INDEX RING LITTLErsCIRCLE
1D8BC saURLICUE INDEX RING LITTLE ONraHOOK INDEX RING LITTLE OUT+oaIN+oaUNDER
1D8C0 raCUP INDEX RING LITTLErsHINGEraANGLE INDEX RING LITTLE OUT+oaraFIST MIDDLE DOWN
1D8C5 raHINGE MIDDLEraFIST MIDDLE UPrkCIRCLEraFIST MIDDLE RAISED KNUCKLE+dbUP THUMB SID
1D8CA raHOOK MIDDLE THUMBraFIST MIDDLE THUMB LITTLE+dg+dgRING rtCIRCLE
1D8CF saURLICUE MIDDLE RING LITTLE ONtaP MIDDLE RING LITTLErtHINGEraANGLE MIDDLE RING LITTLE OUT
1D8D3 +qaIN+paraCIRCLE MIDDLE RING LITTLE BENTsaLAW MIDDLE RING LITTLE CONJOINED+ya SIDE
1D8D8 raHOOK MIDDLE RING LITTLE CONJOINED OUT+zaIN+yascINGE INDEX HINGraFIST INDEX THUMB SIDE
1D8DD rrHINGEraFIST INDEX THUMB SIDE THUMB DIAGONAL+taCONJOINED+taBENT+nfINDEX+nfBOTH
1D8E3 +naINDEX HINGE+iaFORWARD INDEX STRAIGHT+wbBEN+iaHOOK+iaCURLICUE+lbVE THUMB INSIDr+fCLAW
1D8EA raFIST INDEX THUMB CURVE THUMB UNDER+jaIRCLEraCUP INDEX THUMB+ga OPENrrHINGE+jaLARGE+ia
1D8F1 +ia SMALLraANGLE INDEX THUMB OUT+jaIN+iargFIST+ba HEEL+cbSIDE DIAGONA+haCONJOINED+haBENT
1D8FA +caFORWARD+caBETWEEN INDEX MIDDLE+kaMIDDLE RING+kaRING LITTLE+caUNDER TWO FINGERS+coOV
1D900 +ciUNDER THREE+iiFOUR+cbOVER FOUR RAISED KNUCKLEvava HEELmaTOUCH SINGLEscMULTIPsaBETWEEN
1D908 maGRASP SINGLEscMULTIPsaBETWEENmaSTRIKE SINGLEtcMULTIPtaBETWEENmaBRUSH SINGLEscMULTIP
1D910 saBETWEENmaRUB SINGLEqcMULTIPqaBETWEENmaSURFACE SYMBOLSuaBETWEENnaQUEEZE LARGE SINGLEuhSMALL
1D918 ucLARGE MULTIPujSMALLvaEQUENTIALmaFLICK LARGE SINGLEshSMALLscLARGE MULTIPsjSMALLtaEQUENTIAL
1D920 maSQUEEZE FLICK ALTERNATINGmaMOVEMENT-HINGE UP DOWN LARGE+jaSMALL+ebSEQUENTIA+blDOWN
1D925 +baUP DOWN ALTERNATING LARGE+vaSMALL+baSIDE TO SIDE SCISSORSvaWALLPLANE FINGER CONTACT
1D929 vuFLOORvaWALLPLANE SINGLE STRAIGHT SMALL+vaMEDIUM+vaLARGE++aaST+maWRIST FLEX
1D92F +faDOUBLE STRAIGHT+maWRIST FLEX+maALTERNATING+xa WRIST FLEX+faCROSS
1D934 +faTRIPLE STRAIGHT MOVEMENT+maWRIST FLEX+maALTERNATING+xa WRIST FLEX+faBEND SMALL+kaMEDIUM
1D93A +kaLARGE+faCORNER SMALL+maMEDIUM+maLARGE+maROTATION+gaHECK SMALL+laMEDIUM+laLARGE
1D942 +faBOX SMALL+jaMEDIUM+jaLARGE+faZIGZAG SMALL+maMEDIUM+maLARGE+faPEAKS SMALL+laMEDIUM+laLARGE
1D94B mbTRAVEL-WALLPLANE ROTATION-WALLPLANE SINGL+wcDOUB+waALTERNATING+maFLOORPLANE SINGLE+xcDOUB
1D950 +xaALTERNATING+ddSHAK+daARM SPIRAL SINGLE+ocDOUB+ocTRIPmaMOVEMENT-DIAGONAL AWAY SMALL
1D956 +jaMEDIUM+jaLARGE+oaST+eaTOWARDS SMALL+maMEDIUM+maLARGE+raST+eaBETWEEN AWAY SMALL+raMEDIUM
1D95F +raLARGE+waST+maTOWARDS SMALL+uaMEDIUM+uaLARGE+zaSTvaFLOORPLANE SINGLE STRAIGHT SMALL
1D966 +waMEDIUM+waLARGE++baST+naWRIST FLEX+gaDOUBLE STRAIGHT+naWRIST FLEX+naALTERNATING
1D96D +ya WRIST FLEX+gaCROSS+gaTRIPLE STRAIGHT MOVEMENT+naWRIST FLEX+naALTERNATING MOVEMENT
1D972 +zaWRIST FLEX+gaBEND+gaCORNER SMALL+naMEDIUM+naLARGE+haHECK+gaBOX SMALL+kaMEDIUM+kaLARGE
1D97B +gaZIGZAG SMALL+naMEDIUM+naLARGE+gaPEAKS SMALL+maMEDIUM+maLARGE
1D981 mbTRAVEL-FLOORPLANE ROTATION-FLOORPLANE SINGL+ycDOUB+yaALTERNATING+naWALLPLANE SINGLE+xcDOUB
1D986 +xaALTERNATING+edSHAKmaMOVEMENT-WALLPLANE CURVE QUARTER SMALL+taMEDIUM+taLARGE+yaST
1D98C +laHALF-CIRCLE SMALL+xaMEDIUM+xaLARGE++caST+laTHREE-QUARTER CIRCLE SMALL++gaMEDIUM
1D992 +faHUMP SMALL+kaMEDIUM+kaLARGE+faLOOP SMALL+kaMEDIUM+kaLARGE+kbSMALL DOUBL
1D999 +faWAVE CURVE DOUBLE SMALL+xaMEDIUM+xaLARGE+qaTRIPLE SMALL+xaMEDIUM+xaLARGE
1D99F +faCURVE THEN STRAIGHT+kaD CROSS SMALL+saMEDIUMmaROTATION-WALLPLANE SINGLE+fcDOUB+fbALTERNAT
1D9A5 maMOVEMENT-WALLPLANE SHAKING+faCURVE HITTING FRONT WALL+ftHUMP+fuLOO+ftWAVE
1D9AA muROTATION-WALLPLANE SINGL+fvDOUB+ftALTERNATINGmaMOVEMENT-WALLPLANE CURVE HITTING CHEST
1D9AE +foHUMP+fpLOO+foWAVEmpROTATION-WALLPLANE SINGL+fqDOUB+foALTERNATING
1D9B4 maMOVEMENT-WALLPLANE WAVE DIAGONAL PATH SMALL+yaMEDIUM+yaLARGE
1D9B7 vaFLOORPLANE CURVE HITTING CEILING SMALL++caLARGE+gbHUMP HITTING CEILING SMALL DOUBL
1D9BA ++bhLARGE++bcSMALL TRIP++bhLARGE+gcLOOP HITTING CEILING SMALL SING++bhLARGE++bcSMALL DOUB
1D9C0 ++bhLARGE+gaWAVE HITTING CEILING SMALL++baLARGEmaROTATION-FLOORPLANE SINGLE HITTING CEILING
1D9C4 +gsDOUB+gqALTERNATINGmaMOVEMENT-FLOORPLANE CURVE HITTING FLOOR SMALL++aaLARGE
1D9C8 +gbHUMP HITTING FLOOR SMALL DOUBL+zhLARGE+zcTRIPLE SMALL TRIP++ghLARGE
1D9CC +gcLOOP HITTING FLOOR SMALL SING+zhLARGE+zcSMALL DOUB+zhLARGE+gaWAVE HITTING FLOOR SMALL
1D9D1 +zaLARGEmaROTATION-FLOORPLANE SINGLE HITTING FLOOR+gqDOUB+goALTERNATING
1D9D5 maMOVEMENT-FLOORPLANE CURVE SMALL+maMEDIUM+maLARGE+raST+maCOMBINED+gaHUMP SMALL+ghLOO
1D9DC +gaWAVE SNAKE+maMALL+laLARGEmbROTATION-FLOORPLANE SINGL+gcDOUB+gaALTERNATING
1D9E2 maMOVEMENT-FLOORPLANE SHAKING PARALLELvaWALLPLANE ARM CIRCLE SMALL SINGLE+qhMEDIUM
1D9E5 +qcSMALL DOUB+qhMEDIUMvcFLOORPLANE ARM CIRCLE HITTING WALL SMALL SING++ehMEDIUM++ehLARGE
1D9EA ++ecSMALL DOUB++ehMEDIUM++ehLARGEvcWALLPLANE WRIST CIRCLE FRONT SING+ycDOUB
1D9EF vcFLOORPLANE WRIST CIRCLE HITTING WALL SING++gcDOUBvcWALLPLANE FINGER CIRCLES SING+ucDOUB
1D9F3 vcFLOORPLANE FINGER CIRCLES HITTING WALL SING++icDOUBmaDYNAMIC ARROWHEAD SMALL+eaLARGEuaFAST
1D9F8 uaSLOWuaTENSEuaRELAXEDuaSIMULTANEOUS+ga ALTERNATINGuaEVERY OTHER TIMEuaGRADUALmaHEADqa RIM
1DA01 raMOVEMENT-WALLPLANE STRAIGHT+kbTIL+abFLOORPLANE STRAIGH+aaWALLPLANE CURVE+alFLOORzb CIRCL
1DA07 maFACE DIRECTION POSITION NOSE FORWARD TILTING+paUP OR DOWN+za TILTINGmaEYEBROWS STRAIGHT UP
1DA0B +eaNEUTRAL+eaDOWNmfDREAMY EYEBROWS NEUTRAL+caDOWN NEUTRAL+ciUP+caNEUTRAL UP
1DA11 maFOREHEAD NEUTRALvaCONTACTvaWRINKLEDmaEYES OPENraSQUEEZEDrcCLOSpa BLINK SINGLEwcMULTIP
1DA19 paS HALF OPENrfWIDEraHALF CLOSEDraWIDENING MOVEMENTpa WINKpaLASHES UPwaDOWNwaFLUTTERING
1DA21 paGAZE-WALLPLANE STRAIGHT+ma DOUBLE+naALTERNATINGuaFLOORPLANE STRAIGHT+na DOUBLE
1DA26 +oaALTERNATINGuaWALLPLANE CURVEDumFLOORuaWALLPLANE CIRCLINGmaCHEEKS PUFFEDtaNEUTRALtaSUCKED
1DA2D maTENSE CHEEKS HIGHzaMIDDLEzaLOWmaEARSmaNOSE NEUTRALraCONTACTraWRINKLESsdIGG
1DA35 maAIR BLOWING OUTqaSUCKING INqaBLOW SMALL ROTATIONSqqSUCKmaBREATH INHALEteEX
1DA3B maMOUTH CLOSED NEUTRALzaFORWARDzaCONTACTsaSMILExa WRINKLEDyaOPENsbFROWxa WRINKLEDyaOPEN
1DA44 saOPEN CIRCLExaFORWARDxbWRINKLExaOVAL+ba WRINKLED+caYAWNxaRECTANGLE+ga WRINKLED+haYAWNsaKISS
1DA4E wa FORWARDxbWRINKLEsaTENSExa FORWARDybSUCKEmaLIPS PRESSED TOGETHERpc LOWER OVER UPP
1DA55 qcUPPER OVER LOWmaMOUTH CORNERSsaWRINKLES SINGLE+bcDOUBmaTONGUE STICKING OUT FAR
1DA5A taLICKING LIPStfTIP BETWEENxaTOUCHING INSIDE MOUTHtaINSIDE MOUTH RELAXED
1DA5E taMOVES AGAINST CHEEKtaCENTRE STICKING OUT+aaINSIDE MOUTHncEEra MOVEMENTsaON TONGUE
1DA64 +ba MOVEMENTvaLIPSza MOVEMENTsaBITE LIPSmaMOVEMENT-WALLPLANE JAWvjFLOORmaNECKmaHAIR
1DA6C maEXCITEMENTmaSHOULDER HIP SPINEzaPOSITIONSmaWALLPLANE SHOULDER HIP MOVEmxFLOOR
1DA71 maSHOULDER TILTING FROM WAISTmaTORSO-WALLPLANE STRAIGHT STRETCH+caCURVED BEND
1DA74 saFLOORPLANE TWISTINGmaUPPER BODY TILTING FROM HIP JOINTSmaLIMB COMBINATIONraLENGTH-1ya2ya3
1DA7A ya4ya5ya6ya7maFINGERmaLOCATION-WALLPLANE SPACEvlFLOORua HEIGHTvaWIDTHvcDEPvaHEAD NECKvaTORSO
1DA86 vaLIMBS DIGITSmaCOMMAmaFULL STOPmaSEMICOLONmfmaPARENTHESIS
1DA9B maFILL MODIFIER-2+aa3+aa4+aa5+aa6
1DAA1 maROTATION MODIFIER-2+ea3+ea4+ea5+ea6+ea7+ea8+ea9+ea10+fa1+fa2+fa3+fa4+fa5+fa6
1DF00 aaLATIN SMALL LETTER FENG DIGRAPH WITH TRILLtaREVERSED SCRIPT GgcLETTER SMALL CAPITAL TURNED
1DF03 gaSMALL LETTER REVERSED KgaLETTER SMALL CAPITAL L WITH BELT
1DF05 gaSMALL LETTER LEZH WITH RETROFLEX HOOKtaTURNED Y WITH BELTtaREVERSED ENG
1DF08 taTURNED R WITH LONG LEG AND RETROFLEX HOOKut WITH HOOKgpLETTER RETROFLEX CLICK WITH
1DF0B gaSMALL LETTER ESH WITH DOUBLE BAR+ma AND CURLtfTURNED T WITHgkLETTER INVERTED GLOTTAL STOP
1DF0F nkSTRETCHED CoaMALL CAPITAL TURNED KgbSMALL LETTER L WITH FISHHOO
1DF12 teDEZH DIGRAPH WITH PALATAL tnL WITH BELT ANDtnENG WITHtsTURNED RtnR WITH FISHHOOK AND
1DF17 tnTESH DIGRAPH WITHttEZtfDEZH DIGRAPH WITH RETROFLEXtpI WITH STROKE ANDtpO WITH
1DF1C tuTESH DIGRAPHtuCtaS WITH CURL
1E000 aaCOMBINING GLAGOLITIC LETTER AZU+caBUKY+caVEDE+caGLAGOLI+caDOBRO+caYESTU+caZHIVETE
1E008 +daEMLJA+caIZHE+ddNITIAL I+da+cbDJERV+caKAKO+caLJUDIJE+cbMYSLIT+caNASHI+caONU+caPOKOJI
1E013 +cbRITS+caSLOVO+cbTVRID+caUKU+cbFRIT+cbHER
1E01B +caSHTA+caTSI+cbCHRIV+caSHA+caYERU+faI+dbAT
1E023 +daU+caSMALL YUS
1E026 +caYO+caIOTATED SMALL YUS+ceBIG+chIOTATED +caFITA
1E100 abNYIAKENG PUACHUE HMONG LETTER M+ebTS+ebNT+ec+ebH+ebN+ebX+ebNK+ebC+ebL+ebS+ebZ+ebNC+fbTS
1E10E +ebK+ebD+ebNY+fbR+ebV+ebNTX+ed+ebF+ebR+ebQ+ebY+ebNQ+ebP+ebXY+ebNP+ebDL+ecNP+eaHAH+eaMLA+ecP
1E122 +ebG+ebRR+eb+faA+eaI+eaU+eaO+faO+eaE+faE+eaW
1E130 xaTONE-B+caM+caJ+caV+caS+caG+caDxaSIGN FOR PERSON+gaTHING+gaLOCATION+gaANIMAL+gaINVERTEBRATE
1E13C +caXW XWyaYLLABLE LENGTHENER
1E140 xaDIGIT ZERO+daONE+daTWO+eaHREE+daFOUR+eaIVE+daSIX+eaEVEN+daEIGHT+daNINE
1E14E xaLOGOGRAM NYAJxaCIRCLED CA
1E290 abTOTO LETTER PmbBmbTmbDmbKmbGmbMmbNnbGmbSmbCHmbYmbWmbJmbHmbRmbLmaImbBREATHY maIUmcBREATHY 
1E2A5 mbmaEmbBREATHY maEOmcBREATHY mbmaAEmcBREATHY maAfaSIGN RISING TONE
1E2C0 aaWANCHO LETTER AApaobBobCobDobGobYobPHobLobNobPobTpbHobFobSpbHobJobZobWobVobKoaOoaAUoaRAobM
1E2D9 obKHocoaEoaIoaNGAoaUoaLLHAobTSpbRoaONGocAApcocIoaONobEobAAoaNYAoaUENoaYIHhaTONE TUPpaNImbKO
1E2EF paNIhaDIGIT ZEROnaONEnaTWOoaHREEnaFOURoaIVEnaSIXoaEVENnaEIGHTnaNINE
1E2FF haNGUN SIGN
1E7E0 aaETHIOPIC SYLLABLE HHYAvaUvaIvaAAvaEEwavaO
1E7E8 saGURAGE HHWAsaHHWIvaEEwa
1E7ED saGURAGE MWI+baEE
1E7F0 zaQWI+baEE+cazaBWI+baEEzaKWI+baEE+cazaGWI+baEE+cazaFWI+baEEzaPWI+baEE
1E800 aaMENDE KIKAKUI SYLLABLE M001 KI+aa2 KA+aa3 KUza65 KEEzb95 Kza76 KOOzb48 Kya179 KUAya004 WI
1E809 +aa5 WA+aa6 WUya126 WEEzb18 W+aa4 WOOyb045 Wya194 WUIzb43 WEyb061 WVza49 WVAya139 WVE
1E814 ya007 MIN+ab8 MA+ab9 MUzb59 MEzb94 MOyb154 MUAzb89 MUEya010 BI+aa1 BA+aa2 BUya150 BEEyb097 B
1E820 ya103 BOOzb38 Bya013 I+aa4 A+aa5 Uya163 EEzb00 za65 OOzb47 za37 EI+aa1 IN+ad5zb95 Azb78 E
1E82E ya019 SIza20 SA+aa1 SUya162 SEEzb16 Sza36 SOOyb079 Sya196 SIAya025 LI+aa6 LA+aa7 LUza84 LEE
1E83A zb73 Lza54 LOOyb153 Lza10 LONG LEya016 DI+aa7 DA+aa8 DUza89 DEEya180 DOO+ab1 Dya022 TI
1E845 +aa3 TA+aa4 TUza91 TEEzb55 Tya104 TOOyb069 Tza28 JI+aa9 JAza30 JUya157 JEEzb13 Jza60 JOO
1E851 yb063 Jyd175 LONGya031 YI+aa2 YA+aa3 YUya109 YEEyb080 Yya141 YOOzb21 Yya034 FI+aa5 FA+aa6 FU
1E85D za78 FEE+ab5 Fya133 FOOyb088 Fya197 FUAza01 FANyb037 NI+ab8 NA+ab9 NUyb117 NEzb69 NOza76 HI
1E869 ya041 HAya186 HUya040 HEEzb96 Hza42 HOOyb140 Hya083 HEEIya128 HOOUya053 HINyb130 HAyb087 HU
1E874 zb52 HEyb193 HOyb046 HUAza90 NGGIza43 NGGAza82 NGGUya115 NGGEEzb46 NGGza56 NGGOOzb20 NGG
1E87E za59 NGGAAzb27 NGGUya086 LONG NGGEya106 LONG NGGOOzb83 LONG NGGza55 GIza11 GAza68 GUza90 GEE
1E887 za66 GUEI+aa7 GUANzb84 NGEyb057 NGOyb177 NGUAya068 PIza99 PAza50 PUza81 PEEzb51 Pya102 POO
1E892 yb066 Pya145 MBIya062 MBAya122 MBUya047 MBEEyf188yb072 MBya172 MBOO+ab4 MBza87 MBUU
1E89C za61 LONG MBEza05 LONG MBOOzb42 LONG MBza32 KPIya092 KPAza74 KPUza44 KPEEyb108 KPza12 KPOO
1E8A5 zb58 KPza24 GBIya056 GBAya148 GBUya093 GBEEyb107 GBya071 GBOO+ab0 GBya171 RAza23 NDI+aa9 NDA
1E8B0 +aa5 NDUza91 NDEEzb19 NDya067 NDOO+ab4 NDya152 NJAza92 NJUza49 NJEEza34 NJOOza82 VI+aa5 VA
1E8BB za51 VUza73 VEEyb085 Vya144 VOOyb077 Vya164 NYINyb058 NYAyb170 NYUyb098 NYEzb60 NYO
1E8C7 oaDIGIT ONEuaTWOvaHREEuaFOURvaIVEuaSIXvaEVENuaEIGHTuaNINEoaCOMBINING NUMBER TEENS+hc
1E8D2 +fbHUNDRED+fcTHOUSAN+giEN T+fkHUNDRED+fbMILLION
1E900 aaADLAM CAPITAL LETTER ALIFvaDAALIvaLAAMvbMIIvaBAvaSINNYIIYHEvbPvbBHvaRAvaEvaFAvaIvaOvaDHA
1E90E vaYHEvaWAWvaNUNvaKAFvaYAvaUvaJIIMvaCHIvaHAvaQAAFvaGAvbNYvaTUvaNHAvbVvbKHvaGBEvaZALvaKPOvaSHA
1E922 gaSMALL LETTER ALIFtaDAALItaLAAMtbMIItaBAtaSINNYIIYHEtbPtbBHtaRAtaEtaFAtaItaOtaDHAtaYHEtaWAW
1E932 taNUNtaKAFtaYAtaUtaJIIMtaCHItaHAtaQAAFtaGAtbNYtaTUtaNHAtbVtbKHtaGBEtaZALtaKPOtaSHA
1E944 gaALIF LENGTHENERglVOWELgaGEMINATION MARKgaHAMZAgaCONSONANT MODIFIERgsGEMINATE gaNUKTA
1E94B haASALIZATION MARK
1E950 gaDIGIT ZEROmaONEmaTWOnaHREEmaFOURnaIVEmaSIXnaEVENmaEIGHTmaNINE
1E95E gaINITIAL EXCLAMATION MARKojQUES
1EC71 aaINDIC SIYAQ NUMBER ONEtaTWOuaHREEtaFOURuaIVEtaSIXuaEVENtaEIGHTtaNINEtaTENuaWENTYucHIRtdFO
1EC7E ucIFtcSIXucEVENtcEIGHtcNINEtaONE HUNDREDtiTWOuiHREEtiFOURuiIVEtiSIXuiEVENtiEIGHTtiNINE
1EC8C tbONE THOUSANtjTWOujHREEtjFOURujIVEtjSIXujEVENtjEIGHTtjNINEtjTENujWENTYulHIRtmFOulIFtlSIX
1EC9B ulEVENtlEIGHtlNINEtaLAKHxaANmaLAKH MARKmaNUMBER KARORyaANtaPREFIXED ONE+caTWO+daHREE+caFOUR
1ECA7 +daIVE+caSIX+daEVEN+caEIGHT+caNINEmaPLACEHOLDERmcFRACTION ONE QUARTzaHALFvaTHREE QUARTERS
1ECB0 maRUPEE MARKmaNUMBER ALTERNATE ONE+daTWO+eaEN THOUSANDmaALTERNATE LAKH MARK
1ED01 aaOTTOMAN SIYAQ NUMBER ONEvaTWOwaHREEvaFOURwaIVEvaSIXwaEVENvaEIGHTvaNINEvaTENwaWENTYwcHIR
1ED0D vdFOwcIFvcSIXwcEVENvcEIGHvcNINEvaONE HUNDREDviTWOwiHREEviFOURwiIVEviSIXwiEVENviEIGHTviNINE
1ED1C vbONE THOUSANvjTWOwjHREEvjFOURwjIVEvjSIXwjEVENvjEIGHTvjNINEvjTENwjWENTYwlHIRvmFOwlIFvlSIX
1ED2B wlEVENvlEIGHvlNINEoaMARRATANoaALTERNATE NUMBER TWO+gaHREE+faFOUR+gaIVE+faSIX+gaEVEN+faEIGHT
1ED36 +faNINE+faTEN+faFOUR HUNDRED+fiSIX+fbTWO THOUSAN+gjENoaFRACTION ONE HALF+baSIXTH
1EE00 aaARABIC MATHEMATICAL ALEFuaBEHuaJEEMuaDAL
1EE05 uaWAWuaZAINuaHAHucTubYEuaKAFuaLAMubMEEuaNOONubSEEubAIuaFEHuaSADuaQAFuaREHuaSHEENuaTEHvcH
1EE17 ubKHAuaTHALuaDADuaZAHuaGHAINuaDOTLESS BEH+caNOON+caFEH+caQAF
1EE21 uaINITIAL BEH+caJEEM
1EE24 +caHEH
1EE27 +dbA
1EE29 +cbYE+caKAF+caLAM+cbMEE+caNOON+cbSEE+cbAI+caFEH+caSAD+caQAF
1EE34 +caSHEEN+caTEH+dcH+cbKHA
1EE39 +caDAD
1EE3B +caGHAIN
1EE42 uaTAILED JEEM
1EE47 +baHAH
1EE49 +bbYE
1EE4B +baLAM
1EE4D +baNOON+bbSEE+bbAI
1EE51 +baSAD+baQAF
1EE54 +baSHEEN
1EE57 +baKHAH
1EE59 +baDAD
1EE5B +baGHAIN
1EE5D +bbDOTLESS NOO
1EE5F +jaQAF
1EE61 uaSTRETCHED BEH+eaJEEM
1EE64 +eaHEH
1EE67 +fbA+ecT+ebYE+eaKAF
1EE6C +eaMEEM+eaNOON+ebSEE+ebAI+eaFEH+eaSAD+eaQAF
1EE74 +eaSHEEN+eaTEH+fcH+ebKHA
1EE79 +eaDAD+eaZAH+eaGHAIN+eaDOTLESS BEH
1EE7E +mcF
1EE80 uaLOOPED ALEF+baBEH+baJEEM+baDAL+baHEH+baWAW+baZAIN+baHAH+bcT+bbYE
1EE8B +baLAM+bbMEE+baNOON+bbSEE+bbAI+baFEH+baSAD+baQAF+baREH+baSHEEN+baTEH+ccH+bbKHA+baTHAL+baDAD
1EE9A +baZAH+baGHAIN
1EEA1 uaDOUBLE-STRUCK BEH+iaJEEM+iaDAL
1EEA5 +iaWAW+iaZAIN+iaHAH+icT+ibYE
1EEAB +iaLAM+ibMEE+iaNOON+ibSEE+ibAI+iaFEH+iaSAD+iaQAF+iaREH+iaSHEEN+iaTEH+jcH+ibKHA+iaTHAL+iaDAD
1EEBA +iaZAH+iaGHAIN
1EEF0 uaOPERATOR MEEM WITH HAH WITH TATWEEL+dbHAH WITH DA
1F000 aaMAHJONG TILE EAST WINDnfSOUTHnfWESTnfNORTHnaRED DRAGONnhGREENnhWHITEnaONE OF CHARACTERS
1F008 noTWOooHREEnoFOURooIVEnoSIXooEVENnoEIGHTnoNINEnbONE OF BAMBOOnlTWOolHREEnlFOURolIVEnlSIX
1F016 olEVENnlEIGHTnlNINEnbONE OF CIRCLEnlTWOolHREEnlFOURolIVEnlSIXolEVENnlEIGHTnlNINEnaPLUM
1F023 naORCHIDnaBAMBOOnaCHRYSANTHEMUMnaSPRINGoaUMMERnaAUTUMNnaWINTERncJOKnaBACK
1F030 afDOMINO TILE HORIZONTALwa-00-00+ba1+ba2+ba3+ba4+ba5+ba6ya1-00+ba1+ba2+ba3+ba4+ba5+ba6ya2-00
1F040 +ba1+ba2+ba3+ba4+ba5+ba6ya3-00+ba1+ba2+ba3+ba4+ba5+ba6ya4-00+ba1+ba2+ba3+ba4+ba5+ba6ya5-00
1F055 +ba1+ba2+ba3+ba4+ba5+ba6ya6-00+ba1+ba2+ba3+ba4+ba5+ba6maVERTICAL BACKua-00-00za1za2za3za4za5
1F069 za6wa1-00za1za2za3za4za5za6wa2-00za1za2za3za4za5za6wa3-00za1za2za3za4za5za6wa4-00za1za2za3
1F083 za4za5za6wa5-00za1za2za3za4za5za6wa6-00za1za2za3za4za5za6
1F0A0 aaPLAYING CARD BACKnaACE OF SPADESnkTWOokHREEnkFOURokIVEnkSIXokEVENnkEIGHTnkNINEnkTENnkJACK
1F0AC nkKNIGHTnkQUEENnkKING
1F0B1 nbACE OF HEARTnkTWOokHREEnkFOURokIVEnkSIXokEVENnkEIGHTnkNINEnkTENnkJACKnkKNIGHTnkQUEENnkKING
1F0BF naRED JOKER
1F0C1 naACE OF DIAMONDSnmTWOomHREEnmFOURomIVEnmSIXomEVENnmEIGHTnmNINEnmTENnmJACKnmKNIGHTnmQUEEN
1F0CE nmKINGnaBLACK JOKER
1F0D1 naACE OF CLUBSnjTWOojHREEnjFOURojIVEnjSIXojEVENnjEIGHTnjNINEnjTENnjJACKnjKNIGHTnjQUEENnjKING
1F0DF naWHITE JOKERnaFOOLnaTRUMP-1ta2ta3ta4ta5ta6ta7ta8ta9ta10ua1ua2ua3ua4ua5ua6ua7ua8ua9ta20ua1
1F100 aaDIGIT ZERO FULL STOPlaCOMMAggONEggTWOhgHREEggFOURhgIVEggSIXhgEVENggEIGHTggNINE
1F10B caNGBAT CIRCLED SANS-SERIF DIGIT ZEROi+dNEGATIVE aaCIRCLED ZERO WITH SLASH
1F10E iaANTICLOCKWISE ARROWiaDOLLAR SIGN WITH OVERLAID BACKSLASH
1F110 aaPARENTHESIZED LATIN CAPITAL LETTER A+jaB+jaC+jaD+jaE+jaF+jaG+jaH+jaI+jaJ+jaK+jaL+jaM+jaN
1F11E +jaO+jaP+jaQ+jaR+jaS+jaT+jaU+jaV+jaW+jaX+jaY+jaZ
1F12A aaTORTOISE SHELL BRACKETED LATIN CAPITAL LETTER SaaCIRCLED ITALIC LATIN CAPITAL LETTER C+kaR
1F12D iaCDiaWZbaOPYLEFT SYMBOLaaSQUARED LATIN CAPITAL LETTER A+daB+daC+daD+daE+daF+daG+daH+daI+daJ
1F13A +daK+daL+daM+daN+daO+daP+daQ+daR+daS+daT+daU+daV+daW+daX+daY+daZiaHVibMiaSDjaSiaPPViaWC
1F150 aaNEGATIVE CIRCLED LATIN CAPITAL LETTER A+maB+maC+maD+maE+maF+maG+maH+maI+maJ+maK+maL+maM
1F15D +maN+maO+maP+maQ+maR+maS+maT+maU+maV+maW+maX+maY+maZaaRAISED MC SIGNifDifRaaCIRCLED CC
1F16E ja WITH OVERLAID BACKSLASHiaHUMAN FIGUREaaNEGATIVE SQUARED LATIN CAPITAL LETTER A+maB+maC
1F173 +maD+maE+maF+maG+maH+maI+maJ+maK+maL+maM+maN+maO+maP+maQ+maR+maS+maT+maU+maV+maW+maX+maY+maZ
1F18A aaCROSSED NEGATIVE SQUARED LATIN CAPITAL LETTER PaaNEGATIVE SQUARED ICraPArbSraABraWC
1F190 aaSQUARE DJgaD CLjbOOiaFREEiaIDiaNEWjaGiaOKiaSOSiaUP WITH EXCLAMATION MARKiaVSiaTHREE D
1F19C iaSECOND SCREENiaTWO KicFOURicEIGHTiaFIVE POINT ONEikSEVENiaTWENTY-TWO POINT TWOiaSIXTY P
1F1A4 ieONE HUNDRED TWENiaLATIN SMALL LETTER DiaHCjaDRjaI-RESibLOSSLESiaSHViaUHDibVO
1F1AD aaMASK WORK SYMBOL
1F1E6 aaREGIONAL INDICATOR SYMBOL LETTER A+haB+haC+haD+haE+haF+haG+haH+haI+haJ+haK+haL+haM+haN+haO
1F1F5 +haP+haQ+haR+haS+haT+haU+haV+haW+haX+haY+haZaaSQUARE HIRAGANA HOKAgaD KATAKANA KOKOraSA
1F210 iaCJK UNIFIED IDEOGRAPH-624B+ea5B57+fa3CCiaKATAKANA DEiaCJK UNIFIED IDEOGRAPH-4E8C+ea591A
1F216 +ea89E3+ea5929+ea4EA4+ea6620+ea7121+ea6599+ea524D+faF8C+fa18D+ea65B0+ea521D+ea7D42+fa51F
1F223 +ea8CA9+ea58F0+fa439+ea6F14+fa295+fb35+ea4E00+ha9+ea904A+ea5DE6+ea4E2D+ea53F3+ea6307+ea8D70
1F231 +ea6253+ea7981+faA7A+ea5408+ea6E80+fa709+ha8+ea7533+ea5272+fa5B6+ea914D
1F240 aaTORTOISE SHELL BRACKETED CJK UNIFIED IDEOGRAPH-672C+va4E09+xa8C+va5B89+vb70B+va6253+va76D7
1F247 +va52DD+va6557
1F250 aaCIRCLED IDEOGRAPH ADVANTAGEtaCCEPT
1F260 aaROUNDED SYMBOL FOR FUtbLtbSHOtaXItcSHUANGtbCA
1F300 aaCYCLONEaaFOGGYaaCLOSED UMBRELLAaaNIGHT WITH STARSabSUNRISE OVER MOUNTAINha
1F306 aaCITYSCAPE AT DUSKaaSUNSET OVER BUILDINGSaaRAINBOWaaBRIDGE AT NIGHTaaWATER WAVEaaVOLCANO
1F30C aaMILKY WAYaaEARTH GLOBE EUROPE-AFRICAmaAMERICASnaSIA-AUSTRALIAaaGLOBE WITH MERIDIANS
1F311 aaNEW MOON SYMBOLamWAXING CRESCENTamFIRST QUARTERamWAXING GIBBOUSamFULLamWANING GIBBOUS
1F317 amLAST QUARTERamWANING CRESCENTaaCRESCENT MOONaaNEW MOON WITH FACEapFIRST QUARTERazLAapFULL
1F31E alSUaaGLOWING STARaiSHOOTabTHERMOMETEaaBLACK DROPLETaaWHITE SUNja WITH SMALL CLOUDkgBEHIND
1F326 wa WITH RAINaplaSNOWlaLIGHTNINGlaTORNADOaaFOGaaWIND BLOWING FACEaaHOT DOGaaTACOabBURRIT
1F330 aaCHESTNUTaaSEEDLINGaaEVERGREEN TREEafDECIDUOUSafPALMaaCACTUSaaHOT PEPPERaaTULIP
1F338 aaCHERRY BLOSSOMaaROSEaaHIBISCUSaaSUNFLOWERaaBLOSSOMaaEAR OF MAIZEhbRICaaHERB
1F340 aaFOUR LEAF CLOVERaaMAPLE LEAFafFALLENaaLEAF FLUTTERING IN WINDaaMUSHROOMaaTOMATOaaAUBERGINE
1F347 aaGRAPESaaMELONafWATERaaTANGERINEaaLEMONaaBANANAaaPINEAPPLEafRED agGREENaaPEARdaCHaaCHERRIES
1F353 aaSTRAWBERRYaaHAMBURGERaaSLICE OF PIZZAaaMEAT ON BONEaaPOULTRY LEGaaRICE CRACKERfaBALL
1F35A aaCOOKED RICEbgURRY ANaaSTEAMING BOWLbaPAGHETTIaaBREADaaFRENCH FRIESaaROASTED SWEET POTATO
1F361 abDANGaaODENaaSUSHIaaFRIED SHRIMPbaISH CAKE WITH SWIRL DESIGNaaSOFT ICE CREAMbaHAVED ICE
1F368 aaICE CREAMaaDOUGHNUTaaCOOKIEbaHOCOLATE BARbaANDYaaLOLLIPOPaaCUSTARDaaHONEY POTaaSHORTCAKE
1F371 aaBENTO BOXaaPOT OF FOODaaCOOKINGaaFORK AND KNIFEabTEACUP WITHOUT HANDLaaSAKE BOTTLE AND CUP
1F377 aaWINE GLASSagCOCKTAILaaTROPICAL DRINKaaBEER MUGaaCLINKING BEER MUGSaaBABY BOTTLE
1F37D abFORK AND KNIFE WITH PLATaaBOTTLE WITH POPPING CORKaaPOPCORNabRIBBOaaWRAPPED PRESENT
1F382 aaBIRTHDAY CAKEaaJACK-O-LANTERNaaCHRISTMAS TREEaaFATHER CHRISTMASbbIREWORKia SPARKLER
1F388 aaBALLOONaaPARTY POPPERaaCONFETTI BALLaaTANABATA TREEaaCROSSED FLAGSaaPINE DECORATION
1F38E aaJAPANESE DOLLSaaCARP STREAMERaaWIND CHIMEaaMOON VIEWING CEREMONYaaSCHOOL SATCHEL
1F393 aaGRADUATION CAPaaHEART WITH TIP ON THE LEFTaaBOUQUET OF FLOWERSaaMILITARY MEDAL
1F397 aaREMINDER RIBBONaaMUSICAL KEYBOARD WITH JACKSaaSTUDIO MICROPHONEaaLEVEL SLIDER
1F39B aaCONTROL KNOBSabBEAMED ASCENDING MUSICAL NOTEhwDEacFILM FRAMabADMISSION TICKET
1F3A0 aaCAROUSEL HORSEaaFERRIS WHEELaaROLLER COASTERaaFISHING POLE AND FISHaaMICROPHONE
1F3A5 baOVIE CAMERAabCINEMaaHEADPHONEabARTIST PALETTaaTOP HATabCIRCUS TENabTICKEaaCLAPPER BOARD
1F3AD aaPERFORMING ARTSaaVIDEO GAMEaaDIRECT HITaaSLOT MACHINEaaBILLIARDSaaGAME DIEaaBOWLING
1F3B4 aaFLOWER PLAYING CARDSaaMUSICAL NOTEcaLTIPLE MUSICAL NOTESaaSAXOPHONEaaGUITAR
1F3B9 aaMUSICAL KEYBOARDaaTRUMPETaaVIOLINaaMUSICAL SCOREaaRUNNING SHIRT WITH SASH
1F3BE aaTENNIS RACQUET AND BALLaaSKI AND SKI BOOTaaBASKETBALL AND HOOPaaCHEQUERED FLAG
1F3C2 aaSNOWBOARDERacRUNNacSURFbaPORTS MEDALaaTROPHYaaHORSE RACINGaaAMERICAN FOOTBALLajRUGBY
1F3CA aaSWIMMERacWEIGHT LIFTacGOLFaaRACING MOTORCYCLEhaCARaaCRICKET BAT AND BALLaeVOLLEY
1F3D1 aeFIELD HOCKEY STICK AND aaICE HOCKEY STICK AND PUCKaaTABLE TENNIS PADDLE AND BALL
1F3D4 aaSNOW CAPPED MOUNTAINaaCAMPINGaaBEACH WITH UMBRELLAbaUILDING CONSTRUCTIONaaHOUSE BUILDINGS
1F3D9 aaCITYSCAPEaaDERELICT HOUSE BUILDINGajCLASSICALaaDESERTga ISLANDaaNATIONAL PARKaaSTADIUM
1F3E0 aaHOUSE BUILDINGgaWITH GARDENaaOFFICE BUILDINGaaJAPANESE POST OFFICEamEUROPEANaaHOSPITAL
1F3E6 aaBANKaaAUTOMATED TELLER MACHINEaaHOTELafLOVE aaCONVENIENCE STOREaaSCHOOLaaDEPARTMENT STORE
1F3ED aaFACTORYaaIZAKAYA LANTERNaaJAPANESE CASTLEahEUROPEANaaWHITE PENNANTaiBLACK
1F3F3 aaWAVING WHITE FLAGhfBLACKaaROSETTEahBLACK aaLABELaaBADMINTON RACQUET AND SHUTTLECOCK
1F3F9 baOW AND ARROWaaAMPHORAaaEMOJI MODIFIER FITZPATRICK TYPE-1-2+ga3+ga4+ga5+ga6aaRATaaMOUSEaaOX
1F403 aaWATER BUFFALOaaCOWaaTIGERaaLEOPARDaaRABBITabCAaaDRAGONaaCROCODILEacWHAaaSNAILdaKEabHORS
1F40F aaRAMaaGOATaaSHEEPaaMONKEYaaROOSTERaaCHICKENaaDOGabPIaaBOARaaELEPHANTaaOCTOPUSaaSPIRAL SHELL
1F41B aaBUGaaANTaaHONEYBEEabLADY BEETLaaFISHaeTROPICAL aeBLOWaaTURTLEaaHATCHING CHICKagBABY
1F425 akFRONT-FACING aaBIRDaaPENGUINaaKOALAaaPOODLEaaDROMEDARY CAMELagBACTRIANaaDOLPHIN
1F42D aaMOUSE FACEafCOWafTIGERafRABBITagCAafDRAGONabSPOUTING WHALabHORSE FACafMONKEYafDOGagPIagFRO
1F439 afHAMSTERafWOLFafBEARafPANDAbbIG NOSbaAW PRINTSaaCHIPMUNKaaEYESdabaARaaNOSEaaMOUTHaaTONGUE
1F446 aaWHITE UP POINTING BACKHAND INDEXgyDOWNgyLEFTgzRIGHaaFISTED HAND SIGNakWAVINGakOK
1F44D afTHUMBS UPhfDOWNafCLAPPING HANDSalOPENabCROWaaWOMANS HATaaEYEGLASSESaaNECKTIEaaT-SHIRT
1F456 aaJEANSabDRESaaKIMONOaaBIKINIaaWOMANS CLOTHESaaPURSEaaHANDBAGaaPOUCHaaMANS SHOEafATHLETIC
1F460 afHIGH-HEELEDaaWOMANS SANDALhaBOOTSacFOOTPRINaaBUST IN SILHOUETTEeoSbaOYaaGIRLaaMANadWO
1F46A aaFAMILYaaMAN AND WOMAN HOLDING HANDSapTWO MEerWOaaPOLICE OFFICERaaWOMAN WITH BUNNY EARS
1F470 aaBRIDE WITH VEILaaPERSON WITH BLOND HAIRaaMAN WITH GUA PI MAOjaTURBANacOLDER MgdWOaaBABY
1F477 aaCONSTRUCTION WORKERaaPRINCESSaaJAPANESE OGREjaGOBLINaaGHOSTaaBABY ANGEL
1F47D aaEXTRATERRESTRIAL ALIENaaALIEN MONSTERaaIMPaaSKULLaaINFORMATION DESK PERSONabGUARDSMA
1F483 aaDANCERaaLIPSTICKaaNAIL POLISHaaFACE MASSAGEaaHAIRCUTaaBARBER POLEabSYRINGaaPILLaaKISS MARK
1F48C aaLOVE LETTERaaRINGaaGEM STONEaaKISSaaBOUQUETabCOUPLE WITH HEARaaWEDDINGaaBEATING HEART
1F494 bgROKENaaTWO HEARTSaaSPARKLING HEARTajGROWaaHEART WITH ARROWaaBLUE HEARTagGREENagYELLOW
1F49C agPURPLEaaHEART WITH RIBBONaaREVOLVING HEARTSaaHEART DECORATION
1F4A0 aaDIAMOND SHAPE WITH A DOT INSIDEaaELECTRIC LIGHT BULBaaANGER SYMBOLaaBOMBaaSLEEPING SYMBOL
1F4A5 ahCOLLISIONahSPLASHING SWEATaaDROPLETbaASH SYMBOLaaPILE OF POOaaFLEXED BICEPSaaDIZZY SYMBOL
1F4AC aaSPEECH BALLOONaiTHOUGHTaaWHITE FLOWERaaHUNDRED POINTS SYMBOLaaMONEY BAGaaCURRENCY EXCHANGE
1F4B2 aaHEAVY DOLLAR SIGNaaCREDIT CARDaaBANKNOTE WITH YEN SIGNofDOLLARofEUROofPOUND
1F4B8 aaMONEY WITH WINGSaaCHART WITH UPWARDS TREND AND YEN SIGNaaSEATaaPERSONAL COMPUTER
1F4BC aaBRIEFCASEaaMINIDISCaaFLOPPY DISKaaOPTICAL DISCaaDVDaaFILE FOLDERalOPEN aaPAGE WITH CURL
1F4C4 faFACING UPaaCALENDARaiTEAR-OFF aaCARD INDEXbaHART WITH UPWARDS TRENDllDOWNaaBAR CHART
1F4CB aaCLIPBOARDaaPUSHPINahROUND aaPAPERCLIPaaSTRAIGHT RULERagTRIANGULARaaBOOKMARK TABSaaLEDGER
1F4D3 aaNOTEBOOKia WITH DECORATIVE COVERaaCLOSED BOOKafOPENahGREafBLUEagORANGaaBOOKSaaNAME BADGE
1F4DC aaSCROLLaaMEMOaaTELEPHONE RECEIVERacPAGaaFAX MACHINEaaSATELLITE ANTENNA
1F4E2 aaPUBLIC ADDRESS LOUDSPEAKERaaCHEERING MEGAPHONEaaOUTBOX TRAYaiINaaPACKAGEaaE-MAIL SYMBOL
1F4E8 aaINCOMING ENVELOPEabENVELOPE WITH DOWNWARDS ARROW ABOVaaCLOSED MAILBOX WITH LOWERED FLAG
1F4EB uhRAISazOPENshLOWERaaPOSTBOXeaAL HORNaaNEWSPAPERaaMOBILE PHONE
1F4F2 ma WITH RIGHTWARDS ARROW AT LEFTaaVIBRATION MODEaaMOBILE PHONE OFFaaNO MOBILE PHONES
1F4F6 abANTENNA WITH BARaaCAMERAga WITH FLASHaaVIDEO CAMERAaaTELEVISIONaaRADIOaaVIDEOCASSETTE
1F4FD aaFILM PROJECTORaaPORTABLE STEREObaRAYER BEADSabTWISTED RIGHTWARDS ARROW
1F501 ahCLOCKWISE RIGHTWARDS AND LEFTWARDS OPEN CIRCLE++ba WITH CIRCLED ONE OVERLAY
1F503 kaDOWNWARDS AND UPWARDS OPEN CIRCLE ARROWSa+yANTIaaLOW BRIGHTNESS SYMBOLasHIGH
1F507 aaSPEAKER WITH CANCELLATION STROKEhaha WITH ONE SOUND WAVEnaTHREE SOUND WAVESaaBATTERY
1F50C aaELECTRIC PLUGaaLEFT-POINTING MAGNIFYING GLASSa+bRIGHaaLOCK WITH INK PEN
1F510 aaCLOSED LOCK WITH KEYadaaLOCKaeOPEN aaBELLea WITH CANCELLATION STROKEbaOOKMARKaaLINK SYMBOL
1F518 aaRADIO BUTTONaaBACK WITH LEFTWARDS ARROW ABOVEa+bEND
1F51B amON WITH EXCLAMATION MARK WITH LEFT RIGHTamSOON WITH RIGHTWARDSarTOP WITH UP
1F51E aaNO ONE UNDER EIGHTEEN SYMBOLaaKEYCAP TENaaINPUT SYMBOL FOR LATIN CAPITAL LETTERSxjSMAL
1F522 rdNUMBrbSYMBOLrbLATIN LETTERaaFIREaaELECTRIC TORCHacWRENaaHAMMERaaNUT AND BOLTaaHOCHO
1F52B aaPISTOLaaMICROSCOPEafTELEaaCRYSTAL BALLaaSIX POINTED STAR WITH MIDDLE DOT
1F530 aaJAPANESE SYMBOL FOR BEGINNERaaTRIDENT EMBLEMaaBLACK SQUARE BUTTONaoWHITEaaLARGE RED CIRCLE
1F535 ghBLUEgaORANGE DIAMONDgjBLUajSMALL ORANGgjBLUaaUP-POINTING RED TRIANGLEawDOWN
1F53C anUP-POINTING SMALLa+cDOWNacLOWER RIGHT SHADOWED WHITE CIRCa+eUPPabCIRCLED CROSS POMME
1F541 baROSS POMMEE WITH HALF-CIRCLE BELOWmaaaNOTCHED LEFT SEMICIRCLE WITH THREE DOTSi+cRIGH
1F545 aaSYMBOL FOR MARKS CHAPTERaaWHITE LATIN CROSSamHEAVYagCELTICaaOM SYMBOLaaDOVE OF PEACE
1F54B aaKAABAaaMOSQUEacSYNAGOGaaMENORAH WITH NINE BRANCHESaaBOWL OF HYGIEIAaaCLOCK FACE ONE OCLOCK
1F551 lhTWOmhHREElhFOURmhIVElhSIXmhEVENlhEIGHTlhNINElhTENljELEVlhTWELVElaONE-THIRTYlhTWOmhHREE
1F55F lhFOURmhIVElhSIXmhEVENlhEIGHTlhNINElhTENljELEVlhTWELVEaaRIGHT SPEAKERna WITH ONE SOUND WAVE
1F56A taTHREE SOUND WAVESaaBULLHORNia WITH SOUND WAVESaaRINGING BELLaaBOOKaaCANDLE
1F570 aaMANTELPIECE CLOCKaaBLACK SKULL AND CROSSBONESaaNO PIRACYaaHOLE
1F574 aaMAN IN BUSINESS SUIT LEVITATINGaaSLEUTH OR SPYaaDARK SUNGLASSESaaSPIDERga WEBaaJOYSTICK
1F57A aaMAN DANCINGaaLEFT HAND TELEPHONE RECEIVERaaTELEPHONE RECEIVER WITH PAGE
1F57D aaRIGHT HAND TELEPHONE RECEIVERaaWHITE TOUCHTONE TELEPHONEauBLACKaaTELEPHONE ON TOP OF MODEM
1F581 aaCLAMSHELL MOBILE PHONEabBACK OF ENVELOPajSTAMPEDaaENVELOPE WITH LIGHTNINGaaFLYING ENVELOPE
1F586 ajPEN OVER STAMPEDaaLINKED PAPERCLIPSaaBLACK PUSHPINaaLOWER LEFT PENCILlaBALLPOINT PEN
1F58B leFOUNTAINlaPAINTBRUSHlaCRAYONbaEFT WRITING HANDaaTURNED OK HAND SIGN
1F590 aaRAISED HAND WITH FINGERS SPLAYEDb+fEVERSED RjaTHUMBS UP SIGNqfDOWNjaVICTORY HAND
1F595 jbHAND WITH MIDDLE FINGER EXTENDEbaAISED HAND WITH PART BETWEEN MIDDLE AND RING FINGERS
1F597 aaWHITE DOWN POINTING LEFT HAND INDEXagSIDEWAYS WHITE LEFT POINTINGpqRIGHjqBLACK LEFpqRIGH
1F59C agBLACK LEFT POINTING BACKHANDgzRIGHagSIDEWAYS WHITE UP POINTINGppDOWNjpBLACK UPppDOWN
1F5A2 agBLACK UP POINTING BACKHANDgyDOWNgaHEARTaaDESKTOP COMPUTERaaKEYBOARD AND MOUSE
1F5A7 aaTHREE NETWORKED COMPUTERSaaPRINTERbbOCKET CALCULATOaaBLACK HARD SHELL FLOPPY DISKaxWHITE
1F5AC asSOFTaaTAPE CARTRIDGEaaWIRED KEYBOARDaaONE BUTTON MOUSEanTWObnHREEbaRACKBALL
1F5B3 aaOLD PERSONAL COMPUTERaaHARD DISKaaSCREENabPRINTER ICOafFAXafOPTICAL DISC
1F5B9 aaDOCUMENT WITH TEXTsa AND PICTUREohanFRAMElaTILESlaAN XaaBLACK FOLDERagagOPEN 
1F5C2 aaCARD INDEX DIVIDERSfaFILE BOXaaFILE CABINETaaEMPTY NOTEka PAGEnaDaaNOTEea PAGEhaD
1F5CB aaEMPTY DOCUMENTgaPAGEkaSaaDOCUMENTaaPAGEeaSaaWASTEBASKETaaSPIRAL NOTE PADheCALENDAR
1F5D4 aaDESKTOP WINDOWaaMINIMIZEbfAXaaOVERLAPaaCLOCKWISE RIGHT AND LEFT SEMICIRCLE ARROWS
1F5D9 baANCELLATION XaaINCREASE FONT SIZE SYMBOLaxDEaaCOMPRESSIONaaOLD KEYaaROLLED-UP NEWSPAPER
1F5DF aaPAGE WITH CIRCLED TEXTabSTOCK CHARaaDAGGER KNIFEaaLIPSaaSPEAKING HEAD IN SILHOUETTE
1F5E4 abTHREE RAYS ABOVlaBELOWlaLEFTlbRIGHaaLEFT SPEECH BUBBLEapRIGHaaTWO SPEECH BUBBLESbpHREE
1F5EC aaLEFT THOUGHT BUBBLEaqRIGHahLEFT ANGERaoRIGHahMOODalLIGHTNING oaaaBALLOT BOX WITH BALLOT
1F5F4 haSCRIPT XhiBOX WITH jjLDjlX WITH BOaaLIGHT CHECK MARKabBALLOT BOX WITH BOLD CHECaaWORLD MAP
1F5FB aaMOUNT FUJIaaTOKYO TOWERaaSTATUE OF LIBERTYbaILHOUETTE OF JAPANaaMOYAIaaGRINNING FACE
1F601 na WITH SMILING EYESaaFACE WITH TEARS OF JOYaaSMILING FACE WITH OPEN MOUTH
1F604 +ca AND SMILING EYES+haCOLD SWEAT+haTIGHTLY-CLOSED EYESsaHALOtaORNSaaWINKING FACE
1F60A aaSMILING FACE WITH SMILING EYESaaFACE SAVOURING DELICIOUS FOODaaRELIEVED FACE
1F60D aaSMILING FACE WITH HEART-SHAPED EYESscSUNGLASSdaRKING FACEafNEUTRALafEXPRESSIONLESS
1F612 afUNAMUSEDaaFACE WITH COLD SWEATaaPENSIVE FACEafCONFUSEDehOUNDafKISSING
1F618 aaFACE THROWING A KISSabKISSING FACE WITH SMILING EYEsfCLOSEDaaFACE WITH STUCK-OUT TONGUE
1F61C +aa AND WINKING EYE+faTIGHTLY-CLOSED EYESaaDISAPPOINTED FACEahWORRIafANGRYafPOUTINGaiCRY
1F623 aiPERSEVERaaFACE WITH LOOK OF TRIUMPHaaDISAPPOINTED BUT RELIEVED FACE
1F626 aaFROWNING FACE WITH OPEN MOUTHaaANGUISHED FACEafFEARFULafWEARYagSLEEPafTIREDafGRIMACING
1F62D aiLOUDLY CRYaaFACE WITH OPEN MOUTHaaHUSHED FACEaaFACE WITH OPEN MOUTH AND COLD SWEAT
1F631 faSCREAMING IN FEARaaASTONISHED FACEajFLUafSLEEPINGafDIZZYaaFACE WITHOUT MOUTH
1F637 ja MEDICAL MASKaaGRINNING CAT FACE WITH SMILING EYESaaCAT FACE WITH TEARS OF JOY
1F63A aaSMILING CAT FACE WITH OPEN MOUTHwaHEART-SHAPED EYESaaCAT FACE WITH WRY SMILE
1F63D aaKISSING CAT FACE WITH CLOSED EYESaaPOUTING CAT FACEamCRYajWEARYafSLIGHTLY FROWNINGjiSMIL
1F643 afUPSIDE-DOWNaaFACE WITH ROLLING EYESkaNO GOOD GESTUREkiOKaaPERSON BOWING DEEPLY
1F648 abSEE-NO-EVIL MONKEapHEARapSPEAKaaHAPPY PERSON RAISING ONE HAND
1F64C aaPERSON RAISING BOTH HANDS IN CELEBRATIONhaFROWNINGhaWITH POUTING FACEmaFOLDED HANDS
1F650 aaNORTH WEST POINTING LEAFavSOUaqNORTH EAavSOUaqTURNED NORTH WEhvSOUhqNORTH EAhvSOU
1F658 afNORTH WEST POINTING VINEa+aSOUavNORTH EAa+aSOUavHEAVY NORTH WEg+aSOUgvNORTH EAg+aSOU
1F660 aaNORTH WEST POINTING BUDauSOUapNORTH EAauSOUapHEAVY NORTH WEguSOUgpNORTH EAguSOU
1F668 baOLLOW QUILT SQUARE ORNAMENT+ca IN BLACK SQUAREaaSOLID QUILT SQUARE ORNAMENT
1F66B +ba IN BLACK SQUAREaaLEFTWARDS ROCKETamUPamRIGHTamDOWNabSCRIPT LIGATURE ET ORNAMENa+bHEAVY 
1F672 amLIGATURE OPENazHEAVY gjAMPERSANDatSWASH
1F676 bjANS-SERIF HEAVY DOUBLE TURNED COMMA QUOTATION MARKy+dr+kLOW ajHEAVY INTERROBANG
1F67A avSANS-SERIFa+fHEAVY aaVERY HEAVY SOLIDUSlhREVERSE aaCHECKER BOARDanREVERSE baOCKET
1F681 aaHELICOPTERaaSTEAM LOCOMOTIVEaaRAILWAY CARaaHIGH-SPEED TRAINqa WITH BULLET NOSEaaTRAIN
1F687 aaMETROaaLIGHT RAILaaSTATIONaaTRAMea CARaaBUSadONCOMING adTROLLEYaaBUS STOPaaMINIBUS
1F691 aaAMBULANCEabFIRE ENGINaaPOLICE CARakONCOMING aaTAXIaeONCOMING aaAUTOMOBILEakONCOMING 
1F699 acRECREATIONAL VEHICaaDELIVERY TRUCKaaARTICULATED LORRYaaTRACTORaaMONORAILcaUNTAIN RAILWAY
1F69F ajSUSPENSIOadMOUNTAIN CABLEadAERIAL TRAMaaSHIPaaROWBOATaeSPEEDabHORIZONTAL TRAFFIC LIGH
1F6A6 aqVERTICaaCONSTRUCTION SIGNaaPOLICE CARS REVOLVING LIGHTabTRIANGULAR FLAG ON POSaaDOOR
1F6AB aaNO ENTRY SIGNaaSMOKING SYMBOLaoNO ahPUT LITTER IN ITS PLACEahDO NOT LITTERakPOTABLE WA
1F6B1 auNON-aaBICYCLEaaNO BICYCLESaaBICYCLISTajMOUNTAIN aaPEDESTRIANaaNO PEDESTRIANS
1F6B8 aaCHILDREN CROSSINGaaMENS SYMBOLalWOaaRESTROOMaaBABY SYMBOLaaTOILETacWATER CLOSaaSHOWER
1F6C0 aaBATHeaTUBaaPASSPORT CONTROLaaCUSTOMSaaBAGGAGE CLAIMaaLEFT LUGGAGE
1F6C6 aaTRIANGLE WITH ROUNDED CORNERSaaPROHIBITED SIGNaaCIRCLED INFORMATION SOURCEaaBOYS SYMBOL
1F6CA aiGIRLaaCOUCH AND LAMPaaSLEEPING ACCOMMODATIONbaHOPPING BAGSaaBELLHOP BELLcaD
1F6D0 aaPLACE OF WORSHIPaaOCTAGONAL SIGNaaSHOPPING TROLLEYbaTUPAabPAGODaaHINDU TEMPLEbaUT
1F6D7 aaELEVATOR
1F6DD aaPLAYGROUND SLIDEaaWHEELaaRING BUOYaaHAMMER AND WRENCHaaSHIELDaaOIL DRUMaaMOTORWAY
1F6E4 aaRAILWAY TRACKaaMOTOR BOATaaUP-POINTING MILITARY AIRPLANEmimiSMALL aoajNORTHEAST-POINTING
1F6EB abAIRPLANE DEPARTURjaARRIVING
1F6F0 aaSATELLITEabONCOMING FIRE ENGINabDIESEL LOCOMOTIVaaPASSENGER SHIPaaSCOOTERahMOTOR aaCANOE
1F6F7 aaSLEDaaFLYING SAUCERaaSKATEBOARDaaAUTO RICKSHAWaaPICKUP TRUCKaaROLLER SKATE
1F700 abALCHEMICAL SYMBOL FOR QUINTESSENCwaAIRwaFIREwaEARTHwaWATERwaAQUAFORTIS+aa REGIA+ga-2
1F708 +baVITAE+ga-2waVINEGAR+da-2+ea3waSULFURwgPHILOSOPHERS whBLACKwaMERCURY SUBLIMATE+na-2+oa3
1F713 waCINNABARwaSALTwaNITREwaVITRIOL+da-2waROCK SALT+fa-2waGOLDwaSILVERwaIRON ORE+ea-2
1F71E waCROCUS OF IRONwkREGULwaCOPPER OREwkIRON-waSUBLIMATE OF COPPERwkCROCUS+ma-2
1F725 xaOPPER ANTIMONIATEwsSALT OF xaUBLIMATE OF SALT OF COPPERwaVERDIGRISwaTIN OREweLEAD
1F72B weANTIMONYwaSUBLIMATE OF ANTIMONYxmALTxpUBLIMATE OF SwmVINEGARwmREGULUS+pa-2+da+da-2+ea3+ea4
1F736 waALKALI+ca-2waMARCASITEwaSAL-AMMONIACwbARSENIwaREALGAR+da-2waAURIPIGMENTwaBISMUTH ORE
1F73F waTARTAR+ca-2waQUICK LIMEwaBORAX+ba-2+ca3waALUMwaOILwaSPIRITwaTINCTUREwaGUMwaWAXwaPOWDER
1F74C waCALXwaTUTTYwaCAPUT MORTUUMwaSCEPTER OF JOVEwaCADUCEUSwaTRIDENTwhSTARRED waLODESTONEwaSOAP
1F755 waURINEwaHORSE DUNGwaASHESwfPOT waBRICKwfPOWDERED waAMALGAMwbSTRATUM SUPER STRATU+ra-2
1F75E xaUBLIMATIONwaPRECIPITATEwaDISTILLzaSOLVE+ea-2waPURIFYyaTREFACTIONwaCRUCIBLE+ea-2+fa3+fa4
1F769 +fa5waALEMBICwaBATH OF MARY+eaVAPOURSwaRETORTwaHOURwaNIGHTwfDAY-waMONTHwaHALF DRAM+baOUNCE
1F780 abBLACK LEFT-POINTING ISOSCELES RIGHT TRIANGLg+iUPg+iRIGHTg+iDOWNgcSLIGHTLY SMALL CIRC
1F785 ahMEDIUM BOLD WHITEaranHEAVYasVERY auEXTREMELahWHITE CIRCLE CONTAINING BLACK SMALL
1F78B aaROUND TARGETaaBLACK TINY SQUAREghSLIGHTLY SMALLahLIGHT WHITEanMEDIUManBOLDanHEAVYasVERY 
1F793 auEXTREMELahWHITE SQUARE CONTAINING BLACK VERY SMALL+ehMEDIUMaaSQUARE TARGET
1F797 aaBLACK TINY DIAMONDgiVERY SMALLgoMEDIUMaoWHITE DIAMOND CONTAINING BLACK VERY+fiMEDIUM
1F79C aaDIAMOND TARGETaaBLACK TINY LOZENGEgiVERY SMALLgoMEDIUMaoWHITE LOZENGE CONTAINING BLACK
1F7A1 aaTHIN GREEK CROSSamLIGHTamMEDIUMamBOLDaqVERY fmHEAVYatEXTREMELaaTHIN SALTIREaiLIGHTaiMEDIUM
1F7AB aiBOLDaiHEAVYanVERY apEXTREMELaaLIGHT FIVE SPOKED ASTERISKavMEDIUMavBOLDavHEAVYa+aVERY 
1F7B4 a+cEXTREMELaqLIGHT SIXauMEDIUMauBOLDauHEAVYazVERY a+bEXTREMELaqLIGHT EIGHTawMEDIUMawBOLD
1F7BE awHEAVYa+bVERY aaLIGHT THREE POINTED BLACK STARazMEDIUMayafMEDIUM THREE POINTED PINWHEEL
1F7C4 afLIGHT FOUR POINTED BLACKayMEDIUMaxafMEDIUM FOUR POINTED PINWHEELa+bREVERSE LIGHT
1F7C9 afLIGHT FIVE POINTED BLACKayHEAVYatMEDIUM SIXaxHEAVYafSIX POINTED PINWHEEL
1F7CE afMEDIUM EIGHT POINTED BLACKazHEAVYa+eVERY afHEAVY EIGHT POINTED PINWHEEL
1F7D2 afLIGHT TWELVE POINTED BLACKa+aHEAVYvfPINWHEELaaCIRCLED TRIANGLEaqNEGATIVE abCIRCLED SQUAR
1F7D8 aoNEGATIVE 
1F7E0 abLARGE ORANGE CIRCLghYELLOWghGREENghPURPLEghBROWNgbRED SQUARghBLUEgiORANGghYELLOWghGREEN
1F7EA ghPURPLEghBROWN
1F7F0 aaHEAVY EQUALS SIGN
1F800 aaLEFTWARDS ARROW WITH SMALL TRIANGLE ARROWHEADa+pUPa+pRIGHTa+pDOWN
1F804 atLEFTWARDS ARROW WITH MEDIUMa+qUPa+qRIGHTa+qDOWNatLEFTWARDS ARROW WITH LARGEa+pUPa+pRIGHT
1F80B a+pDOWN
1F810 akLEFTWARDS ARROW WITH SMALL EQUILATERALa+sUPa+sRIGHTa+sDOWNawLEFTWARDS ARROW WITHa+mUP
1F816 a+mRIGHTa+mDOWNa+mHEAVY LEFTg+mUPg+mRIGHTg+mDOWNgwLEFTWARDS ARROW WITH LARGEg+sUPg+sRIGHT
1F81F g+sDOWNaaLEFTWARDS TRIANGLE-HEADED ARROW WITH NARROW SHAFTa+tUPa+tRIGHTa+tDOWN
1F824 agLEFTWARDS TRIANGLE-HEADED ARROW WITH MEDIUMa+tUPa+tRIGHTa+tDOWN
1F828 agLEFTWARDS TRIANGLE-HEADED ARROW WITH BOLDa+rUPa+rRIGHTa+rDOWN
1F82C agLEFTWARDS TRIANGLE-HEADED ARROW WITH HEAVYa+sUPa+sRIGHTa+sDOWN
1F830 amLEFTWARDS TRIANGLE-HEADED ARROW WITH VERYa+xUPa+xRIGHTa+xDOWNaaLEFTWARDS FINGER-POST ARROW
1F835 axUPaxRIGHTaxDOWNagLEFTWARDS SQUAREDatUPatRIGHTatDOWNaiLEFTWARDS COMPRESSawUPawRIGHTawDOWN
1F840 arLEFTWARDS HEAVYa+cUPa+cRIGHTa+cDOWNagLEFTWARDS HEAVYarUParRIGHTarDOWN
1F850 agLEFTWARDS SANS-SERIFawUPawRIGHTawDOWNarNORTH WESTgtEAaySOUgtWEasLEFT RIGHarUP DOWN
1F860 agWIDE-HEADED LEFTWARDS LIGHT BARBmwUPmwRIGHTmwDOWNmrNORTH WESTstEAmySOUstWEmlLEFTWARDSmqUP
1F86A mqRIGHTmqDOWNmlNORTH WESTsnEAmsSOUsnWEmlLEFTWARDS MEDIUMmxUPmxRIGHTmxDOWNmsNORTH WESTsuEA
1F876 mzSOUsuWEmlLEFTWARDS HEAVYmwUPmwRIGHTmwDOWNmrNORTH WESTstEAmySOUstWEmrLEFTWARDS VERYm+bUP
1F882 m+bRIGHTm+bDOWNmwNORTH WESTsyEAm+dSOUsyWE
1F890 aaLEFTWARDS TRIANGLE ARROWHEADayUPayRIGHTayDOWNatLEFTWARDS WHITE ARROW WITHINa+rUPa+rRIGHT
1F897 a+rDOWNaaLEFTWARDS ARROW WITH NOTCHED TAILa+dUPa+dRIGHTa+dDOWNaaHEAVY ARROW SHAFT WIDTH ONE
1F89D yaTWO THIRDSyaONE HALF+caTHIRDaaLEFTWARDS BOTTOM-SHADED WHITE ARROWasRIGHTWARDS BOTTOM 
1F8A2 atLEFTWARDS TOPa+dRIGHasLEFTWARDS LEFT-auRIGHTWARDS RIGHa+fLEFauRIGHTWARDS LEF
1F8A8 aoLEFTWARDS BACK-TILTED SHADOWa+nRIGHa+cLEFTWARDS FRONTa+oRIGHaaWHITE ARROW SHAFT WIDTH ONE
1F8AD yaTWO THIRDS
1F8B0 aaARROW POINTING UPWARDS THEN NORTH WESTphRIGHTWARDS THEN CURVING SOU
1F900 aaCIRCLED CROSS FORMEE WITH FOUR DOTS+afTWOuaaaLEFT HALF CIRCLE WITH FOUR DOTSwfTHREExfWO
1F906 waDOTqaaaDOWNWARD FACING HOOKqeNOTCHED qaHOOK WITH DOTqnNOTCHED aaPINCHED FINGERS
1F90D aaWHITE HEARTagBROWNaaPINCHING HANDaaZIPPER-MOUTH FACEalMONEYaaFACE WITH THERMOMETER
1F913 aaNERD FACEafTHINKINGabFACE WITH HEAD-BANDAGabROBOT FACafHUGGINGaaSIGN OF THE HORNS
1F919 aaCALL ME HANDafRAISED BACK OFaaLEFT-FACING FISTanRIGHaaHANDSHAKE
1F91E ea WITH INDEX AND MIDDLE FINGERS CROSSEDaaI LOVE YOU HAND SIGNaaFACE WITH COWBOY HAT
1F921 aaCLOWN FACEafNAUSEATEDaaROLLING ON THE FLOOR LAUGHINGaaDROOLING FACEaiLYaaFACE PALM
1F927 aaSNEEZING FACEaaFACE WITH ONE EYEBROW RAISEDaaGRINNING FACE WITH STAR EYES
1F92A taONE LARGE AND ONE SMALL EYEaaFACE WITH FINGER COVERING CLOSED LIPS
1F92C aaSERIOUS FACE WITH SYMBOLS COVERING MOUTHbpMILING FACE WITH SMILING EYES AND HAND
1F92E aaFACE WITH OPEN MOUTH VOMITINGaaSHOCKED FACE WITH EXPLODING HEADaaPREGNANT WOMAN
1F931 aaBREAST-FEEDINGaaPALMS UP TOGETHERaaSELFIEabPRINCaaMAN IN TUXEDObaOTHER CHRISTMASaaSHRUG
1F938 aaPERSON DOING CARTWHEELaaJUGGLINGaaFENCERaaMODERN PENTATHLONaaWRESTLERSbaATER POLO
1F93E aaHANDBALLaaDIVING MASKaaWILTED FLOWERaaDRUM WITH DRUMSTICKSabCLINKING GLASSEabTUMBLER GLAS
1F944 aaSPOONaaGOAL NETaaRIFLEaaFIRST PLACE MEDALamSECONDanTHIRaaBOXING GLOVE
1F94B aaMARTIAL ARTS UNIFORMaaCURLING STONEaaLACROSSE STICK AND BALLaeSOFTaaFLYING DISCaaCROISSANT
1F951 aaAVOCADOaaCUCUMBERaaBACONaaPOTATOaaCARROTaaBAGUETTE BREADacGREEN SALabSHALLOW PAN OF FOO
1F959 bbTUFFED FLATBREAaaEGGaaGLASS OF MILKaaPEANUTSaaKIWIFRUITaaPANCAKESaaDUMPLING
1F960 aaFORTUNE COOKIEaaTAKEOUT BOXaaCHOPSTICKSaaBOWL WITH SPOONaaCUP WITH STRAWbaOCONUTaaBROCCOLI
1F967 aaPIEbaRETZELaaCUT OF MEATaaSANDWICHaaCANNED FOODaaLEAFY GREENaaMANGObaOON CAKEaaBAGEL
1F970 aaSMILING FACE WITH SMILING EYES AND THREE HEARTSaaYAWNING FACEaaSMILING FACE WITH TEAR
1F973 aaFACE WITH PARTY HORN AND PARTY HATkaUNEVEN EYES AND WAVY MOUTHaaOVERHEATED FACEafFREEZING
1F977 aaNINJAaaDISGUISED FACEaaFACE HOLDING BACK TEARSfbWITH PLEADING EYEaaSARIaaLAB COATaaGOGGLES
1F97E aaHIKING BOOTaaFLAT SHOEaaCRABaaLION FACEaaSCORPIONaaTURKEYaaUNICORN FACEabEAGLaaDUCKaaBAT
1F988 aaSHARKaaOWLaaFOX FACEaaBUTTERFLYaaDEERaaGORILLAaaLIZARDaaRHINOCEROSaaSHRIMPbaQUID
1F992 aaGIRAFFE FACEafZEBRAaaHEDGEHOGaaSAUROPODaaT-REXaaCRICKETaaKANGAROOaaLLAMAaaPEACOCK
1F99B aaHIPPOPOTAMUSaaPARROTaaRACCOONaaLOBSTERaaMOSQUITObaICROBEaaBADGERaaSWANaaMAMMOTHaaDODO
1F9A5 aaSLOTHaaOTTERbaRANGUTANaaSKUNKaaFLAMINGOaaOYSTERacBEAVbaISONaaSEALaaGUIDE DOGaaPROBING CANE
1F9B0 aaEMOJI COMPONENT RED HAIRqfCURLYqaBALDqaWHITE HAIRaaBONEaaLEGaaFOOTaaTOOTHaaSUPERHERO
1F9B9 faVILLAINbaAFETY VESTaaEAR WITH HEARING AIDaaMOTORIZED WHEELCHAIRblANUALbaECHANICAL ARMlaLEG
1F9C0 aaCHEESE WEDGEbbUPCAKaaSALT SHAKERaaBEVERAGE BOXaaGARLICaaONIONaaFALAFELaaWAFFLEaaBUTTER
1F9C9 aaMATE DRINKaaICE CUBEaaBUBBLE TEAaaTROLLaaSTANDING PERSONakKNEELahDEAFaaFACE WITH MONOCLE
1F9D1 aaADULTaaCHILDaaOLDER ADULTaaBEARDED PERSONaaPERSON WITH HEADSCARFhaIN STEAMY ROOMhaCLIMBING
1F9D8 haIN LOTUS POSITIONaaMAGEaaFAIRYaaVAMPIREaaMERPERSONaaELFaaGENIEacZOMBaaBRAINaaORANGE HEART
1F9E2 aaBILLED CAPaaSCARFaaGLOVESaaCOATaaSOCKSaaRED GIFT ENVELOPEaaFIRECRACKER
1F9E9 aaJIGSAW PUZZLE PIECEabTEST TUBaaPETRI DISHaaDNA DOUBLE HELIXaaCOMPASSabABACU
1F9EF aaFIRE EXTINGUISHERaaTOOLBOXaaBRICKaaMAGNETaaLUGGAGEbbOTION BOTTLaaSPOOL OF THREAD
1F9F6 aaBALL OF YARNabSAFETY PIaaTEDDY BEARaaBROOMbaASKETaaROLL OF PAPERaaBAR OF SOAPaaSPONGE
1F9FE aaRECEIPTabNAZAR AMULEbaEUTRAL CHESS KINGoaQUEENoaROOKoaBISHOPoaKNIGHToaPAWN
1FA06 aaWHITE CHESS KNIGHT ROTATED FORTY-FIVE DEGREESa+oBLACKa+oNEUTRAL
1FA09 aiWHITE CHESS KING ROTATED NINETYmxQUEENmxROOKmxBISHOPmxKNIGHTmxPAWNaxBLACK CHESS KING
1FA10 mxQUEENmxROOKmxBISHOPmxKNIGHTmxPAWNaxNEUTRAL CHESS KINGoxQUEENoxROOKoxBISHOPoxKNIGHToxPAWN
1FA1B aiWHITE CHESS KNIGHT ROTATED ONE HUNDRED THIRTY-FIVEa++bBLACKa++bNEUTRAL
1FA1E aaWHITE CHESS TURNED KINGtaQUEENtaROOKtaBISHOPtaKNIGHTtaPAWNaaBLACK CHESS TURNED KINGtaQUEEN
1FA26 taROOKtaBISHOPtaKNIGHTtaPAWNaaNEUTRAL CHESS TURNED KINGvaQUEENvaROOKvaBISHOPvaKNIGHTvaPAWN
1FA30 aaWHITE CHESS KNIGHT ROTATED TWO HUNDRED TWENTY-FIVE DEGREESa++bBLACKa++bNEUTRAL
1FA33 aiWHITE CHESS KING ROTATED TWO HUNDRED SEVENTYm+kQUEENm+kROOKm+kBISHOPm+kKNIGHTm+kPAWN
1FA39 a+kBLACK CHESS KINGm+kQUEENm+kROOKm+kBISHOPm+kKNIGHTm+kPAWNa+kNEUTRAL CHESS KINGo+kQUEEN
1FA41 o+kROOKo+kBISHOPo+kKNIGHTo+kPAWNaiWHITE CHESS KNIGHT ROTATED THREE HUNDRED FIFTEENa+zBLACK
1FA47 a+zNEUTRALaaWHITE CHESS EQUIHOPPERarBLACKarNEUTRAL
1FA4B aaWHITE CHESS EQUIHOPPER ROTATED NINETY DEGREESa+oBLACKa+oNEUTRALaaWHITE CHESS KNIGHT-QUEEN
1FA4F taROOKtaBISHOPaaBLACK CHESS KNIGHT-QUEENtaROOKtaBISHOP
1FA60 aaXIANGQI RED GENERALmaMANDARINmaELEPHANTmaHORSEmaCHARIOTnaANNONmaSOLDIERiaBLACK GENERAL
1FA68 oaMANDARINoaELEPHANToaHORSEoaCHARIOTpaANNONoaSOLDIER
1FA70 aaBALLET SHOESaaONE-PIECE SWIMSUITaaBRIEFSabSHORTaaTHONG SANDAL
1FA78 aaDROP OF BLOODaaADHESIVE BANDAGEabSTETHOSCOPaaX-RAYaaCRUTCH
1FA80 aaYO-YOaaKITEacPARACHUaaBOOMERANGaaMAGIC WANDaaPINATAaaNESTING DOLLS
1FA90 aaRINGED PLANETaaCHAIRabRAZOaaAXEaaDIYA LAMPaaBANJOaaMILITARY HELMETaaACCORDIONaaLONG DRUM
1FA99 aaCOINbaARPENTRY SAWaaSCREWDRIVERacLADDaaHOOKaaMIRRORaaWINDOWaaPLUNGERaaSEWING NEEDLEaaKNOT
1FAA3 abBUCKEaaMOUSE TRAPaaTOOTHBRUSHaaHEADSTONEaaPLACARDaaROCKaaMIRROR BALLaaIDENTIFICATION CARD
1FAAB aaLOW BATTERYaaHAMSA
1FAB0 aaFLYaaWORMaaBEETLEaaCOCKROACHaaPOTTED PLANTaaWOODaaFEATHERaaLOTUSaaCORALaaEMPTY NEST
1FABA aaNEST WITH EGGS
1FAC0 aaANATOMICAL HEARTaaLUNGSaaPEOPLE HUGGINGbaREGNANT MANjbPERSObbERSON WITH CROW
1FAD0 aaBLUEBERRIESbaELL PEPPERaaOLIVEaaFLATBREADaaTAMALEabFONDUaaTEAPOTaaPOURING LIQUIDaaBEANS
1FAD9 aaJAR
1FAE0 aaMELTING FACEajSALUaaFACE WITH OPEN EYES AND HAND OVER MOUTHkaPEEKING EYEkaDIAGONAL MOUTH
1FAE5 aaDOTTED LINE FACEaaBITING LIPbaUBBLES
1FAF0 aaHAND WITH INDEX FINGER AND THUMB CROSSEDabRIGHTWARDS HANalLEFafPALM DOWNffUP
1FAF5 aaINDEX POINTING AT THE VIEWERaaHEART HANDS
1FB00 aaBLOCK SEXTANT-1oa2ob1oa3ob1ob2oc1oa4ob1ob2oc1ob3oc1oc2od1oa5ob1ob2oc1ob3oc2od1ob4oc1oc2od1
1FB1A oc3od1od2oe1oa6ob1ob2oc1ob3oc1oc2od1ob4oc1pc2oc3od1od2oe1ob5oc1oc2od1oc3od1od2oe1oc4od1od2
1FB38 oe1od3oe1oe2aaLOWER LEFT BLOCK DIAGONAL LOWER MIDDLE LEFT TO LOWER CENTRE++baRIGHT
1FB3E +aaUPPER MIDDLE LEFT TO LOWER CENTRE++baRIGHT+gaLEFT TO LOWER CENTRE
1FB41 gjRIGHT BLOCK DIAGONAL UPPER MIDDLE LEFT TO UPP++caRIGHT+baLOWER MIDDLE LEFT TO UPPER CENTRE
1FB44 ++caRIGHT+haLEFT TO UPPER CENTRE+haMIDDLE LEFT TO UPPER MIDDLE RIGHT+hpCENTRE TO LOW+hwLEFT
1FB49 +hpCENTRE TO UPP+hwLEFT+hgCENTRE TO UPPERggLEFT BLOCK DIAGONAL UPPER CENTRE TO UPPER MIDDLE
1FB4D +gwLEFT+gpCENTRE TO LOW+gwLEFT+ggCENTRE TO LOWER+ggMIDDLE LEFT TO LOWER MIDDLE
1FB52 aaUPPER RIGHT BLOCK DIAGONAL LOWER MIDDLE LEFT TO LOWER CENTRE++caRIGHT
1FB54 +baUPPER MIDDLE LEFT TO LOWER CENTRE++caRIGHT+haLEFT TO LOWER CENTRE
1FB57 gjLEFT BLOCK DIAGONAL UPPER MIDDLE LEFT TO UPP++baRIGHT+aaLOWER MIDDLE LEFT TO UPPER CENTRE
1FB5A ++baRIGHT+gaLEFT TO UPPER CENTRE+gaMIDDLE LEFT TO UPPER MIDDLE RIGHT+gpCENTRE TO LOW+gwLEFT
1FB5F +gpCENTRE TO UPP+gwLEFT+ggCENTRE TO UPPERggRIGHT BLOCK DIAGONAL UPPER CENTRE TO UPPER MIDDLE
1FB63 +hwLEFT+hpCENTRE TO LOW+hwLEFT+hgCENTRE TO LOWER+hgMIDDLE LEFT TO LOWER MIDDLE
1FB68 gaAND RIGHT AND LOWER TRIANGULAR THREE QUARTERS BLOCKa+gLEFT AND LOWER AND RIGHT
1FB6A a+gUPPER AND LEFT AND LOWERa+gLEFT AND UPPER AND RIGHTfgTRIANGULAR ONE QUARTERa+dUPPER
1FB6E a+dRIGHTa+dLOWERaaVERTICAL ONE EIGHTH BLOCK-2+aa3+aa4+aa5+aa6+aa7
1FB76 aaHORIZONTAL ONE EIGHTH BLOCK-2+ca3+ca4+ca5+ca6+ca7aaLEFT AND LOWER ONE EIGHTH BLOCKjtUPP
1FB7E a+cRIGHktLOWa+bUPPERaaHORIZONTAL ONE EIGHTH BLOCK-1358aaUPPER ONE QUARTER BLOCK
1FB83 ggTHREE EIGHTHSgpFIVghTHREE QUARTERghSEVEN EIGHTHagRIGHT ONE QUARTERggTHREE EIGHTHSgpFIV
1FB8A ghTHREE QUARTERghSEVEN EIGHTHaaLEFT HALF MEDIUM SHADEatRIGHasUPPERauLOWanINVERSE
1FB91 auUPPER HALF BLOCK AND LOWER HALF laINVERSE MEDIUM SHADE AND LOWER HALF BLOCK
1FB94 alLEFT HALF INVERSE MEDIUM SHADE AND RIGHTaaCHECKER BOARD FILLasINVERSE afHEAVY HORIZONTAL
1FB98 afUPPER LEFT TO LOWER RIGHTggRIGHT TO LOWER LEFgaAND LOWER TRIANGULAR HALF BLOCK
1FB9B awLEFT AND RIGHTaaUPPER LEFT TRIANGULAR MEDIUM SHADEgzRIGHa+gLOWgzLEF
1FBA0 aaBOX DRAWINGS LIGHT DIAGONAL UPPER CENTRE TO MIDDLE LEFT+zbRIGH
1FBA2 +caMIDDLE LEFT TO LOWER CENTRE+jrRIGH+crUPPER CENTRE TO MIDDLE LEF+zrRIGH
1FBA6 +caMIDDLE LEFT TO LOWER CENTRE TO MIDDLE RIGHT+rzUPP
1FBA8 +caUPPER CENTRE TO MIDDLE LEFT AND MIDDLE RIGHT TO LOWER CENTRE+zrRIGHT AND MIDDLE LEF
1FBAA ++faTO LOWER CENTRE TO MIDDLE LEFT+zbLEFT TO LOWER CENTRE TO MIDDLE RIGH
1FBAC +caMIDDLE LEFT TO UPPER CENTRE TO MIDDLE RIGHT TO LOWER CENTRE
1FBAD +jrRIGHT TO UPPER CENTRE TO MIDDLE LEF+caDIAMONDtaHORIZONTAL WITH VERTICAL STROKE
1FBB0 aaARROWHEAD-SHAPED POINTERaaINVERSE CHECK MARKaaLEFT HALF RUNNING MANasRIGH
1FBB4 aaINVERSE DOWNWARDS ARROW WITH TIP LEFTWARDS
1FBB5 aaLEFTWARDS ARROW AND UPPER AND LOWER ONE EIGHTH BLOCKa+xRIGHarDOWNWARDS ARROW AND RIGHT
1FBB8 a+mUPaaLEFT HALF FOLDERanRIGHaaVOIDED GREEK CROSSaaRIGHT OPEN SQUARED DOT
1FBBD aaNEGATIVE DIAGONAL CROSSsaMIDDLE RIGHT TO LOWER CENTREsaDIAMOND
1FBC0 aaWHITE HEAVY SALTIRE WITH ROUNDED CORNERSaaLEFT THIRD WHITE RIGHT POINTING INDEXa+hMIDDLE
1FBC3 a+hRIGHTaaNEGATIVE SQUARED QUESTION MARKaaSTICK FIGUREma WITH ARMS RAISEDnaLEANING LEFT
1FBC8 vbRIGHnaWITH DRESSaaWHITE UP-POINTING CHEVRON
1FBF0 aaSEGMENTED DIGIT ZEROqaONEqaTWOraHREEqaFOURraIVEqaSIXraEVENqaEIGHTqaNINE
2F800 aaCJK COMPATIBILITY IDEOGRAPH-2F800+ga1+ga2+ga3+ga4+ga5+ga6+ga7+ga8+ga9+gaA+gaB+gaC+gaD+gaE
2F80F +gaF+fa10+ga1+ga2+ga3+ga4+ga5+ga6+ga7+ga8+ga9+gaA+gaB+gaC+gaD+gaE+gaF+fa20+ga1+ga2+ga3+ga4
2F825 +ga5+ga6+ga7+ga8+ga9+gaA+gaB+gaC+gaD+gaE+gaF+fa30+ga1+ga2+ga3+ga4+ga5+ga6+ga7+ga8+ga9+gaA
2F83B +gaB+gaC+gaD+gaE+gaF+fa40+ga1+ga2+ga3+ga4+ga5+ga6+ga7+ga8+ga9+gaA+gaB+gaC+gaD+gaE+gaF+fa50
2F851 +ga1+ga2+ga3+ga4+ga5+ga6+ga7+ga8+ga9+gaA+gaB+gaC+gaD+gaE+gaF+fa60+ga1+ga2+ga3+ga4+ga5+ga6
2F867 +ga7+ga8+ga9+gaA+gaB+gaC+gaD+gaE+gaF+fa70+ga1+ga2+ga3+ga4+ga5+ga6+ga7+ga8+ga9+gaA+gaB+gaC
2F87D +gaD+gaE+gaF+fa80+ga1+ga2+ga3+ga4+ga5+ga6+ga7+ga8+ga9+gaA+gaB+gaC+gaD+gaE+gaF+fa90+ga1+ga2
2F893 +ga3+ga4+ga5+ga6+ga7+ga8+ga9+gaA+gaB+gaC+gaD+gaE+gaF+faA0+ga1+ga2+ga3+ga4+ga5+ga6+ga7+ga8
2F8A9 +ga9+gaA+gaB+gaC+gaD+gaE+gaF+faB0+ga1+ga2+ga3+ga4+ga5+ga6+ga7+ga8+ga9+gaA+gaB+gaC+gaD+gaE
2F8BF +gaF+faC0+ga1+ga2+ga3+ga4+ga5+ga6+ga7+ga8+ga9+gaA+gaB+gaC+gaD+gaE+gaF+faD0+ga1+ga2+ga3+ga4
2F8D5 +ga5+ga6+ga7+ga8+ga9+gaA+gaB+gaC+gaD+gaE+gaF+faE0+ga1+ga2+ga3+ga4+ga5+ga6+ga7+ga8+ga9+gaA
2F8EB +gaB+gaC+gaD+gaE+gaF+faF0+ga1+ga2+ga3+ga4+ga5+ga6+ga7+ga8+ga9+gaA+gaB+gaC+gaD+gaE+gaF+ea900
2F901 +ga1+ga2+ga3+ga4+ga5+ga6+ga7+ga8+ga9+gaA+gaB+gaC+gaD+gaE+gaF+fa10+ga1+ga2+ga3+ga4+ga5+ga6
2F917 +ga7+ga8+ga9+gaA+gaB+gaC+gaD+gaE+gaF+fa20+ga1+ga2+ga3+ga4+ga5+ga6+ga7+ga8+ga9+gaA+gaB+gaC
2F92D +gaD+gaE+gaF+fa30+ga1+ga2+ga3+ga4+ga5+ga6+ga7+ga8+ga9+gaA+gaB+gaC+gaD+gaE+gaF+fa40+ga1+ga2
2F943 +ga3+ga4+ga5+ga6+ga7+ga8+ga9+gaA+gaB+gaC+gaD+gaE+gaF+fa50+ga1+ga2+ga3+ga4+ga5+ga6+ga7+ga8
2F959 +ga9+gaA+gaB+gaC+gaD+gaE+gaF+fa60+ga1+ga2+ga3+ga4+ga5+ga6+ga7+ga8+ga9+gaA+gaB+gaC+gaD+gaE
2F96F +gaF+fa70+ga1+ga2+ga3+ga4+ga5+ga6+ga7+ga8+ga9+gaA+gaB+gaC+gaD+gaE+gaF+fa80+ga1+ga2+ga3+ga4
2F985 +ga5+ga6+ga7+ga8+ga9+gaA+gaB+gaC+gaD+gaE+gaF+fa90+ga1+ga2+ga3+ga4+ga5+ga6+ga7+ga8+ga9+gaA
2F99B +gaB+gaC+gaD+gaE+gaF+faA0+ga1+ga2+ga3+ga4+ga5+ga6+ga7+ga8+ga9+gaA+gaB+gaC+gaD+gaE+gaF+faB0
2F9B1 +ga1+ga2+ga3+ga4+ga5+ga6+ga7+ga8+ga9+gaA+gaB+gaC+gaD+gaE+gaF+faC0+ga1+ga2+ga3+ga4+ga5+ga6
2F9C7 +ga7+ga8+ga9+gaA+gaB+gaC+gaD+gaE+gaF+faD0+ga1+ga2+ga3+ga4+ga5+ga6+ga7+ga8+ga9+gaA+gaB+gaC
2F9DD +gaD+gaE+gaF+faE0+ga1+ga2+ga3+ga4+ga5+ga6+ga7+ga8+ga9+gaA+gaB+gaC+gaD+gaE+gaF+faF0+ga1+ga2
2F9F3 +ga3+ga4+ga5+ga6+ga7+ga8+ga9+gaA+gaB+gaC+gaD+gaE+gaF+eaA00+ga1+ga2+ga3+ga4+ga5+ga6+ga7+ga8
2FA09 +ga9+gaA+gaB+gaC+gaD+gaE+gaF+fa10+ga1+ga2+ga3+ga4+ga5+ga6+ga7+ga8+ga9+gaA+gaB+gaC+gaD
E0001 aaLANGUAGE TAG
E0020 aaTAG SPACEeaEXCLAMATION MARKekQUOTeaNUMBER SIGNegDOLLAefPERCENTeaAMPERSANDfaPOSTROPHE
E0028 eaLEFT PARENTHESISenRIGHeaASTERISKeaPLUS SIGNeaCOMMAeaHYPHEN-MINUSeaFULL STOPeaSOLIDUS
E0030 eaDIGIT ZEROkaONEkaTWOlaHREEkaFOURlaIVEkaSIXlaEVENkaEIGHTkaNINEeaCOLONefSEMIebLESS-THAN SIG
E003D efEQUALSefGREATER-THANeaQUESTION MARKeaCOMMERCIAL ATeaLATIN CAPITAL LETTER AzaBzaCzaDzaEzaF
E0047 zaGzaHzaIzaJzaKzaLzaMzaNzaOzaPzaQzaRzaSzaTzaUzaVzaWzaXzaYzaZfaEFT SQUARE BRACKET
E005C eaREVERSE SOLIDUSfaIGHT SQUARE BRACKETebCIRCUMFLEX ACCENeaLOW LINEeaGRAVE ACCENT
E0061 eaLATIN SMALL LETTER AxaBxaCxaDxaExaFxaGxaHxaIxaJxaKxaLxaMxaNxaOxaPxaQxaRxaSxaTxaUxaVxaWxaX
E0079 xaYxaZfaEFT CURLY BRACKETeaVERTICAL LINEeaRIGHT CURLY BRACKETeaTILDEaaCANCEL TAG
E0100 aaVARIATION SELECTOR-17ua8ua9ta20ua1ua2ua3ua4ua5ua6ua7ua8ua9ta30ua1ua2ua3ua4ua5ua6ua7ua8ua9
E0117 ta40ua1ua2ua3ua4ua5ua6ua7ua8ua9ta50ua1ua2ua3ua4ua5ua6ua7ua8ua9ta60ua1ua2ua3ua4ua5ua6ua7ua8
E0134 ua9ta70ua1ua2ua3ua4ua5ua6ua7ua8ua9ta80ua1ua2ua3ua4ua5ua6ua7ua8ua9ta90ua1ua2ua3ua4ua5ua6ua7
E0151 ua8ua9ta100va1va2va3va4va5va6va7va8va9ua10va1va2va3va4va5va6va7va8va9ua20va1va2va3va4va5va6
E016E va7va8va9ua30va1va2va3va4va5va6va7va8va9ua40va1va2va3va4va5va6va7va8va9ua50va1va2va3va4va5
E018B va6va7va8va9ua60va1va2va3va4va5va6va7va8va9ua70va1va2va3va4va5va6va7va8va9ua80va1va2va3va4
E01A8 va5va6va7va8va9ua90va1va2va3va4va5va6va7va8va9ta200va1va2va3va4va5va6va7va8va9ua10va1va2va3
E01C5 va4va5va6va7va8va9ua20va1va2va3va4va5va6va7va8va9ua30va1va2va3va4va5va6va7va8va9ua40va1va2
E01E2 va3va4va5va6va7va8va9ua50va1va2va3va4va5va6"

end FormRules.Unicode
