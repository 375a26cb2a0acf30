/-!
General categories, the two-letter classes into which Unicode sorts all characters. The table
lists the maximal runs of characters of one category; runs in which capital and small letters take
turns are one entry.
-/

namespace HostTypes

/-- The runs in ascending order, several to a row, each as its last code point in hexadecimal and
its category. `Lx` is a run of alternating capital and small letters that starts with a capital
one. -/
def categoryTable : List String :=
  [
    "1FCc 20Zs 23Po 24Sc 27Po 28Ps 29Pe 2APo 2BSm 2CPo 2DPd 2FPo 39Nd 3BPo 3ESm 40Po 5ALu 5BPs",
    "5CPo 5DPe 5ESk 5FPc 60Sk 7ALl 7BPs 7CSm 7DPe 7ESm 9FCc A0Zs A1Po A5Sc A6So A7Po A8Sk A9So",
    "AALo ABPi ACSm ADCf AESo AFSk B0So B1Sm B3No B4Sk B5Ll B7Po B8Sk B9No BALo BBPf BENo BFPo",
    "D6Lu D7Sm DELu F6Ll F7Sm FFLl 135Lx 136Lu 138Ll 146Lx 147Lu 149Ll 177Lx 179Lu 17ALl 17BLu",
    "17CLl 17DLu 180Ll 182Lu 183Ll 184Lu 185Ll 187Lu 188Ll 18BLu 18DLl 191Lu 192Ll 194Lu 195Ll",
    "198Lu 19BLl 19DLu 19ELl 1A0Lu 1A1Ll 1A5Lx 1A7Lu 1A8Ll 1A9Lu 1ABLl 1ACLu 1ADLl 1AFLu 1B0Ll",
    "1B3Lu 1B4Ll 1B5Lu 1B6Ll 1B8Lu 1BALl 1BBLo 1BCLu 1BFLl 1C3Lo 1C4Lu 1C5Lt 1C6Ll 1C7Lu 1C8Lt",
    "1C9Ll 1CALu 1CBLt 1CCLl 1DALx 1DBLu 1DDLl 1EDLx 1EELu 1F0Ll 1F1Lu 1F2Lt 1F3Ll 1F4Lu 1F5Ll",
    "1F8Lu 1F9Ll 231Lx 232Lu 239Ll 23BLu 23CLl 23ELu 240Ll 241Lu 242Ll 246Lu 247Ll 24DLx 24ELu",
    "293Ll 294Lo 2AFLl 2C1Lm 2C5Sk 2D1Lm 2DFSk 2E4Lm 2EBSk 2ECLm 2EDSk 2EELm 2FFSk 36FMn 373Lx",
    "374Lm 375Sk 376Lu 377Ll 379Cn 37ALm 37DLl 37EPo 37FLu 383Cn 385Sk 386Lu 387Po 38ALu 38BCn",
    "38CLu 38DCn 38FLu 390Ll 3A1Lu 3A2Cn 3ABLu 3CELl 3CFLu 3D1Ll 3D4Lu 3D7Ll 3EDLx 3EELu 3F3Ll",
    "3F4Lu 3F5Ll 3F6Sm 3F7Lu 3F8Ll 3FALu 3FCLl 42FLu 45FLl 481Lx 482So 487Mn 489Me 4BFLx 4C1Lu",
    "4C2Ll 4CCLx 4CDLu 4CFLl 52FLx 530Cn 556Lu 558Cn 559Lm 55FPo 588Ll 589Po 58APd 58CCn 58ESo",
    "58FSc 590Cn 5BDMn 5BEPd 5BFMn 5C0Po 5C2Mn 5C3Po 5C5Mn 5C6Po 5C7Mn 5CFCn 5EALo 5EECn 5F2Lo",
    "5F4Po 5FFCn 605Cf 608Sm 60APo 60BSc 60DPo 60FSo 61AMn 61BPo 61CCf 61FPo 63FLo 640Lm 64ALo",
    "65FMn 669Nd 66DPo 66FLo 670Mn 6D3Lo 6D4Po 6D5Lo 6DCMn 6DDCf 6DESo 6E4Mn 6E6Lm 6E8Mn 6E9So",
    "6EDMn 6EFLo 6F9Nd 6FCLo 6FESo 6FFLo 70DPo 70ECn 70FCf 710Lo 711Mn 72FLo 74AMn 74CCn 7A5Lo",
    "7B0Mn 7B1Lo 7BFCn 7C9Nd 7EALo 7F3Mn 7F5Lm 7F6So 7F9Po 7FALm 7FCCn 7FDMn 7FFSc 815Lo 819Mn",
    "81ALm 823Mn 824Lm 827Mn 828Lm 82DMn 82FCn 83EPo 83FCn 858Lo 85BMn 85DCn 85EPo 85FCn 86ALo",
    "86FCn 887Lo 888Sk 88ELo 88FCn 891Cf 897Cn 89FMn 8C8Lo 8C9Lm 8E1Mn 8E2Cf 902Mn 903Mc 939Lo",
    "93AMn 93BMc 93CMn 93DLo 940Mc 948Mn 94CMc 94DMn 94FMc 950Lo 957Mn 961Lo 963Mn 965Po 96FNd",
    "970Po 971Lm 980Lo 981Mn 983Mc 984Cn 98CLo 98ECn 990Lo 992Cn 9A8Lo 9A9Cn 9B0Lo 9B1Cn 9B2Lo",
    "9B5Cn 9B9Lo 9BBCn 9BCMn 9BDLo 9C0Mc 9C4Mn 9C6Cn 9C8Mc 9CACn 9CCMc 9CDMn 9CELo 9D6Cn 9D7Mc",
    "9DBCn 9DDLo 9DECn 9E1Lo 9E3Mn 9E5Cn 9EFNd 9F1Lo 9F3Sc 9F9No 9FASo 9FBSc 9FCLo 9FDPo 9FEMn",
    "A00Cn A02Mn A03Mc A04Cn A0ALo A0ECn A10Lo A12Cn A28Lo A29Cn A30Lo A31Cn A33Lo A34Cn A36Lo",
    "A37Cn A39Lo A3BCn A3CMn A3DCn A40Mc A42Mn A46Cn A48Mn A4ACn A4DMn A50Cn A51Mn A58Cn A5CLo",
    "A5DCn A5ELo A65Cn A6FNd A71Mn A74Lo A75Mn A76Po A80Cn A82Mn A83Mc A84Cn A8DLo A8ECn A91Lo",
    "A92Cn AA8Lo AA9Cn AB0Lo AB1Cn AB3Lo AB4Cn AB9Lo ABBCn ABCMn ABDLo AC0Mc AC5Mn AC6Cn AC8Mn",
    "AC9Mc ACACn ACCMc ACDMn ACFCn AD0Lo ADFCn AE1Lo AE3Mn AE5Cn AEFNd AF0Po AF1Sc AF8Cn AF9Lo",
    "AFFMn B00Cn B01Mn B03Mc B04Cn B0CLo B0ECn B10Lo B12Cn B28Lo B29Cn B30Lo B31Cn B33Lo B34Cn",
    "B39Lo B3BCn B3CMn B3DLo B3EMc B3FMn B40Mc B44Mn B46Cn B48Mc B4ACn B4CMc B4DMn B54Cn B56Mn",
    "B57Mc B5BCn B5DLo B5ECn B61Lo B63Mn B65Cn B6FNd B70So B71Lo B77No B81Cn B82Mn B83Lo B84Cn",
    "B8ALo B8DCn B90Lo B91Cn B95Lo B98Cn B9ALo B9BCn B9CLo B9DCn B9FLo BA2Cn BA4Lo BA7Cn BAALo",
    "BADCn BB9Lo BBDCn BBFMc BC0Mn BC2Mc BC5Cn BC8Mc BC9Cn BCCMc BCDMn BCFCn BD0Lo BD6Cn BD7Mc",
    "BE5Cn BEFNd BF2No BF8So BF9Sc BFASo BFFCn C00Mn C03Mc C04Mn C0CLo C0DCn C10Lo C11Cn C28Lo",
    "C29Cn C39Lo C3BCn C3CMn C3DLo C40Mn C44Mc C45Cn C48Mn C49Cn C4DMn C54Cn C56Mn C57Cn C5ALo",
    "C5CCn C5DLo C5FCn C61Lo C63Mn C65Cn C6FNd C76Cn C77Po C7ENo C7FSo C80Lo C81Mn C83Mc C84Po",
    "C8CLo C8DCn C90Lo C91Cn CA8Lo CA9Cn CB3Lo CB4Cn CB9Lo CBBCn CBCMn CBDLo CBEMc CBFMn CC4Mc",
    "CC5Cn CC6Mn CC8Mc CC9Cn CCBMc CCDMn CD4Cn CD6Mc CDCCn CDELo CDFCn CE1Lo CE3Mn CE5Cn CEFNd",
    "CF0Cn CF2Lo CF3Mc CFFCn D01Mn D03Mc D0CLo D0DCn D10Lo D11Cn D3ALo D3CMn D3DLo D40Mc D44Mn",
    "D45Cn D48Mc D49Cn D4CMc D4DMn D4ELo D4FSo D53Cn D56Lo D57Mc D5ENo D61Lo D63Mn D65Cn D6FNd",
    "D78No D79So D7FLo D80Cn D81Mn D83Mc D84Cn D96Lo D99Cn DB1Lo DB2Cn DBBLo DBCCn DBDLo DBFCn",
    "DC6Lo DC9Cn DCAMn DCECn DD1Mc DD4Mn DD5Cn DD6Mn DD7Cn DDFMc DE5Cn DEFNd DF1Cn DF3Mc DF4Po",
    "E00Cn E30Lo E31Mn E33Lo E3AMn E3ECn E3FSc E45Lo E46Lm E4EMn E4FPo E59Nd E5BPo E80Cn E82Lo",
    "E83Cn E84Lo E85Cn E8ALo E8BCn EA3Lo EA4Cn EA5Lo EA6Cn EB0Lo EB1Mn EB3Lo EBCMn EBDLo EBFCn",
    "EC4Lo EC5Cn EC6Lm EC7Cn ECEMn ECFCn ED9Nd EDBCn EDFLo EFFCn F00Lo F03So F12Po F13So F14Po",
    "F17So F19Mn F1FSo F29Nd F33No F34So F35Mn F36So F37Mn F38So F39Mn F3APs F3BPe F3CPs F3DPe",
    "F3FMc F47Lo F48Cn F6CLo F70Cn F7EMn F7FMc F84Mn F85Po F87Mn F8CLo F97Mn F98Cn FBCMn FBDCn",
    "FC5So FC6Mn FCCSo FCDCn FCFSo FD4Po FD8So FDAPo FFFCn 102ALo 102CMc 1030Mn 1031Mc 1037Mn",
    "1038Mc 103AMn 103CMc 103EMn 103FLo 1049Nd 104FPo 1055Lo 1057Mc 1059Mn 105DLo 1060Mn 1061Lo",
    "1064Mc 1066Lo 106DMc 1070Lo 1074Mn 1081Lo 1082Mn 1084Mc 1086Mn 108CMc 108DMn 108ELo 108FMc",
    "1099Nd 109CMc 109DMn 109FSo 10C5Lu 10C6Cn 10C7Lu 10CCCn 10CDLu 10CFCn 10FALl 10FBPo 10FCLm",
    "10FFLl 1248Lo 1249Cn 124DLo 124FCn 1256Lo 1257Cn 1258Lo 1259Cn 125DLo 125FCn 1288Lo 1289Cn",
    "128DLo 128FCn 12B0Lo 12B1Cn 12B5Lo 12B7Cn 12BELo 12BFCn 12C0Lo 12C1Cn 12C5Lo 12C7Cn 12D6Lo",
    "12D7Cn 1310Lo 1311Cn 1315Lo 1317Cn 135ALo 135CCn 135FMn 1368Po 137CNo 137FCn 138FLo 1399So",
    "139FCn 13F5Lu 13F7Cn 13FDLl 13FFCn 1400Pd 166CLo 166DSo 166EPo 167FLo 1680Zs 169ALo 169BPs",
    "169CPe 169FCn 16EALo 16EDPo 16F0Nl 16F8Lo 16FFCn 1711Lo 1714Mn 1715Mc 171ECn 1731Lo 1733Mn",
    "1734Mc 1736Po 173FCn 1751Lo 1753Mn 175FCn 176CLo 176DCn 1770Lo 1771Cn 1773Mn 177FCn 17B3Lo",
    "17B5Mn 17B6Mc 17BDMn 17C5Mc 17C6Mn 17C8Mc 17D3Mn 17D6Po 17D7Lm 17DAPo 17DBSc 17DCLo 17DDMn",
    "17DFCn 17E9Nd 17EFCn 17F9No 17FFCn 1805Po 1806Pd 180APo 180DMn 180ECf 180FMn 1819Nd 181FCn",
    "1842Lo 1843Lm 1878Lo 187FCn 1884Lo 1886Mn 18A8Lo 18A9Mn 18AALo 18AFCn 18F5Lo 18FFCn 191ELo",
    "191FCn 1922Mn 1926Mc 1928Mn 192BMc 192FCn 1931Mc 1932Mn 1938Mc 193BMn 193FCn 1940So 1943Cn",
    "1945Po 194FNd 196DLo 196FCn 1974Lo 197FCn 19ABLo 19AFCn 19C9Lo 19CFCn 19D9Nd 19DANo 19DDCn",
    "19FFSo 1A16Lo 1A18Mn 1A1AMc 1A1BMn 1A1DCn 1A1FPo 1A54Lo 1A55Mc 1A56Mn 1A57Mc 1A5EMn 1A5FCn",
    "1A60Mn 1A61Mc 1A62Mn 1A64Mc 1A6CMn 1A72Mc 1A7CMn 1A7ECn 1A7FMn 1A89Nd 1A8FCn 1A99Nd 1A9FCn",
    "1AA6Po 1AA7Lm 1AADPo 1AAFCn 1ABDMn 1ABEMe 1ACEMn 1AFFCn 1B03Mn 1B04Mc 1B33Lo 1B34Mn 1B35Mc",
    "1B3AMn 1B3BMc 1B3CMn 1B41Mc 1B42Mn 1B44Mc 1B4CLo 1B4FCn 1B59Nd 1B60Po 1B6ASo 1B73Mn 1B7CSo",
    "1B7EPo 1B7FCn 1B81Mn 1B82Mc 1BA0Lo 1BA1Mc 1BA5Mn 1BA7Mc 1BA9Mn 1BAAMc 1BADMn 1BAFLo 1BB9Nd",
    "1BE5Lo 1BE6Mn 1BE7Mc 1BE9Mn 1BECMc 1BEDMn 1BEEMc 1BF1Mn 1BF3Mc 1BFBCn 1BFFPo 1C23Lo 1C2BMc",
    "1C33Mn 1C35Mc 1C37Mn 1C3ACn 1C3FPo 1C49Nd 1C4CCn 1C4FLo 1C59Nd 1C77Lo 1C7DLm 1C7FPo 1C88Ll",
    "1C8FCn 1CBALu 1CBCCn 1CBFLu 1CC7Po 1CCFCn 1CD2Mn 1CD3Po 1CE0Mn 1CE1Mc 1CE8Mn 1CECLo 1CEDMn",
    "1CF3Lo 1CF4Mn 1CF6Lo 1CF7Mc 1CF9Mn 1CFALo 1CFFCn 1D2BLl 1D6ALm 1D77Ll 1D78Lm 1D9ALl 1DBFLm",
    "1DFFMn 1E93Lx 1E94Lu 1E9DLl 1EFDLx 1EFELu 1F07Ll 1F0FLu 1F15Ll 1F17Cn 1F1DLu 1F1FCn 1F27Ll",
    "1F2FLu 1F37Ll 1F3FLu 1F45Ll 1F47Cn 1F4DLu 1F4FCn 1F57Ll 1F58Cn 1F59Lu 1F5ACn 1F5BLu 1F5CCn",
    "1F5DLu 1F5ECn 1F5FLu 1F67Ll 1F6FLu 1F7DLl 1F7FCn 1F87Ll 1F8FLt 1F97Ll 1F9FLt 1FA7Ll 1FAFLt",
    "1FB4Ll 1FB5Cn 1FB7Ll 1FBBLu 1FBCLt 1FBDSk 1FBELl 1FC1Sk 1FC4Ll 1FC5Cn 1FC7Ll 1FCBLu 1FCCLt",
    "1FCFSk 1FD3Ll 1FD5Cn 1FD7Ll 1FDBLu 1FDCCn 1FDFSk 1FE7Ll 1FECLu 1FEFSk 1FF1Cn 1FF4Ll 1FF5Cn",
    "1FF7Ll 1FFBLu 1FFCLt 1FFESk 1FFFCn 200AZs 200FCf 2015Pd 2017Po 2018Pi 2019Pf 201APs 201CPi",
    "201DPf 201EPs 201FPi 2027Po 2028Zl 2029Zp 202ECf 202FZs 2038Po 2039Pi 203APf 203EPo 2040Pc",
    "2043Po 2044Sm 2045Ps 2046Pe 2051Po 2052Sm 2053Po 2054Pc 205EPo 205FZs 2064Cf 2065Cn 206FCf",
    "2070No 2071Lm 2073Cn 2079No 207CSm 207DPs 207EPe 207FLm 2089No 208CSm 208DPs 208EPe 208FCn",
    "209CLm 209FCn 20C0Sc 20CFCn 20DCMn 20E0Me 20E1Mn 20E4Me 20F0Mn 20FFCn 2101So 2102Lu 2106So",
    "2107Lu 2109So 210ALl 210DLu 210FLl 2112Lu 2113Ll 2114So 2115Lu 2117So 2118Sm 211DLu 2123So",
    "2124Lu 2125So 2126Lu 2127So 2128Lu 2129So 212DLu 212ESo 212FLl 2133Lu 2134Ll 2138Lo 2139Ll",
    "213BSo 213DLl 213FLu 2144Sm 2145Lu 2149Ll 214ASo 214BSm 214DSo 214ELl 214FSo 215FNo 2182Nl",
    "2183Lu 2184Ll 2188Nl 2189No 218BSo 218FCn 2194Sm 2199So 219BSm 219FSo 21A0Sm 21A2So 21A3Sm",
    "21A5So 21A6Sm 21ADSo 21AESm 21CDSo 21CFSm 21D1So 21D2Sm 21D3So 21D4Sm 21F3So 22FFSm 2307So",
    "2308Ps 2309Pe 230APs 230BPe 231FSo 2321Sm 2328So 2329Ps 232APe 237BSo 237CSm 239ASo 23B3Sm",
    "23DBSo 23E1Sm 2426So 243FCn 244ASo 245FCn 249BNo 24E9So 24FFNo 25B6So 25B7Sm 25C0So 25C1Sm",
    "25F7So 25FFSm 266ESo 266FSm 2767So 2768Ps 2769Pe 276APs 276BPe 276CPs 276DPe 276EPs 276FPe",
    "2770Ps 2771Pe 2772Ps 2773Pe 2774Ps 2775Pe 2793No 27BFSo 27C4Sm 27C5Ps 27C6Pe 27E5Sm 27E6Ps",
    "27E7Pe 27E8Ps 27E9Pe 27EAPs 27EBPe 27ECPs 27EDPe 27EEPs 27EFPe 27FFSm 28FFSo 2982Sm 2983Ps",
    "2984Pe 2985Ps 2986Pe 2987Ps 2988Pe 2989Ps 298APe 298BPs 298CPe 298DPs 298EPe 298FPs 2990Pe",
    "2991Ps 2992Pe 2993Ps 2994Pe 2995Ps 2996Pe 2997Ps 2998Pe 29D7Sm 29D8Ps 29D9Pe 29DAPs 29DBPe",
    "29FBSm 29FCPs 29FDPe 2AFFSm 2B2FSo 2B44Sm 2B46So 2B4CSm 2B73So 2B75Cn 2B95So 2B96Cn 2BFFSo",
    "2C2FLu 2C5FLl 2C60Lu 2C61Ll 2C64Lu 2C66Ll 2C6CLx 2C70Lu 2C71Ll 2C72Lu 2C74Ll 2C75Lu 2C7BLl",
    "2C7DLm 2C80Lu 2C81Ll 2CE1Lx 2CE2Lu 2CE4Ll 2CEASo 2CEELx 2CF1Mn 2CF2Lu 2CF3Ll 2CF8Cn 2CFCPo",
    "2CFDNo 2CFFPo 2D25Ll 2D26Cn 2D27Ll 2D2CCn 2D2DLl 2D2FCn 2D67Lo 2D6ECn 2D6FLm 2D70Po 2D7ECn",
    "2D7FMn 2D96Lo 2D9FCn 2DA6Lo 2DA7Cn 2DAELo 2DAFCn 2DB6Lo 2DB7Cn 2DBELo 2DBFCn 2DC6Lo 2DC7Cn",
    "2DCELo 2DCFCn 2DD6Lo 2DD7Cn 2DDELo 2DDFCn 2DFFMn 2E01Po 2E02Pi 2E03Pf 2E04Pi 2E05Pf 2E08Po",
    "2E09Pi 2E0APf 2E0BPo 2E0CPi 2E0DPf 2E16Po 2E17Pd 2E19Po 2E1APd 2E1BPo 2E1CPi 2E1DPf 2E1FPo",
    "2E20Pi 2E21Pf 2E22Ps 2E23Pe 2E24Ps 2E25Pe 2E26Ps 2E27Pe 2E28Ps 2E29Pe 2E2EPo 2E2FLm 2E39Po",
    "2E3BPd 2E3FPo 2E40Pd 2E41Po 2E42Ps 2E4FPo 2E51So 2E54Po 2E55Ps 2E56Pe 2E57Ps 2E58Pe 2E59Ps",
    "2E5APe 2E5BPs 2E5CPe 2E5DPd 2E7FCn 2E99So 2E9ACn 2EF3So 2EFFCn 2FD5So 2FEFCn 2FFBSo 2FFFCn",
    "3000Zs 3003Po 3004So 3005Lm 3006Lo 3007Nl 3008Ps 3009Pe 300APs 300BPe 300CPs 300DPe 300EPs",
    "300FPe 3010Ps 3011Pe 3013So 3014Ps 3015Pe 3016Ps 3017Pe 3018Ps 3019Pe 301APs 301BPe 301CPd",
    "301DPs 301FPe 3020So 3029Nl 302DMn 302FMc 3030Pd 3035Lm 3037So 303ANl 303BLm 303CLo 303DPo",
    "303FSo 3040Cn 3096Lo 3098Cn 309AMn 309CSk 309ELm 309FLo 30A0Pd 30FALo 30FBPo 30FELm 30FFLo",
    "3104Cn 312FLo 3130Cn 318ELo 318FCn 3191So 3195No 319FSo 31BFLo 31E3So 31EFCn 31FFLo 321ESo",
    "321FCn 3229No 3247So 324FNo 3250So 325FNo 327FSo 3289No 32B0So 32BFNo 33FFSo 4DBFLo 4DFFSo",
    "A014Lo A015Lm A48CLo A48FCn A4C6So A4CFCn A4F7Lo A4FDLm A4FFPo A60BLo A60CLm A60FPo A61FLo",
    "A629Nd A62BLo A63FCn A66DLx A66ELo A66FMn A672Me A673Po A67DMn A67EPo A67FLm A69BLx A69DLm",
    "A69FMn A6E5Lo A6EFNl A6F1Mn A6F7Po A6FFCn A716Sk A71FLm A721Sk A72DLx A72ELu A731Ll A76FLx",
    "A770Lm A778Ll A77CLx A77ELu A77FLl A787Lx A788Lm A78ASk A78ELx A78FLo A790Lu A791Ll A792Lu",
    "A795Ll A7A9Lx A7AELu A7AFLl A7B4Lu A7B5Ll A7C3Lx A7C7Lu A7C8Ll A7C9Lu A7CALl A7CFCn A7D0Lu",
    "A7D1Ll A7D2Cn A7D3Ll A7D4Cn A7D5Ll A7D9Lx A7F1Cn A7F4Lm A7F5Lu A7F6Ll A7F7Lo A7F9Lm A7FALl",
    "A801Lo A802Mn A805Lo A806Mn A80ALo A80BMn A822Lo A824Mc A826Mn A827Mc A82BSo A82CMn A82FCn",
    "A835No A837So A838Sc A839So A83FCn A873Lo A877Po A87FCn A881Mc A8B3Lo A8C3Mc A8C5Mn A8CDCn",
    "A8CFPo A8D9Nd A8DFCn A8F1Mn A8F7Lo A8FAPo A8FBLo A8FCPo A8FELo A8FFMn A909Nd A925Lo A92DMn",
    "A92FPo A946Lo A951Mn A953Mc A95ECn A95FPo A97CLo A97FCn A982Mn A983Mc A9B2Lo A9B3Mn A9B5Mc",
    "A9B9Mn A9BBMc A9BDMn A9C0Mc A9CDPo A9CECn A9CFLm A9D9Nd A9DDCn A9DFPo A9E4Lo A9E5Mn A9E6Lm",
    "A9EFLo A9F9Nd A9FELo A9FFCn AA28Lo AA2EMn AA30Mc AA32Mn AA34Mc AA36Mn AA3FCn AA42Lo AA43Mn",
    "AA4BLo AA4CMn AA4DMc AA4FCn AA59Nd AA5BCn AA5FPo AA6FLo AA70Lm AA76Lo AA79So AA7ALo AA7BMc",
    "AA7CMn AA7DMc AAAFLo AAB0Mn AAB1Lo AAB4Mn AAB6Lo AAB8Mn AABDLo AABFMn AAC0Lo AAC1Mn AAC2Lo",
    "AADACn AADCLo AADDLm AADFPo AAEALo AAEBMc AAEDMn AAEFMc AAF1Po AAF2Lo AAF4Lm AAF5Mc AAF6Mn",
    "AB00Cn AB06Lo AB08Cn AB0ELo AB10Cn AB16Lo AB1FCn AB26Lo AB27Cn AB2ELo AB2FCn AB5ALl AB5BSk",
    "AB5FLm AB68Ll AB69Lm AB6BSk AB6FCn ABBFLl ABE2Lo ABE4Mc ABE5Mn ABE7Mc ABE8Mn ABEAMc ABEBPo",
    "ABECMc ABEDMn ABEFCn ABF9Nd ABFFCn D7A3Lo D7AFCn D7C6Lo D7CACn D7FBLo D7FFCn DFFFCs F8FFCo",
    "FA6DLo FA6FCn FAD9Lo FAFFCn FB06Ll FB12Cn FB17Ll FB1CCn FB1DLo FB1EMn FB28Lo FB29Sm FB36Lo",
    "FB37Cn FB3CLo FB3DCn FB3ELo FB3FCn FB41Lo FB42Cn FB44Lo FB45Cn FBB1Lo FBC2Sk FBD2Cn FD3DLo",
    "FD3EPe FD3FPs FD4FSo FD8FLo FD91Cn FDC7Lo FDCECn FDCFSo FDEFCn FDFBLo FDFCSc FDFFSo FE0FMn",
    "FE16Po FE17Ps FE18Pe FE19Po FE1FCn FE2FMn FE30Po FE32Pd FE34Pc FE35Ps FE36Pe FE37Ps FE38Pe",
    "FE39Ps FE3APe FE3BPs FE3CPe FE3DPs FE3EPe FE3FPs FE40Pe FE41Ps FE42Pe FE43Ps FE44Pe FE46Po",
    "FE47Ps FE48Pe FE4CPo FE4FPc FE52Po FE53Cn FE57Po FE58Pd FE59Ps FE5APe FE5BPs FE5CPe FE5DPs",
    "FE5EPe FE61Po FE62Sm FE63Pd FE66Sm FE67Cn FE68Po FE69Sc FE6BPo FE6FCn FE74Lo FE75Cn FEFCLo",
    "FEFECn FEFFCf FF00Cn FF03Po FF04Sc FF07Po FF08Ps FF09Pe FF0APo FF0BSm FF0CPo FF0DPd FF0FPo",
    "FF19Nd FF1BPo FF1ESm FF20Po FF3ALu FF3BPs FF3CPo FF3DPe FF3ESk FF3FPc FF40Sk FF5ALl FF5BPs",
    "FF5CSm FF5DPe FF5ESm FF5FPs FF60Pe FF61Po FF62Ps FF63Pe FF65Po FF6FLo FF70Lm FF9DLo FF9FLm",
    "FFBELo FFC1Cn FFC7Lo FFC9Cn FFCFLo FFD1Cn FFD7Lo FFD9Cn FFDCLo FFDFCn FFE1Sc FFE2Sm FFE3Sk",
    "FFE4So FFE6Sc FFE7Cn FFE8So FFECSm FFEESo FFF8Cn FFFBCf FFFDSo FFFFCn 1000BLo 1000CCn",
    "10026Lo 10027Cn 1003ALo 1003BCn 1003DLo 1003ECn 1004DLo 1004FCn 1005DLo 1007FCn 100FALo",
    "100FFCn 10102Po 10106Cn 10133No 10136Cn 1013FSo 10174Nl 10178No 10189So 1018BNo 1018ESo",
    "1018FCn 1019CSo 1019FCn 101A0So 101CFCn 101FCSo 101FDMn 1027FCn 1029CLo 1029FCn 102D0Lo",
    "102DFCn 102E0Mn 102FBNo 102FFCn 1031FLo 10323No 1032CCn 10340Lo 10341Nl 10349Lo 1034ANl",
    "1034FCn 10375Lo 1037AMn 1037FCn 1039DLo 1039ECn 1039FPo 103C3Lo 103C7Cn 103CFLo 103D0Po",
    "103D5Nl 103FFCn 10427Lu 1044FLl 1049DLo 1049FCn 104A9Nd 104AFCn 104D3Lu 104D7Cn 104FBLl",
    "104FFCn 10527Lo 1052FCn 10563Lo 1056ECn 1056FPo 1057ALu 1057BCn 1058ALu 1058BCn 10592Lu",
    "10593Cn 10595Lu 10596Cn 105A1Ll 105A2Cn 105B1Ll 105B2Cn 105B9Ll 105BACn 105BCLl 105FFCn",
    "10736Lo 1073FCn 10755Lo 1075FCn 10767Lo 1077FCn 10785Lm 10786Cn 107B0Lm 107B1Cn 107BALm",
    "107FFCn 10805Lo 10807Cn 10808Lo 10809Cn 10835Lo 10836Cn 10838Lo 1083BCn 1083CLo 1083ECn",
    "10855Lo 10856Cn 10857Po 1085FNo 10876Lo 10878So 1087FNo 1089ELo 108A6Cn 108AFNo 108DFCn",
    "108F2Lo 108F3Cn 108F5Lo 108FACn 108FFNo 10915Lo 1091BNo 1091ECn 1091FPo 10939Lo 1093ECn",
    "1093FPo 1097FCn 109B7Lo 109BBCn 109BDNo 109BFLo 109CFNo 109D1Cn 109FFNo 10A00Lo 10A03Mn",
    "10A04Cn 10A06Mn 10A0BCn 10A0FMn 10A13Lo 10A14Cn 10A17Lo 10A18Cn 10A35Lo 10A37Cn 10A3AMn",
    "10A3ECn 10A3FMn 10A48No 10A4FCn 10A58Po 10A5FCn 10A7CLo 10A7ENo 10A7FPo 10A9CLo 10A9FNo",
    "10ABFCn 10AC7Lo 10AC8So 10AE4Lo 10AE6Mn 10AEACn 10AEFNo 10AF6Po 10AFFCn 10B35Lo 10B38Cn",
    "10B3FPo 10B55Lo 10B57Cn 10B5FNo 10B72Lo 10B77Cn 10B7FNo 10B91Lo 10B98Cn 10B9CPo 10BA8Cn",
    "10BAFNo 10BFFCn 10C48Lo 10C7FCn 10CB2Lu 10CBFCn 10CF2Ll 10CF9Cn 10CFFNo 10D23Lo 10D27Mn",
    "10D2FCn 10D39Nd 10E5FCn 10E7ENo 10E7FCn 10EA9Lo 10EAACn 10EACMn 10EADPd 10EAFCn 10EB1Lo",
    "10EFCCn 10EFFMn 10F1CLo 10F26No 10F27Lo 10F2FCn 10F45Lo 10F50Mn 10F54No 10F59Po 10F6FCn",
    "10F81Lo 10F85Mn 10F89Po 10FAFCn 10FC4Lo 10FCBNo 10FDFCn 10FF6Lo 10FFFCn 11000Mc 11001Mn",
    "11002Mc 11037Lo 11046Mn 1104DPo 11051Cn 11065No 1106FNd 11070Mn 11072Lo 11074Mn 11075Lo",
    "1107ECn 11081Mn 11082Mc 110AFLo 110B2Mc 110B6Mn 110B8Mc 110BAMn 110BCPo 110BDCf 110C1Po",
    "110C2Mn 110CCCn 110CDCf 110CFCn 110E8Lo 110EFCn 110F9Nd 110FFCn 11102Mn 11126Lo 1112BMn",
    "1112CMc 11134Mn 11135Cn 1113FNd 11143Po 11144Lo 11146Mc 11147Lo 1114FCn 11172Lo 11173Mn",
    "11175Po 11176Lo 1117FCn 11181Mn 11182Mc 111B2Lo 111B5Mc 111BEMn 111C0Mc 111C4Lo 111C8Po",
    "111CCMn 111CDPo 111CEMc 111CFMn 111D9Nd 111DALo 111DBPo 111DCLo 111DFPo 111E0Cn 111F4No",
    "111FFCn 11211Lo 11212Cn 1122BLo 1122EMc 11231Mn 11233Mc 11234Mn 11235Mc 11237Mn 1123DPo",
    "1123EMn 11240Lo 11241Mn 1127FCn 11286Lo 11287Cn 11288Lo 11289Cn 1128DLo 1128ECn 1129DLo",
    "1129ECn 112A8Lo 112A9Po 112AFCn 112DELo 112DFMn 112E2Mc 112EAMn 112EFCn 112F9Nd 112FFCn",
    "11301Mn 11303Mc 11304Cn 1130CLo 1130ECn 11310Lo 11312Cn 11328Lo 11329Cn 11330Lo 11331Cn",
    "11333Lo 11334Cn 11339Lo 1133ACn 1133CMn 1133DLo 1133FMc 11340Mn 11344Mc 11346Cn 11348Mc",
    "1134ACn 1134DMc 1134FCn 11350Lo 11356Cn 11357Mc 1135CCn 11361Lo 11363Mc 11365Cn 1136CMn",
    "1136FCn 11374Mn 113FFCn 11434Lo 11437Mc 1143FMn 11441Mc 11444Mn 11445Mc 11446Mn 1144ALo",
    "1144FPo 11459Nd 1145BPo 1145CCn 1145DPo 1145EMn 11461Lo 1147FCn 114AFLo 114B2Mc 114B8Mn",
    "114B9Mc 114BAMn 114BEMc 114C0Mn 114C1Mc 114C3Mn 114C5Lo 114C6Po 114C7Lo 114CFCn 114D9Nd",
    "1157FCn 115AELo 115B1Mc 115B5Mn 115B7Cn 115BBMc 115BDMn 115BEMc 115C0Mn 115D7Po 115DBLo",
    "115DDMn 115FFCn 1162FLo 11632Mc 1163AMn 1163CMc 1163DMn 1163EMc 11640Mn 11643Po 11644Lo",
    "1164FCn 11659Nd 1165FCn 1166CPo 1167FCn 116AALo 116ABMn 116ACMc 116ADMn 116AFMc 116B5Mn",
    "116B6Mc 116B7Mn 116B8Lo 116B9Po 116BFCn 116C9Nd 116FFCn 1171ALo 1171CCn 1171FMn 11721Mc",
    "11725Mn 11726Mc 1172BMn 1172FCn 11739Nd 1173BNo 1173EPo 1173FSo 11746Lo 117FFCn 1182BLo",
    "1182EMc 11837Mn 11838Mc 1183AMn 1183BPo 1189FCn 118BFLu 118DFLl 118E9Nd 118F2No 118FECn",
    "11906Lo 11908Cn 11909Lo 1190BCn 11913Lo 11914Cn 11916Lo 11917Cn 1192FLo 11935Mc 11936Cn",
    "11938Mc 1193ACn 1193CMn 1193DMc 1193EMn 1193FLo 11940Mc 11941Lo 11942Mc 11943Mn 11946Po",
    "1194FCn 11959Nd 1199FCn 119A7Lo 119A9Cn 119D0Lo 119D3Mc 119D7Mn 119D9Cn 119DBMn 119DFMc",
    "119E0Mn 119E1Lo 119E2Po 119E3Lo 119E4Mc 119FFCn 11A00Lo 11A0AMn 11A32Lo 11A38Mn 11A39Mc",
    "11A3ALo 11A3EMn 11A46Po 11A47Mn 11A4FCn 11A50Lo 11A56Mn 11A58Mc 11A5BMn 11A89Lo 11A96Mn",
    "11A97Mc 11A99Mn 11A9CPo 11A9DLo 11AA2Po 11AAFCn 11AF8Lo 11AFFCn 11B09Po 11BFFCn 11C08Lo",
    "11C09Cn 11C2ELo 11C2FMc 11C36Mn 11C37Cn 11C3DMn 11C3EMc 11C3FMn 11C40Lo 11C45Po 11C4FCn",
    "11C59Nd 11C6CNo 11C6FCn 11C71Po 11C8FLo 11C91Cn 11CA7Mn 11CA8Cn 11CA9Mc 11CB0Mn 11CB1Mc",
    "11CB3Mn 11CB4Mc 11CB6Mn 11CFFCn 11D06Lo 11D07Cn 11D09Lo 11D0ACn 11D30Lo 11D36Mn 11D39Cn",
    "11D3AMn 11D3BCn 11D3DMn 11D3ECn 11D45Mn 11D46Lo 11D47Mn 11D4FCn 11D59Nd 11D5FCn 11D65Lo",
    "11D66Cn 11D68Lo 11D69Cn 11D89Lo 11D8EMc 11D8FCn 11D91Mn 11D92Cn 11D94Mc 11D95Mn 11D96Mc",
    "11D97Mn 11D98Lo 11D9FCn 11DA9Nd 11EDFCn 11EF2Lo 11EF4Mn 11EF6Mc 11EF8Po 11EFFCn 11F01Mn",
    "11F02Lo 11F03Mc 11F10Lo 11F11Cn 11F33Lo 11F35Mc 11F3AMn 11F3DCn 11F3FMc 11F40Mn 11F41Mc",
    "11F42Mn 11F4FPo 11F59Nd 11FAFCn 11FB0Lo 11FBFCn 11FD4No 11FDCSo 11FE0Sc 11FF1So 11FFECn",
    "11FFFPo 12399Lo 123FFCn 1246ENl 1246FCn 12474Po 1247FCn 12543Lo 12F8FCn 12FF0Lo 12FF2Po",
    "12FFFCn 1342FLo 1343FCf 13440Mn 13446Lo 13455Mn 143FFCn 14646Lo 167FFCn 16A38Lo 16A3FCn",
    "16A5ELo 16A5FCn 16A69Nd 16A6DCn 16A6FPo 16ABELo 16ABFCn 16AC9Nd 16ACFCn 16AEDLo 16AEFCn",
    "16AF4Mn 16AF5Po 16AFFCn 16B2FLo 16B36Mn 16B3BPo 16B3FSo 16B43Lm 16B44Po 16B45So 16B4FCn",
    "16B59Nd 16B5ACn 16B61No 16B62Cn 16B77Lo 16B7CCn 16B8FLo 16E3FCn 16E5FLu 16E7FLl 16E96No",
    "16E9APo 16EFFCn 16F4ALo 16F4ECn 16F4FMn 16F50Lo 16F87Mc 16F8ECn 16F92Mn 16F9FLm 16FDFCn",
    "16FE1Lm 16FE2Po 16FE3Lm 16FE4Mn 16FEFCn 16FF1Mc 16FFFCn 187F7Lo 187FFCn 18CD5Lo 18CFFCn",
    "18D08Lo 1AFEFCn 1AFF3Lm 1AFF4Cn 1AFFBLm 1AFFCCn 1AFFELm 1AFFFCn 1B122Lo 1B131Cn 1B132Lo",
    "1B14FCn 1B152Lo 1B154Cn 1B155Lo 1B163Cn 1B167Lo 1B16FCn 1B2FBLo 1BBFFCn 1BC6ALo 1BC6FCn",
    "1BC7CLo 1BC7FCn 1BC88Lo 1BC8FCn 1BC99Lo 1BC9BCn 1BC9CSo 1BC9EMn 1BC9FPo 1BCA3Cf 1CEFFCn",
    "1CF2DMn 1CF2FCn 1CF46Mn 1CF4FCn 1CFC3So 1CFFFCn 1D0F5So 1D0FFCn 1D126So 1D128Cn 1D164So",
    "1D166Mc 1D169Mn 1D16CSo 1D172Mc 1D17ACf 1D182Mn 1D184So 1D18BMn 1D1A9So 1D1ADMn 1D1EASo",
    "1D1FFCn 1D241So 1D244Mn 1D245So 1D2BFCn 1D2D3No 1D2DFCn 1D2F3No 1D2FFCn 1D356So 1D35FCn",
    "1D378No 1D3FFCn 1D419Lu 1D433Ll 1D44DLu 1D454Ll 1D455Cn 1D467Ll 1D481Lu 1D49BLl 1D49CLu",
    "1D49DCn 1D49FLu 1D4A1Cn 1D4A2Lu 1D4A4Cn 1D4A6Lu 1D4A8Cn 1D4ACLu 1D4ADCn 1D4B5Lu 1D4B9Ll",
    "1D4BACn 1D4BBLl 1D4BCCn 1D4C3Ll 1D4C4Cn 1D4CFLl 1D4E9Lu 1D503Ll 1D505Lu 1D506Cn 1D50ALu",
    "1D50CCn 1D514Lu 1D515Cn 1D51CLu 1D51DCn 1D537Ll 1D539Lu 1D53ACn 1D53ELu 1D53FCn 1D544Lu",
    "1D545Cn 1D546Lu 1D549Cn 1D550Lu 1D551Cn 1D56BLl 1D585Lu 1D59FLl 1D5B9Lu 1D5D3Ll 1D5EDLu",
    "1D607Ll 1D621Lu 1D63BLl 1D655Lu 1D66FLl 1D689Lu 1D6A5Ll 1D6A7Cn 1D6C0Lu 1D6C1Sm 1D6DALl",
    "1D6DBSm 1D6E1Ll 1D6FALu 1D6FBSm 1D714Ll 1D715Sm 1D71BLl 1D734Lu 1D735Sm 1D74ELl 1D74FSm",
    "1D755Ll 1D76ELu 1D76FSm 1D788Ll 1D789Sm 1D78FLl 1D7A8Lu 1D7A9Sm 1D7C2Ll 1D7C3Sm 1D7C9Ll",
    "1D7CALu 1D7CBLl 1D7CDCn 1D7FFNd 1D9FFSo 1DA36Mn 1DA3ASo 1DA6CMn 1DA74So 1DA75Mn 1DA83So",
    "1DA84Mn 1DA86So 1DA8BPo 1DA9ACn 1DA9FMn 1DAA0Cn 1DAAFMn 1DEFFCn 1DF09Ll 1DF0ALo 1DF1ELl",
    "1DF24Cn 1DF2ALl 1DFFFCn 1E006Mn 1E007Cn 1E018Mn 1E01ACn 1E021Mn 1E022Cn 1E024Mn 1E025Cn",
    "1E02AMn 1E02FCn 1E06DLm 1E08ECn 1E08FMn 1E0FFCn 1E12CLo 1E12FCn 1E136Mn 1E13DLm 1E13FCn",
    "1E149Nd 1E14DCn 1E14ELo 1E14FSo 1E28FCn 1E2ADLo 1E2AEMn 1E2BFCn 1E2EBLo 1E2EFMn 1E2F9Nd",
    "1E2FECn 1E2FFSc 1E4CFCn 1E4EALo 1E4EBLm 1E4EFMn 1E4F9Nd 1E7DFCn 1E7E6Lo 1E7E7Cn 1E7EBLo",
    "1E7ECCn 1E7EELo 1E7EFCn 1E7FELo 1E7FFCn 1E8C4Lo 1E8C6Cn 1E8CFNo 1E8D6Mn 1E8FFCn 1E921Lu",
    "1E943Ll 1E94AMn 1E94BLm 1E94FCn 1E959Nd 1E95DCn 1E95FPo 1EC70Cn 1ECABNo 1ECACSo 1ECAFNo",
    "1ECB0Sc 1ECB4No 1ED00Cn 1ED2DNo 1ED2ESo 1ED3DNo 1EDFFCn 1EE03Lo 1EE04Cn 1EE1FLo 1EE20Cn",
    "1EE22Lo 1EE23Cn 1EE24Lo 1EE26Cn 1EE27Lo 1EE28Cn 1EE32Lo 1EE33Cn 1EE37Lo 1EE38Cn 1EE39Lo",
    "1EE3ACn 1EE3BLo 1EE41Cn 1EE42Lo 1EE46Cn 1EE47Lo 1EE48Cn 1EE49Lo 1EE4ACn 1EE4BLo 1EE4CCn",
    "1EE4FLo 1EE50Cn 1EE52Lo 1EE53Cn 1EE54Lo 1EE56Cn 1EE57Lo 1EE58Cn 1EE59Lo 1EE5ACn 1EE5BLo",
    "1EE5CCn 1EE5DLo 1EE5ECn 1EE5FLo 1EE60Cn 1EE62Lo 1EE63Cn 1EE64Lo 1EE66Cn 1EE6ALo 1EE6BCn",
    "1EE72Lo 1EE73Cn 1EE77Lo 1EE78Cn 1EE7CLo 1EE7DCn 1EE7ELo 1EE7FCn 1EE89Lo 1EE8ACn 1EE9BLo",
    "1EEA0Cn 1EEA3Lo 1EEA4Cn 1EEA9Lo 1EEAACn 1EEBBLo 1EEEFCn 1EEF1Sm 1EFFFCn 1F02BSo 1F02FCn",
    "1F093So 1F09FCn 1F0AESo 1F0B0Cn 1F0BFSo 1F0C0Cn 1F0CFSo 1F0D0Cn 1F0F5So 1F0FFCn 1F10CNo",
    "1F1ADSo 1F1E5Cn 1F202So 1F20FCn 1F23BSo 1F23FCn 1F248So 1F24FCn 1F251So 1F25FCn 1F265So",
    "1F2FFCn 1F3FASo 1F3FFSk 1F6D7So 1F6DBCn 1F6ECSo 1F6EFCn 1F6FCSo 1F6FFCn 1F776So 1F77ACn",
    "1F7D9So 1F7DFCn 1F7EBSo 1F7EFCn 1F7F0So 1F7FFCn 1F80BSo 1F80FCn 1F847So 1F84FCn 1F859So",
    "1F85FCn 1F887So 1F88FCn 1F8ADSo 1F8AFCn 1F8B1So 1F8FFCn 1FA53So 1FA5FCn 1FA6DSo 1FA6FCn",
    "1FA7CSo 1FA7FCn 1FA88So 1FA8FCn 1FABDSo 1FABECn 1FAC5So 1FACDCn 1FADBSo 1FADFCn 1FAE8So",
    "1FAEFCn 1FAF8So 1FAFFCn 1FB92So 1FB93Cn 1FBCASo 1FBEFCn 1FBF9Nd 1FFFFCn 2A6DFLo 2A6FFCn",
    "2B739Lo 2B73FCn 2B81DLo 2B81FCn 2CEA1Lo 2CEAFCn 2EBE0Lo 2F7FFCn 2FA1DLo 2FFFFCn 3134ALo",
    "3134FCn 323AFLo E0000Cn E0001Cf E001FCn E007FCf E00FFCn E01EFMn EFFFFCn FFFFDCo FFFFFCn",
    "10FFFDCo 10FFFFCn"]

structure CategoryRun where
  last : Nat
  category : String

namespace CategoryRun

def hexDigit (c : Char) : Nat :=
  if c.isDigit then c.toNat - '0'.toNat else c.toNat - 'A'.toNat + 10

/-- Reads one entry of the table: all but the last two characters are the number. -/
def ofEntry (entry : List Char) : CategoryRun :=
  let digits := entry.take (entry.length - 2)
  ⟨digits.foldl (fun total c => 16 * total + hexDigit c) 0,
    String.ofList (entry.drop (entry.length - 2))⟩

end CategoryRun

def categoryRuns : List CategoryRun :=
  categoryTable.flatMap fun row => (row.toList.splitOn ' ').map CategoryRun.ofEntry

/-- Finds the run of a code point, given the first code point that `runs` covers. -/
def categoryAmong : List CategoryRun → Nat → Nat → String
  | [], _, _ => "Cn"
  | run :: runs, first, code =>
    if run.last < code then categoryAmong runs (run.last + 1) code
    else if run.category == "Lx" then if (code - first) % 2 = 0 then "Lu" else "Ll"
    else run.category

def generalCategory (c : Char) : String :=
  categoryAmong categoryRuns 0 c.toNat

end HostTypes
