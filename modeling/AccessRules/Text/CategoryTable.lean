/-!
# The general categories of all characters

Data of the Unicode standard, version 16.0. A category holds from the code point written before it
up to the next one that is listed; a range holds both its ends. Code points are hexadecimal.
-/

namespace AccessRules.Text

/-- The code points at which the general category changes, each with the category that begins
there. -/
def categoryTable : String :=
"0Cc 20Zs 21Po 24Sc 25Po 28Ps 29Pe 2APo 2BSm 2CPo 2DPd 2EPo 30Nd 3APo 3CSm 3FPo 41Lu 5BPs 5CPo
5DPe 5ESk 5FPc 60Sk 61Ll 7BPs 7CSm 7DPe 7ESm 7FCc A0Zs A1Po A2Sc A6So A7Po A8Sk A9So AALo ABPi
ACSm ADCf AESo AFSk B0So B1Sm B2No B4Sk B5Ll B6Po B8Sk B9No BALo BBPf BCNo BFPo C0Lu D7Sm D8Lu
DFLl F7Sm F8Ll 100Lu 101Ll 102Lu 103Ll 104Lu 105Ll 106Lu 107Ll 108Lu 109Ll 10ALu 10BLl 10CLu
10DLl 10ELu 10FLl 110Lu 111Ll 112Lu 113Ll 114Lu 115Ll 116Lu 117Ll 118Lu 119Ll 11ALu 11BLl 11CLu
11DLl 11ELu 11FLl 120Lu 121Ll 122Lu 123Ll 124Lu 125Ll 126Lu 127Ll 128Lu 129Ll 12ALu 12BLl 12CLu
12DLl 12ELu 12FLl 130Lu 131Ll 132Lu 133Ll 134Lu 135Ll 136Lu 137Ll 139Lu 13ALl 13BLu 13CLl 13DLu
13ELl 13FLu 140Ll 141Lu 142Ll 143Lu 144Ll 145Lu 146Ll 147Lu 148Ll 14ALu 14BLl 14CLu 14DLl 14ELu
14FLl 150Lu 151Ll 152Lu 153Ll 154Lu 155Ll 156Lu 157Ll 158Lu 159Ll 15ALu 15BLl 15CLu 15DLl 15ELu
15FLl 160Lu 161Ll 162Lu 163Ll 164Lu 165Ll 166Lu 167Ll 168Lu 169Ll 16ALu 16BLl 16CLu 16DLl 16ELu
16FLl 170Lu 171Ll 172Lu 173Ll 174Lu 175Ll 176Lu 177Ll 178Lu 17ALl 17BLu 17CLl 17DLu 17ELl 181Lu
183Ll 184Lu 185Ll 186Lu 188Ll 189Lu 18CLl 18ELu 192Ll 193Lu 195Ll 196Lu 199Ll 19CLu 19ELl 19FLu
1A1Ll 1A2Lu 1A3Ll 1A4Lu 1A5Ll 1A6Lu 1A8Ll 1A9Lu 1AALl 1ACLu 1ADLl 1AELu 1B0Ll 1B1Lu 1B4Ll 1B5Lu
1B6Ll 1B7Lu 1B9Ll 1BBLo 1BCLu 1BDLl 1C0Lo 1C4Lu 1C5Lt 1C6Ll 1C7Lu 1C8Lt 1C9Ll 1CALu 1CBLt 1CCLl
1CDLu 1CELl 1CFLu 1D0Ll 1D1Lu 1D2Ll 1D3Lu 1D4Ll 1D5Lu 1D6Ll 1D7Lu 1D8Ll 1D9Lu 1DALl 1DBLu 1DCLl
1DELu 1DFLl 1E0Lu 1E1Ll 1E2Lu 1E3Ll 1E4Lu 1E5Ll 1E6Lu 1E7Ll 1E8Lu 1E9Ll 1EALu 1EBLl 1ECLu 1EDLl
1EELu 1EFLl 1F1Lu 1F2Lt 1F3Ll 1F4Lu 1F5Ll 1F6Lu 1F9Ll 1FALu 1FBLl 1FCLu 1FDLl 1FELu 1FFLl 200Lu
201Ll 202Lu 203Ll 204Lu 205Ll 206Lu 207Ll 208Lu 209Ll 20ALu 20BLl 20CLu 20DLl 20ELu 20FLl 210Lu
211Ll 212Lu 213Ll 214Lu 215Ll 216Lu 217Ll 218Lu 219Ll 21ALu 21BLl 21CLu 21DLl 21ELu 21FLl 220Lu
221Ll 222Lu 223Ll 224Lu 225Ll 226Lu 227Ll 228Lu 229Ll 22ALu 22BLl 22CLu 22DLl 22ELu 22FLl 230Lu
231Ll 232Lu 233Ll 23ALu 23CLl 23DLu 23FLl 241Lu 242Ll 243Lu 247Ll 248Lu 249Ll 24ALu 24BLl 24CLu
24DLl 24ELu 24FLl 294Lo 295Ll 2B0Lm 2C2Sk 2C6Lm 2D2Sk 2E0Lm 2E5Sk 2ECLm 2EDSk 2EELm 2EFSk 300Mn
370Lu 371Ll 372Lu 373Ll 374Lm 375Sk 376Lu 377Ll 378Cn 37ALm 37BLl 37EPo 37FLu 380Cn 384Sk 386Lu
387Po 388Lu 38BCn 38CLu 38DCn 38ELu 390Ll 391Lu 3A2Cn 3A3Lu 3ACLl 3CFLu 3D0Ll 3D2Lu 3D5Ll 3D8Lu
3D9Ll 3DALu 3DBLl 3DCLu 3DDLl 3DELu 3DFLl 3E0Lu 3E1Ll 3E2Lu 3E3Ll 3E4Lu 3E5Ll 3E6Lu 3E7Ll 3E8Lu
3E9Ll 3EALu 3EBLl 3ECLu 3EDLl 3EELu 3EFLl 3F4Lu 3F5Ll 3F6Sm 3F7Lu 3F8Ll 3F9Lu 3FBLl 3FDLu 430Ll
460Lu 461Ll 462Lu 463Ll 464Lu 465Ll 466Lu 467Ll 468Lu 469Ll 46ALu 46BLl 46CLu 46DLl 46ELu 46FLl
470Lu 471Ll 472Lu 473Ll 474Lu 475Ll 476Lu 477Ll 478Lu 479Ll 47ALu 47BLl 47CLu 47DLl 47ELu 47FLl
480Lu 481Ll 482So 483Mn 488Me 48ALu 48BLl 48CLu 48DLl 48ELu 48FLl 490Lu 491Ll 492Lu 493Ll 494Lu
495Ll 496Lu 497Ll 498Lu 499Ll 49ALu 49BLl 49CLu 49DLl 49ELu 49FLl 4A0Lu 4A1Ll 4A2Lu 4A3Ll 4A4Lu
4A5Ll 4A6Lu 4A7Ll 4A8Lu 4A9Ll 4AALu 4ABLl 4ACLu 4ADLl 4AELu 4AFLl 4B0Lu 4B1Ll 4B2Lu 4B3Ll 4B4Lu
4B5Ll 4B6Lu 4B7Ll 4B8Lu 4B9Ll 4BALu 4BBLl 4BCLu 4BDLl 4BELu 4BFLl 4C0Lu 4C2Ll 4C3Lu 4C4Ll 4C5Lu
4C6Ll 4C7Lu 4C8Ll 4C9Lu 4CALl 4CBLu 4CCLl 4CDLu 4CELl 4D0Lu 4D1Ll 4D2Lu 4D3Ll 4D4Lu 4D5Ll 4D6Lu
4D7Ll 4D8Lu 4D9Ll 4DALu 4DBLl 4DCLu 4DDLl 4DELu 4DFLl 4E0Lu 4E1Ll 4E2Lu 4E3Ll 4E4Lu 4E5Ll 4E6Lu
4E7Ll 4E8Lu 4E9Ll 4EALu 4EBLl 4ECLu 4EDLl 4EELu 4EFLl 4F0Lu 4F1Ll 4F2Lu 4F3Ll 4F4Lu 4F5Ll 4F6Lu
4F7Ll 4F8Lu 4F9Ll 4FALu 4FBLl 4FCLu 4FDLl 4FELu 4FFLl 500Lu 501Ll 502Lu 503Ll 504Lu 505Ll 506Lu
507Ll 508Lu 509Ll 50ALu 50BLl 50CLu 50DLl 50ELu 50FLl 510Lu 511Ll 512Lu 513Ll 514Lu 515Ll 516Lu
517Ll 518Lu 519Ll 51ALu 51BLl 51CLu 51DLl 51ELu 51FLl 520Lu 521Ll 522Lu 523Ll 524Lu 525Ll 526Lu
527Ll 528Lu 529Ll 52ALu 52BLl 52CLu 52DLl 52ELu 52FLl 530Cn 531Lu 557Cn 559Lm 55APo 560Ll 589Po
58APd 58BCn 58DSo 58FSc 590Cn 591Mn 5BEPd 5BFMn 5C0Po 5C1Mn 5C3Po 5C4Mn 5C6Po 5C7Mn 5C8Cn 5D0Lo
5EBCn 5EFLo 5F3Po 5F5Cn 600Cf 606Sm 609Po 60BSc 60CPo 60ESo 610Mn 61BPo 61CCf 61DPo 620Lo 640Lm
641Lo 64BMn 660Nd 66APo 66ELo 670Mn 671Lo 6D4Po 6D5Lo 6D6Mn 6DDCf 6DESo 6DFMn 6E5Lm 6E7Mn 6E9So
6EAMn 6EELo 6F0Nd 6FALo 6FDSo 6FFLo 700Po 70ECn 70FCf 710Lo 711Mn 712Lo 730Mn 74BCn 74DLo 7A6Mn
7B1Lo 7B2Cn 7C0Nd 7CALo 7EBMn 7F4Lm 7F6So 7F7Po 7FALm 7FBCn 7FDMn 7FESc 800Lo 816Mn 81ALm 81BMn
824Lm 825Mn 828Lm 829Mn 82ECn 830Po 83FCn 840Lo 859Mn 85CCn 85EPo 85FCn 860Lo 86BCn 870Lo 888Sk
889Lo 88FCn 890Cf 892Cn 897Mn 8A0Lo 8C9Lm 8CAMn 8E2Cf 8E3Mn 903Mc 904Lo 93AMn 93BMc 93CMn 93DLo
93EMc 941Mn 949Mc 94DMn 94EMc 950Lo 951Mn 958Lo 962Mn 964Po 966Nd 970Po 971Lm 972Lo 981Mn 982Mc
984Cn 985Lo 98DCn 98FLo 991Cn 993Lo 9A9Cn 9AALo 9B1Cn 9B2Lo 9B3Cn 9B6Lo 9BACn 9BCMn 9BDLo 9BEMc
9C1Mn 9C5Cn 9C7Mc 9C9Cn 9CBMc 9CDMn 9CELo 9CFCn 9D7Mc 9D8Cn 9DCLo 9DECn 9DFLo 9E2Mn 9E4Cn 9E6Nd
9F0Lo 9F2Sc 9F4No 9FASo 9FBSc 9FCLo 9FDPo 9FEMn 9FFCn A01Mn A03Mc A04Cn A05Lo A0BCn A0FLo A11Cn
A13Lo A29Cn A2ALo A31Cn A32Lo A34Cn A35Lo A37Cn A38Lo A3ACn A3CMn A3DCn A3EMc A41Mn A43Cn A47Mn
A49Cn A4BMn A4ECn A51Mn A52Cn A59Lo A5DCn A5ELo A5FCn A66Nd A70Mn A72Lo A75Mn A76Po A77Cn A81Mn
A83Mc A84Cn A85Lo A8ECn A8FLo A92Cn A93Lo AA9Cn AAALo AB1Cn AB2Lo AB4Cn AB5Lo ABACn ABCMn ABDLo
ABEMc AC1Mn AC6Cn AC7Mn AC9Mc ACACn ACBMc ACDMn ACECn AD0Lo AD1Cn AE0Lo AE2Mn AE4Cn AE6Nd AF0Po
AF1Sc AF2Cn AF9Lo AFAMn B00Cn B01Mn B02Mc B04Cn B05Lo B0DCn B0FLo B11Cn B13Lo B29Cn B2ALo B31Cn
B32Lo B34Cn B35Lo B3ACn B3CMn B3DLo B3EMc B3FMn B40Mc B41Mn B45Cn B47Mc B49Cn B4BMc B4DMn B4ECn
B55Mn B57Mc B58Cn B5CLo B5ECn B5FLo B62Mn B64Cn B66Nd B70So B71Lo B72No B78Cn B82Mn B83Lo B84Cn
B85Lo B8BCn B8ELo B91Cn B92Lo B96Cn B99Lo B9BCn B9CLo B9DCn B9ELo BA0Cn BA3Lo BA5Cn BA8Lo BABCn
BAELo BBACn BBEMc BC0Mn BC1Mc BC3Cn BC6Mc BC9Cn BCAMc BCDMn BCECn BD0Lo BD1Cn BD7Mc BD8Cn BE6Nd
BF0No BF3So BF9Sc BFASo BFBCn C00Mn C01Mc C04Mn C05Lo C0DCn C0ELo C11Cn C12Lo C29Cn C2ALo C3ACn
C3CMn C3DLo C3EMn C41Mc C45Cn C46Mn C49Cn C4AMn C4ECn C55Mn C57Cn C58Lo C5BCn C5DLo C5ECn C60Lo
C62Mn C64Cn C66Nd C70Cn C77Po C78No C7FSo C80Lo C81Mn C82Mc C84Po C85Lo C8DCn C8ELo C91Cn C92Lo
CA9Cn CAALo CB4Cn CB5Lo CBACn CBCMn CBDLo CBEMc CBFMn CC0Mc CC5Cn CC6Mn CC7Mc CC9Cn CCAMc CCCMn
CCECn CD5Mc CD7Cn CDDLo CDFCn CE0Lo CE2Mn CE4Cn CE6Nd CF0Cn CF1Lo CF3Mc CF4Cn D00Mn D02Mc D04Lo
D0DCn D0ELo D11Cn D12Lo D3BMn D3DLo D3EMc D41Mn D45Cn D46Mc D49Cn D4AMc D4DMn D4ELo D4FSo D50Cn
D54Lo D57Mc D58No D5FLo D62Mn D64Cn D66Nd D70No D79So D7ALo D80Cn D81Mn D82Mc D84Cn D85Lo D97Cn
D9ALo DB2Cn DB3Lo DBCCn DBDLo DBECn DC0Lo DC7Cn DCAMn DCBCn DCFMc DD2Mn DD5Cn DD6Mn DD7Cn DD8Mc
DE0Cn DE6Nd DF0Cn DF2Mc DF4Po DF5Cn E01Lo E31Mn E32Lo E34Mn E3BCn E3FSc E40Lo E46Lm E47Mn E4FPo
E50Nd E5APo E5CCn E81Lo E83Cn E84Lo E85Cn E86Lo E8BCn E8CLo EA4Cn EA5Lo EA6Cn EA7Lo EB1Mn EB2Lo
EB4Mn EBDLo EBECn EC0Lo EC5Cn EC6Lm EC7Cn EC8Mn ECFCn ED0Nd EDACn EDCLo EE0Cn F00Lo F01So F04Po
F13So F14Po F15So F18Mn F1ASo F20Nd F2ANo F34So F35Mn F36So F37Mn F38So F39Mn F3APs F3BPe F3CPs
F3DPe F3EMc F40Lo F48Cn F49Lo F6DCn F71Mn F7FMc F80Mn F85Po F86Mn F88Lo F8DMn F98Cn F99Mn FBDCn
FBESo FC6Mn FC7So FCDCn FCESo FD0Po FD5So FD9Po FDBCn 1000Lo 102BMc 102DMn 1031Mc 1032Mn 1038Mc
1039Mn 103BMc 103DMn 103FLo 1040Nd 104APo 1050Lo 1056Mc 1058Mn 105ALo 105EMn 1061Lo 1062Mc
1065Lo 1067Mc 106ELo 1071Mn 1075Lo 1082Mn 1083Mc 1085Mn 1087Mc 108DMn 108ELo 108FMc 1090Nd
109AMc 109DMn 109ESo 10A0Lu 10C6Cn 10C7Lu 10C8Cn 10CDLu 10CECn 10D0Ll 10FBPo 10FCLm 10FDLl
1100Lo 1249Cn 124ALo 124ECn 1250Lo 1257Cn 1258Lo 1259Cn 125ALo 125ECn 1260Lo 1289Cn 128ALo
128ECn 1290Lo 12B1Cn 12B2Lo 12B6Cn 12B8Lo 12BFCn 12C0Lo 12C1Cn 12C2Lo 12C6Cn 12C8Lo 12D7Cn
12D8Lo 1311Cn 1312Lo 1316Cn 1318Lo 135BCn 135DMn 1360Po 1369No 137DCn 1380Lo 1390So 139ACn
13A0Lu 13F6Cn 13F8Ll 13FECn 1400Pd 1401Lo 166DSo 166EPo 166FLo 1680Zs 1681Lo 169BPs 169CPe
169DCn 16A0Lo 16EBPo 16EENl 16F1Lo 16F9Cn 1700Lo 1712Mn 1715Mc 1716Cn 171FLo 1732Mn 1734Mc
1735Po 1737Cn 1740Lo 1752Mn 1754Cn 1760Lo 176DCn 176ELo 1771Cn 1772Mn 1774Cn 1780Lo 17B4Mn
17B6Mc 17B7Mn 17BEMc 17C6Mn 17C7Mc 17C9Mn 17D4Po 17D7Lm 17D8Po 17DBSc 17DCLo 17DDMn 17DECn
17E0Nd 17EACn 17F0No 17FACn 1800Po 1806Pd 1807Po 180BMn 180ECf 180FMn 1810Nd 181ACn 1820Lo
1843Lm 1844Lo 1879Cn 1880Lo 1885Mn 1887Lo 18A9Mn 18AALo 18ABCn 18B0Lo 18F6Cn 1900Lo 191FCn
1920Mn 1923Mc 1927Mn 1929Mc 192CCn 1930Mc 1932Mn 1933Mc 1939Mn 193CCn 1940So 1941Cn 1944Po
1946Nd 1950Lo 196ECn 1970Lo 1975Cn 1980Lo 19ACCn 19B0Lo 19CACn 19D0Nd 19DANo 19DBCn 19DESo
1A00Lo 1A17Mn 1A19Mc 1A1BMn 1A1CCn 1A1EPo 1A20Lo 1A55Mc 1A56Mn 1A57Mc 1A58Mn 1A5FCn 1A60Mn
1A61Mc 1A62Mn 1A63Mc 1A65Mn 1A6DMc 1A73Mn 1A7DCn 1A7FMn 1A80Nd 1A8ACn 1A90Nd 1A9ACn 1AA0Po
1AA7Lm 1AA8Po 1AAECn 1AB0Mn 1ABEMe 1ABFMn 1ACFCn 1B00Mn 1B04Mc 1B05Lo 1B34Mn 1B35Mc 1B36Mn
1B3BMc 1B3CMn 1B3DMc 1B42Mn 1B43Mc 1B45Lo 1B4DCn 1B4EPo 1B50Nd 1B5APo 1B61So 1B6BMn 1B74So
1B7DPo 1B80Mn 1B82Mc 1B83Lo 1BA1Mc 1BA2Mn 1BA6Mc 1BA8Mn 1BAAMc 1BABMn 1BAELo 1BB0Nd 1BBALo
1BE6Mn 1BE7Mc 1BE8Mn 1BEAMc 1BEDMn 1BEEMc 1BEFMn 1BF2Mc 1BF4Cn 1BFCPo 1C00Lo 1C24Mc 1C2CMn
1C34Mc 1C36Mn 1C38Cn 1C3BPo 1C40Nd 1C4ACn 1C4DLo 1C50Nd 1C5ALo 1C78Lm 1C7EPo 1C80Ll 1C89Lu
1C8ALl 1C8BCn 1C90Lu 1CBBCn 1CBDLu 1CC0Po 1CC8Cn 1CD0Mn 1CD3Po 1CD4Mn 1CE1Mc 1CE2Mn 1CE9Lo
1CEDMn 1CEELo 1CF4Mn 1CF5Lo 1CF7Mc 1CF8Mn 1CFALo 1CFBCn 1D00Ll 1D2CLm 1D6BLl 1D78Lm 1D79Ll
1D9BLm 1DC0Mn 1E00Lu 1E01Ll 1E02Lu 1E03Ll 1E04Lu 1E05Ll 1E06Lu 1E07Ll 1E08Lu 1E09Ll 1E0ALu
1E0BLl 1E0CLu 1E0DLl 1E0ELu 1E0FLl 1E10Lu 1E11Ll 1E12Lu 1E13Ll 1E14Lu 1E15Ll 1E16Lu 1E17Ll
1E18Lu 1E19Ll 1E1ALu 1E1BLl 1E1CLu 1E1DLl 1E1ELu 1E1FLl 1E20Lu 1E21Ll 1E22Lu 1E23Ll 1E24Lu
1E25Ll 1E26Lu 1E27Ll 1E28Lu 1E29Ll 1E2ALu 1E2BLl 1E2CLu 1E2DLl 1E2ELu 1E2FLl 1E30Lu 1E31Ll
1E32Lu 1E33Ll 1E34Lu 1E35Ll 1E36Lu 1E37Ll 1E38Lu 1E39Ll 1E3ALu 1E3BLl 1E3CLu 1E3DLl 1E3ELu
1E3FLl 1E40Lu 1E41Ll 1E42Lu 1E43Ll 1E44Lu 1E45Ll 1E46Lu 1E47Ll 1E48Lu 1E49Ll 1E4ALu 1E4BLl
1E4CLu 1E4DLl 1E4ELu 1E4FLl 1E50Lu 1E51Ll 1E52Lu 1E53Ll 1E54Lu 1E55Ll 1E56Lu 1E57Ll 1E58Lu
1E59Ll 1E5ALu 1E5BLl 1E5CLu 1E5DLl 1E5ELu 1E5FLl 1E60Lu 1E61Ll 1E62Lu 1E63Ll 1E64Lu 1E65Ll
1E66Lu 1E67Ll 1E68Lu 1E69Ll 1E6ALu 1E6BLl 1E6CLu 1E6DLl 1E6ELu 1E6FLl 1E70Lu 1E71Ll 1E72Lu
1E73Ll 1E74Lu 1E75Ll 1E76Lu 1E77Ll 1E78Lu 1E79Ll 1E7ALu 1E7BLl 1E7CLu 1E7DLl 1E7ELu 1E7FLl
1E80Lu 1E81Ll 1E82Lu 1E83Ll 1E84Lu 1E85Ll 1E86Lu 1E87Ll 1E88Lu 1E89Ll 1E8ALu 1E8BLl 1E8CLu
1E8DLl 1E8ELu 1E8FLl 1E90Lu 1E91Ll 1E92Lu 1E93Ll 1E94Lu 1E95Ll 1E9ELu 1E9FLl 1EA0Lu 1EA1Ll
1EA2Lu 1EA3Ll 1EA4Lu 1EA5Ll 1EA6Lu 1EA7Ll 1EA8Lu 1EA9Ll 1EAALu 1EABLl 1EACLu 1EADLl 1EAELu
1EAFLl 1EB0Lu 1EB1Ll 1EB2Lu 1EB3Ll 1EB4Lu 1EB5Ll 1EB6Lu 1EB7Ll 1EB8Lu 1EB9Ll 1EBALu 1EBBLl
1EBCLu 1EBDLl 1EBELu 1EBFLl 1EC0Lu 1EC1Ll 1EC2Lu 1EC3Ll 1EC4Lu 1EC5Ll 1EC6Lu 1EC7Ll 1EC8Lu
1EC9Ll 1ECALu 1ECBLl 1ECCLu 1ECDLl 1ECELu 1ECFLl 1ED0Lu 1ED1Ll 1ED2Lu 1ED3Ll 1ED4Lu 1ED5Ll
1ED6Lu 1ED7Ll 1ED8Lu 1ED9Ll 1EDALu 1EDBLl 1EDCLu 1EDDLl 1EDELu 1EDFLl 1EE0Lu 1EE1Ll 1EE2Lu
1EE3Ll 1EE4Lu 1EE5Ll 1EE6Lu 1EE7Ll 1EE8Lu 1EE9Ll 1EEALu 1EEBLl 1EECLu 1EEDLl 1EEELu 1EEFLl
1EF0Lu 1EF1Ll 1EF2Lu 1EF3Ll 1EF4Lu 1EF5Ll 1EF6Lu 1EF7Ll 1EF8Lu 1EF9Ll 1EFALu 1EFBLl 1EFCLu
1EFDLl 1EFELu 1EFFLl 1F08Lu 1F10Ll 1F16Cn 1F18Lu 1F1ECn 1F20Ll 1F28Lu 1F30Ll 1F38Lu 1F40Ll
1F46Cn 1F48Lu 1F4ECn 1F50Ll 1F58Cn 1F59Lu 1F5ACn 1F5BLu 1F5CCn 1F5DLu 1F5ECn 1F5FLu 1F60Ll
1F68Lu 1F70Ll 1F7ECn 1F80Ll 1F88Lt 1F90Ll 1F98Lt 1FA0Ll 1FA8Lt 1FB0Ll 1FB5Cn 1FB6Ll 1FB8Lu
1FBCLt 1FBDSk 1FBELl 1FBFSk 1FC2Ll 1FC5Cn 1FC6Ll 1FC8Lu 1FCCLt 1FCDSk 1FD0Ll 1FD4Cn 1FD6Ll
1FD8Lu 1FDCCn 1FDDSk 1FE0Ll 1FE8Lu 1FEDSk 1FF0Cn 1FF2Ll 1FF5Cn 1FF6Ll 1FF8Lu 1FFCLt 1FFDSk
1FFFCn 2000Zs 200BCf 2010Pd 2016Po 2018Pi 2019Pf 201APs 201BPi 201DPf 201EPs 201FPi 2020Po
2028Zl 2029Zp 202ACf 202FZs 2030Po 2039Pi 203APf 203BPo 203FPc 2041Po 2044Sm 2045Ps 2046Pe
2047Po 2052Sm 2053Po 2054Pc 2055Po 205FZs 2060Cf 2065Cn 2066Cf 2070No 2071Lm 2072Cn 2074No
207ASm 207DPs 207EPe 207FLm 2080No 208ASm 208DPs 208EPe 208FCn 2090Lm 209DCn 20A0Sc 20C1Cn
20D0Mn 20DDMe 20E1Mn 20E2Me 20E5Mn 20F1Cn 2100So 2102Lu 2103So 2107Lu 2108So 210ALl 210BLu
210ELl 2110Lu 2113Ll 2114So 2115Lu 2116So 2118Sm 2119Lu 211ESo 2124Lu 2125So 2126Lu 2127So
2128Lu 2129So 212ALu 212ESo 212FLl 2130Lu 2134Ll 2135Lo 2139Ll 213ASo 213CLl 213ELu 2140Sm
2145Lu 2146Ll 214ASo 214BSm 214CSo 214ELl 214FSo 2150No 2160Nl 2183Lu 2184Ll 2185Nl 2189No
218ASo 218CCn 2190Sm 2195So 219ASm 219CSo 21A0Sm 21A1So 21A3Sm 21A4So 21A6Sm 21A7So 21AESm
21AFSo 21CESm 21D0So 21D2Sm 21D3So 21D4Sm 21D5So 21F4Sm 2300So 2308Ps 2309Pe 230APs 230BPe
230CSo 2320Sm 2322So 2329Ps 232APe 232BSo 237CSm 237DSo 239BSm 23B4So 23DCSm 23E2So 242ACn
2440So 244BCn 2460No 249CSo 24EANo 2500So 25B7Sm 25B8So 25C1Sm 25C2So 25F8Sm 2600So 266FSm
2670So 2768Ps 2769Pe 276APs 276BPe 276CPs 276DPe 276EPs 276FPe 2770Ps 2771Pe 2772Ps 2773Pe
2774Ps 2775Pe 2776No 2794So 27C0Sm 27C5Ps 27C6Pe 27C7Sm 27E6Ps 27E7Pe 27E8Ps 27E9Pe 27EAPs
27EBPe 27ECPs 27EDPe 27EEPs 27EFPe 27F0Sm 2800So 2900Sm 2983Ps 2984Pe 2985Ps 2986Pe 2987Ps
2988Pe 2989Ps 298APe 298BPs 298CPe 298DPs 298EPe 298FPs 2990Pe 2991Ps 2992Pe 2993Ps 2994Pe
2995Ps 2996Pe 2997Ps 2998Pe 2999Sm 29D8Ps 29D9Pe 29DAPs 29DBPe 29DCSm 29FCPs 29FDPe 29FESm
2B00So 2B30Sm 2B45So 2B47Sm 2B4DSo 2B74Cn 2B76So 2B96Cn 2B97So 2C00Lu 2C30Ll 2C60Lu 2C61Ll
2C62Lu 2C65Ll 2C67Lu 2C68Ll 2C69Lu 2C6ALl 2C6BLu 2C6CLl 2C6DLu 2C71Ll 2C72Lu 2C73Ll 2C75Lu
2C76Ll 2C7CLm 2C7ELu 2C81Ll 2C82Lu 2C83Ll 2C84Lu 2C85Ll 2C86Lu 2C87Ll 2C88Lu 2C89Ll 2C8ALu
2C8BLl 2C8CLu 2C8DLl 2C8ELu 2C8FLl 2C90Lu 2C91Ll 2C92Lu 2C93Ll 2C94Lu 2C95Ll 2C96Lu 2C97Ll
2C98Lu 2C99Ll 2C9ALu 2C9BLl 2C9CLu 2C9DLl 2C9ELu 2C9FLl 2CA0Lu 2CA1Ll 2CA2Lu 2CA3Ll 2CA4Lu
2CA5Ll 2CA6Lu 2CA7Ll 2CA8Lu 2CA9Ll 2CAALu 2CABLl 2CACLu 2CADLl 2CAELu 2CAFLl 2CB0Lu 2CB1Ll
2CB2Lu 2CB3Ll 2CB4Lu 2CB5Ll 2CB6Lu 2CB7Ll 2CB8Lu 2CB9Ll 2CBALu 2CBBLl 2CBCLu 2CBDLl 2CBELu
2CBFLl 2CC0Lu 2CC1Ll 2CC2Lu 2CC3Ll 2CC4Lu 2CC5Ll 2CC6Lu 2CC7Ll 2CC8Lu 2CC9Ll 2CCALu 2CCBLl
2CCCLu 2CCDLl 2CCELu 2CCFLl 2CD0Lu 2CD1Ll 2CD2Lu 2CD3Ll 2CD4Lu 2CD5Ll 2CD6Lu 2CD7Ll 2CD8Lu
2CD9Ll 2CDALu 2CDBLl 2CDCLu 2CDDLl 2CDELu 2CDFLl 2CE0Lu 2CE1Ll 2CE2Lu 2CE3Ll 2CE5So 2CEBLu
2CECLl 2CEDLu 2CEELl 2CEFMn 2CF2Lu 2CF3Ll 2CF4Cn 2CF9Po 2CFDNo 2CFEPo 2D00Ll 2D26Cn 2D27Ll
2D28Cn 2D2DLl 2D2ECn 2D30Lo 2D68Cn 2D6FLm 2D70Po 2D71Cn 2D7FMn 2D80Lo 2D97Cn 2DA0Lo 2DA7Cn
2DA8Lo 2DAFCn 2DB0Lo 2DB7Cn 2DB8Lo 2DBFCn 2DC0Lo 2DC7Cn 2DC8Lo 2DCFCn 2DD0Lo 2DD7Cn 2DD8Lo
2DDFCn 2DE0Mn 2E00Po 2E02Pi 2E03Pf 2E04Pi 2E05Pf 2E06Po 2E09Pi 2E0APf 2E0BPo 2E0CPi 2E0DPf
2E0EPo 2E17Pd 2E18Po 2E1APd 2E1BPo 2E1CPi 2E1DPf 2E1EPo 2E20Pi 2E21Pf 2E22Ps 2E23Pe 2E24Ps
2E25Pe 2E26Ps 2E27Pe 2E28Ps 2E29Pe 2E2APo 2E2FLm 2E30Po 2E3APd 2E3CPo 2E40Pd 2E41Po 2E42Ps
2E43Po 2E50So 2E52Po 2E55Ps 2E56Pe 2E57Ps 2E58Pe 2E59Ps 2E5APe 2E5BPs 2E5CPe 2E5DPd 2E5ECn
2E80So 2E9ACn 2E9BSo 2EF4Cn 2F00So 2FD6Cn 2FF0So 3000Zs 3001Po 3004So 3005Lm 3006Lo 3007Nl
3008Ps 3009Pe 300APs 300BPe 300CPs 300DPe 300EPs 300FPe 3010Ps 3011Pe 3012So 3014Ps 3015Pe
3016Ps 3017Pe 3018Ps 3019Pe 301APs 301BPe 301CPd 301DPs 301EPe 3020So 3021Nl 302AMn 302EMc
3030Pd 3031Lm 3036So 3038Nl 303BLm 303CLo 303DPo 303ESo 3040Cn 3041Lo 3097Cn 3099Mn 309BSk
309DLm 309FLo 30A0Pd 30A1Lo 30FBPo 30FCLm 30FFLo 3100Cn 3105Lo 3130Cn 3131Lo 318FCn 3190So
3192No 3196So 31A0Lo 31C0So 31E6Cn 31EFSo 31F0Lo 3200So 321FCn 3220No 322ASo 3248No 3250So
3251No 3260So 3280No 328ASo 32B1No 32C0So 3400Lo 4DC0So 4E00Lo A015Lm A016Lo A48DCn A490So
A4C7Cn A4D0Lo A4F8Lm A4FEPo A500Lo A60CLm A60DPo A610Lo A620Nd A62ALo A62CCn A640Lu A641Ll
A642Lu A643Ll A644Lu A645Ll A646Lu A647Ll A648Lu A649Ll A64ALu A64BLl A64CLu A64DLl A64ELu
A64FLl A650Lu A651Ll A652Lu A653Ll A654Lu A655Ll A656Lu A657Ll A658Lu A659Ll A65ALu A65BLl
A65CLu A65DLl A65ELu A65FLl A660Lu A661Ll A662Lu A663Ll A664Lu A665Ll A666Lu A667Ll A668Lu
A669Ll A66ALu A66BLl A66CLu A66DLl A66ELo A66FMn A670Me A673Po A674Mn A67EPo A67FLm A680Lu
A681Ll A682Lu A683Ll A684Lu A685Ll A686Lu A687Ll A688Lu A689Ll A68ALu A68BLl A68CLu A68DLl
A68ELu A68FLl A690Lu A691Ll A692Lu A693Ll A694Lu A695Ll A696Lu A697Ll A698Lu A699Ll A69ALu
A69BLl A69CLm A69EMn A6A0Lo A6E6Nl A6F0Mn A6F2Po A6F8Cn A700Sk A717Lm A720Sk A722Lu A723Ll
A724Lu A725Ll A726Lu A727Ll A728Lu A729Ll A72ALu A72BLl A72CLu A72DLl A72ELu A72FLl A732Lu
A733Ll A734Lu A735Ll A736Lu A737Ll A738Lu A739Ll A73ALu A73BLl A73CLu A73DLl A73ELu A73FLl
A740Lu A741Ll A742Lu A743Ll A744Lu A745Ll A746Lu A747Ll A748Lu A749Ll A74ALu A74BLl A74CLu
A74DLl A74ELu A74FLl A750Lu A751Ll A752Lu A753Ll A754Lu A755Ll A756Lu A757Ll A758Lu A759Ll
A75ALu A75BLl A75CLu A75DLl A75ELu A75FLl A760Lu A761Ll A762Lu A763Ll A764Lu A765Ll A766Lu
A767Ll A768Lu A769Ll A76ALu A76BLl A76CLu A76DLl A76ELu A76FLl A770Lm A771Ll A779Lu A77ALl
A77BLu A77CLl A77DLu A77FLl A780Lu A781Ll A782Lu A783Ll A784Lu A785Ll A786Lu A787Ll A788Lm
A789Sk A78BLu A78CLl A78DLu A78ELl A78FLo A790Lu A791Ll A792Lu A793Ll A796Lu A797Ll A798Lu
A799Ll A79ALu A79BLl A79CLu A79DLl A79ELu A79FLl A7A0Lu A7A1Ll A7A2Lu A7A3Ll A7A4Lu A7A5Ll
A7A6Lu A7A7Ll A7A8Lu A7A9Ll A7AALu A7AFLl A7B0Lu A7B5Ll A7B6Lu A7B7Ll A7B8Lu A7B9Ll A7BALu
A7BBLl A7BCLu A7BDLl A7BELu A7BFLl A7C0Lu A7C1Ll A7C2Lu A7C3Ll A7C4Lu A7C8Ll A7C9Lu A7CALl
A7CBLu A7CDLl A7CECn A7D0Lu A7D1Ll A7D2Cn A7D3Ll A7D4Cn A7D5Ll A7D6Lu A7D7Ll A7D8Lu A7D9Ll
A7DALu A7DBLl A7DCLu A7DDCn A7F2Lm A7F5Lu A7F6Ll A7F7Lo A7F8Lm A7FALl A7FBLo A802Mn A803Lo
A806Mn A807Lo A80BMn A80CLo A823Mc A825Mn A827Mc A828So A82CMn A82DCn A830No A836So A838Sc
A839So A83ACn A840Lo A874Po A878Cn A880Mc A882Lo A8B4Mc A8C4Mn A8C6Cn A8CEPo A8D0Nd A8DACn
A8E0Mn A8F2Lo A8F8Po A8FBLo A8FCPo A8FDLo A8FFMn A900Nd A90ALo A926Mn A92EPo A930Lo A947Mn
A952Mc A954Cn A95FPo A960Lo A97DCn A980Mn A983Mc A984Lo A9B3Mn A9B4Mc A9B6Mn A9BAMc A9BCMn
A9BEMc A9C1Po A9CECn A9CFLm A9D0Nd A9DACn A9DEPo A9E0Lo A9E5Mn A9E6Lm A9E7Lo A9F0Nd A9FALo
A9FFCn AA00Lo AA29Mn AA2FMc AA31Mn AA33Mc AA35Mn AA37Cn AA40Lo AA43Mn AA44Lo AA4CMn AA4DMc
AA4ECn AA50Nd AA5ACn AA5CPo AA60Lo AA70Lm AA71Lo AA77So AA7ALo AA7BMc AA7CMn AA7DMc AA7ELo
AAB0Mn AAB1Lo AAB2Mn AAB5Lo AAB7Mn AAB9Lo AABEMn AAC0Lo AAC1Mn AAC2Lo AAC3Cn AADBLo AADDLm
AADEPo AAE0Lo AAEBMc AAECMn AAEEMc AAF0Po AAF2Lo AAF3Lm AAF5Mc AAF6Mn AAF7Cn AB01Lo AB07Cn
AB09Lo AB0FCn AB11Lo AB17Cn AB20Lo AB27Cn AB28Lo AB2FCn AB30Ll AB5BSk AB5CLm AB60Ll AB69Lm
AB6ASk AB6CCn AB70Ll ABC0Lo ABE3Mc ABE5Mn ABE6Mc ABE8Mn ABE9Mc ABEBPo ABECMc ABEDMn ABEECn
ABF0Nd ABFACn AC00Lo D7A4Cn D7B0Lo D7C7Cn D7CBLo D7FCCn D800Cs E000Co F900Lo FA6ECn FA70Lo
FADACn FB00Ll FB07Cn FB13Ll FB18Cn FB1DLo FB1EMn FB1FLo FB29Sm FB2ALo FB37Cn FB38Lo FB3DCn
FB3ELo FB3FCn FB40Lo FB42Cn FB43Lo FB45Cn FB46Lo FBB2Sk FBC3Cn FBD3Lo FD3EPe FD3FPs FD40So
FD50Lo FD90Cn FD92Lo FDC8Cn FDCFSo FDD0Cn FDF0Lo FDFCSc FDFDSo FE00Mn FE10Po FE17Ps FE18Pe
FE19Po FE1ACn FE20Mn FE30Po FE31Pd FE33Pc FE35Ps FE36Pe FE37Ps FE38Pe FE39Ps FE3APe FE3BPs
FE3CPe FE3DPs FE3EPe FE3FPs FE40Pe FE41Ps FE42Pe FE43Ps FE44Pe FE45Po FE47Ps FE48Pe FE49Po
FE4DPc FE50Po FE53Cn FE54Po FE58Pd FE59Ps FE5APe FE5BPs FE5CPe FE5DPs FE5EPe FE5FPo FE62Sm
FE63Pd FE64Sm FE67Cn FE68Po FE69Sc FE6APo FE6CCn FE70Lo FE75Cn FE76Lo FEFDCn FEFFCf FF00Cn
FF01Po FF04Sc FF05Po FF08Ps FF09Pe FF0APo FF0BSm FF0CPo FF0DPd FF0EPo FF10Nd FF1APo FF1CSm
FF1FPo FF21Lu FF3BPs FF3CPo FF3DPe FF3ESk FF3FPc FF40Sk FF41Ll FF5BPs FF5CSm FF5DPe FF5ESm
FF5FPs FF60Pe FF61Po FF62Ps FF63Pe FF64Po FF66Lo FF70Lm FF71Lo FF9ELm FFA0Lo FFBFCn FFC2Lo
FFC8Cn FFCALo FFD0Cn FFD2Lo FFD8Cn FFDALo FFDDCn FFE0Sc FFE2Sm FFE3Sk FFE4So FFE5Sc FFE7Cn
FFE8So FFE9Sm FFEDSo FFEFCn FFF9Cf FFFCSo FFFECn 10000Lo 1000CCn 1000DLo 10027Cn 10028Lo 1003BCn
1003CLo 1003ECn 1003FLo 1004ECn 10050Lo 1005ECn 10080Lo 100FBCn 10100Po 10103Cn 10107No 10134Cn
10137So 10140Nl 10175No 10179So 1018ANo 1018CSo 1018FCn 10190So 1019DCn 101A0So 101A1Cn 101D0So
101FDMn 101FECn 10280Lo 1029DCn 102A0Lo 102D1Cn 102E0Mn 102E1No 102FCCn 10300Lo 10320No 10324Cn
1032DLo 10341Nl 10342Lo 1034ANl 1034BCn 10350Lo 10376Mn 1037BCn 10380Lo 1039ECn 1039FPo 103A0Lo
103C4Cn 103C8Lo 103D0Po 103D1Nl 103D6Cn 10400Lu 10428Ll 10450Lo 1049ECn 104A0Nd 104AACn 104B0Lu
104D4Cn 104D8Ll 104FCCn 10500Lo 10528Cn 10530Lo 10564Cn 1056FPo 10570Lu 1057BCn 1057CLu 1058BCn
1058CLu 10593Cn 10594Lu 10596Cn 10597Ll 105A2Cn 105A3Ll 105B2Cn 105B3Ll 105BACn 105BBLl 105BDCn
105C0Lo 105F4Cn 10600Lo 10737Cn 10740Lo 10756Cn 10760Lo 10768Cn 10780Lm 10786Cn 10787Lm 107B1Cn
107B2Lm 107BBCn 10800Lo 10806Cn 10808Lo 10809Cn 1080ALo 10836Cn 10837Lo 10839Cn 1083CLo 1083DCn
1083FLo 10856Cn 10857Po 10858No 10860Lo 10877So 10879No 10880Lo 1089FCn 108A7No 108B0Cn 108E0Lo
108F3Cn 108F4Lo 108F6Cn 108FBNo 10900Lo 10916No 1091CCn 1091FPo 10920Lo 1093ACn 1093FPo 10940Cn
10980Lo 109B8Cn 109BCNo 109BELo 109C0No 109D0Cn 109D2No 10A00Lo 10A01Mn 10A04Cn 10A05Mn 10A07Cn
10A0CMn 10A10Lo 10A14Cn 10A15Lo 10A18Cn 10A19Lo 10A36Cn 10A38Mn 10A3BCn 10A3FMn 10A40No 10A49Cn
10A50Po 10A59Cn 10A60Lo 10A7DNo 10A7FPo 10A80Lo 10A9DNo 10AA0Cn 10AC0Lo 10AC8So 10AC9Lo 10AE5Mn
10AE7Cn 10AEBNo 10AF0Po 10AF7Cn 10B00Lo 10B36Cn 10B39Po 10B40Lo 10B56Cn 10B58No 10B60Lo 10B73Cn
10B78No 10B80Lo 10B92Cn 10B99Po 10B9DCn 10BA9No 10BB0Cn 10C00Lo 10C49Cn 10C80Lu 10CB3Cn 10CC0Ll
10CF3Cn 10CFANo 10D00Lo 10D24Mn 10D28Cn 10D30Nd 10D3ACn 10D40Nd 10D4ALo 10D4ELm 10D4FLo 10D50Lu
10D66Cn 10D69Mn 10D6EPd 10D6FLm 10D70Ll 10D86Cn 10D8ESm 10D90Cn 10E60No 10E7FCn 10E80Lo 10EAACn
10EABMn 10EADPd 10EAECn 10EB0Lo 10EB2Cn 10EC2Lo 10EC5Cn 10EFCMn 10F00Lo 10F1DNo 10F27Lo 10F28Cn
10F30Lo 10F46Mn 10F51No 10F55Po 10F5ACn 10F70Lo 10F82Mn 10F86Po 10F8ACn 10FB0Lo 10FC5No 10FCCCn
10FE0Lo 10FF7Cn 11000Mc 11001Mn 11002Mc 11003Lo 11038Mn 11047Po 1104ECn 11052No 11066Nd 11070Mn
11071Lo 11073Mn 11075Lo 11076Cn 1107FMn 11082Mc 11083Lo 110B0Mc 110B3Mn 110B7Mc 110B9Mn 110BBPo
110BDCf 110BEPo 110C2Mn 110C3Cn 110CDCf 110CECn 110D0Lo 110E9Cn 110F0Nd 110FACn 11100Mn 11103Lo
11127Mn 1112CMc 1112DMn 11135Cn 11136Nd 11140Po 11144Lo 11145Mc 11147Lo 11148Cn 11150Lo 11173Mn
11174Po 11176Lo 11177Cn 11180Mn 11182Mc 11183Lo 111B3Mc 111B6Mn 111BFMc 111C1Lo 111C5Po 111C9Mn
111CDPo 111CEMc 111CFMn 111D0Nd 111DALo 111DBPo 111DCLo 111DDPo 111E0Cn 111E1No 111F5Cn 11200Lo
11212Cn 11213Lo 1122CMc 1122FMn 11232Mc 11234Mn 11235Mc 11236Mn 11238Po 1123EMn 1123FLo 11241Mn
11242Cn 11280Lo 11287Cn 11288Lo 11289Cn 1128ALo 1128ECn 1128FLo 1129ECn 1129FLo 112A9Po 112AACn
112B0Lo 112DFMn 112E0Mc 112E3Mn 112EBCn 112F0Nd 112FACn 11300Mn 11302Mc 11304Cn 11305Lo 1130DCn
1130FLo 11311Cn 11313Lo 11329Cn 1132ALo 11331Cn 11332Lo 11334Cn 11335Lo 1133ACn 1133BMn 1133DLo
1133EMc 11340Mn 11341Mc 11345Cn 11347Mc 11349Cn 1134BMc 1134ECn 11350Lo 11351Cn 11357Mc 11358Cn
1135DLo 11362Mc 11364Cn 11366Mn 1136DCn 11370Mn 11375Cn 11380Lo 1138ACn 1138BLo 1138CCn 1138ELo
1138FCn 11390Lo 113B6Cn 113B7Lo 113B8Mc 113BBMn 113C1Cn 113C2Mc 113C3Cn 113C5Mc 113C6Cn 113C7Mc
113CBCn 113CCMc 113CEMn 113CFMc 113D0Mn 113D1Lo 113D2Mn 113D3Lo 113D4Po 113D6Cn 113D7Po 113D9Cn
113E1Mn 113E3Cn 11400Lo 11435Mc 11438Mn 11440Mc 11442Mn 11445Mc 11446Mn 11447Lo 1144BPo 11450Nd
1145APo 1145CCn 1145DPo 1145EMn 1145FLo 11462Cn 11480Lo 114B0Mc 114B3Mn 114B9Mc 114BAMn 114BBMc
114BFMn 114C1Mc 114C2Mn 114C4Lo 114C6Po 114C7Lo 114C8Cn 114D0Nd 114DACn 11580Lo 115AFMc 115B2Mn
115B6Cn 115B8Mc 115BCMn 115BEMc 115BFMn 115C1Po 115D8Lo 115DCMn 115DECn 11600Lo 11630Mc 11633Mn
1163BMc 1163DMn 1163EMc 1163FMn 11641Po 11644Lo 11645Cn 11650Nd 1165ACn 11660Po 1166DCn 11680Lo
116ABMn 116ACMc 116ADMn 116AEMc 116B0Mn 116B6Mc 116B7Mn 116B8Lo 116B9Po 116BACn 116C0Nd 116CACn
116D0Nd 116E4Cn 11700Lo 1171BCn 1171DMn 1171EMc 1171FMn 11720Mc 11722Mn 11726Mc 11727Mn 1172CCn
11730Nd 1173ANo 1173CPo 1173FSo 11740Lo 11747Cn 11800Lo 1182CMc 1182FMn 11838Mc 11839Mn 1183BPo
1183CCn 118A0Lu 118C0Ll 118E0Nd 118EANo 118F3Cn 118FFLo 11907Cn 11909Lo 1190ACn 1190CLo 11914Cn
11915Lo 11917Cn 11918Lo 11930Mc 11936Cn 11937Mc 11939Cn 1193BMn 1193DMc 1193EMn 1193FLo 11940Mc
11941Lo 11942Mc 11943Mn 11944Po 11947Cn 11950Nd 1195ACn 119A0Lo 119A8Cn 119AALo 119D1Mc 119D4Mn
119D8Cn 119DAMn 119DCMc 119E0Mn 119E1Lo 119E2Po 119E3Lo 119E4Mc 119E5Cn 11A00Lo 11A01Mn 11A0BLo
11A33Mn 11A39Mc 11A3ALo 11A3BMn 11A3FPo 11A47Mn 11A48Cn 11A50Lo 11A51Mn 11A57Mc 11A59Mn 11A5CLo
11A8AMn 11A97Mc 11A98Mn 11A9APo 11A9DLo 11A9EPo 11AA3Cn 11AB0Lo 11AF9Cn 11B00Po 11B0ACn 11BC0Lo
11BE1Po 11BE2Cn 11BF0Nd 11BFACn 11C00Lo 11C09Cn 11C0ALo 11C2FMc 11C30Mn 11C37Cn 11C38Mn 11C3EMc
11C3FMn 11C40Lo 11C41Po 11C46Cn 11C50Nd 11C5ANo 11C6DCn 11C70Po 11C72Lo 11C90Cn 11C92Mn 11CA8Cn
11CA9Mc 11CAAMn 11CB1Mc 11CB2Mn 11CB4Mc 11CB5Mn 11CB7Cn 11D00Lo 11D07Cn 11D08Lo 11D0ACn 11D0BLo
11D31Mn 11D37Cn 11D3AMn 11D3BCn 11D3CMn 11D3ECn 11D3FMn 11D46Lo 11D47Mn 11D48Cn 11D50Nd 11D5ACn
11D60Lo 11D66Cn 11D67Lo 11D69Cn 11D6ALo 11D8AMc 11D8FCn 11D90Mn 11D92Cn 11D93Mc 11D95Mn 11D96Mc
11D97Mn 11D98Lo 11D99Cn 11DA0Nd 11DAACn 11EE0Lo 11EF3Mn 11EF5Mc 11EF7Po 11EF9Cn 11F00Mn 11F02Lo
11F03Mc 11F04Lo 11F11Cn 11F12Lo 11F34Mc 11F36Mn 11F3BCn 11F3EMc 11F40Mn 11F41Mc 11F42Mn 11F43Po
11F50Nd 11F5AMn 11F5BCn 11FB0Lo 11FB1Cn 11FC0No 11FD5So 11FDDSc 11FE1So 11FF2Cn 11FFFPo 12000Lo
1239ACn 12400Nl 1246FCn 12470Po 12475Cn 12480Lo 12544Cn 12F90Lo 12FF1Po 12FF3Cn 13000Lo 13430Cf
13440Mn 13441Lo 13447Mn 13456Cn 13460Lo 143FBCn 14400Lo 14647Cn 16100Lo 1611EMn 1612AMc 1612DMn
16130Nd 1613ACn 16800Lo 16A39Cn 16A40Lo 16A5FCn 16A60Nd 16A6ACn 16A6EPo 16A70Lo 16ABFCn 16AC0Nd
16ACACn 16AD0Lo 16AEECn 16AF0Mn 16AF5Po 16AF6Cn 16B00Lo 16B30Mn 16B37Po 16B3CSo 16B40Lm 16B44Po
16B45So 16B46Cn 16B50Nd 16B5ACn 16B5BNo 16B62Cn 16B63Lo 16B78Cn 16B7DLo 16B90Cn 16D40Lm 16D43Lo
16D6BLm 16D6DPo 16D70Nd 16D7ACn 16E40Lu 16E60Ll 16E80No 16E97Po 16E9BCn 16F00Lo 16F4BCn 16F4FMn
16F50Lo 16F51Mc 16F88Cn 16F8FMn 16F93Lm 16FA0Cn 16FE0Lm 16FE2Po 16FE3Lm 16FE4Mn 16FE5Cn 16FF0Mc
16FF2Cn 17000Lo 187F8Cn 18800Lo 18CD6Cn 18CFFLo 18D09Cn 1AFF0Lm 1AFF4Cn 1AFF5Lm 1AFFCCn 1AFFDLm
1AFFFCn 1B000Lo 1B123Cn 1B132Lo 1B133Cn 1B150Lo 1B153Cn 1B155Lo 1B156Cn 1B164Lo 1B168Cn 1B170Lo
1B2FCCn 1BC00Lo 1BC6BCn 1BC70Lo 1BC7DCn 1BC80Lo 1BC89Cn 1BC90Lo 1BC9ACn 1BC9CSo 1BC9DMn 1BC9FPo
1BCA0Cf 1BCA4Cn 1CC00So 1CCF0Nd 1CCFACn 1CD00So 1CEB4Cn 1CF00Mn 1CF2ECn 1CF30Mn 1CF47Cn 1CF50So
1CFC4Cn 1D000So 1D0F6Cn 1D100So 1D127Cn 1D129So 1D165Mc 1D167Mn 1D16ASo 1D16DMc 1D173Cf 1D17BMn
1D183So 1D185Mn 1D18CSo 1D1AAMn 1D1AESo 1D1EBCn 1D200So 1D242Mn 1D245So 1D246Cn 1D2C0No 1D2D4Cn
1D2E0No 1D2F4Cn 1D300So 1D357Cn 1D360No 1D379Cn 1D400Lu 1D41ALl 1D434Lu 1D44ELl 1D455Cn 1D456Ll
1D468Lu 1D482Ll 1D49CLu 1D49DCn 1D49ELu 1D4A0Cn 1D4A2Lu 1D4A3Cn 1D4A5Lu 1D4A7Cn 1D4A9Lu 1D4ADCn
1D4AELu 1D4B6Ll 1D4BACn 1D4BBLl 1D4BCCn 1D4BDLl 1D4C4Cn 1D4C5Ll 1D4D0Lu 1D4EALl 1D504Lu 1D506Cn
1D507Lu 1D50BCn 1D50DLu 1D515Cn 1D516Lu 1D51DCn 1D51ELl 1D538Lu 1D53ACn 1D53BLu 1D53FCn 1D540Lu
1D545Cn 1D546Lu 1D547Cn 1D54ALu 1D551Cn 1D552Ll 1D56CLu 1D586Ll 1D5A0Lu 1D5BALl 1D5D4Lu 1D5EELl
1D608Lu 1D622Ll 1D63CLu 1D656Ll 1D670Lu 1D68ALl 1D6A6Cn 1D6A8Lu 1D6C1Sm 1D6C2Ll 1D6DBSm 1D6DCLl
1D6E2Lu 1D6FBSm 1D6FCLl 1D715Sm 1D716Ll 1D71CLu 1D735Sm 1D736Ll 1D74FSm 1D750Ll 1D756Lu 1D76FSm
1D770Ll 1D789Sm 1D78ALl 1D790Lu 1D7A9Sm 1D7AALl 1D7C3Sm 1D7C4Ll 1D7CALu 1D7CBLl 1D7CCCn 1D7CENd
1D800So 1DA00Mn 1DA37So 1DA3BMn 1DA6DSo 1DA75Mn 1DA76So 1DA84Mn 1DA85So 1DA87Po 1DA8CCn 1DA9BMn
1DAA0Cn 1DAA1Mn 1DAB0Cn 1DF00Ll 1DF0ALo 1DF0BLl 1DF1FCn 1DF25Ll 1DF2BCn 1E000Mn 1E007Cn 1E008Mn
1E019Cn 1E01BMn 1E022Cn 1E023Mn 1E025Cn 1E026Mn 1E02BCn 1E030Lm 1E06ECn 1E08FMn 1E090Cn 1E100Lo
1E12DCn 1E130Mn 1E137Lm 1E13ECn 1E140Nd 1E14ACn 1E14ELo 1E14FSo 1E150Cn 1E290Lo 1E2AEMn 1E2AFCn
1E2C0Lo 1E2ECMn 1E2F0Nd 1E2FACn 1E2FFSc 1E300Cn 1E4D0Lo 1E4EBLm 1E4ECMn 1E4F0Nd 1E4FACn 1E5D0Lo
1E5EEMn 1E5F0Lo 1E5F1Nd 1E5FBCn 1E5FFPo 1E600Cn 1E7E0Lo 1E7E7Cn 1E7E8Lo 1E7ECCn 1E7EDLo 1E7EFCn
1E7F0Lo 1E7FFCn 1E800Lo 1E8C5Cn 1E8C7No 1E8D0Mn 1E8D7Cn 1E900Lu 1E922Ll 1E944Mn 1E94BLm 1E94CCn
1E950Nd 1E95ACn 1E95EPo 1E960Cn 1EC71No 1ECACSo 1ECADNo 1ECB0Sc 1ECB1No 1ECB5Cn 1ED01No 1ED2ESo
1ED2FNo 1ED3ECn 1EE00Lo 1EE04Cn 1EE05Lo 1EE20Cn 1EE21Lo 1EE23Cn 1EE24Lo 1EE25Cn 1EE27Lo 1EE28Cn
1EE29Lo 1EE33Cn 1EE34Lo 1EE38Cn 1EE39Lo 1EE3ACn 1EE3BLo 1EE3CCn 1EE42Lo 1EE43Cn 1EE47Lo 1EE48Cn
1EE49Lo 1EE4ACn 1EE4BLo 1EE4CCn 1EE4DLo 1EE50Cn 1EE51Lo 1EE53Cn 1EE54Lo 1EE55Cn 1EE57Lo 1EE58Cn
1EE59Lo 1EE5ACn 1EE5BLo 1EE5CCn 1EE5DLo 1EE5ECn 1EE5FLo 1EE60Cn 1EE61Lo 1EE63Cn 1EE64Lo 1EE65Cn
1EE67Lo 1EE6BCn 1EE6CLo 1EE73Cn 1EE74Lo 1EE78Cn 1EE79Lo 1EE7DCn 1EE7ELo 1EE7FCn 1EE80Lo 1EE8ACn
1EE8BLo 1EE9CCn 1EEA1Lo 1EEA4Cn 1EEA5Lo 1EEAACn 1EEABLo 1EEBCCn 1EEF0Sm 1EEF2Cn 1F000So 1F02CCn
1F030So 1F094Cn 1F0A0So 1F0AFCn 1F0B1So 1F0C0Cn 1F0C1So 1F0D0Cn 1F0D1So 1F0F6Cn 1F100No 1F10DSo
1F1AECn 1F1E6So 1F203Cn 1F210So 1F23CCn 1F240So 1F249Cn 1F250So 1F252Cn 1F260So 1F266Cn 1F300So
1F3FBSk 1F400So 1F6D8Cn 1F6DCSo 1F6EDCn 1F6F0So 1F6FDCn 1F700So 1F777Cn 1F77BSo 1F7DACn 1F7E0So
1F7ECCn 1F7F0So 1F7F1Cn 1F800So 1F80CCn 1F810So 1F848Cn 1F850So 1F85ACn 1F860So 1F888Cn 1F890So
1F8AECn 1F8B0So 1F8BCCn 1F8C0So 1F8C2Cn 1F900So 1FA54Cn 1FA60So 1FA6ECn 1FA70So 1FA7DCn 1FA80So
1FA8ACn 1FA8FSo 1FAC7Cn 1FACESo 1FADDCn 1FADFSo 1FAEACn 1FAF0So 1FAF9Cn 1FB00So 1FB93Cn 1FB94So
1FBF0Nd 1FBFACn 20000Lo 2A6E0Cn 2A700Lo 2B73ACn 2B740Lo 2B81ECn 2B820Lo 2CEA2Cn 2CEB0Lo 2EBE1Cn
2EBF0Lo 2EE5ECn 2F800Lo 2FA1ECn 30000Lo 3134BCn 31350Lo 323B0Cn E0001Cf E0002Cn E0020Cf E0080Cn
E0100Mn E01F0Cn F0000Co FFFFECn 100000Co 10FFFECn"

/-- The alphabetic characters that are neither letters nor letter numbers. -/
def otherAlphabeticTable : String :=
"345 363-36F 5B0-5BD 5BF 5C1-5C2 5C4-5C5 5C7 610-61A 64B-657 659-65F 670 6D6-6DC 6E1-6E4 6E7-6E8
6ED 711 730-73F 7A6-7B0 816-817 81B-823 825-827 829-82C 897 8D4-8DF 8E3-8E9 8F0-903 93A-93B
93E-94C 94E-94F 955-957 962-963 981-983 9BE-9C4 9C7-9C8 9CB-9CC 9D7 9E2-9E3 A01-A03 A3E-A42
A47-A48 A4B-A4C A51 A70-A71 A75 A81-A83 ABE-AC5 AC7-AC9 ACB-ACC AE2-AE3 AFA-AFC B01-B03 B3E-B44
B47-B48 B4B-B4C B56-B57 B62-B63 B82 BBE-BC2 BC6-BC8 BCA-BCC BD7 C00-C04 C3E-C44 C46-C48 C4A-C4C
C55-C56 C62-C63 C81-C83 CBE-CC4 CC6-CC8 CCA-CCC CD5-CD6 CE2-CE3 CF3 D00-D03 D3E-D44 D46-D48
D4A-D4C D57 D62-D63 D81-D83 DCF-DD4 DD6 DD8-DDF DF2-DF3 E31 E34-E3A E4D EB1 EB4-EB9 EBB-EBC ECD
F71-F83 F8D-F97 F99-FBC 102B-1036 1038 103B-103E 1056-1059 105E-1060 1062-1064 1067-106D
1071-1074 1082-108D 108F 109A-109D 1712-1713 1732-1733 1752-1753 1772-1773 17B6-17C8 1885-1886
18A9 1920-192B 1930-1938 1A17-1A1B 1A55-1A5E 1A61-1A74 1ABF-1AC0 1ACC-1ACE 1B00-1B04 1B35-1B43
1B80-1B82 1BA1-1BA9 1BAC-1BAD 1BE7-1BF1 1C24-1C36 1DD3-1DF4 24B6-24E9 2DE0-2DFF A674-A67B
A69E-A69F A802 A80B A823-A827 A880-A881 A8B4-A8C3 A8C5 A8FF A926-A92A A947-A952 A980-A983
A9B4-A9BF A9E5 AA29-AA36 AA43 AA4C-AA4D AA7B-AA7D AAB0 AAB2-AAB4 AAB7-AAB8 AABE AAEB-AAEF AAF5
ABE3-ABEA FB1E 10376-1037A 10A01-10A03 10A05-10A06 10A0C-10A0F 10D24-10D27 10D69 10EAB-10EAC
10EFC 11000-11002 11038-11045 11073-11074 11080-11082 110B0-110B8 110C2 11100-11102 11127-11132
11145-11146 11180-11182 111B3-111BF 111CE-111CF 1122C-11234 11237 1123E 11241 112DF-112E8
11300-11303 1133E-11344 11347-11348 1134B-1134C 11357 11362-11363 113B8-113C0 113C2 113C5
113C7-113CA 113CC-113CD 11435-11441 11443-11445 114B0-114C1 115AF-115B5 115B8-115BE 115DC-115DD
11630-1163E 11640 116AB-116B5 1171D-1172A 1182C-11838 11930-11935 11937-11938 1193B-1193C 11940
11942 119D1-119D7 119DA-119DF 119E4 11A01-11A0A 11A35-11A39 11A3B-11A3E 11A51-11A5B 11A8A-11A97
11C2F-11C36 11C38-11C3E 11C92-11CA7 11CA9-11CB6 11D31-11D36 11D3A 11D3C-11D3D 11D3F-11D41 11D43
11D47 11D8A-11D8E 11D90-11D91 11D93-11D96 11EF3-11EF6 11F00-11F01 11F03 11F34-11F3A 11F3E-11F40
1611E-1612E 16F4F 16F51-16F87 16F8F-16F92 16FF0-16FF1 1BC9E 1E000-1E006 1E008-1E018 1E01B-1E021
1E023-1E024 1E026-1E02A 1E08F 1E947 1F130-1F149 1F150-1F169 1F170-1F189"

/-- The uppercase characters that are no uppercase letters. -/
def otherUppercaseTable : String :=
"2160-216F 24B6-24CF 1F130-1F149 1F150-1F169 1F170-1F189"

/-- The lowercase characters that are no lowercase letters. -/
def otherLowercaseTable : String :=
"AA BA 2B0-2B8 2C0-2C1 2E0-2E4 345 37A 10FC 1D2C-1D6A 1D78 1D9B-1DBF 2071 207F 2090-209C
2170-217F 24D0-24E9 2C7C-2C7D A69C-A69D A770 A7F2-A7F4 A7F8-A7F9 AB5C-AB5F AB69 10780
10783-10785 10787-107B0 107B2-107BA 1E030-1E06D"

/-- The characters that case mapping looks through although they are neither marks nor format
characters nor modifiers. -/
def otherIgnorableTable : String :=
"27 2E 3A B7 387 55F 5F4 2018-2019 2024 2027 FE13 FE52 FE55 FF07 FF0E FF1A"

end AccessRules.Text
