/-!
# Other names of characters

Names that characters have besides their own: those of control characters,
abbreviations, and corrections, in the form that `CharacterName` reads.
-/

namespace SchemaDocs.Text.CharacterName

def aliases : String :=
  "a=0:NULa=0:NULLaSOHa=1:START OF HEADINGcTEXTa=2:STXaEND OF TEXTa=3:ETX
aEND OF TRANSMISSIONa=4:EOTaENQa=5:ENQUIRYaACKa=6:ACKNOWLEDGEaALERTa=7:BELaBACKSPACE
a=8:BSaCHARACTER TABULATIONa=9:HORIZONTAL TABULATIONa=9:HTa=9:TABaEND OF LINEa=A:EOL
a=A:LFa=A:LINE FEEDa=A:NEW LINEa=A:NLaLINE TABULATIONa=B:VERTICAL TABULATIONa=B:VTaFF
a=C:FORM FEEDaCARRIAGE RETURNa=D:CRaLOCKING-SHIFT ONEa=E:SHIFT OUTa=E:SO
aLOCKING-SHIFT ZEROa=F:SHIFT INa=F:SIaDATA LINK ESCAPEa=10:DLEaDC1
a=11:DEVICE CONTROL ONEaDC2a=12:DEVICE CONTROL TWOaDC3a=13:DEVICE CONTROL THREEaDC4
a=14:DEVICE CONTROL FOURaNAKa=15:NEGATIVE ACKNOWLEDGEaSYNa=16:SYNCHRONOUS IDLE
aEND OF TRANSMISSION BLOCKa=17:ETBaCANa=18:CANCELaEND OF MEDIUMa=19:EOMaSUB
a=1A:SUBSTITUTEaESCa=1B:ESCAPEaFILE SEPARATORa=1C:FSa=1C:INFORMATION SEPARATOR FOUR
aGROUP SEPARATORa=1D:GSa=1D:INFORMATION SEPARATOR THREEcTWOa=1E:RECORD SEPARATORa=1E:RS
aINFORMATION SEPARATOR ONEa=1F:UNIT SEPARATORa=1F:USaSPa=7F:DELa=7F:DELETEaPAD
a=80:PADDING CHARACTERaHIGH OCTET PRESETa=81:HOPaBPHa=82:BREAK PERMITTED HEREaNBH
a=83:NO BREAK HEREaINDa=84:INDEXaNELa=85:NEXT LINEaSSAa=86:START OF SELECTED AREA
aEND OF SELECTED AREAa=87:ESAaCHARACTER TABULATION SETa=88:HORIZONTAL TABULATION SET
a=88:HTSaCHARACTER TABULATION WITH JUSTIFICATION
a=89:HORIZONTAL TABULATION WITH JUSTIFICATIONa=89:HTJaLINE TABULATION SET
a=8A:VERTICAL TABULATION SETa=8A:VTSaPARTIAL LINE DOWNc=8B:FORWARDa=8B:PLD
aPARTIAL LINE BACKWARDc=8C:UPa=8C:PLUaREVERSE INDEXb=8D:LINE FEEDa=8D:RI
aSINGLE SHIFT TWOb=8E:-SHIFT-2a=8E:SS2aSINGLE SHIFT THREEb=8F:-SHIFT-3a=8F:SS3aDCS
a=90:DEVICE CONTROL STRINGaPRIVATE USE ONEc=91:-1a=91:PU1aPRIVATE USE TWOc=92:-2a=92:PU2
aSET TRANSMIT STATEa=93:STSaCANCEL CHARACTERa=94:CCHaMESSAGE WAITINGa=95:MWaSPA
a=96:START OF GUARDED AREAc=96:PROTECTED AREAaEND OF GUARDED AREAc=97:PROTECTED AREA
a=97:EPAaSOSa=98:START OF STRINGaSGCa=99:SINGLE GRAPHIC CHARACTER INTRODUCERaSCI
a=9A:SINGLE CHARACTER INTRODUCERaCONTROL SEQUENCE INTRODUCERa=9B:CSIaST
a=9C:STRING TERMINATORaOPERATING SYSTEM COMMANDa=9D:OSCaPMa=9E:PRIVACY MESSAGEaAPC
a=9F:APPLICATION PROGRAM COMMANDaNBSPa=AD:SHYa=1A2:LATIN CAPITAL LETTER GHA
bSMALL LETTER GHAa=34F:CGJa=61C:ALMa=709:SYRIAC SUBLINEAR COLON SKEWED LEFT
a=CDE:KANNADA LETTER LLLAa=E9D:LAO LETTER FO FONd=E9F:FAYc=EA3:ROc=EA5:LO
a=FD0:TIBETAN MARK BKA- SHOG GI MGO RGYANa=11EC:HANGUL JONGSEONG YESIEUNG-KIYEOK
d-SSANGKIYEOKcSSANGYESIEUNGcYESIEUNG-KHIEUKHa=180B:FVS1aFVS2aFVS3aMVSaFVS4a=200B:ZWSP
aZWNJaZWJaLRMaRLMa=202A:LREaRLEaPDFaLROaRLOaNNBSPa=205F:MMSPaWJa=2066:LRIaRLIaFSIaPDI
a=2118:WEIERSTRASS ELLIPTIC FUNCTIONa=2448:MICR ON US SYMBOLbDASH SYMBOL
a=2B7A:LEFTWARDS TRIANGLE-HEADED ARROW WITH DOUBLE VERTICAL STROKE
a=2B7C:RIGHTWARDS TRIANGLE-HEADED ARROW WITH DOUBLE VERTICAL STROKE
a=A015:YI SYLLABLE ITERATION MARKa=AA6E:MYANMAR LETTER KHAMTI LLAa=FE00:VS1aVS2aVS3aVS4
aVS5aVS6aVS7aVS8aVS9aVS10aVS11aVS12aVS13aVS14aVS15aVS16
a=FE18:PRESENTATION FORM FOR VERTICAL RIGHT WHITE LENTICULAR BRACKETa=FEFF:BOM
a=FEFF:BYTE ORDER MARKa=FEFF:ZWNBSPa=122D4:CUNEIFORM SIGN NU11 TENU
dOVER NU11 BUR OVER BURa=16E56:MEDEFAIDRIN CAPITAL LETTER HdNGb=16E76:SMALL LETTER HdNG
a=1B001:HENTAIGANA LETTER E-1
a=1D0C5:BYZANTINE MUSICAL SYMBOL FTHORA SKLIRON CHROMA VASISa=E0100:VS17aVS18aVS19aVS20
aVS21aVS22aVS23aVS24aVS25aVS26aVS27aVS28aVS29aVS30aVS31aVS32aVS33aVS34aVS35aVS36aVS37
aVS38aVS39aVS40aVS41aVS42aVS43aVS44aVS45aVS46aVS47aVS48aVS49aVS50aVS51aVS52aVS53aVS54
aVS55aVS56aVS57aVS58aVS59aVS60aVS61aVS62aVS63aVS64aVS65aVS66aVS67aVS68aVS69aVS70aVS71
aVS72aVS73aVS74aVS75aVS76aVS77aVS78aVS79aVS80aVS81aVS82aVS83aVS84aVS85aVS86aVS87aVS88
aVS89aVS90aVS91aVS92aVS93aVS94aVS95aVS96aVS97aVS98aVS99aVS100aVS101aVS102aVS103aVS104
aVS105aVS106aVS107aVS108aVS109aVS110aVS111aVS112aVS113aVS114aVS115aVS116aVS117aVS118
aVS119aVS120aVS121aVS122aVS123aVS124aVS125aVS126aVS127aVS128aVS129aVS130aVS131aVS132
aVS133aVS134aVS135aVS136aVS137aVS138aVS139aVS140aVS141aVS142aVS143aVS144aVS145aVS146
aVS147aVS148aVS149aVS150aVS151aVS152aVS153aVS154aVS155aVS156aVS157aVS158aVS159aVS160
aVS161aVS162aVS163aVS164aVS165aVS166aVS167aVS168aVS169aVS170aVS171aVS172aVS173aVS174
aVS175aVS176aVS177aVS178aVS179aVS180aVS181aVS182aVS183aVS184aVS185aVS186aVS187aVS188
aVS189aVS190aVS191aVS192aVS193aVS194aVS195aVS196aVS197aVS198aVS199aVS200aVS201aVS202
aVS203aVS204aVS205aVS206aVS207aVS208aVS209aVS210aVS211aVS212aVS213aVS214aVS215aVS216
aVS217aVS218aVS219aVS220aVS221aVS222aVS223aVS224aVS225aVS226aVS227aVS228aVS229aVS230
aVS231aVS232aVS233aVS234aVS235aVS236aVS237aVS238aVS239aVS240aVS241aVS242aVS243aVS244
aVS245aVS246aVS247aVS248aVS249aVS250aVS251aVS252aVS253aVS254aVS255aVS256"

end SchemaDocs.Text.CharacterName
