/-!
# Line break classes: the table

The Line_Break property of the Unicode Character Database, as text, where it does not follow from
the general category. An entry is `first-last=XX` or `only=XX`, in hexadecimal and in increasing
order. Classes that stand for others are resolved: ambiguous and unknown characters are `AL`,
small kana `NS`, and letters that need a dictionary `AL` or `CM`. `Adventure.Unicode.LineBreak`
reads the text once.
-/

namespace Adventure.Unicode

/-- Runs of code points with their two-letter class names. -/
def lineBreakText : String := "
  9=BA A=LF B-C=BK D=CR 20=SP 21=EX 22=QU 24=PR 25=PO 27=QU 28=OP 29=CP 2B=PR 2C=IS 2D=HY 2E=IS
  2F=SY 3A-3B=IS 3F=EX 5B=OP 5C=PR 5D=CP 7B=OP 7C=BA 7D=CL 85=NL A0=GL A1=OP A2=PO A3-A5=PR AB=QU
  AD=BA B0=PO B1=PR B4=BB BB=QU BF=OP 2C8=BB 2CC=BB 2DF=BB 34F=GL 35C-362=GL 37E=IS 589=IS 58A=BA
  58F=PR 5BE=BA 5C6=EX 5D0-5EA=HL 5EF-5F2=HL 600-605=AL 609-60B=PO 60C-60D=IS 61B=EX 61D-61F=EX
  66A=PO 66B-66C=NU 6D4=EX 6DD=AL 70F=AL 7F8=IS 7F9=EX 7FE-7FF=PR 890-891=AL 8E2=AL 964-965=BA
  9F2-9F3=PO 9F9=PO 9FB=PR AF1=PR BF9=PR C77=BB C84=BB D79=PO E3F=PR E5A-E5B=BA F01-F04=BB
  F06-F07=BB F08=GL F09-F0A=BB F0B=BA F0C=GL F0D-F11=EX F12=GL F14=EX F34=BA F3A=OP F3B=CL F3C=OP
  F3D=CL F7F=BA F85=BA FBE-FBF=BA FD0-FD1=BB FD2=BA FD3=BB FD9-FDA=GL 104A-104B=BA 1100-115F=JL
  1160-11A7=JV 11A8-11FF=JT 1361=BA 1400=BA 1680=BA 169B=OP 169C=CL 16EB-16ED=BA 1735-1736=BA
  17D4-17D5=BA 17D6=NS 17D8=BA 17DA=BA 17DB=PR 1802-1803=EX 1804-1805=BA 1806=BB 1808-1809=EX
  180E=GL 1944-1945=EX 1B5A-1B5B=BA 1B5D-1B60=BA 1B7D-1B7E=BA 1C3B-1C3F=BA 1C7E-1C7F=BA 1DCD=GL
  1DFC=GL 1FFD=BB 2000-2006=BA 2007=GL 2008-200A=BA 200B=ZW 200D=ZWJ 2010=BA 2011=GL 2012-2013=BA
  2014=B2 2018-2019=QU 201A=OP 201B-201D=QU 201E=OP 201F=QU 2024-2026=IN 2027=BA 2028-2029=BK
  202F=GL 2030-2037=PO 2039-203A=QU 203C-203D=NS 2044=IS 2045=OP 2046=CL 2047-2049=NS 2056=BA
  2057=PO 2058-205B=BA 205D-205F=BA 2060=WJ 2061-2064=AL 207D=OP 207E=CL 208D=OP 208E=CL
  20A0-20A6=PR 20A7=PO 20A8-20B5=PR 20B6=PO 20B7-20BA=PR 20BB=PO 20BC-20BD=PR 20BE=PO 20BF=PR
  20C0=PO 20C1-20CF=PR 2103=PO 2109=PO 2116=PR 2212-2213=PR 22EF=IN 2308=OP 2309=CL 230A=OP
  230B=CL 231A-231B=ID 2329=OP 232A=CL 23F0-23F3=ID 2600-2603=ID 2614-2615=ID 2618=ID
  261A-261C=ID 261D=EB 261E-261F=ID 2639-263B=ID 2668=ID 267F=ID 26BD-26C8=ID 26CD=ID
  26CF-26D1=ID 26D3-26D4=ID 26D8-26D9=ID 26DC=ID 26DF-26E1=ID 26EA=ID 26F1-26F5=ID 26F7-26F8=ID
  26F9=EB 26FA=ID 26FD-2704=ID 2708-2709=ID 270A-270D=EB 275B-2760=QU 2762-2763=EX 2764=ID
  2768=OP 2769=CL 276A=OP 276B=CL 276C=OP 276D=CL 276E=OP 276F=CL 2770=OP 2771=CL 2772=OP 2773=CL
  2774=OP 2775=CL 27C5=OP 27C6=CL 27E6=OP 27E7=CL 27E8=OP 27E9=CL 27EA=OP 27EB=CL 27EC=OP 27ED=CL
  27EE=OP 27EF=CL 2983=OP 2984=CL 2985=OP 2986=CL 2987=OP 2988=CL 2989=OP 298A=CL 298B=OP 298C=CL
  298D=OP 298E=CL 298F=OP 2990=CL 2991=OP 2992=CL 2993=OP 2994=CL 2995=OP 2996=CL 2997=OP 2998=CL
  29D8=OP 29D9=CL 29DA=OP 29DB=CL 29FC=OP 29FD=CL 2CF9=EX 2CFA-2CFC=BA 2CFE=EX 2CFF=BA 2D70=BA
  2E00-2E0D=QU 2E0E-2E15=BA 2E17=BA 2E18=OP 2E19=BA 2E1C-2E1D=QU 2E20-2E21=QU 2E22=OP 2E23=CL
  2E24=OP 2E25=CL 2E26=OP 2E27=CL 2E28=OP 2E29=CL 2E2A-2E2D=BA 2E2E=EX 2E30-2E31=BA 2E33-2E34=BA
  2E3A-2E3B=B2 2E3C-2E3E=BA 2E40-2E41=BA 2E42=OP 2E43-2E4A=BA 2E4C=BA 2E4E-2E4F=BA 2E53-2E54=EX
  2E55=OP 2E56=CL 2E57=OP 2E58=CL 2E59=OP 2E5A=CL 2E5B=OP 2E5C=CL 2E5D=BA 2E80-2E99=ID
  2E9B-2EF3=ID 2F00-2FD5=ID 2FF0-2FFB=ID 3000=BA 3001-3002=CL 3003-3004=ID 3005=NS 3006-3007=ID
  3008=OP 3009=CL 300A=OP 300B=CL 300C=OP 300D=CL 300E=OP 300F=CL 3010=OP 3011=CL 3012-3013=ID
  3014=OP 3015=CL 3016=OP 3017=CL 3018=OP 3019=CL 301A=OP 301B=CL 301C=NS 301D=OP 301E-301F=CL
  3020-3029=ID 3030-3034=ID 3035=CM 3036-303A=ID 303B-303C=NS 303D-303F=ID 3041=NS 3042=ID
  3043=NS 3044=ID 3045=NS 3046=ID 3047=NS 3048=ID 3049=NS 304A-3062=ID 3063=NS 3064-3082=ID
  3083=NS 3084=ID 3085=NS 3086=ID 3087=NS 3088-308D=ID 308E=NS 308F-3094=ID 3095-3096=NS
  309B-309E=NS 309F=ID 30A0-30A1=NS 30A2=ID 30A3=NS 30A4=ID 30A5=NS 30A6=ID 30A7=NS 30A8=ID
  30A9=NS 30AA-30C2=ID 30C3=NS 30C4-30E2=ID 30E3=NS 30E4=ID 30E5=NS 30E6=ID 30E7=NS 30E8-30ED=ID
  30EE=NS 30EF-30F4=ID 30F5-30F6=NS 30F7-30FA=ID 30FB-30FE=NS 30FF=ID 3105-312F=ID 3131-318E=ID
  3190-31E3=ID 31F0-31FF=NS 3200-321E=ID 3220-3247=ID 3250-4DBF=ID 4E00-A014=ID A015=NS
  A016-A48C=ID A490-A4C6=ID A4FE-A4FF=BA A60D=BA A60E=EX A60F=BA A6F3-A6F7=BA A838=PO
  A874-A875=BB A876-A877=EX A8CE-A8CF=BA A8FC=BB A92E-A92F=BA A960-A97C=JL A9C7-A9C9=BA
  AA5D-AA5F=BA AAF0-AAF1=BA ABEB=BA D7B0-D7C6=JV D7CB-D7FB=JT F900-FAFF=ID FB1D=HL FB1F-FB28=HL
  FB2A-FB36=HL FB38-FB3C=HL FB3E=HL FB40-FB41=HL FB43-FB44=HL FB46-FB4F=HL FD3E=CL FD3F=OP
  FDFC=PO FE10=IS FE11-FE12=CL FE13-FE14=IS FE15-FE16=EX FE17=OP FE18=CL FE19=IN FE30-FE34=ID
  FE35=OP FE36=CL FE37=OP FE38=CL FE39=OP FE3A=CL FE3B=OP FE3C=CL FE3D=OP FE3E=CL FE3F=OP FE40=CL
  FE41=OP FE42=CL FE43=OP FE44=CL FE45-FE46=ID FE47=OP FE48=CL FE49-FE4F=ID FE50=CL FE51=ID
  FE52=CL FE54-FE55=NS FE56-FE57=EX FE58=ID FE59=OP FE5A=CL FE5B=OP FE5C=CL FE5D=OP FE5E=CL
  FE5F-FE66=ID FE68=ID FE69=PR FE6A=PO FE6B=ID FEFF=WJ FF01=EX FF02-FF03=ID FF04=PR FF05=PO
  FF06-FF07=ID FF08=OP FF09=CL FF0A-FF0B=ID FF0C=CL FF0D=ID FF0E=CL FF0F-FF19=ID FF1A-FF1B=NS
  FF1C-FF1E=ID FF1F=EX FF20-FF3A=ID FF3B=OP FF3C=ID FF3D=CL FF3E-FF5A=ID FF5B=OP FF5C=ID FF5D=CL
  FF5E=ID FF5F=OP FF60-FF61=CL FF62=OP FF63-FF64=CL FF65=NS FF66=ID FF67-FF70=NS FF71-FF9D=ID
  FF9E-FF9F=NS FFA0-FFBE=ID FFC2-FFC7=ID FFCA-FFCF=ID FFD2-FFD7=ID FFDA-FFDC=ID FFE0=PO FFE1=PR
  FFE2-FFE4=ID FFE5-FFE6=PR FFFC=CB 10100-10102=BA 1039F=BA 103D0=BA 10857=BA 1091F=BA
  10A50-10A57=BA 10AF0-10AF5=BA 10AF6=IN 10B39-10B3F=BA 10EAD=BA 11047-11048=BA 110BD=AL
  110BE-110C1=BA 110CD=AL 11140-11143=BA 11175=BB 111C5-111C6=BA 111C8=BA 111DB=BB 111DD-111DF=BA
  11238-11239=BA 1123B-1123C=BA 112A9=BA 1144B-1144E=BA 1145A-1145B=BA 115C1=BB 115C2-115C3=BA
  115C4-115C5=EX 115C9-115D7=BA 11641-11642=BA 11660-1166C=BB 1173C-1173E=BA 11944-11946=BA
  119E2=BB 11A3F=BB 11A41-11A44=BA 11A45=BB 11A9A-11A9C=BA 11A9E-11AA0=BB 11AA1-11AA2=BA
  11B00-11B09=BB 11C41-11C45=BA 11C70=BB 11C71=EX 11F43-11F44=BA 11F45-11F4F=ID 11FDD-11FE0=PO
  11FFF=BA 12470-12474=BA 13258-1325A=OP 1325B-1325D=CL 13282=CL 13286=OP 13287=CL 13288=OP
  13289=CL 13379=OP 1337A-1337B=CL 13430-13436=GL 13437=OP 13438=CL 13439-1343B=GL 1343C=OP
  1343D=CL 1343E=OP 1343F=CL 145CE=OP 145CF=CL 16A6E-16A6F=BA 16AF5=BA 16B37-16B39=BA 16B44=BA
  16E97-16E98=BA 16FE0-16FE3=NS 16FE4=GL 17000-187F7=ID 18800-18AFF=ID 18D00-18D08=ID
  1B000-1B122=ID 1B132=NS 1B150-1B152=NS 1B155=NS 1B164-1B167=NS 1B170-1B2FB=ID 1BC9F=BA
  1DA87-1DA8A=BA 1E2FF=PR 1E95E-1E95F=OP 1ECAC=PO 1ECB0=PO 1F000-1F0FF=ID 1F10D-1F10F=ID
  1F16D-1F16F=ID 1F1AD-1F1E5=ID 1F1E6-1F1FF=RI 1F200-1F384=ID 1F385=EB 1F386-1F39B=ID
  1F39E-1F3B4=ID 1F3B7-1F3BB=ID 1F3BD-1F3C1=ID 1F3C2-1F3C4=EB 1F3C5-1F3C6=ID 1F3C7=EB
  1F3C8-1F3C9=ID 1F3CA-1F3CC=EB 1F3CD-1F3FA=ID 1F3FB-1F3FF=EM 1F400-1F441=ID 1F442-1F443=EB
  1F444-1F445=ID 1F446-1F450=EB 1F451-1F465=ID 1F466-1F478=EB 1F479-1F47B=ID 1F47C=EB
  1F47D-1F480=ID 1F481-1F483=EB 1F484=ID 1F485-1F487=EB 1F488-1F48E=ID 1F48F=EB 1F490=ID 1F491=EB
  1F492-1F49F=ID 1F4A1=ID 1F4A3=ID 1F4A5-1F4A9=ID 1F4AA=EB 1F4AB-1F4AE=ID 1F4B0=ID 1F4B3-1F4FF=ID
  1F507-1F516=ID 1F525-1F531=ID 1F54A-1F573=ID 1F574-1F575=EB 1F576-1F579=ID 1F57A=EB
  1F57B-1F58F=ID 1F590=EB 1F591-1F594=ID 1F595-1F596=EB 1F597-1F5D3=ID 1F5DC-1F5F3=ID
  1F5FA-1F644=ID 1F645-1F647=EB 1F648-1F64A=ID 1F64B-1F64F=EB 1F676-1F678=QU 1F679-1F67B=NS
  1F680-1F6A2=ID 1F6A3=EB 1F6A4-1F6B3=ID 1F6B4-1F6B6=EB 1F6B7-1F6BF=ID 1F6C0=EB 1F6C1-1F6CB=ID
  1F6CC=EB 1F6CD-1F6FF=ID 1F774-1F77F=ID 1F7D5-1F7FF=ID 1F80C-1F80F=ID 1F848-1F84F=ID
  1F85A-1F85F=ID 1F888-1F88F=ID 1F8AE-1F8FF=ID 1F90C=EB 1F90D-1F90E=ID 1F90F=EB 1F910-1F917=ID
  1F918-1F91F=EB 1F920-1F925=ID 1F926=EB 1F927-1F92F=ID 1F930-1F939=EB 1F93A-1F93B=ID
  1F93C-1F93E=EB 1F93F-1F976=ID 1F977=EB 1F978-1F9B4=ID 1F9B5-1F9B6=EB 1F9B7=ID 1F9B8-1F9B9=EB
  1F9BA=ID 1F9BB=EB 1F9BC-1F9CC=ID 1F9CD-1F9CF=EB 1F9D0=ID 1F9D1-1F9DD=EB 1F9DE-1F9FF=ID
  1FA54-1FAC2=ID 1FAC3-1FAC5=EB 1FAC6-1FAEF=ID 1FAF0-1FAF8=EB 1FAF9-1FAFF=ID 1FC00-1FFFD=ID
  20000-2FFFD=ID 30000-3FFFD=ID"

end Adventure.Unicode
