import DirectoryLogin.Unicode.Category

namespace DirectoryLogin.Url

open DirectoryLogin.Text DirectoryLogin.Unicode

/-- The replacements of characters. A word tells the first character and the replacements of it and those
after it, between commas: one character, several between dots, or a range of them for as many characters.
A word with an equals sign tells every second character up to a last one; the character after each is its
replacement. -/
def replacementTable : String :=
  "41:61-7A A0:20 A8:20.308 AA:61 AF:20.304 B2:32-33,20.301,3BC B8:20.327,31,6F
BC:31.2044.34,31.2044.32,33.2044.34 C0:E0-F6 D8:F8-FE 100=12E 130:69.307 132:69.6A,69.6A 134=136
139=13D 13F:6C.B7,6C.B7 141=147 149:2BC.6E 14A=176 178:FF 179=17D 17F:73 181:253 182=184 186:254,188
189:256-257,18C 18E:1DD,259,25B,192 193:260,263 196:269,268,199 19C:26F,272 19F:275 1A0=1A4
1A6:280,1A8 1A9:283 1AC:1AD 1AE:288,1B0 1B1:28A-28B 1B3=1B5 1B7:292,1B9 1BC:1BD
1C4:64.17E,64.17E,64.17E,6C.6A,6C.6A,6C.6A,6E.6A,6E.6A,6E.6A 1CD=1DB 1DE=1EE
1F1:64.7A,64.7A,64.7A,1F5 1F6:195,1BF 1F8=21E 220:19E 222=232 23A:2C65,23C 23D:19A,2C66 241:242
243:180,289,28C 246=24E 2B0:68,266,6A,72,279,27B,281,77,79
2D8:20.306,20.307,20.30A,20.328,20.303,20.30B 2E0:263,6C,73,78,295 340:300-301 343:313,308.301,3B9
370=372 374:2B9 376:377 37A:20.3B9 37E:3B,3F3 384:20.301,20.308.301,3AC,B7,3AD-3AF 38C:3CC
38E:3CD-3CE 391:3B1-3C1 3A3:3C3-3CB 3CF:3D7,3B2,3B8,3C5,3CD,3CB,3C6,3C0 3D8=3EE 3F0:3BA,3C1,3C3
3F4:3B8,3B5 3F7:3F8 3F9:3C3,3FB 3FD:37B-37D,450-45F,430-44F 460=480 48A=4BE 4C0:4CF 4C1=4CD 4D0=52E
531:561-586 587:565.582 675:627.674,648.674,6C7.674,64A.674
958:915.93C,916.93C,917.93C,91C.93C,921.93C,922.93C,92B.93C,92F.93C 9DC:9A1.9BC,9A2.9BC 9DF:9AF.9BC
A33:A32.A3C A36:A38.A3C A59:A16.A3C,A17.A3C,A1C.A3C A5E:A2B.A3C B5C:B21.B3C,B22.B3C E33:E4D.E32
EB3:ECD.EB2 EDC:EAB.E99,EAB.EA1 F0C:F0B F43:F42.FB7 F4D:F4C.FB7 F52:F51.FB7 F57:F56.FB7 F5C:F5B.FB7
F69:F40.FB5 F73:F71.F72 F75:F71.F74,FB2.F80,FB2.F71.F80,FB3.F80,FB3.F71.F80 F81:F71.F80 F93:F92.FB7
F9D:F9C.FB7 FA2:FA1.FB7 FA7:FA6.FB7 FAC:FAB.FB7 FB9:F90.FB5 10A0:2D00-2D25 10C7:2D27 10CD:2D2D
10FC:10DC 13F8:13F0-13F5 1C80:432,434,43E,441-442,442,44A,463,A64B,1C8A 1C90:10D0-10FA
1CBD:10FD-10FF 1D2C:61,E6,62 1D30:64-65,1DD,67-6E
1D3C:6F,223,70,72,74-75,77,61,250-251,1D02,62,64-65,259,25B-25C,67
1D4F:6B,6D,14B,6F,254,1D16-1D17,70,74-75,1D1D,26F,76,1D25,3B2-3B4,3C6-3C7,69,72
1D64:75-76,3B2-3B3,3C1,3C6-3C7 1D78:43D
1D9B:252,63,255,F0,25C,66,25F,261,265,268-26A,1D7B,29D,26D,1D85,29F,271,270,272-275
1DB2:278,282-283,1AB,289-28A,1D1C,28B-28C,7A,290-292,3B8 1E00=1E94 1E9A:61.2BE,1E61 1E9E:DF
1EA0=1EFE 1F08:1F00-1F07 1F18:1F10-1F15 1F28:1F20-1F27 1F38:1F30-1F37 1F48:1F40-1F45 1F59:1F51
1F5B:1F53 1F5D:1F55 1F5F:1F57 1F68:1F60-1F67 1F71:3AC 1F73:3AD 1F75:3AE 1F77:3AF 1F79:3CC 1F7B:3CD
1F7D:3CE 1F80:1F00.3B9,1F01.3B9,1F02.3B9,1F03.3B9,1F04.3B9,1F05.3B9,1F06.3B9,1F07.3B9
1F88:1F00.3B9,1F01.3B9,1F02.3B9,1F03.3B9,1F04.3B9,1F05.3B9,1F06.3B9,1F07.3B9
1F90:1F20.3B9,1F21.3B9,1F22.3B9,1F23.3B9,1F24.3B9,1F25.3B9,1F26.3B9,1F27.3B9
1F98:1F20.3B9,1F21.3B9,1F22.3B9,1F23.3B9,1F24.3B9,1F25.3B9,1F26.3B9,1F27.3B9
1FA0:1F60.3B9,1F61.3B9,1F62.3B9,1F63.3B9,1F64.3B9,1F65.3B9,1F66.3B9,1F67.3B9
1FA8:1F60.3B9,1F61.3B9,1F62.3B9,1F63.3B9,1F64.3B9,1F65.3B9,1F66.3B9,1F67.3B9
1FB2:1F70.3B9,3B1.3B9,3AC.3B9
1FB7:1FB6.3B9,1FB0-1FB1,1F70,3AC,3B1.3B9,20.313,3B9,20.313,20.342,20.308.342
1FC2:1F74.3B9,3B7.3B9,3AE.3B9
1FC7:1FC6.3B9,1F72,3AD,1F74,3AE,3B7.3B9,20.313.300,20.313.301,20.313.342 1FD3:390
1FD8:1FD0-1FD1,1F76,3AF 1FDD:20.314.300,20.314.301,20.314.342 1FE3:3B0
1FE8:1FE0-1FE1,1F7A,3CD,1FE5,20.308.300,20.308.301,60 1FF2:1F7C.3B9,3C9.3B9,3CE.3B9
1FF7:1FF6.3B9,1F78,3CC,1F7C,3CE,3C9.3B9,20.301,20.314 2000:20,20,20,20,20,20,20,20,20,20,20
2011:2010 2017:20.333 202F:20 2033:2032.2032,2032.2032.2032 2036:2035.2035,2035.2035.2035 203C:21.21
203E:20.305 2047:3F.3F,3F.21,21.3F 2057:2032.2032.2032.2032 205F:20 2070:30,69
2074:34-39,2B,2212,3D,28-29,6E,30-39,2B,2212,3D,28-29 2090:61,65,6F,78,259,68,6B-6E,70,73-74
20A8:72.73 2100:61.2F.63,61.2F.73,63,B0.63 2105:63.2F.6F,63.2F.75,25B
2109:B0.66,67-68,68,68,68,127,69,69,6C,6C 2115:6E,6E.6F 2119:70-72,72,72 2120:73.6D,74.65.6C,74.6D
2124:7A 2126:3C9 2128:7A 212A:6B,E5,62-63 212F:65,65-66,214E,6D,6F,5D0-5D3,69
213B:66.61.78,3C0,3B3,3B3,3C0,2211 2145:64,64-65,69-6A
2150:31.2044.37,31.2044.39,31.2044.31.30,31.2044.33,32.2044.33,31.2044.35,32.2044.35
2157:33.2044.35,34.2044.35,31.2044.36,35.2044.36,31.2044.38,33.2044.38,35.2044.38
215E:37.2044.38,31.2044,69,69.69,69.69.69,69.76,76,76.69,76.69.69,76.69.69.69,69.78
2169:78,78.69,78.69.69,6C,63-64,6D,69,69.69,69.69.69,69.76,76,76.69,76.69.69
2177:76.69.69.69,69.78,78,78.69,78.69.69,6C,63-64,6D 2183:2184 2189:30.2044.33
222C:222B.222B,222B.222B.222B 222F:222E.222E,222E.222E.222E 2329:3008-3009
2460:31-39,31.30,31.31,31.32,31.33,31.34,31.35,31.36,31.37,31.38,31.39,32.30
2474:28.31.29,28.32.29,28.33.29,28.34.29,28.35.29,28.36.29,28.37.29,28.38.29
247C:28.39.29,28.31.30.29,28.31.31.29,28.31.32.29,28.31.33.29,28.31.34.29
2482:28.31.35.29,28.31.36.29,28.31.37.29,28.31.38.29,28.31.39.29,28.32.30.29
249C:28.61.29,28.62.29,28.63.29,28.64.29,28.65.29,28.66.29,28.67.29,28.68.29
24A4:28.69.29,28.6A.29,28.6B.29,28.6C.29,28.6D.29,28.6E.29,28.6F.29,28.70.29
24AC:28.71.29,28.72.29,28.73.29,28.74.29,28.75.29,28.76.29,28.77.29,28.78.29
24B4:28.79.29,28.7A.29,61-7A,61-7A,30 2A0C:222B.222B.222B.222B 2A74:3A.3A.3D,3D.3D,3D.3D.3D
2ADC:2ADD.338 2C00:2C30-2C5F 2C60:2C61 2C62:26B,1D7D,27D 2C67=2C6B 2C6D:251,271,250,252 2C72:2C73
2C75:2C76 2C7C:6A,76,23F-240 2C80=2CE2 2CEB=2CED 2CF2:2CF3 2D6F:2D61 2E9F:6BCD 2EF3:9F9F
2F00:4E00,4E28,4E36,4E3F,4E59,4E85,4E8C,4EA0,4EBA,513F,5165,516B,5182,5196,51AB,51E0
2F10:51F5,5200,529B,52F9,5315,531A,5338,5341,535C,5369,5382,53B6,53C8,53E3,56D7,571F
2F20:58EB,5902,590A,5915,5927,5973,5B50,5B80,5BF8,5C0F,5C22,5C38,5C6E,5C71,5DDB,5DE5
2F30:5DF1,5DFE,5E72,5E7A,5E7F,5EF4,5EFE,5F0B,5F13,5F50,5F61,5F73,5FC3,6208,6236,624B
2F40:652F,6534,6587,6597,65A4,65B9,65E0,65E5,66F0,6708,6728,6B20,6B62,6B79,6BB3,6BCB
2F50:6BD4,6BDB,6C0F,6C14,6C34,706B,722A,7236,723B,723F,7247,7259,725B,72AC,7384,7389
2F60:74DC,74E6,7518,751F,7528,7530,758B,7592,7676,767D,76AE,76BF,76EE,77DB,77E2,77F3
2F70:793A,79B8,79BE,7A74,7ACB,7AF9,7C73,7CF8,7F36,7F51,7F8A,7FBD,8001,800C,8012,8033
2F80:807F,8089,81E3,81EA,81F3,81FC,820C,821B,821F,826E,8272,8278,864D,866B,8840,884C
2F90:8863,897E,898B,89D2,8A00,8C37,8C46,8C55,8C78,8C9D,8D64,8D70,8DB3,8EAB,8ECA,8F9B
2FA0:8FB0,8FB5,9091,9149,91C6,91CC,91D1,9577,9580,961C,96B6,96B9,96E8,9751,975E,9762
2FB0:9769,97CB,97ED,97F3,9801,98A8,98DB,98DF,9996,9999,99AC,9AA8,9AD8,9ADF,9B25,9B2F
2FC0:9B32,9B3C,9B5A,9CE5,9E75,9E7F,9EA5,9EBB,9EC3,9ECD,9ED1,9EF9,9EFD,9F0E,9F13,9F20
2FD0:9F3B,9F4A,9F52,9F8D,9F9C,9FA0 3000:20 3002:2E 3036:3012 3038:5341,5344-5345
309B:20.3099,20.309A 309F:3088.308A 30FF:30B3.30C8
3131:1100-1101,11AA,1102,11AC-11AD,1103-1105,11B0-11B5,111A,1106-1108,1121,1109-1112 314F:1161-1175
3165:1114-1115,11C7-11C8,11CC,11CE,11D3,11D7,11D9,111C,11DD,11DF,111D-111E,1120
3174:1122-1123,1127,1129,112B-112F,1132,1136,1140,1147,114C,11F1-11F2,1157-1159
3187:1184-1185,1188,1191-1192,1194,119E,11A1
3192:4E00,4E8C,4E09,56DB,4E0A,4E2D,4E0B,7532,4E59,4E19,4E01,5929,5730,4EBA
3200:28.1100.29,28.1102.29,28.1103.29,28.1105.29,28.1106.29,28.1107.29,28.1109.29
3207:28.110B.29,28.110C.29,28.110E.29,28.110F.29,28.1110.29,28.1111.29,28.1112.29
320E:28.AC00.29,28.B098.29,28.B2E4.29,28.B77C.29,28.B9C8.29,28.BC14.29,28.C0AC.29
3215:28.C544.29,28.C790.29,28.CC28.29,28.CE74.29,28.D0C0.29,28.D30C.29,28.D558.29
321C:28.C8FC.29,28.C624.C804.29,28.C624.D6C4.29
3220:28.4E00.29,28.4E8C.29,28.4E09.29,28.56DB.29,28.4E94.29,28.516D.29,28.4E03.29
3227:28.516B.29,28.4E5D.29,28.5341.29,28.6708.29,28.706B.29,28.6C34.29,28.6728.29
322E:28.91D1.29,28.571F.29,28.65E5.29,28.682A.29,28.6709.29,28.793E.29,28.540D.29
3235:28.7279.29,28.8CA1.29,28.795D.29,28.52B4.29,28.4EE3.29,28.547C.29,28.5B66.29
323C:28.76E3.29,28.4F01.29,28.8CC7.29,28.5354.29,28.796D.29,28.4F11.29,28.81EA.29
3243:28.81F3.29,554F,5E7C,6587,7B8F
3250:70.74.65,32.31,32.32,32.33,32.34,32.35,32.36,32.37,32.38,32.39,33.30,33.31
325C:33.32,33.33,33.34,33.35,1100,1102-1103,1105-1107,1109,110B-110C,110E-1112,AC00
326F:B098,B2E4,B77C,B9C8,BC14,C0AC,C544,C790,CC28,CE74,D0C0,D30C,D558,CC38.ACE0 327D:C8FC.C758,C6B0
3280:4E00,4E8C,4E09,56DB,4E94,516D,4E03,516B,4E5D,5341,6708,706B,6C34,6728,91D1,571F
3290:65E5,682A,6709,793E,540D,7279,8CA1,795D,52B4,79D8,7537,5973,9069,512A,5370,6CE8
32A0:9805,4F11,5199,6B63,4E0A,4E2D,4E0B,5DE6,53F3,533B,5B97,5B66,76E3,4F01,8CC7,5354
32B0:591C,33.36,33.37,33.38,33.39,34.30,34.31,34.32,34.33,34.34,34.35,34.36,34.37
32BD:34.38,34.39,35.30,31.6708,32.6708,33.6708,34.6708,35.6708,36.6708,37.6708
32C7:38.6708,39.6708,31.30.6708,31.31.6708,31.32.6708,68.67,65.72.67,65.76,6C.74.64
32D0:30A2,30A4,30A6,30A8,30AA-30AB,30AD,30AF,30B1,30B3,30B5,30B7,30B9,30BB,30BD,30BF
32E0:30C1,30C4,30C6,30C8,30CA-30CF,30D2,30D5,30D8,30DB,30DE-30E2,30E4,30E6,30E8-30ED
32FB:30EF-30F2,4EE4.548C,30A2.30D1.30FC.30C8,30A2.30EB.30D5.30A1,30A2.30F3.30DA.30A2
3303:30A2.30FC.30EB,30A4.30CB.30F3.30B0,30A4.30F3.30C1,30A6.30A9.30F3
3307:30A8.30B9.30AF.30FC.30C9,30A8.30FC.30AB.30FC,30AA.30F3.30B9,30AA.30FC.30E0
330B:30AB.30A4.30EA,30AB.30E9.30C3.30C8,30AB.30ED.30EA.30FC,30AC.30ED.30F3
330F:30AC.30F3.30DE,30AE.30AC,30AE.30CB.30FC,30AD.30E5.30EA.30FC,30AE.30EB.30C0.30FC
3314:30AD.30ED,30AD.30ED.30B0.30E9.30E0,30AD.30ED.30E1.30FC.30C8.30EB
3317:30AD.30ED.30EF.30C3.30C8,30B0.30E9.30E0,30B0.30E9.30E0.30C8.30F3
331A:30AF.30EB.30BC.30A4.30ED,30AF.30ED.30FC.30CD,30B1.30FC.30B9,30B3.30EB.30CA
331E:30B3.30FC.30DD,30B5.30A4.30AF.30EB,30B5.30F3.30C1.30FC.30E0,30B7.30EA.30F3.30B0
3322:30BB.30F3.30C1,30BB.30F3.30C8,30C0.30FC.30B9,30C7.30B7,30C9.30EB,30C8.30F3
3328:30CA.30CE,30CE.30C3.30C8,30CF.30A4.30C4,30D1.30FC.30BB.30F3.30C8,30D1.30FC.30C4
332D:30D0.30FC.30EC.30EB,30D4.30A2.30B9.30C8.30EB,30D4.30AF.30EB,30D4.30B3,30D3.30EB
3332:30D5.30A1.30E9.30C3.30C9,30D5.30A3.30FC.30C8,30D6.30C3.30B7.30A7.30EB
3335:30D5.30E9.30F3,30D8.30AF.30BF.30FC.30EB,30DA.30BD,30DA.30CB.30D2,30D8.30EB.30C4
333A:30DA.30F3.30B9,30DA.30FC.30B8,30D9.30FC.30BF,30DD.30A4.30F3.30C8,30DC.30EB.30C8
333F:30DB.30F3,30DD.30F3.30C9,30DB.30FC.30EB,30DB.30FC.30F3,30DE.30A4.30AF.30ED
3344:30DE.30A4.30EB,30DE.30C3.30CF,30DE.30EB.30AF,30DE.30F3.30B7.30E7.30F3
3348:30DF.30AF.30ED.30F3,30DF.30EA,30DF.30EA.30D0.30FC.30EB,30E1.30AC
334C:30E1.30AC.30C8.30F3,30E1.30FC.30C8.30EB,30E4.30FC.30C9,30E4.30FC.30EB
3350:30E6.30A2.30F3,30EA.30C3.30C8.30EB,30EA.30E9,30EB.30D4.30FC,30EB.30FC.30D6.30EB
3355:30EC.30E0,30EC.30F3.30C8.30B2.30F3,30EF.30C3.30C8,30.70B9,31.70B9,32.70B9
335B:33.70B9,34.70B9,35.70B9,36.70B9,37.70B9,38.70B9,39.70B9,31.30.70B9,31.31.70B9
3364:31.32.70B9,31.33.70B9,31.34.70B9,31.35.70B9,31.36.70B9,31.37.70B9,31.38.70B9
336B:31.39.70B9,32.30.70B9,32.31.70B9,32.32.70B9,32.33.70B9,32.34.70B9,68.70.61
3372:64.61,61.75,62.61.72,6F.76,70.63,64.6D,64.6D.32,64.6D.33,69.75,5E73.6210
337C:662D.548C,5927.6B63,660E.6CBB,682A.5F0F.4F1A.793E,70.61,6E.61,3BC.61,6D.61
3384:6B.61,6B.62,6D.62,67.62,63.61.6C,6B.63.61.6C,70.66,6E.66,3BC.66,3BC.67,6D.67
338F:6B.67,68.7A,6B.68.7A,6D.68.7A,67.68.7A,74.68.7A,3BC.6C,6D.6C,64.6C,6B.6C,66.6D
339A:6E.6D,3BC.6D,6D.6D,63.6D,6B.6D,6D.6D.32,63.6D.32,6D.32,6B.6D.32,6D.6D.33
33A4:63.6D.33,6D.33,6B.6D.33,6D.2215.73,6D.2215.73.32,70.61,6B.70.61,6D.70.61
33AC:67.70.61,72.61.64,72.61.64.2215.73,72.61.64.2215.73.32,70.73,6E.73,3BC.73,6D.73
33B4:70.76,6E.76,3BC.76,6D.76,6B.76,6D.76,70.77,6E.77,3BC.77,6D.77,6B.77,6D.77 33C0:6B.3C9,6D.3C9
33C3:62.71,63.63,63.64,63.2215.6B.67
33C8:64.62,67.79,68.61,68.70,69.6E,6B.6B,6B.6D,6B.74,6C.6D,6C.6E,6C.6F.67,6C.78
33D4:6D.62,6D.69.6C,6D.6F.6C,70.68
33D9:70.70.6D,70.72,73.72,73.76,77.62,76.2215.6D,61.2215.6D,31.65E5,32.65E5,33.65E5
33E3:34.65E5,35.65E5,36.65E5,37.65E5,38.65E5,39.65E5,31.30.65E5,31.31.65E5
33EB:31.32.65E5,31.33.65E5,31.34.65E5,31.35.65E5,31.36.65E5,31.37.65E5,31.38.65E5
33F2:31.39.65E5,32.30.65E5,32.31.65E5,32.32.65E5,32.33.65E5,32.34.65E5,32.35.65E5
33F9:32.36.65E5,32.37.65E5,32.38.65E5,32.39.65E5,33.30.65E5,33.31.65E5,67.61.6C A640=A66C A680=A69A
A69C:44A,44C A722=A72E A732=A76E A770:A76F A779=A77B A77D:1D79 A77E=A786 A78B:A78C A78D:265
A790=A792 A796=A7A8 A7AA:266,25C,261,26C,26A A7B0:29E,287,29D,AB53 A7B4=A7C2 A7C4:A794,282,1D8E
A7C7=A7C9 A7CB:264 A7CC=A7DA A7DC:19B A7F1:73,63,66,71,A7F6 A7F8:127,153 AB5C:A727,AB37,26B,AB52
AB69:28D AB70:13A0-13EF
F900:8C48,66F4,8ECA,8CC8,6ED1,4E32,53E5,9F9C,9F9C,5951,91D1,5587,5948,61F6,7669,7F85
F910:863F,87BA,88F8,908F,6A02,6D1B,70D9,73DE,843D,916A,99F1,4E82,5375,6B04,721B,862D
F920:9E1E,5D50,6FEB,85CD,8964,62C9,81D8,881F,5ECA,6717,6D6A,72FC,90CE,4F86,51B7,52DE
F930:64C4,6AD3,7210,76E7,8001,8606,865C,8DEF,9732,9B6F,9DFA,788C,797F,7DA0,83C9,9304
F940:9E7F,8AD6,58DF,5F04,7C60,807E,7262,78CA,8CC2,96F7,58D8,5C62,6A13,6DDA,6F0F,7D2F
F950:7E37,964B,52D2,808B,51DC,51CC,7A1C,7DBE,83F1,9675,8B80,62CF,6A02,8AFE,4E39,5BE7
F960:6012,7387,7570,5317,78FB,4FBF,5FA9,4E0D,6CCC,6578,7D22,53C3,585E,7701,8449,8AAA
F970:6BBA,8FB0,6C88,62FE,82E5,63A0,7565,4EAE,5169,51C9,6881,7CE7,826F,8AD2,91CF,52F5
F980:5442,5973,5EEC,65C5,6FFE,792A,95AD,9A6A,9E97,9ECE,529B,66C6,6B77,8F62,5E74,6190
F990:6200,649A,6F23,7149,7489,79CA,7DF4,806F,8F26,84EE,9023,934A,5217,52A3,54BD,70C8
F9A0:88C2,8AAA,5EC9,5FF5,637B,6BAE,7C3E,7375,4EE4,56F9,5BE7,5DBA,601C,73B2,7469,7F9A
F9B0:8046,9234,96F6,9748,9818,4F8B,79AE,91B4,96B8,60E1,4E86,50DA,5BEE,5C3F,6599,6A02
F9C0:71CE,7642,84FC,907C,9F8D,6688,962E,5289,677B,67F3,6D41,6E9C,7409,7559,786B,7D10
F9D0:985E,516D,622E,9678,502B,5D19,6DEA,8F2A,5F8B,6144,6817,7387,9686,5229,540F,5C65
F9E0:6613,674E,68A8,6CE5,7406,75E2,7F79,88CF,88E1,91CC,96E2,533F,6EBA,541D,71D0,7498
F9F0:85FA,96A3,9C57,9E9F,6797,6DCB,81E8,7ACB,7B20,7C92,72C0,7099,8B58,4EC0,8336,523A
FA00:5207,5EA6,62D3,7CD6,5B85,6D1E,66B4,8F3B,884C,964D,898B,5ED3,5140,55C0 FA10:585A FA12:6674
FA15:51DE,732A,76CA,793C,795E,7965,798F,9756,7CBE,7FBD FA20:8612 FA22:8AF8 FA25:9038,90FD
FA2A:98EF,98FC,9928,9DB4,90DE,96B7,4FAE,50E7,514D,52C9,52E4,5351,559D,5606,5668,5840
FA3A:58A8,5C64,5C6E,6094,6168,618E,61F2,654F,65E2,6691,6885,6D77,6E1A,6F22,716E,722B
FA4A:7422,7891,793E,7949,7948,7950,7956,795D,798D-798E,7A40,7A81,7BC0,7DF4,7E09,7E41
FA5A:7F72,8005,81ED,8279,8279,8457,8910,8996,8B01,8B39,8CD3,8D08,8FB6,9038,96E3,97FF
FA6A:983B,6075,242EE,8218
FA70:4E26,51B5,5168,4F80,5145,5180,52C7,52FA,559D,5555,5599,55E2,585A,58B3,5944,5954
FA80:5A62,5B28,5ED2,5ED9,5F69,5FAD,60D8,614E,6108,618E,6160,61F2,6234,63C4,641C,6452
FA90:6556,6674,6717,671B,6756,6B79,6BBA,6D41,6EDB,6ECB,6F22,701E,716E,77A7,7235,72AF
FAA0:732A,7471,7506,753B,761D,761F,76CA,76DB,76F4,774A,7740,78CC,7AB1,7BC0,7C7B,7D5B
FAB0:7DF4,7F3E,8005,8352,83EF,8779,8941,8986,8996,8ABF,8AF8,8ACB,8B01,8AFE,8AED,8B39
FAC0:8B8A,8D08,8F38,9072,9199,9276,967C,96E3,9756,97DB,97FF,980B,983B,9B12,9F9C
FACF:2284A,22844,233D5,3B9D,4018,4039,25249,25CD0,27ED3,9F43,9F8E
FB00:66.66,66.69,66.6C,66.66.69,66.66.6C,73.74,73.74 FB13:574.576,574.565,574.56B,57E.576,574.56D
FB1D:5D9.5B4 FB1F:5F2.5B7,5E2,5D0,5D3-5D4,5DB-5DD,5E8,5EA,2B,5E9.5C1,5E9.5C2,5E9.5BC.5C1
FB2D:5E9.5BC.5C2,5D0.5B7,5D0.5B8,5D0.5BC,5D1.5BC,5D2.5BC,5D3.5BC,5D4.5BC,5D5.5BC FB36:5D6.5BC
FB38:5D8.5BC,5D9.5BC,5DA.5BC,5DB.5BC,5DC.5BC FB3E:5DE.5BC FB40:5E0.5BC,5E1.5BC FB43:5E3.5BC,5E4.5BC
FB46:5E6.5BC,5E7.5BC,5E8.5BC,5E9.5BC,5EA.5BC,5D5.5B9,5D1.5BF,5DB.5BF,5E4.5BF,5D0.5DC
FB50:671,671,67B,67B,67B,67B,67E,67E,67E,67E,680,680,680,680,67A,67A,67A,67A,67F,67F
FB64:67F,67F,679,679,679,679,6A4,6A4,6A4,6A4,6A6,6A6,6A6,6A6,684,684,684,684,683,683
FB78:683,683,686,686,686,686-687,687,687,687,68D,68D,68C,68C,68E,68E,688,688,698,698
FB8C:691,691,6A9,6A9,6A9,6A9,6AF,6AF,6AF,6AF,6B3,6B3,6B3,6B3,6B1,6B1,6B1,6B1,6BA
FB9F:6BA-6BB,6BB,6BB,6BB,6C0,6C0-6C1,6C1,6C1,6C1,6BE,6BE,6BE,6BE,6D2,6D2-6D3,6D3
FBD3:6AD,6AD,6AD,6AD,6C7,6C7,6C6,6C6,6C8,6C8,6C7.674,6CB,6CB,6C5,6C5,6C9,6C9,6D0,6D0
FBE6:6D0,6D0,649,649,626.627,626.627,626.6D5,626.6D5,626.648,626.648,626.6C7,626.6C7
FBF2:626.6C6,626.6C6,626.6C8,626.6C8,626.6D0,626.6D0,626.6D0,626.649,626.649,626.649
FBFC:6CC,6CC,6CC,6CC,626.62C,626.62D,626.645,626.649,626.64A,628.62C,628.62D,628.62E
FC08:628.645,628.649,628.64A,62A.62C,62A.62D,62A.62E,62A.645,62A.649,62A.64A,62B.62C
FC12:62B.645,62B.649,62B.64A,62C.62D,62C.645,62D.62C,62D.645,62E.62C,62E.62D,62E.645
FC1C:633.62C,633.62D,633.62E,633.645,635.62D,635.645,636.62C,636.62D,636.62E,636.645
FC26:637.62D,637.645,638.645,639.62C,639.645,63A.62C,63A.645,641.62C,641.62D,641.62E
FC30:641.645,641.649,641.64A,642.62D,642.645,642.649,642.64A,643.627,643.62C,643.62D
FC3A:643.62E,643.644,643.645,643.649,643.64A,644.62C,644.62D,644.62E,644.645,644.649
FC44:644.64A,645.62C,645.62D,645.62E,645.645,645.649,645.64A,646.62C,646.62D,646.62E
FC4E:646.645,646.649,646.64A,647.62C,647.645,647.649,647.64A,64A.62C,64A.62D,64A.62E
FC58:64A.645,64A.649,64A.64A,630.670,631.670,649.670,20.64C.651,20.64D.651
FC60:20.64E.651,20.64F.651,20.650.651,20.651.670,626.631,626.632,626.645,626.646
FC68:626.649,626.64A,628.631,628.632,628.645,628.646,628.649,628.64A,62A.631,62A.632
FC72:62A.645,62A.646,62A.649,62A.64A,62B.631,62B.632,62B.645,62B.646,62B.649,62B.64A
FC7C:641.649,641.64A,642.649,642.64A,643.627,643.644,643.645,643.649,643.64A,644.645
FC86:644.649,644.64A,645.627,645.645,646.631,646.632,646.645,646.646,646.649,646.64A
FC90:649.670,64A.631,64A.632,64A.645,64A.646,64A.649,64A.64A,626.62C,626.62D,626.62E
FC9A:626.645,626.647,628.62C,628.62D,628.62E,628.645,628.647,62A.62C,62A.62D,62A.62E
FCA4:62A.645,62A.647,62B.645,62C.62D,62C.645,62D.62C,62D.645,62E.62C,62E.645,633.62C
FCAE:633.62D,633.62E,633.645,635.62D,635.62E,635.645,636.62C,636.62D,636.62E,636.645
FCB8:637.62D,638.645,639.62C,639.645,63A.62C,63A.645,641.62C,641.62D,641.62E,641.645
FCC2:642.62D,642.645,643.62C,643.62D,643.62E,643.644,643.645,644.62C,644.62D,644.62E
FCCC:644.645,644.647,645.62C,645.62D,645.62E,645.645,646.62C,646.62D,646.62E,646.645
FCD6:646.647,647.62C,647.645,647.670,64A.62C,64A.62D,64A.62E,64A.645,64A.647,626.645
FCE0:626.647,628.645,628.647,62A.645,62A.647,62B.645,62B.647,633.645,633.647,634.645
FCEA:634.647,643.644,643.645,644.645,646.645,646.647,64A.645,64A.647,640.64E.651
FCF3:640.64F.651,640.650.651,637.649,637.64A,639.649,639.64A,63A.649,63A.64A,633.649
FCFC:633.64A,634.649,634.64A,62D.649,62D.64A,62C.649,62C.64A,62E.649,62E.64A,635.649
FD06:635.64A,636.649,636.64A,634.62C,634.62D,634.62E,634.645,634.631,633.631,635.631
FD10:636.631,637.649,637.64A,639.649,639.64A,63A.649,63A.64A,633.649,633.64A,634.649
FD1A:634.64A,62D.649,62D.64A,62C.649,62C.64A,62E.649,62E.64A,635.649,635.64A,636.649
FD24:636.64A,634.62C,634.62D,634.62E,634.645,634.631,633.631,635.631,636.631,634.62C
FD2E:634.62D,634.62E,634.645,633.647,634.647,637.645,633.62C,633.62D,633.62E,634.62C
FD38:634.62D,634.62E,637.645,638.645,627.64B,627.64B
FD50:62A.62C.645,62A.62D.62C,62A.62D.62C,62A.62D.645,62A.62E.645,62A.645.62C
FD56:62A.645.62D,62A.645.62E,62C.645.62D,62C.645.62D,62D.645.64A,62D.645.649
FD5C:633.62D.62C,633.62C.62D,633.62C.649,633.645.62D,633.645.62D,633.645.62C
FD62:633.645.645,633.645.645,635.62D.62D,635.62D.62D,635.645.645,634.62D.645
FD68:634.62D.645,634.62C.64A,634.645.62E,634.645.62E,634.645.645,634.645.645
FD6E:636.62D.649,636.62E.645,636.62E.645,637.645.62D,637.645.62D,637.645.645
FD74:637.645.64A,639.62C.645,639.645.645,639.645.645,639.645.649,63A.645.645
FD7A:63A.645.64A,63A.645.649,641.62E.645,641.62E.645,642.645.62D,642.645.645
FD80:644.62D.645,644.62D.64A,644.62D.649,644.62C.62C,644.62C.62C,644.62E.645
FD86:644.62E.645,644.645.62D,644.645.62D,645.62D.62C,645.62D.645,645.62D.64A
FD8C:645.62C.62D,645.62C.645,645.62E.62C,645.62E.645
FD92:645.62C.62E,647.645.62C,647.645.645,646.62D.645,646.62D.649,646.62C.645
FD98:646.62C.645,646.62C.649,646.645.64A,646.645.649,64A.645.645,64A.645.645
FD9E:628.62E.64A,62A.62C.64A,62A.62C.649,62A.62E.64A,62A.62E.649,62A.645.64A
FDA4:62A.645.649,62C.645.64A,62C.62D.649,62C.645.649,633.62E.649,635.62D.64A
FDAA:634.62D.64A,636.62D.64A,644.62C.64A,644.645.64A,64A.62D.64A,64A.62C.64A
FDB0:64A.645.64A,645.645.64A,642.645.64A,646.62D.64A,642.645.62D,644.62D.645
FDB6:639.645.64A,643.645.64A,646.62C.62D,645.62E.64A,644.62C.645,643.645.645
FDBC:644.62C.645,646.62C.62D,62C.62D.64A,62D.62C.64A,645.62C.64A,641.645.64A
FDC2:628.62D.64A,643.645.645,639.62C.645,635.645.645,633.62E.64A,646.62C.64A
FDF0:635.644.6D2,642.644.6D2,627.644.644.647,627.643.628.631,645.62D.645.62F
FDF5:635.644.639.645,631.633.648.644,639.644.64A.647,648.633.644.645,635.644.649
FDFA:635.644.649.20.627.644.644.647.20.639.644.64A.647.20.648.633.644.645
FDFB:62C.644.20.62C.644.627.644.647,631.6CC.627.644 FE10:2C,3001 FE13:3A-3B,21,3F,3016-3017
FE31:2014,2013,5F,5F,28-29,7B,7D,3014-3015,3010-3011,300A-300B,3008-3009,300C-300F
FE47:5B,5D,20.305,20.305,20.305,20.305,5F,5F,5F,2C,3001
FE54:3B,3A,3F,21,2014,28-29,7B,7D,3014-3015,23,26,2A-2B,2D,3C,3E,3D FE68:5C,24-25,40
FE70:20.64B,640.64B,20.64C FE74:20.64D
FE76:20.64E,640.64E,20.64F,640.64F,20.650,640.650,20.651,640.651,20.652,640.652
FE80:621-622,622-623,623-624,624-625,625-626,626,626,626-627,627-628,628,628,628-629
FE94:629-62A,62A,62A,62A-62B,62B,62B,62B-62C,62C,62C,62C-62D,62D,62D,62D-62E,62E,62E
FEA8:62E-62F,62F-630,630-631,631-632,632-633,633,633,633-634,634,634,634-635,635,635
FEBC:635-636,636,636,636-637,637,637,637-638,638,638,638-639,639,639,639-63A,63A,63A
FED0:63A,641,641,641,641-642,642,642,642-643,643,643,643-644,644,644,644-645,645,645
FEE4:645-646,646,646,646-647,647,647,647-648,648-649,649-64A,64A,64A,64A,644.622
FEF6:644.622,644.623,644.623,644.625,644.625,644.627,644.627
FF01:21-40,61-7A,5B-7E,2985-2986,2E,300C-300D,3001,30FB,30F2,30A1,30A3,30A5,30A7
FF6B:30A9,30E3,30E5,30E7,30C3,30FC,30A2,30A4,30A6,30A8,30AA-30AB,30AD,30AF,30B1,30B3
FF7B:30B5,30B7,30B9,30BB,30BD,30BF,30C1,30C4,30C6,30C8,30CA-30CF,30D2,30D5,30D8,30DB
FF8F:30DE-30E2,30E4,30E6,30E8-30ED,30EF,30F3,3099-309A
FFA1:1100-1101,11AA,1102,11AC-11AD,1103-1105,11B0-11B5,111A,1106-1108,1121,1109-1112 FFC2:1161-1166
FFCA:1167-116C FFD2:116D-1172 FFDA:1173-1175 FFE0:A2-A3,AC,20.304,A6,A5,20A9
FFE8:2502,2190-2193,25A0,25CB 10400:10428-1044F 104B0:104D8-104FB 10570:10597-105A1
1057C:105A3-105B1 1058C:105B3-105B9 10594:105BB-105BC 10781:2D0-2D1,E6,299,253
10787:2A3,AB66,2A5,2A4,256-257,1D91,258,25E,2A9,264,262,260,29B,127,29C,267,284
10799:2AA-2AB,26C,1DF04,A78E,26E,1DF05,28E,1DF06,F8,276-277,71,27A,1DF08,27D-27E,280
107AB:2A8,2A6,AB67,2A7,288,2C71 107B2:28F,2A1-2A2,298,1C0-1C2,1DF0A,1DF1E 10C80:10CC0-10CF2
10D50:10D70-10D85 118A0:118C0-118DF 16E40:16E60-16E7F 16EA0:16EBB-16ED3 1CCD6:61-7A,30-39
1D15E:1D157.1D165,1D158.1D165,1D158.1D165.1D16E,1D158.1D165.1D16F,1D158.1D165.1D170
1D163:1D158.1D165.1D171,1D158.1D165.1D172
1D1BB:1D1B9.1D165,1D1BA.1D165,1D1B9.1D165.1D16E,1D1BA.1D165.1D16E,1D1B9.1D165.1D16F
1D1C0:1D1BA.1D165.1D16F 1D400:61-7A,61-7A,61-7A,61-67 1D456:69-7A,61-7A,61-7A,61 1D49E:63-64
1D4A2:67 1D4A5:6A-6B 1D4A9:6E-71 1D4AE:73-7A,61-64 1D4BB:66 1D4BD:68-6E
1D4C5:70-7A,61-7A,61-7A,61-62 1D507:64-67 1D50D:6A-71 1D516:73-79 1D51E:61-7A,61-62 1D53B:64-67
1D540:69-6D 1D546:6F 1D54A:73-79
1D552:61-7A,61-7A,61-7A,61-7A,61-7A,61-7A,61-7A,61-7A,61-7A,61-7A,61-7A,61-7A,61-7A 1D6A4:131,237
1D6A8:3B1-3C1,3B8,3C3-3C9,2207,3B1-3C1,3C3,3C3-3C9,2202,3B5,3B8,3BA,3C6,3C1,3C0
1D6E2:3B1-3C1,3B8,3C3-3C9,2207,3B1-3C1,3C3,3C3-3C9,2202,3B5,3B8,3BA,3C6,3C1,3C0
1D71C:3B1-3C1,3B8,3C3-3C9,2207,3B1-3C1,3C3,3C3-3C9,2202,3B5,3B8,3BA,3C6,3C1,3C0
1D756:3B1-3C1,3B8,3C3-3C9,2207,3B1-3C1,3C3,3C3-3C9,2202,3B5,3B8,3BA,3C6,3C1,3C0
1D790:3B1-3C1,3B8,3C3-3C9,2207,3B1-3C1,3C3,3C3-3C9,2202,3B5,3B8,3BA,3C6,3C1,3C0,3DD 1D7CB:3DD
1D7CE:30-39,30-39,30-39,30-39,30-39
1E030:430-438,43A-43C,43E-448,44B,44D-44E,A689,4D9,456,458,4E9,4AF,4CF,430-438
1E05A:43A-43B,43E-43F,441,443-448,44A-44B,491,456,455,45F,4AB,A651,4B1 1E900:1E922-1E943
1EE00:627-628,62C,62F
1EE05:648,632,62D,637,64A,643-646,633,639,641,635,642,631,634,62A-62B,62E,630,636,638
1EE1B:63A,66E,6BA,6A1,66F 1EE21:628,62C 1EE24:647 1EE27:62D 1EE29:64A,643-646,633,639,641,635,642
1EE34:634,62A-62B,62E 1EE39:636 1EE3B:63A 1EE42:62C 1EE47:62D 1EE49:64A 1EE4B:644 1EE4D:646,633,639
1EE51:635,642 1EE54:634 1EE57:62E 1EE59:636 1EE5B:63A 1EE5D:6BA 1EE5F:66F 1EE61:628,62C 1EE64:647
1EE67:62D,637,64A,643 1EE6C:645-646,633,639,641,635,642 1EE74:634,62A-62B,62E 1EE79:636,638,63A,66E
1EE7E:6A1 1EE80:627-628,62C,62F,647-648,632,62D,637,64A
1EE8B:644-646,633,639,641,635,642,631,634,62A-62B,62E,630,636,638,63A 1EEA1:628,62C,62F
1EEA5:648,632,62D,637,64A 1EEAB:644-646,633,639,641,635,642,631,634,62A-62B,62E,630,636,638,63A
1F101:30.2C,31.2C,32.2C,33.2C,34.2C,35.2C,36.2C,37.2C,38.2C,39.2C
1F110:28.61.29,28.62.29,28.63.29,28.64.29,28.65.29,28.66.29,28.67.29,28.68.29
1F118:28.69.29,28.6A.29,28.6B.29,28.6C.29,28.6D.29,28.6E.29,28.6F.29,28.70.29
1F120:28.71.29,28.72.29,28.73.29,28.74.29,28.75.29,28.76.29,28.77.29,28.78.29
1F128:28.79.29,28.7A.29,3014.73.3015,63,72,63.64,77.7A
1F130:61-7A,68.76,6D.76,73.64,73.73,70.70.76,77.63 1F16A:6D.63,6D.64,6D.72 1F190:64.6A
1F200:307B.304B,30B3.30B3,30B5
1F210:624B,5B57,53CC,30C7,4E8C,591A,89E3,5929,4EA4,6620,7121,6599,524D,5F8C,518D,65B0
1F220:521D,7D42,751F,8CA9,58F0,5439,6F14,6295,6355,4E00,4E09,904A,5DE6,4E2D,53F3,6307
1F230:8D70,6253,7981,7A7A,5408,6E80,6709,6708,7533,5272,55B6,914D
1F240:3014.672C.3015,3014.4E09.3015,3014.4E8C.3015,3014.5B89.3015,3014.70B9.3015
1F245:3014.6253.3015,3014.76D7.3015,3014.52DD.3015,3014.6557.3015 1F250:5F97,53EF 1FBF0:30-39
2F800:4E3D,4E38,4E41,20122,4F60,4FAE,4FBB,5002,507A,5099,50E7,50CF,349E,2063A,514D
2F80F:5154,5164,5177,2051C,34B9,5167,518D,2054B,5197,51A4,4ECC,51AC,51B5,291DF,51F5
2F81E:5203,34DF,523B,5246,5272,5277,3515,52C7,52C9,52E4,52FA,5305-5306,5317,5349,5351
2F82E:535A,5373,537D,537F,537F,537F,20A2C,7070,53CA,53DF,20B63,53EB,53F1,5406,549E
2F83D:5438,5448,5468,54A2,54F6,5510,5553,5563,5584,5584,5599,55AB,55B3,55C2,5716,5606
2F84D:5717,5651,5674,5207,58EE,57CE,57F4,580D,578B,5832,5831,58AC,214E4,58F2,58F7
2F85C:5906,591A,5922,5962,216A8,216EA,59EC,5A1B,5A27,59D8,5A66,36EE,36FC,5B08,5B3E
2F86B:5B3E,219C8,5BC3,5BD8,5BE7,5BF3,21B18,5BFF,5C06,5F53,5C22,3781,5C60,5C6E,5CC0
2F87A:5C8D,21DE4,5D43,21DE6,5D6E,5D6B,5D7C,5DE1-5DE2,382F,5DFD,5E28,5E3D,5E69,3862
2F889:22183,387C,5EB0,5EB3,5EB6,5ECA,2A392,5EFE,22331,22331,8201,5F22,5F22,38C7,232B8
2F898:261DA,5F62,5F6B,38E3,5F9A,5FCD,5FD7,5FF9,6081,393A,391C,6094,226D4,60C7,6148
2F8A7:614C,614E,614C,617A,618E,61B2,61A4,61AF,61DE,61F2,61F6,6210,621B,625D,62B1,62D4
2F8B7:6350,22B0C,633D,62FC,6368,6383,63E4,22BF1,6422,63C5,63A9,3A2E,6469,647E,649D
2F8C6:6477,3A6C,654F,656C,2300A,65E3,66F8,6649,3B19,6691,3B08,3AE4,5192,5195,6700
2F8D5:669C,80AD,43D9,6717,671B,6721,675E,6753,233C3,3B49,67FA,6785,6852,6885,2346D
2F8E4:688E,681F,6914,3B9D,6942,69A3,69EA,6AA8,236A3,6ADB,3C18,6B21,238A7,6B54,3C4E
2F8F3:6B72,6B9F,6BBA-6BBB,23A8D,21D0B,23AFA,6C4E,23CBC,6CBF,6CCD,6C67,6D16,6D3E,6D77
2F902:6D41,6D69,6D78,6D85,23D1E,6D34,6E2F,6E6E,3D33,6ECB,6EC7,23ED1,6DF9,6F6E,23F5E
2F911:23F8E,6FC6,7039,701E,701B,3D96,704A,707D,7077,70AD,20525,7145,24263,719C,243AB
2F920:7228,7235,7250,24608,7280,7295,24735,24814,737A,738B,3EAC,73A5,3EB8,3EB8,7447
2F92F:745C,7471,7485,74CA,3F1B,7524,24C36,753E,24C92,7570,2219F,7610,24FA1,24FB8
2F93D:25044,3FFC,4008,76F4,250F3,250F2,25119,25133,771E-771F,771F,774A,4039,778B,4046
2F94C:4096,2541D,784E,788C,78CC,40E3,25626,7956,2569A,256C5,798F,79EB,412F,7A40,7A4A
2F95B:7A4F,2597C,25AA7,25AA7,7AEE,4202,25BAB,7BC6,7BC9,4227,25C80,7CD2,42A0,7CE8,7CE3
2F96A:7D00,25F86,7D63,4301,7DC7,7E02,7E45,4334,26228,26247,4359,262D9,7F7A,2633E,7F95
2F979:7FFA,8005,264DA,26523,8060,265A8,8070,2335F,43D5,80B2,8103,440B,813E,5AB5,267A7
2F988:267B5,23393,2339C,8201,8204,8F9E,446B,8291,828B,829D,52B3,82B1,82B3,82BD,82E6
2F997:26B3C,82E5,831D,8363,83AD,8323,83BD,83E7,8457,8353,83CA,83CC,83DC,26C36,26D6B
2F9A6:26CD5,452B,84F1,84F3,8516,273CA,8564,26F2C,455D,4561,26FB1,270D2,456B,8650,865C
2F9B5:8667,8669,86A9,8688,870E,86E2,8779,8728,876B,8786,45D7,87E1,8801,45F9,8860,8863
2F9C5:27667,88D7,88DE,4635,88FA,34BB,278AE,27966,46BE,46C7,8AA0,8AED,8B8A,8C55,27CA8
2F9D4:8CAB,8CC1,8D1B,8D77,27F2F,20804,8DCB,8DBC,8DF0,208DE,8ED4,8F38,285D2,285ED,9094
2F9E3:90F1,9111,2872E,911B,9238,92D7-92D8,927C,93F9,9415,28BFA,958B,4995,95B7,28D77
2F9F2:49E6,96C3,5DB2,9723,29145,2921A,4A6E,4A76,97E0,2940A,4AB2,29496,980B,980B,9829
2FA01:295B6,98E2,4B33,9929,99A7,99C2,99FE,4BCE,29B30,9B12,9C40,9CFD,4CCE,4CED,9D67
2FA10:2A0CE,4CF8,2A105,2A20E,2A291,9EBB,4D56,9EF9,9EFE,9F05,9F0F,9F16,9F3B,2A600"

def readReplacements (item : List Char) : List (List Nat) :=
  match cutAt (· == '-') item with
  | some (low, high) =>
    (List.range (hexValue high + 1 - hexValue low)).map fun k => [hexValue low + k]
  | none => [(pieces (· == '.') item).map hexValue]

def readReplaced (word : List Char) : List (Nat × List Nat) :=
  match cutAt (· == ':') word, cutAt (· == '=') word with
  | some (first, items), _ =>
    let replacements := (pieces (· == ',') items).flatMap readReplacements
    replacements.zipIdx.map fun (replacement, k) => (hexValue first + k, replacement)
  | none, some (low, high) =>
    (List.range ((hexValue high - hexValue low) / 2 + 1)).map fun k =>
      (hexValue low + 2 * k, [hexValue low + 2 * k + 1])
  | none, none => []

/-- The characters that are replaced, in ascending order. -/
def replacedCharacters : Array (Nat × List Nat) :=
  (((tableWords replacementTable).flatMap readReplaced).mergeSort (fun a b => a.1 ≤ b.1)).toArray

def replacement? (n : Nat) : Option (List Nat) :=
  match rowOf replacedCharacters n with
  | some (first, replacement) => if first = n then some replacement else none
  | none => none

def ignoredCharacters : Array (Nat × Nat) :=
  readRanges
    "AD 34F 115F-1160 17B4-17B5 180B-180F 200B 2060-2064 206A-206F 3164 FE00-FE0F FEFF FFA0
1BCA0-1BCA3 1D173-1D17A E0100-E01EF"

/-- The characters that may not stand in a domain name, beyond those of certain categories. -/
def refusedCharacters : Array (Nat × Nat) :=
  readRanges
    "2024-2026 2488-249B 2FF0-2FFF 31EF 33C2 33C7 33D8 FE12 FE19 FE30 FE52 FFFC-FFFD 1F100"

/-- Characters that domain names may contain and the table of general categories does not know yet:
those of the youngest scripts (numerals of archaic cuneiform, Chisoi, Jurchen with its radicals, Seal). -/
def youngCharacters : Array (Nat × Nat) :=
  readRanges "12550-12686 16D80-16DA7 18E00-19191 191A0-191D2 3D000-3FC3F"

/-- Whether a character, if it is neither replaced nor left out, may not stand in a domain name. The two
joiners may, and so may the controls of ASCII as far as this rule goes. -/
def isRefused (n : Nat) : Bool :=
  within refusedCharacters n ||
    (0x80 ≤ n && n != 0x200C && n != 0x200D && !within youngCharacters n &&
      ["Cc", "Cf", "Cn", "Co", "Cs", "Zs", "Zl", "Zp"].contains (category n))

/-- What a character becomes, if it may stand in a domain name. -/
def mappedForDomain? (n : Nat) : Option (List Nat) :=
  match replacement? n with
  | some replacement => some replacement
  | none =>
    if within ignoredCharacters n then some [] else if isRefused n then none else some [n]

end DirectoryLogin.Url
