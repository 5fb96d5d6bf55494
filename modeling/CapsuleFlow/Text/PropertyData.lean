/-!
# Unicode character properties

Tables of the Unicode character database (Unicode 16.0) that patterns ask about, each a
string of ranges `first-last` in hex separated by `;`, in increasing order:

* `categoryRanges`: the general category of every assigned character, as
  `first-last:Cat` with the two-letter category name;
* `scriptRanges`: the script of every character with one, as `first-last:Code` with the
  four-letter script code, and `scriptNames`, every script as `Code=Name=...aliases`;
* `wordRanges`: the word characters (alphabetic, marks, decimal numbers, connector
  punctuation and the joining controls);
* `binaryPropertyRanges`: some binary properties by name;
* `ageRanges`: the version in which every assigned character was assigned, as
  `first-last:Major.Minor`;
* `simpleFolds`: every character whose simple case folding differs from it, as `char:fold`.
-/

namespace CapsuleFlow.Text

def categoryRanges : String :=
  "0-1F:Cc;20-20:Zs;21-23:Po;24-24:Sc;25-27:Po;28-28:Ps;29-29:Pe;2A-2A:Po;2B-2B:Sm;2C-2C:Po;2D-2D:Pd;2E-2F:Po;30-39:Nd;3A-3B:Po;3C-3E:Sm;3F-40:Po;41-5A:Lu;5B-5B:Ps;5C-5C:Po;5D-5D:Pe;5E-5E:Sk;5F-5F:Pc;60-60:Sk;61-7A:Ll;7B-7B:Ps;7C-7C:Sm;7D-7D:Pe;7E-7E:Sm;7F-9F:Cc;A0-A0:Zs;A1-A1:Po;A2-A5:Sc;A6-A6:So;A7-A7:Po;A8-A8:Sk;A9-A9:So;AA-AA:Lo;AB-AB:Pi;AC-AC:Sm;AD-AD:Cf;AE-AE:So;AF-AF:Sk;B0-B0:So;B1-B1:Sm;B2-B3"
  ++ ":No;B4-B4:Sk;B5-B5:Ll;B6-B7:Po;B8-B8:Sk;B9-B9:No;BA-BA:Lo;BB-BB:Pf;BC-BE:No;BF-BF:Po;C0-D6:Lu;D7-D7:Sm;D8-DE:Lu;DF-F6:Ll;F7-F7:Sm;F8-FF:Ll;100-100:Lu;101-101:Ll;102-102:Lu;103-103:Ll;104-104:Lu;105-105:Ll;106-106:Lu;107-107:Ll;108-108:Lu;109-109:Ll;10A-10A:Lu;10B-10B:Ll;10C-10C:Lu;10D-10D:Ll;10E-10E:Lu;10F-10F:Ll;110-110:Lu;111-111:Ll;112-112:Lu;113-113:Ll;114-114:Lu;115-115:Ll;116-116:Lu;117-117:"
  ++ "Ll;118-118:Lu;119-119:Ll;11A-11A:Lu;11B-11B:Ll;11C-11C:Lu;11D-11D:Ll;11E-11E:Lu;11F-11F:Ll;120-120:Lu;121-121:Ll;122-122:Lu;123-123:Ll;124-124:Lu;125-125:Ll;126-126:Lu;127-127:Ll;128-128:Lu;129-129:Ll;12A-12A:Lu;12B-12B:Ll;12C-12C:Lu;12D-12D:Ll;12E-12E:Lu;12F-12F:Ll;130-130:Lu;131-131:Ll;132-132:Lu;133-133:Ll;134-134:Lu;135-135:Ll;136-136:Lu;137-138:Ll;139-139:Lu;13A-13A:Ll;13B-13B:Lu;13C-13C:Ll;1"
  ++ "3D-13D:Lu;13E-13E:Ll;13F-13F:Lu;140-140:Ll;141-141:Lu;142-142:Ll;143-143:Lu;144-144:Ll;145-145:Lu;146-146:Ll;147-147:Lu;148-149:Ll;14A-14A:Lu;14B-14B:Ll;14C-14C:Lu;14D-14D:Ll;14E-14E:Lu;14F-14F:Ll;150-150:Lu;151-151:Ll;152-152:Lu;153-153:Ll;154-154:Lu;155-155:Ll;156-156:Lu;157-157:Ll;158-158:Lu;159-159:Ll;15A-15A:Lu;15B-15B:Ll;15C-15C:Lu;15D-15D:Ll;15E-15E:Lu;15F-15F:Ll;160-160:Lu;161-161:Ll;162-1"
  ++ "62:Lu;163-163:Ll;164-164:Lu;165-165:Ll;166-166:Lu;167-167:Ll;168-168:Lu;169-169:Ll;16A-16A:Lu;16B-16B:Ll;16C-16C:Lu;16D-16D:Ll;16E-16E:Lu;16F-16F:Ll;170-170:Lu;171-171:Ll;172-172:Lu;173-173:Ll;174-174:Lu;175-175:Ll;176-176:Lu;177-177:Ll;178-179:Lu;17A-17A:Ll;17B-17B:Lu;17C-17C:Ll;17D-17D:Lu;17E-180:Ll;181-182:Lu;183-183:Ll;184-184:Lu;185-185:Ll;186-187:Lu;188-188:Ll;189-18B:Lu;18C-18D:Ll;18E-191:L"
  ++ "u;192-192:Ll;193-194:Lu;195-195:Ll;196-198:Lu;199-19B:Ll;19C-19D:Lu;19E-19E:Ll;19F-1A0:Lu;1A1-1A1:Ll;1A2-1A2:Lu;1A3-1A3:Ll;1A4-1A4:Lu;1A5-1A5:Ll;1A6-1A7:Lu;1A8-1A8:Ll;1A9-1A9:Lu;1AA-1AB:Ll;1AC-1AC:Lu;1AD-1AD:Ll;1AE-1AF:Lu;1B0-1B0:Ll;1B1-1B3:Lu;1B4-1B4:Ll;1B5-1B5:Lu;1B6-1B6:Ll;1B7-1B8:Lu;1B9-1BA:Ll;1BB-1BB:Lo;1BC-1BC:Lu;1BD-1BF:Ll;1C0-1C3:Lo;1C4-1C4:Lu;1C5-1C5:Lt;1C6-1C6:Ll;1C7-1C7:Lu;1C8-1C8:Lt;1C"
  ++ "9-1C9:Ll;1CA-1CA:Lu;1CB-1CB:Lt;1CC-1CC:Ll;1CD-1CD:Lu;1CE-1CE:Ll;1CF-1CF:Lu;1D0-1D0:Ll;1D1-1D1:Lu;1D2-1D2:Ll;1D3-1D3:Lu;1D4-1D4:Ll;1D5-1D5:Lu;1D6-1D6:Ll;1D7-1D7:Lu;1D8-1D8:Ll;1D9-1D9:Lu;1DA-1DA:Ll;1DB-1DB:Lu;1DC-1DD:Ll;1DE-1DE:Lu;1DF-1DF:Ll;1E0-1E0:Lu;1E1-1E1:Ll;1E2-1E2:Lu;1E3-1E3:Ll;1E4-1E4:Lu;1E5-1E5:Ll;1E6-1E6:Lu;1E7-1E7:Ll;1E8-1E8:Lu;1E9-1E9:Ll;1EA-1EA:Lu;1EB-1EB:Ll;1EC-1EC:Lu;1ED-1ED:Ll;1EE-1E"
  ++ "E:Lu;1EF-1F0:Ll;1F1-1F1:Lu;1F2-1F2:Lt;1F3-1F3:Ll;1F4-1F4:Lu;1F5-1F5:Ll;1F6-1F8:Lu;1F9-1F9:Ll;1FA-1FA:Lu;1FB-1FB:Ll;1FC-1FC:Lu;1FD-1FD:Ll;1FE-1FE:Lu;1FF-1FF:Ll;200-200:Lu;201-201:Ll;202-202:Lu;203-203:Ll;204-204:Lu;205-205:Ll;206-206:Lu;207-207:Ll;208-208:Lu;209-209:Ll;20A-20A:Lu;20B-20B:Ll;20C-20C:Lu;20D-20D:Ll;20E-20E:Lu;20F-20F:Ll;210-210:Lu;211-211:Ll;212-212:Lu;213-213:Ll;214-214:Lu;215-215:Ll"
  ++ ";216-216:Lu;217-217:Ll;218-218:Lu;219-219:Ll;21A-21A:Lu;21B-21B:Ll;21C-21C:Lu;21D-21D:Ll;21E-21E:Lu;21F-21F:Ll;220-220:Lu;221-221:Ll;222-222:Lu;223-223:Ll;224-224:Lu;225-225:Ll;226-226:Lu;227-227:Ll;228-228:Lu;229-229:Ll;22A-22A:Lu;22B-22B:Ll;22C-22C:Lu;22D-22D:Ll;22E-22E:Lu;22F-22F:Ll;230-230:Lu;231-231:Ll;232-232:Lu;233-239:Ll;23A-23B:Lu;23C-23C:Ll;23D-23E:Lu;23F-240:Ll;241-241:Lu;242-242:Ll;243"
  ++ "-246:Lu;247-247:Ll;248-248:Lu;249-249:Ll;24A-24A:Lu;24B-24B:Ll;24C-24C:Lu;24D-24D:Ll;24E-24E:Lu;24F-293:Ll;294-295:Lo;296-2AF:Ll;2B0-2C1:Lm;2C2-2C5:Sk;2C6-2D1:Lm;2D2-2DF:Sk;2E0-2E4:Lm;2E5-2EB:Sk;2EC-2EC:Lm;2ED-2ED:Sk;2EE-2EE:Lm;2EF-2FF:Sk;300-36F:Mn;370-370:Lu;371-371:Ll;372-372:Lu;373-373:Ll;374-374:Lm;375-375:Sk;376-376:Lu;377-377:Ll;378-379:Cn;37A-37A:Lm;37B-37D:Ll;37E-37E:Po;37F-37F:Lu;380-383"
  ++ ":Cn;384-385:Sk;386-386:Lu;387-387:Po;388-38A:Lu;38B-38B:Cn;38C-38C:Lu;38D-38D:Cn;38E-38F:Lu;390-390:Ll;391-3A1:Lu;3A2-3A2:Cn;3A3-3AB:Lu;3AC-3CE:Ll;3CF-3CF:Lu;3D0-3D1:Ll;3D2-3D4:Lu;3D5-3D7:Ll;3D8-3D8:Lu;3D9-3D9:Ll;3DA-3DA:Lu;3DB-3DB:Ll;3DC-3DC:Lu;3DD-3DD:Ll;3DE-3DE:Lu;3DF-3DF:Ll;3E0-3E0:Lu;3E1-3E1:Ll;3E2-3E2:Lu;3E3-3E3:Ll;3E4-3E4:Lu;3E5-3E5:Ll;3E6-3E6:Lu;3E7-3E7:Ll;3E8-3E8:Lu;3E9-3E9:Ll;3EA-3EA:Lu;"
  ++ "3EB-3EB:Ll;3EC-3EC:Lu;3ED-3ED:Ll;3EE-3EE:Lu;3EF-3F3:Ll;3F4-3F4:Lu;3F5-3F5:Ll;3F6-3F6:Sm;3F7-3F7:Lu;3F8-3F8:Ll;3F9-3FA:Lu;3FB-3FC:Ll;3FD-42F:Lu;430-45F:Ll;460-460:Lu;461-461:Ll;462-462:Lu;463-463:Ll;464-464:Lu;465-465:Ll;466-466:Lu;467-467:Ll;468-468:Lu;469-469:Ll;46A-46A:Lu;46B-46B:Ll;46C-46C:Lu;46D-46D:Ll;46E-46E:Lu;46F-46F:Ll;470-470:Lu;471-471:Ll;472-472:Lu;473-473:Ll;474-474:Lu;475-475:Ll;476-"
  ++ "476:Lu;477-477:Ll;478-478:Lu;479-479:Ll;47A-47A:Lu;47B-47B:Ll;47C-47C:Lu;47D-47D:Ll;47E-47E:Lu;47F-47F:Ll;480-480:Lu;481-481:Ll;482-482:So;483-487:Mn;488-489:Me;48A-48A:Lu;48B-48B:Ll;48C-48C:Lu;48D-48D:Ll;48E-48E:Lu;48F-48F:Ll;490-490:Lu;491-491:Ll;492-492:Lu;493-493:Ll;494-494:Lu;495-495:Ll;496-496:Lu;497-497:Ll;498-498:Lu;499-499:Ll;49A-49A:Lu;49B-49B:Ll;49C-49C:Lu;49D-49D:Ll;49E-49E:Lu;49F-49F:"
  ++ "Ll;4A0-4A0:Lu;4A1-4A1:Ll;4A2-4A2:Lu;4A3-4A3:Ll;4A4-4A4:Lu;4A5-4A5:Ll;4A6-4A6:Lu;4A7-4A7:Ll;4A8-4A8:Lu;4A9-4A9:Ll;4AA-4AA:Lu;4AB-4AB:Ll;4AC-4AC:Lu;4AD-4AD:Ll;4AE-4AE:Lu;4AF-4AF:Ll;4B0-4B0:Lu;4B1-4B1:Ll;4B2-4B2:Lu;4B3-4B3:Ll;4B4-4B4:Lu;4B5-4B5:Ll;4B6-4B6:Lu;4B7-4B7:Ll;4B8-4B8:Lu;4B9-4B9:Ll;4BA-4BA:Lu;4BB-4BB:Ll;4BC-4BC:Lu;4BD-4BD:Ll;4BE-4BE:Lu;4BF-4BF:Ll;4C0-4C1:Lu;4C2-4C2:Ll;4C3-4C3:Lu;4C4-4C4:Ll;4"
  ++ "C5-4C5:Lu;4C6-4C6:Ll;4C7-4C7:Lu;4C8-4C8:Ll;4C9-4C9:Lu;4CA-4CA:Ll;4CB-4CB:Lu;4CC-4CC:Ll;4CD-4CD:Lu;4CE-4CF:Ll;4D0-4D0:Lu;4D1-4D1:Ll;4D2-4D2:Lu;4D3-4D3:Ll;4D4-4D4:Lu;4D5-4D5:Ll;4D6-4D6:Lu;4D7-4D7:Ll;4D8-4D8:Lu;4D9-4D9:Ll;4DA-4DA:Lu;4DB-4DB:Ll;4DC-4DC:Lu;4DD-4DD:Ll;4DE-4DE:Lu;4DF-4DF:Ll;4E0-4E0:Lu;4E1-4E1:Ll;4E2-4E2:Lu;4E3-4E3:Ll;4E4-4E4:Lu;4E5-4E5:Ll;4E6-4E6:Lu;4E7-4E7:Ll;4E8-4E8:Lu;4E9-4E9:Ll;4EA-4"
  ++ "EA:Lu;4EB-4EB:Ll;4EC-4EC:Lu;4ED-4ED:Ll;4EE-4EE:Lu;4EF-4EF:Ll;4F0-4F0:Lu;4F1-4F1:Ll;4F2-4F2:Lu;4F3-4F3:Ll;4F4-4F4:Lu;4F5-4F5:Ll;4F6-4F6:Lu;4F7-4F7:Ll;4F8-4F8:Lu;4F9-4F9:Ll;4FA-4FA:Lu;4FB-4FB:Ll;4FC-4FC:Lu;4FD-4FD:Ll;4FE-4FE:Lu;4FF-4FF:Ll;500-500:Lu;501-501:Ll;502-502:Lu;503-503:Ll;504-504:Lu;505-505:Ll;506-506:Lu;507-507:Ll;508-508:Lu;509-509:Ll;50A-50A:Lu;50B-50B:Ll;50C-50C:Lu;50D-50D:Ll;50E-50E:L"
  ++ "u;50F-50F:Ll;510-510:Lu;511-511:Ll;512-512:Lu;513-513:Ll;514-514:Lu;515-515:Ll;516-516:Lu;517-517:Ll;518-518:Lu;519-519:Ll;51A-51A:Lu;51B-51B:Ll;51C-51C:Lu;51D-51D:Ll;51E-51E:Lu;51F-51F:Ll;520-520:Lu;521-521:Ll;522-522:Lu;523-523:Ll;524-524:Lu;525-525:Ll;526-526:Lu;527-527:Ll;528-528:Lu;529-529:Ll;52A-52A:Lu;52B-52B:Ll;52C-52C:Lu;52D-52D:Ll;52E-52E:Lu;52F-52F:Ll;530-530:Cn;531-556:Lu;557-558:Cn;55"
  ++ "9-559:Lm;55A-55F:Po;560-588:Ll;589-589:Po;58A-58A:Pd;58B-58C:Cn;58D-58E:So;58F-58F:Sc;590-590:Cn;591-5BD:Mn;5BE-5BE:Pd;5BF-5BF:Mn;5C0-5C0:Po;5C1-5C2:Mn;5C3-5C3:Po;5C4-5C5:Mn;5C6-5C6:Po;5C7-5C7:Mn;5C8-5CF:Cn;5D0-5EA:Lo;5EB-5EE:Cn;5EF-5F2:Lo;5F3-5F4:Po;5F5-5FF:Cn;600-605:Cf;606-608:Sm;609-60A:Po;60B-60B:Sc;60C-60D:Po;60E-60F:So;610-61A:Mn;61B-61B:Po;61C-61C:Cf;61D-61F:Po;620-63F:Lo;640-640:Lm;641-64"
  ++ "A:Lo;64B-65F:Mn;660-669:Nd;66A-66D:Po;66E-66F:Lo;670-670:Mn;671-6D3:Lo;6D4-6D4:Po;6D5-6D5:Lo;6D6-6DC:Mn;6DD-6DD:Cf;6DE-6DE:So;6DF-6E4:Mn;6E5-6E6:Lm;6E7-6E8:Mn;6E9-6E9:So;6EA-6ED:Mn;6EE-6EF:Lo;6F0-6F9:Nd;6FA-6FC:Lo;6FD-6FE:So;6FF-6FF:Lo;700-70D:Po;70E-70E:Cn;70F-70F:Cf;710-710:Lo;711-711:Mn;712-72F:Lo;730-74A:Mn;74B-74C:Cn;74D-7A5:Lo;7A6-7B0:Mn;7B1-7B1:Lo;7B2-7BF:Cn;7C0-7C9:Nd;7CA-7EA:Lo;7EB-7F3:Mn"
  ++ ";7F4-7F5:Lm;7F6-7F6:So;7F7-7F9:Po;7FA-7FA:Lm;7FB-7FC:Cn;7FD-7FD:Mn;7FE-7FF:Sc;800-815:Lo;816-819:Mn;81A-81A:Lm;81B-823:Mn;824-824:Lm;825-827:Mn;828-828:Lm;829-82D:Mn;82E-82F:Cn;830-83E:Po;83F-83F:Cn;840-858:Lo;859-85B:Mn;85C-85D:Cn;85E-85E:Po;85F-85F:Cn;860-86A:Lo;86B-86F:Cn;870-887:Lo;888-888:Sk;889-88E:Lo;88F-88F:Cn;890-891:Cf;892-896:Cn;897-89F:Mn;8A0-8C8:Lo;8C9-8C9:Lm;8CA-8E1:Mn;8E2-8E2:Cf;8E3"
  ++ "-902:Mn;903-903:Mc;904-939:Lo;93A-93A:Mn;93B-93B:Mc;93C-93C:Mn;93D-93D:Lo;93E-940:Mc;941-948:Mn;949-94C:Mc;94D-94D:Mn;94E-94F:Mc;950-950:Lo;951-957:Mn;958-961:Lo;962-963:Mn;964-965:Po;966-96F:Nd;970-970:Po;971-971:Lm;972-980:Lo;981-981:Mn;982-983:Mc;984-984:Cn;985-98C:Lo;98D-98E:Cn;98F-990:Lo;991-992:Cn;993-9A8:Lo;9A9-9A9:Cn;9AA-9B0:Lo;9B1-9B1:Cn;9B2-9B2:Lo;9B3-9B5:Cn;9B6-9B9:Lo;9BA-9BB:Cn;9BC-9BC"
  ++ ":Mn;9BD-9BD:Lo;9BE-9C0:Mc;9C1-9C4:Mn;9C5-9C6:Cn;9C7-9C8:Mc;9C9-9CA:Cn;9CB-9CC:Mc;9CD-9CD:Mn;9CE-9CE:Lo;9CF-9D6:Cn;9D7-9D7:Mc;9D8-9DB:Cn;9DC-9DD:Lo;9DE-9DE:Cn;9DF-9E1:Lo;9E2-9E3:Mn;9E4-9E5:Cn;9E6-9EF:Nd;9F0-9F1:Lo;9F2-9F3:Sc;9F4-9F9:No;9FA-9FA:So;9FB-9FB:Sc;9FC-9FC:Lo;9FD-9FD:Po;9FE-9FE:Mn;9FF-A00:Cn;A01-A02:Mn;A03-A03:Mc;A04-A04:Cn;A05-A0A:Lo;A0B-A0E:Cn;A0F-A10:Lo;A11-A12:Cn;A13-A28:Lo;A29-A29:Cn;"
  ++ "A2A-A30:Lo;A31-A31:Cn;A32-A33:Lo;A34-A34:Cn;A35-A36:Lo;A37-A37:Cn;A38-A39:Lo;A3A-A3B:Cn;A3C-A3C:Mn;A3D-A3D:Cn;A3E-A40:Mc;A41-A42:Mn;A43-A46:Cn;A47-A48:Mn;A49-A4A:Cn;A4B-A4D:Mn;A4E-A50:Cn;A51-A51:Mn;A52-A58:Cn;A59-A5C:Lo;A5D-A5D:Cn;A5E-A5E:Lo;A5F-A65:Cn;A66-A6F:Nd;A70-A71:Mn;A72-A74:Lo;A75-A75:Mn;A76-A76:Po;A77-A80:Cn;A81-A82:Mn;A83-A83:Mc;A84-A84:Cn;A85-A8D:Lo;A8E-A8E:Cn;A8F-A91:Lo;A92-A92:Cn;A93-"
  ++ "AA8:Lo;AA9-AA9:Cn;AAA-AB0:Lo;AB1-AB1:Cn;AB2-AB3:Lo;AB4-AB4:Cn;AB5-AB9:Lo;ABA-ABB:Cn;ABC-ABC:Mn;ABD-ABD:Lo;ABE-AC0:Mc;AC1-AC5:Mn;AC6-AC6:Cn;AC7-AC8:Mn;AC9-AC9:Mc;ACA-ACA:Cn;ACB-ACC:Mc;ACD-ACD:Mn;ACE-ACF:Cn;AD0-AD0:Lo;AD1-ADF:Cn;AE0-AE1:Lo;AE2-AE3:Mn;AE4-AE5:Cn;AE6-AEF:Nd;AF0-AF0:Po;AF1-AF1:Sc;AF2-AF8:Cn;AF9-AF9:Lo;AFA-AFF:Mn;B00-B00:Cn;B01-B01:Mn;B02-B03:Mc;B04-B04:Cn;B05-B0C:Lo;B0D-B0E:Cn;B0F-B10:"
  ++ "Lo;B11-B12:Cn;B13-B28:Lo;B29-B29:Cn;B2A-B30:Lo;B31-B31:Cn;B32-B33:Lo;B34-B34:Cn;B35-B39:Lo;B3A-B3B:Cn;B3C-B3C:Mn;B3D-B3D:Lo;B3E-B3E:Mc;B3F-B3F:Mn;B40-B40:Mc;B41-B44:Mn;B45-B46:Cn;B47-B48:Mc;B49-B4A:Cn;B4B-B4C:Mc;B4D-B4D:Mn;B4E-B54:Cn;B55-B56:Mn;B57-B57:Mc;B58-B5B:Cn;B5C-B5D:Lo;B5E-B5E:Cn;B5F-B61:Lo;B62-B63:Mn;B64-B65:Cn;B66-B6F:Nd;B70-B70:So;B71-B71:Lo;B72-B77:No;B78-B81:Cn;B82-B82:Mn;B83-B83:Lo;B"
  ++ "84-B84:Cn;B85-B8A:Lo;B8B-B8D:Cn;B8E-B90:Lo;B91-B91:Cn;B92-B95:Lo;B96-B98:Cn;B99-B9A:Lo;B9B-B9B:Cn;B9C-B9C:Lo;B9D-B9D:Cn;B9E-B9F:Lo;BA0-BA2:Cn;BA3-BA4:Lo;BA5-BA7:Cn;BA8-BAA:Lo;BAB-BAD:Cn;BAE-BB9:Lo;BBA-BBD:Cn;BBE-BBF:Mc;BC0-BC0:Mn;BC1-BC2:Mc;BC3-BC5:Cn;BC6-BC8:Mc;BC9-BC9:Cn;BCA-BCC:Mc;BCD-BCD:Mn;BCE-BCF:Cn;BD0-BD0:Lo;BD1-BD6:Cn;BD7-BD7:Mc;BD8-BE5:Cn;BE6-BEF:Nd;BF0-BF2:No;BF3-BF8:So;BF9-BF9:Sc;BFA-B"
  ++ "FA:So;BFB-BFF:Cn;C00-C00:Mn;C01-C03:Mc;C04-C04:Mn;C05-C0C:Lo;C0D-C0D:Cn;C0E-C10:Lo;C11-C11:Cn;C12-C28:Lo;C29-C29:Cn;C2A-C39:Lo;C3A-C3B:Cn;C3C-C3C:Mn;C3D-C3D:Lo;C3E-C40:Mn;C41-C44:Mc;C45-C45:Cn;C46-C48:Mn;C49-C49:Cn;C4A-C4D:Mn;C4E-C54:Cn;C55-C56:Mn;C57-C57:Cn;C58-C5A:Lo;C5B-C5C:Cn;C5D-C5D:Lo;C5E-C5F:Cn;C60-C61:Lo;C62-C63:Mn;C64-C65:Cn;C66-C6F:Nd;C70-C76:Cn;C77-C77:Po;C78-C7E:No;C7F-C7F:So;C80-C80:L"
  ++ "o;C81-C81:Mn;C82-C83:Mc;C84-C84:Po;C85-C8C:Lo;C8D-C8D:Cn;C8E-C90:Lo;C91-C91:Cn;C92-CA8:Lo;CA9-CA9:Cn;CAA-CB3:Lo;CB4-CB4:Cn;CB5-CB9:Lo;CBA-CBB:Cn;CBC-CBC:Mn;CBD-CBD:Lo;CBE-CBE:Mc;CBF-CBF:Mn;CC0-CC4:Mc;CC5-CC5:Cn;CC6-CC6:Mn;CC7-CC8:Mc;CC9-CC9:Cn;CCA-CCB:Mc;CCC-CCD:Mn;CCE-CD4:Cn;CD5-CD6:Mc;CD7-CDC:Cn;CDD-CDE:Lo;CDF-CDF:Cn;CE0-CE1:Lo;CE2-CE3:Mn;CE4-CE5:Cn;CE6-CEF:Nd;CF0-CF0:Cn;CF1-CF2:Lo;CF3-CF3:Mc;CF"
  ++ "4-CFF:Cn;D00-D01:Mn;D02-D03:Mc;D04-D0C:Lo;D0D-D0D:Cn;D0E-D10:Lo;D11-D11:Cn;D12-D3A:Lo;D3B-D3C:Mn;D3D-D3D:Lo;D3E-D40:Mc;D41-D44:Mn;D45-D45:Cn;D46-D48:Mc;D49-D49:Cn;D4A-D4C:Mc;D4D-D4D:Mn;D4E-D4E:Lo;D4F-D4F:So;D50-D53:Cn;D54-D56:Lo;D57-D57:Mc;D58-D5E:No;D5F-D61:Lo;D62-D63:Mn;D64-D65:Cn;D66-D6F:Nd;D70-D78:No;D79-D79:So;D7A-D7F:Lo;D80-D80:Cn;D81-D81:Mn;D82-D83:Mc;D84-D84:Cn;D85-D96:Lo;D97-D99:Cn;D9A-DB"
  ++ "1:Lo;DB2-DB2:Cn;DB3-DBB:Lo;DBC-DBC:Cn;DBD-DBD:Lo;DBE-DBF:Cn;DC0-DC6:Lo;DC7-DC9:Cn;DCA-DCA:Mn;DCB-DCE:Cn;DCF-DD1:Mc;DD2-DD4:Mn;DD5-DD5:Cn;DD6-DD6:Mn;DD7-DD7:Cn;DD8-DDF:Mc;DE0-DE5:Cn;DE6-DEF:Nd;DF0-DF1:Cn;DF2-DF3:Mc;DF4-DF4:Po;DF5-E00:Cn;E01-E30:Lo;E31-E31:Mn;E32-E33:Lo;E34-E3A:Mn;E3B-E3E:Cn;E3F-E3F:Sc;E40-E45:Lo;E46-E46:Lm;E47-E4E:Mn;E4F-E4F:Po;E50-E59:Nd;E5A-E5B:Po;E5C-E80:Cn;E81-E82:Lo;E83-E83:Cn"
  ++ ";E84-E84:Lo;E85-E85:Cn;E86-E8A:Lo;E8B-E8B:Cn;E8C-EA3:Lo;EA4-EA4:Cn;EA5-EA5:Lo;EA6-EA6:Cn;EA7-EB0:Lo;EB1-EB1:Mn;EB2-EB3:Lo;EB4-EBC:Mn;EBD-EBD:Lo;EBE-EBF:Cn;EC0-EC4:Lo;EC5-EC5:Cn;EC6-EC6:Lm;EC7-EC7:Cn;EC8-ECE:Mn;ECF-ECF:Cn;ED0-ED9:Nd;EDA-EDB:Cn;EDC-EDF:Lo;EE0-EFF:Cn;F00-F00:Lo;F01-F03:So;F04-F12:Po;F13-F13:So;F14-F14:Po;F15-F17:So;F18-F19:Mn;F1A-F1F:So;F20-F29:Nd;F2A-F33:No;F34-F34:So;F35-F35:Mn;F36"
  ++ "-F36:So;F37-F37:Mn;F38-F38:So;F39-F39:Mn;F3A-F3A:Ps;F3B-F3B:Pe;F3C-F3C:Ps;F3D-F3D:Pe;F3E-F3F:Mc;F40-F47:Lo;F48-F48:Cn;F49-F6C:Lo;F6D-F70:Cn;F71-F7E:Mn;F7F-F7F:Mc;F80-F84:Mn;F85-F85:Po;F86-F87:Mn;F88-F8C:Lo;F8D-F97:Mn;F98-F98:Cn;F99-FBC:Mn;FBD-FBD:Cn;FBE-FC5:So;FC6-FC6:Mn;FC7-FCC:So;FCD-FCD:Cn;FCE-FCF:So;FD0-FD4:Po;FD5-FD8:So;FD9-FDA:Po;FDB-FFF:Cn;1000-102A:Lo;102B-102C:Mc;102D-1030:Mn;1031-1031:Mc"
  ++ ";1032-1037:Mn;1038-1038:Mc;1039-103A:Mn;103B-103C:Mc;103D-103E:Mn;103F-103F:Lo;1040-1049:Nd;104A-104F:Po;1050-1055:Lo;1056-1057:Mc;1058-1059:Mn;105A-105D:Lo;105E-1060:Mn;1061-1061:Lo;1062-1064:Mc;1065-1066:Lo;1067-106D:Mc;106E-1070:Lo;1071-1074:Mn;1075-1081:Lo;1082-1082:Mn;1083-1084:Mc;1085-1086:Mn;1087-108C:Mc;108D-108D:Mn;108E-108E:Lo;108F-108F:Mc;1090-1099:Nd;109A-109C:Mc;109D-109D:Mn;109E-109F"
  ++ ":So;10A0-10C5:Lu;10C6-10C6:Cn;10C7-10C7:Lu;10C8-10CC:Cn;10CD-10CD:Lu;10CE-10CF:Cn;10D0-10FA:Ll;10FB-10FB:Po;10FC-10FC:Lm;10FD-10FF:Ll;1100-1248:Lo;1249-1249:Cn;124A-124D:Lo;124E-124F:Cn;1250-1256:Lo;1257-1257:Cn;1258-1258:Lo;1259-1259:Cn;125A-125D:Lo;125E-125F:Cn;1260-1288:Lo;1289-1289:Cn;128A-128D:Lo;128E-128F:Cn;1290-12B0:Lo;12B1-12B1:Cn;12B2-12B5:Lo;12B6-12B7:Cn;12B8-12BE:Lo;12BF-12BF:Cn;12C0-1"
  ++ "2C0:Lo;12C1-12C1:Cn;12C2-12C5:Lo;12C6-12C7:Cn;12C8-12D6:Lo;12D7-12D7:Cn;12D8-1310:Lo;1311-1311:Cn;1312-1315:Lo;1316-1317:Cn;1318-135A:Lo;135B-135C:Cn;135D-135F:Mn;1360-1368:Po;1369-137C:No;137D-137F:Cn;1380-138F:Lo;1390-1399:So;139A-139F:Cn;13A0-13F5:Lu;13F6-13F7:Cn;13F8-13FD:Ll;13FE-13FF:Cn;1400-1400:Pd;1401-166C:Lo;166D-166D:So;166E-166E:Po;166F-167F:Lo;1680-1680:Zs;1681-169A:Lo;169B-169B:Ps;169"
  ++ "C-169C:Pe;169D-169F:Cn;16A0-16EA:Lo;16EB-16ED:Po;16EE-16F0:Nl;16F1-16F8:Lo;16F9-16FF:Cn;1700-1711:Lo;1712-1714:Mn;1715-1715:Mc;1716-171E:Cn;171F-1731:Lo;1732-1733:Mn;1734-1734:Mc;1735-1736:Po;1737-173F:Cn;1740-1751:Lo;1752-1753:Mn;1754-175F:Cn;1760-176C:Lo;176D-176D:Cn;176E-1770:Lo;1771-1771:Cn;1772-1773:Mn;1774-177F:Cn;1780-17B3:Lo;17B4-17B5:Mn;17B6-17B6:Mc;17B7-17BD:Mn;17BE-17C5:Mc;17C6-17C6:Mn;"
  ++ "17C7-17C8:Mc;17C9-17D3:Mn;17D4-17D6:Po;17D7-17D7:Lm;17D8-17DA:Po;17DB-17DB:Sc;17DC-17DC:Lo;17DD-17DD:Mn;17DE-17DF:Cn;17E0-17E9:Nd;17EA-17EF:Cn;17F0-17F9:No;17FA-17FF:Cn;1800-1805:Po;1806-1806:Pd;1807-180A:Po;180B-180D:Mn;180E-180E:Cf;180F-180F:Mn;1810-1819:Nd;181A-181F:Cn;1820-1842:Lo;1843-1843:Lm;1844-1878:Lo;1879-187F:Cn;1880-1884:Lo;1885-1886:Mn;1887-18A8:Lo;18A9-18A9:Mn;18AA-18AA:Lo;18AB-18AF:"
  ++ "Cn;18B0-18F5:Lo;18F6-18FF:Cn;1900-191E:Lo;191F-191F:Cn;1920-1922:Mn;1923-1926:Mc;1927-1928:Mn;1929-192B:Mc;192C-192F:Cn;1930-1931:Mc;1932-1932:Mn;1933-1938:Mc;1939-193B:Mn;193C-193F:Cn;1940-1940:So;1941-1943:Cn;1944-1945:Po;1946-194F:Nd;1950-196D:Lo;196E-196F:Cn;1970-1974:Lo;1975-197F:Cn;1980-19AB:Lo;19AC-19AF:Cn;19B0-19C9:Lo;19CA-19CF:Cn;19D0-19D9:Nd;19DA-19DA:No;19DB-19DD:Cn;19DE-19FF:So;1A00-1A"
  ++ "16:Lo;1A17-1A18:Mn;1A19-1A1A:Mc;1A1B-1A1B:Mn;1A1C-1A1D:Cn;1A1E-1A1F:Po;1A20-1A54:Lo;1A55-1A55:Mc;1A56-1A56:Mn;1A57-1A57:Mc;1A58-1A5E:Mn;1A5F-1A5F:Cn;1A60-1A60:Mn;1A61-1A61:Mc;1A62-1A62:Mn;1A63-1A64:Mc;1A65-1A6C:Mn;1A6D-1A72:Mc;1A73-1A7C:Mn;1A7D-1A7E:Cn;1A7F-1A7F:Mn;1A80-1A89:Nd;1A8A-1A8F:Cn;1A90-1A99:Nd;1A9A-1A9F:Cn;1AA0-1AA6:Po;1AA7-1AA7:Lm;1AA8-1AAD:Po;1AAE-1AAF:Cn;1AB0-1ABD:Mn;1ABE-1ABE:Me;1ABF"
  ++ "-1ACE:Mn;1ACF-1AFF:Cn;1B00-1B03:Mn;1B04-1B04:Mc;1B05-1B33:Lo;1B34-1B34:Mn;1B35-1B35:Mc;1B36-1B3A:Mn;1B3B-1B3B:Mc;1B3C-1B3C:Mn;1B3D-1B41:Mc;1B42-1B42:Mn;1B43-1B44:Mc;1B45-1B4C:Lo;1B4D-1B4D:Cn;1B4E-1B4F:Po;1B50-1B59:Nd;1B5A-1B60:Po;1B61-1B6A:So;1B6B-1B73:Mn;1B74-1B7C:So;1B7D-1B7F:Po;1B80-1B81:Mn;1B82-1B82:Mc;1B83-1BA0:Lo;1BA1-1BA1:Mc;1BA2-1BA5:Mn;1BA6-1BA7:Mc;1BA8-1BA9:Mn;1BAA-1BAA:Mc;1BAB-1BAD:Mn;1"
  ++ "BAE-1BAF:Lo;1BB0-1BB9:Nd;1BBA-1BE5:Lo;1BE6-1BE6:Mn;1BE7-1BE7:Mc;1BE8-1BE9:Mn;1BEA-1BEC:Mc;1BED-1BED:Mn;1BEE-1BEE:Mc;1BEF-1BF1:Mn;1BF2-1BF3:Mc;1BF4-1BFB:Cn;1BFC-1BFF:Po;1C00-1C23:Lo;1C24-1C2B:Mc;1C2C-1C33:Mn;1C34-1C35:Mc;1C36-1C37:Mn;1C38-1C3A:Cn;1C3B-1C3F:Po;1C40-1C49:Nd;1C4A-1C4C:Cn;1C4D-1C4F:Lo;1C50-1C59:Nd;1C5A-1C77:Lo;1C78-1C7D:Lm;1C7E-1C7F:Po;1C80-1C88:Ll;1C89-1C89:Lu;1C8A-1C8A:Ll;1C8B-1C8F:C"
  ++ "n;1C90-1CBA:Lu;1CBB-1CBC:Cn;1CBD-1CBF:Lu;1CC0-1CC7:Po;1CC8-1CCF:Cn;1CD0-1CD2:Mn;1CD3-1CD3:Po;1CD4-1CE0:Mn;1CE1-1CE1:Mc;1CE2-1CE8:Mn;1CE9-1CEC:Lo;1CED-1CED:Mn;1CEE-1CF3:Lo;1CF4-1CF4:Mn;1CF5-1CF6:Lo;1CF7-1CF7:Mc;1CF8-1CF9:Mn;1CFA-1CFA:Lo;1CFB-1CFF:Cn;1D00-1D2B:Ll;1D2C-1D6A:Lm;1D6B-1D77:Ll;1D78-1D78:Lm;1D79-1D9A:Ll;1D9B-1DBF:Lm;1DC0-1DFF:Mn;1E00-1E00:Lu;1E01-1E01:Ll;1E02-1E02:Lu;1E03-1E03:Ll;1E04-1E0"
  ++ "4:Lu;1E05-1E05:Ll;1E06-1E06:Lu;1E07-1E07:Ll;1E08-1E08:Lu;1E09-1E09:Ll;1E0A-1E0A:Lu;1E0B-1E0B:Ll;1E0C-1E0C:Lu;1E0D-1E0D:Ll;1E0E-1E0E:Lu;1E0F-1E0F:Ll;1E10-1E10:Lu;1E11-1E11:Ll;1E12-1E12:Lu;1E13-1E13:Ll;1E14-1E14:Lu;1E15-1E15:Ll;1E16-1E16:Lu;1E17-1E17:Ll;1E18-1E18:Lu;1E19-1E19:Ll;1E1A-1E1A:Lu;1E1B-1E1B:Ll;1E1C-1E1C:Lu;1E1D-1E1D:Ll;1E1E-1E1E:Lu;1E1F-1E1F:Ll;1E20-1E20:Lu;1E21-1E21:Ll;1E22-1E22:Lu;1E23-"
  ++ "1E23:Ll;1E24-1E24:Lu;1E25-1E25:Ll;1E26-1E26:Lu;1E27-1E27:Ll;1E28-1E28:Lu;1E29-1E29:Ll;1E2A-1E2A:Lu;1E2B-1E2B:Ll;1E2C-1E2C:Lu;1E2D-1E2D:Ll;1E2E-1E2E:Lu;1E2F-1E2F:Ll;1E30-1E30:Lu;1E31-1E31:Ll;1E32-1E32:Lu;1E33-1E33:Ll;1E34-1E34:Lu;1E35-1E35:Ll;1E36-1E36:Lu;1E37-1E37:Ll;1E38-1E38:Lu;1E39-1E39:Ll;1E3A-1E3A:Lu;1E3B-1E3B:Ll;1E3C-1E3C:Lu;1E3D-1E3D:Ll;1E3E-1E3E:Lu;1E3F-1E3F:Ll;1E40-1E40:Lu;1E41-1E41:Ll;1E"
  ++ "42-1E42:Lu;1E43-1E43:Ll;1E44-1E44:Lu;1E45-1E45:Ll;1E46-1E46:Lu;1E47-1E47:Ll;1E48-1E48:Lu;1E49-1E49:Ll;1E4A-1E4A:Lu;1E4B-1E4B:Ll;1E4C-1E4C:Lu;1E4D-1E4D:Ll;1E4E-1E4E:Lu;1E4F-1E4F:Ll;1E50-1E50:Lu;1E51-1E51:Ll;1E52-1E52:Lu;1E53-1E53:Ll;1E54-1E54:Lu;1E55-1E55:Ll;1E56-1E56:Lu;1E57-1E57:Ll;1E58-1E58:Lu;1E59-1E59:Ll;1E5A-1E5A:Lu;1E5B-1E5B:Ll;1E5C-1E5C:Lu;1E5D-1E5D:Ll;1E5E-1E5E:Lu;1E5F-1E5F:Ll;1E60-1E60:Lu"
  ++ ";1E61-1E61:Ll;1E62-1E62:Lu;1E63-1E63:Ll;1E64-1E64:Lu;1E65-1E65:Ll;1E66-1E66:Lu;1E67-1E67:Ll;1E68-1E68:Lu;1E69-1E69:Ll;1E6A-1E6A:Lu;1E6B-1E6B:Ll;1E6C-1E6C:Lu;1E6D-1E6D:Ll;1E6E-1E6E:Lu;1E6F-1E6F:Ll;1E70-1E70:Lu;1E71-1E71:Ll;1E72-1E72:Lu;1E73-1E73:Ll;1E74-1E74:Lu;1E75-1E75:Ll;1E76-1E76:Lu;1E77-1E77:Ll;1E78-1E78:Lu;1E79-1E79:Ll;1E7A-1E7A:Lu;1E7B-1E7B:Ll;1E7C-1E7C:Lu;1E7D-1E7D:Ll;1E7E-1E7E:Lu;1E7F-1E7F"
  ++ ":Ll;1E80-1E80:Lu;1E81-1E81:Ll;1E82-1E82:Lu;1E83-1E83:Ll;1E84-1E84:Lu;1E85-1E85:Ll;1E86-1E86:Lu;1E87-1E87:Ll;1E88-1E88:Lu;1E89-1E89:Ll;1E8A-1E8A:Lu;1E8B-1E8B:Ll;1E8C-1E8C:Lu;1E8D-1E8D:Ll;1E8E-1E8E:Lu;1E8F-1E8F:Ll;1E90-1E90:Lu;1E91-1E91:Ll;1E92-1E92:Lu;1E93-1E93:Ll;1E94-1E94:Lu;1E95-1E9D:Ll;1E9E-1E9E:Lu;1E9F-1E9F:Ll;1EA0-1EA0:Lu;1EA1-1EA1:Ll;1EA2-1EA2:Lu;1EA3-1EA3:Ll;1EA4-1EA4:Lu;1EA5-1EA5:Ll;1EA6-1"
  ++ "EA6:Lu;1EA7-1EA7:Ll;1EA8-1EA8:Lu;1EA9-1EA9:Ll;1EAA-1EAA:Lu;1EAB-1EAB:Ll;1EAC-1EAC:Lu;1EAD-1EAD:Ll;1EAE-1EAE:Lu;1EAF-1EAF:Ll;1EB0-1EB0:Lu;1EB1-1EB1:Ll;1EB2-1EB2:Lu;1EB3-1EB3:Ll;1EB4-1EB4:Lu;1EB5-1EB5:Ll;1EB6-1EB6:Lu;1EB7-1EB7:Ll;1EB8-1EB8:Lu;1EB9-1EB9:Ll;1EBA-1EBA:Lu;1EBB-1EBB:Ll;1EBC-1EBC:Lu;1EBD-1EBD:Ll;1EBE-1EBE:Lu;1EBF-1EBF:Ll;1EC0-1EC0:Lu;1EC1-1EC1:Ll;1EC2-1EC2:Lu;1EC3-1EC3:Ll;1EC4-1EC4:Lu;1EC"
  ++ "5-1EC5:Ll;1EC6-1EC6:Lu;1EC7-1EC7:Ll;1EC8-1EC8:Lu;1EC9-1EC9:Ll;1ECA-1ECA:Lu;1ECB-1ECB:Ll;1ECC-1ECC:Lu;1ECD-1ECD:Ll;1ECE-1ECE:Lu;1ECF-1ECF:Ll;1ED0-1ED0:Lu;1ED1-1ED1:Ll;1ED2-1ED2:Lu;1ED3-1ED3:Ll;1ED4-1ED4:Lu;1ED5-1ED5:Ll;1ED6-1ED6:Lu;1ED7-1ED7:Ll;1ED8-1ED8:Lu;1ED9-1ED9:Ll;1EDA-1EDA:Lu;1EDB-1EDB:Ll;1EDC-1EDC:Lu;1EDD-1EDD:Ll;1EDE-1EDE:Lu;1EDF-1EDF:Ll;1EE0-1EE0:Lu;1EE1-1EE1:Ll;1EE2-1EE2:Lu;1EE3-1EE3:Ll;"
  ++ "1EE4-1EE4:Lu;1EE5-1EE5:Ll;1EE6-1EE6:Lu;1EE7-1EE7:Ll;1EE8-1EE8:Lu;1EE9-1EE9:Ll;1EEA-1EEA:Lu;1EEB-1EEB:Ll;1EEC-1EEC:Lu;1EED-1EED:Ll;1EEE-1EEE:Lu;1EEF-1EEF:Ll;1EF0-1EF0:Lu;1EF1-1EF1:Ll;1EF2-1EF2:Lu;1EF3-1EF3:Ll;1EF4-1EF4:Lu;1EF5-1EF5:Ll;1EF6-1EF6:Lu;1EF7-1EF7:Ll;1EF8-1EF8:Lu;1EF9-1EF9:Ll;1EFA-1EFA:Lu;1EFB-1EFB:Ll;1EFC-1EFC:Lu;1EFD-1EFD:Ll;1EFE-1EFE:Lu;1EFF-1F07:Ll;1F08-1F0F:Lu;1F10-1F15:Ll;1F16-1F17:"
  ++ "Cn;1F18-1F1D:Lu;1F1E-1F1F:Cn;1F20-1F27:Ll;1F28-1F2F:Lu;1F30-1F37:Ll;1F38-1F3F:Lu;1F40-1F45:Ll;1F46-1F47:Cn;1F48-1F4D:Lu;1F4E-1F4F:Cn;1F50-1F57:Ll;1F58-1F58:Cn;1F59-1F59:Lu;1F5A-1F5A:Cn;1F5B-1F5B:Lu;1F5C-1F5C:Cn;1F5D-1F5D:Lu;1F5E-1F5E:Cn;1F5F-1F5F:Lu;1F60-1F67:Ll;1F68-1F6F:Lu;1F70-1F7D:Ll;1F7E-1F7F:Cn;1F80-1F87:Ll;1F88-1F8F:Lt;1F90-1F97:Ll;1F98-1F9F:Lt;1FA0-1FA7:Ll;1FA8-1FAF:Lt;1FB0-1FB4:Ll;1FB5-1F"
  ++ "B5:Cn;1FB6-1FB7:Ll;1FB8-1FBB:Lu;1FBC-1FBC:Lt;1FBD-1FBD:Sk;1FBE-1FBE:Ll;1FBF-1FC1:Sk;1FC2-1FC4:Ll;1FC5-1FC5:Cn;1FC6-1FC7:Ll;1FC8-1FCB:Lu;1FCC-1FCC:Lt;1FCD-1FCF:Sk;1FD0-1FD3:Ll;1FD4-1FD5:Cn;1FD6-1FD7:Ll;1FD8-1FDB:Lu;1FDC-1FDC:Cn;1FDD-1FDF:Sk;1FE0-1FE7:Ll;1FE8-1FEC:Lu;1FED-1FEF:Sk;1FF0-1FF1:Cn;1FF2-1FF4:Ll;1FF5-1FF5:Cn;1FF6-1FF7:Ll;1FF8-1FFB:Lu;1FFC-1FFC:Lt;1FFD-1FFE:Sk;1FFF-1FFF:Cn;2000-200A:Zs;200B"
  ++ "-200F:Cf;2010-2015:Pd;2016-2017:Po;2018-2018:Pi;2019-2019:Pf;201A-201A:Ps;201B-201C:Pi;201D-201D:Pf;201E-201E:Ps;201F-201F:Pi;2020-2027:Po;2028-2028:Zl;2029-2029:Zp;202A-202E:Cf;202F-202F:Zs;2030-2038:Po;2039-2039:Pi;203A-203A:Pf;203B-203E:Po;203F-2040:Pc;2041-2043:Po;2044-2044:Sm;2045-2045:Ps;2046-2046:Pe;2047-2051:Po;2052-2052:Sm;2053-2053:Po;2054-2054:Pc;2055-205E:Po;205F-205F:Zs;2060-2064:Cf;2"
  ++ "065-2065:Cn;2066-206F:Cf;2070-2070:No;2071-2071:Lm;2072-2073:Cn;2074-2079:No;207A-207C:Sm;207D-207D:Ps;207E-207E:Pe;207F-207F:Lm;2080-2089:No;208A-208C:Sm;208D-208D:Ps;208E-208E:Pe;208F-208F:Cn;2090-209C:Lm;209D-209F:Cn;20A0-20C0:Sc;20C1-20CF:Cn;20D0-20DC:Mn;20DD-20E0:Me;20E1-20E1:Mn;20E2-20E4:Me;20E5-20F0:Mn;20F1-20FF:Cn;2100-2101:So;2102-2102:Lu;2103-2106:So;2107-2107:Lu;2108-2109:So;210A-210A:L"
  ++ "l;210B-210D:Lu;210E-210F:Ll;2110-2112:Lu;2113-2113:Ll;2114-2114:So;2115-2115:Lu;2116-2117:So;2118-2118:Sm;2119-211D:Lu;211E-2123:So;2124-2124:Lu;2125-2125:So;2126-2126:Lu;2127-2127:So;2128-2128:Lu;2129-2129:So;212A-212D:Lu;212E-212E:So;212F-212F:Ll;2130-2133:Lu;2134-2134:Ll;2135-2138:Lo;2139-2139:Ll;213A-213B:So;213C-213D:Ll;213E-213F:Lu;2140-2144:Sm;2145-2145:Lu;2146-2149:Ll;214A-214A:So;214B-214"
  ++ "B:Sm;214C-214D:So;214E-214E:Ll;214F-214F:So;2150-215F:No;2160-2182:Nl;2183-2183:Lu;2184-2184:Ll;2185-2188:Nl;2189-2189:No;218A-218B:So;218C-218F:Cn;2190-2194:Sm;2195-2199:So;219A-219B:Sm;219C-219F:So;21A0-21A0:Sm;21A1-21A2:So;21A3-21A3:Sm;21A4-21A5:So;21A6-21A6:Sm;21A7-21AD:So;21AE-21AE:Sm;21AF-21CD:So;21CE-21CF:Sm;21D0-21D1:So;21D2-21D2:Sm;21D3-21D3:So;21D4-21D4:Sm;21D5-21F3:So;21F4-22FF:Sm;2300-"
  ++ "2307:So;2308-2308:Ps;2309-2309:Pe;230A-230A:Ps;230B-230B:Pe;230C-231F:So;2320-2321:Sm;2322-2328:So;2329-2329:Ps;232A-232A:Pe;232B-237B:So;237C-237C:Sm;237D-239A:So;239B-23B3:Sm;23B4-23DB:So;23DC-23E1:Sm;23E2-2429:So;242A-243F:Cn;2440-244A:So;244B-245F:Cn;2460-249B:No;249C-24E9:So;24EA-24FF:No;2500-25B6:So;25B7-25B7:Sm;25B8-25C0:So;25C1-25C1:Sm;25C2-25F7:So;25F8-25FF:Sm;2600-266E:So;266F-266F:Sm;26"
  ++ "70-2767:So;2768-2768:Ps;2769-2769:Pe;276A-276A:Ps;276B-276B:Pe;276C-276C:Ps;276D-276D:Pe;276E-276E:Ps;276F-276F:Pe;2770-2770:Ps;2771-2771:Pe;2772-2772:Ps;2773-2773:Pe;2774-2774:Ps;2775-2775:Pe;2776-2793:No;2794-27BF:So;27C0-27C4:Sm;27C5-27C5:Ps;27C6-27C6:Pe;27C7-27E5:Sm;27E6-27E6:Ps;27E7-27E7:Pe;27E8-27E8:Ps;27E9-27E9:Pe;27EA-27EA:Ps;27EB-27EB:Pe;27EC-27EC:Ps;27ED-27ED:Pe;27EE-27EE:Ps;27EF-27EF:Pe"
  ++ ";27F0-27FF:Sm;2800-28FF:So;2900-2982:Sm;2983-2983:Ps;2984-2984:Pe;2985-2985:Ps;2986-2986:Pe;2987-2987:Ps;2988-2988:Pe;2989-2989:Ps;298A-298A:Pe;298B-298B:Ps;298C-298C:Pe;298D-298D:Ps;298E-298E:Pe;298F-298F:Ps;2990-2990:Pe;2991-2991:Ps;2992-2992:Pe;2993-2993:Ps;2994-2994:Pe;2995-2995:Ps;2996-2996:Pe;2997-2997:Ps;2998-2998:Pe;2999-29D7:Sm;29D8-29D8:Ps;29D9-29D9:Pe;29DA-29DA:Ps;29DB-29DB:Pe;29DC-29FB"
  ++ ":Sm;29FC-29FC:Ps;29FD-29FD:Pe;29FE-2AFF:Sm;2B00-2B2F:So;2B30-2B44:Sm;2B45-2B46:So;2B47-2B4C:Sm;2B4D-2B73:So;2B74-2B75:Cn;2B76-2B95:So;2B96-2B96:Cn;2B97-2BFF:So;2C00-2C2F:Lu;2C30-2C5F:Ll;2C60-2C60:Lu;2C61-2C61:Ll;2C62-2C64:Lu;2C65-2C66:Ll;2C67-2C67:Lu;2C68-2C68:Ll;2C69-2C69:Lu;2C6A-2C6A:Ll;2C6B-2C6B:Lu;2C6C-2C6C:Ll;2C6D-2C70:Lu;2C71-2C71:Ll;2C72-2C72:Lu;2C73-2C74:Ll;2C75-2C75:Lu;2C76-2C7B:Ll;2C7C-2"
  ++ "C7D:Lm;2C7E-2C80:Lu;2C81-2C81:Ll;2C82-2C82:Lu;2C83-2C83:Ll;2C84-2C84:Lu;2C85-2C85:Ll;2C86-2C86:Lu;2C87-2C87:Ll;2C88-2C88:Lu;2C89-2C89:Ll;2C8A-2C8A:Lu;2C8B-2C8B:Ll;2C8C-2C8C:Lu;2C8D-2C8D:Ll;2C8E-2C8E:Lu;2C8F-2C8F:Ll;2C90-2C90:Lu;2C91-2C91:Ll;2C92-2C92:Lu;2C93-2C93:Ll;2C94-2C94:Lu;2C95-2C95:Ll;2C96-2C96:Lu;2C97-2C97:Ll;2C98-2C98:Lu;2C99-2C99:Ll;2C9A-2C9A:Lu;2C9B-2C9B:Ll;2C9C-2C9C:Lu;2C9D-2C9D:Ll;2C9"
  ++ "E-2C9E:Lu;2C9F-2C9F:Ll;2CA0-2CA0:Lu;2CA1-2CA1:Ll;2CA2-2CA2:Lu;2CA3-2CA3:Ll;2CA4-2CA4:Lu;2CA5-2CA5:Ll;2CA6-2CA6:Lu;2CA7-2CA7:Ll;2CA8-2CA8:Lu;2CA9-2CA9:Ll;2CAA-2CAA:Lu;2CAB-2CAB:Ll;2CAC-2CAC:Lu;2CAD-2CAD:Ll;2CAE-2CAE:Lu;2CAF-2CAF:Ll;2CB0-2CB0:Lu;2CB1-2CB1:Ll;2CB2-2CB2:Lu;2CB3-2CB3:Ll;2CB4-2CB4:Lu;2CB5-2CB5:Ll;2CB6-2CB6:Lu;2CB7-2CB7:Ll;2CB8-2CB8:Lu;2CB9-2CB9:Ll;2CBA-2CBA:Lu;2CBB-2CBB:Ll;2CBC-2CBC:Lu;"
  ++ "2CBD-2CBD:Ll;2CBE-2CBE:Lu;2CBF-2CBF:Ll;2CC0-2CC0:Lu;2CC1-2CC1:Ll;2CC2-2CC2:Lu;2CC3-2CC3:Ll;2CC4-2CC4:Lu;2CC5-2CC5:Ll;2CC6-2CC6:Lu;2CC7-2CC7:Ll;2CC8-2CC8:Lu;2CC9-2CC9:Ll;2CCA-2CCA:Lu;2CCB-2CCB:Ll;2CCC-2CCC:Lu;2CCD-2CCD:Ll;2CCE-2CCE:Lu;2CCF-2CCF:Ll;2CD0-2CD0:Lu;2CD1-2CD1:Ll;2CD2-2CD2:Lu;2CD3-2CD3:Ll;2CD4-2CD4:Lu;2CD5-2CD5:Ll;2CD6-2CD6:Lu;2CD7-2CD7:Ll;2CD8-2CD8:Lu;2CD9-2CD9:Ll;2CDA-2CDA:Lu;2CDB-2CDB:"
  ++ "Ll;2CDC-2CDC:Lu;2CDD-2CDD:Ll;2CDE-2CDE:Lu;2CDF-2CDF:Ll;2CE0-2CE0:Lu;2CE1-2CE1:Ll;2CE2-2CE2:Lu;2CE3-2CE4:Ll;2CE5-2CEA:So;2CEB-2CEB:Lu;2CEC-2CEC:Ll;2CED-2CED:Lu;2CEE-2CEE:Ll;2CEF-2CF1:Mn;2CF2-2CF2:Lu;2CF3-2CF3:Ll;2CF4-2CF8:Cn;2CF9-2CFC:Po;2CFD-2CFD:No;2CFE-2CFF:Po;2D00-2D25:Ll;2D26-2D26:Cn;2D27-2D27:Ll;2D28-2D2C:Cn;2D2D-2D2D:Ll;2D2E-2D2F:Cn;2D30-2D67:Lo;2D68-2D6E:Cn;2D6F-2D6F:Lm;2D70-2D70:Po;2D71-2D"
  ++ "7E:Cn;2D7F-2D7F:Mn;2D80-2D96:Lo;2D97-2D9F:Cn;2DA0-2DA6:Lo;2DA7-2DA7:Cn;2DA8-2DAE:Lo;2DAF-2DAF:Cn;2DB0-2DB6:Lo;2DB7-2DB7:Cn;2DB8-2DBE:Lo;2DBF-2DBF:Cn;2DC0-2DC6:Lo;2DC7-2DC7:Cn;2DC8-2DCE:Lo;2DCF-2DCF:Cn;2DD0-2DD6:Lo;2DD7-2DD7:Cn;2DD8-2DDE:Lo;2DDF-2DDF:Cn;2DE0-2DFF:Mn;2E00-2E01:Po;2E02-2E02:Pi;2E03-2E03:Pf;2E04-2E04:Pi;2E05-2E05:Pf;2E06-2E08:Po;2E09-2E09:Pi;2E0A-2E0A:Pf;2E0B-2E0B:Po;2E0C-2E0C:Pi;2E0D"
  ++ "-2E0D:Pf;2E0E-2E16:Po;2E17-2E17:Pd;2E18-2E19:Po;2E1A-2E1A:Pd;2E1B-2E1B:Po;2E1C-2E1C:Pi;2E1D-2E1D:Pf;2E1E-2E1F:Po;2E20-2E20:Pi;2E21-2E21:Pf;2E22-2E22:Ps;2E23-2E23:Pe;2E24-2E24:Ps;2E25-2E25:Pe;2E26-2E26:Ps;2E27-2E27:Pe;2E28-2E28:Ps;2E29-2E29:Pe;2E2A-2E2E:Po;2E2F-2E2F:Lm;2E30-2E39:Po;2E3A-2E3B:Pd;2E3C-2E3F:Po;2E40-2E40:Pd;2E41-2E41:Po;2E42-2E42:Ps;2E43-2E4F:Po;2E50-2E51:So;2E52-2E54:Po;2E55-2E55:Ps;2"
  ++ "E56-2E56:Pe;2E57-2E57:Ps;2E58-2E58:Pe;2E59-2E59:Ps;2E5A-2E5A:Pe;2E5B-2E5B:Ps;2E5C-2E5C:Pe;2E5D-2E5D:Pd;2E5E-2E7F:Cn;2E80-2E99:So;2E9A-2E9A:Cn;2E9B-2EF3:So;2EF4-2EFF:Cn;2F00-2FD5:So;2FD6-2FEF:Cn;2FF0-2FFF:So;3000-3000:Zs;3001-3003:Po;3004-3004:So;3005-3005:Lm;3006-3006:Lo;3007-3007:Nl;3008-3008:Ps;3009-3009:Pe;300A-300A:Ps;300B-300B:Pe;300C-300C:Ps;300D-300D:Pe;300E-300E:Ps;300F-300F:Pe;3010-3010:P"
  ++ "s;3011-3011:Pe;3012-3013:So;3014-3014:Ps;3015-3015:Pe;3016-3016:Ps;3017-3017:Pe;3018-3018:Ps;3019-3019:Pe;301A-301A:Ps;301B-301B:Pe;301C-301C:Pd;301D-301D:Ps;301E-301F:Pe;3020-3020:So;3021-3029:Nl;302A-302D:Mn;302E-302F:Mc;3030-3030:Pd;3031-3035:Lm;3036-3037:So;3038-303A:Nl;303B-303B:Lm;303C-303C:Lo;303D-303D:Po;303E-303F:So;3040-3040:Cn;3041-3096:Lo;3097-3098:Cn;3099-309A:Mn;309B-309C:Sk;309D-309"
  ++ "E:Lm;309F-309F:Lo;30A0-30A0:Pd;30A1-30FA:Lo;30FB-30FB:Po;30FC-30FE:Lm;30FF-30FF:Lo;3100-3104:Cn;3105-312F:Lo;3130-3130:Cn;3131-318E:Lo;318F-318F:Cn;3190-3191:So;3192-3195:No;3196-319F:So;31A0-31BF:Lo;31C0-31E5:So;31E6-31EE:Cn;31EF-31EF:So;31F0-31FF:Lo;3200-321E:So;321F-321F:Cn;3220-3229:No;322A-3247:So;3248-324F:No;3250-3250:So;3251-325F:No;3260-327F:So;3280-3289:No;328A-32B0:So;32B1-32BF:No;32C0-"
  ++ "33FF:So;3400-4DBF:Lo;4DC0-4DFF:So;4E00-A014:Lo;A015-A015:Lm;A016-A48C:Lo;A48D-A48F:Cn;A490-A4C6:So;A4C7-A4CF:Cn;A4D0-A4F7:Lo;A4F8-A4FD:Lm;A4FE-A4FF:Po;A500-A60B:Lo;A60C-A60C:Lm;A60D-A60F:Po;A610-A61F:Lo;A620-A629:Nd;A62A-A62B:Lo;A62C-A63F:Cn;A640-A640:Lu;A641-A641:Ll;A642-A642:Lu;A643-A643:Ll;A644-A644:Lu;A645-A645:Ll;A646-A646:Lu;A647-A647:Ll;A648-A648:Lu;A649-A649:Ll;A64A-A64A:Lu;A64B-A64B:Ll;A6"
  ++ "4C-A64C:Lu;A64D-A64D:Ll;A64E-A64E:Lu;A64F-A64F:Ll;A650-A650:Lu;A651-A651:Ll;A652-A652:Lu;A653-A653:Ll;A654-A654:Lu;A655-A655:Ll;A656-A656:Lu;A657-A657:Ll;A658-A658:Lu;A659-A659:Ll;A65A-A65A:Lu;A65B-A65B:Ll;A65C-A65C:Lu;A65D-A65D:Ll;A65E-A65E:Lu;A65F-A65F:Ll;A660-A660:Lu;A661-A661:Ll;A662-A662:Lu;A663-A663:Ll;A664-A664:Lu;A665-A665:Ll;A666-A666:Lu;A667-A667:Ll;A668-A668:Lu;A669-A669:Ll;A66A-A66A:Lu"
  ++ ";A66B-A66B:Ll;A66C-A66C:Lu;A66D-A66D:Ll;A66E-A66E:Lo;A66F-A66F:Mn;A670-A672:Me;A673-A673:Po;A674-A67D:Mn;A67E-A67E:Po;A67F-A67F:Lm;A680-A680:Lu;A681-A681:Ll;A682-A682:Lu;A683-A683:Ll;A684-A684:Lu;A685-A685:Ll;A686-A686:Lu;A687-A687:Ll;A688-A688:Lu;A689-A689:Ll;A68A-A68A:Lu;A68B-A68B:Ll;A68C-A68C:Lu;A68D-A68D:Ll;A68E-A68E:Lu;A68F-A68F:Ll;A690-A690:Lu;A691-A691:Ll;A692-A692:Lu;A693-A693:Ll;A694-A694"
  ++ ":Lu;A695-A695:Ll;A696-A696:Lu;A697-A697:Ll;A698-A698:Lu;A699-A699:Ll;A69A-A69A:Lu;A69B-A69B:Ll;A69C-A69D:Lm;A69E-A69F:Mn;A6A0-A6E5:Lo;A6E6-A6EF:Nl;A6F0-A6F1:Mn;A6F2-A6F7:Po;A6F8-A6FF:Cn;A700-A716:Sk;A717-A71F:Lm;A720-A721:Sk;A722-A722:Lu;A723-A723:Ll;A724-A724:Lu;A725-A725:Ll;A726-A726:Lu;A727-A727:Ll;A728-A728:Lu;A729-A729:Ll;A72A-A72A:Lu;A72B-A72B:Ll;A72C-A72C:Lu;A72D-A72D:Ll;A72E-A72E:Lu;A72F-A"
  ++ "731:Ll;A732-A732:Lu;A733-A733:Ll;A734-A734:Lu;A735-A735:Ll;A736-A736:Lu;A737-A737:Ll;A738-A738:Lu;A739-A739:Ll;A73A-A73A:Lu;A73B-A73B:Ll;A73C-A73C:Lu;A73D-A73D:Ll;A73E-A73E:Lu;A73F-A73F:Ll;A740-A740:Lu;A741-A741:Ll;A742-A742:Lu;A743-A743:Ll;A744-A744:Lu;A745-A745:Ll;A746-A746:Lu;A747-A747:Ll;A748-A748:Lu;A749-A749:Ll;A74A-A74A:Lu;A74B-A74B:Ll;A74C-A74C:Lu;A74D-A74D:Ll;A74E-A74E:Lu;A74F-A74F:Ll;A75"
  ++ "0-A750:Lu;A751-A751:Ll;A752-A752:Lu;A753-A753:Ll;A754-A754:Lu;A755-A755:Ll;A756-A756:Lu;A757-A757:Ll;A758-A758:Lu;A759-A759:Ll;A75A-A75A:Lu;A75B-A75B:Ll;A75C-A75C:Lu;A75D-A75D:Ll;A75E-A75E:Lu;A75F-A75F:Ll;A760-A760:Lu;A761-A761:Ll;A762-A762:Lu;A763-A763:Ll;A764-A764:Lu;A765-A765:Ll;A766-A766:Lu;A767-A767:Ll;A768-A768:Lu;A769-A769:Ll;A76A-A76A:Lu;A76B-A76B:Ll;A76C-A76C:Lu;A76D-A76D:Ll;A76E-A76E:Lu;"
  ++ "A76F-A76F:Ll;A770-A770:Lm;A771-A778:Ll;A779-A779:Lu;A77A-A77A:Ll;A77B-A77B:Lu;A77C-A77C:Ll;A77D-A77E:Lu;A77F-A77F:Ll;A780-A780:Lu;A781-A781:Ll;A782-A782:Lu;A783-A783:Ll;A784-A784:Lu;A785-A785:Ll;A786-A786:Lu;A787-A787:Ll;A788-A788:Lm;A789-A78A:Sk;A78B-A78B:Lu;A78C-A78C:Ll;A78D-A78D:Lu;A78E-A78E:Ll;A78F-A78F:Lo;A790-A790:Lu;A791-A791:Ll;A792-A792:Lu;A793-A795:Ll;A796-A796:Lu;A797-A797:Ll;A798-A798:"
  ++ "Lu;A799-A799:Ll;A79A-A79A:Lu;A79B-A79B:Ll;A79C-A79C:Lu;A79D-A79D:Ll;A79E-A79E:Lu;A79F-A79F:Ll;A7A0-A7A0:Lu;A7A1-A7A1:Ll;A7A2-A7A2:Lu;A7A3-A7A3:Ll;A7A4-A7A4:Lu;A7A5-A7A5:Ll;A7A6-A7A6:Lu;A7A7-A7A7:Ll;A7A8-A7A8:Lu;A7A9-A7A9:Ll;A7AA-A7AE:Lu;A7AF-A7AF:Ll;A7B0-A7B4:Lu;A7B5-A7B5:Ll;A7B6-A7B6:Lu;A7B7-A7B7:Ll;A7B8-A7B8:Lu;A7B9-A7B9:Ll;A7BA-A7BA:Lu;A7BB-A7BB:Ll;A7BC-A7BC:Lu;A7BD-A7BD:Ll;A7BE-A7BE:Lu;A7BF-A7"
  ++ "BF:Ll;A7C0-A7C0:Lu;A7C1-A7C1:Ll;A7C2-A7C2:Lu;A7C3-A7C3:Ll;A7C4-A7C7:Lu;A7C8-A7C8:Ll;A7C9-A7C9:Lu;A7CA-A7CA:Ll;A7CB-A7CC:Lu;A7CD-A7CD:Ll;A7CE-A7CF:Cn;A7D0-A7D0:Lu;A7D1-A7D1:Ll;A7D2-A7D2:Cn;A7D3-A7D3:Ll;A7D4-A7D4:Cn;A7D5-A7D5:Ll;A7D6-A7D6:Lu;A7D7-A7D7:Ll;A7D8-A7D8:Lu;A7D9-A7D9:Ll;A7DA-A7DA:Lu;A7DB-A7DB:Ll;A7DC-A7DC:Lu;A7DD-A7F1:Cn;A7F2-A7F4:Lm;A7F5-A7F5:Lu;A7F6-A7F6:Ll;A7F7-A7F7:Lo;A7F8-A7F9:Lm;A7FA"
  ++ "-A7FA:Ll;A7FB-A801:Lo;A802-A802:Mn;A803-A805:Lo;A806-A806:Mn;A807-A80A:Lo;A80B-A80B:Mn;A80C-A822:Lo;A823-A824:Mc;A825-A826:Mn;A827-A827:Mc;A828-A82B:So;A82C-A82C:Mn;A82D-A82F:Cn;A830-A835:No;A836-A837:So;A838-A838:Sc;A839-A839:So;A83A-A83F:Cn;A840-A873:Lo;A874-A877:Po;A878-A87F:Cn;A880-A881:Mc;A882-A8B3:Lo;A8B4-A8C3:Mc;A8C4-A8C5:Mn;A8C6-A8CD:Cn;A8CE-A8CF:Po;A8D0-A8D9:Nd;A8DA-A8DF:Cn;A8E0-A8F1:Mn;A"
  ++ "8F2-A8F7:Lo;A8F8-A8FA:Po;A8FB-A8FB:Lo;A8FC-A8FC:Po;A8FD-A8FE:Lo;A8FF-A8FF:Mn;A900-A909:Nd;A90A-A925:Lo;A926-A92D:Mn;A92E-A92F:Po;A930-A946:Lo;A947-A951:Mn;A952-A953:Mc;A954-A95E:Cn;A95F-A95F:Po;A960-A97C:Lo;A97D-A97F:Cn;A980-A982:Mn;A983-A983:Mc;A984-A9B2:Lo;A9B3-A9B3:Mn;A9B4-A9B5:Mc;A9B6-A9B9:Mn;A9BA-A9BB:Mc;A9BC-A9BD:Mn;A9BE-A9C0:Mc;A9C1-A9CD:Po;A9CE-A9CE:Cn;A9CF-A9CF:Lm;A9D0-A9D9:Nd;A9DA-A9DD:C"
  ++ "n;A9DE-A9DF:Po;A9E0-A9E4:Lo;A9E5-A9E5:Mn;A9E6-A9E6:Lm;A9E7-A9EF:Lo;A9F0-A9F9:Nd;A9FA-A9FE:Lo;A9FF-A9FF:Cn;AA00-AA28:Lo;AA29-AA2E:Mn;AA2F-AA30:Mc;AA31-AA32:Mn;AA33-AA34:Mc;AA35-AA36:Mn;AA37-AA3F:Cn;AA40-AA42:Lo;AA43-AA43:Mn;AA44-AA4B:Lo;AA4C-AA4C:Mn;AA4D-AA4D:Mc;AA4E-AA4F:Cn;AA50-AA59:Nd;AA5A-AA5B:Cn;AA5C-AA5F:Po;AA60-AA6F:Lo;AA70-AA70:Lm;AA71-AA76:Lo;AA77-AA79:So;AA7A-AA7A:Lo;AA7B-AA7B:Mc;AA7C-AA7"
  ++ "C:Mn;AA7D-AA7D:Mc;AA7E-AAAF:Lo;AAB0-AAB0:Mn;AAB1-AAB1:Lo;AAB2-AAB4:Mn;AAB5-AAB6:Lo;AAB7-AAB8:Mn;AAB9-AABD:Lo;AABE-AABF:Mn;AAC0-AAC0:Lo;AAC1-AAC1:Mn;AAC2-AAC2:Lo;AAC3-AADA:Cn;AADB-AADC:Lo;AADD-AADD:Lm;AADE-AADF:Po;AAE0-AAEA:Lo;AAEB-AAEB:Mc;AAEC-AAED:Mn;AAEE-AAEF:Mc;AAF0-AAF1:Po;AAF2-AAF2:Lo;AAF3-AAF4:Lm;AAF5-AAF5:Mc;AAF6-AAF6:Mn;AAF7-AB00:Cn;AB01-AB06:Lo;AB07-AB08:Cn;AB09-AB0E:Lo;AB0F-AB10:Cn;AB11-"
  ++ "AB16:Lo;AB17-AB1F:Cn;AB20-AB26:Lo;AB27-AB27:Cn;AB28-AB2E:Lo;AB2F-AB2F:Cn;AB30-AB5A:Ll;AB5B-AB5B:Sk;AB5C-AB5F:Lm;AB60-AB68:Ll;AB69-AB69:Lm;AB6A-AB6B:Sk;AB6C-AB6F:Cn;AB70-ABBF:Ll;ABC0-ABE2:Lo;ABE3-ABE4:Mc;ABE5-ABE5:Mn;ABE6-ABE7:Mc;ABE8-ABE8:Mn;ABE9-ABEA:Mc;ABEB-ABEB:Po;ABEC-ABEC:Mc;ABED-ABED:Mn;ABEE-ABEF:Cn;ABF0-ABF9:Nd;ABFA-ABFF:Cn;AC00-D7A3:Lo;D7A4-D7AF:Cn;D7B0-D7C6:Lo;D7C7-D7CA:Cn;D7CB-D7FB:Lo;D7"
  ++ "FC-D7FF:Cn;D800-DFFF:Cs;E000-F8FF:Co;F900-FA6D:Lo;FA6E-FA6F:Cn;FA70-FAD9:Lo;FADA-FAFF:Cn;FB00-FB06:Ll;FB07-FB12:Cn;FB13-FB17:Ll;FB18-FB1C:Cn;FB1D-FB1D:Lo;FB1E-FB1E:Mn;FB1F-FB28:Lo;FB29-FB29:Sm;FB2A-FB36:Lo;FB37-FB37:Cn;FB38-FB3C:Lo;FB3D-FB3D:Cn;FB3E-FB3E:Lo;FB3F-FB3F:Cn;FB40-FB41:Lo;FB42-FB42:Cn;FB43-FB44:Lo;FB45-FB45:Cn;FB46-FBB1:Lo;FBB2-FBC2:Sk;FBC3-FBD2:Cn;FBD3-FD3D:Lo;FD3E-FD3E:Pe;FD3F-FD3F:Ps"
  ++ ";FD40-FD4F:So;FD50-FD8F:Lo;FD90-FD91:Cn;FD92-FDC7:Lo;FDC8-FDCE:Cn;FDCF-FDCF:So;FDD0-FDEF:Cn;FDF0-FDFB:Lo;FDFC-FDFC:Sc;FDFD-FDFF:So;FE00-FE0F:Mn;FE10-FE16:Po;FE17-FE17:Ps;FE18-FE18:Pe;FE19-FE19:Po;FE1A-FE1F:Cn;FE20-FE2F:Mn;FE30-FE30:Po;FE31-FE32:Pd;FE33-FE34:Pc;FE35-FE35:Ps;FE36-FE36:Pe;FE37-FE37:Ps;FE38-FE38:Pe;FE39-FE39:Ps;FE3A-FE3A:Pe;FE3B-FE3B:Ps;FE3C-FE3C:Pe;FE3D-FE3D:Ps;FE3E-FE3E:Pe;FE3F-FE3F"
  ++ ":Ps;FE40-FE40:Pe;FE41-FE41:Ps;FE42-FE42:Pe;FE43-FE43:Ps;FE44-FE44:Pe;FE45-FE46:Po;FE47-FE47:Ps;FE48-FE48:Pe;FE49-FE4C:Po;FE4D-FE4F:Pc;FE50-FE52:Po;FE53-FE53:Cn;FE54-FE57:Po;FE58-FE58:Pd;FE59-FE59:Ps;FE5A-FE5A:Pe;FE5B-FE5B:Ps;FE5C-FE5C:Pe;FE5D-FE5D:Ps;FE5E-FE5E:Pe;FE5F-FE61:Po;FE62-FE62:Sm;FE63-FE63:Pd;FE64-FE66:Sm;FE67-FE67:Cn;FE68-FE68:Po;FE69-FE69:Sc;FE6A-FE6B:Po;FE6C-FE6F:Cn;FE70-FE74:Lo;FE75-F"
  ++ "E75:Cn;FE76-FEFC:Lo;FEFD-FEFE:Cn;FEFF-FEFF:Cf;FF00-FF00:Cn;FF01-FF03:Po;FF04-FF04:Sc;FF05-FF07:Po;FF08-FF08:Ps;FF09-FF09:Pe;FF0A-FF0A:Po;FF0B-FF0B:Sm;FF0C-FF0C:Po;FF0D-FF0D:Pd;FF0E-FF0F:Po;FF10-FF19:Nd;FF1A-FF1B:Po;FF1C-FF1E:Sm;FF1F-FF20:Po;FF21-FF3A:Lu;FF3B-FF3B:Ps;FF3C-FF3C:Po;FF3D-FF3D:Pe;FF3E-FF3E:Sk;FF3F-FF3F:Pc;FF40-FF40:Sk;FF41-FF5A:Ll;FF5B-FF5B:Ps;FF5C-FF5C:Sm;FF5D-FF5D:Pe;FF5E-FF5E:Sm;FF5"
  ++ "F-FF5F:Ps;FF60-FF60:Pe;FF61-FF61:Po;FF62-FF62:Ps;FF63-FF63:Pe;FF64-FF65:Po;FF66-FF6F:Lo;FF70-FF70:Lm;FF71-FF9D:Lo;FF9E-FF9F:Lm;FFA0-FFBE:Lo;FFBF-FFC1:Cn;FFC2-FFC7:Lo;FFC8-FFC9:Cn;FFCA-FFCF:Lo;FFD0-FFD1:Cn;FFD2-FFD7:Lo;FFD8-FFD9:Cn;FFDA-FFDC:Lo;FFDD-FFDF:Cn;FFE0-FFE1:Sc;FFE2-FFE2:Sm;FFE3-FFE3:Sk;FFE4-FFE4:So;FFE5-FFE6:Sc;FFE7-FFE7:Cn;FFE8-FFE8:So;FFE9-FFEC:Sm;FFED-FFEE:So;FFEF-FFF8:Cn;FFF9-FFFB:Cf;"
  ++ "FFFC-FFFD:So;FFFE-FFFF:Cn;10000-1000B:Lo;1000C-1000C:Cn;1000D-10026:Lo;10027-10027:Cn;10028-1003A:Lo;1003B-1003B:Cn;1003C-1003D:Lo;1003E-1003E:Cn;1003F-1004D:Lo;1004E-1004F:Cn;10050-1005D:Lo;1005E-1007F:Cn;10080-100FA:Lo;100FB-100FF:Cn;10100-10102:Po;10103-10106:Cn;10107-10133:No;10134-10136:Cn;10137-1013F:So;10140-10174:Nl;10175-10178:No;10179-10189:So;1018A-1018B:No;1018C-1018E:So;1018F-1018F:Cn"
  ++ ";10190-1019C:So;1019D-1019F:Cn;101A0-101A0:So;101A1-101CF:Cn;101D0-101FC:So;101FD-101FD:Mn;101FE-1027F:Cn;10280-1029C:Lo;1029D-1029F:Cn;102A0-102D0:Lo;102D1-102DF:Cn;102E0-102E0:Mn;102E1-102FB:No;102FC-102FF:Cn;10300-1031F:Lo;10320-10323:No;10324-1032C:Cn;1032D-10340:Lo;10341-10341:Nl;10342-10349:Lo;1034A-1034A:Nl;1034B-1034F:Cn;10350-10375:Lo;10376-1037A:Mn;1037B-1037F:Cn;10380-1039D:Lo;1039E-103"
  ++ "9E:Cn;1039F-1039F:Po;103A0-103C3:Lo;103C4-103C7:Cn;103C8-103CF:Lo;103D0-103D0:Po;103D1-103D5:Nl;103D6-103FF:Cn;10400-10427:Lu;10428-1044F:Ll;10450-1049D:Lo;1049E-1049F:Cn;104A0-104A9:Nd;104AA-104AF:Cn;104B0-104D3:Lu;104D4-104D7:Cn;104D8-104FB:Ll;104FC-104FF:Cn;10500-10527:Lo;10528-1052F:Cn;10530-10563:Lo;10564-1056E:Cn;1056F-1056F:Po;10570-1057A:Lu;1057B-1057B:Cn;1057C-1058A:Lu;1058B-1058B:Cn;1058"
  ++ "C-10592:Lu;10593-10593:Cn;10594-10595:Lu;10596-10596:Cn;10597-105A1:Ll;105A2-105A2:Cn;105A3-105B1:Ll;105B2-105B2:Cn;105B3-105B9:Ll;105BA-105BA:Cn;105BB-105BC:Ll;105BD-105BF:Cn;105C0-105F3:Lo;105F4-105FF:Cn;10600-10736:Lo;10737-1073F:Cn;10740-10755:Lo;10756-1075F:Cn;10760-10767:Lo;10768-1077F:Cn;10780-10785:Lm;10786-10786:Cn;10787-107B0:Lm;107B1-107B1:Cn;107B2-107BA:Lm;107BB-107FF:Cn;10800-10805:Lo"
  ++ ";10806-10807:Cn;10808-10808:Lo;10809-10809:Cn;1080A-10835:Lo;10836-10836:Cn;10837-10838:Lo;10839-1083B:Cn;1083C-1083C:Lo;1083D-1083E:Cn;1083F-10855:Lo;10856-10856:Cn;10857-10857:Po;10858-1085F:No;10860-10876:Lo;10877-10878:So;10879-1087F:No;10880-1089E:Lo;1089F-108A6:Cn;108A7-108AF:No;108B0-108DF:Cn;108E0-108F2:Lo;108F3-108F3:Cn;108F4-108F5:Lo;108F6-108FA:Cn;108FB-108FF:No;10900-10915:Lo;10916-109"
  ++ "1B:No;1091C-1091E:Cn;1091F-1091F:Po;10920-10939:Lo;1093A-1093E:Cn;1093F-1093F:Po;10940-1097F:Cn;10980-109B7:Lo;109B8-109BB:Cn;109BC-109BD:No;109BE-109BF:Lo;109C0-109CF:No;109D0-109D1:Cn;109D2-109FF:No;10A00-10A00:Lo;10A01-10A03:Mn;10A04-10A04:Cn;10A05-10A06:Mn;10A07-10A0B:Cn;10A0C-10A0F:Mn;10A10-10A13:Lo;10A14-10A14:Cn;10A15-10A17:Lo;10A18-10A18:Cn;10A19-10A35:Lo;10A36-10A37:Cn;10A38-10A3A:Mn;10A3"
  ++ "B-10A3E:Cn;10A3F-10A3F:Mn;10A40-10A48:No;10A49-10A4F:Cn;10A50-10A58:Po;10A59-10A5F:Cn;10A60-10A7C:Lo;10A7D-10A7E:No;10A7F-10A7F:Po;10A80-10A9C:Lo;10A9D-10A9F:No;10AA0-10ABF:Cn;10AC0-10AC7:Lo;10AC8-10AC8:So;10AC9-10AE4:Lo;10AE5-10AE6:Mn;10AE7-10AEA:Cn;10AEB-10AEF:No;10AF0-10AF6:Po;10AF7-10AFF:Cn;10B00-10B35:Lo;10B36-10B38:Cn;10B39-10B3F:Po;10B40-10B55:Lo;10B56-10B57:Cn;10B58-10B5F:No;10B60-10B72:Lo"
  ++ ";10B73-10B77:Cn;10B78-10B7F:No;10B80-10B91:Lo;10B92-10B98:Cn;10B99-10B9C:Po;10B9D-10BA8:Cn;10BA9-10BAF:No;10BB0-10BFF:Cn;10C00-10C48:Lo;10C49-10C7F:Cn;10C80-10CB2:Lu;10CB3-10CBF:Cn;10CC0-10CF2:Ll;10CF3-10CF9:Cn;10CFA-10CFF:No;10D00-10D23:Lo;10D24-10D27:Mn;10D28-10D2F:Cn;10D30-10D39:Nd;10D3A-10D3F:Cn;10D40-10D49:Nd;10D4A-10D4D:Lo;10D4E-10D4E:Lm;10D4F-10D4F:Lo;10D50-10D65:Lu;10D66-10D68:Cn;10D69-10D"
  ++ "6D:Mn;10D6E-10D6E:Pd;10D6F-10D6F:Lm;10D70-10D85:Ll;10D86-10D8D:Cn;10D8E-10D8F:Sm;10D90-10E5F:Cn;10E60-10E7E:No;10E7F-10E7F:Cn;10E80-10EA9:Lo;10EAA-10EAA:Cn;10EAB-10EAC:Mn;10EAD-10EAD:Pd;10EAE-10EAF:Cn;10EB0-10EB1:Lo;10EB2-10EC1:Cn;10EC2-10EC4:Lo;10EC5-10EFB:Cn;10EFC-10EFF:Mn;10F00-10F1C:Lo;10F1D-10F26:No;10F27-10F27:Lo;10F28-10F2F:Cn;10F30-10F45:Lo;10F46-10F50:Mn;10F51-10F54:No;10F55-10F59:Po;10F5"
  ++ "A-10F6F:Cn;10F70-10F81:Lo;10F82-10F85:Mn;10F86-10F89:Po;10F8A-10FAF:Cn;10FB0-10FC4:Lo;10FC5-10FCB:No;10FCC-10FDF:Cn;10FE0-10FF6:Lo;10FF7-10FFF:Cn;11000-11000:Mc;11001-11001:Mn;11002-11002:Mc;11003-11037:Lo;11038-11046:Mn;11047-1104D:Po;1104E-11051:Cn;11052-11065:No;11066-1106F:Nd;11070-11070:Mn;11071-11072:Lo;11073-11074:Mn;11075-11075:Lo;11076-1107E:Cn;1107F-11081:Mn;11082-11082:Mc;11083-110AF:Lo"
  ++ ";110B0-110B2:Mc;110B3-110B6:Mn;110B7-110B8:Mc;110B9-110BA:Mn;110BB-110BC:Po;110BD-110BD:Cf;110BE-110C1:Po;110C2-110C2:Mn;110C3-110CC:Cn;110CD-110CD:Cf;110CE-110CF:Cn;110D0-110E8:Lo;110E9-110EF:Cn;110F0-110F9:Nd;110FA-110FF:Cn;11100-11102:Mn;11103-11126:Lo;11127-1112B:Mn;1112C-1112C:Mc;1112D-11134:Mn;11135-11135:Cn;11136-1113F:Nd;11140-11143:Po;11144-11144:Lo;11145-11146:Mc;11147-11147:Lo;11148-111"
  ++ "4F:Cn;11150-11172:Lo;11173-11173:Mn;11174-11175:Po;11176-11176:Lo;11177-1117F:Cn;11180-11181:Mn;11182-11182:Mc;11183-111B2:Lo;111B3-111B5:Mc;111B6-111BE:Mn;111BF-111C0:Mc;111C1-111C4:Lo;111C5-111C8:Po;111C9-111CC:Mn;111CD-111CD:Po;111CE-111CE:Mc;111CF-111CF:Mn;111D0-111D9:Nd;111DA-111DA:Lo;111DB-111DB:Po;111DC-111DC:Lo;111DD-111DF:Po;111E0-111E0:Cn;111E1-111F4:No;111F5-111FF:Cn;11200-11211:Lo;1121"
  ++ "2-11212:Cn;11213-1122B:Lo;1122C-1122E:Mc;1122F-11231:Mn;11232-11233:Mc;11234-11234:Mn;11235-11235:Mc;11236-11237:Mn;11238-1123D:Po;1123E-1123E:Mn;1123F-11240:Lo;11241-11241:Mn;11242-1127F:Cn;11280-11286:Lo;11287-11287:Cn;11288-11288:Lo;11289-11289:Cn;1128A-1128D:Lo;1128E-1128E:Cn;1128F-1129D:Lo;1129E-1129E:Cn;1129F-112A8:Lo;112A9-112A9:Po;112AA-112AF:Cn;112B0-112DE:Lo;112DF-112DF:Mn;112E0-112E2:Mc"
  ++ ";112E3-112EA:Mn;112EB-112EF:Cn;112F0-112F9:Nd;112FA-112FF:Cn;11300-11301:Mn;11302-11303:Mc;11304-11304:Cn;11305-1130C:Lo;1130D-1130E:Cn;1130F-11310:Lo;11311-11312:Cn;11313-11328:Lo;11329-11329:Cn;1132A-11330:Lo;11331-11331:Cn;11332-11333:Lo;11334-11334:Cn;11335-11339:Lo;1133A-1133A:Cn;1133B-1133C:Mn;1133D-1133D:Lo;1133E-1133F:Mc;11340-11340:Mn;11341-11344:Mc;11345-11346:Cn;11347-11348:Mc;11349-113"
  ++ "4A:Cn;1134B-1134D:Mc;1134E-1134F:Cn;11350-11350:Lo;11351-11356:Cn;11357-11357:Mc;11358-1135C:Cn;1135D-11361:Lo;11362-11363:Mc;11364-11365:Cn;11366-1136C:Mn;1136D-1136F:Cn;11370-11374:Mn;11375-1137F:Cn;11380-11389:Lo;1138A-1138A:Cn;1138B-1138B:Lo;1138C-1138D:Cn;1138E-1138E:Lo;1138F-1138F:Cn;11390-113B5:Lo;113B6-113B6:Cn;113B7-113B7:Lo;113B8-113BA:Mc;113BB-113C0:Mn;113C1-113C1:Cn;113C2-113C2:Mc;113C"
  ++ "3-113C4:Cn;113C5-113C5:Mc;113C6-113C6:Cn;113C7-113CA:Mc;113CB-113CB:Cn;113CC-113CD:Mc;113CE-113CE:Mn;113CF-113CF:Mc;113D0-113D0:Mn;113D1-113D1:Lo;113D2-113D2:Mn;113D3-113D3:Lo;113D4-113D5:Po;113D6-113D6:Cn;113D7-113D8:Po;113D9-113E0:Cn;113E1-113E2:Mn;113E3-113FF:Cn;11400-11434:Lo;11435-11437:Mc;11438-1143F:Mn;11440-11441:Mc;11442-11444:Mn;11445-11445:Mc;11446-11446:Mn;11447-1144A:Lo;1144B-1144F:Po"
  ++ ";11450-11459:Nd;1145A-1145B:Po;1145C-1145C:Cn;1145D-1145D:Po;1145E-1145E:Mn;1145F-11461:Lo;11462-1147F:Cn;11480-114AF:Lo;114B0-114B2:Mc;114B3-114B8:Mn;114B9-114B9:Mc;114BA-114BA:Mn;114BB-114BE:Mc;114BF-114C0:Mn;114C1-114C1:Mc;114C2-114C3:Mn;114C4-114C5:Lo;114C6-114C6:Po;114C7-114C7:Lo;114C8-114CF:Cn;114D0-114D9:Nd;114DA-1157F:Cn;11580-115AE:Lo;115AF-115B1:Mc;115B2-115B5:Mn;115B6-115B7:Cn;115B8-115"
  ++ "BB:Mc;115BC-115BD:Mn;115BE-115BE:Mc;115BF-115C0:Mn;115C1-115D7:Po;115D8-115DB:Lo;115DC-115DD:Mn;115DE-115FF:Cn;11600-1162F:Lo;11630-11632:Mc;11633-1163A:Mn;1163B-1163C:Mc;1163D-1163D:Mn;1163E-1163E:Mc;1163F-11640:Mn;11641-11643:Po;11644-11644:Lo;11645-1164F:Cn;11650-11659:Nd;1165A-1165F:Cn;11660-1166C:Po;1166D-1167F:Cn;11680-116AA:Lo;116AB-116AB:Mn;116AC-116AC:Mc;116AD-116AD:Mn;116AE-116AF:Mc;116B"
  ++ "0-116B5:Mn;116B6-116B6:Mc;116B7-116B7:Mn;116B8-116B8:Lo;116B9-116B9:Po;116BA-116BF:Cn;116C0-116C9:Nd;116CA-116CF:Cn;116D0-116E3:Nd;116E4-116FF:Cn;11700-1171A:Lo;1171B-1171C:Cn;1171D-1171D:Mn;1171E-1171E:Mc;1171F-1171F:Mn;11720-11721:Mc;11722-11725:Mn;11726-11726:Mc;11727-1172B:Mn;1172C-1172F:Cn;11730-11739:Nd;1173A-1173B:No;1173C-1173E:Po;1173F-1173F:So;11740-11746:Lo;11747-117FF:Cn;11800-1182B:Lo"
  ++ ";1182C-1182E:Mc;1182F-11837:Mn;11838-11838:Mc;11839-1183A:Mn;1183B-1183B:Po;1183C-1189F:Cn;118A0-118BF:Lu;118C0-118DF:Ll;118E0-118E9:Nd;118EA-118F2:No;118F3-118FE:Cn;118FF-11906:Lo;11907-11908:Cn;11909-11909:Lo;1190A-1190B:Cn;1190C-11913:Lo;11914-11914:Cn;11915-11916:Lo;11917-11917:Cn;11918-1192F:Lo;11930-11935:Mc;11936-11936:Cn;11937-11938:Mc;11939-1193A:Cn;1193B-1193C:Mn;1193D-1193D:Mc;1193E-119"
  ++ "3E:Mn;1193F-1193F:Lo;11940-11940:Mc;11941-11941:Lo;11942-11942:Mc;11943-11943:Mn;11944-11946:Po;11947-1194F:Cn;11950-11959:Nd;1195A-1199F:Cn;119A0-119A7:Lo;119A8-119A9:Cn;119AA-119D0:Lo;119D1-119D3:Mc;119D4-119D7:Mn;119D8-119D9:Cn;119DA-119DB:Mn;119DC-119DF:Mc;119E0-119E0:Mn;119E1-119E1:Lo;119E2-119E2:Po;119E3-119E3:Lo;119E4-119E4:Mc;119E5-119FF:Cn;11A00-11A00:Lo;11A01-11A0A:Mn;11A0B-11A32:Lo;11A3"
  ++ "3-11A38:Mn;11A39-11A39:Mc;11A3A-11A3A:Lo;11A3B-11A3E:Mn;11A3F-11A46:Po;11A47-11A47:Mn;11A48-11A4F:Cn;11A50-11A50:Lo;11A51-11A56:Mn;11A57-11A58:Mc;11A59-11A5B:Mn;11A5C-11A89:Lo;11A8A-11A96:Mn;11A97-11A97:Mc;11A98-11A99:Mn;11A9A-11A9C:Po;11A9D-11A9D:Lo;11A9E-11AA2:Po;11AA3-11AAF:Cn;11AB0-11AF8:Lo;11AF9-11AFF:Cn;11B00-11B09:Po;11B0A-11BBF:Cn;11BC0-11BE0:Lo;11BE1-11BE1:Po;11BE2-11BEF:Cn;11BF0-11BF9:Nd"
  ++ ";11BFA-11BFF:Cn;11C00-11C08:Lo;11C09-11C09:Cn;11C0A-11C2E:Lo;11C2F-11C2F:Mc;11C30-11C36:Mn;11C37-11C37:Cn;11C38-11C3D:Mn;11C3E-11C3E:Mc;11C3F-11C3F:Mn;11C40-11C40:Lo;11C41-11C45:Po;11C46-11C4F:Cn;11C50-11C59:Nd;11C5A-11C6C:No;11C6D-11C6F:Cn;11C70-11C71:Po;11C72-11C8F:Lo;11C90-11C91:Cn;11C92-11CA7:Mn;11CA8-11CA8:Cn;11CA9-11CA9:Mc;11CAA-11CB0:Mn;11CB1-11CB1:Mc;11CB2-11CB3:Mn;11CB4-11CB4:Mc;11CB5-11C"
  ++ "B6:Mn;11CB7-11CFF:Cn;11D00-11D06:Lo;11D07-11D07:Cn;11D08-11D09:Lo;11D0A-11D0A:Cn;11D0B-11D30:Lo;11D31-11D36:Mn;11D37-11D39:Cn;11D3A-11D3A:Mn;11D3B-11D3B:Cn;11D3C-11D3D:Mn;11D3E-11D3E:Cn;11D3F-11D45:Mn;11D46-11D46:Lo;11D47-11D47:Mn;11D48-11D4F:Cn;11D50-11D59:Nd;11D5A-11D5F:Cn;11D60-11D65:Lo;11D66-11D66:Cn;11D67-11D68:Lo;11D69-11D69:Cn;11D6A-11D89:Lo;11D8A-11D8E:Mc;11D8F-11D8F:Cn;11D90-11D91:Mn;11D9"
  ++ "2-11D92:Cn;11D93-11D94:Mc;11D95-11D95:Mn;11D96-11D96:Mc;11D97-11D97:Mn;11D98-11D98:Lo;11D99-11D9F:Cn;11DA0-11DA9:Nd;11DAA-11EDF:Cn;11EE0-11EF2:Lo;11EF3-11EF4:Mn;11EF5-11EF6:Mc;11EF7-11EF8:Po;11EF9-11EFF:Cn;11F00-11F01:Mn;11F02-11F02:Lo;11F03-11F03:Mc;11F04-11F10:Lo;11F11-11F11:Cn;11F12-11F33:Lo;11F34-11F35:Mc;11F36-11F3A:Mn;11F3B-11F3D:Cn;11F3E-11F3F:Mc;11F40-11F40:Mn;11F41-11F41:Mc;11F42-11F42:Mn"
  ++ ";11F43-11F4F:Po;11F50-11F59:Nd;11F5A-11FAF:Cn;11FB0-11FB0:Lo;11FB1-11FBF:Cn;11FC0-11FD4:No;11FD5-11FDC:So;11FDD-11FE0:Sc;11FE1-11FF1:So;11FF2-11FFE:Cn;11FFF-11FFF:Po;12000-12399:Lo;1239A-123FF:Cn;12400-1246E:Nl;1246F-1246F:Cn;12470-12474:Po;12475-1247F:Cn;12480-12543:Lo;12544-12F8F:Cn;12F90-12FF0:Lo;12FF1-12FF2:Po;12FF3-12FFF:Cn;13000-1342F:Lo;13430-1343F:Cf;13440-13440:Mn;13441-13446:Lo;13447-134"
  ++ "55:Mn;13456-1345F:Cn;13460-143FA:Lo;143FB-143FF:Cn;14400-14646:Lo;14647-160FF:Cn;16100-1611D:Lo;1611E-16129:Mn;1612A-1612C:Mc;1612D-1612F:Mn;16130-16139:Nd;1613A-167FF:Cn;16800-16A38:Lo;16A39-16A3F:Cn;16A40-16A5E:Lo;16A5F-16A5F:Cn;16A60-16A69:Nd;16A6A-16A6D:Cn;16A6E-16A6F:Po;16A70-16ABE:Lo;16ABF-16ABF:Cn;16AC0-16AC9:Nd;16ACA-16ACF:Cn;16AD0-16AED:Lo;16AEE-16AEF:Cn;16AF0-16AF4:Mn;16AF5-16AF5:Po;16AF"
  ++ "6-16AFF:Cn;16B00-16B2F:Lo;16B30-16B36:Mn;16B37-16B3B:Po;16B3C-16B3F:So;16B40-16B43:Lm;16B44-16B44:Po;16B45-16B45:So;16B46-16B4F:Cn;16B50-16B59:Nd;16B5A-16B5A:Cn;16B5B-16B61:No;16B62-16B62:Cn;16B63-16B77:Lo;16B78-16B7C:Cn;16B7D-16B8F:Lo;16B90-16D3F:Cn;16D40-16D42:Lm;16D43-16D6A:Lo;16D6B-16D6C:Lm;16D6D-16D6F:Po;16D70-16D79:Nd;16D7A-16E3F:Cn;16E40-16E5F:Lu;16E60-16E7F:Ll;16E80-16E96:No;16E97-16E9A:Po"
  ++ ";16E9B-16EFF:Cn;16F00-16F4A:Lo;16F4B-16F4E:Cn;16F4F-16F4F:Mn;16F50-16F50:Lo;16F51-16F87:Mc;16F88-16F8E:Cn;16F8F-16F92:Mn;16F93-16F9F:Lm;16FA0-16FDF:Cn;16FE0-16FE1:Lm;16FE2-16FE2:Po;16FE3-16FE3:Lm;16FE4-16FE4:Mn;16FE5-16FEF:Cn;16FF0-16FF1:Mc;16FF2-16FFF:Cn;17000-187F7:Lo;187F8-187FF:Cn;18800-18CD5:Lo;18CD6-18CFE:Cn;18CFF-18D08:Lo;18D09-1AFEF:Cn;1AFF0-1AFF3:Lm;1AFF4-1AFF4:Cn;1AFF5-1AFFB:Lm;1AFFC-1AF"
  ++ "FC:Cn;1AFFD-1AFFE:Lm;1AFFF-1AFFF:Cn;1B000-1B122:Lo;1B123-1B131:Cn;1B132-1B132:Lo;1B133-1B14F:Cn;1B150-1B152:Lo;1B153-1B154:Cn;1B155-1B155:Lo;1B156-1B163:Cn;1B164-1B167:Lo;1B168-1B16F:Cn;1B170-1B2FB:Lo;1B2FC-1BBFF:Cn;1BC00-1BC6A:Lo;1BC6B-1BC6F:Cn;1BC70-1BC7C:Lo;1BC7D-1BC7F:Cn;1BC80-1BC88:Lo;1BC89-1BC8F:Cn;1BC90-1BC99:Lo;1BC9A-1BC9B:Cn;1BC9C-1BC9C:So;1BC9D-1BC9E:Mn;1BC9F-1BC9F:Po;1BCA0-1BCA3:Cf;1BCA"
  ++ "4-1CBFF:Cn;1CC00-1CCEF:So;1CCF0-1CCF9:Nd;1CCFA-1CCFF:Cn;1CD00-1CEB3:So;1CEB4-1CEFF:Cn;1CF00-1CF2D:Mn;1CF2E-1CF2F:Cn;1CF30-1CF46:Mn;1CF47-1CF4F:Cn;1CF50-1CFC3:So;1CFC4-1CFFF:Cn;1D000-1D0F5:So;1D0F6-1D0FF:Cn;1D100-1D126:So;1D127-1D128:Cn;1D129-1D164:So;1D165-1D166:Mc;1D167-1D169:Mn;1D16A-1D16C:So;1D16D-1D172:Mc;1D173-1D17A:Cf;1D17B-1D182:Mn;1D183-1D184:So;1D185-1D18B:Mn;1D18C-1D1A9:So;1D1AA-1D1AD:Mn"
  ++ ";1D1AE-1D1EA:So;1D1EB-1D1FF:Cn;1D200-1D241:So;1D242-1D244:Mn;1D245-1D245:So;1D246-1D2BF:Cn;1D2C0-1D2D3:No;1D2D4-1D2DF:Cn;1D2E0-1D2F3:No;1D2F4-1D2FF:Cn;1D300-1D356:So;1D357-1D35F:Cn;1D360-1D378:No;1D379-1D3FF:Cn;1D400-1D419:Lu;1D41A-1D433:Ll;1D434-1D44D:Lu;1D44E-1D454:Ll;1D455-1D455:Cn;1D456-1D467:Ll;1D468-1D481:Lu;1D482-1D49B:Ll;1D49C-1D49C:Lu;1D49D-1D49D:Cn;1D49E-1D49F:Lu;1D4A0-1D4A1:Cn;1D4A2-1D4"
  ++ "A2:Lu;1D4A3-1D4A4:Cn;1D4A5-1D4A6:Lu;1D4A7-1D4A8:Cn;1D4A9-1D4AC:Lu;1D4AD-1D4AD:Cn;1D4AE-1D4B5:Lu;1D4B6-1D4B9:Ll;1D4BA-1D4BA:Cn;1D4BB-1D4BB:Ll;1D4BC-1D4BC:Cn;1D4BD-1D4C3:Ll;1D4C4-1D4C4:Cn;1D4C5-1D4CF:Ll;1D4D0-1D4E9:Lu;1D4EA-1D503:Ll;1D504-1D505:Lu;1D506-1D506:Cn;1D507-1D50A:Lu;1D50B-1D50C:Cn;1D50D-1D514:Lu;1D515-1D515:Cn;1D516-1D51C:Lu;1D51D-1D51D:Cn;1D51E-1D537:Ll;1D538-1D539:Lu;1D53A-1D53A:Cn;1D53"
  ++ "B-1D53E:Lu;1D53F-1D53F:Cn;1D540-1D544:Lu;1D545-1D545:Cn;1D546-1D546:Lu;1D547-1D549:Cn;1D54A-1D550:Lu;1D551-1D551:Cn;1D552-1D56B:Ll;1D56C-1D585:Lu;1D586-1D59F:Ll;1D5A0-1D5B9:Lu;1D5BA-1D5D3:Ll;1D5D4-1D5ED:Lu;1D5EE-1D607:Ll;1D608-1D621:Lu;1D622-1D63B:Ll;1D63C-1D655:Lu;1D656-1D66F:Ll;1D670-1D689:Lu;1D68A-1D6A5:Ll;1D6A6-1D6A7:Cn;1D6A8-1D6C0:Lu;1D6C1-1D6C1:Sm;1D6C2-1D6DA:Ll;1D6DB-1D6DB:Sm;1D6DC-1D6E1:Ll"
  ++ ";1D6E2-1D6FA:Lu;1D6FB-1D6FB:Sm;1D6FC-1D714:Ll;1D715-1D715:Sm;1D716-1D71B:Ll;1D71C-1D734:Lu;1D735-1D735:Sm;1D736-1D74E:Ll;1D74F-1D74F:Sm;1D750-1D755:Ll;1D756-1D76E:Lu;1D76F-1D76F:Sm;1D770-1D788:Ll;1D789-1D789:Sm;1D78A-1D78F:Ll;1D790-1D7A8:Lu;1D7A9-1D7A9:Sm;1D7AA-1D7C2:Ll;1D7C3-1D7C3:Sm;1D7C4-1D7C9:Ll;1D7CA-1D7CA:Lu;1D7CB-1D7CB:Ll;1D7CC-1D7CD:Cn;1D7CE-1D7FF:Nd;1D800-1D9FF:So;1DA00-1DA36:Mn;1DA37-1DA"
  ++ "3A:So;1DA3B-1DA6C:Mn;1DA6D-1DA74:So;1DA75-1DA75:Mn;1DA76-1DA83:So;1DA84-1DA84:Mn;1DA85-1DA86:So;1DA87-1DA8B:Po;1DA8C-1DA9A:Cn;1DA9B-1DA9F:Mn;1DAA0-1DAA0:Cn;1DAA1-1DAAF:Mn;1DAB0-1DEFF:Cn;1DF00-1DF09:Ll;1DF0A-1DF0A:Lo;1DF0B-1DF1E:Ll;1DF1F-1DF24:Cn;1DF25-1DF2A:Ll;1DF2B-1DFFF:Cn;1E000-1E006:Mn;1E007-1E007:Cn;1E008-1E018:Mn;1E019-1E01A:Cn;1E01B-1E021:Mn;1E022-1E022:Cn;1E023-1E024:Mn;1E025-1E025:Cn;1E02"
  ++ "6-1E02A:Mn;1E02B-1E02F:Cn;1E030-1E06D:Lm;1E06E-1E08E:Cn;1E08F-1E08F:Mn;1E090-1E0FF:Cn;1E100-1E12C:Lo;1E12D-1E12F:Cn;1E130-1E136:Mn;1E137-1E13D:Lm;1E13E-1E13F:Cn;1E140-1E149:Nd;1E14A-1E14D:Cn;1E14E-1E14E:Lo;1E14F-1E14F:So;1E150-1E28F:Cn;1E290-1E2AD:Lo;1E2AE-1E2AE:Mn;1E2AF-1E2BF:Cn;1E2C0-1E2EB:Lo;1E2EC-1E2EF:Mn;1E2F0-1E2F9:Nd;1E2FA-1E2FE:Cn;1E2FF-1E2FF:Sc;1E300-1E4CF:Cn;1E4D0-1E4EA:Lo;1E4EB-1E4EB:Lm"
  ++ ";1E4EC-1E4EF:Mn;1E4F0-1E4F9:Nd;1E4FA-1E5CF:Cn;1E5D0-1E5ED:Lo;1E5EE-1E5EF:Mn;1E5F0-1E5F0:Lo;1E5F1-1E5FA:Nd;1E5FB-1E5FE:Cn;1E5FF-1E5FF:Po;1E600-1E7DF:Cn;1E7E0-1E7E6:Lo;1E7E7-1E7E7:Cn;1E7E8-1E7EB:Lo;1E7EC-1E7EC:Cn;1E7ED-1E7EE:Lo;1E7EF-1E7EF:Cn;1E7F0-1E7FE:Lo;1E7FF-1E7FF:Cn;1E800-1E8C4:Lo;1E8C5-1E8C6:Cn;1E8C7-1E8CF:No;1E8D0-1E8D6:Mn;1E8D7-1E8FF:Cn;1E900-1E921:Lu;1E922-1E943:Ll;1E944-1E94A:Mn;1E94B-1E9"
  ++ "4B:Lm;1E94C-1E94F:Cn;1E950-1E959:Nd;1E95A-1E95D:Cn;1E95E-1E95F:Po;1E960-1EC70:Cn;1EC71-1ECAB:No;1ECAC-1ECAC:So;1ECAD-1ECAF:No;1ECB0-1ECB0:Sc;1ECB1-1ECB4:No;1ECB5-1ED00:Cn;1ED01-1ED2D:No;1ED2E-1ED2E:So;1ED2F-1ED3D:No;1ED3E-1EDFF:Cn;1EE00-1EE03:Lo;1EE04-1EE04:Cn;1EE05-1EE1F:Lo;1EE20-1EE20:Cn;1EE21-1EE22:Lo;1EE23-1EE23:Cn;1EE24-1EE24:Lo;1EE25-1EE26:Cn;1EE27-1EE27:Lo;1EE28-1EE28:Cn;1EE29-1EE32:Lo;1EE3"
  ++ "3-1EE33:Cn;1EE34-1EE37:Lo;1EE38-1EE38:Cn;1EE39-1EE39:Lo;1EE3A-1EE3A:Cn;1EE3B-1EE3B:Lo;1EE3C-1EE41:Cn;1EE42-1EE42:Lo;1EE43-1EE46:Cn;1EE47-1EE47:Lo;1EE48-1EE48:Cn;1EE49-1EE49:Lo;1EE4A-1EE4A:Cn;1EE4B-1EE4B:Lo;1EE4C-1EE4C:Cn;1EE4D-1EE4F:Lo;1EE50-1EE50:Cn;1EE51-1EE52:Lo;1EE53-1EE53:Cn;1EE54-1EE54:Lo;1EE55-1EE56:Cn;1EE57-1EE57:Lo;1EE58-1EE58:Cn;1EE59-1EE59:Lo;1EE5A-1EE5A:Cn;1EE5B-1EE5B:Lo;1EE5C-1EE5C:Cn"
  ++ ";1EE5D-1EE5D:Lo;1EE5E-1EE5E:Cn;1EE5F-1EE5F:Lo;1EE60-1EE60:Cn;1EE61-1EE62:Lo;1EE63-1EE63:Cn;1EE64-1EE64:Lo;1EE65-1EE66:Cn;1EE67-1EE6A:Lo;1EE6B-1EE6B:Cn;1EE6C-1EE72:Lo;1EE73-1EE73:Cn;1EE74-1EE77:Lo;1EE78-1EE78:Cn;1EE79-1EE7C:Lo;1EE7D-1EE7D:Cn;1EE7E-1EE7E:Lo;1EE7F-1EE7F:Cn;1EE80-1EE89:Lo;1EE8A-1EE8A:Cn;1EE8B-1EE9B:Lo;1EE9C-1EEA0:Cn;1EEA1-1EEA3:Lo;1EEA4-1EEA4:Cn;1EEA5-1EEA9:Lo;1EEAA-1EEAA:Cn;1EEAB-1EE"
  ++ "BB:Lo;1EEBC-1EEEF:Cn;1EEF0-1EEF1:Sm;1EEF2-1EFFF:Cn;1F000-1F02B:So;1F02C-1F02F:Cn;1F030-1F093:So;1F094-1F09F:Cn;1F0A0-1F0AE:So;1F0AF-1F0B0:Cn;1F0B1-1F0BF:So;1F0C0-1F0C0:Cn;1F0C1-1F0CF:So;1F0D0-1F0D0:Cn;1F0D1-1F0F5:So;1F0F6-1F0FF:Cn;1F100-1F10C:No;1F10D-1F1AD:So;1F1AE-1F1E5:Cn;1F1E6-1F202:So;1F203-1F20F:Cn;1F210-1F23B:So;1F23C-1F23F:Cn;1F240-1F248:So;1F249-1F24F:Cn;1F250-1F251:So;1F252-1F25F:Cn;1F26"
  ++ "0-1F265:So;1F266-1F2FF:Cn;1F300-1F3FA:So;1F3FB-1F3FF:Sk;1F400-1F6D7:So;1F6D8-1F6DB:Cn;1F6DC-1F6EC:So;1F6ED-1F6EF:Cn;1F6F0-1F6FC:So;1F6FD-1F6FF:Cn;1F700-1F776:So;1F777-1F77A:Cn;1F77B-1F7D9:So;1F7DA-1F7DF:Cn;1F7E0-1F7EB:So;1F7EC-1F7EF:Cn;1F7F0-1F7F0:So;1F7F1-1F7FF:Cn;1F800-1F80B:So;1F80C-1F80F:Cn;1F810-1F847:So;1F848-1F84F:Cn;1F850-1F859:So;1F85A-1F85F:Cn;1F860-1F887:So;1F888-1F88F:Cn;1F890-1F8AD:So"
  ++ ";1F8AE-1F8AF:Cn;1F8B0-1F8BB:So;1F8BC-1F8BF:Cn;1F8C0-1F8C1:So;1F8C2-1F8FF:Cn;1F900-1FA53:So;1FA54-1FA5F:Cn;1FA60-1FA6D:So;1FA6E-1FA6F:Cn;1FA70-1FA7C:So;1FA7D-1FA7F:Cn;1FA80-1FA89:So;1FA8A-1FA8E:Cn;1FA8F-1FAC6:So;1FAC7-1FACD:Cn;1FACE-1FADC:So;1FADD-1FADE:Cn;1FADF-1FAE9:So;1FAEA-1FAEF:Cn;1FAF0-1FAF8:So;1FAF9-1FAFF:Cn;1FB00-1FB92:So;1FB93-1FB93:Cn;1FB94-1FBEF:So;1FBF0-1FBF9:Nd;1FBFA-1FFFF:Cn;20000-2A6"
  ++ "DF:Lo;2A6E0-2A6FF:Cn;2A700-2B739:Lo;2B73A-2B73F:Cn;2B740-2B81D:Lo;2B81E-2B81F:Cn;2B820-2CEA1:Lo;2CEA2-2CEAF:Cn;2CEB0-2EBE0:Lo;2EBE1-2EBEF:Cn;2EBF0-2EE5D:Lo;2EE5E-2F7FF:Cn;2F800-2FA1D:Lo;2FA1E-2FFFF:Cn;30000-3134A:Lo;3134B-3134F:Cn;31350-323AF:Lo;323B0-E0000:Cn;E0001-E0001:Cf;E0002-E001F:Cn;E0020-E007F:Cf;E0080-E00FF:Cn;E0100-E01EF:Mn;E01F0-EFFFF:Cn;F0000-FFFFD:Co;FFFFE-FFFFF:Cn;100000-10FFFD:Co;10"
  ++ "FFFE-10FFFF:Cn"

def scriptRanges : String :=
  "0-40:Zyyy;41-5A:Latn;5B-60:Zyyy;61-7A:Latn;7B-A9:Zyyy;AA-AA:Latn;AB-B9:Zyyy;BA-BA:Latn;BB-BF:Zyyy;C0-D6:Latn;D7-D7:Zyyy;D8-F6:Latn;F7-F7:Zyyy;F8-2B8:Latn;2B9-2DF:Zyyy;2E0-2E4:Latn;2E5-2E9:Zyyy;2EA-2EB:Bopo;2EC-2FF:Zyyy;300-36F:Zinh;370-373:Grek;374-374:Zyyy;375-377:Grek;37A-37D:Grek;37E-37E:Zyyy;37F-37F:Grek;384-384:Grek;385-385:Zyyy;386-386:Grek;387-387:Zyyy;388-38A:Grek;38C-38C:Grek;38E-3A1:Grek"
  ++ ";3A3-3E1:Grek;3E2-3EF:Copt;3F0-3FF:Grek;400-484:Cyrl;485-486:Zinh;487-52F:Cyrl;531-556:Armn;559-58A:Armn;58D-58F:Armn;591-5C7:Hebr;5D0-5EA:Hebr;5EF-5F4:Hebr;600-604:Arab;605-605:Zyyy;606-60B:Arab;60C-60C:Zyyy;60D-61A:Arab;61B-61B:Zyyy;61C-61E:Arab;61F-61F:Zyyy;620-63F:Arab;640-640:Zyyy;641-64A:Arab;64B-655:Zinh;656-66F:Arab;670-670:Zinh;671-6DC:Arab;6DD-6DD:Zyyy;6DE-6FF:Arab;700-70D:Syrc;70F-74A:S"
  ++ "yrc;74D-74F:Syrc;750-77F:Arab;780-7B1:Thaa;7C0-7FA:Nkoo;7FD-7FF:Nkoo;800-82D:Samr;830-83E:Samr;840-85B:Mand;85E-85E:Mand;860-86A:Syrc;870-88E:Arab;890-891:Arab;897-8E1:Arab;8E2-8E2:Zyyy;8E3-8FF:Arab;900-950:Deva;951-954:Zinh;955-963:Deva;964-965:Zyyy;966-97F:Deva;980-983:Beng;985-98C:Beng;98F-990:Beng;993-9A8:Beng;9AA-9B0:Beng;9B2-9B2:Beng;9B6-9B9:Beng;9BC-9C4:Beng;9C7-9C8:Beng;9CB-9CE:Beng;9D7-9D"
  ++ "7:Beng;9DC-9DD:Beng;9DF-9E3:Beng;9E6-9FE:Beng;A01-A03:Guru;A05-A0A:Guru;A0F-A10:Guru;A13-A28:Guru;A2A-A30:Guru;A32-A33:Guru;A35-A36:Guru;A38-A39:Guru;A3C-A3C:Guru;A3E-A42:Guru;A47-A48:Guru;A4B-A4D:Guru;A51-A51:Guru;A59-A5C:Guru;A5E-A5E:Guru;A66-A76:Guru;A81-A83:Gujr;A85-A8D:Gujr;A8F-A91:Gujr;A93-AA8:Gujr;AAA-AB0:Gujr;AB2-AB3:Gujr;AB5-AB9:Gujr;ABC-AC5:Gujr;AC7-AC9:Gujr;ACB-ACD:Gujr;AD0-AD0:Gujr;AE0"
  ++ "-AE3:Gujr;AE6-AF1:Gujr;AF9-AFF:Gujr;B01-B03:Orya;B05-B0C:Orya;B0F-B10:Orya;B13-B28:Orya;B2A-B30:Orya;B32-B33:Orya;B35-B39:Orya;B3C-B44:Orya;B47-B48:Orya;B4B-B4D:Orya;B55-B57:Orya;B5C-B5D:Orya;B5F-B63:Orya;B66-B77:Orya;B82-B83:Taml;B85-B8A:Taml;B8E-B90:Taml;B92-B95:Taml;B99-B9A:Taml;B9C-B9C:Taml;B9E-B9F:Taml;BA3-BA4:Taml;BA8-BAA:Taml;BAE-BB9:Taml;BBE-BC2:Taml;BC6-BC8:Taml;BCA-BCD:Taml;BD0-BD0:Taml;"
  ++ "BD7-BD7:Taml;BE6-BFA:Taml;C00-C0C:Telu;C0E-C10:Telu;C12-C28:Telu;C2A-C39:Telu;C3C-C44:Telu;C46-C48:Telu;C4A-C4D:Telu;C55-C56:Telu;C58-C5A:Telu;C5D-C5D:Telu;C60-C63:Telu;C66-C6F:Telu;C77-C7F:Telu;C80-C8C:Knda;C8E-C90:Knda;C92-CA8:Knda;CAA-CB3:Knda;CB5-CB9:Knda;CBC-CC4:Knda;CC6-CC8:Knda;CCA-CCD:Knda;CD5-CD6:Knda;CDD-CDE:Knda;CE0-CE3:Knda;CE6-CEF:Knda;CF1-CF3:Knda;D00-D0C:Mlym;D0E-D10:Mlym;D12-D44:Ml"
  ++ "ym;D46-D48:Mlym;D4A-D4F:Mlym;D54-D63:Mlym;D66-D7F:Mlym;D81-D83:Sinh;D85-D96:Sinh;D9A-DB1:Sinh;DB3-DBB:Sinh;DBD-DBD:Sinh;DC0-DC6:Sinh;DCA-DCA:Sinh;DCF-DD4:Sinh;DD6-DD6:Sinh;DD8-DDF:Sinh;DE6-DEF:Sinh;DF2-DF4:Sinh;E01-E3A:Thai;E3F-E3F:Zyyy;E40-E5B:Thai;E81-E82:Laoo;E84-E84:Laoo;E86-E8A:Laoo;E8C-EA3:Laoo;EA5-EA5:Laoo;EA7-EBD:Laoo;EC0-EC4:Laoo;EC6-EC6:Laoo;EC8-ECE:Laoo;ED0-ED9:Laoo;EDC-EDF:Laoo;F00-F47"
  ++ ":Tibt;F49-F6C:Tibt;F71-F97:Tibt;F99-FBC:Tibt;FBE-FCC:Tibt;FCE-FD4:Tibt;FD5-FD8:Zyyy;FD9-FDA:Tibt;1000-109F:Mymr;10A0-10C5:Geor;10C7-10C7:Geor;10CD-10CD:Geor;10D0-10FA:Geor;10FB-10FB:Zyyy;10FC-10FF:Geor;1100-11FF:Hang;1200-1248:Ethi;124A-124D:Ethi;1250-1256:Ethi;1258-1258:Ethi;125A-125D:Ethi;1260-1288:Ethi;128A-128D:Ethi;1290-12B0:Ethi;12B2-12B5:Ethi;12B8-12BE:Ethi;12C0-12C0:Ethi;12C2-12C5:Ethi;12C"
  ++ "8-12D6:Ethi;12D8-1310:Ethi;1312-1315:Ethi;1318-135A:Ethi;135D-137C:Ethi;1380-1399:Ethi;13A0-13F5:Cher;13F8-13FD:Cher;1400-167F:Cans;1680-169C:Ogam;16A0-16EA:Runr;16EB-16ED:Zyyy;16EE-16F8:Runr;1700-1715:Tglg;171F-171F:Tglg;1720-1734:Hano;1735-1736:Zyyy;1740-1753:Buhd;1760-176C:Tagb;176E-1770:Tagb;1772-1773:Tagb;1780-17DD:Khmr;17E0-17E9:Khmr;17F0-17F9:Khmr;1800-1801:Mong;1802-1803:Zyyy;1804-1804:Mon"
  ++ "g;1805-1805:Zyyy;1806-1819:Mong;1820-1878:Mong;1880-18AA:Mong;18B0-18F5:Cans;1900-191E:Limb;1920-192B:Limb;1930-193B:Limb;1940-1940:Limb;1944-194F:Limb;1950-196D:Tale;1970-1974:Tale;1980-19AB:Talu;19B0-19C9:Talu;19D0-19DA:Talu;19DE-19DF:Talu;19E0-19FF:Khmr;1A00-1A1B:Bugi;1A1E-1A1F:Bugi;1A20-1A5E:Lana;1A60-1A7C:Lana;1A7F-1A89:Lana;1A90-1A99:Lana;1AA0-1AAD:Lana;1AB0-1ACE:Zinh;1B00-1B4C:Bali;1B4E-1B7"
  ++ "F:Bali;1B80-1BBF:Sund;1BC0-1BF3:Batk;1BFC-1BFF:Batk;1C00-1C37:Lepc;1C3B-1C49:Lepc;1C4D-1C4F:Lepc;1C50-1C7F:Olck;1C80-1C8A:Cyrl;1C90-1CBA:Geor;1CBD-1CBF:Geor;1CC0-1CC7:Sund;1CD0-1CD2:Zinh;1CD3-1CD3:Zyyy;1CD4-1CE0:Zinh;1CE1-1CE1:Zyyy;1CE2-1CE8:Zinh;1CE9-1CEC:Zyyy;1CED-1CED:Zinh;1CEE-1CF3:Zyyy;1CF4-1CF4:Zinh;1CF5-1CF7:Zyyy;1CF8-1CF9:Zinh;1CFA-1CFA:Zyyy;1D00-1D25:Latn;1D26-1D2A:Grek;1D2B-1D2B:Cyrl;1D2"
  ++ "C-1D5C:Latn;1D5D-1D61:Grek;1D62-1D65:Latn;1D66-1D6A:Grek;1D6B-1D77:Latn;1D78-1D78:Cyrl;1D79-1DBE:Latn;1DBF-1DBF:Grek;1DC0-1DFF:Zinh;1E00-1EFF:Latn;1F00-1F15:Grek;1F18-1F1D:Grek;1F20-1F45:Grek;1F48-1F4D:Grek;1F50-1F57:Grek;1F59-1F59:Grek;1F5B-1F5B:Grek;1F5D-1F5D:Grek;1F5F-1F7D:Grek;1F80-1FB4:Grek;1FB6-1FC4:Grek;1FC6-1FD3:Grek;1FD6-1FDB:Grek;1FDD-1FEF:Grek;1FF2-1FF4:Grek;1FF6-1FFE:Grek;2000-200B:Zyy"
  ++ "y;200C-200D:Zinh;200E-2064:Zyyy;2066-2070:Zyyy;2071-2071:Latn;2074-207E:Zyyy;207F-207F:Latn;2080-208E:Zyyy;2090-209C:Latn;20A0-20C0:Zyyy;20D0-20F0:Zinh;2100-2125:Zyyy;2126-2126:Grek;2127-2129:Zyyy;212A-212B:Latn;212C-2131:Zyyy;2132-2132:Latn;2133-214D:Zyyy;214E-214E:Latn;214F-215F:Zyyy;2160-2188:Latn;2189-218B:Zyyy;2190-2429:Zyyy;2440-244A:Zyyy;2460-27FF:Zyyy;2800-28FF:Brai;2900-2B73:Zyyy;2B76-2B9"
  ++ "5:Zyyy;2B97-2BFF:Zyyy;2C00-2C5F:Glag;2C60-2C7F:Latn;2C80-2CF3:Copt;2CF9-2CFF:Copt;2D00-2D25:Geor;2D27-2D27:Geor;2D2D-2D2D:Geor;2D30-2D67:Tfng;2D6F-2D70:Tfng;2D7F-2D7F:Tfng;2D80-2D96:Ethi;2DA0-2DA6:Ethi;2DA8-2DAE:Ethi;2DB0-2DB6:Ethi;2DB8-2DBE:Ethi;2DC0-2DC6:Ethi;2DC8-2DCE:Ethi;2DD0-2DD6:Ethi;2DD8-2DDE:Ethi;2DE0-2DFF:Cyrl;2E00-2E5D:Zyyy;2E80-2E99:Hani;2E9B-2EF3:Hani;2F00-2FD5:Hani;2FF0-3004:Zyyy;300"
  ++ "5-3005:Hani;3006-3006:Zyyy;3007-3007:Hani;3008-3020:Zyyy;3021-3029:Hani;302A-302D:Zinh;302E-302F:Hang;3030-3037:Zyyy;3038-303B:Hani;303C-303F:Zyyy;3041-3096:Hira;3099-309A:Zinh;309B-309C:Zyyy;309D-309F:Hira;30A0-30A0:Zyyy;30A1-30FA:Kana;30FB-30FC:Zyyy;30FD-30FF:Kana;3105-312F:Bopo;3131-318E:Hang;3190-319F:Zyyy;31A0-31BF:Bopo;31C0-31E5:Zyyy;31EF-31EF:Zyyy;31F0-31FF:Kana;3200-321E:Hang;3220-325F:Zyy"
  ++ "y;3260-327E:Hang;327F-32CF:Zyyy;32D0-32FE:Kana;32FF-32FF:Zyyy;3300-3357:Kana;3358-33FF:Zyyy;3400-4DBF:Hani;4DC0-4DFF:Zyyy;4E00-9FFF:Hani;A000-A48C:Yiii;A490-A4C6:Yiii;A4D0-A4FF:Lisu;A500-A62B:Vaii;A640-A69F:Cyrl;A6A0-A6F7:Bamu;A700-A721:Zyyy;A722-A787:Latn;A788-A78A:Zyyy;A78B-A7CD:Latn;A7D0-A7D1:Latn;A7D3-A7D3:Latn;A7D5-A7DC:Latn;A7F2-A7FF:Latn;A800-A82C:Sylo;A830-A839:Zyyy;A840-A877:Phag;A880-A8C"
  ++ "5:Saur;A8CE-A8D9:Saur;A8E0-A8FF:Deva;A900-A92D:Kali;A92E-A92E:Zyyy;A92F-A92F:Kali;A930-A953:Rjng;A95F-A95F:Rjng;A960-A97C:Hang;A980-A9CD:Java;A9CF-A9CF:Zyyy;A9D0-A9D9:Java;A9DE-A9DF:Java;A9E0-A9FE:Mymr;AA00-AA36:Cham;AA40-AA4D:Cham;AA50-AA59:Cham;AA5C-AA5F:Cham;AA60-AA7F:Mymr;AA80-AAC2:Tavt;AADB-AADF:Tavt;AAE0-AAF6:Mtei;AB01-AB06:Ethi;AB09-AB0E:Ethi;AB11-AB16:Ethi;AB20-AB26:Ethi;AB28-AB2E:Ethi;AB3"
  ++ "0-AB5A:Latn;AB5B-AB5B:Zyyy;AB5C-AB64:Latn;AB65-AB65:Grek;AB66-AB69:Latn;AB6A-AB6B:Zyyy;AB70-ABBF:Cher;ABC0-ABED:Mtei;ABF0-ABF9:Mtei;AC00-D7A3:Hang;D7B0-D7C6:Hang;D7CB-D7FB:Hang;F900-FA6D:Hani;FA70-FAD9:Hani;FB00-FB06:Latn;FB13-FB17:Armn;FB1D-FB36:Hebr;FB38-FB3C:Hebr;FB3E-FB3E:Hebr;FB40-FB41:Hebr;FB43-FB44:Hebr;FB46-FB4F:Hebr;FB50-FBC2:Arab;FBD3-FD3D:Arab;FD3E-FD3F:Zyyy;FD40-FD8F:Arab;FD92-FDC7:Ara"
  ++ "b;FDCF-FDCF:Arab;FDF0-FDFF:Arab;FE00-FE0F:Zinh;FE10-FE19:Zyyy;FE20-FE2D:Zinh;FE2E-FE2F:Cyrl;FE30-FE52:Zyyy;FE54-FE66:Zyyy;FE68-FE6B:Zyyy;FE70-FE74:Arab;FE76-FEFC:Arab;FEFF-FEFF:Zyyy;FF01-FF20:Zyyy;FF21-FF3A:Latn;FF3B-FF40:Zyyy;FF41-FF5A:Latn;FF5B-FF65:Zyyy;FF66-FF6F:Kana;FF70-FF70:Zyyy;FF71-FF9D:Kana;FF9E-FF9F:Zyyy;FFA0-FFBE:Hang;FFC2-FFC7:Hang;FFCA-FFCF:Hang;FFD2-FFD7:Hang;FFDA-FFDC:Hang;FFE0-FFE"
  ++ "6:Zyyy;FFE8-FFEE:Zyyy;FFF9-FFFD:Zyyy;10000-1000B:Linb;1000D-10026:Linb;10028-1003A:Linb;1003C-1003D:Linb;1003F-1004D:Linb;10050-1005D:Linb;10080-100FA:Linb;10100-10102:Zyyy;10107-10133:Zyyy;10137-1013F:Zyyy;10140-1018E:Grek;10190-1019C:Zyyy;101A0-101A0:Grek;101D0-101FC:Zyyy;101FD-101FD:Zinh;10280-1029C:Lyci;102A0-102D0:Cari;102E0-102E0:Zinh;102E1-102FB:Zyyy;10300-10323:Ital;1032D-1032F:Ital;10330-"
  ++ "1034A:Goth;10350-1037A:Perm;10380-1039D:Ugar;1039F-1039F:Ugar;103A0-103C3:Xpeo;103C8-103D5:Xpeo;10400-1044F:Dsrt;10450-1047F:Shaw;10480-1049D:Osma;104A0-104A9:Osma;104B0-104D3:Osge;104D8-104FB:Osge;10500-10527:Elba;10530-10563:Aghb;1056F-1056F:Aghb;10570-1057A:Vith;1057C-1058A:Vith;1058C-10592:Vith;10594-10595:Vith;10597-105A1:Vith;105A3-105B1:Vith;105B3-105B9:Vith;105BB-105BC:Vith;105C0-105F3:Tod"
  ++ "r;10600-10736:Lina;10740-10755:Lina;10760-10767:Lina;10780-10785:Latn;10787-107B0:Latn;107B2-107BA:Latn;10800-10805:Cprt;10808-10808:Cprt;1080A-10835:Cprt;10837-10838:Cprt;1083C-1083C:Cprt;1083F-1083F:Cprt;10840-10855:Armi;10857-1085F:Armi;10860-1087F:Palm;10880-1089E:Nbat;108A7-108AF:Nbat;108E0-108F2:Hatr;108F4-108F5:Hatr;108FB-108FF:Hatr;10900-1091B:Phnx;1091F-1091F:Phnx;10920-10939:Lydi;1093F-1"
  ++ "093F:Lydi;10980-1099F:Mero;109A0-109B7:Merc;109BC-109CF:Merc;109D2-109FF:Merc;10A00-10A03:Khar;10A05-10A06:Khar;10A0C-10A13:Khar;10A15-10A17:Khar;10A19-10A35:Khar;10A38-10A3A:Khar;10A3F-10A48:Khar;10A50-10A58:Khar;10A60-10A7F:Sarb;10A80-10A9F:Narb;10AC0-10AE6:Mani;10AEB-10AF6:Mani;10B00-10B35:Avst;10B39-10B3F:Avst;10B40-10B55:Prti;10B58-10B5F:Prti;10B60-10B72:Phli;10B78-10B7F:Phli;10B80-10B91:Phlp"
  ++ ";10B99-10B9C:Phlp;10BA9-10BAF:Phlp;10C00-10C48:Orkh;10C80-10CB2:Hung;10CC0-10CF2:Hung;10CFA-10CFF:Hung;10D00-10D27:Rohg;10D30-10D39:Rohg;10D40-10D65:Gara;10D69-10D85:Gara;10D8E-10D8F:Gara;10E60-10E7E:Arab;10E80-10EA9:Yezi;10EAB-10EAD:Yezi;10EB0-10EB1:Yezi;10EC2-10EC4:Arab;10EFC-10EFF:Arab;10F00-10F27:Sogo;10F30-10F59:Sogd;10F70-10F89:Ougr;10FB0-10FCB:Chrs;10FE0-10FF6:Elym;11000-1104D:Brah;11052-11"
  ++ "075:Brah;1107F-1107F:Brah;11080-110C2:Kthi;110CD-110CD:Kthi;110D0-110E8:Sora;110F0-110F9:Sora;11100-11134:Cakm;11136-11147:Cakm;11150-11176:Mahj;11180-111DF:Shrd;111E1-111F4:Sinh;11200-11211:Khoj;11213-11241:Khoj;11280-11286:Mult;11288-11288:Mult;1128A-1128D:Mult;1128F-1129D:Mult;1129F-112A9:Mult;112B0-112EA:Sind;112F0-112F9:Sind;11300-11303:Gran;11305-1130C:Gran;1130F-11310:Gran;11313-11328:Gran;"
  ++ "1132A-11330:Gran;11332-11333:Gran;11335-11339:Gran;1133B-1133B:Zinh;1133C-11344:Gran;11347-11348:Gran;1134B-1134D:Gran;11350-11350:Gran;11357-11357:Gran;1135D-11363:Gran;11366-1136C:Gran;11370-11374:Gran;11380-11389:Tutg;1138B-1138B:Tutg;1138E-1138E:Tutg;11390-113B5:Tutg;113B7-113C0:Tutg;113C2-113C2:Tutg;113C5-113C5:Tutg;113C7-113CA:Tutg;113CC-113D5:Tutg;113D7-113D8:Tutg;113E1-113E2:Tutg;11400-114"
  ++ "5B:Newa;1145D-11461:Newa;11480-114C7:Tirh;114D0-114D9:Tirh;11580-115B5:Sidd;115B8-115DD:Sidd;11600-11644:Modi;11650-11659:Modi;11660-1166C:Mong;11680-116B9:Takr;116C0-116C9:Takr;116D0-116E3:Mymr;11700-1171A:Ahom;1171D-1172B:Ahom;11730-11746:Ahom;11800-1183B:Dogr;118A0-118F2:Wara;118FF-118FF:Wara;11900-11906:Diak;11909-11909:Diak;1190C-11913:Diak;11915-11916:Diak;11918-11935:Diak;11937-11938:Diak;1"
  ++ "193B-11946:Diak;11950-11959:Diak;119A0-119A7:Nand;119AA-119D7:Nand;119DA-119E4:Nand;11A00-11A47:Zanb;11A50-11AA2:Soyo;11AB0-11ABF:Cans;11AC0-11AF8:Pauc;11B00-11B09:Deva;11BC0-11BE1:Sunu;11BF0-11BF9:Sunu;11C00-11C08:Bhks;11C0A-11C36:Bhks;11C38-11C45:Bhks;11C50-11C6C:Bhks;11C70-11C8F:Marc;11C92-11CA7:Marc;11CA9-11CB6:Marc;11D00-11D06:Gonm;11D08-11D09:Gonm;11D0B-11D36:Gonm;11D3A-11D3A:Gonm;11D3C-11D3"
  ++ "D:Gonm;11D3F-11D47:Gonm;11D50-11D59:Gonm;11D60-11D65:Gong;11D67-11D68:Gong;11D6A-11D8E:Gong;11D90-11D91:Gong;11D93-11D98:Gong;11DA0-11DA9:Gong;11EE0-11EF8:Maka;11F00-11F10:Kawi;11F12-11F3A:Kawi;11F3E-11F59:Kawi;11FB0-11FB0:Lisu;11FC0-11FF1:Taml;11FFF-11FFF:Taml;12000-12399:Xsux;12400-1246E:Xsux;12470-12474:Xsux;12480-12543:Xsux;12F90-12FF2:Cpmn;13000-13455:Egyp;13460-143FA:Egyp;14400-14646:Hluw;16"
  ++ "100-16139:Gukh;16800-16A38:Bamu;16A40-16A5E:Mroo;16A60-16A69:Mroo;16A6E-16A6F:Mroo;16A70-16ABE:Tnsa;16AC0-16AC9:Tnsa;16AD0-16AED:Bass;16AF0-16AF5:Bass;16B00-16B45:Hmng;16B50-16B59:Hmng;16B5B-16B61:Hmng;16B63-16B77:Hmng;16B7D-16B8F:Hmng;16D40-16D79:Krai;16E40-16E9A:Medf;16F00-16F4A:Plrd;16F4F-16F87:Plrd;16F8F-16F9F:Plrd;16FE0-16FE0:Tang;16FE1-16FE1:Nshu;16FE2-16FE3:Hani;16FE4-16FE4:Kits;16FF0-16FF1"
  ++ ":Hani;17000-187F7:Tang;18800-18AFF:Tang;18B00-18CD5:Kits;18CFF-18CFF:Kits;18D00-18D08:Tang;1AFF0-1AFF3:Kana;1AFF5-1AFFB:Kana;1AFFD-1AFFE:Kana;1B000-1B000:Kana;1B001-1B11F:Hira;1B120-1B122:Kana;1B132-1B132:Hira;1B150-1B152:Hira;1B155-1B155:Kana;1B164-1B167:Kana;1B170-1B2FB:Nshu;1BC00-1BC6A:Dupl;1BC70-1BC7C:Dupl;1BC80-1BC88:Dupl;1BC90-1BC99:Dupl;1BC9C-1BC9F:Dupl;1BCA0-1BCA3:Zyyy;1CC00-1CCF9:Zyyy;1CD"
  ++ "00-1CEB3:Zyyy;1CF00-1CF2D:Zinh;1CF30-1CF46:Zinh;1CF50-1CFC3:Zyyy;1D000-1D0F5:Zyyy;1D100-1D126:Zyyy;1D129-1D166:Zyyy;1D167-1D169:Zinh;1D16A-1D17A:Zyyy;1D17B-1D182:Zinh;1D183-1D184:Zyyy;1D185-1D18B:Zinh;1D18C-1D1A9:Zyyy;1D1AA-1D1AD:Zinh;1D1AE-1D1EA:Zyyy;1D200-1D245:Grek;1D2C0-1D2D3:Zyyy;1D2E0-1D2F3:Zyyy;1D300-1D356:Zyyy;1D360-1D378:Zyyy;1D400-1D454:Zyyy;1D456-1D49C:Zyyy;1D49E-1D49F:Zyyy;1D4A2-1D4A2:"
  ++ "Zyyy;1D4A5-1D4A6:Zyyy;1D4A9-1D4AC:Zyyy;1D4AE-1D4B9:Zyyy;1D4BB-1D4BB:Zyyy;1D4BD-1D4C3:Zyyy;1D4C5-1D505:Zyyy;1D507-1D50A:Zyyy;1D50D-1D514:Zyyy;1D516-1D51C:Zyyy;1D51E-1D539:Zyyy;1D53B-1D53E:Zyyy;1D540-1D544:Zyyy;1D546-1D546:Zyyy;1D54A-1D550:Zyyy;1D552-1D6A5:Zyyy;1D6A8-1D7CB:Zyyy;1D7CE-1D7FF:Zyyy;1D800-1DA8B:Sgnw;1DA9B-1DA9F:Sgnw;1DAA1-1DAAF:Sgnw;1DF00-1DF1E:Latn;1DF25-1DF2A:Latn;1E000-1E006:Glag;1E00"
  ++ "8-1E018:Glag;1E01B-1E021:Glag;1E023-1E024:Glag;1E026-1E02A:Glag;1E030-1E06D:Cyrl;1E08F-1E08F:Cyrl;1E100-1E12C:Hmnp;1E130-1E13D:Hmnp;1E140-1E149:Hmnp;1E14E-1E14F:Hmnp;1E290-1E2AE:Toto;1E2C0-1E2F9:Wcho;1E2FF-1E2FF:Wcho;1E4D0-1E4F9:Nagm;1E5D0-1E5FA:Onao;1E5FF-1E5FF:Onao;1E7E0-1E7E6:Ethi;1E7E8-1E7EB:Ethi;1E7ED-1E7EE:Ethi;1E7F0-1E7FE:Ethi;1E800-1E8C4:Mend;1E8C7-1E8D6:Mend;1E900-1E94B:Adlm;1E950-1E959:A"
  ++ "dlm;1E95E-1E95F:Adlm;1EC71-1ECB4:Zyyy;1ED01-1ED3D:Zyyy;1EE00-1EE03:Arab;1EE05-1EE1F:Arab;1EE21-1EE22:Arab;1EE24-1EE24:Arab;1EE27-1EE27:Arab;1EE29-1EE32:Arab;1EE34-1EE37:Arab;1EE39-1EE39:Arab;1EE3B-1EE3B:Arab;1EE42-1EE42:Arab;1EE47-1EE47:Arab;1EE49-1EE49:Arab;1EE4B-1EE4B:Arab;1EE4D-1EE4F:Arab;1EE51-1EE52:Arab;1EE54-1EE54:Arab;1EE57-1EE57:Arab;1EE59-1EE59:Arab;1EE5B-1EE5B:Arab;1EE5D-1EE5D:Arab;1EE5F"
  ++ "-1EE5F:Arab;1EE61-1EE62:Arab;1EE64-1EE64:Arab;1EE67-1EE6A:Arab;1EE6C-1EE72:Arab;1EE74-1EE77:Arab;1EE79-1EE7C:Arab;1EE7E-1EE7E:Arab;1EE80-1EE89:Arab;1EE8B-1EE9B:Arab;1EEA1-1EEA3:Arab;1EEA5-1EEA9:Arab;1EEAB-1EEBB:Arab;1EEF0-1EEF1:Arab;1F000-1F02B:Zyyy;1F030-1F093:Zyyy;1F0A0-1F0AE:Zyyy;1F0B1-1F0BF:Zyyy;1F0C1-1F0CF:Zyyy;1F0D1-1F0F5:Zyyy;1F100-1F1AD:Zyyy;1F1E6-1F1FF:Zyyy;1F200-1F200:Hira;1F201-1F202:Zy"
  ++ "yy;1F210-1F23B:Zyyy;1F240-1F248:Zyyy;1F250-1F251:Zyyy;1F260-1F265:Zyyy;1F300-1F6D7:Zyyy;1F6DC-1F6EC:Zyyy;1F6F0-1F6FC:Zyyy;1F700-1F776:Zyyy;1F77B-1F7D9:Zyyy;1F7E0-1F7EB:Zyyy;1F7F0-1F7F0:Zyyy;1F800-1F80B:Zyyy;1F810-1F847:Zyyy;1F850-1F859:Zyyy;1F860-1F887:Zyyy;1F890-1F8AD:Zyyy;1F8B0-1F8BB:Zyyy;1F8C0-1F8C1:Zyyy;1F900-1FA53:Zyyy;1FA60-1FA6D:Zyyy;1FA70-1FA7C:Zyyy;1FA80-1FA89:Zyyy;1FA8F-1FAC6:Zyyy;1FACE-"
  ++ "1FADC:Zyyy;1FADF-1FAE9:Zyyy;1FAF0-1FAF8:Zyyy;1FB00-1FB92:Zyyy;1FB94-1FBF9:Zyyy;20000-2A6DF:Hani;2A700-2B739:Hani;2B740-2B81D:Hani;2B820-2CEA1:Hani;2CEB0-2EBE0:Hani;2EBF0-2EE5D:Hani;2F800-2FA1D:Hani;30000-3134A:Hani;31350-323AF:Hani;E0001-E0001:Zyyy;E0020-E007F:Zyyy;E0100-E01EF:Zinh"

def scriptNames : String :=
  "Adlm=Adlam;Aghb=Caucasian_Albanian;Ahom=Ahom;Arab=Arabic;Armi=Imperial_Aramaic;Armn=Armenian;Avst=Avestan;Bali=Balinese;Bamu=Bamum;Bass=Bassa_Vah;Batk=Batak;Beng=Bengali;Bhks=Bhaiksuki;Bopo=Bopomofo;Brah=Brahmi;Brai=Braille;Bugi=Buginese;Buhd=Buhid;Cakm=Chakma;Cans=Canadian_Aboriginal;Cari=Carian;Cham=Cham;Cher=Cherokee;Chrs=Chorasmian;Copt=Coptic=Qaac;Cpmn=Cypro_Minoan;Cprt=Cypriot;Cyrl=Cyrillic;"
  ++ "Deva=Devanagari;Diak=Dives_Akuru;Dogr=Dogra;Dsrt=Deseret;Dupl=Duployan;Egyp=Egyptian_Hieroglyphs;Elba=Elbasan;Elym=Elymaic;Ethi=Ethiopic;Gara=Garay;Geor=Georgian;Glag=Glagolitic;Gong=Gunjala_Gondi;Gonm=Masaram_Gondi;Goth=Gothic;Gran=Grantha;Grek=Greek;Gujr=Gujarati;Gukh=Gurung_Khema;Guru=Gurmukhi;Hang=Hangul;Hani=Han;Hano=Hanunoo;Hatr=Hatran;Hebr=Hebrew;Hira=Hiragana;Hluw=Anatolian_Hieroglyphs;Hmn"
  ++ "g=Pahawh_Hmong;Hmnp=Nyiakeng_Puachue_Hmong;Hung=Old_Hungarian;Ital=Old_Italic;Java=Javanese;Kali=Kayah_Li;Kana=Katakana;Kawi=Kawi;Khar=Kharoshthi;Khmr=Khmer;Khoj=Khojki;Kits=Khitan_Small_Script;Knda=Kannada;Krai=Kirat_Rai;Kthi=Kaithi;Lana=Tai_Tham;Laoo=Lao;Latn=Latin;Lepc=Lepcha;Limb=Limbu;Lina=Linear_A;Linb=Linear_B;Lisu=Lisu;Lyci=Lycian;Lydi=Lydian;Mahj=Mahajani;Maka=Makasar;Mand=Mandaic;Mani=Ma"
  ++ "nichaean;Marc=Marchen;Medf=Medefaidrin;Mend=Mende_Kikakui;Merc=Meroitic_Cursive;Mero=Meroitic_Hieroglyphs;Mlym=Malayalam;Modi=Modi;Mong=Mongolian;Mroo=Mro;Mtei=Meetei_Mayek;Mult=Multani;Mymr=Myanmar;Nagm=Nag_Mundari;Nand=Nandinagari;Narb=Old_North_Arabian;Nbat=Nabataean;Newa=Newa;Nkoo=Nko;Nshu=Nushu;Ogam=Ogham;Olck=Ol_Chiki;Onao=Ol_Onal;Orkh=Old_Turkic;Orya=Oriya;Osge=Osage;Osma=Osmanya;Ougr=Old_U"
  ++ "yghur;Palm=Palmyrene;Pauc=Pau_Cin_Hau;Perm=Old_Permic;Phag=Phags_Pa;Phli=Inscriptional_Pahlavi;Phlp=Psalter_Pahlavi;Phnx=Phoenician;Plrd=Miao;Prti=Inscriptional_Parthian;Rjng=Rejang;Rohg=Hanifi_Rohingya;Runr=Runic;Samr=Samaritan;Sarb=Old_South_Arabian;Saur=Saurashtra;Sgnw=SignWriting;Shaw=Shavian;Shrd=Sharada;Sidd=Siddham;Sind=Khudawadi;Sinh=Sinhala;Sogd=Sogdian;Sogo=Old_Sogdian;Sora=Sora_Sompeng;"
  ++ "Soyo=Soyombo;Sund=Sundanese;Sunu=Sunuwar;Sylo=Syloti_Nagri;Syrc=Syriac;Tagb=Tagbanwa;Takr=Takri;Tale=Tai_Le;Talu=New_Tai_Lue;Taml=Tamil;Tang=Tangut;Tavt=Tai_Viet;Telu=Telugu;Tfng=Tifinagh;Tglg=Tagalog;Thaa=Thaana;Thai=Thai;Tibt=Tibetan;Tirh=Tirhuta;Tnsa=Tangsa;Todr=Todhri;Toto=Toto;Tutg=Tulu_Tigalari;Ugar=Ugaritic;Vaii=Vai;Vith=Vithkuqi;Wara=Warang_Citi;Wcho=Wancho;Xpeo=Old_Persian;Xsux=Cuneiform;"
  ++ "Yezi=Yezidi;Yiii=Yi;Zanb=Zanabazar_Square;Zinh=Inherited=Qaai;Zyyy=Common;Zzzz=Unknown"

def wordRanges : String :=
  "30-39;41-5A;5F-5F;61-7A;AA-AA;B5-B5;BA-BA;C0-D6;D8-F6;F8-2C1;2C6-2D1;2E0-2E4;2EC-2EC;2EE-2EE;300-374;376-377;37A-37D;37F-37F;386-386;388-38A;38C-38C;38E-3A1;3A3-3F5;3F7-481;483-52F;531-556;559-559;560-588;591-5BD;5BF-5BF;5C1-5C2;5C4-5C5;5C7-5C7;5D0-5EA;5EF-5F2;610-61A;620-669;66E-6D3;6D5-6DC;6DF-6E8;6EA-6FC;6FF-6FF;710-74A;74D-7B1;7C0-7F5;7FA-7FA;7FD-7FD;800-82D;840-85B;860-86A;870-887;889-88E;897"
  ++ "-8E1;8E3-963;966-96F;971-983;985-98C;98F-990;993-9A8;9AA-9B0;9B2-9B2;9B6-9B9;9BC-9C4;9C7-9C8;9CB-9CE;9D7-9D7;9DC-9DD;9DF-9E3;9E6-9F1;9FC-9FC;9FE-9FE;A01-A03;A05-A0A;A0F-A10;A13-A28;A2A-A30;A32-A33;A35-A36;A38-A39;A3C-A3C;A3E-A42;A47-A48;A4B-A4D;A51-A51;A59-A5C;A5E-A5E;A66-A75;A81-A83;A85-A8D;A8F-A91;A93-AA8;AAA-AB0;AB2-AB3;AB5-AB9;ABC-AC5;AC7-AC9;ACB-ACD;AD0-AD0;AE0-AE3;AE6-AEF;AF9-AFF;B01-B03;B05"
  ++ "-B0C;B0F-B10;B13-B28;B2A-B30;B32-B33;B35-B39;B3C-B44;B47-B48;B4B-B4D;B55-B57;B5C-B5D;B5F-B63;B66-B6F;B71-B71;B82-B83;B85-B8A;B8E-B90;B92-B95;B99-B9A;B9C-B9C;B9E-B9F;BA3-BA4;BA8-BAA;BAE-BB9;BBE-BC2;BC6-BC8;BCA-BCD;BD0-BD0;BD7-BD7;BE6-BEF;C00-C0C;C0E-C10;C12-C28;C2A-C39;C3C-C44;C46-C48;C4A-C4D;C55-C56;C58-C5A;C5D-C5D;C60-C63;C66-C6F;C80-C83;C85-C8C;C8E-C90;C92-CA8;CAA-CB3;CB5-CB9;CBC-CC4;CC6-CC8;CCA"
  ++ "-CCD;CD5-CD6;CDD-CDE;CE0-CE3;CE6-CEF;CF1-CF3;D00-D0C;D0E-D10;D12-D44;D46-D48;D4A-D4E;D54-D57;D5F-D63;D66-D6F;D7A-D7F;D81-D83;D85-D96;D9A-DB1;DB3-DBB;DBD-DBD;DC0-DC6;DCA-DCA;DCF-DD4;DD6-DD6;DD8-DDF;DE6-DEF;DF2-DF3;E01-E3A;E40-E4E;E50-E59;E81-E82;E84-E84;E86-E8A;E8C-EA3;EA5-EA5;EA7-EBD;EC0-EC4;EC6-EC6;EC8-ECE;ED0-ED9;EDC-EDF;F00-F00;F18-F19;F20-F29;F35-F35;F37-F37;F39-F39;F3E-F47;F49-F6C;F71-F84;F86"
  ++ "-F97;F99-FBC;FC6-FC6;1000-1049;1050-109D;10A0-10C5;10C7-10C7;10CD-10CD;10D0-10FA;10FC-1248;124A-124D;1250-1256;1258-1258;125A-125D;1260-1288;128A-128D;1290-12B0;12B2-12B5;12B8-12BE;12C0-12C0;12C2-12C5;12C8-12D6;12D8-1310;1312-1315;1318-135A;135D-135F;1380-138F;13A0-13F5;13F8-13FD;1401-166C;166F-167F;1681-169A;16A0-16EA;16EE-16F8;1700-1715;171F-1734;1740-1753;1760-176C;176E-1770;1772-1773;1780-17D3"
  ++ ";17D7-17D7;17DC-17DD;17E0-17E9;180B-180D;180F-1819;1820-1878;1880-18AA;18B0-18F5;1900-191E;1920-192B;1930-193B;1946-196D;1970-1974;1980-19AB;19B0-19C9;19D0-19D9;1A00-1A1B;1A20-1A5E;1A60-1A7C;1A7F-1A89;1A90-1A99;1AA7-1AA7;1AB0-1ACE;1B00-1B4C;1B50-1B59;1B6B-1B73;1B80-1BF3;1C00-1C37;1C40-1C49;1C4D-1C7D;1C80-1C8A;1C90-1CBA;1CBD-1CBF;1CD0-1CD2;1CD4-1CFA;1D00-1F15;1F18-1F1D;1F20-1F45;1F48-1F4D;1F50-1F57"
  ++ ";1F59-1F59;1F5B-1F5B;1F5D-1F5D;1F5F-1F7D;1F80-1FB4;1FB6-1FBC;1FBE-1FBE;1FC2-1FC4;1FC6-1FCC;1FD0-1FD3;1FD6-1FDB;1FE0-1FEC;1FF2-1FF4;1FF6-1FFC;200C-200D;203F-2040;2054-2054;2071-2071;207F-207F;2090-209C;20D0-20F0;2102-2102;2107-2107;210A-2113;2115-2115;2119-211D;2124-2124;2126-2126;2128-2128;212A-212D;212F-2139;213C-213F;2145-2149;214E-214E;2160-2188;24B6-24E9;2C00-2CE4;2CEB-2CF3;2D00-2D25;2D27-2D27"
  ++ ";2D2D-2D2D;2D30-2D67;2D6F-2D6F;2D7F-2D96;2DA0-2DA6;2DA8-2DAE;2DB0-2DB6;2DB8-2DBE;2DC0-2DC6;2DC8-2DCE;2DD0-2DD6;2DD8-2DDE;2DE0-2DFF;2E2F-2E2F;3005-3007;3021-302F;3031-3035;3038-303C;3041-3096;3099-309A;309D-309F;30A1-30FA;30FC-30FF;3105-312F;3131-318E;31A0-31BF;31F0-31FF;3400-4DBF;4E00-A48C;A4D0-A4FD;A500-A60C;A610-A62B;A640-A672;A674-A67D;A67F-A6F1;A717-A71F;A722-A788;A78B-A7CD;A7D0-A7D1;A7D3-A7D3"
  ++ ";A7D5-A7DC;A7F2-A827;A82C-A82C;A840-A873;A880-A8C5;A8D0-A8D9;A8E0-A8F7;A8FB-A8FB;A8FD-A92D;A930-A953;A960-A97C;A980-A9C0;A9CF-A9D9;A9E0-A9FE;AA00-AA36;AA40-AA4D;AA50-AA59;AA60-AA76;AA7A-AAC2;AADB-AADD;AAE0-AAEF;AAF2-AAF6;AB01-AB06;AB09-AB0E;AB11-AB16;AB20-AB26;AB28-AB2E;AB30-AB5A;AB5C-AB69;AB70-ABEA;ABEC-ABED;ABF0-ABF9;AC00-D7A3;D7B0-D7C6;D7CB-D7FB;F900-FA6D;FA70-FAD9;FB00-FB06;FB13-FB17;FB1D-FB28"
  ++ ";FB2A-FB36;FB38-FB3C;FB3E-FB3E;FB40-FB41;FB43-FB44;FB46-FBB1;FBD3-FD3D;FD50-FD8F;FD92-FDC7;FDF0-FDFB;FE00-FE0F;FE20-FE2F;FE33-FE34;FE4D-FE4F;FE70-FE74;FE76-FEFC;FF10-FF19;FF21-FF3A;FF3F-FF3F;FF41-FF5A;FF66-FFBE;FFC2-FFC7;FFCA-FFCF;FFD2-FFD7;FFDA-FFDC;10000-1000B;1000D-10026;10028-1003A;1003C-1003D;1003F-1004D;10050-1005D;10080-100FA;10140-10174;101FD-101FD;10280-1029C;102A0-102D0;102E0-102E0;10300"
  ++ "-1031F;1032D-1034A;10350-1037A;10380-1039D;103A0-103C3;103C8-103CF;103D1-103D5;10400-1049D;104A0-104A9;104B0-104D3;104D8-104FB;10500-10527;10530-10563;10570-1057A;1057C-1058A;1058C-10592;10594-10595;10597-105A1;105A3-105B1;105B3-105B9;105BB-105BC;105C0-105F3;10600-10736;10740-10755;10760-10767;10780-10785;10787-107B0;107B2-107BA;10800-10805;10808-10808;1080A-10835;10837-10838;1083C-1083C;1083F-108"
  ++ "55;10860-10876;10880-1089E;108E0-108F2;108F4-108F5;10900-10915;10920-10939;10980-109B7;109BE-109BF;10A00-10A03;10A05-10A06;10A0C-10A13;10A15-10A17;10A19-10A35;10A38-10A3A;10A3F-10A3F;10A60-10A7C;10A80-10A9C;10AC0-10AC7;10AC9-10AE6;10B00-10B35;10B40-10B55;10B60-10B72;10B80-10B91;10C00-10C48;10C80-10CB2;10CC0-10CF2;10D00-10D27;10D30-10D39;10D40-10D65;10D69-10D6D;10D6F-10D85;10E80-10EA9;10EAB-10EAC;1"
  ++ "0EB0-10EB1;10EC2-10EC4;10EFC-10F1C;10F27-10F27;10F30-10F50;10F70-10F85;10FB0-10FC4;10FE0-10FF6;11000-11046;11066-11075;1107F-110BA;110C2-110C2;110D0-110E8;110F0-110F9;11100-11134;11136-1113F;11144-11147;11150-11173;11176-11176;11180-111C4;111C9-111CC;111CE-111DA;111DC-111DC;11200-11211;11213-11237;1123E-11241;11280-11286;11288-11288;1128A-1128D;1128F-1129D;1129F-112A8;112B0-112EA;112F0-112F9;11300"
  ++ "-11303;11305-1130C;1130F-11310;11313-11328;1132A-11330;11332-11333;11335-11339;1133B-11344;11347-11348;1134B-1134D;11350-11350;11357-11357;1135D-11363;11366-1136C;11370-11374;11380-11389;1138B-1138B;1138E-1138E;11390-113B5;113B7-113C0;113C2-113C2;113C5-113C5;113C7-113CA;113CC-113D3;113E1-113E2;11400-1144A;11450-11459;1145E-11461;11480-114C5;114C7-114C7;114D0-114D9;11580-115B5;115B8-115C0;115D8-115"
  ++ "DD;11600-11640;11644-11644;11650-11659;11680-116B8;116C0-116C9;116D0-116E3;11700-1171A;1171D-1172B;11730-11739;11740-11746;11800-1183A;118A0-118E9;118FF-11906;11909-11909;1190C-11913;11915-11916;11918-11935;11937-11938;1193B-11943;11950-11959;119A0-119A7;119AA-119D7;119DA-119E1;119E3-119E4;11A00-11A3E;11A47-11A47;11A50-11A99;11A9D-11A9D;11AB0-11AF8;11BC0-11BE0;11BF0-11BF9;11C00-11C08;11C0A-11C36;1"
  ++ "1C38-11C40;11C50-11C59;11C72-11C8F;11C92-11CA7;11CA9-11CB6;11D00-11D06;11D08-11D09;11D0B-11D36;11D3A-11D3A;11D3C-11D3D;11D3F-11D47;11D50-11D59;11D60-11D65;11D67-11D68;11D6A-11D8E;11D90-11D91;11D93-11D98;11DA0-11DA9;11EE0-11EF6;11F00-11F10;11F12-11F3A;11F3E-11F42;11F50-11F59;11FB0-11FB0;12000-12399;12400-1246E;12480-12543;12F90-12FF0;13000-1342F;13440-13455;13460-143FA;14400-14646;16100-16139;16800"
  ++ "-16A38;16A40-16A5E;16A60-16A69;16A70-16ABE;16AC0-16AC9;16AD0-16AED;16AF0-16AF4;16B00-16B36;16B40-16B43;16B50-16B59;16B63-16B77;16B7D-16B8F;16D40-16D6C;16D70-16D79;16E40-16E7F;16F00-16F4A;16F4F-16F87;16F8F-16F9F;16FE0-16FE1;16FE3-16FE4;16FF0-16FF1;17000-187F7;18800-18CD5;18CFF-18D08;1AFF0-1AFF3;1AFF5-1AFFB;1AFFD-1AFFE;1B000-1B122;1B132-1B132;1B150-1B152;1B155-1B155;1B164-1B167;1B170-1B2FB;1BC00-1BC"
  ++ "6A;1BC70-1BC7C;1BC80-1BC88;1BC90-1BC99;1BC9D-1BC9E;1CCF0-1CCF9;1CF00-1CF2D;1CF30-1CF46;1D165-1D169;1D16D-1D172;1D17B-1D182;1D185-1D18B;1D1AA-1D1AD;1D242-1D244;1D400-1D454;1D456-1D49C;1D49E-1D49F;1D4A2-1D4A2;1D4A5-1D4A6;1D4A9-1D4AC;1D4AE-1D4B9;1D4BB-1D4BB;1D4BD-1D4C3;1D4C5-1D505;1D507-1D50A;1D50D-1D514;1D516-1D51C;1D51E-1D539;1D53B-1D53E;1D540-1D544;1D546-1D546;1D54A-1D550;1D552-1D6A5;1D6A8-1D6C0;1"
  ++ "D6C2-1D6DA;1D6DC-1D6FA;1D6FC-1D714;1D716-1D734;1D736-1D74E;1D750-1D76E;1D770-1D788;1D78A-1D7A8;1D7AA-1D7C2;1D7C4-1D7CB;1D7CE-1D7FF;1DA00-1DA36;1DA3B-1DA6C;1DA75-1DA75;1DA84-1DA84;1DA9B-1DA9F;1DAA1-1DAAF;1DF00-1DF1E;1DF25-1DF2A;1E000-1E006;1E008-1E018;1E01B-1E021;1E023-1E024;1E026-1E02A;1E030-1E06D;1E08F-1E08F;1E100-1E12C;1E130-1E13D;1E140-1E149;1E14E-1E14E;1E290-1E2AE;1E2C0-1E2F9;1E4D0-1E4F9;1E5D0"
  ++ "-1E5FA;1E7E0-1E7E6;1E7E8-1E7EB;1E7ED-1E7EE;1E7F0-1E7FE;1E800-1E8C4;1E8D0-1E8D6;1E900-1E94B;1E950-1E959;1EE00-1EE03;1EE05-1EE1F;1EE21-1EE22;1EE24-1EE24;1EE27-1EE27;1EE29-1EE32;1EE34-1EE37;1EE39-1EE39;1EE3B-1EE3B;1EE42-1EE42;1EE47-1EE47;1EE49-1EE49;1EE4B-1EE4B;1EE4D-1EE4F;1EE51-1EE52;1EE54-1EE54;1EE57-1EE57;1EE59-1EE59;1EE5B-1EE5B;1EE5D-1EE5D;1EE5F-1EE5F;1EE61-1EE62;1EE64-1EE64;1EE67-1EE6A;1EE6C-1EE"
  ++ "72;1EE74-1EE77;1EE79-1EE7C;1EE7E-1EE7E;1EE80-1EE89;1EE8B-1EE9B;1EEA1-1EEA3;1EEA5-1EEA9;1EEAB-1EEBB;1F130-1F149;1F150-1F169;1F170-1F189;1FBF0-1FBF9;20000-2A6DF;2A700-2B739;2B740-2B81D;2B820-2CEA1;2CEB0-2EBE0;2EBF0-2EE5D;2F800-2FA1D;30000-3134A;31350-323AF;E0100-E01EF"

def propertyAlphabetic : String :=
  "41-5A;61-7A;AA-AA;B5-B5;BA-BA;C0-D6;D8-F6;F8-2C1;2C6-2D1;2E0-2E4;2EC-2EC;2EE-2EE;345-345;363-374;376-377;37A-37D;37F-37F;386-386;388-38A;38C-38C;38E-3A1;3A3-3F5;3F7-481;48A-52F;531-556;559-559;560-588;5B0-5BD;5BF-5BF;5C1-5C2;5C4-5C5;5C7-5C7;5D0-5EA;5EF-5F2;610-61A;620-657;659-65F;66E-6D3;6D5-6DC;6E1-6E8;6ED-6EF;6FA-6FC;6FF-6FF;710-73F;74D-7B1;7CA-7EA;7F4-7F5;7FA-7FA;800-817;81A-82C;840-858;860-86A"
  ++ ";870-887;889-88E;897-897;8A0-8C9;8D4-8DF;8E3-8E9;8F0-93B;93D-94C;94E-950;955-963;971-983;985-98C;98F-990;993-9A8;9AA-9B0;9B2-9B2;9B6-9B9;9BD-9C4;9C7-9C8;9CB-9CC;9CE-9CE;9D7-9D7;9DC-9DD;9DF-9E3;9F0-9F1;9FC-9FC;A01-A03;A05-A0A;A0F-A10;A13-A28;A2A-A30;A32-A33;A35-A36;A38-A39;A3E-A42;A47-A48;A4B-A4C;A51-A51;A59-A5C;A5E-A5E;A70-A75;A81-A83;A85-A8D;A8F-A91;A93-AA8;AAA-AB0;AB2-AB3;AB5-AB9;ABD-AC5;AC7-AC9"
  ++ ";ACB-ACC;AD0-AD0;AE0-AE3;AF9-AFC;B01-B03;B05-B0C;B0F-B10;B13-B28;B2A-B30;B32-B33;B35-B39;B3D-B44;B47-B48;B4B-B4C;B56-B57;B5C-B5D;B5F-B63;B71-B71;B82-B83;B85-B8A;B8E-B90;B92-B95;B99-B9A;B9C-B9C;B9E-B9F;BA3-BA4;BA8-BAA;BAE-BB9;BBE-BC2;BC6-BC8;BCA-BCC;BD0-BD0;BD7-BD7;C00-C0C;C0E-C10;C12-C28;C2A-C39;C3D-C44;C46-C48;C4A-C4C;C55-C56;C58-C5A;C5D-C5D;C60-C63;C80-C83;C85-C8C;C8E-C90;C92-CA8;CAA-CB3;CB5-CB9"
  ++ ";CBD-CC4;CC6-CC8;CCA-CCC;CD5-CD6;CDD-CDE;CE0-CE3;CF1-CF3;D00-D0C;D0E-D10;D12-D3A;D3D-D44;D46-D48;D4A-D4C;D4E-D4E;D54-D57;D5F-D63;D7A-D7F;D81-D83;D85-D96;D9A-DB1;DB3-DBB;DBD-DBD;DC0-DC6;DCF-DD4;DD6-DD6;DD8-DDF;DF2-DF3;E01-E3A;E40-E46;E4D-E4D;E81-E82;E84-E84;E86-E8A;E8C-EA3;EA5-EA5;EA7-EB9;EBB-EBD;EC0-EC4;EC6-EC6;ECD-ECD;EDC-EDF;F00-F00;F40-F47;F49-F6C;F71-F83;F88-F97;F99-FBC;1000-1036;1038-1038;103"
  ++ "B-103F;1050-108F;109A-109D;10A0-10C5;10C7-10C7;10CD-10CD;10D0-10FA;10FC-1248;124A-124D;1250-1256;1258-1258;125A-125D;1260-1288;128A-128D;1290-12B0;12B2-12B5;12B8-12BE;12C0-12C0;12C2-12C5;12C8-12D6;12D8-1310;1312-1315;1318-135A;1380-138F;13A0-13F5;13F8-13FD;1401-166C;166F-167F;1681-169A;16A0-16EA;16EE-16F8;1700-1713;171F-1733;1740-1753;1760-176C;176E-1770;1772-1773;1780-17B3;17B6-17C8;17D7-17D7;17D"
  ++ "C-17DC;1820-1878;1880-18AA;18B0-18F5;1900-191E;1920-192B;1930-1938;1950-196D;1970-1974;1980-19AB;19B0-19C9;1A00-1A1B;1A20-1A5E;1A61-1A74;1AA7-1AA7;1ABF-1AC0;1ACC-1ACE;1B00-1B33;1B35-1B43;1B45-1B4C;1B80-1BA9;1BAC-1BAF;1BBA-1BE5;1BE7-1BF1;1C00-1C36;1C4D-1C4F;1C5A-1C7D;1C80-1C8A;1C90-1CBA;1CBD-1CBF;1CE9-1CEC;1CEE-1CF3;1CF5-1CF6;1CFA-1CFA;1D00-1DBF;1DD3-1DF4;1E00-1F15;1F18-1F1D;1F20-1F45;1F48-1F4D;1F5"
  ++ "0-1F57;1F59-1F59;1F5B-1F5B;1F5D-1F5D;1F5F-1F7D;1F80-1FB4;1FB6-1FBC;1FBE-1FBE;1FC2-1FC4;1FC6-1FCC;1FD0-1FD3;1FD6-1FDB;1FE0-1FEC;1FF2-1FF4;1FF6-1FFC;2071-2071;207F-207F;2090-209C;2102-2102;2107-2107;210A-2113;2115-2115;2119-211D;2124-2124;2126-2126;2128-2128;212A-212D;212F-2139;213C-213F;2145-2149;214E-214E;2160-2188;24B6-24E9;2C00-2CE4;2CEB-2CEE;2CF2-2CF3;2D00-2D25;2D27-2D27;2D2D-2D2D;2D30-2D67;2D6"
  ++ "F-2D6F;2D80-2D96;2DA0-2DA6;2DA8-2DAE;2DB0-2DB6;2DB8-2DBE;2DC0-2DC6;2DC8-2DCE;2DD0-2DD6;2DD8-2DDE;2DE0-2DFF;2E2F-2E2F;3005-3007;3021-3029;3031-3035;3038-303C;3041-3096;309D-309F;30A1-30FA;30FC-30FF;3105-312F;3131-318E;31A0-31BF;31F0-31FF;3400-4DBF;4E00-A48C;A4D0-A4FD;A500-A60C;A610-A61F;A62A-A62B;A640-A66E;A674-A67B;A67F-A6EF;A717-A71F;A722-A788;A78B-A7CD;A7D0-A7D1;A7D3-A7D3;A7D5-A7DC;A7F2-A805;A80"
  ++ "7-A827;A840-A873;A880-A8C3;A8C5-A8C5;A8F2-A8F7;A8FB-A8FB;A8FD-A8FF;A90A-A92A;A930-A952;A960-A97C;A980-A9B2;A9B4-A9BF;A9CF-A9CF;A9E0-A9EF;A9FA-A9FE;AA00-AA36;AA40-AA4D;AA60-AA76;AA7A-AABE;AAC0-AAC0;AAC2-AAC2;AADB-AADD;AAE0-AAEF;AAF2-AAF5;AB01-AB06;AB09-AB0E;AB11-AB16;AB20-AB26;AB28-AB2E;AB30-AB5A;AB5C-AB69;AB70-ABEA;AC00-D7A3;D7B0-D7C6;D7CB-D7FB;F900-FA6D;FA70-FAD9;FB00-FB06;FB13-FB17;FB1D-FB28;FB2"
  ++ "A-FB36;FB38-FB3C;FB3E-FB3E;FB40-FB41;FB43-FB44;FB46-FBB1;FBD3-FD3D;FD50-FD8F;FD92-FDC7;FDF0-FDFB;FE70-FE74;FE76-FEFC;FF21-FF3A;FF41-FF5A;FF66-FFBE;FFC2-FFC7;FFCA-FFCF;FFD2-FFD7;FFDA-FFDC;10000-1000B;1000D-10026;10028-1003A;1003C-1003D;1003F-1004D;10050-1005D;10080-100FA;10140-10174;10280-1029C;102A0-102D0;10300-1031F;1032D-1034A;10350-1037A;10380-1039D;103A0-103C3;103C8-103CF;103D1-103D5;10400-104"
  ++ "9D;104B0-104D3;104D8-104FB;10500-10527;10530-10563;10570-1057A;1057C-1058A;1058C-10592;10594-10595;10597-105A1;105A3-105B1;105B3-105B9;105BB-105BC;105C0-105F3;10600-10736;10740-10755;10760-10767;10780-10785;10787-107B0;107B2-107BA;10800-10805;10808-10808;1080A-10835;10837-10838;1083C-1083C;1083F-10855;10860-10876;10880-1089E;108E0-108F2;108F4-108F5;10900-10915;10920-10939;10980-109B7;109BE-109BF;1"
  ++ "0A00-10A03;10A05-10A06;10A0C-10A13;10A15-10A17;10A19-10A35;10A60-10A7C;10A80-10A9C;10AC0-10AC7;10AC9-10AE4;10B00-10B35;10B40-10B55;10B60-10B72;10B80-10B91;10C00-10C48;10C80-10CB2;10CC0-10CF2;10D00-10D27;10D4A-10D65;10D69-10D69;10D6F-10D85;10E80-10EA9;10EAB-10EAC;10EB0-10EB1;10EC2-10EC4;10EFC-10EFC;10F00-10F1C;10F27-10F27;10F30-10F45;10F70-10F81;10FB0-10FC4;10FE0-10FF6;11000-11045;11071-11075;11080"
  ++ "-110B8;110C2-110C2;110D0-110E8;11100-11132;11144-11147;11150-11172;11176-11176;11180-111BF;111C1-111C4;111CE-111CF;111DA-111DA;111DC-111DC;11200-11211;11213-11234;11237-11237;1123E-11241;11280-11286;11288-11288;1128A-1128D;1128F-1129D;1129F-112A8;112B0-112E8;11300-11303;11305-1130C;1130F-11310;11313-11328;1132A-11330;11332-11333;11335-11339;1133D-11344;11347-11348;1134B-1134C;11350-11350;11357-113"
  ++ "57;1135D-11363;11380-11389;1138B-1138B;1138E-1138E;11390-113B5;113B7-113C0;113C2-113C2;113C5-113C5;113C7-113CA;113CC-113CD;113D1-113D1;113D3-113D3;11400-11441;11443-11445;11447-1144A;1145F-11461;11480-114C1;114C4-114C5;114C7-114C7;11580-115B5;115B8-115BE;115D8-115DD;11600-1163E;11640-11640;11644-11644;11680-116B5;116B8-116B8;11700-1171A;1171D-1172A;11740-11746;11800-11838;118A0-118DF;118FF-11906;1"
  ++ "1909-11909;1190C-11913;11915-11916;11918-11935;11937-11938;1193B-1193C;1193F-11942;119A0-119A7;119AA-119D7;119DA-119DF;119E1-119E1;119E3-119E4;11A00-11A32;11A35-11A3E;11A50-11A97;11A9D-11A9D;11AB0-11AF8;11BC0-11BE0;11C00-11C08;11C0A-11C36;11C38-11C3E;11C40-11C40;11C72-11C8F;11C92-11CA7;11CA9-11CB6;11D00-11D06;11D08-11D09;11D0B-11D36;11D3A-11D3A;11D3C-11D3D;11D3F-11D41;11D43-11D43;11D46-11D47;11D60"
  ++ "-11D65;11D67-11D68;11D6A-11D8E;11D90-11D91;11D93-11D96;11D98-11D98;11EE0-11EF6;11F00-11F10;11F12-11F3A;11F3E-11F40;11FB0-11FB0;12000-12399;12400-1246E;12480-12543;12F90-12FF0;13000-1342F;13441-13446;13460-143FA;14400-14646;16100-1612E;16800-16A38;16A40-16A5E;16A70-16ABE;16AD0-16AED;16B00-16B2F;16B40-16B43;16B63-16B77;16B7D-16B8F;16D40-16D6C;16E40-16E7F;16F00-16F4A;16F4F-16F87;16F8F-16F9F;16FE0-16F"
  ++ "E1;16FE3-16FE3;16FF0-16FF1;17000-187F7;18800-18CD5;18CFF-18D08;1AFF0-1AFF3;1AFF5-1AFFB;1AFFD-1AFFE;1B000-1B122;1B132-1B132;1B150-1B152;1B155-1B155;1B164-1B167;1B170-1B2FB;1BC00-1BC6A;1BC70-1BC7C;1BC80-1BC88;1BC90-1BC99;1BC9E-1BC9E;1D400-1D454;1D456-1D49C;1D49E-1D49F;1D4A2-1D4A2;1D4A5-1D4A6;1D4A9-1D4AC;1D4AE-1D4B9;1D4BB-1D4BB;1D4BD-1D4C3;1D4C5-1D505;1D507-1D50A;1D50D-1D514;1D516-1D51C;1D51E-1D539;1"
  ++ "D53B-1D53E;1D540-1D544;1D546-1D546;1D54A-1D550;1D552-1D6A5;1D6A8-1D6C0;1D6C2-1D6DA;1D6DC-1D6FA;1D6FC-1D714;1D716-1D734;1D736-1D74E;1D750-1D76E;1D770-1D788;1D78A-1D7A8;1D7AA-1D7C2;1D7C4-1D7CB;1DF00-1DF1E;1DF25-1DF2A;1E000-1E006;1E008-1E018;1E01B-1E021;1E023-1E024;1E026-1E02A;1E030-1E06D;1E08F-1E08F;1E100-1E12C;1E137-1E13D;1E14E-1E14E;1E290-1E2AD;1E2C0-1E2EB;1E4D0-1E4EB;1E5D0-1E5ED;1E5F0-1E5F0;1E7E0"
  ++ "-1E7E6;1E7E8-1E7EB;1E7ED-1E7EE;1E7F0-1E7FE;1E800-1E8C4;1E900-1E943;1E947-1E947;1E94B-1E94B;1EE00-1EE03;1EE05-1EE1F;1EE21-1EE22;1EE24-1EE24;1EE27-1EE27;1EE29-1EE32;1EE34-1EE37;1EE39-1EE39;1EE3B-1EE3B;1EE42-1EE42;1EE47-1EE47;1EE49-1EE49;1EE4B-1EE4B;1EE4D-1EE4F;1EE51-1EE52;1EE54-1EE54;1EE57-1EE57;1EE59-1EE59;1EE5B-1EE5B;1EE5D-1EE5D;1EE5F-1EE5F;1EE61-1EE62;1EE64-1EE64;1EE67-1EE6A;1EE6C-1EE72;1EE74-1EE"
  ++ "77;1EE79-1EE7C;1EE7E-1EE7E;1EE80-1EE89;1EE8B-1EE9B;1EEA1-1EEA3;1EEA5-1EEA9;1EEAB-1EEBB;1F130-1F149;1F150-1F169;1F170-1F189;20000-2A6DF;2A700-2B739;2B740-2B81D;2B820-2CEA1;2CEB0-2EBE0;2EBF0-2EE5D;2F800-2FA1D;30000-3134A;31350-323AF"

/-- Characters with the property Lowercase. -/
def propertyLowercase : String :=
  "61-7A;AA-AA;B5-B5;BA-BA;DF-F6;F8-FF;101-101;103-103;105-105;107-107;109-109;10B-10B;10D-10D;10F-10F;111-111;113-113;115-115;117-117;119-119;11B-11B;11D-11D;11F-11F;121-121;123-123;125-125;127-127;129-129;12B-12B;12D-12D;12F-12F;131-131;133-133;135-135;137-138;13A-13A;13C-13C;13E-13E;140-140;142-142;144-144;146-146;148-149;14B-14B;14D-14D;14F-14F;151-151;153-153;155-155;157-157;159-159;15B-15B;15D-"
  ++ "15D;15F-15F;161-161;163-163;165-165;167-167;169-169;16B-16B;16D-16D;16F-16F;171-171;173-173;175-175;177-177;17A-17A;17C-17C;17E-180;183-183;185-185;188-188;18C-18D;192-192;195-195;199-19B;19E-19E;1A1-1A1;1A3-1A3;1A5-1A5;1A8-1A8;1AA-1AB;1AD-1AD;1B0-1B0;1B4-1B4;1B6-1B6;1B9-1BA;1BD-1BF;1C6-1C6;1C9-1C9;1CC-1CC;1CE-1CE;1D0-1D0;1D2-1D2;1D4-1D4;1D6-1D6;1D8-1D8;1DA-1DA;1DC-1DD;1DF-1DF;1E1-1E1;1E3-1E3;1E5-"
  ++ "1E5;1E7-1E7;1E9-1E9;1EB-1EB;1ED-1ED;1EF-1F0;1F3-1F3;1F5-1F5;1F9-1F9;1FB-1FB;1FD-1FD;1FF-1FF;201-201;203-203;205-205;207-207;209-209;20B-20B;20D-20D;20F-20F;211-211;213-213;215-215;217-217;219-219;21B-21B;21D-21D;21F-21F;221-221;223-223;225-225;227-227;229-229;22B-22B;22D-22D;22F-22F;231-231;233-239;23C-23C;23F-240;242-242;247-247;249-249;24B-24B;24D-24D;24F-293;296-2B8;2C0-2C1;2E0-2E4;345-345;371-"
  ++ "371;373-373;377-377;37A-37D;390-390;3AC-3CE;3D0-3D1;3D5-3D7;3D9-3D9;3DB-3DB;3DD-3DD;3DF-3DF;3E1-3E1;3E3-3E3;3E5-3E5;3E7-3E7;3E9-3E9;3EB-3EB;3ED-3ED;3EF-3F3;3F5-3F5;3F8-3F8;3FB-3FC;430-45F;461-461;463-463;465-465;467-467;469-469;46B-46B;46D-46D;46F-46F;471-471;473-473;475-475;477-477;479-479;47B-47B;47D-47D;47F-47F;481-481;48B-48B;48D-48D;48F-48F;491-491;493-493;495-495;497-497;499-499;49B-49B;49D-"
  ++ "49D;49F-49F;4A1-4A1;4A3-4A3;4A5-4A5;4A7-4A7;4A9-4A9;4AB-4AB;4AD-4AD;4AF-4AF;4B1-4B1;4B3-4B3;4B5-4B5;4B7-4B7;4B9-4B9;4BB-4BB;4BD-4BD;4BF-4BF;4C2-4C2;4C4-4C4;4C6-4C6;4C8-4C8;4CA-4CA;4CC-4CC;4CE-4CF;4D1-4D1;4D3-4D3;4D5-4D5;4D7-4D7;4D9-4D9;4DB-4DB;4DD-4DD;4DF-4DF;4E1-4E1;4E3-4E3;4E5-4E5;4E7-4E7;4E9-4E9;4EB-4EB;4ED-4ED;4EF-4EF;4F1-4F1;4F3-4F3;4F5-4F5;4F7-4F7;4F9-4F9;4FB-4FB;4FD-4FD;4FF-4FF;501-501;503-"
  ++ "503;505-505;507-507;509-509;50B-50B;50D-50D;50F-50F;511-511;513-513;515-515;517-517;519-519;51B-51B;51D-51D;51F-51F;521-521;523-523;525-525;527-527;529-529;52B-52B;52D-52D;52F-52F;560-588;10D0-10FA;10FC-10FF;13F8-13FD;1C80-1C88;1C8A-1C8A;1D00-1DBF;1E01-1E01;1E03-1E03;1E05-1E05;1E07-1E07;1E09-1E09;1E0B-1E0B;1E0D-1E0D;1E0F-1E0F;1E11-1E11;1E13-1E13;1E15-1E15;1E17-1E17;1E19-1E19;1E1B-1E1B;1E1D-1E1D;1E"
  ++ "1F-1E1F;1E21-1E21;1E23-1E23;1E25-1E25;1E27-1E27;1E29-1E29;1E2B-1E2B;1E2D-1E2D;1E2F-1E2F;1E31-1E31;1E33-1E33;1E35-1E35;1E37-1E37;1E39-1E39;1E3B-1E3B;1E3D-1E3D;1E3F-1E3F;1E41-1E41;1E43-1E43;1E45-1E45;1E47-1E47;1E49-1E49;1E4B-1E4B;1E4D-1E4D;1E4F-1E4F;1E51-1E51;1E53-1E53;1E55-1E55;1E57-1E57;1E59-1E59;1E5B-1E5B;1E5D-1E5D;1E5F-1E5F;1E61-1E61;1E63-1E63;1E65-1E65;1E67-1E67;1E69-1E69;1E6B-1E6B;1E6D-1E6D;1E"
  ++ "6F-1E6F;1E71-1E71;1E73-1E73;1E75-1E75;1E77-1E77;1E79-1E79;1E7B-1E7B;1E7D-1E7D;1E7F-1E7F;1E81-1E81;1E83-1E83;1E85-1E85;1E87-1E87;1E89-1E89;1E8B-1E8B;1E8D-1E8D;1E8F-1E8F;1E91-1E91;1E93-1E93;1E95-1E9D;1E9F-1E9F;1EA1-1EA1;1EA3-1EA3;1EA5-1EA5;1EA7-1EA7;1EA9-1EA9;1EAB-1EAB;1EAD-1EAD;1EAF-1EAF;1EB1-1EB1;1EB3-1EB3;1EB5-1EB5;1EB7-1EB7;1EB9-1EB9;1EBB-1EBB;1EBD-1EBD;1EBF-1EBF;1EC1-1EC1;1EC3-1EC3;1EC5-1EC5;1E"
  ++ "C7-1EC7;1EC9-1EC9;1ECB-1ECB;1ECD-1ECD;1ECF-1ECF;1ED1-1ED1;1ED3-1ED3;1ED5-1ED5;1ED7-1ED7;1ED9-1ED9;1EDB-1EDB;1EDD-1EDD;1EDF-1EDF;1EE1-1EE1;1EE3-1EE3;1EE5-1EE5;1EE7-1EE7;1EE9-1EE9;1EEB-1EEB;1EED-1EED;1EEF-1EEF;1EF1-1EF1;1EF3-1EF3;1EF5-1EF5;1EF7-1EF7;1EF9-1EF9;1EFB-1EFB;1EFD-1EFD;1EFF-1F07;1F10-1F15;1F20-1F27;1F30-1F37;1F40-1F45;1F50-1F57;1F60-1F67;1F70-1F7D;1F80-1F87;1F90-1F97;1FA0-1FA7;1FB0-1FB4;1F"
  ++ "B6-1FB7;1FBE-1FBE;1FC2-1FC4;1FC6-1FC7;1FD0-1FD3;1FD6-1FD7;1FE0-1FE7;1FF2-1FF4;1FF6-1FF7;2071-2071;207F-207F;2090-209C;210A-210A;210E-210F;2113-2113;212F-212F;2134-2134;2139-2139;213C-213D;2146-2149;214E-214E;2170-217F;2184-2184;24D0-24E9;2C30-2C5F;2C61-2C61;2C65-2C66;2C68-2C68;2C6A-2C6A;2C6C-2C6C;2C71-2C71;2C73-2C74;2C76-2C7D;2C81-2C81;2C83-2C83;2C85-2C85;2C87-2C87;2C89-2C89;2C8B-2C8B;2C8D-2C8D;2C"
  ++ "8F-2C8F;2C91-2C91;2C93-2C93;2C95-2C95;2C97-2C97;2C99-2C99;2C9B-2C9B;2C9D-2C9D;2C9F-2C9F;2CA1-2CA1;2CA3-2CA3;2CA5-2CA5;2CA7-2CA7;2CA9-2CA9;2CAB-2CAB;2CAD-2CAD;2CAF-2CAF;2CB1-2CB1;2CB3-2CB3;2CB5-2CB5;2CB7-2CB7;2CB9-2CB9;2CBB-2CBB;2CBD-2CBD;2CBF-2CBF;2CC1-2CC1;2CC3-2CC3;2CC5-2CC5;2CC7-2CC7;2CC9-2CC9;2CCB-2CCB;2CCD-2CCD;2CCF-2CCF;2CD1-2CD1;2CD3-2CD3;2CD5-2CD5;2CD7-2CD7;2CD9-2CD9;2CDB-2CDB;2CDD-2CDD;2C"
  ++ "DF-2CDF;2CE1-2CE1;2CE3-2CE4;2CEC-2CEC;2CEE-2CEE;2CF3-2CF3;2D00-2D25;2D27-2D27;2D2D-2D2D;A641-A641;A643-A643;A645-A645;A647-A647;A649-A649;A64B-A64B;A64D-A64D;A64F-A64F;A651-A651;A653-A653;A655-A655;A657-A657;A659-A659;A65B-A65B;A65D-A65D;A65F-A65F;A661-A661;A663-A663;A665-A665;A667-A667;A669-A669;A66B-A66B;A66D-A66D;A681-A681;A683-A683;A685-A685;A687-A687;A689-A689;A68B-A68B;A68D-A68D;A68F-A68F;A6"
  ++ "91-A691;A693-A693;A695-A695;A697-A697;A699-A699;A69B-A69D;A723-A723;A725-A725;A727-A727;A729-A729;A72B-A72B;A72D-A72D;A72F-A731;A733-A733;A735-A735;A737-A737;A739-A739;A73B-A73B;A73D-A73D;A73F-A73F;A741-A741;A743-A743;A745-A745;A747-A747;A749-A749;A74B-A74B;A74D-A74D;A74F-A74F;A751-A751;A753-A753;A755-A755;A757-A757;A759-A759;A75B-A75B;A75D-A75D;A75F-A75F;A761-A761;A763-A763;A765-A765;A767-A767;A7"
  ++ "69-A769;A76B-A76B;A76D-A76D;A76F-A778;A77A-A77A;A77C-A77C;A77F-A77F;A781-A781;A783-A783;A785-A785;A787-A787;A78C-A78C;A78E-A78E;A791-A791;A793-A795;A797-A797;A799-A799;A79B-A79B;A79D-A79D;A79F-A79F;A7A1-A7A1;A7A3-A7A3;A7A5-A7A5;A7A7-A7A7;A7A9-A7A9;A7AF-A7AF;A7B5-A7B5;A7B7-A7B7;A7B9-A7B9;A7BB-A7BB;A7BD-A7BD;A7BF-A7BF;A7C1-A7C1;A7C3-A7C3;A7C8-A7C8;A7CA-A7CA;A7CD-A7CD;A7D1-A7D1;A7D3-A7D3;A7D5-A7D5;A7"
  ++ "D7-A7D7;A7D9-A7D9;A7DB-A7DB;A7F2-A7F4;A7F6-A7F6;A7F8-A7FA;AB30-AB5A;AB5C-AB69;AB70-ABBF;FB00-FB06;FB13-FB17;FF41-FF5A;10428-1044F;104D8-104FB;10597-105A1;105A3-105B1;105B3-105B9;105BB-105BC;10780-10780;10783-10785;10787-107B0;107B2-107BA;10CC0-10CF2;10D70-10D85;118C0-118DF;16E60-16E7F;1D41A-1D433;1D44E-1D454;1D456-1D467;1D482-1D49B;1D4B6-1D4B9;1D4BB-1D4BB;1D4BD-1D4C3;1D4C5-1D4CF;1D4EA-1D503;1D51E-"
  ++ "1D537;1D552-1D56B;1D586-1D59F;1D5BA-1D5D3;1D5EE-1D607;1D622-1D63B;1D656-1D66F;1D68A-1D6A5;1D6C2-1D6DA;1D6DC-1D6E1;1D6FC-1D714;1D716-1D71B;1D736-1D74E;1D750-1D755;1D770-1D788;1D78A-1D78F;1D7AA-1D7C2;1D7C4-1D7C9;1D7CB-1D7CB;1DF00-1DF09;1DF0B-1DF1E;1DF25-1DF2A;1E030-1E06D;1E922-1E943"

/-- Characters with the property Uppercase. -/
def propertyUppercase : String :=
  "41-5A;C0-D6;D8-DE;100-100;102-102;104-104;106-106;108-108;10A-10A;10C-10C;10E-10E;110-110;112-112;114-114;116-116;118-118;11A-11A;11C-11C;11E-11E;120-120;122-122;124-124;126-126;128-128;12A-12A;12C-12C;12E-12E;130-130;132-132;134-134;136-136;139-139;13B-13B;13D-13D;13F-13F;141-141;143-143;145-145;147-147;14A-14A;14C-14C;14E-14E;150-150;152-152;154-154;156-156;158-158;15A-15A;15C-15C;15E-15E;160-16"
  ++ "0;162-162;164-164;166-166;168-168;16A-16A;16C-16C;16E-16E;170-170;172-172;174-174;176-176;178-179;17B-17B;17D-17D;181-182;184-184;186-187;189-18B;18E-191;193-194;196-198;19C-19D;19F-1A0;1A2-1A2;1A4-1A4;1A6-1A7;1A9-1A9;1AC-1AC;1AE-1AF;1B1-1B3;1B5-1B5;1B7-1B8;1BC-1BC;1C4-1C4;1C7-1C7;1CA-1CA;1CD-1CD;1CF-1CF;1D1-1D1;1D3-1D3;1D5-1D5;1D7-1D7;1D9-1D9;1DB-1DB;1DE-1DE;1E0-1E0;1E2-1E2;1E4-1E4;1E6-1E6;1E8-1E"
  ++ "8;1EA-1EA;1EC-1EC;1EE-1EE;1F1-1F1;1F4-1F4;1F6-1F8;1FA-1FA;1FC-1FC;1FE-1FE;200-200;202-202;204-204;206-206;208-208;20A-20A;20C-20C;20E-20E;210-210;212-212;214-214;216-216;218-218;21A-21A;21C-21C;21E-21E;220-220;222-222;224-224;226-226;228-228;22A-22A;22C-22C;22E-22E;230-230;232-232;23A-23B;23D-23E;241-241;243-246;248-248;24A-24A;24C-24C;24E-24E;370-370;372-372;376-376;37F-37F;386-386;388-38A;38C-38"
  ++ "C;38E-38F;391-3A1;3A3-3AB;3CF-3CF;3D2-3D4;3D8-3D8;3DA-3DA;3DC-3DC;3DE-3DE;3E0-3E0;3E2-3E2;3E4-3E4;3E6-3E6;3E8-3E8;3EA-3EA;3EC-3EC;3EE-3EE;3F4-3F4;3F7-3F7;3F9-3FA;3FD-42F;460-460;462-462;464-464;466-466;468-468;46A-46A;46C-46C;46E-46E;470-470;472-472;474-474;476-476;478-478;47A-47A;47C-47C;47E-47E;480-480;48A-48A;48C-48C;48E-48E;490-490;492-492;494-494;496-496;498-498;49A-49A;49C-49C;49E-49E;4A0-4A"
  ++ "0;4A2-4A2;4A4-4A4;4A6-4A6;4A8-4A8;4AA-4AA;4AC-4AC;4AE-4AE;4B0-4B0;4B2-4B2;4B4-4B4;4B6-4B6;4B8-4B8;4BA-4BA;4BC-4BC;4BE-4BE;4C0-4C1;4C3-4C3;4C5-4C5;4C7-4C7;4C9-4C9;4CB-4CB;4CD-4CD;4D0-4D0;4D2-4D2;4D4-4D4;4D6-4D6;4D8-4D8;4DA-4DA;4DC-4DC;4DE-4DE;4E0-4E0;4E2-4E2;4E4-4E4;4E6-4E6;4E8-4E8;4EA-4EA;4EC-4EC;4EE-4EE;4F0-4F0;4F2-4F2;4F4-4F4;4F6-4F6;4F8-4F8;4FA-4FA;4FC-4FC;4FE-4FE;500-500;502-502;504-504;506-50"
  ++ "6;508-508;50A-50A;50C-50C;50E-50E;510-510;512-512;514-514;516-516;518-518;51A-51A;51C-51C;51E-51E;520-520;522-522;524-524;526-526;528-528;52A-52A;52C-52C;52E-52E;531-556;10A0-10C5;10C7-10C7;10CD-10CD;13A0-13F5;1C89-1C89;1C90-1CBA;1CBD-1CBF;1E00-1E00;1E02-1E02;1E04-1E04;1E06-1E06;1E08-1E08;1E0A-1E0A;1E0C-1E0C;1E0E-1E0E;1E10-1E10;1E12-1E12;1E14-1E14;1E16-1E16;1E18-1E18;1E1A-1E1A;1E1C-1E1C;1E1E-1E1E;"
  ++ "1E20-1E20;1E22-1E22;1E24-1E24;1E26-1E26;1E28-1E28;1E2A-1E2A;1E2C-1E2C;1E2E-1E2E;1E30-1E30;1E32-1E32;1E34-1E34;1E36-1E36;1E38-1E38;1E3A-1E3A;1E3C-1E3C;1E3E-1E3E;1E40-1E40;1E42-1E42;1E44-1E44;1E46-1E46;1E48-1E48;1E4A-1E4A;1E4C-1E4C;1E4E-1E4E;1E50-1E50;1E52-1E52;1E54-1E54;1E56-1E56;1E58-1E58;1E5A-1E5A;1E5C-1E5C;1E5E-1E5E;1E60-1E60;1E62-1E62;1E64-1E64;1E66-1E66;1E68-1E68;1E6A-1E6A;1E6C-1E6C;1E6E-1E6E;"
  ++ "1E70-1E70;1E72-1E72;1E74-1E74;1E76-1E76;1E78-1E78;1E7A-1E7A;1E7C-1E7C;1E7E-1E7E;1E80-1E80;1E82-1E82;1E84-1E84;1E86-1E86;1E88-1E88;1E8A-1E8A;1E8C-1E8C;1E8E-1E8E;1E90-1E90;1E92-1E92;1E94-1E94;1E9E-1E9E;1EA0-1EA0;1EA2-1EA2;1EA4-1EA4;1EA6-1EA6;1EA8-1EA8;1EAA-1EAA;1EAC-1EAC;1EAE-1EAE;1EB0-1EB0;1EB2-1EB2;1EB4-1EB4;1EB6-1EB6;1EB8-1EB8;1EBA-1EBA;1EBC-1EBC;1EBE-1EBE;1EC0-1EC0;1EC2-1EC2;1EC4-1EC4;1EC6-1EC6;"
  ++ "1EC8-1EC8;1ECA-1ECA;1ECC-1ECC;1ECE-1ECE;1ED0-1ED0;1ED2-1ED2;1ED4-1ED4;1ED6-1ED6;1ED8-1ED8;1EDA-1EDA;1EDC-1EDC;1EDE-1EDE;1EE0-1EE0;1EE2-1EE2;1EE4-1EE4;1EE6-1EE6;1EE8-1EE8;1EEA-1EEA;1EEC-1EEC;1EEE-1EEE;1EF0-1EF0;1EF2-1EF2;1EF4-1EF4;1EF6-1EF6;1EF8-1EF8;1EFA-1EFA;1EFC-1EFC;1EFE-1EFE;1F08-1F0F;1F18-1F1D;1F28-1F2F;1F38-1F3F;1F48-1F4D;1F59-1F59;1F5B-1F5B;1F5D-1F5D;1F5F-1F5F;1F68-1F6F;1FB8-1FBB;1FC8-1FCB;"
  ++ "1FD8-1FDB;1FE8-1FEC;1FF8-1FFB;2102-2102;2107-2107;210B-210D;2110-2112;2115-2115;2119-211D;2124-2124;2126-2126;2128-2128;212A-212D;2130-2133;213E-213F;2145-2145;2160-216F;2183-2183;24B6-24CF;2C00-2C2F;2C60-2C60;2C62-2C64;2C67-2C67;2C69-2C69;2C6B-2C6B;2C6D-2C70;2C72-2C72;2C75-2C75;2C7E-2C80;2C82-2C82;2C84-2C84;2C86-2C86;2C88-2C88;2C8A-2C8A;2C8C-2C8C;2C8E-2C8E;2C90-2C90;2C92-2C92;2C94-2C94;2C96-2C96;"
  ++ "2C98-2C98;2C9A-2C9A;2C9C-2C9C;2C9E-2C9E;2CA0-2CA0;2CA2-2CA2;2CA4-2CA4;2CA6-2CA6;2CA8-2CA8;2CAA-2CAA;2CAC-2CAC;2CAE-2CAE;2CB0-2CB0;2CB2-2CB2;2CB4-2CB4;2CB6-2CB6;2CB8-2CB8;2CBA-2CBA;2CBC-2CBC;2CBE-2CBE;2CC0-2CC0;2CC2-2CC2;2CC4-2CC4;2CC6-2CC6;2CC8-2CC8;2CCA-2CCA;2CCC-2CCC;2CCE-2CCE;2CD0-2CD0;2CD2-2CD2;2CD4-2CD4;2CD6-2CD6;2CD8-2CD8;2CDA-2CDA;2CDC-2CDC;2CDE-2CDE;2CE0-2CE0;2CE2-2CE2;2CEB-2CEB;2CED-2CED;"
  ++ "2CF2-2CF2;A640-A640;A642-A642;A644-A644;A646-A646;A648-A648;A64A-A64A;A64C-A64C;A64E-A64E;A650-A650;A652-A652;A654-A654;A656-A656;A658-A658;A65A-A65A;A65C-A65C;A65E-A65E;A660-A660;A662-A662;A664-A664;A666-A666;A668-A668;A66A-A66A;A66C-A66C;A680-A680;A682-A682;A684-A684;A686-A686;A688-A688;A68A-A68A;A68C-A68C;A68E-A68E;A690-A690;A692-A692;A694-A694;A696-A696;A698-A698;A69A-A69A;A722-A722;A724-A724;"
  ++ "A726-A726;A728-A728;A72A-A72A;A72C-A72C;A72E-A72E;A732-A732;A734-A734;A736-A736;A738-A738;A73A-A73A;A73C-A73C;A73E-A73E;A740-A740;A742-A742;A744-A744;A746-A746;A748-A748;A74A-A74A;A74C-A74C;A74E-A74E;A750-A750;A752-A752;A754-A754;A756-A756;A758-A758;A75A-A75A;A75C-A75C;A75E-A75E;A760-A760;A762-A762;A764-A764;A766-A766;A768-A768;A76A-A76A;A76C-A76C;A76E-A76E;A779-A779;A77B-A77B;A77D-A77E;A780-A780;"
  ++ "A782-A782;A784-A784;A786-A786;A78B-A78B;A78D-A78D;A790-A790;A792-A792;A796-A796;A798-A798;A79A-A79A;A79C-A79C;A79E-A79E;A7A0-A7A0;A7A2-A7A2;A7A4-A7A4;A7A6-A7A6;A7A8-A7A8;A7AA-A7AE;A7B0-A7B4;A7B6-A7B6;A7B8-A7B8;A7BA-A7BA;A7BC-A7BC;A7BE-A7BE;A7C0-A7C0;A7C2-A7C2;A7C4-A7C7;A7C9-A7C9;A7CB-A7CC;A7D0-A7D0;A7D6-A7D6;A7D8-A7D8;A7DA-A7DA;A7DC-A7DC;A7F5-A7F5;FF21-FF3A;10400-10427;104B0-104D3;10570-1057A;1057"
  ++ "C-1058A;1058C-10592;10594-10595;10C80-10CB2;10D50-10D65;118A0-118BF;16E40-16E5F;1D400-1D419;1D434-1D44D;1D468-1D481;1D49C-1D49C;1D49E-1D49F;1D4A2-1D4A2;1D4A5-1D4A6;1D4A9-1D4AC;1D4AE-1D4B5;1D4D0-1D4E9;1D504-1D505;1D507-1D50A;1D50D-1D514;1D516-1D51C;1D538-1D539;1D53B-1D53E;1D540-1D544;1D546-1D546;1D54A-1D550;1D56C-1D585;1D5A0-1D5B9;1D5D4-1D5ED;1D608-1D621;1D63C-1D655;1D670-1D689;1D6A8-1D6C0;1D6E2-1D"
  ++ "6FA;1D71C-1D734;1D756-1D76E;1D790-1D7A8;1D7CA-1D7CA;1E900-1E921;1F130-1F149;1F150-1F169;1F170-1F189"

def propertyWhiteSpace : String :=
  "9-D;20-20;85-85;A0-A0;1680-1680;2000-200A;2028-2029;202F-202F;205F-205F;3000-3000"

def propertyEmoji : String :=
  "23-23;2A-2A;30-39;A9-A9;AE-AE;203C-203C;2049-2049;2122-2122;2139-2139;2194-2199;21A9-21AA;231A-231B;2328-2328;23CF-23CF;23E9-23F3;23F8-23FA;24C2-24C2;25AA-25AB;25B6-25B6;25C0-25C0;25FB-25FE;2600-2604;260E-260E;2611-2611;2614-2615;2618-2618;261D-261D;2620-2620;2622-2623;2626-2626;262A-262A;262E-262F;2638-263A;2640-2640;2642-2642;2648-2653;265F-2660;2663-2663;2665-2666;2668-2668;267B-267B;267E-267F;"
  ++ "2692-2697;2699-2699;269B-269C;26A0-26A1;26A7-26A7;26AA-26AB;26B0-26B1;26BD-26BE;26C4-26C5;26C8-26C8;26CE-26CF;26D1-26D1;26D3-26D4;26E9-26EA;26F0-26F5;26F7-26FA;26FD-26FD;2702-2702;2705-2705;2708-270D;270F-270F;2712-2712;2714-2714;2716-2716;271D-271D;2721-2721;2728-2728;2733-2734;2744-2744;2747-2747;274C-274C;274E-274E;2753-2755;2757-2757;2763-2764;2795-2797;27A1-27A1;27B0-27B0;27BF-27BF;2934-2935;"
  ++ "2B05-2B07;2B1B-2B1C;2B50-2B50;2B55-2B55;3030-3030;303D-303D;3297-3297;3299-3299;1F004-1F004;1F0CF-1F0CF;1F170-1F171;1F17E-1F17F;1F18E-1F18E;1F191-1F19A;1F1E6-1F1FF;1F201-1F202;1F21A-1F21A;1F22F-1F22F;1F232-1F23A;1F250-1F251;1F300-1F321;1F324-1F393;1F396-1F397;1F399-1F39B;1F39E-1F3F0;1F3F3-1F3F5;1F3F7-1F4FD;1F4FF-1F53D;1F549-1F54E;1F550-1F567;1F56F-1F570;1F573-1F57A;1F587-1F587;1F58A-1F58D;1F590-1F"
  ++ "590;1F595-1F596;1F5A4-1F5A5;1F5A8-1F5A8;1F5B1-1F5B2;1F5BC-1F5BC;1F5C2-1F5C4;1F5D1-1F5D3;1F5DC-1F5DE;1F5E1-1F5E1;1F5E3-1F5E3;1F5E8-1F5E8;1F5EF-1F5EF;1F5F3-1F5F3;1F5FA-1F64F;1F680-1F6C5;1F6CB-1F6D2;1F6D5-1F6D7;1F6DC-1F6E5;1F6E9-1F6E9;1F6EB-1F6EC;1F6F0-1F6F0;1F6F3-1F6FC;1F7E0-1F7EB;1F7F0-1F7F0;1F90C-1F93A;1F93C-1F945;1F947-1F9FF;1FA70-1FA7C;1FA80-1FA89;1FA8F-1FAC6;1FACE-1FADC;1FADF-1FAE9;1FAF0-1FAF8"

def propertyMath : String :=
  "2B-2B;3C-3E;5E-5E;7C-7C;7E-7E;AC-AC;B1-B1;D7-D7;F7-F7;3D0-3D2;3D5-3D5;3F0-3F1;3F4-3F6;606-608;2016-2016;2032-2034;2040-2040;2044-2044;2052-2052;2061-2064;207A-207E;208A-208E;20D0-20DC;20E1-20E1;20E5-20E6;20EB-20EF;2102-2102;2107-2107;210A-2113;2115-2115;2118-211D;2124-2124;2128-2129;212C-212D;212F-2131;2133-2138;213C-2149;214B-214B;2190-21A7;21A9-21AE;21B0-21B1;21B6-21B7;21BC-21DB;21DD-21DD;21E4-2"
  ++ "1E5;21F4-22FF;2308-230B;2320-2321;237C-237C;239B-23B5;23B7-23B7;23D0-23D0;23DC-23E2;25A0-25A1;25AE-25B7;25BC-25C1;25C6-25C7;25CA-25CB;25CF-25D3;25E2-25E2;25E4-25E4;25E7-25EC;25F8-25FF;2605-2606;2640-2640;2642-2642;2660-2663;266D-266F;27C0-27FF;2900-2AFF;2B30-2B44;2B47-2B4C;FB29-FB29;FE61-FE66;FE68-FE68;FF0B-FF0B;FF1C-FF1E;FF3C-FF3C;FF3E-FF3E;FF5C-FF5C;FF5E-FF5E;FFE2-FFE2;FFE9-FFEC;10D8E-10D8F;1D40"
  ++ "0-1D454;1D456-1D49C;1D49E-1D49F;1D4A2-1D4A2;1D4A5-1D4A6;1D4A9-1D4AC;1D4AE-1D4B9;1D4BB-1D4BB;1D4BD-1D4C3;1D4C5-1D505;1D507-1D50A;1D50D-1D514;1D516-1D51C;1D51E-1D539;1D53B-1D53E;1D540-1D544;1D546-1D546;1D54A-1D550;1D552-1D6A5;1D6A8-1D7CB;1D7CE-1D7FF;1EE00-1EE03;1EE05-1EE1F;1EE21-1EE22;1EE24-1EE24;1EE27-1EE27;1EE29-1EE32;1EE34-1EE37;1EE39-1EE39;1EE3B-1EE3B;1EE42-1EE42;1EE47-1EE47;1EE49-1EE49;1EE4B-1E"
  ++ "E4B;1EE4D-1EE4F;1EE51-1EE52;1EE54-1EE54;1EE57-1EE57;1EE59-1EE59;1EE5B-1EE5B;1EE5D-1EE5D;1EE5F-1EE5F;1EE61-1EE62;1EE64-1EE64;1EE67-1EE6A;1EE6C-1EE72;1EE74-1EE77;1EE79-1EE7C;1EE7E-1EE7E;1EE80-1EE89;1EE8B-1EE9B;1EEA1-1EEA3;1EEA5-1EEA9;1EEAB-1EEBB;1EEF0-1EEF1"

def propertyIdeographic : String :=
  "3006-3007;3021-3029;3038-303A;3400-4DBF;4E00-9FFF;F900-FA6D;FA70-FAD9;16FE4-16FE4;17000-187F7;18800-18CD5;18CFF-18D08;1B170-1B2FB;20000-2A6DF;2A700-2B739;2B740-2B81D;2B820-2CEA1;2CEB0-2EBE0;2EBF0-2EE5D;2F800-2FA1D;30000-3134A;31350-323AF"

def propertyHexDigit : String :=
  "30-39;41-46;61-66;FF10-FF19;FF21-FF26;FF41-FF46"

def propertyASCIIHexDigit : String :=
  "30-39;41-46;61-66"

def propertyDash : String :=
  "2D-2D;58A-58A;5BE-5BE;1400-1400;1806-1806;2010-2015;2053-2053;207B-207B;208B-208B;2212-2212;2E17-2E17;2E1A-2E1A;2E3A-2E3B;2E40-2E40;2E5D-2E5D;301C-301C;3030-3030;30A0-30A0;FE31-FE32;FE58-FE58;FE63-FE63;FF0D-FF0D;10D6E-10D6E;10EAD-10EAD"

def propertyCased : String :=
  "41-5A;61-7A;AA-AA;B5-B5;BA-BA;C0-D6;D8-F6;F8-1BA;1BC-1BF;1C4-293;296-2B8;2C0-2C1;2E0-2E4;345-345;370-373;376-377;37A-37D;37F-37F;386-386;388-38A;38C-38C;38E-3A1;3A3-3F5;3F7-481;48A-52F;531-556;560-588;10A0-10C5;10C7-10C7;10CD-10CD;10D0-10FA;10FC-10FF;13A0-13F5;13F8-13FD;1C80-1C8A;1C90-1CBA;1CBD-1CBF;1D00-1DBF;1E00-1F15;1F18-1F1D;1F20-1F45;1F48-1F4D;1F50-1F57;1F59-1F59;1F5B-1F5B;1F5D-1F5D;1F5F-1F7D"
  ++ ";1F80-1FB4;1FB6-1FBC;1FBE-1FBE;1FC2-1FC4;1FC6-1FCC;1FD0-1FD3;1FD6-1FDB;1FE0-1FEC;1FF2-1FF4;1FF6-1FFC;2071-2071;207F-207F;2090-209C;2102-2102;2107-2107;210A-2113;2115-2115;2119-211D;2124-2124;2126-2126;2128-2128;212A-212D;212F-2134;2139-2139;213C-213F;2145-2149;214E-214E;2160-217F;2183-2184;24B6-24E9;2C00-2CE4;2CEB-2CEE;2CF2-2CF3;2D00-2D25;2D27-2D27;2D2D-2D2D;A640-A66D;A680-A69D;A722-A787;A78B-A78E"
  ++ ";A790-A7CD;A7D0-A7D1;A7D3-A7D3;A7D5-A7DC;A7F2-A7F6;A7F8-A7FA;AB30-AB5A;AB5C-AB69;AB70-ABBF;FB00-FB06;FB13-FB17;FF21-FF3A;FF41-FF5A;10400-1044F;104B0-104D3;104D8-104FB;10570-1057A;1057C-1058A;1058C-10592;10594-10595;10597-105A1;105A3-105B1;105B3-105B9;105BB-105BC;10780-10780;10783-10785;10787-107B0;107B2-107BA;10C80-10CB2;10CC0-10CF2;10D50-10D65;10D70-10D85;118A0-118DF;16E40-16E7F;1D400-1D454;1D456"
  ++ "-1D49C;1D49E-1D49F;1D4A2-1D4A2;1D4A5-1D4A6;1D4A9-1D4AC;1D4AE-1D4B9;1D4BB-1D4BB;1D4BD-1D4C3;1D4C5-1D505;1D507-1D50A;1D50D-1D514;1D516-1D51C;1D51E-1D539;1D53B-1D53E;1D540-1D544;1D546-1D546;1D54A-1D550;1D552-1D6A5;1D6A8-1D6C0;1D6C2-1D6DA;1D6DC-1D6FA;1D6FC-1D714;1D716-1D734;1D736-1D74E;1D750-1D76E;1D770-1D788;1D78A-1D7A8;1D7AA-1D7C2;1D7C4-1D7CB;1DF00-1DF09;1DF0B-1DF1E;1DF25-1DF2A;1E030-1E06D;1E900-1E9"
  ++ "43;1F130-1F149;1F150-1F169;1F170-1F189"

def binaryPropertyRanges : List (String × String) :=
  [("Alphabetic", propertyAlphabetic),
   ("Lowercase", propertyLowercase),
   ("Uppercase", propertyUppercase),
   ("White_Space", propertyWhiteSpace),
   ("Emoji", propertyEmoji),
   ("Math", propertyMath),
   ("Ideographic", propertyIdeographic),
   ("Hex_Digit", propertyHexDigit),
   ("ASCII_Hex_Digit", propertyASCIIHexDigit),
   ("Dash", propertyDash),
   ("Cased", propertyCased)]

/-- Simple case foldings that change a character. -/
def simpleFolds : String :=
  "41:61;42:62;43:63;44:64;45:65;46:66;47:67;48:68;49:69;4A:6A;4B:6B;4C:6C;4D:6D;4E:6E;4F:6F;50:70;51:71;52:72;53:73;54:74;55:75;56:76;57:77;58:78;59:79;5A:7A;B5:3BC;C0:E0;C1:E1;C2:E2;C3:E3;C4:E4;C5:E5;C6:E6;C7:E7;C8:E8;C9:E9;CA:EA;CB:EB;CC:EC;CD:ED;CE:EE;CF:EF;D0:F0;D1:F1;D2:F2;D3:F3;D4:F4;D5:F5;D6:F6;D8:F8;D9:F9;DA:FA;DB:FB;DC:FC;DD:FD;DE:FE;100:101;102:103;104:105;106:107;108:109;10A:10B;10C:10D;1"
  ++ "0E:10F;110:111;112:113;114:115;116:117;118:119;11A:11B;11C:11D;11E:11F;120:121;122:123;124:125;126:127;128:129;12A:12B;12C:12D;12E:12F;132:133;134:135;136:137;139:13A;13B:13C;13D:13E;13F:140;141:142;143:144;145:146;147:148;14A:14B;14C:14D;14E:14F;150:151;152:153;154:155;156:157;158:159;15A:15B;15C:15D;15E:15F;160:161;162:163;164:165;166:167;168:169;16A:16B;16C:16D;16E:16F;170:171;172:173;174:175;1"
  ++ "76:177;178:FF;179:17A;17B:17C;17D:17E;17F:73;181:253;182:183;184:185;186:254;187:188;189:256;18A:257;18B:18C;18E:1DD;18F:259;190:25B;191:192;193:260;194:263;196:269;197:268;198:199;19C:26F;19D:272;19F:275;1A0:1A1;1A2:1A3;1A4:1A5;1A6:280;1A7:1A8;1A9:283;1AC:1AD;1AE:288;1AF:1B0;1B1:28A;1B2:28B;1B3:1B4;1B5:1B6;1B7:292;1B8:1B9;1BC:1BD;1C4:1C6;1C5:1C6;1C7:1C9;1C8:1C9;1CA:1CC;1CB:1CC;1CD:1CE;1CF:1D0;1D1"
  ++ ":1D2;1D3:1D4;1D5:1D6;1D7:1D8;1D9:1DA;1DB:1DC;1DE:1DF;1E0:1E1;1E2:1E3;1E4:1E5;1E6:1E7;1E8:1E9;1EA:1EB;1EC:1ED;1EE:1EF;1F1:1F3;1F2:1F3;1F4:1F5;1F6:195;1F7:1BF;1F8:1F9;1FA:1FB;1FC:1FD;1FE:1FF;200:201;202:203;204:205;206:207;208:209;20A:20B;20C:20D;20E:20F;210:211;212:213;214:215;216:217;218:219;21A:21B;21C:21D;21E:21F;220:19E;222:223;224:225;226:227;228:229;22A:22B;22C:22D;22E:22F;230:231;232:233;23A"
  ++ ":2C65;23B:23C;23D:19A;23E:2C66;241:242;243:180;244:289;245:28C;246:247;248:249;24A:24B;24C:24D;24E:24F;345:3B9;370:371;372:373;376:377;37F:3F3;386:3AC;388:3AD;389:3AE;38A:3AF;38C:3CC;38E:3CD;38F:3CE;391:3B1;392:3B2;393:3B3;394:3B4;395:3B5;396:3B6;397:3B7;398:3B8;399:3B9;39A:3BA;39B:3BB;39C:3BC;39D:3BD;39E:3BE;39F:3BF;3A0:3C0;3A1:3C1;3A3:3C3;3A4:3C4;3A5:3C5;3A6:3C6;3A7:3C7;3A8:3C8;3A9:3C9;3AA:3CA;3"
  ++ "AB:3CB;3C2:3C3;3CF:3D7;3D0:3B2;3D1:3B8;3D5:3C6;3D6:3C0;3D8:3D9;3DA:3DB;3DC:3DD;3DE:3DF;3E0:3E1;3E2:3E3;3E4:3E5;3E6:3E7;3E8:3E9;3EA:3EB;3EC:3ED;3EE:3EF;3F0:3BA;3F1:3C1;3F4:3B8;3F5:3B5;3F7:3F8;3F9:3F2;3FA:3FB;3FD:37B;3FE:37C;3FF:37D;400:450;401:451;402:452;403:453;404:454;405:455;406:456;407:457;408:458;409:459;40A:45A;40B:45B;40C:45C;40D:45D;40E:45E;40F:45F;410:430;411:431;412:432;413:433;414:434;4"
  ++ "15:435;416:436;417:437;418:438;419:439;41A:43A;41B:43B;41C:43C;41D:43D;41E:43E;41F:43F;420:440;421:441;422:442;423:443;424:444;425:445;426:446;427:447;428:448;429:449;42A:44A;42B:44B;42C:44C;42D:44D;42E:44E;42F:44F;460:461;462:463;464:465;466:467;468:469;46A:46B;46C:46D;46E:46F;470:471;472:473;474:475;476:477;478:479;47A:47B;47C:47D;47E:47F;480:481;48A:48B;48C:48D;48E:48F;490:491;492:493;494:495;4"
  ++ "96:497;498:499;49A:49B;49C:49D;49E:49F;4A0:4A1;4A2:4A3;4A4:4A5;4A6:4A7;4A8:4A9;4AA:4AB;4AC:4AD;4AE:4AF;4B0:4B1;4B2:4B3;4B4:4B5;4B6:4B7;4B8:4B9;4BA:4BB;4BC:4BD;4BE:4BF;4C0:4CF;4C1:4C2;4C3:4C4;4C5:4C6;4C7:4C8;4C9:4CA;4CB:4CC;4CD:4CE;4D0:4D1;4D2:4D3;4D4:4D5;4D6:4D7;4D8:4D9;4DA:4DB;4DC:4DD;4DE:4DF;4E0:4E1;4E2:4E3;4E4:4E5;4E6:4E7;4E8:4E9;4EA:4EB;4EC:4ED;4EE:4EF;4F0:4F1;4F2:4F3;4F4:4F5;4F6:4F7;4F8:4F9;4"
  ++ "FA:4FB;4FC:4FD;4FE:4FF;500:501;502:503;504:505;506:507;508:509;50A:50B;50C:50D;50E:50F;510:511;512:513;514:515;516:517;518:519;51A:51B;51C:51D;51E:51F;520:521;522:523;524:525;526:527;528:529;52A:52B;52C:52D;52E:52F;531:561;532:562;533:563;534:564;535:565;536:566;537:567;538:568;539:569;53A:56A;53B:56B;53C:56C;53D:56D;53E:56E;53F:56F;540:570;541:571;542:572;543:573;544:574;545:575;546:576;547:577;5"
  ++ "48:578;549:579;54A:57A;54B:57B;54C:57C;54D:57D;54E:57E;54F:57F;550:580;551:581;552:582;553:583;554:584;555:585;556:586;10A0:2D00;10A1:2D01;10A2:2D02;10A3:2D03;10A4:2D04;10A5:2D05;10A6:2D06;10A7:2D07;10A8:2D08;10A9:2D09;10AA:2D0A;10AB:2D0B;10AC:2D0C;10AD:2D0D;10AE:2D0E;10AF:2D0F;10B0:2D10;10B1:2D11;10B2:2D12;10B3:2D13;10B4:2D14;10B5:2D15;10B6:2D16;10B7:2D17;10B8:2D18;10B9:2D19;10BA:2D1A;10BB:2D1B;1"
  ++ "0BC:2D1C;10BD:2D1D;10BE:2D1E;10BF:2D1F;10C0:2D20;10C1:2D21;10C2:2D22;10C3:2D23;10C4:2D24;10C5:2D25;10C7:2D27;10CD:2D2D;13F8:13F0;13F9:13F1;13FA:13F2;13FB:13F3;13FC:13F4;13FD:13F5;1C80:432;1C81:434;1C82:43E;1C83:441;1C84:442;1C85:442;1C86:44A;1C87:463;1C88:A64B;1C89:1C8A;1C90:10D0;1C91:10D1;1C92:10D2;1C93:10D3;1C94:10D4;1C95:10D5;1C96:10D6;1C97:10D7;1C98:10D8;1C99:10D9;1C9A:10DA;1C9B:10DB;1C9C:10DC"
  ++ ";1C9D:10DD;1C9E:10DE;1C9F:10DF;1CA0:10E0;1CA1:10E1;1CA2:10E2;1CA3:10E3;1CA4:10E4;1CA5:10E5;1CA6:10E6;1CA7:10E7;1CA8:10E8;1CA9:10E9;1CAA:10EA;1CAB:10EB;1CAC:10EC;1CAD:10ED;1CAE:10EE;1CAF:10EF;1CB0:10F0;1CB1:10F1;1CB2:10F2;1CB3:10F3;1CB4:10F4;1CB5:10F5;1CB6:10F6;1CB7:10F7;1CB8:10F8;1CB9:10F9;1CBA:10FA;1CBD:10FD;1CBE:10FE;1CBF:10FF;1E00:1E01;1E02:1E03;1E04:1E05;1E06:1E07;1E08:1E09;1E0A:1E0B;1E0C:1E0D"
  ++ ";1E0E:1E0F;1E10:1E11;1E12:1E13;1E14:1E15;1E16:1E17;1E18:1E19;1E1A:1E1B;1E1C:1E1D;1E1E:1E1F;1E20:1E21;1E22:1E23;1E24:1E25;1E26:1E27;1E28:1E29;1E2A:1E2B;1E2C:1E2D;1E2E:1E2F;1E30:1E31;1E32:1E33;1E34:1E35;1E36:1E37;1E38:1E39;1E3A:1E3B;1E3C:1E3D;1E3E:1E3F;1E40:1E41;1E42:1E43;1E44:1E45;1E46:1E47;1E48:1E49;1E4A:1E4B;1E4C:1E4D;1E4E:1E4F;1E50:1E51;1E52:1E53;1E54:1E55;1E56:1E57;1E58:1E59;1E5A:1E5B;1E5C:1E5D"
  ++ ";1E5E:1E5F;1E60:1E61;1E62:1E63;1E64:1E65;1E66:1E67;1E68:1E69;1E6A:1E6B;1E6C:1E6D;1E6E:1E6F;1E70:1E71;1E72:1E73;1E74:1E75;1E76:1E77;1E78:1E79;1E7A:1E7B;1E7C:1E7D;1E7E:1E7F;1E80:1E81;1E82:1E83;1E84:1E85;1E86:1E87;1E88:1E89;1E8A:1E8B;1E8C:1E8D;1E8E:1E8F;1E90:1E91;1E92:1E93;1E94:1E95;1E9B:1E61;1E9E:DF;1EA0:1EA1;1EA2:1EA3;1EA4:1EA5;1EA6:1EA7;1EA8:1EA9;1EAA:1EAB;1EAC:1EAD;1EAE:1EAF;1EB0:1EB1;1EB2:1EB3;1"
  ++ "EB4:1EB5;1EB6:1EB7;1EB8:1EB9;1EBA:1EBB;1EBC:1EBD;1EBE:1EBF;1EC0:1EC1;1EC2:1EC3;1EC4:1EC5;1EC6:1EC7;1EC8:1EC9;1ECA:1ECB;1ECC:1ECD;1ECE:1ECF;1ED0:1ED1;1ED2:1ED3;1ED4:1ED5;1ED6:1ED7;1ED8:1ED9;1EDA:1EDB;1EDC:1EDD;1EDE:1EDF;1EE0:1EE1;1EE2:1EE3;1EE4:1EE5;1EE6:1EE7;1EE8:1EE9;1EEA:1EEB;1EEC:1EED;1EEE:1EEF;1EF0:1EF1;1EF2:1EF3;1EF4:1EF5;1EF6:1EF7;1EF8:1EF9;1EFA:1EFB;1EFC:1EFD;1EFE:1EFF;1F08:1F00;1F09:1F01;1"
  ++ "F0A:1F02;1F0B:1F03;1F0C:1F04;1F0D:1F05;1F0E:1F06;1F0F:1F07;1F18:1F10;1F19:1F11;1F1A:1F12;1F1B:1F13;1F1C:1F14;1F1D:1F15;1F28:1F20;1F29:1F21;1F2A:1F22;1F2B:1F23;1F2C:1F24;1F2D:1F25;1F2E:1F26;1F2F:1F27;1F38:1F30;1F39:1F31;1F3A:1F32;1F3B:1F33;1F3C:1F34;1F3D:1F35;1F3E:1F36;1F3F:1F37;1F48:1F40;1F49:1F41;1F4A:1F42;1F4B:1F43;1F4C:1F44;1F4D:1F45;1F59:1F51;1F5B:1F53;1F5D:1F55;1F5F:1F57;1F68:1F60;1F69:1F61;1"
  ++ "F6A:1F62;1F6B:1F63;1F6C:1F64;1F6D:1F65;1F6E:1F66;1F6F:1F67;1F88:1F80;1F89:1F81;1F8A:1F82;1F8B:1F83;1F8C:1F84;1F8D:1F85;1F8E:1F86;1F8F:1F87;1F98:1F90;1F99:1F91;1F9A:1F92;1F9B:1F93;1F9C:1F94;1F9D:1F95;1F9E:1F96;1F9F:1F97;1FA8:1FA0;1FA9:1FA1;1FAA:1FA2;1FAB:1FA3;1FAC:1FA4;1FAD:1FA5;1FAE:1FA6;1FAF:1FA7;1FB8:1FB0;1FB9:1FB1;1FBA:1F70;1FBB:1F71;1FBC:1FB3;1FBE:3B9;1FC8:1F72;1FC9:1F73;1FCA:1F74;1FCB:1F75;1F"
  ++ "CC:1FC3;1FD8:1FD0;1FD9:1FD1;1FDA:1F76;1FDB:1F77;1FE8:1FE0;1FE9:1FE1;1FEA:1F7A;1FEB:1F7B;1FEC:1FE5;1FF8:1F78;1FF9:1F79;1FFA:1F7C;1FFB:1F7D;1FFC:1FF3;2126:3C9;212A:6B;212B:E5;2132:214E;2160:2170;2161:2171;2162:2172;2163:2173;2164:2174;2165:2175;2166:2176;2167:2177;2168:2178;2169:2179;216A:217A;216B:217B;216C:217C;216D:217D;216E:217E;216F:217F;2183:2184;24B6:24D0;24B7:24D1;24B8:24D2;24B9:24D3;24BA:24"
  ++ "D4;24BB:24D5;24BC:24D6;24BD:24D7;24BE:24D8;24BF:24D9;24C0:24DA;24C1:24DB;24C2:24DC;24C3:24DD;24C4:24DE;24C5:24DF;24C6:24E0;24C7:24E1;24C8:24E2;24C9:24E3;24CA:24E4;24CB:24E5;24CC:24E6;24CD:24E7;24CE:24E8;24CF:24E9;2C00:2C30;2C01:2C31;2C02:2C32;2C03:2C33;2C04:2C34;2C05:2C35;2C06:2C36;2C07:2C37;2C08:2C38;2C09:2C39;2C0A:2C3A;2C0B:2C3B;2C0C:2C3C;2C0D:2C3D;2C0E:2C3E;2C0F:2C3F;2C10:2C40;2C11:2C41;2C12:2C"
  ++ "42;2C13:2C43;2C14:2C44;2C15:2C45;2C16:2C46;2C17:2C47;2C18:2C48;2C19:2C49;2C1A:2C4A;2C1B:2C4B;2C1C:2C4C;2C1D:2C4D;2C1E:2C4E;2C1F:2C4F;2C20:2C50;2C21:2C51;2C22:2C52;2C23:2C53;2C24:2C54;2C25:2C55;2C26:2C56;2C27:2C57;2C28:2C58;2C29:2C59;2C2A:2C5A;2C2B:2C5B;2C2C:2C5C;2C2D:2C5D;2C2E:2C5E;2C2F:2C5F;2C60:2C61;2C62:26B;2C63:1D7D;2C64:27D;2C67:2C68;2C69:2C6A;2C6B:2C6C;2C6D:251;2C6E:271;2C6F:250;2C70:252;2C7"
  ++ "2:2C73;2C75:2C76;2C7E:23F;2C7F:240;2C80:2C81;2C82:2C83;2C84:2C85;2C86:2C87;2C88:2C89;2C8A:2C8B;2C8C:2C8D;2C8E:2C8F;2C90:2C91;2C92:2C93;2C94:2C95;2C96:2C97;2C98:2C99;2C9A:2C9B;2C9C:2C9D;2C9E:2C9F;2CA0:2CA1;2CA2:2CA3;2CA4:2CA5;2CA6:2CA7;2CA8:2CA9;2CAA:2CAB;2CAC:2CAD;2CAE:2CAF;2CB0:2CB1;2CB2:2CB3;2CB4:2CB5;2CB6:2CB7;2CB8:2CB9;2CBA:2CBB;2CBC:2CBD;2CBE:2CBF;2CC0:2CC1;2CC2:2CC3;2CC4:2CC5;2CC6:2CC7;2CC8:"
  ++ "2CC9;2CCA:2CCB;2CCC:2CCD;2CCE:2CCF;2CD0:2CD1;2CD2:2CD3;2CD4:2CD5;2CD6:2CD7;2CD8:2CD9;2CDA:2CDB;2CDC:2CDD;2CDE:2CDF;2CE0:2CE1;2CE2:2CE3;2CEB:2CEC;2CED:2CEE;2CF2:2CF3;A640:A641;A642:A643;A644:A645;A646:A647;A648:A649;A64A:A64B;A64C:A64D;A64E:A64F;A650:A651;A652:A653;A654:A655;A656:A657;A658:A659;A65A:A65B;A65C:A65D;A65E:A65F;A660:A661;A662:A663;A664:A665;A666:A667;A668:A669;A66A:A66B;A66C:A66D;A680:"
  ++ "A681;A682:A683;A684:A685;A686:A687;A688:A689;A68A:A68B;A68C:A68D;A68E:A68F;A690:A691;A692:A693;A694:A695;A696:A697;A698:A699;A69A:A69B;A722:A723;A724:A725;A726:A727;A728:A729;A72A:A72B;A72C:A72D;A72E:A72F;A732:A733;A734:A735;A736:A737;A738:A739;A73A:A73B;A73C:A73D;A73E:A73F;A740:A741;A742:A743;A744:A745;A746:A747;A748:A749;A74A:A74B;A74C:A74D;A74E:A74F;A750:A751;A752:A753;A754:A755;A756:A757;A758:"
  ++ "A759;A75A:A75B;A75C:A75D;A75E:A75F;A760:A761;A762:A763;A764:A765;A766:A767;A768:A769;A76A:A76B;A76C:A76D;A76E:A76F;A779:A77A;A77B:A77C;A77D:1D79;A77E:A77F;A780:A781;A782:A783;A784:A785;A786:A787;A78B:A78C;A78D:265;A790:A791;A792:A793;A796:A797;A798:A799;A79A:A79B;A79C:A79D;A79E:A79F;A7A0:A7A1;A7A2:A7A3;A7A4:A7A5;A7A6:A7A7;A7A8:A7A9;A7AA:266;A7AB:25C;A7AC:261;A7AD:26C;A7AE:26A;A7B0:29E;A7B1:287;A7B"
  ++ "2:29D;A7B3:AB53;A7B4:A7B5;A7B6:A7B7;A7B8:A7B9;A7BA:A7BB;A7BC:A7BD;A7BE:A7BF;A7C0:A7C1;A7C2:A7C3;A7C4:A794;A7C5:282;A7C6:1D8E;A7C7:A7C8;A7C9:A7CA;A7CB:264;A7CC:A7CD;A7D0:A7D1;A7D6:A7D7;A7D8:A7D9;A7DA:A7DB;A7DC:19B;A7F5:A7F6;AB70:13A0;AB71:13A1;AB72:13A2;AB73:13A3;AB74:13A4;AB75:13A5;AB76:13A6;AB77:13A7;AB78:13A8;AB79:13A9;AB7A:13AA;AB7B:13AB;AB7C:13AC;AB7D:13AD;AB7E:13AE;AB7F:13AF;AB80:13B0;AB81:13"
  ++ "B1;AB82:13B2;AB83:13B3;AB84:13B4;AB85:13B5;AB86:13B6;AB87:13B7;AB88:13B8;AB89:13B9;AB8A:13BA;AB8B:13BB;AB8C:13BC;AB8D:13BD;AB8E:13BE;AB8F:13BF;AB90:13C0;AB91:13C1;AB92:13C2;AB93:13C3;AB94:13C4;AB95:13C5;AB96:13C6;AB97:13C7;AB98:13C8;AB99:13C9;AB9A:13CA;AB9B:13CB;AB9C:13CC;AB9D:13CD;AB9E:13CE;AB9F:13CF;ABA0:13D0;ABA1:13D1;ABA2:13D2;ABA3:13D3;ABA4:13D4;ABA5:13D5;ABA6:13D6;ABA7:13D7;ABA8:13D8;ABA9:13"
  ++ "D9;ABAA:13DA;ABAB:13DB;ABAC:13DC;ABAD:13DD;ABAE:13DE;ABAF:13DF;ABB0:13E0;ABB1:13E1;ABB2:13E2;ABB3:13E3;ABB4:13E4;ABB5:13E5;ABB6:13E6;ABB7:13E7;ABB8:13E8;ABB9:13E9;ABBA:13EA;ABBB:13EB;ABBC:13EC;ABBD:13ED;ABBE:13EE;ABBF:13EF;FF21:FF41;FF22:FF42;FF23:FF43;FF24:FF44;FF25:FF45;FF26:FF46;FF27:FF47;FF28:FF48;FF29:FF49;FF2A:FF4A;FF2B:FF4B;FF2C:FF4C;FF2D:FF4D;FF2E:FF4E;FF2F:FF4F;FF30:FF50;FF31:FF51;FF32:FF"
  ++ "52;FF33:FF53;FF34:FF54;FF35:FF55;FF36:FF56;FF37:FF57;FF38:FF58;FF39:FF59;FF3A:FF5A;10400:10428;10401:10429;10402:1042A;10403:1042B;10404:1042C;10405:1042D;10406:1042E;10407:1042F;10408:10430;10409:10431;1040A:10432;1040B:10433;1040C:10434;1040D:10435;1040E:10436;1040F:10437;10410:10438;10411:10439;10412:1043A;10413:1043B;10414:1043C;10415:1043D;10416:1043E;10417:1043F;10418:10440;10419:10441;1041A"
  ++ ":10442;1041B:10443;1041C:10444;1041D:10445;1041E:10446;1041F:10447;10420:10448;10421:10449;10422:1044A;10423:1044B;10424:1044C;10425:1044D;10426:1044E;10427:1044F;104B0:104D8;104B1:104D9;104B2:104DA;104B3:104DB;104B4:104DC;104B5:104DD;104B6:104DE;104B7:104DF;104B8:104E0;104B9:104E1;104BA:104E2;104BB:104E3;104BC:104E4;104BD:104E5;104BE:104E6;104BF:104E7;104C0:104E8;104C1:104E9;104C2:104EA;104C3:104"
  ++ "EB;104C4:104EC;104C5:104ED;104C6:104EE;104C7:104EF;104C8:104F0;104C9:104F1;104CA:104F2;104CB:104F3;104CC:104F4;104CD:104F5;104CE:104F6;104CF:104F7;104D0:104F8;104D1:104F9;104D2:104FA;104D3:104FB;10570:10597;10571:10598;10572:10599;10573:1059A;10574:1059B;10575:1059C;10576:1059D;10577:1059E;10578:1059F;10579:105A0;1057A:105A1;1057C:105A3;1057D:105A4;1057E:105A5;1057F:105A6;10580:105A7;10581:105A8;1"
  ++ "0582:105A9;10583:105AA;10584:105AB;10585:105AC;10586:105AD;10587:105AE;10588:105AF;10589:105B0;1058A:105B1;1058C:105B3;1058D:105B4;1058E:105B5;1058F:105B6;10590:105B7;10591:105B8;10592:105B9;10594:105BB;10595:105BC;10C80:10CC0;10C81:10CC1;10C82:10CC2;10C83:10CC3;10C84:10CC4;10C85:10CC5;10C86:10CC6;10C87:10CC7;10C88:10CC8;10C89:10CC9;10C8A:10CCA;10C8B:10CCB;10C8C:10CCC;10C8D:10CCD;10C8E:10CCE;10C8F"
  ++ ":10CCF;10C90:10CD0;10C91:10CD1;10C92:10CD2;10C93:10CD3;10C94:10CD4;10C95:10CD5;10C96:10CD6;10C97:10CD7;10C98:10CD8;10C99:10CD9;10C9A:10CDA;10C9B:10CDB;10C9C:10CDC;10C9D:10CDD;10C9E:10CDE;10C9F:10CDF;10CA0:10CE0;10CA1:10CE1;10CA2:10CE2;10CA3:10CE3;10CA4:10CE4;10CA5:10CE5;10CA6:10CE6;10CA7:10CE7;10CA8:10CE8;10CA9:10CE9;10CAA:10CEA;10CAB:10CEB;10CAC:10CEC;10CAD:10CED;10CAE:10CEE;10CAF:10CEF;10CB0:10C"
  ++ "F0;10CB1:10CF1;10CB2:10CF2;10D50:10D70;10D51:10D71;10D52:10D72;10D53:10D73;10D54:10D74;10D55:10D75;10D56:10D76;10D57:10D77;10D58:10D78;10D59:10D79;10D5A:10D7A;10D5B:10D7B;10D5C:10D7C;10D5D:10D7D;10D5E:10D7E;10D5F:10D7F;10D60:10D80;10D61:10D81;10D62:10D82;10D63:10D83;10D64:10D84;10D65:10D85;118A0:118C0;118A1:118C1;118A2:118C2;118A3:118C3;118A4:118C4;118A5:118C5;118A6:118C6;118A7:118C7;118A8:118C8;1"
  ++ "18A9:118C9;118AA:118CA;118AB:118CB;118AC:118CC;118AD:118CD;118AE:118CE;118AF:118CF;118B0:118D0;118B1:118D1;118B2:118D2;118B3:118D3;118B4:118D4;118B5:118D5;118B6:118D6;118B7:118D7;118B8:118D8;118B9:118D9;118BA:118DA;118BB:118DB;118BC:118DC;118BD:118DD;118BE:118DE;118BF:118DF;16E40:16E60;16E41:16E61;16E42:16E62;16E43:16E63;16E44:16E64;16E45:16E65;16E46:16E66;16E47:16E67;16E48:16E68;16E49:16E69;16E4A"
  ++ ":16E6A;16E4B:16E6B;16E4C:16E6C;16E4D:16E6D;16E4E:16E6E;16E4F:16E6F;16E50:16E70;16E51:16E71;16E52:16E72;16E53:16E73;16E54:16E74;16E55:16E75;16E56:16E76;16E57:16E77;16E58:16E78;16E59:16E79;16E5A:16E7A;16E5B:16E7B;16E5C:16E7C;16E5D:16E7D;16E5E:16E7E;16E5F:16E7F;1E900:1E922;1E901:1E923;1E902:1E924;1E903:1E925;1E904:1E926;1E905:1E927;1E906:1E928;1E907:1E929;1E908:1E92A;1E909:1E92B;1E90A:1E92C;1E90B:1E9"
  ++ "2D;1E90C:1E92E;1E90D:1E92F;1E90E:1E930;1E90F:1E931;1E910:1E932;1E911:1E933;1E912:1E934;1E913:1E935;1E914:1E936;1E915:1E937;1E916:1E938;1E917:1E939;1E918:1E93A;1E919:1E93B;1E91A:1E93C;1E91B:1E93D;1E91C:1E93E;1E91D:1E93F;1E91E:1E940;1E91F:1E941;1E920:1E942;1E921:1E943"

def ageRanges : String :=
  "0-1F5:1.1;1F6-1F9:3.0;1FA-217:1.1;218-21F:3.0;220-220:3.2;221-221:4.0;222-233:3.0;234-236:4.0;237-241:4.1;242-24F:5.0;250-2A8:1.1;2A9-2AD:3.0;2AE-2AF:4.0;2B0-2DE:1.1;2DF-2DF:3.0;2E0-2E9:1.1;2EA-2EE:3.0;2EF-2FF:4.0;300-345:1.1;346-34E:3.0;34F-34F:3.2;350-357:4.0;358-35C:4.1;35D-35F:4.0;360-361:1.1;362-362:3.0;363-36F:3.2;370-373:5.1;374-375:1.1;376-377:5.1;37A-37A:1.1;37B-37D:5.0;37E-37E:1.1;37F-37"
  ++ "F:7.0;384-38A:1.1;38C-38C:1.1;38E-3A1:1.1;3A3-3CE:1.1;3CF-3CF:5.1;3D0-3D6:1.1;3D7-3D7:3.0;3D8-3D9:3.2;3DA-3DA:1.1;3DB-3DB:3.0;3DC-3DC:1.1;3DD-3DD:3.0;3DE-3DE:1.1;3DF-3DF:3.0;3E0-3E0:1.1;3E1-3E1:3.0;3E2-3F3:1.1;3F4-3F5:3.1;3F6-3F6:3.2;3F7-3FB:4.0;3FC-3FF:4.1;400-400:3.0;401-40C:1.1;40D-40D:3.0;40E-44F:1.1;450-450:3.0;451-45C:1.1;45D-45D:3.0;45E-486:1.1;487-487:5.1;488-489:3.0;48A-48B:3.2;48C-48F:3."
  ++ "0;490-4C4:1.1;4C5-4C6:3.2;4C7-4C8:1.1;4C9-4CA:3.2;4CB-4CC:1.1;4CD-4CE:3.2;4CF-4CF:5.0;4D0-4EB:1.1;4EC-4ED:3.0;4EE-4F5:1.1;4F6-4F7:4.1;4F8-4F9:1.1;4FA-4FF:5.0;500-50F:3.2;510-513:5.0;514-523:5.1;524-525:5.2;526-527:6.0;528-52F:7.0;531-556:1.1;559-55F:1.1;560-560:11.0;561-587:1.1;588-588:11.0;589-589:1.1;58A-58A:3.0;58D-58E:7.0;58F-58F:6.1;591-5A1:2.0;5A2-5A2:4.1;5A3-5AF:2.0;5B0-5B9:1.1;5BA-5BA:5.0;"
  ++ "5BB-5C3:1.1;5C4-5C4:2.0;5C5-5C7:4.1;5D0-5EA:1.1;5EF-5EF:11.0;5F0-5F4:1.1;600-603:4.0;604-604:6.1;605-605:7.0;606-60A:5.1;60B-60B:4.1;60C-60C:1.1;60D-615:4.0;616-61A:5.1;61B-61B:1.1;61C-61C:6.3;61D-61D:14.0;61E-61E:4.1;61F-61F:1.1;620-620:6.0;621-63A:1.1;63B-63F:5.1;640-652:1.1;653-655:3.0;656-658:4.0;659-65E:4.1;65F-65F:6.0;660-66D:1.1;66E-66F:3.2;670-6B7:1.1;6B8-6B9:3.0;6BA-6BE:1.1;6BF-6BF:3.0;6C"
  ++ "0-6CE:1.1;6CF-6CF:3.0;6D0-6ED:1.1;6EE-6EF:4.0;6F0-6F9:1.1;6FA-6FE:3.0;6FF-6FF:4.0;700-70D:3.0;70F-72C:3.0;72D-72F:4.0;730-74A:3.0;74D-74F:4.0;750-76D:4.1;76E-77F:5.1;780-7B0:3.0;7B1-7B1:3.2;7C0-7FA:5.0;7FD-7FF:11.0;800-82D:5.2;830-83E:5.2;840-85B:6.0;85E-85E:6.0;860-86A:10.0;870-88E:14.0;890-891:14.0;897-897:16.0;898-89F:14.0;8A0-8A0:6.1;8A1-8A1:7.0;8A2-8AC:6.1;8AD-8B2:7.0;8B3-8B4:8.0;8B5-8B5:14.0"
  ++ ";8B6-8BD:9.0;8BE-8C7:13.0;8C8-8D2:14.0;8D3-8D3:11.0;8D4-8E2:9.0;8E3-8E3:8.0;8E4-8FE:6.1;8FF-8FF:7.0;900-900:5.2;901-903:1.1;904-904:4.0;905-939:1.1;93A-93B:6.0;93C-94D:1.1;94E-94E:5.2;94F-94F:6.0;950-954:1.1;955-955:5.2;956-957:6.0;958-970:1.1;971-972:5.1;973-977:6.0;978-978:7.0;979-97A:5.2;97B-97C:5.0;97D-97D:4.1;97E-97F:5.0;980-980:7.0;981-983:1.1;985-98C:1.1;98F-990:1.1;993-9A8:1.1;9AA-9B0:1.1;"
  ++ "9B2-9B2:1.1;9B6-9B9:1.1;9BC-9BC:1.1;9BD-9BD:4.0;9BE-9C4:1.1;9C7-9C8:1.1;9CB-9CD:1.1;9CE-9CE:4.1;9D7-9D7:1.1;9DC-9DD:1.1;9DF-9E3:1.1;9E6-9FA:1.1;9FB-9FB:5.2;9FC-9FD:10.0;9FE-9FE:11.0;A01-A01:4.0;A02-A02:1.1;A03-A03:4.0;A05-A0A:1.1;A0F-A10:1.1;A13-A28:1.1;A2A-A30:1.1;A32-A33:1.1;A35-A36:1.1;A38-A39:1.1;A3C-A3C:1.1;A3E-A42:1.1;A47-A48:1.1;A4B-A4D:1.1;A51-A51:5.1;A59-A5C:1.1;A5E-A5E:1.1;A66-A74:1.1;A7"
  ++ "5-A75:5.1;A76-A76:11.0;A81-A83:1.1;A85-A8B:1.1;A8C-A8C:4.0;A8D-A8D:1.1;A8F-A91:1.1;A93-AA8:1.1;AAA-AB0:1.1;AB2-AB3:1.1;AB5-AB9:1.1;ABC-AC5:1.1;AC7-AC9:1.1;ACB-ACD:1.1;AD0-AD0:1.1;AE0-AE0:1.1;AE1-AE3:4.0;AE6-AEF:1.1;AF0-AF0:6.1;AF1-AF1:4.0;AF9-AF9:8.0;AFA-AFF:10.0;B01-B03:1.1;B05-B0C:1.1;B0F-B10:1.1;B13-B28:1.1;B2A-B30:1.1;B32-B33:1.1;B35-B35:4.0;B36-B39:1.1;B3C-B43:1.1;B44-B44:5.1;B47-B48:1.1;B4B-"
  ++ "B4D:1.1;B55-B55:13.0;B56-B57:1.1;B5C-B5D:1.1;B5F-B61:1.1;B62-B63:5.1;B66-B70:1.1;B71-B71:4.0;B72-B77:6.0;B82-B83:1.1;B85-B8A:1.1;B8E-B90:1.1;B92-B95:1.1;B99-B9A:1.1;B9C-B9C:1.1;B9E-B9F:1.1;BA3-BA4:1.1;BA8-BAA:1.1;BAE-BB5:1.1;BB6-BB6:4.1;BB7-BB9:1.1;BBE-BC2:1.1;BC6-BC8:1.1;BCA-BCD:1.1;BD0-BD0:5.1;BD7-BD7:1.1;BE6-BE6:4.1;BE7-BF2:1.1;BF3-BFA:4.0;C00-C00:7.0;C01-C03:1.1;C04-C04:11.0;C05-C0C:1.1;C0E-C1"
  ++ "0:1.1;C12-C28:1.1;C2A-C33:1.1;C34-C34:7.0;C35-C39:1.1;C3C-C3C:14.0;C3D-C3D:5.1;C3E-C44:1.1;C46-C48:1.1;C4A-C4D:1.1;C55-C56:1.1;C58-C59:5.1;C5A-C5A:8.0;C5D-C5D:14.0;C60-C61:1.1;C62-C63:5.1;C66-C6F:1.1;C77-C77:12.0;C78-C7F:5.1;C80-C80:9.0;C81-C81:7.0;C82-C83:1.1;C84-C84:11.0;C85-C8C:1.1;C8E-C90:1.1;C92-CA8:1.1;CAA-CB3:1.1;CB5-CB9:1.1;CBC-CBD:4.0;CBE-CC4:1.1;CC6-CC8:1.1;CCA-CCD:1.1;CD5-CD6:1.1;CDD-CD"
  ++ "D:14.0;CDE-CDE:1.1;CE0-CE1:1.1;CE2-CE3:5.0;CE6-CEF:1.1;CF1-CF2:5.0;CF3-CF3:15.0;D00-D00:10.0;D01-D01:7.0;D02-D03:1.1;D04-D04:13.0;D05-D0C:1.1;D0E-D10:1.1;D12-D28:1.1;D29-D29:6.0;D2A-D39:1.1;D3A-D3A:6.0;D3B-D3C:10.0;D3D-D3D:5.1;D3E-D43:1.1;D44-D44:5.1;D46-D48:1.1;D4A-D4D:1.1;D4E-D4E:6.0;D4F-D4F:9.0;D54-D56:9.0;D57-D57:1.1;D58-D5E:9.0;D5F-D5F:8.0;D60-D61:1.1;D62-D63:5.1;D66-D6F:1.1;D70-D75:5.1;D76-D"
  ++ "78:9.0;D79-D7F:5.1;D81-D81:13.0;D82-D83:3.0;D85-D96:3.0;D9A-DB1:3.0;DB3-DBB:3.0;DBD-DBD:3.0;DC0-DC6:3.0;DCA-DCA:3.0;DCF-DD4:3.0;DD6-DD6:3.0;DD8-DDF:3.0;DE6-DEF:7.0;DF2-DF4:3.0;E01-E3A:1.1;E3F-E5B:1.1;E81-E82:1.1;E84-E84:1.1;E86-E86:12.0;E87-E88:1.1;E89-E89:12.0;E8A-E8A:1.1;E8C-E8C:12.0;E8D-E8D:1.1;E8E-E93:12.0;E94-E97:1.1;E98-E98:12.0;E99-E9F:1.1;EA0-EA0:12.0;EA1-EA3:1.1;EA5-EA5:1.1;EA7-EA7:1.1;EA"
  ++ "8-EA9:12.0;EAA-EAB:1.1;EAC-EAC:12.0;EAD-EB9:1.1;EBA-EBA:12.0;EBB-EBD:1.1;EC0-EC4:1.1;EC6-EC6:1.1;EC8-ECD:1.1;ECE-ECE:15.0;ED0-ED9:1.1;EDC-EDD:1.1;EDE-EDF:6.1;F00-F47:2.0;F49-F69:2.0;F6A-F6A:3.0;F6B-F6C:5.1;F71-F8B:2.0;F8C-F8F:6.0;F90-F95:2.0;F96-F96:3.0;F97-F97:2.0;F99-FAD:2.0;FAE-FB0:3.0;FB1-FB7:2.0;FB8-FB8:3.0;FB9-FB9:2.0;FBA-FBC:3.0;FBE-FCC:3.0;FCE-FCE:5.1;FCF-FCF:3.0;FD0-FD1:4.1;FD2-FD4:5.1;FD"
  ++ "5-FD8:5.2;FD9-FDA:6.0;1000-1021:3.0;1022-1022:5.1;1023-1027:3.0;1028-1028:5.1;1029-102A:3.0;102B-102B:5.1;102C-1032:3.0;1033-1035:5.1;1036-1039:3.0;103A-103F:5.1;1040-1059:3.0;105A-1099:5.1;109A-109D:5.2;109E-109F:5.1;10A0-10C5:1.1;10C7-10C7:6.1;10CD-10CD:6.1;10D0-10F6:1.1;10F7-10F8:3.2;10F9-10FA:4.1;10FB-10FB:1.1;10FC-10FC:4.1;10FD-10FF:6.1;1100-1159:1.1;115A-115E:5.2;115F-11A2:1.1;11A3-11A7:5.2;"
  ++ "11A8-11F9:1.1;11FA-11FF:5.2;1200-1206:3.0;1207-1207:4.1;1208-1246:3.0;1247-1247:4.1;1248-1248:3.0;124A-124D:3.0;1250-1256:3.0;1258-1258:3.0;125A-125D:3.0;1260-1286:3.0;1287-1287:4.1;1288-1288:3.0;128A-128D:3.0;1290-12AE:3.0;12AF-12AF:4.1;12B0-12B0:3.0;12B2-12B5:3.0;12B8-12BE:3.0;12C0-12C0:3.0;12C2-12C5:3.0;12C8-12CE:3.0;12CF-12CF:4.1;12D0-12D6:3.0;12D8-12EE:3.0;12EF-12EF:4.1;12F0-130E:3.0;130F-130"
  ++ "F:4.1;1310-1310:3.0;1312-1315:3.0;1318-131E:3.0;131F-131F:4.1;1320-1346:3.0;1347-1347:4.1;1348-135A:3.0;135D-135E:6.0;135F-1360:4.1;1361-137C:3.0;1380-1399:4.1;13A0-13F4:3.0;13F5-13F5:8.0;13F8-13FD:8.0;1400-1400:5.2;1401-1676:3.0;1677-167F:5.2;1680-169C:3.0;16A0-16F0:3.0;16F1-16F8:7.0;1700-170C:3.2;170D-170D:14.0;170E-1714:3.2;1715-1715:14.0;171F-171F:14.0;1720-1736:3.2;1740-1753:3.2;1760-176C:3.2"
  ++ ";176E-1770:3.2;1772-1773:3.2;1780-17DC:3.0;17DD-17DD:4.0;17E0-17E9:3.0;17F0-17F9:4.0;1800-180E:3.0;180F-180F:14.0;1810-1819:3.0;1820-1877:3.0;1878-1878:11.0;1880-18A9:3.0;18AA-18AA:5.1;18B0-18F5:5.2;1900-191C:4.0;191D-191E:7.0;1920-192B:4.0;1930-193B:4.0;1940-1940:4.0;1944-196D:4.0;1970-1974:4.0;1980-19A9:4.1;19AA-19AB:5.2;19B0-19C9:4.1;19D0-19D9:4.1;19DA-19DA:5.2;19DE-19DF:4.1;19E0-19FF:4.0;1A00-"
  ++ "1A1B:4.1;1A1E-1A1F:4.1;1A20-1A5E:5.2;1A60-1A7C:5.2;1A7F-1A89:5.2;1A90-1A99:5.2;1AA0-1AAD:5.2;1AB0-1ABE:7.0;1ABF-1AC0:13.0;1AC1-1ACE:14.0;1B00-1B4B:5.0;1B4C-1B4C:14.0;1B4E-1B4F:16.0;1B50-1B7C:5.0;1B7D-1B7E:14.0;1B7F-1B7F:16.0;1B80-1BAA:5.1;1BAB-1BAD:6.1;1BAE-1BB9:5.1;1BBA-1BBF:6.1;1BC0-1BF3:6.0;1BFC-1BFF:6.0;1C00-1C37:5.1;1C3B-1C49:5.1;1C4D-1C7F:5.1;1C80-1C88:9.0;1C89-1C8A:16.0;1C90-1CBA:11.0;1CBD-"
  ++ "1CBF:11.0;1CC0-1CC7:6.1;1CD0-1CF2:5.2;1CF3-1CF6:6.1;1CF7-1CF7:10.0;1CF8-1CF9:7.0;1CFA-1CFA:12.0;1D00-1D6B:4.0;1D6C-1DC3:4.1;1DC4-1DCA:5.0;1DCB-1DE6:5.1;1DE7-1DF5:7.0;1DF6-1DF9:10.0;1DFA-1DFA:14.0;1DFB-1DFB:9.0;1DFC-1DFC:6.0;1DFD-1DFD:5.2;1DFE-1DFF:5.0;1E00-1E9A:1.1;1E9B-1E9B:2.0;1E9C-1E9F:5.1;1EA0-1EF9:1.1;1EFA-1EFF:5.1;1F00-1F15:1.1;1F18-1F1D:1.1;1F20-1F45:1.1;1F48-1F4D:1.1;1F50-1F57:1.1;1F59-1F5"
  ++ "9:1.1;1F5B-1F5B:1.1;1F5D-1F5D:1.1;1F5F-1F7D:1.1;1F80-1FB4:1.1;1FB6-1FC4:1.1;1FC6-1FD3:1.1;1FD6-1FDB:1.1;1FDD-1FEF:1.1;1FF2-1FF4:1.1;1FF6-1FFE:1.1;2000-202E:1.1;202F-202F:3.0;2030-2046:1.1;2047-2047:3.2;2048-204D:3.0;204E-2052:3.2;2053-2054:4.0;2055-2056:4.1;2057-2057:3.2;2058-205E:4.1;205F-2063:3.2;2064-2064:5.1;2066-2069:6.3;206A-2070:1.1;2071-2071:3.2;2074-208E:1.1;2090-2094:4.1;2095-209C:6.0;20"
  ++ "A0-20AA:1.1;20AB-20AB:2.0;20AC-20AC:2.1;20AD-20AF:3.0;20B0-20B1:3.2;20B2-20B5:4.1;20B6-20B8:5.2;20B9-20B9:6.0;20BA-20BA:6.2;20BB-20BD:7.0;20BE-20BE:8.0;20BF-20BF:10.0;20C0-20C0:14.0;20D0-20E1:1.1;20E2-20E3:3.0;20E4-20EA:3.2;20EB-20EB:4.1;20EC-20EF:5.0;20F0-20F0:5.1;2100-2138:1.1;2139-213A:3.0;213B-213B:4.0;213C-213C:4.1;213D-214B:3.2;214C-214C:4.1;214D-214E:5.0;214F-214F:5.1;2150-2152:5.2;2153-218"
  ++ "2:1.1;2183-2183:3.0;2184-2184:5.0;2185-2188:5.1;2189-2189:5.2;218A-218B:8.0;2190-21EA:1.1;21EB-21F3:3.0;21F4-21FF:3.2;2200-22F1:1.1;22F2-22FF:3.2;2300-2300:1.1;2301-2301:3.0;2302-237A:1.1;237B-237B:3.0;237C-237C:3.2;237D-239A:3.0;239B-23CE:3.2;23CF-23D0:4.0;23D1-23DB:4.1;23DC-23E7:5.0;23E8-23E8:5.2;23E9-23F3:6.0;23F4-23FA:7.0;23FB-23FE:9.0;23FF-23FF:10.0;2400-2424:1.1;2425-2426:3.0;2427-2429:16.0;"
  ++ "2440-244A:1.1;2460-24EA:1.1;24EB-24FE:3.2;24FF-24FF:4.0;2500-2595:1.1;2596-259F:3.2;25A0-25EF:1.1;25F0-25F7:3.0;25F8-25FF:3.2;2600-2613:1.1;2614-2615:4.0;2616-2617:3.2;2618-2618:4.1;2619-2619:3.0;261A-266F:1.1;2670-2671:3.0;2672-267D:3.2;267E-267F:4.1;2680-2689:3.2;268A-2691:4.0;2692-269C:4.1;269D-269D:5.1;269E-269F:5.2;26A0-26A1:4.0;26A2-26B1:4.1;26B2-26B2:5.0;26B3-26BC:5.1;26BD-26BF:5.2;26C0-26C"
  ++ "3:5.1;26C4-26CD:5.2;26CE-26CE:6.0;26CF-26E1:5.2;26E2-26E2:6.0;26E3-26E3:5.2;26E4-26E7:6.0;26E8-26FF:5.2;2700-2700:7.0;2701-2704:1.1;2705-2705:6.0;2706-2709:1.1;270A-270B:6.0;270C-2727:1.1;2728-2728:6.0;2729-274B:1.1;274C-274C:6.0;274D-274D:1.1;274E-274E:6.0;274F-2752:1.1;2753-2755:6.0;2756-2756:1.1;2757-2757:5.2;2758-275E:1.1;275F-2760:6.0;2761-2767:1.1;2768-2775:3.2;2776-2794:1.1;2795-2797:6.0;27"
  ++ "98-27AF:1.1;27B0-27B0:6.0;27B1-27BE:1.1;27BF-27BF:6.0;27C0-27C6:4.1;27C7-27CA:5.0;27CB-27CB:6.1;27CC-27CC:5.1;27CD-27CD:6.1;27CE-27CF:6.0;27D0-27EB:3.2;27EC-27EF:5.1;27F0-27FF:3.2;2800-28FF:3.0;2900-2AFF:3.2;2B00-2B0D:4.0;2B0E-2B13:4.1;2B14-2B1A:5.0;2B1B-2B1F:5.1;2B20-2B23:5.0;2B24-2B4C:5.1;2B4D-2B4F:7.0;2B50-2B54:5.1;2B55-2B59:5.2;2B5A-2B73:7.0;2B76-2B95:7.0;2B97-2B97:13.0;2B98-2BB9:7.0;2BBA-2BBC"
  ++ ":11.0;2BBD-2BC8:7.0;2BC9-2BC9:12.0;2BCA-2BD1:7.0;2BD2-2BD2:10.0;2BD3-2BEB:11.0;2BEC-2BEF:8.0;2BF0-2BFE:11.0;2BFF-2BFF:12.0;2C00-2C2E:4.1;2C2F-2C2F:14.0;2C30-2C5E:4.1;2C5F-2C5F:14.0;2C60-2C6C:5.0;2C6D-2C6F:5.1;2C70-2C70:5.2;2C71-2C73:5.1;2C74-2C77:5.0;2C78-2C7D:5.1;2C7E-2C7F:5.2;2C80-2CEA:4.1;2CEB-2CF1:5.2;2CF2-2CF3:6.1;2CF9-2D25:4.1;2D27-2D27:6.1;2D2D-2D2D:6.1;2D30-2D65:4.1;2D66-2D67:6.1;2D6F-2D6F"
  ++ ":4.1;2D70-2D70:6.0;2D7F-2D7F:6.0;2D80-2D96:4.1;2DA0-2DA6:4.1;2DA8-2DAE:4.1;2DB0-2DB6:4.1;2DB8-2DBE:4.1;2DC0-2DC6:4.1;2DC8-2DCE:4.1;2DD0-2DD6:4.1;2DD8-2DDE:4.1;2DE0-2DFF:5.1;2E00-2E17:4.1;2E18-2E1B:5.1;2E1C-2E1D:4.1;2E1E-2E30:5.1;2E31-2E31:5.2;2E32-2E3B:6.1;2E3C-2E42:7.0;2E43-2E44:9.0;2E45-2E49:10.0;2E4A-2E4E:11.0;2E4F-2E4F:12.0;2E50-2E52:13.0;2E53-2E5D:14.0;2E80-2E99:3.0;2E9B-2EF3:3.0;2F00-2FD5:3."
  ++ "0;2FF0-2FFB:3.0;2FFC-2FFF:15.1;3000-3037:1.1;3038-303A:3.0;303B-303D:3.2;303E-303E:3.0;303F-303F:1.1;3041-3094:1.1;3095-3096:3.2;3099-309E:1.1;309F-30A0:3.2;30A1-30FE:1.1;30FF-30FF:3.2;3105-312C:1.1;312D-312D:5.1;312E-312E:10.0;312F-312F:11.0;3131-318E:1.1;3190-319F:1.1;31A0-31B7:3.0;31B8-31BA:6.0;31BB-31BF:13.0;31C0-31CF:4.1;31D0-31E3:5.1;31E4-31E5:16.0;31EF-31EF:15.1;31F0-31FF:3.2;3200-321C:1.1;"
  ++ "321D-321E:4.0;3220-3243:1.1;3244-324F:5.2;3250-3250:4.0;3251-325F:3.2;3260-327B:1.1;327C-327D:4.0;327E-327E:4.1;327F-32B0:1.1;32B1-32BF:3.2;32C0-32CB:1.1;32CC-32CF:4.0;32D0-32FE:1.1;32FF-32FF:12.1;3300-3376:1.1;3377-337A:4.0;337B-33DD:1.1;33DE-33DF:4.0;33E0-33FE:1.1;33FF-33FF:4.0;3400-4DB5:3.0;4DB6-4DBF:13.0;4DC0-4DFF:4.0;4E00-9FA5:1.1;9FA6-9FBB:4.1;9FBC-9FC3:5.1;9FC4-9FCB:5.2;9FCC-9FCC:6.1;9FCD-9"
  ++ "FD5:8.0;9FD6-9FEA:10.0;9FEB-9FEF:11.0;9FF0-9FFC:13.0;9FFD-9FFF:14.0;A000-A48C:3.0;A490-A4A1:3.0;A4A2-A4A3:3.2;A4A4-A4B3:3.0;A4B4-A4B4:3.2;A4B5-A4C0:3.0;A4C1-A4C1:3.2;A4C2-A4C4:3.0;A4C5-A4C5:3.2;A4C6-A4C6:3.0;A4D0-A4FF:5.2;A500-A62B:5.1;A640-A65F:5.1;A660-A661:6.0;A662-A673:5.1;A674-A67B:6.1;A67C-A697:5.1;A698-A69D:7.0;A69E-A69E:8.0;A69F-A69F:6.1;A6A0-A6F7:5.2;A700-A716:4.1;A717-A71A:5.0;A71B-A71F:"
  ++ "5.1;A720-A721:5.0;A722-A78C:5.1;A78D-A78E:6.0;A78F-A78F:8.0;A790-A791:6.0;A792-A793:6.1;A794-A79F:7.0;A7A0-A7A9:6.0;A7AA-A7AA:6.1;A7AB-A7AD:7.0;A7AE-A7AE:9.0;A7AF-A7AF:11.0;A7B0-A7B1:7.0;A7B2-A7B7:8.0;A7B8-A7B9:11.0;A7BA-A7BF:12.0;A7C0-A7C1:14.0;A7C2-A7C6:12.0;A7C7-A7CA:13.0;A7CB-A7CD:16.0;A7D0-A7D1:14.0;A7D3-A7D3:14.0;A7D5-A7D9:14.0;A7DA-A7DC:16.0;A7F2-A7F4:14.0;A7F5-A7F6:13.0;A7F7-A7F7:7.0;A7F8-"
  ++ "A7F9:6.1;A7FA-A7FA:6.0;A7FB-A7FF:5.1;A800-A82B:4.1;A82C-A82C:13.0;A830-A839:5.2;A840-A877:5.0;A880-A8C4:5.1;A8C5-A8C5:9.0;A8CE-A8D9:5.1;A8E0-A8FB:5.2;A8FC-A8FD:8.0;A8FE-A8FF:11.0;A900-A953:5.1;A95F-A95F:5.1;A960-A97C:5.2;A980-A9CD:5.2;A9CF-A9D9:5.2;A9DE-A9DF:5.2;A9E0-A9FE:7.0;AA00-AA36:5.1;AA40-AA4D:5.1;AA50-AA59:5.1;AA5C-AA5F:5.1;AA60-AA7B:5.2;AA7C-AA7F:7.0;AA80-AAC2:5.2;AADB-AADF:5.2;AAE0-AAF6:6"
  ++ ".1;AB01-AB06:6.0;AB09-AB0E:6.0;AB11-AB16:6.0;AB20-AB26:6.0;AB28-AB2E:6.0;AB30-AB5F:7.0;AB60-AB63:8.0;AB64-AB65:7.0;AB66-AB67:12.0;AB68-AB6B:13.0;AB70-ABBF:8.0;ABC0-ABED:5.2;ABF0-ABF9:5.2;AC00-D7A3:2.0;D7B0-D7C6:5.2;D7CB-D7FB:5.2;D800-DFFF:2.0;E000-FA2D:1.1;FA2E-FA2F:6.1;FA30-FA6A:3.2;FA6B-FA6D:5.2;FA70-FAD9:4.1;FB00-FB06:1.1;FB13-FB17:1.1;FB1D-FB1D:3.0;FB1E-FB36:1.1;FB38-FB3C:1.1;FB3E-FB3E:1.1;FB4"
  ++ "0-FB41:1.1;FB43-FB44:1.1;FB46-FBB1:1.1;FBB2-FBC1:6.0;FBC2-FBC2:14.0;FBD3-FD3F:1.1;FD40-FD4F:14.0;FD50-FD8F:1.1;FD92-FDC7:1.1;FDCF-FDCF:14.0;FDD0-FDEF:3.1;FDF0-FDFB:1.1;FDFC-FDFC:3.2;FDFD-FDFD:4.0;FDFE-FDFF:14.0;FE00-FE0F:3.2;FE10-FE19:4.1;FE20-FE23:1.1;FE24-FE26:5.1;FE27-FE2D:7.0;FE2E-FE2F:8.0;FE30-FE44:1.1;FE45-FE46:3.2;FE47-FE48:4.0;FE49-FE52:1.1;FE54-FE66:1.1;FE68-FE6B:1.1;FE70-FE72:1.1;FE73-FE"
  ++ "73:3.2;FE74-FE74:1.1;FE76-FEFC:1.1;FEFF-FEFF:1.1;FF01-FF5E:1.1;FF5F-FF60:3.2;FF61-FFBE:1.1;FFC2-FFC7:1.1;FFCA-FFCF:1.1;FFD2-FFD7:1.1;FFDA-FFDC:1.1;FFE0-FFE6:1.1;FFE8-FFEE:1.1;FFF9-FFFB:3.0;FFFC-FFFC:2.1;FFFD-FFFF:1.1;10000-1000B:4.0;1000D-10026:4.0;10028-1003A:4.0;1003C-1003D:4.0;1003F-1004D:4.0;10050-1005D:4.0;10080-100FA:4.0;10100-10102:4.0;10107-10133:4.0;10137-1013F:4.0;10140-1018A:4.1;1018B-1"
  ++ "018C:7.0;1018D-1018E:9.0;10190-1019B:5.1;1019C-1019C:13.0;101A0-101A0:7.0;101D0-101FD:5.1;10280-1029C:5.1;102A0-102D0:5.1;102E0-102FB:7.0;10300-1031E:3.1;1031F-1031F:7.0;10320-10323:3.1;1032D-1032F:10.0;10330-1034A:3.1;10350-1037A:7.0;10380-1039D:4.0;1039F-1039F:4.0;103A0-103C3:4.1;103C8-103D5:4.1;10400-10425:3.1;10426-10427:4.0;10428-1044D:3.1;1044E-1049D:4.0;104A0-104A9:4.0;104B0-104D3:9.0;104D8"
  ++ "-104FB:9.0;10500-10527:7.0;10530-10563:7.0;1056F-1056F:7.0;10570-1057A:14.0;1057C-1058A:14.0;1058C-10592:14.0;10594-10595:14.0;10597-105A1:14.0;105A3-105B1:14.0;105B3-105B9:14.0;105BB-105BC:14.0;105C0-105F3:16.0;10600-10736:7.0;10740-10755:7.0;10760-10767:7.0;10780-10785:14.0;10787-107B0:14.0;107B2-107BA:14.0;10800-10805:4.0;10808-10808:4.0;1080A-10835:4.0;10837-10838:4.0;1083C-1083C:4.0;1083F-108"
  ++ "3F:4.0;10840-10855:5.2;10857-1085F:5.2;10860-1089E:7.0;108A7-108AF:7.0;108E0-108F2:8.0;108F4-108F5:8.0;108FB-108FF:8.0;10900-10919:5.0;1091A-1091B:5.2;1091F-1091F:5.0;10920-10939:5.1;1093F-1093F:5.1;10980-109B7:6.1;109BC-109BD:8.0;109BE-109BF:6.1;109C0-109CF:8.0;109D2-109FF:8.0;10A00-10A03:4.1;10A05-10A06:4.1;10A0C-10A13:4.1;10A15-10A17:4.1;10A19-10A33:4.1;10A34-10A35:11.0;10A38-10A3A:4.1;10A3F-10"
  ++ "A47:4.1;10A48-10A48:11.0;10A50-10A58:4.1;10A60-10A7F:5.2;10A80-10A9F:7.0;10AC0-10AE6:7.0;10AEB-10AF6:7.0;10B00-10B35:5.2;10B39-10B55:5.2;10B58-10B72:5.2;10B78-10B7F:5.2;10B80-10B91:7.0;10B99-10B9C:7.0;10BA9-10BAF:7.0;10C00-10C48:5.2;10C80-10CB2:8.0;10CC0-10CF2:8.0;10CFA-10CFF:8.0;10D00-10D27:11.0;10D30-10D39:11.0;10D40-10D65:16.0;10D69-10D85:16.0;10D8E-10D8F:16.0;10E60-10E7E:5.2;10E80-10EA9:13.0;1"
  ++ "0EAB-10EAD:13.0;10EB0-10EB1:13.0;10EC2-10EC4:16.0;10EFC-10EFC:16.0;10EFD-10EFF:15.0;10F00-10F27:11.0;10F30-10F59:11.0;10F70-10F89:14.0;10FB0-10FCB:13.0;10FE0-10FF6:12.0;11000-1104D:6.0;11052-1106F:6.0;11070-11075:14.0;1107F-1107F:7.0;11080-110C1:5.2;110C2-110C2:14.0;110CD-110CD:11.0;110D0-110E8:6.1;110F0-110F9:6.1;11100-11134:6.1;11136-11143:6.1;11144-11146:11.0;11147-11147:13.0;11150-11176:7.0;11"
  ++ "180-111C8:6.1;111C9-111CC:8.0;111CD-111CD:7.0;111CE-111CF:13.0;111D0-111D9:6.1;111DA-111DA:7.0;111DB-111DF:8.0;111E1-111F4:7.0;11200-11211:7.0;11213-1123D:7.0;1123E-1123E:9.0;1123F-11241:15.0;11280-11286:8.0;11288-11288:8.0;1128A-1128D:8.0;1128F-1129D:8.0;1129F-112A9:8.0;112B0-112EA:7.0;112F0-112F9:7.0;11300-11300:8.0;11301-11303:7.0;11305-1130C:7.0;1130F-11310:7.0;11313-11328:7.0;1132A-11330:7.0;"
  ++ "11332-11333:7.0;11335-11339:7.0;1133B-1133B:11.0;1133C-11344:7.0;11347-11348:7.0;1134B-1134D:7.0;11350-11350:8.0;11357-11357:7.0;1135D-11363:7.0;11366-1136C:7.0;11370-11374:7.0;11380-11389:16.0;1138B-1138B:16.0;1138E-1138E:16.0;11390-113B5:16.0;113B7-113C0:16.0;113C2-113C2:16.0;113C5-113C5:16.0;113C7-113CA:16.0;113CC-113D5:16.0;113D7-113D8:16.0;113E1-113E2:16.0;11400-11459:9.0;1145A-1145A:13.0;114"
  ++ "5B-1145B:9.0;1145D-1145D:9.0;1145E-1145E:11.0;1145F-1145F:12.0;11460-11461:13.0;11480-114C7:7.0;114D0-114D9:7.0;11580-115B5:7.0;115B8-115C9:7.0;115CA-115DD:8.0;11600-11644:7.0;11650-11659:7.0;11660-1166C:9.0;11680-116B7:6.1;116B8-116B8:12.0;116B9-116B9:14.0;116C0-116C9:6.1;116D0-116E3:16.0;11700-11719:8.0;1171A-1171A:11.0;1171D-1172B:8.0;11730-1173F:8.0;11740-11746:14.0;11800-1183B:11.0;118A0-118F"
  ++ "2:7.0;118FF-118FF:7.0;11900-11906:13.0;11909-11909:13.0;1190C-11913:13.0;11915-11916:13.0;11918-11935:13.0;11937-11938:13.0;1193B-11946:13.0;11950-11959:13.0;119A0-119A7:12.0;119AA-119D7:12.0;119DA-119E4:12.0;11A00-11A47:10.0;11A50-11A83:10.0;11A84-11A85:12.0;11A86-11A9C:10.0;11A9D-11A9D:11.0;11A9E-11AA2:10.0;11AB0-11ABF:14.0;11AC0-11AF8:7.0;11B00-11B09:15.0;11BC0-11BE1:16.0;11BF0-11BF9:16.0;11C00"
  ++ "-11C08:9.0;11C0A-11C36:9.0;11C38-11C45:9.0;11C50-11C6C:9.0;11C70-11C8F:9.0;11C92-11CA7:9.0;11CA9-11CB6:9.0;11D00-11D06:10.0;11D08-11D09:10.0;11D0B-11D36:10.0;11D3A-11D3A:10.0;11D3C-11D3D:10.0;11D3F-11D47:10.0;11D50-11D59:10.0;11D60-11D65:11.0;11D67-11D68:11.0;11D6A-11D8E:11.0;11D90-11D91:11.0;11D93-11D98:11.0;11DA0-11DA9:11.0;11EE0-11EF8:11.0;11F00-11F10:15.0;11F12-11F3A:15.0;11F3E-11F59:15.0;11FB"
  ++ "0-11FB0:13.0;11FC0-11FF1:12.0;11FFF-11FFF:12.0;12000-1236E:5.0;1236F-12398:7.0;12399-12399:8.0;12400-12462:5.0;12463-1246E:7.0;12470-12473:5.0;12474-12474:7.0;12480-12543:8.0;12F90-12FF2:14.0;13000-1342E:5.2;1342F-1342F:15.0;13430-13438:12.0;13439-13455:15.0;13460-143FA:16.0;14400-14646:8.0;16100-16139:16.0;16800-16A38:6.0;16A40-16A5E:7.0;16A60-16A69:7.0;16A6E-16A6F:7.0;16A70-16ABE:14.0;16AC0-16AC"
  ++ "9:14.0;16AD0-16AED:7.0;16AF0-16AF5:7.0;16B00-16B45:7.0;16B50-16B59:7.0;16B5B-16B61:7.0;16B63-16B77:7.0;16B7D-16B8F:7.0;16D40-16D79:16.0;16E40-16E9A:11.0;16F00-16F44:6.1;16F45-16F4A:12.0;16F4F-16F4F:12.0;16F50-16F7E:6.1;16F7F-16F87:12.0;16F8F-16F9F:6.1;16FE0-16FE0:9.0;16FE1-16FE1:10.0;16FE2-16FE3:12.0;16FE4-16FE4:13.0;16FF0-16FF1:13.0;17000-187EC:9.0;187ED-187F1:11.0;187F2-187F7:12.0;18800-18AF2:9."
  ++ "0;18AF3-18CD5:13.0;18CFF-18CFF:16.0;18D00-18D08:13.0;1AFF0-1AFF3:14.0;1AFF5-1AFFB:14.0;1AFFD-1AFFE:14.0;1B000-1B001:6.0;1B002-1B11E:10.0;1B11F-1B122:14.0;1B132-1B132:15.0;1B150-1B152:12.0;1B155-1B155:15.0;1B164-1B167:12.0;1B170-1B2FB:10.0;1BC00-1BC6A:7.0;1BC70-1BC7C:7.0;1BC80-1BC88:7.0;1BC90-1BC99:7.0;1BC9C-1BCA3:7.0;1CC00-1CCF9:16.0;1CD00-1CEB3:16.0;1CF00-1CF2D:14.0;1CF30-1CF46:14.0;1CF50-1CFC3:1"
  ++ "4.0;1D000-1D0F5:3.1;1D100-1D126:3.1;1D129-1D129:5.1;1D12A-1D1DD:3.1;1D1DE-1D1E8:8.0;1D1E9-1D1EA:14.0;1D200-1D245:4.1;1D2C0-1D2D3:15.0;1D2E0-1D2F3:11.0;1D300-1D356:4.0;1D360-1D371:5.0;1D372-1D378:11.0;1D400-1D454:3.1;1D456-1D49C:3.1;1D49E-1D49F:3.1;1D4A2-1D4A2:3.1;1D4A5-1D4A6:3.1;1D4A9-1D4AC:3.1;1D4AE-1D4B9:3.1;1D4BB-1D4BB:3.1;1D4BD-1D4C0:3.1;1D4C1-1D4C1:4.0;1D4C2-1D4C3:3.1;1D4C5-1D505:3.1;1D507-1D"
  ++ "50A:3.1;1D50D-1D514:3.1;1D516-1D51C:3.1;1D51E-1D539:3.1;1D53B-1D53E:3.1;1D540-1D544:3.1;1D546-1D546:3.1;1D54A-1D550:3.1;1D552-1D6A3:3.1;1D6A4-1D6A5:4.1;1D6A8-1D7C9:3.1;1D7CA-1D7CB:5.0;1D7CE-1D7FF:3.1;1D800-1DA8B:8.0;1DA9B-1DA9F:8.0;1DAA1-1DAAF:8.0;1DF00-1DF1E:14.0;1DF25-1DF2A:15.0;1E000-1E006:9.0;1E008-1E018:9.0;1E01B-1E021:9.0;1E023-1E024:9.0;1E026-1E02A:9.0;1E030-1E06D:15.0;1E08F-1E08F:15.0;1E10"
  ++ "0-1E12C:12.0;1E130-1E13D:12.0;1E140-1E149:12.0;1E14E-1E14F:12.0;1E290-1E2AE:14.0;1E2C0-1E2F9:12.0;1E2FF-1E2FF:12.0;1E4D0-1E4F9:15.0;1E5D0-1E5FA:16.0;1E5FF-1E5FF:16.0;1E7E0-1E7E6:14.0;1E7E8-1E7EB:14.0;1E7ED-1E7EE:14.0;1E7F0-1E7FE:14.0;1E800-1E8C4:7.0;1E8C7-1E8D6:7.0;1E900-1E94A:9.0;1E94B-1E94B:12.0;1E950-1E959:9.0;1E95E-1E95F:9.0;1EC71-1ECB4:11.0;1ED01-1ED3D:12.0;1EE00-1EE03:6.1;1EE05-1EE1F:6.1;1EE"
  ++ "21-1EE22:6.1;1EE24-1EE24:6.1;1EE27-1EE27:6.1;1EE29-1EE32:6.1;1EE34-1EE37:6.1;1EE39-1EE39:6.1;1EE3B-1EE3B:6.1;1EE42-1EE42:6.1;1EE47-1EE47:6.1;1EE49-1EE49:6.1;1EE4B-1EE4B:6.1;1EE4D-1EE4F:6.1;1EE51-1EE52:6.1;1EE54-1EE54:6.1;1EE57-1EE57:6.1;1EE59-1EE59:6.1;1EE5B-1EE5B:6.1;1EE5D-1EE5D:6.1;1EE5F-1EE5F:6.1;1EE61-1EE62:6.1;1EE64-1EE64:6.1;1EE67-1EE6A:6.1;1EE6C-1EE72:6.1;1EE74-1EE77:6.1;1EE79-1EE7C:6.1;1EE"
  ++ "7E-1EE7E:6.1;1EE80-1EE89:6.1;1EE8B-1EE9B:6.1;1EEA1-1EEA3:6.1;1EEA5-1EEA9:6.1;1EEAB-1EEBB:6.1;1EEF0-1EEF1:6.1;1F000-1F02B:5.1;1F030-1F093:5.1;1F0A0-1F0AE:6.0;1F0B1-1F0BE:6.0;1F0BF-1F0BF:7.0;1F0C1-1F0CF:6.0;1F0D1-1F0DF:6.0;1F0E0-1F0F5:7.0;1F100-1F10A:5.2;1F10B-1F10C:7.0;1F10D-1F10F:13.0;1F110-1F12E:5.2;1F12F-1F12F:11.0;1F130-1F130:6.0;1F131-1F131:5.2;1F132-1F13C:6.0;1F13D-1F13D:5.2;1F13E-1F13E:6.0;1"
  ++ "F13F-1F13F:5.2;1F140-1F141:6.0;1F142-1F142:5.2;1F143-1F145:6.0;1F146-1F146:5.2;1F147-1F149:6.0;1F14A-1F14E:5.2;1F14F-1F156:6.0;1F157-1F157:5.2;1F158-1F15E:6.0;1F15F-1F15F:5.2;1F160-1F169:6.0;1F16A-1F16B:6.1;1F16C-1F16C:12.0;1F16D-1F16F:13.0;1F170-1F178:6.0;1F179-1F179:5.2;1F17A-1F17A:6.0;1F17B-1F17C:5.2;1F17D-1F17E:6.0;1F17F-1F17F:5.2;1F180-1F189:6.0;1F18A-1F18D:5.2;1F18E-1F18F:6.0;1F190-1F190:5.2"
  ++ ";1F191-1F19A:6.0;1F19B-1F1AC:9.0;1F1AD-1F1AD:13.0;1F1E6-1F1FF:6.0;1F200-1F200:5.2;1F201-1F202:6.0;1F210-1F231:5.2;1F232-1F23A:6.0;1F23B-1F23B:9.0;1F240-1F248:5.2;1F250-1F251:6.0;1F260-1F265:10.0;1F300-1F320:6.0;1F321-1F32C:7.0;1F32D-1F32F:8.0;1F330-1F335:6.0;1F336-1F336:7.0;1F337-1F37C:6.0;1F37D-1F37D:7.0;1F37E-1F37F:8.0;1F380-1F393:6.0;1F394-1F39F:7.0;1F3A0-1F3C4:6.0;1F3C5-1F3C5:7.0;1F3C6-1F3CA:6"
  ++ ".0;1F3CB-1F3CE:7.0;1F3CF-1F3D3:8.0;1F3D4-1F3DF:7.0;1F3E0-1F3F0:6.0;1F3F1-1F3F7:7.0;1F3F8-1F3FF:8.0;1F400-1F43E:6.0;1F43F-1F43F:7.0;1F440-1F440:6.0;1F441-1F441:7.0;1F442-1F4F7:6.0;1F4F8-1F4F8:7.0;1F4F9-1F4FC:6.0;1F4FD-1F4FE:7.0;1F4FF-1F4FF:8.0;1F500-1F53D:6.0;1F53E-1F53F:7.0;1F540-1F543:6.1;1F544-1F54A:7.0;1F54B-1F54F:8.0;1F550-1F567:6.0;1F568-1F579:7.0;1F57A-1F57A:9.0;1F57B-1F5A3:7.0;1F5A4-1F5A4:9"
  ++ ".0;1F5A5-1F5FA:7.0;1F5FB-1F5FF:6.0;1F600-1F600:6.1;1F601-1F610:6.0;1F611-1F611:6.1;1F612-1F614:6.0;1F615-1F615:6.1;1F616-1F616:6.0;1F617-1F617:6.1;1F618-1F618:6.0;1F619-1F619:6.1;1F61A-1F61A:6.0;1F61B-1F61B:6.1;1F61C-1F61E:6.0;1F61F-1F61F:6.1;1F620-1F625:6.0;1F626-1F627:6.1;1F628-1F62B:6.0;1F62C-1F62C:6.1;1F62D-1F62D:6.0;1F62E-1F62F:6.1;1F630-1F633:6.0;1F634-1F634:6.1;1F635-1F640:6.0;1F641-1F642:7"
  ++ ".0;1F643-1F644:8.0;1F645-1F64F:6.0;1F650-1F67F:7.0;1F680-1F6C5:6.0;1F6C6-1F6CF:7.0;1F6D0-1F6D0:8.0;1F6D1-1F6D2:9.0;1F6D3-1F6D4:10.0;1F6D5-1F6D5:12.0;1F6D6-1F6D7:13.0;1F6DC-1F6DC:15.0;1F6DD-1F6DF:14.0;1F6E0-1F6EC:7.0;1F6F0-1F6F3:7.0;1F6F4-1F6F6:9.0;1F6F7-1F6F8:10.0;1F6F9-1F6F9:11.0;1F6FA-1F6FA:12.0;1F6FB-1F6FC:13.0;1F700-1F773:6.0;1F774-1F776:15.0;1F77B-1F77F:15.0;1F780-1F7D4:7.0;1F7D5-1F7D8:11.0;1"
  ++ "F7D9-1F7D9:15.0;1F7E0-1F7EB:12.0;1F7F0-1F7F0:14.0;1F800-1F80B:7.0;1F810-1F847:7.0;1F850-1F859:7.0;1F860-1F887:7.0;1F890-1F8AD:7.0;1F8B0-1F8B1:13.0;1F8B2-1F8BB:16.0;1F8C0-1F8C1:16.0;1F900-1F90B:10.0;1F90C-1F90C:13.0;1F90D-1F90F:12.0;1F910-1F918:8.0;1F919-1F91E:9.0;1F91F-1F91F:10.0;1F920-1F927:9.0;1F928-1F92F:10.0;1F930-1F930:9.0;1F931-1F932:10.0;1F933-1F93E:9.0;1F93F-1F93F:12.0;1F940-1F94B:9.0;1F94"
  ++ "C-1F94C:10.0;1F94D-1F94F:11.0;1F950-1F95E:9.0;1F95F-1F96B:10.0;1F96C-1F970:11.0;1F971-1F971:12.0;1F972-1F972:13.0;1F973-1F976:11.0;1F977-1F978:13.0;1F979-1F979:14.0;1F97A-1F97A:11.0;1F97B-1F97B:12.0;1F97C-1F97F:11.0;1F980-1F984:8.0;1F985-1F991:9.0;1F992-1F997:10.0;1F998-1F9A2:11.0;1F9A3-1F9A4:13.0;1F9A5-1F9AA:12.0;1F9AB-1F9AD:13.0;1F9AE-1F9AF:12.0;1F9B0-1F9B9:11.0;1F9BA-1F9BF:12.0;1F9C0-1F9C0:8.0;"
  ++ "1F9C1-1F9C2:11.0;1F9C3-1F9CA:12.0;1F9CB-1F9CB:13.0;1F9CC-1F9CC:14.0;1F9CD-1F9CF:12.0;1F9D0-1F9E6:10.0;1F9E7-1F9FF:11.0;1FA00-1FA53:12.0;1FA60-1FA6D:11.0;1FA70-1FA73:12.0;1FA74-1FA74:13.0;1FA75-1FA77:15.0;1FA78-1FA7A:12.0;1FA7B-1FA7C:14.0;1FA80-1FA82:12.0;1FA83-1FA86:13.0;1FA87-1FA88:15.0;1FA89-1FA89:16.0;1FA8F-1FA8F:16.0;1FA90-1FA95:12.0;1FA96-1FAA8:13.0;1FAA9-1FAAC:14.0;1FAAD-1FAAF:15.0;1FAB0-1FA"
  ++ "B6:13.0;1FAB7-1FABA:14.0;1FABB-1FABD:15.0;1FABE-1FABE:16.0;1FABF-1FABF:15.0;1FAC0-1FAC2:13.0;1FAC3-1FAC5:14.0;1FAC6-1FAC6:16.0;1FACE-1FACF:15.0;1FAD0-1FAD6:13.0;1FAD7-1FAD9:14.0;1FADA-1FADB:15.0;1FADC-1FADC:16.0;1FADF-1FADF:16.0;1FAE0-1FAE7:14.0;1FAE8-1FAE8:15.0;1FAE9-1FAE9:16.0;1FAF0-1FAF6:14.0;1FAF7-1FAF8:15.0;1FB00-1FB92:13.0;1FB94-1FBCA:13.0;1FBCB-1FBEF:16.0;1FBF0-1FBF9:13.0;1FFFE-1FFFF:2.0;20"
  ++ "000-2A6D6:3.1;2A6D7-2A6DD:13.0;2A6DE-2A6DF:14.0;2A700-2B734:5.2;2B735-2B738:14.0;2B739-2B739:15.0;2B740-2B81D:6.0;2B820-2CEA1:8.0;2CEB0-2EBE0:10.0;2EBF0-2EE5D:15.1;2F800-2FA1D:3.1;2FFFE-2FFFF:2.0;30000-3134A:13.0;31350-323AF:15.0;3FFFE-3FFFF:2.0;4FFFE-4FFFF:2.0;5FFFE-5FFFF:2.0;6FFFE-6FFFF:2.0;7FFFE-7FFFF:2.0;8FFFE-8FFFF:2.0;9FFFE-9FFFF:2.0;AFFFE-AFFFF:2.0;BFFFE-BFFFF:2.0;CFFFE-CFFFF:2.0;DFFFE-DFFF"
  ++ "F:2.0;E0001-E0001:3.1;E0020-E007F:3.1;E0100-E01EF:4.0;EFFFE-10FFFF:2.0"

end CapsuleFlow.Text
