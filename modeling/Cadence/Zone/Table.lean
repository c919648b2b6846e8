import Cadence.Zone.Database

/-! # Zone tables

The offset changes of the named zones, release 2025b of the zone database, in
seconds: the instant of each change, before or after the start of 1970, and the
offset from then on, east or west. -/

namespace Cadence.Zone

/-- Seconds after the start of 1970. -/
def after (seconds : Nat) : Int := seconds

/-- Seconds before the start of 1970. -/
def before (seconds : Nat) : Int := -seconds

/-- An offset by which clocks run ahead. -/
def east (seconds : Nat) : Int := seconds

/-- An offset by which clocks run behind. -/
def west (seconds : Nat) : Int := -seconds

/-- Offset changes of `Europe/London`. -/
def londonChanges : List (Int × Int) := [
  (before 3852662325, east 0), (before 1691964000, east 3600), (before 1680472800, east 0),
  (before 1664143200, east 3600), (before 1650146400, east 0), (before 1633903200, east 3600),
  (before 1617487200, east 0), (before 1601848800, east 3600), (before 1586037600, east 0),
  (before 1570399200, east 3600), (before 1552168800, east 0), (before 1538344800, east 3600),
  (before 1522533600, east 0), (before 1507500000, east 3600), (before 1490565600, east 0),
  (before 1473631200, east 3600), (before 1460930400, east 0), (before 1442786400, east 3600),
  (before 1428876000, east 0), (before 1410732000, east 3600), (before 1396216800, east 0),
  (before 1379282400, east 3600), (before 1364767200, east 0), (before 1348437600, east 3600),
  (before 1333317600, east 0), (before 1315778400, east 3600), (before 1301263200, east 0),
  (before 1284328800, east 3600), (before 1269813600, east 0), (before 1253484000, east 3600),
  (before 1238364000, east 0), (before 1221429600, east 3600), (before 1206914400, east 0),
  (before 1189980000, east 3600), (before 1175464800, east 0), (before 1159135200, east 3600),
  (before 1143410400, east 0), (before 1126476000, east 3600), (before 1111960800, east 0),
  (before 1095631200, east 3600), (before 1080511200, east 0), (before 1063576800, east 3600),
  (before 1049061600, east 0), (before 1032127200, east 3600), (before 1017612000, east 0),
  (before 1001282400, east 3600), (before 986162400, east 0), (before 969228000, east 3600),
  (before 950479200, east 0), (before 942012000, east 3600), (before 904518000, east 7200),
  (before 896050800, east 3600), (before 875487600, east 7200), (before 864601200, east 3600),
  (before 844038000, east 7200), (before 832546800, east 3600), (before 812588400, east 7200),
  (before 798073200, east 3600), (before 781052400, east 7200), (before 772066800, east 3600),
  (before 764805600, east 0), (before 748476000, east 3600), (before 733356000, east 0),
  (before 719445600, east 3600), (before 717030000, east 7200), (before 706748400, east 3600),
  (before 699487200, east 0), (before 687996000, east 3600), (before 668037600, east 0),
  (before 654732000, east 3600), (before 636588000, east 0), (before 622072800, east 3600),
  (before 605743200, east 0), (before 590623200, east 3600), (before 574293600, east 0),
  (before 558568800, east 3600), (before 542239200, east 0), (before 527119200, east 3600),
  (before 512604000, east 0), (before 496274400, east 3600), (before 481154400, east 0),
  (before 464220000, east 3600), (before 449704800, east 0), (before 432165600, east 3600),
  (before 417650400, east 0), (before 401320800, east 3600), (before 386200800, east 0),
  (before 369266400, east 3600), (before 354751200, east 0), (before 337816800, east 3600),
  (before 323301600, east 0), (before 306972000, east 3600), (before 291852000, east 0),
  (before 276732000, east 3600), (before 257983200, east 0), (before 245282400, east 3600),
  (before 226533600, east 0), (before 213228000, east 3600), (before 195084000, east 0),
  (before 182383200, east 3600), (before 163634400, east 0), (before 150933600, east 3600),
  (before 132184800, east 0), (before 119484000, east 3600), (before 100735200, east 0),
  (before 88034400, east 3600), (before 68680800, east 0), (before 59004000, east 3600),
  (after 57722400, east 0), (after 69818400, east 3600), (after 89172000, east 0),
  (after 101268000, east 3600), (after 120621600, east 0), (after 132717600, east 3600),
  (after 152071200, east 0), (after 164167200, east 3600), (after 183520800, east 0),
  (after 196221600, east 3600), (after 214970400, east 0), (after 227671200, east 3600),
  (after 246420000, east 0), (after 259120800, east 3600), (after 278474400, east 0),
  (after 290570400, east 3600), (after 309924000, east 0), (after 322020000, east 3600),
  (after 341373600, east 0), (after 354675600, east 3600), (after 372819600, east 0),
  (after 386125200, east 3600), (after 404269200, east 0), (after 417574800, east 3600),
  (after 435718800, east 0), (after 449024400, east 3600), (after 467773200, east 0),
  (after 481078800, east 3600), (after 499222800, east 0), (after 512528400, east 3600),
  (after 530672400, east 0), (after 543978000, east 3600), (after 562122000, east 0),
  (after 575427600, east 3600), (after 593571600, east 0), (after 606877200, east 3600),
  (after 625626000, east 0), (after 638326800, east 3600), (after 657075600, east 0),
  (after 670381200, east 3600), (after 688525200, east 0), (after 701830800, east 3600),
  (after 719974800, east 0), (after 733280400, east 3600), (after 751424400, east 0),
  (after 764730000, east 3600), (after 782874000, east 0), (after 796179600, east 3600),
  (after 814323600, east 0), (after 828234000, east 3600), (after 846378000, east 0),
  (after 859683600, east 3600), (after 877827600, east 0), (after 891133200, east 3600),
  (after 909277200, east 0), (after 922582800, east 3600), (after 941331600, east 0),
  (after 954032400, east 3600), (after 972781200, east 0), (after 985482000, east 3600),
  (after 1004230800, east 0), (after 1017536400, east 3600), (after 1035680400, east 0),
  (after 1048986000, east 3600), (after 1067130000, east 0), (after 1080435600, east 3600),
  (after 1099184400, east 0), (after 1111885200, east 3600), (after 1130634000, east 0),
  (after 1143334800, east 3600), (after 1162083600, east 0), (after 1174784400, east 3600),
  (after 1193533200, east 0), (after 1206838800, east 3600), (after 1224982800, east 0),
  (after 1238288400, east 3600), (after 1256432400, east 0), (after 1269738000, east 3600),
  (after 1288486800, east 0), (after 1301187600, east 3600), (after 1319936400, east 0),
  (after 1332637200, east 3600), (after 1351386000, east 0), (after 1364691600, east 3600),
  (after 1382835600, east 0), (after 1396141200, east 3600), (after 1414285200, east 0),
  (after 1427590800, east 3600), (after 1445734800, east 0), (after 1459040400, east 3600),
  (after 1477789200, east 0), (after 1490490000, east 3600), (after 1509238800, east 0),
  (after 1521939600, east 3600), (after 1540688400, east 0), (after 1553994000, east 3600),
  (after 1572138000, east 0), (after 1585443600, east 3600), (after 1603587600, east 0),
  (after 1616893200, east 3600), (after 1635642000, east 0), (after 1648342800, east 3600),
  (after 1667091600, east 0), (after 1679792400, east 3600), (after 1698541200, east 0),
  (after 1711846800, east 3600), (after 1729990800, east 0), (after 1743296400, east 3600),
  (after 1761440400, east 0), (after 1774746000, east 3600), (after 1792890000, east 0),
  (after 1806195600, east 3600), (after 1824944400, east 0), (after 1837645200, east 3600),
  (after 1856394000, east 0), (after 1869094800, east 3600), (after 1887843600, east 0),
  (after 1901149200, east 3600), (after 1919293200, east 0), (after 1932598800, east 3600),
  (after 1950742800, east 0), (after 1964048400, east 3600), (after 1982797200, east 0),
  (after 1995498000, east 3600), (after 2014246800, east 0), (after 2026947600, east 3600),
  (after 2045696400, east 0), (after 2058397200, east 3600), (after 2077146000, east 0),
  (after 2090451600, east 3600), (after 2108595600, east 0), (after 2121901200, east 3600),
  (after 2140045200, east 0), (after 2153350800, east 3600), (after 2172099600, east 0),
  (after 2184800400, east 3600), (after 2203549200, east 0), (after 2216250000, east 3600),
  (after 2234998800, east 0), (after 2248304400, east 3600), (after 2266448400, east 0),
  (after 2279754000, east 3600), (after 2297898000, east 0), (after 2311203600, east 3600),
  (after 2329347600, east 0), (after 2342653200, east 3600), (after 2361402000, east 0),
  (after 2374102800, east 3600), (after 2392851600, east 0), (after 2405552400, east 3600),
  (after 2424301200, east 0), (after 2437606800, east 3600), (after 2455750800, east 0),
  (after 2469056400, east 3600), (after 2487200400, east 0), (after 2500506000, east 3600),
  (after 2519254800, east 0), (after 2531955600, east 3600), (after 2550704400, east 0),
  (after 2563405200, east 3600), (after 2582154000, east 0), (after 2595459600, east 3600),
  (after 2613603600, east 0), (after 2626909200, east 3600), (after 2645053200, east 0),
  (after 2658358800, east 3600), (after 2676502800, east 0), (after 2689808400, east 3600),
  (after 2708557200, east 0), (after 2721258000, east 3600), (after 2740006800, east 0),
  (after 2752707600, east 3600), (after 2771456400, east 0), (after 2784762000, east 3600),
  (after 2802906000, east 0), (after 2816211600, east 3600), (after 2834355600, east 0),
  (after 2847661200, east 3600), (after 2866410000, east 0), (after 2879110800, east 3600),
  (after 2897859600, east 0), (after 2910560400, east 3600), (after 2929309200, east 0),
  (after 2942010000, east 3600), (after 2960758800, east 0), (after 2974064400, east 3600),
  (after 2992208400, east 0), (after 3005514000, east 3600), (after 3023658000, east 0),
  (after 3036963600, east 3600), (after 3055712400, east 0), (after 3068413200, east 3600),
  (after 3087162000, east 0), (after 3099862800, east 3600), (after 3118611600, east 0),
  (after 3131917200, east 3600), (after 3150061200, east 0), (after 3163366800, east 3600),
  (after 3181510800, east 0), (after 3194816400, east 3600), (after 3212960400, east 0),
  (after 3226266000, east 3600), (after 3245014800, east 0), (after 3257715600, east 3600),
  (after 3276464400, east 0), (after 3289165200, east 3600), (after 3307914000, east 0),
  (after 3321219600, east 3600), (after 3339363600, east 0), (after 3352669200, east 3600),
  (after 3370813200, east 0), (after 3384118800, east 3600), (after 3402867600, east 0),
  (after 3415568400, east 3600), (after 3434317200, east 0), (after 3447018000, east 3600),
  (after 3465766800, east 0), (after 3479072400, east 3600), (after 3497216400, east 0),
  (after 3510522000, east 3600), (after 3528666000, east 0), (after 3541971600, east 3600),
  (after 3560115600, east 0), (after 3573421200, east 3600), (after 3592170000, east 0),
  (after 3604870800, east 3600), (after 3623619600, east 0), (after 3636320400, east 3600),
  (after 3655069200, east 0), (after 3668374800, east 3600), (after 3686518800, east 0),
  (after 3699824400, east 3600), (after 3717968400, east 0), (after 3731274000, east 3600),
  (after 3750022800, east 0), (after 3762723600, east 3600), (after 3781472400, east 0),
  (after 3794173200, east 3600), (after 3812922000, east 0), (after 3825622800, east 3600),
  (after 3844371600, east 0), (after 3857677200, east 3600), (after 3875821200, east 0),
  (after 3889126800, east 3600), (after 3907270800, east 0), (after 3920576400, east 3600),
  (after 3939325200, east 0), (after 3952026000, east 3600), (after 3970774800, east 0),
  (after 3983475600, east 3600), (after 4002224400, east 0), (after 4015530000, east 3600),
  (after 4033674000, east 0), (after 4046979600, east 3600), (after 4065123600, east 0),
  (after 4078429200, east 3600), (after 4096573200, east 0)
]

def london : Zone := ofSeconds (west 75) londonChanges

/-- Offset changes of `America/New_York`. -/
def newYorkChanges : List (Int × Int) := [
  (before 2717650800, west 18000), (before 1633280400, west 14400),
  (before 1615140000, west 18000), (before 1601830800, west 14400),
  (before 1583690400, west 18000), (before 1570381200, west 14400),
  (before 1551636000, west 18000), (before 1536512400, west 14400),
  (before 1523210400, west 18000), (before 1504458000, west 14400),
  (before 1491760800, west 18000), (before 1473008400, west 14400),
  (before 1459706400, west 18000), (before 1441558800, west 14400),
  (before 1428256800, west 18000), (before 1410109200, west 14400),
  (before 1396807200, west 18000), (before 1378659600, west 14400),
  (before 1365357600, west 18000), (before 1347210000, west 14400),
  (before 1333908000, west 18000), (before 1315155600, west 14400),
  (before 1301853600, west 18000), (before 1283706000, west 14400),
  (before 1270404000, west 18000), (before 1252256400, west 14400),
  (before 1238954400, west 18000), (before 1220806800, west 14400),
  (before 1207504800, west 18000), (before 1189357200, west 14400),
  (before 1176055200, west 18000), (before 1157302800, west 14400),
  (before 1144605600, west 18000), (before 1125853200, west 14400),
  (before 1112551200, west 18000), (before 1094403600, west 14400),
  (before 1081101600, west 18000), (before 1062954000, west 14400),
  (before 1049652000, west 18000), (before 1031504400, west 14400),
  (before 1018202400, west 18000), (before 1000054800, west 14400),
  (before 986752800, west 18000), (before 968000400, west 14400), (before 955303200, west 18000),
  (before 936550800, west 14400), (before 923248800, west 18000), (before 905101200, west 14400),
  (before 891799200, west 18000), (before 880218000, west 14400), (before 765396000, west 18000),
  (before 747248400, west 14400), (before 733946400, west 18000), (before 715798800, west 14400),
  (before 702496800, west 18000), (before 684349200, west 14400), (before 671047200, west 18000),
  (before 652899600, west 14400), (before 639597600, west 18000), (before 620845200, west 14400),
  (before 608148000, west 18000), (before 589395600, west 14400), (before 576093600, west 18000),
  (before 557946000, west 14400), (before 544644000, west 18000), (before 526496400, west 14400),
  (before 513194400, west 18000), (before 495046800, west 14400), (before 481744800, west 18000),
  (before 463597200, west 14400), (before 447271200, west 18000), (before 431542800, west 14400),
  (before 415821600, west 18000), (before 400093200, west 14400), (before 384372000, west 18000),
  (before 368643600, west 14400), (before 352922400, west 18000), (before 337194000, west 14400),
  (before 321472800, west 18000), (before 305744400, west 14400), (before 289418400, west 18000),
  (before 273690000, west 14400), (before 257968800, west 18000), (before 242240400, west 14400),
  (before 226519200, west 18000), (before 210790800, west 14400), (before 195069600, west 18000),
  (before 179341200, west 14400), (before 163620000, west 18000), (before 147891600, west 14400),
  (before 131565600, west 18000), (before 116442000, west 14400), (before 100116000, west 18000),
  (before 84387600, west 14400), (before 68666400, west 18000), (before 52938000, west 14400),
  (before 37216800, west 18000), (before 21488400, west 14400), (before 5767200, west 18000),
  (after 9961200, west 14400), (after 25682400, west 18000), (after 41410800, west 14400),
  (after 57736800, west 18000), (after 73465200, west 14400), (after 89186400, west 18000),
  (after 104914800, west 14400), (after 120636000, west 18000), (after 126687600, west 14400),
  (after 152085600, west 18000), (after 162370800, west 14400), (after 183535200, west 18000),
  (after 199263600, west 14400), (after 215589600, west 18000), (after 230713200, west 14400),
  (after 247039200, west 18000), (after 262767600, west 14400), (after 278488800, west 18000),
  (after 294217200, west 14400), (after 309938400, west 18000), (after 325666800, west 14400),
  (after 341388000, west 18000), (after 357116400, west 14400), (after 372837600, west 18000),
  (after 388566000, west 14400), (after 404892000, west 18000), (after 420015600, west 14400),
  (after 436341600, west 18000), (after 452070000, west 14400), (after 467791200, west 18000),
  (after 483519600, west 14400), (after 499240800, west 18000), (after 514969200, west 14400),
  (after 530690400, west 18000), (after 544604400, west 14400), (after 562140000, west 18000),
  (after 576054000, west 14400), (after 594194400, west 18000), (after 607503600, west 14400),
  (after 625644000, west 18000), (after 638953200, west 14400), (after 657093600, west 18000),
  (after 671007600, west 14400), (after 688543200, west 18000), (after 702457200, west 14400),
  (after 719992800, west 18000), (after 733906800, west 14400), (after 752047200, west 18000),
  (after 765356400, west 14400), (after 783496800, west 18000), (after 796806000, west 14400),
  (after 814946400, west 18000), (after 828860400, west 14400), (after 846396000, west 18000),
  (after 860310000, west 14400), (after 877845600, west 18000), (after 891759600, west 14400),
  (after 909295200, west 18000), (after 923209200, west 14400), (after 941349600, west 18000),
  (after 954658800, west 14400), (after 972799200, west 18000), (after 986108400, west 14400),
  (after 1004248800, west 18000), (after 1018162800, west 14400), (after 1035698400, west 18000),
  (after 1049612400, west 14400), (after 1067148000, west 18000), (after 1081062000, west 14400),
  (after 1099202400, west 18000), (after 1112511600, west 14400), (after 1130652000, west 18000),
  (after 1143961200, west 14400), (after 1162101600, west 18000), (after 1173596400, west 14400),
  (after 1194156000, west 18000), (after 1205046000, west 14400), (after 1225605600, west 18000),
  (after 1236495600, west 14400), (after 1257055200, west 18000), (after 1268550000, west 14400),
  (after 1289109600, west 18000), (after 1299999600, west 14400), (after 1320559200, west 18000),
  (after 1331449200, west 14400), (after 1352008800, west 18000), (after 1362898800, west 14400),
  (after 1383458400, west 18000), (after 1394348400, west 14400), (after 1414908000, west 18000),
  (after 1425798000, west 14400), (after 1446357600, west 18000), (after 1457852400, west 14400),
  (after 1478412000, west 18000), (after 1489302000, west 14400), (after 1509861600, west 18000),
  (after 1520751600, west 14400), (after 1541311200, west 18000), (after 1552201200, west 14400),
  (after 1572760800, west 18000), (after 1583650800, west 14400), (after 1604210400, west 18000),
  (after 1615705200, west 14400), (after 1636264800, west 18000), (after 1647154800, west 14400),
  (after 1667714400, west 18000), (after 1678604400, west 14400), (after 1699164000, west 18000),
  (after 1710054000, west 14400), (after 1730613600, west 18000), (after 1741503600, west 14400),
  (after 1762063200, west 18000), (after 1772953200, west 14400), (after 1793512800, west 18000),
  (after 1805007600, west 14400), (after 1825567200, west 18000), (after 1836457200, west 14400),
  (after 1857016800, west 18000), (after 1867906800, west 14400), (after 1888466400, west 18000),
  (after 1899356400, west 14400), (after 1919916000, west 18000), (after 1930806000, west 14400),
  (after 1951365600, west 18000), (after 1962860400, west 14400), (after 1983420000, west 18000),
  (after 1994310000, west 14400), (after 2014869600, west 18000), (after 2025759600, west 14400),
  (after 2046319200, west 18000), (after 2057209200, west 14400), (after 2077768800, west 18000),
  (after 2088658800, west 14400), (after 2109218400, west 18000), (after 2120108400, west 14400),
  (after 2140668000, west 18000), (after 2152162800, west 14400), (after 2172722400, west 18000),
  (after 2183612400, west 14400), (after 2204172000, west 18000), (after 2215062000, west 14400),
  (after 2235621600, west 18000), (after 2246511600, west 14400), (after 2267071200, west 18000),
  (after 2277961200, west 14400), (after 2298520800, west 18000), (after 2309410800, west 14400),
  (after 2329970400, west 18000), (after 2341465200, west 14400), (after 2362024800, west 18000),
  (after 2372914800, west 14400), (after 2393474400, west 18000), (after 2404364400, west 14400),
  (after 2424924000, west 18000), (after 2435814000, west 14400), (after 2456373600, west 18000),
  (after 2467263600, west 14400), (after 2487823200, west 18000), (after 2499318000, west 14400),
  (after 2519877600, west 18000), (after 2530767600, west 14400), (after 2551327200, west 18000),
  (after 2562217200, west 14400), (after 2582776800, west 18000), (after 2593666800, west 14400),
  (after 2614226400, west 18000), (after 2625116400, west 14400), (after 2645676000, west 18000),
  (after 2656566000, west 14400), (after 2677125600, west 18000), (after 2688620400, west 14400),
  (after 2709180000, west 18000), (after 2720070000, west 14400), (after 2740629600, west 18000),
  (after 2751519600, west 14400), (after 2772079200, west 18000), (after 2782969200, west 14400),
  (after 2803528800, west 18000), (after 2814418800, west 14400), (after 2834978400, west 18000),
  (after 2846473200, west 14400), (after 2867032800, west 18000), (after 2877922800, west 14400),
  (after 2898482400, west 18000), (after 2909372400, west 14400), (after 2929932000, west 18000),
  (after 2940822000, west 14400), (after 2961381600, west 18000), (after 2972271600, west 14400),
  (after 2992831200, west 18000), (after 3003721200, west 14400), (after 3024280800, west 18000),
  (after 3035775600, west 14400), (after 3056335200, west 18000), (after 3067225200, west 14400),
  (after 3087784800, west 18000), (after 3098674800, west 14400), (after 3119234400, west 18000),
  (after 3130124400, west 14400), (after 3150684000, west 18000), (after 3161574000, west 14400),
  (after 3182133600, west 18000), (after 3193023600, west 14400), (after 3213583200, west 18000),
  (after 3225078000, west 14400), (after 3245637600, west 18000), (after 3256527600, west 14400),
  (after 3277087200, west 18000), (after 3287977200, west 14400), (after 3308536800, west 18000),
  (after 3319426800, west 14400), (after 3339986400, west 18000), (after 3350876400, west 14400),
  (after 3371436000, west 18000), (after 3382930800, west 14400), (after 3403490400, west 18000),
  (after 3414380400, west 14400), (after 3434940000, west 18000), (after 3445830000, west 14400),
  (after 3466389600, west 18000), (after 3477279600, west 14400), (after 3497839200, west 18000),
  (after 3508729200, west 14400), (after 3529288800, west 18000), (after 3540178800, west 14400),
  (after 3560738400, west 18000), (after 3572233200, west 14400), (after 3592792800, west 18000),
  (after 3603682800, west 14400), (after 3624242400, west 18000), (after 3635132400, west 14400),
  (after 3655692000, west 18000), (after 3666582000, west 14400), (after 3687141600, west 18000),
  (after 3698031600, west 14400), (after 3718591200, west 18000), (after 3730086000, west 14400),
  (after 3750645600, west 18000), (after 3761535600, west 14400), (after 3782095200, west 18000),
  (after 3792985200, west 14400), (after 3813544800, west 18000), (after 3824434800, west 14400),
  (after 3844994400, west 18000), (after 3855884400, west 14400), (after 3876444000, west 18000),
  (after 3887334000, west 14400), (after 3907893600, west 18000), (after 3919388400, west 14400),
  (after 3939948000, west 18000), (after 3950838000, west 14400), (after 3971397600, west 18000),
  (after 3982287600, west 14400), (after 4002847200, west 18000), (after 4013737200, west 14400),
  (after 4034296800, west 18000), (after 4045186800, west 14400), (after 4065746400, west 18000),
  (after 4076636400, west 14400), (after 4097196000, west 18000)
]

def newYork : Zone := ofSeconds (west 17762) newYorkChanges

/-- Offset changes of `Asia/Kolkata`. -/
def kolkataChanges : List (Int × Int) := [
  (before 3645237208, east 21200), (before 3155694800, east 19270),
  (before 2019705670, east 19800), (before 891581400, east 23400), (before 872058600, east 19800),
  (before 862637400, east 23400), (before 764145000, east 19800)
]

def kolkata : Zone := ofSeconds (east 21208) kolkataChanges

/-- Offset changes of `Asia/Tokyo`. -/
def tokyoChanges : List (Int × Int) := [
  (before 2587712400, east 32400), (before 683802000, east 36000), (before 672310800, east 32400),
  (before 654771600, east 36000), (before 640861200, east 32400), (before 620298000, east 36000),
  (before 609411600, east 32400), (before 588848400, east 36000), (before 577962000, east 32400)
]

def tokyo : Zone := ofSeconds (east 33539) tokyoChanges

/-- Offset changes of `Australia/Lord_Howe`. -/
def lordHoweChanges : List (Int × Int) := [
  (before 2364114980, east 36000), (after 352216800, east 37800), (after 372785400, east 41400),
  (after 384273000, east 37800), (after 404839800, east 41400), (after 415722600, east 37800),
  (after 436289400, east 41400), (after 447172200, east 37800), (after 467739000, east 41400),
  (after 478621800, east 37800), (after 499188600, east 39600), (after 511282800, east 37800),
  (after 530033400, east 39600), (after 542732400, east 37800), (after 562087800, east 39600),
  (after 574786800, east 37800), (after 594142200, east 39600), (after 606236400, east 37800),
  (after 625591800, east 39600), (after 636476400, east 37800), (after 657041400, east 39600),
  (after 667926000, east 37800), (after 688491000, east 39600), (after 699375600, east 37800),
  (after 719940600, east 39600), (after 731430000, east 37800), (after 751995000, east 39600),
  (after 762879600, east 37800), (after 783444600, east 39600), (after 794329200, east 37800),
  (after 814894200, east 39600), (after 828198000, east 37800), (after 846343800, east 39600),
  (after 859647600, east 37800), (after 877793400, east 39600), (after 891097200, east 37800),
  (after 909243000, east 39600), (after 922546800, east 37800), (after 941297400, east 39600),
  (after 953996400, east 37800), (after 967303800, east 39600), (after 985446000, east 37800),
  (after 1004196600, east 39600), (after 1017500400, east 37800), (after 1035646200, east 39600),
  (after 1048950000, east 37800), (after 1067095800, east 39600), (after 1080399600, east 37800),
  (after 1099150200, east 39600), (after 1111849200, east 37800), (after 1130599800, east 39600),
  (after 1143903600, east 37800), (after 1162049400, east 39600), (after 1174748400, east 37800),
  (after 1193499000, east 39600), (after 1207407600, east 37800), (after 1223134200, east 39600),
  (after 1238857200, east 37800), (after 1254583800, east 39600), (after 1270306800, east 37800),
  (after 1286033400, east 39600), (after 1301756400, east 37800), (after 1317483000, east 39600),
  (after 1333206000, east 37800), (after 1349537400, east 39600), (after 1365260400, east 37800),
  (after 1380987000, east 39600), (after 1396710000, east 37800), (after 1412436600, east 39600),
  (after 1428159600, east 37800), (after 1443886200, east 39600), (after 1459609200, east 37800),
  (after 1475335800, east 39600), (after 1491058800, east 37800), (after 1506785400, east 39600),
  (after 1522508400, east 37800), (after 1538839800, east 39600), (after 1554562800, east 37800),
  (after 1570289400, east 39600), (after 1586012400, east 37800), (after 1601739000, east 39600),
  (after 1617462000, east 37800), (after 1633188600, east 39600), (after 1648911600, east 37800),
  (after 1664638200, east 39600), (after 1680361200, east 37800), (after 1696087800, east 39600),
  (after 1712415600, east 37800), (after 1728142200, east 39600), (after 1743865200, east 37800),
  (after 1759591800, east 39600), (after 1775314800, east 37800), (after 1791041400, east 39600),
  (after 1806764400, east 37800), (after 1822491000, east 39600), (after 1838214000, east 37800),
  (after 1853940600, east 39600), (after 1869663600, east 37800), (after 1885995000, east 39600),
  (after 1901718000, east 37800), (after 1917444600, east 39600), (after 1933167600, east 37800),
  (after 1948894200, east 39600), (after 1964617200, east 37800), (after 1980343800, east 39600),
  (after 1996066800, east 37800), (after 2011793400, east 39600), (after 2027516400, east 37800),
  (after 2043243000, east 39600), (after 2058966000, east 37800), (after 2075297400, east 39600),
  (after 2091020400, east 37800), (after 2106747000, east 39600), (after 2122470000, east 37800),
  (after 2138196600, east 39600), (after 2153919600, east 37800), (after 2169646200, east 39600),
  (after 2185369200, east 37800), (after 2201095800, east 39600), (after 2216818800, east 37800),
  (after 2233150200, east 39600), (after 2248873200, east 37800), (after 2264599800, east 39600),
  (after 2280322800, east 37800), (after 2296049400, east 39600), (after 2311772400, east 37800),
  (after 2327499000, east 39600), (after 2343222000, east 37800), (after 2358948600, east 39600),
  (after 2374671600, east 37800), (after 2390398200, east 39600), (after 2406121200, east 37800),
  (after 2422452600, east 39600), (after 2438175600, east 37800), (after 2453902200, east 39600),
  (after 2469625200, east 37800), (after 2485351800, east 39600), (after 2501074800, east 37800),
  (after 2516801400, east 39600), (after 2532524400, east 37800), (after 2548251000, east 39600),
  (after 2563974000, east 37800), (after 2579700600, east 39600), (after 2596028400, east 37800),
  (after 2611755000, east 39600), (after 2627478000, east 37800), (after 2643204600, east 39600),
  (after 2658927600, east 37800), (after 2674654200, east 39600), (after 2690377200, east 37800),
  (after 2706103800, east 39600), (after 2721826800, east 37800), (after 2737553400, east 39600),
  (after 2753276400, east 37800), (after 2769607800, east 39600), (after 2785330800, east 37800),
  (after 2801057400, east 39600), (after 2816780400, east 37800), (after 2832507000, east 39600),
  (after 2848230000, east 37800), (after 2863956600, east 39600), (after 2879679600, east 37800),
  (after 2895406200, east 39600), (after 2911129200, east 37800), (after 2926855800, east 39600),
  (after 2942578800, east 37800), (after 2958910200, east 39600), (after 2974633200, east 37800),
  (after 2990359800, east 39600), (after 3006082800, east 37800), (after 3021809400, east 39600),
  (after 3037532400, east 37800), (after 3053259000, east 39600), (after 3068982000, east 37800),
  (after 3084708600, east 39600), (after 3100431600, east 37800), (after 3116763000, east 39600),
  (after 3132486000, east 37800), (after 3148212600, east 39600), (after 3163935600, east 37800),
  (after 3179662200, east 39600), (after 3195385200, east 37800), (after 3211111800, east 39600),
  (after 3226834800, east 37800), (after 3242561400, east 39600), (after 3258284400, east 37800),
  (after 3274011000, east 39600), (after 3289734000, east 37800), (after 3306065400, east 39600),
  (after 3321788400, east 37800), (after 3337515000, east 39600), (after 3353238000, east 37800),
  (after 3368964600, east 39600), (after 3384687600, east 37800), (after 3400414200, east 39600),
  (after 3416137200, east 37800), (after 3431863800, east 39600), (after 3447586800, east 37800),
  (after 3463313400, east 39600), (after 3479641200, east 37800), (after 3495367800, east 39600),
  (after 3511090800, east 37800), (after 3526817400, east 39600), (after 3542540400, east 37800),
  (after 3558267000, east 39600), (after 3573990000, east 37800), (after 3589716600, east 39600),
  (after 3605439600, east 37800), (after 3621166200, east 39600), (after 3636889200, east 37800),
  (after 3653220600, east 39600), (after 3668943600, east 37800), (after 3684670200, east 39600),
  (after 3700393200, east 37800), (after 3716119800, east 39600), (after 3731842800, east 37800),
  (after 3747569400, east 39600), (after 3763292400, east 37800), (after 3779019000, east 39600),
  (after 3794742000, east 37800), (after 3810468600, east 39600), (after 3826191600, east 37800),
  (after 3842523000, east 39600), (after 3858246000, east 37800), (after 3873972600, east 39600),
  (after 3889695600, east 37800), (after 3905422200, east 39600), (after 3921145200, east 37800),
  (after 3936871800, east 39600), (after 3952594800, east 37800), (after 3968321400, east 39600),
  (after 3984044400, east 37800), (after 4000375800, east 39600), (after 4016098800, east 37800),
  (after 4031825400, east 39600), (after 4047548400, east 37800), (after 4063275000, east 39600),
  (after 4078998000, east 37800), (after 4094724600, east 39600)
]

def lordHowe : Zone := ofSeconds (east 38180) lordHoweChanges

/-- Offset changes of `America/Sao_Paulo`. -/
def saoPauloChanges : List (Int × Int) := [
  (before 1767214412, west 10800), (before 1206957600, west 7200),
  (before 1191362400, west 10800), (before 1175374800, west 7200),
  (before 1159826400, west 10800), (before 633819600, west 7200), (before 622069200, west 10800),
  (before 602283600, west 7200), (before 591832800, west 10800), (before 570747600, west 7200),
  (before 560210400, west 10800), (before 539125200, west 7200), (before 531352800, west 10800),
  (before 195426000, west 7200), (before 184197600, west 10800), (before 155163600, west 7200),
  (before 150069600, west 10800), (before 128898000, west 7200), (before 121125600, west 10800),
  (before 99954000, west 7200), (before 89589600, west 10800), (before 68418000, west 7200),
  (before 57967200, west 10800), (after 499748400, west 7200), (after 511236000, west 10800),
  (after 530593200, west 7200), (after 540266400, west 10800), (after 562129200, west 7200),
  (after 571197600, west 10800), (after 592974000, west 7200), (after 602042400, west 10800),
  (after 624423600, west 7200), (after 634701600, west 10800), (after 656478000, west 7200),
  (after 666756000, west 10800), (after 687927600, west 7200), (after 697600800, west 10800),
  (after 719982000, west 7200), (after 728445600, west 10800), (after 750826800, west 7200),
  (after 761709600, west 10800), (after 782276400, west 7200), (after 793159200, west 10800),
  (after 813726000, west 7200), (after 824004000, west 10800), (after 844570800, west 7200),
  (after 856058400, west 10800), (after 876106800, west 7200), (after 888717600, west 10800),
  (after 908074800, west 7200), (after 919562400, west 10800), (after 938919600, west 7200),
  (after 951616800, west 10800), (after 970974000, west 7200), (after 982461600, west 10800),
  (after 1003028400, west 7200), (after 1013911200, west 10800), (after 1036292400, west 7200),
  (after 1045360800, west 10800), (after 1066532400, west 7200), (after 1076810400, west 10800),
  (after 1099364400, west 7200), (after 1108864800, west 10800), (after 1129431600, west 7200),
  (after 1140314400, west 10800), (after 1162695600, west 7200), (after 1172368800, west 10800),
  (after 1192330800, west 7200), (after 1203213600, west 10800), (after 1224385200, west 7200),
  (after 1234663200, west 10800), (after 1255834800, west 7200), (after 1266717600, west 10800),
  (after 1287284400, west 7200), (after 1298167200, west 10800), (after 1318734000, west 7200),
  (after 1330221600, west 10800), (after 1350788400, west 7200), (after 1361066400, west 10800),
  (after 1382238000, west 7200), (after 1392516000, west 10800), (after 1413687600, west 7200),
  (after 1424570400, west 10800), (after 1445137200, west 7200), (after 1456020000, west 10800),
  (after 1476586800, west 7200), (after 1487469600, west 10800), (after 1508036400, west 7200),
  (after 1518919200, west 10800), (after 1541300400, west 7200), (after 1550368800, west 10800)
]

def saoPaulo : Zone := ofSeconds (west 11188) saoPauloChanges

/-- Offset changes of `Pacific/Apia`. -/
def apiaChanges : List (Int × Int) := [
  (before 2445424384, west 41216), (before 1861878784, west 41400),
  (before 631110600, west 39600), (after 1285498800, west 36000), (after 1301752800, west 39600),
  (after 1316872800, west 36000), (after 1325239200, east 50400), (after 1333202400, east 46800),
  (after 1348927200, east 50400), (after 1365256800, east 46800), (after 1380376800, east 50400),
  (after 1396706400, east 46800), (after 1411826400, east 50400), (after 1428156000, east 46800),
  (after 1443276000, east 50400), (after 1459605600, east 46800), (after 1474725600, east 50400),
  (after 1491055200, east 46800), (after 1506175200, east 50400), (after 1522504800, east 46800),
  (after 1538229600, east 50400), (after 1554559200, east 46800), (after 1569679200, east 50400),
  (after 1586008800, east 46800), (after 1601128800, east 50400), (after 1617458400, east 46800)
]

def apia : Zone := ofSeconds (east 45184) apiaChanges

/-- Offset changes of `Asia/Kathmandu`. -/
def kathmanduChanges : List (Int × Int) := [
  (before 1577943676, east 19800), (after 504901800, east 20700)
]

def kathmandu : Zone := ofSeconds (east 20476) kathmanduChanges

/-- The named zones. -/
def named : List (String × Zone) := [
  ("UTC", fixed 0),
  ("GMT", fixed 0),
  ("Etc/GMT+5", ofSeconds (west 18000) []),
  ("Europe/London", london),
  ("America/New_York", newYork),
  ("Asia/Kolkata", kolkata),
  ("Asia/Tokyo", tokyo),
  ("Australia/Lord_Howe", lordHowe),
  ("America/Sao_Paulo", saoPaulo),
  ("Pacific/Apia", apia),
  ("Asia/Kathmandu", kathmandu)
]

theorem wellFormed_named : ∀ p ∈ named, p.2.WellFormed := by
  decide +kernel

theorem spaced_named : ∀ p ∈ named, p.2.Spaced := by
  decide +kernel

theorem mem_named_of_lookup {name : String} {z : Zone} (h : named.lookup name = some z) :
    (name, z) ∈ named := by
  obtain ⟨before, after, hsplit, -⟩ := List.lookup_eq_some_iff.mp h
  simp [hsplit]

/-- The database of these zones. -/
instance : Database where
  named? name := named.lookup name
  wellFormed_of_named? h := wellFormed_named _ (mem_named_of_lookup h)
  spaced_of_named? h := spaced_named _ (mem_named_of_lookup h)

end Cadence.Zone
