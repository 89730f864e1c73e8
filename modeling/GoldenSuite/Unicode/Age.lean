import GoldenSuite.Unicode.Runs

set_option autoImplicit false

namespace GoldenSuite.Unicode.Age

def versions : List (String × String) :=
  [
   ("A", "1.1"), ("B", "2.0"), ("C", "2.1"), ("D", "3.0"), ("E", "3.1"), ("F", "3.2"),
   ("G", "4.0"), ("H", "4.1"), ("I", "5.0"), ("J", "5.1"), ("K", "5.2"), ("L", "6.0"),
   ("M", "6.1"), ("N", "6.2"), ("O", "6.3"), ("P", "7.0"), ("Q", "8.0"), ("R", "9.0"),
   ("S", "10.0"), ("T", "11.0"), ("U", "12.0"), ("V", "12.1"), ("W", "13.0"), ("X", "14.0"),
   ("Y", "15.0"), ("Z", "15.1"), ("Za", "16.0")]

def table : List String :=
  [
   "A502D4A30D8FGD18G3H11I14A89D5G2A47DA10D5G17A70D9FG8H5G3A2DF13J4A2J2Un2AI3APUn4A7UnAUnA20Un",
   "A44JA7DF2ADADADADA18E2FG5H4DA12DA66DA12DA41JD2F2D4A53F2A2F2A2F2IA28D2A8H2A2I6F16I4J16K2L2P8",
   "UnA38Un2A7TA39TADUn2P2MUnB17HB13A10IA9BH3Un8A27Un4TA5Un11G4MPJ5HAG9J5AOXHALA26J5A19D3G3H6L",
   "A14F2A72D2A5DA15DA30G2A10D5GD14UnD30G3D27Un2G3H30J18D49FUn14I59Un2T3K46Un2K15UnL28Un2LUnS11",
   "Un5X31UnX2Un5ZaX8MPM11P6Q2XR8W10X11TR15QM27PKA3GA53L2A18KLA5KL2A25J2L5PK2I2HI2PA3UnA8Un2A2",
   "Un2A22UnA7UnAUn3A4Un2AGA7Un2A2Un2A3HUn8AUn4A2UnA5Un2A21KS2TUn2GAGUnA6Un4A2Un2A22UnA7UnA2UnA2",
   "UnA2Un2AUnA5Un4A2Un2A3Un3JUn7A4UnAUn7A15JTUn10A3UnA7GAUnA3UnA22UnA7UnA2UnA5Un2A10UnA3UnA3Un2",
   "AUn15AG3Un2A10MGUn7QS6UnA3UnA8Un2A2Un2A22UnA7UnA2UnGA4Un2A8JUn2A2Un2A3Un7WA2Un4A2UnA3J2Un2",
   "A11GL6Un10A2UnA6Un3A3UnA4Un3A2UnAUnA2Un3A2Un3A3Un3A8HA3Un4A5Un3A3UnA4Un2JUn6AUn14HA12G8Un5P",
   "A3TA8UnA3UnA23UnA10PA5Un2XJA7UnA3UnA4Un7A2UnJ2QUn2XUn2A2J2Un2A10Un7UJ8RPA2TA8UnA3UnA23UnA10",
   "UnA5Un2G2A7UnA3UnA4Un7A2Un6XAUnA2I2Un2A10UnI2YUn12SPA2WA8UnA3UnA23LA16LS2JA6JUnA3UnA4LRUn4R3",
   "AR7QA2J2Un2A10J6R3J7UnWD2UnD18Un3D24UnD9UnDUn2D7Un3DUn4D6UnDUnD8Un6P10Un2D3Un12A58Un4A29Un37",
   "A2UnAUnUA2UAUnUAU6A4UA7UA3UnAUnAU2A2UA13UA3Un2A5UnAUnA6YUnA10Un2A2M2Un32B72UnB33DJ2Un4B27L4",
   "B6DBUnB21D3B7DBD3UnD15UnJDH2J3K4L2Un37D34JD5JD2JD7J3D4J6D26J64K4J2A38UnMUn5MUn2A39F2H2AHM3",
   "A90K5A68K5A82K6D7HD63HDUnD4Un2D7UnDUnD4Un2D39HDUnD4Un2D31HDUnD4Un2D7UnDUnD4Un2D7HD7UnD23HD31",
   "HDUnD4Un2D7HD39HD19Un2L2H2D28Un3H26Un6D85QUn2Q6Un2KD630K9D29Un3D81P8Un7F13XF7XUn9XF23Un9F20",
   "Un12F13UnF3UnF2Un12D93GUn2D10Un6G10Un6D15XD10Un6D88TUn7D42JUn5K70Un10G29P2UnG12Un4G12Un4GUn3",
   "G42Un2G5Un11H42K2Un4H26Un6H10KUn3H2G32H28Un2H2K63UnK29Un2K11Un6K10Un6K14Un2P15W2X14Un49I76X",
   "UnZa2I45X2ZaJ43M3J12M6L52Un8L4J56Un3J15Un3J51R9Za2Un5T43Un2T3M8Un8K35M4SP2UUn5G108H88I7J28",
   "P15S4XRLKI2A155BJ4A90J6A22Un2A6Un2A38Un2A6Un2A8UnAUnAUnAUnA31Un2A53UnA15UnA14Un2A6UnA19Un2A3",
   "UnA9UnA47DA23FD6F5G2H2FH7F5JUnO4A7FUn2A27UnH5L8Un3A11BCD3F2H4K3LNP3QSXUn15A18D2F7HI4JUn15A57",
   "D2GHF15HI2JK3A48DIJ4KQ2Un4A91D9F12A242F14ADA121DFD30F52G2H11I12KL11P7R4SA37D2Za3Un22A11Un21",
   "A139F20GA150F10A80D8F8A20G2F2HDA86D2F12H2F10G8H11JK2G2H16IJ10K3J4K10LK19LKL4K24PA4LA4L2A28L",
   "A35LALA4L3AKA7L2A7F14A31L3A24LA14LH7I4MJML2F28J4F16D256F512G14H6I7J5I4J41P3J5K5P26Un2P32UnW",
   "P34T3P12UP8ST25Q4T15UH47XH47XI13J3KJ3I4J6K2H107K7M2Un5H45UnMUn5MUn2H54M2Un7HLUn14LH23Un9H7Un",
   "H7UnH7UnH7UnH7UnH7UnH7UnH7UnJ32H24J4H2J19KM10P7R2S5T5UW3X11Un34D26UnD89Un12D214Un26D12Z4A56",
   "D3F3DAUnA84F2Un2A6F2A94FUn5A40JSTUnA94UnA16D24L3W5H16J20Za2Un9ZF16A29G2UnA36K12GF15A28G2HA50",
   "F15A12G4A47VA119G4A99G2A31GD6582W10G64A20902H22J8K8MQ9S21T5W13X3D1165Un3D18F2D16FD12FD3FDUn9",
   "K48J300Un20J32L2J18M8J28P6QMK88Un8H23I4J5I2J107L2QL2M2P12L10MP3RTP2Q6T2U6X2U5W4Za3Un2X2UnXUn",
   "X5Za3Un21X3W2PM2LJ5H44WUn3K10Un6I56Un8J69RUn8J12Un6K28Q2T2J84Un11JK29Un3K78UnK11Un4K2P31Un",
   "J55Un9J14Un2J10Un2J4K28P4K67Un24K5M23Un10L6Un2L6Un2L6Un9L7UnL7UnP48Q4P2U2W4Un4Q80K46Un2K10",
   "Un6B11172Un12K23Un4K49Un2052A6702M2F59K3Un2H106Un38A7Un12A5Un5DA25UnA5UnAUnA2UnA2UnA108L16X",
   "Un16A365X16A64Un2A54Un7XE32A12FGX2F16H10Un6A4J3P7Q2A21F2G2A10UnA19UnA4Un4A3FAUnA135Un2AUnA94",
   "F2A94Un3A6Un2A6Un2A6Un2A3Un3A7UnA7Un10D3CA3G12UnG26UnG19UnG2UnG15Un2G14Un34G123Un5G3Un4G45",
   "Un3G9H75P2R2UnJ12WUn3PUn47J46Un130J29Un3J49Un15P28Un4E31PE4Un9S3E27Un5P43Un5G30UnGH36Un4H14",
   "Un42E38G2E38G80Un2G10Un6R36Un4R36Un4P40Un8P52Un11PX11UnX15UnX7UnX2UnX11UnX15UnX7UnX2Un3Za52",
   "Un12P311Un9P22Un10P8Un24X6UnX42UnX9Un69G6Un2GUnG44UnG2Un3GUn2GK22UnK9P63Un8P9Un48Q19UnQ2Un5",
   "Q5I26K2Un3IJ26Un5JUn64M56Un4Q2M2Q16Un2Q46H4UnH2Un5H8UnH3UnH27T2Un2H3Un4H9TUn7H9Un7K32P32Un32",
   "P39Un4P12Un9K54Un3K29Un2K27Un5K8P18Un7P4Un12P7Un80K73Un55Q51Un13Q51Un7Q6T40Un8T10Un6Za38Un3",
   "Za29Un8Za2Un208K31UnW42UnW3Un2W2Un16Za3Un55ZaY3T40Un8T42Un22X26Un38W28Un20U23Un9L78Un4L30X6",
   "Un9PK66XUn10TUn2M25Un7M10Un6M53UnM14T3WUn8P39Un9M73Q4PW2M10PQ5UnP20Un11P18UnP43RY3Un62Q7UnQ",
   "UnQ4UnQ15UnQ11Un6P59Un5P10Un6QP3UnP8Un2P2Un2P22UnP7UnP2UnP5UnTP9Un2P2Un2P3Un2QUn6PUn5P7Un2P7",
   "Un3P5Un11Za10UnZaUn2ZaUnZa38UnZa10UnZaUn2ZaUnZa4UnZa10UnZa2Un8Za2Un29R90WRUnRTUW2Un30P72Un8",
   "P10Un166P54Un2P18Q20Un34P69Un11P10Un6R13Un19M56UXUn6M10Un6Za20Un28Q26TUn2Q15Un4Q16X7Un185T60",
   "Un100P83Un12PW7Un2WUn2W8UnW2UnW30UnW2Un2W12Un9W10Un70U8Un2U46Un2U11Un27S72Un8S52U2S23TS5Un13",
   "X16P57Un7Y10Un182Za34Un14Za10Un6R9UnR45UnR14Un10R29Un3R32Un2R22UnR14Un73S7UnS2UnS44Un3SUnS2",
   "UnS9Un8S10Un6T6UnT2UnT37UnT2UnT6Un7T10Un310T25Un7Y17UnY41Un3Y28ZaUn85WUn15U50Un13UI879P42Q",
   "Un102I99P12UnI4PUn11Q196Un2636X99Un13K1071YU9Y29Un10Za3995Un5Q583Un6841Za58Un1734L569Un7P31",
   "UnP10Un4P2X79UnX10Un6P30Un2P6Un10P70Un10P10UnP7UnP21Un5P19Un432Za58Un198T91Un101M69U6Un4UM47",
   "U9Un7M17Un64RSU2WUn11W2Un14R6125T5U6Un8R755W483Un41ZaW9Un8935X4UnX7UnX2UnL2S285X4Un15YUn29U3",
   "Un2YUn14U4Un8S396Un2308P107Un5P13Un3P9Un7P10Un2P8Un3932Za250Un6Za436Un76X46Un2X23Un9X116Un60",
   "E246Un10E39Un2JE180Q11X2Un21H70Un122Y20Un12T20Un12G87Un9I18T7Un135E85UnE71UnE2Un2EUn2E2Un2E4",
   "UnE12UnEUnE4GE2UnE65UnE4Un2E8UnE7UnE28UnE4UnE5UnEUn3E7UnE338H2Un2E290I2Un2E50Q652Un15Q5UnQ15",
   "Un1104X31Un6Y6Un213R7UnR17Un2R7UnR2UnR5Un5Y62Un33YUn112U45Un3U14Un2U10Un4U2Un320X31Un17U58",
   "Un5UUn464Y42Un214Za43Un4ZaUn480X7UnX4UnX2UnX15UnP197Un2P16Un41R75UUn4R10Un4R2Un785T68Un76U61",
   "Un194M4UnM27UnM2UnMUn2MUnM10UnM4UnMUnMUn6MUn4MUnMUnMUnM3UnM2UnMUn2MUnMUnMUnMUnMUnM2UnMUn2M4",
   "UnM7UnM4UnM4UnMUnM10UnM17Un5M3UnM5UnM17Un52M2Un270J44Un4J100Un12L15Un2L14PUnL15UnL15P22Un10",
   "K11P2W3K31TLKL11KLKL2KL3KL3K5L8KL7KL10M2UW3L9KLK2L2KL10K4L2KL10R18WUn56L26KL2Un13K34L9RUn4K9",
   "Un7L2Un14S6Un154L33P12Q3L6PL70PQ2L20P12L37PL5P4Q5P12L17P7Q8L63PLPL182PL4P2QL62P2M4P7Q5L24P18",
   "RP41RP86L5ML16ML3MLMLMLML3ML6M2L4MLM2L4ML12P2Q2L11P48L70P10QR2S2UW2Un4YX3P13Un3P4R3S2TUW2Un3",
   "L116Y3Un4Y5P85T4YUn6U12Un4XUn15P12Un4P56Un8P10Un6P40Un8P30Un2W2Za10Un4Za2Un62S12WU3Q9R6SR8S8",
   "RS2R12UR12ST3R15S13T5UWT4W2XTUT4Q5R13S6T11W2U6W3U2T10U6QT2U8WXU3S23T25U84Un12T14Un2U4WY3U3X2",
   "Un3U3W4Y2ZaUn5ZaU6W19X4Y3W7X4Y3ZaYW3X3ZaUn7Y2W7X3Y2ZaUn2ZaX8YZaUn6X7Y2Un7W147UnW55Za37W10",
   "Un1028B2E42711W7X2Un32K4149X4YUn6L222Un2Q5762Un14S7473Un15Z622Un2466E542Un1504B2W4939Un5",
   "Y4192Un56398B2Un65534B2Un65534B2Un65534B2Un65534B2Un65534B2Un65534B2Un65534B2Un65534B2",
   "Un65534B2Un65534B2UnEUn30E96Un128G240Un65038B131074"]

def runs : List (String × Nat) := readRuns table

def isNamed (name version : String) : Bool :=
  name = version || name = "v" ++ String.ofList (version.toList.filter (· ≠ '.'))

def upTo? (name : String) : Option CharSet :=
  let later := versions.dropWhile fun (_, version) => !isNamed name version
  match later with
  | [] => none
  | (mark, _) :: after =>
      some (setWhere runs fun value =>
        value = mark || (value ≠ "Un" && after.all fun (other, _) => other ≠ value))

end GoldenSuite.Unicode.Age
