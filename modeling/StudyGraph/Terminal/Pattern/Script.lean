import StudyGraph.Text.Runs

/-!
# Scripts

The script that each character is written in, by its code of four letters: `Latn`, `Han` is `Hani`,
and so on. Characters of many scripts have the code `Zyyy`, those that take the script of the
character before them `Zinh`, and code points without a script `Zzzz`. `Script.named?` finds a
script by its code or its name, and `Script.isUsedIn` also knows the characters that scripts
share.
-/

namespace StudyGraph.Text.Script

/-- The codes of the scripts with their names, in small letters and without separators. -/
def names : List (String × String) :=
  [("Adlm", "adlam"), ("Ahom", "ahom"), ("Hluw", "anatolianhieroglyphs"), ("Arab", "arabic"),
    ("Armn", "armenian"), ("Avst", "avestan"), ("Bali", "balinese"), ("Bamu", "bamum"),
    ("Bass", "bassavah"), ("Batk", "batak"), ("Beng", "bengali"), ("Berf", "beriaerfe"),
    ("Bhks", "bhaiksuki"), ("Bopo", "bopomofo"), ("Brah", "brahmi"), ("Brai", "braille"),
    ("Bugi", "buginese"), ("Buhd", "buhid"), ("Cans", "canadianaboriginal"),
    ("Cari", "carian"), ("Aghb", "caucasianalbanian"), ("Cakm", "chakma"), ("Cham", "cham"),
    ("Cher", "cherokee"), ("Chrs", "chorasmian"), ("Zyyy", "common"), ("Copt", "coptic"),
    ("Xsux", "cuneiform"), ("Cprt", "cypriot"), ("Cpmn", "cyprominoan"), ("Cyrl", "cyrillic"),
    ("Dsrt", "deseret"), ("Deva", "devanagari"), ("Diak", "divesakuru"), ("Dogr", "dogra"),
    ("Dupl", "duployan"), ("Egyp", "egyptianhieroglyphs"), ("Elba", "elbasan"),
    ("Elym", "elymaic"), ("Ethi", "ethiopic"), ("Gara", "garay"), ("Geor", "georgian"),
    ("Glag", "glagolitic"), ("Goth", "gothic"), ("Gran", "grantha"), ("Grek", "greek"),
    ("Gujr", "gujarati"), ("Gong", "gunjalagondi"), ("Guru", "gurmukhi"),
    ("Gukh", "gurungkhema"), ("Hani", "han"), ("Hang", "hangul"), ("Rohg", "hanifirohingya"),
    ("Hano", "hanunoo"), ("Hatr", "hatran"), ("Hebr", "hebrew"), ("Hira", "hiragana"),
    ("Armi", "imperialaramaic"), ("Zinh", "inherited"), ("Phli", "inscriptionalpahlavi"),
    ("Prti", "inscriptionalparthian"), ("Java", "javanese"), ("Kthi", "kaithi"),
    ("Knda", "kannada"), ("Kana", "katakana"), ("Kawi", "kawi"), ("Kali", "kayahli"),
    ("Khar", "kharoshthi"), ("Kits", "khitansmallscript"), ("Khmr", "khmer"),
    ("Khoj", "khojki"), ("Sind", "khudawadi"), ("Krai", "kiratrai"), ("Laoo", "lao"),
    ("Latn", "latin"), ("Lepc", "lepcha"), ("Limb", "limbu"), ("Lina", "lineara"),
    ("Linb", "linearb"), ("Lisu", "lisu"), ("Lyci", "lycian"), ("Lydi", "lydian"),
    ("Mahj", "mahajani"), ("Maka", "makasar"), ("Mlym", "malayalam"), ("Mand", "mandaic"),
    ("Mani", "manichaean"), ("Marc", "marchen"), ("Gonm", "masaramgondi"),
    ("Medf", "medefaidrin"), ("Mtei", "meeteimayek"), ("Mend", "mendekikakui"),
    ("Merc", "meroiticcursive"), ("Mero", "meroitichieroglyphs"), ("Plrd", "miao"),
    ("Modi", "modi"), ("Mong", "mongolian"), ("Mroo", "mro"), ("Mult", "multani"),
    ("Mymr", "myanmar"), ("Nbat", "nabataean"), ("Nagm", "nagmundari"),
    ("Nand", "nandinagari"), ("Talu", "newtailue"), ("Newa", "newa"), ("Nkoo", "nko"),
    ("Nshu", "nushu"), ("Hmnp", "nyiakengpuachuehmong"), ("Ogam", "ogham"),
    ("Olck", "olchiki"), ("Onao", "olonal"), ("Hung", "oldhungarian"), ("Ital", "olditalic"),
    ("Narb", "oldnortharabian"), ("Perm", "oldpermic"), ("Xpeo", "oldpersian"),
    ("Sogo", "oldsogdian"), ("Sarb", "oldsoutharabian"), ("Orkh", "oldturkic"),
    ("Ougr", "olduyghur"), ("Orya", "oriya"), ("Osge", "osage"), ("Osma", "osmanya"),
    ("Hmng", "pahawhhmong"), ("Palm", "palmyrene"), ("Pauc", "paucinhau"), ("Phag", "phagspa"),
    ("Phnx", "phoenician"), ("Phlp", "psalterpahlavi"), ("Rjng", "rejang"), ("Runr", "runic"),
    ("Samr", "samaritan"), ("Saur", "saurashtra"), ("Shrd", "sharada"), ("Shaw", "shavian"),
    ("Sidd", "siddham"), ("Sidt", "sidetic"), ("Sgnw", "signwriting"), ("Sinh", "sinhala"),
    ("Sogd", "sogdian"), ("Sora", "sorasompeng"), ("Soyo", "soyombo"), ("Sund", "sundanese"),
    ("Sunu", "sunuwar"), ("Sylo", "sylotinagri"), ("Syrc", "syriac"), ("Tglg", "tagalog"),
    ("Tagb", "tagbanwa"), ("Tale", "taile"), ("Lana", "taitham"), ("Tavt", "taiviet"),
    ("Tayo", "taiyo"), ("Takr", "takri"), ("Taml", "tamil"), ("Tnsa", "tangsa"),
    ("Tang", "tangut"), ("Telu", "telugu"), ("Thaa", "thaana"), ("Thai", "thai"),
    ("Tibt", "tibetan"), ("Tfng", "tifinagh"), ("Tirh", "tirhuta"), ("Todr", "todhri"),
    ("Tols", "tolongsiki"), ("Toto", "toto"), ("Tutg", "tulutigalari"), ("Ugar", "ugaritic"),
    ("Zzzz", "unknown"), ("Vaii", "vai"), ("Vith", "vithkuqi"), ("Wcho", "wancho"),
    ("Wara", "warangciti"), ("Yezi", "yezidi"), ("Yiii", "yi"), ("Zanb", "zanabazarsquare")]

/-- The code of the script with a name or a code in small letters. The script of the Copts has two
codes, and so has the one that is taken over. -/
def named? (name : Text) : Option Text :=
  if name = "qaac".toList then some "Copt"
  else if name = "qaai".toList then some "Zinh"
  else
    (names.find? fun (code, long) =>
      code.toList.map Char.toLower = name || long.toList = name).map fun (code, _) => code.toList

/-- The codes of the scripts of all code points, run by run. -/
def table : List String :=
  ["Zyyy65Latn26Zyyy6Latn26Zyyy47LatnZyyy15LatnZyyy5Latn23ZyyyLatn31ZyyyLatn449Zyyy39Latn5Zyyy5",
    "Bopo2Zyyy20Zinh112Grek4ZyyyGrek3Zzzz2Grek4ZyyyGrekZzzz4GrekZyyyGrekZyyyGrek3ZzzzGrekZzzz",
    "Grek20ZzzzGrek63Copt14Grek16Cyrl133Zinh2Cyrl169ZzzzArmn38Zzzz2Armn50Zzzz2Armn3ZzzzHebr55",
    "Zzzz8Hebr27Zzzz4Hebr6Zzzz11Arab5ZyyyArab6ZyyyArab14ZyyyArab3ZyyyArab32ZyyyArab10Zinh11Arab26",
    "ZinhArab108ZyyyArab34Syrc14ZzzzSyrc60Zzzz2Syrc3Arab48Thaa50Zzzz14Nkoo59Zzzz2Nkoo3Samr46Zzzz2",
    "Samr15ZzzzMand28Zzzz2MandZzzzSyrc11Zzzz5Arab34Zzzz5Arab75ZyyyArab29Deva81Zinh4Deva15Zyyy2",
    "Deva26Beng4ZzzzBeng8Zzzz2Beng2Zzzz2Beng22ZzzzBeng7ZzzzBengZzzz3Beng4Zzzz2Beng9Zzzz2Beng2",
    "Zzzz2Beng4Zzzz8BengZzzz4Beng2ZzzzBeng5Zzzz2Beng25Zzzz2Guru3ZzzzGuru6Zzzz4Guru2Zzzz2Guru22",
    "ZzzzGuru7ZzzzGuru2ZzzzGuru2ZzzzGuru2Zzzz2GuruZzzzGuru5Zzzz4Guru2Zzzz2Guru3Zzzz3GuruZzzz7",
    "Guru4ZzzzGuruZzzz7Guru17Zzzz10Gujr3ZzzzGujr9ZzzzGujr3ZzzzGujr22ZzzzGujr7ZzzzGujr2ZzzzGujr5",
    "Zzzz2Gujr10ZzzzGujr3ZzzzGujr3Zzzz2GujrZzzz15Gujr4Zzzz2Gujr12Zzzz7Gujr7ZzzzOrya3ZzzzOrya8",
    "Zzzz2Orya2Zzzz2Orya22ZzzzOrya7ZzzzOrya2ZzzzOrya5Zzzz2Orya9Zzzz2Orya2Zzzz2Orya3Zzzz7Orya3",
    "Zzzz4Orya2ZzzzOrya5Zzzz2Orya18Zzzz10Taml2ZzzzTaml6Zzzz3Taml3ZzzzTaml4Zzzz3Taml2ZzzzTamlZzzz",
    "Taml2Zzzz3Taml2Zzzz3Taml3Zzzz3Taml12Zzzz4Taml5Zzzz3Taml3ZzzzTaml4Zzzz2TamlZzzz6TamlZzzz14",
    "Taml21Zzzz5Telu13ZzzzTelu3ZzzzTelu23ZzzzTelu16Zzzz2Telu9ZzzzTelu3ZzzzTelu4Zzzz7Telu2Zzzz",
    "Telu3ZzzzTelu2Zzzz2Telu4Zzzz2Telu10Zzzz7Telu9Knda13ZzzzKnda3ZzzzKnda23ZzzzKnda10ZzzzKnda5",
    "Zzzz2Knda9ZzzzKnda3ZzzzKnda4Zzzz7Knda2Zzzz5Knda3ZzzzKnda4Zzzz2Knda10ZzzzKnda3Zzzz12Mlym13",
    "ZzzzMlym3ZzzzMlym51ZzzzMlym3ZzzzMlym6Zzzz4Mlym16Zzzz2Mlym26ZzzzSinh3ZzzzSinh18Zzzz3Sinh24",
    "ZzzzSinh9ZzzzSinhZzzz2Sinh7Zzzz3SinhZzzz4Sinh6ZzzzSinhZzzzSinh8Zzzz6Sinh10Zzzz2Sinh3Zzzz12",
    "Thai58Zzzz4ZyyyThai28Zzzz37Laoo2ZzzzLaooZzzzLaoo5ZzzzLaoo24ZzzzLaooZzzzLaoo23Zzzz2Laoo5Zzzz",
    "LaooZzzzLaoo7ZzzzLaoo10Zzzz2Laoo4Zzzz32Tibt72ZzzzTibt36Zzzz4Tibt39ZzzzTibt36ZzzzTibt15Zzzz",
    "Tibt7Zyyy4Tibt2Zzzz37Mymr160Geor38ZzzzGeorZzzz5GeorZzzz2Geor43ZyyyGeor4Hang256Ethi73Zzzz",
    "Ethi4Zzzz2Ethi7ZzzzEthiZzzzEthi4Zzzz2Ethi41ZzzzEthi4Zzzz2Ethi33ZzzzEthi4Zzzz2Ethi7ZzzzEthi",
    "ZzzzEthi4Zzzz2Ethi15ZzzzEthi57ZzzzEthi4Zzzz2Ethi67Zzzz2Ethi32Zzzz3Ethi26Zzzz6Cher86Zzzz2",
    "Cher6Zzzz2Cans640Ogam29Zzzz3Runr75Zyyy3Runr11Zzzz7Tglg22Zzzz9TglgHano21Zyyy2Zzzz9Buhd20",
    "Zzzz12Tagb13ZzzzTagb3ZzzzTagb2Zzzz12Khmr94Zzzz2Khmr10Zzzz6Khmr10Zzzz6Mong2Zyyy2MongZyyy",
    "Mong20Zzzz6Mong89Zzzz7Mong43Zzzz5Cans70Zzzz10Limb31ZzzzLimb12Zzzz4Limb12Zzzz4LimbZzzz3Limb12",
    "Tale30Zzzz2Tale5Zzzz11Talu44Zzzz4Talu26Zzzz6Talu11Zzzz3Talu2Khmr32Bugi28Zzzz2Bugi2Lana63Zzzz",
    "Lana29Zzzz2Lana11Zzzz6Lana10Zzzz6Lana14Zzzz2Zinh46Zzzz2Zinh12Zzzz20Bali77ZzzzBali50Sund64",
    "Batk52Zzzz8Batk4Lepc56Zzzz3Lepc15Zzzz3Lepc3Olck48Cyrl11Zzzz5Geor43Zzzz2Geor3Sund8Zzzz8Zinh3",
    "ZyyyZinh13ZyyyZinh7Zyyy4ZinhZyyy6ZinhZyyy3Zinh2ZyyyZzzz5Latn38Grek5CyrlLatn49Grek5Latn4Grek5",
    "Latn13CyrlLatn70GrekZinh64Latn256Grek22Zzzz2Grek6Zzzz2Grek38Zzzz2Grek6Zzzz2Grek8ZzzzGrekZzzz",
    "GrekZzzzGrekZzzzGrek31Zzzz2Grek53ZzzzGrek15ZzzzGrek14Zzzz2Grek6ZzzzGrek19Zzzz2Grek3ZzzzGrek9",
    "ZzzzZyyy12Zinh2Zyyy87ZzzzZyyy11LatnZzzz2Zyyy11LatnZyyy15ZzzzLatn13Zzzz3Zyyy34Zzzz14Zinh33",
    "Zzzz15Zyyy38GrekZyyy3Latn2Zyyy6LatnZyyy27LatnZyyy17Latn41Zyyy3Zzzz4Zyyy666Zzzz22Zyyy11Zzzz21",
    "Zyyy928Brai256Zyyy628Zzzz2Zyyy138Glag96Latn32Copt116Zzzz5Copt7Geor38ZzzzGeorZzzz5GeorZzzz2",
    "Tfng56Zzzz7Tfng2Zzzz14TfngEthi23Zzzz9Ethi7ZzzzEthi7ZzzzEthi7ZzzzEthi7ZzzzEthi7ZzzzEthi7Zzzz",
    "Ethi7ZzzzEthi7ZzzzCyrl32Zyyy94Zzzz34Hani26ZzzzHani89Zzzz12Hani214Zzzz26Zyyy21HaniZyyyHani",
    "Zyyy25Hani9Zinh4Hang2Zyyy8Hani4Zyyy4ZzzzHira86Zzzz2Zinh2Zyyy2Hira3ZyyyKana90Zyyy2Kana3Zzzz5",
    "Bopo43ZzzzHang94ZzzzZyyy16Bopo32Zyyy38Zzzz9ZyyyKana16Hang31ZzzzZyyy64Hang31Zyyy81Kana47Zyyy",
    "Kana88Zyyy168Hani6592Zyyy64Hani20992Yiii1165Zzzz3Yiii55Zzzz9Lisu48Vaii300Zzzz20Cyrl96Bamu88",
    "Zzzz8Zyyy34Latn102Zyyy3Latn82Zzzz20Latn15Sylo45Zzzz3Zyyy10Zzzz6Phag56Zzzz8Saur70Zzzz8Saur12",
    "Zzzz6Deva32Kali46ZyyyKaliRjng36Zzzz11RjngHang29Zzzz3Java78ZzzzZyyyJava10Zzzz4Java2Mymr31Zzzz",
    "Cham55Zzzz9Cham14Zzzz2Cham10Zzzz2Cham4Mymr32Tavt67Zzzz24Tavt5Mtei23Zzzz10Ethi6Zzzz2Ethi6",
    "Zzzz2Ethi6Zzzz9Ethi7ZzzzEthi7ZzzzLatn43ZyyyLatn9GrekLatn4Zyyy2Zzzz4Cher80Mtei46Zzzz2Mtei10",
    "Zzzz6Hang11172Zzzz12Hang23Zzzz4Hang49Zzzz8452Hani366Zzzz2Hani106Zzzz38Latn7Zzzz12Armn5Zzzz5",
    "Hebr26ZzzzHebr5ZzzzHebrZzzzHebr2ZzzzHebr2ZzzzHebr10Arab494Zyyy2Arab144Zzzz32Arab16Zinh16",
    "Zyyy10Zzzz6Zinh14Cyrl2Zyyy35ZzzzZyyy19ZzzzZyyy4Zzzz4Arab5ZzzzArab135Zzzz2ZyyyZzzzZyyy32",
    "Latn26Zyyy6Latn26Zyyy11Kana10ZyyyKana45Zyyy2Hang31Zzzz3Hang6Zzzz2Hang6Zzzz2Hang6Zzzz2Hang3",
    "Zzzz3Zyyy7ZzzzZyyy7Zzzz10Zyyy5Zzzz2Linb12ZzzzLinb26ZzzzLinb19ZzzzLinb2ZzzzLinb15Zzzz2Linb14",
    "Zzzz34Linb123Zzzz5Zyyy3Zzzz4Zyyy45Zzzz3Zyyy9Grek79ZzzzZyyy13Zzzz3GrekZzzz47Zyyy45ZinhZzzz130",
    "Lyci29Zzzz3Cari49Zzzz15ZinhZyyy27Zzzz4Ital36Zzzz9Ital3Goth27Zzzz5Perm43Zzzz5Ugar30ZzzzUgar",
    "Xpeo36Zzzz4Xpeo14Zzzz42Dsrt80Shaw48Osma30Zzzz2Osma10Zzzz6Osge36Zzzz4Osge36Zzzz4Elba40Zzzz8",
    "Aghb52Zzzz11AghbVith11ZzzzVith15ZzzzVith7ZzzzVith2ZzzzVith11ZzzzVith15ZzzzVith7ZzzzVith2",
    "Zzzz3Todr52Zzzz12Lina311Zzzz9Lina22Zzzz10Lina8Zzzz24Latn6ZzzzLatn42ZzzzLatn9Zzzz69Cprt6Zzzz2",
    "CprtZzzzCprt44ZzzzCprt2Zzzz3CprtZzzz2CprtArmi22ZzzzArmi9Palm32Nbat31Zzzz8Nbat9Zzzz48Hatr19",
    "ZzzzHatr2Zzzz5Hatr5Phnx28Zzzz3PhnxLydi26Zzzz5LydiSidt26Zzzz38Mero32Merc24Zzzz4Merc20Zzzz2",
    "Merc46Khar4ZzzzKhar2Zzzz5Khar8ZzzzKhar3ZzzzKhar29Zzzz2Khar3Zzzz4Khar10Zzzz7Khar9Zzzz7Sarb32",
    "Narb32Zzzz32Mani39Zzzz4Mani12Zzzz9Avst54Zzzz3Avst7Prti22Zzzz2Prti8Phli19Zzzz5Phli8Phlp18",
    "Zzzz7Phlp4Zzzz12Phlp7Zzzz80Orkh73Zzzz55Hung51Zzzz13Hung51Zzzz7Hung6Rohg40Zzzz8Rohg10Zzzz6",
    "Gara38Zzzz3Gara29Zzzz8Gara2Zzzz208Arab31ZzzzYezi42ZzzzYezi3Zzzz2Yezi2Zzzz16Arab6Zzzz8Arab9",
    "Zzzz33Arab6Sogo40Zzzz8Sogd42Zzzz22Ougr26Zzzz38Chrs28Zzzz20Elym23Zzzz9Brah78Zzzz4Brah36Zzzz9",
    "BrahKthi67Zzzz10KthiZzzz2Sora25Zzzz7Sora10Zzzz6Cakm53ZzzzCakm18Zzzz8Mahj39Zzzz9Shrd96Zzzz",
    "Sinh20Zzzz11Khoj18ZzzzKhoj47Zzzz62Mult7ZzzzMultZzzzMult4ZzzzMult15ZzzzMult11Zzzz6Sind59Zzzz5",
    "Sind10Zzzz6Gran4ZzzzGran8Zzzz2Gran2Zzzz2Gran22ZzzzGran7ZzzzGran2ZzzzGran5ZzzzZinhGran9Zzzz2",
    "Gran2Zzzz2Gran3Zzzz2GranZzzz6GranZzzz5Gran7Zzzz2Gran7Zzzz3Gran5Zzzz11Tutg10ZzzzTutgZzzz2Tutg",
    "ZzzzTutg38ZzzzTutg10ZzzzTutgZzzz2TutgZzzzTutg4ZzzzTutg10ZzzzTutg2Zzzz8Tutg2Zzzz29Newa92Zzzz",
    "Newa5Zzzz30Tirh72Zzzz8Tirh10Zzzz166Sidd54Zzzz2Sidd38Zzzz34Modi69Zzzz11Modi10Zzzz6Mong13",
    "Zzzz19Takr58Zzzz6Takr10Zzzz6Mymr20Zzzz28Ahom27Zzzz2Ahom15Zzzz4Ahom23Zzzz185Dogr60Zzzz100",
    "Wara83Zzzz12WaraDiak7Zzzz2DiakZzzz2Diak8ZzzzDiak2ZzzzDiak30ZzzzDiak2Zzzz2Diak12Zzzz9Diak10",
    "Zzzz70Nand8Zzzz2Nand46Zzzz2Nand11Zzzz27Zanb72Zzzz8Soyo83Zzzz13Cans16Pauc57Zzzz7Deva10Zzzz86",
    "Shrd8Zzzz88Sunu34Zzzz14Sunu10Zzzz6Bhks9ZzzzBhks45ZzzzBhks14Zzzz10Bhks29Zzzz3Marc32Zzzz2",
    "Marc22ZzzzMarc14Zzzz73Gonm7ZzzzGonm2ZzzzGonm44Zzzz3GonmZzzzGonm2ZzzzGonm9Zzzz8Gonm10Zzzz6",
    "Gong6ZzzzGong2ZzzzGong37ZzzzGong2ZzzzGong6Zzzz7Gong10Zzzz6Tols44Zzzz4Tols10Zzzz246Maka25",
    "Zzzz7Kawi17ZzzzKawi41Zzzz3Kawi29Zzzz85LisuZzzz15Taml50Zzzz13TamlXsux922Zzzz102Xsux111Zzzz",
    "Xsux5Zzzz11Xsux196Zzzz2636Cpmn99Zzzz13Egyp1110Zzzz10Egyp3995Zzzz5Hluw583Zzzz6841Gukh58",
    "Zzzz1734Bamu569Zzzz7Mroo31ZzzzMroo10Zzzz4Mroo2Tnsa79ZzzzTnsa10Zzzz6Bass30Zzzz2Bass6Zzzz10",
    "Hmng70Zzzz10Hmng10ZzzzHmng7ZzzzHmng21Zzzz5Hmng19Zzzz432Krai58Zzzz198Medf91Zzzz5Berf25Zzzz2",
    "Berf25Zzzz44Plrd75Zzzz4Plrd57Zzzz7Plrd17Zzzz64TangNshuHani2KitsZzzz11Hani7Zzzz9Tang6912",
    "Kits470Zzzz41KitsTang31Zzzz97Tang115Zzzz8701Kana4ZzzzKana7ZzzzKana2ZzzzKanaHira287Kana3",
    "Zzzz15HiraZzzz29Hira3Zzzz2KanaZzzz14Kana4Zzzz8Nshu396Zzzz2308Dupl107Zzzz5Dupl13Zzzz3Dupl9",
    "Zzzz7Dupl10Zzzz2Dupl4Zyyy4Zzzz3932Zyyy253Zzzz3Zyyy436Zzzz6Zyyy23Zzzz15Zyyy17Zzzz15Zinh46",
    "Zzzz2Zinh23Zzzz9Zyyy116Zzzz60Zyyy246Zzzz10Zyyy39Zzzz2Zyyy62Zinh3Zyyy17Zinh8Zyyy2Zinh7Zyyy30",
    "Zinh4Zyyy61Zzzz21Grek70Zzzz122Zyyy20Zzzz12Zyyy20Zzzz12Zyyy87Zzzz9Zyyy25Zzzz135Zyyy85Zzzz",
    "Zyyy71ZzzzZyyy2Zzzz2ZyyyZzzz2Zyyy2Zzzz2Zyyy4ZzzzZyyy12ZzzzZyyyZzzzZyyy7ZzzzZyyy65ZzzzZyyy4",
    "Zzzz2Zyyy8ZzzzZyyy7ZzzzZyyy28ZzzzZyyy4ZzzzZyyy5ZzzzZyyyZzzz3Zyyy7ZzzzZyyy340Zzzz2Zyyy292",
    "Zzzz2Zyyy50Sgnw652Zzzz15Sgnw5ZzzzSgnw15Zzzz1104Latn31Zzzz6Latn6Zzzz213Glag7ZzzzGlag17Zzzz2",
    "Glag7ZzzzGlag2ZzzzGlag5Zzzz5Cyrl62Zzzz33CyrlZzzz112Hmnp45Zzzz3Hmnp14Zzzz2Hmnp10Zzzz4Hmnp2",
    "Zzzz320Toto31Zzzz17Wcho58Zzzz5WchoZzzz464Nagm42Zzzz214Onao43Zzzz4OnaoZzzz192Tayo31ZzzzTayo22",
    "Zzzz8Tayo2Zzzz224Ethi7ZzzzEthi4ZzzzEthi2ZzzzEthi15ZzzzMend197Zzzz2Mend16Zzzz41Adlm76Zzzz4",
    "Adlm10Zzzz4Adlm2Zzzz785Zyyy68Zzzz76Zyyy61Zzzz194Arab4ZzzzArab27ZzzzArab2ZzzzArabZzzz2Arab",
    "ZzzzArab10ZzzzArab4ZzzzArabZzzzArabZzzz6ArabZzzz4ArabZzzzArabZzzzArabZzzzArab3ZzzzArab2Zzzz",
    "ArabZzzz2ArabZzzzArabZzzzArabZzzzArabZzzzArabZzzzArab2ZzzzArabZzzz2Arab4ZzzzArab7ZzzzArab4",
    "ZzzzArab4ZzzzArabZzzzArab10ZzzzArab17Zzzz5Arab3ZzzzArab5ZzzzArab17Zzzz52Arab2Zzzz270Zyyy44",
    "Zzzz4Zyyy100Zzzz12Zyyy15Zzzz2Zyyy15ZzzzZyyy15ZzzzZyyy37Zzzz10Zyyy174Zzzz56Zyyy26HiraZyyy2",
    "Zzzz13Zyyy44Zzzz4Zyyy9Zzzz7Zyyy2Zzzz14Zyyy6Zzzz154Zyyy985Zzzz3Zyyy17Zzzz3Zyyy13Zzzz3Zyyy218",
    "Zzzz6Zyyy12Zzzz4ZyyyZzzz15Zyyy12Zzzz4Zyyy56Zzzz8Zyyy10Zzzz6Zyyy40Zzzz8Zyyy30Zzzz2Zyyy12Zzzz4",
    "Zyyy2Zzzz14Zyyy9Zzzz39Zyyy344Zzzz8Zyyy14Zzzz2Zyyy13Zzzz3Zyyy11Zzzz3Zyyy57ZzzzZyyyZzzz4Zyyy16",
    "Zzzz2Zyyy12Zzzz4Zyyy10Zzzz7Zyyy147ZzzzZyyy103Zzzz1029Hani42720Zzzz32Hani4382Zzzz2Hani5774",
    "Zzzz2Hani7473Zzzz15Hani622Zzzz2466Hani542Zzzz1506Hani4939Zzzz5Hani8490Zzzz707463ZyyyZzzz30",
    "Zyyy96Zzzz128Zinh240Zzzz196112"]

/-- The scripts of the code points. -/
def runs : Runs Text :=
  Runs.ofText id (table.flatMap String.toList)

/-- The script of a character. -/
def of (c : Char) : Text :=
  (runs.valueAt c.toNat).getD "Zzzz"

/-- Code points that are used in several scripts, or in others than their own, with the codes of
the scripts. -/
def shared : List (Nat × Nat × String) :=
  [(0xB7, 0xB7, "AvstCariCoptDuplElbaGeorGlagGongGothGrekHaniLatnLydiMahjPermShaw"),
    (0x2BC, 0x2BC, "BengCyrlDevaLatnLisuThaiToto"), (0x2C7, 0x2C7, "BopoLatn"),
    (0x2C9, 0x2CB, "BopoLatn"), (0x2CD, 0x2CD, "LatnLisu"), (0x2D7, 0x2D7, "LatnThai"),
    (0x2D9, 0x2D9, "BopoLatn"), (0x300, 0x300, "CherCoptCyrlGrekLatnPermSunuTale"),
    (0x301, 0x301, "CherCyrlGrekLatnOsgeSunuTaleTodr"), (0x302, 0x302, "CherCyrlLatnTfng"),
    (0x303, 0x303, "GlagLatnSunuSyrcThai"),
    (0x304, 0x304, "AghbCherCoptCyrlGothGrekLatnOsgeSyrcTfngTodr"),
    (0x305, 0x305, "CoptElbaGlagGothKanaLatn"), (0x306, 0x306, "CyrlGrekLatnPermTfng"),
    (0x307, 0x307, "CoptDuplHebrLatnPermSyrcTaleTfngTodr"),
    (0x308, 0x308, "ArmnCyrlDuplGothGrekHebrLatnPermSyrcTaleTfng"), (0x309, 0x309, "LatnTfng"),
    (0x30A, 0x30A, "DuplLatnSyrc"), (0x30B, 0x30B, "CherCyrlLatnOsge"),
    (0x30C, 0x30C, "CherLatnTale"), (0x30D, 0x30D, "LatnSunu"), (0x30E, 0x30E, "EthiLatn"),
    (0x310, 0x310, "LatnSunu"), (0x311, 0x311, "CyrlLatnTodr"), (0x313, 0x313, "GrekLatnPermTodr"),
    (0x323, 0x323, "CherDuplKanaLatnSyrcTfng"), (0x324, 0x324, "CherDuplLatnSyrc"),
    (0x325, 0x325, "LatnSyrc"), (0x32D, 0x32D, "LatnSunuSyrc"), (0x32E, 0x32E, "LatnSyrc"),
    (0x330, 0x330, "CherLatnSyrc"), (0x331, 0x331, "AghbCherGothLatnSunuSyrcThai"),
    (0x342, 0x342, "Grek"), (0x345, 0x345, "Grek"), (0x358, 0x358, "LatnOsge"),
    (0x35E, 0x35E, "AghbLatnTodr"), (0x363, 0x36F, "Latn"), (0x374, 0x375, "CoptGrek"),
    (0x483, 0x483, "CyrlPerm"), (0x484, 0x484, "CyrlGlag"), (0x485, 0x486, "CyrlLatn"),
    (0x487, 0x487, "CyrlGlag"), (0x589, 0x589, "ArmnGeorGlag"),
    (0x60C, 0x60C, "ArabGaraNkooRohgSyrcThaaYezi"), (0x61B, 0x61B, "ArabGaraNkooRohgSyrcThaaYezi"),
    (0x61C, 0x61C, "ArabSyrcThaa"), (0x61F, 0x61F, "AdlmArabGaraNkooRohgSyrcThaaYezi"),
    (0x640, 0x640, "AdlmArabMandManiOugrPhlpRohgSogdSyrc"), (0x64B, 0x655, "ArabSyrc"),
    (0x660, 0x669, "ArabThaaYezi"), (0x670, 0x670, "ArabSyrc"), (0x6D4, 0x6D4, "ArabRohg"),
    (0x951, 0x951, "BengDevaGranGujrGuruKndaLatnMlymNandNewaOryaShrdTamlTeluTirh"),
    (0x952, 0x952, "BengDevaGranGujrGuruKndaLatnMlymNewaOryaTamlTeluTirh"),
    (0x964, 0x964,
      "BengDevaDogrGongGonmGranGujrGuruKndaMahjMlymNandOnaoOryaSindSinhSyloTakrTaml" ++
      "TeluTirh"),
    (0x965, 0x965,
      "BengDevaDogrGongGonmGranGujrGukhGuruKndaLimbMahjMlymNandOnaoOryaSindSinhSylo" ++
      "TakrTamlTeluTirh"),
    (0x966, 0x96F, "DevaDogrKthiMahj"), (0x9E6, 0x9EF, "BengCakmSylo"), (0xA66, 0xA6F, "GuruMult"),
    (0xAE6, 0xAEF, "GujrKhoj"), (0xBE6, 0xBF3, "GranTaml"), (0xCE6, 0xCEF, "KndaNandTutg"),
    (0x1040, 0x1049, "CakmMymrTale"), (0x10FB, 0x10FB, "GeorGlagLatn"), (0x16EB, 0x16ED, "Runr"),
    (0x1735, 0x1736, "BuhdHanoTagbTglg"), (0x1802, 0x1803, "MongPhag"),
    (0x1805, 0x1805, "MongPhag"), (0x1CD0, 0x1CD0, "BengDevaGranKnda"), (0x1CD1, 0x1CD1, "Deva"),
    (0x1CD2, 0x1CD2, "BengDevaGranKnda"), (0x1CD3, 0x1CD3, "DevaGranKnda"),
    (0x1CD4, 0x1CD4, "Deva"), (0x1CD5, 0x1CD5, "BengDevaNewaTeluTirh"),
    (0x1CD6, 0x1CD6, "BengDevaTelu"), (0x1CD7, 0x1CD7, "DevaNewaShrd"),
    (0x1CD8, 0x1CD8, "BengDevaNewaTelu"), (0x1CD9, 0x1CD9, "DevaShrd"),
    (0x1CDA, 0x1CDA, "DevaKndaMlymOryaTamlTelu"), (0x1CDB, 0x1CDB, "Deva"),
    (0x1CDC, 0x1CDD, "DevaShrd"), (0x1CDE, 0x1CDF, "Deva"), (0x1CE0, 0x1CE0, "DevaShrd"),
    (0x1CE1, 0x1CE1, "BengDeva"), (0x1CE2, 0x1CE2, "DevaNewaTirh"), (0x1CE3, 0x1CE8, "Deva"),
    (0x1CE9, 0x1CE9, "DevaNandNewa"), (0x1CEA, 0x1CEA, "BengDevaShrd"),
    (0x1CEB, 0x1CEB, "DevaNewa"), (0x1CEC, 0x1CEC, "Deva"), (0x1CED, 0x1CED, "BengDevaNewaShrd"),
    (0x1CEE, 0x1CF1, "Deva"), (0x1CF2, 0x1CF2, "BengDevaGranKndaMlymNandOryaSinhTeluTirhTutg"),
    (0x1CF3, 0x1CF3, "DevaGran"), (0x1CF4, 0x1CF4, "DevaGranKndaTutg"),
    (0x1CF5, 0x1CF6, "BengDeva"), (0x1CF7, 0x1CF7, "Beng"), (0x1CF8, 0x1CF9, "DevaGran"),
    (0x1CFA, 0x1CFA, "Nand"), (0x1DC0, 0x1DC1, "Grek"), (0x1DF8, 0x1DF8, "CyrlLatnSyrc"),
    (0x1DFA, 0x1DFA, "Syrc"), (0x202F, 0x202F, "LatnMongPhag"), (0x204F, 0x204F, "AdlmArab"),
    (0x205A, 0x205A, "CariGeorGlagHungLyciOrkh"), (0x205D, 0x205D, "CariGrekHungMero"),
    (0x20F0, 0x20F0, "DevaGranLatn"), (0x2E17, 0x2E17, "CoptLatn"), (0x2E30, 0x2E30, "AvstOrkh"),
    (0x2E31, 0x2E31, "AvstCariGeorHungKthiLydiSamr"), (0x2E3C, 0x2E3C, "Dupl"),
    (0x2E41, 0x2E41, "AdlmArabHung"), (0x2E43, 0x2E43, "CyrlGlag"), (0x2FF0, 0x2FFF, "HaniTang"),
    (0x3001, 0x3001, "BopoHangHaniHiraKanaMongYiii"),
    (0x3002, 0x3002, "BopoHangHaniHiraKanaMongPhagYiii"), (0x3003, 0x3003, "BopoHangHaniHiraKana"),
    (0x3006, 0x3006, "Hani"), (0x3008, 0x3009, "BopoHangHaniHiraKanaMongTibtYiii"),
    (0x300A, 0x300B, "BopoHangHaniHiraKanaLisuMongTibtYiii"),
    (0x300C, 0x3011, "BopoHangHaniHiraKanaYiii"), (0x3013, 0x3013, "BopoHangHaniHiraKana"),
    (0x3014, 0x301B, "BopoHangHaniHiraKanaYiii"), (0x301C, 0x301F, "BopoHangHaniHiraKana"),
    (0x302A, 0x302D, "BopoHani"), (0x3030, 0x3030, "BopoHangHaniHiraKana"),
    (0x3031, 0x3035, "HiraKana"), (0x3037, 0x3037, "BopoHangHaniHiraKana"),
    (0x303C, 0x303D, "HaniHiraKana"), (0x303E, 0x303F, "Hani"), (0x3099, 0x309C, "HiraKana"),
    (0x30A0, 0x30A0, "HiraKana"), (0x30FB, 0x30FB, "BopoHangHaniHiraKanaYiii"),
    (0x30FC, 0x30FC, "HiraKana"), (0x3190, 0x319F, "Hani"), (0x31C0, 0x31E5, "Hani"),
    (0x31EF, 0x31EF, "HaniTang"), (0x3220, 0x3247, "Hani"), (0x3280, 0x32B0, "Hani"),
    (0x32C0, 0x32CB, "Hani"), (0x32FF, 0x32FF, "Hani"), (0x3358, 0x3370, "Hani"),
    (0x337B, 0x337F, "Hani"), (0x33E0, 0x33FE, "Hani"), (0xA66F, 0xA66F, "CyrlGlag"),
    (0xA700, 0xA707, "HaniLatn"),
    (0xA830, 0xA832, "DevaDogrGujrGuruKhojKndaKthiMahjMlymModiNandShrdSindTakrTirhTutg"),
    (0xA833, 0xA835, "DevaDogrGujrGuruKhojKndaKthiMahjModiNandShrdSindTakrTirhTutg"),
    (0xA836, 0xA837, "DevaDogrGujrGuruKhojKthiMahjModiSindTakrTirh"),
    (0xA838, 0xA838, "DevaDogrGujrGuruKhojKthiMahjModiShrdSindTakrTirh"),
    (0xA839, 0xA839, "DevaDogrGujrGuruKhojKthiMahjModiSindTakrTirh"),
    (0xA8F1, 0xA8F1, "BengDevaTutg"), (0xA8F3, 0xA8F3, "DevaTaml"),
    (0xA92E, 0xA92E, "KaliLatnMymr"), (0xA9CF, 0xA9CF, "BugiJava"), (0xFD3E, 0xFD3F, "ArabNkoo"),
    (0xFDF2, 0xFDF2, "ArabThaa"), (0xFDFD, 0xFDFD, "ArabThaa"),
    (0xFE45, 0xFE46, "BopoHangHaniHiraKana"), (0xFF61, 0xFF65, "BopoHangHaniHiraKanaYiii"),
    (0xFF70, 0xFF70, "HiraKana"), (0xFF9E, 0xFF9F, "HiraKana"), (0x10100, 0x10101, "CpmnCprtLinb"),
    (0x10102, 0x10102, "CprtLinb"), (0x10107, 0x10133, "CprtLinaLinb"),
    (0x10137, 0x1013F, "CprtLinb"), (0x102E0, 0x102FB, "ArabCopt"), (0x10AF2, 0x10AF2, "ManiOugr"),
    (0x11301, 0x11301, "GranTaml"), (0x11303, 0x11303, "GranTaml"), (0x1133B, 0x1133C, "GranTaml"),
    (0x11FD0, 0x11FD1, "GranTaml"), (0x11FD3, 0x11FD3, "GranTaml"), (0x1BCA0, 0x1BCA3, "Dupl"),
    (0x1D360, 0x1D371, "Hani"), (0x1F250, 0x1F251, "Hani")]

/-- Whether a code is among codes of four letters that stand one behind the other. -/
def isAmong (code : Text) : Text → Bool
  | a :: b :: c :: d :: codes => [a, b, c, d] = code || isAmong code codes
  | _ => false

/-- Whether a character is used in a script. -/
def isUsedIn (code : Text) (c : Char) : Bool :=
  match shared.find? fun (first, last, _) => first ≤ c.toNat && c.toNat ≤ last with
  | some (_, _, codes) => isAmong code codes.toList
  | none => of c = code

end StudyGraph.Text.Script
