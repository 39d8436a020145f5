import RecordFilter.Unicode.Table

/-!
# Scripts

The table assigns every code point its script by the four-letter name. Where a
character is used in several scripts, or in another one than its own, a second
table lists the four-letter names of all of them.
-/

namespace RecordFilter.Unicode

/-- The script of every code point, in run notation. -/
def scriptTable : String :=
  String.join [
    "65Zyyy26Latn6Zyyy26Latn47Zyyy1Latn15Zyyy1Latn5Zyyy23Latn1Zyyy31Latn1Zyyy449Latn39Zyyy5Latn5Z",
    "yyy2Bopo20Zyyy112Zinh4Grek1Zyyy3Grek2Zzzz4Grek1Zyyy1Grek4Zzzz1Grek1Zyyy1Grek1Zyyy3Grek1Zzzz1",
    "Grek1Zzzz20Grek1Zzzz63Grek14Copt16Grek133Cyrl2Zinh169Cyrl1Zzzz38Armn2Zzzz50Armn2Zzzz3Armn1Zz",
    "zz55Hebr8Zzzz27Hebr4Zzzz6Hebr11Zzzz5Arab1Zyyy6Arab1Zyyy14Arab1Zyyy3Arab1Zyyy32Arab1Zyyy10Ara",
    "b11Zinh26Arab1Zinh108Arab1Zyyy34Arab14Syrc1Zzzz60Syrc2Zzzz3Syrc48Arab50Thaa14Zzzz59Nkoo2Zzzz",
    "3Nkoo46Samr2Zzzz15Samr1Zzzz28Mand2Zzzz1Mand1Zzzz11Syrc5Zzzz31Arab1Zzzz2Arab5Zzzz75Arab1Zyyy2",
    "9Arab81Deva4Zinh15Deva2Zyyy26Deva4Beng1Zzzz8Beng2Zzzz2Beng2Zzzz22Beng1Zzzz7Beng1Zzzz1Beng3Zz",
    "zz4Beng2Zzzz9Beng2Zzzz2Beng2Zzzz4Beng8Zzzz1Beng4Zzzz2Beng1Zzzz5Beng2Zzzz25Beng2Zzzz3Guru1Zzz",
    "z6Guru4Zzzz2Guru2Zzzz22Guru1Zzzz7Guru1Zzzz2Guru1Zzzz2Guru1Zzzz2Guru2Zzzz1Guru1Zzzz5Guru4Zzzz",
    "2Guru2Zzzz3Guru3Zzzz1Guru7Zzzz4Guru1Zzzz1Guru7Zzzz17Guru10Zzzz3Gujr1Zzzz9Gujr1Zzzz3Gujr1Zzzz",
    "22Gujr1Zzzz7Gujr1Zzzz2Gujr1Zzzz5Gujr2Zzzz10Gujr1Zzzz3Gujr1Zzzz3Gujr2Zzzz1Gujr15Zzzz4Gujr2Zzz",
    "z12Gujr7Zzzz7Gujr1Zzzz3Orya1Zzzz8Orya2Zzzz2Orya2Zzzz22Orya1Zzzz7Orya1Zzzz2Orya1Zzzz5Orya2Zzz",
    "z9Orya2Zzzz2Orya2Zzzz3Orya7Zzzz3Orya4Zzzz2Orya1Zzzz5Orya2Zzzz18Orya10Zzzz2Taml1Zzzz6Taml3Zzz",
    "z3Taml1Zzzz4Taml3Zzzz2Taml1Zzzz1Taml1Zzzz2Taml3Zzzz2Taml3Zzzz3Taml3Zzzz12Taml4Zzzz5Taml3Zzzz",
    "3Taml1Zzzz4Taml2Zzzz1Taml6Zzzz1Taml14Zzzz21Taml5Zzzz13Telu1Zzzz3Telu1Zzzz23Telu1Zzzz16Telu2Z",
    "zzz9Telu1Zzzz3Telu1Zzzz4Telu7Zzzz2Telu1Zzzz3Telu2Zzzz1Telu2Zzzz4Telu2Zzzz10Telu7Zzzz9Telu13K",
    "nda1Zzzz3Knda1Zzzz23Knda1Zzzz10Knda1Zzzz5Knda2Zzzz9Knda1Zzzz3Knda1Zzzz4Knda7Zzzz2Knda6Zzzz2K",
    "nda1Zzzz4Knda2Zzzz10Knda1Zzzz3Knda12Zzzz13Mlym1Zzzz3Mlym1Zzzz51Mlym1Zzzz3Mlym1Zzzz6Mlym4Zzzz",
    "16Mlym2Zzzz26Mlym1Zzzz3Sinh1Zzzz18Sinh3Zzzz24Sinh1Zzzz9Sinh1Zzzz1Sinh2Zzzz7Sinh3Zzzz1Sinh4Zz",
    "zz6Sinh1Zzzz1Sinh1Zzzz8Sinh6Zzzz10Sinh2Zzzz3Sinh12Zzzz58Thai4Zzzz1Zyyy28Thai37Zzzz2Laoo1Zzzz",
    "1Laoo1Zzzz5Laoo1Zzzz24Laoo1Zzzz1Laoo1Zzzz23Laoo2Zzzz5Laoo1Zzzz1Laoo1Zzzz7Laoo1Zzzz10Laoo2Zzz",
    "z4Laoo32Zzzz72Tibt1Zzzz36Tibt4Zzzz39Tibt1Zzzz36Tibt1Zzzz15Tibt1Zzzz7Tibt4Zyyy2Tibt37Zzzz160M",
    "ymr38Geor1Zzzz1Geor5Zzzz1Geor2Zzzz43Geor1Zyyy4Geor256Hang73Ethi1Zzzz4Ethi2Zzzz7Ethi1Zzzz1Eth",
    "i1Zzzz4Ethi2Zzzz41Ethi1Zzzz4Ethi2Zzzz33Ethi1Zzzz4Ethi2Zzzz7Ethi1Zzzz1Ethi1Zzzz4Ethi2Zzzz15Et",
    "hi1Zzzz57Ethi1Zzzz4Ethi2Zzzz67Ethi2Zzzz32Ethi3Zzzz26Ethi6Zzzz86Cher2Zzzz6Cher2Zzzz640Cans29O",
    "gam3Zzzz75Runr3Zyyy11Runr7Zzzz22Tglg9Zzzz1Tglg21Hano2Zyyy9Zzzz20Buhd12Zzzz13Tagb1Zzzz3Tagb1Z",
    "zzz2Tagb12Zzzz94Khmr2Zzzz10Khmr6Zzzz10Khmr6Zzzz2Mong2Zyyy1Mong1Zyyy20Mong6Zzzz89Mong7Zzzz43M",
    "ong5Zzzz70Cans10Zzzz31Limb1Zzzz12Limb4Zzzz12Limb4Zzzz1Limb3Zzzz12Limb30Tale2Zzzz5Tale11Zzzz4",
    "4Talu4Zzzz26Talu6Zzzz11Talu3Zzzz2Talu32Khmr28Bugi2Zzzz2Bugi63Lana1Zzzz29Lana2Zzzz11Lana6Zzzz",
    "10Lana6Zzzz14Lana2Zzzz31Zinh49Zzzz77Bali1Zzzz50Bali64Sund52Batk8Zzzz4Batk56Lepc3Zzzz15Lepc3Z",
    "zzz3Lepc48Olck11Cyrl5Zzzz43Geor2Zzzz3Geor8Sund8Zzzz3Zinh1Zyyy13Zinh1Zyyy7Zinh4Zyyy1Zinh6Zyyy",
    "1Zinh3Zyyy2Zinh1Zyyy5Zzzz38Latn5Grek1Cyrl49Latn5Grek4Latn5Grek13Latn1Cyrl70Latn1Grek64Zinh25",
    "6Latn22Grek2Zzzz6Grek2Zzzz38Grek2Zzzz6Grek2Zzzz8Grek1Zzzz1Grek1Zzzz1Grek1Zzzz1Grek1Zzzz31Gre",
    "k2Zzzz53Grek1Zzzz15Grek1Zzzz14Grek2Zzzz6Grek1Zzzz19Grek2Zzzz3Grek1Zzzz9Grek1Zzzz12Zyyy2Zinh8",
    "7Zyyy1Zzzz11Zyyy1Latn2Zzzz11Zyyy1Latn15Zyyy1Zzzz13Latn3Zzzz33Zyyy15Zzzz33Zinh15Zzzz38Zyyy1Gr",
    "ek3Zyyy2Latn6Zyyy1Latn27Zyyy1Latn17Zyyy41Latn3Zyyy4Zzzz666Zyyy22Zzzz11Zyyy21Zzzz928Zyyy256Br",
    "ai628Zyyy2Zzzz32Zyyy1Zzzz105Zyyy96Glag32Latn116Copt5Zzzz7Copt38Geor1Zzzz1Geor5Zzzz1Geor2Zzzz",
    "56Tfng7Zzzz2Tfng14Zzzz1Tfng23Ethi9Zzzz7Ethi1Zzzz7Ethi1Zzzz7Ethi1Zzzz7Ethi1Zzzz7Ethi1Zzzz7Eth",
    "i1Zzzz7Ethi1Zzzz7Ethi1Zzzz32Cyrl94Zyyy34Zzzz26Hani1Zzzz89Hani12Zzzz214Hani26Zzzz21Zyyy1Hani1",
    "Zyyy1Hani25Zyyy9Hani4Zinh2Hang8Zyyy4Hani4Zyyy1Zzzz86Hira2Zzzz2Zinh2Zyyy3Hira1Zyyy90Kana2Zyyy",
    "3Kana5Zzzz43Bopo1Zzzz94Hang1Zzzz16Zyyy32Bopo38Zyyy9Zzzz1Zyyy16Kana31Hang1Zzzz64Zyyy31Hang81Z",
    "yyy47Kana1Zyyy88Kana168Zyyy6592Hani64Zyyy20992Hani1165Yiii3Zzzz55Yiii9Zzzz48Lisu300Vaii20Zzz",
    "z96Cyrl88Bamu8Zzzz34Zyyy102Latn3Zyyy67Latn2Zzzz2Latn1Zzzz1Latn1Zzzz8Latn21Zzzz14Latn45Sylo3Z",
    "zzz10Zyyy6Zzzz56Phag8Zzzz70Saur8Zzzz12Saur6Zzzz32Deva46Kali1Zyyy1Kali36Rjng11Zzzz1Rjng29Hang",
    "3Zzzz78Java1Zzzz1Zyyy10Java4Zzzz2Java31Mymr1Zzzz55Cham9Zzzz14Cham2Zzzz10Cham2Zzzz4Cham32Mymr",
    "67Tavt24Zzzz5Tavt23Mtei10Zzzz6Ethi2Zzzz6Ethi2Zzzz6Ethi9Zzzz7Ethi1Zzzz7Ethi1Zzzz43Latn1Zyyy9L",
    "atn1Grek4Latn2Zyyy4Zzzz80Cher46Mtei2Zzzz10Mtei6Zzzz11172Hang12Zzzz23Hang4Zzzz49Hang8452Zzzz3",
    "66Hani2Zzzz106Hani38Zzzz7Latn12Zzzz5Armn5Zzzz26Hebr1Zzzz5Hebr1Zzzz1Hebr1Zzzz2Hebr1Zzzz2Hebr1",
    "Zzzz10Hebr115Arab16Zzzz363Arab2Zyyy80Arab2Zzzz54Arab7Zzzz1Arab32Zzzz16Arab16Zinh10Zyyy6Zzzz1",
    "4Zinh2Cyrl35Zyyy1Zzzz19Zyyy1Zzzz4Zyyy4Zzzz5Arab1Zzzz135Arab2Zzzz1Zyyy1Zzzz32Zyyy26Latn6Zyyy2",
    "6Latn11Zyyy10Kana1Zyyy45Kana2Zyyy31Hang3Zzzz6Hang2Zzzz6Hang2Zzzz6Hang2Zzzz3Hang3Zzzz7Zyyy1Zz",
    "zz7Zyyy10Zzzz5Zyyy2Zzzz12Linb1Zzzz26Linb1Zzzz19Linb1Zzzz2Linb1Zzzz15Linb2Zzzz14Linb34Zzzz123",
    "Linb5Zzzz3Zyyy4Zzzz45Zyyy3Zzzz9Zyyy79Grek1Zzzz13Zyyy3Zzzz1Grek47Zzzz45Zyyy1Zinh130Zzzz29Lyci",
    "3Zzzz49Cari15Zzzz1Zinh27Zyyy4Zzzz36Ital9Zzzz3Ital27Goth5Zzzz43Perm5Zzzz30Ugar1Zzzz1Ugar36Xpe",
    "o4Zzzz14Xpeo42Zzzz80Dsrt48Shaw30Osma2Zzzz10Osma6Zzzz36Osge4Zzzz36Osge4Zzzz40Elba8Zzzz52Aghb1",
    "1Zzzz1Aghb11Vith1Zzzz15Vith1Zzzz7Vith1Zzzz2Vith1Zzzz11Vith1Zzzz15Vith1Zzzz7Vith1Zzzz2Vith3Zz",
    "zz52Todr12Zzzz311Lina9Zzzz22Lina10Zzzz8Lina24Zzzz6Latn1Zzzz42Latn1Zzzz9Latn69Zzzz6Cprt2Zzzz1",
    "Cprt1Zzzz44Cprt1Zzzz2Cprt3Zzzz1Cprt2Zzzz1Cprt22Armi1Zzzz9Armi32Palm31Nbat8Zzzz9Nbat48Zzzz19H",
    "atr1Zzzz2Hatr5Zzzz5Hatr28Phnx3Zzzz1Phnx26Lydi5Zzzz1Lydi64Zzzz32Mero24Merc4Zzzz20Merc2Zzzz46M",
    "erc4Khar1Zzzz2Khar5Zzzz8Khar1Zzzz3Khar1Zzzz29Khar2Zzzz3Khar4Zzzz10Khar7Zzzz9Khar7Zzzz32Sarb3",
    "2Narb32Zzzz39Mani4Zzzz12Mani9Zzzz54Avst3Zzzz7Avst22Prti2Zzzz8Prti19Phli5Zzzz8Phli18Phlp7Zzzz",
    "4Phlp12Zzzz7Phlp80Zzzz73Orkh55Zzzz51Hung13Zzzz51Hung7Zzzz6Hung40Rohg8Zzzz10Rohg6Zzzz38Gara3Z",
    "zzz29Gara8Zzzz2Gara208Zzzz31Arab1Zzzz42Yezi1Zzzz3Yezi2Zzzz2Yezi16Zzzz3Arab55Zzzz4Arab40Sogo8",
    "Zzzz42Sogd22Zzzz26Ougr38Zzzz28Chrs20Zzzz23Elym9Zzzz78Brah4Zzzz36Brah9Zzzz1Brah67Kthi10Zzzz1K",
    "thi2Zzzz25Sora7Zzzz10Sora6Zzzz53Cakm1Zzzz18Cakm8Zzzz39Mahj9Zzzz96Shrd1Zzzz20Sinh11Zzzz18Khoj",
    "1Zzzz47Khoj62Zzzz7Mult1Zzzz1Mult1Zzzz4Mult1Zzzz15Mult1Zzzz11Mult6Zzzz59Sind5Zzzz10Sind6Zzzz4",
    "Gran1Zzzz8Gran2Zzzz2Gran2Zzzz22Gran1Zzzz7Gran1Zzzz2Gran1Zzzz5Gran1Zzzz1Zinh9Gran2Zzzz2Gran2Z",
    "zzz3Gran2Zzzz1Gran6Zzzz1Gran5Zzzz7Gran2Zzzz7Gran3Zzzz5Gran11Zzzz10Tutg1Zzzz1Tutg2Zzzz1Tutg1Z",
    "zzz38Tutg1Zzzz10Tutg1Zzzz1Tutg2Zzzz1Tutg1Zzzz4Tutg1Zzzz10Tutg1Zzzz2Tutg8Zzzz2Tutg29Zzzz92New",
    "a1Zzzz5Newa30Zzzz72Tirh8Zzzz10Tirh166Zzzz54Sidd2Zzzz38Sidd34Zzzz69Modi11Zzzz10Modi6Zzzz13Mon",
    "g19Zzzz58Takr6Zzzz10Takr6Zzzz20Mymr28Zzzz27Ahom2Zzzz15Ahom4Zzzz23Ahom185Zzzz60Dogr100Zzzz83W",
    "ara12Zzzz1Wara7Diak2Zzzz1Diak2Zzzz8Diak1Zzzz2Diak1Zzzz30Diak1Zzzz2Diak2Zzzz12Diak9Zzzz10Diak",
    "70Zzzz8Nand2Zzzz46Nand2Zzzz11Nand27Zzzz72Zanb8Zzzz83Soyo13Zzzz16Cans57Pauc7Zzzz10Deva182Zzzz",
    "34Sunu14Zzzz10Sunu6Zzzz9Bhks1Zzzz45Bhks1Zzzz14Bhks10Zzzz29Bhks3Zzzz32Marc2Zzzz22Marc1Zzzz14M",
    "arc73Zzzz7Gonm1Zzzz2Gonm1Zzzz44Gonm3Zzzz1Gonm1Zzzz2Gonm1Zzzz9Gonm8Zzzz10Gonm6Zzzz6Gong1Zzzz2",
    "Gong1Zzzz37Gong1Zzzz2Gong1Zzzz6Gong7Zzzz10Gong310Zzzz25Maka7Zzzz17Kawi1Zzzz41Kawi3Zzzz29Kawi",
    "85Zzzz1Lisu15Zzzz50Taml13Zzzz1Taml922Xsux102Zzzz111Xsux1Zzzz5Xsux11Zzzz196Xsux2636Zzzz99Cpmn",
    "13Zzzz1110Egyp10Zzzz3995Egyp5Zzzz583Hluw6841Zzzz58Gukh1734Zzzz569Bamu7Zzzz31Mroo1Zzzz10Mroo4",
    "Zzzz2Mroo79Tnsa1Zzzz10Tnsa6Zzzz30Bass2Zzzz6Bass10Zzzz70Hmng10Zzzz10Hmng1Zzzz7Hmng1Zzzz21Hmng",
    "5Zzzz19Hmng432Zzzz58Krai198Zzzz91Medf101Zzzz75Plrd4Zzzz57Plrd7Zzzz17Plrd64Zzzz1Tang1Nshu2Han",
    "i1Kits11Zzzz2Hani14Zzzz6136Tang8Zzzz768Tang470Kits41Zzzz1Kits9Tang8935Zzzz4Kana1Zzzz7Kana1Zz",
    "zz2Kana1Zzzz1Kana287Hira3Kana15Zzzz1Hira29Zzzz3Hira2Zzzz1Kana14Zzzz4Kana8Zzzz396Nshu2308Zzzz",
    "107Dupl5Zzzz13Dupl3Zzzz9Dupl7Zzzz10Dupl2Zzzz4Dupl4Zyyy3932Zzzz250Zyyy6Zzzz436Zyyy76Zzzz46Zin",
    "h2Zzzz23Zinh9Zzzz116Zyyy60Zzzz246Zyyy10Zzzz39Zyyy2Zzzz62Zyyy3Zinh17Zyyy8Zinh2Zyyy7Zinh30Zyyy",
    "4Zinh61Zyyy21Zzzz70Grek122Zzzz20Zyyy12Zzzz20Zyyy12Zzzz87Zyyy9Zzzz25Zyyy135Zzzz85Zyyy1Zzzz71Z",
    "yyy1Zzzz2Zyyy2Zzzz1Zyyy2Zzzz2Zyyy2Zzzz4Zyyy1Zzzz12Zyyy1Zzzz1Zyyy1Zzzz7Zyyy1Zzzz65Zyyy1Zzzz4Z",
    "yyy2Zzzz8Zyyy1Zzzz7Zyyy1Zzzz28Zyyy1Zzzz4Zyyy1Zzzz5Zyyy1Zzzz1Zyyy3Zzzz7Zyyy1Zzzz340Zyyy2Zzzz2",
    "92Zyyy2Zzzz50Zyyy652Sgnw15Zzzz5Sgnw1Zzzz15Sgnw1104Zzzz31Latn6Zzzz6Latn213Zzzz7Glag1Zzzz17Gla",
    "g2Zzzz7Glag1Zzzz2Glag1Zzzz5Glag5Zzzz62Cyrl33Zzzz1Cyrl112Zzzz45Hmnp3Zzzz14Hmnp2Zzzz10Hmnp4Zzz",
    "z2Hmnp320Zzzz31Toto17Zzzz58Wcho5Zzzz1Wcho464Zzzz42Nagm214Zzzz43Onao4Zzzz1Onao480Zzzz7Ethi1Zz",
    "zz4Ethi1Zzzz2Ethi1Zzzz15Ethi1Zzzz197Mend2Zzzz16Mend41Zzzz76Adlm4Zzzz10Adlm4Zzzz2Adlm785Zzzz6",
    "8Zyyy76Zzzz61Zyyy194Zzzz4Arab1Zzzz27Arab1Zzzz2Arab1Zzzz1Arab2Zzzz1Arab1Zzzz10Arab1Zzzz4Arab1",
    "Zzzz1Arab1Zzzz1Arab6Zzzz1Arab4Zzzz1Arab1Zzzz1Arab1Zzzz1Arab1Zzzz3Arab1Zzzz2Arab1Zzzz1Arab2Zz",
    "zz1Arab1Zzzz1Arab1Zzzz1Arab1Zzzz1Arab1Zzzz1Arab1Zzzz2Arab1Zzzz1Arab2Zzzz4Arab1Zzzz7Arab1Zzzz",
    "4Arab1Zzzz4Arab1Zzzz1Arab1Zzzz10Arab1Zzzz17Arab5Zzzz3Arab1Zzzz5Arab1Zzzz17Arab52Zzzz2Arab270",
    "Zzzz44Zyyy4Zzzz100Zyyy12Zzzz15Zyyy2Zzzz15Zyyy1Zzzz15Zyyy1Zzzz37Zyyy10Zzzz174Zyyy56Zzzz26Zyyy",
    "1Hira2Zyyy13Zzzz44Zyyy4Zzzz9Zyyy7Zzzz2Zyyy14Zzzz6Zyyy154Zzzz984Zyyy4Zzzz17Zyyy3Zzzz13Zyyy3Zz",
    "zz119Zyyy4Zzzz95Zyyy6Zzzz12Zyyy4Zzzz1Zyyy15Zzzz12Zyyy4Zzzz56Zyyy8Zzzz10Zyyy6Zzzz40Zyyy8Zzzz3",
    "0Zyyy2Zzzz12Zyyy4Zzzz2Zyyy62Zzzz340Zyyy12Zzzz14Zyyy2Zzzz13Zyyy3Zzzz10Zyyy5Zzzz56Zyyy7Zzzz15Z",
    "yyy2Zzzz11Zyyy6Zzzz9Zyyy7Zzzz147Zyyy1Zzzz102Zyyy1030Zzzz42720Hani32Zzzz4154Hani6Zzzz222Hani2",
    "Zzzz5762Hani14Zzzz7473Hani15Zzzz622Hani2466Zzzz542Hani1506Zzzz4939Hani5Zzzz4192Hani711761Zzz",
    "z1Zyyy30Zzzz96Zyyy128Zzzz240Zinh196112Zzzz"]

/-- The scripts that use a character, where they are not just its own script,
in run notation. -/
def scriptExtensionTable : String :=
  String.join [
    "183-1AvstCariCoptDuplElbaGeorGlagGongGothGrekHaniLatnLydiMahjPermShaw516-1BengCyrlDevaLatnLi",
    "suThaiToto10-1BopoLatn1-3BopoLatn1-1LatnLisu9-1LatnThai1-1BopoLatn38-1CherCoptCyrlGrekLatnPe",
    "rmSunuTale1CherCyrlGrekLatnOsgeSunuTaleTodr1CherCyrlLatnTfng1GlagLatnSunuSyrcThai1AghbCherCo",
    "ptCyrlGothGrekLatnOsgeSyrcTfngTodr1CoptElbaGlagGothKanaLatn1CyrlGrekLatnPermTfng1CoptDuplHeb",
    "rLatnPermSyrcTaleTfngTodr1ArmnCyrlDuplGothGrekHebrLatnPermSyrcTaleTfng1LatnTfng1DuplLatnSyrc",
    "1CherCyrlLatnOsge1CherLatnTale1LatnSunu1EthiLatn1-1LatnSunu1CyrlLatnTodr1-1GrekLatnPermTodr1",
    "2-1LatnSyrc2-1CherDuplKanaLatnSyrcTfng1CherDuplLatnSyrc1LatnSyrc7-1LatnSunuSyrc1LatnSyrc1-1C",
    "herLatnSyrc1AghbCherGothLatnSunuThai16-1Grek2-1Grek18-1LatnOsge5-1AghbLatnTodr4-13Latn4-2Cop",
    "tGrek269-1CyrlPerm1CyrlGlag2CyrlLatn1CyrlGlag257-1ArmnGeorGlag130-1ArabGaraNkooRohgSyrcThaaY",
    "ezi14-1ArabGaraNkooRohgSyrcThaaYezi1ArabSyrcThaa2-1AdlmArabGaraNkooRohgSyrcThaaYezi32-1AdlmA",
    "rabMandManiOugrPhlpRohgSogdSyrc10-11ArabSyrc10-10ArabThaaYezi6-1ArabSyrc99-1ArabRohg636-1Ben",
    "gDevaGranGujrGuruKndaLatnMlymOryaShrdTamlTeluTirh1BengDevaGranGujrGuruKndaLatnMlymOryaTamlTe",
    "luTirh17-1BengDevaDogrGongGonmGranGujrGuruKndaMahjMlymNandOnaoOryaSindSinhSyloTakrTamlTeluTi",
    "rh1BengDevaDogrGongGonmGranGujrGukhGuruKndaLimbMahjMlymNandOnaoOryaSindSinhSyloTakrTamlTeluT",
    "irh10DevaDogrKthiMahj118-10BengCakmSylo118-10GuruMult118-10GujrKhoj246-14GranTaml242-10KndaN",
    "andTutg848-10CakmMymrTale177-1GeorGlagLatn1519-3Runr71-2BuhdHanoTagbTglg203-2MongPhag1-1Mong",
    "Phag1226-1BengDevaGranKnda1Deva1BengDevaGranKnda1DevaGranKnda1Deva2BengDeva1DevaShrd1BengDev",
    "a1DevaShrd1DevaKndaMlymOryaTamlTelu1Deva2DevaShrd2Deva1DevaShrd1BengDeva7Deva1DevaNand1BengD",
    "eva2Deva1BengDeva4Deva1BengDevaGranKndaMlymNandOryaSinhTeluTirhTutg1DevaGran1DevaGranKndaTut",
    "g2BengDeva1Beng2DevaGran1Nand197-2Grek54-1CyrlLatnSyrc1-1Syrc564-1LatnMongPhag31-1AdlmArab10",
    "-1CariGeorGlagHungLyciOrkh2-1CariGrekHungMero146-1DevaGranLatn3366-1CoptLatn24-1AvstOrkh1Avs",
    "tCariGeorHungKthiLydiSamr10-1Dupl4-1AdlmArabHung1-1CyrlGlag428-16HaniTang1-1BopoHangHaniHira",
    "KanaMongYiii1BopoHangHaniHiraKanaMongPhagYiii1BopoHangHaniHiraKana2-1Hani1-2BopoHangHaniHira",
    "KanaMongTibtYiii2BopoHangHaniHiraKanaLisuMongTibtYiii6BopoHangHaniHiraKanaYiii1-1BopoHangHan",
    "iHiraKana8BopoHangHaniHiraKanaYiii4BopoHangHaniHiraKana10-4BopoHani2-1BopoHangHaniHiraKana5H",
    "iraKana1-1BopoHangHaniHiraKana4-2HaniHiraKana2Hani89-4HiraKana3-1HiraKana90-1BopoHangHaniHir",
    "aKanaYiii1HiraKana147-16Hani32-38Hani9-1HaniTang48-40Hani56-49Hani15-12Hani51-1Hani88-25Hani",
    "10-5Hani96-31Hani29296-1CyrlGlag144-8HaniLatn296-3DevaDogrGujrGuruKhojKndaKthiMahjMlymModiNa",
    "ndShrdSindTakrTirhTutg3DevaDogrGujrGuruKhojKndaKthiMahjModiNandShrdSindTakrTirhTutg2DevaDogr",
    "GujrGuruKhojKthiMahjModiSindTakrTirh1DevaDogrGujrGuruKhojKthiMahjModiShrdSindTakrTirh1DevaDo",
    "grGujrGuruKhojKthiMahjModiSindTakrTirh183-1BengDevaTutg1-1DevaTaml58-1KaliLatnMymr160-1BugiJ",
    "ava21358-2ArabNkoo178-1ArabThaa10-1ArabThaa71-2BopoHangHaniHiraKana282-5BopoHangHaniHiraKana",
    "Yiii10-1HiraKana45-2HiraKana352-2CpmnCprtLinb1CprtLinb4-45CprtLinaLinb3-9CprtLinb416-28ArabC",
    "opt2038-1ManiOugr2062-1GranTaml1-1GranTaml55-2GranTaml3219-2GranTaml1-1GranTaml40140-4Dupl58",
    "20-18Hani7902-2Hani986542-"]

/-- The names of each script, the four-letter one first. -/
def scriptNames : List (List String) := [
  ["Adlm", "Adlam"],
  ["Aghb", "Caucasian_Albanian"],
  ["Ahom"],
  ["Arab", "Arabic"],
  ["Armi", "Imperial_Aramaic"],
  ["Armn", "Armenian"],
  ["Avst", "Avestan"],
  ["Bali", "Balinese"],
  ["Bamu", "Bamum"],
  ["Bass", "Bassa_Vah"],
  ["Batk", "Batak"],
  ["Beng", "Bengali"],
  ["Bhks", "Bhaiksuki"],
  ["Bopo", "Bopomofo"],
  ["Brah", "Brahmi"],
  ["Brai", "Braille"],
  ["Bugi", "Buginese"],
  ["Buhd", "Buhid"],
  ["Cakm", "Chakma"],
  ["Cans", "Canadian_Aboriginal"],
  ["Cari", "Carian"],
  ["Cham"],
  ["Cher", "Cherokee"],
  ["Chrs", "Chorasmian"],
  ["Copt", "Coptic", "Qaac"],
  ["Cpmn", "Cypro_Minoan"],
  ["Cprt", "Cypriot"],
  ["Cyrl", "Cyrillic"],
  ["Deva", "Devanagari"],
  ["Diak", "Dives_Akuru"],
  ["Dogr", "Dogra"],
  ["Dsrt", "Deseret"],
  ["Dupl", "Duployan"],
  ["Egyp", "Egyptian_Hieroglyphs"],
  ["Elba", "Elbasan"],
  ["Elym", "Elymaic"],
  ["Ethi", "Ethiopic"],
  ["Gara", "Garay"],
  ["Geor", "Georgian"],
  ["Glag", "Glagolitic"],
  ["Gong", "Gunjala_Gondi"],
  ["Gonm", "Masaram_Gondi"],
  ["Goth", "Gothic"],
  ["Gran", "Grantha"],
  ["Grek", "Greek"],
  ["Gujr", "Gujarati"],
  ["Gukh", "Gurung_Khema"],
  ["Guru", "Gurmukhi"],
  ["Hang", "Hangul"],
  ["Hani", "Han"],
  ["Hano", "Hanunoo"],
  ["Hatr", "Hatran"],
  ["Hebr", "Hebrew"],
  ["Hira", "Hiragana"],
  ["Hluw", "Anatolian_Hieroglyphs"],
  ["Hmng", "Pahawh_Hmong"],
  ["Hmnp", "Nyiakeng_Puachue_Hmong"],
  ["Hung", "Old_Hungarian"],
  ["Ital", "Old_Italic"],
  ["Java", "Javanese"],
  ["Kali", "Kayah_Li"],
  ["Kana", "Katakana"],
  ["Kawi"],
  ["Khar", "Kharoshthi"],
  ["Khmr", "Khmer"],
  ["Khoj", "Khojki"],
  ["Kits", "Khitan_Small_Script"],
  ["Knda", "Kannada"],
  ["Krai", "Kirat_Rai"],
  ["Kthi", "Kaithi"],
  ["Lana", "Tai_Tham"],
  ["Laoo", "Lao"],
  ["Latn", "Latin"],
  ["Lepc", "Lepcha"],
  ["Limb", "Limbu"],
  ["Lina", "Linear_A"],
  ["Linb", "Linear_B"],
  ["Lisu"],
  ["Lyci", "Lycian"],
  ["Lydi", "Lydian"],
  ["Mahj", "Mahajani"],
  ["Maka", "Makasar"],
  ["Mand", "Mandaic"],
  ["Mani", "Manichaean"],
  ["Marc", "Marchen"],
  ["Medf", "Medefaidrin"],
  ["Mend", "Mende_Kikakui"],
  ["Merc", "Meroitic_Cursive"],
  ["Mero", "Meroitic_Hieroglyphs"],
  ["Mlym", "Malayalam"],
  ["Modi"],
  ["Mong", "Mongolian"],
  ["Mroo", "Mro"],
  ["Mtei", "Meetei_Mayek"],
  ["Mult", "Multani"],
  ["Mymr", "Myanmar"],
  ["Nagm", "Nag_Mundari"],
  ["Nand", "Nandinagari"],
  ["Narb", "Old_North_Arabian"],
  ["Nbat", "Nabataean"],
  ["Newa"],
  ["Nkoo", "Nko"],
  ["Nshu", "Nushu"],
  ["Ogam", "Ogham"],
  ["Olck", "Ol_Chiki"],
  ["Onao", "Ol_Onal"],
  ["Orkh", "Old_Turkic"],
  ["Orya", "Oriya"],
  ["Osge", "Osage"],
  ["Osma", "Osmanya"],
  ["Ougr", "Old_Uyghur"],
  ["Palm", "Palmyrene"],
  ["Pauc", "Pau_Cin_Hau"],
  ["Perm", "Old_Permic"],
  ["Phag", "Phags_Pa"],
  ["Phli", "Inscriptional_Pahlavi"],
  ["Phlp", "Psalter_Pahlavi"],
  ["Phnx", "Phoenician"],
  ["Plrd", "Miao"],
  ["Prti", "Inscriptional_Parthian"],
  ["Rjng", "Rejang"],
  ["Rohg", "Hanifi_Rohingya"],
  ["Runr", "Runic"],
  ["Samr", "Samaritan"],
  ["Sarb", "Old_South_Arabian"],
  ["Saur", "Saurashtra"],
  ["Sgnw", "SignWriting"],
  ["Shaw", "Shavian"],
  ["Shrd", "Sharada"],
  ["Sidd", "Siddham"],
  ["Sind", "Khudawadi"],
  ["Sinh", "Sinhala"],
  ["Sogd", "Sogdian"],
  ["Sogo", "Old_Sogdian"],
  ["Sora", "Sora_Sompeng"],
  ["Soyo", "Soyombo"],
  ["Sund", "Sundanese"],
  ["Sunu", "Sunuwar"],
  ["Sylo", "Syloti_Nagri"],
  ["Syrc", "Syriac"],
  ["Tagb", "Tagbanwa"],
  ["Takr", "Takri"],
  ["Tale", "Tai_Le"],
  ["Talu", "New_Tai_Lue"],
  ["Taml", "Tamil"],
  ["Tang", "Tangut"],
  ["Tavt", "Tai_Viet"],
  ["Telu", "Telugu"],
  ["Tfng", "Tifinagh"],
  ["Tglg", "Tagalog"],
  ["Thaa", "Thaana"],
  ["Thai"],
  ["Tibt", "Tibetan"],
  ["Tirh", "Tirhuta"],
  ["Tnsa", "Tangsa"],
  ["Todr", "Todhri"],
  ["Toto"],
  ["Tutg", "Tulu_Tigalari"],
  ["Ugar", "Ugaritic"],
  ["Vaii", "Vai"],
  ["Vith", "Vithkuqi"],
  ["Wara", "Warang_Citi"],
  ["Wcho", "Wancho"],
  ["Xpeo", "Old_Persian"],
  ["Xsux", "Cuneiform"],
  ["Yezi", "Yezidi"],
  ["Yiii", "Yi"],
  ["Zanb", "Zanabazar_Square"],
  ["Zinh", "Inherited", "Qaai"],
  ["Zyyy", "Common"]]

/-- The code points of a script. -/
def inScript (label : String) : CharSet := withLabel (runs scriptTable) (· == label)

/-- The four-letter names that a label of the second table lists. -/
def splitScripts : List Char → List String
  | a :: b :: c :: d :: rest => String.ofList [a, b, c, d] :: splitScripts rest
  | _ => []

/-- The code points that a script uses. -/
def usedByScript (label : String) : CharSet :=
  let extended := withLabel (runs scriptExtensionTable) (· != "-")
  ((inScript label).diff extended).union
    (withLabel (runs scriptExtensionTable) fun l => (splitScripts l.toList).contains label)

end RecordFilter.Unicode
