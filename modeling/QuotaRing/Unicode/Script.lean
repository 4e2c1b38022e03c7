import QuotaRing.Unicode.Runs

/-!
# Scripts

The script of every character, by the four letters that stand for it, and the
names under which scripts are known.
-/

namespace QuotaRing.Unicode

/-- The scripts by runs. -/
def scripts : Runs :=
  Runs.ofText 4 ("41Zyyy1aLatn6Zyyy1aLatn2fZyyy1LatnfZyyy1Latn5Zyyy17Latn1Zyyy1fLatn1Zyyy1c1Latn27Zyyy" ++
    "5Latn5Zyyy2Bopo14Zyyy70Zinh4Grek1Zyyy3Grek2Zzzz4Grek1Zyyy1Grek4Zzzz1Grek1Zyyy1Grek1Zyyy" ++
    "3Grek1Zzzz1Grek1Zzzz14Grek1Zzzz3fGrekeCopt10Grek85Cyrl2Zinha9Cyrl1Zzzz26Armn2Zzzz32Armn" ++
    "2Zzzz3Armn1Zzzz37Hebr8Zzzz1bHebr4Zzzz6HebrbZzzz5Arab1Zyyy6Arab1ZyyyeArab1Zyyy3Arab1Zyyy" ++
    "20Arab1ZyyyaArabbZinh1aArab1Zinh6cArab1Zyyy22ArabeSyrc1Zzzz3cSyrc2Zzzz3Syrc30Arab32Thaa" ++
    "eZzzz3bNkoo2Zzzz3Nkoo2eSamr2ZzzzfSamr1Zzzz1cMand2Zzzz1Mand1ZzzzbSyrc5Zzzz22Arab5Zzzz" ++
    "4bArab1Zyyy1dArab51Deva4ZinhfDeva2Zyyy1aDeva4Beng1Zzzz8Beng2Zzzz2Beng2Zzzz16Beng1Zzzz" ++
    "7Beng1Zzzz1Beng3Zzzz4Beng2Zzzz9Beng2Zzzz2Beng2Zzzz4Beng8Zzzz1Beng4Zzzz2Beng1Zzzz5Beng" ++
    "2Zzzz19Beng2Zzzz3Guru1Zzzz6Guru4Zzzz2Guru2Zzzz16Guru1Zzzz7Guru1Zzzz2Guru1Zzzz2Guru1Zzzz" ++
    "2Guru2Zzzz1Guru1Zzzz5Guru4Zzzz2Guru2Zzzz3Guru3Zzzz1Guru7Zzzz4Guru1Zzzz1Guru7Zzzz11Guru" ++
    "aZzzz3Gujr1Zzzz9Gujr1Zzzz3Gujr1Zzzz16Gujr1Zzzz7Gujr1Zzzz2Gujr1Zzzz5Gujr2ZzzzaGujr1Zzzz" ++
    "3Gujr1Zzzz3Gujr2Zzzz1GujrfZzzz4Gujr2ZzzzcGujr7Zzzz7Gujr1Zzzz3Orya1Zzzz8Orya2Zzzz2Orya" ++
    "2Zzzz16Orya1Zzzz7Orya1Zzzz2Orya1Zzzz5Orya2Zzzz9Orya2Zzzz2Orya2Zzzz3Orya7Zzzz3Orya4Zzzz" ++
    "2Orya1Zzzz5Orya2Zzzz12OryaaZzzz2Taml1Zzzz6Taml3Zzzz3Taml1Zzzz4Taml3Zzzz2Taml1Zzzz1Taml" ++
    "1Zzzz2Taml3Zzzz2Taml3Zzzz3Taml3ZzzzcTaml4Zzzz5Taml3Zzzz3Taml1Zzzz4Taml2Zzzz1Taml6Zzzz" ++
    "1TamleZzzz15Taml5ZzzzdTelu1Zzzz3Telu1Zzzz17Telu1Zzzz10Telu2Zzzz9Telu1Zzzz3Telu1Zzzz4Telu" ++
    "7Zzzz2Telu1Zzzz3Telu1Zzzz2Telu2Zzzz4Telu2ZzzzaTelu7Zzzz9TeludKnda1Zzzz3Knda1Zzzz17Knda" ++
    "1ZzzzaKnda1Zzzz5Knda2Zzzz9Knda1Zzzz3Knda1Zzzz4Knda7Zzzz2Knda5Zzzz3Knda1Zzzz4Knda2Zzzz" ++
    "aKnda1Zzzz3KndacZzzzdMlym1Zzzz3Mlym1Zzzz33Mlym1Zzzz3Mlym1Zzzz6Mlym4Zzzz10Mlym2Zzzz1aMlym" ++
    "1Zzzz3Sinh1Zzzz12Sinh3Zzzz18Sinh1Zzzz9Sinh1Zzzz1Sinh2Zzzz7Sinh3Zzzz1Sinh4Zzzz6Sinh1Zzzz" ++
    "1Sinh1Zzzz8Sinh6ZzzzaSinh2Zzzz3SinhcZzzz3aThai4Zzzz1Zyyy1cThai25Zzzz2Laoo1Zzzz1Laoo1Zzzz" ++
    "5Laoo1Zzzz18Laoo1Zzzz1Laoo1Zzzz17Laoo2Zzzz5Laoo1Zzzz1Laoo1Zzzz7Laoo1ZzzzaLaoo2Zzzz4Laoo" ++
    "20Zzzz48Tibt1Zzzz24Tibt4Zzzz27Tibt1Zzzz24Tibt1ZzzzfTibt1Zzzz7Tibt4Zyyy2Tibt25Zzzza0Mymr" ++
    "26Geor1Zzzz1Geor5Zzzz1Geor2Zzzz2bGeor1Zyyy4Geor100Hang49Ethi1Zzzz4Ethi2Zzzz7Ethi1Zzzz" ++
    "1Ethi1Zzzz4Ethi2Zzzz29Ethi1Zzzz4Ethi2Zzzz21Ethi1Zzzz4Ethi2Zzzz7Ethi1Zzzz1Ethi1Zzzz4Ethi" ++
    "2ZzzzfEthi1Zzzz39Ethi1Zzzz4Ethi2Zzzz43Ethi2Zzzz20Ethi3Zzzz1aEthi6Zzzz56Cher2Zzzz6Cher" ++
    "2Zzzz280Cans1dOgam3Zzzz4bRunr3ZyyybRunr7Zzzz16Tglg9Zzzz1Tglg15Hano2Zyyy9Zzzz14BuhdcZzzz" ++
    "dTagb1Zzzz3Tagb1Zzzz2TagbcZzzz5eKhmr2ZzzzaKhmr6ZzzzaKhmr6Zzzz2Mong2Zyyy1Mong1Zyyy14Mong" ++
    "6Zzzz59Mong7Zzzz2bMong5Zzzz46CansaZzzz1fLimb1ZzzzcLimb4ZzzzcLimb4Zzzz1Limb3ZzzzcLimb" ++
    "1eTale2Zzzz5TalebZzzz2cTalu4Zzzz1aTalu6ZzzzbTalu3Zzzz2Talu20Khmr1cBugi2Zzzz2Bugi3fLana" ++
    "1Zzzz1dLana2ZzzzbLana6ZzzzaLana6ZzzzeLana2Zzzz2eZinh2ZzzzcZinh14Zzzz4dBali1Zzzz32Bali" ++
    "40Sund34Batk8Zzzz4Batk38Lepc3ZzzzfLepc3Zzzz3Lepc30OlckbCyrl5Zzzz2bGeor2Zzzz3Geor8Sund" ++
    "8Zzzz3Zinh1ZyyydZinh1Zyyy7Zinh4Zyyy1Zinh6Zyyy1Zinh3Zyyy2Zinh1Zyyy5Zzzz26Latn5Grek1Cyrl" ++
    "31Latn5Grek4Latn5GrekdLatn1Cyrl46Latn1Grek40Zinh100Latn16Grek2Zzzz6Grek2Zzzz26Grek2Zzzz" ++
    "6Grek2Zzzz8Grek1Zzzz1Grek1Zzzz1Grek1Zzzz1Grek1Zzzz1fGrek2Zzzz35Grek1ZzzzfGrek1ZzzzeGrek" ++
    "2Zzzz6Grek1Zzzz13Grek2Zzzz3Grek1Zzzz9Grek1ZzzzcZyyy2Zinh57Zyyy1ZzzzbZyyy1Latn2ZzzzbZyyy" ++
    "1LatnfZyyy1ZzzzdLatn3Zzzz22ZyyyeZzzz21ZinhfZzzz26Zyyy1Grek3Zyyy2Latn6Zyyy1Latn1bZyyy" ++
    "1Latn11Zyyy29Latn3Zyyy4Zzzz29aZyyy16ZzzzbZyyy15Zzzz3a0Zyyy100Brai274Zyyy2Zzzz8aZyyy" ++
    "60Glag20Latn74Copt5Zzzz7Copt26Geor1Zzzz1Geor5Zzzz1Geor2Zzzz38Tfng7Zzzz2TfngeZzzz1Tfng" ++
    "17Ethi9Zzzz7Ethi1Zzzz7Ethi1Zzzz7Ethi1Zzzz7Ethi1Zzzz7Ethi1Zzzz7Ethi1Zzzz7Ethi1Zzzz7Ethi" ++
    "1Zzzz20Cyrl5eZyyy22Zzzz1aHani1Zzzz59HanicZzzzd6Hani1aZzzz15Zyyy1Hani1Zyyy1Hani19Zyyy" ++
    "9Hani4Zinh2Hang8Zyyy4Hani4Zyyy1Zzzz56Hira2Zzzz2Zinh2Zyyy3Hira1Zyyy5aKana2Zyyy3Kana5Zzzz" ++
    "2bBopo1Zzzz5eHang1Zzzz10Zyyy20Bopo26Zyyy9Zzzz1Zyyy10Kana1fHang1Zzzz40Zyyy1fHang51Zyyy" ++
    "2fKana1Zyyy58Kanaa8Zyyy19c0Hani40Zyyy5200Hani48dYiii3Zzzz37Yiii9Zzzz30Lisu12cVaii14Zzzz" ++
    "60Cyrl58Bamu8Zzzz22Zyyy66Latn3Zyyy52Latn14ZzzzfLatn2dSylo3ZzzzaZyyy6Zzzz38Phag8Zzzz" ++
    "46Saur8ZzzzcSaur6Zzzz20Deva2eKali1Zyyy1Kali24RjngbZzzz1Rjng1dHang3Zzzz4eJava1Zzzz1Zyyy" ++
    "aJava4Zzzz2Java1fMymr1Zzzz37Cham9ZzzzeCham2ZzzzaCham2Zzzz4Cham20Mymr43Tavt18Zzzz5Tavt" ++
    "17MteiaZzzz6Ethi2Zzzz6Ethi2Zzzz6Ethi9Zzzz7Ethi1Zzzz7Ethi1Zzzz2bLatn1Zyyy9Latn1Grek4Latn" ++
    "2Zyyy4Zzzz50Cher2eMtei2ZzzzaMtei6Zzzz2ba4HangcZzzz17Hang4Zzzz31Hang2104Zzzz16eHani2Zzzz" ++
    "6aHani26Zzzz7LatncZzzz5Armn5Zzzz1aHebr1Zzzz5Hebr1Zzzz1Hebr1Zzzz2Hebr1Zzzz2Hebr1ZzzzaHebr" ++
    "1eeArab2Zyyy90Arab20Zzzz10Arab10ZinhaZyyy6ZzzzeZinh2Cyrl23Zyyy1Zzzz13Zyyy1Zzzz4Zyyy4Zzzz" ++
    "5Arab1Zzzz87Arab2Zzzz1Zyyy1Zzzz20Zyyy1aLatn6Zyyy1aLatnbZyyyaKana1Zyyy2dKana2Zyyy1fHang" ++
    "3Zzzz6Hang2Zzzz6Hang2Zzzz6Hang2Zzzz3Hang3Zzzz7Zyyy1Zzzz7ZyyyaZzzz5Zyyy2ZzzzcLinb1Zzzz" ++
    "1aLinb1Zzzz13Linb1Zzzz2Linb1ZzzzfLinb2ZzzzeLinb22Zzzz7bLinb5Zzzz3Zyyy4Zzzz2dZyyy3Zzzz" ++
    "9Zyyy4fGrek1ZzzzdZyyy3Zzzz1Grek2fZzzz2dZyyy1Zinh82Zzzz1dLyci3Zzzz31CarifZzzz1Zinh1bZyyy" ++
    "4Zzzz24Ital9Zzzz3Ital1bGoth5Zzzz2bPerm5Zzzz1eUgar1Zzzz1Ugar24Xpeo4ZzzzeXpeo2aZzzz50Dsrt" ++
    "30Shaw1eOsma2ZzzzaOsma6Zzzz24Osge4Zzzz24Osge4Zzzz28Elba8Zzzz34AghbbZzzz1AghbbVith1Zzzz" ++
    "fVith1Zzzz7Vith1Zzzz2Vith1ZzzzbVith1ZzzzfVith1Zzzz7Vith1Zzzz2Vith3Zzzz34TodrcZzzz137Lina" ++
    "9Zzzz16LinaaZzzz8Lina18Zzzz6Latn1Zzzz2aLatn1Zzzz9Latn45Zzzz6Cprt2Zzzz1Cprt1Zzzz2cCprt" ++
    "1Zzzz2Cprt3Zzzz1Cprt2Zzzz1Cprt16Armi1Zzzz9Armi20Palm1fNbat8Zzzz9Nbat30Zzzz13Hatr1Zzzz" ++
    "2Hatr5Zzzz5Hatr1cPhnx3Zzzz1Phnx1aLydi5Zzzz1Lydi40Zzzz20Mero18Merc4Zzzz14Merc2Zzzz2eMerc" ++
    "4Khar1Zzzz2Khar5Zzzz8Khar1Zzzz3Khar1Zzzz1dKhar2Zzzz3Khar4ZzzzaKhar7Zzzz9Khar7Zzzz20Sarb" ++
    "20Narb20Zzzz27Mani4ZzzzcMani9Zzzz36Avst3Zzzz7Avst16Prti2Zzzz8Prti13Phli5Zzzz8Phli12Phlp" ++
    "7Zzzz4PhlpcZzzz7Phlp50Zzzz49Orkh37Zzzz33HungdZzzz33Hung7Zzzz6Hung28Rohg8ZzzzaRohg6Zzzz" ++
    "26Gara3Zzzz1dGara8Zzzz2Garad0Zzzz1fArab1Zzzz2aYezi1Zzzz3Yezi2Zzzz2Yezi10Zzzz6Arab8Zzzz" ++
    "9Arab21Zzzz6Arab28Sogo8Zzzz2aSogd16Zzzz1aOugr26Zzzz1cChrs14Zzzz17Elym9Zzzz4eBrah4Zzzz" ++
    "24Brah9Zzzz1Brah43KthiaZzzz1Kthi2Zzzz19Sora7ZzzzaSora6Zzzz35Cakm1Zzzz12Cakm8Zzzz27Mahj" ++
    "9Zzzz60Shrd1Zzzz14SinhbZzzz12Khoj1Zzzz2fKhoj3eZzzz7Mult1Zzzz1Mult1Zzzz4Mult1ZzzzfMult" ++
    "1ZzzzbMult6Zzzz3bSind5ZzzzaSind6Zzzz4Gran1Zzzz8Gran2Zzzz2Gran2Zzzz16Gran1Zzzz7Gran1Zzzz" ++
    "2Gran1Zzzz5Gran1Zzzz1Zinh9Gran2Zzzz2Gran2Zzzz3Gran2Zzzz1Gran6Zzzz1Gran5Zzzz7Gran2Zzzz" ++
    "7Gran3Zzzz5GranbZzzzaTutg1Zzzz1Tutg2Zzzz1Tutg1Zzzz26Tutg1ZzzzaTutg1Zzzz1Tutg2Zzzz1Tutg" ++
    "1Zzzz4Tutg1ZzzzaTutg1Zzzz2Tutg8Zzzz2Tutg1dZzzz5cNewa1Zzzz5Newa1eZzzz48Tirh8ZzzzaTirh" ++
    "a6Zzzz36Sidd2Zzzz26Sidd22Zzzz45ModibZzzzaModi6ZzzzdMong13Zzzz3aTakr6ZzzzaTakr6Zzzz14Mymr" ++
    "1cZzzz1bAhom2ZzzzfAhom4Zzzz17Ahomb9Zzzz3cDogr64Zzzz53WaracZzzz1Wara7Diak2Zzzz1Diak2Zzzz" ++
    "8Diak1Zzzz2Diak1Zzzz1eDiak1Zzzz2Diak2ZzzzcDiak9ZzzzaDiak46Zzzz8Nand2Zzzz2eNand2ZzzzbNand" ++
    "1bZzzz48Zanb8Zzzz53SoyodZzzz10Cans39Pauc7ZzzzaDeva56Zzzz8Shrd58Zzzz22SunueZzzzaSunu6Zzzz" ++
    "9Bhks1Zzzz2dBhks1ZzzzeBhksaZzzz1dBhks3Zzzz20Marc2Zzzz16Marc1ZzzzeMarc49Zzzz7Gonm1Zzzz" ++
    "2Gonm1Zzzz2cGonm3Zzzz1Gonm1Zzzz2Gonm1Zzzz9Gonm8ZzzzaGonm6Zzzz6Gong1Zzzz2Gong1Zzzz25Gong" ++
    "1Zzzz2Gong1Zzzz6Gong7ZzzzaGong136Zzzz19Maka7Zzzz11Kawi1Zzzz29Kawi3Zzzz1dKawi55Zzzz1Lisu" ++
    "fZzzz32TamldZzzz1Taml39aXsux66Zzzz6fXsux1Zzzz5XsuxbZzzzc4Xsuxa4cZzzz63CpmndZzzz456Egyp" ++
    "aZzzzf9bEgyp5Zzzz247Hluw1ab9Zzzz3aGukh6c6Zzzz239Bamu7Zzzz1fMroo1ZzzzaMroo4Zzzz2Mroo" ++
    "4fTnsa1ZzzzaTnsa6Zzzz1eBass2Zzzz6BassaZzzz46HmngaZzzzaHmng1Zzzz7Hmng1Zzzz15Hmng5Zzzz" ++
    "13Hmng1b0Zzzz3aKraic6Zzzz5bMedf65Zzzz4bPlrd4Zzzz39Plrd7Zzzz11Plrd40Zzzz1Tang1Nshu2Hani" ++
    "1KitsbZzzz7Hani9Zzzz1b00Tang1d6Kits29Zzzz1Kits1fTang61Zzzz73Tang21fdZzzz4Kana1Zzzz7Kana" ++
    "1Zzzz2Kana1Zzzz1Kana11fHira3KanafZzzz1Hira1dZzzz3Hira2Zzzz1KanaeZzzz4Kana8Zzzz18cNshu" ++
    "904Zzzz6bDupl5ZzzzdDupl3Zzzz9Dupl7ZzzzaDupl2Zzzz4Dupl4Zyyyf5cZzzzfdZyyy3Zzzz1b4Zyyy6Zzzz" ++
    "17ZyyyfZzzz11ZyyyfZzzz2eZinh2Zzzz17Zinh9Zzzz74Zyyy3cZzzzf6ZyyyaZzzz27Zyyy2Zzzz3eZyyy" ++
    "3Zinh11Zyyy8Zinh2Zyyy7Zinh1eZyyy4Zinh3dZyyy15Zzzz46Grek7aZzzz14ZyyycZzzz14ZyyycZzzz" ++
    "57Zyyy9Zzzz19Zyyy87Zzzz55Zyyy1Zzzz47Zyyy1Zzzz2Zyyy2Zzzz1Zyyy2Zzzz2Zyyy2Zzzz4Zyyy1Zzzz" ++
    "cZyyy1Zzzz1Zyyy1Zzzz7Zyyy1Zzzz41Zyyy1Zzzz4Zyyy2Zzzz8Zyyy1Zzzz7Zyyy1Zzzz1cZyyy1Zzzz4Zyyy" ++
    "1Zzzz5Zyyy1Zzzz1Zyyy3Zzzz7Zyyy1Zzzz154Zyyy2Zzzz124Zyyy2Zzzz32Zyyy28cSgnwfZzzz5Sgnw1Zzzz" ++
    "fSgnw450Zzzz1fLatn6Zzzz6Latnd5Zzzz7Glag1Zzzz11Glag2Zzzz7Glag1Zzzz2Glag1Zzzz5Glag5Zzzz" ++
    "3eCyrl21Zzzz1Cyrl70Zzzz2dHmnp3ZzzzeHmnp2ZzzzaHmnp4Zzzz2Hmnp140Zzzz1fToto11Zzzz3aWcho" ++
    "5Zzzz1Wcho1d0Zzzz2aNagmd6Zzzz2bOnao4Zzzz1Onao1e0Zzzz7Ethi1Zzzz4Ethi1Zzzz2Ethi1ZzzzfEthi" ++
    "1Zzzzc5Mend2Zzzz10Mend29Zzzz4cAdlm4ZzzzaAdlm4Zzzz2Adlm311Zzzz44Zyyy4cZzzz3dZyyyc2Zzzz" ++
    "4Arab1Zzzz1bArab1Zzzz2Arab1Zzzz1Arab2Zzzz1Arab1ZzzzaArab1Zzzz4Arab1Zzzz1Arab1Zzzz1Arab" ++
    "6Zzzz1Arab4Zzzz1Arab1Zzzz1Arab1Zzzz1Arab1Zzzz3Arab1Zzzz2Arab1Zzzz1Arab2Zzzz1Arab1Zzzz" ++
    "1Arab1Zzzz1Arab1Zzzz1Arab1Zzzz1Arab1Zzzz2Arab1Zzzz1Arab2Zzzz4Arab1Zzzz7Arab1Zzzz4Arab" ++
    "1Zzzz4Arab1Zzzz1Arab1ZzzzaArab1Zzzz11Arab5Zzzz3Arab1Zzzz5Arab1Zzzz11Arab34Zzzz2Arab" ++
    "10eZzzz2cZyyy4Zzzz64ZyyycZzzzfZyyy2ZzzzfZyyy1ZzzzfZyyy1Zzzz25ZyyyaZzzzaeZyyy38Zzzz1aZyyy" ++
    "1Hira2ZyyydZzzz2cZyyy4Zzzz9Zyyy7Zzzz2ZyyyeZzzz6Zyyy9aZzzz3d9Zyyy3Zzzz11Zyyy3ZzzzdZyyy" ++
    "3ZzzzdaZyyy6ZzzzcZyyy4Zzzz1ZyyyfZzzzcZyyy4Zzzz38Zyyy8ZzzzaZyyy6Zzzz28Zyyy8Zzzz1eZyyy" ++
    "2ZzzzcZyyy4Zzzz2ZyyyeZzzz9Zyyy27Zzzz158Zyyy8ZzzzeZyyy2ZzzzdZyyy3ZzzzbZyyy3Zzzz39Zyyy" ++
    "1Zzzz1Zyyy4Zzzz10Zyyy2ZzzzcZyyy4ZzzzaZyyy7Zzzz93Zyyy1Zzzz67Zyyy405Zzzza6e0Hani20Zzzz" ++
    "111eHani2Zzzz168eHani2Zzzz1d31HanifZzzz26eHani9a2Zzzz21eHani5e2Zzzz134bHani5Zzzz212aHani" ++
    "acb87Zzzz1Zyyy1eZzzz60Zyyy80Zzzzf0Zinh2fe10Zzzz")

/-- The four letters of the script of a character. -/
def script (character : Char) : String :=
  scripts.value character

/-- The names of scripts, each followed by the letters of its script. -/
def scriptNames : String :=
  ("adlam:Adlm adlm:Adlm aghb:Aghb ahom:Ahom anatolianhieroglyphs:Hluw arab:Arab " ++
    "arabic:Arab armenian:Armn armi:Armi armn:Armn avestan:Avst avst:Avst bali:Bali " ++
    "balinese:Bali bamu:Bamu bamum:Bamu bass:Bass bassavah:Bass batak:Batk batk:Batk " ++
    "beng:Beng bengali:Beng bhaiksuki:Bhks bhks:Bhks bopo:Bopo bopomofo:Bopo brah:Brah " ++
    "brahmi:Brah brai:Brai braille:Brai bugi:Bugi buginese:Bugi buhd:Buhd buhid:Buhd " ++
    "cakm:Cakm canadianaboriginal:Cans cans:Cans cari:Cari carian:Cari " ++
    "caucasianalbanian:Aghb chakma:Cakm cham:Cham cher:Cher cherokee:Cher chorasmian:Chrs " ++
    "chrs:Chrs common:Zyyy copt:Copt coptic:Copt cpmn:Cpmn cprt:Cprt cuneiform:Xsux " ++
    "cypriot:Cprt cyprominoan:Cpmn cyrillic:Cyrl cyrl:Cyrl deseret:Dsrt deva:Deva " ++
    "devanagari:Deva diak:Diak divesakuru:Diak dogr:Dogr dogra:Dogr dsrt:Dsrt dupl:Dupl " ++
    "duployan:Dupl egyp:Egyp egyptianhieroglyphs:Egyp elba:Elba elbasan:Elba elym:Elym " ++
    "elymaic:Elym ethi:Ethi ethiopic:Ethi gara:Gara garay:Gara geor:Geor georgian:Geor " ++
    "glag:Glag glagolitic:Glag gong:Gong gonm:Gonm goth:Goth gothic:Goth gran:Gran " ++
    "grantha:Gran greek:Grek grek:Grek gujarati:Gujr gujr:Gujr gukh:Gukh gunjalagondi:Gong " ++
    "gurmukhi:Guru guru:Guru gurungkhema:Gukh han:Hani hang:Hang hangul:Hang hani:Hani " ++
    "hanifirohingya:Rohg hano:Hano hanunoo:Hano hatr:Hatr hatran:Hatr hebr:Hebr hebrew:Hebr " ++
    "hira:Hira hiragana:Hira hluw:Hluw hmng:Hmng hmnp:Hmnp hung:Hung imperialaramaic:Armi " ++
    "inherited:Zinh inscriptionalpahlavi:Phli inscriptionalparthian:Prti ital:Ital java:Java " ++
    "javanese:Java kaithi:Kthi kali:Kali kana:Kana kannada:Knda katakana:Kana kawi:Kawi " ++
    "kayahli:Kali khar:Khar kharoshthi:Khar khitansmallscript:Kits khmer:Khmr khmr:Khmr " ++
    "khoj:Khoj khojki:Khoj khudawadi:Sind kiratrai:Krai kits:Kits knda:Knda krai:Krai " ++
    "kthi:Kthi lana:Lana lao:Laoo laoo:Laoo latin:Latn latn:Latn lepc:Lepc lepcha:Lepc " ++
    "limb:Limb limbu:Limb lina:Lina linb:Linb lineara:Lina linearb:Linb lisu:Lisu lyci:Lyci " ++
    "lycian:Lyci lydi:Lydi lydian:Lydi mahajani:Mahj mahj:Mahj maka:Maka makasar:Maka " ++
    "malayalam:Mlym mand:Mand mandaic:Mand mani:Mani manichaean:Mani marc:Marc marchen:Marc " ++
    "masaramgondi:Gonm medefaidrin:Medf medf:Medf meeteimayek:Mtei mend:Mend " ++
    "mendekikakui:Mend merc:Merc mero:Mero meroiticcursive:Merc meroitichieroglyphs:Mero " ++
    "miao:Plrd mlym:Mlym modi:Modi mong:Mong mongolian:Mong mro:Mroo mroo:Mroo mtei:Mtei " ++
    "mult:Mult multani:Mult myanmar:Mymr mymr:Mymr nabataean:Nbat nagm:Nagm nagmundari:Nagm " ++
    "nand:Nand nandinagari:Nand narb:Narb nbat:Nbat newa:Newa newtailue:Talu nko:Nkoo " ++
    "nkoo:Nkoo nshu:Nshu nushu:Nshu nyiakengpuachuehmong:Hmnp ogam:Ogam ogham:Ogam " ++
    "olchiki:Olck olck:Olck oldhungarian:Hung olditalic:Ital oldnortharabian:Narb " ++
    "oldpermic:Perm oldpersian:Xpeo oldsogdian:Sogo oldsoutharabian:Sarb oldturkic:Orkh " ++
    "olduyghur:Ougr olonal:Onao onao:Onao oriya:Orya orkh:Orkh orya:Orya osage:Osge " ++
    "osge:Osge osma:Osma osmanya:Osma ougr:Ougr pahawhhmong:Hmng palm:Palm palmyrene:Palm " ++
    "pauc:Pauc paucinhau:Pauc perm:Perm phag:Phag phagspa:Phag phli:Phli phlp:Phlp phnx:Phnx " ++
    "phoenician:Phnx plrd:Plrd prti:Prti psalterpahlavi:Phlp qaac:Copt qaai:Zinh rejang:Rjng " ++
    "rjng:Rjng rohg:Rohg runic:Runr runr:Runr samaritan:Samr samr:Samr sarb:Sarb saur:Saur " ++
    "saurashtra:Saur sgnw:Sgnw sharada:Shrd shavian:Shaw shaw:Shaw shrd:Shrd sidd:Sidd " ++
    "siddham:Sidd signwriting:Sgnw sind:Sind sinh:Sinh sinhala:Sinh sogd:Sogd sogdian:Sogd " ++
    "sogo:Sogo sora:Sora sorasompeng:Sora soyo:Soyo soyombo:Soyo sund:Sund sundanese:Sund " ++
    "sunu:Sunu sunuwar:Sunu sylo:Sylo sylotinagri:Sylo syrc:Syrc syriac:Syrc tagalog:Tglg " ++
    "tagb:Tagb tagbanwa:Tagb taile:Tale taitham:Lana taiviet:Tavt takr:Takr takri:Takr " ++
    "tale:Tale talu:Talu tamil:Taml taml:Taml tang:Tang tangsa:Tnsa tangut:Tang tavt:Tavt " ++
    "telu:Telu telugu:Telu tfng:Tfng tglg:Tglg thaa:Thaa thaana:Thaa thai:Thai tibetan:Tibt " ++
    "tibt:Tibt tifinagh:Tfng tirh:Tirh tirhuta:Tirh tnsa:Tnsa todhri:Todr todr:Todr " ++
    "toto:Toto tulutigalari:Tutg tutg:Tutg ugar:Ugar ugaritic:Ugar unknown:Zzzz vai:Vaii " ++
    "vaii:Vaii vith:Vith vithkuqi:Vith wancho:Wcho wara:Wara warangciti:Wara wcho:Wcho " ++
    "xpeo:Xpeo xsux:Xsux yezi:Yezi yezidi:Yezi yi:Yiii yiii:Yiii zanabazarsquare:Zanb " ++
    "zanb:Zanb zinh:Zinh zyyy:Zyyy zzzz:Zzzz")

/-- The letters of the script with a name in lower case without separators. -/
def scriptNamed? (name : String) : Option String :=
  ((scriptNames.splitOn " ").map (·.splitOn ":")).findSome? fun entry =>
    match entry with
    | [known, letters] => if known == name then some letters else none
    | _ => none

end QuotaRing.Unicode
