import DirectoryLogin.Unicode.Age
import DirectoryLogin.Unicode.NamedSet
import DirectoryLogin.Unicode.ScriptExtension

namespace DirectoryLogin.Property

open DirectoryLogin.Unicode

/-- Names of properties are compared without case, spaces, underscores, hyphens and a leading
`is`. -/
def looseName (name : List Char) : String :=
  let lower := name.map Char.toLower
  let (body, dropped) := match lower with
    | 'i' :: 's' :: rest => (rest, true)
    | _ => (lower, false)
  let kept := body.filter fun c => c.toNat < 0x80 && c != ' ' && c != '_' && c != '-'
  if dropped && kept == ['c'] then "isc" else String.ofList kept

def categories? (name : String) : Option (List String) :=
  match name with
  | "c" | "other" => some ["Cc", "Cf", "Cn", "Co", "Cs"]
  | "cc" | "cntrl" | "control" => some ["Cc"]
  | "cf" | "format" => some ["Cf"]
  | "cn" | "unassigned" => some ["Cn"]
  | "co" | "privateuse" => some ["Co"]
  | "l" | "letter" => some ["Lu", "Ll", "Lt", "Lm", "Lo"]
  | "lc" | "casedletter" => some ["Lu", "Ll", "Lt"]
  | "ll" | "lowercaseletter" => some ["Ll"]
  | "lm" | "modifierletter" => some ["Lm"]
  | "lo" | "otherletter" => some ["Lo"]
  | "lt" | "titlecaseletter" => some ["Lt"]
  | "lu" | "uppercaseletter" => some ["Lu"]
  | "m" | "mark" | "combiningmark" => some ["Mn", "Mc", "Me"]
  | "mc" | "spacingmark" => some ["Mc"]
  | "me" | "enclosingmark" => some ["Me"]
  | "mn" | "nonspacingmark" => some ["Mn"]
  | "n" | "number" => some ["Nd", "Nl", "No"]
  | "nd" | "decimalnumber" | "digit" => some ["Nd"]
  | "nl" | "letternumber" => some ["Nl"]
  | "no" | "othernumber" => some ["No"]
  | "p" | "punct" | "punctuation" => some ["Pc", "Pd", "Ps", "Pe", "Pi", "Pf", "Po"]
  | "pc" | "connectorpunctuation" => some ["Pc"]
  | "pd" | "dashpunctuation" => some ["Pd"]
  | "pe" | "closepunctuation" => some ["Pe"]
  | "pf" | "finalpunctuation" => some ["Pf"]
  | "pi" | "initialpunctuation" => some ["Pi"]
  | "po" | "otherpunctuation" => some ["Po"]
  | "ps" | "openpunctuation" => some ["Ps"]
  | "s" | "symbol" => some ["Sm", "Sc", "Sk", "So"]
  | "sc" | "currencysymbol" => some ["Sc"]
  | "sk" | "modifiersymbol" => some ["Sk"]
  | "sm" | "mathsymbol" => some ["Sm"]
  | "so" | "othersymbol" => some ["So"]
  | "z" | "separator" => some ["Zs", "Zl", "Zp"]
  | "zl" | "lineseparator" => some ["Zl"]
  | "zp" | "paragraphseparator" => some ["Zp"]
  | "zs" | "spaceseparator" => some ["Zs"]
  | _ => none

/-- Characters whose general category a name stands for, and three wider classes. -/
def ofCategory? (name : String) : Option CharSet :=
  match name with
  | "any" => some CharSet.all
  | "assigned" => some (ofCategories ["Cn"]).complement
  | "ascii" => some (CharSet.between '\x00' '\x7f')
  | _ => (categories? name).map ofCategories

def scriptNames : List (List String) :=
  (tableWords
    "Adlm.adlm.adlam Aghb.aghb.caucasianalbanian Ahom.ahom Arab.arab.arabic Armi.armi.imperialaramaic
Armn.armn.armenian Avst.avst.avestan Bali.bali.balinese Bamu.bamu.bamum Bass.bass.bassavah
Batk.batk.batak Beng.beng.bengali Bhks.bhks.bhaiksuki Bopo.bopo.bopomofo Brah.brah.brahmi
Brai.brai.braille Bugi.bugi.buginese Buhd.buhd.buhid Cakm.cakm.chakma
Cans.cans.canadianaboriginal Cari.cari.carian Cham.cham Cher.cher.cherokee Chrs.chrs.chorasmian
Copt.copt.coptic.qaac Cpmn.cpmn.cyprominoan Cprt.cprt.cypriot Cyrl.cyrl.cyrillic
Deva.deva.devanagari Diak.diak.divesakuru Dogr.dogr.dogra Dsrt.dsrt.deseret Dupl.dupl.duployan
Egyp.egyp.egyptianhieroglyphs Elba.elba.elbasan Elym.elym.elymaic Ethi.ethi.ethiopic
Geor.geor.georgian Glag.glag.glagolitic Gong.gong.gunjalagondi Gonm.gonm.masaramgondi
Goth.goth.gothic Gran.gran.grantha Grek.grek.greek Gujr.gujr.gujarati Guru.guru.gurmukhi
Hang.hang.hangul Hani.hani.han Hano.hano.hanunoo Hatr.hatr.hatran Hebr.hebr.hebrew
Hira.hira.hiragana Hluw.hluw.anatolianhieroglyphs Hmng.hmng.pahawhhmong
Hmnp.hmnp.nyiakengpuachuehmong Hung.hung.oldhungarian Ital.ital.olditalic Java.java.javanese
Kali.kali.kayahli Kana.kana.katakana Kawi.kawi Khar.khar.kharoshthi Khmr.khmr.khmer
Khoj.khoj.khojki Kits.kits.khitansmallscript Knda.knda.kannada Kthi.kthi.kaithi
Lana.lana.taitham Laoo.laoo.lao Latn.latn.latin Lepc.lepc.lepcha Limb.limb.limbu
Lina.lina.lineara Linb.linb.linearb Lisu.lisu Lyci.lyci.lycian Lydi.lydi.lydian
Mahj.mahj.mahajani Maka.maka.makasar Mand.mand.mandaic Mani.mani.manichaean Marc.marc.marchen
Medf.medf.medefaidrin Mend.mend.mendekikakui Merc.merc.meroiticcursive
Mero.mero.meroitichieroglyphs Mlym.mlym.malayalam Modi.modi Mong.mong.mongolian Mroo.mroo.mro
Mtei.mtei.meeteimayek Mult.mult.multani Mymr.mymr.myanmar Nagm.nagm.nagmundari
Nand.nand.nandinagari Narb.narb.oldnortharabian Nbat.nbat.nabataean Newa.newa Nkoo.nkoo.nko
Nshu.nshu.nushu Ogam.ogam.ogham Olck.olck.olchiki Orkh.orkh.oldturkic Orya.orya.oriya
Osge.osge.osage Osma.osma.osmanya Ougr.ougr.olduyghur Palm.palm.palmyrene Pauc.pauc.paucinhau
Perm.perm.oldpermic Phag.phag.phagspa Phli.phli.inscriptionalpahlavi Phlp.phlp.psalterpahlavi
Phnx.phnx.phoenician Plrd.plrd.miao Prti.prti.inscriptionalparthian Rjng.rjng.rejang
Rohg.rohg.hanifirohingya Runr.runr.runic Samr.samr.samaritan Sarb.sarb.oldsoutharabian
Saur.saur.saurashtra Sgnw.sgnw.signwriting Shaw.shaw.shavian Shrd.shrd.sharada Sidd.sidd.siddham
Sind.sind.khudawadi Sinh.sinh.sinhala Sogd.sogd.sogdian Sogo.sogo.oldsogdian
Sora.sora.sorasompeng Soyo.soyo.soyombo Sund.sund.sundanese Sylo.sylo.sylotinagri
Syrc.syrc.syriac Tagb.tagb.tagbanwa Takr.takr.takri Tale.tale.taile Talu.talu.newtailue
Taml.taml.tamil Tang.tang.tangut Tavt.tavt.taiviet Telu.telu.telugu Tfng.tfng.tifinagh
Tglg.tglg.tagalog Thaa.thaa.thaana Thai.thai Tibt.tibt.tibetan Tirh.tirh.tirhuta
Tnsa.tnsa.tangsa Toto.toto Ugar.ugar.ugaritic Vaii.vaii.vai Vith.vith.vithkuqi
Wara.wara.warangciti Wcho.wcho.wancho Xpeo.xpeo.oldpersian Xsux.xsux.cuneiform Yezi.yezi.yezidi
Yiii.yiii.yi Zanb.zanb.zanabazarsquare Zinh.zinh.inherited.qaai Zyyy.zyyy.common Gara.gara.garay
Gukh.gukh.gurungkhema Krai.krai.kiratrai Onao.onao.olonal Sunu.sunu.sunuwar Todr.todr.todhri
Tutg.tutg.tulutigalari").map
      fun word => (Text.pieces (· == '.') word).map String.ofList

def script? (name : String) : Option String :=
  (scriptNames.find? (·.tail.contains name)).bind (·.head?)

/-- The version that a name stands for, such as `6.0` or `v60`. -/
def version? (name : String) : Option String :=
  versions.find? fun version =>
    name == version || name == "v" ++ String.ofList (version.toList.filter Char.isDigit)

/-- The class of a property named alone: a property that a character has or has not, a category or a
script. -/
def ofName? (name : List Char) : Option CharSet :=
  let name := looseName name
  if name.contains '=' then none
  else ((namedSet? name).or (ofCategory? name)).or ((script? name).map ofScript)

def ofNameAndValue? (name value : List Char) : Option CharSet :=
  let value := looseName value
  match looseName name with
  | "generalcategory" | "gc" => ofCategory? value
  | "script" | "sc" => (script? value).map ofScript
  | "scriptextensions" | "scx" => (script? value).map writtenIn
  | "age" => (version? value).bind charactersOf?
  | "graphemeclusterbreak" | "gcb" => namedSet? ("gcb=" ++ value)
  | "wordbreak" | "wb" => namedSet? ("wb=" ++ value)
  | "sentencebreak" | "sb" => namedSet? ("sb=" ++ value)
  | _ => none

end DirectoryLogin.Property
