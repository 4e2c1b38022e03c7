import QuotaRing.Unicode.Script

/-!
# Characters of several scripts

A character is used in its own script, unless a list gives the scripts in which
it is used.
-/

namespace QuotaRing.Unicode

/-- The runs of characters with a list, each followed by the list. -/
def sharedRuns : String :=
  ("b7:Avst/Cari/Copt/Dupl/Elba/Geor/Glag/Gong/Goth/Grek/Hani/Latn/Lydi/Mahj/Perm/Shaw " ++
    "2bc:Beng/Cyrl/Deva/Latn/Lisu/Thai/Toto 2c7:Bopo/Latn 2c9-2cb:Bopo/Latn 2cd:Latn/Lisu " ++
    "2d7:Latn/Thai 2d9:Bopo/Latn 300:Cher/Copt/Cyrl/Grek/Latn/Perm/Tale/Sunu " ++
    "301:Cher/Cyrl/Grek/Latn/Osge/Tale/Sunu/Todr 302:Cher/Cyrl/Latn/Tfng " ++
    "303:Glag/Latn/Syrc/Thai/Sunu 304:Aghb/Cher/Copt/Cyrl/Goth/Grek/Latn/Osge/Syrc/Tfng/Todr " ++
    "305:Copt/Elba/Glag/Goth/Kana/Latn 306:Cyrl/Grek/Latn/Perm/Tfng " ++
    "307:Copt/Dupl/Hebr/Latn/Perm/Syrc/Tale/Tfng/Todr " ++
    "308:Armn/Cyrl/Dupl/Goth/Grek/Hebr/Latn/Perm/Syrc/Tale/Tfng 309:Latn/Tfng " ++
    "30a:Dupl/Latn/Syrc 30b:Cher/Cyrl/Latn/Osge 30c:Cher/Latn/Tale 30d:Latn/Sunu " ++
    "30e:Ethi/Latn 310:Latn/Sunu 311:Cyrl/Latn/Todr 313:Grek/Latn/Perm/Todr " ++
    "323:Cher/Dupl/Kana/Latn/Syrc/Tfng 324:Cher/Dupl/Latn/Syrc 325:Latn/Syrc " ++
    "32d:Latn/Syrc/Sunu 32e:Latn/Syrc 330:Cher/Latn/Syrc " ++
    "331:Aghb/Cher/Goth/Latn/Syrc/Thai/Sunu 342:Grek 345:Grek 358:Latn/Osge " ++
    "35e:Aghb/Latn/Todr 363-36f:Latn 374-375:Copt/Grek 483:Cyrl/Perm 484:Cyrl/Glag " ++
    "485-486:Cyrl/Latn 487:Cyrl/Glag 589:Armn/Geor/Glag " ++
    "60c:Arab/Nkoo/Rohg/Syrc/Thaa/Yezi/Gara 61b:Arab/Nkoo/Rohg/Syrc/Thaa/Yezi/Gara " ++
    "61c:Arab/Syrc/Thaa 61f:Adlm/Arab/Nkoo/Rohg/Syrc/Thaa/Yezi/Gara " ++
    "640:Adlm/Arab/Mand/Mani/Ougr/Phlp/Rohg/Sogd/Syrc 64b-655:Arab/Syrc " ++
    "660-669:Arab/Thaa/Yezi 670:Arab/Syrc 6d4:Arab/Rohg " ++
    "951:Beng/Deva/Gran/Gujr/Guru/Knda/Latn/Mlym/Nand/Newa/Orya/Shrd/Taml/Telu/Tirh " ++
    "952:Beng/Deva/Gran/Gujr/Guru/Knda/Latn/Mlym/Newa/Orya/Taml/Telu/Tirh " ++
    "964:Beng/Deva/Dogr/Gong/Gonm/Gran/Gujr/Guru/Knda/Mahj/Mlym/Nand/Orya/Sind/Sinh/Sylo/Takr/Taml/Telu/Tirh/Onao " ++
    "965:Beng/Deva/Dogr/Gong/Gonm/Gran/Gujr/Guru/Knda/Limb/Mahj/Mlym/Nand/Orya/Sind/Sinh/Sylo/Takr/Taml/Telu/Tirh/Gukh/Onao " ++
    "966-96f:Deva/Dogr/Kthi/Mahj 9e6-9ef:Beng/Cakm/Sylo a66-a6f:Guru/Mult ae6-aef:Gujr/Khoj " ++
    "be6-bf3:Gran/Taml ce6-cef:Knda/Nand/Tutg 1040-1049:Cakm/Mymr/Tale 10fb:Geor/Glag/Latn " ++
    "16eb-16ed:Runr 1735-1736:Buhd/Hano/Tagb/Tglg 1802-1803:Mong/Phag 1805:Mong/Phag " ++
    "1cd0:Beng/Deva/Gran/Knda 1cd1:Deva 1cd2:Beng/Deva/Gran/Knda 1cd3:Deva/Gran/Knda " ++
    "1cd4:Deva 1cd5:Beng/Deva/Newa/Telu/Tirh 1cd6:Beng/Deva/Telu 1cd7:Deva/Newa/Shrd " ++
    "1cd8:Beng/Deva/Newa/Telu 1cd9:Deva/Shrd 1cda:Deva/Knda/Mlym/Orya/Taml/Telu 1cdb:Deva " ++
    "1cdc-1cdd:Deva/Shrd 1cde-1cdf:Deva 1ce0:Deva/Shrd 1ce1:Beng/Deva 1ce2:Deva/Newa/Tirh " ++
    "1ce3-1ce8:Deva 1ce9:Deva/Nand/Newa 1cea:Beng/Deva/Shrd 1ceb:Deva/Newa 1cec:Deva " ++
    "1ced:Beng/Deva/Newa/Shrd 1cee-1cf1:Deva " ++
    "1cf2:Beng/Deva/Gran/Knda/Mlym/Nand/Orya/Sinh/Telu/Tirh/Tutg 1cf3:Deva/Gran " ++
    "1cf4:Deva/Gran/Knda/Tutg 1cf5-1cf6:Beng/Deva 1cf7:Beng 1cf8-1cf9:Deva/Gran 1cfa:Nand " ++
    "1dc0-1dc1:Grek 1df8:Cyrl/Latn/Syrc 1dfa:Syrc 202f:Latn/Mong/Phag 204f:Adlm/Arab " ++
    "205a:Cari/Geor/Glag/Hung/Lyci/Orkh 205d:Cari/Grek/Hung/Mero 20f0:Deva/Gran/Latn " ++
    "2e17:Copt/Latn 2e30:Avst/Orkh 2e31:Avst/Cari/Geor/Hung/Kthi/Lydi/Samr 2e3c:Dupl " ++
    "2e41:Adlm/Arab/Hung 2e43:Cyrl/Glag 2ff0-2fff:Hani/Tang " ++
    "3001:Bopo/Hang/Hani/Hira/Kana/Mong/Yiii 3002:Bopo/Hang/Hani/Hira/Kana/Mong/Phag/Yiii " ++
    "3003:Bopo/Hang/Hani/Hira/Kana 3006:Hani " ++
    "3008-3009:Bopo/Hang/Hani/Hira/Kana/Mong/Tibt/Yiii " ++
    "300a-300b:Bopo/Hang/Hani/Hira/Kana/Lisu/Mong/Tibt/Yiii " ++
    "300c-3011:Bopo/Hang/Hani/Hira/Kana/Yiii 3013:Bopo/Hang/Hani/Hira/Kana " ++
    "3014-301b:Bopo/Hang/Hani/Hira/Kana/Yiii 301c-301f:Bopo/Hang/Hani/Hira/Kana " ++
    "302a-302d:Bopo/Hani 3030:Bopo/Hang/Hani/Hira/Kana 3031-3035:Hira/Kana " ++
    "3037:Bopo/Hang/Hani/Hira/Kana 303c-303d:Hani/Hira/Kana 303e-303f:Hani " ++
    "3099-309c:Hira/Kana 30a0:Hira/Kana 30fb:Bopo/Hang/Hani/Hira/Kana/Yiii 30fc:Hira/Kana " ++
    "3190-319f:Hani 31c0-31e5:Hani 31ef:Hani/Tang 3220-3247:Hani 3280-32b0:Hani " ++
    "32c0-32cb:Hani 32ff:Hani 3358-3370:Hani 337b-337f:Hani 33e0-33fe:Hani a66f:Cyrl/Glag " ++
    "a700-a707:Hani/Latn " ++
    "a830-a832:Deva/Dogr/Gujr/Guru/Khoj/Knda/Kthi/Mahj/Mlym/Modi/Nand/Shrd/Sind/Takr/Tirh/Tutg " ++
    "a833-a835:Deva/Dogr/Gujr/Guru/Khoj/Knda/Kthi/Mahj/Modi/Nand/Shrd/Sind/Takr/Tirh/Tutg " ++
    "a836-a837:Deva/Dogr/Gujr/Guru/Khoj/Kthi/Mahj/Modi/Sind/Takr/Tirh " ++
    "a838:Deva/Dogr/Gujr/Guru/Khoj/Kthi/Mahj/Modi/Shrd/Sind/Takr/Tirh " ++
    "a839:Deva/Dogr/Gujr/Guru/Khoj/Kthi/Mahj/Modi/Sind/Takr/Tirh a8f1:Beng/Deva/Tutg " ++
    "a8f3:Deva/Taml a92e:Kali/Latn/Mymr a9cf:Bugi/Java fd3e-fd3f:Arab/Nkoo fdf2:Arab/Thaa " ++
    "fdfd:Arab/Thaa fe45-fe46:Bopo/Hang/Hani/Hira/Kana " ++
    "ff61-ff65:Bopo/Hang/Hani/Hira/Kana/Yiii ff70:Hira/Kana ff9e-ff9f:Hira/Kana " ++
    "10100-10101:Cpmn/Cprt/Linb 10102:Cprt/Linb 10107-10133:Cprt/Lina/Linb " ++
    "10137-1013f:Cprt/Linb 102e0-102fb:Arab/Copt 10af2:Mani/Ougr 11301:Gran/Taml " ++
    "11303:Gran/Taml 1133b-1133c:Gran/Taml 11fd0-11fd1:Gran/Taml 11fd3:Gran/Taml " ++
    "1bca0-1bca3:Dupl 1d360-1d371:Hani 1f250-1f251:Hani")

/-- Characters from `first` to `last` that are used in the given scripts. -/
structure SharedRun where
  first : Nat
  last : Nat
  scripts : List String

/-- The run written by its codes, in hexadecimal, and its scripts. -/
def SharedRun.ofText? (text : String) : Option SharedRun :=
  match text.splitOn ":" with
  | [codes, scripts] =>
      let ends := (codes.splitOn "-").map fun digits =>
        Text.Hexadecimal.number digits.toList
      some
        { first := ends.headD 0
          last := ends.getLastD 0
          scripts := scripts.splitOn "/" }
  | _ => none

/-- All runs of characters with a list. -/
def sharedScripts : List SharedRun :=
  (sharedRuns.splitOn " ").filterMap SharedRun.ofText?

/-- Whether a character is used in a script. -/
def isUsedIn (letters : String) (character : Char) : Bool :=
  let code := character.toNat
  match sharedScripts.find? fun run => run.first ≤ code && code ≤ run.last with
  | some run => run.scripts.contains letters
  | none => script character == letters

end QuotaRing.Unicode
