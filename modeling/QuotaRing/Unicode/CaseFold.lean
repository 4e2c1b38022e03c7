import QuotaRing.Text.Decimal
import QuotaRing.Text.Hexadecimal

/-!
# Letters that differ in case alone

Characters that differ in case alone have one representative, the first of
them.  The others are given by runs of characters at an equal distance from
each other whose representatives are at an equal distance from them.
-/

namespace QuotaRing.Unicode

/-- Characters from `first` to `last` whose representatives are `shift` away. -/
structure FoldRun where
  first : Nat
  last : Nat
  step : Nat
  shift : Int

/-- The run written by its four numbers, the first two in hexadecimal. -/
def FoldRun.ofText? (text : String) : Option FoldRun :=
  match text.splitOn " " with
  | [first, last, step, shift] => do
      let step ← Text.Decimal.natural? step.toList
      let shift ← Text.Decimal.signed? shift.toList
      some
        { first := Text.Hexadecimal.number first.toList
          last := Text.Hexadecimal.number last.toList
          step := step
          shift := shift.toInt }
  | _ => none

def foldRuns : List FoldRun :=
  ((("61 7a 1 -32, e0 f6 1 -32, f8 fe 1 -32, 101 12f 2 -1, 133 137 2 -1, 13a 148 2 -1, " ++
    "14b 177 2 -1, 178 178 1 -121, 17a 17e 2 -1, 17f 17f 1 -300, 183 185 2 -1, 188 188 1 -1, " ++
    "18c 18c 1 -1, 192 192 1 -1, 199 199 1 -1, 1a1 1a5 2 -1, 1a8 1a8 1 -1, 1ad 1ad 1 -1, " ++
    "1b0 1b0 1 -1, 1b4 1b6 2 -1, 1b9 1b9 1 -1, 1bd 1bd 1 -1, 1c5 1c5 1 -1, 1c6 1c6 1 -2, " ++
    "1c8 1c8 1 -1, 1c9 1c9 1 -2, 1cb 1cb 1 -1, 1cc 1cc 1 -2, 1ce 1dc 2 -1, 1dd 1dd 1 -79, " ++
    "1df 1ef 2 -1, 1f2 1f2 1 -1, 1f3 1f3 1 -2, 1f5 1f5 1 -1, 1f6 1f6 1 -97, 1f7 1f7 1 -56, " ++
    "1f9 21f 2 -1, 220 220 1 -130, 223 233 2 -1, 23c 23c 1 -1, 23d 23d 1 -163, 242 242 1 -1, " ++
    "243 243 1 -195, 247 24f 2 -1, 253 253 1 -210, 254 254 1 -206, 256 257 1 -205, " ++
    "259 259 1 -202, 25b 25b 1 -203, 260 260 1 -205, 263 263 1 -207, 268 268 1 -209, " ++
    "269 269 1 -211, 26f 26f 1 -211, 272 272 1 -213, 275 275 1 -214, 280 280 1 -218, " ++
    "283 283 1 -218, 288 288 1 -218, 289 289 1 -69, 28a 28b 1 -217, 28c 28c 1 -71, " ++
    "292 292 1 -219, 371 373 2 -1, 377 377 1 -1, 399 399 1 -84, 39c 39c 1 -743, " ++
    "3ac 3ac 1 -38, 3ad 3af 1 -37, 3b1 3b8 1 -32, 3b9 3b9 1 -116, 3ba 3bb 1 -32, " ++
    "3bc 3bc 1 -775, 3bd 3c1 1 -32, 3c2 3c2 1 -31, 3c3 3cb 1 -32, 3cc 3cc 1 -64, " ++
    "3cd 3ce 1 -63, 3d0 3d0 1 -62, 3d1 3d1 1 -57, 3d5 3d5 1 -47, 3d6 3d6 1 -54, " ++
    "3d7 3d7 1 -8, 3d9 3ef 2 -1, 3f0 3f0 1 -86, 3f1 3f1 1 -80, 3f3 3f3 1 -116, " ++
    "3f4 3f4 1 -92, 3f5 3f5 1 -96, 3f8 3f8 1 -1, 3f9 3f9 1 -7, 3fb 3fb 1 -1, 3fd 3ff 1 -130, " ++
    "430 44f 1 -32, 450 45f 1 -80, 461 481 2 -1, 48b 4bf 2 -1, 4c2 4ce 2 -1, 4cf 4cf 1 -15, " ++
    "4d1 52f 2 -1, 561 586 1 -48, 13f8 13fd 1 -8, 1c80 1c80 1 -6254, 1c81 1c81 1 -6253, " ++
    "1c82 1c82 1 -6244, 1c83 1c84 1 -6242, 1c85 1c85 1 -6243, 1c86 1c86 1 -6236, " ++
    "1c87 1c87 1 -6181, 1c8a 1c8a 1 -1, 1c90 1cba 1 -3008, 1cbd 1cbf 1 -3008, " ++
    "1e01 1e95 2 -1, 1e9b 1e9b 1 -59, 1e9e 1e9e 1 -7615, 1ea1 1eff 2 -1, 1f08 1f0f 1 -8, " ++
    "1f18 1f1d 1 -8, 1f28 1f2f 1 -8, 1f38 1f3f 1 -8, 1f48 1f4d 1 -8, 1f59 1f5f 2 -8, " ++
    "1f68 1f6f 1 -8, 1f88 1f8f 1 -8, 1f98 1f9f 1 -8, 1fa8 1faf 1 -8, 1fb8 1fb9 1 -8, " ++
    "1fba 1fbb 1 -74, 1fbc 1fbc 1 -9, 1fbe 1fbe 1 -7289, 1fc8 1fcb 1 -86, 1fcc 1fcc 1 -9, " ++
    "1fd3 1fd3 1 -7235, 1fd8 1fd9 1 -8, 1fda 1fdb 1 -100, 1fe3 1fe3 1 -7219, 1fe8 1fe9 1 -8, " ++
    "1fea 1feb 1 -112, 1fec 1fec 1 -7, 1ff8 1ff9 1 -128, 1ffa 1ffb 1 -126, 1ffc 1ffc 1 -9, " ++
    "2126 2126 1 -7549, 212a 212a 1 -8415, 212b 212b 1 -8294, 214e 214e 1 -28, " ++
    "2170 217f 1 -16, 2184 2184 1 -1, 24d0 24e9 1 -26, 2c30 2c5f 1 -48, 2c61 2c61 1 -1, " ++
    "2c62 2c62 1 -10743, 2c63 2c63 1 -3814, 2c64 2c64 1 -10727, 2c65 2c65 1 -10795, " ++
    "2c66 2c66 1 -10792, 2c68 2c6c 2 -1, 2c6d 2c6d 1 -10780, 2c6e 2c6e 1 -10749, " ++
    "2c6f 2c6f 1 -10783, 2c70 2c70 1 -10782, 2c73 2c73 1 -1, 2c76 2c76 1 -1, " ++
    "2c7e 2c7f 1 -10815, 2c81 2ce3 2 -1, 2cec 2cee 2 -1, 2cf3 2cf3 1 -1, 2d00 2d25 1 -7264, " ++
    "2d27 2d27 1 -7264, 2d2d 2d2d 1 -7264, a641 a649 2 -1, a64a a64a 1 -35266, " ++
    "a64b a64b 1 -35267, a64d a66d 2 -1, a681 a69b 2 -1, a723 a72f 2 -1, a733 a76f 2 -1, " ++
    "a77a a77c 2 -1, a77d a77d 1 -35332, a77f a787 2 -1, a78c a78c 1 -1, a78d a78d 1 -42280, " ++
    "a791 a793 2 -1, a797 a7a9 2 -1, a7aa a7aa 1 -42308, a7ab a7ab 1 -42319, " ++
    "a7ac a7ac 1 -42315, a7ad a7ad 1 -42305, a7ae a7ae 1 -42308, a7b0 a7b0 1 -42258, " ++
    "a7b1 a7b1 1 -42282, a7b2 a7b2 1 -42261, a7b5 a7c3 2 -1, a7c4 a7c4 1 -48, " ++
    "a7c5 a7c5 1 -42307, a7c6 a7c6 1 -35384, a7c8 a7ca 2 -1, a7cb a7cb 1 -42343, " ++
    "a7cd a7db 2 -1, a7dc a7dc 1 -42561, a7f6 a7f6 1 -1, ab53 ab53 1 -928, " ++
    "ab70 abbf 1 -38864, fb06 fb06 1 -1, ff41 ff5a 1 -32, 10428 1044f 1 -40, " ++
    "104d8 104fb 1 -40, 10597 105a1 1 -39, 105a3 105b1 1 -39, 105b3 105b9 1 -39, " ++
    "105bb 105bc 1 -39, 10cc0 10cf2 1 -64, 10d70 10d85 1 -32, 118c0 118df 1 -32, " ++
    "16e60 16e7f 1 -32, 16ebb 16ed3 1 -27, 1e922 1e943 1 -34").splitOn ", ").filterMap FoldRun.ofText?)

def FoldRun.contains (run : FoldRun) (code : Nat) : Bool :=
  run.first ≤ code && code ≤ run.last && (code - run.first) % run.step == 0

/-- The representative of the characters that differ from one in case alone. -/
def representative (character : Char) : Char :=
  let code := character.toNat
  match foldRuns.find? (·.contains code) with
  | some run => Char.ofNat ((code : Int) + run.shift).toNat
  | none => character

/-- The characters that differ from one in case alone, with itself. -/
def caseVariants (character : Char) : List Char :=
  let first := representative character
  let others := foldRuns.filterMap fun run =>
    let code := ((first.toNat : Int) - run.shift).toNat
    if run.contains code then some (Char.ofNat code) else none
  first :: others

end QuotaRing.Unicode
