import QuotaRing.Text.Blank
import QuotaRing.Unicode.Property

/-!
# Properties that a character has or has not

Most are given by their sets, and some by a set of exceptions to a rule.  Each
has one or two names.  Properties that only help to define others, such as
`Other_Alphabetic`, and those no longer recommended, such as `Hyphen`, are left
out.
-/

namespace QuotaRing.Unicode

def asciiHexDigit : CharSet :=
  CharSet.ofText "30NaY7N6Y1aN6Y10ff99N"

/-- The characters that control the direction of text. -/
def bidiControl : CharSet :=
  CharSet.ofText "61cN1Y19f1N2Y1aN5Y37N4Y10df96N"

/-- The characters that are mirrored in text from right to left. -/
def bidiMirrored : CharSet :=
  CharSet.ofText ("28N2Y12N1Y1N1Y1cN1Y1N1Y1dN1Y1N1Y2dN1YfN1Ye7eN4Y75dN2Y99cN2YaN2Y36N2YeN2Yb1N1Yc0N4Y3N6Y3N" ++
    "1Y3N2Y3N4Y1N4Y1N1Y1N1Y4N9Y5N1Y1N12Y5N4Y9N2Y1N1Y1N8Y1N20Y2N4Y5N1Y9N2Y2N13Y5N2Y9N5Y2N2Y4N1" ++
    "8Y2N10Y8N4Y14N2Y7N2Y43dNeY4aN1Y2N4Y1N2Y1N3Y5N4Y5N3Y3NeY193N16Y2N6Y1NeY8N1Y7N6Y3N1Y4N5Y1N" ++
    "2Y2N5Y4N1Y1N3Y2N2YaN6Y2N2YcN13Y1N4Y2N1Y1N1Y2N1Y1N4Y5N2Y6N3Y18N2YbN2Y4N4Y1N2Y2N2Y4N2bY2N8" ++
    "Y1N28Y5N1Y1N1Y3N5Y5N3Y4N1Y3N5Y1N1Y100N1Y203N4Y3N2Y1N2YeN2Y2NaY2bN8Y1abNaY2N8Yce3dN6Y5N2Y" ++
    "a2N2Y12N1Y1N1Y1cN1Y1N1Y1dN1Y1N1Y1N2Y1N2Yd777N1Y39N1Y39N1Y39N1Y39N1Yf283cN")

def dash : CharSet :=
  CharSet.ofText ("2dN1Y55cN1Y33N1Ye41N1Y405N1Y809N6Y3dN1Y27N1YfN1Y186N1Yc04N1Y2N1Y1fN2Y4N1Y1cN1Y1beN1Y13N1" ++
    "Y6fN1Ycd90N2Y25N1YaN1Ya9N1Ye60N1Y13eN1Yff152N")

/-- The characters that should no longer be used. -/
def deprecated : CharSet :=
  CharSet.ofText "149N1Y529N1Y903N1Y1N1Y829N2Y8c5N6Y2b9N2Yddcd6N1Y2fffeN"

def diacritic : CharSet :=
  CharSet.ofText ("5eN1Y1N1Y47N1Y6N1Y4N1Y2N2Y1f7N9fY1N8Y5N6Y11N2Y4N1Y9N2YfdN5Yd1N1Y37N2dY1N1Y1N2Y1N2Y1N1Y83" ++
    "N8Y4N2Y86N2Y4N2Y3N3Y43N1bY5bNbY3aNbY22N2Y7eN8Y29NaY10N1cY3dN1Y10N1Y3N4Y1cN1Y4aN1Y10N1Y6e" ++
    "N1Y10N1Y6eN1Y10N1Y2fN3Y3cN1Y10N1Y7N1Y77N1Y6eN1Y10N1Y6eN1Y10N1Y6dN2Y10N1Y7cN1Y6fN1YcN6Y1N" ++
    "1Y6bN1YdN5Y4bN2Y1bN1Y1N1Y1N1Y4N2Y42N3Y1N2Y3eN1Y70N1Y1N2Y28N2Y4N5Y19N7Y1N1YaN2Y2c1N3Y3b4N" ++
    "2Y1eN1Y94NbY9N1Y15bN3Y124N1Y14N8Y2N1Y30NfY2NbY3NfY2NcY48N1YfN1Y26N9Y36N2Y3aN1YbN2Y42N2Y4" ++
    "0N6Y52N19Y4N1Y6N1Y2N3Y32N3fY30N24Y5NcY25NbY1bdN1Y1N3YbN3YdN3YdN3YdN2Ycf0N3Y13dN1Y1faN6Y6" ++
    "9N4Y5fN1Y7572N1YcN2Y1N1Y1cN2Y52N2YeN22Y66N3Y66N1Y6N2YcN1Y25N1Y97N1Y1bN12Y39N4Y24N1Y5fN1Y" ++
    "cN1Y24N1Y95N3Y41N4Y33N1Y64N5Y9N3Y80N2Y4f30N1Y301N10Y10eN1Y1N1Y2fN1Y2dN2Y43N1Y2fcN1Y49fN6" ++
    "Y1N2aY1N9Y27dN3Y4N1Ya5N2Y23bN6Y26N1Y1aN5Y18cN1Y2N3Y46NbY31N4Yc0N1Y29N1Y48N2Y78N2Y3eN1Y4c" ++
    "N1Y9N3Y68N2Yb2N2Y50N2Y10N1Y18N7Y3N5Y59N3Y1N2YdN2Y5fN1Y3N1Y7bN2YfbN2Y7eN1Y76N2Y73N1Y10dN2" ++
    "Y102N2Y4N1Y9cN1Y53N1Y12N1Y51N1Y1a5N1Y102N1Y1N2Y51N1Y41N1Y167N2Y17N1Y14ecNfY2cd9N1Y9c0N5Y" ++
    "3bN7Y234N2Y222N11Y50N2Y3ffeN4Y1N7Y1N2Y1f01N2eY2N17Y220N3Y3N6Y8N8Y2N7Y1eN4Ye82N3eYc2N7Y17" ++
    "7N1Y3dN4Y2feN2Y2e0N7Y6dN3Y1N3Yf16b5N")

def emoji : CharSet :=
  CharSet.ofText ("23N1Y6N1Y5NaY6fN1Y4N1Y1f8dN1YcN1Yd8N1Y16N1Y5aN6YfN2Y16fN2YcN1Ya6N1Y19NbY4N3Yc7N1Ye7N2YaN" ++
    "1Y9N1Y3aN4Y1N5Y9N1Y2N1Y2N2Y2N1Y4N1Y2N1Y1N2Y2N1Y3N1Y3N2Y8N3Y5N1Y1N1Y5NcYbN2Y2N1Y1N2Y1N1Y1" ++
    "2N1Y2N2Y12N6Y1N1Y1N2Y3N2Y5N1Y2N2Y4N2YbN2Y5N2Y2N1Y5N2Y1N1Y1N2Y14N2Y5N6Y1N4Y2N1Y4N1Y2N1Y2N" ++
    "6Y1N1Y2N1Y1N1Y1N1Y6N1Y3N1Y6N1YaN2YfN1Y2N1Y4N1Y1N1Y4N3Y1N1YbN2Y30N3Y9N1YeN1YeN1Y174N2Y1cf" ++
    "N3Y13N2Y33N1Y4N1Y4daN1YcN1Y259N1Y1N1Y1bd6aN1YcaN1Ya0N2YcN2YeN1Y2NaY4bN1aY1N2Y17N1Y14N1Y2" ++
    "N9Y15N2YaeN22Y2N70Y2N2Y1N3Y2N53Y2N3Y1N107Y1N3fYbN6Y1N18Y7N2Y2N8YcN1Y2N4Y2N1Y4N2YdN2Y2N1Y" ++
    "8N2Y9N1Y5N3YcN3Y8N3Y2N1Y1N1Y4N1Y6N1Y3N1Y6N56Y30N46Y5N8Y2N4Y3NaY3N1Y1N2Y3N1Y2NaYe3NcY4N1Y" ++
    "11bN2fY1NaY1Nb9Y70NdY3NbY3N39Y1N1Y4N10Y2NcY4NaYf0507N")

/-- The characters of which sequences of emoji are made. -/
def emojiComponent : CharSet :=
  CharSet.ofText ("23N1Y6N1Y5NaY1fd3N1Yd5N1Ydd2bN1Yf3d6N1aY1fbN5Y5b0N4Yc066cN60Y2ff80N")

def emojiModifier : CharSet :=
  CharSet.ofText "1f3fbN5Yf0c00N"

def emojiModifierBase : CharSet :=
  CharSet.ofText ("261dN1YdbN1Y10N4Y1cc77N1Y3cN3Y2N1Y2N3Y75N2Y2NbY15N13Y3N1Y4N3Y1N3Y7N1Y1N1Y18N1Yc9N2Y4N1Y1" ++
    "5N1Y4N2YaeN3Y3N5Y53N1Y10N3Y9N1YbN1Y23fN1Y2N1Y8N8Y6N1Y9NaY2N3Y38N1Y3dN2Y1N2Y1N1Y11N3Y1NdY" ++
    "e5N3Y2aN9Yf0507N")

/-- The emoji that are shown as pictures unless told otherwise. -/
def emojiPresentation : CharSet :=
  CharSet.ofText ("231aN2YcdN4Y3N1Y2N1Y209N2Y15N2Y32NcY2bN1Y13N1YdN1Y8N2Y11N2Y5N2Y8N1Y5N1Y15N1Y7N2Y1N1Y4N1Y" ++
    "2N1Y7N1Y4N2Y1cN1Y23N1Y1N1Y4N3Y1N1Y3dN3Y18N1YeN1Y35bN2Y33N1Y4N1Y1c4aeN1YcaN1YbeN1Y2NaY4bN" ++
    "1aY1N1Y18N1Y14N1Y2N5Y1N3Y15N2YaeN21YcN9Y1N46Y1N16YcN2bY4N5YcN11Y3N1Y3N47Y1N1Y1NbbY2N3fYd" ++
    "N4Y1N18Y12N1Y1aN2YdN1Y56N55Y30N46Y6N1Y3N3Y2N4Y3N4YbN2Y7N9Ye3NcY4N1Y11bN2fY1NaY1Nb9Y70NdY" ++
    "3NbY3N39Y1N1Y4N10Y2NcY4NaYf0507N")

/-- The pictures, and the codes that are kept for them. -/
def extendedPictographic : CharSet :=
  CharSet.ofText ("a9N1Y4N1Y1f8dN1YcN1Yd8N1Y16N1Y5aN6YfN2Y16fN2YcN1Ya6N1Y19NbY4N3Yc7N1Ye7N2YaN1Y9N1Y3aN4Y1N" ++
    "5Y9N1Y2N1Y2N2Y2N1Y4N1Y2N1Y1N2Y2N1Y3N1Y3N2Y8N3Y5N1Y1N1Y5NcYbN2Y2N1Y1N2Y1N1Y12N1Y2N2Y12N6Y" ++
    "1N1Y1N2Y3N2Y5N1Y2N2Y4N2YbN2Y5N2Y2N1Y5N2Y1N1Y1N2Y14N2Y5N6Y1N4Y2N1Y4N1Y2N1Y2N6Y1N1Y2N1Y1N1" ++
    "Y1N1Y6N1Y3N1Y6N1YaN2YfN1Y2N1Y4N1Y1N1Y4N3Y1N1YbN2Y30N3Y9N1YeN1YeN1Y174N2Y1cfN3Y13N2Y33N1Y" ++
    "4N1Y4daN1YcN1Y259N1Y1N1Y1bd6aN1Y27N4Y64NcYfN2YfN1YeN2Y25NaY70N2YcN2YeN1Y2NaY13N38Y1bNfYa" ++
    "N1Y14N1Y2N9Y1N4Y9N17Y6NbcY2N70Y2N2Y1N3Y2N53Y2N3Y1N4Y5NfeY1N3fYbN6Y1N18Y7N2Y2N8YcN1Y2N4Y2" ++
    "N1Y4N2YdN2Y2N1Y8N2Y9N1Y5N3YcN3Y8N3Y2N1Y1N1Y4N1Y6N1Y3N1Y6N56Y30N46Y5N8Y2N11Y3N1Y1N6Y2NdYd" ++
    "aN26YcN4Y38N8YaN6Y28N8Y1eN2YcN4Y2NeY9N27YcN2fY1NaY1Nb9Y58N8YeN92Y100N3feYf0002N")

/-- The characters that lengthen or repeat the one before. -/
def extender : CharSet :=
  CharSet.ofText ("b7N1Y218N2Y36eN1Y1b9N1Y276N1Y89N1Y59N1Y2f0N1Y7fN1Y943N1Y38N1Y263N1Y18eN1Y44N1Y1389N1Y2bN" ++
    "5Y67N2Y5dN3Y6f16N1Y5f6N1Y3c2N1Y16N1Y89N1Y6cN1Y15N2Y547bN1Y810N2Y5cbN1Y1bN1Y4N1Y4c7N1Y125" ++
    "N1Y74N2Y1f2N3Y4cfN1Y340N1Y4d68N2Y49cN2Y1N1YeN2Y7148N2Y4b1N1Y354N3Yf16b9N")

def hexDigit : CharSet :=
  CharSet.ofText "30NaY7N6Y1aN6Yfea9NaY7N6Y1aN6Y1000b9N"

/-- The characters that describe an ideograph of two parts. -/
def binaryOperator : CharSet :=
  CharSet.ofText "2ff0N2Y2NaY1f1N1Y10ce10N"

/-- The characters that describe an ideograph of three parts. -/
def trinaryOperator : CharSet :=
  CharSet.ofText "2ff2N2Y10d00cN"

def ideographic : CharSet :=
  CharSet.ofText ("3006N2Y19N9YeN3Y3c5N19c0Y40N5200Y5900N16eY2N6aY750aN1YdN5Y9N1cd6Y29N20Y61N73Y237dN18cY4d" ++
    "04Na6e0Y20N111eY2N168eY2N1d31YfN26eY9a2N21eY5e2N134bY5N212aYdcb86N")

/-- The vowels that are written before the consonant they follow. -/
def logicalOrderException : CharSet :=
  CharSet.ofText "e40N5Y7bN5Yaf0N3Y2N1Y90faN2Y2N1Y1N2Y105543N"

/-- The codes that never stand for a character. -/
def noncharacter : CharSet :=
  CharSet.ofText ("fdd0N20Y20eN2YfffeN2YfffeN2YfffeN2YfffeN2YfffeN2YfffeN2YfffeN2YfffeN2YfffeN2YfffeN2Yfffe" ++
    "N2YfffeN2YfffeN2YfffeN2YfffeN2YfffeN2Y")

/-- The characters kept for the syntax of patterns. -/
def patternSyntax : CharSet :=
  CharSet.ofText ("21NfYaN7Y1aN4Y1N1Y1aN4Y22N7Y1N1Y1N2Y1N1Y1N2Y4N1Y4N1Y3N1Y17N1Y1fN1Y1f18N18Y8NfY2N13Y1NaY1" ++
    "31N2d0Ya0N276Y1eN46cY200N80Y181N3Y4N19YfN1Ycd0dN2Y105N2Y1001b9N")

def patternWhiteSpace : CharSet :=
  CharSet.ofText "9N5Y12N1Y64N1Y1f88N2Y18N2Y10dfd6N"

def quotationMark : CharSet :=
  CharSet.ofText ("22N1Y4N1Y83N1YfN1Y1f5cN8Y19N2Ye07N1Y1c9N4YdN3Yce21N4YbdN1Y4N1Y5aN2Y10009cN")

def radical : CharSet :=
  CharSet.ofText "2e80N1aY1N59YcNd6Y10d02aN"

def regionalIndicator : CharSet :=
  CharSet.ofText "1f1e6N1aYf0e00N"

def sentenceTerminal : CharSet :=
  CharSet.ofText ("21N1YcN1Y10N1Y549N1Y93N3Yb4N1Y2bN3Yf6N1Y3dN1Y1N1Y3N2Y125N2Y6e4N2Y316N1Y4N2Y305N1Yc6N2Y9d" ++
    "N2Y2dN1Y5N1Y13aN2Y162N4Ya2N2YaN2Y2N2Y1dN3YbbN2Y41N2Y3a4N1Y17N2Y9N3YcafN3Y132N1YdN1Y16N2Y" ++
    "1adN1Y74fcN1Y10eN2Ye3N1Y3N1Y17eN2Y56N2Y5fN1Y98N2Y93N3Y90N2Yf9N1Y5226N1Y2N2Y3bN1Y3N2Ya9N1" ++
    "YcN1Y10N1Y41N1Yaf4N2Y4fdN5Y2cN4YbdN2Y75N4Y7fN3Y81N2Y6N1Y10N2Y58N2Y1N2Y6cN1Y12aN2Y75N2Y17" ++
    "5N2Y5NfY69N2Yf9N3Y205N1Y1N1YfbN2Y57N2Y1a4N2Y2b4N2Y4aN2Y4b29N2Y85N1Y41N2YbN1Y229N2Y128N1Y" ++
    "4e06N1Y1de8N1Yf2577N")

/-- The letters whose dot gives way to an accent. -/
def softDotted : CharSet :=
  CharSet.ofText ("69N2Yc4N1Y119N1Y1eN1Y34N1Y14N1Y140N1Y62N1Y1N1Y1909N1Y33N1YdN1Y3N1Y84N1Y9dN1Y1a5N1Yd6N2Yb" ++
    "32N1Y1a7a5N2Y32N2Y32N2Y32N2Y32N2Y32N2Y32N2Y32N2Y32N2Y32N2Y32N2Y32N2Y32N2Y886N1Y131N2Y1aN" ++
    "1Yf1f97N")

def terminalPunctuation : CharSet :=
  CharSet.ofText ("21N1YaN1Y1N1YbN2Y3N1Y33eN1Y8N1Y201N1Y39N1Y48N1YeN1Y1N3Yb4N1Y2bNbY1N1YebN2Y36N6Y1N8Y1fN1Y" ++
    "105N2Y4f4N2YacN1Y4N6Y137N2Y315N8Y305N1Y7cN3Y47N2Y9dN3Y3N1Y27N4Y2N2Y13aN2Y162N4Ya2N2YaN2Y" ++
    "1N3Y1dN3YbbN5Y3eN2Y3a4N1Y17N2Y9N3YcafN3Y132N1YdN1Y4N1YaN1Y1N2Y3N2Y1acN2Y74fbN2Y10dN3Ye3N" ++
    "5Y17eN2Y56N2Y5fN1Y97N3Y93N3Y7fN1Y10N2Yf9N1Y5226N1Y2N2Y39N3Y1N4Ya9N1YaN1Y1N1YbN2Y3N1Y41N1" ++
    "Y2N1Y43aN1Y30N1Y486N1Yc7N1Y136N2Y98N6Y44N6Y59N4Y3b8N5Y2cN4YbdN7Y70N4Y7fN3Y81N2Y6N1Y10N2Y" ++
    "58N5Y6cN1Y12aN2Y75N3YcN2Y166N4Y3NfY69N2Yf9N3Y205N1Y1N1YfbN2Y57N2Y4N2Y19eN3Y2dN1Y285N2Y4a" ++
    "N2Y52bN5Y45f9N2Y85N1Y41N3YaN1Y229N2Y127N2Y4e06N1Y1de7N4Yf2575N")

/-- The ideographs shared by several languages. -/
def unifiedIdeograph : CharSet :=
  CharSet.ofText ("3400N19c0Y40N5200Y5a0eN2Y1N1Y1N2YaN1Y1N1Y1N2Y2N3Y105d6Na6e0Y20N111eY2N168eY2N1d31YfN26eY" ++
    "11a2N134bY5N212aYdcb86N")

/-- The characters that select a variant of the one before. -/
def variationSelector : CharSet :=
  CharSet.ofText "180bN3Y1N1Ye5f0N10Yd02f0Nf0Y2fe10N"

/-- The characters that are passed over beside marks, formats and modifiers. -/
def caseIgnorableExceptions : CharSet :=
  CharSet.ofText ("27N1Y6N1YbN1Y7cN1Y2cfN1Y1d7N1Y94N1Y1a23N2YaN1Y2N1YddebN1Y3eN1Y2N1Yb1N1Y6N1YbN1Y1000e5N")

/-- Where being changed by lower case differs from being upper or title case. -/
def lowercasedExceptions : CharSet :=
  CharSet.ofText ("3d2N3Y1d2dN1Y4N1Y3N3Y2N3Y2N1Y3N5Y6N1Y3N1Y3N2Y2N2Y1N1YaN2Y5N1Y1b2baN1aY1aN1aY1aN1aY1aN1Y1" ++
    "N2Y2N1Y2N2Y2N4Y1N8Y1aN1aY1aN2Y1N4Y2N8Y1N7Y1bN2Y1N4Y1N5Y1N1Y3N7Y1bN1aY1aN1aY1aN1aY1aN1aY1" ++
    "aN1aY1aN1aY1eN19Y21N19Y21N19Y21N19Y21N19Y21N1Y1965N1aY6N1aY6N1aYf0e76N")

/-- Where being changed by upper case differs from being lower or title case. -/
def uppercasedExceptions : CharSet :=
  CharSet.ofText ("aaN1YfN1Y7dN1Y54N1Y1cN2YeN1Y3N1Y62N1Y12N6Y1bN1Y2N1Y1N1Y2N3Y2N1Y4N1Y5N2Y1N1Y2N2Y1N7Y1N2Y1" ++
    "N1Y2N3Y6N5Y1N1Y2N7Y2N1aY7N2Y1eN5Y95N1Y81N1Y163N1Y27N1Yb73N1Yc03N79Y1N3Y1N10Y1N31YdcN2Y1N" ++
    "1Y1d1N1YdN1Y10NdY6dN1Y3N2Y3N1Y1bN1Y4N1Y4N1Y2N2Y8N4Yb27N1Y2N1Y2N7Y66N1Y79b7N2Y92N2Y3eN9Y1" ++
    "5N1Y6N1Y19N1Y41N4Y3N3Y335N23Y1N7Y1NeY5c16N1Y2N3Y1N2aY1N9Ycc5fN1aY1aN7Y1N12Y1aN1aY1aN4Y1N" ++
    "1Y1N7Y1NbY1aN1aY1aN1aY1aN1aY1aN1aY1aN1aY1aN1aY1aN1aY1aN1aY1aN1cY1cN19Y1N6Y1aN19Y1N6Y1aN1" ++
    "9Y1N6Y1aN19Y1N6Y1aN19Y1N6Y1N1Y734NaY1N14Y6N6Y105N3eYf1f92N")

/-- Where being changed by title case differs from being changed by upper case. -/
def titlecasedExceptions : CharSet :=
  CharSet.ofText ("1c4N2Y1N2Y1N2Y25N2YeddN2bY2N3Ye88N8Y8N8Y8N8YcN1YfN1Y2fN1Y10e003N")

/-- Where being changed by folding differs from being changed by lower case. -/
def casefoldedExceptions : CharSet :=
  CharSet.ofText ("b5N1Y29N1Y69N1Y35N1Y1c5N1Y7cN1YdN2Y3N2Y19N2Y3N1Y191N1Ye18N56Y2N6Y882N9Y211N2Ye4N8Y8N8Y8N" ++
    "8YaN3Y2N1YaN3Y2N1Y2aN3Y2N1Y8b78N50Y4f40N7YcN5Y1004e8N")

/-- The characters of mathematics that are no such symbols. -/
def mathExceptions : CharSet :=
  CharSet.ofText ("5eN1Y371N3Y2N1Y1aN2Y2N2Y1c20N1Y1bN3YbN1Y20N4Y18N2YeN2Y41NdY4N1Y3N2Y4N5Y12N1Y4N1Y2NaY1N1Y" ++
    "3N5Y6N1Y3N2Y2N2Y1N3Y1N6Y3N4Y5N5Y4bN5Y2N4Y1N2Y1N2Y1N1Y1N5Y2N2Y4N2Y4N12Y2N2Y1N1Y1N7Y1N1Y6N" ++
    "2Y122N4Ya8N2Y1N1Y18N1Y11N1Y1bdN2YcN9Y5N5Y5N2Y2N2Y3N5YeN1Y1N1Y2N6Y18N2Y39N1Y1N1Y1dN4Y9N2Y" ++
    "156N2Y1fNaY193N16Y3fN4Y20N2Yd463N1Y1N1Y4N1Yd3N1Y1N1Yd4c1N55Y1N47Y1N2Y2N1Y2N2Y2N4Y1NcY1N1" ++
    "Y1N7Y1N41Y1N4Y2N8Y1N7Y1N1cY1N4Y1N5Y1N1Y3N7Y1N154Y2N19Y1N19Y1N1fY1N19Y1N1fY1N19Y1N1fY1N19" ++
    "Y1N1fY1N19Y1N8Y2N32Y1600N4Y1N1bY1N2Y1N1Y2N1Y1NaY1N4Y1N1Y1N1Y6N1Y4N1Y1N1Y1N1Y1N3Y1N2Y1N1Y" ++
    "2N1Y1N1Y1N1Y1N1Y1N1Y1N2Y1N1Y2N4Y1N7Y1N4Y1N4Y1N1Y1NaY1N11Y5N3Y1N5Y1N11Yf1144N")

/-- Where starting a name differs from being a letter. -/
def idStartExceptions : CharSet :=
  CharSet.ofText "1885N2Y891N1Y15N1Yd00N1Y26bN2Y10cf63N"

/-- The characters that continue names beside letters, marks and digits. -/
def idContinueExceptions : CharSet :=
  CharSet.ofText "b7N1Y2cfN1Yfe1N9Y668N1Y631N2Y10edN1Yce69N1Y10009aN"

/-- The starts of names that normal forms would break. -/
def xidStartExceptions : CharSet :=
  CharSet.ofText ("37aN1Yab8N1Y7fN1Y21e7N2Ycbc1N6Y196N2Y74N1Y1N1Y1N1Y1N1Y1N1Y1N1Y1N1Y1N1Y11fN2Y100060N")

/-- The parts of names that normal forms would break. -/
def xidContinueExceptions : CharSet :=
  CharSet.ofText ("37aN1Y2d20N2Ycbc1N6Y196N2Y74N1Y1N1Y1N1Y1N1Y1N1Y1N1Y1N1Y1N1Y100181N")

/-- Whether a character belongs to one of some categories. -/
def inCategories (names : List String) (character : Char) : Bool :=
  names.any fun name => inCategory name character

/-- Whether a character has an upper, a lower or a title case. -/
def isCased (character : Char) : Bool :=
  lowercase.contains character || uppercase.contains character ||
    inCategory "Lt" character

/-- Whether a character is passed over where the case of a word is found. -/
def isCaseIgnorable (character : Char) : Bool :=
  inCategories ["Mn", "Me", "Cf", "Lm", "Sk"] character !=
    caseIgnorableExceptions.contains character

def changesWhenLowercased (character : Char) : Bool :=
  (uppercase.contains character || inCategory "Lt" character) !=
    lowercasedExceptions.contains character

def changesWhenUppercased (character : Char) : Bool :=
  (lowercase.contains character || inCategory "Lt" character) !=
    uppercasedExceptions.contains character

def changesWhenTitlecased (character : Char) : Bool :=
  changesWhenUppercased character != titlecasedExceptions.contains character

/-- Whether folding its case changes a character. -/
def changesWhenCasefolded (character : Char) : Bool :=
  changesWhenLowercased character != casefoldedExceptions.contains character

def changesWhenCasemapped (character : Char) : Bool :=
  changesWhenLowercased character || changesWhenUppercased character ||
    changesWhenTitlecased character

/-- Whether a character is used in mathematics. -/
def isMath (character : Char) : Bool :=
  inCategory "Sm" character != mathExceptions.contains character

def startsName (character : Char) : Bool :=
  inCategories ["L", "Nl"] character != idStartExceptions.contains character

def continuesName (character : Char) : Bool :=
  (startsName character || inCategories ["Mn", "Mc", "Nd", "Pc"] character) !=
    idContinueExceptions.contains character

/-- Whether a character can start a name that normal forms keep. -/
def startsStableName (character : Char) : Bool :=
  startsName character != xidStartExceptions.contains character

/-- Whether a character can stand in a name that normal forms keep. -/
def continuesStableName (character : Char) : Bool :=
  continuesName character != xidContinueExceptions.contains character

/-- Whether a character can be the base of a grapheme. -/
def isGraphemeBase (character : Char) : Bool :=
  !(inCategories ["Cc", "Cf", "Co", "Cn", "Zl", "Zp"] character ||
    extendsGrapheme character)

/-- The properties, each with its names in lower case without separators. -/
def binaryProperties : List (List String × (Char → Bool)) :=
  [(["asciihexdigit", "ahex"], asciiHexDigit.contains),
    (["alphabetic", "alpha"], isAlphabetic),
    (["bidicontrol", "bidic"], bidiControl.contains),
    (["bidimirrored", "bidim"], bidiMirrored.contains),
    (["caseignorable", "ci"], isCaseIgnorable),
    (["cased"], isCased),
    (["changeswhencasefolded", "cwcf"], changesWhenCasefolded),
    (["changeswhencasemapped", "cwcm"], changesWhenCasemapped),
    (["changeswhenlowercased", "cwl"], changesWhenLowercased),
    (["changeswhentitlecased", "cwt"], changesWhenTitlecased),
    (["changeswhenuppercased", "cwu"], changesWhenUppercased),
    (["dash"], dash.contains),
    (["defaultignorablecodepoint", "di"], defaultIgnorable.contains),
    (["deprecated", "dep"], deprecated.contains),
    (["diacritic", "dia"], diacritic.contains),
    (["emoji"], emoji.contains),
    (["emojicomponent", "ecomp"], emojiComponent.contains),
    (["emojimodifier", "emod"], emojiModifier.contains),
    (["emojimodifierbase", "ebase"], emojiModifierBase.contains),
    (["emojipresentation", "epres"], emojiPresentation.contains),
    (["extendedpictographic", "extpict"], extendedPictographic.contains),
    (["extender", "ext"], extender.contains),
    (["graphemebase", "grbase"], isGraphemeBase),
    (["graphemeextend", "grext"], extendsGrapheme),
    (["hexdigit", "hex"], hexDigit.contains),
    (["idsbinaryoperator", "idsb"], binaryOperator.contains),
    (["idstrinaryoperator", "idst"], trinaryOperator.contains),
    (["idcontinue", "idc"], continuesName),
    (["idstart", "ids"], startsName),
    (["ideographic", "ideo"], ideographic.contains),
    (["joincontrol", "joinc"], isJoinControl),
    (["logicalorderexception", "loe"], logicalOrderException.contains),
    (["lowercase", "lower"], lowercase.contains),
    (["math"], isMath),
    (["noncharactercodepoint", "nchar"], noncharacter.contains),
    (["patternsyntax", "patsyn"], patternSyntax.contains),
    (["patternwhitespace", "patws"], patternWhiteSpace.contains),
    (["quotationmark", "qmark"], quotationMark.contains),
    (["radical"], radical.contains),
    (["regionalindicator", "ri"], regionalIndicator.contains),
    (["sentenceterminal", "sterm"], sentenceTerminal.contains),
    (["softdotted", "sd"], softDotted.contains),
    (["terminalpunctuation", "term"], terminalPunctuation.contains),
    (["unifiedideograph", "uideo"], unifiedIdeograph.contains),
    (["uppercase", "upper"], uppercase.contains),
    (["variationselector", "vs"], variationSelector.contains),
    (["whitespace", "wspace", "space"], Text.isBlank),
    (["xidcontinue", "xidc"], continuesStableName),
    (["xidstart", "xids"], startsStableName)]

/-- The property with a name in lower case without separators. -/
def binaryNamed? (name : String) : Option (Char → Bool) :=
  (binaryProperties.find? fun entry => entry.1.contains name).map Prod.snd

end QuotaRing.Unicode
