import QuotaRing.Unicode.Category

/-!
# Properties of characters

Sets of characters that have a property of their own, and those that follow
from a set and the general category.
-/

namespace QuotaRing.Unicode

/-- The alphabetic characters that are no letters and no letter numbers. -/
def otherAlphabetic : CharSet :=
  CharSet.ofText ("345N1Y1dNdY240NeY1N1Y1N2Y1N2Y1N1Y48NbY30NdY1N7Y10N1Y65N7Y4N4Y2N2Y4N1Y23N1Y1eN10Y66NbY65N" ++
    "2Y3N9Y1N3Y1N4Y6aN1Y3cNcY3N7Y6N14Y36N2Y2NfY1N2Y5N3YaN2Y1dN3Y3aN7Y2N2Y2N2YaN1YaN2Y1dN3Y3aN" ++
    "5Y4N2Y2N2Y4N1Y1eN2Y3N1YbN3Y3aN8Y1N3Y1N2Y15N2Y16N3Y4N3Y3aN7Y2N2Y2N2Y9N2YaN2Y1eN1Y3bN5Y3N" ++
    "3Y1N3YaN1Y28N5Y39N7Y1N3Y1N3Y8N2YbN2Y1dN3Y3aN7Y1N3Y1N3Y8N2YbN2YfN1YcN4Y3aN7Y1N3Y1N3YaN1Y" ++
    "aN2Y1dN3Y4bN6Y1N1Y1N8Y12N2Y3dN1Y2N7Y12N1Y63N1Y2N6Y1N2Y10N1Ya3N13Y9NbY1N24Y6eNcY1N1Y2N4Y" ++
    "17N4Y4N3Y1N3Y2N7Y3N4YdNcY1N1YaN4Y674N2Y1eN2Y1eN2Y1eN2Y42N13YbcN2Y22N1Y76NcY4N9YdeN5Y39N" ++
    "aY2N14Y4aN2YbN3Y31N5Y30NfY3cN3Y1eN9Y2N2Y39NbY32N13Y19cN22Y6c1N34Y8f6N20Y7874N8Y22N2Y162N" ++
    "1Y8N1Y17N5Y58N2Y32N10Y1N1Y39N1Y26N5Y1cNcY2dN4Y30NcY25N1Y43NeYcN1Y8N2Y2dN3Y32N1Y1N3Y2N2Y" ++
    "5N1Y2cN5Y5N1YedN8Y4f33N1Y857N5Y686N3Y1N2Y5N4Y314N4Y41N1Y141N2Y4dN3Y103N3Y35NeY2dN2YbN3Y" ++
    "2dN9Y9N1Y3dN3Y24NcY12N2Y39N3Y30NdYeN2Y5cN9Y2N1Y6N1Y2N1Y9dNaY17N4Y3aN7Y2N2Y2N2YaN1YaN2Y" ++
    "54N9Y1N1Y2N1Y1N4Y1N2Y67NdY1N3Y6aN12YedN7Y2N7Y1dN2Y52NfY1N1Y6aNbY67NeY101NdYf7N6Y1N2Y2N2Y" ++
    "3N1Y1N1Y8eN7Y2N6Y4N1Y1cNaY2aN5Y1N4Y12NbY2eNeYc8N8Yc7N8Y1N7Y53N16Y1NeY7aN6Y3N1Y1N2Y1N3Y1N" ++
    "1Y3N1Y42N5Y1N2Y1N4Y15cN4Y9N2Y1N1Y30N7Y3N3Y41ddN11Ye20N1Y1N37Y7N4Y5dN2Y4cacN1Y2361N7Y1N" ++
    "11Y2N7Y1N2Y1N5Y64N1Y653N1Y2N1Y7N2Y5N1Y251N1Y7e8N1aY6N1aY6N1aYf0e76N")

/-- The characters that extend a grapheme although they are no such marks. -/
def otherGraphemeExtend : CharSet :=
  CharSet.ofText ("9beN1Y18N1Y166N1Y18N1Y66N1Y18N1Ye8N1Y1N1Y4N2Y1N2Y9N2Y67N1Y18N1Y77N1YfN1Y935N1Y1eN1Y400N" ++
    "1Y5N1Y1N1Y5N2Y65N1Y47N2Y418N1Y1021N2Y7923N1Y6cN1Y55ddN2Y1220N1Y74N1Y108N1YeN1Y9N1Y60N1Y" ++
    "9N1Y2N1Y1N3Y5N1Ye0N1YcN1Yf1N1Y106N1Y279N1YcN1Y603N1Y50aeN2Y6173N2Y6N6Yc2eadN60Y2ff80N")

/-- The characters that are not shown unless they are supported. -/
def defaultIgnorable : CharSet :=
  CharSet.ofText ("adN1Y2a1N1Y2ccN1Yb42N2Y653N2Y55N5Y7fbN5Y1aN5Y31N10Y10f4N1Ycc9bN10YefN1Ya0N1Y4fN9Ybca7N4Y" ++
    "14cfN8Yc2e85N1000Y2f000N")

def lowercase : CharSet :=
  CharSet.ofText ("61N1aY2fN1YaN1Y4N1Y24N18Y1N8Y1N1Y1N1Y1N1Y1N1Y1N1Y1N1Y1N1Y1N1Y1N1Y1N1Y1N1Y1N1Y1N1Y1N1Y1N" ++
    "1Y1N1Y1N1Y1N1Y1N1Y1N1Y1N1Y1N1Y1N1Y1N1Y1N1Y1N1Y1N1Y1N2Y1N1Y1N1Y1N1Y1N1Y1N1Y1N1Y1N1Y1N2Y1N" ++
    "1Y1N1Y1N1Y1N1Y1N1Y1N1Y1N1Y1N1Y1N1Y1N1Y1N1Y1N1Y1N1Y1N1Y1N1Y1N1Y1N1Y1N1Y1N1Y1N1Y1N1Y1N1Y1N" ++
    "1Y2N1Y1N1Y1N3Y2N1Y1N1Y2N1Y3N2Y4N1Y2N1Y3N3Y2N1Y2N1Y1N1Y1N1Y2N1Y1N2Y1N1Y2N1Y3N1Y1N1Y2N2Y2N" ++
    "3Y6N1Y2N1Y2N1Y1N1Y1N1Y1N1Y1N1Y1N1Y1N1Y1N1Y1N2Y1N1Y1N1Y1N1Y1N1Y1N1Y1N1Y1N1Y1N1Y1N2Y2N1Y1N" ++
    "1Y3N1Y1N1Y1N1Y1N1Y1N1Y1N1Y1N1Y1N1Y1N1Y1N1Y1N1Y1N1Y1N1Y1N1Y1N1Y1N1Y1N1Y1N1Y1N1Y1N1Y1N1Y1N" ++
    "1Y1N1Y1N1Y1N1Y1N1Y1N1Y1N1Y1N1Y1N7Y2N1Y2N2Y1N1Y4N1Y1N1Y1N1Y1N1Y1N45Y2N23Y7N2Y1eN5Y60N1Y" ++
    "2bN1Y1N1Y3N1Y2N4Y12N1Y1bN23Y1N2Y3N3Y1N1Y1N1Y1N1Y1N1Y1N1Y1N1Y1N1Y1N1Y1N1Y1N1Y1N1Y1N5Y1N1Y" ++
    "2N1Y2N2Y33N30Y1N1Y1N1Y1N1Y1N1Y1N1Y1N1Y1N1Y1N1Y1N1Y1N1Y1N1Y1N1Y1N1Y1N1Y1N1Y1N1Y1N1Y9N1Y1N" ++
    "1Y1N1Y1N1Y1N1Y1N1Y1N1Y1N1Y1N1Y1N1Y1N1Y1N1Y1N1Y1N1Y1N1Y1N1Y1N1Y1N1Y1N1Y1N1Y1N1Y1N1Y1N1Y1N" ++
    "1Y1N1Y1N1Y1N1Y2N1Y1N1Y1N1Y1N1Y1N1Y1N1Y1N2Y1N1Y1N1Y1N1Y1N1Y1N1Y1N1Y1N1Y1N1Y1N1Y1N1Y1N1Y1N" ++
    "1Y1N1Y1N1Y1N1Y1N1Y1N1Y1N1Y1N1Y1N1Y1N1Y1N1Y1N1Y1N1Y1N1Y1N1Y1N1Y1N1Y1N1Y1N1Y1N1Y1N1Y1N1Y1N" ++
    "1Y1N1Y1N1Y1N1Y1N1Y1N1Y1N1Y1N1Y1N1Y1N1Y1N1Y1N1Y1N1Y1N1Y1N1Y30N29Yb47N2bY1N4Y2f8N6Y882N9Y" ++
    "1N1Y75Nc0Y41N1Y1N1Y1N1Y1N1Y1N1Y1N1Y1N1Y1N1Y1N1Y1N1Y1N1Y1N1Y1N1Y1N1Y1N1Y1N1Y1N1Y1N1Y1N1Y" ++
    "1N1Y1N1Y1N1Y1N1Y1N1Y1N1Y1N1Y1N1Y1N1Y1N1Y1N1Y1N1Y1N1Y1N1Y1N1Y1N1Y1N1Y1N1Y1N1Y1N1Y1N1Y1N1Y" ++
    "1N1Y1N1Y1N1Y1N1Y1N1Y1N1Y1N1Y1N1Y1N1Y1N1Y1N1Y1N1Y1N1Y1N1Y1N1Y1N1Y1N1Y1N1Y1N1Y1N1Y1N1Y1N1Y" ++
    "1N1Y1N1Y1N1Y1N1Y1N1Y1N1Y1N1Y1N1Y1N1Y1N1Y1N1Y1N9Y1N1Y1N1Y1N1Y1N1Y1N1Y1N1Y1N1Y1N1Y1N1Y1N1Y" ++
    "1N1Y1N1Y1N1Y1N1Y1N1Y1N1Y1N1Y1N1Y1N1Y1N1Y1N1Y1N1Y1N1Y1N1Y1N1Y1N1Y1N1Y1N1Y1N1Y1N1Y1N1Y1N1Y" ++
    "1N1Y1N1Y1N1Y1N1Y1N1Y1N1Y1N1Y1N1Y1N1Y1N1Y1N1Y1N1Y1N1Y1N1Y1N1Y1N1Y1N9Y8N6YaN8Y8N8Y8N6YaN8Y" ++
    "8N8Y8NeY2N8Y8N8Y8N8Y8N5Y1N2Y6N1Y3N3Y1N2Y8N4Y2N2Y8N8YaN3Y1N2Y79N1YdN1Y10NdY6dN1Y3N2Y3N1Y" ++
    "1bN1Y4N1Y4N1Y2N2Y8N4Y4N1Y21N10Y4N1Y34bN1aY746N30Y1N1Y3N2Y1N1Y1N1Y1N1Y4N1Y1N2Y1N8Y3N1Y1N" ++
    "1Y1N1Y1N1Y1N1Y1N1Y1N1Y1N1Y1N1Y1N1Y1N1Y1N1Y1N1Y1N1Y1N1Y1N1Y1N1Y1N1Y1N1Y1N1Y1N1Y1N1Y1N1Y1N" ++
    "1Y1N1Y1N1Y1N1Y1N1Y1N1Y1N1Y1N1Y1N1Y1N1Y1N1Y1N1Y1N1Y1N1Y1N1Y1N1Y1N1Y1N1Y1N1Y1N1Y1N1Y1N1Y1N" ++
    "1Y1N1Y1N1Y1N1Y1N2Y7N1Y1N1Y4N1YcN26Y1N1Y5N1Y7913N1Y1N1Y1N1Y1N1Y1N1Y1N1Y1N1Y1N1Y1N1Y1N1Y1N" ++
    "1Y1N1Y1N1Y1N1Y1N1Y1N1Y1N1Y1N1Y1N1Y1N1Y1N1Y1N1Y1N1Y13N1Y1N1Y1N1Y1N1Y1N1Y1N1Y1N1Y1N1Y1N1Y" ++
    "1N1Y1N1Y1N1Y1N1Y1N3Y85N1Y1N1Y1N1Y1N1Y1N1Y1N1Y1N3Y1N1Y1N1Y1N1Y1N1Y1N1Y1N1Y1N1Y1N1Y1N1Y1N" ++
    "1Y1N1Y1N1Y1N1Y1N1Y1N1Y1N1Y1N1Y1N1Y1N1Y1N1Y1N1Y1N1Y1N1Y1N1Y1N1Y1N1Y1N1Y1N1Y1N1Y1N1Y1NaY1N" ++
    "1Y1N1Y2N1Y1N1Y1N1Y1N1Y1N1Y4N1Y1N1Y2N1Y1N3Y1N1Y1N1Y1N1Y1N1Y1N1Y1N1Y1N1Y1N1Y1N1Y1N1Y5N1Y5N" ++
    "1Y1N1Y1N1Y1N1Y1N1Y1N1Y1N1Y1N1Y4N1Y1N1Y2N1Y1N1Y1N1Y1N1Y1N1Y1N1Y1N1Y1N1Y15N4Y1N1Y1N3Y335N" ++
    "2bY1NeY6N50Y4f40N7YcN5Y429N1aY4cdN28Y88N24Y9bNbY1NfY1N7Y1N2Y1c3N1Y2N3Y1N2aY1N9Y505N33Y" ++
    "7dN16Yb3aN20Y5580N20Y3bN19Y6546N1aY1aN7Y1N12Y1aN1aY1aN4Y1N1Y1N7Y1NbY1aN1aY1aN1aY1aN1aY" ++
    "1aN1aY1aN1aY1aN1aY1aN1aY1aN1aY1aN1cY1cN19Y1N6Y1aN19Y1N6Y1aN19Y1N6Y1aN19Y1N6Y1aN19Y1N6Y1N" ++
    "1Y734NaY1N14Y6N6Y105N3eY8b4N22Yf16bcN")

def uppercase : CharSet :=
  CharSet.ofText ("41N1aY65N17Y1N7Y21N1Y1N1Y1N1Y1N1Y1N1Y1N1Y1N1Y1N1Y1N1Y1N1Y1N1Y1N1Y1N1Y1N1Y1N1Y1N1Y1N1Y1N" ++
    "1Y1N1Y1N1Y1N1Y1N1Y1N1Y1N1Y1N1Y1N1Y1N1Y1N1Y2N1Y1N1Y1N1Y1N1Y1N1Y1N1Y1N1Y1N1Y2N1Y1N1Y1N1Y1N" ++
    "1Y1N1Y1N1Y1N1Y1N1Y1N1Y1N1Y1N1Y1N1Y1N1Y1N1Y1N1Y1N1Y1N1Y1N1Y1N1Y1N1Y1N1Y1N1Y1N1Y1N2Y1N1Y1N" ++
    "1Y3N2Y1N1Y1N2Y1N3Y2N4Y1N2Y1N3Y3N2Y1N2Y1N1Y1N1Y1N2Y1N1Y2N1Y1N2Y1N3Y1N1Y1N2Y3N1Y7N1Y2N1Y2N" ++
    "1Y2N1Y1N1Y1N1Y1N1Y1N1Y1N1Y1N1Y1N1Y2N1Y1N1Y1N1Y1N1Y1N1Y1N1Y1N1Y1N1Y1N1Y2N1Y2N1Y1N3Y1N1Y1N" ++
    "1Y1N1Y1N1Y1N1Y1N1Y1N1Y1N1Y1N1Y1N1Y1N1Y1N1Y1N1Y1N1Y1N1Y1N1Y1N1Y1N1Y1N1Y1N1Y1N1Y1N1Y1N1Y1N" ++
    "1Y1N1Y1N1Y1N1Y1N1Y1N1Y7N2Y1N2Y2N1Y1N4Y1N1Y1N1Y1N1Y1N1Y121N1Y1N1Y3N1Y8N1Y6N1Y1N3Y1N1Y1N2Y" ++
    "1N11Y1N9Y23N1Y2N3Y3N1Y1N1Y1N1Y1N1Y1N1Y1N1Y1N1Y1N1Y1N1Y1N1Y1N1Y1N1Y5N1Y2N1Y1N2Y2N33Y30N1Y" ++
    "1N1Y1N1Y1N1Y1N1Y1N1Y1N1Y1N1Y1N1Y1N1Y1N1Y1N1Y1N1Y1N1Y1N1Y1N1Y1N1Y9N1Y1N1Y1N1Y1N1Y1N1Y1N1Y" ++
    "1N1Y1N1Y1N1Y1N1Y1N1Y1N1Y1N1Y1N1Y1N1Y1N1Y1N1Y1N1Y1N1Y1N1Y1N1Y1N1Y1N1Y1N1Y1N1Y1N1Y1N1Y1N2Y" ++
    "1N1Y1N1Y1N1Y1N1Y1N1Y1N1Y2N1Y1N1Y1N1Y1N1Y1N1Y1N1Y1N1Y1N1Y1N1Y1N1Y1N1Y1N1Y1N1Y1N1Y1N1Y1N1Y" ++
    "1N1Y1N1Y1N1Y1N1Y1N1Y1N1Y1N1Y1N1Y1N1Y1N1Y1N1Y1N1Y1N1Y1N1Y1N1Y1N1Y1N1Y1N1Y1N1Y1N1Y1N1Y1N1Y" ++
    "1N1Y1N1Y1N1Y1N1Y1N1Y1N1Y1N1Y1N1Y1N1Y1N1Y2N26Yb49N26Y1N1Y5N1Y2d2N56Y893N1Y6N2bY2N3Y140N1Y" ++
    "1N1Y1N1Y1N1Y1N1Y1N1Y1N1Y1N1Y1N1Y1N1Y1N1Y1N1Y1N1Y1N1Y1N1Y1N1Y1N1Y1N1Y1N1Y1N1Y1N1Y1N1Y1N1Y" ++
    "1N1Y1N1Y1N1Y1N1Y1N1Y1N1Y1N1Y1N1Y1N1Y1N1Y1N1Y1N1Y1N1Y1N1Y1N1Y1N1Y1N1Y1N1Y1N1Y1N1Y1N1Y1N1Y" ++
    "1N1Y1N1Y1N1Y1N1Y1N1Y1N1Y1N1Y1N1Y1N1Y1N1Y1N1Y1N1Y1N1Y1N1Y1N1Y1N1Y1N1Y1N1Y1N1Y1N1Y1N1Y1N1Y" ++
    "1N1Y1N1Y1N1Y1N1Y1N1Y1N1Y1N1Y1N1Y9N1Y1N1Y1N1Y1N1Y1N1Y1N1Y1N1Y1N1Y1N1Y1N1Y1N1Y1N1Y1N1Y1N1Y" ++
    "1N1Y1N1Y1N1Y1N1Y1N1Y1N1Y1N1Y1N1Y1N1Y1N1Y1N1Y1N1Y1N1Y1N1Y1N1Y1N1Y1N1Y1N1Y1N1Y1N1Y1N1Y1N1Y" ++
    "1N1Y1N1Y1N1Y1N1Y1N1Y1N1Y1N1Y1N1Y1N1Y1N1Y1N1Y1N1Y1N1Y9N8Y8N6YaN8Y8N8Y8N6YbN1Y1N1Y1N1Y1N1Y" ++
    "8N8Y48N4YcN4YcN4YcN5YbN4Y106N1Y4N1Y3N3Y2N3Y2N1Y3N5Y6N1Y1N1Y1N1Y1N4Y2N4YaN2Y5N1Y1aN10Y13N" ++
    "1Y332N1aY730N30Y30N1Y1N3Y2N1Y1N1Y1N1Y1N4Y1N1Y2N1Y8N3Y1N1Y1N1Y1N1Y1N1Y1N1Y1N1Y1N1Y1N1Y1N" ++
    "1Y1N1Y1N1Y1N1Y1N1Y1N1Y1N1Y1N1Y1N1Y1N1Y1N1Y1N1Y1N1Y1N1Y1N1Y1N1Y1N1Y1N1Y1N1Y1N1Y1N1Y1N1Y1N" ++
    "1Y1N1Y1N1Y1N1Y1N1Y1N1Y1N1Y1N1Y1N1Y1N1Y1N1Y1N1Y1N1Y1N1Y1N1Y1N1Y1N1Y1N1Y1N1Y8N1Y1N1Y4N1Y" ++
    "794dN1Y1N1Y1N1Y1N1Y1N1Y1N1Y1N1Y1N1Y1N1Y1N1Y1N1Y1N1Y1N1Y1N1Y1N1Y1N1Y1N1Y1N1Y1N1Y1N1Y1N1Y" ++
    "1N1Y1N1Y13N1Y1N1Y1N1Y1N1Y1N1Y1N1Y1N1Y1N1Y1N1Y1N1Y1N1Y1N1Y1N1Y1N1Y87N1Y1N1Y1N1Y1N1Y1N1Y1N" ++
    "1Y1N1Y3N1Y1N1Y1N1Y1N1Y1N1Y1N1Y1N1Y1N1Y1N1Y1N1Y1N1Y1N1Y1N1Y1N1Y1N1Y1N1Y1N1Y1N1Y1N1Y1N1Y1N" ++
    "1Y1N1Y1N1Y1N1Y1N1Y1N1Y1N1Y1N1Y1N1Y1N1Y1N1YaN1Y1N1Y1N2Y1N1Y1N1Y1N1Y1N1Y4N1Y1N1Y2N1Y1N1Y3N" ++
    "1Y1N1Y1N1Y1N1Y1N1Y1N1Y1N1Y1N1Y1N1Y1N1Y1N5Y1N5Y1N1Y1N1Y1N1Y1N1Y1N1Y1N1Y1N1Y1N4Y1N1Y1N2Y1N" ++
    "1Y1N1Y1N1Y1N1Y1N1Y1N1Y1N1Y1N1Y18N1Y572bN1aY4c5N28Y88N24Y9cNbY1NfY1N7Y1N2Y6eaN33Y9dN16Y" ++
    "b3aN20Y5580N20Y40N19Y6547N1aY1aN1aY1aN1aY1aN1Y1N2Y2N1Y2N2Y2N4Y1N8Y1aN1aY1aN2Y1N4Y2N8Y1N" ++
    "7Y1bN2Y1N4Y1N5Y1N1Y3N7Y1bN1aY1aN1aY1aN1aY1aN1aY1aN1aY1aN1aY1eN19Y21N19Y21N19Y21N19Y21N" ++
    "19Y21N1Y1135N22Y80eN1aY6N1aY6N1aYf0e76N")

def isAlphabetic (character : Char) : Bool :=
  inCategory "L" character || inCategory "Nl" character ||
    otherAlphabetic.contains character

/-- Whether a character extends the grapheme before it. -/
def extendsGrapheme (character : Char) : Bool :=
  inCategory "Mn" character || inCategory "Me" character ||
    otherGraphemeExtend.contains character

/-- Whether a character joins others or keeps them apart. -/
def isJoinControl (character : Char) : Bool :=
  character.toNat == 0x200c || character.toNat == 0x200d

def isWord (character : Char) : Bool :=
  isAlphabetic character || inCategory "M" character ||
    inCategory "Nd" character || inCategory "Pc" character ||
    isJoinControl character

/-- Whether a character is a decimal digit of any script. -/
def isDigit (character : Char) : Bool :=
  inCategory "Nd" character

/--
Whether a character can be shown as it is: it is assigned, no control, format
or separator other than the space, and not ignorable.
-/
def isPrintable (character : Char) : Bool :=
  character == ' ' ||
    !(inCategory "C" character || inCategory "Z" character ||
      defaultIgnorable.contains character)

end QuotaRing.Unicode
