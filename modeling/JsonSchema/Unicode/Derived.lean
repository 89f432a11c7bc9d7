import JsonSchema.Unicode.CaseFold
import JsonSchema.Unicode.Category
import JsonSchema.Unicode.Listed

namespace JsonSchema.Unicode

def alphabetic : CharSet := .unionAll [letter, letterNumber, otherAlphabetic]

def lowercase : CharSet := lowercaseLetter.union otherLowercase

def uppercase : CharSet := uppercaseLetter.union otherUppercase

def math : CharSet := mathSymbol.union otherMath

def cased : CharSet := .unionAll [uppercase, lowercase, titlecaseLetter]

/-- White space: the separators and the controls that move the writing position. -/
def whiteSpace : CharSet := .unionAll [separator, .range 0x9 0xd, .range 0x85 0x85]

def graphemeExtend : CharSet := .unionAll [nonspacingMark, enclosingMark, otherGraphemeExtend]

def graphemeBase : CharSet :=
  (CharSet.unionAll [other, lineSeparator, paragraphSeparator, graphemeExtend]).complement

def defaultIgnorable : CharSet :=
  (CharSet.unionAll [otherDefaultIgnorable, format, variationSelector]).diff
    (.unionAll [whiteSpace, prependedConcatenationMark, .ofTable ["fff9-fffb 13430-1343f"]])

def hexDigit : CharSet := asciiHexDigit.union (.ofTable ["ff10-ff19 ff21-ff26 ff41-ff46"])

/-- What patterns may use as signs and blanks, and so is kept out of identifiers. -/
def patternReserved : CharSet := patternSyntax.union patternWhiteSpace

def idStart : CharSet :=
  (CharSet.unionAll [letter, letterNumber, otherIdStart]).diff patternReserved

def idContinue : CharSet :=
  (CharSet.unionAll
    [idStart, nonspacingMark, spacingMark, decimalNumber, connectorPunctuation,
      otherIdContinue]).diff patternReserved

/-- Characters inside identifiers whose normal forms are identifiers no more. -/
def notNormalIdContinue : CharSet := .ofTable
  ["37a 309b-309c fc5e-fc63 fdfa-fdfb fe70 fe72 fe74 fe76 fe78 fe7a fe7c fe7e"]

def xidStart : CharSet :=
  idStart.diff (notNormalIdContinue.union (.ofTable ["e33 eb3 ff9e-ff9f"]))

def xidContinue : CharSet := idContinue.diff notNormalIdContinue

/-- What words are made of: letters, marks, digits, low lines and joiners. -/
def word : CharSet := .unionAll
  [alphabetic, mark, decimalNumber, connectorPunctuation, joinControl]

def hasOtherCase : CharSet := .ofRanges (foldPairs.flatMap fun (c, target) =>
  [(c, c), (target, target)])

def changesWhenLowercased : CharSet :=
  ((uppercase.union titlecaseLetter).inter hasOtherCase).union (.ofTable ["130"])

/-- Lowercase characters whose uppercase form is more than one character count too. -/
def changesWhenUppercased : CharSet :=
  (hasOtherCase.diff uppercase).union (.ofTable
    ["131 149 1f0 587 1e96-1e9a 1f50 1f52 1f54 1f56 1fb2 1fb4 1fb6-1fb7 1fc2 1fc4 1fc6-1fc7 1fd2",
     "1fd6-1fd7 1fe2 1fe4 1fe6-1fe7 1ff2 1ff4 1ff6-1ff7 fb00-fb04 fb13-fb17"])

/-- Georgian letters and characters that are in title case already do not change. -/
def changesWhenTitlecased : CharSet :=
  (changesWhenUppercased.diff (.ofTable
    ["1c5 1c8 1cb 1f2 10d0-10fa 10fd-10ff 1f88-1f8f 1f98-1f9f 1fa8-1faf 1fbc 1fcc 1ffc"])).union
    (.ofTable ["1c4 1c7 1ca 1f1"])

def changesWhenCaseFolded : CharSet :=
  (changesWhenLowercased.diff (.range 0x13a0 0x13f5)).union (.ofTable
    ["b5 df 149 17f 345 3c2 3d0-3d1 3d5-3d6 3f0-3f1 3f5 587 13f8-13fd 1c80-1c88 1e9a-1e9b",
     "1f80-1f87 1f90-1f97 1fa0-1fa7 1fb2-1fb4 1fb7 1fc2-1fc4 1fc7 1ff2-1ff4 1ff7 ab70-abbf",
     "fb00-fb06 fb13-fb17"])

def changesWhenCaseMapped : CharSet := .unionAll
  [changesWhenLowercased, changesWhenUppercased, changesWhenTitlecased]

end JsonSchema.Unicode
