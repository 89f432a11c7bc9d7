import JsonSchema.Unicode.Derived
import JsonSchema.Unicode.Script

namespace JsonSchema.Unicode

def ofScript (name : String) : CharSet := (script? name).getD .empty

def lineFeed : CharSet := .single '\n'

def carriageReturn : CharSet := .single '\r'

def nextLine : CharSet := .ofTable ["85 2028-2029"]

def zeroWidthJoiner : CharSet := .ofTable ["200d"]

namespace Sentence

def ambiguousStop : CharSet := .ofTable ["2e 2024 fe52 ff0e"]

def stop : CharSet := sentenceTerminal.diff ambiguousStop

def closing : CharSet := .unionAll
  [openPunctuation, closePunctuation, initialPunctuation, finalPunctuation,
    .ofTable ["22 27 275b-2760 2e00-2e01 2e06-2e08 2e0b 1f676-1f678"]]

def continuing : CharSet := .ofTable
  ["2c-2d 3a-3b 37e 55d 60c-60d 7f8 1802 1808 2013-2014 3001 fe10-fe11 fe13-fe14 fe31-fe32",
   "fe50-fe51 fe54-fe55 fe58 fe63 ff0c-ff0d ff1a-ff1b ff64"]

def extend : CharSet := .unionAll [graphemeExtend, spacingMark, zeroWidthJoiner]

def numeric : CharSet :=
  decimalNumber.union (.ofTable ["600-605 66b-66c 6dd 890-891 8e2 19da 110bd 110cd"])

def format : CharSet := Unicode.format.diff (extend.union numeric)

def lower : CharSet := lowercase.diff (graphemeExtend.union (.ofTable ["10d0-10fa 10fd-10ff"]))

def upper : CharSet := (uppercase.union titlecaseLetter).diff (.ofTable ["1c90-1cba 1cbd-1cbf"])

def otherLetter : CharSet :=
  (alphabetic.diff (.unionAll [lower, upper, extend])).union (.ofTable ["5f3"])

def space : CharSet := whiteSpace.diff (.unionAll [lineFeed, carriageReturn, nextLine])

def classes : List (List String × CharSet) := [
  (["aterm", "at"], ambiguousStop), (["close", "cl"], closing), (["cr"], carriageReturn),
  (["extend", "ex"], extend), (["format", "fo"], format), (["lf"], lineFeed),
  (["lower", "lo"], lower), (["numeric", "nu"], numeric), (["oletter", "le"], otherLetter),
  (["scontinue", "sc"], continuing), (["sep", "se"], nextLine), (["sp"], space),
  (["sterm", "st"], stop), (["upper", "up"], upper)]

end Sentence

namespace Word

/-- Letters of scripts that are written without blanks between words. -/
def complexContext : CharSet := .ofTable
  ["e01-e30 e32-e33 e40-e46 e81-e82 e84 e86-e8a e8c-ea3 ea5 ea7-eb0 eb2-eb3 ebd ec0-ec4 ec6",
   "edc-edf 1000-102a 103f 1050-1055 105a-105d 1061 1065-1066 106e-1070 1075-1081 108e 1780-17b3",
   "17d7 17dc 1950-196d 1970-1974 1980-19ab 19b0-19c9 1a20-1a54 1aa7 a9e0-a9e4 a9e6-a9ef",
   "a9fa-a9fe aa60-aa76 aa7a aa7e-aaaf aab1 aab5-aab6 aab9-aabd aac0 aac2 aadb-aadd 11700-1171a",
   "11740-11746"]

def extend : CharSet := (Sentence.extend.diff zeroWidthJoiner).union emojiModifier

def format : CharSet := Sentence.format.diff (.ofTable ["70f 200b"])

def hebrewLetter : CharSet := (ofScript "hebrew").inter Unicode.otherLetter

def katakana : CharSet :=
  (ofScript "katakana").union (.ofTable ["3031-3035 309b-309c 30a0 30fc ff70"])

def letter : CharSet :=
  (alphabetic.diff (.unionAll
    [ideographic, katakana, ofScript "hiragana", extend, hebrewLetter, complexContext])).union
    (.ofTable
      ["2c2-2c5 2d2-2d7 2de-2df 2e5-2eb 2ed 2ef-2ff 55a-55c 55e 58a 5f3 70f a708-a716 a720-a721",
       "a789-a78a ab5b"])

def numeric : CharSet := Sentence.numeric.diff (.ofTable ["66c"])

def midLetter : CharSet := .ofTable ["3a b7 387 55f 5f4 2027 fe13 fe55 ff1a"]

def midNumber : CharSet := .ofTable
  ["2c 3b 37e 589 60c-60d 66c 7f8 2044 fe50 fe54 ff0c ff1b"]

def midBoth : CharSet := .ofTable ["2e 2018-2019 2024 fe52 ff07 ff0e"]

def singleQuote : CharSet := .single '\''

def joining : CharSet := .ofTable ["5f 202f 203f-2040 2054 fe33-fe34 fe4d-fe4f ff3f"]

def newline : CharSet := .ofTable ["b-c 85 2028-2029"]

def space : CharSet := spaceSeparator.diff (.ofTable ["a0 2007 202f"])

def classes : List (List String × CharSet) := [
  (["aletter", "le"], letter), (["cr"], carriageReturn),
  (["doublequote", "dq"], .single '"'), (["extend"], extend),
  (["extendnumlet", "ex"], joining), (["format", "fo"], format),
  (["hebrewletter", "hl"], hebrewLetter), (["katakana", "ka"], katakana), (["lf"], lineFeed),
  (["midletter", "ml"], midLetter), (["midnum", "mn"], midNumber),
  (["midnumlet", "mb"], midBoth), (["newline", "nl"], newline), (["numeric", "nu"], numeric),
  (["regionalindicator", "ri"], regionalIndicator), (["singlequote", "sq"], singleQuote),
  (["wsegspace"], space), (["zwj"], zeroWidthJoiner)]

end Word

/-- Characters that are passed over when the case of a word is looked at. -/
def caseIgnorable : CharSet := .unionAll
  [nonspacingMark, enclosingMark, format, modifierLetter, modifierSymbol, Word.midLetter,
    Word.midBoth, Word.singleQuote]

namespace Grapheme

def extend : CharSet := graphemeExtend.union emojiModifier

/-- Ignorable code points that have not been assigned count as controls. -/
def control : CharSet :=
  ((CharSet.unionAll [Unicode.control, Unicode.format, lineSeparator, paragraphSeparator]).diff
    (.unionAll
      [lineFeed, carriageReturn, zeroWidthJoiner, graphemeExtend,
        prependedConcatenationMark])).union (defaultIgnorable.inter unassigned)

def leading : CharSet := .ofTable ["1100-115f a960-a97c"]

def vowel : CharSet := .ofTable ["1160-11a7 d7b0-d7c6 16d63 16d67-16d6a"]

def trailing : CharSet := .ofTable ["11a8-11ff d7cb-d7fb"]

def firstSyllable : Nat := 0xac00

/-- Syllables of Hangul without a trailing consonant: every 28th one. -/
def openSyllable : CharSet :=
  ⟨(List.range 399).map fun i => (firstSyllable + 28 * i, firstSyllable + 28 * i)⟩

def closedSyllable : CharSet := (CharSet.range firstSyllable 0xd7a3).diff openSyllable

def prepended : CharSet :=
  prependedConcatenationMark.union (.ofTable
    ["d4e 111c2-111c3 113d1 1193f 11941 11a3a 11a84-11a89 11d46 11f02"])

def spacing : CharSet :=
  (spacingMark.diff (graphemeExtend.union (.ofTable
    ["102b-102c 1038 1062-1064 1067-106d 1083 1087-108c 108f 109a-109c 1a61 1a63-1a64 aa7b aa7d",
     "11720-11721"]))).union (.ofTable ["e33 eb3"])

def classes : List (List String × CharSet) := [
  (["cr"], carriageReturn), (["control", "cn"], control), (["extend", "ex"], extend),
  (["l"], leading), (["lf"], lineFeed), (["lv"], openSyllable), (["lvt"], closedSyllable),
  (["prepend", "pp"], prepended), (["regionalindicator", "ri"], regionalIndicator),
  (["spacingmark", "sm"], spacing), (["t"], trailing), (["v"], vowel), (["zwj"], zeroWidthJoiner)]

end Grapheme

end JsonSchema.Unicode
