/-
# Breaks

The classes of code points by which a text is cut into characters as they are seen, into words and
into sentences.  A break falls, or does not fall, between two classes; here only the classes are
kept.  Most follow from categories and properties, with lists of what is added or left out.
-/
import JsonSieve.Unicode.Property
import JsonSieve.Unicode.Script

namespace JsonSieve.Unicode.Break

open Category Property

/-! ## 1. Characters -/

def carriageReturn : CodeSet := .range 0x0D 0x0D

def lineFeed : CodeSet := .range 0x0A 0x0A

def zeroWidthJoiner : CodeSet := .range 0x200D 0x200D

def zeroWidthNonJoiner : CodeSet := .range 0x200C 0x200C

/-- What cannot be seen and attaches itself to nothing. -/
def hidden : CodeSet :=
  .unions [lineSeparator, paragraphSeparator, Category.control, format,
    unassigned ∩ defaultIgnorableCodePoint] \
    .unions [carriageReturn, lineFeed, zeroWidthJoiner, prependedConcatenationMark, graphemeExtend]

/-- What continues a character. -/
def characterExtend : CodeSet := graphemeExtend ∪ emojiModifier

/-- The spacing marks that stand by themselves. -/
def looseMark : CodeSet :=
  .ofRuns
   ["4139 2 11 1 41 3 2 7 21 1 3 6 2 1 10 3 2500 1 1 2 36886 1 1 1 27810 2 "]

/-- The spacing marks that belong to the character before them. -/
def attachedMark : CodeSet :=
  (spacingMark \ (graphemeExtend ∪ looseMark)) ∪ .ofRanges [(0xE33, 0xE33), (0xEB3, 0xEB3)]

/-- What belongs to the character behind it. -/
def prepended : CodeSet :=
  prependedConcatenationMark ∪
    .ofRuns
    ["3406 1 66675 2 525 1 1389 1 1 1 248 1 73 6 700 1 443 1 "]

/-- The syllables of two letters, of which there is one in twenty-eight. -/
def syllableOfTwo : CodeSet := .ofCodes ((List.range 399).map fun k => 0xAC00 + 28 * k)

/-- The syllables of three letters. -/
def syllableOfThree : CodeSet := .range 0xAC00 0xD7A3 \ syllableOfTwo

/-- The classes for characters as they are seen, under all their names. -/
def characterClasses : Category.Named :=
  [(["cr"], carriageReturn),
   (["lf"], lineFeed),
   (["cn", "control"], hidden),
   (["ex", "extend"], characterExtend),
   (["zwj"], zeroWidthJoiner),
   (["ri", "regionalindicator"], regionalIndicator),
   (["pp", "prepend"], prepended),
   (["sm", "spacingmark"], attachedMark),
   (["l"], .ofRanges [(0x1100, 0x115F), (0xA960, 0xA97C)]),
   (["v"], .ofRanges
      [(0x1160, 0x11A7), (0xD7B0, 0xD7C6), (0x16D63, 0x16D63), (0x16D67, 0x16D6A)]),
   (["t"], .ofRanges [(0x11A8, 0x11FF), (0xD7CB, 0xD7FB)]),
   (["lv"], syllableOfTwo),
   (["lvt"], syllableOfThree)]

/-! ## 2. Words -/

/-- The code points of the script of a name. -/
def ofScript (name : String) : CodeSet := (Script.find? name).getD .empty

/-- Marks of both kinds. -/
def anyMark : CodeSet := graphemeExtend ∪ spacingMark

def newline : CodeSet :=
  .ofRanges [(0x0B, 0x0C), (0x85, 0x85), (0x2028, 0x2029)]

def wordExtend : CodeSet := anyMark ∪ emojiModifier

/-- The signs that stand for themselves though they cannot be seen. -/
def ownFormat : CodeSet :=
  .unions [prependedConcatenationMark, zeroWidthNonJoiner, zeroWidthJoiner, .range 0xE0020 0xE007F]

def wordFormat : CodeSet := format \ (ownFormat ∪ .range 0x200B 0x200B)

def katakana : CodeSet :=
  ofScript "katakana" ∪
    .ofRanges
    [(0x3031, 0x3035), (0x309B, 0x309C), (0x30A0, 0x30A0), (0x30FC, 0x30FC), (0xFF70, 0xFF70)]

def hebrewLetter : CodeSet := ofScript "hebrew" ∩ otherLetter

/-- The letters of the writing systems that put no blanks between words. -/
def unspacedLetter : CodeSet :=
  .ofRuns
   ["3585 48 1 2 12 7 58 2 1 1 1 5 1 24 1 1 1 10 1 2 9 1 2 5 1 1 21 4 288 43 20 1 16 6 4 4 3 ",
    "1 3 2 7 3 4 13 12 1 1777 52 35 1 4 1 371 30 2 5 11 44 4 26 86 53 82 1 36664 5 1 10 10 5 ",
    "97 23 3 1 3 50 1 1 3 2 2 5 2 1 1 1 24 3 27682 27 37 7 "]

/-- The signs beside letters that a word is made of. -/
def letterLike : CodeSet :=
  .ofRuns
   ["706 4 12 6 6 2 5 7 1 1 1 17 602 3 1 1 43 1 104 1 283 1 40952 15 9 2 103 2 976 1 "]

def wordLetter : CodeSet :=
  (alphabetic \ .unions [ideographic, katakana, ofScript "hiragana", wordExtend, hebrewLetter,
    unspacedLetter]) ∪ letterLike

def midNum : CodeSet :=
  .ofRuns
   ["44 1 14 1 834 1 522 1 130 2 94 1 395 1 6219 1 56843 1 3 1 183 1 14 1 "]

def wordNumeric : CodeSet :=
  .unions [decimalNumber, prependedConcatenationMark \ .range 0x70F 0x70F, .range 0x66B 0x66B,
    .range 0x19DA 0x19DA]

def joiningSign : CodeSet := connectorPunctuation ∪ .range 0x202F 0x202F

def wordSpace : CodeSet :=
  spaceSeparator \ .ofRanges [(0xA0, 0xA0), (0x2007, 0x2007), (0x202F, 0x202F)]

/-- The classes for words, under all their names. -/
def wordClasses : Category.Named :=
  [(["cr"], carriageReturn),
   (["lf"], lineFeed),
   (["nl", "newline"], newline),
   (["extend"], wordExtend),
   (["zwj"], zeroWidthJoiner),
   (["ri", "regionalindicator"], regionalIndicator),
   (["fo", "format"], wordFormat),
   (["ka", "katakana"], katakana),
   (["hl", "hebrewletter"], hebrewLetter),
   (["le", "aletter"], wordLetter),
   (["sq", "singlequote"], .range 0x27 0x27),
   (["dq", "doublequote"], .range 0x22 0x22),
   (["ml", "midletter"], midLetter),
   (["mb", "midnumlet"], midNumLet),
   (["mn", "midnum"], midNum),
   (["nu", "numeric"], wordNumeric),
   (["ex", "extendnumlet"], joiningSign),
   (["wsegspace"], wordSpace)]

/-! ## 3. Sentences -/

def sentenceBreakSign : CodeSet := .ofRanges [(0x85, 0x85), (0x2028, 0x2029)]

def sentenceExtend : CodeSet := anyMark ∪ zeroWidthJoiner

def sentenceFormat : CodeSet := (format \ ownFormat) ∪ .range 0x70F 0x70F

def sentenceSpace : CodeSet :=
  whiteSpace \ .unions [sentenceBreakSign, carriageReturn, lineFeed]

/-- The letters that have case but do not show where a sentence begins. -/
def caselessUse : CodeSet :=
  .ofRanges
   [(0x10D0, 0x10FA), (0x10FD, 0x10FF), (0x1C90, 0x1CBA), (0x1CBD, 0x1CBF)]

def sentenceLower : CodeSet := lowercase \ (graphemeExtend ∪ caselessUse)

def sentenceUpper : CodeSet := (uppercase ∪ titlecaseLetter) \ caselessUse

def sentenceLetter : CodeSet :=
  (alphabetic \ .unions [sentenceLower, sentenceUpper, sentenceExtend]) ∪ .range 0x5F3 0x5F3

/-- The stops that do not always end a sentence. -/
def stop : CodeSet := .ofRanges [(0x2E, 0x2E), (0x2024, 0x2024), (0xFE52, 0xFE52), (0xFF0E, 0xFF0E)]

/-- What shows that a sentence goes on. -/
def continuation : CodeSet :=
  .ofRuns
   ["44 2 12 2 834 1 478 1 174 2 490 1 4105 1 5 1 2058 2 4076 1 52750 2 1 2 28 2 29 2 2 2 2 ",
    "1 10 1 168 2 12 2 72 1 "]

/-- What may stand around a sentence or behind its end. -/
def closing : CodeSet :=
  .unions [openPunctuation, closePunctuation, initialPunctuation, finalPunctuation,
    .ofRuns
     ["34 1 4 1 10035 6 1695 2 4 3 2 1 116842 3 "]]

/-- The classes for sentences, under all their names. -/
def sentenceClasses : Category.Named :=
  [(["cr"], carriageReturn),
   (["lf"], lineFeed),
   (["ex", "extend"], sentenceExtend),
   (["se", "sep"], sentenceBreakSign),
   (["fo", "format"], sentenceFormat),
   (["sp"], sentenceSpace),
   (["lo", "lower"], sentenceLower),
   (["up", "upper"], sentenceUpper),
   (["le", "oletter"], sentenceLetter),
   (["nu", "numeric"], wordNumeric ∪ .range 0x66C 0x66C),
   (["at", "aterm"], stop),
   (["sc", "scontinue"], continuation),
   (["st", "sterm"], sentenceTerminal \ stop),
   (["cl", "close"], closing)]

end JsonSieve.Unicode.Break
