import FieldGuard.Unicode.Property
import FieldGuard.Unicode.Script

/-!
# Where texts may be divided

The classes of characters by which a text is divided into the units that a reader sees as one
character, into words, and into sentences. Each class is found by its names in the Unicode
character database; characters without a class have no name.
-/

namespace FieldGuard.Unicode.Segment

/-- The set of a name. -/
def find? (classes : List (List String × CharSet)) (name : String) : Option CharSet :=
  (classes.find? fun entry => entry.1.contains name).map (·.2)

/-- Line feed. -/
def lineFeed : CharSet := ⟨[(0x0A, 0x0A)]⟩

/-- Carriage return. -/
def carriageReturn : CharSet := ⟨[(0x0D, 0x0D)]⟩

/-- The joiner of the characters around it. -/
def zeroWidthJoiner : CharSet := ⟨[(0x200D, 0x200D)]⟩

/-- Both line feed and carriage return. -/
def lineBreaks : CharSet :=
  lineFeed.union carriageReturn

/-! ## Characters as a reader sees them -/

namespace Grapheme

/-- What belongs to the character before it. -/
def extend : CharSet :=
  Property.graphemeExtend.union Property.emojiModifier

/-- What belongs to the character after it. -/
def prepend : CharSet :=
  Property.prependedConcatenationMark.union <| CharSet.ofText
    ["D4E 111C2-111C3 113D1 1193F 11941 11A3A 11A84-11A89 11D46 11F02"]

/-- Marks that belong to the character before them and take space. -/
def spacingMark : CharSet :=
  (CharSet.union ⟨[(0xE33, 0xE33), (0xEB3, 0xEB3)]⟩
    (Category.spacingMark.difference Property.graphemeExtend)).difference <| CharSet.ofText
    ["102B-102C 1038 1062-1064 1067-106D 1083 1087-108C 108F 109A-109C 1A61 1A63-1A64 AA7B AA7D",
     "11720-11721"]

/-- What stands by itself and is not seen. -/
def control : CharSet :=
  (CharSet.unions [Category.lineSeparator, Category.paragraphSeparator, Category.control,
    Category.format, Category.unassigned.inter Property.defaultIgnorableCodePoint]).difference
    (CharSet.unions [lineBreaks, extend, zeroWidthJoiner, prepend])

/-- Leading consonants of Hangul. -/
def leading : CharSet := CharSet.ofText
  ["1100-115F A960-A97C"]

/-- Vowels of Hangul. -/
def vowel : CharSet := CharSet.ofText
  ["1160-11A7 D7B0-D7C6 16D63 16D67-16D6A"]

/-- Trailing consonants of Hangul. -/
def trailing : CharSet := CharSet.ofText
  ["11A8-11FF D7CB-D7FB"]

/-- Syllables of Hangul without a trailing consonant. -/
def openSyllable : CharSet :=
  ⟨(List.range 399).map fun i => (0xAC00 + 28 * i, 0xAC00 + 28 * i)⟩

/-- Syllables of Hangul with a trailing consonant. -/
def closedSyllable : CharSet :=
  CharSet.difference ⟨[(0xAC00, 0xD7A3)]⟩ openSyllable

/-- The classes by their names. -/
def byName : List (List String × CharSet) :=
  [(["cr"], carriageReturn), (["lf"], lineFeed), (["cn", "control"], control),
    (["ex", "extend"], extend), (["pp", "prepend"], prepend), (["sm", "spacingmark"], spacingMark),
    (["l"], leading), (["v"], vowel), (["t"], trailing), (["lv"], openSyllable),
    (["lvt"], closedSyllable), (["ri", "regionalindicator"], Property.regionalIndicator),
    (["zwj"], zeroWidthJoiner)]

end Grapheme

/-! ## Words -/

namespace Word

/-- What belongs to the character before it. -/
def extend : CharSet :=
  CharSet.unions [Property.graphemeExtend, Property.emojiModifier, Category.spacingMark]

/-- Characters of the kana syllabary. -/
def katakana : CharSet := CharSet.ofText
  ["3031-3035 309B-309C 30A0-30FA 30FC-30FF 31F0-31FF 32D0-32FE 3300-3357 FF66-FF9D 1AFF0-1AFF3",
   "1AFF5-1AFFB 1AFFD-1AFFE 1B000 1B120-1B122 1B155 1B164-1B167"]

/-- Letters of Hebrew. -/
def hebrewLetter : CharSet := CharSet.ofText
  ["5D0-5EA 5EF-5F2 FB1D FB1F-FB28 FB2A-FB36 FB38-FB3C FB3E FB40-FB41 FB43-FB44 FB46-FB4F"]

/-- Letters of scripts that are written without blanks between words. -/
def unspaced : CharSet := CharSet.ofText
  ["E01-E30 E32-E33 E40-E46 E81-E82 E84 E86-E8A E8C-EA3 EA5 EA7-EB0 EB2-EB3 EBD EC0-EC4 EC6",
   "EDC-EDF 1000-102A 103F 1050-1055 105A-105D 1061 1065-1066 106E-1070 1075-1081 108E",
   "1780-17B3 17D7 17DC 1950-196D 1970-1974 1980-19AB 19B0-19C9 1A20-1A54 1AA7 A9E0-A9E4",
   "A9E6-A9EF A9FA-A9FE AA60-AA76 AA7A AA7E-AAAF AAB1 AAB5-AAB6 AAB9-AABD AAC0 AAC2 AADB-AADD",
   "11700-1171A 11740-11746"]

/-- Signs that count as letters. -/
def letterLike : CharSet := CharSet.ofText
  ["2C2-2C5 2D2-2D7 2DE-2DF 2E5-2EB 2ED 2EF-2FF 55A-55C 55E 58A 5F3 70F A708-A716 A720-A721",
   "A789-A78A AB5B"]

/-- Letters of which words consist. -/
def letter : CharSet :=
  (Property.alphabetic.difference (CharSet.unions [Property.ideographic, katakana, hebrewLetter,
    extend, (Script.find? "hiragana").getD .empty, unspaced])).union letterLike

/-- Characters that are not seen. -/
def format : CharSet :=
  Category.format.difference
    (Property.prependedConcatenationMark.union ⟨[(0x200B, 0x200D), (0xE0020, 0xE007F)]⟩)

/-- Marks that span the digits after them; one of their kind spans letters. -/
def digitSpan : CharSet :=
  Property.prependedConcatenationMark.difference ⟨[(0x70F, 0x70F)]⟩

/-- Digits. -/
def numeric : CharSet :=
  CharSet.unions [Category.decimalNumber, digitSpan, ⟨[(0x66B, 0x66B), (0x19DA, 0x19DA)]⟩]

/-- Signs that join letters and digits. -/
def extendNumLet : CharSet := CharSet.ofText
  ["5F 202F 203F-2040 2054 FE33-FE34 FE4D-FE4F FF3F"]

/-- Signs inside of words. -/
def midLetter : CharSet := CharSet.ofText
  ["3A B7 387 55F 5F4 2027 FE13 FE55 FF1A"]

/-- Signs inside of numbers. -/
def midNum : CharSet := CharSet.ofText
  ["2C 3B 37E 589 60C-60D 66C 7F8 2044 FE50 FE54 FF0C FF1B"]

/-- Signs inside of words and numbers. -/
def midNumLet : CharSet := CharSet.ofText
  ["2E 2018-2019 2024 FE52 FF07 FF0E"]

/-- Ends of lines other than line feed and carriage return. -/
def newline : CharSet := CharSet.ofText
  ["B-C 85 2028-2029"]

/-- Blanks between words. -/
def blank : CharSet := CharSet.ofText
  ["20 1680 2000-2006 2008-200A 205F 3000"]

/-- The classes by their names. -/
def byName : List (List String × CharSet) :=
  [(["cr"], carriageReturn), (["lf"], lineFeed), (["nl", "newline"], newline),
    (["dq", "doublequote"], ⟨[(0x22, 0x22)]⟩), (["sq", "singlequote"], ⟨[(0x27, 0x27)]⟩),
    (["extend"], extend), (["fo", "format"], format), (["ka", "katakana"], katakana),
    (["hl", "hebrewletter"], hebrewLetter), (["le", "aletter"], letter),
    (["ml", "midletter"], midLetter), (["mn", "midnum"], midNum), (["mb", "midnumlet"], midNumLet),
    (["nu", "numeric"], numeric), (["ex", "extendnumlet"], extendNumLet),
    (["ri", "regionalindicator"], Property.regionalIndicator), (["wsegspace"], blank),
    (["zwj"], zeroWidthJoiner)]

end Word

/-! ## Sentences -/

namespace Sentence

/-- Letters that count as neither lower nor upper case. -/
def caseless : CharSet :=
  ⟨[(0x10D0, 0x10FA), (0x10FD, 0x10FF), (0x1C90, 0x1CBA), (0x1CBD, 0x1CBF)]⟩

/-- What belongs to the character before it. -/
def extend : CharSet :=
  CharSet.unions [Property.graphemeExtend, Category.spacingMark, zeroWidthJoiner]

/-- Ends of paragraphs other than line feed and carriage return. -/
def separator : CharSet := CharSet.ofText
  ["85 2028-2029"]

/-- Characters that are not seen. -/
def format : CharSet :=
  Category.format.difference
    (Word.digitSpan.union ⟨[(0x200C, 0x200D), (0xE0020, 0xE007F)]⟩)

/-- Blanks. -/
def blank : CharSet :=
  Property.whiteSpace.difference (lineBreaks.union separator)

/-- Lowercase letters. -/
def lower : CharSet :=
  Property.lowercase.difference (caseless.union extend)

/-- Uppercase letters. -/
def upper : CharSet :=
  (Category.titlecaseLetter.union Property.uppercase).difference caseless

/-- Other letters. -/
def otherLetter : CharSet :=
  ((Property.alphabetic.difference (CharSet.unions [lower, upper, extend])).union caseless).union
    ⟨[(0x5F3, 0x5F3)]⟩

/-- Digits. -/
def numeric : CharSet :=
  Word.numeric.union ⟨[(0x66C, 0x66C)]⟩

/-- Full stops. -/
def fullStop : CharSet := CharSet.ofText
  ["2E 2024 FE52 FF0E"]

/-- Signs after which a sentence goes on. -/
def continuation : CharSet := CharSet.ofText
  ["2C-2D 3A-3B 37E 55D 60C-60D 7F8 1802 1808 2013-2014 3001 FE10-FE11 FE13-FE14 FE31-FE32",
   "FE50-FE51 FE54-FE55 FE58 FE63 FF0C-FF0D FF1A-FF1B FF64"]

/-- Ends of sentences other than full stops. -/
def terminal : CharSet :=
  Property.sentenceTerminal.difference fullStop

/-- Brackets and quotation marks. -/
def close : CharSet :=
  (CharSet.unions [Category.openPunctuation, Category.closePunctuation,
    Category.initialPunctuation, Category.finalPunctuation, Property.quotationMark,
    CharSet.ofText ["275B-2760 2E00-2E01 2E06-2E08 2E0B 1F676-1F678"]]).difference
    ⟨[(0xFF02, 0xFF02), (0xFF07, 0xFF07)]⟩

/-- The classes by their names. -/
def byName : List (List String × CharSet) :=
  [(["cr"], carriageReturn), (["lf"], lineFeed), (["se", "sep"], separator),
    (["ex", "extend"], extend), (["fo", "format"], format), (["sp"], blank),
    (["lo", "lower"], lower), (["up", "upper"], upper), (["le", "oletter"], otherLetter),
    (["nu", "numeric"], numeric), (["at", "aterm"], fullStop), (["sc", "scontinue"], continuation),
    (["st", "sterm"], terminal), (["cl", "close"], close)]

end Sentence

end FieldGuard.Unicode.Segment
