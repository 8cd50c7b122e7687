/-
# `Hyperslab.Unicode.Segmentation` — where texts can be divided

Three properties decide where a text may be cut between characters as people see them,
between words and between sentences.  Each sorts characters into classes; the classes are
written the way the standard derives them.
-/
import Hyperslab.Unicode.Property
import Hyperslab.Unicode.Script

namespace Hyperslab.Unicode

/-- Keeps apart what would join. -/
def nonJoiner : Table := .codes "200C"

/-- Joins what would stay apart. -/
def joiner : Table := .codes "200D"

/-- Characters that spell out flags of regions. -/
def tags : Table := .codes "E0020-E007F"

/-! ## Characters as people see them -/

/-- Marks that take room and still belong to the character before. -/
def attachedMark : Table :=
  (spacingMark ∪ .codes "E33 EB3") \ (graphemeExtend ∪ .codes
    "102B-102C 1038 1062-1064 1067-106D 1083 1087-108C 108F 109A-109C 1A61 1A63-1A64 AA7B AA7D
    11720-11721")

/-- Characters that stand alone. -/
def graphemeControl : Table :=
  (control ∪ lineSeparator ∪ paragraphSeparator ∪ format ∪ (unassigned ∩ defaultIgnorable))
    \ (prependedConcatenationMark ∪ nonJoiner ∪ joiner ∪ tags ∪ .codes "A D")

/-- The classes for characters as people see them. -/
def graphemeBreaks : List NamedTable := [
  ⟨["cr"], .codes "D"⟩,
  ⟨["cn", "control"], graphemeControl⟩,
  ⟨["ex", "extend"], graphemeExtend ∪ emojiModifier⟩,
  ⟨["l"], .codes "1100-115F A960-A97C"⟩,
  ⟨["lf"], .codes "A"⟩,
  ⟨["lv"], .codes "AC00-D788/1C"⟩,
  ⟨["lvt"], .codes "AC00-D7A3" \ .codes "AC00-D788/1C"⟩,
  ⟨["pp", "prepend"], .codes
    "600-605 6DD 70F 890-891 8E2 D4E 110BD 110CD 111C2-111C3 113D1 1193F 11941 11A3A 11A84-11A89
    11D46 11F02"⟩,
  ⟨["ri", "regionalindicator"], regionalIndicator⟩,
  ⟨["sm", "spacingmark"], attachedMark⟩,
  ⟨["t"], .codes "11A8-11FF D7CB-D7FB"⟩,
  ⟨["v"], .codes "1160-11A7 D7B0-D7C6 16D63 16D67-16D6A"⟩,
  ⟨["zwj"], joiner⟩]

/-! ## Words -/

/-- Digits and what is like them. -/
def numeralCharacter : Table :=
  decimalNumber ∪ .codes "600-605 66B-66C 6DD 890-891 8E2 19DA 110BD 110CD"

/-- What belongs to the character before, in words and sentences. -/
def attached : Table := graphemeExtend ∪ spacingMark ∪ joiner

/-- Invisible characters that divide nothing. -/
def invisible : Table := format \ (numeralCharacter ∪ nonJoiner ∪ joiner ∪ tags)

/-- Katakana and what is used with it. -/
def katakanaLetter : Table :=
  katakana ∪ .codes "3031-3035 309B-309C 30A0 30FC FF70"

/-- Letters of Hebrew. -/
def hebrewLetter : Table := hebrew ∩ otherLetter

/-- Letters of scripts that are written without blanks between words. -/
def unspacedLetter : Table := .codes
    "E01-E30 E32-E33 E40-E46 E81-E82 E84 E86-E8A E8C-EA3 EA5 EA7-EB0 EB2-EB3 EBD EC0-EC4 EC6
    EDC-EDF 1000-102A 103F 1050-1055 105A-105D 1061 1065-1066 106E-1070 1075-1081 108E 1780-17B3
    17D7 17DC 1950-196D 1970-1974 1980-19AB 19B0-19C9 1A20-1A54 1AA7 A9E0-A9E4 A9E6-A9EF A9FA-A9FE
    AA60-AA76 AA7A AA7E-AAAF AAB1 AAB5-AAB6 AAB9-AABD AAC0 AAC2 AADB-AADD 11700-1171A 11740-11746"

/-- Signs used like letters. -/
def letterSign : Table := .codes
    "2C2-2C5 2D2-2D7 2DE-2DF 2E5-2EB 2ED 2EF-2FF 55A-55C 55E 58A 5F3 70F A708-A716 A720-A721
    A789-A78A AB5B"

/-- Letters of words, where blanks divide the words. -/
def wordLetter : Table :=
  (alphabetic ∪ letterSign)
    \ (ideographic ∪ attached ∪ hebrewLetter ∪ katakanaLetter ∪ hiragana
      ∪ unspacedLetter)

/-- The classes for words. -/
def wordBreaks : List NamedTable := [
  ⟨["le", "aletter"], wordLetter⟩,
  ⟨["cr"], .codes "D"⟩,
  ⟨["dq", "doublequote"], .codes "22"⟩,
  ⟨["extend"], (attached ∪ emojiModifier) \ joiner⟩,
  ⟨["ex", "extendnumlet"], connectorPunctuation ∪ .codes "202F"⟩,
  ⟨["fo", "format"], invisible \ .codes "70F 200B"⟩,
  ⟨["hl", "hebrewletter"], hebrewLetter⟩,
  ⟨["ka", "katakana"], katakanaLetter⟩,
  ⟨["lf"], .codes "A"⟩,
  ⟨["ml", "midletter"], .codes "3A B7 387 55F 5F4 2027 FE13 FE55 FF1A"⟩,
  ⟨["mn", "midnum"], .codes "2C 3B 37E 589 60C-60D 66C 7F8 2044 FE50 FE54 FF0C FF1B"⟩,
  ⟨["mb", "midnumlet"], .codes "2E 2018-2019 2024 FE52 FF07 FF0E"⟩,
  ⟨["nl", "newline"], .codes "B-C 85 2028-2029"⟩,
  ⟨["nu", "numeric"], numeralCharacter \ .codes "66C"⟩,
  ⟨["ri", "regionalindicator"], regionalIndicator⟩,
  ⟨["sq", "singlequote"], .codes "27"⟩,
  ⟨["wsegspace"], .codes "20 1680 2000-2006 2008-200A 205F 3000"⟩,
  ⟨["zwj"], joiner⟩]

/-! ## Sentences -/

/-- Signs that may end a sentence or an abbreviation. -/
def ambiguousEnd : Table := .codes "2E 2024 FE52 FF0E"

/-- Georgian capitals of the old kind, which are no capitals in sentences. -/
def mtavruli : Table := .codes "1C90-1CBA 1CBD-1CBF"

/-- Capital letters of sentences. -/
def sentenceUpper : Table := (uppercase ∪ titlecaseLetter) \ mtavruli

/-- Small letters of sentences. -/
def sentenceLower : Table := lowercase \ (graphemeExtend ∪ mkhedruli)

/-- Brackets and quotation marks. -/
def sentenceClose : Table :=
  (openPunctuation ∪ closePunctuation ∪ initialPunctuation ∪ finalPunctuation ∪ quotationMark
    ∪ .codes "275B-2760 2E00-2E01 2E06-2E08 2E0B 1F676-1F678") \ .codes "FF02 FF07"

/-- The classes for sentences. -/
def sentenceBreaks : List NamedTable := [
  ⟨["at", "aterm"], ambiguousEnd⟩,
  ⟨["cr"], .codes "D"⟩,
  ⟨["cl", "close"], sentenceClose⟩,
  ⟨["ex", "extend"], attached⟩,
  ⟨["fo", "format"], invisible⟩,
  ⟨["lf"], .codes "A"⟩,
  ⟨["lo", "lower"], sentenceLower⟩,
  ⟨["nu", "numeric"], numeralCharacter⟩,
  ⟨["le", "oletter"], (alphabetic ∪ .codes "5F3") \ (sentenceUpper ∪ sentenceLower ∪ attached)⟩,
  ⟨["sc", "scontinue"], .codes
    "2C-2D 3A-3B 37E 55D 60C-60D 7F8 1802 1808 2013-2014 3001 FE10-FE11 FE13-FE14 FE31-FE32
    FE50-FE51 FE54-FE55 FE58 FE63 FF0C-FF0D FF1A-FF1B FF64"⟩,
  ⟨["st", "sterm"], sentenceTerminal \ ambiguousEnd⟩,
  ⟨["se", "sep"], .codes "85 2028-2029"⟩,
  ⟨["sp"], whiteSpace \ .codes "A D 85 2028-2029"⟩,
  ⟨["up", "upper"], sentenceUpper⟩]

end Hyperslab.Unicode
