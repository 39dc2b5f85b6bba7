import HttpRoutes.Text.Category
import HttpRoutes.Text.Property
import HttpRoutes.Text.Script

/-!
# Where text may be divided

The classes of characters that decide where a text may be divided between the characters that a
reader sees, between words, and between sentences. The larger classes are made of categories,
properties and scripts; the others list their members. A character that is in no class of a kind is
an ordinary one.
-/

namespace HttpRoutes.Text

/-- The characters of a script. -/
def inScript (key : String) : CharSet := (script? key).getD .empty

/-! ## Parts of several classes -/

/-- Marks that go with the character before them. -/
def extendingMarks : CharSet := (withProperty "graphemeextend").union (withProperty "emojimodifier")

/-- Marks that take up room of their own. -/
def spacingMarks : CharSet := inCategories ["mc"]

/-- Marks that go with the characters behind them. -/
def prependedMarks : CharSet := withProperty "prependedconcatenationmark"

/-- What writes numbers: decimal digits, two signs between them, and most marks in front of them. -/
def numerals : CharSet :=
  ((inCategories ["nd"]).union ((prependedMarks.diff (.range 0x70F 0x70F)).union
    (.range 0x66B 0x66C))).diff (.range 0xFF10 0xFF19)

/-- The letters of scripts that are written without blanks between words. -/
def unspacedScripts : CharSet :=
  ["thai", "lao", "myanmar", "khmer", "taile", "newtailue", "taitham", "taiviet", "ahom"].foldl
    (fun acc key => acc.union (inScript key)) .empty

/-! ## Characters -/

/-- The syllables of a consonant and a vowel. -/
def openSyllables : CharSet := ⟨CharSet.steps 0xAC00 28 0xAC00 0xD7A3⟩

/-- Controls and formats, and codes kept for them. -/
def graphemeControls : CharSet :=
  let hidden := unassigned.inter (withProperty "defaultignorablecodepoint")
  let kept := (CharSet.ofHex ["A D 200C-200D"]).union (prependedMarks.union extendingMarks)
  ((inCategories ["zl", "zp", "cc", "cf"]).union hidden).diff kept

/-- Spacing marks that go with the character before them. -/
def graphemeSpacingMarks : CharSet :=
  ((spacingMarks.diff extendingMarks).union (.ofHex ["E33 EB3"])).diff (.ofHex
    ["102B-102C 1038 1062-1064 1067-106D 1083 1087-108C 108F 109A-109C 1A61 1A63-1A64 AA7B AA7D",
     "11720-11721"])

/-- The classes that keep together what a reader sees as one character. -/
def graphemeBreaks : List NamedSet :=
  [⟨["cr"], .ofHex ["D"]⟩,
   ⟨["lf"], .ofHex ["A"]⟩,
   ⟨["control", "cn"], graphemeControls⟩,
   ⟨["extend", "ex"], extendingMarks⟩,
   ⟨["zwj"], .ofHex ["200D"]⟩,
   ⟨["regionalindicator", "ri"], withProperty "regionalindicator"⟩,
   ⟨["prepend", "pp"], prependedMarks.union (.ofHex
    ["D4E 111C2-111C3 113D1 1193F 11941 11A3A 11A84-11A89 11D46 11F02"])⟩,
   ⟨["spacingmark", "sm"], graphemeSpacingMarks⟩,
   ⟨["l"], .ofHex ["1100-115F A960-A97C"]⟩,
   ⟨["v"], .ofHex ["1160-11A7 D7B0-D7C6 16D63 16D67-16D6A"]⟩,
   ⟨["t"], .ofHex ["11A8-11FF D7CB-D7FB"]⟩,
   ⟨["lv"], openSyllables⟩,
   ⟨["lvt"], (CharSet.range 0xAC00 0xD7A3).diff openSyllables⟩]

/-! ## Words -/

/-- Marks inside words. -/
def wordMarks : CharSet := (extendingMarks.union spacingMarks).diff (.range 0x200D 0x200D)

/-- The syllables of one script that is written without blanks, and their marks. -/
def katakana : CharSet :=
  (inScript "katakana").union (.ofHex ["3031-3035 309B-309C 30A0 30FC FF70"])

/-- The letters of one script whose words may have quotes inside. -/
def hebrewLetters : CharSet := (inScript "hebrew").inter (inCategories ["lo"])

/-- Letters of words with blanks between them. -/
def wordLetters : CharSet :=
  let further := CharSet.ofHex
    ["2C2-2C5 2D2-2D7 2DE-2DF 2E5-2EB 2ED 2EF-2FF 55A-55C 55E 58A 5F3 70F A708-A716 A720-A721",
     "A789-A78A AB5B"]
  [withProperty "ideographic", katakana, unspacedScripts, inScript "hiragana", wordMarks,
    hebrewLetters].foldl CharSet.diff ((withProperty "alphabetic").union further)

/-- The classes that keep words together. -/
def wordBreaks : List NamedSet :=
  [⟨["doublequote", "dq"], .ofHex ["22"]⟩,
   ⟨["singlequote", "sq"], .ofHex ["27"]⟩,
   ⟨["hebrewletter", "hl"], hebrewLetters⟩,
   ⟨["cr"], .ofHex ["D"]⟩,
   ⟨["lf"], .ofHex ["A"]⟩,
   ⟨["newline", "nl"], .ofHex ["B-C 85 2028-2029"]⟩,
   ⟨["extend"], wordMarks⟩,
   ⟨["regionalindicator", "ri"], withProperty "regionalindicator"⟩,
   ⟨["format", "fo"],
    (inCategories ["cf"]).diff ((CharSet.ofHex ["200B-200D"]).union
      (prependedMarks.union extendingMarks))⟩,
   ⟨["katakana", "ka"], katakana⟩,
   ⟨["aletter", "le"], wordLetters⟩,
   ⟨["midletter", "ml"], .ofHex ["3A B7 387 55F 5F4 2027 FE13 FE55 FF1A"]⟩,
   ⟨["midnum", "mn"], .ofHex
    ["2C 3B 37E 589 60C-60D 66C 7F8 2044 FE10 FE14 FE50 FE54 FF0C FF1B"]⟩,
   ⟨["midnumlet", "mb"], .ofHex ["2E 2018-2019 2024 FE52 FF07 FF0E"]⟩,
   ⟨["numeric", "nu"], (numerals.diff (.range 0x66C 0x66C)).union (.range 0xFF10 0xFF19)⟩,
   ⟨["extendnumlet", "ex"], (inCategories ["pc"]).union (.range 0x202F 0x202F)⟩,
   ⟨["zwj"], .ofHex ["200D"]⟩,
   ⟨["wsegspace"], (inCategories ["zs"]).diff (.ofHex ["A0 2007 202F"])⟩]

/-! ## Sentences -/

/-- Marks inside sentences. -/
def sentenceMarks : CharSet :=
  ((withProperty "graphemeextend").union spacingMarks).union (.range 0x200D 0x200D)

/-- Small letters. -/
def sentenceLower : CharSet :=
  ((withProperty "lowercase").diff (withProperty "graphemeextend")).diff
    (.ofHex ["10D0-10FA 10FD-10FF"])

/-- Capital letters. -/
def sentenceUpper : CharSet :=
  ((inCategories ["lt"]).union (withProperty "uppercase")).diff (.ofHex ["1C90-1CBA 1CBD-1CBF"])

/-- Points that need not end a sentence. -/
def unclearStops : CharSet := .ofHex ["2E 2024 FE52 FF0E"]

/-- What ends a sentence. -/
def clearStops : CharSet := (withProperty "sentenceterminal").diff unclearStops

/-- Brackets and quotes. -/
def enclosing : CharSet :=
  let quotes := CharSet.ofHex ["22 27 275B-2760 2E00-2E01 2E06-2E08 2E0B 1F676-1F678"]
  [unclearStops, clearStops].foldl CharSet.diff
    ((inCategories ["ps", "pe", "pi", "pf"]).union quotes)

/-- The classes that keep sentences together. -/
def sentenceBreaks : List NamedSet :=
  [⟨["cr"], .ofHex ["D"]⟩,
   ⟨["lf"], .ofHex ["A"]⟩,
   ⟨["extend", "ex"], sentenceMarks⟩,
   ⟨["sep", "se"], .ofHex ["85 2028-2029"]⟩,
   ⟨["format", "fo"], (inCategories ["cf"]).diff (sentenceMarks.union prependedMarks)⟩,
   ⟨["sp"], (withProperty "whitespace").diff (.ofHex ["A D 85 2028-2029"])⟩,
   ⟨["lower", "lo"], sentenceLower⟩,
   ⟨["upper", "up"], sentenceUpper⟩,
   ⟨["oletter", "le"],
    [sentenceLower, sentenceUpper, sentenceMarks].foldl CharSet.diff
      ((withProperty "alphabetic").union (.ofHex ["5F3 70F"]))⟩,
   ⟨["numeric", "nu"], numerals.union (.range 0xFF10 0xFF19)⟩,
   ⟨["aterm", "at"], unclearStops⟩,
   ⟨["scontinue", "sc"], .ofHex
    ["2C-2D 3A-3B 37E 55D 60C-60D 7F8 1802 1808 2013-2014 3001 FE10-FE11 FE13-FE14 FE31-FE32",
     "FE50-FE51 FE54-FE55 FE58 FE63 FF0C-FF0D FF1A-FF1B FF64"]⟩,
   ⟨["sterm", "st"], clearStops⟩,
   ⟨["close", "cl"], enclosing⟩]

/-! ## Looking up -/

/-- The characters of a class that keeps characters together, looked up by its key. -/
def graphemeBreak? (key : String) : Option CharSet := NamedSet.find? graphemeBreaks key

/-- The characters of a class that keeps words together, looked up by its key. -/
def wordBreak? (key : String) : Option CharSet := NamedSet.find? wordBreaks key

/-- The characters of a class that keeps sentences together, looked up by its key. -/
def sentenceBreak? (key : String) : Option CharSet := NamedSet.find? sentenceBreaks key

end HttpRoutes.Text
