import AlertRouting.Unicode.Property

/-!
# Classes of characters in the segmentation of texts

Texts are divided into grapheme clusters, words and sentences by the classes of their characters. As
far as the standard derives a class from categories, scripts and other properties, it is computed
here in the same way.
-/
namespace AlertRouting.Unicode

def codes (line : String) : CharSet := CharSet.ofLines [line]

/-- The code points of the scripts with these names in the table. -/
def scripts (names : List String) : CharSet :=
  CharSet.unions ((scriptTable.filter fun e => names.contains e.1).map fun e => CharSet.ofLines e.2)

def concatenationMarks : CharSet := listed "Prepended_Concatenation_Mark"

def emojiModifiers : CharSet := listed "Emoji_Modifier"

def wordExtend : CharSet := graphemeExtend.union (categories ["Mc"])

/-- The digits, with the signs that stand around numbers. -/
def numeric : CharSet :=
  (categories ["Nd"]).union (codes "600-605 66b-66c 6dd 890-891 8e2 19da 110bd 110cd")

def syllables : CharSet := CharSet.ofRange 0xac00 0xd7a3

/-- The Hangul syllables without a final consonant, of which each is followed by 27 with one. -/
def openSyllables : CharSet :=
  CharSet.ofRanges ((List.range 399).map fun k => (0xac00 + 28 * k, 0xac00 + 28 * k))

def detachedMarks : CharSet :=
  codes ("102b-102c 1038 1062-1064 1067-106d 1083 1087-108c 108f 109a-109c 1a61 1a63-1a64 aa7b "
    ++ "aa7d 11720-11721")

def graphemeBreak? (loose : String) : Option CharSet :=
  match loose with
  | "cr" => some (codes "d")
  | "lf" => some (codes "a")
  | "zwj" => some (codes "200d")
  | "control" | "cn" =>
    some ((CharSet.unions [categories ["Zl", "Zp", "Cc", "Cf"],
      unassigned.inter (listed "Default_Ignorable_Code_Point")]).diff
        (CharSet.unions [graphemeExtend, concatenationMarks, codes "a d 200d"]))
  | "extend" | "ex" => some (graphemeExtend.union emojiModifiers)
  | "prepend" | "pp" =>
    some (concatenationMarks.union
      (codes "d4e 111c2-111c3 113d1 1193f 11941 11a84-11a89 11d46 11f02"))
  | "spacingmark" | "sm" =>
    some (((categories ["Mc"]).union (codes "e33 eb3")).diff (graphemeExtend.union detachedMarks))
  | "regionalindicator" | "ri" => some (listed "Regional_Indicator")
  | "l" => some (codes "1100-115f a960-a97c")
  | "v" => some (codes "1160-11a7 d7b0-d7c6 16d63 16d67-16d6a")
  | "t" => some (codes "11a8-11ff d7cb-d7fb")
  | "lv" => some openSyllables
  | "lvt" => some (syllables.diff openSyllables)
  | _ => none

/-- The class of the signs that are read as Katakana between words. -/
def wordKatakana : CharSet :=
  (scripts ["Katakana"]).union (codes "3031-3035 309b-309c 30a0 30fc ff70")

def hebrewLetters : CharSet := (scripts ["Hebrew"]).inter (categories ["Lo"])

/-- The letters of words that are found by their characters. The last of the scripts left out are
those in which words are found with a dictionary. -/
def wordLetters : CharSet :=
  (alphabetic.union
    (codes ("b8 2c2-2c5 2d2-2d7 2de-2df 2e5-2eb 2ed 2ef-2ff 55a-55c 55e 58a 5f3 70f a708-a716 "
      ++ "a720-a721 a789-a78a ab5b"))).diff
    (CharSet.unions [listed "Ideographic", wordKatakana, hebrewLetters, wordExtend,
      scripts ["Hiragana", "Ahom", "Khmer", "Lao", "Myanmar", "New_Tai_Lue", "Tai_Le", "Tai_Tham",
        "Tai_Viet", "Thai"]])

def wordBreak? (loose : String) : Option CharSet :=
  match loose with
  | "cr" => some (codes "d")
  | "lf" => some (codes "a")
  | "newline" | "nl" => some (codes "b-c 85 2028-2029")
  | "zwj" => some (codes "200d")
  | "extend" => some (wordExtend.union emojiModifiers)
  | "format" | "fo" =>
    some ((categories ["Cf"]).diff
      (CharSet.unions [graphemeExtend, concatenationMarks, codes "200b-200d"]))
  | "regionalindicator" | "ri" => some (listed "Regional_Indicator")
  | "katakana" | "ka" => some wordKatakana
  | "hebrewletter" | "hl" => some hebrewLetters
  | "aletter" | "le" => some wordLetters
  | "singlequote" | "sq" => some (codes "27")
  | "doublequote" | "dq" => some (codes "22")
  | "midnumlet" | "mb" => some (codes "2e 2018-2019 2024 fe52 ff07 ff0e")
  | "midletter" | "ml" => some (codes "3a b7 387 55f 5f4 2027 fe13 fe55 ff1a")
  | "midnum" | "mn" => some (codes "2c 3b 37e 589 60c-60d 66c 7f8 2044 fe50 fe54 ff0c ff1b")
  | "numeric" | "nu" => some (numeric.diff (codes "66c"))
  | "extendnumlet" | "ex" => some ((categories ["Pc"]).union (codes "202f"))
  | "wsegspace" => some ((categories ["Zs"]).diff (codes "a0 2007 202f"))
  | _ => none

def sentenceLower : CharSet :=
  lowercase.diff (graphemeExtend.union (codes "10d0-10fa 10fd-10ff"))

def sentenceUpper : CharSet :=
  ((categories ["Lt"]).union uppercase).diff (codes "1c90-1cba 1cbd-1cbf")

/-- The stops that also stand inside numbers and abbreviations. -/
def ambiguousStops : CharSet := codes "2e 2024 fe52 ff0e"

def sentenceBreak? (loose : String) : Option CharSet :=
  match loose with
  | "cr" => some (codes "d")
  | "lf" => some (codes "a")
  | "extend" | "ex" => some (wordExtend.union (codes "200d"))
  | "sep" | "se" => some (codes "85 2028-2029")
  | "format" | "fo" =>
    some ((categories ["Cf"]).diff (CharSet.unions [graphemeExtend, numeric, codes "200d"]))
  | "sp" => some ((listed "White_Space").diff (codes "a d 85 2028-2029"))
  | "lower" | "lo" => some sentenceLower
  | "upper" | "up" => some sentenceUpper
  | "oletter" | "le" =>
    some ((alphabetic.union (codes "5f3")).diff
      (CharSet.unions [sentenceLower, sentenceUpper, wordExtend]))
  | "numeric" | "nu" => some numeric
  | "aterm" | "at" => some ambiguousStops
  | "sterm" | "st" => some ((listed "Sentence_Terminal").diff ambiguousStops)
  | "scontinue" | "sc" =>
    some (codes ("2c-2d 3a-3b 37e 55d 60c-60d 7f8 1802 1808 2013-2014 3001 fe10-fe11 fe13-fe14 "
      ++ "fe31-fe32 fe50-fe51 fe54-fe55 fe58 fe63 ff0c-ff0d ff1a-ff1b ff64"))
  | "close" | "cl" =>
    some ((categories ["Ps", "Pe", "Pi", "Pf"]).union
      (codes "22 27 275b-2760 2e00-2e01 2e06-2e08 2e0b 1f676-1f678"))
  | _ => none

end AlertRouting.Unicode
