import Casewise.Unicode.Property

/-!
# Boundaries in a text

The roles that the characters of Unicode 16 play at the boundaries of what a reader sees as one
character, of words and of sentences.

* `clusterBreak?`, `wordBreak?`, `sentenceBreak?` — the characters with a role, by its name.
-/

namespace Casewise.Unicode

/-- Roles with lists of characters of their own, beside a character seen as one. -/
def clusterBreaks : Table :=
  [(["cr"], ["d"]),
   (["lf"], ["a"]),
   (["zwj"], ["200d"]),
   (["l"], ["1100-115f a960-a97c"]),
   (["v"], ["1160-11a7 d7b0-d7c6 16d63 16d67-16d6a"]),
   (["t"], ["11a8-11ff d7cb-d7fb"]),
   (["lv"], ["ac00-d788/1c"])]

/-- Marks with a width of their own that count as characters of their own. -/
def separateMarks : CodeSet :=
  .ofLines
    ["102b-102c 1038 1062-1064 1067-106d 1083 1087-108c 108f 109a-109c 1a61 1a63-1a64 aa7b aa7d",
     "11720-11721"]

/-- The characters with a role at the boundary of what is seen as one character. -/
def clusterBreak? (name : String) : Option CodeSet :=
  let syllables : CodeSet := .range 0xAC00 0xD7A3
  let concatenating := listed "prependedconcatenationmark"
  match name with
  | "cn" | "control" =>
    let controls :=
      (inCategories ["zl", "zp", "cc", "cf"]).union (defaultIgnorable.diff assigned)
    some ((controls.diff (.ofTable "a d 200c-200d")).diff (concatenating.union graphemeExtend))
  | "ex" | "extend" => some (graphemeExtend.union (listed "emojimodifier"))
  | "pp" | "prepend" =>
    some (concatenating.union
      (.ofTable "d4e 111c2-111c3 113d1 1193f 11941 11a84-11a89 11d46 11f02"))
  | "sm" | "spacingmark" =>
    let marks := (inCategories ["mc"]).diff (graphemeExtend.union separateMarks)
    some (marks.union (.ofTable "e33 eb3"))
  | "ri" | "regionalindicator" => some (listed "regionalindicator")
  | "lvt" => (clusterBreaks.find? "lv").map fun lv => syllables.diff lv
  | name => clusterBreaks.find? name

/-- Roles with lists of characters of their own, at the boundary of a word. -/
def wordBreaks : Table :=
  [(["cr"], ["d"]),
   (["lf"], ["a"]),
   (["newline", "nl"], ["b-c 85 2028-2029"]),
   (["zwj"], ["200d"]),
   (["doublequote", "dq"], ["22"]),
   (["singlequote", "sq"], ["27"]),
   (["extendnumlet", "ex"], ["5f 202f 203f-2040 2054 fe33-fe34 fe4d-fe4f ff3f"]),
   (["hebrewletter", "hl"],
     ["5d0-5ea 5ef-5f2 fb1d fb1f-fb28 fb2a-fb36 fb38-fb3c fb3e fb40-fb41 fb43-fb44 fb46-fb4f"]),
   (["katakana", "ka"],
     ["3031-3035 309b-309c 30a0-30fa 30fc-30ff 31f0-31ff 32d0-32fe 3300-3357 ff66-ff9d",
      "1aff0-1aff3 1aff5-1affb 1affd-1affe 1b000 1b120-1b122 1b155 1b164-1b167"]),
   (["midletter", "ml"], ["3a b7 387 55f 5f4 2027 fe13 fe55 ff1a"]),
   (["midnum", "mn"], ["2c 3b 37e 589 60c-60d 66c 7f8 2044 fe10 fe14 fe50 fe54 ff0c ff1b"]),
   (["midnumlet", "mb"], ["2e 2018-2019 2024 fe52 ff07 ff0e"]),
   (["wsegspace"], ["20 1680 2000-2006 2008-200a 205f 3000"])]

/-- Letters of scripts that do not separate words. -/
def unseparatedLetters : CodeSet :=
  .ofLines
    ["e01-e30 e32-e33 e40-e46 e81-e82 e84 e86-e8a e8c-ea3 ea5 ea7-eb0 eb2-eb3 ebd ec0-ec4 ec6",
     "edc-edf 1000-102a 103f 1050-1055 105a-105d 1061 1065-1066 106e-1070 1075-1081 108e",
     "1780-17b3 17d7 17dc 1950-196d 1970-1974 1980-19ab 19b0-19c9 1a20-1a54 1aa7 3041-3096",
     "309d-309f a9e0-a9e4 a9e6-a9ef a9fa-a9fe aa60-aa76 aa7a aa7e-aaaf aab1 aab5-aab6 aab9-aabd",
     "aac0 aac2 aadb-aadd 11700-1171a 11740-11746 1b001-1b11f 1b132 1b150-1b152"]

/-- Characters that belong to words and are no letters. -/
def wordSigns : CodeSet :=
  .ofLines
    ["2c2-2c5 2d2-2d7 2de-2df 2e5-2eb 2ed 2ef-2ff 55a-55c 55e 58a 5f3 a708-a716 a720-a721",
     "a789-a78a ab5b"]

/-- Tags, which extend the character before them. -/
def tagChars : CodeSet := .range 0xE0020 0xE007F

/-- The characters with a role at the boundary of a word. -/
def wordBreak? (name : String) : Option CodeSet :=
  let extending :=
    CodeSet.unionAll [graphemeExtend, inCategories ["mc"], listed "emojimodifier"]
  match name with
  | "extend" => some extending
  | "format" | "fo" =>
    some ((inCategories ["cf"]).diff ((CodeSet.range 0x200B 0x200D).union tagChars))
  | "numeric" | "nu" => some ((inCategories ["nd"]).union (.range 0x66B 0x66B))
  | "regionalindicator" | "ri" => some (listed "regionalindicator")
  | "aletter" | "le" =>
    let others := ["hebrewletter", "katakana"].filterMap wordBreaks.find?
    some ((alphabetic.diff
      (.unionAll (others ++ [extending, listed "ideographic", unseparatedLetters]))).union
        wordSigns)
  | name => wordBreaks.find? name

/-- Roles with lists of characters of their own, at the boundary of a sentence. -/
def sentenceBreaks : Table :=
  [(["cr"], ["d"]),
   (["lf"], ["a"]),
   (["sep", "se"], ["85 2028-2029"]),
   (["sp"], ["9 b-c 20 a0 1680 2000-200a 202f 205f 3000"]),
   (["aterm", "at"], ["2e 2024 fe52 ff0e"]),
   (["scontinue", "sc"],
     ["2c-2d 3a 55d 60c-60d 7f8 1802 1808 2013-2014 3001 fe10-fe11 fe13 fe31-fe32 fe50-fe51 fe55",
      "fe58 fe63 ff0c-ff0d ff1a ff64"])]

/-- The characters with a role at the boundary of a sentence. -/
def sentenceBreak? (name : String) : Option CodeSet :=
  let extending :=
    CodeSet.unionAll [graphemeExtend, inCategories ["mc"], .range 0x200D 0x200D]
  let lower := lowercase.diff (.ofTable "345 10d0-10fa 10fd-10ff")
  let upper := (uppercase.union (inCategories ["lt"])).diff (.ofTable "1c90-1cba 1cbd-1cbf")
  match name with
  | "extend" | "ex" => some extending
  | "format" | "fo" =>
    some ((inCategories ["cf"]).diff ((CodeSet.range 0x200C 0x200D).union tagChars))
  | "numeric" | "nu" => some ((inCategories ["nd"]).union (.range 0x66B 0x66C))
  | "lower" | "lo" => some lower
  | "upper" | "up" => some upper
  | "oletter" | "le" =>
    some ((alphabetic.diff (.unionAll [lower, upper, extending])).union (.range 0x5F3 0x5F3))
  | "sterm" | "st" => some ((listed "sentenceterminal").diff (.ofTable "2e fe52 ff0e"))
  | "close" | "cl" =>
    let quotes := (inCategories ["ps", "pe", "pi", "pf"]).union (listed "quotationmark")
    some ((quotes.diff (.ofTable "ff02 ff07")).union
      (.ofTable "275b-2760 2e00-2e01 2e06-2e08 2e0b 1f676-1f678"))
  | name => sentenceBreaks.find? name

end Casewise.Unicode
