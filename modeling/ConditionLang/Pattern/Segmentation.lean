import ConditionLang.Pattern.CharClass

/-!
# Where text breaks

The values of the properties that tell where text breaks between its characters, its words and its sentences. Unicode
defines them by other properties and by lists of exceptions, and so do the tables here: a value covers the characters that
have one of its properties but are not left out, and some further ones.
-/

namespace ConditionLang

namespace Pattern

/-- A set of code points by what defines it. -/
inductive BreakPart where
  | category (name : String)
  | property (name : String)
  | script (name : String)
  /-- The code points in a line of a table. -/
  | codes (line : String)
  deriving Repr, DecidableEq, Inhabited

/-- The value of a property, under the names by which it is looked up. -/
structure BreakValue where
  names : List String
  parts : List BreakPart
  without : List BreakPart := []
  further : List BreakPart := []
  deriving Repr, DecidableEq, Inhabited

namespace BreakPart

/-- The code points that a part stands for. -/
def toSet : BreakPart → CodeSet
  | .category name => (Unicode.generalCategory? name).getD default
  | .property name => (Unicode.binaryProperty? name).getD default
  | .script name => (Unicode.script? name).getD default
  | .codes line => .ofTable [line]

/-- The code points of all the parts of a list. -/
def setOf (parts : List BreakPart) : CodeSet :=
  parts.foldl (fun s part => s.union part.toSet) ⟨[]⟩

end BreakPart

namespace BreakValue

/-- The characters that have the value. -/
def toClass (v : BreakValue) : CharClass :=
  .union (.diff (.set (BreakPart.setOf v.parts)) (.set (BreakPart.setOf v.without))) (.set (BreakPart.setOf v.further))

/-- The characters that have the value of a name. -/
def find? (values : List BreakValue) (name : String) : Option CharClass :=
  (values.find? (·.names.contains name)).map toClass

end BreakValue

/-- The values of Grapheme_Cluster_Break: how a character joins those beside it to what a reader takes for one. -/
def graphemeBreaks : List BreakValue := [
  { names := ["cr"], parts := [.codes "d"] },
  { names := ["lf"], parts := [.codes "a"] },
  { names := ["control", "cn"]
    parts := [.category "zl", .category "zp", .category "cc", .category "cf"]
    without := [.codes "a d 200d", .property "grext", .property "pcm"]
    further := [.codes "2065 fff0-fff8 e0000 e0002-e001f e0080-e00ff e01f0-e0fff"] },
  { names := ["extend", "ex"], parts := [.property "grext", .property "emod"] },
  { names := ["l"], parts := [.codes "1100-115f a960-a97c"] },
  { names := ["v"], parts := [.codes "1160-11a7 d7b0-d7c6 16d63 16d67-16d6a"] },
  { names := ["t"], parts := [.codes "11a8-11ff d7cb-d7fb"] },
  { names := ["lv"], parts := [.codes "ac00-d788/1c"] },
  { names := ["lvt"], parts := [.codes "ac00-d7a3"], without := [.codes "ac00-d788/1c"] },
  { names := ["prepend", "pp"]
    parts := [.property "pcm"]
    further := [.codes "d4e 111c2-111c3 113d1 1193f 11941 11a3a 11a84-11a89 11d46 11f02"] },
  { names := ["regionalindicator", "ri"], parts := [.property "ri"] },
  { names := ["spacingmark", "sm"]
    parts := [.category "mc"]
    without := [.property "grext", .codes "102b-102c 1038 1062-1064 1067-106d 1083 1087-108c 108f 109a-109c",
      .codes "1a61 1a63-1a64 aa7b aa7d 11720-11721"]
    further := [.codes "e33 eb3"] },
  { names := ["zwj"], parts := [.codes "200d"] }]

/-- The letters of the scripts whose words can only be told apart with a dictionary, together with their other
characters that count as alphabetic. -/
def dictionaryLetters : List BreakPart := [
  .codes "e01-e30 e32-e33 e40-e46 e81-e82 e84 e86-e8a e8c-ea3 ea5 ea7-eb0 eb2-eb3 ebd ec0-ec4 ec6 edc-edf 1000-102a",
  .codes "103f 1050-1055 105a-105d 1061 1065-1066 106e-1070 1075-1081 108e 1780-17b3 17d7 17dc 1950-196d 1970-1974",
  .codes "1980-19ab 19b0-19c9 1a20-1a54 1aa7 a9e0-a9e4 a9e6-a9ef a9fa-a9fe aa60-aa76 aa7a aa7e-aaaf aab1 aab5-aab6",
  .codes "aab9-aabd aac0 aac2 aadb-aadd 11700-1171a 11740-11746"]

/-- The signs for numbers that have no decimal digits of their own and those that stand before digits. -/
def numberSigns : List BreakPart :=
  [.codes "600-605 66b 6dd 890-891 8e2 19da 110bd 110cd"]

/-- The values of Word_Break: how a character takes part in a word. -/
def wordBreaks : List BreakValue := [
  { names := ["aletter", "le"]
    parts := [.property "alpha"]
    without := [.property "ideo", .property "grext", .category "mc", .script "hira", .script "kana", .script "hebr",
      .codes "3031-3035 309b-309c 30a0 30fc ff70"] ++ dictionaryLetters
    further := [.codes "2c2-2c5 2d2-2d7 2de-2df 2e5-2eb 2ed 2ef-2ff 55a-55c 55e 58a 5f3 70f a708-a716 a720-a721",
      .codes "a789-a78a ab5b"] },
  { names := ["cr"], parts := [.codes "d"] },
  { names := ["doublequote", "dq"], parts := [.codes "22"] },
  { names := ["extend"], parts := [.property "grext", .category "mc", .property "emod"] },
  { names := ["extendnumlet", "ex"], parts := [.codes "5f 202f 203f-2040 2054 fe33-fe34 fe4d-fe4f ff3f"] },
  { names := ["format", "fo"]
    parts := [.category "cf"]
    without := [.property "grext", .property "pcm", .codes "200b 200d"] },
  { names := ["hebrewletter", "hl"]
    parts := [.script "hebr"]
    without := [.category "m", .category "p", .category "s"] },
  { names := ["katakana", "ka"], parts := [.script "kana", .codes "3031-3035 309b-309c 30a0 30fc ff70"] },
  { names := ["lf"], parts := [.codes "a"] },
  { names := ["midletter", "ml"], parts := [.codes "3a b7 387 55f 5f4 2027 fe13 fe55 ff1a"] },
  { names := ["midnum", "mn"], parts := [.codes "2c 3b 37e 589 60c-60d 66c 7f8 2044 fe50 fe54 ff0c ff1b"] },
  { names := ["midnumlet", "mb"], parts := [.codes "2e 2018-2019 2024 fe52 ff07 ff0e"] },
  { names := ["newline", "nl"], parts := [.codes "b-c 85 2028-2029"] },
  { names := ["numeric", "nu"], parts := [.category "nd"], further := numberSigns },
  { names := ["regionalindicator", "ri"], parts := [.property "ri"] },
  { names := ["singlequote", "sq"], parts := [.codes "27"] },
  { names := ["wsegspace"], parts := [.codes "20 1680 2000-2006 2008-200a 205f 3000"] },
  { names := ["zwj"], parts := [.codes "200d"] }]

/-- The values of Sentence_Break: how a character takes part in a sentence. -/
def sentenceBreaks : List BreakValue := [
  { names := ["aterm", "at"], parts := [.codes "2e 2024 fe52 ff0e"] },
  { names := ["close", "cl"]
    parts := [.category "ps", .category "pe", .category "pi", .category "pf"]
    further := [.codes "22 27 275b-2760 2e00-2e01 2e06-2e08 2e0b 1f676-1f678"] },
  { names := ["cr"], parts := [.codes "d"] },
  { names := ["extend", "ex"], parts := [.property "grext", .category "mc", .codes "200d"] },
  { names := ["format", "fo"]
    parts := [.category "cf"]
    without := [.property "grext", .codes "200d"] ++ numberSigns },
  { names := ["lf"], parts := [.codes "a"] },
  { names := ["lower", "lo"]
    parts := [.property "lower"]
    without := [.property "grext", .codes "10d0-10fa 10fd-10ff"] },
  { names := ["numeric", "nu"], parts := [.category "nd"], further := numberSigns ++ [.codes "66c"] },
  { names := ["oletter", "le"]
    parts := [.property "alpha"]
    without := [.property "lower", .property "upper", .category "lt", .property "grext", .category "mc"]
    further := [.codes "5f3 10d0-10fa 10fd-10ff 1c90-1cba 1cbd-1cbf"] },
  { names := ["scontinue", "sc"]
    parts := [.codes "2c-2d 3a-3b 37e 55d 60c-60d 7f8 1802 1808 2013-2014 3001 fe10-fe11 fe13-fe14 fe31-fe32",
      .codes "fe50-fe51 fe54-fe55 fe58 fe63 ff0c-ff0d ff1a-ff1b ff64"] },
  { names := ["sep", "se"], parts := [.codes "85 2028-2029"] },
  { names := ["sp"], parts := [.property "wspace"], without := [.codes "a d 85 2028-2029"] },
  { names := ["sterm", "st"], parts := [.property "sterm"], without := [.codes "2e 2024 fe52 ff0e"] },
  { names := ["upper", "up"]
    parts := [.property "upper", .category "lt"]
    without := [.codes "1c90-1cba 1cbd-1cbf"] }]

end Pattern

end ConditionLang
