import StatementProfiles.Text.Property
import StatementProfiles.Text.Script

/-!
# Characters by how texts break around them

Unicode 16 sorts characters by how they join into clusters (`Break.cluster?`), words (`Break.word?`) and sentences
(`Break.sentence?`). Nearly all the sorts follow from other properties of characters, from which they are defined here.
A value is named by a word or its abbreviation, in small letters without separators.
-/

namespace StatementProfiles

namespace Break

/-- The characters with one of several properties or general categories. -/
def having (names : List String) : CharSet :=
  .unions (names.filterMap fun name => (Property.find? name).or (Category.find? name))

/-- The characters of several scripts. -/
def ofScripts (names : List String) : CharSet :=
  .unions (names.filterMap fun name => (Script.find? name).map Script.own)

/-- The joiner of zero width. -/
def joiner : CharSet := .single (Char.ofNat 0x200D)

/-- Characters that stand in front of the cluster that they belong to. -/
def leading : CharSet :=
  .ofText
    "600-605 6DD 70F 890-891 8E2 D4E 110BD 110CD 111C2-111C3 113D1 1193F 11941 11A3A 11A84-11A89 11D46 11F02"

/-! ## Clusters -/

/-- Characters that extend a cluster. -/
def extending : CharSet := having ["grext", "emod"]

/-- Characters that stand alone. -/
def controls : CharSet :=
  .diff (.unions [having ["zl", "zp", "cc", "cf"], .inter (having ["cn"]) (having ["di"])])
    (.unions [.single '\n', .single '\r', .ofText "200C-200D", having ["pcm"], extending])

/-- Marks with a width that belong to the character in front of them. -/
def spacingMarks : CharSet :=
  .diff (.union (having ["mc"]) (.ofText "E33 EB3"))
    (.union extending
      (.ofText "102B-102C 1038 1062-1064 1067-106D 1083 1087-108C 108F 109A-109C 1A61 1A63-1A64 AA7B AA7D 11720-11721"))

/-- The syllables of two parts. -/
def twoPartSyllables : CharSet := .ofText "AC00-D788/1C"

/-- The characters of a sort of clusters. -/
def cluster? (value : String) : Option CharSet :=
  match value with
  | "cn" | "control" => some controls
  | "cr" => some (.single '\r')
  | "ex" | "extend" => some extending
  | "l" => some (.ofText "1100-115F A960-A97C")
  | "lf" => some (.single '\n')
  | "lv" => some twoPartSyllables
  | "lvt" => some (.diff (.ofText "AC00-D7A3") twoPartSyllables)
  | "pp" | "prepend" => some leading
  | "ri" | "regionalindicator" => some (having ["ri"])
  | "sm" | "spacingmark" => some spacingMarks
  | "t" => some (.ofText "11A8-11FF D7CB-D7FB")
  | "v" => some (.ofText "1160-11A7 D7B0-D7C6 16D63 16D67-16D6A")
  | "zwj" => some joiner
  | _ => none

/-! ## Words -/

/-- Characters that extend a word. -/
def wordExtending : CharSet := .diff (having ["grext", "emod", "mc"]) joiner

/-- Characters of syllabic writing that words are made of. -/
def syllabic : CharSet := .union (ofScripts ["kana"]) (.ofText "3031-3035 309B-309C 30A0 30FC FF70")

/-- The letters of the Hebrew script. -/
def hebrewLetters : CharSet := .inter (ofScripts ["hebr"]) (having ["lo"])

/-- Letters of scripts that put no mark between words. -/
def unspaced : CharSet :=
  .unions [having ["ideo"], syllabic, ofScripts ["hira"],
    ofScripts ["thai", "lao", "mymr", "khmr", "tale", "talu", "lana", "tavt", "ahom"]]

/-- Letters that words are made of. -/
def wordLetters : CharSet :=
  .diff
    (.union (having ["alpha"])
      (.ofText
        "B8 2C2-2C5 2D2-2D7 2DE-2DF 2E5-2EB 2ED 2EF-2FF 55A-55C 55E 58A 5F3 70F A708-A716 A720-A721 A789-A78A AB5B"))
    (.unions [unspaced, wordExtending, hebrewLetters])

/-- Signs that numbers begin with. -/
def numberSigns : CharSet := .ofText "600-605 6DD 890-891 8E2 110BD 110CD"

/-- Digits and what belongs to them. -/
def wordNumbers : CharSet := .unions [having ["nd"], numberSigns, .ofText "66B"]

/-- The characters of a sort of words. -/
def word? (value : String) : Option CharSet :=
  match value with
  | "cr" => some (.single '\r')
  | "dq" | "doublequote" => some (.single '"')
  | "ex" | "extendnumlet" => some (.union (having ["pc"]) (.ofText "202F"))
  | "extend" => some wordExtending
  | "fo" | "format" =>
    some (.diff (having ["cf"]) (.unions [.ofText "200B-200D", leading, wordExtending]))
  | "hl" | "hebrewletter" => some hebrewLetters
  | "ka" | "katakana" => some syllabic
  | "le" | "aletter" => some wordLetters
  | "lf" => some (.single '\n')
  | "mb" | "midnumlet" => some (.ofText "2E 2018-2019 2024 FE52 FF07 FF0E")
  | "ml" | "midletter" => some (.ofText "3A B7 387 55F 5F4 2027 FE13 FE55 FF1A")
  | "mn" | "midnum" => some (.ofText "2C 3B 37E 589 60C-60D 66C 7F8 2044 FE10 FE14 FE50 FE54 FF0C FF1B")
  | "nl" | "newline" => some (.ofText "B-C 85 2028-2029")
  | "nu" | "numeric" => some wordNumbers
  | "ri" | "regionalindicator" => some (having ["ri"])
  | "sq" | "singlequote" => some (.single '\'')
  | "wsegspace" => some (.diff (having ["zs"]) (.ofText "A0 2007 202F"))
  | "zwj" => some joiner
  | _ => none

/-! ## Sentences -/

/-- Characters that extend a sentence. -/
def sentenceExtending : CharSet := .union (having ["grext", "mc"]) joiner

/-- Letters with a case that sentences do not begin by. -/
def uncasedHere : CharSet := .ofText "10D0-10FA 10FD-10FF 1C90-1CBA 1CBD-1CBF"

/-- Small letters. -/
def small : CharSet := .diff (having ["lower"]) (.union (having ["grext"]) uncasedHere)

/-- Capital letters. -/
def capital : CharSet := .diff (having ["lt", "upper"]) uncasedHere

/-- Full stops. -/
def fullStops : CharSet := .ofText "2E 2024 FE52 FF0E"

/-- Marks at the end of a sentence that are no full stops. -/
def sentenceEnds : CharSet := .diff (having ["sterm"]) fullStops

/-- The characters of a sort of sentences. -/
def sentence? (value : String) : Option CharSet :=
  match value with
  | "at" | "aterm" => some fullStops
  | "cl" | "close" =>
    some (.union (having ["ps", "pe", "pi", "pf"]) (.ofText "22 27 275B-2760 2E00-2E01 2E06-2E08 2E0B 1F676-1F678"))
  | "cr" => some (.single '\r')
  | "ex" | "extend" => some sentenceExtending
  | "fo" | "format" =>
    some (.diff (having ["cf"]) (.unions [.ofText "200C-200D", numberSigns, sentenceExtending]))
  | "le" | "oletter" =>
    some (.diff (.union (having ["alpha"]) (.ofText "5F3")) (.unions [small, capital, sentenceExtending]))
  | "lf" => some (.single '\n')
  | "lo" | "lower" => some small
  | "nu" | "numeric" => some (.unions [having ["nd"], numberSigns, .ofText "66B-66C"])
  | "sc" | "scontinue" =>
    some (.ofText
      "2C-2D 3A-3B 37E 55D 60C-60D 7F8 1802 1808 2013-2014 3001 FE10-FE11 FE13-FE14 FE31-FE32 FE50-FE51 FE54-FE55
       FE58 FE63 FF0C-FF0D FF1A-FF1B FF64")
  | "se" | "sep" => some (.ofText "85 2028-2029")
  | "sp" => some (.diff (having ["wspace"]) (.ofText "A D 85 2028-2029"))
  | "st" | "sterm" => some sentenceEnds
  | "up" | "upper" => some capital
  | _ => none

end Break

end StatementProfiles
