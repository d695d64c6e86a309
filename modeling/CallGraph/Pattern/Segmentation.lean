import CallGraph.Pattern.Property
import CallGraph.Pattern.Script

/-!
# Characters at the breaks of text

How a character takes part in the division of text into graphemes, words and
sentences.  Where the character database derives a class from properties, so
does this module, with the further characters that it lists.
-/

namespace CallGraph.CharSet

/-- Syllables of Hangul that end in a vowel. -/
def openSyllable : CharSet := ofTable "AC00-D788/1C"

/-- The characters with the role of a name in the division into graphemes. -/
def graphemeBreak? : String → Option CharSet
  | "ex" | "extend" => some (graphemeExtend.union emojiModifier)
  | "sm" | "spacingmark" =>
    some ((((ofCategories ["Mc"]).diff graphemeExtend).diff
      (ofTable
        "102B-102C 1038 1062-1064 1067-106D 1083 1087-108C 108F 109A-109C 1A61
        1A63-1A64 AA7B AA7D 11720-11721")).union
      (ofTable "E33 EB3"))
  | "lv" => some openSyllable
  | "lvt" => some ((ofTable "AC00-D7A3").diff openSyllable)
  | "cn" | "control" =>
    some (ofTable "0-9 B-C E-1F 7F-9F AD 61C 180E 200B 200E-200F 2028-202E
      2060-206F FEFF FFF0-FFFB 13430-1343F 1BCA0-1BCA3 1D173-1D17A E0000-E001F
      E0080-E00FF E01F0-E0FFF")
  | "cr" => some (ofTable "D")
  | "lf" => some (ofTable "A")
  | "l" => some (ofTable "1100-115F A960-A97C")
  | "v" => some (ofTable "1160-11A7 D7B0-D7C6 16D63 16D67-16D6A")
  | "t" => some (ofTable "11A8-11FF D7CB-D7FB")
  | "pp" | "prepend" =>
    some (ofTable "600-605 6DD 70F 890-891 8E2 D4E 110BD 110CD 111C2-111C3
      113D1 1193F 11941 11A3A 11A84-11A89 11D46 11F02")
  | "ri" | "regionalindicator" => some (ofTable "1F1E6-1F1FF")
  | "zwj" => some (ofTable "200D")
  | _ => Option.none

/-- Letters of Hebrew. -/
def hebrewLetter : CharSet :=
  ofTable "5D0-5EA 5EF-5F2 FB1D FB1F-FB28 FB2A-FB36 FB38-FB3C FB3E FB40-FB41
    FB43-FB44 FB46-FB4F"

/-- Characters that continue a word or sentence whatever stands before them. -/
def breakExtend : CharSet := graphemeExtend.union (ofCategories ["Mc"])

/-- The characters of scripts that are written without marks between words, or
with their own rules for them. -/
def unspaced : CharSet :=
  ofRanges ((scriptTable.filter fun (names, _) => names.any [
    "ahom", "hira", "kana", "khmr", "lana", "laoo", "mymr", "tale", "talu",
    "tavt", "thai"].contains).flatMap fun (_, points) => tableRanges points)

/-- The characters with the role of a name in the division into words. -/
def wordBreak? : String → Option CharSet
  | "le" | "aletter" =>
    some ((((((alphabetic.diff ideographic).diff unspaced).diff
      breakExtend).diff hebrewLetter).diff
      (ofTable "3031-3035 30FC FF70")).union
      (ofTable
        "2C2-2C5 2D2-2D7 2DE-2DF 2E5-2EB 2ED 2EF-2FF 55A-55C 55E 58A 5F3 70F
        A708-A716 A720-A721 A789-A78A AB5B"))
  | "hl" | "hebrewletter" => some hebrewLetter
  | "extend" => some (breakExtend.union emojiModifier)
  | "nu" | "numeric" =>
    some ((ofCategories ["Nd"]).union
      (ofTable "600-605 66B 6DD 890-891 8E2 19DA 110BD 110CD"))
  | "cr" => some (ofTable "D")
  | "dq" | "doublequote" => some (ofTable "22")
  | "fo" | "format" =>
    some (ofTable "AD 61C 180E 200E-200F 202A-202E 2060-2064 2066-206F FEFF
      FFF9-FFFB 13430-1343F 1BCA0-1BCA3 1D173-1D17A E0001")
  | "lf" => some (ofTable "A")
  | "mb" | "midnumlet" => some (ofTable "2E 2018-2019 2024 FE52 FF07 FF0E")
  | "ml" | "midletter" =>
    some (ofTable "3A B7 387 55F 5F4 2027 FE13 FE55 FF1A")
  | "mn" | "midnum" =>
    some (ofTable "2C 3B 37E 589 60C-60D 66C 7F8 2044 FE50 FE54 FF0C FF1B")
  | "nl" | "newline" => some (ofTable "B-C 85 2028-2029")
  | "ri" | "regionalindicator" => some (ofTable "1F1E6-1F1FF")
  | "sq" | "singlequote" => some (ofTable "27")
  | "wsegspace" => some (ofTable "20 1680 2000-2006 2008-200A 205F 3000")
  | "zwj" => some (ofTable "200D")
  | "ka" | "katakana" =>
    some (ofTable "3031-3035 309B-309C 30A0-30FA 30FC-30FF 31F0-31FF 32D0-32FE
      3300-3357 FF66-FF9D 1AFF0-1AFF3 1AFF5-1AFFB 1AFFD-1AFFE 1B000 1B120-1B122
      1B155 1B164-1B167")
  | "ex" | "extendnumlet" =>
    some (ofTable "5F 202F 203F-2040 2054 FE33-FE34 FE4D-FE4F FF3F")
  | _ => Option.none

/-- Small letters that begin no sentence. -/
def sentenceLower : CharSet :=
  (lowercase.diff graphemeExtend).diff (ofTable "10D0-10FA 10FD-10FF")

/-- Capital letters that may begin a sentence. -/
def sentenceUpper : CharSet :=
  (uppercase.union (ofCategories ["Lt"])).diff (ofTable "1C90-1CBA 1CBD-1CBF")

/-- The characters with the role of a name in the division into sentences. -/
def sentenceBreak? : String → Option CharSet
  | "ex" | "extend" => some (breakExtend.union (ofTable "200D"))
  | "lo" | "lower" => some sentenceLower
  | "up" | "upper" => some sentenceUpper
  | "le" | "oletter" =>
    some ((((alphabetic.diff sentenceLower).diff sentenceUpper).diff
      breakExtend).union (ofTable "5F3"))
  | "nu" | "numeric" =>
    some ((ofCategories ["Nd"]).union
      (ofTable "600-605 66B-66C 6DD 890-891 8E2 19DA 110BD 110CD"))
  | "st" | "sterm" =>
    some (sentenceTerminal.diff (ofTable "2E 2024 FE52 FF0E"))
  | "at" | "aterm" => some (ofTable "2E 2024 FE52 FF0E")
  | "cr" => some (ofTable "D")
  | "fo" | "format" =>
    some (ofTable "AD 61C 70F 180E 200B 200E-200F 202A-202E 2060-2064 2066-206F
      FEFF FFF9-FFFB 13430-1343F 1BCA0-1BCA3 1D173-1D17A E0001")
  | "lf" => some (ofTable "A")
  | "sc" | "scontinue" =>
    some (ofTable "2C-2D 3A-3B 37E 55D 60C-60D 7F8 1802 1808 2013-2014 3001
      FE10-FE11 FE13-FE14 FE31-FE32 FE50-FE51 FE54-FE55 FE58 FE63 FF0C-FF0D
      FF1A-FF1B FF64")
  | "se" | "sep" => some (ofTable "85 2028-2029")
  | "sp" => some (ofTable "9 B-C 20 A0 1680 2000-200A 202F 205F 3000")
  | "cl" | "close" =>
    some (ofTable "22 27-29 5B 5D 7B 7D AB BB F3A-F3D 169B-169C 2018-201F
      2039-203A 2045-2046 207D-207E 208D-208E 2308-230B 2329-232A 275B-2760
      2768-2775 27C5-27C6 27E6-27EF 2983-2998 29D8-29DB 29FC-29FD 2E00-2E0D
      2E1C-2E1D 2E20-2E29 2E42 2E55-2E5C 3008-3011 3014-301B 301D-301F
      FD3E-FD3F FE17-FE18 FE35-FE44 FE47-FE48 FE59-FE5E FF08-FF09 FF3B FF3D
      FF5B FF5D FF5F-FF60 FF62-FF63 1F676-1F678")
  | _ => Option.none

end CallGraph.CharSet
