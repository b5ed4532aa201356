import NamedData.Unicode.Property

/-!
# Classes of characters in segments

Where a text may be cut into characters as a reader sees them, into words and into sentences depends
on a class of every character. The classes follow the Unicode standard, version 16.0; the large ones
are made of general categories and properties, with a few characters more or less. A class is found
by its name, which is in small letters and without separators; the class of all characters that are
in no other has no set.
-/

namespace NamedData.Unicode

/-- The marks that belong to the character before them. -/
def attached : Charset :=
  Property.anyOf [.nonspacingMark, .enclosingMark, .spacingMark] [.otherGraphemeExtend]

/-- The letters of scripts that are written without blanks between words. -/
def unspacedLetter : Charset :=
  .ofTable
    "E01-E30 E32-E33 E40-E46 E81-E82 E84 E86-E8A E8C-EA3 EA5 EA7-EB0 EB2-EB3 EBD EC0-EC4 EC6
     EDC-EDF 1000-102A 103F 1050-1055 105A-105D 1061 1065-1066 106E-1070 1075-1081 108E 1780-17B3
     17D7 17DC 1950-196D 1970-1974 1980-19AB 19B0-19C9 1A20-1A54 1AA7 3041-3096 309D-309F
     A9E0-A9E4 A9E6-A9EF A9FA-A9FE AA60-AA76 AA7A AA7E-AAAF AAB1 AAB5-AAB6 AAB9-AABD AAC0 AAC2
     AADB-AADD 11700-1171A 11740-11746 1B001-1B11F 1B132 1B150-1B152"

/-- The set of a class of characters within characters as a reader sees them. -/
def graphemeBreak? (name : String) : Option Charset :=
  match name with
  | "cn" | "control" =>
    some (.ofTable
      "0-9 B-C E-1F 7F-9F AD 61C 180E 200B 200E-200F 2028-202E 2060-206F FEFF FFF0-FFFB
       13430-1343F 1BCA0-1BCA3 1D173-1D17A E0000-E001F E0080-E00FF E01F0-E0FFF")
  | "cr" => some (.ofTable "D")
  | "ex" | "extend" =>
    some (Property.anyOf [.nonspacingMark, .enclosingMark] [.otherGraphemeExtend, .emojiModifier])
  | "l" => some (.ofTable "1100-115F A960-A97C")
  | "lf" => some (.ofTable "A")
  | "lv" => some (.ofRanges ((List.range 399).map fun k => (0xAC00 + 28 * k, 0xAC00 + 28 * k)))
  | "lvt" => some (.ofRanges ((List.range 399).map fun k => (0xAC01 + 28 * k, 0xAC1B + 28 * k)))
  | "pp" | "prepend" =>
    some (.ofTable
      "600-605 6DD 70F 890-891 8E2 D4E 110BD 110CD 111C2-111C3 113D1 1193F 11941 11A3A
       11A84-11A89 11D46 11F02")
  | "regionalindicator" | "ri" => some (ListedProperty.members .regionalIndicator)
  | "sm" | "spacingmark" =>
    some (((Category.members .spacingMark).union (.ofTable "E33 EB3")).diff
      ((ListedProperty.members .otherGraphemeExtend).union (.ofTable
        "102B-102C 1038 1062-1064 1067-106D 1083 1087-108C 108F 109A-109C 1A61 1A63-1A64 AA7B
         AA7D 11720-11721")))
  | "t" => some (.ofTable "11A8-11FF D7CB-D7FB")
  | "v" => some (.ofTable "1160-11A7 D7B0-D7C6 16D63 16D67-16D6A")
  | "zwj" => some (.ofTable "200D")
  | _ => none

/-- The letters of Hebrew in words. -/
def hebrewLetter : Charset :=
  .ofTable
    "5D0-5EA 5EF-5F2 FB1D FB1F-FB28 FB2A-FB36 FB38-FB3C FB3E FB40-FB41 FB43-FB44 FB46-FB4F"

/-- The letters of Katakana in words, and the marks among them. -/
def katakanaLetter : Charset :=
  .ofTable
    "3031-3035 309B-309C 30A0-30FA 30FC-30FF 31F0-31FF 32D0-32FE 3300-3357 FF66-FF9D 1AFF0-1AFF3
     1AFF5-1AFFB 1AFFD-1AFFE 1B000 1B120-1B122 1B155 1B164-1B167"

/-- The set of a class of characters within words. -/
def wordBreak? (name : String) : Option Charset :=
  match name with
  | "aletter" | "le" =>
    some (((Property.members .alphabetic).diff
        (.unions [ListedProperty.members .ideographic, ListedProperty.members .emojiModifier,
          katakanaLetter, hebrewLetter, unspacedLetter, attached])).union
      (.ofTable
        "2C2-2C5 2D2-2D7 2DE-2DF 2E5-2EB 2ED 2EF-2FF 55A-55C 55E 58A 5F3 70F A708-A716 A720-A721
         A789-A78A AB5B"))
  | "cr" => some (.ofTable "D")
  | "doublequote" | "dq" => some (.ofTable "22")
  | "extend" => some (attached.union (ListedProperty.members .emojiModifier))
  | "ex" | "extendnumlet" => some (.ofTable "5F 202F 203F-2040 2054 FE33-FE34 FE4D-FE4F FF3F")
  | "fo" | "format" =>
    some (.ofTable
      "AD 61C 180E 200E-200F 202A-202E 2060-2064 2066-206F FEFF FFF9-FFFB 13430-1343F 1BCA0-1BCA3
       1D173-1D17A E0001")
  | "hebrewletter" | "hl" => some hebrewLetter
  | "ka" | "katakana" => some katakanaLetter
  | "lf" => some (.ofTable "A")
  | "midletter" | "ml" => some (.ofTable "3A B7 387 55F 5F4 2027 FE13 FE55 FF1A")
  | "midnum" | "mn" => some (.ofTable "2C 3B 37E 589 60C-60D 66C 7F8 2044 FE50 FE54 FF0C FF1B")
  | "mb" | "midnumlet" => some (.ofTable "2E 2018-2019 2024 FE52 FF07 FF0E")
  | "newline" | "nl" => some (.ofTable "B-C 85 2028-2029")
  | "nu" | "numeric" =>
    some ((Category.members .decimalNumber).union
      (.ofTable "600-605 66B 6DD 890-891 8E2 19DA 110BD 110CD"))
  | "regionalindicator" | "ri" => some (ListedProperty.members .regionalIndicator)
  | "singlequote" | "sq" => some (.ofTable "27")
  | "wsegspace" => some (.ofTable "20 1680 2000-2006 2008-200A 205F 3000")
  | "zwj" => some (.ofTable "200D")
  | _ => none

/-- The small letters of sentences. -/
def sentenceLower : Charset :=
  (Property.members .lowercase).diff (.ofTable "345 10D0-10FA 10FD-10FF")

/-- The capital letters of sentences. -/
def sentenceUpper : Charset :=
  (Property.anyOf [.uppercaseLetter, .titlecaseLetter] [.otherUppercase]).diff
    (.ofTable "1C90-1CBA 1CBD-1CBF")

/-- The set of a class of characters within sentences. -/
def sentenceBreak? (name : String) : Option Charset :=
  match name with
  | "at" | "aterm" => some (.ofTable "2E 2024 FE52 FF0E")
  | "cr" => some (.ofTable "D")
  | "cl" | "close" =>
    some ((Category.anyOf [.openPunctuation, .closePunctuation, .initialPunctuation,
        .finalPunctuation]).union
      (.ofTable "22 27 275B-2760 2E00-2E01 2E06-2E08 2E0B 1F676-1F678"))
  | "ex" | "extend" => some (attached.union (.ofTable "200D"))
  | "fo" | "format" =>
    some (.ofTable
      "AD 61C 70F 180E 200B 200E-200F 202A-202E 2060-2064 2066-206F FEFF FFF9-FFFB 13430-1343F
       1BCA0-1BCA3 1D173-1D17A E0001")
  | "lf" => some (.ofTable "A")
  | "lo" | "lower" => some sentenceLower
  | "nu" | "numeric" =>
    some ((Category.members .decimalNumber).union
      (.ofTable "600-605 66B-66C 6DD 890-891 8E2 19DA 110BD 110CD"))
  | "le" | "oletter" =>
    some (((Property.members .alphabetic).union (.ofTable "5F3")).diff
      (.unions [sentenceLower, sentenceUpper, attached]))
  | "sc" | "scontinue" =>
    some (.ofTable
      "2C-2D 3A-3B 37E 55D 60C-60D 7F8 1802 1808 2013-2014 3001 FE10-FE11 FE13-FE14 FE31-FE32
       FE50-FE51 FE54-FE55 FE58 FE63 FF0C-FF0D FF1A-FF1B FF64")
  | "st" | "sterm" =>
    some ((ListedProperty.members .sentenceTerminal).diff (.ofTable "2E 2024 FE52 FF0E"))
  | "se" | "sep" => some (.ofTable "85 2028-2029")
  | "sp" => some (.ofTable "9 B-C 20 A0 1680 2000-200A 202F 205F 3000")
  | "up" | "upper" => some sentenceUpper
  | _ => none

end NamedData.Unicode
