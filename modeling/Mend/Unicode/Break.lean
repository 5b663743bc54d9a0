import Mend.Unicode.Property
import Mend.Unicode.Script

/-!
# Classes of breaks

The classes of code points that say where a text breaks into characters, words and sentences.
-/

namespace Mend.Unicode

/-- The emoji modifiers and the tags, as part of what continues a character. -/
def emojiModifiers : CharSet := listed "Emoji_Modifier"

/-- The signs that go before a number and are written below it. -/
def prepended : CharSet := listed "Prepended_Concatenation_Mark"

/-- A set of the classes of one kind, by their names. -/
abbrev Classes := List (List String × CharSet)

/-- The set of a class by its loose name. -/
def Classes.named? (classes : Classes) (name : String) : Option CharSet :=
  (classes.find? fun e => isNamed e.1 name).map Prod.snd

/-! ## Characters -/

/-- What continues the character before it, with the modifiers of emoji. -/
def clusterExtend : CharSet := CharSet.union graphemeExtend emojiModifiers

/-- What stands alone. -/
def clusterControl : CharSet :=
  CharSet.diff
    (CharSet.union (categories fun s => ["Zl", "Zp", "Cc", "Cf"].contains s)
      (CharSet.inter unassigned defaultIgnorable))
    (unionAll [tableSet ["a d 200d"], clusterExtend, prepended])

/-- The spacing marks that continue the character before them. -/
def clusterSpacing : CharSet :=
  CharSet.diff (CharSet.union (category "Mc") (tableSet ["e33 eb3"]))
    (CharSet.union clusterExtend (tableSet
      ["102b-102c 1038 1062-1064 1067-106d 1083 1087-108c 108f 109a-109c 1a61 1a63-1a64 aa7b aa7d",
       "11720-11721"]))

/-- The Hangul syllables without a final consonant. -/
def openSyllables : CharSet := tableSet ["ac00-d788/1c"]

/-- The classes of breaks between characters. -/
def clusterClasses : Classes := [
  (["CN", "Control"], clusterControl),
  (["CR"], tableSet ["d"]),
  (["EX", "Extend"], clusterExtend),
  (["L"], tableSet ["1100-115f a960-a97c"]),
  (["LF"], tableSet ["a"]),
  (["LV"], openSyllables),
  (["LVT"], CharSet.diff (tableSet ["ac00-d7a3"]) openSyllables),
  (["PP", "Prepend"], CharSet.union prepended (tableSet
    ["d4e 111c2-111c3 113d1 1193f 11941 11a3a 11a84-11a89 11d46 11f02"])),
  (["RI", "Regional_Indicator"], listed "Regional_Indicator"),
  (["SM", "SpacingMark"], clusterSpacing),
  (["T"], tableSet ["11a8-11ff d7cb-d7fb"]),
  (["V"], tableSet ["1160-11a7 d7b0-d7c6 16d63 16d67-16d6a"]),
  (["ZWJ"], tableSet ["200d"])]

/-! ## Words -/

/-- What continues a word's character. -/
def wordExtend : CharSet := unionAll [graphemeExtend, category "Mc", emojiModifiers]

/-- The letters of Katakana, with the marks that stand between them. -/
def katakana : CharSet := CharSet.union ((scriptNamed? "katakana").getD CharSet.empty)
  (tableSet ["3031-3035 309b-309c 30a0 30fc ff70"])

/-- The letters of Hebrew. -/
def hebrewLetters : CharSet := CharSet.inter ((scriptNamed? "hebrew").getD CharSet.empty) (category "Lo")

/-- The letters of scripts that are written without blanks. -/
def unspacedLetters : CharSet := tableSet
  ["e01-e30 e32-e33 e40-e46 e81-e82 e84 e86-e8a e8c-ea3 ea5 ea7-eb0 eb2-eb3 ebd ec0-ec4 ec6 edc-edf",
   "1000-102a 103f 1050-1055 105a-105d 1061 1065-1066 106e-1070 1075-1081 108e 1780-17b3 17d7 17dc",
   "1950-196d 1970-1974 1980-19ab 19b0-19c9 1a20-1a54 1aa7 a9e0-a9e4 a9e6-a9ef a9fa-a9fe aa60-aa76",
   "aa7a aa7e-aaaf aab1 aab5-aab6 aab9-aabd aac0 aac2 aadb-aadd 11700-1171a 11740-11746"]

/-- The letters of words. -/
def wordLetters : CharSet :=
  CharSet.union
    (CharSet.diff alphabetic (unionAll [listed "Ideographic", katakana,
      (scriptNamed? "hiragana").getD CharSet.empty, wordExtend, hebrewLetters, unspacedLetters]))
    (tableSet ["b8 2c2-2c5 2d2-2d7 2de-2df 2e5-2eb 2ed 2ef-2ff 55a-55c 55e 58a 5f3 70f a708-a716 a720-a721",
      "a789-a78a ab5b"])

/-- The signs that go before a number, apart from those of words. -/
def numberSigns : CharSet := CharSet.diff prepended (tableSet ["70f"])

/-- The classes of breaks between words. -/
def wordClasses : Classes := [
  (["LE", "ALetter"], wordLetters),
  (["CR"], tableSet ["d"]),
  (["DQ", "Double_Quote"], tableSet ["22"]),
  (["Extend"], wordExtend),
  (["EX", "ExtendNumLet"], tableSet ["5f 202f 203f-2040 2054 fe33-fe34 fe4d-fe4f ff3f"]),
  (["FO", "Format"], CharSet.diff (category "Cf") (unionAll [tableSet ["200b-200d"], wordExtend, prepended])),
  (["HL", "Hebrew_Letter"], hebrewLetters),
  (["KA", "Katakana"], katakana),
  (["LF"], tableSet ["a"]),
  (["ML", "MidLetter"], tableSet ["3a b7 387 55f 5f4 2027 fe13 fe55 ff1a"]),
  (["MN", "MidNum"], tableSet ["2c 3b 37e 589 60c-60d 66c 7f8 2044 fe50 fe54 ff0c ff1b"]),
  (["MB", "MidNumLet"], tableSet ["2e 2018-2019 2024 fe52 ff07 ff0e"]),
  (["NL", "Newline"], tableSet ["b-c 85 2028-2029"]),
  (["NU", "Numeric"], unionAll [digits, numberSigns, tableSet ["66b 19da"]]),
  (["RI", "Regional_Indicator"], listed "Regional_Indicator"),
  (["SQ", "Single_Quote"], tableSet ["27"]),
  (["WSegSpace"], tableSet ["20 1680 2000-2006 2008-200a 205f 3000"]),
  (["ZWJ"], tableSet ["200d"])]

/-! ## Sentences -/

/-- What continues a sentence's character. -/
def sentenceExtend : CharSet := unionAll [graphemeExtend, category "Mc", tableSet ["200d"]]

/-- The letters of Georgian that have case without a use for it at the start of a sentence. -/
def mtavruli : CharSet := tableSet ["1c90-1cba 1cbd-1cbf"]

/-- The lowercase letters that can follow a full stop inside a sentence. -/
def sentenceLower : CharSet :=
  CharSet.diff lowercase (CharSet.union sentenceExtend (tableSet ["10d0-10fa 10fd-10ff"]))

/-- The uppercase letters that begin sentences. -/
def sentenceUpper : CharSet := CharSet.diff (CharSet.union (category "Lt") uppercase) mtavruli

/-- The marks that end sentences, or abbreviations. -/
def fullStops : CharSet := tableSet ["2e 2024 fe52 ff0e"]

/-- Brackets and quotes. -/
def closers : CharSet :=
  CharSet.diff
    (unionAll [categories fun s => ["Ps", "Pe", "Pi", "Pf"].contains s, listed "Quotation_Mark",
      tableSet ["275b-2760 2e00-2e01 2e06-2e08 2e0b 1f676-1f678"]])
    (tableSet ["ff02 ff07"])

/-- The classes of breaks between sentences. -/
def sentenceClasses : Classes := [
  (["AT", "ATerm"], fullStops),
  (["CR"], tableSet ["d"]),
  (["CL", "Close"], closers),
  (["EX", "Extend"], sentenceExtend),
  (["FO", "Format"], CharSet.diff (category "Cf") (unionAll [tableSet ["200c-200d"], sentenceExtend, numberSigns])),
  (["LF"], tableSet ["a"]),
  (["LO", "Lower"], sentenceLower),
  (["NU", "Numeric"], unionAll [digits, numberSigns, tableSet ["66b-66c 19da"]]),
  (["LE", "OLetter"], CharSet.diff (CharSet.union alphabetic (tableSet ["5f3"]))
    (unionAll [sentenceLower, sentenceUpper, sentenceExtend])),
  (["SC", "SContinue"], tableSet
    ["2c-2d 3a-3b 37e 55d 60c-60d 7f8 1802 1808 2013-2014 3001 fe10-fe11 fe13-fe14 fe31-fe32 fe50-fe51",
     "fe54-fe55 fe58 fe63 ff0c-ff0d ff1a-ff1b ff64"]),
  (["ST", "STerm"], CharSet.diff (listed "Sentence_Terminal") fullStops),
  (["SE", "Sep"], tableSet ["85 2028-2029"]),
  (["SP", "Sp"], CharSet.diff blanks (tableSet ["a d 85 2028-2029"])),
  (["UP", "Upper"], sentenceUpper)]

end Mend.Unicode
