import Mend.Unicode.Category
import Mend.Unicode.PropertyTable

/-!
# Properties of characters

The sets of the properties that a character has or has not. Many follow from the general categories
and a few properties that tables list.
-/

namespace Mend.Unicode

/-- The set of a property that the table lists, by its loose name. -/
def listed? (name : String) : Option CharSet :=
  (propertyTable.find? fun e => isNamed e.1 name).map fun e => tableSet e.2

/-- The set of a property that the table lists. -/
def listed (name : String) : CharSet := (listed? (looseName name)).getD CharSet.empty

/-- The members of any of the sets. -/
def unionAll (sets : List CharSet) : CharSet := CharSet.ofRanges (sets.flatMap fun s => s.ranges.toList)

/-- The letters, and what behaves like them. -/
def alphabetic : CharSet := unionAll [letters, category "Nl", listed "Other_Alphabetic"]

/-- The lowercase characters. -/
def lowercase : CharSet := CharSet.union (category "Ll") (listed "Other_Lowercase")

/-- The uppercase characters. -/
def uppercase : CharSet := CharSet.union (category "Lu") (listed "Other_Uppercase")

/-- The characters of words: letters, marks, digits, connectors and joiners. -/
def wordChars : CharSet :=
  unionAll [alphabetic, categories fun s => ["Mn", "Mc", "Me", "Nd", "Pc"].contains s, listed "Join_Control"]

/-- The blanks. -/
def blanks : CharSet := listed "White_Space"

/-- What continues the character before it. -/
def graphemeExtend : CharSet := unionAll [category "Mn", category "Me", listed "Other_Grapheme_Extend"]

/-- What can begin a character. -/
def graphemeBase : CharSet :=
  CharSet.diff
    (CharSet.diff (CharSet.complement CharSet.top unassigned)
      (CharSet.union surrogates (categories fun s => ["Cc", "Cf", "Co", "Zl", "Zp"].contains s)))
    graphemeExtend

/-- What patterns of other languages keep for themselves. -/
def patternReserved : CharSet := CharSet.union (listed "Pattern_Syntax") (listed "Pattern_White_Space")

/-- What begins an identifier. -/
def idStart : CharSet :=
  CharSet.diff (unionAll [letters, category "Nl", listed "Other_ID_Start"]) patternReserved

/-- What goes on with an identifier. -/
def idContinue : CharSet :=
  CharSet.diff
    (unionAll [idStart, categories fun s => ["Mn", "Mc", "Nd", "Pc"].contains s, listed "Other_ID_Continue"])
    patternReserved

/-- What stops to go on with an identifier when it is normalized. -/
def unstableContinue : CharSet :=
  tableSet ["37a 309b-309c fc5e-fc63 fdfa-fdfb fe70-fe7e/2"]

/-- What stops to begin an identifier when it is normalized. -/
def unstableStart : CharSet := CharSet.union unstableContinue (tableSet ["e33 eb3 ff9e-ff9f"])

/-- The characters that have case. -/
def cased : CharSet := unionAll [lowercase, uppercase, category "Lt"]

/-- The marks and the punctuation that a word's case passes over. -/
def caseIgnorable : CharSet :=
  CharSet.union (categories fun s => ["Mn", "Me", "Cf", "Lm", "Sk"].contains s)
    (tableSet ["27 2e 3a b7 387 55f 5f4 2018-2019 2024 2027 fe13 fe52 fe55 ff07 ff0e ff1a"])

/-- What is left out where it cannot be shown. -/
def defaultIgnorable : CharSet :=
  CharSet.diff
    (unionAll [listed "Other_Default_Ignorable_Code_Point", category "Cf", listed "Variation_Selector"])
    (unionAll [blanks, tableSet ["fff9-fffb 13430-13440"], listed "Prepended_Concatenation_Mark"])

/-- What another case of a text changes. -/
def casemapped : CharSet :=
  unionAll [listed "Changes_When_Lowercased", listed "Changes_When_Titlecased", listed "Changes_When_Uppercased"]

/-- The properties that follow from others, by their names. -/
def derivedTable : List (List String × CharSet) := [
  (["Alpha", "Alphabetic"], alphabetic),
  (["Lower", "Lowercase"], lowercase),
  (["Upper", "Uppercase"], uppercase),
  (["Math"], CharSet.union (category "Sm") (listed "Other_Math")),
  (["Cased"], cased),
  (["CI", "Case_Ignorable"], caseIgnorable),
  (["CWCM", "Changes_When_Casemapped"], casemapped),
  (["DI", "Default_Ignorable_Code_Point"], defaultIgnorable),
  (["Gr_Base", "Grapheme_Base"], graphemeBase),
  (["Gr_Ext", "Grapheme_Extend"], graphemeExtend),
  (["IDS", "ID_Start"], idStart),
  (["IDC", "ID_Continue"], idContinue),
  (["XIDS", "XID_Start"], CharSet.diff idStart unstableStart),
  (["XIDC", "XID_Continue"], CharSet.diff idContinue unstableContinue)]

/-- The set of a property that characters have or have not, by its loose name. -/
def propertyNamed? (name : String) : Option CharSet :=
  (derivedTable.find? fun e => isNamed e.1 name).map Prod.snd <|> listed? name

end Mend.Unicode
