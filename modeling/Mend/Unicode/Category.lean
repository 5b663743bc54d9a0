import Mend.Unicode.Table
import Mend.Unicode.CategoryTable

/-!
# General categories

Every code point has one general category. Categories come in groups, such as the letters or the
marks, and a group has names like a category.
-/

namespace Mend.Unicode

/-- The set of the categories whose short name `keep` accepts. -/
def categories (keep : String → Bool) : CharSet :=
  CharSet.ofRanges ((categoryTable.filter fun e => keep e.1).flatMap fun e => tableRanges e.2.2)

/-- The set of one category. -/
def category (short : String) : CharSet := categories (· == short)

/-- The surrogates, which are no characters. -/
def surrogates : CharSet := ⟨#[(0xD800, 0xDFFF)]⟩

/-- The code points that no category holds. -/
def unassigned : CharSet := CharSet.complement CharSet.top (CharSet.union (categories fun _ => true) surrogates)

/-- The letters. -/
def letters : CharSet := categories fun s => ["Lu", "Ll", "Lt", "Lm", "Lo"].contains s

/-- The numbers. -/
def numeric : CharSet := categories fun s => ["Nd", "Nl", "No"].contains s

/-- The decimal digits. -/
def digits : CharSet := category "Nd"

/-- The groups of categories by their names. -/
def categoryGroups : List (List String × List String) := [
  (["l", "letter"], ["Lu", "Ll", "Lt", "Lm", "Lo"]),
  (["lc", "casedletter"], ["Lu", "Ll", "Lt"]),
  (["m", "mark", "combiningmark"], ["Mn", "Mc", "Me"]),
  (["n", "number"], ["Nd", "Nl", "No"]),
  (["p", "punctuation", "punct"], ["Pc", "Pd", "Ps", "Pe", "Pi", "Pf", "Po"]),
  (["s", "symbol"], ["Sm", "Sc", "Sk", "So"]),
  (["z", "separator"], ["Zs", "Zl", "Zp"]),
  (["cc", "cntrl"], ["Cc"]),
  (["nd", "digit"], ["Nd"])]

/-- The set of a general category, or group of them, by its loose name. -/
def categoryNamed? (name : String) : Option CharSet :=
  if name == "any" then some CharSet.all
  else if name == "ascii" then some ⟨#[(0, 127)]⟩
  else if name == "assigned" then some (CharSet.complement CharSet.top unassigned)
  else if name == "cn" || name == "unassigned" then some unassigned
  else if name == "c" || name == "other" then
    some (CharSet.union (categories fun s => ["Cc", "Cf", "Co"].contains s) unassigned)
  else match categoryGroups.find? fun g => g.1.contains name with
    | some g => some (categories g.2.contains)
    | none => (categoryTable.find? fun e => isNamed [e.1, e.2.1] name).map fun e => tableSet e.2.2

end Mend.Unicode
