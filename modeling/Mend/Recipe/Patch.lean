import Mend.Count
import Mend.Diff
import Mend.Digest.Basic
import Mend.Digest.Blake3
import Mend.Fs.Error
import Mend.Path

/-!
# Patches

A patch replaces the whole content of a file. `editLine` makes the new content by changing or
deleting one line; a changed line keeps its own terminator.
-/

namespace Mend

namespace Recipe

/-- What is wrong with a recipe. -/
inductive Fault where
  /-- Its pattern does not follow the grammar of patterns. -/
  | pattern
  | emptyId
  | notRegistered
  /-- Its patch is for another file, or for other content than it was given. -/
  | otherContent (file : RelPath)
  deriving DecidableEq, Repr

/-- What stands for the reason why a pattern cannot be read. -/
def unreadablePattern : String := "no such pattern"

/-- The words for a fault. -/
def Fault.message : Fault → String
  | .pattern => unreadablePattern
  | .emptyId => "empty id"
  | .notRegistered => "not registered"
  | .otherContent file => "patch for " ++ file.text ++ " does not match the content it was given"

end Recipe

/-- The new content of a file. -/
structure Patch where
  file : RelPath
  /-- The digest of the content that the patch was made from. -/
  before : Digest
  after : String
  /-- How many lines change. -/
  changed : Count
  deriving DecidableEq, Repr

namespace Patch

/-- Why a recipe has no patch for an issue. -/
inductive Error where
  | read (file : RelPath) (cause : Fs.Error)
  | lineOutOfRange (file : RelPath) (line : Count) (length : Nat)
  | noChange (file : RelPath)
  /-- The line is not what the recipe works on. -/
  | mismatch (file : RelPath) (line : Count) (reason : String)
  | invalidRecipe (id : String) (fault : Recipe.Fault)
  deriving DecidableEq, Repr

/-- The words for a failure. -/
def Error.message : Error → String
  | .read file cause => "cannot read " ++ file.text ++ ": " ++ cause.message
  | .lineOutOfRange file line length =>
    "line " ++ toString line.toNat ++ " out of range for " ++ file.text ++ " (" ++ toString length ++
      " lines)"
  | .noChange file => "recipe produced no change for " ++ file.text
  | .mismatch file line reason =>
    "line " ++ toString line.toNat ++ " of " ++ file.text ++ " does not match: " ++ reason
  | .invalidRecipe id fault => "invalid recipe '" ++ id ++ "': " ++ fault.message

instance : ToString Error := ⟨Error.message⟩

/-- The patch that turns one content into another. -/
def replace (file : RelPath) (before after : String) : Except Error Patch :=
  if before = after then .error (.noChange file)
  else .ok ⟨file, Digest.content before.toUTF8, after,
    Count.ofNatClamped (Diff.between before after).changedLines⟩

/-- The digest of the new content. -/
def afterDigest (p : Patch) : Digest := Digest.content p.after.toUTF8

end Patch

/-- A line with another body, its terminator kept, or no line. -/
def replaceBody (line : String) : Option String → String
  | some body => body ++ Text.terminator line
  | none => ""

/-- Substitutions a line, counted from one. `edit` is given the line without its terminator and answers
with the new one, or with none to delete the line. -/
def editLine (file : RelPath) (content : String) (line : Count)
    (edit : String → Except Patch.Error (Option String)) : Except Patch.Error String :=
  let lines := Text.lines content
  let outOfRange := Patch.Error.lineOutOfRange file line lines.length
  match line.toNat with
  | 0 => .error outOfRange
  | i + 1 =>
    match lines[i]? with
    | none => .error outOfRange
    | some raw =>
      match edit (Text.body raw) with
      | .error e => .error e
      | .ok body =>
        .ok (String.join (lines.take i ++ replaceBody raw body :: lines.drop (i + 1)))

end Mend
