import Mend.Shell.Options
import Mend.Shell.Process
import Mend.Text.Lines

/-!
# Utilities

The programs that every workspace has: they print, look at files and change them. A utility takes its
arguments and gives its exit code; what it reads and prints are texts of bytes.
-/

namespace Mend.Shell

/-- A program. -/
abbrev Utility := List String → Act Nat

/-- How a utility runs another program; none if there is no such program. -/
abbrev Launcher := List String → Act (Option Nat)

/-- Tells of a misuse. -/
def misuse (who : String) (code : Nat) (what : String) : Act Nat := do
  complain who what
  write 2 ("Try '" ++ who ++ " --help' for more information.\n")
  return code

/-- A utility with options; `code` is its exit code for options that it does not know. -/
def withOptions (who : String) (known : Known) (code : Nat) (body : Given → Act Nat) : Utility := fun words =>
  match known.read words with
  | .ok g => body g
  | .error e => misuse who code e

/-- Carries out an action on each item; the exit code is the largest. -/
def onEach {α : Type} (items : List α) (act : α → Act Nat) : Act Nat :=
  items.foldlM (fun code x => return max code (← act x)) 0

/-- The text of a file, or of what there is to read if the name is a dash. -/
def readSource (name : String) : Act (Except Fs.Error String) := do
  if name = "-" then return .ok (← takeAll 0) else readFile name

/-- Gives the text of each file to an action; those that cannot be read make the exit code `code`. -/
def onSources (who : String) (code : Nat) (names : List String) (act : String → String → Act Unit) : Act Nat :=
  onEach (if names.isEmpty then ["-"] else names) fun name => do
    match ← readSource name with
    | .ok text =>
      act name text
      return 0
    | .error e =>
      complain who (name ++ ": " ++ e.words)
      return code

/-- The texts of files, one after the other. -/
def allSources (who : String) (code : Nat) (names : List String) : Act (String × Nat) := do
  let texts ← (if names.isEmpty then ["-"] else names).mapM fun name => do
    match ← readSource name with
    | .ok text => return (text, 0)
    | .error e =>
      complain who (name ++ ": " ++ e.words)
      return ("", code)
  return (String.join (texts.map (·.1)), texts.foldl (fun n t => max n t.2) 0)

/-! ## Lines -/

/-- The lines of a text with their ends. -/
def rows (s : String) : List (List Char) := Text.cut s.toList

/-- A line without its end. -/
def chomp (l : List Char) : List Char := if l.getLast? = some '\n' then l.dropLast else l

/-- The lines of a text without their ends. -/
def lines (s : String) : List String := (rows s).map fun l => String.ofList (chomp l)

/-- The text of lines, each of which gets an end. -/
def unlines (ls : List String) : String := String.join (ls.map (· ++ "\n"))

/-! ## Numbers -/

/-- A number at the right of a field. -/
def padLeft (width : Nat) (s : String) : String := String.ofList (List.replicate (width - s.length) ' ') ++ s

/-- A text at the left of a field. -/
def padRight (width : Nat) (s : String) : String := s ++ String.ofList (List.replicate (width - s.length) ' ')

/-- A text without the blanks around it. -/
def stripped (s : String) : List Char :=
  let blank (c : Char) : Bool := c = ' ' || (9 ≤ c.toNat && c.toNat ≤ 13)
  ((s.toList.dropWhile blank).reverse.dropWhile blank).reverse

/-- The number that digits spell, with a sign or without one. -/
def decimal? (s : String) : Option Int :=
  let digits? (cs : List Char) : Option Nat := if cs.all Char.isDigit then (String.ofList cs).toNat? else none
  match stripped s with
  | '-' :: cs => (digits? cs).map fun n => -(n : Int)
  | '+' :: cs => (digits? cs).map fun n => (n : Int)
  | cs => (digits? cs).map fun n => (n : Int)

/-- A number with the letter of a unit. -/
def sized? (s : String) : Option Nat :=
  let (ds, unit) := s.toList.span Char.isDigit
  match (String.ofList ds).toNat?, String.ofList unit with
  | some n, "" => some n
  | some n, "b" => some (512 * n)
  | some n, "kB" => some (1000 * n)
  | some n, "k" => some (1024 * n)
  | some n, "K" => some (1024 * n)
  | some n, "M" => some (1048576 * n)
  | _, _ => none

/-- The text is a piece of another. -/
def startsWith (piece s : String) : Bool := piece.toList.isPrefixOf s.toList

end Mend.Shell
