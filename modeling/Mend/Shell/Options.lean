/-!
# Options of utilities

A utility takes letters after a dash, some with a value, and long names after two dashes. Options and
operands may stand in any order, unless the options have to come first; two dashes alone end them.
-/

namespace Mend.Shell

/-- The options that a utility knows. -/
structure Known where
  /-- The letters that have no value. -/
  letters : String := ""
  /-- The letters with a value, in the same word or the next. -/
  valued : String := ""
  /-- The letters with a value only if it stands in the same word. -/
  attached : String := ""
  /-- Long names, and the letters that they stand for. -/
  long : List (String × Char) := []
  /-- The first operand ends the options. -/
  early : Bool := false

/-- The options and operands that a utility is given. -/
structure Given where
  /-- The letters with their values. -/
  options : List (Char × String) := []
  operands : List String := []
  deriving Inhabited

namespace Given

/-- A letter is among the options. -/
def has (g : Given) (c : Char) : Bool := g.options.any fun o => o.1 = c

/-- The value of a letter, the last if there are several. -/
def value? (g : Given) (c : Char) : Option String := ((g.options.filter fun o => o.1 = c).getLast?).map (·.2)

/-- All values of a letter. -/
def values (g : Given) (c : Char) : List String := (g.options.filter fun o => o.1 = c).map (·.2)

/-- The letter among several that was given last. -/
def last? (g : Given) (cs : List Char) : Option Char :=
  ((g.options.filter fun o => cs.contains o.1).getLast?).map (·.1)

end Given

namespace Known

/-- The options in the letters of one word, and one that waits for its value. -/
def cluster (k : Known) : List Char → Except String (List (Char × String) × Option Char)
  | [] => .ok ([], none)
  | c :: cs =>
    if k.valued.toList.contains c then
      if cs.isEmpty then .ok ([], some c) else .ok ([(c, String.ofList cs)], none)
    else if k.attached.toList.contains c then .ok ([(c, String.ofList cs)], none)
    else if k.letters.toList.contains c then do
      let (more, waiting) ← cluster k cs
      return ((c, "") :: more, waiting)
    else .error ("invalid option -- '" ++ c.toString ++ "'")

/-- The option of a long name, which may be cut short, or one that waits for its value. -/
def named (k : Known) (w : List Char) : Except String (List (Char × String) × Option Char) :=
  let (name, rest) := w.span (· ≠ '=')
  let found := match k.long.find? fun l => l.1.toList = name with
    | some l => [l]
    | none => k.long.filter fun l => name.isPrefixOf l.1.toList
  let shown := "'--" ++ String.ofList name ++ "'"
  match found, rest with
  | [], _ => .error ("unrecognized option " ++ "'--" ++ String.ofList w ++ "'")
  | (_, c) :: others, rest =>
    if others.any fun l => l.2 ≠ c then .error ("option " ++ shown ++ " is ambiguous")
    else match rest with
      | _ :: v => .ok ([(c, String.ofList v)], none)
      | [] => if k.valued.toList.contains c then .ok ([], some c) else .ok ([(c, "")], none)

/-- Reads words; `waiting` is an option whose value comes next. -/
def readFrom (k : Known) : Option Char → List String → Except String Given
  | some c, [] => .error ("option requires an argument -- '" ++ c.toString ++ "'")
  | some c, v :: rest => do
    let g ← readFrom k none rest
    return { g with options := (c, v) :: g.options }
  | none, [] => .ok {}
  | none, w :: rest =>
    match w.toList with
    | ['-', '-'] => .ok { operands := rest }
    | '-' :: '-' :: name => do
      let (os, waiting) ← k.named name
      let g ← readFrom k waiting rest
      return { g with options := os ++ g.options }
    | '-' :: c :: cs => do
      let (os, waiting) ← k.cluster (c :: cs)
      let g ← readFrom k waiting rest
      return { g with options := os ++ g.options }
    | _ =>
      if k.early then .ok { operands := w :: rest }
      else do
        let g ← readFrom k none rest
        return { g with operands := w :: g.operands }

/-- Reads the words of a command after its name. -/
def read (k : Known) (words : List String) : Except String Given := k.readFrom none words

end Known
end Mend.Shell
