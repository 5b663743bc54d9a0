/-!
# Lines of a text

A text is cut after every line feed, so that a line carries its own terminator and the lines of a
text concatenate to the text (`join_lines`). A line's body is what stands before its terminator,
which is a carriage return and a line feed, a line feed alone, or nothing (`body_append_terminator`).
-/

namespace Mend.Text

/-- Cuts a text after every line feed. Only the last piece may lack one, and no piece is empty. -/
def cut (cs : List Char) : List (List Char) :=
  cs.foldr
    (fun c ls =>
      if c = '\n' then [c] :: ls
      else match ls with
        | [] => [[c]]
        | l :: rest => (c :: l) :: rest)
    []

/-- The lines of a text, terminators included. -/
def lines (s : String) : List String := (cut s.toList).map String.ofList

/-- Separates a line from the line feed, or the carriage return and line feed, that ends it. -/
def splitTerminator (line : List Char) : List Char × List Char :=
  match line.reverse with
  | '\n' :: '\r' :: body => (body.reverse, ['\r', '\n'])
  | '\n' :: body => (body.reverse, ['\n'])
  | _ => (line, [])

/-- The line without its terminator. -/
def body (line : String) : String := String.ofList (splitTerminator line.toList).1

/-- The terminator of a line, empty when the text ends without one. -/
def terminator (line : String) : String := String.ofList (splitTerminator line.toList).2

/-- The line bodies of a text. -/
def bodies (s : String) : List String := (lines s).map body

@[simp] theorem cut_nil : cut [] = [] := rfl

theorem cut_cons (c : Char) (cs : List Char) :
    cut (c :: cs) =
      if c = '\n' then [c] :: cut cs
      else match cut cs with
        | [] => [[c]]
        | l :: rest => (c :: l) :: rest := rfl

theorem flatten_cut (cs : List Char) : (cut cs).flatten = cs := by
  induction cs with
  | nil => rfl
  | cons c cs ih =>
    rw [cut_cons]
    split
    · simp [ih]
    · split <;> simp_all

theorem toList_foldl_append (ls : List String) (acc : String) :
    (ls.foldl (· ++ ·) acc).toList = acc.toList ++ (ls.map String.toList).flatten := by
  induction ls generalizing acc with
  | nil => simp
  | cons l ls ih => simp [ih]

/-- Nothing is lost: the lines of a text, one after the other, are the text. -/
theorem join_lines (s : String) : String.join (lines s) = s := by
  apply String.ext
  have h : ((lines s).map String.toList) = cut s.toList := by
    simp [lines, Function.comp_def]
  rw [String.join, toList_foldl_append, h, flatten_cut]
  simp

theorem splitTerminator_append (line : List Char) :
    (splitTerminator line).1 ++ (splitTerminator line).2 = line := by
  unfold splitTerminator
  split
  · next body h =>
    have : line = (line.reverse).reverse := by simp
    rw [this, h]; simp
  · next body _ h =>
    have : line = (line.reverse).reverse := by simp
    rw [this, h]; simp
  · simp

/-- A body and its terminator make up the line. -/
theorem body_append_terminator (l : String) : body l ++ terminator l = l := by
  rw [body, terminator, ← String.ofList_append, splitTerminator_append, String.ofList_toList]

end Mend.Text
