/-!
# Shell scripts

The scripts that a build or an analyzer may be: lists of statements that run programs, with quoting,
variables, redirections, pipes and the usual control flow. There are two dialects, a plain one and a
richer one.
-/

namespace Mend.Shell

/-- Which scripts a shell understands. -/
inductive Dialect where
  | plain
  | rich
  deriving DecidableEq, Repr, Inhabited

mutual

/-- A part of a word. -/
inductive Part where
  /-- Bytes that stand for themselves. Those that are not quoted may be part of a pattern. -/
  | text (bytes : List Char) (quoted : Bool)
  | parameter (name : String) (use : Use) (quoted : Bool)
  /-- What a script prints. -/
  | output (script : List Statement) (quoted : Bool)
  /-- The value of an arithmetic expression. -/
  | number (expression : List Part) (quoted : Bool)

/-- What is made of the value of a variable. Where `orEmpty` is set an empty value counts as none. -/
inductive Use where
  | value
  | length
  /-- A word in place of a missing value. -/
  | orElse (orEmpty : Bool) (word : List Part)
  /-- Sets the variable to a word if it has no value. -/
  | orSet (orEmpty : Bool) (word : List Part)
  /-- Ends the script with a message if there is no value. -/
  | orFail (orEmpty : Bool) (word : List Part)
  /-- A word in place of a value, and nothing in place of none. -/
  | instead (orEmpty : Bool) (word : List Part)
  /-- The value without what a pattern matches at one of its ends. -/
  | cut (atEnd longest : Bool) (pattern : List Part)
  /-- Bytes of the value from a place on. -/
  | slice (start : List Part) (count : Option (List Part))
  /-- The value with matches of a pattern replaced: the first one, all of them, or one at an end. -/
  | replace (place : Replaced) (pattern word : List Part)
  /-- The value with letters of another case, the first or all. -/
  | recase (upper all : Bool)
  /-- The value of the variable that the value names. -/
  | indirect

/-- Which matches of a pattern are replaced. -/
inductive Replaced where
  | first
  | all
  | atStart
  | atEnd

/-- Where a statement reads from or prints to. -/
inductive Redirect where
  | input (stream : Nat) (file : List Part)
  /-- To a file, which is emptied first unless `append` is set. -/
  | output (stream : Nat) (file : List Part) (append clobber : Bool)
  /-- What is printed and the messages to one file. -/
  | outputs (file : List Part) (append : Bool)
  /-- One stream becomes another, or is closed. -/
  | copy (stream : Nat) (other : List Part)
  /-- From a text in the script. -/
  | document (stream : Nat) (text : List Part)

/-- A condition of the richer dialect. -/
inductive Condition where
  | word (w : List Part)
  | unary (op : String) (w : List Part)
  | binary (op : String) (a b : List Part)
  | not (c : Condition)
  | both (c d : Condition)
  | either (c d : Condition)

/-- A variable that a command sets, or adds to. -/
inductive Setting where
  | mk (name : String) (append : Bool) (value : List Part)

/-- A branch of a selection: its patterns and what it runs. -/
inductive Branch where
  | mk (patterns : List (List Part)) (body : List Statement)

/-- A statement. A list of statements is run in its order. -/
inductive Statement where
  | simple (settings : List Setting) (words : List (List Part)) (redirects : List Redirect)
  | redirected (body : Statement) (redirects : List Redirect)
  /-- Each stage reads what the one before it prints. -/
  | pipe (stages : List Statement)
  | negated (body : Statement)
  | both (first second : Statement)
  | either (first second : Statement)
  | background (body : Statement)
  | block (body : List Statement)
  | subshell (body : List Statement)
  | choose (test yes no : List Statement)
  /-- Runs the body as long as the test succeeds, or fails if `inverted`. -/
  | loop (inverted : Bool) (test body : List Statement)
  /-- Runs the body for each word, or for each argument of the script. -/
  | each (name : String) (words : Option (List (List Part))) (body : List Statement)
  | select (word : List Part) (branches : List Branch)
  | define (name : String) (body : Statement)
  | compute (expression : List Part)
  | condition (test : Condition)
  /-- A loop with an expression before it, one that goes on, and one after each turn. -/
  | count (start test step : List Part) (body : List Statement)

end

instance : Inhabited Statement := ⟨.block []⟩
instance : Inhabited Part := ⟨.text [] false⟩

/-- A word. -/
abbrev Word := List Part
/-- A script. -/
abbrev Script := List Statement

end Mend.Shell
