import Mend.Posix.Regular

/-!
# Programs for records

A program looks at a text record by record, cut into fields, and carries out actions on the records that
patterns pick. Values are numbers and texts; variables may be arrays with texts as keys.
-/

namespace Mend.Shell.Awk

/-- An operator between numbers. -/
inductive NumberOp where
  | add | sub | mul | div | mod | pow
  deriving DecidableEq, Repr

/-- A comparison. -/
inductive Relation where
  | lt | le | eq | ne | gt | ge
  deriving DecidableEq, Repr

/-- Where a record is read from. -/
inductive Source where
  /-- The input of the program. -/
  | input
  | file
  | command
  deriving DecidableEq, Repr

/-- Where a text is printed to. -/
inductive Sink where
  | file (append : Bool)
  | command
  deriving DecidableEq, Repr

/-- An expression. -/
inductive Expr where
  | number (x : Float)
  | string (s : String)
  /-- The record matches. -/
  | regular (r : Posix.Regular)
  | variable (name : String)
  | element (array : String) (keys : List Expr)
  | field (index : Expr)
  | assign (target : Expr) (op : Option NumberOp) (value : Expr)
  /-- Adds to a variable and gives the new value, or the old one. -/
  | step (target : Expr) (up old : Bool)
  | choice (test yes no : Expr)
  | both (a b : Expr)
  | either (a b : Expr)
  | not (a : Expr)
  | minus (a : Expr)
  | plus (a : Expr)
  | member (keys : List Expr) (array : String)
  | matched (a pattern : Expr) (negated : Bool)
  | compare (r : Relation) (a b : Expr)
  | arithmetic (op : NumberOp) (a b : Expr)
  | concat (a b : Expr)
  | call (name : String) (arguments : List Expr)
  /-- Reads a record, into a variable if there is one. -/
  | getline (source : Source) (name : Option Expr) (target : Option Expr)
  | group (a : Expr)
  deriving Inhabited

/-- A statement. -/
inductive Stmt where
  | expr (e : Expr)
  | print (values : List Expr) (sink : Option (Sink × Expr))
  | printf (values : List Expr) (sink : Option (Sink × Expr))
  | block (body : List Stmt)
  | choose (test : Expr) (yes : Stmt) (no : Option Stmt)
  | loop (test : Option Expr) (body : Stmt) (step : Option Stmt)
  /-- Runs the body before the first test. -/
  | loopAfter (body : Stmt) (test : Expr)
  | each (name array : String) (body : Stmt)
  | delete (array : String) (keys : List Expr)
  | break_
  | continue_
  | next
  | nextFile
  | exit (code : Option Expr)
  | return_ (value : Option Expr)
  deriving Inhabited

/-- The records that an action is for. -/
inductive Pattern where
  | start
  | finish
  | all
  | one (e : Expr)
  /-- From a record to another. -/
  | range (first last : Expr)

/-- A pattern and its action. -/
structure Rule where
  pattern : Pattern
  /-- None prints the record. -/
  action : Option (List Stmt)

/-- A function with the names of its parameters. -/
structure Function where
  name : String
  parameters : List String
  body : List Stmt

/-- A program. -/
structure Program where
  rules : List Rule := []
  functions : List Function := []

end Mend.Shell.Awk
