import Mend.Decimal.Text
import Mend.Engine.Phase
import Mend.Fs.Place
import Mend.Ledger.Snapshot
import Mend.Recipe.Registry

/-!
# Configuration

A configuration sets the limits of a cycle, where its input comes from and how the result is built.
Every field has a usual value. `Config.validate` tells the first field that is out of its range.
-/

namespace Mend

namespace Config

/-- How many seconds each phase may take. Zero sets no limit. -/
structure Timeouts where
  observe : Nat := 120
  decide : Nat := 30
  act : Nat := 120
  verify : Nat := 900
  deriving DecidableEq, Repr, Inhabited

/-- When the files of a batch are worked on at the same time. -/
structure Parallel where
  workers : Option Nat := none
  /-- The fewest files that are worth it. -/
  minFiles : Nat := 50
  deriving DecidableEq, Repr, Inhabited

/-- Where the report of the analyzer comes from. -/
structure Analysis where
  reportPath : String := ".remedy/analysis.json"
  /-- A command that prints the report; it goes before the file. -/
  command : Option (List String) := none
  deriving DecidableEq, Repr, Inhabited

/-- Why there is no configuration. -/
inductive Error where
  | read (place : Fs.Place) (cause : Fs.Error)
  /-- The document at the place of that name is none, or not one of a configuration. -/
  | parse (shown : String)
  | invalid (field reason : String)
  | recipe (reason : String)
  deriving DecidableEq, Repr

/-- What stands for the reason why a configuration document cannot be read. -/
def unreadable : String := "no such configuration"

/-- The words for a failure. -/
def Error.message : Error → String
  | .read p cause => "cannot read " ++ p.shown ++ ": " ++ cause.message
  | .parse shown => "invalid config " ++ shown ++ ": " ++ unreadable
  | .invalid field reason => "invalid value for " ++ field ++ ": " ++ reason
  | .recipe reason => "invalid recipe: " ++ reason

instance : ToString Error := ⟨Error.message⟩

end Config

/-- The configuration of the engine. -/
structure Config where
  /-- How many files a cycle may change. -/
  maxFiles : Nat := 5
  /-- How many lines of a file a cycle may change. -/
  maxLines : Count := 40
  /-- The score that an action needs. -/
  minScore : Float := 0.2
  learningRate : Float := 0.1
  /-- How many seconds old a report may be. -/
  maxInputAge : Nat := 300
  /-- The part of the issues that has to go for a full success. -/
  marginalImprovement : Float := 0
  stateDir : String := ".remedy"
  /-- How many milliseconds to wait for the lock. -/
  lockWait : Nat := 0
  retention : Snapshot.Retention := {}
  timeouts : Config.Timeouts := {}
  parallel : Config.Parallel := {}
  analysis : Config.Analysis := {}
  buildCommand : Option (List String) := none
  substitutions : List Substitution.Declared := []
  deriving Inhabited

namespace Config

/-- The limit of a phase in seconds, if it has one. -/
def Timeouts.limit? (t : Timeouts) (p : Phase) : Option Nat :=
  let seconds := match p with
    | .observe => t.observe
    | .decide => t.decide
    | .act => t.act
    | .verify => t.verify
    | _ => 0
  if seconds = 0 then none else some seconds

/-- How many files of a batch are worked on at the same time, if it is more than one. -/
def Parallel.workersFor? (p : Parallel) (files : Nat) : Option Nat :=
  p.workers.filter fun w => 1 < w && p.minFiles ≤ files

/-- A part of one, the ends included. -/
def isPart (x : Float) : Bool := 0 ≤ x && x ≤ 1

/-- A number as it stands in a message. -/
def shown (x : Float) : String := Decimal.Layout.message.text x

/-- The rules for the fields in the order in which they are checked: the field, what is wrong with
it, and whether it is. -/
def rules (c : Config) : List (String × String × Bool) :=
  [("max_files", "must be at least 1", c.maxFiles = 0),
    ("max_loc_per_file", "must be at least 1", c.maxLines = 0),
    ("min_trust_threshold", shown c.minScore ++ " is outside [0, 1]", !isPart c.minScore),
    ("marginal_improvement", shown c.marginalImprovement ++ " is outside [0, 1]",
      !isPart c.marginalImprovement),
    ("learning_rate", shown c.learningRate ++ " is outside (0, 1]",
      !(0 < c.learningRate && c.learningRate ≤ 1)),
    ("max_input_age_secs", "must be at least 1", c.maxInputAge = 0),
    ("state_dir", "must be a relative directory", c.stateDir = "" || HostPath.isAbsolute c.stateDir),
    ("snapshot_retention.max_count", "must keep at least 1", c.retention.maxCount = 0),
    ("parallel.workers", "must be at least 1", c.parallel.workers = some 0),
    ("analysis.command", "must not be empty", c.analysis.command = some []),
    ("build.command", "must not be empty", c.buildCommand = some [])]

/-- Checks that every field is in its range. -/
def validate (c : Config) : Except Error Unit :=
  match c.rules.find? fun r => r.2.2 with
  | some (field, reason, _) => .error (.invalid field reason)
  | none => .ok ()

/-- Registers substitutions in their order. -/
def registerAll (g : Registry) : List Substitution.Declared → Except Error Registry
  | [] => .ok g
  | d :: rest =>
    match Recipe.ofDeclared d with
    | .error e => .error (.recipe e.message)
    | .ok r =>
      match Registry.register g r with
      | .error e => .error (.recipe e.message)
      | .ok g => registerAll g rest

/-- The usual recipes and the configured substitutions. -/
def registry (c : Config) : Except Error Registry := registerAll Registry.usual c.substitutions

end Config
end Mend
