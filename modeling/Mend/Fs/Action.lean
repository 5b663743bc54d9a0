import Mend.Fs.Disk

/-!
# Actions

An action works on a state and may fail; what it did to the state before it failed stays done.
-/

namespace Mend

/-- A computation on a state that may fail and keeps the state when it does. -/
abbrev Action (σ ε α : Type) := ExceptT ε (StateM σ) α

namespace Action

variable {σ τ ε δ α : Type}

/-- Runs an action: its result, and the state it leaves. -/
def exec (act : Action σ ε α) (s : σ) : Except ε α × σ := act.run.run s

/-- An action from its effect on the state. -/
def ofFun (f : σ → Except ε α × σ) : Action σ ε α := ExceptT.mk (StateT.mk f)

/-- The outcome of an action as a value, its failure included. -/
def outcome (act : Action σ ε α) : Action σ δ (Except ε α) :=
  ofFun fun s =>
    let (r, s) := act.exec s
    (.ok r, s)

/-- The action with another kind of failure. -/
def mapError (f : ε → δ) (act : Action σ ε α) : Action σ δ α :=
  ofFun fun s =>
    match act.exec s with
    | (.ok a, s) => (.ok a, s)
    | (.error e, s) => (.error (f e), s)

/-- The action on a part of a larger state. -/
def zoom (get : τ → σ) (set : σ → τ → τ) (act : Action σ ε α) : Action τ ε α :=
  ofFun fun t =>
    let (r, s) := act.exec (get t)
    (r, set s t)

/-- Reads something off the state, or fails. -/
def query (f : σ → Except ε α) : Action σ ε α := ofFun fun s => (f s, s)

/-- Changes the state, or fails and leaves it. -/
def update (f : σ → Except ε σ) : Action σ ε Unit :=
  ofFun fun s =>
    match f s with
    | .ok s => (.ok (), s)
    | .error e => (.error e, s)

end Action

namespace Fs

/-- An action on a disk. -/
abbrev DiskAction (ε α : Type) := Action Disk ε α

end Fs
end Mend
