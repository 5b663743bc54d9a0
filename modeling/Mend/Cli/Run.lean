import Mend.Cli.Output
import Mend.Cli.Request
import Mend.Config.Document

/-!
# Carrying out requests

`perform` is the whole program but for its surroundings: from the words of a command line and a disk to
what is printed, the exit code and the disk as it is left. The exit code is 1 if a cycle failed or
something is not as it should be, and 2 if nothing could be done.
-/

namespace Mend.Cli

open Fs (Disk Place)

/-- The words for a failure and for what caused it, the outermost first. -/
abbrev Trace := List String

/-- What caused a failure of the ledger. -/
def causes : Ledger.Error → Trace
  | .io _ e => [e.message]
  | .damaged _ => [Ledger.unreadable]
  | .diff e => [e.message]
  | .path e => [e.message]
  | _ => []

/-- The trace of a failure to load a configuration. -/
def configTrace (e : Config.Error) : Trace :=
  e.message :: match e with
    | .read _ cause => [cause.message]
    | .parse _ => [Config.unreadable]
    | _ => []

/-- The trace of a failure of the engine. One of the ledger alone is told in its own words. -/
def engineTrace (e : Engine.Error) : Trace :=
  match e with
  | .ledger cause => cause.message :: causes cause
  | .config cause => e.message :: configTrace cause
  | _ => [e.message]

/-- The disk, and what was printed so far. -/
structure Session where
  disk : Disk
  out : String := ""
  err : String := ""

/-- A part of a task. -/
abbrev Step (α : Type) := Action Session Trace α

/-- Prints a line. -/
def say (s : String) : Step Unit := modify fun x => { x with out := x.out ++ s ++ "\n" }

/-- Prints a line to the people. -/
def complain (s : String) : Step Unit := modify fun x => { x with err := x.err ++ s ++ "\n" }

/-- Fails with a trace. -/
def orFail (trace : ε → Trace) (r : Except ε α) : Step α := Action.query fun _ => r.mapError trace

/-- What a request is carried out with. -/
structure Host where
  run : Runner
  /-- The directory that paths are taken from. -/
  place : Place
  now : Time
  /-- The name of the cycle, if one is run. -/
  cycle : CycleId
  /-- The files that others have locked. -/
  locked : List Fs.Location

/-- An action on a workspace whose stores are files. -/
def within (h : Host) (layout : Ledger.Layout) (act : Workspace.Step α) : Step α :=
  (act.mapError engineTrace).zoom (fun x => { Workspace.onDisk layout x.disk with held := h.locked })
    fun w x => { x with disk := w.disk }

/-- The configuration of a workspace. -/
def loadConfig (workspace : Place) : Step Config := do
  orFail (fun e => ("loading configuration for " ++ workspace.shown) :: configTrace e)
    (Config.load workspace (← get).disk)

/-- Runs a cycle. -/
def runCycle (h : Host) (workspace : Place) (o : Overrides) (json : Bool) : Step Nat := do
  let c ← loadConfig workspace
  let e ← orFail (fun e => "preparing the cycle" :: engineTrace (.config e))
    (Engine.open h.run workspace (o.apply c))
  let r : Except Engine.Error CycleResult ← within h e.layout (e.runCycle h.cycle h.now).outcome
  match r with
  | .ok result =>
    if json then say (resultJson result).pretty else (resultLines result).forM say
    return result.exitCode
  | .error err =>
    complain ("remedy: cycle not run: " ++ err.message ++ " [" ++ err.kind.name ++ "]")
    return 2

/-- Checks the attestation log. -/
def verifyChain (layout : Ledger.Layout) : Step Nat := do
  let w : Workspace := .onDisk layout (← get).disk
  match Attestation.Session.records ⟨w.disk, w.attestations⟩ with
  | .ok rs =>
    (chainLines rs).forM say
    return 0
  | .error e =>
    complain ("ATTESTATION CHAIN BROKEN: " ++ e.message)
    return 1

/-- Restores a snapshot. -/
def restore (h : Host) (workspace : Place) (layout : Ledger.Layout) (snapshot : Option String) : Step Nat := do
  let id ← snapshot.mapM fun s =>
    orFail (fun e => ["invalid snapshot id '" ++ s ++ "'", e.message]) (CycleId.parse s)
  let report ← within h layout <| Workspace.locking layout.lock <| Workspace.onSnapshots <|
    match id with
    | some id => Snapshot.restoreId id workspace
    | none => Snapshot.restoreLatest workspace
  (restoreLines report).forM say
  if report.isComplete then return 0
  else
    complain "remedy: files changed since the cycle were left as found"
    return 1

/-- Disables or enables a recipe that there is. -/
def changeTrust (h : Host) (layout : Ledger.Layout) (c : Config) (id : String) (disabled : Bool) : Step Unit := do
  let g ← orFail configTrace c.registry
  if !Ordered.contains g id then throw ["no recipe named '" ++ id ++ "'"]
  within h layout <| Workspace.locking layout.lock do
    Workspace.openTrust
    Workspace.onTrust (Trust.setDisabled id disabled)
  say (id ++ (if disabled then " disabled" else " enabled"))

/-- Lists the trust in the recipes. -/
def listTrust (h : Host) (layout : Ledger.Layout) : Step Nat := do
  let table ← within h layout do
    Workspace.openTrust
    return (← get).trust.table
  if table.isEmpty then say "no trust recorded yet"
  List.forM table fun e => say (trustLine e.1 e.2)
  return 0

/-- Lists the snapshots, the newest first. -/
def listSnapshots (layout : Ledger.Layout) : Step Nat := do
  let s : Snapshot.Session := ⟨(← get).disk, .directory layout.snapshots⟩
  let ids ← orFail (fun e => e.message :: causes e) s.list
  if ids.isEmpty then say "no snapshots"
  ids.forM fun id => say (snapshotLine id (s.load id))
  return 0

/-- Carries out a request and gives the exit code. -/
def carryOut (h : Host) (r : Request) : Step Nat := do
  let workspace := h.place.join r.workspace
  match r.task with
  | .run o json => runCycle h workspace o json
  | task =>
    let c ← loadConfig workspace
    let layout := Ledger.Layout.of workspace c.stateDir
    match task with
    | .restore snapshot => restore h workspace layout snapshot
    | .trust change =>
      if let some (id, disabled) := change then changeTrust h layout c id disabled
      listTrust h layout
    | .snapshots => listSnapshots layout
    | _ => verifyChain layout

/-- What the program leaves. -/
structure Outcome where
  code : Nat
  out : String
  err : String
  disk : Disk

/-- The version of the program. -/
def version : String := "0.1.0"

/-- What is printed to those who ask for help, or give a command line that cannot be read. -/
def usage : String :=
  "Usage: remedy [--log-json] <run|verify-chain|restore|trust|snapshots|help> [WORKSPACE] [OPTIONS]\n"

/-- The outcome of a command line that is not carried out. -/
def refused (disk : Disk) : Refusal → Outcome
  | .displayHelp => ⟨0, usage, "", disk⟩
  | .displayVersion => ⟨0, "remedy " ++ version ++ "\n", "", disk⟩
  | _ => ⟨2, "", usage, disk⟩

/-- Carries out a command line. -/
def perform (h : Host) (disk : Disk) (words : List String) : Outcome :=
  match parse words with
  | .error e => refused disk e
  | .ok r =>
    match (carryOut h r).exec { disk := disk } with
    | (.ok code, s) => ⟨code, s.out, s.err, s.disk⟩
    | (.error trace, s) => ⟨2, s.out, s.err ++ "remedy: " ++ String.intercalate ": " trace ++ "\n", s.disk⟩

end Mend.Cli
