import Mend.Cli.Run
import Mend.Shell.Run
import Std.Data.HashMap
import Std.Time.DateTime.Timestamp

/-!
# The program

What the program does is `Cli.perform` on a disk. Here the part of the real disk that a command line is
about is read, and what has changed on it is written back.
-/

namespace Mend.Cli

open Fs (Disk Location Node Place)

/-- The text of a location. -/
def textOf (l : Location) : String := "/" ++ String.intercalate "/" l

/-- What an input does, or nothing if it cannot be done. -/
def attempt (act : IO α) : IO (Option α) := try some <$> act catch _ => return none

/-- The files and directories below a directory. A link is taken for the file that it leads to, and one
that leads to a directory is skipped. -/
partial def below (l : Location) : IO (List (Location × Node)) := do
  let dir ← IO.FS.realPath (textOf l)
  let entries ← dir.readDir
  let found ← entries.toList.mapM fun e => do
    let here := l ++ [e.fileName]
    match ← attempt e.path.symlinkMetadata with
    | some ⟨_, _, _, .dir, _⟩ => return (here, Node.dir) :: ((← attempt (below here)).getD [])
    | _ =>
      match ← attempt (IO.FS.readBinFile e.path) with
      | some content => return [(here, Node.file content Disk.newMode)]
      | none => return []
  return found.flatten

/-- The disk with what is below a directory, and with the directories that lead to it. -/
def load (d : Disk) (l : Location) : IO Disk := do
  let around := (List.range (l.length + 1)).map l.take
  let there ← around.filterM fun a => do
    return (← attempt do (← IO.FS.realPath (textOf a)).readDir).isSome
  let fresh := there.filter fun a => (d.node? a).isNone
  let inside ← if there.contains l then below l else pure []
  return (fresh.map (·, Node.dir) ++ inside).foldl (fun d e => d.put e.1 e.2) d

/-- Where the real files of a place are. -/
def located (p : Place) : IO Location := do
  match ← attempt (IO.FS.realPath (textOf p.location)) with
  | some real => return Place.steps real.toString
  | none => return p.location.filter fun s => s ≠ "" && s ≠ "."

/-- The disk with the directories that a request is about: its workspace, and the state directory and
the directory of the report if the configuration puts them elsewhere. -/
def loadFor (here : Place) (r : Request) : IO Disk := do
  let workspace := here.join r.workspace
  let d ← load .empty (← located workspace)
  let c := match Config.load workspace d, r.task with
    | .ok c, .run o _ => o.apply c
    | .ok c, _ => c
    | .error _, _ => {}
  let elsewhere ← [workspace.join c.stateDir, (workspace.join c.analysis.reportPath).parent].mapM located
  elsewhere.foldlM (fun d l => if (d.node? l).isSome then pure d else load d l) d

/-- Writes back what differs between two disks. -/
def writeBack (old new : Disk) : IO Unit := do
  let before := Std.HashMap.ofList old.entries
  let after := Std.HashMap.ofList new.entries
  let changed := new.entries.filter fun e => before[e.1]? ≠ some e.2
  for (l, n) in changed do
    if n = .dir then IO.FS.createDirAll (textOf l)
  for (l, n) in changed do
    if let .file content _ := n then IO.FS.writeBinFile (textOf l) content
  for (l, n) in old.entries.reverse do
    unless after.contains l do
      if n = .dir then IO.FS.removeDir (textOf l) else IO.FS.removeFile (textOf l)

/-- The moment. -/
def moment : IO Time := do
  let nanos := (← Std.Time.Timestamp.now).toNanosecondsSinceUnixEpoch.val
  return ⟨nanos / 1000000000, (nanos % 1000000000).toNat⟩

/-- A new name for a cycle at a moment. -/
def freshCycle (now : Time) : IO CycleId := do
  let noise ← IO.getRandomBytes 10
  return .ofParts (now.seconds.toNat * 1000 + now.nanos / 1000000)
    (noise.toList.foldl (fun n b => 256 * n + b.toNat) 0)

/-- Holds the lock of a workspace while something is done, which is told whether others hold it. -/
def holding (lock : String) (act : Bool → IO α) : IO α := do
  match ← attempt (IO.FS.Handle.mk lock .readWrite) with
  | none => act false
  | some h =>
    let mine ← h.tryLock
    let result ← act !mine
    if mine then h.unlock
    return result

/-- Carries out a command line on the real disk. -/
def execute (words : List String) : IO Outcome := do
  let here : Place := ⟨Place.steps (← IO.FS.realPath ".").toString, ""⟩
  let now ← moment
  let cycle ← freshCycle now
  let run := Shell.run now
  match parse words with
  | .error e => return refused .empty e
  | .ok r =>
    let disk ← loadFor here r
    let workspace := here.join r.workspace
    let c := match Config.load workspace disk with
      | .ok c => c
      | .error _ => {}
    let lock ← located (Ledger.Layout.of workspace c.stateDir).lock
    holding (textOf lock) fun taken => do
      let o := perform ⟨run, here, now, cycle, if taken then [lock] else []⟩ disk words
      writeBack disk o.disk
      return o

end Mend.Cli

/-- The program. -/
def main (words : List String) : IO UInt32 := do
  let o ← Mend.Cli.execute words
  IO.print o.out
  IO.eprint o.err
  return UInt32.ofNat o.code
