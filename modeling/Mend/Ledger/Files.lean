import Mend.Fs.Action
import Mend.Ledger.Error

/-!
# Files of the ledger

`atomicWrite` replaces a file through a temporary file beside it, so that nobody sees a part of the
new content, and `appendLine` adds a line to a log without joining it to one that was cut short.
-/

namespace Mend.Ledger

open Fs (Disk DiskAction Place)

/-- A failure of the file system at a place. -/
def at_ (p : Place) (r : Except Fs.Error α) : Except Error α :=
  match r with
  | .ok a => .ok a
  | .error e => .error (.io p e)

/-- Makes the directory around a place. -/
def makeParent (p : Place) : DiskAction Error Unit :=
  Action.ofFun fun d =>
    let (r, d) := d.mkdirs p.parent.location
    (at_ p.parent r, d)

/-- What is appended to a file's name for the time of a write. -/
def temporarySuffix : String := ".remedy-tmp"

/-- The temporary file beside a place. -/
def temporary (p : Place) : Place := p.suffixed temporarySuffix

/-- Replaces a file's content in one step, making the directories around it. The permissions of a
file that is replaced are kept. -/
def atomicWrite (p : Place) (content : ByteArray) : DiskAction Error Unit := do
  makeParent p
  let mode ← Action.query fun d =>
    match d.find p.location with
    | .ok (.file _ mode) => .ok (some mode)
    | .ok .dir => .ok none
    | .error .notFound => .ok none
    | .error e => .error (.io p e)
  let t := temporary p
  Action.update fun d => at_ t (d.write t.location content)
  match mode with
  | some mode => Action.update fun d => at_ t (d.chmod t.location mode)
  | none => pure ()
  Action.ofFun fun d =>
    match d.rename t.location p.location with
    | .ok d => (.ok (), d)
    | .error e =>
      let d := match d.unlink t.location with
        | .ok d => d
        | .error _ => d
      (.error (.io p e), d)

/-- A log that a line can follow: empty, or ended by a line feed. -/
def terminated (log : ByteArray) : ByteArray :=
  if log.size = 0 || log.get! (log.size - 1) = 10 then log else log.push 10

/-- The log with one line more. -/
def withLine (log : ByteArray) (line : String) : ByteArray := terminated log ++ (line ++ "\n").toUTF8

/-- Adds a line to a file, making the file and the directories around it. -/
def appendLine (p : Place) (line : String) : DiskAction Error Unit := do
  makeParent p
  Action.update fun d => at_ p do
    let d ← d.touch p.location
    let log ← d.read p.location
    d.write p.location (withLine log line)

/-- The bytes of a file; none if there is no file. -/
def readOrEmpty (p : Place) (d : Disk) : Except Error ByteArray :=
  match d.read p.location with
  | .ok content => .ok content
  | .error .notFound => .ok ByteArray.empty
  | .error e => .error (.io p e)

end Mend.Ledger
