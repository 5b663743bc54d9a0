import Mend.CycleId
import Mend.Digest.Basic
import Mend.Json.Parser
import Mend.Json.Printer
import Mend.Path
import Mend.Text.Utf8
import Mend.Time

/-!
# Values stored as documents

What is kept between runs is kept as JSON: a type is `Stored` when its values have a document and are
read back from one. A file holds one document on several lines, and a log one on every line. Digests, paths,
moments and identifiers stand in documents as the texts that they read from.
-/

namespace Mend

/-- The value of a computation that may fail, without the reason. -/
def value? : Except ε α → Option α
  | .ok a => some a
  | .error _ => none

namespace Json

/-- A digest, as its digits. -/
def ofDigest (d : Digest) : Json := .str d.toHex
/-- Reads a digest. -/
def digest? : Json → Option Digest := parsed? fun s => value? (Digest.parse s)

/-- A path, as its text. -/
def ofPath (p : RelPath) : Json := .str p.text
/-- Reads a path. -/
def path? : Json → Option RelPath := parsed? fun s => value? (RelPath.parse s)

/-- A moment, as its shortest text. -/
def ofTime (t : Time) : Json := .str t.toText
/-- Reads a moment. -/
def time? : Json → Option Time := parsed? Time.parse

/-- An identifier, as its digits. -/
def ofCycleId (c : CycleId) : Json := .str c.toText
/-- Reads an identifier. -/
def cycleId? : Json → Option CycleId := parsed? fun s => value? (CycleId.parse s)

/-- A value, or null for none. -/
def ofOption (write : α → Json) : Option α → Json
  | some a => write a
  | none => .null

end Json

/-- A type whose values have documents. -/
class Stored (α : Type) where
  toJson : α → Json
  ofJson? : Json → Option α

namespace Stored

/-- The document on one line. -/
def line [Stored α] (a : α) : String := (toJson a).compact

/-- The bytes of a file with the document. -/
def page [Stored α] (a : α) : ByteArray := Text.encode (toJson a).pretty

/-- Reads a text. -/
def ofText? [Stored α] (s : String) : Option α := (Json.parse s).bind ofJson?

/-- Reads the bytes of a file. -/
def ofBytes? [Stored α] (content : ByteArray) : Option α := (Json.parseBytes content).bind ofJson?

end Stored

instance : Stored Digest := ⟨Json.ofDigest, Json.digest?⟩
instance : Stored RelPath := ⟨Json.ofPath, Json.path?⟩
instance : Stored Time := ⟨Json.ofTime, Json.time?⟩
instance : Stored CycleId := ⟨Json.ofCycleId, Json.cycleId?⟩
instance [Stored α] : Stored (List α) := ⟨fun xs => .arr (xs.map Stored.toJson), Json.list? Stored.ofJson?⟩

end Mend
