import Mend.Text.Hex
import Mend.Digest.Sha256
import Mend.Digest.Blake3

/-!
# Digests

Thirty-two bytes, written as sixty-four lowercase hexadecimal digits. `Digest.content` names the
exact bytes of a file; `Digest.sha256` protects what is stored and read again.
-/

namespace Mend

/-- Thirty-two bytes that stand for a longer message. -/
structure Digest where
  bytes : Vector UInt8 32
  deriving DecidableEq, Repr

namespace Digest

/-- Why a text or a byte string is no digest. -/
inductive Error where
  | wrongLength (actual : Nat)
  | notHex (cause : Text.Hex.Error)
  deriving DecidableEq, Repr

/-- What is wrong with a text or byte string that should be a digest. -/
def Error.message : Error → String
  | .wrongLength n => "invalid hash length: expected 32, got " ++ toString n
  | .notHex e => "hex decode error: " ++ e.message

instance : ToString Error := ⟨Error.message⟩

/-- The digest that names a file's content. -/
def content (message : ByteArray) : Digest := ⟨Blake3.hash message⟩

/-- The digest of stored data. -/
def sha256 (message : ByteArray) : Digest := ⟨Sha256.hash message⟩

/-- The digest before the first link of a chain: all zeros. -/
def zero : Digest := ⟨Vector.replicate 32 0⟩

instance : Inhabited Digest := ⟨zero⟩

/-- A byte string of the right length, taken as a digest. -/
def ofList (bytes : List UInt8) : Except Error Digest :=
  if h : bytes.length = 32 then .ok ⟨⟨bytes.toArray, by simpa using h⟩⟩
  else .error (.wrongLength bytes.length)

/-- All sixty-four digits. -/
def toHex (d : Digest) : String := Text.Hex.encode d.bytes.toList

/-- The first sixteen digits. -/
def short (d : Digest) : String := Text.Hex.encode (d.bytes.toList.take 8)

/-- Reads sixty-four digits of either case. -/
def parse (s : String) : Except Error Digest :=
  match Text.Hex.decode s with
  | .ok bytes => ofList bytes
  | .error e => .error (.notHex e)

/-- Digests are ordered byte by byte. -/
def le (a b : Digest) : Bool := a.bytes.toList ≤ b.bytes.toList

instance : ToString Digest := ⟨toHex⟩

end Digest
end Mend
