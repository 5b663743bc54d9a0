import Mend.Digest.Basic

/-!
# Digests of field lists

Each field is preceded by its length in eight bytes, least significant first, so that the byte
stream tells where one field ends and the next begins.
-/

namespace Mend.Digest

/-- A number as eight bytes, least significant first. -/
def wordBytes (n : UInt64) : List UInt8 :=
  (List.range 8).map fun k => (n >>> UInt64.ofNat (8 * k)).toUInt8

/-- One part of a record that is digested as a whole. -/
inductive Field where
  | bytes (content : ByteArray)
  | text (content : String)
  | number (value : UInt64)

/-- The bytes a field stands for. -/
def Field.payload : Field → ByteArray
  | .bytes b => b
  | .text s => s.toUTF8
  | .number n => ⟨(wordBytes n).toArray⟩

/-- A field's length and its bytes. -/
def frame (payload : ByteArray) : ByteArray :=
  ⟨(wordBytes (UInt64.ofNat payload.size)).toArray⟩ ++ payload

/-- The frames of all fields, one after the other. -/
def framed (payloads : List ByteArray) : ByteArray :=
  payloads.foldl (fun acc p => acc ++ frame p) ByteArray.empty

/-- The digest of a list of fields. -/
def ofFields (fields : List Field) : Digest := sha256 (framed (fields.map Field.payload))

end Mend.Digest
