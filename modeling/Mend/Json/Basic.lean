/-!
# Document values

The values that a JSON text spells. Fields keep their order and may repeat. A number is whole when
its text has neither point nor exponent and it fits the machine's integers; otherwise it is real.
-/

namespace Mend

/-- A value of a JSON text. -/
inductive Json where
  | null
  | bool (value : Bool)
  | int (value : Int)
  | real (value : Float)
  | str (value : String)
  | arr (items : List Json)
  | obj (fields : List (String × Json))
  /-- A text that follows the grammar and yet has no value: half of a surrogate pair, or a number
  beyond every range. It may stand where a value is skipped, and nowhere else. -/
  | noValue
  deriving Inhabited

namespace Json

/-- The value of the first field of that name. -/
def field? (j : Json) (name : String) : Option Json :=
  match j with
  | .obj fields => fields.lookup name
  | _ => none

/-! ## Reading parts of a document -/

/-- What a record's text says of one of its fields. -/
inductive Slot where
  | given (value : Json)
  /-- The record is written by name and has no such field. -/
  | absent
  /-- The record is written as a list that ends before this field. -/
  | cutOff

/-- The fields of a record, which may be written by name or as a list in their order. A field must
not be given twice. Fields of other names are skipped, or refused if the record is `closed`. -/
def slots (names : List String) (closed : Bool) : Json → Option (List Slot)
  | .obj fields =>
    let known := fields.filter fun f => names.contains f.1
    if closed && known.length ≠ fields.length then none
    else
      let found := names.map fun n => (known.filter fun f => f.1 == n).map Prod.snd
      if found.all fun vs => vs.length ≤ 1 then
        some (found.map fun
          | v :: _ => .given v
          | [] => .absent)
      else none
  | .arr items =>
    if items.length > names.length then none
    else some (items.map .given ++ List.replicate (names.length - items.length) .cutOff)
  | _ => none

namespace Slot

/-- A field that must be there. -/
def required (read : Json → Option α) : Slot → Option α
  | .given v => read v
  | _ => none

/-- A field that has a value of its own when it is missing. -/
def withDefault (read : Json → Option α) (missing : α) : Slot → Option α
  | .given v => read v
  | _ => some missing

/-- A field that may be missing by name, or be null. -/
def optional (read : Json → Option α) : Slot → Option (Option α)
  | .given .null => some none
  | .given v => (read v).map some
  | .absent => some none
  | .cutOff => none

/-- An optional field that may also be missing at the end of a list. -/
def optionalAtEnd (read : Json → Option α) : Slot → Option (Option α)
  | .given .null => some none
  | .given v => (read v).map some
  | _ => some none

end Slot

/-- A text. -/
def text? : Json → Option String
  | .str s => some s
  | _ => none

/-- A truth value. -/
def bool? : Json → Option Bool
  | .bool b => some b
  | _ => none

/-- A whole number of at most `bits` bits without a sign. -/
def nat? (bits : Nat) : Json → Option Nat
  | .int n => if 0 ≤ n ∧ n < Int.ofNat (Nat.pow 2 bits) then some n.toNat else none
  | _ => none

/-- A whole number of `bits` bits with a sign. -/
def int? (bits : Nat) : Json → Option Int
  | .int n =>
    let bound := Int.ofNat (Nat.pow 2 (bits - 1))
    if -bound ≤ n ∧ n < bound then some n else none
  | _ => none

/-- A number; whole ones are taken as real. -/
def float? : Json → Option Float
  | .real x => some x
  | .int n =>
    if 0 ≤ n then some (UInt64.ofNat n.toNat).toFloat
    else some (-(UInt64.ofNat (-n).toNat).toFloat)
  | _ => none

/-- A list whose items all read. -/
def list? (read : Json → Option α) : Json → Option (List α)
  | .arr items => items.mapM read
  | _ => none

/-- A value, or null for none. -/
def option? (read : Json → Option α) : Json → Option (Option α)
  | .null => some none
  | v => (read v).map some

/-- Whether a value says nothing in a JSON text. -/
def isNull : Json → Bool
  | .null => true
  | _ => false

/-- One of a set of names, alone or as the only field of a record with a value that says nothing. -/
def variant? (isNothing : Json → Bool) (read : String → Option α) : Json → Option α
  | .str s => read s
  | .obj [(s, v)] => if isNothing v then read s else none
  | _ => none

/-- One of a set of names in a JSON text. -/
def name? (read : String → Option α) : Json → Option α := variant? isNull read

/-- A text that a reader of texts accepts. -/
def parsed? (read : String → Option α) : Json → Option α
  | .str s => read s
  | _ => none

end Json
end Mend
