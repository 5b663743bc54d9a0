import Mend.Digest.Basic
import Mend.Shell.Utility.File

/-!
# Bytes as text

Utilities that print digests of files, and bytes as digits or letters.
-/

namespace Mend.Shell

open Text

/-- Prints the digests of files, or with `-c` compares them with those in a list. -/
def digests (who : String) (digest : ByteArray → String) : Utility :=
  withOptions who { letters := "btcqsw", long := [("check", 'c'), ("quiet", 'q'), ("status", 's')] } 1 fun g => do
  if g.has 'c' then
    let (text, code) ← allSources who 1 g.operands
    let results ← (lines text).mapM fun l => do
      let (expected, rest) := l.toList.span (· ≠ ' ')
      let name := String.ofList (rest.drop 2)
      match ← readFile name with
      | .ok s =>
        let good := digest (Octets.toBytes s) = String.ofList expected
        if !g.has 's' && !(g.has 'q' && good) then sayLine (name ++ ": " ++ (if good then "OK" else "FAILED"))
        return good
      | .error e =>
        complain who (name ++ ": " ++ e.words)
        if !g.has 's' then sayLine (name ++ ": FAILED open or read")
        return false
    return if results.all id then code else 1
  else onSources who 1 g.operands fun name text => sayLine (digest (Octets.toBytes text) ++ "  " ++ name)

/-- Prints the SHA-256 digests of files. -/
def sha256sum : Utility := digests "sha256sum" fun b => (Digest.sha256 b).toHex

/-- The letters of the code that writes three bytes as four letters. -/
def sixtyFour : Array Char :=
  "ABCDEFGHIJKLMNOPQRSTUVWXYZabcdefghijklmnopqrstuvwxyz0123456789+/".toList.toArray

/-- Bytes written with four letters for three of them. -/
def encodeSixtyFour : List Char → List Char
  | a :: b :: c :: r =>
    let n := a.toNat * 65536 + b.toNat * 256 + c.toNat
    [n / 262144, n / 4096 % 64, n / 64 % 64, n % 64].map (fun i => (sixtyFour[i]?).getD 'A') ++ encodeSixtyFour r
  | [a, b] =>
    let n := a.toNat * 65536 + b.toNat * 256
    [n / 262144, n / 4096 % 64, n / 64 % 64].map (fun i => (sixtyFour[i]?).getD 'A') ++ ['=']
  | [a] =>
    let n := a.toNat * 65536
    [n / 262144, n / 4096 % 64].map (fun i => (sixtyFour[i]?).getD 'A') ++ ['=', '=']
  | [] => []

/-- The bytes that letters stand for, four letters at a time. -/
def decodeSixtyFour (cs : List Char) : List Char :=
  let values := (cs.takeWhile (· ≠ '=')).filterMap fun c => sixtyFour.toList.idxOf? c
  go values
where
  /-- The bytes of the values of letters. -/
  go : List Nat → List Char
  | a :: b :: c :: d :: r =>
    let n := a * 262144 + b * 4096 + c * 64 + d
    [n / 65536, n / 256 % 256, n % 256].map Char.ofNat ++ go r
  | [a, b, c] => let n := a * 262144 + b * 4096 + c * 64; [n / 65536, n / 256 % 256].map Char.ofNat
  | [a, b] => [Char.ofNat ((a * 262144 + b * 4096) / 65536)]
  | _ => []

/-- Pieces of a length. -/
def chunked {α : Type} (n : Nat) (fuel : Nat) (cs : List α) : List (List α) :=
  match fuel with
  | 0 => []
  | fuel + 1 => if cs.isEmpty then [] else cs.take n :: chunked n fuel (cs.drop n)

/-- Writes bytes with letters, or reads them back. -/
def base64 : Utility :=
  withOptions "base64" { letters := "di", valued := "w", long := [("decode", 'd'), ("wrap", 'w')] } 1 fun g =>
  onSources "base64" 1 g.operands fun _ text => do
    if g.has 'd' then say (String.ofList (decodeSixtyFour text.toList))
    else
      let width := ((g.value? 'w').bind String.toNat?).getD 76
      let letters := encodeSixtyFour text.toList
      if width = 0 then say (String.ofList letters)
      else say (unlines ((chunked width (letters.length + 1) letters).map String.ofList))

/-- Two digits of base sixteen for a byte. -/
def hexByte (c : Char) : String :=
  let ds := Nat.toDigits 16 c.toNat
  String.ofList (if ds.length < 2 then '0' :: ds else ds)

/-- A byte as a letter, an escape or digits of base eight. -/
def shownByte (c : Char) : String :=
  let escape : List (Char × String) :=
    [('\x00', "\\0"), ('\x07', "\\a"), ('\x08', "\\b"), ('\t', "\\t"), ('\n', "\\n"), ('\x0b', "\\v"), ('\x0c', "\\f"),
      ('\r', "\\r")]
  match escape.lookup c with
  | some s => s
  | none =>
    if 32 ≤ c.toNat && c.toNat < 127 then c.toString
    else Time.padded 3 ((String.ofList (Nat.toDigits 8 c.toNat)).toNat?.getD 0)

/-- Prints bytes as digits or letters, sixteen on a line. -/
def od : Utility :=
  withOptions "od" { letters := "cbxovd", valued := "AtNjw" } 1 fun g => do
  let (text, code) ← allSources "od" 1 g.operands
  let text := match (g.value? 'N').bind sized? with
    | some n => text.toList.take n
    | none => text.toList
  let base := (g.value? 'A').getD "o"
  let address (n : Nat) : String :=
    if base = "n" then ""
    else if base = "d" then Time.padded 7 n
    else if base = "x" then String.ofList (List.replicate (6 - (Nat.toDigits 16 n).length) '0' ++ Nat.toDigits 16 n)
    else String.ofList (List.replicate (7 - (Nat.toDigits 8 n).length) '0' ++ Nat.toDigits 8 n)
  let kind := if g.has 'c' then "c" else (g.value? 't').getD (if g.has 'b' then "o1" else "o2")
  let octal (width n : Nat) : String :=
    let ds := Nat.toDigits 8 n
    String.ofList (List.replicate (width - ds.length) '0' ++ ds)
  let pairs (cs : List Char) : List Nat := (chunked 2 (cs.length + 1) cs).map fun p =>
    ((p[0]?).map Char.toNat).getD 0 + 256 * ((p[1]?).map Char.toNat).getD 0
  let row (cs : List Char) : String :=
    if kind = "c" then String.join (cs.map fun c => padLeft 4 (shownByte c))
    else if kind = "x1" then String.join (cs.map fun c => " " ++ hexByte c)
    else if kind = "u1" || kind = "d1" then String.join (cs.map fun c => padLeft 4 (toString c.toNat))
    else if kind = "o1" then String.join (cs.map fun c => " " ++ octal 3 c.toNat)
    else String.join ((pairs cs).map fun n => " " ++ octal 6 n)
  for (cs, i) in (chunked 16 (text.length + 1) text).zipIdx do sayLine (address (16 * i) ++ row cs)
  if base ≠ "n" then sayLine (address text.length)
  return code

end Mend.Shell
