import Mathlib.Data.List.TakeDrop
import Mend.Json.Parser
import Mend.Json.Printer
import Mend.Proofs.Digits

/-!
# Reading what was written

A document of null, truth values, counts, texts, lists and records is read back from what it is written
as, on one line (`parse_compact`) or on several (`parse_pretty`). Both ways of writing are one, `spell`,
that differ in their blanks only.

What is written on one line has no line feed in it (`newline_not_mem_compact`).
-/

namespace Mend.Json

/-! ## Writing with blanks -/

/-- The blanks of a way of writing: before an item at a depth, and after a colon. -/
structure Blanks where
  line : Nat → List Char
  gap : List Char
  line_blank : ∀ depth, ∀ c ∈ line depth, isBlank c
  gap_blank : ∀ c ∈ gap, isBlank c

/-- No blanks. -/
def Blanks.none : Blanks := ⟨fun _ => [], [], by simp, by simp⟩

/-- A line for each item. -/
def Blanks.lines : Blanks where
  line depth := '\n' :: List.replicate (2 * depth) ' '
  gap := [' ']
  line_blank depth c hc := by
    rcases List.mem_cons.mp hc with rfl | hc
    · rfl
    · rw [List.eq_of_mem_replicate hc]; rfl
  gap_blank c hc := by rw [List.mem_singleton.mp hc]; rfl

mutual

/-- The value at a depth. -/
def spell (b : Blanks) (depth : Nat) : Json → List Char
  | .arr [] => ['[', ']']
  | .obj [] => ['\x7b', '\x7d']
  | .arr items => '[' :: (spellItems b (depth + 1) items ++ (b.line depth ++ [']']))
  | .obj fields => '\x7b' :: (spellFields b (depth + 1) fields ++ (b.line depth ++ ['\x7d']))
  | .null => "null".toList
  | .bool v => if v then "true".toList else "false".toList
  | .int n => (toString n).toList
  | .real x => (Decimal.Layout.document.text x).toList
  | .str s => (quote s).toList
  | .noValue => "null".toList

/-- Items with commas between them. -/
def spellItems (b : Blanks) (depth : Nat) : List Json → List Char
  | [] => []
  | [v] => b.line depth ++ spell b depth v
  | v :: w :: rest => b.line depth ++ (spell b depth v ++ ',' :: spellItems b depth (w :: rest))

/-- Fields with commas between them. -/
def spellFields (b : Blanks) (depth : Nat) : List (String × Json) → List Char
  | [] => []
  | [(k, v)] => b.line depth ++ ((quote k).toList ++ ':' :: (b.gap ++ spell b depth v))
  | (k, v) :: f :: rest =>
    b.line depth ++ ((quote k).toList ++ ':' :: (b.gap ++ (spell b depth v ++ ',' :: spellFields b depth (f :: rest))))

end

mutual

theorem toList_compact (depth : Nat) : (j : Json) → (compact j).toList = spell .none depth j
  | .arr [] => by simp [compact, compactItems, spell]
  | .obj [] => by simp [compact, compactFields, spell]
  | .arr (v :: rest) => by
    simp [compact, spell, toList_compactItems (depth + 1) (v :: rest), Blanks.none]
  | .obj (f :: rest) => by
    simp [compact, spell, toList_compactFields (depth + 1) (f :: rest), Blanks.none]
  | .null => by simp [compact, spell]
  | .bool v => by cases v <;> simp [compact, spell]
  | .int n => by simp [compact, spell]
  | .real x => by simp [compact, spell]
  | .str s => by simp [compact, spell]
  | .noValue => by simp [compact, spell]

theorem toList_compactItems (depth : Nat) :
    (items : List Json) → (compactItems items).toList = spellItems .none depth items
  | [] => by simp [compactItems, spellItems]
  | [v] => by simp [compactItems, spellItems, toList_compact depth v, Blanks.none]
  | v :: w :: rest => by
    simp [compactItems, spellItems, toList_compact depth v, toList_compactItems depth (w :: rest), Blanks.none]

theorem toList_compactFields (depth : Nat) :
    (fields : List (String × Json)) → (compactFields fields).toList = spellFields .none depth fields
  | [] => by simp [compactFields, spellFields]
  | [(k, v)] => by simp [compactFields, spellFields, toList_compact depth v, Blanks.none]
  | (k, v) :: f :: rest => by
    simp [compactFields, spellFields, toList_compact depth v, toList_compactFields depth (f :: rest), Blanks.none]

end

mutual

theorem toList_prettyAt (depth : Nat) : (j : Json) → (prettyAt depth j).toList = spell .lines depth j
  | .arr [] => by simp [prettyAt, spell]
  | .obj [] => by simp [prettyAt, spell]
  | .arr (v :: rest) => by
    simp [prettyAt, spell, toList_prettyItems (depth + 1) (v :: rest), Blanks.lines, newline]
  | .obj (f :: rest) => by
    simp [prettyAt, spell, toList_prettyFields (depth + 1) (f :: rest), Blanks.lines, newline]
  | .null => by simp [prettyAt, spell]
  | .bool v => by cases v <;> simp [prettyAt, spell]
  | .int n => by simp [prettyAt, spell]
  | .real x => by simp [prettyAt, spell]
  | .str s => by simp [prettyAt, spell]
  | .noValue => by simp [prettyAt, spell]

theorem toList_prettyItems (depth : Nat) :
    (items : List Json) → (prettyItems depth items).toList = spellItems .lines depth items
  | [] => by simp [prettyItems, spellItems]
  | [v] => by simp [prettyItems, spellItems, toList_prettyAt depth v, Blanks.lines, newline]
  | v :: w :: rest => by
    simp [prettyItems, spellItems, toList_prettyAt depth v, toList_prettyItems depth (w :: rest), Blanks.lines,
      newline]

theorem toList_prettyFields (depth : Nat) :
    (fields : List (String × Json)) → (prettyFields depth fields).toList = spellFields .lines depth fields
  | [] => by simp [prettyFields, spellFields]
  | [(k, v)] => by simp [prettyFields, spellFields, toList_prettyAt depth v, Blanks.lines, newline]
  | (k, v) :: f :: rest => by
    simp [prettyFields, spellFields, toList_prettyAt depth v, toList_prettyFields depth (f :: rest), Blanks.lines,
      newline]

end

/-! ## Blanks -/

theorem skip_append {bl : List Char} (h : ∀ c ∈ bl, isBlank c) (cs : List Char) : skip (bl ++ cs) = skip cs :=
  List.dropWhile_append_of_pos h

theorem skip_cons {c : Char} (h : isBlank c = false) (cs : List Char) : skip (c :: cs) = c :: cs := by
  rw [skip, List.dropWhile_cons_of_neg (by simp [h])]

/-! ## Strings -/

theorem unit?_control : ∀ n < 0x20, unit? '0' '0' (hexDigit (n / 16)) (hexDigit (n % 16)) = some n := by
  decide

/-- The letters that escapes stand for. -/
theorem pieces?_escape (c : Char) (acc : List Piece) (rest : List Char) :
    pieces? acc (escape c ++ rest) = pieces? (.char c :: acc) rest := by
  have hletter {x y : Char} (hx : escaped? x = some y) (hu : x ≠ 'u') :
      pieces? acc ('\\' :: x :: rest) = pieces? (.char y :: acc) rest := by
    rw [pieces?]
    · simp [hx]
    · simp [hu]
  rw [escape]
  split
  · next h => rw [h]; exact hletter (by decide) (by decide)
  split
  · next h => rw [h]; exact hletter (by decide) (by decide)
  split
  · next h => rw [h]; exact hletter (by decide) (by decide)
  split
  · next h => rw [h]; exact hletter (by decide) (by decide)
  split
  · next h => rw [h]; exact hletter (by decide) (by decide)
  split
  · next h => rw [h]; exact hletter (by decide) (by decide)
  split
  · next h => rw [h]; exact hletter (by decide) (by decide)
  split
  · next h =>
    -- other control characters are written as their number
    have hunit : Piece.ofUnit c.toNat = .char c := by
      rw [Piece.ofUnit, if_neg (by simp; omega), Char.ofNat_toNat]
    simp only [List.cons_append, List.nil_append]
    rw [pieces?, unit?_control c.toNat h]
    simp only [hunit]
  · next hquote hslash _ _ _ _ _ h =>
    have hmark : c ≠ brokenMark := by
      rintro rfl
      exact h (by decide)
    simp only [List.cons_append, List.nil_append]
    rw [pieces?]
    · rw [if_neg hmark, if_neg (by simp [h, hslash])]
    · exact hquote
    · simp [hslash]
    · simp [hslash]

theorem pieces?_quoted (cs : List Char) (acc : List Piece) (rest : List Char) :
    pieces? acc (cs.flatMap escape ++ '"' :: rest) = some (acc.reverse ++ cs.map .char, rest) := by
  induction cs generalizing acc with
  | nil => simp [pieces?]
  | cons c cs ih => rw [List.flatMap_cons, List.append_assoc, pieces?_escape, ih]; simp

theorem joinHalves_chars (cs acc : List Char) : joinHalves (cs.map .char) acc = some (acc.reverse ++ cs) := by
  induction cs generalizing acc with
  | nil => simp [joinHalves]
  | cons c cs ih => rw [List.map_cons, joinHalves, ih]; simp

theorem string?_quoted (s : String) (rest : List Char) :
    string? (s.toList.flatMap escape ++ '"' :: rest) = some (some s, rest) := by
  rw [string?, pieces?_quoted]
  simp [joinHalves_chars]

theorem toList_quote (s : String) (rest : List Char) :
    (quote s).toList ++ rest = '"' :: (s.toList.flatMap escape ++ '"' :: rest) := by
  simp [quote]

/-! ## Numbers -/

/-- No character that goes on with a number comes next. -/
def Ends (rest : List Char) : Prop := ∀ c ∈ rest.head?, c.isDigit = false ∧ c ≠ '.' ∧ c ≠ 'e' ∧ c ≠ 'E'

theorem isBlank_digit {c : Char} (h : c.isDigit) : isBlank c = false := by
  by_contra hb
  simp only [Bool.not_eq_false, isBlank, Bool.or_eq_true, decide_eq_true_eq] at hb
  rcases hb with ((rfl | rfl) | rfl) | rfl <;> exact absurd h (by decide)

/-- A value that begins with a digit is a number. -/
theorem json?_digit {c : Char} (h : c.isDigit) (fuel : Nat) (cs : List Char) :
    json? (fuel + 1) (c :: cs) = number? false (c :: cs) := by
  rw [json?, skip_cons (isBlank_digit h)]
  split <;> simp_all [List.cons.injEq]

theorem gather_eq {cs : List Char} {n : Nat} (h : Nat.ofDigitChars 10 cs n < UInt64.size) :
    gather n cs = (Nat.ofDigitChars 10 cs n, []) := by
  induction cs generalizing n with
  | nil => rfl
  | cons c cs ih =>
    rw [Nat.ofDigitChars_cons] at h
    have hnext : n * 10 + (c.toNat - 48) = 10 * n + (c.toNat - '0'.toNat) := by rw [Nat.mul_comm]; rfl
    rw [gather, Nat.ofDigitChars_cons, hnext, if_pos (Nat.lt_of_le_of_lt (Digits.le_ofDigitChars cs _) h), ih h]

theorem number_toDigits {n : Nat} (h : n < UInt64.size) : number false (Nat.toDigits 10 n) = .int n := by
  have hvalue : Nat.ofDigitChars 10 (Nat.toDigits 10 n) 0 = n := Nat.ofDigitChars_ten_toDigits
  rw [number, gather_eq (by rwa [hvalue]), hvalue]
  rfl

theorem number?_toDigits {n : Nat} (h : n < UInt64.size) {rest : List Char} (hrest : Ends rest) :
    number? false (Nat.toDigits 10 n ++ rest) = some (.int n, rest) := by
  have hstop : ∀ c ∈ rest.head?, ¬ c.isDigit := fun c hc => by simp [(hrest c hc).1]
  have hne : (Nat.toDigits 10 n).isEmpty = false := by
    simp
  rw [number?.eq_def]
  split
  next whole rest' hwhole =>
  have hcut : whole = Nat.toDigits 10 n ∧ rest' = rest := by
    split at hwhole
    · next r hr =>
      -- only zero begins with a zero
      obtain ⟨c, ds, hds⟩ := List.exists_cons_of_ne_nil (Nat.toDigits_ne_nil (n := n) (b := 10))
      rw [hds, List.cons_append, List.cons.injEq] at hr
      obtain ⟨rfl, hr⟩ := hr
      obtain ⟨-, rfl⟩ := Digits.toDigits_eq_zero_cons hds
      obtain ⟨rfl, rfl⟩ := Prod.mk.inj hwhole
      exact ⟨hds.symm, hr.symm⟩
    · rw [digits, List.span_eq_takeWhile_dropWhile, Digits.takeWhile_toDigits n hstop,
        Digits.dropWhile_toDigits n hstop] at hwhole
      obtain ⟨rfl, rfl⟩ := Prod.mk.inj hwhole
      exact ⟨rfl, rfl⟩
  obtain ⟨rfl, rfl⟩ := hcut
  simp only [hne, Bool.false_eq_true, if_false]
  cases rest' with
  | nil => simp [number_toDigits h]
  | cons c cs =>
    obtain ⟨hdigit, hpoint, he, hE⟩ := hrest c rfl
    simp [hdigit, hpoint, he, hE, number_toDigits h]

/-! ## Documents -/

/-- Documents of null, truth values, counts, texts, lists and records. -/
inductive Plain : Json → Prop
  | null : Plain .null
  | bool (v : Bool) : Plain (.bool v)
  | count {n : Nat} (h : n < UInt64.size) : Plain (.int n)
  | str (s : String) : Plain (.str s)
  | arr {items : List Json} (h : ∀ v ∈ items, Plain v) : Plain (.arr items)
  | obj {fields : List (String × Json)} (h : ∀ f ∈ fields, Plain f.2) : Plain (.obj fields)

theorem ofNat_toString (n : Nat) : (toString (n : Int)).toList = Nat.toDigits 10 n := by
  rw [show toString (n : Int) = n.repr from rfl, Nat.toList_repr]

theorem spell_arr_cons (b : Blanks) (depth : Nat) (v : Json) (items : List Json) :
    spell b depth (.arr (v :: items)) =
      '[' :: (spellItems b (depth + 1) (v :: items) ++ (b.line depth ++ [']'])) := by
  rw [spell]
  simp

theorem spell_obj_cons (b : Blanks) (depth : Nat) (f : String × Json) (fields : List (String × Json)) :
    spell b depth (.obj (f :: fields)) =
      '\x7b' :: (spellFields b (depth + 1) (f :: fields) ++ (b.line depth ++ ['\x7d'])) := by
  rw [spell]
  simp

/-- The first character of a document tells that it is no blank and that no list or record ends. -/
theorem spell_eq_cons (b : Blanks) (depth : Nat) {j : Json} (h : Plain j) :
    ∃ c cs, spell b depth j = c :: cs ∧ isBlank c = false ∧ c ≠ ']' ∧ c ≠ '}' := by
  cases h with
  | null => exact ⟨_, _, rfl, by decide⟩
  | bool v => cases v <;> exact ⟨_, _, rfl, by decide⟩
  | count h =>
    rename_i n
    obtain ⟨c, cs, hcs⟩ := List.exists_cons_of_ne_nil (Nat.toDigits_ne_nil (n := n) (b := 10))
    have hdigit : c.isDigit := Digits.isDigit_toDigits (n := n) (by simp [hcs])
    refine ⟨c, cs, by rw [spell, ofNat_toString, hcs], isBlank_digit hdigit, ?_, ?_⟩
    · rintro rfl
      exact absurd hdigit (by decide)
    · rintro rfl
      exact absurd hdigit (by decide)
  | str s => exact ⟨'"', _, by simp [spell, quote]; rfl, by decide⟩
  | arr h =>
    rename_i items
    cases items with
    | nil => exact ⟨'[', _, by rw [spell], by decide⟩
    | cons v rest => exact ⟨'[', _, spell_arr_cons b depth v rest, by decide⟩
  | obj h =>
    rename_i fields
    cases fields with
    | nil => exact ⟨'\x7b', _, by rw [spell], by decide⟩
    | cons f rest => exact ⟨'\x7b', _, spell_obj_cons b depth f rest, by decide⟩

theorem json?_blank {bl : List Char} (h : ∀ c ∈ bl, isBlank c) (fuel : Nat) (cs : List Char) :
    json? fuel (bl ++ cs) = json? fuel cs := by
  cases fuel with
  | zero => rw [json?, json?]
  | succ fuel => rw [json?, json?, skip_append h]

theorem items?_blank {bl : List Char} (h : ∀ c ∈ bl, isBlank c) (fuel : Nat) (acc : List Json)
    (cs : List Char) : items? fuel acc (bl ++ cs) = items? fuel acc cs := by
  cases fuel with
  | zero => rw [items?, items?]
  | succ fuel => rw [items?, items?, json?_blank h]

theorem fields?_blank {bl : List Char} (h : ∀ c ∈ bl, isBlank c) (fuel : Nat)
    (acc : List (Option String × Json)) (cs : List Char) : fields? fuel acc (bl ++ cs) = fields? fuel acc cs := by
  cases fuel with
  | zero => rw [fields?, fields?]
  | succ fuel => rw [fields?, fields?, skip_append h]

theorem ends_comma (rest : List Char) : Ends (',' :: rest) := by
  intro c hc
  obtain rfl : ',' = c := by simpa using hc
  decide

/-- A number ends before the end of a list or record. -/
theorem ends_close {bl : List Char} (h : ∀ c ∈ bl, isBlank c) {m : Char} (hm : m = ']' ∨ m = '\x7d')
    (rest : List Char) : Ends (bl ++ m :: rest) := by
  intro c hc
  cases bl with
  | nil =>
    obtain rfl : m = c := by simpa using hc
    rcases hm with rfl | rfl <;> decide
  | cons x bl =>
    obtain rfl : x = c := by simpa using hc
    have hb := h x (by simp)
    simp only [isBlank, Bool.or_eq_true, decide_eq_true_eq] at hb
    rcases hb with ((rfl | rfl) | rfl) | rfl <;> decide

/-- A document is read off the front of a text as some value. -/
def ReadsAs (j v : Json) : Prop :=
  ∀ (b : Blanks) (depth fuel : Nat) (rest : List Char), Ends rest → (spell b depth j).length ≤ fuel →
    json? fuel (spell b depth j ++ rest) = some (v, rest)

/-- A document is read off the front of a text as it is. -/
abbrev Reads (j : Json) : Prop := ReadsAs j j

theorem spell_length_pos (b : Blanks) (depth : Nat) {j : Json} (h : Plain j) : 0 < (spell b depth j).length := by
  obtain ⟨c, cs, hcs, -⟩ := spell_eq_cons b depth h
  rw [hcs]
  simp

theorem items?_spell (b : Blanks) (depth : Nat) {bl : List Char} (hbl : ∀ c ∈ bl, isBlank c) (rest : List Char)
    {items : List Json} (hne : items ≠ []) (hplain : ∀ v ∈ items, Plain v) (hreads : ∀ v ∈ items, Reads v)
    (acc : List Json) (fuel : Nat) (hfuel : (spellItems b depth items).length < fuel) :
    items? fuel acc (spellItems b depth items ++ (bl ++ ']' :: rest)) = some (acc.reverse ++ items, rest) := by
  obtain ⟨fuel, rfl⟩ : ∃ k, fuel = k + 1 := ⟨fuel - 1, by omega⟩
  induction items generalizing acc fuel with
  | nil => exact absurd rfl hne
  | cons v items ih =>
    have hv := hreads v (by simp)
    have hpos := spell_length_pos b depth (hplain v (by simp))
    cases items with
    | nil =>
      rw [spellItems, List.length_append] at hfuel
      rw [spellItems, List.append_assoc, items?, json?_blank (b.line_blank depth),
        hv b depth fuel _ (ends_close hbl (by simp) rest) (by omega)]
      simp only [skip_append hbl, skip_cons (show isBlank ']' = false by decide), List.reverse_cons]
    | cons w items =>
      rw [spellItems, List.length_append, List.length_append, List.length_cons] at hfuel
      rw [spellItems, List.append_assoc, List.append_assoc, List.cons_append, items?,
        json?_blank (b.line_blank depth), hv b depth fuel _ (ends_comma _) (by omega)]
      simp only [skip_cons (show isBlank ',' = false by decide)]
      obtain ⟨fuel, rfl⟩ : ∃ k, fuel = k + 1 := ⟨fuel - 1, by omega⟩
      rw [ih (by simp) (fun u hu => hplain u (by simp [hu])) (fun u hu => hreads u (by simp [hu])) _ _ (by omega)]
      simp

theorem fields?_spell (b : Blanks) (depth : Nat) {bl : List Char} (hbl : ∀ c ∈ bl, isBlank c) (rest : List Char)
    {read : Json → Json} {fields : List (String × Json)} (hne : fields ≠ [])
    (hreads : ∀ f ∈ fields, ReadsAs f.2 (read f.2)) (acc : List (Option String × Json)) (fuel : Nat)
    (hfuel : (spellFields b depth fields).length < fuel) :
    fields? fuel acc (spellFields b depth fields ++ (bl ++ '\x7d' :: rest)) =
      some (acc.reverse ++ fields.map fun f => (some f.1, read f.2), rest) := by
  obtain ⟨fuel, rfl⟩ : ∃ k, fuel = k + 1 := ⟨fuel - 1, by omega⟩
  induction fields generalizing acc fuel with
  | nil => exact absurd rfl hne
  | cons f fields ih =>
    obtain ⟨k, v⟩ := f
    have hv : ReadsAs v (read v) := hreads (k, v) (by simp)
    have hquote : ∀ cs, skip ('"' :: cs) = '"' :: cs := skip_cons (by decide)
    have hcolon : ∀ cs, skip (':' :: cs) = ':' :: cs := skip_cons (by decide)
    cases fields with
    | nil =>
      simp only [spellFields, List.length_append, List.length_cons] at hfuel
      rw [spellFields, List.append_assoc, fields?_blank (b.line_blank depth), List.append_assoc, toList_quote, fields?,
        hquote]
      simp only [string?_quoted, List.cons_append, List.append_assoc, hcolon, json?_blank b.gap_blank]
      rw [hv b depth fuel _ (ends_close hbl (by simp) rest) (by omega)]
      simp only [skip_append hbl, skip_cons (show isBlank '\x7d' = false by decide), List.reverse_cons]
      rfl
    | cons g fields =>
      simp only [spellFields, List.length_append, List.length_cons] at hfuel
      rw [spellFields, List.append_assoc, fields?_blank (b.line_blank depth), List.append_assoc, toList_quote, fields?,
        hquote]
      simp only [string?_quoted, List.cons_append, List.append_assoc, hcolon, json?_blank b.gap_blank]
      rw [hv b depth fuel _ (ends_comma _) (by omega)]
      simp only [skip_cons (show isBlank ',' = false by decide)]
      have hpos : 0 < (quote k).toList.length := by simp [quote]
      obtain ⟨fuel, rfl⟩ : ∃ n, fuel = n + 1 := ⟨fuel - 1, by omega⟩
      rw [ih (by simp) (fun u hu => hreads u (by simp [hu])) _ _ (by omega)]
      simp

theorem object_fields (read : Json → Json) (fields : List (String × Json)) :
    object (fields.map fun f => (some f.1, read f.2)) = .obj (fields.map fun f => (f.1, read f.2)) := by
  have hall {name : Option String × Json → Option (String × Json)} (hname : ∀ k v, name (some k, v) = some (k, v)) :
      (fields.map fun f => (some f.1, read f.2)).mapM name = some (fields.map fun f => (f.1, read f.2)) := by
    induction fields with
    | nil => rfl
    | cons f fields ih => simp [hname, ih]
  rw [object, hall fun k v => rfl]

/-- A record is read whatever follows it, each field as its value is read. -/
theorem json?_spell_obj_as (b : Blanks) (depth : Nat) {read : Json → Json} {fields : List (String × Json)}
    (hreads : ∀ f ∈ fields, ReadsAs f.2 (read f.2)) (fuel : Nat) (rest : List Char)
    (hfuel : (spell b depth (.obj fields)).length ≤ fuel) :
    json? fuel (spell b depth (.obj fields) ++ rest) = some (.obj (fields.map fun f => (f.1, read f.2)), rest) := by
  cases fields with
  | nil =>
    obtain ⟨fuel, rfl⟩ : ∃ k, fuel = k + 1 := ⟨fuel - 1, by simp [spell] at hfuel; omega⟩
    simp [spell, json?, skip_cons (show isBlank '\x7b' = false by decide),
      skip_cons (show isBlank '\x7d' = false by decide)]
  | cons f fields =>
    rw [spell_obj_cons, List.length_cons, List.length_append, List.length_append, List.length_singleton] at hfuel
    obtain ⟨fuel, rfl⟩ : ∃ k, fuel = k + 1 := ⟨fuel - 1, by omega⟩
    have hfields := fields?_spell b (depth + 1) (b.line_blank depth) rest (by simp) hreads [] fuel (by omega)
    obtain ⟨more, hmore⟩ : ∃ more, spellFields b (depth + 1) (f :: fields) =
        b.line (depth + 1) ++ ((quote f.1).toList ++ more) := by
      obtain ⟨k, v⟩ := f
      cases fields with
      | nil => exact ⟨_, by rw [spellFields]⟩
      | cons g fields => exact ⟨_, by rw [spellFields]⟩
    rw [hmore, List.append_assoc, List.append_assoc, fields?_blank (b.line_blank _), toList_quote] at hfields
    rw [spell_obj_cons, hmore, List.cons_append, json?, skip_cons (by decide)]
    simp only [List.append_assoc, List.singleton_append]
    rw [skip_append (b.line_blank _), toList_quote, skip_cons (by decide)]
    split
    · next heq => exact absurd (List.cons.inj heq).1 (by decide)
    rw [hfields]
    simp only [Option.map_some, List.reverse_nil, List.nil_append, object_fields]

theorem json?_spell_obj (b : Blanks) (depth : Nat) {fields : List (String × Json)} (hreads : ∀ f ∈ fields, Reads f.2)
    (fuel : Nat) (rest : List Char) (hfuel : (spell b depth (.obj fields)).length ≤ fuel) :
    json? fuel (spell b depth (.obj fields) ++ rest) = some (.obj fields, rest) := by
  have hread := json?_spell_obj_as b depth (show ∀ f ∈ fields, ReadsAs f.2 (id f.2) from hreads) fuel rest hfuel
  rwa [show (fields.map fun f => (f.1, id f.2)) = fields from List.map_id fields] at hread

theorem json?_spell {j : Json} (h : Plain j) : Reads j := by
  induction h with
  | null =>
    intro b depth fuel rest hrest hfuel
    obtain ⟨fuel, rfl⟩ : ∃ k, fuel = k + 1 := ⟨fuel - 1, by simp [spell] at hfuel; omega⟩
    simp [spell, json?, skip_cons (show isBlank 'n' = false by decide), word?]
  | bool v =>
    intro b depth fuel rest hrest hfuel
    cases v
    · obtain ⟨fuel, rfl⟩ : ∃ k, fuel = k + 1 := ⟨fuel - 1, by simp [spell] at hfuel; omega⟩
      simp [spell, json?, skip_cons (show isBlank 'f' = false by decide), word?]
    · obtain ⟨fuel, rfl⟩ : ∃ k, fuel = k + 1 := ⟨fuel - 1, by simp [spell] at hfuel; omega⟩
      simp [spell, json?, skip_cons (show isBlank 't' = false by decide), word?]
  | count h =>
    rename_i n
    intro b depth fuel rest hrest hfuel
    obtain ⟨c, cs, hcs, -⟩ := spell_eq_cons b depth (Plain.count h)
    rw [spell, ofNat_toString] at hcs hfuel
    have hdigit : c.isDigit := Digits.isDigit_toDigits (n := n) (by simp [hcs])
    have hread := number?_toDigits h hrest
    rw [spell, ofNat_toString]
    rw [hcs] at hfuel hread ⊢
    obtain ⟨fuel, rfl⟩ : ∃ k, fuel = k + 1 := ⟨fuel - 1, by simp at hfuel; omega⟩
    rw [List.cons_append, json?_digit hdigit]
    exact hread
  | str s =>
    intro b depth fuel rest hrest hfuel
    obtain ⟨fuel, rfl⟩ : ∃ k, fuel = k + 1 := ⟨fuel - 1, by simp [spell, quote] at hfuel; omega⟩
    rw [spell, toList_quote, json?, skip_cons (by decide)]
    simp only [string?_quoted]
  | arr h ih =>
    rename_i items
    intro b depth fuel rest hrest hfuel
    cases items with
    | nil =>
      obtain ⟨fuel, rfl⟩ : ∃ k, fuel = k + 1 := ⟨fuel - 1, by simp [spell] at hfuel; omega⟩
      simp [spell, json?, skip_cons (show isBlank '[' = false by decide), skip_cons (show isBlank ']' = false by decide)]
    | cons v items =>
      rw [spell_arr_cons, List.length_cons, List.length_append, List.length_append, List.length_singleton] at hfuel
      obtain ⟨fuel, rfl⟩ : ∃ k, fuel = k + 1 := ⟨fuel - 1, by omega⟩
      have hitems := items?_spell b (depth + 1) (b.line_blank depth) rest (by simp) h ih [] fuel (by omega)
      obtain ⟨c, cs, hcs, hblank, hclose, -⟩ := spell_eq_cons b (depth + 1) (h v (by simp))
      obtain ⟨more, hmore⟩ : ∃ more, spellItems b (depth + 1) (v :: items) =
          b.line (depth + 1) ++ (spell b (depth + 1) v ++ more) := by
        cases items with
        | nil => exact ⟨[], by rw [spellItems, List.append_nil]⟩
        | cons w items => exact ⟨_, by rw [spellItems]⟩
      rw [hmore, List.append_assoc, List.append_assoc, items?_blank (b.line_blank _), hcs, List.cons_append] at hitems
      rw [spell_arr_cons, hmore, List.cons_append, json?, skip_cons (by decide)]
      simp only [List.append_assoc, List.singleton_append]
      rw [skip_append (b.line_blank _), hcs, List.cons_append, skip_cons hblank]
      split
      · next heq => exact absurd (List.cons.inj heq).1 hclose
      · simp [hitems]
  | obj h ih =>
    intro b depth fuel rest hrest hfuel
    exact json?_spell_obj b depth ih fuel rest hfuel

/-- No record begins with another one. -/
theorem spell_obj_append (b : Blanks) (depth : Nat) {fs gs : List (String × Json)} (hf : Plain (.obj fs))
    (hg : Plain (.obj gs)) {rest : List Char} (h : spell b depth (.obj gs) = spell b depth (.obj fs) ++ rest) :
    rest = [] := by
  have hreads {fields : List (String × Json)} (hp : Plain (.obj fields)) : ∀ f ∈ fields, Reads f.2 := by
    cases hp with
    | obj h => exact fun f hf => json?_spell (h f hf)
  have hwhole := json?_spell_obj b depth (hreads hg) _ [] (Nat.le_refl _)
  rw [List.append_nil, h, json?_spell_obj b depth (hreads hf) _ rest (by simp)] at hwhole
  exact (Prod.mk.inj (Option.some.inj hwhole)).2

/-! ## Whole texts -/

theorem ofChars?_spell (b : Blanks) {j v : Json} (h : ReadsAs j v) : ofChars? (spell b 0 j) = some v := by
  have hread := h b 0 ((spell b 0 j).length + 1) [] (by simp [Ends]) (by omega)
  rw [List.append_nil] at hread
  rw [ofChars?, hread]
  rfl

theorem printable_of_all {cs : List Char} (h : cs.all fun c => 0x20 ≤ c.toNat) : ∀ c ∈ cs, 0x20 ≤ c.toNat :=
  fun c hc => of_decide_eq_true (List.all_eq_true.mp h c hc)

theorem digit_printable {c : Char} (h : c.isDigit) : 0x20 ≤ c.toNat := by
  simp only [Char.isDigit, Bool.and_eq_true, decide_eq_true_eq, UInt32.le_iff_toNat_le] at h
  have hzero : '0'.val.toNat = 48 := rfl
  rw [Char.toNat]
  omega

theorem escape_printable (c : Char) : ∀ x ∈ escape c, 0x20 ≤ x.toNat := by
  have hhex : ∀ n < 16, 0x20 ≤ (hexDigit n).toNat := by decide
  rw [escape]
  split
  · exact printable_of_all (by decide)
  split
  · exact printable_of_all (by decide)
  split
  · exact printable_of_all (by decide)
  split
  · exact printable_of_all (by decide)
  split
  · exact printable_of_all (by decide)
  split
  · exact printable_of_all (by decide)
  split
  · exact printable_of_all (by decide)
  split
  · next h =>
    have hhigh := hhex (c.toNat / 16) (by omega)
    have hlow := hhex (c.toNat % 16) (by omega)
    simp only [List.mem_cons, List.not_mem_nil, or_false, forall_eq_or_imp, forall_eq]
    exact ⟨by decide, by decide, by decide, by decide, hhigh, hlow⟩
  · next h =>
    intro x hx
    rw [List.mem_singleton.mp hx]
    omega

theorem quote_printable (s : String) : ∀ x ∈ (quote s).toList, 0x20 ≤ x.toNat := by
  intro x hx
  simp only [quote, String.toList_ofList, List.mem_cons, List.mem_append, List.mem_flatMap, List.not_mem_nil,
    or_false] at hx
  rcases hx with rfl | ⟨c, -, hc⟩ | rfl
  · decide
  · exact escape_printable c x hc
  · decide

section Printable

variable (b : Blanks) {P : Char → Prop} (hline : ∀ n, ∀ c ∈ b.line n, P c) (hgap : ∀ c ∈ b.gap, P c)
  (hprint : ∀ c, 0x20 ≤ c.toNat → P c)

include hline hprint in
theorem spellItems_printable {depth : Nat} {items : List Json}
    (h : ∀ v ∈ items, ∀ c ∈ spell b depth v, P c) : ∀ c ∈ spellItems b depth items, P c := by
  induction items with
  | nil => simp [spellItems]
  | cons v items ih =>
    intro c hc
    cases items with
    | nil =>
      rw [spellItems, List.mem_append] at hc
      rcases hc with hc | hc
      · exact hline depth c hc
      · exact h v (by simp) c hc
    | cons w items =>
      rw [spellItems, List.mem_append, List.mem_append, List.mem_cons] at hc
      rcases hc with hc | hc | rfl | hc
      · exact hline depth c hc
      · exact h v (by simp) c hc
      · exact hprint _ (by decide)
      · exact ih (fun u hu => h u (by simp [hu])) c hc

include hline hgap hprint in
theorem spellFields_printable {depth : Nat} {fields : List (String × Json)}
    (h : ∀ f ∈ fields, ∀ c ∈ spell b depth f.2, P c) : ∀ c ∈ spellFields b depth fields, P c := by
  induction fields with
  | nil => simp [spellFields]
  | cons f fields ih =>
    intro c hc
    obtain ⟨k, v⟩ := f
    have hv : ∀ c ∈ spell b depth v, P c := h (k, v) (by simp)
    cases fields with
    | nil =>
      simp only [spellFields, List.mem_append, List.mem_cons] at hc
      rcases hc with hc | hc | rfl | hc | hc
      · exact hline depth c hc
      · exact hprint c (quote_printable k c hc)
      · exact hprint _ (by decide)
      · exact hgap c hc
      · exact hv c hc
    | cons g fields =>
      simp only [spellFields, List.mem_append, List.mem_cons] at hc
      rcases hc with hc | hc | rfl | hc | hc | rfl | hc
      · exact hline depth c hc
      · exact hprint c (quote_printable k c hc)
      · exact hprint _ (by decide)
      · exact hgap c hc
      · exact hv c hc
      · exact hprint _ (by decide)
      · exact ih (fun u hu => h u (by simp [hu])) c hc

include hline hgap hprint in
theorem spell_obj_printable {depth : Nat} {fields : List (String × Json)}
    (h : ∀ f ∈ fields, ∀ c ∈ spell b (depth + 1) f.2, P c) : ∀ c ∈ spell b depth (.obj fields), P c := by
  intro c hc
  cases fields with
  | nil =>
    have hword : ∀ c ∈ ['\x7b', '\x7d'], 0x20 ≤ c.toNat := printable_of_all (by decide)
    exact hprint c (hword c hc)
  | cons f fields =>
    rw [spell_obj_cons, List.mem_cons, List.mem_append, List.mem_append, List.mem_singleton] at hc
    rcases hc with rfl | hc | hc | rfl
    · exact hprint _ (by decide)
    · exact spellFields_printable b hline hgap hprint h c hc
    · exact hline depth c hc
    · exact hprint _ (by decide)

include hline hgap hprint in
/-- A document is written in blanks and in characters that can be printed. -/
theorem spell_printable {j : Json} (h : Plain j) (depth : Nat) : ∀ c ∈ spell b depth j, P c := by
  have hword (cs : List Char) (hcs : ∀ c ∈ cs, 0x20 ≤ c.toNat) : ∀ c ∈ cs, P c := fun c hc => hprint c (hcs c hc)
  induction h generalizing depth with
  | null => exact hword "null".toList (printable_of_all (by decide))
  | bool v =>
    cases v with
    | true => exact hword "true".toList (printable_of_all (by decide))
    | false => exact hword "false".toList (printable_of_all (by decide))
  | count h =>
    intro c hc
    rw [spell, ofNat_toString] at hc
    exact hprint c (digit_printable (Digits.isDigit_toDigits hc))
  | str s => exact fun c hc => hprint c (quote_printable s c hc)
  | arr h ih =>
    rename_i items
    intro c hc
    cases items with
    | nil => exact hword ['[', ']'] (printable_of_all (by decide)) c hc
    | cons v items =>
      rw [spell_arr_cons, List.mem_cons, List.mem_append, List.mem_append, List.mem_singleton] at hc
      rcases hc with rfl | hc | hc | rfl
      · exact hprint _ (by decide)
      · exact spellItems_printable b hline hprint (fun v hv => ih v hv (depth + 1)) c hc
      · exact hline depth c hc
      · exact hprint _ (by decide)
  | obj h ih => exact spell_obj_printable b hline hgap hprint fun f hf => ih f hf (depth + 1)

end Printable

theorem newline_not_mem_compact {j : Json} (h : Plain j) : '\n' ∉ (compact j).toList := by
  intro hc
  rw [toList_compact 0] at hc
  have hprint : ∀ c : Char, 0x20 ≤ c.toNat → c ≠ '\n' := by
    rintro c hc rfl
    exact absurd hc (by decide)
  exact spell_printable .none (by simp [Blanks.none]) (by simp [Blanks.none]) hprint h 0 '\n' hc rfl

/-- A character that a document is written in, and not the mark of broken bytes. -/
def Clean (c : Char) : Prop := c ≠ brokenMark

theorem Blanks.clean_line (b : Blanks) : ∀ n, ∀ c ∈ b.line n, Clean c := by
  rintro n c hc rfl
  exact absurd (b.line_blank n _ hc) (by decide)

theorem Blanks.clean_gap (b : Blanks) : ∀ c ∈ b.gap, Clean c := by
  rintro c hc rfl
  exact absurd (b.gap_blank _ hc) (by decide)

theorem clean_of_printable (c : Char) (h : 0x20 ≤ c.toNat) : Clean c := by
  rintro rfl
  exact absurd h (by decide)

theorem parse_of_spell (b : Blanks) {j v : Json} (h : ReadsAs j v) (hclean : ∀ c ∈ spell b 0 j, Clean c) {s : String}
    (hs : s.toList = spell b 0 j) : parse s = some v := by
  have hmark : brokenMark ∉ s.toList := by
    rw [hs]
    exact fun hc => hclean _ hc rfl
  rw [parse, if_neg (by simpa using hmark), hs, ofChars?_spell b h]

theorem clean_spell (b : Blanks) {j : Json} (h : Plain j) : ∀ c ∈ spell b 0 j, Clean c :=
  spell_printable b b.clean_line b.clean_gap clean_of_printable h 0

/-- What is written on one line is read back. -/
theorem parse_compact {j : Json} (h : Plain j) : parse (compact j) = some j :=
  parse_of_spell .none (json?_spell h) (clean_spell .none h) (toList_compact 0 j)

/-- What is written on several lines is read back. -/
theorem parse_pretty {j : Json} (h : Plain j) : parse (pretty j) = some j :=
  parse_of_spell .lines (json?_spell h) (clean_spell .lines h) (toList_prettyAt 0 j)

theorem parseBytes_of_pretty {j v : Json} (h : parse (pretty j) = some v) :
    parseBytes (Text.encode (pretty j)) = some v := by
  rw [parseBytes, show Text.decode? (Text.encode (pretty j)) = some (pretty j) from dif_pos (String.isValidUTF8 _)]
  exact h

theorem parseBytes_pretty {j : Json} (h : Plain j) : parseBytes (Text.encode (pretty j)) = some j :=
  parseBytes_of_pretty (parse_pretty h)

end Mend.Json
