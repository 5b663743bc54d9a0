import Mend.Proofs.Json.Spelling

/-!
# Real numbers in documents

A real number stands in a document as digits with a point or an exponent, or as null if it is not finite. Whatever the
number, a reader takes its text for one value and goes on behind it (`readsAs_real`). The value is not always the same
number again: what is read is put together from the digits with roundings of its own.
-/

namespace Mend.Json

open Decimal (Layout Shortest)

/-! ## Numerals -/

/-- The parts of a number's text. -/
structure Numeral where
  whole : List Char
  /-- The digits after the point. There is no point if there are none. -/
  part : List Char
  /-- Whether the exponent is negative, and its digits. -/
  exponent : Option (Bool × List Char)

namespace Numeral

/-- The text of the exponent. -/
def exponentText (n : Numeral) : List Char :=
  match n.exponent with
  | none => []
  | some (negative, ds) => 'e' :: (if negative then '-' else '+') :: ds

/-- The point with the digits after it. -/
def partText (n : Numeral) : List Char :=
  match n.part with
  | [] => []
  | d :: ds => '.' :: d :: ds

theorem partText_eq {n : Numeral} (h : n.part ≠ []) : n.partText = '.' :: n.part := by
  obtain ⟨d, ds, hds⟩ := List.exists_cons_of_ne_nil h
  rw [partText, hds]

/-- The text, without a sign. -/
def text (n : Numeral) : List Char := n.whole ++ (n.partText ++ n.exponentText)

/-- The text follows the grammar of numbers. -/
structure Sound (n : Numeral) : Prop where
  whole : ∀ c ∈ n.whole, c.isDigit
  nonempty : n.whole ≠ []
  /-- No digit follows a leading zero. -/
  lead : ∀ ds, n.whole = '0' :: ds → ds = []
  part : ∀ c ∈ n.part, c.isDigit
  exponent : ∀ e ∈ n.exponent, e.2 ≠ [] ∧ ∀ c ∈ e.2, c.isDigit

/-- What is read of the text. -/
def value (n : Numeral) (negative : Bool) : Json :=
  match n.exponent with
  | none =>
    if n.part = [] then number negative n.whole
    else ((real? negative n.whole n.part 0).map .real).getD .noValue
  | some (down, ds) =>
    let e : Nat := ds.foldl (fun v d => v * 10 + (d.toNat - 48)) 0
    ((real? negative n.whole n.part (if down then -(e : Int) else e)).map .real).getD .noValue

end Numeral

/-- Digits are taken as far as they go. -/
theorem digits_append {ds rest : List Char} (h : ∀ c ∈ ds, c.isDigit) (hrest : ∀ c ∈ rest.head?, c.isDigit = false) :
    digits (ds ++ rest) = (ds, rest) := by
  rw [digits, List.span_eq_takeWhile_dropWhile, List.takeWhile_append_of_pos h, List.dropWhile_append_of_pos h]
  cases rest with
  | nil => simp
  | cons c rest => simp [hrest c rfl]

theorem Ends.digit {rest : List Char} (h : Ends rest) : ∀ c ∈ rest.head?, c.isDigit = false := fun c hc => (h c hc).1

theorem exponent?_text {ds rest : List Char} (down : Bool) (hne : ds ≠ []) (hds : ∀ c ∈ ds, c.isDigit)
    (hrest : ∀ c ∈ rest.head?, c.isDigit = false) : exponent? ((if down then '-' else '+') :: (ds ++ rest)) =
      let e : Nat := ds.foldl (fun v d => v * 10 + (d.toNat - 48)) 0
      some (if down then -(e : Int) else e, rest) := by
  have hempty : ds.isEmpty = false := by simpa using hne
  cases down with
  | true => simp [exponent?, digits_append hds hrest, hempty]
  | false => simp [exponent?, digits_append hds hrest, hempty]

/-- A numeral is read whatever follows it that does not go on with a number. -/
theorem number?_text {n : Numeral} (h : n.Sound) (negative : Bool) {rest : List Char} (hrest : Ends rest) :
    number? negative (n.text ++ rest) = some (n.value negative, rest) := by
  have hexponent : ∀ c ∈ (n.exponentText ++ rest).head?, c.isDigit = false := by
    rw [Numeral.exponentText]
    split
    · exact hrest.digit
    · intro c hc
      obtain rfl : 'e' = c := by simpa using hc
      rfl
  have hpart : ∀ c ∈ (n.partText ++ (n.exponentText ++ rest)).head?, c.isDigit = false := by
    rw [Numeral.partText]
    split
    · exact hexponent
    · intro c hc
      obtain rfl : '.' = c := by simpa using hc
      rfl
  rw [Numeral.text, List.append_assoc, List.append_assoc, number?.eq_def]
  split
  next whole behind hwhole =>
  obtain ⟨rfl, rfl⟩ : whole = n.whole ∧ behind = n.partText ++ (n.exponentText ++ rest) := by
    split at hwhole
    · next r hr =>
      obtain ⟨c, ds, hds⟩ := List.exists_cons_of_ne_nil h.nonempty
      rw [hds, List.cons_append, List.cons.injEq] at hr
      obtain ⟨rfl, rfl⟩ := hr
      obtain rfl := h.lead ds hds
      obtain ⟨rfl, rfl⟩ := Prod.mk.inj hwhole
      exact ⟨hds.symm, rfl⟩
    · rw [digits_append h.whole hpart] at hwhole
      obtain ⟨rfl, rfl⟩ := Prod.mk.inj hwhole
      exact ⟨rfl, rfl⟩
  have hempty : n.whole.isEmpty = false := by simpa using h.nonempty
  have hlead : ((n.partText ++ (n.exponentText ++ rest)).head?.map Char.isDigit).getD false = false := by
    cases hhead : (n.partText ++ (n.exponentText ++ rest)).head? with
    | none => rfl
    | some c => simp [hpart c hhead]
  simp only [hempty, hlead, Bool.and_false, Bool.false_eq_true, if_false]
  obtain ⟨whole, part, exponent⟩ := n
  cases part with
  | nil =>
    cases exponent with
    | none =>
      cases rest with
      | nil => rfl
      | cons c cs =>
        obtain ⟨-, hpoint, he, hE⟩ := hrest c rfl
        simp [Numeral.partText, Numeral.exponentText, Numeral.value, hpoint, he, hE]
    | some e =>
      obtain ⟨down, ds⟩ := e
      obtain ⟨hne, hds⟩ := h.exponent _ rfl
      have hread := exponent?_text down hne hds hrest.digit
      simp [Numeral.partText, Numeral.exponentText, Numeral.value, hread]
  | cons d part =>
    have htake := digits_append h.part hexponent
    cases exponent with
    | none =>
      simp only [Numeral.exponentText, List.nil_append, List.cons_append] at htake
      cases rest with
      | nil =>
        rw [List.append_nil] at htake
        simp [Numeral.partText, Numeral.exponentText, Numeral.value, htake]
      | cons c cs =>
        obtain ⟨-, -, he, hE⟩ := hrest c rfl
        simp [Numeral.partText, Numeral.exponentText, Numeral.value, htake, he, hE]
    | some e =>
      obtain ⟨down, ds⟩ := e
      obtain ⟨hne, hds⟩ := h.exponent _ rfl
      have hread := exponent?_text down hne hds hrest.digit
      simp only [Numeral.exponentText, List.cons_append] at htake
      simp [Numeral.partText, Numeral.exponentText, Numeral.value, htake, hread]

/-! ## The text of a real number -/

end Mend.Json

namespace Mend.Decimal.Shortest

/-- Nothing but zero rounds to zero. -/
theorem rounds_zero {m : Nat} (hm : m ≠ 0) (e k : Int) : rounds m e 0 k = false := by
  have hbelow : 0 < if m = Nat.pow 2 52 && decide (-1074 < e) then 4 * m - 1 else 4 * m - 2 := by
    split
    · omega
    · omega
  have hlow : 0 < (Ratio.scaled (if m = Nat.pow 2 52 && decide (-1074 < e) then 4 * m - 1 else 4 * m - 2)
      (e - 2) (-k)).num := by
    rw [Ratio.scaled]
    exact Nat.mul_pos (Nat.mul_pos hbelow (Nat.pow_pos (by omega))) (Nat.pow_pos (by omega))
  rw [rounds]
  split
  · simp only [Nat.zero_mul, Bool.and_eq_false_iff, decide_eq_false_iff_not]
    exact .inl (by omega)
  · simp only [Nat.zero_mul, Bool.and_eq_false_iff, decide_eq_false_iff_not]
    exact .inl (by omega)

theorem digits_trim {c : Nat} (hc : c ≠ 0) (fuel : Nat) (k : Int) : (trim fuel c k).digits ≠ 0 := by
  induction fuel generalizing c k with
  | zero => exact hc
  | succ fuel ih =>
    rw [trim]
    split
    · next h =>
      simp only [Bool.and_eq_true, decide_eq_true_eq] at h
      exact ih (by omega) _
    · exact hc

/-- Zero is written with no zeros behind it. -/
theorem exponent_of_digits {m : Nat} {e : Int} (h : (ofBinary m e).digits = 0) : (ofBinary m e).exponent = 0 := by
  by_cases hm : m = 0
  · rw [ofBinary, if_pos hm]
  rw [ofBinary, if_neg hm] at h ⊢
  generalize magnitude m e = top at h ⊢
  have hsearch (fuel n : Nat) : (search m e top fuel n).digits = 0 → (search m e top fuel n).exponent = 0 := by
    induction fuel generalizing n with
    | zero => exact fun _ => rfl
    | succ fuel ih =>
      have htrim {c : Nat} {k : Int} (hrounds : rounds m e c k = true) : (trim 20 c k).digits ≠ 0 := by
        refine digits_trim ?_ 20 k
        rintro rfl
        rw [rounds_zero hm] at hrounds
        cases hrounds
      have hchoice {c : Nat} {k : Int} {x : Shortest} (hx : x.digits = 0 → x.exponent = 0) :
          (if rounds m e c k then trim 20 c k else x).digits = 0 →
            (if rounds m e c k then trim 20 c k else x).exponent = 0 := by
        split
        · next hrounds => exact fun hzero => absurd hzero (htrim hrounds)
        · exact hx
      rw [search]
      exact hchoice (hchoice (ih (n + 1)))
  exact hsearch 20 1 h

end Mend.Decimal.Shortest

namespace Mend.Json

open Decimal (Layout Shortest)

theorem toList_zeros (n : Nat) : (Decimal.zeros n).toList = List.replicate n '0' := String.toList_ofList

theorem isDigit_zeros {n : Nat} {c : Char} (h : c ∈ List.replicate n '0') : c.isDigit := by
  rw [List.eq_of_mem_replicate h]
  rfl

theorem exponentText_eq (e : Int) : ∃ ds, (Decimal.exponentText e).toList = (if e < 0 then '-' else '+') :: ds ∧
    ds ≠ [] ∧ ∀ c ∈ ds, c.isDigit := by
  have hdigits : (toString e.natAbs).toList = Nat.toDigits 10 e.natAbs := Nat.toList_repr
  refine ⟨(if (toString e.natAbs).length < 2 then "0" ++ toString e.natAbs else toString e.natAbs).toList, ?_, ?_, ?_⟩
  · rw [Decimal.exponentText, String.toList_append]
    by_cases he : e < 0
    · rw [if_pos he, if_pos he]
      rfl
    · rw [if_neg he, if_neg he]
      rfl
  · split
    · simp
    · simp
  · intro c hc
    split at hc
    · rw [String.toList_append, List.mem_append] at hc
      rcases hc with hc | hc
      · obtain rfl : c = '0' := by simpa using hc
        rfl
      · exact Digits.isDigit_toDigits (hdigits ▸ hc)
    · exact Digits.isDigit_toDigits (hdigits ▸ hc)

/-- The text of a magnitude is a numeral. -/
theorem magnitude_eq_text {d : Shortest} (h : d.digits = 0 → d.exponent = 0) :
    ∃ n : Numeral, n.Sound ∧ (Layout.document.magnitude d).toList = n.text := by
  have hds : (toString d.digits).toList = Nat.toDigits 10 d.digits := Nat.toList_repr
  have hdigit {c : Char} (hc : c ∈ Nat.toDigits 10 d.digits) : c.isDigit := Digits.isDigit_toDigits hc
  have hpos : 0 < (Nat.toDigits 10 d.digits).length := List.length_pos_iff.mpr (by simp)
  have hlead {ds : List Char} (hzero : Nat.toDigits 10 d.digits = '0' :: ds) : d.digits = 0 ∧ ds = [] :=
    Digits.toDigits_eq_zero_cons hzero
  rw [Layout.magnitude]
  simp only [Layout.document, if_true]
  rw [← String.length_toList, hds]
  generalize hfirst : d.exponent + (Nat.toDigits 10 d.digits).length - 1 = first
  split
  · split
    · -- a whole number, with its zeros
      refine ⟨⟨Nat.toDigits 10 d.digits ++ List.replicate d.exponent.toNat '0', ['0'], none⟩, ⟨?_, ?_, ?_, ?_, nofun⟩, ?_⟩
      · intro c hc
        exact (List.mem_append.mp hc).elim hdigit isDigit_zeros
      · simp
      · intro ds hzero
        obtain ⟨c, cs, hcs⟩ := List.exists_cons_of_ne_nil (List.ne_nil_of_length_pos hpos)
        rw [hcs, List.cons_append, List.cons.injEq] at hzero
        obtain ⟨rfl, rfl⟩ := hzero
        obtain ⟨hnone, rfl⟩ := hlead hcs
        rw [h hnone]
        rfl
      · intro c hc
        obtain rfl := List.mem_singleton.mp hc
        rfl
      · simp [Numeral.text, Numeral.partText, Numeral.exponentText, toList_zeros]
    split
    · -- the point stands between the digits
      next hnegative hpositive =>
      have hcut : (first + 1).toNat < (Nat.toDigits 10 d.digits).length ∧ 0 < (first + 1).toNat := by omega
      refine ⟨⟨(Nat.toDigits 10 d.digits).take (first + 1).toNat, (Nat.toDigits 10 d.digits).drop (first + 1).toNat, none⟩,
        ⟨fun c hc => hdigit (List.mem_of_mem_take hc), ?_, ?_, fun c hc => hdigit (List.mem_of_mem_drop hc), nofun⟩, ?_⟩
      · intro hnil
        have hlength := congrArg List.length hnil
        rw [List.length_take, List.length_nil] at hlength
        omega
      · intro ds hzero
        obtain ⟨c, cs, hcs⟩ := List.exists_cons_of_ne_nil (List.ne_nil_of_length_pos hpos)
        obtain ⟨k, hk⟩ : ∃ k, (first + 1).toNat = k + 1 := ⟨(first + 1).toNat - 1, by omega⟩
        rw [hcs, hk, List.take_succ_cons, List.cons.injEq] at hzero
        obtain ⟨rfl, rfl⟩ := hzero
        obtain ⟨-, rfl⟩ := hlead hcs
        rw [List.take_nil]
      · have hpart : (Nat.toDigits 10 d.digits).drop (first + 1).toNat ≠ [] := by
          intro hnil
          have hlength := congrArg List.length hnil
          rw [List.length_drop, List.length_nil] at hlength
          omega
        rw [Numeral.text, Numeral.partText_eq hpart]
        simp [Numeral.exponentText]
    · -- the digits stand behind the point
      refine ⟨⟨['0'], List.replicate (-first - 1).toNat '0' ++ Nat.toDigits 10 d.digits, none⟩, ⟨?_, by simp, ?_, ?_, nofun⟩,
        ?_⟩
      · intro c hc
        obtain rfl := List.mem_singleton.mp hc
        rfl
      · rintro ds hzero
        exact (List.cons.inj hzero).2.symm
      · intro c hc
        exact (List.mem_append.mp hc).elim isDigit_zeros hdigit
      · rw [Numeral.text, Numeral.partText_eq (by simp)]
        simp [Numeral.exponentText, toList_zeros]
  · -- one digit before the point, and an exponent
    obtain ⟨c, cs, hcs⟩ := List.exists_cons_of_ne_nil (List.ne_nil_of_length_pos hpos)
    obtain ⟨ds, hexponent, hne, hall⟩ := exponentText_eq first
    refine ⟨⟨[c], cs, some (decide (first < 0), ds)⟩, ⟨?_, by simp, ?_, ?_, ?_⟩, ?_⟩
    · intro x hx
      obtain rfl := List.mem_singleton.mp hx
      exact hdigit (by rw [hcs]; exact List.mem_cons_self)
    · intro ds hzero
      exact (List.cons.inj hzero).2.symm
    · intro x hx
      exact hdigit (by rw [hcs]; exact List.mem_cons_of_mem _ hx)
    · rintro e he
      obtain rfl := Option.some.inj he
      exact ⟨hne, hall⟩
    · rw [hcs]
      cases cs with
      | nil => simp [Numeral.text, Numeral.partText, Numeral.exponentText, hexponent]
      | cons x cs => simp [Numeral.text, Numeral.partText, Numeral.exponentText, hexponent]

/-- What is read of the text of a real number. -/
def reread (x : Float) : Json :=
  match Decimal.Reading.ofFloat x with
  | .notANumber => .null
  | .infinite _ => .null
  | .finite b =>
    match number? b.negative (Layout.document.magnitude (Shortest.ofBinary b.mantissa b.exponent)).toList with
    | some (v, _) => v
    | none => .noValue

/-- The text of a finite number: a sign, or none, and a numeral. -/
theorem text_finite {x : Float} {b : Decimal.Binary} (h : Decimal.Reading.ofFloat x = .finite b) :
    ∃ n : Numeral, n.Sound ∧ reread x = n.value b.negative ∧
      (Layout.document.text x).toList = (if b.negative then ['-'] else []) ++ n.text := by
  obtain ⟨n, hn, htext⟩ := magnitude_eq_text (d := Shortest.ofBinary b.mantissa b.exponent) Shortest.exponent_of_digits
  refine ⟨n, hn, ?_, ?_⟩
  · have hread := number?_text hn b.negative (show Ends [] from nofun)
    rw [List.append_nil] at hread
    rw [reread, h]
    simp only [htext, hread]
  · rw [Layout.text, h]
    simp only [String.toList_append, htext]
    split
    · rfl
    · rfl

theorem text_infinite {x : Float} (h : ∀ b, Decimal.Reading.ofFloat x ≠ .finite b) :
    reread x = .null ∧ Layout.document.text x = "null" := by
  rw [reread, Layout.text]
  cases hread : Decimal.Reading.ofFloat x with
  | notANumber => exact ⟨rfl, rfl⟩
  | infinite negative => cases negative <;> exact ⟨rfl, rfl⟩
  | finite b => exact absurd hread (h b)

/-- A numeral begins with a digit. -/
theorem Numeral.Sound.text_eq {n : Numeral} (h : n.Sound) : ∃ c cs, n.text = c :: cs ∧ c.isDigit := by
  obtain ⟨c, cs, hcs⟩ := List.exists_cons_of_ne_nil h.nonempty
  exact ⟨c, cs ++ (n.partText ++ n.exponentText), by rw [Numeral.text, hcs, List.cons_append],
    h.whole c (by rw [hcs]; exact List.mem_cons_self)⟩

/-- **A real number is taken for one value**, whatever stands around it. -/
theorem readsAs_real (x : Float) : ReadsAs (.real x) (reread x) := by
  intro b depth fuel rest hrest hfuel
  rw [spell] at hfuel ⊢
  by_cases hfinite : ∃ y, Decimal.Reading.ofFloat x = .finite y
  · obtain ⟨y, hy⟩ := hfinite
    obtain ⟨n, hn, hvalue, htext⟩ := text_finite hy
    obtain ⟨c, cs, hcs, hdigit⟩ := hn.text_eq
    have hread := number?_text hn y.negative hrest
    rw [htext] at hfuel ⊢
    rw [hvalue, ← hread]
    generalize y.negative = negative at hfuel ⊢
    cases negative with
    | true =>
      obtain ⟨fuel, rfl⟩ : ∃ k, fuel = k + 1 := ⟨fuel - 1, by simp at hfuel; omega⟩
      simp [json?, skip_cons (show isBlank '-' = false by decide)]
    | false =>
      rw [if_neg Bool.false_ne_true, List.nil_append, hcs] at hfuel ⊢
      obtain ⟨fuel, rfl⟩ : ∃ k, fuel = k + 1 := ⟨fuel - 1, by simp at hfuel; omega⟩
      rw [List.cons_append, json?_digit hdigit]
  · obtain ⟨hvalue, htext⟩ := text_infinite fun b hb => hfinite ⟨b, hb⟩
    rw [htext] at hfuel ⊢
    rw [hvalue]
    obtain ⟨fuel, rfl⟩ : ∃ k, fuel = k + 1 := ⟨fuel - 1, by simp at hfuel; omega⟩
    simp [json?, skip_cons (show isBlank 'n' = false by decide), word?]

theorem Numeral.Sound.printable {n : Numeral} (h : n.Sound) : ∀ c ∈ n.text, 0x20 ≤ c.toNat := by
  intro c hc
  rw [Numeral.text, List.mem_append, List.mem_append] at hc
  rcases hc with hc | hc | hc
  · exact digit_printable (h.whole c hc)
  · by_cases hpart : n.part = []
    · rw [Numeral.partText, hpart] at hc
      cases hc
    rw [Numeral.partText_eq hpart, List.mem_cons] at hc
    rcases hc with rfl | hc
    · decide
    · exact digit_printable (h.part c hc)
  · cases hexponent : n.exponent with
    | none =>
      rw [Numeral.exponentText, hexponent] at hc
      cases hc
    | some e =>
      obtain ⟨-, hdigits⟩ := h.exponent e hexponent
      rw [Numeral.exponentText, hexponent, List.mem_cons, List.mem_cons] at hc
      rcases hc with rfl | rfl | hc
      · decide
      · split <;> decide
      · exact digit_printable (hdigits c hc)

/-- A real number is written in characters that can be printed. -/
theorem real_printable (x : Float) : ∀ c ∈ (Layout.document.text x).toList, 0x20 ≤ c.toNat := by
  by_cases hfinite : ∃ y, Decimal.Reading.ofFloat x = .finite y
  · obtain ⟨y, hy⟩ := hfinite
    obtain ⟨n, hn, -, htext⟩ := text_finite hy
    intro c hc
    rw [htext, List.mem_append] at hc
    rcases hc with hc | hc
    · split at hc
      · obtain rfl := List.mem_singleton.mp hc
        decide
      · cases hc
    · exact hn.printable c hc
  · obtain ⟨-, htext⟩ := text_infinite fun b hb => hfinite ⟨b, hb⟩
    rw [htext]
    exact printable_of_all (by decide)

end Mend.Json
