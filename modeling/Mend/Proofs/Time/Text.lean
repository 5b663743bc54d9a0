import Mathlib.Algebra.Group.Nat.Defs
import Mathlib.Data.List.TakeWhile
import Mend.Proofs.Digits
import Mend.Proofs.Text
import Mend.Proofs.Time.Calendar

/-!
# Moments as texts

A moment of the years 0 to 9999 is read back from the text that it is stored as (`parse_toText`). What is read is always
a moment of a clock (`proper_of_parse`), and in any year such a moment is told by its text with all nine decimals
(`Proper.eq_of_render`).
-/

namespace Mend.Time

/-! ## Padded numbers -/

theorem toList_padded (width n : Nat) : (padded width n).toList =
    List.replicate (width - (Nat.toDigits 10 n).length) '0' ++ Nat.toDigits 10 n := by
  have hdigits : (toString n).toList = Nat.toDigits 10 n := Nat.toList_repr
  rw [padded, String.toList_append, String.toList_ofList, hdigits, ← String.length_toList, hdigits]

theorem isDigit_padded {width n : Nat} : ∀ c ∈ (padded width n).toList, c.isDigit := by
  intro c hc
  rw [toList_padded, List.mem_append] at hc
  rcases hc with hc | hc
  · rw [List.eq_of_mem_replicate hc]
    rfl
  · exact Digits.isDigit_toDigits hc

theorem length_padded {width n : Nat} (hwidth : 0 < width) (h : n < 10 ^ width) :
    (padded width n).toList.length = width := by
  have hlength := (Nat.length_toDigits_le_iff (b := 10) (by omega) hwidth).mpr h
  rw [toList_padded, List.length_append, List.length_replicate]
  omega

theorem value_padded (width n : Nat) :
    (padded width n).toList.foldl (fun n d => n * 10 + (d.toNat - 48)) 0 = n := by
  rw [Digits.foldl_eq, toList_padded, Nat.ofDigitChars_append, Nat.ofDigitChars_replicate_zero, Nat.mul_zero,
    Nat.ofDigitChars_ten_toDigits]

theorem padded_eq_cons {width n : Nat} (hwidth : 0 < width) (h : n < 10 ^ width) :
    ∃ c cs, (padded width n).toList = c :: cs ∧ c.isDigit := by
  have hne : (padded width n).toList ≠ [] := by
    intro e
    have hlength := length_padded hwidth h
    rw [e, List.length_nil] at hlength
    omega
  obtain ⟨c, cs, hcs⟩ := List.exists_cons_of_ne_nil hne
  have hmem : c ∈ (padded width n).toList := by simp [hcs]
  exact ⟨c, cs, hcs, isDigit_padded c hmem⟩

theorem isBlank_of_isDigit {c : Char} (h : c.isDigit) : Text.isBlank c = false := by
  simp only [Char.isDigit, Bool.and_eq_true, decide_eq_true_eq, UInt32.le_iff_toNat_le] at h
  have hzero : '0'.val.toNat = 48 := rfl
  have hnine : '9'.val.toNat = 57 := rfl
  have hcode : ∀ n < 58, 48 ≤ n → ((decide (9 ≤ n) && decide (n ≤ 13)) || (decide (0x2000 ≤ n) && decide (n ≤ 0x200A)) ||
      Text.blankCodes.contains n) = false := by decide
  have hlast : c.toNat ≤ 57 := h.2
  exact hcode c.toNat (by omega) h.1

theorem trimStart_cons {c : Char} (h : Text.isBlank c = false) (rest : List Char) :
    Text.trimStart (c :: rest) = c :: rest := by
  rw [Text.trimStart, List.dropWhile_cons_of_neg (by simp [h])]

theorem trimStart_padded {width n : Nat} (hwidth : 0 < width) (h : n < 10 ^ width) (rest : List Char) :
    Text.trimStart ((padded width n).toList ++ rest) = (padded width n).toList ++ rest := by
  obtain ⟨c, cs, hcs, hdigit⟩ := padded_eq_cons hwidth h
  rw [hcs, List.cons_append, trimStart_cons (isBlank_of_isDigit hdigit)]

/-- A padded number is read if its digits are what is taken. -/
theorem number?_eq {width k n : Nat} {rest : List Char}
    (h : (((padded k n).toList ++ rest).take width).takeWhile Char.isDigit = (padded k n).toList) :
    number? width ((padded k n).toList ++ rest) = some (n, rest) := by
  have hne : (padded k n).toList.isEmpty = false := by simp [toList_padded, Nat.toDigits_ne_nil]
  rw [number?, h]
  simp [hne, value_padded]

/-- A padded number is read up to its width. -/
theorem number?_padded {width n : Nat} (hwidth : 0 < width) (h : n < 10 ^ width) (rest : List Char) :
    number? width ((padded width n).toList ++ rest) = some (n, rest) := by
  have hlength := length_padded hwidth h
  refine number?_eq ?_
  rw [List.take_append_of_le_length (by omega), List.take_of_length_le (by omega),
    List.takeWhile_eq_self_iff.mpr isDigit_padded]

theorem padded_append_inj {width m n : Nat} {s t : List Char} (hwidth : 0 < width) (hm : m < 10 ^ width)
    (hn : n < 10 ^ width) (h : (padded width m).toList ++ s = (padded width n).toList ++ t) : m = n ∧ s = t := by
  have hread := number?_padded hwidth hm s
  rw [h, number?_padded hwidth hn] at hread
  exact Prod.mk.inj (Option.some.inj hread.symm)

theorem part?_padded {width n : Nat} (hwidth : 0 < width) (h : n < 10 ^ width) (rest : List Char) :
    part? width ((padded width n).toList ++ rest) = some (n, rest) := by
  rw [part?, trimStart_padded hwidth h, number?_padded hwidth h]

theorem year?_padded {n : Nat} (h : n < 10 ^ 4) (rest : List Char) :
    year? ((padded 4 n).toList ++ rest) = some ((n : Int), rest) := by
  obtain ⟨c, cs, hcs, hdigit⟩ := padded_eq_cons (by omega) h
  have hnumber := number?_padded (by omega) h rest
  rw [year?, trimStart_padded (by omega) h]
  rw [hcs, List.cons_append] at hnumber ⊢
  split
  · next heq =>
    rw [(List.cons.inj heq).1] at hdigit
    exact absurd hdigit (by decide)
  · next heq =>
    rw [(List.cons.inj heq).1] at hdigit
    exact absurd hdigit (by decide)
  · rw [hnumber]
    rfl

/-- A year is read up to the dash behind it, whether or not it has a sign. -/
theorem year?_yearText (year : Int) (rest : List Char) :
    year? ((yearText year).toList ++ '-' :: rest) = some (year, '-' :: rest) := by
  have hblank : Text.isBlank '-' = false ∧ Text.isBlank '+' = false := by decide
  have hnumber (n : Nat) : number? ((padded 4 n).toList ++ '-' :: rest).length ((padded 4 n).toList ++ '-' :: rest) =
      some (n, '-' :: rest) := by
    refine number?_eq ?_
    rw [List.take_length, List.takeWhile_append_of_pos isDigit_padded]
    simp
  rw [yearText]
  split
  next hfour =>
    have hfour' : 0 ≤ year ∧ year ≤ 9999 := by simpa using hfour
    rw [year?_padded (by omega), Int.toNat_of_nonneg hfour'.1]
  split
  · have hdash : "-".toList = ['-'] := rfl
    rw [String.toList_append, hdash, List.singleton_append, List.cons_append, year?, trimStart_cons hblank.1]
    simp only [hnumber, Option.map_some]
    congr 2
    omega
  · have hplus : "+".toList = ['+'] := rfl
    rw [String.toList_append, hplus, List.singleton_append, List.cons_append, year?, trimStart_cons hblank.2]
    simp only [hnumber, Option.map_some]
    congr 2
    omega

theorem mark?_cons {c : Char} (h : Text.isBlank c = false) (rest : List Char) :
    mark? c (c :: rest) = some rest := by
  rw [mark?, trimStart_cons h]
  simp

/-- The decimals of a second before the mark of universal time. -/
def decimals (places nanos : Nat) : String :=
  if places = 0 then "" else "." ++ padded places (nanos / Nat.pow 10 (9 - places))

theorem nanos?_decimals {places nanos : Nat} (hplaces : places ≤ 9) (h : nanos < 10 ^ 9)
    (hexact : nanos % 10 ^ (9 - places) = 0) :
    nanos? ((decimals places nanos).toList ++ ['Z']) = some (nanos, ['Z']) := by
  by_cases hzero : places = 0
  · have hnanos : nanos = 0 := by
      subst hzero
      rw [Nat.mod_eq_of_lt h] at hexact
      exact hexact
    rw [decimals, if_pos hzero, hnanos]
    rfl
  · have hpow : 10 ^ places * 10 ^ (9 - places) = 10 ^ 9 := by rw [← Nat.pow_add]; congr 1; omega
    have hsmall : nanos / 10 ^ (9 - places) < 10 ^ places := Nat.div_lt_of_lt_mul (by rwa [Nat.mul_comm, hpow])
    have hlength := length_padded (by omega) hsmall
    have hdigits : ((padded places (nanos / 10 ^ (9 - places))).toList ++ ['Z']).takeWhile Char.isDigit =
        (padded places (nanos / 10 ^ (9 - places))).toList := by
      rw [List.takeWhile_append_of_pos isDigit_padded]
      simp
    have hne : (padded places (nanos / 10 ^ (9 - places))).toList.isEmpty = false := by
      obtain ⟨c, cs, hcs, -⟩ := padded_eq_cons (by omega) hsmall
      rw [hcs]
      rfl
    have hdot : ".".toList = ['.'] := rfl
    rw [decimals, if_neg hzero, Nat.pow_eq, String.toList_append, hdot, List.append_assoc, List.singleton_append]
    simp only [nanos?, hdigits, hne, Nat.pow_eq]
    rw [if_neg (by simp), List.take_of_length_le (by omega), value_padded, hlength,
      Nat.div_mul_cancel (Nat.dvd_of_mod_eq_zero hexact), List.drop_append_of_le_length (by omega),
      List.drop_of_length_le (by omega)]
    rfl

/-! ## Moments -/

/-- A moment of the years 0 to 9999. A leap second is at the end of a minute. -/
structure Storable (t : Time) : Prop where
  year : 0 ≤ (dateFromDays (t.seconds / 86400)).1 ∧ (dateFromDays (t.seconds / 86400)).1 ≤ 9999
  nanos : t.nanos < 1000000000 ∨ t.nanos < 2000000000 ∧ t.seconds % 60 = 59

theorem placesNeeded_exact (t : Time) :
    t.placesNeeded ≤ 9 ∧ t.nanos % 1000000000 % 10 ^ (9 - t.placesNeeded) = 0 := by
  simp only [placesNeeded]
  split
  · next h => rw [h]; exact ⟨by omega, rfl⟩
  split
  · next h => exact ⟨by omega, h⟩
  split
  · next h => exact ⟨by omega, h⟩
  · exact ⟨by omega, Nat.mod_one _⟩

theorem daysFromDate_bounds {year : Int} {month day : Nat} (hyear : 0 ≤ year ∧ year ≤ 9999) (hday : day ≤ 31) :
    -1000000 ≤ daysFromDate year month day ∧ daysFromDate year month day ≤ 4000000 := by
  simp only [daysFromDate]
  have hy : -1 ≤ (if month ≤ 2 then year - 1 else year) ∧ (if month ≤ 2 then year - 1 else year) ≤ 9999 := by
    split <;> omega
  generalize (if month ≤ 2 then year - 1 else year) = y at hy
  have hm : 0 ≤ ((month : Int) + 9) % 12 ∧ ((month : Int) + 9) % 12 ≤ 11 := by omega
  generalize ((month : Int) + 9) % 12 = m at hm
  omega

theorem monthLength_le (year : Int) (month : Nat) : monthLength year month ≤ 31 := by
  simp only [monthLength]
  split
  · split <;> omega
  · split <;> omega

/-- The moments of these years are in the calendar. -/
theorem inCalendar_of_storable {t : Time} (h : t.Storable) : inCalendar t.seconds := by
  obtain ⟨year, month, day, hdate, hdays, hmonth, -, hday⟩ := dateFromDays_spec (t.seconds / 86400)
  have hyear := h.year
  rw [hdate] at hyear
  have hlength := monthLength_le year month
  have hbounds : -1000000 ≤ daysFromDate year month day ∧ daysFromDate year month day ≤ 4000000 :=
    daysFromDate_bounds hyear (Nat.le_trans hday hlength)
  have hfirst : daysFromDate firstYear 1 1 = -96465292 := by decide
  have hlast : daysFromDate lastYear 12 31 = 95026236 := by decide
  rw [hdays] at hbounds
  rw [inCalendar, hfirst, hlast]
  simp only [Bool.and_eq_true, decide_eq_true_eq]
  omega

/-- The clock of a moment: its time of day, and whether it is in a leap second. -/
def clock (t : Time) : Nat := (t.seconds % 86400).toNat

/-- One in a leap second. -/
def leap (t : Time) : Nat := if t.nanos ≥ 1000000000 then 1 else 0

theorem toList_render {t : Time} {year : Int} {month day : Nat} (places : Nat)
    (hdate : dateFromDays (t.seconds / 86400) = (year, month, day)) :
    (render places t).toList = (yearText year).toList ++ '-' :: ((padded 2 month).toList ++
      '-' :: ((padded 2 day).toList ++ 'T' :: ((padded 2 (t.clock / 3600)).toList ++
      ':' :: ((padded 2 (t.clock / 60 % 60)).toList ++ ':' :: ((padded 2 (t.clock % 60 + t.leap)).toList ++
      ((decimals places (t.nanos % 1000000000)).toList ++ ['Z'])))))) := by
  have hdash : "-".toList = ['-'] := rfl
  have hcolon : ":".toList = [':'] := rfl
  have hT : "T".toList = ['T'] := rfl
  have hZ : "Z".toList = ['Z'] := rfl
  simp only [render, hdate, String.toList_append, hdash, hcolon, hT, hZ, List.append_assoc, List.cons_append,
    List.nil_append]
  rfl

theorem ofParts?_storable {t : Time} (h : t.Storable) {year : Int} {month day : Nat}
    (hdate : dateFromDays (t.seconds / 86400) = (year, month, day)) :
    ofParts? year month day (t.clock / 3600) (t.clock / 60 % 60) (t.clock % 60 + t.leap) (t.nanos % 1000000000) 0 =
      some t := by
  obtain ⟨year', month', day', hdate', hdays, hmonth, hday⟩ := dateFromDays_spec (t.seconds / 86400)
  obtain ⟨rfl, rfl, rfl⟩ : year' = year ∧ month' = month ∧ day' = day := by simpa [hdate'] using hdate
  have hyear := h.year
  rw [hdate] at hyear
  have hclock : (t.clock : Int) = t.seconds % 86400 := by simp only [clock]; omega
  -- a second with number sixty is the last one again, and has all of its nanoseconds behind it
  obtain ⟨hsecond, hmin, hnanos⟩ : t.clock % 60 + t.leap ≤ 60 ∧ min (t.clock % 60 + t.leap) 59 = t.clock % 60 ∧
      t.nanos % 1000000000 + (if t.clock % 60 + t.leap = 60 then 1000000000 else 0) = t.nanos := by
    rcases h.nanos with hsmall | ⟨hlarge, hend⟩
    · have hleap : t.leap = 0 := by rw [leap, if_neg (by omega)]
      rw [hleap, if_neg (by omega)]
      omega
    · by_cases hfull : t.nanos ≥ 1000000000
      · have hleap : t.leap = 1 := by rw [leap, if_pos hfull]
        rw [hleap, if_pos (by omega)]
        omega
      · have hleap : t.leap = 0 := by rw [leap, if_neg hfull]
        rw [hleap, if_neg (by omega)]
        omega
  have hseconds : daysFromDate year' month' day' * 86400 +
      ((t.clock / 3600 * 3600 + t.clock / 60 % 60 * 60 + min (t.clock % 60 + t.leap) 59 : Nat) : Int) - 0 =
      t.seconds := by
    rw [hdays, hmin]
    omega
  have hcalendar := inCalendar_of_storable h
  have hparts : firstYear ≤ year' ∧ year' ≤ lastYear ∧ 1 ≤ month' ∧ month' ≤ 12 ∧ 1 ≤ day' ∧
      day' ≤ monthLength year' month' ∧ t.clock / 3600 ≤ 23 ∧ t.clock / 60 % 60 ≤ 59 ∧ t.clock % 60 + t.leap ≤ 60 ∧
      (0 : Int).natAbs < 86400 := by
    simp only [firstYear, lastYear]
    simp only at hyear
    omega
  simp only [ofParts?]
  rw [if_pos hparts, hseconds, if_pos hcalendar, hnanos]

/-- The parts of a text are read one after the other. -/
theorem parse_eq_some {s : String} {t : Time} {year : Int} {month day hour minute second nanos : Nat}
    {y m d o h i n r z e : List Char} (hyear : year? s.toList = some (year, y)) (hm : mark? '-' y = some m)
    (hmonth : part? 2 m = some (month, d)) (ho : mark? '-' d = some o) (hday : part? 2 o = some (day, 'T' :: h))
    (hhour : part? 2 h = some (hour, i)) (hn : mark? ':' i = some n) (hminute : part? 2 n = some (minute, r))
    (hz : mark? ':' r = some z) (hsecond : part? 2 z = some (second, e)) (hnanos : nanos? e = some (nanos, ['Z']))
    (hparts : ofParts? year month day hour minute second nanos 0 = some t) : parse s = some t := by
  have htrim : Text.trimStart ['Z'] = ['Z'] := by decide
  have hoffset : offset? ['Z'] = some (0, []) := rfl
  rw [parse]
  refine Option.bind_eq_some_iff.mpr ⟨_, hyear, ?_⟩
  refine Option.bind_eq_some_iff.mpr ⟨_, hm, ?_⟩
  refine Option.bind_eq_some_iff.mpr ⟨_, hmonth, ?_⟩
  refine Option.bind_eq_some_iff.mpr ⟨_, ho, ?_⟩
  refine Option.bind_eq_some_iff.mpr ⟨_, hday, ?_⟩
  refine Option.bind_eq_some_iff.mpr ⟨_, hhour, ?_⟩
  refine Option.bind_eq_some_iff.mpr ⟨_, hn, ?_⟩
  refine Option.bind_eq_some_iff.mpr ⟨_, hminute, ?_⟩
  refine Option.bind_eq_some_iff.mpr ⟨_, hz, ?_⟩
  refine Option.bind_eq_some_iff.mpr ⟨_, hsecond, ?_⟩
  refine Option.bind_eq_some_iff.mpr ⟨_, hnanos, ?_⟩
  dsimp only
  rw [htrim]
  exact Option.bind_eq_some_iff.mpr ⟨_, hoffset, hparts⟩

/-- A stored moment is read back. -/
theorem parse_toText {t : Time} (h : t.Storable) : parse t.toText = some t := by
  obtain ⟨year, month, day, hdate, hdays, hmonth, hday⟩ := dateFromDays_spec (t.seconds / 86400)
  have hclock : t.clock < 86400 := by simp only [clock]; omega
  have hleap : t.leap ≤ 1 := by simp only [leap]; split <;> omega
  have hlength := monthLength_le year month
  obtain ⟨hplaces, hexact⟩ := placesNeeded_exact t
  have hdash : Text.isBlank '-' = false := by decide
  have hcolon : Text.isBlank ':' = false := by decide
  have htext : t.toText.toList = _ := toList_render _ hdate
  have hparts := ofParts?_storable h hdate
  refine parse_eq_some (by rw [htext]; exact year?_yearText _ _) (mark?_cons hdash _)
    (part?_padded (by decide) (show month < 10 ^ 2 by omega) _) (mark?_cons hdash _)
    (part?_padded (by decide) (show day < 10 ^ 2 by omega) _)
    (part?_padded (by decide) (show t.clock / 3600 < 10 ^ 2 by omega) _) (mark?_cons hcolon _)
    (part?_padded (by decide) (show t.clock / 60 % 60 < 10 ^ 2 by omega) _) (mark?_cons hcolon _)
    (part?_padded (by decide) (show t.clock % 60 + t.leap < 10 ^ 2 by omega) _)
    (nanos?_decimals hplaces (Nat.mod_lt _ (by decide)) hexact) hparts

/-! ## Moments that are read -/

/-- A moment of a clock: the nanoseconds are fewer than a second has, or a leap second ends the minute. -/
def Proper (t : Time) : Prop := t.nanos < 1000000000 ∨ t.nanos < 2000000000 ∧ t.seconds % 60 = 59

theorem nanos?_lt {cs rest : List Char} {n : Nat} (h : nanos? cs = some (n, rest)) : n < 1000000000 := by
  simp only [nanos?] at h
  split at h
  next r =>
    split at h
    · cases h
    obtain ⟨rfl, -⟩ := Prod.mk.inj (Option.some.inj h)
    generalize hkept : List.take 9 (r.takeWhile Char.isDigit) = kept
    have hlength : kept.length ≤ 9 := by rw [← hkept]; exact List.length_take_le _ _
    have hdigits : ∀ c ∈ kept, c.isDigit := by
      intro c hc
      rw [← hkept] at hc
      exact List.all_eq_true.mp (List.all_takeWhile ..) c (List.mem_of_mem_take hc)
    have hvalue := Digits.ofDigitChars_lt hdigits 0
    rw [Digits.foldl_eq]
    calc _ < (0 + 1) * 10 ^ kept.length * 10 ^ (9 - kept.length) :=
          Nat.mul_lt_mul_of_pos_right hvalue (Nat.pow_pos (by decide))
      _ = 10 ^ 9 := by rw [Nat.zero_add, Nat.one_mul, ← Nat.pow_add]; congr 1; omega
  · cases h
    decide

/-- An offset is one of whole minutes. -/
theorem offset?_mod {cs rest : List Char} {offset : Int} (h : offset? cs = some (offset, rest)) : offset % 60 = 0 := by
  have hminutes (n : Nat) (c : Char) :
      (if c = '+' then ((n * 60 : Nat) : Int) else -((n * 60 : Nat) : Int)) % 60 = 0 := by
    split <;> omega
  simp only [offset?] at h
  split at h
  · cases h
  split at h
  · cases h
    rfl
  split at h
  · -- a sign, two digits of hours and two of minutes
    split at h
    · split at h
      · split at h
        · split at h
          · obtain ⟨rfl, -⟩ := Prod.mk.inj (Option.some.inj h)
            exact hminutes _ _
          · cases h
        · cases h
      · cases h
    · cases h
  · cases h

/-- The end of a minute is one at every offset of whole minutes. -/
theorem ofParts?_proper {year offset : Int} {month day hour minute second nanos : Nat} {t : Time}
    (hnanos : nanos < 1000000000) (hoffset : offset % 60 = 0)
    (h : ofParts? year month day hour minute second nanos offset = some t) : t.Proper := by
  simp only [ofParts?] at h
  split at h
  next hparts =>
    split at h
    · cases h
      simp only [Proper]
      split <;> omega
    · cases h
  · cases h

/-- Moments that are read are those of a clock. -/
theorem proper_of_parse {s : String} {t : Time} (h : parse s = some t) : t.Proper := by
  rw [parse] at h
  obtain ⟨year, -, h⟩ := Option.bind_eq_some_iff.mp h
  obtain ⟨_, -, h⟩ := Option.bind_eq_some_iff.mp h
  obtain ⟨month, -, h⟩ := Option.bind_eq_some_iff.mp h
  obtain ⟨_, -, h⟩ := Option.bind_eq_some_iff.mp h
  obtain ⟨day, -, h⟩ := Option.bind_eq_some_iff.mp h
  dsimp only at h
  split at h
  · split at h
    · obtain ⟨_, -, h⟩ := Option.bind_eq_some_iff.mp h
      obtain ⟨hour, -, h⟩ := Option.bind_eq_some_iff.mp h
      obtain ⟨_, -, h⟩ := Option.bind_eq_some_iff.mp h
      obtain ⟨minute, -, h⟩ := Option.bind_eq_some_iff.mp h
      obtain ⟨_, -, h⟩ := Option.bind_eq_some_iff.mp h
      obtain ⟨second, -, h⟩ := Option.bind_eq_some_iff.mp h
      obtain ⟨⟨nanos, rest⟩, hnanos, h⟩ := Option.bind_eq_some_iff.mp h
      have hlt := nanos?_lt hnanos
      have hzone (h : ((offset? (Text.trimStart rest)).bind fun zone =>
          if (Text.trimStart zone.2).isEmpty then
            ofParts? year.1 month.1 day.1 hour.1 minute.1 second.1 nanos zone.1
          else none) = some t) : t.Proper := by
        obtain ⟨⟨offset, _⟩, hoffset, h⟩ := Option.bind_eq_some_iff.mp h
        split at h
        · exact ofParts?_proper hlt (offset?_mod hoffset) h
        · cases h
      dsimp only at h
      split at h
      · split at h
        · -- the zone is named
          obtain ⟨⟨offset, _⟩, hoffset, h⟩ := Option.bind_eq_some_iff.mp h
          obtain ⟨rfl, -⟩ := Prod.mk.inj (Option.some.inj hoffset)
          split at h
          · exact ofParts?_proper hlt rfl h
          · cases h
        · exact hzone h
      · exact hzone h
    · cases h
  · cases h

/-! ## All decimals -/

/-- The decimals and the mark behind them are the last that is written. -/
theorem exists_stem (t : Time) :
    ∃ stem : String, ∀ places, render places t = stem ++ decimals places (t.nanos % 1000000000) ++ "Z" :=
  ⟨_, fun _ => rfl⟩

theorem decimals_nine (nanos : Nat) : decimals 9 nanos = "." ++ padded 9 nanos := by
  rw [decimals, if_neg (by omega), Nat.sub_self, Nat.pow_eq, Nat.pow_zero, Nat.div_one]

theorem length_nanos (t : Time) : (padded 9 (t.nanos % 1000000000)).toList.length = 9 :=
  length_padded (by omega) (Nat.mod_lt _ (by decide))

theorem Proper.nanos_eq {t : Time} (h : t.Proper) : t.nanos = t.leap * 1000000000 + t.nanos % 1000000000 := by
  simp only [leap]
  rcases h with h | ⟨h, -⟩ <;> split <;> omega

theorem Proper.clock_of_leap {t : Time} (h : t.Proper) : t.leap = 0 ∨ t.leap = 1 ∧ t.clock % 60 = 59 := by
  simp only [leap, clock]
  rcases h with h | ⟨h, hend⟩ <;> split <;> omega

/-- A moment is told by its text with all decimals. -/
theorem Proper.eq_of_render {a b : Time} (ha : a.Proper) (hb : b.Proper) (h : render 9 a = render 9 b) : a = b := by
  obtain ⟨y, mo, d, hadate, hadays, hamonth, haday⟩ := dateFromDays_spec (a.seconds / 86400)
  obtain ⟨z, mo', d', hbdate, hbdays, hbmonth, hbday⟩ := dateFromDays_spec (b.seconds / 86400)
  have halength := monthLength_le y mo
  have hblength := monthLength_le z mo'
  have haclock : (a.clock : Int) = a.seconds % 86400 := by simp only [clock]; omega
  have hbclock : (b.clock : Int) = b.seconds % 86400 := by simp only [clock]; omega
  have haleap := ha.clock_of_leap
  have hbleap := hb.clock_of_leap
  have hread := congrArg (fun s => year? s.toList) h
  simp only [toList_render 9 hadate, toList_render 9 hbdate, year?_yearText] at hread
  obtain ⟨hyear, hrest⟩ := Prod.mk.inj (Option.some.inj hread)
  obtain ⟨hmonth, hrest⟩ := padded_append_inj (by decide) (by omega) (by omega) (List.cons.inj hrest).2
  obtain ⟨hday, hrest⟩ := padded_append_inj (by decide) (by omega) (by omega) (List.cons.inj hrest).2
  obtain ⟨hhour, hrest⟩ := padded_append_inj (by decide) (by omega) (by omega) (List.cons.inj hrest).2
  obtain ⟨hminute, hrest⟩ := padded_append_inj (by decide) (by omega) (by omega) (List.cons.inj hrest).2
  obtain ⟨hsecond, hrest⟩ := padded_append_inj (by decide) (by omega) (by omega) (List.cons.inj hrest).2
  have hnanos : a.nanos % 1000000000 = b.nanos % 1000000000 := by
    rw [decimals_nine, decimals_nine, String.toList_append, String.toList_append, List.append_assoc,
      List.append_assoc] at hrest
    exact (padded_append_inj (by decide) (Nat.mod_lt _ (by decide)) (Nat.mod_lt _ (by decide))
      (List.append_cancel_left hrest)).1
  have hdays : a.seconds / 86400 = b.seconds / 86400 := by rw [← hadays, ← hbdays, hyear, hmonth, hday]
  -- the sixtieth second is written for a leap second only
  have hleap : a.leap = b.leap := by omega
  have hseconds : a.seconds = b.seconds := by omega
  have hnanos' : a.nanos = b.nanos := by rw [ha.nanos_eq, hb.nanos_eq, hleap, hnanos]
  cases a
  cases b
  exact congrArg₂ Time.mk hseconds hnanos'

-- a leap second within a minute would be written like the second after it
example : render 9 ⟨30, 1500000000⟩ = render 9 ⟨31, 500000000⟩ := by decide +kernel

/-- The decimals make a text longer by ten bytes at most. -/
theorem utf8ByteSize_render (t : Time) : (render 9 t).utf8ByteSize ≤ t.toText.utf8ByteSize + 10 := by
  obtain ⟨stem, hstem⟩ := t.exists_stem
  have hascii : ∀ c ∈ (padded 9 (t.nanos % 1000000000)).toList, c.toNat < 128 := by
    intro c hc
    have hdigit := isDigit_padded c hc
    simp only [Char.isDigit, Bool.and_eq_true, decide_eq_true_eq, UInt32.le_iff_toNat_le] at hdigit
    exact Nat.lt_of_le_of_lt hdigit.2 (by decide)
  have hpadded := Text.utf8ByteSize_ascii hascii
  rw [String.ofList_toList, length_nanos] at hpadded
  have hdot : ".".utf8ByteSize = 1 := rfl
  rw [toText, hstem, hstem, decimals_nine]
  simp only [String.utf8ByteSize_append, hpadded, hdot]
  omega

/-! ## Marks -/

/-- What the text of a moment is made of. -/
def isMark (c : Char) : Bool := c.isDigit || "-+:.TZ".toList.contains c

theorem all_padded (width n : Nat) : (padded width n).toList.all isMark := by
  rw [List.all_eq_true]
  intro c hc
  rw [isMark, isDigit_padded c hc, Bool.true_or]

theorem all_yearText (year : Int) : (yearText year).toList.all isMark := by
  rw [yearText]
  split
  · exact all_padded _ _
  · rw [String.toList_append, List.all_append, all_padded, Bool.and_true]
    split <;> decide

theorem all_decimals (places nanos : Nat) : (decimals places nanos).toList.all isMark := by
  rw [decimals]
  split
  · rfl
  · rw [String.toList_append, List.all_append, all_padded, Bool.and_true]
    decide

theorem all_render (places : Nat) (t : Time) : (render places t).toList.all isMark := by
  have hdash : "-".toList.all isMark := by decide
  have hcolon : ":".toList.all isMark := by decide
  have hT : "T".toList.all isMark := by decide
  have hZ : "Z".toList.all isMark := by decide
  have hpart := all_decimals places (t.nanos % 1000000000)
  rw [decimals] at hpart
  simp only [render, String.toList_append, List.all_append, all_yearText, all_padded, hdash, hcolon, hT, hZ, hpart,
    Bool.and_true]

end Mend.Time
