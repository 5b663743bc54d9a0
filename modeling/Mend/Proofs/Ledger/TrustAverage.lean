import Mathlib.Algebra.Order.Archimedean.Basic
import Mathlib.Algebra.Order.Field.Rat
import Mathlib.Order.Interval.Set.Basic
import Mathlib.Tactic.Linarith
import Mathlib.Tactic.Ring
import Mend.Ledger.Trust

/-!
# Trust as a moving average

The score of a record after a run of outcomes is a fold of `blend` over them (`Record.score_foldl_observe`). Here the
same fold is taken over the rationals, where nothing is rounded. There it is a contraction: whatever the score is at
first, one outcome brings it between zero and one, and from then on each outcome brings any two scores closer by the
part `rate` of their distance (`score_contracts`). That scores come close to one under successes, and to zero
under failures, is the case in which one of the two scores is the signal itself.
-/

namespace Mend.Trust

/-! ## Scores after a run of outcomes -/

section Fold

variable {α : Type} [Add α] [Sub α] [Mul α] [LT α] [DecidableLT α] [OfNat α 0] [OfNat α 1]

/-- The score after a run of outcomes, each of which pulls towards its signal. -/
def scoreAfter (signal : Outcome → α) (rate start : α) (os : List Outcome) : α :=
  os.foldl (fun score o => blend score rate (signal o)) start

variable (signal : Outcome → α) (rate start : α)

@[simp] theorem scoreAfter_nil : scoreAfter signal rate start [] = start := rfl

@[simp] theorem scoreAfter_cons (o : Outcome) (os : List Outcome) :
    scoreAfter signal rate start (o :: os) = scoreAfter signal rate (blend start rate (signal o)) os := rfl

end Fold

/-- This is the score that a record is left with. -/
theorem Record.score_foldl_observe (r : Record) (rate : Float) (run : List (Outcome × Time)) :
    (run.foldl (fun r e => r.observe e.1 rate e.2) r).score =
      scoreAfter Outcome.signal rate r.score (run.map Prod.fst) := by
  induction run generalizing r with
  | nil => rfl
  | cons e run ih => exact ih (r.observe e.1 rate e.2)

/-! ## Without rounding -/

/-- The score that an outcome pulls towards. -/
def exactSignal (o : Outcome) : ℚ := o.halves / 2

/-- The score after a run of outcomes. -/
def exactScore (rate start : ℚ) (os : List Outcome) : ℚ := scoreAfter exactSignal rate start os

theorem exactSignal_mem (o : Outcome) : exactSignal o ∈ Set.Icc 0 1 := by
  cases o <;> norm_num [exactSignal, Outcome.halves]

theorem clampUnit_mem (x : ℚ) : clampUnit x ∈ Set.Icc 0 1 := by
  unfold clampUnit
  split_ifs with hlow hhigh
  · exact ⟨le_refl 0, zero_le_one⟩
  · exact ⟨zero_le_one, le_refl 1⟩
  · exact ⟨not_lt.mp hlow, not_lt.mp hhigh⟩

theorem clampUnit_of_mem {x : ℚ} (h : x ∈ Set.Icc 0 1) : clampUnit x = x := by
  rw [clampUnit, if_neg (not_lt.mpr h.1), if_neg (not_lt.mpr h.2)]

variable {rate : ℚ}

/-- Between zero and one, a move towards a signal is one between the score and the signal. -/
theorem move_mem (hrate : rate ∈ Set.Ioc 0 1) {score signal : ℚ} (hscore : score ∈ Set.Icc 0 1)
    (hsignal : signal ∈ Set.Icc 0 1) : score + rate * (signal - score) ∈ Set.Icc 0 1 := by
  have hsplit : score + rate * (signal - score) = (1 - rate) * score + rate * signal := by ring
  have hrest : 0 ≤ 1 - rate := sub_nonneg.mpr hrate.2
  rw [hsplit]
  constructor
  · exact add_nonneg (mul_nonneg hrest hscore.1) (mul_nonneg hrate.1.le hsignal.1)
  · calc (1 - rate) * score + rate * signal
      _ ≤ (1 - rate) * 1 + rate * 1 :=
        add_le_add (mul_le_mul_of_nonneg_left hscore.2 hrest) (mul_le_mul_of_nonneg_left hsignal.2 hrate.1.le)
      _ = 1 := by ring

/-- Between zero and one nothing is clamped. -/
theorem blend_eq (hrate : rate ∈ Set.Ioc 0 1) {score signal : ℚ} (hscore : score ∈ Set.Icc 0 1)
    (hsignal : signal ∈ Set.Icc 0 1) : blend score rate signal = score + rate * (signal - score) := by
  rw [blend, clampUnit_of_mem ⟨hrate.1.le, hrate.2⟩, clampUnit_of_mem (move_mem hrate hscore hsignal)]

theorem blend_mem (score rate signal : ℚ) : blend score rate signal ∈ Set.Icc 0 1 := clampUnit_mem _

/-! ## A run -/

/-- A score between zero and one stays there. -/
theorem exactScore_mem {start : ℚ} (hstart : start ∈ Set.Icc 0 1) (rate : ℚ) (os : List Outcome) :
    exactScore rate start os ∈ Set.Icc 0 1 := by
  induction os generalizing start with
  | nil => exact hstart
  | cons o os ih => exact ih (blend_mem start rate _)

/-- The first outcome brings any score between zero and one. -/
theorem exactScore_mem_of_ne_nil (rate start : ℚ) {os : List Outcome} (hos : os ≠ []) :
    exactScore rate start os ∈ Set.Icc 0 1 := by
  cases os with
  | nil => exact absurd rfl hos
  | cons o os => exact exactScore_mem (blend_mem start rate _) rate os

/-- Each outcome leaves the part `1 - rate` of the distance between two scores. -/
theorem exactScore_sub (hrate : rate ∈ Set.Ioc 0 1) {s t : ℚ} (hs : s ∈ Set.Icc 0 1) (ht : t ∈ Set.Icc 0 1)
    (os : List Outcome) :
    exactScore rate s os - exactScore rate t os = (1 - rate) ^ os.length * (s - t) := by
  induction os generalizing s t with
  | nil => simp [exactScore]
  | cons o os ih =>
    have hstep : blend s rate (exactSignal o) - blend t rate (exactSignal o) = (1 - rate) * (s - t) := by
      rw [blend_eq hrate hs (exactSignal_mem o), blend_eq hrate ht (exactSignal_mem o)]
      ring
    calc exactScore rate s (o :: os) - exactScore rate t (o :: os)
      _ = (1 - rate) ^ os.length * (blend s rate (exactSignal o) - blend t rate (exactSignal o)) :=
        ih (blend_mem s rate _) (blend_mem t rate _)
      _ = (1 - rate) ^ (o :: os).length * (s - t) := by
        rw [hstep, List.length_cons, pow_succ, mul_assoc]

/-! ## The same outcome over and over -/

/-- A score that is the signal already stays. -/
theorem exactScore_signal (hrate : rate ∈ Set.Ioc 0 1) (o : Outcome) (n : ℕ) :
    exactScore rate (exactSignal o) (List.replicate n o) = exactSignal o := by
  induction n with
  | zero => rfl
  | succ n ih =>
    have hstep : blend (exactSignal o) rate (exactSignal o) = exactSignal o := by
      rw [blend_eq hrate (exactSignal_mem o) (exactSignal_mem o), sub_self, mul_zero, add_zero]
    rw [List.replicate_succ, exactScore, scoreAfter_cons, hstep]
    exact ih

/-- What is left of the distance to the signal. -/
theorem exactScore_replicate (hrate : rate ∈ Set.Ioc 0 1) {start : ℚ} (hstart : start ∈ Set.Icc 0 1) (o : Outcome)
    (n : ℕ) :
    exactScore rate start (List.replicate n o) = exactSignal o + (1 - rate) ^ n * (start - exactSignal o) := by
  have hdistance := exactScore_sub hrate hstart (exactSignal_mem o) (List.replicate n o)
  rw [exactScore_signal hrate, List.length_replicate] at hdistance
  exact sub_eq_iff_eq_add'.mp hdistance

/-- Under successes the distance to one shrinks by the same part each time. -/
theorem exactScore_successes (hrate : rate ∈ Set.Ioc 0 1) {start : ℚ} (hstart : start ∈ Set.Icc 0 1) (n : ℕ) :
    1 - exactScore rate start (List.replicate n .success) = (1 - rate) ^ n * (1 - start) := by
  have hsignal : exactSignal .success = 1 := by norm_num [exactSignal, Outcome.halves]
  rw [exactScore_replicate hrate hstart, hsignal]
  ring

/-- Under failures the score shrinks by the same part each time. -/
theorem exactScore_failures (hrate : rate ∈ Set.Ioc 0 1) {start : ℚ} (hstart : start ∈ Set.Icc 0 1) (n : ℕ) :
    exactScore rate start (List.replicate n .failure) = (1 - rate) ^ n * start := by
  have hsignal : exactSignal .failure = 0 := by norm_num [exactSignal, Outcome.halves]
  rw [exactScore_replicate hrate hstart, hsignal]
  ring

/-- What is left of a distance only shrinks. -/
theorem pow_mul_antitone (hrate : rate ∈ Set.Ioc 0 1) {distance : ℚ} (hdistance : 0 ≤ distance) :
    Antitone fun n : ℕ => (1 - rate) ^ n * distance := by
  intro m n hmn
  exact mul_le_mul_of_nonneg_right
    (pow_le_pow_of_le_one (sub_nonneg.mpr hrate.2) (sub_le_self 1 hrate.1.le) hmn) hdistance

/-- And what is left of a distance of at most one is below any bound that the factor itself gets below. -/
theorem pow_mul_lt (hrate : rate ∈ Set.Ioc 0 1) {distance ε : ℚ} (hdistance : 0 ≤ distance) (hone : distance ≤ 1)
    {N n : ℕ} (hn : N ≤ n) (hN : (1 - rate) ^ N < ε) : (1 - rate) ^ n * distance < ε := by
  calc (1 - rate) ^ n * distance
    _ ≤ (1 - rate) ^ N * distance := pow_mul_antitone hrate hdistance hn
    _ ≤ (1 - rate) ^ N := mul_le_of_le_one_right (pow_nonneg (sub_nonneg.mpr hrate.2) N) hone
    _ < ε := hN

/-- **Trust is a contraction towards the outcomes.** Scores are taken without rounding.

* Whatever the score is at first, even out of range, every outcome leaves it between zero and one.
* From a score between zero and one, neither the rate nor any moved score is clamped.
* Two scores between zero and one that see the same outcomes come closer by the part `rate` of their distance with
  each of them.
* Hence successes leave that part of the distance to one, and failures that part of the score; the score never falls
  under successes and never rises under failures, and comes as close to one, and to zero, as is wanted. -/
theorem score_contracts (hrate : rate ∈ Set.Ioc 0 1) :
    (∀ (start : ℚ) (os : List Outcome), os ≠ [] → exactScore rate start os ∈ Set.Icc 0 1) ∧
    (∀ start ∈ Set.Icc (0 : ℚ) 1, ∀ (os : List Outcome) (o : Outcome), clampUnit rate = rate ∧
      clampUnit (exactScore rate start os + rate * (exactSignal o - exactScore rate start os)) =
        exactScore rate start os + rate * (exactSignal o - exactScore rate start os)) ∧
    (∀ s ∈ Set.Icc (0 : ℚ) 1, ∀ t ∈ Set.Icc (0 : ℚ) 1, ∀ os : List Outcome,
      exactScore rate s os - exactScore rate t os = (1 - rate) ^ os.length * (s - t)) ∧
    ∀ start ∈ Set.Icc (0 : ℚ) 1,
      (∀ n, 1 - exactScore rate start (List.replicate n .success) = (1 - rate) ^ n * (1 - start)) ∧
      (∀ n, exactScore rate start (List.replicate n .failure) = (1 - rate) ^ n * start) ∧
      Monotone (fun n => exactScore rate start (List.replicate n .success)) ∧
      Antitone (fun n => exactScore rate start (List.replicate n .failure)) ∧
      ∀ ε > 0, ∃ N, ∀ n ≥ N, 1 - exactScore rate start (List.replicate n .success) < ε ∧
        exactScore rate start (List.replicate n .failure) < ε := by
  refine ⟨fun start os => exactScore_mem_of_ne_nil rate start, ?_, fun s hs t ht => exactScore_sub hrate hs ht, ?_⟩
  · intro start hstart os o
    exact ⟨clampUnit_of_mem ⟨hrate.1.le, hrate.2⟩,
      clampUnit_of_mem (move_mem hrate (exactScore_mem hstart rate os) (exactSignal_mem o))⟩
  · intro start hstart
    have hsuccesses := exactScore_successes hrate hstart
    have hfailures := exactScore_failures hrate hstart
    refine ⟨hsuccesses, hfailures, ?_, ?_, ?_⟩
    · intro m n hmn
      have hleft := pow_mul_antitone hrate (sub_nonneg.mpr hstart.2) hmn
      simp only [← hsuccesses] at hleft
      exact (sub_le_sub_iff_left 1).mp hleft
    · intro m n hmn
      have hleft := pow_mul_antitone hrate hstart.1 hmn
      simpa only [← hfailures] using hleft
    · intro ε hε
      obtain ⟨N, hN⟩ := exists_pow_lt_of_lt_one hε (sub_lt_self 1 hrate.1)
      refine ⟨N, fun n hn => ?_⟩
      rw [hsuccesses, hfailures]
      exact ⟨pow_mul_lt hrate (sub_nonneg.mpr hstart.2) (sub_le_self 1 hstart.1) hn hN,
        pow_mul_lt hrate hstart.1 hstart.2 hn hN⟩

/-- With a rate of a third, scores of one and three quarters are four twenty-sevenths apart after three outcomes, and
two successes leave a third of one; one failure brings a score of minus seven into range. -/
theorem score_contracts_third :
    (1 / 3 : ℚ) ∈ Set.Ioc 0 1 ∧ exactScore (1 / 3) (-7) [.failure] ∈ Set.Icc 0 1 ∧
      exactScore (1 / 3) (3 / 4) [.partly, .failure, .success] -
        exactScore (1 / 3) (1 / 4) [.partly, .failure, .success] = 4 / 27 ∧
      1 - exactScore (1 / 3) (1 / 4) (List.replicate 2 .success) = 1 / 3 := by
  have hrate : (1 / 3 : ℚ) ∈ Set.Ioc 0 1 := by norm_num
  have hquarter : (1 / 4 : ℚ) ∈ Set.Icc 0 1 := by norm_num
  have hquarters : (3 / 4 : ℚ) ∈ Set.Icc 0 1 := by norm_num
  obtain ⟨hrange, -, hdistance, hconstant⟩ := score_contracts hrate
  refine ⟨hrate, hrange (-7) _ (by simp), ?_, ?_⟩
  · rw [hdistance _ hquarters _ hquarter]
    norm_num
  · rw [(hconstant _ hquarter).1]
    norm_num

end Mend.Trust
