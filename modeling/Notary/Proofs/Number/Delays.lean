import Mathlib.Algebra.Group.Nat.Defs
import Notary.Backoff

namespace Notary

/-!
The delays after failures. Words of 64 bits are wide enough for them: a product that does not fit is
above every ceiling, so that what saturation leaves of it is cut to the same delay. Their jitter is added
to them afterwards, and that sum has to fit a word.
-/

namespace Checked

theorem min_saturatingMul {bits left right ceiling : Nat} (word : ceiling < limit bits) :
    min (saturatingMul bits left right) ceiling = min (left * right) ceiling := by
  unfold saturatingMul
  omega

/-- Where the power does not fit, its product with anything but 0 is above the ceiling both before and
after saturation. -/
theorem min_mul_saturatingPowTwo {bits exponent factor ceiling : Nat} (word : ceiling < limit bits) :
    min (factor * saturatingPowTwo bits exponent) ceiling = min (factor * 2 ^ exponent) ceiling := by
  rw [saturatingPowTwo_eq, Nat.one_shiftLeft]
  by_cases fits : 2 ^ exponent ≤ limit bits - 1
  · rw [Nat.min_eq_left fits]
  · have beyond : limit bits - 1 ≤ 2 ^ exponent := by omega
    rw [Nat.min_eq_right beyond]
    cases factor with
    | zero => simp
    | succ factor =>
        have positive : 0 < factor + 1 := by omega
        have saturated := Nat.le_mul_of_pos_left (limit bits - 1) positive
        have exact := Nat.le_mul_of_pos_left (2 ^ exponent) positive
        rw [Nat.min_eq_right (by omega), Nat.min_eq_right (by omega)]

end Checked

namespace Backoff

variable {base ceiling budget attempt failures jitter : Nat} {backoff : Backoff} {jitters : List Nat}

/-- The delay after a failure that has so many others before it, in exact arithmetic and without jitter. -/
def exactDelay (base ceiling failures : Nat) : Nat :=
  min (base * 2 ^ failures) ceiling

theorem delay_eq (word : ceiling < Checked.limit 64) (counted : 1 ≤ attempt) :
    delay base ceiling attempt = exactDelay base ceiling (attempt - 1) := by
  have later : attempt ≠ 0 := by omega
  rw [delay, if_neg later, Checked.min_saturatingMul word, Checked.min_mul_saturatingPowTwo word,
    exactDelay]

theorem exactDelay_le : exactDelay base ceiling failures ≤ ceiling :=
  Nat.min_le_right _ _

theorem exactDelay_mono {first second : Nat} (before : first ≤ second) :
    exactDelay base ceiling first ≤ exactDelay base ceiling second := by
  have grows := Nat.mul_le_mul_left base (Nat.pow_le_pow_right (n := 2) (by omega) before)
  unfold exactDelay
  omega

theorem mostJitter_le (delay : Nat) : mostJitter delay ≤ delay / 10 :=
  Nat.sub_le _ _

/-- Every delay of the budget fits a word with the most jitter that it can have. -/
def Roomy (backoff : Backoff) : Prop :=
  ∀ attempt, 1 ≤ attempt → attempt ≤ backoff.budget →
    delay backoff.base backoff.ceiling attempt +
      mostJitter (delay backoff.base backoff.ceiling attempt) < Checked.limit 64

theorem roomy_of_ceiling
    (fits : backoff.ceiling + mostJitter backoff.ceiling < Checked.limit 64) : backoff.Roomy := by
  intro attempt counted within
  have below : delay backoff.base backoff.ceiling attempt ≤ backoff.ceiling := by
    unfold delay
    split
    · exact Nat.zero_le _
    · exact Nat.min_le_right _ _
  have less : mostJitter (delay backoff.base backoff.ceiling attempt) ≤ mostJitter backoff.ceiling :=
    Nat.sub_le_sub_right (Nat.div_le_div_right below) 1
  omega

/-- The answer to a failure that has so many others before it. -/
def due (base ceiling budget failures jitter : Nat) : Except Fault (Option Nat) :=
  if failures < budget then (Checked.add 64 (exactDelay base ceiling failures) jitter).map some
  else .ok none

theorem fail_eq (short : backoff.failures + 1 < Checked.limit 32) :
    backoff.fail jitter =
      (if backoff.failures < backoff.budget then
          (jittered backoff.base backoff.ceiling (backoff.failures + 1) jitter).map some
        else .ok none,
        { backoff with failures := backoff.failures + 1 }) := by
  unfold fail
  by_cases within : backoff.failures < backoff.budget
  · simp [Checked.add, short, within, Nat.not_lt.mpr within]
  · simp [Checked.add, short, within, Nat.lt_succ_of_le (Nat.not_lt.mp within)]

theorem fail_eq_due (word : backoff.ceiling < Checked.limit 64)
    (short : backoff.failures + 1 < Checked.limit 32) :
    backoff.fail jitter =
      (due backoff.base backoff.ceiling backoff.budget backoff.failures jitter,
        { backoff with failures := backoff.failures + 1 }) := by
  rw [fail_eq short, jittered, delay_eq word (Nat.le_add_left 1 _), Nat.add_sub_cancel, due]

theorem due_eq_none : due base ceiling budget failures jitter = .ok none ↔ budget ≤ failures := by
  unfold due Checked.add
  split
  · next within =>
      refine iff_of_false ?_ (Nat.not_le.mpr within)
      split <;> simp [Except.map]
  · next spent => exact iff_of_true rfl (Nat.le_of_not_lt spent)

theorem due_within (within : failures < budget)
    (fits : exactDelay base ceiling failures + jitter < Checked.limit 64) :
    due base ceiling budget failures jitter =
      .ok (some (exactDelay base ceiling failures + jitter)) := by
  rw [due, if_pos within, Checked.add, if_pos fits]
  rfl

/-- What a loop tells its counter of failures. Jitter comes with each of them. -/
inductive Event where
  | failure (jitter : Nat)
  | success
  deriving DecidableEq, Repr

def meet (backoff : Backoff) : Event → Backoff
  | .failure jitter => (backoff.fail jitter).2
  | .success => backoff.reset

def after (backoff : Backoff) (events : List Event) : Backoff :=
  events.foldl meet backoff

/-- The answers to failures in a row, each of them with its jitter. -/
def answers : (jitters : List Nat) → (backoff : Backoff) → List (Except Fault (Option Nat))
  | [], _ => []
  | jitter :: rest, backoff => (backoff.fail jitter).1 :: answers rest (backoff.fail jitter).2

/-- Nothing happened yet, or a success did last. -/
def AtStart (events : List Event) : Prop :=
  events = [] ∨ ∃ earlier, events = earlier ++ [.success]

theorem fail_keeps (backoff : Backoff) (jitter : Nat) :
    ∃ failures, (backoff.fail jitter).2 = { backoff with failures } := by
  unfold fail
  split
  · exact ⟨backoff.failures, rfl⟩
  · split <;> exact ⟨_, rfl⟩

theorem meet_keeps (backoff : Backoff) (event : Event) :
    ∃ failures, backoff.meet event = { backoff with failures } := by
  cases event with
  | failure jitter => exact fail_keeps backoff jitter
  | success => exact ⟨0, rfl⟩

theorem after_keeps (backoff : Backoff) (events : List Event) :
    ∃ failures, backoff.after events = { backoff with failures } := by
  induction events generalizing backoff with
  | nil => exact ⟨backoff.failures, rfl⟩
  | cons event rest ih =>
      obtain ⟨met, same⟩ := meet_keeps backoff event
      obtain ⟨failures, kept⟩ := ih (backoff.meet event)
      exact ⟨failures, by rw [same] at kept; simpa [after, same] using kept⟩

theorem after_success (backoff : Backoff) (events : List Event) :
    backoff.after (events ++ [.success]) = backoff.reset := by
  obtain ⟨failures, kept⟩ := after_keeps backoff events
  unfold after at kept ⊢
  rw [List.foldl_append, kept]
  rfl

/-- Where a streak begins, nothing is left of the ones before it. -/
theorem after_atStart {events : List Event} (fresh : backoff.failures = 0) (start : AtStart events) :
    backoff.after events = backoff := by
  rcases start with rfl | ⟨earlier, rfl⟩
  · rfl
  · rw [after_success, reset, ← fresh]

theorem answers_eq (word : backoff.ceiling < Checked.limit 64)
    (short : backoff.failures + jitters.length < Checked.limit 32) :
    answers jitters backoff = jitters.mapIdx fun place =>
      due backoff.base backoff.ceiling backoff.budget (backoff.failures + place) := by
  induction jitters generalizing backoff with
  | nil => rfl
  | cons jitter rest ih =>
      rw [List.length_cons] at short
      have counted := @fail_eq_due jitter backoff word (by omega)
      have later := @ih { backoff with failures := backoff.failures + 1 } word (by
        simp only
        omega)
      rw [answers, counted, later, List.mapIdx_cons]
      simp only [Nat.add_zero, Nat.add_assoc, Nat.add_comm 1]

/-- What a streak of failures is answered, each of them with its jitter. -/
structure Streak (base ceiling budget : Nat) (jitters : List Nat)
    (answers : List (Except Fault (Option Nat))) : Prop where
  /-- Nothing but the place in the streak and the jitter decides an answer. -/
  answered : answers = jitters.mapIdx (due base ceiling budget)
  rising : ∀ first second, first ≤ second →
    exactDelay base ceiling first ≤ exactDelay base ceiling second
  capped : ∀ place, exactDelay base ceiling place ≤ ceiling
  /-- The answers end with the failure after the last that the budget allows. -/
  spent : ∀ (place : Nat) answer, answers[place]? = some answer →
    (answer = .ok none ↔ budget ≤ place)
  /-- Jitter lengthens a delay by a tenth at most; the sum fails where it does not fit a word. -/
  spread : ∀ (place : Nat) jitter answer, place < budget → jitters[place]? = some jitter →
    jitter ≤ mostJitter (exactDelay base ceiling place) → answers[place]? = some answer →
      (answer = .ok (some (exactDelay base ceiling place + jitter)) ∧
        jitter ≤ exactDelay base ceiling place / 10 ∨
      answer = .error (.breakdown (some "attempt to add with overflow")) ∧
        Checked.limit 64 ≤ exactDelay base ceiling place + jitter)

theorem streak_mapIdx :
    Streak base ceiling budget jitters (jitters.mapIdx (due base ceiling budget)) where
  answered := rfl
  rising := fun _ _ => exactDelay_mono
  capped := fun _ => exactDelay_le
  spent := by
    intro place answer told
    obtain ⟨jitter, -, rfl⟩ := Option.map_eq_some_iff.mp (List.getElem?_mapIdx ▸ told)
    exact due_eq_none
  spread := by
    intro place jitter answer within here little told
    rw [List.getElem?_mapIdx, here] at told
    obtain rfl := Option.some.inj told
    by_cases fits : exactDelay base ceiling place + jitter < Checked.limit 64
    · exact .inl ⟨due_within within fits, Nat.le_trans little (mostJitter_le _)⟩
    · refine .inr ⟨?_, Nat.le_of_not_lt fits⟩
      rw [due, if_pos within, Checked.add, if_neg fits]
      rfl

/-- The delays are those of exact arithmetic, and every streak of failures has the same ones, until it
ends with the failure after the last that the budget allows. Where there is room for the jitter, no
failure of the budget goes without a delay. -/
theorem every_streak_doubles_to_ceiling (fresh : backoff.failures = 0)
    (word : backoff.ceiling < Checked.limit 64) (counted : backoff.budget < Checked.limit 32 - 1) :
    (∀ base ceiling attempt, ceiling < Checked.limit 64 → 1 ≤ attempt →
      delay base ceiling attempt = min (base * 2 ^ (attempt - 1)) ceiling) ∧
    ∀ events, AtStart events →
      (∀ jitters : List Nat, jitters.length < Checked.limit 32 →
        Streak backoff.base backoff.ceiling backoff.budget jitters
          (answers jitters (backoff.after events))) ∧
      (∀ jitters : List Nat, jitters.length = backoff.budget → backoff.Roomy →
        (∀ (place : Nat) jitter, jitters[place]? = some jitter →
          jitter ≤ mostJitter (exactDelay backoff.base backoff.ceiling place)) →
        (∀ answer ∈ answers jitters (backoff.after events), ∃ found, answer = .ok (some found)) ∧
        ∀ last, answers (jitters ++ [last]) (backoff.after events) =
          answers jitters (backoff.after events) ++ [.ok none]) := by
  refine ⟨fun _ _ _ => delay_eq, fun events start => ?_⟩
  rw [after_atStart fresh start]
  have streak (jitters : List Nat) (short : jitters.length < Checked.limit 32) :
      answers jitters backoff =
        jitters.mapIdx (due backoff.base backoff.ceiling backoff.budget) := by
    rw [answers_eq word (by omega)]
    simp only [fresh, Nat.zero_add]
  refine ⟨fun jitters short => ?_, fun jitters whole roomy little => ⟨fun answer given => ?_, ?_⟩⟩
  · rw [streak jitters short]
    exact streak_mapIdx
  · rw [streak jitters (by omega)] at given
    obtain ⟨place, inside, rfl⟩ := List.mem_mapIdx.mp given
    have within : place < backoff.budget := whole ▸ inside
    have room := roomy (place + 1) (Nat.le_add_left 1 place) within
    have slight := little place _ (List.getElem?_eq_getElem inside)
    rw [delay_eq word (Nat.le_add_left 1 place), Nat.add_sub_cancel] at room
    exact ⟨_, due_within within (by omega)⟩
  · intro last
    rw [streak (jitters ++ [last]) (by simp only [List.length_append, List.length_singleton]; omega),
      streak jitters (by omega), List.mapIdx_append]
    have spent := (@due_eq_none backoff.base backoff.ceiling backoff.budget jitters.length last).mpr
      (Nat.le_of_eq whole.symm)
    simp [spent]

/-- A budget of three failures, the last two delays of which are cut to the ceiling. -/
def brisk : Backoff := { base := 100, ceiling := 150, budget := 3 }

theorem second_streak_repeats_delays :
    let second := brisk.after [.failure 3, .failure 0, .success]
    brisk.failures = 0 ∧ brisk.ceiling < Checked.limit 64 ∧ brisk.budget < Checked.limit 32 - 1 ∧
      AtStart [.failure 3, .failure 0, .success] ∧ brisk.Roomy ∧
      answers [9, 0, 14] second = [.ok (some 109), .ok (some 150), .ok (some 164)] ∧
      answers [9, 0, 14, 1] second = answers [9, 0, 14] second ++ [.ok none] := by
  intro second
  have word : brisk.ceiling < Checked.limit 64 := by decide +kernel
  have counted : brisk.budget < Checked.limit 32 - 1 := by decide +kernel
  have roomy : brisk.Roomy := roomy_of_ceiling (by decide +kernel)
  have start : AtStart [.failure 3, .failure 0, .success] := .inr ⟨[.failure 3, .failure 0], rfl⟩
  have little : ∀ (place : Nat) jitter, [9, 0, 14][place]? = some jitter →
      jitter ≤ mostJitter (exactDelay brisk.base brisk.ceiling place) := by
    intro place jitter here
    obtain ⟨inside, rfl⟩ := List.getElem?_eq_some_iff.mp here
    revert inside
    revert place
    decide
  obtain ⟨streaks, ends⟩ := (every_streak_doubles_to_ceiling rfl word counted).2 _ start
  refine ⟨rfl, word, counted, start, roomy, ?_, (ends [9, 0, 14] rfl roomy little).2 1⟩
  exact (streaks [9, 0, 14] (by decide +kernel)).answered

/-- A delay that fits a word may not fit it with its jitter. -/
example : answers [0, 1] { base := 1 <<< 63, ceiling := Checked.limit 64 - 1, budget := 2 } =
    [.ok (some 0x8000_0000_0000_0000),
      .error (.breakdown (some "attempt to add with overflow"))] := by
  rfl

end Backoff

end Notary
