import Mathlib.Data.List.Induction
import Notary.Proofs.Number.Delays
import Notary.Proofs.Program.Exchange
import Notary.Tracker.Finality

namespace Notary.Tracker

/-!
Where the polling loop stops. The rule reads the outcomes of the checks so far, and knows nothing of
the counter by which the loop keeps it.
-/

abbrev Finding := Except Error Status

/-- The number of failures in a row with which a sequence of outcomes ends. -/
def streak (outcomes : List Finding) : Nat :=
  (outcomes.reverse.takeWhile fun outcome => !outcome.isOk).length

/-- The result of the wait, if the next outcome ends it: the failure that follows on as many in a row
as the budget allows is one too many. -/
def verdict (budget : Nat) (earlier : List Finding) : Finding → Option (Except Error FinalityRecord)
  | .ok (.confirmed record) => some (.ok record)
  | .ok (.failed reason) => some (.error (.rejected reason))
  | .ok .pending | .ok (.confirming _ _) => none
  | .error (.notFound transaction) => some (.error (.notFound transaction))
  | .error e => if streak earlier = budget then some (.error e) else none

def Undecided (budget : Nat) (outcomes : List Finding) : Prop :=
  ∀ earlier outcome later, outcomes = earlier ++ outcome :: later →
    verdict budget earlier outcome = none

/-- A check, what it was answered, and what it came to; and how a number falls out that is drawn next. -/
structure Round (tracker : Tracker) (submission : Submission) where
  exchanges : List Exchange
  outcome : Finding
  takes : (tracker.check submission).Takes exchanges (outcome.mapError .failure)
  chance : (most : Nat) → Fin (most + 1)

/-- The delay after a failure that follows on these outcomes, without jitter. -/
def bareDelay (tracker : Tracker) (earlier : List Finding) : Nat :=
  Backoff.delay tracker.finality.backoffBaseMs tracker.finality.backoffMaxMs (streak earlier + 1)

variable {tracker : Tracker} {submission : Submission}

namespace Round

def outcomes (rounds : List (Round tracker submission)) : List Finding :=
  rounds.map Round.outcome

/-- The drawing of the jitter of the delay after a failure. -/
def draws (round : Round tracker submission) (earlier : List Finding) : Exchange :=
  let most := Backoff.mostJitter (tracker.bareDelay earlier)
  ⟨.draw most, round.chance most⟩

/-- The jitter that falls to the delay after a failure. -/
def jitter (round : Round tracker submission) (earlier : List Finding) : Nat :=
  round.chance (Backoff.mostJitter (tracker.bareDelay earlier))

def delay (round : Round tracker submission) (earlier : List Finding) : Nat :=
  tracker.bareDelay earlier + round.jitter earlier

/-- What the loop does after an outcome that does not end the wait. -/
def rest (round : Round tracker submission) (earlier : List Finding) : List Exchange :=
  match round.outcome with
  | .ok _ => [⟨.pause tracker.finality.pollIntervalMs, ()⟩]
  | .error _ => [round.draws earlier, ⟨.pause (round.delay earlier), ()⟩]

/-- A delay that is due after the outcome fits a word. -/
def Fits (round : Round tracker submission) (earlier : List Finding) : Prop :=
  ∀ e, round.outcome = .error e → round.delay earlier < Checked.limit 64

/-- The delays that are due fit their words, round after round. -/
def Fit (earlier : List Finding) (rounds : List (Round tracker submission)) : Prop :=
  ∀ before round after, rounds = before ++ round :: after →
    round.Fits (earlier ++ outcomes before)

end Round

/-- The rounds, each with what the loop does after it. -/
def paced (earlier : List Finding) : List (Round tracker submission) → List Exchange
  | [] => []
  | round :: rounds =>
      round.exchanges ++ round.rest earlier ++ paced (earlier ++ [round.outcome]) rounds

def backoffAfter (tracker : Tracker) (outcomes : List Finding) : Backoff :=
  { tracker.freshBackoff with failures := streak outcomes }

variable {budget : Nat} {earlier outcomes : List Finding} {outcome : Finding}
  {rounds : List (Round tracker submission)} {result : Except Error FinalityRecord}

theorem streak_append_ok (earlier : List Finding) (status : Status) :
    streak (earlier ++ [.ok status]) = 0 := by
  simp [streak, Except.isOk, Except.toBool]

theorem streak_append_error (earlier : List Finding) (e : Error) :
    streak (earlier ++ [.error e]) = streak earlier + 1 := by
  simp [streak, Except.isOk, Except.toBool]

theorem streak_append_le (earlier : List Finding) (outcome : Finding) :
    streak (earlier ++ [outcome]) ≤ streak earlier + 1 := by
  cases outcome with
  | ok status => simp [streak_append_ok]
  | error e => exact Nat.le_of_eq (streak_append_error earlier e)

/-- While the wait goes on, the failures in a row are within the budget. -/
theorem streak_within (within : streak earlier ≤ budget)
    (undecided : verdict budget earlier outcome = none) :
    streak (earlier ++ [outcome]) ≤ budget := by
  match outcome with
  | .ok status => simp [streak_append_ok]
  | .error e =>
      have unspent : streak earlier ≠ budget := by
        intro spent
        cases e <;> simp [verdict, spent] at undecided
      rw [streak_append_error]
      omega

theorem backoff_fail_within {backoff : Backoff} {jitter : Nat}
    (short : backoff.failures + 1 < Checked.limit 32) (within : backoff.failures < backoff.budget) :
    backoff.fail jitter =
      ((Backoff.jittered backoff.base backoff.ceiling (backoff.failures + 1) jitter).map some,
        { backoff with failures := backoff.failures + 1 }) := by
  rw [Backoff.fail_eq short, if_pos within]

theorem backoff_fail_spent {backoff : Backoff} {jitter : Nat}
    (short : backoff.failures + 1 < Checked.limit 32)
    (spent : backoff.failures = backoff.budget) :
    backoff.fail jitter = (.ok none, { backoff with failures := backoff.failures + 1 }) := by
  rw [Backoff.fail_eq short, if_neg (Nat.not_lt.mpr (Nat.le_of_eq spent.symm))]

theorem drawJitter_within {backoff : Backoff} (within : backoff.failures < backoff.budget)
    (chance : (most : Nat) → Fin (most + 1)) :
    let most :=
      Backoff.mostJitter (Backoff.delay backoff.base backoff.ceiling (backoff.failures + 1))
    (drawJitter backoff).Takes [⟨.draw most, chance most⟩] (.ok (chance most)) := by
  rw [drawJitter, if_pos within]
  exact Task.takes_draw.bind (.nothing _)

theorem drawJitter_spent {backoff : Backoff} (spent : backoff.failures = backoff.budget) :
    (drawJitter backoff).Takes [] (.ok 0) := by
  rw [drawJitter, if_neg (Nat.not_lt.mpr (Nat.le_of_eq spent.symm))]
  exact .nothing _

/-- What follows a failure that the budget may allow. -/
def bear (tracker : Tracker) (submission : Submission) (rounds : Nat) (backoff : Backoff)
    (e : Error) : Task FinalityRecord := do
  let jitter ← drawJitter backoff
  match ← Task.settled (backoff.fail jitter).1 with
  | none => Task.fail e
  | some delay =>
      Task.pause delay
      tracker.poll submission rounds (backoff.fail jitter).2

theorem poll_failed {e : Error} {exchanges rest : List Exchange} {backoff : Backoff} {more : Nat}
    {last : Program (Except Fault FinalityRecord)} (other : ∀ transaction, e ≠ .notFound transaction)
    (failed : (tracker.check submission).Takes exchanges (.error (.failure e)))
    (later : (tracker.bear submission more backoff e).run.Takes rest last) :
    (tracker.poll submission (more + 1) backoff).run.Takes (exchanges ++ rest) last := by
  rw [poll]
  refine failed.attempt.goesOn ?_
  cases e <;> first | exact later | exact absurd rfl (other _)

theorem verdict_error {e : Error} (other : ∀ transaction, e ≠ .notFound transaction) :
    verdict budget earlier (.error e) = if streak earlier = budget then some (.error e) else none := by
  cases e <;> first | rfl | exact absurd rfl (other _)

/-- One round of the loop, where its outcome ends the wait. -/
theorem poll_ends (round : Round tracker submission) (more : Nat)
    (short : ∀ e, round.outcome = .error e → streak earlier + 1 < Checked.limit 32)
    (decided : verdict tracker.finality.maxRpcFailures earlier round.outcome = some result) :
    (tracker.poll submission (more + 1) (tracker.backoffAfter earlier)).Takes round.exchanges
      (result.mapError .failure) := by
  rw [← List.append_nil round.exchanges]
  obtain ⟨exchanges, outcome, takes, chance⟩ := round
  match outcome with
  | .ok .pending | .ok (.confirming _ _) => cases decided
  | .ok (.confirmed record) =>
      cases decided
      exact takes.attempt.bind (.nothing _)
  | .ok (.failed reason) =>
      cases decided
      exact takes.attempt.bind (.nothing _)
  | .error e =>
      by_cases lost : ∃ transaction, e = .notFound transaction
      · obtain ⟨transaction, rfl⟩ := lost
        cases decided
        exact takes.attempt.bind (.nothing _)
      · have other : ∀ transaction, e ≠ .notFound transaction := fun transaction same =>
          lost ⟨transaction, same⟩
        obtain ⟨spent, rfl⟩ : streak earlier = tracker.finality.maxRpcFailures ∧
            .error e = result := by simpa [verdict_error other] using decided
        refine poll_failed other takes ((drawJitter_spent spent).goesOn ?_)
        rw [backoff_fail_spent (short e rfl) spent]
        exact .nothing _

/-- What becomes of a failure that the budget allows: its delay is drawn, and then waited for if it fits
a word. -/
theorem bear_within (round : Round tracker submission) (more : Nat) (e : Error)
    (short : streak earlier + 1 < Checked.limit 32)
    (within : streak earlier < tracker.finality.maxRpcFailures) :
    (round.delay earlier < Checked.limit 64 →
      (tracker.bear submission more (tracker.backoffAfter earlier) e).run.Takes
        [round.draws earlier, ⟨.pause (round.delay earlier), ()⟩]
        (tracker.poll submission more
          { tracker.freshBackoff with failures := streak earlier + 1 }).run) ∧
    (Checked.limit 64 ≤ round.delay earlier →
      (tracker.bear submission more (tracker.backoffAfter earlier) e).Takes
        [round.draws earlier]
        (.error (.breakdown (some "attempt to add with overflow")))) := by
  have drawn : (drawJitter (tracker.backoffAfter earlier)).Takes
      [round.draws earlier] (.ok (round.jitter earlier)) :=
    drawJitter_within within round.chance
  have answered : (tracker.backoffAfter earlier).fail (round.jitter earlier) =
      ((Checked.add 64 (tracker.bareDelay earlier) (round.jitter earlier)).map some,
        { tracker.freshBackoff with failures := streak earlier + 1 }) :=
    backoff_fail_within short within
  constructor
  · intro fits
    have added : Checked.add 64 (tracker.bareDelay earlier) (round.jitter earlier) =
        .ok (round.delay earlier) := if_pos fits
    rw [added] at answered
    have paused : (do
        match ← Task.settled ((tracker.backoffAfter earlier).fail (round.jitter earlier)).1 with
        | none => Task.fail e
        | some delay =>
            Task.pause delay
            tracker.poll submission more
              ((tracker.backoffAfter earlier).fail (round.jitter earlier)).2 :
          Task FinalityRecord).run.Takes [⟨.pause (round.delay earlier), ()⟩]
        (tracker.poll submission more
          { tracker.freshBackoff with failures := streak earlier + 1 }).run := by
      rw [answered]
      exact .step (.nothing _)
    exact drawn.goesOn paused
  · intro wide
    have added : Checked.add 64 (tracker.bareDelay earlier) (round.jitter earlier) =
        .error (.breakdown (some "attempt to add with overflow")) := if_neg (Nat.not_lt.mpr wide)
    rw [added] at answered
    rw [← List.append_nil [_]]
    refine drawn.bind ?_
    rw [answered]
    exact .nothing _

theorem bearable {e : Error} (within : streak earlier ≤ budget)
    (undecided : verdict budget earlier (.error e) = none) :
    (∀ transaction, e ≠ .notFound transaction) ∧ streak earlier < budget := by
  have other : ∀ transaction, e ≠ .notFound transaction := by
    rintro transaction rfl
    cases undecided
  have unspent : streak earlier ≠ budget := by simpa [verdict_error other] using undecided
  exact ⟨other, Nat.lt_of_le_of_ne within unspent⟩

theorem poll_goes_on (round : Round tracker submission) (more : Nat) (fits : round.Fits earlier)
    (short : ∀ e, round.outcome = .error e → streak earlier + 1 < Checked.limit 32)
    (within : streak earlier ≤ tracker.finality.maxRpcFailures)
    (undecided : verdict tracker.finality.maxRpcFailures earlier round.outcome = none) :
    (tracker.poll submission (more + 1) (tracker.backoffAfter earlier)).run.Takes
      (round.exchanges ++ round.rest earlier)
      (tracker.poll submission more (tracker.backoffAfter (earlier ++ [round.outcome]))).run := by
  unfold Round.rest
  cases shape : round.outcome with
  | ok status =>
      have takes := round.takes
      rw [shape] at takes undecided
      rw [backoffAfter, backoffAfter, streak_append_ok]
      cases status with
      | confirmed | failed => cases undecided
      | pending | confirming => exact takes.attempt.goesOn (.step (.nothing _))
  | error e =>
      have takes := round.takes
      rw [shape] at takes undecided
      obtain ⟨other, below⟩ := bearable within undecided
      have counted : tracker.backoffAfter (earlier ++ [.error e]) =
          { tracker.freshBackoff with failures := streak earlier + 1 } := by
        rw [backoffAfter, streak_append_error]
      rw [counted]
      exact poll_failed other takes ((bear_within round more e (short e shape) below).1 (fits e shape))

/-- A failure whose delay does not fit a word breaks the wait down. -/
theorem poll_breaks_down (round : Round tracker submission) (more : Nat) {e : Error}
    (failed : round.outcome = .error e) (wide : Checked.limit 64 ≤ round.delay earlier)
    (short : streak earlier + 1 < Checked.limit 32)
    (within : streak earlier ≤ tracker.finality.maxRpcFailures)
    (undecided : verdict tracker.finality.maxRpcFailures earlier round.outcome = none) :
    (tracker.poll submission (more + 1) (tracker.backoffAfter earlier)).Takes
      (round.exchanges ++ [round.draws earlier])
      (.error (.breakdown (some "attempt to add with overflow"))) := by
  have takes := round.takes
  rw [failed] at takes undecided
  obtain ⟨other, below⟩ := bearable within undecided
  exact poll_failed other takes ((bear_within round more e short below).2 wide)

theorem poll_undecided (earlier : List Finding) (rounds : List (Round tracker submission)) (more : Nat)
    (short : streak earlier + rounds.length < Checked.limit 32)
    (within : streak earlier ≤ tracker.finality.maxRpcFailures)
    (undecided : Undecided tracker.finality.maxRpcFailures (earlier ++ Round.outcomes rounds))
    (fit : Round.Fit earlier rounds) :
    (tracker.poll submission (rounds.length + more) (tracker.backoffAfter earlier)).run.Takes
      (paced earlier rounds)
      (tracker.poll submission more
        (tracker.backoffAfter (earlier ++ Round.outcomes rounds))).run := by
  -- The outcomes so far grow by one with each round, and their streak stays within the budget.
  induction rounds generalizing earlier with
  | nil => simpa [paced, Round.outcomes] using Program.Takes.nothing _
  | cons round rounds ih =>
      have count : streak (earlier ++ [round.outcome]) ≤ streak earlier + 1 :=
        streak_append_le earlier round.outcome
      rw [List.length_cons] at short
      have open_ : verdict tracker.finality.maxRpcFailures earlier round.outcome = none :=
        undecided earlier round.outcome (Round.outcomes rounds) rfl
      have fits : round.Fits earlier := by simpa [Round.outcomes] using fit [] round rounds rfl
      have split : earlier ++ Round.outcomes (round :: rounds) =
          (earlier ++ [round.outcome]) ++ Round.outcomes rounds := by simp [Round.outcomes]
      have first := poll_goes_on round (rounds.length + more) fits (fun _ _ => by omega) within open_
      have fitLater : Round.Fit (earlier ++ [round.outcome]) rounds := by
        intro before next after shape
        have fits := fit (round :: before) next after (by rw [shape]; rfl)
        simpa [Round.outcomes] using fits
      rw [split] at undecided ⊢
      have later := ih _ (by omega) (streak_within within open_) undecided fitLater
      rw [List.length_cons, Nat.add_right_comm]
      exact first.append later

theorem streak_le_length (outcomes : List Finding) : streak outcomes ≤ outcomes.length := by
  simpa [streak] using
    (List.takeWhile_sublist (l := outcomes.reverse) fun outcome => !outcome.isOk).length_le

theorem Undecided.before {later : List Finding} (undecided : Undecided budget (earlier ++ later)) :
    Undecided budget earlier := by
  rintro first outcome last rfl
  exact undecided first outcome (last ++ later) (by rw [List.append_assoc, List.cons_append])

theorem Undecided.streak_le (undecided : Undecided budget outcomes) : streak outcomes ≤ budget := by
  induction outcomes using List.reverseRecOn with
  | nil => exact Nat.zero_le _
  | append_singleton earlier outcome ih =>
      exact streak_within (ih undecided.before) (undecided earlier outcome [] rfl)

/-- Where every delay of the budget has room for its jitter, the delays of a wait fit. -/
theorem Round.fits_of_roomy (roomy : tracker.freshBackoff.Roomy) (round : Round tracker submission)
    (below : streak earlier < tracker.finality.maxRpcFailures) : round.Fits earlier := by
  intro e failed
  have room := roomy (streak earlier + 1) (Nat.le_add_left 1 _) below
  have drawn := (round.chance (Backoff.mostJitter (tracker.bareDelay earlier))).isLt
  exact Nat.lt_of_le_of_lt (Nat.add_le_add_left (Nat.le_of_lt_succ drawn) _) room

theorem fit_of_roomy (roomy : tracker.freshBackoff.Roomy) (rounds : List (Round tracker submission))
    (undecided : Undecided tracker.finality.maxRpcFailures (Round.outcomes rounds)) :
    Round.Fit [] rounds := by
  rintro before round after rfl e failed
  have split : Round.outcomes (before ++ round :: after) =
      Round.outcomes before ++ .error e :: Round.outcomes after := by
    simp [Round.outcomes, failed]
  rw [split] at undecided
  obtain ⟨-, below⟩ := bearable undecided.before.streak_le (undecided _ _ _ rfl)
  exact round.fits_of_roomy roomy below e failed

/-- The loop checks until the first outcome that decides, and as long as there is none it goes on. After
a failure it waits for the delay of its place in the streak, with the jitter that falls to it; where that
sum does not fit a word, the wait breaks down. -/
theorem poll_stops_by_rule (rounds : List (Round tracker submission))
    (short : rounds.length < Checked.limit 32) (more : Nat) :
    (∀ earlier last later result, rounds = earlier ++ last :: later →
      Undecided tracker.finality.maxRpcFailures (Round.outcomes earlier) → Round.Fit [] earlier →
      verdict tracker.finality.maxRpcFailures (Round.outcomes earlier) last.outcome = some result →
      (tracker.poll submission (rounds.length + more) tracker.freshBackoff).Takes
        (paced [] earlier ++ last.exchanges) (result.mapError .failure)) ∧
    (Undecided tracker.finality.maxRpcFailures (Round.outcomes rounds) → Round.Fit [] rounds →
      (tracker.poll submission (rounds.length + more) tracker.freshBackoff).run.Takes
        (paced [] rounds)
        (tracker.poll submission more (tracker.backoffAfter (Round.outcomes rounds))).run) ∧
    (∀ earlier last later, rounds = earlier ++ last :: later →
      Undecided tracker.finality.maxRpcFailures (Round.outcomes (earlier ++ [last])) →
      Round.Fit [] earlier → ¬ last.Fits (Round.outcomes earlier) →
      (tracker.poll submission (rounds.length + more) tracker.freshBackoff).Takes
        (paced [] earlier ++
          (last.exchanges ++ [last.draws (Round.outcomes earlier)]))
        (.error (.breakdown (some "attempt to add with overflow")))) ∧
    (tracker.freshBackoff.Roomy →
      Undecided tracker.finality.maxRpcFailures (Round.outcomes rounds) → Round.Fit [] rounds) := by
  have count (earlier later : List (Round tracker submission)) (last : Round tracker submission) :
      (earlier ++ last :: later).length + more = earlier.length + (later.length + more + 1) := by
    simp only [List.length_append, List.length_cons]
    omega
  have bounded (earlier : List (Round tracker submission)) :
      streak (Round.outcomes earlier) ≤ earlier.length := by
    simpa [Round.outcomes] using streak_le_length (Round.outcomes earlier)
  refine ⟨?_, fun undecided fit => ?_, ?_, fun roomy => fit_of_roomy roomy rounds⟩
  · rintro earlier last later result rfl undecided fit decided
    simp only [List.length_append, List.length_cons] at short
    have counted := bounded earlier
    have first := poll_undecided [] earlier (later.length + more + 1) (by simp [streak]; omega)
      (Nat.zero_le _) undecided fit
    rw [List.nil_append] at first
    rw [count]
    exact first.append (poll_ends last (later.length + more) (fun _ _ => by omega) decided)
  · exact poll_undecided [] rounds more (by simp [streak, short]) (Nat.zero_le _) undecided fit
  · rintro earlier last later rfl undecided fit wide
    simp only [List.length_append, List.length_cons] at short
    have counted := bounded earlier
    have split : Round.outcomes (earlier ++ [last]) = Round.outcomes earlier ++ [last.outcome] := by
      simp [Round.outcomes]
    rw [split] at undecided
    have first := poll_undecided [] earlier (later.length + more + 1) (by simp [streak]; omega)
      (Nat.zero_le _) undecided.before fit
    rw [List.nil_append] at first
    obtain ⟨e, failed, wide⟩ : ∃ e, last.outcome = .error e ∧
        Checked.limit 64 ≤ last.delay (Round.outcomes earlier) := by
      simpa [Round.Fits] using wide
    rw [count]
    exact first.append (poll_breaks_down last (later.length + more) failed wide (by omega)
      undecided.before.streak_le (undecided _ _ _ rfl))

def bearingOne : Tracker :=
  ⟨1, none, {}, { maxRpcFailures := 1 }⟩

def quiet : Round bearingOne default where
  exchanges := [⟨.ask (.inclusion default), Except.ok none⟩]
  outcome := .ok .pending
  takes := .step (.nothing _)
  chance _ := ⟨0, Nat.succ_pos _⟩

/-- A check that fails, and the most jitter that its delay can have. -/
def cutOff : Round bearingOne default where
  exchanges := [⟨.ask (.inclusion default), Except.error (.failure (.rpc "down"))⟩]
  outcome := .error (.rpc "down")
  takes := .step (.nothing _)
  chance most := Fin.last most

/-- The first failure is forgotten in the round that follows it; the other two are one too many. -/
theorem poll_gives_up :
    [cutOff, quiet, cutOff, cutOff].length < Checked.limit 32 ∧
    bearingOne.freshBackoff.Roomy ∧
    (bearingOne.poll default 4 bearingOne.freshBackoff).Takes
      (cutOff.exchanges ++ [⟨.draw 19, (19 : Fin 20)⟩, ⟨.pause 219, ()⟩] ++
        (quiet.exchanges ++ [⟨.pause 2000, ()⟩] ++
          (cutOff.exchanges ++ [⟨.draw 19, (19 : Fin 20)⟩, ⟨.pause 219, ()⟩] ++ [])) ++
        cutOff.exchanges)
      (.error (.failure (.rpc "down"))) := by
  have short : [cutOff, quiet, cutOff, cutOff].length < Checked.limit 32 := by decide
  have roomy : bearingOne.freshBackoff.Roomy := Backoff.roomy_of_ceiling (by decide +kernel)
  have undecided : Undecided 1 (Round.outcomes [cutOff, quiet, cutOff]) := by
    intro earlier outcome later split
    obtain _ | ⟨first, _ | ⟨second, _ | ⟨third, others⟩⟩⟩ := earlier
    · cases split
      rfl
    · cases split
      rfl
    · cases split
      rfl
    · simp [Round.outcomes] at split
  have fit : Round.Fit [] [cutOff, quiet, cutOff] :=
    (poll_stops_by_rule [cutOff, quiet, cutOff] (by decide) 0).2.2.2 roomy undecided
  exact ⟨short, roomy, (poll_stops_by_rule [cutOff, quiet, cutOff, cutOff] short 0).1
    [cutOff, quiet, cutOff] cutOff [] _ rfl undecided fit rfl⟩

end Notary.Tracker
