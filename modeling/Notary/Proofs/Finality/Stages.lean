import Mathlib.Order.Bounds.Defs
import Notary.Proofs.Delivery.Landing
import Notary.Proofs.Finality.Course
import Notary.Proofs.Finality.Rounds

namespace Notary

/-!
The rounds of a wait on the ledger in memory, which nobody else uses. A check that is answered mines two
blocks, one that fails mines none.
-/

namespace Tracker

open Chain

/-- So many checks in a row make a block final, each of which mines two blocks. -/
def sufficing (tracker : Tracker) (height : Nat) (chain : Chain) : Set Nat :=
  {looks | 1 ≤ looks ∧ height + tracker.depth chain.lag ≤ chain.head + 2 * looks}

/-- The checks among the steps of a wait: each of them looks up the inclusion once. -/
def checks (submission : Submission) (steps : List Step) : Nat :=
  steps.count (.ask (.inclusion submission.hash))

variable {tracker : Tracker} {submission : Submission} {chain : Chain} {report : InclusionReport}
  {world : World Chain} {height : Nat}

theorem sufficing_succ {looks : Nat}
    (shallow : chain.head + 2 < height + tracker.depth chain.lag)
    (least : IsLeast (tracker.sufficing height chain.mine.mine) looks) :
    IsLeast (tracker.sufficing height chain) (looks + 1) := by
  have head : chain.mine.mine.head = chain.head + 2 := rfl
  have deep : tracker.depth chain.mine.mine.lag = tracker.depth chain.lag := rfl
  obtain ⟨⟨-, enough⟩, first⟩ := least
  rw [head, deep] at enough
  refine ⟨⟨by omega, by omega⟩, fun other member => ?_⟩
  obtain ⟨some, far⟩ := member
  have before : looks ≤ other - 1 := first ⟨by omega, by rw [head, deep]; omega⟩
  omega

theorem check_takes {exchanges : List Exchange} {outcome : Except Fault Status}
    (success : report.success = true)
    (later : (do
      match ← tracker.checkDepth report.blockNumber with
      | some status => return status
      | none => checkCanonical report : Task Status).Takes exchanges outcome) :
    (tracker.check submission).Takes
      (⟨.ask (.inclusion submission.hash), .ok (some report)⟩ :: exchanges) outcome := by
  unfold check
  refine Task.takes_ask.bind ?_
  simp only [success]
  exact later

theorem checks_cons_of_ne {call : Call} (other : call ≠ .inclusion submission.hash)
    (steps : List Step) : checks submission (.ask call :: steps) = checks submission steps :=
  List.count_cons_of_ne (by simpa using other)

theorem checks_cons_self (steps : List Step) :
    checks submission (.ask (.inclusion submission.hash) :: steps) = checks submission steps + 1 :=
  List.count_cons_self

theorem depthCall_ne {hash : Hash} : tracker.depthCall ≠ .inclusion hash := by
  unfold depthCall
  cases tracker.finality.mode <;> exact nofun

theorem verdict_pollFailure {budget : Nat} {earlier : List Finding} :
    verdict budget earlier (.error pollFailure) =
      if streak earlier = budget then some (.error pollFailure) else none :=
  verdict_error fun _ => Error.noConfusion

/-- What the loop does after a round is no check. -/
theorem checks_rest (round : Round tracker submission) (earlier : List Finding) :
    checks submission ((round.rest earlier).map (·.step)) = 0 := by
  unfold Round.rest
  cases round.outcome <;> rfl

theorem checks_append (first second : List Step) :
    checks submission (first ++ second) = checks submission first + checks submission second :=
  List.count_append

/-- The rounds of a wait that are left, and how it has come to them. -/
structure Stage where
  rounds : Nat
  earlier : List Finding
  now : Nat
  world : World Chain

namespace Stage

variable {stage : Stage} {after : World Chain} {round : Round tracker submission}

/-- The stage after a round that decided nothing. -/
def next (stage : Stage) (round : Round tracker submission) (after : World Chain) : Stage :=
  ⟨stage.rounds - 1, stage.earlier ++ [round.outcome],
    stage.now + Exchange.total (round.rest stage.earlier), after⟩

theorem streak_next {e : Error} (failed : round.outcome = .error e) :
    streak (stage.next round after).earlier = streak stage.earlier + 1 := by
  rw [next, failed]
  exact streak_append_error stage.earlier e

theorem enough_next (timed : 0 < tracker.finality.pollIntervalMs)
    (within : streak stage.earlier ≤ tracker.finality.maxRpcFailures)
    (undecided : verdict tracker.finality.maxRpcFailures stage.earlier round.outcome = none)
    (due : stage.now + Exchange.total (round.rest stage.earlier) ≤ tracker.deadline)
    (enough : (tracker.deadline - stage.now) * (tracker.finality.maxRpcFailures + 1) +
      (tracker.finality.maxRpcFailures - streak stage.earlier) < stage.rounds) :
    (tracker.deadline - (stage.now + Exchange.total (round.rest stage.earlier))) *
        (tracker.finality.maxRpcFailures + 1) +
      (tracker.finality.maxRpcFailures - streak (stage.earlier ++ [round.outcome])) <
        stage.rounds - 1 := by
  cases shape : round.outcome with
  | ok status =>
      have paused : Exchange.total (round.rest stage.earlier) = tracker.finality.pollIntervalMs := by
        simp only [Round.rest, shape]
        rfl
      rw [paused] at due ⊢
      have spent := spent_le (Nat.lt_add_of_pos_right timed) due tracker.finality.maxRpcFailures
      rw [streak_append_ok]
      omega
  | error e =>
      have less : (tracker.deadline - (stage.now + Exchange.total (round.rest stage.earlier))) *
          (tracker.finality.maxRpcFailures + 1) ≤
            (tracker.deadline - stage.now) * (tracker.finality.maxRpcFailures + 1) :=
        Nat.mul_le_mul_right _ (by omega)
      have kept := streak_within within undecided
      rw [shape, streak_append_error] at kept
      rw [streak_append_error]
      omega

end Stage

variable [Surroundings]

/-- A round that the world serves at once, and that is one check. What is drawn after it falls out as
in the world that it leaves. -/
structure Looks (round : Round tracker submission) (world after : World Chain) : Prop where
  serves : world.Serves Chain.ledger round.exchanges after
  once : checks submission (round.exchanges.map (·.step)) = 1
  instant : Exchange.total round.exchanges = 0
  chance : round.chance = Chain.ledger.chance after.ledger

/-- The world also serves what the loop does after the round, and stays as it is. -/
theorem Looks.serves_rest {round : Round tracker submission} {after : World Chain}
    (looks : Looks round world after) (earlier : List Finding) :
    after.Serves Chain.ledger (round.rest earlier) after := by
  have drawn : after.serve Chain.ledger (round.draws earlier).step =
      ((round.draws earlier).reply, after) := by
    unfold Round.draws
    rw [looks.chance]
    rfl
  unfold Round.rest
  cases round.outcome with
  | ok status => exact .step rfl (.nothing _)
  | error e => exact .step drawn (.step rfl (.nothing _))

/-- Each look at the depth mines a block, and counts it in. -/
theorem checkDepth_takes (reachable : chain.unreachable = false)
    (fits : tracker.finality.mode = .confirmations →
      height + tracker.finality.confirmationBlocks < Checked.limit 64) :
    ∃ reply status, (tracker.checkDepth height).Takes [⟨.ask tracker.depthCall, reply⟩] (.ok status) ∧
      chain.answer tracker.depthCall = (reply, chain.mine) ∧
      (height + tracker.depth chain.lag ≤ chain.head + 1 ∧ status = none ∨
        chain.head + 1 < height + tracker.depth chain.lag ∧
          ∃ current target, status = some (.confirming current target)) := by
  unfold checkDepth
  cases mode : tracker.finality.mode with
  | finalized =>
      have asked : tracker.depthCall = .finalizedBlockNumber := by simp only [depthCall, mode]
      have deep : tracker.depth chain.lag = chain.lag := by simp only [depth, mode]
      have answered : chain.answer .finalizedBlockNumber =
          (.ok chain.mine.finalizedHead, chain.mine) := by simp [answer, answerReached, reachable]
      rw [asked, deep]
      by_cases long : chain.lag ≤ chain.head + 1
      · have told : chain.mine.finalizedHead = some (chain.head + 1 - chain.lag) := if_pos long
        rw [told] at answered
        by_cases reached : height ≤ chain.head + 1 - chain.lag
        · refine ⟨_, none, Task.takes_ask.bind ?_, answered, .inl ⟨by omega, rfl⟩⟩
          simp only [if_pos reached]
          exact .nothing _
        · refine ⟨_, some (.confirming (chain.head + 1 - chain.lag) height), Task.takes_ask.bind ?_,
            answered, .inr ⟨by omega, _, _, rfl⟩⟩
          simp only [if_neg reached]
          exact .nothing _
      · have told : chain.mine.finalizedHead = none := if_neg long
        rw [told] at answered
        refine ⟨_, some (.confirming 0 height), Task.takes_ask.bind ?_, answered,
          .inr ⟨by omega, _, _, rfl⟩⟩
        exact .nothing _
  | confirmations =>
      have asked : tracker.depthCall = .blockNumber := by simp only [depthCall, mode]
      have deep : tracker.depth chain.lag = tracker.finality.confirmationBlocks := by
        simp only [depth, mode]
      have answered : chain.answer .blockNumber = (.ok (chain.head + 1), chain.mine) := by
        simp [answer, answerReached, reachable, mine]
      have added : Checked.add 64 height tracker.finality.confirmationBlocks =
          .ok (height + tracker.finality.confirmationBlocks) := if_pos (fits mode)
      rw [asked, deep, added]
      by_cases reached : height + tracker.finality.confirmationBlocks ≤ chain.head + 1
      · refine ⟨_, none, Task.takes_ask.bind (Task.takes_settled.bind ?_), answered,
          .inl ⟨reached, rfl⟩⟩
        simp only [if_pos reached]
        exact .nothing _
      · refine ⟨_, some (.confirming (chain.head + 1) (height + tracker.finality.confirmationBlocks)),
          Task.takes_ask.bind (Task.takes_settled.bind ?_), answered, .inr ⟨by omega, _, _, rfl⟩⟩
        simp only [if_neg reached]
        exact .nothing _

/-- A check that is answered mines two blocks. It confirms the transaction if its block is deep enough
by then, and goes on otherwise. -/
theorem look (places : world.ledger.Places submission.hash report)
    (passing : world.ledger.failingPolls = 0)
    (fits : tracker.finality.mode = .confirmations →
      report.blockNumber + tracker.finality.confirmationBlocks < Checked.limit 64) :
    ∃ round : Round tracker submission,
      Looks round world { world with ledger := world.ledger.mine.mine } ∧
      (report.blockNumber + tracker.depth world.ledger.lag ≤ world.ledger.head + 2 ∧
          round.outcome = .ok (.confirmed (.ofReport report)) ∨
        world.ledger.head + 2 < report.blockNumber + tracker.depth world.ledger.lag ∧
          ∃ current target, round.outcome = .ok (.confirming current target)) := by
  obtain ⟨reply, status, depthTakes, depthAnswered, decided⟩ :=
    checkDepth_takes places.mine.reachable fits
  have found := answer_of_passing places.reachable passing submission.hash
  rw [places.placed] at found
  have first : World.serve Chain.ledger world (.ask (.inclusion submission.hash)) =
      (.ok (some report), { world with ledger := world.ledger.mine }) := World.serve_answer found
  have second : World.serve Chain.ledger { world with ledger := world.ledger.mine }
      (.ask tracker.depthCall) = (reply, { world with ledger := world.ledger.mine.mine }) :=
    World.serve_answer depthAnswered
  obtain ⟨deep, rfl⟩ | ⟨shallow, current, target, rfl⟩ := decided
  · have stands := answer_of_canonical places.mine.mine.reachable places.standing
      (Nat.le_trans places.below (Nat.le_succ _))
    have third : World.serve Chain.ledger { world with ledger := world.ledger.mine.mine }
        (.ask (.blockHash report.blockNumber)) =
          (.ok (some report.blockHash), { world with ledger := world.ledger.mine.mine }) := by
      rw [places.mined]
      exact World.serve_answer stands
    have canonical : (checkCanonical report).Takes
        [⟨.ask (.blockHash report.blockNumber), .ok (some report.blockHash)⟩]
        (.ok (.confirmed (.ofReport report))) := by
      unfold checkCanonical
      refine Task.takes_ask.bind ?_
      rw [if_pos rfl]
      exact .nothing _
    refine ⟨⟨_, .ok (.confirmed (.ofReport report)),
      check_takes places.success (depthTakes.bind canonical), _⟩, ⟨?_, ?_, rfl, rfl⟩,
      .inl ⟨deep, rfl⟩⟩
    · exact .step first (.step second (.step third (.nothing _)))
    · simp only [List.map_cons, List.singleton_append, List.map_nil]
      have other : Call.blockHash report.blockNumber ≠ .inclusion submission.hash := nofun
      rw [checks_cons_self, checks_cons_of_ne depthCall_ne, checks_cons_of_ne other]
      rfl
  · refine ⟨⟨_, .ok (.confirming current target),
      check_takes places.success (depthTakes.bind (.nothing _)), _⟩, ⟨?_, ?_, rfl, rfl⟩,
      .inr ⟨shallow, current, target, rfl⟩⟩
    · exact .step first (.step second (.nothing _))
    · simp only [List.map_cons, List.append_nil, List.map_nil]
      rw [checks_cons_self, checks_cons_of_ne depthCall_ne]
      rfl

/-- A check that fails mines nothing and uses up one of the failures. -/
theorem miss (reachable : world.ledger.unreachable = false) (failing : 0 < world.ledger.failingPolls) :
    ∃ round : Round tracker submission,
      Looks round world
        { world with ledger :=
            { world.ledger with failingPolls := world.ledger.failingPolls - 1 } } ∧
      round.outcome = .error pollFailure := by
  have failed : (tracker.check submission).Takes
      [⟨.ask (.inclusion submission.hash), .error (.failure pollFailure)⟩]
      (.error (.failure pollFailure)) := by
    unfold check
    exact Task.takes_ask.bind_error
  refine ⟨⟨_, .error pollFailure, failed, _⟩, ⟨.step ?_ (.nothing _), ?_, rfl, rfl⟩, rfl⟩
  · exact World.serve_answer (answer_of_failing reachable failing submission.hash)
  · exact checks_cons_self []

/-! The wait, from one of its rounds on. -/

section Stage

variable (tracker submission) (stage : Stage)

def Stage.program : Program (Except Fault FinalityRecord) :=
  (tracker.poll submission stage.rounds (tracker.backoffAfter stage.earlier)).run

def Stage.run : Ended (Except Fault FinalityRecord) × Nat × World Chain :=
  Program.run Chain.ledger ⟨some tracker.deadline, none⟩ (stage.program tracker submission) stage.now
    stage.world

def Stage.steps : List Step :=
  Program.stepsWithin Chain.ledger ⟨some tracker.deadline, none⟩ (stage.program tracker submission)
    stage.now stage.world

/-- The wait will not be broken off, its failures in a row are within the budget, and the rounds that
are left suffice for the time that is left. -/
structure Stage.Open : Prop where
  begun : stage.now ≤ tracker.deadline
  within : streak stage.earlier ≤ tracker.finality.maxRpcFailures
  enough : (tracker.deadline - stage.now) * (tracker.finality.maxRpcFailures + 1) +
    (tracker.finality.maxRpcFailures - streak stage.earlier) < stage.rounds
  untimed : (stage.run tracker submission).1 ≠ .timedOut

/-- After so many more checks the wait ends with a result. -/
structure Stage.Ends (count : Nat) (result : Except Error FinalityRecord) (after : World Chain) :
    Prop where
  ended : ∃ instant, stage.run tracker submission =
    (.finished (result.mapError .failure), instant, after)
  counted : checks submission (stage.steps tracker submission) = count

end Stage

namespace Stage

variable {stage : Stage} {after : World Chain} {round : Round tracker submission}
  {result : Except Error FinalityRecord}

theorem ends (remaining : 0 < stage.rounds) (begun : stage.now ≤ tracker.deadline)
    (looks : Looks round stage.world after)
    (short : ∀ e, round.outcome = .error e → streak stage.earlier + 1 < Checked.limit 32)
    (decided : verdict tracker.finality.maxRpcFailures stage.earlier round.outcome = some result) :
    stage.Ends tracker submission 1 result after := by
  obtain ⟨_ | more, earlier, now, world⟩ := stage
  · exact absurd remaining (Nat.lt_irrefl 0)
  · have due : now + Exchange.total round.exchanges ≤ tracker.deadline := by
      rw [looks.instant]
      exact begun
    obtain ⟨ran, steps⟩ := (poll_ends round more short decided).within Chain.prompt looks.serves due
    refine ⟨⟨_, ran⟩, ?_⟩
    rw [Stage.steps, program, steps, checks_append, looks.once]
    rfl

/-- A round that decides nothing is one check, and a pause. -/
theorem takes_next (remaining : 0 < stage.rounds) (fits : round.Fits stage.earlier)
    (within : streak stage.earlier ≤ tracker.finality.maxRpcFailures)
    (looks : Looks round stage.world after)
    (short : ∀ e, round.outcome = .error e → streak stage.earlier + 1 < Checked.limit 32)
    (undecided : verdict tracker.finality.maxRpcFailures stage.earlier round.outcome = none) :
    ∃ exchanges, (stage.program tracker submission).Takes exchanges
        ((stage.next round after).program tracker submission) ∧
      stage.world.Serves Chain.ledger exchanges after ∧
      Exchange.total exchanges = Exchange.total (round.rest stage.earlier) ∧
      checks submission (exchanges.map (·.step)) = 1 := by
  obtain ⟨_ | more, earlier, now, world⟩ := stage
  · exact absurd remaining (Nat.lt_irrefl 0)
  · refine ⟨_, poll_goes_on round more fits short within undecided,
      looks.serves.append (looks.serves_rest earlier), ?_, ?_⟩
    · rw [Exchange.total_append, looks.instant, Nat.zero_add]
    · rw [List.map_append, checks_append, looks.once, checks_rest]

/-- One more check brings the wait to the next stage. -/
structure Passes (tracker : Tracker) (submission : Submission) (stage next : Stage) : Prop where
  run : stage.run tracker submission = next.run tracker submission
  counted : checks submission (stage.steps tracker submission) =
    checks submission (next.steps tracker submission) + 1

theorem Passes.ends {count : Nat} {later : Stage} {last : World Chain}
    (passes : stage.Passes tracker submission later)
    (ends : later.Ends tracker submission count result last) :
    stage.Ends tracker submission (count + 1) result last := by
  obtain ⟨⟨instant, ended⟩, counted⟩ := ends
  exact ⟨⟨instant, passes.run.trans ended⟩, passes.counted.trans (congrArg (· + 1) counted)⟩

theorem Open.passes (ready : stage.Open tracker submission)
    (timed : 0 < tracker.finality.pollIntervalMs) (looks : Looks round stage.world after)
    (fits : round.Fits stage.earlier)
    (short : ∀ e, round.outcome = .error e → streak stage.earlier + 1 < Checked.limit 32)
    (undecided : verdict tracker.finality.maxRpcFailures stage.earlier round.outcome = none) :
    stage.Passes tracker submission (stage.next round after) ∧
      (stage.next round after).Open tracker submission := by
  obtain ⟨exchanges, takes, serves, total, once⟩ :=
    takes_next (Nat.zero_lt_of_lt ready.enough) fits ready.within looks short undecided
  have due := takes.timely Chain.prompt serves ready.begun ready.untimed
  obtain ⟨ran, steps⟩ := takes.within Chain.prompt serves due
  rw [total] at due ran steps
  have passed : stage.run tracker submission =
      (stage.next round after).run tracker submission := ran
  have counted : checks submission (stage.steps tracker submission) =
      checks submission ((stage.next round after).steps tracker submission) + 1 := by
    rw [Stage.steps, steps, checks_append, once, Nat.add_comm]
    rfl
  refine ⟨⟨passed, counted⟩, due, streak_within ready.within undecided,
    enough_next timed ready.within undecided due ready.enough, ?_⟩
  rw [← passed]
  exact ready.untimed

/-- Without failures the wait is over at the first check by which the block is deep enough. -/
theorem Open.confirms (ready : stage.Open tracker submission)
    (timed : 0 < tracker.finality.pollIntervalMs)
    (places : stage.world.ledger.Places submission.hash report)
    (passing : stage.world.ledger.failingPolls = 0)
    (fits : tracker.finality.mode = .confirmations →
      report.blockNumber + tracker.finality.confirmationBlocks < Checked.limit 64) :
    ∃ looks, IsLeast (tracker.sufficing report.blockNumber stage.world.ledger) looks ∧
      stage.Ends tracker submission looks (.ok (.ofReport report))
        { stage.world with ledger := Chain.mine^[2 * looks] stage.world.ledger } := by
  -- Each check brings the head two blocks nearer to the height that it must reach.
  induction gap : report.blockNumber + tracker.depth stage.world.ledger.lag - stage.world.ledger.head
    using Nat.strong_induction_on generalizing stage with
  | _ distance ih =>
      obtain ⟨round, looks, ⟨deep, decided⟩ | ⟨shallow, current, target, undecided⟩⟩ :=
        look places passing fits
      · refine ⟨1, ⟨⟨Nat.le_refl 1, deep⟩, fun _ enough => enough.1⟩,
          ends (Nat.zero_lt_of_lt ready.enough) ready.begun looks (fun e failed => ?_) ?_⟩
        · rw [decided] at failed
          cases failed
        · rw [decided]
          rfl
      · have unfailed : ∀ e, round.outcome ≠ .error e := fun e failed => by
          rw [undecided] at failed
          cases failed
        obtain ⟨passed, goesOn⟩ :=
          ready.passes timed looks (fun e failed => absurd failed (unfailed e))
            (fun e failed => absurd failed (unfailed e)) (by rw [undecided]; rfl)
        have nearer : report.blockNumber + tracker.depth stage.world.ledger.lag -
            (stage.world.ledger.head + 2) < distance := by omega
        obtain ⟨more, least, ended⟩ := ih _ nearer goesOn places.mine.mine passing rfl
        exact ⟨more + 1, sufficing_succ shallow least, passed.ends ended⟩

/-- As many failures as the budget still allows are borne, one check each. -/
theorem Open.bears (ready : stage.Open tracker submission)
    (timed : 0 < tracker.finality.pollIntervalMs) (roomy : tracker.freshBackoff.Roomy)
    (failures : Nat)
    (reachable : stage.world.ledger.unreachable = false)
    (failing : stage.world.ledger.failingPolls = failures)
    (borne : streak stage.earlier + failures ≤ tracker.finality.maxRpcFailures)
    (short : streak stage.earlier + failures < Checked.limit 32) :
    ∃ later : Stage, later.Open tracker submission ∧
      later.world = { stage.world with ledger := { stage.world.ledger with failingPolls := 0 } } ∧
      ∀ count result last, later.Ends tracker submission count result last →
        stage.Ends tracker submission (failures + count) result last := by
  induction failures generalizing stage with
  | zero =>
      refine ⟨stage, ready, ?_, fun count result last ended => ?_⟩
      · rw [← failing]
      · rw [Nat.zero_add]
        exact ended
  | succ failures ih =>
      obtain ⟨round, looks, failed⟩ := @miss tracker submission stage.world _ reachable (by omega)
      have undecided : verdict tracker.finality.maxRpcFailures stage.earlier round.outcome = none := by
        rw [failed, verdict_pollFailure, if_neg (by omega)]
      obtain ⟨passed, goesOn⟩ := ready.passes timed looks
        (round.fits_of_roomy roomy (by omega)) (fun _ _ => by omega) undecided
      have left : stage.world.ledger.failingPolls - 1 = failures := by omega
      obtain ⟨later, still, reached, counts⟩ := ih goesOn reachable left
        (by rw [streak_next failed]; omega) (by rw [streak_next failed]; omega)
      refine ⟨later, still, reached, fun count result last ended => ?_⟩
      rw [Nat.add_right_comm]
      exact passed.ends (counts count result last ended)

/-- A failure too many ends the wait. The failures after it are left for later waits. -/
theorem Open.givesUp (ready : stage.Open tracker submission)
    (timed : 0 < tracker.finality.pollIntervalMs) (roomy : tracker.freshBackoff.Roomy)
    (spare : Nat)
    (reachable : stage.world.ledger.unreachable = false)
    (budget : streak stage.earlier + spare = tracker.finality.maxRpcFailures)
    (failing : spare < stage.world.ledger.failingPolls)
    (short : tracker.finality.maxRpcFailures + 1 < Checked.limit 32) :
    stage.Ends tracker submission (spare + 1) (.error pollFailure)
      { stage.world with ledger :=
          { stage.world.ledger with
            failingPolls := stage.world.ledger.failingPolls - (spare + 1) } } := by
  induction spare generalizing stage with
  | zero =>
      obtain ⟨round, looks, failed⟩ := @miss tracker submission stage.world _ reachable failing
      refine ends (Nat.zero_lt_of_lt ready.enough) ready.begun looks (fun _ _ => by omega) ?_
      rw [failed, verdict_pollFailure, if_pos (by omega)]
  | succ spare ih =>
      obtain ⟨round, looks, failed⟩ := @miss tracker submission stage.world _ reachable (by omega)
      have undecided : verdict tracker.finality.maxRpcFailures stage.earlier round.outcome = none := by
        rw [failed, verdict_pollFailure, if_neg (by omega)]
      obtain ⟨passed, goesOn⟩ := ready.passes timed looks
        (round.fits_of_roomy roomy (by omega)) (fun _ _ => by omega) undecided
      have ended := ih goesOn reachable (by rw [streak_next failed]; omega) (Nat.lt_sub_of_add_lt failing)
      have left : stage.world.ledger.failingPolls - 1 - (spare + 1) =
          stage.world.ledger.failingPolls - (spare + 1 + 1) := by omega
      rw [← left]
      exact passed.ends ended

def first (tracker : Tracker) (world : World Chain) : Stage :=
  ⟨tracker.rounds, [], 0, world⟩

end Stage

/-- How the program of a wait ends that is not cancelled. -/
def watch (tracker : Tracker) (submission : Submission) (world : World Chain) :
    Ended (Except Fault FinalityRecord) × Nat × World Chain :=
  Program.run Chain.ledger ⟨some tracker.deadline, none⟩
    (tracker.poll submission tracker.rounds tracker.freshBackoff).run 0 world

def watchSteps (tracker : Tracker) (submission : Submission) (world : World Chain) : List Step :=
  Program.stepsWithin Chain.ledger ⟨some tracker.deadline, none⟩
    (tracker.poll submission tracker.rounds tracker.freshBackoff).run 0 world

theorem first_open (untimed : (tracker.watch submission world).1 ≠ .timedOut) :
    (Stage.first tracker world).Open tracker submission :=
  ⟨Nat.zero_le _, Nat.zero_le _, rounds_enough tracker, untimed⟩

theorem wait_of_ends {count : Nat} {result : Except Error FinalityRecord} {after : World Chain}
    (ends : (Stage.first tracker world).Ends tracker submission count result after) :
    ∃ ms, tracker.wait Chain.ledger submission none world = (result.mapError .failure, ms, after) := by
  obtain ⟨instant, ended⟩ := ends.ended
  have ran : Program.run Chain.ledger ⟨some tracker.deadline, none⟩
      (tracker.poll submission tracker.rounds tracker.freshBackoff).run 0 world =
        (.finished (result.mapError .failure), instant, after) := ended
  refine ⟨instant, ?_⟩
  simp only [wait, ran]

end Tracker

end Notary
