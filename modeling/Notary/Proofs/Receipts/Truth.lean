import Notary.Proofs.Receipts.Evidence

namespace Notary.Bureau

/-!
Receipts tell the truth, whatever else goes on while a submission or a wait for a receipt is under way:
every record that a receipt stands for was vouched for by the ledger.
-/

variable {tracker : Tracker} {history : List Turn} {bureau after : Bureau} {event : Event} {act : Act}
  {hash : Hash} {receipt : Handle} {report : InclusionReport} {number lag : Nat}

/-- A report on a transaction for which an errand was given all three answers. -/
def Vouched (tracker : Tracker) (history : List Turn) (hash : Hash) (report : InclusionReport) :
    Prop :=
  ∃ errand, Evidence tracker history errand hash (.confirmed report)

/-- The receipt of a case stands for a report that was vouched for, unless it has been released. -/
structure Attests (tracker : Tracker) (history : List Turn) (bureau : Bureau)
    (hash : Hash) (receipt : Handle) (report : InclusionReport) : Prop where
  vouched : Vouched tracker history hash report
  word : receipt.IsWord
  spent : bureau.session.registry.arena.Spent receipt
  held : bureau.session.registry.arena.get? receipt = some (.receipt (.ofReport report)) ∨
    bureau.session.registry.arena.get? receipt = none

theorem Attests.goesOn
    (attests : Attests tracker history bureau hash receipt report)
    (frame : Frame bureau event after) :
    Attests tracker (history ++ [⟨bureau, act, event, after⟩]) after hash receipt report where
  vouched := by
    obtain ⟨errand, evidence⟩ := attests.vouched
    exact ⟨errand, evidence.mono _⟩
  word := attests.word
  spent := frame.registry.spent receipt attests.spent
  held := by
    obtain same | gone := frame.registry.stays receipt attests.word attests.spent
    · rw [same]
      exact attests.held
    · exact .inr gone

/-- What the bureau keeps from turn to turn. -/
structure Sound (tracker : Tracker) (lag : Nat) (history : List Turn) (bureau : Bureau) : Prop where
  equipped : bureau.tracker = tracker
  lagging : bureau.chain.lag = lag
  wellFormed : bureau.session.registry.arena.WellFormed
  orderly : bureau.chain.Orderly
  grown : ∀ turn ∈ history, turn.after.chain.Grows bureau.chain
  begun : ∀ number, Recorded history number → number < bureau.errands.length
  errands : ∀ (number : Nat) (task : Errand), bureau.errands[number]? = some task →
    Carries tracker history bureau number task
  settled : ∀ (number : Nat) (found : Submission.Case) (receipt : Handle),
    bureau.cases[number]? = some found → found.state = .finalized receipt →
      ∃ report, Attests tracker history bureau found.submission.hash receipt report

theorem opened_sound (endpoint : String) (tracker : Tracker) (capacity lag : Nat) :
    Sound tracker lag [] (opened endpoint tracker capacity lag) where
  equipped := rfl
  lagging := rfl
  wellFormed := Arena.withCapacity_wellFormed capacity
  orderly := Chain.withLag_orderly lag
  grown := by
    intro turn listed
    cases listed
  begun := by
    rintro number ⟨turn, listed, -⟩
    cases listed
  errands := nofun
  settled := by
    intro number found receipt stored
    cases stored

/-- The answers behind a report: a wait was told, in this order, where the transaction is included, that
the head is as far above its block as the tracker asks for, and that the block stands. -/
structure Answers (tracker : Tracker) (lag : Nat) (history : List Turn) (hash : Hash)
    (report : InclusionReport) (errand : Nat) (included buried canonical : Turn) : Prop where
  ordered : [included, buried, canonical].Sublist history
  locates : Locates included errand hash report
  buries : Buries tracker buried errand report.blockNumber
  lagging : buried.after.chain.lag = lag
  stands : Stands canonical errand report
  /-- A block that was replaced does not stand, as long as its hash is not the hash of itself. -/
  unreplaced : Keccak.hash report.blockHash.toBytes ≠ report.blockHash →
    report.blockNumber ∉ canonical.after.chain.orphaned

/-- What is true of a receipt that is given out for a submission. -/
structure Truthful (tracker : Tracker) (lag : Nat) (history : List Turn) (after : Bureau)
    (receipt : Handle) (submission : Submission) (report : InclusionReport) : Prop where
  published : after.session.registry.receipt receipt = .ok (.ofReport report)
  own : report.transactionHash = submission.hash
  placed : after.chain.position submission.hash = some report
  succeeded : report.success = true
  answers : ∃ errand included buried canonical,
    Answers tracker lag history submission.hash report errand included buried canonical

theorem Sound.answers (sound : Sound tracker lag history bureau)
    (vouched : Vouched tracker history hash report) :
    bureau.chain.position hash = some report ∧ report.transactionHash = hash ∧
      report.success = true ∧ ∃ errand included buried canonical,
        Answers tracker lag history hash report errand included buried canonical := by
  obtain ⟨errand, included, buried, canonical, ordered, locates, buries, stands⟩ := vouched
  have grownIncluded := sound.grown included (ordered.subset (by simp))
  have grownBuried := sound.grown buried (ordered.subset (by simp))
  refine ⟨grownIncluded.kept hash report locates.placed, locates.own, locates.succeeded, errand,
    included, buried, canonical, ordered, locates, buries, ?_, stands, fun moving replaced => ?_⟩
  · rw [← grownBuried.lag, sound.lagging]
  · -- The hash of a block that was replaced is the hash of the hash that the block was mined with.
    have canonical := stands.canonical
    rw [locates.mined] at canonical moving
    obtain standing | fixed := Chain.canonicalHash_eq_minedHash canonical
    · exact standing replaced
    · exact moving fixed

/-- A call for the receipt of a case that is answered with one is answered with the truth. If the ledger
took the transaction of the case as a new one, it is included above the head that its submission read. -/
def Reliable (tracker : Tracker) (lag : Nat) (turns : List Turn) : Prop :=
  ∀ before turn rest number receipt, turns = before ++ turn :: rest →
    turn.event = .resolved number (.ok receipt) →
      ∃ found report, turn.after.cases[number]? = some found ∧
        Truthful tracker lag before turn.after receipt found.submission report ∧
        ∀ errand, turn.after.errands[errand]? = some (.filed number) → Recorded before errand →
          found.submission.submittedAt < report.blockNumber

/-! Sound bureaus go on. -/

variable [Chain.Surroundings]

/-- A case that is answered with a receipt was vouched for before, and the receipt stands for it. -/
theorem Sound.answered (sound : Sound tracker lag history bureau)
    (frame : Frame bureau event after) (moves : Moves bureau event after)
    (told : event = .resolved number (.ok receipt)) :
    ∃ found report, bureau.cases[number]? = some found ∧
      Vouched tracker history found.submission.hash report ∧
      after.session.registry.Publishes receipt (.ofReport report) := by
  cases moves with
  | quiet | began => cases told
  | answered settled =>
      cases told
      obtain ⟨found, record, stored, state, held⟩ := settled receipt rfl
      obtain ⟨report, vouched, word, spent, same | gone⟩ :=
        sound.settled number found receipt stored state
      · exact ⟨found, report, stored, vouched, word, spent, same⟩
      · cases held.symm.trans gone
  | stepped here becomes errands =>
      have carries := sound.errands _ _ here
      cases becomes with
      | sends | waits | files | fails | breaks => cases told
      | settles published =>
          cases told
          obtain ⟨record, rfl, publishes⟩ := published receipt rfl
          obtain ⟨found, phase, stored, confirms, evidence⟩ := carries
          obtain ⟨report, rfl, rfl⟩ := confirms record rfl
          exact ⟨found, report, stored, ⟨_, evidence⟩, publishes⟩

theorem Becomes.own {task next : Errand} {turn : Crew.Turn}
    (becomes : Becomes bureau number event after task next) (told : event = .served turn) :
    turn.thread = number := by
  cases becomes with
  | sends | waits =>
      cases told
      rfl
  | files | fails | breaks | settles => cases told

theorem Moves.length (moves : Moves bureau event after) :
    bureau.errands.length ≤ after.errands.length := by
  cases moves with
  | quiet errands => exact Nat.le_of_eq (congrArg List.length errands.symm)
  | answered => exact Nat.le_refl _
  | began => simp [Desk.add]
  | stepped here becomes errands => simp [errands]

theorem Moves.served {turn : Crew.Turn} (moves : Moves bureau event after)
    (told : event = .served turn) : turn.thread < bureau.errands.length := by
  cases moves with
  | quiet | answered | began => cases told
  | stepped here becomes errands =>
      rw [becomes.own told]
      exact (List.getElem?_eq_some_iff.mp here).1

theorem Sound.errands_goOn (sound : Sound tracker lag history bureau)
    (frame : Frame bureau event after) (moves : Moves bureau event after) {task : Errand}
    (stored : after.errands[number]? = some task) :
    Carries tracker (history ++ [⟨bureau, act, event, after⟩]) after number task := by
  have grows := (frame.follows sound.orderly).1
  cases moves with
  | quiet errands =>
      rw [errands] at stored
      exact (sound.errands number task stored).aside frame grows fun _ _ told => nomatch told
  | answered => exact (sound.errands number task stored).aside frame grows fun _ _ told => nomatch told
  | began begins =>
      rw [Desk.add, List.getElem?_append] at stored
      split at stored
      · exact (sound.errands number task stored).aside frame grows fun _ _ told => nomatch told
      · next beyond =>
          obtain rfl := List.mem_singleton.mp (List.mem_of_getElem? stored)
          have unrecorded : ¬ Recorded history number := fun recorded =>
            beyond (sound.begun number recorded)
          have carries := begins.carries sound.equipped unrecorded
          exact carries.aside frame grows fun _ _ told => nomatch told
  | stepped here becomes errands =>
      rw [errands, List.getElem?_set] at stored
      split at stored
      · next same =>
          subst same
          rw [if_pos (List.getElem?_eq_some_iff.mp here).1] at stored
          cases stored
          exact becomes.carries (sound.errands _ _ here) frame sound.orderly
      · next other =>
          refine (sound.errands number task stored).aside frame grows fun step reply told => ?_
          exact other (becomes.own told).symm

theorem Sound.goesOn (sound : Sound tracker lag history bureau) (frame : Frame bureau event after)
    (moves : Moves bureau event after) :
    Sound tracker lag (history ++ [⟨bureau, act, event, after⟩]) after where
  equipped := frame.tracker.trans sound.equipped
  lagging := (frame.follows sound.orderly).1.lag.trans sound.lagging
  wellFormed := frame.registry.wellFormed
  orderly := (frame.follows sound.orderly).2
  grown := by
    intro turn listed
    obtain early | last := List.mem_append.mp listed
    · exact (sound.grown turn early).trans (frame.follows sound.orderly).1
    · cases List.mem_singleton.mp last
      exact .refl
  begun := by
    intro number recorded
    obtain early | ⟨raw, hash, told⟩ := recorded_append.mp recorded
    · exact Nat.lt_of_lt_of_le (sound.begun number early) moves.length
    · exact Nat.lt_of_lt_of_le (moves.served told) moves.length
  errands := fun _ _ stored => sound.errands_goOn frame moves stored
  settled := by
    intro number later receipt stored state
    -- The receipt was given out before this turn, or is the answer of this turn.
    obtain ⟨found, here, same, finalized⟩ | told := frame.finalized number later receipt stored state
    · obtain ⟨report, attests⟩ := sound.settled number found receipt here finalized
      exact ⟨report, same ▸ attests.goesOn frame⟩
    · obtain ⟨found, report, here, ⟨errand, evidence⟩, publishes⟩ := sound.answered frame moves told
      obtain ⟨there, storedThere, same⟩ := frame.kept number found here
      cases storedThere.symm.trans stored
      rw [same]
      exact ⟨report, ⟨errand, evidence.mono _⟩, publishes.word, publishes.spent,
        .inl publishes.held⟩

theorem Sound.turns {turns : List Turn} (sound : Sound tracker lag history bureau)
    (happened : Schedule.Turns Bureau.act bureau turns after) :
    Sound tracker lag (history ++ turns) after := by
  induction happened generalizing history with
  | nil => simpa using sound
  | cons turn acted goesOn ih =>
      obtain ⟨frame, moves⟩ := act_moves sound.wellFormed turn.act
      simp only [acted] at frame moves
      simpa using ih (sound.goesOn frame moves)

/-- Over every run of a session on a fresh ledger, with any callers, controls and other calls between
two steps of a submission or of a wait, receipts tell the truth: the record under a receipt is the
position at which the ledger included the transaction of the case, which was not reverted, and the wait
behind it was told that position, that the head is as far above as the tracker asks for, and that the
block stands. -/
theorem receipts_tell_the_truth (endpoint : String) (tracker : Tracker) (capacity lag : Nat)
    (acts : List Act) :
    Reliable tracker lag ((opened endpoint tracker capacity lag).run acts).1 := by
  intro before turn rest number receipt shape told
  have happened := Schedule.run_turns Bureau.act (opened endpoint tracker capacity lag) acts
  unfold run at shape
  rw [shape] at happened
  obtain ⟨earlier, acted, -⟩ := happened.reach
  have sound := (opened_sound endpoint tracker capacity lag).turns earlier
  obtain ⟨frame, moves⟩ := act_moves sound.wellFormed turn.act
  simp only [acted, List.nil_append] at sound frame moves
  have soundAfter : Sound tracker lag (before ++ [turn]) turn.after := sound.goesOn frame moves
  obtain ⟨found, report, stored, vouched, publishes⟩ := sound.answered frame moves told
  obtain ⟨later, storedLater, same⟩ := frame.kept number found stored
  obtain ⟨placed, own, succeeded, answers⟩ := sound.answers vouched
  have placedAfter := (frame.follows sound.orderly).1.kept _ report placed
  refine ⟨later, report, storedLater, ?_, ?_⟩
  · rw [same]
    exact ⟨Registry.receipt_eq_ok.mpr publishes.held, own, placedAfter, succeeded, answers⟩
  · intro errand filed recorded
    obtain ⟨other, storedOther, precedes⟩ := soundAfter.errands errand _ filed
    cases storedOther.symm.trans storedLater
    exact (precedes (recorded_append.mpr (.inl recorded))).below report (same ▸ placedAfter)

end Notary.Bureau
