import Notary.Proofs.Session.Soundness

namespace Notary.Session

/-!
The outcome of a case. What a call for its receipt finds first, a receipt or a terminal failure, every
later call finds again without asking the ledger; only a receipt that has been released is reported
as resolved already.
-/

variable {σ : Type} {ledger : Ledger σ} {session last : Session σ} {turn : Turn σ}
  {turns : List (Turn σ)} {number : Nat} {reply : Except Fault Handle} {receipt : Handle}

/-- What a call for the receipt of a case was answered with. -/
def Turn.receiptOf? (number : Nat) : Turn σ → Option (Except Fault Handle)
  | ⟨before, .transactionReceipt word _, reply, _⟩ =>
      match before.registry.submission (.ofWord word) with
      | .ok found => if found = number then some reply else none
      | .error _ => none
  | _ => none

/-- The state that a case is in, with its submission. -/
def Stands (session : Session σ) (number : Nat) (submission : Submission) (state : Submission.State) :
    Prop :=
  ∃ found, session.docket.cases[number]? = some found ∧ found.submission = submission ∧
    found.state = state

theorem receiptOf?_eq_some (called : turn.receiptOf? number = some reply) :
    ∃ before word cancelAt after, turn = ⟨before, .transactionReceipt word cancelAt, reply, after⟩ ∧
      before.registry.submission (.ofWord word) = .ok number := by
  obtain ⟨before, request, result, after⟩ := turn
  cases request with
  | transactionReceipt word cancelAt =>
      simp only [Turn.receiptOf?] at called
      cases named : before.registry.submission (.ofWord word) with
      | error e => simp [named] at called
      | ok found =>
          simp only [named, Option.ite_none_right_eq_some] at called
          obtain ⟨rfl, answered⟩ := called
          cases answered
          exact ⟨before, word, cancelAt, after, rfl, named⟩
  | _ => cases called

theorem receiptOf?_resolution
    (answered : turn.before.answer ledger turn.request = (turn.reply, turn.after))
    (called : turn.receiptOf? number = some reply) :
    turn.before.docket.Resolution number reply turn.after.docket := by
  obtain ⟨before, word, cancelAt, after, rfl, named⟩ := receiptOf?_eq_some called
  simp only [answer, transactionReceipt, named] at answered
  obtain ⟨rfl, rfl⟩ := Prod.mk.inj answered
  exact before.docket.resolve_resolution ledger number cancelAt

/-- A call for the receipt of a settled case is answered from its outcome and changes nothing. -/
theorem receiptOf?_settled {found : Submission.Case} {outcome : Except Error Handle}
    (answered : turn.before.answer ledger turn.request = (turn.reply, turn.after))
    (called : turn.receiptOf? number = some reply)
    (stored : turn.before.docket.cases[number]? = some found)
    (settled : turn.before.docket.outcome? found = some outcome) :
    turn.Silent ∧ reply = outcome.mapError .failure := by
  obtain ⟨before, word, cancelAt, after, rfl, named⟩ := receiptOf?_eq_some called
  have everywhere (other : Ledger σ) : before.answer other (.transactionReceipt word cancelAt) =
      (outcome.mapError .failure, before) := by
    simp only [answer, transactionReceipt, named]
    rw [Docket.resolve_of_outcome other cancelAt stored settled]
  obtain ⟨rfl, rfl⟩ := Prod.mk.inj ((everywhere ledger).symm.trans answered)
  exact ⟨⟨rfl, everywhere⟩, rfl⟩

/-! How a settled case goes on. -/

variable {submission : Submission} {state : Submission.State}

theorem Turns.stands (happened : Turns ledger session turns last) (sound : session.Sound)
    (stands : session.Stands number submission state) (settled : state ≠ .sent) :
    last.Stands number submission state := by
  induction happened with
  | nil => exact stands
  | cons turn answered goesOn ih =>
      obtain ⟨found, stored, rfl, rfl⟩ := stands
      have shifts := shifts_of_answered sound answered
      obtain ⟨issued, rewrites, -⟩ := shifts.rewrites sound.wellFormed
      obtain ⟨later, here, same, kept⟩ := rewrites.stays stored
      exact ih (shifts.sound sound) ⟨later, here, same, kept settled⟩

/-- A receipt that has gone does not come back. -/
theorem Turns.gone (happened : Turns ledger session turns last) (sound : session.Sound)
    (word : receipt.IsWord) (spent : session.registry.arena.Spent receipt)
    (absent : session.registry.arena.get? receipt = none) :
    last.registry.arena.get? receipt = none := by
  induction happened with
  | nil => exact absent
  | cons turn answered goesOn ih =>
      have shifts := shifts_of_answered sound answered
      refine ih (shifts.sound sound) (shifts.spent_mono sound.wellFormed spent) ?_
      by_cases released : turn.released? = some receipt
      · exact shifts.get?_released sound.wellFormed released
      · rw [shifts.get?_kept sound.wellFormed word spent released, absent]

theorem Turns.get?_released (happened : Turns ledger session turns last) (sound : session.Sound)
    (word : receipt.IsWord) (spent : session.registry.arena.Spent receipt)
    (released : ∃ turn ∈ turns, turn.released? = some receipt) :
    last.registry.arena.get? receipt = none := by
  induction happened with
  | nil => simp at released
  | cons turn answered goesOn ih =>
      have shifts := shifts_of_answered sound answered
      have spentLater := shifts.spent_mono sound.wellFormed spent
      obtain ⟨releasing, member, gone⟩ := released
      obtain rfl | later := List.mem_cons.mp member
      · exact goesOn.gone (shifts.sound sound) word spentLater
          (shifts.get?_released sound.wellFormed gone)
      · exact ih (shifts.sound sound) spentLater ⟨releasing, later, gone⟩

theorem Turns.get?_kept (happened : Turns ledger session turns last) (sound : session.Sound)
    (word : receipt.IsWord) (spent : session.registry.arena.Spent receipt)
    (kept : ∀ turn ∈ turns, turn.released? ≠ some receipt) :
    last.registry.arena.get? receipt = session.registry.arena.get? receipt := by
  induction happened with
  | nil => rfl
  | cons turn answered goesOn ih =>
      have shifts := shifts_of_answered sound answered
      rw [ih (shifts.sound sound) (shifts.spent_mono sound.wellFormed spent)
        fun later member => kept later (List.mem_cons_of_mem turn member)]
      exact shifts.get?_kept sound.wellFormed word spent (kept turn List.mem_cons_self)

/-! Two calls for the receipt of one case. -/

/-- What a call for the receipt of a case fixes for a later one, with other turns between them. -/
structure Fixes (number : Nat) (first : Turn σ) (between : List (Turn σ)) (second : Turn σ) : Prop where
  kept : ∀ receipt later, first.receiptOf? number = some (.ok receipt) →
    second.receiptOf? number = some later →
    (∀ turn ∈ between, turn.released? ≠ some receipt) → second.Silent ∧ later = .ok receipt
  released : ∀ receipt later, first.receiptOf? number = some (.ok receipt) →
    second.receiptOf? number = some later →
    (∃ turn ∈ between, turn.released? = some receipt) → second.Silent ∧
      ∃ found, second.before.docket.cases[number]? = some found ∧
        later = .error (.failure (.alreadyResolved found.submission.hash.text))
  failed : ∀ e later, first.receiptOf? number = some (.error (.failure e)) →
    Submission.isTerminal e = true → second.receiptOf? number = some later →
    second.Silent ∧ later = .error (.failure e)
  registered : ∀ reply later, first.receiptOf? number = some reply →
    second.receiptOf? number = some later → first.after.registry ≠ first.before.registry →
    second.after.registry = second.before.registry

variable {first second : Turn σ} {before between after : List (Turn σ)}

theorem Turns.pair
    (happened : Turns ledger session (before ++ first :: (between ++ second :: after)) last)
    (sound : session.Sound) :
    first.before.Sound ∧
      first.before.answer ledger first.request = (first.reply, first.after) ∧
      Turns ledger first.after between second.before ∧
      second.before.answer ledger second.request = (second.reply, second.after) := by
  obtain ⟨middle, early, late⟩ := happened.split
  have soundThere := early.sound sound
  cases late with
  | cons _ answered goesOn =>
      obtain ⟨later, meanwhile, rest⟩ := goesOn.split
      cases rest with
      | cons _ answeredLater _ => exact ⟨soundThere, answered, meanwhile, answeredLater⟩

/-- After a call that was answered with a receipt, the case is settled with it for good, and the handle
is one that the registry has given out. -/
theorem finalized_of_call (sound : first.before.Sound)
    (answered : first.before.answer ledger first.request = (first.reply, first.after))
    (called : first.receiptOf? number = some (.ok receipt)) :
    ∃ submission record, first.after.Stands number submission (.finalized receipt) ∧
      receipt.IsWord ∧ first.after.registry.arena.Spent receipt ∧
      first.after.registry.arena.get? receipt = some (.receipt record) := by
  obtain ⟨found, record, stored, state, held⟩ :=
    (receiptOf?_resolution answered called).receipt_stands sound.wellFormed rfl
  have backed := ((shifts_of_answered sound answered).sound sound).backed number found stored
  rw [state] at backed
  exact ⟨found.submission, record, ⟨found, stored, rfl, state⟩, backed.1, backed.2, held⟩

theorem fixes_of_turns (sound : first.before.Sound)
    (answered : first.before.answer ledger first.request = (first.reply, first.after))
    (meanwhile : Turns ledger first.after between second.before)
    (answeredLater : second.before.answer ledger second.request = (second.reply, second.after)) :
    Fixes number first between second := by
  have soundAfter := (shifts_of_answered sound answered).sound sound
  have kept (receipt : Handle) (later : Except Fault Handle)
      (called : first.receiptOf? number = some (.ok receipt))
      (calledLater : second.receiptOf? number = some later)
      (unreleased : ∀ turn ∈ between, turn.released? ≠ some receipt) :
      second.Silent ∧ later = .ok receipt := by
    obtain ⟨submission, record, stands, word, spent, held⟩ := finalized_of_call sound answered called
    obtain ⟨found, stored, -, state⟩ := meanwhile.stands soundAfter stands nofun
    rw [← meanwhile.get?_kept soundAfter word spent unreleased] at held
    exact receiptOf?_settled answeredLater calledLater stored (Docket.outcome?_finalized state held)
  have released (receipt : Handle) (later : Except Fault Handle)
      (called : first.receiptOf? number = some (.ok receipt))
      (calledLater : second.receiptOf? number = some later)
      (gone : ∃ turn ∈ between, turn.released? = some receipt) :
      second.Silent ∧ ∃ found, second.before.docket.cases[number]? = some found ∧
        later = .error (.failure (.alreadyResolved found.submission.hash.text)) := by
    obtain ⟨submission, record, stands, word, spent, -⟩ := finalized_of_call sound answered called
    obtain ⟨found, stored, -, state⟩ := meanwhile.stands soundAfter stands nofun
    have absent := meanwhile.get?_released soundAfter word spent gone
    obtain ⟨silent, same⟩ := receiptOf?_settled answeredLater calledLater stored
      (Docket.outcome?_released state absent)
    exact ⟨silent, found, stored, same⟩
  refine { kept := kept, released := released, failed := ?_, registered := ?_ }
  · intro e later called terminal calledLater
    obtain ⟨found, stored, state⟩ :=
      (receiptOf?_resolution answered called).failure_stands rfl terminal
    obtain ⟨there, storedLater, -, stateLater⟩ :=
      meanwhile.stands soundAfter ⟨found, stored, rfl, state⟩ nofun
    exact receiptOf?_settled answeredLater calledLater storedLater (Docket.outcome?_failed stateLater)
  · intro reply later called calledLater moved
    obtain same | ⟨record, receipt, rfl, -⟩ := (receiptOf?_resolution answered called).registry_eq
    · exact absurd same moved
    · have silent : second.Silent := by
        by_cases gone : ∃ turn ∈ between, turn.released? = some receipt
        · exact (released receipt later called calledLater gone).1
        · push Not at gone
          exact (kept receipt later called calledLater gone).1
      rw [silent.1]

/-- Over every run of a session, and for every case: calls for its receipt fail without settling it,
until one finds a receipt or a terminal failure; from then on every call is answered from that outcome
and asks the ledger nothing. One receipt at most is ever registered for the case, and a registry that
is full leaves it unsettled. -/
theorem cases_have_one_outcome (ledger : Ledger σ) (endpoint : String) (tracker : Tracker)
    (capacity : Nat) (state : σ) (requests : List (Request σ)) (number : Nat) :
    let turns := ((opened endpoint tracker capacity state).run ledger requests).1
    (∀ before first between second after,
      turns = before ++ first :: (between ++ second :: after) → Fixes number first between second) ∧
    ∀ turn ∈ turns, ∀ reply, turn.receiptOf? number = some reply →
      (turn.after.registry = turn.before.registry ∨ ∃ record receipt, reply = .ok receipt ∧
        turn.before.registry.register (.receipt record) = (.ok receipt, turn.after.registry)) ∧
      (reply = .error (.failure .registryFull) → turn.after.docket.state number = .ok .sent) := by
  have happened := run_turns ledger (opened endpoint tracker capacity state) requests
  have sound := opened_sound endpoint tracker capacity state
  refine ⟨?_, ?_⟩
  · intro before first between second after shape
    rw [shape] at happened
    obtain ⟨soundThere, answered, meanwhile, answeredLater⟩ := happened.pair sound
    exact fixes_of_turns soundThere answered meanwhile answeredLater
  · intro turn taken reply called
    obtain ⟨before, after, shape⟩ := List.append_of_mem taken
    rw [shape] at happened
    obtain ⟨middle, early, late⟩ := happened.split
    cases late with
    | cons _ answered _ =>
        have resolution := receiptOf?_resolution answered called
        refine ⟨resolution.registry_eq, resolution.full_sent fun found e stored failed => ?_⟩
        have backed := (early.sound sound).backed number found stored
        rwa [failed] at backed

end Notary.Session
