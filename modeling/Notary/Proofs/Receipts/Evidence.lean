import Notary.Proofs.Finality.Course
import Notary.Proofs.Receipts.Moves
import Notary.Proofs.Receipts.Phases

namespace Notary

/-!
What the ledger has told the errands of a bureau. A wait that ends with a record was given three answers,
in this order: where the transaction is included, that its block is deep enough, and that the block
still stands at its height. A submission read a head above which its transaction will be included.
-/

namespace Chain

variable {chain after : Chain} {height : Nat} {hash : Hash}

/-- The height was reached, and a transaction can only be included above it. -/
structure Precedes (chain : Chain) (height : Nat) (hash : Hash) : Prop where
  reached : height ≤ chain.head
  below : ∀ report, chain.position hash = some report → height < report.blockNumber

theorem Precedes.grows (precedes : chain.Precedes height hash) (grows : chain.Grows after) :
    after.Precedes height hash where
  reached := Nat.le_trans precedes.reached grows.head
  below := by
    intro report found
    cases before : chain.position hash with
    | none => exact Nat.lt_of_le_of_lt precedes.reached (grows.above hash report before found)
    | some earlier =>
        have later := grows.kept hash earlier before
        rw [found] at later
        cases later
        exact precedes.below report before

theorem Precedes.ofTaken [Surroundings] {raw : Bytes} (orderly : chain.Orderly) (grows : chain.Grows after)
    (reached : height ≤ chain.head) (answered : chain.answer (.sendRaw raw) = (.ok hash, after)) :
    after.Precedes height (Keccak.hash raw) where
  reached := Nat.le_trans reached grows.head
  below := by
    intro report found
    have fresh := answer_sendRaw answered
    -- A transaction that was included was taken before, so this one is included later on.
    have absent : chain.position (Keccak.hash raw) = none := by
      cases before : chain.position (Keccak.hash raw) with
      | none => rfl
      | some earlier => exact absurd (orderly.reported _ _ before).1 fresh
    exact Nat.lt_of_le_of_lt reached (grows.above _ report absent found)

end Chain

theorem World.serve_ask [Chain.Surroundings] {world after : World Chain} {call : Call} {reply : call.Reply}
    (served : world.serve Chain.ledger (.ask call) = (reply, after)) :
    world.ledger.answer call = (reply, after.ledger) := by
  obtain ⟨rfl, rfl⟩ := Prod.mk.inj served
  rfl

namespace Sending

variable {phase : Sending} {chain next : Chain}

/-- What the phase says of the ledger. -/
def Bears (chain : Chain) : Sending → Prop
  | idle => True
  | begun height => height ≤ chain.head
  | sent height raw taken => taken = true → chain.Precedes height (Keccak.hash raw)

theorem Bears.grows (bears : phase.Bears chain) (grows : chain.Grows next) : phase.Bears next := by
  cases phase with
  | idle => trivial
  | begun height => exact Nat.le_trans bears grows.head
  | sent height raw taken => exact fun new => (bears new).grows grows

theorem bears_after [Chain.Surroundings] {world after : World Chain} {step : Step} {reply : step.Reply}
    (bears : phase.Bears world.ledger) (orderly : world.ledger.Orderly)
    (grows : world.ledger.Grows after.ledger) (allowed : discipline.allows phase step)
    (served : world.serve Chain.ledger step = (reply, after)) :
    (discipline.after phase step reply).Bears after.ledger := by
  have still (aloof : Aloof step) : (discipline.after phase step reply).Bears after.ledger := by
    rw [(steady phase aloof).2 reply]
    exact bears.grows grows
  cases step with
  | reserve | release | pause | draw | note => exact still trivial
  | ask call =>
      have answered := World.serve_ask served
      cases call with
      | chainId | finalizedBlockNumber | blockHash | pendingNonce | gasPrice | inclusion =>
          exact still trivial
      | blockNumber =>
          cases phase with
          | begun height => exact bears.grows grows
          | sent height raw taken => exact bears.grows grows
          | idle =>
              cases reply with
              | error fault => trivial
              | ok height => exact Nat.le_of_eq (Chain.answer_blockNumber answered)
      | sendRaw raw =>
          obtain ⟨height, rfl⟩ := allowed
          cases reply with
          | error fault => exact nofun
          | ok hash => exact fun _ => .ofTaken orderly grows bears answered

theorem sent_after {height : Nat} {sent : Bytes} {taken : Bool} {step : Step}
    (allowed : discipline.allows (.sent height sent taken) step) (reply : step.Reply) :
    discipline.after (.sent height sent taken) step reply = .sent height sent taken := by
  cases step with
  | ask call =>
      cases call with
      | sendRaw raw =>
          obtain ⟨other, same⟩ := allowed
          cases same
      | _ => rfl
  | reserve | release | pause | draw | note => rfl

end Sending

namespace Bureau

/-- The ledger took the transaction of an errand as a new one. -/
def Recorded (history : List Turn) (errand : Nat) : Prop :=
  ∃ turn ∈ history, ∃ raw hash, turn.event = .served ⟨errand, .ask (.sendRaw raw), .ok hash⟩

/-- An errand was told where its transaction is included, and that it was not reverted. -/
structure Locates (turn : Turn) (errand : Nat) (hash : Hash) (report : InclusionReport) : Prop where
  told : turn.event = .served ⟨errand, .ask (.inclusion hash), .ok (some report)⟩
  placed : turn.after.chain.position hash = some report
  own : report.transactionHash = hash
  mined : report.blockHash = Chain.minedHash report.blockNumber
  succeeded : report.success = true

/-- An errand was told that a height is final, by the measure of its tracker. -/
structure Buries (tracker : Tracker) (turn : Turn) (errand height : Nat) : Prop where
  told : match tracker.finality.mode with
    | .finalized => ∃ finalized : Nat,
        turn.event = .served ⟨errand, .ask .finalizedBlockNumber, .ok (some finalized)⟩
    | .confirmations => ∃ head : Nat, turn.event = .served ⟨errand, .ask .blockNumber, .ok head⟩
  deep : height + tracker.depth turn.after.chain.lag ≤ turn.after.chain.head

/-- An errand was told that the block of a report stands at its height. -/
structure Stands (turn : Turn) (errand : Nat) (report : InclusionReport) : Prop where
  told : turn.event =
    .served ⟨errand, .ask (.blockHash report.blockNumber), .ok (some report.blockHash)⟩
  canonical : turn.after.chain.canonicalHash report.blockNumber = some report.blockHash

/-- What the answers to an errand say, as far as its check has come. -/
def Evidence (tracker : Tracker) (history : List Turn) (errand : Nat) (hash : Hash) :
    Checking → Prop
  | .blank => True
  | .located report => ∃ included, [included].Sublist history ∧ Locates included errand hash report
  | .deep report => ∃ included buried, [included, buried].Sublist history ∧
      Locates included errand hash report ∧ Buries tracker buried errand report.blockNumber
  | .confirmed report => ∃ included buried canonical,
      [included, buried, canonical].Sublist history ∧ Locates included errand hash report ∧
        Buries tracker buried errand report.blockNumber ∧ Stands canonical errand report

variable {tracker : Tracker} {history : List Turn} {bureau after : Bureau} {errand : Nat} {act : Act}
  {hash : Hash} {phase : Checking} {turn : Turn}

theorem sublist_append {turns : List Turn} (listed : turns.Sublist history) (turn : Turn) :
    (turns ++ [turn]).Sublist (history ++ [turn]) :=
  listed.append (.refl [turn])

theorem Evidence.mono (evidence : Evidence tracker history errand hash phase) (turn : Turn) :
    Evidence tracker (history ++ [turn]) errand hash phase := by
  have longer := List.sublist_append_left history [turn]
  cases phase with
  | blank => trivial
  | located report =>
      obtain ⟨included, listed, facts⟩ := evidence
      exact ⟨included, listed.trans longer, facts⟩
  | deep report =>
      obtain ⟨included, buried, listed, facts⟩ := evidence
      exact ⟨included, buried, listed.trans longer, facts⟩
  | confirmed report =>
      obtain ⟨included, buried, canonical, listed, facts⟩ := evidence
      exact ⟨included, buried, canonical, listed.trans longer, facts⟩

section

variable {report : InclusionReport}

theorem Evidence.locate (locates : Locates turn errand hash report) :
    Evidence tracker (history ++ [turn]) errand hash (.located report) :=
  ⟨turn, List.sublist_append_right history _, locates⟩

theorem Evidence.bury (evidence : Evidence tracker history errand hash (.located report))
    (buries : Buries tracker turn errand report.blockNumber) :
    Evidence tracker (history ++ [turn]) errand hash (.deep report) := by
  obtain ⟨included, listed, locates⟩ := evidence
  exact ⟨included, turn, sublist_append listed turn, locates, buries⟩

theorem Evidence.confirm (evidence : Evidence tracker history errand hash (.deep report))
    (stands : Stands turn errand report) :
    Evidence tracker (history ++ [turn]) errand hash (.confirmed report) := by
  obtain ⟨included, buried, listed, locates, buries⟩ := evidence
  exact ⟨included, buried, turn, sublist_append listed turn, locates, buries, stands⟩

end

theorem recorded_append : Recorded (history ++ [turn]) errand ↔ Recorded history errand ∨
    ∃ raw hash, turn.event = .served ⟨errand, .ask (.sendRaw raw), .ok hash⟩ := by
  constructor
  · rintro ⟨told, listed, raw, hash, event⟩
    obtain early | last := List.mem_append.mp listed
    · exact .inl ⟨told, early, raw, hash, event⟩
    · cases List.mem_singleton.mp last
      exact .inr ⟨raw, hash, event⟩
  · rintro (⟨told, listed, facts⟩ | facts)
    · exact ⟨told, List.mem_append_left _ listed, facts⟩
    · exact ⟨turn, List.mem_append_right _ (List.mem_singleton_self turn), facts⟩

/-- What stands behind an errand: a submission knows what head it read before it sent, a wait what it
was told of the transaction of its case. -/
def Carries (tracker : Tracker) (history : List Turn) (bureau : Bureau) (number : Nat) :
    Errand → Prop
  | .submitting rest => ∃ phase : Sending,
      Task.Learns Sending.discipline Tracker.Sent phase rest ∧ phase.Bears bureau.chain ∧
        (Recorded history number → ∃ height raw, phase = .sent height raw true)
  | .filed case => ∃ found, bureau.cases[case]? = some found ∧
      (Recorded history number →
        bureau.chain.Precedes found.submission.submittedAt found.submission.hash)
  | .resolving case rest => ∃ found phase, bureau.cases[case]? = some found ∧
      Task.Learns (Checking.discipline tracker found.submission.hash) Checking.Confirms phase rest ∧
        Evidence tracker history number found.submission.hash phase
  | .ended => True

variable {number : Nat} {event : Event} {task : Errand}

theorem Carries.aside (carries : Carries tracker history bureau number task)
    (frame : Frame bureau event after) (grows : bureau.chain.Grows after.chain)
    (aside : ∀ step reply, event ≠ .served ⟨number, step, reply⟩) :
    Carries tracker (history ++ [⟨bureau, act, event, after⟩]) after number task := by
  have recorded (later : Recorded (history ++ [⟨bureau, act, event, after⟩]) number) :
      Recorded history number := by
    obtain early | ⟨raw, hash, told⟩ := recorded_append.mp later
    · exact early
    · exact absurd told (aside _ _)
  cases task with
  | submitting rest =>
      obtain ⟨phase, learns, bears, sent⟩ := carries
      exact ⟨phase, learns, bears.grows grows, fun later => sent (recorded later)⟩
  | filed case =>
      obtain ⟨found, stored, precedes⟩ := carries
      obtain ⟨there, storedThere, same⟩ := frame.kept case found stored
      refine ⟨there, storedThere, fun later => ?_⟩
      rw [same]
      exact (precedes (recorded later)).grows grows
  | resolving case rest =>
      obtain ⟨found, phase, stored, learns, evidence⟩ := carries
      obtain ⟨there, storedThere, same⟩ := frame.kept case found stored
      refine ⟨there, phase, storedThere, ?_⟩
      rw [same]
      exact ⟨learns, evidence.mono _⟩
  | ended => trivial

theorem Begins.carries (begins : Begins bureau task) (same : bureau.tracker = tracker)
    (unrecorded : ¬ Recorded history number) : Carries tracker history bureau number task := by
  cases begins with
  | submitting signer payload options =>
      exact ⟨.idle, Tracker.submit_learns, trivial, fun recorded => absurd recorded unrecorded⟩
  | resolving case found stored =>
      refine ⟨found, .blank, stored, ?_, trivial⟩
      unfold waitFor
      split
      · exact nofun
      · rw [same]
        exact Tracker.poll_learns _ _

variable [Chain.Surroundings]

theorem Locates.ofAnswer {asked : Chain} {report : InclusionReport} (orderly : after.chain.Orderly)
    (answered : asked.answer (.inclusion hash) = (.ok (some report), after.chain))
    (succeeded : report.success = true) :
    Locates ⟨bureau, act, .served ⟨errand, .ask (.inclusion hash), .ok (some report)⟩, after⟩ errand hash
      report := by
  have placed := Chain.answer_inclusion answered
  obtain ⟨-, own, mined, -⟩ := orderly.reported hash report placed
  exact ⟨rfl, placed, own, mined, succeeded⟩

theorem Buries.ofFinalized {asked : Chain} {finalized height : Nat}
    (mode : tracker.finality.mode = .finalized) (reached : height ≤ finalized)
    (answered : asked.answer .finalizedBlockNumber = (.ok (some finalized), after.chain)) :
    Buries tracker ⟨bureau, act, .served ⟨errand, .ask .finalizedBlockNumber, .ok (some finalized)⟩, after⟩
      errand height where
  told := by
    rw [mode]
    exact ⟨finalized, rfl⟩
  deep := by
    have lagging := Chain.answer_finalizedBlockNumber answered
    rw [Tracker.depth, mode, ← lagging]
    exact Nat.add_le_add_right reached _

theorem Buries.ofHead {asked : Chain} {head height : Nat}
    (mode : tracker.finality.mode = .confirmations)
    (reached : height + tracker.finality.confirmationBlocks ≤ head)
    (answered : asked.answer .blockNumber = (.ok head, after.chain)) :
    Buries tracker ⟨bureau, act, .served ⟨errand, .ask .blockNumber, .ok head⟩, after⟩ errand height where
  told := by
    rw [mode]
    exact ⟨head, rfl⟩
  deep := by
    rw [Tracker.depth, mode, ← Chain.answer_blockNumber answered]
    exact reached

theorem Evidence.served {step : Step} {reply : step.Reply}
    (evidence : Evidence tracker history errand hash phase) (orderly : after.chain.Orderly)
    (served : bureau.docket.world.serve Chain.ledger step =
      (reply, after.docket.world)) :
    Evidence tracker (history ++ [⟨bureau, act, .served ⟨errand, step, reply⟩, after⟩]) errand hash
      ((Checking.discipline tracker hash).after phase step reply) := by
  cases step with
  | reserve | release | pause | draw | note => cases phase <;> exact evidence.mono _
  | ask call =>
      -- An answer that does not fit the phase takes the check back to its start, where nothing is said.
      have answered := World.serve_ask served
      cases call with
      | chainId | pendingNonce | gasPrice | sendRaw => cases phase <;> trivial
      | inclusion asked =>
          rcases reply with fault | report | report
          · cases phase <;> trivial
          · cases phase <;> trivial
          · have located : Evidence tracker
                (history ++ [⟨bureau, act,
                  .served ⟨errand, .ask (.inclusion asked), .ok (some report)⟩, after⟩]) errand hash
                (if asked = hash ∧ report.success = true then .located report else .blank) := by
              split
              · next own =>
                  obtain ⟨rfl, succeeded⟩ := own
                  exact .locate (.ofAnswer orderly answered succeeded)
              · trivial
            cases phase <;> exact located
      | finalizedBlockNumber =>
          cases phase with
          | blank | deep | confirmed => trivial
          | located report =>
              rcases reply with fault | finalized | finalized
              · trivial
              · trivial
              · simp only [Checking.discipline]
                split
                · next reached => exact evidence.bury (.ofFinalized reached.1 reached.2 answered)
                · trivial
      | blockNumber =>
          cases phase with
          | blank | deep | confirmed => trivial
          | located report =>
              cases reply with
              | error fault => trivial
              | ok head =>
                  simp only [Checking.discipline]
                  split
                  · next reached => exact evidence.bury (.ofHead reached.1 reached.2 answered)
                  · trivial
      | blockHash number =>
          cases phase with
          | blank | located | confirmed => trivial
          | deep report =>
              rcases reply with fault | block | block
              · trivial
              · trivial
              · simp only [Checking.discipline]
                split
                · next same =>
                    obtain ⟨rfl, rfl⟩ := same
                    exact evidence.confirm ⟨rfl, Chain.answer_blockHash answered⟩
                · trivial

theorem Becomes.carries {next : Errand} (becomes : Becomes bureau number event after task next)
    (carries : Carries tracker history bureau number task) (frame : Frame bureau event after)
    (orderly : bureau.chain.Orderly) :
    Carries tracker (history ++ [⟨bureau, act, event, after⟩]) after number next := by
  obtain ⟨grows, orderlyAfter⟩ := frame.follows orderly
  cases becomes with
  | @sends step next reply _ served =>
      -- The transaction is sent once: in this turn, or before it and then the phase stays.
      obtain ⟨phase, ⟨allowed, learns⟩, bears, sent⟩ := carries
      refine ⟨_, learns reply, Sending.bears_after bears orderly grows allowed served, ?_⟩
      intro later
      obtain early | ⟨raw, hash, told⟩ := recorded_append.mp later
      · obtain ⟨height, raw, rfl⟩ := sent early
        exact ⟨height, raw, Sending.sent_after allowed reply⟩
      · cases told
        obtain ⟨height, rfl⟩ := allowed
        exact ⟨height, raw, rfl⟩
  | @waits case step next reply _ served =>
      obtain ⟨found, phase, stored, ⟨-, learns⟩, evidence⟩ := carries
      obtain ⟨there, storedThere, same⟩ := frame.kept case found stored
      refine ⟨there, (Checking.discipline tracker found.submission.hash).after phase step reply,
        storedThere, ?_⟩
      rw [same]
      exact ⟨learns reply, evidence.served orderlyAfter served⟩
  | @files submission _ stored =>
      obtain ⟨phase, learns, bears, sent⟩ := carries
      refine ⟨_, stored, fun later => ?_⟩
      obtain early | ⟨raw, hash, told⟩ := recorded_append.mp later
      · obtain ⟨height, raw, rfl⟩ := sent early
        obtain ⟨named, taken, same⟩ := learns submission rfl
        cases same
        have precedes := bears rfl
        rw [← named] at precedes
        exact precedes.grows grows
      · cases told
  | fails => trivial
  | breaks =>
      -- What is left of the wait fails, so it learns anything.
      obtain ⟨found, phase, stored, -⟩ := carries
      obtain ⟨there, storedThere, -⟩ := frame.kept _ found stored
      exact ⟨there, .blank, storedThere, nofun, trivial⟩
  | settles => trivial

end Bureau

end Notary
