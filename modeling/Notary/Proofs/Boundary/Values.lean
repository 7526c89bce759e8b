import Notary.Proofs.Boundary.Refinement
import Notary.Proofs.Session.Outcome

namespace Notary

/-!
The results of a session that is given out through the boundary. A handle is never negative, a position
in a record fits its signed word, and a record never stands at the null address, so that no result can
be taken for a failure.
-/

/-- A handle that is not negative, in a signed word. -/
def Handle.IsPlain (handle : Handle) : Prop :=
  0 ≤ handle.raw ∧ handle.raw < BoundaryRecord.limit

/-- The positions of a record fit in signed words. -/
def BoundaryRecord.Fits (record : BoundaryRecord) : Prop :=
  record.blockHeight < limit ∧ record.transactionIndex < limit

theorem BoundaryRecord.ofRecord_fits {handle : Handle} {record : FinalityRecord}
    {snapshot : BoundaryRecord} (made : ofRecord handle record = .ok snapshot) : snapshot.Fits := by
  unfold ofRecord at made
  split at made
  · cases made
  · next below =>
      split at made
      · cases made
      · next indexBelow =>
          cases made
          exact ⟨Nat.lt_of_not_le below, Nat.lt_of_not_le indexBelow⟩

namespace RecordLedger

variable {records : RecordLedger} {address : Nat} {record : BoundaryRecord}

/-- Every record that is owned fits. -/
def Fits (records : RecordLedger) : Prop :=
  ∀ entry ∈ records.entries, entry.2.Fits

theorem read_fits (fits : records.Fits) (read : records.read address = .ok record) : record.Fits := by
  unfold RecordLedger.read at read
  split at read
  · cases read
  · cases found : records.entries.lookup address with
    | none => simp [found] at read
    | some other =>
        rw [found] at read
        cases read
        obtain ⟨_, _, entries, _⟩ := List.lookup_eq_some_iff.mp found
        exact fits (address, record) (by simp [entries])

theorem materialize_fits (fits : records.Fits) (handle : Handle) (source : FinalityRecord) :
    (records.materialize handle source).2.Fits := by
  unfold materialize materializeAt
  cases made : BoundaryRecord.ofRecord handle source with
  | error e => exact fits
  | ok snapshot =>
      intro entry listed
      obtain rfl | earlier := List.mem_cons.mp listed
      · exact BoundaryRecord.ofRecord_fits made
      · exact fits entry earlier

theorem release_fits (fits : records.Fits) (address : Nat) : (records.release address).2.Fits := by
  unfold release
  cases records.read address with
  | error e => exact fits
  | ok record => exact fun entry listed => fits entry (List.mem_of_mem_filter listed)

theorem materialize_address {handle : Handle} {source : FinalityRecord}
    (made : (records.materialize handle source).1 = .ok address) : address ≠ 0 := by
  unfold materialize materializeAt at made
  cases snapshot : BoundaryRecord.ofRecord handle source with
  | error e => simp [snapshot] at made
  | ok record =>
      simp only [snapshot, Except.ok.injEq] at made
      subst made
      simp [addressOf, BoundaryRecord.size]

end RecordLedger

namespace Session

variable {σ : Type} {session : Session σ} {ledger : Ledger σ} {handle : Handle}

theorem register_plain (wellFormed : session.registry.arena.WellFormed) {object : Object}
    (registered : (session.register object).1 = .ok handle) : handle.IsPlain := by
  unfold register at registered
  cases stored : session.registry.register object with
  | mk result registry =>
      rw [stored] at registered
      cases result with
      | error e => cases registered
      | ok other =>
          cases registered
          have filled := (Registry.register_ok wellFormed stored).filled wellFormed
          exact ⟨filled.nonneg, filled.word.2⟩

theorem initializeSigner_plain (wellFormed : session.registry.arena.WellFormed) {seed : String}
    (made : (session.initializeSigner seed).1 = .ok handle) : handle.IsPlain := by
  unfold initializeSigner at made
  cases derived : Seed.derive seed with
  | error e => simp [derived] at made
  | ok signer =>
      rw [derived] at made
      exact register_plain wellFormed made

theorem submitWithOptions_plain (wellFormed : session.registry.arena.WellFormed) {signer : Handle}
    {payload : Bytes} {options : SubmitOptions}
    (submitted : (session.submitWithOptions ledger signer payload options).1 = .ok handle) :
    handle.IsPlain := by
  unfold submitWithOptions at submitted
  cases named : session.registry.signer signer with
  | error e => simp [named] at submitted
  | ok found =>
      have files := session.docket.submit_files ledger found payload options
      cases outcome : session.docket.submit ledger found payload options with
      | mk result rest =>
          obtain ⟨ms, docket⟩ := rest
          simp only [named, outcome] at submitted files
          cases result with
          | error fault => cases submitted
          | ok number =>
              have same : ({ session with docket } : Session σ).registry = session.registry := files.1
              exact register_plain (same ▸ wellFormed) submitted

theorem submitData_plain (wellFormed : session.registry.arena.WellFormed) {signer : Handle}
    {payload : Bytes} {appId : Int}
    (submitted : (session.submitData ledger signer payload appId).1 = .ok handle) :
    handle.IsPlain := by
  unfold submitData at submitted
  split at submitted
  · cases submitted
  · exact submitWithOptions_plain wellFormed submitted

theorem transactionReceipt_plain (sound : session.Sound) {word : Int32} {cancelAt : Option Nat}
    (given : (session.transactionReceipt ledger (.ofWord word) cancelAt).1 = .ok handle) :
    handle.IsPlain := by
  have answered : session.answer ledger (.transactionReceipt word cancelAt) =
      (.ok handle, (session.transactionReceipt ledger (.ofWord word) cancelAt).2) :=
    Prod.ext given rfl
  cases named : session.registry.submission (.ofWord word) with
  | error e => simp [transactionReceipt, named] at given
  | ok number =>
      let turn : Turn σ := ⟨session, .transactionReceipt word cancelAt, .ok handle,
        (session.transactionReceipt ledger (.ofWord word) cancelAt).2⟩
      have called : turn.receiptOf? number = some (.ok handle) := by
        simp [turn, Turn.receiptOf?, named]
      have finalized : ∃ submission record, turn.after.Stands number submission (.finalized handle) ∧
          handle.IsWord ∧ turn.after.registry.arena.Spent handle ∧
          turn.after.registry.arena.get? handle = some (.receipt record) :=
        finalized_of_call sound answered called
      obtain ⟨_, record, _, isWord, _, held⟩ := finalized
      exact ⟨(Arena.get?_eq_some.mp held).1, isWord.2⟩

theorem receiptNew_address {receipt : Handle} {address : Nat}
    (made : (session.receiptNew receipt).1 = .ok address) : address ≠ 0 := by
  unfold receiptNew at made
  cases held : session.registry.receipt receipt with
  | error e => simp [held] at made
  | ok record =>
      simp only [held] at made
      cases written : (session.records.materialize receipt record).1 with
      | error e => simp [written, ofError] at made
      | ok other =>
          simp only [written, ofError, Except.ok.injEq] at made
          exact made ▸ RecordLedger.materialize_address written

theorem record_fits (fits : session.records.Fits) {address : Nat} {record : BoundaryRecord}
    (read : session.record address = .ok record) : record.Fits := by
  unfold Session.record at read
  cases found : session.records.read address with
  | error e => simp [found, ofError] at read
  | ok other =>
      simp only [found, ofError, Except.ok.injEq] at read
      exact read ▸ RecordLedger.read_fits fits found

theorem submitWithOptions_records (ledger : Ledger σ) (session : Session σ) (signer : Handle)
    (payload : Bytes) (options : SubmitOptions) :
    (session.submitWithOptions ledger signer payload options).2.records = session.records := by
  unfold submitWithOptions
  cases session.registry.signer signer with
  | error e => rfl
  | ok found =>
      simp only
      split <;> rfl

theorem answer_fits (fits : session.records.Fits) (request : Request σ) :
    (session.answer ledger request).2.records.Fits := by
  cases request with
  | receiptNew word =>
      simp only [answer, receiptNew]
      cases session.registry.receipt (.ofWord word) with
      | error e => exact fits
      | ok record => exact RecordLedger.materialize_fits fits _ record
  | receiptFree address => exact RecordLedger.release_fits fits address
  | initializeSigner seed =>
      simp only [answer, initializeSigner]
      cases Seed.derive seed <;> exact fits
  | submitData word payload appId =>
      simp only [answer, submitData]
      split
      · exact fits
      · rw [submitWithOptions_records]
        exact fits
  | submitWithOptions word payload options =>
      simp only [answer]
      rw [submitWithOptions_records]
      exact fits
  | transactionReceipt word cancelAt =>
      simp only [answer, transactionReceipt]
      cases session.registry.submission (.ofWord word) <;> exact fits
  | cancelSubmission word =>
      simp only [answer, cancelSubmission]
      cases session.registry.submission (.ofWord word) <;> exact fits
  | releaseSubmission word =>
      simp only [answer, releaseSubmission]
      split
      · next number left released =>
          obtain ⟨-, rfl⟩ := Prod.mk.inj released
          exact fits
      · next result left _ released =>
          obtain ⟨-, rfl⟩ := Prod.mk.inj released
          exact fits
  | signMessage | submission | receipt | record | releaseSigner | releaseReceipt | registry | ledger =>
      exact fits

/-- A session that was connected begins with nothing registered. -/
theorem connect_opened {gateway : Gateway σ} {endpoint : String} {config : Config}
    (connected : connect gateway endpoint config = .ok session) :
    ∃ tracker state, session = opened endpoint tracker Handle.slots state := by
  unfold connect at connected
  cases checked : checkConfig config with
  | error fault => simp [checked, bind, Except.bind] at connected
  | ok _ =>
      cases dialled : gateway.dial endpoint config.rpc with
      | error fault => simp [checked, dialled, bind, Except.bind] at connected
      | ok state =>
          simp only [checked, dialled, bind, Except.bind] at connected
          obtain ⟨_, tracker, -, same⟩ := assemble_ok (Prod.ext connected rfl)
          exact ⟨tracker, _, same⟩

/-- A session from its opening on: what it was opened with, and what it was asked since. -/
structure Life (σ : Type) where
  endpoint : String
  tracker : Tracker
  capacity : Nat
  state : σ
  requests : List (Request σ)

def Life.present (ledger : Ledger σ) (life : Life σ) : Session σ :=
  ((opened life.endpoint life.tracker life.capacity life.state).run ledger life.requests).2

theorem Turns.fits {turns : List (Turn σ)} {last : Session σ}
    (happened : Turns ledger session turns last) (fits : session.records.Fits) :
    last.records.Fits := by
  induction happened with
  | nil => exact fits
  | cons turn answered goesOn ih =>
      have after : (turn.before.answer ledger turn.request).2.records.Fits :=
        answer_fits fits turn.request
      rw [answered] at after
      exact ih after

theorem Life.present_sound (ledger : Ledger σ) (life : Life σ) :
    (life.present ledger).Sound ∧ (life.present ledger).records.Fits := by
  have happened := run_turns ledger
    (opened life.endpoint life.tracker life.capacity life.state) life.requests
  exact ⟨happened.sound (opened_sound _ _ _ _), happened.fits nofun⟩

end Session

end Notary
