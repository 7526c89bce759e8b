import Mathlib.Data.Finset.Card
import Mathlib.Data.List.Count
import Mathlib.Data.List.Nodup
import Notary.Boundary.Record
import Notary.Proofs.Registry.History

namespace Notary

/-!
Who owns the records. A record belongs to its caller from the allocation that made it to the release
of its address, whatever becomes of the handle that it was made from; an address may be used again
once its record is gone.
-/

/-- An address that an allocator gives out. -/
structure Place where
  address : Nat
  nonnull : address ≠ 0

/-- The ledger of records beside a registry. -/
structure Custody where
  records : RecordLedger
  registry : Registry

namespace Custody

inductive Request where
  | materialize (place : Place) (handle : Handle) (record : FinalityRecord)
  | read (address : Nat)
  | isOutstanding (address : Nat)
  | release (address : Nat)
  | registry (request : Registry.Request)

@[reducible] def Request.Reply : Request → Type
  | materialize _ _ _ => Except Error Nat
  | read _ => Except Error BoundaryRecord
  | isOutstanding _ => Bool
  | release _ => Except Error Unit
  | registry request => request.Reply

def answer (custody : Custody) : (request : Request) → request.Reply × Custody
  | .materialize place handle record =>
      let (reply, records) := custody.records.materializeAt place.address handle record
      (reply, { custody with records })
  | .read address => (custody.records.read address, custody)
  | .isOutstanding address => (custody.records.isOutstanding address, custody)
  | .release address =>
      let (reply, records) := custody.records.release address
      (reply, { custody with records })
  | .registry request =>
      let (reply, registry) := custody.registry.answer request
      (reply, { custody with registry })

structure Event where
  request : Request
  reply : request.Reply

namespace Event

/-- The address at which a record was made. -/
def made? : Event → Option Nat
  | ⟨.materialize _ _ _, .ok address⟩ => some address
  | _ => none

/-- The address whose record was freed. -/
def freed? : Event → Option Nat
  | ⟨.release address, .ok _⟩ => some address
  | _ => none

end Event

/-- Answers requests one after the other: the history of them, and what they leave. -/
def run (custody : Custody) : List Request → List Event × Custody
  | [] => ([], custody)
  | request :: rest =>
      let (reply, after) := custody.answer request
      let (history, last) := run after rest
      (⟨request, reply⟩ :: history, last)

def opened (capacity : Nat) : Custody :=
  ⟨.empty, .withCapacity capacity⟩

/-- How often records were made at an address, and freed there. -/
def made (history : List Event) (address : Nat) : Nat :=
  (history.filterMap Event.made?).count address

def freed (history : List Event) (address : Nat) : Nat :=
  (history.filterMap Event.freed?).count address

/-- The allocator gave out no address that was still allocated. -/
def Separate (history : List Event) : Prop :=
  ∀ earlier event later address, history = earlier ++ event :: later →
    event.made? = some address → made earlier address ≤ freed earlier address

theorem separate_iff {history : List Event} : Separate history ↔
    ∀ index (inside : index < history.length), ∀ address ∈ history[index].made?,
      made (history.take index) address ≤ freed (history.take index) address := by
  constructor
  · intro separate index inside address told
    refine separate _ history[index] (history.drop (index + 1)) address ?_ told
    rw [List.getElem_cons_drop, List.take_append_drop]
  · rintro separate earlier event later address rfl told
    have next := separate earlier.length (by simp) address (by simpa using told)
    rwa [List.take_left] at next

instance : DecidablePred Separate :=
  fun _ => decidable_of_iff _ separate_iff.symm

/-- A record was made at the address and has not been freed since. -/
def Owned (history : List Event) (address : Nat) (handle : Handle) (record : FinalityRecord) : Prop :=
  ∃ earlier place later,
    history = earlier ++ ⟨.materialize place handle record, .ok address⟩ :: later ∧
    ∀ event ∈ later, event.freed? ≠ some address

end Custody

namespace RecordLedger

variable {records after : RecordLedger} {address : Nat} {handle : Handle} {record : FinalityRecord}
  {snapshot : BoundaryRecord} {place : Place}

def addresses (records : RecordLedger) : List Nat :=
  records.entries.map (·.1)

/-- The error for an address that no record stands at. -/
def strange (address : Nat) : Error :=
  if address = 0 then .invalidArgument "receipt pointer is null" else .unknownRecord address

theorem isOutstanding_iff : records.isOutstanding address = true ↔ address ∈ records.addresses := by
  rw [isOutstanding, Option.isSome_iff_ne_none, Ne, List.lookup_eq_none_iff, addresses,
    List.mem_map]
  grind

theorem entry_listed {entry : Nat × BoundaryRecord} (listed : entry ∈ records.entries) :
    entry.1 ∈ records.addresses :=
  List.mem_map_of_mem listed

/-- Where every address stands once, reading an address finds its entry. -/
theorem read_eq_ok (distinct : records.addresses.Nodup) (nonnull : 0 ∉ records.addresses) :
    records.read address = .ok snapshot ↔ (address, snapshot) ∈ records.entries := by
  unfold read
  constructor
  · intro found
    split at found
    · cases found
    · split at found
      · cases found
      · next other stored =>
          cases found
          obtain ⟨before, later, entries, _⟩ := List.lookup_eq_some_iff.mp stored
          simp [entries]
  · intro listed
    have placed : address ≠ 0 := fun null => nonnull (null ▸ entry_listed listed)
    obtain ⟨before, later, entries⟩ := List.append_of_mem listed
    have first : records.entries.lookup address = some snapshot := by
      rw [List.lookup_eq_some_iff]
      refine ⟨before, later, entries, fun entry earlier => ?_⟩
      rw [addresses, entries, List.map_append, List.map_cons] at distinct
      have differs := (List.nodup_append.mp distinct).2.2 entry.1 (List.mem_map_of_mem earlier)
        address List.mem_cons_self
      exact bne_iff_ne.mpr (Ne.symm differs)
    rw [if_neg placed, first]

theorem read_strange (absent : address ∉ records.addresses) :
    records.read address = .error (strange address) := by
  have missing : records.entries.lookup address = none := by
    rw [← Option.not_isSome_iff_eq_none]
    exact fun present => absent (isOutstanding_iff.mp present)
  unfold read strange
  rw [missing]
  split <;> rfl

/-- The record of an object of the registry as callers see it. -/
def faithful (handle : Handle) (record : FinalityRecord) : BoundaryRecord :=
  ⟨record.blockHeight, record.blockHash, record.transactionIndex, record.transactionHash, handle⟩

/-- Both positions of a record fit signed words. -/
def Narrow (record : FinalityRecord) : Prop :=
  record.blockHeight ≤ 0x7fff_ffff ∧ record.transactionIndex ≤ 0x7fff_ffff

theorem ofRecord_narrow (narrow : Narrow record) :
    BoundaryRecord.ofRecord handle record = .ok (faithful handle record) := by
  obtain ⟨height, index⟩ := narrow
  unfold BoundaryRecord.ofRecord BoundaryRecord.limit
  rw [if_neg (by omega), if_neg (by omega)]
  rfl

theorem ofRecord_wide (wide : ¬ Narrow record) :
    ∃ text, BoundaryRecord.ofRecord handle record = .error (.allocation text) := by
  unfold BoundaryRecord.ofRecord BoundaryRecord.limit
  split
  · exact ⟨_, rfl⟩
  · split
    · exact ⟨_, rfl⟩
    · exact absurd (by constructor <;> omega) wide

theorem recount_gauge (records : RecordLedger) :
    records.recount.gauges.get? .outstandingRecords = some records.recount.outstanding :=
  Metrics.get?_set_self _ _ _

theorem materializeAt_narrow (records : RecordLedger) (address : Nat) (handle : Handle)
    (narrow : Narrow record) :
    records.materializeAt address handle record =
      (.ok address,
        { records with
          entries := (address, faithful handle record) :: records.entries }.recount) := by
  rw [materializeAt, ofRecord_narrow narrow]

theorem materializeAt_wide (records : RecordLedger) (address : Nat) (handle : Handle)
    (wide : ¬ Narrow record) :
    ∃ text, records.materializeAt address handle record = (.error (.allocation text), records) := by
  obtain ⟨text, refused⟩ := ofRecord_wide wide
  exact ⟨text, by rw [materializeAt, refused]⟩

theorem release_strange (absent : address ∉ records.addresses) :
    records.release address = (.error (strange address), records) := by
  rw [release, read_strange absent]

theorem release_listed (nonnull : 0 ∉ records.addresses) (listed : address ∈ records.addresses) :
    records.release address =
      (.ok (), { records with
        entries := records.entries.filter (·.1 != address) }.recount) := by
  have placed : address ≠ 0 := fun null => nonnull (null ▸ listed)
  obtain ⟨record, found⟩ := Option.isSome_iff_exists.mp (isOutstanding_iff.mpr listed)
  rw [release, read, if_neg placed, found]

theorem addresses_filter (records : RecordLedger) (address : Nat) :
    (records.entries.filter (·.1 != address)).map (·.1) =
      records.addresses.filter (· != address) := by
  rw [addresses, List.filter_map]
  rfl

end RecordLedger

namespace Custody

open RecordLedger

variable {records after : RecordLedger} {history : List Event} {event : Event} {address : Nat}
  {handle : Handle} {record : FinalityRecord} {snapshot : BoundaryRecord} {place : Place}

/-- What an event does to the ledger of records. -/
inductive Step (records : RecordLedger) : Event → RecordLedger → Prop where
  | made (place : Place) (handle : Handle) (record : FinalityRecord) :
      Step records ⟨.materialize place handle record, .ok place.address⟩
        { records with
          entries := (place.address, faithful handle record) :: records.entries }.recount
  | freed (address : Nat) (listed : address ∈ records.addresses) :
      Step records ⟨.release address, .ok ()⟩
        { records with entries := records.entries.filter (·.1 != address) }.recount
  | still {event : Event} (unmade : event.made? = none) (unfreed : event.freed? = none) :
      Step records event records

theorem answer_step (custody : Custody) (nonnull : 0 ∉ custody.records.addresses)
    (request : Request) :
    Step custody.records ⟨request, (custody.answer request).1⟩ (custody.answer request).2.records := by
  cases request with
  | materialize place handle record =>
      by_cases narrow : Narrow record
      · simp only [answer, materializeAt_narrow _ _ _ narrow]
        exact .made place handle record
      · obtain ⟨text, refused⟩ := materializeAt_wide custody.records place.address handle narrow
        simp only [answer, refused]
        exact .still rfl rfl
  | release address =>
      by_cases listed : address ∈ custody.records.addresses
      · simp only [answer, release_listed nonnull listed]
        exact .freed address listed
      · simp only [answer, release_strange listed]
        exact .still rfl rfl
  | read | isOutstanding | registry => exact .still rfl rfl

theorem owned_append : Owned (history ++ [event]) address handle record ↔
    (∃ place, event = ⟨.materialize place handle record, .ok address⟩) ∨
      Owned history address handle record ∧ event.freed? ≠ some address := by
  constructor
  · rintro ⟨earlier, place, later, split, unfreed⟩
    obtain ⟨-, -, same⟩ | ⟨middle, rfl, same⟩ := concat_eq_split.mp split
    · exact .inl ⟨place, same.symm⟩
    · refine .inr ⟨⟨earlier, place, middle, same, ?_⟩, unfreed event (by simp)⟩
      exact fun between member => unfreed between (by simp [member])
  · rintro (⟨place, rfl⟩ | ⟨⟨earlier, place, later, rfl, unfreed⟩, kept⟩)
    · exact ⟨history, place, [], rfl, by simp⟩
    · refine ⟨earlier, place, later ++ [event], by simp, ?_⟩
      intro after member
      obtain before | last := List.mem_append.mp member
      · exact unfreed after before
      · exact List.mem_singleton.mp last ▸ kept

theorem made_append : made (history ++ [event]) address =
    made history address + event.made?.toList.count address := by
  cases told : event.made? <;> simp [made, told]

theorem freed_append : freed (history ++ [event]) address =
    freed history address + event.freed?.toList.count address := by
  cases told : event.freed? <;> simp [freed, told]

/-- A history that accounts for a ledger of records. -/
structure Kept (history : List Event) (records : RecordLedger) : Prop where
  distinct : records.addresses.Nodup
  nonnull : 0 ∉ records.addresses
  balance : ∀ address,
    made history address = freed history address + records.addresses.count address
  owned : ∀ address snapshot, (address, snapshot) ∈ records.entries ↔
    ∃ handle record, Owned history address handle record ∧ snapshot = faithful handle record
  gauge : (∃ event ∈ history, event.made? ≠ none ∨ event.freed? ≠ none) →
    records.gauges.get? .outstandingRecords = some records.outstanding

theorem opened_kept (capacity : Nat) : Kept [] (opened capacity).records where
  distinct := List.nodup_nil
  nonnull := List.not_mem_nil
  balance _ := rfl
  owned := by simp [opened, RecordLedger.empty, Owned]
  gauge := by simp

theorem Kept.made (kept : Kept history records) (place : Place) (handle : Handle)
    (record : FinalityRecord)
    (free : Custody.made history place.address ≤ Custody.freed history place.address) :
    Kept (history ++ [⟨.materialize place handle record, .ok place.address⟩])
      { records with
        entries := (place.address, faithful handle record) :: records.entries }.recount := by
  have absent : place.address ∉ records.addresses := by
    intro listed
    have balance := kept.balance place.address
    have held := List.count_pos_iff.mpr listed
    omega
  refine {
    distinct := List.nodup_cons.mpr ⟨absent, kept.distinct⟩
    nonnull := ?_
    balance := ?_
    owned := ?_
    gauge := fun _ => recount_gauge _ }
  · intro listed
    obtain null | listed := List.mem_cons.mp listed
    · exact place.nonnull null.symm
    · exact kept.nonnull listed
  · intro address
    have balance := kept.balance address
    rw [made_append, freed_append, balance]
    simp only [Event.made?, Event.freed?, Option.toList, addresses, recount, List.map_cons,
      List.count_cons, List.count_nil]
    omega
  · intro address snapshot
    simp only [recount, List.mem_cons, Prod.mk.injEq, owned_append, kept.owned address snapshot]
    constructor
    · rintro (⟨rfl, rfl⟩ | ⟨handle, record, owned, rfl⟩)
      · exact ⟨handle, record, .inl ⟨place, rfl⟩, rfl⟩
      · exact ⟨handle, record, .inr ⟨owned, nofun⟩, rfl⟩
    · rintro ⟨otherHandle, other, ⟨otherPlace, same⟩ | ⟨owned, _⟩, rfl⟩
      · cases same
        exact .inl ⟨rfl, rfl⟩
      · exact .inr ⟨otherHandle, other, owned, rfl⟩

theorem Kept.freed (kept : Kept history records) (listed : address ∈ records.addresses) :
    Kept (history ++ [⟨.release address, .ok ()⟩])
      { records with entries := records.entries.filter (·.1 != address) }.recount := by
  have addresses_eq : ({ records with
      entries := records.entries.filter (·.1 != address) }.recount).addresses =
        records.addresses.filter (· != address) := addresses_filter records address
  refine {
    distinct := ?_
    nonnull := ?_
    balance := ?_
    owned := ?_
    gauge := fun _ => recount_gauge _ }
  · rw [addresses_eq]
    exact kept.distinct.filter _
  · rw [addresses_eq]
    exact fun listed => kept.nonnull (List.mem_of_mem_filter listed)
  · intro other
    have balance := kept.balance other
    rw [made_append, freed_append, balance, addresses_eq]
    by_cases same : other = address
    · subst same
      have once := List.count_eq_one_of_mem kept.distinct listed
      have gone : (records.addresses.filter (· != other)).count other = 0 := by
        simp [List.count_eq_zero]
      simp [Event.made?, Event.freed?, once, gone]
    · have stays : (records.addresses.filter (· != address)).count other =
          records.addresses.count other := List.count_filter (by simpa using same)
      simp [Event.made?, Event.freed?, stays, Ne.symm same]
  · intro other snapshot
    simp only [recount, List.mem_filter, owned_append, kept.owned other snapshot]
    constructor
    · rintro ⟨⟨handle, record, owned, rfl⟩, differs⟩
      have differs : address ≠ other := Ne.symm (bne_iff_ne.mp differs)
      exact ⟨handle, record, .inr ⟨owned, by simpa [Event.freed?] using differs⟩, rfl⟩
    · rintro ⟨handle, record, ⟨place, same⟩ | ⟨owned, unfreed⟩, rfl⟩
      · cases same
      · have differs : address ≠ other := by simpa [Event.freed?] using unfreed
        exact ⟨⟨handle, record, owned, rfl⟩, bne_iff_ne.mpr (Ne.symm differs)⟩

theorem Kept.still (kept : Kept history records) (unmade : event.made? = none)
    (unfreed : event.freed? = none) : Kept (history ++ [event]) records where
  distinct := kept.distinct
  nonnull := kept.nonnull
  balance := by
    intro address
    rw [made_append, freed_append, unmade, unfreed]
    exact kept.balance address
  owned := by
    intro address snapshot
    have other (handle : Handle) (record : FinalityRecord) (place : Place) :
        event ≠ ⟨.materialize place handle record, .ok address⟩ := by
      rintro rfl
      cases unmade
    simp [owned_append, kept.owned address snapshot, unfreed, other]
  gauge := by
    rintro ⟨moving, member, moved⟩
    obtain earlier | same := List.mem_append.mp member
    · exact kept.gauge ⟨moving, earlier, moved⟩
    · rw [List.mem_singleton.mp same, unmade, unfreed] at moved
      simp at moved

theorem Kept.step (kept : Kept history records) (step : Step records event after)
    (free : ∀ address, event.made? = some address →
      Custody.made history address ≤ Custody.freed history address) :
    Kept (history ++ [event]) after := by
  cases step with
  | made place handle record => exact kept.made place handle record (free place.address rfl)
  | freed address listed => exact kept.freed listed
  | still unmade unfreed => exact kept.still unmade unfreed

theorem Kept.run {custody : Custody} (kept : Kept history custody.records)
    (requests : List Request) (separate : Separate (history ++ (custody.run requests).1)) :
    Kept (history ++ (custody.run requests).1) (custody.run requests).2.records := by
  induction requests generalizing history custody with
  | nil => simpa [Custody.run] using kept
  | cons request rest ih =>
      have step := answer_step custody kept.nonnull request
      have next := kept.step step fun address made => separate history _ _ address rfl made
      have shape : history ++ (custody.run (request :: rest)).1 =
          history ++ [⟨request, (custody.answer request).1⟩] ++
            ((custody.answer request).2.run rest).1 := by
        rw [List.append_assoc, List.singleton_append]
        rfl
      rw [shape] at separate ⊢
      exact ih next separate

/-- What a history tells about the ledger of records that it leaves, and about what comes next. -/
structure Accounts (history : List Event) (records : RecordLedger) : Prop where
  balance : ∀ address, records.isOutstanding address = true ↔
    made history address = freed history address + 1
  once : ∀ address, freed history address ≤ made history address ∧
    made history address ≤ freed history address + 1
  counted : ∃ addresses : Finset Nat,
    (∀ address, address ∈ addresses ↔ records.isOutstanding address = true) ∧
      addresses.card = records.outstanding
  /-- The gauge shows the count from the first record that is made or freed. -/
  gauge : (∃ event ∈ history, event.made? ≠ none ∨ event.freed? ≠ none) →
    records.gauges.get? .outstandingRecords = some records.outstanding
  released : ∀ address, records.isOutstanding address = true →
    ∃ after, records.release address = (.ok (), after) ∧
      after.gauges.get? .outstandingRecords = some after.outstanding ∧
      after.outstanding + 1 = records.outstanding
  refused : ∀ address, records.isOutstanding address = false →
    records.release address = (.error (strange address), records) ∧
      records.read address = .error (strange address)
  materialized : ∀ (place : Place) handle record, Narrow record →
    ∃ after, records.materializeAt place.address handle record = (.ok place.address, after) ∧
      after.gauges.get? .outstandingRecords = some after.outstanding ∧
      after.outstanding = records.outstanding + 1
  unmaterialized : ∀ (place : Place) handle record, ¬ Narrow record →
    ∃ text, records.materializeAt place.address handle record =
      (.error (.allocation text), records)
  faithful : ∀ address snapshot, records.read address = .ok snapshot ↔
    ∃ handle record, Owned history address handle record ∧ snapshot =
      ⟨record.blockHeight, record.blockHash, record.transactionIndex, record.transactionHash, handle⟩

theorem Kept.accounts (kept : Kept history records) : Accounts history records where
  balance := by
    intro address
    have balance := kept.balance address
    have atMost := List.nodup_iff_count_le_one.mp kept.distinct address
    rw [isOutstanding_iff, ← List.count_pos_iff]
    omega
  once := by
    intro address
    have balance := kept.balance address
    have atMost := List.nodup_iff_count_le_one.mp kept.distinct address
    omega
  counted := by
    refine ⟨records.addresses.toFinset, fun address => ?_, ?_⟩
    · rw [List.mem_toFinset, isOutstanding_iff]
    · rw [List.toFinset_card_of_nodup kept.distinct]
      exact List.length_map _
  gauge := kept.gauge
  released := by
    intro address owned
    have listed := isOutstanding_iff.mp owned
    refine ⟨_, release_listed kept.nonnull listed, recount_gauge _, ?_⟩
    have shorter : (records.entries.filter (·.1 != address)).length =
        (records.addresses.erase address).length := by
      rw [kept.distinct.erase_eq_filter, ← addresses_filter, List.length_map]
    have one : 0 < records.addresses.length := List.length_pos_of_mem listed
    rw [List.length_erase_of_mem listed, addresses, List.length_map] at shorter
    rw [addresses, List.length_map] at one
    simp only [outstanding, recount, shorter]
    omega
  refused := by
    intro address unowned
    have absent : address ∉ records.addresses := by
      rw [← isOutstanding_iff, unowned]
      exact Bool.false_ne_true
    exact ⟨release_strange absent, read_strange absent⟩
  materialized := fun place handle record narrow =>
    ⟨_, materializeAt_narrow records place.address handle narrow, recount_gauge _, rfl⟩
  unmaterialized := fun place handle record wide =>
    materializeAt_wide records place.address handle wide
  faithful := by
    intro address snapshot
    rw [read_eq_ok kept.distinct kept.nonnull, kept.owned]
    rfl

/-- Over any run over an allocator that gives out no address that is still allocated, a record can be
read and freed from its allocation to its release and at no other time, and is read as it was made. -/
theorem records_are_freed_exactly_once (capacity : Nat) (requests : List Request)
    (separate : Separate ((opened capacity).run requests).1) :
    Accounts ((opened capacity).run requests).1 ((opened capacity).run requests).2.records := by
  have kept := (opened_kept capacity).run requests
  rw [List.nil_append] at kept
  exact (kept separate).accounts

/-- A receipt whose handle is released while its record is out, a record that is freed twice, and
another one at the same address. -/
def reusing : List Request :=
  [.registry (.register (.receipt ⟨7, default, 0, default⟩)),
    .materialize ⟨76, by decide⟩ ⟨0⟩ ⟨7, default, 0, default⟩,
    .registry (.release 0),
    .read 76,
    .release 76,
    .release 76,
    .materialize ⟨76, by decide⟩ ⟨1⟩ ⟨9, default, 3, default⟩]

theorem address_used_again :
    let (history, custody) := (opened 1).run reusing
    Separate history ∧ Accounts history custody.records ∧ made history 76 = 2 ∧
      freed history 76 = 1 ∧ custody.records.read 76 = .ok ⟨9, default, 3, default, ⟨1⟩⟩ :=
  have separate : Separate ((opened 1).run reusing).1 := by decide
  ⟨separate, records_are_freed_exactly_once 1 reusing separate, by decide, by decide, by decide⟩

end Custody

end Notary
