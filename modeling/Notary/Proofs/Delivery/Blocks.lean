import Mathlib.Data.List.DropRight
import Mathlib.Logic.Basic
import Notary.Proofs.Delivery.Serving

namespace Notary.Chain

/-!
What becomes of the transactions that the ledger in memory accepts. One that is kept waits for the
next block and stands in it behind those that were kept before it; one that is dropped is in no
block.
-/

variable {chain last : Chain} {hash : Hash} {report : InclusionReport} {turn : Turn}
  {turns : List Turn}

/-! The keys of the table of inclusions. -/

theorem reports_keys (number : Nat) (success : Bool) (index : Nat) (hashes : List Hash) :
    (reports number success index hashes).map (·.1) = hashes := by
  induction hashes generalizing index with
  | nil => rfl
  | cons first rest ih => rw [reports, List.map_cons, ih]

theorem position_eq_none : chain.position hash = none ↔ hash ∉ chain.included.map (·.1) := by
  simp only [position, List.lookup_eq_none_iff, List.mem_map, bne_iff_ne]
  constructor
  · intro absent present
    obtain ⟨entry, listed, same⟩ := present
    exact absent entry listed same.symm
  · intro absent entry listed same
    exact absent ⟨entry, listed, same.symm⟩

/-- The place of a transaction in its block is the number of those before it. -/
theorem lookup_reports_append {front back : List Hash} (absent : hash ∉ front) (number index : Nat)
    (success : Bool) :
    (reports number success index (front ++ hash :: back)).lookup hash =
      some ⟨number, minedHash number, index + front.length, hash, success⟩ := by
  induction front generalizing index with
  | nil => simp [reports]
  | cons first rest ih =>
      obtain ⟨differs, absentLater⟩ := not_or.mp (mt List.mem_cons.mpr absent)
      rw [List.cons_append, reports, List.lookup_cons, beq_false_of_ne differs, ih absentLater,
        List.length_cons, Nat.add_right_comm, Nat.add_assoc]

theorem getElem?_of_lookup_reports {number index : Nat} {success : Bool} {hashes : List Hash}
    (found : (reports number success index hashes).lookup hash = some report) :
    index ≤ report.transactionIndex ∧ hashes[report.transactionIndex - index]? = some hash := by
  induction hashes generalizing index with
  | nil => cases found
  | cons first rest ih =>
      rw [reports, List.lookup_cons] at found
      split at found
      · next same =>
          cases found
          simp [eq_of_beq same]
      · obtain ⟨below, here⟩ := ih found
        have later :
            report.transactionIndex - index = report.transactionIndex - (index + 1) + 1 := by omega
        exact ⟨Nat.le_of_succ_le below, by rw [later, List.getElem?_cons_succ, here]⟩

/-- No two transactions stand at one place of a block. -/
def Apart (chain : Chain) : Prop :=
  ∀ hash other report there, chain.position hash = some report →
    chain.position other = some there → report.blockNumber = there.blockNumber →
    report.transactionIndex = there.transactionIndex → hash = other

theorem Apart.mine (apart : chain.Apart) (orderly : chain.Orderly) : chain.mine.Apart := by
  intro hash other report there found foundThere sameBlock sameIndex
  -- The new block stands above every block in which something was included before.
  have old {hash : Hash} {report : InclusionReport} (found : chain.position hash = some report) :
      report.blockNumber ≤ chain.head := (orderly.reported hash report found).2.2.2
  have new {hash : Hash} {report : InclusionReport}
      (found : (reports (chain.head + 1) (!chain.reverting) 0 chain.pending).lookup hash =
        some report) : report.blockNumber = chain.head + 1 := (lookup_reports found).2.2.1
  rw [position_mine, Option.or_eq_some_iff] at found foundThere
  obtain here | ⟨-, here⟩ := found <;> obtain here' | ⟨-, here'⟩ := foundThere
  · have first := (getElem?_of_lookup_reports here).2
    have second := (getElem?_of_lookup_reports here').2
    rw [sameIndex, second] at first
    exact (Option.some.inj first).symm
  · have := new here
    have := old here'
    omega
  · have := old here
    have := new here'
    omega
  · exact apart hash other report there here here' sameBlock sameIndex

/-! What waits. -/

/-- The transactions that were kept since the latest block. -/
def waiting (turns : List Turn) : List Hash :=
  (turns.rtakeWhile fun turn => !turn.mines).filterMap Turn.kept?

theorem waiting_append (turns : List Turn) (turn : Turn) :
    waiting (turns ++ [turn]) =
      if turn.mines then [] else waiting turns ++ turn.kept?.toList := by
  rw [waiting, List.rtakeWhile_concat]
  cases turn.mines with
  | true => rfl
  | false => cases kept : turn.kept? <;> simp [waiting, kept]

variable [Surroundings]

theorem Turn.Served.apart (served : turn.Served) (orderly : turn.before.Orderly)
    (apart : turn.before.Apart) : turn.after.Apart := by
  cases served.entry with
  | idle _ _ _ _ included | accepted _ _ _ _ _ _ included =>
      simpa only [Apart, position, included] using apart
  | mined _ same => exact same ▸ apart.mine orderly

namespace Happened

theorem apart (happened : Happened chain turns last) (orderly : chain.Orderly)
    (apart : chain.Apart) : last.Apart := by
  induction happened with
  | nil => exact apart
  | cons turn served goesOn ih => exact ih (served.follows orderly).2 (served.apart orderly apart)

/-- Nothing that was kept is lost or doubled. -/
theorem kept_perm (happened : Happened chain turns last) :
    (last.pending ++ last.included.map (·.1)).Perm
      (chain.pending ++ chain.included.map (·.1) ++ turns.filterMap Turn.kept?) := by
  induction happened with
  | nil => simp
  | cons turn served goesOn ih =>
      refine ih.trans ?_
      rw [List.filterMap_cons]
      cases served.entry with
      | idle none _ _ pending included =>
          rw [Turn.kept?_of_accepted?_none none, pending, included]
      | accepted hash _ _ _ _ pending included =>
          rw [pending, included]
          cases turn.kept? with
          | none => simp
          | some hash => grind
      | mined none same =>
          rw [Turn.kept?_of_accepted?_none none, same]
          simp [mine, reports_keys]

/-- A transaction that waits is in the next block, behind those that wait before it. -/
theorem position_of_pending {front back : List Hash} (happened : Happened chain turns last)
    (orderly : chain.Orderly) (absent : hash ∉ front)
    (pending : chain.pending = front ++ hash :: back) :
    last.position hash =
      (turns.find? Turn.mines).map fun block => block.report front.length hash := by
  induction happened generalizing back with
  | nil chain => exact (orderly.waiting hash (by simp [pending])).2
  | cons turn served goesOn ih =>
      have orderlyThere := (served.follows orderly).2
      cases served.entry with
      | idle _ head _ same =>
          rw [List.find?_cons, Turn.not_mines head]
          exact ih orderlyThere (same.trans pending)
      | accepted other _ _ head _ longer =>
          rw [List.find?_cons, Turn.not_mines head]
          have pendingThere :
              turn.after.pending = front ++ hash :: (back ++ turn.kept?.toList) := by
            rw [longer, pending, List.append_assoc, List.cons_append]
          exact ih orderlyThere pendingThere
      | mined _ same =>
          rw [List.find?_cons, Turn.mines_of_mine same]
          refine ((goesOn.follows orderlyThere).1).kept hash _ ?_
          rw [same, position_mine, pending, lookup_reports_append absent, Nat.zero_add]
          rfl

theorem pending_eq (happened : Happened chain turns last) (fresh : chain.pending = []) :
    last.pending = waiting turns := by
  induction turns using List.reverseRecOn generalizing last with
  | nil =>
      cases happened
      exact fresh
  | append_singleton earlier turn ih =>
      obtain ⟨middle, before, now⟩ := happened.split
      cases now with
      | cons _ served goesOn =>
          obtain rfl := goesOn.eq_of_nil
          rw [waiting_append]
          cases served.entry with
          | idle none head _ same =>
              have unkept := Turn.kept?_of_accepted?_none none
              rw [if_neg (by simp [Turn.not_mines head]), unkept, same, ih before]
              simp
          | accepted hash _ _ head _ longer =>
              rw [if_neg (by simp [Turn.not_mines head]), longer, ih before]
          | mined _ same =>
              rw [if_pos (Turn.mines_of_mine same), same]
              rfl

end Happened

/-- How the books of a ledger agree with the turns that it has served. -/
structure Accounts (turns : List Turn) (chain : Chain) : Prop where
  accepted : chain.hashes = turns.filterMap Turn.accepted?
  distinct : chain.hashes.Nodup
  /-- What waits or is included is what was kept, each of it once. -/
  balanced : (chain.pending ++ chain.included.map (·.1)).Perm (turns.filterMap Turn.kept?)
  either : ∀ hash ∈ turns.filterMap Turn.kept?,
    Xor (hash ∈ chain.pending) (∃ report, chain.position hash = some report)
  placed : ∀ earlier turn later hash, turns = earlier ++ turn :: later →
    turn.kept? = some hash → chain.position hash =
      (later.find? Turn.mines).map fun block => block.report (waiting earlier).length hash
  lasting : ∀ requests hash report, chain.position hash = some report →
    (chain.run requests).2.position hash = some report
  apart : chain.Apart
  absent : ∀ hash, (hash ∉ turns.filterMap Turn.accepted? ∨
      ∃ turn ∈ turns, turn.accepted? = some hash ∧ turn.before.dropping = true) →
    chain.position hash = none ∧
      ∀ report, (chain.answer (.inclusion hash)).1 ≠ .ok (some report)

namespace Happened

variable {lag : Nat}

theorem balanced (happened : Happened (withLag lag) turns last) :
    (last.pending ++ last.included.map (·.1)).Perm (turns.filterMap Turn.kept?) := by
  simpa [withLag] using happened.kept_perm

theorem accepted (happened : Happened (withLag lag) turns last) :
    last.hashes = turns.filterMap Turn.accepted? := by
  simpa [withLag, hashes] using happened.hashes_eq

theorem kept_nodup (happened : Happened (withLag lag) turns last) :
    (turns.filterMap Turn.kept?).Nodup := by
  have distinct := happened.distinct (withLag_distinct lag)
  rw [Distinct, happened.accepted] at distinct
  exact distinct.sublist (Turn.kept_sublist turns)

theorem either (happened : Happened (withLag lag) turns last)
    (kept : hash ∈ turns.filterMap Turn.kept?) :
    Xor (hash ∈ last.pending) (∃ report, last.position hash = some report) := by
  have nodup := happened.balanced.nodup_iff.mpr happened.kept_nodup
  have listed := happened.balanced.mem_iff.mpr kept
  have separate := (List.nodup_append.mp nodup).2.2
  have included :
      (∃ report, last.position hash = some report) ↔ hash ∈ last.included.map (·.1) := by
    rw [← Option.isSome_iff_exists, Option.isSome_iff_ne_none, Ne, position_eq_none, not_not]
  rw [included]
  obtain waits | stands := List.mem_append.mp listed
  · exact .inl ⟨waits, fun stands => separate hash waits hash stands rfl⟩
  · exact .inr ⟨stands, fun waits => separate hash waits hash stands rfl⟩

theorem placed {earlier later : List Turn}
    (happened : Happened (withLag lag) (earlier ++ turn :: later) last)
    (kept : turn.kept? = some hash) :
    last.position hash =
      (later.find? Turn.mines).map fun block => block.report (waiting earlier).length hash := by
  obtain ⟨middle, before, now⟩ := happened.split
  cases now with
  | cons _ served goesOn =>
      have orderly := (before.follows (withLag_orderly lag)).2
      have told := Turn.accepted?_of_kept? kept
      cases served.entry with
      | idle none | mined none =>
          rw [told] at none
          cases none
      | accepted other tells fresh _ _ pending =>
          rw [told] at tells
          cases tells
          have waits := before.pending_eq rfl
          rw [kept, waits] at pending
          refine goesOn.position_of_pending (served.follows orderly).2 (fun listed => ?_) pending
          rw [← waits] at listed
          exact fresh (orderly.waiting _ listed).1

theorem unkept (happened : Happened (withLag lag) turns last)
    (unkept : hash ∉ turns.filterMap Turn.kept?) : last.position hash = none := by
  rw [position_eq_none]
  intro listed
  exact unkept (happened.balanced.mem_iff.mp (List.mem_append_right _ listed))

/-- A transaction that was dropped was kept at no other turn. -/
theorem dropped (happened : Happened (withLag lag) turns last) (member : turn ∈ turns)
    (told : turn.accepted? = some hash) (dropping : turn.before.dropping = true) :
    hash ∉ turns.filterMap Turn.kept? := by
  intro kept
  obtain ⟨other, listed, same⟩ := List.mem_filterMap.mp kept
  have distinct := happened.distinct (withLag_distinct lag)
  rw [Distinct, happened.accepted] at distinct
  obtain ⟨earlier, later, rfl⟩ := List.append_of_mem member
  rw [List.filterMap_append, List.filterMap_cons, told] at distinct
  have elsewhere := List.nodup_middle.mp distinct
  have toldThere := Turn.accepted?_of_kept? same
  obtain before | rfl | after := by simpa using listed
  · exact (List.nodup_cons.mp elsewhere).1
      (List.mem_append_left _ (List.mem_filterMap.mpr ⟨other, before, toldThere⟩))
  · simp [Turn.kept?, dropping] at same
  · exact (List.nodup_cons.mp elsewhere).1
      (List.mem_append_right _ (List.mem_filterMap.mpr ⟨other, after, toldThere⟩))

theorem absent (happened : Happened (withLag lag) turns last)
    (unkept : hash ∉ turns.filterMap Turn.kept?) :
    last.position hash = none ∧
      ∀ report, (last.answer (.inclusion hash)).1 ≠ .ok (some report) := by
  refine ⟨happened.unkept unkept, fun report told => ?_⟩
  cases answered : last.answer (.inclusion hash) with
  | mk reply after =>
      rw [answered] at told
      cases told
      -- The lookup is one more turn, at which nothing is kept.
      have longer := happened.append
        (.cons ⟨last, .call (.inclusion hash), .ok (some report), after⟩ answered (.nil after))
      have absent := longer.unkept (by simpa [Turn.kept?, Turn.accepted?] using unkept)
      rw [answer_inclusion answered] at absent
      cases absent

end Happened

/-- Over any calls and controls, the ledger accepts no transaction twice, and each that it keeps is
either waiting or included: in the first block that is mined afterwards, at its turn, for good. -/
theorem kept_transactions_are_included_once (lag : Nat) (requests : List Request) :
    Accounts ((withLag lag).run requests).1 ((withLag lag).run requests).2 := by
  have happened := run_happened (withLag lag) requests
  have orderly := (happened.follows (withLag_orderly lag)).2
  refine {
    accepted := happened.accepted
    distinct := happened.distinct (withLag_distinct lag)
    balanced := happened.balanced
    either := fun hash => happened.either
    placed := ?_
    lasting := ?_
    apart := happened.apart (withLag_orderly lag) nofun
    absent := ?_ }
  · intro earlier turn later hash shape kept
    rw [shape] at happened
    exact happened.placed kept
  · intro more hash report found
    exact ((run_happened _ more).follows orderly).1.kept hash report found
  · intro hash reason
    obtain unseen | ⟨turn, member, told, dropping⟩ := reason
    · exact happened.absent fun kept => unseen ((Turn.kept_sublist _).mem kept)
    · exact happened.absent (happened.dropped member told dropping)

end Notary.Chain
