import Notary.Proofs.Delivery.Broadcasts

namespace Notary.Chain

/-!
Where the ledger in memory includes transactions. What waits is included in the next block, above
every block that stood before, and what is included stays where it is.
-/

variable {chain middle after : Chain} {hash : Hash} {report : InclusionReport} {call : Call}

/-- Where the ledger has included a transaction, if it has. -/
def position (chain : Chain) (hash : Hash) : Option InclusionReport :=
  chain.included.lookup hash

theorem lookup_reports {number index : Nat} {success : Bool} {hashes : List Hash}
    (found : (reports number success index hashes).lookup hash = some report) :
    hash ∈ hashes ∧ report.transactionHash = hash ∧ report.blockNumber = number ∧
      report.blockHash = minedHash number := by
  induction hashes generalizing index with
  | nil => cases found
  | cons first rest ih =>
      rw [reports, List.lookup_cons] at found
      by_cases same : hash = first
      · simp only [same, beq_self_eq_true, Option.some.injEq] at found
        subst same
        simp [← found]
      · have differs : (hash == first) = false := by simpa using same
        rw [differs] at found
        obtain ⟨listed, facts⟩ := ih found
        exact ⟨List.mem_cons_of_mem _ listed, facts⟩

/-- The books of the ledger agree: what waits was taken and is not included yet, and what is included
was taken and is reported under its own hash, in a block as it was mined. -/
structure Orderly (chain : Chain) : Prop where
  waiting : ∀ hash ∈ chain.pending, hash ∈ chain.hashes ∧ chain.position hash = none
  reported : ∀ hash report, chain.position hash = some report →
    hash ∈ chain.hashes ∧ report.transactionHash = hash ∧
      report.blockHash = minedHash report.blockNumber ∧ report.blockNumber ≤ chain.head

/-- Blocks were added at most, and what was included stayed where it was. -/
structure Grows (chain after : Chain) : Prop where
  head : chain.head ≤ after.head
  lag : after.lag = chain.lag
  kept : ∀ hash report, chain.position hash = some report → after.position hash = some report
  above : ∀ hash report, chain.position hash = none → after.position hash = some report →
    chain.head < report.blockNumber

theorem Grows.ofSame (head : after.head = chain.head) (lag : after.lag = chain.lag)
    (included : after.included = chain.included) : chain.Grows after where
  head := Nat.le_of_eq head.symm
  lag := lag
  kept := by
    intro hash report found
    rw [position, included]
    exact found
  above := by
    intro hash report absent found
    rw [position, included] at found
    rw [position, found] at absent
    cases absent

theorem Grows.refl : chain.Grows chain := .ofSame rfl rfl rfl

theorem Grows.trans (first : chain.Grows middle) (second : middle.Grows after) : chain.Grows after where
  head := Nat.le_trans first.head second.head
  lag := second.lag.trans first.lag
  kept := fun hash report found => second.kept hash report (first.kept hash report found)
  above := by
    intro hash report absent found
    cases between : middle.position hash with
    | none => exact Nat.lt_of_le_of_lt first.head (second.above hash report between found)
    | some earlier =>
        have later := second.kept hash earlier between
        rw [found] at later
        cases later
        exact first.above hash report absent between

theorem position_mine (chain : Chain) (hash : Hash) :
    chain.mine.position hash =
      ((reports (chain.head + 1) (!chain.reverting) 0 chain.pending).lookup hash).or
        (chain.position hash) := by
  simp [position, mine, List.lookup_append]

theorem Orderly.mine_grows (orderly : chain.Orderly) : chain.Grows chain.mine where
  head := Nat.le_succ chain.head
  lag := rfl
  kept := by
    intro hash report found
    rw [position_mine]
    cases block : (reports (chain.head + 1) (!chain.reverting) 0 chain.pending).lookup hash with
    | none => exact found
    | some other =>
        -- What waits is not included yet, so no block reports a transaction again.
        have absent := (orderly.waiting hash (lookup_reports block).1).2
        rw [found] at absent
        cases absent
  above := by
    intro hash report absent found
    rw [position_mine, absent, Option.or_none] at found
    rw [(lookup_reports found).2.2.1]
    exact Nat.lt_succ_self chain.head

theorem Orderly.mine (orderly : chain.Orderly) : chain.mine.Orderly where
  waiting := nofun
  reported := by
    intro hash report found
    rw [position_mine] at found
    cases block : (reports (chain.head + 1) (!chain.reverting) 0 chain.pending).lookup hash with
    | some other =>
        rw [block, Option.some_or] at found
        cases found
        obtain ⟨waits, own, number, mined⟩ := lookup_reports block
        exact ⟨(orderly.waiting hash waits).1, own, number ▸ mined, Nat.le_of_eq number⟩
    | none =>
        rw [block, Option.none_or] at found
        obtain ⟨taken, own, mined, below⟩ := orderly.reported hash report found
        exact ⟨taken, own, mined, Nat.le_succ_of_le below⟩

theorem Orderly.ofSame (orderly : chain.Orderly) (head : after.head = chain.head)
    (pending : after.pending = chain.pending) (included : after.included = chain.included)
    (broadcasts : after.broadcasts = chain.broadcasts) : after.Orderly where
  waiting := by
    simp only [pending, hashes, position, included, broadcasts]
    exact orderly.waiting
  reported := by
    simp only [head, hashes, position, included, broadcasts]
    exact orderly.reported

/-- A ledger goes on in order. -/
def Follows (chain after : Chain) : Prop :=
  chain.Orderly → chain.Grows after ∧ after.Orderly

theorem follows_ofSame (head : after.head = chain.head) (lag : after.lag = chain.lag)
    (pending : after.pending = chain.pending) (included : after.included = chain.included)
    (broadcasts : after.broadcasts = chain.broadcasts) : chain.Follows after :=
  fun orderly => ⟨.ofSame head lag included, orderly.ofSame head pending included broadcasts⟩

theorem follows_refl (chain : Chain) : chain.Follows chain := follows_ofSame rfl rfl rfl rfl rfl

theorem follows_mine (chain : Chain) : chain.Follows chain.mine :=
  fun orderly => ⟨orderly.mine_grows, orderly.mine⟩

theorem follows_taken (read : BroadcastTransaction) (fresh : read.hash ∉ chain.hashes)
    (head : after.head = chain.head) (lag : after.lag = chain.lag)
    (included : after.included = chain.included)
    (broadcasts : after.broadcasts = chain.broadcasts ++ [read])
    (pending : after.pending = chain.pending ∨ after.pending = chain.pending ++ [read.hash]) :
    chain.Follows after := by
  intro orderly
  have taken (hash : Hash) : hash ∈ after.hashes ↔ hash ∈ chain.hashes ∨ hash = read.hash := by
    simp [hashes, broadcasts]
  have unmoved (hash : Hash) : after.position hash = chain.position hash := by
    simp only [position, included]
  have unincluded : chain.position read.hash = none := by
    cases found : chain.position read.hash with
    | none => rfl
    | some report => exact absurd (orderly.reported _ _ found).1 fresh
  refine ⟨.ofSame head lag included, ?_, ?_⟩
  · intro hash waits
    rw [taken, unmoved]
    have before : hash ∈ chain.pending ∨ hash = read.hash := by
      obtain same | longer := pending
      · exact .inl (same ▸ waits)
      · simpa [longer] using waits
    obtain waited | rfl := before
    · exact ⟨.inl (orderly.waiting hash waited).1, (orderly.waiting hash waited).2⟩
    · exact ⟨.inr rfl, unincluded⟩
  · intro hash report found
    rw [unmoved] at found
    obtain ⟨listed, facts⟩ := orderly.reported hash report found
    rw [taken, head]
    exact ⟨.inl listed, facts⟩

theorem control_follows (control : Control) (chain : Chain) :
    chain.Follows (chain.control control) := by
  cases control <;> exact follows_ofSame rfl rfl rfl rfl rfl

theorem withLag_orderly (lag : Nat) : (withLag lag).Orderly where
  waiting := nofun
  reported := nofun

/-- The canonical hash of a height that was replaced is not that of the block which was mined. -/
theorem canonicalHash_eq_minedHash {number : Nat}
    (canonical : chain.canonicalHash number = some (minedHash number)) :
    number ∉ chain.orphaned ∨ replacedHash number = minedHash number := by
  unfold canonicalHash at canonical
  split at canonical
  · cases canonical
  · split at canonical
    · exact .inr (Option.some.inj canonical)
    · next standing => exact .inl (by simpa using standing)

variable [Surroundings]

theorem accept_follows (chain : Chain) (raw : Bytes) : chain.Follows (chain.accept raw).2 := by
  unfold accept
  cases chain.rejection with
  | some reason => exact follows_refl chain
  | none =>
      cases Envelope.decode? Surroundings.typed? raw with
      | none => exact follows_refl chain
      | some tx =>
          simp only
          split
          · exact follows_refl chain
          · next new =>
              cases AppData.decode? tx.data with
              | none => exact follows_refl chain
              | some parts =>
                  have fresh : Keccak.hash raw ∉ chain.hashes := by
                    intro known
                    obtain ⟨read, listed, same⟩ := List.mem_map.mp known
                    exact new (List.any_eq_true.mpr ⟨read, listed, decide_eq_true same⟩)
                  refine follows_taken ⟨_, tx.nonce, parts.1, parts.2, tx.recipient⟩ fresh rfl rfl
                    rfl rfl ?_
                  cases chain.dropping
                  · exact .inr rfl
                  · exact .inl rfl

theorem answer_follows (call : Call) (chain : Chain) : chain.Follows (chain.answer call).2 := by
  have reached : chain.Follows (chain.answerReached call).2 := by
    cases call with
    | sendRaw raw => exact accept_follows chain raw
    | blockNumber | finalizedBlockNumber => exact follows_mine chain
    | chainId | blockHash | pendingNonce | gasPrice => exact follows_refl chain
    | inclusion hash =>
        simp only [answerReached, lookUp]
        split
        · exact follows_ofSame rfl rfl rfl rfl rfl
        · exact follows_mine chain
  unfold answer
  split
  · exact follows_refl chain
  · cases answered : chain.answerReached call with
    | mk reply next =>
        rw [answered] at reached
        cases reply <;> exact reached

/-! What an answer tells of the ledger at the moment at which it is given. -/

theorem answer_inclusion (answered : chain.answer (.inclusion hash) = (.ok (some report), after)) :
    after.position hash = some report := by
  have reached := answer_ok answered
  simp only [answerReached, lookUp] at reached
  split at reached
  · cases reached
  · obtain ⟨found, rfl⟩ := Prod.mk.inj reached
    exact Except.ok.inj found

theorem answer_blockNumber {head : Nat} (answered : chain.answer .blockNumber = (.ok head, after)) :
    head = after.head := by
  obtain ⟨found, rfl⟩ := Prod.mk.inj (answer_ok answered)
  exact (Except.ok.inj found).symm

theorem answer_finalizedBlockNumber {height : Nat}
    (answered : chain.answer .finalizedBlockNumber = (.ok (some height), after)) :
    height + after.lag = after.head := by
  obtain ⟨found, rfl⟩ := Prod.mk.inj (answer_ok answered)
  have told : chain.mine.finalizedHead = some height := Except.ok.inj found
  unfold finalizedHead at told
  split at told
  · next long =>
      cases told
      exact Nat.sub_add_cancel long
  · cases told

theorem answer_blockHash {number : Nat}
    (answered : chain.answer (.blockHash number) = (.ok (some hash), after)) :
    after.canonicalHash number = some hash := by
  obtain ⟨found, rfl⟩ := Prod.mk.inj (answer_ok answered)
  exact Except.ok.inj found

theorem answer_sendRaw {raw : Bytes} (answered : chain.answer (.sendRaw raw) = (.ok hash, after)) :
    Keccak.hash raw ∉ chain.hashes := by
  have offered := chain.answer_offered raw
  rw [answered] at offered
  cases offered with
  | taken read same fresh after added => exact fresh

end Notary.Chain
