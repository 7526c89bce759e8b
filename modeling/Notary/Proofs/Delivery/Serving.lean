import Notary.Proofs.Delivery.Inclusions

namespace Notary.Chain

/-!
The life of the ledger in memory: calls and controls in any order. A turn leaves the books as they
are, takes one transaction into them, or mines one block.
-/

inductive Request where
  | call (call : Call)
  | control (control : Control)

@[reducible] def Request.Reply : Request → Type
  | call asked => asked.Reply
  | control _ => Unit

structure Turn where
  before : Chain
  request : Request
  reply : request.Reply
  after : Chain

namespace Turn

/-- The transaction that a turn accepted. -/
def accepted? : Turn → Option Hash
  | ⟨_, .call (.sendRaw _), .ok hash, _⟩ => some hash
  | _ => none

/-- The transaction that a turn accepted and did not drop. -/
def kept? (turn : Turn) : Option Hash :=
  if turn.before.dropping then none else turn.accepted?

def mines (turn : Turn) : Bool :=
  decide (turn.before.head < turn.after.head)

/-- The report on a transaction in the block that a turn mined. -/
def report (turn : Turn) (index : Nat) (hash : Hash) : InclusionReport :=
  let number := turn.before.head + 1
  ⟨number, minedHash number, index, hash, !turn.before.reverting⟩

/-- What a turn does to the books of the ledger. -/
inductive Entry (turn : Turn) : Prop where
  | idle (none : turn.accepted? = none) (head : turn.after.head = turn.before.head)
      (hashes : turn.after.hashes = turn.before.hashes)
      (pending : turn.after.pending = turn.before.pending)
      (included : turn.after.included = turn.before.included)
  | accepted (hash : Hash) (told : turn.accepted? = some hash) (fresh : hash ∉ turn.before.hashes)
      (head : turn.after.head = turn.before.head)
      (hashes : turn.after.hashes = turn.before.hashes ++ [hash])
      (pending : turn.after.pending = turn.before.pending ++ turn.kept?.toList)
      (included : turn.after.included = turn.before.included)
  | mined (none : turn.accepted? = none) (same : turn.after = turn.before.mine)

variable {turn : Turn} {hash : Hash}

theorem kept?_of_accepted?_none (idle : turn.accepted? = none) : turn.kept? = none := by
  simp [kept?, idle]

theorem accepted?_of_kept? (kept : turn.kept? = some hash) : turn.accepted? = some hash := by
  unfold kept? at kept
  split at kept
  · cases kept
  · exact kept

theorem not_mines (head : turn.after.head = turn.before.head) : turn.mines = false := by
  simp [mines, head]

theorem mines_of_mine (mined : turn.after = turn.before.mine) : turn.mines = true := by
  simp [mines, mined, mine]

theorem kept_sublist (turns : List Turn) :
    (turns.filterMap kept?).Sublist (turns.filterMap accepted?) := by
  induction turns with
  | nil => exact .slnil
  | cons turn rest ih =>
      rw [List.filterMap_cons, List.filterMap_cons]
      cases kept : turn.kept? with
      | some hash =>
          rw [accepted?_of_kept? kept]
          exact ih.cons_cons hash
      | none =>
          cases turn.accepted? with
          | none => exact ih
          | some hash => exact ih.cons hash

end Turn

variable {chain after last : Chain} {raw : Bytes} {hash : Hash} {report : InclusionReport}
  {turn : Turn} {turns : List Turn} [Surroundings]

def serve (chain : Chain) : (request : Request) → request.Reply × Chain
  | .call call => chain.answer call
  | .control control => ((), chain.control control)

/-- Serves requests one after the other: the turns, and the ledger they leave. -/
def run (chain : Chain) : List Request → List Turn × Chain
  | [] => ([], chain)
  | request :: rest =>
      let (reply, after) := chain.serve request
      let (turns, last) := run after rest
      (⟨chain, request, reply, after⟩ :: turns, last)

theorem accept_ok (accepted : chain.accept raw = (.ok hash, after)) :
    ∃ read : BroadcastTransaction, read.hash = hash ∧ hash ∉ chain.hashes ∧
      after = { chain with
        broadcasts := chain.broadcasts ++ [read]
        pending := if chain.dropping then chain.pending else chain.pending ++ [hash] } := by
  have offered := chain.accept_offered raw
  rw [accepted] at offered
  unfold accept at accepted
  split at accepted
  · cases accepted
  · split at accepted
    · cases accepted
    · next tx _ =>
        simp only at accepted
        split at accepted
        · cases accepted
        · split at accepted
          · cases accepted
          · cases accepted
            refine ⟨_, rfl, ?_, rfl⟩
            cases offered with
            | taken read same fresh => exact fresh

/-! One turn. -/

theorem answer_entry (chain : Chain) (call : Call) :
    Turn.Entry ⟨chain, .call call, (chain.answer call).1, (chain.answer call).2⟩ := by
  cases call with
  | sendRaw raw =>
      have offered := chain.answer_offered raw
      cases answered : chain.answer (.sendRaw raw) with
      | mk reply after =>
          rw [answered] at offered
          cases reply with
          | error fault =>
              cases offered with
              | refused => exact .idle rfl rfl rfl rfl rfl
          | ok hash =>
              obtain ⟨read, rfl, fresh, rfl⟩ := accept_ok (answer_ok answered)
              refine .accepted read.hash rfl fresh rfl (by simp [hashes]) ?_ rfl
              simp only [Turn.kept?, Turn.accepted?]
              split <;> simp
  | blockNumber | finalizedBlockNumber =>
      simp only [answer, answerReached]
      split
      · exact .idle rfl rfl rfl rfl rfl
      · exact .mined rfl rfl
  | chainId | blockHash | pendingNonce | gasPrice =>
      simp only [answer, answerReached]
      split <;> exact .idle rfl rfl rfl rfl rfl
  | inclusion hash =>
      by_cases failing : 0 < chain.failingPolls
      · simp only [answer, answerReached, lookUp, if_pos failing]
        split <;> exact .idle rfl rfl rfl rfl rfl
      · simp only [answer, answerReached, lookUp, if_neg failing]
        split
        · exact .idle rfl rfl rfl rfl rfl
        · exact .mined rfl rfl

theorem serve_entry (chain : Chain) (request : Request) :
    Turn.Entry ⟨chain, request, (chain.serve request).1, (chain.serve request).2⟩ := by
  cases request with
  | call call => exact answer_entry chain call
  | control control => cases control <;> exact .idle rfl rfl rfl rfl rfl

theorem serve_follows (chain : Chain) (request : Request) :
    chain.Follows (chain.serve request).2 := by
  cases request with
  | call call => exact answer_follows call chain
  | control control => exact control_follows control chain

namespace Turn

/-- The turn was served by the ledger as it stood. -/
def Served (turn : Turn) : Prop :=
  turn.before.serve turn.request = (turn.reply, turn.after)

theorem Served.entry (served : turn.Served) : turn.Entry := by
  obtain ⟨before, request, reply, after⟩ := turn
  have entry := serve_entry before request
  rw [served] at entry
  exact entry

theorem Served.follows (served : turn.Served) : turn.before.Follows turn.after := by
  have follows := serve_follows turn.before turn.request
  rw [served] at follows
  exact follows

theorem Served.distinct (served : turn.Served) (distinct : turn.before.Distinct) :
    turn.after.Distinct := by
  cases served.entry with
  | idle _ _ hashes => rwa [Distinct, hashes]
  | accepted hash _ fresh _ hashes =>
      rw [Distinct, hashes, ← List.concat_eq_append]
      exact List.Nodup.concat fresh distinct
  | mined _ same => rwa [same]

end Turn

/-! Many turns. -/

/-- Turns that follow each other. -/
inductive Happened : Chain → List Turn → Chain → Prop where
  | nil (chain : Chain) : Happened chain [] chain
  | cons (turn : Turn) {rest : List Turn} {last : Chain} (served : turn.Served)
      (goesOn : Happened turn.after rest last) : Happened turn.before (turn :: rest) last

theorem run_happened (chain : Chain) (requests : List Request) :
    Happened chain (chain.run requests).1 (chain.run requests).2 := by
  induction requests generalizing chain with
  | nil => exact .nil chain
  | cons request rest ih => exact .cons ⟨chain, request, _, _⟩ rfl (ih _)

namespace Happened

theorem eq_of_nil (happened : Happened chain [] last) : last = chain := by
  cases happened
  rfl

theorem split {before later : List Turn} (happened : Happened chain (before ++ later) last) :
    ∃ middle, Happened chain before middle ∧ Happened middle later last := by
  induction before generalizing chain with
  | nil => exact ⟨chain, .nil chain, happened⟩
  | cons turn rest ih =>
      cases happened with
      | cons _ served goesOn =>
          obtain ⟨middle, first, second⟩ := ih goesOn
          exact ⟨middle, .cons turn served first, second⟩

theorem append {before later : List Turn} (first : Happened chain before after)
    (second : Happened after later last) : Happened chain (before ++ later) last := by
  induction first with
  | nil => exact second
  | cons turn served goesOn ih => exact .cons turn served (ih second)

theorem follows (happened : Happened chain turns last) : chain.Follows last := by
  induction happened with
  | nil chain => exact follows_refl chain
  | cons turn served goesOn ih =>
      intro orderly
      obtain ⟨grows, next⟩ := served.follows orderly
      exact ⟨grows.trans (ih next).1, (ih next).2⟩

theorem distinct (happened : Happened chain turns last) (distinct : chain.Distinct) :
    last.Distinct := by
  induction happened with
  | nil => exact distinct
  | cons turn served goesOn ih => exact ih (served.distinct distinct)

theorem hashes_eq (happened : Happened chain turns last) :
    last.hashes = chain.hashes ++ turns.filterMap Turn.accepted? := by
  induction happened with
  | nil => simp
  | cons turn served goesOn ih =>
      rw [ih, List.filterMap_cons]
      cases served.entry with
      | idle none _ hashes => rw [none, hashes]
      | accepted hash told _ _ hashes => rw [told, hashes, List.append_assoc, List.singleton_append]
      | mined none same =>
          rw [none, same]
          rfl

end Happened

end Notary.Chain
