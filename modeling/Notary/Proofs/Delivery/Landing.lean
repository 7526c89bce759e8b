import Mathlib.Logic.Function.Iterate
import Notary.Proofs.Delivery.Blocks
import Notary.Proofs.Program.Exchange

namespace Notary

/-!
Where the ledger in memory includes a transaction that it has taken, and what it answers to those who
look for it there.
-/

namespace Chain

variable {chain : Chain} {hash : Hash} {height : Nat} {report : InclusionReport}

/-- The height of the block that includes a transaction: of the next one, as long as it waits. -/
def landing (chain : Chain) (hash : Hash) : Nat :=
  match chain.position hash with
  | some report => report.blockNumber
  | none => chain.head + 1

/-- Whether a transaction is executed in the block that includes it. -/
def executes (chain : Chain) (hash : Hash) : Bool :=
  match chain.position hash with
  | some report => report.success
  | none => !chain.reverting

/-- Everyone who asks is told, from the next block on, that a transaction was included in a block which
stands. -/
structure Places (chain : Chain) (hash : Hash) (report : InclusionReport) : Prop where
  orderly : chain.Orderly
  reachable : chain.unreachable = false
  placed : chain.mine.position hash = some report
  success : report.success = true
  mined : report.blockHash = minedHash report.blockNumber
  below : report.blockNumber ≤ chain.head + 1
  standing : report.blockNumber ∉ chain.orphaned

theorem Places.mine (places : chain.Places hash report) : chain.mine.Places hash report where
  orderly := places.orderly.mine
  reachable := places.reachable
  placed := places.orderly.mine.mine_grows.kept hash report places.placed
  success := places.success
  mined := places.mined
  below := Nat.le_succ_of_le places.below
  standing := places.standing

theorem Places.failing (places : chain.Places hash report) (count : Nat) :
    Places { chain with failingPolls := count } hash report where
  orderly := places.orderly.ofSame rfl rfl rfl rfl
  reachable := places.reachable
  placed := places.placed
  success := places.success
  mined := places.mined
  below := places.below
  standing := places.standing

@[simp] theorem head_iterate_mine (chain : Chain) (blocks : Nat) :
    (mine^[blocks] chain).head = chain.head + blocks := by
  induction blocks generalizing chain with
  | zero => rfl
  | succ blocks ih =>
      have next : chain.mine.head = chain.head + 1 := rfl
      rw [Function.iterate_succ_apply, ih, next]
      omega

variable [Surroundings]

/-- Requests have brought the ledger into this state, with one of which it took the transaction and did
not drop it. -/
def Took (chain : Chain) (hash : Hash) : Prop :=
  ∃ lag requests, chain = ((withLag lag).run requests).2 ∧
    hash ∈ ((withLag lag).run requests).1.filterMap Turn.kept?

theorem run_append (chain : Chain) (first second : List Request) :
    chain.run (first ++ second) =
      ((chain.run first).1 ++ ((chain.run first).2.run second).1, ((chain.run first).2.run second).2) := by
  induction first generalizing chain with
  | nil => rfl
  | cons request rest ih => simp only [List.cons_append, run, ih]

theorem Took.control (took : chain.Took hash) (control : Control) : (chain.control control).Took hash := by
  obtain ⟨lag, requests, rfl, kept⟩ := took
  refine ⟨lag, requests ++ [.control control], ?_, ?_⟩
  · rw [run_append]
    rfl
  · rw [run_append, List.filterMap_append]
    exact List.mem_append_left _ kept

theorem Took.orderly (took : chain.Took hash) : chain.Orderly := by
  obtain ⟨lag, requests, rfl, -⟩ := took
  exact ((run_happened _ requests).follows (withLag_orderly lag)).2

theorem Took.listed (took : chain.Took hash) :
    hash ∈ chain.pending ∨ ∃ report, chain.position hash = some report := by
  obtain ⟨lag, requests, rfl, kept⟩ := took
  exact ((run_happened _ requests).either kept).imp And.left And.left

theorem Took.places (took : chain.Took hash) (reachable : chain.unreachable = false)
    (succeeds : chain.executes hash = true) (standing : chain.landing hash ∉ chain.orphaned) :
    ∃ report, report.blockNumber = chain.landing hash ∧ chain.Places hash report := by
  have orderly := took.orderly
  obtain waits | ⟨report, found⟩ := took.listed
  · simp only [landing, executes, (orderly.waiting hash waits).2] at succeeds standing ⊢
    obtain ⟨front, back, shape, absent⟩ := List.eq_append_cons_of_mem waits
    have placed : chain.mine.position hash =
        some ⟨chain.head + 1, minedHash (chain.head + 1), 0 + front.length, hash, true⟩ := by
      rw [position_mine, shape, lookup_reports_append absent, succeeds]
      rfl
    exact ⟨_, rfl, orderly, reachable, placed, rfl, rfl, Nat.le_refl _, standing⟩
  · simp only [landing, executes, found] at succeeds standing ⊢
    obtain ⟨-, -, mined, below⟩ := orderly.reported hash report found
    exact ⟨report, rfl, orderly, reachable, orderly.mine_grows.kept hash report found, succeeds,
      mined, Nat.le_succ_of_le below, standing⟩

def pollFailure : Error := .rpc "injected poll failure"

theorem answer_of_failing (reachable : chain.unreachable = false) (failing : 0 < chain.failingPolls)
    (hash : Hash) : chain.answer (.inclusion hash) =
      (.error (.failure pollFailure), { chain with failingPolls := chain.failingPolls - 1 }) := by
  simp [answer, answerReached, lookUp, reachable, failing, failure, pollFailure]

theorem answer_of_passing (reachable : chain.unreachable = false) (passing : chain.failingPolls = 0)
    (hash : Hash) : chain.answer (.inclusion hash) = (.ok (chain.mine.position hash), chain.mine) := by
  simp [answer, answerReached, lookUp, reachable, passing, position]

theorem answer_of_canonical (reachable : chain.unreachable = false) (standing : height ∉ chain.orphaned)
    (mined : height ≤ chain.head) :
    chain.answer (.blockHash height) = (.ok (some (minedHash height)), chain) := by
  have canonical : chain.canonicalHash height = some (minedHash height) := by
    simp [canonicalHash, Nat.not_lt.mpr mined, standing]
  simp [answer, answerReached, reachable, canonical]

theorem prompt : Chain.ledger.Prompt := fun _ _ => rfl

end Chain

end Notary
