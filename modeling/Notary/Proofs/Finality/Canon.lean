import Notary.Proofs.Program.Observation

namespace Notary

/-!
A chain as its blocks come and go. The finalized blocks stay; those above them can be replaced at any
time. Blocks are named by their hashes and equal hashes mean the same block, so what a block holds is
a function of its hash.
-/

/-- The transactions of the block with a hash, in order, each with its success. -/
abbrev Contents := Hash → List (Hash × Bool)

/-- The hashes of the canonical blocks from height zero on: the finalized ones and those above. -/
structure Canon where
  final : List Hash
  above : List Hash

namespace Canon

def blocks (canon : Canon) : List Hash :=
  canon.final ++ canon.above

/-- The height of the latest finalized block, if there is one. -/
def finalizedHead (canon : Canon) : Option Nat :=
  if canon.final = [] then none else some (canon.final.length - 1)

inductive Step : Canon → Canon → Prop where
  | extend (final above : List Hash) (block : Hash) : Step ⟨final, above⟩ ⟨final, above ++ [block]⟩
  /-- Blocks above the finalized ones, from any height on, make way for a branch. -/
  | replace (final above : List Hash) (kept : Nat) (branch : List Hash) :
      Step ⟨final, above⟩ ⟨final, above.take kept ++ branch⟩
  | finalize (final settled above : List Hash) :
      Step ⟨final, settled ++ above⟩ ⟨final ++ settled, above⟩

/-- The block at a height holds a transaction, at an index and with a success. -/
def Holds (canon : Canon) (contents : Contents) (height : Nat) (block : Hash) (index : Nat)
    (transaction : Hash) (success : Bool) : Prop :=
  canon.blocks[height]? = some block ∧ (contents block)[index]? = some (transaction, success)

/-- What is true of a chain at the moment of a call. -/
def Answers (contents : Contents) (canon : Canon) : (call : Call) → call.Answer → Prop
  | .blockNumber, head => canon.blocks.length = Nat.succ head
  | .finalizedBlockNumber, head => head = canon.finalizedHead
  | .blockHash number, block => block = canon.blocks[number]?
  | .inclusion transaction, some report =>
      canon.Holds contents report.blockNumber report.blockHash report.transactionIndex transaction
        report.success
  | .inclusion transaction, none =>
      ∀ height block index success, ¬ canon.Holds contents height block index transaction success
  | _, _ => True

def scene (contents : Contents) : Scene Canon :=
  ⟨Step, Answers contents⟩

variable {contents : Contents} {canon after : Canon} {height : Nat}

theorem Step.final_prefix (step : Step canon after) : canon.final <+: after.final := by
  cases step with
  | extend | replace => exact List.prefix_rfl
  | finalize final settled above => exact List.prefix_append final settled

theorem Later.final_prefix (later : (scene contents).Later canon after) :
    canon.final <+: after.final := by
  induction later with
  | refl => exact List.prefix_rfl
  | tail _ step ih => exact ih.trans step.final_prefix

theorem lt_of_le_finalizedHead {head : Nat} (finalized : canon.finalizedHead = some head)
    (below : height ≤ head) : height < canon.final.length := by
  unfold finalizedHead at finalized
  split at finalized
  · cases finalized
  · next inhabited =>
      have positive := List.length_pos_iff.mpr inhabited
      have := Option.some.inj finalized
      omega

/-- A finalized block stays at its height for ever. -/
theorem Later.blocks_eq (later : (scene contents).Later canon after)
    (below : height < canon.final.length) : after.blocks[height]? = canon.blocks[height]? := by
  have grown := Later.final_prefix later
  have within := Nat.lt_of_lt_of_le below grown.length_le
  rw [blocks, blocks, List.getElem?_append_left within, List.getElem?_append_left below]
  exact (List.prefix_iff_getElem?.mp grown height below).trans (List.getElem?_eq_getElem below).symm

end Canon

end Notary
