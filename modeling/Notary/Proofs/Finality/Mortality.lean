import Notary.Proofs.Finality.Canon
import Notary.Tracker.Finality

namespace Notary

/-!
What it means that a transaction was not found. The check looks for the inclusion first and reads the
head afterwards, so a block that is appended between the two calls counts towards the end of the
window and has not been searched: the verdict speaks of the blocks that stood at the first call.
-/

namespace Canon

/-- A step that takes no block away. -/
def Grows (canon after : Canon) : Prop :=
  Step canon after ∧ canon.blocks <+: after.blocks

def growing (contents : Contents) : Scene Canon :=
  ⟨Grows, Answers contents⟩

/-- A block between two heights, these included, holds a transaction. -/
def HoldsWithin (canon : Canon) (contents : Contents) (lowest highest : Nat) (transaction : Hash) :
    Prop :=
  ∃ height block index success, lowest ≤ height ∧ height ≤ highest ∧
    canon.Holds contents height block index transaction success

variable {contents : Contents} {canon after : Canon} {height index : Nat} {block transaction : Hash}
  {success : Bool}

theorem Holds.mem (holds : canon.Holds contents height block index transaction success) :
    block ∈ canon.blocks ∧ (transaction, success) ∈ contents block :=
  ⟨List.mem_of_getElem? holds.1, List.mem_of_getElem? holds.2⟩

theorem Later.blocks_prefix (later : (growing contents).Later canon after) :
    canon.blocks <+: after.blocks := by
  induction later with
  | refl => exact List.prefix_rfl
  | tail _ grows ih => exact ih.trans grows.2

/-- What a later block of a growing chain holds at a height that was reached before, it held then. -/
theorem Later.holds_before (later : (growing contents).Later canon after)
    (holds : after.Holds contents height block index transaction success)
    (reached : height < canon.blocks.length) :
    canon.Holds contents height block index transaction success := by
  obtain ⟨placed, listed⟩ := holds
  have same := List.prefix_iff_getElem?.mp (Later.blocks_prefix later) height reached
  refine ⟨?_, listed⟩
  rw [List.getElem?_eq_getElem reached, ← same, placed]

end Canon

namespace Tracker

open Scene (Reading)

variable {γ : Type} {scene : Scene γ} {tracker : Tracker} {submission : Submission} {now last : γ}
  {readings : List (Reading γ)} {text : String}

/-- No call was answered with the failure that the transaction was not found. -/
def Answered (readings : List (Reading γ)) (text : String) : Prop :=
  ∀ reading ∈ readings, reading.reply ≠ .error (.failure (.notFound text))

theorem ask_not_notFound {call : Call} (answered : Answered readings text) :
    ¬ scene.Observes (Task.ask call).run now readings (.error (.failure (.notFound text))) last := by
  intro observes
  obtain ⟨-, -, rfl⟩ := observes.ask
  exact answered _ (List.mem_singleton.mpr rfl) rfl

theorem checkWindow_notFound (answered : Answered readings text)
    (observes : scene.Observes (checkWindow submission).run now readings
      (.error (.failure (.notFound text))) last) :
    ∃ window, ∃ head : Nat, submission.mortalityBlocks = some window ∧
      readings = [⟨.blockNumber, last, .ok head⟩] ∧ scene.Later now last ∧
      scene.answers last .blockNumber head ∧
      Checked.saturatingAdd 64 submission.submittedAt window < head ∧
      text = submission.hash.text := by
  unfold checkWindow at observes
  cases bound : submission.mortalityBlocks with
  | none =>
      rw [bound] at observes
      exact nomatch observes.2.1
  | some window =>
      simp only [bound] at observes
      obtain ⟨head, middle, first, rest, asked, rfl, ends⟩ | ⟨fault, same, asked⟩ :=
        observes.task_bind
      · obtain ⟨later, told, rfl⟩ := asked.ask
        split at ends
        · next past =>
            obtain ⟨rfl, same, rfl⟩ := ends
            cases same
            exact ⟨window, head, rfl, rfl, later, told, past, rfl⟩
        · exact nomatch ends.2.1
      · cases same
        exact absurd asked (ask_not_notFound answered)

theorem checkDepth_not_notFound {block : Nat} (answered : Answered readings text) :
    ¬ scene.Observes (tracker.checkDepth block).run now readings
      (.error (.failure (.notFound text))) last := by
  intro observes
  unfold checkDepth at observes
  cases mode : tracker.finality.mode with
  | finalized =>
      simp only [mode] at observes
      obtain ⟨finalized, middle, first, rest, asked, rfl, ends⟩ | ⟨fault, same, asked⟩ :=
        observes.task_bind
      · cases finalized <;> exact nomatch ends.2.1
      · cases same
        exact ask_not_notFound answered asked
  | confirmations =>
      simp only [mode] at observes
      obtain ⟨head, middle, first, rest, asked, rfl, ends⟩ | ⟨fault, same, asked⟩ :=
        observes.task_bind
      · cases added : Checked.add 64 block tracker.finality.confirmationBlocks with
        | ok target =>
            rw [added] at ends
            exact nomatch ends.2.1
        | error fault =>
            obtain ⟨message, rfl⟩ := Checked.add_eq_error added
            rw [added] at ends
            exact nomatch ends.2.1
      · cases same
        exact ask_not_notFound answered asked

theorem checkCanonical_not_notFound {report : InclusionReport} (answered : Answered readings text) :
    ¬ scene.Observes (checkCanonical report).run now readings
      (.error (.failure (.notFound text))) last := by
  intro observes
  unfold checkCanonical at observes
  obtain ⟨canonical, middle, first, rest, asked, rfl, ends⟩ | ⟨fault, same, asked⟩ :=
    observes.task_bind
  · exact nomatch ends.2.1
  · cases same
    exact ask_not_notFound answered asked

/-- What a check has seen, and in which order, when it does not find a transaction. -/
theorem check_notFound (answered : Answered readings text)
    (observes : scene.Observes (tracker.check submission).run now readings
      (.error (.failure (.notFound text))) last) :
    ∃ window included, ∃ head : Nat, submission.mortalityBlocks = some window ∧
      readings = [⟨.inclusion submission.hash, included, .ok none⟩, ⟨.blockNumber, last, .ok head⟩] ∧
      scene.Later included last ∧ scene.answers included (.inclusion submission.hash) none ∧
      scene.answers last .blockNumber head ∧
      Checked.saturatingAdd 64 submission.submittedAt window < head ∧
      text = submission.hash.text := by
  unfold check at observes
  obtain ⟨found, included, first, rest, asked, rfl, goesOn⟩ | ⟨fault, same, asked⟩ :=
    observes.task_bind
  · obtain ⟨-, told, rfl⟩ := asked.ask
    have answeredRest : Answered rest text := fun reading member =>
      answered reading (List.mem_append_right _ member)
    cases found with
    | none =>
        obtain ⟨window, head, bound, rfl, later, head_eq, past, same⟩ :=
          checkWindow_notFound answeredRest goesOn
        exact ⟨window, included, head, bound, rfl, later, told, head_eq, past, same⟩
    | some report =>
        simp only at goesOn
        cases succeeded : report.success with
        | false =>
            rw [succeeded] at goesOn
            exact nomatch goesOn.2.1
        | true =>
            rw [succeeded] at goesOn
            obtain ⟨verdict, middle, second, third, -, rfl, ends⟩ | ⟨fault, same, deep⟩ :=
              goesOn.task_bind
            · cases verdict with
              | some status => exact nomatch ends.2.1
              | none =>
                  refine absurd ends (checkCanonical_not_notFound fun reading member => ?_)
                  exact answeredRest reading (List.mem_append_right _ member)
            · cases same
              exact absurd deep (checkDepth_not_notFound answeredRest)
  · cases same
    exact absurd asked (ask_not_notFound answered)

/-- However a chain grows between the calls of a check: that a transaction is not found tells that no
block which stood at the first call holds it, and that the head is past the window at the last. It is
in its window all the same just where a block that was appended between the two calls holds it, within
the window; so never where the window was over at the first call. -/
theorem notFound_searches_blocks_of_first_call {contents : Contents} {chain last : Canon}
    {readings : List (Reading Canon)} (answered : Answered readings text)
    (observes : (Canon.growing contents).Observes (tracker.check submission).run chain readings
      (.error (.failure (.notFound text))) last) :
    ∃ window included, ∃ head : Nat, submission.mortalityBlocks = some window ∧
      readings = [⟨.inclusion submission.hash, included, .ok none⟩, ⟨.blockNumber, last, .ok head⟩] ∧
      included.blocks <+: last.blocks ∧ last.blocks.length = head + 1 ∧
      min (submission.submittedAt + window) 0xffff_ffff_ffff_ffff < head ∧
      (last.HoldsWithin contents 0 (submission.submittedAt + window) submission.hash ↔
        last.HoldsWithin contents included.blocks.length (submission.submittedAt + window)
          submission.hash) ∧
      (submission.submittedAt + window < included.blocks.length →
        ¬ last.HoldsWithin contents 0 (submission.submittedAt + window) submission.hash) := by
  obtain ⟨window, included, head, bound, shape, later, absent, tall, past, -⟩ :=
    check_notFound answered observes
  have appended (height : Nat) (block : Hash) (index : Nat) (success : Bool)
      (holds : last.Holds contents height block index submission.hash success) :
      included.blocks.length ≤ height := by
    refine Nat.not_lt.mp fun reached => ?_
    exact absent height block index success (Canon.Later.holds_before later holds reached)
  refine ⟨window, included, head, bound, shape, Canon.Later.blocks_prefix later, tall, past,
    ⟨?_, ?_⟩, ?_⟩
  · rintro ⟨height, block, index, success, -, within, holds⟩
    exact ⟨height, block, index, success, appended height block index success holds, within, holds⟩
  · rintro ⟨height, block, index, success, -, within, holds⟩
    exact ⟨height, block, index, success, Nat.zero_le _, within, holds⟩
  · rintro elapsed ⟨height, block, index, success, -, within, holds⟩
    have above := appended height block index success holds
    omega

/-- The window of one block is over at the first call, and the transaction comes one block late. -/
theorem notFound_after_elapsed_window :
    let submission : Submission := ⟨default, 0, 0, some 1⟩
    let contents : Contents := fun block => if block = ⟨2⟩ then [(submission.hash, true)] else []
    let readings : List (Reading Canon) :=
      [⟨.inclusion submission.hash, ⟨[⟨0⟩], [⟨1⟩]⟩, .ok none⟩,
        ⟨.blockNumber, ⟨[⟨0⟩], [⟨1⟩, ⟨2⟩]⟩, .ok (2 : Nat)⟩]
    Answered readings submission.hash.text ∧
    (Canon.growing contents).Observes ((default : Tracker).check submission).run ⟨[⟨0⟩], [⟨1⟩]⟩
      readings (.error (.failure (.notFound submission.hash.text))) ⟨[⟨0⟩], [⟨1⟩, ⟨2⟩]⟩ ∧
    (⟨[⟨0⟩], [⟨1⟩, ⟨2⟩]⟩ : Canon).Holds contents 2 ⟨2⟩ 0 submission.hash true ∧
    ¬ (⟨[⟨0⟩], [⟨1⟩, ⟨2⟩]⟩ : Canon).HoldsWithin contents 0 1 submission.hash := by
  intro submission contents readings
  have answered : Answered readings submission.hash.text := by
    simp [Answered, readings]
  have appended : (Canon.growing contents).Later ⟨[⟨0⟩], [⟨1⟩]⟩ ⟨[⟨0⟩], [⟨1⟩, ⟨2⟩]⟩ :=
    .single ⟨.extend [⟨0⟩] [⟨1⟩] ⟨2⟩, [⟨2⟩], rfl⟩
  have absent : ∀ height block index success,
      ¬ (⟨[⟨0⟩], [⟨1⟩]⟩ : Canon).Holds contents height block index submission.hash success := by
    intro height block index success holds
    obtain ⟨standing, listed⟩ := holds.mem
    obtain rfl | rfl : block = ⟨0⟩ ∨ block = ⟨1⟩ := by simpa [Canon.blocks] using standing
    all_goals exact List.not_mem_nil listed
  have observes : (Canon.growing contents).Observes ((default : Tracker).check submission).run
      ⟨[⟨0⟩], [⟨1⟩]⟩ readings (.error (.failure (.notFound submission.hash.text)))
      ⟨[⟨0⟩], [⟨1⟩, ⟨2⟩]⟩ :=
    ⟨_, .ok none, _, .refl, absent, rfl, _, .ok (2 : Nat), _, appended, rfl, rfl, rfl, rfl, rfl⟩
  obtain ⟨window, included, head, bound, shape, -, -, -, -, right⟩ :=
    notFound_searches_blocks_of_first_call answered observes
  obtain rfl := Option.some.inj bound
  obtain rfl := congrArg Reading.moment (List.cons.inj shape).1
  exact ⟨answered, observes, ⟨rfl, rfl⟩, right (by decide)⟩

/-- Two blocks are appended between the calls. The first one is the only block of the window and holds
the transaction, and the second one is past the window. -/
theorem notFound_of_included_transaction :
    ∃ (submission : Submission) (contents : Contents) (readings : List (Reading Canon))
      (last : Canon), submission.submittedAt = 0 ∧ submission.mortalityBlocks = some 1 ∧
      Answered readings submission.hash.text ∧
      (Canon.growing contents).Observes ((default : Tracker).check submission).run ⟨[⟨0⟩], []⟩
        readings (.error (.failure (.notFound submission.hash.text))) last ∧
      last.HoldsWithin contents 0 1 submission.hash := by
  have appended : (Canon.growing fun block => if block = ⟨1⟩ then [(default, true)] else []).Later
      ⟨[⟨0⟩], []⟩ ⟨[⟨0⟩], [⟨1⟩, ⟨2⟩]⟩ :=
    .tail (.single ⟨.extend [⟨0⟩] [] ⟨1⟩, [⟨1⟩], rfl⟩) ⟨.extend [⟨0⟩] [⟨1⟩] ⟨2⟩, [⟨2⟩], rfl⟩
  refine ⟨⟨default, 0, 0, some 1⟩, fun block => if block = ⟨1⟩ then [(default, true)] else [],
    [⟨.inclusion default, ⟨[⟨0⟩], []⟩, .ok none⟩,
      ⟨.blockNumber, ⟨[⟨0⟩], [⟨1⟩, ⟨2⟩]⟩, .ok (2 : Nat)⟩],
    ⟨[⟨0⟩], [⟨1⟩, ⟨2⟩]⟩, rfl, rfl, ?_, ?_, 1, ⟨1⟩, 0, true, Nat.zero_le 1, Nat.le_refl 1, rfl, rfl⟩
  · simp [Answered]
  · refine ⟨_, .ok none, _, .refl, fun height block index success holds => ?_, rfl, _,
      .ok (2 : Nat), _, appended, rfl, rfl, rfl, rfl, rfl⟩
    obtain ⟨standing, listed⟩ := holds.mem
    obtain rfl : block = ⟨0⟩ := by simpa [Canon.blocks] using standing
    exact List.not_mem_nil listed

end Tracker

end Notary
