import Notary.Proofs.Finality.Canon
import Notary.Tracker.Finality

namespace Notary.Tracker

/-!
A transaction that a check confirms is final. The check looks for the inclusion first, then for the
finalized head and for the canonical block last: a block that is canonical once the finalized head has
passed its height can no longer be replaced.
-/

variable {γ : Type} {scene : Scene γ} {tracker : Tracker} {submission : Submission}
  {record : FinalityRecord} {report : InclusionReport} {now last : γ} {reads : List (Call × γ)}

theorem checkWindow_ne_confirmed :
    ¬ scene.Runs (checkWindow submission).run now reads (.ok (.confirmed record)) last := by
  intro runs
  unfold checkWindow at runs
  cases window : submission.mortalityBlocks with
  | none =>
      rw [window] at runs
      exact nomatch runs.2.1
  | some window =>
      simp only [window] at runs
      obtain ⟨head, middle, first, rest, -, -, ends⟩ := runs.task_bind
      split at ends
      · exact nomatch ends.2.1
      · exact nomatch ends.2.1

theorem checkDepth_finalized {block : Nat} {verdict : Option Status}
    (mode : tracker.finality.mode = .finalized)
    (runs : scene.Runs (tracker.checkDepth block).run now reads (.ok verdict) last) :
    (∃ current, verdict = some (.confirming current block)) ∨
      verdict = none ∧ reads = [(.finalizedBlockNumber, last)] ∧ scene.Later now last ∧
        ∃ head : Nat, scene.answers last .finalizedBlockNumber (some head) ∧ block ≤ head := by
  unfold checkDepth at runs
  simp only [mode] at runs
  obtain ⟨finalized, middle, first, rest, asked, rfl, ends⟩ := runs.task_bind
  obtain ⟨later, answered, rfl⟩ := asked.ask
  cases finalized with
  | none => exact .inl ⟨0, Except.ok.inj ends.2.1⟩
  | some head =>
      obtain ⟨rfl, same, rfl⟩ := ends
      obtain rfl := Except.ok.inj same
      by_cases passed : block ≤ head
      · exact .inr ⟨if_pos passed, rfl, later, head, answered, passed⟩
      · exact .inl ⟨head, if_neg passed⟩

theorem checkCanonical_confirmed
    (runs : scene.Runs (checkCanonical report).run now reads (.ok (.confirmed record)) last) :
    reads = [(.blockHash report.blockNumber, last)] ∧ scene.Later now last ∧
      scene.answers last (.blockHash report.blockNumber) (some report.blockHash) ∧
        record = .ofReport report := by
  unfold checkCanonical at runs
  obtain ⟨canonical, middle, first, rest, asked, rfl, ends⟩ := runs.task_bind
  obtain ⟨later, answered, rfl⟩ := asked.ask
  obtain ⟨rfl, same, rfl⟩ := ends
  by_cases stands : canonical = some report.blockHash
  · have status := Except.ok.inj same
    rw [if_pos stands] at status
    rw [stands] at answered
    exact ⟨rfl, later, answered, Status.confirmed.inj status⟩
  · have status := Except.ok.inj same
    rw [if_neg stands] at status
    exact nomatch status

/-- What a check has seen, and in which order, when it confirms in the finalized mode. -/
theorem check_confirmed (mode : tracker.finality.mode = .finalized)
    (runs : scene.Runs (tracker.check submission).run now reads (.ok (.confirmed record)) last) :
    ∃ (report : InclusionReport) (head : Nat) (included settled : γ),
      reads = [(.inclusion submission.hash, included), (.finalizedBlockNumber, settled),
        (.blockHash report.blockNumber, last)] ∧
      scene.Later included settled ∧ scene.Later settled last ∧
      scene.answers included (.inclusion submission.hash) (some report) ∧ report.success = true ∧
      scene.answers settled .finalizedBlockNumber (some head) ∧ report.blockNumber ≤ head ∧
      scene.answers last (.blockHash report.blockNumber) (some report.blockHash) ∧
      record = .ofReport report := by
  unfold check at runs
  obtain ⟨found, included, first, rest, asked, rfl, runs⟩ := runs.task_bind
  obtain ⟨-, reported, rfl⟩ := asked.ask
  cases found with
  | none => exact absurd runs checkWindow_ne_confirmed
  | some report =>
      simp only at runs
      cases succeeded : report.success with
      | false =>
          rw [succeeded] at runs
          exact nomatch runs.2.1
      | true =>
          rw [succeeded] at runs
          obtain ⟨verdict, settled, second, third, deep, rfl, ends⟩ := runs.task_bind
          obtain ⟨current, rfl⟩ | ⟨rfl, rfl, later, head, finalized, passed⟩ :=
            checkDepth_finalized mode deep
          · exact nomatch ends.2.1
          · obtain ⟨rfl, afterwards, canonical, rfl⟩ := checkCanonical_confirmed ends
            exact ⟨report, head, included, settled, rfl, later, afterwards, reported, succeeded,
              finalized, passed, canonical, rfl⟩

/-- However the chain extends, reorganizes and finalizes between the calls of a check and after them:
from the check's last call on, the block of a confirmed record stands at its height and holds the
submission's transaction, which succeeded. -/
theorem confirmed_is_final {contents : Contents} {chain last : Canon} {reads : List (Call × Canon)}
    (mode : tracker.finality.mode = .finalized)
    (runs : (Canon.scene contents).Runs (tracker.check submission).run chain reads
      (.ok (.confirmed record)) last) :
    (∃ included settled, reads = [(.inclusion submission.hash, included),
      (.finalizedBlockNumber, settled), (.blockHash record.blockHeight, last)]) ∧
    ∀ after, (Canon.scene contents).Later last after →
      after.Holds contents record.blockHeight record.blockHash record.transactionIndex
        submission.hash true := by
  obtain ⟨report, head, included, settled, shape, -, later, reported, succeeded, finalized, passed,
    canonical, rfl⟩ := check_confirmed mode runs
  refine ⟨⟨included, settled, shape⟩, fun after afterwards => ?_⟩
  have below := Canon.lt_of_le_finalizedHead finalized.symm passed
  have reached := Canon.Later.final_prefix later
  have stays := Canon.Later.blocks_eq afterwards (Nat.lt_of_lt_of_le below reached.length_le)
  refine ⟨stays.trans canonical.symm, ?_⟩
  rw [← succeeded]
  exact reported.2

/-- The block is finalized after the first call of the check, and the one above it is replaced before
the last. -/
theorem confirmed_across_replacement :
    (default : Tracker).finality.mode = .finalized ∧
    (Canon.scene fun _ => [(default, true)]).Runs ((default : Tracker).check default).run
      ⟨[⟨1⟩], [⟨2⟩, ⟨3⟩]⟩
      [(.inclusion default, ⟨[⟨1⟩], [⟨2⟩, ⟨3⟩]⟩), (.finalizedBlockNumber, ⟨[⟨1⟩, ⟨2⟩], [⟨3⟩]⟩),
        (.blockHash 1, ⟨[⟨1⟩, ⟨2⟩], [⟨4⟩]⟩)]
      (.ok (.confirmed ⟨1, ⟨2⟩, 0, default⟩)) ⟨[⟨1⟩, ⟨2⟩], [⟨4⟩]⟩ ∧
    (⟨[⟨1⟩, ⟨2⟩], [⟨4⟩, ⟨5⟩]⟩ : Canon).Holds (fun _ => [(default, true)]) 1 ⟨2⟩ 0 default true := by
  have finalized : (Canon.scene fun _ => [(default, true)]).Later
      ⟨[⟨1⟩], [⟨2⟩, ⟨3⟩]⟩ ⟨[⟨1⟩, ⟨2⟩], [⟨3⟩]⟩ := .single (.finalize [⟨1⟩] [⟨2⟩] [⟨3⟩])
  have replaced : (Canon.scene fun _ => [(default, true)]).Later
      ⟨[⟨1⟩, ⟨2⟩], [⟨3⟩]⟩ ⟨[⟨1⟩, ⟨2⟩], [⟨4⟩]⟩ := .single (.replace [⟨1⟩, ⟨2⟩] [⟨3⟩] 0 [⟨4⟩])
  have extended : (Canon.scene fun _ => [(default, true)]).Later
      ⟨[⟨1⟩, ⟨2⟩], [⟨4⟩]⟩ ⟨[⟨1⟩, ⟨2⟩], [⟨4⟩, ⟨5⟩]⟩ := .single (.extend [⟨1⟩, ⟨2⟩] [⟨4⟩] ⟨5⟩)
  have runs : (Canon.scene fun _ => [(default, true)]).Runs ((default : Tracker).check default).run
      ⟨[⟨1⟩], [⟨2⟩, ⟨3⟩]⟩
      [(.inclusion default, ⟨[⟨1⟩], [⟨2⟩, ⟨3⟩]⟩), (.finalizedBlockNumber, ⟨[⟨1⟩, ⟨2⟩], [⟨3⟩]⟩),
        (.blockHash 1, ⟨[⟨1⟩, ⟨2⟩], [⟨4⟩]⟩)]
      (.ok (.confirmed ⟨1, ⟨2⟩, 0, default⟩)) ⟨[⟨1⟩, ⟨2⟩], [⟨4⟩]⟩ := by
    refine ⟨_, .ok (some ⟨1, ⟨2⟩, 0, default, true⟩), _, .refl, ⟨rfl, rfl⟩, rfl, ?_⟩
    refine ⟨_, .ok (some (1 : Nat)), _, finalized, rfl, rfl, ?_⟩
    exact ⟨_, .ok (some ⟨2⟩), _, replaced, rfl, rfl, rfl, rfl, rfl⟩
  exact ⟨rfl, runs, (confirmed_is_final rfl runs).2 _ extended⟩

end Notary.Tracker
