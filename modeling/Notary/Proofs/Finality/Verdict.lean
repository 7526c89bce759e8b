import Notary.Proofs.Finality.Course

namespace Notary.Tracker

/-!
The rule by which one check decides. It is stated on what the ledger replies, apart from the order in
which the check comes to its calls.
-/

section Rule

variable (tracker : Tracker) (submission : Submission) (reply : (step : Step) → step.Reply)

def Needs (step : Step) : Prop :=
  step = .ask (.inclusion submission.hash) ∨
  (step = .ask .blockNumber ∧ inclusionReply submission reply = .ok none ∧
    submission.mortalityBlocks ≠ none) ∨
  ∃ report, Succeeds submission reply report ∧
    (step = .ask tracker.depthCall ∨
      step = .ask (.blockHash report.blockNumber) ∧ tracker.Deep reply report.blockNumber)

/-- The place of a step among those of a check: the inclusion is asked for first, then a head, and the
canonical block last. -/
def place : Step → Nat
  | .ask (.inclusion _) => 0
  | .ask (.blockHash _) => 2
  | _ => 1

def Refused (steps : List Step) (fault : Fault) : Prop :=
  ∃ call, .ask call ∈ steps ∧ reply (.ask call) = .error fault

/-- The steps and the outcome of a check are those that the rule asks for. -/
structure Decides (steps : List Step) (outcome : Except Fault Status) : Prop where
  needed : ∀ step, step ∈ steps ↔ tracker.Needs submission reply step
  ordered : steps.Pairwise fun earlier later => place earlier < place later
  /-- The first fault is the last thing that the check hears, and its outcome. -/
  stopped : ∀ call fault, .ask call ∈ steps → reply (.ask call) = .error fault →
    steps.getLast? = some (.ask call) ∧ outcome = .error fault
  notFound : ∀ fault, outcome = .error fault ↔ Refused reply steps fault ∨
    fault = .failure (.notFound submission.hash.text) ∧ Expired submission reply
  failed : ∀ reason, outcome = .ok (.failed reason) ↔ ∃ report, Reverts submission reply report ∧
    reason = revertText submission.hash report.blockNumber
  confirming : ∀ current target, outcome = .ok (.confirming current target) ↔
    ∃ report, Succeeds submission reply report ∧
      tracker.Shallow reply report.blockNumber current target
  confirmed : ∀ record, outcome = .ok (.confirmed record) ↔
    ∃ report, Succeeds submission reply report ∧ tracker.Deep reply report.blockNumber ∧
      InCanon reply report ∧ record = .ofReport report
  pending : outcome = .ok .pending ↔ (∀ fault, ¬ Refused reply steps fault) ∧
    ¬ Expired submission reply ∧ ∀ report, ¬ Reverts submission reply report ∧
      (Succeeds submission reply report →
        (∀ current target, ¬ tracker.Shallow reply report.blockNumber current target) ∧
          ¬ (tracker.Deep reply report.blockNumber ∧ InCanon reply report))

end Rule

variable {tracker : Tracker} {submission : Submission} {reply : (step : Step) → step.Reply}
  {report other : InclusionReport} {height current target now goal : Nat} {steps : List Step}
  {outcome : Except Fault Status} {fault : Fault}

theorem needs_iff_of_absent (absent : inclusionReply submission reply = .ok none) (step : Step) :
    tracker.Needs submission reply step ↔ step = .ask (.inclusion submission.hash) ∨
      step = .ask .blockNumber ∧ submission.mortalityBlocks ≠ none := by
  simp [Needs, Succeeds, absent]

theorem needs_iff_of_reverts (reverts : Reverts submission reply report) (step : Step) :
    tracker.Needs submission reply step ↔ step = .ask (.inclusion submission.hash) := by
  obtain ⟨reported, reverted⟩ := reverts
  simp [Needs, Succeeds, reported, reverted]

theorem Succeeds.iff_eq (succeeds : Succeeds submission reply report) :
    Succeeds submission reply other ↔ other = report := by
  obtain ⟨reported, success⟩ := succeeds
  simp only [Succeeds, reported, Except.ok.injEq, Option.some.injEq]
  constructor
  · rintro ⟨rfl, -⟩
    rfl
  · rintro rfl
    exact ⟨rfl, success⟩

theorem needs_iff_of_succeeds (succeeds : Succeeds submission reply report) (step : Step) :
    tracker.Needs submission reply step ↔ step = .ask (.inclusion submission.hash) ∨
      step = .ask tracker.depthCall ∨
        step = .ask (.blockHash report.blockNumber) ∧ tracker.Deep reply report.blockNumber := by
  simp [Needs, succeeds.iff_eq, succeeds.1]

theorem Shallow.not_deep (shallow : tracker.Shallow reply height current target) :
    ¬ tracker.Deep reply height := by
  unfold Shallow at shallow
  unfold Deep
  cases mode : tracker.finality.mode with
  | finalized =>
      simp only [mode] at shallow ⊢
      obtain ⟨finalized, replied, below, -, -⟩ := shallow
      rintro ⟨head, told, reached⟩
      have := below head (by simpa [replied] using told)
      omega
  | confirmations =>
      simp only [mode] at shallow ⊢
      obtain ⟨replied, short, rfl⟩ := shallow
      rintro ⟨head, told, reached⟩
      obtain rfl : current = head := by simpa [replied] using told
      omega

theorem Shallow.unique (shallow : tracker.Shallow reply height current target)
    (again : tracker.Shallow reply height now goal) : now = current ∧ goal = target := by
  unfold Shallow at shallow again
  cases mode : tracker.finality.mode with
  | finalized =>
      simp only [mode] at shallow again
      obtain ⟨finalized, replied, -, rfl, rfl⟩ := shallow
      obtain ⟨_, told, -, rfl, rfl⟩ := again
      obtain rfl : finalized = _ := by simpa [replied] using told
      exact ⟨rfl, rfl⟩
  | confirmations =>
      simp only [mode] at shallow again
      obtain ⟨replied, -, rfl⟩ := shallow
      obtain ⟨told, -, rfl⟩ := again
      exact ⟨by simpa [replied] using told.symm, rfl⟩

/-- Without an answer to the call for it, the finality test is neither passed nor failed. -/
theorem undecided_of_refused (replied : reply (.ask tracker.depthCall) = .error fault) :
    ¬ tracker.Deep reply height ∧ ∀ current target, ¬ tracker.Shallow reply height current target := by
  unfold Deep Shallow
  cases mode : tracker.finality.mode with
  | finalized =>
      have asked : tracker.depthCall = .finalizedBlockNumber := by simp only [depthCall, mode]
      rw [asked] at replied
      have told : finalizedReply reply = .error fault := replied
      simp [told]
  | confirmations =>
      have asked : tracker.depthCall = .blockNumber := by simp only [depthCall, mode]
      rw [asked] at replied
      have told : headReply reply = .error fault := replied
      simp [told]

theorem Course.needed (course : tracker.Course submission reply steps outcome) (step : Step) :
    step ∈ steps ↔ tracker.Needs submission reply step := by
  cases course with
  | unreported fault replied => simp [Needs, Succeeds, replied]
  | endless absent unbounded => simp [needs_iff_of_absent absent, unbounded]
  | headless absent window bounded | expired absent window bounded
  | waiting absent window bounded => simp [needs_iff_of_absent absent, bounded]
  | reverted report reverts => simp [needs_iff_of_reverts reverts]
  | depthless report succeeds fault replied =>
      simp [needs_iff_of_succeeds succeeds, undecided_of_refused replied]
  | shallow report succeeds current target shallow =>
      simp [needs_iff_of_succeeds succeeds, shallow.not_deep]
  | hashless report succeeds deep | confirmed report succeeds deep
  | replaced report succeeds deep => simp [needs_iff_of_succeeds succeeds, deep]

@[simp] theorem place_inclusion {hash : Hash} : place (.ask (.inclusion hash)) = 0 := rfl

@[simp] theorem place_blockNumber : place (.ask .blockNumber) = 1 := rfl

@[simp] theorem place_depthCall : place (.ask tracker.depthCall) = 1 := by
  unfold depthCall
  cases tracker.finality.mode <;> rfl

@[simp] theorem place_blockHash : place (.ask (.blockHash height)) = 2 := rfl

theorem Course.ordered (course : tracker.Course submission reply steps outcome) :
    steps.Pairwise fun earlier later => place earlier < place later := by
  cases course <;> simp

theorem refused_cons {call : Call} : Refused reply (.ask call :: steps) fault ↔
    reply (.ask call) = .error fault ∨ Refused reply steps fault := by
  simp [Refused, or_and_right, exists_or]

theorem not_refused_nil : ¬ Refused reply [] fault := by simp [Refused]

theorem answered_of_ok {call : Call} {answer : call.Answer}
    (replied : reply (.ask call) = .ok answer) : reply (.ask call) ≠ .error fault := by
  rw [replied]
  exact nofun

/-- The call that tells the depth of a block has been answered where the depth is known. -/
theorem Deep.answered (deep : tracker.Deep reply height) :
    reply (.ask tracker.depthCall) ≠ .error fault := fun replied =>
  (undecided_of_refused replied).1 deep

theorem Shallow.answered (shallow : tracker.Shallow reply height current target) :
    reply (.ask tracker.depthCall) ≠ .error fault := fun replied =>
  (undecided_of_refused replied).2 current target shallow

/-- Either no call of a check was refused, or its last one was, and no other. -/
theorem Course.heard (course : tracker.Course submission reply steps outcome) :
    (∀ fault, ¬ Refused reply steps fault) ∨
      ∃ before call fault, steps = before ++ [.ask call] ∧ (∀ fault, ¬ Refused reply before fault) ∧
        reply (.ask call) = .error fault ∧ outcome = .error fault := by
  cases course with
  | unreported fault replied =>
      exact .inr ⟨[], _, fault, rfl, fun _ => not_refused_nil, replied, rfl⟩
  | endless absent =>
      refine .inl fun fault => ?_
      simp [refused_cons, not_refused_nil, answered_of_ok absent]
  | headless absent window bounded fault replied =>
      refine .inr ⟨[_], _, fault, rfl, fun fault => ?_, replied, rfl⟩
      simp [refused_cons, not_refused_nil, answered_of_ok absent]
  | expired absent window bounded head replied | waiting absent window bounded head replied =>
      refine .inl fun fault => ?_
      simp [refused_cons, not_refused_nil, answered_of_ok absent, answered_of_ok replied]
  | reverted report reverts =>
      refine .inl fun fault => ?_
      simp [refused_cons, not_refused_nil, answered_of_ok reverts.1]
  | depthless report succeeds fault replied =>
      refine .inr ⟨[_], _, fault, rfl, fun fault => ?_, replied, rfl⟩
      simp [refused_cons, not_refused_nil, answered_of_ok succeeds.1]
  | shallow report succeeds current target shallow =>
      refine .inl fun fault => ?_
      simp [refused_cons, not_refused_nil, answered_of_ok succeeds.1, shallow.answered]
  | hashless report succeeds deep fault replied =>
      refine .inr ⟨[_, _], _, fault, rfl, fun fault => ?_, replied, rfl⟩
      simp [refused_cons, not_refused_nil, answered_of_ok succeeds.1, deep.answered]
  | confirmed report succeeds deep replied | replaced report succeeds deep canonical replied =>
      refine .inl fun fault => ?_
      simp [refused_cons, not_refused_nil, answered_of_ok succeeds.1, deep.answered,
        answered_of_ok replied]

theorem Course.stopped (course : tracker.Course submission reply steps outcome) {call : Call}
    (asked : .ask call ∈ steps) (replied : reply (.ask call) = .error fault) :
    steps.getLast? = some (.ask call) ∧ outcome = .error fault := by
  obtain unrefused | ⟨before, last, refused, rfl, unrefused, told, ended⟩ := course.heard
  · exact absurd ⟨call, asked, replied⟩ (unrefused fault)
  · obtain earlier | same := List.mem_append.mp asked
    · exact absurd ⟨call, earlier, replied⟩ (unrefused fault)
    · obtain rfl : call = last := by simpa using same
      have same : (Except.error fault : call.Reply) = .error refused := replied.symm.trans told
      cases same
      exact ⟨List.getLast?_concat, ended⟩

theorem Reverts.iff_eq (reverts : Reverts submission reply report) :
    Reverts submission reply other ↔ other = report := by
  obtain ⟨reported, failure⟩ := reverts
  simp only [Reverts, reported, Except.ok.injEq, Option.some.injEq]
  constructor
  · rintro ⟨rfl, -⟩
    rfl
  · rintro rfl
    exact ⟨rfl, failure⟩

theorem Succeeds.not_reverts (succeeds : Succeeds submission reply report) :
    ¬ Reverts submission reply other := by
  rintro ⟨reported, failure⟩
  obtain rfl : report = other := by simpa [succeeds.1] using reported
  simp [succeeds.2] at failure

theorem Reverts.not_succeeds (reverts : Reverts submission reply report) :
    ¬ Succeeds submission reply other := fun succeeds => succeeds.not_reverts reverts

theorem Deep.not_shallow (deep : tracker.Deep reply height) :
    ¬ tracker.Shallow reply height current target := fun shallow => shallow.not_deep deep

theorem Shallow.iff_eq (shallow : tracker.Shallow reply height current target) :
    tracker.Shallow reply height now goal ↔ now = current ∧ goal = target := by
  constructor
  · exact shallow.unique
  · rintro ⟨rfl, rfl⟩
    exact shallow

theorem Course.failed (course : tracker.Course submission reply steps outcome) (reason : String) :
    outcome = .ok (.failed reason) ↔ ∃ report, Reverts submission reply report ∧
      reason = revertText submission.hash report.blockNumber := by
  cases course with
  | unreported fault replied => simp [Reverts, replied]
  | endless absent | headless absent | expired absent | waiting absent => simp [Reverts, absent]
  | reverted report reverts =>
      simp only [reverts.iff_eq, exists_eq_left, Except.ok.injEq, Status.failed.injEq]
      exact eq_comm
  | depthless report succeeds | shallow report succeeds | hashless report succeeds
  | confirmed report succeeds | replaced report succeeds => simp [succeeds.not_reverts]

theorem Course.confirming (course : tracker.Course submission reply steps outcome)
    (current target : Nat) : outcome = .ok (.confirming current target) ↔
      ∃ report, Succeeds submission reply report ∧
        tracker.Shallow reply report.blockNumber current target := by
  cases course with
  | unreported fault replied => simp [Succeeds, replied]
  | endless absent | headless absent | expired absent | waiting absent => simp [Succeeds, absent]
  | reverted report reverts => simp [reverts.not_succeeds]
  | depthless report succeeds fault replied =>
      simp [succeeds.iff_eq, undecided_of_refused replied]
  | shallow report succeeds now goal shallow =>
      simp only [succeeds.iff_eq, exists_eq_left, shallow.iff_eq, Except.ok.injEq,
        Status.confirming.injEq]
      exact and_congr eq_comm eq_comm
  | hashless report succeeds deep | confirmed report succeeds deep
  | replaced report succeeds deep => simp [succeeds.iff_eq, deep.not_shallow]

theorem Course.confirmed_iff (course : tracker.Course submission reply steps outcome)
    (record : FinalityRecord) : outcome = .ok (.confirmed record) ↔
      ∃ report, Succeeds submission reply report ∧ tracker.Deep reply report.blockNumber ∧
        InCanon reply report ∧ record = .ofReport report := by
  cases course with
  | unreported fault replied => simp [Succeeds, replied]
  | endless absent | headless absent | expired absent | waiting absent => simp [Succeeds, absent]
  | reverted report reverts => simp [reverts.not_succeeds]
  | depthless report succeeds fault replied =>
      simp [succeeds.iff_eq, undecided_of_refused replied]
  | shallow report succeeds current target shallow => simp [succeeds.iff_eq, shallow.not_deep]
  | hashless report succeeds deep fault replied => simp [succeeds.iff_eq, InCanon, replied]
  | confirmed report succeeds deep stands =>
      simp only [succeeds.iff_eq, exists_eq_left, deep, stands, true_and, Except.ok.injEq,
        Status.confirmed.injEq]
      exact eq_comm
  | replaced report succeeds deep canonical replied differs =>
      simp [succeeds.iff_eq, InCanon, replied, differs]

/-- A transaction with a window has expired where the head is beyond it. -/
theorem expired_iff_lt {window head : Nat} (absent : inclusionReply submission reply = .ok none)
    (bounded : submission.mortalityBlocks = some window) (replied : headReply reply = .ok head) :
    Expired submission reply ↔ Checked.saturatingAdd 64 submission.submittedAt window < head := by
  simp [Expired, absent, bounded, replied, Checked.saturatingAdd]

/-- Where nothing was refused, what a check fails with is that the transaction is not found. -/
theorem Course.unrefused (course : tracker.Course submission reply steps outcome)
    (unrefused : ∀ fault, ¬ Refused reply steps fault) (fault : Fault) :
    outcome = .error fault ↔
      fault = .failure (.notFound submission.hash.text) ∧ Expired submission reply := by
  cases course with
  | unreported refused replied | headless absent window bounded refused replied
  | depthless report succeeds refused replied | hashless report succeeds deep refused replied =>
      exact absurd ⟨_, by simp, replied⟩ (unrefused refused)
  | endless absent unbounded => simp [Expired, unbounded]
  | expired absent window bounded head replied passed =>
      simp only [expired_iff_lt absent bounded replied, passed, and_true, Except.error.injEq]
      exact eq_comm
  | waiting absent window bounded head replied within =>
      simp [expired_iff_lt absent bounded replied, within]
  | reverted report reverts => simp [Expired, reverts.1]
  | shallow report succeeds | confirmed report succeeds | replaced report succeeds =>
      simp [Expired, succeeds.1]

theorem Course.of_expired (course : tracker.Course submission reply steps outcome)
    (expired : Expired submission reply) :
    outcome = .error (.failure (.notFound submission.hash.text)) := by
  obtain ⟨missing, span, tip, limited, told, beyond⟩ := expired
  cases course with
  | unreported fault replied => simp [missing] at replied
  | endless absent unbounded => simp [limited] at unbounded
  | headless absent window bounded fault replied => simp [told] at replied
  | expired => rfl
  | waiting absent window bounded head replied within =>
      obtain rfl : span = window := by simpa [limited] using bounded
      obtain rfl : tip = head := by simpa [told] using replied
      exact absurd beyond within
  | reverted report reverts => simp [Reverts, missing] at reverts
  | depthless report succeeds | shallow report succeeds | hashless report succeeds
  | confirmed report succeeds | replaced report succeeds => simp [Succeeds, missing] at succeeds

theorem Course.notFound (course : tracker.Course submission reply steps outcome) (fault : Fault) :
    outcome = .error fault ↔ Refused reply steps fault ∨
      fault = .failure (.notFound submission.hash.text) ∧ Expired submission reply := by
  constructor
  · intro ended
    obtain unrefused | ⟨before, call, refused, rfl, -, replied, told⟩ := course.heard
    · exact .inr ((course.unrefused unrefused fault).mp ended)
    · obtain rfl : refused = fault := by simpa [told] using ended
      exact .inl ⟨call, by simp, replied⟩
  · rintro (⟨call, asked, replied⟩ | ⟨rfl, expired⟩)
    · exact (course.stopped asked replied).2
    · exact course.of_expired expired

/-- A check that neither fails nor tells of a report's end leaves the transaction pending. -/
theorem Course.pending (course : tracker.Course submission reply steps outcome) :
    outcome = .ok .pending ↔ (∀ fault, ¬ Refused reply steps fault) ∧
      ¬ Expired submission reply ∧ ∀ report, ¬ Reverts submission reply report ∧
        (Succeeds submission reply report →
          (∀ current target, ¬ tracker.Shallow reply report.blockNumber current target) ∧
            ¬ (tracker.Deep reply report.blockNumber ∧ InCanon reply report)) := by
  constructor
  · rintro rfl
    refine ⟨fun fault refused => ?_, fun expired => ?_, fun report => ⟨fun reverts => ?_,
      fun succeeds => ⟨fun current target shallow => ?_, fun ⟨deep, stands⟩ => ?_⟩⟩⟩
    · exact nomatch (course.notFound fault).mpr (.inl refused)
    · exact nomatch (course.notFound _).mpr (.inr ⟨rfl, expired⟩)
    · exact nomatch (course.failed _).mpr ⟨report, reverts, rfl⟩
    · exact nomatch (course.confirming _ _).mpr ⟨report, succeeds, shallow⟩
    · exact nomatch (course.confirmed_iff _).mpr ⟨report, succeeds, deep, stands, rfl⟩
  · rintro ⟨unrefused, unexpired, open_⟩
    match outcome with
    | .error fault =>
        obtain refused | ⟨-, expired⟩ := (course.notFound fault).mp rfl
        · exact absurd refused (unrefused fault)
        · exact absurd expired unexpired
    | .ok .pending => rfl
    | .ok (.failed reason) =>
        obtain ⟨report, reverts, -⟩ := (course.failed reason).mp rfl
        exact absurd reverts (open_ report).1
    | .ok (.confirming current target) =>
        obtain ⟨report, succeeds, shallow⟩ := (course.confirming current target).mp rfl
        exact absurd shallow (((open_ report).2 succeeds).1 current target)
    | .ok (.confirmed record) =>
        obtain ⟨report, succeeds, deep, stands, -⟩ := (course.confirmed_iff record).mp rfl
        exact absurd ⟨deep, stands⟩ ((open_ report).2 succeeds).2

theorem Course.decides (course : tracker.Course submission reply steps outcome) :
    tracker.Decides submission reply steps outcome where
  needed := course.needed
  ordered := course.ordered
  stopped _ _ asked replied := course.stopped asked replied
  notFound := course.notFound
  failed := course.failed
  confirming := course.confirming
  confirmed := course.confirmed_iff
  pending := course.pending

theorem check_decides_by_rule (tracker : Tracker) (submission : Submission)
    (reply : (step : Step) → step.Reply)
    (fits : ∀ report, inclusionReply submission reply = .ok (some report) →
      report.blockNumber + tracker.finality.confirmationBlocks < Checked.limit 64) :
    tracker.Decides submission reply ((tracker.check submission).answered reply).1
      ((tracker.check submission).answered reply).2 := by
  obtain course | ⟨⟨-, report, head, succeeds, -, wide⟩, -⟩ := tracker.check_course submission reply
  · exact course.decides
  · exact absurd (fits report succeeds.1) (Nat.not_lt.mpr wide)

/-- A transaction in the block that was finalized last. -/
def lastFinalized : (step : Step) → step.Reply
  | .ask (.inclusion hash) => Except.ok (some (⟨1, ⟨2⟩, 0, hash, true⟩ : InclusionReport))
  | .ask .finalizedBlockNumber => Except.ok (some 1)
  | .ask (.blockHash _) => Except.ok (some (⟨2⟩ : Hash))
  | .ask _ | .reserve _ _ | .release _ _ => Except.error (.failure .cancelled)
  | .draw _ => ⟨0, Nat.succ_pos _⟩
  | .pause _ | .note _ => ()

theorem check_confirms_last_finalized :
    (∀ report, inclusionReply default lastFinalized = .ok (some report) →
      report.blockNumber + (default : Tracker).finality.confirmationBlocks < Checked.limit 64) ∧
    (((default : Tracker).check default).answered lastFinalized).2 =
      .ok (.confirmed ⟨1, ⟨2⟩, 0, default⟩) := by
  have fits : ∀ report, inclusionReply default lastFinalized = .ok (some report) →
      report.blockNumber + (default : Tracker).finality.confirmationBlocks < Checked.limit 64 := by
    intro report reported
    cases reported
    decide
  refine ⟨fits, ((check_decides_by_rule default default lastFinalized fits).confirmed _).mpr ?_⟩
  exact ⟨⟨1, ⟨2⟩, 0, default, true⟩, ⟨rfl, rfl⟩, ⟨1, rfl, Nat.le_refl 1⟩, rfl, rfl⟩

end Notary.Tracker
