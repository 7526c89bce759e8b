import Notary.Program

namespace Notary

/-!
What a program does whatever its steps are answered with. A discipline goes from phase to phase with
the answers and allows some steps in each; a program keeps it if it takes no step that its phase does
not allow.
-/

structure Discipline (τ : Type) where
  allows : τ → Step → Prop
  after : τ → (step : Step) → step.Reply → τ

/-- Two disciplines at once. -/
def Discipline.both {τ υ : Type} (first : Discipline τ) (second : Discipline υ) :
    Discipline (τ × υ) where
  allows phases step := first.allows phases.1 step ∧ second.allows phases.2 step
  after phases step reply :=
    (first.after phases.1 step reply, second.after phases.2 step reply)

namespace Program

variable {α β τ : Type} {discipline : Discipline τ} {phase : τ}

/-- The program keeps the discipline from a phase on, and ends with what is asked of its result. -/
def Keeps (discipline : Discipline τ) (post : τ → α → Prop) : τ → Program α → Prop
  | phase, done result => post phase result
  | phase, step s next =>
      discipline.allows phase s ∧
        ∀ reply, (next reply).Keeps discipline post (discipline.after phase s reply)

@[simp] theorem keeps_pure {post : τ → α → Prop} {result : α} :
    (pure result : Program α).Keeps discipline post phase ↔ post phase result := Iff.rfl

theorem keeps_step {post : τ → α → Prop} {s : Step} {next : s.Reply → Program α} :
    (step s next).Keeps discipline post phase ↔ discipline.allows phase s ∧
      ∀ reply, (next reply).Keeps discipline post (discipline.after phase s reply) := Iff.rfl

@[simp] theorem keeps_bind {post : τ → β → Prop} {program : Program α} {f : α → Program β} :
    (program >>= f).Keeps discipline post phase ↔
      program.Keeps discipline (fun phase result => (f result).Keeps discipline post phase) phase := by
  change (program.bind f).Keeps discipline post phase ↔ _
  induction program generalizing phase with
  | done result => rfl
  | step s next ih =>
      simp only [bind, keeps_step]
      exact and_congr_right fun _ => forall_congr' fun reply => ih reply

theorem Keeps.mono {weak strong : τ → α → Prop} {program : Program α}
    (kept : program.Keeps discipline strong phase)
    (weaker : ∀ phase result, strong phase result → weak phase result) :
    program.Keeps discipline weak phase := by
  induction program generalizing phase with
  | done result => exact weaker phase result kept
  | step s next ih => exact ⟨kept.1, fun reply => ih reply (kept.2 reply)⟩

theorem Keeps.both {υ : Type} {other : Discipline υ} {beside : υ} {post : τ → α → Prop}
    {postBeside : υ → α → Prop} {program : Program α} (kept : program.Keeps discipline post phase)
    (keptBeside : program.Keeps other postBeside beside) :
    program.Keeps (discipline.both other)
      (fun phases result => post phases.1 result ∧ postBeside phases.2 result) (phase, beside) := by
  induction program generalizing phase beside with
  | done result => exact ⟨kept, keptBeside⟩
  | step s next ih =>
      refine ⟨⟨kept.1, keptBeside.1⟩, fun reply => ?_⟩
      exact ih reply (kept.2 reply) (keptBeside.2 reply)

end Program

namespace Task

variable {α β τ : Type} {discipline : Discipline τ} {phase : τ} {post : τ → Except Fault α → Prop}

/-- The task keeps the discipline, and ends with what is asked of its outcome. -/
def Keeps (discipline : Discipline τ) (post : τ → Except Fault α → Prop) (phase : τ)
    (task : Task α) : Prop :=
  task.run.Keeps discipline post phase

@[simp] theorem keeps_pure {result : α} :
    Keeps discipline post phase (pure result) ↔ post phase (.ok result) := Iff.rfl

@[simp] theorem keeps_settled {outcome : Except Fault α} :
    Keeps discipline post phase (settled outcome) ↔ post phase outcome := Iff.rfl

/-- What a task must end with so that another one can go on from its result. -/
def goesOn (discipline : Discipline τ) (post : τ → Except Fault β → Prop) (f : α → Task β)
    (phase : τ) : Except Fault α → Prop
  | .ok result => Keeps discipline post phase (f result)
  | .error fault => post phase (.error fault)

@[simp] theorem goesOn_ok {post : τ → Except Fault β → Prop} {f : α → Task β} {result : α} :
    goesOn discipline post f phase (.ok result) ↔ Keeps discipline post phase (f result) := Iff.rfl

@[simp] theorem keeps_bind {post : τ → Except Fault β → Prop} {task : Task α} {f : α → Task β} :
    Keeps discipline post phase (task >>= f) ↔
      Keeps discipline (goesOn discipline post f) phase task := by
  unfold Keeps
  refine Program.keeps_bind.trans (iff_of_eq ?_)
  congr 1
  funext phase outcome
  cases outcome <;> rfl

@[simp] theorem keeps_ask {call : Call} {post : τ → call.Reply → Prop} :
    Keeps discipline post phase (ask call) ↔ discipline.allows phase (.ask call) ∧
      ∀ reply : call.Reply, post (discipline.after phase (.ask call) reply) reply := Iff.rfl

@[simp] theorem keeps_reserve {account : Address} {floor : Nat}
    {post : τ → Except Fault Nat → Prop} :
    Keeps discipline post phase (reserve account floor) ↔
      discipline.allows phase (.reserve account floor) ∧ ∀ reply : Except Fault Nat,
        post (discipline.after phase (.reserve account floor) reply) reply := Iff.rfl

@[simp] theorem keeps_release {account : Address} {nonce : Nat}
    {post : τ → Except Fault Bool → Prop} :
    Keeps discipline post phase (release account nonce) ↔
      discipline.allows phase (.release account nonce) ∧ ∀ reply : Except Fault Bool,
        post (discipline.after phase (.release account nonce) reply) reply := Iff.rfl

@[simp] theorem keeps_draw {most : Nat} {post : τ → Except Fault (Fin (most + 1)) → Prop} :
    Keeps discipline post phase (draw most) ↔ discipline.allows phase (.draw most) ∧
      ∀ reply : Fin (most + 1), post (discipline.after phase (.draw most) reply) (.ok reply) := Iff.rfl

@[simp] theorem keeps_note {metric : Metric} {post : τ → Except Fault Unit → Prop} :
    Keeps discipline post phase (note metric) ↔ discipline.allows phase (.note metric) ∧
      ∀ reply : Unit, post (discipline.after phase (.note metric) reply) (.ok ()) := Iff.rfl

@[simp] theorem keeps_ofResult {result : Except Error α} :
    Keeps discipline post phase (ofResult result) ↔ post phase (result.mapError .failure) := by
  cases result <;> rfl

@[simp] theorem keeps_attempt {post : τ → Except Fault (Except Fault α) → Prop} {task : Task α} :
    Keeps discipline post phase task.attempt ↔
      Keeps discipline (fun phase outcome => post phase (.ok outcome)) phase task :=
  Program.keeps_bind

/-- An outcome with its failure changed; a breakdown stays as it is. -/
def changed (change : Error → Error) : Except Fault α → Except Fault α
  | .error (.failure e) => .error (.failure (change e))
  | outcome => outcome

@[simp] theorem keeps_mapFailure {change : Error → Error} {task : Task α} :
    Keeps discipline post phase (task.mapFailure change) ↔
      Keeps discipline (fun phase outcome => post phase (changed change outcome)) phase task := by
  unfold mapFailure
  rw [keeps_bind, keeps_attempt]
  unfold Keeps
  refine iff_of_eq ?_
  congr 1
  funext phase outcome
  cases outcome with
  | ok result => rfl
  | error fault => cases fault <;> rfl

theorem Keeps.mono {weak strong : τ → Except Fault α → Prop} {task : Task α}
    (kept : Keeps discipline strong phase task)
    (weaker : ∀ phase outcome, strong phase outcome → weak phase outcome) :
    Keeps discipline weak phase task :=
  Program.Keeps.mono kept weaker

end Task

end Notary
