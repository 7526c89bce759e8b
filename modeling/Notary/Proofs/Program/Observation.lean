import Mathlib.Logic.Relation
import Notary.Program

namespace Notary

/-!
Programs that watch something which moves on by itself. Any number of moves can come between two calls
of a program; an answer is true of the moment at which it is given, and a call may fail at any time.
-/

structure Scene (γ : Type) where
  moves : γ → γ → Prop
  answers : γ → (call : Call) → call.Answer → Prop

namespace Scene

variable {γ α β : Type}

/-- The second moment comes after the first one, or is the same. -/
def Later (scene : Scene γ) : γ → γ → Prop :=
  Relation.ReflTransGen scene.moves

theorem Later.refl {scene : Scene γ} {now : γ} : scene.Later now now := Relation.ReflTransGen.refl

/-- The reply is an answer that is true of the moment, or a failure. -/
def Tells (scene : Scene γ) (moment : γ) (call : Call) : call.Reply → Prop
  | .ok answer => scene.answers moment call answer
  | .error _ => True

/-- The program can end with a result, having started at one moment and made its calls at the moments
listed; the last moment is that of its last call. -/
def Runs (scene : Scene γ) : Program α → γ → List (Call × γ) → α → γ → Prop
  | .done value, now, reads, result, last => reads = [] ∧ result = value ∧ last = now
  | .step (.ask call) next, now, reads, result, last =>
      ∃ moment reply rest, scene.Later now moment ∧ scene.Tells moment call reply ∧
        reads = (call, moment) :: rest ∧ scene.Runs (next reply) moment rest result last
  | .step _ next, now, reads, result, last => ∃ reply, scene.Runs (next reply) now reads result last

/-- A call with the moment at which it was answered, and its reply. -/
structure Reading (γ : Type) where
  call : Call
  moment : γ
  reply : call.Reply

/-- A run that also tells what the calls were answered with. -/
def Observes (scene : Scene γ) : Program α → γ → List (Reading γ) → α → γ → Prop
  | .done value, now, readings, result, last => readings = [] ∧ result = value ∧ last = now
  | .step (.ask call) next, now, readings, result, last =>
      ∃ moment reply rest, scene.Later now moment ∧ scene.Tells moment call reply ∧
        readings = ⟨call, moment, reply⟩ :: rest ∧
          scene.Observes (next reply) moment rest result last
  | .step _ next, now, readings, result, last =>
      ∃ reply, scene.Observes (next reply) now readings result last

variable {scene : Scene γ} {now last : γ} {reads : List (Call × γ)} {readings : List (Reading γ)}

theorem runs_iff {program : Program α} {result : α} :
    scene.Runs program now reads result last ↔ ∃ readings : List (Reading γ),
      reads = readings.map (fun reading => (reading.call, reading.moment)) ∧
        scene.Observes program now readings result last := by
  induction program generalizing now reads with
  | done value =>
      constructor
      · rintro ⟨rfl, same, ends⟩
        exact ⟨[], rfl, rfl, same, ends⟩
      · rintro ⟨readings, rfl, rfl, same, ends⟩
        exact ⟨rfl, same, ends⟩
  | step step next ih =>
      cases step with
      | ask call =>
          constructor
          · rintro ⟨moment, reply, rest, later, tells, rfl, goesOn⟩
            obtain ⟨others, rfl, observes⟩ := (ih reply).mp goesOn
            exact ⟨⟨call, moment, reply⟩ :: others, rfl, moment, reply, others, later, tells, rfl,
              observes⟩
          · rintro ⟨readings, rfl, moment, reply, others, later, tells, rfl, observes⟩
            exact ⟨moment, reply, _, later, tells, rfl, (ih reply).mpr ⟨others, rfl, observes⟩⟩
      | reserve | release | pause | draw | note =>
          constructor
          · rintro ⟨reply, goesOn⟩
            obtain ⟨readings, shape, observes⟩ := (ih reply).mp goesOn
            exact ⟨readings, shape, reply, observes⟩
          · rintro ⟨readings, shape, reply, observes⟩
            exact ⟨reply, (ih reply).mpr ⟨readings, shape, observes⟩⟩

theorem Observes.bind {program : Program α} {f : α → Program β} {result : β}
    (observes : scene.Observes (program >>= f) now readings result last) :
    ∃ value middle first rest, scene.Observes program now first value middle ∧
      readings = first ++ rest ∧ scene.Observes (f value) middle rest result last := by
  change scene.Observes (program.bind f) now readings result last at observes
  induction program generalizing now readings with
  | done value => exact ⟨value, now, [], readings, ⟨rfl, rfl, rfl⟩, rfl, observes⟩
  | step step next ih =>
      cases step with
      | ask call =>
          obtain ⟨moment, reply, others, later, tells, rfl, goesOn⟩ := observes
          obtain ⟨value, middle, first, rest, before, rfl, after⟩ := ih reply goesOn
          exact ⟨value, middle, ⟨call, moment, reply⟩ :: first, rest,
            ⟨moment, reply, first, later, tells, rfl, before⟩, rfl, after⟩
      | reserve | release | pause | draw | note =>
          obtain ⟨reply, goesOn⟩ := observes
          obtain ⟨value, middle, first, rest, before, shape, after⟩ := ih reply goesOn
          exact ⟨value, middle, first, rest, ⟨reply, before⟩, shape, after⟩

/-- A task that ends after its first part goes on from the result of that part, or ends with its
fault. -/
theorem Observes.task_bind {task : Task α} {f : α → Task β} {outcome : Except Fault β}
    (observes : scene.Observes (task >>= f).run now readings outcome last) :
    (∃ value middle first rest, scene.Observes task.run now first (.ok value) middle ∧
      readings = first ++ rest ∧ scene.Observes (f value).run middle rest outcome last) ∨
    ∃ fault, outcome = .error fault ∧ scene.Observes task.run now readings (.error fault) last := by
  obtain ⟨value, middle, first, rest, before, shape, after⟩ := Observes.bind observes
  cases value with
  | ok value => exact .inl ⟨value, middle, first, rest, before, shape, after⟩
  | error fault =>
      obtain ⟨rfl, same, rfl⟩ := after
      rw [List.append_nil] at shape
      exact .inr ⟨fault, same, shape ▸ before⟩

theorem Observes.ask {call : Call} {reply : call.Reply}
    (observes : scene.Observes (Task.ask call).run now readings reply last) :
    scene.Later now last ∧ scene.Tells last call reply ∧ readings = [⟨call, last, reply⟩] := by
  obtain ⟨moment, told, rest, later, tells, rfl, rfl, rfl, rfl⟩ := observes
  exact ⟨later, tells, rfl⟩

theorem Runs.bind {program : Program α} {f : α → Program β} {result : β}
    (runs : scene.Runs (program >>= f) now reads result last) : ∃ value middle first rest,
      scene.Runs program now first value middle ∧ reads = first ++ rest ∧
        scene.Runs (f value) middle rest result last := by
  obtain ⟨readings, rfl, observes⟩ := runs_iff.mp runs
  obtain ⟨value, middle, first, rest, before, rfl, after⟩ := observes.bind
  exact ⟨value, middle, _, _, runs_iff.mpr ⟨first, rfl, before⟩, List.map_append,
    runs_iff.mpr ⟨rest, rfl, after⟩⟩

/-- A task that ends with a result after its first part ends that part with one. -/
theorem Runs.task_bind {task : Task α} {f : α → Task β} {result : β}
    (runs : scene.Runs (task >>= f).run now reads (.ok result) last) : ∃ value middle first rest,
      scene.Runs task.run now first (.ok value) middle ∧ reads = first ++ rest ∧
        scene.Runs (f value).run middle rest (.ok result) last := by
  obtain ⟨outcome, middle, first, rest, before, shape, after⟩ := Runs.bind runs
  cases outcome with
  | ok value => exact ⟨value, middle, first, rest, before, shape, after⟩
  | error fault => exact nomatch after.2.1

theorem Runs.ask {call : Call} {answer : call.Answer}
    (runs : scene.Runs (Task.ask call).run now reads (.ok answer) last) :
    scene.Later now last ∧ scene.answers last call answer ∧ reads = [(call, last)] := by
  obtain ⟨moment, reply, rest, later, tells, rfl, rfl, rfl, rfl⟩ := runs
  exact ⟨later, tells, rfl⟩

end Scene

end Notary
