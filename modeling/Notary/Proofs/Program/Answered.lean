import Notary.Program

namespace Notary

/-!
What a program does if each step has one reply, whenever it is taken. A program that takes no step
twice does under all replies what it does under those that are given in this way.
-/

variable {α β : Type} {reply : (step : Step) → step.Reply}

/-- The steps that a program takes, and its result. -/
def Program.answered (reply : (step : Step) → step.Reply) : Program α → List Step × α
  | .done result => ([], result)
  | .step s next =>
      let rest := answered reply (next (reply s))
      (s :: rest.1, rest.2)

theorem Program.answered_bind (program : Program α) (f : α → Program β) :
    (program >>= f).answered reply =
      ((program.answered reply).1 ++ ((f (program.answered reply).2).answered reply).1,
        ((f (program.answered reply).2).answered reply).2) := by
  change (program.bind f).answered reply = _
  induction program with
  | done result => rfl
  | step s next ih => simp only [bind, answered, ih, List.cons_append]

namespace Task

/-- The steps that a task takes, and how it ends. -/
def answered (reply : (step : Step) → step.Reply) (task : Task α) : List Step × Except Fault α :=
  task.run.answered reply

variable {task : Task α} {result : α} {steps rest : List Step} {outcome : Except Fault β}

theorem answered_fail {e : Error} :
    (fail e : Task α).answered reply = ([], .error (.failure e)) := rfl

theorem answered_ask {call : Call} {answer : call.Reply} (replied : reply (.ask call) = answer) :
    (ask call).answered reply = ([.ask call], answer) := by
  rw [← replied]
  rfl

theorem answered_bind {f : α → Task β} (first : task.answered reply = (steps, .ok result))
    (second : (f result).answered reply = (rest, outcome)) :
    (task >>= f).answered reply = (steps ++ rest, outcome) := by
  have first : task.run.answered reply = (steps, .ok result) := first
  have second : (f result).run.answered reply = (rest, outcome) := second
  refine (Program.answered_bind task.run _).trans ?_
  rw [first]
  change (steps ++ ((f result).run.answered reply).1, ((f result).run.answered reply).2) = _
  rw [second]

theorem answered_bind_error {f : α → Task β} {fault : Fault}
    (failed : task.answered reply = (steps, .error fault)) :
    (task >>= f).answered reply = (steps, .error fault) := by
  have failed : task.run.answered reply = (steps, .error fault) := failed
  refine (Program.answered_bind task.run _).trans ?_
  rw [failed]
  exact Prod.ext (List.append_nil steps) rfl

theorem answered_attempt {ended : Except Fault α} (taken : task.answered reply = (steps, ended)) :
    task.attempt.answered reply = (steps, .ok ended) := by
  have taken : task.run.answered reply = (steps, ended) := taken
  refine (Program.answered_bind task.run _).trans ?_
  rw [taken]
  exact Prod.ext (List.append_nil steps) rfl

theorem answered_mapFailure {change : Error → Error} (done : task.answered reply = (steps, .ok result)) :
    (task.mapFailure change).answered reply = (steps, .ok result) := by
  rw [← List.append_nil steps]
  exact answered_bind (answered_attempt done) rfl

end Task

end Notary
