import Notary.Proofs.Program.Discipline

namespace Notary

/-!
Programs that break down only if one of their steps does. Such a program takes no step after one that
broke down, and nothing that it works out by itself breaks down.
-/

variable {α β : Type}

def BreaksDown : Except Fault α → Prop
  | .error (.breakdown _) => True
  | _ => False

@[simp] theorem breaksDown_ok {result : α} : BreaksDown (.ok result) ↔ False := Iff.rfl

@[simp] theorem breaksDown_failure {e : Error} :
    BreaksDown (.error (.failure e) : Except Fault α) ↔ False := Iff.rfl

@[simp] theorem breaksDown_breakdown {message : Option String} :
    BreaksDown (.error (.breakdown message) : Except Fault α) ↔ True := Iff.rfl

theorem breaksDown_iff {outcome : Except Fault α} :
    BreaksDown outcome ↔ ∃ message, outcome = .error (.breakdown message) := by
  rcases outcome with (e | message) | result <;> simp

/-- The reply to a step is that it broke down. -/
def Step.Breaks : (step : Step) → step.Reply → Prop
  | .ask _, reply => BreaksDown reply
  | .reserve _ _, reply => BreaksDown reply
  | .release _ _, reply => BreaksDown reply
  | .pause _, _ | .draw _, _ | .note _, _ => False

/-- The phase tells whether a step has broken down. -/
def Discipline.firm : Discipline Prop where
  allows broken _ := ¬ broken
  after broken step reply := broken ∨ step.Breaks reply

namespace Task

/-- The task breaks down just if a step does, and takes no other step then. -/
def Firm (task : Task α) : Prop :=
  task.Keeps .firm (fun broken outcome => broken ↔ BreaksDown outcome) False

variable {task : Task α}

theorem settled_bind {result : α} {f : α → Task β} : (settled (.ok result) >>= f) = f result := rfl

theorem firm_pure {result : α} : (pure result : Task α).Firm := Iff.rfl

theorem firm_fail {e : Error} : (fail e : Task α).Firm := Iff.rfl

theorem firm_ofResult {result : Except Error α} : (ofResult result).Firm := by
  cases result <;> exact Iff.rfl

theorem firm_ask {call : Call} : (ask call).Firm :=
  keeps_ask.mpr ⟨not_false, fun _ => iff_of_eq (false_or _)⟩

theorem firm_reserve {account : Address} {floor : Nat} : (reserve account floor).Firm :=
  keeps_reserve.mpr ⟨not_false, fun _ => iff_of_eq (false_or _)⟩

theorem firm_release {account : Address} {nonce : Nat} : (release account nonce).Firm :=
  keeps_release.mpr ⟨not_false, fun _ => iff_of_eq (false_or _)⟩

theorem firm_note {metric : Metric} : (note metric).Firm :=
  keeps_note.mpr ⟨not_false, fun _ => iff_of_eq (false_or _)⟩

/-- A task that goes on only from outcomes that are no breakdowns, and passes those on. -/
theorem Firm.attempt_bind {f : Except Fault α → Task β} (firm : task.Firm)
    (later : ∀ outcome, ¬ BreaksDown outcome → (f outcome).Firm)
    (passes : ∀ message, f (.error (.breakdown message)) = throw (.breakdown message)) :
    (task.attempt >>= f).Firm := by
  refine keeps_bind.mpr (keeps_attempt.mpr (Keeps.mono firm fun broken outcome told => ?_))
  refine goesOn_ok.mpr ?_
  by_cases broke : BreaksDown outcome
  · obtain ⟨message, rfl⟩ := breaksDown_iff.mp broke
    rw [passes]
    exact told
  · have unbroken : broken = False := propext (told.trans (iff_false_intro broke))
    rw [unbroken]
    exact later outcome broke

theorem Firm.bind {f : α → Task β} (firm : task.Firm) (later : ∀ result, (f result).Firm) :
    (task >>= f).Firm := by
  refine keeps_bind.mpr (Keeps.mono firm fun broken outcome told => ?_)
  cases outcome with
  | error fault => cases fault <;> exact told
  | ok result =>
      have unbroken : broken = False := propext told
      rw [unbroken]
      exact later result

theorem Firm.mapFailure (firm : task.Firm) (change : Error → Error) :
    (task.mapFailure change).Firm := by
  refine keeps_mapFailure.mpr (Keeps.mono firm fun broken outcome told => ?_)
  rcases outcome with (e | message) | result <;> exact told

end Task

end Notary
