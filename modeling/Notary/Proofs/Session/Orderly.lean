import Notary.Proofs.Session.Hall

namespace Notary

/-!
What happens in a hall. A case that someone has for itself is open and nobody else has it, so that it is
settled once; and whatever happens, a cancel signal stays given and an outcome stays as it is.
-/

namespace Docket

variable {σ : Type} {docket after : Docket σ} {number : Nat}

/-- The cases go on with their signals, and with their states but for one that was open. -/
structure GoesOn (settled : Option Nat) (docket after : Docket σ) : Prop where
  kept : ∀ (number : Nat) (found : Submission.Case), docket.cases[number]? = some found →
    ∃ later, after.cases[number]? = some later ∧
      (found.cancelled = true → later.cancelled = true) ∧
      (settled ≠ some number → later.state = found.state)
  sent : ∀ number, settled = some number → docket.state number = .ok .sent

theorem goesOn_of_cases (same : after.cases = docket.cases) : GoesOn none docket after where
  kept := fun _ found stored => ⟨found, same ▸ stored, id, fun _ => rfl⟩
  sent := nofun

theorem goesOn_of_push (submission : Submission)
    (pushed : after.cases = docket.cases.push (Submission.opened submission)) :
    GoesOn none docket after where
  sent := nofun
  kept := by
    intro number found stored
    have inside := (Array.getElem?_eq_some_iff.mp stored).1
    refine ⟨found, ?_, id, fun _ => rfl⟩
    rw [pushed, Array.getElem?_push, if_neg (by omega), stored]

theorem goesOn_of_cancel (same : after.cases = (docket.cancel number).cases) :
    GoesOn none docket after where
  sent := nofun
  kept := by
    intro other found stored
    rw [same, cancel, Array.getElem?_modify, stored]
    split
    · exact ⟨_, rfl, fun _ => rfl, fun _ => rfl⟩
    · exact ⟨_, rfl, id, fun _ => rfl⟩

theorem goesOn_of_setState {state : Submission.State} (sent : docket.state number = .ok .sent)
    (same : after.cases = (docket.setState number state).cases) :
    GoesOn (some number) docket after where
  sent := by
    intro other same
    cases same
    exact sent
  kept := by
    intro other found stored
    rw [same, setState, Array.getElem?_modify, stored]
    split
    · next here => exact ⟨_, rfl, id, fun unsettled => absurd (congrArg some here) unsettled⟩
    · exact ⟨_, rfl, id, fun _ => rfl⟩

theorem settle_cases (number : Nat) (result : Except Fault FinalityRecord) :
    (docket.settle number result).2.cases = docket.cases ∨
      ∃ state, (docket.settle number result).2.cases = (docket.setState number state).cases := by
  unfold settle
  rcases result with (e | message) | record
  · simp only
    split
    · exact .inr ⟨_, rfl⟩
    · exact .inl rfl
  · exact .inl rfl
  · simp only
    split
    · exact .inl rfl
    · exact .inr ⟨_, rfl⟩

theorem goesOn_of_settle (result : Except Fault FinalityRecord)
    (sent : docket.state number = .ok .sent)
    (same : after.cases = ((docket.noted result).settle number result).2.cases) :
    GoesOn (some number) docket after := by
  obtain kept | ⟨state, settled⟩ := (docket.noted result).settle_cases number result
  · refine ⟨fun other found stored => ?_, fun other this => ?_⟩
    · exact ⟨found, by rw [same, kept]; exact stored, id, fun _ => rfl⟩
    · cases this
      exact sent
  · exact goesOn_of_setState sent (same.trans settled)

namespace GoesOn

variable {settled : Option Nat} {state : Submission.State}

theorem signalled (goesOn : GoesOn settled docket after) (signal : docket.signalled number = true) :
    after.signalled number = true := by
  unfold Docket.signalled at signal
  cases stored : docket.cases[number]? with
  | none => simp [stored] at signal
  | some found =>
      simp only [stored] at signal
      obtain ⟨later, here, stays, -⟩ := goesOn.kept number found stored
      simp only [Docket.signalled, here, stays signal]

/-- What is settled stays as it is. -/
theorem outcome (goesOn : GoesOn settled docket after) (stands : docket.state number = .ok state)
    (unsent : state ≠ .sent) : after.state number = .ok state := by
  obtain ⟨found, stored, same⟩ := state_eq_ok.mp stands
  obtain ⟨later, here, -, kept⟩ := goesOn.kept number found stored
  refine state_eq_ok.mpr ⟨later, here, (kept fun opens => ?_).trans same⟩
  have sent := stands.symm.trans (goesOn.sent number opens)
  exact unsent (Except.ok.inj sent)

end GoesOn

end Docket

namespace Hall

variable {σ : Type} {hall after : Hall σ} {index number : Nat} {errand next : Errand σ}

theorem occupied_add : occupied (hall.add errand) = hall.occupied ++ errand.case?.toList := by
  simp only [occupied, Desk.add, List.filterMap_append, List.filterMap_cons, List.filterMap_nil]
  cases errand.case? <;> rfl

/-- An errand that changes gives up the case that it had, and has another one. -/
theorem occupied_put (here : hall.errands[index]? = some errand) (next : Errand σ) :
    ∃ early late, hall.occupied = early ++ errand.case?.toList ++ late ∧
      occupied (hall.put index next) = early ++ next.case?.toList ++ late := by
  obtain ⟨inRange, same⟩ := List.getElem?_eq_some_iff.mp here
  have split : hall.errands = hall.errands.take index ++ errand :: hall.errands.drop (index + 1) := by
    rw [← same, List.getElem_cons_drop, List.take_append_drop]
  refine ⟨(hall.errands.take index).filterMap Errand.case?,
    (hall.errands.drop (index + 1)).filterMap Errand.case?, ?_, ?_⟩
  · unfold occupied
    conv_lhs => rw [split]
    rw [List.filterMap_append, List.filterMap_cons]
    cases errand.case? <;> simp
  · unfold occupied Desk.put
    rw [List.set_eq_take_append_cons_drop, if_pos inRange, List.filterMap_append,
      List.filterMap_cons]
    cases next.case? <;> simp

theorem mem_occupied {stage : Stage σ (Except Fault FinalityRecord)}
    (here : hall.errands[index]? = some (.resolving number stage)) : number ∈ hall.occupied :=
  List.mem_filterMap.mpr ⟨_, List.mem_of_getElem? here, rfl⟩

/-- Every case that someone has for itself is open, and nobody else has it. -/
structure Orderly (hall : Hall σ) : Prop where
  sent : ∀ number ∈ hall.occupied, hall.docket.state number = .ok .sent
  alone : hall.occupied.Nodup

theorem opened_orderly (endpoint : String) (tracker : Tracker) (capacity : Nat) (state : σ) :
    (opened endpoint tracker capacity state).Orderly where
  sent := fun _ => nofun
  alone := List.nodup_nil

/-- What an act leaves of an orderly hall. -/
def Follows (hall after : Hall σ) : Prop :=
  (∃ settled, Docket.GoesOn settled hall.docket after.docket) ∧ after.Orderly

/-- Who has a case goes on to have it, unless the case is settled. -/
theorem Orderly.follows {settled : Option Nat} (orderly : hall.Orderly)
    (goesOn : Docket.GoesOn settled hall.docket after.docket)
    (fewer : after.occupied.Sublist hall.occupied)
    (left : ∀ number, settled = some number → number ∉ after.occupied) : hall.Follows after := by
  refine ⟨⟨settled, goesOn⟩, fun number had => ?_, orderly.alone.sublist fewer⟩
  obtain ⟨found, stored, sent⟩ := Docket.state_eq_ok.mp (orderly.sent number (fewer.subset had))
  obtain ⟨later, here, -, same⟩ := goesOn.kept number found stored
  exact Docket.state_eq_ok.mpr ⟨later, here, (same fun this => left number this had).trans sent⟩

/-- An act that settles nothing. -/
theorem Orderly.quiet (orderly : hall.Orderly)
    (goesOn : Docket.GoesOn none hall.docket after.docket)
    (occupied : after.occupied = hall.occupied) : hall.Follows after :=
  orderly.follows goesOn (occupied ▸ List.Sublist.refl _) nofun

theorem Orderly.same (orderly : hall.Orderly) : hall.Follows hall :=
  orderly.quiet (Docket.goesOn_of_cases rfl) rfl

theorem occupied_put_same (here : hall.errands[index]? = some errand)
    (same : next.case? = errand.case?) : occupied (hall.put index next) = hall.occupied := by
  obtain ⟨early, late, before, later⟩ := occupied_put here next
  rw [before, later, same]

theorem Orderly.go {α : Type} (orderly : hall.Orderly) (ledger : Ledger σ) {stage : Stage σ α}
    {goesOn : Stage σ α → Errand σ} (here : hall.errands[index]? = some (goesOn stage))
    (same : ∀ next, (goesOn next).case? = (goesOn stage).case?) :
    hall.Follows (hall.go ledger index stage goesOn).2 :=
  orderly.quiet (Docket.goesOn_of_cases rfl) (occupied_put_same here (same _))

/-- Whoever has a case gives it up when it is settled. -/
theorem Orderly.frees (orderly : hall.Orderly) {stage : Stage σ (Except Fault FinalityRecord)}
    (here : hall.errands[index]? = some (.resolving number stage)) :
    (occupied (hall.put index .ended)).Sublist hall.occupied ∧
      number ∉ occupied (hall.put index .ended) := by
  obtain ⟨early, late, had, left⟩ := occupied_put here .ended
  have alone := orderly.alone
  simp only [Errand.case?, Option.toList_some, Option.toList_none, List.append_nil] at had left
  rw [had, List.append_assoc, List.singleton_append, List.nodup_middle, List.nodup_cons] at alone
  rw [had, left, List.append_assoc]
  exact ⟨(List.sublist_append_right _ _).append_left early, alone.1⟩

theorem Orderly.settle (orderly : hall.Orderly) {stage : Stage σ (Except Fault FinalityRecord)}
    (here : hall.errands[index]? = some (.resolving number stage))
    (result : Except Fault FinalityRecord) : hall.Follows (hall.settle index number result).2 := by
  have sent := orderly.sent number (mem_occupied here)
  obtain ⟨fewer, free⟩ := orderly.frees here
  refine orderly.follows (Docket.goesOn_of_settle result sent rfl) fewer fun other same => ?_
  cases same
  exact free

theorem Orderly.file (orderly : hall.Orderly) {stage : Stage σ (Except Fault Submission)}
    (here : hall.errands[index]? = some (.submitting stage)) (submission : Submission) :
    hall.Follows (hall.file index submission fun _ => .ended) :=
  orderly.quiet (Docket.goesOn_of_push submission rfl) (occupied_put_same here rfl)

theorem Orderly.begin (orderly : hall.Orderly)
    (here : hall.errands[index]? = some (.queued number)) (free : number ∉ hall.occupied)
    (sent : hall.docket.state number = .ok .sent) (stage : Stage σ (Except Fault FinalityRecord)) :
    hall.Follows (hall.put index (.resolving number stage)) := by
  obtain ⟨early, late, before, later⟩ := occupied_put here (.resolving number stage)
  simp only [Errand.case?, Option.toList_none, Option.toList_some, List.append_nil,
    List.append_assoc, List.singleton_append] at before later
  refine ⟨⟨none, Docket.goesOn_of_cases rfl⟩, fun other had => ?_, ?_⟩
  · rw [later, List.mem_append, List.mem_cons] at had
    obtain first | rfl | second := had
    · exact orderly.sent other (by simp [before, first])
    · exact sent
    · exact orderly.sent other (by simp [before, second])
  · rw [later, List.nodup_middle, List.nodup_cons, ← before]
    exact ⟨free, orderly.alone⟩

/-- Whoever enters a case that nobody has begins to wait for it, or is answered at once. -/
theorem Orderly.enter (orderly : hall.Orderly) (ledger : Ledger σ)
    (here : hall.errands[index]? = some (.queued number)) (free : number ∉ hall.occupied) :
    hall.Follows (hall.enter ledger index number).2 := by
  unfold Hall.enter
  cases pending : hall.docket.pending? number with
  | some submission =>
      obtain ⟨found, stored, sent, -, -⟩ := Docket.pending?_eq_some pending
      exact orderly.begin here free (Docket.state_eq_ok.mpr ⟨found, stored, sent⟩) _
  | none =>
      by_cases sent : hall.docket.state number = .ok .sent
      · simp only [Docket.resolve_of_cancelled ledger none sent (Docket.signalled_of_idle pending sent)]
        have occupied : Hall.occupied (hall.put index .ended) = hall.occupied :=
          occupied_put_same here rfl
        refine orderly.follows (Docket.goesOn_of_setState sent rfl)
          (occupied ▸ List.Sublist.refl _) fun other same => ?_
        cases same
        exact occupied ▸ free
      · obtain ⟨answer, answered⟩ := Docket.resolve_of_not_sent sent
        simp only [answered]
        exact orderly.quiet (Docket.goesOn_of_cases rfl) (occupied_put_same here rfl)

theorem Orderly.request (orderly : hall.Orderly) (ledger : Ledger σ)
    (request : Session.Request σ) : hall.Follows (hall.request ledger request) := by
  have shared : hall.Follows (Desk.request ledger hall request) := by
    obtain ⟨quick, answered⟩ | idle := Desk.request_cases request
    · rw [answered]
      obtain ⟨-, -, cases⟩ := Session.answer_quick ledger quick
      obtain cases | ⟨number, cases⟩ := cases
      · exact orderly.quiet (Docket.goesOn_of_cases cases) rfl
      · exact orderly.quiet (Docket.goesOn_of_cancel cases) rfl
    · rw [idle]
      exact orderly.same
  cases request with
  | ledger change => exact orderly.quiet (Docket.goesOn_of_cases rfl) rfl
  | _ => exact shared

theorem Orderly.advance (orderly : hall.Orderly) (ledger : Ledger σ) (index : Nat) :
    hall.Follows (hall.advance ledger index).2 := by
  unfold Hall.advance
  cases here : hall.errands[index]? with
  | none => exact orderly.same
  | some errand =>
      cases errand with
      | queued | ended => exact orderly.same
      | submitting stage =>
          rcases stage with (⟨fault | submission⟩ | ⟨step, next⟩) | resume
          · exact orderly.go ledger here fun _ => rfl
          · exact orderly.file here submission
          · exact orderly.go ledger here fun _ => rfl
          · exact orderly.go ledger here fun _ => rfl
      | resolving number stage =>
          rcases stage with (result | ⟨step, next⟩) | resume
          · exact orderly.settle here result
          · exact orderly.go ledger here fun _ => rfl
          · exact orderly.go ledger here fun _ => rfl

theorem Orderly.interrupt (orderly : hall.Orderly) (index : Nat) (cancelled : Bool) :
    hall.Follows (hall.interrupt index cancelled).2 := by
  unfold Hall.interrupt
  split
  · exact orderly.same
  · next here =>
      unfold Hall.breakOff
      split
      · exact orderly.same
      · exact orderly.settle here _
      · exact orderly.settle here _
  · exact orderly.same

/-- Whatever happens in an orderly hall, cases go on with their signals and their outcomes. -/
theorem Orderly.act (orderly : hall.Orderly) (ledger : Ledger σ) (act : Act σ) :
    hall.Follows (hall.act ledger act).2 := by
  cases act with
  | submit word payload options =>
      simp only [Hall.act]
      split
      · exact orderly.same
      · exact orderly.quiet (Docket.goesOn_of_cases rfl) (occupied_add.trans (List.append_nil _))
  | call word =>
      simp only [Hall.act]
      split
      · exact orderly.same
      · exact orderly.quiet (Docket.goesOn_of_cases rfl) (occupied_add.trans (List.append_nil _))
  | callBy number =>
      exact orderly.quiet (Docket.goesOn_of_cases rfl) (occupied_add.trans (List.append_nil _))
  | grant index =>
      simp only [Hall.act, Hall.grant]
      split
      · next number here =>
          split
          · exact orderly.same
          · next free => exact orderly.enter ledger here free
      · exact orderly.same
  | advance index => exact orderly.advance ledger index
  | interrupt index cancelled => exact orderly.interrupt index cancelled
  | request request => exact orderly.request ledger request

/-! Turns of a run. -/

/-- Turns that follow each other over a ledger. -/
abbrev Turns (ledger : Ledger σ) : Hall σ → List (Turn σ) → Hall σ → Prop :=
  Schedule.Turns (act ledger)

variable {ledger : Ledger σ} {turns : List (Turn σ)} {last : Hall σ}

theorem Orderly.acted {turn : Turn σ} (orderly : turn.before.Orderly)
    (acted : turn.before.act ledger turn.act = (turn.event, turn.after)) :
    turn.before.Follows turn.after := by
  have follows := orderly.act ledger turn.act
  rwa [acted] at follows

theorem Turns.orderly (happened : Turns ledger hall turns last) (orderly : hall.Orderly) :
    last.Orderly := by
  induction happened with
  | nil => exact orderly
  | cons turn acted goesOn ih => exact ih (Orderly.acted orderly acted).2

/-- A turn of a run from an orderly hall leaves an orderly hall, from which the rest goes on. -/
theorem Turns.reach {early late : List (Turn σ)} {turn : Turn σ}
    (happened : Turns ledger hall (early ++ turn :: late) last) (orderly : hall.Orderly) :
    Turns ledger hall early turn.before ∧
      turn.before.act ledger turn.act = (turn.event, turn.after) ∧ turn.after.Orderly ∧
      Turns ledger turn.after late last := by
  obtain ⟨before, acted, goesOn⟩ := Schedule.Turns.reach happened
  exact ⟨before, acted, (Orderly.acted (Turns.orderly before orderly) acted).2, goesOn⟩

theorem Turns.signalled (happened : Turns ledger hall turns last) (orderly : hall.Orderly)
    (signal : hall.docket.signalled number = true) : last.docket.signalled number = true := by
  induction happened with
  | nil => exact signal
  | cons turn acted goesOn ih =>
      obtain ⟨⟨settled, kept⟩, orderly⟩ := Orderly.acted orderly acted
      exact ih orderly (kept.signalled signal)

end Hall

end Notary
