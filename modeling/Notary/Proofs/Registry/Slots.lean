import Mathlib.Algebra.BigOperators.Group.Finset.Piecewise
import Mathlib.Algebra.Order.BigOperators.Group.Finset
import Notary.Proofs.Registry.Arena

namespace Notary.Arena

/-!
What becomes of the slots of a table. Each slot holds a value, waits in the free list or is retired; it
is retired when it is emptied for the last time that its generation allows, and counts against the
capacity for ever after.
-/

variable {α : Type}

/-- The value in a slot, if there is one. -/
def content (arena : Arena α) (index : Nat) : Option α :=
  arena.slots[index]?.bind Slot.value

/-- The slots that hold a value which passes a test. -/
def holding (arena : Arena α) (test : α → Bool) : Finset Nat :=
  {index ∈ Finset.range arena.slots.size | (arena.content index).any test}

def occupied (arena : Arena α) : Finset Nat :=
  arena.holding fun _ => true

/-- The slots that are vacant and do not wait to be used. -/
def retired (arena : Arena α) : Finset Nat :=
  {index ∈ Finset.range arena.slots.size | (arena.content index).isNone ∧ index ∉ arena.free}

inductive Operation (α : Type) where
  | insert (value : α)
  | get (handle : Handle)
  | contains (handle : Handle)
  | remove (handle : Handle)
  | size

@[reducible] def Operation.Reply : Operation α → Type
  | insert _ => Option Handle
  | get _ => Option α
  | contains _ => Bool
  | remove _ => Option α
  | size => Nat

def answer (arena : Arena α) : (operation : Operation α) → operation.Reply × Arena α
  | .insert value => arena.insert value
  | .get handle => (arena.get? handle, arena)
  | .contains handle => (arena.contains handle, arena)
  | .remove handle => arena.remove handle
  | .size => (arena.size, arena)

structure Event (α : Type) where
  operation : Operation α
  reply : operation.Reply

namespace Event

/-- The operation stored a value. -/
def stores : Event α → Bool
  | ⟨.insert _, some _⟩ => true
  | _ => false

/-- The slot that the operation emptied. -/
def emptied? : Event α → Option Nat
  | ⟨.remove handle, some _⟩ => some handle.index
  | _ => none

end Event

/-- Performs operations one after the other: the history of them, and the table they leave. -/
def run (arena : Arena α) : List (Operation α) → List (Event α) × Arena α
  | [] => ([], arena)
  | operation :: rest =>
      let (reply, after) := arena.answer operation
      let (history, last) := run after rest
      (⟨operation, reply⟩ :: history, last)

/-- How many values were stored. -/
def stored (history : List (Event α)) : Nat :=
  history.countP Event.stores

/-- The slots that were emptied, each as often as it was. -/
def emptied (history : List (Event α)) : List Nat :=
  history.filterMap Event.emptied?

variable {arena after : Arena α} {handle : Handle} {value : α} {test : α → Bool} {index room : Nat}

theorem slot_cases (inside : index < arena.slots.size) :
    (∃ generation, arena.slots[index]? = some ⟨generation, none⟩) ∨
      ∃ generation value, arena.slots[index]? = some ⟨generation, some value⟩ := by
  rw [Array.getElem?_eq_getElem inside]
  cases arena.slots[index] with
  | mk generation content =>
      cases content with
      | none => exact .inl ⟨generation, rfl⟩
      | some value => exact .inr ⟨generation, value, rfl⟩

theorem mem_holding : index ∈ arena.holding test ↔
    ∃ generation value, arena.slots[index]? = some ⟨generation, some value⟩ ∧ test value = true := by
  rw [holding, Finset.mem_filter, Finset.mem_range]
  constructor
  · rintro ⟨inside, passes⟩
    obtain ⟨generation, vacant⟩ | ⟨generation, value, found⟩ := slot_cases inside
    · simp [content, vacant] at passes
    · exact ⟨generation, value, found, by simpa [content, found] using passes⟩
  · rintro ⟨generation, value, found, passes⟩
    exact ⟨(Array.getElem?_eq_some_iff.mp found).1, by simpa [content, found] using passes⟩

theorem mem_occupied : index ∈ arena.occupied ↔
    ∃ generation value, arena.slots[index]? = some ⟨generation, some value⟩ := by
  simp [occupied, mem_holding]

theorem mem_retired : index ∈ arena.retired ↔
    (∃ generation, arena.slots[index]? = some ⟨generation, none⟩) ∧ index ∉ arena.free := by
  rw [retired, Finset.mem_filter, Finset.mem_range]
  constructor
  · rintro ⟨inside, vacant, absent⟩
    obtain found | ⟨generation, value, found⟩ := slot_cases inside
    · exact ⟨found, absent⟩
    · simp [content, found] at vacant
  · rintro ⟨⟨generation, found⟩, absent⟩
    exact ⟨(Array.getElem?_eq_some_iff.mp found).1, by simp [content, found], absent⟩

/-! The three parts of a table. -/

theorem WellFormed.mem_free (wellFormed : arena.WellFormed) (member : index ∈ arena.free) :
    index ∉ arena.occupied ∧ index < arena.slots.size := by
  obtain ⟨generation, vacant⟩ := wellFormed.vacant index member
  refine ⟨fun occupied => ?_, (Array.getElem?_eq_some_iff.mp vacant).1⟩
  obtain ⟨_, value, found⟩ := mem_occupied.mp occupied
  cases vacant.symm.trans found

theorem WellFormed.occupied_disjoint_free (wellFormed : arena.WellFormed) :
    Disjoint arena.occupied arena.free.toFinset := by
  rw [Finset.disjoint_left]
  intro index occupied member
  exact (wellFormed.mem_free (List.mem_toFinset.mp member)).1 occupied

theorem disjoint_retired (arena : Arena α) :
    Disjoint (arena.occupied ∪ arena.free.toFinset) arena.retired := by
  rw [Finset.disjoint_right]
  intro index retired used
  obtain ⟨⟨generation, vacant⟩, absent⟩ := mem_retired.mp retired
  obtain occupied | member := Finset.mem_union.mp used
  · obtain ⟨_, value, found⟩ := mem_occupied.mp occupied
    cases vacant.symm.trans found
  · exact absent (List.mem_toFinset.mp member)

theorem WellFormed.union_eq_range (wellFormed : arena.WellFormed) :
    arena.occupied ∪ arena.free.toFinset ∪ arena.retired = Finset.range arena.slots.size := by
  ext index
  simp only [Finset.mem_union, List.mem_toFinset, Finset.mem_range]
  constructor
  · rintro ((occupied | member) | retired)
    · exact Finset.mem_range.mp (Finset.mem_filter.mp occupied).1
    · exact (wellFormed.mem_free member).2
    · exact Finset.mem_range.mp (Finset.mem_filter.mp retired).1
  · intro inside
    by_cases member : index ∈ arena.free
    · exact .inl (.inr member)
    · obtain vacant | found := slot_cases inside
      · exact .inr (mem_retired.mpr ⟨vacant, member⟩)
      · exact .inl (.inl (mem_occupied.mpr found))

theorem WellFormed.card_parts (wellFormed : arena.WellFormed) :
    arena.occupied.card + arena.free.length + arena.retired.card = arena.slots.size := by
  have free : arena.free.toFinset.card = arena.free.length :=
    List.toFinset_card_of_nodup wellFormed.distinct
  rw [← free, ← Finset.card_union_of_disjoint wellFormed.occupied_disjoint_free,
    ← Finset.card_union_of_disjoint arena.disjoint_retired, wellFormed.union_eq_range,
    Finset.card_range]

theorem WellFormed.insert_eq_none_iff (wellFormed : arena.WellFormed) (value : α) :
    (arena.insert value).1 = none ↔ arena.free = [] ∧ arena.capacity ≤ arena.slots.size := by
  cases inserted : arena.insert value with
  | mk result after =>
      cases result with
      | none => exact iff_of_true rfl (wellFormed.insert_none inserted).2
      | some handle =>
          refine iff_of_false (by simp) ?_
          rintro ⟨free, full⟩
          cases wellFormed.insert_some inserted with
          | reused listed => simp [free] at listed
          | grown _ below => omega

/-! What an operation does to the parts. -/

/-- Two tables that differ in one slot, which is vacant in the first and holds a value in the
second. -/
theorem card_holding_filled {first second : Arena α} {generation : Nat}
    (vacant : ∀ generation value, first.slots[index]? ≠ some ⟨generation, some value⟩)
    (filled : second.slots[index]? = some ⟨generation, some value⟩)
    (others : ∀ other, other ≠ index → second.slots[other]? = first.slots[other]?)
    (test : α → Bool) :
    (second.holding test).card = (first.holding test).card + if test value then 1 else 0 := by
  have absent : index ∉ first.holding test := by
    intro held
    obtain ⟨generation, content, found, _⟩ := mem_holding.mp held
    exact vacant generation content found
  have same (other : Nat) (differs : other ≠ index) :
      other ∈ second.holding test ↔ other ∈ first.holding test := by
    rw [mem_holding, mem_holding, others other differs]
  by_cases passes : test value = true
  · have grown : second.holding test = Insert.insert index (first.holding test) := by
      ext other
      rw [Finset.mem_insert]
      by_cases here : other = index
      · rw [here]
        exact iff_of_true (mem_holding.mpr ⟨generation, value, filled, passes⟩) (.inl rfl)
      · rw [same other here, or_iff_right here]
    rw [grown, if_pos passes]
    exact Finset.card_insert_of_notMem absent
  · have kept : second.holding test = first.holding test := by
      ext other
      by_cases here : other = index
      · rw [here]
        refine iff_of_false (fun held => ?_) absent
        obtain ⟨_, content, found, content_passes⟩ := mem_holding.mp held
        cases filled.symm.trans found
        exact passes content_passes
      · exact same other here
    rw [kept, if_neg passes, Nat.add_zero]

theorem Filled.card_holding (filled : arena.Filled value handle after) (test : α → Bool) :
    (after.holding test).card = (arena.holding test).card + if test value then 1 else 0 := by
  refine card_holding_filled (fun generation content found => ?_) filled.filled filled.others test
  cases (filled.waiting _ found).2.1

theorem Filled.retired_eq (filled : arena.Filled value handle after) :
    after.retired = arena.retired := by
  ext index
  rw [mem_retired, mem_retired]
  by_cases same : index = handle.index
  · subst same
    refine iff_of_false ?_ ?_
    · rintro ⟨⟨generation, vacant⟩, _⟩
      cases filled.filled.symm.trans vacant
    · rintro ⟨⟨generation, vacant⟩, absent⟩
      exact absent (filled.waiting _ vacant).2.2
  · rw [filled.others index same, filled.free index]
    simp [same]

/-- A new slot begins at the first generation. -/
theorem Placed.generation_new (wellFormed : arena.WellFormed)
    (placed : arena.Placed value handle after) (new : arena.slots[handle.index]? = none) :
    handle.generation = 0 := by
  cases placed with
  | @reused index generation rest free vacant packed =>
      have inside := (Array.getElem?_eq_some_iff.mp vacant).1
      have fits := Nat.lt_of_lt_of_le inside wellFormed.room
      rw [packed, Handle.index_pack fits, vacant] at new
      cases new
  | grown free below packed =>
      rw [packed]
      exact Handle.generation_pack (Nat.lt_of_lt_of_le below wellFormed.limit) (Nat.zero_le _)

theorem Placed.live_eq (placed : arena.Placed value handle after) :
    after.live = arena.live + 1 := by
  cases placed <;> rfl

theorem Taken.live_eq (taken : arena.Taken handle after) : after.live = arena.live - 1 := by
  cases taken <;> rfl

theorem Placed.size_le (placed : arena.Placed value handle after) :
    arena.slots.size ≤ after.slots.size := by
  cases placed <;> simp

theorem Placed.size_le_capacity (placed : arena.Placed value handle after)
    (within : arena.slots.size ≤ arena.capacity) : after.slots.size ≤ arena.capacity := by
  cases placed with
  | reused => simpa using within
  | grown _ below =>
      rw [Array.size_push]
      exact below

theorem Emptied.card_holding (emptied : arena.Emptied handle after)
    (stored : arena.get? handle = some value) (test : α → Bool) :
    (arena.holding test).card = (after.holding test).card + if test value then 1 else 0 := by
  obtain ⟨_, vacant, _⟩ := emptied.emptied
  refine card_holding_filled (fun generation content found => ?_) (get?_eq_some.mp stored).2
    (fun other differs => (emptied.others other differs).symm) test
  cases vacant.symm.trans found

/-- A slot is retired when it is emptied at the last generation. -/
theorem Taken.mem_retired_iff (wellFormed : arena.WellFormed) (stored : arena.get? handle = some value)
    (taken : arena.Taken handle after) : index ∈ after.retired ↔
      index ∈ arena.retired ∨ index = handle.index ∧ Handle.lastGeneration ≤ handle.generation := by
  have emptied := taken.emptied wellFormed stored
  by_cases same : index = handle.index
  · subst same
    have unretired : handle.index ∉ arena.retired := by
      intro retired
      obtain ⟨⟨_, vacant⟩, _⟩ := mem_retired.mp retired
      cases (get?_eq_some.mp stored).2.symm.trans vacant
    rw [or_iff_right unretired, mem_retired]
    cases taken with
    | raised below =>
        refine iff_of_false (fun retired => retired.2 List.mem_cons_self) fun last => ?_
        exact absurd last.2 (Nat.not_le.mpr below)
    | retired last =>
        obtain ⟨generation, vacant, ⟨later, within⟩ | ⟨_, absent⟩⟩ := emptied.emptied
        · omega
        · exact iff_of_true ⟨⟨generation, vacant⟩, absent⟩ ⟨rfl, last⟩
  · rw [mem_retired, mem_retired, emptied.others index same, emptied.free index same]
    simp [same]

/-! What the history of a table tells of its slots. -/

/-- A history that accounts for a table: each value that was stored is there or was taken out, and a
slot has been emptied as often as its generation says, or once more if it is retired. -/
structure Tallied (room : Nat) (history : List (Event α)) (arena : Arena α) : Prop where
  wellFormed : arena.WellFormed
  capacity : arena.capacity = room
  within : arena.slots.size ≤ room
  live : arena.live = arena.occupied.card
  balance : stored history = arena.live + (emptied history).length
  inside : ∀ index ∈ emptied history, index < arena.slots.size
  raised : ∀ index slot, arena.slots[index]? = some slot → index ∉ arena.retired →
    (emptied history).count index = slot.generation
  worn : ∀ index ∈ arena.retired, (emptied history).count index = Handle.lastGeneration + 1

variable {history : List (Event α)} {event : Event α}

theorem stored_append (history : List (Event α)) (event : Event α) :
    stored (history ++ [event]) = stored history + if event.stores then 1 else 0 := by
  rw [stored, List.countP_append, List.countP_singleton]
  rfl

theorem emptied_append (history : List (Event α)) (event : Event α) :
    emptied (history ++ [event]) = emptied history ++ event.emptied?.toList := by
  cases slot : event.emptied? <;> simp [emptied, slot]

theorem withCapacity_tallied (capacity : Nat) :
    Tallied (min capacity Handle.slots) [] (withCapacity capacity : Arena α) where
  wellFormed := withCapacity_wellFormed capacity
  capacity := rfl
  within := Nat.zero_le _
  live := by simp [withCapacity, occupied, holding]
  balance := rfl
  inside := nofun
  raised := by simp [withCapacity]
  worn := by simp [withCapacity, retired]

namespace Tallied

theorem placed (tallied : Tallied room history arena)
    (placed : arena.Placed value handle after) :
    Tallied room (history ++ [⟨.insert value, some handle⟩]) after := by
  have filled := placed.filled tallied.wellFormed
  have same : emptied (history ++ [⟨.insert value, some handle⟩]) = emptied history := by
    simp [emptied_append, Event.emptied?]
  refine {
    wellFormed := placed.wellFormed tallied.wellFormed
    capacity := by cases placed <;> exact tallied.capacity
    within := tallied.capacity ▸ placed.size_le_capacity (tallied.capacity.symm ▸ tallied.within)
    live := ?_
    balance := ?_
    inside := ?_
    raised := ?_
    worn := ?_ }
  · rw [placed.live_eq, tallied.live]
    exact (filled.card_holding _).symm
  · rw [stored_append, same, placed.live_eq, tallied.balance]
    simp only [Event.stores, if_true]
    omega
  · rw [same]
    exact fun index member => Nat.lt_of_lt_of_le (tallied.inside index member) placed.size_le
  · intro index slot found unretired
    rw [filled.retired_eq] at unretired
    rw [same]
    by_cases here : index = handle.index
    · subst here
      cases filled.filled.symm.trans found
      cases before : arena.slots[handle.index]? with
      | some slot =>
          rw [tallied.raised _ slot before unretired]
          exact (filled.waiting slot before).1
      | none =>
          have untouched : handle.index ∉ emptied history := fun member => by
            have inside := tallied.inside _ member
            rw [Array.getElem?_eq_getElem inside] at before
            cases before
          rw [List.count_eq_zero_of_not_mem untouched]
          exact (placed.generation_new tallied.wellFormed before).symm
    · exact tallied.raised index slot (filled.others index here ▸ found) unretired
  · rw [filled.retired_eq, same]
    exact tallied.worn

theorem taken (tallied : Tallied room history arena) (stored : arena.get? handle = some value)
    (taken : arena.Taken handle after) :
    Tallied room (history ++ [⟨.remove handle, some value⟩]) after := by
  have emptied := taken.emptied tallied.wellFormed stored
  obtain ⟨_, occupied⟩ := get?_eq_some.mp stored
  have grown (index : Nat) : (Arena.emptied (history ++ [⟨.remove handle, some value⟩])).count index =
      (Arena.emptied history).count index + if handle.index = index then 1 else 0 := by
    simp [emptied_append, Event.emptied?, List.count_append, List.count_singleton]
  have live := taken.live_eq
  have size : after.slots.size = arena.slots.size := by cases taken <;> simp
  have fewer : arena.occupied.card = after.occupied.card + 1 := emptied.card_holding stored _
  -- The slot is occupied, so it has been emptied as often as its generation says.
  have unretired : handle.index ∉ arena.retired := by
    intro retired
    obtain ⟨⟨_, vacant⟩, _⟩ := mem_retired.mp retired
    cases occupied.symm.trans vacant
  have level := tallied.raised _ _ occupied unretired
  have bounded := tallied.wellFormed.generations _ _ occupied
  have remaining := tallied.live
  refine {
    wellFormed := taken.wellFormed tallied.wellFormed stored
    capacity := by cases taken <;> exact tallied.capacity
    within := size ▸ tallied.within
    live := by omega
    balance := ?_
    inside := ?_
    raised := ?_
    worn := ?_ }
  · rw [stored_append, emptied_append, List.length_append, tallied.balance, live]
    simp only [Event.stores, Event.emptied?, Option.toList, List.length_singleton,
      Bool.false_eq_true, if_false]
    omega
  · intro index member
    rw [emptied_append, List.mem_append] at member
    rw [size]
    obtain earlier | here := member
    · exact tallied.inside index earlier
    · obtain rfl : index = handle.index := by simpa [Event.emptied?] using here
      exact (Array.getElem?_eq_some_iff.mp occupied).1
  · intro index slot found kept
    rw [taken.mem_retired_iff tallied.wellFormed stored, not_or] at kept
    rw [grown]
    by_cases here : handle.index = index
    · subst here
      have below : handle.generation < Handle.lastGeneration :=
        Nat.not_le.mp fun last => kept.2 ⟨rfl, last⟩
      rw [if_pos rfl, level]
      cases taken with
      | raised =>
          have inside := (Array.getElem?_eq_some_iff.mp occupied).1
          simp only [Array.getElem?_setIfInBounds_self_of_lt inside, Option.some.injEq] at found
          rw [← found]
      | retired last => omega
    · rw [if_neg here, Nat.add_zero]
      exact tallied.raised index slot (emptied.others index (Ne.symm here) ▸ found) kept.1
  · intro index worn
    rw [taken.mem_retired_iff tallied.wellFormed stored] at worn
    rw [grown]
    obtain before | ⟨rfl, last⟩ := worn
    · have differs : handle.index ≠ index := by
        rintro rfl
        exact unretired before
      rw [if_neg differs, Nat.add_zero]
      exact tallied.worn index before
    · rw [if_pos rfl, level]
      simp only at bounded ⊢
      omega

theorem kept (tallied : Tallied room history arena) (stores : event.stores = false)
    (empties : event.emptied? = none) : Tallied room (history ++ [event]) arena := by
  have same : emptied (history ++ [event]) = emptied history := by simp [emptied_append, empties]
  refine {
    wellFormed := tallied.wellFormed
    capacity := tallied.capacity
    within := tallied.within
    live := tallied.live
    balance := ?_
    inside := same ▸ tallied.inside
    raised := same ▸ tallied.raised
    worn := same ▸ tallied.worn }
  rw [stored_append, same, stores]
  exact tallied.balance

theorem step (tallied : Tallied room history arena) (operation : Operation α) :
    Tallied room (history ++ [⟨operation, (arena.answer operation).1⟩])
      (arena.answer operation).2 := by
  cases operation with
  | get handle | contains handle | size => exact tallied.kept rfl rfl
  | insert value =>
      cases inserted : arena.insert value with
      | mk result after =>
          simp only [answer, inserted]
          cases result with
          | some handle => exact tallied.placed (tallied.wellFormed.insert_some inserted)
          | none =>
              rw [(tallied.wellFormed.insert_none inserted).1]
              exact tallied.kept rfl rfl
  | remove handle =>
      cases removed : arena.remove handle with
      | mk result after =>
          simp only [answer, removed]
          cases result with
          | some value =>
              obtain ⟨stored, taken⟩ := remove_some removed
              exact tallied.taken stored taken
          | none =>
              rw [(remove_none removed).1]
              exact tallied.kept rfl rfl

theorem run (tallied : Tallied room history arena) (operations : List (Operation α)) :
    Tallied room (history ++ (arena.run operations).1) (arena.run operations).2 := by
  induction operations generalizing history arena with
  | nil => simpa [Arena.run] using tallied
  | cons operation rest ih =>
      have later := ih (tallied.step operation)
      rw [List.append_assoc, List.singleton_append] at later
      exact later

/-- The number of times that any slot was emptied, in the bounds that their generations leave. -/
theorem emptied_bounds (tallied : Tallied room history arena) :
    arena.retired.card * (Handle.lastGeneration + 1) ≤ (emptied history).length ∧
      (emptied history).length ≤
        arena.slots.size * Handle.lastGeneration + arena.retired.card := by
  have total : ∑ index ∈ Finset.range arena.slots.size, (emptied history).count index =
      (emptied history).length := by
    have counted := Multiset.sum_count_eq_card (s := Finset.range arena.slots.size)
      (m := (emptied history : Multiset Nat))
      fun index member => Finset.mem_range.mpr (tallied.inside index (Multiset.mem_coe.mp member))
    simpa using counted
  have within : arena.retired ⊆ Finset.range arena.slots.size := Finset.filter_subset _ _
  rw [← total]
  constructor
  · calc arena.retired.card * (Handle.lastGeneration + 1)
      _ = ∑ index ∈ arena.retired, (emptied history).count index := by
          rw [Finset.sum_const_nat tallied.worn]
      _ ≤ _ := Finset.sum_le_sum_of_subset within
  · calc ∑ index ∈ Finset.range arena.slots.size, (emptied history).count index
      _ ≤ ∑ index ∈ Finset.range arena.slots.size,
            (Handle.lastGeneration + if index ∈ arena.retired then 1 else 0) := by
          refine Finset.sum_le_sum fun index inside => ?_
          by_cases retired : index ∈ arena.retired
          · rw [if_pos retired, tallied.worn index retired]
          · have found := Array.getElem?_eq_getElem (Finset.mem_range.mp inside)
            rw [if_neg retired, tallied.raised index _ found retired]
            exact tallied.wellFormed.generations index _ found
      _ = _ := by
          rw [Finset.sum_add_distrib, Finset.sum_const_nat fun _ _ => rfl, Finset.card_range,
            Finset.sum_ite_mem, Finset.inter_eq_right.mpr within, ← Finset.card_eq_sum_ones]

theorem count_le (tallied : Tallied room history arena) (index : Nat) :
    (emptied history).count index ≤ Handle.lastGeneration + 1 := by
  by_cases member : index ∈ emptied history
  · by_cases retired : index ∈ arena.retired
    · exact Nat.le_of_eq (tallied.worn index retired)
    · have found := Array.getElem?_eq_getElem (tallied.inside index member)
      rw [tallied.raised index _ found retired]
      exact Nat.le_succ_of_le (tallied.wellFormed.generations index _ found)
  · rw [List.count_eq_zero_of_not_mem member]
    exact Nat.zero_le _

theorem retired_iff (tallied : Tallied room history arena) :
    index ∈ arena.retired ↔ (emptied history).count index = Handle.lastGeneration + 1 := by
  refine ⟨tallied.worn index, fun worn => ?_⟩
  by_contra unretired
  have member : index ∈ emptied history := List.count_pos_iff.mp (by omega)
  have found := Array.getElem?_eq_getElem (tallied.inside index member)
  have raised := tallied.raised index _ found unretired
  have bounded := tallied.wellFormed.generations index _ found
  omega

theorem insert_eq_none_iff (tallied : Tallied room history arena) (value : α) :
    (arena.insert value).1 = none ↔ arena.occupied.card + arena.retired.card = room := by
  have parts := tallied.wellFormed.card_parts
  have within := tallied.within
  rw [tallied.wellFormed.insert_eq_none_iff, tallied.capacity, ← List.length_eq_zero_iff]
  omega

/-- An empty table is full for good once every slot that it may have is worn out. -/
theorem exhausted_iff (tallied : Tallied room history arena) (vacant : arena.live = 0) :
    arena.occupied.card + arena.retired.card = room ↔
      stored history = room * (Handle.lastGeneration + 1) := by
  obtain ⟨least, most⟩ := tallied.emptied_bounds
  have parts := tallied.wellFormed.card_parts
  have scale := Nat.mul_le_mul_right Handle.lastGeneration tallied.within
  rw [tallied.balance, ← tallied.live, vacant, Nat.zero_add, Nat.zero_add, Nat.mul_succ]
  rw [Nat.mul_succ] at least
  have within := tallied.within
  constructor
  · rintro rfl
    omega
  · intro full
    omega

end Tallied

/-- Slots are neither lost nor used too often. A table splits into slots that hold a value, slots that
wait in the free list, each listed once, and slots that are retired; a slot is retired when it has been
emptied 2048 times, and a value finds no room exactly when those that hold a value and those that are
retired make up the capacity. So a table that holds nothing turns a value away exactly when it has
taken 2048 values for each slot that it may have. -/
theorem slots_are_conserved (capacity : Nat) (operations : List (Operation α)) :
    let (history, arena) := (withCapacity capacity : Arena α).run operations
    let room := min capacity 0x10_0000
    (arena.free.Nodup ∧ Disjoint arena.occupied arena.free.toFinset ∧
      Disjoint (arena.occupied ∪ arena.free.toFinset) arena.retired ∧
      arena.occupied ∪ arena.free.toFinset ∪ arena.retired = Finset.range arena.slots.size ∧
      arena.slots.size ≤ room) ∧
    (arena.size = arena.occupied.card ∧
      stored history = arena.size + (emptied history).length) ∧
    (∀ value, (arena.insert value).1 = none ↔
      arena.occupied.card + arena.retired.card = room) ∧
    (∀ index, (emptied history).count index ≤ 2048 ∧
      (index ∈ arena.retired ↔ (emptied history).count index = 2048)) ∧
    (arena.size = 0 → ∀ value, (arena.insert value).1 = none ↔ stored history = room * 2048) := by
  have tallied := (withCapacity_tallied (α := α) capacity).run operations
  rw [List.nil_append] at tallied
  refine ⟨⟨tallied.wellFormed.distinct, tallied.wellFormed.occupied_disjoint_free,
    disjoint_retired _, tallied.wellFormed.union_eq_range, tallied.within⟩,
    ⟨tallied.live, tallied.balance⟩, tallied.insert_eq_none_iff, fun index => ?_,
    fun vacant value => ?_⟩
  · exact ⟨tallied.count_le index, tallied.retired_iff⟩
  · exact (tallied.insert_eq_none_iff value).trans (tallied.exhausted_iff vacant)

end Notary.Arena
