import Mathlib.Data.List.Nodup
import Notary.Registry.Arena

namespace Notary

/-!
Which handles a table of slots has given out. A slot's generation only grows, and a vacant slot that
will be used again carries the generation of its next handle, so a new handle is never one that was
given out before.
-/

namespace Handle

/-- The handles that callers can pass: signed words of 32 bits. -/
def IsWord (handle : Handle) : Prop :=
  -0x8000_0000 ≤ handle.raw ∧ handle.raw < 0x8000_0000

variable {index generation : Nat} {handle : Handle}

theorem pack_raw_nonneg (index generation : Nat) : 0 ≤ (pack index generation).raw := by
  simp only [pack, slots, indexBits]
  omega

theorem pack_isWord (indexFits : index < slots) (generationFits : generation ≤ lastGeneration) :
    (pack index generation).IsWord := by
  simp only [IsWord, pack, slots, indexBits, lastGeneration, generationBits,
    Nat.reduceShiftLeft] at *
  omega

/-- A word that is not negative is the handle of its own index and generation. -/
theorem pack_index_generation (word : handle.IsWord) (nonneg : 0 ≤ handle.raw) :
    pack handle.index handle.generation = handle := by
  obtain ⟨raw⟩ := handle
  simp only [IsWord, pack, index, Handle.generation, bits, slots, indexBits,
    Nat.reduceShiftLeft, mk.injEq] at *
  omega

theorem generation_le (word : handle.IsWord) (nonneg : 0 ≤ handle.raw) :
    handle.generation ≤ lastGeneration := by
  simp only [IsWord, Handle.generation, bits, slots, indexBits, lastGeneration, generationBits,
    Nat.reduceShiftLeft] at *
  omega

/-- Two handles of one slot differ in their generations. -/
theorem generation_ne {other : Handle} (word : handle.IsWord) (otherWord : other.IsWord)
    (nonneg : 0 ≤ handle.raw) (otherNonneg : 0 ≤ other.raw) (differs : other ≠ handle)
    (sameIndex : other.index = handle.index) : other.generation ≠ handle.generation := by
  intro sameGeneration
  apply differs
  rw [← pack_index_generation word nonneg, ← pack_index_generation otherWord otherNonneg,
    sameIndex, sameGeneration]

end Handle

namespace Arena

variable {α : Type} {arena after : Arena α} {handle other : Handle} {value found : α}

/-- The free list names vacant slots, each of them once, and every handle the table can give out
fits its word. -/
structure WellFormed (arena : Arena α) : Prop where
  room : arena.slots.size ≤ Handle.slots
  limit : arena.capacity ≤ Handle.slots
  generations : ∀ (index : Nat) (slot : Slot α), arena.slots[index]? = some slot →
    slot.generation ≤ Handle.lastGeneration
  vacant : ∀ index ∈ arena.free, ∃ generation, arena.slots[index]? = some ⟨generation, none⟩
  distinct : arena.free.Nodup

/-- A handle that has been given out: its slot has moved past its generation, or is at it and does
not wait to be used. -/
def Spent (arena : Arena α) (handle : Handle) : Prop :=
  ∃ slot, arena.slots[handle.index]? = some slot ∧
    (handle.generation < slot.generation ∨
      handle.generation = slot.generation ∧ handle.index ∉ arena.free)

theorem withCapacity_wellFormed (capacity : Nat) : (withCapacity capacity : Arena α).WellFormed where
  room := by simp [withCapacity]
  limit := Nat.min_le_right _ _
  generations := by simp [withCapacity]
  vacant := by simp [withCapacity]
  distinct := List.nodup_nil

theorem locate_eq_some {position : Nat × Nat × α} :
    arena.locate handle = some position ↔
      0 ≤ handle.raw ∧ position.1 = handle.index ∧ position.2.1 = handle.generation ∧
        arena.slots[handle.index]? = some ⟨handle.generation, some position.2.2⟩ := by
  obtain ⟨index, generation, value⟩ := position
  unfold locate
  by_cases negative : handle.raw < 0
  · simp only [if_pos negative, reduceCtorEq, false_iff]
    omega
  · rw [if_neg negative]
    cases lookup : arena.slots[handle.index]? with
    | none => simp
    | some slot =>
        obtain ⟨current, content⟩ := slot
        cases content with
        | none => simp
        | some content =>
            by_cases same : current = handle.generation
            · subst same
              simp only [if_true, Option.some.injEq, Prod.mk.injEq, Slot.mk.injEq, true_and]
              constructor
              · rintro ⟨rfl, rfl, rfl⟩
                exact ⟨by omega, rfl, rfl, rfl⟩
              · rintro ⟨_, rfl, rfl, rfl⟩
                exact ⟨rfl, rfl, rfl⟩
            · simp [same]

theorem get?_eq_some :
    arena.get? handle = some value ↔
      0 ≤ handle.raw ∧ arena.slots[handle.index]? = some ⟨handle.generation, some value⟩ := by
  simp only [get?, Option.map_eq_some_iff, locate_eq_some]
  constructor
  · rintro ⟨_, ⟨nonneg, _, _, lookup⟩, rfl⟩
    exact ⟨nonneg, lookup⟩
  · rintro ⟨nonneg, lookup⟩
    exact ⟨(handle.index, handle.generation, value), ⟨nonneg, rfl, rfl, lookup⟩, rfl⟩

theorem get?_ext (same : 0 ≤ handle.raw → ∀ value,
      after.slots[handle.index]? = some ⟨handle.generation, some value⟩ ↔
        arena.slots[handle.index]? = some ⟨handle.generation, some value⟩) :
    after.get? handle = arena.get? handle := by
  ext value
  simp only [get?_eq_some]
  exact and_congr_right fun nonneg => same nonneg value

/-! Storing a value. -/

/-- The two places that a value can find: a vacant slot, or a new one. -/
inductive Placed (arena : Arena α) (value : α) (handle : Handle) : Arena α → Prop where
  | reused {index generation : Nat} {rest : List Nat}
      (free : arena.free = index :: rest)
      (vacant : arena.slots[index]? = some ⟨generation, none⟩)
      (packed : handle = .pack index generation) :
      Placed arena value handle
        ⟨arena.slots.setIfInBounds index ⟨generation, some value⟩, rest, arena.live + 1,
          arena.capacity⟩
  | grown (free : arena.free = []) (below : arena.slots.size < arena.capacity)
      (packed : handle = .pack arena.slots.size 0) :
      Placed arena value handle
        ⟨arena.slots.push ⟨0, some value⟩, [], arena.live + 1, arena.capacity⟩

theorem WellFormed.insert_some (wellFormed : arena.WellFormed)
    (inserted : arena.insert value = (some handle, after)) :
    arena.Placed value handle after := by
  obtain ⟨slots, free, live, capacity⟩ := arena
  cases free with
  | cons index rest =>
      obtain ⟨generation, vacant⟩ := wellFormed.vacant index (by simp)
      simp only at vacant
      simp only [insert, vacant, Prod.mk.injEq, Option.some.injEq] at inserted
      obtain ⟨rfl, rfl⟩ := inserted
      exact .reused rfl vacant rfl
  | nil =>
      by_cases full : capacity ≤ slots.size
      · simp [insert, full] at inserted
      · simp only [insert, if_neg full, Prod.mk.injEq, Option.some.injEq] at inserted
        obtain ⟨rfl, rfl⟩ := inserted
        exact .grown rfl (Nat.not_le.mp full) rfl

theorem WellFormed.insert_none (wellFormed : arena.WellFormed)
    (refused : arena.insert value = (none, after)) :
    after = arena ∧ arena.free = [] ∧ arena.capacity ≤ arena.slots.size := by
  obtain ⟨slots, free, live, capacity⟩ := arena
  cases free with
  | cons index rest =>
      obtain ⟨generation, vacant⟩ := wellFormed.vacant index (by simp)
      simp only at vacant
      simp [insert, vacant] at refused
  | nil =>
      by_cases full : capacity ≤ slots.size
      · simp only [insert, if_pos full, Prod.mk.injEq, true_and] at refused
        exact ⟨refused.symm, rfl, full⟩
      · simp [insert, full] at refused

/-- What storing a value under a handle changes: the handle's slot, which was vacant and waiting or
did not exist, and its place in the free list. -/
structure Filled (arena : Arena α) (value : α) (handle : Handle) (after : Arena α) : Prop where
  word : handle.IsWord
  nonneg : 0 ≤ handle.raw
  waiting : ∀ slot, arena.slots[handle.index]? = some slot →
    slot.generation = handle.generation ∧ slot.value = none ∧ handle.index ∈ arena.free
  filled : after.slots[handle.index]? = some ⟨handle.generation, some value⟩
  others : ∀ index, index ≠ handle.index → after.slots[index]? = arena.slots[index]?
  free : ∀ index, index ∈ after.free ↔ index ∈ arena.free ∧ index ≠ handle.index

theorem Placed.filled (wellFormed : arena.WellFormed) (placed : arena.Placed value handle after) :
    arena.Filled value handle after := by
  cases placed with
  | @reused index generation rest free vacant packed =>
      have inside : index < arena.slots.size := (Array.getElem?_eq_some_iff.mp vacant).1
      have indexFits := Nat.lt_of_lt_of_le inside wellFormed.room
      have generationFits := wellFormed.generations _ _ vacant
      have indexEq : handle.index = index := packed ▸ Handle.index_pack indexFits generation
      have generationEq : handle.generation = generation :=
        packed ▸ Handle.generation_pack indexFits generationFits
      have distinct := wellFormed.distinct
      rw [free, List.nodup_cons] at distinct
      subst indexEq generationEq
      exact {
        word := packed ▸ Handle.pack_isWord indexFits generationFits
        nonneg := packed ▸ Handle.pack_raw_nonneg _ _
        waiting := by
          intro slot found
          cases vacant.symm.trans found
          exact ⟨rfl, rfl, by simp [free]⟩
        filled := by simp [inside]
        others := fun index differs => Array.getElem?_setIfInBounds_ne (Ne.symm differs)
        free := by
          intro index
          rw [free, List.mem_cons]
          constructor
          · intro member
            exact ⟨.inr member, fun same => distinct.1 (same ▸ member)⟩
          · rintro ⟨same | member, differs⟩
            · exact absurd same differs
            · exact member }
  | grown free below packed =>
      have indexFits := Nat.lt_of_lt_of_le below wellFormed.limit
      have indexEq : handle.index = arena.slots.size := packed ▸ Handle.index_pack indexFits 0
      have generationEq : handle.generation = 0 :=
        packed ▸ Handle.generation_pack indexFits (Nat.zero_le _)
      exact {
        word := packed ▸ Handle.pack_isWord indexFits (Nat.zero_le _)
        nonneg := packed ▸ Handle.pack_raw_nonneg _ _
        waiting := by simp [indexEq]
        filled := by simp [indexEq, generationEq]
        others := by
          intro index differs
          rw [Array.getElem?_push, if_neg (indexEq ▸ differs)]
        free := by simp [free] }

theorem Placed.wellFormed (wellFormed : arena.WellFormed)
    (placed : arena.Placed value handle after) : after.WellFormed := by
  have filled := placed.filled wellFormed
  refine {
    room := ?_
    limit := by cases placed <;> exact wellFormed.limit
    generations := ?_
    vacant := ?_
    distinct := ?_ }
  · cases placed with
    | reused => simpa using wellFormed.room
    | grown _ below _ =>
        have limit := wellFormed.limit
        simp only [Array.size_push]
        omega
  · intro index slot found
    by_cases same : index = handle.index
    · subst same
      cases filled.filled.symm.trans found
      exact Handle.generation_le filled.word filled.nonneg
    · exact wellFormed.generations index slot (filled.others index same ▸ found)
  · intro index member
    obtain ⟨before, differs⟩ := (filled.free index).mp member
    rw [filled.others index differs]
    exact wellFormed.vacant index before
  · cases placed with
    | reused free _ _ => exact (List.nodup_cons.mp (free ▸ wellFormed.distinct)).2
    | grown => exact List.nodup_nil

theorem Filled.unspent (filled : arena.Filled value handle after) : ¬ arena.Spent handle := by
  rintro ⟨slot, found, passed⟩
  obtain ⟨generation, _, waiting⟩ := filled.waiting slot found
  rcases passed with below | ⟨_, absent⟩
  · omega
  · exact absent waiting

theorem Filled.spent (filled : arena.Filled value handle after) : after.Spent handle :=
  ⟨_, filled.filled, .inr ⟨rfl, fun member => ((filled.free _).mp member).2 rfl⟩⟩

theorem Filled.spent_mono (filled : arena.Filled value handle after) (spent : arena.Spent other) :
    after.Spent other := by
  obtain ⟨slot, found, passed⟩ := spent
  by_cases same : other.index = handle.index
  · rw [same] at found passed
    obtain ⟨generation, _, waiting⟩ := filled.waiting slot found
    refine ⟨_, same ▸ filled.filled, .inl ?_⟩
    rcases passed with below | ⟨_, absent⟩
    · exact generation ▸ below
    · exact absurd waiting absent
  · refine ⟨slot, (filled.others _ same).trans found, passed.imp_right fun there => ⟨there.1, ?_⟩⟩
    exact fun member => there.2 ((filled.free _).mp member).1

theorem Filled.get?_self (filled : arena.Filled value handle after) :
    after.get? handle = some value :=
  get?_eq_some.mpr ⟨filled.nonneg, filled.filled⟩

theorem Filled.get?_of_ne (filled : arena.Filled value handle after) (word : other.IsWord)
    (differs : other ≠ handle) : after.get? other = arena.get? other := by
  refine get?_ext fun nonneg content => ?_
  by_cases same : other.index = handle.index
  · have generations := Handle.generation_ne filled.word word filled.nonneg nonneg differs same
    rw [same, filled.filled]
    constructor
    · intro found
      simp only [Option.some.injEq, Slot.mk.injEq] at found
      exact absurd found.1.symm generations
    · intro found
      obtain ⟨_, vacant, _⟩ := filled.waiting _ found
      cases vacant
  · rw [filled.others _ same]

/-! Taking a value out. -/

/-- The two ends of a stay in a slot: the slot waits for its next value, or it is retired. -/
inductive Taken (arena : Arena α) (handle : Handle) : Arena α → Prop where
  | raised (below : handle.generation < Handle.lastGeneration) :
      Taken arena handle
        ⟨arena.slots.setIfInBounds handle.index ⟨handle.generation + 1, none⟩,
          handle.index :: arena.free, arena.live - 1, arena.capacity⟩
  | retired (last : Handle.lastGeneration ≤ handle.generation) :
      Taken arena handle
        ⟨arena.slots.setIfInBounds handle.index ⟨handle.generation, none⟩, arena.free,
          arena.live - 1, arena.capacity⟩

theorem remove_some (removed : arena.remove handle = (some value, after)) :
    arena.get? handle = some value ∧ arena.Taken handle after := by
  unfold remove at removed
  cases located : arena.locate handle with
  | none => simp [located] at removed
  | some position =>
      obtain ⟨index, generation, content⟩ := position
      obtain ⟨_, rfl, rfl, _⟩ := locate_eq_some.mp located
      simp only [located] at removed
      by_cases below : handle.generation < Handle.lastGeneration
      · simp only [if_pos below, Prod.mk.injEq, Option.some.injEq] at removed
        obtain ⟨rfl, rfl⟩ := removed
        exact ⟨by simp [get?, located], .raised below⟩
      · simp only [if_neg below, Prod.mk.injEq, Option.some.injEq] at removed
        obtain ⟨rfl, rfl⟩ := removed
        exact ⟨by simp [get?, located], .retired (Nat.not_lt.mp below)⟩

theorem remove_none (refused : arena.remove handle = (none, after)) :
    after = arena ∧ arena.get? handle = none := by
  unfold remove at refused
  cases located : arena.locate handle with
  | none =>
      simp only [located, Prod.mk.injEq, true_and] at refused
      exact ⟨refused.symm, by simp [get?, located]⟩
  | some position =>
      obtain ⟨index, generation, content⟩ := position
      simp only [located] at refused
      split at refused <;> simp at refused

/-- What taking the value under a handle out changes: the handle's slot, which is vacant and does not
wait at the handle's generation. -/
structure Emptied (arena : Arena α) (handle : Handle) (after : Arena α) : Prop where
  nonneg : 0 ≤ handle.raw
  occupied : ∃ value, arena.slots[handle.index]? = some ⟨handle.generation, some value⟩
  emptied : ∃ generation, after.slots[handle.index]? = some ⟨generation, none⟩ ∧
    (handle.generation < generation ∧ generation ≤ Handle.lastGeneration ∨
      handle.generation = generation ∧ handle.index ∉ after.free)
  others : ∀ index, index ≠ handle.index → after.slots[index]? = arena.slots[index]?
  free : ∀ index, index ≠ handle.index → (index ∈ after.free ↔ index ∈ arena.free)

theorem Taken.emptied (wellFormed : arena.WellFormed) (stored : arena.get? handle = some value)
    (taken : arena.Taken handle after) : arena.Emptied handle after := by
  obtain ⟨nonneg, occupied⟩ := get?_eq_some.mp stored
  have inside := (Array.getElem?_eq_some_iff.mp occupied).1
  have absent : handle.index ∉ arena.free := by
    intro member
    obtain ⟨_, vacant⟩ := wellFormed.vacant _ member
    cases occupied.symm.trans vacant
  cases taken with
  | raised below =>
      exact {
        nonneg := nonneg
        occupied := ⟨value, occupied⟩
        emptied := ⟨handle.generation + 1, by simp [inside], .inl ⟨Nat.lt_succ_self _, below⟩⟩
        others := fun index differs => Array.getElem?_setIfInBounds_ne (Ne.symm differs)
        free := by
          intro index differs
          rw [List.mem_cons]
          exact or_iff_right differs }
  | retired _ =>
      exact {
        nonneg := nonneg
        occupied := ⟨value, occupied⟩
        emptied := ⟨handle.generation, by simp [inside], .inr ⟨rfl, absent⟩⟩
        others := fun index differs => Array.getElem?_setIfInBounds_ne (Ne.symm differs)
        free := fun _ _ => Iff.rfl }

theorem Taken.wellFormed (wellFormed : arena.WellFormed) (stored : arena.get? handle = some value)
    (taken : arena.Taken handle after) : after.WellFormed := by
  have emptied := taken.emptied wellFormed stored
  obtain ⟨generation, vacant, standing⟩ := emptied.emptied
  obtain ⟨content, occupied⟩ := emptied.occupied
  have bounded := wellFormed.generations _ _ occupied
  refine {
    room := by cases taken <;> simpa using wellFormed.room
    limit := by cases taken <;> exact wellFormed.limit
    generations := ?_
    vacant := ?_
    distinct := ?_ }
  · intro index slot found
    by_cases same : index = handle.index
    · subst same
      cases vacant.symm.trans found
      rcases standing with ⟨_, raised⟩ | ⟨rfl, _⟩
      · exact raised
      · exact bounded
    · exact wellFormed.generations index slot (emptied.others index same ▸ found)
  · intro index member
    by_cases same : index = handle.index
    · exact ⟨generation, same ▸ vacant⟩
    · rw [emptied.others index same]
      exact wellFormed.vacant index ((emptied.free index same).mp member)
  · cases taken with
    | raised =>
        refine List.nodup_cons.mpr ⟨fun member => ?_, wellFormed.distinct⟩
        obtain ⟨_, waiting⟩ := wellFormed.vacant _ member
        cases occupied.symm.trans waiting
    | retired => exact wellFormed.distinct

theorem Emptied.get?_self (emptied : arena.Emptied handle after) : after.get? handle = none := by
  obtain ⟨generation, vacant, _⟩ := emptied.emptied
  rw [Option.eq_none_iff_forall_ne_some]
  intro value stored
  cases vacant.symm.trans (get?_eq_some.mp stored).2

theorem Emptied.get?_of_ne (emptied : arena.Emptied handle after) (word : handle.IsWord)
    (otherWord : other.IsWord) (differs : other ≠ handle) :
    after.get? other = arena.get? other := by
  refine get?_ext fun nonneg content => ?_
  by_cases same : other.index = handle.index
  · have generations := Handle.generation_ne word otherWord emptied.nonneg nonneg differs same
    obtain ⟨_, vacant, _⟩ := emptied.emptied
    obtain ⟨_, occupied⟩ := emptied.occupied
    rw [same, vacant, occupied]
    simp [Ne.symm generations]
  · rw [emptied.others _ same]

theorem Emptied.spent_mono (emptied : arena.Emptied handle after) (spent : arena.Spent other) :
    after.Spent other := by
  obtain ⟨slot, found, passed⟩ := spent
  by_cases same : other.index = handle.index
  · obtain ⟨generation, vacant, standing⟩ := emptied.emptied
    obtain ⟨_, occupied⟩ := emptied.occupied
    rw [same] at found
    cases occupied.symm.trans found
    refine ⟨_, same ▸ vacant, ?_⟩
    simp only at passed ⊢
    rcases standing with ⟨below, _⟩ | ⟨standing, absent⟩
    · omega
    · rcases passed with earlier | ⟨level, _⟩
      · exact .inl (standing ▸ earlier)
      · exact .inr ⟨level.trans standing, same ▸ absent⟩
  · refine ⟨slot, (emptied.others _ same).trans found, passed.imp_right fun there => ⟨there.1, ?_⟩⟩
    exact fun member => there.2 ((emptied.free _ same).mp member)

end Arena

end Notary
