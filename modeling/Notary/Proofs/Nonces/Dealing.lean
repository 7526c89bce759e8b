import Mathlib.Data.List.Nodup

namespace Notary

/-!
Nonces that are dealt out one above the other and given back one by one. A nonce is taken back only if
it lies on top; so nothing is missing in the end exactly if no nonce was given back while one that was
dealt later was out.
-/

inductive Deal where
  | drawn (thread : Nat)
  | returned (thread : Nat)
  deriving DecidableEq, Repr

namespace Deal

def drawn? : Deal → Option Nat
  | drawn thread => some thread
  | returned _ => none

def returned? : Deal → Option Nat
  | drawn _ => none
  | returned thread => some thread

def draws (deals : List Deal) : List Nat :=
  deals.filterMap drawn?

def returns (deals : List Deal) : List Nat :=
  deals.filterMap returned?

/-- The threads whose nonces are out, in the order in which they drew them. -/
def holders (deals : List Deal) : List Nat :=
  (draws deals).filter (· ∉ returns deals)

/-- A nonce was given back while one that was drawn later was out. -/
def Overtaken (deals : List Deal) : Prop :=
  ∃ before after thread later, deals = before ++ .returned thread :: after ∧
    [thread, later].Sublist (holders before)

variable {deals : List Deal} {deal : Deal} {thread : Nat}

@[simp] theorem draws_drawn : draws (deals ++ [.drawn thread]) = draws deals ++ [thread] := by
  simp [draws, drawn?]

@[simp] theorem draws_returned : draws (deals ++ [.returned thread]) = draws deals := by
  simp [draws, drawn?]

@[simp] theorem returns_drawn : returns (deals ++ [.drawn thread]) = returns deals := by
  simp [returns, returned?]

@[simp] theorem returns_returned :
    returns (deals ++ [.returned thread]) = returns deals ++ [thread] := by
  simp [returns, returned?]

theorem holders_drawn (unreturned : thread ∉ returns deals) :
    holders (deals ++ [.drawn thread]) = holders deals ++ [thread] := by
  simp [holders, unreturned]

theorem holders_returned :
    holders (deals ++ [.returned thread]) = (holders deals).filter (· ≠ thread) := by
  rw [holders, draws_returned, returns_returned, holders, List.filter_filter]
  refine List.filter_congr fun other _ => ?_
  simp [not_or, and_comm]

theorem overtaken_append : Overtaken (deals ++ [deal]) ↔
    Overtaken deals ∨ ∃ thread later, deal = .returned thread ∧
      [thread, later].Sublist (holders deals) := by
  constructor
  · rintro ⟨before, after, thread, later, split, out⟩
    obtain rfl | ⟨middle, last, rfl⟩ := List.eq_nil_or_concat after
    · obtain ⟨rfl, same⟩ := List.append_inj' split rfl
      exact .inr ⟨thread, later, List.singleton_inj.mp same, out⟩
    · rw [List.concat_eq_append, ← List.cons_append, ← List.append_assoc] at split
      exact .inl ⟨before, middle, thread, later, List.append_inj_left' split rfl, out⟩
  · rintro (⟨before, after, thread, later, rfl, out⟩ | ⟨thread, later, rfl, out⟩)
    · exact ⟨before, after ++ [deal], thread, later, by simp, out⟩
    · exact ⟨deals, [], thread, later, rfl, out⟩

theorem overtaken_drawn : Overtaken (deals ++ [.drawn thread]) ↔ Overtaken deals := by
  simp [overtaken_append]

/-- Of threads that each stand once, those that come later than one stand behind it. -/
theorem pair_sublist_iff {before after : List Nat} {later : Nat} (absent : thread ∉ before) :
    [thread, later].Sublist (before ++ thread :: after) ↔ later ∈ after := by
  induction before with
  | nil => simp
  | cons first rest ih =>
      obtain ⟨differs, absentLater⟩ := not_or.mp (mt List.mem_cons.mpr absent)
      rw [List.cons_append, List.sublist_cons_iff, ih absentLater]
      simp [differs]

end Deal

open Deal

/-- What a number of deals leaves: the next nonce to be dealt, how many nonces are missing below it, and
those that are out, with their threads. -/
structure Dealt (start : Nat) (deals : List Deal) (level lost : Nat) (out : List (Nat × Nat)) :
    Prop where
  holders : out.map (·.1) = holders deals
  once : (draws deals).Nodup
  owed : ∀ thread ∈ returns deals, thread ∈ draws deals
  ascending : out.Pairwise fun earlier later => earlier.2 < later.2
  above : ∀ entry ∈ out, start ≤ entry.2
  below : ∀ entry ∈ out, entry.2 < level
  count : level = start + out.length + lost
  missing : 0 < lost ↔ Overtaken deals

namespace Dealt

variable {start level lost thread nonce : Nat} {deals : List Deal}
  {out front back : List (Nat × Nat)}

theorem nothing (start : Nat) : Dealt start [] start 0 [] where
  holders := rfl
  once := List.nodup_nil
  owed _ := nofun
  ascending := .nil
  above _ := nofun
  below _ := nofun
  count := rfl
  missing := by simp [Overtaken]

theorem draw (dealt : Dealt start deals level lost out) (fresh : thread ∉ draws deals) :
    Dealt start (deals ++ [.drawn thread]) (level + 1) lost (out ++ [(thread, level)]) where
  holders := by
    rw [holders_drawn fun returned => fresh (dealt.owed thread returned), ← dealt.holders]
    simp
  once := by
    rw [draws_drawn, ← List.concat_eq_append]
    exact dealt.once.concat fresh
  owed := by
    intro other returned
    rw [returns_drawn] at returned
    rw [draws_drawn]
    exact List.mem_append_left _ (dealt.owed other returned)
  ascending := by
    rw [List.pairwise_append]
    refine ⟨dealt.ascending, List.pairwise_singleton _ _, fun entry listed other last => ?_⟩
    rw [List.mem_singleton.mp last]
    exact dealt.below entry listed
  above := by
    intro entry listed
    obtain earlier | last := List.mem_append.mp listed
    · exact dealt.above entry earlier
    · have count := dealt.count
      rw [List.mem_singleton.mp last]
      simp only
      omega
  below := by
    intro entry listed
    obtain earlier | last := List.mem_append.mp listed
    · exact Nat.lt_succ_of_lt (dealt.below entry earlier)
    · rw [List.mem_singleton.mp last]
      exact Nat.lt_succ_self level
  count := by
    rw [List.length_append, List.length_singleton, dealt.count]
    omega
  missing := by rw [overtaken_drawn, dealt.missing]

/-- The nonces below one that is out leave room for as many as there are. -/
theorem room (ascending : (front ++ (thread, nonce) :: back).Pairwise
      fun earlier later => earlier.2 < later.2)
    (above : ∀ entry ∈ front ++ (thread, nonce) :: back, start ≤ entry.2) :
    start + front.length ≤ nonce := by
  induction front generalizing start with
  | nil => exact above (thread, nonce) List.mem_cons_self
  | cons first rest ih =>
      rw [List.cons_append, List.pairwise_cons] at ascending
      have lowest := above first List.mem_cons_self
      have higher : ∀ entry ∈ rest ++ (thread, nonce) :: back, start + 1 ≤ entry.2 :=
        fun entry listed => Nat.lt_of_le_of_lt lowest (ascending.1 entry listed)
      have next := ih ascending.2 higher
      rw [List.length_cons]
      omega

theorem nodup_holders (deals : List Deal) (once : (draws deals).Nodup) : (Deal.holders deals).Nodup :=
  once.filter _

/-- What stands before and behind a thread whose nonce is out. -/
theorem split (dealt : Dealt start deals level lost (front ++ (thread, nonce) :: back)) :
    Deal.holders deals = front.map (·.1) ++ thread :: back.map (·.1) ∧
      thread ∉ front.map (·.1) ∧ thread ∉ back.map (·.1) := by
  have shape : Deal.holders deals = front.map (·.1) ++ thread :: back.map (·.1) := by
    rw [← dealt.holders, List.map_append, List.map_cons]
  have nodup := nodup_holders deals dealt.once
  rw [shape] at nodup
  have apart := List.nodup_middle.mp nodup
  rw [List.nodup_cons, List.mem_append, not_or] at apart
  exact ⟨shape, apart.1⟩

theorem overtakes_iff (dealt : Dealt start deals level lost (front ++ (thread, nonce) :: back)) :
    Overtaken (deals ++ [.returned thread]) ↔ Overtaken deals ∨ back ≠ [] := by
  obtain ⟨shape, absent, -⟩ := dealt.split
  rw [overtaken_append]
  refine or_congr_right ?_
  constructor
  · rintro ⟨_, later, same, out⟩ rfl
    cases same
    rw [shape, pair_sublist_iff absent] at out
    cases out
  · intro some
    obtain ⟨entry, rest, rfl⟩ := List.exists_cons_of_ne_nil some
    exact ⟨thread, entry.1, rfl, by rw [shape, pair_sublist_iff absent]; exact List.mem_cons_self⟩

/-- Giving a nonce back takes its thread out of those that hold one. -/
theorem giveBack {left missed : Nat}
    (dealt : Dealt start deals level lost (front ++ (thread, nonce) :: back))
    (below : ∀ entry ∈ front ++ back, entry.2 < left)
    (count : left = start + (front ++ back).length + missed)
    (missing : 0 < missed ↔ Overtaken (deals ++ [.returned thread])) :
    Dealt start (deals ++ [.returned thread]) left missed (front ++ back) where
  holders := by
    obtain ⟨shape, absent, absentLater⟩ := dealt.split
    rw [holders_returned, shape, List.filter_append, List.filter_cons_of_neg (by simp),
      List.map_append]
    congr 1
    · exact (List.filter_eq_self.mpr fun other listed => by
        simpa using fun same : other = thread => absent (same ▸ listed)).symm
    · exact (List.filter_eq_self.mpr fun other listed => by
        simpa using fun same : other = thread => absentLater (same ▸ listed)).symm
  once := by
    rw [draws_returned]
    exact dealt.once
  owed := by
    intro other returned
    rw [returns_returned] at returned
    rw [draws_returned]
    obtain earlier | last := List.mem_append.mp returned
    · exact dealt.owed other earlier
    · have held : thread ∈ Deal.holders deals := by
        rw [dealt.split.1]
        exact List.mem_append_right _ List.mem_cons_self
      rw [List.mem_singleton.mp last]
      exact List.mem_of_mem_filter held
  ascending := by
    have sublist : (front ++ back).Sublist (front ++ (thread, nonce) :: back) :=
      List.Sublist.append_left (List.sublist_cons_self _ _) _
    exact dealt.ascending.sublist sublist
  above := by
    intro entry listed
    obtain before | behind := List.mem_append.mp listed
    · exact dealt.above entry (List.mem_append_left _ before)
    · exact dealt.above entry (List.mem_append_right _ (List.mem_cons_of_mem _ behind))
  below := below
  count := count
  missing := missing

/-- The nonce on top can only be the one that was drawn last of those that are out. -/
theorem takeBack (dealt : Dealt start deals (nonce + 1) lost (front ++ (thread, nonce) :: back)) :
    Dealt start (deals ++ [.returned thread]) nonce lost (front ++ back) := by
  have ascending := List.pairwise_append.mp dealt.ascending
  have last : back = [] := by
    cases back with
    | nil => rfl
    | cons entry rest =>
        have higher := (List.pairwise_cons.mp ascending.2.1).1 entry List.mem_cons_self
        have below := dealt.below entry (by simp)
        simp only at higher
        omega
  subst last
  refine dealt.giveBack (fun entry listed => ?_) ?_ ?_
  · rw [List.append_nil] at listed
    exact ascending.2.2 entry listed (thread, nonce) List.mem_cons_self
  · have count := dealt.count
    rw [List.length_append, List.length_singleton] at count
    rw [List.append_nil]
    omega
  · rw [dealt.overtakes_iff, dealt.missing]
    simp

/-- A nonce that is not on top is missing from then on. -/
theorem miss (dealt : Dealt start deals level lost (front ++ (thread, nonce) :: back))
    (buried : level ≠ nonce + 1) :
    Dealt start (deals ++ [.returned thread]) level (lost + 1) (front ++ back) := by
  refine dealt.giveBack (fun entry listed => ?_) ?_ ?_
  · obtain before | behind := List.mem_append.mp listed
    · exact dealt.below entry (List.mem_append_left _ before)
    · exact dealt.below entry (List.mem_append_right _ (List.mem_cons_of_mem _ behind))
  · rw [dealt.count, List.length_append, List.length_append, List.length_cons]
    omega
  · rw [dealt.overtakes_iff, ← dealt.missing]
    refine iff_of_true (Nat.succ_pos lost) ?_
    by_cases before : 0 < lost
    · exact .inl before
    · refine .inr fun last => buried ?_
      -- Nothing was missing so far, so the nonce that was drawn last lies on top.
      subst last
      have count := dealt.count
      have room := room dealt.ascending dealt.above
      have below := dealt.below (thread, nonce) (by simp)
      rw [List.length_append, List.length_singleton] at count
      simp only at below
      omega

end Dealt

end Notary
