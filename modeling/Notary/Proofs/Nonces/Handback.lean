import Notary.Proofs.Nonces.Dealing
import Notary.Proofs.Nonces.Floors
import Notary.Proofs.Nonces.Rejected

namespace Notary

/-!
Nonces that come back. Where the submissions of one account all fail, the counter stands in the end
where it stood before, if each nonce came back before those that were drawn earlier; a nonce that comes
back too early is missing from then on.
-/

open Crew (Turn)

namespace Crew.Turn

/-- What the turn does with the nonces. -/
def deal? : Turn → Option Deal
  | ⟨thread, .reserve _ _, .ok _⟩ => some (.drawn thread)
  | ⟨thread, .release _ _, _⟩ => some (.returned thread)
  | _ => none

/-- The turn gave a nonce back, and the book did not take it. -/
def loses : Turn → Bool
  | ⟨_, .release _ _, .ok false⟩ => true
  | _ => false

/-- What the ledger told of the next nonce of an account. -/
def told? : Turn → Option (Address × Nat)
  | ⟨_, .ask (.pendingNonce account), .ok pending⟩ => some (account, pending)
  | _ => none

/-- The turn is no broadcast, or one that the ledger turned away. -/
def rejects : Turn → Bool
  | ⟨_, .ask (.sendRaw _), .error (.failure _)⟩ => true
  | ⟨_, .ask (.sendRaw _), _⟩ => false
  | _ => true

end Crew.Turn

def Crew.deals (turns : List Turn) : List Deal :=
  turns.filterMap Turn.deal?

/-- All that the ledger told of the next nonce of an account is one and the same. -/
def Crew.Steady (account : Address) (pending : Nat) (turns : List Turn) : Prop :=
  ∀ turn ∈ turns, ∀ answer, turn.told? = some (account, answer) → answer = pending

open Crew Deal

/-- How the book stands to the nonces that the submissions of an account hold. -/
structure Settles (account : Address) (pending start : Nat) (history : List Turn) (book : NonceBook)
    (tenures : Nat → Tenure) (out : List (Nat × Nat)) : Prop where
  dealt : Dealt start (deals history) (max (book.next account) pending)
    (history.countP Turn.loses) out
  raised : out ≠ [] → pending ≤ book.next account
  fits : ∀ entry ∈ out, entry.2 + 1 < Checked.limit 64
  room : deals history ≠ [] → start + 1 < Checked.limit 64
  holding : ∀ thread nonce, tenures thread = .holding nonce ↔ (thread, nonce) ∈ out
  idle : ∀ thread, tenures thread = .idle ↔ thread ∉ draws (deals history)

namespace Settles

variable {account : Address} {pending start thread nonce : Nat} {history : List Turn}
  {book after : NonceBook} {tenures : Nat → Tenure} {out : List (Nat × Nat)} {turn : Turn}

theorem begin (book : NonceBook) (account : Address) (pending : Nat) :
    Settles account pending (max (book.next account) pending) [] book (fun _ => .idle) [] where
  dealt := .nothing _
  raised := nofun
  fits _ := nofun
  room := nofun
  holding _ _ := by simp
  idle _ := by simp [deals, draws]

/-- Who holds a nonce drew it. -/
theorem drawer (settles : Settles account pending start history book tenures out)
    (listed : (thread, nonce) ∈ out) : ∃ turn ∈ history, turn.thread = thread := by
  have held : thread ∈ holders (deals history) := by
    rw [← settles.dealt.holders]
    exact List.mem_map_of_mem listed
  obtain ⟨deal, dealt, drew⟩ := List.mem_filterMap.mp (List.mem_of_mem_filter held)
  obtain ⟨turn, taken, told⟩ := List.mem_filterMap.mp dealt
  refine ⟨turn, taken, ?_⟩
  unfold Turn.deal? at told
  split at told <;> cases told <;> cases drew
  rfl

/-- A turn that deals in no nonces changes nothing, also where it raises the counter to the floor. -/
theorem quiet (settles : Settles account pending start history book tenures out)
    (undealt : turn.deal? = none) (kept : turn.loses = false)
    (level : max (after.next account) pending = max (book.next account) pending)
    (raised : out ≠ [] → pending ≤ after.next account) :
    Settles account pending start (history ++ [turn]) after tenures out := by
  have same : deals (history ++ [turn]) = deals history := by simp [deals, undealt]
  refine {
    dealt := ?_
    raised := raised
    fits := settles.fits
    room := same ▸ settles.room
    holding := settles.holding
    idle := same ▸ settles.idle }
  rw [same, level, List.countP_append, List.countP_singleton, kept]
  exact settles.dealt

theorem draw (settles : Settles account pending start history book tenures out)
    (fits : nonce + 1 < Checked.limit 64) (level : nonce = max (book.next account) pending)
    (unused : tenures thread = .idle) (floor : Nat) :
    Settles account pending start
      (history ++ [⟨thread, .reserve account floor, .ok nonce⟩]) (book.set account (nonce + 1))
      (Function.update tenures thread (.holding nonce)) (out ++ [(thread, nonce)]) := by
  have grown : deals (history ++ [⟨thread, .reserve account floor, .ok nonce⟩]) =
      deals history ++ [.drawn thread] := by simp [deals, Turn.deal?]
  have fresh := (settles.idle thread).mp unused
  have dealt := settles.dealt.draw fresh
  refine {
    dealt := ?_
    raised := ?_
    fits := ?_
    room := ?_
    holding := ?_
    idle := ?_ }
  · rw [grown, NonceBook.next_set_self, List.countP_append, List.countP_singleton]
    rw [← level] at dealt
    have top : max (nonce + 1) pending = nonce + 1 := by omega
    rw [top]
    exact dealt
  · intro _
    rw [NonceBook.next_set_self]
    omega
  · intro entry listed
    obtain earlier | last := List.mem_append.mp listed
    · exact settles.fits entry earlier
    · rw [List.mem_singleton.mp last]
      exact fits
  · intro _
    have count := settles.dealt.count
    omega
  · intro other held
    rw [List.mem_append, List.mem_singleton, Prod.mk.injEq]
    by_cases same : other = thread
    · subst same
      have outside : (other, held) ∉ out := by
        rw [← settles.holding other held, unused]
        exact nofun
      rw [Function.update_self]
      simp [outside, eq_comm]
    · rw [Function.update_of_ne same, settles.holding other held]
      simp [same]
  · intro other
    rw [grown, draws_drawn]
    by_cases same : other = thread
    · subst same
      simp
    · rw [Function.update_of_ne same, settles.idle other]
      simp [same]

/-- The tenures and the deals after a hand-back, whatever the book says to it. -/
theorem giveBack {front back : List (Nat × Nat)} {reply : Except Fault Bool}
    (settles : Settles account pending start history book tenures
      (front ++ (thread, nonce) :: back))
    (dealt : Dealt start (deals history ++ [.returned thread]) (max (after.next account) pending)
      (List.countP Turn.loses (history ++ [⟨thread, .release account nonce, reply⟩]))
      (front ++ back))
    (raised : pending ≤ after.next account) :
    Settles account pending start (history ++ [⟨thread, .release account nonce, reply⟩]) after
      (Function.update tenures thread .ended) (front ++ back) := by
  have grown : deals (history ++ [⟨thread, .release account nonce, reply⟩]) =
      deals history ++ [.returned thread] := by simp [deals, Turn.deal?]
  obtain ⟨shape, absent, absentLater⟩ := settles.dealt.split
  have drawn : thread ∈ draws (deals history) := by
    have held : thread ∈ holders (deals history) := by simp [shape]
    exact List.mem_of_mem_filter held
  refine {
    dealt := grown ▸ dealt
    raised := fun _ => raised
    fits := ?_
    room := ?_
    holding := ?_
    idle := ?_ }
  · intro entry listed
    refine settles.fits entry ?_
    obtain before | behind := List.mem_append.mp listed
    · exact List.mem_append_left _ before
    · exact List.mem_append_right _ (List.mem_cons_of_mem _ behind)
  · intro _
    exact settles.room fun undealt => by simp [undealt, draws] at drawn
  · intro other held
    by_cases same : other = thread
    · subst same
      have gone : (other, held) ∉ front ++ back := by
        intro listed
        obtain before | behind := List.mem_append.mp listed
        · exact absent (List.mem_map_of_mem before)
        · exact absentLater (List.mem_map_of_mem behind)
      rw [Function.update_self]
      exact iff_of_false (by simp) gone
    · rw [Function.update_of_ne same, settles.holding other held]
      simp [same]
  · intro other
    rw [grown, draws_returned]
    by_cases same : other = thread
    · subst same
      rw [Function.update_self]
      exact iff_of_false (by simp) (not_not_intro drawn)
    · rw [Function.update_of_ne same, settles.idle other]

theorem release {reply : Except Fault Bool} (floored : pending ≤ start)
    (settles : Settles account pending start history book tenures out)
    (held : tenures thread = .holding nonce)
    (released : book.release account nonce = (reply, after)) :
    ∃ left, Settles account pending start
      (history ++ [⟨thread, .release account nonce, reply⟩]) after
      (Function.update tenures thread .ended) left := by
  obtain ⟨front, back, rfl⟩ := List.append_of_mem ((settles.holding thread nonce).mp held)
  have raised := settles.raised (by simp)
  have below := settles.dealt.below (thread, nonce) (by simp)
  have above := settles.dealt.above (thread, nonce) (by simp)
  have fits := settles.fits (thread, nonce) (by simp)
  simp only at below above fits
  have dealt := settles.dealt
  obtain top | buried : book.next account = nonce + 1 ∨ nonce + 1 < book.next account := by omega
  · rw [NonceBook.release_top top fits] at released
    cases released
    refine ⟨front ++ back, settles.giveBack ?_ (by rw [NonceBook.next_set_self]; omega)⟩
    have level : max (book.next account) pending = nonce + 1 := by omega
    have lowered : max ((book.set account nonce).next account) pending = nonce := by
      rw [NonceBook.next_set_self]
      omega
    rw [level] at dealt
    rw [lowered, List.countP_append, List.countP_singleton]
    exact dealt.takeBack
  · rw [NonceBook.release_buried buried fits] at released
    cases released
    refine ⟨front ++ back, settles.giveBack ?_ raised⟩
    rw [List.countP_append, List.countP_singleton]
    exact dealt.miss (by omega)

variable {σ : Type} {ledger : Ledger σ} {world left : World σ} {options : SubmitOptions}
  {told : Option (Address × Nat)}

/-- What every step keeps that submissions of the account may take. -/
theorem step (settles : Settles account pending start history world.book tenures out)
    (floored : pending ≤ start)
    (allowed : Tenure.allows account options (tenures turn.thread) turn.step)
    (heeds : Floor.allows told turn.step)
    (heard : ∀ floor, told = some (account, floor) → floor = pending)
    (served : world.serve ledger turn.step = (turn.reply, left)) :
    ∃ out, Settles account pending start (history ++ [turn]) left.book
      (Function.update tenures turn.thread
        ((tenures turn.thread).after turn.step turn.reply)) out := by
  have aside (undealt : turn.deal? = none) (kept : turn.loses = false)
      (unmoved : (tenures turn.thread).after turn.step turn.reply = tenures turn.thread)
      (same : left.book = world.book) :
      ∃ out, Settles account pending start (history ++ [turn]) left.book
        (Function.update tenures turn.thread
          ((tenures turn.thread).after turn.step turn.reply)) out := by
    rw [unmoved, Function.update_eq_self, same]
    exact ⟨out, settles.quiet undealt kept rfl settles.raised⟩
  obtain ⟨thread, step, reply⟩ := turn
  cases step with
  | ask call =>
      obtain rfl := (Prod.mk.inj served).2
      exact aside rfl rfl (by cases tenures thread <;> rfl) rfl
  | pause ms =>
      obtain rfl := (Prod.mk.inj served).2
      exact aside rfl rfl (by cases tenures thread <;> rfl) rfl
  | draw most =>
      obtain rfl := (Prod.mk.inj served).2
      exact aside rfl rfl (by cases tenures thread <;> rfl) rfl
  | note metric =>
      obtain rfl := (Prod.mk.inj served).2
      exact aside rfl rfl (by cases tenures thread <;> rfl) rfl
  | reserve other floor =>
      cases tenure : tenures thread with
      | holding nonce =>
          rw [tenure] at allowed
          exact allowed.elim
      | ended =>
          rw [tenure] at allowed
          exact allowed.elim
      | idle =>
          rw [tenure] at allowed
          obtain ⟨-, rfl⟩ := allowed
          obtain rfl := heard floor heeds
          have reserved : world.book.reserve other floor = (reply, left.book) :=
            congrArg (fun served => (served.1, served.2.book)) served
          cases reply with
          | error fault =>
              rw [NonceBook.reserve_error reserved]
              refine ⟨out, ?_⟩
              have unmoved : Function.update tenures thread .idle = tenures := by
                rw [← tenure, Function.update_eq_self]
              rw [show Tenure.after .idle (.reserve other floor) (.error fault) = .idle from rfl,
                unmoved]
              refine settles.quiet rfl rfl ?_ fun _ => ?_
              · rw [NonceBook.next_set_self]
                omega
              · rw [NonceBook.next_set_self]
                omega
          | ok nonce =>
              have fits := NonceBook.reserve_fits reserved
              obtain ⟨level, drawn⟩ := NonceBook.reserve_ok reserved
              rw [drawn]
              exact ⟨_, settles.draw fits level tenure floor⟩
  | release other returned =>
      cases tenure : tenures thread with
      | idle =>
          rw [tenure] at allowed
          exact allowed.elim
      | ended =>
          rw [tenure] at allowed
          exact allowed.elim
      | holding nonce =>
          rw [tenure] at allowed
          obtain ⟨-, rfl, rfl⟩ := allowed
          have released : world.book.release other returned = (reply, left.book) :=
            congrArg (fun served => (served.1, served.2.book)) served
          exact settles.release floored tenure released

end Settles

theorem Floor.after_eq (told : Option (Address × Nat)) (turn : Turn) :
    Floor.after told turn.step turn.reply = turn.told?.or told := by
  obtain ⟨thread, step, reply⟩ := turn
  cases step with
  | ask call =>
      cases call with
      | pendingNonce account => rcases reply with fault | answer <;> rfl
      | _ => rfl
  | _ => rfl

/-- How the book stands to what submissions of an account hold and have been told. -/
structure Accounted (account : Address) (pending start : Nat) (history : List Turn)
    (book : NonceBook) (phases : Nat → Tenure × Option (Address × Nat)) : Prop where
  settles : ∃ out, Settles account pending start history book (fun thread => (phases thread).1) out
  heard : ∀ thread floor, (phases thread).2 = some (account, floor) → floor = pending

theorem Accounted.step {σ : Type} {ledger : Ledger σ} {world after : World σ} {account : Address}
    {pending start : Nat} {history : List Turn} {phases : Nat → Tenure × Option (Address × Nat)}
    {options : SubmitOptions} {turn : Turn}
    (accounted : Accounted account pending start history world.book phases)
    (floored : pending ≤ start)
    (allowed : Tenure.allows account options (phases turn.thread).1 turn.step)
    (heeds : Floor.allows (phases turn.thread).2 turn.step)
    (told : ∀ answer, turn.told? = some (account, answer) → answer = pending)
    (served : world.serve ledger turn.step = (turn.reply, after)) :
    Accounted account pending start (history ++ [turn]) after.book
      (Function.update phases turn.thread
        ((phases turn.thread).1.after turn.step turn.reply,
          Floor.after (phases turn.thread).2 turn.step turn.reply)) where
  settles := by
    obtain ⟨out, settles⟩ := accounted.settles
    obtain ⟨left, next⟩ :=
      settles.step floored allowed heeds (accounted.heard turn.thread) served
    refine ⟨left, ?_⟩
    have tenures := Function.comp_update Prod.fst phases turn.thread
      ((phases turn.thread).1.after turn.step turn.reply,
        Floor.after (phases turn.thread).2 turn.step turn.reply)
    rw [← Function.comp_def, tenures]
    exact next
  heard := by
    intro thread floor here
    by_cases same : thread = turn.thread
    · subst same
      rw [Function.update_self, Floor.after_eq] at here
      obtain now | ⟨-, before⟩ := Option.or_eq_some_iff.mp here
      · exact told floor now
      · exact accounted.heard turn.thread floor before
    · rw [Function.update_of_ne same] at here
      exact accounted.heard thread floor here

namespace Tracker

variable {σ : Type} {account : Address} {pending : Nat}

/-- What is known of the nonces of one account after any number of steps of its submissions. -/
theorem crew_settles (ledger : Ledger σ) (tracker : Tracker) {orders : List Order} (world : World σ)
    (schedule : List Nat)
    (managed : ∀ order ∈ orders, order.signer.address = account ∧ order.options.nonce = none)
    (steady : Steady account pending ((tracker.crew orders world).play ledger schedule).1) :
    ∃ tenures out, Settles account pending (max (world.book.next account) pending)
        ((tracker.crew orders world).play ledger schedule).1
        ((tracker.crew orders world).play ledger schedule).2.world.book tenures out ∧
      ∀ thread e, ((tracker.crew orders world).play ledger schedule).2.threads[thread]? =
        some (.done (.error (.failure e))) → (tenures thread).Free := by
  have disciplined : Crew.Disciplined
      (fun thread => (Tenure.discipline (orderOf orders thread).signer.address
        (orderOf orders thread).options).both Floor.discipline)
      (fun thread phases outcome => phases.1.EndsWith (fun submission tenure =>
        submission.transaction.sender = (orderOf orders thread).signer.address ∧
          tenure = .carrying (orderOf orders thread).options submission.transaction.nonce)
        outcome ∧ True)
      (fun _ => (.idle, none)) (tracker.crew orders world).threads :=
    crew_keeps fun _ => Program.Keeps.both submit_keeps (submit_heeds none)
  -- Only threads that there are have turns, so each turn is one of a submission of the account.
  obtain ⟨phases, accounts, ended⟩ := disciplined.play ledger
    (fun history here phases => (∀ turn ∈ history, turn.thread < orders.length) →
      Steady account pending history →
      Accounted account pending (max (world.book.next account) pending) history here.book phases)
    (fun {_ _ _ turn _} accounts allowed served inside told => by
      have accounted := accounts (fun earlier listed => inside earlier (by simp [listed]))
        (fun earlier listed => told earlier (by simp [listed]))
      have listed := List.getElem?_eq_getElem (inside turn (by simp))
      obtain ⟨own, -⟩ := managed _ (List.mem_of_getElem? listed)
      have keeps := allowed.1
      rw [orderOf_eq listed, own] at keeps
      exact accounted.step (Nat.le_max_right _ _) keeps allowed.2 (told turn (by simp)) served)
    schedule (fun _ _ => ⟨⟨[], .begin world.book account pending⟩, fun _ _ => nofun⟩)
  have inside (turn : Turn) (taken : turn ∈ ((tracker.crew orders world).play ledger schedule).1) :
      turn.thread < orders.length := by
    have bound := Crew.thread_lt_of_mem_play taken
    rwa [crew, List.length_map] at bound
  obtain ⟨⟨out, settles⟩, -⟩ := accounts inside steady
  exact ⟨_, out, settles, fun thread e done => (ended thread _ done).1⟩

/-- Where every submission of an account failed, the next nonce is the one that would have been given
out before them, unless one of them gave its nonce back while one drawn later was out. Then it is
higher, by as much as hand-backs were turned down. -/
theorem nonces_return_unless_overtaken (ledger : Ledger σ) (tracker : Tracker) (orders : List Order)
    (world : World σ) (schedule : List Nat) (account : Address) (pending : Nat)
    (managed : ∀ order ∈ orders, order.signer.address = account ∧ order.options.nonce = none)
    (steady : Steady account pending ((tracker.crew orders world).play ledger schedule).1)
    (failed : ∀ program ∈ ((tracker.crew orders world).play ledger schedule).2.threads,
      ∃ e, program = .done (.error (.failure e))) :
    let (turns, last) := (tracker.crew orders world).play ledger schedule
    let before := (world.book.reserve account pending).1
    let after := (last.world.book.reserve account pending).1
    (after = before ↔ ¬ Overtaken (deals turns)) ∧
      ∀ nonce later, before = .ok nonce → after = .ok later →
        later = nonce + turns.countP Turn.loses := by
  obtain ⟨tenures, out, settles, free⟩ :=
    crew_settles ledger tracker world schedule managed steady
  have length := Crew.length_play ledger (tracker.crew orders world) schedule
  have inside (turn : Turn) (taken : turn ∈ ((tracker.crew orders world).play ledger schedule).1) :=
    Crew.thread_lt_of_mem_play taken
  cases played : (tracker.crew orders world).play ledger schedule with
  | mk turns last =>
      simp only [played] at settles free length inside failed ⊢
      -- A nonce that is out is held by a submission, and those that failed hold none.
      have nothing : out = [] := by
        refine List.eq_nil_iff_forall_not_mem.mpr fun entry listed => ?_
        obtain ⟨thread, nonce⟩ := entry
        have held := (settles.holding thread nonce).mpr listed
        obtain ⟨turn, taken, rfl⟩ := settles.drawer listed
        have bound := inside turn taken
        rw [← length] at bound
        obtain ⟨e, done⟩ := failed _ (List.getElem_mem bound)
        exact free turn.thread e (List.getElem?_eq_some_iff.mpr ⟨bound, done⟩) nonce held
      subst nothing
      have count := settles.dealt.count
      have missing := settles.dealt.missing
      rw [List.length_nil, Nat.add_zero] at count
      refine ⟨⟨fun same overtaken => ?_, fun even => ?_⟩, fun nonce later first second => ?_⟩
      · have lost := missing.mpr overtaken
        have dealing : deals turns ≠ [] := by
          intro undealt
          rw [undealt] at overtaken
          simp [Overtaken] at overtaken
        have first : (world.book.reserve account pending).1 =
            .ok (max (world.book.next account) pending) :=
          congrArg Prod.fst (NonceBook.reserve_of_fits (settles.room dealing))
        rw [first] at same
        have second := (NonceBook.reserve_ok (Prod.ext same rfl)).1
        omega
      · have lost : turns.countP Turn.loses = 0 := Nat.eq_zero_of_not_pos (mt missing.mp even)
        rw [NonceBook.reserve_fst, NonceBook.reserve_fst, count, lost, Nat.add_zero]
      · have low := (NonceBook.reserve_ok (Prod.ext first rfl)).1
        have high := (NonceBook.reserve_ok (Prod.ext second rfl)).1
        omega

/-- The ledger in memory tells everyone one and the same nonce. -/
theorem chain_steady [Chain.Surroundings] {α : Type} (crew : Crew Chain α) (schedule : List Nat)
    (account : Address) : Steady account 0 (crew.play Chain.ledger schedule).1 := by
  intro turn taken answer told
  obtain ⟨world, after, served⟩ := Crew.served_of_mem_play taken
  obtain ⟨thread, step, reply⟩ := turn
  unfold Turn.told? at told
  split at told
  · next asked pending replied =>
      cases replied
      cases told
      have answered : (world.ledger.answer (.pendingNonce account)).1 = .ok answer :=
        congrArg Prod.fst served
      exact Chain.answer_pendingNonce (Prod.ext answered rfl)
  · cases told

/-- Both submissions of a pair were signed, and turned away by the ledger. -/
def BothTurnedAway (signer : Signer) (turns : List Turn) : Prop :=
  ∀ number ∈ [0, 1], ∃ signed, (letter signer number).sign = .ok signed ∧
    (⟨UInt8.toNat number, .ask (.sendRaw signed.raw), .error (.failure turningAway)⟩ : Turn) ∈ turns

/-- The nonces of two submissions come back, the one that was drawn last first. -/
theorem nonces_return_in_reverse :
    let (turns, last) := (usual.crew (pair default) refusing).play Chain.ledger
      [0, 0, 0, 0, 1, 1, 1, 1, 1, 1, 1, 0, 0, 0]
    (∀ order ∈ pair default,
        order.signer.address = (default : Signer).address ∧ order.options.nonce = none) ∧
      Steady (default : Signer).address 0 turns ∧ BothTurnedAway default turns ∧
      (∀ program ∈ last.threads, ∃ e, program = .done (.error (.failure e))) ∧
      ¬ Overtaken (deals turns) ∧
      (last.world.book.reserve (default : Signer).address 0).1 =
        (refusing.book.reserve (default : Signer).address 0).1 := by
  -- The address is not to be computed from here on.
  have signed := letters_signed
  generalize (default : Signer) = signer at signed ⊢
  obtain ⟨first, second, firstDone, secondDone⟩ := signed
  have start : Stands 0 .empty _ (usual.crew (pair signer) refusing) := ⟨rfl, rfl, rfl⟩
  obtain ⟨_, held, doomed, stands, draws⟩ := start.draw 0 signer 0 firstDone true rfl rfl
  obtain ⟨_, beside, doomedToo, stands, drawsToo⟩ :=
    stands.draw 1 signer 1 secondDone true rfl NonceBook.next_set_self
  obtain ⟨_, stands, gives⟩ :=
    stands.giveBack 1 doomedToo rfl (NonceBook.release_top NonceBook.next_set_self (by decide))
  obtain ⟨last, stands, givesToo⟩ :=
    stands.giveBack 0 doomed rfl (NonceBook.release_top NonceBook.next_set_self (by decide))
  have played := draws [1, 1, 1, 1, 1, 1, 1, 0, 0, 0]
  rw [drawsToo, gives, givesToo, Crew.play] at played
  have managed : ∀ order ∈ pair signer,
      order.signer.address = signer.address ∧ order.options.nonce = none := by
    simp [pair, errand]
  have steady := chain_steady (usual.crew (pair signer) refusing)
    [0, 0, 0, 0, 1, 1, 1, 1, 1, 1, 1, 0, 0, 0] signer.address
  have failed : ∀ program ∈ last.threads, ∃ e, program = .done (.error (.failure e)) := by
    intro program member
    rw [stands.threads] at member
    change program ∈ [.done (.error (.failure turningAway)),
      .done (.error (.failure turningAway))] at member
    obtain rfl | rfl := List.mem_pair.mp member <;> exact ⟨turningAway, rfl⟩
  have returned := nonces_return_unless_overtaken Chain.ledger usual (pair signer) refusing
    [0, 0, 0, 0, 1, 1, 1, 1, 1, 1, 1, 0, 0, 0] signer.address 0 managed steady
    (by rw [played]; exact failed)
  rw [played] at steady returned ⊢
  have even : ¬ Overtaken [.drawn 0, .drawn 1, .returned 1, .returned 0] := by
    have one : Dealt 0 [.drawn 0] 1 0 [(0, 0)] := (Dealt.nothing 0).draw (by decide)
    have two : Dealt 0 [.drawn 0, .drawn 1] 2 0 ([(0, 0)] ++ [(1, 1)]) := one.draw (by decide)
    have left : Dealt 0 [.drawn 0, .drawn 1, .returned 1] 1 0 ([] ++ [(0, 0)]) := two.takeBack
    exact fun overtaken => Nat.lt_irrefl 0 (left.takeBack.missing.mpr overtaken)
  refine ⟨managed, steady, ?_, failed, even, returned.1.mpr even⟩
  intro number listed
  obtain rfl | rfl := List.mem_pair.mp listed
  · exact ⟨first, firstDone, by simp [returning, Exchange.turn]⟩
  · exact ⟨second, secondDone, by simp [returning, Exchange.turn]⟩

/-- The nonces of two submissions come back in the order in which they were drawn, and the account
waits for the first one from then on. -/
theorem early_hand_back_leaves_a_gap :
    let (turns, last) := (usual.crew (pair default) refusing).play Chain.ledger
      [0, 0, 0, 0, 1, 1, 1, 1, 0, 0, 0, 1, 1, 1]
    (∀ turn ∈ turns, turn.rejects) ∧ BothTurnedAway default turns ∧
      (∀ program ∈ last.threads, ∃ e, program = .done (.error (.failure e))) ∧
      (refusing.book.reserve (default : Signer).address 0).1 = .ok 0 ∧
      (last.world.book.reserve (default : Signer).address 0).1 = .ok 1 := by
  -- The address is not to be computed from here on.
  have signed := letters_signed
  generalize (default : Signer) = signer at signed ⊢
  obtain ⟨first, second, firstDone, secondDone⟩ := signed
  have start : Stands 0 .empty _ (usual.crew (pair signer) refusing) := ⟨rfl, rfl, rfl⟩
  obtain ⟨_, held, doomed, stands, draws⟩ := start.draw 0 signer 0 firstDone false rfl rfl
  obtain ⟨_, beside, doomedToo, stands, drawsToo⟩ :=
    stands.draw 1 signer 1 secondDone true rfl NonceBook.next_set_self
  obtain ⟨_, stands, gives⟩ :=
    stands.giveBack 0 doomed rfl (NonceBook.release_buried (by simp) (by decide))
  obtain ⟨last, stands, givesToo⟩ :=
    stands.giveBack 1 doomedToo rfl (NonceBook.release_top NonceBook.next_set_self (by decide))
  rw [draws, drawsToo, gives, givesToo, Crew.play]
  refine ⟨?_, fun number listed => ?_, fun program member => ?_, rfl, ?_⟩
  · simp [drawing, returning, Exchange.turn, Turn.rejects]
  · obtain rfl | rfl := List.mem_pair.mp listed
    · exact ⟨first, firstDone, by simp [returning, Exchange.turn]⟩
    · exact ⟨second, secondDone, by simp [returning, Exchange.turn]⟩
  · rw [stands.threads] at member
    change program ∈ [.done (.error (.failure turningAway)),
      .done (.error (.failure turningAway))] at member
    obtain rfl | rfl := List.mem_pair.mp member <;> exact ⟨turningAway, rfl⟩
  · rw [stands.book, NonceBook.reserve_of_fits]
    · simp
    · simp [Checked.limit]

end Tracker

end Notary
