import Notary.Proofs.Nonces.Book
import Notary.Proofs.Nonces.Tenure

namespace Notary

/-!
Submissions beside each other on one tracker. At every moment the nonces that submissions of one
account hold lie below the account's counter and differ from each other; so giving one back, which
lowers the counter onto it, never uncovers another one.
-/

open Crew (Turn)

/-- The nonce that a turn handed out, with its account. -/
def Crew.Turn.handedOut? : Turn → Option (Address × Nat)
  | ⟨_, .reserve account _, .ok nonce⟩ => some (account, nonce)
  | _ => none

/-- The step is served alike with any book of nonces, and leaves that book as it is. -/
def Step.IgnoresBook (step : Step) : Prop :=
  ∀ (σ : Type) (ledger : Ledger σ) (world : World σ) (book : NonceBook),
    { world with book }.serve ledger step =
      ((world.serve ledger step).1, { (world.serve ledger step).2 with book })

theorem Step.Aloof.ignoresBook {step : Step} (aloof : step.Aloof) : step.IgnoresBook := by
  intro σ ledger world book
  cases step with
  | reserve | release => exact aloof.elim
  | ask call => rfl
  | pause | draw | note => rfl

namespace Tenure

/-- What a step that a submission is allowed can do to the book and to its tenure, and the nonce that it
hands out. -/
inductive Effect (account : Address) (book : NonceBook) (tenure : Tenure) :
    Option (Address × Nat) → NonceBook → Tenure → Prop where
  | quiet : Effect account book tenure none book tenure
  | refused (floor : Nat) :
      Effect account book tenure none (book.set account (max (book.next account) floor)) tenure
  | drawn (nonce : Nat) (unused : tenure = idle) (fresh : book.next account ≤ nonce) :
      Effect account book tenure (some (account, nonce)) (book.set account (nonce + 1))
        (holding nonce)
  | kept (nonce : Nat) (held : tenure = holding nonce) : Effect account book tenure none book ended
  | returned (nonce : Nat) (held : tenure = holding nonce)
      (latest : book.next account = nonce + 1) :
      Effect account book tenure none (book.set account nonce) ended

variable {σ : Type} {ledger : Ledger σ} {world after : World σ} {account : Address}
  {options : SubmitOptions} {tenure : Tenure} {turn : Turn}

theorem allows_effect (allowed : allows account options tenure turn.step)
    (served : world.serve ledger turn.step = (turn.reply, after)) :
    Effect account world.book tenure turn.handedOut? after.book
      (tenure.after turn.step turn.reply) := by
  obtain ⟨thread, step, reply⟩ := turn
  cases step with
  | ask call =>
      obtain rfl := (Prod.mk.inj served).2
      cases tenure <;> exact .quiet
  | pause ms =>
      obtain rfl := (Prod.mk.inj served).2
      cases tenure <;> exact .quiet
  | draw most =>
      obtain rfl := (Prod.mk.inj served).2
      cases tenure <;> exact .quiet
  | note metric =>
      obtain rfl := (Prod.mk.inj served).2
      cases tenure <;> exact .quiet
  | reserve other floor =>
      cases tenure with
      | holding nonce => exact allowed.elim
      | ended => exact allowed.elim
      | idle =>
          obtain ⟨-, rfl⟩ := allowed
          have reserved : world.book.reserve other floor = (reply, after.book) :=
            congrArg (fun served => (served.1, served.2.book)) served
          cases reply with
          | error fault =>
              rw [NonceBook.reserve_error reserved]
              exact .refused floor
          | ok nonce =>
              obtain ⟨value, left⟩ := NonceBook.reserve_ok reserved
              rw [left]
              exact .drawn nonce rfl (by omega)
  | release other returned =>
      cases tenure with
      | idle => exact allowed.elim
      | ended => exact allowed.elim
      | holding nonce =>
          obtain ⟨-, rfl, rfl⟩ := allowed
          have released : world.book.release other returned = (reply, after.book) :=
            congrArg (fun served => (served.1, served.2.book)) served
          obtain unchanged | ⟨latest, left⟩ := NonceBook.release_eq released
          · rw [unchanged]
            exact .kept returned rfl
          · rw [left]
            exact .returned returned rfl latest

/-- A submission that brings a nonce is allowed nothing that has to do with the book. -/
theorem allows_aloof (brought : options.nonce ≠ none)
    (allowed : allows account options tenure turn.step) : turn.step.Aloof := by
  obtain ⟨thread, step, reply⟩ := turn
  cases step with
  | ask call => cases call <;> cases tenure <;> first | exact absurd allowed brought | trivial
  | reserve other floor =>
      cases tenure with
      | idle => exact absurd allowed.1 brought
      | holding nonce => exact allowed.elim
      | ended => exact allowed.elim
  | release other returned =>
      cases tenure with
      | idle => exact allowed.elim
      | holding nonce => exact absurd allowed.1 brought
      | ended => exact allowed.elim
  | pause | draw | note => trivial

variable {book left : NonceBook} {moved : Tenure} {handed : Option (Address × Nat)} {other : Address}
  {nonce : Nat}

namespace Effect

/-- No nonce below its account's counter is handed out. -/
theorem fresh (effect : Effect account book tenure handed left moved)
    (below : nonce < book.next other) : handed ≠ some (other, nonce) := by
  cases effect with
  | drawn drawn unused above =>
      intro same
      cases same
      omega
  | quiet | refused | kept | returned => simp

/-- A nonce below its account's counter stays below it, unless it is the one given back. -/
theorem below (effect : Effect account book tenure handed left moved)
    (below : nonce < book.next other) (spared : other = account → tenure ≠ holding nonce) :
    nonce < left.next other := by
  by_cases same : other = account
  · subst same
    cases effect with
    | quiet => exact below
    | refused floor => simp; omega
    | drawn drawn unused above => simp; omega
    | kept => exact below
    | returned given held latest =>
        have differs : given ≠ nonce := fun same => spared rfl (same ▸ held)
        simp
        omega
  · cases effect <;> simpa [NonceBook.next_set_of_ne same] using below

/-- What is held after a step was held before it, or has just been drawn. -/
theorem holding (effect : Effect account book tenure handed left moved)
    (holds : moved = .holding nonce) :
    tenure = .holding nonce ∨ handed = some (account, nonce) ∧ book.next account ≤ nonce := by
  cases effect with
  | quiet | refused => exact .inl holds
  | kept | returned => cases holds
  | drawn drawn unused above =>
      cases holds
      exact .inr ⟨rfl, above⟩

theorem holding_below (effect : Effect account book tenure handed left moved)
    (holds : moved = .holding nonce)
    (below : ∀ held, tenure = .holding held → held < book.next account) :
    nonce < left.next account := by
  cases effect with
  | quiet => exact below nonce holds
  | refused floor =>
      have := below nonce holds
      simp
      omega
  | kept | returned => cases holds
  | drawn drawn unused above =>
      cases holds
      simp

end Effect

end Tenure

theorem Crew.Turn.eq_of_handedOut? {turn : Turn} {account : Address} {nonce : Nat}
    (handed : turn.handedOut? = some (account, nonce)) :
    ∃ floor, turn = ⟨turn.thread, .reserve account floor, .ok nonce⟩ := by
  unfold handedOut? at handed
  split at handed
  · next thread other floor drawn =>
      cases handed
      exact ⟨floor, rfl⟩
  · cases handed

/-- How the tenures of submissions stand to the book and to the turns so far. -/
structure Consistent (account : Nat → Address) (options : Nat → SubmitOptions) (history : List Turn)
    (book : NonceBook) (tenures : Nat → Tenure) : Prop where
  below : ∀ thread nonce, tenures thread = .holding nonce → nonce < book.next (account thread)
  distinct : ∀ thread other nonce, tenures thread = .holding nonce →
    tenures other = .holding nonce → account thread = account other → thread = other
  drawn : ∀ thread nonce, tenures thread = .holding nonce → ∃ before floor after,
    history = before ++ ⟨thread, .reserve (account thread) floor, .ok nonce⟩ :: after ∧
      ∀ turn ∈ after, turn.handedOut? ≠ some (account thread, nonce)
  aloof : ∀ turn ∈ history, (options turn.thread).nonce ≠ none → turn.step.Aloof

namespace Consistent

variable {account : Nat → Address} {options : Nat → SubmitOptions} {history : List Turn}
  {book left : NonceBook} {tenures : Nat → Tenure} {turn : Turn} {moved : Tenure} {thread nonce : Nat}

theorem start (book : NonceBook) : Consistent account options [] book fun _ => .idle where
  below _ _ := nofun
  distinct _ _ _ := nofun
  drawn _ _ := nofun
  aloof _ := nofun

/-- A thread that holds a nonce after a turn held it before, or drew it in the turn. -/
theorem holding
    (effect : Tenure.Effect (account turn.thread) book (tenures turn.thread) turn.handedOut? left moved)
    (holds : Function.update tenures turn.thread moved thread = .holding nonce) :
    tenures thread = .holding nonce ∨ thread = turn.thread ∧
      turn.handedOut? = some (account thread, nonce) ∧ book.next (account thread) ≤ nonce := by
  by_cases same : thread = turn.thread
  · subst same
    rw [Function.update_self] at holds
    exact (effect.holding holds).imp_right fun drawn => ⟨rfl, drawn⟩
  · rw [Function.update_of_ne same] at holds
    exact .inl holds

theorem step (consistent : Consistent account options history book tenures)
    (effect : Tenure.Effect (account turn.thread) book (tenures turn.thread) turn.handedOut? left moved)
    (aloof : (options turn.thread).nonce ≠ none → turn.step.Aloof) :
    Consistent account options (history ++ [turn]) left
      (Function.update tenures turn.thread moved) where
  below thread nonce holds := by
    by_cases same : thread = turn.thread
    · subst same
      rw [Function.update_self] at holds
      exact effect.holding_below holds (consistent.below _)
    · rw [Function.update_of_ne same] at holds
      refine effect.below (consistent.below thread nonce holds) fun accounts given => same ?_
      exact consistent.distinct thread turn.thread nonce holds given accounts
  distinct thread other nonce first second accounts := by
    obtain held | ⟨here, -, above⟩ := holding effect first
    · obtain heldToo | ⟨-, -, above⟩ := holding effect second
      · exact consistent.distinct thread other nonce held heldToo accounts
      · have below := consistent.below thread nonce held
        rw [accounts] at below
        omega
    · obtain heldToo | ⟨there, -, -⟩ := holding effect second
      · have below := consistent.below other nonce heldToo
        rw [accounts] at above
        omega
      · exact here.trans there.symm
  drawn thread nonce holds := by
    obtain held | ⟨here, handed, -⟩ := holding effect holds
    · obtain ⟨before, floor, after, shape, unused⟩ := consistent.drawn thread nonce held
      refine ⟨before, floor, after ++ [turn], by simp [shape], fun later mem => ?_⟩
      obtain earlier | last := List.mem_append.mp mem
      · exact unused later earlier
      · rw [List.mem_singleton.mp last]
        exact effect.fresh (consistent.below thread nonce held)
    · obtain ⟨floor, shape⟩ := Crew.Turn.eq_of_handedOut? handed
      rw [← here] at shape
      exact ⟨history, floor, [], by rw [← shape], fun later => nofun⟩
  aloof later mem := by
    obtain earlier | last := List.mem_append.mp mem
    · exact consistent.aloof later earlier
    · rw [List.mem_singleton.mp last]
      exact aloof

end Consistent

namespace Tracker

structure Order where
  signer : Signer
  payload : Bytes
  options : SubmitOptions

instance : Inhabited Order := ⟨default, [], ⟨0, none, none⟩⟩

/-- One tracker's submissions, each a thread of its own. -/
def crew {σ : Type} (tracker : Tracker) (orders : List Order) (world : World σ) :
    Crew σ (Except Fault Submission) :=
  ⟨world, orders.map fun order => (tracker.submit order.signer order.payload order.options).run⟩

/-- The submission of an order without a nonce of its own was accepted. -/
def Accepted {σ : Type} (orders : List Order) (crew : Crew σ (Except Fault Submission))
    (thread : Nat) (submission : Submission) : Prop :=
  ∃ order, orders[thread]? = some order ∧ order.options.nonce = none ∧
    crew.threads[thread]? = some (.done (.ok submission))

variable {σ : Type} {tracker : Tracker} {orders : List Order} {world : World σ}

/-- The order of a thread, or any order where there is none. -/
def orderOf (orders : List Order) (thread : Nat) : Order :=
  orders.getD thread default

theorem orderOf_eq {thread : Nat} {order : Order} (listed : orders[thread]? = some order) :
    orderOf orders thread = order := by
  rw [orderOf, List.getD_eq_getElem?_getD, listed, Option.getD_some]

/-- What the submission of each order keeps, the threads of the crew keep. -/
theorem crew_keeps_listed {τ : Type} {phase : τ} {post : Order → τ → Except Fault Submission → Prop}
    {discipline : Order → Discipline τ}
    (kept : ∀ order ∈ orders, (tracker.submit order.signer order.payload order.options).Keeps
      (discipline order) (post order) phase) :
    Crew.Disciplined (fun thread => discipline (orderOf orders thread))
      (fun thread => post (orderOf orders thread)) (fun _ => phase)
      (tracker.crew orders world).threads := by
  intro thread program found
  unfold crew at found
  rw [List.getElem?_map] at found
  cases listed : orders[thread]? with
  | none => simp [listed] at found
  | some order =>
      simp only [listed, Option.map_some, Option.some.injEq] at found
      rw [← found]
      simp only [orderOf_eq listed]
      exact kept order (List.mem_of_getElem? listed)

/-- What every submission keeps, the threads of the crew keep. -/
theorem crew_keeps {τ : Type} {phase : τ} {post : Order → τ → Except Fault Submission → Prop}
    {discipline : Order → Discipline τ}
    (kept : ∀ order : Order, (tracker.submit order.signer order.payload order.options).Keeps
      (discipline order) (post order) phase) :
    Crew.Disciplined (fun thread => discipline (orderOf orders thread))
      (fun thread => post (orderOf orders thread)) (fun _ => phase)
      (tracker.crew orders world).threads :=
  crew_keeps_listed fun order _ => kept order

theorem crew_disciplined :
    Crew.Disciplined
      (fun thread => Tenure.discipline (orderOf orders thread).signer.address
        (orderOf orders thread).options)
      (fun thread tenure => tenure.EndsWith fun submission tenure =>
        submission.transaction.sender = (orderOf orders thread).signer.address ∧
          tenure = .carrying (orderOf orders thread).options submission.transaction.nonce)
      (fun _ => .idle) (tracker.crew orders world).threads :=
  crew_keeps fun _ => submit_keeps

/-- What is known of submissions after any number of their steps in any order. -/
theorem crew_play (ledger : Ledger σ) (tracker : Tracker) (orders : List Order) (world : World σ)
    (schedule : List Nat) :
    ∃ tenures, Consistent (fun thread => (orderOf orders thread).signer.address)
        (fun thread => (orderOf orders thread).options)
        ((tracker.crew orders world).play ledger schedule).1
        ((tracker.crew orders world).play ledger schedule).2.world.book tenures ∧
      ∀ thread submission, Accepted orders ((tracker.crew orders world).play ledger schedule).2
        thread submission →
        submission.transaction.sender = (orderOf orders thread).signer.address ∧
          tenures thread = .holding submission.transaction.nonce := by
  obtain ⟨tenures, consistent, disciplined⟩ :=
    crew_disciplined.play ledger
      (fun history world => Consistent (fun thread => (orderOf orders thread).signer.address)
        (fun thread => (orderOf orders thread).options) history world.book)
      (fun consistent allowed served => consistent.step (Tenure.allows_effect allowed served)
        fun brought => Tenure.allows_aloof brought allowed)
      schedule (Consistent.start world.book)
  refine ⟨tenures, consistent, ?_⟩
  rintro thread submission ⟨order, listed, managed, ended⟩
  obtain ⟨sender, tenure⟩ := disciplined thread _ ended
  rw [orderOf_eq listed] at sender tenure
  rw [Tenure.carrying, managed] at tenure
  rw [orderOf_eq listed]
  exact ⟨sender, tenure⟩

/-- Whatever the ledger answers and in whatever order submissions take their steps: those that were
accepted with nonces of the tracker's choice have different nonces wherever they have one sender; such
a nonce was handed out for the submission, and never again; and a submission with a nonce of
its own has nothing to do with the book, nor asks the ledger for a nonce. -/
theorem submissions_never_share_a_nonce (ledger : Ledger σ) (tracker : Tracker) (orders : List Order)
    (world : World σ) (schedule : List Nat) :
    let (turns, last) := (tracker.crew orders world).play ledger schedule
    (∀ thread other submission another, Accepted orders last thread submission →
      Accepted orders last other another → thread ≠ other →
      submission.transaction.sender = another.transaction.sender →
      submission.transaction.nonce ≠ another.transaction.nonce) ∧
    (∀ thread submission, Accepted orders last thread submission →
      (∃ before floor after, turns = before ++
          ⟨thread, .reserve submission.transaction.sender floor,
            .ok submission.transaction.nonce⟩ :: after ∧
        ∀ turn ∈ after, turn.handedOut? ≠
          some (submission.transaction.sender, submission.transaction.nonce)) ∧
      ∀ floor, (last.world.book.reserve submission.transaction.sender floor).1 ≠
        .ok submission.transaction.nonce) ∧
    ∀ turn ∈ turns, ∀ order, orders[turn.thread]? = some order → order.options.nonce ≠ none →
      turn.step.IgnoresBook ∧ ∀ account, turn.step ≠ .ask (.pendingNonce account) := by
  obtain ⟨tenures, consistent, accepted⟩ := crew_play ledger tracker orders world schedule
  cases played : (tracker.crew orders world).play ledger schedule with
  | mk turns last =>
      simp only [played] at consistent accepted
      refine ⟨?_, ?_, ?_⟩
      · intro thread other submission another first second differ sender same
        obtain ⟨account, held⟩ := accepted thread submission first
        obtain ⟨accountToo, heldToo⟩ := accepted other another second
        refine differ (consistent.distinct thread other _ held (same ▸ heldToo) ?_)
        rw [← account, ← accountToo, sender]
      · intro thread submission done
        obtain ⟨account, held⟩ := accepted thread submission done
        rw [account]
        refine ⟨consistent.drawn thread _ held, fun floor again => ?_⟩
        have drawn := NonceBook.reserve_ok (Prod.ext again rfl)
        have below := consistent.below thread _ held
        omega
      · intro turn taken order listed brought
        have aloof := consistent.aloof turn taken (by rwa [orderOf_eq listed])
        refine ⟨aloof.ignoresBook, fun account asked => ?_⟩
        rw [asked] at aloof
        exact aloof

end Tracker

end Notary
