import Notary.Config.Validation
import Notary.Proofs.Delivery.Sending
import Notary.Proofs.Number.Order

namespace Notary

open Crew (Turn)

/-!
What submissions pay. The cap is held against the price that the ledger reports, in whole gwei, and
what is paid is that price multiplied. A submission whose price is above the cap takes no nonce and
sends nothing.
-/

namespace Tracker

variable {tracker : Tracker} {reported : Nat}

/-- What is paid for a unit of gas when the ledger reports a price. -/
def paid (tracker : Tracker) (reported : Nat) : Nat :=
  ((Binary64.ofNat reported).mul tracker.submission.gasPriceMultiplier).toWord 128

def Admits (tracker : Tracker) (reported : Nat) : Prop :=
  reported / weiPerGwei ≤ tracker.submission.maxGasPriceGwei

def refusal (tracker : Tracker) (reported : Nat) : Error :=
  .broadcast ("gas price " ++ toString (reported / weiPerGwei) ++ " gwei exceeds cap of "
    ++ toString tracker.submission.maxGasPriceGwei ++ " gwei")

theorem offeredPrice_of_admits (admitted : tracker.Admits reported) :
    tracker.offeredPrice reported = .ok (tracker.paid reported) :=
  if_neg (Nat.not_lt.mpr admitted)

theorem offeredPrice_of_not_admits (refused : ¬ tracker.Admits reported) :
    tracker.offeredPrice reported = .error (tracker.refusal reported) :=
  if_pos (Nat.not_le.mp refused)

/-- The greatest price that is admitted is one wei short of the first whole gwei above the cap. -/
theorem admits_iff :
    tracker.Admits reported ↔
      reported ≤ tracker.submission.maxGasPriceGwei * weiPerGwei + (weiPerGwei - 1) := by
  rw [Admits, ← Nat.lt_succ_iff, Nat.div_lt_iff_lt_mul (by decide), Nat.succ_mul]
  have size : 0 < weiPerGwei := by decide
  omega

/-- With a positive multiplier, a bound on what is paid for all prices that are admitted is a bound on
what is paid for the greatest one. -/
theorem paid_le_iff (positive : tracker.submission.gasPriceMultiplier.isPositive = true)
    (bound : Nat) :
    (∀ reported, tracker.Admits reported → tracker.paid reported ≤ bound) ↔
      tracker.paid (tracker.submission.maxGasPriceGwei * weiPerGwei + (weiPerGwei - 1)) ≤ bound := by
  constructor
  · exact fun bounded => bounded _ (admits_iff.mpr (Nat.le_refl _))
  · intro greatest reported admitted
    exact (Binary64.toWord_ofNat_mul_mono 128 positive (admits_iff.mp admitted)).trans greatest

/-- The bytes are the signed form of the order at the price for what is reported. -/
def Pays (tracker : Tracker) (order : Order) (reported : Nat) (raw : Bytes) : Prop :=
  ∃ terms signed, terms.gasPrice = tracker.paid reported ∧
    order.signer.signPayload order.payload order.options.appId terms = .ok signed ∧
    raw = signed.raw

end Tracker

/-- What a submission knows of the price. -/
inductive Pricing where
  | unasked
  | told (reported : Nat)

namespace Pricing

/-- The steps that have to do with the head, the price or a count alone. -/
def Opens : Step → Prop
  | .ask .blockNumber | .ask .gasPrice | .note _ => True
  | _ => False

def allows (tracker : Tracker) (order : Tracker.Order) : Pricing → Step → Prop
  | unasked, step => Opens step
  | told _, .note _ => True
  | told reported, .ask (.sendRaw raw) => tracker.Admits reported ∧ tracker.Pays order reported raw
  | told reported, .ask (.pendingNonce _) | told reported, .reserve _ _ | told reported, .release _ _ =>
      tracker.Admits reported
  | told _, _ => False

def after : Pricing → (step : Step) → step.Reply → Pricing
  | unasked, .ask .gasPrice, .ok (reported : Nat) => told reported
  | pricing, _, _ => pricing

/-- What a submission may do with the price it is told, which it asks for once. -/
def discipline (tracker : Tracker) (order : Tracker.Order) : Discipline Pricing :=
  ⟨allows tracker order, after⟩

variable {tracker : Tracker} {order : Tracker.Order} {reported : Nat} {step : Step}

@[simp] theorem after_told {reply : step.Reply} :
    after (told reported) step reply = told reported := rfl

/-- Work at a price that is admitted stays at that price. -/
def Works {α : Type} (tracker : Tracker) (order : Tracker.Order) (reported : Nat)
    (accepts : α → Prop) (task : Task α) : Prop :=
  task.Keeps (discipline tracker order)
    (fun pricing outcome => pricing = told reported ∧ ∀ result, outcome = .ok result → accepts result)
    (told reported)

variable {α β : Type} {accepts : β → Prop}

theorem Works.bind {middle : α → Prop} {task : Task α} {f : α → Task β}
    (first : Works tracker order reported middle task)
    (rest : ∀ result, middle result → Works tracker order reported accepts (f result)) :
    Works tracker order reported accepts (task >>= f) := by
  refine Task.keeps_bind.mpr (Task.Keeps.mono first ?_)
  rintro pricing outcome ⟨rfl, accepted⟩
  cases outcome with
  | ok result => exact rest result (accepted result rfl)
  | error fault => exact ⟨rfl, fun _ => nofun⟩

theorem works_pure {result : β} (accepted : accepts result) :
    Works tracker order reported accepts (pure result) := by
  refine ⟨rfl, fun other same => ?_⟩
  cases same
  exact accepted

theorem works_fail {e : Error} : Works tracker order reported accepts (Task.fail e) :=
  ⟨rfl, fun _ => nofun⟩

theorem works_settled {outcome : Except Fault α} :
    Works tracker order reported (fun _ => True) (Task.settled outcome) :=
  ⟨rfl, fun _ _ => trivial⟩

theorem ask_works {call : Call} (allowed : allows tracker order (told reported) (.ask call)) :
    Works tracker order reported (fun _ => True) (Task.ask call) :=
  Task.keeps_ask.mpr ⟨allowed, fun _ => ⟨rfl, fun _ _ => trivial⟩⟩

end Pricing

namespace Tracker

open Pricing

variable {tracker : Tracker} {order : Order} {reported : Nat} {account : Address}

theorem chooseNonce_works (admitted : tracker.Admits reported) (order : Order) (account : Address)
    (options : SubmitOptions) :
    Works tracker order reported (fun _ => True) (chooseNonce account options) := by
  unfold chooseNonce
  cases options.nonce with
  | some own => exact works_pure trivial
  | none =>
      have asked : Works tracker order reported (fun _ => True)
          (Task.ask (.pendingNonce account)) := ask_works admitted
      refine asked.bind fun pending _ => ?_
      exact Task.keeps_reserve.mpr ⟨admitted, fun _ => ⟨rfl, fun _ _ => trivial⟩⟩

theorem giveBack_works (admitted : tracker.Admits reported) (order : Order) (account : Address)
    (options : SubmitOptions) (nonce : Nat) :
    Works tracker order reported (fun _ => True) (giveBack account options nonce) := by
  unfold giveBack
  cases options.nonce with
  | some own => exact works_pure trivial
  | none =>
      have released : Works tracker order reported (fun _ => True) (Task.release account nonce) :=
        Task.keeps_release.mpr ⟨admitted, fun _ => ⟨rfl, fun _ _ => trivial⟩⟩
      exact released.bind fun _ _ => works_pure trivial

theorem broadcast_works {signed : SignedTransaction} (admitted : tracker.Admits reported)
    (pays : tracker.Pays order reported signed.raw) (options : SubmitOptions) :
    Works tracker order reported (fun _ => True) (broadcast options signed) := by
  unfold broadcast
  refine Task.keeps_bind.mpr (Task.keeps_attempt.mpr (Task.keeps_ask.mpr ⟨⟨admitted, pays⟩, ?_⟩))
  intro reply
  apply Task.goesOn_ok.mpr
  rcases reply with (e | message) | hash
  · by_cases known : Rejection.isAlreadyKnown e.message
    · simp only [known, if_true]
      exact works_pure trivial
    · simp only [known]
      exact (giveBack_works admitted order signed.sender options signed.nonce).bind
        fun _ _ => works_fail
  · exact ⟨rfl, fun _ => nofun⟩
  · exact works_pure trivial

/-- How work that asks for the price ends: at an admitted price if it succeeds, and with the refusal of
the price if that is not admitted. -/
def Prices {α : Type} (tracker : Tracker) (accepts : Nat → α → Prop) (pricing : Pricing)
    (outcome : Except Fault α) : Prop :=
  match pricing with
  | .unasked => ∀ result, outcome ≠ .ok result
  | .told reported =>
      (¬ tracker.Admits reported → outcome = .error (.failure (tracker.refusal reported))) ∧
      ∀ result, outcome = .ok result → tracker.Admits reported ∧ accepts reported result

theorem Prices.asBroadcast {α : Type} {accepts : Nat → α → Prop} {pricing : Pricing}
    {outcome : Except Fault α} (prices : tracker.Prices accepts pricing outcome) :
    tracker.Prices accepts pricing (Task.changed asBroadcast outcome) := by
  have kept (result : α) (same : Task.changed Tracker.asBroadcast outcome = .ok result) :
      outcome = .ok result := by
    rcases outcome with (e | message) | result
    · cases same
    · cases same
    · exact same
  cases pricing with
  | unasked => exact fun result same => prices result (kept result same)
  | told reported =>
      refine ⟨fun refused => ?_, fun result same => prices.2 result (kept result same)⟩
      rw [prices.1 refused]
      rfl

theorem prices_of_works {α : Type} {accepts : Nat → α → Prop} {task : Task α}
    (admitted : tracker.Admits reported)
    (works : Works tracker order reported (accepts reported) task) :
    task.Keeps (discipline tracker order) (tracker.Prices accepts) (.told reported) := by
  refine Task.Keeps.mono works ?_
  rintro pricing outcome ⟨rfl, accepted⟩
  exact ⟨fun refused => absurd admitted refused, fun result same => ⟨admitted, accepted result same⟩⟩

theorem prepare_keeps_pricing {length : Nat} {options : SubmitOptions} :
    (tracker.prepare account length options).Keeps (discipline tracker order)
      (tracker.Prices fun reported terms => terms.gasPrice = tracker.paid reported) .unasked := by
  unfold prepare
  refine Task.keeps_bind.mpr (Task.keeps_ask.mpr ⟨trivial, fun reply => ?_⟩)
  cases reply with
  | error fault => exact fun _ => nofun
  | ok reported =>
      apply Task.goesOn_ok.mpr
      by_cases admitted : tracker.Admits reported
      · rw [offeredPrice_of_admits admitted]
        have chosen := chooseNonce_works admitted order account options
        apply prices_of_works admitted
        refine chosen.bind fun nonce _ => works_settled.bind fun dataLength _ => ?_
        exact works_settled.bind fun gasLimit _ => works_pure rfl
      · rw [offeredPrice_of_not_admits admitted]
        exact ⟨fun _ => rfl, fun _ => nofun⟩

theorem attemptSubmit_keeps_pricing :
    (tracker.attemptSubmit order.signer order.payload order.options).Keeps (discipline tracker order)
      (tracker.Prices fun _ _ => True) .unasked := by
  unfold attemptSubmit
  refine Task.keeps_bind.mpr (Task.keeps_mapFailure.mpr (Task.keeps_ask.mpr ⟨trivial, fun reply => ?_⟩))
  rcases reply with (e | message) | submittedAt
  · exact fun _ => nofun
  · exact fun _ => nofun
  apply Task.goesOn_ok.mpr
  refine Task.keeps_bind.mpr (Task.keeps_mapFailure.mpr (prepare_keeps_pricing.mono ?_))
  intro pricing outcome prices
  have prices := prices.asBroadcast
  cases ended : Task.changed asBroadcast outcome with
  | error fault =>
      -- The refusal of a price is a failure to broadcast already, so it passes unchanged.
      rw [ended] at prices
      cases pricing with
      | unasked => exact fun _ => nofun
      | told reported => exact ⟨fun refused => by cases prices.1 refused; rfl, fun _ => nofun⟩
  | ok terms =>
      rw [ended] at prices
      cases pricing with
      | unasked => exact absurd rfl (prices terms)
      | told reported =>
          obtain ⟨admitted, priced⟩ := prices.2 terms rfl
          apply Task.goesOn_ok.mpr
          cases payloadSigned : order.signer.signPayload order.payload order.options.appId terms with
          | error e =>
              have refunded := giveBack_works admitted order order.signer.address order.options
                terms.nonce
              exact prices_of_works admitted (refunded.bind fun _ _ => works_fail)
          | ok signed =>
              have pays : tracker.Pays order reported signed.raw :=
                ⟨terms, signed, priced, payloadSigned, rfl⟩
              have sent := broadcast_works admitted pays order.options
              exact prices_of_works admitted (sent.bind fun _ _ => works_pure trivial)

theorem note_keeps_pricing {metric : Metric} {pricing : Pricing}
    {post : Pricing → Except Fault Unit → Prop} (ends : post pricing (.ok ())) :
    (Task.note metric).Keeps (discipline tracker order) post pricing := by
  cases pricing <;> exact Task.keeps_note.mpr ⟨trivial, fun _ => ends⟩

theorem submit_keeps_pricing (order : Order) :
    (tracker.submit order.signer order.payload order.options).Keeps (discipline tracker order)
      (tracker.Prices fun _ _ => True) .unasked := by
  unfold submit
  refine Task.keeps_bind.mpr (Task.keeps_attempt.mpr (attemptSubmit_keeps_pricing.mono ?_))
  intro pricing outcome prices
  apply Task.goesOn_ok.mpr
  rcases outcome with (e | message) | submission
  · exact Task.keeps_bind.mpr (note_keeps_pricing prices)
  · exact prices
  · exact Task.keeps_bind.mpr (note_keeps_pricing prices)

end Tracker

/-- How the prices that submissions were told stand to their turns so far. -/
structure Charged (tracker : Tracker) (order : Nat → Tracker.Order) (history : List Turn)
    (pricings : Nat → Pricing) : Prop where
  told : ∀ (thread reported : Nat), ⟨thread, .ask .gasPrice, .ok reported⟩ ∈ history ↔
    pricings thread = .told reported
  fitting : ∀ turn ∈ history, Pricing.Opens turn.step ∨ ∃ reported,
    pricings turn.thread = .told reported ∧
      Pricing.allows tracker (order turn.thread) (.told reported) turn.step

namespace Charged

variable {tracker : Tracker} {order : Nat → Tracker.Order} {history : List Turn}
  {pricings : Nat → Pricing} {turn : Turn}

theorem start : Charged tracker order [] fun _ => .unasked where
  told thread reported := by simp
  fitting turn member := by simp at member

theorem after_eq_told {pricing : Pricing} {reported thread : Nat} {step : Step} {reply : step.Reply}
    (allowed : Pricing.allows tracker (order thread) pricing step) :
    pricing.after step reply = .told reported ↔ pricing = .told reported ∨
      (⟨thread, step, reply⟩ : Turn) = ⟨thread, .ask .gasPrice, .ok reported⟩ := by
  cases pricing with
  | told price =>
      -- A price that is told stays, as none is asked for again.
      refine (or_iff_left fun same => ?_).symm
      obtain rfl : step = .ask .gasPrice := congrArg Turn.step same
      exact allowed
  | unasked =>
      constructor
      · intro told
        cases step with
        | ask call =>
            cases call with
            | gasPrice =>
                cases reply with
                | error fault => cases told
                | ok price =>
                    cases told
                    exact .inr rfl
            | _ => cases told
        | _ => cases told
      · rintro (told | same)
        · cases told
        · cases same
          rfl

theorem step (charged : Charged tracker order history pricings)
    (allowed : Pricing.allows tracker (order turn.thread) (pricings turn.thread) turn.step) :
    Charged tracker order (history ++ [turn])
      (Function.update pricings turn.thread ((pricings turn.thread).after turn.step turn.reply)) := by
  have kept (thread reported : Nat) (told : pricings thread = .told reported) :
      Function.update pricings turn.thread ((pricings turn.thread).after turn.step turn.reply) thread =
        .told reported := by
    by_cases same : thread = turn.thread
    · subst same
      rw [Function.update_self, told, Pricing.after_told]
    · rw [Function.update_of_ne same, told]
  refine ⟨fun thread reported => ?_, fun other member => ?_⟩
  · rw [List.mem_append, List.mem_singleton, charged.told]
    by_cases same : thread = turn.thread
    · subst same
      rw [Function.update_self, after_eq_told allowed, eq_comm (a := turn)]
    · rw [Function.update_of_ne same]
      exact or_iff_left fun told => same (congrArg Turn.thread told)
  · obtain earlier | last := List.mem_append.mp member
    · obtain opens | ⟨reported, told, fits⟩ := charged.fitting other earlier
      · exact .inl opens
      · exact .inr ⟨reported, kept _ _ told, fits⟩
    · rw [List.mem_singleton.mp last]
      cases pricing : pricings turn.thread with
      | unasked =>
          rw [pricing] at allowed
          exact .inl allowed
      | told reported =>
          rw [pricing] at allowed
          rw [← pricing]
          exact .inr ⟨reported, kept _ _ pricing, allowed⟩

end Charged

theorem Pricing.opens_of_not_admits {tracker : Tracker} {order : Tracker.Order} {reported : Nat}
    {step : Step} (refused : ¬ tracker.Admits reported)
    (allowed : allows tracker order (told reported) step) : Opens step := by
  cases step with
  | ask call =>
      cases call with
      | sendRaw raw => exact absurd allowed.1 refused
      | pendingNonce account => exact absurd allowed refused
      | _ => exact allowed.elim
  | reserve | release => exact absurd allowed refused
  | pause | draw => exact allowed.elim
  | note => trivial

theorem Config.multiplier_isPositive {config : Config} (valid : config.validate = .ok ()) :
    config.submission.gasPriceMultiplier.isPositive = true := by
  have none : config.problems = [] := by
    unfold Config.validate at valid
    split at valid
    · assumption
    · cases valid
  simp only [Config.problems, Config.Submission.problems, Config.problemIf, List.append_eq_nil_iff] at none
  by_contra negative
  simp [negative] at none

namespace Tracker

variable {σ : Type} {tracker : Tracker} {orders : List Order} {world : World σ}

theorem ofConfig_submission {config : Config} {chainId : Nat}
    (made : Tracker.ofConfig chainId config = .ok tracker) : tracker.submission = config.submission := by
  unfold Tracker.ofConfig at made
  cases read : readSink config.submission.sinkAddress with
  | error e => simp [read, bind, Except.bind] at made
  | ok sink =>
      simp only [read, bind, Except.bind, Except.ok.injEq] at made
      rw [← made]

theorem crew_charged (ledger : Ledger σ) (tracker : Tracker) (orders : List Order) (world : World σ)
    (schedule : List Nat) :
    ∃ pricings, Charged tracker (orderOf orders)
        ((tracker.crew orders world).play ledger schedule).1 pricings ∧
      ∀ thread outcome, ((tracker.crew orders world).play ledger schedule).2.threads[thread]? =
        some (.done outcome) → tracker.Prices (fun _ _ => True) (pricings thread) outcome := by
  obtain ⟨pricings, charged, disciplined⟩ :=
    (crew_keeps submit_keeps_pricing).play ledger
      (fun history _ => Charged tracker (orderOf orders) history)
      (fun charged allowed _ => charged.step allowed) schedule Charged.start
  exact ⟨pricings, charged, fun thread outcome ended => disciplined thread _ ended⟩

/-- The cap holds the price that the ledger reports and not the price that is paid. Whatever is sent
was priced by multiplying a reported price within the cap; where the reported price is above it, the
submission only counts its failure, takes no nonce and sends nothing; and what is paid stays within the
cap for all prices just if it does for the greatest one that is admitted. -/
theorem cap_holds_reported_price (ledger : Ledger σ) {config : Config} {tracker : Tracker}
    {chainId : Nat} (valid : config.validate = .ok ())
    (made : Tracker.ofConfig chainId config = .ok tracker) (orders : List Order) (world : World σ)
    (schedule : List Nat) :
    let played := (tracker.crew orders world).play ledger schedule
    let cap := config.submission.maxGasPriceGwei
    (∀ turn ∈ played.1, ∀ raw, turn.step = .ask (.sendRaw raw) → ∃ order,
      ∃ reported : Nat, orders[turn.thread]? = some order ∧
      (⟨turn.thread, .ask .gasPrice, .ok reported⟩ : Turn) ∈ played.1 ∧ reported / weiPerGwei ≤ cap ∧
      tracker.Pays order reported raw) ∧
    (∀ thread, ∀ reported : Nat, (⟨thread, .ask .gasPrice, .ok reported⟩ : Turn) ∈ played.1 →
      cap < reported / weiPerGwei →
      (∀ turn ∈ played.1, turn.thread = thread → Pricing.Opens turn.step) ∧
      ∀ outcome, played.2.threads[thread]? = some (.done outcome) →
        outcome = .error (.failure (tracker.refusal reported))) ∧
    ((∀ reported, reported / weiPerGwei ≤ cap → tracker.paid reported ≤ cap * weiPerGwei) ↔
      tracker.paid (cap * weiPerGwei + (weiPerGwei - 1)) ≤ cap * weiPerGwei) := by
  intro played cap
  obtain ⟨pricings, charged, ended⟩ := crew_charged ledger tracker orders world schedule
  have settings := ofConfig_submission made
  have capped (reported : Nat) : tracker.Admits reported ↔ reported / weiPerGwei ≤ cap := by
    rw [Admits, settings]
  refine ⟨?_, ?_, ?_⟩
  · intro turn taken raw sends
    obtain opens | ⟨reported, told, fits⟩ := charged.fitting turn taken
    · rw [sends] at opens
      exact opens.elim
    · rw [sends] at fits
      have listed := Crew.thread_lt_of_mem_play taken
      rw [crew, List.length_map] at listed
      refine ⟨orders[turn.thread], reported, List.getElem?_eq_getElem listed,
        (charged.told _ _).mpr told, (capped reported).mp fits.1, ?_⟩
      rw [← orderOf_eq (List.getElem?_eq_getElem listed)]
      exact fits.2
  · intro thread reported asked above
    have told := (charged.told thread reported).mp asked
    have refused : ¬ tracker.Admits reported := fun admitted =>
      Nat.not_le.mpr above ((capped reported).mp admitted)
    refine ⟨fun turn taken here => ?_, fun outcome finished => ?_⟩
    · obtain opens | ⟨price, toldToo, fits⟩ := charged.fitting turn taken
      · exact opens
      · rw [here, told] at toldToo
        cases toldToo
        exact Pricing.opens_of_not_admits refused fits
    · have prices := ended thread outcome finished
      rw [told] at prices
      exact prices.1 refused
  · have positive : tracker.submission.gasPriceMultiplier.isPositive = true := by
      rw [settings]
      exact Config.multiplier_isPositive valid
    have bound := paid_le_iff positive (cap * weiPerGwei)
    simp only [capped, settings] at bound
    exact bound

/-- With the default settings a price of 1000 gwei is refused at once. -/
theorem unaffordable_price_is_refused :
    let tracker : Tracker := ⟨31337, none, {}, {}⟩
    let world : World Chain := ⟨{ Chain.fresh with gasPrice := 1000 * weiPerGwei }, .empty, default⟩
    let played := (tracker.crew [default] world).play Chain.ledger [0, 0, 0]
    Config.validate {} = .ok () ∧ Tracker.ofConfig 31337 {} = .ok tracker ∧
    (∀ turn ∈ played.1, turn.thread = 0 → Pricing.Opens turn.step) ∧
    played.2.threads[0]? =
      some (.done (.error (.failure (tracker.refusal (1000 * weiPerGwei))))) ∧
    tracker.refusal (1000 * weiPerGwei) =
      .broadcast "gas price 1000 gwei exceeds cap of 500 gwei" := by
  have valid : Config.validate {} = .ok () := by decide
  have made : Tracker.ofConfig 31337 {} = .ok ⟨31337, none, {}, {}⟩ := rfl
  refine ⟨valid, made, ?_, rfl, by decide +kernel⟩
  obtain ⟨-, refused, -⟩ := cap_holds_reported_price Chain.ledger valid made [default]
    ⟨{ Chain.fresh with gasPrice := 1000 * weiPerGwei }, .empty, default⟩ [0, 0, 0]
  exact (refused 0 (1000 * weiPerGwei) (.tail _ (.head _)) (by decide)).1

/-- What an errand comes to that finds a price of 500 gwei. -/
def dearLetter (signer : Signer) : Parcel :=
  ⟨signer, [0], 0, ⟨Chain.ownChainId, 0, 600 * weiPerGwei, 21080, signer.address⟩⟩

theorem dearLetter_signed : ∃ signed, (dearLetter default).sign = .ok signed :=
  signed_to_self (by decide +kernel)

theorem errand_comesTo_dearLetter (signer : Signer) :
    usual.ComesTo (errand signer 0) (500 * weiPerGwei) 0 (dearLetter signer) := by
  have priced : usual.offeredPrice (500 * weiPerGwei) = .ok (600 * weiPerGwei) := by decide +kernel
  have sized : Checked.add 64 AppData.idLength [(0 : UInt8)].length = .ok 5 := rfl
  exact .intro rfl priced sized rfl

theorem dearLetter_fits (signer : Signer) : (dearLetter signer).Fits where
  payload := (by decide : 1 < Checked.limit 63)
  appId := (by decide : 0 < Checked.limit 32)
  chainId := (by decide : Chain.ownChainId < Checked.limit 64)
  nonce := (by decide : 0 < Checked.limit 64)
  gasPrice := (by decide : 600 * weiPerGwei < Checked.limit 128)
  gasLimit := (by decide : 21080 < Checked.limit 64)

/-- A ledger that asks 500 gwei. -/
def dearWorld : World Chain :=
  ⟨Chain.fresh.control (.setGasPrice (500 * weiPerGwei)), .empty, .empty⟩

/-- With the default settings a price of 500 gwei is within the cap, and the ledger takes a transaction
that pays 600 gwei. -/
theorem multiplied_price_exceeds_cap :
    let turns :=
      ((usual.crew [errand default 0] dearWorld).play Chain.ledger [0, 0, 0, 0, 0, 0]).1
    Config.validate {} = .ok () ∧ Tracker.ofConfig Chain.ownChainId {} = .ok usual ∧
    (∃ raw tx, (⟨0, .ask (.sendRaw raw), .ok (Keccak.hash raw)⟩ : Turn) ∈ turns ∧
      Transaction.decodeSigned? raw = some tx ∧ tx.gasPrice = 600 * weiPerGwei) ∧
    usual.submission.maxGasPriceGwei * weiPerGwei < 600 * weiPerGwei := by
  -- The address is not to be computed from here on.
  have signed := dearLetter_signed
  generalize (default : Signer) = signer at signed ⊢
  obtain ⟨signed, done⟩ := signed
  obtain ⟨named, read, -⟩ := (dearLetter_fits signer).read done
  obtain ⟨after, -, served⟩ := taking_served (dearLetter_fits signer) done
    (rfl : dearWorld.ledger.unreachable = false) rfl List.not_mem_nil
    (reserve_letter .empty signer.address 0 rfl) .empty
  have takes := submit_takes_accepted (errand_comesTo_dearLetter signer) done 1 0 signed.hash
  have begun : (usual.crew [errand signer 0] dearWorld).threads[0]? =
      some (usual.submit signer [0] ⟨0, none, none⟩).run := rfl
  have played :
      ((usual.crew [errand signer 0] dearWorld).play Chain.ledger [0, 0, 0, 0, 0, 0]).1 = _ :=
    congrArg Prod.fst (Crew.play_takes takes served begun [])
  refine ⟨by decide, rfl, ⟨signed.raw, _, ?_, read, rfl⟩, by decide⟩
  rw [← named, played]
  simp [keeping, Exchange.turn]

end Tracker

end Notary
