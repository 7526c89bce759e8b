import Notary.Client.Basic
import Notary.Proofs.Delivery.Broadcasts
import Notary.Tracker.Submitting

namespace Notary

/-!
What a client learns of a transaction that it sends through a list of providers. A node takes the
transaction or not, and the client is told so, or is told nothing that it can rely on. The client
stops at the first node that may hold the transaction, except that it takes a call that failed on
its way for a refusal.
-/

/-- What a node does with a transaction that it is sent, and what the client hears of it. -/
inductive Encounter where
  | accepted (hash : Hash)
  /-- The node turns the transaction away. Its reason may be that it holds the transaction. -/
  | denied (reason : String)
  /-- The call fails on its way or its reply cannot be read, whatever the node did. -/
  | lost (taken : Bool) (reason : String)
  /-- The time runs out, whatever the node did. -/
  | unanswered (taken : Bool)
  deriving DecidableEq, Repr

namespace Encounter

def outcome : Encounter → Outcome Hash
  | .accepted hash => .answer hash
  | .denied reason => .refusal reason
  | .lost _ reason => .refusal reason
  | .unanswered _ => .silence

/-- Whether the node holds the transaction afterwards. -/
def holds : Encounter → Bool
  | .accepted _ => true
  | .denied reason => Rejection.isAlreadyKnown reason
  | .lost taken _ => taken
  | .unanswered taken => taken

/-- The client takes the encounter for a refusal, and goes on to the next provider. -/
def Refuses (encounter : Encounter) : Prop :=
  ∃ reason, encounter.outcome = .refusal reason ∧ Rejection.isAlreadyKnown reason = false

variable {encounter : Encounter}

/-- A node that holds the transaction is taken for one that refuses it only where the call was lost. -/
theorem Refuses.lost (refuses : encounter.Refuses) (held : encounter.holds = true) :
    ∃ reason, encounter = .lost true reason := by
  obtain ⟨reason, heard, unknown⟩ := refuses
  cases encounter with
  | accepted hash => cases heard
  | unanswered taken => cases heard
  | denied text =>
      cases heard
      exact absurd held (by simp [holds, unknown])
  | lost taken text =>
      obtain rfl : taken = true := held
      exact ⟨text, rfl⟩

end Encounter

/-- Nodes that a client calls: what they make of transactions, and what else they reply. -/
structure Nodes (ν : Type) where
  meet : (provider : Url) → (raw : Bytes) → ν → Encounter × ν
  reply : (provider : Url) → (call : Call) → ν → Outcome call.Answer × ν

variable {ν : Type} {nodes : Nodes ν} {raw : Bytes}

/-- The network of the nodes. Beside their state it keeps what the client met with. -/
def Nodes.network (nodes : Nodes ν) : Network (ν × List Encounter) where
  request := fun provider call (state, met) =>
    match call with
    | .sendRaw raw =>
        let (encounter, state) := nodes.meet provider raw state
        (encounter.outcome, state, met ++ [encounter])
    | call =>
        let (outcome, state) := nodes.reply provider call state
        (outcome, state, met)

namespace Client

/-- The encounters of one broadcast, one provider after the other, and what the client makes of
them. -/
inductive Heard : List Url → List Encounter → Broadcast → Prop where
  | exhausted (reason : String) (unknown : Rejection.isAlreadyKnown reason = false) :
      Heard [] [] (.refused reason)
  | passed (provider : Url) (encounter : Encounter) (refuses : encounter.Refuses)
      {rest : List Url} {met : List Encounter} {outcome : Broadcast}
      (later : Heard rest met outcome) : Heard (provider :: rest) (encounter :: met) outcome
  | stopped (provider : Url) (rest : List Url) (encounter : Encounter) (stops : ¬ encounter.Refuses)
      (outcome : Broadcast) (unrefused : ∀ reason, outcome ≠ .refused reason) :
      Heard (provider :: rest) [encounter] outcome

variable {providers : List Url} {met : List Encounter} {reason : String}

theorem Heard.refused {outcome : Broadcast} (heard : Heard providers met outcome)
    (refused : outcome = .refused reason) :
    met.length = providers.length ∧ (∀ encounter ∈ met, encounter.Refuses) ∧
      Rejection.isAlreadyKnown reason = false := by
  induction heard with
  | exhausted last unknown =>
      cases refused
      exact ⟨rfl, by simp, unknown⟩
  | passed provider encounter refuses later ih =>
      obtain ⟨length, all, unknown⟩ := ih refused
      exact ⟨by simp [length], by simpa [refuses] using all, unknown⟩
  | stopped provider rest encounter stops outcome unrefused =>
      exact absurd refused (unrefused reason)

theorem Heard.stops {outcome : Broadcast} (heard : Heard providers met outcome)
    (unrefused : ∀ reason, outcome ≠ .refused reason) : ∃ encounter ∈ met, ¬ encounter.Refuses := by
  induction heard with
  | exhausted last unknown => exact absurd rfl (unrefused last)
  | passed provider encounter refuses later ih =>
      obtain ⟨stopping, listed, stops⟩ := ih unrefused
      exact ⟨stopping, List.mem_cons_of_mem _ listed, stops⟩
  | stopped provider rest encounter stops outcome _ => exact ⟨encounter, by simp, stops⟩

theorem firstTaker_heard (nodes : Nodes ν) (raw : Bytes) (providers : List Url) (last : String)
    (unknown : Rejection.isAlreadyKnown last = false) (state : ν)
    (before : List Encounter) :
    ∃ met, (firstTaker nodes.network raw providers last (state, before)).2.2 = before ++ met ∧
      Heard providers met (firstTaker nodes.network raw providers last (state, before)).1 := by
  induction providers generalizing last state before with
  | nil => exact ⟨[], by simp [firstTaker], .exhausted last unknown⟩
  | cons provider rest ih =>
      cases meeting : nodes.meet provider raw state with
      | mk encounter after =>
          have requested : nodes.network.request provider (.sendRaw raw) (state, before) =
              (encounter.outcome, after, before ++ [encounter]) := by
            simp only [Nodes.network, meeting]
            rfl
          have stopping (stops : ¬ encounter.Refuses) (outcome : Broadcast)
              (unrefused : ∀ reason, outcome ≠ .refused reason) :
              ∃ met, before ++ [encounter] = before ++ met ∧ Heard (provider :: rest) met outcome :=
            ⟨[encounter], rfl, .stopped provider rest encounter stops outcome unrefused⟩
          cases heard : encounter.outcome with
          | answer hash =>
              simp only [firstTaker, requested, heard]
              exact stopping (by simp [Encounter.Refuses, heard]) _ nofun
          | silence =>
              simp only [firstTaker, requested, heard]
              exact stopping (by simp [Encounter.Refuses, heard]) _ nofun
          | refusal reason =>
              cases known : Rejection.isAlreadyKnown reason with
              | true =>
                  simp only [firstTaker, requested, heard, known, if_true]
                  exact stopping (by simp [Encounter.Refuses, heard, known]) _ nofun
              | false =>
                  simp only [firstTaker, requested, heard, known]
                  obtain ⟨met, later, told⟩ := ih reason known after (before ++ [encounter])
                  have refuses : encounter.Refuses := ⟨reason, heard, known⟩
                  refine ⟨encounter :: met, ?_, .passed provider encounter refuses told⟩
                  simpa using later

def refusalOpening : String := "All providers rejected transaction: "

/-- A client that was refused does not say that the transaction is known. -/
theorem isAlreadyKnown_refused (unknown : Rejection.isAlreadyKnown reason = false) :
    Rejection.isAlreadyKnown (Error.broadcast (refusalOpening ++ reason)).message = false := by
  rw [Rejection.isAlreadyKnown_broadcast, Rejection.isAlreadyKnown_append, unknown]
  decide +kernel

/-- What a broadcast through the client comes to, by what the client met with. -/
theorem send_heard (nodes : Nodes ν) (raw : Bytes) (client : Client (ν × List Encounter)) :
    ∃ met, (client.send nodes.network raw).2.network.2 = client.network.2 ++ met ∧
      match (client.send nodes.network raw).1 with
      | .ok _ => ∃ encounter ∈ met, ¬ encounter.Refuses
      | .error fault =>
          met.length = client.providers.length ∧ (∀ encounter ∈ met, encounter.Refuses) ∧
            ∃ reason, fault = .failure (.broadcast reason) ∧
              Rejection.isAlreadyKnown (Error.broadcast reason).message = false := by
  have silent : Rejection.isAlreadyKnown noProviderText = false := by decide +kernel
  obtain ⟨met, log, heard⟩ := firstTaker_heard nodes raw client.providers noProviderText silent
    client.network.1 client.network.2
  refine ⟨met, ?_⟩
  cases told : firstTaker nodes.network raw client.providers noProviderText client.network with
  | mk outcome state =>
      rw [told] at log heard
      cases outcome with
      | taken hash =>
          simp only [send, told]
          exact ⟨log, heard.stops nofun⟩
      | known =>
          simp only [send, told]
          exact ⟨log, heard.stops nofun⟩
      | uncertain =>
          simp only [send, told]
          exact ⟨log, heard.stops nofun⟩
      | refused reason =>
          obtain ⟨length, all, unknown⟩ := heard.refused rfl
          simp only [send, told]
          exact ⟨log, length, all, _, rfl, isAlreadyKnown_refused unknown⟩

variable {origin : World (Client (ν × List Encounter))} {options : SubmitOptions}
  {signed : SignedTransaction}

/-- The book, with the nonce given back if it was drawn for the submission. -/
def handedBack (options : SubmitOptions) (signed : SignedTransaction) (book : NonceBook) : NonceBook :=
  match options.nonce with
  | some _ => book
  | none => (book.release signed.sender signed.nonce).2

theorem giveBack_leads {known : World (Client (ν × List Encounter)) → Prop} :
    Task.Leads (Client.ledger nodes.network) known
      (fun _ world => ∃ before, known before ∧
        world = { before with book := handedBack options signed before.book })
      (Tracker.giveBack signed.sender options signed.nonce) := by
  unfold Tracker.giveBack handedBack
  cases options.nonce with
  | some own => exact Task.leads_pure fun world here => ⟨world, here, rfl⟩
  | none =>
      have released : Task.Leads (Client.ledger nodes.network) known
          (fun _ world => ∃ before, known before ∧
            world = { before with book := (before.book.release signed.sender signed.nonce).2 })
          (Task.release signed.sender signed.nonce) := by
        apply Task.leads_release
        intro world here reply book released
        exact ⟨world, here, by rw [released]⟩
      exact released.bind (fun _ => Task.leads_pure fun world here => here)
        fun fault world here => here

/-- What a broadcast by the tracker leaves. Where the client fails, it was met with a refusal by every
provider, and the nonce goes back; a node can hold the transaction then only if its call was lost. -/
def Leaves (nodes : Nodes ν) (origin : World (Client (ν × List Encounter))) (options : SubmitOptions)
    (signed : SignedTransaction) (outcome : Except Fault Unit)
    (world : World (Client (ν × List Encounter))) : Prop :=
  ∃ met, world.ledger.network.2 = origin.ledger.network.2 ++ met ∧
    match (origin.ledger.send nodes.network signed.raw).1 with
    | .ok _ =>
        (∃ encounter ∈ met, ¬ encounter.Refuses) ∧ outcome = .ok () ∧ world.book = origin.book
    | .error _ =>
        met.length = origin.ledger.providers.length ∧ (∀ encounter ∈ met, encounter.Refuses) ∧
          (∀ encounter ∈ met, encounter.holds = true → ∃ reason, encounter = .lost true reason) ∧
          outcome ≠ .ok () ∧ world.book = handedBack options signed origin.book

theorem broadcast_leaves :
    Task.Leads (Client.ledger nodes.network) (· = origin) (Leaves nodes origin options signed)
      (Tracker.broadcast options signed) := by
  obtain ⟨met, log, told⟩ := send_heard nodes signed.raw origin.ledger
  have sent : Task.Leads (Client.ledger nodes.network) (· = origin)
      (fun reply world => reply = (origin.ledger.send nodes.network signed.raw).1 ∧
        world = { origin with ledger := (origin.ledger.send nodes.network signed.raw).2 })
      (Task.ask (.sendRaw signed.raw)) := by
    apply Task.leads_ask
    rintro world rfl reply state asked
    have sending : world.ledger.send nodes.network signed.raw = (reply, state) := asked
    rw [sending]
    exact ⟨rfl, rfl⟩
  have failed (e : Error) (fault : Fault)
      (replied : .error (.failure e) = (origin.ledger.send nodes.network signed.raw).1) :
      Leaves nodes origin options signed (.error fault)
        { origin with
          ledger := (origin.ledger.send nodes.network signed.raw).2
          book := handedBack options signed origin.book } := by
    refine ⟨met, log, ?_⟩
    rw [← replied] at told ⊢
    exact ⟨told.1, told.2.1, fun encounter listed => (told.2.1 encounter listed).lost, nofun, rfl⟩
  unfold Tracker.broadcast
  refine sent.attempt_bind fun reply => ?_
  rcases reply with (e | message) | hash
  · -- A failure of the client never says that the transaction is known.
    cases known : Rejection.isAlreadyKnown e.message with
    | true =>
        simp only [known, if_true]
        rintro world ⟨replied, -⟩
        rw [← replied] at told
        obtain ⟨-, -, reason, same, unknown⟩ := told
        cases same
        rw [known] at unknown
        cases unknown
    | false =>
        simp only [known]
        refine (giveBack_leads.bind (fun _ => ?_) ?_)
        · refine Task.leads_fail ?_
          rintro world ⟨before, ⟨replied, rfl⟩, rfl⟩
          exact failed e (.failure (Tracker.asBroadcast e)) replied
        · rintro fault world ⟨before, ⟨replied, rfl⟩, rfl⟩
          exact failed e fault replied
  · rintro world ⟨replied, -⟩
    rw [← replied] at told
    obtain ⟨-, -, reason, same, -⟩ := told
    cases same
  · rintro world ⟨replied, rfl⟩
    refine ⟨met, log, ?_⟩
    rw [← replied] at told ⊢
    exact ⟨told, rfl, rfl⟩

theorem broadcast_fails_only_if_refused (nodes : Nodes ν)
    (origin : World (Client (ν × List Encounter))) (options : SubmitOptions)
    (signed : SignedTransaction) :
    let ended := Program.runAll (Client.ledger nodes.network)
      (Tracker.broadcast options signed).run 0 origin
    Leaves nodes origin options signed ended.1 ended.2.2 :=
  broadcast_leaves.runAll 0 origin rfl

/-- A node that takes every transaction, behind a connection that breaks before it replies. -/
def breaking : Nodes Unit where
  meet := fun _ _ state => (.lost true "error sending request", state)
  reply := fun _ _ state => (.silence, state)

/-- A client of one node, with an account that has drawn its nonce 7. -/
def drawn : World (Client (Unit × List Encounter)) where
  ledger :=
    { endpoint := "http://node/"
      providers := [⟨"http", some ⟨"", none, .name "node", none, [""], none, none⟩⟩]
      timeoutSecs := 30
      network := ((), [])
      failures := .empty }
  book := NonceBook.empty.set default 8
  metrics := .empty

/-- The node holds the transaction, and its nonce is free to be drawn again. -/
theorem lost_call_frees_the_nonce :
    let signed : SignedTransaction := ⟨default, [0x02, 0xc0, 0x01], default, 7, 0⟩
    let ended := Program.runAll (Client.ledger breaking.network)
      (Tracker.broadcast ⟨0, none, none⟩ signed).run 0 drawn
    (∃ encounter ∈ ended.2.2.ledger.network.2, encounter.holds = true) ∧
      ended.1 = .error (.failure (.broadcast (refusalOpening ++ "error sending request"))) ∧
      ended.2.2.book.peek signed.sender = some 7 := by
  decide +kernel

end Client

end Notary
