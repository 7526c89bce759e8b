import Notary.Client.Basic

namespace Notary

/-!
Failover. A client asks its providers in order until one of them says what settles the call, and asks
none after it. Reads and broadcasts differ in what settles them: a provider that is silent is passed over
by a read, and ends a broadcast.
-/

variable {ν : Type} {call : Call}

namespace Outcome

variable {α : Type} {raw : Bytes}

/-- What settles a read. -/
def isAnswer : Outcome α → Bool
  | answer _ => true
  | _ => false

/-- What settles a broadcast: the provider holds the transaction, or may hold it. -/
def mayHold : Outcome (Call.sendRaw raw).Answer → Bool
  | answer _ => true
  | refusal reason => Rejection.isAlreadyKnown reason
  | silence => true

/-- What is said of a provider that gave no answer. -/
def trouble? (timeoutSecs : Nat) : Outcome α → Option String
  | answer _ => none
  | refusal reason => some reason
  | silence => some (Client.silenceText timeoutSecs)

theorem trouble?_of_unanswered (timeoutSecs : Nat) {outcome : Outcome α}
    (unanswered : outcome.isAnswer = false) : ∃ text, outcome.trouble? timeoutSecs = some text := by
  cases outcome with
  | answer value => cases unanswered
  | refusal reason => exact ⟨reason, rfl⟩
  | silence => exact ⟨_, rfl⟩

theorem isAnswer_of_trouble {timeoutSecs : Nat} {outcome : Outcome α} {text : String}
    (said : outcome.trouble? timeoutSecs = some text) : outcome.isAnswer = false := by
  cases outcome with
  | answer value => cases said
  | refusal | silence => rfl

theorem mayHold_eq_false {outcome : Outcome (Call.sendRaw raw).Answer} :
    outcome.mayHold = false ↔
      ∃ reason, outcome = refusal reason ∧ Rejection.isAlreadyKnown reason = false := by
  cases outcome <;> simp [mayHold]

end Outcome

/-- A request that a client made, and what came of it. -/
structure Contact where
  provider : Url
  call : Call
  outcome : Outcome call.Answer

namespace Network

/-- The network, with a record of the requests that are made. -/
def recorded (network : Network ν) : Network (ν × List Contact) where
  request := fun provider call (state, made) =>
    let (outcome, state) := network.request provider call state
    (outcome, state, made ++ [⟨provider, call, outcome⟩])
  chance := fun (state, _) => network.chance state

/-- What the providers say to a call if they are all asked, one after the other. -/
def survey (network : Network ν) (call : Call) : List Url → ν → List (Outcome call.Answer)
  | [], _ => []
  | provider :: rest, state =>
      let (outcome, state) := network.request provider call state
      outcome :: survey network call rest state

end Network

/-- The requests up to the first outcome that settles the call. -/
def contacts (call : Call) (settles : Outcome call.Answer → Bool) (providers : List Url)
    (heard : List (Outcome call.Answer)) : List Contact :=
  List.zipWith (⟨·, call, ·⟩) providers (heard.take (heard.findIdx settles + 1))

theorem contacts_cons (settles : Outcome call.Answer → Bool) (provider : Url) (providers : List Url)
    (outcome : Outcome call.Answer) (heard : List (Outcome call.Answer)) :
    contacts call settles (provider :: providers) (outcome :: heard) =
      ⟨provider, call, outcome⟩ ::
        if settles outcome then [] else contacts call settles providers heard := by
  cases settled : settles outcome <;> simp [contacts, List.findIdx_cons, settled]

namespace Client

variable {α : Type} {timeoutSecs : Nat} {raw : Bytes}

/-- What the last provider said, if it gave no answer. -/
def lastTrouble (timeoutSecs : Nat) (heard : List (Outcome α)) (before : String) : String :=
  (heard.getLast?.bind (Outcome.trouble? timeoutSecs)).getD before

/-- What a read comes to. -/
def reading (timeoutSecs : Nat) (heard : List (Outcome α)) (before : String) : Except String α :=
  match heard.find? Outcome.isAnswer with
  | some (.answer value) => .ok value
  | _ => .error (lastTrouble timeoutSecs heard before)

/-- What a broadcast comes to. -/
def sending (timeoutSecs : Nat) (heard : List (Outcome (Call.sendRaw raw).Answer))
    (before : String) : Broadcast :=
  match heard.find? Outcome.mayHold with
  | some (.answer (hash : Hash)) => .taken hash
  | some (.refusal _) => .known
  | some .silence => .uncertain
  | none => .refused (lastTrouble timeoutSecs heard before)

theorem lastTrouble_cons {outcome : Outcome α} {heard : List (Outcome α)} {text : String}
    (said : outcome.trouble? timeoutSecs = some text)
    (unanswered : ∀ other ∈ heard, other.isAnswer = false) (before : String) :
    lastTrouble timeoutSecs (outcome :: heard) before = lastTrouble timeoutSecs heard text := by
  unfold lastTrouble
  rw [List.getLast?_cons]
  cases last : heard.getLast? with
  | none => simp [said]
  | some other =>
      obtain ⟨trouble, told⟩ :=
        Outcome.trouble?_of_unanswered timeoutSecs (unanswered other (List.mem_of_getLast? last))
      simp [told]

/-- A read passes over a provider that gave no answer. -/
theorem reading_cons {outcome : Outcome α} {text : String}
    (said : outcome.trouble? timeoutSecs = some text) (heard : List (Outcome α)) (before : String) :
    reading timeoutSecs (outcome :: heard) before = reading timeoutSecs heard text := by
  unfold reading
  rw [List.find?_cons_of_neg (by simp [Outcome.isAnswer_of_trouble said])]
  cases found : heard.find? Outcome.isAnswer with
  | none => rw [lastTrouble_cons said (by simpa using found)]
  | some first =>
      cases first with
      | answer value => rfl
      | refusal | silence => exact absurd (List.find?_some found) (by simp [Outcome.isAnswer])

/-- A broadcast passes over a provider that does not hold the transaction. -/
theorem sending_cons {reason : String} (unknown : Rejection.isAlreadyKnown reason = false)
    (heard : List (Outcome (Call.sendRaw raw).Answer)) (before : String) :
    sending timeoutSecs (.refusal reason :: heard) before = sending timeoutSecs heard reason := by
  have unheld : (Outcome.refusal reason : Outcome (Call.sendRaw raw).Answer).mayHold = false := unknown
  unfold sending
  rw [List.find?_cons_of_neg (by simp [unheld])]
  cases found : heard.find? Outcome.mayHold with
  | some first => cases first <;> rfl
  | none =>
      have unanswered : ∀ other ∈ heard, other.isAnswer = false := by
        intro other listed
        have left := List.find?_eq_none.mp found other listed
        obtain ⟨text, rfl, -⟩ := Outcome.mayHold_eq_false.mp (by simpa using left)
        rfl
      rw [lastTrouble_cons rfl unanswered]

section Asking

variable {network : Network ν} {provider : Url} {state after : ν} {outcome : Outcome call.Answer}

theorem recorded_request (requested : network.request provider call state = (outcome, after))
    (made : List Contact) :
    network.recorded.request provider call (state, made) =
      (outcome, after, made ++ [⟨provider, call, outcome⟩]) := by
  simp only [Network.recorded, requested]

/-- That requests are recorded changes nothing else. -/
theorem firstAnswer_recorded (network : Network ν) (timeoutSecs : Nat) (call : Call)
    (providers : List Url) (last : String) (state : ν × List Contact) :
    firstAnswer network timeoutSecs call providers last state.1 =
      ((firstAnswer network.recorded timeoutSecs call providers last state).1,
        (firstAnswer network.recorded timeoutSecs call providers last state).2.1) := by
  obtain ⟨state, made⟩ := state
  induction providers generalizing last state made with
  | nil => rfl
  | cons provider rest ih =>
      cases requested : network.request provider call state with
      | mk outcome after =>
          simp only [firstAnswer, recorded_request requested made, requested]
          cases outcome with
          | answer value => rfl
          | refusal | silence => exact ih ..

theorem firstTaker_recorded (network : Network ν) (raw : Bytes) (providers : List Url)
    (last : String) (state : ν × List Contact) :
    firstTaker network raw providers last state.1 =
      ((firstTaker network.recorded raw providers last state).1,
        (firstTaker network.recorded raw providers last state).2.1) := by
  obtain ⟨state, made⟩ := state
  induction providers generalizing last state made with
  | nil => rfl
  | cons provider rest ih =>
      cases requested : network.request provider (.sendRaw raw) state with
      | mk outcome after =>
          simp only [firstTaker, recorded_request requested made, requested]
          cases outcome with
          | answer | silence => rfl
          | refusal reason =>
              simp only
              split
              · rfl
              · exact ih ..

theorem survey_cons (requested : network.request provider call state = (outcome, after))
    (rest : List Url) :
    network.survey call (provider :: rest) state = outcome :: network.survey call rest after := by
  simp only [Network.survey, requested]

theorem firstAnswer_asks (network : Network ν) (timeoutSecs : Nat) (call : Call)
    (providers : List Url) (last : String) (state : ν) (made : List Contact) :
    (firstAnswer network.recorded timeoutSecs call providers last (state, made)).1 =
        reading timeoutSecs (network.survey call providers state) last ∧
      (firstAnswer network.recorded timeoutSecs call providers last (state, made)).2.2 =
        made ++ contacts call Outcome.isAnswer providers (network.survey call providers state) := by
  induction providers generalizing last state made with
  | nil => exact ⟨rfl, (List.append_nil made).symm⟩
  | cons provider rest ih =>
      cases requested : network.request provider call state with
      | mk outcome after =>
          have met := recorded_request requested made
          rw [survey_cons requested, contacts_cons]
          cases outcome with
          | answer value =>
              simp only [firstAnswer, met]
              exact ⟨rfl, rfl⟩
          | refusal reason =>
              obtain ⟨read, asked⟩ := ih reason after (made ++ [⟨provider, call, .refusal reason⟩])
              simp only [firstAnswer, met]
              rw [reading_cons rfl, read, asked, List.append_assoc]
              exact ⟨rfl, rfl⟩
          | silence =>
              obtain ⟨read, asked⟩ := ih (silenceText timeoutSecs) after
                (made ++ [⟨provider, call, .silence⟩])
              simp only [firstAnswer, met]
              rw [reading_cons rfl, read, asked, List.append_assoc]
              exact ⟨rfl, rfl⟩

theorem firstTaker_asks (network : Network ν) (timeoutSecs : Nat) (raw : Bytes)
    (providers : List Url) (last : String) (state : ν) (made : List Contact) :
    (firstTaker network.recorded raw providers last (state, made)).1 =
        sending timeoutSecs (network.survey (.sendRaw raw) providers state) last ∧
      (firstTaker network.recorded raw providers last (state, made)).2.2 =
        made ++ contacts (.sendRaw raw) Outcome.mayHold providers
          (network.survey (.sendRaw raw) providers state) := by
  induction providers generalizing last state made with
  | nil => exact ⟨rfl, (List.append_nil made).symm⟩
  | cons provider rest ih =>
      cases requested : network.request provider (.sendRaw raw) state with
      | mk outcome after =>
          have met := recorded_request requested made
          rw [survey_cons requested, contacts_cons]
          cases outcome with
          | answer hash =>
              simp only [firstTaker, met]
              exact ⟨rfl, rfl⟩
          | silence =>
              simp only [firstTaker, met]
              exact ⟨rfl, rfl⟩
          | refusal reason =>
              cases known : Rejection.isAlreadyKnown reason with
              | true =>
                  have held : (Outcome.refusal reason : Outcome (Call.sendRaw raw).Answer).mayHold =
                      true := known
                  simp only [firstTaker, met, known, if_true]
                  exact ⟨by simp [sending, held], by simp [held]⟩
              | false =>
                  obtain ⟨sent, asked⟩ := ih reason after
                    (made ++ [⟨provider, .sendRaw raw, .refusal reason⟩])
                  have unheld : (Outcome.refusal reason : Outcome (Call.sendRaw raw).Answer).mayHold =
                      false := known
                  simp only [firstTaker, met, known]
                  rw [sending_cons known]
                  refine ⟨sent, asked.trans ?_⟩
                  simp [unheld]

end Asking

/-- How a read goes whose providers would say this. -/
structure Reads (call : Call) (client : Client (ν × List Contact))
    (heard : List (Outcome call.Answer)) (reply : call.Reply) (after : Client (ν × List Contact)) :
    Prop where
  asked : after.network.2 =
    client.network.2 ++ contacts call Outcome.isAnswer client.providers heard
  answered : ∀ value, reply = .ok value ↔ heard.find? Outcome.isAnswer = some (.answer value)
  failed : ∀ fault, reply = .error fault ↔
    (∀ outcome ∈ heard, outcome.isAnswer = false) ∧
      fault = .failure (.rpc ("All providers failed to " ++ label call.method ++ ": " ++
        lastTrouble client.timeoutSecs heard noProviderText))
  counted : after.failures = match reply with
    | .ok _ => client.failures
    | .error _ => client.failures.increment (.ledgerFailures (label call.method))

/-- How a broadcast goes whose providers would say this. -/
structure Sends (raw : Bytes) (client : Client (ν × List Contact))
    (heard : List (Outcome (Call.sendRaw raw).Answer)) (reply : Except Fault Hash)
    (after : Client (ν × List Contact)) : Prop where
  asked : after.network.2 =
    client.network.2 ++ contacts (.sendRaw raw) Outcome.mayHold client.providers heard
  settled : match heard.find? Outcome.mayHold with
    | some (.answer (hash : Hash)) => reply = .ok hash ∧ after.failures = client.failures
    | some (.refusal _) => reply = .ok (Keccak.hash raw) ∧ after.failures = client.failures
    | some .silence => reply = .ok (Keccak.hash raw) ∧
        after.failures = client.failures.increment (.ledgerFailures "send_raw_transaction_timeout")
    | none => after.failures = client.failures.increment (.ledgerFailures (label .sendRaw))
  failed : ∀ fault, reply = .error fault ↔
    (∀ outcome ∈ heard, ∃ reason, outcome = .refusal reason ∧
        Rejection.isAlreadyKnown reason = false) ∧
      fault = .failure (.broadcast ("All providers rejected transaction: " ++
        lastTrouble client.timeoutSecs heard noProviderText))

theorem read_reads (network : Network ν) (call : Call) (client : Client (ν × List Contact)) :
    Reads call client (network.survey call client.providers client.network.1)
      (client.read network.recorded call).1 (client.read network.recorded call).2 := by
  obtain ⟨read, asked⟩ := firstAnswer_asks network client.timeoutSecs call client.providers
    noProviderText client.network.1 client.network.2
  generalize network.survey call client.providers client.network.1 = heard at read asked ⊢
  cases told : firstAnswer network.recorded client.timeoutSecs call client.providers noProviderText
      client.network with
  | mk found state =>
      rw [told] at read asked
      subst read
      cases first : heard.find? Outcome.isAnswer with
      | none =>
          have unanswered : ∀ outcome ∈ heard, outcome.isAnswer = false := by simpa using first
          simp only [Client.read, told, reading, first]
          refine { asked := asked, answered := ?_, failed := ?_, counted := rfl }
          · simp [first]
          · intro fault
            simp only [Except.error.injEq, and_iff_right unanswered]
            exact eq_comm
      | some outcome =>
          cases outcome with
          | refusal | silence =>
              exact absurd (List.find?_some first) (by simp [Outcome.isAnswer])
          | answer value =>
              simp only [Client.read, told, reading, first]
              refine { asked := asked, answered := ?_, failed := ?_, counted := rfl }
              · intro other
                simp [first]
              · intro fault
                refine iff_of_false (by simp) fun ⟨unanswered, _⟩ => ?_
                have none := List.find?_eq_none.mpr fun outcome listed =>
                  ne_true_of_eq_false (unanswered outcome listed)
                rw [none] at first
                cases first

theorem send_sends (network : Network ν) (raw : Bytes) (client : Client (ν × List Contact)) :
    Sends raw client (network.survey (.sendRaw raw) client.providers client.network.1)
      (client.send network.recorded raw).1 (client.send network.recorded raw).2 := by
  obtain ⟨sent, asked⟩ := firstTaker_asks network client.timeoutSecs raw client.providers
    noProviderText client.network.1 client.network.2
  generalize network.survey (.sendRaw raw) client.providers client.network.1 = heard at sent asked ⊢
  have refused : heard.find? Outcome.mayHold = none ↔
      ∀ outcome ∈ heard, ∃ reason, outcome = .refusal reason ∧
        Rejection.isAlreadyKnown reason = false := by
    simp only [List.find?_eq_none, Bool.not_eq_true, Outcome.mayHold_eq_false]
  cases told : firstTaker network.recorded raw client.providers noProviderText client.network with
  | mk outcome state =>
      rw [told] at sent asked
      subst sent
      cases first : heard.find? Outcome.mayHold with
      | none =>
          simp only [Client.send, told, sending, first]
          refine { asked := asked, settled := by rw [first]; rfl, failed := fun fault => ?_ }
          simp only [Except.error.injEq, and_iff_right (refused.mp first)]
          exact eq_comm
      | some outcome =>
          have unfailed (hash : Hash) (fault : Fault) (text : String) :
              (.ok hash : Except Fault Hash) = .error fault ↔
                (∀ outcome ∈ heard, ∃ reason, outcome = .refusal reason ∧
                  Rejection.isAlreadyKnown reason = false) ∧ fault = .failure (.broadcast text) := by
            refine iff_of_false (by simp) fun ⟨all, _⟩ => ?_
            rw [refused.mpr all] at first
            cases first
          cases outcome <;> simp only [Client.send, told, sending, first]
          · exact ⟨asked, by rw [first]; exact ⟨rfl, rfl⟩, fun fault => unfailed _ fault _⟩
          · exact ⟨asked, by rw [first]; exact ⟨rfl, rfl⟩, fun fault => unfailed _ fault _⟩
          · exact ⟨asked, by rw [first]; exact ⟨rfl, rfl⟩, fun fault => unfailed _ fault _⟩

/-- The client without the record of its requests. -/
def unrecorded (client : Client (ν × List Contact)) : Client ν where
  endpoint := client.endpoint
  providers := client.providers
  timeoutSecs := client.timeoutSecs
  network := client.network.1
  failures := client.failures

theorem unrecorded_read (network : Network ν) (call : Call) (client : Client (ν × List Contact)) :
    client.unrecorded.read network call =
      ((client.read network.recorded call).1, (client.read network.recorded call).2.unrecorded) := by
  have same := firstAnswer_recorded network client.timeoutSecs call client.providers noProviderText
    client.network
  unfold Client.read unrecorded
  rw [same]
  rcases firstAnswer network.recorded client.timeoutSecs call client.providers noProviderText
    client.network with ⟨last | value, state⟩ <;> rfl

theorem unrecorded_send (network : Network ν) (raw : Bytes) (client : Client (ν × List Contact)) :
    client.unrecorded.send network raw =
      ((client.send network.recorded raw).1, (client.send network.recorded raw).2.unrecorded) := by
  have same := firstTaker_recorded network raw client.providers noProviderText client.network
  unfold Client.send unrecorded
  rw [same]
  rcases firstTaker network.recorded raw client.providers noProviderText client.network with
    ⟨outcome, state⟩
  cases outcome <;> rfl

/-- How a call goes whose requests are recorded, by what the providers would say to it. -/
def Asks (network : Network ν) (client : Client (ν × List Contact)) : Call → Prop
  | .sendRaw raw =>
      Sends raw client (network.survey (.sendRaw raw) client.providers client.network.1)
        (client.answer network.recorded (.sendRaw raw)).1
        (client.answer network.recorded (.sendRaw raw)).2
  | call =>
      Reads call client (network.survey call client.providers client.network.1)
        (client.answer network.recorded call).1 (client.answer network.recorded call).2

/-- Over every network, for every client and every call: a read asks the providers in order up to the first
answer and gives it, and a broadcast asks them up to the first that holds the transaction or may hold it.
Only where there is no such provider does the call fail, with what the last one said. A client whose
requests are not recorded is answered alike. -/
theorem providers_are_asked_until_settled (network : Network ν)
    (client : Client (ν × List Contact)) (call : Call) :
    Asks network client call ∧
      client.unrecorded.answer network call =
        ((client.answer network.recorded call).1,
          (client.answer network.recorded call).2.unrecorded) := by
  cases call with
  | sendRaw raw => exact ⟨send_sends network raw client, unrecorded_send network raw client⟩
  | _ => exact ⟨read_reads network _ client, unrecorded_read network _ client⟩

end Client

end Notary
