import Notary.Proofs.Boundary.Entries

namespace Notary.Boundary

/-!
Every entry point answers as the operation that it stands for, and a failure is all that it adds to the
last error.
-/

variable {σ : Type} {outside : Outside σ} {boundary : Boundary σ} {entry : Entry}

/-- A call went as its outcome tells. -/
structure Turn.Follows (turn : Turn σ) (outcome : Except Fault Answer × Option (Session σ)) : Prop where
  session : turn.after.session = outcome.2
  succeeds : ∀ answer, outcome.1 = .ok answer →
    turn.answer = answer ∧ turn.after.lastError = turn.before.lastError
  fails : ∀ fault, outcome.1 = .error fault →
    turn.answer = turn.entry.refusal fault.contain ∧ turn.after.lastError = some fault.contain

def ofHandleOrCode (result : Except Error Handle) : Answer :=
  .number (handleOrCode result)

def turn (outside : Outside σ) (boundary : Boundary σ) (entry : Entry) : Turn σ :=
  let (answer, after) := boundary.answer outside entry
  ⟨boundary, entry, answer, after⟩

/-- An operation as the boundary runs it: what it ends with is told, and its error is kept. -/
theorem follows_call {α : Type} {operation : Boundary σ → Except Fault α × Boundary σ}
    {give : Except Error α → Answer} (encode : α → Answer)
    (given : ∀ value, give (.ok value) = encode value)
    (refused : ∀ e, give (.error e) = entry.refusal e)
    (kept : (operation boundary).2.lastError = boundary.lastError) :
    Turn.Follows ⟨boundary, entry, give (boundary.call operation).1, (boundary.call operation).2⟩
      ((operation boundary).1.map encode, (operation boundary).2.session) := by
  cases ran : operation boundary with
  | mk result after =>
      rw [ran] at kept
      simp only [call, ran]
      cases result with
      | ok value =>
          refine ⟨rfl, fun answer same => ⟨?_, kept⟩, fun fault => nofun⟩
          exact (given value).trans (Except.ok.inj same)
      | error fault =>
          refine ⟨rfl, fun answer => nofun, fun other same => ?_⟩
          cases same
          exact ⟨refused _, rfl⟩

/-- An operation on the installed session, with its argument decoded first. -/
theorem follows_withArgument {α β : Type} (argument : Except Fault β)
    (operation : β → Session σ → Except Fault α × Session σ) (give : Except Error α → Answer)
    (encode : α → Answer) {request : β → Session.Request σ}
    {pass : (value : β) → (request value).Reply → Except Fault Answer}
    (asks : ∀ value session, (operation value session).2 =
        (session.answer outside.gateway.ledger (request value)).2 ∧
      (operation value session).1.map encode =
        pass value (session.answer outside.gateway.ledger (request value)).1)
    (given : ∀ value, give (.ok value) = encode value)
    (refused : ∀ e, give (.error e) = entry.refusal e) :
    Turn.Follows ⟨boundary, entry, give (boundary.call (withArgument argument operation)).1,
        (boundary.call (withArgument argument operation)).2⟩
      (performed outside boundary.session
        (argument.map fun value => .ask (request value) (pass value))) := by
  -- The argument is decoded before the session is looked up, on both sides.
  have outcome : performed outside boundary.session
      (argument.map fun value => .ask (request value) (pass value)) =
        ((withArgument argument operation boundary).1.map encode,
          (withArgument argument operation boundary).2.session) := by
    cases argument with
    | error fault => rfl
    | ok value =>
        cases there : boundary.session with
        | none =>
            simp [performed, Except.map, Operation.perform, withArgument, onSession, installed,
              there]
        | some session =>
            obtain ⟨after, reply⟩ := asks value session
            simp only [performed, Except.map, Operation.perform, withArgument, onSession, installed,
              there, after]
            exact congrArg (·, _) reply.symm
  have kept : (withArgument argument operation boundary).2.lastError = boundary.lastError := by
    unfold withArgument onSession
    split
    · rfl
    · split <;> rfl
  rw [outcome]
  exact follows_call encode given refused kept

/-- An operation on the installed session that takes no argument to decode. -/
theorem follows_onSession {α : Type} (operation : Session σ → Except Fault α × Session σ)
    (give : Except Error α → Answer) (encode : α → Answer) {request : Session.Request σ}
    {pass : request.Reply → Except Fault Answer}
    (asks : ∀ session, (operation session).2 =
        (session.answer outside.gateway.ledger request).2 ∧
      (operation session).1.map encode = pass (session.answer outside.gateway.ledger request).1)
    (given : ∀ value, give (.ok value) = encode value)
    (refused : ∀ e, give (.error e) = entry.refusal e) :
    Turn.Follows ⟨boundary, entry, give (boundary.call (onSession operation)).1,
        (boundary.call (onSession operation)).2⟩
      (performed outside boundary.session (.ok (.ask request pass))) :=
  follows_withArgument (.ok ()) (fun _ => operation) give encode (fun _ => asks) given refused

theorem follows_unit (operation : Session σ → Except Fault Unit × Session σ)
    {request : Session.Request σ} {pass : request.Reply → Except Fault Answer}
    (asks : ∀ session, (operation session).2 =
        (session.answer outside.gateway.ledger request).2 ∧
      Answer.ofUnit (operation session).1 =
        pass (session.answer outside.gateway.ledger request).1)
    (coded : ∀ e, entry.refusal e = .number e.code) :
    Turn.Follows
      ⟨boundary, entry, .number (zeroOrCode (boundary.call (onSession operation)).1),
        (boundary.call (onSession operation)).2⟩
      (performed outside boundary.session (.ok (.ask request pass))) :=
  follows_onSession operation (fun result => .number (zeroOrCode result)) (fun _ => .number 0) asks
    (fun _ => rfl) fun e => (coded e).symm

/-- A look into a record, which changes nothing. -/
theorem follows_view {α : Type} (address : Nat) (view : BoundaryRecord → α)
    (give : Option α → Answer) (refused : ∀ e, give none = entry.refusal e) :
    Turn.Follows
      ⟨boundary, entry, give (boundary.ofRecord address view).1, (boundary.ofRecord address view).2⟩
      (performed outside boundary.session (.ok (.ask (.record address)
        fun reply : Except Fault BoundaryRecord =>
          reply.map fun record => give (some (view record))))) := by
  refine follows_onSession (fun session => ((session.record address).map view, session))
    (fun result => give result.toOption) (fun value => give (some value)) (fun session => ⟨rfl, ?_⟩)
    (fun _ => rfl) refused
  change ((session.record address).map view).map _ = (session.record address).map _
  cases session.record address <;> rfl

/-- A session is connected where none is installed, and is installed if that goes well. -/
theorem start_outcome (boundary : Boundary σ) (endpoint : String) (config : Config) (done : Answer) :
    (Operation.connect endpoint config done).perform outside boundary.session =
        ((boundary.start outside.gateway endpoint config).1.map fun _ => done,
          (boundary.start outside.gateway endpoint config).2.session) ∧
      (boundary.start outside.gateway endpoint config).2.lastError = boundary.lastError := by
  cases there : boundary.session with
  | some session => simp [Operation.perform, start, there, Except.map]
  | none =>
      cases connected : Session.connect outside.gateway endpoint config <;>
        simp [Operation.perform, start, install, initLogging, connected, there, Except.map]

/-- What both ways to connect come to, once it is clear how the arguments are decoded. -/
def starting (outside : Outside σ) (arguments : Boundary σ → Except Fault (String × Config))
    (boundary : Boundary σ) : Except Fault Unit × Boundary σ :=
  match arguments boundary with
  | .error fault => (.error fault, boundary)
  | .ok (endpoint, config) => boundary.start outside.gateway endpoint config

theorem follows_start (arguments : Boundary σ → Except Fault (String × Config)) (done : Answer)
    (give : Except Error Unit → Answer)
    (given : give (.ok ()) = done) (refused : ∀ e, give (.error e) = entry.refusal e) :
    Turn.Follows
      ⟨boundary, entry, give (boundary.call (starting outside arguments)).1,
        (boundary.call (starting outside arguments)).2⟩
      (performed outside boundary.session
        ((arguments boundary).map fun (endpoint, config) => .connect endpoint config done)) := by
  have outcome : performed outside boundary.session
        ((arguments boundary).map fun (endpoint, config) => .connect endpoint config done) =
      ((starting outside arguments boundary).1.map fun _ => done,
        (starting outside arguments boundary).2.session) ∧
      (starting outside arguments boundary).2.lastError = boundary.lastError := by
    unfold starting
    cases arguments boundary with
    | error fault => exact ⟨rfl, rfl⟩
    | ok named => exact start_outcome boundary named.1 named.2 done
  rw [outcome.1]
  exact follows_call (fun _ => done) (fun _ => given) refused outcome.2

theorem answer_follows {outcome : Except Fault Answer × Option (Session σ)}
    (told : entry.outcome? outside boundary = some outcome) :
    (turn outside boundary entry).Follows outcome := by
  cases entry with
  | initializeClient endpoint =>
      cases told
      exact follows_start (fun boundary => decodeClient boundary.namedConfig endpoint) .nothing
        (fun _ => .nothing) rfl fun _ => rfl
  | initializeClientWithConfig endpoint path =>
      cases told
      exact follows_start (fun _ => decodeConfigured outside.files endpoint path) (.number 0)
        (fun result => .number (zeroOrCode result)) rfl fun _ => rfl
  | initializeSigner seed =>
      cases told
      exact follows_withArgument (seed.text "seed") (fun seed session =>
        session.initializeSigner seed) ofHandleOrCode (fun handle => .number handle.raw)
        (fun _ _ => ⟨rfl, rfl⟩) (fun _ => rfl) fun _ => rfl
  | doSubmitData signer data appId =>
      cases told
      exact follows_withArgument (data.bytes "data") (fun payload session =>
        session.submitData outside.gateway.ledger (.ofWord signer) payload appId.toInt)
        ofHandleOrCode (fun handle => .number handle.raw) (fun _ _ => ⟨rfl, rfl⟩) (fun _ => rfl)
        fun _ => rfl
  | doSubmitBytes signer data length appId =>
      cases told
      exact follows_withArgument (bytesAt data length) (fun payload session =>
        session.submitData outside.gateway.ledger (.ofWord signer) payload appId.toInt)
        ofHandleOrCode (fun handle => .number handle.raw) (fun _ _ => ⟨rfl, rfl⟩) (fun _ => rfl)
        fun _ => rfl
  | getTransactionReceipt submission =>
      cases told
      exact follows_onSession (fun session =>
        session.transactionReceipt outside.gateway.ledger (.ofWord submission) none)
        ofHandleOrCode (fun handle => .number handle.raw) (fun _ => ⟨rfl, rfl⟩) (fun _ => rfl)
        fun _ => rfl
  | submissionCancel submission =>
      cases told
      exact follows_unit (fun session => session.cancelSubmission (.ofWord submission))
        (fun _ => ⟨rfl, rfl⟩) fun _ => rfl
  | receiptNew receipt =>
      cases told
      exact follows_onSession (fun session => session.receiptNew (.ofWord receipt))
        (fun result => .address result.toOption) (fun address => .address (some address))
        (fun _ => ⟨rfl, rfl⟩) (fun _ => rfl) fun _ => rfl
  | receiptFree address =>
      cases told
      exact follows_onSession (fun session => session.receiptFree address) (fun _ => .nothing)
        (fun _ => .nothing) (fun _ => ⟨rfl, rfl⟩) (fun _ => rfl) fun _ => rfl
  | receiptBlockHeight address =>
      cases told
      exact follows_view address (fun record => (record.blockHeight : Int))
        (fun height => .number (height.getD (-1))) fun _ => rfl
  | receiptTransactionIndex address =>
      cases told
      exact follows_view address (fun record => (record.transactionIndex : Int))
        (fun index => .number (index.getD (-1))) fun _ => rfl
  | receiptBlockHash address =>
      cases told
      exact follows_view address (fun record => record.blockHash.toBytes) .view fun _ => rfl
  | receiptTransactionHash address =>
      cases told
      exact follows_view address (fun record => record.transactionHash.toBytes) .view fun _ => rfl
  | signerRelease signer =>
      cases told
      exact follows_unit (fun session => session.releaseSigner (.ofWord signer))
        (fun _ => ⟨rfl, rfl⟩) fun _ => rfl
  | submissionRelease submission =>
      cases told
      exact follows_unit (fun session => session.releaseSubmission (.ofWord submission))
        (fun _ => ⟨rfl, rfl⟩) fun _ => rfl
  | receiptRelease receipt =>
      cases told
      exact follows_unit (fun session => session.releaseReceipt (.ofWord receipt))
        (fun _ => ⟨rfl, rfl⟩) fun _ => rfl
  | lastErrorCode | lastErrorMessage => cases told

end Notary.Boundary
