import Notary.Proofs.Boundary.Values

namespace Notary.Boundary

/-!
The contract of the boundary, over any calls in a row: every call does what the operation of the session
does that it stands for, its result can be told from a failure, and the last error is that of the last
call that failed.
-/

/-- A result that no failure looks like. -/
def Answer.IsResult : Answer → Prop
  | .nothing => True
  | .number value => 0 ≤ value ∧ value < BoundaryRecord.limit
  | .address record => ∃ address, record = some address ∧ address ≠ 0
  | .view bytes => ∃ content, bytes = some content ∧ content.length = 32
  | .written _ _ => False

/-- What stands for a failure. -/
def Answer.IsRefusal : Answer → Prop
  | .nothing => True
  | .number value => value < 0
  | .address record => record = none
  | .view bytes => bytes = none
  | .written _ _ => False

theorem refusal_isRefusal (entry : Entry) (e : Error) : (entry.refusal e).IsRefusal := by
  have coded := e.code_neg
  have negative : (-1 : Int) < 0 := by decide
  cases entry with
  | initializeClient | receiptFree => trivial
  | receiptNew | receiptBlockHash | receiptTransactionHash => rfl
  | receiptBlockHeight | receiptTransactionIndex => exact negative
  | _ => exact coded

variable {σ : Type} {outside : Outside σ} {boundary : Boundary σ} {entry : Entry} {turn : Turn σ}
  {turns : List (Turn σ)} {answer : Answer} {session : Option (Session σ)}

/-- The session that is installed, if there is one, has come out of requests. -/
def Sound (boundary : Boundary σ) : Prop :=
  ∀ session, boundary.session = some session → session.Sound ∧ session.records.Fits

theorem map_result {α : Type} {reply : Except Fault α} {encode : α → Answer}
    (told : reply.map encode = .ok answer)
    (proper : ∀ value, reply = .ok value → (encode value).IsResult) : answer.IsResult := by
  cases reply with
  | error fault => cases told
  | ok value =>
      cases told
      exact proper value rfl

theorem ofHandle_result {reply : Except Fault Handle} (told : Answer.ofHandle reply = .ok answer)
    (plain : ∀ handle, reply = .ok handle → handle.IsPlain) : answer.IsResult :=
  map_result told plain

theorem zero_isResult : (Answer.number 0).IsResult := by
  have limit : (0 : Int) < BoundaryRecord.limit := by decide
  exact ⟨Int.le_refl 0, limit⟩

theorem ofUnit_result {reply : Except Fault Unit} (told : Answer.ofUnit reply = .ok answer) :
    answer.IsResult :=
  map_result told fun _ _ => zero_isResult

theorem performed_ok {α : Type} {argument : Except Fault α} {operation : α → Operation σ}
    (ended : (performed outside session (argument.map operation)).1 = .ok answer) :
    ∃ value, argument = .ok value ∧ ((operation value).perform outside session).1 = .ok answer := by
  cases argument with
  | error fault => cases ended
  | ok value => exact ⟨value, rfl, ended⟩

theorem connect_ok {endpoint : String} {config : Config} {done : Answer}
    (ended : ((Operation.connect endpoint config done).perform outside session).1 = .ok answer) :
    answer = done := by
  simp only [Operation.perform] at ended
  split at ended
  · cases ended
  · cases ended
  · cases ended
    rfl

theorem ask_ok {request : Session.Request σ} {pass : request.Reply → Except Fault Answer}
    (ended : ((Operation.ask request pass).perform outside session).1 = .ok answer) :
    ∃ there, session = some there ∧
      pass (there.answer outside.gateway.ledger request).1 = .ok answer := by
  cases session with
  | none => cases ended
  | some there => exact ⟨there, rfl, ended⟩

/-- The result of a call can be told from every failure. -/
theorem outcome_isResult {outcome : Except Fault Answer × Option (Session σ)}
    (sound : boundary.Sound) (told : entry.outcome? outside boundary = some outcome)
    (ended : outcome.1 = .ok answer) : answer.IsResult := by
  cases entry with
  | initializeClient endpoint =>
      cases told
      obtain ⟨named, -, ended⟩ := performed_ok ended
      rw [connect_ok ended]
      trivial
  | initializeClientWithConfig endpoint path =>
      cases told
      obtain ⟨named, -, ended⟩ := performed_ok ended
      rw [connect_ok ended]
      exact zero_isResult
  | initializeSigner seed =>
      cases told
      obtain ⟨seed, -, ended⟩ := performed_ok ended
      obtain ⟨there, installed, passed⟩ := ask_ok ended
      have wellFormed := (sound there installed).1.wellFormed
      exact ofHandle_result passed fun _ => Session.initializeSigner_plain wellFormed
  | doSubmitData signer data appId =>
      cases told
      obtain ⟨payload, -, ended⟩ := performed_ok ended
      obtain ⟨there, installed, passed⟩ := ask_ok ended
      have wellFormed := (sound there installed).1.wellFormed
      exact ofHandle_result passed fun _ => Session.submitData_plain wellFormed
  | doSubmitBytes signer data length appId =>
      cases told
      obtain ⟨payload, -, ended⟩ := performed_ok ended
      obtain ⟨there, installed, passed⟩ := ask_ok ended
      have wellFormed := (sound there installed).1.wellFormed
      exact ofHandle_result passed fun _ => Session.submitData_plain wellFormed
  | getTransactionReceipt submission =>
      cases told
      obtain ⟨there, installed, passed⟩ := ask_ok ended
      exact ofHandle_result passed fun _ => Session.transactionReceipt_plain (sound there installed).1
  | submissionCancel | signerRelease | submissionRelease | receiptRelease =>
      cases told
      obtain ⟨there, installed, passed⟩ := ask_ok ended
      exact ofUnit_result passed
  | receiptNew receipt =>
      cases told
      obtain ⟨there, installed, passed⟩ := ask_ok ended
      exact map_result passed fun address made => ⟨address, rfl, Session.receiptNew_address made⟩
  | receiptFree address =>
      cases told
      obtain ⟨there, installed, passed⟩ := ask_ok ended
      exact map_result passed fun _ _ => trivial
  | receiptBlockHeight address =>
      cases told
      obtain ⟨there, installed, passed⟩ := ask_ok ended
      refine map_result passed fun record read => ?_
      have fits := Session.record_fits (sound there installed).2 read
      exact ⟨Int.natCast_nonneg _, Int.ofNat_lt.mpr fits.1⟩
  | receiptTransactionIndex address =>
      cases told
      obtain ⟨there, installed, passed⟩ := ask_ok ended
      refine map_result passed fun record read => ?_
      have fits := Session.record_fits (sound there installed).2 read
      exact ⟨Int.natCast_nonneg _, Int.ofNat_lt.mpr fits.2⟩
  | receiptBlockHash | receiptTransactionHash =>
      cases told
      obtain ⟨there, installed, passed⟩ := ask_ok ended
      exact map_result passed fun record _ => ⟨_, rfl, Hash.length_toBytes _⟩
  | lastErrorCode | lastErrorMessage => cases told

theorem perform_sound {operation : Operation σ}
    (sound : ∀ there, session = some there → there.Sound ∧ there.records.Fits) :
    ∀ there, (operation.perform outside session).2 = some there →
      there.Sound ∧ there.records.Fits := by
  cases operation with
  | connect endpoint config done =>
      intro there left
      simp only [Operation.perform] at left
      split at left
      · exact sound there left
      · cases left
      · next connected =>
          cases left
          -- A session that was just connected owns no records yet.
          obtain ⟨tracker, state, rfl⟩ := Session.connect_opened connected
          have empty : (Session.opened endpoint tracker Handle.slots state).records.Fits := by
            intro entry listed
            cases listed
          exact ⟨Session.opened_sound endpoint tracker _ state, empty⟩
  | ask request pass =>
      intro there left
      cases session with
      | none => cases left
      | some before =>
          cases left
          obtain ⟨soundBefore, fits⟩ := sound before rfl
          have shifts := Session.answer_shifts soundBefore.wellFormed outside.gateway.ledger request
          exact ⟨shifts.sound soundBefore, Session.answer_fits fits request⟩

theorem answer_diagnostic (told : entry.outcome? outside boundary = none) :
    (boundary.answer outside entry).2 = boundary := by
  cases entry with
  | lastErrorCode | lastErrorMessage => rfl
  | _ => cases told

theorem turn_sound (sound : boundary.Sound) (entry : Entry) :
    (Boundary.turn outside boundary entry).after.Sound := by
  cases told : entry.outcome? outside boundary with
  | none =>
      change (boundary.answer outside entry).2.Sound
      rw [answer_diagnostic told]
      exact sound
  | some outcome =>
      intro there installed
      rw [(answer_follows told).session] at installed
      obtain ⟨decoded, -, rfl⟩ := Option.map_eq_some_iff.mp told
      cases decoded with
      | error fault => exact sound there installed
      | ok operation => exact perform_sound sound there installed

theorem turn_lastError (boundary : Boundary σ) (entry : Entry) :
    (Boundary.turn outside boundary entry).after.lastError =
      ((Boundary.turn outside boundary entry).error? outside).or boundary.lastError := by
  cases told : entry.outcome? outside boundary with
  | none =>
      change (boundary.answer outside entry).2.lastError = _
      rw [answer_diagnostic told]
      simp [Turn.error?, Boundary.turn, told]
  | some outcome =>
      have follows := answer_follows told
      obtain ⟨result, left⟩ := outcome
      cases result with
      | error fault =>
          rw [(follows.fails fault rfl).2]
          simp [Turn.error?, Boundary.turn, told]
      | ok value =>
          rw [(follows.succeeds value rfl).2]
          simp [Turn.error?, Boundary.turn, told]

theorem lastFailure_cons (turn : Turn σ) (turns : List (Turn σ)) :
    lastFailure outside (turn :: turns) =
      (lastFailure outside turns).or (turn.error? outside) := by
  simp [lastFailure, List.findSome?_append]

theorem run_turn (sound : boundary.Sound) {entries : List Entry} {earlier later : List (Turn σ)}
    (happened : (boundary.run outside entries).1 = earlier ++ turn :: later) :
    ∃ middle, middle.Sound ∧ turn = Boundary.turn outside middle turn.entry ∧
      middle.lastError = (lastFailure outside earlier).or boundary.lastError := by
  -- The induction is on the calls. The boundary that they start from moves along, and with it the
  -- error of the last failure before them.
  induction entries generalizing boundary earlier with
  | nil => simp [run] at happened
  | cons entry entries ih =>
      cases earlier with
      | nil =>
          cases happened
          exact ⟨boundary, sound, rfl, rfl⟩
      | cons first earlier =>
          obtain ⟨rfl, rest⟩ := List.cons.inj happened
          obtain ⟨middle, soundThere, there, kept⟩ := ih (turn_sound sound entry) rest
          refine ⟨middle, soundThere, there, ?_⟩
          rw [kept, turn_lastError, lastFailure_cons, Option.or_assoc]
          rfl

/-- A call does what the operation does that it stands for. A result is told as one, and leaves the last
error alone; a failure is told in its place, and becomes the last error. -/
structure Turn.Conforms (outside : Outside σ) (turn : Turn σ) : Prop where
  operates : ∀ result session, turn.entry.outcome? outside turn.before = some (result, session) →
    turn.after.session = session ∧
      (∀ answer, result = .ok answer → turn.answer = answer ∧ answer.IsResult ∧
        turn.after.lastError = turn.before.lastError) ∧
      ∀ fault, result = .error fault → turn.answer = turn.entry.refusal fault.contain ∧
        turn.answer.IsRefusal ∧ turn.after.lastError = some fault.contain
  /-- A text is submitted as the bytes before its first zero byte. -/
  submitsText : ∀ signer bytes appId, turn.entry = .doSubmitData signer (some bytes) appId →
    let payload := bytes.takeWhile (· != 0)
    turn.before.answer outside (.doSubmitBytes signer (some payload) payload.length appId) =
      (turn.answer, turn.after)
  diagnoses : turn.entry.outcome? outside turn.before = none → turn.after = turn.before

/-- What the last failure is told as. -/
structure Turn.Tells (turn : Turn σ) (failure : Option Error) : Prop where
  code : turn.entry = .lastErrorCode →
    turn.answer = .number ((failure.map Error.code).getD 0)
  message : ∀ length, turn.entry = .lastErrorMessage (some (length + 1)) →
    let text := Bytes.ofText ((failure.map Error.message).getD "")
    let count := min length text.length
    turn.answer = .written (some (text.take length ++ [0])) (Int32.ofNat count).toInt
  /-- Nothing is written at a null pointer or to a buffer without room. -/
  unwritten : turn.entry = .lastErrorMessage none ∨ turn.entry = .lastErrorMessage (some 0) →
    turn.answer = .written none (-1)

theorem turn_conforms (sound : boundary.Sound) (entry : Entry) :
    (Boundary.turn outside boundary entry).Conforms outside where
  operates := by
    intro result session told
    have follows := answer_follows told
    refine ⟨follows.session, fun answer ended => ?_, fun fault ended => ?_⟩
    · obtain ⟨given, kept⟩ := follows.succeeds answer ended
      exact ⟨given, outcome_isResult sound told ended, kept⟩
    · obtain ⟨given, kept⟩ := follows.fails fault ended
      exact ⟨given, given ▸ refusal_isRefusal entry _, kept⟩
  submitsText := by
    rintro signer bytes appId rfl payload
    have same : bytesAt (some payload) payload.length = .ok payload := by
      unfold bytesAt
      split
      · next empty => rw [List.length_eq_zero_iff.mp empty]
      · simp
    change boundary.answer outside (.doSubmitBytes signer (some payload) payload.length appId) =
      boundary.answer outside (.doSubmitData signer (some bytes) appId)
    simp only [Boundary.answer, doSubmitBytes, doSubmitData, same, TextArgument.bytes]
    rfl
  diagnoses := answer_diagnostic

theorem turn_tells (boundary : Boundary σ) (entry : Entry) :
    (Boundary.turn outside boundary entry).Tells boundary.lastError where
  code := by
    rintro rfl
    rfl
  message := by
    rintro length rfl text count
    have counted : writtenCount (some (text.take length ++ [0])) = (Int32.ofNat count).toInt := by
      simp [writtenCount, count]
    exact congrArg (Answer.written (some (text.take length ++ [0]))) counted
  unwritten := by
    rintro (rfl | rfl) <;> rfl

/-- What holds of calls in a row, given the error that was kept before the first of them. -/
def Upholds (outside : Outside σ) (kept : Option Error) (turns : List (Turn σ)) : Prop :=
  ∀ earlier turn later, turns = earlier ++ turn :: later →
    turn.Conforms outside ∧ turn.Tells ((lastFailure outside earlier).or kept)

/-- Over any calls in a row, with or without a session that has been in use before: each call does to
the session what the operation on its decoded arguments does, and tells its result, or a failure that
no result looks like. The last error is at any time that of the last call that failed, and it is what
the diagnostics tell. -/
theorem entry_points_mirror_the_session (outside : Outside σ) (installed : Option (Session.Life σ))
    (kept : Option Error) (logging : Bool) (named : Option Config.File) (entries : List Entry) :
    let session := installed.map (Session.Life.present outside.gateway.ledger)
    Upholds outside kept ((⟨session, kept, logging, named⟩ : Boundary σ).run outside entries).1 := by
  intro session earlier turn later happened
  have sound : (⟨session, kept, logging, named⟩ : Boundary σ).Sound := by
    intro there found
    obtain ⟨life, -, rfl⟩ := Option.map_eq_some_iff.mp found
    exact life.present_sound outside.gateway.ledger
  obtain ⟨middle, soundThere, there, same⟩ := run_turn sound happened
  rw [there, ← same]
  exact ⟨turn_conforms soundThere turn.entry, turn_tells middle turn.entry⟩

end Notary.Boundary
