import Notary.Proofs.Finality.Stages
import Notary.Proofs.Session.Settling

namespace Notary

/-!
Resolving a case on the ledger in memory, which nobody else uses: how many checks the wait takes is known
beforehand.
-/

namespace Docket

variable {docket after : Docket Chain} {number ms : Nat} {submission : Submission}
  {reply : Except Fault Handle}

/-- A case that is sent and not cancelled, on a ledger in memory that can be reached, that has taken its
transaction, and that executes it in a block which is not replaced. The number of failures fits its
word, and so does the height that the head must reach. -/
structure Awaits [Chain.Surroundings] (docket : Docket Chain) (number : Nat)
    (submission : Submission) : Prop where
  stored : docket.cases[number]? = some (Submission.opened submission)
  took : docket.world.ledger.Took submission.hash
  reachable : docket.world.ledger.unreachable = false
  executes : docket.world.ledger.executes submission.hash = true
  standing : docket.world.ledger.landing submission.hash ∉ docket.world.ledger.orphaned
  counted : docket.world.ledger.failingPolls < Checked.limit 32
  fits : docket.tracker.finality.mode = .confirmations →
    docket.world.ledger.landing submission.hash + docket.tracker.finality.confirmationBlocks <
      Checked.limit 64

/-- The docket after a wait, before it settles a case. -/
def waited (docket : Docket Chain) (result : Except Fault FinalityRecord) (world : World Chain) :
    Docket Chain :=
  { docket with
    world := { world with metrics := Tracker.noteResolution result world.metrics } }

section

variable [Chain.Surroundings]

theorem await_sent {result : Except Fault FinalityRecord} {world : World Chain}
    (stored : docket.cases[number]? = some (Submission.opened submission))
    (ended : docket.tracker.wait Chain.ledger submission none docket.world = (result, ms, world)) :
    docket.await Chain.ledger number none = (result, ms, docket.waited result world) := by
  simp only [await, find, stored, Tracker.awaitFinality, Submission.opened, ended]
  rfl

theorem resolve_sent {result : Except Fault FinalityRecord} {world : World Chain}
    (stored : docket.cases[number]? = some (Submission.opened submission))
    (ended : docket.tracker.wait Chain.ledger submission none docket.world = (result, ms, world)) :
    docket.resolve Chain.ledger number none =
      (((docket.waited result world).settle number result).1, ms,
        ((docket.waited result world).settle number result).2) := by
  have unsettled : docket.outcome? (Submission.opened submission) = none := rfl
  simp only [resolve, find, stored, unsettled, await_sent stored ended]

theorem resolve_of_ends {count : Nat} {result : Except Error FinalityRecord} {left : World Chain}
    (stored : docket.cases[number]? = some (Submission.opened submission))
    (ends : (Tracker.Stage.first docket.tracker docket.world).Ends docket.tracker submission count
      result left)
    (resolved : docket.resolve Chain.ledger number none = (reply, ms, after)) :
    docket.tracker.wait Chain.ledger submission none docket.world =
        (result.mapError .failure, ms, left) ∧
      reply = ((docket.waited (result.mapError .failure) left).settle number
        (result.mapError .failure)).1 ∧
      after = ((docket.waited (result.mapError .failure) left).settle number
        (result.mapError .failure)).2 := by
  obtain ⟨instant, ended⟩ := Tracker.wait_of_ends ends
  have answered := resolve_sent stored ended
  rw [resolved] at answered
  obtain ⟨same, rest⟩ := Prod.mk.inj answered
  obtain ⟨rfl, remains⟩ := Prod.mk.inj rest
  exact ⟨ended, same, remains⟩

/-- An answer that tells of no timeout was not broken off. -/
theorem untimed_of_reply (stored : docket.cases[number]? = some (Submission.opened submission))
    (other : (docket.resolve Chain.ledger number none).1 ≠
      .error (.failure docket.tracker.lateError)) :
    (docket.tracker.watch submission docket.world).1 ≠ .timedOut := by
  intro late
  rcases ran : docket.tracker.watch submission docket.world with ⟨outcome, ms, world⟩
  rw [ran] at late
  cases late
  have ended : docket.tracker.wait Chain.ledger submission none docket.world =
      (.error (.failure docket.tracker.lateError), ms, world) := by
    rw [Tracker.watch] at ran
    simp only [Tracker.wait, ran]
  rw [resolve_sent stored ended] at other
  exact other rfl

/-- A case that was resolved by a record, which the wait has found: the answer is what the registry
gives for it, and a receipt settles the case. -/
structure Concludes (docket : Docket Chain) (number : Nat) (record : FinalityRecord)
    (reply : Except Fault Handle) (after : Docket Chain) : Prop where
  found : (docket.await Chain.ledger number none).1 = .ok record
  published : reply = (docket.registry.register (.receipt record)).1.mapError .failure
  settled : ∀ receipt, reply = .ok receipt → after.state number = .ok (.finalized receipt)

theorem concludes {world : World Chain} {record : FinalityRecord}
    (stored : docket.cases[number]? = some (Submission.opened submission))
    (ended : docket.tracker.wait Chain.ledger submission none docket.world =
      (.ok record, ms, world)) :
    docket.Concludes number record ((docket.waited (.ok record) world).settle number (.ok record)).1
      ((docket.waited (.ok record) world).settle number (.ok record)).2 := by
  have same : (docket.waited (.ok record) world).registry = docket.registry := rfl
  have found := congrArg Prod.fst (await_sent stored ended)
  cases registered : docket.registry.register (.receipt record) with
  | mk outcome registry =>
      cases outcome with
      | error e =>
          simp only [settle, same, registered]
          exact ⟨found, by rw [registered]; rfl, fun receipt answered => nomatch answered⟩
      | ok receipt =>
          simp only [settle, same, registered]
          refine ⟨found, by rw [registered]; rfl, fun other answered => ?_⟩
          cases answered
          have settled := @setState_getElem? _ { docket.waited (.ok record) world with registry }
            number _ (.finalized receipt) stored
          simp only [state, find, settled]
          rfl

/-- On the ledger in memory, a wait that is not broken off is over after a number of checks that is known
beforehand. It bears the failures that its budget allows, and then looks until the block is deep
enough; failures beyond the budget are left to the next wait, for which the same holds. The pause
between two checks takes time, as in every configuration that is valid, and the delay after a failure
leaves room for its jitter. -/
theorem wait_ends_after_known_checks (awaits : docket.Awaits number submission)
    (timed : 0 < docket.tracker.finality.pollIntervalMs)
    (roomy : docket.tracker.freshBackoff.Roomy)
    (resolved : docket.resolve Chain.ledger number none = (reply, ms, after))
    (untimed : (docket.tracker.watch submission docket.world).1 ≠ .timedOut) :
    (docket.world.ledger.failingPolls ≤ docket.tracker.finality.maxRpcFailures →
      ∃ looks record,
        IsLeast (docket.tracker.sufficing (docket.world.ledger.landing submission.hash)
          docket.world.ledger) looks ∧
        Tracker.checks submission (docket.tracker.watchSteps submission docket.world) =
          docket.world.ledger.failingPolls + looks ∧
        record.blockHeight = docket.world.ledger.landing submission.hash ∧
        docket.Concludes number record reply after ∧
        after.world.ledger.head = docket.world.ledger.head + 2 * looks) ∧
    (docket.tracker.finality.maxRpcFailures < docket.world.ledger.failingPolls →
      reply = .error (.failure (.rpc "injected poll failure")) ∧
        Tracker.checks submission (docket.tracker.watchSteps submission docket.world) =
          docket.tracker.finality.maxRpcFailures + 1 ∧
        after.world.ledger = { docket.world.ledger with
          failingPolls := docket.world.ledger.failingPolls -
            (docket.tracker.finality.maxRpcFailures + 1) } ∧
        after.tracker = docket.tracker ∧ after.Awaits number submission) := by
  have ready := Tracker.first_open untimed
  have clean : Tracker.streak (Tracker.Stage.first docket.tracker docket.world).earlier = 0 := rfl
  constructor
  · intro borne
    obtain ⟨report, height, places⟩ :=
      awaits.took.places awaits.reachable awaits.executes awaits.standing
    obtain ⟨later, still, left, counts⟩ := ready.bears timed roomy _ awaits.reachable rfl
      (by rw [clean, Nat.zero_add]; exact borne) (by rw [clean, Nat.zero_add]; exact awaits.counted)
    have placed : later.world.ledger.Places submission.hash report := by
      rw [left]
      exact places.failing 0
    have passing : later.world.ledger.failingPolls = 0 := by rw [left]
    obtain ⟨looks, least, ended⟩ :=
      still.confirms timed placed passing (by rw [height]; exact awaits.fits)
    have whole := counts _ _ _ ended
    obtain ⟨waited, rfl, rfl⟩ := resolve_of_ends awaits.stored whole resolved
    refine ⟨looks, .ofReport report, ?_, whole.counted, height, concludes awaits.stored waited, ?_⟩
    · rw [left, height] at least
      exact least
    · rw [settle_world, left]
      exact Chain.head_iterate_mine _ _
  · intro spent
    have gaveUp := ready.givesUp timed roomy docket.tracker.finality.maxRpcFailures awaits.reachable
      (by rw [clean, Nat.zero_add]) spent (Nat.lt_of_le_of_lt spent awaits.counted)
    obtain ⟨-, rfl, rfl⟩ := resolve_of_ends awaits.stored gaveUp resolved
    refine ⟨rfl, gaveUp.counted, rfl, rfl, awaits.stored, ?_, awaits.reachable, awaits.executes,
      awaits.standing, ?_, awaits.fits⟩
    · exact awaits.took.control (.failPolls _)
    · exact Nat.lt_of_le_of_lt (Nat.sub_le _ _) awaits.counted

end

/-- A transaction without a payload. -/
def plainRaw : Bytes :=
  [0xcd, 0x80, 0x80, 0x80, 0x80, 0x80, 0x84, 0, 0, 0, 1, 27, 1, 1]

def plain : Submission where
  transaction := ⟨Keccak.hash plainRaw, plainRaw, default, 0, 1⟩
  payloadLength := 0
  submittedAt := 0
  mortalityBlocks := none

/-- A ledger that has taken the transaction and will fail so many lookups. -/
def faltering (failures : Nat) : Chain :=
  { Chain.withLag 1 with
    broadcasts := [⟨plain.hash, 0, 1, [], none⟩]
    pending := [plain.hash]
    failingPolls := failures }

theorem faltering_took (failures : Nat) : (faltering failures).Took plain.hash := by
  have decoded : Envelope.decode? Chain.Surroundings.typed? plainRaw =
      some ⟨0, none, [0, 0, 0, 1]⟩ := by decide +kernel
  have data : AppData.decode? [0, 0, 0, 1] = some (1, []) := by decide +kernel
  have accepted : (Chain.withLag 1).answer (.sendRaw plainRaw) = (.ok plain.hash, faltering 0) := by
    simp [Chain.answer, Chain.answerReached, Chain.accept, Chain.withLag, decoded, data, faltering,
      plain, Submission.hash]
  refine ⟨1, [.call (.sendRaw plainRaw), .control (.failPolls failures)], ?_, ?_⟩
  · simp only [Chain.run, Chain.serve, accepted]
    rfl
  · refine List.mem_filterMap.mpr
      ⟨⟨Chain.withLag 1, .call (.sendRaw plainRaw), .ok plain.hash, faltering 0⟩, ?_, rfl⟩
    simp only [Chain.run, Chain.serve, accepted, List.mem_cons, true_or]

/-- The wait for this one case bears a failure; the ledger has two of them in store. -/
def unsteady : Docket Chain where
  tracker := Tracker.bearingOne
  world := ⟨faltering 2, .empty, .empty⟩
  cases := #[Submission.opened plain]
  registry := .empty

theorem unsteady_awaits : unsteady.Awaits 0 plain where
  stored := rfl
  took := faltering_took 2
  reachable := rfl
  executes := rfl
  standing := List.not_mem_nil
  counted := by decide
  fits := Config.FinalityMode.noConfusion

open Tracker in
theorem faltering_finds (world : World Chain) (met : world.ledger = faltering 0) : ∃ record ms after,
    bearingOne.wait Chain.ledger plain none world = (.ok record, ms, after) := by
  obtain ⟨ledger, book, metrics⟩ := world
  subst met
  obtain ⟨report, height, places⟩ := (faltering_took 0).places rfl rfl List.not_mem_nil
  have deep : report.blockNumber + bearingOne.depth (faltering 0).lag = 2 := congrArg (· + 1) height
  obtain ⟨round, looks, ⟨-, found⟩ | ⟨late, -⟩⟩ :=
    @look bearingOne plain report ⟨faltering 0, book, metrics⟩ _ places rfl
      Config.FinalityMode.noConfusion
  · have remaining : 0 < bearingOne.rounds := by decide
    have ended := @Stage.ends bearingOne plain _ (.first bearingOne ⟨faltering 0, book, metrics⟩) _
      round (.ok (.ofReport report)) remaining (Nat.zero_le _) looks (by rw [found]; nofun)
      (by rw [found]; rfl)
    obtain ⟨ms, waited⟩ := wait_of_ends ended
    exact ⟨_, ms, _, waited⟩
  · rw [deep] at late
    exact absurd late (Nat.lt_irrefl 2)

theorem faltering_resolves {number : Nat} (awaits : docket.Awaits number plain)
    (bearing : docket.tracker = Tracker.bearingOne) (met : docket.world.ledger = faltering 0)
    (roomy : docket.registry = .empty) :
    ∃ receipt, (docket.resolve Chain.ledger number none).1 = .ok receipt := by
  obtain ⟨record, ms, world, waited⟩ := faltering_finds docket.world met
  rw [← bearing] at waited
  rw [resolve_sent awaits.stored waited, (concludes awaits.stored waited).published, roomy]
  exact ⟨_, rfl⟩

/-- The outage outlasts the first wait and not the second one. -/
theorem outage_can_be_retried :
    unsteady.Awaits 0 plain ∧
    (unsteady.resolve Chain.ledger 0 none).1 = .error (.failure (.rpc "injected poll failure")) ∧
    unsteady.tracker.freshBackoff.Roomy ∧
    Tracker.checks plain (unsteady.tracker.watchSteps plain unsteady.world) = 2 ∧
    Tracker.checks plain ((unsteady.resolve Chain.ledger 0 none).2.2.tracker.watchSteps plain
      (unsteady.resolve Chain.ledger 0 none).2.2.world) = 1 ∧
    ∃ receipt record, (unsteady.resolve Chain.ledger 0 none).2.2.Concludes 0 record (.ok receipt)
      ((unsteady.resolve Chain.ledger 0 none).2.2.resolve Chain.ledger 0 none).2.2 := by
  have roomy : unsteady.tracker.freshBackoff.Roomy := Backoff.roomy_of_ceiling (by decide +kernel)
  have untimed := untimed_of_reply unsteady_awaits.stored (by decide +kernel)
  rcases resolved : unsteady.resolve Chain.ledger 0 none with ⟨reply, ms, after⟩
  obtain ⟨rfl, checked, left, same, again⟩ := (wait_ends_after_known_checks unsteady_awaits
    (by decide) roomy resolved untimed).2 Nat.one_lt_two
  have resolution := resolve_resolution Chain.ledger unsteady 0 none
  rw [resolved] at resolution
  have unfilled : after.registry = .empty := by
    obtain kept | ⟨_, _, published, -⟩ := resolution.registry_eq
    · exact kept
    · cases published
  have calm : after.world.ledger = faltering 0 := left
  obtain ⟨receipt, granted⟩ := faltering_resolves again same calm unfilled
  obtain ⟨looks, record, ⟨⟨some, -⟩, least⟩, counted, -, concludes, -⟩ :=
    (wait_ends_after_known_checks again (by rw [same]; decide) (by rw [same]; exact roomy) (Prod.eta _).symm
      (untimed_of_reply again.stored (by rw [granted]; nofun))).1 (by rw [calm]; exact Nat.zero_le _)
  have once : looks ≤ 1 := least ⟨Nat.le_refl 1, by rw [calm, same]; exact Nat.le_refl 2⟩
  have passing : after.world.ledger.failingPolls = 0 := by rw [calm]; rfl
  rw [passing, Nat.zero_add, Nat.le_antisymm once some] at counted
  rw [granted] at concludes
  exact ⟨unsteady_awaits, rfl, roomy, checked, counted, receipt, record, concludes⟩

end Docket

end Notary
