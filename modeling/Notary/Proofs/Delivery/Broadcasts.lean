import Mathlib.Data.List.Nodup
import Notary.Ledger.Chain
import Notary.Proofs.Program.Effect

namespace Notary

/-!
What the ledger in memory does with a transaction that is sent: it takes it, once, or it takes nothing.
A transaction that is turned away as known is among those it took before, as long as no reason that is
given from outside says so.
-/

namespace Search

/-- No occurrence of the pattern begins in the opening, whatever follows it. -/
def apart (pattern : List Char) : List Char → Bool
  | [] => true
  | c :: rest =>
      !pattern.isPrefixOf (c :: rest) && !(c :: rest).isPrefixOf pattern && apart pattern rest

theorem occursIn_append {pattern opening : List Char} (free : apart pattern opening = true)
    (text : List Char) : occursIn pattern (opening ++ text) = occursIn pattern text := by
  induction opening with
  | nil => rfl
  | cons c rest ih =>
      simp only [apart, Bool.and_eq_true, Bool.not_eq_true', ← Bool.not_eq_true,
        List.isPrefixOf_iff_prefix] at free
      obtain ⟨⟨longer, shorter⟩, freeLater⟩ := free
      have absent : pattern.isPrefixOf (c :: (rest ++ text)) = false := by
        rw [← Bool.not_eq_true, List.isPrefixOf_iff_prefix]
        intro occurs
        obtain inside | across :=
          List.prefix_or_prefix_of_prefix occurs (List.prefix_append (c :: rest) text)
        · exact longer inside
        · exact shorter across
      rw [List.cons_append, occursIn, absent, Bool.false_or, ih freeLater]

theorem mentions_append {opening phrase : String}
    (free : apart phrase.toList (lower opening) = true) (text : String) :
    mentions (opening ++ text) phrase = mentions text phrase := by
  rw [mentions, mentions, lower, String.toList_append, List.map_append]
  exact occursIn_append free (lower text)

end Search

theorem Rejection.isAlreadyKnown_append {opening : String}
    (free : ∀ phrase ∈ alreadyKnownPhrases,
      Search.apart phrase.toList (Search.lower opening) = true) (reason : String) :
    isAlreadyKnown (opening ++ reason) = isAlreadyKnown reason := by
  rw [isAlreadyKnown, isAlreadyKnown, Bool.eq_iff_iff, List.any_eq_true, List.any_eq_true]
  refine exists_congr fun phrase => and_congr_right fun listed => ?_
  rw [Search.mentions_append (free phrase listed)]

theorem Rejection.isAlreadyKnown_broadcast (reason : String) :
    isAlreadyKnown (Error.broadcast reason).message = isAlreadyKnown reason :=
  isAlreadyKnown_append (by decide +kernel) reason

namespace Chain

variable {chain after : Chain} {raw : Bytes} {call : Call}

def hashes (chain : Chain) : List Hash :=
  chain.broadcasts.map (·.hash)

/-- No transaction was taken twice. -/
def Distinct (chain : Chain) : Prop :=
  chain.hashes.Nodup

/-- One transaction of this hash was taken, and one only. -/
def HoldsOnce (chain : Chain) (hash : Hash) : Prop :=
  chain.hashes.count hash = 1

theorem Distinct.holdsOnce {hash : Hash} (distinct : chain.Distinct) (listed : hash ∈ chain.hashes) :
    chain.HoldsOnce hash :=
  List.count_eq_one_of_mem distinct listed

/-- Nothing was taken or set from outside in between. -/
def Alike (chain other : Chain) : Prop :=
  other.broadcasts = chain.broadcasts ∧ other.rejection = chain.rejection

theorem Alike.refl : chain.Alike chain := ⟨rfl, rfl⟩

theorem Alike.trans {next : Chain} (before : chain.Alike after) (later : after.Alike next) :
    chain.Alike next :=
  ⟨later.1.trans before.1, later.2.trans before.2⟩

theorem Alike.hashes_eq (alike : chain.Alike after) : after.hashes = chain.hashes := by
  rw [hashes, hashes, alike.1]

theorem Alike.distinct (alike : chain.Alike after) (distinct : chain.Distinct) : after.Distinct := by
  rw [Distinct, alike.hashes_eq]
  exact distinct

/-- The reasons that are given from outside do not say that a transaction is known. -/
def Frank (chain : Chain) : Prop :=
  ∀ reason, chain.rejection = some reason → Rejection.isAlreadyKnown reason = false

theorem Alike.frank (alike : chain.Alike after) (frank : chain.Frank) : after.Frank :=
  fun reason rejection => frank reason (alike.2 ▸ rejection)

/-- What becomes of a transaction that is offered. -/
inductive Offered (chain : Chain) (raw : Bytes) : Except Fault Hash → Chain → Prop where
  | taken (read : BroadcastTransaction) (hash : read.hash = Keccak.hash raw)
      (fresh : Keccak.hash raw ∉ chain.hashes) (after : Chain)
      (added : after.broadcasts = chain.broadcasts ++ [read]) :
      Offered chain raw (.ok (Keccak.hash raw)) after
  | refused (e : Error)
      (known : chain.Frank → Rejection.isAlreadyKnown e.message = true →
        Keccak.hash raw ∈ chain.hashes) :
      Offered chain raw (.error (.failure e)) chain

variable {reply : Except Fault Hash}

theorem Offered.distinct (offered : chain.Offered raw reply after) (distinct : chain.Distinct) :
    after.Distinct := by
  cases offered with
  | refused => exact distinct
  | taken read hash fresh after added =>
      rw [Distinct, hashes, added, List.map_append, List.map_singleton, hash]
      rw [← List.concat_eq_append]
      exact List.Nodup.concat fresh distinct

theorem Offered.listed {hash : Hash} (offered : chain.Offered raw (.ok hash) after) :
    Keccak.hash raw ∈ after.hashes := by
  cases offered with
  | taken read hash fresh after added =>
      rw [hashes, added, List.map_append, List.map_singleton, hash]
      exact List.mem_append_right _ List.mem_cons_self

theorem Offered.unlisted {e : Error} (offered : chain.Offered raw (.error (.failure e)) after) :
    after = chain ∧ (chain.Frank → Rejection.isAlreadyKnown e.message = true →
      Keccak.hash raw ∈ chain.hashes) := by
  cases offered with
  | refused e known => exact ⟨rfl, known⟩

theorem withLag_distinct (lag : Nat) : (withLag lag).Distinct := List.nodup_nil

variable [Surroundings]

theorem accept_offered (chain : Chain) (raw : Bytes) :
    chain.Offered raw ((chain.accept raw).1.mapError .failure) (chain.accept raw).2 := by
  have unknown (reason : String)
      (unsaid : chain.Frank → Rejection.isAlreadyKnown reason = false) :
      chain.Offered raw (.error (.failure (.broadcast reason))) chain := by
    refine .refused _ fun frank said => ?_
    rw [Rejection.isAlreadyKnown_broadcast, unsaid frank] at said
    cases said
  unfold accept
  cases rejection : chain.rejection with
  | some reason => exact unknown reason fun frank => frank reason rejection
  | none =>
      cases Envelope.decode? Surroundings.typed? raw with
      | none => exact unknown _ fun _ => by decide +kernel
      | some tx =>
          simp only
          split
          · next known =>
              obtain ⟨read, listed, same⟩ := List.any_eq_true.mp known
              exact .refused _ fun _ _ => List.mem_map.mpr ⟨read, listed, of_decide_eq_true same⟩
          · next new =>
              cases AppData.decode? tx.data with
              | none => exact unknown _ fun _ => by decide +kernel
              | some parts =>
                  refine .taken ⟨_, tx.nonce, parts.1, parts.2, tx.recipient⟩ rfl (fun known => ?_)
                    _ rfl
                  obtain ⟨read, listed, same⟩ := List.mem_map.mp known
                  exact new (List.any_eq_true.mpr ⟨read, listed, decide_eq_true same⟩)

theorem answer_alike (sends : ∀ raw, call ≠ .sendRaw raw) : chain.Alike (chain.answer call).2 := by
  have quiet : chain.Alike (chain.answerReached call).2 := by
    cases call with
    | sendRaw raw => exact absurd rfl (sends raw)
    | inclusion hash =>
        simp only [answerReached, lookUp]
        split <;> exact .refl
    | chainId | blockNumber | finalizedBlockNumber | blockHash | pendingNonce | gasPrice =>
        exact .refl
  unfold answer
  split
  · exact .refl
  · cases reached : chain.answerReached call with
    | mk reply after =>
        rw [reached] at quiet
        cases reply <;> exact quiet

theorem answer_offered (chain : Chain) (raw : Bytes) :
    chain.Offered raw (chain.answer (.sendRaw raw)).1 (chain.answer (.sendRaw raw)).2 := by
  have offered := chain.accept_offered raw
  simp only [answer, answerReached]
  split
  · exact .refused _ fun _ said => absurd said (by decide +kernel)
  · cases accepted : chain.accept raw with
    | mk reply after =>
        rw [accepted] at offered
        cases reply <;> exact offered

theorem answer_ok {value : call.Answer} (answered : chain.answer call = (.ok value, after)) :
    chain.answerReached call = (.ok value, after) := by
  unfold answer at answered
  split at answered
  · cases answered
  · split at answered
    · next reached =>
        cases answered
        exact reached
    · cases answered

/-- Every account is told one and the same nonce. -/
theorem answer_pendingNonce {account : Address} {pending : Nat}
    (answered : chain.answer (.pendingNonce account) = (.ok pending, after)) : pending = 0 :=
  (Except.ok.inj (Prod.mk.inj (answer_ok answered)).1).symm

theorem answer_distinct (call : Call) (chain : Chain) (distinct : chain.Distinct) :
    (chain.answer call).2.Distinct := by
  cases call with
  | sendRaw raw => exact (chain.answer_offered raw).distinct distinct
  | chainId | blockNumber | finalizedBlockNumber | blockHash | pendingNonce | gasPrice | inclusion =>
      exact Alike.distinct (answer_alike fun _ => nofun) distinct

theorem preserves_distinct : Chain.ledger.Preserves Distinct :=
  Ledger.preserves_ofAnswers answer_distinct

/-- How a chain can change between the calls of a session: its controls are moved, and others call. -/
inductive Elsewhere : (Chain → Chain) → Prop where
  | controlled (control : Control) : Elsewhere fun chain => chain.control control
  | called (call : Call) : Elsewhere fun chain => (chain.answer call).2

theorem Elsewhere.distinct {change : Chain → Chain} (elsewhere : Elsewhere change)
    (distinct : chain.Distinct) : (change chain).Distinct := by
  cases elsewhere with
  | controlled control => cases control <;> exact distinct
  | called call => exact answer_distinct call chain distinct

end Chain

end Notary
