import Notary.Proofs.Delivery.Submitting
import Notary.Proofs.Wire.Strings

namespace Notary

/-!
What is signed is what a ledger reads. A transaction in the widths of its fields is read back whole
from its signed form, the ledger in memory files it under the parts that were handed over, and two
orders that differ in one of those parts are never broadcast in the same bytes.
-/

namespace Secp256k1

variable {key : PrivateKey} {signature : Signature}

theorem exists_of_firstOf {α β : Type} {test : α → Option β} {next : α → α} {tries : Nat}
    {state : α} {result : β} (found : firstOf test next tries state = some result) :
    ∃ tried, test tried = some result := by
  induction tries generalizing state with
  | zero => cases found
  | succ tries ih =>
      rw [firstOf] at found
      cases outcome : test state with
      | some first =>
          rw [outcome] at found
          exact ⟨state, outcome.trans found⟩
      | none =>
          rw [outcome] at found
          exact ih found

theorem signWith?_lt_order {digest k : Nat} (made : signWith? key digest k = some signature) :
    signature.r < order ∧ signature.s < order := by
  have positive : 0 < order := by decide
  unfold signWith? at made
  split at made
  · cases made
  · split at made
    · cases made
    · next p _ =>
        have small (number : Nat) : number % order < order := Nat.mod_lt _ positive
        simp only at made
        split at made
        · cases made
        · next usable =>
            split at made
            · cases made
              exact ⟨small _, Nat.sub_lt positive (Nat.pos_of_ne_zero (not_or.mp usable).2)⟩
            · cases made
              exact ⟨small _, small _⟩

theorem sign_fits {digest : Hash} (made : sign key digest = some signature) :
    signature.r < 256 ^ 32 ∧ signature.s < 256 ^ 32 := by
  have below : order < 256 ^ 32 := by decide
  unfold sign attempt at made
  obtain ⟨state, tried⟩ := exists_of_firstOf made
  obtain ⟨r, s⟩ := signWith?_lt_order tried
  exact ⟨Nat.lt_trans r below, Nat.lt_trans s below⟩

end Secp256k1

namespace Rlp

theorem length_encodeString_le {string : Bytes} (sized : Sized string) :
    (encodeString string).length ≤ string.length + 9 := by
  have tagged : (tag 0x80 string.length ++ string).length ≤ string.length + 9 := by
    by_cases short : string.length < 56
    · rw [tag_short short]
      simp
    · rw [tag_long 0x80 (Nat.not_lt.mp short)]
      have size := (length_size (Nat.not_lt.mp short) sized).2
      simp
      omega
  unfold encodeString
  split
  · split <;> simp
  · exact tagged

theorem length_flatMap_le {strings : List Bytes} (sized : ∀ string ∈ strings, Sized string) :
    (strings.flatMap encodeString).length ≤ (strings.map fun string => string.length + 9).sum := by
  induction strings with
  | nil => simp
  | cons string rest ih =>
      have first := length_encodeString_le (sized string List.mem_cons_self)
      have later := ih fun other member => sized other (List.mem_cons_of_mem _ member)
      simp only [List.flatMap_cons, List.length_append, List.map_cons, List.sum_cons]
      omega

end Rlp

namespace AppData

theorem decode?_encode {appId : Nat} (fits : appId < Checked.limit 32) (payload : Bytes) :
    decode? (encode appId payload) = some (appId, payload) := by
  have long := Bytes.length_ofNatBE idLength appId
  have enough : ¬ (Bytes.ofNatBE idLength appId ++ payload).length < idLength := by
    rw [List.length_append, long]
    omega
  rw [decode?, encode, if_neg enough, List.take_left' long, List.drop_left' long,
    Bytes.toNatBE_ofNatBE_of_lt fits]

end AppData

namespace Transaction

/-- Every field in its width, with room for the other strings beside the data. -/
structure Fits (tx : Transaction) : Prop where
  nonce : tx.nonce < Checked.limit 64
  gasPrice : tx.gasPrice < Checked.limit 128
  gasLimit : tx.gasLimit < Checked.limit 64
  value : tx.value < Checked.limit 256
  data : tx.data.length + 256 < Checked.limit 64

variable {tx : Transaction} {chainId : Nat} {signature : Secp256k1.Signature}

theorem recipientOf?_getD (recipient : Option Address) :
    recipientOf? ((recipient.map Address.toBytes).getD []) = some recipient := by
  cases recipient with
  | none => rfl
  | some address =>
      have twenty := address.length_toBytes
      have written : address.toBytes ≠ [] := List.ne_nil_of_length_pos (by omega)
      simp [recipientOf?, twenty, written, Address.ofBytes_toBytes]

theorem length_recipient_le (recipient : Option Address) :
    ((recipient.map Address.toBytes).getD []).length ≤ 20 := by
  cases recipient with
  | none => exact Nat.zero_le _
  | some address => exact Nat.le_of_eq address.length_toBytes

theorem isParityMark_parityMark (chain : chainId < Checked.limit 64) (odd : Bool) :
    isParityMark (parityMark chainId odd) = true := by
  have parity : odd.toNat ≤ 1 := odd.toNat_le
  have told : (parityMark chainId odd - 35) / 2 = chainId := by
    unfold parityMark
    omega
  have enough : 35 ≤ parityMark chainId odd := by
    unfold parityMark
    omega
  simp [isParityMark, told, enough, chain]

theorem parityMark_lt (chain : chainId < Checked.limit 64) (odd : Bool) :
    parityMark chainId odd < 256 ^ 9 := by
  have parity : odd.toNat ≤ 1 := odd.toNat_le
  have chain : chainId < 256 ^ 8 := chain
  unfold parityMark
  omega

theorem sized_strings (fits : tx.Fits) (chain : chainId < Checked.limit 64)
    (r : signature.r < 256 ^ 32) (s : signature.s < 256 ^ 32) :
    let signed := tx.strings ++ [Bytes.minimalBE (parityMark chainId signature.odd),
      Bytes.minimalBE signature.r, Bytes.minimalBE signature.s]
    (∀ string ∈ signed, Rlp.Sized string) ∧ Rlp.Sized (signed.flatMap Rlp.encodeString) := by
  intro signed
  have nonce : (Bytes.minimalBE tx.nonce).length ≤ 8 := Bytes.length_minimalBE_le fits.nonce
  have gasPrice : (Bytes.minimalBE tx.gasPrice).length ≤ 16 :=
    Bytes.length_minimalBE_le fits.gasPrice
  have gasLimit : (Bytes.minimalBE tx.gasLimit).length ≤ 8 :=
    Bytes.length_minimalBE_le fits.gasLimit
  have recipient := length_recipient_le tx.recipient
  have value : (Bytes.minimalBE tx.value).length ≤ 32 := Bytes.length_minimalBE_le fits.value
  have data : tx.data.length + 256 < 256 ^ 8 := fits.data
  have mark := Bytes.length_minimalBE_le (parityMark_lt chain signature.odd)
  have r := Bytes.length_minimalBE_le r
  have s := Bytes.length_minimalBE_le s
  have each : ∀ string ∈ signed, Rlp.Sized string := by
    simp only [signed, strings, List.cons_append, List.nil_append, List.forall_mem_cons,
      Rlp.Sized]
    refine ⟨?_, ?_, ?_, ?_, ?_, ?_, ?_, ?_, ?_, nofun⟩ <;> omega
  refine ⟨each, ?_⟩
  have room := Rlp.length_flatMap_le each
  refine Nat.lt_of_le_of_lt room ?_
  simp only [signed, strings, List.cons_append, List.nil_append, List.map_cons, List.map_nil,
    List.sum_cons, List.sum_nil]
  omega

theorem decodeSigned?_encodeSigned (fits : tx.Fits) (chain : chainId < Checked.limit 64)
    (r : signature.r < 256 ^ 32) (s : signature.s < 256 ^ 32) :
    decodeSigned? (tx.encodeSigned chainId signature) = some tx := by
  obtain ⟨each, whole⟩ := sized_strings fits chain r s
  have read := Rlp.decodeList?_encodeList whole each
  have nonce := Rlp.decodeNat?_minimalBE 64 fits.nonce
  have gasPrice := Rlp.decodeNat?_minimalBE 128 fits.gasPrice
  have gasLimit := Rlp.decodeNat?_minimalBE 64 fits.gasLimit
  have recipient := recipientOf?_getD tx.recipient
  have value := Rlp.decodeNat?_minimalBE 256 fits.value
  have mark := Rlp.decodeNat?_minimalBE 128
    (Nat.lt_trans (parityMark_lt chain signature.odd) (by decide))
  have r := Rlp.decodeNat?_minimalBE 256 r
  have s := Rlp.decodeNat?_minimalBE 256 s
  have isMark := isParityMark_parityMark chain signature.odd
  rw [decodeSigned?, encodeSigned, read]
  simp [strings, nonce, gasPrice, gasLimit, recipient, value, mark, r, s, isMark]

end Transaction

namespace Envelope

variable {bytes : Bytes} {tx : Transaction}

/-- What is read as a transaction of the oldest kind begins a list, and so with no kind. -/
theorem not_isTyped (read : Transaction.decodeSigned? bytes = some tx) : isTyped bytes = false := by
  cases bytes with
  | nil => rfl
  | cons byte rest =>
      by_contra typed
      have low : byte.toNat < 0xc0 := by
        have kind : byte < 0x80 := by simpa [isTyped] using typed
        have kind : byte.toNat < 0x80 := kind
        omega
      have unread : Rlp.readPayload? (byte :: rest) = none := by simp [Rlp.readPayload?, low]
      simp [Transaction.decodeSigned?, Rlp.decodeList?, unread] at read

theorem decode?_of_decodeSigned? (typed? : Bytes → Option Envelope)
    (read : Transaction.decodeSigned? bytes = some tx) :
    decode? typed? bytes = some (ofTransaction tx) := by
  rw [decode?, not_isTyped read, read]
  rfl

end Envelope

/-- What a caller and the network side hand over to be signed and sent. -/
structure Parcel where
  signer : Signer
  payload : Bytes
  appId : Nat
  terms : Terms

namespace Parcel

/-- Every part in the width of its word, and a payload that memory can hold. -/
structure Fits (parcel : Parcel) : Prop where
  payload : parcel.payload.length < Checked.limit 63
  appId : parcel.appId < Checked.limit 32
  chainId : parcel.terms.chainId < Checked.limit 64
  nonce : parcel.terms.nonce < Checked.limit 64
  gasPrice : parcel.terms.gasPrice < Checked.limit 128
  gasLimit : parcel.terms.gasLimit < Checked.limit 64

variable {parcel other : Parcel} {signed twin : SignedTransaction}

def transaction (parcel : Parcel) : Transaction :=
  .ofPayload parcel.appId parcel.payload parcel.terms

/-- The signature on the parcel, if the curve gives one. -/
def signature? (parcel : Parcel) : Option Secp256k1.Signature :=
  Secp256k1.sign parcel.signer.key (parcel.transaction.signingDigest parcel.terms.chainId)

def sign (parcel : Parcel) : Except Error SignedTransaction :=
  parcel.signer.signPayload parcel.payload parcel.appId parcel.terms

theorem sign_eq_seal (parcel : Parcel) :
    parcel.sign = parcel.signer.seal parcel.transaction parcel.appId parcel.terms.chainId
      parcel.signature? :=
  rfl

theorem sign_of_signature (made : parcel.signature?.isSome = true) :
    ∃ signed, parcel.sign = .ok signed := by
  obtain ⟨signature, same⟩ := Option.isSome_iff_exists.mp made
  exact ⟨_, (sign_eq_seal parcel).trans (congrArg _ same)⟩

/-- The record that a ledger should make of the parcel. -/
def filed (parcel : Parcel) (hash : Hash) : BroadcastTransaction where
  hash := hash
  nonce := parcel.terms.nonce
  appId := parcel.appId
  payload := parcel.payload
  recipient := some parcel.terms.recipient

theorem Fits.transaction (fits : parcel.Fits) : parcel.transaction.Fits where
  nonce := fits.nonce
  gasPrice := fits.gasPrice
  gasLimit := fits.gasLimit
  value := (by decide : 0 < Checked.limit 256)
  data := by
    have payload : parcel.payload.length < 2 ^ 63 := fits.payload
    have data : parcel.transaction.data.length = AppData.idLength + parcel.payload.length := by
      rw [Parcel.transaction, Transaction.ofPayload, AppData.encode, List.length_append,
        Bytes.length_ofNatBE]
    rw [data, AppData.idLength]
    change _ < 2 ^ 64
    omega

/-- The signed form names the transaction and is read as the transaction. -/
theorem Fits.read (fits : parcel.Fits) (done : parcel.sign = .ok signed) :
    signed.hash = Keccak.hash signed.raw ∧
      Transaction.decodeSigned? signed.raw = some parcel.transaction ∧
      AppData.decode? parcel.transaction.data = some (parcel.appId, parcel.payload) := by
  have unpacked := AppData.decode?_encode fits.appId parcel.payload
  rw [sign_eq_seal] at done
  cases made : parcel.signature? with
  | none =>
      rw [made] at done
      cases done
  | some signature =>
      obtain ⟨r, s⟩ := Secp256k1.sign_fits made
      have read := Transaction.decodeSigned?_encodeSigned fits.transaction fits.chainId r s
      rw [made] at done
      cases done
      exact ⟨rfl, read, unpacked⟩

theorem answer_sign [Chain.Surroundings] {chain : Chain} (fits : parcel.Fits)
    (done : parcel.sign = .ok signed)
    (reachable : chain.unreachable = false) (accepting : chain.rejection = none)
    (fresh : signed.hash ∉ chain.hashes) :
    chain.answer (.sendRaw signed.raw) =
      (.ok signed.hash, { chain with
        broadcasts := chain.broadcasts ++ [parcel.filed signed.hash]
        pending := if chain.dropping then chain.pending else chain.pending ++ [signed.hash] }) := by
  obtain ⟨named, read, unpacked⟩ := fits.read done
  rw [named] at fresh ⊢
  have new : chain.broadcasts.any (·.hash = Keccak.hash signed.raw) = false := by
    rw [← Bool.not_eq_true, List.any_eq_true]
    rintro ⟨known, listed, same⟩
    exact fresh (List.mem_map.mpr ⟨known, listed, of_decide_eq_true same⟩)
  simp only [Chain.answer, reachable, Chain.answerReached, Chain.accept, accepting,
    Envelope.decode?_of_decodeSigned? _ read, Envelope.ofTransaction, new, unpacked]
  rfl

/-- Equal bytes are read as one transaction, so the parts that it is read into are equal. -/
theorem eq_of_raw_eq (fits : parcel.Fits) (done : parcel.sign = .ok signed) (otherFits : other.Fits)
    (otherDone : other.sign = .ok twin) (same : twin.raw = signed.raw) :
    other.terms.nonce = parcel.terms.nonce ∧ other.appId = parcel.appId ∧
      other.payload = parcel.payload ∧ other.terms.recipient = parcel.terms.recipient := by
  obtain ⟨-, read, unpacked⟩ := fits.read done
  obtain ⟨-, otherRead, otherUnpacked⟩ := otherFits.read otherDone
  rw [same, read] at otherRead
  have equal : parcel.transaction = other.transaction := Option.some.inj otherRead
  rw [← equal, unpacked] at otherUnpacked
  obtain ⟨appId, payload⟩ := Prod.mk.inj (Option.some.inj otherUnpacked)
  have nonce := congrArg Transaction.nonce equal
  have recipient := Option.some.inj (congrArg Transaction.recipient equal)
  exact ⟨nonce.symm, appId.symm, payload.symm, recipient.symm⟩

/-- The signed form of a parcel is read as the parcel by every ledger in memory that can be reached,
turns nothing away and has not seen it, and no other parcel is broadcast in its bytes. -/
structure StandsFor [Chain.Surroundings] (signed : SignedTransaction) (parcel : Parcel) : Prop where
  named : signed.hash = Keccak.hash signed.raw
  filed : ∀ chain : Chain, chain.unreachable = false → chain.rejection = none →
    signed.hash ∉ chain.hashes →
      chain.answer (.sendRaw signed.raw) =
        (.ok signed.hash, { chain with
          broadcasts := chain.broadcasts ++ [parcel.filed signed.hash]
          pending := if chain.dropping then chain.pending else chain.pending ++ [signed.hash] })
  alone : ∀ (other : Parcel) (twin : SignedTransaction), other.Fits → other.sign = .ok twin →
    twin.raw = signed.raw →
      other.terms.nonce = parcel.terms.nonce ∧ other.appId = parcel.appId ∧
        other.payload = parcel.payload ∧ other.terms.recipient = parcel.terms.recipient

/-- Signing gives bytes that stand for the parcel. It fails only where the curve gives no signature. -/
structure SignsFaithfully [Chain.Surroundings] (parcel : Parcel) : Prop where
  signed : ∀ signed, parcel.sign = .ok signed → StandsFor signed parcel
  failed : ∀ e, parcel.sign = .error e →
    e = .signing "Transaction signing failed: signature error" ∧ parcel.signature? = none

theorem signs_faithfully [Chain.Surroundings] (parcel : Parcel) (fits : parcel.Fits) :
    parcel.SignsFaithfully where
  signed := fun signed done =>
    { named := (fits.read done).1
      filed := fun chain reachable accepting fresh =>
        answer_sign fits done reachable accepting fresh
      alone := fun other twin otherFits otherDone same =>
        eq_of_raw_eq fits done otherFits otherDone same }
  failed := by
    intro e done
    rw [sign_eq_seal] at done
    cases made : parcel.signature? with
    | none =>
        rw [made] at done
        cases done
        exact ⟨rfl, rfl⟩
    | some signature =>
        rw [made] at done
        cases done

/-- A parcel of the widest terms. With the number of its application, which begins with zeros, its
payload just fills the longest data of a one-byte tag. -/
def widest : Parcel where
  signer := default
  payload := List.replicate 51 0
  appId := 1
  terms := ⟨Checked.limit 64 - 1, Checked.limit 64 - 1, Checked.limit 128 - 1,
    Checked.limit 64 - 1, ⟨0⟩⟩

theorem widest_signed : ∃ signed, widest.sign = .ok signed :=
  sign_of_signature (by decide +kernel)

/-- The curve gives a signature on it, and a fresh ledger takes what is signed. -/
theorem widest_signs_faithfully : widest.Fits ∧ ∃ signed, widest.sign = .ok signed ∧
    StandsFor signed widest ∧
    (Chain.fresh.answer (.sendRaw signed.raw)).1 = .ok signed.hash := by
  have fits : widest.Fits :=
    { payload := by decide
      appId := by decide
      chainId := by decide
      nonce := by decide
      gasPrice := by decide
      gasLimit := by decide }
  obtain ⟨signed, done⟩ := widest_signed
  have stands := (signs_faithfully widest fits).signed signed done
  have filed := stands.filed .fresh rfl rfl List.not_mem_nil
  exact ⟨fits, signed, done, stands, congrArg Prod.fst filed⟩

end Parcel

end Notary
