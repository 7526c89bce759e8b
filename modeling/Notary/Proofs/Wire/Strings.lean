import Notary.Proofs.Wire.Numbers
import Notary.Transaction.Rlp

namespace Notary.Rlp

/-!
Strings and lists read back from their encodings, whatever follows them. The only bound is the one
that the format sets: a length is written in at most eight bytes.
-/

/-- The lengths that the format can write. -/
def Sized (bytes : Bytes) : Prop :=
  bytes.length < 256 ^ 8

variable {base count value : Nat} {payload rest string : Bytes} {strings : List Bytes}

@[simp] theorem splitAt?_append (front rest : Bytes) :
    splitAt? front.length (front ++ rest) = some (front, rest) := by
  simp [splitAt?]

/-- A long payload is read back from its length and what follows. -/
theorem splitLong?_append (long : 56 ≤ payload.length) (rest : Bytes) :
    splitLong? (Bytes.minimalBE payload.length).length
      (Bytes.minimalBE payload.length ++ (payload ++ rest)) = some (payload, rest) := by
  have notShort : ¬ payload.length < 56 := by omega
  have front := Bytes.head?_minimalBE payload.length
  simp [splitLong?, front, Bytes.toNatBE_minimalBE, notShort]

theorem tag_short (short : payload.length < 56) :
    tag base payload.length = [UInt8.ofNat (base + payload.length)] :=
  if_pos short

theorem tag_long (base : Nat) (long : 56 ≤ payload.length) :
    tag base payload.length =
      UInt8.ofNat (base + 55 + (Bytes.minimalBE payload.length).length) ::
        Bytes.minimalBE payload.length :=
  if_neg (Nat.not_lt.mpr long)

theorem toNat_ofNat_of_lt (small : value < 256) : (UInt8.ofNat value).toNat = value := by
  rw [UInt8.toNat_ofNat', Nat.mod_eq_of_lt small]

/-- The length of a long payload takes from one to eight bytes. -/
theorem length_size (long : 56 ≤ payload.length) (sized : Sized payload) :
    0 < (Bytes.minimalBE payload.length).length ∧ (Bytes.minimalBE payload.length).length ≤ 8 :=
  ⟨Bytes.length_minimalBE_pos (by omega), Bytes.length_minimalBE_le sized⟩

theorem readString?_tag (several : payload.length ≠ 1) (sized : Sized payload) :
    readString? (tag 0x80 payload.length ++ (payload ++ rest)) = some (payload, rest) := by
  by_cases short : payload.length < 56
  · have byte : (UInt8.ofNat (0x80 + payload.length)).toNat = 0x80 + payload.length :=
      toNat_ofNat_of_lt (by omega)
    have notSingle : ¬ 0x80 + payload.length < 0x80 := by omega
    have below : 0x80 + payload.length < 0xb8 := by omega
    rw [tag_short short, List.singleton_append, readString?]
    simp only [byte, notSingle, if_false, below, if_true, Nat.add_sub_cancel_left, splitAt?_append]
    -- What is read is not a single byte, so the check for one does not apply.
    split
    · next single after same =>
        obtain ⟨rfl, -⟩ := Prod.mk.inj (Option.some.inj same)
        exact absurd rfl several
    · rfl
  · have long : 56 ≤ payload.length := Nat.not_lt.mp short
    obtain ⟨positive, atMost⟩ := length_size long sized
    have read := splitLong?_append long rest
    have tagged := tag_long 0x80 long
    generalize (Bytes.minimalBE payload.length).length = size at positive atMost read tagged
    have byte : (UInt8.ofNat (0x80 + 55 + size)).toNat = 0x80 + 55 + size :=
      toNat_ofNat_of_lt (by omega)
    have notSingle : ¬ 0x80 + 55 + size < 0x80 := by omega
    have notShort : ¬ 0x80 + 55 + size < 0xb8 := by omega
    have below : 0x80 + 55 + size < 0xc0 := by omega
    have taken : 0x80 + 55 + size - 0xb7 = size := by omega
    rw [tagged, List.cons_append, readString?]
    simp only [byte, notSingle, notShort, if_false, below, if_true, taken, read]

theorem readString?_encodeString (sized : Sized string) (rest : Bytes) :
    readString? (encodeString string ++ rest) = some (string, rest) := by
  match string, sized with
  | [byte], _ =>
      by_cases small : byte < 0x80
      · have below : byte.toNat < 0x80 := by simpa [UInt8.lt_iff_toNat_lt] using small
        simp [encodeString, small, readString?, below]
      · simp [encodeString, small, readString?, splitAt?]
  | [], sized => exact readString?_tag (by simp) sized
  | first :: second :: more, sized =>
      rw [encodeString, List.append_assoc]
      · exact readString?_tag (by simp) sized
      · simp

theorem encodeString_ne_nil (string : Bytes) : encodeString string ≠ [] := by
  unfold encodeString tag
  split
  · split <;> simp
  · split <;> simp

theorem length_le_length_flatMap (strings : List Bytes) :
    strings.length ≤ (strings.flatMap encodeString).length := by
  induction strings with
  | nil => simp
  | cons string rest ih =>
      have positive := List.length_pos_iff.mpr (encodeString_ne_nil string)
      simp only [List.flatMap_cons, List.length_cons, List.length_append]
      omega

theorem readStrings?_flatMap (sized : ∀ string ∈ strings, Sized string)
    (enough : strings.length ≤ count) :
    readStrings? count (strings.flatMap encodeString) = some strings := by
  induction strings generalizing count with
  | nil => cases count <;> rfl
  | cons string rest ih =>
      obtain ⟨count, rfl⟩ : ∃ less, count = less + 1 :=
        Nat.exists_eq_succ_of_ne_zero (by simp at enough; omega)
      have first := readString?_encodeString (sized string List.mem_cons_self)
        (rest.flatMap encodeString)
      have later := ih (fun other member => sized other (List.mem_cons_of_mem _ member))
        (Nat.le_of_succ_le_succ enough)
      obtain ⟨byte, bytes, shape⟩ := List.exists_cons_of_ne_nil
        (List.append_ne_nil_of_left_ne_nil (encodeString_ne_nil string) (rest.flatMap encodeString))
      rw [List.flatMap_cons, shape, readStrings?, ← shape, first]
      · simp [later]
      · nofun

theorem readPayload?_tag (sized : Sized payload) (rest : Bytes) :
    readPayload? (tag 0xc0 payload.length ++ (payload ++ rest)) = some (payload, rest) := by
  by_cases short : payload.length < 56
  · have byte : (UInt8.ofNat (0xc0 + payload.length)).toNat = 0xc0 + payload.length :=
      toNat_ofNat_of_lt (by omega)
    have isList : ¬ 0xc0 + payload.length < 0xc0 := by omega
    have below : 0xc0 + payload.length < 0xf8 := by omega
    rw [tag_short short, List.singleton_append, readPayload?]
    simp only [byte, isList, if_false, below, if_true, Nat.add_sub_cancel_left, splitAt?_append]
  · have long : 56 ≤ payload.length := Nat.not_lt.mp short
    obtain ⟨positive, atMost⟩ := length_size long sized
    have read := splitLong?_append long rest
    have tagged := tag_long 0xc0 long
    generalize (Bytes.minimalBE payload.length).length = size at positive atMost read tagged
    have byte : (UInt8.ofNat (0xc0 + 55 + size)).toNat = 0xc0 + 55 + size :=
      toNat_ofNat_of_lt (by omega)
    have isList : ¬ 0xc0 + 55 + size < 0xc0 := by omega
    have notShort : ¬ 0xc0 + 55 + size < 0xf8 := by omega
    have taken : 0xc0 + 55 + size - 0xf7 = size := by omega
    rw [tagged, List.cons_append, readPayload?]
    simp only [byte, isList, notShort, if_false, taken, read]

theorem decodeList?_encodeList (sized : Sized (strings.flatMap encodeString))
    (each : ∀ string ∈ strings, Sized string) :
    decodeList? (encodeList strings) = some (strings, []) := by
  have payload := readPayload?_tag sized []
  rw [List.append_nil] at payload
  have read := readStrings?_flatMap each (length_le_length_flatMap strings)
  simp only [decodeList?, encodeList, payload, read, Option.bind_eq_bind, Option.bind_some]

theorem decodeNat?_minimalBE (bits : Nat) (fits : value < 256 ^ (bits / 8)) :
    decodeNat? bits (Bytes.minimalBE value) = some value := by
  have front := Bytes.head?_minimalBE value
  have within := Bytes.length_minimalBE_le fits
  rw [decodeNat?, if_neg (by simp [front]; omega), Bytes.toNatBE_minimalBE]

end Notary.Rlp
