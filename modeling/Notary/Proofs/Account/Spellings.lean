import Mathlib.Data.List.TakeWhile
import Notary.Proofs.Account.Secrecy

namespace Notary

/-!
Seeds that are written differently and name the same signer. A seed is read by tests that are made one
after the other, so for each change of its text it is shown that no test comes out differently.
-/

namespace Blank

variable {text first second : List Char}

/-- Nothing but white space. -/
def AllBlank (text : String) : Prop :=
  ∀ c ∈ text.toList, isBlank c = true

/-- White space stands neither at the start nor at the end. -/
structure Trimmed (text : List Char) : Prop where
  start : ∀ c ∈ text.head?, isBlank c = false
  finish : ∀ c ∈ text.getLast?, isBlank c = false

theorem isBlank_eq_false {c : Char} (above : '!' ≤ c) (below : c ≤ '~') : isBlank c = false := by
  have least : 33 ≤ c.toNat := above
  have most : c.toNat ≤ 126 := below
  simp [isBlank, ranges]
  omega

theorem dropWhile_of_head? (start : ∀ c ∈ text.head?, isBlank c = false) :
    text.dropWhile isBlank = text := by
  cases text with
  | nil => rfl
  | cons c rest => simp [start c rfl]

theorem trim_of_trimmed (trimmed : Trimmed text) : trim text = text := by
  have started : trimStart text = text := dropWhile_of_head? trimmed.start
  have finished : text.reverse.dropWhile isBlank = text.reverse := by
    apply dropWhile_of_head?
    rw [List.head?_reverse]
    exact trimmed.finish
  rw [trim, started, trimEnd, finished, List.reverse_reverse]

theorem trimmed_of_visible (visible : ∀ c ∈ text, isBlank c = false) : Trimmed text :=
  ⟨fun c first => visible c (List.mem_of_mem_head? first),
    fun c last => visible c (List.mem_of_mem_getLast? last)⟩

theorem Trimmed.append (firstTrimmed : Trimmed first) (nonempty : first ≠ []) (middle : List Char)
    (secondTrimmed : Trimmed second) (filled : second ≠ []) : Trimmed (first ++ (middle ++ second)) := by
  obtain ⟨c, rest, rfl⟩ := List.exists_cons_of_ne_nil nonempty
  refine ⟨firstTrimmed.start, fun d last => secondTrimmed.finish d ?_⟩
  rw [List.getLast?_append, List.getLast?_append, List.getLast?_eq_some_getLast filled] at last
  rwa [List.getLast?_eq_some_getLast filled]

theorem trimEnd_append (blank : ∀ c ∈ second, isBlank c = true) :
    trimEnd (first ++ second) = trimEnd first := by
  unfold trimEnd
  rw [List.reverse_append, List.dropWhile_append_of_pos]
  intro c inside
  exact blank c (List.mem_reverse.mp inside)

theorem trim_append_blank (blank : ∀ c ∈ second, isBlank c = true) :
    trim (first ++ second) = trim first := by
  unfold trim trimStart
  rw [List.dropWhile_append]
  split
  · next hollow => rw [List.dropWhile_eq_nil_iff.mpr blank, List.isEmpty_iff.mp hollow]
  · exact trimEnd_append blank

theorem trim_blank_append (blank : ∀ c ∈ first, isBlank c = true) :
    trim (first ++ second) = trim second := by
  rw [trim, trimStart, List.dropWhile_append_of_pos blank]
  rfl

end Blank

namespace Numeral

variable {digits text : List Char} {number limit : Nat}

/-- The decimal spellings of a number: digits with that value, zeros at the start included, after one
plus sign or none. -/
def Spells (number : Nat) (text : String) : Prop :=
  ∃ digits : List Char, digits ≠ [] ∧ (∀ c ∈ digits, c.isDigit = true) ∧
    Nat.ofDigitChars 10 digits 0 = number ∧ (text.toList = digits ∨ text.toList = '+' :: digits)

theorem isDigit_eq (c : Char) : isDigit c = c.isDigit := by
  simp [isDigit, Char.isDigit, Char.le_def, Bool.decide_and]

theorem ofDigits_eq (digits : List Char) : ofDigits digits = Nat.ofDigitChars 10 digits 0 := by
  simp only [ofDigits, Nat.ofDigitChars_eq_foldl, Nat.mul_comm]
  rfl

theorem isBlank_of_isDigit {c : Char} (digit : c.isDigit = true) : Blank.isBlank c = false := by
  rw [← isDigit_eq] at digit
  obtain ⟨least, most⟩ : '0' ≤ c ∧ c ≤ '9' := by simpa [isDigit] using digit
  exact Blank.isBlank_eq_false (Char.le_trans (by decide) least) (Char.le_trans most (by decide))

theorem spells_toString (number : Nat) : Spells number (toString number) :=
  ⟨Nat.toDigits 10 number, Nat.toDigits_ne_nil,
    fun _ => Nat.isDigit_of_mem_toDigits (by decide) (by decide),
    Nat.ofDigitChars_ten_toDigits, .inl (by simp)⟩

theorem dropPlus_digits (nonempty : digits ≠ []) (decimal : ∀ c ∈ digits, c.isDigit = true) :
    dropPlus digits = digits := by
  unfold dropPlus
  split
  · exact absurd (decimal '+' List.mem_cons_self) (by decide)
  · rfl

theorem parse?_of_spells {text : String} (spelled : Spells number text) (fits : number < limit) :
    parse? limit text.toList = some number := by
  obtain ⟨digits, nonempty, decimal, value, written⟩ := spelled
  have signless : dropPlus text.toList = digits := by
    rcases written with same | same
    · rw [same, dropPlus_digits nonempty decimal]
    · rw [same, dropPlus]
  have all : digits.all isDigit = true := by
    simpa [isDigit_eq] using decimal
  simp [parse?, signless, nonempty, all, ofDigits_eq, value, fits]

theorem trimmed_of_spells {text : String} (spelled : Spells number text) :
    Blank.Trimmed text.toList ∧ text.toList ≠ [] := by
  obtain ⟨digits, nonempty, decimal, -, written⟩ := spelled
  have visible : ∀ c ∈ digits, Blank.isBlank c = false := fun c inside =>
    isBlank_of_isDigit (decimal c inside)
  rcases written with same | same
  · rw [same]
    exact ⟨Blank.trimmed_of_visible visible, nonempty⟩
  · rw [same]
    refine ⟨Blank.trimmed_of_visible fun c inside => ?_, List.cons_ne_nil _ _⟩
    rcases List.mem_cons.mp inside with rfl | inside
    · decide
    · exact visible c inside

end Numeral

theorem Hex.isBlank_of_isDigit {c : Char} (digit : Hex.isDigit c = true) : Blank.isBlank c = false := by
  have visible : ∀ least most : Char, '!' ≤ least → most ≤ '~' → least ≤ c ∧ c ≤ most →
      Blank.isBlank c = false := fun least most above below between =>
    Blank.isBlank_eq_false (Char.le_trans above between.1) (Char.le_trans between.2 below)
  unfold Hex.isDigit Hex.value? at digit
  split at digit
  · next decimal => exact visible '0' '9' (by decide) (by decide) decimal
  · split at digit
    · next small => exact visible 'a' 'f' (by decide) (by decide) small
    · split at digit
      · next large => exact visible 'A' 'F' (by decide) (by decide) large
      · cases digit

namespace Seed

variable {text before after : List Char} {key phrase seed other number : String} {account : Nat}

/-- The 64 hexadecimal digits of a private key, in any letter case. -/
def IsKey (key : String) : Prop :=
  key.toList.length = 64 ∧ ∀ c ∈ key.toList, Hex.isDigit c = true

/-- A text that no other reading of a seed takes apart. -/
structure IsPhrase (phrase : String) : Prop where
  nonempty : phrase ≠ ""
  trimmed : Blank.Trimmed phrase.toList
  unslashed : '/' ∉ phrase.toList
  notKey : ∀ key, IsKey key → phrase ≠ key ∧ phrase ≠ "0x" ++ key

theorem derive_of_trim (same : Blank.trim seed.toList = Blank.trim other.toList) :
    derive seed = derive other := by
  rw [derive, derive, same]

theorem isKeyText_iff : isKeyText key.toList = true ↔ IsKey key := by
  simp [isKeyText, IsKey]

theorem IsKey.trimmed (isKey : IsKey key) : Blank.Trimmed key.toList :=
  Blank.trimmed_of_visible fun c inside => Hex.isBlank_of_isDigit (isKey.2 c inside)

theorem IsKey.dropMarker_eq (isKey : IsKey key) : dropMarker key.toList = key.toList := by
  unfold dropMarker
  split
  · next marked => exact absurd (isKey.2 'x' (by simp [marked])) (by decide)
  · rfl

theorem derive_of_key (isKey : IsKey key) (read : dropMarker (Blank.trim seed.toList) = key.toList) :
    derive seed = ofPrivateKey key.toList := by
  have nonempty : Blank.trim seed.toList ≠ [] := by
    intro hollow
    have length := isKey.1
    rw [← read, hollow] at length
    cases length
  simp [derive, nonempty, read, isKeyText_iff.mpr isKey]

theorem derive_key (isKey : IsKey key) : derive key = ofPrivateKey key.toList := by
  apply derive_of_key isKey
  rw [Blank.trim_of_trimmed isKey.trimmed, isKey.dropMarker_eq]

/-- A marker before the digits of a key is no digit itself, and is dropped. -/
theorem derive_marked_key (isKey : IsKey key) : derive ("0x" ++ key) = ofPrivateKey key.toList := by
  apply derive_of_key isKey
  have visible : ∀ c ∈ ("0x" ++ key).toList, Blank.isBlank c = false := by
    intro c inside
    simp only [String.toList_append] at inside
    rcases List.mem_append.mp inside with marker | digit
    · have letters : "0x".toList = ['0', 'x'] := rfl
      simp only [letters, List.mem_cons, List.not_mem_nil, or_false] at marker
      rcases marker with rfl | rfl <;> decide
    · exact Hex.isBlank_of_isDigit (isKey.2 c digit)
  rw [Blank.trim_of_trimmed (Blank.trimmed_of_visible visible)]
  simp only [String.toList_append]
  rfl

theorem splitAccount_cons {c : Char} (visible : c ≠ '/') (rest : List Char) :
    splitAccount (c :: rest) =
      (splitAccount rest).map fun parts => (c :: parts.1, parts.2) := by
  cases rest with
  | nil => rfl
  | cons d rest => simp [splitAccount, visible]

theorem splitAccount_of_unslashed (unslashed : '/' ∉ text) : splitAccount text = none := by
  induction text with
  | nil => rfl
  | cons c rest ih =>
      simp only [List.mem_cons, not_or] at unslashed
      rw [splitAccount_cons (Ne.symm unslashed.1), ih unslashed.2]
      rfl

/-- The number begins after the first two slashes, whatever follows them. -/
theorem splitAccount_append (unslashed : '/' ∉ before) (after : List Char) :
    splitAccount (before ++ '/' :: '/' :: after) = some (before, after) := by
  induction before with
  | nil => simp [splitAccount]
  | cons c rest ih =>
      simp only [List.mem_cons, not_or] at unslashed
      rw [List.cons_append, splitAccount_cons (Ne.symm unslashed.1), ih unslashed.2]
      rfl

theorem IsPhrase.nonempty_toList (isPhrase : IsPhrase phrase) : phrase.toList ≠ [] := by
  intro hollow
  exact isPhrase.nonempty (String.toList_eq_nil_iff.mp hollow)

theorem IsPhrase.isKeyText_eq_false (isPhrase : IsPhrase phrase) :
    isKeyText (dropMarker phrase.toList) = false := by
  apply Bool.eq_false_iff.mpr
  intro read
  unfold dropMarker at read
  split at read
  · next rest marked =>
      rw [← String.toList_ofList (l := rest)] at read marked
      apply (isPhrase.notKey _ (isKeyText_iff.mp read)).2
      apply String.toList_injective
      rw [marked, String.toList_append]
      rfl
  · exact (isPhrase.notKey phrase (isKeyText_iff.mp read)).1 rfl

theorem derive_of_phrase (isPhrase : IsPhrase phrase) :
    derive phrase = ofMnemonic phrase.toList 0 := by
  simp [derive, Blank.trim_of_trimmed isPhrase.trimmed, isPhrase.nonempty_toList,
    isPhrase.isKeyText_eq_false, splitAccount_of_unslashed isPhrase.unslashed]

theorem derive_of_account {left right : List Char} (isPhrase : IsPhrase phrase)
    (leftBlank : ∀ c ∈ left, Blank.isBlank c = true) (rightBlank : ∀ c ∈ right, Blank.isBlank c = true)
    (spelled : Numeral.Spells account number) (fits : account < 0x1_0000_0000)
    (written : seed.toList = phrase.toList ++ left ++ '/' :: '/' :: (right ++ number.toList)) :
    derive seed = ofMnemonic phrase.toList account := by
  obtain ⟨numberTrimmed, numberNonempty⟩ := Numeral.trimmed_of_spells spelled
  have trimmed : Blank.trim seed.toList = seed.toList := by
    apply Blank.trim_of_trimmed
    have ends := isPhrase.trimmed.append isPhrase.nonempty_toList (left ++ '/' :: '/' :: right)
      numberTrimmed numberNonempty
    simpa [written] using ends
  have nonempty : seed.toList ≠ [] := by simp [written]
  have notKey : isKeyText (dropMarker seed.toList) = false :=
    isKeyText_eq_false (c := '/') (by decide) (by decide) (by simp [written])
  have unslashed : '/' ∉ phrase.toList ++ left := by
    intro inside
    rcases List.mem_append.mp inside with inside | inside
    · exact isPhrase.unslashed inside
    · exact absurd (leftBlank _ inside) (by decide)
  have parts : splitAccount seed.toList = some (phrase.toList ++ left, right ++ number.toList) := by
    rw [written, splitAccount_append unslashed]
  have read : Numeral.parse? 0x1_0000_0000 (Blank.trim (right ++ number.toList)) = some account := by
    rw [Blank.trim_blank_append rightBlank, Blank.trim_of_trimmed numberTrimmed]
    exact Numeral.parse?_of_spells spelled fits
  have kept : Blank.trim (phrase.toList ++ left) = phrase.toList := by
    rw [Blank.trim_append_blank leftBlank, Blank.trim_of_trimmed isPhrase.trimmed]
  simp [derive, trimmed, nonempty, notKey, parts, read, kept]

/-- White space around a seed, a marker before the digits of a key, and the way in which the number of an
account is written make no difference to what the seed names or why it is refused. -/
theorem equivalent_spellings_agree :
    (∀ seed left right, Blank.AllBlank left → Blank.AllBlank right →
      derive (left ++ seed ++ right) = derive seed) ∧
    (∀ key, IsKey key →
      derive ("0x" ++ key) = derive key ∧ derive key = ofPrivateKey key.toList) ∧
    ∀ phrase, IsPhrase phrase →
      (∀ account, account < 0x1_0000_0000 →
        (∀ left right number, Numeral.Spells account number → Blank.AllBlank left → Blank.AllBlank right →
          derive (phrase ++ left ++ "//" ++ right ++ number) =
            derive (phrase ++ "//" ++ toString account)) ∧
        derive (phrase ++ "//" ++ toString account) = ofMnemonic phrase.toList account) ∧
      derive phrase = derive (phrase ++ "//0") := by
  refine ⟨?_, ?_, ?_⟩
  · intro seed left right leftBlank rightBlank
    apply derive_of_trim
    rw [String.toList_append, String.toList_append, Blank.trim_append_blank rightBlank,
      Blank.trim_blank_append leftBlank]
  · intro key isKey
    exact ⟨(derive_marked_key isKey).trans (derive_key isKey).symm, derive_key isKey⟩
  · intro phrase isPhrase
    have nothing : ∀ c ∈ ([] : List Char), Blank.isBlank c = true := fun _ inside => nomatch inside
    have plain : ∀ account, account < 0x1_0000_0000 →
        derive (phrase ++ "//" ++ toString account) = ofMnemonic phrase.toList account := by
      intro account fits
      apply derive_of_account isPhrase nothing nothing (Numeral.spells_toString account) fits
      simp
    refine ⟨fun account fits => ⟨?_, plain account fits⟩, ?_⟩
    · intro left right number spelled leftBlank rightBlank
      rw [plain account fits]
      apply derive_of_account isPhrase leftBlank rightBlank spelled fits
      simp
    · rw [derive_of_phrase isPhrase, ← plain 0 (by decide), String.append_assoc]
      rfl

/-- A key with letters of both cases among its digits. -/
def mixedKey : String := "AC0974BEC39A17E36BA4A6B4D238FF944bacb478cbed5efcae784d7bf4f2ff80"

def plainPhrase : String := "test test test test test test test test test test test junk"

theorem plainPhrase_isPhrase : IsPhrase plainPhrase := by
  have spaced : ' ' ∈ plainPhrase.toList := by decide +kernel
  have first : plainPhrase.toList.head? = some 't' := by decide +kernel
  have last : plainPhrase.toList.getLast? = some 'k' := by decide +kernel
  refine ⟨by decide, ⟨?_, ?_⟩, by decide +kernel, ?_⟩
  · intro c start
    cases first.symm.trans start
    decide
  · intro c finish
    cases last.symm.trans finish
    decide
  · intro key isKey
    have solid : ' ' ∉ key.toList := fun inside => absurd (isKey.2 ' ' inside) (by decide)
    refine ⟨fun same => solid (same ▸ spaced), fun same => ?_⟩
    rw [same, String.toList_append] at spaced
    rcases List.mem_append.mp spaced with inside | inside
    · exact absurd inside (by decide)
    · exact solid inside

theorem seeds_of_one_signer_agree :
    (Blank.AllBlank "\u2003\n" ∧ IsKey mixedKey ∧ IsPhrase plainPhrase ∧ Numeral.Spells 7 "+007") ∧
      derive ("\u2003\n" ++ ("0x" ++ mixedKey) ++ "\u2003\n") = derive mixedKey ∧
      derive (plainPhrase ++ "\u2003\n" ++ "//" ++ "\u2003\n" ++ "+007") =
        derive (plainPhrase ++ "//" ++ toString 7) ∧
      derive plainPhrase = derive (plainPhrase ++ "//0") := by
  have blank : Blank.AllBlank "\u2003\n" := List.all_eq_true.mp (by decide +kernel)
  have isKey : IsKey mixedKey := ⟨by decide +kernel, List.all_eq_true.mp (by decide +kernel)⟩
  have spelled : Numeral.Spells 7 "+007" :=
    ⟨['0', '0', '7'], by decide, List.all_eq_true.mp (by decide), by decide, .inr rfl⟩
  obtain ⟨surrounded, marked, numbered⟩ := equivalent_spellings_agree
  obtain ⟨account, first⟩ := numbered plainPhrase plainPhrase_isPhrase
  refine ⟨⟨blank, isKey, plainPhrase_isPhrase, spelled⟩, ?_, ?_, first⟩
  · rw [surrounded _ _ _ blank blank, (marked mixedKey isKey).1]
  · exact (account 7 (by decide)).1 _ _ _ spelled blank blank

end Seed

end Notary
