import Notary.Account.Seed
import Notary.Boundary.Basic

namespace Notary

/-!
What the error of a refused seed gives away. A phrase of twelve words has eleven spaces, more than
any text of an error that does not copy the phrase, so it is enough to count them.
-/

namespace Mnemonic

variable {phrase : List Char} {items : List (List Char)} {problem : Problem}

/-- The words are known and as many as a phrase may have, but the last bits are not the digest's. -/
def FailsChecksum (phrase : List Char) : Prop :=
  ∃ found bytes, indices (split phrase) = .ok found ∧
    entropyBytes? (filledBytes found.length) = some bytes ∧ ofEntropy (entropy found bytes) ≠ found

/-- The spaces of a text, by which texts are told from those that cannot stand in them. -/
def spaces (text : String) : Nat :=
  text.toList.count ' '

@[simp]
theorem spaces_append (first second : String) :
    spaces (first ++ second) = spaces first + spaces second := by
  simp [spaces]

theorem split_blank (rest : List Char) : split (' ' :: rest) = [] :: split rest := by
  simp [split]

theorem split_visible {c : Char} (visible : c ≠ ' ') (rest : List Char) :
    ∃ item items, split rest = item :: items ∧ split (c :: rest) = (c :: item) :: items := by
  have nonempty : split rest ≠ [] := by
    cases rest with
    | nil => exact List.cons_ne_nil _ _
    | cons d rest =>
        unfold split
        split
        · exact List.cons_ne_nil _ _
        · split <;> exact List.cons_ne_nil _ _
  obtain ⟨item, items, parts⟩ := List.exists_cons_of_ne_nil nonempty
  exact ⟨item, items, parts, by rw [split, if_neg visible, parts]⟩

theorem split_length (text : List Char) : (split text).length = text.count ' ' + 1 := by
  induction text with
  | nil => rfl
  | cons c rest ih =>
      by_cases blank : c = ' '
      · rw [blank, split_blank, List.length_cons, ih, List.count_cons_self]
      · obtain ⟨item, items, parts, same⟩ := split_visible blank rest
        rw [same, List.count_cons_of_ne blank, ← ih, parts]
        rfl

theorem space_not_mem_of_split {text item : List Char} (member : item ∈ split text) :
    ' ' ∉ item := by
  induction text generalizing item with
  | nil =>
      rw [List.mem_singleton.mp member]
      exact List.not_mem_nil
  | cons c rest ih =>
      by_cases blank : c = ' '
      · rw [blank, split_blank] at member
        cases member with
        | head => exact List.not_mem_nil
        | tail _ later => exact ih later
      · obtain ⟨first, items, parts, same⟩ := split_visible blank rest
        rw [same] at member
        rw [parts] at ih
        cases member with
        | head =>
            intro inside
            cases inside with
            | head => exact blank rfl
            | tail _ inside => exact ih List.mem_cons_self inside
        | tail _ later => exact ih (List.mem_cons_of_mem _ later)

theorem indices_eq_error (stopped : indices items = .error problem) :
    ∃ item ∈ items, problem = .unknownWord (String.ofList item) := by
  induction items with
  | nil => exact nomatch stopped
  | cons item rest ih =>
      unfold indices at stopped
      split at stopped
      · cases stopped
        exact ⟨item, List.mem_cons_self, rfl⟩
      · cases later : indices rest with
        | ok found => rw [later] at stopped; exact nomatch stopped
        | error other =>
            rw [later] at stopped
            cases stopped
            obtain ⟨word, member, same⟩ := ih later
            exact ⟨word, List.mem_cons_of_mem _ member, same⟩

/-- The three ways in which a phrase is refused, and the only one that copies it. -/
theorem check_eq_error (refused : check phrase = .error problem) :
    (∃ item ∈ split phrase, problem = .unknownWord (String.ofList item)) ∨
      (∃ bytes, problem = .wrongLength bytes) ∨
      problem = .wrongChecksum (String.ofList phrase) ∧ FailsChecksum phrase := by
  unfold check at refused
  cases known : indices (split phrase) with
  | error other =>
      rw [known] at refused
      cases refused
      exact .inl (indices_eq_error known)
  | ok found =>
      simp only [known, bind, Except.bind] at refused
      split at refused
      · cases refused
        exact .inr (.inl ⟨_, rfl⟩)
      · next bytes length =>
          split at refused
          · exact nomatch refused
          · next differs =>
              cases refused
              exact .inr (.inr ⟨rfl, found, bytes, known, length, differs⟩)

theorem check_of_failsChecksum (fails : FailsChecksum phrase) :
    check phrase = .error (.wrongChecksum (String.ofList phrase)) := by
  obtain ⟨found, bytes, known, length, differs⟩ := fails
  simp only [check, known, bind, Except.bind, length, if_neg differs]

theorem spaces_of_number (n : Nat) : spaces (toString n) = 0 := by
  have digits : (toString n).toList = Nat.toDigits 10 n := by simp [toString, Nat.repr]
  rw [spaces, digits, List.count_eq_zero]
  intro inside
  exact absurd (Nat.isDigit_of_mem_toDigits (by decide) (by decide) inside) (by decide)

/-- A refusal that does not copy the phrase is a text of six spaces at most. -/
theorem spaces_of_refusal (refused : check phrase = .error problem) (fits : ¬ FailsChecksum phrase) :
    spaces problem.message ≤ 6 := by
  obtain ⟨item, member, rfl⟩ | ⟨bytes, rfl⟩ | ⟨-, fails⟩ := check_eq_error refused
  · have word : spaces (String.ofList item) = 0 := by
      rw [spaces, String.toList_ofList, List.count_eq_zero]
      exact space_not_mem_of_split member
    have before : spaces "the word `" = 2 := by decide +kernel
    have after : spaces "` is invalid" = 2 := by decide +kernel
    change spaces ("the word `" ++ String.ofList item ++ "` is invalid") ≤ 6
    rw [spaces_append, spaces_append, word, before, after]
    decide
  · have before : spaces "the mnemonic's entropy length `" = 4 := by decide +kernel
    have after : spaces "` is invalid" = 2 := by decide +kernel
    change spaces ("the mnemonic's entropy length `" ++ toString bytes ++ "` is invalid") ≤ 6
    apply Nat.le_of_eq
    rw [spaces_append, spaces_append, spaces_of_number, before, after]
  · exact absurd fails fits

theorem not_infix_of_spaces {text : String} (few : spaces text < phrase.count ' ') :
    ¬ phrase <:+: text.toList := by
  intro inside
  have most := inside.sublist.count_le ' '
  exact absurd few (Nat.not_lt.mpr most)

end Mnemonic

namespace Blank

theorem mem_of_mem_trim {c : Char} {text : List Char} (member : c ∈ trim text) : c ∈ text := by
  have back := (List.dropWhile_sublist isBlank).mem (List.mem_reverse.mp member)
  exact (List.dropWhile_sublist isBlank).mem (List.mem_reverse.mp back)

end Blank

namespace Seed

variable {seed : String} {text : List Char} {e : Error}

/-- The phrase in a seed that is no private key. -/
def phrase (seed : String) : List Char :=
  match splitAccount (Blank.trim seed.toList) with
  | none => Blank.trim seed.toList
  | some (phrase, _) => Blank.trim phrase

/-- The number of the account, where one is given and can be read. -/
def account? (seed : String) : Option Nat :=
  match splitAccount (Blank.trim seed.toList) with
  | none => some 0
  | some (_, number) => Numeral.parse? 0x1_0000_0000 (Blank.trim number)

theorem prefix_of_splitAccount {parts : List Char × List Char} (found : splitAccount text = some parts) :
    parts.1 <+: text := by
  induction text generalizing parts with
  | nil => exact nomatch found
  | cons c rest ih =>
      cases rest with
      | nil => exact nomatch found
      | cons d rest =>
          unfold splitAccount at found
          split at found
          · cases found
            exact List.nil_prefix
          · obtain ⟨later, split, rfl⟩ := Option.map_eq_some_iff.mp found
            exact List.cons_prefix_cons.mpr ⟨rfl, ih split⟩

theorem mem_of_mem_phrase {c : Char} (member : c ∈ phrase seed) :
    c ∈ Blank.trim seed.toList := by
  unfold phrase at member
  split at member
  · exact member
  · next parts => exact (prefix_of_splitAccount parts).mem (Blank.mem_of_mem_trim member)

theorem isKeyText_eq_false {c : Char} (strange : Hex.isDigit c = false) (unmarked : c ≠ 'x')
    (inside : c ∈ text) : isKeyText (dropMarker text) = false := by
  have kept : c ∈ dropMarker text := by
    unfold dropMarker
    split
    · simp only [List.mem_cons] at inside
      rcases inside with rfl | rfl | later
      · exact absurd strange (by decide)
      · exact absurd rfl unmarked
      · exact later
    · exact inside
  cases all : (dropMarker text).all Hex.isDigit with
  | false => rw [isKeyText, all, Bool.and_false]
  | true =>
      have digit := List.all_eq_true.mp all c kept
      rw [strange] at digit
      cases digit

theorem derive_of_space (blank : ' ' ∈ phrase seed) :
    derive seed = match account? seed with
      | none => .error (.invalidSeed "account index is not a number")
      | some account => ofMnemonic (phrase seed) account := by
  have inside := mem_of_mem_phrase blank
  have nonempty : ¬ (Blank.trim seed.toList).isEmpty := by
    rw [List.isEmpty_iff]
    exact List.ne_nil_of_mem inside
  have notKey := isKeyText_eq_false (by decide) (by decide) inside
  simp only [derive, if_neg nonempty, notKey, phrase, account?, Bool.false_eq_true, if_false]
  rcases splitAccount (Blank.trim seed.toList) with _ | ⟨found, number⟩
  · rfl
  · cases read : Numeral.parse? 0x1_0000_0000 (Blank.trim number) <;> simp only [read]

theorem ofMnemonic_eq_error {phrase : List Char} {account : Nat}
    (refused : ofMnemonic phrase account = .error e) :
    (∃ problem, Mnemonic.check phrase = .error problem ∧
      e = .invalidSeed ("Invalid mnemonic: " ++ problem.message)) ∨
    Mnemonic.check phrase = .ok () ∧ e = .invalidSeed "Invalid mnemonic: signature error" := by
  unfold ofMnemonic at refused
  cases checked : Mnemonic.check phrase with
  | error problem =>
      rw [checked] at refused
      cases refused
      exact .inl ⟨problem, rfl, rfl⟩
  | ok done =>
      -- the key is named before the check is rewritten, so that nothing evaluates its derivation
      cases derived : Derivation.accountKey? (Mnemonic.secret phrase) account with
      | none =>
          rw [derived, checked] at refused
          cases refused
          exact .inr ⟨rfl, rfl⟩
      | some key =>
          rw [derived, checked] at refused
          exact nomatch refused

theorem ofMnemonic_shows_iff {phrase : List Char} {account : Nat} (long : 10 < phrase.count ' ')
    (refused : ofMnemonic phrase account = .error e) :
    (∃ reason, e = .invalidSeed reason) ∧
      (phrase <:+: e.message.toList ↔ Mnemonic.FailsChecksum phrase) := by
  have opening : Mnemonic.spaces "invalid seed: " = 2 := by decide +kernel
  obtain ⟨problem, checked, rfl⟩ | ⟨checked, rfl⟩ := ofMnemonic_eq_error refused
  · refine ⟨⟨_, rfl⟩, fun shown => Classical.byContradiction fun fits => ?_, fun fails => ?_⟩
    · have naming : Mnemonic.spaces "Invalid mnemonic: " = 2 := by decide +kernel
      have few := Mnemonic.spaces_of_refusal checked fits
      refine Mnemonic.not_infix_of_spaces ?_ shown
      change Mnemonic.spaces ("invalid seed: " ++ ("Invalid mnemonic: " ++ problem.message)) < _
      rw [Mnemonic.spaces_append, Mnemonic.spaces_append, opening, naming]
      omega
    · rw [Mnemonic.check_of_failsChecksum fails] at checked
      cases checked
      refine ⟨"invalid seed: ".toList ++ ("Invalid mnemonic: ".toList ++ "the phrase `".toList),
        "` is invalid".toList, ?_⟩
      change _ = ("invalid seed: " ++ ("Invalid mnemonic: " ++
        ("the phrase `" ++ String.ofList phrase ++ "` is invalid"))).toList
      simp only [String.toList_append, String.toList_ofList, List.append_assoc]
  · have few : Mnemonic.spaces "Invalid mnemonic: signature error" = 3 := by decide +kernel
    refine ⟨⟨_, rfl⟩, fun shown => absurd shown (Mnemonic.not_infix_of_spaces ?_), fun fails => ?_⟩
    · change Mnemonic.spaces ("invalid seed: " ++ "Invalid mnemonic: signature error") < _
      rw [Mnemonic.spaces_append, opening, few]
      omega
    · rw [Mnemonic.check_of_failsChecksum fails] at checked
      exact nomatch checked

/-- The error of a refused phrase of twelve words or more copies the phrase exactly where nothing
but its checksum is wrong. -/
theorem refusal_shows_phrase_iff (seed : String)
    (long : 12 ≤ (Mnemonic.split (phrase seed)).length) (refused : derive seed = .error e) :
    (∃ reason, e = .invalidSeed reason) ∧
      (phrase seed <:+: e.message.toList ↔
        (account? seed).isSome ∧ Mnemonic.FailsChecksum (phrase seed)) := by
  rw [Mnemonic.split_length] at long
  have blank : ' ' ∈ phrase seed := List.count_pos_iff.mp (by omega)
  rw [derive_of_space blank] at refused
  cases number : account? seed with
  | none =>
      rw [number] at refused
      cases refused
      have few : Mnemonic.spaces (Error.invalidSeed "account index is not a number").message = 7 := by
        decide +kernel
      refine ⟨⟨_, rfl⟩, fun shown => absurd shown (Mnemonic.not_infix_of_spaces ?_), fun read =>
        nomatch read.1⟩
      omega
  | some account =>
      rw [number] at refused
      obtain ⟨named, shown⟩ := ofMnemonic_shows_iff (by omega) refused
      exact ⟨named, shown.trans ⟨fun fails => ⟨rfl, fails⟩, And.right⟩⟩

theorem eq_error_of_beq {α : Type} {result : Except Error α}
    (same : (match result with | .error found => found == e | .ok _ => false) = true) :
    result = .error e := by
  cases result with
  | ok value => exact nomatch same
  | error found => rw [eq_of_beq same]

theorem refusal_of_unreadable_account :
    let seed := " act act act act act act act act act act act act//third "
    let refusal := Error.invalidSeed "account index is not a number"
    derive seed = .error refusal ∧ ¬ phrase seed <:+: refusal.message.toList := by
  intro seed refusal
  have refused : derive seed = .error refusal := eq_error_of_beq (by decide +kernel)
  have unread : (account? seed).isSome = false := by decide +kernel
  refine ⟨refused, fun shown => ?_⟩
  have read := ((refusal_shows_phrase_iff seed (by decide +kernel) refused).2.mp shown).1
  exact absurd read (Bool.eq_false_iff.mp unread)

/-- Twelve known words with a wrong last word are all told. -/
theorem refusal_shows_mistyped_phrase :
    let seed := "act act act act act act act act act act act act"
    let refusal := Error.invalidSeed ("Invalid mnemonic: the phrase `" ++ seed ++ "` is invalid")
    12 ≤ (Mnemonic.split (phrase seed)).length ∧ derive seed = .error refusal ∧
      phrase seed <:+: refusal.message.toList := by
  intro seed refusal
  refine ⟨by decide +kernel, eq_error_of_beq (by decide +kernel), ?_⟩
  exact ⟨"invalid seed: Invalid mnemonic: the phrase `".toList, "` is invalid".toList,
    by decide +kernel⟩

end Seed

namespace Boundary

variable {σ : Type} {boundary : Boundary σ} {session : Session σ} {argument : TextArgument}
  {seed : String} {e : Error}

/-- The error of a refused seed is what callers read at the boundary afterwards. -/
theorem initializeSigner_refused (installed : boundary.session = some session)
    (read : argument.text "seed" = .ok seed) (refused : Seed.derive seed = .error e) :
    boundary.initializeSigner argument = (e.code, { boundary with lastError := some e }) := by
  have kept : ({ boundary with session := some session } : Boundary σ) = boundary := by
    rw [← installed]
  simp only [initializeSigner, call, withArgument, read, onSession, Boundary.installed, installed,
    Session.initializeSigner, refused, Fault.contain, handleOrCode, Except.map, orCode]

end Boundary

end Notary
