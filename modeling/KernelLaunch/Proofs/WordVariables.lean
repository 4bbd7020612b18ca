import Mathlib.Data.List.TakeWhile
import Mathlib.Data.Nat.Digits.Defs
import KernelLaunch.Proofs.ThresholdReaders

/-! Two launch options are words that the environment can set. Which texts are words is said here without the
reader: white space, an optional plus sign, decimal digits and white space again, for a number that fits. Both
variables are read in this one way, each from its own bytes only. -/

namespace KernelLaunch

/-! ### The texts of a word -/

/-- What digits denote in the decimal system. -/
def numeral (digits : List Char) : Nat := Nat.ofDigits 10 (digits.reverse.map fun digit => digit.toNat - '0'.toNat)

/-- At least one digit and nothing else, for a number that fits a word. -/
structure Digits (characters : List Char) (number : Nat) : Prop where
  present : characters ≠ []
  digits : ∀ character ∈ characters, character.isDigit = true
  value : numeral characters = number
  fits : number < wordLimit

/-- The digits of a number, after a plus sign if there is one. -/
inductive Spelled : List Char → Nat → Prop where
  | bare {characters number} (digits : Digits characters number) : Spelled characters number
  | signed {characters number} (digits : Digits characters number) : Spelled ('+' :: characters) number

/-- A word between white space, which may be missing on either side. -/
def Spells (text : String) (number : Nat) : Prop :=
  ∃ before word after, text.toList = before ++ word ++ after ∧
    (∀ character ∈ before ++ after, isBlank character = true) ∧ Spelled word number

theorem numeral_cons (first : Char) (rest : List Char) :
    numeral (first :: rest) = (first.toNat - '0'.toNat) * 10 ^ rest.length + numeral rest := by
  rw [numeral, List.reverse_cons, List.map_append, Nat.ofDigits_append, List.length_map, List.length_reverse,
    List.map_singleton, Nat.ofDigits_singleton, Nat.mul_comm, Nat.add_comm, numeral]

/-- Stopping at the first number that does not fit refuses nothing more than looking at the last one would, since
numbers only grow with each digit. -/
theorem readDigits_eq_ok_iff {start number : Nat} {characters : List Char} (small : start < wordLimit) :
    readDigits start characters = .ok number ↔
      (∀ character ∈ characters, character.isDigit = true) ∧
        start * 10 ^ characters.length + numeral characters = number ∧ number < wordLimit := by
  induction characters generalizing start with
  | nil =>
    have value : start * 10 ^ ([] : List Char).length + numeral [] = start := Nat.mul_one start
    rw [readDigits, value, Except.ok.injEq]
    constructor
    · rintro rfl
      exact ⟨List.forall_mem_nil _, rfl, small⟩
    · exact fun spelled => spelled.2.1
  | cons first rest ih =>
    rw [readDigits, digit?, List.forall_mem_cons]
    by_cases digit : first.isDigit = true
    · rw [if_pos digit]
      have value : start * 10 ^ (first :: rest).length + numeral (first :: rest) =
          (start * 10 + (first.toNat - '0'.toNat)) * 10 ^ rest.length + numeral rest := by
        rw [numeral_cons, List.length_cons]
        ring
      simp only [digit, true_and, value]
      by_cases fits : start * 10 + (first.toNat - '0'.toNat) < wordLimit
      · rw [if_pos fits, ih fits]
      · rw [if_neg fits]
        constructor
        · intro read
          cases read
        · rintro ⟨_, rfl, below⟩
          have scale : 0 < 10 ^ rest.length := Nat.pow_pos (Nat.succ_pos 9)
          have grown := Nat.le_mul_of_pos_right (start * 10 + (first.toNat - '0'.toNat)) scale
          omega
    · rw [if_neg digit]
      constructor
      · intro read
        cases read
      · exact fun spelled => absurd spelled.1.1 digit

theorem readDigits_zero_iff {number : Nat} {characters : List Char} (present : characters ≠ []) :
    readDigits 0 characters = .ok number ↔ Digits characters number := by
  rw [readDigits_eq_ok_iff (by decide), Nat.zero_mul, Nat.zero_add]
  constructor
  · rintro ⟨digits, value, fits⟩
    exact ⟨present, digits, value, fits⟩
  · intro spelled
    exact ⟨spelled.digits, spelled.value, spelled.fits⟩

theorem readWord_eq_ok_iff {number : Nat} {characters : List Char} :
    readWord characters = .ok number ↔ Spelled characters number := by
  have unsigned {rest : List Char} (spelled : Digits ('+' :: rest) number) : False :=
    Bool.false_ne_true (spelled.digits '+' List.mem_cons_self)
  unfold readWord
  split
  case h_1 =>
    constructor
    · intro read
      cases read
    · rintro ⟨spelled⟩
      exact absurd rfl spelled.present
  case h_2 =>
    constructor
    · intro read
      cases read
    · rintro (spelled | spelled)
      · exact (unsigned spelled).elim
      · exact absurd rfl spelled.present
  case h_3 rest more =>
    rw [readDigits_zero_iff more]
    constructor
    · exact .signed
    · rintro (spelled | spelled)
      · exact (unsigned spelled).elim
      · exact spelled
  case h_4 present _ unlike =>
    rw [readDigits_zero_iff present]
    constructor
    · exact .bare
    · rintro (spelled | spelled)
      · exact spelled
      · exact absurd rfl (unlike _)

/-! ### White space around a word -/

theorem trimBlank_split (characters : List Char) :
    ∃ before after, characters = before ++ trimBlank characters ++ after ∧
      ∀ character ∈ before ++ after, isBlank character = true := by
  refine ⟨characters.takeWhile isBlank, ((characters.dropWhile isBlank).reverse.takeWhile isBlank).reverse, ?_, ?_⟩
  · rw [trimBlank, List.append_assoc, ← List.reverse_append, List.takeWhile_append_dropWhile, List.reverse_reverse,
      List.takeWhile_append_dropWhile]
  · intro character member
    rcases List.mem_append.mp member with early | late
    · exact List.mem_takeWhile_imp early
    · exact List.mem_takeWhile_imp (List.mem_reverse.mp late)

theorem trimBlank_append {before word after : List Char}
    (blank : ∀ character ∈ before ++ after, isBlank character = true)
    (solid : ∀ character ∈ word, isBlank character = false) (present : word ≠ []) :
    trimBlank (before ++ word ++ after) = word := by
  rw [List.forall_mem_append] at blank
  have front : (before ++ word ++ after).dropWhile isBlank = word ++ after := by
    rw [List.append_assoc, List.dropWhile_append_of_pos blank.1]
    cases word with
    | nil => exact absurd rfl present
    | cons first rest =>
      have kept : ¬isBlank first = true := Bool.eq_false_iff.mp (solid first List.mem_cons_self)
      rw [List.cons_append, List.dropWhile_cons_of_neg kept]
  have back : (word ++ after).reverse.dropWhile isBlank = word.reverse := by
    rw [List.reverse_append, List.dropWhile_append_of_pos fun character member =>
      blank.2 character (List.mem_reverse.mp member)]
    exact dropWhile_isBlank fun character member => solid character (List.mem_reverse.mp member)
  rw [trimBlank, front, back, List.reverse_reverse]

theorem readTrimmedWord_eq_ok_iff {text : String} {number : Nat} :
    readTrimmedWord text = .ok number ↔ Spells text number := by
  rw [readTrimmedWord]
  constructor
  · intro read
    obtain ⟨before, after, split, blank⟩ := trimBlank_split text.toList
    exact ⟨before, trimBlank text.toList, after, split, blank, readWord_eq_ok_iff.mp read⟩
  · rintro ⟨before, word, after, split, blank, spelled⟩
    have read := readWord_eq_ok_iff.mpr spelled
    have present : word ≠ [] := by
      rintro rfl
      cases read
    rw [split, trimBlank_append blank (isBlank_of_readWord read) present]
    exact read

/-! ### The variables -/

/-- What the bytes of a variable, if it is set, give for its option, and the warnings about them. -/
def readVariable (name : String) (value : Option Bytes) : Option Nat × List Event :=
  Environment.word? ⟨fun _ => value⟩ name

/-- A reader that takes words, warns once of every other text, and passes over what is no text. -/
structure ReadsWords (read : String → Option Bytes → Option Nat × List Event) : Prop where
  takes : ∀ name value number,
    (read name value).1 = some number ↔ ∃ text, value = some (Bytes.ofText text) ∧ Spells text number
  silent : ∀ name value number, (read name value).1 = some number → (read name value).2 = []
  warns : ∀ name text, (∀ number, ¬Spells text number) →
    ∃ cause, read name (some (Bytes.ofText text)) = (none, [.variableIgnored name text cause])
  passes : ∀ name value, (∀ text, value ≠ some (Bytes.ofText text)) → read name value = (none, [])

theorem Environment.text?_eq_some_iff {environment : Environment} {name text : String} :
    environment.text? name = some text ↔ environment.value? name = some (Bytes.ofText text) := by
  simp only [text?, Option.bind_eq_some_iff, Bytes.toText?_eq_some_iff, exists_eq_right]

theorem readVariable_word (name : String) {text : String} {number : Nat} (spelled : Spells text number) :
    readVariable name (some (Bytes.ofText text)) = (some number, []) := by
  have known : Environment.text? ⟨fun _ => some (Bytes.ofText text)⟩ name = some text :=
    Environment.text?_eq_some_iff.mpr rfl
  simp only [readVariable, Environment.word?, known, readTrimmedWord_eq_ok_iff.mpr spelled]

theorem readVariable_no_word (name : String) {text : String} (unspelled : ∀ number, ¬Spells text number) :
    ∃ cause, readVariable name (some (Bytes.ofText text)) = (none, [.variableIgnored name text cause]) := by
  have known : Environment.text? ⟨fun _ => some (Bytes.ofText text)⟩ name = some text :=
    Environment.text?_eq_some_iff.mpr rfl
  cases read : readTrimmedWord text with
  | ok number => exact absurd (readTrimmedWord_eq_ok_iff.mp read) (unspelled number)
  | error cause =>
    refine ⟨cause, ?_⟩
    simp only [readVariable, Environment.word?, known, read]

theorem readVariable_no_text (name : String) {value : Option Bytes}
    (unreadable : ∀ text, value ≠ some (Bytes.ofText text)) : readVariable name value = (none, []) := by
  have unknown : Environment.text? ⟨fun _ => value⟩ name = none := by
    rw [Option.eq_none_iff_forall_ne_some]
    intro text known
    exact unreadable text (Environment.text?_eq_some_iff.mp known)
  rw [readVariable, Environment.word?, unknown]

theorem spells_of_readVariable {name : String} {value : Option Bytes} {number : Nat}
    (found : (readVariable name value).1 = some number) :
    ∃ text, value = some (Bytes.ofText text) ∧ Spells text number := by
  by_cases readable : ∃ text, value = some (Bytes.ofText text)
  · obtain ⟨text, rfl⟩ := readable
    refine ⟨text, rfl, ?_⟩
    by_cases spelled : ∃ other, Spells text other
    · obtain ⟨other, spelled⟩ := spelled
      rw [readVariable_word name spelled] at found
      exact Option.some.inj found ▸ spelled
    · obtain ⟨cause, refused⟩ := readVariable_no_word name (not_exists.mp spelled)
      rw [refused] at found
      cases found
  · rw [readVariable_no_text name (not_exists.mp readable)] at found
    cases found

theorem readsWords : ReadsWords readVariable := by
  constructor
  case takes =>
    intro name value number
    constructor
    · exact spells_of_readVariable
    · rintro ⟨text, rfl, spelled⟩
      rw [readVariable_word name spelled]
  case silent =>
    intro name value number found
    obtain ⟨text, rfl, spelled⟩ := spells_of_readVariable found
    rw [readVariable_word name spelled]
  case warns => exact fun name text unspelled => readVariable_no_word name unspelled
  case passes => exact fun name value unreadable => readVariable_no_text name unreadable

/-- The options that are words come from the environment by one reader, each from its own variable alone, and
without a word they are as by default. The warnings about the reserved slots come first. -/
theorem options_from_variables :
    ReadsWords readVariable ∧ ∀ environment : Environment,
      let injected := readVariable "HSA_LAUNCH_INJECTED_ARGS" (environment.value? "HSA_LAUNCH_INJECTED_ARGS")
      let threshold := readVariable "HSA_LAUNCH_PERF_THRESHOLD_US" (environment.value? "HSA_LAUNCH_PERF_THRESHOLD_US")
      Options.fromEnvironment environment =
        ({ abi := { injected := injected.1.getD ({} : Abi).injected }
           threshold := threshold.1
           linkageMarker :=
             ((environment.value? "HSA_LAUNCH_SYMBOL_PREFIX").bind Bytes.toText?).getD ({} : Options).linkageMarker },
          injected.2 ++ threshold.2) := by
  refine ⟨readsWords, ?_⟩
  intro environment injected threshold
  have first : environment.word? "HSA_LAUNCH_INJECTED_ARGS" = injected := rfl
  have second : environment.word? "HSA_LAUNCH_PERF_THRESHOLD_US" = threshold := rfl
  rw [Options.fromEnvironment, Abi.fromEnvironment, first, second]
  obtain ⟨found, warnings⟩ := injected
  cases found <;> rfl

example : readTrimmedWord "\u3000+0018446744073709551615\n" = .ok 0xFFFFFFFFFFFFFFFF := by decide +kernel

end KernelLaunch
