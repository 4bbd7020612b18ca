import KernelLaunch.Options

/-! The least reported time of a launch has two readers, the launch options and the telemetry, and the
launch options can take over what the telemetry has read. Only one of the two allows white space around
the word: the readers differ on a word with white space around it and on nothing else, and then the
telemetry has no least time and takes that of the options away. -/

namespace KernelLaunch

/-! ### A word has no white space in it -/

theorem isBlank_of_digit {character : Char} {digit : Nat} (read : digit? character = some digit) :
    isBlank character = false := by
  unfold digit? at read
  split at read
  · rename_i isDigit
    simp only [Char.isDigit, Bool.and_eq_true, decide_eq_true_eq, ge_iff_le, UInt32.le_iff_toNat_le] at isDigit
    have low : 48 ≤ character.toNat := isDigit.1
    have high : character.toNat ≤ 57 := isDigit.2
    simp only [isBlank, Bool.or_eq_false_iff, Bool.and_eq_false_iff, beq_eq_false_iff_ne, decide_eq_false_iff_not]
    omega
  · cases read

theorem isBlank_of_readDigits {number value : Nat} {characters : List Char}
    (read : readDigits number characters = .ok value) : ∀ character ∈ characters, isBlank character = false := by
  induction characters generalizing number with
  | nil =>
    intro character member
    cases member
  | cons first rest ih =>
    simp only [readDigits] at read
    cases known : digit? first with
    | none => simp only [known, reduceCtorEq] at read
    | some digit =>
      simp only [known] at read
      split at read
      · intro character member
        cases member with
        | head => exact isBlank_of_digit known
        | tail _ later => exact ih read character later
      · cases read

theorem isBlank_of_readWord {characters : List Char} {value : Nat} (read : readWord characters = .ok value) :
    ∀ character ∈ characters, isBlank character = false := by
  unfold readWord at read
  split at read
  · cases read
  · cases read
  · rename_i rest _
    intro character member
    cases member with
    | head => rfl
    | tail _ later => exact isBlank_of_readDigits read character later
  · exact isBlank_of_readDigits read

theorem dropWhile_isBlank {characters : List Char} (solid : ∀ character ∈ characters, isBlank character = false) :
    characters.dropWhile isBlank = characters := by
  cases characters with
  | nil => rfl
  | cons first rest => rw [List.dropWhile_cons, if_neg (by rw [solid first List.mem_cons_self]; exact Bool.false_ne_true)]

theorem trimBlank_of_readWord {characters : List Char} {value : Nat} (read : readWord characters = .ok value) :
    trimBlank characters = characters := by
  have solid := isBlank_of_readWord read
  have reversed : ∀ character ∈ characters.reverse, isBlank character = false := by
    intro character member
    exact solid character (List.mem_reverse.mp member)
  rw [trimBlank, dropWhile_isBlank solid, dropWhile_isBlank reversed, List.reverse_reverse]

/-! ### What the two readers make of the variable -/

/-- The least time as the environment gives it: a word, after what a reader takes off the text. -/
def Environment.threshold? (environment : Environment) (read : String → Except NumberError Nat) : Option Nat :=
  (environment.text? "HSA_LAUNCH_PERF_THRESHOLD_US").bind fun text => (read text).toOption

/-- The variable is a word, but not without taking white space off. -/
def Environment.PadsThreshold (environment : Environment) (number : Nat) : Prop :=
  ∃ text, environment.text? "HSA_LAUNCH_PERF_THRESHOLD_US" = some text ∧
    readTrimmedWord text = .ok number ∧ trimBlank text.toList ≠ text.toList

theorem Options.threshold_fromEnvironment (environment : Environment) :
    (Options.fromEnvironment environment).1.threshold = environment.threshold? readTrimmedWord := by
  simp only [Options.fromEnvironment, Environment.word?, Environment.threshold?]
  cases environment.text? "HSA_LAUNCH_PERF_THRESHOLD_US" with
  | none => rfl
  | some text =>
    simp only [Option.bind_some]
    cases readTrimmedWord text <;> rfl

namespace TelemetrySettings

/-- No profile asks for a least time, and none of the other variables sets one. -/
theorem threshold_before (environment : Environment) (directives format switch : Option String) :
    ((((ofProfile ((environment.text? "HSA_LAUNCH_TRACING_PROFILE").getD "local")).withDirectives
      directives).withFormat format).withSwitch switch).threshold = none := by
  have preset (name : String) : (ofProfile name).threshold = none := by
    unfold ofProfile
    split <;> rfl
  have directed (settings : TelemetrySettings) :
      (settings.withDirectives directives).threshold = settings.threshold := by
    unfold withDirectives
    split
    · rfl
    · split <;> rfl
  have formatted (settings : TelemetrySettings) : (settings.withFormat format).threshold = settings.threshold := by
    unfold withFormat
    split <;> rfl
  have switched (settings : TelemetrySettings) : (settings.withSwitch switch).threshold = settings.threshold := by
    unfold withSwitch
    split <;> rfl
  rw [switched, formatted, directed, preset]

theorem threshold_fromEnvironment (environment : Environment) :
    (fromEnvironment environment).threshold = environment.threshold? fun text => readWord text.toList := by
  have before := threshold_before environment (environment.text? "HSA_LAUNCH_TRACING_DIRECTIVES")
    (environment.text? "HSA_LAUNCH_TRACING_FORMAT") (environment.text? "HSA_LAUNCH_PERF_TRACING")
  simp only [fromEnvironment, withThreshold, Environment.threshold?]
  cases environment.text? "HSA_LAUNCH_PERF_THRESHOLD_US" with
  | none => exact before
  | some text =>
    simp only [Option.bind_some]
    cases readWord text.toList with
    | ok number => rfl
    | error cause => exact before

end TelemetrySettings

/-- The two readers agree unless white space stands around a word, also on what the options keep of their
own least time when they take over that of the telemetry. Around a word with white space the options have
the number and the telemetry has none, so that taking it over loses it. -/
theorem threshold_readers (environment : Environment) :
    ((∀ number, ¬ environment.PadsThreshold number) ∧
      (TelemetrySettings.fromEnvironment environment).threshold =
        (Options.fromEnvironment environment).1.threshold ∧
      ((Options.fromEnvironment environment).1.withTelemetry
        (TelemetrySettings.fromEnvironment environment)).threshold =
        (Options.fromEnvironment environment).1.threshold) ∨
    ∃ number, environment.PadsThreshold number ∧
      (Options.fromEnvironment environment).1.threshold = some number ∧
      (TelemetrySettings.fromEnvironment environment).threshold = none ∧
      ((Options.fromEnvironment environment).1.withTelemetry
        (TelemetrySettings.fromEnvironment environment)).threshold = none := by
  have taken : ((Options.fromEnvironment environment).1.withTelemetry
      (TelemetrySettings.fromEnvironment environment)).threshold =
      (TelemetrySettings.fromEnvironment environment).threshold := rfl
  rw [taken, Options.threshold_fromEnvironment, TelemetrySettings.threshold_fromEnvironment]
  unfold Environment.PadsThreshold Environment.threshold?
  cases environment.text? "HSA_LAUNCH_PERF_THRESHOLD_US" with
  | none =>
    left
    refine ⟨?_, rfl, rfl⟩
    intro number padded
    obtain ⟨text, present, _⟩ := padded
    cases present
  | some text =>
    simp only [Option.bind_some, Option.some.injEq, exists_eq_left']
    by_cases bare : trimBlank text.toList = text.toList
    · left
      refine ⟨fun number padded => padded.2 bare, ?_, ?_⟩ <;> rw [readTrimmedWord, bare]
    · -- a word without white space would not have been changed, so the strict reader refuses this text
      cases strict : readWord text.toList with
      | ok number => exact absurd (trimBlank_of_readWord strict) bare
      | error cause =>
        cases trimmed : readTrimmedWord text with
        | ok number =>
          right
          exact ⟨number, ⟨rfl, bare⟩, rfl, rfl, rfl⟩
        | error other =>
          left
          refine ⟨?_, rfl, rfl⟩
          intro number padded
          cases padded.1

/-- An environment with a blank on either side of the number. -/
def padding : Environment := .ofList [("HSA_LAUNCH_PERF_THRESHOLD_US", Bytes.ofText " 250 ")]

/-- The options have their least time from the environment, and lose it to the telemetry that was read from
the same environment. -/
theorem threshold_lost :
    (Options.fromEnvironment padding).1.threshold = some 250 ∧
      (TelemetrySettings.fromEnvironment padding).threshold = none ∧
      ((Options.fromEnvironment padding).1.withTelemetry
        (TelemetrySettings.fromEnvironment padding)).threshold = none := by
  decide +kernel

end KernelLaunch
