import KernelLaunch.Proofs.SessionHistory

/-! Chains of configurations and of kernels: what they come to after any steps, some of which may fail. Whether
a step fails, and what it sets, does not depend on the value it is applied to. So each part of the last value is
what the last successful step that sets this part has set, and values obtained on the way stay as they were, also
where several chains branch off from one of them. -/

namespace KernelLaunch

/-- What a step sets. What it does not set stays as it was. -/
structure Setting where
  geometry : Option Geometry := none
  stream : Option (Option StreamId) := none
  options : Option Options := none

namespace Setting

/-- Sizes that can be reconciled are set together with the stream, even if that is none. -/
def sized (sizes : Except GeometryError Geometry) (stream : Option StreamId) : Except GeometryError Setting :=
  sizes.map fun geometry => { geometry := some geometry, stream := some stream }

/-- The last value that a part is set to, or the one it has before it is set. -/
def latest {β : Type} (part : Setting → Option β) (initial : β) (settings : List Setting) : β :=
  (settings.filterMap part).getLast?.getD initial

theorem latest_cons {β : Type} (part : Setting → Option β) (initial : β) (first : Setting)
    (rest : List Setting) :
    latest part initial (first :: rest) = latest part ((part first).getD initial) rest := by
  unfold latest
  cases set : part first with
  | none => rw [List.filterMap_cons_none set, Option.getD_none]
  | some value => rw [List.filterMap_cons_some set, List.getLast?_cons, Option.getD_some, Option.getD_some]

end Setting

/-! ### Chains and branches -/

namespace Chains

section
variable {α σ : Type} (derive : α → σ → Except GeometryError α)

/-- A chain goes on with what a step gives, and stays at its receiver if the step fails. -/
def advance (receiver : α) (step : σ) : α :=
  match derive receiver step with
  | .ok later => later
  | .error _ => receiver

def chain (start : α) (steps : List σ) : α := steps.foldl (advance derive) start

/-- A step from one of the values obtained so far, by its number. -/
structure Branch (σ : Type) where
  receiver : Nat
  step : σ

/-- The values obtained so far, with what the step gives behind them. -/
def branchOff (family : List α) (branch : Branch σ) : List α :=
  match family[branch.receiver]? with
  | none => family
  | some receiver =>
    match derive receiver branch.step with
    | .ok later => family ++ [later]
    | .error _ => family

/-- All values that are obtained from one. -/
def family (start : α) (branches : List (Branch σ)) : List α := branches.foldl (branchOff derive) [start]

variable (setting : σ → Except GeometryError Setting)

/-- What the successful ones of some steps set, in their order. -/
def settings (steps : List σ) : List Setting := steps.filterMap fun step => (setting step).toOption

/-- The steps that lead to a value, with one more if it succeeds. -/
def lengthen (path : List σ) (step : σ) : Except GeometryError (List σ) :=
  (setting step).map fun _ => path ++ [step]

/-- For every value of a family, the steps that lead to it. -/
def paths (branches : List (Branch σ)) : List (List σ) := family (lengthen setting) [] branches

end

section
variable {α β σ : Type} {derive : α → σ → Except GeometryError α}

theorem prefix_branchOff (values : List α) (branch : Branch σ) : values <+: branchOff derive values branch := by
  unfold branchOff
  cases values[branch.receiver]? with
  | none => exact List.prefix_rfl
  | some receiver =>
    cases derived : derive receiver branch.step with
    | error cause => simp only [derived, List.prefix_rfl]
    | ok later => simp only [derived, List.prefix_append]

theorem prefix_family (start : α) (branches more : List (Branch σ)) :
    family derive start branches <+: family derive start (branches ++ more) := by
  rw [family, family, List.foldl_append]
  generalize branches.foldl (branchOff derive) [start] = values
  induction more generalizing values with
  | nil => exact List.prefix_rfl
  | cons branch rest ih => exact (prefix_branchOff values branch).trans (ih _)

/-- Values that are derived alike form families alike. -/
theorem map_family {represent : β → α} {other : β → σ → Except GeometryError β}
    (alike : ∀ value step, derive (represent value) step = (other value step).map represent) (start : β)
    (branches : List (Branch σ)) :
    family derive (represent start) branches = (family other start branches).map represent := by
  have once (values : List β) (branch : Branch σ) :
      branchOff derive (values.map represent) branch = (branchOff other values branch).map represent := by
    simp only [branchOff, List.getElem?_map]
    cases values[branch.receiver]? with
    | none => rfl
    | some receiver =>
      simp only [Option.map_some, alike]
      cases other receiver branch.step with
      | error cause => rfl
      | ok later => simp only [Except.map, List.map_append, List.map_singleton]
  unfold family
  rw [show [represent start] = [start].map represent from rfl]
  generalize [start] = values
  induction branches generalizing values with
  | nil => rfl
  | cons branch rest ih => rw [List.foldl_cons, once, ih, List.foldl_cons]

variable {setting : σ → Except GeometryError Setting}

theorem settings_failed {step : σ} {cause : GeometryError} (failed : setting step = .error cause) (rest : List σ) :
    settings setting (step :: rest) = settings setting rest :=
  List.filterMap_cons_none (congrArg Except.toOption failed)

theorem settings_set {step : σ} {given : Setting} (succeeded : setting step = .ok given) (rest : List σ) :
    settings setting (step :: rest) = given :: settings setting rest :=
  List.filterMap_cons_some (congrArg Except.toOption succeeded)

variable {apply : α → Setting → α}
  (uniform : ∀ receiver step, derive receiver step = (setting step).map (apply receiver))
include uniform

theorem advance_failed (receiver : α) {step : σ} {cause : GeometryError} (failed : setting step = .error cause) :
    advance derive receiver step = receiver := by
  rw [advance, uniform, failed]
  rfl

theorem advance_set (receiver : α) {step : σ} {given : Setting} (succeeded : setting step = .ok given) :
    advance derive receiver step = apply receiver given := by
  rw [advance, uniform, succeeded]
  rfl

/-- A part of the last value is what it was set to last. -/
theorem part_chain (read : α → β) (part : Setting → Option β)
    (sets : ∀ value given, read (apply value given) = (part given).getD (read value)) (start : α)
    (steps : List σ) :
    read (chain derive start steps) = Setting.latest part (read start) (settings setting steps) := by
  induction steps generalizing start with
  | nil => rfl
  | cons step rest ih =>
    rw [chain, List.foldl_cons, ← chain, ih]
    cases outcome : setting step with
    | error cause => rw [advance_failed uniform start outcome, settings_failed outcome]
    | ok given => rw [advance_set uniform start outcome, sets, settings_set outcome, Setting.latest_cons]

/-- Every value of a family is what the chain of its own steps comes to. -/
theorem family_eq (start : α) (branches : List (Branch σ)) :
    family derive start branches = (paths setting branches).map (chain derive start) := by
  have alike (path : List σ) (step : σ) :
      derive (chain derive start path) step = (lengthen setting path step).map (chain derive start) := by
    have next : chain derive start (path ++ [step]) = advance derive (chain derive start path) step :=
      List.foldl_append
    rw [lengthen, uniform]
    cases outcome : setting step with
    | error cause => rfl
    | ok given =>
      rw [advance_set uniform _ outcome] at next
      exact congrArg Except.ok next.symm
  exact map_family alike [] branches

end

end Chains

open Chains

/-! ### Configurations -/

namespace Configuration

inductive Step where
  | configure (global : Dims) (workgroup : Option Dims) (stream : Option StreamId)
  | grid (blocks block : Dims) (stream : Option StreamId)
  | withGeometry (geometry : Geometry)
  | withStream (stream : Option StreamId)

def derive (receiver : Configuration) : Step → Except GeometryError Configuration
  | .configure global workgroup stream => receiver.configure global workgroup stream
  | .grid blocks block stream => receiver.configureGrid blocks block stream
  | .withGeometry geometry => .ok (receiver.withGeometry geometry)
  | .withStream stream => .ok (receiver.withStream stream)

def Step.setting : Step → Except GeometryError Setting
  | .configure global workgroup stream => Setting.sized (Geometry.resolve global workgroup) stream
  | .grid blocks block stream => Setting.sized (Geometry.ofGrid blocks block) stream
  | .withGeometry geometry => .ok { geometry := some geometry }
  | .withStream stream => .ok { stream := some stream }

def apply (receiver : Configuration) (given : Setting) : Configuration where
  geometry := given.geometry.getD receiver.geometry
  stream := given.stream.getD receiver.stream

theorem derive_eq (receiver : Configuration) (step : Step) :
    receiver.derive step = step.setting.map receiver.apply := by
  cases step with
  | configure global workgroup stream =>
    simp only [derive, configure, Step.setting, Setting.sized]
    cases Geometry.resolve global workgroup <;> rfl
  | grid blocks block stream =>
    simp only [derive, configureGrid, Step.setting, Setting.sized]
    cases Geometry.ofGrid blocks block <;> rfl
  | withGeometry | withStream => rfl

/-- Every part is as it was set last, or as a new configuration has it. -/
structure Reached (configuration : Configuration) (steps : List Step) : Prop where
  geometry : configuration.geometry = Setting.latest Setting.geometry .single (settings Step.setting steps)
  stream : configuration.stream = Setting.latest Setting.stream none (settings Step.setting steps)

theorem reached_chain (steps : List Step) : Reached (chain derive {} steps) steps where
  geometry := part_chain derive_eq Configuration.geometry _ (fun _ _ => rfl) {} steps
  stream := part_chain derive_eq Configuration.stream _ (fun _ _ => rfl) {} steps

end Configuration

/-! ### Kernels -/

namespace Kernel

inductive Step where
  | configure (global : Dims) (workgroup : Option Dims) (stream : Option StreamId)
  | grid (blocks block : Dims) (stream : Option StreamId)
  | withConfiguration (configuration : Configuration)
  | withOptions (options : Options)

def derive (receiver : Kernel) : Step → Except GeometryError Kernel
  | .configure global workgroup stream => receiver.configure global workgroup stream
  | .grid blocks block stream => receiver.grid blocks block stream
  | .withConfiguration configuration => .ok (receiver.withConfiguration configuration)
  | .withOptions options => .ok (receiver.withOptions options)

def Step.setting : Step → Except GeometryError Setting
  | .configure global workgroup stream => Setting.sized (Geometry.resolve global workgroup) stream
  | .grid blocks block stream => Setting.sized (Geometry.ofGrid blocks block) stream
  | .withConfiguration configuration =>
    .ok { geometry := some configuration.geometry, stream := some configuration.stream }
  | .withOptions options => .ok { options := some options }

def apply (receiver : Kernel) (given : Setting) : Kernel where
  handle := receiver.handle
  configuration := receiver.configuration.apply given
  options := given.options.getD receiver.options

theorem derive_eq (receiver : Kernel) (step : Step) : receiver.derive step = step.setting.map receiver.apply := by
  cases step with
  | configure global workgroup stream =>
    simp only [derive, configure, Configuration.configure, Step.setting, Setting.sized]
    cases Geometry.resolve global workgroup <;> rfl
  | grid blocks block stream =>
    simp only [derive, Kernel.grid, Configuration.configureGrid, Step.setting, Setting.sized]
    cases Geometry.ofGrid blocks block <;> rfl
  | withConfiguration | withOptions => rfl

/-- The handle is the one that the chain began with, and every part is as it was set last or as a new kernel has
it. -/
structure Reached (kernel : Kernel) (handle : Shared KernelHandle) (steps : List Step) : Prop where
  handle : kernel.handle = handle
  geometry : kernel.configuration.geometry =
    Setting.latest Setting.geometry .single (settings Step.setting steps)
  stream : kernel.configuration.stream = Setting.latest Setting.stream none (settings Step.setting steps)
  options : kernel.options = Setting.latest Setting.options {} (settings Step.setting steps)

theorem handle_chain (start : Kernel) (steps : List Step) : (chain derive start steps).handle = start.handle := by
  induction steps generalizing start with
  | nil => rfl
  | cons step rest ih =>
    rw [chain, List.foldl_cons, ← chain, ih]
    cases outcome : step.setting with
    | error cause => rw [advance_failed derive_eq start outcome]
    | ok given => rw [advance_set derive_eq start outcome, apply]

theorem reached_chain (handle : Shared KernelHandle) (steps : List Step) :
    Reached (chain derive { handle } steps) handle steps where
  handle := handle_chain { handle } steps
  geometry := part_chain derive_eq (fun kernel => kernel.configuration.geometry) _ (fun _ _ => rfl) _ steps
  stream := part_chain derive_eq (fun kernel => kernel.configuration.stream) _ (fun _ _ => rfl) _ steps
  options := part_chain derive_eq Kernel.options _ (fun _ _ => rfl) _ steps

end Kernel

/-! ### Kernels of a session -/

namespace Session

variable {session : Session}

theorem prefix_withItem {α : Type} {items : List α} {place : Nat} {what : Missing} {act : α → Result}
    (grows : ∀ item, session.kernels <+: (act item).2.1.kernels) :
    session.kernels <+: (session.withItem items place what act).2.1.kernels := by
  cases found : items[place]? with
  | none => simp only [withItem, found, List.prefix_rfl]
  | some item => simp only [withItem, found, grows]

theorem prefix_keepKernel (kernel : Kernel) : session.kernels <+: (session.keepKernel kernel).2.1.kernels :=
  List.prefix_append session.kernels [kernel]

theorem prefix_derive {kernel : Nat} {change : Kernel → Except GeometryError Kernel} :
    session.kernels <+: (session.derive kernel change).2.1.kernels := by
  apply prefix_withItem
  intro receiver
  cases change receiver with
  | error cause => exact List.prefix_rfl
  | ok later => exact prefix_keepKernel later

theorem prefix_step (session : Session) (step : Step) :
    session.kernels <+: (session.step step).2.1.kernels := by
  cases makes : step.makesKernel with
  | false =>
    have same : (session.step step).2.1.kernels = session.kernels := by
      apply unseen_step kernels
      case blind => exact fun _ _ _ _ _ => rfl
      case assembles => exact fun _ _ _ => rfl
      case makes =>
        rw [makes]
        exact nofun
    exact same.symm ▸ List.prefix_rfl
  | true =>
    cases step with
    | compile handle => exact List.prefix_append session.kernels _
    | share => exact prefix_withItem fun kernel => prefix_keepKernel _
    | configure | grid | withOptions => exact prefix_derive
    | withConfigurationOf => exact prefix_withItem fun _ => prefix_withItem fun _ => prefix_keepKernel _
    | _ => cases makes

/-- A session only adds kernels: none that it has is changed or lost. -/
theorem prefix_after (session : Session) (steps : List Step) : session.kernels <+: (session.after steps).kernels := by
  induction steps generalizing session with
  | nil => exact List.prefix_rfl
  | cons step rest ih => exact (session.prefix_step step).trans (ih _)

end Session

/-- Chains that begin with a value: a step fails for every receiver or for none, and a chain comes to what has
been reached by its steps. Of the values that branch off from one another each comes to what its own steps come
to, and further branches only add to them. -/
structure Settled {α σ : Type} (derive : α → σ → Except GeometryError α) (setting : σ → Except GeometryError Setting)
    (start : α) (Reached : α → List σ → Prop) : Prop where
  fails : ∀ receiver step cause, derive receiver step = .error cause ↔ setting step = .error cause
  reaches : ∀ steps, Reached (chain derive start steps) steps
  branches : ∀ branches, family derive start branches = (paths setting branches).map (chain derive start)
  lasts : ∀ branches more, family derive start branches <+: family derive start (branches ++ more)

/-- The last configuration of a chain has the geometry and the stream that the last successful step to set each
of them has set, also if that is no stream, and those of a new configuration if there is no such step. The last
kernel has them likewise, and the options, and the handle that it was made with. No configuration or kernel that
a chain came by on the way is changed, and no kernel of a session by anything that the session does. -/
theorem latest_settings_hold :
    Settled Configuration.derive Configuration.Step.setting {} Configuration.Reached ∧
    (∀ handle, Settled Kernel.derive Kernel.Step.setting { handle } fun kernel => kernel.Reached handle) ∧
    ∀ (session : Session) steps, session.kernels <+: (session.after steps).kernels := by
  refine ⟨?_, ?_, Session.prefix_after⟩
  · constructor
    case fails =>
      intro receiver step cause
      rw [Configuration.derive_eq, map_eq_error]
    case reaches => exact Configuration.reached_chain
    case branches => exact family_eq Configuration.derive_eq _
    case lasts => exact prefix_family _
  · intro handle
    constructor
    case fails =>
      intro receiver step cause
      rw [Kernel.derive_eq, map_eq_error]
    case reaches => exact Kernel.reached_chain handle
    case branches => exact family_eq Kernel.derive_eq _
    case lasts => exact prefix_family _

/-- A grid after a stream clears the stream; a size with an empty axis changes nothing. -/
example :
    (chain Configuration.derive {} [.withStream (some ⟨2⟩), .grid ⟨[2, 3]⟩ ⟨[4]⟩ none,
        .configure ⟨[4, 0]⟩ none (some ⟨1⟩)]).stream = none ∧
      (chain Configuration.derive {} [.configure ⟨[8]⟩ none (some ⟨1⟩), .withGeometry .single]).stream =
        some ⟨1⟩ := by decide

end KernelLaunch
