import KernelLaunch.Kernel

/-! The sizes of a launch, however they were come by: from a size or two, from a grid of blocks, or out of a
configuration or a kernel that was derived from others. They are those sizes that need no reconciling any
more, and all of those. -/

namespace KernelLaunch

/-- The extents of a size, and then nothing but ones up to a rank. -/
structure Dims.Extends (dims longer : Dims) (rank : Nat) : Prop where
  rank : longer.rank = rank
  start : longer.extents.take dims.rank = dims.extents
  rest : ∀ extent ∈ longer.extents.drop dims.rank, extent = 1

theorem Dims.extends_paddedTo (dims : Dims) {rank : Nat} (enough : dims.rank ≤ rank) :
    dims.Extends (dims.paddedTo rank) rank where
  rank := by rw [rank_paddedTo, Nat.max_eq_right enough]
  start := List.take_left' rfl
  rest extent member := by
    have ones : (dims.paddedTo rank).extents.drop dims.rank = List.replicate (rank - dims.rank) 1 :=
      List.drop_left' rfl
    rw [ones] at member
    exact List.eq_of_mem_replicate member

namespace Geometry

variable {global size : Dims} {workgroup : Option Dims} {geometry : Geometry}

theorem ext_sizes {first second : Geometry} (global : first.global = second.global)
    (workgroup : first.workgroup = second.workgroup) : first = second := by
  cases first
  cases second
  simp only at global workgroup
  subst global workgroup
  rfl

/-- The rank that both sizes are brought to. -/
def commonRank (global : Dims) (workgroup : Option Dims) : Nat :=
  workgroup.elim global.rank fun size => max global.rank size.rank

theorem resolve_of_usable (usable : global.Usable) (sized : ∀ size ∈ workgroup, size.Usable) :
    ∃ geometry, resolve global workgroup = .ok geometry ∧
      geometry.global = global.paddedTo (commonRank global workgroup) ∧
      geometry.workgroup = workgroup.map (Dims.paddedTo · (commonRank global workgroup)) := by
  unfold resolve
  split
  · rename_i cause faulty
    rw [Dims.fault?_eq_none_iff.mpr usable] at faulty
    cases faulty
  · cases workgroup with
    | none => exact ⟨_, rfl, (Dims.paddedTo_of_rank_le (Nat.le_refl _)).symm, rfl⟩
    | some size =>
      simp only
      split
      · rename_i cause faulty
        rw [Dims.fault?_eq_none_iff.mpr (sized size rfl)] at faulty
        cases faulty
      · exact ⟨_, rfl, rfl, rfl⟩

theorem usable_of_resolve (given : resolve global workgroup = .ok geometry) :
    global.Usable ∧ ∀ size ∈ workgroup, size.Usable := by
  unfold resolve at given
  split at given
  · cases given
  · rename_i usable
    refine ⟨Dims.fault?_eq_none_iff.mp usable, ?_⟩
    cases workgroup with
    | none =>
      intro size none
      cases none
    | some given =>
      intro size member
      obtain rfl := Option.some.inj member
      simp only at given
      split at given
      · cases given
      · rename_i whole
        exact Dims.fault?_eq_none_iff.mp whole

theorem resolve_eq_ok_iff :
    resolve global workgroup = .ok geometry ↔
      (global.Usable ∧ ∀ size ∈ workgroup, size.Usable) ∧
        geometry.global = global.paddedTo (commonRank global workgroup) ∧
        geometry.workgroup = workgroup.map (Dims.paddedTo · (commonRank global workgroup)) := by
  constructor
  · intro given
    have usable := usable_of_resolve given
    obtain ⟨resolved, again, sizes⟩ := resolve_of_usable usable.1 usable.2
    rw [given] at again
    obtain rfl := Except.ok.inj again
    exact ⟨usable, sizes⟩
  · rintro ⟨usable, global, workgroup⟩
    obtain ⟨resolved, again, sizes⟩ := resolve_of_usable usable.1 usable.2
    rw [again, ext_sizes (global.trans sizes.1.symm) (workgroup.trans sizes.2.symm)]

/-- Sizes that were resolved once stay as they are. -/
theorem resolve_self (geometry : Geometry) : resolve geometry.global geometry.workgroup = .ok geometry := by
  have same : commonRank geometry.global geometry.workgroup = geometry.global.rank := by
    cases workgroup : geometry.workgroup with
    | none => rfl
    | some size =>
      have matched := (geometry.matched size workgroup).2
      simp only [commonRank, Option.elim_some, matched, Nat.max_self]
  apply resolve_eq_ok_iff.mpr
  rw [same]
  refine ⟨⟨geometry.usable, fun size member => (geometry.matched size member).1⟩, ?_, ?_⟩
  · exact (Dims.paddedTo_of_rank_le (Nat.le_refl _)).symm
  · cases workgroup : geometry.workgroup with
    | none => rfl
    | some size =>
      have matched := (geometry.matched size workgroup).2
      rw [Option.map_some, Dims.paddedTo_of_rank_le (Nat.le_of_eq matched.symm)]

/-! ### What a caller can come by -/

/-- A global size and perhaps a workgroup size of the same rank, without an empty axis. -/
structure Reconciled (global : Dims) (workgroup : Option Dims) : Prop where
  usable : global.Usable
  matched : ∀ size ∈ workgroup, size.Usable ∧ size.rank = global.rank

inductive Obtained : Geometry → Prop where
  | single : Obtained .single
  | resolved {global : Dims} {workgroup : Option Dims} {geometry : Geometry}
      (given : resolve global workgroup = .ok geometry) : Obtained geometry
  | gridded {grid block : Dims} {geometry : Geometry} (given : ofGrid grid block = .ok geometry) :
      Obtained geometry

/-- No size is reconciled without being obtained: resolving it gives it back. -/
theorem obtained_iff_reconciled :
    (∃ geometry, Obtained geometry ∧ geometry.global = global ∧ geometry.workgroup = workgroup) ↔
      Reconciled global workgroup := by
  constructor
  · rintro ⟨geometry, _, rfl, rfl⟩
    exact ⟨geometry.usable, geometry.matched⟩
  · intro reconciled
    let geometry : Geometry := ⟨global, workgroup, reconciled.usable, reconciled.matched⟩
    exact ⟨geometry, .resolved geometry.resolve_self, rfl, rfl⟩

end Geometry

/-- Configurations that a caller can come by, one step after another. -/
inductive Configuration.Derived : Configuration → Prop where
  | new : Derived {}
  | configured {earlier later : Configuration} {global : Dims} {workgroup : Option Dims}
      {stream : Option StreamId} (derived : Derived earlier)
      (given : earlier.configure global workgroup stream = .ok later) : Derived later
  | gridded {earlier later : Configuration} {grid block : Dims} {stream : Option StreamId}
      (derived : Derived earlier) (given : earlier.configureGrid grid block stream = .ok later) : Derived later
  | withGeometry {earlier : Configuration} {geometry : Geometry} (derived : Derived earlier)
      (obtained : geometry.Obtained) : Derived (earlier.withGeometry geometry)
  | withStream {earlier : Configuration} (derived : Derived earlier) (stream : Option StreamId) :
      Derived (earlier.withStream stream)

inductive Kernel.Derived : Kernel → Prop where
  | new (handle : Shared KernelHandle) : Derived { handle }
  | configured {earlier later : Kernel} {global : Dims} {workgroup : Option Dims}
      {stream : Option StreamId} (derived : Derived earlier)
      (given : earlier.configure global workgroup stream = .ok later) : Derived later
  | gridded {earlier later : Kernel} {grid block : Dims} {stream : Option StreamId}
      (derived : Derived earlier) (given : earlier.grid grid block stream = .ok later) : Derived later
  | withConfiguration {earlier : Kernel} {configuration : Configuration} (derived : Derived earlier)
      (known : configuration.Derived) : Derived (earlier.withConfiguration configuration)
  | withOptions {earlier : Kernel} (derived : Derived earlier) (options : Options) :
      Derived (earlier.withOptions options)

/-- No step makes a geometry of its own. So the geometry of any derived configuration could have been asked
for directly, and `withGeometry` may take that of another configuration. -/
theorem Configuration.Derived.obtained {configuration : Configuration} (derived : configuration.Derived) :
    configuration.geometry.Obtained := by
  induction derived with
  | new => exact .single
  | configured _ given _ =>
    obtain ⟨geometry, resolved, rfl⟩ := map_eq_ok.mp given
    exact .resolved resolved
  | gridded _ given _ =>
    obtain ⟨geometry, gridded, rfl⟩ := map_eq_ok.mp given
    exact .gridded gridded
  | withGeometry _ obtained _ => exact obtained
  | withStream _ _ kept => exact kept

theorem Kernel.Derived.configuration {kernel : Kernel} (derived : kernel.Derived) :
    kernel.configuration.Derived := by
  induction derived with
  | new _ => exact .new
  | configured _ given known =>
    obtain ⟨configuration, configured, rfl⟩ := map_eq_ok.mp given
    exact known.configured configured
  | gridded _ given known =>
    obtain ⟨configuration, gridded, rfl⟩ := map_eq_ok.mp given
    exact known.gridded gridded
  | withConfiguration _ known _ => exact known
  | withOptions _ _ kept => exact kept

namespace Geometry

/-- The sizes that can be obtained, directly or out of a configuration or a kernel, are those without an empty
axis and of one rank. Two sizes resolve just when neither has an empty axis, and then to themselves with ones
up to the larger rank; a global size alone stays as given, and so does everything that was obtained before. -/
theorem sizes_reconciled :
    (∀ global workgroup,
      (∃ geometry, Obtained geometry ∧ geometry.global = global ∧ geometry.workgroup = workgroup) ↔
        Reconciled global workgroup) ∧
    (∀ configuration : Configuration, configuration.Derived → Obtained configuration.geometry) ∧
    (∀ kernel : Kernel, kernel.Derived → Obtained kernel.configuration.geometry) ∧
    (∀ global workgroup, (∃ geometry, resolve global workgroup = .ok geometry) ↔
      global.Usable ∧ ∀ size ∈ workgroup, size.Usable) ∧
    (∀ global geometry, resolve global none = .ok geometry →
      geometry.global = global ∧ geometry.workgroup = none) ∧
    (∀ global size geometry, resolve global (some size) = .ok geometry →
      global.Extends geometry.global (max global.rank size.rank) ∧
        ∃ longer, geometry.workgroup = some longer ∧ size.Extends longer (max global.rank size.rank)) ∧
    ∀ geometry, Obtained geometry → resolve geometry.global geometry.workgroup = .ok geometry := by
  refine ⟨fun _ _ => obtained_iff_reconciled, fun _ derived => derived.obtained,
    fun _ derived => derived.configuration.obtained, ?_, ?_, ?_, fun geometry _ => geometry.resolve_self⟩
  · intro global workgroup
    constructor
    · rintro ⟨geometry, given⟩
      exact usable_of_resolve given
    · intro usable
      obtain ⟨geometry, given, _⟩ := resolve_of_usable usable.1 usable.2
      exact ⟨geometry, given⟩
  · intro global geometry given
    obtain ⟨_, same, alone⟩ := resolve_eq_ok_iff.mp given
    rw [same]
    exact ⟨Dims.paddedTo_of_rank_le (Nat.le_refl _), alone⟩
  · intro global size geometry given
    obtain ⟨_, longer, both⟩ := resolve_eq_ok_iff.mp given
    rw [longer]
    exact ⟨global.extends_paddedTo (Nat.le_max_left ..), _, both, size.extends_paddedTo (Nat.le_max_right ..)⟩

/-- A global size with fewer axes than the workgroup size, given to a kernel and taken out of it again. -/
theorem sizes_reconciled_longer :
    let global : Dims := ⟨[16]⟩
    let size : Dims := ⟨[4, 4, 2]⟩
    let kernel : Kernel := { handle := ⟨0, ⟨"", [], "k", []⟩⟩ }
    ∃ geometry, resolve global (some size) = .ok geometry ∧ global.Extends geometry.global 3 ∧
      let derived := kernel.withConfiguration (({} : Configuration).withGeometry geometry)
      derived.Derived ∧ Reconciled derived.configuration.geometry.global derived.configuration.geometry.workgroup ∧
        resolve derived.configuration.geometry.global derived.configuration.geometry.workgroup = .ok geometry := by
  intro global size kernel
  obtain ⟨reconciled, _, kernels, resolves, _, both, again⟩ := sizes_reconciled
  have usable : global.Usable := Dims.fault?_eq_none_iff.mp (show global.fault? .globalSize = none from rfl)
  have sized : size.Usable := Dims.fault?_eq_none_iff.mp (show size.fault? .localSize = none from rfl)
  obtain ⟨geometry, given⟩ :=
    (resolves global (some size)).mpr ⟨usable, fun _ same => Option.some.inj same ▸ sized⟩
  have derived := (Kernel.Derived.new kernel.handle).withConfiguration
    (Configuration.Derived.new.withGeometry (.resolved given))
  have obtained := kernels _ derived
  refine ⟨geometry, given, (both _ _ _ given).1, derived, ?_, again _ obtained⟩
  exact (reconciled _ _).mp ⟨_, obtained, rfl, rfl⟩

end Geometry
end KernelLaunch
