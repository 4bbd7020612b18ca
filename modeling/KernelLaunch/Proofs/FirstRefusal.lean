import KernelLaunch.Proofs.LaunchCourse

/-! Why a launch on the reference device is refused. Each reason is checked on its own, from the
device before the launch and from the order alone; the launch is refused for the first one that
applies, and there are no others. -/

namespace KernelLaunch

namespace Launch

def bufferBlock (order : LaunchOrder) : Block :=
  ⟨max slotSize (slotSize * slotTotal order), kernargAlignment⟩

namespace Refusal

variable (context : Context) (order : LaunchOrder)

def arity : Option LaunchError :=
  if order.arguments.length = order.handle.types.length then none
  else some (.arityMismatch (symbol order) order.handle.types.length order.arguments.length)

def stream : Option LaunchError :=
  match order.configuration.stream with
  | none => none
  | some stream =>
    if (context.streamQueue? stream).isSome then none else some (.unknownStream stream)

def image : Option LaunchError :=
  match Image.parse order.handle.image with
  | .error fault => some (.invalidImage (.invalidImage fault.message))
  | .ok _ => none

def missingSymbol : Option LaunchError :=
  match Image.parse order.handle.image with
  | .error _ => none
  | .ok table =>
    if symbol order ∈ table.symbols.map Symbol.name then none
    else some (.symbolNotFound (symbol order))

def finalization : Option LaunchError :=
  context.finalizer.failure.map fun reason => .finalization (symbol order) (.finalizationFailed reason)

def region : Option LaunchError :=
  if context.regions.any Region.kernargs then none else some (.noKernargRegion context.agent)

/-- The size rounded up to the alignment must be that of an object. -/
def layout : Option LaunchError :=
  if (bufferBlock order).size ≤ objectLimit - (kernargAlignment - 1) then none
  else some (.kernargLayout .unallocatable)

def allocation : Option LaunchError :=
  match context.regions.find? Region.kernargs with
  | none => none
  | some region =>
    match region.allocate context.heap context.placements (bufferBlock order) with
    | .error cause => some (.kernargAllocation (bufferBlock order).size cause)
    | .ok _ => none

def argument : Option LaunchError :=
  ((order.arguments.zip order.handle.types).zipIdx.findSome? (refusal? order.homes)).map
    fun (index, cause) => .argument index cause

def dispatch : Option LaunchError :=
  match context.queue? order.configuration.stream with
  | none => none
  | some queue =>
    match queue.failure with
    | some reason => some (.dispatch (symbol order) (.dispatchFailed reason))
    | none =>
      if maxDispatchRank < order.configuration.geometry.global.rank then
        some (.dispatch (symbol order)
          (.dispatchFailed s!"grid rank {order.configuration.geometry.global.rank} outside 1..={maxDispatchRank}"))
      else none

/-- All reasons, in the order in which they count. -/
def all : List (Option LaunchError) :=
  [arity order, stream context order, image order, missingSymbol order, finalization context order,
    region context, layout order, allocation context order, argument order, dispatch context order]

def first : Option LaunchError := (all context order).findSome? id

end Refusal

def outcomeOf : Option LaunchError → Outcome
  | some cause => refuse cause
  | none => .ok ()

end Launch

theorem SymbolTable.find?_eq_none_iff {table : SymbolTable} {name : String} :
    table.find? name = none ↔ name ∉ table.symbols.map Symbol.name := by
  simp only [find?, Option.map_eq_none_iff, List.find?_eq_none, beq_iff_eq, List.mem_map, not_exists,
    not_and]

/-- A configuration keeps its sizes usable and of one rank, so of all that a queue checks of them
only the highest rank is left. -/
theorem Queue.refusal?_geometry (queue : Queue) (geometry : Geometry) :
    queue.refusal? geometry.workgroup geometry.global =
      match queue.failure with
      | some reason => some reason
      | none =>
        if maxDispatchRank < geometry.global.rank then
          some s!"grid rank {geometry.global.rank} outside 1..={maxDispatchRank}"
        else none := by
  have positive : geometry.global.rank ≠ 0 := by
    intro none
    exact geometry.usable.1 (List.length_eq_zero_iff.mp none)
  cases failing : queue.failure with
  | some reason => simp only [refusal?, failing]
  | none =>
    simp only [refusal?, failing, positive, false_or]
    by_cases high : maxDispatchRank < geometry.global.rank
    · rw [if_pos high, if_pos high]
    · rw [if_neg high, if_neg high]
      cases sized : geometry.workgroup with
      | none => rfl
      | some size => exact if_pos (geometry.matched size sized).2

namespace Launch

variable {context : Context} {order : LaunchOrder} {queue : Queue} {table : SymbolTable} {offset : UInt64}

theorem block_layoutOf (order : LaunchOrder) :
    (layoutOf order).block =
      if (bufferBlock order).size ≤ objectLimit - (kernargAlignment - 1) then .ok (bufferBlock order)
      else .error .unallocatable := by
  simp only [Layout.block, size_layoutOf, bufferBlock, Nat.max_comm slotSize]

theorem Admitted.arity_none (admitted : Admitted context order queue) : Refusal.arity order = none :=
  if_pos admitted.arity

theorem Admitted.stream_none (admitted : Admitted context order queue) :
    Refusal.stream context order = none := by
  have chosen := admitted.chosen
  unfold Refusal.stream
  cases named : order.configuration.stream with
  | none => rfl
  | some stream =>
    rw [named] at chosen
    exact if_pos (Option.isSome_of_eq_some chosen)

theorem Resolved.image_none (resolved : Resolved context order queue table offset) :
    Refusal.image order = none := by
  simp only [Refusal.image, resolved.parsed]

theorem Resolved.symbol_none (resolved : Resolved context order queue table offset) :
    Refusal.missingSymbol order = none := by
  have present : symbol order ∈ table.symbols.map Symbol.name := by
    apply Decidable.byContradiction
    intro absent
    have missing := SymbolTable.find?_eq_none_iff.mpr absent
    rw [resolved.found] at missing
    cases missing
  simp only [Refusal.missingSymbol, resolved.parsed, if_pos present]

theorem finalization_none (unfailing : context.finalizer.failure = none) :
    Refusal.finalization context order = none := by
  rw [Refusal.finalization, unfailing, Option.map_none]

theorem region_none {index : Nat} (first : context.kernargIndex? = some index) :
    Refusal.region context = none := by
  rw [Refusal.region, if_pos]
  rw [← List.findIdx?_isSome]
  exact Option.isSome_of_eq_some first

theorem layout_none {block : Block} (sized : (layoutOf order).block = .ok block) :
    Refusal.layout order = none ∧ block = bufferBlock order := by
  rw [block_layoutOf] at sized
  unfold Refusal.layout
  split at sized
  · rename_i small
    exact ⟨if_pos small, (Except.ok.inj sized).symm⟩
  · cases sized

theorem find?_kernargs {index : Nat} (first : context.kernargIndex? = some index) :
    context.regions.find? Region.kernargs = context.regions[index]? := by
  rw [List.find?_eq_bind_findIdx?_getElem?]
  change context.kernargIndex?.bind _ = _
  rw [first, Option.bind_some]

theorem Placed.allocation_none {index : Nat} {region : Region} {block : Block} {address : UInt64}
    (placed : Placed context order queue table offset index region block address) :
    Refusal.allocation context order = none := by
  have found := (find?_kernargs placed.first).trans placed.available.present
  obtain ⟨_, rfl⟩ := layout_none placed.sized
  simp only [Refusal.allocation, found, Region.allocate, if_neg placed.available.positive,
    placed.available.placed]

theorem Filled.argument_none {index : Nat} {region : Region} {block : Block} {address : UInt64}
    {slots : List Slot} {bytes : Bytes}
    (filled : Filled context order queue table offset index region block address slots bytes) :
    Refusal.argument order = none := by
  have marshaled := filled.marshaled
  unfold Refusal.argument
  cases refused : (order.arguments.zip order.handle.types).zipIdx.findSome? (refusal? order.homes) with
  | none => rfl
  | some failure =>
    rw [marshalAll, marshalFrom_eq_error_iff.mpr refused] at marshaled
    cases marshaled

theorem Laid.passed (laid : Laid context order queue table offset) :
    Refusal.arity order = none ∧ Refusal.stream context order = none ∧ Refusal.image order = none ∧
      Refusal.missingSymbol order = none ∧ Refusal.finalization context order = none :=
  ⟨laid.arity_none, laid.stream_none, laid.image_none, laid.symbol_none, finalization_none laid.unfailing⟩

theorem Placed.passed {index : Nat} {region : Region} {block : Block} {address : UInt64}
    (placed : Placed context order queue table offset index region block address) :
    Refusal.region context = none ∧ Refusal.layout order = none ∧ Refusal.allocation context order = none :=
  ⟨region_none placed.first, (layout_none placed.sized).1, placed.allocation_none⟩

theorem dispatch_of_refusal {reason : Option String} (admitted : Admitted context order queue)
    (refusal : queue.refusal? order.configuration.geometry.workgroup
      order.configuration.geometry.global = reason) :
    Refusal.dispatch context order =
      reason.map fun reason => .dispatch (symbol order) (.dispatchFailed reason) := by
  rw [← refusal, Queue.refusal?_geometry, Refusal.dispatch, admitted.chosen]
  simp only
  cases queue.failure with
  | some reason => rfl
  | none =>
    simp only
    split <;> rfl

theorem launch_outcome (context : Context) (order : LaunchOrder)
    (fits : slotSize * slotTotal order < wordLimit) :
    (context.launch order).1 = outcomeOf (Refusal.first context order) := by
  have course := launch_course context order
  generalize (context.launch order).1 = outcome, (context.launch order).2.1 = after at course ⊢
  unfold Refusal.first Refusal.all
  simp only [List.findSome?_cons, List.findSome?_nil, id]
  cases course with
  | arity differs =>
    simp only [Refusal.arity, if_neg differs, outcomeOf]
  | stream arity named missing =>
    have enough : Refusal.arity order = none := if_pos arity
    simp only [enough, Refusal.stream, named, missing, Option.isSome_none, Bool.false_eq_true, if_false,
      outcomeOf]
  | image admitted unparsed =>
    simp only [admitted.arity_none, admitted.stream_none, Refusal.image, unparsed, outcomeOf]
  | symbol admitted parsed missing =>
    have absent := SymbolTable.find?_eq_none_iff.mp missing
    simp only [admitted.arity_none, admitted.stream_none, Refusal.image, Refusal.missingSymbol, parsed,
      if_neg absent, outcomeOf]
  | finalization resolved failing =>
    simp only [resolved.arity_none, resolved.stream_none, resolved.image_none, resolved.symbol_none,
      Refusal.finalization, failing, Option.map_some, outcomeOf]
  | overflow resolved unfailing large =>
    -- the only course that `fits` excludes
    have placed := Layout.ofSignature_of_fits (size_layoutOf order ▸ fits)
    rw [large] at placed
    cases placed
  | region laid missing =>
    have none : context.regions.any Region.kernargs = false := by
      rw [← List.findIdx?_isSome]
      exact Option.isSome_eq_false_iff.mpr (Option.isNone_iff_eq_none.mpr missing)
    simp only [laid.passed, Refusal.region, none, Bool.false_eq_true, if_false, outcomeOf]
  | layout laid first unsized =>
    rw [block_layoutOf] at unsized
    split at unsized
    · cases unsized
    · rename_i large
      obtain rfl := Except.error.inj unsized
      simp only [laid.passed, region_none first, Refusal.layout, if_neg large, outcomeOf]
  | @allocation _ _ _ index block laid first sized unplaced =>
    obtain ⟨inside, _⟩ := List.findIdx?_eq_some_iff_getElem.mp first
    have found := (find?_kernargs first).trans (List.getElem?_eq_getElem inside)
    have positive := Layout.block_positive sized
    obtain ⟨small, rfl⟩ := layout_none sized
    simp only [laid.passed, region_none first, small, Refusal.allocation, found, Region.allocate,
      if_neg positive, unplaced, outcomeOf]
  | argument placed unmarshaled =>
    have refused := marshalFrom_eq_error_iff.mp unmarshaled
    simp only [placed.toLaid.passed, placed.passed, Refusal.argument, refused, Option.map_some, outcomeOf]
  | dispatch filled refused =>
    simp only [filled.toLaid.passed, filled.toPlaced.passed, filled.argument_none,
      dispatch_of_refusal filled.toAdmitted refused, Option.map_some, outcomeOf]
  | ok filled accepted =>
    simp only [filled.toLaid.passed, filled.toPlaced.passed, filled.argument_none,
      dispatch_of_refusal filled.toAdmitted accepted, Option.map_none, outcomeOf]

def empty : LaunchOrder where
  handle := ⟨"", [], "scale", [.scalar (.signed .bits16)]⟩
  configuration := {}
  arguments := [.float 0]
  options := {}
  homes _ := 0

end Launch
end KernelLaunch
