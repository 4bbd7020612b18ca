import KernelLaunch.Proofs.FirstRefusal

/-! Argument buffers that are too large. Whether a size is that of an object is asked when the buffer
is allocated, and then a size that is too large is refused. But a size is multiplied and added up
before that, with overflows checked, and a total that no word holds ends the launch on the way. -/

namespace KernelLaunch

/-- The block has room for the reserved slots and for the range of every argument. -/
structure Block.Covers (block : Block) (layout : Layout) : Prop where
  reserved : layout.injectedBytes ≤ block.size
  ranges : ∀ range ∈ layout.ranges, range.offset + range.size ≤ block.size

namespace Layout

theorem Sound.covers {layout : Layout} (sound : layout.Sound) {block : Block}
    (sized : layout.block = .ok block) : block.Covers layout := by
  have enough := size_le_block sized
  constructor
  case reserved => exact Nat.le_trans sound.reserved enough
  case ranges =>
    intro range member
    exact Nat.le_trans (sound.within range member) enough

/-- A size is refused for one reason only, and not because the buffer is small. -/
theorem block_eq_error {layout : Layout} {cause : MarshalError} (unsized : layout.block = .error cause) :
    cause = .unallocatable ∧ objectLimit - (kernargAlignment - 1) < layout.size := by
  simp only [Layout.block] at unsized
  split at unsized
  · cases unsized
  · rename_i large
    refine ⟨(Except.error.inj unsized).symm, ?_⟩
    simp only [objectLimit, kernargAlignment, slotSize] at large ⊢
    omega

end Layout

namespace Launch

/-- The reasons that count before the sizes of the arguments are added up. -/
def Refusal.early (context : Context) (order : LaunchOrder) : Option LaunchError :=
  [arity order, stream context order, image order, missingSymbol order,
    finalization context order].findSome? id

/-- How a launch ends, whatever its sizes are: a total that no word holds counts after the reasons that
are early and before all others. -/
def settled (context : Context) (order : LaunchOrder) : Outcome :=
  match Refusal.early context order with
  | some cause => refuse cause
  | none =>
    match Layout.ofSignature order.options.abi order.handle.types with
    | .error kind => .error (.overflow kind)
    | .ok _ => outcomeOf (Refusal.first context order)

variable {context : Context} {order : LaunchOrder} {queue : Queue} {table : SymbolTable} {offset : UInt64}

theorem Resolved.early_none (resolved : Resolved context order queue table offset)
    (unfailing : context.finalizer.failure = none) : Refusal.early context order = none := by
  simp only [Refusal.early, List.findSome?_cons, List.findSome?_nil, id, resolved.arity_none,
    resolved.stream_none, resolved.image_none, resolved.symbol_none, finalization_none unfailing]

theorem Laid.settled_eq (laid : Laid context order queue table offset) :
    settled context order = (context.launch order).1 := by
  have fits := laid.fits
  change (layoutOf order).size < wordLimit at fits
  rw [size_layoutOf] at fits
  simp only [settled, laid.early_none laid.unfailing, Layout.ofSignature_of_fits laid.fits,
    launch_outcome context order fits]

theorem launch_settled (context : Context) (order : LaunchOrder) :
    (context.launch order).1 = settled context order := by
  have course := launch_course context order
  have laid_settled {queue : Queue} {table : SymbolTable} {offset : UInt64}
      (laid : Laid context order queue table offset) : (context.launch order).1 = settled context order :=
    laid.settled_eq.symm
  generalize (context.launch order).1 = outcome, (context.launch order).2.1 = after at course laid_settled ⊢
  cases course with
  | arity differs =>
    simp only [settled, Refusal.early, List.findSome?_cons, id, Refusal.arity, if_neg differs]
  | stream arity named missing =>
    have enough : Refusal.arity order = none := if_pos arity
    simp only [settled, Refusal.early, List.findSome?_cons, id, enough, Refusal.stream, named, missing,
      Option.isSome_none, Bool.false_eq_true, if_false]
  | image admitted unparsed =>
    simp only [settled, Refusal.early, List.findSome?_cons, id, admitted.arity_none,
      admitted.stream_none, Refusal.image, unparsed]
  | symbol admitted parsed missing =>
    have absent := SymbolTable.find?_eq_none_iff.mp missing
    simp only [settled, Refusal.early, List.findSome?_cons, id, admitted.arity_none,
      admitted.stream_none, Refusal.image, Refusal.missingSymbol, parsed, if_neg absent]
  | finalization resolved failing =>
    simp only [settled, Refusal.early, List.findSome?_cons, id, resolved.arity_none,
      resolved.stream_none, resolved.image_none, resolved.symbol_none, Refusal.finalization, failing,
      Option.map_some]
  | overflow resolved unfailing large => simp only [settled, resolved.early_none unfailing, large]
  | region laid | layout laid | allocation laid => exact laid_settled laid
  | argument placed => exact laid_settled placed.toLaid
  | dispatch filled | ok filled => exact laid_settled filled.toLaid

theorem ofSignature_order (order : LaunchOrder) :
    Layout.ofSignature order.options.abi order.handle.types =
      if wordLimit ≤ order.options.abi.injected * slotSize then .error .multiplication
      else if wordLimit ≤ slotSize * slotTotal order then .error .addition
      else .ok (layoutOf order) := by
  rw [Layout.ofSignature_eq, ← size_layoutOf]
  rfl

theorem settled_overflow_iff :
    (∃ kind, settled context order = .error (.overflow kind)) ↔
      Refusal.early context order = none ∧ wordLimit ≤ slotSize * slotTotal order := by
  have reserved : order.options.abi.injected * slotSize ≤ slotSize * slotTotal order := by
    rw [Nat.mul_comm]
    exact Nat.mul_le_mul_left slotSize (Nat.le_add_right ..)
  unfold settled
  cases Refusal.early context order with
  | some cause => exact ⟨nofun, nofun⟩
  | none =>
    rw [ofSignature_order]
    by_cases start : wordLimit ≤ order.options.abi.injected * slotSize
    · rw [if_pos start]
      exact ⟨fun _ => ⟨rfl, Nat.le_trans start reserved⟩, fun _ => ⟨_, rfl⟩⟩
    · rw [if_neg start]
      by_cases total : wordLimit ≤ slotSize * slotTotal order
      · rw [if_pos total]
        exact ⟨fun _ => ⟨rfl, total⟩, fun _ => ⟨_, rfl⟩⟩
      · rw [if_neg total]
        constructor
        · rintro ⟨kind, overflows⟩
          simp only [outcomeOf] at overflows
          split at overflows <;> cases overflows
        · rintro ⟨_, large⟩
          exact absurd large total

/-- A size that a word holds is allocated with room for everything written, or refused as too large. A
total that no word holds is told as an overflow, and of a launch just when no early reason applies. -/
theorem launch_sizes (context : Context) (order : LaunchOrder) :
    Layout.ofSignature order.options.abi order.handle.types =
      (if wordLimit ≤ order.options.abi.injected * slotSize then .error .multiplication
      else if wordLimit ≤ slotSize * slotTotal order then .error .addition
      else .ok (layoutOf order)) ∧
    (∀ block, (layoutOf order).block = .ok block → block.Covers (layoutOf order)) ∧
    (∀ cause, (layoutOf order).block = .error cause →
      cause = .unallocatable ∧ objectLimit - (kernargAlignment - 1) < (layoutOf order).size) ∧
    (context.launch order).1 = settled context order ∧
    ((∃ kind, (context.launch order).1 = .error (.overflow kind)) ↔
      Refusal.early context order = none ∧ wordLimit ≤ slotSize * slotTotal order) := by
  refine ⟨ofSignature_order order, ?_, fun _ => Layout.block_eq_error, launch_settled context order, ?_⟩
  · intro block sized
    exact (Layout.sound_ofFitting ..).covers sized
  · rw [launch_settled]
    exact settled_overflow_iff

/-- An environment that asks for the fewest reserved slots whose size no word holds. -/
def crowding : Environment := .ofList [("HSA_LAUNCH_INJECTED_ARGS", Bytes.ofText "2305843009213693952")]

def crowded : LaunchOrder where
  handle := ⟨"", Image.build [⟨"&k", 64⟩, ⟨"&j", 128⟩, ⟨"plain", 0⟩], "k", []⟩
  configuration := {}
  arguments := []
  options := (Options.fromEnvironment crowding).1
  homes _ := 0

/-- The launch is not refused for the size of its arguments. -/
theorem launch_crowded :
    crowded.options.abi.injected = 2305843009213693952 ∧
      (Context.standard.launch crowded).1 = .error (.overflow .multiplication) := by
  refine ⟨by decide +kernel, ?_⟩
  rw [launch_settled]
  rfl

end Launch
end KernelLaunch
