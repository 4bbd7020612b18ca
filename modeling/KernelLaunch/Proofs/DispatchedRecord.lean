import KernelLaunch.Proofs.LaunchCourse

/-! What a launch that ends well leaves on its queue, byte for byte. The argument bytes are described
from the signature and the values alone, without the way in which they were written. -/

namespace KernelLaunch
namespace Launch

/-- Where the argument at an index begins: behind the reserved slots and those of all arguments
before it. -/
def offsetOf (order : LaunchOrder) (index : Nat) : Nat :=
  slotSize * (order.options.abi.injected + Layout.slotsOf (order.handle.types.take index))

/-- A record of this launch: its sizes, its code, and every argument in its place. -/
structure Faithful (context : Context) (order : LaunchOrder) (record : DispatchRecord) : Prop where
  grid : record.grid = order.configuration.geometry.global
  workgroup : record.workgroup = order.configuration.geometry.workgroup
  code : ∃ table offset, Image.parse order.handle.image = .ok table ∧
    table.find? (symbol order) = some offset ∧
    record.code = ⟨context.finalizer.finalizations + 1, offset, context.agent⟩
  length : record.kernargs.length = max slotSize (slotSize * slotTotal order)
  arity : order.arguments.length = order.handle.types.length
  reserved : record.kernargs.slice 0 (slotSize * order.options.abi.injected) =
    List.replicate (slotSize * order.options.abi.injected) 0
  /-- The bytes of an array are the address at which the descriptor of that very array is kept. -/
  arguments : ∀ (index : Nat) (value : ArgValue) (type : ArgType),
    order.arguments[index]? = some value → order.handle.types[index]? = some type →
    ∃ slot, marshal (order.homes index) value type = .ok slot ∧
      Encodes (order.homes index) type value slot.cell.bytes ∧
      (layoutOf order).offset? index = some (offsetOf order index) ∧
      record.kernargs.slice (offsetOf order index) type.slotBytes =
        slot.cell.bytes ++ List.replicate (type.slotBytes - slot.cell.bytes.length) 0

theorem range_layoutOf {order : LaunchOrder} {index : Nat} {type : ArgType}
    (typeAt : order.handle.types[index]? = some type) :
    (layoutOf order).ranges[index]? = some ⟨offsetOf order index, type.slotBytes⟩ := by
  rw [layoutOf, Layout.getElem?_ranges _ typeAt, Layout.bytesOf, offsetOf, Nat.mul_add,
    Nat.mul_comm _ slotSize]

theorem injectedBytes_layoutOf (order : LaunchOrder) :
    (layoutOf order).injectedBytes = slotSize * order.options.abi.injected :=
  Nat.mul_comm ..

variable {context : Context} {order : LaunchOrder} {queue : Queue} {table : SymbolTable} {offset : UInt64}
  {index : Nat} {region : Region} {block : Block} {address : UInt64} {slots : List Slot} {bytes : Bytes}

theorem Filled.faithful
    (filled : Filled context order queue table offset index region block address slots bytes) :
    Faithful context order (recordOf (submissionOf order (context.nextCode offset)
      (kernargs region address block bytes) slots)) where
  grid := rfl
  workgroup := rfl
  code := ⟨table, offset, filled.parsed, filled.found, rfl⟩
  length := by
    change bytes.length = _
    rw [fill_length filled.filled, List.length_replicate, Layout.block_eq_ok filled.sized, size_layoutOf,
      Nat.max_comm]
  arity := filled.arity
  reserved := by
    have holds := holds_of_fill (Layout.sound_ofFitting ..) filled.filled
    rw [← injectedBytes_layoutOf]
    exact holds.reserved
  arguments := by
    intro place value type valueAt typeAt
    have holds := holds_of_fill (Layout.sound_ofFitting ..) filled.filled
    obtain ⟨slot, slotAt, converted⟩ := (marshalFrom_eq_ok filled.marshaled).2 place value type valueAt typeAt
    rw [Nat.zero_add] at converted
    have range := range_layoutOf typeAt
    refine ⟨slot, converted, encodes_of_marshal converted, ?_, ?_⟩
    · rw [Layout.offset?, range, Option.map_some]
    · exact holds.arguments place _ slot range slotAt

/-- A launch that ends well adds one record to its queue, a faithful one, and its region keeps the
argument bytes of that record. -/
theorem launch_record (context : Context) (order : LaunchOrder)
    (ended : (context.launch order).1 = .ok ()) :
    ∃ queue record index region served,
      context.queue? order.configuration.stream = some queue ∧
      (context.launch order).2.1.queue? order.configuration.stream =
        some { queue with records := queue.records ++ [record] } ∧
      Faithful context order record ∧
      context.kernargIndex? = some index ∧ context.regions[index]? = some region ∧
      (context.launch order).2.1.regions[index]? = some served ∧
      served.freed = region.freed ++ [⟨region.nextId, record.kernargs⟩] := by
  have course := launch_course context order
  generalize (context.launch order).1 = outcome, (context.launch order).2.1 = after at course ended ⊢
  cases course with
  | @ok queue table offset index region block address slots bytes filled accepted =>
    obtain ⟨inside, _⟩ := List.getElem?_eq_some_iff.mp filled.available.present
    have chosen : context.finalized.queue? order.configuration.stream = some queue :=
      (Context.queue?_congr rfl rfl _).trans filled.chosen
    refine ⟨queue, _, index, region, region.served bytes, filled.chosen, ?_, filled.faithful, filled.first,
      filled.available.present, ?_, rfl⟩
    · refine (Context.queue?_congr rfl rfl _).trans (?_ : (context.finalized.recorded _ _).queue? _ = _)
      rw [Context.recorded, Context.queue?_updateQueue, chosen, Option.map_some]
    · rw [Context.setRegion, Context.recorded, (Context.updateQueue_frame ..).1]
      exact List.getElem?_set_self inside
  | _ => cases ended

def scaled : LaunchOrder where
  handle := ⟨"", Image.build [⟨"&other", 64⟩, ⟨"&scale", 128⟩], "scale",
    [.scalar (.signed .bits16), .scalar (.complex .single)]⟩
  configuration := {}
  arguments := [.int (-2), .int 3]
  options := { abi := ⟨1⟩ }
  homes _ := 0

theorem launch_record_scaled :
    (Context.standard.launch scaled).1 = .ok () ∧
      ∃ record, (Context.standard.launch scaled).2.1.defaultQueue.records = [record] ∧
        Faithful .standard scaled record ∧ record.code.offset = 128 ∧
        record.kernargs = List.replicate 8 0 ++ [254, 255, 0, 0, 0, 0, 0, 0] ++ [0, 0, 64, 64, 0, 0, 0, 0] := by
  obtain ⟨queue, record, _, _, _, chosen, after, faithful, _⟩ := launch_record .standard scaled rfl
  cases chosen
  have records : (Context.standard.launch scaled).2.1.defaultQueue.records = [record] :=
    congrArg Queue.records (Option.some.inj after)
  have whole : (Context.standard.launch scaled).2.1.defaultQueue.records.map
      (fun record => (record.code.offset, record.kernargs)) =
      [(128, List.replicate 8 0 ++ [254, 255, 0, 0, 0, 0, 0, 0] ++ [0, 0, 64, 64, 0, 0, 0, 0])] := rfl
  rw [records] at whole
  obtain ⟨entry, bytes⟩ := Prod.mk.inj (List.cons.inj whole).1
  exact ⟨rfl, record, records, faithful, entry, bytes⟩

end Launch
end KernelLaunch
