import KernelLaunch.Descriptor
import KernelLaunch.Proofs.IntegerCells
import KernelLaunch.Proofs.Splice
import KernelLaunch.Proofs.StridedAccess

/-! What a kernel learns of an array from its descriptor. Sizes become signed words without a check of their own. The
checks of a view leave no size that a signed word has not, even beside an empty axis, so the array can be read back
from the words, and the words from the bytes. -/

namespace KernelLaunch

/-! ### Words as bytes -/

namespace Bytes

theorem toInt_word (word : Int64) : (littleEndian 8 word.toUInt64.toNat).toInt = word.toInt := by
  have small : word.toUInt64.toNat < 256 ^ 8 := word.toUInt64.toNat_lt
  have pattern : word.toInt = word.toUInt64.toBitVec.toInt := rfl
  rw [toInt, length_littleEndian, toNat_littleEndian, Nat.mod_eq_of_lt small, pattern, BitVec.toInt_eq_toNat_cond]
  rfl

variable {α : Type} {encode : α → Bytes} {size : Nat}

theorem length_flatMap (sizes : ∀ item, (encode item).length = size) (items : List α) :
    (items.flatMap encode).length = size * items.length := by
  induction items with
  | nil => rfl
  | cons item items ih =>
    rw [List.flatMap_cons, List.length_append, sizes, ih, List.length_cons, Nat.mul_succ, Nat.add_comm]

/-- Where all parts are of one size, the bytes of a part are found by its number. -/
theorem slice_flatMap (sizes : ∀ item, (encode item).length = size) {items : List α} {index : Nat}
    (within : index < items.length) : slice (items.flatMap encode) (size * index) size = encode items[index] := by
  induction items generalizing index with
  | nil => exact absurd within (Nat.not_lt_zero _)
  | cons item items ih =>
    rw [List.flatMap_cons]
    cases index with
    | zero =>
      rw [Nat.mul_zero, slice, List.drop_zero]
      exact List.take_left' (sizes item)
    | succ index =>
      have next : size * (index + 1) = (encode item).length + size * index := by
        rw [sizes, Nat.mul_succ, Nat.add_comm]
      rw [next, slice, List.drop_length_add_append]
      exact ih (Nat.lt_of_succ_lt_succ within)

end Bytes

namespace Descriptor

theorem length_bytes (descriptor : Descriptor) : descriptor.bytes.length = descriptor.byteSize :=
  Bytes.length_flatMap (fun _ => Bytes.length_littleEndian ..) descriptor.words

/-- Reading the bytes eight at a time gives the words. -/
theorem toInt_bytes (descriptor : Descriptor) :
    (List.range descriptor.words.length).map (fun index => (descriptor.bytes.slice (8 * index) 8).toInt) =
      descriptor.words.map Int64.toInt := by
  apply List.ext_getElem
  · simp only [List.length_map, List.length_range]
  · intro index _ within
    rw [List.length_map] at within
    rw [List.getElem_map, List.getElem_map, List.getElem_range, bytes,
      Bytes.slice_flatMap (fun _ => Bytes.length_littleEndian ..) within, Bytes.toInt_word]

/-! ### The array in words -/

variable (view : ArrayView)

theorem length_words : (ofView view).words.length = headerWords + 2 * view.rank := by
  have axes : view.strides.length = view.rank := view.ranks
  rw [ofView, List.length_append, List.length_append, List.length_map, axes, ArrayView.rank]
  simp only [List.length_cons, List.length_nil, headerWords]
  omega

theorem shape_ofView : (ofView view).shape = view.shape.map Int64.ofNat := by
  have axes : (view.shape.map Int64.ofNat).length = view.rank := List.length_map ..
  exact List.take_left' axes

theorem strides_ofView : (ofView view).strides = view.strides := by
  have axes : (view.shape.map Int64.ofNat).length = view.rank := List.length_map ..
  apply List.drop_left'
  rw [List.length_append, axes]
  rfl

/-- The header and both lists of axes are all there is, each word in one of them. -/
theorem words_ofView :
    (ofView view).words =
      [(ofView view).memoryInfo, (ofView view).parent, (ofView view).itemCount, (ofView view).itemSize,
        (ofView view).data.toInt64] ++ (ofView view).shape ++ (ofView view).strides := by
  rw [shape_ofView, strides_ofView]
  rfl

theorem toInt_itemCount : (ofView view).itemCount.toInt = view.count := by
  obtain ⟨_, _, _, small⟩ := ArrayView.elementCount?_eq_some_iff.mp view.counted
  exact toInt_ofNat_size small

theorem toInt_itemSize : (ofView view).itemSize.toInt = view.itemSize :=
  toInt_ofNat_size (view.element.size_le.trans (by decide))

/-- An extent is checked by itself. An empty axis makes the number of elements small, whatever the others are. -/
theorem toInt_shape : (ofView view).shape.map Int64.toInt = view.shape.map Nat.cast := by
  obtain ⟨small, _⟩ := ArrayView.elementCount?_eq_some_iff.mp view.counted
  rw [shape_ofView, List.map_map]
  apply List.map_congr_left
  intro extent member
  exact toInt_ofNat_size (small extent member)

theorem ofView_eq_iff {first second : ArrayView} :
    ofView first = ofView second ↔
      first.base = second.base ∧ first.itemSize = second.itemSize ∧ first.shape = second.shape ∧
        first.strides = second.strides := by
  constructor
  · intro same
    have base : first.base = second.base := congrArg data same
    have size : (first.itemSize : Int) = second.itemSize := by rw [← toInt_itemSize, same, toInt_itemSize]
    have shape : first.shape.map (Nat.cast : Nat → Int) = second.shape.map Nat.cast := by
      rw [← toInt_shape, same, toInt_shape]
    have strides : first.strides = second.strides := by rw [← strides_ofView, same, strides_ofView]
    exact ⟨base, Int.ofNat_inj.mp size, List.map_injective_iff.mpr Nat.cast_injective shape, strides⟩
  · intro ⟨base, size, shape, strides⟩
    -- the number of elements is no fact of its own: the shape decides it
    have count : first.count = second.count := by
      have counted := first.counted
      rw [shape, second.counted] at counted
      exact (Option.some.inj counted).symm
    rw [ofView, ofView, ArrayView.rank, ArrayView.rank, base, size, shape, strides, count]

/-- Nothing of an array is lost in its descriptor, and nothing else decides it. -/
theorem words_faithful (view : ArrayView) :
    let descriptor := ofView view
    descriptor.rank = view.rank ∧ descriptor.words.length = 5 + 2 * view.rank ∧
      (descriptor.memoryInfo = 0 ∧ descriptor.parent = 0 ∧ descriptor.itemCount.toInt = view.count ∧
        descriptor.itemSize.toInt = view.itemSize ∧ descriptor.data = view.base ∧
        descriptor.shape.map Int64.toInt = view.shape.map Nat.cast ∧ descriptor.strides = view.strides) ∧
      (descriptor.shape.length = view.rank ∧ descriptor.strides.length = view.rank ∧
        descriptor.words =
          [descriptor.memoryInfo, descriptor.parent, descriptor.itemCount, descriptor.itemSize,
            descriptor.data.toInt64] ++ descriptor.shape ++ descriptor.strides) ∧
      (descriptor.byteSize = 8 * (5 + 2 * view.rank) ∧ descriptor.bytes.length = descriptor.byteSize ∧
        (List.range descriptor.words.length).map (fun index => (descriptor.bytes.slice (8 * index) 8).toInt) =
          descriptor.words.map Int64.toInt) ∧
      ∀ other : ArrayView, descriptor = ofView other ↔
        view.base = other.base ∧ view.itemSize = other.itemSize ∧ view.shape = other.shape ∧
          view.strides = other.strides := by
  intro descriptor
  have size : descriptor.words.length = 5 + 2 * view.rank := length_words view
  have shape : descriptor.shape.length = view.rank := by
    rw [shape_ofView, List.length_map]
    rfl
  have strides : descriptor.strides.length = view.rank := by
    rw [strides_ofView]
    exact view.ranks
  refine ⟨rfl, size, ⟨rfl, rfl, toInt_itemCount view, toInt_itemSize view, rfl, toInt_shape view,
    strides_ofView view⟩, ⟨shape, strides, words_ofView view⟩, ⟨?_, length_bytes descriptor, toInt_bytes descriptor⟩,
    fun _ => ofView_eq_iff⟩
  rw [byteSize, size]

end Descriptor
end KernelLaunch
