import KernelLaunch.Bytes

/-! Parts of a byte list: reading a part, and putting as many other bytes in its place. What a
replacement does is said of single bytes first, so that several of them compose by cases on where
a byte stands. -/

namespace KernelLaunch.Bytes

/-- The part of a size from an offset on, or as much of it as there is. -/
def slice (bytes : Bytes) (offset size : Nat) : Bytes := (bytes.drop offset).take size

/-- The bytes with those from an offset on replaced. -/
def splice (bytes : Bytes) (offset : Nat) (content : Bytes) : Bytes :=
  bytes.take offset ++ content ++ bytes.drop (offset + content.length)

variable {bytes content : Bytes} {offset size : Nat}

theorem length_splice (inside : offset + content.length ≤ bytes.length) :
    (bytes.splice offset content).length = bytes.length := by
  simp only [splice, List.length_append, List.length_take, List.length_drop]
  omega

theorem getElem?_splice (inside : offset + content.length ≤ bytes.length) (index : Nat) :
    (bytes.splice offset content)[index]? =
      if offset ≤ index ∧ index < offset + content.length then content[index - offset]?
      else bytes[index]? := by
  have start : (bytes.take offset).length = offset := by
    rw [List.length_take]
    omega
  simp only [splice, List.append_assoc, List.getElem?_append, start]
  by_cases before : index < offset
  · have outside : ¬ (offset ≤ index ∧ index < offset + content.length) := by omega
    rw [if_pos before, if_neg outside, List.getElem?_take_of_lt before]
  · rw [if_neg before]
    by_cases within : index - offset < content.length
    · have covered : offset ≤ index ∧ index < offset + content.length := by omega
      rw [if_pos within, if_pos covered]
    · have outside : ¬ (offset ≤ index ∧ index < offset + content.length) := by omega
      have same : offset + content.length + (index - offset - content.length) = index := by omega
      rw [if_neg within, if_neg outside, List.getElem?_drop, same]

theorem getElem?_slice (bytes : Bytes) (offset size index : Nat) :
    (bytes.slice offset size)[index]? = if index < size then bytes[offset + index]? else none := by
  simp only [slice, List.getElem?_take, List.getElem?_drop]

theorem length_slice (inside : offset + size ≤ bytes.length) :
    (bytes.slice offset size).length = size := by
  simp only [slice, List.length_take, List.length_drop]
  omega

theorem slice_splice_self (inside : offset + content.length ≤ bytes.length) :
    (bytes.splice offset content).slice offset content.length = content := by
  apply List.ext_getElem?
  intro index
  rw [getElem?_slice]
  split
  · rename_i within
    have covered : offset ≤ offset + index ∧ offset + index < offset + content.length := by omega
    rw [getElem?_splice inside, if_pos covered, Nat.add_sub_cancel_left]
  · rename_i beyond
    rw [List.getElem?_eq_none (Nat.le_of_not_lt beyond)]

theorem slice_splice_apart (inside : offset + content.length ≤ bytes.length) {start : Nat}
    (apart : start + size ≤ offset ∨ offset + content.length ≤ start) :
    (bytes.splice offset content).slice start size = bytes.slice start size := by
  apply List.ext_getElem?
  intro index
  rw [getElem?_slice, getElem?_slice]
  split
  · have outside : ¬ (offset ≤ start + index ∧ start + index < offset + content.length) := by omega
    rw [getElem?_splice inside, if_neg outside]
  · rfl

/-- Two replacements side by side are one. -/
theorem splice_splice {front back : Bytes} (inside : offset + front.length + back.length ≤ bytes.length) :
    (bytes.splice offset front).splice (offset + front.length) back = bytes.splice offset (front ++ back) := by
  have first : offset + front.length ≤ bytes.length := by omega
  have second : offset + front.length + back.length ≤ (bytes.splice offset front).length := by
    rw [length_splice first]
    exact inside
  have both : offset + (front ++ back).length ≤ bytes.length := by
    rw [List.length_append]
    omega
  apply List.ext_getElem?
  intro index
  rw [getElem?_splice second, getElem?_splice first, getElem?_splice both, List.length_append,
    List.getElem?_append]
  by_cases early : index < offset + front.length
  · have notLater : ¬ (offset + front.length ≤ index ∧ index < offset + front.length + back.length) := by omega
    rw [if_neg notLater]
    by_cases within : offset ≤ index
    · rw [if_pos ⟨within, early⟩, if_pos (by omega), if_pos (by omega)]
    · rw [if_neg (by omega), if_neg (by omega)]
  · rw [if_neg (show ¬ (offset ≤ index ∧ index < offset + front.length) by omega)]
    by_cases later : index < offset + front.length + back.length
    · rw [if_pos (by omega), if_pos (by omega), if_neg (by omega)]
      congr 1
      omega
    · rw [if_neg (by omega), if_neg (by omega)]

end KernelLaunch.Bytes
