import KernelLaunch.Kernarg.Layout
import KernelLaunch.Proofs.Splice

/-! Where a layout places arguments. The range of an argument begins behind those of all arguments
before it, so the ranges follow one another without gaps from the reserved slots to the end of the
buffer. -/

namespace KernelLaunch
namespace Layout

def slotsOf : List ArgType → Nat
  | [] => 0
  | type :: types => type.slotCount + slotsOf types

def bytesOf (types : List ArgType) : Nat := slotSize * slotsOf types

/-- The ranges of arguments from an offset on, when all of them fit a word. -/
def rangesFrom (offset : Nat) : List ArgType → List SlotRange
  | [] => []
  | type :: types => ⟨offset, type.slotBytes⟩ :: rangesFrom (offset + type.slotBytes) types

@[simp] theorem bytesOf_nil : bytesOf [] = 0 := rfl

@[simp] theorem bytesOf_cons (type : ArgType) (types : List ArgType) :
    bytesOf (type :: types) = type.slotBytes + bytesOf types :=
  Nat.mul_add ..

theorem bytesOf_append (front back : List ArgType) : bytesOf (front ++ back) = bytesOf front + bytesOf back := by
  induction front with
  | nil => rw [List.nil_append, bytesOf_nil, Nat.zero_add]
  | cons type front ih => rw [List.cons_append, bytesOf_cons, bytesOf_cons, ih, Nat.add_assoc]

theorem getElem?_rangesFrom (offset : Nat) (types : List ArgType) (index : Nat) :
    (rangesFrom offset types)[index]? =
      types[index]?.map fun type => ⟨offset + bytesOf (types.take index), type.slotBytes⟩ := by
  induction types generalizing offset index with
  | nil => rfl
  | cons type types ih =>
    cases index with
    | zero => rfl
    | succ index =>
      simp only [rangesFrom, List.getElem?_cons_succ, List.take_succ_cons, bytesOf_cons]
      rw [ih, Nat.add_assoc]

theorem length_rangesFrom (offset : Nat) (types : List ArgType) :
    (rangesFrom offset types).length = types.length := by
  induction types generalizing offset with
  | nil => rfl
  | cons type types ih => simp only [rangesFrom, List.length_cons, ih]

theorem mem_rangesFrom {offset : Nat} {types : List ArgType} {range : SlotRange}
    (member : range ∈ rangesFrom offset types) :
    offset ≤ range.offset ∧ range.offset + range.size ≤ offset + bytesOf types := by
  induction types generalizing offset with
  | nil => cases member
  | cons type types ih =>
    rw [bytesOf_cons]
    rcases List.mem_cons.mp member with rfl | later
    · simp only
      omega
    · have bounds := ih later
      omega

theorem pairwise_rangesFrom (offset : Nat) (types : List ArgType) :
    (rangesFrom offset types).Pairwise fun first second =>
      first.offset + first.size ≤ second.offset := by
  induction types generalizing offset with
  | nil => exact .nil
  | cons type types ih =>
    refine .cons ?_ (ih _)
    intro range member
    exact (mem_rangesFrom member).1

/-- Placing arguments succeeds just when their end fits a word, and then at these ranges. -/
theorem place_eq {offset : Nat} (fits : offset < wordLimit) (types : List ArgType) :
    place offset types =
      if offset + bytesOf types < wordLimit then .ok (rangesFrom offset types, offset + bytesOf types)
      else .error .addition := by
  induction types generalizing offset with
  | nil =>
    rw [bytesOf_nil, Nat.add_zero, if_pos fits]
    rfl
  | cons type types ih =>
    rw [bytesOf_cons, ← Nat.add_assoc]
    -- every sum is checked on the way, but ends only grow: the last one decides
    by_cases next : offset + type.slotBytes < wordLimit
    · simp only [place, addWords_of_lt next, ih next]
      by_cases whole : offset + type.slotBytes + bytesOf types < wordLimit
      · simp only [if_pos whole, rangesFrom]
      · simp only [if_neg whole]
    · have large := Nat.le_of_not_lt next
      have beyond : ¬ offset + type.slotBytes + bytesOf types < wordLimit := by omega
      simp only [place, addWords_of_le large, if_neg beyond]

/-- The whole buffer as a number of bytes, whether a word holds it or not. -/
def totalBytes (abi : Abi) (types : List ArgType) : Nat := abi.injected * slotSize + bytesOf types

def ofFitting (abi : Abi) (types : List ArgType) : Layout :=
  ⟨abi.injected, rangesFrom (abi.injected * slotSize) types, totalBytes abi types⟩

theorem getElem?_ranges (abi : Abi) {types : List ArgType} {index : Nat} {type : ArgType}
    (typeAt : types[index]? = some type) :
    (ofFitting abi types).ranges[index]? =
      some ⟨abi.injected * slotSize + bytesOf (types.take index), type.slotBytes⟩ := by
  rw [ofFitting, getElem?_rangesFrom, typeAt, Option.map_some]

theorem exists_type_of_ranges {abi : Abi} {types : List ArgType} {index : Nat} {range : SlotRange}
    (found : (ofFitting abi types).ranges[index]? = some range) :
    ∃ type, types[index]? = some type ∧
      range = ⟨abi.injected * slotSize + bytesOf (types.take index), type.slotBytes⟩ := by
  rw [ofFitting, getElem?_rangesFrom] at found
  obtain ⟨type, typeAt, rfl⟩ := Option.map_eq_some_iff.mp found
  exact ⟨type, typeAt, rfl⟩

/-- The reserved slots are multiplied out first, and then the arguments are added to them. -/
theorem ofSignature_eq (abi : Abi) (types : List ArgType) :
    ofSignature abi types =
      if wordLimit ≤ abi.injected * slotSize then .error .multiplication
      else if wordLimit ≤ totalBytes abi types then .error .addition
      else .ok (ofFitting abi types) := by
  by_cases start : wordLimit ≤ abi.injected * slotSize
  · simp only [ofSignature, mulWords_of_le start, if_pos start]
  · have small := Nat.lt_of_not_le start
    rw [if_neg start]
    by_cases large : wordLimit ≤ totalBytes abi types
    · have beyond : ¬ abi.injected * slotSize + bytesOf types < wordLimit := Nat.not_lt.mpr large
      simp only [ofSignature, mulWords_of_lt small, place_eq small, if_neg beyond, if_pos large]
    · have fits : abi.injected * slotSize + bytesOf types < wordLimit := Nat.lt_of_not_le large
      simp only [ofSignature, mulWords_of_lt small, place_eq small, if_pos fits, if_neg large]
      rfl

theorem ofSignature_of_fits {abi : Abi} {types : List ArgType}
    (fits : totalBytes abi types < wordLimit) : ofSignature abi types = .ok (ofFitting abi types) := by
  have start : abi.injected * slotSize < wordLimit := Nat.lt_of_le_of_lt (Nat.le_add_right ..) fits
  rw [ofSignature_eq, if_neg (Nat.not_le.mpr start), if_neg (Nat.not_le.mpr fits)]

theorem fits_of_ofSignature {abi : Abi} {types : List ArgType} {layout : Layout}
    (placed : ofSignature abi types = .ok layout) : totalBytes abi types < wordLimit := by
  apply Nat.lt_of_not_le
  intro large
  rw [ofSignature_eq, if_pos large] at placed
  split at placed <;> cases placed

/-- A signature has a layout just when its total fits a word, and then it is this one. -/
theorem ofSignature_eq_ok_iff {abi : Abi} {types : List ArgType} {layout : Layout} :
    ofSignature abi types = .ok layout ↔
      totalBytes abi types < wordLimit ∧ layout = ofFitting abi types := by
  constructor
  · intro placed
    have fits := fits_of_ofSignature placed
    rw [ofSignature_of_fits fits] at placed
    exact ⟨fits, (Except.ok.inj placed).symm⟩
  · rintro ⟨fits, rfl⟩
    exact ofSignature_of_fits fits

theorem block_eq_ok {layout : Layout} {block : Block} (sized : layout.block = .ok block) :
    block = ⟨max layout.size slotSize, kernargAlignment⟩ := by
  simp only [Layout.block] at sized
  split at sized
  · exact (Except.ok.inj sized).symm
  · cases sized

theorem size_le_block {layout : Layout} {block : Block} (sized : layout.block = .ok block) :
    layout.size ≤ block.size := by
  rw [block_eq_ok sized]
  exact Nat.le_max_left ..

theorem block_positive {layout : Layout} {block : Block} (sized : layout.block = .ok block) :
    block.size ≠ 0 := by
  rw [block_eq_ok sized]
  simp only [slotSize]
  omega

/-- The ranges of a layout follow one another behind the reserved slots and end inside the buffer. -/
structure Sound (layout : Layout) : Prop where
  reserved : layout.injectedBytes ≤ layout.size
  behind : ∀ range ∈ layout.ranges, layout.injectedBytes ≤ range.offset
  within : ∀ range ∈ layout.ranges, range.offset + range.size ≤ layout.size
  apart : layout.ranges.Pairwise fun first second => first.offset + first.size ≤ second.offset

theorem sound_ofFitting (abi : Abi) (types : List ArgType) : (ofFitting abi types).Sound where
  reserved := Nat.le_add_right ..
  behind _ member := (mem_rangesFrom member).1
  within _ member := (mem_rangesFrom member).2
  apart := pairwise_rangesFrom ..

theorem sound_of_ofSignature {abi : Abi} {types : List ArgType} {layout : Layout}
    (placed : ofSignature abi types = .ok layout) : layout.Sound := by
  rw [(ofSignature_eq_ok_iff.mp placed).2]
  exact sound_ofFitting abi types

theorem argumentCount_of_ofSignature {abi : Abi} {types : List ArgType} {layout : Layout}
    (placed : ofSignature abi types = .ok layout) : layout.argumentCount = types.length := by
  obtain ⟨_, rfl⟩ := ofSignature_eq_ok_iff.mp placed
  exact length_rangesFrom ..

/-- Of two different arguments of a layout, the earlier one ends before the later one begins. -/
theorem Sound.ordered {layout : Layout} (sound : layout.Sound) {first second : Nat}
    {before after : SlotRange} (earlier : first < second)
    (firstAt : layout.ranges[first]? = some before) (secondAt : layout.ranges[second]? = some after) :
    before.offset + before.size ≤ after.offset := by
  obtain ⟨firstInside, rfl⟩ := List.getElem?_eq_some_iff.mp firstAt
  obtain ⟨secondInside, rfl⟩ := List.getElem?_eq_some_iff.mp secondAt
  exact List.pairwise_iff_getElem.mp sound.apart first second firstInside secondInside earlier

end Layout
end KernelLaunch
