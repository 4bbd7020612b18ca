import Mathlib.Algebra.Group.Nat.Defs
import KernelLaunch.Proofs.WriteOrder

/-! Where the parts of an argument buffer stand. An argument begins where the buffer of the arguments before it
would end, so its offset is a whole number of slots and owes nothing to the arguments behind it. Every byte
belongs to one part and one only. A buffer can be laid out and still be larger than any object in memory; the
block that it is given otherwise has room for all parts. -/

namespace KernelLaunch
namespace Layout

/-- The reserved slots and the ranges of the arguments share no byte, and together they are all bytes of the
buffer. -/
structure Tiled (layout : Layout) : Prop where
  bounded : ∀ write position, layout.Covers write position → position < layout.size
  total : ∀ position, position < layout.size → ∃ write, layout.Covers write position
  unique : ∀ first second position, layout.Covers first position → layout.Covers second position → first = second

section
variable {layout : Layout} {position : Nat}

theorem lt_of_covers_reserved (covers : layout.Covers .reserved position) : position < layout.injectedBytes := by
  obtain ⟨part, partAt, _, before⟩ := covers
  obtain rfl := Option.some.inj partAt
  rw [Nat.zero_add] at before
  exact before

theorem Sound.behind_of_covers (sound : layout.Sound) {index : Nat}
    (covers : layout.Covers (.argument index) position) : layout.injectedBytes ≤ position := by
  obtain ⟨range, rangeAt, start, _⟩ := covers
  exact Nat.le_trans (sound.behind range (List.mem_of_getElem? rangeAt)) start

theorem Sound.not_covers_later (sound : layout.Sound) {first second : Nat} (earlier : first < second)
    (one : layout.Covers (.argument first) position) : ¬ layout.Covers (.argument second) position := by
  rintro ⟨after, afterAt, start, _⟩
  obtain ⟨before, beforeAt, _, stop⟩ := one
  have ordered := sound.ordered earlier beforeAt afterAt
  omega

/-- Parts that share a byte are one part. -/
theorem Sound.unique (sound : layout.Sound) {first second : Write} (one : layout.Covers first position)
    (other : layout.Covers second position) : first = second := by
  cases first with
  | reserved =>
    cases second with
    | reserved => rfl
    | argument index =>
      have before := lt_of_covers_reserved one
      exact absurd (sound.behind_of_covers other) (Nat.not_le.mpr before)
  | argument index =>
    cases second with
    | reserved =>
      have before := lt_of_covers_reserved other
      exact absurd (sound.behind_of_covers one) (Nat.not_le.mpr before)
    | argument place =>
      rcases Nat.lt_trichotomy index place with earlier | rfl | later
      · exact absurd other (sound.not_covers_later earlier one)
      · rfl
      · exact absurd one (sound.not_covers_later later other)

theorem tiled_ofFitting (abi : Abi) (types : List ArgType) : (ofFitting abi types).Tiled where
  bounded := by
    rintro write position ⟨part, partAt, _, before⟩
    exact Nat.lt_of_lt_of_le before ((sound_ofFitting abi types).part_within partAt)
  total := by
    intro position inside
    obtain ⟨write, _, covers⟩ := covers_of_lt inside
    exact ⟨write, covers⟩
  unique _ _ _ := (sound_ofFitting abi types).unique

end

section
variable {abi : Abi} {types front : List ArgType} {index : Nat} {type : ArgType}

/-- An argument begins where the buffer of the arguments before it would end. -/
theorem offset?_ofFitting (typeAt : types[index]? = some type) :
    (ofFitting abi types).offset? index = some (totalBytes abi (types.take index)) := by
  rw [offset?, getElem?_ranges abi typeAt, Option.map_some, totalBytes]

theorem totalBytes_take_succ (typeAt : types[index]? = some type) :
    totalBytes abi (types.take (index + 1)) = totalBytes abi (types.take index) + type.slotBytes := by
  rw [totalBytes, List.take_add_one, typeAt, bytesOf_append, Option.toList_some, bytesOf_cons, bytesOf_nil,
    Nat.add_zero, ← Nat.add_assoc, totalBytes]

theorem slotSize_dvd_totalBytes (abi : Abi) (types : List ArgType) : slotSize ∣ totalBytes abi types :=
  Nat.dvd_add (Nat.dvd_mul_left ..) (Nat.dvd_mul_right ..)

theorem totalBytes_le_of_isPrefix (starts : front <+: types) : totalBytes abi front ≤ totalBytes abi types := by
  obtain ⟨back, rfl⟩ := starts
  rw [totalBytes, totalBytes, bytesOf_append]
  omega

/-- What begins a signature that fits, fits, and its arguments stand where they stand in the whole. -/
theorem ofSignature_of_isPrefix (starts : front <+: types) (fits : totalBytes abi types < wordLimit) :
    ofSignature abi front = .ok (ofFitting abi front) ∧
      ∀ index, index < front.length → (ofFitting abi front).offset? index = (ofFitting abi types).offset? index := by
  refine ⟨ofSignature_of_fits (Nat.lt_of_le_of_lt (totalBytes_le_of_isPrefix starts) fits), ?_⟩
  obtain ⟨back, rfl⟩ := starts
  intro index inside
  have typeAt := List.getElem?_eq_getElem inside
  have wholeAt : (front ++ back)[index]? = some front[index] := (List.getElem?_append_left inside).trans typeAt
  rw [offset?_ofFitting typeAt, offset?_ofFitting wholeAt, List.take_append_of_le_length (Nat.le_of_lt inside)]

end

theorem exists_block_iff (layout : Layout) :
    (∃ block, layout.block = .ok block) ↔
      max layout.size slotSize ≤ objectLimit - (kernargAlignment - 1) := by
  by_cases small : max layout.size slotSize ≤ objectLimit - (kernargAlignment - 1)
  · exact ⟨fun _ => small, fun _ => ⟨_, if_pos small⟩⟩
  · refine ⟨?_, fun large => absurd large small⟩
    rintro ⟨block, sized⟩
    simp only [Layout.block, if_neg small, reduceCtorEq] at sized

/-- A layout puts the arguments behind the reserved slots in declared order, each in its own whole slots and at
once behind the one before it, so the parts tile the buffer and the front of a signature is laid out as in the
whole. There is a block for it just when its size, of one slot at least, is that of an aligned object; then the
block is not empty and has room for every part. -/
theorem slots_contiguous {abi : Abi} {types : List ArgType} {layout : Layout}
    (placed : ofSignature abi types = .ok layout) :
    (layout.injectedBytes = 8 * abi.injected ∧ ∀ index, layout.offset? index = none ↔ types.length ≤ index) ∧
    (types ≠ [] → layout.offset? 0 = some (8 * abi.injected)) ∧
    (∀ index type, types[index]? = some type → ∃ offset,
      layout.offset? index = some offset ∧ 8 ∣ offset ∧
      layout.part? (.argument index) = some ⟨offset, 8 * type.slotCount⟩ ∧
      (index + 1 < types.length → layout.offset? (index + 1) = some (offset + 8 * type.slotCount))) ∧
    layout.Tiled ∧
    (∀ front, front <+: types → ∃ shorter, ofSignature abi front = .ok shorter ∧
      ∀ index, index < front.length → shorter.offset? index = layout.offset? index) ∧
    ((∃ block, layout.block = .ok block) ↔ max layout.size 8 ≤ 2 ^ 63 - 16) ∧
    ∀ block, layout.block = .ok block →
      (∀ write part, layout.part? write = some part → part.offset + part.size ≤ block.size) ∧
      block.size ≠ 0 ∧ block.align = 16 := by
  have count := argumentCount_of_ofSignature placed
  obtain ⟨fits, rfl⟩ := ofSignature_eq_ok_iff.mp placed
  refine ⟨⟨Nat.mul_comm .., ?_⟩, ?_, ?_, tiled_ofFitting abi types, ?_, exists_block_iff _, ?_⟩
  · intro index
    rw [offset?, Option.map_eq_none_iff, List.getElem?_eq_none_iff, ← count, argumentCount]
  · intro nonempty
    obtain ⟨type, rest, rfl⟩ := List.exists_cons_of_ne_nil nonempty
    have start : totalBytes abi [] = 8 * abi.injected := Nat.mul_comm ..
    have found : (type :: rest)[0]? = some type := rfl
    rw [offset?_ofFitting found, List.take_zero, start]
  · intro index type typeAt
    refine ⟨totalBytes abi (types.take index), offset?_ofFitting typeAt, slotSize_dvd_totalBytes _ _,
      getElem?_ranges abi typeAt, ?_⟩
    intro inside
    have nextAt := List.getElem?_eq_getElem inside
    rw [offset?_ofFitting nextAt, totalBytes_take_succ typeAt]
    rfl
  · intro front starts
    exact ⟨_, ofSignature_of_isPrefix starts fits⟩
  · intro block sized
    refine ⟨?_, block_positive sized, congrArg Block.align (block_eq_ok sized)⟩
    intro write part partAt
    exact Nat.le_trans ((sound_ofFitting abi types).part_within partAt) (size_le_block sized)

/-- A wide argument, one without a native form and an array, in the largest buffer that has a block. The wide one
alone stands where it does here, and one more reserved slot is laid out but has no block. -/
theorem slots_contiguous_largest :
    let types : List ArgType := [.scalar (.complex .double), .boolean, .array (.real .single) 1]
    let layout : Layout := ⟨1152921504606846970,
      [⟨9223372036854775760, 16⟩, ⟨9223372036854775776, 8⟩, ⟨9223372036854775784, 8⟩], 9223372036854775792⟩
    let wider : Layout := ⟨1152921504606846971,
      [⟨9223372036854775768, 16⟩, ⟨9223372036854775784, 8⟩, ⟨9223372036854775792, 8⟩], 9223372036854775800⟩
    ofSignature ⟨1152921504606846970⟩ types = .ok layout ∧
      ofSignature ⟨1152921504606846971⟩ types = .ok wider ∧
      layout.offset? 1 = some (9223372036854775760 + 16) ∧
      (∃ write, layout.Covers write 9223372036854775791) ∧
      (∃ shorter, ofSignature ⟨1152921504606846970⟩ [.scalar (.complex .double)] = .ok shorter ∧
        shorter.offset? 0 = some 9223372036854775760) ∧
      (∃ block, layout.block = .ok block ∧ 9223372036854775792 ≤ block.size ∧ block.align = 16) ∧
      ¬ ∃ block, wider.block = .ok block := by
  intro types layout wider
  have placed : ofSignature ⟨1152921504606846970⟩ types = .ok layout := rfl
  have placedWider : ofSignature ⟨1152921504606846971⟩ types = .ok wider := rfl
  obtain ⟨_, _, arguments, tiled, fronts, allocatable, blocks⟩ := slots_contiguous placed
  obtain ⟨_, _, _, _, _, tooLarge, _⟩ := slots_contiguous placedWider
  have beyond : ¬ max wider.size 8 ≤ 2 ^ 63 - 16 := by decide
  refine ⟨placed, placedWider, ?_, tiled.total _ (by decide), ?_, ?_, fun sized => beyond (tooLarge.mp sized)⟩
  · obtain ⟨offset, offsetAt, _, _, next⟩ := arguments 0 _ rfl
    obtain rfl := Option.some.inj offsetAt
    exact next (by decide)
  · obtain ⟨shorter, placedShorter, same⟩ := fronts [.scalar (.complex .double)] ⟨_, rfl⟩
    exact ⟨shorter, placedShorter, same 0 (by decide)⟩
  · obtain ⟨block, sized⟩ := allocatable.mpr (by decide)
    obtain ⟨room, _, aligned⟩ := blocks block sized
    exact ⟨block, sized, room (.argument 2) _ rfl, aligned⟩

end Layout
end KernelLaunch
