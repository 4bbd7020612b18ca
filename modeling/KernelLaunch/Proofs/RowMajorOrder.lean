import KernelLaunch.Proofs.StridedAccess

/-! Views of data without gaps. The strides are multiplied up from the last axis on, the elements counted from the
first, and the bytes added up along the axes. All three come to the same products of extents, so a view holds the
elements of its shape in lexicographic order, one after another from the base on. -/

namespace KernelLaunch
namespace ArrayView

/-! ### Places in row-major order -/

/-- How many elements of a shape stand before one in row-major order. -/
def place : (shape index : List Nat) → Nat
  | _ :: rest, coordinate :: index => coordinate * rest.prod + place rest index
  | _, _ => 0

variable {shape index other : List Nat}

theorem full_of_inside (inside : Inside shape index) : 0 ∉ shape := by
  induction inside with
  | nil => exact List.not_mem_nil
  | cons within _ ih =>
    rw [List.mem_cons, not_or]
    exact ⟨by omega, ih⟩

theorem place_lt (inside : Inside shape index) : place shape index < shape.prod := by
  induction inside with
  | nil => exact Nat.one_pos
  | @cons coordinate extent index rest within _ ih =>
    rw [place, List.prod_cons]
    calc coordinate * rest.prod + place rest index
      _ < coordinate * rest.prod + rest.prod := Nat.add_lt_add_left ih _
      _ = (coordinate + 1) * rest.prod := (Nat.succ_mul ..).symm
      _ ≤ extent * rest.prod := Nat.mul_le_mul_right _ within

/-- The coordinates of an element are the digits of its place, with the extents as bases. -/
theorem exists_index {position : Nat} (before : position < shape.prod) :
    ∃ index, Inside shape index ∧ place shape index = position := by
  induction shape generalizing position with
  | nil =>
    obtain rfl := Nat.lt_one_iff.mp before
    exact ⟨[], .nil, rfl⟩
  | cons extent rest ih =>
    rw [List.prod_cons] at before
    have positive : 0 < rest.prod := by
      by_contra none
      rw [Nat.eq_zero_of_not_pos none, Nat.mul_zero] at before
      exact Nat.not_lt_zero _ before
    obtain ⟨index, inside, same⟩ := ih (Nat.mod_lt position positive)
    refine ⟨position / rest.prod :: index, .cons ?_ inside, ?_⟩
    · exact (Nat.div_lt_iff_lt_mul positive).mpr before
    · rw [place, same, Nat.div_add_mod']

/-- Two numbers of one leading digit each compare by that digit first. -/
theorem leading_lt_iff {base first second low high : Nat} (lowFits : low < base) (highFits : high < base) :
    first * base + low < second * base + high ↔ first < second ∨ first = second ∧ low < high := by
  rcases Nat.lt_trichotomy first second with less | rfl | greater
  · have step := Nat.mul_le_mul_right base (Nat.succ_le_of_lt less)
    rw [Nat.succ_mul] at step
    simp only [less, true_or, iff_true]
    omega
  · simp
  · have step := Nat.mul_le_mul_right base (Nat.succ_le_of_lt greater)
    rw [Nat.succ_mul] at step
    simp only [Nat.not_lt_of_gt greater, Nat.ne_of_gt greater, false_and, or_self, iff_false]
    omega

theorem place_lt_iff (inside : Inside shape index) (otherInside : Inside shape other) :
    place shape index < place shape other ↔ index < other := by
  induction inside generalizing other with
  | nil =>
    cases otherInside
    simp [place]
  | @cons coordinate extent index rest _ within ih =>
    cases otherInside with
    | @cons otherCoordinate _ other _ _ otherWithin =>
      rw [place, place, leading_lt_iff (place_lt within) (place_lt otherWithin), ih otherWithin,
        List.cons_lt_cons_iff]

theorem place_injective (inside : Inside shape index) (otherInside : Inside shape other)
    (same : place shape index = place shape other) : index = other := by
  rcases lt_trichotomy index other with less | equal | greater
  · exact absurd ((place_lt_iff inside otherInside).mpr less) (same ▸ Nat.lt_irrefl _)
  · exact equal
  · exact absurd ((place_lt_iff otherInside inside).mpr greater) (same ▸ Nat.lt_irrefl _)

theorem place_corner (full : 0 ∉ shape) : place shape (corner shape) + 1 = shape.prod := by
  induction shape with
  | nil => rfl
  | cons extent rest ih =>
    rw [List.mem_cons, not_or] at full
    obtain ⟨before, rfl⟩ := Nat.exists_eq_succ_of_ne_zero (Ne.symm full.1)
    rw [corner_cons, place, Nat.add_assoc, ih full.2, List.prod_cons, Nat.succ_sub_one, Nat.succ_mul]

/-! ### Strides without gaps -/

/-- The number of elements if an empty axis had one. -/
def span (shape : List Nat) : Nat := (shape.map (max · 1)).prod

def packedStrides (size : Nat) : List Nat → List Int64
  | [] => []
  | _ :: rest => Int64.ofNat (size * span rest) :: packedStrides size rest

theorem span_pos (shape : List Nat) : 0 < span shape := by
  apply List.prod_pos
  intro extent member
  obtain ⟨_, _, rfl⟩ := List.mem_map.mp member
  omega

theorem span_cons (extent : Nat) (rest : List Nat) : span (extent :: rest) = max extent 1 * span rest :=
  List.prod_cons

theorem span_of_full (full : 0 ∉ shape) : span shape = shape.prod := by
  have unchanged : shape.map (max · 1) = shape.map id :=
    List.map_congr_left fun extent member => max_eq_left (extent_pos full member)
  rw [span, unchanged, List.map_id]

theorem rowMajor?_eq {size : Nat} (small : size ≤ objectLimit) (shape : List Nat) :
    rowMajor? size shape =
      if size * span shape ≤ objectLimit then some (packedStrides size shape, size * span shape) else none := by
  induction shape with
  | nil => simp [rowMajor?, packedStrides, span, small]
  | cons extent rest ih =>
    have next : size * span (extent :: rest) = size * span rest * max extent 1 := by
      rw [span_cons]
      ring
    have larger : size * span rest ≤ size * span rest * max extent 1 :=
      Nat.le_mul_of_pos_right _ (by omega)
    rw [rowMajor?, ih, next]
    by_cases fits : size * span rest ≤ objectLimit
    · simp only [if_pos fits, packedStrides]
    · simp only [if_neg fits]
      rw [if_neg (by omega)]

theorem length_packedStrides (size : Nat) (shape : List Nat) : (packedStrides size shape).length = shape.length := by
  induction shape with
  | nil => rfl
  | cons extent rest ih => exact congrArg (· + 1) ih

/-- No stride is so large that it would turn negative. -/
theorem toInt_stride {size extent : Nat} {rest : List Nat} (fits : size * span (extent :: rest) ≤ objectLimit) :
    (Int64.ofNat (size * span rest)).toInt = size * span rest ∧ size * span rest ≤ objectLimit := by
  have less : size * span rest ≤ size * span (extent :: rest) := by
    rw [span_cons]
    exact Nat.mul_le_mul_left _ (Nat.le_mul_of_pos_left _ (by omega))
  refine ⟨?_, less.trans fits⟩
  rw [toInt_ofNat_size (less.trans fits)]
  push_cast
  rfl

theorem forward_packedStrides {size : Nat} (fits : size * span shape ≤ objectLimit) :
    Forward (packedStrides size shape) := by
  induction shape with
  | nil => exact List.forall_mem_nil _
  | cons extent rest ih =>
    obtain ⟨stride, fewer⟩ := toInt_stride fits
    apply forward_cons.mpr
    refine ⟨?_, ih fewer⟩
    rw [stride]
    positivity

/-- The distance of an element from the base is what the elements in front of it take. -/
theorem distance_packedStrides {size : Nat} (fits : size * span shape ≤ objectLimit) (inside : Inside shape index) :
    distance (packedStrides size shape) index = size * place shape index := by
  induction inside with
  | nil => simp [place]
  | @cons coordinate extent index rest _ within ih =>
    obtain ⟨stride, fewer⟩ := toInt_stride fits
    rw [packedStrides, distance_cons, stride, ih fewer, span_of_full (full_of_inside within), place]
    push_cast
    ring

/-- The bytes up to the end of the last element are those of all elements. -/
theorem requiredBytes_packedStrides {size : Nat} (full : 0 ∉ shape) (fits : size * span shape ≤ objectLimit) :
    requiredBytes shape (packedStrides size shape) size = .ok (size * shape.prod) := by
  have limit : objectLimit < wordLimit := by decide
  apply (requiredBytes_eq_ok_iff (length_packedStrides size shape) full).mpr
  refine ⟨forward_packedStrides fits, ?_, ?_⟩
  · rw [distance_packedStrides fits (inside_corner full), ← place_corner full]
    push_cast
    ring
  · rw [span_of_full full] at fits
    omega

/-! ### What is accepted -/

variable {base : UInt64} {byteLength : Nat} {element : ScalarType}

theorem contiguous_eq_ok {view : ArrayView} :
    contiguous base byteLength element shape = .ok view ↔
      element.size * span shape ≤ objectLimit ∧
        strided base byteLength element shape (packedStrides element.size shape) = .ok view := by
  have small : element.size ≤ objectLimit := element.size_le.trans (by decide)
  rw [contiguous, rowMajor?_eq small]
  by_cases fits : element.size * span shape ≤ objectLimit
  · simp only [fits, if_true, true_and]
  · simp only [fits, if_false, false_and, reduceCtorEq]

/-- The stride to the left of the first axis, the number of elements and the last byte are checked apart. -/
theorem contiguous_accepts_iff :
    (∃ view, contiguous base byteLength element shape = .ok view) ↔
      element.size * span shape ≤ objectLimit ∧ (∃ count, elementCount? shape = some count) ∧
        ∃ needed, requiredBytes shape (packedStrides element.size shape) element.size = .ok needed ∧
          needed ≤ byteLength := by
  constructor
  · intro ⟨view, accepted⟩
    obtain ⟨fits, accepted⟩ := contiguous_eq_ok.mp accepted
    obtain ⟨_, counted, covered⟩ := strided_accepts_iff.mp ⟨view, accepted, rfl⟩
    exact ⟨fits, ⟨_, counted⟩, covered⟩
  · intro ⟨fits, ⟨count, counted⟩, covered⟩
    have ranks := length_packedStrides element.size shape
    obtain ⟨view, accepted, _⟩ := strided_accepts_iff.mpr ⟨ranks, counted, covered⟩
    exact ⟨view, contiguous_eq_ok.mpr ⟨fits, accepted⟩⟩

theorem contiguous_accepts_full {count : Nat} (full : 0 ∉ shape) (slice : count * element.size ≤ objectLimit) :
    (∃ view, contiguous base (count * element.size) element shape = .ok view) ↔ shape.prod ≤ count := by
  have positive := element.size_pos
  rw [contiguous_accepts_iff]
  constructor
  · intro ⟨fits, _, needed, required, enough⟩
    rw [requiredBytes_packedStrides full fits] at required
    obtain rfl := Except.ok.inj required
    rw [Nat.mul_comm] at enough
    exact Nat.le_of_mul_le_mul_right enough positive
  · intro enough
    have bytes : element.size * shape.prod ≤ count * element.size := by
      rw [Nat.mul_comm]
      exact Nat.mul_le_mul_right _ enough
    have fits : element.size * span shape ≤ objectLimit := by
      rw [span_of_full full]
      exact bytes.trans slice
    have counted : shape.prod ≤ objectLimit := (Nat.le_mul_of_pos_left _ positive).trans (bytes.trans slice)
    have counts := (elementCount?_of_full full).mpr ⟨rfl, counted⟩
    exact ⟨fits, ⟨_, counts⟩, _, requiredBytes_packedStrides full fits, bytes⟩

theorem le_span {extent : Nat} (member : extent ∈ shape) : extent ≤ span shape := by
  have positive : 0 ∉ shape.map (max · 1) := by simp
  exact (le_max_left extent 1).trans (le_prod_of_mem positive (List.mem_map_of_mem member))

/-- The products in front of an empty axis are no larger than the product that skips it. -/
theorem leadingProduct_le_span (shape : List Nat) : leadingProduct shape ≤ span shape := by
  induction shape with
  | nil => exact Nat.le_refl _
  | cons extent rest ih =>
    rw [span_cons]
    by_cases empty : extent = 0
    · subst empty
      have one : leadingProduct (0 :: rest) = 1 := by simp [leadingProduct]
      rw [one, Nat.zero_max, Nat.one_mul]
      exact span_pos rest
    · have front : leadingProduct (extent :: rest) = extent * leadingProduct rest := by
        simp [leadingProduct, empty]
      rw [front]
      exact Nat.mul_le_mul (le_max_left extent 1) ih

theorem contiguous_accepts_empty (empty : 0 ∈ shape) :
    (∃ view, contiguous base byteLength element shape = .ok view) ↔ element.size * span shape ≤ objectLimit := by
  have positive := element.size_pos
  rw [contiguous_accepts_iff]
  constructor
  · intro ⟨fits, _⟩
    exact fits
  · intro fits
    have small : span shape ≤ objectLimit := (Nat.le_mul_of_pos_left _ positive).trans fits
    have limit : objectLimit < wordLimit := by decide
    have none : shape.prod = 0 := List.prod_eq_zero empty
    have counted : elementCount? shape = some 0 := by
      apply elementCount?_eq_some_iff.mpr
      refine ⟨fun extent member => (le_span member).trans small, ?_, none, Nat.zero_le _⟩
      exact ((leadingProduct_le_span shape).trans small).trans_lt limit
    exact ⟨fits, ⟨0, counted⟩, 0, by rw [requiredBytes, if_pos empty], Nat.zero_le _⟩

/-! ### Where the elements lie -/

theorem contiguous_parts {view : ArrayView} (accepted : contiguous base byteLength element shape = .ok view) :
    element.size * span shape ≤ objectLimit ∧ view.base = base ∧ view.byteLength = byteLength ∧
      view.element = element ∧ view.shape = shape ∧ view.strides = packedStrides element.size shape ∧
      view.count = shape.prod := by
  obtain ⟨fits, accepted⟩ := contiguous_eq_ok.mp accepted
  obtain ⟨start, bytes, elements, axes, strides⟩ := strided_eq_ok accepted
  obtain ⟨_, _, product, _⟩ := elementCount?_eq_some_iff.mp view.counted
  exact ⟨fits, start, bytes, elements, axes, strides, by rw [← product, axes]⟩

theorem distance_lt_iff {size : Nat} (positive : 0 < size) (fits : size * span shape ≤ objectLimit)
    (inside : Inside shape index) (otherInside : Inside shape other) :
    distance (packedStrides size shape) index < distance (packedStrides size shape) other ↔ index < other := by
  rw [distance_packedStrides fits inside, distance_packedStrides fits otherInside, ← place_lt_iff inside otherInside]
  constructor
  · intro before
    exact Nat.lt_of_mul_lt_mul_left (a := size) (by exact_mod_cast before)
  · intro before
    exact_mod_cast Nat.mul_lt_mul_of_pos_left before positive

theorem distance_injective {size : Nat} (positive : 0 < size) (fits : size * span shape ≤ objectLimit)
    (inside : Inside shape index) (otherInside : Inside shape other)
    (same : distance (packedStrides size shape) index = distance (packedStrides size shape) other) :
    index = other := by
  rw [distance_packedStrides fits inside, distance_packedStrides fits otherInside] at same
  apply place_injective inside otherInside
  exact Nat.eq_of_mul_eq_mul_left positive (by exact_mod_cast same)

/-- The elements lie where the first so many of the data lie. -/
theorem exists_distance_iff {size : Nat} (fits : size * span shape ≤ objectLimit) {offset : Int} :
    (∃ index, Inside shape index ∧ distance (packedStrides size shape) index = offset) ↔
      ∃ position < shape.prod, offset = size * position := by
  constructor
  · rintro ⟨index, inside, rfl⟩
    exact ⟨_, place_lt inside, distance_packedStrides fits inside⟩
  · rintro ⟨position, before, rfl⟩
    obtain ⟨index, inside, rfl⟩ := exists_index before
    exact ⟨index, inside, distance_packedStrides fits inside⟩

/-- A slice as data, for a kernel to read or to write alike. What is accepted is a shape of no more elements than the
slice has, or one with an empty axis and products that fit an object without it. The elements of the view are those at
the front of the slice, in lexicographic order. -/
theorem contiguous_views (base : UInt64) (element : ScalarType) (shape : List Nat) {count : Nat}
    (slice : count * element.size ≤ objectLimit) :
    (0 ∉ shape →
      ((∃ view, contiguous base (count * element.size) element shape = .ok view) ↔ shape.prod ≤ count)) ∧
    (0 ∈ shape →
      ((∃ view, contiguous base (count * element.size) element shape = .ok view) ↔
        element.size * (shape.map (max · 1)).prod ≤ objectLimit)) ∧
    ∀ view, contiguous base (count * element.size) element shape = .ok view →
      view.base = base ∧ view.byteLength = count * element.size ∧ view.element = element ∧ view.shape = shape ∧
      view.count = shape.prod ∧ (0 ∈ shape → view.count = 0) ∧
      (∀ index, Inside shape index → distance view.strides index = element.size * place shape index) ∧
      (∀ index other, Inside shape index → Inside shape other →
        (distance view.strides index = distance view.strides other → index = other) ∧
        (distance view.strides index < distance view.strides other ↔ index < other)) ∧
      ∀ offset : Int, (∃ index, Inside shape index ∧ distance view.strides index = offset) ↔
        ∃ position < view.count, offset = element.size * position := by
  refine ⟨fun full => contiguous_accepts_full full slice, contiguous_accepts_empty, ?_⟩
  intro view accepted
  have positive := element.size_pos
  obtain ⟨fits, start, bytes, elements, axes, strides, total⟩ := contiguous_parts accepted
  refine ⟨start, bytes, elements, axes, total, fun empty => total.trans (List.prod_eq_zero empty), ?_⟩
  rw [strides, total]
  refine ⟨fun index inside => distance_packedStrides fits inside, ?_, fun offset => exists_distance_iff fits⟩
  intro index other inside otherInside
  exact ⟨distance_injective positive fits inside otherInside, distance_lt_iff positive fits inside otherInside⟩

/-- Two by three by four words fill a slice of 24. One of 23 has no room for them, but for an axis of any length if
another is empty. -/
theorem contiguous_views_words :
    24 * (ScalarType.unsigned .bits32).size ≤ objectLimit ∧ 23 * (ScalarType.unsigned .bits32).size ≤ objectLimit ∧
      (∃ view, contiguous 0 (24 * 4) (.unsigned .bits32) [2, 3, 4] = .ok view ∧
        distance view.strides [1, 2, 0] = 4 * 20) ∧
      (¬ ∃ view, contiguous 0 (23 * 4) (.unsigned .bits32) [2, 3, 4] = .ok view) ∧
      ∃ view, contiguous 0 (23 * 4) (.unsigned .bits32) [0, 2 ^ 60] = .ok view := by
  have filled : 24 * (ScalarType.unsigned .bits32).size ≤ objectLimit := by decide
  have fewer : 23 * (ScalarType.unsigned .bits32).size ≤ objectLimit := by decide
  have full : 0 ∉ [2, 3, 4] := by decide
  have inside : Inside [2, 3, 4] [1, 2, 0] := .cons (by decide) (.cons (by decide) (.cons (by decide) .nil))
  have room := contiguous_views 0 (.unsigned .bits32) [2, 3, 4] filled
  obtain ⟨view, accepted⟩ := (room.1 full).mpr (by decide)
  obtain ⟨_, _, _, _, _, _, far, _⟩ := room.2.2 view accepted
  refine ⟨filled, fewer, ⟨view, accepted, far _ inside⟩, ?_, ?_⟩
  · intro short
    exact absurd (((contiguous_views 0 (.unsigned .bits32) [2, 3, 4] fewer).1 full).mp short) (by decide)
  · exact ((contiguous_views 0 (.unsigned .bits32) [0, 2 ^ 60] fewer).2.1 (by decide)).mpr (by decide)

end ArrayView
end KernelLaunch
