import KernelLaunch.ArrayView
import Mathlib

/-! Where the elements of a strided view lie. The checks of a view look at one element only, the one at the
far end of every axis. Strides that never go back make it the last one in memory, so data that holds it
holds all others, and a view that was accepted never leads outside its data. -/

namespace KernelLaunch
namespace ArrayView

/-! ### The number of elements -/

theorem extent_pos {shape : List Nat} (full : 0 ∉ shape) {extent : Nat} (member : extent ∈ shape) :
    0 < extent :=
  Nat.pos_of_ne_zero fun empty => full (empty ▸ member)

/-- The product of the extents in front of the first empty axis. -/
def leadingProduct (shape : List Nat) : Nat := (shape.takeWhile (· ≠ 0)).prod

theorem leadingProduct_pos (shape : List Nat) : 0 < leadingProduct shape := by
  apply List.prod_pos
  intro extent member
  have nonzero : extent ≠ 0 := by simpa using List.mem_takeWhile_imp member
  omega

theorem leadingProduct_of_full {shape : List Nat} (full : 0 ∉ shape) : leadingProduct shape = shape.prod := by
  have whole : shape.takeWhile (· ≠ 0) = shape := by
    apply List.takeWhile_eq_self_iff.mpr
    intro extent member
    simpa using Nat.ne_of_gt (extent_pos full member)
  rw [leadingProduct, whole]

theorem productWithin_zero (shape : List Nat) : productWithin 0 shape = some 0 := by
  induction shape with
  | nil => rfl
  | cons extent rest ih =>
    rw [productWithin, Nat.zero_mul, if_pos (by decide), ih]

/-- Only the products in front of the first empty axis can be too large: behind it all of them are zero. -/
theorem productWithin_eq {count : Nat} (positive : 0 < count) (fits : count < wordLimit) (shape : List Nat) :
    productWithin count shape =
      if count * leadingProduct shape < wordLimit then some (count * shape.prod) else none := by
  induction shape generalizing count with
  | nil => simp [productWithin, leadingProduct, fits]
  | cons extent rest ih =>
    rw [productWithin]
    by_cases empty : extent = 0
    · subst empty
      have front : leadingProduct (0 :: rest) = 1 := by simp [leadingProduct]
      rw [front, Nat.mul_one, if_pos fits, Nat.mul_zero, if_pos (by decide), productWithin_zero,
        List.prod_cons, Nat.zero_mul, Nat.mul_zero]
    · have front : leadingProduct (extent :: rest) = extent * leadingProduct rest := by
        simp [leadingProduct, empty]
      rw [front, List.prod_cons, ← Nat.mul_assoc, ← Nat.mul_assoc]
      by_cases next : count * extent < wordLimit
      · rw [if_pos next, ih (Nat.mul_pos positive (Nat.pos_of_ne_zero empty)) next]
      · have larger := Nat.le_mul_of_pos_right (count * extent) (leadingProduct_pos rest)
        rw [if_neg next, if_neg (by omega)]

theorem elementCount?_eq_some_iff {shape : List Nat} {count : Nat} :
    elementCount? shape = some count ↔
      (∀ extent ∈ shape, extent ≤ objectLimit) ∧ leadingProduct shape < wordLimit ∧
        shape.prod = count ∧ count ≤ objectLimit := by
  simp only [elementCount?, productWithin_eq Nat.one_pos (by decide : 1 < wordLimit), Nat.one_mul]
  by_cases leads : leadingProduct shape < wordLimit <;> simp [leads]

theorem le_prod_of_mem {shape : List Nat} (full : 0 ∉ shape) {extent : Nat} (member : extent ∈ shape) :
    extent ≤ shape.prod := by
  have positive : 0 < shape.prod := by
    apply List.prod_pos
    intro other present
    exact extent_pos full present
  exact Nat.le_of_dvd positive (List.dvd_prod member)

/-- Without an empty axis only the number of elements itself decides. -/
theorem elementCount?_of_full {shape : List Nat} (full : 0 ∉ shape) {count : Nat} :
    elementCount? shape = some count ↔ shape.prod = count ∧ count ≤ objectLimit := by
  rw [elementCount?_eq_some_iff, leadingProduct_of_full full]
  constructor
  · intro ⟨_, _, counted⟩
    exact counted
  · rintro ⟨rfl, small⟩
    refine ⟨?_, ?_, rfl, small⟩
    · intro extent member
      exact Nat.le_trans (le_prod_of_mem full member) small
    · exact Nat.lt_of_le_of_lt small (by decide)

/-! ### The element that lies farthest -/

/-- The coordinates are those of an element: one for each axis, within its extent. -/
def Inside (shape index : List Nat) : Prop := List.Forall₂ (· < ·) index shape

/-- How far from the base an element lies, in bytes. A stride may lead back, so this is a signed number. -/
def distance (strides : List Int64) (index : List Nat) : Int :=
  (List.zipWith (fun (coordinate : Nat) (stride : Int64) => coordinate * stride.toInt) index strides).sum

/-- The coordinates of the element at the far end of every axis. -/
def corner (shape : List Nat) : List Nat := shape.map (· - 1)

def Forward (strides : List Int64) : Prop := ∀ stride ∈ strides, 0 ≤ stride.toInt

@[simp] theorem distance_nil (strides : List Int64) : distance strides [] = 0 := rfl

@[simp] theorem distance_cons (stride : Int64) (strides : List Int64) (coordinate : Nat) (index : List Nat) :
    distance (stride :: strides) (coordinate :: index) = coordinate * stride.toInt + distance strides index :=
  rfl

@[simp] theorem corner_cons (extent : Nat) (shape : List Nat) :
    corner (extent :: shape) = (extent - 1) :: corner shape :=
  rfl

theorem forward_cons {stride : Int64} {strides : List Int64} :
    Forward (stride :: strides) ↔ 0 ≤ stride.toInt ∧ Forward strides :=
  List.forall_mem_cons

theorem distance_nonneg {strides : List Int64} (forward : Forward strides) (index : List Nat) :
    0 ≤ distance strides index := by
  induction strides generalizing index with
  | nil => simp [distance]
  | cons stride strides ih =>
    cases index with
    | nil => simp
    | cons coordinate index =>
      obtain ⟨first, rest⟩ := forward_cons.mp forward
      rw [distance_cons]
      exact Int.add_nonneg (Int.mul_nonneg (Int.natCast_nonneg coordinate) first) (ih rest index)

theorem inside_corner {shape : List Nat} (full : 0 ∉ shape) : Inside shape (corner shape) := by
  induction shape with
  | nil => exact .nil
  | cons extent shape ih =>
    rw [List.mem_cons, not_or] at full
    apply List.Forall₂.cons _ (ih full.2)
    exact Nat.sub_one_lt fun empty => full.1 empty.symm

/-- No element lies behind the corner. -/
theorem distance_le_corner {shape index : List Nat} {strides : List Int64} (forward : Forward strides)
    (inside : Inside shape index) : distance strides index ≤ distance strides (corner shape) := by
  induction inside generalizing strides with
  | nil => exact Int.le_refl _
  | @cons coordinate extent index shape within rest ih =>
    cases strides with
    | nil => exact Int.le_refl _
    | cons stride strides =>
      obtain ⟨first, others⟩ := forward_cons.mp forward
      rw [corner_cons, distance_cons, distance_cons]
      apply Int.add_le_add
      · apply Int.mul_le_mul_of_nonneg_right _ first
        omega
      · exact ih others

/-- The walk to the end of each axis ends at the corner, if no stride leads back and all words suffice. -/
theorem farthest_eq_ok_iff {whole shape : List Nat} {strides : List Int64} {reached last : Nat}
    (ranks : strides.length = shape.length) (start : reached < wordLimit) :
    farthest whole reached (shape.zip strides) = .ok last ↔
      Forward strides ∧ reached + distance strides (corner shape) = last ∧ last < wordLimit := by
  induction shape generalizing strides reached with
  | nil =>
    obtain rfl := List.length_eq_zero_iff.mp ranks
    simp only [List.zip_nil_left, farthest, Except.ok.injEq]
    constructor
    · rintro rfl
      exact ⟨nofun, Int.add_zero _, start⟩
    · intro ⟨_, same, _⟩
      exact Int.natCast_inj.mp ((Int.add_zero _).symm.trans same)
  | cons extent shape ih =>
    cases strides with
    | nil => cases ranks
    | cons stride strides =>
      have lengths : strides.length = shape.length := Nat.succ.inj ranks
      rw [List.zip_cons_cons, farthest, forward_cons, corner_cons, distance_cons, ← Int.add_assoc]
      by_cases back : stride < 0
      · have negative : stride.toInt < 0 := Int64.lt_iff_toInt_lt.mp back
        rw [if_pos back]
        constructor
        · intro impossible
          cases impossible
        · intro ⟨⟨first, _⟩, _⟩
          omega
      · have first : 0 ≤ stride.toInt := Int.not_lt.mp fun negative => back (Int64.lt_iff_toInt_lt.mpr negative)
        have step : ((reached + (extent - 1) * stride.toInt.toNat : Nat) : Int) =
            reached + ((extent - 1 : Nat) : Int) * stride.toInt := by
          rw [Int.natCast_add, Int.natCast_mul, Int.toNat_of_nonneg first]
        rw [if_neg back, ← step]
        by_cases next : reached + (extent - 1) * stride.toInt.toNat < wordLimit
        · rw [if_pos next, ih lengths next]
          simp only [first, true_and]
        · rw [if_neg next]
          constructor
          · intro impossible
            cases impossible
          · -- what is left of the way is not negative, so the end lies beyond this point
            intro ⟨⟨_, rest⟩, reaches, last_lt⟩
            have further := distance_nonneg rest (corner shape)
            omega

theorem requiredBytes_eq_ok_iff {shape : List Nat} {strides : List Int64} {size needed : Nat}
    (ranks : strides.length = shape.length) (full : 0 ∉ shape) :
    requiredBytes shape strides size = .ok needed ↔
      Forward strides ∧ distance strides (corner shape) + size = needed ∧ needed < wordLimit := by
  have start : 0 < wordLimit := by decide
  rw [requiredBytes, if_neg full]
  constructor
  · intro required
    cases walked : farthest shape 0 (shape.zip strides) with
    | error cause => simp only [walked, reduceCtorEq] at required
    | ok last =>
      obtain ⟨forward, reaches, _⟩ := (farthest_eq_ok_iff ranks start).mp walked
      simp only [walked] at required
      split at required
      · rename_i fits
        obtain rfl := Except.ok.inj required
        exact ⟨forward, by omega, fits⟩
      · cases required
  · intro ⟨forward, reaches, fits⟩
    have nonneg := distance_nonneg forward (corner shape)
    have walked : farthest shape 0 (shape.zip strides) = .ok (distance strides (corner shape)).toNat := by
      apply (farthest_eq_ok_iff ranks start).mpr
      exact ⟨forward, by omega, by omega⟩
    have total : (distance strides (corner shape)).toNat + size = needed := by omega
    simp only [walked, total, if_pos fits]

/-! ### What is accepted -/

/-- Every view is what the checks make of its own data. -/
theorem strided_self (view : ArrayView) :
    strided view.base view.byteLength view.element view.shape view.strides = .ok view := by
  obtain ⟨needed, needs, fits⟩ := view.covered
  unfold strided
  rw [dif_pos view.ranks]
  split
  · rename_i uncounted
    rw [view.counted] at uncounted
    cases uncounted
  · rename_i count counted
    rw [view.counted] at counted
    obtain rfl := Option.some.inj counted
    split
    · rename_i cause unmet
      rw [needs] at unmet
      cases unmet
    · rename_i other met
      rw [needs] at met
      obtain rfl := Except.ok.inj met
      rw [dif_pos fits]

theorem strided_eq_ok {base : UInt64} {byteLength : Nat} {element : ScalarType} {shape : List Nat}
    {strides : List Int64} {view : ArrayView}
    (accepted : strided base byteLength element shape strides = .ok view) :
    view.base = base ∧ view.byteLength = byteLength ∧ view.element = element ∧ view.shape = shape ∧
      view.strides = strides := by
  unfold strided at accepted
  split at accepted
  · split at accepted
    · cases accepted
    · split at accepted
      · cases accepted
      · split at accepted
        · obtain rfl := Except.ok.inj accepted
          exact ⟨rfl, rfl, rfl, rfl, rfl⟩
        · cases accepted
  · cases accepted

/-- Three checks, one after another, and nothing else. -/
theorem strided_accepts_iff {base : UInt64} {byteLength : Nat} {element : ScalarType} {shape : List Nat}
    {strides : List Int64} {count : Nat} :
    (∃ view, strided base byteLength element shape strides = .ok view ∧ view.count = count) ↔
      strides.length = shape.length ∧ elementCount? shape = some count ∧
        ∃ needed, requiredBytes shape strides element.size = .ok needed ∧ needed ≤ byteLength := by
  constructor
  · rintro ⟨view, accepted, rfl⟩
    obtain ⟨rfl, rfl, rfl, rfl, rfl⟩ := strided_eq_ok accepted
    exact ⟨view.ranks, view.counted, view.covered⟩
  · intro ⟨ranks, counted, covered⟩
    exact ⟨_, strided_self ⟨base, byteLength, element, shape, strides, count, ranks, counted, covered⟩, rfl⟩

theorem full_of_not_isEmpty {view : ArrayView} (occupied : view.isEmpty = false) : 0 ∉ view.shape := by
  intro empty
  obtain ⟨_, _, product, _⟩ := elementCount?_eq_some_iff.mp view.counted
  rw [List.prod_eq_zero empty] at product
  simp [isEmpty, ← product] at occupied

/-- The bytes of the element at these coordinates are bytes of the data. -/
def LiesIn (byteLength size : Nat) (strides : List Int64) (index : List Nat) : Prop :=
  0 ≤ distance strides index ∧ distance strides index + size ≤ byteLength

theorem liesIn_of_requiredBytes {shape index : List Nat} {strides : List Int64} {byteLength size needed : Nat}
    (ranks : strides.length = shape.length) (full : 0 ∉ shape)
    (required : requiredBytes shape strides size = .ok needed) (enough : needed ≤ byteLength)
    (inside : Inside shape index) : LiesIn byteLength size strides index := by
  obtain ⟨forward, reaches, _⟩ := (requiredBytes_eq_ok_iff ranks full).mp required
  have before := distance_le_corner forward inside
  constructor
  · exact distance_nonneg forward index
  · omega

/-- With no empty axis, a view is accepted just when its number of elements is within the size of an object,
no stride leads back and the element at every place of its shape lies in the data. So no place in the shape
of a view that has elements leads outside its data. -/
theorem elements_inside {base : UInt64} {byteLength : Nat} {element : ScalarType} {shape : List Nat}
    {strides : List Int64} (addressed : byteLength < wordLimit) (full : 0 ∉ shape) :
    ((∃ view, strided base byteLength element shape strides = .ok view) ↔
      strides.length = shape.length ∧ shape.prod ≤ objectLimit ∧ (∀ stride ∈ strides, 0 ≤ stride.toInt) ∧
        ∀ index, Inside shape index → LiesIn byteLength element.size strides index) ∧
    ∀ view : ArrayView, view.isEmpty = false → ∀ index, Inside view.shape index →
      LiesIn view.byteLength view.itemSize view.strides index := by
  refine ⟨⟨?_, ?_⟩, ?_⟩
  · intro ⟨view, accepted⟩
    obtain ⟨ranks, counted, needed, required, enough⟩ := strided_accepts_iff.mp ⟨view, accepted, rfl⟩
    obtain ⟨product, small⟩ := (elementCount?_of_full full).mp counted
    obtain ⟨forward, _, _⟩ := (requiredBytes_eq_ok_iff ranks full).mp required
    refine ⟨ranks, product.trans_le small, forward, ?_⟩
    intro index inside
    exact liesIn_of_requiredBytes ranks full required enough inside
  · intro ⟨ranks, small, forward, covered⟩
    obtain ⟨nonneg, ends⟩ := covered (corner shape) (inside_corner full)
    have required : requiredBytes shape strides element.size =
        .ok ((distance strides (corner shape)).toNat + element.size) := by
      apply (requiredBytes_eq_ok_iff ranks full).mpr
      exact ⟨forward, by omega, by omega⟩
    have counted := (elementCount?_of_full full).mpr ⟨rfl, small⟩
    have enough : (distance strides (corner shape)).toNat + element.size ≤ byteLength := by omega
    obtain ⟨view, accepted, _⟩ := strided_accepts_iff.mpr ⟨ranks, counted, _, required, enough⟩
    exact ⟨view, accepted⟩
  · intro view occupied index inside
    obtain ⟨needed, required, enough⟩ := view.covered
    exact liesIn_of_requiredBytes view.ranks (full_of_not_isEmpty occupied) required enough inside

/-- Three rows of two, eight bytes apart, of which both columns are the same: the last element ends with the
data, and with one element less the view is refused. -/
theorem elements_inside_broadcast :
    18 < wordLimit ∧ 0 ∉ [3, 2] ∧
      (∃ view, strided 0 18 (.unsigned .bits16) [3, 2] [8, 0] = .ok view) ∧
      LiesIn 18 2 [8, 0] [2, 1] ∧ ¬ ∃ view, strided 0 16 (.unsigned .bits16) [3, 2] [8, 0] = .ok view := by
  have full : 0 ∉ [3, 2] := by decide
  have accepted : ∃ view, strided 0 18 (.unsigned .bits16) [3, 2] [8, 0] = .ok view := ⟨_, rfl⟩
  have last : Inside [3, 2] [2, 1] := .cons (by decide) (.cons (by decide) .nil)
  obtain ⟨_, _, _, covered⟩ := (elements_inside (by decide) full).1.mp accepted
  refine ⟨by decide, full, accepted, covered _ last, ?_⟩
  intro short
  obtain ⟨_, _, _, covered⟩ := (elements_inside (by decide) full).1.mp short
  exact absurd (covered _ last).2 (by decide)

end ArrayView
end KernelLaunch
