import KernelLaunch.Proofs.StridedAccess

/-! The order of the axes of a view. Extents and strides stay paired when axes change places, and neither the
number of elements nor the last byte depends on the places. But the number is multiplied up from the first
axis on, and each product on the way must fit a word: an empty axis ends that only for the axes behind it. -/

namespace KernelLaunch
namespace ArrayView

/-- Data with these axes, each an extent and a stride, is accepted and has so many elements. -/
def Accepts (base : UInt64) (byteLength : Nat) (element : ScalarType) (axes : List (Nat × Int64))
    (count : Nat) : Prop :=
  ∃ view, strided base byteLength element (axes.map Prod.fst) (axes.map Prod.snd) = .ok view ∧
    view.count = count

variable {base : UInt64} {byteLength : Nat} {element : ScalarType} {axes other : List (Nat × Int64)}

theorem accepts_iff {count : Nat} :
    Accepts base byteLength element axes count ↔
      elementCount? (axes.map Prod.fst) = some count ∧
        ∃ needed, requiredBytes (axes.map Prod.fst) (axes.map Prod.snd) element.size = .ok needed ∧
          needed ≤ byteLength := by
  have ranks : (axes.map Prod.snd).length = (axes.map Prod.fst).length := by simp only [List.length_map]
  rw [Accepts, strided_accepts_iff]
  exact ⟨And.right, And.intro ranks⟩

theorem distance_corner_axes (axes : List (Nat × Int64)) :
    distance (axes.map Prod.snd) (corner (axes.map Prod.fst)) =
      (axes.map fun axis => ((axis.1 - 1 : Nat) : Int) * axis.2.toInt).sum := by
  induction axes with
  | nil => rfl
  | cons axis axes ih =>
    simp only [List.map_cons, corner_cons, distance_cons, List.sum_cons, ih]

theorem forward_axes : Forward (axes.map Prod.snd) ↔ ∀ axis ∈ axes, 0 ≤ axis.2.toInt :=
  List.forall_mem_map

/-- The bytes that the data must hold are the same in any order. -/
theorem requiredBytes_reordered (reordered : axes.Perm other) {size needed : Nat}
    (required : requiredBytes (axes.map Prod.fst) (axes.map Prod.snd) size = .ok needed) :
    requiredBytes (other.map Prod.fst) (other.map Prod.snd) size = .ok needed := by
  have shapes := reordered.map Prod.fst
  by_cases empty : 0 ∈ axes.map Prod.fst
  · rw [requiredBytes, if_pos empty] at required
    rw [requiredBytes, if_pos (shapes.mem_iff.mp empty)]
    exact required
  · have ranks (any : List (Nat × Int64)) : (any.map Prod.snd).length = (any.map Prod.fst).length := by
      simp only [List.length_map]
    have full : 0 ∉ other.map Prod.fst := fun present => empty (shapes.mem_iff.mpr present)
    obtain ⟨forward, reaches, fits⟩ := (requiredBytes_eq_ok_iff (ranks axes) empty).mp required
    apply (requiredBytes_eq_ok_iff (ranks other) full).mpr
    refine ⟨?_, ?_, fits⟩
    · rw [forward_axes] at forward ⊢
      intro axis member
      exact forward axis (reordered.mem_iff.mpr member)
    · rw [distance_corner_axes] at reaches ⊢
      rw [← reaches, (reordered.map _).sum_eq]

/-- The number of elements is the same in any order in which the products on the way fit a word. -/
theorem elementCount?_reordered {shape permuted : List Nat} (reordered : shape.Perm permuted) {count : Nat}
    (counted : elementCount? shape = some count) :
    elementCount? permuted = some count ↔ leadingProduct permuted < wordLimit := by
  obtain ⟨extents, _, product, small⟩ := elementCount?_eq_some_iff.mp counted
  rw [elementCount?_eq_some_iff, ← reordered.prod_eq]
  constructor
  · intro ⟨_, leads, _⟩
    exact leads
  · intro leads
    refine ⟨?_, leads, product, small⟩
    intro extent member
    exact extents extent (reordered.mem_iff.mpr member)

theorem accepts_of_leads (reordered : axes.Perm other) {count : Nat}
    (accepted : Accepts base byteLength element axes count) :
    Accepts base byteLength element other count ↔ leadingProduct (other.map Prod.fst) < wordLimit := by
  obtain ⟨counted, needed, required, enough⟩ := accepts_iff.mp accepted
  rw [accepts_iff, elementCount?_reordered (reordered.map Prod.fst) counted]
  exact ⟨And.left, fun leads => ⟨leads, needed, requiredBytes_reordered reordered required, enough⟩⟩

/-- Without an empty axis the products on the way are no larger than the last one. -/
theorem leads_of_accepts (full : 0 ∉ axes.map Prod.fst) (reordered : axes.Perm other) {count : Nat}
    (accepted : Accepts base byteLength element axes count) :
    leadingProduct (other.map Prod.fst) < wordLimit := by
  have shapes := reordered.map Prod.fst
  obtain ⟨counted, _⟩ := accepts_iff.mp accepted
  obtain ⟨product, small⟩ := (elementCount?_of_full full).mp counted
  rw [leadingProduct_of_full fun present => full (shapes.mem_iff.mpr present), ← shapes.prod_eq, product]
  exact Nat.lt_of_le_of_lt small (by decide)

theorem elementCount?_eq_none_iff {shape : List Nat} :
    elementCount? shape = none ↔
      (∃ extent ∈ shape, objectLimit < extent) ∨ objectLimit < shape.prod ∨
        0 ∈ shape ∧ wordLimit ≤ leadingProduct shape := by
  rw [Option.eq_none_iff_forall_ne_some]
  constructor
  · intro uncounted
    by_contra fine
    simp only [not_or, not_exists, not_and, Nat.not_lt] at fine
    obtain ⟨extents, small, leads⟩ := fine
    apply uncounted shape.prod
    by_cases empty : 0 ∈ shape
    · exact elementCount?_eq_some_iff.mpr ⟨extents, Nat.lt_of_not_le (leads empty), rfl, small⟩
    · exact (elementCount?_of_full empty).mpr ⟨rfl, small⟩
  · intro large count counted
    obtain ⟨extents, leads, rfl, small⟩ := elementCount?_eq_some_iff.mp counted
    rcases large with ⟨extent, member, beyond⟩ | beyond | ⟨_, beyond⟩
    · exact absurd (extents extent member) (Nat.not_le.mpr beyond)
    · exact absurd small (Nat.not_le.mpr beyond)
    · exact absurd leads (Nat.not_lt.mpr beyond)

/-- Axes without an empty one can be put in any order. With an empty one among them, another order of accepted
axes is accepted just when the product in front of the first empty axis fits a word, and then counts as many
elements. A number of elements is refused for an extent or a product that is too large, or for that product
in front of an empty axis. -/
theorem accepts_reordered (reordered : axes.Perm other) :
    (∀ count, Accepts base byteLength element axes count →
      (Accepts base byteLength element other count ↔ leadingProduct (other.map Prod.fst) < wordLimit)) ∧
    (∀ count counted, Accepts base byteLength element axes count →
      Accepts base byteLength element other counted → counted = count) ∧
    (0 ∉ axes.map Prod.fst → ∀ count,
      (Accepts base byteLength element other count ↔ Accepts base byteLength element axes count)) ∧
    (elementCount? (axes.map Prod.fst) = none ↔
      (∃ extent ∈ axes.map Prod.fst, objectLimit < extent) ∨ objectLimit < (axes.map Prod.fst).prod ∨
        0 ∈ axes.map Prod.fst ∧ wordLimit ≤ leadingProduct (axes.map Prod.fst)) := by
  have shapes := reordered.map Prod.fst
  refine ⟨fun count => accepts_of_leads reordered, ?_, ?_, elementCount?_eq_none_iff⟩
  · intro count counted accepted again
    obtain ⟨_, _, product, _⟩ := elementCount?_eq_some_iff.mp (accepts_iff.mp accepted).1
    obtain ⟨_, _, same, _⟩ := elementCount?_eq_some_iff.mp (accepts_iff.mp again).1
    rw [← product, ← same, shapes.prod_eq]
  · intro full count
    have otherFull : 0 ∉ other.map Prod.fst := fun present => full (shapes.mem_iff.mpr present)
    constructor
    · intro accepted
      exact (accepts_of_leads reordered.symm accepted).mpr (leads_of_accepts otherFull reordered.symm accepted)
    · intro accepted
      exact (accepts_of_leads reordered accepted).mpr (leads_of_accepts full reordered accepted)

/-- Behind two axes whose product still fits a word an empty axis is accepted, as it is in front of them. -/
theorem accepts_reordered_wide :
    let axes : List (Nat × Int64) := [(0, 1), (0x4000000000000000, 1), (3, 1)]
    let other : List (Nat × Int64) := [(0x4000000000000000, 1), (3, 1), (0, 1)]
    axes.Perm other ∧ Accepts 0 0 (.unsigned .bits32) axes 0 ∧ Accepts 0 0 (.unsigned .bits32) other 0 := by
  intro axes other
  have reordered : axes.Perm other := by decide
  have accepted : Accepts 0 0 (.unsigned .bits32) axes 0 := ⟨_, rfl, rfl⟩
  have leads : leadingProduct (other.map Prod.fst) < wordLimit := by decide
  exact ⟨reordered, accepted, ((accepts_reordered reordered).1 0 accepted).mpr leads⟩

/-- Behind two axes whose product no word holds the same axis is refused, although every extent and the number
of elements are within the size of an object. -/
theorem empty_axis_refused :
    let axes : List (Nat × Int64) := [(0, 1), (0x4000000000000000, 1), (4, 1)]
    let other : List (Nat × Int64) := [(0x4000000000000000, 1), (4, 1), (0, 1)]
    axes.Perm other ∧ Accepts 0 0 (.unsigned .bits32) axes 0 ∧
      (¬ ∃ count, Accepts 0 0 (.unsigned .bits32) other count) ∧
      elementCount? (other.map Prod.fst) = none ∧ (∀ extent ∈ other.map Prod.fst, extent ≤ objectLimit) ∧
      (other.map Prod.fst).prod ≤ objectLimit := by
  intro axes other
  have uncounted : elementCount? (other.map Prod.fst) = none := rfl
  refine ⟨by decide, ⟨_, rfl, rfl⟩, ?_, uncounted, by decide, by decide⟩
  intro ⟨count, accepted⟩
  have counted := (accepts_iff.mp accepted).1
  rw [uncounted] at counted
  cases counted

end ArrayView
end KernelLaunch
