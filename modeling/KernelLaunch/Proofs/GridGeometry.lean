import KernelLaunch.Proofs.GeometrySizes
import KernelLaunch.Proofs.ItemCounts

/-! A grid of blocks as a geometry. After both are brought to one rank, the global size is their product axis by
axis and the block is the workgroup. A product that fits its word is all that can be asked for: its axes are
never empty, so the sizes are accepted as they are, and the grid can be read back from them. -/

namespace KernelLaunch
namespace Geometry

/-- The number of items along each axis, whether an extent holds it or not. -/
def axisItems (counts sides : List UInt32) : List Nat :=
  List.zipWith (fun count side => count.toNat * side.toNat) counts sides

variable {grid block : Dims} {counts sides extents : List UInt32} {geometry : Geometry}

/-- The products are found just when extents hold them. -/
theorem products?_eq_some_iff :
    products? counts sides = some extents ↔ extents.map UInt32.toNat = axisItems counts sides := by
  induction counts generalizing sides extents with
  | nil => simp [products?, axisItems, eq_comm]
  | cons count counts ih =>
    cases sides with
    | nil => simp [products?, axisItems, eq_comm]
    | cons side sides =>
      simp only [products?, axisItems, List.zipWith_cons_cons]
      by_cases fits : count.toNat * side.toNat < UInt32.size
      · rw [if_pos fits]
        constructor
        · intro found
          obtain ⟨rest, tail, rfl⟩ := Option.map_eq_some_iff.mp found
          rw [List.map_cons, UInt32.toNat_ofNat_of_lt' fits, ih.mp tail, axisItems]
        · intro exact
          cases extents with
          | nil => cases exact
          | cons extent rest =>
            obtain ⟨head, tail⟩ := List.cons.inj exact
            rw [ih.mpr tail, Option.map_some, ← head, UInt32.ofNat_toNat]
      · rw [if_neg fits]
        constructor
        · intro found
          cases found
        · intro exact
          cases extents with
          | nil => cases exact
          | cons extent rest =>
            obtain ⟨head, _⟩ := List.cons.inj exact
            exact absurd (head ▸ extent.toNat_lt_size) fits

theorem extent_of_axis {axis : Nat} {count side : UInt32}
    (exact : extents.map UInt32.toNat = axisItems counts sides) (countAt : counts[axis]? = some count)
    (sideAt : sides[axis]? = some side) :
    ∃ extent, extents[axis]? = some extent ∧ extent.toNat = count.toNat * side.toNat := by
  have along := congrArg (·[axis]?) exact
  simp only [axisItems, List.getElem?_map, List.getElem?_zipWith, countAt, sideAt] at along
  exact Option.map_eq_some_iff.mp along

/-- An extent holds every product just when each axis by itself allows it. -/
theorem exists_products_iff :
    (∃ extents : List UInt32, extents.map UInt32.toNat = axisItems counts sides) ↔
      ∀ (axis : Nat) (count side : UInt32), counts[axis]? = some count → sides[axis]? = some side →
        count.toNat * side.toNat < UInt32.size := by
  constructor
  · rintro ⟨extents, exact⟩ axis count side countAt sideAt
    obtain ⟨extent, _, product⟩ := extent_of_axis exact countAt sideAt
    rw [← product]
    exact extent.toNat_lt_size
  · intro small
    refine ⟨(axisItems counts sides).map UInt32.ofNat, ?_⟩
    calc
      ((axisItems counts sides).map UInt32.ofNat).map UInt32.toNat = (axisItems counts sides).map id := by
        rw [List.map_map]
        apply List.map_congr_left
        intro items member
        obtain ⟨axis, found⟩ := List.mem_iff_getElem?.mp member
        rw [axisItems, List.getElem?_zipWith] at found
        split at found
        · rename_i count side countAt sideAt
          obtain rfl := Option.some.inj found
          exact UInt32.toNat_ofNat_of_lt' (small axis count side countAt sideAt)
        · cases found
      _ = axisItems counts sides := List.map_id _

theorem prod_axisItems (same : counts.length = sides.length) :
    (axisItems counts sides).prod = (counts.map UInt32.toNat).prod * (sides.map UInt32.toNat).prod := by
  have lengths : (counts.map UInt32.toNat).length = (sides.map UInt32.toNat).length := by
    rw [List.length_map, List.length_map, same]
  rw [List.prod_mul_prod_eq_prod_zipWith_of_length_eq _ _ lengths, axisItems, List.zipWith_map]

theorem axis_of_extent {extent : UInt32} (exact : extents.map UInt32.toNat = axisItems counts sides)
    (member : extent ∈ extents) :
    ∃ count ∈ counts, ∃ side ∈ sides, extent.toNat = count.toNat * side.toNat := by
  have listed : extent.toNat ∈ axisItems counts sides := exact ▸ List.mem_map_of_mem member
  rw [axisItems, ← List.map_uncurry_zip_eq_zipWith] at listed
  obtain ⟨⟨count, side⟩, paired, same⟩ := List.mem_map.mp listed
  obtain ⟨counted, sized⟩ := List.of_mem_zip paired
  exact ⟨count, counted, side, sized, same.symm⟩

theorem length_of_products (same : counts.length = sides.length)
    (exact : extents.map UInt32.toNat = axisItems counts sides) : extents.length = sides.length := by
  have length := congrArg List.length exact
  rw [List.length_map, axisItems, List.length_zipWith, same, Nat.min_self] at length
  exact length

/-- Where neither factor is empty, no product is. -/
theorem usable_of_products (same : counts.length = sides.length) (counted : (Dims.mk counts).Usable)
    (sized : (Dims.mk sides).Usable) (exact : extents.map UInt32.toNat = axisItems counts sides) :
    (Dims.mk extents).Usable := by
  have length := length_of_products same exact
  constructor
  · rintro rfl
    exact sized.1 (List.eq_nil_of_length_eq_zero length.symm)
  · intro extent member zero
    obtain ⟨count, countIn, side, sideIn, product⟩ := axis_of_extent exact member
    rw [zero] at product
    rcases Nat.mul_eq_zero.mp product.symm with noCount | noSide
    · exact counted.2 count countIn (UInt32.toNat_inj.mp noCount)
    · exact sized.2 side sideIn (UInt32.toNat_inj.mp noSide)

/-- Sizes of one rank are resolved to themselves. -/
theorem resolve_level {global size : Dims} (level : global.rank = size.rank) :
    resolve global (some size) = .ok geometry ↔
      (global.Usable ∧ size.Usable) ∧ geometry.global = global ∧ geometry.workgroup = some size := by
  have rank : commonRank global (some size) = size.rank := by
    simp only [commonRank, Option.elim_some, level, Nat.max_self]
  rw [resolve_eq_ok_iff, rank, Option.map_some, Dims.paddedTo_of_rank_le (Nat.le_of_eq level.symm),
    Dims.paddedTo_of_rank_le (Nat.le_refl _)]
  simp only [Option.mem_def, Option.some.injEq, forall_eq']

theorem level_paddedTo (grid block : Dims) :
    (grid.paddedTo (max grid.rank block.rank)).rank = (block.paddedTo (max grid.rank block.rank)).rank := by
  rw [Dims.rank_paddedTo, Dims.rank_paddedTo]
  omega

/-- The sizes that the products give are checked once more, and that check never refuses them. -/
theorem ofGrid_eq_ok_iff :
    ofGrid grid block = .ok geometry ↔
      (grid.Usable ∧ block.Usable) ∧
        geometry.global.extents.map UInt32.toNat =
          axisItems (grid.paddedTo (max grid.rank block.rank)).extents
            (block.paddedTo (max grid.rank block.rank)).extents ∧
        geometry.workgroup = some (block.paddedTo (max grid.rank block.rank)) := by
  have level := level_paddedTo grid block
  constructor
  · intro given
    unfold ofGrid at given
    split at given
    · cases given
    · rename_i counted
      split at given
      · cases given
      · rename_i sized
        simp only at given
        split at given
        · cases given
        · rename_i extents found
          have exact := products?_eq_some_iff.mp found
          obtain ⟨_, global, workgroup⟩ := (resolve_level (length_of_products level exact)).mp given
          rw [global]
          exact ⟨⟨Dims.fault?_eq_none_iff.mp counted, Dims.fault?_eq_none_iff.mp sized⟩, exact, workgroup⟩
  · rintro ⟨⟨counted, sized⟩, exact, workgroup⟩
    have usable := usable_of_products level (counted.paddedTo _) (sized.paddedTo _) exact
    simp only [ofGrid, Dims.fault?_eq_none_iff.mpr counted, Dims.fault?_eq_none_iff.mpr sized,
      products?_eq_some_iff.mpr exact]
    apply (resolve_level (length_of_products level exact)).mpr
    exact ⟨⟨usable, sized.paddedTo _⟩, rfl, workgroup⟩

theorem exists_ofGrid_iff :
    (∃ geometry, ofGrid grid block = .ok geometry) ↔
      (grid.Usable ∧ block.Usable) ∧ ∃ extents : List UInt32, extents.map UInt32.toNat =
        axisItems (grid.paddedTo (max grid.rank block.rank)).extents
          (block.paddedTo (max grid.rank block.rank)).extents := by
  constructor
  · rintro ⟨geometry, given⟩
    obtain ⟨usable, exact, _⟩ := ofGrid_eq_ok_iff.mp given
    exact ⟨usable, _, exact⟩
  · rintro ⟨⟨counted, sized⟩, extents, exact⟩
    have level := level_paddedTo grid block
    have usable := usable_of_products level (counted.paddedTo _) (sized.paddedTo _) exact
    refine ⟨⟨⟨extents⟩, some (block.paddedTo _), usable, ?_⟩, ofGrid_eq_ok_iff.mpr ⟨⟨counted, sized⟩, exact, rfl⟩⟩
    intro size same
    obtain rfl := Option.some.inj same
    exact ⟨sized.paddedTo _, (length_of_products level exact).symm⟩

theorem rank_of_ofGrid (given : ofGrid grid block = .ok geometry) :
    geometry.global.rank = max grid.rank block.rank := by
  obtain ⟨_, exact, _⟩ := ofGrid_eq_ok_iff.mp given
  have length : geometry.global.rank = _ := length_of_products (level_paddedTo grid block) exact
  rw [length]
  change Dims.rank _ = _
  rw [Dims.rank_paddedTo]
  omega

/-- The global size that a grid gives can be given with the block in place of the grid. -/
theorem resolve_of_ofGrid (given : ofGrid grid block = .ok geometry) :
    resolve geometry.global (some block) = .ok geometry := by
  have rank := rank_of_ofGrid given
  obtain ⟨⟨_, sized⟩, _, workgroup⟩ := ofGrid_eq_ok_iff.mp given
  have common : commonRank geometry.global (some block) = max grid.rank block.rank := by
    simp only [commonRank, Option.elim_some, rank]
    omega
  rw [resolve_eq_ok_iff, common, Dims.paddedTo_of_rank_le (Nat.le_of_eq rank.symm)]
  exact ⟨⟨geometry.usable, fun _ same => Option.some.inj same ▸ sized⟩, rfl, workgroup⟩

theorem workItems_of_ofGrid (given : ofGrid grid block = .ok geometry) :
    geometry.workItems = min (wordLimit - 1) (grid.items * block.items) := by
  obtain ⟨_, exact, _⟩ := ofGrid_eq_ok_iff.mp given
  have items : geometry.global.items = grid.items * block.items := by
    rw [Dims.items, exact, prod_axisItems (level_paddedTo grid block)]
    change Dims.items _ * Dims.items _ = _
    rw [Dims.items_paddedTo, Dims.items_paddedTo]
  rw [workItems, Dims.workItems_eq_min, items]

theorem div_of_product {extent count side : UInt32} (product : extent.toNat = count.toNat * side.toNat)
    (positive : side ≠ 0) : extent / side = count := by
  have large : 0 < side.toNat := Nat.pos_of_ne_zero fun zero => positive (UInt32.toNat_inj.mp zero)
  apply UInt32.toNat_inj.mp
  rw [UInt32.toNat_div, product, Nat.mul_div_cancel _ large]

/-- A grid of blocks is accepted just when neither has an empty axis and, after both are brought to one rank, an
extent holds the items along every axis. Then the block is the workgroup, dividing the global size by it gives
the grid back, configuring with the grid is configuring with that global size and the block, and there are as
many items as in the grid and the block together, up to the largest word. -/
theorem grids_recovered (grid block : Dims) :
    let counts := (grid.paddedTo (max grid.rank block.rank)).extents
    let sides := (block.paddedTo (max grid.rank block.rank)).extents
    ((∃ geometry, ofGrid grid block = .ok geometry) ↔
      grid.Usable ∧ block.Usable ∧ ∀ (axis : Nat) (count side : UInt32), counts[axis]? = some count →
        sides[axis]? = some side → count.toNat * side.toNat < UInt32.size) ∧
    ∀ geometry, ofGrid grid block = .ok geometry →
      geometry.workgroup = some (block.paddedTo (max grid.rank block.rank)) ∧
      geometry.global.rank = max grid.rank block.rank ∧
      (∀ (axis : Nat) (count side : UInt32), counts[axis]? = some count → sides[axis]? = some side →
        ∃ extent, geometry.global.extents[axis]? = some extent ∧ side.toNat ∣ extent.toNat ∧
          extent / side = count) ∧
      (∀ (configuration : Configuration) (stream : Option StreamId),
        configuration.configureGrid grid block stream =
          configuration.configure geometry.global (some block) stream) ∧
      geometry.workItems = min (wordLimit - 1) (grid.items * block.items) := by
  intro counts sides
  constructor
  · rw [exists_ofGrid_iff, exists_products_iff, and_assoc]
  · intro geometry given
    obtain ⟨⟨_, sized⟩, exact, workgroup⟩ := ofGrid_eq_ok_iff.mp given
    refine ⟨workgroup, rank_of_ofGrid given, ?_, ?_, workItems_of_ofGrid given⟩
    · intro axis count side countAt sideAt
      obtain ⟨extent, extentAt, product⟩ := extent_of_axis exact countAt sideAt
      have positive := (sized.paddedTo (max grid.rank block.rank)).2 side (List.mem_of_getElem? sideAt)
      exact ⟨extent, extentAt, product ▸ Nat.dvd_mul_left .., div_of_product product positive⟩
    · intro configuration stream
      rw [Configuration.configureGrid, given, Configuration.configure, resolve_of_ofGrid given]

/-- The largest extent that still fits beside axes whose items no word counts, and the smallest that does not fit. -/
theorem grids_recovered_edge :
    let grid : Dims := ⟨[65536, 65536, 65536, 65536]⟩
    let block : Dims := ⟨[65535]⟩
    (∃ geometry, ofGrid grid block = .ok geometry ∧ geometry.workgroup = some ⟨[65535, 1, 1, 1]⟩ ∧
      (∃ extent, geometry.global.extents[0]? = some extent ∧ extent / 65535 = 65536) ∧
      geometry.workItems = 18446744073709551615) ∧
    ¬ ∃ geometry, ofGrid ⟨[65536]⟩ ⟨[65536]⟩ = .ok geometry := by
  intro grid block
  have counted : grid.Usable := Dims.fault?_eq_none_iff.mp (show grid.fault? .gridSize = none from rfl)
  have sized : block.Usable := Dims.fault?_eq_none_iff.mp (show block.fault? .blockSize = none from rfl)
  obtain ⟨accepted, sizes⟩ := grids_recovered grid block
  constructor
  · have small : ∀ (axis : Nat) (count side : UInt32), grid.extents[axis]? = some count →
        [65535, 1, 1, 1][axis]? = some side → count.toNat * side.toNat < UInt32.size := by
      intro axis count side countAt sideAt
      match axis with
      | 0 | 1 | 2 | 3 =>
        obtain rfl := Option.some.inj countAt
        obtain rfl := Option.some.inj sideAt
        decide
      | axis + 4 => cases countAt
    obtain ⟨geometry, given⟩ := accepted.mpr ⟨counted, sized, small⟩
    obtain ⟨workgroup, _, axes, _, items⟩ := sizes geometry given
    obtain ⟨extent, extentAt, _, quotient⟩ := axes 0 65536 65535 rfl rfl
    refine ⟨geometry, given, workgroup, ⟨extent, extentAt, quotient⟩, ?_⟩
    rw [items]
    decide
  · intro given
    obtain ⟨_, _, small⟩ := (grids_recovered ⟨[65536]⟩ ⟨[65536]⟩).1.mp given
    exact absurd (small 0 65536 65536 rfl rfl) (by decide)

end Geometry
end KernelLaunch
