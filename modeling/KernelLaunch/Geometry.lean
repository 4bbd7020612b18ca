import KernelLaunch.Dims

/-! The sizes of a launch: a global size and perhaps a workgroup size of the same rank. Sizes given
with different ranks are reconciled by ones on the right, so every given extent survives. -/

namespace KernelLaunch

inductive SizeRole where
  | globalSize
  | localSize
  | gridSize
  | blockSize
  deriving DecidableEq

def SizeRole.text : SizeRole → String
  | .globalSize => "global size"
  | .localSize => "local size"
  | .gridSize => "grid size"
  | .blockSize => "block size"

inductive GeometryError where
  | empty (role : SizeRole)
  | zeroExtent (role : SizeRole) (dims : Dims) (axis : Nat)
  /-- Some product of an extent of the grid and one of the block does not fit. -/
  | overflow (grid block : Dims)
  deriving DecidableEq

def GeometryError.message : GeometryError → String
  | .empty role => s!"{role.text} is empty"
  | .zeroExtent role dims axis => s!"{role.text} {dims.text} has zero extent on axis {axis}"
  | .overflow grid block => s!"grid {grid.text} x block {block.text} overflows u32"

/-- Why a size is unusable: it has no axis, or its first empty axis. -/
def Dims.fault? (dims : Dims) (role : SizeRole) : Option GeometryError :=
  if dims.extents = [] then some (.empty role)
  else (dims.extents.findIdx? (· == 0)).map (.zeroExtent role dims)

theorem Dims.fault?_eq_none_iff {dims : Dims} {role : SizeRole} :
    dims.fault? role = none ↔ dims.Usable := by
  unfold Dims.fault? Dims.Usable
  split
  · rename_i none
    simp [none]
  · rename_i nonempty
    simp [nonempty, List.findIdx?_eq_none_iff]

structure Geometry where
  global : Dims
  workgroup : Option Dims
  usable : global.Usable
  matched : ∀ size ∈ workgroup, size.Usable ∧ size.rank = global.rank
  deriving DecidableEq

namespace Geometry

/-- One item, in workgroups of the device's choice. -/
def single : Geometry where
  global := ⟨[1]⟩
  workgroup := none
  usable := ⟨List.cons_ne_nil 1 [], by simp⟩
  matched := by simp

/-- The geometry of a global size and perhaps a workgroup size. A global size alone is kept as it
is; two sizes are padded to the larger rank. -/
def resolve (global : Dims) (workgroup : Option Dims) : Except GeometryError Geometry :=
  match globalFault : global.fault? .globalSize with
  | some cause => .error cause
  | none =>
    match workgroup with
    | none =>
      .ok { global, workgroup := none, usable := Dims.fault?_eq_none_iff.mp globalFault, matched := by simp }
    | some size =>
      match sizeFault : size.fault? .localSize with
      | some cause => .error cause
      | none =>
        let rank := max global.rank size.rank
        .ok
          { global := global.paddedTo rank
            workgroup := some (size.paddedTo rank)
            usable := (Dims.fault?_eq_none_iff.mp globalFault).paddedTo rank
            matched := by
              intro padded same
              rw [← Option.mem_some.mp same]
              refine ⟨(Dims.fault?_eq_none_iff.mp sizeFault).paddedTo rank, ?_⟩
              rw [Dims.rank_paddedTo, Dims.rank_paddedTo]
              omega }

def products? : List UInt32 → List UInt32 → Option (List UInt32)
  | left :: lefts, right :: rights =>
    let product := left.toNat * right.toNat
    if product < UInt32.size then (products? lefts rights).map (UInt32.ofNat product :: ·) else none
  | _, _ => some []

/-- The geometry of a grid of blocks: after padding both, the global size is their product and the
block is the workgroup. -/
def ofGrid (grid block : Dims) : Except GeometryError Geometry :=
  match grid.fault? .gridSize with
  | some cause => .error cause
  | none =>
    match block.fault? .blockSize with
    | some cause => .error cause
    | none =>
      let rank := max grid.rank block.rank
      let grid := grid.paddedTo rank
      let block := block.paddedTo rank
      match products? grid.extents block.extents with
      | none => .error (.overflow grid block)
      | some global => resolve ⟨global⟩ (some block)

def rank (geometry : Geometry) : Nat := geometry.global.rank

def workItems (geometry : Geometry) : Nat := geometry.global.workItems

def text (geometry : Geometry) : String :=
  match geometry.workgroup with
  | none => s!"global={geometry.global.text}"
  | some size => s!"global={geometry.global.text} local={size.text}"

end Geometry
end KernelLaunch
