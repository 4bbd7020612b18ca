import KernelLaunch.Driver.Handle
import KernelLaunch.Host.Image

/-! Programs of the reference device: modules loaded for a set of agents. Finalizing an entry point
of a module gives code with a number that no other code of the same device has. -/

namespace KernelLaunch

inductive Module where
  /-- A module that this device loaded from an image. -/
  | loaded (table : SymbolTable)
  /-- A module of another driver, which finds every symbol at the start. -/
  | foreign

def Module.find? : Module → String → Option UInt64
  | .loaded table, name => table.find? name
  | .foreign, _ => some 0

def Module.hasCodeAt? : Module → UInt64 → Option Bool
  | .loaded table, offset => some (table.hasCodeAt offset)
  | .foreign, _ => none

/-- What all programs of a device share. -/
structure Finalizer where
  programs : Nat := 0
  /-- Entry points finalized so far. -/
  finalizations : Nat := 0
  /-- The number of the last code, counted on its own. -/
  lastCode : Nat := 0
  /-- While set, every finalization fails for this reason. -/
  failure : Option String := none
  inStep : lastCode = finalizations := by rfl
  deriving DecidableEq

/-- Nothing has been finalized yet, and nothing is to fail. -/
def Finalizer.idle : Finalizer := {}

/-- One more entry point has been finalized, to the code of the next number. -/
def Finalizer.counted (finalizer : Finalizer) : Finalizer :=
  { finalizer with
    finalizations := finalizer.finalizations + 1
    lastCode := finalizer.lastCode + 1
    inStep := congrArg Nat.succ finalizer.inStep }

structure Program where
  agents : List String
  modules : List SymbolTable := []

namespace Program

/-- Adds a module and names it by its place. A foreign module takes no place. -/
def addModule (program : Program) : Module → Except DriverError (ModuleHandle × Program)
  | .loaded table =>
    .ok (⟨program.modules.length⟩, { program with modules := program.modules ++ [table] })
  | .foreign => .error (.invalidImage "module was not loaded by the host driver")

def refusal? (program : Program) (finalizer : Finalizer) (agent : String) (handle : ModuleHandle)
    (offset : UInt64) : Option DriverError :=
  match finalizer.failure with
  | some reason => some (.finalizationFailed reason)
  | none =>
    if agent ∉ program.agents then
      some (.finalizationFailed s!"agent {agent} is not part of this program")
    else
      match program.modules[handle.index]? with
      | none => some (.unknownModule handle.index)
      | some table =>
        if table.hasCodeAt offset then none
        else
          some (.finalizationFailed
            s!"no code object at offset {hexText offset.toNat} in {handle.text}")

def finalize (program : Program) (finalizer : Finalizer) (agent : String) (handle : ModuleHandle)
    (offset : UInt64) : Except DriverError (CodeDescriptor × Finalizer) :=
  match program.refusal? finalizer agent handle offset with
  | some cause => .error cause
  | none => .ok (⟨finalizer.lastCode + 1, offset, agent⟩, finalizer.counted)

end Program
end KernelLaunch
