import KernelLaunch.ArgType
import KernelLaunch.Configuration
import KernelLaunch.Options

/-! Compiled kernels and kernels ready to launch. Configuring gives a new kernel over the same
compiled one. -/

namespace KernelLaunch

structure KernelHandle where
  assembly : String
  image : Bytes
  /-- The name without the linkage marker. -/
  entryName : String
  types : List ArgType
  deriving DecidableEq

/-- A value held by several owners. The identity tells it from other values that are equal. -/
structure Shared (α : Type) where
  identity : Nat
  value : α
  deriving DecidableEq

structure Kernel where
  handle : Shared KernelHandle
  configuration : Configuration := {}
  options : Options := {}
  deriving DecidableEq

namespace Kernel

def withConfiguration (kernel : Kernel) (configuration : Configuration) : Kernel :=
  { kernel with configuration }

def withOptions (kernel : Kernel) (options : Options) : Kernel := { kernel with options }

def configure (kernel : Kernel) (global : Dims) (workgroup : Option Dims)
    (stream : Option StreamId) : Except GeometryError Kernel :=
  (kernel.configuration.configure global workgroup stream).map kernel.withConfiguration

def grid (kernel : Kernel) (grid block : Dims) (stream : Option StreamId) :
    Except GeometryError Kernel :=
  (kernel.configuration.configureGrid grid block stream).map kernel.withConfiguration

end Kernel
end KernelLaunch
