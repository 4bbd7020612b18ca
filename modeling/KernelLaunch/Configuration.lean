import KernelLaunch.Driver.Handle
import KernelLaunch.Geometry

/-! Where and how large a launch is. Configurations are values: a step gives a new one and leaves
the one it started from as it was. -/

namespace KernelLaunch

structure Configuration where
  geometry : Geometry := .single
  /-- The stream to submit to; the default queue if there is none. -/
  stream : Option StreamId := none
  deriving DecidableEq

namespace Configuration

def withGeometry (configuration : Configuration) (geometry : Geometry) : Configuration :=
  { configuration with geometry }

def withStream (configuration : Configuration) (stream : Option StreamId) : Configuration :=
  { configuration with stream }

/-- Sets both sizes and the stream, even to none. Whether the stream exists is only asked when the
kernel is launched. -/
def configure (configuration : Configuration) (global : Dims) (workgroup : Option Dims)
    (stream : Option StreamId) : Except GeometryError Configuration :=
  (Geometry.resolve global workgroup).map fun geometry =>
    (configuration.withGeometry geometry).withStream stream

def configureGrid (configuration : Configuration) (grid block : Dims) (stream : Option StreamId) :
    Except GeometryError Configuration :=
  (Geometry.ofGrid grid block).map fun geometry =>
    (configuration.withGeometry geometry).withStream stream

end Configuration
end KernelLaunch
