namespace TreeDump

/-- What went wrong in a device that takes bytes. -/
inductive DeviceErrorKind where
  | brokenPipe
  | writeZero
  | storageFull
  | other
deriving DecidableEq, Repr

def DeviceErrorKind.name : DeviceErrorKind → String
  | .brokenPipe => "BrokenPipe"
  | .writeZero => "WriteZero"
  | .storageFull => "StorageFull"
  | .other => "Other"

/-- An error of a device, in the device's own words. -/
structure DeviceError where
  kind : DeviceErrorKind
  message : String
deriving DecidableEq, Repr

/-- A write was answered by taking no byte at all, so trying again would never end. -/
def DeviceError.tookNothing : DeviceError :=
  ⟨.writeZero, "failed to write whole buffer"⟩

/-- The error of a device without room for another byte. -/
def DeviceError.noSpaceLeft : DeviceError :=
  ⟨.storageFull, "No space left on device (os error 28)"⟩

/-- The error of a text writer, which gives no reason. -/
structure FormatError where
deriving DecidableEq, Repr

inductive SinkError where
  | device (error : DeviceError)
  | format
  /-- The sink takes no further lines. -/
  | closed
deriving DecidableEq, Repr

namespace SinkError

def kindName : SinkError → String
  | .device _ => "Io"
  | .format => "Fmt"
  | .closed => "Closed"

def message : SinkError → String
  | .device error => error.message
  | .format => "an error occurred when formatting an argument"
  | .closed => "sink is closed"

end SinkError

end TreeDump
