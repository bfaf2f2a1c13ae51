import Talkback.Json.Decode
import Talkback.Text.Shape

/-!
Audio devices as a host lists them: a name, a direction and whether the host uses it by
default. Device lists are shown inputs first, each direction's default first, then by name
with ASCII letters folded to lower case; devices that tie keep the host's order.
-/

namespace Talkback.Audio

/-- Whether a device records or plays. -/
inductive Direction where
  | input
  | output
  deriving DecidableEq, Repr, Inhabited

/-- A device of the host. -/
structure DeviceInfo where
  name : String
  direction : Direction
  isDefault : Bool
  deriving DecidableEq, Repr, Inhabited

namespace Direction

/-- The direction's name in documents. -/
def name : Direction → String
  | .input => "input"
  | .output => "output"

/-- The direction's name when inspected. -/
def shape : Direction → Text.Shape
  | .input => .atom "Input"
  | .output => .atom "Output"

/-- Read a direction from a document. -/
def decode : Json.Decoder Direction := fun v =>
  (Json.Decoder.constant ["input", "output"] v).map fun s => if s = "input" then .input else .output

end Direction

namespace DeviceInfo

/-- The sort key: outputs after inputs, defaults first, then the folded name. -/
def key (d : DeviceInfo) : Bool × Bool × String :=
  (d.direction = .output, !d.isDefault, d.name.map Char.toLower)

/-- Whether `a` may stand before `b`. -/
def before (a b : DeviceInfo) : Bool :=
  let (a1, a2, a3) := a.key
  let (b1, b2, b3) := b.key
  if a1 != b1 then b1
  else if a2 != b2 then b2
  else decide (a3 ≤ b3)

/-- The device as a document. -/
def toJson (d : DeviceInfo) : Json.Value :=
  .obj [("name", .str d.name), ("direction", .str d.direction.name),
    ("isDefault", .bool d.isDefault)]

/-- Read a device from a document. -/
def decode : Json.Decoder DeviceInfo := fun v => do
  let slots ← Json.Decoder.fields ["name", "direction", "isDefault"] v
  let name ← Json.Decoder.req (slots.getD 0 none) Json.Decoder.string
  let direction ← Json.Decoder.req (slots.getD 1 none) Direction.decode
  let isDefault ← Json.Decoder.req (slots.getD 2 none) Json.Decoder.bool
  return { name, direction, isDefault }

/-- The device when inspected. -/
def shape (d : DeviceInfo) : Text.Shape :=
  .record "DeviceInfo" [("name", .str d.name), ("direction", d.direction.shape),
    ("is_default", .bool d.isDefault)] false

end DeviceInfo

/-- Devices in display order; the sort is stable. -/
def sortDevices (ds : List DeviceInfo) : List DeviceInfo := ds.mergeSort DeviceInfo.before

end Talkback.Audio
