import Inertial.Covariance
import Inertial.Double.Shortest
import Inertial.Quaternion
import Inertial.Registry
import Inertial.Text.Outline
import Inertial.Text.Quoted
import Inertial.Vector3

/-!
Outlines of the library's values for people who debug. Whatever refers to buffers shows the numbers
that are in memory at that moment.
-/

namespace Inertial.Inspect

open Text (Outline)

/-- Numbers are positional from a ten-thousandth to below ten quadrillion. -/
def numberStyle : DecimalStyle := ⟨-4, 16⟩

def number (value : Double) : Outline := .leaf (value.render numberStyle)

def numbers {size : Nat} (values : Vector Double size) : Outline :=
  .list (values.toList.map number)

def text (content : String) : Outline := .leaf (Text.quoted content)

def mask (capabilities : Capabilities) : Outline :=
  .tuple "Capabilities" [.word capabilities.describe]

def quaternion (rotor : Quaternion Double) : Outline :=
  .tuple "Quaternion" [numbers rotor.toVector]

def vector (components : Vector3 Double) : Outline :=
  .tuple "Vector3" [numbers components.toVector]

def covariance (matrix : Covariance Double) : Outline :=
  .tuple "Covariance" [.list (matrix.rows.toList.map numbers)]

/-- The numbers of a channel as what they are the components of. -/
def view : (shape : Shape) → Vector Double shape.size → Outline
  | .quaternion, values => quaternion (.ofVector values)
  | .vector, values => vector (.ofVector values)
  | .covariance, values => covariance ⟨values⟩

/-- Each cell of a buffer by itself. -/
def cells {size : Nat} (memory : Memory) (buffer : Buffer size) : Outline :=
  let cell (value : Double) : Outline := .record "Cell" [.field "value" (number value)]
  .list ((memory.load buffer).toList.map cell)

/-- One entry for each channel, under the channel's label. -/
def channels (outline : Channel → Outline) : List Outline :=
  Channel.all.map fun channel => .field channel.label (outline channel)

def reading (values : Reading) : Outline :=
  .record "ImuReading" (channels fun channel => .optional ((values.get channel).map numbers))

def storage (memory : Memory) (buffers : Storage) : Outline :=
  .record "ImuStorage" (channels fun channel => cells memory (buffers.get channel))

def descriptor (memory : Memory) (sensor : Descriptor) : Outline :=
  .record "ImuSensorData"
    (.field "name" (text sensor.name) :: .field "frame_id" (text sensor.frame)
      :: channels fun channel => .optional ((sensor.get channel).map (cells memory)))

def handle (memory : Memory) (sensor : Handle) : Outline :=
  let viewed (channel : Channel) : Outline :=
    .optional ((sensor.get channel).map fun buffer => view channel.shape (memory.load buffer))
  .record "ImuSensorHandle"
    (.field "name" (text sensor.name) :: .field "frame_id" (text sensor.frame) :: channels viewed
      ++ [.field "capabilities" (mask sensor.capabilities)])

def registry (memory : Memory) (sensors : Registry) : Outline :=
  let entries := sensors.handles.toList.map fun (name, sensor) =>
    Outline.entry (Text.quoted name) (handle memory sensor)
  .record "ImuSensorRegistry" [.field "handles" (.dictionary entries)]

def notFound (failure : NotFound) : Outline :=
  .record "NotFound"
    [.field "name" (text failure.name), .field "interface" (text failure.interface)]

end Inertial.Inspect
