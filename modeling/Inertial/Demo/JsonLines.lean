import Inertial.Demo.Outcome
import Inertial.Double.Fixed
import Inertial.Setting

/-!
Simulated readings as lines of JSON. The sensor turns about its third axis at a constant rate and
has no accelerometer; what it does not provide, and what is not a finite number, is written as null.
-/

namespace Inertial.Demo.JsonLines

/-- The sine and cosine in use. -/
structure Waves where
  sine : Double → Double
  cosine : Double → Double

def Waves.standard : Waves := ⟨Double.sin, Double.cos⟩

/-- A duration in seconds: whole seconds, plus the rest in nanoseconds divided by a billion. -/
def seconds (milliseconds : UInt64) : Double :=
  let nanoseconds := milliseconds % 1000 * 1000000
  Double.ofCount (milliseconds / 1000) + Double.ofCount nanoseconds / Double.ofCount 1000000000

/-- Half of the angle turned after a number of intervals. -/
def halfAngle (interval count : UInt64) : Double :=
  0.25 * Double.ofCount count * seconds interval

/-- Turns the sensor to its orientation after a number of intervals. -/
def turn
    (waves : Waves) (interval : UInt64) (orientation : Buffer 4) (memory : Memory) (count : UInt64)
    : Memory :=
  let half := halfAngle interval count
  (memory.write orientation 2 (waves.sine half)).write orientation 3 (waves.cosine half)

/-- Three digits behind the point; null for what is absent or not finite. -/
def number : Option Double → List Char
  | some value => if value.isFinite then value.fixed 3 else "null".toList
  | none => "null".toList

def member (key : String) (value : List Char) : List Char :=
  '"' :: key.toList ++ '"' :: ':' :: value

/-- One object with the sensor's name, its orientation, the third components of its angular
velocity and linear acceleration, and its mask.
-/
def line (handle : Handle) (memory : Memory) : List Char :=
  let reading := handle.read memory
  let coordinate (index : Fin 4) : List Char := number (reading.orientation.map (·[index]))
  let members :=
    [member "name" ('"' :: handle.name.toList ++ ['"']),
      member "qx" (coordinate 0),
      member "qy" (coordinate 1),
      member "qz" (coordinate 2),
      member "qw" (coordinate 3),
      member "wz" (number (reading.angularVelocity.map (·[2]))),
      member "az" (number (reading.linearAcceleration.map (·[2]))),
      member "caps" (Nat.toDigits 10 handle.capabilities.bits.toNat)]
  '\x7b' :: [','].intercalate members ++ ['\x7d']

/-- The lines of a number of samples, counted on from `count`. -/
def sampleLines
    (waves : Waves) (interval : UInt64) (orientation : Buffer 4) (handle : Handle)
    : Memory → (count samples : Nat) → List String
  | _, _, 0 => []
  | memory, count, samples + 1 =>
      let turned := turn waves interval orientation memory (.ofNat count)
      String.ofList (line handle turned)
        :: sampleLines waves interval orientation handle turned (count + 1) samples

/-- Registers the sensor, looks it up, and prints a line for each sample. The number of samples and
the milliseconds between them are settings.
-/
def outcome (waves : Waves) (environment : Environment) : Outcome :=
  let samples := environment.count "IMU_DEMO_SAMPLES" 100
  let interval := environment.count "IMU_DEMO_INTERVAL_MS" 10
  let (memory, orientation) := Memory.empty.allocate Storage.initialValues.orientation
  let (memory, gyroscope) := memory.allocate #v[0, 0, 0.5]
  let sensor : Descriptor :=
    { Descriptor.bare "imu" "imu_link" with
      orientation := some orientation
      angularVelocity := some gyroscope }
  let registry := (Registry.empty.register sensor).result
  .withHandle (registry.lookup "imu").result fun handle =>
    .printed (lines (sampleLines waves interval orientation handle memory 0 samples.toNat))

end Inertial.Demo.JsonLines
