import Inertial.Demo.JsonLines
import Inertial.Proofs.Demo.RoundedNumbers
import Inertial.Proofs.Json.Grammar
import Inertial.Proofs.NameTable
import Inertial.Proofs.Registry.Operations

/-!
The lines of JSON: each is one object with the same keys in the same order, and a longer run only
adds further lines.
-/

namespace Inertial.Demo.JsonLines

/-- Null, or a number with three digits behind the point and no exponent. -/
def IsCoordinate (json : Json) : Prop :=
  json = .null
  ∨ ∃ sign digits,
      json = .number (sign ++ digits) ∧ sign ∈ [[], ['-']] ∧ Decimal.IsPointed 3 digits

/-- The object of a sample: the name, four coordinates and a rate, no acceleration, and the mask. -/
def IsSample (json : Json) : Prop :=
  ∃ x y z w rate,
    json
      = .object
          [("name".toList, .string "imu".toList), ("qx".toList, x), ("qy".toList, y),
            ("qz".toList, z), ("qw".toList, w), ("wz".toList, rate), ("az".toList, .null),
            ("caps".toList, .number ['5'])]
    ∧ ∀ coordinate ∈ [x, y, z, w, rate], IsCoordinate coordinate

/-- The line is read as a sample, and as nothing else; it is all on one line. -/
def IsSampleLine (line : List Char) : Prop :=
  '\n' ∉ line ∧ ∃ sample, IsSample sample ∧ ∀ json, Json.IsText json line ↔ json = sample

theorem isNumber_of_isPointed {places : ℕ} (positive : 0 < places) {sign digits : List Char}
    (isSign : sign ∈ [[], ['-']]) (isPointed : Decimal.IsPointed places digits)
    : Json.IsNumber (sign ++ digits) := by
  obtain ⟨whole, fraction, rfl, isWhole, length, isDigit⟩ := isPointed
  have nonempty : fraction ≠ [] := List.ne_nil_of_length_pos (length ▸ positive)
  exact
    ⟨sign, whole, '.' :: fraction, [], by simp, isSign, isWhole,
      .inr ⟨fraction, rfl, nonempty, isDigit⟩, .inl rfl⟩

/-- A number is written as the word for none, or with three digits behind the point. -/
theorem number_shape (value : Option Double)
    : number value = "null".toList
      ∨ ∃ sign digits,
          number value = sign ++ digits ∧ sign ∈ [[], ['-']] ∧ Decimal.IsPointed 3 digits := by
  cases value with
  | none => exact .inl rfl
  | some double =>
      cases isFinite : double.isFinite with
      | false => exact .inl (by simp [number, isFinite])
      | true =>
          obtain ⟨digits, text, isPointed⟩ := (number_isRounding isFinite).shape
          have isSign : double.sign ∈ [[], ['-']] := by
            unfold Double.sign
            split <;> simp
          exact .inr ⟨_, _, text, isSign, isPointed⟩

theorem exists_coordinate (value : Option Double)
    : ∃ json, IsCoordinate json ∧ Json.Derives .value json (number value) := by
  rcases number_shape value with null | ⟨sign, digits, text, isSign, isPointed⟩
  · rw [null]
    exact ⟨.null, .inl rfl, .word (by decide)⟩
  · rw [text]
    exact
      ⟨_, .inr ⟨_, _, rfl, isSign, isPointed⟩,
        .number (isNumber_of_isPointed (by decide) isSign isPointed)⟩

theorem newline_notMem_number (value : Option Double) : '\n' ∉ number value := by
  rcases number_shape value with null | ⟨sign, digits, text, isSign, isPointed⟩
  · rw [null]
    decide
  · rw [text]
    intro newline
    cases (isNumber_of_isPointed (by decide) isSign isPointed).isNumeric _ newline

/-- The object with these numbers, no acceleration, and the mask of an orientation and an angular
velocity.
-/
def object (x y z w rate : Option Double) : List Char :=
  let members :=
    [member "name" "\"imu\"".toList, member "qx" (number x), member "qy" (number y),
      member "qz" (number z), member "qw" (number w), member "wz" (number rate),
      member "az" "null".toList, member "caps" ['5']]
  '\x7b' :: [','].intercalate members ++ ['\x7d']

/-- Whatever the numbers are, the object is a sample. -/
theorem exists_sample (x y z w rate : Option Double)
    : ∃ sample, IsSample sample ∧ Json.IsText sample (object x y z w rate) := by
  have named (key : String) {value : List Char} {json : Json}
      (plain : Json.IsPlain key.toList) (derives : Json.Derives .value json value)
      : Json.Derives (.one .member) (key.toList, json) (member key value) :=
    Json.derives_member (Json.isContent_of_plain plain) derives
  obtain ⟨x, isX, derivesX⟩ := exists_coordinate x
  obtain ⟨y, isY, derivesY⟩ := exists_coordinate y
  obtain ⟨z, isZ, derivesZ⟩ := exists_coordinate z
  obtain ⟨w, isW, derivesW⟩ := exists_coordinate w
  obtain ⟨rate, isRate, derivesRate⟩ := exists_coordinate rate
  have name : Json.Derives .value (.string "imu".toList) "\"imu\"".toList :=
    .string (Json.isContent_of_plain (by decide))
  have absent : Json.Derives .value .null "null".toList := .word (by decide)
  have mask : Json.Derives .value (.number ['5']) ['5'] :=
    .number ⟨[], ['5'], [], [], rfl, by simp, ⟨by simp, by simp, by simp⟩, .inl rfl, .inl rfl⟩
  have derives :=
    Json.derives_intercalate (named "name" (by decide) name)
      (.cons (named "qx" (by decide) derivesX) <| .cons (named "qy" (by decide) derivesY)
        <| .cons (named "qz" (by decide) derivesZ) <| .cons (named "qw" (by decide) derivesW)
        <| .cons (named "wz" (by decide) derivesRate) <| .cons (named "az" (by decide) absent)
        <| .cons (named "caps" (by decide) mask) .nil)
  exact
    ⟨_, ⟨x, y, z, w, rate, rfl, by simp [isX, isY, isZ, isW, isRate]⟩,
      Json.isText_of_derives (.object derives)⟩

theorem isSampleLine_object (x y z w rate : Option Double)
    : IsSampleLine (object x y z w rate) := by
  obtain ⟨sample, isSample, isText⟩ := exists_sample x y z w rate
  refine ⟨?_, sample, isSample, fun json => ⟨fun isOther => isOther.unique isText, ?_⟩⟩
  · simp [object, member, newline_notMem_number]
  · rintro rfl
    exact isText

-----------------------------------------------------------------------------------------
-- Samples
-----------------------------------------------------------------------------------------

/-- The sensor of the demonstration, with an orientation and an angular velocity. -/
def sensor (orientation : Buffer 4) (gyroscope : Buffer 3) : Descriptor :=
  { Descriptor.bare "imu" "imu_link" with
    orientation := some orientation
    angularVelocity := some gyroscope }

theorem capabilities_sensor (orientation : Buffer 4) (gyroscope : Buffer 3)
    : (Handle.ofDescriptor (sensor orientation gyroscope)).capabilities.bits = 5 := by
  simp only [Handle.ofDescriptor, sensor, Descriptor.bare, PerChannel.ofFn,
    Handle.presentChannels, Capabilities.set, PerChannel.get, Channel.all, List.foldl_cons,
    Option.isSome_some, if_true, Option.isSome_none, Bool.false_eq_true, if_false, List.foldl_nil]
  decide

/-- A line shows what is in the two buffers. -/
theorem line_sensor (orientation : Buffer 4) (gyroscope : Buffer 3) (memory : Memory)
    : line (.ofDescriptor (sensor orientation gyroscope)) memory
      = object (memory.cell orientation 0) (memory.cell orientation 1)
          (memory.cell orientation 2) (memory.cell orientation 3) (memory.cell gyroscope 2) := by
  have name : (Handle.ofDescriptor (sensor orientation gyroscope)).name = "imu" := rfl
  have read
      : (Handle.ofDescriptor (sensor orientation gyroscope)).read memory
        = ⟨some (memory.load orientation), none, some (memory.load gyroscope), none, none, none⟩ :=
    rfl
  have turned (index : Fin 4) : (memory.load orientation)[index] = memory.cell orientation index :=
    Vector.getElem_ofFn index.isLt
  have rate : (memory.load gyroscope)[2] = memory.cell gyroscope 2 :=
    Vector.getElem_ofFn (by decide)
  simp only [line, name, read, capabilities_sensor, Option.map_some, Option.map_none, turned, rate]
  rfl

/-- Two buffers for a sensor that turns about its third axis at the rate of the demonstration. -/
structure Spinning (orientation : Buffer 4) (gyroscope : Buffer 3) (memory : Memory) : Prop where
  apart : orientation.address ≠ gyroscope.address
  holdsOrientation : memory.Holds orientation
  holdsGyroscope : memory.Holds gyroscope
  x : memory.cell orientation 0 = 0
  y : memory.cell orientation 1 = 0
  rate : memory.cell gyroscope 2 = 0.5

/-- What is printed when the sensor has turned by twice this angle. -/
def sampleLine (waves : Waves) (half : Double) : List Char :=
  object (some 0) (some 0) (some (waves.sine half)) (some (waves.cosine half)) (some 0.5)

section Runs

variable (waves : Waves) (interval : UInt64) {orientation : Buffer 4} {gyroscope : Buffer 3}
  {memory : Memory}

/-- Turning writes the cosine and the sine of the half angle, and nothing else. -/
theorem cell_turn {size : ℕ} {buffer : Buffer size} (held : memory.Holds buffer) (count : UInt64)
    (index : Fin size)
    : (turn waves interval orientation memory count).cell buffer index
      = if orientation.address = buffer.address ∧ 3 = index.val then
          waves.cosine (halfAngle interval count)
        else if orientation.address = buffer.address ∧ 2 = index.val then
          waves.sine (halfAngle interval count)
        else
          memory.cell buffer index :=
  (Memory.cell_write (Memory.holds_write held _ _ _) _ _ _ _).trans
    (congrArg _ (Memory.cell_write held _ _ _ _))

theorem holds_turn {size : ℕ} {buffer : Buffer size} (held : memory.Holds buffer) (count : UInt64)
    : (turn waves interval orientation memory count).Holds buffer :=
  Memory.holds_write (Memory.holds_write held _ _ _) _ _ _

theorem Spinning.next (spinning : Spinning orientation gyroscope memory) (count : UInt64)
    : Spinning orientation gyroscope (turn waves interval orientation memory count) where
  apart := spinning.apart
  holdsOrientation := holds_turn waves interval spinning.holdsOrientation count
  holdsGyroscope := holds_turn waves interval spinning.holdsGyroscope count
  x := by
    rw [cell_turn waves interval spinning.holdsOrientation, spinning.x]
    simp
  y := by
    rw [cell_turn waves interval spinning.holdsOrientation, spinning.y]
    simp
  rate := by
    rw [cell_turn waves interval spinning.holdsGyroscope, spinning.rate,
      if_neg (not_and_of_not_left _ spinning.apart), if_neg (not_and_of_not_left _ spinning.apart)]

/-- The line that is printed after turning shows the half angle by its sine and its cosine. -/
theorem Spinning.line_turn (spinning : Spinning orientation gyroscope memory) (count : UInt64)
    : line (.ofDescriptor (sensor orientation gyroscope))
        (turn waves interval orientation memory count)
      = sampleLine waves (halfAngle interval count) := by
  have turned := spinning.next waves interval count
  have sine
      : (turn waves interval orientation memory count).cell orientation 2
        = waves.sine (halfAngle interval count) := by
    rw [cell_turn waves interval spinning.holdsOrientation]
    simp
  have cosine
      : (turn waves interval orientation memory count).cell orientation 3
        = waves.cosine (halfAngle interval count) :=
    (cell_turn waves interval spinning.holdsOrientation count 3).trans (if_pos ⟨rfl, rfl⟩)
  rw [line_sensor, turned.x, turned.y, sine, cosine, turned.rate, sampleLine]

/-- By induction on the samples, each of which leaves the sensor turning. -/
theorem Spinning.sampleLines_eq (spinning : Spinning orientation gyroscope memory)
    (count samples : ℕ)
    : sampleLines waves interval orientation (.ofDescriptor (sensor orientation gyroscope)) memory
        count samples
      = (List.range' count samples).map fun count =>
          String.ofList (sampleLine waves (halfAngle interval (.ofNat count))) := by
  induction samples generalizing memory count with
  | zero => rfl
  | succ samples ih =>
      have turned := spinning.next waves interval (.ofNat count)
      rw [sampleLines, spinning.line_turn, ih turned, List.range'_succ, List.map_cons]

end Runs

theorem lines_append (first second : List String)
    : lines (first ++ second) = lines first ++ lines second := by
  rw [lines, List.map_append, String.join_append]
  rfl

theorem spinning_allocated
    : let allocated := Memory.empty.allocate Storage.initialValues.orientation
      let both := allocated.1.allocate (#v[0, 0, 0.5] : Vector Double 3)
      Spinning allocated.2 both.2 both.1 := by
  intro allocated both
  have held : allocated.1.Holds allocated.2 := Memory.holds_allocate_new _ _
  have kept (index : Fin 4)
      : both.1.cell allocated.2 index = Storage.initialValues.orientation[index] :=
    (Memory.cell_allocate held _ index).trans (Memory.cell_allocate_new _ _ index)
  exact
    {
      apart := by decide
      holdsOrientation := Memory.holds_allocate held _
      holdsGyroscope := Memory.holds_allocate_new _ _
      x := kept 0
      y := kept 1
      rate := Memory.cell_allocate_new _ _ 2
    }

/-- The sensor is found again under the name it was registered with, in every environment. -/
theorem outcome_eq (waves : Waves) (environment : Environment)
    : outcome waves environment
      = .printed
          (lines
            ((List.range (environment.count "IMU_DEMO_SAMPLES" 100).toNat).map fun count =>
              String.ofList
                (sampleLine waves
                  (halfAngle (environment.count "IMU_DEMO_INTERVAL_MS" 10) (.ofNat count))))) := by
  let allocated := Memory.empty.allocate Storage.initialValues.orientation
  let both := allocated.1.allocate (#v[0, 0, 0.5] : Vector Double 3)
  let described := sensor allocated.2 both.2
  have found
      : ((Registry.empty.register described).result.lookup "imu").result
        = .ok (.ofDescriptor described) := by
    rw [Registry.lookup_result, Registry.register_result, NameMap.getElem?_insert]
    rfl
  rw [List.range_eq_range', ← spinning_allocated.sampleLines_eq]
  exact congrArg
    (fun result =>
      Outcome.withHandle result fun handle =>
        .printed
          (lines
            (sampleLines waves (environment.count "IMU_DEMO_INTERVAL_MS" 10) allocated.2 handle
              both.1 0 (environment.count "IMU_DEMO_SAMPLES" 100).toNat)))
    found

/-- The program always ends well. It prints as many lines as there are samples to take, each of
which is read as a sample and in no other way, and shows the sine and the cosine of the angle that
belongs to its number; and with the same time between samples a longer run prints what the shorter
one does, and then more.
-/
theorem outcome_prints_samples (waves : Waves) (environment : Environment)
    : (∃ content : List String,
        outcome waves environment = ⟨0, lines content⟩
        ∧ content.length = (environment.count "IMU_DEMO_SAMPLES" 100).toNat
        ∧ (∀ line ∈ content, IsSampleLine line.toList)
        ∧ ∀ count line,
            content[count]? = some line
            → let half :=
                halfAngle (environment.count "IMU_DEMO_INTERVAL_MS" 10) (.ofNat count)
              line.toList = sampleLine waves half)
      ∧ ∀ longer : Environment,
          environment.count "IMU_DEMO_SAMPLES" 100 ≤ longer.count "IMU_DEMO_SAMPLES" 100
          → environment.count "IMU_DEMO_INTERVAL_MS" 10 = longer.count "IMU_DEMO_INTERVAL_MS" 10
          → ∃ rest, (outcome waves longer).output = (outcome waves environment).output ++ rest := by
  constructor
  · refine ⟨_, outcome_eq waves environment, ?_, ?_, ?_⟩
    · rw [List.length_map, List.length_range]
    · intro line printed
      obtain ⟨count, _, rfl⟩ := List.mem_map.mp printed
      rw [String.toList_ofList]
      exact isSampleLine_object _ _ _ _ _
    · intro count line printed
      rw [List.getElem?_map, Option.map_eq_some_iff] at printed
      obtain ⟨number, there, rfl⟩ := printed
      obtain ⟨_, rfl⟩ := List.getElem?_eq_some_iff.mp there
      rw [List.getElem_range, String.toList_ofList]
  · intro longer more same
    obtain ⟨further, samples⟩ := Nat.exists_eq_add_of_le (UInt64.le_iff_toNat_le.mp more)
    rw [outcome_eq, outcome_eq, samples, same, List.range_add, List.map_append, Outcome.printed,
      lines_append]
    exact ⟨_, rfl⟩

end Inertial.Demo.JsonLines
