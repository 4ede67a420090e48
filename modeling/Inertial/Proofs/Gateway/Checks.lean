import Inertial.Proofs.Gateway.Operations
import Inertial.Proofs.Text.ZeroBytes

/-! What each call checks, in its order, and the message when a check fails. The message of the
first check that fails is the one that the call reports.
-/

namespace Inertial.Gateway

/-- One condition on the arguments of a call, and what is said when it does not hold. -/
structure Check where
  holds : Bool
  message : String

def nullMessage (argument : String) : String := s!"Invalid argument: {argument} is null"

def missingMessage (sensor : String) : String :=
  s!"Could not find IMU sensor '{sensor}' in ImuSensorRegistry"

def registryCheck (gateway : Gateway) (reference : Reference) : Check :=
  ⟨(gateway.live? reference).isSome, nullMessage "registry"⟩

def nameCheck (name : RawText) : Check := ⟨name.isSome, nullMessage "sensor name"⟩

/-- The registry has a sensor of the decoded name. -/
def sensorCheck (gateway : Gateway) (reference : Reference) (name : RawText) : Check :=
  let decoded := Text.decodeLossy (Text.untilZero (name.getD []))
  ⟨(gateway.live? reference).any fun (_, registry) => registry.contains decoded,
    missingMessage decoded⟩

/-- What a call checks, in this order. -/
def checks (gateway : Gateway) : Call → List Check
  | .register registry sensor =>
      [gateway.registryCheck registry, ⟨sensor.isSome, nullMessage "sensor descriptor"⟩,
        nameCheck (sensor.bind fun sensor => sensor.name)]
  | .size registry => [gateway.registryCheck registry]
  | .capabilities registry name =>
      [gateway.registryCheck registry, nameCheck name, gateway.sensorCheck registry name]
  | .read registry name output =>
      [⟨output.isSome, nullMessage "output sample"⟩, gateway.registryCheck registry,
        nameCheck name, gateway.sensorCheck registry name]
  | _ => []

/-- The message of the first check that fails, if one does. -/
def firstMessage? (gateway : Gateway) (call : Call) : Option String :=
  ((gateway.checks call).find? fun check => !check.holds).map Check.message

variable (gateway : Gateway)

theorem firstMessage?_register (reference : Reference) (sensor : Option SensorRecord)
    : gateway.firstMessage? (.register reference sensor)
      = match gateway.registration reference sensor with
        | .error failure => some failure.message
        | .ok _ => none := by
  rw [registration_result]
  simp only [firstMessage?, checks, registryCheck]
  cases gateway.live? reference with
  | none => rfl
  | some entry =>
      cases sensor with
      | none => rfl
      | some sensor =>
          obtain ⟨name, frame, arrays⟩ := sensor
          cases name <;> rfl

theorem firstMessage?_size (reference : Reference)
    : gateway.firstMessage? (.size reference)
      = match gateway.live? reference with
        | none => some (CallFailure.null .registry).message
        | some _ => none := by
  simp only [firstMessage?, checks, registryCheck]
  cases gateway.live? reference <;> rfl

/-- The message has the name of the type, whatever path and arguments the text for the type has. -/
theorem message_of_names {text : String} (names : NamesType text "ImuSensorRegistry")
    (name : String)
    : (CallFailure.notFound ⟨name, bareTypeName text⟩).message = missingMessage name := by
  change "Could not find IMU sensor '" ++ name ++ "' in " ++ bareTypeName text
    = "Could not find IMU sensor '" ++ name ++ "' in ImuSensorRegistry"
  rw [names.bareTypeName_eq, String.append_assoc]
  rfl

theorem notFound_message (name : String)
    : (CallFailure.notFound ⟨name, Registry.interfaceName⟩).message = missingMessage name :=
  message_of_names Registry.typeName_names name

theorem firstMessage?_capabilities (reference : Reference) (name : RawText)
    : gateway.firstMessage? (.capabilities reference name)
      = match (gateway.lookup reference name).result with
        | .error failure => some failure.message
        | .ok _ => none := by
  rw [lookup_result]
  simp only [firstMessage?, checks, registryCheck, sensorCheck]
  cases gateway.live? reference with
  | none => rfl
  | some entry =>
      obtain ⟨registryName, registry⟩ := entry
      cases name with
      | none => rfl
      | some name =>
          simp only [Registry.lookup_result, Registry.contains_eq_isSome, decodeRaw,
            Option.getD_some, Option.any_some]
          cases registry.handles[Text.decodeLossy (Text.untilZero name)]? with
          | none => exact congrArg some (notFound_message _).symm
          | some handle => rfl

/-- Once there is an output sample, a read checks what asking for the mask checks. -/
theorem firstMessage?_read (reference : Reference) (name : RawText) (output : Sample)
    : gateway.firstMessage? (.read reference name (some output))
      = gateway.firstMessage? (.capabilities reference name) :=
  rfl

theorem nullMessage_zeroFree {argument : String} (zeroFree : Text.ZeroFree argument)
    : Text.ZeroFree (nullMessage argument) := by
  have start : Text.ZeroFree ("Invalid argument: " ++ argument) :=
    Text.ZeroFree.append (by decide) zeroFree
  exact start.append (by decide)

theorem missingMessage_zeroFree {sensor : String} (zeroFree : Text.ZeroFree sensor)
    : Text.ZeroFree (missingMessage sensor) := by
  have start : Text.ZeroFree ("Could not find IMU sensor '" ++ sensor) :=
    Text.ZeroFree.append (by decide) zeroFree
  exact start.append (by decide)

theorem sensorCheck_zeroFree (reference : Reference) (name : RawText)
    : Text.ZeroFree (gateway.sensorCheck reference name).message :=
  missingMessage_zeroFree (Text.decodeLossy_zeroFree (Text.zero_not_mem_untilZero _))

/-- Whatever a call has to say, it has no zero character. -/
theorem checks_zeroFree (call : Call)
    : ∀ check ∈ gateway.checks call, Text.ZeroFree check.message := by
  intro check member
  cases call with
  | register reference record =>
      simp only [checks, List.mem_cons, List.not_mem_nil, or_false] at member
      rcases member with rfl | rfl | rfl
      · exact nullMessage_zeroFree (by decide)
      · exact nullMessage_zeroFree (by decide)
      · exact nullMessage_zeroFree (by decide)
  | size reference =>
      simp only [checks, List.mem_cons, List.not_mem_nil, or_false] at member
      rw [member]
      exact nullMessage_zeroFree (by decide)
  | capabilities reference name =>
      simp only [checks, List.mem_cons, List.not_mem_nil, or_false] at member
      rcases member with rfl | rfl | rfl
      · exact nullMessage_zeroFree (by decide)
      · exact nullMessage_zeroFree (by decide)
      · exact gateway.sensorCheck_zeroFree reference name
  | read reference name output =>
      simp only [checks, List.mem_cons, List.not_mem_nil, or_false] at member
      rcases member with rfl | rfl | rfl | rfl
      · exact nullMessage_zeroFree (by decide)
      · exact nullMessage_zeroFree (by decide)
      · exact nullMessage_zeroFree (by decide)
      · exact gateway.sensorCheck_zeroFree reference name
  | _ => cases member

theorem firstMessage?_zeroFree {call : Call} {message : String}
    (first : gateway.firstMessage? call = some message)
    : Text.ZeroFree message := by
  obtain ⟨check, found, rfl⟩ := Option.map_eq_some_iff.mp first
  exact gateway.checks_zeroFree call check (List.mem_of_find?_eq_some found)

end Inertial.Gateway
