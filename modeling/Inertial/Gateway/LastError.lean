import Inertial.Registry
import Inertial.Text.Utf8

/-!
Why a call through the gateway can fail, and the place where the latest failure is kept for the
caller as zero-terminated text.
-/

namespace Inertial.Gateway

/-- The arguments that must not be null. -/
inductive Argument where
  | registry
  | sensorDescriptor
  | sensorName
  | outputSample
deriving DecidableEq

def Argument.label : Argument → String
  | registry => "registry"
  | sensorDescriptor => "sensor descriptor"
  | sensorName => "sensor name"
  | outputSample => "output sample"

inductive CallFailure where
  | null (argument : Argument)
  | notFound (failure : NotFound)
deriving DecidableEq

def CallFailure.message : CallFailure → String
  | null argument => s!"Invalid argument: {argument.label} is null"
  | notFound failure => failure.message

/-- The bytes of the latest failure's message with a zero byte at the end, or no bytes at all as
long as no call has failed.
-/
structure LastError where
  bytes : List UInt8
deriving DecidableEq

namespace LastError

def none : LastError := ⟨[]⟩

def ofFailure (failure : CallFailure) : LastError := ⟨Text.zeroTerminated failure.message⟩

/-- What a caller reads: nothing, or the text up to the first zero byte. -/
def text? (lastError : LastError) : Option String :=
  if lastError.bytes.isEmpty then
    Option.none
  else
    some (Text.decodeLossy (Text.untilZero lastError.bytes))

end LastError

end Inertial.Gateway
