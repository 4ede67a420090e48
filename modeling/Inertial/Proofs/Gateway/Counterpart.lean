import Inertial.Gateway
import Inertial.Proofs.Memory.Ledger
import Inertial.Proofs.Registry.LastOperation

/-!
The operations on registries that the calls of a gateway stand for. A counterpart has no memory, no
raw references and no status numbers. In their place it keeps the ledger of the callers' arrays, and
for each registry in use the operations that were made on it.
-/

namespace Inertial.Gateway

structure Counterpart where
  ledger : Ledger
  arrays : NameTable Nat
  registries : NameTable (List Registry.Operation)

namespace Counterpart

def empty : Counterpart := ⟨.empty, fun _ => none, fun _ => none⟩

/-- The first elements of the array that has the name now, if it has that many. -/
def firstOf? (counterpart : Counterpart) (size : Nat) (array : String) : Option (Buffer size) :=
  let large := (counterpart.arrays array).filter fun number =>
    (counterpart.ledger.sizeOf? number).any fun length => decide (size ≤ length)
  large.map Buffer.mk

/-- The sensor of a record. Its texts end at their first zero bytes, a null frame is an empty text,
and each array that is given provides its first elements. There is no such sensor when the name is
null, or when an array does not exist or is too short.
-/
def described? (counterpart : Counterpart) (sensor : SensorRecord) : Option Descriptor :=
  let given (channel : Channel) : Option (Buffer channel.size) :=
    (sensor.arrays channel).bind (counterpart.firstOf? channel.size)
  let frame :=
    match sensor.frame with
    | none => ""
    | some frame => Text.decodeLossy (Text.untilZero frame)
  match sensor.name with
  | none => none
  | some name =>
      let complete :=
        Channel.all.all fun channel => (given channel).isSome == (sensor.arrays channel).isSome
      if complete then
        some
          {
            toPerChannel := .ofFn given,
            name := Text.decodeLossy (Text.untilZero name),
            frame
          }
      else
        none

/-- The operation that a call stands for, and the registry it is made on. A call with a null
argument stands for none.
-/
def operation? (counterpart : Counterpart) : Call → Option (String × Registry.Operation)
  | .register (some registry) (some sensor) =>
      (counterpart.described? sensor).map fun descriptor => (registry, .register descriptor)
  | .size (some registry) => some (registry, .size)
  | .capabilities (some registry) (some name) =>
      some (registry, .lookup (Text.decodeLossy (Text.untilZero name)))
  | .read (some registry) (some name) (some _) =>
      some (registry, .lookup (Text.decodeLossy (Text.untilZero name)))
  | _ => none

/-- One more operation on a registry. A registry that is not in use stays so. -/
def operate (counterpart : Counterpart) (name : String) (operation : Registry.Operation)
    : Counterpart :=
  let longer := (counterpart.registries name).map fun history => history ++ [operation]
  { counterpart with registries := Function.update counterpart.registries name longer }

/-- Arrays are numbered as they are made. A registry is in use from the call that makes it to the
one that frees it.
-/
def step (counterpart : Counterpart) : Call → Counterpart
  | .newArray array _ values =>
      { counterpart with
        ledger := counterpart.ledger.make values.toList
        arrays := Function.update counterpart.arrays array (some counterpart.ledger.made.length) }
  | .writeArray array index value =>
      let writes := counterpart.ledger.cellWrite (counterpart.arrays array) index value
      { counterpart with ledger := writes.foldl Ledger.record counterpart.ledger }
  | .newRegistry name =>
      { counterpart with registries := Function.update counterpart.registries name (some []) }
  | .freeRegistry (some name) =>
      { counterpart with registries := Function.update counterpart.registries name none }
  | call =>
      match counterpart.operation? call with
      | none => counterpart
      | some (name, operation) => counterpart.operate name operation

def run (counterpart : Counterpart) (calls : List Call) : Counterpart :=
  calls.foldl step counterpart

end Counterpart

end Inertial.Gateway
