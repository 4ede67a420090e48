import Inertial.Proofs.Memory.Ledger
import Inertial.Proofs.NameTable
import Inertial.Session.Command

/-!
Chronicles of sessions: for each command, which buffers it makes, which cells it writes, and which
names it gives away. A chronicle has no memory, no registries and no handles. In their place it
keeps the ledger of all writes, and for each handle in use the buffers that its sensor was described
with when the handle was built.
-/

namespace Inertial

/-- Which buffer, if any, a sensor was described with for each channel. -/
abbrev Origin := Channel → Option Nat

/-- Where a session has a handle: kept under a name, or in a registry under that of a sensor. -/
inductive HandlePlace where
  | kept (handle : String)
  | registered (registry sensor : String)

structure Chronicle where
  ledger : Ledger
  buffers : NameTable Nat
  storages : NameTable (Channel → Nat)
  kept : NameTable Origin
  registered : String → NameTable Origin

namespace Chronicle

open Session

def empty : Chronicle :=
  ⟨.empty, fun _ => none, fun _ => none, fun _ => none, fun _ _ => none⟩

/-- The buffers that the handle at a place was built from. -/
def origin? (chronicle : Chronicle) : HandlePlace → Option Origin
  | .kept handle => chronicle.kept handle
  | .registered registry sensor => chronicle.registered registry sensor

/-- The number of the buffer at a place, if there is one. -/
def bufferAt? (chronicle : Chronicle) : BufferPlace → Option Nat
  | .named buffer => chronicle.buffers buffer
  | .stored storage channel => (chronicle.storages storage).map fun buffers => buffers channel

/-- The number of the buffer at a place, if it is of this size. -/
def bufferOfSize? (chronicle : Chronicle) (size : Nat) (place : BufferPlace) : Option Nat :=
  (chronicle.bufferAt? place).filter fun buffer => chronicle.ledger.sizeOf? buffer == some size

/-- What a sensor is described with, if all buffers that it refers to exist and fit. -/
def described? (chronicle : Chronicle) (sensor : SensorSource) : Option Origin :=
  let place? := sensor.buffers.place?
  let given (channel : Channel) : Option Nat :=
    (place? channel).bind (chronicle.bufferOfSize? channel.size)
  if Channel.all.all fun channel => (given channel).isSome == (place? channel).isSome then
    some given
  else
    none

/-- The first numbers of a storage: no rotation, and zeros. -/
def initialValues : Channel → List Double
  | .orientation => [0, 0, 0, 1]
  | channel => List.replicate channel.size 0

/-- The buffers that a command makes, with their first numbers. -/
def madeBy : Command → List (List Double)
  | .driver (.newBuffer _ _ values) => [values.toList]
  | .driver (.newStorage _) => Channel.all.map initialValues
  | _ => []

/-- The writes of a command. Only drivers write, and readers through the view of a channel. -/
def writesOf (chronicle : Chronicle) : Command → List CellWrite
  | .driver (.store name size values) =>
      match chronicle.bufferOfSize? size (.named name) with
      | none => []
      | some buffer => Ledger.wholeBuffer buffer values
  | .driver (.write name index value) =>
      chronicle.ledger.cellWrite (chronicle.buffers name) index value
  | .driver (.storeChannel storage channel values) =>
      match chronicle.storages storage with
      | none => []
      | some buffers => Ledger.wholeBuffer (buffers channel) values
  | .driver (.writeChannel storage channel index value) =>
      chronicle.ledger.cellWrite ((chronicle.storages storage).map fun buffers => buffers channel)
        index value
  | .handle handle (.write channel index value) =>
      chronicle.ledger.cellWrite ((chronicle.kept handle).bind fun origin => origin channel) index
        value
  | _ => []

def buffersAfter (chronicle : Chronicle) : Command → NameTable Nat
  | .driver (.newBuffer name _ _) =>
      Function.update chronicle.buffers name (some chronicle.ledger.made.length)
  | _ => chronicle.buffers

def storagesAfter (chronicle : Chronicle) : Command → NameTable (Channel → Nat)
  | .driver (.newStorage name) =>
      Function.update chronicle.storages name
        (some fun channel => chronicle.ledger.made.length + Channel.all.idxOf channel)
  | _ => chronicle.storages

/-- The kept handles with one more of this origin, if there is one and it is to be kept. -/
def keep (chronicle : Chronicle) (keepAs : Option String) (origin : Option Origin)
    : NameTable Origin :=
  match keepAs, origin with
  | some name, some origin => Function.update chronicle.kept name (some origin)
  | _, _ => chronicle.kept

/-- A handle is built from a description. Looking it up, removing it from a registry and copying it
pass its origin on.
-/
def keptAfter (chronicle : Chronicle) : Command → NameTable Origin
  | .newHandle name sensor => chronicle.keep (some name) (chronicle.described? sensor)
  | .handle handle (.copyTo copy) => chronicle.keep (some copy) (chronicle.kept handle)
  | .registry registry (.lookup sensor keepAs) =>
      chronicle.keep keepAs (chronicle.registered registry sensor)
  | .registry registry (.unregister sensor keepAs) =>
      chronicle.keep keepAs (chronicle.registered registry sensor)
  | .dropHandle name => Function.update chronicle.kept name none
  | _ => chronicle.kept

def registeredAfter (chronicle : Chronicle) : Command → String → NameTable Origin
  | .registry registry (.register sensor) =>
      match chronicle.described? sensor with
      | none => chronicle.registered
      | some origin =>
          Function.update chronicle.registered registry
            (Function.update (chronicle.registered registry) sensor.name (some origin))
  | .registry registry (.unregister sensor _) =>
      Function.update chronicle.registered registry
        (Function.update (chronicle.registered registry) sensor none)
  | .registry registry (.copyTo copy) =>
      Function.update chronicle.registered copy (chronicle.registered registry)
  | .registry registry .drop =>
      Function.update chronicle.registered registry fun _ => none
  | _ => chronicle.registered

def step (chronicle : Chronicle) (command : Command) : Chronicle where
  ledger :=
    (chronicle.writesOf command).foldl Ledger.record
      ((madeBy command).foldl Ledger.make chronicle.ledger)
  buffers := chronicle.buffersAfter command
  storages := chronicle.storagesAfter command
  kept := chronicle.keptAfter command
  registered := chronicle.registeredAfter command

def run (chronicle : Chronicle) (commands : List Command) : Chronicle :=
  commands.foldl step chronicle

end Chronicle

end Inertial
