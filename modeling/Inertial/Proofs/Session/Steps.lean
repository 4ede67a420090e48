import Inertial.Proofs.Registry.Operations
import Inertial.Proofs.Session.Following

/-! Each command keeps a session on the course of its chronicle, and so does every run. -/

namespace Inertial.Session

variable {session : Session} {chronicle : Chronicle}

/-- Writing one cell of a numbered buffer is one entry of the ledger, or none out of range. -/
theorem Follows.writeCell (follows : session.Follows chronicle)
    {size : Nat} {buffer : Buffer size} {number : Nat}
    (numbered : session.memory.Numbered buffer number) (index : Nat) (value : Double)
    : (session.writeCell buffer index value).result.1.Follows
        { chronicle with
          ledger :=
            (chronicle.ledger.cellWrite (some number) index value).foldl Ledger.record
              chronicle.ledger } := by
  rw [Ledger.cellWrite_some (follows.memory.sizeOf?_numbered numbered)]
  obtain ⟨rfl, fits⟩ := numbered
  by_cases inRange : index < size
  · simp only [Session.writeCell, inRange, dif_pos, if_true, quietly]
    exact follows.remember (session.memory.extends_write buffer ⟨index, inRange⟩ value)
      (follows.memory.write fits.holds ⟨index, inRange⟩ value)
  · simp only [Session.writeCell, inRange, dif_neg, if_false, quietly, not_false_eq_true]
    exact follows

/-- Storing into a numbered buffer is one entry of the ledger for each of its cells. -/
theorem Follows.storeBuffer (follows : session.Follows chronicle)
    {size : Nat} {buffer : Buffer size} {number : Nat}
    (numbered : session.memory.Numbered buffer number) (values : Vector Double size)
    : { session with memory := session.memory.store buffer values }.Follows
        { chronicle with
          ledger := (Ledger.wholeBuffer number values).foldl Ledger.record chronicle.ledger } := by
  obtain ⟨rfl, fits⟩ := numbered
  exact follows.remember (session.memory.extends_store buffer values)
    (follows.memory.store fits.holds values)

/-- A new storage has six new buffers, numbered in the order of the channels. -/
theorem allocate_storage {memory : Memory} {ledger : Ledger} (follows : memory.Follows ledger)
    : (Storage.allocate memory).1.Follows
        ((Channel.all.map Chronicle.initialValues).foldl Ledger.make ledger)
      ∧ memory.Extends (Storage.allocate memory).1
      ∧ ∀ channel,
          (Storage.allocate memory).1.Numbered ((Storage.allocate memory).2.get channel)
            (ledger.made.length + Channel.all.idxOf channel) := by
  let initial := Storage.initialValues
  have first := follows.allocate initial.orientation
  have second := first.allocate initial.orientationCovariance
  have third := second.allocate initial.angularVelocity
  have fourth := third.allocate initial.angularVelocityCovariance
  have fifth := fourth.allocate initial.linearAcceleration
  have sixth := fifth.allocate initial.linearAccelerationCovariance
  let one := (memory.allocate initial.orientation).1
  let two := (one.allocate initial.orientationCovariance).1
  let three := (two.allocate initial.angularVelocity).1
  let four := (three.allocate initial.angularVelocityCovariance).1
  let five := (four.allocate initial.linearAcceleration).1
  have fromFive := five.extends_allocate initial.linearAccelerationCovariance
  have fromFour := (four.extends_allocate initial.linearAcceleration).trans fromFive
  have fromThree := (three.extends_allocate initial.angularVelocityCovariance).trans fromFour
  have fromTwo := (two.extends_allocate initial.angularVelocity).trans fromThree
  have fromOne := (one.extends_allocate initial.orientationCovariance).trans fromTwo
  have fromStart := (memory.extends_allocate initial.orientation).trans fromOne
  refine ⟨sixth, fromStart, fun channel => ?_⟩
  cases channel with
  | orientation => exact (follows.numbered_next _ rfl).mono fromOne
  | orientationCovariance =>
      exact (first.numbered_next _ (by simp only [Ledger.length_make]; rfl)).mono fromTwo
  | angularVelocity =>
      exact (second.numbered_next _ (by simp only [Ledger.length_make]; rfl)).mono fromThree
  | angularVelocityCovariance =>
      exact (third.numbered_next _ (by simp only [Ledger.length_make]; rfl)).mono fromFour
  | linearAcceleration =>
      exact (fourth.numbered_next _ (by simp only [Ledger.length_make]; rfl)).mono fromFive
  | linearAccelerationCovariance =>
      exact fifth.numbered_next _ (by simp only [Ledger.length_make]; rfl)

theorem Follows.stepDriver (follows : session.Follows chronicle) (command : DriverCommand)
    : (session.stepDriver command).result.1.Follows (chronicle.step (.driver command)) := by
  cases command with
  | newBuffer name size values =>
      have remembered :=
        follows.remember (session.memory.extends_allocate values) (follows.memory.allocate values)
      have numbered := follows.memory.numbered_allocate values
      exact { remembered with buffers := remembered.buffers.insert name numbered }
  | store name size values =>
      have found := follows.buffer? size (.named name)
      simp only [Session.stepDriver, Chronicle.step, Chronicle.writesOf]
      generalize session.buffer? size (.named name) = buffer at found ⊢
      generalize chronicle.bufferOfSize? size (.named name) = number at found ⊢
      cases found with
      | none => exact follows
      | some numbered => exact follows.storeBuffer numbered values
  | write name index value =>
      have found := follows.buffers name
      simp only [Session.stepDriver, Chronicle.step, Chronicle.writesOf]
      generalize session.buffers[name]? = buffer at found ⊢
      generalize chronicle.buffers name = number at found ⊢
      cases found with
      | none => exact follows
      | some numbered => exact follows.writeCell numbered index value
  | newStorage name =>
      obtain ⟨following, grown, numbered⟩ := allocate_storage follows.memory
      have remembered := follows.remember grown following
      exact { remembered with storages := remembered.storages.insert name numbered }
  | storeChannel storage channel values =>
      have found := follows.storages storage
      simp only [Session.stepDriver, Chronicle.step, Chronicle.writesOf]
      generalize session.storages[storage]? = buffers at found ⊢
      generalize chronicle.storages storage = numbers at found ⊢
      cases found with
      | none => exact follows
      | some numbered => exact follows.storeBuffer (numbered channel) values
  | writeChannel storage channel index value =>
      have found := follows.storages storage
      simp only [Session.stepDriver, Chronicle.step, Chronicle.writesOf]
      generalize session.storages[storage]? = buffers at found ⊢
      generalize chronicle.storages storage = numbers at found ⊢
      cases found with
      | none => exact follows
      | some numbered => exact follows.writeCell (numbered channel) index value

theorem registry_insert (session : Session) (key : String) (value : Registry) (name : String)
    : { session with registries := session.registries.insert key value }.registry name
      = if key = name then value else session.registry name := by
  simp only [registry, NameMap.getElem?_insert]
  split <;> rfl

theorem registry_erase (session : Session) (key name : String)
    : { session with registries := session.registries.erase key }.registry name
      = if key = name then .empty else session.registry name := by
  simp only [registry, NameMap.getElem?_erase]
  split <;> rfl

/-- A registry put under a name is one that the chronicle knows there. -/
theorem Follows.setRegistry (follows : session.Follows chronicle) (name : String)
    {registry : Registry} {table : NameTable Origin}
    (tracks
      : NameMap.Tracks (fun handle origin => session.memory.BuiltFrom handle.toPerChannel origin)
          registry.handles table)
    : { session with registries := session.registries.insert name registry }.Follows
        { chronicle with registered := Function.update chronicle.registered name table } where
  memory := follows.memory
  buffers := follows.buffers
  storages := follows.storages
  kept := follows.kept
  registered other := by
    rw [registry_insert]
    dsimp only
    by_cases same : name = other
    · subst other
      rw [if_pos rfl, Function.update_self]
      exact tracks
    · rw [if_neg same, Function.update_of_ne (Ne.symm same)]
      exact follows.registered other

theorem Follows.dropRegistry (follows : session.Follows chronicle) (name : String)
    : { session with registries := session.registries.erase name }.Follows
        { chronicle with registered := Function.update chronicle.registered name fun _ => none }
    where
  memory := follows.memory
  buffers := follows.buffers
  storages := follows.storages
  kept := follows.kept
  registered other := by
    rw [registry_erase]
    dsimp only
    by_cases same : name = other
    · subst other
      rw [if_pos rfl, Function.update_self]
      exact NameMap.tracks_empty
    · rw [if_neg same, Function.update_of_ne (Ne.symm same)]
      exact follows.registered other

theorem Follows.keepHandle (follows : session.Follows chronicle) (keepAs : Option String)
    {handle : Handle} {origin : Origin}
    (built : session.memory.BuiltFrom handle.toPerChannel origin)
    : (session.keepHandle keepAs handle).Follows
        { chronicle with kept := chronicle.keep keepAs (some origin) } := by
  cases keepAs with
  | none => exact follows
  | some name => exact { follows with kept := follows.kept.insert name built }

theorem Follows.stepRegistry (follows : session.Follows chronicle) (name : String)
    (command : RegistryCommand)
    : (session.stepRegistry name command).result.1.Follows
        (chronicle.step (.registry name command)) := by
  cases command with
  | register sensor =>
      have found := follows.descriptor? sensor
      simp only [Session.stepRegistry, Chronicle.step, Chronicle.registeredAfter]
      generalize session.descriptor? sensor = descriptor at found ⊢
      generalize chronicle.described? sensor = origin at found ⊢
      cases found with
      | none => exact follows
      | some described =>
          obtain ⟨built, named⟩ := described
          simp only [Registry.register_result, named]
          exact follows.setRegistry name ((follows.registered name).insert sensor.name built)
  | lookup sensor keepAs =>
      have found := follows.registered name sensor
      simp only [Session.stepRegistry, Chronicle.step, Chronicle.keptAfter,
        Registry.lookup_result]
      generalize (session.registry name).handles[sensor]? = handle at found ⊢
      generalize chronicle.registered name sensor = origin at found ⊢
      cases found with
      | none => cases keepAs <;> exact follows
      | some built => exact follows.keepHandle keepAs built
  | unregister sensor keepAs =>
      have found := follows.registered name sensor
      have removed := follows.setRegistry name ((follows.registered name).erase sensor)
      simp only [Session.stepRegistry, Chronicle.step, Chronicle.keptAfter,
        Chronicle.registeredAfter, Registry.unregister_result]
      generalize (session.registry name).handles[sensor]? = handle at found ⊢
      generalize chronicle.registered name sensor = origin at found ⊢
      cases found with
      | none => cases keepAs <;> exact removed
      | some built => exact removed.keepHandle keepAs built
  | copyTo copy => exact follows.setRegistry copy (follows.registered name)
  | drop => exact follows.dropRegistry name
  | contains _ => exact follows
  | names => exact follows
  | overview => exact follows
  | readAll => exact follows
  | inspect _ => exact follows

/-- Keeping a reading changes nothing that a chronicle speaks of. -/
theorem Follows.keepReading (follows : session.Follows chronicle) (keepAs : Option String)
    (reading : Reading)
    : (session.keepReading keepAs reading).Follows chronicle := by
  cases keepAs with
  | none => exact follows
  | some name => exact { follows with }

theorem Follows.stepHandle (follows : session.Follows chronicle) {name : String}
    {handle : Handle} {origin : Origin} (known : chronicle.kept name = some origin)
    (built : session.memory.BuiltFrom handle.toPerChannel origin) (command : HandleCommand)
    : (session.stepHandle handle command).result.1.Follows
        (chronicle.step (.handle name command)) := by
  cases command with
  | copyTo copy =>
      simp only [Chronicle.step, Chronicle.keptAfter, known]
      exact follows.keepHandle (some copy) built
  | write channel index value =>
      have viewed := built channel
      simp only [Session.stepHandle, Chronicle.step, Chronicle.writesOf, known, Option.bind_some]
      generalize handle.get channel = buffer at viewed ⊢
      generalize origin channel = number at viewed ⊢
      cases viewed with
      | none => exact follows
      | some numbered => exact follows.writeCell numbered index value
  | view channel =>
      simp only [Session.stepHandle]
      split <;> exact follows
  | aliases channel place =>
      simp only [Session.stepHandle]
      split
      · exact follows
      · split <;> exact follows
  | read keepAs => exact follows.keepReading keepAs _
  | describe => exact follows
  | has _ => exact follows
  | sample => exact follows
  | inspect _ => exact follows

theorem Follows.step (follows : session.Follows chronicle) (command : Command)
    : (session.step command).result.1.Follows (chronicle.step command) := by
  cases command with
  | driver command => exact follows.stepDriver command
  | registry name command => exact follows.stepRegistry name command
  | handle name command =>
      simp only [Session.step]
      cases found : session.handles[name]? with
      | some handle =>
          obtain ⟨origin, known, built⟩ := follows.kept.entry found
          exact follows.stepHandle known built command
      | none =>
          have unknown := follows.kept.absent found
          cases command with
          | copyTo _ =>
              simp only [Chronicle.step, Chronicle.keptAfter, unknown]
              exact follows
          | write _ _ _ =>
              simp only [Chronicle.step, Chronicle.writesOf, unknown]
              exact follows
          | _ => exact follows
  | newHandle name sensor =>
      have found := follows.descriptor? sensor
      simp only [Session.step, Chronicle.step, Chronicle.keptAfter]
      generalize session.descriptor? sensor = descriptor at found ⊢
      generalize chronicle.described? sensor = origin at found ⊢
      cases found with
      | none => exact follows
      | some described => exact follows.keepHandle (some name) described.1
  | dropHandle name => exact { follows with kept := follows.kept.erase name }
  | «recall» reading =>
      simp only [Session.step]
      split <;> exact follows
  | compare left right =>
      simp only [Session.step]
      split <;> exact follows
  | interfaceName => exact follows
  | inspectStorage storage _ =>
      simp only [Session.step]
      split <;> exact follows
  | inspectSensor sensor _ =>
      simp only [Session.step]
      split <;> exact follows

/-- Every run keeps a session on the course of its chronicle, by induction on the commands. -/
theorem Follows.run (follows : session.Follows chronicle) (commands : List Command)
    : (session.run commands).1.Follows (chronicle.run commands) := by
  induction commands generalizing session chronicle with
  | nil => exact follows
  | cons command rest ih => exact ih (follows.step command)

theorem run_follows (commands : List Command)
    : (empty.run commands).1.Follows (Chronicle.empty.run commands) :=
  follows_empty.run commands

end Inertial.Session
