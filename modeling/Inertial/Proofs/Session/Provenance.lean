import Inertial.Proofs.NameOrder
import Inertial.Proofs.Session.Operations
import Inertial.Proofs.Session.Steps

/-! Where the handles of a session come from. Only a description makes a new handle; all other
commands pass on the ones that are there, and leave alone the places they do not name.
-/

namespace Inertial.Session

/-- The command may put a handle at the place or take one away from there. -/
def Command.Assigns (place : HandlePlace) : Command → Prop
  | newHandle name _ => place = .kept name
  | dropHandle name => place = .kept name
  | handle _ (.copyTo copy) => place = .kept copy
  | registry name (.register sensor) => place = .registered name sensor.name
  | registry _ (.lookup _ keepAs) => ∃ kept, keepAs = some kept ∧ place = .kept kept
  | registry name (.unregister sensor keepAs) =>
      place = .registered name sensor ∨ ∃ kept, keepAs = some kept ∧ place = .kept kept
  | registry _ (.copyTo copy) => ∃ sensor, place = .registered copy sensor
  | registry name .drop => ∃ sensor, place = .registered name sensor
  | _ => False

/-- The handle that a command makes of a description. -/
def built? (session : Session) : Command → Option Handle
  | .newHandle _ sensor => (session.descriptor? sensor).map .ofDescriptor
  | .registry _ (.register sensor) => (session.descriptor? sensor).map .ofDescriptor
  | _ => none

/-- The session has the handle, kept under a name or in a registry. -/
def Has (session : Session) (handle : Handle) : Prop :=
  ∃ place, session.handleAt? place = some handle

variable {session : Session}

theorem descriptor?_name {sensor : SensorSource} {descriptor : Descriptor}
    (described : session.descriptor? sensor = some descriptor)
    : descriptor.name = sensor.name :=
  Descriptor.find?_name described

theorem handleAt?_keepHandle (session : Session) (keepAs : Option String) (handle : Handle)
    (place : HandlePlace)
    : (session.keepHandle keepAs handle).handleAt? place = session.handleAt? place
      ∨ (∃ kept, keepAs = some kept ∧ place = .kept kept)
        ∧ (session.keepHandle keepAs handle).handleAt? place = some handle := by
  cases keepAs with
  | none => exact .inl rfl
  | some name =>
      cases place with
      | kept other =>
          simp only [keepHandle, handleAt?, NameMap.getElem?_insert]
          by_cases same : name = other
          · subst other
            exact .inr ⟨⟨name, rfl, rfl⟩, if_pos rfl⟩
          · exact .inl (if_neg same)
      | registered registry sensor => exact .inl rfl

theorem handleAt?_insertRegistry (session : Session) (name : String) (registry : Registry)
    (place : HandlePlace)
    : { session with registries := session.registries.insert name registry }.handleAt? place
        = session.handleAt? place
      ∨ ∃ sensor,
          place = .registered name sensor
          ∧ { session with registries := session.registries.insert name registry }.handleAt? place
            = registry.handles[sensor]? := by
  cases place with
  | kept other => exact .inl rfl
  | registered other sensor =>
      simp only [handleAt?, registry_insert]
      by_cases same : name = other
      · subst other
        exact .inr ⟨sensor, rfl, by rw [if_pos rfl]⟩
      · exact .inl (by rw [if_neg same])

/-- After the command, the place has the handle that it had, or the command names the place and what
is there now was in the session before or is made by the command.
-/
def Passes (session : Session) (command : Command) (place : HandlePlace) : Prop :=
  (session.next command).handleAt? place = session.handleAt? place
  ∨ command.Assigns place
    ∧ ∀ handle,
        (session.next command).handleAt? place = some handle
        → session.Has handle ∨ session.built? command = some handle

theorem has_of_registry {name sensor : String} {handle : Handle}
    (found : (session.registry name).handles[sensor]? = some handle)
    : session.Has handle :=
  ⟨.registered name sensor, found⟩

theorem passes_lookup (name sensor : String) (keepAs : Option String) (place : HandlePlace)
    : session.Passes (.registry name (.lookup sensor keepAs)) place := by
  simp only [Passes, next, step, stepRegistry, Registry.lookup_result]
  cases found : (session.registry name).handles[sensor]? with
  | none => exact .inl rfl
  | some handle =>
      simp only
      rcases session.handleAt?_keepHandle keepAs handle place with same | ⟨assigned, kept⟩
      · exact .inl same
      · refine .inr ⟨assigned, ?_⟩
        intro other there
        rw [kept] at there
        cases there
        exact .inl (has_of_registry found)

theorem passes_register (name : String) (sensor : SensorSource) (place : HandlePlace)
    : session.Passes (.registry name (.register sensor)) place := by
  simp only [Passes, next, step, stepRegistry, built?]
  cases described : session.descriptor? sensor with
  | none => exact .inl rfl
  | some descriptor =>
      simp only [Registry.register_result, descriptor?_name described]
      rcases session.handleAt?_insertRegistry name _ place with same | ⟨other, rfl, there⟩
      · exact .inl same
      · rw [there, NameMap.getElem?_insert]
        by_cases same : sensor.name = other
        · subst other
          refine .inr ⟨rfl, ?_⟩
          intro handle new
          rw [if_pos rfl] at new
          exact .inr new
        · exact .inl (if_neg same)

theorem handleAt?_eraseSensor (session : Session) (name sensor : String) (place : HandlePlace)
    : let registry : Registry := ⟨(session.registry name).handles.erase sensor⟩
      let changed := { session with registries := session.registries.insert name registry }
      changed.handleAt? place = session.handleAt? place
      ∨ place = .registered name sensor ∧ changed.handleAt? place = none := by
  intro registry changed
  rcases session.handleAt?_insertRegistry name registry place with same | ⟨other, rfl, there⟩
  · exact .inl same
  · rw [there, NameMap.getElem?_erase]
    by_cases same : sensor = other
    · exact .inr ⟨by rw [same], if_pos same⟩
    · exact .inl (if_neg same)

theorem passes_unregister (name sensor : String) (keepAs : Option String) (place : HandlePlace)
    : session.Passes (.registry name (.unregister sensor keepAs)) place := by
  have erased := session.handleAt?_eraseSensor name sensor place
  simp only [Passes, next, step, stepRegistry, Registry.unregister_result] at erased ⊢
  cases found : (session.registry name).handles[sensor]? with
  | none =>
      rcases erased with same | ⟨rfl, gone⟩
      · exact .inl same
      · refine .inr ⟨.inl rfl, ?_⟩
        intro handle there
        rw [gone] at there
        cases there
  | some handle =>
      simp only
      rcases handleAt?_keepHandle _ keepAs handle place with same | ⟨assigned, kept⟩
      · rw [same]
        rcases erased with same | ⟨rfl, gone⟩
        · exact .inl same
        · refine .inr ⟨.inl rfl, ?_⟩
          intro handle there
          rw [gone] at there
          cases there
      · refine .inr ⟨.inr assigned, ?_⟩
        intro other there
        rw [kept] at there
        cases there
        exact .inl (has_of_registry found)

theorem passes_registry (name : String) (command : RegistryCommand) (place : HandlePlace)
    : session.Passes (.registry name command) place := by
  cases command with
  | register sensor => exact passes_register name sensor place
  | lookup sensor keepAs => exact passes_lookup name sensor keepAs place
  | unregister sensor keepAs => exact passes_unregister name sensor keepAs place
  | copyTo copy =>
      rcases session.handleAt?_insertRegistry copy (session.registry name) place with
        same | ⟨sensor, rfl, there⟩
      · exact .inl same
      · exact .inr ⟨⟨sensor, rfl⟩, fun handle found => .inl (has_of_registry (there ▸ found))⟩
  | drop =>
      cases place with
      | kept other => exact .inl rfl
      | registered other sensor =>
          simp only [Passes, next, step, stepRegistry, quietly, handleAt?, registry_erase]
          by_cases same : name = other
          · subst other
            refine .inr ⟨⟨sensor, rfl⟩, ?_⟩
            intro handle found
            rw [if_pos rfl] at found
            simp [Registry.empty] at found
          · exact .inl (by rw [if_neg same])
  | contains _ => exact .inl rfl
  | names => exact .inl rfl
  | overview => exact .inl rfl
  | readAll => exact .inl rfl
  | inspect _ => exact .inl rfl

theorem Spares.passes {command : Command} {given : List Handle}
    (spares : session.Spares given (session.step command)) (place : HandlePlace)
    : session.Passes command place := by
  refine .inl ?_
  cases place with
  | kept name => exact congrArg (fun handles : NameMap Handle => handles[name]?) spares.handles
  | registered name sensor =>
      simp only [handleAt?, registry, next, spares.registries]

theorem passes_handle (name : String) (command : HandleCommand) (place : HandlePlace)
    : session.Passes (.handle name command) place := by
  cases found : session.handles[name]? with
  | none =>
      refine .inl ?_
      simp only [next, step, found]
      rfl
  | some handle =>
      cases command with
      | copyTo copy =>
          simp only [Passes, next, step, found]
          rcases session.handleAt?_keepHandle (some copy) handle place with
            same | ⟨⟨kept, named, assigned⟩, there⟩
          · exact .inl same
          · cases named
            refine .inr ⟨assigned, ?_⟩
            intro other stands
            simp only [stepHandle, quietly] at stands
            rw [there] at stands
            cases stands
            exact .inl ⟨.kept name, found⟩
      | _ =>
          apply Spares.passes
          simp only [step, found]
          exact session.spares_handle handle (by simp)

/-- Each command passes handles on, makes one of a description, or does nothing about them. -/
theorem passes (command : Command) (place : HandlePlace) : session.Passes command place := by
  cases command with
  | registry name command => exact passes_registry name command place
  | handle name command => exact passes_handle name command place
  | newHandle name sensor =>
      simp only [Passes, next, step, built?]
      cases described : session.descriptor? sensor with
      | none => exact .inl rfl
      | some descriptor =>
          simp only [quietly]
          rcases session.handleAt?_keepHandle (some name) (.ofDescriptor descriptor) place with
            same | ⟨⟨kept, named, assigned⟩, there⟩
          · exact .inl same
          · cases named
            refine .inr ⟨assigned, ?_⟩
            intro handle new
            exact .inr (there.symm.trans new)
  | dropHandle name =>
      cases place with
      | registered _ _ => exact .inl rfl
      | kept other =>
          simp only [Passes, next, step, quietly, handleAt?, NameMap.getElem?_erase]
          by_cases same : name = other
          · subst other
            exact .inr ⟨rfl, fun handle found => by simp at found⟩
          · exact .inl (if_neg same)
  | _ => exact (session.spares_idle rfl).passes place

theorem has_of_mem_sensors {name : String} {handle : Handle}
    (member : handle ∈ (session.registry name).sensors)
    : session.Has handle := by
  rw [Registry.sensors, NameMap.values_eq_map_snd] at member
  obtain ⟨⟨sensor, _⟩, listed, rfl⟩ := List.mem_map.mp member
  exact has_of_registry (Std.ExtTreeMap.mem_toList_iff_getElem?_eq_some.mp listed)

theorem answered_registry {name : String} {command : RegistryCommand} {handle : Handle}
    (given : handle ∈ (session.stepRegistry name command).result.2.handles)
    : session.Has handle := by
  cases command with
  | register sensor =>
      simp only [stepRegistry] at given
      split at given <;> cases given
  | lookup sensor keepAs =>
      simp only [stepRegistry, Registry.lookup_result] at given
      cases found : (session.registry name).handles[sensor]? with
      | none => simp [found, Answer.handles] at given
      | some other =>
          simp only [found, Answer.handles, List.mem_singleton] at given
          exact given ▸ has_of_registry found
  | unregister sensor keepAs =>
      simp only [stepRegistry, Registry.unregister_result] at given
      cases found : (session.registry name).handles[sensor]? with
      | none => simp [found, Answer.handles] at given
      | some other =>
          simp only [found, Answer.handles, List.mem_singleton] at given
          exact given ▸ has_of_registry found
  | overview => exact has_of_mem_sensors given
  | _ => cases given

theorem answered_handle {handle other : Handle} {command : HandleCommand}
    (given : other ∈ (session.stepHandle handle command).result.2.handles)
    : other = handle := by
  cases command with
  | copyTo copy => exact List.mem_singleton.mp given
  | _ => exact List.mem_singleton.mp ((session.spares_handle handle (by simp)).answers _ given)

/-- What an answer gives out was in the session before or is made by the command. -/
theorem answered {command : Command} {handle : Handle}
    (given : handle ∈ (session.step command).result.2.handles)
    : session.Has handle ∨ session.built? command = some handle := by
  cases command with
  | registry name command => exact .inl (answered_registry given)
  | handle name command =>
      simp only [step] at given
      cases found : session.handles[name]? with
      | none => simp [found, quietly, Answer.handles] at given
      | some other =>
          simp only [found] at given
          exact .inl (answered_handle given ▸ ⟨.kept name, found⟩)
  | newHandle name sensor =>
      simp only [step] at given
      cases described : session.descriptor? sensor with
      | none => simp [described, quietly, Answer.handles] at given
      | some descriptor =>
          simp only [described] at given
          rw [List.mem_singleton.mp given]
          exact .inr (by rw [built?, described, Option.map_some])
  | dropHandle _ => cases given
  | _ => cases (session.spares_idle rfl).answers handle given

/-- Every handle of a session was there at the start or was made of a description at some point of
the run, by induction on the commands.
-/
theorem run_origin (commands : List Command) {handle : Handle}
    (has : (session.run commands).1.Has handle)
    : session.Has handle
      ∨ ∃ earlier command later,
          commands = earlier ++ command :: later
          ∧ (session.run earlier).1.built? command = some handle := by
  induction commands generalizing session with
  | nil => exact .inl has
  | cons command rest ih =>
      have following : (session.next command).Has handle
          → session.Has handle ∨ session.built? command = some handle := by
        rintro ⟨place, there⟩
        have passed : session.Passes command place := passes command place
        rcases passed with same | ⟨_, origin⟩
        · exact .inl ⟨place, same ▸ there⟩
        · exact origin handle there
      have later : ((session.next command).run rest).1.Has handle := has
      rcases ih later with start | made
      · rcases following start with before | built
        · exact .inl before
        · exact .inr ⟨[], command, rest, rfl, built⟩
      · obtain ⟨earlier, making, after, rfl, built⟩ := made
        exact .inr ⟨command :: earlier, making, after, rfl, built⟩

/-- A place keeps its handle through all commands that do not name it, by induction on them. -/
theorem handleAt?_run {commands : List Command} {place : HandlePlace}
    (untouched : ∀ command ∈ commands, ¬ command.Assigns place)
    : (session.run commands).1.handleAt? place = session.handleAt? place := by
  induction commands generalizing session with
  | nil => rfl
  | cons command rest ih =>
      have first : (session.next command).handleAt? place = session.handleAt? place := by
        have passed : session.Passes command place := passes command place
        rcases passed with same | ⟨assigned, _⟩
        · exact same
        · exact absurd assigned (untouched command (by simp))
      rw [← first]
      exact ih fun later member => untouched later (by simp [member])

end Inertial.Session
