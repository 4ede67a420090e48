import Inertial.Proofs.Memory.Numbering
import Inertial.Proofs.Session.Chronicle
import Inertial.Session

/-! Every session follows its chronicle: the same names lead to the same buffers, the memory holds
the latest numbers of the ledger, and every handle reads the buffers it was built from.
-/

namespace Inertial

/-- In each channel, either both provide nothing or both provide the same buffer. -/
def Memory.BuiltFrom (memory : Memory) (buffers : PerChannel OptionalBuffer) (origin : Origin)
    : Prop :=
  ∀ channel, Option.Rel memory.Numbered (buffers.get channel) (origin channel)

theorem Memory.BuiltFrom.mono {old new : Memory} (grown : old.Extends new)
    {buffers : PerChannel OptionalBuffer} {origin : Origin}
    (built : old.BuiltFrom buffers origin)
    : new.BuiltFrom buffers origin :=
  fun channel => rel_mono (fun _ _ numbered => numbered.mono grown) (built channel)

namespace Session

/-- The handle at a place, if there is one. -/
def handleAt? (session : Session) : HandlePlace → Option Handle
  | .kept handle => session.handles[handle]?
  | .registered registry sensor => (session.registry registry).handles[sensor]?

structure Follows (session : Session) (chronicle : Chronicle) : Prop where
  memory : session.memory.Follows chronicle.ledger
  buffers
    : NameMap.Tracks (fun sized number => session.memory.Numbered sized.buffer number)
        session.buffers chronicle.buffers
  storages
    : NameMap.Tracks
        (fun storage numbers =>
          ∀ channel, session.memory.Numbered (storage.get channel) (numbers channel))
        session.storages chronicle.storages
  kept
    : NameMap.Tracks (fun handle origin => session.memory.BuiltFrom handle.toPerChannel origin)
        session.handles chronicle.kept
  registered
    : ∀ registry,
        NameMap.Tracks
          (fun handle origin => session.memory.BuiltFrom handle.toPerChannel origin)
          (session.registry registry).handles (chronicle.registered registry)

theorem registry_empty (name : String) : Session.empty.registry name = .empty := by
  simp [registry, empty]

theorem follows_empty : empty.Follows .empty where
  memory := Memory.follows_empty
  buffers := NameMap.tracks_empty
  storages := NameMap.tracks_empty
  kept := NameMap.tracks_empty
  registered registry := by
    rw [registry_empty]
    exact NameMap.tracks_empty

variable {session : Session} {chronicle : Chronicle}

/-- When only memory changes and all blocks stay, names and handles lead where they led before. -/
theorem Follows.remember (follows : session.Follows chronicle)
    {memory : Memory} {ledger : Ledger} (grown : session.memory.Extends memory)
    (following : memory.Follows ledger)
    : { session with memory }.Follows { chronicle with ledger } where
  memory := following
  buffers := follows.buffers.mono fun _ _ numbered => numbered.mono grown
  storages := follows.storages.mono fun _ _ numbered channel => (numbered channel).mono grown
  kept := follows.kept.mono fun _ _ built => built.mono grown
  registered registry := (follows.registered registry).mono fun _ _ built => built.mono grown

/-- A handle is in a session exactly when its chronicle knows its origin. -/
theorem Follows.handle (follows : session.Follows chronicle) (place : HandlePlace)
    : Option.Rel (fun handle origin => session.memory.BuiltFrom handle.toPerChannel origin)
        (session.handleAt? place) (chronicle.origin? place) := by
  cases place with
  | kept handle => exact follows.kept handle
  | registered registry sensor => exact follows.registered registry sensor

theorem Follows.sizedBuffer? (follows : session.Follows chronicle) (place : BufferPlace)
    : Option.Rel (fun sized number => session.memory.Numbered sized.buffer number)
        (session.sizedBuffer? place) (chronicle.bufferAt? place) := by
  cases place with
  | named buffer => exact follows.buffers buffer
  | stored storage channel =>
      have tracked := follows.storages storage
      simp only [Session.sizedBuffer?, Chronicle.bufferAt?]
      generalize session.storages[storage]? = buffers at tracked ⊢
      generalize chronicle.storages storage = numbers at tracked ⊢
      cases tracked with
      | none => exact .none
      | some numbered => exact .some (numbered channel)

theorem Follows.buffer? (follows : session.Follows chronicle) (size : Nat) (place : BufferPlace)
    : Option.Rel session.memory.Numbered (session.buffer? size place)
        (chronicle.bufferOfSize? size place) := by
  have tracked := follows.sizedBuffer? place
  unfold Session.buffer? Chronicle.bufferOfSize?
  cases found : session.sizedBuffer? place with
  | none =>
      rw [found, rel_none_left] at tracked
      rw [tracked]
      exact .none
  | some sized =>
      rw [found, rel_some_left] at tracked
      obtain ⟨number, known, numbered⟩ := tracked
      rw [known, Option.bind_some, SizedBuffer.ofSize?, Option.filter_some,
        follows.memory.sizeOf?_numbered numbered]
      by_cases fitting : sized.size = size
      · subst fitting
        simp only [if_true, BEq.rfl]
        exact .some numbered
      · simp only [fitting, if_false, beq_iff_eq, Option.some.injEq]
        exact .none

/-- A description leads to the buffers that the chronicle says, and fails when it says so. -/
theorem Follows.descriptor? (follows : session.Follows chronicle) (sensor : SensorSource)
    : Option.Rel
        (fun descriptor origin =>
          session.memory.BuiltFrom descriptor.toPerChannel origin
            ∧ descriptor.name = sensor.name)
        (session.descriptor? sensor) (chronicle.described? sensor) := by
  have resolved (channel : Channel)
      : Option.Rel session.memory.Numbered
          ((sensor.buffers.place? channel).bind (session.buffer? channel.size))
          ((sensor.buffers.place? channel).bind (chronicle.bufferOfSize? channel.size)) := by
    cases sensor.buffers.place? channel with
    | none => exact .none
    | some place => exact follows.buffer? channel.size place
  simp only [Session.descriptor?, Chronicle.described?, Descriptor.find?,
    fun channel => rel_isSome (resolved channel)]
  split
  · refine .some ⟨fun channel => ?_, rfl⟩
    rw [PerChannel.get_ofFn]
    exact resolved channel
  · exact .none

end Session

end Inertial
