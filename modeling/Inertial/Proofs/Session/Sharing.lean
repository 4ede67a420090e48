import Inertial.Proofs.Memory.Sharing
import Inertial.Proofs.Session.Effects
import Inertial.Proofs.Session.LiveReadings

/-! Whether a view and a buffer share their cells. The answer to that question is fixed by which
buffers they are, and decides what every later write to the buffer does to what the view shows.
-/

namespace Inertial

open Session

/-- Buffers keep their sizes through all commands, by induction on them. -/
theorem Chronicle.sizeOf?_run {chronicle : Chronicle} {buffer size : Nat}
    (known : chronicle.ledger.sizeOf? buffer = some size) (commands : List Command)
    : (chronicle.run commands).ledger.sizeOf? buffer = some size := by
  induction commands generalizing chronicle with
  | nil => exact known
  | cons command rest ih =>
      refine ih ?_
      rw [Chronicle.step, Ledger.sizeOf?, Ledger.made_record]
      exact Ledger.sizeOf?_make_others (madeBy command) known

namespace Session

variable {session : Session} {chronicle : Chronicle}

/-- A handle provides the channel through this view, which is one of the numbered buffer. -/
def HasView (session : Session) (chronicle : Chronicle) (channel : Channel)
    (view : Buffer channel.size) (number : Nat)
    : Prop :=
  ∃ place handle,
    session.handleAt? place = some handle
    ∧ handle.get channel = some view
    ∧ chronicle.Views place channel number

/-- The numbered buffer stands under a name of its own or in a storage. -/
def HasBuffer (session : Session) (chronicle : Chronicle) {size : Nat} (buffer : Buffer size)
    (number : Nat)
    : Prop :=
  ∃ place,
    session.sizedBuffer? place = some ⟨size, buffer⟩
    ∧ chronicle.bufferAt? place = some number

/-- It was so after some of the commands, and need not be so any more. -/
def Once (commands : List Command) (holds : Session → Chronicle → Prop) : Prop :=
  ∃ earlier later,
    commands = earlier ++ later ∧ holds (empty.run earlier).1 (Chronicle.empty.run earlier)

/-- What a session answers when asked whether a view shares its cells with the buffer at a place. -/
def sharing (session : Session) (handle : String) (channel : Channel) (place : BufferPlace)
    : Answer :=
  (session.step (.handle handle (.aliases channel place))).result.2

/-- The command puts another buffer at the place. -/
def Command.Replaces (place : BufferPlace) : Command → Prop
  | driver (.newBuffer name _ _) => place = .named name
  | driver (.newStorage name) => ∃ channel, place = .stored name channel
  | _ => False

-----------------------------------------------------------------------------------------
-- Views and buffers stay what they are
-----------------------------------------------------------------------------------------

theorem Follows.numbered_run (follows : session.Follows chronicle) {size : Nat}
    {buffer : Buffer size} {number : Nat} (numbered : session.memory.Numbered buffer number)
    (commands : List Command)
    : (session.run commands).1.memory.Numbered buffer number := by
  have known := follows.memory.sizeOf?_numbered numbered
  obtain ⟨rfl, _⟩ := numbered
  refine ⟨rfl, ?_⟩
  rw [Memory.Fits, (follows.run commands).memory.sizes]
  exact Chronicle.sizeOf?_run known commands

/-- Every view of a handle is one of a numbered buffer. -/
theorem Follows.views (follows : session.Follows chronicle) {place : HandlePlace}
    {handle : Handle} (found : session.handleAt? place = some handle) {channel : Channel}
    {view : Buffer channel.size} (provided : handle.get channel = some view)
    : ∃ number, chronicle.Views place channel number ∧ session.memory.Numbered view number := by
  have related := follows.handle place
  rw [found, rel_some_left] at related
  obtain ⟨origin, known, built⟩ := related
  have numbered := built channel
  rw [provided, rel_some_left] at numbered
  obtain ⟨number, described, numbered⟩ := numbered
  exact ⟨number, ⟨origin, known, described⟩, numbered⟩

/-- Where the chronicle knows of a view, there is a handle with this view of the same buffer. -/
theorem Follows.exists_view (follows : session.Follows chronicle) {place : HandlePlace}
    {channel : Channel} {number : Nat} (views : chronicle.Views place channel number)
    : ∃ handle view,
        session.handleAt? place = some handle
        ∧ handle.get channel = some view
        ∧ session.memory.Numbered view number := by
  obtain ⟨origin, known, _⟩ := id views
  have related := follows.handle place
  rw [known, rel_some_right] at related
  obtain ⟨handle, found, _⟩ := related
  obtain ⟨view, provided, numbered⟩ := follows.viewed found views
  exact ⟨handle, view, found, provided, numbered⟩

theorem HasView.numbered (follows : session.Follows chronicle) {channel : Channel}
    {view : Buffer channel.size} {number : Nat}
    (has : session.HasView chronicle channel view number)
    : session.memory.Numbered view number := by
  obtain ⟨place, handle, found, provided, views⟩ := has
  obtain ⟨buffer, same, numbered⟩ := follows.viewed found views
  cases provided.symm.trans same
  exact numbered

theorem HasBuffer.numbered (follows : session.Follows chronicle) {size : Nat}
    {buffer : Buffer size} {number : Nat} (has : session.HasBuffer chronicle buffer number)
    : session.memory.Numbered buffer number := by
  obtain ⟨place, found, known⟩ := has
  have related := follows.sizedBuffer? place
  rw [found, known, rel_some_left] at related
  obtain ⟨_, same, numbered⟩ := related
  cases same
  exact numbered

/-- What once was a numbered buffer is the same one for the rest of the run and beyond it. -/
theorem Once.numbered {commands : List Command} {holds : Session → Chronicle → Prop}
    (once : Once commands holds) {size : Nat} {buffer : Buffer size} {number : Nat}
    (numbered
      : ∀ {session chronicle},
          session.Follows chronicle
          → holds session chronicle
          → session.memory.Numbered buffer number)
    (later : List Command)
    : ((empty.run commands).1.run later).1.memory.Numbered buffer number := by
  obtain ⟨earlier, between, rfl, held⟩ := once
  have follows := run_follows earlier
  have after := follows.numbered_run (numbered follows held) (between ++ later)
  rwa [run_append] at after ⊢

theorem bufferAt?_step {chronicle : Chronicle} {command : Command} {place : BufferPlace}
    (kept : ¬ command.Replaces place)
    : (chronicle.step command).bufferAt? place = chronicle.bufferAt? place := by
  cases command with
  | driver command =>
      cases command with
      | newBuffer name _ _ =>
          cases place with
          | named buffer =>
              have different : buffer ≠ name := fun same => kept (congrArg BufferPlace.named same)
              exact Function.update_of_ne different _ _
          | stored storage channel => rfl
      | newStorage name =>
          cases place with
          | named buffer => rfl
          | stored storage channel =>
              have different : storage ≠ name := by
                rintro rfl
                exact kept ⟨channel, rfl⟩
              simp only [Chronicle.bufferAt?, Chronicle.step, Chronicle.storagesAfter,
                Function.update_of_ne different]
      | _ => cases place <;> rfl
  | _ => cases place <;> rfl

/-- A place keeps its buffer until a new object takes over the name, by induction on the commands.
-/
theorem bufferAt?_run {chronicle : Chronicle} {commands : List Command} {place : BufferPlace}
    (kept : ∀ command ∈ commands, ¬ command.Replaces place)
    : (chronicle.run commands).bufferAt? place = chronicle.bufferAt? place := by
  induction commands generalizing chronicle with
  | nil => rfl
  | cons command rest ih =>
      have first : (chronicle.step command).bufferAt? place = chronicle.bufferAt? place :=
        bufferAt?_step (kept command (by simp))
      rw [← first]
      exact ih fun later member => kept later (by simp [member])

-----------------------------------------------------------------------------------------
-- Answers about sharing
-----------------------------------------------------------------------------------------

/-- The answer hangs on the view that the handle has and on the buffer at the place. -/
theorem sharing_of_kept {name : String} {handle : Handle}
    (found : session.handles[name]? = some handle) (channel : Channel) (place : BufferPlace)
    : session.sharing name channel place
      = match handle.get channel, session.sizedBuffer? place with
        | none, _ => .absent
        | some _, none => .rejected
        | some view, some sized => .flag ((sized.ofSize? channel.size).any view.aliases) := by
  simp only [sharing, step, found, stepHandle]
  cases handle.get channel with
  | none => rfl
  | some view => cases session.sizedBuffer? place <;> rfl

/-- Buffers of different sizes have different numbers, and among buffers of one size the address
is the number.
-/
theorem any_aliases_eq {memory : Memory} {size : Nat} {view : Buffer size} {number : Nat}
    (numbered : memory.Numbered view number) {sized : SizedBuffer} {other : Nat}
    (standing : memory.Numbered sized.buffer other)
    : (sized.ofSize? size).any view.aliases = (number == other) := by
  obtain ⟨rfl, viewFits⟩ := numbered
  obtain ⟨rfl, fits⟩ := standing
  rw [SizedBuffer.ofSize?]
  by_cases sizes : sized.size = size
  · rw [if_pos sizes, Option.any_some, Bool.eq_iff_iff, Memory.aliases_iff, beq_iff_eq]
    rfl
  · have addresses : view.address ≠ sized.buffer.address := by
      intro same
      unfold Memory.Fits at viewFits fits
      rw [same, fits] at viewFits
      exact sizes (Option.some.inj viewFits)
    rw [if_neg sizes, Option.any_none, beq_eq_false_iff_ne.mpr addresses]

/-- The answer says whether the view and the place have the same buffer. -/
theorem Follows.sharing_eq (follows : session.Follows chronicle) {name : String}
    {channel : Channel} {number : Nat} (views : chronicle.Views (.kept name) channel number)
    {place : BufferPlace} {other : Nat} (known : chronicle.bufferAt? place = some other)
    : session.sharing name channel place = .flag (number == other) := by
  obtain ⟨handle, view, found, provided, numbered⟩ := follows.exists_view views
  have standing := follows.sizedBuffer? place
  rw [known, rel_some_right] at standing
  obtain ⟨sized, stands, standing⟩ := standing
  rw [sharing_of_kept found, provided, stands]
  exact congrArg Answer.flag (any_aliases_eq numbered standing)

/-- The answer stays the same until a command names the handle or puts another buffer in place. -/
theorem Follows.sharing_run (follows : session.Follows chronicle) {name : String}
    {channel : Channel} {number : Nat} (views : chronicle.Views (.kept name) channel number)
    {place : BufferPlace} {other : Nat} (known : chronicle.bufferAt? place = some other)
    {commands : List Command}
    (untouched : ∀ command ∈ commands, ¬ command.Assigns (.kept name))
    (standing : ∀ command ∈ commands, ¬ command.Replaces place)
    : (session.run commands).1.sharing name channel place
      = session.sharing name channel place := by
  obtain ⟨handle, view, found, provided, numbered⟩ := follows.exists_view views
  have later := follows.run commands
  obtain ⟨same, laterViews, laterNumbered⟩ :=
    later.views ((handleAt?_run untouched).trans found) provided
  obtain rfl : same = number := laterNumbered.1.symm.trans numbered.1
  rw [later.sharing_eq laterViews ((bufferAt?_run standing).trans known),
    follows.sharing_eq views known]

/-- A handle kept under another name, too, answers there as it does under the first one. -/
theorem sharing_keepHandle {name : String} {handle : Handle}
    (found : session.handles[name]? = some handle) (copy : String) (channel : Channel)
    (place : BufferPlace)
    : (session.keepHandle (some copy) handle).sharing copy channel place
      = session.sharing name channel place := by
  have kept : (session.keepHandle (some copy) handle).handles[copy]? = some handle := by
    rw [keepHandle, NameMap.getElem?_insert, if_pos rfl]
  rw [sharing_of_kept kept, sharing_of_kept found]
  rfl

theorem next_copyTo {name : String} {handle : Handle}
    (found : session.handles[name]? = some handle) (copy : String)
    : session.next (.handle name (.copyTo copy)) = session.keepHandle (some copy) handle := by
  simp only [next, step, found, stepHandle, quietly]

theorem next_lookup {registry sensor : String} {handle : Handle}
    (registered : session.handleAt? (.registered registry sensor) = some handle)
    (keepAs : Option String)
    : session.next (.registry registry (.lookup sensor keepAs))
      = session.keepHandle keepAs handle := by
  have found : (session.registry registry).handles[sensor]? = some handle := registered
  simp only [next, step, stepRegistry, Registry.lookup_result, found]

/-- A sensor that is neither registered anew nor removed is still found, in a registry that is
neither dropped nor copied over.
-/
theorem registered_run {commands : List Command} {registry sensor : String}
    (kept : ∀ command ∈ commands, command.resets registry = false)
    (others
      : ∀ operation ∈ session.operations registry commands, operation.decides sensor = false)
    : (session.run commands).1.handleAt? (.registered registry sensor)
      = session.handleAt? (.registered registry sensor) := by
  simp only [handleAt?]
  rw [registry_run kept]
  exact Registry.handles_foldl_others _ others

/-- While the sensor stays registered, the handle that is found again answers like the one kept. -/
theorem sharing_lookup {name : String} {handle : Handle}
    (found : session.handles[name]? = some handle) {registry sensor : String}
    (registered : session.handleAt? (.registered registry sensor) = some handle)
    {later : List Command} (kept : ∀ command ∈ later, command.resets registry = false)
    (others : ∀ operation ∈ session.operations registry later, operation.decides sensor = false)
    (untouched : ∀ command ∈ later, ¬ command.Assigns (.kept name)) (copy : String)
    : let after := (session.run later).1
      (after.next (.registry registry (.lookup sensor (some copy)))).sharing copy
        = after.sharing name := by
  intro after
  have still : after.handleAt? (.registered registry sensor) = some handle :=
    (registered_run kept others).trans registered
  have unchanged : after.handleAt? (.kept name) = session.handleAt? (.kept name) :=
    handleAt?_run untouched
  have named : after.handles[name]? = some handle := unchanged.trans found
  rw [next_lookup still]
  funext channel place
  exact sharing_keepHandle named copy channel place

/-- A view shares its cells with a buffer exactly when everything stored into the buffer is read
back through the view, and does not exactly when nothing stored into it shows. That is so from the
moment there are both for the rest of the run, whatever becomes of the names that led to them, and
what is answered is whether they are one buffer, not whether they hold the same numbers. Copies of
a handle, and the handle when it is looked up again, share cells with the same buffers.
-/
theorem aliases_decides_sharing (commands : List Command)
    : let session := (empty.run commands).1
      let chronicle := Chronicle.empty.run commands
      (∀ place handle channel view,
        session.handleAt? place = some handle
        → handle.get channel = some view
        → ∃ number, session.HasView chronicle channel view number)
      ∧ (∀ place sized,
          session.sizedBuffer? place = some sized
          → ∃ number, session.HasBuffer chronicle sized.buffer number)
      ∧ (∀ channel view number (buffer : Buffer channel.size) other,
          Once commands (fun session chronicle => session.HasView chronicle channel view number)
          → Once commands (fun session chronicle => session.HasBuffer chronicle buffer other)
          → view.aliases buffer = (number == other)
            ∧ ∀ later,
                let memory := (session.run later).1.memory
                (view.aliases buffer = true
                  ↔ ∀ values, (memory.store buffer values).load view = values)
                ∧ (view.aliases buffer = false
                  ↔ ∀ values, (memory.store buffer values).load view = memory.load view))
      ∧ (∀ name channel number place other,
          chronicle.Views (.kept name) channel number
          → chronicle.bufferAt? place = some other
          → session.sharing name channel place = .flag (number == other)
            ∧ ∀ later,
                (∀ command ∈ later,
                  ¬ command.Assigns (.kept name) ∧ ¬ command.Replaces place)
                → (session.run later).1.sharing name channel place
                  = session.sharing name channel place)
      ∧ ∀ name handle,
          session.handles[name]? = some handle
          → (∀ copy,
              (session.next (.handle name (.copyTo copy))).sharing copy = session.sharing name)
            ∧ ∀ registry sensor later copy,
                session.handleAt? (.registered registry sensor) = some handle
                → (∀ command ∈ later, command.resets registry = false)
                → (∀ operation ∈ session.operations registry later,
                    operation.decides sensor = false)
                → (∀ command ∈ later, ¬ command.Assigns (.kept name))
                → let after := (session.run later).1
                  (after.next (.registry registry (.lookup sensor (some copy)))).sharing copy
                    = after.sharing name := by
  intro session chronicle
  have follows : session.Follows chronicle := run_follows commands
  refine ⟨?_, ?_, ?_, ?_, ?_⟩
  · intro place handle channel view found provided
    obtain ⟨number, views, _⟩ := follows.views found provided
    exact ⟨number, place, handle, found, provided, views⟩
  · intro place sized found
    have related := follows.sizedBuffer? place
    rw [found, rel_some_left] at related
    obtain ⟨number, known, _⟩ := related
    exact ⟨number, place, found, known⟩
  · intro channel view number buffer other viewed stood
    have cells : 0 < channel.size := by cases channel <;> decide
    have isView := viewed.numbered fun follows has => has.numbered follows
    have isBuffer := stood.numbered fun follows has => has.numbered follows
    refine ⟨?_, fun later => ?_⟩
    · obtain ⟨rfl, _⟩ := isView []
      obtain ⟨rfl, _⟩ := isBuffer []
      rw [Bool.eq_iff_iff, Memory.aliases_iff, beq_iff_eq]
    · have held := (isView later).2.holds
      exact ⟨Memory.aliases_iff_read_back held cells buffer,
        Memory.not_aliases_iff_unseen held cells buffer⟩
  · intro name channel number place other views known
    refine ⟨follows.sharing_eq views known, fun later untouched => ?_⟩
    exact follows.sharing_run views known (fun command member => (untouched command member).1)
      fun command member => (untouched command member).2
  · intro name handle found
    refine ⟨fun copy => ?_, fun registry sensor later copy registered kept others untouched => ?_⟩
    · rw [next_copyTo found]
      funext channel place
      exact sharing_keepHandle found copy channel place
    · exact sharing_lookup found registered kept others untouched copy

end Session

end Inertial
