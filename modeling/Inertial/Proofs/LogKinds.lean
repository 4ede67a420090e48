import Inertial.LogRecord
import Mathlib.Data.List.Infix

/-! Lines of the log, and their kinds as a reader tells them apart: by the level and by the words
that a message starts or ends with.
-/

namespace Inertial

namespace Text

theorem prefix_append
    {opening text : String} (opens : opening.toList <+: text.toList) (more : String)
    : opening.toList <+: (text ++ more).toList := by
  rw [String.toList_append]
  exact opens.trans (List.prefix_append _ _)

end Text

/-- What stands in the log. -/
structure LogLine where
  level : String
  message : String

def LogRecord.line (record : LogRecord) : LogLine := ⟨record.level.label, record.message⟩

namespace LogLine

-----------------------------------------------------------------------------------------
-- What lines say
-----------------------------------------------------------------------------------------

/-- A sensor with this name, frame and mask is registered. -/
def registering (name frame : String) (capabilities : Capabilities) : LogLine where
  level := "DEBUG"
  message :=
    s!"Registering IMU sensor '{name}' (frame={frame}, capabilities={capabilities.inspect})"

/-- A sensor of this name makes way for a new one. -/
def replacing (name : String) : LogLine where
  level := "WARN"
  message := s!"IMU sensor '{name}' was already registered; replacing it"

/-- The sensor of this name is taken out. -/
def unregistered (name : String) : LogLine where
  level := "DEBUG"
  message := s!"Unregistered IMU sensor '{name}'"

/-- A sensor of this name is looked up and found. -/
def found (name : String) : LogLine where
  level := "TRACE"
  message := s!"Lookup of IMU sensor '{name}'"

/-- A sensor of this name is looked up and not found. -/
def missing (name : String) : LogLine where
  level := "DEBUG"
  message := s!"IMU sensor '{name}' is not registered"

-----------------------------------------------------------------------------------------
-- Kinds of lines
-----------------------------------------------------------------------------------------

/-- The line has the level, and its message starts with the text. -/
def opens (level text : String) (line : LogLine) : Bool :=
  line.level == level && text.toList.isPrefixOf line.message.toList

/-- The line has the level, and its message ends with the text. -/
def closes (level text : String) (line : LogLine) : Bool :=
  line.level == level && text.toList.isSuffixOf line.message.toList

/-- The line is about a registration. -/
def isRegistering : LogLine → Bool := opens "DEBUG" "Registering IMU sensor"

/-- The line is about a sensor that made way for a new one. -/
def isReplacing : LogLine → Bool := closes "WARN" "was already registered; replacing it"

/-- The line is about a removal. -/
def isUnregistered : LogLine → Bool := opens "DEBUG" "Unregistered IMU sensor"

section Openings

variable {level text opening : String} {line : LogLine}

theorem opens_of_starts (starts : opening.toList <+: line.message.toList)
    (within : text.toList <+: opening.toList)
    : opens level text line = (line.level == level) := by
  simp [opens, within.trans starts]

theorem not_opens (starts : opening.toList <+: line.message.toList)
    (apart : ¬ text.toList <+: opening.toList ∧ ¬ opening.toList <+: text.toList)
    : opens level text line = false := by
  rw [opens, Bool.and_eq_false_imp]
  intro _
  rw [Bool.eq_false_iff, ne_eq, List.isPrefixOf_iff_prefix]
  intro other
  rcases List.prefix_or_prefix_of_prefix other starts with within | beyond
  · exact apart.1 within
  · exact apart.2 beyond

theorem registering_starts (name frame : String) (capabilities : Capabilities)
    : "Registering IMU sensor '".toList
      <+: (registering name frame capabilities).message.toList := by
  have named := Text.prefix_append (List.prefix_refl "Registering IMU sensor '".toList) name
  have framed := Text.prefix_append (Text.prefix_append named "' (frame=") frame
  have masked :=
    Text.prefix_append (Text.prefix_append framed ", capabilities=") capabilities.inspect
  exact Text.prefix_append masked ")"

theorem missing_starts (name : String)
    : "IMU sensor '".toList <+: (missing name).message.toList :=
  Text.prefix_append (Text.prefix_append (List.prefix_refl _) name) "' is not registered"

theorem unregistered_starts (name : String)
    : "Unregistered IMU sensor '".toList <+: (unregistered name).message.toList :=
  Text.prefix_append (Text.prefix_append (List.prefix_refl _) name) "'"

theorem replacing_closes (name : String) : isReplacing (replacing name) = true := by
  have message : (replacing name).message.toList
      = ("IMU sensor '" ++ name).toList ++ "' was already registered; replacing it".toList :=
    String.toList_append
  have ends
      : "was already registered; replacing it".toList
        <:+ "' was already registered; replacing it".toList := by
    decide
  rw [isReplacing, closes, message, Bool.and_eq_true, List.isSuffixOf_iff_suffix]
  exact ⟨rfl, ends.trans (List.suffix_append _ _)⟩

end Openings

-- No line is of two kinds, and lines about look-ups are of none.

@[simp]
theorem kinds_registering (name frame : String) (capabilities : Capabilities)
    : isRegistering (registering name frame capabilities) = true
      ∧ isReplacing (registering name frame capabilities) = false
      ∧ isUnregistered (registering name frame capabilities) = false := by
  have starts := registering_starts name frame capabilities
  exact ⟨opens_of_starts starts (by decide), rfl, not_opens starts (by decide)⟩

@[simp]
theorem kinds_replacing (name : String)
    : isRegistering (replacing name) = false
      ∧ isReplacing (replacing name) = true
      ∧ isUnregistered (replacing name) = false :=
  ⟨rfl, replacing_closes name, rfl⟩

@[simp]
theorem kinds_unregistered (name : String)
    : isRegistering (unregistered name) = false
      ∧ isReplacing (unregistered name) = false
      ∧ isUnregistered (unregistered name) = true := by
  have starts := unregistered_starts name
  exact ⟨not_opens starts (by decide), rfl, opens_of_starts starts (by decide)⟩

@[simp]
theorem kinds_found (name : String)
    : isRegistering (found name) = false
      ∧ isReplacing (found name) = false
      ∧ isUnregistered (found name) = false :=
  ⟨rfl, rfl, rfl⟩

@[simp]
theorem kinds_missing (name : String)
    : isRegistering (missing name) = false
      ∧ isReplacing (missing name) = false
      ∧ isUnregistered (missing name) = false := by
  have starts := missing_starts name
  exact ⟨not_opens starts (by decide), rfl, not_opens starts (by decide)⟩

end LogLine

end Inertial
