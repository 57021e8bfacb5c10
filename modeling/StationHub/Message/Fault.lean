/-!
The faults that an error message can name. Reading is lenient: two faults have a second spelling,
and a name that is not known counts as the generic fault.
-/

namespace StationHub

/-- Why a call failed. -/
inductive Fault where
  /-- The action is not known. -/
  | notImplemented
  /-- The action is known but not supported. -/
  | notSupported
  /-- The receiver could not process the action. -/
  | internal
  /-- The payload is incomplete. -/
  | protocol
  /-- A security issue prevented the action. -/
  | security
  /-- The payload is syntactically incorrect. -/
  | formation
  /-- A field has an invalid value. -/
  | propertyConstraint
  /-- A field occurs too often or not often enough. -/
  | occurrenceConstraint
  /-- A field has the wrong type. -/
  | typeConstraint
  /-- Any other fault. -/
  | generic
  deriving DecidableEq, Repr

namespace Fault

/-- The name of the fault in a message. One `r` is missing from the occurrence constraint, as the
protocol spells it. -/
def name : Fault → String
  | notImplemented => "NotImplemented"
  | notSupported => "NotSupported"
  | internal => "InternalError"
  | protocol => "ProtocolError"
  | security => "SecurityError"
  | formation => "FormationViolation"
  | propertyConstraint => "PropertyConstraintViolation"
  | occurrenceConstraint => "OccurenceConstraintViolation"
  | typeConstraint => "TypeConstraintViolation"
  | generic => "GenericError"

/-- The faults in the order of their definition. -/
def all : List Fault :=
  [notImplemented, notSupported, internal, protocol, security, formation, propertyConstraint,
    occurrenceConstraint, typeConstraint, generic]

/-- Second spellings. -/
def aliases : List (String × Fault) :=
  [("FormatViolation", formation), ("OccurrenceConstraintViolation", occurrenceConstraint)]

/-- The fault that `name` names. -/
def ofName (name : String) : Fault :=
  match all.find? (fun fault => fault.name == name) with
  | some fault => fault
  | none => (aliases.lookup name).getD generic

theorem ofName_name (fault : Fault) : ofName fault.name = fault := by
  cases fault <;> decide

end Fault

end StationHub
