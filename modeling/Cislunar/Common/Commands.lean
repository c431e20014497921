import Cislunar.Runtime.Basic

/-! The command table of the ground system, and its check of a command. -/

namespace Cislunar

/-- An opcode and the arguments it takes. -/
structure CommandDefinition where
  opcode : Int
  minimum : Int
  maximum : Int
  deriving DecidableEq, Repr

/-- `COMMANDS`. -/
def commands : List (String × CommandDefinition) :=
  [("SET_MODE", ⟨1, 0, 3⟩), ("SET_WHEEL_RPM", ⟨2, -6000, 6000⟩), ("RESET_FAULTS", ⟨3, 0, 0⟩)]

/-- `OPCODE_TO_NAME`; no opcode stands in the table twice. -/
def opcodeToName : List (Int × String) :=
  commands.map fun (name, definition) => (definition.opcode, name)

/-- `CommandValidationError`. -/
structure CommandValidationError where
  message : String
  deriving DecidableEq, Repr

/-- `validate_command`. -/
def validateCommand (name : String) (argument : Int) :
    Except CommandValidationError CommandDefinition :=
  match commands.lookup name with
  | none => .error ⟨"unsupported command: " ++ name⟩
  | some definition =>
    if definition.minimum ≤ argument ∧ argument ≤ definition.maximum then .ok definition
    else
      let shown := fun value : Int => String.ofList (formatDecimal 1 value)
      .error ⟨"argument " ++ shown argument ++ " outside [" ++ shown definition.minimum ++ ", " ++
        shown definition.maximum ++ "] for " ++ name⟩

end Cislunar
