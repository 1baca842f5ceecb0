import Intake.Text.Casing
import Intake.Text.Blank

/-!
# Completion codes

How an operation ended.
-/

namespace Intake

/-- How an operation ended. -/
inductive Completion where
  | success | warning | error
deriving DecidableEq, Repr

namespace Completion

/-- All completion codes in their order. -/
def all : List Completion := [success, warning, error]

/-- The completion of an operation that names none. -/
def standard : Completion := success

/-- The name of a completion code. -/
def name : Completion → String
  | success => "SUCCESS"
  | warning => "WARNING"
  | error => "ERROR"

/-- The completion code of a name or short name, without regard to case and blanks around it. -/
def ofName? (s : String) : Option Completion :=
  match Text.lower (Text.trim s) with
  | "success" | "ok" => some success
  | "warning" | "warn" => some warning
  | "error" | "err" | "failure" => some error
  | _ => none

/-- The completion code at a place, from zero. -/
def ofOrdinal? (i : Int64) : Option Completion :=
  if i.toInt < 0 then none else all[i.toInt.toNat]?

end Completion

end Intake
