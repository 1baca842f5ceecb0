import Intake.Text.Casing
import Intake.Text.Blank

/-!
# Severities

How grave an event is, from least to most.
-/

namespace Intake

/-- How grave an event is. -/
inductive Severity where
  | trace | debug | info | notice | warning | error | critical | failure | fatal | halt
deriving DecidableEq, Repr

namespace Severity

/-- All severities, from least to most. -/
def all : List Severity :=
  [trace, debug, info, notice, warning, error, critical, failure, fatal, halt]

/-- The severity of an event that names none. -/
def standard : Severity := info

/-- The name of a severity. -/
def name : Severity → String
  | trace => "TRACE"
  | debug => "DEBUG"
  | info => "INFO"
  | notice => "NOTICE"
  | warning => "WARNING"
  | error => "ERROR"
  | critical => "CRITICAL"
  | failure => "FAILURE"
  | fatal => "FATAL"
  | halt => "HALT"

/-- The place of a severity among all. -/
def rank (s : Severity) : Nat :=
  all.idxOf s

/-- Severities are compared by their place. -/
instance : LT Severity := ⟨fun a b => a.rank < b.rank⟩

instance (a b : Severity) : Decidable (a < b) := inferInstanceAs (Decidable (a.rank < b.rank))

/-- The severity of a name or short name, without regard to case and blanks around it. -/
def ofName? (s : String) : Option Severity :=
  match Text.lower (Text.trim s) with
  | "trace" => some trace
  | "debug" => some debug
  | "info" | "information" => some info
  | "notice" => some notice
  | "warning" | "warn" => some warning
  | "error" | "err" => some error
  | "critical" | "crit" => some critical
  | "failure" => some failure
  | "fatal" => some fatal
  | "halt" => some halt
  | _ => none

/-- The severity at a place, from zero. -/
def ofOrdinal? (i : Int64) : Option Severity :=
  if i.toInt < 0 then none else all[i.toInt.toNat]?

end Severity

end Intake
