import Intake.Keyed
import Intake.Metrics

/-!
# Summaries of readings

What a run of readings comes to, series by series: counters add up, gauges keep the last amount.
-/

namespace Intake.Reading

/-- The amount of a series after one more reading. -/
def combine (r : Reading) (before : Option Nat) : Nat :=
  match r.metric.kind with
  | .gauge => r.amount
  | _ => before.getD 0 + r.amount

/-- The amount of each series. -/
def summary (rs : List Reading) : Keyed Nat :=
  rs.foldl (fun acc r => Keyed.insert r.series (r.combine (Keyed.get? r.series acc)) acc) []

end Intake.Reading
