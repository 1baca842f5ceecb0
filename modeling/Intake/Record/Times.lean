import Intake.Record.Basic

/-!
# Times of an activity

Start, end and elapsed time of an activity, each derived from the others where it is missing.

* `Facts.elapsed`: the elapsed time. The difference of an end and a start that are too far apart
  stops the program.
* `Facts.determineTimes`: the times with those that were missing.
-/

namespace Intake.Facts

/-- The elapsed time: the given one, or the difference of end and start, or none at all. -/
def elapsed (f : Facts) : Except Failure Int64 :=
  if f.elapsedTime < 0 then
    match f.startTime, f.endTime with
    | some start, some stop => (stop.since? start).elim (.error (.fault .overflow)) .ok
    | _, _ => .ok 0
  else .ok f.elapsedTime

/-- The end: the given one, or the elapsed time after the start, or now. -/
def stop (now : Instant) (elapsed : Int64) (f : Facts) : Instant :=
  match f.endTime, f.startTime with
  | some stop, _ => stop
  | none, some start => start.plus elapsed
  | none, none => now

/-- The times for an elapsed time. -/
def timed (now : Instant) (elapsed : Int64) (f : Facts) : Facts :=
  let stop := f.stop now elapsed
  { f with
    elapsedTime := elapsed
    endTime := some stop
    startTime := f.startTime.or (some (stop.minus elapsed)) }

/-- Derives the times that are missing. -/
def determineTimes (now : Instant) (f : Facts) : Except Failure Facts :=
  f.elapsed.map fun elapsed => f.timed now elapsed

end Intake.Facts

namespace Intake.Record

/-- Derives the times of the record itself, not of those inside it. -/
def determineTimes (now : Instant) (r : Record) : Except Failure Record :=
  (r.facts.determineTimes now).map r.withFacts

end Intake.Record
