import Intake.Proofs.Prevailing
import Intake.Proofs.Times
import Intake.Proofs.Words

/-!
# Intervals

A start, an end and an elapsed time, each of which may be missing, become an interval.

* `Facts.Fits`: the sums and differences of the times that are given are 64-bit integers.
* `Facts.toInt_stop`: the end then lies the elapsed time after the start, unless all three are
  given.
* `Facts.determineTimes_timed`: times that are derived stay as they are.
* `Record.interval_of_determineTimes`: **the derived times keep the given ones and are an
  interval**, also one that ends before its start.
-/

namespace Intake

theorem not_subOverflows_iff {a b : Int64} :
    ¬ SubOverflows a b ↔ IsWord (a.toInt - b.toInt) := by
  unfold SubOverflows IsWord
  omega

/-- An instant is no time at all after itself. -/
theorem Instant.minus_zero (t : Instant) : t.minus 0 = t := by
  have hword : IsWord (t.micros.toInt - (0 : Int64).toInt) := by
    simpa using isWord_toInt t.micros
  have hsame : (satSub t.micros 0).toInt = t.micros.toInt := by
    rw [toInt_satSub hword, Int64.toInt_zero, Int.sub_zero]
  unfold minus
  rw [Int64.toInt_inj.1 hsame]

namespace Facts

variable {f : Facts} {now : Instant} {d : Int64}

/-- The sums and differences of those of the three times that are given are 64-bit integers. An
elapsed time is given unless it is negative. -/
structure Fits (f : Facts) : Prop where
  apart : ∀ start stop, f.startTime = some start → f.endTime = some stop →
    IsWord (stop.micros.toInt - start.micros.toInt)
  after : ∀ start, f.startTime = some start → ¬ f.elapsedTime < 0 →
    IsWord (start.micros.toInt + f.elapsedTime.toInt)
  before : ∀ stop, f.endTime = some stop → ¬ f.elapsedTime < 0 →
    IsWord (stop.micros.toInt - f.elapsedTime.toInt)

/-- Then there is an elapsed time. -/
theorem Fits.exists_elapsed (h : f.Fits) : ∃ d, f.elapsed = .ok d := by
  cases helapsed : f.elapsed with
  | ok d => exact ⟨d, rfl⟩
  | error e =>
    obtain ⟨⟨-, start, stop, hstart, hstop, hover⟩, -⟩ := elapsed_eq_error.1 helapsed
    exact absurd hover (not_subOverflows_iff.2 (h.apart start stop hstart hstop))

/-- The start: the given one, or the elapsed time before the end. -/
def start (now : Instant) (d : Int64) (f : Facts) : Instant :=
  f.startTime.getD ((f.stop now d).minus d)

theorem timed_eq (now : Instant) (d : Int64) (f : Facts) :
    f.timed now d =
      { f with
        startTime := some (f.start now d)
        endTime := some (f.stop now d)
        elapsedTime := d } := by
  unfold timed start
  cases f.startTime <;> rfl

theorem elapsed_of_given (h : ¬ f.elapsedTime < 0) : f.elapsed = .ok f.elapsedTime :=
  if_neg h

/-- Without a start or an end the elapsed time is the given one, or none at all. -/
theorem elapsed_of_missing (h : f.startTime = none ∨ f.endTime = none) :
    f.elapsed = .ok (if f.elapsedTime < 0 then 0 else f.elapsedTime) := by
  unfold elapsed
  split
  · rcases h with h | h
    · rw [h]
    · rw [h]
      cases f.startTime <;> rfl
  · rfl

/-- Between a start and an end the elapsed time that is missing is their difference. -/
theorem elapsed_of_some {start stop : Instant} (h : f.elapsedTime < 0)
    (hstart : f.startTime = some start) (hstop : f.endTime = some stop) :
    f.elapsed = (stop.since? start).elim (.error (.fault .overflow)) .ok := by
  unfold elapsed
  rw [if_pos h, hstart, hstop]

/-- What holds of the elapsed time, if it holds of none at all and of a given one. -/
theorem elapsed_rec {P : Int64 → Prop} (hd : f.elapsed = .ok d)
    (h : f.startTime = none ∨ f.endTime = none) (hzero : P 0)
    (hgiven : ¬ f.elapsedTime < 0 → P f.elapsedTime) : P d := by
  obtain rfl := Except.ok.inj ((elapsed_of_missing h).symm.trans hd)
  split
  · exact hzero
  · next hge => exact hgiven hge

/-- **The end lies the elapsed time after the start**, unless all three are given. -/
theorem toInt_stop (h : f.Fits) (hd : f.elapsed = .ok d)
    (hclock : f.startTime = none → f.endTime = none → 0 ≤ now.micros)
    (hmissing : f.startTime = none ∨ f.endTime = none ∨ f.elapsedTime < 0) :
    (f.stop now d).micros.toInt = (f.start now d).micros.toInt + d.toInt := by
  cases hstart : f.startTime with
  | some start =>
    have hstarted : f.start now d = start := by rw [Facts.start, hstart, Option.getD_some]
    rw [hstarted]
    cases hstop : f.endTime with
    | some stop =>
      have hunset : f.elapsedTime < 0 := by simpa [hstart, hstop] using hmissing
      have hexact : d.toInt = stop.micros.toInt - start.micros.toInt := by
        rw [toInt_elapsed hd, exactElapsed, if_pos hunset, hstart, hstop]
      have hstopped : f.stop now d = stop := by simp only [Facts.stop, hstop]
      rw [hstopped, hexact]
      omega
    | none =>
      have hword : IsWord (start.micros.toInt + d.toInt) := by
        refine elapsed_rec (P := fun e => IsWord (start.micros.toInt + e.toInt)) hd (.inr hstop) ?_
          (h.after start hstart)
        simpa using isWord_toInt start.micros
      have hstopped : f.stop now d = start.plus d := by simp only [Facts.stop, hstart, hstop]
      rw [hstopped]
      exact toInt_satAdd hword
  | none =>
    have hstarted : f.start now d = (f.stop now d).minus d := by
      rw [Facts.start, hstart, Option.getD_none]
    -- the end is given, or it is the present, which no elapsed time reaches too far back from
    have hword : IsWord ((f.stop now d).micros.toInt - d.toInt) := by
      refine elapsed_rec (P := fun e => IsWord ((f.stop now d).micros.toInt - e.toInt)) hd
        (.inl hstart) ?_ fun hgiven => ?_
      · simpa using isWord_toInt (f.stop now d).micros
      · cases hstop : f.endTime with
        | some stop =>
          have hstopped : f.stop now d = stop := by simp only [Facts.stop, hstop]
          rw [hstopped]
          exact h.before stop hstop hgiven
        | none =>
          have hstopped : f.stop now d = now := by simp only [Facts.stop, hstart, hstop]
          have hnow := Int64.le_iff_toInt_le.1 (hclock hstart hstop)
          have hpositive := Int64.le_iff_toInt_le.1 (Int64.not_lt.1 hgiven)
          have hlt := now.micros.toInt_lt
          have hlt' := f.elapsedTime.toInt_lt
          rw [hstopped]
          rw [Int64.toInt_zero] at hnow hpositive
          unfold IsWord minInt64 maxInt64
          omega
    have hexact : (f.start now d).micros.toInt = (f.stop now d).micros.toInt - d.toInt := by
      rw [hstarted]
      exact toInt_satSub hword
    omega

/-- A slot that was filled is not changed. -/
theorem slot?_timed {slot : Slot} {v : Value} (hd : f.elapsed = .ok d) (h : f.slot? slot = some v)
    (now : Instant) : (f.timed now d).slot? slot = some v := by
  rw [timed_eq]
  cases slot with
  | startTime =>
    obtain ⟨start, hstart, rfl⟩ := Option.map_eq_some_iff.1 h
    simp only [slot?, Facts.start, hstart, Option.getD_some, Option.map_some]
  | endTime =>
    obtain ⟨stop, hstop, rfl⟩ := Option.map_eq_some_iff.1 h
    simp only [slot?, Facts.stop, hstop, Option.map_some]
  | elapsedTime =>
    simp only [slot?] at h ⊢
    split at h
    · next hgiven =>
      obtain rfl := Except.ok.inj ((elapsed_of_given (Int64.not_lt.2 hgiven)).symm.trans hd)
      rwa [if_pos hgiven]
    · cases h
  | _ => exact h

/-- An elapsed time below zero is that of a start and an end that are given. -/
theorem elapsed_of_neg (hd : f.elapsed = .ok d) (h : d < 0) (now : Instant) :
    f.elapsed = ((f.stop now d).since? (f.start now d)).elim (.error (.fault .overflow)) .ok := by
  have hunset : f.elapsedTime < 0 := by
    by_contra hgiven
    obtain rfl := Except.ok.inj ((elapsed_of_given hgiven).symm.trans hd)
    exact hgiven h
  have hnot : ¬ (f.startTime = none ∨ f.endTime = none) := by
    intro hmissing
    obtain rfl := Except.ok.inj ((elapsed_of_missing hmissing).symm.trans hd)
    rw [if_pos hunset] at h
    exact absurd h (by decide)
  obtain ⟨hstart, hstop⟩ := not_or.1 hnot
  obtain ⟨start, hstart⟩ := Option.ne_none_iff_exists'.1 hstart
  obtain ⟨stop, hstop⟩ := Option.ne_none_iff_exists'.1 hstop
  have hstarted : f.start now d = start := by rw [Facts.start, hstart, Option.getD_some]
  have hstopped : f.stop now d = stop := by simp only [Facts.stop, hstop]
  rw [hstarted, hstopped]
  exact elapsed_of_some hunset hstart hstop

/-- **Times that are derived stay as they are**, whatever the clock reads later. -/
theorem determineTimes_timed (hd : f.elapsed = .ok d) (now later : Instant) :
    (f.timed now d).determineTimes later = .ok (f.timed now d) := by
  have hstart : (f.timed now d).startTime = some (f.start now d) := by rw [timed_eq]
  have hstop : (f.timed now d).endTime = some (f.stop now d) := by rw [timed_eq]
  have hunset : (f.timed now d).elapsedTime = d := by rw [timed_eq]
  have helapsed : (f.timed now d).elapsed = .ok d := by
    by_cases hneg : d < 0
    · -- it looks as if it was missing, and is derived from the same start and end again
      rw [elapsed_of_some (hunset ▸ hneg) hstart hstop, ← elapsed_of_neg hd hneg, hd]
    · rw [elapsed_of_given (hunset ▸ hneg), hunset]
  have hstarted : (f.timed now d).start later d = f.start now d := by
    rw [start, hstart, Option.getD_some]
  have hstopped : (f.timed now d).stop later d = f.stop now d := by simp only [stop, hstop]
  have hsame : (f.timed now d).timed later d = f.timed now d := by
    rw [timed_eq later, hstarted, hstopped, timed_eq now]
  unfold determineTimes
  rw [helapsed]
  exact congrArg Except.ok hsame

end Facts

namespace Record

variable {r : Record} {now : Instant}

/-- **The derived times keep the given ones and are an interval.** Take a record in which the sums
and differences of those of the three times that are given are 64-bit integers. Its times can be
derived, which gives it a start and an end and changes nothing but the three times. What was in a
slot before stays there, where a negative elapsed time counts as none, and deriving the times again,
whenever that is, changes nothing. Unless all three were given, the end is the start and the elapsed
time together, which is below zero if the given end lies before the given start. If none of them was
given, both the start and the end are the present. The clock, which is read if there is neither a
start nor an end, does not read a time before 1970. -/
theorem interval_of_determineTimes (hfits : r.facts.Fits)
    (hclock : r.facts.startTime = none → r.facts.endTime = none → 0 ≤ now.micros) :
    ∃ timed start stop elapsed, r.determineTimes now = .ok timed ∧
      timed = r.withFacts
        { r.facts with startTime := some start, endTime := some stop, elapsedTime := elapsed } ∧
      (∀ slot : Slot, ∀ v, r.get? slot.name = some v → timed.get? slot.name = some v) ∧
      (∀ later, timed.determineTimes later = .ok timed) ∧
      (r.facts.startTime = none ∨ r.facts.endTime = none ∨ r.facts.elapsedTime < 0 →
        stop.micros.toInt = start.micros.toInt + elapsed.toInt) ∧
      (r.facts.startTime = none ∧ r.facts.endTime = none ∧ r.facts.elapsedTime < 0 →
        start = now ∧ stop = now) := by
  -- all three times are functions of the elapsed time, which exists as the times fit
  obtain ⟨d, hd⟩ := hfits.exists_elapsed
  refine ⟨r.withFacts (r.facts.timed now d), r.facts.start now d, r.facts.stop now d, d, ?_, ?_, ?_,
    ?_, ?_, ?_⟩
  · unfold determineTimes Facts.determineTimes
    rw [hd]
    rfl
  · exact congrArg r.withFacts (Facts.timed_eq now d r.facts)
  · intro slot v h
    rw [get?_slot] at h ⊢
    exact Facts.slot?_timed hd h now
  · intro later
    have hsame := Facts.determineTimes_timed hd now later
    unfold determineTimes
    exact congrArg (Except.map _) hsame
  · exact Facts.toInt_stop hfits hd hclock
  · rintro ⟨hstart, hstop, hunset⟩
    have hstopped : r.facts.stop now d = now := by simp only [Facts.stop, hstart, hstop]
    obtain rfl : d = 0 := by
      have hnone := Facts.elapsed_of_missing (.inl hstart)
      rw [if_pos hunset] at hnone
      exact Except.ok.inj (hd.symm.trans hnone)
    refine ⟨?_, hstopped⟩
    rw [Facts.start, hstart, Option.getD_none, hstopped, Instant.minus_zero]

/-- A record that ends before it starts. -/
def reversed : Record :=
  .mk { startTime := some ⟨1000⟩, endTime := some ⟨400⟩ } []

theorem reversed_fits : reversed.facts.Fits where
  apart := by
    rintro _ _ ⟨⟩ ⟨⟩
    decide
  after := by
    intro _ _ hgiven
    exact absurd (by decide) hgiven
  before := by
    intro _ _ hgiven
    exact absurd (by decide) hgiven

/-- Its elapsed time is below zero, and stays so. -/
theorem reversed_interval :
    reversed.facts.Fits ∧ (0 : Int64) ≤ (Instant.mk 7).micros ∧
      ∃ timed, reversed.determineTimes ⟨7⟩ = .ok timed ∧
        timed.facts.elapsedTime.toInt = 400 - 1000 ∧
        timed.determineTimes ⟨8⟩ = .ok timed := by
  have hclock : (0 : Int64) ≤ (Instant.mk 7).micros := by decide
  obtain ⟨timed, start, stop, elapsed, htimed, rfl, hkeeps, hagain, hinterval, -⟩ :=
    interval_of_determineTimes reversed_fits fun _ _ => hclock
  have hstart := hkeeps .startTime (.instant ⟨1000⟩) rfl
  have hstop := hkeeps .endTime (.instant ⟨400⟩) rfl
  rw [get?_slot] at hstart hstop
  obtain rfl : start = ⟨1000⟩ := by simpa [Facts.slot?, withFacts, facts] using hstart
  obtain rfl : stop = ⟨400⟩ := by simpa [Facts.slot?, withFacts, facts] using hstop
  have hsum : (400 : Int) = 1000 + elapsed.toInt := hinterval (.inr (.inr (by decide)))
  have helapsed : elapsed.toInt = 400 - 1000 := by omega
  exact ⟨reversed_fits, hclock, _, htimed, helapsed, hagain ⟨8⟩⟩

end Record

end Intake
