import Intake.Proofs.Causes
import Intake.Proofs.History

/-!
# Derived times

* `SubOverflows`, `checkedSub_eq_none_iff`: the differences that are refused.
* `Facts.exactElapsed`: the elapsed time in integers without bounds.
* `Facts.Overflows`: a start and an end are given, too far apart, and no elapsed time.
* `Facts.Derives`, `Facts.derives_determineTimes`, `Facts.determineTimes_eq_error`: what times are
  derived to, and when the program stops instead.
* `Parser.derived_of_parse`: **everywhere in the record of an item the times are derived exactly or
  as far as times reach**, and an item stops the program just if a difference overflows.
* `Parser.outage_overflows`: an item that stops it, though its fields are sound.
-/

namespace Intake

/-- The difference is no 64-bit integer. -/
def SubOverflows (a b : Int64) : Prop :=
  a.toInt - b.toInt < minInt64 ∨ maxInt64 < a.toInt - b.toInt

instance (a b : Int64) : Decidable (SubOverflows a b) :=
  inferInstanceAs (Decidable (_ ∨ _))

/-- **A difference is refused just if it overflows.** -/
theorem checkedSub_eq_none_iff {a b : Int64} : checkedSub a b = none ↔ SubOverflows a b := by
  unfold checkedSub SubOverflows
  simp only [ite_eq_right_iff, reduceCtorEq, imp_false]
  omega

/-- A difference that is not refused is exact. -/
theorem toInt_checkedSub {a b d : Int64} (h : checkedSub a b = some d) :
    d.toInt = a.toInt - b.toInt := by
  unfold checkedSub at h
  simp only [Option.ite_none_right_eq_some, Option.some.injEq] at h
  obtain ⟨⟨hlo, hhi⟩, rfl⟩ := h
  exact Int64.toInt_ofInt_of_le hlo (Int.lt_add_one_of_le hhi)

namespace Facts

/-- The elapsed time in integers without bounds: the given one, or the difference of end and start,
or none at all. -/
def exactElapsed (f : Facts) : Int :=
  if f.elapsedTime < 0 then
    match f.startTime, f.endTime with
    | some start, some stop => stop.micros.toInt - start.micros.toInt
    | _, _ => 0
  else f.elapsedTime.toInt

/-- There are a start and an end, and no elapsed time, and their difference overflows. -/
def Overflows (f : Facts) : Prop :=
  f.elapsedTime < 0 ∧ ∃ start stop, f.startTime = some start ∧ f.endTime = some stop ∧
    SubOverflows stop.micros start.micros

variable {f g : Facts} {now : Instant} {e : Failure}

/-- **There is no elapsed time just if it overflows.** -/
theorem elapsed_eq_error : f.elapsed = .error e ↔ f.Overflows ∧ e = .fault .overflow := by
  unfold elapsed Overflows
  by_cases hgiven : f.elapsedTime < 0
  · simp only [hgiven, if_true, true_and]
    cases f.startTime with
    | none => simp
    | some start =>
      cases f.endTime with
      | none => simp
      | some stop =>
        simp only [Option.some.injEq, ← checkedSub_eq_none_iff]
        unfold Instant.since?
        cases hsince : checkedSub stop.micros start.micros <;> simp [hsince, eq_comm]
  · simp [hgiven]

/-- An elapsed time is exact. -/
theorem toInt_elapsed {d : Int64} (h : f.elapsed = .ok d) : d.toInt = f.exactElapsed := by
  unfold elapsed at h
  unfold exactElapsed
  -- below zero there is no elapsed time yet
  by_cases hgiven : f.elapsedTime < 0
  · rw [if_pos hgiven] at h ⊢
    cases hstart : f.startTime with
    | none =>
      simp only [hstart] at h
      cases h
      rfl
    | some start =>
      cases hstop : f.endTime with
      | none =>
        simp only [hstart, hstop] at h
        cases h
        rfl
      | some stop =>
        simp only [hstart, hstop] at h
        cases hsince : stop.since? start with
        | none =>
          rw [hsince] at h
          cases h
        | some exact =>
          rw [hsince] at h
          cases h
          exact toInt_checkedSub hsince
  · rw [if_neg hgiven] at h ⊢
    cases h
    rfl

/-- The times of a record are derived from what its fields have said of them, and no difference
overflows. Times that are given stay. A missing elapsed time is exact. A missing end is the elapsed
time after the start, or the present if there is no start, and a missing start is the elapsed time
before the end, both at most as far as times reach. -/
structure Derives (now : Instant) (f g : Facts) : Prop where
  fits : ¬ f.Overflows
  keeps_start : ∀ start, f.startTime = some start → g.startTime = some start
  keeps_stop : ∀ stop, f.endTime = some stop → g.endTime = some stop
  elapsed_eq : g.elapsedTime.toInt = f.exactElapsed
  stop_eq : f.endTime = none → g.endTime = some (f.startTime.elim now fun start =>
    ⟨clamp (start.micros.toInt + f.exactElapsed)⟩)
  start_eq : f.startTime = none → ∃ stop, g.endTime = some stop ∧
    g.startTime = some ⟨clamp (stop.micros.toInt - f.exactElapsed)⟩

/-- **The program stops just if the difference overflows.** -/
theorem determineTimes_eq_error :
    f.determineTimes now = .error e ↔ f.Overflows ∧ e = .fault .overflow := by
  unfold determineTimes
  rw [map_eq_error]
  exact elapsed_eq_error

/-- **What times are derived to.** -/
theorem derives_determineTimes (h : f.determineTimes now = .ok g) : Derives now f g := by
  -- the elapsed time comes first, and start and end are derived with it
  obtain ⟨d, hd, rfl⟩ := map_eq_ok.1 h
  have hexact := toInt_elapsed hd
  refine ⟨?_, ?_, ?_, hexact, ?_, ?_⟩
  · intro hover
    cases hd.symm.trans (elapsed_eq_error.2 ⟨hover, rfl⟩)
  · intro start hstart
    change f.startTime.or _ = _
    rw [hstart, Option.some_or]
  · intro stop hstop
    change some (f.stop now d) = _
    simp only [Facts.stop, hstop]
  · intro hnone
    change some (f.stop now d) = _
    unfold Facts.stop
    cases hstart : f.startTime with
    | none => simp only [hnone, Option.elim_none]
    | some start => simp only [hnone, Option.elim_some, Instant.plus, satAdd, hexact]
  · intro hnone
    refine ⟨f.stop now d, rfl, ?_⟩
    change f.startTime.or _ = _
    rw [hnone, Option.none_or, Instant.minus, satSub, hexact]

/-- Facts with the same times are derived in the same way. -/
theorem Derives.congr {g' : Facts} (h : Derives now f g) (hstart : g'.startTime = g.startTime)
    (hstop : g'.endTime = g.endTime) (helapsed : g'.elapsedTime = g.elapsedTime) :
    Derives now f g' where
  fits := h.fits
  keeps_start := hstart ▸ h.keeps_start
  keeps_stop := hstop ▸ h.keeps_stop
  elapsed_eq := helapsed ▸ h.elapsed_eq
  stop_eq := hstop ▸ h.stop_eq
  start_eq := hstart ▸ hstop ▸ h.start_eq

end Facts

/-- A record stops the program, or it gets times that are derived. -/
theorem Record.determineTimes_eq_error {r : Record} {now : Instant} {e : Failure} :
    r.determineTimes now = .error e ↔ r.facts.Overflows ∧ e = .fault .overflow := by
  unfold Record.determineTimes
  rw [map_eq_error]
  exact Facts.determineTimes_eq_error

theorem Record.derives_of_determineTimes {r timed : Record} {now : Instant}
    (h : r.determineTimes now = .ok timed) : Facts.Derives now r.facts timed.facts := by
  obtain ⟨g, hg, rfl⟩ := map_eq_ok.1 h
  exact Facts.derives_determineTimes hg

namespace Parser

open Attempt

/-- A parser is another one, or it is stacked on that, at any depth. -/
inductive Under (p : Parser) : Parser → Prop
  | self : Under p p
  | stacked {q : Parser} {st : Stacked Parser} : Under p q → st ∈ q.stacked → Under p st.parser

/-- A record that a parser under this one fills has a start and an end whose difference
overflows. -/
def OverflowsUnder (p : Parser) : Prop :=
  ∃ q k filled, p.Under q ∧ q.Arises q.stacked k filled ∧ filled.facts.Overflows

variable {p q : Parser} {n : Nat} {host : Host} {source : Source} {metadata : Keyed Value}
  {input : RawData} {session : Session} {r u : Record} {ctx ctx' : Context} {s s' : Session}

/-- The times of a record of a stacked parser are derived when it is added to another one. -/
theorem Made.derives (h : p.Made n u) :
    ∃ filled now, p.Arises p.stacked n filled ∧ Facts.Derives now filled.facts u.facts := by
  obtain ⟨filled, sub, now, harises, ⟨s, rfl⟩, htimed⟩ := h
  obtain ⟨hfits, hstart, hstop, helapsed, hstop_eq, hstart_eq⟩ :=
    Record.derives_of_determineTimes htimed
  exact ⟨filled, now, harises, hfits, hstart, hstop, helapsed, hstop_eq, hstart_eq⟩

/-- **Where the program stops while fields are filled**: in a parser under this one whose record
has a start and an end whose difference overflows. -/
theorem overflow_propagates (p : Parser) :
    Propagates p.Under (fun e => e = .fault .overflow → p.OverflowsUnder)
      (fun e => e = .fault .overflow → p.OverflowsUnder) where
  stacked hq pf hpf st hst := hq.stacked (List.mem_flatMap.2 ⟨pf, hpf, hst⟩)
  formal := by
    rintro _ (⟨_, _, rfl⟩ | ⟨_, rfl⟩) ⟨⟩
  unfit := by
    rintro _ (⟨_, _, rfl⟩ | ⟨_, rfl⟩) ⟨⟩
  unreadable := by
    rintro _ (⟨_, rfl⟩ | ⟨_, rfl⟩) ⟨⟩
  takeUp := by
    rintro q v ctx s s' sub how flatten hq hsub e htake rfl
    cases how with
    | merge => cases htake
    | relate =>
      obtain ⟨filled, harises, s₁, rfl⟩ := arises_of_parseStacked q hsub
      obtain ⟨hover, -⟩ := Record.determineTimes_eq_error.1 (map_eq_error.1 htake)
      exact ⟨q, _, filled, hq, harises, hover⟩
  inField _ h hfield := h (Failure.inField_eq_fault.1 hfield)
  inward _ h := h

/-- What a record that was filled comes to: the program stops if its difference overflows, and there
is a record if it does not. -/
theorem close_of_message {filled : Record}
    (hmessage : withDefaultMessage p.profile p.profile.properties.dataAsMessage ctx = .ok filled) :
    (filled.facts.Overflows →
      ((p.close host source ctx).on s).1 = .error (.fault .overflow)) ∧
    (¬ filled.facts.Overflows → ∃ r, ((p.close host source ctx).on s).1 = .ok (some r)) := by
  unfold close
  rw [on_bind, on_except, hmessage]
  simp only [on_bind, on_except]
  cases htimed : filled.determineTimes host.now with
  | error e =>
    obtain ⟨hover, rfl⟩ := Record.determineTimes_eq_error.1 htimed
    exact ⟨fun _ => rfl, fun hfits => absurd hover hfits⟩
  | ok timed =>
    have hfits := (Record.derives_of_determineTimes htimed).fits
    exact ⟨fun hover => absurd hover hfits, fun _ => ⟨_, rfl⟩⟩

theorem result_of_fills {filled : Record}
    (hfills : p.Fills host source metadata input session filled) :
    (filled.facts.Overflows →
      (p.parse host source metadata input session).result = .error (.fault .overflow)) ∧
    (¬ filled.facts.Overflows →
      ∃ r, (p.parse host source metadata input session).result = .ok (some r)) := by
  obtain ⟨ctx, s, ctx', s', hopens, hfill, hmessage⟩ := hfills
  rw [parse_of_fill_some hopens hfill]
  exact close_of_message hmessage

/-- A record that stops the program was filled. -/
theorem overflows_of_close
    (h : ((p.close host source ctx).on s).1 = .error (.fault .overflow)) :
    ∃ filled, withDefaultMessage p.profile p.profile.properties.dataAsMessage ctx = .ok filled ∧
      filled.facts.Overflows := by
  cases hmessage : withDefaultMessage p.profile p.profile.properties.dataAsMessage ctx with
  | error e =>
    unfold close at h
    rw [on_bind_of_error (by rw [on_except, hmessage])] at h
    obtain ⟨name, reason, rfl⟩ := withDefaultMessage_fails _ _ _ _ hmessage
    cases h
  | ok filled =>
    refine ⟨filled, rfl, ?_⟩
    by_contra hfits
    obtain ⟨r, hr⟩ : ∃ r, ((p.close host source ctx).on s).1 = .ok (some r) :=
      (close_of_message hmessage).2 hfits
    cases h.symm.trans hr

/-- An item stops the program in the parser of the item or in one under it. -/
theorem overflowsUnder_of_parse
    (h : (p.parse host source metadata input session).result = .error (.fault .overflow)) :
    p.OverflowsUnder := by
  obtain ⟨ctx, s, hopens⟩ : ∃ ctx s, p.Opens host source metadata input session ctx s := by
    -- nothing before the fields are filled overflows
    rcases cause_of_parse h with
      ⟨⟨_, hio⟩, -, -⟩ | ⟨⟨_, hkind⟩ | ⟨_, hkind⟩, -, -, -⟩ | ⟨-, hopens, -⟩ | ⟨-, hopens, -⟩
    · cases hio
    · cases hkind
    · cases hkind
    · exact ⟨_, _, hopens⟩
    · exact ⟨_, _, hopens⟩
  have hself : ∀ pf ∈ p.fields, ∀ st ∈ pf.stacked, p.Under st.parser := fun pf hpf st hst =>
    Under.self.stacked (List.mem_flatMap.2 ⟨pf, hpf, hst⟩)
  have hfails := (fill_mild_of (overflow_propagates p) p.fields hself ctx s).2
  -- it does so in a parser under this one, while fields are filled, or when the record is closed
  rcases hfill : (fill p.fields ctx).on s with ⟨e | _ | ctx', s'⟩
  · rw [parse_of_fill_error hopens hfill] at h
    obtain rfl := Except.error.inj h
    rw [hfill] at hfails
    exact hfails _ rfl rfl
  · rw [parse_of_fill_none hopens hfill] at h
    cases h
  · rw [parse_of_fill_some hopens hfill] at h
    obtain ⟨filled, hmessage, hover⟩ := overflows_of_close h
    have hfills : p.Fills host source metadata input session filled :=
      ⟨ctx, s, ctx', s', hopens, hfill, hmessage⟩
    exact ⟨p, 0, filled, .self, hfills.arises, hover⟩

/-- **Everywhere in the record of an item the times are derived from what fields have said of
them**, in the record itself and in all records inside it, at any depth, whatever times their fields
have found: no arithmetic on 64-bit integers overflows there. An item whose fields are filled has a
record unless it gets a start and an end and no elapsed time, and the end is so far from the start
that the difference is no such integer; then the program stops. It does so for no other reason of
this kind, but that one of the records that are to stand inside is such a one. -/
theorem derived_of_parse (p : Parser) (host : Host) (source : Source) (metadata : Keyed Value)
    (input : RawData) (session : Session) :
    (∀ r, (p.parse host source metadata input session).result = .ok (some r) →
      ∀ u ∈ r :: r.inside, ∃ q k filled now, p.Under q ∧ q.Arises q.stacked k filled ∧
        Facts.Derives now filled.facts u.facts) ∧
    (∀ filled, p.Fills host source metadata input session filled →
      ((p.parse host source metadata input session).result = .error (.fault .overflow) ↔
        filled.facts.Overflows) ∧
      (¬ filled.facts.Overflows →
        ∃ r, (p.parse host source metadata input session).result = .ok (some r))) ∧
    ((p.parse host source metadata input session).result = .error (.fault .overflow) →
      p.OverflowsUnder) := by
  refine ⟨fun r hr => ?_, fun filled hfills => ?_, overflowsUnder_of_parse⟩
  · obtain ⟨filled, hfills, hchildren, timed, verdict, id, parent, htimed, hfacts⟩ :=
      facts_of_parse hr
    obtain ⟨happened, hhistory⟩ := hfills.arises
    -- the record itself was closed, those inside were timed when they came to stand there
    intro u hu
    rcases List.mem_cons.1 hu with rfl | hu
    · refine ⟨p, 0, filled, host.now, .self, ⟨happened, hhistory⟩, ?_⟩
      rw [hfacts]
      exact (Record.derives_of_determineTimes htimed).congr rfl rfl rfl
    · rw [Record.inside_congr hchildren] at hu
      have hunder : ∀ q, p.Under q → ∀ st ∈ q.stacked, p.Under st.parser :=
        fun q hq st hst => hq.stacked hst
      obtain ⟨q, k, hq, hmade⟩ := hhistory.inside hunder (hunder p .self) u hu
      obtain ⟨inner, now, harises, hderives⟩ := hmade.derives
      exact ⟨q, k, inner, now, hq, harises, hderives⟩
  · obtain ⟨hstops, hgoes⟩ := result_of_fills hfills
    refine ⟨⟨fun hresult => ?_, hstops⟩, hgoes⟩
    by_contra hfits
    obtain ⟨r, hr⟩ := hgoes hfits
    cases hresult.symm.trans hr

/-- A field for a number of microseconds. -/
def microsField (name location : String) : ParserField Parser :=
  let micros : Locator := { location, dataType := .asInput, units := some .microseconds }
  ⟨{ name, locators := [micros] }, []⟩

/-- A parser for outages: when one starts and when it ends. -/
def outages : Parser :=
  .mk ⟨"outages", {}, .map⟩ [] [] [microsField "StartTime" "start", microsField "EndTime" "end"]

/-- What is known before an outage is parsed. -/
def outageHost : Host where
  now := ⟨0⟩
  env := fun _ => none

/-- An outage that starts and ends here. -/
def outageItem (start stop : Int64) : RawData :=
  .map [("start", .int start), ("end", .int stop)]

/-- A session in which nothing has happened. -/
def outageSession : Session where
  cache := default
  ids := { id := toString }

/-- What becomes of an outage that starts and ends here. -/
def outage (start stop : Int64) : Outcome :=
  outages.parse outageHost { name := "test" } [] (outageItem start stop) outageSession

/-- An outage may take as long as the greatest 64-bit integer says. -/
theorem outage_lasts :
    ∃ r, (outage (-1) 9223372036854775806).result = .ok (some r) ∧
      r.facts.elapsedTime.toInt = maxInt64 ∧
      ∀ u ∈ r :: r.inside, ∃ q k filled now, outages.Under q ∧ q.Arises q.stacked k filled ∧
        Facts.Derives now filled.facts u.facts := by
  obtain ⟨r, hr, helapsed⟩ := Outcome.exists_record (o := outage (-1) 9223372036854775806)
    (f := fun r => r.facts.elapsedTime.toInt) (a := maxInt64) (by decide +kernel)
  exact ⟨r, hr, helapsed, (derived_of_parse _ _ _ _ _ _).1 r hr⟩

/-- **An outage that lasts too long stops the program**: its start and its end are found, and their
difference overflows. -/
theorem outage_overflows :
    (∃ filled, outages.Fills outageHost { name := "test" } []
      (outageItem (-9223372036854775807) 9223372036854775807) outageSession filled ∧
      filled.facts.Overflows) ∧
    (outage (-9223372036854775807) 9223372036854775807).result = .error (.fault .overflow) := by
  have hstops : (outage (-9223372036854775807) 9223372036854775807).result =
      .error (.fault .overflow) :=
    rfl
  refine ⟨?_, hstops⟩
  obtain ⟨ctx, hopens, hfills⟩ : ∃ ctx,
      outages.Opens outageHost { name := "test" } []
        (outageItem (-9223372036854775807) 9223372036854775807) outageSession ctx outageSession ∧
      ((fill outages.fields ctx).on outageSession).1.toOption.join.isSome = true :=
    ⟨_, ⟨_, _, _, _, rfl, rfl, rfl, rfl⟩, by decide +kernel⟩
  rcases hfill : (fill outages.fields ctx).on outageSession with ⟨e | _ | ctx', s'⟩
  · rw [hfill] at hfills
    cases hfills
  · rw [hfill] at hfills
    cases hfills
  · unfold outage at hstops
    rw [parse_of_fill_some hopens hfill] at hstops
    obtain ⟨filled, hmessage, hover⟩ := overflows_of_close hstops
    exact ⟨filled, ⟨ctx, _, ctx', s', hopens, hfill, hmessage⟩, hover⟩

end Parser

end Intake
