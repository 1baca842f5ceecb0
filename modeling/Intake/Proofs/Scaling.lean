import Intake.Proofs.Encoding
import Intake.Proofs.Epochs
import Intake.Record.Apply

/-!
# Counts of units in fields for times

A count of units may reach a record as a number, as text, as bytes or as an instant, as the locator
asks for. Both the locator and the record know the units.

* `Value.Counts`: the forms of a count on its way into a record.
* `Locator.counts_format`, `Field.counts_normalize`: whatever is done to a count on the way, it has
  one of these forms.
* `Value.Counts.parse`: in each of them it is read as the same instant.
* `Record.apply_count`: **the units of a locator are applied exactly once**, whatever form it asks
  for.
-/

namespace Intake

namespace Text

theorem upperChar_of_isDigit_or_hyphen {c : Char} (h : isDigit c = true ∨ c = '-') :
    upperChar c = [c] := by
  have hbound : c.toNat ≤ 57 := by
    rcases h with h | rfl
    · simp only [isDigit, Bool.and_eq_true, decide_eq_true_eq] at h
      exact h.2
    · decide
  -- there are no letters so far down in ASCII
  have hlow : ¬ (97 ≤ c.toNat) := by omega
  have hsame : c.toUpper = c := by
    unfold Char.toUpper
    rw [dif_neg]
    intro hletter
    exact hlow hletter.1
  unfold upperChar
  rw [if_pos (by omega), hsame]

/-- The decimal text of an integer has no letters. -/
theorem upper_toString (i : Int) : upper (toString i) = toString i := by
  have hchars : (toString i).toList.flatMap upperChar = (toString i).toList := by
    have hsingle : ∀ c ∈ (toString i).toList, upperChar c = [c] := fun c hc =>
      upperChar_of_isDigit_or_hyphen (isDigit_or_hyphen_of_mem_toString hc)
    rw [List.flatMap_congr hsingle, List.flatMap_singleton']
  rw [upper, hchars, String.ofList_toList]

end Text

/-- A count of units in one of the forms that it takes on its way into a record: a number, its
decimal text, the bytes of that text, or the instant that it stands for. -/
inductive Value.Counts (f : TimeFormat) (n : Int64) : Value → Prop
  | number : Counts f n (.int n)
  | text : Counts f n (.str (toString n.toInt))
  | bytes : Counts f n (.bytes (Text.Utf8.encode (toString n.toInt)))
  | instant : Counts f n (.instant (f.ofInt n))

/-- **A count is read as the same instant in each of its forms.** -/
theorem Value.Counts.parse {f : TimeFormat} {n : Int64} {v : Value} (h : v.Counts f n)
    (hpattern : f.pattern = none) : f.parse v = .ok (f.ofInt n) := by
  cases h with
  | number => rfl
  | text => exact TimeFormat.parse_toString hpattern n
  | bytes =>
    rw [TimeFormat.parse, Text.Utf8.decodeLossy_encode]
    exact TimeFormat.parse_toString hpattern n
  | instant => rfl

namespace Locator

variable {l : Locator} {n : Int64} {v : Value}

theorem numberOf?_toString (n : Int64) : numberOf? (toString n.toInt) = some (.int n) := by
  rw [numberOf?, Text.int64?_toString]

/-- A count as a number, in whatever form it was found. -/
theorem toNumber_count (hpattern : l.pattern = none)
    (hv : v = .int n ∨ v = .str (toString n.toInt)) : l.toNumber v = .ok (.int n) := by
  rcases hv with rfl | rfl
  · rw [toNumber, hpattern]
    rfl
  · rw [toNumber, hpattern]
    simp only [Text.trim_toString, numberOf?_toString]
    rfl

/-- A count as bytes: those of its decimal text. -/
theorem toBinary_count (hpattern : l.pattern = none)
    (hv : v = .int n ∨ v = .str (toString n.toInt)) :
    l.toBinary v = .ok (.bytes (Text.Utf8.encode (toString n.toInt))) := by
  rcases hv with rfl | rfl <;>
  · simp only [toBinary, hpattern]
    rfl

/-- **Whatever form a locator asks for, a count stays a count**, if no pattern and no text for
values stands in between. -/
theorem counts_format (hpattern : l.pattern = none) (hmap : l.valueMap = [])
    (hv : v = .int n ∨ v = .str (toString n.toInt)) :
    ∃ w, l.format v = .ok w ∧ w.Counts l.timeFormat n := by
  -- neither texts for values nor the shape of the value get in the way of the form
  have hcoerce : l.format v = l.coerce v := by
    have hsame : l.mapValue v = v := by
      unfold mapValue
      rw [hmap]
      rfl
    rcases hv with rfl | rfl <;>
    · rw [format, hsame] <;> exact nofun
  have hparse : l.timeFormat.parse v = .ok (l.timeFormat.ofInt n) := by
    rcases hv with rfl | rfl
    · exact Value.Counts.number.parse hpattern
    · exact Value.Counts.text.parse hpattern
  rw [hcoerce]
  unfold coerce
  cases l.dataType with
  | string =>
    refine ⟨.str (toString n.toInt), ?_, .text⟩
    rcases hv with rfl | rfl <;> rfl
  | number => exact ⟨_, toNumber_count hpattern hv, .number⟩
  | binary => exact ⟨_, toBinary_count hpattern hv, .bytes⟩
  | dateTime | timestamp =>
    refine ⟨.instant (l.timeFormat.ofInt n), ?_, .instant⟩
    simp only [hparse]
    rfl
  -- a text is guessed to be a number, and this is the number again
  | generic =>
    rcases hv with rfl | rfl
    · exact ⟨_, rfl, .number⟩
    · refine ⟨.int n, ?_, .number⟩
      dsimp only
      rw [Text.trim_toString, numberOf?_toString]
      rfl
  | asInput =>
    refine ⟨v, rfl, ?_⟩
    rcases hv with rfl | rfl
    · exact .number
    · exact .text

end Locator

namespace Field

variable {f : Field} {l : Locator} {n : Int64} {v : Value}

/-- The decimal text of a count is left alone where codes are spelt, or becomes a number. -/
theorem codeValue_toString (n : Int64) :
    codeValue (toString n.toInt) = .int n ∨
      codeValue (toString n.toInt) = .str (toString n.toInt) := by
  unfold codeValue
  simp only [Text.trim_toString, Text.int64?_toString, Text.upper_toString]
  split
  · exact .inl rfl
  · exact .inr rfl

/-- **In a field for a time a count stays a count**, also if the field is said to hold codes. -/
theorem counts_normalize (hslot : f.slot? = some .startTime ∨ f.slot? = some .endTime)
    (h : v.Counts l.timeFormat n) :
    ∃ w, f.normalize l v = .ok w ∧ w.Counts l.timeFormat n := by
  have hcodified : (f.codified v).Counts l.timeFormat n := by
    cases h with
    | number => exact .number
    | text =>
      unfold codified
      cases f.isEnumeration with
      | false => exact .text
      | true =>
        rcases codeValue_toString n with hcode | hcode <;> simp only [if_pos, hcode]
        · exact .number
        · exact .text
    | bytes => exact .bytes
    | instant => exact .instant
  refine ⟨f.codified v, ?_, hcodified⟩
  unfold normalize
  rcases hslot with hslot | hslot <;> simp only [hslot]

end Field

namespace Record

variable {f : Field} {l : Locator} {n : Int64} {v : Value}

/-- A count is taken into a record as the one locator of its field has it. -/
theorem apply_of_counts {x : Value} {facts : Facts} (hlocators : f.locators = [l])
    (h : v.Counts l.timeFormat n) (hnormal : f.normalize l v = .ok x) {r : Record}
    (hset : r.facts.setAs f.name (some l.timeFormat) x = .ok facts) :
    r.apply f v = .ok (r.withFacts facts) := by
  have hsettled : f.settled (Field.unwrapped v) = .ok x := by
    rw [← hnormal]
    unfold Field.settled
    rw [hlocators]
    cases h <;> rfl
  unfold apply
  rw [hsettled, hlocators]
  change ((r.facts.setAs f.name (some l.timeFormat) x).mapError _ >>= _) = _
  rw [hset]
  rfl

/-- **The units of a locator are applied exactly once**, whatever form it asks for. Let a field for
the start or the end have one locator, without a pattern and without texts for values. It finds a
count, as a number or as its decimal text, and brings it into the form that it asks for. Then the
record takes that value, and the time is the instant that the count itself stands for: so many
microseconds as the units say, or as its size tells if there are none. -/
theorem apply_count (hlocators : f.locators = [l]) (hpattern : l.pattern = none)
    (hmap : l.valueMap = []) (hv : v = .int n ∨ v = .str (toString n.toInt)) (r : Record) :
    ∃ w t, l.format v = .ok w ∧ TimeFormat.parse { units := l.units } (.int n) = .ok t ∧
      t.micros = (l.units.getD (TimeUnit.guess n)).intToMicros n ∧
      (f.slot? = some .startTime →
        r.apply f w = .ok (r.withFacts { r.facts with startTime := some t })) ∧
      (f.slot? = some .endTime →
        r.apply f w = .ok (r.withFacts { r.facts with endTime := some t })) := by
  obtain ⟨w, hformat, hcounts⟩ := l.counts_format hpattern hmap hv
  refine ⟨w, l.timeFormat.ofInt n, hformat, rfl, rfl, ?_, ?_⟩
  · intro hslot
    -- On its way to the slot a text may become a number, of the same count.
    obtain ⟨x, hnormal, hx⟩ := Field.counts_normalize (.inl hslot) hcounts
    refine apply_of_counts hlocators hcounts hnormal ?_
    unfold Field.slot? at hslot
    simp only [Facts.setAs, hslot, Facts.setSlot, Facts.instant, Option.getD_some,
      hx.parse hpattern]
    rfl
  · intro hslot
    obtain ⟨x, hnormal, hx⟩ := Field.counts_normalize (.inr hslot) hcounts
    refine apply_of_counts hlocators hcounts hnormal ?_
    unfold Field.slot? at hslot
    simp only [Facts.setAs, hslot, Facts.setSlot, Facts.instant, Option.getD_some,
      hx.parse hpattern]
    rfl

/-- A field for the start of an outage, found as bytes of a count of days. -/
def daysAsBytes : Locator where
  location := "since"
  dataType := .binary
  units := some .days

/-- The field of this locator. -/
def outageStart : Field where
  name := "StartTime"
  locators := [daysAsBytes]

theorem days_before_epoch :
    outageStart.locators = [daysAsBytes] ∧ daysAsBytes.pattern = none ∧ daysAsBytes.valueMap = [] ∧
      toString (-3 : Int64).toInt = "-3" ∧ outageStart.slot? = some .startTime ∧
      ∃ w, daysAsBytes.format (.str "-3") = .ok w ∧
        blank.apply outageStart w =
          .ok (blank.withFacts { startTime := some ⟨-259200000000⟩ }) := by
  have htext : toString (-3 : Int64).toInt = "-3" := by decide
  have hfound : Value.str "-3" = .int (-3) ∨ Value.str "-3" = .str (toString (-3 : Int64).toInt) :=
    .inr (congrArg Value.str htext.symm)
  obtain ⟨w, t, hformat, -, hmicros, hstart, -⟩ :=
    apply_count (f := outageStart) (l := daysAsBytes) rfl rfl rfl hfound blank
  have ht : t = ⟨-259200000000⟩ := by
    have hdays : (daysAsBytes.units.getD (TimeUnit.guess (-3))).intToMicros (-3) = -259200000000 :=
      by decide
    obtain ⟨micros⟩ := t
    exact congrArg Instant.mk (hmicros.trans hdays)
  refine ⟨rfl, rfl, rfl, htext, rfl, w, hformat, ?_⟩
  rw [hstart rfl, ht]
  rfl

end Record

end Intake
