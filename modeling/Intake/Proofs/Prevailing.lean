import Intake.Proofs.Except
import Intake.Proofs.Gathering

/-!
# Own values and merged ones

A value that a parser sets itself stands against those of the records that are merged, whichever
comes first.

* `Slot.occupiedBy`: a value that does not leave a slot as good as empty.
* `Facts.occupied`, `Facts.slot?_merge`: a slot that is occupied is not changed by a merge.
* `Facts.setSlot_occupied`: what a slot holds after it was set does not depend on what it held
  before.
* `Record.get?_set_among_merges`: **a value that is set prevails over merged ones**, set before,
  between or after them.
-/

namespace Intake

/-- The value does not leave the slot as good as empty: a text is not blank, the elapsed time is not
negative, and the reason code is not zero. -/
def Slot.occupiedBy (slot : Slot) (v : Value) : Bool :=
  match slot with
  | .elapsedTime => v.toInt?.all Facts.isElapsed
  | .reasonCode => v.toInt?.all Facts.isReason
  | .message => !Text.isBlankText (Facts.messageText v)
  | .applName | .serverName | .serverIp | .eventName | .resourceName | .location | .userName
  | .exception | .trackingId | .parentId | .msgCharSet | .msgEncoding | .msgMimeType
  | .category => !Text.isBlankText v.text
  | _ => true

namespace Facts

variable {f f' g : Facts} {slot : Slot} {name : String} {format : Option TimeFormat} {v : Value}

/-- The slot holds something, and not a blank text. -/
def occupied (f : Facts) (slot : Slot) : Bool :=
  (f.slot? slot).any fun v => !v.isBlank

/-! ### Merging -/

theorem fillText_of_occupied {own other : Option String}
    (h : ((own.map Value.str).any fun v => !v.isBlank) = true) : fillText own other = own := by
  rw [fillText_eq, if_pos]
  cases own with
  | none => cases h
  | some s => exact h

theorem or_of_occupied {α : Type} {own other : Option α} {toValue : α → Value}
    (h : ((own.map toValue).any fun v => !v.isBlank) = true) : own.or other = own := by
  cases own with
  | none => cases h
  | some a => rfl

theorem slot?_elapsedTime (f : Facts) : f.slot? .elapsedTime =
    if isElapsed f.elapsedTime then some (.int f.elapsedTime) else none := by
  simp only [slot?, isElapsed, decide_eq_true_eq]

theorem slot?_reasonCode (f : Facts) : f.slot? .reasonCode =
    if isReason f.reasonCode then some (.int f.reasonCode) else none := by
  simp only [slot?, isReason, decide_eq_true_eq]

theorem occupied_elapsedTime (f : Facts) : f.occupied .elapsedTime = isElapsed f.elapsedTime := by
  unfold occupied
  rw [slot?_elapsedTime]
  cases isElapsed f.elapsedTime <;> rfl

theorem occupied_reasonCode (f : Facts) : f.occupied .reasonCode = isReason f.reasonCode := by
  unfold occupied
  rw [slot?_reasonCode]
  cases isReason f.reasonCode <;> rfl

/-- **A slot that is occupied is not changed by a merge.** -/
theorem slot?_merge (hsingle : slot.isCollection = false) (h : f.occupied slot = true) (g : Facts) :
    (f.merge g).slot? slot = f.slot? slot := by
  cases slot with
  | correlator | tag => cases hsingle
  | elapsedTime =>
    rw [occupied_elapsedTime] at h
    rw [slot?_elapsedTime, slot?_elapsedTime, elapsedTime_merge, if_pos h]
  | reasonCode =>
    rw [occupied_reasonCode] at h
    rw [slot?_reasonCode, slot?_reasonCode, reasonCode_merge, if_pos h]
  | eventType | severity | compCode | startTime | endTime | msgLength | processId | threadId =>
    exact congrArg (Option.map _) (or_of_occupied h)
  | _ => exact congrArg (Option.map Value.str) (fillText_of_occupied h)

/-! ### Setting -/

theorem substitute_of_not_blank {old : Option String} (h : (!Text.isBlankText v.text) = true) :
    substitute old v = some v.text := by
  unfold substitute
  simp only
  rw [if_neg (by simpa using h)]

theorem message_setMessage (h : (!Text.isBlankText (messageText v)) = true) (f : Facts) :
    (f.setMessage v).message = some (messageText v) := by
  unfold setMessage
  simp only
  split
  · next hempty =>
    rw [String.isEmpty_iff] at hempty
    rw [hempty] at h
    cases h
  · rfl

theorem toInt?_of_number {n : Int64} (h : number name v = .ok n) : v.toInt? = some n := by
  unfold number at h
  split at h
  · next hn => rw [hn, Except.ok.inj h]
  · cases h

/-- **What a slot holds after it was set does not depend on what it held before**, and it is
occupied. -/
theorem setSlot_occupied (hsingle : slot.isCollection = false) (hvalue : slot.occupiedBy v = true)
    (hset : f.setSlot slot name format v = .ok f') :
    f'.occupied slot = true ∧
      ∀ g : Facts, ∃ g', g.setSlot slot name format v = .ok g' ∧ g'.slot? slot = f'.slot? slot := by
  cases slot with
  | correlator | tag => cases hsingle
  | message =>
    obtain rfl : f.setMessage v = f' := Except.ok.inj hset
    refine ⟨?_, fun g => ⟨g.setMessage v, rfl, ?_⟩⟩
    · simp only [occupied, slot?, message_setMessage hvalue]
      exact hvalue
    · simp only [slot?, message_setMessage hvalue]
  -- here a number is no value but says that there is none, so the value has to be looked at
  | elapsedTime =>
    obtain ⟨n, hn, rfl⟩ := map_eq_ok.1 hset
    refine ⟨?_, fun g => ⟨_, map_eq_ok.2 ⟨n, hn, rfl⟩, rfl⟩⟩
    unfold Slot.occupiedBy at hvalue
    simp only [toInt?_of_number hn] at hvalue
    exact (occupied_elapsedTime _).trans hvalue
  | reasonCode =>
    obtain ⟨n, hn, rfl⟩ := map_eq_ok.1 hset
    refine ⟨?_, fun g => ⟨_, map_eq_ok.2 ⟨n, hn, rfl⟩, rfl⟩⟩
    unfold Slot.occupiedBy at hvalue
    simp only [toInt?_of_number hn] at hvalue
    exact (occupied_reasonCode _).trans hvalue
  | eventType | severity | compCode =>
    obtain ⟨c, hc, rfl⟩ := map_eq_ok.1 hset
    refine ⟨?_, fun g => ⟨_, map_eq_ok.2 ⟨c, hc, rfl⟩, rfl⟩⟩
    cases c <;> rfl
  | startTime | endTime | msgLength | processId | threadId =>
    obtain ⟨c, hc, rfl⟩ := map_eq_ok.1 hset
    exact ⟨rfl, fun g => ⟨_, map_eq_ok.2 ⟨c, hc, rfl⟩, rfl⟩⟩
  | _ =>
    obtain rfl := Except.ok.inj hset
    refine ⟨?_, fun g => ⟨_, rfl, ?_⟩⟩
    · simp only [occupied, slot?, substitute_of_not_blank hvalue]
      exact hvalue
    · simp only [slot?, substitute_of_not_blank hvalue]

end Facts

namespace Record

variable {r own : Record} {slot : Slot} {v : Value}

theorem get?_slot (r : Record) (slot : Slot) : r.get? slot.name = r.facts.slot? slot := by
  unfold get? Facts.get?
  rw [Slot.ofName?_name]

theorem set_slot (r : Record) (slot : Slot) (v : Value) :
    r.set slot.name v = (r.facts.setSlot slot slot.name none v).map r.withFacts := by
  unfold set Facts.set Facts.setAs
  rw [Slot.ofName?_name]

/-- A slot that is occupied is not changed by any number of merges. -/
theorem slot?_foldl_merge (hsingle : slot.isCollection = false) (h : r.facts.occupied slot = true)
    (others : List Record) : (others.foldl merge r).facts.slot? slot = r.facts.slot? slot := by
  induction others generalizing r with
  | nil => rfl
  | cons o rest ih =>
    have hmerge : (r.merge o).facts.slot? slot = r.facts.slot? slot :=
      Facts.slot?_merge hsingle h o.facts
    have hoccupied : (r.merge o).facts.occupied slot = true := by
      unfold Facts.occupied at h ⊢
      rwa [hmerge]
    rw [List.foldl_cons, ih hoccupied, hmerge]

/-- **A value that is set prevails over merged ones.** Take a slot for a single value and a value
that can be set there and does not leave it as good as empty. Set it before any records are merged,
after some of them or after all: it can be set there too, and in the end the slot holds what it
holds if it is set and nothing is merged. -/
theorem get?_set_among_merges (hsingle : slot.isCollection = false)
    (hvalue : slot.occupiedBy v = true)
    (hset : r.set slot.name v = .ok own) (earlier later : List Record) :
    ∃ between, (earlier.foldl merge r).set slot.name v = .ok between ∧
      (later.foldl merge between).get? slot.name = own.get? slot.name ∧
      (own.get? slot.name).isSome = true := by
  rw [set_slot] at hset
  obtain ⟨alone, halone, rfl⟩ := map_eq_ok.1 hset
  obtain ⟨hown, hany⟩ := Facts.setSlot_occupied hsingle hvalue halone
  obtain ⟨facts, hfacts, hsame⟩ := hany (earlier.foldl merge r).facts
  have hoccupied : ((earlier.foldl merge r).withFacts facts).facts.occupied slot = true := by
    unfold Facts.occupied at hown ⊢
    rwa [← hsame] at hown
  refine ⟨(earlier.foldl merge r).withFacts facts, ?_, ?_, ?_⟩
  · rw [set_slot]
    exact map_eq_ok.2 ⟨facts, hfacts, rfl⟩
  · rw [get?_slot, get?_slot, slot?_foldl_merge hsingle hoccupied]
    exact hsame
  · rw [get?_slot]
    exact Option.isSome_of_any hown

/-- A record in which no field has been set but the elapsed time. -/
def lasting (elapsed : Int64) : Record :=
  .mk { elapsedTime := elapsed } []

/-- No time at all, set between two merges of records with elapsed times, prevails over both. -/
theorem no_time_prevails :
    ∃ between, (merge .blank (lasting 7)).set "ElapsedTime" (.int 0) = .ok between ∧
      (merge between (lasting 9)).get? "ElapsedTime" = some (.int 0) := by
  have hset : Record.blank.set Slot.elapsedTime.name (.int 0) = .ok (lasting 0) := rfl
  have hsingle : Slot.elapsedTime.isCollection = false := rfl
  obtain ⟨between, hbetween, hsame, -⟩ :=
    get?_set_among_merges hsingle (by decide) hset [lasting 7] [lasting 9]
  exact ⟨between, hbetween, hsame⟩

end Record

end Intake
