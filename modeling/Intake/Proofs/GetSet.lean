import Intake.Proofs.Messages

/-!
# Getting and setting fields

What is read from a record and what is written to it are two dispatches over the same slots.

* `Facts.LeavesAlone`, `Facts.setSlot_leaves`: a slot that is set leaves alone all that is not in
  it, but for the length of a message.
* `Facts.setSlot_slot?`: what stands in a slot for a single value can be set there and changes
  nothing.
* `Facts.Coherent`, `Record.Composed.coherent`: the message of a record that is made by setting
  fields and merging has a length.
* `Record.get_set_laws`: **setting a field changes that field alone, and setting it to what it holds
  changes nothing.**
-/

namespace Intake

namespace Keyed

variable {α : Type} {m : Keyed α} {key : String} {value : α}

/-- To set an entry to what it is changes nothing. -/
theorem insert_of_get? (hsorted : Sorted m) (h : get? key m = some value) :
    insert key value m = m := by
  refine ext_of_sorted (sorted_insert hsorted) hsorted fun other => ?_
  rw [get?_insert]
  split
  · next heq => rw [← heq, h]
  · rfl

end Keyed

/-! ### Codes by their names -/

theorem EventType.ofName?_name (t : EventType) : ofName? t.name = some t := by
  cases t <;> decide

theorem Severity.ofName?_name (s : Severity) : ofName? s.name = some s := by
  cases s <;> decide

theorem Completion.ofName?_name (c : Completion) : ofName? c.name = some c := by
  cases c <;> decide

namespace Facts

variable {f f' : Facts} {slot : Slot} {name : String} {format : Option TimeFormat} {v : Value}

/-! ### Other fields -/

/-- What is not in a slot is the same. The length of a message may have come with it, and items of
collections stay where they are. -/
structure LeavesAlone (slot : Slot) (f f' : Facts) : Prop where
  others : ∀ other, other ≠ slot → (slot = .message → other ≠ .msgLength) →
    f'.slot? other = f.slot? other
  correlators : f.correlators <+: f'.correlators
  tags : f.tags <+: f'.tags
  properties : f'.properties = f.properties
  filtered : f'.filtered = f.filtered
  complete : f'.complete = f.complete
  ordinal : f'.ordinal = f.ordinal

/-- **A slot that is set leaves alone all that is not in it.** -/
theorem setSlot_leaves (h : f.setSlot slot name format v = .ok f') : LeavesAlone slot f f' := by
  cases slot with
  | message =>
    obtain rfl : f.setMessage v = f' := Except.ok.inj h
    unfold setMessage
    simp only
    split
    · exact ⟨fun _ _ _ => rfl, List.prefix_rfl, List.prefix_rfl, rfl, rfl, rfl, rfl⟩
    · -- with a message its length changes as well
      refine ⟨?_, List.prefix_rfl, List.prefix_rfl, rfl, rfl, rfl, rfl⟩
      intro other hne hlength
      cases other <;> first | exact absurd rfl hne | exact absurd rfl (hlength rfl) | rfl
  | correlator =>
    cases h
    refine ⟨?_, List.prefix_append _ _, List.prefix_rfl, rfl, rfl, rfl, rfl⟩
    intro other hne _
    cases other <;> first | exact absurd rfl hne | rfl
  | tag =>
    cases h
    refine ⟨?_, List.prefix_rfl, List.prefix_append _ _, rfl, rfl, rfl, rfl⟩
    intro other hne _
    cases other <;> first | exact absurd rfl hne | rfl
  | eventType | severity | compCode | startTime | endTime | elapsedTime | reasonCode | msgLength
  | processId | threadId =>
    obtain ⟨c, -, rfl⟩ := map_eq_ok.1 h
    refine ⟨?_, List.prefix_rfl, List.prefix_rfl, rfl, rfl, rfl, rfl⟩
    intro other hne _
    cases other <;> first | exact absurd rfl hne | rfl
  | _ =>
    cases h
    refine ⟨?_, List.prefix_rfl, List.prefix_rfl, rfl, rfl, rfl, rfl⟩
    intro other hne _
    cases other <;> first | exact absurd rfl hne | rfl

/-! ### What a field holds already -/

theorem substitute_of_held {old : Option String} (h : old.map Value.str = some v) :
    substitute old v = old := by
  obtain ⟨s, rfl, rfl⟩ := Option.map_eq_some_iff.1 h
  unfold substitute
  simp only
  split
  · rfl
  · rfl

theorem code_of_held {α : Type} {ofName : String → Option α} {toName : α → String}
    (hname : ∀ c, ofName (toName c) = some c) {old : Option α}
    (h : (old.map fun c => Value.str (toName c)) = some v) :
    ∃ c, old = some c ∧
      ∀ (name : String) (ofOrdinal : Int64 → Option α), code name ofOrdinal ofName v = .ok c := by
  obtain ⟨c, rfl, rfl⟩ := Option.map_eq_some_iff.1 h
  refine ⟨c, rfl, fun name ofOrdinal => ?_⟩
  unfold code code?
  simp only [hname, Option.some_or]

/-- **What stands in a slot for a single value can be set there, and changes nothing**, if a message
has a length. -/
theorem setSlot_slot? (hsingle : slot.isCollection = false)
    (hlength : f.message.isSome = true → f.msgLength.isSome = true) (h : f.slot? slot = some v) :
    f.setSlot slot name none v = .ok f := by
  cases slot with
  -- collections are left out: what is set is added to them
  | correlator | tag => cases hsingle
  | message =>
    obtain ⟨s, hs, rfl⟩ := Option.map_eq_some_iff.1 h
    obtain ⟨n, hn⟩ := Option.isSome_iff_exists.1 (hlength (by rw [hs]; rfl))
    have hsame : f.setMessage (.str s) = f := by
      unfold setMessage
      simp only
      split
      · rfl
      · -- a message that is set again brings a length only if there is none
        change { f with message := some s, msgLength := f.msgLength.or _ } = f
        rw [← hs, hn, Option.some_or, ← hn]
    exact congrArg Except.ok hsame
  | eventType =>
    obtain ⟨c, hc, hcode⟩ := code_of_held EventType.ofName?_name h
    exact map_eq_ok.2 ⟨c, hcode _ _, by rw [← hc]⟩
  | severity =>
    obtain ⟨c, hc, hcode⟩ := code_of_held Severity.ofName?_name h
    exact map_eq_ok.2 ⟨c, hcode _ _, by rw [← hc]⟩
  | compCode =>
    obtain ⟨c, hc, hcode⟩ := code_of_held Completion.ofName?_name h
    exact map_eq_ok.2 ⟨c, hcode _ _, by rw [← hc]⟩
  | elapsedTime | reasonCode =>
    simp only [slot?] at h
    split at h
    · cases h
      rfl
    · cases h
  | startTime | endTime | msgLength | processId | threadId =>
    obtain ⟨c, hc, rfl⟩ := Option.map_eq_some_iff.1 h
    simp only [setSlot]
    exact map_eq_ok.2 ⟨c, rfl, by rw [← hc]⟩
  | _ =>
    simp only [slot?] at h
    simp only [setSlot, substitute_of_held h]

/-! ### Records that are made by setting and merging -/

/-- The properties stand in order, and a message has a length. -/
structure Coherent (f : Facts) : Prop where
  properties : Keyed.Sorted f.properties
  measured : f.message.isSome = true → f.msgLength.isSome = true

theorem Coherent.setAs (hf : f.Coherent) (h : f.setAs name format v = .ok f') : f'.Coherent := by
  refine ⟨sorted_setAs hf.properties h, ?_⟩
  obtain ⟨hmessage, hlength⟩ := setAs_told h
  by_cases hname : name = Slot.msgLength.name
  · subst hname
    unfold Facts.setAs at h
    rw [Slot.ofName?_name] at h
    obtain ⟨n, -, rfl⟩ := map_eq_ok.1 h
    exact fun _ => rfl
  · rw [hmessage, hlength hname]
    have hmeasured := hf.measured
    cases told? name v <;> simp_all

theorem Coherent.merge (hf : f.Coherent) {g : Facts} (hg : g.Coherent) : (f.merge g).Coherent := by
  refine ⟨Keyed.sorted_extend hf.properties, ?_⟩
  change (fillText f.message g.message).isSome = true → (f.msgLength.or g.msgLength).isSome = true
  have hown := hf.measured
  have hother := hg.measured
  rw [fillText_eq, Option.isSome_or, Bool.or_eq_true]
  split
  · exact fun h => .inl (hown h)
  · split
    · exact fun h => .inr (hother h)
    · exact fun h => .inl (hown h)

/-- What a field holds can be set there and changes nothing. -/
theorem Coherent.set_get? (hf : f.Coherent) (hcorrelator : name ≠ Slot.correlator.name)
    (htag : name ≠ Slot.tag.name) (h : f.get? name = some v) : f.set name v = .ok f := by
  unfold get? at h
  unfold set Facts.setAs
  cases hslot : Slot.ofName? name with
  | none =>
    rw [hslot] at h
    simp only [Keyed.insert_of_get? hf.properties h]
  | some slot =>
    rw [hslot] at h
    have hname := Slot.name_of_ofName? hslot
    have hsingle : slot.isCollection = false := by
      cases slot with
      | correlator => exact absurd hname.symm hcorrelator
      | tag => exact absurd hname.symm htag
      | _ => rfl
    exact setSlot_slot? hsingle hf.measured h

theorem get?_slot_name (f : Facts) (slot : Slot) : f.get? slot.name = f.slot? slot := by
  unfold get?
  rw [Slot.ofName?_name]

/-- The message leaves its length alone, unless there was none. -/
theorem get?_msgLength_of_set (h : f.set Slot.message.name v = .ok f') :
    f'.get? Slot.msgLength.name = f.get? Slot.msgLength.name ∨
      ∃ text, f.get? Slot.msgLength.name = none ∧ f'.get? Slot.message.name = some (.str text) ∧
        f'.get? Slot.msgLength.name = some (.int (lengthOf text)) := by
  obtain ⟨hmessage, hlength⟩ := setAs_told h
  have hlength := hlength (by decide)
  simp only [get?_slot_name, slot?, hmessage, hlength]
  cases f.msgLength with
  | some n => exact .inl rfl
  | none =>
    cases told? Slot.message.name v with
    | none => exact .inl rfl
    | some text => exact .inr ⟨text, rfl, rfl, rfl⟩

/-- **A field that is set leaves all other fields alone**, but for the length of a message that had
none. -/
theorem get?_of_set (h : f.set name v = .ok f') {other : String} (hne : other ≠ name) :
    f'.get? other = f.get? other ∨ name = Slot.message.name ∧ other = Slot.msgLength.name ∧
      ∃ text, f.get? other = none ∧ f'.get? name = some (.str text) ∧
        f'.get? other = some (.int (lengthOf text)) := by
  by_cases hmessage : name = Slot.message.name ∧ other = Slot.msgLength.name
  · obtain ⟨rfl, rfl⟩ := hmessage
    exact (get?_msgLength_of_set h).imp_right fun hnew => ⟨rfl, rfl, hnew⟩
  · refine .inl ?_
    unfold set setAs at h
    unfold get?
    cases hslot : Slot.ofName? name with
    | none =>
      rw [hslot] at h
      cases h
      cases Slot.ofName? other with
      | none => exact (Keyed.get?_insert ..).trans (if_neg (Ne.symm hne))
      | some slot => cases slot <;> rfl
    -- two names of one slot are the same name
    | some slot =>
      rw [hslot] at h
      have hleaves := setSlot_leaves h
      obtain rfl := Slot.name_of_ofName? hslot
      cases hother : Slot.ofName? other with
      | none => exact congrArg (Keyed.get? other) hleaves.properties
      | some slot' =>
        obtain rfl := Slot.name_of_ofName? hother
        refine hleaves.others slot' (fun heq => hne (heq ▸ rfl)) ?_
        rintro rfl rfl
        exact hmessage ⟨rfl, rfl⟩

/-- A field that is set leaves the items of collections in front and the marks as they are. -/
theorem set_keeps (h : f.set name v = .ok f') :
    f.correlators <+: f'.correlators ∧ f.tags <+: f'.tags ∧ f'.filtered = f.filtered ∧
      f'.complete = f.complete ∧ f'.ordinal = f.ordinal := by
  unfold set setAs at h
  split at h
  · have hleaves := setSlot_leaves h
    exact ⟨hleaves.correlators, hleaves.tags, hleaves.filtered, hleaves.complete, hleaves.ordinal⟩
  · cases h
    exact ⟨List.prefix_rfl, List.prefix_rfl, rfl, rfl, rfl⟩

end Facts

namespace Record

variable {r : Record}

/-- A record that is made from nothing by setting fields, applying fields and merging. -/
inductive Composed : Record → Prop
  | blank : Composed .blank
  | set {r r' : Record} {name : String} {v : Value} :
    Composed r → r.set name v = .ok r' → Composed r'
  | apply {r r' : Record} {f : Field} {v : Value} :
    Composed r → r.apply f v = .ok r' → Composed r'
  | merge {r other : Record} : Composed r → Composed other → Composed (r.merge other)

theorem Composed.coherent (h : r.Composed) : r.facts.Coherent := by
  induction h with
  | blank => exact ⟨.nil, fun h => h⟩
  | set _ hset ih =>
    obtain ⟨facts, hfacts, rfl⟩ := map_eq_ok.1 hset
    exact ih.setAs hfacts
  | apply _ happly ih =>
    unfold Record.apply at happly
    obtain ⟨w, -, hrest⟩ := bind_eq_ok.1 happly
    obtain ⟨facts, hset, hreturn⟩ := bind_eq_ok.1 hrest
    cases hreturn
    exact ih.setAs (mapError_eq_ok.1 hset)
  | merge _ _ ih ih' => exact ih.merge ih'

/-- **The laws of getting and setting.** Take a record that is made from nothing by setting fields,
applying fields and merging. A field that is set leaves every other field as it was; only a length
may come with a message, in bytes, if there was none. The items of collections stay in front, and
the records inside and the marks stay as they are. A field that gathers no items can be set to the
value that it holds, and this leaves the whole record as it was. -/
theorem get_set_laws (h : r.Composed) :
    (∀ name v r', r.set name v = .ok r' →
      (∀ other, other ≠ name → r'.get? other = r.get? other ∨
        name = Slot.message.name ∧ other = Slot.msgLength.name ∧
          ∃ text, r.get? other = none ∧ r'.get? name = some (.str text) ∧
            r'.get? other = some (.int (Facts.lengthOf text))) ∧
      r.facts.correlators <+: r'.facts.correlators ∧ r.facts.tags <+: r'.facts.tags ∧
      r'.children = r.children ∧ r'.facts.filtered = r.facts.filtered ∧
      r'.facts.complete = r.facts.complete ∧ r'.facts.ordinal = r.facts.ordinal) ∧
    ∀ name v, name ≠ Slot.correlator.name → name ≠ Slot.tag.name → r.get? name = some v →
      r.set name v = .ok r := by
  constructor
  · intro name v r' hset
    obtain ⟨facts, hfacts, rfl⟩ := map_eq_ok.1 hset
    obtain ⟨hcorrelators, htags, hmarks⟩ := Facts.set_keeps hfacts
    exact ⟨fun other hne => Facts.get?_of_set hfacts hne, hcorrelators, htags, rfl, hmarks⟩
  · intro name v hcorrelator htag hget
    have hfacts := h.coherent.set_get? hcorrelator htag hget
    cases r
    exact map_eq_ok.2 ⟨_, hfacts, rfl⟩

/-- A record with a tag, merged with one with a severity. -/
def draft : Record :=
  .mk { tags := ["web"], severity := some .warning } []

theorem draft_composed : draft.Composed := by
  have htag : blank.set "Tag" (.str " web ,") = .ok (.mk { tags := ["web"] } []) := by rfl
  have hseverity : blank.set "Severity" (.str "warn") =
      .ok (.mk { severity := some .warning } []) := by rfl
  exact .merge (.set .blank htag) (.set .blank hseverity)

/-- A message whose length differs from the number of its characters comes with that length and
leaves tag and severity alone, and the severity can be set to the name that it is shown under. -/
theorem draft_finished :
    ∃ r, draft.set "Message" (.str "café") = .ok r ∧ r.get? "MsgLength" = some (.int 5) ∧
      r.get? "Severity" = draft.get? "Severity" ∧ draft.facts.tags <+: r.facts.tags ∧
      draft.set "Severity" (.str "WARNING") = .ok draft := by
  obtain ⟨hothers, hsame⟩ := get_set_laws draft_composed
  have hset : draft.set "Message" (.str "café") =
      .ok (.mk { draft.facts with message := some "café", msgLength := some 5 } []) := by rfl
  obtain ⟨hget, -, htags, -⟩ := hothers _ _ _ hset
  refine ⟨_, hset, rfl, ?_, htags, hsame "Severity" _ (by decide) (by decide) rfl⟩
  rcases hget "Severity" (by decide) with hseverity | ⟨-, hlength, -⟩
  · exact hseverity
  · exact absurd hlength (by decide)

end Record

end Intake
