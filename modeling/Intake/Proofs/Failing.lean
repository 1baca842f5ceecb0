import Intake.Proofs.Filling

/-!
# How things fail

* `Record.apply_fails`: a value that a record does not take is a failure of its field.
* `Facts.setAs_refuses`, `Field.normalize_refuses`: a value is refused for what it is.
* `Context.resolve_fails`: a locator fails only if a value has not the form that it asks for, or
  cannot be written in it.
* `Parser.Propagates`: kinds of failures that are kept from stacked parsers to fields and back.
* `Parser.fill_mild`: fields that are filled one after the other leave the values kept between
  activities alone, and fail in such a kind; so a failure of theirs is one of a field, or a fault.
-/

namespace Intake

namespace Failure

/-- A field cannot be resolved or applied. -/
def IsField (e : Failure) : Prop :=
  ∃ name reason, e = field name reason

/-- A field has not as many values as locators. -/
def IsMismatch (e : Failure) : Prop :=
  ∃ name, ∃ locators values : Nat, e = field name s!"{locators} locators produced {values} values"

/-- A value of a field is refused for what it is, not for how many there are. -/
def IsRefusal (e : Failure) : Prop :=
  e.IsField ∧ ¬ e.IsMismatch

/-- The last letter of a text is that of its last part. -/
theorem getLast?_append_of_some (s : String) {t : String} {c : Char}
    (h : t.toList.getLast? = some c) : (s ++ t).toList.getLast? = some c := by
  rw [String.toList_append, List.getLast?_append, h]
  rfl

/-- A mismatch is told from other failures by the last letter of its reason. -/
theorem isRefusal_of_last {name reason : String} {c : Char}
    (h : reason.toList.getLast? = some c) (hc : c ≠ 's') : (field name reason).IsRefusal := by
  refine ⟨⟨name, reason, rfl⟩, ?_⟩
  rintro ⟨_, locators, values, heq⟩
  obtain ⟨-, rfl⟩ := field.inj heq
  exact hc (Option.some.inj (h.symm.trans (getLast?_append_of_some _ rfl)))

/-- A value has not the form that its locator asks for. -/
def IsFormat (e : Failure) : Prop :=
  ∃ location reason, e = format location reason

/-- The program stops. -/
def IsFault (e : Failure) : Prop :=
  ∃ f, e = fault f

/-- An instant cannot be written under a pattern. -/
def IsUnprintable (e : Failure) : Prop :=
  ∃ pattern, e = fault (.unprintable pattern)

/-- A value has not the form that its locator asks for, or cannot be written in it. -/
def IsFormal (e : Failure) : Prop :=
  e.IsFormat ∨ e.IsUnprintable

/-- An item cannot be made ready: it is no document, or data of a kind that the parser does not
read. -/
def IsUnreadable (e : Failure) : Prop :=
  (∃ reason, e = json reason) ∨ ∃ what, e = unsupportedData what

/-- A value does not fit its field: it is refused, or it cannot be written. -/
def IsUnfit (e : Failure) : Prop :=
  e.IsField ∨ e.IsUnprintable

/-- The failure stays as it is in whatever field it happens: it names its own, or the program
stops. -/
def IsFinal (e : Failure) : Prop :=
  e.IsField ∨ e.IsFault

/-- The failure is about data or a fault: neither about a missing value nor about the way parsers
are set up. -/
def Ordinary (e : Failure) : Prop :=
  ¬ e.IsMissing ∧ e.isConfiguration = false

theorem IsField.ordinary {e : Failure} (h : e.IsField) : e.Ordinary := by
  obtain ⟨name, reason, rfl⟩ := h
  refine ⟨?_, rfl⟩
  rintro ⟨f, l, h⟩
  cases h

theorem IsFault.ordinary {e : Failure} (h : e.IsFault) : e.Ordinary := by
  obtain ⟨f, rfl⟩ := h
  refine ⟨?_, rfl⟩
  rintro ⟨f, l, h⟩
  cases h

theorem IsUnprintable.isFault {e : Failure} (h : e.IsUnprintable) : e.IsFault := by
  obtain ⟨pattern, rfl⟩ := h
  exact ⟨_, rfl⟩

theorem IsFinal.ordinary {e : Failure} (h : e.IsFinal) : e.Ordinary :=
  h.elim IsField.ordinary IsFault.ordinary

theorem IsFinal.inField_eq {e : Failure} (h : e.IsFinal) (name : String) : e.inField name = e := by
  rcases h with ⟨f, reason, rfl⟩ | ⟨f, rfl⟩ <;> rfl

theorem IsFormat.ordinary {e : Failure} (h : e.IsFormat) : e.Ordinary := by
  obtain ⟨location, reason, rfl⟩ := h
  refine ⟨?_, rfl⟩
  rintro ⟨f, l, h⟩
  cases h

theorem IsFormal.ordinary {e : Failure} (h : e.IsFormal) : e.Ordinary :=
  h.elim IsFormat.ordinary fun h => h.isFault.ordinary

theorem IsUnreadable.ordinary {e : Failure} (h : e.IsUnreadable) : e.Ordinary := by
  rcases h with ⟨reason, rfl⟩ | ⟨what, rfl⟩
  · refine ⟨?_, rfl⟩
    rintro ⟨f, l, h⟩
    cases h
  · refine ⟨?_, rfl⟩
    rintro ⟨f, l, h⟩
    cases h

theorem IsUnfit.isFinal {e : Failure} (h : e.IsUnfit) : e.IsFinal :=
  h.imp id IsUnprintable.isFault

/-- Nothing becomes a fault by the field in which it happens. -/
theorem inField_eq_fault {e : Failure} {name : String} {f : Fault} :
    e.inField name = fault f ↔ e = fault f := by
  cases e <;> simp [inField, isConfiguration]

/-- A failure about data that happens while a field is filled is one of a field; a fault stays
one. -/
theorem Ordinary.inField {e : Failure} (h : e.Ordinary) (name : String) :
    (e.inField name).IsFinal := by
  obtain ⟨hmissing, hconfig⟩ := h
  cases e with
  | missingValue f l => exact absurd ⟨f, l, rfl⟩ hmissing
  | field f r => exact .inl ⟨f, r, rfl⟩
  | fault f => exact .inr ⟨f, rfl⟩
  | format | transform | filter | unsupportedData | preParse | io | pattern | json =>
    exact .inl ⟨_, _, rfl⟩
  | duplicateField | unknownReference | cyclicDependency | unsupportedLocator | conflictingMapping
  | setting | definition => cases hconfig

end Failure

open Failure

/-- A text that is no instant is refused for what it is. -/
theorem TimeFormat.parseText_refuses (format : TimeFormat) (name s : String) :
    FailsOnly (fun reason => (field name reason).IsRefusal) (format.parseText s) := by
  unfold TimeFormat.parseText TimeFormat.parseTrimmed
  split
  · exact .ok _
  split
  · exact .ok _
  split
  · exact .ok _
  split
  · exact .ok _
  split
  · exact .error (isRefusal_of_last (getLast?_append_of_some _ rfl) (by decide))
  · exact .error (isRefusal_of_last (getLast?_append_of_some _ rfl) (by decide))

theorem TimeFormat.parse_refuses (format : TimeFormat) (name : String) (v : Value) :
    FailsOnly (fun reason => (field name reason).IsRefusal) (format.parse v) := by
  cases v with
  | instant | int | float => exact .ok _
  | str | bytes => exact parseText_refuses _ _ _
  | bool | list | map =>
    exact .error (isRefusal_of_last (getLast?_append_of_some _ rfl) (by decide))

theorem TimeFormat.format_fails (format : TimeFormat) (t : Instant) :
    FailsOnly IsUnprintable (format.format t) := by
  unfold TimeFormat.format
  split
  · exact .elim ⟨_, rfl⟩
  · exact .ok _

namespace Facts

theorem code_refuses {α : Type} (name : String) (ofOrdinal : Int64 → Option α)
    (ofName : String → Option α) (v : Value) :
    FailsOnly IsRefusal (code name ofOrdinal ofName v) := by
  unfold code
  split
  · exact .ok _
  · exact .error (isRefusal_of_last (getLast?_append_of_some _ rfl) (by decide))

theorem instant_refuses (name : String) (format : Option TimeFormat) (v : Value) :
    FailsOnly IsRefusal (instant name format v) :=
  .mapError (TimeFormat.parse_refuses _ _ _)

theorem number_refuses (name : String) (v : Value) : FailsOnly IsRefusal (number name v) := by
  unfold number
  split
  · exact .ok _
  · exact .error (isRefusal_of_last (getLast?_append_of_some _ rfl) (by decide))

/-- A slot that does not take a value refuses it for what it is. -/
theorem setSlot_refuses (f : Facts) (slot : Slot) (name : String) (format : Option TimeFormat)
    (v : Value) : FailsOnly IsRefusal (f.setSlot slot name format v) := by
  cases slot with
  | eventType | severity | compCode => exact (code_refuses _ _ _ _).map
  | startTime | endTime => exact (instant_refuses _ _ _).map
  | elapsedTime | reasonCode | msgLength | processId | threadId => exact (number_refuses _ _).map
  | _ => exact .ok _

theorem setAs_refuses (f : Facts) (name : String) (format : Option TimeFormat) (v : Value) :
    FailsOnly IsRefusal (f.setAs name format v) := by
  unfold setAs
  split
  · exact setSlot_refuses _ _ _ _ _
  · exact .ok _

theorem setAs_fails (f : Facts) (name : String) (format : Option TimeFormat) (v : Value) :
    FailsOnly IsField (f.setAs name format v) :=
  (setAs_refuses f name format v).mono fun _ => And.left

end Facts

namespace Field

theorem normalize_refuses (f : Field) (l : Locator) (v : Value) :
    FailsOnly IsRefusal (f.normalize l v) := by
  simp only [normalize]
  split
  · split
    · exact .ok _
    · exact .error (isRefusal_of_last (getLast?_append_of_some _ rfl) (by decide))
  · exact .ok _
  · exact .ok _

theorem normalize_fails (f : Field) (l : Locator) (v : Value) :
    FailsOnly IsField (f.normalize l v) :=
  (normalize_refuses f l v).mono fun _ => And.left

theorem partText_fails (l : Locator) (v : Value) : FailsOnly IsUnprintable (partText l v) := by
  cases v with
  | instant t => exact TimeFormat.format_fails _ _
  | _ => exact .ok _

theorem joined_fails (f : Field) (first : Locator) (items : List Value) :
    FailsOnly IsUnfit (f.joined first items) := by
  simp only [joined]
  split
  · exact .error (.inl ⟨_, _, rfl⟩)
  · split
    · exact .error (.inl ⟨_, _, rfl⟩)
    · have hnormal : FailsOnly IsUnfit (items.zipIdx.mapM fun p =>
          (f.normalize ((f.locators[p.2]?).getD first) p.1).map
            fun v => ((f.locators[p.2]?).getD first, v)) :=
        .mapM fun p _ => ((normalize_fails _ _ _).mono fun _ => .inl).map
      refine hnormal.bind fun normalized => ?_
      split
      · exact .ok _
      · have hparts := FailsOnly.mapM (l := normalized) fun p _ => partText_fails p.1 p.2
        exact (hparts.mono fun _ => .inr).bind fun _ => .ok _

theorem settled_fails (f : Field) (v : Value) : FailsOnly IsUnfit (f.settled v) := by
  unfold settled
  split
  · exact .ok _
  · exact .ok _
  · exact joined_fails _ _ _
  · exact (normalize_fails _ _ _).mono fun _ => .inl
  · exact .ok _

end Field

/-- A value that a record does not take is a failure of its field, unless it cannot be written. -/
theorem Record.apply_fails (r : Record) (f : Field) (v : Value) :
    FailsOnly IsUnfit (r.apply f v) := by
  refine (f.settled_fails _).bind fun v => FailsOnly.bind (.mapError ?_) fun _ => .ok _
  intro e he
  have hfield := r.facts.setAs_fails _ _ v e he
  rw [IsFinal.inField_eq (.inl hfield)]
  exact .inl hfield

theorem Record.set_fails (r : Record) (name : String) (v : Value) :
    FailsOnly IsField (r.set name v) :=
  (r.facts.setAs_fails name none v).map

/-- Times cannot be derived only if their difference is too large. -/
theorem Record.determineTimes_fails (r : Record) (now : Instant) :
    FailsOnly IsFault (r.determineTimes now) := by
  refine .map (.map ?_)
  unfold Facts.elapsed
  split
  · split
    · exact .elim ⟨_, rfl⟩
    · exact .ok _
  · exact .ok _

namespace Locator

theorem toNumber_fails (l : Locator) (v : Value) : FailsOnly IsFormat (l.toNumber v) := by
  unfold toNumber
  -- all cases end in the same step, which narrows the number to what the pattern asks for
  extract_lets narrow
  have hnarrow : ∀ number, FailsOnly IsFormat (narrow number) := by
    intro number
    unfold narrow
    split
    · split
      · exact .ok _
      · exact .error ⟨_, _, rfl⟩
    · exact .ok _
    · exact .ok _
  split
  · exact hnarrow _
  · exact hnarrow _
  · exact hnarrow _
  · exact hnarrow _
  · simp only
    split
    · exact hnarrow _
    · exact .error ⟨_, _, rfl⟩
  · exact .error ⟨_, _, rfl⟩

theorem toBinary_fails (l : Locator) (v : Value) : FailsOnly IsFormat (l.toBinary v) := by
  unfold toBinary
  split
  · exact .ok _
  · simp only
    split
    · split
      · exact .ok _
      · exact .error ⟨_, _, rfl⟩
    · split
      · exact .ok _
      · exact .error ⟨_, _, rfl⟩
    · split
      · exact .ok _
      · exact .error ⟨_, _, rfl⟩
    · exact .ok _

theorem toText_fails (l : Locator) (v : Value) : FailsOnly IsUnprintable (l.toText v) := by
  unfold toText
  split
  · exact .ok _
  · split <;> exact .ok _
  · exact TimeFormat.format_fails _ _
  · exact .ok _

theorem coerce_fails (l : Locator) (v : Value) : FailsOnly IsFormal (l.coerce v) := by
  unfold coerce
  cases l.dataType with
  | number => exact (toNumber_fails l v).mono fun _ => .inl
  | binary => exact (toBinary_fails l v).mono fun _ => .inl
  | dateTime | timestamp => exact .map (.mapError fun _ _ => .inl ⟨_, _, rfl⟩)
  | generic => cases v <;> exact .ok _
  | asInput => exact .ok _
  | string => exact ((toText_fails l v).mono fun _ => .inr).map

mutual

/-- A value that has not the form of the locator is a failure of the form, however deep it lies. -/
theorem format_fails (l : Locator) : (v : Value) → FailsOnly IsFormal (l.format v)
  | .list items => by
    rw [format]
    exact (formatItems_fails l items).map
  | .map entries => by
    rw [format]
    exact (formatEntries_fails l entries).map
  | .bool _ | .int _ | .float _ | .str _ | .bytes _ | .instant _ => by
    rw [format] <;> simp [coerce_fails]

theorem formatItems_fails (l : Locator) :
    (items : List Value) → FailsOnly IsFormal (l.formatItems items)
  | [] => .ok _
  | v :: rest => by
    rw [formatItems]
    exact (format_fails l v).bind fun _ => (formatItems_fails l rest).bind fun _ => .ok _

theorem formatEntries_fails (l : Locator) :
    (entries : List (String × Value)) → FailsOnly IsFormal (l.formatEntries entries)
  | [] => .ok _
  | (_, v) :: rest => by
    rw [formatEntries]
    exact (format_fails l v).bind fun _ => (formatEntries_fails l rest).bind fun _ => .ok _

end

end Locator

namespace Resolver

theorem position_fails (location : String) : FailsOnly IsFormat (position location) := by
  unfold position
  split
  · exact .ok _
  · exact .error ⟨_, _, rfl⟩

theorem findInCaptures_fails (c : Captures) (l : Locator) :
    FailsOnly IsFormat (findInCaptures c l) := by
  unfold findInCaptures
  split
  · exact (position_fails _).map
  · exact (position_fails _).map
  · exact .ok _
  · split
    · exact .ok _
    · exact .ok _
  · exact .ok _

theorem find_fails (r : Resolver) (data : Prepared) (delim : String) (l : Locator) :
    FailsOnly IsFormat (r.find data delim l) := by
  unfold find
  split
  · exact .ok _
  · exact .ok _
  · exact (findInCaptures_fails _ _).map
  · exact .ok _

/-- A place that cannot be looked up is one that has not the right form. -/
theorem locate_fails (r : Resolver) (data : Prepared) (delim : String) (l : Locator) :
    FailsOnly IsFormat (r.locate data delim l) := by
  cases r with
  | custom own => exact .mapError fun _ _ => ⟨_, _, rfl⟩
  | _ => exact (find_fails _ _ _ _).map

theorem prepareJson_fails (raw : RawData) : FailsOnly IsUnreadable (prepareJson raw) := by
  unfold prepareJson
  split
  · exact .ok _
  · exact .ok _
  · split
    · exact .ok _
    · split
      · exact .ok _
      · exact .error (.inl ⟨_, rfl⟩)
  · exact .error (.inr ⟨_, rfl⟩)

/-- An item that cannot be made ready is no document, or of a kind that is not read. -/
theorem prepare_fails (r : Resolver) (raw : RawData) : FailsOnly IsUnreadable (r.prepare raw) := by
  cases r with
  | json => exact prepareJson_fails raw
  | map =>
    simp only [prepare, prepareMap]
    split
    · exact .ok _
    · exact .ok _
    · exact .error (.inr ⟨_, rfl⟩)
  | regex pattern whole collects =>
    simp only [prepare]
    split
    · exact .error (.inr ⟨_, rfl⟩)
    · exact .ok _
  | custom own =>
    refine .mapError fun why _ => ?_
    cases why with
    | document reason => exact .inl ⟨_, rfl⟩
    | kind what => exact .inr ⟨_, rfl⟩

end Resolver

namespace Context

variable (ctx : Context) (l : Locator)

theorem namedValue_fails : FailsOnly IsFormat (ctx.namedValue l).value := by
  unfold namedValue
  split
  · exact .ok _
  · exact .ok _
  · exact .ok _
  · exact .ok _
  · exact .ok _
  · exact .ok _
  · exact .ok _
  · exact Resolver.locate_fails _ _ _ _

theorem lookup_fails : FailsOnly IsFormat (ctx.lookup l).value := by
  unfold lookup
  split
  · exact .ok _
  · split
    · exact .ok _
    · split
      · exact .ok _
      · exact namedValue_fails ctx l

/-- What stands between the place that a locator points to and its value. -/
theorem value_resolve :
    (ctx.resolve l).value = (ctx.lookup l).value >>= fun found =>
      formatted l found.isFormatted
          (ctx.transformed l .raw (withoutBlank l found.value)).value >>= fun v =>
        let v := (ctx.transformed l .formatted v).value
        .ok (if (ctx.excludes l.filters v).value then none else v) := by
  unfold resolve
  simp only [Resolving.value_bind, Resolving.value_except, Resolving.value_noted,
    Resolving.value_pure]
  rfl

theorem formatted_fails (isFormatted : Bool) (v : Option Value) :
    FailsOnly IsFormal (formatted l isFormatted v) := by
  cases v with
  | none => exact .ok _
  | some v =>
    cases isFormatted with
    | true => exact .ok _
    | false => exact (l.format_fails v).map

/-- A locator fails only if a value has not the form that it or its place asks for, or cannot be
written in it. -/
theorem resolve_fails : FailsOnly IsFormal (ctx.resolve l).value := by
  rw [value_resolve]
  exact ((lookup_fails ctx l).mono fun _ => .inl).bind fun found =>
    (formatted_fails l _ _).bind fun _ => .ok _

theorem placeholderValues_fails (f : Field) :
    FailsOnly IsFormal (ctx.placeholderValues f).value := by
  unfold placeholderValues
  generalize ([] : Keyed Value) = acc
  induction f.nameLocators generalizing acc with
  | nil => exact .ok _
  | cons entry rest ih =>
    obtain ⟨id, l⟩ := entry
    rw [List.foldlM_cons, Resolving.value_bind, Resolving.value_bind]
    refine ((ctx.resolve_fails l).bind fun v => ?_).bind fun next => ih next
    cases v with
    | none => exact .ok _
    | some v => exact .ok _

theorem applyElements_fails (elements : List (Field × Value)) :
    FailsOnly IsUnfit (ctx.applyElements elements).value := by
  induction elements generalizing ctx with
  | nil => exact .ok _
  | cons element rest ih =>
    obtain ⟨f, v⟩ := element
    rw [applyElements, Resolving.value_bind]
    refine FailsOnly.bind (.ok _) fun excluded => ?_
    cases excluded with
    | true => exact ih ctx
    | false =>
      rw [if_neg Bool.false_ne_true, Resolving.value_bind, Resolving.value_except]
      refine .bind (.mapError ?_) fun record => ih _
      intro e he
      have hunfit := ctx.record.apply_fails f v e he
      rw [hunfit.isFinal.inField_eq]
      exact hunfit

/-- A value that cannot be spread over fields has not the right form or does not fit one of them. -/
theorem spread_fails (f : Field) (v : Value) :
    FailsOnly (fun e => e.IsFormal ∨ e.IsUnfit) (ctx.spread f v).value := by
  unfold spread
  rw [Resolving.value_bind]
  exact ((ctx.placeholderValues_fails f).mono fun _ => .inl).bind fun values =>
    (ctx.applyElements_fails _).mono fun _ => .inr

/-- A locator of a field fails for want of a value or because a value has not the right form. -/
theorem resolveFor_fails (f : Field) :
    FailsOnly (fun e => e.IsMissing ∨ e.IsFormal) (ctx.resolveFor f l).value := by
  unfold resolveFor
  rw [Resolving.value_bind]
  refine ((ctx.resolve_fails l).mono fun _ => .inr).bind fun v => ?_
  split
  · exact .error (.inl ⟨_, _, rfl⟩)
  · exact .ok _

/-- The value of a field is made of those that its locators find. -/
theorem value_resolveField (f : Field) : (ctx.resolveField f).value =
    (f.locators.mapM fun l => (ctx.resolveFor f l).value).map Value.simplify := by
  unfold resolveField
  rw [Resolving.value_bind, Resolving.value_mapM]
  rfl

theorem resolveField_fails (f : Field) :
    FailsOnly (fun e => e.IsMissing ∨ e.IsFormal) (ctx.resolveField f).value := by
  rw [value_resolveField]
  exact (FailsOnly.mapM fun l _ => ctx.resolveFor_fails l f).map

end Context

namespace Parser

open Attempt

theorem withDefaultMessage_fails (profile : Profile) (dataAsMessage : Bool) (ctx : Context) :
    FailsOnly IsField (withDefaultMessage profile dataAsMessage ctx) := by
  unfold withDefaultMessage
  split
  · exact .ok _
  · split
    · exact ctx.record.set_fails _ _
    · exact .ok _

/-- A record that is taken up fails only with its times. -/
theorem takeUp_fails (ctx : Context) (parser : String) (how : Aggregation) (flatten : Bool)
    (sub : Record) : FailsOnly IsFault (takeUp ctx parser how flatten sub) := by
  cases how with
  | merge => exact .ok _
  | relate => exact (sub.determineTimes_fails _).map

/-- Failures of one kind, within the fields of such parsers, become failures of another kind where
they are put down to a field, and those are of the first kind again for the parser around. -/
structure Propagates (holds : Parser → Prop) (within around : Failure → Prop) : Prop where
  stacked : ∀ {p : Parser}, holds p → ∀ pf ∈ p.fields, ∀ st ∈ pf.stacked, holds st.parser
  formal : ∀ e, e.IsFormal → within e
  unfit : ∀ e, e.IsUnfit → within e
  unreadable : ∀ e, e.IsUnreadable → within e
  takeUp : ∀ {p : Parser} {v : Value} {ctx : Context} {s s' : Session} {sub : Record}
    (how : Aggregation) (flatten : Bool), holds p →
    (parseStacked p v ctx).on s = (.ok (some sub), s') →
    FailsOnly within (takeUp ctx p.name how flatten sub)
  inField : ∀ {e : Failure} (name : String), within e → around (e.inField name)
  inward : ∀ e, around e → within e

/-- Failures about data propagate as failures of fields, or as faults. -/
theorem ordinary_propagates : Propagates (fun _ => True) Ordinary IsFinal where
  stacked _ _ _ _ _ := trivial
  formal _ := IsFormal.ordinary
  unfit _ h := h.isFinal.ordinary
  unreadable _ := IsUnreadable.ordinary
  takeUp how flatten _ _ := (takeUp_fails _ _ how flatten _).mono fun _ => IsFault.ordinary
  inField name h := h.inField name
  inward _ := IsFinal.ordinary

section Mild

variable {holds : Parser → Prop} {within around : Failure → Prop}

/-- A value is taken into the record mildly, if it is offered mildly to the parsers stacked on its
field. -/
theorem take_mild_of (h : Propagates holds within around) {pf : ParserField Parser}
    (hoffer : ∀ v ctx, Mild within (offer pf.stacked v ctx)) (v : Value) (ctx : Context) :
    Mild within (take pf v ctx) := by
  unfold take
  split
  · have hspread := (ctx.spread_fails pf.field v).mono fun e => Or.rec (h.formal e) (h.unfit e)
    exact (Mild.resolving hspread).bind fun _ => .pure _
  · refine (hoffer v ctx).bind fun next => ?_
    obtain ⟨ctx', accepted⟩ := next
    cases accepted with
    | true => exact .pure _
    | false =>
      have happly := (ctx'.record.apply_fails pf.field v).mono h.unfit
      exact (Mild.except happly).bind fun _ => .pure _

theorem fillField_mild_of (h : Propagates holds within around) {pf : ParserField Parser}
    (hoffer : ∀ v ctx, Mild within (offer pf.stacked v ctx)) (ctx : Context) :
    Mild (fun e => e.IsMissing ∨ within e) (fillField pf ctx) := by
  unfold fillField
  have hresolve := (ctx.resolveField_fails pf.field).mono fun e => Or.imp_right (h.formal e)
  refine (Mild.resolving hresolve).bind fun v => ?_
  cases v with
  | none => exact .pure _
  | some v => exact (take_mild_of h hoffer v ctx).mono fun _ => .inr

/-- Fields are filled mildly if their first one is and the others are. -/
theorem fill_cons_mild (h : Propagates holds within around) {pf : ParserField Parser}
    {rest : List (ParserField Parser)} (hoffer : ∀ v ctx, Mild within (offer pf.stacked v ctx))
    (hrest : ∀ ctx, Mild around (fill rest ctx)) (ctx : Context) :
    Mild around (fill (pf :: rest) ctx) := by
  intro s
  have hfield := fillField_mild_of h hoffer (ctx.atField pf.field.name) s
  rcases hon : (fillField pf (ctx.atField pf.field.name)).on s with ⟨e | ctx₁, s₁⟩
  · rw [hon] at hfield
    rw [fill_of_error hon]
    -- a missing value ends here, all else is put down to the field
    by_cases he : e.IsMissing
    · obtain ⟨s₂, hgive, hcache⟩ := giveUp_of_isMissing he
      rw [hgive]
      refine ⟨hcache.trans hfield.1, ?_⟩
      intro e' he'
      cases he'
    · obtain ⟨s₂, hgive, hcache⟩ := giveUp_of_not_isMissing he
      rw [hgive]
      refine ⟨hcache.trans hfield.1, ?_⟩
      rintro _ ⟨⟩
      exact h.inField _ ((hfield.2 e rfl).resolve_left he)
  · rw [hon] at hfield
    rw [fill_of_ok hon]
    have hnext := hrest ctx₁ s₁
    exact ⟨hnext.1.trans hfield.1, hnext.2⟩

mutual

/-- A stacked parser leaves the values kept between activities alone. -/
theorem parseStacked_mild_of (h : Propagates holds within around) : (p : Parser) → holds p →
    (v : Value) → (outer : Context) → Mild within (parseStacked p v outer)
  | mk profile preParsers filters fields, hp, v, outer => by
    rw [parseStacked]
    refine (Mild.run (Session.preParsed_keepsCache _ _)).bind fun raw => ?_
    have hprepare := (profile.resolver.prepare_fails raw).mono h.unreadable
    split
    · exact .pure _
    · next heq => exact .throw (hprepare _ heq)
    · exact .pure _
    · next data heq =>
      have hfill := fill_mild_of h fields (h.stacked hp) (outer.inner profile raw data)
      refine (hfill.mono h.inward).bind fun ctx => ?_
      cases ctx with
      | none => exact .pure _
      | some ctx =>
        have hmessage := (withDefaultMessage_fails profile false ctx).mono
          fun e he => h.unfit e (.inl he)
        exact (Mild.except hmessage).bind fun r =>
          (Mild.run (judged_keepsCache _ _ _)).bind fun _ => .pure _

/-- **Filling fields leaves the values kept between activities alone, and fails only as a failure
within a field does that is put down to it.** -/
theorem fill_mild_of (h : Propagates holds within around) : (fields : List (ParserField Parser)) →
    (∀ pf ∈ fields, ∀ st ∈ pf.stacked, holds st.parser) → (ctx : Context) →
    Mild around (fill fields ctx)
  | [], _, _ => by
    rw [fill]
    exact .pure _
  | ⟨f, stacked⟩ :: rest, hfields, ctx =>
    fill_cons_mild h
      (fun v ctx => offer_mild_of h stacked (hfields ⟨f, stacked⟩ List.mem_cons_self) v ctx)
      (fun ctx => fill_mild_of h rest (fun pf hpf => hfields pf (List.mem_cons_of_mem _ hpf)) ctx)
      ctx

theorem offer_mild_of (h : Propagates holds within around) : (stacked : List (Stacked Parser)) →
    (∀ st ∈ stacked, holds st.parser) → (v : Value) → (ctx : Context) →
    Mild within (offer stacked v ctx)
  | [], _, _, _ => by
    rw [offer]
    exact .pure _
  | ⟨p, how, flatten⟩ :: rest, hstacked, v, ctx => by
    have hp : holds p := hstacked ⟨p, how, flatten⟩ List.mem_cons_self
    have hrest := offer_mild_of h rest fun st hst => hstacked st (List.mem_cons_of_mem _ hst)
    rw [offer]
    refine (parseStacked_mild_of h p hp v ctx).bind_reached fun s sub s' hon => ?_
    cases sub with
    | none => exact hrest v ctx
    | some sub =>
      exact (Mild.except (h.takeUp how flatten hp hon)).bind fun ctx =>
        (hrest v ctx).bind fun _ => .pure _

end

end Mild

theorem take_mild {pf : ParserField Parser}
    (hoffer : ∀ v ctx, Mild Ordinary (offer pf.stacked v ctx)) (v : Value) (ctx : Context) :
    Mild Ordinary (take pf v ctx) :=
  take_mild_of ordinary_propagates hoffer v ctx

/-- **Filling fields leaves the values kept between activities alone, and fails only as a field or
with a fault.** -/
theorem fill_mild (fields : List (ParserField Parser)) (ctx : Context) :
    Mild IsFinal (fill fields ctx) :=
  fill_mild_of ordinary_propagates fields (fun _ _ _ _ => trivial) ctx

theorem offer_mild (stacked : List (Stacked Parser)) (v : Value) (ctx : Context) :
    Mild Ordinary (offer stacked v ctx) :=
  offer_mild_of ordinary_propagates stacked (fun _ _ => trivial) v ctx

end Parser

end Intake
