import Intake.Proofs.Closing

/-!
# Marks of verdicts

The mark that a record filter has excluded a record is no field. What becomes of an item before its
record is judged does not depend on it.

* `Context.resolveField_unmarked`: what locators find does not depend on marks.
* `Record.apply_unmarked`, `Record.merge_unmarked`: what becomes of a record does not depend on
  them either.
* `Context.spread_unmarked`, `Parser.withDefaultMessage_unmarked`: nor does what is made of a
  context.
-/

namespace Intake

/-- The record without the mark of a verdict. -/
def Record.unmarked (r : Record) : Record := r.flagged false

/-- The context without the marks of verdicts on the records that are being made. -/
def Context.unmarked (ctx : Context) : Context :=
  { ctx with record := ctx.record.unmarked, outer := ctx.outer.map Record.unmarked }

namespace Facts

/-- The facts without the mark of a verdict. -/
def unmarked (f : Facts) : Facts := { f with filtered := false }

theorem setSlot_unmarked (f : Facts) (slot : Slot) (name : String) (format : Option TimeFormat)
    (v : Value) :
    f.unmarked.setSlot slot name format v = (f.setSlot slot name format v).map unmarked := by
  cases slot with
  | message =>
    change Except.ok (f.unmarked.setMessage v) = .ok (f.setMessage v).unmarked
    unfold setMessage
    simp only
    split <;> rfl
  | eventType | severity | compCode =>
    simp only [setSlot]
    cases code name _ _ v <;> rfl
  | startTime | endTime =>
    simp only [setSlot]
    cases instant name format v <;> rfl
  | elapsedTime | reasonCode | msgLength | processId | threadId =>
    simp only [setSlot]
    cases number name v <;> rfl
  | _ => rfl

theorem setAs_unmarked (f : Facts) (name : String) (format : Option TimeFormat) (v : Value) :
    f.unmarked.setAs name format v = (f.setAs name format v).map unmarked := by
  unfold setAs
  cases Slot.ofName? name with
  | some slot => exact f.setSlot_unmarked slot name format v
  | none => rfl

end Facts

namespace Record

theorem set_unmarked (r : Record) (name : String) (v : Value) :
    r.unmarked.set name v = (r.set name v).map unmarked := by
  change (r.facts.unmarked.setAs name none v).map _ = ((r.facts.setAs name none v).map _).map _
  rw [Facts.setAs_unmarked]
  cases r.facts.setAs name none v <;> rfl

/-- What a merged record becomes does not depend on the marks, but for its own one. -/
theorem merge_unmarked (r other : Record) :
    (r.merge other).unmarked = (r.unmarked.merge other.unmarked).unmarked := by
  have hfacts : (r.facts.merge other.facts).unmarked =
      (r.facts.unmarked.merge other.facts.unmarked).unmarked := by
    -- slot by slot: the records themselves would be unfolded over and over
    unfold Facts.merge Facts.unmarked
    rfl
  exact congrArg (fun facts => mk facts (joinChildren r.children other.children)) hfacts

/-- What is applied to a record does not depend on the mark, and leaves it as it is. -/
theorem apply_unmarked (r : Record) (f : Field) (v : Value) :
    r.unmarked.apply f v = (r.apply f v).map unmarked := by
  unfold apply
  cases f.settled (Field.unwrapped v) with
  | error e => rfl
  | ok w =>
    have hset := r.facts.setAs_unmarked f.name (f.locators.head?.map Locator.timeFormat) w
    change ((r.facts.unmarked.setAs f.name _ w).mapError _ >>= _) =
      Except.map unmarked ((r.facts.setAs f.name _ w).mapError _ >>= _)
    rw [hset]
    cases r.facts.setAs f.name (f.locators.head?.map Locator.timeFormat) w <;> rfl

end Record

namespace Context

variable (ctx : Context)

theorem fieldValue?_unmarked : ctx.unmarked.fieldValue? = ctx.fieldValue? := by
  funext name
  have hrecords : ctx.unmarked.record :: ctx.unmarked.outer =
      (ctx.record :: ctx.outer).map Record.unmarked := rfl
  unfold fieldValue?
  simp only [hrecords, List.getElem?_map]
  cases (ctx.record :: ctx.outer)[(outward name.toList).1]? <;> rfl

theorem lookup_unmarked (l : Locator) : ctx.unmarked.lookup l = ctx.lookup l := by
  have hnamed : ctx.unmarked.namedValue l = ctx.namedValue l := by
    -- the store too is asked by fields of the record alone
    unfold namedValue expressionValue
    rw [fieldValue?_unmarked]
    rfl
  unfold lookup
  rw [hnamed]
  rfl

theorem excludes_unmarked (filters : List ValueFilter) :
    ctx.unmarked.excludes filters = ctx.excludes filters := by
  funext v
  induction filters with
  | nil => rfl
  | cons f rest ih =>
    unfold excludes
    rw [ih]
    rfl

theorem resolve_unmarked (l : Locator) : ctx.unmarked.resolve l = ctx.resolve l := by
  have htransformed : ctx.unmarked.transformed l = ctx.transformed l := rfl
  unfold resolve
  rw [lookup_unmarked, htransformed, excludes_unmarked]

theorem resolveField_unmarked (f : Field) : ctx.unmarked.resolveField f = ctx.resolveField f := by
  have hfor : ctx.unmarked.resolveFor f = ctx.resolveFor f := by
    funext l
    unfold resolveFor
    rw [resolve_unmarked]
    rfl
  unfold resolveField
  rw [hfor]

theorem placeholderValues_unmarked (f : Field) :
    ctx.unmarked.placeholderValues f = ctx.placeholderValues f := by
  unfold placeholderValues
  simp only [resolve_unmarked]

theorem applyElements_unmarked (elements : List (Field × Value)) :
    (ctx.unmarked.applyElements elements).value =
      (ctx.applyElements elements).value.map Record.unmarked := by
  induction elements generalizing ctx with
  | nil => rfl
  | cons e rest ih =>
    obtain ⟨f, v⟩ := e
    have hexcludes : (ctx.unmarked.atField f.name).excludes (elementFilters f) (some v) =
        (ctx.atField f.name).excludes (elementFilters f) (some v) :=
      congrFun (excludes_unmarked (ctx.atField f.name) (elementFilters f)) (some v)
    rw [applyElements, applyElements, hexcludes, Resolving.value_bind, Resolving.value_bind,
      Resolving.value_noted]
    change Resolving.value (if _ then _ else _) = (Resolving.value (if _ then _ else _)).map _
    split
    · exact ih ctx
    · rw [Resolving.value_bind, Resolving.value_bind, Resolving.value_except,
        Resolving.value_except]
      change ((ctx.record.unmarked.apply f v).mapError _ >>= _) = _
      rw [Record.apply_unmarked]
      -- the next element finds the record as this one leaves it
      cases ctx.record.apply f v with
      | error e => rfl
      | ok record => exact ih { ctx with record }

theorem spread_unmarked (f : Field) (v : Value) :
    (ctx.unmarked.spread f v).value = (ctx.spread f v).value.map Record.unmarked := by
  unfold spread
  rw [placeholderValues_unmarked, Resolving.value_bind, Resolving.value_bind]
  cases (ctx.placeholderValues f).value with
  | error e => rfl
  | ok values => exact ctx.applyElements_unmarked _

end Context

namespace Parser

theorem withDefaultMessage_unmarked (profile : Profile) (dataAsMessage : Bool) (ctx : Context) :
    withDefaultMessage profile dataAsMessage ctx.unmarked =
      (withDefaultMessage profile dataAsMessage ctx).map Record.unmarked := by
  have hmessage : ctx.unmarked.record.facts.message = ctx.record.facts.message := rfl
  have hdata : ctx.unmarked.data = ctx.data := rfl
  have hraw : ctx.unmarked.raw = ctx.raw := rfl
  unfold withDefaultMessage
  rw [hmessage, hdata, hraw]
  cases ctx.record.facts.message with
  | some _ => rfl
  | none =>
    simp only
    cases (profile.resolver.defaultMessage? ctx.data).or
      (if dataAsMessage then ctx.raw.toText? else none) with
    | none => rfl
    | some s => exact ctx.record.set_unmarked _ _

theorem inner_unmarked (ctx : Context) (profile : Profile) (raw : RawData) (data : Prepared) :
    ctx.unmarked.inner profile raw data = (ctx.inner profile raw data).unmarked := rfl

end Parser

end Intake
