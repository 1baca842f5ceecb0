import Intake.Proofs.Run

/-!
# Locators that point alike

What a locator finds, and the form that it gives to a value, do not depend on whether it has to find
one, nor on its transforms and filters.

* `Locator.PointsAlike`: two locators point to the same place and ask for the same form.
* `Locator.PointsAlike.format_eq`: they give a value the same form.
* `Locator.PointsAlike.lookup_eq`: they find the same.
-/

namespace Intake

namespace Locator

/-- Two locators point to the same place and ask for the same form. Whether they have to find
something, and what is done to it on the way, may differ. -/
structure PointsAlike (l l' : Locator) : Prop where
  kind : l'.kind = l.kind
  location : l'.location = l.location
  dataType : l'.dataType = l.dataType
  pattern : l'.pattern = l.pattern
  units : l'.units = l.units
  valueMap : l'.valueMap = l.valueMap
  emptyAsNull : l'.emptyAsNull = l.emptyAsNull

namespace PointsAlike

variable {l l' : Locator}

theorem timeFormat_eq (h : l.PointsAlike l') : l'.timeFormat = l.timeFormat := by
  unfold timeFormat
  rw [h.pattern, h.units]

theorem toNumber_eq (h : l.PointsAlike l') (v : Value) : l'.toNumber v = l.toNumber v := by
  unfold toNumber formFailure
  rw [h.pattern, h.location]

theorem coerce_eq (h : l.PointsAlike l') (v : Value) : l'.coerce v = l.coerce v := by
  unfold coerce toText toBinary formFailure
  rw [h.dataType, h.pattern, h.location, h.timeFormat_eq, h.toNumber_eq]

theorem mapValue_eq (h : l.PointsAlike l') (v : Value) : l'.mapValue v = l.mapValue v := by
  unfold mapValue
  rw [h.valueMap]

mutual

/-- Locators that point alike give a value the same form. -/
theorem format_eq (h : l.PointsAlike l') : (v : Value) → l'.format v = l.format v
  | .list items => by rw [format, format, formatItems_eq h]
  | .map entries => by rw [format, format, formatEntries_eq h]
  | .bool _ | .int _ | .float _ | .str _ | .bytes _ | .instant _ => by
    simp only [format, h.mapValue_eq, h.coerce_eq]

theorem formatItems_eq (h : l.PointsAlike l') :
    (items : List Value) → l'.formatItems items = l.formatItems items
  | [] => rfl
  | v :: rest => by rw [formatItems, formatItems, format_eq h, formatItems_eq h]

theorem formatEntries_eq (h : l.PointsAlike l') : (entries : List (String × Value)) →
    l'.formatEntries entries = l.formatEntries entries
  | [] => rfl
  | (_, v) :: rest => by rw [formatEntries, formatEntries, format_eq h, formatEntries_eq h]

end

theorem formatted_eq (h : l.PointsAlike l') (isFormatted : Bool) (v : Option Value) :
    Context.formatted l' isFormatted v = Context.formatted l isFormatted v := by
  cases v with
  | none => rfl
  | some v => simp only [Context.formatted, h.format_eq]

theorem withoutBlank_eq (h : l.PointsAlike l') (v : Option Value) :
    Context.withoutBlank l' v = Context.withoutBlank l v := by
  unfold Context.withoutBlank
  rw [h.emptyAsNull]

theorem find_eq (h : l.PointsAlike l') (r : Resolver) (data : Prepared) (delim : String) :
    r.find data delim l' = r.find data delim l := by
  simp only [Resolver.find, Resolver.findInCaptures, h.kind, h.location]

theorem bare_eq (h : l.PointsAlike l') : l'.bare = l.bare := by
  simp only [bare, h.kind, h.location, h.dataType, h.pattern, h.units, h.valueMap, h.emptyAsNull]

theorem locate_eq (h : l.PointsAlike l') (r : Resolver) (data : Prepared) (delim : String) :
    r.locate data delim l' = r.locate data delim l := by
  simp only [Resolver.locate, h.bare_eq, h.location, h.find_eq]

/-- Locators that point alike find the same. -/
theorem lookup_eq (h : l.PointsAlike l') (ctx : Context) : ctx.lookup l' = ctx.lookup l := by
  unfold Context.lookup Context.namedValue isWholeData metadataPath?
  simp only [h.kind, h.location, h.locate_eq]

end PointsAlike

end Locator

end Intake
