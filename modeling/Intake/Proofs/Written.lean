import Intake.Proofs.Digits
import Intake.Proofs.Parts
import Intake.TimeFormat

/-!
# Written instants

An instant that is written as text is read as itself.

* `PatternItem.Delimited.read`, `PatternItem.readParts_chars`: the items of a pattern are read as
  they were written, where what follows an item shows its end.
* `readPattern_format`: a moment is read along a pattern that names all of its parts as itself.
* `readInternet_format`: so is its text in the profile of ISO 8601 for the internet.
* `TimeFormat.parse_format`: **an instant that is written as text is read as itself.**
-/

namespace Intake.Calendar

open Text (Spells)

variable {m : Moment} {p : Parts} {rest : List Char}

/-- The numbers of a moment that are written with two digits. -/
inductive Moment.TwoDigits (m : Moment) : NumberPart → Int → Prop
  | month : TwoDigits m .month m.date.month
  | day : TwoDigits m .day m.date.day
  | hour : TwoDigits m .hour m.hour
  | minute : TwoDigits m .minute m.minute
  | second : TwoDigits m .second m.second

namespace Moment.TwoDigits

variable {part : NumberPart} {v : Int}

theorem bounds (h : m.TwoDigits part v) (hm : m.IsKept) : 0 ≤ v ∧ v < 100 := by
  have hlast := hm.date.day_le_31
  obtain ⟨⟨⟨hmonth, hmonth', hday, -⟩, hhour, hminute, hsecond, -⟩, -, -⟩ := hm
  cases h <;> omega

theorem numberText (h : m.TwoDigits part v) :
    numberText m part .zero = padNat .zero 2 v.toNat := by
  cases h <;> rfl

theorem numberWidth (h : m.TwoDigits part v) : numberWidth part = (some 2, false) := by
  cases h <;> rfl

theorem setNumber (h : m.TwoDigits part v) (hp : p.Tells m) (hm : m.IsKept) :
    p.setNumber part v = some (p.told m (.number part .zero)) := by
  cases h with
  | month => exact hp.setMonth hm
  | day => exact hp.setDay hm
  | hour => exact hp.setHour hm
  | minute => exact hp.setMinute hm
  | second => exact hp.setSecond hm

/-- A number of two digits is read as itself. -/
theorem readDigits (h : m.TwoDigits part v) (hm : m.IsKept) {least : Nat} (hleast : least ≤ 2)
    (rest : List Char) :
    readDigits least (some 2) ((padNat .zero 2 v.toNat).toList ++ rest) = some (v, rest) := by
  obtain ⟨hlo, hhi⟩ := h.bounds hm
  exact readDigits_padNat hleast (by decide) (by decide) hlo (by omega) rest

end Moment.TwoDigits

/-- A run of digits starts with neither a blank nor a sign. -/
theorem readNumber_of_spells {part : NumberPart} {cs : List Char} {n : Nat} (h : Spells cs n)
    (hne : cs ≠ []) :
    readNumber part (cs ++ rest) = readDigits 1 (numberWidth part).1 (cs ++ rest) := by
  have hsign {c : Char} {more : List Char} (heq : cs ++ rest = c :: more) :
      Text.isDigit c = true := by
    obtain ⟨d, ds, rfl⟩ := List.exists_cons_of_ne_nil hne
    exact h.isDigit c ((List.cons.inj heq).1 ▸ List.mem_cons_self)
  unfold readNumber
  simp only [h.dropWhile_isBlank hne]
  split
  · next heq => exact absurd (hsign heq) (by decide)
  · next heq => exact absurd (hsign heq) (by decide)
  · rfl

/-- The digits of a year, without its sign. -/
theorem toList_yearText (year : Int) :
    (yearText .zero year).toList =
      (if year < 0 then ['-'] else if 9999 < year then ['+'] else []) ++
        (padNat .zero 4 year.natAbs).toList := by
  unfold yearText
  by_cases hneg : year < 0
  · rw [if_neg (by omega), if_pos hneg, if_pos hneg]
    exact String.toList_append
  · by_cases hlarge : 9999 < year
    · rw [if_neg (by omega), if_neg hneg, if_neg hneg, if_pos hlarge]
      exact String.toList_append
    · have habs : year.toNat = year.natAbs := by omega
      rw [if_pos (by omega), if_neg hneg, if_neg hlarge, habs, List.nil_append]

theorem readNumber_year_minus (cs : List Char) :
    readNumber .year ('-' :: cs) = (readDigits 1 none cs).map fun r => (-r.1, r.2) := rfl

theorem readNumber_year_plus (cs : List Char) :
    readNumber .year ('+' :: cs) = readDigits 1 none cs := rfl

/-- A year is read from its text if no digit follows. -/
theorem readNumber_yearText {year : Int} (hmin : minYear ≤ year) (hmax : year ≤ maxYear)
    (hrest : rest.takeWhile Text.isDigit = []) :
    readNumber .year ((yearText .zero year).toList ++ rest) = some (year, rest) := by
  have hspells := spells_padNat 4 year.natAbs
  have hlength := length_padNat 4 year.natAbs
  have hword : (year.natAbs : Int) ≤ maxInt64 := by
    unfold minYear at hmin
    unfold maxYear at hmax
    unfold maxInt64
    omega
  have hne : (padNat .zero 4 year.natAbs).toList ≠ [] := padNat_ne_nil (by decide)
  have hrun : readDigits 1 none ((padNat .zero 4 year.natAbs).toList ++ rest) =
      some ((year.natAbs : Int), rest) :=
    readDigits_run_of_spells hspells (by omega) hword hrest
  rw [toList_yearText, List.append_assoc]
  -- a year has a sign if it is below zero or has more than four digits
  by_cases hneg : year < 0
  · have habs : -(year.natAbs : Int) = year := by omega
    rw [if_pos hneg, List.singleton_append, readNumber_year_minus, hrun, Option.map_some, habs]
  · rw [if_neg hneg]
    by_cases hlarge : 9999 < year
    · have habs : (year.natAbs : Int) = year := by omega
      rw [if_pos hlarge, List.singleton_append, readNumber_year_plus, hrun, habs]
    · have habs : year.natAbs = year.toNat := by omega
      rw [if_neg hlarge, List.nil_append, readNumber_of_spells hspells hne, habs]
      exact readDigits_padNat (by decide) (by decide) (by decide) (by omega) (by omega) rest

/-- The six digits of a microsecond. -/
theorem spells_fixedFractionText {micro : Int} (hlo : 0 ≤ micro) (hhi : micro < 1000000) :
    Spells (fixedFractionText 6 micro).toList micro.toNat ∧
      (fixedFractionText 6 micro).toList.length = 6 := by
  have hlength : (padNat .zero 9 (micro * 1000).toNat).toList.length = 9 :=
    length_padNat_of_lt (by decide) (by omega)
  have htake := (spells_padNat 9 (micro * 1000).toNat).take 6
  have hquotient : (micro * 1000).toNat / 10 ^ (9 - 6) = micro.toNat := by omega
  rw [hlength, hquotient] at htake
  rw [fixedFractionText, String.toList_ofList, List.length_take, hlength]
  exact ⟨htake, rfl⟩

/-- The six digits of a microsecond are read as its nanoseconds. -/
theorem readFixedFraction_fixedFractionText {micro : Int} (hlo : 0 ≤ micro) (hhi : micro < 1000000)
    (rest : List Char) :
    readFixedFraction 6 ((fixedFractionText 6 micro).toList ++ rest) =
      some (micro * 1000, rest) := by
  obtain ⟨hspells, hlength⟩ := spells_fixedFractionText hlo hhi
  have hmax : (micro.toNat : Int) ≤ maxInt64 := by
    unfold maxInt64
    omega
  have hdigits := readDigits_of_spells hspells hlength (Nat.le_refl 6) hmax rest
  rw [Int.toNat_of_nonneg hlo] at hdigits
  rw [readFixedFraction, hdigits]
  rfl

/-- So they are where any number of digits may stand. -/
theorem readFraction_fixedFractionText {micro : Int} (hlo : 0 ≤ micro) (hhi : micro < 1000000)
    (hrest : rest.takeWhile Text.isDigit = []) :
    readFraction ((fixedFractionText 6 micro).toList ++ rest) = some (micro * 1000, rest) := by
  obtain ⟨hspells, hlength⟩ := spells_fixedFractionText hlo hhi
  have hrun : ((fixedFractionText 6 micro).toList ++ rest).takeWhile Text.isDigit =
      (fixedFractionText 6 micro).toList := by
    rw [List.takeWhile_append_of_pos hspells.isDigit, hrest, List.append_nil]
  have hafter : ((fixedFractionText 6 micro).toList ++ rest).dropWhile Text.isDigit = rest := by
    have hsplit := rest.takeWhile_append_dropWhile (p := Text.isDigit)
    rw [hrest, List.nil_append] at hsplit
    rw [List.dropWhile_append_of_pos hspells.isDigit, hsplit]
  have hvalue : ((micro.toNat * Nat.pow 10 (9 - 6) : Nat) : Int) = micro * 1000 := by
    change ((micro.toNat * 1000 : Nat) : Int) = micro * 1000
    omega
  unfold readFraction
  simp only [hrun, hafter]
  rw [List.isEmpty_eq_false_iff.2 (List.ne_nil_of_length_pos (by omega)),
    List.take_of_length_le (by omega), hspells.value, hlength, hvalue]
  rfl

namespace PatternItem

/-- The characters that an item is written with, none if it cannot be written. -/
def chars (m : Moment) (item : PatternItem) : List Char :=
  ((item.text? m).getD "").toList

theorem chars_literal (m : Moment) (c : Char) : (literal c).chars m = [c] :=
  String.toList_singleton c

theorem chars_blank (m : Moment) (c : Char) : (blank c).chars m = [c] :=
  String.toList_singleton c

theorem chars_number (m : Moment) (part : NumberPart) (padding : Padding) :
    (number part padding).chars m = (numberText m part padding).toList := rfl

theorem chars_fixedFraction (m : Moment) (digits : Nat) :
    (fixedFraction digits).chars m = '.' :: (fixedFractionText digits m.micro).toList :=
  String.toList_append

/-- An item that is read as it was written, if `rest` follows it. -/
inductive Delimited (m : Moment) (rest : List Char) : PatternItem → Prop
  | literal (c : Char) : Delimited m rest (.literal c)
  | blank {c : Char} (hc : Text.isBlank c = true) (hrest : rest.dropWhile Text.isBlank = rest) :
    Delimited m rest (.blank c)
  | year (hrest : rest.takeWhile Text.isDigit = []) : Delimited m rest (.number .year .zero)
  | twoDigits {part : NumberPart} {v : Int} (hpart : m.TwoDigits part v) :
    Delimited m rest (.number part .zero)
  | fraction : Delimited m rest (.fixedFraction 6)

theorem read_number {part : NumberPart} {padding : Padding} {cs : List Char} {v : Int} {p' : Parts}
    (hread : readNumber part cs = some (v, rest)) (hset : p.setNumber part v = some p') :
    (number part padding).read p cs = some (p', rest) := by
  change ((readNumber part cs).bind fun r =>
    (p.setNumber part r.1).bind fun p => some (p, r.2)) = _
  exact Option.bind_eq_some_iff.2 ⟨_, hread, Option.bind_eq_some_iff.2 ⟨_, hset, rfl⟩⟩

/-- **An item is read as it was written**, and gives its part of the moment. -/
theorem Delimited.read {item : PatternItem} (h : item.Delimited m rest) (hp : p.Tells m)
    (hm : m.IsKept) : item.read p (item.chars m ++ rest) = some (p.told m item, rest) := by
  -- reading a part undoes writing it, up to what has to follow so that the part ends there
  cases h with
  | literal c =>
    rw [chars_literal, List.singleton_append]
    change (expect c (c :: rest)).map _ = _
    rw [expect, if_pos rfl]
    rfl
  | @blank c hc hrest =>
    rw [chars_blank, List.singleton_append]
    change some (p, (c :: rest).dropWhile Text.isBlank) = _
    rw [List.dropWhile_cons_of_pos hc, hrest]
    rfl
  | year hrest =>
    exact read_number (readNumber_yearText hm.minYear_le hm.le_maxYear hrest) (hp.setYear hm)
  | @twoDigits part v hpart =>
    refine read_number ?_ (hpart.setNumber hp hm)
    rw [chars_number, hpart.numberText,
      readNumber_of_spells (spells_padNat 2 _) (padNat_ne_nil (by decide)), hpart.numberWidth]
    exact hpart.readDigits hm (by decide) rest
  | fraction =>
    have hread := readFixedFraction_fixedFractionText hm.micro.1 hm.micro.2 rest
    rw [chars_fixedFraction, List.cons_append]
    change ((readFixedFraction 6 ((fixedFractionText 6 m.micro).toList ++ rest)).bind
      fun r => (p.setNanosecond r.1).bind fun p => some (p, r.2)) = _
    exact Option.bind_eq_some_iff.2
      ⟨_, hread, Option.bind_eq_some_iff.2 ⟨_, hp.setNanosecond hm, rfl⟩⟩

/-- Each item of a pattern is read as it was written, if the ones after it follow. -/
def AllDelimited (m : Moment) : List PatternItem → Prop
  | [] => True
  | item :: items => item.Delimited m (items.flatMap (·.chars m)) ∧ AllDelimited m items

/-- **Items are read as they were written**, one after another. -/
theorem readParts_chars (hm : m.IsKept) {items : List PatternItem} (h : AllDelimited m items)
    (hp : p.Tells m) :
    readParts p items (items.flatMap (·.chars m)) = some (items.foldl (Parts.told m) p) := by
  induction items generalizing p with
  | nil => rfl
  | cons item items ih =>
    rw [readParts, List.flatMap_cons, h.1.read hp hm]
    exact ih h.2 (hp.told item)

end PatternItem

namespace PatternItem

variable {items : List PatternItem}

/-- Items that are written one after the other have their characters one after the other. -/
theorem chars_of_texts {texts : List String} (h : items.mapM (text? m) = some texts) :
    texts.flatMap String.toList = items.flatMap (·.chars m) := by
  induction items generalizing texts with
  | nil =>
    rw [List.mapM_nil] at h
    cases h
    rfl
  | cons item items ih =>
    rw [List.mapM_cons] at h
    obtain ⟨text, htext, hrest⟩ := Option.bind_eq_some_iff.1 h
    obtain ⟨more, hmore, hsame⟩ := Option.bind_eq_some_iff.1 hrest
    cases hsame
    rw [List.flatMap_cons, List.flatMap_cons, ih hmore, chars, htext, Option.getD_some]

theorem exists_texts (h : ∀ item ∈ items, (item.text? m).isSome) :
    ∃ texts, items.mapM (text? m) = some texts := by
  induction items with
  | nil => exact ⟨[], List.mapM_nil⟩
  | cons item items ih =>
    obtain ⟨hitem, hitems⟩ := List.forall_mem_cons.1 h
    obtain ⟨text, htext⟩ := Option.isSome_iff_exists.1 hitem
    obtain ⟨texts, htexts⟩ := ih hitems
    refine ⟨text :: texts, ?_⟩
    rw [List.mapM_cons, htext, htexts]
    rfl

end PatternItem

/-- A moment is written item by item. -/
theorem Moment.toList_format {pattern s : String} (h : m.format pattern = some s) :
    s.toList = (patternItems pattern.toList).flatMap (·.chars m) := by
  obtain ⟨texts, htexts, rfl⟩ := Option.map_eq_some_iff.1 h
  rw [String.toList_join, PatternItem.chars_of_texts htexts]

/-- A moment can be written if all items of the pattern can. -/
theorem Moment.exists_format {pattern : String}
    (h : ∀ item ∈ patternItems pattern.toList, (item.text? m).isSome) :
    ∃ s, m.format pattern = some s := by
  obtain ⟨texts, htexts⟩ := PatternItem.exists_texts h
  exact ⟨_, Option.map_eq_some_iff.2 ⟨texts, htexts, rfl⟩⟩

/-- A moment that is written along a pattern is read along it as itself, if the pattern names all
of its parts. -/
theorem readPattern_format {pattern s : String} (hm : m.IsKept) (hs : m.format pattern = some s)
    (hitems : PatternItem.AllDelimited m (patternItems pattern.toList))
    (hall : (patternItems pattern.toList).foldl (Parts.told m) {} = Parts.ofMoment m) :
    readPattern pattern s = some m.toMicros := by
  rw [readPattern, Moment.toList_format hs,
    PatternItem.readParts_chars hm hitems (Parts.tells_empty m), hall, Option.bind_some,
    Parts.toInstantMicros_ofMoment, Parts.toLocalMicros_ofMoment hm.isValid]
  rfl

theorem expect_self (a : Char) (rest : List Char) : expect a (a :: rest) = some rest :=
  if_pos rfl

theorem patternItems_plainPattern :
    patternItems Instant.plainPattern.toList =
      [.number .year .zero, .literal '-', .number .month .zero, .literal '-', .number .day .zero,
        .literal 'T', .number .hour .zero, .literal ':', .number .minute .zero, .literal ':',
        .number .second .zero, .fixedFraction 6, .literal 'Z'] := by
  decide

theorem exists_format_plainPattern (m : Moment) : ∃ s, m.format Instant.plainPattern = some s := by
  refine Moment.exists_format ?_
  rw [patternItems_plainPattern]
  simp [PatternItem.text?]

/-- **The text of a moment in the profile of ISO 8601 for the internet is read as that moment**, if
its year has four digits and no sign. -/
theorem readInternet_format {s : String} (hs : m.format Instant.plainPattern = some s)
    (hm : m.IsKept) (hrange : inRange m.toMicros) (hlo : 0 ≤ m.date.year)
    (hhi : m.date.year ≤ 9999) : readInternet s = some m.toMicros := by
  have hyear (rest : List Char) :
      readDigits 4 (some 4) ((yearText .zero m.date.year).toList ++ rest) =
        some (m.date.year, rest) := by
    rw [yearText, if_pos ⟨hlo, hhi⟩]
    exact readDigits_padNat (by decide) (by decide) (by decide) hlo (by omega) rest
  have htwo {part : NumberPart} {v : Int} (h : m.TwoDigits part v) (rest : List Char) :
      readDigits 2 (some 2) ((padNat .zero 2 v.toNat).toList ++ rest) = some (v, rest) :=
    h.readDigits hm (Nat.le_refl 2) rest
  have htext : s.toList =
      (yearText .zero m.date.year).toList ++ '-' :: ((padNat .zero 2 m.date.month.toNat).toList ++
        '-' :: ((padNat .zero 2 m.date.day.toNat).toList ++ 'T' ::
          ((padNat .zero 2 m.hour.toNat).toList ++ ':' :: ((padNat .zero 2 m.minute.toNat).toList ++
            ':' :: ((padNat .zero 2 m.second.toNat).toList ++ '.' ::
              ((fixedFractionText 6 m.micro).toList ++ ['Z'])))))) := by
    rw [Moment.toList_format hs, patternItems_plainPattern]
    simp only [List.flatMap_cons, List.flatMap_nil, PatternItem.chars_literal,
      PatternItem.chars_number, PatternItem.chars_fixedFraction, numberText, List.cons_append,
      List.nil_append]
  have hnano {p : Parts} (hp : p.Tells m) :
      ((readFraction ((fixedFractionText 6 m.micro).toList ++ ['Z'])).bind fun r =>
        (p.setNanosecond r.1).map fun p => (p, r.2)) =
        some (p.told m (.fixedFraction 6), ['Z']) := by
    rw [readFraction_fixedFractionText hm.micro.1 hm.micro.2 rfl, Option.bind_some]
    exact Option.map_eq_some_iff.2 ⟨_, hp.setNanosecond hm, rfl⟩
  have hzulu : readZuluOffset false (expect ':') ['Z'] = some (0, []) := rfl
  -- what is known of the moment after each part of the text
  have h₁ := (Parts.tells_empty m).told (.number .year .zero)
  have h₂ := h₁.told (.number .month .zero)
  have h₃ := h₂.told (.number .day .zero)
  have h₄ := h₃.told (.number .hour .zero)
  have h₅ := h₄.told (.number .minute .zero)
  have h₆ := h₅.told (.number .second .zero)
  -- the reader and the pattern go through the parts in step
  unfold readInternet
  rw [htext]
  refine Option.bind_eq_some_iff.2 ⟨_, hyear _, ?_⟩
  refine Option.bind_eq_some_iff.2 ⟨_, (Parts.tells_empty m).setYear hm, ?_⟩
  refine Option.bind_eq_some_iff.2 ⟨_, expect_self '-' _, ?_⟩
  refine Option.bind_eq_some_iff.2 ⟨_, htwo .month _, ?_⟩
  refine Option.bind_eq_some_iff.2 ⟨_, h₁.setMonth hm, ?_⟩
  refine Option.bind_eq_some_iff.2 ⟨_, expect_self '-' _, ?_⟩
  refine Option.bind_eq_some_iff.2 ⟨_, htwo .day _, ?_⟩
  refine Option.bind_eq_some_iff.2 ⟨_, h₂.setDay hm, ?_⟩
  change (if 'T' = 'T' ∨ 'T' = 't' ∨ 'T' = ' ' then _ else _) = _
  rw [if_pos (.inl rfl)]
  refine Option.bind_eq_some_iff.2 ⟨_, rfl, ?_⟩
  refine Option.bind_eq_some_iff.2 ⟨_, htwo .hour _, ?_⟩
  refine Option.bind_eq_some_iff.2 ⟨_, h₃.setHour hm, ?_⟩
  refine Option.bind_eq_some_iff.2 ⟨_, expect_self ':' _, ?_⟩
  refine Option.bind_eq_some_iff.2 ⟨_, htwo .minute _, ?_⟩
  refine Option.bind_eq_some_iff.2 ⟨_, h₄.setMinute hm, ?_⟩
  refine Option.bind_eq_some_iff.2 ⟨_, expect_self ':' _, ?_⟩
  refine Option.bind_eq_some_iff.2 ⟨_, htwo .second _, ?_⟩
  refine Option.bind_eq_some_iff.2 ⟨_, h₅.setSecond hm, ?_⟩
  refine Option.bind_eq_some_iff.2 ⟨_, hnano h₆, ?_⟩
  refine Option.bind_eq_some_iff.2 ⟨_, hzulu, ?_⟩
  exact Parts.toInstantMicros_ofMoment_zulu hm.isValid hrange

namespace PatternItem

/-- The item is written, and without blanks. -/
def IsVisible (m : Moment) (item : PatternItem) : Prop :=
  item.chars m ≠ [] ∧ ∀ c ∈ item.chars m, Text.isBlank c = false

theorem isVisible_literal {c : Char} (h : Text.isBlank c = false) : (literal c).IsVisible m := by
  rw [IsVisible, chars_literal]
  exact ⟨List.cons_ne_nil c [], List.forall_mem_singleton.2 h⟩

theorem isVisible_year : (number .year .zero).IsVisible m := by
  have hdigits := spells_padNat 4 m.date.year.natAbs
  change (yearText .zero m.date.year).toList ≠ [] ∧ ∀ c ∈ (yearText .zero m.date.year).toList, _
  rw [toList_yearText]
  refine ⟨List.append_ne_nil_of_right_ne_nil _ (padNat_ne_nil (by decide)), ?_⟩
  refine List.forall_mem_append.2 ⟨?_, fun c hc => Text.isBlank_of_isDigit (hdigits.isDigit c hc)⟩
  split
  · exact List.forall_mem_singleton.2 (by decide)
  · split
    · exact List.forall_mem_singleton.2 (by decide)
    · exact List.forall_mem_nil _

theorem isVisible_fixedFraction (digits : Nat) : (fixedFraction digits).IsVisible m := by
  have hdigits := (spells_padNat 9 (m.micro * 1000).toNat).take digits
  rw [IsVisible, chars_fixedFraction, fixedFractionText, String.toList_ofList]
  refine ⟨List.cons_ne_nil _ _, List.forall_mem_cons.2 ⟨by decide, fun c hc => ?_⟩⟩
  exact Text.isBlank_of_isDigit (hdigits.isDigit c hc)

end PatternItem

/-- A text is not changed by trimming if its first and last items are written without blanks. -/
theorem trim_format {pattern s : String} {first last : PatternItem} (between : List PatternItem)
    (hs : m.format pattern = some s)
    (h : patternItems pattern.toList = first :: (between ++ [last])) (hfirst : first.IsVisible m)
    (hlast : last.IsVisible m) : Text.trim s = s := by
  have htext : s.toList = first.chars m ++ (between.flatMap (·.chars m) ++ last.chars m) := by
    rw [Moment.toList_format hs, h, List.flatMap_cons, List.flatMap_append, List.flatMap_singleton]
  exact Text.trim_of_append htext hfirst hlast

theorem trim_plainPattern {s : String} (hs : m.format Instant.plainPattern = some s) :
    Text.trim s = s :=
  trim_format (patternItems Instant.plainPattern.toList).tail.dropLast hs (by decide)
    PatternItem.isVisible_year (PatternItem.isVisible_literal (c := 'Z') (by decide))

/-- A date and time of day, to the microsecond. -/
def sortablePattern : String := "%Y-%m-%d %H:%M:%S%.6f"

theorem patternItems_sortablePattern :
    patternItems sortablePattern.toList =
      [.number .year .zero, .literal '-', .number .month .zero, .literal '-', .number .day .zero,
        .blank ' ', .number .hour .zero, .literal ':', .number .minute .zero, .literal ':',
        .number .second .zero, .fixedFraction 6] := by
  decide

theorem exists_format_sortablePattern (m : Moment) : ∃ s, m.format sortablePattern = some s := by
  refine Moment.exists_format ?_
  rw [patternItems_sortablePattern]
  simp [PatternItem.text?]

theorem readPattern_sortablePattern {s : String} (hs : m.format sortablePattern = some s)
    (hm : m.IsKept) : readPattern sortablePattern s = some m.toMicros := by
  refine readPattern_format hm hs ?_ ?_
  · rw [patternItems_sortablePattern]
    refine ⟨.year ?_, .literal '-', .twoDigits .month, .literal '-', .twoDigits .day,
      .blank (by decide) ?_, .twoDigits .hour, .literal ':', .twoDigits .minute, .literal ':',
      .twoDigits .second, .fraction, trivial⟩
    · rw [List.flatMap_cons, PatternItem.chars_literal]
      rfl
    · rw [List.flatMap_cons, PatternItem.chars_number]
      exact (spells_padNat 2 m.hour.toNat).dropWhile_isBlank (padNat_ne_nil (by decide)) _
  · rw [patternItems_sortablePattern]
    rfl

theorem trim_sortablePattern {s : String} (hs : m.format sortablePattern = some s) :
    Text.trim s = s :=
  trim_format (patternItems sortablePattern.toList).tail.dropLast hs (by decide)
    PatternItem.isVisible_year (PatternItem.isVisible_fixedFraction 6)

end Intake.Calendar

namespace Intake

open Calendar

namespace Instant

/-- The year of an instant in universal time. -/
def year (t : Instant) : Int :=
  (Moment.ofMicros t.micros.toInt).date.year

variable {t : Instant}

theorem inRange_of_year (hlo : minYear ≤ t.year) (hhi : t.year ≤ maxYear) :
    inRange t.micros.toInt :=
  (Moment.inRange_iff _).2 ⟨hlo, hhi⟩

/-- An instant that the calendar keeps is written as its date and time. -/
theorem format_of_inRange (h : inRange t.micros.toInt) (pattern : String) :
    t.format pattern = (Moment.ofMicros t.micros.toInt).format pattern := by
  rw [format, moment?, if_pos h]

theorem inRange_of_isSome (h : t.moment?.isSome) : inRange t.micros.toInt := by
  unfold moment? at h
  split at h
  · assumption
  · exact absurd h Bool.false_ne_true

end Instant

namespace TimeFormat

variable {f : TimeFormat} {t : Instant}

theorem ofCalendar_micros (t : Instant) : ofCalendar t.micros.toInt = t :=
  congrArg Instant.mk (Int64.ofInt_toInt t.micros)

/-- An instant in a year from 0 to 9999 that is written without a pattern is read as itself. -/
theorem parse_format_plain (hf : f.pattern = none) (hlo : 0 ≤ t.year) (hhi : t.year ≤ 9999) :
    ∃ s, f.format t = .ok s ∧ f.parse (.str s) = .ok t := by
  have hrange : inRange t.micros.toInt :=
    Instant.inRange_of_year (Int.le_trans (by decide) hlo) (Int.le_trans hhi (by decide))
  have hmicros := Moment.toMicros_ofMicros t.micros.toInt
  have hkept := Moment.isKept_ofMicros hrange
  obtain ⟨s, hs⟩ := exists_format_plainPattern (Moment.ofMicros t.micros.toInt)
  have hread := readInternet_format hs hkept (by rwa [hmicros]) hlo hhi
  have hformat : f.format t = .ok s := by
    rw [format, hf]
    simp only [Instant.text, Instant.format_of_inRange hrange, hs, Option.getD_some]
  refine ⟨s, hformat, ?_⟩
  change f.parseTrimmed (Text.trim s) = .ok t
  rw [trim_plainPattern hs, parseTrimmed, hf]
  simp only [Option.bind_none, hread, hmicros, ofCalendar_micros]

/-- An instant that is written as date and time is read as itself. -/
theorem parse_format_sortable (hf : f.pattern = some sortablePattern) (ht : t.moment?.isSome) :
    ∃ s, f.format t = .ok s ∧ f.parse (.str s) = .ok t := by
  have hrange := Instant.inRange_of_isSome ht
  have hmicros := Moment.toMicros_ofMicros t.micros.toInt
  obtain ⟨s, hs⟩ := exists_format_sortablePattern (Moment.ofMicros t.micros.toInt)
  have hread := readPattern_sortablePattern hs (Moment.isKept_ofMicros hrange)
  have hformat : f.format t = .ok s := by
    rw [format, hf]
    simp only [Instant.format_of_inRange hrange, hs, Option.elim_some]
  refine ⟨s, hformat, ?_⟩
  change f.parseTrimmed (Text.trim s) = .ok t
  rw [trim_sortablePattern hs, parseTrimmed, hf]
  simp only [Option.bind_some, hread, hmicros, ofCalendar_micros]

/-- **An instant that is written as text is read as itself.** This holds without a pattern in the
years from 0 to 9999, and with a pattern of date and time in all years that dates are kept for. -/
theorem parse_format (f : TimeFormat) (t : Instant) :
    (f.pattern = none → 0 ≤ t.year → t.year ≤ 9999 →
      ∃ s, f.format t = .ok s ∧ f.parse (.str s) = .ok t) ∧
    (f.pattern = some sortablePattern → t.moment?.isSome →
      ∃ s, f.format t = .ok s ∧ f.parse (.str s) = .ok t) :=
  ⟨parse_format_plain, parse_format_sortable⟩

/-- The last microsecond of 1969, and the years -1199 and 14645. -/
theorem parse_format_far :
    let plain : TimeFormat := {}
    let sortable : TimeFormat := { pattern := some sortablePattern }
    let eve : Instant := ⟨-1⟩
    let early : Instant := ⟨-100000000000000000⟩
    let late : Instant := ⟨400000000000000000⟩
    (0 ≤ eve.year ∧ eve.year ≤ 9999 ∧
      ∃ s, plain.format eve = .ok s ∧ plain.parse (.str s) = .ok eve) ∧
    (early.moment?.isSome ∧
      ∃ s, sortable.format early = .ok s ∧ sortable.parse (.str s) = .ok early) ∧
    (late.moment?.isSome ∧
      ∃ s, sortable.format late = .ok s ∧ sortable.parse (.str s) = .ok late) := by
  intro plain sortable eve early late
  have hlo : 0 ≤ eve.year := by decide
  have hhi : eve.year ≤ 9999 := by decide
  have hearly : early.moment?.isSome := by decide
  have hlate : late.moment?.isSome := by decide
  exact ⟨⟨hlo, hhi, (parse_format plain eve).1 rfl hlo hhi⟩,
    ⟨hearly, (parse_format sortable early).2 rfl hearly⟩,
    ⟨hlate, (parse_format sortable late).2 rfl hlate⟩⟩

end TimeFormat

end Intake
