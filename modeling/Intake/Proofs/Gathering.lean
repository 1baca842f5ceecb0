import Intake.Record.Merge

/-!
# Many records merged into one

* `Record.Sorted`: the properties and the groups of a record stand in the order of their names.
* `Record.merge_assoc`: it makes no difference which two of three records are merged first.
* `Facts.gathered`: slot by slot, what facts come to when others are merged into them.
* `Record.foldl_merge_gathers`: **merging one record after the other keeps of each slot what the
  first record says that says something**, gathers collections and the records inside, and lets the
  last record decide on a property.
-/

namespace Intake

/-- The properties and the groups of a record stand in the order of their names, each once. -/
structure Record.Sorted (r : Record) : Prop where
  properties : Keyed.Sorted r.facts.properties
  children : Keyed.Sorted r.children

instance (r : Record) : Decidable r.Sorted :=
  decidable_of_iff (Keyed.Sorted r.facts.properties ∧ Keyed.Sorted r.children)
    ⟨fun h => ⟨h.1, h.2⟩, fun h => ⟨h.properties, h.children⟩⟩

/-! ### One slot -/

/-- There is a text, and it is not blank. -/
def saysSomething (text : Option String) : Bool :=
  !text.all Text.isBlankText

/-- The first text that is not blank; else the first one of all. -/
def firstText (own : Option String) (others : List (Option String)) : Option String :=
  ((own :: others).find? saysSomething).getD own

/-- The first value that is there. -/
def firstSet {α : Type} (own : Option α) (others : List (Option α)) : Option α :=
  (own :: others).findSome? id

/-- The first number that counts; else the last one of all. -/
def firstNumber (counts : Int64 → Bool) (own : Int64) (others : List Int64) : Int64 :=
  ((own :: others).find? counts).getD (others.getLastD own)

theorem fillText_eq (own other : Option String) :
    fillText own other =
      if saysSomething own then own else if saysSomething other then other else own := by
  unfold fillText saysSomething
  cases own.all Text.isBlankText with
  | false => rfl
  | true =>
    cases other with
    | none => rfl
    | some s => cases h : Text.isBlankText s <;> simp [h]

theorem fillText_assoc (a b c : Option String) :
    fillText (fillText a b) c = fillText a (fillText b c) := by
  simp only [fillText_eq]
  cases ha : saysSomething a <;> cases hb : saysSomething b <;> cases hc : saysSomething c <;>
    simp [ha, hb, hc]

theorem firstText_fillText (own other : Option String) (others : List (Option String)) :
    firstText (fillText own other) others = firstText own (other :: others) := by
  rw [fillText_eq]
  unfold firstText
  cases hown : saysSomething own with
  | true => simp [hown]
  | false => cases hother : saysSomething other <;> simp [hown, hother]

theorem firstSet_or {α : Type} (own other : Option α) (others : List (Option α)) :
    firstSet (own.or other) others = firstSet own (other :: others) := by
  cases own <;> rfl

theorem firstNumber_ite (counts : Int64 → Bool) (own other : Int64) (others : List Int64) :
    firstNumber counts (if counts own then own else other) others =
      firstNumber counts own (other :: others) := by
  unfold firstNumber
  cases hown : counts own with
  | true => simp [hown]
  | false =>
    have hskip : (own :: other :: others).find? counts = (other :: others).find? counts :=
      List.find?_cons_of_neg (by simp [hown])
    rw [hskip, List.getLastD_cons]
    rfl

theorem fillNumber_assoc (counts : Int64 → Bool) (a b c : Int64) :
    (if counts (if counts a then a else b) then if counts a then a else b else c) =
      if counts a then a else if counts b then b else c := by
  cases ha : counts a <;> simp [ha]

namespace Facts

variable {f g h : Facts} {others : List Facts}

/-- The elapsed time is known. -/
def isElapsed (n : Int64) : Bool := 0 ≤ n

/-- There is a reason code. -/
def isReason (n : Int64) : Bool := n ≠ 0

theorem elapsedTime_merge (f other : Facts) : (f.merge other).elapsedTime =
    if isElapsed f.elapsedTime then f.elapsedTime else other.elapsedTime := by
  have hmerge : (f.merge other).elapsedTime =
      if f.elapsedTime < 0 then other.elapsedTime else f.elapsedTime := rfl
  rw [hmerge]
  unfold isElapsed
  by_cases h : f.elapsedTime < 0
  · simp [h, Int64.not_le.2 h]
  · simp [h, Int64.not_lt.1 h]

theorem reasonCode_merge (f other : Facts) : (f.merge other).reasonCode =
    if isReason f.reasonCode then f.reasonCode else other.reasonCode := by
  have hmerge : (f.merge other).reasonCode =
      if f.reasonCode = 0 then other.reasonCode else f.reasonCode := rfl
  rw [hmerge]
  unfold isReason
  by_cases h : f.reasonCode = 0 <;> simp [h]

/-- What facts come to when others are merged into them one after the other: of texts the first one
that is not blank, of other slots the first value, of the elapsed time and the reason code the first
one that counts, of collections all, and of properties the last ones. -/
def gathered (f : Facts) (others : List Facts) : Facts where
  serverName := firstText f.serverName (others.map (·.serverName))
  serverIp := firstText f.serverIp (others.map (·.serverIp))
  applName := firstText f.applName (others.map (·.applName))
  userName := firstText f.userName (others.map (·.userName))
  resourceName := firstText f.resourceName (others.map (·.resourceName))
  eventName := firstText f.eventName (others.map (·.eventName))
  eventType := firstSet f.eventType (others.map (·.eventType))
  startTime := firstSet f.startTime (others.map (·.startTime))
  endTime := firstSet f.endTime (others.map (·.endTime))
  elapsedTime := firstNumber isElapsed f.elapsedTime (others.map (·.elapsedTime))
  compCode := firstSet f.compCode (others.map (·.compCode))
  reasonCode := firstNumber isReason f.reasonCode (others.map (·.reasonCode))
  exception := firstText f.exception (others.map (·.exception))
  severity := firstSet f.severity (others.map (·.severity))
  location := firstText f.location (others.map (·.location))
  trackingId := firstText f.trackingId (others.map (·.trackingId))
  parentId := firstText f.parentId (others.map (·.parentId))
  correlators := (f :: others).flatMap (·.correlators)
  tags := (f :: others).flatMap (·.tags)
  message := firstText f.message (others.map (·.message))
  msgCharSet := firstText f.msgCharSet (others.map (·.msgCharSet))
  msgEncoding := firstText f.msgEncoding (others.map (·.msgEncoding))
  msgMimeType := firstText f.msgMimeType (others.map (·.msgMimeType))
  msgLength := firstSet f.msgLength (others.map (·.msgLength))
  processId := firstSet f.processId (others.map (·.processId))
  threadId := firstSet f.threadId (others.map (·.threadId))
  category := firstText f.category (others.map (·.category))
  properties := Keyed.ofList ((f :: others).flatMap (·.properties))
  filtered := (f :: others).any (·.filtered)
  complete := f.complete
  ordinal := f.ordinal

/-- Facts into which nothing is merged stay as they are. -/
theorem gathered_nil (h : Keyed.Sorted f.properties) : f.gathered [] = f := by
  have htext : ∀ own, firstText own [] = own := by
    intro own
    unfold firstText
    cases hown : saysSomething own <;> simp [hown]
  have hset : ∀ {α : Type} (own : Option α), firstSet own [] = own := by
    intro α own
    cases own <;> rfl
  have hnumber : ∀ counts own, firstNumber counts own [] = own := by
    intro counts own
    unfold firstNumber
    cases hown : counts own <;> simp [hown]
  unfold gathered
  simp only [List.map_nil, List.flatMap_cons, List.flatMap_nil, List.append_nil, List.any_cons,
    List.any_nil, Bool.or_false, htext, hset, hnumber, Keyed.ofList_of_sorted h]

/-- The first of the others can be merged at once. -/
theorem gathered_merge (hf : Keyed.Sorted f.properties) (g : Facts) (others : List Facts) :
    (f.merge g).gathered others = f.gathered (g :: others) := by
  have hproperties : Keyed.ofList (Keyed.extend f.properties g.properties ++
        others.flatMap (·.properties)) =
      Keyed.ofList (f.properties ++ (g.properties ++ others.flatMap (·.properties))) := by
    rw [Keyed.ofList_append, Keyed.ofList_of_sorted (Keyed.sorted_extend hf), ← List.append_assoc,
      Keyed.ofList_append, Keyed.ofList_append, Keyed.ofList_of_sorted hf]
  unfold gathered
  rw [elapsedTime_merge, reasonCode_merge]
  simp only [merge, List.map_cons, List.flatMap_cons, List.any_cons, List.append_assoc,
    Bool.or_assoc, firstText_fillText, firstSet_or, firstNumber_ite, hproperties]

/-- **Merging facts is associative.** -/
theorem merge_assoc (hf : Keyed.Sorted f.properties) (hg : Keyed.Sorted g.properties)
    (hh : Keyed.Sorted h.properties) : (f.merge g).merge h = f.merge (g.merge h) := by
  have helapsed : ((f.merge g).merge h).elapsedTime = (f.merge (g.merge h)).elapsedTime := by
    simp only [elapsedTime_merge, fillNumber_assoc]
  have hreason : ((f.merge g).merge h).reasonCode = (f.merge (g.merge h)).reasonCode := by
    simp only [reasonCode_merge, fillNumber_assoc]
  unfold merge at helapsed hreason ⊢
  simp only [mk.injEq, fillText_assoc, Option.or_assoc, List.append_assoc, Bool.or_assoc,
    Keyed.extend_assoc hf hg hh, and_self, true_and, and_true]
  exact ⟨helapsed, hreason⟩

end Facts

namespace Record

variable {a b c r : Record} {others : List Record}

theorem Sorted.merge (hr : r.Sorted) (other : Record) : (r.merge other).Sorted :=
  ⟨Keyed.sorted_extend hr.properties, sorted_joinChildren hr.children⟩

theorem joinChildren_assoc {own other last : Keyed (List Child)} (hown : Keyed.Sorted own)
    (hother : Keyed.Sorted other) (hlast : Keyed.Sorted last) :
    joinChildren (joinChildren own other) last = joinChildren own (joinChildren other last) := by
  have hboth : Keyed.Sorted (joinChildren other last) := sorted_joinChildren hother
  refine Keyed.ext_of_sorted (sorted_joinChildren (sorted_joinChildren hown))
    (sorted_joinChildren hown) fun parser => ?_
  rw [get?_joinChildren hlast, get?_joinChildren hother, get?_joinChildren hboth,
    get?_joinChildren hlast]
  cases Keyed.get? parser own <;> cases Keyed.get? parser other <;>
    cases Keyed.get? parser last <;> simp

/-- **Merging is associative.** -/
theorem merge_assoc (ha : a.Sorted) (hb : b.Sorted) (hc : c.Sorted) :
    (a.merge b).merge c = a.merge (b.merge c) := by
  have hfacts := Facts.merge_assoc ha.properties hb.properties hc.properties
  have hchildren := joinChildren_assoc ha.children hb.children hc.children
  change mk ((a.facts.merge b.facts).merge c.facts)
      (joinChildren (joinChildren a.children b.children) c.children) =
    mk (a.facts.merge (b.facts.merge c.facts))
      (joinChildren a.children (joinChildren b.children c.children))
  rw [hfacts, hchildren]

theorem facts_foldl_merge (hr : r.Sorted) (others : List Record) :
    (others.foldl merge r).facts = r.facts.gathered (others.map facts) := by
  induction others generalizing r with
  | nil => exact (Facts.gathered_nil hr.properties).symm
  | cons o rest ih =>
    rw [List.foldl_cons, ih (hr.merge o), List.map_cons, ← Facts.gathered_merge hr.properties]
    rfl

/-- The last record that has a property decides on it. -/
theorem get?_properties_foldl_merge (hothers : ∀ o ∈ others, o.Sorted) (r : Record)
    (name : String) :
    Keyed.get? name (others.foldl merge r).facts.properties =
      (r :: others).reverse.findSome? fun o => Keyed.get? name o.facts.properties := by
  induction others generalizing r with
  | nil => simp
  | cons o rest ih =>
    have hmerge : Keyed.get? name (r.merge o).facts.properties =
        (Keyed.get? name o.facts.properties).or (Keyed.get? name r.facts.properties) :=
      Keyed.get?_extend (hothers o List.mem_cons_self).properties name
    have hboth : ([o, r].findSome? fun o => Keyed.get? name o.facts.properties) =
        (Keyed.get? name o.facts.properties).or (Keyed.get? name r.facts.properties) := by
      cases h : Keyed.get? name o.facts.properties <;> simp [h]
    rw [List.foldl_cons, ih (fun p hp => hothers p (List.mem_cons_of_mem _ hp)) (r.merge o)]
    simp [List.findSome?_append, hmerge, hboth]

theorem childrenOf_foldl_merge (hothers : ∀ o ∈ others, o.Sorted) (r : Record) (parser : String) :
    (others.foldl merge r).childrenOf parser =
      (r :: others).flatMap fun o => o.childrenOf parser := by
  induction others generalizing r with
  | nil => simp
  | cons o rest ih =>
    have hmerge := r.childrenOf_merge (hothers o List.mem_cons_self).children parser
    rw [List.foldl_cons, ih (fun p hp => hothers p (List.mem_cons_of_mem _ hp)) (r.merge o)]
    simp [hmerge]

/-- **The laws of merging.** Let the properties and the groups of records stand in order. Then it
makes no difference which two of three records are merged first. When records are merged into one,
one after the other, each text is the first one that is not blank, or the own one if all are; each
other slot has the first value; the elapsed time is the first that is not negative and the reason
code the first that is not zero, if there is one; collections are put one after the other; the
record is marked as excluded if one of them is, and is as complete and has the place that it had.
On a property the last record decides that has it, and the records inside are, parser by parser,
those of all records one after the other. -/
theorem foldl_merge_gathers :
    (∀ a b c : Record, a.Sorted → b.Sorted → c.Sorted →
      (a.merge b).merge c = a.merge (b.merge c)) ∧
    ∀ (r : Record) (others : List Record), (∀ o ∈ r :: others, o.Sorted) →
      (others.foldl merge r).facts = r.facts.gathered (others.map facts) ∧
      (∀ name, Keyed.get? name (others.foldl merge r).facts.properties =
        (r :: others).reverse.findSome? fun o => Keyed.get? name o.facts.properties) ∧
      ∀ parser, (others.foldl merge r).childrenOf parser =
        (r :: others).flatMap fun o => o.childrenOf parser := by
  refine ⟨fun a b c ha hb hc => merge_assoc ha hb hc, ?_⟩
  intro r others hsorted
  have hothers : ∀ o ∈ others, o.Sorted := fun o ho => hsorted o (List.mem_cons_of_mem _ ho)
  exact ⟨facts_foldl_merge (hsorted r List.mem_cons_self) others,
    get?_properties_foldl_merge hothers r, childrenOf_foldl_merge hothers r⟩

/-- A request that does not say who made it, with one of its parts inside. -/
def request : Record :=
  .mk { userName := some " ", elapsedTime := -1, tags := ["web"],
        properties := [("host", .str "a"), ("port", .int 80)], ordinal := 2, complete := true }
    [("part", [⟨.mk { eventName := some "head" } [], false⟩])]

/-- A reply that says no more about it than that a filter excludes it. -/
def reply : Record :=
  .mk { elapsedTime := -1, reasonCode := 404, tags := ["web"], properties := [("port", .int 8080)],
        filtered := true }
    []

/-- A trace of both that says who made the request, with more parts. -/
def trace : Record :=
  .mk { userName := some "ann", elapsedTime := 7, reasonCode := 500 }
    [("part", [⟨.mk { eventName := some "body" } [], true⟩]), ("span", [])]

theorem request_gathers :
    (∀ o ∈ [request, reply, trace], o.Sorted) ∧
      (request.merge reply).merge trace = request.merge (reply.merge trace) ∧
      ((request.merge reply).merge trace).facts =
        request.facts.gathered [reply.facts, trace.facts] ∧
      (Keyed.get? "port" ((request.merge reply).merge trace).facts.properties).map Value.text =
        some "8080" ∧
      ((request.merge reply).merge trace).childrenOf "part" =
        request.childrenOf "part" ++ trace.childrenOf "part" ∧
      ((request.merge reply).merge trace).facts.userName = some "ann" ∧
      ((request.merge reply).merge trace).facts.reasonCode = 404 := by
  have hsorted : ∀ o ∈ [request, reply, trace], o.Sorted := by
    simp only [List.forall_mem_cons]
    decide
  obtain ⟨hassoc, hmany⟩ := foldl_merge_gathers
  obtain ⟨hfacts, hproperties, hchildren⟩ := hmany request [reply, trace] hsorted
  refine ⟨hsorted, hassoc _ _ _ (hsorted _ (by simp)) (hsorted _ (by simp)) (hsorted _ (by simp)),
    hfacts, ?_, ?_, ?_, ?_⟩
  · exact congrArg (Option.map Value.text) (hproperties "port")
  · exact hchildren "part"
  · exact congrArg Facts.userName hfacts
  · exact congrArg Facts.reasonCode hfacts

end Record

end Intake
