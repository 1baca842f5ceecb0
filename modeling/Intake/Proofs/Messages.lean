import Intake.Proofs.Gathering
import Intake.Proofs.History
import Intake.Proofs.References
import Intake.Proofs.Spreading
import Intake.Proofs.Template

/-!
# Messages and their length

The message of a record and its length are kept side by side. A text that the message is set to
replaces the message, but only fills a length that is missing, and a merge fills each of the two by
itself: a blank text is no message there, but its length is one.

* `Facts.setAs_told`: what a field that is set makes of the two.
* `Parser.Unmeasured`: a parser for which no field sets the length by itself.
* `Parser.History.message_eq`, `Parser.History.msgLength_eq`: the two as the history of a record has
  them.
* `Parser.Reached`: the texts that have reached a record, in order.
* `Parser.Reached.leave`: what these make of the two.
* `Parser.msgLength_of_parse`: **the length is that of the first text that has reached the record**,
  and that of its message if the record has kept to the first one.
* `Parser.letter_mismeasured`: a message with the length of another one.
-/

namespace Intake

namespace Facts

variable {f f' : Facts} {slot : Slot} {name : String} {format : Option TimeFormat} {v : Value}

/-- The length of a text in bytes. -/
def lengthOf (text : String) : Int64 :=
  Int64.ofNat text.utf8ByteSize

/-- The text that the message becomes if a field of this name is set to this value. There is none if
it is another field or the text is empty. -/
def told? (name : String) (v : Value) : Option String :=
  if name = Slot.message.name ∧ messageText v ≠ "" then some (messageText v) else none

theorem told?_of_ne (h : name ≠ Slot.message.name) : told? name v = none :=
  if_neg fun htold => h htold.1

theorem setMessage_told (f : Facts) (v : Value) :
    (f.setMessage v).message = (told? Slot.message.name v).or f.message ∧
      (f.setMessage v).msgLength =
        f.msgLength.or ((told? Slot.message.name v).map lengthOf) := by
  unfold setMessage told?
  simp only [String.isEmpty_iff, true_and]
  by_cases h : messageText v = ""
  · simp [h]
  · simp [h, lengthOf]

/-- No other slot changes the message, and none but that for it changes the length. -/
theorem setSlot_keeps_message (hslot : slot ≠ .message)
    (h : f.setSlot slot name format v = .ok f') :
    f'.message = f.message ∧ (slot ≠ .msgLength → f'.msgLength = f.msgLength) := by
  cases slot with
  | message => exact absurd rfl hslot
  | msgLength =>
    obtain ⟨c, -, rfl⟩ := map_eq_ok.1 h
    exact ⟨rfl, fun hne => absurd rfl hne⟩
  | eventType | severity | compCode | startTime | endTime | elapsedTime | reasonCode | processId
  | threadId =>
    obtain ⟨c, -, rfl⟩ := map_eq_ok.1 h
    exact ⟨rfl, fun _ => rfl⟩
  | _ =>
    cases h
    exact ⟨rfl, fun _ => rfl⟩

/-- **A text that the message is set to replaces it**, but its length is that of the message only if
there was none. -/
theorem setAs_told (h : f.setAs name format v = .ok f') :
    f'.message = (told? name v).or f.message ∧
      (name ≠ Slot.msgLength.name →
        f'.msgLength = f.msgLength.or ((told? name v).map lengthOf)) := by
  by_cases hname : name = Slot.message.name
  · subst hname
    unfold setAs at h
    rw [Slot.ofName?_name] at h
    obtain rfl : f.setMessage v = f' := Except.ok.inj h
    obtain ⟨hmessage, hlength⟩ := setMessage_told f v
    exact ⟨hmessage, fun _ => hlength⟩
  · -- Under another name the message stays, and the length too unless it is its own name.
    rw [told?_of_ne hname, Option.none_or, Option.map_none, Option.or_none]
    unfold setAs at h
    split at h
    · next slot hslot =>
      have hthis : slot.name = name := Slot.name_of_ofName? hslot
      obtain ⟨hmessage, hlength⟩ := setSlot_keeps_message (fun heq => hname (heq ▸ hthis).symm) h
      exact ⟨hmessage, fun hne => hlength fun heq => hne (heq ▸ hthis).symm⟩
    · cases h
      exact ⟨rfl, fun _ => rfl⟩

end Facts

namespace Field

variable {f : Field} {values : Keyed Value} {index : Nat} {key : String}

/-- The fields for the elements of a value have the name of the field itself if that has no
placeholders. -/
theorem name_forElement_of_static (h : f.isDynamic = false) :
    (f.forElement values index key).name = f.name := by
  unfold isDynamic at h
  rw [Bool.or_eq_false_iff] at h
  change (Template.fill f.name _).1 = f.name
  rw [Template.fill_of_plain h.2]

end Field

/-- A field for an element of a field without placeholders has the name of that field, perhaps with
a number at its end. -/
theorem Context.name_of_mem_elementFields {f : Field} {values : Keyed Value}
    {elements : List (String × Value)} {entry : Field × Value} (h : f.isDynamic = false)
    (hentry : entry ∈ Context.elementFields f values 0 {} elements) :
    entry.1.name = f.name ∨ ∃ k : Nat, entry.1.name = f.name ++ toString k := by
  have hname : ∀ name ∈ Context.ownNames f values 0 elements, name = f.name := by
    intro name hmem
    obtain ⟨e, -, rfl⟩ := List.mem_map.1 hmem
    exact Field.name_forElement_of_static h
  have hgiven := List.mem_map_of_mem (f := (·.1.name)) hentry
  rw [Context.elementFields_names] at hgiven
  rcases Context.Naming.mem_giveAll hgiven with hmem | ⟨name, hmem, k, hk⟩
  · exact .inl (hname _ hmem)
  · obtain rfl := hname _ hmem
    exact .inr ⟨k, hk⟩

namespace Parser

variable {p q : Parser} {offered : List (Stacked Parser)} {n : Nat} {happened : List Happening}
  {r sub : Record}

/-! ### Which parsers leave the length to the message -/

/-- No field of the parser or of one stacked on it, at any depth, is for the length of the message,
and none has placeholders in its name. -/
def Unmeasured (p : Parser) : Prop :=
  ∀ f ∈ p.allFields, f.name ≠ Slot.msgLength.name ∧ f.isDynamic = false

instance (p : Parser) : Decidable p.Unmeasured :=
  inferInstanceAs (Decidable (∀ f ∈ p.allFields, _))

theorem Unmeasured.field (hp : p.Unmeasured) {pf : ParserField Parser} (hpf : pf ∈ p.fields) :
    pf.field.name ≠ Slot.msgLength.name ∧ pf.field.isDynamic = false := by
  refine hp _ ?_
  cases p with
  | mk profile preParsers filters fields =>
    rw [allFields]
    exact mem_fieldsOfAll.2 (.own hpf)

theorem Unmeasured.stacked (hp : p.Unmeasured) {st : Stacked Parser} (hst : st ∈ p.stacked) :
    st.parser.Unmeasured := by
  intro f hf
  refine hp f ?_
  obtain ⟨pf, hpf, hin⟩ := List.mem_flatMap.1 hst
  cases p with
  | mk profile preParsers filters fields =>
    rw [allFields]
    exact mem_fieldsOfAll.2 (.stacked hpf hin (within_of_mem_allFields _ hf))

/-- Such a parser does not set the length by a field. -/
theorem Unmeasured.not_sets (hp : p.Unmeasured) {name : String} (h : p.Sets name) :
    name ≠ Slot.msgLength.name := by
  cases h with
  | own hpf => exact (hp.field hpf).1
  | element hpf hentry =>
    obtain ⟨hname, hdynamic⟩ := hp.field hpf
    rcases Context.name_of_mem_elementFields hdynamic hentry with heq | ⟨k, heq⟩
    · rwa [heq]
    · -- no name of a slot ends in a number
      intro hlength
      have hslot := Slot.ofName?_name .msgLength
      rw [← hlength, heq, Slot.ofName?_numbered] at hslot
      cases hslot
  | message => decide

/-! ### What the history of a record makes of its message -/

namespace Happening

/-- The message after something has happened to a record. -/
def messageAfter (message : Option String) : Happening → Option String
  | .sets name v => (Facts.told? name v).or message
  | .merges _ sub => fillText message sub.facts.message
  | .relates _ _ => message

/-- The length that something brings with it. -/
def length? : Happening → Option Int64
  | .sets name v => (Facts.told? name v).map Facts.lengthOf
  | .merges _ sub => sub.facts.msgLength
  | .relates _ _ => none

end Happening

namespace History

/-- The parsers whose records are merged are stacked for that. -/
theorem offered_of_merges (h : History p offered n happened r) (hmem : .merges q sub ∈ happened) :
    ∃ flatten, ⟨q, .merge, flatten⟩ ∈ offered := by
  -- what was offered grows with every parser, so what was offered before still is
  induction h with
  | start => cases hmem
  | sets _ _ _ ih =>
    rcases List.mem_append.1 hmem with hmem | hmem
    · exact ih hmem
    · cases List.mem_singleton.1 hmem
  | passes _ ih =>
    obtain ⟨flatten, hoffered⟩ := ih hmem
    exact ⟨flatten, List.mem_append_left _ hoffered⟩
  | @merges _ q' _ _ _ _ _ _ sub' flatten _ _ _ ih _ =>
    rcases List.mem_append.1 hmem with hmem | hmem
    · obtain ⟨flatten, hoffered⟩ := ih hmem
      exact ⟨flatten, List.mem_append_left _ hoffered⟩
    · cases List.mem_singleton.1 hmem
      exact ⟨flatten, List.mem_concat_self⟩
  | relates _ _ _ _ ih _ =>
    rcases List.mem_append.1 hmem with hmem | hmem
    · obtain ⟨flatten, hoffered⟩ := ih hmem
      exact ⟨flatten, List.mem_append_left _ hoffered⟩
    · cases List.mem_singleton.1 hmem

/-- **The message is what all that has happened makes of it**, one thing after the other. -/
theorem message_eq (h : History p offered n happened r) :
    r.facts.message = happened.foldl Happening.messageAfter none := by
  induction h with
  | start => rfl
  | sets _ _ hset ih =>
    rw [List.foldl_concat, ← ih]
    exact (Facts.setAs_told hset).1
  | passes _ ih => exact ih
  | merges _ _ _ ih _ =>
    rw [List.foldl_concat, ← ih]
    rfl
  | relates _ _ _ _ ih _ =>
    rw [List.foldl_concat, ← ih]
    rfl

/-- **The length is the first that something brings with it**, unless there is a field for it. -/
theorem msgLength_eq (hp : p.Unmeasured) (h : History p offered n happened r) :
    r.facts.msgLength = happened.findSome? Happening.length? := by
  induction h with
  | start => rfl
  | sets _ hname hset ih =>
    rw [List.findSome?_append, ← ih hp, List.findSome?_singleton]
    exact (Facts.setAs_told hset).2 (hp.not_sets hname)
  | passes _ ih => exact ih hp
  | merges _ _ _ ih _ =>
    rw [List.findSome?_append, ← ih hp, List.findSome?_singleton]
    rfl
  | relates _ _ _ _ ih _ =>
    rw [List.findSome?_append, ← ih hp, List.findSome?_singleton]
    exact (Option.or_none ..).symm

end History

/-! ### The texts that reach a record -/

/-- The texts that have reached a record as its message, in this order: its parser has set the
message to them, or they have reached a record that was merged. `kept` says that the first one was
not given up, here or in a record that brought it: it is not blank, and the message was not set
when a text had reached the record. -/
inductive Reached : List Happening → (texts : List String) → (kept : Bool) → Prop
  | start : Reached [] [] true
  | sets {happened : List Happening} {texts : List String} {kept : Bool} {name text : String}
      {v : Value} : Reached happened texts kept → Facts.told? name v = some text →
      Reached (happened ++ [.sets name v]) (texts ++ [text])
        (kept && texts.isEmpty && !Text.isBlankText text)
  /-- It is another field, or the text is empty. -/
  | passes {happened : List Happening} {texts : List String} {kept : Bool} {name : String}
      {v : Value} : Reached happened texts kept → Facts.told? name v = none →
      Reached (happened ++ [.sets name v]) texts kept
  | merges {q : Parser} {k : Nat} {happened inner : List Happening} {filled sub : Record}
      {texts more : List String} {kept keptInside : Bool} : Reached happened texts kept →
      History q q.stacked k inner filled → q.Judges filled sub → Reached inner more keptInside →
      Reached (happened ++ [.merges q sub]) (texts ++ more)
        (kept && (!texts.isEmpty || keptInside))
  | relates {q : Parser} {happened : List Happening} {sub : Record} {texts : List String}
      {kept : Bool} : Reached happened texts kept →
      Reached (happened ++ [.relates q sub]) texts kept

/-- Whatever has happened to a record, some texts have reached it, or none. -/
theorem History.exists_reached (h : History p offered n happened r) :
    ∃ texts kept, Reached happened texts kept := by
  induction h with
  | start => exact ⟨[], true, .start⟩
  | @sets _ _ _ _ _ _ name _ v _ _ _ ih =>
    obtain ⟨texts, kept, hreached⟩ := ih
    cases htold : Facts.told? name v with
    | none => exact ⟨_, _, hreached.passes htold⟩
    | some text => exact ⟨_, _, hreached.sets htold⟩
  | passes _ ih => exact ih
  | merges _ hinner hjudged ih ihinner =>
    obtain ⟨texts, kept, hreached⟩ := ih
    obtain ⟨more, keptInside, hmore⟩ := ihinner
    exact ⟨_, _, hreached.merges hinner hjudged hmore⟩
  | relates _ _ _ _ ih _ =>
    obtain ⟨texts, kept, hreached⟩ := ih
    exact ⟨texts, kept, hreached.relates⟩

/-- What texts that have reached a record make of its message and of the length of that: the length
is that of the first, the message is one of them, and it is the first if that was kept. -/
structure Leave (texts : List String) (kept : Bool) (message : Option String)
    (length : Option Int64) : Prop where
  length_eq : length = texts.head?.map Facts.lengthOf
  message_mem : ∀ text, message = some text → text ∈ texts
  keeps : kept = true → message = texts.head? ∧ (message = none ∨ saysSomething message = true)

namespace Leave

variable {texts more : List String} {kept keptInside : Bool} {message message' : Option String}
  {length length' : Option Int64}

theorem start : Leave [] true none none where
  length_eq := rfl
  message_mem := by
    rintro text ⟨⟩
  keeps := fun _ => ⟨rfl, .inl rfl⟩

/-- The message is set to one more text. -/
theorem sets (h : Leave texts kept message length) (text : String) :
    Leave (texts ++ [text]) (kept && texts.isEmpty && !Text.isBlankText text) (some text)
      (length.or (some (Facts.lengthOf text))) where
  length_eq := by
    rw [h.length_eq, List.head?_append, Option.map_or]
    rfl
  message_mem := by
    rintro _ ⟨⟩
    exact List.mem_concat_self
  keeps := by
    intro hkept
    rw [Bool.and_eq_true, Bool.and_eq_true, List.isEmpty_iff] at hkept
    obtain ⟨⟨-, rfl⟩, hblank⟩ := hkept
    exact ⟨rfl, .inr hblank⟩

/-- The message of a record that other texts have reached is merged. -/
theorem merges (h : Leave texts kept message length) (h' : Leave more keptInside message' length') :
    Leave (texts ++ more) (kept && (!texts.isEmpty || keptInside)) (fillText message message')
      (length.or length') where
  length_eq := by
    rw [h.length_eq, h'.length_eq, List.head?_append, Option.map_or]
  message_mem := by
    intro text htext
    -- the text in front stays if it has letters, else the text behind comes in its place
    rw [fillText_eq] at htext
    split at htext
    · exact List.mem_append_left _ (h.message_mem _ htext)
    · split at htext
      · exact List.mem_append_right _ (h'.message_mem _ htext)
      · exact List.mem_append_left _ (h.message_mem _ htext)
  keeps := by
    intro hkept
    rw [Bool.and_eq_true] at hkept
    obtain ⟨hkept, hinside⟩ := hkept
    obtain ⟨hfirst, rfl | htold⟩ := h.keeps hkept
    · -- no text has reached the record before
      obtain rfl : texts = [] := List.head?_eq_none_iff.1 hfirst.symm
      obtain ⟨hfirst', htold'⟩ := h'.keeps hinside
      have hfilled : fillText none message' = message' := by
        rw [fillText_eq, if_neg (by decide)]
        rcases htold' with rfl | htold'
        · rfl
        · rw [if_pos htold']
      rw [hfilled]
      exact ⟨hfirst', htold'⟩
    · -- a text that is not blank keeps its place, whatever the merged record brings
      rw [fillText_eq, if_pos htold, List.head?_append, ← hfirst]
      refine ⟨?_, .inr htold⟩
      cases message with
      | none => cases htold
      | some text => rfl

end Leave

/-- **What the texts that have reached a record leave of its message and its length.** -/
theorem Reached.leave {texts : List String} {kept : Bool} (h : Reached happened texts kept)
    (hmerged : ∀ q sub, .merges q sub ∈ happened → q.Unmeasured) :
    Leave texts kept (happened.foldl Happening.messageAfter none)
      (happened.findSome? Happening.length?) := by
  -- on the texts and the history together: each that happens adds what `Leave` says of it
  induction h with
  | start => exact .start
  | @sets happened _ _ name text v _ htold ih =>
    have hleave := (ih fun q sub hq => hmerged q sub (List.mem_append_left _ hq)).sets text
    rw [List.foldl_concat, List.findSome?_append, List.findSome?_singleton,
      Happening.messageAfter, Happening.length?, htold]
    exact hleave
  | passes _ htold ih =>
    have hleave := ih fun q sub hq => hmerged q sub (List.mem_append_left _ hq)
    rw [List.foldl_concat, List.findSome?_append, List.findSome?_singleton,
      Happening.messageAfter, Happening.length?, htold, Option.none_or, Option.map_none,
      Option.or_none]
    exact hleave
  | @merges q _ _ inner filled sub _ _ _ _ _ hinner hjudged _ ih ihinner =>
    have hq : q.Unmeasured := hmerged q sub List.mem_concat_self
    have hleave := ih fun q sub hq => hmerged q sub (List.mem_append_left _ hq)
    -- the merged record has a history of its own, of parsers that are not measured either
    have hinside := ihinner fun q' sub' hmem => by
      obtain ⟨flatten, hoffered⟩ := hinner.offered_of_merges hmem
      exact hq.stacked hoffered
    rw [← hinner.message_eq, ← hinner.msgLength_eq hq] at hinside
    obtain ⟨s, rfl⟩ := hjudged
    rw [List.foldl_concat, List.findSome?_append, List.findSome?_singleton]
    exact hleave.merges hinside
  | relates _ ih =>
    have hleave := ih fun q sub hq => hmerged q sub (List.mem_append_left _ hq)
    rw [List.foldl_concat, List.findSome?_append, List.findSome?_singleton,
      Happening.messageAfter, Happening.length?, Option.or_none]
    exact hleave

/-- **The length is that of the first text that has reached the record**, whatever becomes of the
message after that. This goes for the record of an item if there is no field for the length, at any
depth. The message is one of the texts that have reached the record, and if it has kept to the first
one, the length is that of the message. -/
theorem msgLength_of_parse {host : Host} {source : Source} {metadata : Keyed Value}
    {input : RawData} {session : Session} (hp : p.Unmeasured)
    (hr : (p.parse host source metadata input session).result = .ok (some r)) :
    ∃ filled, p.Fills host source metadata input session filled ∧ p.Arises p.stacked 0 filled ∧
      ∀ happened, History p p.stacked 0 happened filled →
        (∃ texts kept, Reached happened texts kept) ∧
        ∀ texts kept, Reached happened texts kept →
          r.facts.msgLength = texts.head?.map Facts.lengthOf ∧
          (∀ text, r.facts.message = some text → text ∈ texts) ∧
          (kept = true → r.facts.msgLength = r.facts.message.map Facts.lengthOf) := by
  obtain ⟨filled, hfills, -, timed, verdict, id, parent, htimed, hfacts⟩ := facts_of_parse hr
  obtain ⟨start, stop, elapsed, rfl⟩ := times_of_determineTimes htimed
  refine ⟨filled, hfills, hfills.arises, fun happened hhistory => ⟨hhistory.exists_reached, ?_⟩⟩
  intro texts kept hreached
  -- closing the record changes neither the message nor the length
  have hleave := hreached.leave fun q sub hmem => by
    obtain ⟨flatten, hoffered⟩ := hhistory.offered_of_merges hmem
    exact hp.stacked hoffered
  rw [← hhistory.message_eq, ← hhistory.msgLength_eq hp] at hleave
  rw [hfacts]
  refine ⟨hleave.length_eq, hleave.message_mem, fun hkept => ?_⟩
  have hfirst : filled.facts.message = texts.head? := (hleave.keeps hkept).1
  exact hleave.length_eq.trans (congrArg _ hfirst.symm)

/-- A parser for texts that are quoted. -/
def quotes : Parser :=
  .mk ⟨"quotes", {}, .map⟩ [] []
    [⟨{ name := "Message", locators := [{ location := "text", emptyAsNull := false }] }, []⟩]

/-- A field into which such a text is merged. -/
def quoteField (location : String) : ParserField Parser :=
  ⟨{ name := "Quote", locators := [{ location, dataType := .asInput }] },
    [⟨quotes, .merge, false⟩]⟩

/-- A field for what a letter says itself. -/
def noteField : ParserField Parser :=
  ⟨{ name := "Message", locators := [{ location := "note" }] }, []⟩

/-- A parser for letters. -/
def letters (fields : List (ParserField Parser)) : Parser :=
  .mk ⟨"letters", {}, .map⟩ [] [] fields

/-- What becomes of a letter that quotes these texts and says this itself. -/
def letter (fields : List (ParserField Parser)) (first second note : String) : Outcome :=
  (letters fields).parse { now := ⟨0⟩, env := fun _ => none } { name := "test" } []
    (.map [("first", .map [("text", .str first)]), ("second", .map [("text", .str second)]),
      ("note", .str note)])
    { cache := default, ids := { id := toString } }

/-- A letter that says something itself before it quotes has a message of its own, and the length is
that of the message. -/
theorem letter_measured :
    (letters [noteField, quoteField "first"]).Unmeasured ∧
      ∃ r texts kept happened,
        (letter [noteField, quoteField "first"] "hello" "" "hi").result = .ok (some r) ∧
        r.facts.message = some "hi" ∧ r.facts.msgLength = some 2 ∧
        Reached happened texts kept ∧ "hi" ∈ texts ∧ texts.head?.map Facts.lengthOf = some 2 := by
  have hp : (letters [noteField, quoteField "first"]).Unmeasured := by decide +kernel
  obtain ⟨r, hr, hknown⟩ := Outcome.exists_record
    (o := letter [noteField, quoteField "first"] "hello" "" "hi")
    (f := fun r => (r.facts.message, r.facts.msgLength))
    (a := (some "hi", some 2)) (by decide +kernel)
  obtain ⟨hmessage, hlength⟩ := Prod.mk.inj hknown
  obtain ⟨filled, -, ⟨happened, hhistory⟩, hreached⟩ := msgLength_of_parse hp hr
  obtain ⟨⟨texts, kept, htexts⟩, hall⟩ := hreached happened hhistory
  obtain ⟨hfirst, hmem, -⟩ := hall texts kept htexts
  exact ⟨hp, r, texts, kept, happened, hr, hmessage, hlength, htexts, hmem "hi" hmessage,
    hfirst.symm.trans hlength⟩

/-- **A message with the length of another one**: if the letter quotes before it says something
itself, the message is replaced and the length of the text that was quoted stays. -/
theorem letter_mismeasured :
    (letters [quoteField "first", noteField]).Unmeasured ∧
      (∀ f ∈ (letters [quoteField "first", noteField]).allFields, f.isSplit = false) ∧
      ∃ r, (letter [quoteField "first", noteField] "hello" "" "hi").result = .ok (some r) ∧
        r.facts.message = some "hi" ∧ r.facts.msgLength = some 5 ∧
        r.facts.msgLength ≠ r.facts.message.map Facts.lengthOf := by
  obtain ⟨r, hr, hknown⟩ := Outcome.exists_record
    (o := letter [quoteField "first", noteField] "hello" "" "hi")
    (f := fun r => (r.facts.message, r.facts.msgLength))
    (a := (some "hi", some 5)) (by decide +kernel)
  obtain ⟨hmessage, hlength⟩ := Prod.mk.inj hknown
  refine ⟨by decide +kernel, by decide +kernel, r, hr, hmessage, hlength, ?_⟩
  rw [hmessage, hlength]
  decide +kernel

-- a text of blanks is no message when it is merged, but its length is there before that of the next
example : (letter [quoteField "first", quoteField "second"] "  " "hello" "").record?.map
    (fun r => (r.facts.message, r.facts.msgLength)) = some (some "hello", some 2) := by
  decide +kernel

end Parser

end Intake
