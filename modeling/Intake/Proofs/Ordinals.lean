import Intake.Proofs.History

/-!
# Places and ordinals

A record that is added to another one gets the place that it has then among the records of its
parser as its ordinal. Records that are merged bring their records along with the ordinals that they
have.

* `Counted`: numbers that were given in this way.
* `Parser.Tidy`: no record that is merged brings records of a parser of which there may be others
  already.
* `Parser.ordinals_of_parse`: **the ordinals of the records of a parser are their places exactly if
  no two of them are the same**, and with tidy parsers they always are.
* `Parser.both_come_first`: two records of a parser that came with merged ones are both the first.
-/

namespace Intake

/-- Numbers of things in a row: a thing that is added gets the number of its place, and things that
come together keep the numbers that they had among themselves. -/
inductive Counted : List Nat → Prop
  | nil : Counted []
  | added {ns : List Nat} : Counted ns → Counted (ns ++ [ns.length + 1])
  | joined {ns ms : List Nat} : Counted ns → Counted ms → Counted (ns ++ ms)

namespace Counted

variable {ns : List Nat}

/-- No number is greater than its place. -/
theorem bounds (h : Counted ns) : ∀ i n, ns[i]? = some n → 1 ≤ n ∧ n ≤ i + 1 := by
  induction h with
  | nil =>
    intro i n hn
    cases hn
  | @added ns _ ih =>
    intro i n hn
    rcases Nat.lt_or_ge i ns.length with hi | hi
    · rw [List.getElem?_append_left hi] at hn
      exact ih i n hn
    · -- The number that was added is the last one, and it is its own place.
      rw [List.getElem?_append_right hi] at hn
      have hlast : i - ns.length < 1 := (List.getElem?_eq_some_iff.1 hn).1
      have hi' : i - ns.length = 0 := by omega
      rw [hi'] at hn
      obtain rfl : ns.length + 1 = n := Option.some.inj hn
      omega
  | @joined ns ms _ _ ih ih' =>
    intro i n hn
    rcases Nat.lt_or_ge i ns.length with hi | hi
    · rw [List.getElem?_append_left hi] at hn
      exact ih i n hn
    · rw [List.getElem?_append_right hi] at hn
      -- Joining moves the second list further back, which only makes its places greater.
      have hown := ih' _ n hn
      omega

theorem one_mem (h : Counted ns) (hne : ns ≠ []) : 1 ∈ ns := by
  cases ns with
  | nil => exact absurd rfl hne
  | cons n rest =>
    have hn := h.bounds 0 n rfl
    obtain rfl : n = 1 := by omega
    exact List.mem_cons_self

/-- **Numbers are those of the places exactly if they are all different.** Two lists that are joined
both begin with one. -/
theorem nodup_iff (h : Counted ns) : ns.Nodup ↔ ns = List.range' 1 ns.length := by
  constructor
  · intro hnodup
    induction h with
    | nil => rfl
    | @added ns _ ih =>
      have hbefore : ns = List.range' 1 ns.length := ih (List.nodup_append.1 hnodup).1
      rw [List.length_append, List.length_singleton, List.range'_concat, ← hbefore, Nat.one_mul,
        Nat.add_comm 1]
    | @joined ns ms hns hms ih ih' =>
      obtain ⟨hfirst, hsecond, hapart⟩ := List.nodup_append.1 hnodup
      by_cases hnil : ns = []
      · subst hnil
        exact ih' hsecond
      · by_cases hnil' : ms = []
        · subst hnil'
          rw [List.append_nil]
          exact ih hfirst
        · -- Neither list is empty, so that both have a one.
          exact absurd rfl (hapart 1 (hns.one_mem hnil) 1 (hms.one_mem hnil'))
  · intro hplaces
    rw [hplaces]
    exact List.nodup_range'

/-- A number that is added is none of those before it. -/
theorem nodup_added (h : Counted ns) (hnodup : ns.Nodup) : (ns ++ [ns.length + 1]).Nodup := by
  refine List.nodup_append.2 ⟨hnodup, List.pairwise_singleton _ _, ?_⟩
  rintro n hn _ hlast rfl
  obtain ⟨i, hi, hat⟩ := List.mem_iff_getElem.1 hn
  have hbound := (h.bounds i n (List.getElem?_eq_some_iff.2 ⟨hi, hat⟩)).2
  have heq : n = ns.length + 1 := List.mem_singleton.1 hlast
  omega

end Counted

namespace Record

/-- The ordinals of the records of a parser inside a record. -/
def ordinals (r : Record) (parser : String) : List Nat :=
  (r.childrenOf parser).map fun kid => kid.record.facts.ordinal

/-- The records of a parser inside a record have their places among them as ordinals. -/
def InPlace (r : Record) (parser : String) : Prop :=
  ∀ (k : Nat) (kid : Child), (r.childrenOf parser)[k]? = some kid →
    kid.record.facts.ordinal = k + 1

variable {r o : Record} {parser other : String}

theorem getElem?_ordinals (r : Record) (parser : String) (k : Nat) :
    (r.ordinals parser)[k]? =
      ((r.childrenOf parser)[k]?).map fun kid => kid.record.facts.ordinal :=
  List.getElem?_map

theorem length_ordinals (r : Record) (parser : String) :
    (r.ordinals parser).length = (r.childrenOf parser).length :=
  List.length_map _

theorem inPlace_iff :
    r.InPlace parser ↔ r.ordinals parser = List.range' 1 (r.ordinals parser).length := by
  constructor
  · intro h
    refine List.ext_getElem? fun k => ?_
    rw [getElem?_ordinals]
    cases hkid : (r.childrenOf parser)[k]? with
    | none =>
      have hend := List.getElem?_eq_none_iff.1 hkid
      have hend' : (List.range' 1 (r.ordinals parser).length)[k]? = none := by
        rw [List.getElem?_eq_none_iff, List.length_range', length_ordinals]
        exact hend
      rw [hend']
      rfl
    | some kid =>
      have hlt : k < (r.ordinals parser).length := by
        rw [length_ordinals]
        exact (List.getElem?_eq_some_iff.1 hkid).1
      rw [List.getElem?_range' hlt, Option.map_some, h k kid hkid, Nat.one_mul, Nat.add_comm]
  · intro h k kid hkid
    have hlt : k < (r.ordinals parser).length := by
      rw [length_ordinals]
      exact (List.getElem?_eq_some_iff.1 hkid).1
    have hat := getElem?_ordinals r parser k
    rw [h, List.getElem?_range' hlt, hkid] at hat
    have hordinal : 1 + 1 * k = kid.record.facts.ordinal := Option.some.inj hat
    omega

theorem ordinals_congr (h : o.children = r.children) (parser : String) :
    o.ordinals parser = r.ordinals parser := by
  unfold ordinals childrenOf
  rw [h]

theorem ordinals_merge (h : Keyed.Sorted o.children) (parser : String) :
    (r.merge o).ordinals parser = r.ordinals parser ++ o.ordinals parser := by
  unfold ordinals
  rw [childrenOf_merge r h, List.map_append]

theorem ordinals_addChild (r o : Record) (parser other : String) (flatten : Bool) :
    (r.addChild parser o flatten).ordinals other =
      if parser = other then r.ordinals parser ++ [o.facts.ordinal] else r.ordinals other := by
  unfold ordinals
  rw [childrenOf_addChild]
  split
  · rw [List.map_append]
    rfl
  · rfl

end Record

namespace Parser

variable {offered : List (Stacked Parser)} {n : Nat} {happened : List Happening} {r u : Record}
  {p : Parser} {st : Stacked Parser}

/-- If the record of the later parser is merged, it brings no records of a parser of which that of
the earlier one may have brought some. -/
def Apart (earlier later : Stacked Parser) : Prop :=
  later.aggregation = .merge →
    ∀ a b, Brings [earlier] a → Brings [later] b → a.parser.name ≠ b.parser.name

/-- A record that is merged never brings records of a parser of which there may be others already,
neither here nor in the records of the stacked parsers. -/
inductive Tidy : Parser → Prop
  | intro {p : Parser} : p.stacked.Pairwise Apart → (∀ st ∈ p.stacked, Tidy st.parser) → Tidy p

theorem Tidy.apart (h : p.Tidy) : p.stacked.Pairwise Apart := by
  obtain ⟨hapart, -⟩ := h
  exact hapart

theorem Tidy.stacked (h : p.Tidy) : ∀ st ∈ p.stacked, st.parser.Tidy := by
  obtain ⟨-, hstacked⟩ := h
  exact hstacked

/-- The records directly inside come from one of the stacked parsers. -/
theorem brings_iff : Brings offered st ↔ ∃ via ∈ offered, Brings [via] st := by
  constructor
  · intro h
    cases h with
    | relates hst hhow => exact ⟨st, hst, .relates (List.mem_singleton_self _) hhow⟩
    | @merges _ via _ hvia hhow hinner =>
      exact ⟨via, hvia, .merges (List.mem_singleton_self _) hhow hinner⟩
  · rintro ⟨via, hvia, h⟩
    refine h.mono fun other hother => ?_
    rwa [List.mem_singleton.1 hother]

theorem brings_merge {flatten : Bool} :
    Brings [⟨p, .merge, flatten⟩] st ↔ Brings p.stacked st := by
  constructor
  · intro h
    cases h with
    | relates hst hhow =>
      obtain rfl := List.mem_singleton.1 hst
      cases hhow
    | merges hvia _ hinner =>
      obtain rfl := List.mem_singleton.1 hvia
      exact hinner
  · intro h
    exact .merges (List.mem_singleton_self _) rfl h

namespace History

/-- **The ordinals of the records of a parser are counted**, step after step. -/
theorem counted (h : History p offered n happened r) : ∀ parser, Counted (r.ordinals parser) := by
  induction h with
  | start => exact fun _ => .nil
  | sets _ _ _ ih => exact ih
  | passes _ ih => exact ih
  | merges _ hinner hjudged ih ihsub =>
    intro parser
    have hsorted := hinner.sorted.children
    rw [← hjudged.children] at hsorted
    rw [Record.ordinals_merge hsorted, Record.ordinals_congr hjudged.children]
    exact .joined (ih parser) (ihsub parser)
  | @relates _ q _ _ _ _ _ _ sub timed _ now _ hinner hjudged htimed ih _ =>
    intro parser
    have hmade : q.Made _ timed := ⟨_, sub, now, ⟨_, hinner⟩, hjudged, htimed⟩
    rw [Record.ordinals_addChild, hmade.ordinal_eq, ← Record.length_ordinals]
    split
    · exact .added (ih q.name)
    · exact ih parser

/-- With tidy parsers no two records of a parser have the same ordinal. -/
theorem nodup_ordinals (h : History p offered n happened r) (hapart : offered.Pairwise Apart)
    (htidy : ∀ st ∈ offered, st.parser.Tidy) : ∀ parser, (r.ordinals parser).Nodup := by
  induction h with
  | start => exact fun _ => List.nodup_nil
  | sets _ _ _ ih => exact ih hapart htidy
  | passes _ ih =>
    exact ih (List.pairwise_append.1 hapart).1 fun st hst => htidy st (List.mem_append_left _ hst)
  | @merges _ q _ _ _ _ r filled _ flatten hr hinner hjudged ih ihsub =>
    intro parser
    obtain ⟨hbefore, -, hlast⟩ := List.pairwise_append.1 hapart
    have hq : q.Tidy := htidy ⟨q, .merge, flatten⟩ List.mem_concat_self
    have hown := ih hbefore (fun st hst => htidy st (List.mem_append_left _ hst)) parser
    have hsub := ihsub hq.apart hq.stacked parser
    have hsorted := hinner.sorted.children
    rw [← hjudged.children] at hsorted
    rw [Record.ordinals_merge hsorted, Record.ordinals_congr hjudged.children]
    by_cases hnil : r.ordinals parser = []
    · rwa [hnil, List.nil_append]
    · -- of this parser there are records already, so that the merged one brings none
      have hnone : filled.ordinals parser = [] := by
        by_contra hsome
        obtain ⟨kid, hkid⟩ := List.exists_mem_of_ne_nil _ fun hempty =>
          hnil (List.map_eq_nil_iff.2 hempty)
        obtain ⟨kid', hkid'⟩ := List.exists_mem_of_ne_nil _ fun hempty =>
          hsome (List.map_eq_nil_iff.2 hempty)
        obtain ⟨a, ha, hname, -⟩ := hr.encloses (Record.encloses_of_mem_childrenOf hkid)
        obtain ⟨b, hb, hname', -⟩ := hinner.encloses (Record.encloses_of_mem_childrenOf hkid')
        obtain ⟨via, hvia, ha⟩ := brings_iff.1 ha
        have hmeet := hlast via hvia _ (List.mem_singleton_self _) rfl a b ha (brings_merge.2 hb)
        exact hmeet (hname.trans hname'.symm)
      rwa [hnone, List.append_nil]
  | @relates _ q _ _ _ _ _ _ sub timed _ now hr hinner hjudged htimed ih _ =>
    intro parser
    have hmade : q.Made _ timed := ⟨_, sub, now, ⟨_, hinner⟩, hjudged, htimed⟩
    have hown := ih (List.pairwise_append.1 hapart).1 fun st hst =>
      htidy st (List.mem_append_left _ hst)
    rw [Record.ordinals_addChild, hmade.ordinal_eq, ← Record.length_ordinals]
    split
    · exact (hr.counted q.name).nodup_added (hown q.name)
    · exact hown parser

end History

section Parse

variable {host : Host} {source : Source} {metadata : Keyed Value} {input : RawData}
  {session : Session}

/-- **The ordinals of records inside others.** Everywhere in the record of an item, and for every
parser, no ordinal is greater than the place of its record among those of the parser. The ordinals
are the places exactly if no two of them are the same; and they always are if no record that is
merged brings records of a parser of which there may be others already. -/
theorem ordinals_of_parse
    (hr : (p.parse host source metadata input session).result = .ok (some r)) :
    ∀ u ∈ r :: r.inside, ∀ parser,
      (∀ (k : Nat) (kid : Child), (u.childrenOf parser)[k]? = some kid →
        1 ≤ kid.record.facts.ordinal ∧ kid.record.facts.ordinal ≤ k + 1) ∧
      (u.InPlace parser ↔ (u.ordinals parser).Nodup) ∧
      (p.Tidy → u.InPlace parser) := by
  intro u hu parser
  obtain ⟨q, k, filled, ⟨happened, hhistory⟩, hconcludes⟩ := concludes_of_parse hr u hu
  have hcounted : Counted (u.ordinals parser) := by
    rw [Record.ordinals_congr hconcludes.children]
    exact hhistory.counted parser
  have hplaces : u.InPlace parser ↔ (u.ordinals parser).Nodup :=
    Record.inPlace_iff.trans hcounted.nodup_iff.symm
  refine ⟨?_, hplaces, ?_⟩
  · intro i kid hkid
    refine hcounted.bounds i _ ?_
    rw [Record.getElem?_ordinals, hkid]
    rfl
  · intro htidy
    -- Tidiness is handed down to the parser that made this very record.
    obtain ⟨q, k, filled, hq, ⟨happened, hhistory⟩, hconcludes⟩ :=
      everywhere_of_parse (fun _ => Tidy.stacked) htidy hr u hu
    rw [hplaces, Record.ordinals_congr hconcludes.children]
    exact hhistory.nodup_ordinals hq.apart hq.stacked parser

end Parse

/-- A parser for one leg of a way. -/
def legs : Parser :=
  .mk ⟨"legs", {}, .map⟩ [] [] [⟨{ name := "EventName", locators := [{ location := "to" }] }, []⟩]

/-- A field whose value is given to a stacked parser. -/
def part (name : String) (st : Stacked Parser) : ParserField Parser :=
  ⟨{ name, locators := [{ location := name, dataType := .asInput }] }, [st]⟩

/-- A parser for one way, with a leg inside it. -/
def ways : Parser :=
  .mk ⟨"ways", {}, .map⟩ [] [] [part "leg" ⟨legs, .relate, false⟩]

/-- A parser into whose records a way is merged before a leg is added. -/
def errands : Parser :=
  .mk ⟨"errands", {}, .map⟩ [] [] [part "out" ⟨ways, .merge, false⟩,
    part "back" ⟨legs, .relate, false⟩]

/-- A parser into whose records two ways are merged. -/
def trips : Parser :=
  .mk ⟨"trips", {}, .map⟩ [] [] [part "out" ⟨ways, .merge, false⟩,
    part "back" ⟨ways, .merge, false⟩]

/-- What becomes of a way out and a way back. -/
def journey (p : Parser) (back : Value) : Outcome :=
  p.parse { now := ⟨0⟩, env := fun _ => none } { name := "test" } []
    (.map [("out", .map [("leg", .map [("to", .str "town")])]), ("back", back)])
    { cache := default, ids := { id := toString } }

theorem errands_tidy : errands.Tidy := by
  have hlegs : legs.Tidy := .intro .nil (by simp [legs, stacked, fields])
  have hways : ways.Tidy := by
    refine .intro (List.pairwise_singleton _ _) fun st hst => ?_
    obtain rfl : st = ⟨legs, .relate, false⟩ := List.mem_singleton.1 hst
    exact hlegs
  have hstacked : errands.stacked = [⟨ways, .merge, false⟩, ⟨legs, .relate, false⟩] := rfl
  refine .intro ?_ ?_
  · -- the leg that comes later is not merged
    rw [hstacked]
    refine List.pairwise_cons.2 ⟨?_, List.pairwise_singleton _ _⟩
    intro later hlater hmerge
    obtain rfl := List.mem_singleton.1 hlater
    cases hmerge
  · rw [hstacked]
    simp [hlegs, hways]

theorem errand_counts :
    errands.Tidy ∧ ∃ r, (journey errands (.map [("to", .str "home")])).result = .ok (some r) ∧
      r.InPlace "legs" ∧ r.ordinals "legs" = [1, 2] := by
  obtain ⟨r, hr, hordinals⟩ := Outcome.exists_record (f := fun r => r.ordinals "legs")
    (a := [1, 2]) (o := journey errands (.map [("to", .str "home")])) (by decide +kernel)
  obtain ⟨-, -, hplaces⟩ := ordinals_of_parse hr r List.mem_cons_self "legs"
  exact ⟨errands_tidy, r, hr, hplaces errands_tidy, hordinals⟩

/-- **Two legs that come with the ways they are on are both the first one**: neither has the
ordinal two. -/
theorem both_come_first :
    ∃ r, (journey trips (.map [("leg", .map [("to", .str "home")])])).result = .ok (some r) ∧
      (r.childrenOf "legs").map (fun kid => kid.record.facts.eventName) =
        [some "town", some "home"] ∧
      r.ordinals "legs" = [1, 1] ∧ ¬ r.InPlace "legs" := by
  obtain ⟨r, hr, hlegs⟩ := Outcome.exists_record
    (f := fun r => ((r.childrenOf "legs").map fun kid => kid.record.facts.eventName,
      r.ordinals "legs"))
    (a := ([some "town", some "home"], [1, 1]))
    (o := journey trips (.map [("leg", .map [("to", .str "home")])])) (by decide +kernel)
  obtain ⟨hnames, hordinals⟩ := Prod.mk.inj hlegs
  refine ⟨r, hr, hnames, hordinals, ?_⟩
  intro hplaces
  have hcount := Record.inPlace_iff.1 hplaces
  rw [hordinals] at hcount
  exact absurd hcount (by decide)

end Parser

end Intake
