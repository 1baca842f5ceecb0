import Intake.Proofs.Failing

/-!
# Why an item fails

* `Feed.next_fails`, `RawData.next_fails`: only a feed can fail to give an item.
* `Parser.close_fails`: the end of an item fails only as a field or with a fault.
* `Parser.parse_eq_error_iff`: **an item fails because its feed cannot be read, because it cannot be
  made ready, or because of a field**, and then with a failure of that kind; else the program stops.
  What goes wrong in pre-parsers, transforms and filters, and values that are missing, never make an
  item fail.
-/

namespace Intake

namespace Failure

/-- Reading from a feed failed. -/
def IsIo (e : Failure) : Prop :=
  ∃ reason, e = io reason

end Failure

open Failure

theorem Feed.lineOf_fails (bytes : List UInt8) : FailsOnly IsIo (lineOf bytes).1 := by
  fun_induction lineOf bytes with
  | case1 => exact .ok _
  | case2 => exact .error ⟨_, rfl⟩
  | case3 b rest after s _ _ ih => exact ih
  | case4 => exact .ok _

/-- A feed fails only where its bytes are no text. -/
theorem Feed.next_fails (portion : Portion) (f : Feed) : FailsOnly IsIo (f.next portion).1 := by
  cases portion with
  | line => exact lineOf_fails f.unread
  | remainder =>
    simp only [next, remainder]
    split
    · exact .error ⟨_, rfl⟩
    · exact .ok _

/-- Only a feed can fail to give an item. -/
theorem RawData.next_fails {input : RawData} {portion : Portion} {e : Failure}
    (h : (input.next portion).1 = .error e) :
    e.IsIo ∧ ∃ f, input = .feed f ∧ (f.next portion).1 = .error e := by
  cases input with
  | feed f =>
    have hf : (f.next portion).1 = .error e := map_eq_error.1 h
    exact ⟨Feed.next_fails portion f e hf, f, rfl, hf⟩
  | text | bytes | map | json => cases h

namespace Parser

open Attempt

variable {p : Parser} {host : Host} {source : Source} {metadata : Keyed Value}
  {input item rest : RawData} {session s s' : Session} {ctx : Context} {e : Failure}

/-- Fills the fields of an item and makes its record. -/
def fillAndClose (p : Parser) (host : Host) (source : Source) (ctx : Context) :
    Attempt (Option Record) := do
  match ← fill p.fields ctx with
  | none => return none
  | some ctx => p.close host source ctx

/-- What makes the next item of an input fail, and in which way. -/
inductive Cause (p : Parser) (host : Host) (source : Source) (metadata : Keyed Value)
    (input : RawData) (session : Session) (e : Failure) : Prop
  /-- The input is a feed that cannot be read. -/
  | unread {f : Feed} (kind : e.IsIo) (feed : input = .feed f)
    (fails : (f.next p.profile.properties.portion).1 = .error e)
  /-- The item, as its pre-parsers leave it, cannot be made ready. No field of it is ever filled. -/
  | unreadable {item rest : RawData} (kind : e.IsUnreadable)
    (next : input.next p.profile.properties.portion = (.ok (some item), rest))
    (fails : p.profile.resolver.prepare (Session.preParsed p.preParsers item session).1 = .error e)
    (untouched : ∀ ctx s, ¬ p.Opens host source metadata input session ctx s)
  /-- The fields of the item, or the record that is made of them, fail. -/
  | field {ctx : Context} {s : Session} (kind : e.IsField)
    (opens : p.Opens host source metadata input session ctx s)
    (fails : ((p.fillAndClose host source ctx).on s).1 = .error e)
  /-- The program stops while the item is filled or its record made. -/
  | fault {ctx : Context} {s : Session} (kind : e.IsFault)
    (opens : p.Opens host source metadata input session ctx s)
    (fails : ((p.fillAndClose host source ctx).on s).1 = .error e)

theorem parse_of_unread (h : input.next p.profile.properties.portion = (.error e, rest)) :
    p.parse host source metadata input session = ⟨.error e, rest, session⟩ := by
  unfold parse
  rw [h]

theorem parse_of_unreadable
    (hnext : input.next p.profile.properties.portion = (.ok (some item), rest))
    (hprepare : p.profile.resolver.prepare (Session.preParsed p.preParsers item session).1 =
      .error e) :
    p.parse host source metadata input session =
      ⟨.error e, rest, (Session.preParsed p.preParsers item session).2⟩ := by
  have hitem : (p.parseItem host source metadata item).on session =
      (.error e, (Session.preParsed p.preParsers item session).2) := by
    unfold parseItem
    rw [on_bind_of_ok (on_run _), on_bind, on_except, hprepare]
  unfold parse
  rw [hnext]
  simp only
  change (⟨((p.parseItem host source metadata item).on session).1, rest,
    ((p.parseItem host source metadata item).on session).2⟩ : Outcome) = _
  rw [hitem]

theorem result_of_blank
    (hnext : input.next p.profile.properties.portion = (.ok (some item), rest))
    (hprepare : p.profile.resolver.prepare (Session.preParsed p.preParsers item session).1 =
      .ok none) :
    (p.parse host source metadata input session).result = .ok none := by
  have hitem : (p.parseItem host source metadata item).on session =
      (.ok none, (Session.preParsed p.preParsers item session).2) := by
    unfold parseItem
    rw [on_bind_of_ok (on_run _), on_bind, on_except, hprepare]
    rfl
  unfold parse
  rw [hnext]
  exact congrArg Prod.fst hitem

/-- The end of an item fails only as a field or with a fault: its message is refused, or its times
are too far apart. -/
theorem close_fails (h : ((p.close host source ctx).on s).1 = .error e) : e.IsFinal := by
  unfold close at h
  rw [on_bind, on_except] at h
  have hmessage := withDefaultMessage_fails p.profile p.profile.properties.dataAsMessage ctx
  generalize withDefaultMessage p.profile p.profile.properties.dataAsMessage ctx = filled
    at h hmessage
  cases filled with
  | error e' =>
    cases h
    exact .inl (hmessage _ rfl)
  | ok r =>
    simp only at h
    rw [on_bind, on_except] at h
    have htimes := r.determineTimes_fails host.now
    generalize r.determineTimes host.now = timed at h htimes
    cases timed with
    | error e' =>
      cases h
      exact .inr (htimes _ rfl)
    | ok r => cases h

theorem fillAndClose_fails (h : ((p.fillAndClose host source ctx).on s).1 = .error e) :
    e.IsFinal := by
  have hfill := (fill_mild p.fields ctx s).2
  unfold fillAndClose at h
  rw [on_bind] at h
  generalize (fill p.fields ctx).on s = filled at h hfill
  rcases filled with ⟨e' | _ | ctx', s'⟩
  · cases h
    exact hfill _ rfl
  · cases h
  · exact close_fails h

/-- What an item that can be read comes to is what its fields and its record come to. -/
theorem result_of_opens (h : p.Opens host source metadata input session ctx s) :
    (p.parse host source metadata input session).result =
      ((p.fillAndClose host source ctx).on s).1 := by
  rw [parse_of_opens h]
  rfl

/-- What was not made ready is not opened. -/
theorem not_opens
    (hnext : input.next p.profile.properties.portion = (.ok (some item), rest))
    (hprepare : p.profile.resolver.prepare (Session.preParsed p.preParsers item session).1 =
      .error e) :
    ¬ p.Opens host source metadata input session ctx s := by
  rintro ⟨item', rest', raw, data, hnext', hraw, hdata, -⟩
  obtain ⟨rfl, rfl⟩ : item = item' ∧ rest = rest' := by
    rw [hnext] at hnext'
    cases hnext'
    exact ⟨rfl, rfl⟩
  rw [hraw, hdata] at hprepare
  cases hprepare

theorem cause_of_parse (h : (p.parse host source metadata input session).result = .error e) :
    p.Cause host source metadata input session e := by
  -- An item fails while it is read, when it is made ready, or when it is filled and closed.
  rcases hnext : input.next p.profile.properties.portion with ⟨e' | _ | item, rest⟩
  · rw [parse_of_unread hnext] at h
    obtain rfl : e' = e := Except.error.inj h
    obtain ⟨hio, f, hfeed, hf⟩ := RawData.next_fails (congrArg Prod.fst hnext)
    exact .unread hio hfeed hf
  · unfold parse at h
    rw [hnext] at h
    cases h
  · rcases hprepare : p.profile.resolver.prepare
      (Session.preParsed p.preParsers item session).1 with e' | _ | data
    · rw [parse_of_unreadable hnext hprepare] at h
      obtain rfl : e' = e := Except.error.inj h
      exact .unreadable (Resolver.prepare_fails _ _ _ hprepare) hnext hprepare
        fun _ _ => not_opens hnext hprepare
    · rw [result_of_blank hnext hprepare] at h
      cases h
    · have hopens : p.Opens host source metadata input session _ _ :=
        ⟨item, rest, _, data, hnext, rfl, hprepare, rfl⟩
      rw [result_of_opens hopens] at h
      rcases fillAndClose_fails h with hfield | hfault
      · exact .field hfield hopens h
      · exact .fault hfault hopens h

/-- What makes an item fail fails in one of four ways, unless the program stops. -/
theorem Cause.kind_mem (h : p.Cause host source metadata input session e) :
    e.IsFault ∨
      e.kind ∈ ["Io", "Json", "UnsupportedData", "ParseFailed"] ∧ e.isConfiguration = false := by
  rcases h with ⟨hkind, -, -⟩ | ⟨hkind, -, -, -⟩ | ⟨hkind, -, -⟩ | ⟨hkind, -, -⟩
  · obtain ⟨reason, rfl⟩ := hkind
    exact .inr ⟨by simp [kind], rfl⟩
  · obtain ⟨reason, rfl⟩ | ⟨what, rfl⟩ := hkind
    · exact .inr ⟨by simp [kind], rfl⟩
    · exact .inr ⟨by simp [kind], rfl⟩
  · obtain ⟨name, reason, rfl⟩ := hkind
    exact .inr ⟨by simp [kind], rfl⟩
  · exact .inl hkind

/-- **Why an item fails.** An item fails exactly if its input is a feed that cannot be read, or if
the item cannot be made ready, or if its fields or its record fail. The failure is one of input and
output then, or one about a document or data of a wrong kind, or one of a field. So unless the
program stops, it never is about a value that is missing or has a wrong form, about a transform, a
filter, a pre-parser or a regular expression, or about the way a parser is set up. -/
theorem parse_eq_error_iff (p : Parser) (host : Host) (source : Source) (metadata : Keyed Value)
    (input : RawData) (session : Session) (e : Failure) :
    ((p.parse host source metadata input session).result = .error e ↔
      p.Cause host source metadata input session e) ∧
    ((p.parse host source metadata input session).result = .error e →
      e.IsFault ∨
        e.kind ∈ ["Io", "Json", "UnsupportedData", "ParseFailed"] ∧ e.isConfiguration = false) := by
  refine ⟨⟨cause_of_parse, ?_⟩, fun h => (cause_of_parse h).kind_mem⟩
  rintro (⟨-, rfl, hf⟩ | ⟨-, hnext, hprepare, -⟩ | ⟨-, hopens, hrun⟩ | ⟨-, hopens, hrun⟩)
  · have hnext : (RawData.feed _).next p.profile.properties.portion = (.error e, _) :=
      Prod.ext (map_eq_error.2 hf) rfl
    rw [parse_of_unread hnext]
  · rw [parse_of_unreadable hnext hprepare]
  · rw [result_of_opens hopens, hrun]
  · rw [result_of_opens hopens, hrun]

/-- A parser for alerts that takes all of a feed for one. -/
def alerts : Parser :=
  .mk ⟨"alerts", { portion := .remainder }, .json⟩ [] []
    [⟨{ name := "Severity", locators := [{ location := "level" }] }, []⟩]

/-- What the next alert of an input comes to. -/
def alert (input : RawData) : Except Failure (Option Record) :=
  (alerts.parse { now := ⟨0⟩, env := fun _ => none } { name := "test" } [] input
    { cache := default, ids := { id := toString } }).result

/-- A feed that is no text, a text that is no document, and an alert of unknown severity. -/
theorem alert_fails_in_three_ways :
    (alert (.feed { unread := [255] }) = .error Feed.notText ∧
      Feed.notText.kind ∈ ["Io", "Json", "UnsupportedData", "ParseFailed"]) ∧
    (alert (.text "[") = .error (.json "not a document") ∧
      (Failure.json "not a document").kind ∈ ["Io", "Json", "UnsupportedData", "ParseFailed"]) ∧
    alert (.map [("level", .str "odd")]) = .error (.field "Severity" "unrecognized value 'odd'") ∧
      (Failure.field "Severity" "unrecognized value 'odd'").kind ∈
        ["Io", "Json", "UnsupportedData", "ParseFailed"] := by
  have hread : alert (.feed { unread := [255] }) = .error Feed.notText := by
    rfl
  have hdocument : alert (.text "[") = .error (.json "not a document") := by
    rfl
  have hsevere : alert (.map [("level", .str "odd")]) =
      .error (.field "Severity" "unrecognized value 'odd'") := by
    rfl
  have hio := ((parse_eq_error_iff _ _ _ _ _ _ _).2 hread).resolve_left (by rintro ⟨f, ⟨⟩⟩)
  have hjson := ((parse_eq_error_iff _ _ _ _ _ _ _).2 hdocument).resolve_left (by rintro ⟨f, ⟨⟩⟩)
  have hfield := ((parse_eq_error_iff _ _ _ _ _ _ _).2 hsevere).resolve_left (by rintro ⟨f, ⟨⟩⟩)
  exact ⟨⟨hread, hio.1⟩, ⟨hdocument, hjson.1⟩, hsevere, hfield.1⟩

end Parser

end Intake
