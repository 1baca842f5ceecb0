import Intake.Parser.Parse
import Intake.Proofs.Encoding
import Intake.Proofs.Lines
import Intake.Proofs.Places

/-!
# Parsers that share a feed

Any number of parsers take items from one feed, in any order. What each of them gets is read off the
text that the feed held at first, cut into its lines.

* `Feed.next_line`: one call takes the next line that is not blank.
* `Parser.turns_line`: as long as parsers take lines, each gets the line whose turn it is.
* `Parser.turns_remainder`: a parser that takes all that is left gets it as it stands, and from then
  on nobody gets anything.
* `Parser.turns_of_text`: **no line is lost and none is taken twice**, whoever takes them.
* `Parser.input_parse`: what parsing leaves of a feed depends on nothing but whose turn it was.
-/

namespace Intake

namespace Feed

open Text Text.Utf8

variable {line : List Char} {lines : List (List Char)}

theorem splitLine_append_cons {bytes rest : List UInt8} (h : lineFeed ∉ bytes) :
    splitLine (bytes ++ lineFeed :: rest) = (bytes ++ [lineFeed], rest) := by
  induction bytes with
  | nil => rw [List.nil_append, splitLine, if_pos rfl, List.nil_append]
  | cons b more ih =>
    have hb : ¬ b = lineFeed := fun heq => h (heq ▸ List.mem_cons_self)
    rw [List.cons_append, splitLine, if_neg hb, ih fun hmem => h (List.mem_cons_of_mem _ hmem)]
    rfl

theorem splitLine_of_not_mem {bytes : List UInt8} (h : lineFeed ∉ bytes) :
    splitLine bytes = (bytes, []) := by
  induction bytes with
  | nil => rfl
  | cons b more ih =>
    have hb : ¬ b = lineFeed := fun heq => h (heq ▸ List.mem_cons_self)
    rw [splitLine, if_neg hb, ih fun hmem => h (List.mem_cons_of_mem _ hmem)]

theorem bytesOf_lineFeed : bytesOf ['\n'] = [lineFeed] := by
  decide

/-- No byte of a line without a line feed is one. -/
theorem lineFeed_not_mem (h : '\n' ∉ line) : lineFeed ∉ bytesOf line := by
  refine not_mem_bytesOf (n := 10) (by decide) fun c hc heq => h ?_
  have hchar : c = '\n' := by
    rw [← Char.ofNat_toNat c, heq]
  exact hchar ▸ hc

/-- The line feed at its end makes no difference to what is taken of a line. -/
theorem chomp_append_lineFeed :
    chomp (String.ofList (line ++ ['\n'])) = chomp (String.ofList line) := by
  unfold chomp dropEndWhile
  rw [String.toList_ofList, String.toList_ofList, List.reverse_append, List.reverse_singleton,
    List.singleton_append, List.dropWhile_cons_of_pos (by decide)]

/-- The first line is read, and taken unless it is blank. -/
theorem lineOf_of_split {bytes rest : List UInt8} {cs : List Char} (hne : bytes ≠ [])
    (hsplit : splitLine bytes = (bytesOf cs, rest))
    (hchomp : chomp (String.ofList cs) = chomp (String.ofList line)) :
    lineOf bytes = (taken? line).elim (lineOf rest) fun s => (.ok (some s), rest) := by
  cases bytes with
  | nil => exact absurd rfl hne
  | cons b more =>
    rw [lineOf, hsplit]
    simp only [decode_bytesOf, hchomp, taken?]
    split
    · rfl
    · rfl

/-- **One call takes the next line that is not blank**, and leaves the lines behind it. -/
theorem lineOf_unlines (h : ∀ line ∈ lines, '\n' ∉ line) :
    lineOf (bytesOf (unlines lines)) =
      (.ok (takenOf lines)[0]?, bytesOf (unlines (after 1 lines))) := by
  have hempty : lineOf [] = (.ok none, []) := lineOf.eq_1
  induction lines with
  | nil => exact hempty
  | cons line rest ih =>
    have hline : lineFeed ∉ bytesOf line := lineFeed_not_mem (h line List.mem_cons_self)
    have ih := ih fun line hline => h line (List.mem_cons_of_mem _ hline)
    -- the first line ends with its line feed or with the text
    have hfirst : lineOf (bytesOf (unlines (line :: rest))) =
        (taken? line).elim (lineOf (bytesOf (unlines rest)))
          fun s => (.ok (some s), bytesOf (unlines rest)) := by
      cases rest with
      | nil =>
        have hsingle : unlines [line] = line := List.intercalate_singleton
        have hnil : bytesOf (unlines []) = [] := rfl
        rw [hsingle, hnil]
        cases line with
        | nil =>
          have hblank : taken? [] = none := rfl
          rw [hblank, Option.elim_none]
          rfl
        | cons c cs =>
          have hne : bytesOf (c :: cs) ≠ [] := bytesOf_ne_nil (List.cons_ne_nil c cs)
          exact lineOf_of_split hne (splitLine_of_not_mem hline) rfl
      | cons next rest =>
        have hend : bytesOf (line ++ ['\n']) = bytesOf line ++ [lineFeed] := by
          rw [bytesOf_append, bytesOf_lineFeed]
        have hbytes : bytesOf (unlines (line :: next :: rest)) =
            bytesOf line ++ lineFeed :: bytesOf (unlines (next :: rest)) := by
          rw [unlines_cons_cons, List.append_cons, bytesOf_append, hend, List.append_assoc,
            List.singleton_append]
        have hsplit : splitLine (bytesOf line ++ lineFeed :: bytesOf (unlines (next :: rest))) =
            (bytesOf (line ++ ['\n']), bytesOf (unlines (next :: rest))) := by
          rw [splitLine_append_cons hline, hend]
        rw [hbytes]
        exact lineOf_of_split (by simp) hsplit chomp_append_lineFeed
    rw [hfirst]
    cases hs : taken? line with
    | some s =>
      rw [Option.elim_some, after_cons_of_some hs, after, takenOf, List.filterMap_cons_some hs,
        List.getElem?_cons_zero]
    | none =>
      rw [Option.elim_none, after_cons_of_none hs, takenOf, List.filterMap_cons_none hs]
      exact ih

/-- A feed that holds lines. -/
def ofLines (lines : List (List Char)) : Feed := ⟨bytesOf (unlines lines)⟩

theorem next_line (h : ∀ line ∈ lines, '\n' ∉ line) :
    (ofLines lines).next .line = (.ok (takenOf lines)[0]?, ofLines (after 1 lines)) := by
  simp only [next, nextLine, ofLines]
  rw [lineOf_unlines h]

/-- A text, or nothing if it is blank. -/
def unlessBlank (cs : List Char) : Option String :=
  if isBlankText (String.ofList cs) then none else some (String.ofList cs)

theorem next_remainder :
    (ofLines lines).next .remainder = (.ok (unlessBlank (unlines lines)), ofLines []) := by
  simp only [next, remainder, ofLines, unlessBlank]
  rw [decode_bytesOf]
  rfl

end Feed

namespace Parser

open Text Feed

/-- How much of a feed makes one item for a parser. -/
def portion (p : Parser) : Portion := p.profile.properties.portion

/-- What parsers get that take their next item one after the other, and the input after that. -/
def turns : List Parser → RawData → List (Except Failure (Option RawData)) × RawData
  | [], input => ([], input)
  | p :: rest, input =>
    let (item, input) := input.next p.portion
    let (items, input) := turns rest input
    (item :: items, input)

variable {ps qs : List Parser} {p : Parser} {lines : List (List Char)}

/-- What parsing leaves of an input is what taking the next item leaves of it, whatever becomes of
the item. -/
theorem input_parse (p : Parser) (host : Host) (source : Source) (metadata : Keyed Value)
    (input : RawData) (session : Session) :
    (p.parse host source metadata input session).input = (input.next p.portion).2 := by
  unfold parse portion
  generalize input.next p.profile.properties.portion = taken
  obtain ⟨e | _ | item, rest⟩ := taken
  · rfl
  · rfl
  · rfl

theorem turns_append (input : RawData) :
    turns (ps ++ qs) input =
      ((turns ps input).1 ++ (turns qs (turns ps input).2).1, (turns qs (turns ps input).2).2) := by
  induction ps generalizing input with
  | nil => rfl
  | cons p rest ih =>
    simp only [List.cons_append, turns]
    rw [ih]

/-- **As long as parsers take lines**, each gets the line whose turn it is, or nothing if there are
no more. -/
theorem turns_line (hps : ∀ p ∈ ps, p.portion = .line) (h : ∀ line ∈ lines, '\n' ∉ line) :
    turns ps (.feed (ofLines lines)) =
      ((List.range ps.length).map fun i => .ok ((takenOf lines)[i]?.map .text),
        .feed (ofLines (after ps.length lines))) := by
  induction ps generalizing lines with
  | nil => rw [List.length_nil, after_zero, turns, List.range_zero, List.map_nil]
  | cons p rest ih =>
    have hnext : RawData.next p.portion (.feed (ofLines lines)) =
        (.ok ((takenOf lines)[0]?.map .text), .feed (ofLines (after 1 lines))) := by
      simp only [RawData.next]
      rw [hps p List.mem_cons_self, next_line h]
      rfl
    -- the lines left over are those of a shorter text, whose turns start again from the first
    have hrest := ih (fun q hq => hps q (List.mem_cons_of_mem _ hq)) (not_mem_of_mem_after (n := 1) h)
    have hlater : ∀ i, (takenOf (after 1 lines))[i]? = (takenOf lines)[i + 1]? := by
      intro i
      rw [takenOf_after, List.getElem?_drop, Nat.add_comm]
    simp only [turns, hnext, hrest, hlater]
    rw [after_after, List.length_cons, List.range_succ_eq_map, List.map_cons, List.map_map,
      Nat.add_comm 1]
    rfl

/-- Once everything is taken nobody gets anything. -/
theorem turns_exhausted (ps : List Parser) :
    turns ps (.feed (ofLines [])) = (ps.map fun _ => .ok none, .feed (ofLines [])) := by
  induction ps with
  | nil => rfl
  | cons p rest ih =>
    have hnext : RawData.next p.portion (.feed (ofLines [])) = (.ok none, .feed (ofLines [])) := by
      simp only [RawData.next]
      cases p.portion with
      | line =>
        have hnone : ∀ line ∈ ([] : List (List Char)), '\n' ∉ line := nofun
        rw [next_line hnone, after_nil]
        rfl
      | remainder =>
        rw [next_remainder]
        rfl
    simp only [turns, hnext, ih, List.map_cons]

/-- A parser that takes all that is left gets it as it stands. -/
theorem turns_remainder (hps : ∀ q ∈ ps, q.portion = .line) (hp : p.portion = .remainder)
    (h : ∀ line ∈ lines, '\n' ∉ line) :
    (turns (ps ++ p :: qs) (.feed (ofLines lines))).1 =
      (List.range ps.length).map (fun i => .ok ((takenOf lines)[i]?.map .text)) ++
        .ok ((unlessBlank (unlines (after ps.length lines))).map .text) ::
          qs.map fun _ => .ok none := by
  have hnext : RawData.next p.portion (.feed (ofLines (after ps.length lines))) =
      (.ok ((unlessBlank (unlines (after ps.length lines))).map .text), .feed (ofLines [])) := by
    simp only [RawData.next]
    rw [hp, next_remainder]
    rfl
  rw [turns_append, turns_line hps h]
  simp only [turns, hnext, turns_exhausted]

/-- What an item comes to if there is one. -/
def gotten : Except Failure (Option RawData) → Option RawData
  | .ok item => item
  | .error _ => none

/-- **Parsers that share a feed.** The feed holds a text, and parsers take items from it one after
the other. As long as they take lines, the parser whose turn is the `i`-th gets the `i`-th line that
is not blank, without what ends it, or nothing if there are fewer; so together they get the first of
these lines, each of them once and in order. The first parser that takes all that is left gets the
text behind the lines that were taken before, unchanged, unless it is blank: the text before that
point holds just these lines. After that no parser gets anything. -/
theorem turns_of_text (s : String) (ps : List Parser) :
    let lines := linesOf s.toList
    let items := (turns ps (.feed ⟨Text.Utf8.encode s⟩)).1
    ((∀ p ∈ ps, p.portion = .line) →
      (∀ i < ps.length, items[i]? = some (.ok ((takenOf lines)[i]?.map .text))) ∧
      items.filterMap gotten = ((takenOf lines).take ps.length).map .text) ∧
    ∀ before p later, ps = before ++ p :: later → (∀ q ∈ before, q.portion = .line) →
      p.portion = .remainder →
        let rest := unlines (after before.length lines)
        items = (List.range before.length).map (fun i => .ok ((takenOf lines)[i]?.map .text)) ++
          .ok ((unlessBlank rest).map .text) :: later.map (fun _ => .ok none) ∧
        ∃ front, s.toList = front ++ rest ∧
          takenOf (linesOf front) = (takenOf lines).take before.length := by
  intro lines items
  -- the feed of a text is the feed of its lines
  have hlines : ∀ line ∈ lines, '\n' ∉ line := fun line => not_mem_of_mem_linesOf
  have htext : unlines lines = s.toList := unlines_linesOf s.toList
  have hfeed : (⟨Text.Utf8.encode s⟩ : Feed) = ofLines lines := by
    rw [Text.Utf8.encode_eq, ofLines, htext]
  constructor
  · intro hps
    have hitems : items = (List.range ps.length).map fun i => .ok ((takenOf lines)[i]?.map .text) := by
      simp only [items]
      rw [hfeed, turns_line hps hlines]
    constructor
    · intro i hi
      rw [hitems, List.getElem?_map, List.getElem?_range hi]
      rfl
    · have hgotten : items.filterMap gotten =
          (List.range ps.length).filterMap fun i => (takenOf lines)[i]?.map .text := by
        rw [hitems, List.filterMap_map]
        rfl
      rw [hgotten, ← List.map_filterMap, filterMap_range_getElem?]
  · intro before p later heq hbefore hp
    subst heq
    -- the text is cut behind the last line that was looked at
    obtain ⟨front, hfront, htaken⟩ := exists_unlines_eq hlines before.length
    refine ⟨?_, front, htext ▸ hfront, htaken⟩
    simp only [items]
    rw [hfeed, turns_remainder hbefore hp hlines]

/-- A parser that takes lines. -/
def liner : Parser := .mk ⟨"liner", {}, .json⟩ [] [] []

/-- A parser that takes all that is left. -/
def ender : Parser := .mk ⟨"ender", { portion := .remainder }, .json⟩ [] [] []

/-- Three notes, with blank lines between them and no line feed at the end. -/
def notes : String := "one\r\n \ntwo\n\nthree"

theorem notes_shared :
    (turns [liner, liner, liner, liner] (.feed ⟨Text.Utf8.encode notes⟩)).1.filterMap gotten =
      [.text "one", .text "two", .text "three"] ∧
    (turns [liner, ender, liner] (.feed ⟨Text.Utf8.encode notes⟩)).1 =
      [.ok (some (.text "one")), .ok (some (.text " \ntwo\n\nthree")), .ok none] := by
  have hliner : ∀ n, ∀ p ∈ List.replicate n liner, p.portion = .line := by
    intro n p hp
    rw [List.eq_of_mem_replicate hp]
    rfl
  have hlines : takenOf (linesOf notes.toList) = ["one", "two", "three"] := by decide +kernel
  have hrest : unlessBlank (unlines (after 1 (linesOf notes.toList))) = some " \ntwo\n\nthree" := by
    decide +kernel
  obtain ⟨hall, -⟩ := turns_of_text notes [liner, liner, liner, liner]
  obtain ⟨-, hfirst⟩ := turns_of_text notes [liner, ender, liner]
  constructor
  · rw [(hall (hliner 4)).2, hlines]
    rfl
  · rw [(hfirst [liner] ender [liner] rfl (hliner 1) rfl).1, hlines]
    simp only [List.length_singleton]
    rw [hrest]
    rfl

end Parser

end Intake
