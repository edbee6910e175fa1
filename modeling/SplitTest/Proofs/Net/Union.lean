import SplitTest.Eligibility
import SplitTest.Proofs.Net.AllowList

/-!
# Lists as unions of their entries

The entries of a text are those of its pieces between line feeds (`AllowList.entries_eq`).  So
the entries of two texts with a line end between them are the entries of both, and the same
holds of a comma, unless it stands in a comment.  A comment itself has none.

Whatever parts a text is put together from, and in whichever order and however often they
occur, it lists what its parts list (`AllowList.contains_text_iff`).  A part without an entry
that could be read adds nothing, and no part takes anything away: more lines on the list of a
condition exempt more addresses from it (`AllowList.union_law`).
-/

namespace SplitTest

namespace Net.AllowList

open Text

/-! ## Entries of one line -/

/-- The entries of one line. -/
def lineEntries (line : List Char) : List (List Char) := nonblank (pieces ',' (before '#' line))

section
variable {s t : List Char}

theorem lineEntries_append_comma (h : '#' ∉ s) :
    lineEntries (s ++ ',' :: t) = lineEntries s ++ lineEntries t := by
  have hbefore : before '#' (s ++ ',' :: t) = s ++ ',' :: before '#' t := by
    have hall : ∀ c ∈ s, (c != '#') = true := fun c hc => bne_iff_ne.mpr fun e => h (e ▸ hc)
    rw [before, List.takeWhile_append_of_pos hall, List.takeWhile_cons_of_pos (by decide), before]
  rw [lineEntries, hbefore, pieces_append_cons, nonblank_append, lineEntries, lineEntries,
    before_of_not_mem h]

theorem lineEntries_append_comment (s t : List Char) :
    lineEntries (s ++ '#' :: t) = lineEntries s := by
  rw [lineEntries, before_append_cons, lineEntries]

/-- The carriage return of a line is in a comment or at the end of an entry. -/
theorem lineEntries_concat_return (s : List Char) : lineEntries (s ++ ['\r']) = lineEntries s := by
  by_cases hs : '#' ∈ s
  · obtain ⟨a, b, rfl, ha⟩ := List.eq_append_cons_of_mem hs
    rw [List.append_assoc, List.cons_append, lineEntries_append_comment,
      lineEntries_append_comment]
  · have hreturn : '#' ∉ s ++ ['\r'] := by simpa using hs
    rw [lineEntries, before_of_not_mem hreturn, nonblank_pieces_concat (by decide) (by decide),
      lineEntries, before_of_not_mem hs]

/-! ## Entries of a text -/

/-- **The entries of a text are those of its pieces** between line feeds. -/
theorem entries_eq (s : List Char) : entries s = (pieces '\n' s).flatMap lineEntries :=
  flatMap_lines rfl lineEntries_concat_return s

theorem entries_of_line (h : '\n' ∉ s) : entries s = lineEntries s := by
  rw [entries_eq, pieces_of_not_mem h, List.flatMap_singleton]

theorem entries_append_lineFeed (s t : List Char) :
    entries (s ++ '\n' :: t) = entries s ++ entries t := by
  rw [entries_eq, pieces_append_cons, List.flatMap_append, ← entries_eq, ← entries_eq]

/-- What is written behind a text concerns its last line alone. -/
theorem entries_append_split (s : List Char) :
    ∃ es, ∀ t, entries (s ++ t) = es ++ entries (afterLast '\n' s ++ t) := by
  rcases eq_append_afterLast '\n' s with hs | ⟨a, hs⟩
  · exact ⟨[], fun t => by rw [← hs, List.nil_append]⟩
  · refine ⟨entries a, fun t => ?_⟩
    conv_lhs => rw [hs]
    rw [List.append_assoc, List.cons_append, entries_append_lineFeed]

/-- What shows on no line does not show at the end of a text. -/
theorem entries_append_of_line (ht : '\n' ∉ t) (h : ∀ line, lineEntries (line ++ t) = lineEntries line)
    (s : List Char) : entries (s ++ t) = entries s := by
  obtain ⟨es, hes⟩ := entries_append_split s
  have hlast := sep_not_mem_afterLast '\n' s
  have hline : '\n' ∉ afterLast '\n' s ++ t := by simpa [hlast] using ht
  have hs := hes []
  rw [List.append_nil, List.append_nil] at hs
  rw [hes, hs, entries_of_line hline, h, ← entries_of_line hlast]

theorem entries_append_comment (ht : '\n' ∉ t) (s : List Char) :
    entries (s ++ '#' :: t) = entries s :=
  entries_append_of_line (by simpa using ht) (fun line => lineEntries_append_comment line t) s

theorem entries_concat_return (s : List Char) : entries (s ++ ['\r']) = entries s :=
  entries_append_of_line (by decide) lineEntries_concat_return s

theorem entries_append_comma (h : '#' ∉ afterLast '\n' s) :
    entries (s ++ ',' :: t) = entries s ++ entries t := by
  obtain ⟨es, hes⟩ := entries_append_split s
  have hlast := sep_not_mem_afterLast '\n' s
  have hs := hes []
  rw [List.append_nil, List.append_nil] at hs
  have hone {y : List Char} (hy : '\n' ∉ y) :
      entries (afterLast '\n' s ++ ',' :: y) = entries (afterLast '\n' s) ++ entries y := by
    have hline : '\n' ∉ afterLast '\n' s ++ ',' :: y := by simp [hlast, hy]
    rw [entries_of_line hline, lineEntries_append_comma h, entries_of_line hlast,
      entries_of_line hy]
  rw [hes, hs, List.append_assoc]
  congr 1
  -- the comma joins the last line of the one text and the first of the other
  by_cases ht : '\n' ∈ t
  · obtain ⟨y, q, rfl, hy⟩ := List.eq_append_cons_of_mem ht
    rw [← List.cons_append, ← List.append_assoc, entries_append_lineFeed, hone hy,
      entries_append_lineFeed, List.append_assoc]
  · exact hone ht

end

/-! ## What is listed -/

theorem contains_parse_iff {text : String} {x : Address} :
    (parse text).contains x = true ↔
      ∃ e ∈ entries text.toList, ∃ r, Rule.parse? e = some r ∧ r.contains x = true := by
  simp only [contains, parse, List.any_eq_true, List.mem_filterMap]
  constructor
  · rintro ⟨r, ⟨e, he, hr⟩, hx⟩
    exact ⟨e, he, r, hr, hx⟩
  · rintro ⟨e, he, r, hr, hx⟩
    exact ⟨r, ⟨e, he, hr⟩, hx⟩

/-- A text that has the entries of two lists what they list. -/
theorem contains_iff_or {a b text : String}
    (h : entries text.toList = entries a.toList ++ entries b.toList) (x : Address) :
    (parse text).contains x = true ↔
      (parse a).contains x = true ∨ (parse b).contains x = true := by
  simp only [contains_parse_iff, h, List.mem_append, or_and_right, exists_or]

/-- The line in which a text ends: what stands after its last line feed. -/
def lastLine (text : String) : List Char := afterLast '\n' text.toList

/-- What stands between two parts of a text. -/
inductive Separator where
  | lineFeed
  | returnFeed
  | comma
deriving DecidableEq

/-- The separator as it is written. -/
def Separator.text : Separator → String
  | lineFeed => "\n"
  | returnFeed => "\r\n"
  | comma => ","

/-- Parts of a text in order, with what stands between them. -/
structure Layout where
  /-- The parts before the last, each with the separator behind it. -/
  lead : List (String × Separator)
  /-- The last part. -/
  last : String

namespace Layout

/-- The text that is put together. -/
def text (p : Layout) : String := String.join (p.lead.map fun q => q.1 ++ q.2.text) ++ p.last

/-- The parts in order. -/
def parts (p : Layout) : List String := p.lead.map Prod.fst ++ [p.last]

/-- No comma between two parts is in a comment. -/
def Separates (p : Layout) : Prop := ∀ q ∈ p.lead, q.2 = .comma → '#' ∉ lastLine q.1

instance (p : Layout) : Decidable p.Separates :=
  inferInstanceAs (Decidable (∀ q ∈ p.lead, q.2 = .comma → '#' ∉ lastLine q.1))

end Layout

theorem entries_append_separator {a b : String} (sep : Separator)
    (h : sep = .comma → '#' ∉ lastLine a) :
    entries (a ++ sep.text ++ b).toList = entries a.toList ++ entries b.toList := by
  rw [String.toList_append, String.toList_append, List.append_assoc]
  cases sep with
  | lineFeed => exact entries_append_lineFeed a.toList b.toList
  | returnFeed =>
    show entries (a.toList ++ (['\r'] ++ '\n' :: b.toList)) = _
    rw [← List.append_assoc, entries_append_lineFeed, entries_concat_return]
  | comma => exact entries_append_comma (h rfl)

/-- **The entries of a text are those of its parts.** -/
theorem entries_text {p : Layout} (hp : p.Separates) :
    entries p.text.toList = p.parts.flatMap fun part => entries part.toList := by
  obtain ⟨lead, last⟩ := p
  induction lead with
  | nil =>
    rw [Layout.text, List.map_nil, String.join_nil, String.empty_append, Layout.parts,
      List.map_nil, List.nil_append, List.flatMap_singleton]
  | cons q lead ih =>
    obtain ⟨hq, hlead⟩ := List.forall_mem_cons.mp hp
    have htext : (⟨q :: lead, last⟩ : Layout).text =
        q.1 ++ q.2.text ++ (⟨lead, last⟩ : Layout).text := by
      rw [Layout.text, List.map_cons, String.join_cons, String.append_assoc]
      rfl
    rw [htext, entries_append_separator _ hq, ih hlead]
    rfl

/-- **A text lists what its parts list.** -/
theorem contains_text_iff {p : Layout} (hp : p.Separates) {x : Address} :
    (parse p.text).contains x = true ↔ ∃ part ∈ p.parts, (parse part).contains x = true := by
  simp only [contains_parse_iff, entries_text hp, List.mem_flatMap]
  constructor
  · rintro ⟨e, ⟨part, hpart, he⟩, hx⟩
    exact ⟨part, hpart, e, he, hx⟩
  · rintro ⟨part, hpart, e, he, hx⟩
    exact ⟨e, ⟨part, hpart, he⟩, hx⟩

/-- What lists an address has an entry that could be read. -/
theorem isEmpty_eq_false_of_contains {l : AllowList} {x : Address} (h : l.contains x = true) :
    l.isEmpty = false := by
  obtain ⟨r, hr, -⟩ := List.any_eq_true.mp h
  exact List.isEmpty_eq_false_iff.mpr (List.ne_nil_of_mem hr)

/-- A client on a list is on every list with more addresses. -/
theorem containsClient_mono {l l' : AllowList} (h : ∀ x, l.contains x = true → l'.contains x = true)
    {client : Option String} (hl : l.containsClient client = true) :
    l'.containsClient client = true := by
  unfold containsClient at hl ⊢
  split
  · next x hx =>
    rw [hx] at hl
    exact h x hl
  · rfl

end Net.AllowList

/-! ## Eligibility -/

namespace Entry
open Net

/-- An entry in which one condition has another allow-list. -/
structure WithList (e : Entry) (c : Condition) (l : AllowList) (e' : Entry) : Prop where
  /-- The scope stays. -/
  scope : e'.scope = e.scope
  /-- The conditions stay, in order, but for the list of the one. -/
  conditions : ∃ before after, e.conditions.items = before ++ c :: after ∧
    e'.conditions.items = before ++ { c with allowList := l } :: after

/-- **A longer list takes one condition out at most**, and brings none in. -/
theorem WithList.eligible {e e' : Entry} {c : Condition} {l : AllowList}
    (he : e.WithList c l e') (h : ∀ x, c.allowList.contains x = true → l.contains x = true)
    (r : Requester) :
    (e'.eligible r).map Condition.condset = (e.eligible r).map Condition.condset ∨
      (e'.eligible r).map Condition.condset =
        ((e.eligible r).map Condition.condset).erase c.condset := by
  obtain ⟨hscope, before, after, hitems, hitems'⟩ := he
  have heligible : ({ c with allowList := l } : Condition).isEligible e.scope r = true →
      c.isEligible e.scope r = true := by
    simp only [Condition.isEligible, Bool.and_eq_true, Bool.not_eq_true']
    rintro ⟨husers, hclient⟩
    refine ⟨husers, Bool.eq_false_iff.mpr fun hlisted => ?_⟩
    rw [AllowList.containsClient_mono h hlisted] at hclient
    cases hclient
  have hname : c.condset ∉ (before.filter fun x => x.isEligible e.scope r).map Condition.condset := by
    have hdistinct := e.conditions.distinct
    rw [hitems, List.map_append, List.map_cons, List.nodup_middle, List.nodup_cons,
      List.mem_append, not_or] at hdistinct
    exact fun hmem => hdistinct.1.1 ((List.filter_sublist.map _).subset hmem)
  rw [Entry.eligible, Entry.eligible, hscope, hitems, hitems']
  simp only [List.filter_append, List.filter_cons]
  cases hlost : ({ c with allowList := l } : Condition).isEligible e.scope r with
  | true =>
    left
    simp [heligible hlost]
  | false =>
    cases hc : c.isEligible e.scope r with
    | true =>
      right
      simp [List.erase_append_right _ hname]
    | false =>
      left
      rfl

end Entry

namespace Net.AllowList

/-- **The law of lists as unions.** -/
structure UnionLaw : Prop where
  /-- A line end joins two texts into one that lists what either lists. -/
  lines : ∀ (a b : String) (x : Address), (parse (a ++ "\n" ++ b)).contains x = true ↔
    (parse a).contains x = true ∨ (parse b).contains x = true
  /-- So does a comma outside comments. -/
  commas : ∀ (a b : String) (x : Address), '#' ∉ lastLine a →
    ((parse (a ++ "," ++ b)).contains x = true ↔
      (parse a).contains x = true ∨ (parse b).contains x = true)
  /-- A comment changes nothing. -/
  comments : ∀ (line comment : String) (x : Address), '\n' ∉ comment.toList →
    ((parse (line ++ "#" ++ comment)).contains x = true ↔ (parse line).contains x = true)
  /-- Two texts list the same addresses if the same parts with readable entries occur in both,
  in whatever order, however often, behind whichever separators, and beside whatever parts that
  cannot be read. -/
  layouts : ∀ p q : Layout, p.Separates → q.Separates →
    (∀ part, (parse part).isEmpty = false → (part ∈ p.parts ↔ part ∈ q.parts)) →
    ∀ x : Address, (parse p.text).contains x = true ↔ (parse q.text).contains x = true
  /-- If every part of one text occurs in another, giving a condition the other for the one can
  take this condition from the eligible ones, and does nothing else. -/
  eligible : ∀ p q : Layout, p.Separates → q.Separates → p.parts ⊆ q.parts →
    ∀ (e e' : Entry) (c : Condition) (r : Requester),
      c.allowList = parse p.text → e.WithList c (parse q.text) e' →
      (e'.eligible r).map Condition.condset = (e.eligible r).map Condition.condset ∨
        (e'.eligible r).map Condition.condset =
          ((e.eligible r).map Condition.condset).erase c.condset

/-- **The text of a list is a union of its entries**, whatever the text is. -/
theorem union_law : UnionLaw where
  lines a b := contains_iff_or (entries_append_separator .lineFeed (by rintro ⟨⟩))
  commas a b x h := contains_iff_or (entries_append_separator .comma fun _ => h) x
  comments line comment x h := by
    have hentries : entries (line ++ "#" ++ comment).toList = entries line.toList := by
      rw [String.toList_append, String.toList_append, List.append_assoc]
      exact entries_append_comment h line.toList
    rw [contains_parse_iff, hentries, ← contains_parse_iff]
  layouts p q hp hq hsame x := by
    rw [contains_text_iff hp, contains_text_iff hq]
    refine exists_congr fun part => and_congr_left fun hx => ?_
    exact hsame part (isEmpty_eq_false_of_contains hx)
  eligible p q hp hq hsub e e' c r hc he := by
    refine he.eligible (fun x hx => ?_) r
    rw [hc] at hx
    obtain ⟨part, hpart, hx⟩ := (contains_text_iff hp).mp hx
    exact (contains_text_iff hq).mpr ⟨part, hsub hpart, hx⟩

/-- A list with a comment, a comma and an entry that is none, and the same entries on lines of
their own. -/
theorem office_union :
    let mixed : Layout := ⟨[("# office\n10.0.0.1", .comma), ("192.168.", .returnFeed)], "no-ip"⟩
    let lines : Layout :=
      ⟨[("192.168.", .lineFeed), ("# office\n10.0.0.1", .lineFeed)], "192.168."⟩
    mixed.text = "# office\n10.0.0.1,192.168.\r\nno-ip" ∧
      lines.text = "192.168.\n# office\n10.0.0.1\n192.168." ∧
      ∀ x : Address, (parse mixed.text).contains x = true ↔ (parse lines.text).contains x = true := by
  refine ⟨by decide, by decide, union_law.layouts _ _ (by decide) (by decide) fun part hpart => ?_⟩
  have hnone : part ≠ "no-ip" := by
    rintro rfl
    exact absurd hpart (by decide)
  simp only [Layout.parts, List.map_cons, List.map_nil, List.cons_append, List.nil_append,
    List.mem_cons, List.not_mem_nil, hnone]
  tauto

end Net.AllowList

end SplitTest
