import RecordFilter.Proofs.Filter.Conditions
import RecordFilter.Proofs.Filter.Spelling
import RecordFilter.Proofs.Token.Succession

/-!
# Conditions cut out of their text

The span of a condition runs from its field name to its literal. What comes first in a text does not
depend on what stands in front of it, and a token stays what it is if the text ends behind it. So
the text of a condition is read alone as it is read in its place (`conditions_read_alone`).
-/

namespace RecordFilter

/-- A field name, and where it starts. -/
structure Mention where
  field : String
  start : Nat
  line : Nat
  column : Nat
deriving DecidableEq, Repr

/-- The mention that the token is, if it is a field name. -/
def Token.mention? (t : Token) : Option Mention :=
  match t.kind with
  | .field name => some ⟨name, t.span.start, t.span.line, t.span.column⟩
  | _ => none

def Condition.mention (c : Condition) : Mention :=
  ⟨c.field, c.span.start, c.span.line, c.span.column⟩

theorem Span.merge_of_le {s t : Span} (hstart : s.start ≤ t.start) (hstop : s.stop ≤ t.stop) :
    s.merge t = ⟨s.start, t.stop, s.line, s.column⟩ := by
  simp [Span.merge, hstart, hstop]

namespace Token

/-! ## Spans of tokens in a row -/

/-- Spans that are not empty and follow one another. -/
structure InRow (ts : List Token) : Prop where
  nonempty : ∀ t ∈ ts, t.span.start < t.span.stop
  pairwise : ts.Pairwise fun t u => t.span.stop ≤ u.span.start

theorem InRow.of_cons {t : Token} {ts : List Token} (h : InRow (t :: ts)) :
    InRow ts ∧ t.span.start < t.span.stop ∧ ∀ u ∈ ts, t.span.stop ≤ u.span.start := by
  obtain ⟨ht, hnonempty⟩ := List.forall_mem_cons.1 h.nonempty
  obtain ⟨hle, hpairwise⟩ := List.pairwise_cons.1 h.pairwise
  exact ⟨⟨hnonempty, hpairwise⟩, ht, hle⟩

/-- The span of a condition, and what follows it. -/
theorem InRow.merge {t o v : Token} {ts : List Token} (h : InRow (t :: o :: v :: ts)) :
    InRow ts ∧
      t.span.merge v.span = ⟨t.span.start, v.span.stop, t.span.line, t.span.column⟩ ∧
      t.span.start < v.span.stop ∧ ∀ u ∈ ts, v.span.stop ≤ u.span.start := by
  obtain ⟨hovs, ht, hle⟩ := h.of_cons
  obtain ⟨hvs, -, -⟩ := hovs.of_cons
  obtain ⟨hts, hv, hafter⟩ := hvs.of_cons
  have htv : t.span.stop ≤ v.span.start := hle v (by simp)
  exact ⟨hts, Span.merge_of_le (by omega) (by omega), by omega, hafter⟩

/-! ## A text that ends early -/

/-- A text may end behind its first token, or behind some that follow. -/
theorem Opens.lexes {a : Awaiting} {before s gap l rest u : List Char} {t : Token}
    {ks : List TokenKind} (h : Opens a before s t gap l rest) (hu : u <+: rest)
    (hks : Lexes (.after t.kind) u ks) : Lexes a (l ++ u) (t.kind :: ks) := by
  obtain ⟨c, r, rfl, hc⟩ := h.solid
  exact .piece hc ((steady_first? a).some_of_isPrefix h.first hu) hks

theorem spanAt_merge (before l m r : List Char) :
    (spanAt (.behind before) l).merge (spanAt (.behind (before ++ l ++ m)) r) =
      spanAt (.behind before) (l ++ (m ++ r)) := by
  have hlen : Text.byteLength (before ++ l ++ m) =
      Text.byteLength before + Text.byteLength l + Text.byteLength m := by
    rw [Text.byteLength_append, Text.byteLength_append]
  have hwhole : Text.byteLength (l ++ (m ++ r)) =
      Text.byteLength l + (Text.byteLength m + Text.byteLength r) := by
    rw [Text.byteLength_append, Text.byteLength_append]
  rw [Span.merge_of_le]
  · simp only [spanAt, Text.Position.behind, hlen, hwhole]
    simp only [Nat.add_assoc]
  · show Text.byteLength before ≤ Text.byteLength (before ++ l ++ m)
    omega
  · show Text.byteLength before + Text.byteLength l ≤
      Text.byteLength (before ++ l ++ m) + Text.byteLength r
    omega

end Token

/-- The tokens of the condition alone. -/
def Condition.parts (c : Condition) : List TokenKind :=
  [.field c.field, .operator c.operator, .ofLiteral c.value]

namespace Filter

open Token

section Spans

variable {us : List Token} {cs : List Condition}

theorem Lists.mentions (h : Lists us cs) (hus : InRow us) :
    us.filterMap Token.mention? = cs.map Condition.mention := by
  induction h with
  | nil => rfl
  | @delimiter t us cs ht _ ih =>
    have hnone : t.mention? = none := by
      unfold Token.mention?
      cases hk : t.kind with
      | field =>
        rw [hk] at ht
        cases ht
      | _ => rfl
    rw [List.filterMap_cons_none hnone]
    exact ih hus.of_cons.1
  | @condition t o v us cs name op value ht ho hv _ ih =>
    obtain ⟨htail, hmerge, -, -⟩ := hus.merge
    have htm : t.mention? = some ⟨name, t.span.start, t.span.line, t.span.column⟩ := by
      simp only [Token.mention?, ht]
    have hom : o.mention? = none := by simp only [Token.mention?, ho]
    have hvm : v.mention? = none := by cases value <;> simp only [Token.mention?, hv] <;> rfl
    rw [List.filterMap_cons_some htm, List.filterMap_cons_none hom, List.filterMap_cons_none hvm,
      ih htail, List.map_cons, Condition.mention, hmerge]

/-- A condition starts at a token. -/
theorem Lists.exists_start (h : Lists us cs) (hus : InRow us) :
    ∀ c ∈ cs, ∃ t ∈ us, c.span.start = t.span.start := by
  induction h with
  | nil => exact fun c hc => absurd hc List.not_mem_nil
  | delimiter ht _ ih =>
    intro c hc
    obtain ⟨u, hu, hstart⟩ := ih hus.of_cons.1 c hc
    exact ⟨u, List.mem_cons_of_mem _ hu, hstart⟩
  | @condition t o v us cs name op value ht ho hv _ ih =>
    obtain ⟨htail, hmerge, -, -⟩ := hus.merge
    intro c hc
    rcases List.mem_cons.1 hc with rfl | hc
    · exact ⟨t, List.mem_cons_self, by rw [hmerge]⟩
    · obtain ⟨u, hu, hstart⟩ := ih htail c hc
      exact ⟨u, by simp [hu], hstart⟩

theorem Lists.nonempty (h : Lists us cs) (hus : InRow us) :
    ∀ c ∈ cs, c.span.start < c.span.stop := by
  induction h with
  | nil => exact fun c hc => absurd hc List.not_mem_nil
  | delimiter ht _ ih => exact ih hus.of_cons.1
  | condition ht ho hv _ ih =>
    obtain ⟨htail, hmerge, hlt, -⟩ := hus.merge
    refine List.forall_mem_cons.2 ⟨?_, ih htail⟩
    rw [hmerge]
    exact hlt

theorem Lists.pairwise (h : Lists us cs) (hus : InRow us) :
    cs.Pairwise fun c d => c.span.stop ≤ d.span.start := by
  induction h with
  | nil => exact .nil
  | delimiter ht _ ih => exact ih hus.of_cons.1
  | condition ht ho hv hlists ih =>
    obtain ⟨htail, hmerge, -, hafter⟩ := hus.merge
    refine List.pairwise_cons.2 ⟨fun d hd => ?_, ih htail⟩
    obtain ⟨u, hu, hstart⟩ := hlists.exists_start htail d hd
    rw [hmerge, hstart]
    exact hafter u hu

end Spans

/-! ## The text of a condition -/

/-- The condition is what stands in its span. -/
def Occurs (s : List Char) (c : Condition) : Prop :=
  ∃ before text rest, s = before ++ (text ++ rest) ∧ c.span = spanAt (.behind before) text ∧
    Lexes .element text c.parts

/-- The three tokens of a condition, and what follows them. -/
theorem occurs_of_scans {before s : List Char} {t o v : Token} {ts : List Token} {name : String}
    {op : Operator} {value : Literal} (ht : t.kind = .field name) (ho : o.kind = .operator op)
    (hv : v.kind = .ofLiteral value) (h : Scans .element before s (t :: o :: v :: ts))
    (hts : ts ≠ []) :
    Occurs (before ++ s) ⟨name, op, value, t.span.merge v.span⟩ ∧
      ∃ b r, before ++ s = b ++ r ∧ Scans .element b r ts := by
  obtain ⟨gap, l, r, hfield, h⟩ := h.exists_opens (List.cons_ne_nil o (v :: ts))
  obtain ⟨gap', l', r', hop, h⟩ := h.exists_opens (List.cons_ne_nil v ts)
  obtain ⟨gap'', l'', r'', hvalue, h⟩ := h.exists_opens hts
  have hsplit : before ++ s = before ++ gap ++ (l ++ (gap' ++ (l' ++ (gap'' ++ l''))) ++ r'') := by
    rw [hfield.eq, hop.eq, hvalue.eq]
    simp
  have hlex : Lexes .element (l ++ (gap' ++ (l' ++ (gap'' ++ l'')))) [t.kind, o.kind, v.kind] := by
    -- backwards from the literal, behind which the text now ends
    have hend : Lexes (.after v.kind) [] [] := .nil
    have hlex'' := hvalue.lexes List.nil_prefix hend
    rw [List.append_nil] at hlex''
    have hlex' := hop.lexes ⟨r'', by rw [hvalue.eq, List.append_assoc]⟩
      (hlex''.separators hvalue.separators)
    exact hfield.lexes ⟨r'', by rw [hop.eq, hvalue.eq]; simp⟩ (hlex'.separators hop.separators)
  rw [ht, ho, hv] at hlex
  have hspan : t.span.merge v.span =
      spanAt (.behind (before ++ gap)) (l ++ (gap' ++ (l' ++ (gap'' ++ l'')))) := by
    have hmerge := spanAt_merge (before ++ gap) l (gap' ++ l' ++ gap'') l''
    rw [hfield.span_eq, hvalue.span_eq]
    simpa only [List.append_assoc] using hmerge
  rw [hv, after_ofLiteral] at h
  refine ⟨⟨before ++ gap, _, r'', hsplit, hspan, hlex⟩, _, r'', ?_, h⟩
  rw [hsplit]
  simp

theorem Lists.occurs {us : List Token} {cs : List Condition} (h : Lists us cs) {e : Token} :
    ∀ {before s}, Scans .element before s (us ++ [e]) → ∀ c ∈ cs, Occurs (before ++ s) c := by
  induction h with
  | nil => exact fun _ c hc => absurd hc List.not_mem_nil
  | delimiter ht hus ih =>
    intro before s hscans
    obtain ⟨gap, l, r, hopens, hscans⟩ := hscans.exists_opens (by simp)
    rw [after_of_isDelimiter ht] at hscans
    have hoccurs := ih hscans
    rw [hopens.eq]
    simpa only [List.append_assoc] using hoccurs
  | condition ht ho hv hus ih =>
    intro before s hscans
    obtain ⟨hoccurs, b, r, hsplit, hscans⟩ := occurs_of_scans ht ho hv hscans (by simp)
    rw [hsplit] at hoccurs ⊢
    exact List.forall_mem_cons.2 ⟨hoccurs, ih hscans⟩

/-! ## Whole texts -/

theorem exists_span_of_unplaced {f : Filter} {c : Condition}
    (h : f.unplaced = (comparison c).unplaced) :
    ∃ span, f = .comparison { c with span := span } := by
  cases f with
  | comparison d =>
    obtain ⟨field, op, value, span⟩ := d
    cases h
    exact ⟨span, rfl⟩
  | _ => cases h

/-- What stands in the span of a condition is read as the condition. -/
theorem Occurs.exists_parse_slice {input : String} {c : Condition} (h : Occurs input.toList c) :
    ∃ span, parse (c.span.slice input) = .ok (.comparison { c with span := span }) := by
  obtain ⟨before, text, rest, hsplit, hspan, hlex⟩ := h
  have hslice : c.span.slice input = String.ofList text := by rw [hspan, slice_spanAt hsplit]
  have hlex' : Lexes .element (c.span.slice input).toList c.parts := by
    rw [hslice, String.toList_ofList]
    exact hlex
  obtain ⟨f, hf, hfc⟩ :=
    (parse_of_spells hlex' (Spells.comparison c).conjunct.disjunct).1 maxDepth_pos
  obtain ⟨span, rfl⟩ := exists_span_of_unplaced hfc
  exact ⟨span, hf⟩

theorem Occurs.isValid {input : String} {c : Condition} (h : Occurs input.toList c) :
    String.Pos.Raw.IsValid input ⟨c.span.start⟩ ∧ String.Pos.Raw.IsValid input ⟨c.span.stop⟩ := by
  obtain ⟨before, text, rest, hsplit, hspan, -⟩ := h
  rw [hspan]
  exact isValid_spanAt hsplit

/-- The conditions of a text that is read are those of its field names, in order and each placed
where its field name is; no two spans overlap, and what stands in a span is read alone as the same
condition. -/
theorem conditions_read_alone {input : String} {f : Filter} (h : parse input = .ok f) :
    (∃ ts, scan input = .ok ts ∧
      ts.filterMap Token.mention? = f.conditions.map Condition.mention) ∧
    (f.conditions.Pairwise fun c d => c.span.stop ≤ d.span.start) ∧
    ∀ c ∈ f.conditions, c.span.start < c.span.stop ∧
      (String.Pos.Raw.IsValid input ⟨c.span.start⟩ ∧ String.Pos.Raw.IsValid input ⟨c.span.stop⟩) ∧
      ∃ span, parse (c.span.slice input) = .ok (.comparison { c with span := span }) := by
  obtain ⟨ts, hscan, hof⟩ := bind_eq_ok.1 h
  obtain ⟨hderives, -⟩ := (readOr_eq_ok_iff maxDepth_pos _).1 (ofTokens_eq_ok.1 hof)
  have htiles := tiles_of_scan hscan
  obtain ⟨us, e, rfl, hus, he, -⟩ := htiles.ends
  rw [beforeEnd_append hus he] at hderives
  have hlists := hderives.lists
  have hrow : InRow us := by
    obtain ⟨hpairwise, -, hend⟩ := List.pairwise_append.1 htiles.pairwise
    exact ⟨fun t ht => (hend t ht e (List.mem_singleton_self e)).1, hpairwise.imp And.right⟩
  have hnone : e.mention? = none := by simp only [Token.mention?, he]
  have hoccurs := hlists.occurs (scans_of_scan hscan)
  refine ⟨⟨us ++ [e], hscan, ?_⟩, hlists.pairwise hrow, fun c hc => ?_⟩
  · rw [List.filterMap_append, hlists.mentions hrow, List.filterMap_cons_none hnone,
      List.filterMap_nil, List.append_nil]
  · exact ⟨hlists.nonempty hrow c hc, (hoccurs c hc).isValid, (hoccurs c hc).exists_parse_slice⟩

/-- A literal that ends in an escaped space and another one, in a group and in front of a connector
that is left out. -/
theorem conditions_read_alone_escaped_space :
    let input := "(A ==x\\  )\nB.c>null"
    let a : Condition := ⟨"A", .equal, .text "x ", ⟨1, 9, 1, 2⟩⟩
    let b : Condition := ⟨"B.c", .greater, .null, ⟨11, 19, 2, 1⟩⟩
    parse input = .ok (.and (.group (.comparison a)) (.comparison b)) ∧
    a.span.slice input = "A ==x\\  " ∧
    (∃ span, parse "A ==x\\  " = .ok (.comparison { a with span := span })) ∧
    a.span.stop ≤ b.span.start := by
  intro input a b
  have hchars : input.toList = ['(', 'A', ' ', '=', '=', 'x', '\\', ' ', ' ', ')', '\n', 'B', '.',
      'c', '>', 'n', 'u', 'l', 'l'] := by decide
  have hparse : parse input = .ok (.and (.group (.comparison a)) (.comparison b)) := by
    unfold parse scan
    rw [hchars]
    cbv
  have hsplit : input.toList = ['('] ++ ("A ==x\\  ".toList ++ ")\nB.c>null".toList) := by decide
  have hslice : a.span.slice input = "A ==x\\  " :=
    (slice_spanAt hsplit).trans String.ofList_toList
  obtain ⟨-, hpairwise, halone⟩ := conditions_read_alone hparse
  have hle := (List.pairwise_cons.1 hpairwise).1 b List.mem_cons_self
  obtain ⟨-, -, hread⟩ := halone a List.mem_cons_self
  rw [hslice] at hread
  exact ⟨hparse, hslice, hread, hle⟩

end Filter

end RecordFilter
