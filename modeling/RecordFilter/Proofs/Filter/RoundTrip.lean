import RecordFilter.Proofs.Filter.Normal
import RecordFilter.Proofs.Token.Condition

/-!
# Rendered filters are read back

The text of a tree is cut into the kinds of tokens that its conditions, connectors and parentheses
stand for (`lexes_render`), and these are the kinds of its normal tree (`spells_kinds`). So a
rendered tree reads back as its normal tree, which has the same text. Only the empty text as a
literal breaks this: it has no written form, and leaves its condition without a literal.
-/

namespace RecordFilter

namespace Filter

/-- The tokens between parentheses. -/
def parenthesized (ks : List TokenKind) : List TokenKind :=
  .leftParen :: (ks ++ [.rightParen])

/-- The tokens that the rendered tree is cut into. -/
def kinds : Filter → List TokenKind
  | comparison c => c.kinds
  | and l r =>
    (if l.isOr then parenthesized l.kinds else l.kinds) ++ .and ::
      (if r.isOr then parenthesized r.kinds else r.kinds)
  | or l r => l.kinds ++ .or :: r.kinds
  | group f => parenthesized f.kinds

end Filter

open Token in
theorem Token.Lexes.inParens {s : String} {ks : List TokenKind}
    (h : Lexes .element s.toList ks) :
    Lexes .element (Filter.inParens s).toList (Filter.parenthesized ks) := by
  have hclosed : Lexes .element (s.toList ++ ')' :: []) (ks ++ .rightParen :: []) :=
    h.append rfl .nil
  have htext : (Filter.inParens s).toList = '(' :: (s.toList ++ [')']) := by
    rw [Filter.inParens, String.toList_append, String.toList_append]
    rfl
  rw [htext]
  exact hclosed.delimiter rfl _

open Token in
/-- Two texts with a connector between them. -/
theorem Token.Lexes.connect {s t : String} {ks ks' : List TokenKind} (c : Connector)
    (hs : Lexes .element s.toList ks) (ht : Lexes .element t.toList ks') :
    Lexes .element (s ++ c.symbol ++ t).toList
      (ks ++ (match c with | .and => .and | .or => .or) :: ks') := by
  rw [String.toList_append, String.toList_append, List.append_assoc]
  cases c with
  | and => exact hs.append rfl ht
  | or => exact hs.append rfl ht

namespace Filter

/-- The names that the conditions of the tree are on have the form of the lexer's. -/
def HasFieldNames (f : Filter) : Prop :=
  ∀ c ∈ f.conditions, Token.IsFieldName c.field.toList

theorem lexes_render {f : Filter} (h : f.HasFieldNames) :
    Token.Lexes .element f.render.toList f.kinds := by
  induction f with
  | comparison c => exact Condition.lexes_render (h c List.mem_cons_self)
  | and l r ihl ihr =>
    have hl := ihl fun c hc => h c (List.mem_append_left _ hc)
    have hr := ihr fun c hc => h c (List.mem_append_right _ hc)
    have hoperand : ∀ g : Filter, Token.Lexes .element g.render.toList g.kinds →
        Token.Lexes .element (if g.isOr then inParens g.render else g.render).toList
          (if g.isOr then parenthesized g.kinds else g.kinds) := by
      intro g hg
      split_ifs
      · exact hg.inParens
      · exact hg
    exact (hoperand l hl).connect .and (hoperand r hr)
  | or l r ihl ihr =>
    have hl := ihl fun c hc => h c (List.mem_append_left _ hc)
    have hr := ihr fun c hc => h c (List.mem_append_right _ hc)
    exact hl.connect .or hr
  | group f ih => exact (ih h).inParens

/-- The kinds of a rendered tree are those of its normal tree, if every literal has a written
form. -/
theorem spells_kinds {f : Filter} (h : ∀ c ∈ f.conditions, c.value ≠ .text "") :
    Spells f.nonterminal f.kinds f.normal := by
  induction f with
  | comparison c =>
    have hc := h c List.mem_cons_self
    rw [kinds, Condition.kinds, if_neg hc]
    exact .comparison c
  | and l r ihl ihr =>
    have hl := ihl fun c hc => h c (List.mem_append_left _ hc)
    have hr := ihr fun c hc => h c (List.mem_append_right _ hc)
    have hoperand : ∀ g : Filter, Spells g.nonterminal g.kinds g.normal →
        Spells .conjunction (if g.isOr then parenthesized g.kinds else g.kinds)
          (if g.isOr then group g.normal else g.normal) := by
      intro g hg
      split_ifs with hor
      · exact hg.toDisjunction.group.conjunct
      · refine hg.toConjunction fun hn => hor ?_
        cases g with
        | or => rfl
        | _ => cases hn
    exact (hoperand l hl).appendAnd (hoperand r hr)
  | or l r ihl ihr =>
    have hl := ihl fun c hc => h c (List.mem_append_left _ hc)
    have hr := ihr fun c hc => h c (List.mem_append_right _ hc)
    exact hl.toDisjunction.appendOr hr.toDisjunction
  | group f ih => exact (ih h).toDisjunction.group

/-- A rendered tree reads back as its normal tree, or is rejected for its depth. The normal tree has
the text of the tree, and its conditions in their order. -/
theorem parse_render {f : Filter} (hfields : f.HasFieldNames)
    (hvalues : ∀ c ∈ f.conditions, c.value ≠ .text "") :
    f.normal.render = f.render ∧ f.normal.conditions = f.conditions ∧
    (f.normal.depth ≤ 512 → ∃ u, parse f.render = .ok u ∧ u.unplaced = f.normal.unplaced) ∧
    (512 < f.normal.depth → ∃ e, parse f.render = .error e ∧
      e.fault.message = "filter nested too deeply") := by
  have hread := parse_of_spells (lexes_render hfields) (spells_kinds hvalues).toDisjunction
  refine ⟨render_normal f, conditions_normal f, hread.1, fun hd => ?_⟩
  obtain ⟨span, hspan⟩ := hread.2 hd
  exact ⟨_, hspan, rfl⟩

/-- A disjunction below a conjunction, with literals that begin like an operator, like a group and
like `null`. -/
theorem parse_render_disjunction_below_conjunction :
    ∃ u, parse (and
        (or (comparison ⟨"A", .equal, .text "*=", ⟨0, 0, 0, 0⟩⟩)
          (comparison ⟨"B", .less, .text "(x) ", ⟨0, 0, 0, 0⟩⟩))
        (comparison ⟨"C", .notEqual, .text "null", ⟨0, 0, 0, 0⟩⟩)).render = .ok u ∧
      u.unplaced = and
        (group (or (comparison ⟨"A", .equal, .text "*=", ⟨0, 0, 0, 0⟩⟩)
          (comparison ⟨"B", .less, .text "(x) ", ⟨0, 0, 0, 0⟩⟩)))
        (comparison ⟨"C", .notEqual, .text "null", ⟨0, 0, 0, 0⟩⟩) := by
  have hname : ∀ c : Char, Token.isNameStart c = true →
      Token.IsFieldName (String.singleton c).toList := by
    intro c hc
    rw [String.toList_singleton]
    exact .single (Token.isName_singleton hc)
  refine (parse_render ?_ ?_).2.2.1 (by decide)
  · intro c hc
    simp only [conditions, List.mem_cons, List.mem_append, List.not_mem_nil, or_false] at hc
    rcases hc with (rfl | rfl) | rfl
    · exact hname 'A' (by decide)
    · exact hname 'B' (by decide)
    · exact hname 'C' (by decide)
  · decide

/-! ## Texts that were read once -/

/-- A condition carries what its tokens carry. -/
theorem Derives.mem_kinds {n : Nonterminal} {us : List Token} {f : Filter} (h : Derives n us f) :
    ∀ c ∈ f.conditions, .field c.field ∈ us.map Token.kind ∧
      .ofLiteral c.value ∈ us.map Token.kind := by
  induction h with
  | comparison ht ho hv =>
    intro c hc
    rw [List.mem_singleton.1 hc, ← ht, ← hv]
    simp
  | group ht hf hu ih =>
    intro c hc
    obtain ⟨hfield, hvalue⟩ := ih c hc
    rw [List.map_cons, List.map_append]
    simp only [List.mem_cons, List.mem_append, hfield, hvalue, true_or, or_true, and_self]
  | conjunct hf ih => exact ih
  | disjunct hf ih => exact ih
  | and hl ht hr ihl ihr | or hl ht hr ihl ihr =>
    intro c hc
    rw [List.map_append, List.map_cons]
    rcases List.mem_append.1 hc with hc | hc
    · obtain ⟨hfield, hvalue⟩ := ihl c hc
      simp only [List.mem_append, hfield, hvalue, true_or, and_self]
    · obtain ⟨hfield, hvalue⟩ := ihr c hc
      simp only [List.mem_append, List.mem_cons, hfield, hvalue, or_true, and_self]
  | adjacent hl hr ihl ihr =>
    intro c hc
    rw [List.map_append]
    rcases List.mem_append.1 hc with hc | hc
    · obtain ⟨hfield, hvalue⟩ := ihl c hc
      simp only [List.mem_append, hfield, hvalue, true_or, and_self]
    · obtain ⟨hfield, hvalue⟩ := ihr c hc
      simp only [List.mem_append, hfield, hvalue, or_true, and_self]

/-- No rendered tree is cut into an empty literal. -/
theorem value_empty_not_mem_kinds (f : Filter) : .value "" ∉ f.kinds := by
  have hparens : ∀ ks : List TokenKind, .value "" ∉ ks → .value "" ∉ parenthesized ks := by
    intro ks hks
    simpa [parenthesized] using hks
  induction f with
  | comparison c =>
    intro h
    rw [kinds, Condition.kinds] at h
    split_ifs at h with hc
    · simp at h
    · cases hv : c.value with
      | null => simp [hv, TokenKind.ofLiteral] at h
      | text s =>
        rw [hv] at h hc
        simp only [TokenKind.ofLiteral, List.mem_cons, reduceCtorEq, TokenKind.value.injEq,
          List.not_mem_nil, or_false, false_or] at h
        exact hc (by rw [h])
  | and l r ihl ihr =>
    have hoperand : ∀ g : Filter, .value "" ∉ g.kinds →
        .value "" ∉ (if g.isOr then parenthesized g.kinds else g.kinds) := by
      intro g hg
      split_ifs
      · exact hparens g.kinds hg
      · exact hg
    rw [kinds, List.mem_append, List.mem_cons]
    rintro (h | h | h)
    · exact hoperand l ihl h
    · cases h
    · exact hoperand r ihr h
  | or l r ihl ihr =>
    rw [kinds, List.mem_append, List.mem_cons]
    rintro (h | h | h)
    · exact ihl h
    · cases h
    · exact ihr h
  | group f ih => exact hparens f.kinds ih

theorem hasFieldNames_of_derives {n : Nonterminal} {s : List Char} {us : List Token} {f : Filter}
    (hlex : Token.Lexes .element s (us.map Token.kind)) (h : Derives n us f) :
    f.HasFieldNames :=
  fun c hc => hlex.isFieldName c.field (h.mem_kinds c hc).1

/-- A tree that was read and rendered reads back as itself exactly if no literal of it is empty. A
text can hold such a literal: unescaped blank characters that are no separators. -/
theorem parse_render_parse {s : String} {f : Filter} (h : parse s = .ok f) :
    (∃ u, parse f.render = .ok u ∧ u.unplaced = f.unplaced) ↔
      ∀ c ∈ f.conditions, c.value ≠ .text "" := by
  obtain ⟨us, hlex, hd, hdepth⟩ := derives_of_parse h
  have hfields := hasFieldNames_of_derives hlex hd
  constructor
  · rintro ⟨u, hu, huf⟩ c hc hempty
    obtain ⟨vs, hlex', hd', -⟩ := derives_of_parse hu
    have hkinds : vs.map Token.kind = f.kinds := hlex'.unique (lexes_render hfields)
    have hmem : c.unplaced ∈ u.conditions.map Condition.unplaced := by
      rw [← conditions_unplaced, huf, conditions_unplaced]
      exact List.mem_map_of_mem hc
    obtain ⟨c', hc', hcc'⟩ := List.mem_map.1 hmem
    have hvalue : c'.value = .text "" := by
      rw [← hempty]
      show c'.unplaced.value = c.unplaced.value
      rw [hcc']
    have htoken := (hd'.mem_kinds c' hc').2
    rw [hkinds, hvalue] at htoken
    exact value_empty_not_mem_kinds f htoken
  · intro hvalues
    have hread := parse_of_spells (lexes_render hfields) (spells_kinds hvalues).toDisjunction
    rw [hd.normal_eq] at hread
    exact hread.1 hdepth

theorem parse_render_parse_number :
    parse "A=1" = .ok (comparison ⟨"A", .equalIgnoringCase, .text "1", ⟨0, 3, 1, 1⟩⟩) ∧
    ∃ u, parse (comparison ⟨"A", .equalIgnoringCase, .text "1", ⟨0, 3, 1, 1⟩⟩).render = .ok u ∧
      u.unplaced = comparison ⟨"A", .equalIgnoringCase, .text "1", ⟨0, 0, 0, 0⟩⟩ := by
  have hparse : parse "A=1" =
      .ok (comparison ⟨"A", .equalIgnoringCase, .text "1", ⟨0, 3, 1, 1⟩⟩) := by cbv
  exact ⟨hparse, (parse_render_parse hparse).2 (by decide)⟩

/-- A no-break space is no separator, so it is a literal; it is trimmed to the empty text, and the
rendered condition has no literal. -/
theorem parse_render_parse_no_break_space :
    parse "A=\u00a0" = .ok (comparison ⟨"A", .equalIgnoringCase, .text "", ⟨0, 4, 1, 1⟩⟩) ∧
    ¬∃ u, parse (comparison ⟨"A", .equalIgnoringCase, .text "", ⟨0, 4, 1, 1⟩⟩).render = .ok u ∧
      u.unplaced = comparison ⟨"A", .equalIgnoringCase, .text "", ⟨0, 0, 0, 0⟩⟩ := by
  have hrender :
      (comparison ⟨"A", .equalIgnoringCase, .text "", ⟨0, 4, 1, 1⟩⟩).render = "A=" := by decide
  have hparse : parse "A=" = .error ⟨.missingValue "A" .equalIgnoringCase, ⟨2, 2, 1, 3⟩⟩ := by cbv
  refine ⟨by cbv, ?_⟩
  rintro ⟨u, hu, -⟩
  rw [hrender, hparse] at hu
  cases hu

end Filter

end RecordFilter
