import RecordFilter.Proofs.Filter.RoundTrip
import RecordFilter.Proofs.Predicate.Matcher

/-!
# Texts put together

Two filter texts can be joined as texts: in parentheses with or without a connector between them,
or by a bare `|`. The joined text is read as the trees of the two, joined (`Joining.tree`), and what
it selects follows from what each of them selects.
-/

namespace RecordFilter

/-- A way to put two filter texts together. -/
inductive Joining where
  | and
  | adjacent
  | or
  | bareOr
deriving DecidableEq, Repr

namespace Joining

open RecordFilter.Filter

def text : Joining → String → String → String
  | and, s, t => "(" ++ s ++ ")&(" ++ t ++ ")"
  | adjacent, s, t => "(" ++ s ++ ")(" ++ t ++ ")"
  | or, s, t => "(" ++ s ++ ")|(" ++ t ++ ")"
  | bareOr, s, t => s ++ "|" ++ t

/-- What the joined text matches, by what the two match. -/
def truth : Joining → Bool → Bool → Bool
  | and, p, q | adjacent, p, q => p && q
  | or, p, q | bareOr, p, q => p || q

/-- The tree of the joined text. -/
def tree : Joining → Filter → Filter → Filter
  | and, f, g | adjacent, f, g => .and (group f) (group g)
  | or, f, g => .or (group f) (group g)
  | bareOr, f, g => appendOr f g

/-- The kinds of the tokens of the joined text. -/
def kinds : Joining → List TokenKind → List TokenKind → List TokenKind
  | and, ks, ks' => parenthesized ks ++ .and :: parenthesized ks'
  | adjacent, ks, ks' => parenthesized ks ++ parenthesized ks'
  | or, ks, ks' => parenthesized ks ++ .or :: parenthesized ks'
  | bareOr, ks, ks' => ks ++ .or :: ks'

/-- The joining by a connector between parentheses. -/
def between : Connector → Joining
  | .and => and
  | .or => or

theorem text_between (c : Connector) (s t : String) :
    (between c).text s t = inParens s ++ c.symbol ++ inParens t := by
  refine String.toList_inj.1 ?_
  cases c <;> simp [between, text, inParens, Connector.symbol]

theorem toList_text_adjacent (s t : String) :
    (adjacent.text s t).toList = (inParens s).toList ++ '(' :: (t.toList ++ ')' :: []) := by
  simp [text, inParens]

theorem lexes (j : Joining) {s t : String} {ks ks' : List TokenKind}
    (hs : Token.Lexes .element s.toList ks) (ht : Token.Lexes .element t.toList ks') :
    Token.Lexes .element (j.text s t).toList (j.kinds ks ks') := by
  cases j with
  | and =>
    show Token.Lexes .element ((between .and).text s t).toList _
    rw [text_between]
    exact hs.inParens.connect .and ht.inParens
  | or =>
    show Token.Lexes .element ((between .or).text s t).toList _
    rw [text_between]
    exact hs.inParens.connect .or ht.inParens
  | bareOr => exact hs.connect .or ht
  | adjacent =>
    have hclosed : Token.Lexes .element (t.toList ++ ')' :: []) (ks' ++ .rightParen :: []) :=
      ht.append rfl .nil
    rw [toList_text_adjacent]
    exact hs.inParens.append rfl hclosed

theorem spells (j : Joining) {ks ks' : List TokenKind} {f g : Filter}
    (hf : Spells .disjunction ks f) (hg : Spells .disjunction ks' g) :
    Spells .disjunction (j.kinds ks ks') (j.tree f g) := by
  cases j with
  | and => exact (hf.group.conjunct.and hg.group).disjunct
  | adjacent => exact (hf.group.conjunct.adjacent hg.group).disjunct
  | or => exact hf.group.conjunct.disjunct.or hg.group.conjunct
  | bareOr => exact hf.appendOr hg

theorem depth_tree {j : Joining} (hj : j ≠ bareOr) (f g : Filter) :
    (j.tree f g).depth = max f.depth g.depth + 2 := by
  have hmax : max (f.depth + 1) (g.depth + 1) + 1 = max f.depth g.depth + 2 := by omega
  cases j with
  | bareOr => exact absurd rfl hj
  | _ => exact hmax

theorem matcher_tree {α : Type} (m : Mapper α) (j : Joining) (f g : Filter) :
    (j.tree f g).matcher m = combineMatchers j.truth (f.matcher m) (g.matcher m) := by
  cases j with
  | and | adjacent =>
    rw [tree, matcher_and, matcher_group, matcher_group]
    rfl
  | or =>
    rw [tree, matcher_or, matcher_group, matcher_group]
    rfl
  | bareOr =>
    rw [tree, matcher_appendOr]
    rfl

/-- A joined text is read as the joined tree, or is too deep. -/
theorem parse_text {s t : String} {f g : Filter} (hf : parse s = .ok f) (hg : parse t = .ok g)
    (j : Joining) :
    ((j.tree f g).depth ≤ maxDepth →
      ∃ u, parse (j.text s t) = .ok u ∧ u.unplaced = (j.tree f g).unplaced) ∧
    (maxDepth < (j.tree f g).depth → ∃ span, parse (j.text s t) = .error ⟨.tooDeep, span⟩) := by
  obtain ⟨us, hus, hdf, -⟩ := derives_of_parse hf
  obtain ⟨vs, hvs, hdg, -⟩ := derives_of_parse hg
  exact parse_of_spells (j.lexes hus hvs) (j.spells hdf.spells hdg.spells)

/-- What a joined text matches, once it is read. -/
theorem matcher_of_parse {α : Type} (m : Mapper α) {s t : String} {f g u : Filter}
    (hf : parse s = .ok f) (hg : parse t = .ok g) (j : Joining) (hu : parse (j.text s t) = .ok u) :
    u.matcher m = combineMatchers j.truth (f.matcher m) (g.matcher m) := by
  obtain ⟨hread, hdeep⟩ := parse_text hf hg j
  rw [← matcher_tree]
  refine matcher_eq_of_unplaced m ?_
  by_cases hd : (j.tree f g).depth ≤ maxDepth
  · obtain ⟨u', hu', huf⟩ := hread hd
    rw [hu] at hu'
    cases hu'
    exact huf
  · obtain ⟨span, hspan⟩ := hdeep (Nat.not_le.1 hd)
    rw [hu] at hspan
    cases hspan

/-- The outcomes of compiling a joined text, by those of compiling the two: the error of the first
comes before that of the second, and without an error both are asked. -/
structure Compiles {α : Type} (m : Mapper α) (j : Joining) (s t : String) : Prop where
  left_error : ∀ e, m.compile s = .error e → m.compile (j.text s t) = .error e
  right_error : ∀ p e, m.compile s = .ok p → m.compile t = .error e →
    m.compile (j.text s t) = .error e
  holds_eq : ∀ p q, m.compile s = .ok p → m.compile t = .ok q →
    ∃ r, m.compile (j.text s t) = .ok r ∧ ∀ x, r.holds x = j.truth (p.holds x) (q.holds x)

theorem compiles_of_parse {α : Type} (m : Mapper α) {s t : String} {f g u : Filter}
    (hf : parse s = .ok f) (hg : parse t = .ok g) (j : Joining) (hu : parse (j.text s t) = .ok u) :
    Compiles m j s t := by
  have hmatch := matcher_of_parse m hf hg j hu
  constructor
  · intro e he
    obtain ⟨b, hb, rfl⟩ := (m.compile_eq_error_iff hf).1 he
    refine (m.compile_eq_error_iff hu).2 ⟨b, ?_, rfl⟩
    rw [hmatch, hb]
    rfl
  · intro p e hp he
    obtain ⟨b, hb, rfl⟩ := (m.compile_eq_error_iff hg).1 he
    refine (m.compile_eq_error_iff hu).2 ⟨b, ?_, rfl⟩
    rw [hmatch, m.matcher_of_compile hf hp, hb]
    rfl
  · intro p q hp hq
    rw [m.matcher_of_compile hf hp, m.matcher_of_compile hg hq] at hmatch
    obtain ⟨r, hr, hholds⟩ := m.compile_of_matcher hu hmatch
    exact ⟨r, hr, congrFun hholds⟩

theorem select_select {α : Type} {p q r : Predicate α}
    (h : ∀ x, r.holds x = (p.holds x && q.holds x)) (xs : List α) :
    q.select (p.select xs) = r.select xs := by
  unfold Predicate.select
  rw [List.filter_filter]
  refine List.filter_congr fun x _ => ?_
  rw [h, Bool.and_comm]

/-- One text after the other selects what the two joined by `&` select. -/
theorem apply_of_compiles {α : Type} {m : Mapper α} {s t : String} (h : Compiles m and s t)
    (xs : List α) : m.apply (and.text s t) xs = m.apply s xs >>= m.apply t := by
  unfold Mapper.apply
  cases hs : m.compile s with
  | error e =>
    rw [h.left_error e hs]
    rfl
  | ok p =>
    cases ht : m.compile t with
    | error e =>
      rw [h.right_error p e hs ht]
      rfl
    | ok q =>
      obtain ⟨r, hr, hholds⟩ := h.holds_eq p q hs ht
      rw [hr]
      exact congrArg Except.ok (select_select hholds xs).symm

/-- Two texts that are read can be joined in each way, unless the whole is too deep; then the joined
text compiles as the two do and matches what they match. -/
theorem joined_text {α : Type} (m : Mapper α) {s t : String} {f g : Filter}
    (hf : parse s = .ok f) (hg : parse t = .ok g) :
    (∀ j : Joining,
      ((∃ u, parse (j.text s t) = .ok u) ∨
        ∃ e, parse (j.text s t) = .error e ∧ e.fault.message = "filter nested too deeply") ∧
      (j ≠ bareOr →
        ((∃ e, parse (j.text s t) = .error e) ↔ 512 < max f.depth g.depth + 2)) ∧
      (∀ u, parse (j.text s t) = .ok u → Compiles m j s t)) ∧
    (max f.depth g.depth + 2 ≤ 512 →
      ∀ xs, m.apply (and.text s t) xs = m.apply s xs >>= m.apply t) := by
  refine ⟨fun j => ⟨?_, ?_, fun u hu => compiles_of_parse m hf hg j hu⟩, ?_⟩
  · by_cases hd : (j.tree f g).depth ≤ maxDepth
    · obtain ⟨u, hu, -⟩ := (parse_text hf hg j).1 hd
      exact .inl ⟨u, hu⟩
    · obtain ⟨span, hspan⟩ := (parse_text hf hg j).2 (Nat.not_le.1 hd)
      exact .inr ⟨_, hspan, rfl⟩
  · intro hj
    rw [← depth_tree hj f g]
    constructor
    · rintro ⟨e, he⟩
      by_contra hd
      obtain ⟨u, hu, -⟩ := (parse_text hf hg j).1 (Nat.not_lt.1 hd)
      rw [hu] at he
      cases he
    · intro hd
      obtain ⟨span, hspan⟩ := (parse_text hf hg j).2 hd
      exact ⟨_, hspan⟩
  · intro hd
    rw [← depth_tree (j := and) (by decide) f g] at hd
    obtain ⟨u, hu, -⟩ := (parse_text hf hg and).1 hd
    exact apply_of_compiles (compiles_of_parse m hf hg and hu)

theorem joined_text_of_two_conditions :
    parse "A=1" = .ok (comparison ⟨"A", .equalIgnoringCase, .text "1", ⟨0, 3, 1, 1⟩⟩) ∧
    parse "B>2" = .ok (comparison ⟨"B", .greater, .text "2", ⟨0, 3, 1, 1⟩⟩) ∧
    ∀ (m : Mapper String) (xs : List String),
      m.apply "(A=1)&(B>2)" xs = m.apply "A=1" xs >>= m.apply "B>2" := by
  have hs : parse "A=1" = .ok (comparison ⟨"A", .equalIgnoringCase, .text "1", ⟨0, 3, 1, 1⟩⟩) := by
    cbv
  have ht : parse "B>2" = .ok (comparison ⟨"B", .greater, .text "2", ⟨0, 3, 1, 1⟩⟩) := by cbv
  exact ⟨hs, ht, fun m xs => (joined_text m hs ht).2 (by decide) xs⟩

end Joining

end RecordFilter
