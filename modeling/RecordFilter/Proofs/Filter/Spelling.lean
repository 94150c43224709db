import RecordFilter.Proofs.Filter.Completeness
import RecordFilter.Proofs.Token.Gluing

/-!
# Trees by the kinds of their tokens

Which tree a text has, but for its places, depends on the kinds of its tokens alone. `Spells n ks f`
says that any tokens of the kinds `ks` derive `f` up to places; it is put together as derivations
are. With `Token.Lexes` it says how a whole text is read.
-/

namespace RecordFilter

/-- The condition without its place. -/
def Condition.unplaced (c : Condition) : Condition :=
  { c with span := ⟨0, 0, 0, 0⟩ }

namespace Filter

/-- The tree without the places of its conditions. -/
def unplaced : Filter → Filter
  | comparison c => comparison c.unplaced
  | and l r => and l.unplaced r.unplaced
  | or l r => or l.unplaced r.unplaced
  | group f => group f.unplaced

@[simp] theorem depth_unplaced (f : Filter) : f.unplaced.depth = f.depth := by
  induction f with
  | comparison c => rfl
  | and l r ihl ihr | or l r ihl ihr => simp only [unplaced, depth, ihl, ihr]
  | group f ih => simp only [unplaced, depth, ih]

theorem conditions_unplaced (f : Filter) :
    f.unplaced.conditions = f.conditions.map Condition.unplaced := by
  induction f with
  | comparison c => rfl
  | and l r ihl ihr | or l r ihl ihr => simp only [unplaced, conditions, ihl, ihr, List.map_append]
  | group f ih => exact ih

theorem depth_eq_of_unplaced {f g : Filter} (h : f.unplaced = g.unplaced) : f.depth = g.depth := by
  rw [← depth_unplaced f, h, depth_unplaced]

/-! ## Kinds of tokens with their tree -/

/-- Tokens of these kinds are of the nonterminal, and their tree is this one but for its places. -/
def Spells (n : Nonterminal) (ks : List TokenKind) (f : Filter) : Prop :=
  ∀ us : List Token, us.map Token.kind = ks → ∃ g, Derives n us g ∧ g.unplaced = f.unplaced

namespace Spells

variable {ks ks' : List TokenKind} {f l r : Filter}

theorem comparison (c : Condition) :
    Spells .primary [.field c.field, .operator c.operator, .ofLiteral c.value] (.comparison c) := by
  intro us hus
  obtain ⟨t, us, rfl, ht, hus⟩ := List.map_eq_cons_iff.1 hus
  obtain ⟨o, us, rfl, ho, hus⟩ := List.map_eq_cons_iff.1 hus
  obtain ⟨v, us, rfl, hv, hus⟩ := List.map_eq_cons_iff.1 hus
  rw [List.map_eq_nil_iff.1 hus]
  exact ⟨_, .comparison ht ho hv, rfl⟩

theorem group (h : Spells .disjunction ks f) :
    Spells .primary (.leftParen :: (ks ++ [.rightParen])) (.group f) := by
  intro us hus
  obtain ⟨t, us, rfl, ht, hus⟩ := List.map_eq_cons_iff.1 hus
  obtain ⟨vs, ws, rfl, hvs, hws⟩ := List.map_eq_append_iff.1 hus
  obtain ⟨u, us, rfl, hu, hus⟩ := List.map_eq_cons_iff.1 hws
  obtain ⟨g, hg, hgf⟩ := h vs hvs
  rw [List.map_eq_nil_iff.1 hus]
  exact ⟨_, .group ht hg hu, congrArg Filter.group hgf⟩

theorem conjunct (h : Spells .primary ks f) : Spells .conjunction ks f := by
  intro us hus
  obtain ⟨g, hg, hgf⟩ := h us hus
  exact ⟨g, .conjunct hg, hgf⟩

theorem disjunct (h : Spells .conjunction ks f) : Spells .disjunction ks f := by
  intro us hus
  obtain ⟨g, hg, hgf⟩ := h us hus
  exact ⟨g, .disjunct hg, hgf⟩

/-- Tokens of the kinds of two chains with a connector between them are cut there. -/
theorem exists_split {n n' : Nonterminal} {k : TokenKind} (hl : Spells n ks l)
    (hr : Spells n' ks' r) {us : List Token} (hus : us.map Token.kind = ks ++ k :: ks') :
    ∃ vs t ws g h, us = vs ++ t :: ws ∧ t.kind = k ∧ Derives n vs g ∧ Derives n' ws h ∧
      g.unplaced = l.unplaced ∧ h.unplaced = r.unplaced := by
  obtain ⟨vs, ws, rfl, hvs, hws⟩ := List.map_eq_append_iff.1 hus
  obtain ⟨t, ws, rfl, ht, hws⟩ := List.map_eq_cons_iff.1 hws
  obtain ⟨g, hg, hgl⟩ := hl vs hvs
  obtain ⟨h, hh, hhr⟩ := hr ws hws
  exact ⟨vs, t, ws, g, h, rfl, ht, hg, hh, hgl, hhr⟩

theorem and (hl : Spells .conjunction ks l) (hr : Spells .primary ks' r) :
    Spells .conjunction (ks ++ .and :: ks') (.and l r) := by
  intro us hus
  obtain ⟨vs, t, ws, g, h, rfl, ht, hg, hh, hgl, hhr⟩ := exists_split hl hr hus
  exact ⟨_, .and hg ht hh, congrArg₂ Filter.and hgl hhr⟩

theorem adjacent (hl : Spells .conjunction ks l) (hr : Spells .primary ks' r) :
    Spells .conjunction (ks ++ ks') (.and l r) := by
  intro us hus
  obtain ⟨vs, ws, rfl, hvs, hws⟩ := List.map_eq_append_iff.1 hus
  obtain ⟨g, hg, hgl⟩ := hl vs hvs
  obtain ⟨h, hh, hhr⟩ := hr ws hws
  exact ⟨_, .adjacent hg hh, congrArg₂ Filter.and hgl hhr⟩

theorem or (hl : Spells .disjunction ks l) (hr : Spells .conjunction ks' r) :
    Spells .disjunction (ks ++ .or :: ks') (.or l r) := by
  intro us hus
  obtain ⟨vs, t, ws, g, h, rfl, ht, hg, hh, hgl, hhr⟩ := exists_split hl hr hus
  exact ⟨_, .or hg ht hh, congrArg₂ Filter.or hgl hhr⟩

end Spells

/-- Other tokens of the same kinds derive the same tree, up to places. -/
theorem Derives.spells {n : Nonterminal} {us : List Token} {f : Filter} (h : Derives n us f) :
    Spells n (us.map Token.kind) f := by
  induction h with
  | @comparison t o v name op value ht ho hv =>
    rw [List.map_cons, List.map_cons, List.map_cons, ht, ho, hv]
    exact .comparison ⟨name, op, value, t.span.merge v.span⟩
  | group ht hf hu ih =>
    rw [List.map_cons, List.map_append, List.map_cons, ht, hu]
    exact ih.group
  | conjunct hf ih => exact ih.conjunct
  | and hl ht hr ihl ihr =>
    rw [List.map_append, List.map_cons, ht]
    exact ihl.and ihr
  | adjacent hl hr ihl ihr =>
    rw [List.map_append]
    exact ihl.adjacent ihr
  | disjunct hf ih => exact ih.disjunct
  | or hl ht hr ihl ihr =>
    rw [List.map_append, List.map_cons, ht]
    exact ihl.or ihr

/-! ## Whole texts -/

theorem beforeEnd_append {us ws : List Token} {w : Token} (hus : ∀ u ∈ us, u.kind ≠ .eof)
    (hw : w.kind = .eof) : beforeEnd (us ++ w :: ws) = us := by
  unfold beforeEnd
  rw [List.takeWhile_append_of_pos fun u hu => decide_eq_true (hus u hu),
    List.takeWhile_cons_of_neg (by simp [hw]), List.append_nil]

theorem map_kind_beforeEnd {ts : List Token} {ks : List TokenKind}
    (hts : ts.map Token.kind = ks ++ [.eof]) (hks : ∀ k ∈ ks, k ≠ .eof) :
    (beforeEnd ts).map Token.kind = ks := by
  obtain ⟨us, ws, rfl, rfl, hws⟩ := List.map_eq_append_iff.1 hts
  obtain ⟨w, ws, rfl, hw, -⟩ := List.map_eq_cons_iff.1 hws
  rw [beforeEnd_append (fun u hu => hks _ (List.mem_map_of_mem hu)) hw]

/-- A text that is cut into the kinds of a tree is read as that tree, unless it is too deep. -/
theorem parse_of_spells {s : String} {ks : List TokenKind} {f : Filter}
    (hlex : Token.Lexes .element s.toList ks) (hspell : Spells .disjunction ks f) :
    (f.depth ≤ maxDepth → ∃ u, parse s = .ok u ∧ u.unplaced = f.unplaced) ∧
    (maxDepth < f.depth → ∃ span, parse s = .error ⟨.tooDeep, span⟩) := by
  obtain ⟨ts, hscan, hts⟩ := Token.scan_of_lexes hlex
  obtain ⟨g, hg, hgf⟩ := hspell _ (map_kind_beforeEnd hts hlex.ne_eof)
  have hparse : parse s = ofTokens ts := by
    unfold parse
    rw [hscan]
    rfl
  rw [hparse, ← depth_eq_of_unplaced hgf]
  have hread := ofTokens_of_derives hg
  exact ⟨fun hd => ⟨g, hread.1 hd, hgf⟩, fun hd => hread.2 (Nat.not_le.2 hd)⟩

theorem derives_of_parse {s : String} {f : Filter} (h : parse s = .ok f) :
    ∃ us, Token.Lexes .element s.toList (us.map Token.kind) ∧ Derives .disjunction us f ∧
      f.depth ≤ maxDepth := by
  obtain ⟨ts, hscan, hof⟩ := bind_eq_ok.1 h
  obtain ⟨ks, hlex, hts⟩ := Token.lexes_of_scan hscan
  obtain ⟨hd, hdepth⟩ := (readOr_eq_ok_iff maxDepth_pos _).1 (ofTokens_eq_ok.1 hof)
  refine ⟨beforeEnd ts, ?_, hd, hdepth⟩
  rw [map_kind_beforeEnd hts hlex.ne_eof]
  exact hlex

/-- Texts that are cut into the same kinds are read alike: as the same tree, up to places, or as
none. -/
theorem parse_of_lexes {s t : String} {ks : List TokenKind}
    (hs : Token.Lexes .element s.toList ks) (ht : Token.Lexes .element t.toList ks) :
    (∃ f g, parse s = .ok f ∧ parse t = .ok g ∧ g.unplaced = f.unplaced) ∨
      ∃ e e', parse s = .error e ∧ parse t = .error e' := by
  have hread : ∀ {s t : String}, Token.Lexes .element s.toList ks →
      Token.Lexes .element t.toList ks → ∀ f, parse s = .ok f →
        ∃ g, parse t = .ok g ∧ g.unplaced = f.unplaced := by
    intro s t hs ht f hf
    obtain ⟨us, hus, hd, hdepth⟩ := derives_of_parse hf
    rw [hs.unique hus] at ht
    exact (parse_of_spells ht hd.spells).1 hdepth
  cases hf : parse s with
  | ok f =>
    obtain ⟨g, hg, hgf⟩ := hread hs ht f hf
    exact .inl ⟨f, g, rfl, hg, hgf⟩
  | error e =>
    cases hg : parse t with
    | error e' => exact .inr ⟨e, e', rfl, rfl⟩
    | ok g =>
      obtain ⟨f, hf', -⟩ := hread ht hs g hg
      rw [hf] at hf'
      cases hf'

end Filter

end RecordFilter
