import RecordFilter.Proofs.Filter.Spelling

/-!
# The tree that a rendered tree stands for

The text of a filter does not say everything about it: a chain of one connector has the same text
however it is nested, and a disjunction below a conjunction is written in parentheses. `normal`
gives the one tree among those with the same text (`render_normal`) that the grammar derives: chains
lean to the left, and such a disjunction is a group.
-/

namespace RecordFilter

namespace Filter

/-- Joins the operands of a chain of `&` to the filter on their left, one after the other. -/
def appendAnd (l : Filter) : Filter → Filter
  | and r s => and (appendAnd l r) s
  | f => and l f

/-- Joins the operands of a chain of `|` to the filter on their left, one after the other. -/
def appendOr (l : Filter) : Filter → Filter
  | or r s => or (appendOr l r) s
  | f => or l f

/-- Puts each disjunction that is an operand of a conjunction into a group, and lets the chains of
each connector lean to the left. -/
def normal : Filter → Filter
  | comparison c => comparison c
  | and l r =>
    appendAnd (if l.isOr then group l.normal else l.normal)
      (if r.isOr then group r.normal else r.normal)
  | or l r => appendOr l.normal r.normal
  | group f => group f.normal

/-- What the tree is by its root, in the grammar. -/
def nonterminal : Filter → Nonterminal
  | comparison _ | group _ => .primary
  | and _ _ => .conjunction
  | or _ _ => .disjunction

theorem isOr_eq_false {f : Filter} (h : f.nonterminal ≠ .disjunction) : f.isOr = false := by
  cases f with
  | or l r => exact absurd rfl h
  | _ => rfl

theorem appendAnd_primary (l : Filter) {r : Filter} (h : r.nonterminal = .primary) :
    appendAnd l r = and l r := by
  cases r with
  | and => cases h
  | _ => rfl

theorem appendOr_conjunction (l : Filter) {r : Filter} (h : r.nonterminal ≠ .disjunction) :
    appendOr l r = or l r := by
  cases r with
  | or => exact absurd rfl h
  | _ => rfl

/-! ## What stays -/

theorem conditions_appendAnd (l r : Filter) :
    (appendAnd l r).conditions = l.conditions ++ r.conditions := by
  induction r with
  | and r s ihr ihs => simp only [appendAnd, conditions, ihr, List.append_assoc]
  | _ => rfl

theorem conditions_appendOr (l r : Filter) :
    (appendOr l r).conditions = l.conditions ++ r.conditions := by
  induction r with
  | or r s ihr ihs => simp only [appendOr, conditions, ihr, List.append_assoc]
  | _ => rfl

theorem conditions_normal (f : Filter) : f.normal.conditions = f.conditions := by
  have hoperand : ∀ g : Filter, g.normal.conditions = g.conditions →
      (if g.isOr then group g.normal else g.normal).conditions = g.conditions := by
    intro g hg
    split_ifs
    · exact hg
    · exact hg
  induction f with
  | comparison c => rfl
  | and l r ihl ihr =>
    rw [normal, conditions_appendAnd, hoperand l ihl, hoperand r ihr, conditions]
  | or l r ihl ihr => rw [normal, conditions_appendOr, ihl, ihr, conditions]
  | group f ih => exact ih

theorem unplaced_appendAnd (l r : Filter) :
    (appendAnd l r).unplaced = appendAnd l.unplaced r.unplaced := by
  induction r with
  | and r s ihr ihs => simp only [appendAnd, unplaced, ihr]
  | _ => rfl

theorem unplaced_appendOr (l r : Filter) :
    (appendOr l r).unplaced = appendOr l.unplaced r.unplaced := by
  induction r with
  | or r s ihr ihs => simp only [appendOr, unplaced, ihr]
  | _ => rfl

/-! ## The text stays -/

/-- The text of an operand of a conjunction. -/
def operandText (f : Filter) : String :=
  if f.isOr then inParens f.render else f.render

theorem render_and (l r : Filter) :
    (and l r).render = l.operandText ++ Connector.and.symbol ++ r.operandText := by
  rw [render, operandText, operandText]

theorem render_appendAnd (l r : Filter) :
    (appendAnd l r).render = l.operandText ++ Connector.and.symbol ++ r.operandText := by
  induction r with
  | and r s ihr ihs =>
    have hleft : (appendAnd l r).operandText = (appendAnd l r).render := by
      cases r <;> rfl
    have hright : (and r s).operandText = (and r s).render := rfl
    rw [appendAnd, render_and, hleft, ihr, hright, render_and]
    simp only [String.append_assoc]
  | _ => exact render_and l _

theorem render_appendOr (l r : Filter) :
    (appendOr l r).render = l.render ++ Connector.or.symbol ++ r.render := by
  induction r with
  | or r s ihr ihs =>
    rw [appendOr, render, ihr, render]
    simp only [String.append_assoc]
  | _ => rfl

theorem isOr_normal (f : Filter) : f.normal.isOr = f.isOr := by
  cases f with
  | comparison c => rfl
  | group f => rfl
  | and l r =>
    rw [normal]
    cases (if r.isOr then group r.normal else r.normal) <;> rfl
  | or l r =>
    rw [normal]
    cases r.normal <;> rfl

/-- The normal tree has the text of the tree. -/
theorem render_normal (f : Filter) : f.normal.render = f.render := by
  have hoperand : ∀ g : Filter, g.normal.render = g.render →
      (if g.isOr then group g.normal else g.normal).operandText = g.operandText := by
    intro g hg
    unfold operandText
    by_cases hor : g.isOr = true
    · rw [if_pos hor, if_pos hor]
      exact congrArg inParens hg
    · rw [if_neg hor, if_neg hor, isOr_normal, if_neg hor, hg]
  induction f with
  | comparison c => rfl
  | and l r ihl ihr =>
    rw [normal, render_appendAnd, hoperand l ihl, hoperand r ihr, render_and]
  | or l r ihl ihr => rw [normal, render_appendOr, ihl, ihr, render]
  | group f ih => exact congrArg inParens ih

/-! ## Derived trees are normal -/

theorem Derives.nonterminal_eq {us : List Token} {f : Filter} (h : Derives .primary us f) :
    f.nonterminal = .primary := by
  cases h with
  | comparison => rfl
  | group => rfl

theorem Derives.nonterminal_ne {us : List Token} {f : Filter} (h : Derives .conjunction us f) :
    f.nonterminal ≠ .disjunction := by
  cases h with
  | conjunct hf =>
    rw [hf.nonterminal_eq]
    decide
  | and => exact Nonterminal.noConfusion
  | adjacent => exact Nonterminal.noConfusion

theorem normal_and {l r : Filter} (hl : l.normal = l) (hr : r.normal = r)
    (hl' : l.nonterminal ≠ .disjunction) (hr' : r.nonterminal = .primary) :
    (and l r).normal = and l r := by
  have hr'' : r.isOr = false := isOr_eq_false (by rw [hr']; decide)
  rw [normal, isOr_eq_false hl', hr'', if_neg Bool.false_ne_true, if_neg Bool.false_ne_true, hl, hr,
    appendAnd_primary l hr']

theorem Derives.normal_eq {n : Nonterminal} {us : List Token} {f : Filter} (h : Derives n us f) :
    f.normal = f := by
  induction h with
  | comparison => rfl
  | group ht hf hu ih => exact congrArg Filter.group ih
  | conjunct hf ih => exact ih
  | and hl ht hr ihl ihr => exact normal_and ihl ihr hl.nonterminal_ne hr.nonterminal_eq
  | adjacent hl hr ihl ihr => exact normal_and ihl ihr hl.nonterminal_ne hr.nonterminal_eq
  | disjunct hf ih => exact ih
  | or hl ht hr ihl ihr => rw [normal, ihl, ihr, appendOr_conjunction _ hr.nonterminal_ne]

/-! ## Normal trees are derived -/

/-- By the chain on the right, whose operands go over to the left one by one. -/
theorem Derives.appendAnd {t : Token} {us vs : List Token} {l r : Filter}
    (hl : Derives .conjunction us l) (ht : t.kind = .and) (hr : Derives .conjunction vs r) :
    Derives .conjunction (us ++ t :: vs) (appendAnd l r) := by
  generalize hn : Nonterminal.conjunction = n at hr
  induction hr with
  | comparison | group | disjunct | or => cases hn
  | conjunct hf ih =>
    rw [appendAnd_primary l hf.nonterminal_eq]
    exact .and hl ht hf
  | and hl' ht' hr' ihl ihr =>
    rw [← List.cons_append, ← List.append_assoc]
    exact .and (ihl rfl) ht' hr'
  | adjacent hl' hr' ihl ihr =>
    rw [← List.cons_append, ← List.append_assoc]
    exact .adjacent (ihl rfl) hr'

theorem Derives.appendOr {t : Token} {us vs : List Token} {l r : Filter}
    (hl : Derives .disjunction us l) (ht : t.kind = .or) (hr : Derives .disjunction vs r) :
    Derives .disjunction (us ++ t :: vs) (appendOr l r) := by
  generalize hn : Nonterminal.disjunction = n at hr
  induction hr with
  | comparison | group | conjunct | and | adjacent => cases hn
  | disjunct hf ih =>
    rw [appendOr_conjunction l hf.nonterminal_ne]
    exact .or hl ht hf
  | or hl' ht' hr' ihl ihr =>
    rw [← List.cons_append, ← List.append_assoc]
    exact .or (ihl rfl) ht' hr'

namespace Spells

variable {ks ks' : List TokenKind} {f l r : Filter}

theorem appendAnd (hl : Spells .conjunction ks l) (hr : Spells .conjunction ks' r) :
    Spells .conjunction (ks ++ .and :: ks') (appendAnd l r) := by
  intro us hus
  obtain ⟨vs, t, ws, g, h, rfl, ht, hg, hh, hgl, hhr⟩ := exists_split hl hr hus
  refine ⟨_, hg.appendAnd ht hh, ?_⟩
  rw [unplaced_appendAnd, unplaced_appendAnd, hgl, hhr]

theorem appendOr (hl : Spells .disjunction ks l) (hr : Spells .disjunction ks' r) :
    Spells .disjunction (ks ++ .or :: ks') (appendOr l r) := by
  intro us hus
  obtain ⟨vs, t, ws, g, h, rfl, ht, hg, hh, hgl, hhr⟩ := exists_split hl hr hus
  refine ⟨_, hg.appendOr ht hh, ?_⟩
  rw [unplaced_appendOr, unplaced_appendOr, hgl, hhr]

theorem toDisjunction {n : Nonterminal} (h : Spells n ks f) : Spells .disjunction ks f := by
  cases n with
  | disjunction => exact h
  | conjunction => exact h.disjunct
  | primary => exact h.conjunct.disjunct

theorem toConjunction {n : Nonterminal} (h : Spells n ks f) (hn : n ≠ .disjunction) :
    Spells .conjunction ks f := by
  cases n with
  | disjunction => exact absurd rfl hn
  | conjunction => exact h
  | primary => exact h.conjunct

end Spells

end Filter

end RecordFilter
