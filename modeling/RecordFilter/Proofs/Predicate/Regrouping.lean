import RecordFilter.Proofs.Filter.RoundTrip
import RecordFilter.Proofs.Predicate.Matcher

/-!
# Regrouped filters

Two trees are regroupings of each other when they differ only in their groups and in how the chains
of one connector are nested. A regrouped tree compiles to the same error or matches the same records
(`Regroups.agree`), and the text of a tree reads as a regrouping of it. So a tree may be compiled
from its text (`agree_compile_render`).
-/

namespace RecordFilter

variable {α : Type}

/-- Both outcomes are the same error, or predicates that match the same records. -/
inductive Agree {ε : Type} : Except ε (Predicate α) → Except ε (Predicate α) → Prop
  | error (e : ε) : Agree (.error e) (.error e)
  | ok {p q : Predicate α} (h : ∀ x, p.holds x = q.holds x) : Agree (.ok p) (.ok q)

theorem agree_of_map_eq {ε : Type} {r s : Except ε (Predicate α)}
    (h : r.map Predicate.holds = s.map Predicate.holds) : Agree r s := by
  cases r with
  | error e =>
    cases s with
    | error e' =>
      cases h
      exact .error e
    | ok q => cases h
  | ok p =>
    cases s with
    | error e => cases h
    | ok q => exact .ok (congrFun (Except.ok.inj h))

theorem Agree.mapError {ε ε' : Type} (f : ε → ε') {r s : Except ε (Predicate α)} (h : Agree r s) :
    Agree (r.mapError f) (s.mapError f) := by
  cases h with
  | error e => exact .error (f e)
  | ok h => exact .ok h

namespace Filter

/-- The trees differ in nothing but groups and the nesting of chains of one connector. -/
inductive Regroups : Filter → Filter → Prop
  | refl (f : Filter) : Regroups f f
  | symm {f g : Filter} (h : Regroups f g) : Regroups g f
  | trans {f g h : Filter} (hfg : Regroups f g) (hgh : Regroups g h) : Regroups f h
  | group (f : Filter) : Regroups (group f) f
  | andAssoc (f g h : Filter) : Regroups (and (and f g) h) (and f (and g h))
  | orAssoc (f g h : Filter) : Regroups (or (or f g) h) (or f (or g h))
  | and {f f' g g' : Filter} (hf : Regroups f f') (hg : Regroups g g') :
    Regroups (and f g) (and f' g')
  | or {f f' g g' : Filter} (hf : Regroups f f') (hg : Regroups g g') : Regroups (or f g) (or f' g')

theorem Regroups.matcher_eq (m : Mapper α) {f g : Filter} (h : Regroups f g) :
    f.matcher m = g.matcher m := by
  induction h with
  | refl f => rfl
  | symm h ih => exact ih.symm
  | trans hfg hgh ihfg ihgh => exact ihfg.trans ihgh
  | group f => rfl
  | andAssoc f g h =>
    simp only [matcher_and]
    exact combineMatchers_assoc Bool.and_assoc _ _ _
  | orAssoc f g h =>
    simp only [matcher_or]
    exact combineMatchers_assoc Bool.or_assoc _ _ _
  | and hf hg ihf ihg => rw [matcher_and, matcher_and, ihf, ihg]
  | or hf hg ihf ihg => rw [matcher_or, matcher_or, ihf, ihg]

/-- No regrouping changes what a tree matches or which error it has. -/
theorem Regroups.agree (m : Mapper α) {f g : Filter} (h : Regroups f g) :
    Agree (f.compile m) (g.compile m) :=
  agree_of_map_eq (h.matcher_eq m)

/-! ## The normal tree is a regrouping -/

theorem regroups_appendAnd (l r : Filter) : Regroups (appendAnd l r) (and l r) := by
  induction r with
  | and r s ihr ihs => exact (ihr.and (.refl s)).trans (.andAssoc l r s)
  | _ => exact .refl _

theorem regroups_appendOr (l r : Filter) : Regroups (appendOr l r) (or l r) := by
  induction r with
  | or r s ihr ihs => exact (ihr.or (.refl s)).trans (.orAssoc l r s)
  | _ => exact .refl _

theorem regroups_normal (f : Filter) : Regroups f.normal f := by
  have hoperand : ∀ g : Filter, Regroups g.normal g →
      Regroups (if g.isOr then Filter.group g.normal else g.normal) g := by
    intro g hg
    split_ifs
    · exact (Regroups.group _).trans hg
    · exact hg
  induction f with
  | comparison c => exact .refl _
  | and l r ihl ihr =>
    exact (regroups_appendAnd _ _).trans ((hoperand l ihl).and (hoperand r ihr))
  | or l r ihl ihr => exact (regroups_appendOr _ _).trans (ihl.or ihr)
  | group f ih => exact (Regroups.group _).trans (ih.trans (Regroups.group f).symm)

/-! ## Compiling the text of a tree -/

/-- The text of a tree compiles as the tree does, and so does every regrouping: with the same error,
or to predicates that match the same records. -/
theorem agree_compile_render (m : Mapper α) {f : Filter} (hfields : f.HasFieldNames)
    (hvalues : ∀ c ∈ f.conditions, c.value ≠ .text "") (hdepth : f.normal.depth ≤ 512) :
    Agree (m.compile f.render) ((f.compile m).mapError .build) ∧
    ∀ g, Regroups f g → Agree (g.compile m) (f.compile m) := by
  refine ⟨?_, fun g hg => hg.symm.agree m⟩
  have hread := parse_of_spells (lexes_render hfields) (spells_kinds hvalues).toDisjunction
  obtain ⟨u, hu, huf⟩ := hread.1 hdepth
  have hmatcher : u.matcher m = f.matcher m :=
    (matcher_eq_of_unplaced m huf).trans ((regroups_normal f).matcher_eq m)
  rw [m.compile_of_parse hu]
  exact (agree_of_map_eq hmatcher).mapError FilterError.build

/-- A chain that leans to the right, with a group in it and a disjunction that gets parentheses. -/
def rightLeaningChain : Filter :=
  and (or (comparison ⟨"A", .equal, .text "1", ⟨0, 0, 0, 0⟩⟩)
      (comparison ⟨"B", .less, .null, ⟨0, 0, 0, 0⟩⟩))
    (and (comparison ⟨"C", .notEqual, .text "(x) ", ⟨0, 0, 0, 0⟩⟩)
      (group (comparison ⟨"A", .contains, .text "null", ⟨0, 0, 0, 0⟩⟩)))

theorem agree_compile_render_chain :
    rightLeaningChain.render = "(A==1|B<null)&C!=\\(x\\)\\ &(A=*\\null)" ∧
    ∀ m : Mapper String,
      Agree (m.compile rightLeaningChain.render) ((rightLeaningChain.compile m).mapError .build) := by
  have hname : ∀ c : Char, Token.isNameStart c = true →
      Token.IsFieldName (String.singleton c).toList := by
    intro c hc
    rw [String.toList_singleton]
    exact .single (Token.isName_singleton hc)
  refine ⟨by decide, fun m => (agree_compile_render m ?_ (by decide) (by decide)).1⟩
  intro c hc
  simp only [rightLeaningChain, conditions, List.mem_cons, List.mem_append, List.not_mem_nil,
    or_false] at hc
  rcases hc with (rfl | rfl) | rfl | rfl
  · exact hname 'A' (by decide)
  · exact hname 'B' (by decide)
  · exact hname 'C' (by decide)
  · exact hname 'A' (by decide)

end Filter

end RecordFilter
