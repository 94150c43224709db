import RecordFilter.Proofs.Catalog.Trail
import RecordFilter.Proofs.Mapper.Generation
import RecordFilter.Proofs.Predicate.Members

/-!
# Excluded names stay excluded

Only an override lifts an exclusion, and only that of its own key. So a name that was excluded, by
itself or by the table that fields were generated from, is barred from then on: it never resolves,
no filter with a condition on it compiles, and no compiled filter reads a member under it.
-/

namespace RecordFilter

/-- The change maps the key of a name whatever it was before. -/
def Change.Lifts {α : Type} (config : Config) (name : String) : Change α → Prop
  | .override f => Mapper.keyWith config f.name = Mapper.keyWith config name
  | _ => False

namespace Mapper

variable {α : Type}

/-! ## Exclusions over a run -/

theorem isExcludedKey_generateField {overriding : Bool} {s : Nat × Mapper α} {f : MemberField α}
    {k : String} (h : s.2.isExcludedKey k = true) :
    (generateField overriding s f).2.isExcludedKey k = true := by
  rcases generateField_cases overriding s f with ⟨hs, -⟩ | ⟨hs, -⟩ | ⟨hs, -⟩ <;> simp [hs, h]

theorem isExcludedKey_change {m : Mapper α} {c : Change α} {name : String}
    (hlift : ¬c.Lifts m.config name) (h : m.isExcludedKey (m.key name) = true) :
    (m.change c).isExcludedKey (m.key name) = true := by
  cases c with
  | register f => rcases change_register_cases m f with hc | ⟨hc, -⟩ <;> simpa [hc] using h
  | override f =>
    have hkey : m.key name ≠ m.key f.name := fun hk => hlift hk.symm
    simpa [change, override, hkey] using h
  | remove n => rcases change_remove_cases m n with hc | hc <;> simpa [hc] using h
  | exclude n => simp [change, exclude, h]
  | generate overriding fields =>
    exact generate_induction (P := fun m' => m'.isExcludedKey (m.key name) = true) overriding fields
      h (fun _ _ _ => isExcludedKey_generateField) fun _ hm => hm

theorem isExcludedKey_run {m : Mapper α} {changes : List (Change α)} {name : String}
    (hlift : ∀ c ∈ changes, ¬c.Lifts m.config name) (h : m.isExcludedKey (m.key name) = true) :
    (m.run changes).isExcludedKey (m.key name) = true := by
  induction changes generalizing m with
  | nil => exact h
  | cons c changes ih =>
    have hconfig := config_change m c
    have hstep := isExcludedKey_change (hlift c List.mem_cons_self) h
    rw [run_cons, ← key_eq_of_config hconfig name]
    rw [← key_eq_of_config hconfig name] at hstep
    exact ih (fun d hd => hconfig ▸ hlift d (List.mem_cons_of_mem c hd)) hstep

/-! ## Exclusions by a table -/

/-- A field that is tagged as excluded excludes its key, unless that is mapped. -/
theorem isExcludedKey_generate {m : Mapper α} (overriding : Bool) {fields : List (MemberField α)}
    {f : MemberField α} (hkeys : (fields.map fun g => m.key g.name).Nodup) (hf : f ∈ fields)
    (ht : f.excluded = true) (hfree : m.mapping? (m.key f.name) = none) :
    (m.generate overriding fields).isExcludedKey (m.key f.name) = true := by
  rw [isExcludedKey_iff, table_generate_of_mem m overriding hkeys hf]
  unfold table
  rw [hfree]
  split_ifs
  · rfl
  · exact if_pos ht

/-! ## Barred names -/

/-- No filter gets past a name that has the key of `name`. -/
structure Bars (m : Mapper α) (name : String) : Prop where
  resolve_eq : ∀ n, m.key n = m.key name → m.resolve n = .error (.excludedField n)
  not_compiled : ∀ t : Filter, (∃ c ∈ t.conditions, m.key c.field = m.key name) →
    ∃ e, t.compile m = .error e
  not_read : ∀ (t : Filter) (p : Predicate α), t.compile m = .ok p →
    ∀ member ∈ p.members, m.key member.1 ≠ m.key name

theorem bars_of_isExcludedKey {m : Mapper α} {name : String} (hkeyed : m.WellKeyed)
    (h : m.isExcludedKey (m.key name) = true) : m.Bars name := by
  have hresolve : ∀ n, m.key n = m.key name → m.resolve n = .error (.excludedField n) := by
    intro n hn
    refine resolve_of_isExcluded ?_
    show m.isExcludedKey (m.key n) = true
    rw [hn, h]
  -- a condition of a tree that compiles resolves, and so its key is another
  have hother : ∀ (c : Condition) (member : String × Accessor α), Filter.ResolvesTo m c member →
      m.key c.field ≠ m.key name ∧ m.key member.1 = m.key c.field := by
    rintro c member ⟨f, hf, rfl⟩
    constructor
    · intro hc
      rw [hresolve c.field hc] at hf
      cases hf
    · exact hkeyed _ f (mapping?_of_resolve hf)
  refine ⟨hresolve, fun t ht => ?_, fun t p hp member hmember => ?_⟩
  · obtain ⟨c, hc, hkey⟩ := ht
    cases hp : t.compile m with
    | error e => exact ⟨e, rfl⟩
    | ok p =>
      obtain ⟨member, -, hmember⟩ := exists_of_forall₂ (Filter.resolved_of_compile hp) hc
      exact absurd hkey (hother c member hmember).1
  · obtain ⟨c, -, hc⟩ := exists_of_forall₂ (Filter.resolved_of_compile hp).flip hmember
    rw [(hother c member hc).2]
    exact (hother c member hc).1

/-- A name that was excluded is barred from then on, as long as no override maps its key. So is a
name that a member table withholds once fields were generated from it, if their keys are distinct
and the name was not mapped before. -/
theorem bars_run (c : Catalog) (k : c.Kind) (id : Nat) (config : Config)
    (before after : List (Change (c.Rec k))) (name : String)
    (hlift : ∀ d ∈ after, ¬d.Lifts config name) :
    let m := (empty id config).run before
    ((m.exclude name).run after).Bars name ∧
      ∀ overriding, ((c.fieldsFor k config).map fun f => keyWith config f.name).Nodup →
        c.Withholds config.maxNestingDepth k name → m.contains name = false →
          ((m.generate overriding (c.fieldsFor k config)).run after).Bars name := by
  intro m
  have hconfig : m.config = config := config_run _ before
  have hkeyed : m.WellKeyed := (wellKeyed_empty id config).run before
  -- from an excluded key on, the rest of the run bars the name
  have hbars : ∀ d : Change (c.Rec k), (m.change d).isExcludedKey (m.key name) = true →
      ((m.change d).run after).Bars name := by
    intro d hd
    have hd' : (m.change d).config = m.config := config_change m d
    rw [← key_eq_of_config hd'] at hd
    have hlast := isExcludedKey_run (by rwa [hd', hconfig]) hd
    refine bars_of_isExcludedKey ((hkeyed.change d).run after) ?_
    rwa [key_eq_of_config (config_run _ after)]
  refine ⟨hbars (.exclude name) (by simp [change, exclude]), ?_⟩
  intro overriding hkeys hwithheld hfree
  obtain ⟨f, hf, rfl, ht⟩ := Catalog.withholds_iff.1 hwithheld
  have hkey : (fun g : MemberField (c.Rec k) => m.key g.name) = fun g => keyWith config g.name := by
    rw [← hconfig]
    rfl
  exact hbars (.generate overriding _) (isExcludedKey_generate overriding (by rwa [hkey]) hf ht
    ((isMappedKey_eq_false_iff m).1 hfree))

/-- Names in any case, a second generation and an override of another name make no difference, and a
member is withheld together with the child that it is a member of. -/
theorem bars_run_guarded_people :
    let config : Config := ⟨false, true, false, 1⟩
    let fields := Person.guarded.fieldsFor () config
    let after : List (Change Person) := [.generate true fields, .remove "childclass.ID",
      .override ⟨"Id", .ofOrigin "id" fun p => .int p.id, .int, none⟩]
    (((empty 0 config).exclude "NAME").run after).Bars "NAME" ∧
      (((empty 0 config).generate true fields).run after).Bars "ChildClass.Id" := by
  intro config fields after
  have hlift : ∀ name, keyWith config "Id" ≠ keyWith config name →
      ∀ d ∈ after, ¬d.Lifts config name := by
    intro name hname d hd
    simp only [after, List.mem_cons, List.not_mem_nil, or_false] at hd
    rcases hd with rfl | rfl | rfl
    · exact fun h => h
    · exact fun h => h
    · exact hname
  have hwithheld : Person.guarded.Withholds config.maxNestingDepth () "ChildClass.Id" := by
    refine ⟨[⟨"ChildClass", true⟩, ⟨"Id", false⟩], ?_, by decide, by decide⟩
    exact .nested (.tail _ (.tail _ (.head _))) (.scalar (.head _))
  refine ⟨(bars_run Person.guarded () 0 config [] after "NAME" (hlift _ (by decide))).1, ?_⟩
  exact (bars_run Person.guarded () 0 config [] after "ChildClass.Id" (hlift _ (by decide))).2 true
    (by decide) hwithheld rfl

end Mapper

end RecordFilter
