import RecordFilter.Proofs.Catalog.Path
import RecordFilter.Proofs.Mapper.Table
import RecordFilter.Proofs.Mapper.Version

/-!
# What generation maps

Generation acts on each key alone: the fields with that key decide its state one after another
(`table_generate_apply`). A free key is decided by the first of them, and every other key stays as
it is. If mappings give way to fields, the outcome is plain as long as the fields have distinct keys.
-/

namespace RecordFilter

/-- What a name stands for that this field alone decides: it is refused if the field is tagged as
excluded, and is mapped with the name, the accessor and the type of the field otherwise. -/
def MemberField.resolve {α : Type} (name : String) (f : MemberField α) :
    Except MappingFault (FieldMapping α) :=
  if f.excluded then .error (.excludedField name)
  else .ok { name := f.name, accessor := f.accessor, type := f.type, reader := none }

namespace KeyState

variable {α : Type}

/-- The state of a key after all fields with that key. -/
def generateAll (overriding : Bool) (fields : List (MemberField α)) (s : KeyState α) : KeyState α :=
  fields.foldl (fun s f => s.generate overriding f) s

theorem generateAll_excluded (overriding : Bool) (fields : List (MemberField α)) :
    generateAll overriding fields excluded = excluded :=
  List.foldl_fixed' (fun _ => rfl) fields

theorem generateAll_mapped (fields : List (MemberField α)) (g : FieldMapping α) :
    generateAll false fields (mapped g) = mapped g :=
  List.foldl_fixed' (fun _ => rfl) fields

/-- The first field decides a free key. -/
theorem generateAll_absent (fields : List (MemberField α)) :
    generateAll false fields absent = fields.head?.elim absent (absent.generate false) := by
  cases fields with
  | nil => rfl
  | cons f fields =>
    show generateAll false fields (absent.generate false f) = absent.generate false f
    by_cases hf : f.excluded = true
    · have hs : absent.generate false f = excluded := if_pos hf
      rw [hs, generateAll_excluded]
    · have hs : absent.generate false f = mapped (.ofField f) := if_neg hf
      rw [hs, generateAll_mapped]

theorem generate_generate (overriding : Bool) (f : MemberField α) (s : KeyState α) :
    (s.generate overriding f).generate overriding f = s.generate overriding f := by
  cases s <;> cases hf : f.excluded <;> cases overriding <;> simp [generate, hf]

end KeyState

namespace Mapper

variable {α : Type}

/-! ## One key -/

/-- The fields with one key decide the state of that key, and no others do. -/
theorem foldl_alter_apply (config : Config) (overriding : Bool) (fields : List (MemberField α))
    (t : KeyTable α) (key : String) :
    fields.foldl (fun t f => t.alter config f.name (KeyState.generate overriding f)) t key =
      (t key).generateAll overriding (fields.filter fun f => keyWith config f.name == key) := by
  induction fields generalizing t with
  | nil => rfl
  | cons f fields ih =>
    rw [List.foldl_cons, ih]
    by_cases hkey : keyWith config f.name = key
    · rw [List.filter_cons_of_pos (by simpa using hkey), KeyTable.alter, hkey, Function.update_self]
      rfl
    · rw [List.filter_cons_of_neg (by simpa using hkey), KeyTable.alter,
        Function.update_of_ne (Ne.symm hkey)]

section Generate

variable (m : Mapper α) (fields : List (MemberField α)) (key : String)

theorem key_generate (overriding : Bool) (name : String) :
    (m.generate overriding fields).key name = m.key name :=
  key_eq_of_config (config_change m (.generate overriding fields)) name

/-- The first field of a table with a key. -/
def firstField (key : String) : Option (MemberField α) :=
  fields.find? fun f => m.key f.name == key

variable {m fields key} in
theorem of_firstField_eq_some {f : MemberField α} (h : m.firstField fields key = some f) :
    f ∈ fields ∧ m.key f.name = key := by
  unfold firstField at h
  exact ⟨List.mem_of_find?_eq_some h, by simpa using List.find?_some h⟩

theorem table_generate_apply (overriding : Bool) :
    (m.generate overriding fields).table key =
      (m.table key).generateAll overriding (fields.filter fun f => m.key f.name == key) := by
  rw [table_generate]
  exact foldl_alter_apply m.config overriding fields m.table key

/-- Generation decides free keys only, each by the first field with that key. -/
theorem table_generate_keeping :
    (m.generate false fields).table key = match m.table key, m.firstField fields key with
      | .absent, some f => KeyState.absent.generate false f
      | s, _ => s := by
  rw [table_generate_apply]
  cases m.table key with
  | absent =>
    rw [KeyState.generateAll_absent, List.head?_filter]
    unfold firstField
    cases fields.find? fun f => m.key f.name == key <;> rfl
  | excluded => exact KeyState.generateAll_excluded false _
  | mapped g => exact KeyState.generateAll_mapped _ g

theorem filter_eq_of_nodup (hkeys : (fields.map fun f => m.key f.name).Nodup) :
    (fields.filter fun f => m.key f.name == key) = (m.firstField fields key).toList := by
  unfold firstField
  induction fields with
  | nil => rfl
  | cons f fields ih =>
    obtain ⟨hf, hkeys⟩ := List.nodup_cons.1 hkeys
    by_cases hkey : m.key f.name = key
    · rw [List.filter_cons_of_pos (by simpa using hkey),
        List.find?_cons_of_pos (by simpa using hkey)]
      have hrest : (fields.filter fun g => m.key g.name == key) = [] := by
        refine List.filter_eq_nil_iff.2 fun g hg hgkey => hf ?_
        exact List.mem_map.2 ⟨g, hg, (eq_of_beq hgkey).trans hkey.symm⟩
      rw [hrest]
      rfl
    · rw [List.filter_cons_of_neg (by simpa using hkey),
        List.find?_cons_of_neg (by simpa using hkey)]
      exact ih hkeys

/-- If no two fields have one key, the field with a key decides it. -/
theorem table_generate_of_nodup (overriding : Bool)
    (hkeys : (fields.map fun f => m.key f.name).Nodup) :
    (m.generate overriding fields).table key =
      (m.firstField fields key).elim (m.table key) ((m.table key).generate overriding) := by
  rw [table_generate_apply, filter_eq_of_nodup m fields key hkeys]
  cases m.firstField fields key <;> rfl

variable {fields} in
theorem table_generate_of_mem (overriding : Bool)
    (hkeys : (fields.map fun f => m.key f.name).Nodup) {f : MemberField α} (hf : f ∈ fields) :
    (m.generate overriding fields).table (m.key f.name) =
      (m.table (m.key f.name)).generate overriding f := by
  have hfirst : m.firstField fields (m.key f.name) = some f := by
    rw [← Option.mem_toList, ← filter_eq_of_nodup m fields _ hkeys]
    exact List.mem_filter.2 ⟨hf, beq_self_eq_true _⟩
  rw [table_generate_of_nodup m fields _ overriding hkeys, hfirst]
  rfl

end Generate

/-! ## Generation once more -/

theorem generateField_of_settled {s : Nat × Mapper α} {f : MemberField α}
    (h : s.2.Settled f.name) : generateField false s f = s := by
  have hskip : s.2.generation false f = .skip := by
    unfold Settled contains isExcluded at h
    unfold generation
    cases hx : s.2.isExcludedKey (s.2.key f.name) with
    | true => simp [hx]
    | false => simp [h.resolve_right (by simp [hx])]
  unfold generateField
  rw [hskip]

/-- Generation from a table whose names are all mapped or excluded changes nothing. -/
theorem generate_of_settled {m : Mapper α} {fields : List (MemberField α)}
    (h : ∀ f ∈ fields, m.Settled f.name) : m.generate false fields = m := by
  have hall : afterFields false (0, m) fields = (0, m) := by
    induction fields with
    | nil => rfl
    | cons f fields ih =>
      rw [afterFields_cons, generateField_of_settled (h f List.mem_cons_self)]
      exact ih fun g hg => h g (List.mem_cons_of_mem f hg)
  show (if 0 < (afterFields false (0, m) fields).1 then _
    else (afterFields false (0, m) fields).2) = m
  rw [hall]
  rfl

/-- A second generation that overrides puts the same mappings again. -/
theorem table_generate_twice (m : Mapper α) {fields : List (MemberField α)}
    (hkeys : (fields.map fun f => m.key f.name).Nodup) :
    ((m.generate true fields).generate true fields).table = (m.generate true fields).table := by
  have hfirst : ∀ key,
      (m.generate true fields).firstField fields key = m.firstField fields key := by
    intro key
    unfold firstField
    simp only [key_generate]
  funext key
  rw [table_generate_of_nodup _ fields key true (by simpa only [key_generate] using hkeys), hfirst,
    table_generate_of_nodup m fields key true hkeys]
  cases m.firstField fields key with
  | none => rfl
  | some f => exact KeyState.generate_generate true f _

/-! ## Names after generation -/

section Names

variable (m : Mapper α) (fields : List (MemberField α)) (name : String)

theorem resolve_generate_eq_table (overriding : Bool) :
    (m.generate overriding fields).resolve name =
      ((m.generate overriding fields).table (m.key name)).resolve name := by
  rw [resolve_eq_table, key_generate]

variable {m name}

theorem not_settled_iff : ¬m.Settled name ↔ m.table (m.key name) = .absent := by
  rw [← resolve_eq_unknownField_iff, resolve_eq_table, KeyState.resolve_eq_unknownField_iff]

theorem resolve_generate_of_settled (h : m.Settled name) :
    (m.generate false fields).resolve name = m.resolve name := by
  rw [resolve_generate_eq_table, table_generate_keeping, resolve_eq_table]
  cases hs : m.table (m.key name) with
  | absent => exact absurd h (not_settled_iff.2 hs)
  | excluded => rfl
  | mapped g => rfl

theorem resolve_generate_of_not_settled (h : ¬m.Settled name) :
    (m.generate false fields).resolve name =
      (m.firstField fields (m.key name)).elim (.error (.unknownField name))
        (MemberField.resolve name) := by
  rw [resolve_generate_eq_table, table_generate_keeping, not_settled_iff.1 h]
  cases m.firstField fields (m.key name) with
  | none => rfl
  | some f =>
    show ((KeyState.absent.generate false f).resolve name) = f.resolve name
    unfold KeyState.generate MemberField.resolve
    cases f.excluded <;> rfl

section Distinct

variable {fields} (hkeys : (fields.map fun f => m.key f.name).Nodup)
include hkeys

theorem resolve_generate_of_replaced {g : FieldMapping α} {f : MemberField α}
    (hg : m.resolve name = .ok g) (hf : f ∈ fields) (hkey : m.key f.name = m.key name)
    (ht : f.excluded = false) : (m.generate true fields).resolve name =
      .ok { name := f.name, accessor := f.accessor, type := f.type, reader := none } := by
  rw [resolve_eq_table, KeyState.resolve_eq_ok_iff] at hg
  rw [resolve_generate_eq_table, ← hkey, table_generate_of_mem m true hkeys hf, hkey, hg]
  simp [KeyState.generate, KeyState.resolve, FieldMapping.ofField, ht]

theorem resolve_generate_of_not_replaced
    (h : ∀ g f, m.resolve name = .ok g → f ∈ fields → m.key f.name = m.key name →
      f.excluded = true) :
    (m.generate true fields).resolve name = (m.generate false fields).resolve name := by
  rw [resolve_generate_eq_table, resolve_generate_eq_table, table_generate_keeping,
    table_generate_of_nodup m fields _ true hkeys]
  cases hfirst : m.firstField fields (m.key name) with
  | none => cases m.table (m.key name) <;> rfl
  | some f =>
    obtain ⟨hf, hkey⟩ := of_firstField_eq_some hfirst
    cases hs : m.table (m.key name) with
    | absent => rfl
    | excluded => rfl
    | mapped g =>
      have hg : m.resolve name = .ok g := by
        rw [resolve_eq_table, hs]
        rfl
      simp [KeyState.generate, h g f hg hf hkey]

theorem resolve_generate_of_isExcluded (hx : m.isExcluded name = true) :
    (m.generate true fields).resolve name = .error (.excludedField name) := by
  have hnone : ∀ g f, m.resolve name = .ok g → f ∈ fields → m.key f.name = m.key name →
      f.excluded = true := by
    intro g f hg
    cases (resolve_of_isExcluded hx).symm.trans hg
  rw [resolve_generate_of_not_replaced hkeys hnone, resolve_generate_of_settled fields (.inr hx),
    resolve_of_isExcluded hx]

theorem resolve_generate_twice : ((m.generate true fields).generate true fields).resolve name =
    (m.generate true fields).resolve name := by
  rw [resolve_generate_eq_table, table_generate_twice m hkeys, ← resolve_eq_table]

end Distinct

end Names

/-- Generation keeps what a name resolves to, and decides an unknown name by the first field with
its key. Once more it changes nothing. If it overrides and the fields have distinct keys, a mapping
besides gives way to one with the name, the accessor and the type of the field with its key, unless
that field is tagged as excluded; once more it changes no name. -/
theorem resolve_generated (c : Catalog) (k : c.Kind) (m : Mapper (c.Rec k)) :
    let fields := c.flatten m.config.maxNestingDepth k
    let kept := m.generate false (c.fieldsFor k m.config)
    let replaced := m.generate true (c.fieldsFor k m.config)
    (∀ name, m.Settled name → kept.resolve name = m.resolve name) ∧
      (∀ name, ¬m.Settled name → kept.resolve name =
        (fields.find? fun f => m.key f.name == m.key name).elim (.error (.unknownField name))
          (MemberField.resolve name)) ∧
      kept.generate false (c.fieldsFor k m.config) = kept ∧
      ((fields.map fun f => m.key f.name).Nodup →
        (∀ name g f, m.resolve name = .ok g → f ∈ fields → m.key f.name = m.key name →
          f.excluded = false → replaced.resolve name =
            .ok { name := f.name, accessor := f.accessor, type := f.type, reader := none }) ∧
        (∀ name, (∀ g f, m.resolve name = .ok g → f ∈ fields → m.key f.name = m.key name →
          f.excluded = true) → replaced.resolve name = kept.resolve name) ∧
        (∀ name, m.isExcluded name = true →
          replaced.resolve name = .error (.excludedField name)) ∧
        ∀ name, (replaced.generate true (c.fieldsFor k m.config)).resolve name =
          replaced.resolve name) := by
  intro fields kept replaced
  refine ⟨fun name => resolve_generate_of_settled fields,
    fun name => resolve_generate_of_not_settled fields,
    generate_of_settled fun f hf => settled_generate m false hf, fun hkeys => ⟨?_, ?_, ?_, ?_⟩⟩
  · exact fun name g f => resolve_generate_of_replaced hkeys
  · exact fun name => resolve_generate_of_not_replaced hkeys
  · exact fun name => resolve_generate_of_isExcluded hkeys
  · exact fun name => resolve_generate_twice hkeys

/-- A mapping of one's own stays until generation overrides, and then its reader is gone with it. A
child that is tagged as excluded takes its members along. -/
theorem resolve_generated_own_mapping :
    let config : Config := ⟨false, true, false, 1⟩
    let own : FieldMapping Person := ⟨"ID", .ofOrigin "guid" fun p => .uuid p.guid, .uuid,
      some ⟨"words", fun s => .ok (.string s)⟩⟩
    let listed : FieldMapping Person :=
      ⟨"Id", .ofOrigin "person.id" fun p => .int p.id, .int, none⟩
    let m := (empty 0 config).override own
    let fields := Person.guarded.fieldsFor () config
    ((empty 0 config).generate false fields).resolve "iD" = .ok listed ∧
      (m.generate false fields).resolve "iD" = .ok own ∧
      (m.generate true fields).resolve "iD" = .ok listed ∧
      ∀ overriding, (m.generate overriding fields).resolve "childclass.id" =
        .error (.excludedField "childclass.id") := by
  intro config own listed m fields
  obtain ⟨-, hfirst, -⟩ := resolve_generated Person.guarded () (empty 0 config)
  obtain ⟨hsettled, hfree, -, hreplaced⟩ := resolve_generated Person.guarded () m
  have hkeys : (fields.map fun f => m.key f.name).Nodup := by decide
  obtain ⟨hreplace, hrest, -⟩ := hreplaced hkeys
  have hown : m.resolve "iD" = .ok own := by
    dsimp only [m, own]
    rfl
  have hunknown : m.resolve "childclass.id" = .error (.unknownField "childclass.id") := by
    dsimp only [m, own]
    rfl
  have hchild : (m.generate false fields).resolve "childclass.id" =
      .error (.excludedField "childclass.id") :=
    hfree "childclass.id" ((resolve_eq_unknownField_iff m _).1 hunknown)
  have hunmapped : ¬(empty 0 config : Mapper Person).Settled "iD" :=
    (resolve_eq_unknownField_iff _ _).1 rfl
  refine ⟨hfirst "iD" hunmapped, (hsettled "iD" (.inl (by decide))).trans hown, ?_, ?_⟩
  · exact hreplace "iD" own ⟨"Id", .ofOrigin "person.id" fun p => .int p.id, .int, false⟩ hown
      (.head _) (by decide) rfl
  · rintro (_ | _)
    · exact hchild
    · refine (hrest "childclass.id" ?_).trans hchild
      intro g f hg
      cases hunknown.symm.trans hg

end Mapper

end RecordFilter
