import RecordFilter.Proofs.Mapper.Run
import RecordFilter.Sample

/-!
# The table behind a mapper

A mapper keeps its mappings and its exclusions apart. Together they are one table that gives each
key a state: absent, excluded or mapped. Every change acts on that table, and mostly on one key of
it (`table_change`, `table_run`), as long as no key is mapped and excluded at once, which holds in
all states that a mapper can come to (`Sound.run`).
-/

namespace RecordFilter

/-- What a mapper has for a key. -/
inductive KeyState (α : Type) where
  | absent
  | excluded
  | mapped (f : FieldMapping α)

namespace KeyState

variable {α : Type}

/-- What a name with a key in this state stands for. -/
def resolve (name : String) : KeyState α → Except MappingFault (FieldMapping α)
  | absent => .error (.unknownField name)
  | excluded => .error (.excludedField name)
  | mapped f => .ok f

section Resolve

variable {name : String} {f : FieldMapping α} {s : KeyState α}

theorem resolve_eq_ok_iff : s.resolve name = .ok f ↔ s = mapped f := by
  cases s <;> simp [resolve]

theorem resolve_eq_excludedField_iff :
    s.resolve name = .error (.excludedField name) ↔ s = excluded := by
  cases s <;> simp [resolve]

theorem resolve_eq_unknownField_iff :
    s.resolve name = .error (.unknownField name) ↔ s = absent := by
  cases s <;> simp [resolve]

end Resolve

/-- A free key is mapped; any other stays. -/
def register (f : FieldMapping α) : KeyState α → KeyState α
  | absent => mapped f
  | s => s

def remove : KeyState α → KeyState α
  | mapped _ => absent
  | s => s

/-- A field decides a free key by its tag. It takes the place of a mapping only if it is to, and if
it is not tagged as excluded. -/
def generate (overriding : Bool) (f : MemberField α) : KeyState α → KeyState α
  | absent => if f.excluded then excluded else mapped (.ofField f)
  | excluded => excluded
  | mapped g => if overriding && !f.excluded then mapped (.ofField f) else mapped g

end KeyState

/-- The states of all keys. -/
abbrev KeyTable (α : Type) :=
  String → KeyState α

namespace KeyTable

variable {α : Type}

/-- The table with another state for the key of a name. -/
def alter (config : Config) (name : String) (step : KeyState α → KeyState α) (t : KeyTable α) :
    KeyTable α :=
  Function.update t (Mapper.keyWith config name) (step (t (Mapper.keyWith config name)))

/-- What a change of the mapper does to its table. -/
def change (config : Config) (t : KeyTable α) : Change α → KeyTable α
  | .register f => t.alter config f.name (KeyState.register f)
  | .override f => t.alter config f.name fun _ => .mapped f
  | .remove name => t.alter config name KeyState.remove
  | .exclude name => t.alter config name fun _ => .excluded
  | .generate overriding fields =>
    fields.foldl (fun t f => t.alter config f.name (KeyState.generate overriding f)) t

end KeyTable

namespace Mapper

variable {α : Type}

/-- The table that the mappings and the exclusions stand for. -/
def table (m : Mapper α) : KeyTable α :=
  fun key =>
    if m.isExcludedKey key then .excluded
    else match m.mapping? key with
      | some f => .mapped f
      | none => .absent

/-! ## Sound states -/

theorem map_fst_setMapping (key : String) (f : FieldMapping α)
    (table : List (String × FieldMapping α)) :
    (setMapping key f table).map Prod.fst =
      if key ∈ table.map Prod.fst then table.map Prod.fst else table.map Prod.fst ++ [key] := by
  induction table with
  | nil => rfl
  | cons entry rest ih =>
    obtain ⟨k, g⟩ := entry
    rw [setMapping]
    by_cases hk : k = key
    · simp [hk]
    · have hk' : key ≠ k := fun h => hk h.symm
      rw [if_neg hk, List.map_cons, ih]
      by_cases hkey : key ∈ rest.map Prod.fst <;> simp [hkey, hk']

/-- Each key has one mapping at most, which stands under the key of its own name, and no mapping if
it is excluded. -/
structure Sound (m : Mapper α) : Prop where
  wellKeyed : m.WellKeyed
  nodup_keys : (m.mappings.map Prod.fst).Nodup
  mapping?_eq_none : ∀ k, m.isExcludedKey k = true → m.mapping? k = none

theorem sound_empty (id : Nat) (config : Config) : (empty id config : Mapper α).Sound :=
  ⟨wellKeyed_empty id config, List.nodup_nil, fun _ _ => rfl⟩

namespace Sound

variable {m : Mapper α}

theorem put (h : m.Sound) {f : FieldMapping α} (hx : m.isExcludedKey (m.key f.name) = false) :
    (m.put (m.key f.name) f).Sound := by
  refine ⟨h.wellKeyed.put f, ?_, fun k hk => ?_⟩
  · show ((setMapping _ f m.mappings).map Prod.fst).Nodup
    rw [map_fst_setMapping]
    split_ifs with hmem
    · exact h.nodup_keys
    · rw [← List.concat_eq_append]
      exact h.nodup_keys.concat hmem
  · rw [mapping?_put, if_neg, h.mapping?_eq_none k hk]
    rintro rfl
    rw [isExcludedKey_put, hx] at hk
    cases hk

theorem drop (h : m.Sound) (key : String) : (m.drop key).Sound := by
  refine ⟨h.wellKeyed.drop key, ?_, fun k hk => ?_⟩
  · exact h.nodup_keys.sublist (List.filter_sublist.map _)
  · rw [mapping?_drop, h.mapping?_eq_none k hk, ite_self]

theorem refuse (h : m.Sound) {key : String} (hfree : m.mapping? key = none) :
    (m.refuse key).Sound := by
  refine ⟨h.wellKeyed.refuse key, ?_, fun k hk => ?_⟩
  · unfold Mapper.refuse
    split <;> exact h.nodup_keys
  · rw [isExcludedKey_refuse, Bool.or_eq_true_iff, beq_iff_eq] at hk
    rw [mapping?_refuse]
    rcases hk with rfl | hk
    · exact hfree
    · exact h.mapping?_eq_none k hk

theorem allow (h : m.Sound) (key : String) : (m.allow key).Sound := by
  refine ⟨h.wellKeyed.allow key, h.nodup_keys, fun k hk => ?_⟩
  rw [isExcludedKey_allow, Bool.and_eq_true_iff] at hk
  exact h.mapping?_eq_none k hk.2

theorem bump (h : m.Sound) : m.bump.Sound :=
  ⟨h.wellKeyed.bump, h.nodup_keys, h.mapping?_eq_none⟩

theorem generateField {s : Nat × Mapper α} (h : s.2.Sound) (overriding : Bool)
    (f : MemberField α) : (Mapper.generateField overriding s f).2.Sound := by
  rcases generateField_cases overriding s f with ⟨hs, -⟩ | ⟨hs, -, -, hfree⟩ | ⟨hs, -, hx⟩ <;> rw [hs]
  · exact h
  · exact h.refuse hfree
  · exact h.put (f := .ofField f) hx

theorem change (h : m.Sound) (c : Change α) : (m.change c).Sound := by
  cases c with
  | register f =>
    rcases change_register_cases m f with hc | ⟨hc, hx, -⟩ <;> rw [hc]
    · exact h
    · exact (h.put hx).bump
  | override f =>
    have hx : (m.allow (m.key f.name)).isExcludedKey (m.key f.name) = false := by simp
    exact ((h.allow (m.key f.name)).put hx).bump
  | remove name =>
    rcases change_remove_cases m name with hc | hc <;> rw [hc]
    · exact h
    · exact (h.drop _).bump
  | exclude name => exact ((h.drop _).refuse (by simp)).bump
  | generate overriding fields =>
    exact generate_induction overriding fields h (fun _ f _ hs => hs.generateField overriding f)
      fun _ hm => hm.bump

theorem run (h : m.Sound) (changes : List (Change α)) : (m.run changes).Sound := by
  induction changes generalizing m with
  | nil => exact h
  | cons c changes ih => exact ih (h.change c)

end Sound

/-! ## Changes of one key -/

theorem table_bump (m : Mapper α) : m.bump.table = m.table := rfl

/-- The table changes at one key only. -/
theorem table_eq_update {m m' : Mapper α} {key : String} {s : KeyState α}
    (hother : ∀ k, k ≠ key → m'.mapping? k = m.mapping? k ∧ m'.isExcludedKey k = m.isExcludedKey k)
    (hkey : m'.table key = s) : m'.table = Function.update m.table key s := by
  funext k
  by_cases hk : k = key
  · rw [hk, Function.update_self, hkey]
  · rw [Function.update_of_ne hk]
    unfold table
    rw [(hother k hk).1, (hother k hk).2]

section Steps

variable (m : Mapper α) (key : String) (f : FieldMapping α)

theorem table_put (hx : m.isExcludedKey key = false) :
    (m.put key f).table = Function.update m.table key (.mapped f) :=
  table_eq_update (fun k hk => by simp [hk]) (by simp [table, hx])

theorem table_drop (hx : m.isExcludedKey key = false) :
    (m.drop key).table = Function.update m.table key .absent :=
  table_eq_update (fun k hk => by simp [hk]) (by simp [table, hx])

theorem table_override :
    (m.override f).table = Function.update m.table (m.key f.name) (.mapped f) :=
  table_eq_update (fun k hk => by simp [override, hk]) (by simp [override, table])

theorem table_exclude (name : String) :
    (m.exclude name).table = Function.update m.table (m.key name) .excluded :=
  table_eq_update (fun k hk => by simp [exclude, hk]) (by simp [exclude, table])

end Steps

/-! ## What the states decide -/

section Decisions

variable (m : Mapper α)

theorem resolve_eq_table (name : String) :
    m.resolve name = (m.table (m.key name)).resolve name := by
  rw [resolve_eq]
  unfold table
  split_ifs
  · rfl
  · cases m.mapping? (m.key name) <;> rfl

theorem isExcludedKey_iff {key : String} :
    m.isExcludedKey key = true ↔ m.table key = .excluded := by
  unfold table
  cases m.isExcludedKey key <;> cases m.mapping? key <;> simp

theorem isExcludedKey_eq_false {m : Mapper α} {key : String} (h : m.table key ≠ .excluded) :
    m.isExcludedKey key = false :=
  Bool.eq_false_iff.2 fun hx => h (m.isExcludedKey_iff.1 hx)

/-- A registration maps an absent key, and leaves the mapper as it is on any other. -/
theorem register_eq (f : FieldMapping α) :
    m.register f = match m.table (m.key f.name) with
      | .absent => .ok (m.put (m.key f.name) f).bump
      | .excluded => .error (.excluded f.name)
      | .mapped g => if g.sameAs f then .ok m else .error (.conflicting f.name) := by
  unfold register table
  dsimp only
  cases m.isExcludedKey (m.key f.name) <;> cases m.mapping? (m.key f.name) <;> rfl

end Decisions

theorem Sound.contains_iff {m : Mapper α} (h : m.Sound) (name : String) :
    m.contains name = true ↔ ∃ f, m.table (m.key name) = .mapped f := by
  have hnone := h.mapping?_eq_none (m.key name)
  unfold contains isMappedKey table
  cases hx : m.isExcludedKey (m.key name) with
  | true => simp [hnone hx]
  | false => cases m.mapping? (m.key name) <;> simp

/-- Only the removal of a mapped key changes anything. -/
theorem Sound.remove_eq {m : Mapper α} (h : m.Sound) (name : String) :
    m.remove name = match m.table (m.key name) with
      | .mapped _ => (true, (m.drop (m.key name)).bump)
      | _ => (false, m) := by
  have hmapped := h.contains_iff name
  unfold contains at hmapped
  unfold remove
  dsimp only
  cases hs : m.table (m.key name) with
  | mapped f => exact if_pos (hmapped.2 ⟨f, hs⟩)
  | absent | excluded =>
    refine if_neg fun hc => ?_
    obtain ⟨f, hf⟩ := hmapped.1 hc
    cases hs.symm.trans hf

/-! ## Changes as changes of the table -/

theorem alter_table (m : Mapper α) (name : String) (step : KeyState α → KeyState α) :
    m.table.alter m.config name step =
      Function.update m.table (m.key name) (step (m.table (m.key name))) := rfl

theorem table_generateField (overriding : Bool) (s : Nat × Mapper α) (f : MemberField α) :
    (generateField overriding s f).2.table =
      s.2.table.alter s.2.config f.name (KeyState.generate overriding f) := by
  refine table_eq_update (fun k hk => ?_) ?_
  · replace hk : k ≠ s.2.key f.name := hk
    rcases generateField_cases overriding s f with ⟨hs, -⟩ | ⟨hs, -⟩ | ⟨hs, -⟩ <;> simp [hs, hk]
  · show (generateField overriding s f).2.table (s.2.key f.name) =
      (s.2.table (s.2.key f.name)).generate overriding f
    -- the four questions that a field is decided by, in any state of its key
    cases hx : s.2.isExcludedKey (s.2.key f.name) <;>
      cases hm : s.2.mapping? (s.2.key f.name) <;> cases ht : f.excluded <;> cases overriding <;>
      simp [generateField, generation, isMappedKey, table, KeyState.generate, hx, hm, ht]

/-- Generation changes the table field by field, each time at the key of the field. -/
theorem table_afterFields (overriding : Bool) (s : Nat × Mapper α)
    (fields : List (MemberField α)) :
    (afterFields overriding s fields).2.table =
      fields.foldl (fun t f => t.alter s.2.config f.name (KeyState.generate overriding f))
        s.2.table := by
  induction fields generalizing s with
  | nil => rfl
  | cons f fields ih =>
    rw [afterFields_cons, ih, config_generateField, table_generateField, List.foldl_cons]

theorem table_generate (m : Mapper α) (overriding : Bool) (fields : List (MemberField α)) :
    (m.generate overriding fields).table =
      m.table.change m.config (.generate overriding fields) := by
  have hall := table_afterFields overriding (0, m) fields
  rcases generate_cases m overriding fields with ⟨-, h⟩ | h <;> rw [h]
  · exact hall
  · rw [table_bump]
    exact hall

theorem table_change {m : Mapper α} (h : m.Sound) (c : Change α) :
    (m.change c).table = m.table.change m.config c := by
  cases c with
  | register f =>
    unfold Mapper.change KeyTable.change
    dsimp only
    rw [register_eq, alter_table]
    cases hs : m.table (m.key f.name) with
    | absent => exact table_put m _ f (isExcludedKey_eq_false (by simp [hs]))
    | excluded => exact (Function.update_eq_self_iff.2 hs.symm).symm
    | mapped g =>
      refine Eq.trans ?_ (Function.update_eq_self_iff.2 hs.symm).symm
      cases hsame : g.sameAs f <;> simp [hsame]
  | override f => exact table_override m f
  | remove name =>
    show (m.remove name).2.table = m.table.alter m.config name KeyState.remove
    rw [h.remove_eq, alter_table]
    cases hs : m.table (m.key name) with
    | absent => exact (Function.update_eq_self_iff.2 hs.symm).symm
    | excluded => exact (Function.update_eq_self_iff.2 hs.symm).symm
    | mapped f => exact table_drop m _ (isExcludedKey_eq_false (by simp [hs]))
  | exclude name => exact table_exclude m name
  | generate overriding fields => exact table_generate m overriding fields

/-- The table of a run is the run of the table. -/
theorem table_run {m : Mapper α} (h : m.Sound) (changes : List (Change α)) :
    (m.run changes).table = changes.foldl (KeyTable.change m.config) m.table := by
  induction changes generalizing m with
  | nil => rfl
  | cons c changes ih => rw [run_cons, ih (h.change c), config_change, table_change h c, List.foldl_cons]

/-! ## Names -/

theorem Sound.mapping?_of_mem {m : Mapper α} (h : m.Sound) {e : String × FieldMapping α}
    (he : e ∈ m.mappings) : m.mapping? e.1 = some e.2 := by
  obtain ⟨before, after, hsplit⟩ := List.append_of_mem he
  refine List.lookup_eq_some_iff.2 ⟨before, after, hsplit, fun e' he' => ?_⟩
  have hkeys := h.nodup_keys
  rw [hsplit, List.map_append, List.map_cons, List.nodup_middle, List.nodup_cons,
    List.mem_append] at hkeys
  refine bne_iff_ne.2 fun heq => hkeys.1 (.inl ?_)
  rw [heq]
  exact List.mem_map_of_mem he'

theorem Sound.key_name_of_mem {m : Mapper α} (h : m.Sound) {e : String × FieldMapping α}
    (he : e ∈ m.mappings) : m.key e.2.name = e.1 :=
  h.wellKeyed e.1 e.2 (h.mapping?_of_mem he)

theorem perm_names (m : Mapper α) : m.names.Perm (m.mappings.map fun e => e.2.name) := by
  have hperm := (List.mergeSort_perm (m.mappings.map (·.2)) fun f g => f.name ≤ g.name).map
    FieldMapping.name
  rwa [List.map_map] at hperm

/-- The names of two mappings differ, since they have different keys. -/
theorem Sound.nodup_names {m : Mapper α} (h : m.Sound) : m.names.Nodup := by
  have hkeys : (m.mappings.map fun e => e.2.name).map m.key = m.mappings.map Prod.fst := by
    rw [List.map_map]
    exact List.map_congr_left fun e he => h.key_name_of_mem he
  rw [(perm_names m).nodup_iff]
  exact .of_map m.key (hkeys ▸ h.nodup_keys)

theorem pairwise_le_names (m : Mapper α) : m.names.Pairwise (· ≤ ·) := by
  let le (f g : FieldMapping α) : Bool := f.name ≤ g.name
  have htrans (f g h : FieldMapping α) (hfg : le f g = true) (hgh : le g h = true) :
      le f h = true :=
    decide_eq_true (String.le_trans (of_decide_eq_true hfg) (of_decide_eq_true hgh))
  have htotal (f g : FieldMapping α) : (le f g || le g f) = true := by
    simpa [le] using String.le_total f.name g.name
  exact List.pairwise_map.2
    ((List.pairwise_mergeSort htrans htotal (m.mappings.map Prod.snd)).imp of_decide_eq_true)

theorem Sound.pairwise_names {m : Mapper α} (h : m.Sound) : m.names.Pairwise (· < ·) :=
  ((pairwise_le_names m).and h.nodup_names).imp fun ⟨hle, hne⟩ => lt_of_le_of_ne hle hne

theorem length_names (m : Mapper α) : m.names.length = m.size := by
  rw [(perm_names m).length_eq, List.length_map]
  rfl

/-! ## States of a run -/

/-- What is asked about a name is answered by the state of its key. -/
structure AnswersByTable (m : Mapper α) (name : String) : Prop where
  contains_iff : m.contains name = true ↔ ∃ f, m.resolve name = .ok f
  mapped_iff : ∀ f, m.resolve name = .ok f ↔ m.table (m.key name) = .mapped f
  excluded_iff : m.resolve name = .error (.excludedField name) ↔
    m.table (m.key name) = .excluded
  absent_iff : m.resolve name = .error (.unknownField name) ↔ m.table (m.key name) = .absent

/-- A registration maps an absent key. It is taken without a change if it repeats the mapping of the
key, and is refused in all other cases, which leaves the mapper as it is. -/
def RegistersByTable (m : Mapper α) (f : FieldMapping α) : Prop :=
  match m.table (m.key f.name) with
  | .absent => ∃ m', m.register f = .ok m' ∧
      m'.table = Function.update m.table (m.key f.name) (.mapped f)
  | .excluded => m.register f = .error (.excluded f.name) ∧ m.change (.register f) = m
  | .mapped g => m.register f = (if g.sameAs f then .ok m else .error (.conflicting f.name)) ∧
      m.change (.register f) = m

/-- A removal makes a mapped key absent and says so. On any other key it changes nothing. -/
def RemovesByTable (m : Mapper α) (name : String) : Prop :=
  match m.table (m.key name) with
  | .mapped _ => (m.remove name).1 = true ∧
      (m.remove name).2.table = Function.update m.table (m.key name) .absent
  | _ => m.remove name = (false, m)

theorem Sound.answersByTable {m : Mapper α} (h : m.Sound) (name : String) :
    m.AnswersByTable name := by
  have hok (f : FieldMapping α) : m.resolve name = .ok f ↔ m.table (m.key name) = .mapped f := by
    rw [resolve_eq_table, KeyState.resolve_eq_ok_iff]
  refine ⟨(h.contains_iff name).trans (exists_congr fun f => (hok f).symm), hok, ?_, ?_⟩
  · rw [resolve_eq_table, KeyState.resolve_eq_excludedField_iff]
  · rw [resolve_eq_table, KeyState.resolve_eq_unknownField_iff]

theorem registersByTable (m : Mapper α) (f : FieldMapping α) : m.RegistersByTable f := by
  have hregister := m.register_eq f
  unfold RegistersByTable change
  cases hs : m.table (m.key f.name) with
  | absent =>
    rw [hs] at hregister
    exact ⟨_, hregister, table_put m _ f (isExcludedKey_eq_false (by simp [hs]))⟩
  | excluded =>
    rw [hs] at hregister
    simp [hregister]
  | mapped g =>
    rw [hs] at hregister
    cases hsame : g.sameAs f <;> simp [hregister, hsame]

theorem Sound.removesByTable {m : Mapper α} (h : m.Sound) (name : String) :
    m.RemovesByTable name := by
  have hremove := h.remove_eq name
  unfold RemovesByTable
  cases hs : m.table (m.key name) with
  | absent => rwa [hs] at hremove
  | excluded => rwa [hs] at hremove
  | mapped f =>
    rw [hs] at hremove
    rw [hremove]
    exact ⟨rfl, table_drop m _ (isExcludedKey_eq_false (by simp [hs]))⟩

/-- In every state of a run the mapper stands for a table that gives each key one state, all
questions and changes go by that table, and the run so far has made it from one whose keys are all
absent. -/
theorem run_refines_table (id : Nat) (config : Config) (changes : List (Change α)) :
    let m := (empty id config).run changes
    m.table = changes.foldl (KeyTable.change config) (fun _ => .absent) ∧
      (∀ k, ¬(m.isMappedKey k = true ∧ m.isExcludedKey k = true)) ∧
      (∀ e ∈ m.mappings, m.key e.2.name = e.1) ∧
      (m.names.Pairwise (· < ·) ∧ m.names.length = m.size) ∧
      (∀ name, m.AnswersByTable name) ∧
      (∀ f, m.RegistersByTable f) ∧
      (∀ f, (m.override f).table = Function.update m.table (m.key f.name) (.mapped f)) ∧
      (∀ name, (m.exclude name).table = Function.update m.table (m.key name) .excluded) ∧
      ∀ name, m.RemovesByTable name := by
  intro m
  have hsound : m.Sound := (sound_empty id config).run changes
  refine ⟨table_run (sound_empty id config) changes, ?_, fun e => hsound.key_name_of_mem,
    ⟨hsound.pairwise_names, length_names m⟩, hsound.answersByTable, registersByTable m,
    table_override m, table_exclude m, hsound.removesByTable⟩
  rintro k ⟨hm, hx⟩
  rw [(isMappedKey_eq_false_iff m).2 (hsound.mapping?_eq_none k hx)] at hm
  cases hm

/-- Case does not count in keys, so a name that was excluded in capitals is refused in any case. -/
theorem run_refines_table_people :
    let fields := Person.fieldsFor .standard
    let own : FieldMapping Person := ⟨"Name", .ofOrigin "own" fun p => .string p.name, .string, none⟩
    let id : FieldMapping Person := ⟨"Id", .ofOrigin "person.id" fun p => .int p.id, .int, none⟩
    let m := (empty 0 ⟨false, true, false, 1⟩).run [.generate false fields, .exclude "NAME"]
    m.register own = .error (.excluded "Name") ∧ m.key id.name = "id" := by
  intro fields own id m
  obtain ⟨-, -, hkeys, -, -, hregister, -⟩ :=
    run_refines_table 0 ⟨false, true, false, 1⟩ [.generate false fields, .exclude "NAME"]
  have hid : ("id", id) ∈ m.mappings := by
    dsimp only [m, id, fields]
    exact .head _
  have hown := hregister own
  have hstate : m.table (m.key own.name) = .excluded := m.isExcludedKey_iff.1 (by decide)
  unfold RegistersByTable at hown
  rw [hstate] at hown
  exact ⟨hown.1, hkeys ("id", id) hid⟩

end Mapper

end RecordFilter
