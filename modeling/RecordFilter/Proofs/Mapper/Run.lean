import RecordFilter.Proofs.Mapper.Keys

/-!
# Runs of a mapper

A run is a list of changes, made one after another. The settings stay what they are, the version
never falls, and every mapping stands under the key of its own name (`WellKeyed`). What generation
does to a mapper is decided field by field (`generateField_cases`).
-/

namespace RecordFilter

/-- What can be asked of a mapper to change it. A field is registered with a reader of literals or
without one, and under an accessor made for it or one that was there before. -/
inductive Change (α : Type) where
  | register (f : FieldMapping α)
  | override (f : FieldMapping α)
  | remove (name : String)
  | exclude (name : String)
  | generate (overriding : Bool) (fields : List (MemberField α))

namespace Mapper

variable {α : Type}

/-- The mapper after a change; a registration that is refused leaves it as it was. -/
def change (m : Mapper α) : Change α → Mapper α
  | .register f =>
    match m.register f with
    | .ok m' => m'
    | .error _ => m
  | .override f => m.override f
  | .remove name => (m.remove name).2
  | .exclude name => m.exclude name
  | .generate overriding fields => m.generate overriding fields

def run (m : Mapper α) (changes : List (Change α)) : Mapper α :=
  changes.foldl change m

theorem run_cons (m : Mapper α) (c : Change α) (changes : List (Change α)) :
    m.run (c :: changes) = (m.change c).run changes := rfl

theorem run_append (m : Mapper α) (before after : List (Change α)) :
    m.run (before ++ after) = (m.run before).run after :=
  List.foldl_append

/-! ## Registration and removal -/

/-- A registration maps a free key, or changes nothing. -/
theorem change_register_cases (m : Mapper α) (f : FieldMapping α) :
    m.change (.register f) = m ∨
      m.change (.register f) = (m.put (m.key f.name) f).bump ∧
        m.isExcludedKey (m.key f.name) = false ∧ m.mapping? (m.key f.name) = none := by
  unfold change register
  dsimp only
  by_cases hx : m.isExcludedKey (m.key f.name) = true
  · rw [if_pos hx]
    exact .inl rfl
  · rw [if_neg hx]
    cases hg : m.mapping? (m.key f.name) with
    | none => exact .inr ⟨rfl, Bool.eq_false_iff.2 hx, rfl⟩
    | some g =>
      left
      by_cases hs : g.sameAs f = true
      · simp only [if_pos hs]
      · simp only [if_neg hs]

theorem change_remove_cases (m : Mapper α) (name : String) :
    m.change (.remove name) = m ∨ m.change (.remove name) = (m.drop (m.key name)).bump := by
  unfold change remove
  dsimp only
  split_ifs
  · exact .inr rfl
  · exact .inl rfl

/-! ## Generation -/

/-- A field of a member table is passed over, excludes a key that is neither mapped nor excluded, or
is mapped. -/
theorem generateField_cases (overriding : Bool) (s : Nat × Mapper α) (f : MemberField α) :
    generateField overriding s f = s ∧
        (s.2.isExcludedKey (s.2.key f.name) = true ∨ s.2.isMappedKey (s.2.key f.name) = true) ∨
      generateField overriding s f = (s.1, s.2.refuse (s.2.key f.name)) ∧ f.excluded = true ∧
        s.2.isExcludedKey (s.2.key f.name) = false ∧ s.2.mapping? (s.2.key f.name) = none ∨
      generateField overriding s f = (s.1 + 1, s.2.put (s.2.key f.name) (.ofField f)) ∧
        f.excluded = false ∧ s.2.isExcludedKey (s.2.key f.name) = false := by
  have hskip (h : s.2.generation overriding f = .skip) : generateField overriding s f = s := by
    simp only [generateField, h]
  have hexclude (h : s.2.generation overriding f = .exclude) :
      generateField overriding s f = (s.1, s.2.refuse (s.2.key f.name)) := by
    simp only [generateField, h]
  have hput (h : s.2.generation overriding f = .put) :
      generateField overriding s f = (s.1 + 1, s.2.put (s.2.key f.name) (.ofField f)) := by
    simp only [generateField, h]
  cases hx : s.2.isExcludedKey (s.2.key f.name) with
  | true => exact .inl ⟨hskip (by simp [generation, hx]), .inl rfl⟩
  | false =>
    cases hm : s.2.isMappedKey (s.2.key f.name) <;> cases ht : f.excluded
    · exact .inr (.inr ⟨hput (by simp [generation, hx, ht, hm]), rfl, rfl⟩)
    · exact .inr (.inl ⟨hexclude (by simp [generation, hx, ht, hm]), rfl, rfl,
        (isMappedKey_eq_false_iff _).1 hm⟩)
    · cases overriding with
      | true => exact .inr (.inr ⟨hput (by simp [generation, hx, ht]), rfl, rfl⟩)
      | false => exact .inl ⟨hskip (by simp [generation, hx, ht, hm]), .inr rfl⟩
    · exact .inl ⟨hskip (by simp [generation, hx, ht, hm]), .inr rfl⟩

/-- The mapper after the fields of a table, before its version is set. -/
def afterFields (overriding : Bool) (s : Nat × Mapper α) (fields : List (MemberField α)) :
    Nat × Mapper α :=
  fields.foldl (generateField overriding) s

theorem afterFields_cons (overriding : Bool) (s : Nat × Mapper α) (f : MemberField α)
    (fields : List (MemberField α)) :
    afterFields overriding s (f :: fields) =
      afterFields overriding (generateField overriding s f) fields := rfl

theorem afterFields_append (overriding : Bool) (s : Nat × Mapper α)
    (before after : List (MemberField α)) :
    afterFields overriding s (before ++ after) =
      afterFields overriding (afterFields overriding s before) after :=
  List.foldl_append

/-- Generation is the fields one after another, and a new version if any of them was mapped. -/
theorem generate_cases (m : Mapper α) (overriding : Bool) (fields : List (MemberField α)) :
    (afterFields overriding (0, m) fields).1 = 0 ∧
        m.generate overriding fields = (afterFields overriding (0, m) fields).2 ∨
      m.generate overriding fields = (afterFields overriding (0, m) fields).2.bump := by
  show _ ∨ (if 0 < (afterFields overriding (0, m) fields).1
    then (afterFields overriding (0, m) fields).2.bump else _) = _
  by_cases h : 0 < (afterFields overriding (0, m) fields).1
  · exact .inr (if_pos h)
  · exact .inl ⟨Nat.eq_zero_of_not_pos h, if_neg h⟩

/-- What every field keeps, and raising the version too, generation keeps. -/
theorem generate_induction {P : Mapper α → Prop} {m : Mapper α} (overriding : Bool)
    (fields : List (MemberField α)) (hm : P m)
    (hfield : ∀ s : Nat × Mapper α, ∀ f ∈ fields, P s.2 → P (generateField overriding s f).2)
    (hbump : ∀ m : Mapper α, P m → P m.bump) : P (m.generate overriding fields) := by
  have hall : P (afterFields overriding (0, m) fields).2 :=
    List.foldlRecOn fields (generateField overriding) (motive := fun s => P s.2) hm
      fun s hs f hf => hfield s f hf hs
  rcases generate_cases m overriding fields with ⟨-, h⟩ | h
  · rwa [h]
  · rw [h]
    exact hbump _ hall

/-! ## What every run keeps -/

theorem config_generateField (overriding : Bool) (s : Nat × Mapper α) (f : MemberField α) :
    (generateField overriding s f).2.config = s.2.config := by
  rcases generateField_cases overriding s f with ⟨h, -⟩ | ⟨h, -⟩ | ⟨h, -⟩ <;> simp [h]

theorem config_change (m : Mapper α) (c : Change α) : (m.change c).config = m.config := by
  cases c with
  | register f => rcases change_register_cases m f with h | ⟨h, -⟩ <;> simp [h]
  | override f => rfl
  | remove name => rcases change_remove_cases m name with h | h <;> simp [h]
  | exclude name => simp [change, exclude]
  | generate overriding fields =>
    refine generate_induction (P := fun m' => m'.config = m.config) overriding fields rfl ?_ ?_
    · intro s f _ hs
      rw [config_generateField, hs]
    · exact fun _ h => h

theorem config_run (m : Mapper α) (changes : List (Change α)) :
    (m.run changes).config = m.config := by
  induction changes generalizing m with
  | nil => rfl
  | cons c changes ih => rw [run_cons, ih, config_change]

theorem version_generateField (overriding : Bool) (s : Nat × Mapper α) (f : MemberField α) :
    (generateField overriding s f).2.version = s.2.version := by
  rcases generateField_cases overriding s f with ⟨h, -⟩ | ⟨h, -⟩ | ⟨h, -⟩ <;> simp [h]

theorem version_afterFields (overriding : Bool) (s : Nat × Mapper α)
    (fields : List (MemberField α)) : (afterFields overriding s fields).2.version = s.2.version := by
  induction fields generalizing s with
  | nil => rfl
  | cons f fields ih => rw [afterFields_cons, ih, version_generateField]

theorem version_le_change (m : Mapper α) (c : Change α) : m.version ≤ (m.change c).version := by
  cases c with
  | register f => rcases change_register_cases m f with h | ⟨h, -⟩ <;> simp [h]
  | override f => simp [change, override]
  | remove name => rcases change_remove_cases m name with h | h <;> simp [h]
  | exclude name => simp [change, exclude]
  | generate overriding fields =>
    refine generate_induction (P := fun m' => m.version ≤ m'.version) overriding fields
      (Nat.le_refl _) ?_ ?_
    · intro s f _ hs
      rwa [version_generateField]
    · exact fun _ h => Nat.le_succ_of_le h

theorem version_le_run (m : Mapper α) (changes : List (Change α)) :
    m.version ≤ (m.run changes).version := by
  induction changes generalizing m with
  | nil => exact Nat.le_refl _
  | cons c changes ih => exact (version_le_change m c).trans (ih _)

/-- Every mapping stands under the key of its own name. -/
def WellKeyed (m : Mapper α) : Prop :=
  ∀ k f, m.mapping? k = some f → m.key f.name = k

theorem wellKeyed_empty (id : Nat) (config : Config) : (empty id config : Mapper α).WellKeyed := by
  intro k f h
  cases h

namespace WellKeyed

variable {m : Mapper α}

theorem put (h : m.WellKeyed) (f : FieldMapping α) : (m.put (m.key f.name) f).WellKeyed := by
  intro k g hg
  rw [mapping?_put] at hg
  split_ifs at hg with hk
  · cases hg
    exact hk.symm
  · exact h k g hg

theorem drop (h : m.WellKeyed) (key : String) : (m.drop key).WellKeyed := by
  intro k g hg
  rw [mapping?_drop] at hg
  split_ifs at hg with hk
  exact h k g hg

theorem refuse (h : m.WellKeyed) (key : String) : (m.refuse key).WellKeyed := by
  intro k g hg
  rw [mapping?_refuse] at hg
  rw [key_eq_of_config (config_refuse m key)]
  exact h k g hg

theorem allow (h : m.WellKeyed) (key : String) : (m.allow key).WellKeyed := h

theorem bump (h : m.WellKeyed) : m.bump.WellKeyed := h

theorem generateField {s : Nat × Mapper α} (h : s.2.WellKeyed) (overriding : Bool)
    (f : MemberField α) : (Mapper.generateField overriding s f).2.WellKeyed := by
  rcases generateField_cases overriding s f with ⟨hs, -⟩ | ⟨hs, -⟩ | ⟨hs, -⟩ <;> rw [hs]
  · exact h
  · exact h.refuse _
  · exact h.put (.ofField f)

theorem change (h : m.WellKeyed) (c : Change α) : (m.change c).WellKeyed := by
  cases c with
  | register f =>
    rcases change_register_cases m f with hc | ⟨hc, -⟩ <;> rw [hc]
    · exact h
    · exact (h.put f).bump
  | override f => exact ((h.allow (m.key f.name)).put f).bump
  | remove name =>
    rcases change_remove_cases m name with hc | hc <;> rw [hc]
    · exact h
    · exact (h.drop _).bump
  | exclude name => exact ((h.drop _).refuse _).bump
  | generate overriding fields =>
    exact generate_induction overriding fields h (fun _ f _ hs => hs.generateField overriding f)
      fun _ hm => hm.bump

theorem run (h : m.WellKeyed) (changes : List (Change α)) : (m.run changes).WellKeyed := by
  induction changes generalizing m with
  | nil => exact h
  | cons c changes ih => exact ih (h.change c)

end WellKeyed

end Mapper

end RecordFilter
