import Mathlib
import RecordFilter.Mapper

/-!
# What a change does to each key

A mapper is seen through two questions about a key: what it is mapped to, and whether it is
excluded. Each of the small steps that changes are made of has one equation for either question, and
none of them touches the settings.
-/

namespace RecordFilter

namespace Mapper

variable {α : Type}

/-! ## Tables -/

theorem lookup_cons (k key : String) (f : FieldMapping α) (table : List (String × FieldMapping α)) :
    ((key, f) :: table).lookup k = if k = key then some f else table.lookup k := by
  rw [List.lookup_cons]
  by_cases hk : k = key
  · simp [hk]
  · rw [if_neg hk, beq_false_of_ne hk]

theorem lookup_setMapping (k key : String) (f : FieldMapping α)
    (table : List (String × FieldMapping α)) :
    (setMapping key f table).lookup k = if k = key then some f else table.lookup k := by
  induction table with
  | nil => exact lookup_cons k key f []
  | cons entry rest ih =>
    obtain ⟨key', g⟩ := entry
    rw [setMapping, lookup_cons]
    by_cases hkey : key' = key
    · subst hkey
      rw [if_pos rfl, lookup_cons]
      split_ifs <;> rfl
    · rw [if_neg hkey, lookup_cons, ih]
      by_cases hk : k = key'
      · subst hk
        rw [if_pos rfl, if_neg hkey, if_pos rfl]
      · rw [if_neg hk, if_neg hk]

theorem lookup_filter_ne (k key : String) (table : List (String × FieldMapping α)) :
    (table.filter (·.1 ≠ key)).lookup k = if k = key then none else table.lookup k := by
  induction table with
  | nil => exact (ite_self none).symm
  | cons entry rest ih =>
    obtain ⟨key', g⟩ := entry
    rw [lookup_cons]
    by_cases hkey : key' = key
    · subst hkey
      rw [List.filter_cons_of_neg (by simp), ih]
      split_ifs <;> rfl
    · rw [List.filter_cons_of_pos (by simpa using hkey), lookup_cons, ih]
      by_cases hk : k = key'
      · subst hk
        rw [if_pos rfl, if_neg hkey, if_pos rfl]
      · rw [if_neg hk, if_neg hk]

/-! ## Steps -/

section Steps

variable (m : Mapper α) (key k : String) (f : FieldMapping α)

@[simp] theorem mapping?_put :
    (m.put key f).mapping? k = if k = key then some f else m.mapping? k :=
  lookup_setMapping k key f m.mappings

@[simp] theorem mapping?_drop :
    (m.drop key).mapping? k = if k = key then none else m.mapping? k :=
  lookup_filter_ne k key m.mappings

@[simp] theorem mapping?_refuse : (m.refuse key).mapping? k = m.mapping? k := by
  unfold refuse
  split <;> rfl

@[simp] theorem mapping?_allow : (m.allow key).mapping? k = m.mapping? k := rfl

@[simp] theorem mapping?_bump : m.bump.mapping? k = m.mapping? k := rfl

@[simp] theorem isExcludedKey_put : (m.put key f).isExcludedKey k = m.isExcludedKey k := rfl

@[simp] theorem isExcludedKey_drop : (m.drop key).isExcludedKey k = m.isExcludedKey k := rfl

@[simp] theorem isExcludedKey_bump : m.bump.isExcludedKey k = m.isExcludedKey k := rfl

@[simp] theorem isExcludedKey_refuse :
    (m.refuse key).isExcludedKey k = (k == key || m.isExcludedKey k) := by
  unfold refuse
  split_ifs with hkey
  · by_cases hk : k = key
    · subst hk
      simpa using hkey
    · simp [hk]
  · unfold isExcludedKey
    rw [List.contains_append, Bool.or_comm, List.contains_cons, List.contains_nil, Bool.or_false]

@[simp] theorem isExcludedKey_allow :
    (m.allow key).isExcludedKey k = (k != key && m.isExcludedKey k) := by
  unfold isExcludedKey allow
  by_cases hk : k = key <;> simp [hk]

@[simp] theorem config_put : (m.put key f).config = m.config := rfl

@[simp] theorem config_drop : (m.drop key).config = m.config := rfl

@[simp] theorem config_refuse : (m.refuse key).config = m.config := by
  unfold refuse
  split <;> rfl

@[simp] theorem config_allow : (m.allow key).config = m.config := rfl

@[simp] theorem config_bump : m.bump.config = m.config := rfl

@[simp] theorem version_put : (m.put key f).version = m.version := rfl

@[simp] theorem version_drop : (m.drop key).version = m.version := rfl

@[simp] theorem version_refuse : (m.refuse key).version = m.version := by
  unfold refuse
  split <;> rfl

@[simp] theorem version_allow : (m.allow key).version = m.version := rfl

@[simp] theorem version_bump : m.bump.version = m.version + 1 := rfl

end Steps

/-! ## Names -/

section Names

variable (m : Mapper α) (name : String)

theorem isMappedKey_eq_false_iff {k : String} : m.isMappedKey k = false ↔ m.mapping? k = none := by
  unfold isMappedKey
  cases m.mapping? k <;> simp

theorem key_eq_of_config {m m' : Mapper α} (h : m'.config = m.config) (name : String) :
    m'.key name = m.key name := by
  unfold key
  rw [h]

theorem resolve_eq : m.resolve name =
    if m.isExcludedKey (m.key name) = true then .error (.excludedField name)
    else match m.mapping? (m.key name) with
      | some f => .ok f
      | none => .error (.unknownField name) := rfl

/-- The name is mapped or excluded. -/
def Settled : Prop :=
  m.contains name = true ∨ m.isExcluded name = true

theorem resolve_of_isExcluded {m : Mapper α} {name : String} (h : m.isExcluded name = true) :
    m.resolve name = .error (.excludedField name) :=
  if_pos h

theorem mapping?_of_resolve {m : Mapper α} {name : String} {f : FieldMapping α}
    (h : m.resolve name = .ok f) : m.mapping? (m.key name) = some f := by
  rw [resolve_eq] at h
  split_ifs at h
  cases hm : m.mapping? (m.key name) with
  | none =>
    rw [hm] at h
    cases h
  | some g =>
    rw [hm] at h
    cases h
    rfl

/-- A name is unknown exactly if it is neither mapped nor excluded. -/
theorem resolve_eq_unknownField_iff :
    m.resolve name = .error (.unknownField name) ↔ ¬m.Settled name := by
  unfold Settled contains isExcluded isMappedKey
  rw [resolve_eq]
  by_cases hx : m.isExcludedKey (m.key name) = true
  · simp [hx]
  · cases hm : m.mapping? (m.key name) <;> simp [hx]

end Names

end Mapper

end RecordFilter
