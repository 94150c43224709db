import Mathlib.Tactic.SplitIfs
import RecordFilter.Proofs.Text.Split
import RecordFilter.Record

/-!
# Dotted paths

The name of a field leads into a record: each text between its dots is a key, and all keys but the
last have to stand for objects. `Record.Holds` says what a name leads to, and `Record.Misses` that
it leads nowhere. Reading a field finds just what its name leads to
(`lookup?_pathOf_eq_some_iff`), and null if that is nothing (`readField_of_misses`).
-/

namespace RecordFilter

namespace Record

/-- The record has the value at the end of the dotted path. -/
inductive Holds : Record → List Char → Json → Prop
  | last {r : Record} {key : List Char} {j : Json} (hkey : '.' ∉ key)
    (h : Json.Object.get? r (String.ofList key) = some j) : Holds r key j
  | inner {r s : Record} {key rest : List Char} {j : Json} (hkey : '.' ∉ key)
    (h : Json.Object.get? r (String.ofList key) = some (.object s)) (hrest : Holds s rest j) :
    Holds r (key ++ '.' :: rest) j

/-- The dotted path leads nowhere: a key of it is missing, or one before the last stands for no
object. -/
inductive Misses : Record → List Char → Prop
  | last {r : Record} {key : List Char} (hkey : '.' ∉ key)
    (h : Json.Object.get? r (String.ofList key) = none) : Misses r key
  | missing {r : Record} {key rest : List Char} (hkey : '.' ∉ key)
    (h : Json.Object.get? r (String.ofList key) = none) : Misses r (key ++ '.' :: rest)
  | noObject {r : Record} {key rest : List Char} {j : Json} (hkey : '.' ∉ key)
    (h : Json.Object.get? r (String.ofList key) = some j) (hj : ∀ s, j ≠ .object s) :
    Misses r (key ++ '.' :: rest)
  | inner {r s : Record} {key rest : List Char} (hkey : '.' ∉ key)
    (h : Json.Object.get? r (String.ofList key) = some (.object s)) (hrest : Misses s rest) :
    Misses r (key ++ '.' :: rest)

/-! ## The texts between dots -/

theorem splitDots_eq (s : List Char) : splitDots s = s.splitOn '.' :=
  Text.eq_splitOn rfl (fun _ _ => rfl) s

theorem eq_or_exists_dot (s : List Char) :
    '.' ∉ s ∨ ∃ key rest, s = key ++ '.' :: rest ∧ '.' ∉ key := by
  by_cases h : '.' ∈ s
  · obtain ⟨key, rest, hs, hkey⟩ := List.eq_append_cons_of_mem h
    exact .inr ⟨key, rest, hs, hkey⟩
  · exact .inl h

/-! ## Following a path -/

theorem lookup?_cons {keys : List String} (h : keys ≠ []) (r : Record) (key : String) (j : Json) :
    lookup? r (key :: keys) = some j ↔
      ∃ s, Json.Object.get? r key = some (.object s) ∧ lookup? s keys = some j := by
  obtain ⟨k, ks, rfl⟩ := List.exists_cons_of_ne_nil h
  cases hget : Json.Object.get? r key with
  | none => simp [lookup?, hget]
  | some v => cases v <;> simp [lookup?, hget]

theorem holds_iff (r : Record) (s : List Char) (j : Json) :
    r.Holds s j ↔ lookup? r ((splitDots s).map String.ofList) = some j := by
  constructor
  · intro h
    induction h with
    | last hkey h =>
      rw [splitDots_eq, List.splitOn_eq_singleton hkey]
      exact h
    | inner hkey h hrest ih =>
      rw [splitDots_eq] at ih ⊢
      rw [List.splitOn_append_cons_self_of_not_mem hkey, List.map_cons]
      exact (lookup?_cons (mt List.map_eq_nil_iff.1 (List.splitOn_ne_nil _ _)) _ _ _).2 ⟨_, h, ih⟩
  · intro h
    induction hn : s.length using Nat.strongRecOn generalizing r s with
    | _ n ih =>
      rw [splitDots_eq] at h
      rcases eq_or_exists_dot s with hs | ⟨key, rest, rfl, hkey⟩
      · rw [List.splitOn_eq_singleton hs] at h
        exact .last hs h
      · rw [List.splitOn_append_cons_self_of_not_mem hkey, List.map_cons, ← splitDots_eq] at h
        obtain ⟨t, hget, hrest⟩ :=
          (lookup?_cons (mt List.map_eq_nil_iff.1 (splitDots_eq rest ▸ List.splitOn_ne_nil _ _))
            _ _ _).1 h
        refine .inner hkey hget (ih rest.length ?_ t rest hrest rfl)
        rw [← hn, List.length_append, List.length_cons]
        omega

theorem lookup?_pathOf_eq_some_iff (r : Record) (field : String) (j : Json) :
    lookup? r (pathOf field) = some j ↔ r.Holds field.toList j :=
  (holds_iff r field.toList j).symm

theorem readField_of_holds {r : Record} {field : String} {j : Json} (h : r.Holds field.toList j)
    (type : ValueType) : readField field type r = convert type j := by
  rw [readField, (lookup?_pathOf_eq_some_iff r field j).2 h]

/-! ## Paths that lead nowhere -/

section Keys

variable {r : Record} {key : List Char} (hkey : '.' ∉ key)
include hkey

theorem holds_key_iff (j : Json) :
    r.Holds key j ↔ Json.Object.get? r (String.ofList key) = some j := by
  rw [holds_iff, splitDots_eq, List.splitOn_eq_singleton hkey]
  rfl

theorem holds_dot_iff (rest : List Char) (j : Json) : r.Holds (key ++ '.' :: rest) j ↔
    ∃ s, Json.Object.get? r (String.ofList key) = some (.object s) ∧ Holds s rest j := by
  simp only [holds_iff, splitDots_eq]
  rw [List.splitOn_append_cons_self_of_not_mem hkey, List.map_cons,
    lookup?_cons (mt List.map_eq_nil_iff.1 (List.splitOn_ne_nil _ _))]

end Keys

theorem not_holds_of_misses {r : Record} {s : List Char} (h : r.Misses s) (j : Json) :
    ¬r.Holds s j := by
  induction h with
  | last hkey h =>
    rw [holds_key_iff hkey, h]
    exact Option.some_ne_none j ∘ Eq.symm
  | missing hkey h =>
    rw [holds_dot_iff hkey]
    rintro ⟨t, ht, -⟩
    rw [h] at ht
    cases ht
  | noObject hkey h hj =>
    rw [holds_dot_iff hkey]
    rintro ⟨t, ht, -⟩
    rw [h] at ht
    exact hj t (Option.some.inj ht)
  | inner hkey h hrest ih =>
    rw [holds_dot_iff hkey]
    rintro ⟨t, ht, hholds⟩
    rw [h] at ht
    cases ht
    exact ih hholds

/-- A path leads somewhere or nowhere. -/
theorem misses_or_holds (r : Record) (s : List Char) : r.Misses s ∨ ∃ j, r.Holds s j := by
  induction hn : s.length using Nat.strongRecOn generalizing r s with
  | _ n ih =>
    rcases eq_or_exists_dot s with hs | ⟨key, rest, rfl, hkey⟩
    · cases hget : Json.Object.get? r (String.ofList s) with
      | none => exact .inl (.last hs hget)
      | some j => exact .inr ⟨j, .last hs hget⟩
    · cases hget : Json.Object.get? r (String.ofList key) with
      | none => exact .inl (.missing hkey hget)
      | some j =>
        cases j with
        | object t =>
          have hlt : rest.length < n := by
            rw [← hn, List.length_append, List.length_cons]
            omega
          rcases ih rest.length hlt t rest rfl with h | ⟨j, h⟩
          · exact .inl (.inner hkey hget h)
          · exact .inr ⟨j, .inner hkey hget h⟩
        | _ => exact .inl (.noObject hkey hget (by simp))

theorem readField_of_misses {r : Record} {field : String} (h : r.Misses field.toList)
    (type : ValueType) : readField field type r = .null := by
  have hlookup : lookup? r (pathOf field) = none :=
    Option.eq_none_iff_forall_ne_some.2 fun j hj =>
      not_holds_of_misses h j ((lookup?_pathOf_eq_some_iff r field j).1 hj)
  rw [readField, hlookup]

end Record

end RecordFilter
