import Mathlib.Data.String.Basic
import Mathlib.Tactic.SplitIfs
import RecordFilter.Record

/-!
# Records with one value for each key

Schemas and objects of JSON are tables that are sorted by name and have one entry for each. Records
that were read are such tables on every level (`Record.distinct_of_readAll`), so a member is what
its key finds.
-/

namespace RecordFilter

/-! ## Sorted tables -/

namespace Table

variable {α : Type}

/-- Sets the entry of a name. -/
def insert (name : String) (a : α) : List (String × α) → List (String × α)
  | [] => [(name, a)]
  | (n, b) :: t =>
    match compare name n with
    | .lt => (name, a) :: (n, b) :: t
    | .eq => (name, a) :: t
    | .gt => (n, b) :: insert name a t

def ofEntries (entries : List (String × α)) : List (String × α) :=
  entries.foldl (fun t e => insert e.1 e.2 t) []

/-- The names ascend. -/
def Sorted (t : List (String × α)) : Prop :=
  t.Pairwise fun d e => compare d.1 e.1 = .lt

variable {t entries : List (String × α)} {name : String} {a : α} {e : String × α}

theorem Sorted.nodup (h : Sorted t) : (t.map Prod.fst).Nodup := by
  refine List.pairwise_map.2 (h.imp fun {d e} hlt heq => ?_)
  have hself : compare d.1 d.1 = .eq := Std.ReflCmp.compare_self
  rw [← heq, hself] at hlt
  cases hlt

theorem mem_of_mem_insert (h : e ∈ insert name a t) : e = (name, a) ∨ e ∈ t := by
  induction t with
  | nil => exact .inl (List.mem_singleton.1 h)
  | cons d t ih =>
    rw [insert] at h
    split at h
    · exact List.mem_cons.1 h
    · exact (List.mem_cons.1 h).imp_right (List.mem_cons_of_mem d)
    · rcases List.mem_cons.1 h with rfl | h
      · exact .inr List.mem_cons_self
      · exact (ih h).imp_right (List.mem_cons_of_mem d)

theorem Sorted.insert (h : Sorted t) (name : String) (a : α) : Sorted (insert name a t) := by
  induction t with
  | nil => exact List.pairwise_singleton _ _
  | cons d t ih =>
    obtain ⟨hd, ht⟩ := List.pairwise_cons.1 h
    rw [Table.insert]
    split
    · next hlt =>
      refine List.pairwise_cons.2 ⟨List.forall_mem_cons.2 ⟨hlt, fun e he => ?_⟩, h⟩
      exact Std.TransCmp.lt_trans hlt (hd e he)
    · next heq =>
      obtain rfl := Std.LawfulEqCmp.compare_eq_iff_eq.1 heq
      exact List.pairwise_cons.2 ⟨hd, ht⟩
    · next hgt =>
      refine List.pairwise_cons.2 ⟨fun e he => ?_, ih ht⟩
      rcases mem_of_mem_insert he with rfl | he
      · exact Std.OrientedCmp.lt_of_gt hgt
      · exact hd e he

theorem sorted_foldl (h : Sorted t) (entries : List (String × α)) :
    Sorted (entries.foldl (fun t e => insert e.1 e.2 t) t) := by
  induction entries generalizing t with
  | nil => exact h
  | cons e entries ih => exact ih (h.insert e.1 e.2)

theorem sorted_ofEntries (entries : List (String × α)) : Sorted (ofEntries entries) :=
  sorted_foldl List.Pairwise.nil entries

theorem mem_of_mem_foldl (h : e ∈ entries.foldl (fun t e => insert e.1 e.2 t) t) :
    e ∈ t ∨ e ∈ entries := by
  induction entries generalizing t with
  | nil => exact .inl h
  | cons d entries ih =>
    rcases ih h with h | h
    · rcases mem_of_mem_insert h with rfl | h
      · exact .inr List.mem_cons_self
      · exact .inl h
    · exact .inr (List.mem_cons_of_mem d h)

theorem mem_of_mem_ofEntries (h : e ∈ ofEntries entries) : e ∈ entries :=
  (mem_of_mem_foldl h).resolve_left List.not_mem_nil

end Table

theorem Schema.insert_eq (name : String) (type : ValueType) (s : Schema) :
    Schema.insert name type s = Table.insert name type s := by
  induction s with
  | nil => rfl
  | cons e s ih =>
    rw [Schema.insert, Table.insert]
    cases compare name e.1 with
    | lt | eq => rfl
    | gt => exact congrArg (List.cons e) ih

theorem Schema.ofFields_eq (fields : List (String × ValueType)) :
    Schema.ofFields fields = Table.ofEntries fields := by
  simp only [Schema.ofFields, Schema.insert_eq, Table.ofEntries]

theorem Schema.sorted_infer (depth : Nat) (r : Record) : Table.Sorted (Schema.infer depth r) := by
  rw [Schema.infer, Schema.ofFields_eq]
  exact Table.sorted_ofEntries _

theorem Json.Object.insert_eq (key : String) (j : Json) (o : Json.Object) :
    Json.Object.insert key j o = Table.insert key j o := by
  induction o with
  | nil => rfl
  | cons m o ih =>
    rw [Json.Object.insert, Table.insert]
    cases compare key m.1 with
    | lt | eq => rfl
    | gt => exact congrArg (List.cons m) ih

theorem Json.Object.ofMembers_eq (members : List (String × Json)) :
    Json.Object.ofMembers members = Table.ofEntries members := by
  simp only [Json.Object.ofMembers, Json.Object.insert_eq, Table.ofEntries]

/-! ## Distinct keys on every level -/

namespace Record

/-- No key appears twice, in the record and in the objects in it. -/
inductive Distinct : Record → Prop
  | intro {r : Record} (hkeys : (r.map Prod.fst).Nodup)
    (hinner : ∀ key s, (key, .object s) ∈ r → Distinct s) : Distinct r

variable {r : Record} {key : String} {j : Json}

theorem get?_eq_some (h : Json.Object.get? r key = some j) : (key, j) ∈ r := by
  obtain ⟨⟨k, v⟩, hfind, rfl⟩ := Option.map_eq_some_iff.1 h
  have hkey : k = key := by simpa using List.find?_some hfind
  exact hkey ▸ List.mem_of_find?_eq_some hfind

/-- A member is what its key finds. -/
theorem get?_of_mem (hkeys : (r.map Prod.fst).Nodup) (h : (key, j) ∈ r) :
    Json.Object.get? r key = some j := by
  induction r with
  | nil => cases h
  | cons m r ih =>
    rw [List.map_cons, List.nodup_cons] at hkeys
    unfold Json.Object.get? at *
    rcases List.mem_cons.1 h with rfl | h
    · rw [List.find?_cons_of_pos (by simp)]
      rfl
    · have hne : m.1 ≠ key := fun heq => hkeys.1 (heq ▸ List.mem_map_of_mem (f := Prod.fst) h)
      rw [List.find?_cons_of_neg (by simpa using hne)]
      exact ih hkeys.2 h

theorem distinct_ofMembers {members : List (String × Json)}
    (h : ∀ key s, (key, .object s) ∈ members → Distinct s) :
    Distinct (Json.Object.ofMembers members) := by
  rw [Json.Object.ofMembers_eq]
  exact .intro (Table.sorted_ofEntries members).nodup
    fun key s hs => h key s (Table.mem_of_mem_ofEntries hs)

mutual

theorem distinct_of_ofRaw? {depth : Nat} {raw : Json.Raw} {s : Record}
    (h : Json.ofRaw? depth raw = some (.object s)) : Distinct s := by
  cases raw with
  | object members =>
    rw [Json.ofRaw?] at h
    split_ifs at h
    obtain ⟨ms, hms, hs⟩ := Option.map_eq_some_iff.1 h
    cases hs
    exact distinct_ofMembers (distinct_of_ofRawMembers? hms)
  | _ => simp [Json.ofRaw?] at h

theorem distinct_of_ofRawMembers? {depth : Nat} {members : List (List Json.RawChar × Json.Raw)}
    {ms : List (String × Json)} (h : Json.ofRawMembers? depth members = some ms) :
    ∀ key s, (key, .object s) ∈ ms → Distinct s := by
  cases members with
  | nil =>
    cases h
    exact fun key s hs => absurd hs List.not_mem_nil
  | cons m members =>
    obtain ⟨k, v⟩ := m
    rw [Json.ofRawMembers?] at h
    obtain ⟨cs, -, h⟩ := Option.bind_eq_some_iff.1 h
    obtain ⟨j, hj, h⟩ := Option.bind_eq_some_iff.1 h
    obtain ⟨rest, hrest, h⟩ := Option.bind_eq_some_iff.1 h
    cases h
    intro key s hs
    rcases List.mem_cons.1 hs with heq | hs
    · cases heq
      exact distinct_of_ofRaw? hj
    · exact distinct_of_ofRawMembers? hrest key s hs

end

theorem distinct_of_ofItems {index : Nat} {items : List Json} {rs : List Record}
    (hitems : ∀ s, .object s ∈ items → Distinct s) (h : ofItems index items = .ok rs) :
    ∀ r ∈ rs, Distinct r := by
  induction items generalizing index rs with
  | nil =>
    cases h
    exact fun r hr => absurd hr List.not_mem_nil
  | cons item items ih =>
    cases item with
    | object members =>
      rw [ofItems] at h
      cases hrest : ofItems (index + 1) items with
      | error fault =>
        rw [hrest] at h
        cases h
      | ok rest =>
        rw [hrest] at h
        cases h
        refine List.forall_mem_cons.2 ⟨hitems members List.mem_cons_self, ?_⟩
        exact ih (fun s hs => hitems s (List.mem_cons_of_mem _ hs)) hrest
    | _ => cases h

theorem distinct_of_ofRawItems? {depth : Nat} {raws : List Json.Raw} {items : List Json}
    (h : Json.ofRawItems? depth raws = some items) : ∀ s, .object s ∈ items → Distinct s := by
  induction raws generalizing items with
  | nil =>
    cases h
    exact fun s hs => absurd hs List.not_mem_nil
  | cons raw raws ih =>
    rw [Json.ofRawItems?] at h
    obtain ⟨j, hj, h⟩ := Option.bind_eq_some_iff.1 h
    obtain ⟨rest, hrest, h⟩ := Option.bind_eq_some_iff.1 h
    cases h
    intro s hs
    rcases List.mem_cons.1 hs with rfl | hs
    · exact distinct_of_ofRaw? hj
    · exact ih hrest s hs

/-- In records that were read, every key appears once. -/
theorem distinct_of_readAll {text : String} {rs : List Record} (h : readAll text = .ok rs) :
    ∀ r ∈ rs, Distinct r := by
  unfold readAll at h
  split at h
  · cases h
  · next items hread =>
    obtain ⟨raw, -, hraw⟩ := Option.bind_eq_some_iff.1 hread
    refine distinct_of_ofItems ?_ h
    cases raw with
    | array raws =>
      rw [Json.ofRaw?] at hraw
      split_ifs at hraw
      obtain ⟨items', hitems, heq⟩ := Option.map_eq_some_iff.1 hraw
      cases heq
      exact distinct_of_ofRawItems? hitems
    | _ => simp [Json.ofRaw?] at hraw
  · cases h

end Record

end RecordFilter
