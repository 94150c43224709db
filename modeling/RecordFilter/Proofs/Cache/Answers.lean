import RecordFilter.Cache
import RecordFilter.Proofs.Mapper.Keys
import RecordFilter.Proofs.Predicate.Alike
import RecordFilter.Sample

/-!
# What a cache answers

A cache is called with mappers as they are at the moment of the call, so a run holds every state
that a mapper went through. Whatever calls came before, each entry is what compiling the filter of
its key gave at one of them (`FilledBy`). A mapper that resolves names as it did then cannot tell a
kept result from a new one, and so a cache answers as if it were not there.
-/

namespace RecordFilter

/-- A call of a cache. -/
inductive Call (α : Type) where
  | get (filter : String) (m : Mapper α)
  | invalidate (m : Mapper α)
  | clear

namespace Cache

variable {α : Type}

/-- The cache after a call. -/
def call (c : Cache α) : Call α → Cache α
  | .get filter m => (c.get filter m).2
  | .invalidate m => c.invalidate m
  | .clear => c.clear

/-- The cache after some calls. -/
def run (c : Cache α) (calls : List (Call α)) : Cache α :=
  calls.foldl call c

theorem run_concat (c : Cache α) (calls : List (Call α)) (d : Call α) :
    c.run (calls ++ [d]) = (c.run calls).call d :=
  List.foldl_concat ..

/-! ## What a call does -/

section Step

variable {c : Cache α} {filter : String} {m : Mapper α}

theorem get_of_find?_eq_some {r : Compiled α} (h : c.find? (keyOf filter m) = some r) :
    c.get filter m = (r, c) := by
  simp only [get, h]

theorem get_of_find?_eq_none (h : c.find? (keyOf filter m) = none) :
    c.get filter m = (m.compile filter,
      (if c.isFull then c.evict m else c).store (keyOf filter m) (m.compile filter)) := by
  simp only [get, h]

theorem mem_of_find?_eq_some {key : CacheKey} {r : Compiled α} (h : c.find? key = some r) :
    (key, r) ∈ c.entries := by
  obtain ⟨l₁, l₂, he, -⟩ := List.lookup_eq_some_iff.1 h
  rw [he]
  exact List.mem_append_right _ List.mem_cons_self

/-- Making room keeps no entry that was not there. -/
theorem entries_evict_subset (c : Cache α) (m : Mapper α) : (c.evict m).entries ⊆ c.entries := by
  unfold evict
  simp only
  split
  · exact List.nil_subset _
  · exact List.filter_subset_self _

/-- After a call each entry is an old one, or was compiled in it. -/
theorem mem_entries_call {d : Call α} {entry : CacheKey × Compiled α}
    (h : entry ∈ (c.call d).entries) :
    entry ∈ c.entries ∨
      ∃ filter m, d = .get filter m ∧ entry = (keyOf filter m, m.compile filter) := by
  cases d with
  | invalidate m => exact .inl (List.mem_filter.1 h).1
  | clear => cases h
  | get filter m =>
    rw [call] at h
    cases hf : c.find? (keyOf filter m) with
    | some r =>
      rw [get_of_find?_eq_some hf] at h
      exact .inl h
    | none =>
      rw [get_of_find?_eq_none hf] at h
      rcases List.mem_append.1 h with h | h
      · split at h
        · exact .inl (entries_evict_subset c m h)
        · exact .inl h
      · exact .inr ⟨filter, m, rfl, List.mem_singleton.1 h⟩

end Step

/-! ## The invariant -/

/-- Every entry is what one of the calls compiled. -/
def FilledBy (c : Cache α) (calls : List (Call α)) : Prop :=
  ∀ entry ∈ c.entries,
    ∃ filter m, Call.get filter m ∈ calls ∧ entry = (keyOf filter m, m.compile filter)

theorem filledBy_withCapacity (capacity : Nat) : (withCapacity capacity : Cache α).FilledBy [] := by
  intro entry h
  cases h

theorem FilledBy.call {c : Cache α} {calls : List (Call α)} (h : c.FilledBy calls) (d : Call α) :
    (c.call d).FilledBy (calls ++ [d]) := by
  intro entry hentry
  rcases mem_entries_call hentry with hold | ⟨filter, m, rfl, rfl⟩
  · obtain ⟨filter, m, hm, rfl⟩ := h entry hold
    exact ⟨filter, m, List.mem_append_left _ hm, rfl⟩
  · exact ⟨filter, m, List.mem_append_right _ List.mem_cons_self, rfl⟩

theorem filledBy_run (capacity : Nat) (calls : List (Call α)) :
    ((withCapacity capacity).run calls).FilledBy calls := by
  induction calls using List.reverseRecOn with
  | nil => exact filledBy_withCapacity capacity
  | append_singleton calls d ih =>
    rw [run_concat]
    exact ih.call d

/-! ## Answers -/

/-- A cache that some calls filled answers as a new compilation would, if the mapper is like every
state with its number and version that the calls came with. -/
theorem FilledBy.observe_get {c : Cache α} {calls : List (Call α)} (h : c.FilledBy calls)
    {filter : String} {m : Mapper α}
    (halike : ∀ filter n, Call.get filter n ∈ calls → n.id = m.id → n.version = m.version →
      n.Alike m) :
    observe (c.get filter m).1 = observe (m.compile filter) := by
  cases hf : c.find? (keyOf filter m) with
  | none => rw [get_of_find?_eq_none hf]
  | some r =>
    obtain ⟨filter', n, hn, he⟩ := h _ (mem_of_find?_eq_some hf)
    obtain ⟨hkey, rfl⟩ := Prod.mk.inj he
    obtain ⟨rfl, hid, hversion⟩ := CacheKey.mk.inj hkey
    rw [get_of_find?_eq_some hf]
    exact Mapper.observe_compile_eq (halike _ n hn hid.symm hversion.symm) filter

/-- A cache never shows. After any calls, with any mappers that changed in any way between them, the
answer for a filter looks like compiling it now, provided that no two states of a mapper with
one version differ in what they resolve or in their settings. -/
theorem observe_get_run (capacity : Nat) (calls : List (Call α)) (filter : String) (m : Mapper α)
    (halike : ∀ filter n, Call.get filter n ∈ calls → n.id = m.id → n.version = m.version →
      n.Alike m) :
    observe (((withCapacity capacity).run calls).get filter m).1 = observe (m.compile filter) :=
  (filledBy_run capacity calls).observe_get halike

/-- A cache for one entry that answers for two mappers, one of them before and after its only name
was excluded: the last call finds the failure of the call before it, which took the place of the
entry at the older version. -/
theorem observe_get_run_excluded_name :
    let name : FieldMapping Person := ⟨"Name", .ofOrigin "name" fun p => .string p.name, .string, none⟩
    let people := (Mapper.empty 7 .standard).override name
    let others := (Mapper.empty 8 .standard).override name
    let before : List (Call Person) :=
      [.get "Name==Bob" people, .invalidate people, .get "Name==Bob" others, .clear,
        .get "Name==Bob" people, .get "Name==Bob" (people.exclude "Name")]
    observe (((withCapacity 1).run before).get "Name==Bob" (people.exclude "Name")).1 =
      observe ((people.exclude "Name").compile "Name==Bob") := by
  intro name people others before
  have hexcluded : people.version ≠ (people.exclude "Name").version := by
    simp [Mapper.exclude]
  refine observe_get_run 1 before "Name==Bob" (people.exclude "Name") ?_
  intro filter n hn hid hversion
  simp only [before, List.mem_cons, Call.get.injEq, reduceCtorEq, List.not_mem_nil, false_or,
    or_false] at hn
  rcases hn with ⟨-, rfl⟩ | ⟨-, rfl⟩ | ⟨-, rfl⟩ | ⟨-, rfl⟩
  · exact absurd hversion hexcluded
  · exact absurd hid (by decide)
  · exact absurd hversion hexcluded
  · exact .refl _

end Cache

end RecordFilter
