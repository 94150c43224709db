import RecordFilter.Proofs.Cache.Answers

/-!
# What a cache holds

However a cache is called, it holds one entry for each key and no more entries than its capacity
(`Fits`). It compiles once for each call that finds no entry. An entry goes only with a clearing,
with its mapper, or when a new entry needs room in a full cache; then the entries of the same mapper
at other versions make room, and all entries only if there are none of these (`occupancy_run`).
-/

namespace RecordFilter

namespace Cache

variable {α : Type}

/-- The keys of the entries. -/
def keys (c : Cache α) : List CacheKey :=
  c.entries.map Prod.fst

/-- Whether a key belongs to the mapper at another version than its own. -/
def isStale (m : Mapper α) (key : CacheKey) : Bool :=
  key.mapper = m.id && key.version ≠ m.version

/-- Whether a call finds no entry and has to compile. -/
def misses (c : Cache α) : Call α → Bool
  | .get filter m => keyOf filter m ∉ c.keys
  | .invalidate _ | .clear => false

/-- The calls that may take away the entry of a key. -/
inductive Drops (c : Cache α) (key : CacheKey) : Call α → Prop
  | clear : Drops c key .clear
  | invalidate {m : Mapper α} (h : m.id = key.mapper) : Drops c key (.invalidate m)
  | get {filter : String} {m : Mapper α} (hmiss : c.misses (.get filter m) = true)
    (hfull : c.isFull = true) : Drops c key (.get filter m)

/-! ## What a call does to the entries -/

section Step

variable {c : Cache α} {filter : String} {m : Mapper α} {key : CacheKey}

theorem find?_eq_none_iff : c.find? key = none ↔ key ∉ c.keys := by
  rw [find?, List.lookup_eq_none_iff, keys, List.mem_map, not_exists]
  refine forall_congr' fun entry => ?_
  rw [not_and, bne_iff_ne, ne_comm]

theorem misses_get_iff : c.misses (.get filter m) = true ↔ c.find? (keyOf filter m) = none := by
  rw [find?_eq_none_iff, misses, decide_eq_true_iff]

theorem get_of_not_misses (h : c.misses (.get filter m) = false) : (c.get filter m).2 = c := by
  obtain ⟨r, hr⟩ := Option.ne_none_iff_exists'.1 fun hnone =>
    Bool.eq_false_iff.1 h (misses_get_iff.2 hnone)
  rw [get_of_find?_eq_some hr]

theorem get_of_misses (h : c.misses (.get filter m) = true) :
    (c.get filter m).2 =
      (if c.isFull then c.evict m else c).store (keyOf filter m) (m.compile filter) := by
  rw [get_of_find?_eq_none (misses_get_iff.1 h)]

theorem entries_dropStale (c : Cache α) (m : Mapper α) :
    (c.dropStale m).entries = c.entries.filter fun entry => !isStale m entry.1 := by
  refine List.filter_congr fun ⟨key, r⟩ _ => ?_
  simp only [isStale, Bool.not_and, ne_eq, decide_not, Bool.not_not]

theorem capacity_evict (c : Cache α) (m : Mapper α) : (c.evict m).capacity = c.capacity := by
  unfold evict
  dsimp only
  split <;> rfl

theorem compilations_evict (c : Cache α) (m : Mapper α) :
    (c.evict m).compilations = c.compilations := by
  unfold evict
  dsimp only
  split <;> rfl

/-- In a cache that is just full, stale entries make room if there are any, and else all do. -/
theorem entries_evict (h : c.size = c.capacity) (m : Mapper α) :
    (c.evict m).entries =
      if c.keys.any (isStale m) then c.entries.filter fun entry => !isStale m entry.1 else [] := by
  have hany : c.keys.any (isStale m) = true ↔ (c.dropStale m).size < c.size := by
    rw [size, size, entries_dropStale, List.length_filter_lt_length_iff_exists, keys,
      List.any_map, List.any_eq_true]
    simp only [Function.comp_apply, Bool.not_eq_true', Bool.not_eq_false]
  have hfull : (c.dropStale m).isFull = true ↔ ¬(c.dropStale m).size < c.size := by
    rw [isFull, decide_eq_true_iff, not_lt, h]
    rfl
  unfold evict
  by_cases hstale : c.keys.any (isStale m) = true
  · have hroom : ¬(c.dropStale m).isFull = true := fun h => hfull.1 h (hany.1 hstale)
    rw [if_pos hstale, if_neg hroom, entries_dropStale]
  · rw [if_neg hstale, if_pos (hfull.2 (mt hany.2 hstale))]
    rfl

/-- Making room in a cache that is just full leaves room. -/
theorem size_evict_lt (h : c.size = c.capacity) (hpos : 0 < c.capacity) (m : Mapper α) :
    (c.evict m).size < c.capacity := by
  rw [size, entries_evict h, ← h]
  split_ifs with hstale
  · obtain ⟨key, hkey, hkeystale⟩ := List.any_eq_true.1 hstale
    obtain ⟨entry, hentry, rfl⟩ := List.mem_map.1 hkey
    refine List.length_filter_lt_length_iff_exists.2 ⟨entry, hentry, ?_⟩
    rw [hkeystale]
    exact Bool.false_ne_true
  · rwa [h]

theorem compilations_call (c : Cache α) (d : Call α) :
    (c.call d).compilations = c.compilations + if c.misses d then 1 else 0 := by
  cases d with
  | invalidate m => rfl
  | clear => rfl
  | get filter m =>
    cases hmiss : c.misses (.get filter m) with
    | false =>
      rw [call, get_of_not_misses hmiss]
      rfl
    | true =>
      rw [call, get_of_misses hmiss]
      refine congrArg (· + 1) ?_
      split_ifs
      · exact compilations_evict c m
      · rfl

/-- A key that a call takes away was dropped in one of the ways there are. -/
theorem drops_of_not_mem_call {d : Call α} (hkey : key ∈ c.keys) (h : key ∉ (c.call d).keys) :
    Drops c key d := by
  obtain ⟨entry, hentry, rfl⟩ := List.mem_map.1 hkey
  cases d with
  | clear => exact .clear
  | invalidate m =>
    refine .invalidate (not_ne_iff.1 fun hne => h (List.mem_map_of_mem ?_))
    exact List.mem_filter.2 ⟨hentry, decide_eq_true hne.symm⟩
  | get filter m =>
    cases hmiss : c.misses (.get filter m) with
    | false =>
      rw [call, get_of_not_misses hmiss] at h
      exact absurd hkey h
    | true =>
      refine .get hmiss (by_contra fun hroom => h (List.mem_map_of_mem ?_))
      rw [call, get_of_misses hmiss, if_neg hroom]
      exact List.mem_append_left _ hentry

end Step

/-! ## The invariant -/

/-- There is one entry for each key, and no more than the capacity. -/
structure Fits (capacity : Nat) (c : Cache α) : Prop where
  capacity_eq : c.capacity = max capacity 1
  nodup : c.keys.Nodup
  size_le : c.size ≤ max capacity 1

section Fits

variable {c : Cache α} {capacity : Nat}

theorem fits_withCapacity (capacity : Nat) : (withCapacity capacity : Cache α).Fits capacity :=
  ⟨rfl, List.nodup_nil, Nat.zero_le _⟩

/-- To keep some of the entries keeps the invariant. -/
theorem Fits.of_sublist {c' : Cache α} (h : c.Fits capacity) (hcapacity : c'.capacity = c.capacity)
    (hentries : c'.entries.Sublist c.entries) : c'.Fits capacity where
  capacity_eq := hcapacity.trans h.capacity_eq
  nodup := h.nodup.sublist (hentries.map Prod.fst)
  size_le := hentries.length_le.trans h.size_le

theorem Fits.store (h : c.Fits capacity) {key : CacheKey} (hkey : key ∉ c.keys)
    (hroom : c.size < max capacity 1) (result : Compiled α) :
    (c.store key result).Fits capacity where
  capacity_eq := h.capacity_eq
  nodup := by
    rw [keys, Cache.store, List.map_append]
    exact List.concat_eq_append ▸ h.nodup.concat hkey
  size_le := by
    rw [size, Cache.store, List.length_append]
    exact hroom

theorem Fits.isFull_iff (h : c.Fits capacity) : c.isFull = true ↔ c.size = max capacity 1 := by
  rw [isFull, decide_eq_true_iff, h.capacity_eq]
  exact ⟨h.size_le.antisymm, ge_of_eq⟩

theorem entries_evict_sublist (c : Cache α) (m : Mapper α) :
    (c.evict m).entries.Sublist c.entries := by
  unfold evict
  dsimp only
  split_ifs
  · exact List.nil_sublist _
  · exact List.filter_sublist

theorem Fits.call (h : c.Fits capacity) (d : Call α) : (c.call d).Fits capacity := by
  cases d with
  | clear => exact h.of_sublist rfl (List.nil_sublist _)
  | invalidate m => exact h.of_sublist rfl List.filter_sublist
  | get filter m =>
    rw [Cache.call]
    cases hmiss : c.misses (.get filter m) with
    | false =>
      rw [get_of_not_misses hmiss]
      exact h
    | true =>
      have hkey : keyOf filter m ∉ c.keys := of_decide_eq_true hmiss
      rw [get_of_misses hmiss]
      split_ifs with hfull
      · have hsize : c.size = c.capacity := (h.isFull_iff.1 hfull).trans h.capacity_eq.symm
        have hpos : 0 < c.capacity := h.capacity_eq ▸ Nat.le_max_right capacity 1
        refine (h.of_sublist (capacity_evict c m) (entries_evict_sublist c m)).store ?_ ?_ _
        · exact fun hmem => hkey (((entries_evict_sublist c m).map Prod.fst).subset hmem)
        · exact h.capacity_eq ▸ size_evict_lt hsize hpos m
      · exact h.store hkey (h.size_le.lt_of_ne (mt h.isFull_iff.2 hfull)) _

theorem fits_run (capacity : Nat) (calls : List (Call α)) :
    ((withCapacity capacity).run calls).Fits capacity := by
  induction calls using List.reverseRecOn with
  | nil => exact fits_withCapacity capacity
  | append_singleton calls d ih =>
    rw [run_concat]
    exact ih.call d

/-- What a full cache lacks takes the place of the stale entries, or else of all. -/
theorem Fits.entries_get (h : c.Fits capacity) {filter : String} {m : Mapper α}
    (hmiss : c.misses (.get filter m) = true) :
    (c.get filter m).2.entries =
      (if c.size < max capacity 1 then c.entries
        else if c.keys.any (isStale m) then c.entries.filter fun entry => !isStale m entry.1
        else []) ++ [(keyOf filter m, m.compile filter)] := by
  rw [get_of_misses hmiss, Cache.store]
  by_cases hfull : c.isFull = true
  · have hsize := h.isFull_iff.1 hfull
    rw [if_pos hfull, if_neg hsize.not_lt, entries_evict (hsize.trans h.capacity_eq.symm)]
  · rw [if_neg hfull, if_pos (h.size_le.lt_of_ne (mt h.isFull_iff.2 hfull))]

end Fits

/-- An entry that is gone after some calls was dropped by one of them. -/
theorem exists_drops_of_not_mem_run {c : Cache α} {key : CacheKey} (hkey : key ∈ c.keys)
    {later : List (Call α)} (h : key ∉ (c.run later).keys) :
    ∃ before d after, later = before ++ d :: after ∧ Drops (c.run before) key d := by
  induction later using List.reverseRecOn with
  | nil => exact absurd hkey h
  | append_singleton later d ih =>
    rw [run_concat] at h
    by_cases hstill : key ∈ (c.run later).keys
    · exact ⟨later, d, [], rfl, drops_of_not_mem_call hstill h⟩
    · obtain ⟨before, e, after, rfl, hdrops⟩ := ih hstill
      exact ⟨before, e, after ++ [d], by rw [List.append_assoc]; rfl, hdrops⟩

/-- After any calls, with any mappers at any versions, a cache holds one entry for each key and no
more than its capacity. A further call compiles once if it finds no entry, and not otherwise. An
entry is there until a clearing, until its mapper is invalidated, or until the cache is full and
lacks another entry. That one takes the place of the entries of its mapper at other versions, if
there are any, and else of all. -/
theorem occupancy_run (capacity : Nat) (calls : List (Call α)) :
    let c := (withCapacity capacity).run calls
    c.keys.Nodup ∧ c.size ≤ max capacity 1 ∧
    (∀ d, (c.call d).compilations = c.compilations + if c.misses d then 1 else 0) ∧
    (∀ key ∈ c.keys, ∀ later, key ∉ (c.run later).keys →
      ∃ before d after, later = before ++ d :: after ∧ Drops (c.run before) key d) ∧
    ∀ filter m, c.misses (.get filter m) = true →
      (c.call (.get filter m)).entries =
        (if c.size < max capacity 1 then c.entries
          else if c.keys.any (isStale m) then c.entries.filter fun entry => !isStale m entry.1
          else []) ++ [(keyOf filter m, m.compile filter)] := by
  intro c
  have hfits : c.Fits capacity := fits_run capacity calls
  refine ⟨hfits.nodup, hfits.size_le, compilations_call c, ?_, ?_⟩
  · intro key hkey later hgone
    exact exists_drops_of_not_mem_run hkey hgone
  · intro filter m hmiss
    exact hfits.entries_get hmiss

/-- A full cache with an entry of a mapper at its former version, with a failure, and with an entry
of another mapper. The failure is found again. What the first mapper lacks takes the place of its
former entry alone, and what a third mapper lacks takes the place of all. -/
theorem occupancy_run_three_entries :
    let name : FieldMapping Person := ⟨"Name", .ofOrigin "name" fun p => .string p.name, .string, none⟩
    let people := (Mapper.empty 7 .standard).override name
    let changed := people.exclude "Nick"
    let others := (Mapper.empty 8 .standard).override name
    let visitors := (Mapper.empty 9 .standard).override name
    let c := (withCapacity 3).run
      [.get "Name==Bob" people, .get "Age==7" changed, .get "Name==Bob" others]
    (c.call (.get "Age==7" changed)).compilations = 3 ∧
    (c.call (.get "Name==Eve" changed)).keys =
      [keyOf "Age==7" changed, keyOf "Name==Bob" others, keyOf "Name==Eve" changed] ∧
    (c.call (.get "Name==Eve" visitors)).keys = [keyOf "Name==Eve" visitors] := by
  intro name people changed others visitors c
  have hfound : c.misses (.get "Age==7" changed) = false := by decide
  have hchanged : c.misses (.get "Name==Eve" changed) = true := by decide
  have hvisitors : c.misses (.get "Name==Eve" visitors) = true := by decide
  obtain ⟨-, -, hcompilations, -, hentries⟩ := occupancy_run 3
    [.get "Name==Bob" people, .get "Age==7" changed, .get "Name==Bob" others]
  refine ⟨?_, ?_, ?_⟩
  · rw [hcompilations, if_neg (Bool.eq_false_iff.1 hfound)]
    rfl
  · rw [keys, hentries _ _ hchanged]
    rfl
  · rw [keys, hentries _ _ hvisitors]
    rfl

end Cache

end RecordFilter
