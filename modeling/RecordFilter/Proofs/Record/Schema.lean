import RecordFilter.Proofs.Mapper.Keys
import RecordFilter.Record

/-!
# Mappers of schemas

The fields of a schema are registered one after another. Two registrations are the same only if they
are of one field and one type, so a mapper that was built maps exactly the fields of its schema,
each to its own accessor (`mapsFields_of_mapper`).
-/

namespace RecordFilter

namespace Schema

/-- The mapper excludes nothing and maps the fields of the schema and nothing else. -/
structure MapsFields (m : Mapper Record) (s : Schema) : Prop where
  isExcludedKey_eq : ∀ key, m.isExcludedKey key = false
  mapping?_eq_some_iff : ∀ key f,
    m.mapping? key = some f ↔ ∃ e ∈ s, key = m.key e.1 ∧ f = mapping e

theorem eq_of_sameAs {d e : String × ValueType} (h : (mapping d).sameAs (mapping e) = true) :
    d = e := by
  obtain ⟨name, type⟩ := d
  obtain ⟨name', type'⟩ := e
  simp only [FieldMapping.sameAs, Accessor.sameAs, mapping, accessor, Accessor.keyed,
    Bool.and_eq_true, beq_iff_eq, List.cons.injEq, Hop.mk.injEq, Option.some.injEq, true_and,
    and_true] at h
  exact Prod.ext h.1 h.2

theorem mapsFields_empty (id : Nat) (config : Config) : MapsFields (.empty id config) [] where
  isExcludedKey_eq key := rfl
  mapping?_eq_some_iff key f := by simp [Mapper.mapping?, Mapper.empty]

/-- To register a field adds it, or changes nothing because it is there. -/
theorem MapsFields.register {m m' : Mapper Record} {s : Schema} (h : MapsFields m s)
    {e : String × ValueType} (hm' : m.register (mapping e) = .ok m') :
    MapsFields m' (s ++ [e]) ∧ m'.config = m.config := by
  unfold Mapper.register at hm'
  dsimp only at hm'
  rw [h.isExcludedKey_eq, if_neg Bool.false_ne_true] at hm'
  cases hg : m.mapping? (m.key (mapping e).name) with
  | some g =>
    obtain ⟨d, hd, -, rfl⟩ := (h.mapping?_eq_some_iff _ g).1 hg
    rw [hg] at hm'
    dsimp only at hm'
    split_ifs at hm' with hsame
    cases hm'
    obtain rfl := eq_of_sameAs hsame
    refine ⟨⟨h.isExcludedKey_eq, fun key f => ?_⟩, rfl⟩
    rw [h.mapping?_eq_some_iff]
    constructor
    · rintro ⟨d', hd', hkey, hf⟩
      exact ⟨d', List.mem_append_left _ hd', hkey, hf⟩
    · rintro ⟨d', hd', hkey, hf⟩
      rcases List.mem_append.1 hd' with hd' | hd'
      · exact ⟨d', hd', hkey, hf⟩
      · exact ⟨d, hd, List.mem_singleton.1 hd' ▸ hkey, List.mem_singleton.1 hd' ▸ hf⟩
  | none =>
    rw [hg] at hm'
    cases hm'
    refine ⟨⟨h.isExcludedKey_eq, fun key f => ?_⟩, rfl⟩
    show Mapper.mapping? (Mapper.bump (Mapper.put m (m.key (mapping e).name) (mapping e))) key =
      some f ↔ _
    rw [Mapper.mapping?_bump, Mapper.mapping?_put]
    constructor
    · intro hf
      split_ifs at hf with hkey
      · cases hf
        exact ⟨e, List.mem_append_right _ (List.mem_singleton.2 rfl), hkey, rfl⟩
      · obtain ⟨d, hd, hkey', hfd⟩ := (h.mapping?_eq_some_iff key f).1 hf
        exact ⟨d, List.mem_append_left _ hd, hkey', hfd⟩
    · rintro ⟨d, hd, hkey, hf⟩
      rcases List.mem_append.1 hd with hd | hd
      · have hmapped := (h.mapping?_eq_some_iff key f).2 ⟨d, hd, hkey, hf⟩
        rw [if_neg, hmapped]
        rintro rfl
        rw [hg] at hmapped
        cases hmapped
      · rw [List.mem_singleton.1 hd] at hkey hf
        rw [hf]
        exact if_pos hkey

theorem MapsFields.registerAll {m m' : Mapper Record} {s t : Schema} (h : MapsFields m s)
    (hm' : Schema.registerAll m (t.map mapping) = .ok m') :
    MapsFields m' (s ++ t) ∧ m'.config = m.config := by
  induction t generalizing m s with
  | nil =>
    cases hm'
    rw [List.append_nil]
    exact ⟨h, rfl⟩
  | cons e t ih =>
    rw [List.map_cons, Schema.registerAll] at hm'
    cases hreg : m.register (mapping e) with
    | error fault =>
      rw [hreg] at hm'
      cases hm'
    | ok n =>
      rw [hreg] at hm'
      obtain ⟨hn, hconfig⟩ := h.register hreg
      have hrest := ih hn hm'
      rw [List.append_assoc, hconfig] at hrest
      exact hrest

/-- A mapper that was built from a schema maps its fields, under the settings it was built with. -/
theorem mapsFields_of_mapper {s : Schema} {id : Nat} {config : Config} {m : Mapper Record}
    (h : s.mapper id config = .ok m) : MapsFields m s ∧ m.config = config := by
  unfold mapper at h
  cases hall : Schema.registerAll (.empty id config) (s.map mapping) with
  | error fault =>
    rw [hall] at h
    cases h
  | ok n =>
    rw [hall] at h
    cases h
    exact (mapsFields_empty id config).registerAll hall

/-! ## Schemas with distinct names -/

theorem MapsFields.exists_registerAll {m : Mapper Record} {s t : Schema} (h : MapsFields m s)
    (hkeys : ((s ++ t).map fun e => m.key e.1).Nodup) :
    ∃ m', Schema.registerAll m (t.map mapping) = .ok m' := by
  induction t generalizing m s with
  | nil => exact ⟨m, rfl⟩
  | cons e t ih =>
    have hfree : m.mapping? (m.key e.1) = none := by
      refine Option.eq_none_iff_forall_ne_some.2 fun f hf => ?_
      obtain ⟨d, hd, hkey, -⟩ := (h.mapping?_eq_some_iff _ f).1 hf
      rw [List.map_append] at hkeys
      exact (List.nodup_append.1 hkeys).2.2 _ (List.mem_map_of_mem hd) _ List.mem_cons_self
        hkey.symm
    have hreg : m.register (mapping e) = .ok (m.put (m.key e.1) (mapping e)).bump := by
      unfold Mapper.register
      dsimp only
      rw [h.isExcludedKey_eq, if_neg Bool.false_ne_true, show (mapping e).name = e.1 from rfl,
        hfree]
    obtain ⟨hm, -⟩ := h.register hreg
    rw [List.map_cons, Schema.registerAll, hreg]
    refine ih hm ?_
    rwa [List.append_assoc]

/-- A schema whose names have distinct keys has a mapper. -/
theorem exists_mapper {s : Schema} {config : Config} (id : Nat)
    (hkeys : (s.map fun e => Mapper.keyWith config e.1).Nodup) :
    ∃ m, s.mapper id config = .ok m := by
  obtain ⟨m, hm⟩ := (mapsFields_empty id config).exists_registerAll (t := s) hkeys
  refine ⟨m, ?_⟩
  rw [mapper, hm]
  rfl

theorem MapsFields.resolve_eq {m : Mapper Record} {s : Schema} (h : MapsFields m s)
    {e : String × ValueType} (he : e ∈ s) : m.resolve e.1 = .ok (mapping e) := by
  rw [Mapper.resolve_eq, h.isExcludedKey_eq, if_neg Bool.false_ne_true,
    (h.mapping?_eq_some_iff _ _).2 ⟨e, he, rfl, rfl⟩]

end Schema

end RecordFilter
