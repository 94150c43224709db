import RecordFilter.Proofs.Mapper.Table
import RecordFilter.Proofs.Record.Distinct
import RecordFilter.Proofs.Record.Path
import RecordFilter.Proofs.Record.Schema
import RecordFilter.Proofs.Text.Bytes

/-!
# When a schema has a mapper

Schemas that were read or inferred are sorted (`sorted_of_read`, `sorted_infer`), so the names of
their fields are distinct, and a field is refused exactly if the key of its name was taken by one
before it. That needs case not to count, and what is reported is the first name that has the small
letters of an earlier one (`mapper_cases`). A mapper that was built has the names of its schema
(`names_of_mapper`) and reads along them (`readsField_mapping`).
-/

namespace RecordFilter

namespace Schema

/-! ## Schemas that were read -/

theorem map_fst_of_readTypes {members : List (String × String)} {s : Schema}
    (h : readTypes members = .ok s) : s.map Prod.fst = members.map Prod.fst := by
  induction members generalizing s with
  | nil =>
    cases h
    rfl
  | cons m members ih =>
    obtain ⟨field, name⟩ := m
    rw [readTypes] at h
    cases htype : ValueType.ofName? name with
    | none =>
      rw [htype] at h
      cases h
    | some type =>
      cases hrest : readTypes members with
      | error fault =>
        rw [htype, hrest] at h
        cases h
      | ok rest =>
        rw [htype, hrest] at h
        cases h
        exact congrArg (field :: ·) (ih hrest)

/-- To keep the members that are texts keeps their names. -/
theorem fst_eq_of_string {d : String × Json} {d' : String × String}
    (h : (match d with
      | (k, .string v) => some (k, v)
      | _ => none) = some d') : d'.1 = d.1 := by
  obtain ⟨k, j⟩ := d
  cases j <;> cases h
  rfl

theorem sorted_sortNames (members : List (String × String)) :
    Table.Sorted (sortNames members) := by
  have hall : Table.Sorted
      (members.foldl (fun o m => Json.Object.insert m.1 (.string m.2) o) []) := by
    simp only [Json.Object.insert_eq]
    have hfold := Table.sorted_foldl .nil (members.map fun m => (m.1, Json.string m.2))
    rwa [List.foldl_map] at hfold
  refine List.Pairwise.filterMap _ (fun d e hlt d' hd e' he => ?_) hall
  rwa [fst_eq_of_string hd, fst_eq_of_string he]

/-- A schema that was read is sorted, as one that was inferred is. -/
theorem sorted_of_read {text : String} {s : Schema} (h : read text = .ok s) : Table.Sorted s := by
  unfold read at h
  split at h
  · split at h
    · next ms _ =>
      have hnames : (s.map Prod.fst).Pairwise fun n n' => compare n n' = .lt := by
        rw [map_fst_of_readTypes h]
        exact List.pairwise_map.2 (sorted_sortNames ms)
      exact List.pairwise_map.1 hnames
    · cases h
  · cases h

variable {s : Schema} {m : Mapper Record} {id : Nat} {config : Config}

/-! ## Names that differ in case -/

/-- A name before this one, in the order of bytes, has the same small letters. -/
def Repeats (s : Schema) (name : String) : Prop :=
  ∃ d ∈ s, compare (Text.bytes d.1) (Text.bytes name) = .lt ∧
    Text.asciiLowered d.1 = Text.asciiLowered name

/-- The first name of the schema, in the order of bytes, that repeats an earlier one. -/
structure FirstRepeat (s : Schema) (name : String) : Prop where
  mem : name ∈ s.map Prod.fst
  repeats : s.Repeats name
  first : ∀ n ∈ s.map Prod.fst, compare (Text.bytes n) (Text.bytes name) = .lt → ¬s.Repeats n

theorem keyWith_eq_iff (config : Config) (n n' : String) :
    Mapper.keyWith config n = Mapper.keyWith config n' ↔
      n = n' ∨ config.caseSensitiveFields = false ∧ Text.asciiLowered n = Text.asciiLowered n' := by
  unfold Mapper.keyWith
  cases config.caseSensitiveFields with
  | true => simp
  | false => simpa using congrArg Text.asciiLowered

theorem fst_lt_of_split {before after : Schema} {d e : String × ValueType}
    (hs : Table.Sorted (before ++ e :: after)) (hd : d ∈ before) : d.1 < e.1 :=
  compare_lt_iff_lt.1 ((List.pairwise_append.1 hs).2.2 d hd e List.mem_cons_self)

/-- In a sorted table, what has a smaller name than an entry stands before it. -/
theorem mem_before {before after : Schema} {d e : String × ValueType}
    (hs : Table.Sorted (before ++ e :: after)) (hd : d ∈ before ++ e :: after)
    (hlt : compare d.1 e.1 = .lt) : d ∈ before := by
  rcases List.mem_append.1 hd with hd | hd
  · exact hd
  · exfalso
    rw [compare_lt_iff_lt] at hlt
    rcases List.mem_cons.1 hd with rfl | hd
    · exact lt_irrefl _ hlt
    · have hafter := (List.pairwise_cons.1 (List.pairwise_append.1 hs).2.1).1 d hd
      exact lt_asymm hlt (compare_lt_iff_lt.1 hafter)

theorem firstRepeat_of_split {before after : Schema} {d e : String × ValueType}
    (hs : Table.Sorted (before ++ e :: after)) (hconfig : config.caseSensitiveFields = false)
    (hbefore : (before.map fun d => Mapper.keyWith config d.1).Nodup) (hd : d ∈ before)
    (hlowered : Text.asciiLowered d.1 = Text.asciiLowered e.1) :
    FirstRepeat (before ++ e :: after) e.1 where
  mem := List.mem_map_of_mem (List.mem_append_right _ List.mem_cons_self)
  repeats := by
    refine ⟨d, List.mem_append_left _ hd, ?_, hlowered⟩
    rw [Text.compare_bytes, compare_lt_iff_lt]
    exact fst_lt_of_split hs hd
  first := by
    rintro _ hn hlt ⟨d', hd', hlt', hlowered'⟩
    obtain ⟨f, hf, rfl⟩ := List.mem_map.1 hn
    rw [Text.compare_bytes] at hlt hlt'
    -- both stand before the field, where the keys are distinct
    have heq : d' = f := List.inj_on_of_nodup_map hbefore
      (mem_before hs hd' (Std.TransCmp.lt_trans hlt' hlt)) (mem_before hs hf hlt)
      ((keyWith_eq_iff config _ _).2 (.inr ⟨hconfig, hlowered'⟩))
    exact lt_irrefl f.1 (compare_lt_iff_lt.1 (heq ▸ hlt'))

/-! ## Registrations in a row -/

theorem registerAll_append (m : Mapper Record) (before after : List (FieldMapping Record)) :
    registerAll m (before ++ after) = registerAll m before >>= (registerAll · after) := by
  induction before generalizing m with
  | nil => rfl
  | cons f fs ih =>
    rw [List.cons_append, registerAll, registerAll]
    cases m.register f with
    | error fault => rfl
    | ok n => exact ih n

/-- Registrations that are all taken are changes made one after another. -/
theorem eq_run_of_registerAll {fs : List (FieldMapping Record)} {n : Mapper Record}
    (h : registerAll m fs = .ok n) : n = m.run (fs.map .register) := by
  induction fs generalizing m with
  | nil =>
    cases h
    rfl
  | cons f fs ih =>
    rw [registerAll] at h
    cases hreg : m.register f with
    | error fault =>
      rw [hreg] at h
      cases h
    | ok m' =>
      rw [hreg] at h
      have hchange : m.change (.register f) = m' := by simp only [Mapper.change, hreg]
      rw [List.map_cons, Mapper.run_cons, hchange]
      exact ih h

/-- A field with another name than all before it is refused if its key is taken. -/
theorem MapsFields.register_eq_error (h : MapsFields m s) {d e : String × ValueType} (hd : d ∈ s)
    (hname : d.1 ≠ e.1) (hkey : m.key d.1 = m.key e.1) :
    m.register (mapping e) = .error (.conflicting e.1) := by
  have hmapped : m.mapping? (m.key (mapping e).name) = some (mapping d) :=
    (h.mapping?_eq_some_iff _ _).2 ⟨d, hd, hkey.symm, rfl⟩
  have hdiff : ¬(mapping d).sameAs (mapping e) = true :=
    fun hsame => hname (congrArg Prod.fst (eq_of_sameAs hsame))
  unfold Mapper.register
  dsimp only
  rw [h.isExcludedKey_eq, if_neg Bool.false_ne_true, hmapped]
  exact if_neg hdiff

/-- A list with two elements of one image has a first element whose image was there before. -/
theorem exists_first_repeated {α β : Type} (f : α → β) {l : List α}
    (h : ¬(l.map f).Nodup) :
    ∃ before e after, l = before ++ e :: after ∧ (before.map f).Nodup ∧ f e ∈ before.map f := by
  induction l using List.reverseRecOn with
  | nil => exact absurd List.nodup_nil h
  | append_singleton l x ih =>
    by_cases hl : (l.map f).Nodup
    · refine ⟨l, x, [], rfl, hl, ?_⟩
      by_contra hx
      rw [List.map_append, List.map_singleton, ← List.concat_eq_append] at h
      exact h (hl.concat hx)
    · obtain ⟨before, e, after, rfl, hbefore, he⟩ := ih hl
      exact ⟨before, e, after ++ [x], by simp, hbefore, he⟩

/-- A schema has a mapper if its names have distinct keys. Otherwise the first name whose key was
taken is reported. -/
theorem mapper_cases (hs : Table.Sorted s) (id : Nat) (config : Config) :
    (s.map fun e => Mapper.keyWith config e.1).Nodup ∧ (∃ m, s.mapper id config = .ok m) ∨
      config.caseSensitiveFields = false ∧ ∃ name, s.FirstRepeat name ∧
        s.mapper id config = .error (.registration (.conflicting name)) := by
  by_cases hkeys : (s.map fun e => Mapper.keyWith config e.1).Nodup
  · exact .inl ⟨hkeys, exists_mapper id hkeys⟩
  · obtain ⟨before, e, after, rfl, hbefore, he⟩ := exists_first_repeated _ hkeys
    obtain ⟨d, hd, hkey⟩ := List.mem_map.1 he
    have hne : d.1 ≠ e.1 := (fst_lt_of_split hs hd).ne
    obtain ⟨hconfig, hlowered⟩ := ((keyWith_eq_iff config _ _).1 hkey).resolve_left hne
    refine .inr ⟨hconfig, e.1, firstRepeat_of_split hs hconfig hbefore hd hlowered, ?_⟩
    obtain ⟨n, hn⟩ := (mapsFields_empty id config).exists_registerAll (t := before) hbefore
    obtain ⟨hmaps, hn'⟩ := (mapsFields_empty id config).registerAll hn
    have hrefused := hmaps.register_eq_error hd hne (by
      rw [Mapper.key_eq_of_config hn', Mapper.key_eq_of_config hn']
      exact hkey)
    rw [mapper, List.map_append, List.map_cons, registerAll_append, hn]
    show (registerAll n (mapping e :: _)).mapError _ = _
    rw [registerAll, hrefused]
    rfl

/-! ## Names -/

theorem sound_of_mapper (h : s.mapper id config = .ok m) : m.Sound := by
  unfold mapper at h
  cases hall : registerAll (.empty id config) (s.map mapping) with
  | error fault =>
    rw [hall] at h
    cases h
  | ok n =>
    rw [hall] at h
    cases h
    rw [eq_run_of_registerAll hall]
    exact (Mapper.sound_empty id config).run _

theorem mem_names_of_mapper_iff (h : s.mapper id config = .ok m) (name : String) :
    name ∈ m.names ↔ name ∈ s.map Prod.fst := by
  obtain ⟨hmaps, -⟩ := mapsFields_of_mapper h
  rw [(Mapper.perm_names m).mem_iff, List.mem_map, List.mem_map]
  constructor
  · rintro ⟨entry, hentry, rfl⟩
    have hmapped := (sound_of_mapper h).mapping?_of_mem hentry
    obtain ⟨e, he, -, hf⟩ := (hmaps.mapping?_eq_some_iff _ _).1 hmapped
    exact ⟨e, he, by rw [hf]; rfl⟩
  · rintro ⟨e, he, rfl⟩
    have hmapped := (hmaps.mapping?_eq_some_iff _ _).2 ⟨e, he, rfl, rfl⟩
    obtain ⟨before, after, hsplit, -⟩ := List.lookup_eq_some_iff.1 hmapped
    exact ⟨(m.key e.1, mapping e), hsplit ▸ List.mem_append_right _ List.mem_cons_self, rfl⟩

/-- A mapper that was built has the names of its schema, in their order. -/
theorem names_of_mapper (hs : Table.Sorted s) (h : s.mapper id config = .ok m) :
    m.names = s.map Prod.fst := by
  have hsorted : (s.map Prod.fst).Pairwise (· < ·) :=
    List.pairwise_map.2 (hs.imp compare_lt_iff_lt.1)
  exact (sound_of_mapper h).pairwise_names.eq_of_mem_iff hsorted (mem_names_of_mapper_iff h)

/-! ## Fields of the mapper -/

/-- What a field of the schema is mapped to. A record is read along the segments of its name; it
gives null if they lead nowhere, and the converted value at their end otherwise. -/
structure ReadsField (e : String × ValueType) (f : FieldMapping Record) : Prop where
  name_eq : f.name = e.1
  type_eq : f.type = e.2
  reader_eq : f.reader = none
  read_of_misses : ∀ r : Record, r.Misses e.1.toList → f.read r = .null
  read_of_not_misses : ∀ r : Record, ¬r.Misses e.1.toList →
    ∃ j, r.Holds e.1.toList j ∧ f.read r = Record.convert e.2 j

theorem readsField_mapping (e : String × ValueType) : ReadsField e (mapping e) where
  name_eq := rfl
  type_eq := rfl
  reader_eq := rfl
  read_of_misses _ h := Record.readField_of_misses h e.2
  read_of_not_misses r h := by
    obtain ⟨j, hj⟩ := (Record.misses_or_holds r e.1.toList).resolve_left h
    exact ⟨j, hj, Record.readField_of_holds hj e.2⟩

/-- A schema has no mapper exactly if case does not count and two of its names differ in nothing
else; the name that is reported is the first that repeats an earlier one. Otherwise the mapper has
the names of the schema and reads each of them along its path. -/
theorem mapper_unless_repeated (hs : Table.Sorted s) (id : Nat) (config : Config) :
    ((∃ fault, s.mapper id config = .error fault) ↔ config.caseSensitiveFields = false ∧
      ∃ d ∈ s, ∃ e ∈ s, d.1 ≠ e.1 ∧ Text.asciiLowered d.1 = Text.asciiLowered e.1) ∧
    (∀ fault, s.mapper id config = .error fault →
      ∃ name, fault = .registration (.conflicting name) ∧ s.FirstRepeat name) ∧
    ∀ m, s.mapper id config = .ok m → m.names = s.map Prod.fst ∧
      ∀ e ∈ s, ∃ f, m.resolve e.1 = .ok f ∧ ReadsField e f := by
  refine ⟨⟨?_, ?_⟩, ?_, fun m hm => ⟨names_of_mapper hs hm, fun e he => ?_⟩⟩
  · rintro ⟨fault, hfault⟩
    rcases mapper_cases hs id config with ⟨-, m, hm⟩ | ⟨hconfig, name, hfirst, -⟩
    · rw [hm] at hfault
      cases hfault
    · obtain ⟨d, hd, hlt, hlowered⟩ := hfirst.repeats
      obtain ⟨e, he, rfl⟩ := List.mem_map.1 hfirst.mem
      rw [Text.compare_bytes, compare_lt_iff_lt] at hlt
      exact ⟨hconfig, d, hd, e, he, hlt.ne, hlowered⟩
  · rintro ⟨hconfig, d, hd, e, he, hne, hlowered⟩
    rcases mapper_cases hs id config with ⟨hkeys, -⟩ | ⟨-, name, -, hfault⟩
    · have hkey := (keyWith_eq_iff config d.1 e.1).2 (.inr ⟨hconfig, hlowered⟩)
      exact absurd (congrArg Prod.fst (List.inj_on_of_nodup_map hkeys hd he hkey)) hne
    · exact ⟨_, hfault⟩
  · intro fault hfault
    rcases mapper_cases hs id config with ⟨-, m, hm⟩ | ⟨-, name, hfirst, hname⟩
    · rw [hm] at hfault
      cases hfault
    · rw [hname] at hfault
      cases hfault
      exact ⟨name, rfl, hfirst⟩
  · exact ⟨mapping e, (mapsFields_of_mapper hm).1.resolve_eq he, readsField_mapping e⟩

/-- Without case `id` repeats `ID` and is reported before `name`. With case there is a mapper. -/
theorem mapper_unless_repeated_id : ∃ s : Schema,
    s = [("ID", .int), ("Name", .string), ("id", .int), ("name", .string)] ∧ Table.Sorted s ∧
      s.mapper 0 ⟨false, true, false, 1⟩ = .error (.registration (.conflicting "id")) ∧
      s.FirstRepeat "id" ∧ ∃ m, s.mapper 0 .standard = .ok m ∧ m.names = s.map Prod.fst := by
  let s : Schema := [("ID", .int), ("Name", .string), ("id", .int), ("name", .string)]
  have hs : Table.Sorted s := by
    unfold Table.Sorted
    decide
  have hrefused : s.mapper 0 ⟨false, true, false, 1⟩ =
      .error (.registration (.conflicting "id")) := rfl
  have hname := (mapper_unless_repeated hs 0 ⟨false, true, false, 1⟩).2.1 _ hrefused
  have hbuilt := mapper_unless_repeated hs 0 .standard
  refine ⟨s, rfl, hs, hrefused, ?_, ?_⟩
  · obtain ⟨name, hname, hfirst⟩ := hname
    cases hname
    exact hfirst
  · cases hm : s.mapper 0 .standard with
    | error fault => cases (hbuilt.1.1 ⟨fault, hm⟩).1
    | ok m => exact ⟨m, rfl, (hbuilt.2.2 m hm).1⟩

end Schema

end RecordFilter
