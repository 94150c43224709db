import RecordFilter.Proofs.Record.Distinct
import RecordFilter.Proofs.Record.Path
import RecordFilter.Proofs.Record.Schema

/-!
# Inferred schemas

Inference joins the keys that lead to a member with dots, and reading splits the name again. The two
agree exactly on keys without dots of which the first is not empty (`pathOf_nameOf_iff`). A schema
describes the record that it was inferred from as far as its names come from such keys, and for any
other keys there is a record that it does not describe (`reads_as_inferred`).
-/

namespace RecordFilter

namespace Record

/-- Keys that lead through at most `depth` objects to a member that is none. -/
inductive Route : Nat → Record → List String → Json → Prop
  | leaf {depth : Nat} {r : Record} {key : String} {j : Json} (h : (key, j) ∈ r)
    (hj : ∀ s, j ≠ .object s) : Route depth r [key] j
  | inner {depth : Nat} {r s : Record} {key : String} {keys : List String} {j : Json}
    (h : (key, .object s) ∈ r) (hrest : Route depth s keys j) :
    Route (depth + 1) r (key :: keys) j

/-- The name that inference gives to the member at the end of the keys. -/
def nameOf (keys : List String) : String :=
  keys.foldl Schema.memberName ""

/-- No key has a dot in it, and the first one is not empty, unless it stands alone. -/
structure Addressable (keys : List String) : Prop where
  dotless : ∀ key ∈ keys, '.' ∉ key.toList
  first_ne : ∀ key rest, keys ≠ "" :: key :: rest

/-! ## Joining and splitting -/

variable {depth : Nat} {r : Record} {key path : String} {keys : List String} {j : Json}

theorem memberName_of_ne (h : path ≠ "") (key : String) :
    Schema.memberName path key = path ++ "." ++ key := by
  rw [Schema.memberName, if_neg]
  simpa using h

theorem memberName_ne_empty (h : path ≠ "") (key : String) : Schema.memberName path key ≠ "" := by
  rw [memberName_of_ne h]
  intro heq
  have hlist := congrArg String.toList heq
  simp at hlist

theorem pathOf_of_dotless (h : '.' ∉ key.toList) : pathOf key = [key] := by
  rw [pathOf, splitDots_eq, List.splitOn_eq_singleton h, List.map_singleton, String.ofList_toList]

theorem pathOf_memberName (h : path ≠ "") (key : String) :
    pathOf (Schema.memberName path key) = pathOf path ++ pathOf key := by
  have hlist : (path ++ "." ++ key).toList = path.toList ++ '.' :: key.toList := by simp
  rw [memberName_of_ne h, pathOf, hlist, splitDots_eq, List.splitOn_append_cons_self,
    List.map_append, ← splitDots_eq, ← splitDots_eq]
  rfl

theorem pathOf_foldl (h : path ≠ "") (keys : List String) :
    pathOf (keys.foldl Schema.memberName path) = pathOf path ++ keys.flatMap pathOf := by
  induction keys generalizing path with
  | nil => simp
  | cons key keys ih =>
    rw [List.foldl_cons, ih (memberName_ne_empty h key), pathOf_memberName h, List.flatMap_cons,
      List.append_assoc]

theorem flatMap_pathOf (h : ∀ key ∈ keys, '.' ∉ key.toList) : keys.flatMap pathOf = keys := by
  induction keys with
  | nil => rfl
  | cons key keys ih =>
    obtain ⟨hkey, hkeys⟩ := List.forall_mem_cons.1 h
    rw [List.flatMap_cons, pathOf_of_dotless hkey, ih hkeys]
    rfl

theorem nameOf_singleton (key : String) : nameOf [key] = key := rfl

theorem nameOf_empty_cons (key : String) (keys : List String) :
    nameOf ("" :: key :: keys) = nameOf (key :: keys) := rfl

theorem nameOf_cons (key : String) (keys : List String) :
    nameOf (key :: keys) = keys.foldl Schema.memberName key := rfl

theorem pathOf_nameOf (h : Addressable keys) (hne : keys ≠ []) : pathOf (nameOf keys) = keys := by
  obtain ⟨key, rest, rfl⟩ := List.exists_cons_of_ne_nil hne
  obtain ⟨hkey, hrest⟩ := List.forall_mem_cons.1 h.dotless
  rcases rest with - | ⟨key', rest⟩
  · exact pathOf_of_dotless hkey
  · have hfirst : key ≠ "" := fun heq => h.first_ne key' rest (heq ▸ rfl)
    rw [nameOf_cons, pathOf_foldl hfirst, pathOf_of_dotless hkey, flatMap_pathOf hrest]
    rfl

/-- Empty keys at the beginning are lost. -/
theorem length_pathOf_nameOf_le (h : ∀ key ∈ keys, '.' ∉ key.toList) (hne : keys ≠ []) :
    (pathOf (nameOf keys)).length ≤ keys.length := by
  induction keys with
  | nil => exact absurd rfl hne
  | cons key keys ih =>
    obtain ⟨hkey, hkeys⟩ := List.forall_mem_cons.1 h
    rcases keys with - | ⟨key', rest⟩
    · rw [nameOf_singleton, pathOf_of_dotless hkey]
    · by_cases hempty : key = ""
      · rw [hempty, nameOf_empty_cons]
        exact (ih hkeys (List.cons_ne_nil _ _)).trans (Nat.le_succ _)
      · have haddr : Addressable (key :: key' :: rest) :=
          ⟨h, fun k ks heq => hempty (List.cons.inj heq).1⟩
        rw [pathOf_nameOf haddr hne]

/-- Splitting gives back the joined keys exactly if they are addressable. -/
theorem pathOf_nameOf_iff (hne : keys ≠ []) : pathOf (nameOf keys) = keys ↔ Addressable keys := by
  refine ⟨fun h => ?_, fun h => pathOf_nameOf h hne⟩
  have hdotless : ∀ key ∈ keys, '.' ∉ key.toList := by
    intro key hkey
    rw [← h] at hkey
    obtain ⟨s, hs, rfl⟩ := List.mem_map.1 hkey
    rw [splitDots_eq] at hs
    rw [String.toList_ofList]
    exact Text.not_mem_of_mem_splitOn hs
  refine ⟨hdotless, fun key rest heq => ?_⟩
  rw [heq, nameOf_empty_cons] at h
  have hrest : ∀ k ∈ key :: rest, '.' ∉ k.toList :=
    fun k hk => hdotless k (heq ▸ List.mem_cons_of_mem _ hk)
  have hle := length_pathOf_nameOf_le hrest (List.cons_ne_nil _ _)
  rw [h, List.length_cons] at hle
  omega

/-! ## Following a route -/

theorem Route.ne_nil (h : Route depth r keys j) : keys ≠ [] := by
  cases h <;> exact List.cons_ne_nil _ _

theorem Route.lookup?_eq (h : Route depth r keys j) (hr : Distinct r) :
    lookup? r keys = some j := by
  induction h with
  | leaf h hj =>
    cases hr with
    | intro hkeys hinner => exact get?_of_mem hkeys h
  | inner h hrest ih =>
    cases hr with
    | intro hkeys hinner =>
      exact (lookup?_cons hrest.ne_nil _ _ _).2 ⟨_, get?_of_mem hkeys h, ih (hinner _ _ h)⟩

theorem Route.holds (h : Route depth r keys j) (hr : Distinct r) (haddr : Addressable keys) :
    r.Holds (nameOf keys).toList j := by
  rw [← lookup?_pathOf_eq_some_iff, pathOf_nameOf haddr h.ne_nil]
  exact h.lookup?_eq hr

end Record

namespace Schema

open Record

/-- The type that a member is given; an object is given none itself. -/
def leafType? : Json → Option ValueType
  | .bool _ => some .boolean
  | .number (.negative _) => some .int
  | .number (.natural n) => some (if n.toNat < Nat.pow 2 63 then .int else .uint)
  | .number (.double _) => some .float
  | .object _ => none
  | .null | .string _ | .array _ => some .string

variable {depth : Nat} {name path : String} {type : ValueType} {r : Record} {j : Json}
  {e : String × ValueType}

/-! ## What is inferred -/

theorem mem_inferMember_iff : e ∈ inferMember depth name j ↔
    (e.1 = name ∧ leafType? j = some e.2) ∨
      ∃ n s, depth = n + 1 ∧ j = .object s ∧ e ∈ inferMembers n name s := by
  obtain ⟨name', type⟩ := e
  cases j with
  | object s => cases depth <;> simp [inferMember, leafType?]
  | number n => cases n <;> simp [inferMember, leafType?, eq_comm]
  | _ => simp [inferMember, leafType?, eq_comm]

theorem mem_inferMembers : e ∈ inferMembers depth path r ↔
    ∃ m ∈ r, e ∈ inferMember depth (memberName path m.1) m.2 := by
  induction r with
  | nil => simp [inferMembers]
  | cons m r ih => simp [inferMembers, ih]

/-- What is inferred are the types of the members at the ends of all routes, under the joined
keys. -/
theorem mem_inferMembers_iff : e ∈ inferMembers depth path r ↔
    ∃ keys j, Route depth r keys j ∧ e.1 = keys.foldl memberName path ∧ leafType? j = some e.2 := by
  induction depth using Nat.strongRecOn generalizing path r with
  | _ depth ih =>
    rw [mem_inferMembers]
    constructor
    · rintro ⟨⟨key, j⟩, hmember, h⟩
      rcases mem_inferMember_iff.1 h with ⟨hname, htype⟩ | ⟨n, s, rfl, rfl, h⟩
      · exact ⟨[key], j, .leaf hmember (by rintro s rfl; cases htype), hname, htype⟩
      · obtain ⟨keys, j, hroute, hname, htype⟩ := (ih n (Nat.lt_succ_self n)).1 h
        exact ⟨key :: keys, j, .inner hmember hroute, hname, htype⟩
    · rintro ⟨keys, j, hroute, hname, htype⟩
      cases hroute with
      | leaf h hj => exact ⟨_, h, mem_inferMember_iff.2 (.inl ⟨hname, htype⟩)⟩
      | inner h hrest =>
        have hinner := (ih _ (Nat.lt_succ_self _)).2 ⟨_, j, hrest, hname, htype⟩
        exact ⟨_, h, mem_inferMember_iff.2 (.inr ⟨_, _, rfl, rfl, hinner⟩)⟩

/-- The keys lead to a member of the type and are joined to the name. -/
def Origin (depth : Nat) (r : Record) (name : String) (type : ValueType) (keys : List String) :
    Prop :=
  ∃ j, Route depth r keys j ∧ nameOf keys = name ∧ leafType? j = some type

theorem exists_origin (h : e ∈ infer depth r) : ∃ keys, Origin depth r e.1 e.2 keys := by
  rw [infer, ofFields_eq] at h
  obtain ⟨keys, j, hroute, hname, htype⟩ :=
    mem_inferMembers_iff.1 (Table.mem_of_mem_ofEntries h)
  exact ⟨keys, j, hroute, hname.symm, htype⟩

theorem exists_mapper_infer (id depth : Nat) (r : Record) :
    ∃ m, (infer depth r).mapper id .standard = .ok m := by
  refine exists_mapper id ?_
  show ((infer depth r).map Prod.fst).Nodup
  exact (sorted_infer depth r).nodup

/-! ## What is read -/

/-- What the mapper reads under the name has the type, or is the null that the record has there. -/
def ReadsAs (m : Mapper Record) (r : Record) (name : String) (type : ValueType) : Prop :=
  ∃ f, m.resolve name = .ok f ∧
    ((f.read r).type? = some type ∨ f.read r = .null ∧ r.Holds name.toList .null)

theorem convert_of_leafType? (h : leafType? j = some type) : convert type j = .ofJson j := by
  cases j with
  | string s =>
    cases h
    rfl
  | _ => rfl

theorem type?_ofJson (h : leafType? j = some type) :
    (Value.ofJson j).type? = some type ∨ j = .null := by
  cases j with
  | null => exact .inr rfl
  | object s => cases h
  | number n =>
    left
    cases n with
    | natural n =>
      rw [Value.ofJson]
      rw [leafType?] at h
      split_ifs at h ⊢ <;> exact h
    | _ => exact h
  | _ =>
    cases h
    exact .inl rfl

section ReadsAs

variable {m : Mapper Record} {s : Schema} (hm : MapsFields m s) (hmem : (name, type) ∈ s)
include hm hmem

theorem readsAs_iff : ReadsAs m r name type ↔
    (readField name type r).type? = some type ∨
      readField name type r = .null ∧ r.Holds name.toList .null := by
  have hresolve := hm.resolve_eq hmem
  refine ⟨?_, fun h => ⟨_, hresolve, h⟩⟩
  rintro ⟨f, hf, h⟩
  rw [hresolve] at hf
  cases hf
  exact h

theorem not_readsAs_of_lookup?_eq_none (h : lookup? r (pathOf name) = none) :
    ¬ReadsAs m r name type := by
  rw [readsAs_iff hm hmem, ← lookup?_pathOf_eq_some_iff, readField, h]
  rintro (htype | ⟨-, hnull⟩)
  · cases htype
  · cases hnull

theorem readsAs_of_origin {keys : List String} (hr : r.Distinct)
    (h : Origin depth r name type keys) (haddr : Addressable keys) : ReadsAs m r name type := by
  obtain ⟨j, hroute, rfl, htype⟩ := h
  have hholds := hroute.holds hr haddr
  rw [readsAs_iff hm hmem, readField_of_holds hholds, convert_of_leafType? htype]
  rcases type?_ofJson htype with hvalue | rfl
  · exact .inl hvalue
  · exact .inr ⟨rfl, hholds⟩

end ReadsAs

/-! ## Records with one member -/

/-- Objects in each other, the value in the innermost one. -/
def nest (j : Json) : List String → Json
  | [] => j
  | key :: keys => .object [(key, nest j keys)]

theorem distinct_nest {key : String} {keys : List String} (hj : ∀ s, j ≠ .object s) :
    Distinct [(key, nest j keys)] := by
  induction keys generalizing key with
  | nil =>
    refine .intro (List.nodup_singleton _) fun key' s h => ?_
    exact absurd (Prod.mk.inj (List.mem_singleton.1 h)).2.symm (hj s)
  | cons key' keys ih =>
    refine .intro (List.nodup_singleton _) fun k s h => ?_
    obtain ⟨-, hs⟩ := Prod.mk.inj (List.mem_singleton.1 h)
    cases hs
    exact ih

theorem route_nest {key : String} {keys : List String} (hj : ∀ s, j ≠ .object s) :
    Route keys.length [(key, nest j keys)] (key :: keys) j := by
  induction keys generalizing key with
  | nil => exact .leaf List.mem_cons_self hj
  | cons key' keys ih => exact .inner List.mem_cons_self ih

theorem inferMember_of_leafType? (h : leafType? j = some type) :
    inferMember depth name j = [(name, type)] := by
  cases j with
  | object s => cases h
  | number n =>
    cases n <;>
    · cases h
      rw [inferMember]
  | _ =>
    cases h
    rw [inferMember]

theorem inferMembers_nest {key : String} {keys : List String} (htype : leafType? j = some type) :
    inferMembers keys.length path [(key, nest j keys)] =
      [((key :: keys).foldl memberName path, type)] := by
  rw [inferMembers, inferMembers, List.append_nil]
  induction keys generalizing key path with
  | nil => exact inferMember_of_leafType? htype
  | cons key' keys ih =>
    rw [nest, inferMember, if_neg (by simp), List.length_cons, Nat.add_sub_cancel, inferMembers,
      inferMembers, List.append_nil]
    exact ih

theorem mem_infer_nest {key : String} {keys : List String} (htype : leafType? j = some type) :
    (nameOf (key :: keys), type) ∈ infer keys.length [(key, nest j keys)] := by
  rw [infer, inferMembers_nest htype]
  exact List.mem_cons_self

theorem get?_singleton {key k : String} {v w : Json}
    (h : Json.Object.get? [(key, v)] k = some w) : k = key ∧ w = v :=
  Prod.mk.inj (List.mem_singleton.1 (get?_eq_some h))

/-- Along any other path there are objects, or nothing. -/
theorem exists_object_of_lookup? {key : String} {keys path : List String} {v : Json}
    (hj : ∀ s, j ≠ .object s) (hpath : path ≠ key :: keys)
    (h : lookup? [(key, nest j keys)] path = some v) : ∃ s, v = .object s := by
  induction path generalizing key keys with
  | nil => cases h
  | cons k path ih =>
    rcases path with - | ⟨k', path⟩
    · obtain ⟨rfl, rfl⟩ := get?_singleton h
      cases keys with
      | nil => exact absurd rfl hpath
      | cons key' keys => exact ⟨_, rfl⟩
    · obtain ⟨s, hget, hrest⟩ := (lookup?_cons (List.cons_ne_nil k' path) _ k v).1 h
      obtain ⟨rfl, hs⟩ := get?_singleton hget
      cases keys with
      | nil => exact absurd hs.symm (hj s)
      | cons key' keys =>
        cases hs
        exact ih (fun heq => hpath (congrArg (List.cons k) heq)) hrest

/-- A truth value below keys that are not addressable is not read. -/
theorem not_readsAs_nest {m : Mapper Record} {s : Schema} {key : String} {keys : List String}
    (hm : MapsFields m s) (hmem : (nameOf (key :: keys), .boolean) ∈ s)
    (haddr : ¬Addressable (key :: keys)) :
    ¬ReadsAs m [(key, nest (.bool true) keys)] (nameOf (key :: keys)) .boolean := by
  have hpath := mt (pathOf_nameOf_iff (List.cons_ne_nil key keys)).1 haddr
  cases hv : lookup? [(key, nest (.bool true) keys)] (pathOf (nameOf (key :: keys))) with
  | none => exact not_readsAs_of_lookup?_eq_none hm hmem hv
  | some v =>
    obtain ⟨s, rfl⟩ := exists_object_of_lookup? (fun s hs => by cases hs) hpath hv
    rw [readsAs_iff hm hmem, readField, hv]
    rintro (htype | ⟨hread, -⟩)
    · cases htype
    · cases hread

/-! ## What inference promises -/

/-- A record's own mapper reads what was inferred, if addressable keys lead to a member of that name
and type; some keys always do. Any keys that are not addressable are those of a record whose mapper
does not read what was inferred. -/
theorem reads_as_inferred (id depth : Nat) {r : Record} (hr : r.Distinct) :
    (∃ m, (infer depth r).mapper id .standard = .ok m ∧
      ∀ name type, (name, type) ∈ infer depth r →
        (∃ keys, Origin depth r name type keys) ∧
        ((∃ keys, Origin depth r name type keys ∧ Addressable keys) → ReadsAs m r name type)) ∧
    ∀ keys, keys ≠ [] → ¬Addressable keys →
      ∃ n s m, s.Distinct ∧ Origin n s (nameOf keys) .boolean keys ∧
        (nameOf keys, .boolean) ∈ infer n s ∧ (infer n s).mapper id .standard = .ok m ∧
        ¬ReadsAs m s (nameOf keys) .boolean := by
  constructor
  · obtain ⟨m, hm⟩ := exists_mapper_infer id depth r
    refine ⟨m, hm, fun name type hmem => ⟨exists_origin hmem, ?_⟩⟩
    rintro ⟨keys, horigin, haddr⟩
    exact readsAs_of_origin (mapsFields_of_mapper hm).1 hmem hr horigin haddr
  · intro keys hne haddr
    obtain ⟨key, keys, rfl⟩ := List.exists_cons_of_ne_nil hne
    have hbool : ∀ s, Json.bool true ≠ .object s := fun s hs => by cases hs
    have hmem : (nameOf (key :: keys), ValueType.boolean) ∈
        infer keys.length [(key, nest (.bool true) keys)] := mem_infer_nest rfl
    obtain ⟨m, hm⟩ := exists_mapper_infer id keys.length [(key, nest (.bool true) keys)]
    exact ⟨keys.length, _, m, distinct_nest hbool, ⟨_, route_nest hbool, rfl, rfl⟩, hmem, hm,
      not_readsAs_nest (mapsFields_of_mapper hm).1 hmem haddr⟩

/-- A nested text, a number and a null. -/
theorem reads_as_inferred_city :
    ∃ m, (infer 1 [("Address", .object [("City", .string "Oslo")]), ("Note", .null)]).mapper 0
        .standard = .ok m ∧
      ReadsAs m [("Address", .object [("City", .string "Oslo")]), ("Note", .null)] "Address.City"
        .string := by
  have hr : Distinct [("Address", .object [("City", .string "Oslo")]), ("Note", .null)] := by
    refine .intro (by decide) fun key s hs => ?_
    rcases List.mem_cons.1 hs with heq | hs
    · cases heq
      exact .intro (by decide) fun key s hs => by cases List.mem_singleton.1 hs
    · cases List.mem_singleton.1 hs
  obtain ⟨⟨m, hm, hreads⟩, -⟩ := reads_as_inferred 0 1 hr
  refine ⟨m, hm, (hreads _ _ ?_).2 ⟨["Address", "City"], ⟨.string "Oslo", ?_, rfl, rfl⟩, ?_⟩⟩
  · decide
  · exact .inner List.mem_cons_self (.leaf List.mem_cons_self fun s hs => by cases hs)
  · exact (pathOf_nameOf_iff (List.cons_ne_nil _ _)).1 (by decide)

/-- A dot in a key leads astray, and an empty key is lost from the name. -/
theorem members_not_read_as_inferred :
    (∃ m, (infer 1 [("a.b", .number (.natural 1))]).mapper 0 .standard = .ok m ∧
      ("a.b", .int) ∈ infer 1 [("a.b", .number (.natural 1))] ∧
      ¬ReadsAs m [("a.b", .number (.natural 1))] "a.b" .int) ∧
    ∃ m, (infer 1 [("", .object [("x", .number (.natural 1))])]).mapper 0 .standard = .ok m ∧
      ("x", .int) ∈ infer 1 [("", .object [("x", .number (.natural 1))])] ∧
      ¬ReadsAs m [("", .object [("x", .number (.natural 1))])] "x" .int := by
  constructor
  · obtain ⟨m, hm⟩ := exists_mapper_infer 0 1 [("a.b", .number (.natural 1))]
    have hmem : ("a.b", .int) ∈ infer 1 [("a.b", .number (.natural 1))] := by decide
    exact ⟨m, hm, hmem, not_readsAs_of_lookup?_eq_none (mapsFields_of_mapper hm).1 hmem (by decide)⟩
  · obtain ⟨m, hm⟩ := exists_mapper_infer 0 1 [("", .object [("x", .number (.natural 1))])]
    have hmem : ("x", .int) ∈ infer 1 [("", .object [("x", .number (.natural 1))])] := by decide
    exact ⟨m, hm, hmem, not_readsAs_of_lookup?_eq_none (mapsFields_of_mapper hm).1 hmem (by decide)⟩

end Schema

end RecordFilter
