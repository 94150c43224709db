import RecordFilter.Proofs.Catalog.Path

/-!
# Trails

A trail is a way from the table of a kind of record to a scalar that knows the place of every member
in its table. Its scalar is read on the record that its nested members lead to, if they are all
there. Flattening lists the fields of the trails through at most `depth` nested members, sorted by
their places (`enumerates_flatten`): that is the order of the table with every nested table in the
place of its member.
-/

namespace RecordFilter

/-- A way through nested members to a scalar, all of them found in their tables. -/
inductive Trail (c : Catalog) : c.Kind → Type where
  | scalar {k : c.Kind} (place : Nat) (name origin : String) (type : ValueType) (excluded : Bool)
      (get : c.Rec k → Value)
      (h : (c.members k)[place]? = some (.scalar name origin type excluded get)) : Trail c k
  | nested {k : c.Kind} (place : Nat) (name origin : String) (excluded : Bool) (kind : c.Kind)
      (part : c.Rec k → Option (c.Rec kind))
      (h : (c.members k)[place]? = some (.nested name origin excluded kind part))
      (rest : Trail c kind) : Trail c k

namespace Trail

variable {c : Catalog} {k : c.Kind}

/-- The number of nested members. -/
def hops {k : c.Kind} : Trail c k → Nat
  | scalar .. => 0
  | nested _ _ _ _ _ _ _ rest => rest.hops + 1

/-- The place of the first member in its table. -/
def place : Trail c k → Nat
  | scalar place .. | nested place .. => place

def places {k : c.Kind} : Trail c k → List Nat
  | scalar place .. => [place]
  | nested place _ _ _ _ _ _ rest => place :: rest.places

def way {k : c.Kind} : Trail c k → List Waypoint
  | scalar _ name _ _ excluded _ _ => [⟨name, excluded⟩]
  | nested _ name _ excluded _ _ _ rest => ⟨name, excluded⟩ :: rest.way

def origins {k : c.Kind} : Trail c k → List String
  | scalar _ _ origin _ _ _ _ => [origin]
  | nested _ _ origin _ _ _ _ rest => origin :: rest.origins

def type {k : c.Kind} : Trail c k → ValueType
  | scalar _ _ _ type _ _ _ => type
  | nested _ _ _ _ _ _ _ rest => rest.type

/-- The kind of record that the scalar is a member of. -/
def last {k : c.Kind} : Trail c k → c.Kind
  | scalar .. => k
  | nested _ _ _ _ _ _ _ rest => rest.last

/-- The record that the nested members lead to, unless one of them is absent. -/
def innermost {k : c.Kind} : (t : Trail c k) → c.Rec k → Option (c.Rec t.last)
  | scalar .., x => some x
  | nested _ _ _ _ _ part _ rest, x => (part x).bind rest.innermost

/-- The scalar of the innermost record. -/
def get {k : c.Kind} : (t : Trail c k) → c.Rec t.last → Value
  | scalar _ _ _ _ _ get _ => get
  | nested _ _ _ _ _ _ _ rest => rest.get

/-- The scalar at the end of the trail as a member of the record that it starts from. -/
def field (t : Trail c k) : MemberField (c.Rec k) where
  name := Waypoint.dotted t.way
  accessor := ⟨t.origins.map (⟨·, none⟩), fun x => (t.innermost x).elim .null t.get⟩
  type := t.type
  excluded := Waypoint.anyExcluded t.way

theorem way_ne_nil (t : Trail c k) : t.way ≠ [] := by
  cases t <;> exact List.cons_ne_nil _ _

theorem place_lt (t : Trail c k) : t.place < (c.members k).length := by
  cases t with
  | scalar _ _ _ _ _ _ h => exact (List.getElem?_eq_some_iff.1 h).1
  | nested _ _ _ _ _ _ h rest => exact (List.getElem?_eq_some_iff.1 h).1

/-- Places are compared at the first member where they differ. -/
theorem places_lt_of_place_lt {s t : Trail c k} (h : s.place < t.place) : s.places < t.places := by
  cases s <;> cases t <;> exact List.cons_lt_cons_iff.2 (.inl h)

theorem field_scalar {place : Nat} {name origin : String} {type : ValueType} {excluded : Bool}
    {get : c.Rec k → Value}
    (h : (c.members k)[place]? = some (.scalar name origin type excluded get)) :
    (scalar place name origin type excluded get h).field =
      ⟨name, .ofOrigin origin get, type, excluded⟩ := by
  show MemberField.mk name (.ofOrigin origin get) type (excluded || false) = _
  rw [Bool.or_false]

section Nested

variable {place : Nat} {name origin : String} {excluded : Bool} {kind : c.Kind}
  {part : c.Rec k → Option (c.Rec kind)}
  (h : (c.members k)[place]? = some (.nested name origin excluded kind part))

theorem places_nested_lt_iff {s t : Trail c kind} :
    (nested place name origin excluded kind part h s).places <
      (nested place name origin excluded kind part h t).places ↔ s.places < t.places := by
  refine List.cons_lt_cons_iff.trans ⟨fun hlt => ?_, fun hlt => .inr ⟨rfl, hlt⟩⟩
  exact (hlt.resolve_left (Nat.lt_irrefl place)).2

theorem field_nested (t : Trail c kind) :
    (nested place name origin excluded kind part h t).field =
      t.field.nest name origin excluded part := by
  obtain ⟨p, rest, hway⟩ := List.exists_cons_of_ne_nil t.way_ne_nil
  have hname : Waypoint.dotted (⟨name, excluded⟩ :: t.way) =
      name ++ "." ++ Waypoint.dotted t.way := by
    rw [hway]
    exact String.intercalate_cons_cons
  have hread : (fun x => ((part x).bind t.innermost).elim .null t.get) =
      (t.field.accessor.nest origin part).get := by
    funext x
    unfold Accessor.nest
    dsimp only
    cases part x <;> rfl
  have htag : Waypoint.anyExcluded (⟨name, excluded⟩ :: t.way) =
      (t.field.excluded || excluded) := Bool.or_comm ..
  show MemberField.mk (Waypoint.dotted (⟨name, excluded⟩ :: t.way))
    ⟨⟨origin, none⟩ :: t.field.accessor.identity,
      fun x => ((part x).bind t.innermost).elim .null t.get⟩
    t.type (Waypoint.anyExcluded (⟨name, excluded⟩ :: t.way)) = _
  rw [hname, hread, htag]
  rfl

end Nested

end Trail

namespace Catalog

variable {c : Catalog} {k : c.Kind}

/-! ## Listed trails -/

/-- The fields are those of the trails with a property, each of them once and sorted by places. -/
def Enumerates (P : Trail c k → Prop) (fields : List (MemberField (c.Rec k))) : Prop :=
  ∃ trails : List (Trail c k), trails.Pairwise (fun s t => s.places < t.places) ∧
    (∀ t, t ∈ trails ↔ P t) ∧ fields = trails.map Trail.field

namespace Enumerates

variable {P Q : Trail c k → Prop} {fields more : List (MemberField (c.Rec k))}

theorem of_iff (h : Enumerates P fields) (hiff : ∀ t, P t ↔ Q t) : Enumerates Q fields := by
  obtain ⟨trails, hsorted, hmem, hfields⟩ := h
  exact ⟨trails, hsorted, fun t => (hmem t).trans (hiff t), hfields⟩

theorem nil (h : ∀ t, ¬P t) : Enumerates P [] :=
  ⟨[], .nil, fun t => by simp [h t], rfl⟩

theorem singleton (t : Trail c k) : Enumerates (· = t) [t.field] :=
  ⟨[t], List.pairwise_singleton _ t, fun _ => List.mem_singleton, rfl⟩

theorem append (h : Enumerates P fields) (h' : Enumerates Q more)
    (hlt : ∀ s t, P s → Q t → s.places < t.places) :
    Enumerates (fun t => P t ∨ Q t) (fields ++ more) := by
  obtain ⟨trails, hsorted, hmem, rfl⟩ := h
  obtain ⟨trails', hsorted', hmem', rfl⟩ := h'
  refine ⟨trails ++ trails', List.pairwise_append.2 ⟨hsorted, hsorted', ?_⟩, ?_,
    List.map_append.symm⟩
  · exact fun s hs t ht => hlt s t ((hmem s).1 hs) ((hmem' t).1 ht)
  · intro t
    rw [List.mem_append, hmem, hmem']

theorem nest {place : Nat} {name origin : String} {excluded : Bool} {kind : c.Kind}
    {part : c.Rec k → Option (c.Rec kind)}
    (hplace : (c.members k)[place]? = some (.nested name origin excluded kind part))
    {P : Trail c kind → Prop} {fields : List (MemberField (c.Rec kind))}
    (h : Enumerates P fields) :
    Enumerates (fun t => ∃ s, P s ∧ .nested place name origin excluded kind part hplace s = t)
      (fields.map (·.nest name origin excluded part)) := by
  obtain ⟨trails, hsorted, hmem, rfl⟩ := h
  refine ⟨trails.map (.nested place name origin excluded kind part hplace), ?_, ?_, ?_⟩
  · exact List.pairwise_map.2 (hsorted.imp (Trail.places_nested_lt_iff hplace).2)
  · intro t
    simp only [List.mem_map, hmem]
  · rw [List.map_map, List.map_map]
    exact List.map_congr_left fun t _ => (Trail.field_nested hplace t).symm

end Enumerates

/-! ## Flattened tables -/

/-- One member of a table adds the trails that begin with it. -/
theorem enumerates_fieldsOf {depth place : Nat} {member : Member c.Rec k}
    (hplace : (c.members k)[place]? = some member)
    (ih : ∀ d < depth, ∀ kind, Enumerates (fun t : Trail c kind => t.hops ≤ d) (c.flatten d kind)) :
    Enumerates (fun t => t.hops ≤ depth ∧ t.place = place) (c.fieldsOf depth k member) := by
  cases member with
  | scalar name origin type excluded get =>
    have hsingle := Enumerates.singleton (.scalar place name origin type excluded get hplace)
    rw [Trail.field_scalar] at hsingle
    refine hsingle.of_iff ?_
    intro t
    -- one member stands at a place, so a trail that begins there begins with this member
    constructor
    · rintro rfl
      exact ⟨Nat.zero_le _, rfl⟩
    · rintro ⟨-, rfl⟩
      cases t with
      | scalar _ _ _ _ _ _ h =>
        cases h.symm.trans hplace
        rfl
      | nested _ _ _ _ _ _ h rest => cases h.symm.trans hplace
  | nested name origin excluded kind part =>
    cases depth with
    | zero =>
      refine .nil ?_
      rintro t ⟨hhops, rfl⟩
      cases t with
      | scalar _ _ _ _ _ _ h => cases h.symm.trans hplace
      | nested _ _ _ _ _ _ h rest => exact Nat.not_succ_le_zero _ hhops
    | succ depth =>
      refine ((ih depth (Nat.lt_succ_self depth) kind).nest hplace).of_iff ?_
      intro t
      constructor
      · rintro ⟨s, hs, rfl⟩
        exact ⟨Nat.succ_le_succ hs, rfl⟩
      · rintro ⟨hhops, rfl⟩
        cases t with
        | scalar _ _ _ _ _ _ h => cases h.symm.trans hplace
        | nested _ _ _ _ _ _ h rest =>
          cases h.symm.trans hplace
          exact ⟨rest, Nat.le_of_succ_le_succ hhops, rfl⟩

/-- The rest of a table adds the trails that begin with one of its members. -/
theorem enumerates_flatMap {depth : Nat}
    (ih : ∀ d < depth, ∀ kind, Enumerates (fun t : Trail c kind => t.hops ≤ d) (c.flatten d kind))
    {before after : List (Member c.Rec k)} (h : c.members k = before ++ after) :
    Enumerates (fun t => t.hops ≤ depth ∧ before.length ≤ t.place)
      (after.flatMap (c.fieldsOf depth k)) := by
  induction after generalizing before with
  | nil =>
    refine .nil ?_
    rintro t ⟨-, hplace⟩
    have hlt := t.place_lt
    rw [h, List.append_nil] at hlt
    omega
  | cons member after iht =>
    have hplace : (c.members k)[before.length]? = some member := by simp [h]
    have hrest : c.members k = (before ++ [member]) ++ after := by simp [h]
    refine ((enumerates_fieldsOf hplace ih).append (iht hrest) ?_).of_iff ?_
    · rintro s t ⟨-, hs⟩ ⟨-, ht⟩
      rw [List.length_append, List.length_singleton] at ht
      exact Trail.places_lt_of_place_lt (by omega)
    · intro t
      rw [← and_or_left, List.length_append, List.length_singleton]
      exact and_congr_right fun _ => by omega

theorem enumerates_flatten (depth : Nat) (k : c.Kind) :
    Enumerates (fun t : Trail c k => t.hops ≤ depth) (c.flatten depth k) := by
  induction depth using Nat.strongRecOn generalizing k with
  | _ depth ih =>
    rw [flatten_eq]
    have hall := enumerates_flatMap ih (List.nil_append (c.members k)).symm
    exact hall.of_iff fun t => and_iff_left (Nat.zero_le _)

/-! ## Ways with and without places -/

theorem leads_iff {depth : Nat} {way : List Waypoint} :
    c.Leads depth k way ↔ ∃ t : Trail c k, t.hops ≤ depth ∧ t.way = way := by
  constructor
  · intro h
    induction h with
    | scalar h =>
      obtain ⟨place, hplace⟩ := List.mem_iff_getElem?.1 h
      exact ⟨.scalar place _ _ _ _ _ hplace, Nat.zero_le _, rfl⟩
    | nested h _ ih =>
      obtain ⟨place, hplace⟩ := List.mem_iff_getElem?.1 h
      obtain ⟨t, ht, rfl⟩ := ih
      exact ⟨.nested place _ _ _ _ _ hplace t, Nat.succ_le_succ ht, rfl⟩
  · rintro ⟨t, ht, rfl⟩
    induction t generalizing depth with
    | scalar _ _ _ _ _ _ h => exact .scalar (List.mem_of_getElem? h)
    | nested _ _ _ _ _ _ h rest ih =>
      cases depth with
      | zero => exact absurd ht (Nat.not_succ_le_zero _)
      | succ depth => exact .nested (List.mem_of_getElem? h) (ih (Nat.le_of_succ_le_succ ht))

theorem mem_flatten_iff {depth : Nat} {f : MemberField (c.Rec k)} :
    f ∈ c.flatten depth k ↔ ∃ t : Trail c k, t.hops ≤ depth ∧ t.field = f := by
  obtain ⟨trails, -, hmem, hfields⟩ := enumerates_flatten depth k
  simp only [hfields, List.mem_map, hmem]

theorem exists_field_of_leads {depth : Nat} {way : List Waypoint} (h : c.Leads depth k way) :
    ∃ f ∈ c.flatten depth k, Follows f way := by
  obtain ⟨t, ht, rfl⟩ := leads_iff.1 h
  exact ⟨t.field, mem_flatten_iff.2 ⟨t, ht, rfl⟩, rfl, rfl⟩

theorem exists_leads_of_mem {depth : Nat} {f : MemberField (c.Rec k)}
    (h : f ∈ c.flatten depth k) : ∃ way, c.Leads depth k way ∧ Follows f way := by
  obtain ⟨t, ht, rfl⟩ := mem_flatten_iff.1 h
  exact ⟨t.way, leads_iff.2 ⟨t, ht, rfl⟩, rfl, rfl⟩

theorem withholds_iff {depth : Nat} {k : c.Kind} {name : String} :
    c.Withholds depth k name ↔ ∃ f ∈ c.flatten depth k, f.name = name ∧ f.excluded = true := by
  constructor
  · rintro ⟨way, hway, rfl, hp⟩
    obtain ⟨f, hf, hname, htag⟩ := exists_field_of_leads hway
    exact ⟨f, hf, hname, htag.trans (List.any_eq_true.2 hp)⟩
  · rintro ⟨f, hf, rfl, htag⟩
    obtain ⟨way, hway, hname, hway'⟩ := exists_leads_of_mem hf
    exact ⟨way, hway, hname.symm, List.any_eq_true.1 (hway'.symm.trans htag)⟩

/-! ## Greater depth -/

theorem flatten_sublist_succ (depth : Nat) (k : c.Kind) :
    (c.flatten depth k).Sublist (c.flatten (depth + 1) k) := by
  induction depth generalizing k with
  | zero =>
    rw [flatten_eq, flatten_eq]
    refine List.Sublist.flatMap_right _ fun member _ => ?_
    cases member with
    | scalar name origin type excluded get => exact .refl _
    | nested name origin excluded kind part => exact List.nil_sublist _
  | succ depth ih =>
    rw [flatten_eq, flatten_eq]
    refine List.Sublist.flatMap_right _ fun member _ => ?_
    cases member with
    | scalar name origin type excluded get => exact .refl _
    | nested name origin excluded kind part => exact (ih kind).map _

/-- Flattening lists the fields of all trails through at most `depth` nested members, each of them
once and sorted by places. A greater depth only adds fields in between. -/
theorem flatten_lists_trails (c : Catalog) (depth : Nat) (k : c.Kind) :
    (∃ trails : List (Trail c k), trails.Pairwise (fun s t => s.places < t.places) ∧
        (∀ t, t ∈ trails ↔ t.hops ≤ depth) ∧ c.flatten depth k = trails.map Trail.field) ∧
      (c.flatten depth k).Sublist (c.flatten (depth + 1) k) :=
  ⟨enumerates_flatten depth k, flatten_sublist_succ depth k⟩

/-- A table that leads back to itself is expanded as often as is asked for. -/
example : (Person.guarded.flatten 2 ()).map MemberField.name =
    ["Id", "Name", "ChildClass.Id", "ChildClass.Name", "ChildClass.ChildClass.Id",
      "ChildClass.ChildClass.Name"] := by
  decide

end Catalog

end RecordFilter
