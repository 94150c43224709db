import RecordFilter.Proofs.Text.Ascii
import RecordFilter.Proofs.Text.Position
import RecordFilter.Proofs.Text.Split
import RecordFilter.Value.Type

/-!
# Names of types are read back

The variants of an enumeration are read from what stands between `enum(` and the last parenthesis.
They hold no comma and have no blanks at their ends, so the name made of them is read as the same
variants. What stands there can be cut out by its bytes: both cuts are boundaries between characters.
-/

namespace RecordFilter.ValueType

open Text (trim trim_trim isBlank byteLength slice? slice?_front slice?_between)

variable {s inner : List Char} {variants : List String}

theorem splitCommas_eq (s : List Char) : splitCommas s = s.splitOn ',' :=
  Text.eq_splitOn rfl (fun _ _ => rfl) s

/-! ## Lists of variants -/

/-- What variants look like as they are read; an empty one never stands alone. -/
structure Listable (variants : List String) : Prop where
  ne_nil : variants ≠ []
  ne_blank : variants ≠ [""]
  not_mem : ∀ v ∈ variants, ',' ∉ v.toList
  trim_eq : ∀ v ∈ variants, trim v.toList = v.toList

theorem mem_of_mem_trim {c : Char} (h : c ∈ trim s) : c ∈ s :=
  (List.dropWhile_sublist isBlank).subset
    ((List.rdropWhile_prefix isBlank (Text.trimStart s)).subset h)

theorem listable_readVariants (h : readVariants inner ≠ []) : Listable (readVariants inner) := by
  have hblank : (trim inner).isEmpty = false := by
    by_contra hblank
    rw [Bool.not_eq_false] at hblank
    exact h (if_pos hblank)
  have hread : readVariants inner =
      ((trim inner).splitOn ',').map fun v => String.ofList (trim v) := by
    rw [← splitCommas_eq]
    exact if_neg (Bool.eq_false_iff.1 hblank)
  have hpart : ∀ v ∈ readVariants inner, ∃ part ∈ (trim inner).splitOn ',', v.toList = trim part := by
    intro v hv
    rw [hread] at hv
    obtain ⟨part, hmem, rfl⟩ := List.mem_map.1 hv
    exact ⟨part, hmem, String.toList_ofList⟩
  refine ⟨h, fun hone => ?_, fun v hv hcomma => ?_, fun v hv => ?_⟩
  · -- A single text between commas is the whole, which has blanks at its ends no more.
    rw [hread] at hone
    obtain ⟨part, hparts, hempty⟩ := List.map_eq_singleton_iff.1 hone
    have hwhole : [','].intercalate ((trim inner).splitOn ',') = trim inner :=
      List.intercalate_splitOn ','
    rw [hparts, List.intercalate_singleton] at hwhole
    rw [hwhole, trim_trim, String.ofList_eq_empty_iff] at hempty
    rw [hempty] at hblank
    cases hblank
  · obtain ⟨part, hmem, heq⟩ := hpart v hv
    rw [heq] at hcomma
    exact Text.not_mem_of_mem_splitOn hmem (mem_of_mem_trim hcomma)
  · obtain ⟨part, hmem, heq⟩ := hpart v hv
    rw [heq, trim_trim]

/-- The variants with a comma between any two. -/
def joined (variants : List String) : List Char :=
  [','].intercalate (variants.map String.toList)

theorem joined_cons_cons (v w : String) (rest : List String) :
    joined (v :: w :: rest) = v.toList ++ ',' :: joined (w :: rest) :=
  rfl

theorem joined_ne_nil (h : Listable variants) : joined variants ≠ [] := by
  rcases variants with - | ⟨v, - | ⟨w, rest⟩⟩
  · exact absurd rfl h.ne_nil
  · intro hempty
    rw [joined, List.map_singleton, List.intercalate_singleton, String.toList_eq_nil_iff] at hempty
    exact h.ne_blank (by rw [hempty])
  · rw [joined_cons_cons]
    exact List.append_ne_nil_of_right_ne_nil _ (List.cons_ne_nil _ _)

theorem not_isBlank_head_joined (h : ∀ v ∈ variants, trim v.toList = v.toList) :
    ∀ c ∈ (joined variants).head?, isBlank c = false := by
  intro c hc
  rcases variants with - | ⟨v, - | ⟨w, rest⟩⟩
  · cases hc
  · rw [joined, List.map_singleton, List.intercalate_singleton, ← h v List.mem_cons_self] at hc
    exact Text.not_isBlank_of_head?_trim hc
  · rw [joined_cons_cons, ← h v List.mem_cons_self] at hc
    cases hv : trim v.toList with
    | nil =>
      rw [hv] at hc
      cases hc
      rfl
    | cons d r =>
      rw [hv] at hc
      cases hc
      exact Text.not_isBlank_of_head?_trim (s := v.toList) (by rw [hv]; rfl)

theorem not_isBlank_getLast_joined (h : ∀ v ∈ variants, trim v.toList = v.toList) :
    ∀ c ∈ (joined variants).getLast?, isBlank c = false := by
  induction variants with
  | nil => exact fun c hc => by cases hc
  | cons v rest ih =>
    intro c hc
    obtain ⟨hv, hrest⟩ := List.forall_mem_cons.1 h
    cases rest with
    | nil =>
      rw [joined, List.map_singleton, List.intercalate_singleton, ← hv] at hc
      exact Text.not_isBlank_of_getLast?_trim hc
    | cons w rest =>
      rw [joined_cons_cons, List.getLast?_append_cons] at hc
      cases hlast : joined (w :: rest) with
      | nil =>
        rw [hlast] at hc
        cases hc
        rfl
      | cons d r =>
        rw [hlast, List.getLast?_cons_cons, ← hlast] at hc
        exact ih hrest c hc

theorem readVariants_joined (h : Listable variants) : readVariants (joined variants) = variants := by
  have htrim : trim (joined variants) = joined variants :=
    Text.trim_eq_self (not_isBlank_head_joined h.trim_eq) (not_isBlank_getLast_joined h.trim_eq)
  have hsplit : splitCommas (joined variants) = variants.map String.toList := by
    rw [splitCommas_eq, joined, List.splitOn_intercalate]
    · exact List.forall_mem_map.2 h.not_mem
    · exact mt List.map_eq_nil_iff.1 h.ne_nil
  rw [readVariants, htrim, if_neg (mt List.isEmpty_iff.1 (joined_ne_nil h)), hsplit, List.map_map]
  refine (List.map_congr_left fun v hv => ?_).trans (List.map_id variants)
  show String.ofList (trim v.toList) = v
  rw [h.trim_eq v hv, String.ofList_toList]

/-! ## Names -/

theorem variantList?_eq_some_iff : variantList? s = some inner ↔
    ∃ front, front.map Char.toLower = "enum(".toList ∧ s = front ++ (inner ++ [')']) := by
  constructor
  · intro h
    unfold variantList? at h
    split_ifs at h with hfront
    split at h
    · next r hrest =>
      cases h
      refine ⟨s.take 5, hfront, ?_⟩
      rw [← List.reverse_cons, ← hrest, List.reverse_reverse, List.take_append_drop]
    · cases h
  · rintro ⟨front, hfront, rfl⟩
    have hlength : front.length = 5 := by
      rw [← List.length_map Char.toLower, hfront]
      rfl
    rw [variantList?, List.take_left' hlength, if_pos hfront, List.drop_left' hlength,
      List.reverse_append]
    show some inner.reverse.reverse = some inner
    rw [List.reverse_reverse]

theorem toList_name (h : variants ≠ []) :
    (enumeration variants).name.toList = "enum(".toList ++ (joined variants ++ [')']) := by
  obtain ⟨v, rest, rfl⟩ := List.exists_cons_of_ne_nil h
  rw [name, String.toList_append, String.toList_append, String.toList_intercalate, joined,
    List.append_assoc]
  · rfl
  · exact fun hnil => absurd hnil h

theorem ofName?_name_enumeration (h : Listable variants) :
    ofName? (enumeration variants).name = some (enumeration variants) := by
  have hname := toList_name h.ne_nil
  have htrim : trim (enumeration variants).name.toList = (enumeration variants).name.toList := by
    rw [hname]
    refine Text.trim_eq_self ?_ ?_
    · rintro c ⟨⟩
      rfl
    · rw [← List.append_assoc, List.getLast?_concat]
      rintro c ⟨⟩
      rfl
  have hlist : variantList? (enumeration variants).name.toList = some (joined variants) :=
    variantList?_eq_some_iff.2 ⟨_, by decide, hname⟩
  rw [ofName?, htrim, hlist]
  exact congrArg (fun v => some (enumeration v)) (readVariants_joined h)

/-- The type, if there is one, is what its name is read as. -/
def ReadsBack (type? : Option ValueType) : Prop :=
  ∀ type ∈ type?, ofName? type.name = some type

theorem ReadsBack.ite {c : Prop} [Decidable c] {type : ValueType} {rest : Option ValueType}
    (htype : ofName? type.name = some type) (hrest : ReadsBack rest) :
    ReadsBack (if c then some type else rest) := by
  intro read hread
  by_cases hc : c
  · rw [if_pos hc] at hread
    cases hread
    exact htype
  · rw [if_neg hc] at hread
    exact hrest read hread

/-- One step for each row of the table of words. -/
theorem readsBack_ofWord? (word : String) : ReadsBack (ofWord? word) := by
  have hnone : ReadsBack none := fun type h => by cases h
  exact .ite rfl <| .ite rfl <| .ite rfl <| .ite rfl <| .ite rfl <| .ite rfl <| .ite rfl <|
    .ite rfl <| .ite rfl <| .ite rfl hnone

theorem readsBack_ofName? (s : String) : ReadsBack (ofName? s) := by
  unfold ofName?
  dsimp only
  cases variantList? (trim s.toList) with
  | some inner =>
    rintro type ⟨⟩
    by_cases hnone : readVariants inner = []
    · rw [hnone]
      rfl
    · exact ofName?_name_enumeration (listable_readVariants hnone)
  | none => exact readsBack_ofWord? _

/-! ## Cutting by bytes -/

/-- Whether the first five bytes are `enum(` in any case. -/
def opensList (body : String) : Bool :=
  (slice? body 0 5).any fun front => Text.asciiLowered front == "enum("

/-- The type of a name, where the text between the parentheses is cut out by its bytes; none if a
cut lies outside of the text or inside a character. -/
def ofNameByBytes? (s : String) : Option (Option ValueType) :=
  let body := Text.trimmed s
  if opensList body ∧ body.toList.getLast? = some ')' then
    (body.utf8ByteSize.ppred.bind (slice? body 5)).map fun inner =>
      some (enumeration (readVariants inner.toList))
  else some (ofWord? (Text.lowered body))

/-- The five characters of the beginning are five bytes in any case. -/
theorem byteLength_of_map_toLower {front : List Char}
    (h : front.map Char.toLower = "enum(".toList) : byteLength front = 5 := by
  have hascii : ∀ c ∈ front, c.toNat < 128 := by
    intro c hc
    have hlower : c.toLower ∈ "enum(".toList := h ▸ List.mem_map_of_mem hc
    have hword : ∀ d ∈ "enum(".toList, d.toNat < 128 := by simp
    exact Text.toNat_toLower_lt_iff.1 (hword _ hlower)
  rw [Text.byteLength_of_ascii hascii, ← List.length_map Char.toLower, h]
  rfl

variable {body : String}

theorem opensList_iff : opensList body = true ↔
    ∃ front rest, front.map Char.toLower = "enum(".toList ∧ body.toList = front ++ rest := by
  constructor
  · intro h
    obtain ⟨cut, hcut, hword⟩ := (Option.any_eq_true _ _).1 h
    have hvalid : String.Pos.Raw.IsValid body ⟨5⟩ := by
      unfold slice? at hcut
      split_ifs at hcut with hbounds
      exact hbounds.2.1
    obtain ⟨front, rest, hbody, hlength⟩ := Text.exists_split_of_isValid hvalid
    have hfront := slice?_front hbody
    rw [hlength, hcut] at hfront
    cases hfront
    have hlowered := congrArg String.toList (eq_of_beq hword)
    rw [Text.asciiLowered, String.toList_ofList, String.toList_ofList] at hlowered
    exact ⟨front, rest, hlowered, hbody⟩
  · rintro ⟨front, rest, hfront, hbody⟩
    have hcut := slice?_front hbody
    rw [byteLength_of_map_toLower hfront] at hcut
    rw [opensList, hcut, Option.any_some, Text.asciiLowered, String.toList_ofList, hfront]
    rfl

/-- A text that begins like a list and ends like one is one: no character does both. -/
theorem exists_variantList? (hopens : opensList body = true)
    (hlast : body.toList.getLast? = some ')') :
    ∃ inner, variantList? body.toList = some inner := by
  obtain ⟨front, rest, hfront, hbody⟩ := opensList_iff.1 hopens
  rcases List.eq_nil_or_concat' rest with rfl | ⟨inner, c, rfl⟩
  · have hparen := congrArg List.getLast? hfront
    rw [List.append_nil] at hbody
    rw [List.getLast?_map, ← hbody, hlast] at hparen
    exact absurd hparen (by decide)
  · rw [hbody, ← List.append_assoc, List.getLast?_concat] at hlast
    cases hlast
    exact ⟨inner, variantList?_eq_some_iff.2 ⟨front, hfront, hbody⟩⟩

theorem slice?_of_variantList? (h : variantList? body.toList = some inner) :
    opensList body = true ∧ body.toList.getLast? = some ')' ∧
      body.utf8ByteSize.ppred.bind (slice? body 5) = some (String.ofList inner) := by
  obtain ⟨front, hfront, hbody⟩ := variantList?_eq_some_iff.1 h
  have hfive := byteLength_of_map_toLower hfront
  have hsize : body.utf8ByteSize = 5 + byteLength inner + 1 := by
    rw [← Text.byteLength_toList, hbody, Text.byteLength_append, Text.byteLength_append, hfive]
    rfl
  refine ⟨opensList_iff.2 ⟨front, _, hfront, hbody⟩, ?_, ?_⟩
  · rw [hbody, ← List.append_assoc, List.getLast?_concat]
  · rw [hsize, Nat.ppred_succ, Option.bind_some, ← hfive]
    exact slice?_between hbody

theorem ofNameByBytes?_eq (s : String) : ofNameByBytes? s = some (ofName? s) := by
  have hbody : (Text.trimmed s).toList = trim s.toList := String.toList_ofList
  unfold ofNameByBytes? ofName?
  dsimp only
  rw [← hbody]
  generalize Text.trimmed s = body
  cases hlist : variantList? body.toList with
  | some inner =>
    obtain ⟨hopens, hlast, hslice⟩ := slice?_of_variantList? hlist
    rw [if_pos ⟨hopens, hlast⟩, hslice, Option.map_some, String.toList_ofList]
  | none =>
    rw [if_neg]
    · rfl
    · rintro ⟨hopens, hlast⟩
      obtain ⟨inner, hinner⟩ := exists_variantList? hopens hlast
      rw [hlist] at hinner
      cases hinner

/-- Names read back, and reading one never cuts outside of it or inside a character. -/
theorem ofName?_reads_back (s : String) :
    ofNameByBytes? s = some (ofName? s) ∧
      ∀ type, ofName? s = some type → ofName? type.name = some type :=
  ⟨ofNameByBytes?_eq s, readsBack_ofName? s⟩

theorem ofName?_reads_back_parentheses :
    ofName? " Enum( a) ,, é )" = some (enumeration ["a)", "", "é"]) ∧
      ofNameByBytes? " Enum( a) ,, é )" = some (ofName? " Enum( a) ,, é )") ∧
        ofName? (enumeration ["a)", "", "é"]).name = some (enumeration ["a)", "", "é"]) :=
  have hread : ofName? " Enum( a) ,, é )" = some (enumeration ["a)", "", "é"]) := by decide +kernel
  ⟨hread, (ofName?_reads_back _).1, (ofName?_reads_back _).2 _ hread⟩

end RecordFilter.ValueType
