import RecordFilter.Proofs.Calendar.Printed
import RecordFilter.Proofs.Number.Decimal
import RecordFilter.Proofs.Number.Integer
import RecordFilter.Proofs.Text.Ascii
import RecordFilter.Proofs.Value.Coercion
import RecordFilter.Proofs.Value.Uuid

/-!
# Printed values are coerced to themselves

A value that a literal was coerced to is what its own printed form is coerced to. A decimal may lose
the zeros behind its digits on the way, but stays the same number, and an instant is refused if its
year has a sign.
-/

namespace RecordFilter.Value

open Text (trim trim_trim trim_eq_self_of_forall)

variable {literal : String} {type : ValueType} {v : Value}

/-! ## Each type -/

theorem orFault_map_eq_ok {β : Type} {o : Option β} {b : β} (h : o = some b)
    (fault : CoercionFault) (mk : β → Value) : coerce.orFault fault (o.map mk) = .ok (mk b) := by
  rw [h]
  rfl

theorem orFault_map_eq_error {β : Type} {o : Option β} (h : o = none)
    (fault : CoercionFault) (mk : β → Value) : coerce.orFault fault (o.map mk) = .error fault := by
  rw [h]
  rfl

theorem coerce_print_string (s : String) : coerce (string s).print .string = .ok (string s) := by
  rw [coerce, print]

theorem coerce_print_int (n : Int64) : coerce (int n).print .int = .ok (int n) := by
  have htrim : trim (toString n.toInt).toList = (toString n.toInt).toList :=
    trim_eq_self_of_forall fun c hc => Json.not_isBlank_of_isNumeral
      (Decimal.isNumeral_of_isPlain (Decimal.isPlain_of_mem_toString hc))
  show ((Integer.readInt64 (trim (toString n.toInt).toList)).map int).mapError _ = _
  rw [htrim, Integer.readInt64_toString]
  rfl

theorem coerce_print_uint (n : UInt64) : coerce (uint n).print .uint = .ok (uint n) := by
  have htrim : trim (toString n.toNat).toList = (toString n.toNat).toList := by
    rw [Digits.toList_toString]
    exact trim_eq_self_of_forall fun c hc =>
      Text.not_isBlank_of_isDigit (Digits.isDigit_of_mem_ofNat hc)
  show ((Integer.readUInt64 (trim (toString n.toNat).toList)).map uint).mapError _ = _
  rw [htrim, Integer.readUInt64_toString]
  rfl

theorem exists_coerce_print_decimal {d : Decimal} (hfits : Decimal.fitsScale d.scale = true) :
    ∃ e, coerce (decimal d).print .decimal = .ok (decimal e) ∧
      (decimal e).equals (decimal d) = true := by
  have htrim : trim d.print.toList = d.print.toList :=
    trim_eq_self_of_forall fun c hc =>
      Json.not_isBlank_of_isNumeral (Decimal.isNumeral_of_mem_print hc)
  obtain ⟨e, hread, hvalue⟩ := Decimal.exists_read?_print hfits
  rw [← htrim] at hread
  have hequal : (decimal e).compare? (decimal d) = some .eq :=
    congrArg some ((Decimal.cmp_eq_iff e d).2 hvalue)
  refine ⟨e, orFault_map_eq_ok hread .decimal decimal, ?_⟩
  rw [equals, hequal]
  rfl

theorem coerce_print_boolean (b : Bool) : coerce (boolean b).print .boolean = .ok (boolean b) := by
  cases b <;> decide

theorem coerce_print_uuid (u : Uuid) : coerce (uuid u).print .uuid = .ok (uuid u) := by
  have hread : Uuid.read? (trim u.print.toList) = some u := by
    rw [trim_eq_self_of_forall fun c => u.not_isBlank_of_mem_print, u.read?_print]
  exact orFault_map_eq_ok hread .uuid uuid

theorem coerce_print_date (d : Date) : coerce (date d).print .date = .ok (date d) := by
  have hread : Date.read? (trim d.print.toList) = some d := by
    rw [trim_eq_self_of_forall fun c => d.not_isBlank_of_mem_print, d.read?_print]
  exact orFault_map_eq_ok hread .date date

/-- The variant that a literal names has no blanks at its ends, as the literal has none once it is
trimmed, and it is the first one that it names itself. -/
theorem coerce_print_variant {variants : List String} {name : String}
    (h : coerce literal (.enumeration variants) = .ok (variant name)) :
    coerce (variant name).print (.enumeration variants) = .ok (variant name) := by
  change readVariant variants (String.ofList (trim literal.toList)) = _ at h
  show readVariant variants (String.ofList (trim name.toList)) = _
  unfold readVariant at h ⊢
  split_ifs at h ⊢ with hempty
  · cases h
    rw [String.toList_ofList, trim_trim]
  · cases hfind : variants.find? fun v =>
      Text.asciiLowered v == Text.asciiLowered (String.ofList (trim literal.toList)) with
    | none =>
      rw [hfind] at h
      cases h
    | some first =>
      rw [hfind] at h
      cases h
      have hnamed := List.find?_some hfind
      have hlowered := eq_of_beq hnamed
      have hmap : name.toList.map Char.toLower = (trim literal.toList).map Char.toLower := by
        have hlists := congrArg String.toList hlowered
        rwa [Text.asciiLowered, Text.asciiLowered, String.toList_ofList, String.toList_ofList,
          String.toList_ofList] at hlists
      rw [Text.trim_eq_self_of_map_toLower hmap (trim_trim _), String.ofList_toList, hlowered,
        hfind]

/-! ## All types but those of doubles and instants -/

/-- Printing what a literal was coerced to gives a literal of the same value. -/
theorem exists_coerce_print (h : coerce literal type = .ok v) (hfloat : type ≠ .float)
    (htimestamp : type ≠ .timestamp) :
    ∃ w, coerce v.print type = .ok w ∧ w.equals v = true ∧ (type ≠ .decimal → w = v) := by
  have hcoerced := coercedTo_of_coerce h
  have hself : v.equals v = true := by
    rw [equals, hcoerced.compare?_self]
    rfl
  cases hcoerced with
  | string => exact ⟨_, coerce_print_string _, hself, fun _ => rfl⟩
  | int => exact ⟨_, coerce_print_int _, hself, fun _ => rfl⟩
  | uint => exact ⟨_, coerce_print_uint _, hself, fun _ => rfl⟩
  | float => exact absurd rfl hfloat
  | @decimal d hread =>
    obtain ⟨e, he, hequal⟩ := exists_coerce_print_decimal (Decimal.fitsScale_of_read? hread)
    exact ⟨_, he, hequal, fun hne => absurd rfl hne⟩
  | boolean => exact ⟨_, coerce_print_boolean _, hself, fun _ => rfl⟩
  | uuid => exact ⟨_, coerce_print_uuid _, hself, fun _ => rfl⟩
  | date => exact ⟨_, coerce_print_date _, hself, fun _ => rfl⟩
  | timestamp => exact absurd rfl htimestamp
  | enumeration => exact ⟨_, coerce_print_variant h, hself, fun _ => rfl⟩

/-- The zeros behind the digits of a decimal are written out, and read as digits. -/
theorem exists_coerce_print_zeros :
    coerce "1.2e3" .decimal = .ok (decimal ⟨12, -2⟩) ∧
      coerce (decimal ⟨12, -2⟩).print .decimal = .ok (decimal ⟨1200, 0⟩) ∧
        (decimal ⟨1200, 0⟩).equals (decimal ⟨12, -2⟩) = true := by
  have hcoerce : coerce "1.2e3" .decimal = .ok (decimal ⟨12, -2⟩) := by rfl
  have hprinted : coerce (decimal ⟨12, -2⟩).print .decimal = .ok (decimal ⟨1200, 0⟩) := by rfl
  obtain ⟨w, hw, hequal, -⟩ := exists_coerce_print hcoerce (by decide) (by decide)
  cases hprinted.symm.trans hw
  exact ⟨hcoerce, hprinted, hequal⟩

/-! ## Instants -/

theorem endsMinute_of_readInstant? {s : List Char} {i : Instant} (h : readInstant? s = some i) :
    i.time.EndsMinute := by
  rw [readInstant?, Option.or_eq_some_iff, Option.or_eq_some_iff, Option.map_eq_some_iff] at h
  rcases h with h | ⟨-, h | ⟨-, d, -, rfl⟩⟩
  · exact Instant.endsMinute_of_readWithOffset? i h
  · exact Instant.endsMinute_of_readPlain? i h
  · exact Instant.endsMinute_midnight d

theorem readInstant?_print {i : Instant} (hi : i.time.EndsMinute) :
    readInstant? i.print.toList =
      if 0 ≤ i.date.year ∧ i.date.year ≤ 9999 then some i else none := by
  split_ifs with hyear
  · rw [readInstant?, i.readWithOffset?_print hi hyear]
    rfl
  · rw [readInstant?, i.readWithOffset?_print_signed hyear, i.readPlain?_print hi,
      i.read?_print_eq_none]
    rfl

theorem coerce_print_instant {i : Instant} (hi : i.time.EndsMinute) :
    coerce (timestamp i).print .timestamp =
      if 0 ≤ i.date.year ∧ i.date.year ≤ 9999 then .ok (timestamp i) else .error .timestamp := by
  have hread := readInstant?_print hi
  rw [← i.trim_print] at hread
  by_cases hyear : 0 ≤ i.date.year ∧ i.date.year ≤ 9999
  · rw [if_pos hyear] at hread ⊢
    exact orFault_map_eq_ok hread .timestamp timestamp
  · rw [if_neg hyear] at hread ⊢
    exact orFault_map_eq_error hread .timestamp timestamp

/-- The printed form of an instant that a literal was coerced to is coerced to that instant, unless
the year of the instant has a sign: then it is coerced to nothing. -/
theorem coerce_print_timestamp (h : coerce literal .timestamp = .ok v) :
    ∃ i, v = timestamp i ∧ coerce v.print .timestamp =
      if 0 ≤ i.date.year ∧ i.date.year ≤ 9999 then .ok v else .error .timestamp := by
  cases coercedTo_of_coerce h with
  | @timestamp i hread => exact ⟨i, rfl, coerce_print_instant (endsMinute_of_readInstant? hread)⟩

/-- The offset moves the instant into the year before, in which it is printed and read back. -/
theorem coerce_print_timestamp_offset :
    coerce "2024-01-01T00:30:00+01:00" .timestamp =
        .ok (timestamp ⟨⟨2023, 12, 31, by decide⟩, ⟨84600, 0⟩⟩) ∧
      (timestamp ⟨⟨2023, 12, 31, by decide⟩, ⟨84600, 0⟩⟩).print = "2023-12-31T23:30:00+00:00" ∧
        coerce "2023-12-31T23:30:00+00:00" .timestamp =
          .ok (timestamp ⟨⟨2023, 12, 31, by decide⟩, ⟨84600, 0⟩⟩) := by
  have hcoerce : coerce "2024-01-01T00:30:00+01:00" .timestamp =
      .ok (timestamp ⟨⟨2023, 12, 31, by decide⟩, ⟨84600, 0⟩⟩) := by rfl
  have hprint : (timestamp ⟨⟨2023, 12, 31, by decide⟩, ⟨84600, 0⟩⟩).print =
      "2023-12-31T23:30:00+00:00" := by rfl
  obtain ⟨i, hi, hprinted⟩ := coerce_print_timestamp hcoerce
  cases hi
  rw [if_pos (by decide), hprint] at hprinted
  exact ⟨hcoerce, hprint, hprinted⟩

/-- The midnight at which the first year of five digits begins is printed, and then refused. -/
theorem coerce_print_timestamp_five_digits :
    coerce "+10000-01-01" .timestamp =
        .ok (timestamp (.midnight ⟨10000, 1, 1, by decide⟩)) ∧
      (timestamp (.midnight ⟨10000, 1, 1, by decide⟩)).print = "+10000-01-01T00:00:00+00:00" ∧
        coerce "+10000-01-01T00:00:00+00:00" .timestamp = .error .timestamp :=
  ⟨by rfl, by rfl, by rfl⟩

end RecordFilter.Value
