import RecordFilter.Proofs.Json.Number
import RecordFilter.Proofs.Predicate.Condition
import RecordFilter.Proofs.Record.Path
import RecordFilter.Proofs.Record.Schema
import RecordFilter.Proofs.Value.Coercion

/-!
# Records are found by their own numbers

The text of a number is read once by JSON, which holds an integer or a double, and once as the type
of the field. If JSON takes the nearest double, both are equal for integers and floats. A decimal is
read as the very number that is written, so it finds the record only if the number is held exactly
(`matches_own_number`).
-/

namespace RecordFilter

namespace Json

section Own

variable {raw : RawNumber} {n : Number} {text : String}

/-- What a number that was read is held as, if it is a double, is the double nearest to it. -/
def HeldAsNearest (raw : RawNumber) (n : Number) : Prop :=
  ∀ x, n = .double x → x = .ofWritten raw.negative raw.written

theorem readInt64_eq_ok (hwrites : Writes raw text.toList) {i : Int64}
    (hi : Integer.readInt64 text.toList = .ok i) :
    isInteger raw = true ∧ (Value.int i).integer? = some raw.signed ∧
      -2 ^ 63 ≤ raw.signed ∧ raw.signed < 2 ^ 63 := by
  obtain ⟨j, hj, hi⟩ := bind_eq_ok.1 hi
  cases hi
  obtain ⟨hinteger, rfl, hlow, hhigh⟩ := hwrites.readSigned_eq_ok hj
  exact ⟨hinteger, congrArg some (Int64.toInt_ofInt_of_le hlow hhigh), hlow, hhigh⟩

theorem readUInt64_eq_ok (hwrites : Writes raw text.toList) {i : UInt64}
    (hi : Integer.readUInt64 text.toList = .ok i) :
    isInteger raw = true ∧ (Value.uint i).integer? = some raw.signed ∧
      0 ≤ raw.signed ∧ raw.signed < 2 ^ 64 ∧ raw.negative = false := by
  obtain ⟨m, hm, hi⟩ := bind_eq_ok.1 hi
  cases hi
  obtain ⟨hinteger, hnegative, rfl, hlt⟩ := hwrites.readUnsigned_eq_ok hm
  have hsigned : raw.signed = raw.digits := if_neg (Bool.eq_false_iff.1 hnegative)
  rw [hsigned]
  exact ⟨hinteger, congrArg (fun k : Nat => some (k : Int)) (UInt64.toNat_ofNat_of_lt' hlt),
    by omega, by omega, hnegative⟩

/-- Minus zero, which is held as a double, is the integer zero. -/
theorem equals_int (hwrites : Writes raw text.toList) (hn : Number.ofRaw? raw = some n)
    (hnearest : HeldAsNearest raw n) {i : Int64} (hi : Integer.readInt64 text.toList = .ok i) :
    (Value.ofJson (.number n)).equals (.int i) = true := by
  obtain ⟨hinteger, hvalue, hlow, hhigh⟩ := readInt64_eq_ok hwrites hi
  rw [Value.equals, beq_iff_eq]
  rcases Number.ofRaw?_cases hn with ⟨-, hn⟩ | ⟨⟨x, rfl⟩, hnone⟩
  · exact Value.compare?_of_integer? (n.integer?_ofJson.trans (integer?_eq_some hn).1) hvalue
  · rcases integer?_eq_none (hnone hinteger) with ⟨hnegative, hzero⟩ | hbeyond
    · have hsigned : raw.signed = 0 := by
        rw [RawNumber.signed, hzero]
        exact ite_self 0
      show (Value.float x).compare? (.int i) = some .eq
      rw [Value.compare?_float_left hvalue, hnearest x rfl, hnegative,
        written_eq_of_isInteger hinteger, hzero, hsigned]
      rfl
    · omega

theorem equals_uint (hwrites : Writes raw text.toList) (hn : Number.ofRaw? raw = some n)
    {i : UInt64} (hi : Integer.readUInt64 text.toList = .ok i) :
    (Value.ofJson (.number n)).equals (.uint i) = true := by
  obtain ⟨hinteger, hvalue, hlow, hhigh, hnegative⟩ := readUInt64_eq_ok hwrites hi
  rw [Value.equals, beq_iff_eq]
  rcases Number.ofRaw?_cases hn with ⟨-, hn⟩ | ⟨-, hnone⟩
  · exact Value.compare?_of_integer? (n.integer?_ofJson.trans (integer?_eq_some hn).1) hvalue
  · rcases integer?_eq_none (hnone hinteger) with ⟨hminus, -⟩ | hbeyond
    · rw [hnegative] at hminus
      cases hminus
    · omega

theorem equals_float (hwrites : Writes raw text.toList) (hn : Number.ofRaw? raw = some n)
    (hnearest : HeldAsNearest raw n) {x : Double} (hx : Double.read text.toList = .ok x)
    (hnan : x.isNaN = false) : (Value.ofJson (.number n)).equals (.float x) = true := by
  rw [Value.equals, beq_iff_eq]
  have hread := hwrites.read_eq
  rw [hx] at hread
  cases hread
  rcases Number.ofRaw?_cases hn with ⟨hinteger, hn⟩ | ⟨⟨y, rfl⟩, -⟩
  · obtain ⟨hsigned, hnegative, hlt⟩ := integer?_eq_some hn
    rw [Value.compare?_float_right (n.integer?_ofJson.trans hsigned),
      ofInt_signed hinteger hnegative hlt]
    exact Double.compare?_self hnan
  · rw [hnearest y rfl]
    exact Double.compare?_self hnan

theorem equals_decimal (hwrites : Writes raw text.toList) {d : Decimal}
    (hd : Decimal.read? text.toList = some d) :
    (Value.ofJson (.number n)).equals (.decimal d) = true ↔ n.value? = some raw.value := by
  rw [Value.equals_decimal, n.map_value_decimal?_ofJson, hwrites.decimal_read?_eq_some hd,
    Decimal.value, neg_sub]
  rfl

end Own

end Json

namespace Record

open RecordFilter.Filter

theorem ignoresCase_of_isNumeric (config : Config) {type : ValueType} (h : type.isNumeric = true)
    (op : Operator) : ignoresCase config type op = false := by
  cases type <;> cases h <;> rfl

/-- The number that is held equals the text as each type reads it, a decimal only if it is the
number that is written. -/
theorem equals_own_number {text : String} {raw : Json.RawNumber} {n : Json.Number}
    {type : ValueType} {v : Value} (htype : type.isNumeric = true)
    (htrim : Text.trim text.toList = text.toList)
    (hraw : Json.Raw.ofText? text = some (.number raw)) (hn : Json.Number.ofRaw? raw = some n)
    (hnearest : Json.HeldAsNearest raw n) (hv : Value.coerce text type = .ok v) :
    (Value.ofJson (.number n)).equals v = true ↔ (type = .decimal → n.value? = some raw.value) := by
  have hwrites := Json.writes_of_ofText? htrim hraw
  cases Value.coercedTo_of_coerce hv with
  | int h =>
    rw [htrim] at h
    exact iff_of_true (Json.equals_int hwrites hn hnearest h) (fun hc => nomatch hc)
  | uint h =>
    rw [htrim] at h
    exact iff_of_true (Json.equals_uint hwrites hn h) (fun hc => nomatch hc)
  | float h hx =>
    rw [htrim] at h
    exact iff_of_true (Json.equals_float hwrites hn hnearest h hx) (fun hc => nomatch hc)
  | decimal h =>
    rw [htrim] at h
    exact (Json.equals_decimal hwrites h).trans ⟨fun hvalue _ => hvalue, fun hvalue => hvalue rfl⟩
  | _ => cases htype

/-- A numeric field of a schema that leads to a number, the text of which can be read as the type of
the field: the text finds the record, unless the field is a decimal and the number is held as a
double that is another number. An integer of 64 bits is always held as itself. -/
theorem matches_own_number {s : Schema} {id : Nat} {config : Config} {m : Mapper Record}
    (hm : s.mapper id config = .ok m) {field : String} {type : ValueType}
    (hfield : (field, type) ∈ s) (htype : type.isNumeric = true) {text : String}
    (htrim : Text.trim text.toList = text.toList) {raw : Json.RawNumber}
    (hraw : Json.Raw.ofText? text = some (.number raw)) {n : Json.Number}
    (hn : Json.Number.ofRaw? raw = some n) (hnearest : Json.HeldAsNearest raw n) {r : Record}
    (hr : r.Holds field.toList (.number n)) {v : Value} (hv : Value.coerce text type = .ok v)
    (span : Span) :
    ∃ p, (comparison ⟨field, .equal, .text text, span⟩).compile m = .ok p ∧
      (Token.IsFieldName field.toList → m.compile (field ++ "==" ++ text) = .ok p) ∧
      (p.holds r = true ↔ (type = .decimal → n.value? = some raw.value)) ∧
      ((∀ x, n ≠ .double x) → n.value? = some raw.value) := by
  have hwrites := Json.writes_of_ofText? htrim hraw
  have hresolve := (Schema.mapsFields_of_mapper hm).1.resolve_eq hfield
  have hread : (Schema.mapping (field, type)).read r = Value.ofJson (.number n) :=
    readField_of_holds hr type
  refine ⟨_, compile_comparison (c := ⟨field, .equal, .text text, span⟩) hresolve rfl rfl hv,
    ?_, ?_, Json.value?_eq_of_ne_double hn⟩
  · intro hname
    have hne : text ≠ "" := by
      rintro rfl
      exact hwrites.ne_nil rfl
    have hrender := Mapper.compile_render_eq_ok (c := ⟨field, .equal, .text text, span⟩) hresolve
      rfl rfl hv hname hne
    rw [Condition.render, Literal.render, Json.escape_of_isNumeral hwrites.isNumeral,
      String.ofList_toList] at hrender
    exact hrender
  · have hignores : ignoresCase m.config (Schema.mapping (field, type)).type .equal = false :=
      ignoresCase_of_isNumeric m.config htype .equal
    rw [holds_comparisonOf, hread, hignores, foldOperand_false, Operator.holds, n.isNull_ofJson]
    exact equals_own_number htype htrim hraw hn hnearest hv

theorem matches_own_number_half :
    ∃ m p, Schema.mapper [("Price", .decimal)] 0 .standard = .ok m ∧
      m.compile "Price==2.5" = .ok p ∧
      p.holds [("Price", .number (.double (.ofWritten false ⟨25, -1⟩)))] = true := by
  have hm : Schema.mapper [("Price", .decimal)] 0 .standard = .ok _ := rfl
  have hraw : Json.Raw.ofText? "2.5" = some (.number ⟨false, ['2'], ['5'], none⟩) := by cbv
  have hn : Json.Number.ofRaw? ⟨false, ['2'], ['5'], none⟩ =
      some (.double (.ofWritten false ⟨25, -1⟩)) := by decide +kernel
  have hholds : Record.Holds [("Price", .number (.double (.ofWritten false ⟨25, -1⟩)))]
      "Price".toList (.number (.double (.ofWritten false ⟨25, -1⟩))) := .last (by decide) rfl
  obtain ⟨p, -, hcompile, hfinds, -⟩ := matches_own_number hm (List.mem_singleton.2 rfl) rfl
    (by decide) hraw hn (fun x hx => (Json.Number.double.inj hx).symm) hholds rfl ⟨0, 0, 0, 0⟩
  exact ⟨_, p, rfl, hcompile (Token.isFieldName_of_fieldLexeme_eq (by decide) (by decide)),
    hfinds.2 fun _ => by decide +kernel⟩

/-- One tenth is no double: the nearest one, which the record holds, is another number than the
decimal that the same digits are read as. -/
theorem own_number_missed_tenth :
    ∃ m p, Schema.mapper [("Price", .decimal)] 0 .standard = .ok m ∧
      Json.read? "0.1" = some (.number (.double (.ofWritten false ⟨1, -1⟩))) ∧
      Value.coerce "0.1" .decimal = .ok (.decimal ⟨1, 1⟩) ∧
      m.compile "Price==0.1" = .ok p ∧
      p.holds [("Price", .number (.double (.ofWritten false ⟨1, -1⟩)))] = false := by
  have hraw : Json.Raw.ofText? "0.1" = some (.number ⟨false, ['0'], ['1'], none⟩) := by cbv
  have hn : Json.Number.ofRaw? ⟨false, ['0'], ['1'], none⟩ =
      some (.double (.ofWritten false ⟨1, -1⟩)) := by decide +kernel
  have hread : Json.read? "0.1" = some (.number (.double (.ofWritten false ⟨1, -1⟩))) := by
    rw [Json.read?, hraw]
    exact congrArg (Option.map Json.number) hn
  refine ⟨_, _, rfl, hread, rfl, Mapper.compile_render_eq_ok
    (c := ⟨"Price", .equal, .text "0.1", ⟨0, 0, 0, 0⟩⟩) rfl rfl rfl rfl
    (Token.isFieldName_of_fieldLexeme_eq (by decide) (by decide)) (by decide), ?_⟩
  rw [holds_comparisonOf]
  decide +kernel

end Record

end RecordFilter
