import RecordFilter.Proofs.Predicate.Condition
import RecordFilter.Proofs.Predicate.Evaluation
import RecordFilter.Proofs.Record.Path
import RecordFilter.Proofs.Record.Schema
import RecordFilter.Proofs.Value.Coercion

/-!
# Records are found by their own texts

The text of a member, escaped as a literal, is read as what the member is read as: both are the text
itself or its coercion to the type of the field. So every operator that the field takes says of the
two what it says of a value and itself (`matches_own_text`).
-/

namespace RecordFilter

namespace Operator

/-- The operators that hold between a value and itself. -/
def isReflexive : Operator → Bool
  | equal | equalIgnoringCase | greaterOrEqual | lessOrEqual | contains | startsWith | endsWith =>
    true
  | _ => false

section Self

variable {ignoreCase : Bool} {v : Value}

theorem compareFolded?_self (hself : v.compare? v = some .eq)
    (hcase : ignoreCase = true → ∃ s, v = .string s) :
    compareFolded? ignoreCase v (Filter.foldOperand ignoreCase v) = some .eq := by
  cases ignoreCase with
  | false =>
    rw [Filter.foldOperand_false]
    exact hself
  | true =>
    obtain ⟨s, rfl⟩ := hcase rfl
    exact congrArg some (Value.compareTexts_self (Text.lowered s))

theorem equalsFolded_self (hself : v.compare? v = some .eq)
    (hcase : ignoreCase = true → ∃ s, v = .string s) :
    equalsFolded ignoreCase v (Filter.foldOperand ignoreCase v) = true := by
  rw [equalsFolded_eq, compareFolded?_self hself hcase]
  rfl

theorem testTexts_self {test : List Char → List Char → Bool} (htest : ∀ s, test s s = true)
    (s : String) :
    testTexts ignoreCase test (.string s) (Filter.foldOperand ignoreCase (.string s)) = true := by
  cases ignoreCase with
  | false => exact htest s.toList
  | true => exact htest (Text.lowered s).toList

/-- Between a value and itself, in small letters if case does not count, an operator holds exactly
if it is reflexive. -/
theorem holds_self {op : Operator} (hnull : v.isNull = false) (hself : v.compare? v = some .eq)
    (hcase : ignoreCase = true → ∃ s, v = .string s)
    (hop : op.isTextMatch = true → ∃ s, v = .string s) :
    op.holds ignoreCase v (Filter.foldOperand ignoreCase v) = op.isReflexive := by
  have hequals := equalsFolded_self hself hcase
  have hcompare := compareFolded?_self hself hcase
  have htexts : ∀ test : List Char → List Char → Bool, (∀ s, test s s = true) →
      op.isTextMatch = true →
        testTexts ignoreCase test v (Filter.foldOperand ignoreCase v) = true := by
    intro test htest hmatch
    obtain ⟨s, rfl⟩ := hop hmatch
    exact testTexts_self htest s
  have hcontains := htexts containsText fun s => (occursIn_iff s s).2 List.infix_rfl
  have hstarts := htexts startsWithText fun s => List.isPrefixOf_iff_prefix.2 (List.prefix_refl s)
  have hends := htexts endsWithText fun s => List.isSuffixOf_iff_suffix.2 (List.suffix_refl s)
  unfold holds
  rw [hnull]
  cases op <;> simp_all [isReflexive, isTextMatch]

end Self

end Operator

namespace Record

open RecordFilter.Filter

/-- A member that is a text is read as its coercion. -/
theorem convert_string {s : String} {type : ValueType} {v : Value}
    (h : Value.coerce s type = .ok v) : convert type (.string s) = v := by
  rw [convert]
  split_ifs with htype
  · subst htype
    cases h
    rfl
  · rw [h]

theorem string_of_isText {s : String} {type : ValueType} {v : Value}
    (h : Value.coerce s type = .ok v) (htype : type.isText = true) : v = .string s := by
  cases type <;> cases htype
  cases h
  rfl

/-- A field of a schema that leads to a text, which can be read as the type of the field: the
escaped text finds the record under every operator that the field takes and that is reflexive, and
under no other. -/
theorem matches_own_text {s : Schema} {id : Nat} {config : Config} {m : Mapper Record}
    (hm : s.mapper id config = .ok m) {field : String} {type : ValueType}
    (hfield : (field, type) ∈ s) (hname : Token.IsFieldName field.toList) {r : Record}
    {text : String} (hr : r.Holds field.toList (.string text)) (htext : text ≠ "") {v : Value}
    (hv : Value.coerce text type = .ok v) {op : Operator}
    (hordering : op.isOrdering = true → type.supportsOrdering = true)
    (hmatch : op.isTextMatch = true → type = .string) :
    ∃ p, m.compile (field ++ op.symbol ++ String.ofList (Literal.escape text.toList)) = .ok p ∧
      p.holds r = op.isReflexive := by
  have hresolve := (Schema.mapsFields_of_mapper hm).1.resolve_eq hfield
  have hsupports : supports type op = true := by
    unfold supports
    split_ifs with ho ht
    · exact hordering ho
    · rw [hmatch ht]
      rfl
    · rfl
  have hread : (Schema.mapping (field, type)).read r = v :=
    (readField_of_holds hr type).trans (convert_string hv)
  have hcoerced := Value.coercedTo_of_coerce hv
  refine ⟨_, Mapper.compile_render_eq_ok (c := ⟨field, op, .text text, ⟨0, 0, 0, 0⟩⟩) hresolve rfl
    hsupports hv hname htext, ?_⟩
  rw [holds_comparisonOf, hread]
  refine Operator.holds_self hcoerced.isNull_eq hcoerced.compare?_self ?_ ?_
  · intro hcase
    exact ⟨text, string_of_isText hv (Bool.and_eq_true_iff.1 hcase).1⟩
  · intro hop
    refine ⟨text, string_of_isText hv ?_⟩
    rw [hmatch hop]
    rfl

theorem matches_own_text_null_word :
    ∃ m p, Schema.mapper [("Owner.Name", .string)] 0 ⟨false, true, true, 1⟩ = .ok m ∧
      m.compile "Owner.Name=*\\null" = .ok p ∧
      p.holds [("Owner", .object [("Name", .string "null")])] = true := by
  have hm : Schema.mapper [("Owner.Name", .string)] 0 ⟨false, true, true, 1⟩ = .ok _ := rfl
  have hholds : Record.Holds [("Owner", .object [("Name", .string "null")])]
      ("Owner".toList ++ '.' :: "Name".toList) (.string "null") :=
    .inner (by decide) rfl (.last (by decide) rfl)
  have hordering : Operator.contains.isOrdering = true → ValueType.string.supportsOrdering = true :=
    fun _ => rfl
  obtain ⟨p, hp, h⟩ := matches_own_text hm (List.mem_singleton.2 rfl)
    (Token.isFieldName_of_fieldLexeme_eq (by decide) (by decide)) hholds (by decide) rfl hordering
    fun _ => rfl
  exact ⟨_, p, rfl, hp, h⟩

end Record

end RecordFilter
