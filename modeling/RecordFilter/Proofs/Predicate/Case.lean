import RecordFilter.Proofs.Predicate.Condition
import RecordFilter.Proofs.Predicate.Evaluation
import RecordFilter.Proofs.Text.Lowercase

/-!
# Ignoring case

Under the setting that ignores case, a text field is compared in small letters on both sides. The
member and the literal are made small apart from each other, so a literal that occurs in a member
may get a small form that does not occur in the member's: where a capital sigma stands at its end.
`LosesMatches` says which literals of which operators lose a match that way, and no other does
(`matches_ignoring_case`).
-/

namespace RecordFilter

namespace Operator

/-- What the operators for equality, a part, a beginning and an end say of the text `t` of a member
and the text `s` of a literal. -/
def Finds : Operator → List Char → List Char → Prop
  | equal, t, s => t = s
  | contains, t, s => s <:+: t
  | startsWith, t, s => s <+: t
  | endsWith, t, s => s <:+ t
  | _, _, _ => False

/-- The literals that an operator may find in a text but not, in small letters, in the small letters
of the text. -/
def LosesMatches : Operator → List Char → Prop
  | contains, s => Text.BeginsWithMedialSigma s ∨ Text.EndsInFinalSigma s
  | startsWith, s => Text.EndsInFinalSigma s
  | endsWith, s => Text.BeginsWithMedialSigma s
  | _, _ => False

theorem not_losesMatches_of_not_mem {s : List Char} (h : 'Σ' ∉ s) (op : Operator) :
    ¬LosesMatches op s := by
  have hsplit : ∀ u w, s ≠ u ++ 'Σ' :: w := by
    rintro u w rfl
    exact h (List.mem_append_right u List.mem_cons_self)
  have hbegin : ¬Text.BeginsWithMedialSigma s := fun ⟨u, w, hs, _⟩ => hsplit u w hs
  have hend : ¬Text.EndsInFinalSigma s := fun ⟨u, w, hs, _⟩ => hsplit u w hs
  cases op with
  | contains => exact not_or.2 ⟨hbegin, hend⟩
  | startsWith => exact hend
  | endsWith => exact hbegin
  | _ => exact id

theorem finds_lowercase {op : Operator} {t s : List Char} (hop : ¬LosesMatches op s)
    (h : Finds op t s) : Finds op (Text.lowercase t) (Text.lowercase s) := by
  cases op with
  | equal => exact congrArg Text.lowercase h
  | contains =>
    obtain ⟨b, a, rfl⟩ := h
    rw [LosesMatches, not_or] at hop
    exact Text.lowercase_infix hop.1 hop.2 b a
  | startsWith =>
    obtain ⟨a, rfl⟩ := h
    exact Text.lowercase_prefix hop a
  | endsWith =>
    obtain ⟨b, rfl⟩ := h
    exact Text.lowercase_suffix hop b
  | _ => exact h.elim

theorem exists_not_finds {op : Operator} {s : List Char} (hop : LosesMatches op s) :
    ∃ t, Finds op t s ∧ ¬Finds op (Text.lowercase t) (Text.lowercase s) := by
  cases op with
  | contains =>
    rcases hop with hbegin | hend
    · obtain ⟨b, hb⟩ := Text.exists_not_infix_of_beginsWithMedialSigma hbegin
      exact ⟨_, (List.suffix_append b s).isInfix, hb⟩
    · obtain ⟨a, ha⟩ := Text.exists_not_infix_of_endsInFinalSigma hend
      exact ⟨_, (List.prefix_append s a).isInfix, ha⟩
  | startsWith =>
    obtain ⟨a, ha⟩ := Text.exists_not_infix_of_endsInFinalSigma hop
    exact ⟨_, List.prefix_append s a, fun h => ha h.isInfix⟩
  | endsWith =>
    obtain ⟨b, hb⟩ := Text.exists_not_infix_of_beginsWithMedialSigma hop
    exact ⟨_, List.suffix_append b s, fun h => hb h.isInfix⟩
  | _ => exact hop.elim

theorem equals_string (a b : String) : (Value.string a).equals (.string b) = true ↔ a = b := by
  show (some (Value.compareTexts a b) == some .eq) = true ↔ a = b
  rw [beq_iff_eq, Option.some.injEq, Value.compareTexts_eq_iff]

/-- Between texts, such an operator holds if it finds the one in the other, whose case may be
ignored. -/
theorem holds_iff_finds {op : Operator} (hop : op ∈ [equal, contains, startsWith, endsWith])
    (ignoreCase : Bool) (t s : String) :
    op.holds ignoreCase (.string t) (.string s) = true ↔
      Finds op (if ignoreCase then Text.lowercase t.toList else t.toList) s.toList := by
  have htexts : ∀ test, testTexts ignoreCase test (.string t) (.string s) =
      test (if ignoreCase then Text.lowercase t.toList else t.toList) s.toList := by
    intro test
    cases ignoreCase with
    | false => rfl
    | true => exact congrArg (test · s.toList) String.toList_ofList
  simp only [List.mem_cons, List.not_mem_nil, or_false] at hop
  rcases hop with rfl | rfl | rfl | rfl
  · cases ignoreCase with
    | false => exact (equals_string t s).trans String.toList_inj.symm
    | true =>
      show (Text.lowered t == s) = true ↔ Text.lowercase t.toList = s.toList
      rw [beq_iff_eq, ← String.toList_inj, Text.lowered, String.toList_ofList]
  · show testTexts ignoreCase containsText (.string t) (.string s) = true ↔ _
    rw [htexts, containsText, occursIn_iff, Finds]
  · show testTexts ignoreCase startsWithText (.string t) (.string s) = true ↔ _
    rw [htexts, startsWithText, List.isPrefixOf_iff_prefix, Finds]
  · show testTexts ignoreCase endsWithText (.string t) (.string s) = true ↔ _
    rw [htexts, endsWithText, List.isSuffixOf_iff_suffix, Finds]

end Operator

variable {α : Type}

/-- The mapper with the setting that ignores case set. -/
def Mapper.withCaseIgnored (m : Mapper α) (ignored : Bool) : Mapper α :=
  { m with config := { m.config with caseInsensitiveFiltering := ignored } }

namespace Filter

/-- The comparison with a text, once case counts and once it does not. -/
theorem compile_withCaseIgnored (m : Mapper α) {c : Condition} {f : FieldMapping α} {s : String}
    (hf : m.resolve c.field = .ok f) (htype : f.type = .string) (hreader : f.reader = none)
    (hs : c.value = .text s)
    (hop : c.operator ∈ [Operator.equal, .contains, .startsWith, .endsWith]) (ignored : Bool) :
    ∃ p, (comparison c).compile (m.withCaseIgnored ignored) = .ok p ∧
      ∀ x t, f.read x = .string t →
        (p.holds x = true ↔
          c.operator.Finds (if ignored then Text.lowercase t.toList else t.toList)
            (if ignored then Text.lowercase s.toList else s.toList)) := by
  have hsupports : supports f.type c.operator = true := by
    rw [htype]
    cases c.operator <;> rfl
  have hliteral : f.readLiteral s = .ok (.string s) := by
    rw [FieldMapping.readLiteral, hreader, htype]
    rfl
  have hplain : (c.operator == .equalIgnoringCase) = false := by
    simp only [List.mem_cons, List.not_mem_nil, or_false] at hop
    rcases hop with hop | hop | hop | hop <;> rw [hop] <;> rfl
  have hignores : ignoresCase (m.withCaseIgnored ignored).config f.type c.operator = ignored := by
    rw [ignoresCase, htype, hplain]
    rfl
  have hoperand : foldOperand ignored (.string s) =
      .string (String.ofList (if ignored then Text.lowercase s.toList else s.toList)) := by
    cases ignored with
    | false => exact congrArg Value.string String.ofList_toList.symm
    | true => rfl
  refine ⟨_, compile_comparison (m := m.withCaseIgnored ignored) hf hs hsupports hliteral, ?_⟩
  intro x t hx
  rw [holds_comparisonOf, hignores, hoperand, hx, Operator.holds_iff_finds hop,
    String.toList_ofList]

/-- Ignoring case keeps every match of a literal that does not lose any, and for each of the others
there is a member whose match is lost. -/
theorem matches_ignoring_case (m : Mapper α) {c : Condition} {f : FieldMapping α} {s : String}
    (hf : m.resolve c.field = .ok f) (htype : f.type = .string) (hreader : f.reader = none)
    (hs : c.value = .text s)
    (hop : c.operator ∈ [Operator.equal, .contains, .startsWith, .endsWith]) :
    ∃ p q, (comparison c).compile (m.withCaseIgnored false) = .ok p ∧
      (comparison c).compile (m.withCaseIgnored true) = .ok q ∧
      (¬c.operator.LosesMatches s.toList →
        ∀ x t, f.read x = .string t → p.holds x = true → q.holds x = true) ∧
      (c.operator.LosesMatches s.toList →
        ∃ t, ∀ x, f.read x = .string t → p.holds x = true ∧ q.holds x = false) := by
  obtain ⟨p, hp, hpholds⟩ := compile_withCaseIgnored m hf htype hreader hs hop false
  obtain ⟨q, hq, hqholds⟩ := compile_withCaseIgnored m hf htype hreader hs hop true
  refine ⟨p, q, hp, hq, fun hkeeps x t hx h => ?_, fun hloses => ?_⟩
  · exact (hqholds x t hx).2 (Operator.finds_lowercase hkeeps ((hpholds x t hx).1 h))
  · obtain ⟨t, hfinds, hnot⟩ := Operator.exists_not_finds hloses
    refine ⟨String.ofList t, fun x hx => ⟨(hpholds x _ hx).2 ?_, ?_⟩⟩
    · rw [String.toList_ofList]
      exact hfinds
    · rw [← Bool.not_eq_true, hqholds x _ hx, String.toList_ofList]
      exact hnot

/-- Names as they are, under the standard settings. -/
def nameMapper : Mapper String :=
  (Mapper.empty 0 .standard).override ⟨"Name", .ofOrigin "name" .string, .string, none⟩

theorem matches_ignoring_case_without_sigma :
    ∃ p q, (comparison ⟨"Name", .contains, .text "ΑΒ", ⟨0, 0, 0, 0⟩⟩).compile
        (nameMapper.withCaseIgnored false) = .ok p ∧
      (comparison ⟨"Name", .contains, .text "ΑΒ", ⟨0, 0, 0, 0⟩⟩).compile
        (nameMapper.withCaseIgnored true) = .ok q ∧
      ∀ name, p.holds name = true → q.holds name = true := by
  obtain ⟨p, q, hp, hq, hkeeps, -⟩ := matches_ignoring_case nameMapper
    (c := ⟨"Name", .contains, .text "ΑΒ", ⟨0, 0, 0, 0⟩⟩) rfl rfl rfl rfl (by decide)
  exact ⟨p, q, hp, hq, fun name =>
    hkeeps (Operator.not_losesMatches_of_not_mem (by decide) _) name name rfl⟩

/-- A name in capitals that goes on behind a sigma is found by its beginning, until case is ignored:
then the sigma is final in the literal only. -/
theorem match_lost_ignoring_case :
    ∃ p q, (comparison ⟨"Name", .contains, .text "ΑΣ", ⟨0, 0, 0, 0⟩⟩).compile
        (nameMapper.withCaseIgnored false) = .ok p ∧
      (comparison ⟨"Name", .contains, .text "ΑΣ", ⟨0, 0, 0, 0⟩⟩).compile
        (nameMapper.withCaseIgnored true) = .ok q ∧
      p.holds "ΑΣΑ" = true ∧ q.holds "ΑΣΑ" = false :=
  ⟨_, _, rfl, rfl, by decide +kernel, by decide +kernel⟩

end Filter

end RecordFilter
