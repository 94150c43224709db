import RecordFilter.Proofs.Filter.Failure

/-!
# Where the reader of filters lays its errors

The reader either leaves tokens that it was given, or fails with the span of one of them or of the
end. With the spans of the tokens in a set, so is therefore the span of every error
(`exists_span_eq_of_ofTokens_eq_error`).
-/

namespace RecordFilter

namespace Filter

/-- All tokens stand at places of the set. -/
def Standing (S : Span → Prop) (ts : List Token) : Prop :=
  ∀ t ∈ ts, S t.span

/-- The error, or each token that is left, stands at a place of the set. -/
structure Stays (S : Span → Prop) (r : Except SyntaxError (Filter × List Token)) : Prop where
  error : ∀ e, r = .error e → S e.span
  rest : ∀ f ts, r = .ok (f, ts) → Standing S ts

section Steps

variable {S : Span → Prop} {limit : Nat} {fin : Span} {groups : Nat} {e : SyntaxError}

/-- An error is laid at one of the first three tokens, or at the end. -/
theorem Raised.standing {ts : List Token} (h : Raised fin ts e) (hfin : S fin)
    (hts : Standing S ts) : S e.span := by
  have hhead : ∀ us : List Token, Standing S us → S ((us.head?.map Token.span).getD fin) := by
    intro us hus
    cases us with
    | nil => exact hfin
    | cons u us => exact hus u List.mem_cons_self
  cases h with
  | ended => exact hfin
  | missingOperator => exact hhead _ (List.forall_mem_cons.1 hts).2
  | missingValue => exact hhead _ (List.forall_mem_cons.1 (List.forall_mem_cons.1 hts).2).2
  | _ => exact hts _ List.mem_cons_self

theorem Standing.of_append {us ts : List Token} (h : Standing S (us ++ ts)) : Standing S ts :=
  (List.forall_mem_append.1 h).2

theorem stays_readOr (hlimit : 0 < limit) (hfin : S fin) {ts : List Token} (hts : Standing S ts) :
    Stays S (readOr limit fin groups ts) where
  error := by
    intro e h
    obtain ⟨us, rest, cs, rfl, -, hraised⟩ := stuck_readOr hlimit h
    exact hraised.standing hfin hts.of_append
  rest := by
    intro f rest h
    obtain ⟨us, rfl, -⟩ := sound_readOr hlimit ts f rest h
    exact hts.of_append

end Steps

/-! ## Whole sequences -/

theorem exists_span_eq_endSpan {ts : List Token} (h : ∃ t ∈ ts, t.kind = .eof) :
    ∃ t ∈ ts, t.span = endSpan ts := by
  obtain ⟨t, ht, hkind⟩ := h
  unfold endSpan
  cases hf : ts.find? (·.kind = .eof) with
  | none => exact absurd (by simpa using hkind) (List.find?_eq_none.1 hf t ht)
  | some u => exact ⟨u, List.mem_of_find?_eq_some hf, rfl⟩

/-- With an end token, every error is laid at a token. -/
theorem exists_span_eq_of_ofTokens_eq_error {ts : List Token} (hend : ∃ t ∈ ts, t.kind = .eof)
    {e : SyntaxError} (h : ofTokens ts = .error e) : ∃ t ∈ ts, t.span = e.span := by
  have hfin := exists_span_eq_endSpan hend
  have hbody : Standing (fun span => ∃ t ∈ ts, t.span = span) (beforeEnd ts) := fun t ht =>
    ⟨t, (List.takeWhile_sublist _).subset ht, rfl⟩
  have hstays : Stays _ (readOr maxDepth (endSpan ts) 0 (beforeEnd ts)) :=
    stays_readOr maxDepth_pos hfin hbody
  by_cases hne : beforeEnd ts = []
  · rw [ofTokens_nil hne] at h
    cases h
    exact hfin
  · rw [ofTokens_eq hne] at h
    rcases cases_of_bind_eq_error h with h | ⟨⟨f, rest⟩, hread, h⟩
    · exact hstays.error _ h
    · cases rest with
      | nil => cases h
      | cons w ws =>
        cases h
        exact hstays.rest _ _ hread w List.mem_cons_self

end Filter

end RecordFilter
