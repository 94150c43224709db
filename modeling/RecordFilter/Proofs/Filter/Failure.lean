import RecordFilter.Proofs.Filter.Completeness
import RecordFilter.Proofs.Filter.Conditions

/-!
# Where the reader of filters fails

Up to the place where it fails the reader has passed conditions and delimiters only, so it stands
where a condition may begin. The tokens in front of it say which error it can raise there
(`Raised`, `stuck_readOr`).
-/

namespace RecordFilter

namespace Filter

/-- The error can be raised in front of the tokens `ts` of a text that ends at `fin`. -/
inductive Raised (fin : Span) : List Token → SyntaxError → Prop
  | ended : Raised fin [] ⟨.unexpectedEnd, fin⟩
  | endToken {t : Token} {ts : List Token} (ht : t.kind = .eof) :
    Raised fin (t :: ts) ⟨.unexpectedEnd, t.span⟩
  | tooDeep {t : Token} {ts : List Token} : Raised fin (t :: ts) ⟨.tooDeep, t.span⟩
  | emptyGroup {t : Token} {ts : List Token} (ht : t.kind = .leftParen) :
    Raised fin (t :: ts) ⟨.emptyGroup, t.span⟩
  | unmatchedLeft {t : Token} {ts : List Token} (ht : t.kind = .leftParen) :
    Raised fin (t :: ts) ⟨.unmatchedLeft, t.span⟩
  | unmatchedRight {t : Token} {ts : List Token} (ht : t.kind = .rightParen) :
    Raised fin (t :: ts) ⟨.unmatchedRight, t.span⟩
  | missingLeftOperand {t : Token} {ts : List Token} {c : Connector}
    (ht : t.kind.connector? = some c) : Raised fin (t :: ts) ⟨.missingLeftOperand c, t.span⟩
  | missingRightOperand {t : Token} {ts : List Token} {c : Connector}
    (ht : t.kind.connector? = some c) : Raised fin (t :: ts) ⟨.missingRightOperand c, t.span⟩
  | missingFieldName {t : Token} {ts : List Token} {op : Operator} (ht : t.kind = .operator op) :
    Raised fin (t :: ts) ⟨.missingFieldName op, t.span⟩
  | missingCondition {t : Token} {ts : List Token} {l : Literal} (ht : t.kind = .ofLiteral l) :
    Raised fin (t :: ts) ⟨.missingCondition (.ofLiteral l), t.span⟩
  | missingOperator {t : Token} {ts : List Token} {name : String} (ht : t.kind = .field name)
    (hts : ∀ o ∈ ts.head?, ∀ op, o.kind ≠ .operator op) :
    Raised fin (t :: ts) ⟨.missingOperator name, (ts.head?.map Token.span).getD fin⟩
  | missingValue {t o : Token} {ts : List Token} {name : String} {op : Operator}
    (ht : t.kind = .field name) (ho : o.kind = .operator op)
    (hts : ∀ v ∈ ts.head?, ∀ l, v.kind ≠ .ofLiteral l) :
    Raised fin (t :: o :: ts) ⟨.missingValue name op, (ts.head?.map Token.span).getD fin⟩

/-- Behind some conditions and delimiters the error can be raised. -/
def Stuck (fin : Span) (ts : List Token) (e : SyntaxError) : Prop :=
  ∃ us rest cs, ts = us ++ rest ∧ Lists us cs ∧ Raised fin rest e

section Steps

variable {limit : Nat} {fin : Span} {groups k : Nat} {e : SyntaxError}

theorem Raised.stuck {ts : List Token} (h : Raised fin ts e) : Stuck fin ts e :=
  ⟨[], ts, [], rfl, .nil, h⟩

theorem Stuck.behind {us ts : List Token} {cs : List Condition} (h : Stuck fin ts e)
    (hus : Lists us cs) : Stuck fin (us ++ ts) e := by
  obtain ⟨vs, rest, ds, rfl, hvs, hraised⟩ := h
  exact ⟨us ++ vs, rest, cs ++ ds, (List.append_assoc us vs rest).symm, hus.append hvs, hraised⟩

theorem Stuck.delimiter {t : Token} {ts : List Token} (h : Stuck fin ts e)
    (ht : t.kind.isDelimiter = true) : Stuck fin (t :: ts) e := by
  have hone : Lists [t] [] := .delimiter ht .nil
  exact h.behind hone

theorem raised_parseComparison {t : Token} {ts : List Token} {name : String}
    (ht : t.kind = .field name)
    (h : outcome (parseComparison fin name t.span ts) = .error e) : Raised fin (t :: ts) e := by
  cases ts with
  | nil =>
    cases h
    exact .missingOperator ht fun o ho => by cases ho
  | cons o ts =>
    unfold parseComparison at h
    cases ho : o.kind with
    | operator op =>
      simp only [ho] at h
      cases ts with
      | nil =>
        cases h
        exact .missingValue ht ho fun v hv => by cases hv
      | cons v ts =>
        cases hv : v.kind.literal? with
        | some value =>
          simp only [hv] at h
          cases h
        | none =>
          simp only [hv] at h
          cases h
          refine .missingValue ht ho ?_
          rintro v ⟨⟩ l hl
          rw [literal?_eq_some.2 hl] at hv
          cases hv
    | _ =>
      simp only [ho] at h
      cases h
      refine .missingOperator ht ?_
      rintro o ⟨⟩ op hop
      rw [ho] at hop
      cases hop

/-- Only a field name and a left parenthesis begin a primary. -/
theorem raised_readPrimary {t : Token} {ts : List Token} (ht : opensPrimary t.kind = false)
    (h : readPrimary limit fin groups (t :: ts) = .error e) : Raised fin (t :: ts) e := by
  unfold readPrimary at h
  rw [parsePrimary] at h
  cases hk : t.kind with
  | leftParen | field =>
    rw [hk] at ht
    cases ht
  | rightParen =>
    simp only [hk] at h
    cases h
    exact .unmatchedRight hk
  | and | or =>
    simp only [hk] at h
    cases h
    exact .missingLeftOperand (by rw [hk]; rfl)
  | operator op =>
    simp only [hk] at h
    cases h
    exact .missingFieldName hk
  | value s =>
    simp only [hk] at h
    cases h
    exact .missingCondition (l := .text s) hk
  | null =>
    simp only [hk] at h
    cases h
    exact .missingCondition (l := .null) hk
  | eof =>
    simp only [hk] at h
    cases h
    exact .endToken hk

theorem stuck_readPrimary
    (hor : ∀ ts e, ts.length < k → readOr limit fin (groups + 1) ts = .error e → Stuck fin ts e)
    {ts : List Token} (hk : ts.length ≤ k) (h : readPrimary limit fin groups ts = .error e) :
    Stuck fin ts e := by
  cases ts with
  | nil =>
    unfold readPrimary at h
    rw [parsePrimary] at h
    cases h
    exact Raised.ended.stuck
  | cons t ts =>
    cases ht : t.kind with
    | leftParen =>
      rw [readPrimary_leftParen limit fin groups ht] at h
      split_ifs at h
      · cases h
        exact (Raised.emptyGroup ht).stuck
      · cases h
        exact Raised.tooDeep.stuck
      · rcases cases_of_bind_eq_error h with h | ⟨⟨f, us⟩, -, h⟩
        · exact (hor ts e hk h).delimiter (by rw [ht]; rfl)
        · rcases of_closeGroup_eq_error h with rfl | rfl
          · exact (Raised.unmatchedLeft ht).stuck
          · exact Raised.tooDeep.stuck
    | field name =>
      rw [readPrimary_field limit fin groups ht] at h
      exact (raised_parseComparison ht h).stuck
    | _ => exact (raised_readPrimary (by rw [ht]; rfl) h).stuck

/-- What was read in front of the tokens that are left is conditions and delimiters. -/
theorem Stuck.behind_read {n : Nonterminal} {f : Filter}
    {read : List Token → Except SyntaxError (Filter × List Token)} {ts rest : List Token}
    (hsound : Sound limit n read ts) (hread : read ts = .ok (f, rest)) (h : Stuck fin rest e) :
    Stuck fin ts e := by
  obtain ⟨us, rfl, hus, -⟩ := hsound f rest hread
  exact h.behind hus.lists

theorem Joint.lists {c : Connector} {joint : List Token} (h : Joint c joint) : Lists joint [] := by
  cases h with
  | implied => exact .nil
  | @written _ t ht =>
    refine .delimiter ?_ .nil
    cases hk : t.kind with
    | and | or => rfl
    | _ =>
      rw [hk] at ht
      cases ht

/-- A loop fails where an operand does, or at a connector or the first token of an operand. -/
theorem Loops.stuck {c : Connector} {left : Filter} {ts : List Token}
    {read : List Token → Except SyntaxError (Filter × List Token)}
    {r : Except SyntaxError (Filter × List Token)} (h : Loops limit c read left ts r)
    (hr : r = .error e)
    (hread : ∀ us e, us.length ≤ ts.length → read us = .error e → Stuck fin us e)
    (hsound : ∀ us, Sound limit (operand c) read us) : Stuck fin ts e := by
  induction h with
  | stop => cases hr
  | lacking ht =>
    cases hr
    exact (Raised.missingRightOperand ht).stuck
  | tooDeep =>
    cases hr
    exact Raised.tooDeep.stuck
  | @failed left joint us e' hjoint hus =>
    cases hr
    have hlen : (joint ++ us).length = joint.length + us.length := List.length_append
    exact (hread us e (by omega) hus).behind hjoint.lists
  | @joined left right joint us rest r hjoint hus hlt _ _ ih =>
    have hlen : (joint ++ us).length = joint.length + us.length := List.length_append
    have hrest := ih hr fun vs e hle => hread vs e (by omega)
    exact (hrest.behind_read (hsound us) hus).behind hjoint.lists

variable (hlimit : 0 < limit)
include hlimit

theorem stuck_readAnd
    (hp : ∀ us e, us.length ≤ k → readPrimary limit fin groups us = .error e → Stuck fin us e)
    {ts : List Token} (hk : ts.length ≤ k) (h : readAnd limit fin groups ts = .error e) :
    Stuck fin ts e := by
  rw [readAnd_eq] at h
  rcases cases_of_bind_eq_error h with h | ⟨⟨f, us⟩, hr, h⟩
  · exact hp ts e hk h
  · have hlt : us.length < ts.length := length_lt_of_outcome hr
    have hloops := loops_readAndRest limit fin groups f us
    have hus := hloops.stuck h (fun vs e hle => hp vs e (by omega)) (sound_primary hlimit)
    exact hus.behind_read (sound_primary hlimit ts) hr

/-- The induction is on the number of tokens: a group reads a disjunction in what stands behind
its parenthesis. -/
theorem stuck_readOr {ts : List Token} (h : readOr limit fin groups ts = .error e) :
    Stuck fin ts e := by
  induction hn : ts.length using Nat.strongRecOn generalizing groups ts e with
  | _ n ih =>
    subst hn
    have hp : ∀ us e, us.length ≤ ts.length → readPrimary limit fin groups us = .error e →
        Stuck fin us e :=
      fun us e hk h => stuck_readPrimary (fun vs e hvs h => ih vs.length hvs h rfl) hk h
    have ha : ∀ us e, us.length ≤ ts.length → readAnd limit fin groups us = .error e →
        Stuck fin us e :=
      fun us e hk h => stuck_readAnd hlimit hp hk h
    rw [readOr_eq] at h
    rcases cases_of_bind_eq_error h with h | ⟨⟨f, us⟩, hr, h⟩
    · exact ha ts e (Nat.le_refl _) h
    · have hlt : us.length < ts.length := length_lt_of_outcome hr
      have hloops := loops_readOrRest limit fin groups f us
      have hus := hloops.stuck h (fun vs e hle => ha vs e (by omega)) (sound_conjunction hlimit)
      exact hus.behind_read (sound_conjunction hlimit ts) hr

end Steps

/-! ## What is left -/

section Left

variable {limit : Nat} {fin : Span} {groups : Nat}

/-- A loop stops in front of a token that does not go on its chain: where it began, or behind an
operand. -/
theorem Loops.stops {c : Connector} {left f : Filter} {ts rest : List Token}
    {read : List Token → Except SyntaxError (Filter × List Token)}
    {r : Except SyntaxError (Filter × List Token)} (h : Loops limit c read left ts r)
    (hr : r = .ok (f, rest)) : (∀ t ∈ rest.head?, continues c t.kind = false) ∧
      (rest = ts ∨ ∃ us right, read us = .ok (right, rest)) := by
  induction h with
  | stop hts =>
    cases hr
    exact ⟨hts, .inl rfl⟩
  | lacking | failed | tooDeep => cases hr
  | joined hjoint hus hlt _ _ ih =>
    obtain ⟨hstops, rfl | hoperand⟩ := ih hr
    · exact ⟨hstops, .inr ⟨_, _, hus⟩⟩
    · exact ⟨hstops, .inr hoperand⟩

theorem stopsAnd_of_readAnd {f : Filter} {ts rest : List Token}
    (h : readAnd limit fin groups ts = .ok (f, rest)) : StopsAnd rest := by
  rw [readAnd_eq] at h
  obtain ⟨x, -, h⟩ := bind_eq_ok.1 h
  exact ((loops_readAndRest limit fin groups x.1 x.2).stops h).1

/-- The tokens go on neither a conjunction nor a disjunction. -/
def StopsOr (rest : List Token) : Prop :=
  StopsAnd rest ∧ ∀ t ∈ rest.head?, t.kind ≠ .or

theorem stopsOr_of_readOr {f : Filter} {ts rest : List Token}
    (h : readOr limit fin groups ts = .ok (f, rest)) : StopsOr rest := by
  rw [readOr_eq] at h
  obtain ⟨x, hr, h⟩ := bind_eq_ok.1 h
  obtain ⟨hstops, hbegan⟩ := (loops_readOrRest limit fin groups x.1 x.2).stops h
  refine ⟨?_, fun t ht => of_decide_eq_false (hstops t ht)⟩
  rcases hbegan with rfl | ⟨us, right, hus⟩
  · exact stopsAnd_of_readAnd hr
  · exact stopsAnd_of_readAnd hus

end Left

/-! ## Whole sequences -/

/-- A sequence of tokens is rejected if it is empty, where the reader gets stuck, or at the token
behind the longest filter that it begins with. -/
theorem cases_of_ofTokens_eq_error {ts : List Token} {e : SyntaxError}
    (h : ofTokens ts = .error e) :
    e = ⟨.emptyFilter, endSpan ts⟩ ∨ Stuck (endSpan ts) (beforeEnd ts) e ∨
      ∃ us w ws cs, beforeEnd ts = us ++ w :: ws ∧ Lists us cs ∧ StopsOr (w :: ws) ∧
        e = ⟨if w.kind = .rightParen then .unmatchedRight else .trailing w.kind, w.span⟩ := by
  by_cases hne : beforeEnd ts = []
  · rw [ofTokens_nil hne] at h
    cases h
    exact .inl rfl
  · rw [ofTokens_eq hne] at h
    refine .inr ?_
    rcases cases_of_bind_eq_error h with h | ⟨⟨f, rest⟩, hread, h⟩
    · exact .inl (stuck_readOr maxDepth_pos h)
    · obtain ⟨us, hsplit, hus, -⟩ := sound_readOr maxDepth_pos _ f rest hread
      cases rest with
      | nil => cases h
      | cons w ws =>
        cases h
        exact .inr ⟨us, w, ws, _, hsplit, hus.lists, stopsOr_of_readOr hread, rfl⟩

end Filter

end RecordFilter
