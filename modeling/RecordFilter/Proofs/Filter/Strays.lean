import RecordFilter.Proofs.Filter.Failure
import RecordFilter.Proofs.Filter.Spelling
import RecordFilter.Proofs.Token.Succession

/-!
# No part of a condition stands alone

The tokens of a text are in order, and they stay so behind conditions and delimiters. So where the
reader expects a condition it never meets an operator or a literal, and behind a filter it finds
nothing but the end or a right parenthesis (`not_stray_of_parse_eq_error`). Other sequences of
tokens can have such strays.
-/

namespace RecordFilter

/-- The fault is a part of a condition without the parts in front of it, or a token behind a
complete filter. -/
def SyntaxFault.isStray : SyntaxFault → Bool
  | missingFieldName _ | missingCondition _ | trailing _ => true
  | _ => false

/-! ## Messages -/

theorem head?_toList_append {s : String} {c : Char} (h : s.toList.head? = some c) (t : String) :
    (s ++ t).toList.head? = some c := by
  rw [String.toList_append, List.head?_append, h]
  rfl

theorem getLast?_toList_append {t : String} {c : Char} (h : t.toList.getLast? = some c)
    (s : String) : (s ++ t).toList.getLast? = some c := by
  rw [String.toList_append, List.getLast?_append, h]
  rfl

/-- The text begins with `c` and ends with `d`. -/
def HasEnds (s : String) (c d : Char) : Prop :=
  s.toList.head? = some c ∧ s.toList.getLast? = some d

instance (s : String) (c d : Char) : Decidable (HasEnds s c d) :=
  inferInstanceAs (Decidable (_ ∧ _))

theorem hasEnds_append {s u : String} {c d : Char} (hs : s.toList.head? = some c)
    (hu : u.toList.getLast? = some d) (t : String) : HasEnds (s ++ t ++ u) c d :=
  ⟨head?_toList_append (head?_toList_append hs t) u, getLast?_toList_append hu (s ++ t)⟩

theorem HasEnds.unique {s : String} {c d c' d' : Char} (h : HasEnds s c d) (h' : HasEnds s c' d') :
    (c, d) = (c', d') := by
  have hc := h.1.symm.trans h'.1
  have hd := h.2.symm.trans h'.2
  cases hc
  cases hd
  rfl

/-- The first and the last character of a message tell it from the message of a stray. -/
theorem SyntaxFault.hasEnds_message {fault : SyntaxFault} (h : fault.isStray = false) :
    ∃ c d, HasEnds fault.message c d ∧
      (c, d) ≠ ('o', 'e') ∧ (c, d) ≠ ('v', 'r') ∧ (c, d) ≠ ('u', 'n') := by
  cases fault with
  | missingFieldName | missingCondition | trailing => cases h
  | unterminatedEscape => exact ⟨'u', 'e', by decide, by decide⟩
  | unexpectedCharacter c => exact ⟨'u', '\'', hasEnds_append (by decide) (by decide) _, by decide⟩
  | unexpectedEnd => exact ⟨'u', 'r', by decide, by decide⟩
  | emptyFilter => exact ⟨'e', 'r', by decide, by decide⟩
  | emptyGroup => exact ⟨'e', '\'', by decide, by decide⟩
  | unmatchedLeft | unmatchedRight => exact ⟨'u', '\'', by decide, by decide⟩
  | tooDeep => exact ⟨'f', 'y', by decide, by decide⟩
  | missingLeftOperand c => exact ⟨'c', 'd', hasEnds_append (by decide) (by decide) _, by decide⟩
  | missingRightOperand c => exact ⟨'c', 'd', hasEnds_append (by decide) (by decide) _, by decide⟩
  | missingOperator field => exact ⟨'e', '\'', hasEnds_append (by decide) (by decide) _, by decide⟩
  | missingValue field op =>
    have hends : HasEnds ("condition '" ++ (field ++ op.symbol) ++ "' is missing its value")
        'c' 'e' := hasEnds_append (by decide) (by decide) _
    rw [← String.append_assoc] at hends
    exact ⟨'c', 'e', hends, by decide⟩

theorem SyntaxFault.message_ne {fault : SyntaxFault} (h : fault.isStray = false) (x : String) :
    fault.message ≠ "operator " ++ x ++ " is missing its field name" ∧
      fault.message ≠ "value " ++ x ++ " is missing its field name and operator" ∧
      fault.message ≠ "unexpected " ++ x ++ " after complete condition" := by
  obtain ⟨c, d, hends, hoperator, hvalue, hunexpected⟩ := hasEnds_message h
  have hne : ∀ {s u : String} {c' d' : Char}, s.toList.head? = some c' →
      u.toList.getLast? = some d' → (c, d) ≠ (c', d') → fault.message ≠ s ++ x ++ u := by
    intro s u c' d' hs hu hcd heq
    rw [heq] at hends
    exact hcd (hends.unique (hasEnds_append hs hu x))
  exact ⟨hne (by decide) (by decide) hoperator, hne (by decide) (by decide) hvalue,
    hne (by decide) (by decide) hunexpected⟩

namespace Filter

open Token

/-! ## Where strays would be found -/

/-- Behind conditions and delimiters tokens are in order as at the beginning of a text. -/
theorem Lists.orderly {us vs : List Token} {cs : List Condition} (h : Lists us cs)
    (hts : Orderly .element ((us ++ vs).map Token.kind)) :
    Orderly .element (vs.map Token.kind) := by
  induction h with
  | nil => exact hts
  | delimiter ht hus ih =>
    have htail := hts.tail
    rw [after_of_isDelimiter ht] at htail
    exact ih htail
  | @condition t o v us cs name op value ht ho hv hus ih =>
    have htail := hts.tail.tail.tail
    rw [hv, after_ofLiteral] at htail
    exact ih htail

theorem Raised.not_isStray {fin : Span} {ts : List Token} {e : SyntaxError} (h : Raised fin ts e)
    (hts : Orderly .element (ts.map Token.kind)) : e.fault.isStray = false := by
  cases h with
  | missingFieldName ht =>
    rw [List.map_cons, ht] at hts
    cases hts.eq_of_operator
  | missingCondition ht =>
    rw [List.map_cons, ht] at hts
    cases hts.of_literal.1
  | _ => rfl

theorem Stuck.not_isStray {fin : Span} {ts : List Token} {e : SyntaxError} (h : Stuck fin ts e)
    (hts : Orderly .element (ts.map Token.kind)) : e.fault.isStray = false := by
  obtain ⟨us, rest, cs, rfl, hus, hraised⟩ := h
  exact hraised.not_isStray (hus.orderly hts)

/-- A token that does not go on the filter in front of it closes a group. -/
theorem eq_rightParen_of_stopsOr {w : Token} {ws : List Token}
    (hts : Orderly .element ((w :: ws).map Token.kind)) (hstops : StopsOr (w :: ws))
    (hend : w.kind ≠ .eof) : w.kind = .rightParen := by
  obtain ⟨hand, hor⟩ := hstops
  have hand := hand w rfl
  have hor := hor w rfl
  rw [List.map_cons] at hts
  cases hk : w.kind with
  | rightParen => rfl
  | and | leftParen | field =>
    rw [hk] at hand
    cases hand
  | or => exact absurd hk hor
  | eof => exact absurd hk hend
  | operator op =>
    rw [hk] at hts
    cases hts.eq_of_operator
  | value s =>
    rw [hk] at hts
    cases (hts.of_literal (l := .text s)).1
  | null =>
    rw [hk] at hts
    cases (hts.of_literal (l := .null)).1

theorem not_isStray_of_scan_eq_error {input : String} {e : SyntaxError}
    (h : scan input = .error e) : e.fault.isStray = false := by
  have hstuck : ∀ before c, (stuckAt before c).fault.isStray = false := by
    intro before c
    unfold stuckAt
    split_ifs <;> rfl
  unfold scan at h
  dsimp only at h
  split_ifs at h
  · cases h
    exact hstuck _ _
  · split at h
    · cases h
    · cases h
      exact hstuck _ _

theorem not_isStray_of_parse_eq_error {input : String} {e : SyntaxError}
    (h : parse input = .error e) : e.fault.isStray = false := by
  rcases cases_of_bind_eq_error h with h | ⟨ts, hscan, h⟩
  · exact not_isStray_of_scan_eq_error h
  · -- the order of the tokens carries over to where the reader stops
    obtain ⟨ks, hlex, hts⟩ := lexes_of_scan hscan
    have hbody : Orderly .element ((beforeEnd ts).map Token.kind) := by
      rw [map_kind_beforeEnd hts hlex.ne_eof]
      exact hlex.orderly
    rcases cases_of_ofTokens_eq_error h with rfl | h | ⟨us, w, ws, cs, hsplit, hus, hstops, rfl⟩
    · rfl
    · exact h.not_isStray hbody
    · have hend : w.kind ≠ .eof := by
        have hw : w ∈ beforeEnd ts := by
          rw [hsplit]
          exact List.mem_append_right us List.mem_cons_self
        simpa using List.mem_takeWhile_imp hw
      rw [hsplit] at hbody
      rw [if_pos (eq_rightParen_of_stopsOr (hus.orderly hbody) hstops hend)]
      rfl

/-! ## Implied connectors -/

/-- A conjunction ends in a literal or in a right parenthesis. -/
theorem Derives.exists_concat {n : Nonterminal} {us : List Token} {f : Filter}
    (h : Derives n us f) :
    ∃ vs u, us = vs ++ [u] ∧ (u.kind = .rightParen ∨ ∃ l, u.kind = .ofLiteral l) := by
  induction h with
  | @comparison t o v name op value ht ho hv => exact ⟨[t, o], v, rfl, .inr ⟨value, hv⟩⟩
  | @group t u us f ht hf hu ih => exact ⟨t :: us, u, rfl, .inl hu⟩
  | conjunct hf ih => exact ih
  | disjunct hf ih => exact ih
  | @adjacent us vs l r hl hr ihl ihr =>
    obtain ⟨ws, u, rfl, hu⟩ := ihr
    exact ⟨us ++ ws, u, (List.append_assoc us ws [u]).symm, hu⟩
  | @and t us vs l r hl ht hr ihl ihr | @or t us vs l r hl ht hr ihl ihr =>
    obtain ⟨ws, u, rfl, hu⟩ := ihr
    exact ⟨us ++ t :: ws, u, by simp, hu⟩

/-- If a primary begins right behind a conjunction, one of the two has a parenthesis there. -/
theorem parenthesis_between {ws us vs : List Token} {t : Token} {l : Filter}
    (hts : Ordered (ws ++ (us ++ t :: vs))) (hus : Derives .conjunction us l)
    (ht : opensPrimary t.kind = true) :
    t.kind = .leftParen ∨ ∃ xs u, us = xs ++ [u] ∧ u.kind = .rightParen := by
  obtain ⟨xs, u, rfl, hu | ⟨value, hu⟩⟩ := hus.exists_concat
  · exact .inr ⟨xs, u, rfl, hu⟩
  · refine .inl ?_
    have hnext := hts.behind_literal (ws ++ xs) u t vs value (by simp) hu
    cases hk : t.kind with
    | leftParen => rfl
    | field =>
      rw [hk] at hnext
      cases hnext
    | _ =>
      rw [hk] at ht
      cases ht

/-- In a text that is cut into tokens the parts of a condition stand together and no condition
stands right behind another, so that an implied `&` has a parenthesis beside it; and no text is
rejected for a stray. -/
theorem conditions_stand_whole (input : String) :
    (∀ ts, scan input = .ok ts → Ordered ts ∧
      ∀ ws us vs t l, ts = ws ++ (us ++ t :: vs) → Derives .conjunction us l →
        opensPrimary t.kind = true →
        t.kind = .leftParen ∨ ∃ xs u, us = xs ++ [u] ∧ u.kind = .rightParen) ∧
    ∀ e, parse input = .error e → ∀ x,
      e.fault.message ≠ "operator " ++ x ++ " is missing its field name" ∧
      e.fault.message ≠ "value " ++ x ++ " is missing its field name and operator" ∧
      e.fault.message ≠ "unexpected " ++ x ++ " after complete condition" := by
  constructor
  · intro ts hscan
    have hts := ordered_of_orderly (orderly_of_scan hscan)
    refine ⟨hts, ?_⟩
    rintro ws us vs t l rfl hus ht
    exact parenthesis_between hts hus ht
  · intro e h x
    exact SyntaxFault.message_ne (not_isStray_of_parse_eq_error h) x

/-- The connector between a group and a condition is left out, and a right parenthesis stands
behind both. -/
theorem conditions_stand_whole_group_then_condition :
    let us : List Token := [⟨.leftParen, "(", ⟨0, 1, 1, 1⟩⟩, ⟨.field "A", "A", ⟨1, 2, 1, 2⟩⟩,
      ⟨.operator .equal, "==", ⟨2, 4, 1, 3⟩⟩, ⟨.null, "null", ⟨4, 8, 1, 5⟩⟩,
      ⟨.rightParen, ")", ⟨8, 9, 1, 9⟩⟩]
    let b : Token := ⟨.field "B", "B", ⟨9, 10, 1, 10⟩⟩
    let vs : List Token := [⟨.operator .less, "<", ⟨10, 11, 1, 11⟩⟩,
      ⟨.value "2", "2", ⟨11, 12, 1, 12⟩⟩, ⟨.rightParen, ")", ⟨12, 13, 1, 13⟩⟩,
      ⟨.eof, "", ⟨13, 13, 1, 14⟩⟩]
    scan "(A==null)B<2)" = .ok (us ++ b :: vs) ∧
    (b.kind = .leftParen ∨ ∃ xs u, us = xs ++ [u] ∧ u.kind = .rightParen) ∧
    parse "(A==null)B<2)" = .error ⟨.unmatchedRight, ⟨12, 13, 1, 13⟩⟩ ∧
    SyntaxFault.unmatchedRight.message ≠ "unexpected " ++ ")" ++ " after complete condition" := by
  intro us b vs
  have hchars : "(A==null)B<2)".toList =
      ['(', 'A', '=', '=', 'n', 'u', 'l', 'l', ')', 'B', '<', '2', ')'] := by decide
  have hscan : scan "(A==null)B<2)" = .ok (us ++ b :: vs) := by
    unfold scan
    rw [hchars]
    cbv
  have hparse : parse "(A==null)B<2)" = .error ⟨.unmatchedRight, ⟨12, 13, 1, 13⟩⟩ := by
    unfold parse
    rw [hscan]
    cbv
  have hnull : TokenKind.null = .ofLiteral .null := rfl
  have hgroup : Derives .conjunction us _ :=
    .conjunct (.group rfl (.disjunct (.conjunct (.comparison rfl rfl hnull))) rfl)
  obtain ⟨hscanned, hrejected⟩ := conditions_stand_whole "(A==null)B<2)"
  exact ⟨hscan, (hscanned _ hscan).2 [] us vs b _ rfl hgroup rfl, hparse,
    (hrejected _ hparse ")").2.2⟩

end Filter

end RecordFilter
