import RecordFilter.Proofs.Filter.Reading

/-!
# The loops of the reader

Both chains are read by one loop: it joins operand after operand to the filter on its left, with
the connector between them or, in a conjunction, with none. `Loops` has a constructor for each way
a round can go, so whatever holds of both loops is shown by one induction on it.
-/

namespace RecordFilter

namespace Filter

/-- Whether a chain of the connector goes on with a token of this kind. -/
def continues : Connector → TokenKind → Bool
  | .and => continuesAnd
  | .or => fun k => k = .or

/-- What stands in front of the next operand: the connector, or nothing where `&` is implied. -/
inductive Joint : Connector → List Token → Prop
  | written {c : Connector} {t : Token} (ht : t.kind.connector? = some c) : Joint c [t]
  | implied : Joint .and []

/-- The runs of the loop from a filter and the tokens behind it, and what they come to. -/
inductive Loops (limit : Nat) (c : Connector)
    (read : List Token → Except SyntaxError (Filter × List Token)) :
    Filter → List Token → Except SyntaxError (Filter × List Token) → Prop
  | stop {left : Filter} {ts : List Token} (hts : ∀ t ∈ ts.head?, continues c t.kind = false) :
    Loops limit c read left ts (.ok (left, ts))
  | lacking {left : Filter} {t : Token} {ts : List Token} (ht : t.kind.connector? = some c) :
    Loops limit c read left (t :: ts) (.error ⟨.missingRightOperand c, t.span⟩)
  | failed {left : Filter} {joint us : List Token} {e : SyntaxError} (hjoint : Joint c joint)
    (hread : read us = .error e) : Loops limit c read left (joint ++ us) (.error e)
  | tooDeep {left : Filter} {t : Token} {ts : List Token} :
    Loops limit c read left (t :: ts) (.error ⟨.tooDeep, t.span⟩)
  | joined {left right : Filter} {joint us rest : List Token}
    {r : Except SyntaxError (Filter × List Token)} (hjoint : Joint c joint)
    (hread : read us = .ok (right, rest)) (hlt : rest.length < us.length)
    (hd : (join c left right).depth ≤ limit)
    (hrest : Loops limit c read (join c left right) rest r) :
    Loops limit c read left (joint ++ us) r

section Steps

variable {limit : Nat} {c : Connector}
  {read : List Token → Except SyntaxError (Filter × List Token)}

/-- A round that reads an operand. -/
theorem loops_join {left : Filter} {t : Token} {ts joint us : List Token}
    {next : Filter → List Token → Except SyntaxError (Filter × List Token)}
    (hts : t :: ts = joint ++ us) (hjoint : Joint c joint)
    (hnext : ∀ right rest, read us = .ok (right, rest) → rest.length < us.length ∧
      Loops limit c read (join c left right) rest (next (join c left right) rest)) :
    Loops limit c read left (t :: ts) (do
      let x ← read us
      let f ← within limit (join c left x.1) t.span
      next f x.2) := by
  cases hread : read us with
  | error e =>
    rw [hts]
    exact .failed hjoint hread
  | ok x =>
    obtain ⟨right, rest⟩ := x
    obtain ⟨hlt, hloops⟩ := hnext right rest hread
    show Loops limit c read left (t :: ts) (within limit (join c left right) t.span >>= _)
    unfold within
    split_ifs with hd
    · exact .tooDeep
    · rw [hts]
      exact .joined hjoint hread hlt (Nat.not_lt.1 hd) hloops

variable (limit : Nat) (fin : Span) (groups : Nat)

theorem loops_readAndRest (left : Filter) (ts : List Token) :
    Loops limit .and (readPrimary limit fin groups) left ts
      (readAndRest limit fin groups left ts) := by
  induction hn : ts.length using Nat.strongRecOn generalizing left ts with
  | _ n ih =>
    subst hn
    cases ts with
    | nil =>
      rw [readAndRest_nil]
      exact .stop fun t ht => nomatch ht
    | cons t ts =>
      have hlen : (t :: ts).length = ts.length + 1 := rfl
      cases hc : continuesAnd t.kind with
      | false =>
        rw [readAndRest_stop limit fin groups hc]
        refine .stop ?_
        rintro t ⟨⟩
        exact hc
      | true =>
        by_cases ht : t.kind = .and
        · have hconnector : t.kind.connector? = some .and := by rw [ht]; rfl
          rw [readAndRest_and limit fin groups ht]
          split_ifs
          · refine loops_join rfl (.written hconnector) fun right rest hread => ?_
            have hlt : rest.length < ts.length := length_lt_of_outcome hread
            exact ⟨hlt, ih rest.length (by omega) _ rest rfl⟩
          · exact .lacking hconnector
        · rw [readAndRest_adjacent limit fin groups (opensPrimary_of_continuesAnd hc ht)]
          refine loops_join rfl .implied fun right rest hread => ?_
          have hlt : rest.length < (t :: ts).length := length_lt_of_outcome hread
          exact ⟨hlt, ih rest.length hlt _ rest rfl⟩

theorem loops_readOrRest (left : Filter) (ts : List Token) :
    Loops limit .or (readAnd limit fin groups) left ts
      (readOrRest limit fin groups left ts) := by
  induction hn : ts.length using Nat.strongRecOn generalizing left ts with
  | _ n ih =>
    subst hn
    cases ts with
    | nil =>
      rw [readOrRest_nil]
      exact .stop fun t ht => nomatch ht
    | cons t ts =>
      have hlen : (t :: ts).length = ts.length + 1 := rfl
      by_cases ht : t.kind = .or
      · have hconnector : t.kind.connector? = some .or := by rw [ht]; rfl
        rw [readOrRest_or limit fin groups ht]
        split_ifs
        · refine loops_join rfl (.written hconnector) fun right rest hread => ?_
          have hlt : rest.length < ts.length := length_lt_of_outcome hread
          exact ⟨hlt, ih rest.length (by omega) _ rest rfl⟩
        · exact .lacking hconnector
      · rw [readOrRest_stop limit fin groups ht]
        refine .stop ?_
        rintro t ⟨⟩
        exact decide_eq_false ht

end Steps

end Filter

end RecordFilter
