import RecordFilter.Proofs.Filter.Grammar

/-!
# What the reader of filters reads

The steps of the reader, seen as functions to a tree and the tokens after it, with one equation for
each way a step can go.
-/

namespace RecordFilter

theorem bind_eq_ok {ε α β : Type} {r : Except ε α} {g : α → Except ε β} {b : β} :
    r >>= g = .ok b ↔ ∃ a, r = .ok a ∧ g a = .ok b := by
  constructor
  · intro h
    cases r with
    | error e => cases h
    | ok a => exact ⟨a, rfl, h⟩
  · rintro ⟨a, rfl, h⟩
    exact h

theorem cases_of_bind_eq_error {ε α β : Type} {r : Except ε α} {g : α → Except ε β} {e : ε}
    (h : r >>= g = .error e) : r = .error e ∨ ∃ a, r = .ok a ∧ g a = .error e := by
  cases r with
  | error e' =>
    cases h
    exact .inl rfl
  | ok a => exact .inr ⟨a, rfl, h⟩

namespace Filter

/-- A filter with its depth. -/
def Measured.of (f : Filter) : Measured :=
  ⟨f, f.depth, rfl⟩

theorem Measured.of_filter (m : Measured) : Measured.of m.filter = m := by
  obtain ⟨f, d, rfl⟩ := m
  rfl

/-- The tree and the tokens after it, without the bound on them. -/
def outcome {n : Nat} (r : Except SyntaxError (Parsed n)) :
    Except SyntaxError (Filter × List Token) :=
  r.map fun p => (p.result.filter, p.rest)

theorem length_lt_of_outcome {n : Nat} {r : Except SyntaxError (Parsed n)} {f : Filter}
    {rest : List Token} (h : outcome r = .ok (f, rest)) : rest.length < n := by
  cases r with
  | error e => cases h
  | ok p => cases h; exact p.rest_lt

/-- The tree if it is no deeper than `limit`. -/
def within (limit : Nat) (f : Filter) (span : Span) : Except SyntaxError Filter :=
  if limit < f.depth then .error ⟨.tooDeep, span⟩ else .ok f

theorem within_eq_ok {limit : Nat} {f g : Filter} {span : Span} :
    within limit f span = .ok g ↔ g = f ∧ f.depth ≤ limit := by
  unfold within
  split_ifs with hd
  · constructor
    · intro h; cases h
    · rintro ⟨-, h⟩; exact absurd h (Nat.not_le.2 hd)
  · constructor
    · intro h; cases h; exact ⟨rfl, Nat.not_lt.1 hd⟩
    · rintro ⟨rfl, -⟩; rfl

theorem eq_of_within_eq_error {limit : Nat} {f : Filter} {span : Span} {e : SyntaxError}
    (h : within limit f span = .error e) : e = ⟨.tooDeep, span⟩ := by
  unfold within at h
  split_ifs at h
  cases h
  rfl

theorem checked_eq (limit : Nat) (m : Measured) (span : Span) :
    m.checked limit span = (within limit m.filter span).map Measured.of := by
  obtain ⟨f, d, rfl⟩ := m
  unfold Measured.checked within
  split <;> rfl

/-! ## The steps -/

section Steps

variable (limit : Nat) (fin : Span) (groups : Nat)

def readPrimary (ts : List Token) : Except SyntaxError (Filter × List Token) :=
  outcome (parsePrimary limit fin groups ts)

def readAnd (ts : List Token) : Except SyntaxError (Filter × List Token) :=
  outcome (parseAnd limit fin groups ts)

def readAndRest (left : Filter) (ts : List Token) : Except SyntaxError (Filter × List Token) :=
  outcome (parseAndRest limit fin groups (.of left) ts)

def readOr (ts : List Token) : Except SyntaxError (Filter × List Token) :=
  outcome (parseOr limit fin groups ts)

def readOrRest (left : Filter) (ts : List Token) : Except SyntaxError (Filter × List Token) :=
  outcome (parseOrRest limit fin groups (.of left) ts)

theorem readAnd_eq (ts : List Token) :
    readAnd limit fin groups ts =
      readPrimary limit fin groups ts >>= fun x => readAndRest limit fin groups x.1 x.2 := by
  unfold readAnd readPrimary readAndRest
  rw [parseAnd]
  cases parsePrimary limit fin groups ts with
  | error e => rfl
  | ok first =>
    show outcome (parseAndRest limit fin groups first.result first.rest >>= _) =
      outcome (parseAndRest limit fin groups (.of first.result.filter) first.rest)
    rw [Measured.of_filter]
    cases parseAndRest limit fin groups first.result first.rest <;> rfl

theorem readOr_eq (ts : List Token) :
    readOr limit fin groups ts =
      readAnd limit fin groups ts >>= fun x => readOrRest limit fin groups x.1 x.2 := by
  unfold readOr readAnd readOrRest
  rw [parseOr]
  cases parseAnd limit fin groups ts with
  | error e => rfl
  | ok first =>
    show outcome (parseOrRest limit fin groups first.result first.rest >>= _) =
      outcome (parseOrRest limit fin groups (.of first.result.filter) first.rest)
    rw [Measured.of_filter]
    cases parseOrRest limit fin groups first.result first.rest <;> rfl

theorem readAndRest_nil (left : Filter) :
    readAndRest limit fin groups left [] = .ok (left, []) := by
  unfold readAndRest
  rw [parseAndRest]
  rfl

/-- What follows the right operand once it is read. -/
theorem outcome_join {n k : Nat} (c : Connector) (left : Filter) (right : Parsed n) (span : Span)
    (next : (m : Measured) → Except SyntaxError (Parsed (right.rest.length + 1)))
    (hk : right.rest.length + 1 ≤ k) :
    outcome (do
      let m ← ((Measured.of left).join c right.result).checked limit span
      let p ← next m
      return p.weaken hk) =
    within limit (.join c left right.result.filter) span >>= fun f => outcome (next (.of f)) := by
  rw [checked_eq]
  show outcome ((within limit (.join c left right.result.filter) span).map Measured.of >>= _) = _
  cases within limit (.join c left right.result.filter) span with
  | error e => rfl
  | ok f =>
    show outcome (next (.of f) >>= _) = outcome (next (.of f))
    cases next (.of f) <;> rfl

theorem readAndRest_and {t : Token} (ht : t.kind = .and) (left : Filter) (ts : List Token) :
    readAndRest limit fin groups left (t :: ts) =
      if startsOperand ts then do
        let x ← readPrimary limit fin groups ts
        let f ← within limit (.and left x.1) t.span
        readAndRest limit fin groups f x.2
      else .error ⟨.missingRightOperand .and, t.span⟩ := by
  unfold readAndRest readPrimary
  rw [parseAndRest]
  simp only [ht]
  split_ifs with hs
  · cases parsePrimary limit fin groups ts with
    | error e => rfl
    | ok right => exact outcome_join limit .and left right t.span _ _
  · rfl

theorem readAndRest_adjacent {t : Token} (ht : opensPrimary t.kind = true) (left : Filter)
    (ts : List Token) :
    readAndRest limit fin groups left (t :: ts) = (do
      let x ← readPrimary limit fin groups (t :: ts)
      let f ← within limit (.and left x.1) t.span
      readAndRest limit fin groups f x.2) := by
  unfold readAndRest readPrimary
  rw [parseAndRest]
  cases hk : t.kind with
  | leftParen | field =>
    cases parsePrimary limit fin groups (t :: ts) with
    | error e => rfl
    | ok right => exact outcome_join limit .and left right t.span _ _
  | _ => rw [hk] at ht; cases ht

/-- Whether a conjunction goes on with a token of this kind. -/
def continuesAnd : TokenKind → Bool
  | .and | .leftParen | .field _ => true
  | _ => false

/-- But for the connector, a conjunction goes on with its next primary. -/
theorem opensPrimary_of_continuesAnd {k : TokenKind} (h : continuesAnd k = true) (hne : k ≠ .and) :
    opensPrimary k = true := by
  cases k with
  | and => exact absurd rfl hne
  | leftParen | field => rfl
  | _ => cases h

theorem readAndRest_stop {t : Token} (ht : continuesAnd t.kind = false) (left : Filter)
    (ts : List Token) :
    readAndRest limit fin groups left (t :: ts) = .ok (left, t :: ts) := by
  unfold readAndRest
  rw [parseAndRest]
  cases hk : t.kind with
  | and | leftParen | field => rw [hk] at ht; cases ht
  | _ => rfl

theorem readOrRest_nil (left : Filter) :
    readOrRest limit fin groups left [] = .ok (left, []) := by
  unfold readOrRest
  rw [parseOrRest]
  rfl

theorem readOrRest_or {t : Token} (ht : t.kind = .or) (left : Filter) (ts : List Token) :
    readOrRest limit fin groups left (t :: ts) =
      if startsOperand ts then do
        let x ← readAnd limit fin groups ts
        let f ← within limit (.or left x.1) t.span
        readOrRest limit fin groups f x.2
      else .error ⟨.missingRightOperand .or, t.span⟩ := by
  unfold readOrRest readAnd
  rw [parseOrRest, if_pos ht]
  split_ifs with hs
  · cases parseAnd limit fin groups ts with
    | error e => rfl
    | ok right => exact outcome_join limit .or left right t.span _ _
  · rfl

theorem readOrRest_stop {t : Token} (ht : t.kind ≠ .or) (left : Filter) (ts : List Token) :
    readOrRest limit fin groups left (t :: ts) = .ok (left, t :: ts) := by
  unfold readOrRest
  rw [parseOrRest, if_neg ht]
  rfl

/-- What is left to do for a group once its inside is read. -/
def closeGroup (span : Span) (x : Filter × List Token) :
    Except SyntaxError (Filter × List Token) := do
  let rest ← (parseClose span x.2).map Subtype.val
  let f ← within limit (.group x.1) span
  return (f, rest)

theorem readPrimary_leftParen {t : Token} (ht : t.kind = .leftParen) (ts : List Token) :
    readPrimary limit fin groups (t :: ts) =
      if startsWithRightParen ts then .error ⟨.emptyGroup, t.span⟩
      else if limit ≤ groups then .error ⟨.tooDeep, t.span⟩
      else readOr limit fin (groups + 1) ts >>= closeGroup limit t.span := by
  unfold readPrimary readOr
  rw [parsePrimary]
  simp only [ht]
  split_ifs with hp hg
  · rfl
  · rfl
  · cases parseOr limit fin (groups + 1) ts with
    | error e => rfl
    | ok inner =>
      show outcome (parseClose t.span inner.rest >>= _) =
        (parseClose t.span inner.rest).map Subtype.val >>= _
      cases parseClose t.span inner.rest with
      | error e => rfl
      | ok close =>
        show outcome (inner.result.group.checked limit t.span >>= _) =
          within limit (.group inner.result.filter) t.span >>= _
        rw [checked_eq]
        show outcome ((within limit (.group inner.result.filter) t.span).map _ >>= _) = _
        cases within limit (.group inner.result.filter) t.span <;> rfl

theorem readPrimary_field {t : Token} {name : String} (ht : t.kind = .field name)
    (ts : List Token) :
    readPrimary limit fin groups (t :: ts) = outcome (parseComparison fin name t.span ts) := by
  unfold readPrimary
  rw [parsePrimary]
  simp only [ht]

end Steps

/-! ## Conditions and closing parentheses -/

/-- A token carries the literal that its kind was made of. -/
theorem literal?_eq_some {k : TokenKind} {l : Literal} :
    k.literal? = some l ↔ k = .ofLiteral l := by
  constructor
  · intro h
    cases k <;> cases h <;> rfl
  · rintro rfl
    exact TokenKind.literal?_ofLiteral l

theorem parseComparison_eq_ok {fin : Span} {name : String} {span : Span} {ts rest : List Token}
    {f : Filter} :
    outcome (parseComparison fin name span ts) = .ok (f, rest) ↔
      ∃ o v op value, ts = o :: v :: rest ∧ o.kind = .operator op ∧ v.kind = .ofLiteral value ∧
        f = .comparison ⟨name, op, value, span.merge v.span⟩ := by
  constructor
  · intro h
    rcases ts with _ | ⟨o, _ | ⟨v, ts⟩⟩
    · cases h
    · unfold parseComparison at h
      cases ho : o.kind <;> simp only [ho] at h <;> cases h
    · unfold parseComparison at h
      cases ho : o.kind with
      | operator op =>
        simp only [ho] at h
        cases hv : v.kind.literal? with
        | none => rw [hv] at h; cases h
        | some value =>
          rw [hv] at h
          cases h
          exact ⟨o, v, op, value, rfl, ho, literal?_eq_some.1 hv, rfl⟩
      | _ => simp only [ho] at h; cases h
  · rintro ⟨o, v, op, value, rfl, ho, hv, rfl⟩
    unfold parseComparison
    simp only [ho]
    rw [hv, TokenKind.literal?_ofLiteral]
    rfl

theorem parseClose_cons {u : Token} (hu : u.kind = .rightParen) (span : Span) (ts : List Token) :
    (parseClose span (u :: ts)).map Subtype.val = .ok ts := by
  rw [parseClose, if_pos hu]
  rfl

theorem closeGroup_cons {u : Token} (hu : u.kind = .rightParen) (limit : Nat) (span : Span)
    (f : Filter) (rest : List Token) :
    closeGroup limit span (f, u :: rest) =
      within limit (.group f) span >>= fun g => .ok (g, rest) := by
  unfold closeGroup
  rw [parseClose_cons hu]
  rfl

theorem exists_of_closeGroup {limit : Nat} {span : Span} {f g : Filter} {ts rest : List Token}
    (h : closeGroup limit span (f, ts) = .ok (g, rest)) :
    ∃ u, ts = u :: rest ∧ u.kind = .rightParen ∧ g = .group f ∧ g.depth ≤ limit := by
  cases ts with
  | nil => cases h
  | cons u us =>
    by_cases hu : u.kind = .rightParen
    · rw [closeGroup_cons hu] at h
      obtain ⟨g', hw, h⟩ := bind_eq_ok.1 h
      obtain ⟨rfl, hd⟩ := within_eq_ok.1 hw
      cases h
      exact ⟨u, rfl, hu, rfl, hd⟩
    · unfold closeGroup at h
      rw [parseClose, if_neg hu] at h
      cases h

theorem of_closeGroup_eq_error {limit : Nat} {span : Span} {f : Filter} {ts : List Token}
    {e : SyntaxError} (h : closeGroup limit span (f, ts) = .error e) :
    e = ⟨.unmatchedLeft, span⟩ ∨ e = ⟨.tooDeep, span⟩ := by
  cases ts with
  | nil =>
    cases h
    exact .inl rfl
  | cons u us =>
    by_cases hu : u.kind = .rightParen
    · rw [closeGroup_cons hu] at h
      rcases cases_of_bind_eq_error h with h | ⟨g, -, h⟩
      · exact .inr (eq_of_within_eq_error h)
      · cases h
    · unfold closeGroup at h
      rw [parseClose, if_neg hu] at h
      cases h
      exact .inl rfl

/-! ## Whole sequences -/

/-- What is left to do for a whole sequence once a disjunction is read. -/
def finish (x : Filter × List Token) : Except SyntaxError Filter :=
  match x.2 with
  | [] => .ok x.1
  | t :: _ =>
    .error ⟨if t.kind = .rightParen then .unmatchedRight else .trailing t.kind, t.span⟩

theorem ofTokens_eq {ts : List Token} (hne : beforeEnd ts ≠ []) :
    ofTokens ts = readOr maxDepth (endSpan ts) 0 (beforeEnd ts) >>= finish := by
  unfold ofTokens readOr
  cases hb : beforeEnd ts with
  | nil => exact absurd hb hne
  | cons t us =>
    show parseOr maxDepth (endSpan ts) 0 (t :: us) >>= _ = _
    cases parseOr maxDepth (endSpan ts) 0 (t :: us) with
    | error e => rfl
    | ok p =>
      obtain ⟨m, rest, hlt⟩ := p
      cases rest <;> rfl

theorem ofTokens_nil {ts : List Token} (h : beforeEnd ts = []) :
    ofTokens ts = .error ⟨.emptyFilter, endSpan ts⟩ := by
  unfold ofTokens
  rw [h]

end Filter

end RecordFilter
