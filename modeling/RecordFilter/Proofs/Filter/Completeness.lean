import RecordFilter.Proofs.Filter.Soundness

/-!
# Every derived tree is read, unless it is too deep

The reader keeps a depth for each tree it builds and a count of the open groups. Both are bounded
by the depth of the tree that is derived (`Fits`), so a derived sequence is read exactly if its tree
is within the limit, and the only error on it is that of a tree too deep. As any limit may be set,
the reader also shows that no sequence has two trees.
-/

namespace RecordFilter

namespace Filter

/-! ## Depth and open groups -/

theorem depth_pos (f : Filter) : 0 < f.depth := by
  cases f <;> exact Nat.succ_pos _

/-- How many groups are open at the innermost condition, at most. -/
def groupDepth : Filter → Nat
  | comparison _ => 0
  | and l r | or l r => max l.groupDepth r.groupDepth
  | group f => f.groupDepth + 1

theorem groupDepth_lt_depth (f : Filter) : f.groupDepth < f.depth := by
  induction f with
  | comparison c => exact Nat.one_pos
  | and l r ihl ihr | or l r ihl ihr =>
    simp only [groupDepth, depth]
    omega
  | group f ih =>
    simp only [groupDepth, depth]
    omega

/-- The tree can be read inside `groups` groups: neither its depth nor its own groups pass the
limit. -/
def Fits (limit groups : Nat) (f : Filter) : Prop :=
  f.depth ≤ limit ∧ groups + f.groupDepth ≤ limit

theorem fits_zero_iff {limit : Nat} {f : Filter} : Fits limit 0 f ↔ f.depth ≤ limit := by
  have h := groupDepth_lt_depth f
  unfold Fits
  omega

theorem fits_join_iff {limit groups : Nat} (c : Connector) {l r : Filter} :
    Fits limit groups (join c l r) ↔
      Fits limit groups l ∧ Fits limit groups r ∧ (join c l r).depth ≤ limit := by
  have hg : (join c l r).groupDepth = max l.groupDepth r.groupDepth := by cases c <;> rfl
  unfold Fits
  rw [hg, depth_join]
  omega

theorem fits_group_iff {limit groups : Nat} {f : Filter} :
    Fits limit groups (group f) ↔
      (groups < limit ∧ Fits limit (groups + 1) f) ∧ (group f).depth ≤ limit := by
  unfold Fits
  simp only [groupDepth, depth]
  omega

/-! ## Going on, or too deep -/

/-- `r` goes on as `s` if `p`, and fails as too deep if not. -/
def GoesOn {α : Type} (p : Prop) (r s : Except SyntaxError α) : Prop :=
  (p → r = s) ∧ (¬p → ∃ span, r = .error ⟨.tooDeep, span⟩)

namespace GoesOn

variable {α β : Type} {p q : Prop} {r s t : Except SyntaxError α}

theorem congr (h : GoesOn p r s) (hpq : q ↔ p) : GoesOn q r s := by
  rwa [GoesOn, hpq]

theorem of_true (hp : p) (h : r = s) : GoesOn p r s :=
  ⟨fun _ => h, fun hn => absurd hp hn⟩

theorem trans (h : GoesOn p r s) (h' : p → GoesOn q s t) : GoesOn (p ∧ q) r t := by
  constructor
  · rintro ⟨hp, hq⟩
    rw [h.1 hp, (h' hp).1 hq]
  · intro hn
    by_cases hp : p
    · rw [h.1 hp]
      exact (h' hp).2 fun hq => hn ⟨hp, hq⟩
    · exact h.2 hp

theorem bind {a : α} (h : GoesOn p r (.ok a)) (g : α → Except SyntaxError β) :
    GoesOn p (r >>= g) (g a) := by
  constructor
  · intro hp
    rw [h.1 hp]
    rfl
  · intro hn
    obtain ⟨span, hr⟩ := h.2 hn
    exact ⟨span, by rw [hr]; rfl⟩

theorem within (limit : Nat) (f : Filter) (span : Span) (g : Filter → Except SyntaxError β) :
    GoesOn (f.depth ≤ limit) (Filter.within limit f span >>= g) (g f) := by
  unfold Filter.within
  split_ifs with hd
  · exact ⟨fun h => absurd h (Nat.not_le.2 hd), fun _ => ⟨span, rfl⟩⟩
  · exact of_true (Nat.not_lt.1 hd) rfl

end GoesOn

/-! ## What the reader does behind a derived sequence -/

/-- The tokens do not begin as the rest of a conjunction does. -/
def StopsAnd (rest : List Token) : Prop :=
  ∀ t ∈ rest.head?, continuesAnd t.kind = false

theorem readAndRest_of_stopsAnd {rest : List Token} (h : StopsAnd rest) (limit : Nat) (fin : Span)
    (groups : Nat) (left : Filter) :
    readAndRest limit fin groups left rest = .ok (left, rest) := by
  cases rest with
  | nil => exact readAndRest_nil limit fin groups left
  | cons t ts => exact readAndRest_stop limit fin groups (h t rfl) left ts

/-- Reading a sequence of the nonterminal with the tree `f` and whatever follows it: a primary is
done, and a chain goes on to its loop with `f` on the left. -/
def Reads (limit : Nat) (fin : Span) : Nonterminal → List Token → Filter → Prop
  | .primary, us, f => ∀ groups rest, groups ≤ limit →
    GoesOn (Fits limit groups f) (readPrimary limit fin groups (us ++ rest)) (.ok (f, rest))
  | .conjunction, us, f => ∀ groups rest, groups ≤ limit →
    GoesOn (Fits limit groups f) (readAnd limit fin groups (us ++ rest))
      (readAndRest limit fin groups f rest)
  | .disjunction, us, f => ∀ groups rest, groups ≤ limit → StopsAnd rest →
    GoesOn (Fits limit groups f) (readOr limit fin groups (us ++ rest))
      (readOrRest limit fin groups f rest)

theorem startsOperand_of_derives {n : Nonterminal} {us : List Token} {f : Filter}
    (h : Derives n us f) (rest : List Token) : startsOperand (us ++ rest) = true := by
  obtain ⟨t, vs, rfl, ho⟩ := h.exists_cons
  cases hk : t.kind with
  | leftParen | field => simp [startsOperand, hk]
  | _ => rw [hk] at ho; cases ho

theorem startsWithRightParen_of_derives {n : Nonterminal} {us : List Token} {f : Filter}
    (h : Derives n us f) (rest : List Token) : startsWithRightParen (us ++ rest) = false := by
  obtain ⟨t, vs, rfl, ho⟩ := h.exists_cons
  cases hk : t.kind with
  | leftParen | field => simp [startsWithRightParen, hk]
  | _ => rw [hk] at ho; cases ho

theorem reads_comparison {limit : Nat} {fin : Span} (hlimit : 0 < limit) {t o v : Token}
    {name : String} {op : Operator} {value : Literal} (ht : t.kind = .field name)
    (ho : o.kind = .operator op) (hv : v.kind = .ofLiteral value) :
    Reads limit fin .primary [t, o, v]
      (.comparison ⟨name, op, value, t.span.merge v.span⟩) := by
  intro groups rest hg
  refine GoesOn.of_true ⟨hlimit, hg⟩ ?_
  show readPrimary limit fin groups (t :: o :: v :: rest) = _
  rw [readPrimary_field limit fin groups ht]
  exact parseComparison_eq_ok.2 ⟨o, v, op, value, rfl, ho, hv, rfl⟩

theorem reads_group {limit : Nat} {fin : Span} {t u : Token} {us : List Token} {f : Filter}
    (ht : t.kind = .leftParen) (hf : Derives .disjunction us f) (hu : u.kind = .rightParen)
    (ih : Reads limit fin .disjunction us f) :
    Reads limit fin .primary (t :: (us ++ [u])) (.group f) := by
  intro groups rest hg
  have hts : t :: (us ++ [u]) ++ rest = t :: (us ++ u :: rest) := by simp
  have hstop : StopsAnd (u :: rest) := by
    intro w hw
    cases hw
    rw [hu]
    rfl
  have hor : u.kind ≠ .or := by rw [hu]; decide
  show GoesOn _ (readPrimary limit fin groups (t :: (us ++ [u]) ++ rest)) _
  rw [hts, readPrimary_leftParen limit fin groups ht,
    startsWithRightParen_of_derives hf (u :: rest), if_neg Bool.false_ne_true]
  have hopen : GoesOn (groups < limit)
      (if limit ≤ groups then .error ⟨.tooDeep, t.span⟩
        else readOr limit fin (groups + 1) (us ++ u :: rest) >>= closeGroup limit t.span)
      (readOr limit fin (groups + 1) (us ++ u :: rest) >>= closeGroup limit t.span) := by
    split_ifs with hle
    · exact ⟨fun hlt => absurd hle (Nat.not_le.2 hlt), fun _ => ⟨t.span, rfl⟩⟩
    · exact .of_true (Nat.not_le.1 hle) rfl
  have hinner : groups < limit → GoesOn (Fits limit (groups + 1) f)
      (readOr limit fin (groups + 1) (us ++ u :: rest) >>= closeGroup limit t.span)
      (closeGroup limit t.span (f, u :: rest)) := by
    intro hlt
    have hread := ih (groups + 1) (u :: rest) hlt hstop
    rw [readOrRest_stop limit fin (groups + 1) hor] at hread
    exact hread.bind _
  have hclose := GoesOn.within limit (.group f) t.span fun g => .ok (g, rest)
  rw [← closeGroup_cons hu] at hclose
  exact ((hopen.trans hinner).trans fun _ => hclose).congr fits_group_iff

/-- Reading the right operand and joining it, as both loops do. -/
theorem goesOn_join {limit groups : Nat} {l r : Filter} {rest : List Token}
    {read : Except SyntaxError (Filter × List Token)} (c : Connector) (span : Span)
    (hr : GoesOn (Fits limit groups r) read (.ok (r, rest)))
    (next : Filter → List Token → Except SyntaxError (Filter × List Token)) :
    GoesOn (Fits limit groups r ∧ (join c l r).depth ≤ limit)
      (do
        let x ← read
        let f ← within limit (join c l x.1) span
        next f x.2)
      (next (join c l r) rest) :=
  (hr.bind _).trans fun _ => GoesOn.within limit (join c l r) span fun f => next f rest

section Chains

variable {limit : Nat} {fin : Span} {t : Token} {us vs : List Token} {l r : Filter}

theorem reads_and (hl : Reads limit fin .conjunction us l) (ht : t.kind = .and)
    (hd : Derives .primary vs r) (hr : Reads limit fin .primary vs r) :
    Reads limit fin .conjunction (us ++ t :: vs) (.and l r) := by
  intro groups rest hg
  have hleft := hl groups (t :: (vs ++ rest)) hg
  rw [readAndRest_and limit fin groups ht, startsOperand_of_derives hd rest, if_pos rfl] at hleft
  have hright := goesOn_join (l := l) .and t.span (hr groups rest hg) (readAndRest limit fin groups)
  show GoesOn _ (readAnd limit fin groups (us ++ t :: vs ++ rest)) _
  rw [List.append_assoc, List.cons_append]
  exact (hleft.trans fun _ => hright).congr (fits_join_iff .and)

theorem reads_adjacent (hl : Reads limit fin .conjunction us l) (hd : Derives .primary vs r)
    (hr : Reads limit fin .primary vs r) :
    Reads limit fin .conjunction (us ++ vs) (.and l r) := by
  intro groups rest hg
  obtain ⟨w, ws, rfl, ho⟩ := hd.exists_cons
  have hleft := hl groups (w :: (ws ++ rest)) hg
  rw [readAndRest_adjacent limit fin groups ho] at hleft
  have hright := goesOn_join (l := l) .and w.span (hr groups rest hg) (readAndRest limit fin groups)
  show GoesOn _ (readAnd limit fin groups (us ++ w :: ws ++ rest)) _
  rw [List.append_assoc, List.cons_append]
  exact (hleft.trans fun _ => hright).congr (fits_join_iff .and)

theorem reads_or (hl : Reads limit fin .disjunction us l) (ht : t.kind = .or)
    (hd : Derives .conjunction vs r) (hr : Reads limit fin .conjunction vs r) :
    Reads limit fin .disjunction (us ++ t :: vs) (.or l r) := by
  intro groups rest hg hstop
  have hstop' : StopsAnd (t :: (vs ++ rest)) := by
    intro w hw
    cases hw
    rw [ht]
    rfl
  have hleft := hl groups (t :: (vs ++ rest)) hg hstop'
  rw [readOrRest_or limit fin groups ht, startsOperand_of_derives hd rest, if_pos rfl] at hleft
  have hconj := hr groups rest hg
  rw [readAndRest_of_stopsAnd hstop] at hconj
  have hright := goesOn_join (l := l) .or t.span hconj (readOrRest limit fin groups)
  show GoesOn _ (readOr limit fin groups (us ++ t :: vs ++ rest)) _
  rw [List.append_assoc, List.cons_append]
  exact (hleft.trans fun _ => hright).congr (fits_join_iff .or)

end Chains

theorem Derives.reads {limit : Nat} (hlimit : 0 < limit) (fin : Span) {n : Nonterminal}
    {us : List Token} {f : Filter} (h : Derives n us f) : Reads limit fin n us f := by
  induction h with
  | comparison ht ho hv => exact reads_comparison hlimit ht ho hv
  | group ht hf hu ih => exact reads_group ht hf hu ih
  | conjunct hf ih =>
    intro groups rest hg
    rw [readAnd_eq]
    exact (ih groups rest hg).bind _
  | and hl ht hr ihl ihr => exact reads_and ihl ht hr ihr
  | adjacent hl hr ihl ihr => exact reads_adjacent ihl hr ihr
  | disjunct hf ih =>
    intro groups rest hg hstop
    have hconj := ih groups rest hg
    rw [readAndRest_of_stopsAnd hstop] at hconj
    rw [readOr_eq]
    exact hconj.bind _
  | or hl ht hr ihl ihr => exact reads_or ihl ht hr ihr

/-! ## Whole sequences -/

theorem readOr_of_derives {limit : Nat} (hlimit : 0 < limit) (fin : Span) {us : List Token}
    {f : Filter} (h : Derives .disjunction us f) :
    GoesOn (f.depth ≤ limit) (readOr limit fin 0 us) (.ok (f, [])) := by
  have hread := h.reads hlimit fin 0 [] (Nat.zero_le limit) (fun t ht => nomatch ht)
  rw [List.append_nil, readOrRest_nil] at hread
  exact hread.congr fits_zero_iff.symm

theorem readOr_eq_ok_iff {limit : Nat} (hlimit : 0 < limit) (fin : Span) {us : List Token}
    {f : Filter} :
    readOr limit fin 0 us = .ok (f, []) ↔ Derives .disjunction us f ∧ f.depth ≤ limit := by
  constructor
  · intro h
    obtain ⟨vs, hus, hvs, hd⟩ := sound_readOr hlimit us f [] h
    rw [List.append_nil] at hus
    subst hus
    exact ⟨hvs, hd⟩
  · rintro ⟨h, hd⟩
    exact (readOr_of_derives hlimit fin h).1 hd

/-- No sequence has two trees: with a limit that suits both, one reading gives either. -/
theorem Derives.unique {us : List Token} {f g : Filter} (hf : Derives .disjunction us f)
    (hg : Derives .disjunction us g) : f = g := by
  have hlimit : 0 < max f.depth g.depth := Nat.lt_of_lt_of_le f.depth_pos (Nat.le_max_left _ _)
  have hreadf := (readOr_of_derives hlimit ⟨0, 0, 0, 0⟩ hf).1 (Nat.le_max_left _ _)
  have hreadg := (readOr_of_derives hlimit ⟨0, 0, 0, 0⟩ hg).1 (Nat.le_max_right _ _)
  rw [hreadf] at hreadg
  cases hreadg
  rfl

theorem maxDepth_pos : 0 < maxDepth := by decide

/-- A sequence of tokens is read up to its first end token, as a disjunction and nothing else. -/
theorem ofTokens_eq_ok {ts : List Token} {f : Filter} :
    ofTokens ts = .ok f ↔ readOr maxDepth (endSpan ts) 0 (beforeEnd ts) = .ok (f, []) := by
  by_cases hne : beforeEnd ts = []
  · rw [ofTokens_nil hne, hne]
    constructor
    · intro h
      cases h
    · intro h
      have hderives := ((readOr_eq_ok_iff maxDepth_pos _).1 h).1
      exact absurd rfl hderives.ne_nil
  · rw [ofTokens_eq hne, bind_eq_ok]
    constructor
    · rintro ⟨⟨g, rest⟩, hread, h⟩
      cases rest with
      | nil =>
        cases h
        exact hread
      | cons w ws => cases h
    · exact fun hread => ⟨(f, []), hread, rfl⟩

theorem ofTokens_eq_error {ts : List Token} {e : SyntaxError} (hne : beforeEnd ts ≠ [])
    (h : readOr maxDepth (endSpan ts) 0 (beforeEnd ts) = .error e) : ofTokens ts = .error e := by
  rw [ofTokens_eq hne, h]
  rfl

theorem ofTokens_of_derives {ts : List Token} {f : Filter}
    (h : Derives .disjunction (beforeEnd ts) f) :
    GoesOn (f.depth ≤ maxDepth) (ofTokens ts) (.ok f) := by
  have hread := readOr_of_derives maxDepth_pos (endSpan ts) h
  constructor
  · intro hd
    exact ofTokens_eq_ok.2 (hread.1 hd)
  · intro hd
    obtain ⟨span, hspan⟩ := hread.2 hd
    exact ⟨span, ofTokens_eq_error h.ne_nil hspan⟩

/-- The reader accepts what the grammar derives with a tree of at most 512 levels, gives that tree,
and rejects a deeper one for its depth; no sequence has two trees. -/
theorem ofTokens_reads_grammar (ts : List Token) :
    (∀ f, ofTokens ts = .ok f ↔ Derives .disjunction (beforeEnd ts) f ∧ f.depth ≤ 512) ∧
    (∀ f, Derives .disjunction (beforeEnd ts) f → 512 < f.depth →
      ∃ e, ofTokens ts = .error e ∧ e.fault.message = "filter nested too deeply") ∧
    (∀ f g, Derives .disjunction (beforeEnd ts) f → Derives .disjunction (beforeEnd ts) g →
      f = g) := by
  refine ⟨fun f => ?_, fun f h hd => ?_, fun f g => Derives.unique⟩
  · rw [ofTokens_eq_ok, readOr_eq_ok_iff maxDepth_pos]
    rfl
  · obtain ⟨span, hspan⟩ := (ofTokens_of_derives h).2 (Nat.not_le.2 hd)
    exact ⟨_, hspan, rfl⟩

end Filter

end RecordFilter
