import RecordFilter.Proofs.Filter.Loops

/-!
# Every tree that is read is derived

A step takes a derived sequence off the front of its tokens, with its tree, and leaves the rest.
The loops extend what is derived on their left (`Loops.sound`); the groups close the circle by an
induction on the number of tokens (`sound_readOr`).
-/

namespace RecordFilter

namespace Filter

/-- What a step reads off the front of `ts` is of the nonterminal, and no deeper than `limit`. -/
def Sound (limit : Nat) (n : Nonterminal)
    (read : List Token → Except SyntaxError (Filter × List Token)) (ts : List Token) : Prop :=
  ∀ f rest, read ts = .ok (f, rest) → ∃ us, ts = us ++ rest ∧ Derives n us f ∧ f.depth ≤ limit

/-! ## Chains -/

/-- What the connector chains together. -/
def operand : Connector → Nonterminal
  | .and => .primary
  | .or => .conjunction

def chain : Connector → Nonterminal
  | .and => .conjunction
  | .or => .disjunction

/-- A chain grows by one operand on its right. -/
theorem Derives.joined {c : Connector} {us joint vs : List Token} {l r : Filter}
    (hl : Derives (chain c) us l) (hjoint : Joint c joint) (hr : Derives (operand c) vs r) :
    Derives (chain c) (us ++ (joint ++ vs)) (join c l r) := by
  cases hjoint with
  | implied => exact .adjacent hl hr
  | @written _ t ht =>
    cases hk : t.kind with
    | and =>
      rw [hk] at ht
      cases ht
      exact .and hl hk hr
    | or =>
      rw [hk] at ht
      cases ht
      exact .or hl hk hr
    | _ =>
      rw [hk] at ht
      cases ht

/-- A loop extends the chain on its left. -/
theorem Loops.sound {limit : Nat} {c : Connector} {us ts rest : List Token} {left f : Filter}
    {read : List Token → Except SyntaxError (Filter × List Token)}
    {r : Except SyntaxError (Filter × List Token)} (h : Loops limit c read left ts r)
    (hr : r = .ok (f, rest))
    (hread : ∀ vs, vs.length ≤ ts.length → Sound limit (operand c) read vs)
    (hleft : Derives (chain c) us left) (hd : left.depth ≤ limit) :
    ∃ vs, ts = vs ++ rest ∧ Derives (chain c) (us ++ vs) f ∧ f.depth ≤ limit := by
  induction h generalizing us with
  | stop =>
    cases hr
    exact ⟨[], rfl, by rwa [List.append_nil], hd⟩
  | lacking | failed | tooDeep => cases hr
  | @joined left right joint vs rest' r hjoint hvs hlt hd' _ ih =>
    have hlen : (joint ++ vs).length = joint.length + vs.length := List.length_append
    obtain ⟨ws, rfl, hws, -⟩ := hread vs (by omega) right rest' hvs
    obtain ⟨xs, rfl, hxs, hdepth⟩ :=
      ih hr (fun xs hle => hread xs (by omega)) (hleft.joined hjoint hws) hd'
    exact ⟨joint ++ (ws ++ xs), by simp, by simpa using hxs, hdepth⟩

/-! ## The reader -/

section Sound

variable {limit : Nat} {fin : Span} {groups k : Nat}

/-- A primary is a condition, or a group around fewer tokens. -/
theorem sound_readPrimary (hlimit : 0 < limit)
    (hor : ∀ ts, ts.length < k → Sound limit .disjunction (readOr limit fin (groups + 1)) ts)
    {ts : List Token} (hk : ts.length ≤ k) :
    Sound limit .primary (readPrimary limit fin groups) ts := by
  intro f rest h
  cases ts with
  | nil =>
    unfold readPrimary at h
    rw [parsePrimary] at h
    cases h
  | cons t ts =>
    cases ht : t.kind with
    | leftParen =>
      rw [readPrimary_leftParen limit fin groups ht] at h
      split_ifs at h with hp hg
      obtain ⟨⟨inner, ts'⟩, hr, h⟩ := bind_eq_ok.1 h
      obtain ⟨u, hu, hukind, rfl, hd⟩ := exists_of_closeGroup h
      obtain ⟨us, hts, hus, -⟩ := hor ts (Nat.lt_of_succ_le hk) _ _ hr
      refine ⟨t :: (us ++ [u]), ?_, .group ht hus hukind, hd⟩
      rw [hts, hu]
      simp
    | field name =>
      rw [readPrimary_field limit fin groups ht] at h
      obtain ⟨o, v, op, value, rfl, ho, hv, rfl⟩ := parseComparison_eq_ok.1 h
      exact ⟨[t, o, v], rfl, .comparison ht ho hv, hlimit⟩
    | _ =>
      unfold readPrimary at h
      rw [parsePrimary] at h
      simp only [ht] at h
      cases h

theorem sound_readAnd
    (hp : ∀ ts, ts.length ≤ k → Sound limit .primary (readPrimary limit fin groups) ts)
    {ts : List Token} (hk : ts.length ≤ k) :
    Sound limit .conjunction (readAnd limit fin groups) ts := by
  intro f rest h
  rw [readAnd_eq] at h
  obtain ⟨⟨first, ts'⟩, hr, h⟩ := bind_eq_ok.1 h
  dsimp only at h
  have hlt : ts'.length < ts.length := length_lt_of_outcome hr
  obtain ⟨us, hts, hus, hd⟩ := hp ts hk _ _ hr
  have hloops := loops_readAndRest limit fin groups first ts'
  obtain ⟨vs, hts', hvs, hd⟩ :=
    hloops.sound h (fun vs hle => hp vs (by omega)) (.conjunct hus) hd
  exact ⟨us ++ vs, by rw [hts, hts']; simp, hvs, hd⟩

/-- The induction is on the number of tokens: a group reads a disjunction in what stands behind
its parenthesis. -/
theorem sound_readOr (hlimit : 0 < limit) (ts : List Token) :
    Sound limit .disjunction (readOr limit fin groups) ts := by
  induction hn : ts.length using Nat.strongRecOn generalizing groups ts with
  | _ n ih =>
    have hp : ∀ us, us.length ≤ n → Sound limit .primary (readPrimary limit fin groups) us :=
      fun us hus => sound_readPrimary hlimit (fun vs hvs => ih _ hvs vs rfl) hus
    have ha : ∀ us, us.length ≤ n → Sound limit .conjunction (readAnd limit fin groups) us :=
      fun us hus => sound_readAnd hp hus
    intro f rest h
    rw [readOr_eq] at h
    obtain ⟨⟨first, ts'⟩, hr, h⟩ := bind_eq_ok.1 h
    dsimp only at h
    have hlt : ts'.length < ts.length := length_lt_of_outcome hr
    obtain ⟨us, hts, hus, hd⟩ := ha ts (by omega) _ _ hr
    have hloops := loops_readOrRest limit fin groups first ts'
    obtain ⟨vs, hts', hvs, hd⟩ :=
      hloops.sound h (fun vs hle => ha vs (by omega)) (.disjunct hus) hd
    exact ⟨us ++ vs, by rw [hts, hts']; simp, hvs, hd⟩

theorem sound_primary (hlimit : 0 < limit) (ts : List Token) :
    Sound limit .primary (readPrimary limit fin groups) ts :=
  sound_readPrimary hlimit (fun us _ => sound_readOr hlimit us) (Nat.le_refl ts.length)

theorem sound_conjunction (hlimit : 0 < limit) (ts : List Token) :
    Sound limit .conjunction (readAnd limit fin groups) ts :=
  sound_readAnd (fun us _ => sound_primary hlimit us) (Nat.le_refl ts.length)

end Sound

end Filter

end RecordFilter
