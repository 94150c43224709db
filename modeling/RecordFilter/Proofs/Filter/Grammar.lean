import Mathlib
import RecordFilter.Filter.Parser

/-!
# The grammar of filters

`Derives` gives the token sequences of each nonterminal with their trees:

    disjunction := conjunction ( "|" conjunction )*
    conjunction := primary ( "&"? primary )*
    primary     := "(" disjunction ")" | field operator literal

A chain leans to the left: one more operand on the right joins the tree of the chain before it.
The order of reading plays no part here, and neither does the limit on depth.
-/

namespace RecordFilter

namespace Filter

inductive Nonterminal where
  | disjunction
  | conjunction
  | primary
deriving DecidableEq, Repr

open Nonterminal

/-- The tokens are of the nonterminal, and this is their tree. -/
inductive Derives : Nonterminal → List Token → Filter → Prop where
  | comparison {t o v : Token} {name : String} {op : Operator} {value : Literal}
      (ht : t.kind = .field name) (ho : o.kind = .operator op) (hv : v.kind = .ofLiteral value) :
      Derives primary [t, o, v] (.comparison ⟨name, op, value, t.span.merge v.span⟩)
  | group {t u : Token} {us : List Token} {f : Filter} (ht : t.kind = .leftParen)
      (hf : Derives disjunction us f) (hu : u.kind = .rightParen) :
      Derives primary (t :: (us ++ [u])) (.group f)
  | conjunct {us : List Token} {f : Filter} (hf : Derives primary us f) :
      Derives conjunction us f
  | and {t : Token} {us vs : List Token} {l r : Filter} (hl : Derives conjunction us l)
      (ht : t.kind = .and) (hr : Derives primary vs r) :
      Derives conjunction (us ++ t :: vs) (.and l r)
  | adjacent {us vs : List Token} {l r : Filter} (hl : Derives conjunction us l)
      (hr : Derives primary vs r) :
      Derives conjunction (us ++ vs) (.and l r)
  | disjunct {us : List Token} {f : Filter} (hf : Derives conjunction us f) :
      Derives disjunction us f
  | or {t : Token} {us vs : List Token} {l r : Filter} (hl : Derives disjunction us l)
      (ht : t.kind = .or) (hr : Derives conjunction vs r) :
      Derives disjunction (us ++ t :: vs) (.or l r)

/-! ## First tokens -/

/-- Whether a primary can begin with a token of this kind. -/
def opensPrimary : TokenKind → Bool
  | .leftParen | .field _ => true
  | _ => false

/-- A derived sequence has a first token, and it opens a primary. -/
theorem Derives.exists_cons {n : Nonterminal} {us : List Token} {f : Filter}
    (h : Derives n us f) : ∃ t vs, us = t :: vs ∧ opensPrimary t.kind = true := by
  induction h with
  | comparison ht ho hv => exact ⟨_, _, rfl, by rw [ht]; rfl⟩
  | group ht hf hu ih => exact ⟨_, _, rfl, by rw [ht]; rfl⟩
  | conjunct hf ih => exact ih
  | and hl ht hr ihl ihr =>
    obtain ⟨t, vs, rfl, ho⟩ := ihl
    exact ⟨t, _, rfl, ho⟩
  | adjacent hl hr ihl ihr =>
    obtain ⟨t, vs, rfl, ho⟩ := ihl
    exact ⟨t, _, rfl, ho⟩
  | disjunct hf ih => exact ih
  | or hl ht hr ihl ihr =>
    obtain ⟨t, vs, rfl, ho⟩ := ihl
    exact ⟨t, _, rfl, ho⟩

theorem Derives.ne_nil {n : Nonterminal} {us : List Token} {f : Filter} (h : Derives n us f) :
    us ≠ [] := by
  obtain ⟨t, vs, rfl, -⟩ := h.exists_cons
  exact List.cons_ne_nil t vs

end Filter

end RecordFilter
