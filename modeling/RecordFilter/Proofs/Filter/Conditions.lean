import RecordFilter.Proofs.Filter.Grammar
import RecordFilter.Proofs.Token.Cutting

/-!
# The conditions among tokens

`Lists us cs` says that the tokens `us` are delimiters and the conditions `cs` with their places, in
this order. What the grammar derives lists the conditions of its tree (`Derives.lists`); nothing is
said about how they are joined.
-/

namespace RecordFilter

namespace Filter

inductive Lists : List Token → List Condition → Prop
  | nil : Lists [] []
  | delimiter {t : Token} {us : List Token} {cs : List Condition} (ht : t.kind.isDelimiter = true)
    (hus : Lists us cs) : Lists (t :: us) cs
  | condition {t o v : Token} {us : List Token} {cs : List Condition} {name : String}
    {op : Operator} {value : Literal} (ht : t.kind = .field name) (ho : o.kind = .operator op)
    (hv : v.kind = .ofLiteral value) (hus : Lists us cs) :
    Lists (t :: o :: v :: us) (⟨name, op, value, t.span.merge v.span⟩ :: cs)

theorem Lists.append {us vs : List Token} {cs ds : List Condition} (hus : Lists us cs)
    (hvs : Lists vs ds) : Lists (us ++ vs) (cs ++ ds) := by
  induction hus with
  | nil => exact hvs
  | delimiter ht hus ih => exact .delimiter ht ih
  | condition ht ho hv hus ih => exact .condition ht ho hv ih

theorem Derives.lists {n : Nonterminal} {us : List Token} {f : Filter} (h : Derives n us f) :
    Lists us f.conditions := by
  induction h with
  | comparison ht ho hv => exact .condition ht ho hv .nil
  | @group t u us f ht hf hu ih =>
    have hclose : Lists (us ++ [u]) f.conditions := by
      have h := ih.append (.delimiter (by rw [hu]; rfl) .nil)
      rwa [List.append_nil] at h
    exact .delimiter (by rw [ht]; rfl) hclose
  | conjunct hf ih => exact ih
  | and hl ht hr ihl ihr => exact ihl.append (.delimiter (by rw [ht]; rfl) ihr)
  | adjacent hl hr ihl ihr => exact ihl.append ihr
  | disjunct hf ih => exact ih
  | or hl ht hr ihl ihr => exact ihl.append (.delimiter (by rw [ht]; rfl) ihr)

end Filter

end RecordFilter
