import RecordFilter.Proofs.Number.Exact
import RecordFilter.Proofs.Text.Bytes
import RecordFilter.Proofs.Value.Coercion

/-!
# The order of values

A value of one of the families stands for a number, a text, an instant, a truth value or an
identifier, and two such values are compared as what they stand for (`compare?_eq`). So the order
within a family is total and transitive, values are at one place exactly if they stand for the same,
and nothing compares across families. Doubles and null are in no family, but to swap two values of
any kind swaps the outcome (`compare?_laws`).
-/

namespace RecordFilter

/-- The families in which values are compared with one another. -/
inductive Family where
  | number
  | text
  | instant
  | truth
  | identifier
deriving DecidableEq, Repr

/-- What a value of a family stands for. -/
inductive Meaning where
  | number (q : ℚ)
  | text (bytes : List UInt8)
  | instant (i : Instant)
  | truth (b : Bool)
  | identifier (u : Uuid)
deriving DecidableEq

/-! ## The order of meanings -/

namespace Meaning

def family : Meaning → Family
  | number _ => .number
  | text _ => .text
  | instant _ => .instant
  | truth _ => .truth
  | identifier _ => .identifier

/-- Numbers, texts, instants, truth values and identifiers, each in their own order. -/
def compare? : Meaning → Meaning → Option Ordering
  | number p, number q => some (compare p q)
  | text s, text t => some (compare s t)
  | instant i, instant j => some (i.cmp j)
  | truth a, truth b => some (compare a b)
  | identifier u, identifier v => some (compare u.number.val v.number.val)
  | _, _ => none

variable {x y z : Meaning}

theorem compare?_swap (x y : Meaning) : y.compare? x = (x.compare? y).map Ordering.swap := by
  cases x <;> cases y <;> try rfl
  case number.number | text.text | truth.truth | identifier.identifier =>
    exact congrArg some Std.OrientedOrd.eq_swap
  case instant.instant => exact congrArg some Std.OrientedCmp.eq_swap

theorem isSome_compare?_iff (x y : Meaning) : (x.compare? y).isSome ↔ x.family = y.family := by
  cases x <;> cases y <;> simp [compare?, family]

theorem compare?_eq_some_eq_iff (x y : Meaning) : x.compare? y = some .eq ↔ x = y := by
  cases x <;> cases y <;> simp [compare?]
  case identifier.identifier u v =>
    cases u
    cases v
    simp [Fin.ext_iff]

theorem isLE_trans {o o' : Ordering} (hxy : x.compare? y = some o) (ho : o.isLE)
    (hyz : y.compare? z = some o') (ho' : o'.isLE) :
    ∃ o, x.compare? z = some o ∧ o.isLE := by
  cases x <;> cases y <;> cases hxy <;> cases z <;> cases hyz
  case number.number | text.text | truth.truth | identifier.identifier =>
    exact ⟨_, rfl, Std.TransOrd.isLE_trans ho ho'⟩
  case instant.instant => exact ⟨_, rfl, Std.TransCmp.isLE_trans ho ho'⟩

end Meaning

/-! ## Values as what they stand for -/

theorem Double.compare?_swap (x y : Double) :
    y.compare? x = (x.compare? y).map Ordering.swap := by
  unfold compare?
  rw [Bool.or_comm]
  split_ifs
  · rfl
  · exact congrArg some Std.OrientedOrd.eq_swap

namespace Value

/-- Where a value is ordered; doubles and null are in no family. -/
def family? : Value → Option Family
  | int _ | uint _ | decimal _ => some .number
  | string _ | variant _ => some .text
  | date _ | timestamp _ => some .instant
  | boolean _ => some .truth
  | uuid _ => some .identifier
  | float _ | null => none

/-- A date stands for its midnight. -/
def meaning? : Value → Option Meaning
  | int n => some (.number n.toInt)
  | uint n => some (.number n.toNat)
  | decimal d => some (.number d.value)
  | string s | variant s => some (.text (Text.bytes s))
  | date d => some (.instant (.midnight d))
  | timestamp i => some (.instant i)
  | boolean b => some (.truth b)
  | uuid u => some (.identifier u)
  | float _ | null => none

/-- The one value does not come after the other. -/
def AtMost (a b : Value) : Prop :=
  ∃ o, a.compare? b = some o ∧ o.isLE

theorem family?_eq (v : Value) : v.family? = v.meaning?.map Meaning.family := by
  cases v <;> rfl

theorem exists_meaning {v : Value} {F : Family} (h : v.family? = some F) :
    ∃ x, v.meaning? = some x ∧ x.family = F := by
  rwa [family?_eq, Option.map_eq_some_iff] at h

theorem cases_of_family? (v : Value) :
    (∃ x, v = float x) ∨ v = null ∨ ∃ x, v.meaning? = some x := by
  cases v with
  | float x => exact .inl ⟨x, rfl⟩
  | null => exact .inr (.inl rfl)
  | _ => exact .inr (.inr ⟨_, rfl⟩)

theorem compare_intCast (m n : Int) : compare (m : ℚ) (n : ℚ) = compare m n := by
  rw [← cmp_eq_compare, Int.cast_strictMono.cmp_map_eq, cmp_eq_compare]

theorem compare_natCast (m n : Nat) : compare (m : ℚ) (n : ℚ) = compare m n := by
  rw [← cmp_eq_compare, Nat.strictMono_cast.cmp_map_eq, cmp_eq_compare]

theorem cmp_midnight (d e : Date) : (Instant.midnight d).cmp (.midnight e) = d.cmp e := by
  show (d.cmp e).then (TimeOfDay.midnight.cmp .midnight) = d.cmp e
  exact Ordering.then_eq

/-- Values of the families are compared as what they stand for. -/
theorem compare?_eq {a b : Value} {x y : Meaning} (hx : a.meaning? = some x)
    (hy : b.meaning? = some y) : a.compare? b = x.compare? y := by
  cases a <;> cases hx <;> cases b <;> cases hy <;> try rfl
  case date.refl.date.refl d e => exact congrArg some (cmp_midnight d e).symm
  case string.refl.string.refl | string.refl.variant.refl | variant.refl.string.refl |
      variant.refl.variant.refl =>
    exact congrArg some (Text.compare_bytes _ _).symm
  -- what is left are numbers, of three kinds on each side
  all_goals
    refine congrArg some ?_
    simp only [Decimal.cmp_eq_compare, Decimal.value_ofInt, ← compare_intCast, ← compare_natCast,
      Int.cast_natCast]

theorem isSome_compare?_of_family? {a b : Value} {F : Family} (ha : a.family? = some F)
    (hb : b.family? = some F) : (a.compare? b).isSome := by
  obtain ⟨x, hx, hxF⟩ := exists_meaning ha
  obtain ⟨y, hy, hyF⟩ := exists_meaning hb
  rw [compare?_eq hx hy, Meaning.isSome_compare?_iff, hxF, hyF]

/-- Two values of one type compare, unless one is a double that is no number. -/
theorem isSome_compare?_of_type? {a b : Value} {type : ValueType} (ha : a.type? = some type)
    (hb : b.type? = some type) (hna : a.isNaN = false) (hnb : b.isNaN = false) :
    (a.compare? b).isSome := by
  cases a with
  | null => cases ha
  | float x =>
    cases ha
    cases b with
    | float y =>
      show (x.compare? y).isSome
      rw [Double.compare?, show x.isNaN = false from hna, show y.isNaN = false from hnb]
      rfl
    | _ => cases hb
  | _ =>
    cases ha
    cases b <;> cases hb
    exact isSome_compare?_of_family? rfl rfl

/-! ## The laws of the order -/

theorem compare?_float_swap (x : Double) (v : Value) :
    v.compare? (float x) = ((float x).compare? v).map Ordering.swap := by
  cases v with
  | float y => exact Double.compare?_swap x y
  | int n => exact Double.compare?_swap x (.ofInt n.toInt)
  | uint n => exact Double.compare?_swap x (.ofInt n.toNat)
  | decimal d =>
    show (Decimal.ofDouble? x).map d.cmp =
      ((Decimal.ofDouble? x).map (·.cmp d)).map Ordering.swap
    cases Decimal.ofDouble? x with
    | none => rfl
    | some e => exact congrArg some (Decimal.cmp_swap e d)
  | _ => rfl

theorem compare?_null_swap (v : Value) :
    v.compare? null = (null.compare? v).map Ordering.swap := by
  cases v <;> rfl

theorem map_swap_map_swap (o : Option Ordering) :
    (o.map Ordering.swap).map Ordering.swap = o := by
  cases o with
  | none => rfl
  | some o => exact congrArg some o.swap_swap

/-- To swap the values swaps the outcome, whatever the kinds are. -/
theorem compare?_swap (a b : Value) : b.compare? a = (a.compare? b).map Ordering.swap := by
  rcases cases_of_family? a with ⟨x, rfl⟩ | rfl | ⟨x, hx⟩
  · exact compare?_float_swap x b
  · exact compare?_null_swap b
  · rcases cases_of_family? b with ⟨y, rfl⟩ | rfl | ⟨y, hy⟩
    · rw [compare?_float_swap, map_swap_map_swap]
    · rw [compare?_null_swap, map_swap_map_swap]
    · rw [compare?_eq hx hy, compare?_eq hy hx]
      exact Meaning.compare?_swap x y

/-- Any two values are compared in reverse if they are swapped. Within a family each two compare,
as equal exactly if they stand for the same, and the order is transitive. Values of different
families do not compare. -/
theorem compare?_laws (a b c : Value) :
    b.compare? a = (a.compare? b).map Ordering.swap ∧
    (∀ F, a.family? = some F → b.family? = some F →
      (a.compare? b).isSome ∧ (a.compare? b = some .eq ↔ a.meaning? = b.meaning?) ∧
      (c.family? = some F → a.AtMost b → b.AtMost c → a.AtMost c)) ∧
    (∀ F G, a.family? = some F → b.family? = some G → F ≠ G → a.compare? b = none) := by
  refine ⟨compare?_swap a b, fun F ha hb => ?_, fun F G ha hb hne => ?_⟩
  · obtain ⟨x, hx, -⟩ := exists_meaning ha
    obtain ⟨y, hy, -⟩ := exists_meaning hb
    refine ⟨isSome_compare?_of_family? ha hb, ?_, ?_⟩
    · rw [compare?_eq hx hy, Meaning.compare?_eq_some_eq_iff, hx, hy, Option.some.injEq]
    · rintro hc ⟨o, hab, ho⟩ ⟨o', hbc, ho'⟩
      obtain ⟨z, hz, -⟩ := exists_meaning hc
      rw [compare?_eq hx hy] at hab
      rw [compare?_eq hy hz] at hbc
      rw [AtMost, compare?_eq hx hz]
      exact Meaning.isLE_trans hab ho hbc ho'
  · obtain ⟨x, hx, rfl⟩ := exists_meaning ha
    obtain ⟨y, hy, rfl⟩ := exists_meaning hb
    rw [compare?_eq hx hy, ← Option.not_isSome_iff_eq_none, Meaning.isSome_compare?_iff]
    exact hne

/-- Past the least integer and past the greatest one there is a decimal. -/
theorem compare?_laws_ends_of_integers :
    (int Int64.minValue).AtMost (uint 18446744073709551615) ∧
    (uint 18446744073709551615).AtMost (decimal ⟨1, -20⟩) ∧
    (int Int64.minValue).AtMost (decimal ⟨1, -20⟩) := by
  have hlow : (int Int64.minValue).AtMost (uint 18446744073709551615) := ⟨.lt, by decide, rfl⟩
  have hhigh : (uint 18446744073709551615).AtMost (decimal ⟨1, -20⟩) := ⟨.lt, by decide, rfl⟩
  have hlaws := compare?_laws (int Int64.minValue) (uint 18446744073709551615) (decimal ⟨1, -20⟩)
  exact ⟨hlow, hhigh, (hlaws.2.1 .number rfl rfl).2.2 rfl hlow hhigh⟩

end Value

end RecordFilter
