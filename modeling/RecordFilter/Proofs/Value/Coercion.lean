import RecordFilter.Proofs.Calendar.Order
import RecordFilter.Value.Coercion

/-!
# What literals are read as

Each type reads a literal as a value of one kind (`coercedTo_of_coerce`). Such a value is never null
and never a double that is no number, so it equals itself.
-/

namespace RecordFilter

theorem Decimal.cmp_self (d : Decimal) : d.cmp d = .eq := by
  simp only [Decimal.cmp, Std.ReflCmp.compare_self, Ordering.swap_eq, ite_self, Ordering.eq_then]

theorem Double.compare?_self {x : Double} (hx : x.isNaN = false) : x.compare? x = some .eq := by
  rw [Double.compare?, hx]
  exact congrArg some Std.ReflCmp.compare_self

namespace Value

theorem compareTexts_self (s : String) : compareTexts s s = .eq := by
  unfold compareTexts
  exact Std.ReflCmp.compare_self

/-- A double that is no number. -/
def isNaN : Value → Bool
  | float x => x.isNaN
  | _ => false

/-- A value equals itself, unless it is a double that is no number. -/
theorem compare?_self {v : Value} (h : v.isNaN = false) : v.compare? v = some .eq := by
  cases v with
  | float x => exact Double.compare?_self h
  | decimal d => exact congrArg some d.cmp_self
  | string s | variant s => exact congrArg some (compareTexts_self s)
  | date | timestamp => exact congrArg some Std.ReflCmp.compare_self
  | null => rfl
  | _ => exact congrArg some Std.ReflCmp.compare_self

/-- What each type reads a literal as. -/
inductive CoercedTo (literal : String) : ValueType → Value → Prop
  | string : CoercedTo literal .string (string literal)
  | int {n : Int64} (h : Integer.readInt64 (Text.trim literal.toList) = .ok n) :
    CoercedTo literal .int (int n)
  | uint {n : UInt64} (h : Integer.readUInt64 (Text.trim literal.toList) = .ok n) :
    CoercedTo literal .uint (uint n)
  | float {x : Double} (h : Double.read (Text.trim literal.toList) = .ok x)
    (hx : x.isNaN = false) : CoercedTo literal .float (float x)
  | decimal {d : Decimal} (h : Decimal.read? (Text.trim literal.toList) = some d) :
    CoercedTo literal .decimal (decimal d)
  | boolean {b : Bool} (h : readBoolean (Text.trim literal.toList) = .ok (boolean b)) :
    CoercedTo literal .boolean (boolean b)
  | uuid {u : Uuid} (h : Uuid.read? (Text.trim literal.toList) = some u) :
    CoercedTo literal .uuid (uuid u)
  | date {d : Date} (h : Date.read? (Text.trim literal.toList) = some d) :
    CoercedTo literal .date (date d)
  | timestamp {i : Instant} (h : readInstant? (Text.trim literal.toList) = some i) :
    CoercedTo literal .timestamp (timestamp i)
  | enumeration {variants : List String} {name : String}
    (h : readVariant variants (String.ofList (Text.trim literal.toList)) = .ok (variant name)) :
    CoercedTo literal (.enumeration variants) (variant name)

theorem exists_of_map_eq_ok {ε ε' β : Type} {e : Except ε β} {fault : ε → ε'} {mk : β → Value}
    {v : Value} (h : (e.map mk).mapError fault = .ok v) : ∃ b, e = .ok b ∧ v = mk b := by
  cases e with
  | error fault => cases h
  | ok b =>
    cases h
    exact ⟨b, rfl, rfl⟩

theorem exists_of_orFault_eq_ok {β : Type} {o : Option β} {fault : CoercionFault} {mk : β → Value}
    {v : Value} (h : coerce.orFault fault (o.map mk) = .ok v) : ∃ b, o = some b ∧ v = mk b := by
  cases o with
  | none => cases h
  | some b =>
    cases h
    exact ⟨b, rfl, rfl⟩

theorem exists_of_readFloat_eq_ok {s : List Char} {v : Value} (h : readFloat s = .ok v) :
    ∃ x, Double.read s = .ok x ∧ x.isNaN = false ∧ v = float x := by
  unfold readFloat at h
  cases hx : Double.read s with
  | error fault =>
    rw [hx] at h
    cases h
  | ok x =>
    rw [hx] at h
    dsimp only at h
    split_ifs at h with hnan
    cases h
    exact ⟨x, rfl, Bool.not_eq_true _ ▸ hnan, rfl⟩

theorem exists_of_readBoolean_eq_ok {s : List Char} {v : Value} (h : readBoolean s = .ok v) :
    ∃ b, v = boolean b := by
  unfold readBoolean at h
  dsimp only at h
  split_ifs at h <;> cases h
  · exact ⟨true, rfl⟩
  · exact ⟨false, rfl⟩

theorem exists_of_readVariant_eq_ok {variants : List String} {s : String} {v : Value}
    (h : readVariant variants s = .ok v) : ∃ name, v = variant name := by
  unfold readVariant at h
  split_ifs at h
  · cases h
    exact ⟨s, rfl⟩
  · split at h <;> cases h
    exact ⟨_, rfl⟩

theorem coercedTo_of_coerce {literal : String} {type : ValueType} {v : Value}
    (h : coerce literal type = .ok v) : CoercedTo literal type v := by
  cases type with
  | string =>
    cases h
    exact .string
  | int =>
    obtain ⟨n, hn, rfl⟩ := exists_of_map_eq_ok h
    exact .int hn
  | uint =>
    obtain ⟨n, hn, rfl⟩ := exists_of_map_eq_ok h
    exact .uint hn
  | float =>
    obtain ⟨x, hx, hnan, rfl⟩ := exists_of_readFloat_eq_ok h
    exact .float hx hnan
  | decimal =>
    obtain ⟨d, hd, rfl⟩ := exists_of_orFault_eq_ok h
    exact .decimal hd
  | boolean =>
    obtain ⟨b, rfl⟩ := exists_of_readBoolean_eq_ok h
    exact .boolean h
  | uuid =>
    obtain ⟨u, hu, rfl⟩ := exists_of_orFault_eq_ok h
    exact .uuid hu
  | date =>
    obtain ⟨d, hd, rfl⟩ := exists_of_orFault_eq_ok h
    exact .date hd
  | timestamp =>
    obtain ⟨i, hi, rfl⟩ := exists_of_orFault_eq_ok h
    exact .timestamp hi
  | enumeration variants =>
    obtain ⟨name, rfl⟩ := exists_of_readVariant_eq_ok h
    exact .enumeration h

section CoercedTo

variable {literal : String} {type : ValueType} {v : Value} (h : CoercedTo literal type v)
include h

theorem CoercedTo.isNull_eq : v.isNull = false := by
  cases h <;> rfl

theorem CoercedTo.isNaN_eq : v.isNaN = false := by
  cases h with
  | float h hx => exact hx
  | _ => rfl

theorem CoercedTo.compare?_self : v.compare? v = some .eq :=
  Value.compare?_self h.isNaN_eq

/-- Where the type is ordered, the value knows it. -/
theorem CoercedTo.type?_eq (hordered : type.supportsOrdering = true) : v.type? = some type := by
  cases h with
  | boolean | uuid | enumeration => cases hordered
  | _ => rfl

end CoercedTo

end Value

end RecordFilter
