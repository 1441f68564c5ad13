import Courier.Json.Value
import Courier.Decimal.Shortest

namespace Courier.Json

/-- Whether a value can name a dictionary entry: lists and objects cannot. -/
def Value.hashable : Value → Bool
  | .arr _ | .obj _ | .mapping _ => false
  | _ => true

/-- What a hashable value names as a dictionary key. A number is `numerator / 2 ^ scale` in
lowest terms, so equal numbers of every kind share one key; a point in time with an offset is
the instant it names. -/
inductive EntryKey where
  | null
  | text (s : String)
  | bytes (b : List UInt8)
  | number (numerator : Int) (scale : Nat)
  | infinity (negative : Bool)
  | notANumber
  | date (year month day : Nat)
  | naive (year month day hour minute second microsecond : Nat)
  | aware (micros : Int)
  deriving DecidableEq

def EntryKey.dyadic (numerator : Int) : Nat → EntryKey
  | 0 => .number numerator 0
  | scale + 1 =>
    if numerator % 2 = 0 then EntryKey.dyadic (numerator / 2) scale
    else .number numerator (scale + 1)

/-- The key of a double is its value, read off its bits; both zeros are `0`, and every
not-a-number is one key. -/
def EntryKey.ofFloat (x : Float) : EntryKey :=
  match Decimal.Binary.ofFloat x with
  | .finite negative mantissa exponent _ =>
    let numerator : Int := if negative then -(mantissa : Int) else mantissa
    if 0 ≤ exponent then .number (numerator * (Nat.pow 2 exponent.toNat : Nat)) 0
    else EntryKey.dyadic numerator (-exponent).toNat
  | .infinite negative => .infinity negative
  | .notANumber => .notANumber

def EntryKey.ofMoment (m : Moment) : EntryKey :=
  match m.clock with
  | none => .date m.year m.month m.day
  | some c =>
    match c.offset with
    | none => .naive m.year m.month m.day c.hour c.minute c.second c.microsecond
    | some _ => .aware (m.utcMicros c)

def Value.entryKey : Value → Option EntryKey
  | .null => some .null
  | .bool b => some (.number (if b then 1 else 0) 0)
  | .int n => some (.number n 0)
  | .float x => some (EntryKey.ofFloat x)
  | .str s => some (.text s)
  | .bytes b => some (.bytes b)
  | .moment m => some (EntryKey.ofMoment m)
  | .arr _ | .obj _ | .mapping _ => none

/-- Whether two values name the same entry of a dictionary: both are hashable and their keys are
equal. So `true`, `1` and `1.0` are one key, every not-a-number is one key, and dates that denote
the same value are one key. -/
def Value.sameKey (a b : Value) : Bool :=
  match a.entryKey with
  | some k => b.entryKey == some k
  | none => false

theorem Value.entryKey_isSome (v : Value) : v.entryKey.isSome = v.hashable := by
  cases v <;> rfl

theorem Value.sameKey_iff {a b : Value} :
    a.sameKey b = true ↔ ∃ k, a.entryKey = some k ∧ b.entryKey = some k := by
  unfold Value.sameKey
  cases keyed : a.entryKey <;> simp

theorem Value.sameKey_self {v : Value} (hashable : v.hashable = true) : v.sameKey v = true := by
  obtain ⟨k, keyed⟩ := Option.isSome_iff_exists.1 ((Value.entryKey_isSome v).trans hashable)
  exact Value.sameKey_iff.2 ⟨k, keyed, keyed⟩

end Courier.Json
