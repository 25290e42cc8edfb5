import Mathlib.Data.Rat.Floor
import Mathlib.Data.List.Sort

/-!
JSON values and the numbers they carry.

A number is a finite rational or an infinity (a JSON text such as `1e999` parses to
one); no operation modelled here produces a NaN. Finite numbers are exact: a number stands
for the decimal that is written for it, and the rounding of decimals to doubles is not
modelled.
-/

namespace Json

inductive Number where
  | finite (q : ℚ)
  | infinite (positive : Bool)
deriving DecidableEq

namespace Number

instance : Inhabited Number := ⟨.finite 0⟩

def ofInt (n : Int) : Number := .finite n

instance (n : Nat) : OfNat Number n := ⟨.finite n⟩

def isFinite : Number → Bool
  | .finite _ => true
  | .infinite _ => false

/-- `a < b` on numbers. -/
def lt : Number → Number → Bool
  | .finite a, .finite b => a < b
  | .finite _, .infinite positive => positive
  | .infinite positive, .finite _ => !positive
  | .infinite a, .infinite b => !a && b

/-- `a <= b` on numbers; there is no NaN, so it is the negation of `b < a`. -/
def le (a b : Number) : Bool := !b.lt a

/-- `Math.round`: the nearest integer, halves up. -/
def round : Number → Number
  | .finite q => .finite ⌊q + 1 / 2⌋
  | n => n

def scale (k : ℚ) : Number → Number
  | .finite q => .finite (k * q)
  | .infinite positive => .infinite (positive == decide (0 < k))

/-- Decimal digits of `n`, with `k` of them after the point. -/
def fixed (n : Int) (k : Nat) : String :=
  let digits := toString n.natAbs
  let padded := String.ofList (List.replicate (k + 1 - digits.length) '0') ++ digits
  let point := padded.length - k
  let body := if k = 0 then padded else
    String.ofList (padded.toList.take point) ++ "." ++ String.ofList (padded.toList.drop point)
  if n < 0 then "-" ++ body else body

/-- The least number of decimal places, up to `fuel`, that renders `q` exactly. -/
def places (q : ℚ) : Nat → Nat → Nat
  | 0, k => k
  | fuel + 1, k => if (q * 10 ^ k).den = 1 then k else places q fuel (k + 1)

/-- `n` without trailing zeros, of which there are at most `fuel`, and how many there were. -/
def trimmed : Nat → Nat → Nat × Nat
  | 0, n => (n, 0)
  | fuel + 1, n => if n % 10 = 0 then ((trimmed fuel (n / 10)).1, (trimmed fuel (n / 10)).2 + 1) else (n, 0)

/-- A number is written out from a millionth on, and below ten to the 21. -/
def isPlain (q : ℚ) : Bool :=
  q.num = 0 || (q.den ≤ q.num.natAbs * 10 ^ 6 && q.num.natAbs < 10 ^ 21 * q.den)

/-- `n / 10 ^ k` with an exponent, one digit before the point. -/
def exponential (n : Int) (k : Nat) : String :=
  let t := trimmed (toString n.natAbs).length n.natAbs
  let digits := (toString t.1).length - 1
  let exponent : Int := t.2 + digits - k
  fixed (n.sign * t.1) digits ++ "e" ++ (if exponent < 0 then "-" else "+") ++ toString exponent.natAbs

/-- `String(n)`. -/
def render : Number → String
  | .finite q =>
      let k := places q q.den 0
      if isPlain q then fixed ⌊q * 10 ^ k⌋ k else exponential ⌊q * 10 ^ k⌋ k
  | .infinite true => "Infinity"
  | .infinite false => "-Infinity"

end Number

end Json

/-- A JSON value; an object lists its own properties in order. -/
inductive Json where
  | null
  | bool (b : Bool)
  | num (n : Json.Number)
  | str (s : String)
  | arr (items : List Json)
  | obj (fields : List (String × Json))

namespace Json

/-- The value of an own property. -/
def field? : List (String × Json) → String → Option Json
  | [], _ => none
  | (k, v) :: rest, name => if k = name then some v else field? rest name

/-- `typeof` a value that JSON can carry. -/
def typeof : Json → String
  | .bool _ => "boolean"
  | .num _ => "number"
  | .str _ => "string"
  | .null | .arr _ | .obj _ => "object"

def hexDigit (n : Nat) : Char := if n < 10 then Char.ofNat (48 + n) else Char.ofNat (87 + n)

/-- One character inside a string literal of `JSON.stringify`. -/
def escape (c : Char) : List Char :=
  if c = '"' then ['\\', '"']
  else if c = '\\' then ['\\', '\\']
  else if c = '\n' then ['\\', 'n']
  else if c = '\r' then ['\\', 'r']
  else if c = '\t' then ['\\', 't']
  else if c.toNat = 8 then ['\\', 'b']
  else if c.toNat = 12 then ['\\', 'f']
  else if c.toNat < 32 then
    ['\\', 'u', '0', '0', hexDigit (c.toNat / 16), hexDigit (c.toNat % 16)]
  else [c]

/-- `JSON.stringify` of a string. -/
def quote (s : String) : String :=
  String.ofList ('"' :: s.toList.flatMap escape ++ ['"'])

/-- An object with the absent fields left out. -/
def ofFields (fields : List (String × Option Json)) : Json :=
  .obj (fields.filterMap fun f => f.2.map fun v => (f.1, v))

mutual
/-- `String(value)`: an array is the comma-separated text of its items. -/
def toText : Json → String
  | .str s => s
  | .num n => n.render
  | .bool b => if b then "true" else "false"
  | .null => "null"
  | .arr items => ",".intercalate (itemTexts items)
  | .obj _ => "[object Object]"

/-- The texts of an array's items; that of `null` is empty. -/
def itemTexts : List Json → List String
  | [] => []
  | .null :: rest => "" :: itemTexts rest
  | item :: rest => toText item :: itemTexts rest
end

/-- A value that JavaScript treats as true. -/
def isTruthy : Json → Bool
  | .str s => s ≠ ""
  | .num n => n ≠ 0
  | .bool b => b
  | .null => false
  | .arr _ | .obj _ => true

/-- `value === text`. -/
def isText (text : String) : Json → Bool
  | .str s => s = text
  | _ => false

/-- `value === n`. -/
def isInt (n : Int) : Json → Bool
  | .num m => m = .ofInt n
  | _ => false

/-! ### Properties of unknown values -/

/-- `value.name`; `none` where it throws, as it does on `null`. -/
def access (value : Json) (name : String) : Option (Option Json) :=
  match value with
  | .null => none
  | .obj fields => some (field? fields name)
  | _ => some none

/-- `value?.name`, where the value may be undefined. -/
def optional (value : Option Json) (name : String) : Option Json :=
  value.bind fun v => (v.access name).getD none

/-- The items of an array; those of any other value are none. -/
def itemsOf : Option Json → List Json
  | some (.arr items) => items
  | _ => []

/-- The text of a string that is not empty. -/
def stringValue : Option Json → Option String
  | some (.str s) => if s = "" then none else some s
  | _ => none

/-! ### Equality -/

mutual
def same : Json → Json → Bool
  | .null, .null => true
  | .bool a, .bool b => a = b
  | .num a, .num b => a = b
  | .str a, .str b => a = b
  | .arr as, .arr bs => sameItems as bs
  | .obj as, .obj bs => sameFields as bs
  | _, _ => false

def sameItems : List Json → List Json → Bool
  | [], [] => true
  | a :: as, b :: bs => same a b && sameItems as bs
  | _, _ => false

def sameFields : List (String × Json) → List (String × Json) → Bool
  | [], [] => true
  | a :: as, b :: bs => sameField a b && sameFields as bs
  | _, _ => false

def sameField : String × Json → String × Json → Bool
  | (k, a), (k', b) => k = k' && same a b
end

mutual
theorem same_iff : ∀ {a b : Json}, same a b = true ↔ a = b := by
  intro a b
  cases a <;> cases b <;> simp [same]
  · exact sameItems_iff
  · exact sameFields_iff

theorem sameItems_iff : ∀ {as bs : List Json}, sameItems as bs = true ↔ as = bs
  | [], [] | [], _ :: _ | _ :: _, [] => by simp [sameItems]
  | a :: as, b :: bs => by simp [sameItems, same_iff, sameItems_iff]

theorem sameFields_iff : ∀ {as bs : List (String × Json)}, sameFields as bs = true ↔ as = bs
  | [], [] | [], _ :: _ | _ :: _, [] => by simp [sameFields]
  | (k, a) :: as, (k', b) :: bs => by
      simp [sameFields, sameField, same_iff, sameFields_iff]
end

instance : DecidableEq Json := fun _ _ => decidable_of_iff _ same_iff

end Json
