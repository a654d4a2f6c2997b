import HostRoster.Decimal.Layout
import HostRoster.KeyedList

/-!
# JSON values

A value as a JSON text denotes it. Members of an object keep the order of the text; a repeated name
keeps its first place and its last value. Integers that fit a word of 64 bits are exact, all other
numbers are double-precision.
-/

namespace HostRoster.Json

open HostRoster.Decimal

/-- A number. -/
inductive Number where
  /-- An integer that fits a word of 64 bits, signed if negative and unsigned otherwise. -/
  | integer (value : Int)
  /-- A double-precision number; zero has a sign too. -/
  | float (negative : Bool) (magnitude : Binary64)
  deriving DecidableEq, Repr

/-- The characters of a number. -/
def Number.chars : Number → List Char
  | .integer (.ofNat n) => digitChars n
  | .integer (.negSucc n) => '-' :: digitChars (n + 1)
  | .float negative magnitude =>
    (if negative then ['-'] else []) ++ Layout.json.writeBinary magnitude

/-- A value. -/
inductive Value where
  /-- The literal `null`. -/
  | null
  /-- A truth value. -/
  | bool (b : Bool)
  /-- A number. -/
  | number (n : Number)
  /-- A text. -/
  | string (s : String)
  /-- A list of values. -/
  | array (items : List Value)
  /-- Named values, in order. -/
  | object (members : List (String × Value))
  deriving Repr, Inhabited

namespace Value

/-- The value of a natural number. -/
def nat (n : Nat) : Value := .number (.integer n)

/-- A text that may be absent, or `null`. -/
def text? : Option String → Value
  | some s => .string s
  | none => .null

/-- A value that may be absent, or `null`. -/
def orNull : Option Value → Value := (·.getD .null)

/-- A list of texts. -/
def texts (l : List String) : Value := .array (l.map .string)

/-- Whether a value is an object. -/
def isObject : Value → Bool
  | .object _ => true
  | _ => false

end Value

end HostRoster.Json
