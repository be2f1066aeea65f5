import Xsoc.Bounding.Cutting
import Xsoc.Collectors.Numerals

/-!
# Documents

JSON documents as the programs that the client runs write them, and the texts in them.

* `Number`, `Value` : a document; `Value.get`, `Value.field` : a field of it; `Value.asStr` and the like : what it is;
* `parseU64` : a number in a text; `contains`, `toLowercase` : the search for a word.
-/

set_option autoImplicit false

namespace Xsoc

/-- `serde_json::Number` -/
inductive Number
  | posInt (n : Nat)
  /-- A negative number, by its absolute value. -/
  | negInt (n : Nat)
  | float (x : F64)

/-- `serde_json::Value` -/
inductive Value
  | null
  | bool (b : Bool)
  | number (n : Number)
  | string (s : String)
  | array (items : List Value)
  | object (fields : List (String × Value))

namespace Value

/-- `value.get(key)` -/
def get (key : String) : Value → Option Value
  | object fields => (fields.find? fun field => field.1 == key).map Prod.snd
  | _ => none

def asStr : Value → Option String
  | string s => some s
  | _ => none

def asBool : Value → Option Bool
  | bool b => some b
  | _ => none

def asArray : Value → Option (List Value)
  | array items => some items
  | _ => none

def asU64 : Value → Option Nat
  | number (.posInt n) => some n
  | _ => none

def asF64 : Value → Option F64
  | number (.posInt n) => some (F64.ofNat n)
  | number (.negInt n) => some ⟨(F64.ofNat n).bits ||| F64.negZero.bits⟩
  | number (.float x) => some x
  | _ => none

def isNull : Value → Bool
  | null => true
  | _ => false

def isObject : Value → Bool
  | object _ => true
  | _ => false

/-- `value[key]`: nothing is there where there is no such field. -/
def field (key : String) (value : Value) : Value := (value.get key).getD null

end Value

/-- `str::parse::<u64>` -/
def parseU64 (s : String) : Option Nat :=
  let digits : List Char := match s.toList with
    | '+' :: digits => digits
    | digits => digits
  let n := digits.foldl (fun n c => 10 * n + (c.toNat - '0'.toNat)) 0
  if digits ≠ [] ∧ digits.all Char.isDigit ∧ n < 2 ^ 64 then some n else none

def contains (value pattern : List Char) : Bool := (Bounding.splitOnce pattern value).isSome

/-- `to_ascii_lowercase` -/
def toLowercase (s : String) : String := String.ofList (s.toList.map Char.toLower)

end Xsoc
