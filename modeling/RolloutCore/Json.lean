import Mathlib.Data.Rat.Defs
import RolloutCore.Errors

/-!
# JSON values as `json.loads` returns them
-/

namespace RolloutCore

/-- A Python float. -/
inductive PyFloat
  | fin (q : ℚ) | posInf | negInf | nan
  deriving DecidableEq

/-- A decoded JSON value; `null` is `None`. -/
inductive Json
  | null
  | bool (b : Bool)
  | int (n : ℤ)
  | float (x : PyFloat)
  | str (s : String)
  | arr (xs : List Json)
  | obj (fields : List (String × Json))

namespace Json

/-- `bool(x)`. -/
def truthy : Json → Bool
  | .null => false
  | .bool b => b
  | .int n => n ≠ 0
  | .float x => x ≠ .fin 0
  | .str s => s ≠ ""
  | .arr xs => !xs.isEmpty
  | .obj fields => !fields.isEmpty

/-- The class of the value, as an `AttributeError` names it. -/
def className : Json → String
  | .null => "NoneType"
  | .bool _ => "bool"
  | .int _ => "int"
  | .float _ => "float"
  | .str _ => "str"
  | .arr _ => "list"
  | .obj _ => "dict"

/-- `fields.get(key)`; a missing key is `None`. -/
def lookup (fields : List (String × Json)) (key : String) : Json :=
  (fields.find? fun p => p.1 = key).elim .null (·.2)

/-- `v.get(key)`; only a dictionary has it. -/
def get (v : Json) (key : String) : Except PyExc Json :=
  match v with
  | .obj fields => .ok (lookup fields key)
  | _ =>
    let message := s!"'{v.className}' object has no attribute 'get'"
    .error (.other message s!"AttributeError({pyRepr message})")

end Json

/-- How `json.loads` fails: a `JSONDecodeError` by its `str`, or another exception. -/
inductive LoadsError
  | decode (message : String)
  | raised (e : PyExc)

/-- What the adapter uses of the `json` module and of `repr`. -/
structure JsonModule where
  loads : String → Except LoadsError Json
  reprStr : Json → String

end RolloutCore
