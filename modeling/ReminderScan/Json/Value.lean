import ReminderScan.Number.Binary64

/-! Values of JSON documents. Whole numbers are kept apart from numbers with a point or an exponent,
and the members of an object keep their order. -/

namespace ReminderScan.Json

/-- A value of a document. The last kind stands for data of a program that no document can hold; no
document reads as one. -/
inductive Value where
  | null
  | bool (b : Bool)
  | int (n : Int)
  | real (x : Number.Binary64)
  | text (s : String)
  | list (items : List Value)
  | object (members : List (String × Value))
  | foreign (kind : String)
deriving Inhabited, BEq

namespace Value

def kindName : Value → String
  | null => "NoneType"
  | bool _ => "bool"
  | int _ => "int"
  | real _ => "float"
  | text _ => "str"
  | list _ => "list"
  | object _ => "dict"
  | foreign kind => kind

/-- Everything counts as true but null, false, zero, and what is empty. -/
def isTruthy : Value → Bool
  | null => false
  | bool b => b
  | int n => n ≠ 0
  | real x => !x.isZero
  | text s => s ≠ ""
  | list items => !items.isEmpty
  | object members => !members.isEmpty
  | foreign _ => true

end Value

def lookup? (key : String) : List (String × Value) → Option Value
  | [] => none
  | (k, v) :: rest => if k = key then some v else lookup? key rest

/-- Sets a member: a new one comes last, a known one keeps its place. -/
def assign (key : String) (value : Value) : List (String × Value) → List (String × Value)
  | [] => [(key, value)]
  | (k, v) :: rest => if k = key then (k, value) :: rest else (k, v) :: assign key value rest

theorem lookup?_assign_self (key : String) (value : Value) (members : List (String × Value)) :
    lookup? key (assign key value members) = some value := by
  induction members with
  | nil => simp [assign, lookup?]
  | cons m rest ih => by_cases h : m.1 = key <;> simp [assign, lookup?, h, ih]

end ReminderScan.Json
