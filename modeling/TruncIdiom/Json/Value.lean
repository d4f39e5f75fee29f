import TruncIdiom.Decimal.Shortest
import TruncIdiom.Text.Quoted

/-!
JSON values.

Settings, message data and the edits that clients send are loosely typed: a field may hold any JSON
value, and what a value is good for is asked where it is used. Integers are exact, and apart from
floating-point numbers. The fields of an object keep the order in which their names first came.
`Value.text` is how a value looks inside a message.
-/

namespace TruncIdiom.Json

open TruncIdiom.Decimal

inductive Value where
  | null
  | bool (b : Bool)
  | int (n : Int)
  | float (x : Binary64)
  | string (s : String)
  | array (items : List Value)
  | object (fields : List (String × Value))
  deriving Repr, Inhabited

inductive Kind where
  | null
  | bool
  | int
  | float
  | string
  | array
  | object
  deriving DecidableEq, Repr

def Kind.label : Kind → String
  | .null => "NoneType"
  | .bool => "bool"
  | .int => "int"
  | .float => "float"
  | .string => "str"
  | .array => "list"
  | .object => "dict"

def Value.kind : Value → Kind
  | .null => .null
  | .bool _ => .bool
  | .int _ => .int
  | .float _ => .float
  | .string _ => .string
  | .array _ => .array
  | .object _ => .object

/-- Whether a value counts as true: it is not null, false, zero or empty. -/
def Value.truthy : Value → Bool
  | .null => false
  | .bool b => b
  | .int n => n ≠ 0
  | .float x => !x.isZero
  | .string s => s ≠ ""
  | .array items => !items.isEmpty
  | .object fields => !fields.isEmpty

/-! ## Texts of values -/

def boolText (b : Bool) : String := if b then "True" else "False"

mutual

/-- A value inside a list or an object: a text is quoted there. -/
def Value.shown : Value → String
  | .null => "None"
  | .bool b => boolText b
  | .int n => toString n
  | .float x => x.text
  | .string s => Text.quoted s
  | .array items => "[" ++ ", ".intercalate (shownItems items) ++ "]"
  | .object fields => "\x7b" ++ ", ".intercalate (shownFields fields) ++ "\x7d"

def shownItems : List Value → List String
  | [] => []
  | item :: items => item.shown :: shownItems items

def shownFields : List (String × Value) → List String
  | [] => []
  | (name, value) :: fields => (Text.quoted name ++ ": " ++ value.shown) :: shownFields fields

end

/-- A value inside a message: a text stands there as it is. -/
def Value.text : Value → String
  | .string s => s
  | value => value.shown

end TruncIdiom.Json
