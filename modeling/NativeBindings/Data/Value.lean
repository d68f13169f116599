import NativeBindings.Decimal

/-!
# Data values

The tree that a data text or an option record is read into. The keys of a map are strings and
pairwise distinct; `Value.insert` keeps them so and keeps a key where it first stood.
-/
namespace NativeBindings

/-- A piece of data. Integers are exact; other numbers are doubles. -/
inductive Value where
  | null
  | bool (value : Bool)
  | int (value : Int)
  | double (value : Binary64)
  | text (value : String)
  | list (items : List Value)
  | map (entries : List (String × Value))
  deriving Repr, Inhabited

namespace Value

def typeName : Value → String
  | null => "null"
  | bool _ => "boolean"
  | int _ => "number"
  | double _ => "number"
  | text _ => "string"
  | list _ => "array"
  | map _ => "object"

/-- The value of a key of a map; no other value has keys. -/
def get? : Value → String → Option Value
  | map entries, key => entries.lookup key
  | _, _ => none

mutual

/-- Has a value a form as text? A map with an entry `toString` has none, as that entry stands where
the form of a map would be. -/
def hasText : Value → Bool
  | list items => itemsHaveText items
  | map entries => !entries.any (·.1 == "toString")
  | _ => true

def itemsHaveText : List Value → Bool
  | [] => true
  | item :: rest => item.hasText && itemsHaveText rest

end

mutual

/-- A value as text: a list is its items separated by commas, a map does not show its entries. -/
def plainText : Value → String
  | null => "null"
  | bool b => if b then "true" else "false"
  | int n => toString n
  | double x => x.text
  | text s => s
  | list items => String.intercalate "," (itemTexts items)
  | map _ => "[object Object]"

def itemTexts : List Value → List String
  | [] => []
  | null :: rest => "" :: itemTexts rest
  | item :: rest => plainText item :: itemTexts rest

end

/-- A list stands for the number that its text does, and a map for none. -/
def toNumber : Value → Binary64
  | null => .zero false
  | bool b => .ofInt (if b then 1 else 0)
  | int n => .ofInt n
  | double x => x
  | text s => .ofText s
  | list items => .ofText (plainText (list items))
  | map _ => .nan

/-- Sets a key, in place if it is there and at the end if not. -/
def insert (entries : List (String × Value)) (key : String) (value : Value) :
    List (String × Value) :=
  if entries.any (·.1 == key) then
    entries.map fun entry => if entry.1 == key then (key, value) else entry
  else entries ++ [(key, value)]

end Value
end NativeBindings
