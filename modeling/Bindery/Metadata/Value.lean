import Bindery.Metadata.Binary64

set_option autoImplicit false

/-! # Metadata values

Metadata consists of scalars, lists and mappings; a mapping keeps the order of its entries, and
its keys may be any values. Two keys are the same when their identities are: a number zero has one
identity whatever its sign, and a mapping has one whatever the order of its entries. -/

namespace Bindery

/-- A metadata value. -/
inductive Value where
  | null
  | bool (value : Bool)
  | int (value : Int)
  | float (value : Binary64)
  | text (value : Text)
  | list (values : List Value)
  | map (entries : List (Value × Value))
  deriving Repr

namespace Value

/-! ## Identity -/

/-- A text that tells where it ends. -/
def delimited (text : Text) : Text := Text.ofNat text.length ++ ':' :: text

mutual

/-- A text that two values share exactly when they are the same value. -/
def identity : Value → Text
  | .null => ['n']
  | .bool value => if value then ['t'] else ['f']
  | .int value => 'i' :: delimited (Text.ofInt value)
  | .float (.finite _ 0 _) => 'r' :: delimited ['0']
  | .float value => 'r' :: delimited value.toText
  | .text value => 's' :: delimited value
  | .list values => 'l' :: delimited (identities values)
  | .map entries => 'm' :: delimited ((entryIdentities entries).mergeSort Text.le).flatten

/-- The identities of values, one behind the other. -/
def identities : List Value → Text
  | [] => []
  | value :: values => identity value ++ identities values

/-- The identity of each entry. -/
def entryIdentities : List (Value × Value) → List Text
  | [] => []
  | (key, value) :: entries => (identity key ++ identity value) :: entryIdentities entries

end

/-- Two values are the same. -/
def same (a b : Value) : Bool := identity a == identity b

end Value

/-! ## Mappings -/

/-- The entries of a mapping, in order; each key stands once. -/
abbrev Mapping := List (Value × Value)

namespace Mapping

/-- Gives a key a value: in the place of the key if the mapping has it, else at the end. -/
def insert (key value : Value) : Mapping → Mapping
  | [] => [(key, value)]
  | (k, v) :: entries =>
    if k.same key then (k, value) :: entries else (k, v) :: insert key value entries

/-- Gives keys values one after the other. -/
def insertAll (entries mapping : Mapping) : Mapping :=
  entries.foldl (fun m (key, value) => insert key value m) mapping

/-- The value of a key. -/
def get? (key : Value) (mapping : Mapping) : Option Value :=
  (mapping.find? fun (k, _) => k.same key).map (·.2)

end Mapping

end Bindery
