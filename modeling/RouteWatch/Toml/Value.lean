/-!
# TOML values

The values of a configuration file. A table keeps its pairs in the order in which they are written,
and keeps a key that is written twice; it is up to the reader of the table to refuse what it does
not know or has seen already.
-/

namespace RouteWatch

/-- How a table is written. -/
inductive TableStyle where
  | inline
  /-- By keys with dots. -/
  | dotted
  /-- Under a header. The header may be there again after all that the table holds. -/
  | headed (again : Bool)
  deriving DecidableEq

/-- A TOML value. -/
inductive Toml where
  | string (s : String)
  | integer (n : Int)
  /-- A number that is not whole, or not finite. -/
  | float
  | boolean (b : Bool)
  /-- A date or a time of day. -/
  | moment
  | array (items : List Toml)
  | table (style : TableStyle) (pairs : List (String × Toml))

namespace Toml

/-- The first value under the key. -/
def first? (key : String) (pairs : List (String × Toml)) : Option Toml :=
  (pairs.find? (·.1 == key)).map (·.2)

/-- The pairs with another value in the place of the first one under the key. -/
def replaceFirst (key : String) (value : Toml) : List (String × Toml) → List (String × Toml)
  | [] => []
  | pair :: rest =>
    if pair.1 = key then (key, value) :: rest else pair :: replaceFirst key value rest

/-- The pairs with a value under a key with dots. What stands before a dot is a table, which other
such keys may have begun, but nothing else. -/
def addPair : (path : List String) → (value : Toml) → (pairs : List (String × Toml)) →
    Option (List (String × Toml))
  | [], _, _ => none
  | [key], value, pairs => some (pairs ++ [(key, value)])
  | key :: path, value, pairs =>
    match first? key pairs with
    | none => do return pairs ++ [(key, .table .dotted (← addPair path value []))]
    | some (.table .dotted inner) => do
      return replaceFirst key (.table .dotted (← addPair path value inner)) pairs
    | some _ => none

end Toml

end RouteWatch
