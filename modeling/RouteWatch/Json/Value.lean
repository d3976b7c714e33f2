import RouteWatch.Table

/-!
# JSON values

The values that the cluster prints and takes. `Json.record?` and `Json.dictionary?` are the two ways
in which an object is read: as a record with known fields, and as a table.
-/

namespace RouteWatch

/-- A JSON value. A string written with an unpaired surrogate is well formed but has no characters,
which `none` stands for; such a value can be skipped but not used. -/
inductive Json where
  | null
  | bool (b : Bool)
  /-- A number, as it is written. -/
  | number (literal : String)
  | string (text : Option String)
  | array (items : List Json)
  /-- Values under names, in the order in which they are written. -/
  | object (fields : List (Option String × Json))

namespace Json

def text (s : String) : Json :=
  .string (some s)

def nat (n : Nat) : Json :=
  .number (toString n)

/-- The string, or null. -/
def ofText? (s : Option String) : Json :=
  s.elim .null text

def ofTexts (ss : List String) : Json :=
  .array (ss.map text)

/-- An object with its names in ascending order; of two fields with one name, the later stays. -/
def map (fields : List (String × Json)) : Json :=
  .object ((Table.ofList fields).entries.map fun e => (some e.1, e.2))

/-- An object with its names in the given order. -/
def struct (fields : List (String × Json)) : Json :=
  .object (fields.map fun e => (some e.1, e.2))

/-- The object that a table of strings is. -/
def ofTable (t : Table String String) : Json :=
  .object (t.entries.map fun e => (some e.1, text e.2))

def string? : Json → Option String
  | .string s => s
  | _ => none

def array? : Json → Option (List Json)
  | .array items => some items
  | _ => none

/-- The value of the only field of that name: `some none` if there is no such field, and `none` if
there are two. -/
def onlyField? (fields : List (Option String × Json)) (name : String) : Option (Option Json) :=
  match fields.filter fun f => f.1 == some name with
  | [] => some none
  | [f] => some (some f.2)
  | _ => none

/-- The values of the fields with the given names. A record is written as an object, where other
fields are skipped and each of these may occur once, or as a list of the values of its fields in
order, where the last ones may be missing. -/
def record? (names : List String) : Json → Option (List (Option Json))
  | .object fields =>
    if fields.all fun f => f.1.isSome then names.mapM (onlyField? fields) else none
  | .array items =>
    if items.length ≤ names.length then
      some (items.map some ++ List.replicate (names.length - items.length) none)
    else none
  | _ => none

/-- The values under their names; of two with one name, the later stays. -/
def dictionary? : Json → Option (Table String Json)
  | .object fields => do
    let named ← fields.mapM fun f => f.1.map (·, f.2)
    return Table.ofList named
  | _ => none

/-- The strings under their names. -/
def strings? (j : Json) : Option (Table String String) := do
  match j with
  | .object fields =>
    let named ← fields.mapM fun f => do return (← f.1, ← f.2.string?)
    return Table.ofList named
  | _ => none

end Json

end RouteWatch
