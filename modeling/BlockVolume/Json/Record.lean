import BlockVolume.Json.Reader
/-!
Reading records out of JSON values.

A record is written as an object, where names it does not know are passed over and a name it knows
stands at most once, or as an array of its fields in order, where fields at the end may be left out.
-/

namespace BlockVolume.Json

open BlockVolume.Text (Bytes)

/-- The fields found for a record, by name. -/
abbrev Found := List (String × Value)

/-- Keeps the members with a known name; `seen` are the names found so far. -/
def knownMembers (names : List String) (seen : List String) :
    List (Bytes × Value) → Except Error Found
  | [] => .ok []
  | (raw, value) :: members =>
    match unescape? raw with
    | none => .error .brokenString
    | some name =>
      if !names.contains name then knownMembers names seen members
      else if seen.contains name then .error (.duplicateField name)
      else (knownMembers names (name :: seen) members).map ((name, value) :: ·)

/-- Gives the items of an array the names of the fields, in order. -/
def namedItems : List String → List Value → Except Error Found
  | _, [] => .ok []
  | [], _ :: _ => .error .tooManyItems
  | name :: names, value :: values => (namedItems names values).map ((name, value) :: ·)

namespace Value

/-- The fields of a record that has the given field names. -/
def fields (names : List String) : Value → Except Error Found
  | .object members => knownMembers names [] members
  | .array items => namedItems names items
  | _ => .error (.wrongType "a record")

/-- A string. -/
def asText : Value → Except Error String
  | .string raw =>
    match unescape? raw with
    | some text => .ok text
    | none => .error .brokenString
  | _ => .error (.wrongType "a string")

/-- An integer from zero up to and without `bound`. -/
def asNatBelow (bound : Nat) : Value → Except Error Nat
  | .number literal =>
    match natural? literal with
    | some n => if n < bound then .ok n else .error (.wrongType "a smaller integer")
    | none => .error (.wrongType "an integer")
  | _ => .error (.wrongType "an integer")

/-- A list of values of one kind. -/
def asList {α : Type} (item : Value → Except Error α) : Value → Except Error (List α)
  | .array items => items.mapM item
  | _ => .error (.wrongType "a list")

end Value

namespace Found

/-- The value of a field, or `default` where the field is left out. -/
def optional {α : Type} (found : Found) (name : String) (read : Value → Except Error α)
    (default : α) : Except Error α :=
  match found.lookup name with
  | some value => read value
  | none => .ok default

/-- The value of a field that must be there. -/
def required {α : Type} (found : Found) (name : String) (read : Value → Except Error α) :
    Except Error α :=
  match found.lookup name with
  | some value => read value
  | none => .error (.missingField name)

end Found
end BlockVolume.Json
