import ReplicaQuorum.Json

/-!
# Typed readings of JSON values

What a value means where a text, a word, the name of an enumeration or a structure is expected. A
structure is an object with its fields in any order, each at most once, among others that are
ignored; or an array of its fields in their order, with some of the last ones left out.
-/

namespace ReplicaQuorum.Json

/-- The text of a string. -/
def asText? : Json → Option String
  | string spelling => (unescape spelling).map String.ofList
  | _ => none

/-- The truth value. -/
def asBool? : Json → Option Bool
  | bool value => some value
  | _ => none

/-- The natural number below `limit` that is written in digits only. -/
def asNat? (limit : Nat) : Json → Option Nat
  | number spelling =>
    if spelling.all Char.isDigit then (Text.readDigits limit 0 spelling).toOption else none
  | _ => none

/-- The 64-bit word. -/
def asUInt64? (v : Json) : Option UInt64 :=
  (v.asNat? UInt64.size).map UInt64.ofNat

/-- The 32-bit word. -/
def asUInt32? (v : Json) : Option UInt32 :=
  (v.asNat? UInt32.size).map UInt32.ofNat

/-- The 16-bit word. -/
def asUInt16? (v : Json) : Option UInt16 :=
  (v.asNat? UInt16.size).map UInt16.ofNat

/-- The name of an enumeration's value: a string, or an object whose only member is that name with
null. -/
def asName? : Json → Option String
  | string spelling => (unescape spelling).map String.ofList
  | object [(name, null)] => (unescape name).map String.ofList
  | _ => none

/-- The value, or none for null. -/
def asNullable? {α : Type} (f : Json → Option α) : Json → Option (Option α)
  | null => some none
  | v => (f v).map some

/-- The values among named ones that bear a name. -/
def valuesOf (name : String) (members : List (List Char × Json)) : List Json :=
  (members.filter fun m => m.1 = name.toList).map Prod.snd

/-- The values that a structure gives to its fields, with none for the ones left out. -/
def fields? (names : List String) : Json → Option (List (Option Json))
  | array elements =>
    if elements.length ≤ names.length then
      some (elements.map some ++ List.replicate (names.length - elements.length) none)
    else none
  | object members =>
    match members.mapM fun m => (unescape m.1).map fun name => (name, m.2) with
    | none => none
    | some members =>
      if names.all fun name => (valuesOf name members).length ≤ 1 then
        some (names.map fun name => (valuesOf name members).head?)
      else none
  | _ => none

/-- The reading of a field that may be left out. -/
def orDefault {α : Type} (default : α) (f : Json → Option α) : Option Json → Option α
  | none => some default
  | some v => f v

end ReplicaQuorum.Json
