import ReplicaQuorum.Json.Escape
import ReplicaQuorum.Text.Numeral
import ReplicaQuorum.Text.Pieces

/-!
# JSON values

The data format of log lines, records, configuration and responses. Numbers and strings keep the
spelling they were written with, so reading decides the form of a text and leaves its meaning to
whoever asks for it.
-/

namespace ReplicaQuorum

/-- A JSON value. -/
inductive Json where
  | null
  | bool (value : Bool)
  /-- A number as it is spelled. -/
  | number (spelling : List Char)
  /-- A string as it is spelled between its quotes. -/
  | string (spelling : List Char)
  | array (elements : List Json)
  /-- The members in the order in which they are written, with their names as they are spelled. -/
  | object (members : List (List Char × Json))

namespace Json

instance : Inhabited Json := ⟨null⟩

/-- The string that denotes a text. -/
def text (s : String) : Json :=
  string (escape s.toList)

/-- The number that denotes a natural number. -/
def nat (n : Nat) : Json :=
  number (Text.decimal n)

/-- An optional value, null if absent. -/
def ofOption {α : Type} (f : α → Json) : Option α → Json
  | some a => f a
  | none => null

/-- The array of the values of a list. -/
def ofList {α : Type} (f : α → Json) (items : List α) : Json :=
  array (items.map f)

/-- The object with the given members, whose names need no escapes or are spelled here. -/
def record (members : List (String × Json)) : Json :=
  object (members.map fun m => (escape m.1.toList, m.2))

/-- The object with the given members in ascending order of their names. -/
def sortedRecord (members : List (String × Json)) : Json :=
  record (members.mergeSort fun a b => decide (a.1 ≤ b.1))

mutual

/-- A value without blanks. -/
def renderChars : Json → List Char
  | null => ['n', 'u', 'l', 'l']
  | bool true => ['t', 'r', 'u', 'e']
  | bool false => ['f', 'a', 'l', 's', 'e']
  | number spelling => spelling
  | string spelling => '"' :: spelling ++ ['"']
  | array elements => '[' :: Text.join [','] (renderElements elements) ++ [']']
  | object members => '\x7b' :: Text.join [','] (renderMembers members) ++ ['\x7d']

/-- The values of an array. -/
def renderElements : List Json → List (List Char)
  | [] => []
  | element :: rest => renderChars element :: renderElements rest

/-- The members of an object. -/
def renderMembers : List (List Char × Json) → List (List Char)
  | [] => []
  | member :: rest => renderMember member :: renderMembers rest

/-- A name and its value. -/
def renderMember : List Char × Json → List Char
  | (name, value) => '"' :: name ++ ['"', ':'] ++ renderChars value

end

/-- The value as a text without blanks. -/
def render (v : Json) : String :=
  String.ofList v.renderChars

end Json

end ReplicaQuorum
