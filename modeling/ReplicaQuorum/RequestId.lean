import ReplicaQuorum.Text.Hex
import ReplicaQuorum.Text.Pieces

/-!
# Request identifiers

The 128-bit identifier that ties the log lines of one request together, written as groups of 8, 4,
4, 4 and 12 hexadecimal digits. It is read from this form, bare, in braces or as a resource name,
and from its 32 digits without hyphens.
-/

namespace ReplicaQuorum

/-- The number of identifiers. -/
def RequestId.count : Nat := Nat.pow 2 128

/-- The identifier of a request. -/
structure RequestId where
  value : Nat
  value_lt : value < RequestId.count := by decide
deriving DecidableEq

namespace RequestId

/-- The identifier that stands for no request. -/
def nil : RequestId := { value := 0 }

/-- The sizes of the groups of digits. -/
def groupSizes : List Nat := [8, 4, 4, 4, 12]

/-- Cuts digits into groups of the given sizes. -/
def groups : List Nat → List Char → List (List Char)
  | [], _ => []
  | size :: sizes, digits => digits.take size :: groups sizes (digits.drop size)

/-- The identifier in lower case with a hyphen between two groups. -/
def text (r : RequestId) : String :=
  String.ofList (Text.join ['-'] (groups groupSizes (Text.hexPadded 32 r.value)))

/-- What stands before the groups in the form of a resource name. -/
def resourceStart : List Char := "urn:uuid:".toList

/-- The text without the braces around it or the resource name's start, if it has one of them. -/
def unwrap (s : List Char) : List Char :=
  if resourceStart.isPrefixOf s then s.drop resourceStart.length
  else match s with
    | '\x7b' :: rest => if rest.getLast? = some '\x7d' then rest.dropLast else s
    | _ => s

/-- The digits of a text in one of the forms of an identifier. -/
def digits? (s : List Char) : Option (List Char) :=
  if s.length = 32 then some s
  else
    let pieces := Text.split '-' (unwrap s)
    if pieces.map List.length = groupSizes then some pieces.flatten else none

/-- Reads an identifier in any of its forms, with digits of either case. -/
def read? (s : String) : Option RequestId :=
  match (digits? s.toList).bind Text.readHex? with
  | some value => if h : value < count then some ⟨value, h⟩ else none
  | none => none

end RequestId

end ReplicaQuorum
