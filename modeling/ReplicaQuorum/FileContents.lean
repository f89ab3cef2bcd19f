import ReplicaQuorum.Text.Lines

/-!
# File contents

What there is to read at a path.
-/

namespace ReplicaQuorum

/-- What there is to read at a path. -/
inductive FileContents where
  | absent
  | unreadable (reason : String)
  | bytes (contents : List UInt8)
deriving DecidableEq, Repr

namespace FileContents

/-- The text of a file, or why there is none. A missing file is told in these words, whatever the
system has to say of it. -/
def text : FileContents → Except String String
  | absent => .error "no such file or directory"
  | unreadable reason => .error reason
  | bytes contents =>
    match Text.decodeUtf8 contents with
    | some s => .ok (String.ofList s)
    | none => .error "stream did not contain valid UTF-8"

end FileContents

end ReplicaQuorum
