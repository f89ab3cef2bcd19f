import ReplicaQuorum.Endpoint
import ReplicaQuorum.Error
import ReplicaQuorum.Form
import ReplicaQuorum.Text.Blank
import ReplicaQuorum.Text.Pieces

/-!
# Spellings

How addresses, volume types and forms are read from the texts that people write. Volume types are
read in any case and with blanks around them, forms only as they are written.
-/

namespace ReplicaQuorum

/-- Reads an address: the host up to the last colon, and the port after it. -/
def Endpoint.read (s : String) : Except MembershipError Endpoint :=
  match Text.splitLast ':' s.toList with
  | none => .error (.noPort s)
  | some ([], _) => .error (.noHost s)
  | some (host, port) =>
    match Text.readUInt16 port with
    | .ok port => .ok ⟨String.ofList host, port⟩
    | .error cause => .error (.badPort s cause)

/-- Reads a volume type. -/
def VolumeType.read (s : String) : Except MembershipError VolumeType :=
  let letters := (Text.trim s.toList).map Char.toUpper
  match VolumeType.all.find? fun v => v.name.toList = letters with
  | some v => .ok v
  | none => .error (.unknownVolume s)

/-- Reads a form. -/
def Form.read (s : String) : Except MembershipError Form :=
  match Form.ofName? s with
  | some form => .ok form
  | none => .error (.unknownForm s)

/-- Reads a form of the three-member volumes. -/
def Form.readThreeMember (s : String) : Except MembershipError Form :=
  match Form.threeMemberOfName? s with
  | some form => .ok form
  | none => .error (.unknownForm s)

end ReplicaQuorum
