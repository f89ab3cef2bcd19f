import ReplicaQuorum.Error
import ReplicaQuorum.Text.Blank
import ReplicaQuorum.Text.Pieces

/-!
# Content

The flat text in which a roster is persisted: ten fields set apart by commas, for the epoch, the
generation, the primary, the temporary primary, the secondaries, arbiters, inactive and joining
secondaries, the primary candidate and the secondary candidate. Members of a set are set apart by
colons, and an absent instance is written as minus one.
-/

namespace ReplicaQuorum

/-- Reads an instance from a text. -/
def readInstance (s : List Char) : Except MembershipError InstanceId :=
  match Text.readUInt64 (Text.trim s) with
  | .ok id => .ok id
  | .error cause => .error (.badField "instance id" (String.ofList s) cause)

namespace Content

/-- One of the fields of a content, as it is written. -/
abbrev Field := List Char

/-- How an absent instance is written. -/
def absent : Field := ['-', '1']

/-- The number of fields. -/
def fieldCount : Nat := 10

/-- The field of a word. -/
def wordField (n : UInt64) : Field :=
  Text.decimal n.toNat

/-- The field of an instance that may be absent. -/
def optionalField : Option InstanceId → Field
  | some id => wordField id
  | none => absent

/-- The field of a set of instances. -/
def setField (ids : IdSet) : Field :=
  Text.join [':'] (ids.toList.map wordField)

/-- The fields of a roster. -/
def fields (r : Roster) : List Field :=
  [wordField r.version.epoch, wordField r.version.generation, wordField r.primary,
   optionalField r.tempPrimary, setField r.secondaries, setField r.arbiters, setField r.inactive,
   setField r.joining, optionalField r.primaryCandidate, optionalField r.secondaryCandidate]

/-- The content of a roster. -/
def encodeChars (r : Roster) : List Char :=
  Text.join [','] (fields r)

/-- The content of a roster as a text. -/
def encode (r : Roster) : String :=
  String.ofList (encodeChars r)

/-- Reads the number in the field called `name`. -/
def readWord (name : String) (field : Field) : Except MembershipError UInt64 :=
  match Text.readUInt64 (Text.trim field) with
  | .ok n => .ok n
  | .error cause => .error (.badField name (String.ofList field) cause)

/-- Reads the instance, which may be absent, in the field called `name`. -/
def readOptional (name : String) (field : Field) :
    Except MembershipError (Option InstanceId) :=
  let field := Text.trim field
  if field = absent then .ok none
  else
    match Text.readUInt64 field with
    | .ok id => .ok (some id)
    | .error cause => .error (.badField name (String.ofList field) cause)

/-- Reads the instances of a set, in any order and with any repetitions. -/
def readSet (field : Field) : Except MembershipError IdSet :=
  if field.isEmpty then .ok ∅
  else (Text.split ':' field).mapM readInstance |>.map IdSet.ofList

/-- Reads the roster that the fields of a content describe. -/
def readFields (content : String) : List Field → Except MembershipError Roster
  | [epoch, generation, primary, temp, secondaries, arbiters, inactive, joining, primaryCandidate,
     secondaryCandidate] => do
    let epoch ← readWord "epoch" epoch
    let generation ← readWord "generation" generation
    let some primary ← readOptional "primary" primary | .error (.noPrimary content)
    let tempPrimary ← readOptional "temp primary" temp
    let secondaries ← readSet secondaries
    let arbiters ← readSet arbiters
    let inactive ← readSet inactive
    let joining ← readSet joining
    let primaryCandidate ← readOptional "primary candidate" primaryCandidate
    let secondaryCandidate ← readOptional "secondary candidate" secondaryCandidate
    .ok { primary, version := ⟨epoch, generation⟩, tempPrimary, secondaries, arbiters, inactive,
          joining, primaryCandidate, secondaryCandidate }
  | others => .error (.fieldCount fieldCount others.length content)

/-- Reads the roster that a content describes, well formed or not. -/
def readRoster (content : String) : Except MembershipError Roster :=
  readFields content (Text.split ',' (Text.trim content.toList))

/-- The replica set that a content describes. -/
def decode (content : String) : Except MembershipError ReplicaSet := do
  let roster ← readRoster content
  match ReplicaSet.build roster with
  | .ok m => .ok m
  | .error violation => .error (.violation violation)

end Content

end ReplicaQuorum
