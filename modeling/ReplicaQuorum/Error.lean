import ReplicaQuorum.ReplicaSet
import ReplicaQuorum.RequestId
import ReplicaQuorum.Text.Numeral
import ReplicaQuorum.Text.Quoted

/-!
# Membership errors

Everything that can be wrong with a replica set, with the texts it is read from, and with a round.
Each error names its cause; the kind says how a caller has to take it. Faults in the replica sets
themselves are fatal, texts that cannot be read are not.
-/

namespace ReplicaQuorum

/-- What went wrong with a replica set, a round or a text. -/
inductive MembershipError where
  | violation (v : Violation)
  | cannotJoin (id : InstanceId) (m : ReplicaSet)
  | candidateKnown (id : InstanceId) (m : ReplicaSet)
  | noMembers
  | noRealReader (request : RequestId)
  | manyFetchReaders (request : RequestId)
  | sameVersion (m other : ReplicaSet)
  | versionsDiffer (m other : ReplicaSet)
  | noRole (id : InstanceId) (m : ReplicaSet)
  | cannotMark (id : InstanceId) (status : Status) (m : ReplicaSet)
  | unknownForm (name : String)
  | noForm (volume : VolumeType) (m : ReplicaSet)
  | fieldCount (expected found : Nat) (content : String)
  | badField (field : String) (text : String) (cause : Text.NumeralError)
  | noPrimary (content : String)
  | noPort (endpoint : String)
  | noHost (endpoint : String)
  | badPort (endpoint : String) (cause : Text.NumeralError)
  | unknownVolume (text : String)
  | shape (defect : VolumeShape.Defect)
  | unreadableConfig (path reason : String)
  | invalidConfig (reason : String)
  | emptyStorePath
deriving DecidableEq

namespace MembershipError

/-- How a caller has to take an error. -/
inductive Kind where
  | invariantViolation
  | invalidMembership
  | unknownMember
  | unknownSegmentForm
  | malformedContent
  | configuration
deriving DecidableEq, Repr

namespace Kind

/-- The name of the kind. -/
def name : Kind → String
  | invariantViolation => "InvariantViolation"
  | invalidMembership => "InvalidMembership"
  | unknownMember => "UnknownMember"
  | unknownSegmentForm => "UnknownSegmentForm"
  | malformedContent => "MalformedContent"
  | configuration => "Configuration"

/-- Errors of the kind must stop the caller. -/
def isFatal : Kind → Bool
  | invariantViolation | invalidMembership | unknownMember | unknownSegmentForm => true
  | malformedContent | configuration => false

end Kind

/-- The kind of an error. -/
def kind : MembershipError → Kind
  | violation .. | cannotJoin .. | candidateKnown .. | noMembers => .invariantViolation
  | noRealReader .. | manyFetchReaders .. => .invariantViolation
  | sameVersion .. | versionsDiffer .. => .invalidMembership
  | noRole .. | cannotMark .. => .unknownMember
  | unknownForm .. | noForm .. => .unknownSegmentForm
  | fieldCount .. | badField .. | noPrimary .. => .malformedContent
  | noPort .. | noHost .. | badPort .. => .malformedContent
  | unknownVolume .. | shape .. => .configuration
  | unreadableConfig .. | invalidConfig .. | emptyStorePath => .configuration

/-- The error must stop the caller. -/
def isFatal (e : MembershipError) : Bool :=
  e.kind.isFatal

/-- A text as messages quote it. -/
def inQuotes (s : String) : String :=
  String.ofList (Text.quoted s.toList)

/-- What is reported of an error. -/
def message : MembershipError → String
  | violation v => v.message
  | cannotJoin id m => s!"{id} cannot join {m.text}: already a member"
  | candidateKnown id m => s!"secondary candidate {id} is already a member of {m.text}"
  | noMembers => "a complete membership has at least one member"
  | noRealReader request => s!"read round {request.text} has no real reader"
  | manyFetchReaders request => s!"read round {request.text} has more than one fetch reader"
  | sameVersion m other =>
    s!"the existing membership {m.text} has the same version as {other.text} "
      ++ "but different members"
  | versionsDiffer m other =>
    s!"cannot merge statuses of {other.text} into {m.text}: versions differ"
  | noRole id m => s!"{id} has no role in {m.text}"
  | cannotMark id status m => s!"cannot mark {id} as {status.name}: not in {m.text}"
  | unknownForm name => s!"unknown name: {name}"
  | noForm volume m => s!"no {volume.name} segment form for {m.text}"
  | fieldCount expected found content =>
    s!"expected {expected} fields, found {found} in {inQuotes content}"
  | badField field text cause => s!"bad {field} {inQuotes text}: {cause.message}"
  | noPrimary content => s!"no primary in {inQuotes content}"
  | noPort endpoint => s!"endpoint {inQuotes endpoint} has no port"
  | noHost endpoint => s!"endpoint {inQuotes endpoint} has no host"
  | badPort endpoint cause => s!"endpoint {inQuotes endpoint} has bad port: {cause.message}"
  | unknownVolume text => s!"unknown volume type {inQuotes text}"
  | shape defect => defect.message
  | unreadableConfig path reason => s!"failed to read config {path}: {reason}"
  | invalidConfig reason => s!"invalid config JSON: {reason}"
  | emptyStorePath => "store_path must not be empty"

/-- The error with its kind. -/
def describe (e : MembershipError) : String :=
  s!"MembershipError({e.kind.name}): {e.message}"

end MembershipError

end ReplicaQuorum
