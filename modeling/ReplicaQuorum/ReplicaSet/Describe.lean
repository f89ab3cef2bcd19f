import ReplicaQuorum.Encoding
import ReplicaQuorum.ReplicaSet.Content

/-!
# Descriptions

The replica set as a JSON object, for those who inspect it.
-/

namespace ReplicaQuorum.ReplicaSet

/-- The members of the JSON object that describes a replica set. -/
def description (m : ReplicaSet) : List (String × Json) :=
  [("version", m.version.json),
   ("primary", .id m.primary),
   ("temp_primary", .optionalId m.tempPrimary),
   ("secondaries", .ids m.secondaries),
   ("arbiters", .ids m.arbiters),
   ("inactive_secondaries", .ids m.inactive),
   ("joining_secondaries", .ids m.joining),
   ("primary_candidate", .optionalId m.primaryCandidate),
   ("secondary_candidate", .optionalId m.secondaryCandidate),
   ("quorum_updated", .bool m.quorumUpdated),
   ("content", .text (Content.encode m.toRoster))]

/-- The JSON object that describes a replica set. -/
def json (m : ReplicaSet) : Json :=
  .sortedRecord m.description

end ReplicaQuorum.ReplicaSet
