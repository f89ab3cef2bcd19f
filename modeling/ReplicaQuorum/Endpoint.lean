/-!
# Network addresses

The host and port of an instance. An address is carried along for whoever contacts the instance and
takes no part in any decision.
-/

namespace ReplicaQuorum

/-- A host and a port. -/
structure Endpoint where
  host : String
  port : UInt16
deriving DecidableEq, Repr

/-- The address as `host:port`. -/
def Endpoint.text (e : Endpoint) : String :=
  s!"{e.host}:{e.port}"

end ReplicaQuorum
