import ReplicaQuorum.Json

/-!
# Counters

What a registry did since it was created, counted in 64-bit words that wrap.
-/

namespace ReplicaQuorum

/-- What is counted. -/
inductive Counter where
  | transitionsApplied
  | transitionsRejected
  | statusMovesRejected
  | resendDecisions
  | installsAccepted
  | installsRefused
  | snapshotsPersisted
deriving DecidableEq, Repr

namespace Counter

/-- All counters in the order in which they are reported. -/
def all : List Counter :=
  [transitionsApplied, transitionsRejected, statusMovesRejected, resendDecisions,
   installsAccepted, installsRefused, snapshotsPersisted]

/-- The name of the counter. -/
def name : Counter → String
  | transitionsApplied => "transitions_applied"
  | transitionsRejected => "transitions_rejected"
  | statusMovesRejected => "status_moves_rejected"
  | resendDecisions => "resend_decisions"
  | installsAccepted => "installs_accepted"
  | installsRefused => "installs_refused"
  | snapshotsPersisted => "snapshots_persisted"

/-- The counter with a name. -/
def ofName? (name : String) : Option Counter :=
  all.find? fun c => c.name = name

end Counter

/-- The counts of a registry's work. -/
structure Counters where
  transitionsApplied : UInt64 := 0
  transitionsRejected : UInt64 := 0
  statusMovesRejected : UInt64 := 0
  resendDecisions : UInt64 := 0
  installsAccepted : UInt64 := 0
  installsRefused : UInt64 := 0
  snapshotsPersisted : UInt64 := 0
deriving DecidableEq, Repr

namespace Counters

/-- The count of a counter. -/
def get (c : Counters) : Counter → UInt64
  | .transitionsApplied => c.transitionsApplied
  | .transitionsRejected => c.transitionsRejected
  | .statusMovesRejected => c.statusMovesRejected
  | .resendDecisions => c.resendDecisions
  | .installsAccepted => c.installsAccepted
  | .installsRefused => c.installsRefused
  | .snapshotsPersisted => c.snapshotsPersisted

/-- The counts with one counter raised by one. -/
def raise (c : Counters) : Counter → Counters
  | .transitionsApplied => { c with transitionsApplied := c.transitionsApplied + 1 }
  | .transitionsRejected => { c with transitionsRejected := c.transitionsRejected + 1 }
  | .statusMovesRejected => { c with statusMovesRejected := c.statusMovesRejected + 1 }
  | .resendDecisions => { c with resendDecisions := c.resendDecisions + 1 }
  | .installsAccepted => { c with installsAccepted := c.installsAccepted + 1 }
  | .installsRefused => { c with installsRefused := c.installsRefused + 1 }
  | .snapshotsPersisted => { c with snapshotsPersisted := c.snapshotsPersisted + 1 }

/-- The counts as a JSON object. -/
def json (c : Counters) : Json :=
  Json.record (Counter.all.map fun counter => (counter.name, Json.nat (c.get counter).toNat))

/-- Raising a counter adds one to its count and leaves the others alone. -/
theorem get_raise (c : Counters) (raised counter : Counter) :
    (c.raise raised).get counter = c.get counter + if counter = raised then 1 else 0 := by
  cases raised <;> cases counter <;> simp [raise, get]

end Counters

end ReplicaQuorum
