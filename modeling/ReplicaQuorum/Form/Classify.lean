import ReplicaQuorum.Form
import ReplicaQuorum.VolumeType

/-!
# Classification

The form of a membership follows from the volume type and the number of members in each role.
Inactive secondaries count only up to the slots that the members in use leave free. Layouts that the
volume type cannot hold have no form.
-/

namespace ReplicaQuorum

namespace VolumeType

/-- The form of a regular volume. -/
def classifyRegular : (secondaries joining arbiters inactive : Nat) → Option Form
  | 2, 0, 0, 0 => some .pss
  | 1, 1, 0, 0 => some .psj
  | 1, 0, 0, 1 => some .psi
  | 1, 0, 0, 0 => some .ps
  | 0, 2, 0, 0 => some .pjj
  | 0, 1, 0, 1 => some .pji
  | 0, 1, 0, 0 => some .pj
  | 0, 0, 0, 2 => some .pii
  | 0, 0, 0, 1 => some .pi
  | _, _, _, _ => none

/-- The form of a small volume. Down to two copies, the inactive members make no difference. -/
def classifySmall : (secondaries joining arbiters inactive : Nat) → Option Form
  | 1, 0, 1, 0 => some .psa
  | 1, 0, 0, _ => some .tps
  | 0, 1, 1, 0 => some .pja
  | 0, 1, 0, _ => some .tpj
  | 0, 0, 1, 1 => some .pia
  | 0, 0, 1, 0 => some .pa
  | 0, 0, 0, 1 => some .tpi
  | 0, 0, 0, 2 => some .tpi
  | _, _, _, _ => none

/-- The form of a large volume. -/
def classifyLarge : (secondaries joining arbiters inactive : Nat) → Option Form
  | 2, 0, 2, 0 => some .pssaa
  | 2, 0, 1, 1 => some .pssai
  | 2, 0, 0, 2 => some .pssii
  | 1, 1, 2, 0 => some .psjaa
  | 1, 1, 1, 1 => some .psjai
  | 1, 1, 0, 2 => some .psjii
  | 1, 0, 2, 1 => some .psiaa
  | 1, 0, 1, 2 => some .psiai
  | 1, 0, 0, 3 => some .psiii
  | 0, 2, 2, 0 => some .pjjaa
  | 0, 2, 1, 1 => some .pjjai
  | 0, 2, 0, 2 => some .pjjii
  | 0, 1, 2, 1 => some .pjiaa
  | 0, 1, 1, 2 => some .pjiai
  | 0, 1, 0, 3 => some .pjiii
  | 0, 0, 2, 2 => some .piiaa
  | 0, 0, 1, 3 => some .piiai
  | 0, 0, 0, 4 => some .piiii
  | 1, 0, 2, 0 => some .psaa
  | 1, 0, 1, 1 => some .psai
  | 1, 0, 0, 2 => some .psii
  | 0, 0, 2, 1 => some .piaa
  | 0, 0, 1, 2 => some .piai
  | 0, 0, 0, 3 => some .piii
  | 0, 1, 2, 0 => some .pjaa
  | 0, 1, 1, 1 => some .pjai
  | 0, 1, 0, 2 => some .pjii
  | 0, 0, 2, 0 => some .paa
  | _, _, _, _ => none

/-- The form with the given number of members in each role besides the primary. -/
def classify (v : VolumeType) (secondaries joining arbiters inactive : Nat) : Option Form :=
  let alive := secondaries + joining + arbiters
  if v.slots < alive then none
  else
    let inactive := min inactive (v.slots - alive)
    match v with
    | regular => classifyRegular secondaries joining arbiters inactive
    | small => classifySmall secondaries joining arbiters inactive
    | large => classifyLarge secondaries joining arbiters inactive

/-- The form with the given word-sized counts, whose sum of members in use has to fit a word. -/
def classifyCounts (v : VolumeType) (secondaries joining arbiters inactive : UInt64) :
    Except Overflow (Option Form) := do
  let data ← advance64 secondaries joining.toNat
  let _ ← advance64 data arbiters.toNat
  .ok (v.classify secondaries.toNat joining.toNat arbiters.toNat inactive.toNat)

end VolumeType

end ReplicaQuorum
