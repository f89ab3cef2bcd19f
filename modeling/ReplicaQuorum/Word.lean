/-!
# Machine words

Counts, versions and identifiers are fixed-width words. A sum that does not fit its word has no
value: it ends as `Overflow`, apart from every error of the domain, and `Fault` joins the two. A
lock that was held at that moment is poisoned, so whoever wants it later gets no value either.
-/

namespace ReplicaQuorum

/-- Identifier of a storage instance that holds a replica. -/
abbrev InstanceId := UInt64

/-- Identifier of a segment, the unit of storage that is replicated. -/
abbrev SegmentId := UInt64

/-- A sum that does not fit its word, and what comes of it. -/
inductive Overflow where
  | addition
  /-- A lock was held when a sum did not fit, and cannot be taken any more. -/
  | poisoned
deriving DecidableEq, Repr

/-- What is reported of a computation that came to no value. -/
def Overflow.message : Overflow → String
  | .addition => "attempt to add with overflow"
  | .poisoned => "called `Result::unwrap()` on an `Err` value: PoisonError \x7b .. \x7d"

/-- The sum of two 32-bit counts, if it fits. -/
def add32 (a b : UInt32) : Except Overflow UInt32 :=
  if a.toNat + b.toNat < UInt32.size then .ok (a + b) else .error .addition

/-- The 64-bit word `n` steps after `a`, if there is one. -/
def advance64 (a : UInt64) (n : Nat) : Except Overflow UInt64 :=
  if a.toNat + n < UInt64.size then .ok (UInt64.ofNat (a.toNat + n)) else .error .addition

/-- A sum of 32-bit counts is the sum of their values. -/
theorem toNat_of_add32 {a b c : UInt32} (h : add32 a b = .ok c) : c.toNat = a.toNat + b.toNat := by
  unfold add32 at h
  split at h
  · next fits =>
    cases h
    rw [UInt32.toNat_add, Nat.mod_eq_of_lt fits]
  · cases h

/-- The word `n` steps after `a` has the value of `a` plus `n`. -/
theorem toNat_of_advance64 {a c : UInt64} {n : Nat} (h : advance64 a n = .ok c) :
    c.toNat = a.toNat + n := by
  unfold advance64 at h
  split at h
  · next fits =>
    cases h
    rw [UInt64.toNat_ofNat', Nat.mod_eq_of_lt fits]
  · cases h

/-- Why an operation gives no answer: an error of the domain, or a sum that does not fit. -/
inductive Fault (ε : Type) where
  | error (e : ε)
  | overflow (o : Overflow)
deriving DecidableEq, Repr

namespace Fault

/-- The outcome of an operation that has errors of the domain only. -/
def ofExcept {ε α : Type} : Except ε α → Except (Fault ε) α
  | .ok a => .ok a
  | .error e => .error (.error e)

/-- The outcome of an operation that can only overflow. -/
def ofChecked {ε α : Type} : Except Overflow α → Except (Fault ε) α
  | .ok a => .ok a
  | .error o => .error (.overflow o)

end Fault

end ReplicaQuorum
