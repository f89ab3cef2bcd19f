import ReplicaQuorum.Proofs.Form.Writable

/-!
# Decisions that stay

More evidence does not take a decision back. A write that goes ahead with some members alive goes
ahead with more of them, and what is decided by some disconnections is decided by more of them. The
rules for disconnections compare sums from below only. A rule for a resend compares them from above,
and where it distinguishes a primary that is gone from one that is alive, every reason to resend
beside the one is a reason behind the other.
-/

namespace ReplicaQuorum

/-! ## Growing counts -/

/-- Two tallies of one round, the second of which counts no less of anything. -/
structure Tally.Grows (t u : Tally) : Prop where
  quorum : u.writeQuorum = t.writeQuorum
  total : u.totalWrite = t.totalWrite
  flag : ∀ flag, u.flag flag = t.flag flag
  term : ∀ term, (t.term term).toNat ≤ (u.term term).toNat

namespace Tally.Grows

variable {t u : Tally}

/-- No sum gets less. -/
lemma sum (grows : t.Grows u) (terms : List Term) : t.sum terms ≤ u.sum terms := by
  induction terms with
  | nil => exact Nat.le_refl 0
  | cons term rest ih => exact Nat.add_le_add (grows.term term) ih

/-- What sums are compared with depends on the round alone. -/
lemma bound (grows : t.Grows u) (bound : Bound) : u.bound bound = t.bound bound := by
  cases bound with
  | literal => rfl
  | quorum | quorumLess => simp only [Tally.bound, grows.quorum]
  | totalWrite => simp only [Tally.bound, grows.total]

/-- Where more members are alive, no less is counted. -/
lemma ofCounts {p s j a p' s' j' a' : UInt32} (v : VolumeType) (hp : p ≤ p') (hs : s ≤ s')
    (hj : j ≤ j') (ha : a ≤ a') :
    (Tally.ofCounts v p s j a).Grows (Tally.ofCounts v p' s' j' a') where
  quorum := rfl
  total := rfl
  flag flag := by cases flag <;> rfl
  term
    | .primary => UInt32.le_iff_toNat_le.1 hp
    | .secondary => UInt32.le_iff_toNat_le.1 hs
    | .joining => UInt32.le_iff_toNat_le.1 hj
    | .arbiter => UInt32.le_iff_toNat_le.1 ha
    | .fetch => Nat.le_refl 0

end Tally.Grows

/-! ## Trends -/

/-- The one way in which a verdict may change while counts grow. -/
inductive Trend where
  | rising
  | falling
deriving DecidableEq, Repr

namespace Trend

variable {trend : Trend} {p q p' q' : Prop}

/-- The opposite way. -/
def flip : Trend → Trend
  | rising => falling
  | falling => rising

/-- The verdict that is kept once it is reached. -/
def settled : Trend → Bool
  | rising => true
  | falling => false

/-- The trend lets `p` become `q`. -/
def Allows (p q : Prop) : Trend → Prop
  | rising => p → q
  | falling => q → p

/-- A verdict that does not change goes every way. -/
lemma Allows.of_iff (same : p ↔ q) : trend.Allows p q := by
  cases trend with
  | rising => exact same.1
  | falling => exact same.2

/-- A negation goes the opposite way. -/
lemma Allows.not (inner : trend.flip.Allows p q) : trend.Allows (¬p) (¬q) := by
  cases trend with
  | rising => exact mt inner
  | falling => exact mt inner

/-- A conjunction goes the way that both of its parts go. -/
lemma Allows.and (left : trend.Allows p q) (right : trend.Allows p' q') :
    trend.Allows (p ∧ p') (q ∧ q') := by
  cases trend with
  | rising => exact And.imp left right
  | falling => exact And.imp left right

/-- A disjunction goes the way that both of its parts go. -/
lemma Allows.or (left : trend.Allows p q) (right : trend.Allows p' q') :
    trend.Allows (p ∨ p') (q ∨ q') := by
  cases trend with
  | rising => exact Or.imp left right
  | falling => exact Or.imp left right

end Trend

namespace Rule

variable {t u : Tally} {rule condition lost few : Rule} {trend : Trend} {b : Bool}

/-- The comparisons of the rule let it change one way only, and no condition chooses among them. -/
def follows : Rule → Trend → Bool
  | always, _ | never, _ | is _, _ => true
  | atLeast _ _, trend => trend = .rising
  | fewer _ _, trend => trend = .falling
  | exactly _ _, _ | when _ _ _, _ => false
  | not rule, trend => rule.follows trend.flip
  | both first second, trend | either first second, trend =>
    first.follows trend && second.follows trend

/-- A rule whose comparisons go one way changes that way only, while no less is counted. -/
lemma allows_of_follows (grows : t.Grows u) (follows : rule.follows trend) :
    trend.Allows (rule.Sat t) (rule.Sat u) := by
  induction rule generalizing trend with
  | always | never => exact .of_iff Iff.rfl
  | is flag => exact .of_iff (by rw [Sat, Sat, grows.flag])
  | atLeast terms bound =>
    obtain rfl : trend = .rising := of_decide_eq_true follows
    show t.bound bound ≤ t.sum terms → u.bound bound ≤ u.sum terms
    rw [grows.bound]
    exact fun enough => Nat.le_trans enough (grows.sum terms)
  | fewer terms bound =>
    obtain rfl : trend = .falling := of_decide_eq_true follows
    show u.sum terms < u.bound bound → t.sum terms < t.bound bound
    rw [grows.bound]
    exact Nat.lt_of_le_of_lt (grows.sum terms)
  | exactly | when => cases follows
  | not rule ih => exact (ih follows).not
  | both first second ih₁ ih₂ =>
    obtain ⟨left, right⟩ := Bool.and_eq_true_iff.1 follows
    exact (ih₁ left).and (ih₂ right)
  | either first second ih₁ ih₂ =>
    obtain ⟨left, right⟩ := Bool.and_eq_true_iff.1 follows
    exact (ih₁ left).or (ih₂ right)

/-- A rule with a condition falls if all its parts do and its first choice holds wherever the second
one does. -/
lemma falls_when (grows : t.Grows u) (asked : condition.follows .falling)
    (yes : lost.follows .falling) (no : few.follows .falling) (more : few.Sat t → lost.Sat t) :
    Trend.falling.Allows ((when condition lost few).Sat t) ((when condition lost few).Sat u) := by
  rintro (⟨holds, left⟩ | ⟨-, right⟩)
  · exact .inl ⟨allows_of_follows grows asked holds, allows_of_follows grows yes left⟩
  · have right : few.Sat t := allows_of_follows grows no right
    -- with fewer members the condition may hold that did not
    by_cases holds : condition.Sat t
    · exact .inl ⟨holds, more right⟩
    · exact .inr ⟨holds, right⟩

/-- A settled verdict is never reversed, and is reached again where the sums fit. -/
lemma settled_of_allows (allows : trend.Allows (rule.Sat t) (rule.Sat u))
    (before : rule.holds t = .ok trend.settled) :
    rule.holds u ≠ .ok (!trend.settled) ∧ (rule.Fits u → rule.holds u = .ok trend.settled) := by
  have earlier := eq_true_iff_sat before
  have kept (b : Bool) (after : rule.holds u = .ok b) : b = trend.settled := by
    have later := eq_true_iff_sat after
    cases trend with
    | rising => exact later.2 (allows (earlier.1 rfl))
    | falling =>
      refine Bool.eq_false_iff.2 fun holds => ?_
      exact Bool.false_ne_true (earlier.2 (allows (later.1 holds)))
  refine ⟨fun reversed => (Bool.not_eq_self _).1 (kept _ reversed), fun fits => ?_⟩
  obtain ⟨b, after⟩ := exists_holds fits
  exact after.trans (congrArg Except.ok (kept b after))

end Rule

namespace Form

variable {f : Form} {v : VolumeType} {t u : Tally} {p s j a p' s' j' a' : UInt32}

/-- The rules for known disconnections compare from below only. -/
lemma follows_done (f : Form) :
    ∀ rule ∈ [f.policy.writeDone, f.policy.readDone], rule.follows .rising := by
  cases f <;> decide

/-- With fewer members alive there is no less reason to resend a write. -/
lemma falls_writeResend (grows : t.Grows u) (quorum : 1 ≤ t.writeQuorum.toNat) :
    Trend.falling.Allows (f.policy.writeResend.Sat t) (f.policy.writeResend.Sat u) := by
  cases f
  case pss | psj =>
    exact Rule.falls_when grows rfl rfl rfl fun few => Nat.lt_of_lt_of_le few quorum
  case pssai =>
    exact Rule.falls_when grows rfl rfl rfl fun few => Nat.lt_succ_of_lt few
  case psjai =>
    refine Rule.falls_when grows rfl rfl rfl fun few => ?_
    exact .inl (Nat.lt_of_le_of_lt (Nat.le_add_right _ _) few)
  -- no other form chooses between two comparisons
  all_goals exact Rule.allows_of_follows grows rfl

/-- A write that goes ahead goes ahead with more members alive. -/
lemma writable_stays (hp : p ≤ p') (hs : s ≤ s') (hj : j ≤ j')
    (goesAhead : f.writable v p s j = .ok true) :
    f.writable v p' s' j' ≠ .ok false ∧
      (p'.toNat + s'.toNat + j'.toNat < UInt32.size → f.writable v p' s' j' = .ok true) := by
  have grows := Tally.Grows.ofCounts v hp hs hj (UInt32.le_refl 0)
  have quorum : 1 ≤ v.writeQuorum.toNat := by cases v <;> decide
  rw [writable_eq_ok_iff] at goesAhead
  obtain ⟨kept, again⟩ := Rule.settled_of_allows (falls_writeResend grows quorum) goesAhead
  rw [Ne, writable_eq_ok_iff, writable_eq_ok_iff]
  exact ⟨kept, fun fits => again (fits_ofCounts f.writeResend_mem fits)⟩

/-- What is decided by disconnections is decided by more of them. -/
lemma done_stays {rule : Rule} (done : rule ∈ [f.policy.writeDone, f.policy.readDone])
    (hp : p ≤ p') (hs : s ≤ s') (hj : j ≤ j') (ha : a ≤ a')
    (decided : rule.holds (.ofCounts v p s j a) = .ok true) :
    rule.holds (.ofCounts v p' s' j' a') ≠ .ok false ∧
      (p'.toNat + s'.toNat + j'.toNat + a'.toNat < UInt32.size →
        rule.holds (.ofCounts v p' s' j' a') = .ok true) := by
  have grows := Tally.Grows.ofCounts v hp hs hj ha
  have allows := Rule.allows_of_follows grows (f.follows_done rule done)
  have mem : rule ∈ f.policy.rules := List.mem_of_mem_drop (i := 4) done
  obtain ⟨kept, again⟩ := Rule.settled_of_allows allows decided
  exact ⟨kept, fun fits => again (fits_ofCounts mem fits)⟩

/-- A write that goes ahead goes ahead with more members alive, and what some disconnected members
decide, a write or a read, is decided with more of them. The decision is never reversed, and it is
made again as long as the counts together fit a word. -/
theorem decisions_stay (hp : p ≤ p') (hs : s ≤ s') (hj : j ≤ j') (ha : a ≤ a') :
    (f.writable v p s j = .ok true → f.writable v p' s' j' ≠ .ok false ∧
      (p'.toNat + s'.toNat + j'.toNat < UInt32.size → f.writable v p' s' j' = .ok true)) ∧
    (f.writeDone v p s j a = .ok true → f.writeDone v p' s' j' a' ≠ .ok false ∧
      (p'.toNat + s'.toNat + j'.toNat + a'.toNat < UInt32.size →
        f.writeDone v p' s' j' a' = .ok true)) ∧
    (f.readDone v p s j a = .ok true → f.readDone v p' s' j' a' ≠ .ok false ∧
      (p'.toNat + s'.toNat + j'.toNat + a'.toNat < UInt32.size →
        f.readDone v p' s' j' a' = .ok true)) := by
  refine ⟨writable_stays hp hs hj, done_stays (f := f) ?write hp hs hj ha,
    done_stays (f := f) ?read hp hs hj ha⟩
  case write => exact List.mem_cons_self
  case read => exact List.mem_cons_of_mem _ List.mem_cons_self

/-- Without its primary a large volume can write to a secondary and a joining secondary. With it, it
still can, though another comparison decides. -/
theorem decisions_stay_beside_primary :
    ((0 : UInt32) ≤ 1 ∧ (1 : UInt32) ≤ 1 ∧ (0 : UInt32) ≤ 4000000000 ∧
      (1 : UInt32).toNat + (1 : UInt32).toNat + (1 : UInt32).toNat
        + (4000000000 : UInt32).toNat < UInt32.size) ∧
    (psjai.writable .large 0 1 1 = .ok true ∧ psjai.writable .large 1 1 1 = .ok true) ∧
    (psjai.writeDone .large 0 1 1 0 = .ok true ∧
      psjai.writeDone .large 1 1 1 4000000000 = .ok true) ∧
    (psjai.readDone .large 0 1 1 0 = .ok true ∧
      psjai.readDone .large 1 1 1 4000000000 = .ok true) := by
  have hp : (0 : UInt32) ≤ 1 := by decide
  have hs : (1 : UInt32) ≤ 1 := by decide
  have ha : (0 : UInt32) ≤ 4000000000 := by decide
  have fits : (1 : UInt32).toNat + (1 : UInt32).toNat + (1 : UInt32).toNat
      + (4000000000 : UInt32).toNat < UInt32.size := by decide
  have goesAhead : psjai.writable .large 0 1 1 = .ok true := by rfl
  have decidedWrite : psjai.writeDone .large 0 1 1 0 = .ok true := by rfl
  have decidedRead : psjai.readDone .large 0 1 1 0 = .ok true := by rfl
  obtain ⟨writable, writeDone, readDone⟩ := decisions_stay (f := psjai) (v := .large) hp hs hs ha
  exact ⟨⟨hp, hs, ha, fits⟩, ⟨goesAhead, (writable goesAhead).2 (by decide)⟩,
    ⟨decidedWrite, (writeDone decidedWrite).2 fits⟩, decidedRead, (readDone decidedRead).2 fits⟩

end Form

end ReplicaQuorum
