import ReplicaQuorum.Proofs.Form.Read
import ReplicaQuorum.Proofs.Form.Write

/-!
# Resending

A look at the members still alive tells whether a round has to be sent again. Each form has one rule
for that and another one for the success of the round, and they agree: where the flags of the round
tell which roles have nobody alive, a form of three members resends a write exactly if the write
fails with everybody alive answering well, and every form but one does so for reads. The exception
is a form that goes on reading with the primary alone although two other members are needed.
-/

namespace ReplicaQuorum

/-- Opposite verdicts are each other's negation. -/
lemma eq_not_of_iff {a b : Bool} (opposite : a ↔ ¬b) : b = !a := by
  cases a <;> cases b <;> simp at opposite ⊢

namespace Rule

variable {t : Tally} {terms : List Term} {term : Term} {bound : Bound} {flag : Flag}
  {condition rule lost few behind beside : Rule}

/-! ## Opposite rules -/

/-- Fewer than a bound is not as many as the bound. -/
lemma fewer_iff : (fewer terms bound).Sat t ↔ ¬(atLeast terms bound).Sat t :=
  Nat.not_le.symm

/-- The primary is gone or others are too few exactly if they do not stand beside each other. -/
lemma goneOrFewer_iff : (either primaryGone (fewer terms bound)).Sat t ↔
    ¬(both primaryAlive (atLeast terms bound)).Sat t := by
  rw [Sat, Sat, not_and_or]
  exact or_congr fewer_iff fewer_iff

/-- Rules that are opposite on either side of a condition are opposite. -/
lemma when_iff_not (yes : condition.Sat t → (lost.Sat t ↔ ¬behind.Sat t))
    (no : ¬condition.Sat t → (few.Sat t ↔ ¬beside.Sat t)) :
    (when condition lost few).Sat t ↔ ¬(when condition behind beside).Sat t := by
  by_cases holds : condition.Sat t
  · simp [Sat, holds, yes holds]
  · simp [Sat, holds, no holds]

/-- A condition on a role that is waived where the role is down always holds. -/
lemma waived_of_seen (seen : t.flag flag ↔ (t.term term).toNat = 0) :
    (either (is flag) (atLeast [term] (.literal 1))).Sat t := by
  show t.flag flag ∨ 1 ≤ (t.term term).toNat
  rw [seen]
  omega

/-! ## The primary -/

section Primary

variable (seen : t.primaryDown ↔ t.primary.toNat = 0)

include seen

/-- A primary that is counted has been in the round, so to be up is to be alive. -/
lemma primaryUp_iff : primaryUp.Sat t ↔ primaryAlive.Sat t := by
  show ¬t.primaryDown ↔ 1 ≤ t.primary.toNat
  rw [seen]
  omega

/-- To be up and alive is to be alive. -/
lemma primaryUpAndAlive_iff : primaryUpAndAlive.Sat t ↔ primaryAlive.Sat t := by
  rw [primaryUpAndAlive, Sat, primaryUp_iff seen, and_self]

/-- Beside a primary that is alive, that it is up asks for nothing more. -/
lemma both_primaryUp_iff :
    (both primaryUp (both primaryAlive rule)).Sat t ↔ (both primaryAlive rule).Sat t := by
  rw [Sat, Sat, primaryUp_iff seen, and_self_left]

/-- Two rules for a failover are opposite if they are behind a primary that is gone, and beside one
that is alive. -/
lemma failover_iff (gone : t.primary.toNat = 0 → (lost.Sat t ↔ ¬behind.Sat t))
    (alive : t.primary.toNat ≠ 0 → (few.Sat t ↔ ¬beside.Sat t)) :
    (when primaryGone lost few).Sat t ↔
      ¬(when primaryDown behind (both primaryAlive beside)).Sat t := by
  have down : primaryDown.Sat t ↔ primaryGone.Sat t := seen.trans Nat.lt_one_iff.symm
  have same : (when primaryGone lost few).Sat t ↔ (when primaryDown lost few).Sat t := by
    rw [Sat, Sat, down]
  rw [same]
  refine when_iff_not (fun holds => gone (seen.1 holds)) fun fails => ?_
  have counted : primaryAlive.Sat t := (primaryUp_iff seen).1 fails
  rw [alive fun zero => fails (seen.2 zero), Sat, and_iff_right counted]

end Primary

end Rule

namespace Form

open Rule

variable {f : Form} {v : VolumeType} {t : Tally} {r : Round} {m : ReplicaSet}
  {primary secondaries joining arbiters : UInt32} {readers : ReaderCounts}

/-- The members alive are seated, too. -/
lemma seated_ofCounts (form : m.form v = .ok f) (one : primary.toNat ≤ 1)
    (alive : secondaries.toNat ≤ m.secondaries.size) (joined : joining.toNat ≤ m.joining.size)
    (witnesses : arbiters.toNat ≤ m.arbiters.size) :
    f.Seated ((Tally.ofCounts v primary secondaries joining arbiters).observe r) := by
  have confirmed : (0 : UInt32).toNat + secondaries.toNat ≤ m.secondaries.size :=
    (Nat.zero_add _).trans_le alive
  rw [← ofReaders_of_check]
  exact (seated_ofReaders form one confirmed joined witnesses).2

/-- On members that are seated every rule of the form has a verdict. -/
lemma Seated.exists_verdict {rule : Rule} (seated : f.Seated t) (mem : rule ∈ f.policy.rules) :
    ∃ verdict, rule.holds t = .ok verdict :=
  exists_holds (fits_of_sum_lt mem seated.sum_lt)

/-! ## Writes -/

/-- A form of three members resends a write exactly if it fails with everybody alive. -/
lemma sat_writeResend_iff (three : f ∉ fiveMember) (seated : f.Seated t)
    (noPrimary : t.primaryDown ↔ t.primary.toNat = 0)
    (noSecondary : t.secondaryDown ↔ t.secondary.toNat = 0)
    (noJoining : t.joiningDown ↔ t.joining.toNat = 0) :
    f.policy.writeResend.Sat t ↔ ¬f.policy.writeMerge.Sat t := by
  cases f
  case pss => exact failover_iff noPrimary (fun _ => fewer_iff) fun _ => fewer_iff
  case psj =>
    refine failover_iff noPrimary (fun _ => fewer_iff) fun _ => ?_
    show t.secondary.toNat + t.joining.toNat < 1 ↔
      ¬(t.secondaryDown ∧ 1 ≤ t.joining.toNat ∨ ¬t.secondaryDown ∧ 1 ≤ t.secondary.toNat)
    rw [noSecondary]
    omega
  case psi =>
    have one : t.primary.toNat ≤ 1 := seated.primary
    have single : t.secondary.toNat ≤ 1 := seated.secondaries
    have two : t.writeQuorum.toNat = 2 := congrArg UInt32.toNat seated.quorum
    refine Iff.trans ?_ (not_congr (both_primaryUp_iff noPrimary)).symm
    show t.primary.toNat + t.secondary.toNat < t.writeQuorum.toNat ↔
      ¬(1 ≤ t.primary.toNat ∧ 1 ≤ t.secondary.toNat)
    omega
  case psa =>
    show t.primary.toNat + t.secondary.toNat < 1 ↔
      ¬(t.primaryDown ∧ 1 ≤ t.secondary.toNat ∨
        ¬t.primaryDown ∧ 1 ≤ t.primary.toNat ∧ (t.secondaryDown ∨ 1 ≤ t.secondary.toNat))
    rw [noPrimary, noSecondary]
    omega
  case pjj => exact iff_of_true trivial id
  case pii | pia | tpi | pi | pa =>
    exact fewer_iff.trans (not_congr (primaryUpAndAlive_iff noPrimary)).symm
  case ps | tps =>
    have waived : (either (is .secondaryDown) (atLeast [.secondary] (.literal 1))).Sat t :=
      waived_of_seen noSecondary
    refine Iff.trans ?_ (not_congr (both_primaryUp_iff noPrimary)).symm
    rw [Sat, and_iff_left waived]
    exact fewer_iff
  case pji | pj | pja | tpj =>
    have waived : (either (is .joiningDown) (atLeast [.joining] (.literal 1))).Sat t :=
      waived_of_seen noJoining
    refine Iff.trans ?_ (not_congr (both_primaryUp_iff noPrimary)).symm
    rw [Sat, and_iff_left waived]
    exact fewer_iff
  all_goals exact absurd (by decide) three

/-- Only a large volume has forms of five members. -/
lemma volume_eq_large (five : f ∈ fiveMember) (form : m.form v = .ok f) : v = .large := by
  obtain ⟨-, quorum⟩ := VolumeType.seats_of_classify (ReplicaSet.form_eq_ok_iff.1 form)
  rw [if_pos five] at quorum
  revert quorum
  cases v <;> decide

/-- A write that is not told to resend succeeds if everybody alive answers well. In a volume of
three members it is only told to if it would fail. -/
theorem unresent_write_can_be_won (form : m.form v = .ok f) (one : primary.toNat ≤ 1)
    (alive : secondaries.toNat ≤ m.secondaries.size) (joined : joining.toNat ≤ m.joining.size)
    (noPrimary : r.isDown .primary ↔ primary = 0)
    (noSecondary : r.isDown .secondary ↔ secondaries = 0)
    (noJoining : r.isDown .joiningSecondary ↔ joining = 0)
    (asked : r.totalWrite.toNat = primary.toNat + secondaries.toNat + joining.toNat)
    (unset : r.resendDirectly = false) :
    ∃ next success,
      (f.progressWrite v primary secondaries joining r).value = .ok next ∧
      (f.mergeWrite v primary secondaries joining r).value = .ok success ∧
      (f.mergeWrite v primary secondaries joining next).value = .ok success ∧
      (next.resendDirectly = false → success = true) ∧
      (v ≠ .large → next.resendDirectly = true → success = false) := by
  have seated : f.Seated (.ofWriters v primary secondaries joining r) :=
    seated_ofCounts form one alive joined (Nat.zero_le _)
  obtain ⟨resend, told⟩ : ∃ resend, f.policy.writeResend.holds _ = .ok resend :=
    seated.exists_verdict (by simp [Policy.rules])
  obtain ⟨success, merged⟩ : ∃ success, f.policy.writeMerge.holds _ = .ok success :=
    seated.exists_verdict (by simp [Policy.rules])
  have resends := eq_true_iff_sat told
  have succeeds := eq_true_iff_sat merged
  refine ⟨{ r with resendDirectly := r.resendDirectly || resend }, success,
    by rw [progressWrite_value, told]; rfl, mergeWrite_value.trans merged,
    mergeWrite_value.trans merged, ?_⟩
  rw [unset, Bool.false_or]
  by_cases five : f ∈ fiveMember
  · -- everybody alive was asked to write, and answers
    have won : success = true := by
      rw [succeeds, writeMerge_of_five five, allWritten_iff]
      exact asked.symm
    exact ⟨fun _ => won, fun other => absurd (volume_eq_large five form) other⟩
  · have agree := sat_writeResend_iff five seated (noPrimary.trans UInt32.toNat_inj.symm)
      (noSecondary.trans UInt32.toNat_inj.symm) (noJoining.trans UInt32.toNat_inj.symm)
    rw [← resends, ← succeeds] at agree
    obtain rfl : success = !resend := eq_not_of_iff agree
    exact ⟨fun goesOn => congrArg Bool.not goesOn, fun _ resent => congrArg Bool.not resent⟩

/-- With its secondary down, a regular volume goes on with a write that the primary and the joining
secondary win. -/
theorem unresent_write_can_be_won_joining :
    ∃ (m : ReplicaSet) (r next : Round),
      Content.decode "1,0,1,-1,2,,,3,-1,-1" = .ok m ∧ m.form .regular = .ok .psj ∧
      r.participants.map (fun p => (p.id, p.status)) = [(1, .primary), (3, .joiningSecondary)] ∧
      ((1 : UInt32).toNat ≤ 1 ∧ (0 : UInt32).toNat ≤ m.secondaries.size ∧
        (1 : UInt32).toNat ≤ m.joining.size ∧ (r.isDown .primary ↔ (1 : UInt32) = 0) ∧
        (r.isDown .secondary ↔ (0 : UInt32) = 0) ∧
        (r.isDown .joiningSecondary ↔ (1 : UInt32) = 0) ∧
        r.totalWrite.toNat = (1 : UInt32).toNat + (0 : UInt32).toNat + (1 : UInt32).toNat ∧
        r.resendDirectly = false) ∧
      (psj.progressWrite .regular 1 0 1 r).value = .ok next ∧ next.resendDirectly = false ∧
      (psj.mergeWrite .regular 1 0 1 next).value = .ok true := by
  let m : ReplicaSet := .ofRoster
    { version := ⟨1, 0⟩, primary := 1, secondaries := .ofList [2], joining := .ofList [3] }
  let asked : Round := { totalWrite := 2 }
  let r : Round := asked
    |>.add ⟨1, ⟨"first", 1⟩, .primary, none⟩
    |>.add ⟨3, ⟨"third", 1⟩, .joiningSecondary, none⟩
  have content : Content.decode "1,0,1,-1,2,,,3,-1,-1" = .ok m := by rfl
  have form : m.form .regular = .ok .psj := by rfl
  have one : (1 : UInt32).toNat ≤ 1 := by decide
  have alive : (0 : UInt32).toNat ≤ m.secondaries.size := by decide
  have joined : (1 : UInt32).toNat ≤ m.joining.size := by decide
  have noPrimary : r.isDown .primary ↔ (1 : UInt32) = 0 := by decide
  have noSecondary : r.isDown .secondary ↔ (0 : UInt32) = 0 := by decide
  have noJoining : r.isDown .joiningSecondary ↔ (1 : UInt32) = 0 := by decide
  have total : r.totalWrite.toNat
    = (1 : UInt32).toNat + (0 : UInt32).toNat + (1 : UInt32).toNat := by rfl
  obtain ⟨next, success, progressed, -, merged, won, -⟩ := unresent_write_can_be_won form one alive
    joined noPrimary noSecondary noJoining total rfl
  have same : (psj.progressWrite .regular 1 0 1 r).value = .ok r := by rfl
  obtain rfl : next = r := Except.ok.inj (progressed.symm.trans same)
  exact ⟨m, r, r, content, form, by rfl,
    ⟨one, alive, joined, noPrimary, noSecondary, noJoining, total, rfl⟩,
    same, rfl, merged.trans (congrArg Except.ok (won rfl))⟩

/-! ## Reads -/

/-- The round of a read once it is known whether it has to be sent again. -/
def readGoesOn (f : Form) (r : Round) (resend : Bool) : Round :=
  if resend then { r with resendDirectly := true }
  else if f.policy.trimsChecks then r.dropChecks else r

/-- A look at a read asks the rule for a resend and goes on with its verdict. -/
lemma progressRead_value : (f.progressRead v primary secondaries joining arbiters r).value
    = (f.policy.readResend.holds
        ((Tally.ofCounts v primary secondaries joining arbiters).observe r)).map
          (f.readGoesOn r) := by
  rw [progressRead]
  generalize f.policy.readResend.holds _ = verdict
  rcases verdict with o | _ | _ <;> rfl

/-- A resend is asked for if it was before or if it is now. -/
lemma resendDirectly_readGoesOn (resend : Bool) :
    (f.readGoesOn r resend).resendDirectly = (r.resendDirectly || resend) := by
  rw [readGoesOn]
  split
  · next resent => rw [resent, Bool.or_true]
  · next goesOn =>
    rw [Bool.eq_false_iff.2 goesOn, Bool.or_false]
    split <;> rfl

/-- Whether a secondary was met that is down stays recorded as it was. -/
lemma metReadDownSecondary_readGoesOn (resend : Bool) :
    (f.readGoesOn r resend).metReadDownSecondary = r.metReadDownSecondary := by
  rw [readGoesOn]
  split
  · rfl
  · split <;> rfl

/-- Whether a read is resent does not depend on who would return data. -/
lemma sat_readResend_ofReaders :
    f.policy.readResend.Sat (.ofReaders v primary readers joining arbiters r) ↔
      f.policy.readResend.Sat
        (.observe (.ofCounts v primary (readers.fetch + readers.check) joining arbiters) r) := by
  cases f <;> exact Iff.rfl

/-- The primary of a form that needs two other members is the only member left. -/
def IsLeftAlone (f : Form) (t : Tally) : Prop :=
  f = psjai ∧ t.primary.toNat = 1 ∧ t.secondary.toNat + t.joining.toNat + t.arbiter.toNat = 0

/-- A form resends a read exactly if it fails with everybody alive, unless the primary is left
alone. -/
lemma sat_readResend_iff (seated : f.Seated t) (seen : t.primaryDown ↔ t.primary.toNat = 0)
    (fetching : 1 ≤ t.secondary.toNat → 1 ≤ t.fetch.toNat) (company : ¬f.IsLeftAlone t) :
    f.policy.readResend.Sat t ↔ ¬f.policy.readMerge.Sat t := by
  have fetched : t.fetch.toNat ≤ t.secondary.toNat := seated.fetched
  cases f
  case pss =>
    have two : t.writeQuorum.toNat = 2 := congrArg UInt32.toNat seated.quorum
    refine failover_iff seen (fun _ => when_iff_not (fun _ => fewer_iff) fun _ => ?_)
      fun _ => fewer_iff
    show t.secondary.toNat < t.writeQuorum.toNat ↔
      ¬(1 ≤ t.fetch.toNat ∧ t.writeQuorum.toNat ≤ t.secondary.toNat)
    omega
  case psj => exact failover_iff seen (fun _ => fewer_iff) fun _ => fewer_iff
  case psa => exact when_iff_not (fun _ => fewer_iff) fun _ => goneOrFewer_iff
  case pssaa | pssai =>
    -- arbiters alone are no quorum, so one of the readers is a secondary that returns data
    have three : t.writeQuorum.toNat = 3 := congrArg UInt32.toNat seated.quorum
    have arbiters : t.arbiter.toNat ≤ 2 := seated.arbiters.trans (by decide)
    refine failover_iff seen (fun _ => ?_) fun _ => fewer_iff
    show t.secondary.toNat + t.arbiter.toNat < t.writeQuorum.toNat ↔
      ¬(1 ≤ t.fetch.toNat ∧ t.writeQuorum.toNat ≤ t.secondary.toNat + t.arbiter.toNat)
    omega
  case psiaa =>
    have three : t.writeQuorum.toNat = 3 := congrArg UInt32.toNat seated.quorum
    have secondaries : t.secondary.toNat ≤ 1 := seated.secondaries
    have arbiters : t.arbiter.toNat ≤ 2 := seated.arbiters
    refine failover_iff seen (fun _ => ?_) fun _ => fewer_iff
    show t.secondary.toNat < 1 ∨ t.arbiter.toNat < 2 ↔
      ¬(1 ≤ t.fetch.toNat ∧ t.writeQuorum.toNat ≤ t.secondary.toNat + t.arbiter.toNat)
    omega
  case psaa =>
    have three : t.writeQuorum.toNat = 3 := congrArg UInt32.toNat seated.quorum
    have secondaries : t.secondary.toNat ≤ 1 := seated.secondaries
    have arbiters : t.arbiter.toNat ≤ 2 := seated.arbiters
    refine failover_iff seen (fun _ => ?_) fun _ => fewer_iff
    show t.secondary.toNat < 1 ∨ t.arbiter.toNat < 2 ↔
      ¬t.writeQuorum.toNat ≤ t.fetch.toNat + t.arbiter.toNat
    omega
  case psjaa =>
    refine failover_iff seen (fun _ => ?_) fun _ => fewer_iff
    show t.secondary.toNat < 1 ∨ t.joining.toNat + t.arbiter.toNat < 2 ↔
      ¬(1 ≤ t.fetch.toNat ∧ 2 ≤ t.joining.toNat + t.arbiter.toNat)
    omega
  case psjai =>
    have one : t.primary.toNat ≤ 1 := seated.primary
    refine failover_iff seen (fun _ => ?_) fun alive => ?_
    · show t.secondary.toNat < 1 ∨ t.joining.toNat + t.arbiter.toNat < 2 ↔
        ¬(1 ≤ t.fetch.toNat ∧ 2 ≤ t.joining.toNat + t.arbiter.toNat)
      omega
    · have beside : t.secondary.toNat + t.joining.toNat + t.arbiter.toNat ≠ 0 :=
        fun nobody => company ⟨rfl, by omega, nobody⟩
      show 1 ≤ t.secondary.toNat + (t.joining.toNat + t.arbiter.toNat) ∧
          t.secondary.toNat + (t.joining.toNat + t.arbiter.toNat) < 2 ↔
        ¬2 ≤ t.secondary.toNat + (t.joining.toNat + t.arbiter.toNat)
      omega
  case psjii =>
    have one : t.primary.toNat ≤ 1 := seated.primary
    have three : t.writeQuorum.toNat = 3 := congrArg UInt32.toNat seated.quorum
    have secondaries : t.secondary.toNat ≤ 1 := seated.secondaries
    have joining : t.joining.toNat ≤ 1 := seated.joining
    show t.primary.toNat < 1 ∨ t.secondary.toNat + t.joining.toNat < 2 ↔
      ¬t.primary.toNat + (t.secondary.toNat + t.joining.toNat) = t.writeQuorum.toNat
    omega
  case piiaa =>
    have joining : t.joining.toNat ≤ 0 := seated.joining
    show t.primary.toNat < 1 ∨ t.arbiter.toNat < 2 ↔
      ¬(1 ≤ t.primary.toNat ∧ 2 ≤ t.joining.toNat + t.arbiter.toNat)
    omega
  -- the primary decides, alone or with a number of others, whatever else the flags tell
  case pji | pj | pja | tpj | pjj | pii | pia | tpi | pi => exact fewer_iff
  case psi | ps | tps | pa =>
    exact fewer_iff.trans (not_congr (primaryUpAndAlive_iff seen)).symm
  case pssii | pjjaa => exact goneOrFewer_iff.trans (not_congr (both_primaryUp_iff seen)).symm
  case psiai | psai | pjjai | pjjii | pjiaa | pjiai | pjai | pjaa | piaa | paa =>
    exact goneOrFewer_iff
  case psiii | pjiii | piiai | piiii | psii | piai | piii | pjii => exact iff_of_true trivial id

/-- Left alone, the primary does not win the read. -/
lemma IsLeftAlone.not_sat_readMerge (alone : f.IsLeftAlone t) : ¬f.policy.readMerge.Sat t := by
  obtain ⟨rfl, -, nobody⟩ := alone
  show ¬(t.primaryDown ∧ 1 ≤ t.fetch.toNat ∧ 2 ≤ t.joining.toNat + t.arbiter.toNat ∨
    ¬t.primaryDown ∧ 1 ≤ t.primary.toNat ∧
      2 ≤ t.secondary.toNat + (t.joining.toNat + t.arbiter.toNat))
  omega

/-- Of the flags of the round a read looks at two. -/
lemma mergeRead_congr {next : Round} (down : next.isDown .primary = r.isDown .primary)
    (met : next.metReadDownSecondary = r.metReadDownSecondary) :
    f.mergeRead v primary readers joining arbiters next
      = f.mergeRead v primary readers joining arbiters r := by
  rw [mergeRead, mergeRead]
  refine congrArg (readers.total >>= ·) (funext fun total => ?_)
  simp only [Tally.observe, down, met]
  cases f <;> rfl

/-- The primary is left alone in one form only, with nobody else counted. -/
lemma isLeftAlone_iff : f.IsLeftAlone (.ofReaders v primary readers joining arbiters r) ↔
    f = psjai ∧ primary = 1 ∧ readers.fetch + readers.check = 0 ∧ joining = 0 ∧ arbiters = 0 := by
  show f = psjai ∧ primary.toNat = 1 ∧
    (readers.fetch + readers.check).toNat + joining.toNat + arbiters.toNat = 0 ↔ _
  simp only [Nat.add_eq_zero_iff, and_assoc, ← UInt32.toNat_inj, UInt32.toNat_zero,
    UInt32.toNat_one]

/-- The total of readers that fit a count is the sum of their numbers. -/
lemma eq_add_of_total (total : readers.total = .ok secondaries) :
    readers.fetch.toNat + readers.check.toNat < UInt32.size ∧
      secondaries = readers.fetch + readers.check := by
  rw [ReaderCounts.total, add32] at total
  split at total
  · next fits => exact ⟨fits, (Except.ok.inj total).symm⟩
  · cases total

/-- A read is told to resend only if it fails with everybody alive answering well, and one that is
not told to succeeds then, unless the primary of a form that needs two other members is left alone.
The merge may be asked on the round before or after the check for a resend, if trimming has left the
primary in it. -/
theorem unresent_read_can_be_won (form : m.form v = .ok f) (one : primary.toNat ≤ 1)
    (alive : secondaries.toNat ≤ m.secondaries.size) (joined : joining.toNat ≤ m.joining.size)
    (witnesses : arbiters.toNat ≤ m.arbiters.size)
    (noPrimary : r.isDown .primary ↔ primary = 0) (unset : r.resendDirectly = false)
    (everybody : readers.total = .ok secondaries) (fetching : secondaries ≠ 0 → readers.fetch ≠ 0) :
    ∃ next success,
      (f.progressRead v primary secondaries joining arbiters r).value = .ok next ∧
      f.mergeRead v primary readers joining arbiters r = .ok success ∧
      ((next.isDown .primary ↔ primary = 0) →
        f.mergeRead v primary readers joining arbiters next = .ok success) ∧
      (next.resendDirectly = false →
        (success = true ↔
          ¬(f = psjai ∧ primary = 1 ∧ secondaries = 0 ∧ joining = 0 ∧ arbiters = 0))) ∧
      (next.resendDirectly = true → success = false) := by
  obtain ⟨fits, rfl⟩ := eq_add_of_total everybody
  have counted := toNat_readers fits
  have seated := (seated_ofReaders (r := r) form one (counted ▸ alive) joined witnesses).2
  have seen := noPrimary.trans (UInt32.toNat_inj (a := primary) (b := 0)).symm
  obtain ⟨resend, told⟩ : ∃ resend, f.policy.readResend.holds _ = .ok resend :=
    (seated_ofCounts (r := r) form one alive joined witnesses).exists_verdict
      (by simp [Policy.rules])
  obtain ⟨success, merged⟩ : ∃ success, f.policy.readMerge.holds _ = .ok success :=
    seated.exists_verdict (by simp [Policy.rules])
  have resends := (eq_true_iff_sat told).trans sat_readResend_ofReaders.symm
  have succeeds := eq_true_iff_sat merged
  rw [← mergeRead_of_lt fits] at merged
  refine ⟨f.readGoesOn r resend, success, by rw [progressRead_value, told]; rfl, merged,
    fun kept => ?_, ?_⟩
  · have down := Bool.eq_iff_iff.2 (kept.trans noPrimary.symm)
    exact (mergeRead_congr down (metReadDownSecondary_readGoesOn resend)).trans merged
  rw [resendDirectly_readGoesOn, unset, Bool.false_or, ← isLeftAlone_iff (v := v) (r := r)]
  by_cases alone : f.IsLeftAlone (.ofReaders v primary readers joining arbiters r)
  · have lost : success = false := Bool.eq_false_iff.2 (mt succeeds.1 alone.not_sat_readMerge)
    subst lost
    exact ⟨fun _ => iff_of_false Bool.false_ne_true (not_not_intro alone), fun _ => rfl⟩
  · have data (reader : 1 ≤ (readers.fetch + readers.check).toNat) : 1 ≤ readers.fetch.toNat := by
      have some : readers.fetch + readers.check ≠ 0 := fun zero =>
        Nat.one_le_iff_ne_zero.1 reader (congrArg UInt32.toNat zero)
      exact Nat.one_le_iff_ne_zero.2 fun zero => fetching some (UInt32.toNat_inj.1 zero)
    have agree := sat_readResend_iff seated seen data alone
    rw [← resends, ← succeeds] at agree
    obtain rfl : success = !resend := eq_not_of_iff agree
    exact ⟨fun goesOn => iff_of_true (congrArg Bool.not goesOn) alone,
      fun resent => congrArg Bool.not resent⟩

/-- A large volume that reads with its primary, the secondary and the joining secondary goes on, and
the three win the read. -/
theorem unresent_read_can_be_won_in_company :
    ∃ (m : ReplicaSet) (r next : Round) (readers : ReaderCounts),
      Content.decode "1,0,1,-1,2,4,5,3,-1,-1" = .ok m ∧ m.form .large = .ok .psjai ∧
      r.participants.map (fun p => (p.id, p.status))
        = [(1, .primary), (2, .secondary), (3, .joiningSecondary)] ∧
      ((1 : UInt32).toNat ≤ 1 ∧ (1 : UInt32).toNat ≤ m.secondaries.size ∧
        (1 : UInt32).toNat ≤ m.joining.size ∧ (0 : UInt32).toNat ≤ m.arbiters.size ∧
        (r.isDown .primary ↔ (1 : UInt32) = 0) ∧ r.resendDirectly = false ∧
        readers.total = .ok 1 ∧ ((1 : UInt32) ≠ 0 → readers.fetch ≠ 0)) ∧
      (psjai.progressRead .large 1 1 1 0 r).value = .ok next ∧ next.resendDirectly = false ∧
      psjai.mergeRead .large 1 readers 1 0 next = .ok true := by
  let m : ReplicaSet := .ofRoster
    { version := ⟨1, 0⟩, primary := 1, secondaries := .ofList [2], arbiters := .ofList [4],
      inactive := .ofList [5], joining := .ofList [3] }
  let r : Round := ({} : Round)
    |>.add ⟨1, ⟨"first", 1⟩, .primary, some .check⟩
    |>.add ⟨2, ⟨"second", 1⟩, .secondary, some .fetch⟩
    |>.add ⟨3, ⟨"third", 1⟩, .joiningSecondary, some .check⟩
  let readers : ReaderCounts := ⟨1, 0⟩
  have content : Content.decode "1,0,1,-1,2,4,5,3,-1,-1" = .ok m := by rfl
  have form : m.form .large = .ok .psjai := by rfl
  have one : (1 : UInt32).toNat ≤ 1 := by decide
  have alive : (1 : UInt32).toNat ≤ m.secondaries.size := by decide
  have joined : (1 : UInt32).toNat ≤ m.joining.size := by decide
  have witnesses : (0 : UInt32).toNat ≤ m.arbiters.size := by decide
  have noPrimary : r.isDown .primary ↔ (1 : UInt32) = 0 := by decide
  have everybody : readers.total = .ok 1 := by rfl
  have fetching : (1 : UInt32) ≠ 0 → readers.fetch ≠ 0 := by decide
  obtain ⟨next, success, progressed, -, merged, won, -⟩ := unresent_read_can_be_won form one alive
    joined witnesses noPrimary rfl everybody fetching
  have same : (psjai.progressRead .large 1 1 1 0 r).value = .ok r := by rfl
  obtain rfl : next = r := Except.ok.inj (progressed.symm.trans same)
  have company : ¬(psjai = psjai ∧ (1 : UInt32) = 1 ∧ (1 : UInt32) = 0 ∧ (1 : UInt32) = 0 ∧
    (0 : UInt32) = 0) := by decide
  exact ⟨m, r, r, readers, content, form, by rfl,
    ⟨one, alive, joined, witnesses, noPrimary, rfl, everybody, fetching⟩, same, rfl,
    (merged noPrimary).trans (congrArg Except.ok ((won rfl).2 company))⟩

/-- A large volume with a secondary, a joining secondary, an arbiter and an inactive secondary goes
on with a read although only its primary is alive, which does not win it. -/
theorem read_goes_on_left_alone :
    ∃ (m : ReplicaSet) (r next : Round),
      Content.decode "1,0,1,-1,2,4,5,3,-1,-1" = .ok m ∧ m.form .large = .ok .psjai ∧
      r.participants.map (fun p => (p.id, p.status)) = [(1, .primary)] ∧
      r.isDown .primary = false ∧ r.isDown .secondary ∧ r.isDown .joiningSecondary ∧
      r.resendDirectly = false ∧
      (psjai.progressRead .large 1 0 0 0 r).value = .ok next ∧ next.resendDirectly = false ∧
      psjai.mergeRead .large 1 {} 0 0 next = .ok false := by
  let m : ReplicaSet := .ofRoster
    { version := ⟨1, 0⟩, primary := 1, secondaries := .ofList [2], arbiters := .ofList [4],
      inactive := .ofList [5], joining := .ofList [3] }
  let r : Round := ({} : Round) |>.add ⟨1, ⟨"first", 1⟩, .primary, some .fetch⟩
  exact ⟨m, r, r, by rfl, by rfl, by rfl, by rfl, by rfl, by rfl, by rfl, by rfl, by rfl, by rfl⟩

end Form

end ReplicaQuorum
