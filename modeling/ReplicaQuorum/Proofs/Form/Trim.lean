import ReplicaQuorum.Proofs.Form.Resend
import ReplicaQuorum.Proofs.Form.Writable

/-!
# Trimming

Where the primary alone confirms a read, a look at the members alive that lets the read go on drops
the readers that were only asked to confirm. It drops them by what they were asked for, not by their
role, so a primary that was only asked to confirm is dropped with them. Four forms want the primary
in the round, so no answers win their reads any more, and no look asks for a resend while the
primary is alive.
-/

namespace ReplicaQuorum

namespace Round

variable {r : Round} {family : Family}

/-- A family is not down exactly if some member of the round belongs to it. -/
lemma isDown_eq_false_iff :
    r.isDown family = false ↔ ∃ p ∈ r.participants, p.hasFamily family := by
  rw [isDown, Bool.not_eq_false', List.any_eq_true]

/-- A role survives if one of its members does more than confirm. -/
lemma isDown_dropChecks_eq_false_iff : r.dropChecks.isDown family = false ↔
    ∃ p ∈ r.participants, p.hasFamily family ∧ p.isCheck = false := by
  rw [isDown_eq_false_iff]
  simp only [dropChecks, List.mem_filter, Bool.not_eq_true', and_assoc]
  exact exists_congr fun p => and_congr_right fun _ => and_comm

end Round

namespace Form

variable {f : Form} {v : VolumeType} {r : Round}
  {primary secondaries joining arbiters : UInt32} {readers : ReaderCounts}

/-- A form that trims resends a read only without its primary. -/
lemma readResend_of_trims (trims : f.policy.trimsChecks) :
    f.policy.readResend = .primaryGone := by
  revert trims
  cases f <;> decide

/-- A form that trims no checks leaves the members of the round alone. -/
lemma participants_readGoesOn (keeps : f.policy.trimsChecks = false) (resend : Bool) :
    (f.readGoesOn r resend).participants = r.participants := by
  rw [readGoesOn, keeps]
  cases resend <;> rfl

/-- A look with the primary alive has a result, on which trimming forms have trimmed. -/
lemma exists_progressRead (alive : 1 ≤ primary.toNat)
    (fits : primary.toNat + secondaries.toNat + joining.toNat + arbiters.toNat < UInt32.size) :
    ∃ next, (f.progressRead v primary secondaries joining arbiters r).value = .ok next ∧
      (f.policy.trimsChecks → next = r.dropChecks) ∧
      (f.policy.trimsChecks = false → next.participants = r.participants) := by
  have mem : f.policy.readResend ∈ f.policy.rules := by simp [Policy.rules]
  obtain ⟨resend, told⟩ :=
    Rule.exists_holds ((Rule.fits_observe (r := r)).2 (fits_ofCounts (v := v) mem fits))
  refine ⟨f.readGoesOn r resend, by rw [progressRead_value, told]; rfl, fun trims => ?_,
    fun keeps => participants_readGoesOn keeps resend⟩
  have resends := Rule.eq_true_iff_sat told
  rw [readResend_of_trims trims] at resends
  have goesOn : resend = false := Bool.eq_false_iff.2 fun resent =>
    absurd alive (Nat.not_le.2 (resends.1 resent))
  rw [readGoesOn, goesOn, if_neg Bool.false_ne_true, if_pos trims]

/-- The trimming forms whose reads want the primary in the round. -/
def wantingPrimary : List Form :=
  [psi, ps, tps, pa]

/-- These forms ask of a read that the primary is in the round and answers. -/
lemma readMerge_of_wanting (wanting : f ∈ wantingPrimary) :
    f.policy.readMerge = .primaryUpAndAlive := by
  revert wanting
  cases f <;> decide

/-- Without a primary in the round no answers win a read that wants it there. -/
lemma mergeRead_ne_of_isDown (wanting : f ∈ wantingPrimary) (down : r.isDown .primary) :
    f.mergeRead v primary readers joining arbiters r ≠ .ok true := by
  intro success
  obtain ⟨total, -, holds⟩ := bind_eq_ok_iff.1 success
  rw [readMerge_of_wanting wanting] at holds
  have sat := (Rule.eq_true_iff_sat holds).1 rfl
  exact sat.1 down

/-- A look that finds the primary alive leaves it in the round exactly if the form does not trim, or
if some primary of the round does more than confirm the read. If it is dropped, no answers win the
read of a form that wants it in the round, and the look does not ask for a resend either. -/
theorem primary_kept_iff (alive : 1 ≤ primary.toNat)
    (fits : primary.toNat + secondaries.toNat + joining.toNat + arbiters.toNat < UInt32.size)
    (up : r.isDown .primary = false) :
    ∃ next, (f.progressRead v primary secondaries joining arbiters r).value = .ok next ∧
      (next.isDown .primary = false ↔
        (f.policy.trimsChecks →
          ∃ p ∈ r.participants, p.hasFamily .primary ∧ p.isCheck = false)) ∧
      (f ∈ wantingPrimary → next.isDown .primary →
        next.resendDirectly = r.resendDirectly ∧
        ∀ (good joined confirming : UInt32) (readers : ReaderCounts),
          f.mergeRead v good readers joined confirming next ≠ .ok true) := by
  obtain ⟨next, progressed, trimmed, kept⟩ :=
    exists_progressRead (f := f) (v := v) (r := r) alive fits
  refine ⟨next, progressed, ?_, fun wanting down =>
    ⟨?_, fun _ _ _ _ => mergeRead_ne_of_isDown wanting down⟩⟩
  · cases trims : f.policy.trimsChecks with
    | true =>
      rw [trimmed trims, Round.isDown_dropChecks_eq_false_iff]
      exact ⟨fun real _ => real, fun real => real rfl⟩
    | false =>
      have same : next.isDown .primary = r.isDown .primary := by
        rw [Round.isDown, Round.isDown, kept trims]
      rw [same]
      exact iff_of_true up fun trims => (Bool.false_ne_true trims).elim
  · have trims : f.policy.trimsChecks := by
      revert wanting
      cases f <;> decide
    rw [trimmed trims]
    rfl

/-- A regular volume with one secondary reads from its primary, which stays when the secondary that
only confirms is dropped. -/
theorem primary_kept_fetching :
    ∃ (m : ReplicaSet) (r next : Round),
      Content.decode "1,0,1,-1,2,,3,,-1,-1" = .ok m ∧ m.form .regular = .ok .psi ∧
      r.participants.map (fun p => (p.id, p.status, p.cause))
        = [(1, .primary, some .fetch), (2, .secondary, some .check)] ∧
      (1 ≤ (1 : UInt32).toNat ∧
        (1 : UInt32).toNat + (1 : UInt32).toNat + (0 : UInt32).toNat + (0 : UInt32).toNat
          < UInt32.size ∧ r.isDown .primary = false) ∧
      (psi.progressRead .regular 1 1 0 0 r).value = .ok next ∧
      next.participants.map Participant.id = [1] ∧ next.isDown .primary = false := by
  let m : ReplicaSet := .ofRoster
    { version := ⟨1, 0⟩, primary := 1, secondaries := .ofList [2], inactive := .ofList [3] }
  let first : Participant := ⟨1, ⟨"first", 1⟩, .primary, some .fetch⟩
  let r : Round := ({} : Round)
    |>.add first
    |>.add ⟨2, ⟨"second", 1⟩, .secondary, some .check⟩
  have content : Content.decode "1,0,1,-1,2,,3,,-1,-1" = .ok m := by rfl
  have form : m.form .regular = .ok .psi := by rfl
  have alive : 1 ≤ (1 : UInt32).toNat := by decide
  have fits : (1 : UInt32).toNat + (1 : UInt32).toNat + (0 : UInt32).toNat + (0 : UInt32).toNat
    < UInt32.size := by decide
  have up : r.isDown .primary = false := by rfl
  have real : ∃ p ∈ r.participants, p.hasFamily .primary ∧ p.isCheck = false :=
    ⟨first, List.mem_cons_self, rfl, rfl⟩
  obtain ⟨next, progressed, kept, -⟩ := primary_kept_iff (f := psi) (v := .regular) alive fits up
  have same : (psi.progressRead .regular 1 1 0 0 r).value = .ok r.dropChecks := by rfl
  obtain rfl : next = r.dropChecks := Except.ok.inj (progressed.symm.trans same)
  exact ⟨m, r, r.dropChecks, content, form, by rfl, ⟨alive, fits, up⟩, same, by rfl,
    kept.2 fun _ => real⟩

/-- Where the secondary returns the data and the primary only confirms, the primary is dropped. The
answers of both would have won the read, and do not win it any more. -/
theorem primary_dropped_confirming :
    ∃ (m : ReplicaSet) (r next : Round),
      Content.decode "1,0,1,-1,2,,3,,-1,-1" = .ok m ∧ m.form .regular = .ok .psi ∧
      r.participants.map (fun p => (p.id, p.status, p.cause))
        = [(1, .primary, some .check), (2, .secondary, some .fetch)] ∧
      r.isDown .primary = false ∧ psi.mergeRead .regular 1 ⟨1, 0⟩ 0 0 r = .ok true ∧
      (psi.progressRead .regular 1 1 0 0 r).value = .ok next ∧
      next.participants.map Participant.id = [2] ∧ next.isDown .primary ∧
      next.resendDirectly = false ∧ psi.mergeRead .regular 1 ⟨1, 0⟩ 0 0 next = .ok false := by
  let m : ReplicaSet := .ofRoster
    { version := ⟨1, 0⟩, primary := 1, secondaries := .ofList [2], inactive := .ofList [3] }
  let r : Round := ({} : Round)
    |>.add ⟨1, ⟨"first", 1⟩, .primary, some .check⟩
    |>.add ⟨2, ⟨"second", 1⟩, .secondary, some .fetch⟩
  exact ⟨m, r, r.dropChecks, by rfl, by rfl, by rfl, by rfl, by rfl, by rfl, by rfl, by rfl, by rfl,
    by rfl⟩

end Form

end ReplicaQuorum
