import ReplicaQuorum.Proofs.Form.Write
import ReplicaQuorum.Registry

/-!
# Whether a write goes ahead

Whether a look at the members alive makes a write resend depends on their counts alone: no rule for
that looks at a flag of the round or at the number of members that were asked to write. So the
answer on an empty round, where every role is down, is the answer in every round. A look asks for a
resend or leaves the round as it is, and what was asked for stays asked for.
-/

namespace ReplicaQuorum

/-! ## Rules about counts -/

namespace Rule

variable {t : Tally} {rule : Rule} {bound : Bound} {r : Round}

/-- The rule looks at counts of members only. -/
def countsOnly : Rule → Bool
  | always | never => true
  | is _ => false
  | atLeast _ bound | fewer _ bound | exactly _ bound => bound ≠ .totalWrite
  | not rule => rule.countsOnly
  | both first second | either first second => first.countsOnly && second.countsOnly
  | when condition yes no => condition.countsOnly && yes.countsOnly && no.countsOnly

/-- What a round has to say does not change a count. -/
lemma term_observe (term : Term) : (t.observe r).term term = t.term term := by
  cases term <;> rfl

/-- What a round has to say does not change a sum. -/
lemma sum_observe (terms : List Term) : (t.observe r).sum terms = t.sum terms := by
  induction terms with
  | nil => rfl
  | cons term rest ih => rw [Tally.sum, Tally.sum, term_observe, ih]

/-- Whether the sums of a rule fit does not depend on the round. -/
lemma fits_observe : rule.Fits (t.observe r) ↔ rule.Fits t := by
  simp only [Fits, sum_observe]

/-- Of what sums are compared with, only the total of a write depends on the round. -/
lemma bound_observe (fixed : bound ≠ .totalWrite) : (t.observe r).bound bound = t.bound bound := by
  cases bound with
  | totalWrite => exact absurd rfl fixed
  | literal | quorum | quorumLess => rfl

/-- A rule that looks at counts only has the same verdict in every round. -/
lemma holds_observe (counts : rule.countsOnly) : rule.holds (t.observe r) = rule.holds t := by
  induction rule with
  | always | never => rfl
  | is => cases counts
  | atLeast terms bound | fewer terms bound | exactly terms bound =>
    have fixed : bound ≠ .totalWrite := of_decide_eq_true counts
    simp only [holds, Tally.compareSum, sum_observe, bound_observe fixed]
  | not rule ih => rw [holds, holds, ih counts]
  | both first second ih₁ ih₂ | either first second ih₁ ih₂ =>
    obtain ⟨left, right⟩ := Bool.and_eq_true_iff.1 counts
    rw [holds, holds, ih₁ left, ih₂ right]
  | when condition yes no ih ih₁ ih₂ =>
    obtain ⟨front, right⟩ := Bool.and_eq_true_iff.1 counts
    obtain ⟨asked, left⟩ := Bool.and_eq_true_iff.1 front
    rw [holds, holds, ih asked, ih₁ left, ih₂ right]

end Rule

namespace Form

variable {f : Form} {v : VolumeType} {r : Round} {primary secondaries joining arbiters : UInt32}

/-- No form resends a write for a flag of the round or for the number of members asked. -/
lemma countsOnly_writeResend (f : Form) : f.policy.writeResend.countsOnly := by
  cases f <;> decide

/-- The resend of a write depends on the members alive and not on the round. -/
lemma holds_writeResend : f.policy.writeResend.holds (.ofWriters v primary secondaries joining r)
    = f.policy.writeResend.holds (.ofCounts v primary secondaries joining 0) :=
  Rule.holds_observe f.countsOnly_writeResend

/-- A write would go ahead exactly if it would not be sent again. -/
lemma writable_eq : f.writable v primary secondaries joining
    = (f.policy.writeResend.holds (.ofCounts v primary secondaries joining 0)).map Bool.not := by
  rw [writable, progressWrite_value, holds_writeResend]
  generalize f.policy.writeResend.holds _ = verdict
  cases verdict <;> rfl

/-- A look asks a round for a resend unless the write would go ahead. -/
lemma progressWrite_eq_map_writable : (f.progressWrite v primary secondaries joining r).value
    = (f.writable v primary secondaries joining).map
        fun goesAhead => { r with resendDirectly := r.resendDirectly || !goesAhead } := by
  rw [progressWrite_value, holds_writeResend, writable_eq]
  generalize f.policy.writeResend.holds _ = verdict
  cases verdict with
  | error o => rfl
  | ok resend => simp [Except.map]

/-- The answer whether a write would go ahead is the opposite of that about a resend. -/
lemma writable_eq_ok_iff {b : Bool} : f.writable v primary secondaries joining = .ok b ↔
    f.policy.writeResend.holds (.ofCounts v primary secondaries joining 0) = .ok !b := by
  rw [writable_eq, map_eq_ok_iff]
  constructor
  · rintro ⟨resend, told, rfl⟩
    rw [told, Bool.not_not]
  · exact fun told => ⟨!b, told, Bool.not_not b⟩

/-- The resend of a write is one of the rules of a policy. -/
lemma writeResend_mem (f : Form) : f.policy.writeResend ∈ f.policy.rules := by
  simp [Policy.rules]

/-- Where the counts together fit a word, every rule of a form has a verdict on them. -/
lemma fits_ofCounts {rule : Rule} (mem : rule ∈ f.policy.rules)
    (fits : primary.toNat + secondaries.toNat + joining.toNat + arbiters.toNat < UInt32.size) :
    rule.Fits (.ofCounts v primary secondaries joining arbiters) := by
  refine fits_of_sum_lt mem ?_
  show primary.toNat + (secondaries.toNat + (joining.toNat + (0 + (arbiters.toNat + 0))))
    < UInt32.size
  omega

/-- There is an answer whether a write would go ahead as long as the counts fit a word. -/
lemma exists_writable (fits : primary.toNat + secondaries.toNat + joining.toNat < UInt32.size) :
    ∃ goesAhead, f.writable v primary secondaries joining = .ok goesAhead := by
  have fits : f.policy.writeResend.Fits (.ofCounts v primary secondaries joining 0) :=
    fits_ofCounts f.writeResend_mem fits
  obtain ⟨resend, told⟩ := Rule.exists_holds fits
  exact ⟨!resend, writable_eq_ok_iff.2 (by rw [told, Bool.not_not])⟩

end Form

/-! ## Looks at one round -/

/-- A look at the members alive during a write. -/
structure Look where
  form : Form
  volume : VolumeType
  primary : UInt32
  secondaries : UInt32
  joining : UInt32
deriving DecidableEq, Repr

/-- The write would go ahead. -/
def Look.writable (look : Look) : Except Overflow Bool :=
  look.form.writable look.volume look.primary look.secondaries look.joining

/-- The round after a look. -/
def Round.look (r : Round) (look : Look) : Except Overflow Round :=
  (look.form.progressWrite look.volume look.primary look.secondaries look.joining r).value

/-- A look asks for a resend if the write would not go ahead, and keeps one that was asked for. -/
lemma Round.look_eq (r : Round) (look : Look) : r.look look
    = look.writable.map
        fun goesAhead => { r with resendDirectly := r.resendDirectly || !goesAhead } :=
  Form.progressWrite_eq_map_writable

/-- After any looks a resend is asked for if it was before, or if one of them would not let the
write go ahead. -/
lemma Round.foldlM_look (r : Round) (looks : List Look) : looks.foldlM Round.look r
    = (looks.mapM Look.writable).map
        fun answers => { r with resendDirectly := r.resendDirectly || !answers.all id } := by
  induction looks generalizing r with
  | nil => simp [Except.map, pure, Except.pure]
  | cons look looks ih =>
    rw [List.foldlM_cons, List.mapM_cons, look_eq]
    cases look.writable with
    | error o => rfl
    | ok goesAhead =>
      show looks.foldlM Round.look _ = _
      rw [ih]
      cases looks.mapM Look.writable with
      | error o => rfl
      | ok answers => simp [Except.map, bind, Except.bind, pure, Except.pure, Bool.or_assoc]

/-! ## Registries -/

section Registry

variable {g : Registry} {segment : SegmentId} {m : ReplicaSet} {f : Form} {v : VolumeType}
  {primary secondaries joining : UInt32} {goesAhead : Bool}

/-- A registry binds the round and then has one look at it. -/
lemma Registry.advanceWrite_of_writable (clear : g.poisoned = false)
    (installed : g.get? segment = some m) (form : m.form v = .ok f)
    (answer : f.writable v primary secondaries joining = .ok goesAhead) (r : Round) :
    (g.advanceWrite segment v primary secondaries joining r).1.value.1
        = .ok (r.resendDirectly || !goesAhead) ∧
      (g.advanceWrite segment v primary secondaries joining r).2
        = { r with
            form := some f, replicas := some m,
            resendDirectly := r.resendDirectly || !goesAhead } := by
  have progress : (f.progressWrite v primary secondaries joining
      { r with form := some f, replicas := some m }).value = _ :=
    Form.progressWrite_eq_map_writable
  rw [answer] at progress
  simp only [advanceWrite, clear, Bool.false_eq_true, if_false, installed, form, progress,
    Except.map, and_self]

/-- In every round a look asks for a resend unless the write would go ahead with the same members
alive, and changes nothing else. So does a registry with the round it binds, unless it is poisoned.
Over any looks at one round, a resend is asked for in the end if it was at first or for one of
them. -/
theorem write_resent_unless_writable :
    (primary.toNat + secondaries.toNat + joining.toNat < UInt32.size →
      ∃ goesAhead, f.writable v primary secondaries joining = .ok goesAhead) ∧
    (∀ r : Round, (f.progressWrite v primary secondaries joining r).value
      = (f.writable v primary secondaries joining).map
          fun goesAhead => { r with resendDirectly := r.resendDirectly || !goesAhead }) ∧
    (∀ (g : Registry) (segment : SegmentId) (m : ReplicaSet) (goesAhead : Bool) (r : Round),
      g.poisoned = false → g.get? segment = some m → m.form v = .ok f →
      f.writable v primary secondaries joining = .ok goesAhead →
      (g.advanceWrite segment v primary secondaries joining r).1.value.1
          = .ok (r.resendDirectly || !goesAhead) ∧
        (g.advanceWrite segment v primary secondaries joining r).2
          = { r with
              form := some f, replicas := some m,
              resendDirectly := r.resendDirectly || !goesAhead }) ∧
    ∀ (looks : List Look) (r : Round), looks.foldlM Round.look r
      = (looks.mapM Look.writable).map
          fun answers => { r with resendDirectly := r.resendDirectly || !answers.all id } := by
  refine ⟨Form.exists_writable, fun _ => Form.progressWrite_eq_map_writable, ?_,
    fun looks r => r.foldlM_look looks⟩
  intro g segment m goesAhead r clear installed form answer
  exact Registry.advanceWrite_of_writable clear installed form answer r

/-- Without its primary a regular volume cannot write to one secondary. The registry asks for a
resend, which a look at everybody alive does not withdraw. -/
theorem write_resent_without_primary :
    ∃ (m : ReplicaSet) (g : Registry) (r : Round),
      Content.decode "1,0,1,-1,2:3,,,,-1,-1" = .ok m ∧ g.get? 7 = some m ∧
      m.form .regular = .ok .pss ∧
      (0 : UInt32).toNat + (1 : UInt32).toNat + (0 : UInt32).toNat < UInt32.size ∧
      Form.pss.writable .regular 0 1 0 = .ok false ∧ r.resendDirectly = false ∧
      (g.advanceWrite 7 .regular 0 1 0 r).1.value.1 = .ok true ∧
      (g.advanceWrite 7 .regular 0 1 0 r).2
        = { r with form := some .pss, replicas := some m, resendDirectly := true } ∧
      [Look.mk .pss .regular 0 1 0, ⟨.pss, .regular, 1, 2, 0⟩].foldlM Round.look r
        = .ok { r with resendDirectly := true } := by
  let m : ReplicaSet := .ofRoster
    { version := ⟨1, 0⟩, primary := 1, secondaries := .ofList [2, 3] }
  let g : Registry := ({} : Registry).setInstalled 7 m
  let r : Round := ({ totalWrite := 3 } : Round)
    |>.add ⟨1, ⟨"first", 1⟩, .primary, none⟩
    |>.add ⟨2, ⟨"second", 1⟩, .secondary, none⟩
  have installed : g.get? 7 = some m := by rfl
  have form : m.form .regular = .ok .pss := by rfl
  have fits : (0 : UInt32).toNat + (1 : UInt32).toNat + (0 : UInt32).toNat < UInt32.size := by
    decide
  have cannot : Form.pss.writable .regular 0 1 0 = .ok false := by rfl
  obtain ⟨gives, -, binds, run⟩ := @write_resent_unless_writable .pss .regular 0 1 0
  obtain ⟨goesAhead, told⟩ := gives fits
  obtain rfl : goesAhead = false := Except.ok.inj (told.symm.trans cannot)
  obtain ⟨answer, after⟩ := binds g 7 m false r rfl installed form told
  exact ⟨m, g, r, by rfl, installed, form, fits, told, rfl, answer, after, run _ r⟩

end Registry

end ReplicaQuorum
