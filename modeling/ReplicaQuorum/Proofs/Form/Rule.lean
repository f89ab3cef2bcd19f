import ReplicaQuorum.Form.Policy
import ReplicaQuorum.Proofs.Except

/-!
# What rules say

A rule says something of a tally whether or not its sums fit a word. The verdict on it, where there
is one, is what the rule says, and there is a verdict where the sums that the rule names fit. No
policy counts anything twice in one sum, so its rules have a verdict where all counts add up to a
word.
-/

namespace ReplicaQuorum

namespace Rule

variable {t : Tally} {rule : Rule} {b : Bool}

/-- What a rule says of a tally, with sums of any size. -/
def Sat (t : Tally) : Rule → Prop
  | always => True
  | never => False
  | is flag => t.flag flag
  | atLeast terms bound => t.bound bound ≤ t.sum terms
  | fewer terms bound => t.sum terms < t.bound bound
  | exactly terms bound => t.sum terms = t.bound bound
  | not rule => ¬rule.Sat t
  | both first second => first.Sat t ∧ second.Sat t
  | either first second => first.Sat t ∨ second.Sat t
  | when condition yes no => condition.Sat t ∧ yes.Sat t ∨ ¬condition.Sat t ∧ no.Sat t

/-- The sums that a rule names. -/
def sums : Rule → List (List Term)
  | always | never | is _ => []
  | atLeast terms _ | fewer terms _ | exactly terms _ => [terms]
  | not rule => rule.sums
  | both first second | either first second => first.sums ++ second.sums
  | when condition yes no => condition.sums ++ yes.sums ++ no.sums

/-- All sums of a rule fit a word. -/
def Fits (t : Tally) (rule : Rule) : Prop :=
  ∀ terms ∈ rule.sums, t.sum terms < UInt32.size

/-- A comparison that has a verdict compares the sum. -/
lemma eq_of_compareSum {terms : List Term} {test : Nat → Bool}
    (verdict : t.compareSum terms test = .ok b) : b = test (t.sum terms) := by
  unfold Tally.compareSum at verdict
  split at verdict
  · cases verdict
    rfl
  · cases verdict

/-- A comparison of a sum that fits a word has a verdict. -/
lemma compareSum_of_lt {terms : List Term} (test : Nat → Bool)
    (fits : t.sum terms < UInt32.size) : t.compareSum terms test = .ok (test (t.sum terms)) :=
  if_pos fits

/-- A verdict is what the rule says. -/
lemma eq_true_iff_sat (verdict : rule.holds t = .ok b) : b = true ↔ rule.Sat t := by
  induction rule generalizing b with
  | always | never | is =>
    cases verdict
    simp [Sat]
  | atLeast | fewer | exactly =>
    rw [eq_of_compareSum verdict]
    simp [Sat]
  | not rule ih =>
    obtain ⟨c, inner, rfl⟩ := map_eq_ok_iff.1 verdict
    rw [Sat, ← ih inner, Bool.not_eq_true', Bool.not_eq_true]
  | both first second ih₁ ih₂ =>
    obtain ⟨c, left, rest⟩ := bind_eq_ok_iff.1 verdict
    rw [Sat, ← ih₁ left]
    -- the second rule has a verdict to compare with only where it is asked
    cases c with
    | false =>
      cases rest
      simp
    | true => simp [← ih₂ rest]
  | either first second ih₁ ih₂ =>
    obtain ⟨c, left, rest⟩ := bind_eq_ok_iff.1 verdict
    rw [Sat, ← ih₁ left]
    cases c with
    | false => simp [← ih₂ rest]
    | true =>
      cases rest
      simp
  | when condition yes no ih ih₁ ih₂ =>
    obtain ⟨c, left, rest⟩ := bind_eq_ok_iff.1 verdict
    rw [Sat, ← ih left]
    cases c with
    | false => simp [← ih₂ rest]
    | true => simp [← ih₁ rest]

/-- There is a verdict where all sums fit. -/
lemma exists_holds (fits : rule.Fits t) : ∃ b, rule.holds t = .ok b := by
  induction rule with
  | always | never | is => exact ⟨_, rfl⟩
  | atLeast terms | fewer terms | exactly terms =>
    exact ⟨_, compareSum_of_lt _ (fits terms (List.mem_singleton_self terms))⟩
  | not rule ih =>
    obtain ⟨c, inner⟩ := ih fits
    exact ⟨!c, by rw [holds, inner]; rfl⟩
  | both first second ih₁ ih₂ =>
    obtain ⟨c, left⟩ := ih₁ fun terms mem => fits terms (List.mem_append_left _ mem)
    obtain ⟨d, right⟩ := ih₂ fun terms mem => fits terms (List.mem_append_right _ mem)
    rw [holds, left]
    cases c with
    | false => exact ⟨false, rfl⟩
    | true => exact ⟨d, right⟩
  | either first second ih₁ ih₂ =>
    obtain ⟨c, left⟩ := ih₁ fun terms mem => fits terms (List.mem_append_left _ mem)
    obtain ⟨d, right⟩ := ih₂ fun terms mem => fits terms (List.mem_append_right _ mem)
    rw [holds, left]
    cases c with
    | false => exact ⟨d, right⟩
    | true => exact ⟨true, rfl⟩
  | when condition yes no ih ih₁ ih₂ =>
    simp only [Fits, sums, List.forall_mem_append] at fits
    obtain ⟨⟨fitsCondition, fitsYes⟩, fitsNo⟩ := fits
    obtain ⟨c, left⟩ := ih fitsCondition
    rw [holds, left]
    cases c with
    | false => exact ih₂ fitsNo
    | true => exact ih₁ fitsYes

/-- Where all sums fit, a rule holds exactly if it says so. -/
lemma holds_eq_true_iff (fits : rule.Fits t) : rule.holds t = .ok true ↔ rule.Sat t := by
  obtain ⟨b, verdict⟩ := exists_holds fits
  rw [← eq_true_iff_sat verdict, verdict, Except.ok.injEq]

end Rule

/-! ## The rules of the policies -/

/-- All counted quantities. -/
def Term.all : List Term :=
  [primary, secondary, joining, fetch, arbiter]

/-- Fewer terms do not sum up to more. -/
lemma Tally.sum_le_of_sublist {t : Tally} {terms more : List Term} (fewer : terms.Sublist more) :
    t.sum terms ≤ t.sum more := by
  induction fewer with
  | slnil => exact Nat.le_refl _
  | cons term _ ih => exact Nat.le_add_left_of_le ih
  | cons_cons term _ ih => exact Nat.add_le_add_left ih _

/-- The rules of a policy. -/
def Policy.rules (p : Policy) : List Rule :=
  [p.writeMerge, p.readMerge, p.writeResend, p.readResend, p.writeDone, p.readDone]

/-- No sum of a policy counts a quantity twice. -/
lemma Form.sums_sublist (f : Form) :
    ∀ rule ∈ f.policy.rules, ∀ terms ∈ rule.sums, terms.Sublist Term.all := by
  cases f <;> decide

/-- Where all counts together fit a word, every sum of a policy does. -/
lemma Form.fits_of_sum_lt {f : Form} {rule : Rule} {t : Tally} (mem : rule ∈ f.policy.rules)
    (fits : t.sum Term.all < UInt32.size) : rule.Fits t := by
  intro terms named
  exact Nat.lt_of_le_of_lt (Tally.sum_le_of_sublist (f.sums_sublist rule mem terms named)) fits

end ReplicaQuorum
