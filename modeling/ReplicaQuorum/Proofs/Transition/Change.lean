import ReplicaQuorum.Proofs.Roster.Moves
import ReplicaQuorum.ReplicaSet.Transition

/-!
# Changes

What the step of a transition changes in a roster. `effect_makes` says that every step makes the
change of its transition, and `effect_admissible` that the change gives nobody a second role. What
holds of every step is derived from these two, and the edits are not looked at again.
-/

namespace ReplicaQuorum

/-- What a step changes in a roster. -/
structure Change where
  /-- The primary after the step. -/
  primary : InstanceId
  advance : Advance := .generations 1
  /-- The instances that leave the roles they hold. -/
  leaving : List InstanceId := []
  /-- The instances that enter `role`. -/
  entering : List InstanceId := []
  role : Role := .secondary
  tempPrimary : Option InstanceId := none
  primaryCandidate : Option InstanceId := none
  secondaryCandidate : Option InstanceId := none

/-- What the step of a transition changes. -/
def Transition.change (r : Roster) : Transition → Change
  | addSecondaries ids => { primary := r.primary, entering := r.freshAmong ids }
  | addArbiters ids => { primary := r.primary, entering := r.freshAmong ids, role := .arbiter }
  | replaceSecondary old new => { primary := r.primary, leaving := [old], entering := [new] }
  | inactiveForArbiter inactive arbiter =>
    { primary := r.primary, leaving := [inactive], entering := [arbiter], role := .arbiter }
  | inactiveForJoining inactive joining =>
    { primary := r.primary, leaving := [inactive], entering := [joining], role := .joining }
  | removeSecondary id | removeArbiter id | removeInactive id =>
    { primary := r.primary, leaving := [id] }
  | electPrimary candidate =>
    if r.primary = candidate then { primary := candidate, advance := .epoch }
    else
      { primary := candidate, advance := .epoch, leaving := [candidate], entering := [r.primary],
        role := if r.tempPrimary.isSome then .inactive else .secondary }
  | arbiterToInactive id | aliveToInactive id =>
    { primary := r.primary, leaving := [id], entering := [id], role := .inactive,
      tempPrimary := r.tempPrimary }
  | joiningToInactive id =>
    { primary := r.primary, leaving := [id], entering := [id], role := .inactive }
  | joiningToSecondary id => { primary := r.primary, leaving := [id], entering := [id] }
  | inactiveToJoining id =>
    { primary := r.primary, leaving := [id], entering := [id], role := .joining }
  | inactiveToArbiter id =>
    { primary := r.primary, leaving := [id], entering := [id], role := .arbiter }
  | nominatePrimary id => { primary := r.primary, primaryCandidate := some id }
  | promoteNominee id =>
    { primary := id, advance := .epoch, leaving := [id], entering := [r.primary] }
  | appointTempPrimary id =>
    { primary := r.primary, advance := .generations r.outrun, tempPrimary := some id }
  | appointTempPrimaryBy id generations =>
    { primary := r.primary, advance := .generations generations.toNat, tempPrimary := some id }
  | selectPotentialPrimary id =>
    { primary := r.primary, advance := .generations r.outrun,
      tempPrimary := r.tempPrimary.filter (· = id) }
  | addCandidate id => { primary := r.primary, secondaryCandidate := some id }
  | removeCandidate _ => { primary := r.primary }
  | addJoining id | candidateToJoining id =>
    { primary := r.primary, entering := [id], role := .joining }
  | candidateForMember candidate replacee =>
    { primary := r.primary, leaving := [replacee], entering := [candidate] }

namespace Effect

/-- The step of an effect, if it makes one. -/
def next? : Effect → Option (Advance × Roster)
  | step advance next | markedStep advance next => some (advance, next)
  | _ => none

variable {x : Advance × Roster}

/-- An edit moves one generation on. -/
lemma next?_edit (next : Roster) : (edit next).next? = some (.generations 1, next) :=
  rfl

/-- A step moves on as it says. -/
lemma next?_step (a : Advance) (next : Roster) : (step a next).next? = some (a, next) :=
  rfl

/-- A marked step moves on as it says. -/
lemma next?_markedStep (a : Advance) (next : Roster) :
    (markedStep a next).next? = some (a, next) :=
  rfl

/-- Nothing is made of what is left unchanged. -/
lemma next?_unchanged : unchanged.next? ≠ some x :=
  nofun

/-- Nothing is made of what is refused. -/
lemma next?_refused (e : MembershipError) : (refused e).next? ≠ some x :=
  nofun

/-- A choice makes what its branch makes. -/
lemma next?_ite {p : Prop} [Decidable p] {yes no : Effect} :
    (if p then yes else no).next? = some x ↔ p ∧ yes.next? = some x ∨ ¬p ∧ no.next? = some x := by
  by_cases h : p <;> simp [h]

/-- Something is made where there is a step to be made. -/
lemma next?_whenever {condition : Bool} {e : Effect} :
    (whenever condition e).next? = some x ↔ condition ∧ e.next? = some x := by
  cases condition <;> simp [whenever, next?]

/-- Something is made where a step applies. -/
lemma next?_only {condition : Bool} {e : Effect} :
    (only condition e).next? = some x ↔ condition ∧ e.next? = some x := by
  cases condition <;> simp [only, next?]

end Effect

/-- Fresh instances are not known. -/
lemma Roster.contains_of_mem_freshAmong {r : Roster} {ids : List InstanceId} {id : InstanceId}
    (mem : id ∈ r.freshAmong ids) : r.contains id = false := by
  simpa using (List.mem_filter.1 mem).2

/-- A step makes a change: how far the version moves on, who is primary, temporary primary and
candidate after it, and who holds which role. -/
structure Change.Makes (c : Change) (r : Roster) (advance : Advance) (next : Roster) : Prop where
  advance_eq : advance = c.advance
  primary_eq : next.primary = c.primary
  tempPrimary_eq : next.tempPrimary = c.tempPrimary
  primaryCandidate_eq : next.primaryCandidate = c.primaryCandidate
  secondaryCandidate_eq : next.secondaryCandidate = c.secondaryCandidate
  moves : r.Moves next c.leaving c.entering c.role

/-- A change gives nobody a second role: the primary hands over to an instance that leaves its role,
an instance that enters a role comes from one it leaves or had none, and the candidates are chosen
where nobody moves. -/
structure Change.Admissible (c : Change) (r : Roster) : Prop where
  primary : c.primary = r.primary ∨ c.primary ∈ c.leaving
  primary_notMem : c.primary ∉ c.entering
  entering : ∀ id ∈ c.entering, id ∈ c.leaving ∨ ∀ role, id ∉ r.inRole role
  primaryCandidate : ∀ id, c.primaryCandidate = some id → id ∈ r.secondaries ∧ c.leaving = []
  secondaryCandidate : ∀ id, c.secondaryCandidate = some id →
    r.contains id = false ∧ c.entering = [] ∧ c.primary = r.primary

namespace Change.Admissible

variable {r : Roster} {c : Change}

/-- A change that keeps the primary and chooses no candidate is admissible if the instances that
enter a role are not the primary and come from a role they leave or had none. -/
lemma ofEntering (primary : c.primary = r.primary) (nominee : c.primaryCandidate = none)
    (candidate : c.secondaryCandidate = none)
    (entering : ∀ id ∈ c.entering,
      id ≠ r.primary ∧ (id ∈ c.leaving ∨ ∀ role, id ∉ r.inRole role)) :
    c.Admissible r where
  primary := .inl primary
  primary_notMem mem := (entering _ mem).1 primary
  entering id mem := (entering id mem).2
  primaryCandidate id h := by rw [nominee] at h; cases h
  secondaryCandidate id h := by rw [candidate] at h; cases h

/-- Instances that are not known may enter a role. -/
lemma ofUnknown (primary : c.primary = r.primary) (nominee : c.primaryCandidate = none)
    (candidate : c.secondaryCandidate = none)
    (unknown : ∀ id ∈ c.entering, r.contains id = false) : c.Admissible r := by
  apply ofEntering primary nominee candidate
  intro id mem
  obtain ⟨ne, notMem, -⟩ := Roster.contains_eq_false_iff.1 (unknown id mem)
  exact ⟨Ne.symm ne, .inr notMem⟩

/-- An instance that holds a role may leave it and enter one. -/
lemma ofHeld {id : InstanceId} (origin : Role) (wf : r.WellFormed)
    (primary : c.primary = r.primary) (nominee : c.primaryCandidate = none)
    (candidate : c.secondaryCandidate = none) (held : id ∈ r.inRole origin)
    (leaving : c.leaving = [id]) (entering : c.entering = [id]) : c.Admissible r := by
  apply ofEntering primary nominee candidate
  intro x mem
  rw [entering, List.mem_singleton] at mem
  subst mem
  refine ⟨?_, .inl (by simp [leaving])⟩
  rintro rfl
  exact wf.primary_notMem origin held

/-- A secondary may leave its role and take over as primary from one that enters a role. -/
lemma ofSuccession (wf : r.WellFormed) (held : c.primary ∈ r.secondaries)
    (leaving : c.leaving = [c.primary]) (entering : c.entering = [r.primary])
    (nominee : c.primaryCandidate = none) (candidate : c.secondaryCandidate = none) :
    c.Admissible r where
  primary := .inr (by simp [leaving])
  primary_notMem mem := by
    rw [entering, List.mem_singleton] at mem
    exact wf.primary_notMem .secondary (mem ▸ held)
  entering id mem := by
    rw [entering, List.mem_singleton] at mem
    exact .inr (mem ▸ wf.primary_notMem)
  primaryCandidate id h := by rw [nominee] at h; cases h
  secondaryCandidate id h := by rw [candidate] at h; cases h

end Change.Admissible

namespace Transition

open Roster

variable {t : Transition} {m : ReplicaSet} {a : Advance} {next : Roster}

/-- Every step makes the change of its transition. -/
theorem effect_makes (wf : m.WellFormed) (h : (t.effect m).next? = some (a, next)) :
    (t.change m.toRoster).Makes m.toRoster a next := by
  cases t <;> simp only [effect, Effect.next?_whenever, Effect.next?_only, Effect.next?_ite,
    Effect.next?_edit, Effect.next?_step, Effect.next?_markedStep, Effect.next?_unchanged,
    Effect.next?_refused, Bool.and_eq_true, Bool.or_eq_true, decide_eq_true_eq,
    Option.some.injEq, Prod.mk.injEq, and_false, false_or] at h
  case addSecondaries ids =>
    obtain ⟨-, rfl, rfl⟩ := h
    exact ⟨rfl, rfl, rfl, rfl, rfl, .enter fun role => by cases role <;> rfl⟩
  case addArbiters ids =>
    obtain ⟨-, rfl, rfl⟩ := h
    exact ⟨rfl, rfl, rfl, rfl, rfl, .enter fun role => by cases role <;> rfl⟩
  case replaceSecondary old new =>
    -- `old` may be the registered instance and hold no role, so it is taken out of every one
    obtain ⟨-, rfl, rfl⟩ := h
    refine ⟨rfl, rfl, rfl, rfl, rfl, .swap Role.all ?_ ?_⟩
    · exact fun role notMem => absurd role.mem_all notMem
    · exact fun role => by cases role <;> rfl
  case inactiveForArbiter inactive arbiter =>
    obtain ⟨⟨held, -⟩, rfl, rfl⟩ := h
    exact ⟨rfl, rfl, rfl, rfl, rfl,
      .swapFrom .inactive wf held fun role => by cases role <;> rfl⟩
  case inactiveForJoining inactive joining =>
    obtain ⟨⟨held, -⟩, rfl, rfl⟩ := h
    exact ⟨rfl, rfl, rfl, rfl, rfl,
      .swapFrom .inactive wf held fun role => by cases role <;> rfl⟩
  case removeSecondary id =>
    obtain ⟨held, rfl, rfl⟩ := h
    exact ⟨rfl, rfl, rfl, rfl, rfl,
      .leave .secondary wf held fun role => by cases role <;> rfl⟩
  case removeArbiter id =>
    obtain ⟨held, rfl, rfl⟩ := h
    exact ⟨rfl, rfl, rfl, rfl, rfl,
      .leave .arbiter wf held fun role => by cases role <;> rfl⟩
  case removeInactive id =>
    obtain ⟨held, rfl, rfl⟩ := h
    exact ⟨rfl, rfl, rfl, rfl, rfl,
      .leave .inactive wf held fun role => by cases role <;> rfl⟩
  case electPrimary candidate =>
    rcases h with ⟨same, rfl, rfl⟩ | ⟨other, held, rfl, rfl⟩
    · simp only [change, if_pos same]
      exact ⟨rfl, same, rfl, rfl, rfl, .none fun role => by cases role <;> rfl⟩
    · simp only [change, if_neg other]
      cases temp : m.tempPrimary with
      | none =>
        exact ⟨rfl, rfl, rfl, rfl, rfl,
          .swapFrom .secondary wf held fun role => by cases role <;> rfl⟩
      | some id =>
        exact ⟨rfl, rfl, rfl, rfl, rfl,
          .swapFrom .secondary wf held fun role => by cases role <;> rfl⟩
  case arbiterToInactive id =>
    obtain ⟨held, rfl, rfl⟩ := h
    exact ⟨rfl, rfl, rfl, rfl, rfl,
      .swapFrom .arbiter wf held fun role => by cases role <;> rfl⟩
  case aliveToInactive id =>
    obtain ⟨held, rfl, rfl⟩ := h
    refine ⟨rfl, rfl, rfl, rfl, rfl, .swap [.secondary, .joining] ?_ ?_⟩
    · rcases held with held | held
      · exact wf.notMem_of_notMem ⟨.secondary, by simp, held⟩
      · exact wf.notMem_of_notMem ⟨.joining, by simp, held⟩
    · exact fun role => by cases role <;> rfl
  case addJoining id =>
    obtain ⟨-, -, rfl, rfl⟩ := h
    exact ⟨rfl, rfl, rfl, rfl, rfl, .enterOne fun role => by cases role <;> rfl⟩
  case joiningToSecondary id =>
    obtain ⟨held, rfl, rfl⟩ := h
    exact ⟨rfl, rfl, rfl, rfl, rfl,
      .swapFrom .joining wf held fun role => by cases role <;> rfl⟩
  case joiningToInactive id =>
    obtain ⟨held, rfl, rfl⟩ := h
    exact ⟨rfl, rfl, rfl, rfl, rfl,
      .swapFrom .joining wf held fun role => by cases role <;> rfl⟩
  case inactiveToJoining id =>
    obtain ⟨held, rfl, rfl⟩ := h
    exact ⟨rfl, rfl, rfl, rfl, rfl,
      .swapFrom .inactive wf held fun role => by cases role <;> rfl⟩
  case inactiveToArbiter id =>
    obtain ⟨held, rfl, rfl⟩ := h
    exact ⟨rfl, rfl, rfl, rfl, rfl,
      .swapFrom .inactive wf held fun role => by cases role <;> rfl⟩
  case promoteNominee id =>
    obtain ⟨⟨held, -⟩, rfl, rfl⟩ := h
    exact ⟨rfl, rfl, rfl, rfl, rfl,
      .swapFrom .secondary wf held fun role => by cases role <;> rfl⟩
  case candidateToJoining id =>
    obtain ⟨-, rfl, rfl⟩ := h
    exact ⟨rfl, rfl, rfl, rfl, rfl, .enterOne fun role => by cases role <;> rfl⟩
  case candidateForMember candidate replacee =>
    obtain ⟨⟨-, held⟩, rfl, rfl⟩ := h
    refine ⟨rfl, rfl, rfl, rfl, rfl, .swap [.secondary, .inactive, .joining] ?_ ?_⟩
    · rcases held with (held | held) | held
      · exact wf.notMem_of_notMem ⟨.secondary, by simp, held⟩
      · exact wf.notMem_of_notMem ⟨.inactive, by simp, held⟩
      · exact wf.notMem_of_notMem ⟨.joining, by simp, held⟩
    · exact fun role => by cases role <;> rfl
  case addCandidate id =>
    obtain ⟨-, -, rfl, rfl⟩ := h
    exact ⟨rfl, rfl, rfl, rfl, rfl, .none fun role => by cases role <;> rfl⟩
  case selectPotentialPrimary id =>
    obtain ⟨rfl, rfl⟩ := h
    exact ⟨rfl, rfl, rfl, rfl, rfl, .none fun role => by cases role <;> rfl⟩
  all_goals
    obtain ⟨-, rfl, rfl⟩ := h
    exact ⟨rfl, rfl, rfl, rfl, rfl, .none fun role => by cases role <;> rfl⟩

/-- Every step makes an admissible change. -/
theorem effect_admissible (wf : m.WellFormed) (h : (t.effect m).next? = some (a, next)) :
    (t.change m.toRoster).Admissible m.toRoster := by
  cases t <;> simp only [effect, Effect.next?_whenever, Effect.next?_only, Effect.next?_ite,
    Effect.next?_edit, Effect.next?_step, Effect.next?_markedStep, Effect.next?_unchanged,
    Effect.next?_refused, Bool.and_eq_true, Bool.or_eq_true, Bool.not_eq_true', Bool.not_eq_true,
    decide_eq_true_eq, and_false, false_or] at h
  case addSecondaries ids =>
    exact .ofUnknown rfl rfl rfl fun id mem => contains_of_mem_freshAmong mem
  case addArbiters ids =>
    exact .ofUnknown rfl rfl rfl fun id mem => contains_of_mem_freshAmong mem
  case replaceSecondary old new =>
    obtain ⟨⟨-, unknown⟩, -⟩ := h
    exact .ofUnknown rfl rfl rfl fun id mem => List.mem_singleton.1 mem ▸ unknown
  case inactiveForArbiter inactive arbiter =>
    obtain ⟨⟨held, rfl | unknown⟩, -⟩ := h
    · exact .ofHeld .inactive wf rfl rfl rfl held rfl rfl
    · exact .ofUnknown rfl rfl rfl fun id mem => List.mem_singleton.1 mem ▸ unknown
  case inactiveForJoining inactive joining =>
    obtain ⟨⟨held, rfl | unknown⟩, -⟩ := h
    · exact .ofHeld .inactive wf rfl rfl rfl held rfl rfl
    · exact .ofUnknown rfl rfl rfl fun id mem => List.mem_singleton.1 mem ▸ unknown
  case electPrimary candidate =>
    rcases h with ⟨same, -⟩ | ⟨other, held, -⟩
    · rw [change, if_pos same]
      exact .ofUnknown same.symm rfl rfl nofun
    · rw [change, if_neg other]
      exact .ofSuccession wf held rfl rfl rfl rfl
  case promoteNominee id =>
    exact .ofSuccession wf h.1.1 rfl rfl rfl rfl
  case arbiterToInactive id =>
    exact .ofHeld .arbiter wf rfl rfl rfl h.1 rfl rfl
  case aliveToInactive id =>
    rcases h.1 with held | held
    · exact .ofHeld .secondary wf rfl rfl rfl held rfl rfl
    · exact .ofHeld .joining wf rfl rfl rfl held rfl rfl
  case addJoining id =>
    obtain ⟨-, unknown, -⟩ := h
    exact .ofUnknown rfl rfl rfl fun id mem => List.mem_singleton.1 mem ▸ unknown
  case joiningToSecondary id =>
    exact .ofHeld .joining wf rfl rfl rfl h.1 rfl rfl
  case joiningToInactive id =>
    exact .ofHeld .joining wf rfl rfl rfl h.1 rfl rfl
  case inactiveToJoining id =>
    exact .ofHeld .inactive wf rfl rfl rfl h.1 rfl rfl
  case inactiveToArbiter id =>
    exact .ofHeld .inactive wf rfl rfl rfl h.1 rfl rfl
  case nominatePrimary id =>
    refine ⟨.inl rfl, List.not_mem_nil, nofun, ?_, nofun⟩
    rintro x ⟨⟩
    exact ⟨h.1.1, rfl⟩
  case addCandidate id =>
    obtain ⟨-, unknown, -⟩ := h
    refine ⟨.inl rfl, List.not_mem_nil, nofun, nofun, ?_⟩
    rintro x ⟨⟩
    exact ⟨unknown, rfl, rfl⟩
  case candidateToJoining id =>
    apply Change.Admissible.ofEntering rfl rfl rfl
    intro x mem
    obtain rfl := List.mem_singleton.1 mem
    exact ⟨wf.secondaryCandidate_ne x h.1, .inr (wf.secondaryCandidate_notMem x h.1)⟩
  case candidateForMember candidate replacee =>
    obtain ⟨⟨known, -⟩, -⟩ := h
    apply Change.Admissible.ofEntering rfl rfl rfl
    intro x mem
    obtain rfl := List.mem_singleton.1 mem
    exact ⟨wf.secondaryCandidate_ne x known, .inr (wf.secondaryCandidate_notMem x known)⟩
  all_goals exact .ofUnknown rfl rfl rfl nofun

end Transition

end ReplicaQuorum
