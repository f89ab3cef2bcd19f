import ReplicaQuorum.Proofs.Liveness.Record
import ReplicaQuorum.Proofs.Status.Degrade
import ReplicaQuorum.ReplicaSet.Content

/-!
# Racing marks

Callbacks mark members in whatever order their answers arrive. Which marks are refused depends on
that order, and so may the status that is left; but the axes that are down do not. A mark that is
taken raises the number of axes that are down to the one it reports, and one that is refused reports
no more than is down already, or is of another family. So each member ends with the axes down that
were down before or in some report from its family. What the record says of a member depends on the
marks of that member only.
-/

namespace ReplicaQuorum

namespace Status

variable {s t u : Status} {ts us : List Status} {n : Nat}

/-- The axes that decide where requests go: down for reads, and down for writes. -/
def axes (s : Status) : Bool × Bool :=
  (s.readDown, s.writeDown)

/-- What a mark makes of a status. -/
def marked (s t : Status) : Status :=
  if s.canMoveTo t then t else s

/-- What marks make of a status, one after another. -/
def markedBy (s : Status) (ts : List Status) : Status :=
  ts.foldl marked s

/-- The number of axes that are down tells which ones. -/
lemma axes_eq_of_downCount_eq (eq : s.downCount = t.downCount) : s.axes = t.axes := by
  have reads : s.readDown = t.readDown := Bool.eq_iff_iff.2 (by rw [readDown_iff, readDown_iff, eq])
  have writes : s.writeDown = t.writeDown :=
    Bool.eq_iff_iff.2 (by rw [writeDown_iff, writeDown_iff, eq])
  rw [axes, axes, reads, writes]

/-- Statuses of one family agree with the same statuses on the role. -/
lemma sameRole_congr (same : s.family = t.family) : s.sameRole u = t.sameRole u := by
  rw [sameRole, sameRole, same]

/-- A mark keeps the family. -/
lemma family_marked : (s.marked t).family = s.family := by
  rw [marked]
  split
  · next moves => exact (family_eq_of_canMoveTo moves).symm
  · rfl

/-- A mark of the family raises the number of axes that are down to its own, taken or not. -/
lemma downCount_marked :
    (s.marked t).downCount = if s.sameRole t then max s.downCount t.downCount else s.downCount := by
  cases s <;> cases t <;> decide

/-- In the end as many axes are down as at first, or as in the worst report from the family. -/
lemma le_downCount_markedBy_iff : n ≤ (s.markedBy ts).downCount ↔
    n ≤ s.downCount ∨ ∃ t ∈ ts, s.sameRole t ∧ n ≤ t.downCount := by
  induction ts generalizing s with
  | nil => simp [markedBy]
  | cons t ts ih =>
    have first : n ≤ (s.marked t).downCount ↔
        n ≤ s.downCount ∨ s.sameRole t ∧ n ≤ t.downCount := by
      rw [downCount_marked]
      cases s.sameRole t <;> simp
    show n ≤ ((s.marked t).markedBy ts).downCount ↔ _
    simp only [ih, first, sameRole_congr family_marked, List.mem_cons, exists_eq_or_imp, or_assoc]

/-- The order of marks makes no difference to the axes. -/
lemma axes_markedBy_of_perm (perm : ts.Perm us) : (s.markedBy ts).axes = (s.markedBy us).axes := by
  refine axes_eq_of_downCount_eq (eq_of_forall_le_iff fun n => ?_)
  simp only [le_downCount_markedBy_iff, perm.mem_iff]

end Status

namespace ReplicaSet

variable {m : ReplicaSet} {id other : InstanceId} {s t : Status}
  {calls order : List (InstanceId × Status)}

/-! ## One mark -/

/-- A member with a status that can be marked. -/
def Markable (m : ReplicaSet) (id : InstanceId) (s : Status) : Prop :=
  m.contains id = true ∧ m.status? id = some s

/-- A member that can be marked still can once it was. -/
lemma Markable.record (markable : m.Markable id s) (t : Status) :
    (m.record id t).Markable id t := by
  refine ⟨markable.1, ?_⟩
  rw [(moves_record m id t).status, if_pos rfl]

/-- What is recorded of another member makes no difference. -/
lemma markable_record_iff (ne : id ≠ other) :
    (m.record other t).Markable id s ↔ m.Markable id s := by
  rw [Markable, Markable, (moves_record m other t).status, if_neg ne]
  exact Iff.rfl

/-- A mark records what it makes of the status, also where it is refused. -/
lemma mark_of_markable (markable : m.Markable id s) :
    (m.mark id t).value.2 = m.record id (s.marked t) := by
  obtain ⟨contained, known⟩ := markable
  rw [mark_of_known contained known, Status.marked]
  split <;> rfl

/-- A member that cannot be marked is not. -/
lemma mark_of_not_markable (unmarkable : ∀ s, ¬m.Markable id s) : (m.mark id t).value.2 = m := by
  rw [mark]
  cases contained : m.contains id with
  | false => rfl
  | true =>
    have unknown : m.status? id = none :=
      Option.eq_none_iff_forall_ne_some.2 fun s known => unmarkable s ⟨contained, known⟩
    simp only [statusOf_of_eq_none unknown]
    rfl

/-- A mark concerns one member, and changes nothing but the record. -/
lemma mark_of_ne (ne : id ≠ other) (t : Status) :
    (m.mark other t).value.2.statuses.get? id = m.statuses.get? id ∧
      ∀ s, (m.mark other t).value.2.Markable id s ↔ m.Markable id s := by
  by_cases marks : ∃ s, m.Markable other s
  · obtain ⟨s, markable⟩ := marks
    rw [mark_of_markable markable]
    refine ⟨?_, fun _ => markable_record_iff ne⟩
    rw [record, IdMap.get?_insert, if_neg ne]
  · rw [mark_of_not_markable (not_exists.1 marks)]
    exact ⟨rfl, fun _ => Iff.rfl⟩

/-- A mark changes the recorded statuses only. -/
lemma mark_eq_of_statuses (m : ReplicaSet) (id : InstanceId) (t : Status) :
    (m.mark id t).value.2 = { m with statuses := (m.mark id t).value.2.statuses } := by
  by_cases marks : ∃ s, m.Markable id s
  · obtain ⟨s, markable⟩ := marks
    rw [mark_of_markable markable]
    rfl
  · rw [mark_of_not_markable (not_exists.1 marks)]

/-! ## All marks -/

/-- Marks members one after another. -/
def markAll (m : ReplicaSet) (calls : List (InstanceId × Status)) : ReplicaSet :=
  calls.foldl (fun m call => (m.mark call.1 call.2).value.2) m

/-- What the calls report of a member, in their order. -/
def reportsOf (id : InstanceId) (calls : List (InstanceId × Status)) : List Status :=
  (calls.filter fun call => call.1 = id).map Prod.snd

/-- A call reports of the member that it marks. -/
lemma reportsOf_cons_self : reportsOf id ((id, t) :: calls) = t :: reportsOf id calls := by
  simp [reportsOf]

/-- A call does not report of other members. -/
lemma reportsOf_cons_of_ne (ne : id ≠ other) :
    reportsOf id ((other, t) :: calls) = reportsOf id calls := by
  simp [reportsOf, ne.symm]

/-- Calls about different members report the same in either order. -/
lemma reportsOf_swap {x : InstanceId} (ne : id ≠ other) :
    reportsOf x ((id, s) :: (other, t) :: calls)
      = reportsOf x ((other, t) :: (id, s) :: calls) := by
  by_cases own : x = id
  · subst own
    rw [reportsOf_cons_self, reportsOf_cons_of_ne ne, reportsOf_cons_of_ne ne, reportsOf_cons_self]
  · rw [reportsOf_cons_of_ne own]
    by_cases theirs : x = other
    · subst theirs
      rw [reportsOf_cons_self, reportsOf_cons_self, reportsOf_cons_of_ne own]
    · rw [reportsOf_cons_of_ne theirs, reportsOf_cons_of_ne theirs, reportsOf_cons_of_ne own]

/-- What is reported of a member is what calls mark it as. -/
lemma mem_reportsOf : t ∈ reportsOf id calls ↔ (id, t) ∈ calls := by
  simp [reportsOf]

/-- The first call is made first. -/
lemma markAll_cons (m : ReplicaSet) (id : InstanceId) (t : Status)
    (calls : List (InstanceId × Status)) :
    m.markAll ((id, t) :: calls) = (m.mark id t).value.2.markAll calls :=
  rfl

/-- Of each member, marks record what the reports of that member make of its status together. -/
lemma get?_markAll (markable : m.Markable id s) :
    (m.markAll calls).statuses.get? id
      = if reportsOf id calls = [] then m.statuses.get? id
        else some (s.markedBy (reportsOf id calls)) := by
  induction calls generalizing m s with
  | nil => rfl
  | cons call calls ih =>
    obtain ⟨other, t⟩ := call
    rw [markAll_cons]
    by_cases own : id = other
    · subst own
      rw [mark_of_markable markable, ih (markable.record _), reportsOf_cons_self,
        if_neg (List.cons_ne_nil _ _)]
      split
      · next last =>
        rw [last, record, IdMap.get?_insert_self]
        rfl
      · rfl
    · obtain ⟨recorded, marks⟩ := mark_of_ne (m := m) own t
      rw [ih ((marks s).2 markable), recorded, reportsOf_cons_of_ne own]

/-- Of a member that cannot be marked nothing is recorded. -/
lemma get?_markAll_of_not_markable (unmarkable : ∀ s, ¬m.Markable id s) :
    (m.markAll calls).statuses.get? id = m.statuses.get? id := by
  induction calls generalizing m with
  | nil => rfl
  | cons call calls ih =>
    obtain ⟨other, t⟩ := call
    rw [markAll_cons]
    by_cases own : id = other
    · subst own
      rw [mark_of_not_markable unmarkable, ih unmarkable]
    · obtain ⟨recorded, marks⟩ := mark_of_ne (m := m) own t
      rw [ih fun s => mt (marks s).1 (unmarkable s), recorded]

/-- Marks change the recorded statuses only. -/
lemma markAll_eq_of_statuses (m : ReplicaSet) (calls : List (InstanceId × Status)) :
    m.markAll calls = { m with statuses := (m.markAll calls).statuses } := by
  induction calls generalizing m with
  | nil => rfl
  | cons call calls ih =>
    rw [markAll_cons, ih, mark_eq_of_statuses]

/-- Marks that report the same of each member, each member's own in one order, leave one record. -/
lemma markAll_congr (own : ∀ id, reportsOf id order = reportsOf id calls) :
    m.markAll order = m.markAll calls := by
  have same : (m.markAll order).statuses = (m.markAll calls).statuses := by
    ext id : 1
    by_cases marks : ∃ s, m.Markable id s
    · obtain ⟨s, markable⟩ := marks
      rw [get?_markAll markable, get?_markAll markable, own]
    · have unmarkable := not_exists.1 marks
      rw [get?_markAll_of_not_markable unmarkable, get?_markAll_of_not_markable unmarkable]
  rw [markAll_eq_of_statuses m order, markAll_eq_of_statuses m calls, same]

/-- Marks keep the roster. -/
lemma toRoster_markAll : (m.markAll calls).toRoster = m.toRoster := by
  rw [markAll_eq_of_statuses]

/-- What is told of a member after the marks. -/
lemma status?_markAll (markable : m.Markable id s) :
    (m.markAll calls).status? id = some (s.markedBy (reportsOf id calls)) := by
  rw [status?, get?_markAll markable, toRoster_markAll]
  split
  · next silent =>
    rw [silent]
    exact markable.2
  · rfl

/-- The order of calls makes no difference to the axes of what is recorded. -/
lemma map_axes_get?_markAll_of_perm (perm : order.Perm calls) (id : InstanceId) :
    ((m.markAll order).statuses.get? id).map Status.axes
      = ((m.markAll calls).statuses.get? id).map Status.axes := by
  have reports : (reportsOf id order).Perm (reportsOf id calls) := (perm.filter _).map _
  by_cases marks : ∃ s, m.Markable id s
  · obtain ⟨s, markable⟩ := marks
    have none_iff : reportsOf id order = [] ↔ reportsOf id calls = [] := by
      rw [← List.length_eq_zero_iff, ← List.length_eq_zero_iff, reports.length_eq]
    rw [get?_markAll markable, get?_markAll markable]
    simp only [none_iff]
    split
    · rfl
    · exact congrArg some (Status.axes_markedBy_of_perm reports)
  · have unmarkable := not_exists.1 marks
    rw [get?_markAll_of_not_markable unmarkable, get?_markAll_of_not_markable unmarkable]

/-- In whatever order marks race, each member ends with the same axes down: those that were down,
and those that are down in some report from its family. Marks of different members commute exactly,
and orders that keep each member's own marks in order leave the same record. -/
theorem racing_marks_agree (perm : order.Perm calls) :
    (∀ id, ((m.markAll order).statuses.get? id).map Status.axes
          = ((m.markAll calls).statuses.get? id).map Status.axes ∧
        ((m.markAll order).status? id).map Status.axes
          = ((m.markAll calls).status? id).map Status.axes) ∧
    (∀ id s, m.contains id = true → m.status? id = some s →
      ∃ u, (m.markAll order).status? id = some u ∧
        (u.readDown ↔ s.readDown ∨ ∃ t, (id, t) ∈ calls ∧ s.sameRole t ∧ t.readDown) ∧
        (u.writeDown ↔ s.writeDown ∨ ∃ t, (id, t) ∈ calls ∧ s.sameRole t ∧ t.writeDown)) ∧
    (∀ id s other t, id ≠ other →
      ((m.mark id s).value.2.mark other t).value.2 = ((m.mark other t).value.2.mark id s).value.2) ∧
    ((∀ id, reportsOf id order = reportsOf id calls) → m.markAll order = m.markAll calls) := by
  refine ⟨fun id => ?_, fun id s contained known => ?_, fun id s other t ne => ?_, markAll_congr⟩
  · have recorded := map_axes_get?_markAll_of_perm (m := m) perm id
    refine ⟨recorded, ?_⟩
    rw [status?, status?, toRoster_markAll, toRoster_markAll, Option.map_or, Option.map_or,
      recorded]
  · refine ⟨_, status?_markAll ⟨contained, known⟩, ?_⟩
    simp only [Status.readDown_iff, Status.writeDown_iff, Status.le_downCount_markedBy_iff,
      mem_reportsOf, perm.mem_iff, and_self]
  · show m.markAll [(id, s), (other, t)] = m.markAll [(other, t), (id, s)]
    exact markAll_congr fun x => reportsOf_swap ne

/-- Of two racing pairs of marks, a temporary primary is left in one order and a secondary in the
other, both with no axis down; the other member is fully down in both orders. -/
theorem racing_marks_agree_degraded :
    ∃ (m : ReplicaSet) (calls order : List (InstanceId × Status)),
      Content.decode "1,0,1,-1,2:3,,,,-1,-1" = .ok m ∧
      calls = [(3, .tempPrimary), (3, .secondary), (2, .secondaryReadDown), (2, .secondaryDown)] ∧
      order = [(2, .secondaryDown), (3, .secondary), (2, .secondaryReadDown), (3, .tempPrimary)] ∧
      order.Perm calls ∧
      (m.markAll calls).status? 3 = some .secondary ∧
      (m.markAll order).status? 3 = some .tempPrimary ∧
      ((m.markAll order).status? 3).map Status.axes
        = ((m.markAll calls).status? 3).map Status.axes ∧
      ((m.markAll order).status? 2).map Status.axes
        = ((m.markAll calls).status? 2).map Status.axes ∧
      (m.markAll order).status? 2 = some .secondaryDown := by
  let m : ReplicaSet := .ofRoster
    { version := ⟨1, 0⟩, primary := 1, secondaries := .ofList [2, 3] }
  let calls : List (InstanceId × Status) :=
    [(3, .tempPrimary), (3, .secondary), (2, .secondaryReadDown), (2, .secondaryDown)]
  let order : List (InstanceId × Status) :=
    [(2, .secondaryDown), (3, .secondary), (2, .secondaryReadDown), (3, .tempPrimary)]
  have perm : order.Perm calls := by decide
  obtain ⟨agree, -⟩ := racing_marks_agree (m := m) perm
  exact ⟨m, calls, order, by rfl, rfl, rfl, perm, by rfl, by rfl, (agree 3).2, (agree 2).2, by rfl⟩

end ReplicaSet

end ReplicaQuorum
