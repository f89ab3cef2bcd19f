import Mathlib.Tactic.Basic

/-!
# Computations that may fail

When a computation made of others gives a value, and that it fails only as its parts fail.
-/

namespace ReplicaQuorum

variable {ε α β : Type} {x : Except ε α} {next : α → Except ε β} {f : α → β} {b : β}

/-- What goes on with the result of another computation has a result if both do. -/
lemma bind_eq_ok_iff : x >>= next = .ok b ↔ ∃ a, x = .ok a ∧ next a = .ok b := by
  cases x with
  | error e => exact iff_of_false nofun nofun
  | ok a => exact ⟨fun result => ⟨a, rfl, result⟩, fun ⟨_, eq, result⟩ => by cases eq; exact result⟩

/-- A function of an outcome succeeds exactly if the outcome does. -/
lemma map_eq_ok_iff : x.map f = .ok b ↔ ∃ a, x = .ok a ∧ f a = b := by
  cases x with
  | error e => exact iff_of_false nofun nofun
  | ok a => simp [Except.map]

/-- An outcome is an error exactly if it is no success. -/
lemma exists_error_iff : (∃ e, x = .error e) ↔ ¬∃ a, x = .ok a := by
  cases x <;> simp

/-- Every error of the computation is as `P` says. -/
def FailsOnly (P : ε → Prop) (x : Except ε α) : Prop :=
  ∀ e, x = .error e → P e

namespace FailsOnly

variable {P : ε → Prop}

/-- A success fails with nothing. -/
lemma ok (a : α) : FailsOnly P (.ok a) := by
  rintro e ⟨⟩

/-- An error that is allowed for fails with nothing else. -/
lemma error {e : ε} (h : P e) : FailsOnly P (.error e : Except ε α) := by
  rintro _ ⟨⟩
  exact h

/-- A step and the steps after it fail with what each of them may fail with. -/
lemma bind (first : FailsOnly P x) (others : ∀ a, FailsOnly P (next a)) :
    FailsOnly P (x >>= next) := by
  cases x with
  | error e => exact .error (first e rfl)
  | ok a => exact others a

/-- A function of an outcome fails with what the outcome fails with. -/
lemma map (inner : FailsOnly P x) (f : α → β) : FailsOnly P (x.map f) := by
  cases x with
  | error e => exact .error (inner e rfl)
  | ok a => exact .ok (f a)

/-- Going through a list fails only as its items fail. -/
lemma mapM {g : α → Except ε β} (each : ∀ a, FailsOnly P (g a)) (items : List α) :
    FailsOnly P (items.mapM g) := by
  induction items with
  | nil => exact .ok []
  | cons item items ih =>
    rw [List.mapM_cons]
    exact (each item).bind fun b => ih.bind fun bs => .ok (b :: bs)

end FailsOnly

end ReplicaQuorum
