import ReplicaQuorum.Journal.Notice

/-!
# Logged values

A value together with the notices given on the way to it. Steps that give notices are put together
in order: the notices of the first one come before those of the next.
-/

namespace ReplicaQuorum

/-- A value and the notices given on the way to it. -/
structure Logged (α : Type) where
  value : α
  notices : List Notice := []
deriving DecidableEq, Repr

namespace Logged

/-- The next step on a value, whose notices follow. -/
def bind {α β : Type} (l : Logged α) (f : α → Logged β) : Logged β :=
  ⟨(f l.value).value, l.notices ++ (f l.value).notices⟩

instance : Monad Logged where
  pure a := ⟨a, []⟩
  bind := Logged.bind

/-- Gives a notice. -/
def note (n : Notice) : Logged Unit :=
  ⟨(), [n]⟩

/-- A value without notices is that value. -/
@[simp]
theorem value_pure {α : Type} (a : α) : (pure a : Logged α).value = a :=
  rfl

/-- A value by itself comes with no notices. -/
@[simp]
theorem notices_pure {α : Type} (a : α) : (pure a : Logged α).notices = [] :=
  rfl

/-- The value of a next step is worked out from the value before. -/
@[simp]
theorem value_bind {α β : Type} (l : Logged α) (f : α → Logged β) :
    (l >>= f).value = (f l.value).value :=
  rfl

/-- The notices of a next step follow those before. -/
@[simp]
theorem notices_bind {α β : Type} (l : Logged α) (f : α → Logged β) :
    (l >>= f).notices = l.notices ++ (f l.value).notices :=
  rfl

/-- A function of a logged value is taken of the value. -/
@[simp]
theorem value_map {α β : Type} (f : α → β) (l : Logged α) : (f <$> l).value = f l.value :=
  rfl

/-- A notice has no value to tell. -/
@[simp]
theorem value_note (n : Notice) : (note n).value = () :=
  rfl

/-- A notice by itself is the only one. -/
@[simp]
theorem notices_note (n : Notice) : (note n).notices = [n] :=
  rfl

end Logged

end ReplicaQuorum
