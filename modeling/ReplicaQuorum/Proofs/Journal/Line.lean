import Mathlib.Data.List.Nodup
import ReplicaQuorum.Journal.Notice
import ReplicaQuorum.Proofs.Json.ReadBack

/-!
# Canonical lines

The line of a notice reads back as its event, its severity and its fields in the order of their
keys, whatever texts these are. The order in which fields were given is lost only between different
keys: two notices have one line exactly if they agree in severity, event and the values that each
key was given, in their order.
-/

namespace ReplicaQuorum

/-- The names and texts of an object whose members are strings. -/
def Json.texts? : Json → Option (List (String × String))
  | object members => members.mapM fun (name, value) =>
    (unescape name).bind fun name => value.asText?.map fun text => (String.ofList name, text)
  | _ => none

/-- Severities have different names. -/
lemma Severity.name_injective : Function.Injective name := by
  intro a b
  cases a <;> cases b <;> decide

namespace Notice

variable {n k : Notice}

/-- The values that were given with a key, in their order. -/
def valuesAt (n : Notice) (key : String) : List String :=
  (n.fields.filter fun f => f.1 = key).map Prod.snd

/-- The object of a line. -/
def object (n : Notice) : Json :=
  Json.record (n.members.map fun m => (m.1, Json.text m.2))

/-! ## The order of the fields -/

/-- A field may stand before another one of the same or a later key. -/
abbrev mayPrecede (a b : String × String) : Bool :=
  decide (a.1 ≤ b.1)

/-- The order of fields is transitive. -/
lemma mayPrecede_trans (a b c : String × String) (ab : mayPrecede a b) (bc : mayPrecede b c) :
    mayPrecede a c := by
  simp only [decide_eq_true_eq] at ab bc ⊢
  exact String.le_trans ab bc

/-- Of two fields one may precede the other. -/
lemma mayPrecede_total (a b : String × String) : mayPrecede a b || mayPrecede b a := by
  simp only [Bool.or_eq_true, decide_eq_true_eq]
  exact String.le_total a.1 b.1

/-- Ordering the fields keeps them all. -/
lemma orderedFields_perm (n : Notice) : n.orderedFields.Perm n.fields :=
  List.mergeSort_perm ..

/-- The fields stand in the order of their keys. -/
lemma orderedFields_pairwise (n : Notice) :
    n.orderedFields.Pairwise fun a b => mayPrecede a b :=
  List.pairwise_mergeSort mayPrecede_trans mayPrecede_total n.fields

/-- Fields of one key stay in the order in which they were given. -/
lemma filter_orderedFields (n : Notice) (key : String) :
    (n.orderedFields.filter fun f => f.1 = key) = n.fields.filter fun f => f.1 = key := by
  have level : (n.fields.filter fun f => f.1 = key).Pairwise fun a b => mayPrecede a b := by
    refine List.pairwise_of_forall_mem_list fun a memA b memB => ?_
    have first : a.1 = key := by simpa using (List.mem_filter.1 memA).2
    have second : b.1 = key := by simpa using (List.mem_filter.1 memB).2
    exact decide_eq_true (first.trans second.symm ▸ String.le_refl _)
  have kept : (n.fields.filter fun f => f.1 = key).Sublist n.orderedFields :=
    List.sublist_mergeSort mayPrecede_trans mayPrecede_total level List.filter_sublist
  have within := kept.filter fun f => decide (f.1 = key)
  rw [List.filter_filter] at within
  simp only [Bool.and_self] at within
  exact (within.eq_of_length ((orderedFields_perm n).filter _).length_eq.symm).symm

/-- Fields of different keys may be given in any order. -/
lemma orderedFields_eq_of_perm (distinct : (n.fields.map Prod.fst).Nodup)
    (perm : n.fields.Perm k.fields) : n.orderedFields = k.orderedFields := by
  have same : n.orderedFields.Perm k.orderedFields :=
    (orderedFields_perm n).trans (perm.trans (orderedFields_perm k).symm)
  refine same.eq_of_pairwise ?_ (orderedFields_pairwise n) (orderedFields_pairwise k)
  intro a b memA memB ab ba
  have key : a.1 = b.1 := String.le_antisymm (of_decide_eq_true ab) (of_decide_eq_true ba)
  exact List.inj_on_of_nodup_map distinct ((orderedFields_perm n).subset memA)
    (perm.symm.subset ((orderedFields_perm k).subset memB)) key

/-- Lists of fields have the same members if they have the same ones of each key. -/
lemma mem_iff_of_filter {fields others : List (String × String)}
    (same : ∀ key, (fields.filter fun f => f.1 = key) = others.filter fun f => f.1 = key)
    (f : String × String) : f ∈ fields ↔ f ∈ others := by
  have found := congrArg (f ∈ ·) (same f.1)
  simpa using found

/-- Lists that begin with one key have the same first field if they have the same of each key, and
the same of each key after it. -/
lemma cons_of_filter {a b : String × String} {fields others : List (String × String)}
    (key : a.1 = b.1)
    (same : ∀ key, ((a :: fields).filter fun f => f.1 = key) =
      (b :: others).filter fun f => f.1 = key) :
    a = b ∧ ∀ key, (fields.filter fun f => f.1 = key) = others.filter fun f => f.1 = key := by
  have first := same a.1
  rw [List.filter_cons_of_pos (by simp), List.filter_cons_of_pos (by simp [key])] at first
  obtain ⟨rfl, rest⟩ := List.cons.inj first
  refine ⟨rfl, fun other => ?_⟩
  by_cases own : a.1 = other
  · exact own ▸ rest
  · have later := same other
    rwa [List.filter_cons_of_neg (by simpa using own),
      List.filter_cons_of_neg (by simpa using own)] at later

/-- Lists in the order of their keys are the same if they have the same fields of each key. -/
lemma eq_of_pairwise_of_filter {fields others : List (String × String)}
    (sorted : fields.Pairwise fun a b => mayPrecede a b)
    (sorted' : others.Pairwise fun a b => mayPrecede a b)
    (same : ∀ key, (fields.filter fun f => f.1 = key) = others.filter fun f => f.1 = key) :
    fields = others := by
  have mem_iff := mem_iff_of_filter same
  induction fields generalizing others with
  | nil =>
    have empty : ∀ f, f ∉ others := fun f mem => by simpa using (mem_iff f).2 mem
    exact (List.eq_nil_iff_forall_not_mem.2 empty).symm
  | cons a fields ih =>
    cases others with
    | nil => simpa using (mem_iff a).1 List.mem_cons_self
    | cons b others =>
      obtain ⟨first, later⟩ := List.pairwise_cons.1 sorted
      obtain ⟨first', later'⟩ := List.pairwise_cons.1 sorted'
      -- neither list begins with a key that the other one has not
      have below : ∀ f ∈ b :: others, b.1 ≤ f.1 :=
        List.forall_mem_cons.2 ⟨String.le_refl _, fun f mem => of_decide_eq_true (first' f mem)⟩
      have below' : ∀ f ∈ a :: fields, a.1 ≤ f.1 :=
        List.forall_mem_cons.2 ⟨String.le_refl _, fun f mem => of_decide_eq_true (first f mem)⟩
      have key : a.1 = b.1 := String.le_antisymm
        (below' b ((mem_iff b).2 List.mem_cons_self)) (below a ((mem_iff a).1 List.mem_cons_self))
      obtain ⟨rfl, rest⟩ := cons_of_filter key same
      rw [ih later later' rest (mem_iff_of_filter rest)]

/-- Lists with the same keys in the same order are the same if they have the same fields of each
key. -/
lemma eq_of_keys_of_filter {fields others : List (String × String)}
    (keys : fields.map Prod.fst = others.map Prod.fst)
    (same : ∀ key, (fields.filter fun f => f.1 = key) = others.filter fun f => f.1 = key) :
    fields = others := by
  induction fields generalizing others with
  | nil => exact (List.map_eq_nil_iff.1 keys.symm).symm
  | cons a fields ih =>
    cases others with
    | nil => cases keys
    | cons b others =>
      obtain ⟨key, later⟩ := List.cons.inj keys
      obtain ⟨rfl, rest⟩ := cons_of_filter key same
      rw [ih later rest]

/-- The fields of a key are the key with each of its values. -/
lemma filter_eq_map_valuesAt (n : Notice) (key : String) :
    (n.fields.filter fun f => f.1 = key) = (n.valuesAt key).map fun value => (key, value) := by
  rw [valuesAt, List.map_map]
  refine (List.map_id _).symm.trans (List.map_congr_left fun f mem => ?_)
  have own : f.1 = key := by simpa using (List.mem_filter.1 mem).2
  exact Prod.ext own rfl

/-- Two notices have the same fields of each key if these were given the same values. -/
lemma filter_eq_iff :
    (∀ key, (n.fields.filter fun f => f.1 = key) = k.fields.filter fun f => f.1 = key) ↔
      ∀ key, n.valuesAt key = k.valuesAt key := by
  refine forall_congr' fun key => ⟨fun same => congrArg (List.map Prod.snd) same, fun same => ?_⟩
  rw [filter_eq_map_valuesAt, filter_eq_map_valuesAt, same]

/-- The order of the fields depends on the values of each key only. -/
lemma orderedFields_eq_iff :
    n.orderedFields = k.orderedFields ↔ ∀ key, n.valuesAt key = k.valuesAt key := by
  rw [← filter_eq_iff]
  constructor
  · intro same key
    rw [← filter_orderedFields n, same, filter_orderedFields k]
  · intro same
    refine eq_of_pairwise_of_filter (orderedFields_pairwise n) (orderedFields_pairwise k) ?_
    intro key
    rw [filter_orderedFields, filter_orderedFields, same]

/-! ## Reading a line -/

/-- A line is the object of the notice and a line feed. -/
lemma toList_line (n : Notice) : n.line.toList = n.object.renderChars ++ ['\n'] := by
  rw [line, body, Json.render, String.toList_append, String.toList_ofList]
  rfl

/-- The values in the object of a notice are texts. -/
lemma isScalar_object (n : Notice) :
    ∀ m ∈ n.members.map fun m => (m.1, Json.text m.2), Json.IsScalar m.2 := by
  intro m mem
  obtain ⟨member, -, rfl⟩ := List.mem_map.1 mem
  exact .text member.2

/-- The names and texts of an object are those it was written with. -/
lemma texts?_record (members : List (String × String)) :
    (Json.record (members.map fun m => (m.1, Json.text m.2))).texts? = some members := by
  rw [Json.record, Json.texts?, List.map_map]
  induction members with
  | nil => rfl
  | cons m members ih =>
    rw [List.map_cons, List.mapM_cons, ih]
    simp [Json.unescape_escape, Json.asText?_text]

/-- A line reads back as the members of its object. -/
lemma texts?_read (n : Notice) :
    (Json.read? n.object.renderChars).bind Json.texts? = some n.members := by
  have back : Json.read? ([] ++ n.object.renderChars) = some n.object :=
    Json.read?_record nofun (List.cons_ne_nil _ _) (isScalar_object n)
  rw [List.nil_append] at back
  rw [back]
  exact texts?_record n.members

/-- The line tells the severity, the event and the ordered fields. -/
lemma line_eq_iff_orderedFields :
    n.line = k.line ↔
      n.severity = k.severity ∧ n.event = k.event ∧ n.orderedFields = k.orderedFields := by
  constructor
  · intro same
    have text := congrArg String.toList same
    rw [toList_line, toList_line, List.append_left_inj] at text
    have read := texts?_read n
    rw [text, texts?_read k] at read
    have members : k.members = n.members := Option.some.inj read
    simp only [Notice.members, List.cons.injEq, Prod.mk.injEq, true_and] at members
    obtain ⟨event, severity, fields⟩ := members
    exact ⟨(Severity.name_injective severity).symm, event.symm, fields.symm⟩
  · rintro ⟨severity, event, fields⟩
    rw [line, line, body, body, members, members, severity, event, fields]

/-- A line is canonical. It ends in its only line feed, and what stands before it reads back, every
string unescaped, as the event, the severity and the fields in the order of their keys. Fields of
different keys may be given in any order. Two notices have one line exactly if they have the same
severity and event and each key was given the same values; if the keys were the same too, they are
one notice. -/
theorem line_canonical (n : Notice) :
    (∃ text, n.line.toList = text ++ ['\n'] ∧ '\n' ∉ text ∧
      (Json.read? text).bind Json.texts? = some n.members) ∧
    (∀ fields, (n.fields.map Prod.fst).Nodup → n.fields.Perm fields →
      { n with fields }.line = n.line) ∧
    (∀ k : Notice, n.line = k.line ↔
      n.severity = k.severity ∧ n.event = k.event ∧ ∀ key, n.valuesAt key = k.valuesAt key) ∧
    (∀ k : Notice, n.line = k.line → n.fields.map Prod.fst = k.fields.map Prod.fst → n = k) := by
  refine ⟨⟨_, toList_line n, Json.newline_notMem_record (isScalar_object n), texts?_read n⟩,
    ?_, ?_, ?_⟩
  · intro fields distinct perm
    have ordered : { n with fields }.orderedFields = n.orderedFields :=
      (orderedFields_eq_of_perm distinct perm).symm
    exact line_eq_iff_orderedFields.2 ⟨rfl, rfl, ordered⟩
  · intro k
    rw [line_eq_iff_orderedFields, orderedFields_eq_iff]
  · intro k same keys
    obtain ⟨severity, event, ordered⟩ := line_eq_iff_orderedFields.1 same
    have fields : n.fields = k.fields :=
      eq_of_keys_of_filter keys (filter_eq_iff.2 (orderedFields_eq_iff.1 ordered))
    cases n
    cases k
    exact Notice.mk.injEq .. ▸ ⟨severity, event, fields⟩

/-- Two fields in either order, one with a line feed in it; and a value that spells the quotes and
the comma between two fields, which do not pass for them. -/
theorem line_canonical_imitation :
    ∃ n k : Notice, (n.fields.map Prod.fst).Nodup ∧ n.fields.Perm n.fields.reverse ∧
      { n with fields := n.fields.reverse }.line = n.line ∧
      n.valuesAt "to" = ["2\n"] ∧ k.valuesAt "from" = ["1\",\"to\":\"2\n"] ∧ n.line ≠ k.line := by
  let n : Notice := ⟨.warn, "X", [("to", "2\n"), ("from", "1")]⟩
  let k : Notice := ⟨.warn, "X", [("from", "1\",\"to\":\"2\n")]⟩
  have distinct : (n.fields.map Prod.fst).Nodup := by decide
  have perm : n.fields.Perm n.fields.reverse := (List.reverse_perm _).symm
  obtain ⟨-, reordered, told, -⟩ := line_canonical n
  have differ : n.valuesAt "to" ≠ k.valuesAt "to" := by decide
  refine ⟨n, k, distinct, perm, reordered _ distinct perm, by decide, by decide, fun same => ?_⟩
  exact differ (((told k).1 same).2.2 "to")

end Notice

end ReplicaQuorum
