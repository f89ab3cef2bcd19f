import ReplicaQuorum.Proofs.Content.Grammar

/-!
# Reading back contents

The content of a roster reads back as the roster, whatever its words and however large its sets:
each of its fields spells what it was written for, and there is nothing to trim from it. A content
decodes if its roster is well formed, which every replica set is that transitions lead to.
-/

namespace ReplicaQuorum

namespace Content

open Text

/-! ## Blanks -/

variable {c : Char} {n : UInt64}

/-- There are no blanks in a number that is written. -/
lemma not_isBlank_of_mem_wordField (mem : c ∈ wordField n) : isBlank c = false :=
  isBlank_of_isDigit (isDigit_of_mem_decimal mem)

/-- There are no blanks in an identifier that may be absent. -/
lemma not_isBlank_of_mem_optionalField {id : Option InstanceId} (mem : c ∈ optionalField id) :
    isBlank c = false := by
  cases id with
  | none =>
    have mem : c ∈ ['-', '1'] := mem
    simp only [List.mem_cons, List.not_mem_nil, or_false] at mem
    rcases mem with rfl | rfl <;> rfl
  | some id => exact not_isBlank_of_mem_wordField mem

/-- There are no blanks in a set that is written. -/
lemma not_isBlank_of_mem_setField {ids : IdSet} (mem : c ∈ setField ids) : isBlank c = false := by
  rcases mem_join mem with mem | ⟨field, memFields, mem⟩
  · obtain rfl := List.mem_singleton.1 mem
    rfl
  · obtain ⟨id, -, rfl⟩ := List.mem_map.1 memFields
    exact not_isBlank_of_mem_wordField mem

/-- There are no blanks in the fields that are written for a roster. -/
lemma not_isBlank_of_mem_fields {r : Roster} {field : Field} (memFields : field ∈ fields r)
    (mem : c ∈ field) : isBlank c = false := by
  simp only [fields, List.mem_cons, List.not_mem_nil, or_false] at memFields
  rcases memFields with rfl | rfl | rfl | rfl | rfl | rfl | rfl | rfl | rfl | rfl
  · exact not_isBlank_of_mem_wordField mem
  · exact not_isBlank_of_mem_wordField mem
  · exact not_isBlank_of_mem_wordField mem
  · exact not_isBlank_of_mem_optionalField mem
  · exact not_isBlank_of_mem_setField mem
  · exact not_isBlank_of_mem_setField mem
  · exact not_isBlank_of_mem_setField mem
  · exact not_isBlank_of_mem_setField mem
  · exact not_isBlank_of_mem_optionalField mem
  · exact not_isBlank_of_mem_optionalField mem

/-- There is nothing to trim from a content. -/
lemma trim_encodeChars (r : Roster) : trim (encodeChars r) = encodeChars r := by
  refine trim_eq_self_of_forall fun c mem => ?_
  rcases mem_join mem with mem | ⟨field, memFields, mem⟩
  · obtain rfl := List.mem_singleton.1 mem
    rfl
  · exact not_isBlank_of_mem_fields memFields mem

/-! ## Fields -/

/-- The field of a word spells the word. -/
lemma isWord_wordField (n : UInt64) : IsWord (wordField n) n := by
  rw [isWord_iff, trim_eq_self_of_forall fun _ => not_isBlank_of_mem_wordField]
  exact isNumeral_decimal n.toNat

/-- The field of an instance spells the instance, or that it is absent. -/
lemma isOptional_optionalField (id : Option InstanceId) : IsOptional (optionalField id) id := by
  cases id with
  | none => exact .absent (trim_eq_iff.1 rfl)
  | some id => exact .present (isWord_wordField id)

/-- The field of a set spells the set. -/
lemma isSet_setField (ids : IdSet) : IsSet (setField ids) ids := by
  by_cases memberless : ids.toList = []
  · have empty : ids = ∅ := by
      ext id
      rw [← IdSet.mem_toList, memberless]
      exact iff_of_false List.not_mem_nil IdSet.not_mem_empty
    rw [empty]
    exact .empty
  · have words : List.Forall₂ IsWord (ids.toList.map wordField) ids.toList :=
      List.forall₂_map_left_iff.2 (List.forall₂_same.2 fun id _ => isWord_wordField id)
    exact .members (by simpa using memberless) words fun _ => IdSet.mem_toList.symm

/-- The fields of a roster list its parts. -/
lemma lists_fields (r : Roster) : Lists r (fields r) :=
  ⟨isWord_wordField _, isWord_wordField _, isWord_wordField _, isOptional_optionalField _,
    isSet_setField _, isSet_setField _, isSet_setField _, isSet_setField _,
    isOptional_optionalField _, isOptional_optionalField _⟩

/-! ## Contents -/

variable {r s : Roster}

/-- The content of any roster spells the roster. -/
theorem spells_encode (r : Roster) : Spells (encode r).toList r := by
  rw [encode, String.toList_ofList]
  exact ⟨encodeChars r, fields r, trim_eq_iff.1 (trim_encodeChars r), rfl, lists_fields r⟩

/-- The content of any roster lists the roster. -/
theorem readRoster_encode (r : Roster) : readRoster (encode r) = .ok r :=
  readRoster_eq_ok_iff.2 (spells_encode r)

/-- The content of a well formed roster decodes to the roster as nobody has seen it yet. -/
theorem decode_encode (wf : r.WellFormed) : decode (encode r) = .ok (.ofRoster r) :=
  decode_of_wellFormed (spells_encode r) wf

/-- Different rosters have different contents. -/
theorem encode_injective : Function.Injective encode := by
  intro r s eq
  have read := readRoster_encode r
  rw [eq, readRoster_encode] at read
  exact (Except.ok.inj read).symm

/-- The content of what any run leads to decodes to the same roster, and rosters that runs lead to
have the same content exactly if they are the same. -/
theorem decode_encode_reachable {m : ReplicaSet} (reached : m.Reachable) :
    (∃ k, decode (encode m.toRoster) = .ok k ∧ k.toRoster = m.toRoster) ∧
    ∀ n : ReplicaSet, n.Reachable →
      (encode m.toRoster = encode n.toRoster ↔ m.toRoster = n.toRoster) := by
  refine ⟨⟨.ofRoster m.toRoster, decode_encode reached.wellFormed, rfl⟩, fun n _ => ?_⟩
  exact encode_injective.eq_iff

/-- The largest word as epoch and as instance, no arbiters left, and a temporary primary. -/
theorem decode_encode_reachable_temporary :
    ∃ m n : ReplicaSet, m.Reachable ∧ n.Reachable ∧ encode m.toRoster =
        "18446744073709551615,6,0,18446744073709551615,7:18446744073709551615,,,9,-1,-1" ∧
      (∃ k, decode (encode m.toRoster) = .ok k ∧ k.toRoster = m.toRoster) ∧
      encode m.toRoster ≠ encode n.toRoster := by
  let built : ReplicaSet := .ofRoster
    { version := ⟨18446744073709551615, 1⟩, primary := 0, arbiters := .ofList [3]
      secondaries := .ofList [18446744073709551615, 7], joining := .ofList [9] }
  let removed : ReplicaSet := .ofRoster
    { version := ⟨18446744073709551615, 2⟩, primary := 0
      secondaries := .ofList [18446744073709551615, 7], joining := .ofList [9] }
  let appointed : ReplicaSet := .ofRoster
    { version := ⟨18446744073709551615, 6⟩, primary := 0
      tempPrimary := some 18446744073709551615
      secondaries := .ofList [18446744073709551615, 7], joining := .ofList [9] }
  have build : ReplicaSet.build built.toRoster = .ok built := by rfl
  have remove : Transition.outcome (.removeArbiter 3) built = .ok (some removed) := by rfl
  have appoint : Transition.outcome (.appointTempPrimary 18446744073709551615) removed
      = .ok (some appointed) := by rfl
  have start : built.Reachable := ⟨_, _, _, build, .nil⟩
  have reached : appointed.Reachable := ⟨_, _, _, build, .snoc (.snoc .nil remove) appoint⟩
  obtain ⟨decoded, same⟩ := decode_encode_reachable reached
  have differ : appointed.toRoster ≠ built.toRoster := by decide
  exact ⟨appointed, built, reached, start, by decide, decoded,
    fun eq => differ ((same _ start).1 eq)⟩

end Content

end ReplicaQuorum
