import Mathlib.Data.List.Forall2
import ReplicaQuorum.Proofs.Except
import ReplicaQuorum.Proofs.Text.Numeral
import ReplicaQuorum.Proofs.Text.Pieces
import ReplicaQuorum.Proofs.Transition.Run

/-!
# The grammar of contents

Which texts are contents, and what each of them says. The grammar tells for every kind of field how
a value is spelled; a field is read exactly if it spells a value, and as that value. A text outside
the grammar is malformed, which its caller survives; a text in the grammar whose roster is not well
formed is a violation, which is fatal.
-/

namespace ReplicaQuorum

namespace Content

open Text

/-! ## The grammar -/

/-- The field spells a word: a numeral with blanks around it. -/
def IsWord (field : Field) (n : UInt64) : Prop :=
  ∃ core, Trims field core ∧ IsNumeral n.toNat core

/-- The field spells an instance that may be absent: a word, or minus one with blanks around it. -/
inductive IsOptional : Field → Option InstanceId → Prop where
  | absent {field : Field} : Trims field absent → IsOptional field none
  | present {field : Field} {id : InstanceId} : IsWord field id → IsOptional field (some id)

/-- The field spells a set: nothing at all, or the members as words with colons between them, in any
order and with any repetitions. -/
inductive IsSet : Field → IdSet → Prop where
  | empty : IsSet [] ∅
  | members {items : List Field} {ids : List InstanceId} {set : IdSet} :
    items ≠ [] → List.Forall₂ IsWord items ids → (∀ id, id ∈ set ↔ id ∈ ids) →
    IsSet (join [':'] items) set

/-- The fields spell the parts of a roster. -/
def Lists (r : Roster) : List Field → Prop
  | [epoch, generation, primary, temp, secondaries, arbiters, inactive, joining, primaryCandidate,
     secondaryCandidate] =>
    IsWord epoch r.version.epoch ∧ IsWord generation r.version.generation ∧
    IsWord primary r.primary ∧ IsOptional temp r.tempPrimary ∧
    IsSet secondaries r.secondaries ∧ IsSet arbiters r.arbiters ∧ IsSet inactive r.inactive ∧
    IsSet joining r.joining ∧ IsOptional primaryCandidate r.primaryCandidate ∧
    IsOptional secondaryCandidate r.secondaryCandidate
  | _ => False

/-- The text spells a roster: ten fields with commas between them and blanks around all. -/
def Spells (s : List Char) (r : Roster) : Prop :=
  ∃ core fields, Trims s core ∧ core = join [','] fields ∧ Lists r fields

/-! ## Separators -/

variable {field : Field} {fields : List Field} {n : UInt64} {id : Option InstanceId} {set : IdSet}
  {r : Roster} {sep : Char}

/-- There is no separator in a word. -/
lemma IsWord.notMem (word : IsWord field n) (blank : ¬isBlank sep) (digit : ¬sep.isDigit)
    (sign : sep ≠ '+') : sep ∉ field := by
  obtain ⟨core, trims, numeral⟩ := word
  intro mem
  rcases trims.isBlank_or_mem mem with h | mem
  · exact blank h
  · rcases numeral.isDigit_or_eq sep mem with h | h
    · exact digit h
    · exact sign h

/-- A number has no colon in it. -/
lemma IsWord.colon_notMem (word : IsWord field n) : ':' ∉ field :=
  word.notMem (by decide) (by decide) (by decide)

/-- A number has no comma in it. -/
lemma IsWord.comma_notMem (word : IsWord field n) : ',' ∉ field :=
  word.notMem (by decide) (by decide) (by decide)

/-- An identifier that may be absent has no comma in it. -/
lemma IsOptional.comma_notMem (optional : IsOptional field id) : ',' ∉ field := by
  cases optional with
  | absent trims =>
    intro mem
    rcases trims.isBlank_or_mem mem with blank | mem
    · exact absurd blank (by decide)
    · exact absurd mem (by decide)
  | present word => exact word.comma_notMem

/-- A separator that is in no number is in none of several numbers. -/
lemma notMem_of_words {items : List Field} {ids : List InstanceId}
    (words : List.Forall₂ IsWord items ids) (apart : ∀ item n, IsWord item n → sep ∉ item) :
    ∀ item ∈ items, sep ∉ item :=
  ((List.forall₂_and_left _ _).1 (words.imp fun item n word => ⟨apart item n word, word⟩)).1

/-- A set of identifiers has no comma in it, since colons stand between them. -/
lemma IsSet.comma_notMem (isSet : IsSet field set) : ',' ∉ field := by
  cases isSet with
  | empty => exact List.not_mem_nil
  | members _ words _ =>
    intro mem
    rcases mem_join mem with mem | ⟨item, memItems, mem⟩
    · exact absurd mem (by decide)
    · exact notMem_of_words words (fun _ _ word => word.comma_notMem) item memItems mem

/-! ## Reading fields -/

/-- A field spells a number if what is left without blanks around it is a numeral of it. -/
lemma isWord_iff : IsWord field n ↔ IsNumeral n.toNat (trim field) := by
  constructor
  · rintro ⟨core, trims, numeral⟩
    exact (trim_eq_iff.2 trims).symm ▸ numeral
  · exact fun numeral => ⟨trim field, trims_trim field, numeral⟩

/-- A word is read from the fields that spell it. -/
lemma readWord_eq_ok_iff {name : String} : readWord name field = .ok n ↔ IsWord field n := by
  rw [isWord_iff, ← readUInt64_eq_ok_iff, readWord]
  cases readUInt64 (trim field) <;> simp

/-- An instance is read from the fields that spell it. -/
lemma readInstance_eq_ok_iff : readInstance field = .ok n ↔ IsWord field n := by
  rw [isWord_iff, ← readUInt64_eq_ok_iff, readInstance]
  cases readUInt64 (trim field) <;> simp

/-- Minus one is no numeral. -/
lemma not_isNumeral_absent (n : Nat) : ¬IsNumeral n absent := by
  intro numeral
  rcases numeral.isDigit_or_eq '-' List.mem_cons_self with digit | sign
  · exact absurd digit (by decide)
  · exact absurd sign (by decide)

/-- An instance that may be absent is read from the fields that spell it. -/
lemma readOptional_eq_ok_iff {name : String} :
    readOptional name field = .ok id ↔ IsOptional field id := by
  unfold readOptional
  by_cases missing : trim field = absent
  · simp only [if_pos missing, Except.ok.injEq]
    constructor
    · rintro rfl
      exact .absent (trim_eq_iff.1 missing)
    · rintro (trims | word)
      · rfl
      · rw [isWord_iff, missing] at word
        exact absurd word (not_isNumeral_absent _)
  · simp only [if_neg missing]
    have present {n : InstanceId} :
        IsOptional field (some n) ↔ readUInt64 (trim field) = .ok n := by
      rw [readUInt64_eq_ok_iff, ← isWord_iff]
      exact ⟨fun | .present word => word, .present⟩
    cases id with
    | none =>
      refine iff_of_false ?_ fun | .absent trims => missing (trim_eq_iff.2 trims)
      cases readUInt64 (trim field) <;> simp
    | some n =>
      rw [present]
      cases readUInt64 (trim field) <;> simp

/-- Items are read as identifiers exactly if each of them spells its own. -/
lemma mapM_readInstance_eq_ok_iff {items : List Field} {ids : List InstanceId} :
    items.mapM readInstance = .ok ids ↔ List.Forall₂ IsWord items ids := by
  induction items generalizing ids with
  | nil =>
    rw [List.forall₂_nil_left_iff, List.mapM_nil]
    exact ⟨fun eq => (Except.ok.inj eq).symm, fun eq => eq ▸ rfl⟩
  | cons item items ih =>
    simp only [List.mapM_cons, bind_eq_ok_iff, readInstance_eq_ok_iff, ih,
      List.forall₂_cons_left_iff]
    constructor
    · rintro ⟨n, word, others, words, eq⟩
      exact ⟨n, others, word, words, (Except.ok.inj eq).symm⟩
    · rintro ⟨n, others, word, words, rfl⟩
      exact ⟨n, word, others, words, rfl⟩

/-- The empty field is no word. -/
lemma not_isWord_nil : ¬IsWord [] n := by
  rw [isWord_iff]
  rintro (h | -)
  exact h.ne_nil rfl

/-- Words with colons between them come apart at the colons. -/
lemma split_join_words {items : List Field} {ids : List InstanceId} (ne : items ≠ [])
    (words : List.Forall₂ IsWord items ids) : split ':' (join [':'] items) = items :=
  split_join ne (notMem_of_words words fun _ _ word => word.colon_notMem)

/-- A set is read from the fields that spell it. -/
lemma readSet_eq_ok_iff : readSet field = .ok set ↔ IsSet field set := by
  unfold readSet
  by_cases nothing : field = []
  · -- a list of words is not empty, so the empty field spells the empty set only
    subst nothing
    rw [List.isEmpty_nil, if_pos rfl, Except.ok.injEq]
    constructor
    · rintro rfl
      exact .empty
    · intro isSet
      generalize blank : ([] : Field) = field at isSet
      cases isSet with
      | empty => rfl
      | members ne words _ =>
        have items := split_join_words ne words
        rw [← blank] at items
        subst items
        obtain ⟨n, ids, word, -⟩ := List.forall₂_cons_left_iff.1 words
        exact absurd word not_isWord_nil
  · rw [if_neg (by simpa using nothing)]
    simp only [map_eq_ok_iff, mapM_readInstance_eq_ok_iff]
    constructor
    · rintro ⟨ids, words, rfl⟩
      rw [← join_split ':' field]
      exact .members (split_ne_nil _ _) words fun _ => IdSet.mem_ofList
    · rintro (- | ⟨ne, words, same⟩)
      · exact absurd rfl nothing
      · rw [split_join_words ne words]
        exact ⟨_, words, IdSet.ext fun id => IdSet.mem_ofList.trans (same id).symm⟩

/-! ## Reading contents -/

variable {content : String}

/-- No field of a content has a comma in it, so the fields can be told apart. -/
lemma Lists.comma_notMem (lists : Lists r fields) : ∀ field ∈ fields, ',' ∉ field := by
  unfold Lists at lists
  split at lists
  · obtain ⟨epoch, generation, primary, temp, secondaries, arbiters, inactive, joining, nominee,
      candidate⟩ := lists
    simp only [List.forall_mem_cons]
    exact ⟨epoch.comma_notMem, generation.comma_notMem, primary.comma_notMem, temp.comma_notMem,
      secondaries.comma_notMem, arbiters.comma_notMem, inactive.comma_notMem,
      joining.comma_notMem, nominee.comma_notMem, candidate.comma_notMem, nofun⟩
  · exact lists.elim

/-- A roster is read from the fields that list its parts. -/
lemma readFields_eq_ok_iff : readFields content fields = .ok r ↔ Lists r fields := by
  unfold readFields
  split
  · simp only [Lists, bind_eq_ok_iff, readWord_eq_ok_iff, readOptional_eq_ok_iff]
    constructor
    · rintro ⟨epoch, hEpoch, generation, hGeneration, primary, hPrimary, rest⟩
      cases hPrimary with
      | absent => cases rest
      | present word =>
        simp only [bind_eq_ok_iff, readOptional_eq_ok_iff, readSet_eq_ok_iff] at rest
        obtain ⟨temp, hTemp, secondaries, hSecondaries, arbiters, hArbiters, inactive, hInactive,
          joining, hJoining, nominee, hNominee, candidate, hCandidate, eq⟩ := rest
        cases eq
        exact ⟨hEpoch, hGeneration, word, hTemp, hSecondaries, hArbiters, hInactive, hJoining,
          hNominee, hCandidate⟩
    · rintro ⟨hEpoch, hGeneration, hPrimary, hTemp, hSecondaries, hArbiters, hInactive, hJoining,
        hNominee, hCandidate⟩
      refine ⟨_, hEpoch, _, hGeneration, some r.primary, .present hPrimary, ?_⟩
      simp only [bind_eq_ok_iff, readOptional_eq_ok_iff, readSet_eq_ok_iff]
      exact ⟨_, hTemp, _, hSecondaries, _, hArbiters, _, hInactive, _, hJoining, _, hNominee, _,
        hCandidate, rfl⟩
  · next other =>
    constructor
    · intro read
      cases read
    · intro lists
      unfold Lists at lists
      split at lists
      · exact absurd rfl (other _ _ _ _ _ _ _ _ _ _)
      · exact lists.elim

/-- A roster is read from the texts that spell it. -/
lemma readRoster_eq_ok_iff : readRoster content = .ok r ↔ Spells content.toList r := by
  rw [readRoster, readFields_eq_ok_iff]
  constructor
  · exact fun lists => ⟨_, _, trims_trim _, (join_split ',' _).symm, lists⟩
  · rintro ⟨core, fields, trims, rfl, lists⟩
    have ne : fields ≠ [] := fun empty => (empty ▸ lists : Lists r [])
    rwa [trim_eq_iff.2 trims, split_join ne lists.comma_notMem]

/-! ## Failing -/

/-- The reading fails on malformed contents only. -/
abbrev OnlyMalformed {α : Type} (reading : Except MembershipError α) : Prop :=
  FailsOnly (fun e => e.kind = .malformedContent) reading

/-- A number fails to be read only by being malformed. -/
lemma onlyMalformed_readWord (name : String) (field : Field) :
    OnlyMalformed (readWord name field) := by
  unfold readWord
  split
  · exact .ok _
  · exact .error rfl

/-- An identifier fails to be read only by being malformed. -/
lemma onlyMalformed_readInstance (field : Field) : OnlyMalformed (readInstance field) := by
  unfold readInstance
  split
  · exact .ok _
  · exact .error rfl

/-- An identifier that may be absent fails to be read only by being malformed. -/
lemma onlyMalformed_readOptional (name : String) (field : Field) :
    OnlyMalformed (readOptional name field) := by
  simp only [readOptional]
  split
  · exact .ok _
  · split
    · exact .ok _
    · exact .error rfl

/-- A set fails to be read only by having a malformed item. -/
lemma onlyMalformed_readSet (field : Field) : OnlyMalformed (readSet field) := by
  unfold readSet
  split
  · exact .ok _
  · exact (FailsOnly.mapM onlyMalformed_readInstance _).map _

/-- The fields of a content fail to be read only by being malformed. -/
lemma onlyMalformed_readFields (content : String) (fields : List Field) :
    OnlyMalformed (readFields content fields) := by
  unfold readFields
  split
  · refine (onlyMalformed_readWord _ _).bind fun _ => (onlyMalformed_readWord _ _).bind fun _ =>
      (onlyMalformed_readOptional _ _).bind fun primary => ?_
    cases primary with
    | none => exact .error rfl
    | some primary =>
      exact (onlyMalformed_readOptional _ _).bind fun _ => (onlyMalformed_readSet _).bind fun _ =>
        (onlyMalformed_readSet _).bind fun _ => (onlyMalformed_readSet _).bind fun _ =>
        (onlyMalformed_readSet _).bind fun _ => (onlyMalformed_readOptional _ _).bind fun _ =>
        (onlyMalformed_readOptional _ _).bind fun _ => .ok _
  · exact .error rfl

/-! ## Decoding -/

/-- A text that spells no roster is malformed. -/
lemma decode_of_not_spells (unread : ¬∃ r, Spells content.toList r) :
    ∃ e, decode content = .error e ∧ e.kind = .malformedContent := by
  cases read : readRoster content with
  | error e =>
    refine ⟨e, ?_, onlyMalformed_readFields _ _ e read⟩
    rw [decode, read]
    rfl
  | ok r => exact absurd ⟨r, readRoster_eq_ok_iff.1 read⟩ unread

/-- A text that spells a well formed roster decodes to it. -/
lemma decode_of_wellFormed (spells : Spells content.toList r) (wf : r.WellFormed) :
    decode content = .ok (.ofRoster r) := by
  have built : ReplicaSet.build r = .ok (.ofRoster r) :=
    ReplicaSet.build_eq_ok_iff.2 ⟨wf, rfl⟩
  rw [decode, readRoster_eq_ok_iff.2 spells]
  simp only [bind, Except.bind, built]

/-- A text that spells a roster that is not well formed is a violation. -/
lemma decode_of_not_wellFormed (spells : Spells content.toList r) (ill : ¬r.WellFormed) :
    ∃ violation, decode content = .error (.violation violation) := by
  obtain ⟨violation, found⟩ : ∃ violation, r.violation? = some violation := by
    rwa [← Option.ne_none_iff_exists', ne_eq, Roster.violation?_eq_none_iff]
  refine ⟨violation, ?_⟩
  rw [decode, readRoster_eq_ok_iff.2 spells]
  simp only [bind, Except.bind, ReplicaSet.build, found]

/-- A text decodes to the well formed roster that it spells. -/
theorem decode_eq_ok_iff {m : ReplicaSet} : decode content = .ok m ↔
    ∃ r, Spells content.toList r ∧ r.WellFormed ∧ m = .ofRoster r := by
  constructor
  · intro decoded
    obtain ⟨r, read, built⟩ := build_of_decode decoded
    exact ⟨r, readRoster_eq_ok_iff.1 read, ReplicaSet.build_eq_ok_iff.1 built⟩
  · rintro ⟨r, spells, wf, rfl⟩
    exact decode_of_wellFormed spells wf

/-- A text is malformed if it spells no roster. -/
theorem malformed_iff :
    (∃ e, decode content = .error e ∧ e.kind = .malformedContent ∧ e.isFatal = false) ↔
      ¬∃ r, Spells content.toList r := by
  constructor
  · rintro ⟨e, failed, kind, -⟩ ⟨r, spells⟩
    by_cases wf : r.WellFormed
    · rw [decode_of_wellFormed spells wf] at failed
      cases failed
    · obtain ⟨violation, eq⟩ := decode_of_not_wellFormed spells wf
      rw [eq] at failed
      cases failed
      cases kind
  · intro unread
    obtain ⟨e, failed, kind⟩ := decode_of_not_spells unread
    exact ⟨e, failed, kind, by rw [MembershipError.isFatal, kind]; rfl⟩

/-- A text is a violation if the roster that it spells is not well formed. -/
theorem violation_iff :
    (∃ e, decode content = .error e ∧ e.kind = .invariantViolation ∧ e.isFatal = true) ↔
      ∃ r, Spells content.toList r ∧ ¬r.WellFormed := by
  constructor
  · rintro ⟨e, failed, kind, -⟩
    by_cases spelled : ∃ r, Spells content.toList r
    · obtain ⟨r, spells⟩ := spelled
      refine ⟨r, spells, fun wf => ?_⟩
      rw [decode_of_wellFormed spells wf] at failed
      cases failed
    · obtain ⟨other, eq, malformed⟩ := decode_of_not_spells spelled
      rw [eq] at failed
      cases failed
      rw [malformed] at kind
      cases kind
  · rintro ⟨r, spells, ill⟩
    obtain ⟨violation, eq⟩ := decode_of_not_wellFormed spells ill
    exact ⟨_, eq, rfl, rfl⟩

/-- Which texts decode, and to what, and how the others fail. A text decodes to the roster that it
spells if that is well formed. It is malformed, which is not fatal, exactly if it spells no roster,
and a violation, which is fatal, exactly if it spells a roster that is not well formed. -/
theorem decode_grammar (content : String) :
    (∀ m, decode content = .ok m ↔
      ∃ r, Spells content.toList r ∧ r.WellFormed ∧ m = .ofRoster r) ∧
    ((∃ e, decode content = .error e ∧ e.kind = .malformedContent ∧ e.isFatal = false) ↔
      ¬∃ r, Spells content.toList r) ∧
    ((∃ e, decode content = .error e ∧ e.kind = .invariantViolation ∧ e.isFatal = true) ↔
      ∃ r, Spells content.toList r ∧ ¬r.WellFormed) :=
  ⟨fun _ => decode_eq_ok_iff, malformed_iff, violation_iff⟩

/-- A blank is not the empty set but a member that cannot be read. -/
example : decode "1,2,3,-1, ,,,,-1,-1" = .error (.badField "instance id" " " .empty) := by
  rfl

end Content

end ReplicaQuorum
