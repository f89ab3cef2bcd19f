import ReplicaQuorum.Form.Verdict
import ReplicaQuorum.Proofs.Form.Classify
import ReplicaQuorum.Proofs.Form.Rule
import ReplicaQuorum.ReplicaSet.Content

/-!
# Reads without a primary

On what a read rests that succeeds with no primary among the good readers. The forms that go on
behind a primary that is down ask for a secondary that returned data, or for so many good readers
that a secondary or a joining secondary has to be among them; the others ask for the primary. So
arbiters alone never confirm a read. Two forms, though, do not ask whether anybody returned data.
-/

namespace ReplicaQuorum

/-- What a read merge looks at. -/
def Tally.ofReaders (v : VolumeType) (primary : UInt32) (secondaries : ReaderCounts)
    (joining arbiters : UInt32) (r : Round) : Tally :=
  { Tally.ofCounts v primary (secondaries.fetch + secondaries.check) joining arbiters with
    fetch := secondaries.fetch }.observe r

namespace Form

variable {f : Form} {v : VolumeType} {t : Tally} {r : Round} {primary joining arbiters : UInt32}
  {secondaries : ReaderCounts}

/-- The secondaries that returned data and the ones that confirmed make up the good ones. -/
lemma toNat_readers (fits : secondaries.fetch.toNat + secondaries.check.toNat < UInt32.size) :
    (secondaries.fetch + secondaries.check).toNat
      = secondaries.fetch.toNat + secondaries.check.toNat := by
  rw [UInt32.toNat_add, Nat.mod_eq_of_lt fits]

/-- A read merge is the rule of the form on the counts, where the readers fit a count. -/
lemma mergeRead_of_lt (fits : secondaries.fetch.toNat + secondaries.check.toNat < UInt32.size) :
    f.mergeRead v primary secondaries joining arbiters r
      = f.policy.readMerge.holds (.ofReaders v primary secondaries joining arbiters r) := by
  have total : secondaries.total = .ok (secondaries.fetch + secondaries.check) := if_pos fits
  rw [mergeRead, total]
  rfl

/-- The sums of a read merge fit a word if the sum of all counts does. -/
lemma fits_readMerge (fits : t.sum Term.all < UInt32.size) : f.policy.readMerge.Fits t :=
  fits_of_sum_lt (f := f) (by simp [Policy.rules]) fits

/-- What a read rests on that succeeds while no primary is among the good readers. -/
inductive ReadsAround (t : Tally) : Form → Prop where
  | fetched {f : Form} (down : t.primaryDown) (data : 1 ≤ t.fetch.toNat) : ReadsAround t f
  | readDown (down : t.primaryDown) (met : t.metReadDownSecondary)
    (reader : 1 ≤ t.secondary.toNat) : ReadsAround t pss
  | psj (down : t.primaryDown)
    (quorum : t.writeQuorum.toNat ≤ t.secondary.toNat + t.joining.toNat) : ReadsAround t psj
  | psa (down : t.primaryDown)
    (quorum : t.writeQuorum.toNat ≤ t.secondary.toNat + t.arbiter.toNat) : ReadsAround t psa
  | psaa (down : t.primaryDown)
    (quorum : t.writeQuorum.toNat ≤ t.fetch.toNat + t.arbiter.toNat) : ReadsAround t psaa
  | psjii (quorum : t.secondary.toNat + t.joining.toNat = t.writeQuorum.toNat) :
    ReadsAround t psjii

/-- Where a rule asks for the primary unless it is down, it is down if it is not there. -/
lemma sat_behind {behind beside : Rule} (dead : ¬Rule.primaryAlive.Sat t)
    (sat : (Rule.when .primaryDown behind (.both .primaryAlive beside)).Sat t) :
    t.primaryDown ∧ behind.Sat t := by
  rcases sat with behind | ⟨-, alive, -⟩
  · exact behind
  · exact absurd alive dead

/-- A read that succeeds without the primary rests on another member. -/
lemma readsAround_of_sat (gone : t.primary = 0) (sat : f.policy.readMerge.Sat t) :
    f.ReadsAround t := by
  have dead : ¬Rule.primaryAlive.Sat t := by
    simp [Rule.primaryAlive, Rule.Sat, Tally.sum, Tally.term, Tally.bound, gone]
  cases f
  case pss =>
    obtain ⟨down, ⟨met, reader⟩ | ⟨-, data, -⟩⟩ := sat_behind dead sat
    · exact .readDown down met reader
    · exact .fetched down data
  case pssaa | pssai | psiaa | psjaa | psjai =>
    obtain ⟨down, data, -⟩ := sat_behind dead sat
    exact .fetched down data
  case psj =>
    obtain ⟨down, quorum⟩ := sat_behind dead sat
    exact .psj down quorum
  case psa =>
    obtain ⟨down, quorum⟩ := sat_behind dead sat
    exact .psa down quorum
  case psaa =>
    obtain ⟨down, quorum⟩ := sat_behind dead sat
    exact .psaa down quorum
  case psjii =>
    have quorum : t.primary.toNat + (t.secondary.toNat + t.joining.toNat)
      = t.writeQuorum.toNat := sat
    rw [gone] at quorum
    exact .psjii (by simpa using quorum)
  -- the other rules ask for the primary, at the front or behind a flag, or never hold
  case pji | pj | pja | tpj | pjj | pii | pia | tpi | pi => exact absurd sat dead
  case psi | ps | tps | pa => exact absurd sat.2 dead
  case pssii | pjjaa => exact absurd sat.2.1 dead
  case psiai | psai | pjjai | pjiaa | pjjii | pjiai | pjai | piiaa | pjaa | piaa | paa =>
    exact absurd sat.1 dead
  case psiii | pjiii | piiai | piiii | psii | piai | piii | pjii => exact sat.elim

/-! ## Reads of a replica set -/

/-- No form has more than four members beside its primary. -/
lemma letters_le (f : Form) : f.letters 'S' + f.letters 'J' + f.letters 'A' ≤ 4 := by
  cases f <;> decide

/-- No more members answer a round than the letters of the form stand for. -/
structure Seated (f : Form) (t : Tally) : Prop where
  primary : t.primary.toNat ≤ 1
  secondaries : t.secondary.toNat ≤ f.letters 'S'
  joining : t.joining.toNat ≤ f.letters 'J'
  arbiters : t.arbiter.toNat ≤ f.letters 'A'
  fetched : t.fetch.toNat ≤ t.secondary.toNat
  quorum : t.writeQuorum = if f ∈ fiveMember then 3 else 2

/-- Members that sit on the letters of a form are too few to overflow a count. -/
lemma Seated.sum_lt (seated : f.Seated t) : t.sum Term.all < UInt32.size := by
  have few : f.letters 'S' + f.letters 'J' + f.letters 'A' ≤ 4 := f.letters_le
  obtain ⟨primary, secondaries, joining, arbiters, fetched, -⟩ := seated
  have sum : t.sum Term.all ≤ 9 := by
    simp only [Term.all, Tally.sum, Tally.term]
    omega
  exact Nat.lt_of_le_of_lt sum (by decide)

/-- With the counts of a replica set of the form, the sums that could do without data are filled
only with the help of a secondary or a joining secondary, behind a primary that is down. -/
lemma ReadsAround.down_and_reader (around : f.ReadsAround t) (seated : f.Seated t) :
    t.primaryDown ∧ 1 ≤ t.secondary.toNat + t.joining.toNat := by
  obtain ⟨-, secondaries, joining, arbiters, fetched, quorum⟩ := seated
  cases around with
  | fetched down data => exact ⟨down, by omega⟩
  | readDown down met reader => exact ⟨down, by omega⟩
  | psj down enough =>
    have two : t.writeQuorum.toNat = 2 := congrArg UInt32.toNat quorum
    exact ⟨down, by omega⟩
  | psa down enough =>
    have two : t.writeQuorum.toNat = 2 := congrArg UInt32.toNat quorum
    have arbiters : t.arbiter.toNat ≤ 1 := arbiters
    exact ⟨down, by omega⟩
  | psaa down enough =>
    have three : t.writeQuorum.toNat = 3 := congrArg UInt32.toNat quorum
    have arbiters : t.arbiter.toNat ≤ 2 := arbiters
    exact ⟨down, by omega⟩
  | psjii enough =>
    -- one secondary and one joining secondary never make up a quorum of three
    have three : t.writeQuorum.toNat = 3 := congrArg UInt32.toNat quorum
    have secondaries : t.secondary.toNat ≤ 1 := secondaries
    have joining : t.joining.toNat ≤ 1 := joining
    omega

/-- The good answers of members of a replica set are seated. -/
lemma seated_ofReaders {m : ReplicaSet} (form : m.form v = .ok f) (one : primary.toNat ≤ 1)
    (readers : secondaries.fetch.toNat + secondaries.check.toNat ≤ m.secondaries.size)
    (joined : joining.toNat ≤ m.joining.size) (witnesses : arbiters.toNat ≤ m.arbiters.size) :
    secondaries.fetch.toNat + secondaries.check.toNat < UInt32.size ∧
      f.Seated (.ofReaders v primary secondaries joining arbiters r) := by
  obtain ⟨seats, quorum⟩ := VolumeType.seats_of_classify (ReplicaSet.form_eq_ok_iff.1 form)
  rw [seats.secondaries] at readers
  rw [seats.joining] at joined
  rw [seats.arbiters] at witnesses
  have few : f.letters 'S' + f.letters 'J' + f.letters 'A' ≤ 4 := f.letters_le
  have fits : secondaries.fetch.toNat + secondaries.check.toNat < UInt32.size :=
    Nat.lt_of_le_of_lt (by omega : _ ≤ 4) (by decide)
  have total := toNat_readers fits
  refine ⟨fits, one, total.trans_le readers, joined, witnesses, ?_, quorum⟩
  exact (Nat.le_add_right _ _).trans_eq total.symm

/-- A read of a replica set always has a verdict. One that succeeds has the primary among its good
readers, or a secondary or joining secondary while the primary is down. -/
theorem read_rests_on_primary_or_secondary {m : ReplicaSet} (form : m.form v = .ok f)
    (one : primary.toNat ≤ 1)
    (readers : secondaries.fetch.toNat + secondaries.check.toNat ≤ m.secondaries.size)
    (joined : joining.toNat ≤ m.joining.size) (witnesses : arbiters.toNat ≤ m.arbiters.size) :
    (∃ success, f.mergeRead v primary secondaries joining arbiters r = .ok success) ∧
      (f.mergeRead v primary secondaries joining arbiters r = .ok true →
        primary = 1 ∨ r.isDown .primary ∧
          1 ≤ secondaries.fetch.toNat + secondaries.check.toNat + joining.toNat) := by
  obtain ⟨fits, seated⟩ := seated_ofReaders (r := r) form one readers joined witnesses
  have sums : f.policy.readMerge.Fits (.ofReaders v primary secondaries joining arbiters r) :=
    fits_readMerge seated.sum_lt
  rw [mergeRead_of_lt fits, Rule.holds_eq_true_iff sums]
  refine ⟨Rule.exists_holds sums, fun sat => ?_⟩
  by_cases gone : primary = 0
  · obtain ⟨down, reader⟩ := (readsAround_of_sat gone sat).down_and_reader seated
    rw [← toNat_readers fits]
    exact .inr ⟨down, reader⟩
  · have alive : primary.toNat ≠ 0 := fun zero => gone (UInt32.toNat_inj.1 zero)
    have counted : primary.toNat = 1 := by omega
    exact .inl (UInt32.toNat_inj.1 counted)

/-- A large volume reads behind its primary with one secondary and both arbiters. -/
theorem read_rests_on_secondary_of_large :
    ∃ (m : ReplicaSet) (r : Round),
      Content.decode "1,0,1,-1,2:3,4:5,,,-1,-1" = .ok m ∧ m.form .large = .ok .pssaa ∧
      r.participants.map Participant.id = [2, 4, 5] ∧
      ((0 : UInt32).toNat ≤ 1 ∧ (1 : UInt32).toNat + (0 : UInt32).toNat ≤ m.secondaries.size ∧
        (0 : UInt32).toNat ≤ m.joining.size ∧ (2 : UInt32).toNat ≤ m.arbiters.size) ∧
      pssaa.mergeRead .large 0 { fetch := 1 } 0 2 r = .ok true ∧
      ((0 : UInt32) = 1 ∨
        r.isDown .primary ∧ 1 ≤ (1 : UInt32).toNat + (0 : UInt32).toNat + (0 : UInt32).toNat) := by
  let m : ReplicaSet := .ofRoster
    { version := ⟨1, 0⟩, primary := 1, secondaries := .ofList [2, 3], arbiters := .ofList [4, 5] }
  let r : Round := ({} : Round)
    |>.add ⟨2, ⟨"second", 1⟩, .secondary, some .fetch⟩
    |>.add ⟨4, ⟨"fourth", 1⟩, .arbiter, some .check⟩
    |>.add ⟨5, ⟨"fifth", 1⟩, .arbiter, some .check⟩
  have content : Content.decode "1,0,1,-1,2:3,4:5,,,-1,-1" = .ok m := by rfl
  have form : m.form .large = .ok .pssaa := by rfl
  have one : (0 : UInt32).toNat ≤ 1 := by decide
  have readers : (1 : UInt32).toNat + (0 : UInt32).toNat ≤ m.secondaries.size := by decide
  have joined : (0 : UInt32).toNat ≤ m.joining.size := by decide
  have witnesses : (2 : UInt32).toNat ≤ m.arbiters.size := by decide
  have success : pssaa.mergeRead .large 0 { fetch := 1 } 0 2 r = .ok true := by rfl
  exact ⟨m, r, content, form, by rfl, ⟨one, readers, joined, witnesses⟩, success,
    (read_rests_on_primary_or_secondary form one readers joined witnesses).2 success⟩

/-! ## Reads without data -/

/-- The counts with which a read succeeds behind a primary that is down although no secondary
returned data: `readers` secondaries only confirm. -/
def ReadsBlindly (f : Form) (v : VolumeType) (readers joining arbiters : UInt32) : Prop :=
  match f with
  | psj => v.writeQuorum.toNat ≤ readers.toNat + joining.toNat
  | psa => v.writeQuorum.toNat ≤ readers.toNat + arbiters.toNat
  | psaa => v.writeQuorum.toNat ≤ arbiters.toNat
  | psjii => readers.toNat + joining.toNat = v.writeQuorum.toNat
  | _ => False

variable {readers : UInt32}

/-- Where all readers only confirm, they are counted as such. -/
lemma ofReaders_of_check : Tally.ofReaders v primary { check := readers } joining arbiters r
    = (Tally.ofCounts v primary readers joining arbiters).observe r := by
  simp only [Tally.ofReaders, Tally.ofCounts, Tally.observe, UInt32.zero_add]

/-- Without a primary and without data, a read succeeds only as the form reads blindly. -/
lemma sat_iff_readsBlindly (down : r.isDown .primary)
    (readable : r.metReadDownSecondary = false) :
    f.policy.readMerge.Sat ((Tally.ofCounts v 0 readers joining arbiters).observe r) ↔
      f.ReadsBlindly v readers joining arbiters := by
  constructor
  · intro sat
    cases readsAround_of_sat rfl sat with
    | fetched _ data => cases data
    | readDown _ met => cases readable.symm.trans met
    | psj _ enough => exact enough
    | psa _ enough => exact enough
    | psaa _ enough => exact enough.trans_eq (Nat.zero_add _)
    | psjii enough => exact enough
  · intro blind
    cases f
    case psj => exact .inl ⟨down, blind⟩
    case psa => exact .inl ⟨down, blind⟩
    case psaa => exact .inl ⟨down, blind.trans_eq (Nat.zero_add _).symm⟩
    case psjii => exact (Nat.zero_add _).trans blind
    all_goals exact blind.elim

/-- In a replica set of the form only two forms read blindly: with one secondary and one joining
secondary, or with one secondary and one arbiter, where both of them answer. -/
lemma readsBlindly_iff_of_form {m : ReplicaSet} (form : m.form v = .ok f)
    (confirmed : readers.toNat ≤ m.secondaries.size) (joined : joining.toNat ≤ m.joining.size)
    (witnesses : arbiters.toNat ≤ m.arbiters.size) :
    f.ReadsBlindly v readers joining arbiters ↔
      f = psj ∧ readers = 1 ∧ joining = 1 ∨ f = psa ∧ readers = 1 ∧ arbiters = 1 := by
  obtain ⟨seats, quorum⟩ := VolumeType.seats_of_classify (ReplicaSet.form_eq_ok_iff.1 form)
  rw [seats.secondaries] at confirmed
  rw [seats.joining] at joined
  rw [seats.arbiters] at witnesses
  simp only [← UInt32.toNat_inj, UInt32.toNat_one]
  cases f
  case psj =>
    have two : v.writeQuorum.toNat = 2 := congrArg UInt32.toNat quorum
    have confirmed : readers.toNat ≤ 1 := confirmed
    have joined : joining.toNat ≤ 1 := joined
    simp only [ReadsBlindly, reduceCtorEq, true_and, false_and, or_false]
    omega
  case psa =>
    have two : v.writeQuorum.toNat = 2 := congrArg UInt32.toNat quorum
    have confirmed : readers.toNat ≤ 1 := confirmed
    have witnesses : arbiters.toNat ≤ 1 := witnesses
    simp only [ReadsBlindly, reduceCtorEq, true_and, false_and, false_or]
    omega
  case psaa =>
    have three : v.writeQuorum.toNat = 3 := congrArg UInt32.toNat quorum
    have witnesses : arbiters.toNat ≤ 2 := witnesses
    simp only [ReadsBlindly, reduceCtorEq, false_and, or_false, iff_false]
    omega
  case psjii =>
    have three : v.writeQuorum.toNat = 3 := congrArg UInt32.toNat quorum
    have confirmed : readers.toNat ≤ 1 := confirmed
    have joined : joining.toNat ≤ 1 := joined
    simp only [ReadsBlindly, reduceCtorEq, false_and, or_false, iff_false]
    omega
  all_goals simp [ReadsBlindly]

/-- Behind a primary that is down a read that succeeds has data, unless no secondary returned any
and the form reads blindly. In a replica set of the form that takes a secondary and a joining
secondary, or a secondary and an arbiter, which both only confirm. -/
theorem failover_read_has_data_iff (down : r.isDown .primary)
    (readable : r.metReadDownSecondary = false)
    (fits : secondaries.fetch.toNat + secondaries.check.toNat + joining.toNat + arbiters.toNat
      < UInt32.size) :
    ((f.mergeRead v 0 secondaries joining arbiters r = .ok true →
        1 ≤ secondaries.fetch.toNat) ↔
      (secondaries.fetch = 0 → ¬f.ReadsBlindly v secondaries.check joining arbiters)) ∧
    (∀ m : ReplicaSet, m.form v = .ok f → secondaries.check.toNat ≤ m.secondaries.size →
      joining.toNat ≤ m.joining.size → arbiters.toNat ≤ m.arbiters.size →
        (f.ReadsBlindly v secondaries.check joining arbiters ↔
          f = psj ∧ secondaries.check = 1 ∧ joining = 1 ∨
          f = psa ∧ secondaries.check = 1 ∧ arbiters = 1)) := by
  refine ⟨?_, fun m form confirmed joined witnesses =>
    readsBlindly_iff_of_form form confirmed joined witnesses⟩
  obtain ⟨fetch, check⟩ := secondaries
  by_cases dataless : fetch = 0
  · subst dataless
    have counted : (0 : UInt32).toNat + check.toNat < UInt32.size := by
      simpa using check.toNat_lt
    have total : ((Tally.ofCounts v 0 check joining arbiters).observe r).sum Term.all
        < UInt32.size := by
      simpa [Tally.ofCounts, Tally.observe, Term.all, Tally.sum, Tally.term, Nat.add_assoc]
        using fits
    rw [mergeRead_of_lt counted, ofReaders_of_check,
      Rule.holds_eq_true_iff (fits_readMerge total), sat_iff_readsBlindly down readable]
    simp
  · have data : 1 ≤ fetch.toNat :=
      Nat.one_le_iff_ne_zero.2 fun zero => dataless (UInt32.toNat_inj.1 zero)
    simp [data, dataless]

/-- Behind its primary, a large volume does not read with two secondaries and two arbiters that only
confirm. -/
theorem failover_read_has_data_large :
    ∃ (m : ReplicaSet) (r : Round) (secondaries : ReaderCounts),
      Content.decode "1,0,1,-1,2:3,4:5,,,-1,-1" = .ok m ∧ m.form .large = .ok .pssaa ∧
      r.participants.map (fun p => (p.id, p.cause))
        = [(2, some .check), (3, some .check), (4, some .check), (5, some .check)] ∧
      (r.isDown .primary ∧ r.metReadDownSecondary = false ∧
        secondaries.fetch.toNat + secondaries.check.toNat + (0 : UInt32).toNat
          + (2 : UInt32).toNat < UInt32.size) ∧
      secondaries = ⟨0, 2⟩ ∧ pssaa.mergeRead .large 0 secondaries 0 2 r ≠ .ok true := by
  let m : ReplicaSet := .ofRoster
    { version := ⟨1, 0⟩, primary := 1, secondaries := .ofList [2, 3], arbiters := .ofList [4, 5] }
  let r : Round := ({} : Round)
    |>.add ⟨2, ⟨"second", 1⟩, .secondary, some .check⟩
    |>.add ⟨3, ⟨"third", 1⟩, .secondary, some .check⟩
    |>.add ⟨4, ⟨"fourth", 1⟩, .arbiter, some .check⟩
    |>.add ⟨5, ⟨"fifth", 1⟩, .arbiter, some .check⟩
  let secondaries : ReaderCounts := ⟨0, 2⟩
  have content : Content.decode "1,0,1,-1,2:3,4:5,,,-1,-1" = .ok m := by rfl
  have form : m.form .large = .ok .pssaa := by rfl
  have down : r.isDown .primary := by rfl
  have readable : r.metReadDownSecondary = false := by rfl
  have fits : secondaries.fetch.toNat + secondaries.check.toNat + (0 : UInt32).toNat
      + (2 : UInt32).toNat < UInt32.size := by decide
  obtain ⟨law, layout⟩ :=
    failover_read_has_data_iff (f := pssaa) (v := .large) down readable fits
  have sighted : ¬pssaa.ReadsBlindly .large secondaries.check 0 2 := by
    rw [layout m form (by decide) (by decide) (by decide)]
    simp
  have dataless : ¬1 ≤ secondaries.fetch.toNat := by decide
  exact ⟨m, r, secondaries, content, form, by rfl, ⟨down, readable, fits⟩, rfl,
    mt (law.2 fun _ => sighted) dataless⟩

/-- Behind their primaries, a small volume reads with a secondary and an arbiter, and a regular
volume with a secondary and a joining secondary, that all only confirm. -/
theorem failover_read_without_data :
    (∃ (m : ReplicaSet) (r : Round),
      Content.decode "1,0,1,-1,2,3,,,-1,-1" = .ok m ∧ m.form .small = .ok .psa ∧
      r.participants.map (fun p => (p.id, p.cause)) = [(2, some .check), (3, some .check)] ∧
      r.isDown .primary ∧ r.metReadDownSecondary = false ∧
      psa.mergeRead .small 0 { check := 1 } 0 1 r = .ok true) ∧
    (∃ (m : ReplicaSet) (r : Round),
      Content.decode "1,0,1,-1,2,,,3,-1,-1" = .ok m ∧ m.form .regular = .ok .psj ∧
      r.participants.map (fun p => (p.id, p.cause)) = [(2, some .check), (3, some .check)] ∧
      r.isDown .primary ∧ r.metReadDownSecondary = false ∧
      psj.mergeRead .regular 0 { check := 1 } 1 0 r = .ok true) := by
  let small : ReplicaSet := .ofRoster
    { version := ⟨1, 0⟩, primary := 1, secondaries := .ofList [2], arbiters := .ofList [3] }
  let regular : ReplicaSet := .ofRoster
    { version := ⟨1, 0⟩, primary := 1, secondaries := .ofList [2], joining := .ofList [3] }
  let confirmed : Round := ({} : Round) |>.add ⟨2, ⟨"second", 1⟩, .secondary, some .check⟩
  let beside (status : Status) : Round := confirmed.add ⟨3, ⟨"third", 1⟩, status, some .check⟩
  exact ⟨⟨small, beside .arbiter, by rfl, by rfl, by rfl, by rfl, by rfl, by rfl⟩,
    ⟨regular, beside .joiningSecondary, by rfl, by rfl, by rfl, by rfl, by rfl, by rfl⟩⟩

end Form

end ReplicaQuorum
