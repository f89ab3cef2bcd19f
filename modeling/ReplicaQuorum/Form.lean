/-!
# Segment forms

A form names the role layout of a segment's membership, one letter per member: P for the primary, S
for a secondary, J for a joining secondary, A for an arbiter, I for an inactive secondary. A leading
T marks the layouts of small volumes that are down to two copies.
-/

namespace ReplicaQuorum

/-- The role layout of a membership. -/
inductive Form where
  | pss | psj | psi | pji | pjj | pii | ps | pj | pi
  | psa | pja | pia | pa | tps | tpj | tpi
  | pssaa | pssai | pssii
  | psjaa | psjai | psjii
  | psiaa | psiai | psiii
  | pjjaa | pjjai | pjjii
  | pjiaa | pjiai | pjiii
  | piiaa | piiai | piiii
  | psaa | psai | psii
  | piaa | piai | piii
  | pjaa | pjai | pjii
  | paa
deriving DecidableEq, Repr

namespace Form

/-- The forms of volumes with three members. -/
def threeMember : List Form :=
  [pss, psj, psi, pji, pjj, pii, ps, pj, pi, psa, pja, pia, pa, tps, tpj, tpi]

/-- The forms of volumes with five members. -/
def fiveMember : List Form :=
  [pssaa, pssai, pssii, psjaa, psjai, psjii, psiaa, psiai, psiii, pjjaa, pjjai, pjjii, pjiaa,
   pjiai, pjiii, piiaa, piiai, piiii, psaa, psai, psii, piaa, piai, piii, pjaa, pjai, pjii, paa]

/-- All forms. -/
def all : List Form :=
  threeMember ++ fiveMember

/-- The letters of the form. -/
def name : Form → String
  | pss => "PSS" | psj => "PSJ" | psi => "PSI" | pji => "PJI" | pjj => "PJJ" | pii => "PII"
  | ps => "PS" | pj => "PJ" | pi => "PI"
  | psa => "PSA" | pja => "PJA" | pia => "PIA" | pa => "PA"
  | tps => "TPS" | tpj => "TPJ" | tpi => "TPI"
  | pssaa => "PSSAA" | pssai => "PSSAI" | pssii => "PSSII"
  | psjaa => "PSJAA" | psjai => "PSJAI" | psjii => "PSJII"
  | psiaa => "PSIAA" | psiai => "PSIAI" | psiii => "PSIII"
  | pjjaa => "PJJAA" | pjjai => "PJJAI" | pjjii => "PJJII"
  | pjiaa => "PJIAA" | pjiai => "PJIAI" | pjiii => "PJIII"
  | piiaa => "PIIAA" | piiai => "PIIAI" | piiii => "PIIII"
  | psaa => "PSAA" | psai => "PSAI" | psii => "PSII"
  | piaa => "PIAA" | piai => "PIAI" | piii => "PIII"
  | pjaa => "PJAA" | pjai => "PJAI" | pjii => "PJII"
  | paa => "PAA"

/-- The form with a name. -/
def ofName? (name : String) : Option Form :=
  all.find? fun f => f.name = name

/-- The form of a three-member volume with a name. -/
def threeMemberOfName? (name : String) : Option Form :=
  threeMember.find? fun f => f.name = name

end Form

end ReplicaQuorum
