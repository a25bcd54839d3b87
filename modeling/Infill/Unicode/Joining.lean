import Infill.Unicode.Table

/-!
# Joining

Which letters of cursive scripts are joined to their neighbours.
-/

namespace Infill.Unicode

/-- Which side each run of code points joins on - `L` for the left, `R` for the right, `D` for both,
`C` for causing its neighbours to join, `T` for being looked through, `U` for none - and the
length of the run, in code point order from zero on. -/
def joiningRows : List String := [
  "Uad T1 U252 T70 U113 T7 U107 T2d U1 T1 U1 T2 U1 T2 U1 T1 U48 Tb U1 T1 U3 D1 U1 R4 D1 R1 D1",
  "R1 D5 R4 Dd C1 D7 R1 D2 T15 Ue D2 T1 R3 U1 R3 D10 R12 D26 R1 D2 R9 D1 R1 D1 R1 D2 R2 U1 R1",
  "T7 U2 T6 U2 T2 U1 T4 R2 Ua D3 U2 D1 Uf T1 R1 T1 D3 R5 D4 R1 D9 R1 D1 R1 D1 R1 D2 R1 T1b U2",
  "R1 Db R3 Df R2 D4 R1 D1 R2 D3 R2 D6 U26 Tb U19 D21 T9 U6 C1 U2 T1 U18 T4 U1 T9 U1 T3 U1 T5",
  "U12 R1 D5 R2 D1 R1 Da R1 D1 R3 T3 U4 D1 U1 D4 U1 R1 D1 R2 U5 R13 C3 D1 U2 D5 R1 U9 T8 Da",
  "R3 U1 R1 D2 R2 D6 R1 Df U1 T18 U1 T20 U37 T1 U1 T1 U4 T8 U4 T1 U3 T7 Ua T2 U1d T1 U3a T1",
  "U4 T4 U8 T1 U14 T2 U1a T1 U2 T2 U39 T1 U4 T2 U4 T2 U2 T3 U3 T1 U1e T2 U3 T1 Ub T2 U39 T1",
  "U4 T5 U1 T2 U4 T1 U14 T2 U16 T6 U1 T1 U3a T1 U2 T1 U1 T4 U8 T1 U7 T2 Ub T2 U1e T1 U3d T1",
  "Uc T1 U32 T1 U3 T1 U37 T1 U1 T3 U5 T3 U1 T4 U7 T2 Ub T2 U1d T1 U3a T1 U2 T1 U6 T1 U5 T2",
  "U14 T2 U1c T2 U39 T2 U4 T4 U8 T1 U14 T2 U1d T1 U48 T1 U7 T3 U1 T1 U5a T1 U2 T7 Uc T8 U62",
  "T1 U2 T9 Ub T7 U49 T2 U1b T1 U1 T1 U1 T1 U37 Te U1 T5 U1 T2 U5 Tb U1 T24 U9 T1 U66 T4 U1",
  "T6 U1 T2 U2 T2 U19 T2 U4 T3 U10 T4 Ud T1 U2 T2 U6 T1 Uf T1 U2bf T3 U3b2 T3 U1d T2 U1e T2",
  "U1e T2 U40 T2 U1 T7 U8 T1 U2 Tb U9 T1 U29 D1 U2 C1 T3 U1 T1 U10 D59 Uc T2 D22 T1 D1 U75 T3",
  "U4 T2 U9 T1 U6 T3 Udb T2 U2 T1 U3a T1 U1 T7 U1 T1 U1 T1 U2 T8 U6 Ta U2 T1 U30 T1f U31 T4",
  "U30 T1 U1 T5 U1 T1 U5 T1 U28 T9 Uc T2 U20 T4 U2 T2 U1 T3 U38 T1 U1 T2 U3 T1 U1 T3 U3a T8",
  "U2 T2 U98 T3 U1 Td U1 T7 U4 T1 U6 T1 U3 T2 Uc6 T40 U20b T1 U1 C1 T2 U1a T5 U31 T5 U5 T6",
  "U60 T21 Ubfe T3 U8d T1 U60 T20 U22a T4 U6b T2 U75d4 T4 U1 Ta U20 T2 U50 T2 U110 T1 U3 T1",
  "U4 T1 U19 T2 U5 T1 U13 D32 L1 U51 T2 U1a T12 Ud T1 U26 T8 U19 Tb U2e T3 U30 T1 U2 T4 U2 T2",
  "U27 T1 U43 T6 U2 T2 U2 T2 Uc T1 U8 T1 U2f T1 U33 T1 U1 T3 U2 T2 U5 T2 U1 T1 U2a T2 U8 T1",
  "Uee T1 U2 T1 U4 T1 U4f30 T1 U2e1 T10 U10 T10 Ucf T1 Uf9 T3 U201 T1 Ue2 T1 U95 T5 U686 T3",
  "U1 T2 U5 T4 U28 T3 U4 T1 U80 D5 R1 U1 R1 U1 R2 U2 L1 R5 D4 L1 D5 R1 D3 R1 U2 R1 T2 U4 D4",
  "R1 U90 D1 R1 D1 R3 D3 R1 D2 R1 D1 R2 D1 R1 U17 R4 D2 U151 L1 D21 R1 D1 T4 U183 T2 U50 T3",
  "U30 D3 R1 D11 U1 Tb D3 R1 U1b D4 R2 Dc T4 U2a D1 U1 D2 R3 U1 D1 R2 D2 R1 D2 U1 D1 R2 D1 U4",
  "R1 D1 L1 U35 T1 U36 Tf U29 T1 U2 T2 Ua T3 U31 T4 U2 T2 U7 T1 U3d T3 U24 T5 U1 T8 U3e T1 Uc",
  "T2 U34 T9 Ua T4 U2 T1 U5f T3 U2 T1 U1 T2 U6 T1 U2 T1 U9d T1 U3 T8 U15 T2 U39 T2 U3 T1 U25",
  "T7 U3 T5 Uc3 T8 U2 T3 U1 T1 U17 T1 U54 T6 U1 T1 U4 T2 U1 T2 Uee T4 U6 T2 U1 T2 U1b T2 U55",
  "T8 U2 T1 U1 T2 U6a T1 U1 T1 U2 T6 U1 T1 U65 T3 U2 T4 U1 T5 U103 T9 U1 T2 U100 T2 U1 T1 U4",
  "T1 U90 T4 U2 T2 U4 T1 U20 Ta U28 T6 U2 T4 U8 T1 U9 T6 U2 T3 U2e Td U1 T2 U196 T7 U1 T6 U1",
  "T1 U52 T16 U2 T7 U1 T2 U1 T2 U7a T6 U3 T1 U1 T2 U1 T7 U1 T1 U48 T2 U3 T1 U1 T1 U15b T2 Ub",
  "T2 U34 T5 U5 T1 U1 T1 U14ed T11 U6 Tf U369a T5 U3b T7 U418 T1 U3f T4 U51 T1 U4cb8 T2 U1 T4",
  "U125c T2e U2 T17 U220 T3 U9 T10 U2 T7 U1e T4 U94 T3 U7bb T37 U4 T32 U8 T1 Ue T1 U16 T5 U1",
  "Tf U550 T7 U1 T11 U2 T7 U1 T2 U1 T5 U64 T1 Ua0 T7 U177 T1 U3d T4 U1fc T4 U3e0 T7 U29 D44",
  "T8 Uc16b5 T1 U1e T60 U80 Tf0 U2fe10"]

/-- The code points that join, run by run. -/
def joiningRuns : List Run := (runsOf 1 joiningRows).filter fun run => run.name != ['U']

/-- The letter for how a character joins. -/
def joining (c : Char) : Text :=
  match joiningRuns.find? fun run => run.first ≤ c.toNat && c.toNat ≤ run.last with
  | some run => run.name
  | none => ['U']

/-- Whether a character joins the one behind it. -/
def joinsBehind (c : Char) : Bool := joining c == ['L'] || joining c == ['D']

/-- Whether a character joins the one before it. -/
def joinsBefore (c : Char) : Bool := joining c == ['R'] || joining c == ['D']

/-- Whether a character is looked through. -/
def isTransparent (c : Char) : Bool := joining c == ['T']

end Infill.Unicode
