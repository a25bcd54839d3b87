import Infill.Unicode.Table

/-!
# Directions

The direction in which characters are written, and what becomes of those that have none of their
own.
-/

namespace Infill.Unicode

/-- What a character means for the direction of the text around it. -/
inductive Direction
  | leftToRight
  | rightToLeft
  | arabicLetter
  | arabicNumber
  | europeanNumber
  | numberSign
  | numberSeparator
  | numberTerminator
  | mark
  | neutral
  /-- It is ignored. -/
  | boundary
  /-- It is a blank, a separator of paragraphs, or sets the direction explicitly. -/
  | control
deriving DecidableEq, Repr

/-- The two-letter direction of each run of code points and the length of the run, in code point
order from zero on. -/
def directionRows : List String := [
  "BN9 --5 BNe --5 ON2 ET3 ON5 ES1 CS1 ES1 CS2 ENa CS1 ON6 L-1a ON6 L-1a ON4 BN6 --1 BN1a CS1",
  "ON1 ET4 ON4 L-1 ON2 BN1 ON2 ET2 EN2 ON1 L-1 ON3 EN1 L-1 ON5 L-17 ON1 L-1f ON1 L-1c1 ON2",
  "L-7 ONe L-2 ONe L-5 ON9 L-1 ON11 NM70 L-4 ON2 L-8 ON1 L-5 ON2 L-1 ON1 L-6e ON1 L-8c NM7",
  "L-100 ON1 L-2 ON2 ET1 R-1 NM2d R-1 NM1 R-1 NM2 R-1 NM2 R-1 NM1 R-38 AN6 ON2 AL1 ET2 AL1",
  "CS1 AL1 ON2 NMb AL30 NM15 ANa ET1 AN2 AL3 NM1 AL65 NM7 AN1 ON1 NM6 AL2 NM2 ON1 NM4 AL2 ENa",
  "AL17 NM1 AL1e NM1b AL5b NMb ALf R-2b NM9 R-2 ON4 R-3 NM1 R-18 NM4 R-1 NM9 R-1 NM3 R-1 NM5",
  "R-2b NM3 R-4 AL30 AN2 AL6 NM8 AL2a NM18 AN1 NM20 L-37 NM1 L-1 NM1 L-4 NM8 L-4 NM1 L-3 NM7",
  "L-a NM2 L-1d NM1 L-3a NM1 L-4 NM4 L-8 NM1 L-14 NM2 L-e ET2 L-7 ET1 L-2 NM1 L-2 NM2 L-39",
  "NM1 L-4 NM2 L-4 NM2 L-2 NM3 L-3 NM1 L-1e NM2 L-3 NM1 L-b NM2 L-39 NM1 L-4 NM5 L-1 NM2 L-4",
  "NM1 L-14 NM2 L-d ET1 L-8 NM6 L-1 NM1 L-3a NM1 L-2 NM1 L-1 NM4 L-8 NM1 L-7 NM2 L-b NM2 L-1e",
  "NM1 L-3d NM1 L-c NM1 L-25 ON6 ET1 ON1 L-5 NM1 L-3 NM1 L-37 NM1 L-1 NM3 L-5 NM3 L-1 NM4 L-7",
  "NM2 L-b NM2 L-14 ON7 L-2 NM1 L-3a NM1 L-f NM2 L-14 NM2 L-1c NM2 L-39 NM2 L-4 NM4 L-8 NM1",
  "L-14 NM2 L-1d NM1 L-48 NM1 L-7 NM3 L-1 NM1 L-5a NM1 L-2 NM7 L-4 ET1 L-7 NM8 L-62 NM1 L-2",
  "NM9 L-b NM7 L-49 NM2 L-1b NM1 L-1 NM1 L-1 NM1 ON4 L-33 NMe L-1 NM5 L-1 NM2 L-5 NMb L-1",
  "NM24 L-9 NM1 L-66 NM4 L-1 NM6 L-1 NM2 L-2 NM2 L-19 NM2 L-4 NM3 L-10 NM4 L-d NM1 L-2 NM2",
  "L-6 NM1 L-f NM1 L-2bf NM3 L-30 ONa L-66 ON1 L-27f --1 L-1a ON2 L-75 NM3 L-1d NM2 L-1e NM2",
  "L-1e NM2 L-40 NM2 L-1 NM7 L-8 NM1 L-2 NMb L-7 ET1 L-1 NM1 L-12 ONa L-6 ONb NM3 BN1 NM1",
  "L-75 NM2 L-22 NM1 L-76 NM3 L-4 NM2 L-9 NM1 L-6 NM3 L-4 ON1 L-3 ON2 L-98 ON22 L-17 NM2 L-2",
  "NM1 L-3a NM1 L-1 NM7 L-1 NM1 L-1 NM1 L-2 NM8 L-6 NMa L-2 NM1 L-30 NM1f L-31 NM4 L-30 NM1",
  "L-1 NM5 L-1 NM1 L-5 NM1 L-28 NM9 L-c NM2 L-20 NM4 L-2 NM2 L-1 NM3 L-38 NM1 L-1 NM2 L-3 NM1",
  "L-1 NM3 L-3a NM8 L-2 NM2 L-98 NM3 L-1 NMd L-1 NM7 L-4 NM1 L-6 NM1 L-3 NM2 L-c6 NM40 L-1bd",
  "ON1 L-1 ON3 L-b ON3 L-d ON3 L-d ON3 L-d ON2 L-1 --b BN3 L-1 R-1 ON18 --7 CS1 ET5 ONf CS1",
  "ON1a --1 BN6 --4 BN6 EN1 L-3 EN6 ES2 ON3 L-1 ENa ES2 ON3 L-11 ET30 NM21 L-f ON2 L-1 ON4",
  "L-1 ON2 L-a ON1 L-1 ON3 L-5 ON6 L-1 ON1 L-1 ON1 L-1 ON1 L-4 ET1 L-b ON2 L-4 ON5 L-5 ON4",
  "L-2 ON10 L-29 ON3 L-4 ON82 ES1 ET1 ON122 L-45 ON1a L-1 ON91 L-19 ONb L-15 ON28 EN14 L-4e",
  "ON1c2 L-1 ON153 L-100 ON274 L-2 ON20 L-1 ON69 L-e5 ON6 L-4 NM3 L-7 ON7 L-7f NM1 L-60 NM20",
  "ON5e L-22 ON1a L-1 ON59 L-c ONd6 L-1a ONc L-4 --1 ON4 L-3 ON19 L-9 NM4 L-2 ON1 L-5 ON2 L-5",
  "ON3 L-59 NM2 ON2 L-3 ON1 L-5a ON1 L-c4 ON24 L-39 ON2 L-31 ON10 L-1c ON3 L-32 ONf L-c ON4",
  "L-a7 ON4 L-63 ON2 L-1f ON1 L-19c0 ON40 L-5690 ON37 L-146 ON3 L-5f NM4 ON1 NMa ON2 L-1e NM2",
  "L-50 NM2 L-e ON22 L-66 ON1 L-79 NM1 L-3 NM1 L-4 NM1 L-19 NM2 L-1 ON4 NM1 L-b ET2 L-3a ON4",
  "L-4c NM2 L-1a NM12 L-d NM1 L-26 NM8 L-19 NMb L-2e NM3 L-30 NM1 L-2 NM4 L-2 NM2 L-27 NM1",
  "L-43 NM6 L-2 NM2 L-2 NM2 L-c NM1 L-8 NM1 L-2f NM1 L-33 NM1 L-1 NM3 L-2 NM2 L-5 NM2 L-1 NM1",
  "L-2a NM2 L-8 NM1 L-73 ON2 L-79 NM1 L-2 NM1 L-4 NM1 L-4f2f R-1 NM1 R-a ES1 R-26 AL1ee ON12",
  "AL7f ON1 BN20 ALd ON3 NM10 ONa L-6 NM10 ON20 CS1 ON1 CS1 L-1 ON1 CS1 ON9 ET1 ON2 ES2 ON3",
  "L-1 ON1 ET2 ON1 L-4 AL8f BN1 L-1 ON2 ET3 ON5 ES1 CS1 ES1 CS2 ENa CS1 ON6 L-1a ON6 L-1a ONb",
  "L-7a ET2 ON3 ET2 L-1 ON7 L-1 BN9 ON5 BN2 L-101 ON1 L-3e ON4d L-3 ONd L-3 ON1 L-5c NM1 L-e2",
  "NM1 EN1b L-7a NM5 L-485 R-11f ON1 R-e1 NM3 R-1 NM2 R-5 NM4 R-28 NM3 R-4 NM1 R-a5 NM2 R-52",
  "ON7 R-1c0 AL24 NM4 AL8 ANa AL6 R-120 AN1f R-2c NM2 R-13 AL3d NM3 R-30 AL16 NMb AL1f R-12",
  "NM4 R-7a L-1 NM1 L-36 NMf L-b ON14 L-a NM1 L-2 NM2 L-a NM3 L-31 NM4 L-2 NM2 L-7 NM1 L-3d",
  "NM3 L-24 NM5 L-1 NM8 L-3e NM1 L-c NM2 L-34 NM9 L-a NM4 L-2 NM1 L-5f NM3 L-2 NM1 L-1 NM2",
  "L-6 NM1 L-2 NM1 L-9d NM1 L-3 NM8 L-15 NM2 L-39 NM2 L-3 NM1 L-25 NM7 L-3 NM5 L-c3 NM8 L-2",
  "NM3 L-1 NM1 L-17 NM1 L-54 NM6 L-1 NM1 L-4 NM2 L-1 NM2 L-ee NM4 L-6 NM2 L-1 NM2 L-1b NM2",
  "L-55 NM8 L-2 NM1 L-1 NM2 L-1f ONd L-3e NM1 L-1 NM1 L-2 NM6 L-1 NM1 L-65 NM3 L-2 NM4 L-1",
  "NM5 L-103 NM9 L-1 NM2 L-100 NM2 L-1 NM1 L-4 NM1 L-90 NM4 L-2 NM2 L-4 NM1 L-20 NM6 L-2 NM2",
  "L-28 NM6 L-2 NM4 L-8 NM1 L-9 NM6 L-2 NM3 L-2e NMd L-1 NM2 L-196 NM7 L-1 NM6 L-54 NM16 L-2",
  "NM7 L-1 NM2 L-1 NM2 L-7a NM6 L-3 NM1 L-1 NM2 L-1 NM7 L-1 NM1 L-48 NM2 L-3 NM1 L-1 NM1",
  "L-15b NM2 L-b NM2 L-34 NM5 L-5 NM1 L-1 NM1 L-92 ON8 ET4 ON11 L-144e NM1 L-6 NMf L-369a NM5",
  "L-3b NM7 L-418 NM1 L-3f NM4 L-4f ON1 L-1 NM1 L-4cb8 NM2 L-1 BN4 L-125c NM2e L-2 NM17 L-220",
  "NM3 L-9 BN8 NM8 L-2 NM7 L-1e NM4 L-3b ON2 L-15 ON42 NM3 ON1 L-ba ON57 L-384 ON1 L-39 ON1",
  "L-39 ON1 L-39 ON1 L-39 ON1 L-a EN32 L-200 NM37 L-4 NM32 L-8 NM1 L-e NM1 L-16 NM5 L-1 NMf",
  "L-550 NM7 L-1 NM11 L-2 NM7 L-1 NM2 L-1 NM5 L-64 NM1 L-a0 NM7 L-177 NM1 L-3d NM4 L-f ET1",
  "L-1ec NM4 L-310 R-d0 NM7 R-6d NM7 R-325 AL50 R-40 AL50 R-b0 ALf0 ON2 ALe R-100 ON2c L-4",
  "ON64 L-c ONf L-2 ONf L-1 ONf L-1 ON25 L-a ENb ON5 L-1f ON1 L-3a ON6 L-3d ON1 L-b2 ON6 L-9a",
  "ON3d8 L-4 ON11 L-3 ONd L-3 ON77 L-4 ON5f L-6 ONc L-4 ON1 L-f ONc L-4 ON38 L-8 ONa L-6 ON28",
  "L-8 ON1e L-2 ON2 L-4e ON154 L-c ONe L-2 ONd L-3 ON9 L-7 ON2e L-1 ON7 L-8 ONe L-4 ON9 L-7",
  "ON9 L-7 ON93 L-1 ON37 L-25 ENa L-404 BN2 L-fffe BN2 L-fffe BN2 L-fffe BN2 L-fffe BN2",
  "L-fffe BN2 L-fffe BN2 L-fffe BN2 L-fffe BN2 L-fffe BN2 L-fffe BN2 L-fffe BN2 L-fffe BN102",
  "NMf0 BNe10 L-effe BN2 L-fffe BN2 L-fffe BN2"]

/-- The directions, run by run. -/
def directionRuns : List Run := runsOf 2 directionRows

/-- The direction with a two-letter name. -/
def Direction.ofName (name : String) : Direction :=
  match name with
  | "L-" => leftToRight
  | "R-" => rightToLeft
  | "AL" => arabicLetter
  | "AN" => arabicNumber
  | "EN" => europeanNumber
  | "ES" => numberSign
  | "CS" => numberSeparator
  | "ET" => numberTerminator
  | "NM" => mark
  | "ON" => neutral
  | "BN" => boundary
  | _ => control

/-- The direction of a character. -/
def direction (c : Char) : Direction :=
  match directionRuns.find? fun run => run.first ≤ c.toNat && c.toNat ≤ run.last with
  | some run => Direction.ofName (String.ofList run.name)
  | none => .control

end Infill.Unicode
