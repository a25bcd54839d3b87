import Infill.Unicode.Property

/-!
# Breaks

The classes of code points that tell where a text can be broken between clusters of characters, words
and sentences.  They are written like properties.
-/

namespace Infill.Unicode

/-- The classes for breaks between clusters, but for the syllables of Hangul. -/
def clusterBreakRows : List PropertyRow := [
  { names := ["cr"],
    categories := "",
    exceptions := [
      "d 1"] },
  { names := ["control", "cn"],
    categories := "Cc Cf Zl Zp",
    exceptions := [
      "a 1 2 1 5f2 6 d7 1 31 1 180 2 50 1 1729 2 57 1 df8a 9 10c4 1 f 1 cef32 1 1 fe f0 e10"] },
  { names := ["extend", "ex"],
    categories := "Me Mn",
    exceptions := [
      "9be 1 18 1 166 1 18 1 66 1 18 1 ea 1 12 2 67 1 18 1 77 1 f 1 d55 1 4d6 1 1021 2 cf6e 2",
      "139e 1 18 1 158 1 c 1 f1 1 380 1 b834 1 8 5 2288 5 c0c20 60"] },
  { names := ["l"],
    categories := "",
    exceptions := [
      "1100 60 9800 1d"] },
  { names := ["lf"],
    categories := "",
    exceptions := [
      "a 1"] },
  { names := ["prepend", "pp"],
    categories := "",
    exceptions := [
      "600 6 d7 1 31 1 180 2 50 1 46b 1 1036e 1 f 1 f4 2 77b 1 1 1 f8 1 49 6 2bc 1 1bb 1"] },
  { names := ["regionalindicator", "ri"],
    categories := "",
    exceptions := [
      "1f1e6 1a"] },
  { names := ["spacingmark", "sm"],
    categories := "Mc",
    exceptions := [
      "9be 1 18 1 166 1 18 1 66 1 18 1 ea 1 12 2 67 1 18 1 77 1 f 1 53 1 7f 1 177 2 b 1 29 3",
      "2 7 15 1 3 6 2 1 a 3 9c4 1 1 2 d0 1 14f8 2 7a4b 1 1 1 68c0 1 18 1 158 1 c 1 f1 1 170 2",
      "20e 1 b834 1 8 5"] },
  { names := ["t"],
    categories := "",
    exceptions := [
      "11a8 58 c5cb 31"] },
  { names := ["v"],
    categories := "",
    exceptions := [
      "1160 48 c608 17"] },
  { names := ["zwj"],
    categories := "",
    exceptions := [
      "200d 1"] }]

/-- The classes for breaks between words. -/
def wordBreakRows : List PropertyRow := [
  { names := ["aletter", "le"],
    categories := "Ll Lm Lo Lt Lu Nl",
    exceptions := [
      "2c2 4 c 6 6 2 5 7 1 1 1 11 25a 3 1 1 2b 1 45 1b 4 5 80d 30 1 2 c 7 3a 2 1 1 1 5 1 18 1",
      "1 1 a 1 2 9 1 2 5 1 1 15 4 120 2b 14 1 10 6 4 4 3 1 3 2 7 3 4 d c 1 6f1 34 23 1 4 1",
      "173 1e 2 5 b 2c 4 1a 56 35 52 1 a0e 34 b1c 2 19 9 7 5 2 3 6 56 6 3 1 5a 1 4 f0 10 200",
      "19c0 40 5200 708 f 9 2 67 2 255 5 1 a a 5 61 17 3 1 3 32 1 1 3 2 2 5 2 1 1 1 18 3 7d 1",
      "4da4 16e 2 6a 43 1 1 a 1 d 1 5 1 1 1 2 1 2 1 a 416 3a 1760 1b 25 7 58b9 17f8 8 4d6 2a",
      "9 22e7 4 1 7 1 2 1 123 f 1 1d 3 2 1 e 4 8 18c 3e34 1a 6 1a 6 1a e76 a6e0 20 103a 6 de",
      "2 1682 e 1d31 c1f 21e 5e2 134b 5 1060"] },
  { names := ["cr"],
    categories := "",
    exceptions := [
      "d 1"] },
  { names := ["doublequote", "dq"],
    categories := "",
    exceptions := [
      "22 1"] },
  { names := ["extend"],
    categories := "Mc Me Mn",
    exceptions := [
      "200c 1 df91 2 f45b 5 c0c20 60"] },
  { names := ["extendnumlet", "ex"],
    categories := "Pc",
    exceptions := [
      "202f 1"] },
  { names := ["format", "fo"],
    categories := "Cf",
    exceptions := [
      "200b 3 de012 60"] },
  { names := ["hebrewletter", "hl"],
    categories := "",
    exceptions := [
      "5d0 1b 4 4 f52a 1 1 a 1 d 1 5 1 1 1 2 1 2 1 a"] },
  { names := ["katakana", "ka"],
    categories := "",
    exceptions := [
      "3031 5 65 2 3 5b 1 4 f0 10 d0 2f 1 58 cc0e 38 b052 4 1 7 1 2 1 1 11f 3 32 1 e 4"] },
  { names := ["lf"],
    categories := "",
    exceptions := [
      "a 1"] },
  { names := ["midletter", "ml"],
    categories := "",
    exceptions := [
      "3a 1 7c 1 2cf 1 1d7 1 94 1 1a32 1 ddeb 1 41 1 c4 1"] },
  { names := ["midnum", "mn"],
    categories := "",
    exceptions := [
      "2c 1 e 1 342 1 20a 1 82 2 5e 1 18b 1 184b 1 ddcb 1 3 1 3b 1 3 1 b7 1 e 1"] },
  { names := ["midnumlet", "mb"],
    categories := "",
    exceptions := [
      "2e 1 1fe9 2 a 1 de2d 1 b4 1 6 1"] },
  { names := ["newline", "nl"],
    categories := "Zl Zp",
    exceptions := [
      "b 2 78 1"] },
  { names := ["numeric", "nu"],
    categories := "Nd",
    exceptions := [
      "66b 1"] },
  { names := ["regionalindicator", "ri"],
    categories := "",
    exceptions := [
      "1f1e6 1a"] },
  { names := ["singlequote", "sq"],
    categories := "",
    exceptions := [
      "27 1"] },
  { names := ["wsegspace"],
    categories := "Zs",
    exceptions := [
      "a0 1 1f66 1 27 1"] },
  { names := ["zwj"],
    categories := "",
    exceptions := [
      "200d 1"] }]

/-- The classes for breaks between sentences. -/
def sentenceBreakRows : List PropertyRow := [
  { names := ["aterm", "at"],
    categories := "",
    exceptions := [
      "2e 1 1ff5 1 de2d 1 bb 1"] },
  { names := ["cr"],
    categories := "",
    exceptions := [
      "d 1"] },
  { names := ["close", "cl"],
    categories := "Pe Pf Pi Ps",
    exceptions := [
      "22 1 4 1 2733 6 69f 2 4 3 2 1 1c86a 3"] },
  { names := ["extend", "ex"],
    categories := "Mc Me Mn",
    exceptions := [
      "200c 2 df90 2 d0080 60"] },
  { names := ["format", "fo"],
    categories := "Cf",
    exceptions := [
      "200c 2 de012 60"] },
  { names := ["lf"],
    categories := "",
    exceptions := [
      "a 1"] },
  { names := ["lower", "lo"],
    categories := "Ll",
    exceptions := [
      "aa 1 f 1 1f5 9 7 2 1e 5 95 1 d55 2b 1 4 c2c 3f d 1 22 25 2b1 1 d 1 10 d d3 10 350 1a",
      "792 2 7a1e 2 d2 1 81 3 3 2 362 4 9 1 5c16 1 2 3 1 2a 1 9 d875 3e"] },
  { names := ["numeric", "nu"],
    categories := "Nd",
    exceptions := [
      "66b 2"] },
  { names := ["oletter", "le"],
    categories := "Lm Lo Nl",
    exceptions := [
      "aa 1 f 1 1f5 9 7 2 1e 5 95 1 278 1 adc 2b 1 4 b90 2b 2 3 6c 3f d 1 22 25 2b1 1 d 1 10",
      "d c3 20 afc 2 7a1e 2 d2 1 81 3 3 2 362 4 9 1 5434 2 7e0 1 2 3 1 2a 1 9 d875 3e"] },
  { names := ["scontinue", "sc"],
    categories := "",
    exceptions := [
      "2c 2 c 1 522 1 ae 2 1ea 1 1009 1 5 1 80a 2 fec 1 ce0e 2 1 1 1d 2 1d 2 3 1 2 1 a 1 a8 2",
      "c 1 49 1"] },
  { names := ["sterm", "st"],
    categories := "",
    exceptions := [
      "21 1 1d 1 549 1 93 3 b4 1 2b 3 f6 1 3d 1 1 1 3 2 125 2 6e4 2 316 1 4 2 305 1 c6 2 cc 1",
      "5 1 13a 2 162 4 ae 2 2 2 1d 2 bc 2 41 2 3bc 2 9 3 de4 1 d 1 16 2 1ad 1 74fc 1 10e 2 e3",
      "1 3 1 17e 2 56 2 5f 1 98 2 93 3 90 2 f9 1 526a 2 a9 1 1d 1 41 1 af4 2 4fd 5 2c 4 bd 2",
      "75 4 7f 3 81 2 6 1 10 2 58 2 1 2 6c 1 1a1 2 175 2 5 f 69 2 f9 3 205 1 1 1 fb 2 57 2",
      "1a4 2 2b4 2 4a 2 4b29 2 85 1 41 2 b 1 353 1 4e06 1 1de8 1"] },
  { names := ["sep", "se"],
    categories := "Zl Zp",
    exceptions := [
      "85 1"] },
  { names := ["sp"],
    categories := "Zs",
    exceptions := [
      "9 1 1 2"] },
  { names := ["upper", "up"],
    categories := "Lt Lu",
    exceptions := [
      "1c90 2b 2 3 4a0 10 346 1a 1cc60 1a 6 1a 6 1a"] }]

/-- The syllables of Hangul without a final consonant.  They stand in front of those that have one in
place of it. -/
def openSyllables : CharSet :=
  CharSet.ofRanges ((List.range 399).map fun i => (0xAC00 + 28 * i, 0xAC00 + 28 * i))

/-- The syllables of Hangul with a final consonant. -/
def closedSyllables : CharSet :=
  CharSet.ofRanges ((List.range 399).map fun i => (0xAC01 + 28 * i, 0xAC1B + 28 * i))

/-- The class for breaks between clusters asked for by its loose name. -/
def clusterBreakNamed? (name : String) : Option CharSet :=
  match name with
  | "lv" => some openSyllables
  | "lvt" => some closedSyllables
  | _ => membersNamed? clusterBreakRows name

/-- The class for breaks between words asked for by its loose name. -/
def wordBreakNamed? (name : String) : Option CharSet := membersNamed? wordBreakRows name

/-- The class for breaks between sentences asked for by its loose name. -/
def sentenceBreakNamed? (name : String) : Option CharSet := membersNamed? sentenceBreakRows name

end Infill.Unicode
