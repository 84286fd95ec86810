import StatementProfiles.Text.Stretch

/-!
# Letter case

Characters that differ in case only have the same folded form, by the simple case folding of Unicode 16. The table lists
shifts of code points: a character in a shift's stretches folds to the one that lies so far away, any other to itself.
Two characters are variants of each other when they fold alike (`caseVariants`).
-/

namespace StatementProfiles

/-- A distance between code points, and the code points that fold over it. -/
structure CaseShift where
  distance : Int
  text : String

namespace CaseShift

/-- The shifts of simple case folding. -/
def table : List CaseShift := [
  ⟨1,
    "100-12E/2 132-136/2 139-147/2 14A-176/2 179-17D/2 182-184/2 187 18B 191 198 1A0-1A4/2 1A7 1AC 1AF 1B3-1B5/2 1B8
     1BC 1C5 1C8 1CB-1DB/2 1DE-1EE/2 1F2-1F4/2 1F8-21E/2 222-232/2 23B 241 246-24E/2 370-372/2 376 3C2 3D8-3EE/2 3F7
     3FA 460-480/2 48A-4BE/2 4C1-4CD/2 4D0-52E/2 1C89 1E00-1E94/2 1EA0-1EFE/2 2183 2C60 2C67-2C6B/2 2C72 2C75
     2C80-2CE2/2 2CEB-2CED/2 2CF2 A640-A66C/2 A680-A69A/2 A722-A72E/2 A732-A76E/2 A779-A77B/2 A77E-A786/2 A78B
     A790-A792/2 A796-A7A8/2 A7B4-A7C2/2 A7C7-A7C9/2 A7CC A7D0 A7D6-A7DA/2 A7F5 FB05"⟩,
  ⟨-8,
    "13F8-13FD 1F08-1F0F 1F18-1F1D 1F28-1F2F 1F38-1F3F 1F48-1F4D 1F59-1F5F/2 1F68-1F6F 1F88-1F8F 1F98-1F9F 1FA8-1FAF
     1FB8-1FB9 1FD8-1FD9 1FE8-1FE9"⟩,
  ⟨32, "41-5A C0-D6 D8-DE 391-3A1 3A3-3AB 410-42F FF21-FF3A 10D50-10D65 118A0-118BF 16E40-16E5F"⟩,
  ⟨39, "10570-10594/2 10571-10579/2 1057D-10589/2 1058D-10591/2 10595"⟩, ⟨2, "1C4 1C7 1CA 1F1"⟩,
  ⟨-9, "1FBC 1FCC 1FFC"⟩, ⟨218, "1A6 1A9 1AE"⟩, ⟨7264, "10A0-10C5 10C7 10CD"⟩, ⟨-7, "3F9 1FEC"⟩,
  ⟨40, "10400-10427 104B0-104D3"⟩, ⟨-48, "3F1 A7C4"⟩, ⟨48, "531-556 2C00-2C2F"⟩, ⟨64, "38C 10C80-10CB2"⟩,
  ⟨116, "345 37F"⟩, ⟨-130, "220 3FD-3FF"⟩, ⟨205, "189-18A 193"⟩, ⟨211, "196 19C"⟩, ⟨-3008, "1C90-1CBA 1CBD-1CBF"⟩,
  ⟨-42308, "A7AA A7AE"⟩, ⟨8, "3CF"⟩, ⟨-15, "3D5"⟩, ⟨15, "4C0"⟩, ⟨16, "2160-216F"⟩, ⟨-22, "3D6"⟩, ⟨-25, "3D1"⟩,
  ⟨26, "24B6-24CF"⟩, ⟨28, "2132"⟩, ⟨-30, "3D0"⟩, ⟨34, "1E900-1E921"⟩, ⟨37, "388-38A"⟩, ⟨38, "386"⟩, ⟨-54, "3F0"⟩,
  ⟨-56, "1F7"⟩, ⟨-58, "1E9B"⟩, ⟨-60, "3F4"⟩, ⟨63, "38E-38F"⟩, ⟨-64, "3F5"⟩, ⟨69, "244"⟩, ⟨71, "245"⟩,
  ⟨-74, "1FBA-1FBB"⟩, ⟨79, "18E"⟩, ⟨80, "400-40F"⟩, ⟨-86, "1FC8-1FCB"⟩, ⟨-97, "1F6"⟩, ⟨-100, "1FDA-1FDB"⟩,
  ⟨-112, "1FEA-1FEB"⟩, ⟨-121, "178"⟩, ⟨-126, "1FFA-1FFB"⟩, ⟨-128, "1FF8-1FF9"⟩, ⟨-163, "23D"⟩, ⟨-195, "243"⟩,
  ⟨202, "18F"⟩, ⟨203, "190"⟩, ⟨206, "186"⟩, ⟨207, "194"⟩, ⟨209, "197"⟩, ⟨210, "181"⟩, ⟨213, "19D"⟩, ⟨214, "19F"⟩,
  ⟨217, "1B1-1B2"⟩, ⟨219, "1B7"⟩, ⟨-268, "17F"⟩, ⟨775, "B5"⟩, ⟨928, "A7B3"⟩, ⟨-3814, "2C63"⟩, ⟨-6180, "1C87"⟩,
  ⟨-6204, "1C86"⟩, ⟨-6210, "1C83-1C84"⟩, ⟨-6211, "1C85"⟩, ⟨-6212, "1C82"⟩, ⟨-6221, "1C81"⟩, ⟨-6222, "1C80"⟩,
  ⟨-7173, "1FBE"⟩, ⟨-7219, "1FE3"⟩, ⟨-7235, "1FD3"⟩, ⟨-7517, "2126"⟩, ⟨-7615, "1E9E"⟩, ⟨-8262, "212B"⟩,
  ⟨-8383, "212A"⟩, ⟨-10727, "2C64"⟩, ⟨-10743, "2C62"⟩, ⟨-10749, "2C6E"⟩, ⟨-10780, "2C6D"⟩, ⟨-10782, "2C70"⟩,
  ⟨-10783, "2C6F"⟩, ⟨10792, "23E"⟩, ⟨10795, "23A"⟩, ⟨-10815, "2C7E-2C7F"⟩, ⟨35267, "1C88"⟩, ⟨-35332, "A77D"⟩,
  ⟨-35384, "A7C6"⟩, ⟨-38864, "AB70-ABBF"⟩, ⟨-42258, "A7B0"⟩, ⟨-42261, "A7B2"⟩, ⟨-42280, "A78D"⟩, ⟨-42282, "A7B1"⟩,
  ⟨-42305, "A7AD"⟩, ⟨-42307, "A7C5"⟩, ⟨-42315, "A7AC"⟩, ⟨-42319, "A7AB"⟩, ⟨-42343, "A7CB"⟩, ⟨-42561, "A7DC"⟩]

/-- The shifts with their stretches. -/
def all : List (Int × List Stretch) := table.map fun s => (s.distance, Stretch.listOf s.text)

/-- The code points that fold to others, with their folded forms. -/
def pairs : List (Nat × Nat) :=
  all.flatMap fun (distance, stretches) =>
    (stretches.flatMap Stretch.elements).map fun n => (n, ((n : Int) + distance).toNat)

end CaseShift

/-- The folded form of a code point. -/
def foldCase (n : Nat) : Nat :=
  match CaseShift.all.find? fun shift => shift.2.any fun s => s.contains n with
  | some shift => ((n : Int) + shift.1).toNat
  | none => n

/-- The code points that fold to `n` over some shift. -/
def unfoldCase (n : Nat) : List Nat :=
  CaseShift.all.filterMap fun shift =>
    let m := (n : Int) - shift.1
    if 0 ≤ m && shift.2.any fun s => s.contains m.toNat then some m.toNat else none

/-- The characters that fold as a character does, itself among them. -/
def caseVariants (c : Char) : List Char :=
  let n := foldCase c.toNat
  (n :: unfoldCase n).map Char.ofNat

end StatementProfiles
