import DirectoryLogin.Unicode.Category

namespace DirectoryLogin.Unicode

inductive Direction
  | leftToRight
  | rightToLeft
  /-- A letter of Arabic, from right to left. -/
  | arabicLetter
  | arabicNumber
  | europeanNumber
  | europeanSeparator
  | europeanTerminator
  | commonSeparator
  | neutral
  | boundary
  /-- A mark takes the direction of the character before it. -/
  | mark
  deriving DecidableEq, Inhabited

namespace Direction

def ofLabel (label : String) : Direction :=
  match label with
  | "R" => rightToLeft
  | "AL" => arabicLetter
  | "AN" => arabicNumber
  | "EN" => europeanNumber
  | "ES" => europeanSeparator
  | "ET" => europeanTerminator
  | "CS" => commonSeparator
  | "ON" => neutral
  | "BN" => boundary
  | "NSM" => mark
  | _ => leftToRight

/-- The direction that most characters of a category have. -/
def ofCategory (category : String) : Direction :=
  match category with
  | "Mn" | "Me" => mark
  | "Sc" => europeanTerminator
  | "Sm" | "Sk" | "So" | "Pc" | "Pd" | "Ps" | "Pe" | "Pi" | "Pf" | "Po" => neutral
  | _ => leftToRight

/-- The characters whose direction is not that of their category. -/
def exceptions : Array (Nat × (Nat × Direction)) :=
  ((tableWords
    "23:ET 25:ET 2B:ES 2C:CS 2D:ES 2E-2F:CS 30-39:EN 3A:CS B0-B1:ET 2B9-2BA:ON 2C6-2CF:ON 2EC:ON
482:L 55A-55F:L 589:L 5BE:R 5C0:R 5C3:R 5C6:R 5D0-5F4:R 608:AL 609-60A:ET 60B:AL 60C:CS 60D:AL
61B-64A:AL 660-669:AN 66A:ET 66B-66C:AN 66D-66F:AL 671-6D5:AL 6E5-6E6:AL 6EE-6EF:AL 6F0-6F9:EN
6FA-710:AL 712-72F:AL 74D-7A5:AL 7B1:AL 7C0-7EA:R 7F4-7F5:R 7FA:R 7FE-815:R 81A:R 824:R 828:R
830-858:R 85E:R 860-88F:AL 8A0-8C9:AL 964-965:L 970:L 9FA:L 9FD:L A76:L AF0:L B70:L C77:L
C78-C7E:ON C7F:L C84:L CBF:L CC6:L D4F:L D79:L DF4:L E4F:L E5A-E5B:L F01-F17:L F1A-F1F:L F34:L
F36:L F38:L F85:L FBE-FC5:L FC7-FDA:L 104A-104F:L 109E-109F:L 10FB:L 1360-1368:L 166D-166E:L
16EB-16ED:L 1735-1736:L 17D4-17D6:L 17D8-17DA:L 17F0-17F9:ON 1A1E-1A1F:L 1AA0-1AA6:L 1AA8-1AAD:L
1B4E-1B4F:L 1B5A-1B6A:L 1B74-1B7F:L 1BFC-1BFF:L 1C3B-1C3F:L 1C7E-1C7F:L 1CC0-1CC7:L 1CD3:L
200C-200D:BN 2030-2032:ET 2044:CS 212E:ET 214F:L 2212:ES 2213:ET 2336-237A:L 2395:L 24EB-24FF:ON
26AC:L 2776-2793:ON 2800-28FF:L 2CFD:ON 2D70:L 2E2F:ON 3190-3191:L 327F:L A4FE-A4FF:L A67F:ON
A6F2-A6F7:L A717-A71F:ON A788:ON A789-A78A:L A836-A837:L A839:ET A8CE-A8CF:L A8F8-A8FA:L A8FC:L
A92E-A92F:L A95F:L A9C1-A9CD:L A9DE-A9DF:L AA5C-AA5F:L AA77-AA79:L AADE-AADF:L AAF0-AAF1:L AB5B:L
ABEB:L FBB2-FBC2:AL FE73:AL 10100:L 10102:L 10137-1013F:L 10140-10178:ON 1018A-1018B:ON
1018D-1018E:L 101D0-101FC:L 102E1-102FB:EN 1039F:L 103D0:L 1056F:L 10800-1091B:R 10920-10A00:R
10A10-10A35:R 10A40-10AE4:R 10AEB-10B35:R 10B40-10CFF:R 10D00-10D23:AL 10D30-10D39:AN
10D40-10D49:AN 10D4A-10D4F:R 10D6F-10D8F:R 10E60-10E7E:AN 10E80-10EA9:R 10EAD-10EB1:R
10EC2-10EC7:AL 10F00-10F27:R 10F30-10F45:AL 10F51-10F59:AL 10F70-10F81:R 10F86-10FF6:R
11047-1104D:L 11052-11065:ON 110BB-110C1:L 11140-11143:L 11174-11175:L 111C5-111C8:L 111CD:L
111DB:L 111DD-111DF:L 11238-1123D:L 112A9:L 113D4-113D8:L 1144B-1144F:L 1145A-1145D:L 114C6:L
115C1-115D7:L 11641-11643:L 116B9:L 1173C-1173F:L 1183B:L 11944-11946:L 119E2:L 11A07-11A08:L
11A3F-11A46:L 11A9A-11A9C:L 11A9E-11AA2:L 11B00-11B09:L 11BE1:L 11C3F:L 11C41-11C45:L
11C70-11C71:L 11EF7-11EF8:L 11F43-11F4F:L 11FFF:L 12470-12474:L 12FF1-12FF2:L 16A6E-16A6F:L
16AF5:L 16B37-16B3F:L 16B44-16B45:L 16D6D-16D6F:L 16E97-16E9A:L 1BC9C:L 1BC9F:L 1CF50-1D15D:L
1D16A-1D16C:L 1D183-1D184:L 1D18C-1D1A9:L 1D1AE-1D1E8:L 1D800-1D9FF:L 1DA37-1DA3A:L 1DA6D-1DA74:L
1DA76-1DA83:L 1DA85-1DA8B:L 1E14F:L 1E5FF:L 1E800-1E8CF:R 1E922-1E943:R 1E94B-1E95F:R
1EC71-1ED3D:AL 1F10B-1F10C:ON 1F150-1F169:L 1F170-1F1AC:L
1F1E6-1F1FF:L").map fun word =>
      let (range, label) := (Text.cutAt (· == ':') word).getD (word, [])
      let (low, high) := readRange range
      (low, (high, ofLabel (String.ofList label)))).toArray

end Direction

/-- The direction of a character that domain names may contain. -/
def direction (n : Nat) : Direction :=
  match rowOf Direction.exceptions n with
  | some (_, high, found) => if n ≤ high then found else .ofCategory (category n)
  | none => .ofCategory (category n)

end DirectoryLogin.Unicode
