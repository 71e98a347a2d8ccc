import ConfigWiring.Text.Printable

/-!
# User-perceived characters

A user-perceived character is a run of characters that are not parted: a line break
of two characters, a syllable of conjoining letters, a letter with its marks, a flag
of two regional indicators, and a picture with its modifiers and those joined to it.
The boundaries follow the classes and rules of the Unicode standard, version 10.
-/

namespace ConfigWiring
namespace Text

/-- Control and format characters, which stand alone. -/
def isolatedRanges : RangeTable :=
  [
    (0x0, 0x9), (0xB, 0xC), (0xE, 0x1F), (0x7F, 0x9F), (0xAD, 0xAD), (0x61C, 0x61C),
    (0x180E, 0x180E), (0x200B, 0x200B), (0x200E, 0x200F), (0x2028, 0x202E), (0x2060, 0x206F),
    (0xFEFF, 0xFEFF), (0xFFF0, 0xFFFB), (0x1BCA0, 0x1BCA3), (0x1D173, 0x1D17A),
    (0xE0000, 0xE001F), (0xE0080, 0xE00FF), (0xE01F0, 0xE0FFF)
  ]

/-- Signs that belong to the character behind them. -/
def leadingSignRanges : RangeTable :=
  [
    (0x600, 0x605), (0x6DD, 0x6DD), (0x70F, 0x70F), (0x8E2, 0x8E2), (0xD4E, 0xD4E),
    (0x110BD, 0x110BD), (0x111C2, 0x111C3), (0x11A3A, 0x11A3A), (0x11A86, 0x11A89),
    (0x11D46, 0x11D46)
  ]

/-- Marks with a width of their own that belong to the character before them. -/
def spacingMarkRanges : RangeTable :=
  [
    (0x903, 0x903), (0x93B, 0x93B), (0x93E, 0x940), (0x949, 0x94C), (0x94E, 0x94F),
    (0x982, 0x983), (0x9BF, 0x9C0), (0x9C7, 0x9C8), (0x9CB, 0x9CC), (0xA03, 0xA03),
    (0xA3E, 0xA40), (0xA83, 0xA83), (0xABE, 0xAC0), (0xAC9, 0xAC9), (0xACB, 0xACC),
    (0xB02, 0xB03), (0xB40, 0xB40), (0xB47, 0xB48), (0xB4B, 0xB4C), (0xBBF, 0xBBF),
    (0xBC1, 0xBC2), (0xBC6, 0xBC8), (0xBCA, 0xBCC), (0xC01, 0xC03), (0xC41, 0xC44),
    (0xC82, 0xC83), (0xCBE, 0xCBE), (0xCC1, 0xCC1), (0xCC3, 0xCC4), (0xCF3, 0xCF3),
    (0xD02, 0xD03), (0xD3F, 0xD40), (0xD46, 0xD48), (0xD4A, 0xD4C), (0xD82, 0xD83),
    (0xDD0, 0xDD1), (0xDD8, 0xDDE), (0xDF2, 0xDF3), (0xE33, 0xE33), (0xEB3, 0xEB3),
    (0xF3E, 0xF3F), (0xF7F, 0xF7F), (0x1031, 0x1031), (0x103B, 0x103C), (0x1056, 0x1057),
    (0x1084, 0x1084), (0x17B6, 0x17B6), (0x17BE, 0x17C5), (0x17C7, 0x17C8), (0x1923, 0x1926),
    (0x1929, 0x192B), (0x1930, 0x1931), (0x1933, 0x1938), (0x1A19, 0x1A1A), (0x1A55, 0x1A55),
    (0x1A57, 0x1A57), (0x1A6D, 0x1A72), (0x1B04, 0x1B04), (0x1B3E, 0x1B41), (0x1B82, 0x1B82),
    (0x1BA1, 0x1BA1), (0x1BA6, 0x1BA7), (0x1BE7, 0x1BE7), (0x1BEA, 0x1BEC), (0x1BEE, 0x1BEE),
    (0x1C24, 0x1C2B), (0x1C34, 0x1C35), (0x1CE1, 0x1CE1), (0x1CF7, 0x1CF7), (0xA823, 0xA824),
    (0xA827, 0xA827), (0xA880, 0xA881), (0xA8B4, 0xA8C3), (0xA952, 0xA952), (0xA983, 0xA983),
    (0xA9B4, 0xA9B5), (0xA9BA, 0xA9BB), (0xA9BE, 0xA9BF), (0xAA2F, 0xAA30), (0xAA33, 0xAA34),
    (0xAA4D, 0xAA4D), (0xAAEB, 0xAAEB), (0xAAEE, 0xAAEF), (0xAAF5, 0xAAF5), (0xABE3, 0xABE4),
    (0xABE6, 0xABE7), (0xABE9, 0xABEA), (0xABEC, 0xABEC), (0x11000, 0x11000), (0x11002, 0x11002),
    (0x11082, 0x11082), (0x110B0, 0x110B2), (0x110B7, 0x110B8), (0x1112C, 0x1112C),
    (0x11145, 0x11146), (0x11182, 0x11182), (0x111B3, 0x111B5), (0x111BF, 0x111BF),
    (0x111CE, 0x111CE), (0x1122C, 0x1122E), (0x11232, 0x11233), (0x112E0, 0x112E2),
    (0x11302, 0x11303), (0x1133F, 0x1133F), (0x11341, 0x11344), (0x11347, 0x11348),
    (0x1134B, 0x1134C), (0x11362, 0x11363), (0x113B9, 0x113BA), (0x113CA, 0x113CA),
    (0x113CC, 0x113CD), (0x11435, 0x11437), (0x11440, 0x11441), (0x11445, 0x11445),
    (0x114B1, 0x114B2), (0x114B9, 0x114B9), (0x114BB, 0x114BC), (0x114BE, 0x114BE),
    (0x114C1, 0x114C1), (0x115B0, 0x115B1), (0x115B8, 0x115BB), (0x115BE, 0x115BE),
    (0x11630, 0x11632), (0x1163B, 0x1163C), (0x1163E, 0x1163E), (0x116AC, 0x116AC),
    (0x116AE, 0x116AF), (0x1171E, 0x1171E), (0x11726, 0x11726), (0x1182C, 0x1182E),
    (0x11838, 0x11838), (0x11931, 0x11935), (0x11937, 0x11938), (0x11940, 0x11940),
    (0x11942, 0x11942), (0x119D1, 0x119D3), (0x119DC, 0x119DF), (0x119E4, 0x119E4),
    (0x11A39, 0x11A39), (0x11A57, 0x11A58), (0x11A97, 0x11A97), (0x11B61, 0x11B61),
    (0x11B65, 0x11B65), (0x11B67, 0x11B67), (0x11C2F, 0x11C2F), (0x11C3E, 0x11C3E),
    (0x11CA9, 0x11CA9), (0x11CB1, 0x11CB1), (0x11CB4, 0x11CB4), (0x11D8A, 0x11D8E),
    (0x11D93, 0x11D94), (0x11D96, 0x11D96), (0x11EF5, 0x11EF6), (0x11F03, 0x11F03),
    (0x11F34, 0x11F35), (0x11F3E, 0x11F3F), (0x1612A, 0x1612C), (0x16F51, 0x16F87)
  ]

/-- Pictures that take a modifier. -/
def modifiablePictureRanges : RangeTable :=
  [
    (0x261D, 0x261D), (0x26F9, 0x26F9), (0x270A, 0x270D), (0x1F385, 0x1F385), (0x1F3C2, 0x1F3C4),
    (0x1F3C7, 0x1F3C7), (0x1F3CA, 0x1F3CC), (0x1F442, 0x1F443), (0x1F446, 0x1F450),
    (0x1F46E, 0x1F46E), (0x1F470, 0x1F478), (0x1F47C, 0x1F47C), (0x1F481, 0x1F483),
    (0x1F485, 0x1F487), (0x1F4AA, 0x1F4AA), (0x1F574, 0x1F575), (0x1F57A, 0x1F57A),
    (0x1F590, 0x1F590), (0x1F595, 0x1F596), (0x1F645, 0x1F647), (0x1F64B, 0x1F64F),
    (0x1F6A3, 0x1F6A3), (0x1F6B4, 0x1F6B6), (0x1F6C0, 0x1F6C0), (0x1F6CC, 0x1F6CC),
    (0x1F918, 0x1F91C), (0x1F91E, 0x1F91F), (0x1F926, 0x1F926), (0x1F930, 0x1F939),
    (0x1F93D, 0x1F93E), (0x1F9D1, 0x1F9DD)
  ]

/-- Pictures of people that take a modifier and join with others. -/
def personPictureRanges : RangeTable := [(0x1F466, 0x1F469)]

/-- Pictures that join with the one before a joiner. -/
def joinablePictureRanges : RangeTable :=
  [
    (0x2640, 0x2640), (0x2642, 0x2642), (0x2695, 0x2696), (0x2708, 0x2708), (0x2764, 0x2764),
    (0x1F308, 0x1F308), (0x1F33E, 0x1F33E), (0x1F373, 0x1F373), (0x1F393, 0x1F393),
    (0x1F3A4, 0x1F3A4), (0x1F3A8, 0x1F3A8), (0x1F3EB, 0x1F3EB), (0x1F3ED, 0x1F3ED),
    (0x1F48B, 0x1F48B), (0x1F4BB, 0x1F4BC), (0x1F527, 0x1F527), (0x1F52C, 0x1F52C),
    (0x1F5E8, 0x1F5E8), (0x1F680, 0x1F680), (0x1F692, 0x1F692)
  ]

/-- The part that a character takes in a user-perceived character. -/
inductive GraphemeClass where
  | carriageReturn | lineFeed | isolated | mark | joiner | regional | leadingSign | spacingMark
  | leadingConsonant | vowel | trailingConsonant | openSyllable | closedSyllable
  | modifiable | modifier | joinable | person | other
  deriving DecidableEq, Repr

namespace GraphemeClass

/-- The class of the letters of conjoining syllables. -/
def ofSyllable? (code : Nat) : Option GraphemeClass :=
  if (0x1100 ≤ code && code ≤ 0x115F) || (0xA960 ≤ code && code ≤ 0xA97C) then
    some leadingConsonant
  else if (0x1160 ≤ code && code ≤ 0x11A7) || (0xD7B0 ≤ code && code ≤ 0xD7C6) then some vowel
  else if (0x11A8 ≤ code && code ≤ 0x11FF) || (0xD7CB ≤ code && code ≤ 0xD7FB) then
    some trailingConsonant
  else if 0xAC00 ≤ code && code ≤ 0xD7A3 then
    some (if (code - 0xAC00) % 28 = 0 then openSyllable else closedSyllable)
  else none

/-- The class of pictures and of what joins them. -/
def ofPicture? (code : Nat) : Option GraphemeClass :=
  if 0x1F1E6 ≤ code && code ≤ 0x1F1FF then some regional
  else if 0x1F3FB ≤ code && code ≤ 0x1F3FF then some modifier
  else if code = 0x200D then some joiner
  else if modifiablePictureRanges.contains code then some modifiable
  else if personPictureRanges.contains code then some person
  else if joinablePictureRanges.contains code then some joinable
  else none

/-- The class of a character. -/
def ofChar (char : Char) : GraphemeClass :=
  let code := char.toNat
  if code = 0xD then carriageReturn
  else if code = 0xA then lineFeed
  else if isolatedRanges.contains code then isolated
  else
    match (ofSyllable? code).or (ofPicture? code) with
    | some found => found
    | none =>
        if leadingSignRanges.contains code then leadingSign
        else if extendingRanges.contains code || code = 0xFF9E || code = 0xFF9F then mark
        else if spacingMarkRanges.contains code then spacingMark
        else other

/-- Whether a class is a control character or a line break. -/
def standsAlone : GraphemeClass -> Bool
  | carriageReturn | lineFeed | isolated => true
  | _ => false

/-- Whether two neighbours belong together, where it is known whether the marks before
stand on a picture that takes a modifier, and whether the one before ends a flag. -/
def joins (onPicture flagEnded : Bool) (before behind : GraphemeClass) : Bool :=
  match before, behind with
  | carriageReturn, lineFeed => true
  | before, behind =>
      if before.standsAlone || behind.standsAlone then false
      else
        match before, behind with
        | leadingConsonant, leadingConsonant | leadingConsonant, vowel
        | leadingConsonant, openSyllable | leadingConsonant, closedSyllable => true
        | openSyllable, vowel | vowel, vowel | openSyllable, trailingConsonant
        | vowel, trailingConsonant => true
        | closedSyllable, trailingConsonant | trailingConsonant, trailingConsonant => true
        | _, mark | _, joiner | _, spacingMark => true
        | leadingSign, _ => true
        | _, modifier => onPicture
        | joiner, joinable | joiner, person => true
        | regional, regional => !flagEnded
        | _, _ => false

end GraphemeClass

/-- The user-perceived characters of a text behind the beginning of one, which is given
backwards with the class of its last character. -/
def graphemesFrom (begun : List Char) (before : GraphemeClass) (onPicture flagEnded : Bool) :
    List Char -> List (List Char)
  | [] => [begun.reverse]
  | char :: rest =>
      let behind := GraphemeClass.ofChar char
      let picture :=
        match behind with
        | .modifiable | .person => true
        | .mark => onPicture
        | _ => false
      if before.joins onPicture flagEnded behind then
        graphemesFrom (char :: begun) behind picture (behind == .regional) rest
      else begun.reverse :: graphemesFrom [char] behind picture false rest

/-- The user-perceived characters of a text. -/
def graphemes : List Char -> List (List Char)
  | [] => []
  | char :: rest =>
      let first := GraphemeClass.ofChar char
      graphemesFrom [char] first (first == .modifiable || first == .person) false rest

theorem flatten_graphemesFrom (begun : List Char) (before : GraphemeClass)
    (onPicture flagEnded : Bool) (text : List Char) :
    (graphemesFrom begun before onPicture flagEnded text).flatten = begun.reverse ++ text := by
  induction text generalizing begun before onPicture flagEnded with
  | nil => simp [graphemesFrom]
  | cons char rest ih =>
      rw [graphemesFrom]
      split
      · rw [ih]
        simp
      · rw [List.flatten_cons, ih]
        simp

@[simp] theorem flatten_graphemes (text : List Char) : (graphemes text).flatten = text := by
  cases text with
  | nil => rfl
  | cons char rest => simp [graphemes, flatten_graphemesFrom]

end Text
end ConfigWiring
