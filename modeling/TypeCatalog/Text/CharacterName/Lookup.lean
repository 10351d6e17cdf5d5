import TypeCatalog.Text.CharacterName.Aliases
import TypeCatalog.Text.CharacterName.Alphabets
import TypeCatalog.Text.CharacterName.Ancient
import TypeCatalog.Text.CharacterName.Drawing
import TypeCatalog.Text.CharacterName.EastAsian
import TypeCatalog.Text.CharacterName.Inscriptions
import TypeCatalog.Text.CharacterName.Pictographs
import TypeCatalog.Text.CharacterName.Presentation
import TypeCatalog.Text.CharacterName.Punctuation
import TypeCatalog.Text.CharacterName.Scores
import TypeCatalog.Text.CharacterName.Syllabaries
import TypeCatalog.Text.CodePoint
import TypeCatalog.Text.Digit

/-!
# Characters by name, in the sense of Unicode 14

Most names are listed.  The name of a syllable of Hangul spells its letters, and
the name of an ideograph ends in its code point.  Listed names are found in
either case, names of syllables and of unified ideographs in capitals only.

The names of neighbouring characters have much in common, so a run of names is
written as the letters that change.  Names have no small letters of their own:
small letters stand between two names and say how many letters go from the end
of the first one before the letters of the second one follow.
-/

namespace TypeCatalog.Text

/-! ## Runs of names -/

/-- How many letters a small letter takes off, from `a` for none to `z` for twenty-five. -/
def lettersOff (c : Char) : Nat :=
  c.toNat - 'a'.toNat

/-- The names that changes spell, each from its last letter to its first.  `name` is the name
read so far, and `complete` says that it is already listed. -/
def namesFrom (name : List Char) (complete : Bool) : List Char → List (List Char)
  | [] => [name]
  | c :: rest =>
    if c.isLower then
      let shorter := name.drop (lettersOff c)
      if complete then namesFrom shorter true rest else name :: namesFrom shorter true rest
    else namesFrom (c :: name) false rest

def NameRun.names (run : NameRun) : List (List Char) :=
  namesFrom [] true (run.changes.flatMap String.toList)

def NameRun.find? (run : NameRun) (name : List Char) : Option Nat :=
  (run.names.findIdx? (· == name)).map (run.first + ·)

namespace CharacterName

/-! ## Syllables -/

def initials : List String :=
  ["G", "GG", "N", "D", "DD", "R", "M", "B", "BB", "S", "SS", "", "J", "JJ", "C", "K", "T", "P",
    "H"]

def vowels : List String :=
  ["A", "AE", "YA", "YAE", "EO", "E", "YEO", "YE", "O", "WA", "WAE", "OE", "YO", "U", "WEO", "WE",
    "WI", "YU", "EU", "YI", "I"]

def finals : List String :=
  ["", "G", "GG", "GS", "N", "NJ", "NH", "D", "L", "LG", "LM", "LB", "LS", "LT", "LP", "LH", "M",
    "B", "BS", "S", "SS", "NG", "J", "C", "K", "T", "P", "H"]

/-- The longest of the spellings that a text begins with: its place among them and the text
after it. -/
def longestSpelling? (spellings : List String) (text : List Char) : Option (Nat × List Char) :=
  let matching := spellings.zipIdx.filter fun (spelling, _) => spelling.toList.isPrefixOf text
  (matching.foldl longer none).map fun (spelling, place) => (place, text.drop spelling.length)
where
  longer : Option (String × Nat) → String × Nat → Option (String × Nat)
    | none, next => some next
    | some best, next => some (if best.1.length < next.1.length then next else best)

def syllable? (spelled : List Char) : Option Nat := do
  let (lead, spelled) ← longestSpelling? initials spelled
  let (vowel, spelled) ← longestSpelling? vowels spelled
  let (last, spelled) ← longestSpelling? finals spelled
  if spelled.isEmpty then
    some (0xac00 + (lead * vowels.length + vowel) * finals.length + last)
  else none

/-! ## Ideographs -/

def unifiedRanges : List CodeRange := [
  (0x3400, 0x4dbf), (0x4e00, 0x9fff), (0x20000, 0x2a6df), (0x2a700, 0x2b738), (0x2b740, 0x2b81d),
  (0x2b820, 0x2cea1), (0x2ceb0, 0x2ebe0), (0x30000, 0x3134a)]

def unified? (digits : List Char) : Option Nat := do
  if digits.any Char.isLower || !(digits.length == 4 || digits.length == 5) then none
  else (hexNumber? digits).filter (CodeRange.member unifiedRanges)

def numbered : List (String × List CodeRange) := [
  ("CJK COMPATIBILITY IDEOGRAPH-", [(0xf900, 0xfa6d), (0xfa70, 0xfad9), (0x2f800, 0x2fa1d)]),
  ("KHITAN SMALL SCRIPT CHARACTER-", [(0x18b00, 0x18cd5)]),
  ("NUSHU CHARACTER-", [(0x1b170, 0x1b2fb)])]

/-- The code point that a numbered name in capitals ends in.  It has no leading zeros. -/
def numbered? (name : List Char) : Option Nat :=
  numbered.findSome? fun (stem, ranges) =>
    if stem.toList.isPrefixOf name then
      let digits := name.drop stem.length
      if digits.head? == some '0' then none
      else (hexNumber? digits).filter (CodeRange.member ranges)
    else none

/-! ## All names -/

def listed : List (List NameRun) :=
  [alphabets, syllabaries, punctuation, drawing, eastAsian, presentation, ancient, inscriptions,
    scores, pictographs, aliases]

def listed? (name : List Char) : Option Nat :=
  let backwards := name.reverse
  listed.findSome? fun runs => runs.findSome? (NameRun.find? · backwards)

def syllableStem : List Char := "HANGUL SYLLABLE ".toList

def unifiedStem : List Char := "CJK UNIFIED IDEOGRAPH-".toList

def find? (name : List Char) : Option Nat :=
  if syllableStem.isPrefixOf name then syllable? (name.drop syllableStem.length)
  else if unifiedStem.isPrefixOf name then unified? (name.drop unifiedStem.length)
  else
    let capitals := name.map Char.toUpper
    (numbered? capitals).or (listed? capitals)

end CharacterName

end TypeCatalog.Text
