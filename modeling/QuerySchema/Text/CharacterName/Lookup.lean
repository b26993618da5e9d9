import QuerySchema.Text.CharacterName.From0000
import QuerySchema.Text.CharacterName.From1000
import QuerySchema.Text.CharacterName.From1B00
import QuerySchema.Text.CharacterName.From2440
import QuerySchema.Text.CharacterName.From2FF0
import QuerySchema.Text.CharacterName.From10080
import QuerySchema.Text.CharacterName.From12F90
import QuerySchema.Text.CharacterName.From1D400
import QuerySchema.Text.CharacterName.From1F900
import QuerySchema.Text.CharacterName.Further
import QuerySchema.Text.Hex

/-!
Characters by their names.

A name is found without regard to the case of its letters. The names of ideographs and of Hangul
syllables follow from their codes and are written in capitals; all other names stand in tables.
-/

namespace QuerySchema.Text

namespace CharacterName

/-- All names that stand in tables. -/
def nameRuns : List NameRun :=
  namesFrom0000 ++ namesFrom1000 ++ namesFrom1B00 ++ namesFrom2440 ++ namesFrom2FF0 ++
    namesFrom10080 ++ namesFrom12F90 ++ namesFrom1D400 ++ namesFrom1F900

/-- A part of the characters whose names end with their codes: what stands before the code, the
first and the last character. -/
structure CodedRange where
  start : String
  first : Nat
  last : Nat
  deriving Repr

/-- Characters whose names end with their codes, the unified ideographs apart. -/
def codedRanges : List CodedRange :=
  [⟨"CJK COMPATIBILITY IDEOGRAPH-", 0xF900, 0xFA6D⟩,
    ⟨"CJK COMPATIBILITY IDEOGRAPH-", 0xFA70, 0xFAD9⟩,
    ⟨"CJK COMPATIBILITY IDEOGRAPH-", 0x2F800, 0x2FA1D⟩,
    ⟨"KHITAN SMALL SCRIPT CHARACTER-", 0x18B00, 0x18CD5⟩,
    ⟨"NUSHU CHARACTER-", 0x1B170, 0x1B2FB⟩]

/-- What stands behind a given beginning of a text. -/
def behind? (start text : String) : Option (List Char) :=
  if start.toList.isPrefixOf text.toList then some (text.toList.drop start.length) else none

/-- The value of hexadecimal digits in capitals. -/
def capitalHex? (digits : List Char) : Option Nat :=
  if digits.all fun c => c.isDigit || ('A' ≤ c && c ≤ 'F') then
    some (digits.foldl (fun n c => n * 16 + (hexValue? c).getD 0) 0)
  else none

/-- The character of a range with a given name. No code is written with more digits than it
needs. -/
def CodedRange.find? (range : CodedRange) (name : String) : Option Nat :=
  match behind? range.start name with
  | some digits =>
    match capitalHex? digits with
    | some code =>
      if range.first ≤ code && code ≤ range.last &&
          digits.length == (if code < 0x10000 then 4 else 5) then some code
      else none
    | none => none
  | none => none

/-- The parts of the unified ideographs. -/
def ideographRanges : List (Nat × Nat) :=
  [(0x3400, 0x4DBF), (0x4E00, 0x9FFF), (0x20000, 0x2A6DF), (0x2A700, 0x2B738), (0x2B740, 0x2B81D),
    (0x2B820, 0x2CEA1), (0x2CEB0, 0x2EBE0), (0x30000, 0x3134A)]

/-- The unified ideograph whose code is written with four or five digits. -/
def ideograph? (digits : List Char) : Option Nat :=
  if digits.length = 4 || digits.length = 5 then
    (capitalHex? digits).filter fun code =>
      ideographRanges.any fun range => range.1 ≤ code && code ≤ range.2
  else none

/-- The consonants that a Hangul syllable can start with. -/
def initials : List String :=
  ["G", "GG", "N", "D", "DD", "R", "M", "B", "BB", "S", "SS", "", "J", "JJ", "C", "K", "T", "P",
    "H"]

/-- The vowels of Hangul syllables. -/
def medials : List String :=
  ["A", "AE", "YA", "YAE", "EO", "E", "YEO", "YE", "O", "WA", "WAE", "OE", "YO", "U", "WEO", "WE",
    "WI", "YU", "EU", "YI", "I"]

/-- The consonants that a Hangul syllable can end with. -/
def finals : List String :=
  ["", "G", "GG", "GS", "N", "NJ", "NH", "D", "L", "LG", "LM", "LB", "LS", "LT", "LP", "LH", "M",
    "B", "BS", "S", "SS", "NG", "J", "C", "K", "T", "P", "H"]

/-- The Hangul syllable that is spelled with the given letters. The syllables stand in the order of
their three parts. -/
def syllable? (letters : List Char) : Option Nat :=
  initials.zipIdx.findSome? fun (initial, i) =>
    if !initial.toList.isPrefixOf letters then none
    else medials.zipIdx.findSome? fun (medial, j) =>
      if !(initial ++ medial).toList.isPrefixOf letters then none
      else finals.zipIdx.findSome? fun (final, k) =>
        if (initial ++ medial ++ final).toList = letters then
          some (0xAC00 + (i * 21 + j) * 28 + k)
        else none

/-- The code of the character that has a name in capitals in one of the tables. -/
def listed? (name : String) : Option Nat :=
  ((nameRuns.findSome? fun run => run.find? name).or
    (codedRanges.findSome? fun range => range.find? name)).or (furtherNamed? name)

end CharacterName

/-- The code of the character that has a name. -/
def characterNamed? (name : String) : Option Nat :=
  match CharacterName.behind? "HANGUL SYLLABLE " name with
  | some letters => CharacterName.syllable? letters
  | none =>
    match CharacterName.behind? "CJK UNIFIED IDEOGRAPH-" name with
    | some digits => CharacterName.ideograph? digits
    | none => CharacterName.listed? name.toUpper

end QuerySchema.Text
