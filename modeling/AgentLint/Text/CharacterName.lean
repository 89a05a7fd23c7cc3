import AgentLint.Text.Blank
import AgentLint.Text.CharacterName.Letters
import AgentLint.Text.CharacterName.Others
import AgentLint.Text.CharacterName.Pictures
import AgentLint.Text.CharacterName.Symbols

/-!
# Names of characters

`codeOfName?` finds the character that a name stands for.  The names of letters, symbols and pictures are
in tables, and their case does not matter.  The names of ideographs hold their number, and those of Korean
syllables are spelled from their parts; they are written in capitals.
-/

namespace AgentLint.Text

/-! ## 1. Names in tables -/

/-- All rows of names. -/
def nameRows : List NameRow :=
  latinNames ++ greekNames ++ easternNames ++ accentedNames ++ kanaNames ++ punctuationNames ++
    operatorNames ++ shapeNames ++ formNames ++ pictureNames ++ transportNames

/-- The character that a row names so. -/
def NameRow.code? (r : NameRow) (name : List Char) : Option Nat :=
  (after? r.head.toList name).bind fun rest =>
    ((r.tails.flatMap fun t => splitOn '|' t.toList).idxOf? rest).map (r.first + ·)

/-- The character that the tables name so. -/
def codeInTables? (name : List Char) : Option Nat :=
  (nameRows.findSome? (·.code? name)).or
    ((otherNames.find? fun e => e.2.toList = name).map Prod.fst)

/-! ## 2. Ideographs -/

/-- The numbers of unified ideographs. -/
def unifiedRows : List (Nat × Nat) :=
  [(0x3400, 0x4DBF), (0x4E00, 0x9FFF), (0x20000, 0x2A6DF), (0x2A700, 0x2B738), (0x2B740, 0x2B81D),
   (0x2B820, 0x2CEA1), (0x2CEB0, 0x2EBE0), (0x30000, 0x3134A)]

/-- The numbers of ideographs that are kept for other tables. -/
def compatibleRows : List (Nat × Nat) := [(0xF900, 0xFA6D), (0xFA70, 0xFAD9), (0x2F800, 0x2FA1D)]

/-- The value of a digit in capital hexadecimal. -/
def capitalHex? (c : Char) : Option Nat :=
  if c.isDigit then some (c.toNat - 48)
  else if 'A' ≤ c && c ≤ 'F' then some (c.toNat - 55)
  else none

/-- A number of four or five hexadecimal digits that one of some ranges holds. -/
def numberIn? (rows : List (Nat × Nat)) (cs : List Char) : Option Nat :=
  if cs.length = 4 || cs.length = 5 then
    match cs.mapM capitalHex? with
    | some ds =>
      let n := ds.foldl (fun n d => n * 16 + d) 0
      if rows.any fun r => r.1 ≤ n && n ≤ r.2 then some n else none
    | none => none
  else none

/-! ## 3. Korean syllables -/

/-- How a syllable can start. -/
def syllableStarts : List String :=
  ["G", "GG", "N", "D", "DD", "R", "M", "B", "BB", "S", "SS", "", "J", "JJ", "C", "K", "T", "P", "H"]

/-- Its vowel. -/
def syllableVowels : List String :=
  ["A", "AE", "YA", "YAE", "EO", "E", "YEO", "YE", "O", "WA", "WAE", "OE", "YO", "U", "WEO", "WE",
   "WI", "YU", "EU", "YI", "I"]

/-- How it can end. -/
def syllableEnds : List String :=
  ["", "G", "GG", "GS", "N", "NJ", "NH", "D", "L", "LG", "LM", "LB", "LS", "LT", "LP", "LH", "M",
   "B", "BS", "S", "SS", "NG", "J", "C", "K", "T", "P", "H"]

/-- The longest of some texts that is in front of another: its number, and what follows it. -/
def longestFront? (texts : List String) (cs : List Char) : Option (Nat × List Char) :=
  texts.zipIdx.foldl (fun best e =>
    match after? e.1.toList cs with
    | none => best
    | some rest =>
      match best with
      | none => some (e.2, rest)
      | some (_, other) => if rest.length < other.length then some (e.2, rest) else best) none

/-- The syllable that is spelled so. -/
def syllable? (cs : List Char) : Option Nat := do
  let (start, cs) ← longestFront? syllableStarts cs
  let (vowel, cs) ← longestFront? syllableVowels cs
  let (stop, cs) ← longestFront? syllableEnds cs
  if cs.isEmpty then
    some (0xAC00 + (start * syllableVowels.length + vowel) * syllableEnds.length + stop)
  else none

/-! ## 4. Any name -/

/-- The code point of the character that a name stands for. -/
def codeOfName? (name : List Char) : Option Nat :=
  let capitals := name.map Char.toUpper
  ((after? "HANGUL SYLLABLE ".toList name).bind syllable?).or
    (((after? "CJK UNIFIED IDEOGRAPH-".toList name).bind (numberIn? unifiedRows)).or
      (((after? "CJK COMPATIBILITY IDEOGRAPH-".toList capitals).bind (numberIn? compatibleRows)).or
        (codeInTables? capitals)))

end AgentLint.Text
