import MonitoringUpkeep.Text.CharClass

/-!
# Blank characters

The characters that separate words in any script, and the trimming of a text at both ends.
-/

namespace MonitoringUpkeep.Text

/-- The blank characters: the white space of every script and the four information separators. -/
def blanks : CharClass :=
  ⟨[0x9, 0xe, 0x1c, 0x21, 0x85, 0x86, 0xa0, 0xa1, 0x1680, 0x1681, 0x2000, 0x200b, 0x2028, 0x202a,
    0x202f, 0x2030, 0x205f, 0x2060, 0x3000, 0x3001]⟩

def isBlank (c : Char) : Bool := blanks.contains c

def stripChars (p : Char → Bool) (cs : List Char) : List Char :=
  ((cs.dropWhile p).reverse.dropWhile p).reverse

def trim (s : String) : String := String.ofList (stripChars isBlank s.toList)

/-- Whether a text has no character that is not blank. -/
def allBlank (s : String) : Bool := s.toList.all isBlank

end MonitoringUpkeep.Text
