import MonitoringUpkeep.Text.Capital
import MonitoringUpkeep.Text.Cased

/-!
# Letter case

Texts in small letters, in any script. A letter has one small form wherever it stands, apart from
the capital sigma, which has another one at the end of a word.
-/

namespace MonitoringUpkeep.Text

/-- The small form of a character. A capital "i" with a dot keeps the dot as a mark of its own. -/
def smallForm (c : Char) : List Char :=
  if c.toNat = 0x130 then ['i', '\u0307'] else [Char.ofNat (smallLetter capitalRuns c.toNat)]

/-- The small sigma between the characters before it, the nearest first, and those after it. It is
    written as a final one where a letter with case stands before it and none after. -/
def smallSigma (before after : List Char) : Char :=
  if startsCased before && !startsCased after then 'ς' else 'σ'

/-- The small forms of characters, given the ones before them, the nearest first. -/
def smallForms (before : List Char) : List Char → List Char
  | [] => []
  | c :: after =>
    (if c = 'Σ' then [smallSigma before after] else smallForm c) ++ smallForms (c :: before) after

def lower (s : String) : String := String.ofList (smallForms [] s.toList)

end MonitoringUpkeep.Text
