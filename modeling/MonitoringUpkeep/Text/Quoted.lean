import MonitoringUpkeep.Text.Hex
import MonitoringUpkeep.Text.Printable

/-!
# Quoted text

A text as a literal in error messages and logs: enclosed in quotation marks, with the mark in use,
the backslash and every character that cannot be shown escaped.
-/

namespace MonitoringUpkeep.Text

/-- The enclosing mark: the single one, unless the text has single marks and no double one. -/
def quoteMark (cs : List Char) : Char :=
  if cs.contains '\'' && !cs.contains '"' then '"' else '\''

/-- The code of a character in hexadecimal digits, as many as it needs of two, four and eight. -/
def escape (c : Char) : String := String.ofList (
  if c.toNat < 0x100 then '\\' :: 'x' :: hex 2 c.toNat
  else if c.toNat < 0x10000 then '\\' :: 'u' :: hex 4 c.toNat
  else '\\' :: 'U' :: hex 8 c.toNat)

/-- A character inside a literal enclosed in `mark`; `asciiOnly` escapes all others too. -/
def quotedChar (asciiOnly : Bool) (mark c : Char) : List Char :=
  if c = mark ∨ c = '\\' then ['\\', c]
  else if c = '\n' then ['\\', 'n']
  else if c = '\r' then ['\\', 'r']
  else if c = '\t' then ['\\', 't']
  else if isPrintable c && !(asciiOnly && 0x7f ≤ c.toNat) then [c]
  else (escape c).toList

def quoteWith (asciiOnly : Bool) (s : String) : String :=
  let cs := s.toList
  let mark := quoteMark cs
  String.ofList (mark :: cs.flatMap (quotedChar asciiOnly mark) ++ [mark])

/-- The literal of a text, printable characters of every script shown as they are. -/
def quote (s : String) : String := quoteWith false s

end MonitoringUpkeep.Text
