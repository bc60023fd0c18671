import MonitoringUpkeep.Text.Blank
import MonitoringUpkeep.Text.Symbol
import MonitoringUpkeep.Text.Word

/-!
# Redaction

Secrets are taken out of every text that is logged. Two rules are applied one after the other, each
at all places from left to right: the token behind the word "bearer", and the value behind a
sensitive key and its separator, give way to a mark. Letter case does not matter.
-/

namespace MonitoringUpkeep.Redaction

def mark : String := "[REDACTED]"

/-- Whether a character counts as a lower-case letter of the English alphabet when letter case does
    not matter: it is one of its two cases, or one of the four other letters that share them. -/
def isLetter (letter c : Char) : Bool :=
  c.toLower == letter
    || (letter == 's' && c.toNat == 0x17f)
    || (letter == 'k' && c.toNat == 0x212a)
    || (letter == 'i' && (c.toNat == 0x130 || c.toNat == 0x131))

def isTokenChar (c : Char) : Bool :=
  c.isAlphanum || "._~+/=-".toList.contains c
    || [0x130, 0x131, 0x17f, 0x212a].contains c.toNat

def isValueChar (c : Char) : Bool := !Text.isBlank c && c != ',' && c != ';'

def sensitiveKeys : List (List Char) :=
  ["authorization", "token", "password", "passwd", "secret", "api_key", "api-key", "apikey"].map
    String.toList

/-- Where a rule applies: how many symbols it keeps, and how many behind them are secret. -/
structure Match where
  kept : Nat
  secret : Nat

/-- A rule says whether it applies in front of a text, given the symbol before it. -/
abbrev Rule (α : Type) := Option α → List α → Option Match

variable {α : Type} [Symbol α]

open MonitoringUpkeep.Symbol (glyph)

def dropWord : List Char → List α → Option (List α)
  | [], cs => some cs
  | _ :: _, [] => none
  | w :: ws, c :: cs => if isLetter w (glyph c) then dropWord ws cs else none

/-- Applies a rule at all places from left to right; `skip` symbols are part of a place where it
    was applied already. -/
def applyFrom (rule : Rule α) : Option α → Nat → List α → List α
  | _, _, [] => []
  | _, skip + 1, c :: rest => applyFrom rule (some c) skip rest
  | before, 0, c :: rest =>
    match rule before (c :: rest) with
    | some m =>
      (c :: rest).take m.kept ++ Symbol.ofString mark
        ++ applyFrom rule (some c) (m.kept + m.secret - 1) rest
    | none => c :: applyFrom rule (some c) 0 rest

def apply (rule : Rule α) (cs : List α) : List α := applyFrom rule none 0 cs

/-- What stands behind the symbols of a class at the front of a text. -/
def behind (p : Char → Bool) (cs : List α) : List α := cs.dropWhile fun c => p (glyph c)

def run (p : Char → Bool) (cs : List α) : List α := cs.takeWhile fun c => p (glyph c)

/-- The token behind the word "bearer" and some blanks. -/
def bearer : Rule α := fun _ cs => do
  let rest ← dropWord "bearer".toList cs
  let blanks := run Text.isBlank rest
  let token := run isTokenChar (behind Text.isBlank rest)
  if blanks.isEmpty || token.isEmpty then none
  else some ⟨cs.length - rest.length + blanks.length, token.length⟩

def isBoundary (before after : Option α) : Bool :=
  before.any (fun c => Text.isWord (glyph c)) != after.any fun c => Text.isWord (glyph c)

/-- What follows a sensitive key that stands as a word of its own. -/
def afterKey (before : Option α) (cs : List α) : Option (List α) :=
  if isBoundary before cs.head? then
    sensitiveKeys.findSome? fun key => do
      let rest ← dropWord key cs
      let last := (cs.take (cs.length - rest.length)).getLast?
      if isBoundary last rest.head? then some rest else none
  else none

/-- What follows a separator: a colon or an equals sign with blanks around it. -/
def afterSeparator (cs : List α) : Option (List α) :=
  match behind Text.isBlank cs with
  | c :: rest =>
    if glyph c = ':' ∨ glyph c = '=' then some (behind Text.isBlank rest) else none
  | [] => none

/-- The value behind a sensitive key and its separator. -/
def sensitiveValue : Rule α := fun before cs => do
  let rest ← afterSeparator (← afterKey before cs)
  let value := run isValueChar rest
  if value.isEmpty then none else some ⟨cs.length - rest.length, value.length⟩

def redactSymbols (cs : List α) : List α := apply sensitiveValue (apply bearer cs)

def redact (s : String) : String := String.ofList (redactSymbols s.toList)

end MonitoringUpkeep.Redaction
