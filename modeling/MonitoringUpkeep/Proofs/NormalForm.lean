import MonitoringUpkeep.Proofs.Secrets

/-!
# Redacted text is a normal form

In a redacted text no token stands behind the word "bearer", and behind a sensitive key with a
separator there is nothing but the mark. The first rule leaves no place for itself; that the second one,
which comes after it, makes none either, is what the order of the rules rests on. Redaction leaves such a
text as it is, so a text that is logged twice reads as if it had been logged once.
-/

namespace MonitoringUpkeep.Redaction

open MonitoringUpkeep.Symbol (glyph ofString)

variable {α : Type} [Symbol α]

/-- A text from which the secrets are taken out. -/
structure Normal (cs : List α) : Prop where
  /-- nowhere is there a token behind the word "bearer" -/
  bearers : Free Bearing isTokenChar cs
  /-- wherever there is a value behind a sensitive key, it is the mark as a whole -/
  keys : Settled Keying isValueChar none cs

/-- What stands before the word "bearer" does not matter. -/
theorem Bearing.anywhere {before before' : Option α} {kept : List α} (bearing : Bearing before kept) :
    Bearing before' kept := bearing

/-- Both rules as substitutions. -/
theorem redactSymbols_redacted [Symbol.Lawful α] (t : List α) :
    Redacted Bearing isTokenChar none t (apply bearer t) ∧
      Redacted Keying isValueChar none (apply bearer t) (redactSymbols t) :=
  ⟨bearer_finds.redacted (fun _ => bearing_lawful.nonempty) none t,
    sensitiveValue_finds.redacted (fun _ => keying_lawful.nonempty) none _⟩

variable [Symbol.Lawful α]

theorem normal_of_redacted {t u y : List α} (tokens : Redacted Bearing isTokenChar none t u)
    (values : Redacted Keying isValueChar none u y) : Normal y := by
  have bracket : isTokenChar '[' = false := by decide
  have free : Free Bearing isTokenChar u :=
    (tokens.settled bearing_lawful).free bracket Bearing.anywhere
  exact ⟨values.free bearing_lawful bracket Bearing.anywhere free, values.settled keying_lawful⟩

/-- There is nothing to take out of a normal form. -/
theorem Normal.fixed {y : List α} (normal : Normal y) : redactSymbols y = y := by
  obtain ⟨tokens, values⟩ := redactSymbols_redacted y
  have settled : Settled Bearing isTokenChar none y := by
    intro a kept d z same keeps member
    rw [List.append_assoc] at same
    exact absurd ⟨kept, d, z, rfl, keeps, member⟩ (normal.bearers (lastOf none a) a _ same)
  have unchanged := tokens.eq_of_settled settled
  rw [unchanged] at values
  exact values.eq_of_settled normal.keys

/-- Redacted text is a normal form, and redaction leaves it as it is. -/
theorem redactSymbols_normal (t : List α) :
    Normal (redactSymbols t) ∧ redactSymbols (redactSymbols t) = redactSymbols t := by
  obtain ⟨tokens, values⟩ := redactSymbols_redacted t
  have normal := normal_of_redacted tokens values
  exact ⟨normal, normal.fixed⟩

/-- The token of the first rule is the key of a value, and is taken out with it. -/
theorem redactSymbols_normal_nested :
    redactSymbols (ofString "token=Bearer token=x" : List TextUnit) =
        ofString "token=[REDACTED] [REDACTED]" ∧
      Normal (redactSymbols (ofString "token=Bearer token=x" : List TextUnit)) ∧
      redactSymbols (redactSymbols (ofString "token=Bearer token=x" : List TextUnit)) =
        redactSymbols (ofString "token=Bearer token=x") :=
  ⟨by decide +kernel, redactSymbols_normal (ofString "token=Bearer token=x")⟩

/-- Redacting a string twice redacts it once. -/
theorem redact_redact (s : String) : redact (redact s) = redact s := by
  obtain ⟨tokens, values⟩ := redactSymbols_redacted s.toList
  rw [redact, redact, String.toList_ofList, (normal_of_redacted tokens values).fixed]

end MonitoringUpkeep.Redaction
