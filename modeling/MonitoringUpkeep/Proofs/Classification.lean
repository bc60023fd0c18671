import MonitoringUpkeep.Redaction

/-!
# Redaction looks at classes alone

Where the rules apply depends on how symbols are classified, not on what they are. So a text is redacted
the same way whatever symbols it is written in: a map that keeps the class of each symbol commutes with
redaction.
-/

namespace MonitoringUpkeep.Redaction

open MonitoringUpkeep.Symbol (glyph ofString)

variable {α β : Type} [Symbol α] [Symbol β] {f : α → β} (same : ∀ a, glyph (f a) = glyph a)
include same

theorem dropWord_map (word : List Char) (cs : List α) :
    dropWord word (cs.map f) = (dropWord word cs).map (List.map f) := by
  induction word generalizing cs with
  | nil => rfl
  | cons w word ih =>
    cases cs with
    | nil => rfl
    | cons c cs =>
      rw [List.map_cons, dropWord, dropWord, same, ih]
      split <;> rfl

theorem run_map (p : Char → Bool) (cs : List α) : run p (cs.map f) = (run p cs).map f := by
  simp [run, List.takeWhile_map, Function.comp_def, same]

theorem behind_map (p : Char → Bool) (cs : List α) : behind p (cs.map f) = (behind p cs).map f := by
  simp [behind, List.dropWhile_map, Function.comp_def, same]

theorem isBoundary_map (before after : Option α) :
    isBoundary (before.map f) (after.map f) = isBoundary before after := by
  cases before <;> cases after <;> simp [isBoundary, same]

theorem bearer_map (before : Option α) (cs : List α) :
    bearer (before.map f) (cs.map f) = bearer before cs := by
  simp only [bearer, dropWord_map same, Option.bind_eq_bind, Option.bind_map, Function.comp_def,
    run_map same, behind_map same, List.isEmpty_map, List.length_map]

theorem afterKey_map (before : Option α) (cs : List α) :
    afterKey (before.map f) (cs.map f) = (afterKey before cs).map (List.map f) := by
  have each (key : List Char) :
      (do
        let rest ← dropWord key (cs.map f)
        let last := ((cs.map f).take ((cs.map f).length - rest.length)).getLast?
        if isBoundary last rest.head? then some rest else none) =
      (do
        let rest ← dropWord key cs
        let last := (cs.take (cs.length - rest.length)).getLast?
        if isBoundary last rest.head? then some rest else none).map (List.map f) := by
    rw [dropWord_map same]
    cases dropWord key cs with
    | none => rfl
    | some rest =>
      simp only [Option.map_some, Option.bind_eq_bind, Option.bind_some, List.length_map, ← List.map_take,
        List.getLast?_map, List.head?_map, isBoundary_map same]
      split <;> rfl
  unfold afterKey
  rw [List.head?_map, isBoundary_map same]
  split
  · rw [List.map_findSome?]
    exact congrArg (sensitiveKeys.findSome? ·) (funext each)
  · rfl

theorem afterSeparator_map (cs : List α) :
    afterSeparator (cs.map f) = (afterSeparator cs).map (List.map f) := by
  simp only [afterSeparator, behind_map same]
  cases behind Text.isBlank cs with
  | nil => rfl
  | cons c rest =>
    simp only [List.map_cons, same, behind_map same]
    split <;> rfl

theorem sensitiveValue_map (before : Option α) (cs : List α) :
    sensitiveValue (before.map f) (cs.map f) = sensitiveValue before cs := by
  simp only [sensitiveValue, afterKey_map same, afterSeparator_map same, Option.bind_eq_bind,
    Option.bind_map, Function.comp_def, run_map same, List.isEmpty_map, List.length_map]

omit same in
theorem applyFrom_map {rule : Rule α} {rule' : Rule β}
    (chars : ∀ c, f (Symbol.ofChar c) = Symbol.ofChar c)
    (agree : ∀ before cs, rule' (before.map f) (cs.map f) = rule before cs) (before : Option α)
    (skip : Nat) (cs : List α) :
    applyFrom rule' (before.map f) skip (cs.map f) = (applyFrom rule before skip cs).map f := by
  induction cs generalizing before skip with
  | nil => cases skip <;> rfl
  | cons c cs ih =>
    have later := ih (some c)
    rw [Option.map_some] at later
    cases skip with
    | zero =>
      have found := agree before (c :: cs)
      rw [List.map_cons] at found ⊢
      rw [applyFrom, applyFrom, found]
      cases rule before (c :: cs) with
      | none => simp [later]
      | some m =>
        have mark_eq : (ofString mark : List α).map f = ofString mark := by
          simp [ofString, chars]
        simp only [later, List.map_append, mark_eq, ← List.map_cons, List.map_take]
    | succ skip => exact later skip

theorem redactSymbols_map (chars : ∀ c, f (Symbol.ofChar c) = Symbol.ofChar c) (cs : List α) :
    redactSymbols (cs.map f) = (redactSymbols cs).map f := by
  have tokens := applyFrom_map chars (bearer_map same) none 0 cs
  have values := applyFrom_map chars (sensitiveValue_map same) none 0 (apply bearer cs)
  rw [Option.map_none] at tokens values
  rw [redactSymbols, redactSymbols, apply, apply, tokens]
  exact values

end MonitoringUpkeep.Redaction
