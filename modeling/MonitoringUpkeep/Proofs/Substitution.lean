import Mathlib.Data.List.TakeWhile
import MonitoringUpkeep.Proofs.Glyphs

/-!
# Substitution of secrets

A rule of redaction is told by what it keeps in front of a secret, its front, and by the class of
symbols that the secret is made of: the secret is the longest run of them behind the front. Applying the
rule goes from left to right and past each place it comes to. `Redacted` is that procedure as a relation,
and what is said here of the text that comes out holds for every rule whose fronts keep to themselves:
none begins inside another one or inside the mark.
-/

namespace MonitoringUpkeep.Redaction

open MonitoringUpkeep.Symbol (glyph ofString)

variable {α : Type}

/-- The symbol in front of what follows a text, given the symbol before it. -/
def lastOf (before : Option α) (cs : List α) : Option α := cs.getLast?.or before

theorem lastOf_append (before : Option α) (cs ds : List α) :
    lastOf before (cs ++ ds) = lastOf (lastOf before cs) ds := by
  rw [lastOf, List.getLast?_append, Option.or_assoc]
  rfl

theorem lastOf_cons (before : Option α) (c : α) (cs : List α) :
    lastOf before (c :: cs) = lastOf (some c) cs := lastOf_append before [c] cs

theorem lastOf_of_ne_nil {cs : List α} (some : cs ≠ []) (before : Option α) :
    lastOf before cs = cs.getLast? := by
  rw [lastOf, List.getLast?_eq_some_getLast some]
  rfl

variable [Symbol α]

/-- What a rule keeps in front of a secret, given the symbol before it. -/
abbrev Front (α : Type) := Option α → List α → Prop

/-- A place of a rule: what is kept, the secret behind it, and what follows. -/
structure Place (front : Front α) (p : Char → Bool) (before : Option α)
    (kept secret rest : List α) : Prop where
  keeps : front before kept
  hides : secret ≠ []
  members : ∀ c ∈ secret, p (glyph c) = true
  longest : ∀ c ∈ rest.head?, p (glyph c) = false

/-- A rule has a place at the start of a text. -/
def Starts (front : Front α) (p : Char → Bool) (before : Option α) (cs : List α) : Prop :=
  ∃ kept c tail, cs = kept ++ c :: tail ∧ front before kept ∧ p (glyph c) = true

/-- A text and the same text with the secrets of a rule taken out. -/
inductive Redacted (front : Front α) (p : Char → Bool) : Option α → List α → List α → Prop
  | nil {before} : Redacted front p before [] []
  | keep {before c rest out} (absent : ¬ Starts front p before (c :: rest))
      (others : Redacted front p (some c) rest out) :
      Redacted front p before (c :: rest) (c :: out)
  | mask {before kept secret rest out} (place : Place front p before kept secret rest)
      (others : Redacted front p (lastOf before (kept ++ secret)) rest out) :
      Redacted front p before (kept ++ secret ++ rest) (kept ++ ofString mark ++ out)

/-- A rule finds the places with a front and with secrets of a class. -/
def Rule.Finds (rule : Rule α) (front : Front α) (p : Char → Bool) : Prop :=
  ∀ before cs m, rule before cs = some m ↔ ∃ kept secret rest, cs = kept ++ secret ++ rest ∧
    Place front p before kept secret rest ∧ m = ⟨kept.length, secret.length⟩

/-- Fronts that keep to themselves. -/
structure Front.Lawful [Symbol.Lawful α] (front : Front α) (p : Char → Bool) : Prop where
  nonempty {before} : ¬ front before []
  /-- nothing that is kept holds the opening bracket of the mark -/
  unmarked {before kept} : front before kept → ∀ c ∈ kept, glyph c ≠ '['
  /-- no two fronts stand in front of secrets at the same place -/
  single {before kept kept' c c' t t'} : front before kept → front before kept' →
    kept ++ c :: t = kept' ++ c' :: t' → p (glyph c) = true → p (glyph c') = true → kept = kept'
  /-- a front could be part of a secret -/
  opening {before c b} : front before (c :: b) → p (glyph c) = true
  /-- no front begins inside another one -/
  inner {before a c b b'} : front before (a ++ c :: b) → a ≠ [] → ¬ front a.getLast? (c :: b')
  /-- no front begins inside the mark -/
  outside {a c b b'} : ofString mark = a ++ c :: b → a ≠ [] → ¬ front a.getLast? (c :: b')
  /-- the mark could be a secret as a whole, or else not even its first symbol -/
  uniform : p '[' = true → ∀ c ∈ mark.toList, p c = true

variable {front : Front α} {p : Char → Bool} {before : Option α} {cs out : List α}

theorem run_eq {cs rest : List α} (members : ∀ c ∈ cs, p (glyph c) = true)
    (longest : ∀ c ∈ rest.head?, p (glyph c) = false) : run p (cs ++ rest) = cs := by
  rw [run, List.takeWhile_append_of_pos members]
  cases rest with
  | nil => simp
  | cons c rest => simp [longest c rfl]

theorem behind_eq {cs rest : List α} (members : ∀ c ∈ cs, p (glyph c) = true)
    (longest : ∀ c ∈ rest.head?, p (glyph c) = false) : behind p (cs ++ rest) = rest := by
  rw [behind, List.dropWhile_append_of_pos members]
  cases rest with
  | nil => rfl
  | cons c rest => simp [longest c rfl]

theorem run_append_behind (p : Char → Bool) (cs : List α) : run p cs ++ behind p cs = cs :=
  List.takeWhile_append_dropWhile

theorem mem_run {c : α} (member : c ∈ run p cs) : p (glyph c) = true :=
  List.mem_takeWhile_imp (p := fun c => p (glyph c)) member

theorem head_behind {c : α} (head : c ∈ (behind p cs).head?) : p (glyph c) = false := by
  have stops := List.head?_dropWhile_not (fun c => p (glyph c)) cs
  rw [← behind, Option.mem_def.mp head] at stops
  simpa using stops

theorem head_behind_append {t : List α}
    (ends : behind p cs = [] → ∀ c ∈ t.head?, p (glyph c) = false) :
    ∀ c ∈ (behind p cs ++ t).head?, p (glyph c) = false := by
  have stops : ∀ c ∈ (behind p cs).head?, p (glyph c) = false := fun _ => head_behind
  cases parts : behind p cs with
  | nil => exact ends parts
  | cons d e =>
    rw [parts] at stops
    exact stops

/-! ## Places -/

theorem Place.starts {kept secret rest : List α} (place : Place front p before kept secret rest) :
    Starts front p before (kept ++ secret ++ rest) := by
  obtain ⟨c, secret, rfl⟩ := List.exists_cons_of_ne_nil place.hides
  exact ⟨kept, c, secret ++ rest, by simp, place.keeps, place.members c List.mem_cons_self⟩

/-- The secret of a place is the longest run of its class behind the front. -/
theorem Starts.place (starts : Starts front p before cs) : ∃ kept secret rest,
    cs = kept ++ secret ++ rest ∧ Place front p before kept secret rest := by
  obtain ⟨kept, c, tail, rfl, keeps, member⟩ := starts
  refine ⟨kept, run p (c :: tail), behind p (c :: tail), ?_, keeps, ?_, fun _ => mem_run,
    fun _ => head_behind⟩
  · rw [List.append_assoc, run_append_behind]
  · simp [run, member]

/-- A place of a text is one of every longer text. -/
theorem Starts.append (starts : Starts front p before cs) (ds : List α) :
    Starts front p before (cs ++ ds) := by
  obtain ⟨kept, c, tail, rfl, keeps, member⟩ := starts
  exact ⟨kept, c, tail ++ ds, by simp, keeps, member⟩

/-! ## Rules and their places -/

namespace Rule.Finds

variable {rule : Rule α} (finds : rule.Finds front p)
include finds

theorem some_of_place {kept secret rest : List α} (place : Place front p before kept secret rest) :
    rule before (kept ++ secret ++ rest) = some ⟨kept.length, secret.length⟩ :=
  (finds ..).mpr ⟨kept, secret, rest, rfl, place, rfl⟩

theorem none_iff : rule before cs = none ↔ ¬ Starts front p before cs := by
  constructor
  · intro none starts
    obtain ⟨kept, secret, rest, rfl, place⟩ := starts.place
    rw [finds.some_of_place place] at none
    cases none
  · intro absent
    cases found : rule before cs with
    | none => rfl
    | some m =>
      obtain ⟨kept, secret, rest, rfl, place, -⟩ := (finds ..).mp found
      exact absurd place.starts absent

/-- A rule has one place at the start of a text. -/
theorem single {kept kept' t t' : List α} {c c' : α} (keeps : front before kept)
    (keeps' : front before kept') (same : kept ++ c :: t = kept' ++ c' :: t')
    (member : p (glyph c) = true) (member' : p (glyph c') = true) : kept = kept' := by
  have found (kept t : List α) (c : α) (keeps : front before kept) (member : p (glyph c) = true) :
      ∃ n, rule before (kept ++ c :: t) = some ⟨kept.length, n⟩ := by
    have place : Place front p before kept (run p (c :: t)) (behind p (c :: t)) :=
      ⟨keeps, by simp [run, member], fun _ => mem_run, fun _ => head_behind⟩
    have whole := finds.some_of_place place
    rw [List.append_assoc, run_append_behind] at whole
    exact ⟨_, whole⟩
  obtain ⟨n, here⟩ := found kept t c keeps member
  obtain ⟨n', there⟩ := found kept' t' c' keeps' member'
  rw [same, there] at here
  have length : kept'.length = kept.length := congrArg (fun m => (m.map Match.kept).getD 0) here
  exact (List.append_inj same length.symm).1

end Rule.Finds

theorem applyFrom_skip (rule : Rule α) (before : Option α) (xs rest : List α) :
    applyFrom rule before xs.length (xs ++ rest) = applyFrom rule (lastOf before xs) 0 rest := by
  induction xs generalizing before with
  | nil => rfl
  | cons x xs ih =>
    rw [lastOf_cons]
    exact ih (some x)

theorem applyFrom_mask {rule : Rule α} {kept secret rest : List α} (some : kept ≠ [])
    (found : rule before (kept ++ secret ++ rest) = .some ⟨kept.length, secret.length⟩) :
    applyFrom rule before 0 (kept ++ secret ++ rest) = kept ++ ofString mark ++
      applyFrom rule (lastOf before (kept ++ secret)) 0 rest := by
  obtain ⟨c, kept, rfl⟩ := List.exists_cons_of_ne_nil some
  have skipped := applyFrom_skip rule (.some c) (kept ++ secret) rest
  rw [List.length_append] at skipped
  simp only [List.cons_append] at found ⊢
  rw [applyFrom, found]
  simp only [List.length_cons, List.append_assoc, Nat.add_right_comm _ 1, Nat.add_sub_cancel] at *
  rw [skipped, lastOf_cons]
  simp

/-- Applying a rule is substituting its secrets. -/
theorem Rule.Finds.redacted {rule : Rule α} (finds : rule.Finds front p)
    (nonempty : ∀ before, ¬ front before []) (before : Option α) (cs : List α) :
    Redacted front p before cs (applyFrom rule before 0 cs) := by
  induction length : cs.length using Nat.strongRecOn generalizing before cs with
  | ind n ih =>
    cases cs with
    | nil => exact .nil
    | cons c rest =>
      by_cases starts : Starts front p before (c :: rest)
      · obtain ⟨kept, secret, tail, same, place⟩ := starts.place
        have some : kept ≠ [] := by
          rintro rfl
          exact nonempty before place.keeps
        have shorter : tail.length < n := by
          rw [← length, same, List.length_append, List.length_append]
          have := List.length_pos_iff.mpr some
          omega
        rw [same, applyFrom_mask some (finds.some_of_place place)]
        exact .mask place (ih _ shorter _ _ rfl)
      · have none : rule before (c :: rest) = none := finds.none_iff.mpr starts
        rw [applyFrom, none]
        exact .keep starts (ih _ (by simp [← length]) _ _ rfl)

/-- There is one way to substitute the secrets of a rule. -/
theorem Redacted.eq {rule : Rule α} (redacted : Redacted front p before cs out)
    (finds : rule.Finds front p) (nonempty : ∀ before, ¬ front before []) :
    out = applyFrom rule before 0 cs := by
  induction redacted with
  | nil => rfl
  | keep absent others ih => rw [applyFrom, finds.none_iff.mpr absent, ih]
  | @mask before kept _ _ _ place others ih =>
    have some : kept ≠ [] := by
      rintro rfl
      exact nonempty before place.keeps
    rw [applyFrom_mask some (finds.some_of_place place), ih]

/-! ## The text that comes out -/

theorem mark_eq : (ofString mark : List α) =
    Symbol.ofChar '[' :: ofString "REDACTED]" := rfl

/-- Where a text is split after the substitution of one secret. -/
theorem cases_of_mask {kept a b : List α} (same : kept ++ ofString mark ++ out = a ++ b) :
    (∃ c e, kept = a ++ c :: e ∧ b = c :: e ++ ofString mark ++ out) ∨
      (∃ x c y, ofString mark = x ++ c :: y ∧ a = kept ++ x ∧ b = c :: y ++ out) ∨
      ∃ a', a = kept ++ ofString mark ++ a' ∧ out = a' ++ b := by
  rw [List.append_assoc, List.append_eq_append_iff] at same
  rcases same with ⟨x, rfl, same⟩ | ⟨e, rfl, rfl⟩
  · rw [List.append_eq_append_iff] at same
    rcases same with ⟨a', rfl, rfl⟩ | ⟨y, split, rfl⟩
    · exact .inr (.inr ⟨a', by simp, rfl⟩)
    · cases y with
      | nil => exact .inr (.inr ⟨[], by simp [split], by simp⟩)
      | cons c y => exact .inr (.inl ⟨x, c, y, split, rfl, rfl⟩)
  · cases e with
    | nil => exact .inr (.inl ⟨[], _, _, mark_eq, by simp, by simp [mark_eq]⟩)
    | cons c e => exact .inl ⟨c, e, rfl, by simp⟩

/-- At every place of a rule in a text, the mark stands for the secret. -/
def Settled (front : Front α) (p : Char → Bool) (before : Option α) (cs : List α) : Prop :=
  ∀ a kept d z, cs = a ++ kept ++ d :: z → front (lastOf before a) kept → p (glyph d) = true →
    run p (d :: z) = ofString mark

theorem Settled.drop {a : List α} (settled : Settled front p before (a ++ cs)) :
    Settled front p (lastOf before a) cs := by
  intro b kept d z same keeps member
  refine settled (a ++ b) kept d z (by simp [same]) ?_ member
  rwa [lastOf_append]

/-- Where the mark stands at all places of the rule, its substitution changes nothing. -/
theorem Redacted.eq_of_settled (redacted : Redacted front p before cs out)
    (settled : Settled front p before cs) : out = cs := by
  induction redacted with
  | nil => rfl
  | @keep _ c _ _ absent others ih => rw [ih (settled.drop (a := [c]))]
  | @mask _ kept secret rest _ place others ih =>
    obtain ⟨s, secret, rfl⟩ := List.exists_cons_of_ne_nil place.hides
    have marked : run p (s :: secret ++ rest) = ofString mark :=
      settled [] kept s (secret ++ rest) (by simp) place.keeps (place.members s List.mem_cons_self)
    rw [run_eq place.members place.longest] at marked
    rw [ih settled.drop, marked]

variable [Symbol.Lawful α]

theorem map_glyph_mark : (ofString mark : List α).map glyph = mark.toList := by
  simp [ofString, Function.comp_def]

theorem glyph_of_mem_mark {c : α} (member : c ∈ (ofString mark : List α)) : glyph c ∈ mark.toList := by
  have known := List.mem_map_of_mem (f := glyph) member
  rwa [map_glyph_mark] at known

/-- A text without opening brackets in front of a symbol stands before the mark, or it ends there. -/
theorem cases_of_unmarked {kept q z : List α} {d : α}
    (same : kept ++ ofString mark ++ out = q ++ d :: z) (unmarked : ∀ c ∈ q, glyph c ≠ '[') :
    (kept = q ∧ d :: z = ofString mark ++ out) ∨
      ∃ e, kept = q ++ d :: e ∧ z = e ++ ofString mark ++ out := by
  simp only [mark_eq, List.append_assoc, List.cons_append] at same ⊢
  rw [List.append_eq_append_iff] at same
  rcases same with ⟨e, rfl, same⟩ | ⟨e, rfl, same⟩
  · cases e with
    | nil => exact .inl ⟨by simp, same.symm⟩
    | cons c e =>
      obtain ⟨rfl, -⟩ := List.cons_eq_cons.mp same
      exact absurd (Symbol.Lawful.glyph_ofChar '[') (unmarked (Symbol.ofChar '[') (by simp))
  · cases e with
    | nil => exact .inl ⟨by simp, same⟩
    | cons c e =>
      obtain ⟨rfl, rfl⟩ := List.cons_eq_cons.mp same
      exact .inr ⟨e, rfl, rfl⟩

/-- Up to where the mark may stand, the text that comes out is the one that went in. -/
theorem Redacted.unmarked_part (redacted : Redacted front p before cs out) {q z : List α} {d : α}
    (same : out = q ++ d :: z) (unmarked : ∀ c ∈ q, glyph c ≠ '[') :
    ∃ d' z', cs = q ++ d' :: z' ∧ (p (glyph d) = true → p (glyph d') = true) ∧
      (glyph d ≠ '[' → d' = d) := by
  induction redacted generalizing q with
  | nil => simp at same
  | @keep _ c rest _ absent others ih =>
    cases q with
    | nil =>
      obtain ⟨rfl, -⟩ := List.cons_eq_cons.mp same
      exact ⟨c, rest, rfl, id, fun _ => rfl⟩
    | cons c' q =>
      obtain ⟨rfl, tail⟩ := List.cons_eq_cons.mp same
      obtain ⟨d', z', rfl, holds⟩ := ih tail (List.forall_mem_cons.mp unmarked).2
      exact ⟨d', z', rfl, holds⟩
  | @mask _ kept secret rest out place others ih =>
    rcases cases_of_unmarked same unmarked with ⟨rfl, marked⟩ | ⟨e, rfl, -⟩
    · obtain ⟨s, secret, rfl⟩ := List.exists_cons_of_ne_nil place.hides
      rw [mark_eq] at marked
      obtain ⟨rfl, -⟩ := List.cons_eq_cons.mp marked
      exact ⟨s, secret ++ rest, by simp, fun _ => place.members s List.mem_cons_self,
        fun other => by simp at other⟩
    · exact ⟨d, e ++ (secret ++ rest), by simp, id, fun _ => rfl⟩

/-- What stands behind a secret is kept. -/
theorem Redacted.head_of_not_member (lawful : front.Lawful p) (redacted : Redacted front p before cs out)
    (outside : ∀ c ∈ cs.head?, p (glyph c) = false) : out.head? = cs.head? := by
  cases redacted with
  | nil => rfl
  | keep => rfl
  | @mask _ kept secret rest _ place others =>
    have keeps := place.keeps
    cases kept with
    | nil => exact absurd keeps lawful.nonempty
    | cons c kept =>
      have member := lawful.opening keeps
      rw [outside c (by simp)] at member
      cases member

section
variable (lawful : front.Lawful p)
include lawful

theorem Front.Lawful.exists_cons {kept : List α} (keeps : front before kept) :
    ∃ c kept', kept = c :: kept' := by
  cases kept with
  | nil => exact absurd keeps lawful.nonempty
  | cons c kept => exact ⟨c, kept, rfl⟩

/-- No front begins in the mark, whatever stands before the mark. -/
theorem Front.Lawful.not_in_mark {x y b : List α} {c : α} (part : ofString mark = x ++ c :: y) :
    ¬ front (lastOf before x) (c :: b) := by
  intro keeps
  cases x with
  | nil =>
    rw [mark_eq] at part
    obtain ⟨rfl, -⟩ := List.cons_eq_cons.mp part
    exact lawful.unmarked keeps _ List.mem_cons_self (Symbol.Lawful.glyph_ofChar '[')
  | cons x xs =>
    rw [lastOf_of_ne_nil (by simp)] at keeps
    exact lawful.outside part (by simp) keeps

/-- At a place where a secret was taken out the mark stands for it. -/
theorem Front.Lawful.run_of_mask {kept kept' secret rest z : List α} {d : α}
    (place : Place front p before kept secret rest) (ends : ∀ c ∈ out.head?, p (glyph c) = false)
    (same : kept ++ ofString mark ++ out = kept' ++ d :: z) (keeps : front before kept')
    (member : p (glyph d) = true) : run p (d :: z) = ofString mark := by
  rcases cases_of_unmarked same (lawful.unmarked keeps) with ⟨rfl, marked⟩ | ⟨e, rfl, -⟩
  · have bracket : p '[' = true := by
      rw [mark_eq] at marked
      obtain ⟨rfl, -⟩ := List.cons_eq_cons.mp marked
      simpa using member
    rw [marked]
    exact run_eq (fun c known => lawful.uniform bracket _ (glyph_of_mem_mark known)) ends
  · obtain ⟨s, secret, rfl⟩ := List.exists_cons_of_ne_nil place.hides
    have first : p (glyph s) = true := place.members s List.mem_cons_self
    have parts : kept' ++ d :: (e ++ s :: secret) = (kept' ++ d :: e) ++ s :: secret := by simp
    have shorter := lawful.single keeps place.keeps parts member first
    simp at shorter

/-- After the substitution the mark stands at all places of the rule. -/
theorem Redacted.settled (redacted : Redacted front p before cs out) :
    Settled front p before out := by
  induction redacted with
  | nil =>
    intro a kept d z same
    simp at same
  | @keep before c rest out absent others ih =>
    intro a kept d z same keeps member
    cases a with
    | nil =>
      obtain ⟨c', kept, rfl⟩ := lawful.exists_cons keeps
      obtain ⟨rfl, tail⟩ := List.cons_eq_cons.mp same
      obtain ⟨-, unmarked⟩ := List.forall_mem_cons.mp (lawful.unmarked keeps)
      obtain ⟨d', z', rfl, known, -⟩ := others.unmarked_part tail unmarked
      exact absurd ⟨c :: kept, d', z', rfl, keeps, known member⟩ absent
    | cons c' a =>
      obtain ⟨rfl, tail⟩ := List.cons_eq_cons.mp same
      rw [lastOf_cons] at keeps
      exact ih a kept d z tail keeps member
  | @mask before kept₀ secret rest out place others ih =>
    intro a kept d z same keeps member
    have head := others.head_of_not_member lawful place.longest
    obtain ⟨k, kept, rfl⟩ := lawful.exists_cons keeps
    -- the front begins in what was kept, in the mark, or behind it
    rw [List.append_assoc a] at same
    rcases cases_of_mask same with ⟨c, e, rfl, split⟩ | ⟨x, c, y, part, rfl, split⟩ | ⟨a', rfl, split⟩
    · obtain ⟨rfl, -⟩ := List.cons_eq_cons.mp split
      cases a with
      | nil => exact lawful.run_of_mask place (head ▸ place.longest) same keeps member
      | cons c' a =>
        rw [lastOf_of_ne_nil (by simp)] at keeps
        exact absurd keeps (lawful.inner place.keeps (by simp))
    · obtain ⟨rfl, -⟩ := List.cons_eq_cons.mp split
      rw [lastOf_append] at keeps
      exact absurd keeps (lawful.not_in_mark part)
    · cases a' with
      | nil =>
        rw [split] at head
        have outside := place.longest k head.symm
        rw [lawful.opening keeps] at outside
        cases outside
      | cons c a' =>
        refine ih (c :: a') (k :: kept) d z (by simpa using split) ?_ member
        rw [lastOf_append, lastOf_of_ne_nil (by simp)] at keeps
        rwa [lastOf_of_ne_nil (by simp)]

end

/-! ## Places of another rule -/

/-- A rule has no place in a text, whatever stands before it. -/
def Free (front : Front α) (p : Char → Bool) (cs : List α) : Prop :=
  ∀ before a b, cs = a ++ b → ¬ Starts front p before b

omit [Symbol.Lawful α] in
theorem Free.drop {a : List α} (free : Free front p (a ++ cs)) : Free front p cs := by
  intro before b b' same
  exact free before (a ++ b) b' (by simp [same])

/-- A rule whose secrets cannot be the mark has no place left after its substitution, if what stands before
    its fronts does not matter to it. -/
theorem Settled.free (settled : Settled front p before cs) (bracket : p '[' = false)
    (anywhere : ∀ {before before' kept}, front before kept → front before' kept) :
    Free front p cs := by
  rintro before' a _ same ⟨kept, c, tail, rfl, keeps, member⟩
  have marked := settled a kept c tail (by simp [same]) (anywhere keeps) member
  have known : (Symbol.ofChar '[' : α) ∈ run p (c :: tail) := by
    rw [marked, mark_eq]
    exact List.mem_cons_self
  have bracket' := mem_run known
  rw [Symbol.Lawful.glyph_ofChar, bracket] at bracket'
  cases bracket'

/-- The substitution of one rule makes no place for another one, whose secrets cannot be the mark. -/
theorem Redacted.free {front' : Front α} {p' : Char → Bool} (lawful : front'.Lawful p')
    (bracket : p' '[' = false)
    (anywhere : ∀ {before before' kept}, front' before kept → front' before' kept)
    (redacted : Redacted front p before cs out) (free : Free front' p' cs) :
    Free front' p' out := by
  rintro before' a _ same ⟨kept, d, z, rfl, keeps, member⟩
  have plain : glyph d ≠ '[' := by
    intro marked
    rw [marked, bracket] at member
    cases member
  induction redacted generalizing a with
  | nil => simp at same
  | @keep _ c rest _ absent others ih =>
    cases a with
    | nil =>
      obtain ⟨k, kept, rfl⟩ := lawful.exists_cons keeps
      obtain ⟨rfl, tail⟩ := List.cons_eq_cons.mp same
      obtain ⟨-, unmarked⟩ := List.forall_mem_cons.mp (lawful.unmarked keeps)
      obtain ⟨d', z', rfl, -, unchanged⟩ := others.unmarked_part tail unmarked
      rw [unchanged plain] at free
      exact free before' [] _ rfl ⟨c :: kept, d, z', rfl, keeps, member⟩
    | cons c' a =>
      obtain ⟨rfl, tail⟩ := List.cons_eq_cons.mp same
      exact ih (free.drop (a := [c])) a tail
  | @mask _ kept₀ secret rest out place others ih =>
    -- a front that begins in what was kept stood there before, with the same symbol behind it
    rcases cases_of_mask same with ⟨c, e, rfl, split⟩ | ⟨x, c, y, part, rfl, split⟩ | ⟨a', rfl, split⟩
    · rcases cases_of_unmarked split.symm (lawful.unmarked keeps) with ⟨-, marked⟩ | ⟨e', inside, -⟩
      · rw [mark_eq] at marked
        obtain ⟨rfl, -⟩ := List.cons_eq_cons.mp marked
        exact plain (Symbol.Lawful.glyph_ofChar '[')
      · refine free before' a (kept ++ d :: (e' ++ secret ++ rest)) ?_
          ⟨kept, d, _, rfl, keeps, member⟩
        rw [inside]
        simp
    · obtain ⟨k, kept, rfl⟩ := lawful.exists_cons keeps
      obtain ⟨rfl, -⟩ := List.cons_eq_cons.mp split
      have here : front' (lastOf before x) (k :: kept) := anywhere keeps
      exact lawful.not_in_mark part here
    · exact ih free.drop a' split

end MonitoringUpkeep.Redaction
