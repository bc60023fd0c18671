import MonitoringUpkeep.Proofs.Substitution

/-!
# Substitution across a seam

What the substitution of secrets makes of a text that is put together from two. Where no front stands
across the seam, there are two ways for it to go on, and the first text alone decides which one it is:
either it is done with the first text at the seam and begins anew with the second one, or a secret of
the first text takes all symbols of its class behind the seam with it.
-/

namespace MonitoringUpkeep.Redaction

open MonitoringUpkeep.Symbol (glyph ofString)

variable {α : Type} [Symbol α] {front : Front α} {p : Char → Bool} {before : Option α}
  {a cs out rest : List α} {x : α}

/-- A text without a place of the rule at any of its symbols is kept, and does not matter to what
    follows. -/
theorem Redacted.behind
    (quiet : ∀ b c y, a = b ++ c :: y → ∀ before, ¬ Starts front p before (c :: y ++ rest))
    (others : Redacted front p (lastOf before a) rest out) :
    Redacted front p before (a ++ rest) (a ++ out) := by
  induction a generalizing before with
  | nil => exact others
  | cons c a ih =>
    rw [lastOf_cons] at others
    refine .keep (quiet [] c a rfl before) (ih ?_ others)
    intro b d y parts
    exact quiet (c :: b) d y (by rw [parts]; rfl)

/-- A text of symbols that begin no front is kept. -/
theorem Redacted.behind_dull (nonempty : ∀ before, ¬ front before [])
    (dull : ∀ c ∈ a, ∀ before b, ¬ front before (c :: b))
    (others : Redacted front p (lastOf before a) rest out) :
    Redacted front p before (a ++ rest) (a ++ out) := by
  refine .behind ?_ others
  rintro b c y rfl before ⟨kept, d, tail, same, keeps, -⟩
  cases kept with
  | nil => exact nonempty before keeps
  | cons k kept =>
    obtain ⟨rfl, -⟩ := List.cons_eq_cons.mp same
    exact dull c (by simp) before kept keeps

/-- What stands before a text that begins with no symbol of a secret does not matter. -/
theorem Redacted.anywhere [Symbol.Lawful α] (lawful : front.Lawful p)
    (outside : ∀ c ∈ cs.head?, p (glyph c) = false) (redacted : Redacted front p before cs out)
    (before' : Option α) : Redacted front p before' cs out := by
  have absent {before : Option α} {kept : List α} (tail : List α) (keeps : front before kept) :
      (kept ++ tail).head? ≠ cs.head? := by
    obtain ⟨k, kept, rfl⟩ := lawful.exists_cons keeps
    intro same
    have member := lawful.opening keeps
    rw [outside k same.symm] at member
    cases member
  cases redacted with
  | nil => exact .nil
  | keep _ others =>
    refine .keep ?_ others
    rintro ⟨kept, c, tail, same, keeps, -⟩
    exact absent (c :: tail) keeps (congrArg List.head? same.symm)
  | @mask _ kept secret rest _ place others =>
    refine absurd ?_ (absent (secret ++ rest) place.keeps)
    rw [List.append_assoc]

theorem getLast?_mark : (ofString mark : List α).getLast? = some (Symbol.ofChar ']') := rfl

/-- The text that comes out ends as the text that went in, or with the mark. -/
theorem Redacted.ending (redacted : Redacted front p before cs out) :
    out.getLast? = cs.getLast? ∨ out.getLast? = some (Symbol.ofChar ']') := by
  induction redacted with
  | nil => exact .inl rfl
  | keep absent others ih =>
    rw [List.getLast?_cons, List.getLast?_cons]
    rcases ih with same | same
    · exact .inl (by rw [same])
    · exact .inr (by rw [same]; rfl)
  | @mask _ kept secret rest out place others ih =>
    rw [List.getLast?_append, List.getLast?_append, List.getLast?_append, getLast?_mark]
    rcases ih with same | same
    · rw [same]
      cases rest.getLast? with
      | none => exact .inr rfl
      | some c => exact .inl rfl
    · exact .inr (by rw [same]; rfl)

/-- No front stands across the seam between a text and a symbol. -/
def Seam (front : Front α) (a : List α) (x : α) : Prop :=
  ∀ before b y, b <:+ a → b ≠ [] → ¬ front before (b ++ x :: y)

omit [Symbol α] in
theorem Seam.drop {b : List α} (seam : Seam front (b ++ a) x) : Seam front a x :=
  fun before e y suffix => seam before e y (suffix.trans (List.suffix_append b a))

/-- A place in front of a seam has its front within the first text. -/
theorem Seam.front_within (seam : Seam front a x) (some : a ≠ []) {t : List α}
    (starts : Starts front p before (a ++ x :: t)) :
    ∃ kept e, a = kept ++ e ∧ front before kept ∧ ∀ d ∈ (e ++ [x]).head?, p (glyph d) = true := by
  obtain ⟨kept, c, tail, same, keeps, member⟩ := starts
  rcases List.append_eq_append_iff.mp same with ⟨e, rfl, rest⟩ | ⟨e, rfl, rest⟩
  · cases e with
    | nil =>
      obtain ⟨rfl, -⟩ := List.cons_eq_cons.mp rest
      exact ⟨a, [], by simp, by simpa using keeps, by simpa using member⟩
    | cons y e =>
      obtain ⟨rfl, -⟩ := List.cons_eq_cons.mp rest
      exact absurd keeps (seam before a e (List.suffix_refl a) some)
  · refine ⟨kept, e, rfl, keeps, ?_⟩
    cases e with
    | nil =>
      obtain ⟨rfl, -⟩ := List.cons_eq_cons.mp rest
      simpa using member
    | cons y e =>
      obtain ⟨rfl, -⟩ := List.cons_eq_cons.mp rest
      simpa using member

/-- The substitution is done with a text in front of a symbol, whatever follows. -/
structure Passes (front : Front α) (p : Char → Bool) (before : Option α) (a : List α) (x : α)
    (o : List α) : Prop where
  here : Redacted front p before a o
  beyond {t out : List α} : Redacted front p (lastOf before a) (x :: t) out →
    Redacted front p before (a ++ x :: t) (o ++ out)

/-- A secret of a text takes a symbol behind the text with it, and all others of its class. -/
structure Reaches (front : Front α) (p : Char → Bool) (before : Option α) (a : List α) (x : α)
    (b kept c o : List α) : Prop where
  parts : a = b ++ kept ++ c
  keeps : front (lastOf before b) kept
  members : ∀ d ∈ c, p (glyph d) = true
  beyond {s rest out : List α} : (∀ d ∈ s, p (glyph d) = true) →
    (∀ d ∈ rest.head?, p (glyph d) = false) →
    Redacted front p (lastOf before (a ++ x :: s)) rest out →
    Redacted front p before (a ++ x :: s ++ rest) (o ++ kept ++ ofString mark ++ out)

theorem Passes.onward {t o : List α} (passes : Passes front p before a x o) (head : t.head? = some x)
    (others : Redacted front p (lastOf before a) t out) :
    Redacted front p before (a ++ t) (o ++ out) := by
  obtain ⟨t, rfl⟩ := List.head?_eq_some_iff.mp head
  exact passes.beyond others

theorem Reaches.onward {b kept c o s : List α} (reaches : Reaches front p before a x b kept c o)
    (head : s.head? = some x) (members : ∀ d ∈ s, p (glyph d) = true)
    (longest : ∀ d ∈ rest.head?, p (glyph d) = false)
    (others : Redacted front p (lastOf before (a ++ s)) rest out) :
    Redacted front p before (a ++ (s ++ rest)) (o ++ kept ++ ofString mark ++ out) := by
  obtain ⟨s, rfl⟩ := List.head?_eq_some_iff.mp head
  rw [← List.append_assoc]
  exact reaches.beyond (List.forall_mem_cons.mp members).2 longest others

/-- A secret that takes a text with it takes what it can of the next text too. -/
theorem Reaches.partly {b kept c o s sep t : List α} (reaches : Reaches front p before a x b kept c o)
    (head : s.head? = some x) (members : ∀ d ∈ s, p (glyph d) = true)
    (ends : behind p sep = [] → ∀ d ∈ t.head?, p (glyph d) = false)
    (others : ∀ before, Redacted front p before (behind p sep ++ t) out) :
    Redacted front p before (a ++ (s ++ (sep ++ t))) (o ++ kept ++ ofString mark ++ out) := by
  have taken : ∀ d ∈ s ++ run p sep, p (glyph d) = true := by
    intro d member
    rcases List.mem_append.mp member with member | member
    · exact members d member
    · exact mem_run member
  have masked := reaches.onward (by simp [head]) taken (head_behind_append ends) (others _)
  rwa [List.append_assoc s, ← List.append_assoc (run _ _), run_append_behind] at masked

/-- A text in front of a seam is kept at its first symbol, and then goes on as the others do. -/
theorem Passes.keep {c : α} {o : List α} (passes : Passes front p (some c) a x o)
    (absent : ∀ t, ¬ Starts front p before (c :: a ++ x :: t)) :
    Passes front p before (c :: a) x (c :: o) where
  here := by
    refine .keep (fun starts => absent [] ?_) passes.here
    exact starts.append [x]
  beyond {t out} others := by
    rw [lastOf_cons] at others
    exact .keep (absent t) (passes.beyond others)

@[inherit_doc Passes.keep]
theorem Reaches.keep {d : α} {b kept c o : List α} (reaches : Reaches front p (some d) a x b kept c o)
    (absent : ∀ t, ¬ Starts front p before (d :: a ++ x :: t)) :
    Reaches front p before (d :: a) x (d :: b) kept c (d :: o) where
  parts := by rw [reaches.parts]; rfl
  keeps := by
    rw [lastOf_cons]
    exact reaches.keeps
  members := reaches.members
  beyond {s rest out} members longest others := by
    rw [List.cons_append, lastOf_cons] at others
    have absent' := absent (s ++ rest)
    exact .keep (by simpa using absent') (reaches.beyond members longest others)

section
variable {kept secret : List α} (place : ∀ t, Place front p before kept secret (a ++ t))
include place

/-- A secret in front of a seam is substituted, and then the others are. -/
theorem Passes.mask {o : List α} (passes : Passes front p (lastOf before (kept ++ secret)) a x o) :
    Passes front p before (kept ++ secret ++ a) x (kept ++ ofString mark ++ o) where
  here := by
    have masked := place []
    rw [List.append_nil] at masked
    exact .mask masked passes.here
  beyond {t out} others := by
    rw [lastOf_append] at others
    have masked := Redacted.mask (place (x :: t)) (passes.beyond others)
    simpa using masked

@[inherit_doc Passes.mask]
theorem Reaches.mask {b kept' c o : List α}
    (reaches : Reaches front p (lastOf before (kept ++ secret)) a x b kept' c o) :
    Reaches front p before (kept ++ secret ++ a) x (kept ++ secret ++ b) kept' c
      (kept ++ ofString mark ++ o) where
  parts := by
    rw [reaches.parts]
    simp
  keeps := by
    rw [lastOf_append]
    exact reaches.keeps
  members := reaches.members
  beyond {s rest out} members longest others := by
    rw [List.append_assoc, lastOf_append] at others
    have masked := Redacted.mask (place (x :: s ++ rest))
      (by simpa using reaches.beyond members longest others)
    simpa using masked

end

/-- A front at the start of a text before a seam: its secret ends within the text, or it does not. -/
theorem cases_of_front {kept e : List α} (keeps : front before kept) (parts : a = kept ++ e)
    (member : p (glyph x) = true) (first : ∀ d ∈ (e ++ [x]).head?, p (glyph d) = true) :
    (∃ o, Reaches front p before a x [] kept e o) ∨
      ∃ secret a', e = secret ++ a' ∧ ∀ t, Place front p before kept secret (a' ++ t) := by
  subst parts
  by_cases ends : behind p e = []
  · left
    have members : ∀ d ∈ e, p (glyph d) = true := by
      rw [← run_append_behind p e, ends, List.append_nil]
      exact fun _ => mem_run
    refine ⟨[], by simp, keeps, members, ?_⟩
    intro s rest out members' longest others
    have place : Place front p before kept (e ++ x :: s) rest := by
      refine ⟨keeps, by simp, ?_, longest⟩
      intro d known
      rcases List.mem_append.mp known with known | known
      · exact members d known
      · rcases List.mem_cons.mp known with rfl | known
        · exact member
        · exact members' d known
    have masked := Redacted.mask place (by simpa using others)
    simpa using masked
  · right
    refine ⟨run p e, behind p e, (run_append_behind p e).symm,
      fun t => ⟨keeps, ?_, fun _ => mem_run, ?_⟩⟩
    · cases e with
      | nil => exact absurd rfl ends
      | cons d e => simp [run, first d rfl]
    · exact head_behind_append fun none => absurd none ends

/-- A text in front of a seam is done with at the seam, or it takes what stands behind the seam with it. -/
theorem passes_or_reaches (nonempty : ∀ before, ¬ front before []) (seam : Seam front a x)
    (member : p (glyph x) = true) (before : Option α) :
    (∃ o, Passes front p before a x o) ∨ ∃ b kept c o, Reaches front p before a x b kept c o := by
  induction length : a.length using Nat.strongRecOn generalizing a before with
  | ind n ih =>
    cases a with
    | nil => exact .inl ⟨[], .nil, fun others => others⟩
    | cons d a =>
      -- whether there is a place here does not depend on what follows the seam
      by_cases starts : ∃ t, Starts front p before (d :: a ++ x :: t)
      · obtain ⟨t, starts⟩ := starts
        obtain ⟨kept, e, parts, keeps, first⟩ := seam.front_within (by simp) starts
        rcases cases_of_front keeps parts member first with ⟨o, reaches⟩ | ⟨secret, a', rfl, place⟩
        · exact .inr ⟨[], kept, e, o, reaches⟩
        · have shorter : a'.length < n := by
            have some : kept ≠ [] := by
              rintro rfl
              exact nonempty before keeps
            have := List.length_pos_iff.mpr some
            rw [← length, parts, List.length_append, List.length_append]
            omega
          rw [← List.append_assoc] at parts
          rw [parts] at seam ⊢
          rcases ih _ shorter seam.drop (lastOf before (kept ++ secret)) rfl with
            ⟨o, passes⟩ | ⟨b, kept', c, o, reaches⟩
          · exact .inl ⟨_, passes.mask place⟩
          · exact .inr ⟨_, kept', c, _, reaches.mask place⟩
      · have absent (t : List α) : ¬ Starts front p before (d :: a ++ x :: t) :=
          fun here => starts ⟨t, here⟩
        have seam' : Seam front a x := seam.drop (b := [d])
        rcases ih a.length (by simp [← length]) seam' (some d) rfl with
          ⟨o, passes⟩ | ⟨b, kept, c, o, reaches⟩
        · exact .inl ⟨_, passes.keep absent⟩
        · exact .inr ⟨_, kept, c, _, reaches.keep absent⟩

end MonitoringUpkeep.Redaction
