import MonitoringUpkeep.Proofs.StoreCourse

/-!
# Sound stores

A store is sound when every object names its key in its metadata and carries a number of the counter, and
no two objects stand under one key or carry one number. An empty store is sound, and none of the effects
of operations makes a sound store unsound. So all stores are sound that come of an empty one by
operations, passes and changes of the gate, and along all that way the counter never goes back and what
fails leaves the objects as they were.
-/

namespace MonitoringUpkeep

namespace Store
open Value Fields

/-- The metadata of an object are an object, and their name and namespace are those of a key. A namespace
    that does not count as given is none. -/
def Names (key : StoreKey) (v : Value) : Prop :=
  ∃ ms name, v.lookup ["metadata"] = .obj ms ∧ get? ms "name" = some name ∧
    (StoreKey.mk key.kind ((getD ms "namespace").orElse .null) name).same key = true

/-- Two objects stand under different keys and carry different numbers. -/
structure Beside (e e' : StoreKey × Value) : Prop where
  keys : ¬ e.1.same e'.1 = true
  numbers : ∀ m n, Carries e.2 m → Carries e'.2 n → m ≠ n

/-- The invariant of a store. -/
structure Sound (s : Store) : Prop where
  /-- the metadata of each object are an object that names its key -/
  named : ∀ e ∈ s.entries, Names e.1 e.2
  /-- the version of each object is a positive number, in decimal digits, that the counter has reached -/
  numbered : ∀ e ∈ s.entries, ∃ n, 0 < n ∧ n ≤ s.version ∧ Carries e.2 n
  /-- no two objects share a key or a number -/
  beside : s.entries.Pairwise Beside

/-! ## Names and numbers -/

/-- An object carries one number only. -/
theorem Carries.unique {v : Value} {m n : Nat} (one : Carries v m) (other : Carries v n) : m = n := by
  have same : m.repr = n.repr := Value.str.inj (one.symm.trans other)
  calc
    m = Nat.ofDigitChars 10 (Nat.toDigits 10 m) 0 := Nat.ofDigitChars_ten_toDigits.symm
    _ = Nat.ofDigitChars 10 (Nat.toDigits 10 n) 0 := by rw [← Nat.toList_repr, same, Nat.toList_repr]
    _ = n := Nat.ofDigitChars_ten_toDigits

theorem Carries.of_metadata {v v' : Value} {n : Nat} (carries : Carries v n)
    (same : v.lookup ["metadata"] = v'.lookup ["metadata"]) : Carries v' n := by
  rw [Carries, stampPath, ← List.singleton_append, lookup_append] at carries ⊢
  rw [← same, carries]

theorem Names.of_metadata {key : StoreKey} {v v' : Value} (names : Names key v)
    (same : v.lookup ["metadata"] = v'.lookup ["metadata"]) : Names key v' := by
  rw [Names, same] at names
  exact names

theorem Names.of_same {key other : StoreKey} {v : Value} (names : Names key v)
    (same : key.same other = true) : Names other v := by
  obtain ⟨ms, name, metadata, named, own⟩ := names
  refine ⟨ms, name, metadata, named, StoreKey.same_trans ?_ same⟩
  rwa [← (StoreKey.same_iff.mp same).1]

/-- An object from which a key can be read names it. -/
theorem names_of_ofObject {kind : Kind} {key : StoreKey} {v : Value}
    (given : StoreKey.ofObject kind v = .ok key) : Names key v := by
  obtain ⟨fs, ms, name, rfl, found, named, given⟩ := StoreKey.ofObject_eq_ok.mp given
  obtain ⟨-, -, rfl⟩ := StoreKey.of_eq_ok.mp given
  exact ⟨ms, name, by simp [lookup, getD, found], named, StoreKey.same_refl _⟩

instance : Std.Symm Beside where
  symm _ _ beside := {
    keys := fun same => beside.keys (StoreKey.same_symm same)
    numbers := fun m n later earlier => (beside.numbers n m earlier later).symm }

/-! ## Writes of sound stores -/

/-- What is found under a key stands in an entry with a key that is as good. -/
theorem mem_of_find? {s : Store} {key : StoreKey} {v : Value} (found : s.find? key = some v) :
    ∃ k, (k, v) ∈ s.entries ∧ k.same key = true := by
  obtain ⟨e, isFound, rfl⟩ := Option.map_eq_some_iff.mp found
  exact ⟨e.1, List.mem_of_find?_eq_some isFound, by simpa using List.find?_some isFound⟩

/-- A write under a key keeps the entries apart, if the number of the written object is that of no object
    under another key. -/
theorem pairwise_writeEntry {key : StoreKey} {v : Value} {entries : List (StoreKey × Value)}
    (pairs : entries.Pairwise Beside) (fresh : ∀ e ∈ entries, ¬ e.1.same key = true →
      ∀ m n, Carries e.2 m → Carries v n → m ≠ n) : (writeEntry key v entries).Pairwise Beside := by
  induction entries with
  | nil => exact List.pairwise_singleton ..
  | cons e rest ih =>
    obtain ⟨k, w⟩ := e
    obtain ⟨head, tail⟩ := List.pairwise_cons.mp pairs
    obtain ⟨freshHead, freshTail⟩ := List.forall_mem_cons.mp fresh
    by_cases here : k.same key
    · -- The object takes the place of another one, whose key is kept.
      simp only [writeEntry, here, if_true]
      refine List.pairwise_cons.mpr ⟨fun e member => ⟨(head e member).keys, ?_⟩, tail⟩
      have elsewhere : ¬ e.1.same key = true := fun there =>
        (head e member).keys (StoreKey.same_trans here (StoreKey.same_symm there))
      exact fun m n mine its => (freshTail e member elsewhere n m its mine).symm
    · simp only [writeEntry, here, Bool.false_eq_true, if_false]
      refine List.pairwise_cons.mpr ⟨fun e member => ?_, ih tail freshTail⟩
      rcases mem_writeEntry member with old | ⟨rfl, there⟩
      · exact head e old
      · exact ⟨fun same => here (StoreKey.same_trans same there), freshHead here⟩

/-- A store stays sound when an object is written that names its key and carries a number of its own, up
    to which the counter has gone on. -/
theorem Sound.write {s : Store} (sound : s.Sound) {version : Nat} (onward : s.version ≤ version)
    {key : StoreKey} {v : Value} (names : Names key v)
    (numbered : ∃ n, 0 < n ∧ n ≤ version ∧ Carries v n)
    (fresh : ∀ e ∈ s.entries, ¬ e.1.same key = true → ∀ m n, Carries e.2 m → Carries v n → m ≠ n) :
    ({ s with version }.write key v).Sound where
  named e member := by
    rcases mem_writeEntry member with old | ⟨rfl, there⟩
    · exact sound.named e old
    · exact names.of_same (StoreKey.same_symm there)
  numbered e member := by
    rcases mem_writeEntry member with old | ⟨rfl, -⟩
    · obtain ⟨n, positive, reached, carries⟩ := sound.numbered e old
      exact ⟨n, positive, reached.trans onward, carries⟩
    · exact numbered
  beside := pairwise_writeEntry sound.beside fresh

/-- A change of an object in its place that leaves its metadata alone. -/
theorem Sound.rewrite {s : Store} (sound : s.Sound) {key : StoreKey} {v v' : Value}
    (found : s.find? key = some v) (same : v'.lookup ["metadata"] = v.lookup ["metadata"]) :
    (s.write key v').Sound := by
  obtain ⟨k, member, here⟩ := mem_of_find? found
  obtain ⟨n, positive, reached, carries⟩ := sound.numbered _ member
  refine sound.write le_rfl (((sound.named _ member).of_same here).of_metadata same.symm)
    ⟨n, positive, reached, carries.of_metadata same.symm⟩ ?_
  intro e other elsewhere m n its mine
  have different : e ≠ (k, v) := by
    rintro rfl
    exact elsewhere here
  exact (sound.beside.forall other member different).numbers m n its (mine.of_metadata same)

/-- A write with the stamp of the next number. -/
theorem Sound.renew {s : Store} (sound : s.Sound) {key : StoreKey} {v : Value} (names : Names key v)
    (carries : Carries v (s.version + 1)) :
    ({ s with version := s.version + 1 }.write key v).Sound := by
  refine sound.write (Nat.le_succ _) names ⟨_, Nat.succ_pos _, le_rfl, carries⟩ ?_
  intro e other _ m n its mine
  obtain ⟨number, -, reached, carried⟩ := sound.numbered e other
  have old : m = number := its.unique carried
  have new : n = s.version + 1 := mine.unique carries
  omega

theorem empty_sound : Sound {} := ⟨nofun, nofun, .nil⟩

/-! ## What effects keep -/

namespace Effect

variable {s s' : Store} {operation : Operation} {reply : Reply}

theorem sound (effect : Effect s operation reply s') (before : s.Sound) : s'.Sound := by
  cases effect with
  | rests => exact before
  | wastes =>
    refine ⟨before.named, fun e member => ?_, before.beside⟩
    obtain ⟨n, positive, reached, carries⟩ := before.numbered e member
    exact ⟨n, positive, Nat.le_succ_of_le reached, carries⟩
  | removes operation v kept =>
    exact ⟨fun e member => before.named e (List.mem_of_mem_filter member),
      fun e member => before.numbered e (List.mem_of_mem_filter member), before.beside.filter _⟩
  | rewrites operation u found same => exact before.rewrite found same
  | renews operation u carries given => exact before.renew (names_of_ofObject given) carries

/-- The counter never goes back. -/
theorem version_le (effect : Effect s operation reply s') : s.version ≤ s'.version := by
  cases effect with
  | rests | removes | rewrites => exact le_rfl
  | wastes | renews => exact Nat.le_succ _

/-- What fails leaves the objects as they were, and the counter too but for an object that could not be
    put there. -/
theorem failed {f : Failure} (effect : Effect s operation (.error f) s') : s'.entries = s.entries ∧
    (s' = s ∨ ∃ kind object, operation = .put kind object) := by
  cases effect with
  | rests => exact ⟨rfl, .inl rfl⟩
  | wastes kind object => exact ⟨rfl, .inr ⟨kind, object, rfl⟩⟩

end Effect

namespace Proceeds

variable {s s' : Store} {done : List (Operation × Reply)}

theorem sound (course : Proceeds s done s') (before : s.Sound) : s'.Sound := by
  induction course with
  | nil => exact before
  | cons handles _ ih => exact ih (handles.effect.sound before)

theorem version_le (course : Proceeds s done s') : s.version ≤ s'.version := by
  induction course with
  | nil => exact le_rfl
  | cons handles _ ih => exact handles.effect.version_le.trans ih

end Proceeds

/-! ## Reached stores -/

/-- The stores that come of an empty one, with all that was done on the way: operations, and passes and
    changes of the gate over an environment that answers from the store or fails before that. -/
inductive Reached : List (Operation × Reply) → Store → Prop
  | empty : Reached [] {}
  | operation {done s operation reply s'} (before : Reached done s)
      (handles : Handles s operation reply s') : Reached (done ++ [(operation, reply)]) s'
  | pass {done} {ω : Type} {env : Environment ω} {store : ω → Store} (falters : env.Falters store)
      (o : Operator) (w : ω) (before : Reached done (store w)) :
      Reached (done ++ (Operator.pass env o w).trace.operations) (store (Operator.pass env o w).world)
  | change {done} {ω : Type} {env : Environment ω} {store : ω → Store} (alone : env.Alone store)
      (g : Gate) (enable : Value) (w : ω) (before : Reached done (store w)) :
      Reached (done ++ (g.set env enable w).trace.operations) (store (g.set env enable w).world)

theorem Reached.proceeds {done : List (Operation × Reply)} {s : Store} (reached : Reached done s) :
    Proceeds {} done s := by
  induction reached with
  | empty => exact .nil _
  | operation before handles ih => exact ih.append (.single handles)
  | pass falters o w before ih => exact ih.append (Operator.pass_proceeds falters o w)
  | change alone g enable w before ih => exact ih.append (Gate.set_proceeds alone g enable w)

/-- A store that comes of an empty one, by any number of operations of any party, passes and changes of
    the gate, is sound. Each operation on the way was carried out by a sound store or failed before it took
    effect, and the counter never went back; if it failed, the objects stayed as they were, and so
    did the counter unless the operation was to put an object there. -/
theorem reached_sound {done : List (Operation × Reply)} {s : Store} (reached : Reached done s) :
    s.Sound ∧ ∀ before operation reply after, done = before ++ (operation, reply) :: after →
      ∃ s₁ s₂, Proceeds {} before s₁ ∧ Handles s₁ operation reply s₂ ∧ Proceeds s₂ after s ∧ s₁.Sound ∧
        s₁.version ≤ s₂.version ∧ s₂.version ≤ s.version ∧
        ∀ f, reply = .error f → s₂.entries = s₁.entries ∧
          (s₂ = s₁ ∨ ∃ kind object, operation = .put kind object) := by
  have course := reached.proceeds
  refine ⟨course.sound empty_sound, ?_⟩
  rintro before operation reply after rfl
  obtain ⟨s₁, first, rest⟩ := course.split
  cases rest with
  | @cons _ s₂ _ _ _ _ handles others =>
    refine ⟨s₁, s₂, first, handles, others, first.sound empty_sound, handles.effect.version_le,
      others.version_le, ?_⟩
    rintro f rfl
    exact handles.effect.failed

/-- A cluster object is put, then a pod without a name; a pass fails at its fourth request, and the gate is
    disabled. The pod is not put there, but uses up a number. -/
theorem reached_sound_hindered :
    let cluster : Operation := .put .hyperConverged (.obj [
      ("metadata", .obj [
        ("name", "kubevirt-hyperconverged"), ("namespace", "kubevirt-hyperconverged")])])
    let nameless : Operation := .put .pod (.obj [])
    let before := (nameless.run (cluster.run {}).2).2
    let env := patient fun n => if n = 3 then some (.fault .transport "lost") else none
    let pass := Operator.pass env Operator.usual (0, before)
    let gate := Operator.gateOf .finite Operator.usual.configuration
    let change := gate.set env (.bool false) pass.world
    let after := pass.trace.operations ++ change.trace.operations
    let done := [(cluster, .ok .null), (nameless, .error (.missingKey "name"))] ++ after
    Reached done change.world.2 ∧ before.version = 2 ∧ change.world.2.Sound ∧
      ∃ s₁ s₂, Proceeds {} [(cluster, .ok .null)] s₁ ∧ Proceeds s₂ after change.world.2 ∧
        s₂.version ≤ change.world.2.version ∧ s₂.entries = s₁.entries := by
  intro cluster nameless before env pass gate change after done
  have alone : env.Alone Prod.snd := patient_alone _
  have first : Reached [(cluster, .ok .null)] (cluster.run {}).2 :=
    .operation .empty (@Handles.carriedOut _ cluster trivial)
  have early : Reached [(cluster, .ok .null), (nameless, .error (.missingKey "name"))] before :=
    .operation first (@Handles.carriedOut _ nameless trivial)
  have later : Reached done change.world.2 := by
    have passed := Reached.pass alone.toFalters Operator.usual (0, before) early
    have changed := Reached.change alone gate (.bool false) pass.world passed
    rwa [List.append_assoc] at changed
  obtain ⟨sound, accounts⟩ := reached_sound later
  obtain ⟨s₁, s₂, put, -, others, -, -, onward, failed⟩ :=
    accounts [(cluster, .ok .null)] nameless (.error (.missingKey "name")) after rfl
  exact ⟨later, rfl, sound, s₁, s₂, put, others, onward, (failed _ rfl).1⟩

end Store

end MonitoringUpkeep
