import MonitoringUpkeep.Proofs.KeyPath
import MonitoringUpkeep.Store.Basic

/-!
# Keyed stores

A store is keyed when every object in it stands under the key that its own metadata give. Whole
writes keep it so. In a keyed store a whole write of an object with a readable key does one of two
things: it replaces the object under that key by the stamped one and leaves all other keys alone, or
it is refused because of what does or does not stand there.
-/

namespace MonitoringUpkeep

namespace StoreKey
open Value Fields

theorem same_iff {a b : StoreKey} : a.same b = true ↔ a.kind = b.kind ∧
    a.space.meaning = b.space.meaning ∧ a.name.meaning = b.name.meaning := by
  simp [same, and_assoc]

@[simp] theorem same_refl (a : StoreKey) : a.same a = true := same_iff.mpr ⟨rfl, rfl, rfl⟩

theorem same_symm {a b : StoreKey} (h : a.same b = true) : b.same a = true := by
  rw [same_iff] at h ⊢
  exact ⟨h.1.symm, h.2.1.symm, h.2.2.symm⟩

theorem same_trans {a b c : StoreKey} (h : a.same b = true) (k : b.same c = true) :
    a.same c = true := by
  rw [same_iff] at h k ⊢
  exact ⟨h.1.trans k.1, h.2.1.trans k.2.1, h.2.2.trans k.2.2⟩

/-- Keys that are the same are the same as the same keys. -/
theorem same_congr {a b : StoreKey} (h : a.same b = true) (c : StoreKey) :
    c.same a = c.same b := by
  rw [Bool.eq_iff_iff]
  exact ⟨fun k => same_trans k h, fun k => same_trans k (same_symm h)⟩

theorem same_comm (a b : StoreKey) : a.same b = b.same a := by
  rw [Bool.eq_iff_iff]
  exact ⟨same_symm, same_symm⟩

/-- A kind, a name and a namespace give a key when both of these can be parts of one. -/
theorem of_eq_ok {kind : Kind} {name space : Value} {key : StoreKey} :
    of kind name space = .ok key ↔ checkPart (space.orElse .null) = .ok () ∧
      checkPart name = .ok () ∧ key = ⟨kind, space.orElse .null, name⟩ := by
  cases h : checkPart (space.orElse .null) with
  | error f => simp [of, h, bind, Except.bind]
  | ok u =>
    cases g : checkPart name <;> simp [of, h, g, bind, Except.bind, pure, Except.pure, eq_comm]

theorem kind_of {kind : Kind} {name space : Value} {key : StoreKey}
    (given : of kind name space = .ok key) : key.kind = kind := by
  rw [(of_eq_ok.mp given).2.2]

/-- An object has a key exactly when its metadata are an object with a name, which together with
    the namespace gives the key. -/
theorem ofObject_eq_ok {kind : Kind} {v : Value} {key : StoreKey} :
    ofObject kind v = .ok key ↔ ∃ fs ms name, v = .obj fs ∧ get? fs "metadata" = some (.obj ms) ∧
      get? ms "name" = some name ∧ of kind name (getD ms "namespace") = .ok key := by
  constructor
  · intro given
    cases v with
    | obj fs =>
      cases found : get? fs "metadata" with
      | none =>
        simp [ofObject, metadata, member, getD, found, orElse, isBlank, part, get?, bind,
          Except.bind, pure, Except.pure] at given
      | some m =>
        have read : getD fs "metadata" = m := by simp [getD, found]
        by_cases blank : m.isBlank
        · simp [ofObject, metadata, member, read, orElse, blank, part, get?, bind, Except.bind,
            pure, Except.pure] at given
        · simp only [ofObject, metadata, member, read, orElse, blank, bind, Except.bind, pure,
            Except.pure] at given
          cases m with
          | obj ms =>
            cases named : get? ms "name" with
            | none => simp [part, named] at given
            | some name => exact ⟨fs, ms, name, rfl, found, named, by simpa [part, named] using given⟩
          | _ => simp [part] at given
    | _ => simp [ofObject, metadata, member, bind, Except.bind] at given
  · rintro ⟨fs, ms, name, rfl, found, named, given⟩
    have read : getD fs "metadata" = .obj ms := by simp [getD, found]
    have kept : ¬ (Value.obj ms).isBlank := by
      cases ms with
      | nil => simp [get?] at named
      | cons f rest => simp [isBlank]
    simpa [ofObject, metadata, member, read, orElse, kept, part, named, bind, Except.bind, pure,
      Except.pure] using given

theorem kind_ofObject {kind : Kind} {v : Value} {key : StoreKey}
    (given : ofObject kind v = .ok key) : key.kind = kind := by
  obtain ⟨_, _, _, _, _, _, given⟩ := ofObject_eq_ok.mp given
  exact kind_of given

theorem open_of_ofObject {kind : Kind} {fs : Fields} {key : StoreKey}
    (given : ofObject kind (.obj fs) = .ok key) : MetadataOpen fs := by
  obtain ⟨gs, ms, _, same, found, _⟩ := ofObject_eq_ok.mp given
  obtain rfl : fs = gs := by simpa using same
  intro v isFound
  exact ⟨ms, Option.some.inj (isFound.symm.trans found)⟩

/-- A write at a key path that parts from those of name and namespace leaves the key alone. -/
theorem ofObject_writeAt {kind : Kind} {fs : Fields} {key : StoreKey}
    (given : ofObject kind (.obj fs) = .ok key) {path : List String}
    (name : Apart path ["metadata", "name"]) (space : Apart path ["metadata", "namespace"])
    (v : Value) : ofObject kind (.obj (writeAt fs path v)) = .ok key := by
  obtain ⟨gs, ms, n, same, found, named, given⟩ := ofObject_eq_ok.mp given
  obtain rfl : fs = gs := by simpa using same
  have read : getD fs "metadata" = .obj ms := by simp [getD, found]
  apply ofObject_eq_ok.mpr
  cases path with
  | nil => exact name.elim
  | cons head rest =>
    by_cases inMetadata : head = "metadata"
    · subst inMetadata
      cases rest with
      | nil => exact (name.resolve_left (fun h => h rfl)).elim
      | cons next rest =>
        have otherName : "name" ≠ next := by
          rcases name.resolve_left (fun h => h rfl) with h | h
          · exact h.symm
          · cases rest <;> exact h.elim
        have otherSpace : "namespace" ≠ next := by
          rcases space.resolve_left (fun h => h rfl) with h | h
          · exact h.symm
          · cases rest <;> exact h.elim
        obtain ⟨w, written⟩ : ∃ w, writeAt ms (next :: rest) v = put ms next w := by
          cases rest <;> exact ⟨_, rfl⟩
        refine ⟨_, put ms next w, n, rfl, ?_, ?_, ?_⟩
        · rw [writeAt_cons_cons, get?_put_self, read, ← written]
          rfl
        · rw [get?_put_of_ne ms otherName, named]
        · rw [getD_put_of_ne ms otherSpace, given]
    · obtain ⟨w, written⟩ : ∃ w, writeAt fs (head :: rest) v = put fs head w := by
        cases rest <;> exact ⟨_, rfl⟩
      exact ⟨_, ms, n, rfl, by rw [written, get?_put_of_ne fs (Ne.symm inMetadata), found], named,
        given⟩

end StoreKey

namespace Store
open Value Fields

/-- Every object stands under the key that its own metadata give. -/
def Keyed (s : Store) : Prop := ∀ e ∈ s.entries, ∃ key,
  StoreKey.ofObject e.1.kind e.2 = .ok key ∧ key.same e.1 = true

/-- Where the number of the last stamp stands in an object. -/
def stampPath : List String := ["metadata", "resourceVersion"]

theorem find?_congr (s : Store) {key other : StoreKey} (same : key.same other = true) :
    s.find? key = s.find? other := by
  simp only [find?, StoreKey.same_congr same]

theorem find?_writeEntry (key other : StoreKey) (v : Value) (entries : List (StoreKey × Value)) :
    ((writeEntry key v entries).find? fun e => e.1.same other).map Prod.snd =
      if key.same other then some v
      else (entries.find? fun e => e.1.same other).map Prod.snd := by
  induction entries with
  | nil => by_cases h : key.same other <;> simp [writeEntry, h]
  | cons e rest ih =>
    obtain ⟨k, w⟩ := e
    by_cases here : k.same key
    · have alike : k.same other = key.same other := by
        rw [StoreKey.same_comm k, StoreKey.same_comm key, StoreKey.same_congr here]
      by_cases h : key.same other <;> simp [writeEntry, here, alike, h]
    · by_cases there : k.same other
      · have different : ¬ key.same other = true := fun h =>
          here (StoreKey.same_trans there (StoreKey.same_symm h))
        simp [writeEntry, here, there, different]
      · simpa [writeEntry, here, there] using ih

/-- After a write the written object is found under its key, and all else as before. -/
theorem find?_write (s : Store) (key other : StoreKey) (v : Value) :
    (s.write key v).find? other = if key.same other then some v else s.find? other :=
  find?_writeEntry key other v s.entries

theorem mem_writeEntry {key : StoreKey} {v : Value} {entries : List (StoreKey × Value)}
    {e : StoreKey × Value} (member : e ∈ writeEntry key v entries) :
    e ∈ entries ∨ e.2 = v ∧ e.1.same key = true := by
  induction entries with
  | nil =>
    obtain rfl : e = (key, v) := by simpa [writeEntry] using member
    exact .inr ⟨rfl, StoreKey.same_refl key⟩
  | cons f rest ih =>
    obtain ⟨k, w⟩ := f
    by_cases here : k.same key
    · simp only [writeEntry, here, if_true] at member
      rcases List.mem_cons.mp member with rfl | tail
      · exact .inr ⟨rfl, here⟩
      · exact .inl (List.mem_cons_of_mem _ tail)
    · simp only [writeEntry, here, Bool.false_eq_true, if_false] at member
      rcases List.mem_cons.mp member with rfl | tail
      · exact .inl (List.mem_cons_self ..)
      · rcases ih tail with old | new
        · exact .inl (List.mem_cons_of_mem _ old)
        · exact .inr new

/-- A store stays keyed when an object is written under a key that is as good as its own. -/
theorem Keyed.write_same {s : Store} (keyed : s.Keyed) {kind : Kind} {key own : StoreKey} {v : Value}
    (given : StoreKey.ofObject kind v = .ok own) (here : own.same key = true) :
    (s.write key v).Keyed := by
  intro e member
  rcases mem_writeEntry member with old | ⟨rfl, there⟩
  · exact keyed e old
  · have sameKind : e.1.kind = kind := (StoreKey.same_iff.mp there).1.trans
      ((StoreKey.same_iff.mp here).1.symm.trans (StoreKey.kind_ofObject given))
    exact ⟨own, by rw [sameKind, given], StoreKey.same_trans here (StoreKey.same_symm there)⟩

theorem Keyed.write {s : Store} (keyed : s.Keyed) {kind : Kind} {key : StoreKey} {v : Value}
    (given : StoreKey.ofObject kind v = .ok key) : (s.write key v).Keyed :=
  keyed.write_same given (StoreKey.same_refl key)

/-- What is found in a keyed store is an object with metadata that give its key. -/
theorem Keyed.ofObject_find? {s : Store} (keyed : s.Keyed) {key : StoreKey} {v : Value}
    (found : s.find? key = some v) : ∃ own,
      StoreKey.ofObject key.kind v = .ok own ∧ own.same key = true := by
  obtain ⟨e, isFound, rfl⟩ := Option.map_eq_some_iff.mp found
  have same : e.1.same key = true := by
    simpa using List.find?_some isFound
  obtain ⟨own, given, own_same⟩ := keyed e (List.mem_of_find?_eq_some isFound)
  have sameKind : e.1.kind = key.kind := (StoreKey.same_iff.mp same).1
  exact ⟨own, by rw [← sameKind, given], StoreKey.same_trans own_same same⟩

theorem Keyed.exists_obj {s : Store} (keyed : s.Keyed) {key : StoreKey} {v : Value}
    (found : s.find? key = some v) : ∃ fs, v = .obj fs := by
  obtain ⟨own, isOwn, _⟩ := keyed.ofObject_find? found
  obtain ⟨fs, _, _, rfl, _⟩ := StoreKey.ofObject_eq_ok.mp isOwn
  exact ⟨fs, rfl⟩

theorem stamped_obj {fs : Fields} (opened : MetadataOpen fs) (n : Nat) :
    stamped (.obj fs) n = .ok (.obj (writeAt fs stampPath (.str (toString n)))) := by
  cases found : get? fs "metadata" with
  | none =>
    simp [stamped, found, withPart, stampPath, getD, inside, fields?, bind, Except.bind, pure,
      Except.pure]
  | some v =>
    obtain ⟨ms, rfl⟩ := opened v found
    simp [stamped, found, withPart, stampPath, getD, inside, fields?, bind, Except.bind, pure,
      Except.pure]

/-- A store after a whole write under a key: the counter has gone on, and the object that stands
    there is stamped with its number. -/
def renewed (s : Store) (key : StoreKey) (fs : Fields) : Store :=
  { s with version := s.version + 1 }.write key
    (.obj (writeAt fs stampPath (.str (toString (s.version + 1)))))

theorem find?_renewed (s : Store) (key other : StoreKey) (fs : Fields) :
    (s.renewed key fs).find? other = if key.same other then
      some (.obj (writeAt fs stampPath (.str (toString (s.version + 1))))) else s.find? other :=
  find?_write _ key other _

theorem put_obj (s : Store) {kind : Kind} {fs : Fields} {key : StoreKey}
    (given : StoreKey.ofObject kind (.obj fs) = .ok key) :
    s.put kind (.obj fs) = (.ok (), s.renewed key fs) := by
  have stampedKey : StoreKey.ofObject kind
      (.obj (writeAt fs stampPath (.str (toString (s.version + 1))))) = .ok key :=
    StoreKey.ofObject_writeAt given (by simp [stampPath, Apart]) (by simp [stampPath, Apart]) _
  simp only [put, stamped_obj (StoreKey.open_of_ofObject given), stampedKey, renewed]

/-- A whole write of an object with a key goes through, or is refused because of what is or is not
    there. -/
theorem writeWhole_obj (s : Store) {kind : Kind} {fs : Fields} {key : StoreKey}
    (given : StoreKey.ofObject kind (.obj fs) = .ok key) (present : Bool) (refusal : Failure) :
    ((s.find? key).isSome = present ∧ ∃ v,
        s.writeWhole kind (.obj fs) present refusal = (.ok v, s.renewed key fs)) ∨
      ((s.find? key).isSome ≠ present ∧
        s.writeWhole kind (.obj fs) present refusal = (.error refusal, s)) := by
  by_cases there : (s.find? key).isSome = present
  · refine .inl ⟨there, ((s.renewed key fs).find? key).getD .null, ?_⟩
    simp only [writeWhole, given, there, if_true, put_obj s given]
  · exact .inr ⟨there, by simp only [writeWhole, given, there, if_false]⟩

theorem Keyed.put {s : Store} (keyed : s.Keyed) (kind : Kind) (v : Value) :
    (s.put kind v).2.Keyed := by
  unfold Store.put
  dsimp only
  split
  · exact keyed
  · split
    · exact keyed
    · rename_i given
      exact Keyed.write (s := { s with version := s.version + 1 }) keyed given

end Store

end MonitoringUpkeep
