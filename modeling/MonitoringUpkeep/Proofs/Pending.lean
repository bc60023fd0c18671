import MonitoringUpkeep.Proofs.Drift
import MonitoringUpkeep.Proofs.Store
import MonitoringUpkeep.Proofs.Visit

/-!
# What is pending in a store

A managed object in a keyed store is missing, drifted or as desired, and this alone says which write
is pending. The pending write restores the object, from what stands there or from nothing but its
identity, and afterwards none is pending. What is pending for objects of other kinds stays so.
-/

namespace MonitoringUpkeep

theorem ManagedKind.kind_injective {a b : ManagedKind} (same : a.kind = b.kind) : a = b := by
  cases a <;> cases b <;> first | rfl | cases same

namespace StoreKey
open Value Fields

theorem of_failure {kind : Kind} {name space : Value} {f : Failure}
    (failed : of kind name space = .error f) : f.isNotFound = false := by
  have part : ∀ v g, checkPart v = .error g → g.isNotFound = false := by
    intro v g h
    cases v <;> simp [checkPart] at h <;> rw [← h] <;> rfl
  unfold of at failed
  cases first : checkPart (space.orElse .null) with
  | error g =>
    obtain rfl : g = f := by simpa [first, bind, Except.bind] using failed
    exact part _ _ first
  | ok u =>
    cases second : checkPart name with
    | error g =>
      obtain rfl : g = f := by simpa [first, second, bind, Except.bind] using failed
      exact part _ _ second
    | ok u => simp [first, second, bind, Except.bind, pure, Except.pure] at failed

theorem ofObject_copied {kind : Kind} {source : Value} {paths : List (List String)} {fs : Fields}
    {key : StoreKey} (name : ∀ p ∈ paths, Apart p ["metadata", "name"])
    (space : ∀ p ∈ paths, Apart p ["metadata", "namespace"])
    (given : ofObject kind (.obj fs) = .ok key) :
    ofObject kind (.obj (copied source paths fs)) = .ok key := by
  induction paths generalizing fs with
  | nil => exact given
  | cons p rest ih =>
    have names := List.forall_mem_cons.mp name
    have spaces := List.forall_mem_cons.mp space
    rw [copied_cons]
    exact ih names.2 spaces.2 (ofObject_writeAt given names.1 spaces.1 _)

end StoreKey

namespace Store

theorem get_of_key (s : Store) {kind : Kind} {name space : Value} {key : StoreKey}
    (given : StoreKey.of kind name space = .ok key) :
    s.get kind name space = match s.find? key with
      | some v => .ok v
      | none => .error .notFound := by
  simp only [get, given, bind, Except.bind]
  rfl

theorem get_of_no_key (s : Store) {kind : Kind} {name space : Value} {f : Failure}
    (failed : StoreKey.of kind name space = .error f) : s.get kind name space = .error f := by
  simp only [get, failed, bind, Except.bind]

/-- A whole write that fails leaves the store as it was. -/
theorem writeWhole_failed {s s' : Store} {kind : Kind} {body : Value} {present : Bool}
    {refusal f : Failure} (failed : s.writeWhole kind body present refusal = (.error f, s')) :
    s' = s := by
  cases given : StoreKey.ofObject kind body with
  | error g =>
    simp only [writeWhole, given, Prod.mk.injEq] at failed
    exact failed.2.symm
  | ok key =>
    obtain ⟨fs, _, _, rfl, _⟩ := StoreKey.ofObject_eq_ok.mp given
    rcases s.writeWhole_obj given present refusal with ⟨_, v, written⟩ | ⟨_, refused⟩
    · rw [written] at failed
      cases failed
    · rw [refused] at failed
      cases failed
      rfl

theorem Keyed.renewed {s : Store} (keyed : s.Keyed) {kind : Kind} {key : StoreKey} {fs : Fields}
    (given : StoreKey.ofObject kind (.obj fs) = .ok key) : (s.renewed key fs).Keyed := by
  have kept := keyed.put kind (.obj fs)
  rwa [put_obj s given] at kept

end Store

namespace Resource
open Value Fields

/-- The key of the object, if its name and namespace can be parts of one. -/
def key (r : Resource) : Except Failure StoreKey := StoreKey.of r.kind.kind r.name r.space

/-- The object is kept under a key. -/
def At (r : Resource) (key : StoreKey) : Prop := ∃ own, r.key = .ok own ∧ own.same key = true

/-- The write that is due in a store, if any. -/
def pending (r : Resource) (owner : Owner) (s : Store) : Except Failure (Option Request) :=
  r.due owner (s.get r.kind.kind r.name r.space)

/-- What a write of the object starts from: what stands under its key, or the bare object. -/
def base (r : Resource) (s : Store) (key : StoreKey) : Fields :=
  match s.find? key with
  | some v => inside v
  | none => r.bare

variable {r r' : Resource} {owner : Owner} {s s' : Store} {key : StoreKey}

theorem kind_key (given : r.key = .ok key) : key.kind = r.kind.kind := StoreKey.kind_of given

theorem At.kind (here : r.At key) : key.kind = r.kind.kind := by
  obtain ⟨own, given, same⟩ := here
  rw [← kind_key given, (StoreKey.same_iff.mp same).1]

theorem base_congr (r : Resource) (s : Store) {own : StoreKey} (same : own.same key = true) :
    r.base s own = r.base s key := by
  rw [base, base, s.find?_congr same]

theorem base_of_found {fs : Fields} (found : s.find? key = some (.obj fs)) : r.base s key = fs := by
  rw [base, found]
  rfl

theorem base_of_same (same : s.find? key = s'.find? key) : r.base s key = r.base s' key := by
  rw [base, base, same]

theorem facets_apart_stamp (r : Resource) : ∀ p ∈ r.facets, Apart p Store.stampPath :=
  r.facets_apart_metadata (by decide) (by decide)

theorem ofObject_restored (r : Resource) (owner : Owner) {kind : Kind} {fs : Fields}
    (given : StoreKey.ofObject kind (.obj fs) = .ok key) :
    StoreKey.ofObject kind (.obj (r.restored owner fs)) = .ok key :=
  StoreKey.ofObject_copied (r.facets_apart_metadata (by decide) (by decide))
    (r.facets_apart_metadata (by decide) (by decide)) given

theorem ofObject_bare (r : Resource) :
    StoreKey.ofObject r.kind.kind (.obj r.bare) = r.key := by
  simp [StoreKey.ofObject, bare, metadata, member, getD, get?, orElse, isBlank, part, Resource.key,
    bind, Except.bind, pure, Except.pure]

theorem ofObject_desired (r : Resource) (owner : Owner) :
    StoreKey.ofObject r.kind.kind (r.desired owner) = r.key := by
  simp [StoreKey.ofObject, desired, metadata, member, getD, get?, orElse, isBlank, part,
    Resource.key, bind, Except.bind, pure, Except.pure]

/-- Where nothing is found the object is to be created, which goes through. -/
theorem pending_of_missing (owner : Owner) (given : r.key = .ok key)
    (missing : s.find? key = none) :
    r.pending owner s = .ok (some (.create r.kind.kind (r.desired owner))) ∧
      ∃ v, s.reply (.create r.kind.kind (r.desired owner)) =
        (.ok v, s.renewed key (r.restored owner r.bare)) := by
  have bare : StoreKey.ofObject r.kind.kind (.obj r.bare) = .ok key := r.ofObject_bare.trans given
  constructor
  · rw [pending, s.get_of_key given, missing]
    rfl
  · rcases s.writeWhole_obj (r.ofObject_restored owner bare) false .alreadyExists with
      ⟨_, v, written⟩ | ⟨taken, _⟩
    · refine ⟨v, ?_⟩
      rw [desired_eq_restored]
      exact written
    · simp [missing] at taken

/-- An object that is found is as desired, or it is to be repaired, which goes through. -/
theorem pending_of_found (owner : Owner) (given : r.key = .ok key) {fs : Fields} {own : StoreKey}
    (found : s.find? key = some (.obj fs))
    (isOwn : StoreKey.ofObject r.kind.kind (.obj fs) = .ok own) (same : own.same key = true) :
    r.differs (.obj fs) (r.desired owner) = .ok false ∧ r.pending owner s = .ok none ∨
      ∃ request v, r.pending owner s = .ok (some request) ∧
        s.reply request = (.ok v, s.renewed own (r.restored owner fs)) := by
  have opened := StoreKey.open_of_ofObject isOwn
  have look : r.pending owner s = r.due owner (.ok (.obj fs)) := by
    rw [pending, s.get_of_key given, found]
  cases compared : r.differs (.obj fs) (r.desired owner) with
  | error f =>
    rw [differs_obj r owner opened] at compared
    cases compared
  | ok drifted =>
    cases drifted with
    | false =>
      refine .inl ⟨rfl, ?_⟩
      simp only [look, due, compared]
      rfl
    | true =>
      rcases s.writeWhole_obj (r.ofObject_restored owner isOwn) true .notFound with
        ⟨_, v, written⟩ | ⟨gone, _⟩
      · refine .inr ⟨.update r.kind.kind (.obj (r.restored owner fs)), v, ?_, written⟩
        simp only [look, due, compared, heal_obj r owner opened]
        rfl
      · simp [s.find?_congr same, found] at gone

/-- What stands under the key of a managed object in a keyed store is missing, as desired or
    drifted, and the write that is pending goes through. -/
theorem pending_cases (keyed : s.Keyed) (owner : Owner) (given : r.key = .ok key) :
    (∃ fs, s.find? key = some (.obj fs) ∧ MetadataOpen fs ∧
        r.differs (.obj fs) (r.desired owner) = .ok false ∧ r.pending owner s = .ok none) ∨
      ∃ request own v, own.same key = true ∧
        StoreKey.ofObject r.kind.kind (.obj (r.base s key)) = .ok own ∧
        r.pending owner s = .ok (some request) ∧
        s.reply request = (.ok v, s.renewed own (r.restored owner (r.base s key))) := by
  cases found : s.find? key with
  | none =>
    obtain ⟨pending, v, written⟩ := pending_of_missing owner given found
    have here : r.base s key = r.bare := by simp only [base, found]
    rw [here]
    exact .inr ⟨_, key, v, StoreKey.same_refl key, r.ofObject_bare.trans given, pending, written⟩
  | some x =>
    obtain ⟨own, isOwn, same⟩ := keyed.ofObject_find? found
    rw [kind_key given] at isOwn
    obtain ⟨fs, _, _, rfl, _⟩ := StoreKey.ofObject_eq_ok.mp isOwn
    rw [base_of_found found]
    rcases pending_of_found owner given found isOwn same with
      ⟨asDesired, pending⟩ | ⟨request, v, pending, written⟩
    · exact .inl ⟨fs, rfl, StoreKey.open_of_ofObject isOwn, asDesired, pending⟩
    · exact .inr ⟨request, own, v, same, isOwn, pending, written⟩

theorem exists_key_of_pending {write : Option Request}
    (pending : r.pending owner s = .ok write) : ∃ key, r.key = .ok key := by
  cases given : r.key with
  | ok key => exact ⟨key, rfl⟩
  | error f =>
    rw [Resource.pending, s.get_of_no_key given, due, StoreKey.of_failure given] at pending
    cases pending

theorem pending_congr (owner : Owner) (same : ∀ key, r.key = .ok key → s.find? key = s'.find? key) :
    r.pending owner s = r.pending owner s' := by
  cases given : r.key with
  | ok key => rw [pending, pending, s.get_of_key given, s'.get_of_key given, same key given]
  | error f => rw [pending, pending, s.get_of_no_key given, s'.get_of_no_key given]

/-- Where no write is pending, the object is there, with metadata that can be written into, and has not
    drifted. -/
theorem found_of_pending (keyed : s.Keyed) (kept : r.pending owner s = .ok none) :
    ∃ fs, s.get r.kind.kind r.name r.space = .ok (.obj fs) ∧ MetadataOpen fs ∧
      r.differs (.obj fs) (r.desired owner) = .ok false := by
  obtain ⟨key, given⟩ := exists_key_of_pending kept
  rcases pending_cases keyed owner given with
    ⟨fs, found, opened, same, _⟩ | ⟨_, _, _, _, _, pending, _⟩
  · exact ⟨fs, by rw [s.get_of_key given, found], opened, same⟩
  · rw [kept] at pending
    cases pending

/-- Where no write is pending, the object is there and as desired. -/
theorem inSync_of_pending (keyed : s.Keyed) (kept : r.pending owner s = .ok none) :
    ∃ observed, s.get r.kind.kind r.name r.space = .ok observed ∧
      r.differs observed (r.desired owner) = .ok false := by
  obtain ⟨fs, found, -, same⟩ := found_of_pending keyed kept
  exact ⟨.obj fs, found, same⟩

/-- An object that could be created was missing. -/
theorem pending_of_created {v : Value}
    (created : s.reply (.create r.kind.kind (r.desired owner)) = (.ok v, s')) :
    r.pending owner s = .ok (some (.create r.kind.kind (r.desired owner))) := by
  cases given : r.key with
  | error f =>
    simp only [Store.reply, Store.create, Store.writeWhole, ofObject_desired, given,
      Prod.mk.injEq] at created
    cases created.1
  | ok key =>
    cases found : s.find? key with
    | none => exact (pending_of_missing owner given found).1
    | some x =>
      simp only [Store.reply, Store.create, Store.writeWhole, ofObject_desired, given, found,
        Option.isSome_some, Bool.true_eq_false, if_false, Prod.mk.injEq] at created
      cases created.1

/-- A restored object is as desired, whatever its stamp. -/
theorem differs_stamped {fs : Fields} {stamp : Value}
    (opened : MetadataOpen (writeAt (r.restored owner fs) Store.stampPath stamp)) :
    r.differs (.obj (writeAt (r.restored owner fs) Store.stampPath stamp)) (r.desired owner) =
      .ok false := by
  apply differs_of_facets opened
  intro p member
  rw [lookup_writeAt_of_apart (r.facets_apart_stamp p member).symm]
  exact r.lookup_restored owner fs p member

/-- What a visit does to a store: nothing, or the write that is pending. -/
inductive Advance (r : Resource) (owner : Owner) (s : Store) : Option Request → Store → Prop
  | rest : Advance r owner s none s
  | write {request v s'} (pending : r.pending owner s = .ok (some request))
      (sent : s.reply request = (.ok v, s')) : Advance r owner s (some request) s'

/-- A write that went through has restored the object. -/
theorem renewed_of_pending {request : Request} {v : Value} (keyed : s.Keyed)
    (pending : r.pending owner s = .ok (some request)) (sent : s.reply request = (.ok v, s')) :
    ∃ key own, r.key = .ok key ∧ own.same key = true ∧
      StoreKey.ofObject r.kind.kind (.obj (r.base s key)) = .ok own ∧
      s' = s.renewed own (r.restored owner (r.base s key)) := by
  obtain ⟨key, given⟩ := exists_key_of_pending pending
  rcases pending_cases keyed owner given with
    ⟨_, _, _, _, kept⟩ | ⟨request', own, v', same, isOwn, isPending, written⟩
  · rw [pending] at kept
    cases kept
  · obtain rfl : request = request' := by simpa [pending] using isPending
    rw [sent] at written
    exact ⟨key, own, given, same, isOwn, (Prod.mk.inj written).2⟩

namespace Advance

variable {wrote : Option Request}

theorem keyed (advance : r.Advance owner s wrote s') (keyed : s.Keyed) : s'.Keyed := by
  cases advance with
  | rest => exact keyed
  | write pending sent =>
    obtain ⟨key, own, _, _, isOwn, rfl⟩ := renewed_of_pending keyed pending sent
    exact keyed.renewed (r.ofObject_restored owner isOwn)

/-- Under other keys nothing changes. -/
theorem find?_of_not_at (advance : r.Advance owner s wrote s') (keyed : s.Keyed)
    (elsewhere : ¬ r.At key) : s'.find? key = s.find? key := by
  cases advance with
  | rest => rfl
  | write pending sent =>
    obtain ⟨key', own, given, same, _, rfl⟩ := renewed_of_pending keyed pending sent
    have other : ¬ own.same key = true := by
      intro here
      exact elsewhere ⟨key', given, StoreKey.same_trans (StoreKey.same_symm same) here⟩
    rw [Store.find?_renewed, if_neg other]

/-- Under the key of the object stands what was there, or the restored object. -/
theorem find?_at (advance : r.Advance owner s wrote s') (keyed : s.Keyed) (here : r.At key) :
    s'.find? key = s.find? key ∨ ∃ stamp, s'.find? key =
      some (.obj (writeAt (r.restored owner (r.base s key)) Store.stampPath stamp)) := by
  cases advance with
  | rest => exact .inl rfl
  | write pending sent =>
    obtain ⟨key', own, given, same, _, rfl⟩ := renewed_of_pending keyed pending sent
    obtain ⟨key'', given', same'⟩ := here
    obtain rfl : key' = key'' := Except.ok.inj (given.symm.trans given')
    rw [Store.find?_renewed, if_pos (StoreKey.same_trans same same'), r.base_congr s same']
    exact .inr ⟨_, rfl⟩

/-- After a write none is pending. -/
theorem settled {request : Request} (advance : r.Advance owner s (some request) s')
    (keyed : s.Keyed) : r.pending owner s' = .ok none := by
  cases advance with
  | write pending sent =>
    obtain ⟨key, own, given, same, isOwn, rfl⟩ := renewed_of_pending keyed pending sent
    have opened : MetadataOpen (writeAt (r.restored owner (r.base s key)) Store.stampPath
        (.str (toString (s.version + 1)))) :=
      StoreKey.open_of_ofObject (StoreKey.ofObject_writeAt (r.ofObject_restored owner isOwn)
        (by simp [Store.stampPath, Apart]) (by simp [Store.stampPath, Apart]) _)
    rw [Resource.pending, Store.get_of_key _ given, Store.find?_renewed, if_pos same]
    simp only [due, differs_stamped opened]
    rfl

theorem pending_of_kind (advance : r.Advance owner s wrote s') (keyed : s.Keyed)
    (other : r'.kind ≠ r.kind) (owner' : Owner) : r'.pending owner' s' = r'.pending owner' s := by
  apply pending_congr
  intro key given
  apply advance.find?_of_not_at keyed
  intro here
  exact other (ManagedKind.kind_injective ((kind_key given).symm.trans here.kind))

end Advance

end Resource

end MonitoringUpkeep
