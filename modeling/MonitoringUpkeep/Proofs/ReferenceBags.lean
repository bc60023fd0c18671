import MonitoringUpkeep.Proofs.PathFrame
import MonitoringUpkeep.Proofs.References

/-!
# References as bags

Whether the references in a status are written anew depends on nothing but the bag of their tags: the API
version, kind, namespace and name of each entry. Order and further fields do not count, but an entry that
stands there twice does. What is written are the references to the managed objects in their order, all
else stays, and a second update finds nothing to do.
-/

namespace MonitoringUpkeep

namespace Projection
open Value Fields

/-! ## Entries and their tags -/

/-- A text, or nothing. -/
def Textual (v : Value) : Prop := v = .null ∨ ∃ s, v = .str s

/-- The fields by which an entry is told apart from others. -/
structure Tag where
  apiVersion : Value
  kind : Value
  space : Value
  name : Value

def tag (entry : Value) : Tag where
  apiVersion := entry.lookup ["apiVersion"]
  kind := entry.lookup ["kind"]
  space := entry.lookup ["namespace"]
  name := entry.lookup ["name"]

/-- An object whose fields of the tag are texts or absent. -/
structure Tagged (entry : Value) : Prop where
  object : ∃ fs, entry = .obj fs
  textual : ∀ key ∈ ["apiVersion", "kind", "namespace", "name"], Textual (entry.lookup [key])

theorem Textual.plain {v : Value} (textual : Textual v) : Plain v := by
  obtain rfl | ⟨s, rfl⟩ := textual <;> simp [Plain]

theorem Tagged.comparable {entry : Value} (tagged : Tagged entry) : Comparable entry :=
  ⟨tagged.object, fun key member => (tagged.textual key member).plain⟩

/-- The text that a meaning comes from, if it comes from one. -/
def textOf : Meaning → Value
  | .text s => .str s
  | _ => .null

theorem Textual.textOf_meaning {v : Value} (textual : Textual v) : textOf v.meaning = v := by
  obtain rfl | ⟨s, rfl⟩ := textual <;> rfl

theorem Tagged.tag_eq {entry : Value} (tagged : Tagged entry) : tag entry =
    ⟨textOf (mark entry).apiVersion, textOf (mark entry).kind, textOf (mark entry).space,
      textOf (mark entry).name⟩ := by
  have textual := tagged.textual
  simp only [List.forall_mem_cons] at textual
  obtain ⟨apiVersion, kind, space, name, -⟩ := textual
  simp only [mark, apiVersion.textOf_meaning, kind.textOf_meaning, space.textOf_meaning,
    name.textOf_meaning, tag]

/-- Of tagged entries the bag of tags tells as much as the bag of marks. -/
theorem perm_mark_iff {es es' : List Value} (tagged : ∀ e ∈ es, Tagged e)
    (tagged' : ∀ e ∈ es', Tagged e) :
    (es.map mark).Perm (es'.map mark) ↔ (es.map tag).Perm (es'.map tag) := by
  constructor
  · intro same
    have back := same.map fun i : Identity =>
      (⟨textOf i.apiVersion, textOf i.kind, textOf i.space, textOf i.name⟩ : Tag)
    rw [List.map_map, List.map_map] at back
    rwa [List.map_congr_left fun e member => (tagged e member).tag_eq,
      List.map_congr_left fun e member => (tagged' e member).tag_eq]
  · intro same
    have forth := same.map fun t : Tag =>
      (⟨t.apiVersion.meaning, t.kind.meaning, t.space.meaning, t.name.meaning⟩ : Identity)
    rwa [List.map_map, List.map_map] at forth

/-- A managed object whose name and namespace are texts. -/
structure Named (r : Resource) : Prop where
  name : ∃ s, r.name = .str s
  space : ∃ s, r.space = .str s

theorem Named.tagged {r : Resource} (named : Named r) : Tagged r.reference := by
  obtain ⟨⟨name, isName⟩, ⟨space, isSpace⟩⟩ := named
  refine ⟨⟨_, rfl⟩, ?_⟩
  simp [Textual, lookup, Resource.reference, getD, get?, isName, isSpace]

/-! ## The objects that are updated -/

/-- A part that does not count as given, or an object. -/
def Loose (v : Value) : Prop := v.isBlank = true ∨ ∃ fs, v = .obj fs

/-- An object whose status can be updated: metadata and status are objects, the references a list of
    tagged entries, and any of them may not count as given. -/
structure Presentable (v : Value) : Prop where
  object : ∃ fs, v = .obj fs
  metadata : Loose (v.lookup ["metadata"])
  status : Loose (v.lookup ["status"])
  listed : (v.lookup referencesPath).isBlank = true ∨
    ∃ entries, v.lookup referencesPath = .arr entries ∧ ∀ e ∈ entries, Tagged e

/-- The entries that stand in the status of an object. -/
def stored (v : Value) : List Value :=
  match v.lookup referencesPath with
  | .arr entries => entries
  | _ => []

theorem Loose.orElse {v : Value} (loose : Loose v) : ∃ fs, v.orElse (.obj []) = .obj fs ∧
    ∀ key, getD fs key = v.lookup [key] := by
  rcases loose with blank | ⟨fs, rfl⟩
  · refine ⟨[], by simp [Value.orElse, blank], fun key => ?_⟩
    cases v with
    | obj fs =>
      obtain rfl : fs = [] := by simpa [isBlank] using blank
      rfl
    | _ => rfl
  · exact ⟨fs, by cases fs <;> rfl, fun key => rfl⟩

theorem Presentable.tagged {v : Value} (presentable : Presentable v) : ∀ e ∈ stored v, Tagged e := by
  rcases presentable.listed with blank | ⟨entries, stand, tagged⟩
  · intro e member
    unfold stored at member
    split at member
    · rename_i entries stand
      obtain rfl : entries = [] := by simpa [stand, isBlank] using blank
      cases member
    · cases member
  · simpa only [stored, stand] using tagged

/-- The entries that stand there are those that are read. -/
theorem Presentable.references {v : Value} (presentable : Presentable v) :
    Projection.references v = .ok (stored v) := by
  obtain ⟨fs, rfl⟩ := presentable.object
  obtain ⟨ss, status, inside⟩ := presentable.status.orElse
  have listed : getD ss "relatedObjects" = (Value.obj fs).lookup referencesPath :=
    inside "relatedObjects"
  simp only [Projection.references, bind_ok_iff, member_ok_iff]
  refine ⟨_, ⟨fs, rfl, rfl⟩, _, ⟨ss, status, listed⟩, ?_⟩
  rcases presentable.listed with blank | ⟨entries, stand, -⟩
  · rw [Value.orElse, if_pos blank, stored]
    split
    · rename_i entries stand
      obtain rfl : entries = [] := by simpa [stand, isBlank] using blank
      rfl
    · rfl
  · have itself : (Value.arr entries).orElse (.arr []) = .arr entries := by cases entries <;> rfl
    rw [stored, stand, itself]
    rfl

theorem stored_of_lookup {v : Value} {entries : List Value}
    (stand : v.lookup referencesPath = .arr entries) : stored v = entries := by
  simp only [stored, stand]

/-- The name in the notice is read from metadata that are an object or do not count as given. -/
theorem notice_loose {fs : Fields} (loose : Loose ((Value.obj fs).lookup ["metadata"])) (n : Nat) :
    ∃ message, notice (.obj fs) n = .ok message := by
  obtain ⟨ms, metadata, -⟩ := loose.orElse
  have read : (Value.obj fs).metadata = .ok (.obj ms) :=
    congrArg Except.ok metadata
  simp only [notice, read]
  exact ⟨_, rfl⟩

/-! ## Updates -/

/-- The entries in a status and the references to given managed objects are one bag of tags. -/
def Agree (rs : List Resource) (v : Value) : Prop :=
  ((stored v).map tag).Perm (rs.map fun r => tag r.reference)

/-- One list of entries is a rearrangement of another one: in another order, and with any changes of
    fields that are not in the tag. -/
def Rearranges (es es' : List Value) : Prop :=
  ∃ ordered, es.Perm ordered ∧ List.Forall₂ (fun e e' => tag e = tag e') ordered es'

theorem Rearranges.perm {es es' : List Value} (rearranged : Rearranges es es') :
    (es.map tag).Perm (es'.map tag) := by
  obtain ⟨ordered, permuted, changed⟩ := rearranged
  have same : ordered.map tag = es'.map tag := by
    induction changed generalizing es with
    | nil => rfl
    | cons first _ ih => rw [List.map_cons, List.map_cons, first, ih (.refl _)]
  exact same ▸ permuted.map tag

section Updates

variable {rs : List Resource}

theorem agree_of_listed {v : Value}
    (stand : v.lookup referencesPath = .arr (rs.map Resource.reference)) : Agree rs v := by
  rw [Agree, stored_of_lookup stand, List.map_map]
  exact .refl _

/-- After an update there is nothing left to do. -/
theorem projected_again {q q' : StatusRequest} (outcome : q.projected rs = .ok q') :
    q'.projected rs = .ok q' := by
  obtain ⟨update, compared, rest⟩ := bind_ok_iff.mp outcome
  cases update with
  | none =>
    cases pure_ok_iff.mp rest
    exact outcome
  | some v =>
    cases pure_ok_iff.mp rest
    simp only [StatusRequest.projected, update?_idempotent compared]
    rfl

variable (named : ∀ r ∈ rs, Named r)
include named

/-- An update compares bags of tags: it finds nothing to do, or writes the references anew. -/
theorem update?_cases {v : Value} (presentable : Presentable v) :
    (Agree rs v ∧ update? rs v = .ok none) ∨
      (¬ Agree rs v ∧ ∃ fs, v = .obj fs ∧ update? rs v =
        .ok (some (.obj (writeAt fs referencesPath (.arr (rs.map Resource.reference)))))) := by
  have wanted : ∀ e ∈ rs.map Resource.reference, Tagged e :=
    List.forall_mem_map.mpr fun r member => (named r member).tagged
  have bags : ((stored v).map mark).Perm (rs.map fun r => mark r.reference) ↔ Agree rs v := by
    have same := perm_mark_iff presentable.tagged wanted
    rwa [List.map_map, List.map_map] at same
  have comparable : ∀ e ∈ stored v, Comparable e :=
    fun e member => (presentable.tagged e member).comparable
  have given : ∀ r ∈ rs, Comparable r.reference :=
    fun r member => (named r member).tagged.comparable
  by_cases agree : Agree rs v
  · refine .inl ⟨agree, update?_ok_iff.mpr ⟨_, presentable.references, comparable, given, ?_⟩⟩
    rw [if_pos (bags.mpr agree)]
  · obtain ⟨fs, rfl⟩ := presentable.object
    refine .inr ⟨agree, fs, rfl, update?_ok_iff.mpr
      ⟨_, presentable.references, comparable, given, ?_⟩⟩
    rw [if_neg (mt bags.mp agree)]
    exact ⟨_, withReferences_ok_iff.mpr ⟨fs, rfl, rfl⟩, rfl⟩

theorem projected_of_agree {q : StatusRequest} (presentable : Presentable q.object)
    (agree : Agree rs q.object) : q.projected rs = .ok q := by
  rcases update?_cases named presentable with ⟨-, nothing⟩ | ⟨differ, -⟩
  · simp only [StatusRequest.projected, nothing]
    rfl
  · exact absurd agree differ

theorem projected_of_differ {q : StatusRequest} (presentable : Presentable q.object)
    (differ : ¬ Agree rs q.object) : ∃ fs, q.object = .obj fs ∧ q.projected rs =
      .ok ⟨.obj (writeAt fs referencesPath (.arr (rs.map Resource.reference))), true⟩ := by
  rcases update?_cases named presentable with ⟨agree, -⟩ | ⟨-, fs, same, written⟩
  · exact absurd agree differ
  · refine ⟨fs, same, ?_⟩
    simp only [StatusRequest.projected, written]
    rfl

/-- A request is left as it is exactly where the bags agree. -/
theorem projected_eq_self_iff {q : StatusRequest} (presentable : Presentable q.object) :
    q.projected rs = .ok q ↔ Agree rs q.object := by
  refine ⟨fun kept => ?_, projected_of_agree named presentable⟩
  by_contra differ
  obtain ⟨fs, -, written⟩ := projected_of_differ named presentable differ
  have same := Except.ok.inj (kept.symm.trans written)
  have stand := lookup_writeAt_self fs (by decide : referencesPath ≠ []) (.arr (rs.map Resource.reference))
  refine differ (agree_of_listed ?_)
  rw [same]
  exact stand

end Updates

/-- What an update of the references makes of a request. -/
structure Revises (rs : List Resource) (q q' : StatusRequest) : Prop where
  outcome : q.projected rs = .ok q'
  /-- where the bags of tags agree, the request is left exactly as it was -/
  kept : Agree rs q.object → q' = q
  /-- where they differ, it is marked -/
  marked : ¬ Agree rs q.object → q'.dirty = true
  /-- and the references are listed in the order of the managed objects -/
  listed : ¬ Agree rs q.object →
    q'.object.lookup referencesPath = .arr (rs.map Resource.reference)
  /-- every other field of the status and of the object stays as it was, and none is added -/
  spared : ∀ path, Apart referencesPath path → seek? path q'.object = seek? path q.object
  /-- the change can be told -/
  announced : ¬ Agree rs q.object → ∀ {ω : Type} (w : ω),
    (announce rs q'.object w).ending = .done ()
  /-- a second update changes nothing -/
  again : q'.projected rs = .ok q'
  /-- neither the order nor other fields of the entries count -/
  rearranged : ∀ p : StatusRequest, Presentable p.object →
    Rearranges (stored q.object) (stored p.object) →
    (p.projected rs = .ok p ↔ q.projected rs = .ok q)
  /-- an entry that stands there once more does -/
  repeated : Agree rs q.object → ∀ p : StatusRequest, Presentable p.object →
    ∀ e ∈ stored q.object, (stored p.object).Perm (e :: stored q.object) →
    p.projected rs ≠ .ok p

/-- An update writes the references anew exactly where the entries that stand there are another bag of
    tags than the references to the managed objects, and else changes nothing. -/
theorem projected_revises (rs : List Resource) (named : ∀ r ∈ rs, Named r) (q : StatusRequest)
    (presentable : Presentable q.object) : ∃ q', Revises rs q q' := by
  have rearranged : ∀ p : StatusRequest, Presentable p.object →
      Rearranges (stored q.object) (stored p.object) →
      (p.projected rs = .ok p ↔ q.projected rs = .ok q) := by
    intro p shown changed
    rw [projected_eq_self_iff named shown, projected_eq_self_iff named presentable]
    exact ⟨changed.perm.trans, changed.perm.symm.trans⟩
  have repeated : Agree rs q.object → ∀ p : StatusRequest, Presentable p.object →
      ∀ e ∈ stored q.object, (stored p.object).Perm (e :: stored q.object) →
      p.projected rs ≠ .ok p := by
    intro agree p shown e _ more kept
    have again := (projected_eq_self_iff named shown).mp kept
    -- The two bags would have one size, although one has an entry more.
    have longer := (again.symm.trans (more.map tag)).length_eq
    have equal := agree.length_eq
    simp only [List.length_map, List.length_cons] at longer equal
    omega
  by_cases agree : Agree rs q.object
  · have outcome := projected_of_agree named presentable agree
    exact ⟨q, {
      outcome
      kept := fun _ => rfl
      marked := absurd agree
      listed := absurd agree
      spared := fun _ _ => rfl
      announced := absurd agree
      again := projected_again outcome
      rearranged
      repeated }⟩
  · obtain ⟨fs, same, outcome⟩ := projected_of_differ named presentable agree
    have stand := lookup_writeAt_self fs (by decide : referencesPath ≠ [])
      (.arr (rs.map Resource.reference))
    refine ⟨_, {
      outcome
      kept := fun same => absurd same agree
      marked := fun _ => rfl
      listed := fun _ => stand
      spared := ?_
      announced := ?_
      again := projected_again outcome
      rearranged
      repeated }⟩
    · intro path apart
      rw [same]
      exact seek?_writeAt_of_apart apart fs _
    · intro _ ω w
      have untouched : Apart referencesPath ["metadata"] := by simp [referencesPath, Apart]
      have metadata := presentable.metadata
      rw [same, ← lookup_writeAt_of_apart untouched fs (.arr (rs.map Resource.reference))] at metadata
      obtain ⟨message, worded⟩ := notice_loose metadata rs.length
      simp only [announce, worded]
      rfl

/-- A status that refers twice to one managed object, beside null metadata. -/
theorem projected_revises_doubled :
    let rs := Settings.resources { space := "kubevirt" }
    let entry : Value := .obj [
      ("apiVersion", "v1"), ("kind", "Service"), ("namespace", "kubevirt"),
      ("name", "kubevirt-hyperconverged-operator-metrics"), ("uid", "1")]
    let q : StatusRequest := ⟨.obj [("metadata", .null),
      ("status", .obj [("phase", "Ready"), ("relatedObjects", .arr [entry, entry])])], false⟩
    (∀ r ∈ rs, Named r) ∧ Presentable q.object ∧ ∃ q', Revises rs q q' := by
  intro rs entry q
  have named : ∀ r ∈ rs, Named r := by
    intro r member
    obtain ⟨kind, -, rfl⟩ := List.mem_map.mp member
    exact ⟨by cases kind <;> exact ⟨_, rfl⟩, ⟨_, rfl⟩⟩
  have tagged : Tagged entry := ⟨⟨_, rfl⟩, by simp [Textual, entry, lookup, getD, get?]⟩
  have presentable : Presentable q.object := {
    object := ⟨_, rfl⟩
    metadata := .inl rfl
    status := .inr ⟨_, rfl⟩
    listed := .inr ⟨_, rfl, by simp [tagged]⟩ }
  exact ⟨named, presentable, projected_revises rs named q presentable⟩

end Projection

end MonitoringUpkeep
