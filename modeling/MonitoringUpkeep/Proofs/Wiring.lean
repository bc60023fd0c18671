import MonitoringUpkeep.Proofs.Serving

/-!
# Managed objects that refer to each other

The managed objects are written one by one, and some of them are left as they were found. Even so they
fit together after every pass that ends well: the monitor selects the service and scrapes ports that it
has, the binding grants the role that stands beside it, and all of them carry the same labels and the
same owner. What an object says about another one lies at facets, so that it is as desired however the
object came to be there, and the desired objects fit together under all settings.
-/

namespace MonitoringUpkeep

namespace StoreKey
open Value

theorem checkPart_congr {v w : Value} (same : v.meaning = w.meaning) (plain : checkPart v = .ok ()) :
    checkPart w = .ok () := by
  cases w with
  | arr items =>
    obtain ⟨vs, rfl, -⟩ := exists_arr_of_meaning same
    cases plain
  | obj fs =>
    obtain ⟨gs, rfl⟩ := exists_obj_of_meaning same
    cases plain
  | _ => rfl

/-- Names and namespaces that mean the same give the same key. -/
theorem of_congr {kind : Kind} {name space name' space' : Value} {key : StoreKey}
    (names : name.meaning = name'.meaning)
    (spaces : (space.orElse .null).meaning = (space'.orElse .null).meaning)
    (given : of kind name space = .ok key) :
    ∃ key', of kind name' space' = .ok key' ∧ key.same key' = true := by
  obtain ⟨space_plain, name_plain, rfl⟩ := of_eq_ok.mp given
  refine ⟨⟨kind, space'.orElse .null, name'⟩, of_eq_ok.mpr ⟨?_, ?_, rfl⟩, ?_⟩
  · exact checkPart_congr spaces space_plain
  · exact checkPart_congr names name_plain
  · exact same_iff.mpr ⟨rfl, spaces, names⟩

end StoreKey

namespace Store
open Value

/-- An object is found under any name and namespace that mean the same. -/
theorem get_congr {s : Store} {kind : Kind} {name space name' space' v : Value}
    (names : name.meaning = name'.meaning)
    (spaces : (space.orElse .null).meaning = (space'.orElse .null).meaning)
    (found : s.get kind name space = .ok v) : s.get kind name' space' = .ok v := by
  cases given : StoreKey.of kind name space with
  | error f =>
    rw [s.get_of_no_key given] at found
    cases found
  | ok key =>
    obtain ⟨key', given', same⟩ := StoreKey.of_congr names spaces given
    rw [s.get_of_key given] at found
    rw [s.get_of_key given', ← s.find?_congr same]
    exact found

/-- What is found in a keyed store says itself under which name and namespace. -/
theorem Keyed.names {s : Store} (keyed : s.Keyed) {kind : Kind} {name space v : Value}
    (found : s.get kind name space = .ok v) :
    (v.lookup ["metadata", "name"]).meaning = name.meaning ∧
      ((v.lookup ["metadata", "namespace"]).orElse .null).meaning = (space.orElse .null).meaning := by
  cases given : StoreKey.of kind name space with
  | error f =>
    rw [s.get_of_no_key given] at found
    cases found
  | ok key =>
    rw [s.get_of_key given] at found
    cases there : s.find? key with
    | none =>
      rw [there] at found
      cases found
    | some u =>
      rw [there] at found
      obtain rfl : u = v := Except.ok.inj found
      obtain ⟨own, isOwn, same⟩ := keyed.ofObject_find? there
      obtain ⟨fs, ms, n, rfl, metadata, named, ownGiven⟩ := StoreKey.ofObject_eq_ok.mp isOwn
      obtain ⟨-, -, rfl⟩ := StoreKey.of_eq_ok.mp given
      obtain ⟨-, -, rfl⟩ := StoreKey.of_eq_ok.mp ownGiven
      obtain ⟨-, spaces, names⟩ := StoreKey.same_iff.mp same
      simp only [lookup, Fields.getD, metadata, named, Option.getD_some] at spaces ⊢
      exact ⟨names, spaces⟩

end Store

/-- Labels satisfy a selector: each one that it asks for is there, with the value that it asks for. -/
def Selects (selector labels : Value) : Prop := ∃ wanted carried,
  selector = .obj wanted ∧ labels = .obj carried ∧
    ∀ key v, Fields.get? wanted key = some v →
      ∃ u, Fields.get? carried key = some u ∧ u.meaning = v.meaning

/-- There are endpoints, and each is at a port of a name that is among the given ports. -/
def Scrapes (endpoints ports : Value) : Prop := ∃ es ps,
  endpoints = .arr es ∧ ports = .arr ps ∧ es ≠ [] ∧
    ∀ e ∈ es, ∃ p ∈ ps, (p.lookup ["name"]).meaning = (e.lookup ["port"]).meaning

/-- The managed objects of a store fit together. -/
structure Wired (settings : Settings) (owner : Owner) (s : Store) (stored : ManagedKind → Value) :
    Prop where
  found : ∀ kind,
    s.get kind.kind (Resource.name ⟨kind, settings⟩) settings.space = .ok (stored kind)
  /-- each is found under its own name in the namespace that any other one gives as its own -/
  neighbours : ∀ kind other, s.get kind.kind ((stored kind).lookup ["metadata", "name"])
    ((stored other).lookup ["metadata", "namespace"]) = .ok (stored kind)
  selects : Selects ((stored .serviceMonitor).lookup ["spec", "selector", "matchLabels"])
    ((stored .service).lookup ["metadata", "labels"])
  scrapes : Scrapes ((stored .serviceMonitor).lookup ["spec", "endpoints"])
    ((stored .service).lookup ["spec", "ports"])
  /-- the binding refers to a role, which is the one of that name in its own namespace -/
  grants : (stored .roleBinding).lookup ["roleRef", "kind"] = .str Kind.role.name ∧
    s.get .role ((stored .roleBinding).lookup ["roleRef", "name"])
      ((stored .roleBinding).lookup ["metadata", "namespace"]) = .ok (stored .role)
  labels : ∀ kind other,
    (stored kind).lookup ["metadata", "labels"] ≈ (stored other).lookup ["metadata", "labels"]
  labelled : ∀ kind, (stored kind).lookup ["metadata", "labels"] ≈ settings.labels
  owners : ∀ kind other, (stored kind).lookup ["metadata", "ownerReferences"] ≈
    (stored other).lookup ["metadata", "ownerReferences"]
  /-- the owner is the only one -/
  owned : ∀ kind, ∃ reference,
    (stored kind).lookup ["metadata", "ownerReferences"] = .arr [reference] ∧
    reference ≈ owner.reference

/-- A selector and labels that both mean one object fit. -/
theorem Selects.of_meaning {selector labels : Value} {fs : Fields}
    (asks : selector.meaning = (Value.obj fs).meaning)
    (carries : labels.meaning = (Value.obj fs).meaning) : Selects selector labels := by
  obtain ⟨ws, rfl⟩ := Value.exists_obj_of_meaning asks
  obtain ⟨cs, rfl⟩ := Value.exists_obj_of_meaning carries
  refine ⟨ws, cs, rfl, rfl, fun key v asked => ?_⟩
  have same : Value.fieldMeanings ws = Value.fieldMeanings cs := by
    simpa [Value.meaning] using asks.trans carries.symm
  have read := Fields.field?_fieldMeanings cs key
  rw [← same, Fields.field?_fieldMeanings ws key, asked, Option.map_some] at read
  obtain ⟨u, carried, equal⟩ := Option.map_eq_some_iff.mp read.symm
  exact ⟨u, carried, equal⟩

namespace Settings
open Value Fields

variable {settings : Settings} {owner : Owner} {stored : ManagedKind → Value}

/-- Every managed object has its facets as desired. -/
def InSync (settings : Settings) (owner : Owner) (stored : ManagedKind → Value) : Prop :=
  ∀ kind, ∀ p ∈ Resource.facets ⟨kind, settings⟩,
    (stored kind).lookup p ≈ (Resource.desired ⟨kind, settings⟩ owner).lookup p

namespace InSync

/-- What lies below a facet means the same as in the desired object. -/
theorem below (inSync : settings.InSync owner stored) {kind : ManagedKind} {p : List String}
    (facet : p ∈ Resource.facets ⟨kind, settings⟩) (rest : List String) :
    ((stored kind).lookup (p ++ rest)).meaning =
      ((Resource.desired ⟨kind, settings⟩ owner).lookup (p ++ rest)).meaning := by
  rw [lookup_append, lookup_append]
  exact meaning_lookup_congr (inSync kind p facet).1 rest

theorem labels (inSync : settings.InSync owner stored) (kind : ManagedKind) :
    (stored kind).lookup ["metadata", "labels"] ≈ settings.labels := by
  have facet := inSync kind ["metadata", "labels"] (by simp [Resource.facets])
  rwa [Resource.lookup_desired_labels] at facet

theorem owners (inSync : settings.InSync owner stored) (kind : ManagedKind) :
    (stored kind).lookup ["metadata", "ownerReferences"] ≈ .arr [owner.reference] := by
  have facet := inSync kind ["metadata", "ownerReferences"] (by simp [Resource.facets])
  rwa [Resource.lookup_desired_owners] at facet

/-- The monitor selects the labels that the service carries. -/
theorem selects (inSync : settings.InSync owner stored) :
    Selects ((stored .serviceMonitor).lookup ["spec", "selector", "matchLabels"])
      ((stored .service).lookup ["metadata", "labels"]) := by
  have facet : ["spec"] ∈ Resource.facets ⟨.serviceMonitor, settings⟩ := by
    simp [Resource.facets, Resource.ownedPaths]
  have asks := inSync.below facet ["selector", "matchLabels"]
  have wanted : (Resource.desired ⟨.serviceMonitor, settings⟩ owner).lookup
      (["spec"] ++ ["selector", "matchLabels"]) = settings.labels := by
    simp [Resource.desired, Resource.payload, lookup, getD, get?]
  rw [wanted] at asks
  exact .of_meaning asks (inSync.labels .service).1

/-- The monitor scrapes the port that the service has. -/
theorem scrapes (inSync : settings.InSync owner stored) :
    Scrapes ((stored .serviceMonitor).lookup ["spec", "endpoints"])
      ((stored .service).lookup ["spec", "ports"]) := by
  have spec : ["spec"] ∈ Resource.facets ⟨.serviceMonitor, settings⟩ := by
    simp [Resource.facets, Resource.ownedPaths]
  have ports : ["spec", "ports"] ∈ Resource.facets ⟨.service, settings⟩ := by
    simp [Resource.facets, Resource.ownedPaths]
  have scraped := inSync.below spec ["endpoints"]
  have offered := inSync.below ports []
  have monitor : (Resource.desired ⟨.serviceMonitor, settings⟩ owner).lookup
      (["spec"] ++ ["endpoints"]) = .arr [.obj [("port", settings.portName)]] := by
    simp [Resource.desired, Resource.payload, lookup, getD, get?]
  have service : (Resource.desired ⟨.service, settings⟩ owner).lookup (["spec", "ports"] ++ []) =
      .arr [.obj [("name", settings.portName), ("port", settings.metricsPort), ("protocol", "TCP"),
        ("targetPort", settings.metricsPort)]] := by
    simp [Resource.desired, Resource.payload, lookup, getD, get?]
  rw [monitor] at scraped
  rw [service] at offered
  obtain ⟨e, isEndpoint, sameEndpoint⟩ := exists_single scraped
  obtain ⟨p, isPort, samePort⟩ := exists_single offered
  refine ⟨[e], [p], isEndpoint, isPort, List.cons_ne_nil _ _, List.forall_mem_singleton.mpr ?_⟩
  refine ⟨p, List.mem_singleton_self p, ?_⟩
  rw [meaning_lookup_congr samePort, meaning_lookup_congr sameEndpoint]
  rfl

/-- The binding refers to the role by its kind and its name. -/
theorem grants (inSync : settings.InSync owner stored) :
    (stored .roleBinding).lookup ["roleRef", "kind"] = .str Kind.role.name ∧
      ((stored .roleBinding).lookup ["roleRef", "name"]).meaning = settings.roleName.meaning := by
  have facet : ["roleRef"] ∈ Resource.facets ⟨.roleBinding, settings⟩ := by
    simp [Resource.facets, Resource.ownedPaths]
  have kind := inSync.below facet ["kind"]
  have name := inSync.below facet ["name"]
  have desired (key : String) : (Resource.desired ⟨.roleBinding, settings⟩ owner).lookup
      (["roleRef"] ++ [key]) = (Value.obj [("apiGroup", "rbac.authorization.k8s.io"),
        ("kind", Kind.role.name), ("name", settings.roleName)]).lookup [key] := by
    simp [Resource.desired, Resource.payload, lookup, getD, get?]
  rw [desired] at kind name
  exact ⟨eq_str_of_meaning kind, name⟩

/-- Objects that are found in a keyed store with their facets as desired fit together. -/
theorem wired (inSync : settings.InSync owner stored) {s : Store} (keyed : s.Keyed)
    (found : ∀ kind,
      s.get kind.kind (Resource.name ⟨kind, settings⟩) settings.space = .ok (stored kind)) :
    Wired settings owner s stored := by
  have own (kind : ManagedKind) := keyed.names (found kind)
  refine {
    found
    neighbours := fun kind other => Store.get_congr (own kind).1.symm (own other).2.symm (found kind)
    selects := inSync.selects
    scrapes := inSync.scrapes
    grants := ⟨inSync.grants.1, ?_⟩
    labels := fun kind other => (inSync.labels kind).trans (inSync.labels other).symm
    labelled := inSync.labels
    owners := fun kind other => (inSync.owners kind).trans (inSync.owners other).symm
    owned := ?_ }
  · exact Store.get_congr inSync.grants.2.symm (own .roleBinding).2.symm (found .role)
  · intro kind
    obtain ⟨reference, single, same⟩ := exists_single (inSync.owners kind).1
    refine ⟨reference, single, same, ?_⟩
    rw [same]
    simp [Owner.reference, meaning]

end InSync

end Settings

namespace Pass
open Value

variable {ω : Type} {env : Environment ω} {store : ω → Store}

/-- After a pass that ends well the managed objects fit together, whichever of them were missing, drifted
    or left alone. -/
theorem run_wires (falters : env.Falters store) (settings : Settings) (recorder : Recorder) (w : ω)
    (keyed : (store w).Keyed) (done : (run env recorder settings.resources w).ending = .done ()) :
    ∃ stored, Wired settings recorder.owner
      (store (run env recorder settings.resources w).world) stored := by
  have walk := run_walk env recorder settings.resources w
  have keyed' := (walk.frame falters keyed).1
  have kept := walk.settled falters settings.distinct_kinds keyed done
  have each (kind : ManagedKind) : ∃ observed,
      (store (run env recorder settings.resources w).world).get kind.kind
        (Resource.name ⟨kind, settings⟩) settings.space = .ok observed ∧
      ∀ p ∈ Resource.facets ⟨kind, settings⟩,
        observed.lookup p ≈ (Resource.desired ⟨kind, settings⟩ recorder.owner).lookup p := by
    have member : (⟨kind, settings⟩ : Resource) ∈ settings.resources :=
      List.mem_map.mpr ⟨kind, by cases kind <;> decide, rfl⟩
    obtain ⟨fs, found, opened, same⟩ := Resource.found_of_pending keyed' (kept _ member)
    exact ⟨.obj fs, found, Resource.agree_of_not_differs opened same⟩
  choose stored found inSync using each
  exact ⟨stored, Settings.InSync.wired inSync keyed' found⟩

/-- A store with a role from which the rules were taken, and a service that is as desired and has got an
    address from the cluster. -/
def mixed (settings : Settings) (owner : Owner) : Store where
  entries := Store.tampered.entries ++ [
    (⟨.service, "kubevirt", "kubevirt-hyperconverged-operator-metrics"⟩,
      .obj (Resource.restored ⟨.service, settings⟩ owner [
        ("metadata", .obj [
          ("name", "kubevirt-hyperconverged-operator-metrics"), ("namespace", "kubevirt")]),
        ("spec", .obj [("clusterIP", "10.0.0.7")])]))]

theorem run_wires_mixed :
    let settings : Settings := { space := "kubevirt" }
    let recorder : Recorder := { owner := { name := "hco-operator", space := "kubevirt", uid := "1" } }
    let env := Store.environment fun _ => none
    let start := mixed settings recorder.owner
    env.Falters Prod.snd ∧ start.Keyed ∧
      (run env recorder settings.resources (0, start)).ending = .done () ∧
      ∃ stored, Wired settings recorder.owner
        (run env recorder settings.resources (0, start)).world.2 stored := by
  intro settings recorder env start
  have serves : env.Serves Prod.snd := Store.environment_serves
  have keyed : start.Keyed := by
    intro e member
    rcases List.mem_append.mp member with role | service
    · exact Store.tampered_keyed e role
    · obtain rfl := List.mem_singleton.mp service
      exact ⟨_, rfl, StoreKey.same_refl _⟩
  have keys : ∀ r ∈ settings.resources, ∃ key, r.key = .ok key :=
    Settings.exists_key rfl (by intro kind; cases kind <;> rfl)
  have ended := (run_walk env recorder settings.resources (0, start)).ends serves
    (Store.environment_quiet _) keyed keys
  exact ⟨serves.falters, keyed, ended,
    run_wires serves.falters settings recorder (0, start) keyed ended⟩

end Pass

end MonitoringUpkeep
