import Mathlib.Data.List.Nodup
import MonitoringUpkeep.Proofs.Serving

/-!
# Independence of history

Passes may have been made before under other settings and owners, and may have failed anywhere. As
long as they gave the managed objects the same places, they have put there only repairs of what stood
there at the start. A pass that ends well repairs them once more, and of all repairs only the last one
counts: the objects come out as if no pass had been made before, apart from their stamps.
-/

namespace MonitoringUpkeep

namespace Store
open Value Fields

/-- A value with the place of its stamp blanked. -/
def unstamped : Value → Value
  | .obj fs => .obj (writeAt fs stampPath .null)
  | v => v

/-- Two values agree apart from their stamps. -/
def Alike (v w : Value) : Prop := unstamped v ≈ unstamped w

theorem Alike.symm {v w : Value} (h : Alike v w) : Alike w v := Agrees.symm h

theorem Alike.trans {v w x : Value} (h : Alike v w) (k : Alike w x) : Alike v x := Agrees.trans h k

theorem alike_obj {fs gs : Fields} : Alike (.obj fs) (.obj gs) ↔
    fieldMeanings (writeAt fs stampPath .null) = fieldMeanings (writeAt gs stampPath .null) := by
  simp [Alike, unstamped, agrees_iff, meaning]

theorem alike_of_meanings {fs gs : Fields} (same : fieldMeanings fs = fieldMeanings gs) :
    Alike (.obj fs) (.obj gs) :=
  alike_obj.mpr (fieldMeanings_writeAt_congr same stampPath rfl)

/-- An object is like itself with another stamp. -/
theorem alike_writeAt (fs : Fields) (stamp : Value) :
    Alike (.obj (writeAt fs stampPath stamp)) (.obj fs) := by
  rw [alike_obj, writeAt_writeAt_self]

end Store

namespace Settings

/-- Two settings give the managed objects the same places. -/
structure SamePlaces (a b : Settings) : Prop where
  space : a.space = b.space
  ruleName : a.ruleName = b.ruleName
  roleName : a.roleName = b.roleName
  serviceName : a.serviceName = b.serviceName

theorem SamePlaces.refl (s : Settings) : s.SamePlaces s := ⟨rfl, rfl, rfl, rfl⟩

end Settings

namespace Resource
open Value Fields Store

variable {r r' : Resource} {owner owner' : Owner} {fs gs : Fields}

theorem name_congr (kind : r.kind = r'.kind) (places : r.settings.SamePlaces r'.settings) :
    r.name = r'.name := by
  simp only [name, kind, places.ruleName, places.roleName, places.serviceName]

theorem key_congr (kind : r.kind = r'.kind) (places : r.settings.SamePlaces r'.settings) :
    r.key = r'.key := by
  rw [Resource.key, Resource.key, name_congr kind places, space, space, places.space, kind]

theorem bare_congr (kind : r.kind = r'.kind) (places : r.settings.SamePlaces r'.settings) :
    r.bare = r'.bare := by
  rw [bare, bare, name_congr kind places, space, space, places.space, kind]

/-- Objects that are alike are alike after the same repair. -/
theorem restored_alike (r : Resource) (owner : Owner) (alike : Alike (.obj fs) (.obj gs)) :
    Alike (.obj (r.restored owner fs)) (.obj (r.restored owner gs)) := by
  have through : ∀ hs, fieldMeanings (writeAt (r.restored owner hs) stampPath .null) =
      fieldMeanings (r.restored owner (writeAt hs stampPath .null)) := by
    intro hs
    exact (fieldMeanings_copied_writeAt r.facets_apart_stamp hs .null).symm
  rw [alike_obj] at alike ⊢
  rw [through, through]
  exact r.restored_congr owner alike

/-- A repair undoes an earlier one, whatever the settings and the owner of that. -/
theorem restored_alike_of_restored (kind : r'.kind = r.kind)
    (alike : Alike (.obj gs) (.obj (r'.restored owner' fs))) :
    Alike (.obj (r.restored owner gs)) (.obj (r.restored owner fs)) := by
  have again := restored_alike r owner alike
  exact again.trans (alike_of_meanings (restored_restored kind owner owner' fs))

end Resource

namespace Pass
open Value Fields Store

variable {ω : Type} {env : Environment ω} {store : ω → Store} {recorder : Recorder}
  {settings : Settings} {start s s' : Store} {key : StoreKey}

/-- Under every key stands what stood there at the start, or a repair of that for an object which has
    its place there under given settings. -/
def Inherits (settings : Settings) (start s : Store) : Prop := ∀ key,
  s.find? key = start.find? key ∨ ∃ (r : Resource) (owner : Owner) (gs : Fields),
    r.settings.SamePlaces settings ∧ r.At key ∧ s.find? key = some (.obj gs) ∧
    Alike (.obj gs) (.obj (r.restored owner (r.base start key)))

/-- The world after passes under settings and recorders, one after the other. -/
def history (env : Environment ω) : List (Settings × Recorder) → ω → ω
  | [], w => w
  | (settings, recorder) :: later, w =>
    history env later (run env recorder settings.resources w).world

/-- Objects with their places under the same settings start from the same under a key. -/
theorem base_of_places {r r' : Resource} (places : r.settings.SamePlaces settings)
    (places' : r'.settings.SamePlaces settings) (kind : r'.kind = r.kind) (s : Store)
    (key : StoreKey) : r'.base s key = r.base s key := by
  have places'' : r'.settings.SamePlaces r.settings :=
    ⟨places'.space.trans places.space.symm, places'.ruleName.trans places.ruleName.symm,
      places'.roleName.trans places.roleName.symm,
      places'.serviceName.trans places.serviceName.symm⟩
  rw [Resource.base, Resource.base, Resource.bare_congr kind places'']

/-- A write for an object with its place keeps the inheritance: it repairs what stood there at the
    start, or a repair of that. -/
theorem Inherits.advance {r : Resource} {owner : Owner} {wrote : Option Request}
    (inherits : Inherits settings start s) (places : r.settings.SamePlaces settings)
    (advance : r.Advance owner s wrote s') (keyed : s.Keyed) : Inherits settings start s' := by
  intro key
  by_cases here : r.At key
  · rcases advance.find?_at keyed here with same | ⟨stamp, written⟩
    · rw [same]
      exact inherits key
    · refine .inr ⟨r, owner, _, places, here, written, (alike_writeAt _ stamp).trans ?_⟩
      -- What was repaired now is what stood there at the start, or an earlier repair of that.
      rcases inherits key with untouched | ⟨r', owner', gs, places', here', found, alike⟩
      · rw [Resource.base_of_same untouched]
        exact alike_of_meanings rfl
      · have kind : r'.kind = r.kind :=
          ManagedKind.kind_injective (here'.kind.symm.trans here.kind)
        rw [base_of_places places places' kind] at alike
        rw [Resource.base_of_found found]
        exact Resource.restored_alike_of_restored kind alike
  · rw [advance.find?_of_not_at keyed here]
    exact inherits key

theorem Walk.inherits (falters : env.Falters store) {rs : List Resource} {w w' : ω}
    {ending : Ending Unit} {t : Trace} (walk : Walk env recorder rs w ending t w')
    (places : ∀ r ∈ rs, r.settings.SamePlaces settings) (keyed : (store w).Keyed)
    (inherits : Inherits settings start (store w)) : Inherits settings start (store w') := by
  induction walk with
  | nil w => exact inherits
  | step first others ih =>
    obtain ⟨wrote, advance, _⟩ := first.advance falters keyed
    have parts := List.forall_mem_cons.mp places
    exact ih parts.2 (advance.keyed keyed) (inherits.advance parts.1 advance keyed)
  | stop first =>
    obtain ⟨wrote, advance, _⟩ := first.advance falters keyed
    exact inherits.advance (List.forall_mem_cons.mp places).1 advance keyed

theorem settings_resources {r : Resource} {s : Settings} (member : r ∈ s.resources) :
    r.settings = s := by
  obtain ⟨kind, _, rfl⟩ := List.mem_map.mp member
  rfl

/-- A pass under settings with the same places keeps a store keyed and the inheritance. -/
theorem run_inherits (falters : env.Falters store) {other : Settings}
    (places : other.SamePlaces settings) (recorder : Recorder) {w : ω} (keyed : (store w).Keyed)
    (inherits : Inherits settings start (store w)) :
    (store (run env recorder other.resources w).world).Keyed ∧
      Inherits settings start (store (run env recorder other.resources w).world) := by
  have walk := run_walk env recorder other.resources w
  refine ⟨(walk.frame falters keyed).1, walk.inherits falters ?_ keyed inherits⟩
  intro r member
  rw [settings_resources member]
  exact places

theorem history_inherits (falters : env.Falters store) (past : List (Settings × Recorder))
    (places : ∀ p ∈ past, p.1.SamePlaces settings) {w : ω} (keyed : (store w).Keyed)
    (inherits : Inherits settings start (store w)) :
    (store (history env past w)).Keyed ∧ Inherits settings start (store (history env past w)) := by
  induction past generalizing w with
  | nil => exact ⟨keyed, inherits⟩
  | cons p later ih =>
    have parts := List.forall_mem_cons.mp places
    obtain ⟨keyed', inherits'⟩ := run_inherits falters parts.1 p.2 keyed inherits
    exact ih parts.2 keyed' inherits'

/-- Where nothing is pending, there stands the last repair of what stood there at the start. -/
theorem Inherits.settled {r : Resource} {owner : Owner} (inherits : Inherits settings start s)
    (places : r.settings.SamePlaces settings) (keyed : s.Keyed)
    (kept : r.pending owner s = .ok none) (here : r.At key) : ∃ gs,
      s.find? key = some (.obj gs) ∧
      Alike (.obj gs) (.obj (r.restored owner (r.base start key))) := by
  obtain ⟨own, given, same⟩ := here
  rcases Resource.pending_cases keyed owner given with
    ⟨gs, found, opened, asDesired, _⟩ | ⟨_, _, _, _, _, pending, _⟩
  · rw [s.find?_congr same] at found
    have repaired : Alike (.obj gs) (.obj (r.restored owner gs)) :=
      alike_of_meanings (Resource.restored_of_not_differs opened asDesired).symm
    refine ⟨gs, found, repaired.trans ?_⟩
    rcases inherits key with untouched | ⟨r', owner', gs', places', here', found', alike⟩
    · rw [← Resource.base_of_same untouched, Resource.base_of_found found]
      exact alike_of_meanings rfl
    · obtain rfl : gs = gs' := by simpa using found.symm.trans found'
      have kind : r'.kind = r.kind :=
        ManagedKind.kind_injective (here'.kind.symm.trans (Resource.At.kind ⟨own, given, same⟩))
      rw [base_of_places places places' kind] at alike
      exact Resource.restored_alike_of_restored kind alike
  · rw [kept] at pending
    cases pending

/-- Away from the places of the managed objects all is as at the start. -/
theorem Inherits.spared (inherits : Inherits settings start s)
    (elsewhere : ∀ r ∈ settings.resources, ¬ r.At key) : s.find? key = start.find? key := by
  rcases inherits key with untouched | ⟨r, owner, gs, places, here, _⟩
  · exact untouched
  · obtain ⟨own, given, same⟩ := here
    have member : (⟨r.kind, settings⟩ : Resource) ∈ settings.resources :=
      List.mem_map.mpr ⟨r.kind, by cases r.kind <;> decide, rfl⟩
    have placed : r.key = Resource.key ⟨r.kind, settings⟩ := Resource.key_congr rfl places
    exact absurd ⟨own, placed.symm.trans given, same⟩ (elsewhere _ member)

/-- A pass that ends well leaves under each key what it would leave after any passes that gave the
    managed objects the same places: what stood there at the start, or its repair. -/
theorem run_outcome (falters : env.Falters store) (recorder : Recorder) {w : ω}
    (keyed : (store w).Keyed) (inherits : Inherits settings start (store w))
    (done : (run env recorder settings.resources w).ending = .done ()) (key : StoreKey) :
    (∃ r ∈ settings.resources, ∃ gs, r.At key ∧
      (store (run env recorder settings.resources w).world).find? key = some (.obj gs) ∧
      Alike (.obj gs) (.obj (r.restored recorder.owner (r.base start key)))) ∨
    ((∀ r ∈ settings.resources, ¬ r.At key) ∧
      (store (run env recorder settings.resources w).world).find? key = start.find? key) := by
  obtain ⟨keyed', inherits'⟩ := run_inherits falters (.refl settings) recorder keyed inherits
  have settled := (run_walk env recorder settings.resources w).settled falters
    settings.distinct_kinds keyed done
  by_cases managed : ∃ r ∈ settings.resources, r.At key
  · obtain ⟨r, member, here⟩ := managed
    have places : r.settings.SamePlaces settings := by
      rw [settings_resources member]
      exact .refl settings
    obtain ⟨gs, found, alike⟩ := inherits'.settled places keyed' (settled r member) here
    exact .inl ⟨r, member, gs, here, found, alike⟩
  · have elsewhere : ∀ r ∈ settings.resources, ¬ r.At key := fun r member here =>
      managed ⟨r, member, here⟩
    exact .inr ⟨elsewhere, inherits'.spared elsewhere⟩

theorem inherits_refl (settings : Settings) (s : Store) : Inherits settings s s :=
  fun _ => .inl rfl

/-- Whatever passes were made before, a pass that ends well leaves the same objects as it does alone,
    apart from their stamps. -/
theorem run_forgets_history {ω' : Type} {env' : Environment ω'} {store' : ω' → Store}
    (falters : env.Falters store) (serves : env'.Serves store') (past : List (Settings × Recorder))
    (settings : Settings) (recorder : Recorder)
    (places : ∀ p ∈ past, p.1.SamePlaces settings) (w : ω) (w' : ω') (start : store' w' = store w)
    (keyed : (store w).Keyed)
    (done : (run env recorder settings.resources (history env past w)).ending = .done ()) :
    (env'.Quiet → (run env' recorder settings.resources w').ending = .done ()) ∧
      ((run env' recorder settings.resources w').ending = .done () → ∀ key,
        Option.Rel Alike
          ((store (run env recorder settings.resources (history env past w)).world).find? key)
          ((store' (run env' recorder settings.resources w').world).find? key)) := by
  obtain ⟨keyedPast, inherits⟩ :=
    history_inherits falters past places keyed (inherits_refl settings (store w))
  have keyed' : (store' w').Keyed := by rwa [start]
  refine ⟨fun quiet => ?_, fun alone key => ?_⟩
  · have settled := (run_walk env recorder settings.resources (history env past w)).settled falters
      settings.distinct_kinds keyedPast done
    exact (run_walk env' recorder settings.resources w').ends serves quiet keyed'
      (fun r member => Resource.exists_key_of_pending (settled r member))
  · have inherits' : Inherits settings (store w) (store' w') := by
      rw [start]
      exact inherits_refl settings (store w)
    rcases run_outcome falters recorder keyedPast inherits done key with
      ⟨r, member, gs, here, found, alike⟩ | ⟨elsewhere, spared⟩ <;>
    rcases run_outcome serves.falters recorder keyed' inherits' alone key with
      ⟨r', member', gs', here', found', alike'⟩ | ⟨elsewhere', spared'⟩
    · have kind : r = r' := List.inj_on_of_nodup_map settings.distinct_kinds member member'
        (ManagedKind.kind_injective (here.kind.symm.trans here'.kind))
      subst kind
      rw [found, found']
      exact .some (alike.trans alike'.symm)
    · exact absurd here (elsewhere' r member)
    · exact absurd here' (elsewhere r' member')
    · rw [spared, spared']
      cases found : (store w).find? key with
      | none => exact .none
      | some v =>
        obtain ⟨fs, rfl⟩ := keyed.exists_obj found
        exact .some (alike_of_meanings rfl)

theorem run_forgets_history_upgrade :
    let old : Settings := { space := "kubevirt", operatorVersion := "1.0", metricsPort := .int 9090 }
    let settings : Settings := { space := "kubevirt" }
    let past : List (Settings × Recorder) :=
      [(old, { owner := { name := "hco-operator", space := "kubevirt", uid := "1" } })]
    let recorder : Recorder := { owner := { name := "hco-operator", space := "kubevirt", uid := "2" } }
    let env := Store.environment fun _ => none
    env.Serves Prod.snd ∧ (∀ p ∈ past, p.1.SamePlaces settings) ∧ Store.tampered.Keyed ∧
      (run env recorder settings.resources (history env past (0, Store.tampered))).ending =
        .done () ∧
      (run env recorder settings.resources (0, Store.tampered)).ending = .done () ∧
      ∀ key, Option.Rel Alike
        ((run env recorder settings.resources
          (history env past (0, Store.tampered))).world.2.find? key)
        ((run env recorder settings.resources (0, Store.tampered)).world.2.find? key) := by
  intro old settings past recorder env
  have serves : env.Serves Prod.snd := Store.environment_serves
  have quiet : env.Quiet := Store.environment_quiet _
  have keyed := Store.tampered_keyed
  have places : ∀ p ∈ past, p.1.SamePlaces settings := by
    intro p member
    obtain rfl := List.mem_singleton.mp member
    exact ⟨rfl, rfl, rfl, rfl⟩
  have keys : ∀ r ∈ settings.resources, ∃ key, r.key = .ok key :=
    Settings.exists_key rfl (by intro kind; cases kind <;> rfl)
  have keyedPast : (history env past (0, Store.tampered)).2.Keyed :=
    (history_inherits serves.falters past places keyed (inherits_refl settings _)).1
  have ended := (run_walk env recorder settings.resources _).ends serves quiet
    keyedPast keys
  have forgets := run_forgets_history serves.falters serves past settings recorder places
    (0, Store.tampered) (0, Store.tampered) rfl keyed ended
  exact ⟨serves, places, keyed, ended, forgets.1 quiet, forgets.2 (forgets.1 quiet)⟩

end Pass

end MonitoringUpkeep
