import MonitoringUpkeep.Proofs.Serving

/-!
# Convergence

A pass that ends well over a keyed store, whatever had drifted there, leaves every managed object as
desired. The next pass then looks at each object once and comes to rest: it writes nothing, reports
nothing and counts nothing.
-/

namespace MonitoringUpkeep.Pass

variable {ω : Type} {env : Environment ω} {store : ω → Store}

/-- Every object is as desired, and a pass from here is one look at each of them. -/
structure Settled (env : Environment ω) (store : ω → Store) (recorder : Recorder)
    (rs : List Resource) (w : ω) : Prop where
  asDesired : ∀ r ∈ rs, ∃ observed, (store w).get r.kind.kind r.name r.space = .ok observed ∧
    r.differs observed (r.desired recorder.owner) = .ok false
  ending : (run env recorder rs w).ending = .done ()
  requests : (run env recorder rs w).trace.requests =
    rs.map fun r => .get r.kind.kind r.name r.space
  events : (run env recorder rs w).trace.events = []
  counters : (run env recorder rs w).trace.counters = []
  unchanged : store (run env recorder rs w).world = store w

/-- Where nothing is pending, all is settled. -/
theorem settled_of_pending (serves : env.Serves store) {recorder : Recorder} {rs : List Resource}
    {w : ω} (keyed : (store w).Keyed)
    (kept : ∀ r ∈ rs, r.pending recorder.owner (store w) = .ok none) :
    Settled env store recorder rs w := by
  obtain ⟨ended, same, effects⟩ := (run_walk env recorder rs w).idle serves kept
  refine ⟨?_, ended, ?_, ?_, ?_, same⟩
  · intro r member
    exact Resource.inSync_of_pending keyed (kept r member)
  · rw [← Trace.requests_effects, effects, Trace.requests_looks]
    rfl
  · rw [← Trace.events_effects, effects, Trace.events_looks]
  · rw [← Trace.counters_effects, effects, Trace.counters_looks]

/-- A pass that ends well settles the managed objects. -/
theorem run_settles (serves : env.Serves store) (settings : Settings) (recorder : Recorder) (w : ω)
    (keyed : (store w).Keyed)
    (done : (run env recorder settings.resources w).ending = .done ()) :
    Settled env store recorder settings.resources
      (run env recorder settings.resources w).world := by
  have walk := run_walk env recorder settings.resources w
  have keyed' := (walk.frame serves.falters keyed).1
  have kept := walk.settled serves.falters settings.distinct_kinds keyed done
  exact settled_of_pending serves keyed' kept

theorem run_settles_tampered :
    let settings : Settings := { space := "kubevirt" }
    let recorder : Recorder := { owner := { name := "hco-operator", space := "kubevirt", uid := "1" } }
    let env := Store.environment fun _ => none
    let first := run env recorder settings.resources (0, Store.tampered)
    env.Serves Prod.snd ∧ Store.tampered.Keyed ∧ first.ending = .done () ∧
      Settled env Prod.snd recorder settings.resources first.world := by
  intro settings recorder env first
  have serves : env.Serves Prod.snd := Store.environment_serves
  have keyed := Store.tampered_keyed
  have keys : ∀ r ∈ settings.resources, ∃ key, r.key = .ok key :=
    Settings.exists_key rfl (by intro kind; cases kind <;> rfl)
  have ended : first.ending = .done () :=
    (run_walk env recorder settings.resources (0, Store.tampered)).ends serves
      (Store.environment_quiet _) keyed keys
  exact ⟨serves, keyed, ended, run_settles serves settings recorder (0, Store.tampered) keyed ended⟩

end MonitoringUpkeep.Pass
