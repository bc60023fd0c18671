import Mathlib.Data.List.Induction
import Mathlib.Tactic.Linarith
import MonitoringUpkeep.Proofs.Amounts
import MonitoringUpkeep.Proofs.Outage

/-!
# The pace of a run

Between two passes a run rests once. After a success the rest has a fixed length. After a failure it
is drawn by chance around a bound that doubles from one failure to the next, up to thirty seconds, and
starts from one second again after a success: the bound is a function of how many passes in a row have
failed, whatever came before them.
-/

namespace MonitoringUpkeep

/-- Chance is drawn as a number from zero up to one, which itself is never drawn. -/
def Environment.Fair {ω : Type} (env : Environment ω) : Prop :=
  ∀ w x w', env.draw w = (.real x, w') → ∃ r, x.toRat? = some r ∧ 0 ≤ r ∧ r < 1

namespace Operator

variable {ω : Type} {env : Environment ω} {o : Operator} {w w' : ω}

/-- How many passes have failed in a row at the end of some passes, given by the worlds in which they
    start. -/
def failuresInRow (env : Environment ω) (o : Operator) (vs : List ω) : Nat :=
  (vs.reverse.takeWhile fun v => !(pass env o v).ending.isDone).length

/-- The bound of the rest after the last one of some failures in a row. -/
def boundAfter (failures : Nat) : Nat := min (2 ^ (failures - 1)) 30

/-- The world in which chance is drawn after a pass: a failure is reported before. -/
def afterReport (env : Environment ω) (o : Operator) (v : ω) : ω :=
  match pass env o v with
  | ⟨.failed f, _, w⟩ =>
    (env.deliver o.recorder.owner.space (o.recorder.body (Event.passFailed f.cause)) w).2
  | ⟨_, _, w⟩ => w

/-- The part of chance that is drawn after a failed pass. -/
def Draws (env : Environment ω) (o : Operator) (v : ω) (r : Rat) : Prop :=
  ∃ x, (env.draw (afterReport env o v)).1 = .real x ∧ x.toRat? = some r

/-- The rest after a pass, which comes after `earlier` ones. The bound is one second at the start and
    after a success. -/
structure RestAfter (env : Environment ω) (o : Operator) (earlier : List ω) (v : ω)
    (seconds : Value) : Prop where
  success : (pass env o v).ending.isDone = true → seconds = .int o.configuration.resyncSeconds
  failure : (pass env o v).ending.isDone = false →
    ∃ (b : Nat) (r : Rat), b = boundAfter (failuresInRow env o (earlier ++ [v])) ∧ b ≤ 30 ∧
      ((∀ p ∈ earlier.getLast?, (pass env o p).ending.isDone = true) → b = 1) ∧
      Draws env o v r ∧ 0 ≤ r ∧ r < 1 ∧ seconds = .real (.finite (b * (1 / 2 + r))) ∧
      1 / 2 * b ≤ seconds.amount ∧ seconds.amount < 3 / 2 * b

/-- What the loop does for a pass: the pass and the notes of its end. -/
def made (env : Environment ω) (o : Operator) (v : ω) : Trace :=
  (pass env o v).trace.effects ++ notes o (pass env o v).ending

/-- What the loop does in a lap after which it goes on: it rests at its end. -/
def lap (env : Environment ω) (o : Operator) (v : ω) (seconds : Value) : Trace :=
  made env o v ++ [.wait seconds]

/-! ## Bounds -/

theorem failuresInRow_snoc (env : Environment ω) (o : Operator) (earlier : List ω) (v : ω) :
    failuresInRow env o (earlier ++ [v]) =
      if (pass env o v).ending.isDone then 0 else failuresInRow env o earlier + 1 := by
  simp only [failuresInRow, List.reverse_append, List.reverse_cons, List.reverse_nil,
    List.nil_append, List.singleton_append, List.takeWhile_cons]
  cases (pass env o v).ending.isDone <;> rfl

theorem failuresInRow_of_reset {earlier : List ω}
    (reset : ∀ p ∈ earlier.getLast?, (pass env o p).ending.isDone = true) :
    failuresInRow env o earlier = 0 := by
  induction earlier using List.reverseRecOn with
  | nil => rfl
  | append_singleton earlier p ih =>
    rw [failuresInRow_snoc, reset p (by simp), if_pos rfl]

theorem boundAfter_le (failures : Nat) : boundAfter failures ≤ 30 := Nat.min_le_right ..

theorem boundAfter_pos (failures : Nat) : 0 < boundAfter failures :=
  Nat.lt_min.mpr ⟨Nat.two_pow_pos _, by decide⟩

/-- Doubling the bound is counting one more failure. -/
theorem nextBound_boundAfter (failures : Nat) :
    nextBound (boundAfter (failures + 1)) = boundAfter (failures + 2) := by
  have double : 2 ^ (failures + 1) = 2 ^ failures * 2 := Nat.pow_succ ..
  simp only [nextBound, boundAfter, Nat.add_sub_cancel, show failures + 2 - 1 = failures + 1 from rfl]
  omega

/-- With exact times a rest is the bound times the chance and a half. -/
theorem backoff_exact {chance : Binary64} {r : Rat} (known : chance.toRat? = some r) (bound : Nat) :
    backoff .finite bound chance = .finite (bound * (1 / 2 + r)) := by
  have half : mkRat 1 2 = 1 / 2 := by norm_num
  cases chance <;> cases known <;> simp [backoff, Binary64.add, Binary64.scale, half]

theorem backoff_between {bound : Nat} {r : Rat} (pos : 0 < bound) (low : 0 ≤ r) (high : r < 1) :
    (1 / 2 * bound : Rat) ≤ bound * (1 / 2 + r) ∧ (bound * (1 / 2 + r) : Rat) < 3 / 2 * bound := by
  have positive : (0 : Rat) < bound := by exact_mod_cast pos
  constructor <;> nlinarith

namespace RestAfter

variable {earlier : List ω} {v : ω}

theorem of_done (done : (pass env o v).ending.isDone = true) :
    RestAfter env o earlier v (.int o.configuration.resyncSeconds) where
  success _ := rfl
  failure failed := by
    rw [done] at failed
    cases failed

/-- The loop rests around the bound of the failures in a row, the one after which it rests counted. -/
theorem of_failed {f : Failure} {t : Trace} {w₁ w₂ w₃ : ω} {answer : Except Failure Unit}
    {chance : Binary64} (exact : env.round = .finite) (fair : env.Fair)
    (went : pass env o v = ⟨.failed f, t, w₁⟩) (delivered : env.deliver o.recorder.owner.space
      (o.recorder.body (Event.passFailed f.cause)) w₁ = (answer, w₂))
    (drawn : env.draw w₂ = (.real chance, w₃)) :
    RestAfter env o earlier v
      (.real (backoff env.round (boundAfter (failuresInRow env o earlier + 1)) chance)) := by
  obtain ⟨r, known, low, high⟩ := fair _ _ _ drawn
  have failed : (pass env o v).ending.isDone = false := by rw [went]; rfl
  have row : failuresInRow env o (earlier ++ [v]) = failuresInRow env o earlier + 1 := by
    rw [failuresInRow_snoc, failed]
    rfl
  have chanced : Draws env o v r := by
    refine ⟨chance, ?_, known⟩
    simp only [afterReport, went, delivered, drawn]
  have between := backoff_between (boundAfter_pos (failuresInRow env o earlier + 1)) low high
  rw [exact, backoff_exact known]
  refine ⟨fun done => ?_, fun _ => ⟨_, r, congrArg boundAfter row.symm, boundAfter_le _, ?_, chanced,
    low, high, rfl, between⟩⟩
  · rw [failed] at done
    cases done
  · intro reset
    rw [failuresInRow_of_reset reset]
    rfl

end RestAfter

/-! ## The pace of the laps -/

/-- How some laps of the loop keep their pace: `earlier` are the passes before them, `seconds` the rests
    after those of their passes that the loop goes on from, and `u` is all that they do. -/
structure Pace (env : Environment ω) (o : Operator) (earlier rested : List ω) (last : Option ω)
    (seconds : List Value) (u : Trace) : Prop where
  /-- one rest follows each pass from which the loop goes on, and none the last one -/
  trace : ∃ flag, u = (List.zipWith (lap env o) rested seconds).flatten ++
    last.toList.flatMap (made env o) ++ flag ∧ (flag = [] ∨ flag = [.ready false])
  length : seconds.length = rested.length
  /-- there are no other waits -/
  waits : u.waits = seconds
  rests : ∀ i v s, rested[i]? = some v → seconds[i]? = some s →
    RestAfter env o (earlier ++ rested.take i) v s

namespace Pace

variable {earlier rested : List ω} {last : Option ω} {seconds : List Value} {u : Trace}

theorem waits_made (env : Environment ω) (o : Operator) (v : ω) : (made env o v).waits = [] := by
  rcases went : pass env o v with ⟨ending, t, w'⟩
  rw [made, went, ← List.append_nil (_ ++ _), waits_of_made went]
  rfl

/-- Laps that end at once. -/
theorem idle {flag : Trace} (only : flag = [] ∨ flag = [.ready false]) :
    Pace env o earlier [] none [] flag where
  trace := ⟨flag, rfl, only⟩
  length := rfl
  waits := by rcases only with rfl | rfl <;> rfl
  rests := nofun

/-- A last pass after which there is no rest. -/
theorem ends {flag : Trace} (v : ω) (only : flag = [] ∨ flag = [.ready false]) :
    Pace env o earlier [] (some v) [] (made env o v ++ flag) where
  trace := ⟨flag, by simp, only⟩
  length := rfl
  waits := by
    rw [Trace.waits_append, waits_made]
    rcases only with rfl | rfl <;> rfl
  rests := nofun

/-- A pass and its rest before laps that keep their pace. -/
theorem cons {v : ω} {s : Value} (rest : RestAfter env o earlier v s)
    (others : Pace env o (earlier ++ [v]) rested last seconds u) :
    Pace env o earlier (v :: rested) last (s :: seconds) (lap env o v s ++ u) where
  trace := by
    obtain ⟨flag, same, only⟩ := others.trace
    exact ⟨flag, by simp [same], only⟩
  length := congrArg (· + 1) others.length
  waits := by
    rw [Trace.waits_append, lap, Trace.waits_append, waits_made, others.waits]
    rfl
  rests := by
    intro i v' s' here there
    cases i with
    | zero =>
      cases here
      cases there
      simpa using rest
    | succ i => simpa using others.rests i v' s' here there

end Pace

namespace Laps

variable {n bound : Nat} {rested : List ω} {last : Option ω} {ending : Ending Unit} {u : Trace}

/-- The loop keeps its pace: its bound is that of the failures in a row before. -/
theorem pace (laps : Laps env o n bound w rested last ending u w') (exact : env.round = .finite)
    (fair : env.Fair) (earlier : List ω) (current : bound = boundAfter (failuresInRow env o earlier + 1)) :
    ∃ seconds, Pace env o earlier rested last seconds u := by
  induction laps generalizing earlier with
  | cut => exact ⟨[], .idle (.inl rfl)⟩
  | told => exact ⟨[], .idle (.inr rfl)⟩
  | @denied _ _ w _ _ _ free went =>
    have whole : Pace env o earlier [] (some w) [] (made env o w ++ [.ready false]) :=
      .ends w (.inr rfl)
    rw [made, went] at whole
    exact ⟨[], whole⟩
  | @lost _ _ w _ _ _ _ _ free went =>
    have whole : Pace env o earlier [] (some w) [] (made env o w ++ []) := .ends w (.inl rfl)
    rw [made, went, List.append_nil] at whole
    exact ⟨[], whole⟩
  | @failed _ _ w _ _ _ _ _ _ _ _ _ _ _ _ _ _ free went goesOn delivered accepted drawn waited others
      ih =>
    subst current
    have row : failuresInRow env o (earlier ++ [w]) = failuresInRow env o earlier + 1 := by
      rw [failuresInRow_snoc, went]
      rfl
    obtain ⟨seconds, paced⟩ := ih (earlier ++ [w]) (by rw [row, nextBound_boundAfter])
    have whole := paced.cons (.of_failed exact fair went delivered drawn)
    rw [lap, made, went] at whole
    exact ⟨_, by simpa using whole⟩
  | @succeeded _ _ w _ _ _ _ _ _ _ _ _ _ free went waited others ih =>
    have row : failuresInRow env o (earlier ++ [w]) = 0 := by
      rw [failuresInRow_snoc, went]
      rfl
    obtain ⟨seconds, paced⟩ := ih (earlier ++ [w]) (by rw [row]; rfl)
    have whole := paced.cons (.of_done (by rw [went]; rfl))
    rw [lap, made, went] at whole
    exact ⟨_, by simpa using whole⟩

/-- The pass after which the loop rests no more was denied access, or its report was lost. -/
theorem ends_by (laps : Laps env o n bound w rested last ending u w') (v : ω) (final : last = some v) :
    (pass env o v).ending.isDenied = true ∨ ∃ g, Loses env o v g := by
  induction laps with
  | cut => cases final
  | told => cases final
  | denied free went denial =>
    cases final
    exact .inl (by simp [went, Ending.isDenied, denial])
  | @lost _ _ _ f t w₁ g w₂ free went goesOn delivered other =>
    cases final
    exact .inr ⟨g, ⟨f, t, w₁, w₂, went, goesOn, delivered⟩, other⟩
  | failed free went goesOn delivered accepted drawn waited others ih => exact ih final
  | succeeded free went waited others ih => exact ih final

end Laps

/-! ## The pace of a run -/

/-- Where reports are not lost and times are exact, a run rests once after each pass but one that is
    denied access: for a fixed time after a success, and after a failure for the bound of the failures in
    a row, doubled from one second up to thirty, times the chance and a half. -/
theorem run_paces (o : Operator) (steady : env.Steady o) (quiet : env.Quiet)
    (exact : env.round = .finite) (fair : env.Fair)
    (coded : ∀ w f, (pass env o w).ending = .failed f → f.Coded) (w : ω) :
    ∃ rested last seconds u, Course env o w rested last ∧
      (∀ v, last = some v → (pass env o v).ending.isDenied = true) ∧
      (run env o w).trace.effects = (startGate env o w).trace.effects ++ u ∧
      Pace env o [] rested last seconds u := by
  obtain ⟨rested, last, u, laps, effects⟩ := run_laps steady coded w
  obtain ⟨seconds, paced⟩ := laps.pace exact fair [] rfl
  refine ⟨rested, last, seconds, u, laps.course effects, fun v final => ?_, effects, paced⟩
  rcases laps.ends_by v final with denied | ⟨g, ⟨f, t, w₁, w₂, -, -, delivered⟩, other⟩
  · exact denied
  · have api := quiet _ _ _ _ (congrArg Prod.fst delivered)
    rw [api] at other
    cases other

/-- A minute after the pass that succeeds, and half a second after the one that fails. -/
theorem run_paces_fading :
    fading.Steady usual ∧ fading.Quiet ∧ fading.round = .finite ∧ fading.Fair ∧
      (∀ w f, (pass fading usual w).ending = .failed f → f.Coded) ∧
      Course fading usual 0 [0, 12] (some 13) ∧ (pass fading usual 0).ending.isDone = true ∧
      (pass fading usual 12).ending = .failed (.fault .transport "down") ∧
      (pass fading usual 13).ending.isDenied = true ∧
      Pace fading usual [] [0, 12] (some 13) [.int 60, .real (.finite (1 / 2))]
        (run fading usual 0).trace.effects := by
  have steady : fading.Steady usual := Environment.scripted_steady
  have quiet : fading.Quiet := nofun
  have fair : fading.Fair := by
    rintro w x w' drawn
    cases drawn
    exact ⟨0, rfl, le_rfl, by decide⟩
  have coded : ∀ w f, (pass fading usual w).ending = .failed f → f.Coded :=
    pass_coded (fun _ => fadingScript_coded) usual
  obtain ⟨rested, last, seconds, u, course, denied, effects, paced⟩ :=
    run_paces usual steady quiet rfl fair coded 0
  obtain ⟨rfl, rfl⟩ := fading_course course
  obtain rfl : u = (run fading usual 0).trace.effects := effects.symm
  have half : backoff .finite 1 (.finite 0) = .finite (1 / 2) := by
    rw [backoff_exact rfl]
    norm_num
  have waits : (run fading usual 0).trace.effects.waits =
    [.int 60, .real (backoff .finite 1 (.finite 0))] := rfl
  obtain rfl : seconds = [.int 60, .real (.finite (1 / 2))] := by rw [← paced.waits, waits, half]
  exact ⟨steady, quiet, rfl, fair, coded, course, rfl, rfl, denied 13 rfl, paced⟩

end Operator

end MonitoringUpkeep
