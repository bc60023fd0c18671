import MonitoringUpkeep.Operator
import MonitoringUpkeep.Proofs.Amounts
import MonitoringUpkeep.Proofs.IntegerText
import MonitoringUpkeep.Proofs.Nearest
import MonitoringUpkeep.Proofs.Reading

/-!
# Which configurations are accepted

A configuration is refused for a blank namespace, or else for the first of the integer variables whose text
is no integer or whose value is out of its bounds. Otherwise it holds what the variables say, with the
default of each that is absent, and from every such configuration the operator can be built.
-/

namespace MonitoringUpkeep

namespace IntegerVariable
open Text

/-- All integer variables, in the order in which they are read. -/
def all : List IntegerVariable := [metricsPort, resyncSeconds, healthPort, gateTimeout, gatePoll]

theorem all_mem : metricsPort ∈ all ∧ resyncSeconds ∈ all ∧ healthPort ∈ all ∧ gateTimeout ∈ all ∧
    gatePoll ∈ all := by
  simp [all]

/-- A value is within the bounds of a variable. -/
def Allows (v : IntegerVariable) (n : Int) : Prop :=
  (∀ low ∈ v.minimum, low ≤ n) ∧ ∀ high ∈ v.maximum, n ≤ high

/-- The value of a variable: its default where it is absent, else the integer that its text is of, if that
    is within the bounds. -/
def Takes (v : IntegerVariable) (vars : Variables) (n : Int) : Prop :=
  match vars v.name with
  | none => n = v.default
  | some text => IsInteger text n ∧ v.Allows n

/-- What is wrong with a variable. -/
inductive Complaint (v : IntegerVariable) (vars : Variables) : Failure → Prop
  | notAnInteger {text : String} : vars v.name = some text → (∀ n, ¬ IsInteger text n) →
    Complaint v vars (.notAnInteger v.name)
  | belowMinimum {text : String} {n low : Int} : vars v.name = some text → IsInteger text n →
    v.minimum = some low → n < low → Complaint v vars (.belowMinimum v.name low n)
  | aboveMaximum {text : String} {n high : Int} : vars v.name = some text → IsInteger text n →
    (∀ low ∈ v.minimum, low ≤ n) → v.maximum = some high → high < n →
    Complaint v vars (.aboveMaximum v.name high n)

/-- What is wrong with the first of some variables that does not take a value. -/
def FirstFault (vars : Variables) (vs : List IntegerVariable) (f : Failure) : Prop :=
  ∃ before v after, vs = before ++ v :: after ∧ (∀ u ∈ before, ∃ n, u.Takes vars n) ∧
    v.Complaint vars f

variable {v : IntegerVariable} {vars : Variables} {f : Failure} {n : Int}

/-- Every default is within the bounds of its variable. -/
theorem allows_default (known : v ∈ all) : v.Allows v.default := by
  simp only [all, List.mem_cons, List.not_mem_nil, or_false] at known
  rcases known with rfl | rfl | rfl | rfl | rfl <;>
    simp [Allows, metricsPort, resyncSeconds, healthPort, gateTimeout, gatePoll]

theorem Takes.allows (takes : v.Takes vars n) (known : v ∈ all) : v.Allows n := by
  rw [Takes] at takes
  cases given : vars v.name with
  | none =>
    rw [given] at takes
    rw [takes]
    exact allows_default known
  | some text =>
    rw [given] at takes
    exact takes.2

/-- A complaint is one about a value, and begins with the name of its variable. -/
theorem Complaint.names (complaint : v.Complaint vars f) :
    f.title = "ValueError" ∧ ∃ rest, f.message = v.name ++ rest := by
  cases complaint with
  | notAnInteger => exact ⟨rfl, " must be an integer", rfl⟩
  | @belowMinimum _ n low =>
    refine ⟨rfl, s!" must be >= {low}, got: {n}", ?_⟩
    change s!"{v.name} must be >= {low}, got: {n}" = _
    simp only [String.append_assoc]
    rfl
  | @aboveMaximum _ n high =>
    refine ⟨rfl, s!" must be <= {high}, got: {n}", ?_⟩
    change s!"{v.name} must be <= {high}, got: {n}" = _
    simp only [String.append_assoc]
    rfl

/-- A value at or above the lower bound is checked against the upper one. -/
theorem check_eq (least : ∀ low ∈ v.minimum, low ≤ n) : v.check n = check.checkMaximum v n := by
  rw [check]
  cases same : v.minimum with
  | none => rfl
  | some low => exact if_neg (not_lt.mpr (least low same))

theorem check_of_allows (allows : v.Allows n) : v.check n = .ok n := by
  rw [check_eq allows.1, check.checkMaximum]
  cases same : v.maximum with
  | none => rfl
  | some high => exact if_neg (not_lt.mpr (allows.2 high same))

theorem check_of_below {low : Int} (least : v.minimum = some low) (below : n < low) :
    v.check n = .error (.belowMinimum v.name low n) := by
  rw [check, least]
  exact if_pos below

theorem check_of_above {high : Int} (fine : ∀ low ∈ v.minimum, low ≤ n) (most : v.maximum = some high)
    (above : high < n) : v.check n = .error (.aboveMaximum v.name high n) := by
  rw [check_eq fine, check.checkMaximum, most]
  exact if_pos above

theorem allows_or_not (v : IntegerVariable) (n : Int) : v.Allows n ∨
    (∃ low, v.minimum = some low ∧ n < low) ∨
    (∀ low ∈ v.minimum, low ≤ n) ∧ ∃ high, v.maximum = some high ∧ high < n := by
  by_cases below : ∃ low, v.minimum = some low ∧ n < low
  · exact .inr (.inl below)
  · have least : ∀ low ∈ v.minimum, low ≤ n := fun low same => not_lt.mp fun less =>
      below ⟨low, same, less⟩
    by_cases above : ∃ high, v.maximum = some high ∧ high < n
    · exact .inr (.inr ⟨least, above⟩)
    · exact .inl ⟨least, fun high same => not_lt.mp fun less => above ⟨high, same, less⟩⟩

theorem Takes.read (takes : v.Takes vars n) (known : v ∈ all) : v.read vars = .ok n := by
  have allows := takes.allows known
  rw [Takes] at takes
  rw [IntegerVariable.read]
  cases given : vars v.name with
  | none =>
    rw [given] at takes
    rw [← takes]
    exact check_of_allows allows
  | some text =>
    rw [given] at takes
    simp only [readInteger?_iff.mpr takes.1]
    exact check_of_allows allows

theorem Complaint.read (complaint : v.Complaint vars f) : v.read vars = .error f := by
  cases complaint with
  | notAnInteger given none =>
    have unread := Option.eq_none_iff_forall_ne_some.mpr fun n read => none n (readInteger?_iff.mp read)
    simp only [IntegerVariable.read, given, unread]
  | belowMinimum given text least below =>
    simp only [IntegerVariable.read, given, readInteger?_iff.mpr text]
    exact check_of_below least below
  | aboveMaximum given text fine most above =>
    simp only [IntegerVariable.read, given, readInteger?_iff.mpr text]
    exact check_of_above fine most above

/-- A variable takes a value, or there is a complaint about it. -/
theorem takes_or_complaint (v : IntegerVariable) (vars : Variables) :
    (∃ n, v.Takes vars n) ∨ ∃ f, v.Complaint vars f := by
  cases given : vars v.name with
  | none => exact .inl ⟨v.default, by rw [Takes, given]⟩
  | some text =>
    by_cases integer : ∃ n, IsInteger text n
    · obtain ⟨n, text⟩ := integer
      rcases v.allows_or_not n with allows | ⟨low, least, below⟩ | ⟨fine, high, most, above⟩
      · exact .inl ⟨n, by rw [Takes, given]; exact ⟨text, allows⟩⟩
      · exact .inr ⟨_, .belowMinimum given text least below⟩
      · exact .inr ⟨_, .aboveMaximum given text fine most above⟩
    · exact .inr ⟨_, .notAnInteger given (not_exists.mp integer)⟩

theorem read_ok_iff (known : v ∈ all) : v.read vars = .ok n ↔ v.Takes vars n := by
  refine ⟨fun read => ?_, fun takes => takes.read known⟩
  rcases v.takes_or_complaint vars with ⟨m, takes⟩ | ⟨f, complaint⟩
  · rw [takes.read known] at read
    cases read
    exact takes
  · rw [complaint.read] at read
    cases read

theorem read_error_iff (known : v ∈ all) : v.read vars = .error f ↔ v.Complaint vars f := by
  refine ⟨fun read => ?_, Complaint.read⟩
  rcases v.takes_or_complaint vars with ⟨m, takes⟩ | ⟨g, complaint⟩
  · rw [takes.read known] at read
    cases read
  · rw [complaint.read] at read
    cases read
    exact complaint

theorem Complaint.not_takes (complaint : v.Complaint vars f) (known : v ∈ all) : ¬ v.Takes vars n := by
  intro takes
  have read := complaint.read
  rw [takes.read known] at read
  cases read

theorem not_firstFault_nil : ¬ FirstFault vars [] f := by
  rintro ⟨before, v, after, same, -⟩
  simp at same

theorem firstFault_cons {vs : List IntegerVariable} : FirstFault vars (v :: vs) f ↔
    v.Complaint vars f ∨ (∃ n, v.Takes vars n) ∧ FirstFault vars vs f := by
  constructor
  · rintro ⟨before, u, after, same, fine, complaint⟩
    cases before with
    | nil =>
      cases same
      exact .inl complaint
    | cons w before =>
      cases same
      exact .inr ⟨fine v List.mem_cons_self, before, u, after, rfl,
        fun w member => fine w (List.mem_cons_of_mem v member), complaint⟩
  · rintro (complaint | ⟨takes, before, u, after, rfl, fine, complaint⟩)
    · exact ⟨[], v, vs, rfl, nofun, complaint⟩
    · exact ⟨v :: before, u, after, rfl, List.forall_mem_cons.mpr ⟨takes, fine⟩, complaint⟩

end IntegerVariable

/-- A gate with time to change and a pace is accepted. -/
theorem Gate.check_ok {g : Gate} {t : Int} {p : ℚ} (timeout : g.timeout = .int t) (lasting : 1 ≤ t)
    (interval : g.interval = .real (.finite p)) (positive : 0 < p) : g.check = .ok g := by
  have late : (Binary64.finite t).le (.finite 0) = false :=
    (Binary64.le_eq_decide rfl rfl).trans (decide_eq_false (not_le.mpr (by exact_mod_cast lasting)))
  have forward : (Binary64.finite p).lt (.finite 0) = false :=
    (Binary64.lt_eq_decide rfl rfl).trans (decide_eq_false (not_lt.mpr positive.le))
  simp [check, Value.isAtMost, Value.isBelow, Value.exact, Value.integer?, timeout, interval, late,
    forward, bind, Except.bind, pure, Except.pure]

namespace Configuration
open IntegerVariable Text

/-- The texts of a configuration: the variable of each, its default and its value. -/
def texts (c : Configuration) : List (String × String × String) := [
  ("OPERATOR_NAMESPACE", "kubevirt-hyperconverged", c.space),
  ("OPERATOR_DEPLOYMENT", "hco-operator", c.deployment),
  ("OPERATOR_NAME", "hyperconverged-cluster-operator", c.operatorName),
  ("OPERATOR_VERSION", "unknown", c.operatorVersion),
  ("OPERATOR_MANAGED_BY", "hco-operator", c.managedBy),
  ("HC_NAME", "kubevirt-hyperconverged", c.clusterName),
  ("MONITORING_NAMESPACE", "openshift-monitoring", c.monitoringSpace)]

/-- The integers of a configuration, each with its variable. -/
def integers (c : Configuration) : List (IntegerVariable × Int) := [
  (IntegerVariable.metricsPort, c.metricsPort), (IntegerVariable.resyncSeconds, c.resyncSeconds),
  (IntegerVariable.healthPort, c.healthPort), (gateTimeout, c.gateTimeoutSeconds),
  (gatePoll, c.gatePollMilliseconds)]

theorem integers_fst (c : Configuration) : c.integers.map Prod.fst = all := rfl

/-- A configuration holds what the variables say. -/
structure Holds (vars : Variables) (c : Configuration) : Prop where
  texts : ∀ t ∈ c.texts, t.2.2 = (vars t.1).getD t.2.1
  integers : ∀ p ∈ c.integers, p.1.Takes vars p.2
  unset : c.tenantQuota = none ↔
    ∀ text ∈ vars "ENABLE_MANAGED_TENANT_QUOTA", allBlank text = true
  wanted : ∀ text ∈ vars "ENABLE_MANAGED_TENANT_QUOTA", allBlank text = false →
    c.tenantQuota = some (isYes text)

variable {vars : Variables} {c : Configuration} {f : Failure}

/-- The configuration that the variables give where the namespace is not blank. -/
def readAll (vars : Variables) : Except Failure Configuration := do
  return {
    space := (vars "OPERATOR_NAMESPACE").getD "kubevirt-hyperconverged"
    deployment := (vars "OPERATOR_DEPLOYMENT").getD "hco-operator"
    operatorName := (vars "OPERATOR_NAME").getD "hyperconverged-cluster-operator"
    operatorVersion := (vars "OPERATOR_VERSION").getD "unknown"
    managedBy := (vars "OPERATOR_MANAGED_BY").getD "hco-operator"
    clusterName := (vars "HC_NAME").getD "kubevirt-hyperconverged"
    monitoringSpace := (vars "MONITORING_NAMESPACE").getD "openshift-monitoring"
    metricsPort := ← IntegerVariable.metricsPort.read vars
    resyncSeconds := ← IntegerVariable.resyncSeconds.read vars
    healthPort := ← IntegerVariable.healthPort.read vars
    gateTimeoutSeconds := ← gateTimeout.read vars
    gatePollMilliseconds := ← gatePoll.read vars
    tenantQuota := readGate (vars "ENABLE_MANAGED_TENANT_QUOTA") }

/-- The namespace is given and blank. -/
def Nameless (vars : Variables) : Prop := ∃ text ∈ vars "OPERATOR_NAMESPACE", allBlank text = true

theorem load_of_nameless (nameless : Nameless vars) : load vars = .error .blankNamespace := by
  obtain ⟨text, given, blank⟩ := nameless
  rw [load, given]
  exact if_pos blank

theorem load_of_named (named : ¬ Nameless vars) : load vars = readAll vars := by
  have filled : allBlank ((vars "OPERATOR_NAMESPACE").getD "kubevirt-hyperconverged") = false := by
    cases given : vars "OPERATOR_NAMESPACE" with
    | none => rfl
    | some text => exact Bool.eq_false_iff.mpr fun blank => named ⟨text, given, blank⟩
  rw [load, if_neg (Bool.eq_false_iff.mp filled)]
  rfl

theorem readAll_error_iff : readAll vars = .error f ↔ FirstFault vars all f := by
  obtain ⟨port, resync, health, timeout, poll⟩ := all_mem
  simp only [readAll, bind_error_iff, read_error_iff, read_ok_iff, port, resync, health, timeout, poll]
  -- No reading depends on the value of an earlier one, so of each value only counts that there is one.
  simp only [all, firstFault_cons, not_firstFault_nil, exists_and_right, pure, Except.pure, reduceCtorEq,
    and_false, exists_false, or_false]

/-- The wanted state of the gate is read from its variable. -/
theorem readGate_iff {gate : Option Bool} (given : Option String) : readGate given = gate ↔
    (gate = none ↔ ∀ text ∈ given, allBlank text = true) ∧
      ∀ text ∈ given, allBlank text = false → gate = some (isYes text) := by
  cases given with
  | none =>
    constructor
    · rintro rfl
      exact ⟨iff_of_true rfl nofun, nofun⟩
    · rintro ⟨unset, -⟩
      exact (unset.mpr nofun).symm
  | some text =>
    simp only [Option.mem_some_iff, forall_eq']
    by_cases blank : allBlank text = true
    · rw [show readGate (some text) = none from if_pos blank]
      constructor
      · rintro rfl
        exact ⟨iff_of_true rfl blank, fun filled => absurd blank (Bool.eq_false_iff.mp filled)⟩
      · rintro ⟨unset, -⟩
        exact (unset.mpr blank).symm
    · rw [show readGate (some text) = some (isYes text) from if_neg blank]
      constructor
      · rintro rfl
        exact ⟨iff_of_false nofun blank, fun _ => rfl⟩
      · rintro ⟨-, wanted⟩
        exact (wanted (Bool.eq_false_iff.mpr blank)).symm

theorem readAll_ok_iff : readAll vars = .ok c ↔ Holds vars c := by
  obtain ⟨port, resync, health, timeout, poll⟩ := all_mem
  simp only [readAll, bind_ok_iff, pure_ok_iff, read_ok_iff, port, resync, health, timeout, poll]
  constructor
  · rintro ⟨m, metrics, r, resync, h, health, t, timeout, p, poll, rfl⟩
    have gate := (readGate_iff (vars "ENABLE_MANAGED_TENANT_QUOTA")).mp rfl
    refine ⟨by simp [texts], ?_, gate.1, gate.2⟩
    simp only [integers, List.forall_mem_cons]
    exact ⟨metrics, resync, health, timeout, poll, nofun⟩
  · rintro ⟨texts, integers, unset, wanted⟩
    simp only [Configuration.integers, List.forall_mem_cons] at integers
    obtain ⟨metrics, resync, health, timeout, poll, -⟩ := integers
    refine ⟨_, metrics, _, resync, _, health, _, timeout, _, poll, ?_⟩
    simp only [Configuration.texts, List.forall_mem_cons] at texts
    obtain ⟨space, deployment, operatorName, version, managedBy, clusterName, monitoring, -⟩ := texts
    rw [← space, ← deployment, ← operatorName, ← version, ← managedBy, ← clusterName, ← monitoring,
      (readGate_iff _).mpr ⟨unset, wanted⟩]

theorem load_ok_iff : load vars = .ok c ↔ ¬ Nameless vars ∧ Holds vars c := by
  by_cases nameless : Nameless vars
  · rw [load_of_nameless nameless]
    exact ⟨nofun, fun loaded => absurd nameless loaded.1⟩
  · rw [load_of_named nameless, readAll_ok_iff, and_iff_right nameless]

theorem load_error_iff : load vars = .error f ↔
    Nameless vars ∧ f = .blankNamespace ∨ ¬ Nameless vars ∧ FirstFault vars all f := by
  by_cases nameless : Nameless vars
  · simp [load_of_nameless nameless, nameless, eq_comm]
  · simp [load_of_named nameless, nameless, readAll_error_iff]

/-- The integers of a configuration are within the bounds of their variables. -/
theorem Holds.bounds (holds : Holds vars c) :
    (1 ≤ c.metricsPort ∧ c.metricsPort ≤ 65535) ∧ 1 ≤ c.resyncSeconds ∧
      (1 ≤ c.healthPort ∧ c.healthPort ≤ 65535) ∧ 1 ≤ c.gateTimeoutSeconds ∧
        10 ≤ c.gatePollMilliseconds ∧ c.gatePollMilliseconds ≤ 60000 := by
  have allowed := holds.integers
  simp only [Configuration.integers, List.forall_mem_cons] at allowed
  obtain ⟨metrics, resync, health, timeout, poll, -⟩ := allowed
  obtain ⟨port, each, probes, limit, pace⟩ := all_mem
  exact ⟨⟨(metrics.allows port).1 1 rfl, (metrics.allows port).2 65535 rfl⟩,
    (resync.allows each).1 1 rfl, ⟨(health.allows probes).1 1 rfl, (health.allows probes).2 65535 rfl⟩,
    (timeout.allows limit).1 1 rfl, (poll.allows pace).1 10 rfl, (poll.allows pace).2 60000 rfl⟩

/-- The pace of a gate between ten milliseconds and a minute is rounded to a positive number close by. -/
theorem exists_pace (least : 10 ≤ c.gatePollMilliseconds) (most : c.gatePollMilliseconds ≤ 60000) :
    ∃ p, Binary64.ofRat c.gatePollSeconds = .finite p ∧ 0 < p ∧
      |p - c.gatePollMilliseconds / 1000| ≤ c.gatePollMilliseconds / 1000 / 2 ^ 53 := by
  have least' : (10 : ℚ) ≤ c.gatePollMilliseconds := by exact_mod_cast least
  have most' : (c.gatePollMilliseconds : ℚ) ≤ 60000 := by exact_mod_cast most
  have low : 1 / 2 ^ 7 ≤ c.gatePollSeconds := by
    rw [gatePollSeconds, le_div_iff₀ (by norm_num)]
    norm_num
    linarith
  have high : c.gatePollSeconds < 2 ^ 6 := by
    rw [gatePollSeconds, div_lt_iff₀ (by norm_num)]
    norm_num
    linarith
  have normal : (2 : ℚ) ^ (-1022 : ℤ) ≤ c.gatePollSeconds := by
    refine le_trans ?_ low
    rw [one_div, ← zpow_natCast, ← zpow_neg]
    exact zpow_le_zpow_right₀ one_le_two (by norm_num)
  have small : c.gatePollSeconds < 2 ^ 1023 :=
    high.trans (pow_lt_pow_right₀ one_lt_two (by norm_num))
  obtain ⟨p, rounded, near⟩ := Binary64.exists_ofRat normal small
  have positive : 0 < c.gatePollSeconds := lt_of_lt_of_le (by norm_num) low
  have slack : c.gatePollSeconds / 2 ^ 53 < c.gatePollSeconds := div_lt_self positive (by norm_num)
  have above := (abs_le.mp near).1
  exact ⟨p, rounded, by linarith, near⟩

/-- Which configurations are accepted, and what they are good for. -/
structure Acceptance (vars : Variables) : Prop where
  nameless : load vars = .error .blankNamespace ↔ Nameless vars
  /-- the first variable that is wrong is the one that is reported -/
  faulty : ∀ f, f ≠ .blankNamespace →
    (load vars = .error f ↔ ¬ Nameless vars ∧ FirstFault vars all f)
  named : ∀ v f, Complaint v vars f → f.title = "ValueError" ∧ ∃ rest, f.message = v.name ++ rest
  accepted : (∃ c, load vars = .ok c) ↔ ¬ Nameless vars ∧ ∀ v ∈ all, ∃ n, v.Takes vars n
  loaded : ∀ c, load vars = .ok c ↔ ¬ Nameless vars ∧ Holds vars c
  bounds : ∀ c, load vars = .ok c →
    (1 ≤ c.metricsPort ∧ c.metricsPort ≤ 65535) ∧ 1 ≤ c.resyncSeconds ∧
      (1 ≤ c.healthPort ∧ c.healthPort ≤ 65535) ∧ 1 ≤ c.gateTimeoutSeconds ∧
        10 ≤ c.gatePollMilliseconds ∧ c.gatePollMilliseconds ≤ 60000
  /-- the operator can be built, whatever owns it, and its gate is polled at a positive interval -/
  built : ∀ c owner, load vars = .ok c → ∃ g p,
    Operator.build Binary64.ofRat c owner = .ok ⟨c, { owner }, some g⟩ ∧
      g.timeout = .int c.gateTimeoutSeconds ∧ g.interval = .real (.finite p) ∧ 0 < p ∧
        |p - c.gatePollMilliseconds / 1000| ≤ c.gatePollMilliseconds / 1000 / 2 ^ 53

theorem load_acceptance (vars : Variables) : Acceptance vars where
  nameless := by
    rw [load_error_iff]
    constructor
    · rintro (⟨nameless, -⟩ | ⟨-, -, v, -, -, -, complaint⟩)
      · exact nameless
      · cases complaint
    · exact fun nameless => .inl ⟨nameless, rfl⟩
  faulty f other := by
    rw [load_error_iff]
    exact or_iff_right fun both => other both.2
  named _ _ := Complaint.names
  accepted := by
    constructor
    · rintro ⟨c, loaded⟩
      obtain ⟨named, holds⟩ := load_ok_iff.mp loaded
      refine ⟨named, fun v known => ?_⟩
      obtain ⟨p, member, rfl⟩ := List.mem_map.mp (c.integers_fst ▸ known)
      exact ⟨p.2, holds.integers p member⟩
    · rintro ⟨named, takes⟩
      cases loaded : load vars with
      | ok c => exact ⟨c, rfl⟩
      | error f =>
        rcases load_error_iff.mp loaded with ⟨nameless, -⟩ | ⟨-, before, v, after, order, -, complaint⟩
        · exact absurd nameless named
        · have known : v ∈ all := order ▸ by simp
          obtain ⟨n, value⟩ := takes v known
          exact absurd value (complaint.not_takes known)
  loaded c := load_ok_iff
  bounds c ok := (load_ok_iff.mp ok).2.bounds
  built c owner ok := by
    obtain ⟨-, -, -, lasting, least, most⟩ := (load_ok_iff.mp ok).2.bounds
    obtain ⟨p, rounded, positive, near⟩ := exists_pace least most
    refine ⟨Operator.gateOf Binary64.ofRat c, p, ?_, rfl, congrArg Value.real rounded, positive, near⟩
    rw [Operator.build, Gate.check_ok rfl lasting (congrArg Value.real rounded) positive]
    rfl

/-- An information separator is a blank, and a namespace of it is blank, but no integer may begin with
    it. -/
theorem load_separator :
    let only (name text : String) : Variables := fun asked => if asked = name then some text else none
    isBlank '\x1c' = true ∧ "\x1c5".toList = ['\x1c'] ++ "5".toList ∧ IsInteger "5" 5 ∧
      IntegerVariable.metricsPort.Allows 5 ∧
      load (only "METRICS_PORT" "\x1c5") = .error (.notAnInteger "METRICS_PORT") ∧
      load (only "OPERATOR_NAMESPACE" "\x1c") = .error .blankNamespace := by
  refine ⟨by decide, rfl, readInteger?_iff.mp (by decide), ?_, ?_, ?_⟩
  · simp [Allows, IntegerVariable.metricsPort]
  · rfl
  · rfl

end Configuration

end MonitoringUpkeep
