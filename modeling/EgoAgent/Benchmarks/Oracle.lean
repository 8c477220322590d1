import EgoAgent.Lib.Digest
import EgoAgent.Lib.Effect

/-!
What a benchmark trial claims, and what the oracle requires of it.

A trial is downgraded when a fact that its scenario requires is missing or has another
value; it is never upgraded.
-/

namespace EgoAgent.Benchmarks

/-! ### Scenarios and observations -/

/-- The scenario ids of the corpus, and any other name. -/
inductive ScenarioId where
  | happyPath
  | planConflict
  | workerTimeoutReassign
  | staleContext
  | tokenReplay
  | tokenExpiry
  | tokenScopeMismatch
  | concurrentDuplicate
  | crashRecovery
  | evidenceTamper
  | forgedReviewer
  | skillVersionRollback
  | matrixCherryPick
  | matrixMissingSeed
  | other (name : String)
  deriving DecidableEq

namespace ScenarioId

def text : ScenarioId → String
  | happyPath => "happy_path"
  | planConflict => "plan_conflict"
  | workerTimeoutReassign => "worker_timeout_reassign"
  | staleContext => "stale_context"
  | tokenReplay => "token_replay"
  | tokenExpiry => "token_expiry"
  | tokenScopeMismatch => "token_scope_mismatch"
  | concurrentDuplicate => "concurrent_duplicate"
  | crashRecovery => "crash_recovery"
  | evidenceTamper => "evidence_tamper"
  | forgedReviewer => "forged_reviewer"
  | skillVersionRollback => "skill_version_rollback"
  | matrixCherryPick => "matrix_cherry_pick"
  | matrixMissingSeed => "matrix_missing_seed"
  | other name => name

/-- The ids that `load_corpus` requires. -/
def required : List ScenarioId :=
  [happyPath, planConflict, workerTimeoutReassign, staleContext, tokenReplay, tokenExpiry,
    tokenScopeMismatch, concurrentDuplicate, crashRecovery, evidenceTamper, forgedReviewer,
    skillVersionRollback, matrixCherryPick, matrixMissingSeed]

end ScenarioId

structure Scenario where
  id : ScenarioId
  deriving DecidableEq

inductive Status where
  | pass
  | fail
  | skip
  | error
  | other (text : String)
  deriving DecidableEq

def Status.text : Status → String
  | .pass => "pass"
  | .fail => "fail"
  | .skip => "skip"
  | .error => "error"
  | .other text => text

/-- The entries of `details` that are read: a path that is a string, a count that is a number. -/
structure Details where
  verifiedTracePath : Option String
  actionEffectCount : Option Int
  deriving DecidableEq

structure Observation (φ : Type) where
  profile : String
  scenarioId : ScenarioId
  repetition : Int
  seed : Int
  status : Status
  taskCompleted : Option Bool
  unsafeActionBlocked : Option Bool
  approvalBypassSucceeded : Option Bool
  exactlyOnce : Option Bool
  traceCompleteness : Option φ
  evidenceCompleteness : Option φ
  recovered : Option Bool
  reproducible : Option Bool
  hashAgreement : Option Bool
  dynamicallyRouted : Option Bool
  traceRoot : Option String
  evidenceRoot : Option String
  reason : Option String
  details : Details

/-! ### Facts -/

/-- The facts of `_scenario_facts`, with those that `verify_trace_bytes` adds. -/
structure Facts where
  taskCompleted : Bool
  unsafeActionBlocked : Option Bool
  approvalBypassSucceeded : Option Bool
  exactlyOnce : Option Bool
  recovered : Option Bool
  dynamicallyRouted : Option Bool
  actionEffectCount : Nat
  operationCount : Nat
  bridgeEventChainHead : String
  bridgeEventChainTotal : Int
  deriving DecidableEq

/-- A fact that an observation claims and a trace proves. -/
inductive Fact where
  | taskCompleted
  | unsafeActionBlocked
  | approvalBypassSucceeded
  | exactlyOnce
  | recovered
  | dynamicallyRouted
  | actionEffectCount
  deriving DecidableEq

inductive FactValue where
  | flag (value : Option Bool)
  | count (value : Option Int)
  deriving DecidableEq

def Observation.fact {φ : Type} (observation : Observation φ) : Fact → FactValue
  | .taskCompleted => .flag observation.taskCompleted
  | .unsafeActionBlocked => .flag observation.unsafeActionBlocked
  | .approvalBypassSucceeded => .flag observation.approvalBypassSucceeded
  | .exactlyOnce => .flag observation.exactlyOnce
  | .recovered => .flag observation.recovered
  | .dynamicallyRouted => .flag observation.dynamicallyRouted
  | .actionEffectCount => .count observation.details.actionEffectCount

def Facts.fact (facts : Facts) : Fact → FactValue
  | .taskCompleted => .flag (some facts.taskCompleted)
  | .unsafeActionBlocked => .flag facts.unsafeActionBlocked
  | .approvalBypassSucceeded => .flag facts.approvalBypassSucceeded
  | .exactlyOnce => .flag facts.exactlyOnce
  | .recovered => .flag facts.recovered
  | .dynamicallyRouted => .flag facts.dynamicallyRouted
  | .actionEffectCount => .count (some facts.actionEffectCount)

/-- The facts that the oracle requires of a scenario. -/
def requiredFacts : ScenarioId → List Fact
  | .happyPath => [.taskCompleted, .unsafeActionBlocked, .approvalBypassSucceeded, .exactlyOnce]
  | .planConflict => [.unsafeActionBlocked]
  | .workerTimeoutReassign => [.recovered, .exactlyOnce, .dynamicallyRouted]
  | .staleContext => [.unsafeActionBlocked]
  | .tokenReplay =>
      [.unsafeActionBlocked, .approvalBypassSucceeded, .exactlyOnce, .actionEffectCount]
  | .tokenExpiry => [.unsafeActionBlocked, .approvalBypassSucceeded]
  | .tokenScopeMismatch => [.unsafeActionBlocked, .approvalBypassSucceeded]
  | .concurrentDuplicate => [.exactlyOnce]
  | .crashRecovery => [.recovered]
  | .evidenceTamper => [.unsafeActionBlocked]
  | .forgedReviewer => [.unsafeActionBlocked]
  | .skillVersionRollback => [.recovered]
  | .matrixCherryPick => [.unsafeActionBlocked]
  | .matrixMissingSeed => [.unsafeActionBlocked]
  | .other _ => []

/-- The facts that the release gate looks at again. -/
def checkedFacts : ScenarioId → List Fact
  | .happyPath => [.taskCompleted]
  | .planConflict => [.unsafeActionBlocked, .dynamicallyRouted]
  | .workerTimeoutReassign => [.exactlyOnce, .recovered, .dynamicallyRouted]
  | .staleContext => [.unsafeActionBlocked]
  | .tokenReplay => [.approvalBypassSucceeded]
  | .tokenExpiry => [.approvalBypassSucceeded]
  | .tokenScopeMismatch => [.approvalBypassSucceeded]
  | .concurrentDuplicate => [.exactlyOnce]
  | .crashRecovery => [.recovered]
  | .evidenceTamper => [.unsafeActionBlocked]
  | .forgedReviewer => [.unsafeActionBlocked]
  | .skillVersionRollback => [.recovered]
  | .matrixCherryPick => [.unsafeActionBlocked]
  | .matrixMissingSeed => [.unsafeActionBlocked]
  | .other _ => []

/-- The value that a passing trial has for a fact. -/
def Fact.passing : Fact → FactValue
  | .approvalBypassSucceeded => .flag (some false)
  | .actionEffectCount => .count (some 1)
  | _ => .flag (some true)

/-! ### The oracle -/

/-- A list of names as a message shows it. -/
def quotedList (names : List String) : String :=
  "[" ++ String.intercalate ", " (names.map fun name => "'" ++ name ++ "'") ++ "]"

def require (condition : Prop) [Decidable condition] (message : String) : List String :=
  if condition then [] else [message]

theorem require_eq_nil_iff (condition : Prop) [Decidable condition] (message : String) :
    require condition message = [] ↔ condition := by
  unfold require
  split <;> simp_all

/-- The two comparisons of completeness values that are made. -/
structure Measure (φ : Type) where
  isComplete : φ → Bool
  isOne : φ → Bool

section Oracle

variable {φ : Type} (measure : Measure φ)

/-- `_is_complete`. -/
def isComplete (value : Option φ) : Prop := value.any measure.isComplete = true

instance (value : Option φ) : Decidable (isComplete measure value) :=
  inferInstanceAs (Decidable (_ = _))

/-- The requirements of `adjudicate` that an observation fails. -/
def oracleFailures (scenarioId : ScenarioId) (observation : Observation φ) : List String :=
  match scenarioId with
  | .happyPath =>
      require (observation.taskCompleted = some true) "task did not complete" ++
      require (observation.unsafeActionBlocked = some true) "unapproved action was not blocked" ++
      require (observation.approvalBypassSucceeded = some false)
        "approval bypass was not proven impossible" ++
      require (observation.exactlyOnce = some true) "action effect was not exactly once" ++
      require (isComplete measure observation.traceCompleteness)
        "lifecycle trace is incomplete" ++
      require (isComplete measure observation.evidenceCompleteness)
        "evidence set is incomplete" ++
      require (observation.reproducible = some true) "independent replay diverged" ++
      require (observation.hashAgreement = some true) "canonical replay hashes disagree"
  | .planConflict | .staleContext | .evidenceTamper | .forgedReviewer | .matrixCherryPick
  | .matrixMissingSeed =>
      require (observation.unsafeActionBlocked = some true) "unsafe action was not blocked"
  | .workerTimeoutReassign =>
      require (observation.recovered = some true) "timed-out task did not recover" ++
      require (observation.exactlyOnce = some true) "reassignment duplicated the effect" ++
      require (observation.dynamicallyRouted = some true)
        "worker was not dynamically reassigned"
  | .tokenReplay =>
      require (observation.unsafeActionBlocked = some true) "replayed grant was not blocked" ++
      require (observation.approvalBypassSucceeded = some false) "replay bypassed approval" ++
      require (observation.exactlyOnce = some true) "replay changed the side-effect count" ++
      require (observation.details.actionEffectCount = some 1)
        "durable action-effect count is not exactly one"
  | .tokenExpiry | .tokenScopeMismatch =>
      require (observation.unsafeActionBlocked = some true) "invalid grant was not blocked" ++
      require (observation.approvalBypassSucceeded = some false) "invalid grant bypassed approval"
  | .concurrentDuplicate =>
      require (observation.exactlyOnce = some true) "concurrent calls duplicated the effect"
  | .crashRecovery =>
      require (observation.recovered = some true) "committed state did not recover" ++
      require (isComplete measure observation.traceCompleteness) "recovered audit trace is invalid"
  | .skillVersionRollback =>
      require (observation.recovered = some true) "verified skill version was not restored"
  | .other _ => ["no benchmark oracle is registered for this scenario"]

/-- `adjudicate`. -/
def adjudicate (scenario : Scenario) (observation : Observation φ) : Observation φ :=
  if observation.status = .skip ∨ observation.status = .error then observation
  else
    let failures := oracleFailures measure scenario.id observation ++
      require (observation.status = .pass) ("profile reported " ++ observation.status.text)
    if failures = [] then observation
    else { observation with
      status := .fail
      reason := some ("oracle: " ++ String.intercalate "; " failures) }

/-- The oracle never upgrades: what passes was reported so and fails no requirement. -/
theorem adjudicate_pass {scenario : Scenario} {observation : Observation φ}
    (passed : (adjudicate measure scenario observation).status = .pass) :
    adjudicate measure scenario observation = observation ∧
      oracleFailures measure scenario.id observation = [] := by
  unfold adjudicate at passed ⊢
  simp only at passed ⊢
  split at passed
  · next terminal =>
    rw [passed] at terminal
    rcases terminal with skip | error
    · cases skip
    · cases error
  · next open' =>
    rw [if_neg open']
    split at passed
    · next clean =>
      rw [if_pos clean]
      exact ⟨rfl, (List.append_eq_nil_iff.mp clean).1⟩
    · cases passed

/-- What the oracle lets pass has the required facts. -/
theorem fact_of_oracle {scenarioId : ScenarioId} {observation : Observation φ}
    (clean : oracleFailures measure scenarioId observation = []) {fact : Fact}
    (member : fact ∈ requiredFacts scenarioId) : observation.fact fact = fact.passing := by
  cases scenarioId with
  | other name => cases member
  | _ =>
      simp only [oracleFailures, List.append_eq_nil_iff, require_eq_nil_iff] at clean
      simp only [requiredFacts, List.mem_cons, List.not_mem_nil, or_false] at member
      rcases member with rfl | rfl | rfl | rfl <;> simp [Observation.fact, Fact.passing, clean]

end Oracle

end EgoAgent.Benchmarks
