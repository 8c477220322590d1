import EgoAgent.Benchmarks.Runner
import EgoAgent.Lib.Related

/-!
What an empty list of release gate failures says about the run behind it.

Every trial of the profile then passed, every scenario has the full number of them, and
each has a bundle whose trace verifies again with the trial's roots.  Nothing compares
the labels of an observation with the call that returned it, so the repetitions and
seeds of the corpus follow only for a profile that keeps them.
-/

namespace EgoAgent.Benchmarks

section Run

variable {φ π : Type} [DecidableEq π] (platform : Platform φ π)

/-! ### Runs -/

/-- A bundle of the trial, from the seed of its call. -/
def Filed (masterSeed : Int) (bundles : Dict π Bundle) (trial : Trial φ)
    (observation : Observation φ) : Prop :=
  ∃ bundle, bundles.get? (place platform observation) = some bundle ∧
    bundle.manifest.seed = trial.seed platform masterSeed

/-- The observation is what the oracle made of the call's. -/
def Answers (masterSeed : Int) (trial : Trial φ) (observation : Observation φ) : Prop :=
  ∃ raw workspace, trial.profile.run trial.scenario (trial.seed platform masterSeed)
      trial.repetition = .ok (raw, workspace) ∧
    observation = adjudicate platform.measure trial.scenario raw

def rooted (observations : List (Observation φ)) : List (Observation φ) :=
  observations.filter fun observation => truthy observation.traceRoot

/-- A run state after some trials: one observation for each, and one bundle for each
observation with a trace root. -/
structure Recorded (masterSeed : Int) (done : List (Trial φ)) (state : RunState φ π) :
    Prop where
  answers : List.Forall₂ (Answers platform masterSeed) done state.observations
  places : ∀ bundles, state.evidence = some bundles →
    bundles.keys = (rooted state.observations).map (place platform) ∧ bundles.keys.Nodup
  filed : ∀ bundles, state.evidence = some bundles →
    List.Forall₂ (fun trial observation => truthy observation.traceRoot = true →
      Filed platform masterSeed bundles trial observation) done state.observations

variable {observation : Observation φ}

/-- A bundle is persisted where there was none, with the seed of the call. -/
theorem persistEvidenceBundle_eq_ok {scenario : Scenario}
    {seed : Int} {workspace : Workspace} {bundles later : Dict π Bundle}
    (persisted : persistEvidenceBundle platform observation scenario seed workspace bundles =
      .ok later) :
    place platform observation ∉ bundles.keys ∧ ∃ bundle : Bundle,
      bundle.manifest.seed = seed ∧ later = bundles.set (place platform observation) bundle := by
  unfold persistEvidenceBundle at persisted
  obtain ⟨_, persisted⟩ := (raiseIf_bind_eq_ok _ _ _ _).mp persisted
  obtain ⟨_, _, persisted⟩ := (bind_eq_ok _ _ _).mp persisted
  obtain ⟨trace, _, persisted⟩ := (bind_eq_ok _ _ _).mp persisted
  obtain ⟨verified, _, persisted⟩ := (bind_eq_ok _ _ _).mp persisted
  obtain ⟨_, persisted⟩ := (raiseIf_bind_eq_ok _ _ _ _).mp persisted
  obtain ⟨_, persisted⟩ := (raiseIf_bind_eq_ok _ _ _ _).mp persisted
  obtain ⟨_, created, persisted⟩ := (bind_eq_ok _ _ _).mp persisted
  cases persisted
  exact ⟨platform.create_new _ _ created, _, rfl, rfl⟩

variable {masterSeed : Int}

/-- What one trial does to the run. -/
theorem runTrial_eq_ok {corpus : Corpus} {state later : RunState φ π}
    {trial : Trial φ} (ran : runTrial platform corpus masterSeed state trial = .ok later) :
    ∃ observation, Answers platform masterSeed trial observation ∧
      later.observations = state.observations ++ [observation] ∧
      ((later.evidence = state.evidence ∧
          (state.evidence = none ∨ truthy observation.traceRoot = false)) ∨
        ∃ bundles bundle, state.evidence = some bundles ∧
          truthy observation.traceRoot = true ∧ place platform observation ∉ bundles.keys ∧
          bundle.manifest.seed = trial.seed platform masterSeed ∧
          later.evidence = some (bundles.set (place platform observation) bundle)) := by
  unfold runTrial at ran
  simp only at ran
  obtain ⟨⟨raw, workspace⟩, returned, ran⟩ := (bind_eq_ok _ _ _).mp ran
  simp only at ran
  refine ⟨_, ⟨raw, workspace, returned, rfl⟩, ?_⟩
  rcases kept : state.evidence with _ | bundles
  · simp only [kept] at ran
    cases ran
    exact ⟨rfl, .inl ⟨rfl, .inl rfl⟩⟩
  · simp only [kept] at ran
    split at ran
    · next isRooted =>
      obtain ⟨scenario, _, ran⟩ := (bind_eq_ok _ _ _).mp ran
      obtain ⟨_, persisted, ran⟩ := (bind_eq_ok _ _ _).mp ran
      obtain ⟨new, bundle, seeded, rfl⟩ := persistEvidenceBundle_eq_ok platform persisted
      cases ran
      exact ⟨rfl, .inr ⟨bundles, bundle, rfl, isRooted, new, seeded, rfl⟩⟩
    · next unrooted =>
      cases ran
      exact ⟨rfl, .inl ⟨rfl, .inr (Bool.eq_false_of_not_eq_true unrooted)⟩⟩

theorem Filed.set {bundles : Dict π Bundle} {trial : Trial φ}
    (filed : Filed platform masterSeed bundles trial observation)
    {other : π} (new : other ∉ bundles.keys) (bundle : Bundle) :
    Filed platform masterSeed (bundles.set other bundle) trial observation := by
  obtain ⟨held, present, seeded⟩ := filed
  refine ⟨held, ?_, seeded⟩
  rw [Dict.get?_set_ne]
  · exact present
  · rintro rfl
    exact new ((Dict.mem_keys_iff _ _).mpr ⟨held, present⟩)

/-- One more trial is recorded. -/
theorem Recorded.step {corpus : Corpus} {masterSeed : Int} {done : List (Trial φ)}
    {state later : RunState φ π} {trial : Trial φ}
    (recorded : Recorded platform masterSeed done state)
    (ran : runTrial platform corpus masterSeed state trial = .ok later) :
    Recorded platform masterSeed (done ++ [trial]) later := by
  obtain ⟨observation, answers, observations, outcome⟩ := runTrial_eq_ok platform ran
  have rootedLater : rooted later.observations = rooted state.observations ++
      if truthy observation.traceRoot = true then [observation] else [] := by
    rw [observations, rooted, rooted, List.filter_append, List.filter_singleton]
    split <;> simp_all
  constructor
  · rw [observations]
    exact List.rel_append recorded.answers (.cons answers .nil)
  · intro bundles kept
    rcases outcome with ⟨same, absent | unrooted⟩ | ⟨before, bundle, held, isRooted, new, _, set⟩
    · cases (kept.symm.trans same).trans absent
    · rw [rootedLater, if_neg (Bool.eq_false_iff.mp unrooted), List.append_nil]
      exact recorded.places bundles (same.symm.trans kept)
    · obtain rfl := Option.some.inj (kept.symm.trans set)
      have ⟨keys, distinct⟩ := recorded.places before held
      rw [rootedLater, if_pos isRooted, List.map_append, List.map_singleton, ← keys,
        Dict.keys_set_of_not_mem _ _ new]
      exact ⟨rfl, List.nodup_append.mpr ⟨distinct, List.nodup_singleton _, by
        intro left inBefore right inNew same
        rw [List.mem_singleton.mp inNew] at same
        exact new (same ▸ inBefore)⟩⟩
  · intro bundles kept
    rw [observations]
    rcases outcome with ⟨same, absent | unrooted⟩ | ⟨before, bundle, held, isRooted, new, seeded,
      set⟩
    · cases (kept.symm.trans same).trans absent
    · refine List.rel_append (recorded.filed bundles (same.symm.trans kept)) (.cons ?_ .nil)
      intro isRooted
      cases unrooted.symm.trans isRooted
    · obtain rfl := Option.some.inj (kept.symm.trans set)
      refine List.rel_append ((recorded.filed before held).imp ?_) (.cons ?_ .nil)
      · intro _ _ filed isRooted
        exact (filed isRooted).set platform new bundle
      · intro _
        exact ⟨bundle, Dict.get?_set_self _ _ _, seeded⟩

/-- The loops record every trial. -/
theorem Recorded.run {corpus : Corpus} (rest : List (Trial φ)) :
    ∀ {done : List (Trial φ)} {state later : RunState φ π},
      Recorded platform masterSeed done state →
      rest.foldlM (runTrial platform corpus masterSeed) state = .ok later →
      Recorded platform masterSeed (done ++ rest) later := by
  induction rest with
  | nil =>
      intro done state later recorded ran
      cases ran
      rw [List.append_nil]
      exact recorded
  | cons trial rest ih =>
      intro done state later recorded ran
      rw [List.foldlM_cons] at ran
      obtain ⟨middle, ranTrial, ran⟩ := (bind_eq_ok _ _ _).mp ran
      have recorded := ih (recorded.step platform ranTrial) ran
      rw [List.append_assoc, List.singleton_append] at recorded
      exact recorded

theorem runBenchmark_eq_ok {profiles : List (Profile φ)} {corpus : Corpus} {repetitions : Nat}
    {evidence after : Option (Dict π Bundle)} {result : Result φ}
    (ran : runBenchmark platform profiles corpus repetitions masterSeed evidence =
      .ok (result, after)) :
    result.scenarios = corpus.scenarios ∧ result.repetitions = repetitions ∧
      Recorded platform masterSeed (trials profiles corpus repetitions)
        ⟨result.trials, after⟩ := by
  unfold runBenchmark at ran
  obtain ⟨_, ran⟩ := (raiseIf_bind_eq_ok _ _ _ _).mp ran
  obtain ⟨empty, ran⟩ := (raiseIf_bind_eq_ok _ _ _ _).mp ran
  obtain ⟨final, folded, ran⟩ := (bind_eq_ok _ _ _).mp ran
  obtain ⟨_, _, ran⟩ := (bind_eq_ok _ _ _).mp ran
  cases ran
  refine ⟨rfl, rfl, ?_⟩
  have started : Recorded platform masterSeed ([] : List (Trial φ)) ⟨[], evidence⟩ := by
    constructor
    · exact .nil
    · rintro bundles rfl
      cases bundles with
      | nil => exact ⟨rfl, List.nodup_nil⟩
      | cons entry rest => exact absurd rfl empty
    · exact fun _ _ => .nil
  exact Recorded.run platform _ started folded

end Run

section Gate

variable {φ π : Type} (platform : Platform φ π)

/-! ### The gate -/

variable {observation : Observation φ}

theorem mismatched_eq_nil {manifest : Manifest} (same : mismatched manifest observation = []) :
    observation.seed = manifest.seed ∧ observation.traceRoot = some manifest.traceRoot ∧
      observation.evidenceRoot = some manifest.evidenceRoot := by
  unfold mismatched at same
  simp only [List.append_eq_nil_iff, ite_eq_right_iff, List.cons_ne_nil, imp_false,
    not_not] at same
  obtain ⟨⟨⟨⟨⟨evidence, _⟩, _⟩, _⟩, seed⟩, trace⟩ := same
  exact ⟨seed, trace, evidence⟩

theorem replayEvidenceBundle_eq_ok {bundle : Option Bundle} {scenario : Scenario}
    (replayed : replayEvidenceBundle platform bundle scenario observation = .ok ()) :
    ∃ held verified, bundle = some held ∧ observation.seed = held.manifest.seed ∧
      verifyTraceBytes platform.reader held.trace scenario observation.seed = .ok verified ∧
      observation.traceRoot = some verified.traceRoot ∧
      observation.evidenceRoot = some verified.evidenceRoot := by
  unfold replayEvidenceBundle at replayed
  obtain ⟨held, present, replayed⟩ := (bind_eq_ok _ _ _).mp replayed
  obtain ⟨same, replayed⟩ := (raiseIf_bind_eq_ok _ _ _ _).mp replayed
  obtain ⟨verified, accepted, replayed⟩ := (bind_eq_ok _ _ _).mp replayed
  obtain ⟨trace, replayed⟩ := (raiseIf_bind_eq_ok _ _ _ _).mp replayed
  obtain ⟨evidence, _⟩ := (raiseIf_bind_eq_ok _ _ _ _).mp replayed
  obtain ⟨seed, traceRoot, evidenceRoot⟩ := mismatched_eq_nil (not_not.mp same)
  refine ⟨held, verified, (expect_eq_ok _ _ _).mp present, seed, accepted, ?_, ?_⟩
  · rw [traceRoot, not_not.mp trace]
  · rw [evidenceRoot, not_not.mp evidence]

/-- The fields of a passing trial that the gate looks at. -/
theorem fact_of_gate {trial : Observation φ} (clean : fieldFailures platform trial = [])
    {fact : Fact} (member : fact ∈ checkedFacts trial.scenarioId) :
    trial.fact fact = fact.passing := by
  unfold fieldFailures at clean
  simp only [List.append_eq_nil_iff, require_eq_nil_iff] at clean
  obtain ⟨⟨⟨⟨⟨⟨_, completed⟩, blocked⟩, bypass⟩, once⟩, recovered⟩, routed⟩ := clean
  cases id : trial.scenarioId with
  | other name =>
      rw [id] at member
      cases member
  | _ =>
      rw [id] at member completed blocked bypass once recovered routed
      simp only [checkedFacts, List.mem_cons, List.not_mem_nil, or_false] at member
      rcases member with rfl | rfl | rfl <;>
        simp_all [Observation.fact, Fact.passing, gateUnsafeScenarios, gateApprovalScenarios,
          gateExactlyOnceScenarios, recoveryScenarios, dynamicScenarios]

variable [DecidableEq π]

/-- The trials that carry a profile's name. -/
def ofProfile (result : Result φ) (profileName : String) : List (Observation φ) :=
  result.trials.filter fun trial => trial.profile = profileName

/-- What holds of a result when the gate finds nothing. -/
structure Passes (result : Result φ) (profileName : String) (bundles : Dict π Bundle) :
    Prop where
  total : (ofProfile result profileName).length =
    (result.scenarios.map Scenario.id).dedup.length * result.repetitions
  counts : ∀ id ∈ result.scenarios.map Scenario.id,
    statusCount (ofProfile result profileName) id .pass = result.repetitions
  each : ∀ trial ∈ ofProfile result profileName,
    trialFailures platform result.scenarios profileName (some bundles) trial = some []

private theorem flatten_of_mapM {α : Type} {check : α → Option (List String)} (items : List α) :
    ∀ {each}, items.mapM check = some each → each.flatten = [] →
      ∀ item ∈ items, check item = some [] := by
  induction items with
  | nil =>
      intro _ _ _ item member
      cases member
  | cons item rest ih =>
      intro each checked clean
      rw [List.mapM_cons] at checked
      obtain ⟨first, ofItem, checked⟩ := Option.bind_eq_some_iff.mp checked
      obtain ⟨others, ofRest, checked⟩ := Option.bind_eq_some_iff.mp checked
      cases checked
      obtain ⟨none, clean⟩ := List.append_eq_nil_iff.mp (List.flatten_cons ▸ clean)
      exact List.forall_mem_cons.mpr ⟨none ▸ ofItem, ih ofRest clean⟩

theorem summaryFailures_eq_nil_iff (result : Result φ) (all : List (Observation φ))
    (persistent : Bool) :
    summaryFailures result all persistent = [] ↔
      persistent = true ∧
      all.length = (result.scenarios.map Scenario.id).dedup.length * result.repetitions ∧
      (all.countP fun item => item.status = .skip) = 0 ∧
      (all.countP fun item => item.status = .error) = 0 ∧
      ((successClusters all).length = (result.scenarios.map Scenario.id).dedup.length ∧
        (successClusters all).countP (clusterPassed all) =
          (result.scenarios.map Scenario.id).dedup.length) ∧
      ∀ id ∈ (result.scenarios.map Scenario.id).dedup, id ∈ all.map Observation.scenarioId ∧
        statusCount all id .pass = result.repetitions ∧ statusCount all id .fail = 0 ∧
        statusCount all id .skip = 0 ∧ statusCount all id .error = 0 := by
  unfold summaryFailures
  simp only [List.append_eq_nil_iff, require_eq_nil_iff, List.flatMap_eq_nil_iff]
  simp only [sortedIds, List.mem_mergeSort, List.mem_filter, decide_eq_true_iff, summarize]
  constructor
  · rintro ⟨⟨⟨⟨⟨⟨persistent, total⟩, skipped⟩, errors⟩, clusters⟩, covered⟩, counts⟩
    exact ⟨persistent, total, skipped, errors, clusters,
      fun id expected => ⟨covered id expected, counts id ⟨expected, covered id expected⟩⟩⟩
  · rintro ⟨persistent, total, skipped, errors, clusters, each⟩
    exact ⟨⟨⟨⟨⟨⟨persistent, total⟩, skipped⟩, errors⟩, clusters⟩,
      fun id expected => (each id expected).1⟩, fun id held => (each id held.1).2⟩

variable {profileName : String} {result : Result φ}

theorem releaseGateFailures_eq_nil {evidence : Option (Dict π Bundle)}
    (clean : releaseGateFailures platform result profileName evidence = some []) :
    ∃ bundles, evidence = some bundles ∧ Passes platform result profileName bundles := by
  unfold releaseGateFailures at clean
  simp only at clean
  split at clean
  · cases clean
  · obtain ⟨each, checked, clean⟩ := Option.bind_eq_some_iff.mp clean
    obtain ⟨ofSummary, ofEach⟩ := List.append_eq_nil_iff.mp (Option.some.inj clean)
    obtain ⟨persistent, total, _, _, _, counts⟩ :=
      (summaryFailures_eq_nil_iff result _ _).mp ofSummary
    obtain ⟨bundles, rfl⟩ := Option.isSome_iff_exists.mp persistent
    refine ⟨bundles, rfl, total, ?_, flatten_of_mapM _ checked ofEach⟩
    intro id member
    exact (counts id (List.mem_dedup.mpr member)).2.1

/-! ### Counting -/

private theorem countP_mem {α β : Type} [DecidableEq β] (key : α → β) (good : α → Bool)
    (items : List α) {size : Nat} : ∀ {ids : List β}, ids.Nodup →
      (∀ id ∈ ids, items.countP (fun item => decide (key item = id) && good item) = size) →
      items.countP (fun item => decide (key item ∈ ids) && good item) = ids.length * size := by
  intro ids
  induction ids with
  | nil => simp
  | cons id rest ih =>
      intro distinct each
      obtain ⟨fresh, distinct⟩ := List.nodup_cons.mp distinct
      have ⟨first, others⟩ := List.forall_mem_cons.mp each
      have split : ∀ list : List α,
          list.countP (fun item => decide (key item ∈ id :: rest) && good item) =
            list.countP (fun item => decide (key item = id) && good item) +
              list.countP (fun item => decide (key item ∈ rest) && good item) := by
        intro list
        induction list with
        | nil => rfl
        | cons item tail ihTail =>
            simp only [List.countP_cons, ihTail]
            by_cases same : key item = id
            · subst same
              simp [fresh]
              omega
            · simp [same]
              omega
      rw [split, first, ih distinct others, List.length_cons, Nat.succ_mul, Nat.add_comm]

/-- Where every scenario has its full number of passing trials, no trial is anything else. -/
theorem Passes.all_pass {bundles : Dict π Bundle}
    (passes : Passes platform result profileName bundles)
    (distinct : (result.scenarios.map Scenario.id).Nodup) :
    ∀ trial ∈ ofProfile result profileName,
      trial.scenarioId ∈ result.scenarios.map Scenario.id ∧ trial.status = .pass := by
  have each : ∀ id ∈ result.scenarios.map Scenario.id,
      (ofProfile result profileName).countP (fun trial =>
        decide (trial.scenarioId = id) && decide (trial.status = .pass)) =
        result.repetitions := by
    intro id member
    rw [← passes.counts id member]
    unfold statusCount
    simp only [Bool.decide_and]
  have counted := countP_mem Observation.scenarioId (fun trial => decide (trial.status = .pass))
    (ofProfile result profileName) distinct each
  have full := passes.total
  rw [List.dedup_eq_self.mpr distinct] at full
  intro trial member
  have holds := List.countP_eq_length.mp (counted.trans full.symm) trial member
  rw [Bool.and_eq_true] at holds
  exact ⟨of_decide_eq_true holds.1, of_decide_eq_true holds.2⟩

/-! ### Trials and their bundles -/

/-- The bundle of a trial: its trace verifies for the scenario and a seed, has the roots of
the trial, and proves some of its facts. -/
def Verified (profileName : String) (bundles : Dict π Bundle) (trial : Observation φ)
    (seed : Int) (facts : List Fact) : Prop :=
  ∃ bundle verified,
    bundles.get? (platform.bundlePath profileName trial.scenarioId trial.repetition) =
      some bundle ∧
    verifyTraceBytes platform.reader bundle.trace ⟨trial.scenarioId⟩ seed = .ok verified ∧
    trial.traceRoot = some verified.traceRoot ∧ trial.evidenceRoot = some verified.evidenceRoot ∧
    ∀ fact ∈ facts, trial.fact fact = verified.facts.fact fact

/-- A passing trial that the gate accepts has a root and a bundle that replays. -/
theorem Passes.replays {bundles : Dict π Bundle}
    (passes : Passes platform result profileName bundles) {trial : Observation φ}
    (member : trial ∈ ofProfile result profileName) (passed : trial.status = .pass) :
    truthy trial.traceRoot = true ∧ fieldFailures platform trial = [] ∧
      ∃ bundle verified,
        bundles.get? (platform.bundlePath profileName trial.scenarioId trial.repetition) =
          some bundle ∧ trial.seed = bundle.manifest.seed ∧
        verifyTraceBytes platform.reader bundle.trace ⟨trial.scenarioId⟩ trial.seed =
          .ok verified ∧
        trial.traceRoot = some verified.traceRoot ∧
        trial.evidenceRoot = some verified.evidenceRoot := by
  have clean := passes.each trial member
  unfold trialFailures at clean
  rw [if_neg (not_not.mpr passed)] at clean
  obtain ⟨scenario, found, clean⟩ := Option.bind_eq_some_iff.mp clean
  have known : scenario = ⟨trial.scenarioId⟩ := by
    have same := List.find?_some found
    cases scenario
    exact congrArg Scenario.mk (of_decide_eq_true same)
  subst known
  simp only at clean
  split at clean
  · next replayed =>
    have fields := Option.some.inj clean
    refine ⟨?_, fields, ?_⟩
    · unfold fieldFailures at fields
      simp only [List.append_eq_nil_iff, require_eq_nil_iff] at fields
      exact fields.1.1.1.1.1.1.1.2
    · exact replayEvidenceBundle_eq_ok platform replayed
  · have fields := Option.some.inj clean
    cases (List.append_eq_nil_iff.mp fields).2

/-! ### Releases -/

section Release

variable (profiles : List (Profile φ)) (corpus : Corpus) (repetitions : Nat) (masterSeed : Int)
  (profileName : String)

/-- What every run says about a profile that the gate finds nothing wrong with. -/
structure Sound (result : Result φ) (bundles : Dict π Bundle) : Prop where
  passed : ∀ trial ∈ ofProfile result profileName,
    trial.status = .pass ∧ trial.scenarioId ∈ corpus.scenarios.map Scenario.id
  full : ∀ scenario ∈ corpus.scenarios,
    ((ofProfile result profileName).filter fun trial =>
      trial.scenarioId = scenario.id).length = repetitions
  labels : ((ofProfile result profileName).map fun trial =>
    (trial.scenarioId, trial.repetition)).Nodup
  verified : ∀ trial ∈ ofProfile result profileName,
    Verified platform profileName bundles trial trial.seed (checkedFacts trial.scenarioId)
  called : ∀ trial ∈ ofProfile result profileName, ∃ call ∈ trials profiles corpus repetitions,
    Answers platform masterSeed call trial ∧ trial.seed = call.seed platform masterSeed

/-- What carries the profile's name is labelled with the scenario and repetition of its call. -/
def Labelled : Prop :=
  ∀ call ∈ trials profiles corpus repetitions, ∀ raw workspace,
    call.profile.run call.scenario (call.seed platform masterSeed) call.repetition =
        .ok (raw, workspace) →
      raw.profile = profileName →
        raw.scenarioId = call.scenario.id ∧ raw.repetition = call.repetition

/-- Each scenario and repetition has one trial, with a bundle for its derived seed that
proves the facts the oracle requires. -/
def Proven (result : Result φ) (bundles : Dict π Bundle) : Prop :=
  ∀ scenario ∈ corpus.scenarios, ∀ repetition < repetitions, ∃ trial,
    (result.trials.filter fun trial => trial.profile = profileName ∧
      trial.scenarioId = scenario.id ∧ trial.repetition = (repetition : Int)) = [trial] ∧
    Verified platform profileName bundles trial
      (deriveSeed platform.sha256 masterSeed scenario.id repetition) (requiredFacts scenario.id)

variable {profiles corpus repetitions masterSeed profileName}

variable {result : Result φ}

theorem mem_ofProfile {trial : Observation φ} :
    trial ∈ ofProfile result profileName ↔
      trial ∈ result.trials ∧ trial.profile = profileName := by
  rw [ofProfile, List.mem_filter, decide_eq_true_iff]

variable {bundles : Dict π Bundle}

/-- Trials with bundles of their own have labels of their own. -/
theorem labels_nodup (recorded : Recorded platform masterSeed (trials profiles corpus repetitions)
      ⟨result.trials, some bundles⟩)
    (isRooted : ∀ trial ∈ ofProfile result profileName, truthy trial.traceRoot = true) :
    ((ofProfile result profileName).map fun trial =>
      (trial.scenarioId, trial.repetition)).Nodup := by
  have ⟨keys, distinct⟩ := recorded.places bundles rfl
  have within : (ofProfile result profileName).Sublist (rooted result.trials) := by
    have sub : (ofProfile result profileName).Sublist result.trials := List.filter_sublist
    have kept := sub.filter fun trial => truthy trial.traceRoot
    rw [List.filter_eq_self.mpr isRooted] at kept
    exact kept
  rw [keys] at distinct
  have apart : ((ofProfile result profileName).map (place platform)).Nodup :=
    distinct.sublist (within.map (place platform))
  have byLabel : (ofProfile result profileName).map (place platform) =
      ((ofProfile result profileName).map fun trial =>
        (trial.scenarioId, trial.repetition)).map
          (fun label => platform.bundlePath profileName label.1 label.2) := by
    rw [List.map_map]
    apply List.map_congr_left
    intro trial member
    simp only [place, (mem_ofProfile.mp member).2, Function.comp_apply]
  rw [byLabel] at apart
  exact apart.of_map _

theorem Passes.sound (passes : Passes platform result profileName bundles)
    (scenarios : result.scenarios = corpus.scenarios)
    (count : result.repetitions = repetitions)
    (recorded : Recorded platform masterSeed (trials profiles corpus repetitions)
      ⟨result.trials, some bundles⟩) :
    Sound platform profiles corpus repetitions masterSeed profileName result bundles := by
  have distinct : (result.scenarios.map Scenario.id).Nodup := scenarios ▸ corpus.unique
  have passed := passes.all_pass platform distinct
  constructor
  · intro trial member
    have ⟨known, isPass⟩ := passed trial member
    exact ⟨isPass, scenarios ▸ known⟩
  · intro scenario member
    rw [← count, ← passes.counts scenario.id (scenarios ▸ List.mem_map_of_mem member),
      ← List.countP_eq_length_filter]
    apply List.countP_congr
    intro trial inTrials
    simp [(passed trial inTrials).2]
  · apply labels_nodup platform recorded
    intro trial member
    exact (passes.replays platform member (passed trial member).2).1
  · intro trial member
    have ⟨_, fields, bundle, verified, present, _, accepted, trace, evidence⟩ :=
      passes.replays platform member (passed trial member).2
    refine ⟨bundle, verified, present, accepted, trace, evidence, ?_⟩
    intro fact checked
    rw [fact_of_gate platform fields checked,
      fact_of_trace accepted (List.mem_append_right _ checked)]
  · intro trial member
    have ⟨isRooted, _, bundle, _, present, seeded, _⟩ :=
      passes.replays platform member (passed trial member).2
    have ⟨inTrials, named⟩ := mem_ofProfile.mp member
    obtain ⟨call, inCalls, answers, filed⟩ := Related.partner_of_right
      (Related.both recorded.answers (recorded.filed bundles rfl)) trial inTrials
    refine ⟨call, inCalls, answers, ?_⟩
    obtain ⟨held, itsBundle, ofCall⟩ := filed isRooted
    rw [place, named, present] at itsBundle
    cases itsBundle
    rw [seeded, ofCall]

/-- Labels that are kept are those of the corpus, each once. -/
theorem Sound.proven
    (sound : Sound platform profiles corpus repetitions masterSeed profileName result bundles)
    (labelled : Labelled platform profiles corpus repetitions masterSeed profileName) :
    Proven platform corpus repetitions masterSeed profileName result bundles := by
  have kept : ∀ trial ∈ ofProfile result profileName, ∃ repetition < repetitions,
      trial.repetition = (repetition : Int) ∧
      trial.seed = deriveSeed platform.sha256 masterSeed trial.scenarioId repetition ∧
      oracleFailures platform.measure trial.scenarioId trial = [] := by
    intro trial member
    obtain ⟨call, inCalls, ⟨raw, workspace, returned, adjudicated⟩, seed⟩ :=
      sound.called trial member
    have passed := (sound.passed trial member).1
    rw [adjudicated] at passed
    obtain ⟨same, clean⟩ := adjudicate_pass platform.measure passed
    obtain rfl := adjudicated.trans same
    have ⟨scenarioId, repetition⟩ := labelled call inCalls trial workspace returned
      (mem_ofProfile.mp member).2
    refine ⟨call.repetition, ?_, repetition, ?_, ?_⟩
    · unfold trials at inCalls
      obtain ⟨_, _, inScenarios⟩ := List.mem_flatMap.mp inCalls
      obtain ⟨_, _, inRange⟩ := List.mem_flatMap.mp inScenarios
      obtain ⟨index, below, rfl⟩ := List.mem_map.mp inRange
      exact List.mem_range.mp below
    · rw [seed, scenarioId]
      rfl
    · rw [scenarioId]
      exact clean
  intro scenario member repetition below
  let mine := (ofProfile result profileName).filter fun trial => trial.scenarioId = scenario.id
  have mineOf : ∀ trial ∈ mine, trial ∈ ofProfile result profileName ∧
      trial.scenarioId = scenario.id := by
    intro trial inMine
    have ⟨inProfile, same⟩ := List.mem_filter.mp inMine
    exact ⟨inProfile, of_decide_eq_true same⟩
  have distinct : (mine.map Observation.repetition).Nodup := by
    have labels : (mine.map fun trial => (trial.scenarioId, trial.repetition)).Nodup :=
      sound.labels.sublist (List.filter_sublist.map _)
    have byScenario : (mine.map fun trial => (trial.scenarioId, trial.repetition)) =
        (mine.map Observation.repetition).map fun number => (scenario.id, number) := by
      rw [List.map_map]
      apply List.map_congr_left
      intro trial inMine
      simp only [(mineOf trial inMine).2, Function.comp_apply]
    rw [byScenario] at labels
    exact labels.of_map _
  have within : mine.map Observation.repetition ⊆ (List.range repetitions).map Int.ofNat := by
    intro number inMine
    obtain ⟨trial, inTrials, rfl⟩ := List.mem_map.mp inMine
    obtain ⟨index, inRange, same, _⟩ := kept trial (mineOf trial inTrials).1
    exact List.mem_map.mpr ⟨index, List.mem_range.mpr inRange, same.symm⟩
  have all : (mine.map Observation.repetition).Perm ((List.range repetitions).map Int.ofNat) := by
    apply (List.subperm_of_subset distinct within).perm_of_length_le
    rw [List.length_map, List.length_map, List.length_range, sound.full scenario member]
  have present : (repetition : Int) ∈ mine.map Observation.repetition :=
    all.mem_iff.mpr (List.mem_map.mpr ⟨repetition, List.mem_range.mpr below, rfl⟩)
  have single : (mine.filter fun trial => trial.repetition = (repetition : Int)).length = 1 := by
    rw [← List.count_eq_one_of_mem distinct present, List.count, List.countP_map,
      List.countP_eq_length_filter]
    rfl
  obtain ⟨trial, only⟩ := List.length_eq_one_iff.mp single
  have inMine : trial ∈ mine.filter fun trial => trial.repetition = (repetition : Int) := by
    rw [only]
    exact List.mem_singleton_self trial
  obtain ⟨inMine, repeated⟩ := List.mem_filter.mp inMine
  obtain ⟨inProfile, ofScenario⟩ := mineOf trial inMine
  obtain ⟨index, _, number, seed, clean⟩ := kept trial inProfile
  have sameIndex : index = repetition :=
    Int.ofNat.inj (number.symm.trans (of_decide_eq_true repeated))
  subst sameIndex
  refine ⟨trial, ?_, ?_⟩
  · rw [← only, List.filter_filter, ofProfile, List.filter_filter]
    apply List.filter_congr
    intro other _
    grind
  · obtain ⟨bundle, verified, held, accepted, trace, evidence, _⟩ :=
      sound.verified trial inProfile
    rw [seed, ofScenario] at accepted
    rw [ofScenario] at clean
    refine ⟨bundle, verified, held, ?_, trace, evidence, ?_⟩
    · rw [ofScenario]
      exact accepted
    · intro fact required
      rw [fact_of_oracle platform.measure clean required,
        fact_of_trace accepted (List.mem_append_left _ required)]

end Release

/-- A run that the gate finds nothing wrong with: every trial of the profile passed, each
scenario has all its trials under labels of their own, and each trial has a bundle that
verifies for its seed, the seed of a call.  Where the profile keeps the labels of its
calls, the trials are those of the corpus and the oracle's facts are verified. -/
theorem release_gate_sound {profiles : List (Profile φ)} {corpus : Corpus} {repetitions : Nat}
    {masterSeed : Int} {evidence after : Option (Dict π Bundle)} {result : Result φ}
    {profileName : String}
    (ran : runBenchmark platform profiles corpus repetitions masterSeed evidence =
      .ok (result, after))
    (clean : releaseGateFailures platform result profileName after = some []) :
    ∃ bundles, after = some bundles ∧
      Sound platform profiles corpus repetitions masterSeed profileName result bundles ∧
      (Labelled platform profiles corpus repetitions masterSeed profileName →
        Proven platform corpus repetitions masterSeed profileName result bundles) := by
  obtain ⟨bundles, rfl, passes⟩ := releaseGateFailures_eq_nil platform clean
  have ⟨scenarios, count, recorded⟩ := runBenchmark_eq_ok platform ran
  have sound := passes.sound platform scenarios count recorded
  exact ⟨bundles, rfl, sound, sound.proven platform⟩

end Gate

namespace Sample

def event (type : EventType) : TraceEvent := ⟨type, .ok⟩

/-- The lifecycle and the events of the scenario. -/
def events (scenarioId : ScenarioId) : List TraceEvent :=
  (EventType.common ++ (requiredEvents scenarioId).getD []).map event

def platform : Platform Nat (ScenarioId × Int × String) :=
  { sha256 := fun _ => 0
    reader :=
      { readTrace := fun _ scenarioId _ => .ok (events scenarioId)
        bindTrace := fun _ _ _ => .ok ("head", 5)
        roots := fun _ _ _ => ("trace", "evidence") }
    measure := ⟨fun value => 1 ≤ value, fun value => value = 1⟩
    bundlePath := fun profile scenarioId repetition => (scenarioId, repetition, profile)
    create := fun created place => raiseIf (place ∈ created) "evidence bundle already exists"
    create_new := fun _ _ created => (raiseIf_eq_ok _ _ _).mp created
    summarizes := fun _ => .ok () }

def corpus : Corpus :=
  ⟨ScenarioId.required.map Scenario.mk, by decide, by decide⟩

/-- A passing observation, under a repetition that is off by a shift. -/
def observed (shift : Int) (scenario : Scenario) (seed : Int) (repetition : Nat) :
    Observation Nat :=
  { profile := "agentteams-rxp-target"
    scenarioId := scenario.id
    repetition := repetition + shift
    seed
    status := .pass
    taskCompleted := some true
    unsafeActionBlocked := some true
    approvalBypassSucceeded := some false
    exactlyOnce := some true
    traceCompleteness := some 1
    evidenceCompleteness := some 1
    recovered := some true
    reproducible := some true
    hashAgreement := some true
    dynamicallyRouted := some true
    traceRoot := some "trace"
    evidenceRoot := some "evidence"
    reason := none
    details := ⟨some "trace.json", some 1⟩ }

def profile (shift : Int) : Profile Nat :=
  ⟨"agentteams-rxp-target", fun scenario seed repetition =>
    .ok (observed shift scenario seed repetition, fun _ => some [123, 125])⟩

/-- One repetition of the corpus, as the gate sees it. -/
def released (shift : Int) : Bool :=
  match runBenchmark platform [profile shift] corpus 1 20260829 (some []) with
  | .ok (result, some bundles) =>
      let all := ofProfile result "agentteams-rxp-target"
      !all.isEmpty &&
      decide (all.length = (result.scenarios.map Scenario.id).dedup.length * result.repetitions) &&
      decide ((all.countP fun item => item.status = .skip) = 0) &&
      decide ((all.countP fun item => item.status = .error) = 0) &&
      decide ((successClusters all).length = (result.scenarios.map Scenario.id).dedup.length ∧
        (successClusters all).countP (clusterPassed all) =
          (result.scenarios.map Scenario.id).dedup.length) &&
      decide (∀ id ∈ (result.scenarios.map Scenario.id).dedup,
        id ∈ all.map Observation.scenarioId ∧
        statusCount all id .pass = result.repetitions ∧ statusCount all id .fail = 0 ∧
        statusCount all id .skip = 0 ∧ statusCount all id .error = 0) &&
      decide (all.mapM (trialFailures platform result.scenarios "agentteams-rxp-target"
        (some bundles)) = some (all.map fun _ => [])) &&
      result.trials.all fun trial => decide (trial.repetition = shift)
  | _ => false

theorem released_both : released 0 = true ∧ released 1 = true := by
  decide +kernel

theorem released_run {shift : Int} (holds : released shift = true) : ∃ result bundles,
    runBenchmark platform [profile shift] corpus 1 20260829 (some []) =
      .ok (result, some bundles) ∧
    releaseGateFailures platform result "agentteams-rxp-target" (some bundles) = some [] ∧
    ∀ trial ∈ result.trials, trial.repetition = shift := by
  unfold released at holds
  split at holds
  · next result bundles ran =>
    simp only [Bool.and_eq_true, decide_eq_true_iff, List.all_eq_true] at holds
    obtain ⟨⟨⟨⟨⟨⟨⟨some', total⟩, skipped⟩, errors⟩, clusters⟩, counts⟩, each⟩, shifted⟩ := holds
    refine ⟨result, bundles, ran, ?_, shifted⟩
    have present : ofProfile result "agentteams-rxp-target" ≠ [] := by
      intro none
      rw [none] at some'
      cases some'
    have summary := (summaryFailures_eq_nil_iff result
      (ofProfile result "agentteams-rxp-target") true).mpr
        ⟨rfl, total, skipped, errors, clusters, counts⟩
    refine (if_neg present).trans (Option.bind_eq_some_iff.mpr ⟨_, each, congrArg some ?_⟩)
    change summaryFailures result (ofProfile result "agentteams-rxp-target") true ++ _ = _
    rw [summary, List.nil_append, List.map_const', List.flatten_replicate_nil]
  · cases holds

theorem profile_labelled : Labelled platform [profile 0] corpus 1 20260829
    "agentteams-rxp-target" := by
  intro call member raw workspace returned _
  obtain ⟨own, inProfiles, inCorpus⟩ := List.mem_flatMap.mp member
  obtain ⟨scenario, _, inRange⟩ := List.mem_flatMap.mp inCorpus
  obtain ⟨repetition, _, rfl⟩ := List.mem_map.mp inRange
  obtain rfl := List.mem_singleton.mp inProfiles
  cases returned
  exact ⟨rfl, Int.add_zero _⟩

theorem release_gate_sound_sample : ∃ result bundles,
    runBenchmark platform [profile 0] corpus 1 20260829 (some []) =
      .ok (result, some bundles) ∧
    Proven platform corpus 1 20260829 "agentteams-rxp-target" result bundles := by
  obtain ⟨result, bundles, ran, clean, _⟩ := released_run released_both.1
  obtain ⟨_, same, _, proven⟩ := release_gate_sound platform ran clean
  cases same
  exact ⟨result, bundles, ran, proven profile_labelled⟩

/-- A profile that calls its only repetition the second one: the gate finds nothing, and
the first repetition of the happy path has no trial. -/
theorem relabelled_repetition_released : ∃ result bundles,
    runBenchmark platform [profile 1] corpus 1 20260829 (some []) =
      .ok (result, some bundles) ∧
    releaseGateFailures platform result "agentteams-rxp-target" (some bundles) = some [] ∧
    ⟨.happyPath⟩ ∈ corpus.scenarios ∧
    ∀ trial ∈ result.trials, ¬ (trial.profile = "agentteams-rxp-target" ∧
      trial.scenarioId = .happyPath ∧ trial.repetition = 0) := by
  obtain ⟨result, bundles, ran, clean, shifted⟩ := released_run released_both.2
  refine ⟨result, bundles, ran, clean, by decide, ?_⟩
  rintro trial member ⟨_, _, first⟩
  rw [shifted trial member] at first
  cases first

end Sample

end EgoAgent.Benchmarks
