import EgoAgent.Bridge.EffectCourse
import EgoAgent.Lib.KeySort

/-!
What the verifier's acceptance says about an effect, and what the gate's permission does not.

An accepted wire effect is the projection of an admitted decision, which need not be the
gate's.  A permitted effect is executed only when its operation needs an approval.
-/

namespace EgoAgent.Bridge.Authority

open EgoAgent.Api EgoAgent.SecureMemory Effect

section Authority

variable {φ : Type} [FloatEquality φ] (platform : AuthorityPlatform φ)

/-! ### Accepted effects -/

/-- The wire effect is the projection of the one decision of the stream that it names. -/
structure Governed (store : AuthorityStore φ) (runId projectId : String)
    (wire : List (String × Json φ)) (decision : SafetyDecision φ) (campaign : CampaignBinding) :
    Prop where
  only : store.matched platform runId wire = [decision]
  effect_admitted : store.hasExact platform runId (.canonicalEffect decision.effect) = true
  guardian_admitted :
    store.hasExact platform runId (.guardianDecision decision.guardianDecision) = true
  projected : ∃ projected, buildWorkspaceEffect platform.sha256 decision = .ok projected ∧
    SecureMemory.canonicalBytes (.dict wire : Json φ) =
      SecureMemory.canonicalBytes (.dict projected : Json φ) ∧
    projected.lookup "decision" = some (.str decision.verdict.text)
  not_denied : decision.verdict ≠ .deny
  bound : store.campaignOf runId = some campaign
  effect_bound : decision.effect.projectId = projectId ∧
    decision.effect.policySha256 = campaign.policySha256 ∧
    decision.effect.workspaceCheckpointSha256 = campaign.workspaceCheckpointSha256
  leased : ∃ lease ∈ store.leases, lease.runId = runId ∧ lease.taskId = decision.effect.taskId ∧
    ∃ members signed, platform.parseJson lease.canonicalSignedPayload = some (.dict members) ∧
      platform.readTaskLease members = some signed ∧
      LeaseBound campaign projectId decision.effect signed

/-- Whatever the verifier accepts after any calls is the projection of the one decision
it names, whose effect and guardian's decision the stream has admitted, for a task with a
lease of the same campaign. -/
theorem accepted_effect_is_governed (runs : List AuthorityRun) (calls : List (AuthorityCall φ))
    (runId projectId : String) (configurationId : Option MeasuredConfigurationId)
    (wire : List (String × Json φ))
    (accepted : verifyWorkspaceEffect platform (afterCalls platform calls (freshStore runs)) runId
      projectId configurationId wire = .ok ()) :
    ∃ decision campaign, Governed platform (afterCalls platform calls (freshStore runs)) runId
      projectId wire decision campaign := by
  obtain ⟨campaign, decision, found⟩ := verifyWorkspaceEffect_eq_ok platform accepted
  obtain ⟨signed, leases, leaseBound⟩ := found.leased
  obtain ⟨projected, built, same⟩ := found.projected
  have ⟨permitted, names⟩ := buildWorkspaceEffect_eq_ok built
  have inMatched : decision ∈
      (afterCalls platform calls (freshStore runs)).matched platform runId wire := by
    rw [found.only]
    exact List.mem_singleton_self decision
  obtain ⟨row, inEvents, ofRun, content⟩ := mem_matched platform inMatched
  have ⟨_, effect, guardian⟩ :=
    afterCalls_decisions platform calls runs row inEvents decision content
  rw [ofRun] at effect guardian
  have inLeases : signed ∈ (afterCalls platform calls (freshStore runs)).readLeases platform
      runId decision.effect.taskId := by
    rw [leases]
    exact List.mem_singleton_self signed
  obtain ⟨lease, inTable, leaseRun, task, members, parsed, read⟩ :=
    mem_readLeases platform inLeases
  exact ⟨decision, campaign, found.only, effect, guardian, ⟨projected, built, same, names⟩,
    permitted, campaignOf_of_campaignBinding found.binding,
    ⟨found.project, found.policy, found.checkpoint⟩,
    lease, inTable, leaseRun, task, members, signed, parsed, read, leaseBound⟩

section Permitted

variable {course : Course φ} {runId : String} {decision : SafetyDecision φ}
  {runs : List AuthorityRun}

/-! ### Permitted effects -/

/-- A permitted decision has a HIGH assessment exactly when its operation needs an approval. -/
theorem high_iff_of_permitted {effect : CanonicalEffect φ} {sequence expires : Nat}
    {mode : EnforcementMode}
    (evaluated : evaluateEffectSafety platform.unicode platform.sha256 effect sequence expires mode =
      .ok decision) (permitted : decision.verdict ≠ .deny) :
    decision.guardianDecision.systemAssessment.riskLevel = .high ↔
      effect.operation ∈ highOperations := by
  have verdict := verdict_of_evaluated platform.unicode platform.sha256 evaluated
  rw [(gateDecision_of_evaluated platform.unicode platform.sha256 evaluated).1]
  change (systemRecord platform.unicode platform.sha256 effect sequence).riskLevel = .high ↔ _
  rcases systemRecord_cases platform.unicode platform.sha256 effect sequence with
    ⟨_, _, deny⟩ | ⟨_, inHigh, high, _⟩ | ⟨_, notHigh, notLevel, _⟩
  · exact absurd (verdict.trans deny) permitted
  · exact iff_of_true high inHigh
  · exact iff_of_false notLevel notHigh

theorem mem_decisionsWith {store : AuthorityStore φ} (valid : decision.Valid platform.sha256)
    (present : ∃ row ∈ store.events, row.runId = runId ∧
      row.content = .event (.safetyDecision decision)) :
    decision ∈ store.decisionsWith platform runId decision.decisionSha256 := by
  obtain ⟨row, member, ofRun, content⟩ := present
  apply List.mem_filter.mpr
  refine ⟨List.mem_filterMap.mpr ⟨row, ?_, ?_⟩, decide_eq_true rfl⟩
  · exact List.mem_filter.mpr ⟨member, decide_eq_true ofRun⟩
  · unfold ExtensionRow.safety
    rw [content]
    exact if_pos valid

/-- The effect is admitted, and the verifier accepts exactly its projection. -/
structure Course.Executes (course : Course φ) (runId : String) (decision : SafetyDecision φ)
    (runs : List AuthorityRun) (run : AuthorityRun) (campaign : CampaignBinding)
    (wire : List (String × Json φ)) : Prop where
  appended : course.Appended platform runId decision runs
  accepted : verifyWorkspaceEffect platform (course.final platform runId decision runs) runId
    run.agentteamsProjectId campaign.configurationId wire = .ok ()
  exact : ∀ other, fieldIs other "safety_decision_sha256"
      (decision.decisionSha256.labelled "") = true →
    verifyWorkspaceEffect platform (course.final platform runId decision runs) runId
      run.agentteamsProjectId campaign.configurationId other = .ok () →
    SecureMemory.canonicalBytes (.dict other : Json φ) =
      SecureMemory.canonicalBytes (.dict wire : Json φ)

theorem matched_of_named {store : AuthorityStore φ} {wire : List (String × Json φ)}
    (named : fieldIs wire "safety_decision_sha256" (decision.decisionSha256.labelled "") = true) :
    store.matched platform runId wire =
      store.decisionsWith platform runId decision.decisionSha256 := by
  apply matched_projection
  unfold fieldIs at named
  split at named
  · next found =>
      rw [found, of_decide_eq_true named]
      rfl
  · cases named

/-- A permitted effect is admitted and executed exactly when its operation needs an
approval and the stream holds its decision once. -/
theorem permitted_effect_executes_iff {effect : CanonicalEffect φ} {sequence expires : Nat}
    {mode : EnforcementMode} {wire : List (String × Json φ)} {run : AuthorityRun}
    {campaign : CampaignBinding}
    (evaluated : evaluateEffectSafety platform.unicode platform.sha256 effect sequence expires mode =
      .ok decision)
    (built : buildWorkspaceEffect platform.sha256 decision = .ok wire)
    (setting : course.Setting platform runId decision runs run campaign) :
    course.Executes platform runId decision runs run campaign wire ↔
      effect.operation ∈ highOperations ∧
        ((course.final platform runId decision runs).decisionsWith platform runId
          decision.decisionSha256).length = 1 := by
  have valid := (gateDecision_of_evaluated platform.unicode platform.sha256 evaluated).2
  have permitted := (buildWorkspaceEffect_eq_ok built).1
  have graded := high_iff_of_permitted platform evaluated permitted
  have source := (projection_of_built platform built).source
  constructor
  · intro executes
    constructor
    · exact graded.mp ((Course.appended_iff platform setting valid).mp executes.appended)
    · obtain ⟨_, other, found⟩ := verifyWorkspaceEffect_eq_ok platform executes.accepted
      rw [← matched_projection platform source, found.only]
      rfl
  · intro ⟨inHigh, once⟩
    have appended := (Course.appended_iff platform setting valid).mpr (graded.mpr inHigh)
    have ⟨toReady, toNext, soundDecision⟩ := course.extends_final platform runId decision runs
    have present := Leg.appended platform setting.decisionOpen appended.decision
    have only : (course.final platform runId decision runs).decisionsWith platform runId
        decision.decisionSha256 = [decision] := by
      obtain ⟨item, single⟩ := List.length_eq_one_iff.mp once
      have member := mem_decisionsWith platform valid (toNext.keeps present)
      rw [single] at member ⊢
      rw [List.mem_singleton.mp member]
    have leased : ∃ lease ∈ (course.final platform runId decision runs).leases,
        lease.runId = runId ∧ lease.taskId = decision.effect.taskId := by
      obtain ⟨lease, member, place⟩ := setting.leased
      exact ⟨lease, toReady.leases lease member, place⟩
    have found := toReady.runs runId run campaign setting.found setting.bound
    refine ⟨appended, ?_, ?_⟩
    · exact verifyWorkspaceEffect_of_only platform soundDecision found setting.bound
        setting.project setting.policy setting.checkpoint leased built only
    · intro other named accepted
      obtain ⟨_, chosen, inversion⟩ := verifyWorkspaceEffect_eq_ok platform accepted
      have sole := inversion.only
      rw [matched_of_named platform named, only] at sole
      cases sole
      obtain ⟨projected, again, same⟩ := inversion.projected
      rw [built] at again
      cases again
      exact same

end Permitted

end Authority

/-! ### The sample run -/

namespace Sample

open Bridge.Sample (asciiText effectOf)

/-- The sample platform with a digest that reads the time of a row. -/
def stamped : AuthorityPlatform Empty :=
  { authority with sha256 := fun bytes => BitVec.ofNat 256 (bytes.getD 15 0).toNat }

theorem hashPayload_sorted (row : ExtensionRow Empty) : ∃ rest,
    row.hashPayload.sorted = .dict (("created_at", .str row.createdAt) :: rest) := by
  have above : ∀ key ∈ ["sequence", "event_id", "run_id", "event_type", "idempotency_key",
      "payload_sha256", "memory_watermark", "previous_hash"], ¬ key ≤ "created_at" := by
    decide +kernel
  refine ⟨_, congrArg Json.dict (@sortMembers_least _ _ [_, _, _, _, _, _, _, _] [] ?_
    fun _ impossible => by cases impossible)⟩
  intro entry member
  exact above entry.1 (@List.mem_map_of_mem _ _ _ _ Prod.fst member)

/-- The labels of the sample's rows. -/
def labels : List String := ["1", "2", "3", "4", "5"]

def labelDigest (label : String) : Digest := BitVec.ofNat 256 (label.toList.getD 0 '0').toNat

theorem labelDigest_injective : ∀ left ∈ labels, ∀ right ∈ labels,
    labelDigest left = labelDigest right → left = right := by
  decide

section

variable {label : String}

theorem stamped_hash {row : ExtensionRow Empty} (known : label ∈ labels)
    (created : row.createdAt = label) : row.expectedHash stamped.sha256 = labelDigest label := by
  obtain ⟨rest, sorted⟩ := hashPayload_sorted row
  change stamped.sha256 (utf8Encode row.hashPayload.sorted.text) = _
  rw [sorted, created]
  simp only [labels, List.mem_cons, List.not_mem_nil, or_false] at known
  rcases known with rfl | rfl | rfl | rfl | rfl <;> rfl

def slotOf (label : String) : Slot := ⟨label, 0, ⟨label, label⟩⟩

def setUp : List (AuthorityCall Empty) :=
  [.bindCampaign "run" campaign,
    .storeSignedTaskLease "run" (payloadOf leaseDocument) "1" ⟨"1", "1"⟩]

def sampleRuns : List AuthorityRun := [⟨"run", "p", none⟩]

def boundRun : AuthorityRun := ⟨"run", "p", some campaign⟩

def started : AuthorityStore Empty := afterCalls stamped setUp (freshStore sampleRuns)

theorem started_holds : started.findRun "run" = .ok boundRun ∧
    (∃ lease ∈ started.leases, lease.runId = "run" ∧ lease.taskId = "t") ∧
    (started.events.map ExtensionRow.idempotencyKey = ["1"] ∧
      started.events.map ExtensionRow.eventId = ["1"] ∧
      started.events.map ExtensionRow.createdAt = ["1"] ∧
      started.events.map ExtensionRow.eventHash = [labelDigest "1"]) ∧
    (started.rowsOf "run").all (fun row => (row.safety stamped.sha256).isNone) = true := by
  decide +kernel

/-- The rows of a store have labels in use. -/
structure Labelled (used : List String) (store : AuthorityStore Empty) : Prop where
  sound : Sound stamped store
  found : store.findRun "run" = .ok boundRun
  rows : ∀ row ∈ store.events, ∃ label ∈ used, label ∈ labels ∧ row.idempotencyKey = label ∧
    row.eventId = label ∧ row.eventHash = labelDigest label

theorem started_labelled : Labelled ["1"] started where
  sound := afterCalls_sound stamped setUp sampleRuns
  found := started_holds.1
  rows := by
    intro row member
    obtain ⟨keys, events, _, hashes⟩ := started_holds.2.2.1
    have key := @List.mem_map_of_mem _ _ _ _ ExtensionRow.idempotencyKey member
    have event := @List.mem_map_of_mem _ _ _ _ ExtensionRow.eventId member
    have hash := @List.mem_map_of_mem _ _ _ _ ExtensionRow.eventHash member
    rw [keys] at key
    rw [events] at event
    rw [hashes] at hash
    exact ⟨"1", List.mem_singleton_self _, by decide, List.mem_singleton.mp key,
      List.mem_singleton.mp event, List.mem_singleton.mp hash⟩

variable {store : AuthorityStore Empty} {used : List String}

theorem Labelled.slot_open (labelled : Labelled used store) (known : label ∈ labels)
    (unused : label ∉ used) (event : ExtensionEvent Empty) :
    (slotOf label).Open stamped store "run" campaign event := by
  have named : label ≠ "" := by
    rintro rfl
    exact absurd known (by decide)
  have hash : ((slotOf label).row stamped store "run" event).eventHash = labelDigest label :=
    stamped_hash known rfl
  refine ⟨named, ?_, Int.le_refl 0, Int.le_refl 0, ?_⟩
  · apply List.find?_eq_none.mpr
    intro row member taken
    obtain ⟨other, inUse, _, key, _⟩ := labelled.rows row member
    have same : other = label := key.symm.trans (of_decide_eq_true taken).2
    exact unused (same ▸ inUse)
  · intro stored member
    obtain ⟨other, inUse, otherKnown, key, eventId, otherHash⟩ := labelled.rows stored member
    have different : other ≠ label := fun same => unused (same ▸ inUse)
    refine ⟨?_, ?_, ?_⟩
    · rw [eventId]
      exact different
    · rw [hash, otherHash]
      exact fun same => different (labelDigest_injective other otherKnown label known same)
    · intro ofRun
      constructor
      · have numbered := labelled.sound.numbered "run"
        have inRun : stored ∈ store.rowsOf "run" :=
          List.mem_filter.mpr ⟨member, decide_eq_true ofRun⟩
        have counted := @List.mem_map_of_mem _ _ _ _ ExtensionRow.sequence inRun
        rw [numbered, List.mem_range'_1] at counted
        change stored.sequence ≠ _ + 1
        rw [newest_sequence numbered]
        omega
      · rw [key]
        exact different

variable {event : ExtensionEvent Empty}

theorem Labelled.fills (labelled : Labelled used store) (known : label ∈ labels)
    (unused : label ∉ used) (typed : Typed stamped event) :
    (perform stamped ((slotOf label).append "run" event) store).2 = store ∨
      (perform stamped ((slotOf label).append "run" event) store).2 =
        store.grown ((slotOf label).row stamped store "run" event) :=
  append_fills stamped labelled.found rfl (labelled.slot_open known unused event) typed

theorem Labelled.next (labelled : Labelled used store) (known : label ∈ labels)
    (unused : label ∉ used) (typed : Typed stamped event) :
    Labelled (label :: used) (perform stamped ((slotOf label).append "run" event) store).2 := by
  have ⟨grown, sound⟩ := perform_extends stamped labelled.sound ((slotOf label).append "run" event)
  refine ⟨sound, grown.runs "run" boundRun campaign labelled.found rfl, ?_⟩
  have old : ∀ row ∈ store.events, ∃ other ∈ label :: used, other ∈ labels ∧
      row.idempotencyKey = other ∧ row.eventId = other ∧ row.eventHash = labelDigest other := by
    intro row member
    obtain ⟨other, inUse, place⟩ := labelled.rows row member
    exact ⟨other, List.mem_cons_of_mem label inUse, place⟩
  rcases labelled.fills known unused typed with same | filled
  · rw [same]
    exact old
  · rw [filled]
    exact forall_mem_concat old
      ⟨label, List.mem_cons_self, known, rfl, rfl, stamped_hash known rfl⟩

end

/-- The safety decisions of the run. -/
def safeties (store : AuthorityStore Empty) : List (SafetyDecision Empty) :=
  (store.rowsOf "run").filterMap (ExtensionRow.safety stamped.sha256)

theorem started_safeties : safeties started = [] := by
  apply List.filterMap_eq_nil_iff.mpr
  intro row member
  exact Option.isNone_iff_eq_none.mp (List.all_eq_true.mp started_holds.2.2.2 row member)

theorem Labelled.safeties_next {used : List String} {store : AuthorityStore Empty}
    (labelled : Labelled used store) {label : String} (known : label ∈ labels)
    (unused : label ∉ used) {event : ExtensionEvent Empty} (typed : Typed stamped event) :
    safeties (perform stamped ((slotOf label).append "run" event) store).2 = safeties store ∨
      ∃ decision, event = .safetyDecision decision ∧
        safeties (perform stamped ((slotOf label).append "run" event) store).2 =
          safeties store ++ [decision] := by
  rcases labelled.fills known unused typed with same | filled
  · rw [same]
    exact .inl rfl
  · have rows : (store.grown ((slotOf label).row stamped store "run" event)).rowsOf "run" =
        store.rowsOf "run" ++ [(slotOf label).row stamped store "run" event] :=
      rowsOf_append store _ "run"
    rw [filled]
    unfold safeties
    rw [rows, List.filterMap_append]
    cases event with
    | safetyDecision decision =>
        have read : ExtensionRow.safety stamped.sha256
            ((slotOf label).row stamped store "run" (.safetyDecision decision)) =
              some decision := if_pos typed.1
        right
        refine ⟨decision, rfl, ?_⟩
        rw [List.filterMap_cons_some read, List.filterMap_nil]
    | _ =>
        left
        exact List.append_nil _

/-- The four appends, one after the other. -/
def course : Course Empty :=
  ⟨setUp, slotOf "2", [], slotOf "3", [], slotOf "4", [], slotOf "5", []⟩

/-- A valid decision on an effect of the sample task. -/
structure Sampled (decision : SafetyDecision Empty) : Prop where
  valid : decision.Valid stamped.sha256
  project : decision.effect.projectId = "p"
  task : decision.effect.taskId = "t"
  checkpoint : decision.effect.workspaceCheckpointSha256 = 0
  policy : decision.effect.policySha256 = 0

section Sampled

theorem labelled_effect (decision : SafetyDecision Empty) :
    Labelled ["2", "1"] (course.withEffect stamped "run" decision sampleRuns) :=
  started_labelled.next (by decide) (by decide) ⟨trivial, nofun⟩

variable {decision : SafetyDecision Empty} (sampled : Sampled decision)

include sampled

theorem typed_assessment : Typed stamped
    (.systemRiskAssessment decision.guardianDecision.systemAssessment : ExtensionEvent Empty) := by
  refine ⟨sampled.valid.1.1, ?_⟩
  intro assessment same
  cases same
  exact sampled.valid.1.2.1

theorem labelled_assessment :
    Labelled ["3", "2", "1"] (course.withAssessment stamped "run" decision sampleRuns) :=
  (labelled_effect decision).next (by decide) (by decide) (typed_assessment sampled)

theorem labelled_guardian :
    Labelled ["4", "3", "2", "1"] (course.withGuardian stamped "run" decision sampleRuns) :=
  (labelled_assessment sampled).next (by decide) (by decide) ⟨sampled.valid.1, nofun⟩

theorem setting_of_sampled :
    course.Setting stamped "run" decision sampleRuns boundRun campaign where
  found := started_holds.1
  bound := rfl
  project := sampled.project
  checkpoint := sampled.checkpoint
  policy := sampled.policy
  leased := by
    rw [sampled.task]
    exact started_holds.2.1
  effectOpen := started_labelled.slot_open (by decide) (by decide) _
  assessmentOpen := (labelled_effect decision).slot_open (by decide) (by decide) _
  guardianOpen := (labelled_assessment sampled).slot_open (by decide) (by decide) _
  decisionOpen := (labelled_guardian sampled).slot_open (by decide) (by decide) _

/-- Only the last of the four events is a safety decision. -/
theorem safeties_final :
    safeties (course.final stamped "run" decision sampleRuns) = [] ∨
      safeties (course.final stamped "run" decision sampleRuns) = [decision] := by
  have effect : safeties (course.withEffect stamped "run" decision sampleRuns) = [] := by
    rcases @Labelled.safeties_next _ _ started_labelled "2" (by decide) (by decide)
      (.canonicalEffect decision.effect) ⟨trivial, nofun⟩ with same | ⟨_, impossible, _⟩
    · exact same.trans started_safeties
    · cases impossible
  have assessment : safeties (course.withAssessment stamped "run" decision sampleRuns) = [] := by
    rcases @Labelled.safeties_next _ _ (labelled_effect decision) "3" (by decide) (by decide)
      _ (typed_assessment sampled) with same | ⟨_, impossible, _⟩
    · exact same.trans effect
    · cases impossible
  have guardian : safeties (course.withGuardian stamped "run" decision sampleRuns) = [] := by
    rcases @Labelled.safeties_next _ _ (labelled_assessment sampled) "4" (by decide) (by decide)
      (.guardianDecision decision.guardianDecision) ⟨sampled.valid.1, nofun⟩ with
      same | ⟨_, impossible, _⟩
    · exact same.trans assessment
    · cases impossible
  rcases @Labelled.safeties_next _ _ (labelled_guardian sampled) "5" (by decide) (by decide)
    (.safetyDecision decision) ⟨sampled.valid, nofun⟩ with same | ⟨other, isDecision, added⟩
  · exact .inl (same.trans guardian)
  · cases isDecision
    right
    change safeties (course.final stamped "run" decision sampleRuns) =
      safeties (course.withGuardian stamped "run" decision sampleRuns) ++ [decision] at added
    rw [guardian] at added
    exact added

theorem only_of_high
    (high : decision.guardianDecision.systemAssessment.riskLevel = .high) :
    (course.final stamped "run" decision sampleRuns).decisionsWith stamped "run"
      decision.decisionSha256 = [decision] := by
  have setting := setting_of_sampled sampled
  have appended := (Course.appended_iff stamped setting sampled.valid).mpr high
  have ⟨_, grown, _⟩ := course.extends_final stamped "run" decision sampleRuns
  have present := grown.keeps (Leg.appended stamped setting.decisionOpen appended.decision)
  have member := mem_decisionsWith stamped sampled.valid present
  change decision ∈ (safeties (course.final stamped "run" decision sampleRuns)).filter _ at member
  change (safeties (course.final stamped "run" decision sampleRuns)).filter _ = _
  rcases safeties_final sampled with none | one
  · rw [none] at member
    cases member
  · rw [one]
    exact List.filter_cons_of_pos (decide_eq_true rfl)

/-- The calls of the course, one after the other. -/
def appending (label : String) (event : ExtensionEvent Empty) : AuthorityCall Empty :=
  (slotOf label).append "run" event

omit sampled in
theorem final_eq_afterCalls : course.final stamped "run" decision sampleRuns =
    afterCalls stamped (setUp ++ [appending "2" (.canonicalEffect decision.effect),
      appending "3" (.systemRiskAssessment decision.guardianDecision.systemAssessment),
      appending "4" (.guardianDecision decision.guardianDecision),
      appending "5" (.safetyDecision decision)]) (freshStore sampleRuns) := rfl

theorem accepted_of_high {wire : List (String × Json Empty)}
    (high : decision.guardianDecision.systemAssessment.riskLevel = .high)
    (built : buildWorkspaceEffect stamped.sha256 decision = .ok wire) :
    verifyWorkspaceEffect stamped (course.final stamped "run" decision sampleRuns) "run" "p"
      (some .a) wire = .ok () := by
  have setting := setting_of_sampled sampled
  have ⟨grown, _, sound⟩ := course.extends_final stamped "run" decision sampleRuns
  have leased : ∃ lease ∈ (course.final stamped "run" decision sampleRuns).leases,
      lease.runId = "run" ∧ lease.taskId = decision.effect.taskId := by
    obtain ⟨lease, member, place⟩ := setting.leased
    exact ⟨lease, grown.leases lease member, place⟩
  have found := grown.runs "run" boundRun campaign setting.found rfl
  have accepted : verifyWorkspaceEffect stamped (course.final stamped "run" decision sampleRuns)
      "run" boundRun.agentteamsProjectId campaign.configurationId wire = .ok () :=
    verifyWorkspaceEffect_of_only stamped sound found rfl sampled.project sampled.policy
      sampled.checkpoint leased built (only_of_high sampled high)
  exact accepted

end Sampled

/-- Whether the operation, the path and the recovery of an effect have a mapping. -/
def isMapped (effect : CanonicalEffect Empty) : Bool :=
  (validateSourceAuthority effect).isOk && (validatedSourcePath effect).isOk &&
    (projectArguments effect).isOk && (projectRecovery effect).isOk

def wireOf (decision : SafetyDecision Empty) : List (String × Json Empty) :=
  match buildWorkspaceEffect stamped.sha256 decision with
  | .ok wire => wire
  | .error _ => []

theorem eq_ok_of_isOk {ε α : Type} {verdict : Except ε α} (isOk : verdict.isOk = true) :
    ∃ item, verdict = .ok item := by
  cases verdict with
  | error error => cases isOk
  | ok item => exact ⟨item, rfl⟩

theorem built_wireOf {decision : SafetyDecision Empty} (valid : decision.Valid stamped.sha256)
    (permitted : decision.verdict ≠ .deny) (mapped : isMapped decision.effect = true) :
    buildWorkspaceEffect stamped.sha256 decision = .ok (wireOf decision) := by
  have ⟨rest, recoveryOk⟩ := (Bool.and_eq_true _ _).mp mapped
  have ⟨rest, argumentsOk⟩ := (Bool.and_eq_true _ _).mp rest
  have ⟨authorityOk, pathOk⟩ := (Bool.and_eq_true _ _).mp rest
  obtain ⟨_, authority⟩ := eq_ok_of_isOk authorityOk
  obtain ⟨target, path⟩ := eq_ok_of_isOk pathOk
  obtain ⟨arguments, projected⟩ := eq_ok_of_isOk argumentsOk
  obtain ⟨recovery, recovered⟩ := eq_ok_of_isOk recoveryOk
  have built : buildWorkspaceEffect stamped.sha256 decision = .ok (sealedWire stamped.sha256
      (wireCore stamped.sha256 decision target arguments.1 arguments.2 recovery)) := by
    unfold buildWorkspaceEffect
    rw [raiseIf_bind_of_not (not_not.mpr valid), raiseIf_bind_of_not permitted, authority, ok_bind,
      path, ok_bind, projected, ok_bind, recovered, ok_bind]
    rfl
  unfold wireOf
  rw [built]

/-! ### A hand-made decision -/

/-- A write into the evidence directory. -/
def tampering : CanonicalEffect Empty :=
  { effectOf "workspace.write" "REMOVE_CREATED_PATH"
      [("path", .str "evidence/log"), ("text", .str "none")] (by decide) rfl with
    target := "workspace/evidence/log"
    targetNonempty := by decide }

theorem tampering_matched : mandatoryRuleMatches asciiText tampering ≠ [] := by
  decide +kernel

theorem tampering_mapped : isMapped tampering = true := by
  decide +kernel

def allowing (stage : RiskStage) : RiskAssessment where
  effectSha256 := tampering.effectSha256 stamped.sha256
  stage := stage
  riskLevel := .high
  disposition := .allow
  reasonCodes := ["REVIEWED"]
  mandatoryConstraintIds := []
  ruleVersion := "rules"
  ruleSha256 := 0
  sequence := 1

def allowed : GuardianDecision :=
  let values : GuardianDecision :=
    { effectSha256 := tampering.effectSha256 stamped.sha256
      systemAssessment := allowing .system
      guardianAssessment := some (allowing .guardian)
      enforcementMode := .enforcing
      disposition := .allow
      decisionSha256 := 0 }
  { values with decisionSha256 := values.digest (φ := Empty) stamped.sha256 }

/-- Valid by every validator, and not what the gate decides. -/
def handMade : SafetyDecision Empty :=
  let values : SafetyDecision Empty :=
    { effect := tampering
      guardianDecision := allowed
      verdict := .allow
      approvalPending := false
      approvalDisclosure := none
      decisionSha256 := 0 }
  { values with decisionSha256 := values.digest stamped.sha256 }

theorem allowing_valid (stage : RiskStage) : (allowing stage).Valid := by
  change SortedUnique ["REVIEWED"] ∧ SortedUnique [] ∧ "rules" ≠ ""
  decide

theorem allowed_valid : allowed.Valid Empty stamped.sha256 := by
  refine ⟨allowing_valid .system, rfl, rfl, ⟨fun _ => rfl, fun _ => rfl⟩, ?_, rfl,
    (GuardianDecision.digest_with stamped.sha256 _ _).symm⟩
  intro guardian review
  cases review
  exact ⟨allowing_valid .guardian, rfl, rfl, nofun, Nat.le_refl _, Nat.le_refl _⟩

theorem handMade_sampled : Sampled handMade where
  valid := ⟨allowed_valid, rfl, rfl, by decide, by decide, nofun,
    (SafetyDecision.digest_with stamped.sha256 _ _).symm⟩
  project := rfl
  task := rfl
  checkpoint := rfl
  policy := rfl

theorem handMade_built :
    buildWorkspaceEffect stamped.sha256 handMade = .ok (wireOf handMade) :=
  built_wireOf handMade_sampled.valid nofun tampering_mapped

theorem accepted_effect_is_governed_sample : ∃ decision campaign,
    Governed stamped (course.final stamped "run" handMade sampleRuns) "run" "p" (wireOf handMade)
      decision campaign := by
  have accepted := accepted_of_high handMade_sampled rfl handMade_built
  rw [final_eq_afterCalls] at accepted ⊢
  exact accepted_effect_is_governed stamped sampleRuns _ "run" "p" (some .a) (wireOf handMade)
    accepted

/-- The verifier accepts a write that the gate denies for every sequence, expiry and mode. -/
theorem hand_made_decision_accepted :
    verifyWorkspaceEffect stamped (course.final stamped "run" handMade sampleRuns) "run" "p"
        (some .a) (wireOf handMade) = .ok () ∧
      (wireOf handMade).lookup "decision" = some (.str "ALLOW") ∧
      ¬ ∃ sequence expires mode decision,
        evaluateEffectSafety stamped.unicode stamped.sha256 tampering sequence expires mode =
          .ok decision ∧ decision.verdict.text = "ALLOW" := by
  refine ⟨accepted_of_high handMade_sampled rfl handMade_built,
    (buildWorkspaceEffect_eq_ok handMade_built).2, ?_⟩
  intro ⟨sequence, expires, mode, decision, evaluated, allow⟩
  have denied : decision.verdict = .deny := by
    rw [verdict_of_evaluated stamped.unicode stamped.sha256 evaluated]
    exact (systemRecord_deny_iff stamped.unicode stamped.sha256 tampering sequence).mpr
      (.inr tampering_matched)
  rw [denied] at allow
  exact absurd allow (by decide)

/-! ### A deletion and a write -/

def deletion : CanonicalEffect Empty :=
  effectOf "workspace.delete" "RESTORE_BACKUP:workspace/.recovery/main" [("path", .str "main")]
    (by decide) rfl

def writing : CanonicalEffect Empty :=
  effectOf "workspace.write" "REMOVE_CREATED_PATH" [("path", .str "main"), ("text", .str "none")]
    (by decide) rfl

/-- The gate's decision on an effect of the sample task. -/
def gated (effect : CanonicalEffect Empty) : SafetyDecision Empty :=
  gateDecision asciiText stamped.sha256 effect 1 9 .enforcing

section

variable {effect : CanonicalEffect Empty}

theorem gated_evaluated (planned : effect.recoveryPlan ≠ "") :
    evaluateEffectSafety stamped.unicode stamped.sha256 effect 1 9 .enforcing =
      .ok (gated effect) :=
  evaluateEffectSafety_eq_ok stamped.unicode stamped.sha256 (by decide) (fun _ => planned)
    .enforcing

theorem deletion_mapped : mandatoryRuleMatches asciiText deletion = [] ∧
    deletion.operation ∈ highOperations ∧ isMapped deletion = true := by
  decide +kernel

theorem writing_mapped : mandatoryRuleMatches asciiText writing = [] ∧
    writing.operation ∈ knownOperations ∧ isMapped writing = true := by
  decide +kernel

theorem gated_sampled {operation plan : String} {arguments : List (String × Json Empty)}
    {named : operation ≠ ""} {finite : (Json.dict arguments).finite = true} (planned : plan ≠ "") :
    Sampled (gated (effectOf operation plan arguments named finite)) where
  valid := (gateDecision_of_evaluated stamped.unicode stamped.sha256 (gated_evaluated planned)).2
  project := rfl
  task := rfl
  checkpoint := rfl
  policy := rfl

theorem gated_permitted (planned : effect.recoveryPlan ≠ "")
    (free : mandatoryRuleMatches asciiText effect = [])
    (known : effect.operation ∈ knownOperations) : (gated effect).verdict ≠ .deny := by
  rw [verdict_of_evaluated stamped.unicode stamped.sha256 (gated_evaluated planned)]
  intro denied
  rcases (systemRecord_deny_iff stamped.unicode stamped.sha256 effect 1).mp denied with
    unknown | matched
  · exact unknown known
  · exact matched free

end

theorem permitted_effect_executes_iff_sample :
    course.Executes stamped "run" (gated deletion) sampleRuns boundRun campaign
        (wireOf (gated deletion)) := by
  have planned : deletion.recoveryPlan ≠ "" := by decide
  have sampled : Sampled (gated deletion) := gated_sampled planned
  have ⟨free, inHigh, mapped⟩ := deletion_mapped
  have permitted := gated_permitted planned free (List.mem_append_right _ inHigh)
  have high := (high_iff_of_permitted stamped (gated_evaluated planned) permitted).mpr inHigh
  apply (permitted_effect_executes_iff stamped (gated_evaluated planned)
    (built_wireOf sampled.valid permitted mapped) (setting_of_sampled sampled)).mpr
  refine ⟨inHigh, ?_⟩
  rw [only_of_high sampled high]
  rfl

/-- A permitted write whose guardian's decision is never admitted. -/
theorem permitted_write_unadmitted :
    evaluateEffectSafety stamped.unicode stamped.sha256 writing 1 9 .enforcing =
        .ok (gated writing) ∧
      buildWorkspaceEffect stamped.sha256 (gated writing) = .ok (wireOf (gated writing)) ∧
      course.Setting stamped "run" (gated writing) sampleRuns boundRun campaign ∧
      ¬ course.Appended stamped "run" (gated writing) sampleRuns := by
  have planned : writing.recoveryPlan ≠ "" := by decide
  have sampled : Sampled (gated writing) := gated_sampled planned
  have ⟨free, known, mapped⟩ := writing_mapped
  have permitted := gated_permitted planned free known
  refine ⟨gated_evaluated planned, built_wireOf sampled.valid permitted mapped,
    setting_of_sampled sampled, ?_⟩
  intro appended
  have high :=
    (Course.appended_iff stamped (setting_of_sampled sampled) sampled.valid).mp appended
  have inHigh := (high_iff_of_permitted stamped (gated_evaluated planned) permitted).mp high
  exact absurd inHigh (by decide)

end Sample

end EgoAgent.Bridge.Authority
