import EgoAgent.Bridge.OneLedger
import EgoAgent.Bridge.WorkspaceAdapter
import EgoAgent.Bridge.PathBoundary

/-!
Workspace effects against the authority stream.

What the verifier accepts is the projection of one admitted decision.  Admission asks
for the effect and the guardian's decision in the stream; it does not run the gate.
-/

namespace EgoAgent.Bridge.Authority

open EgoAgent.Api EgoAgent.SecureMemory Effect

section Admitted

variable {φ : Type} [FloatEquality φ] (platform : AuthorityPlatform φ)

/-! ### Admitted decisions -/

/-- What admission asked of a safety decision still holds. -/
def DecisionsAdmitted (store : AuthorityStore φ) : Prop :=
  ∀ row ∈ store.events, ∀ decision, row.content = .event (.safetyDecision decision) →
    decision.Valid platform.sha256 ∧
      store.hasExact platform row.runId (.canonicalEffect decision.effect) = true ∧
      store.hasExact platform row.runId (.guardianDecision decision.guardianDecision) = true

variable {store : AuthorityStore φ}

variable {runId : String}

theorem hasExact_append {event : ExtensionEvent φ}
    (row : ExtensionRow φ) (found : store.hasExact platform runId event = true) :
    AuthorityStore.hasExact platform { store with events := store.events ++ [row] } runId event =
      true := by
  unfold AuthorityStore.hasExact at found ⊢
  rw [List.any_append, found, Bool.true_or]

variable {store later : AuthorityStore φ}

/-- Events are never taken back. -/
theorem Wrote.keeps_events (wrote : Wrote platform store later) :
    later.events = store.events ∨ ∃ row, later.events = store.events ++ [row] := by
  cases wrote with
  | nothing => exact .inl rfl
  | bound => exact .inl rfl
  | @event row => exact .inr ⟨row, rfl⟩
  | @lease row => exact .inr ⟨row, rfl⟩
  | @evaluator row => exact .inr ⟨row, rfl⟩

theorem Wrote.hasExact (wrote : Wrote platform store later) {event : ExtensionEvent φ}
    (found : store.hasExact platform runId event = true) :
    later.hasExact platform runId event = true := by
  rcases wrote.keeps_events platform with same | ⟨row, grown⟩
  · unfold AuthorityStore.hasExact at found ⊢
    rw [same]
    exact found
  · unfold AuthorityStore.hasExact at found ⊢
    rw [grown, List.any_append, found, Bool.true_or]

theorem findRun_id {run : AuthorityRun}
    (found : store.findRun runId = .ok run) : run.id = runId := by
  have holds := List.find?_some (findRun_eq_ok.mp found)
  exact of_decide_eq_true holds

theorem DecisionsAdmitted.wrote
    (admitted : DecisionsAdmitted platform store) (wrote : Wrote platform store later) :
    DecisionsAdmitted platform later := by
  have old : ∀ row ∈ store.events, ∀ decision,
      row.content = .event (.safetyDecision decision) →
        decision.Valid platform.sha256 ∧
          later.hasExact platform row.runId (.canonicalEffect decision.effect) = true ∧
          later.hasExact platform row.runId (.guardianDecision decision.guardianDecision) =
            true := by
    intro row member decision content
    have ⟨valid, effect, guardian⟩ := admitted row member decision content
    exact ⟨valid, wrote.hasExact platform effect, wrote.hasExact platform guardian⟩
  cases wrote with
  | nothing => exact old
  | bound => exact old
  | @event row event placed content valid allowed =>
      apply forall_mem_concat old
      intro decision isDecision
      rw [content] at isDecision
      cases isDecision
      obtain ⟨run, campaign, memoryWatermark, found, _, passed⟩ := allowed
      have exact := not_or.mp ((raiseIf_eq_ok _ _ _).mp passed)
      rw [findRun_id found] at exact
      refine ⟨valid, ?_, ?_⟩
      · exact hasExact_append platform row ((Bool.not_eq_false _).mp exact.1)
      · exact hasExact_append platform row ((Bool.not_eq_false _).mp exact.2)
  | lease placed admits =>
      apply forall_mem_concat old
      intro decision isDecision
      rw [admits.1] at isDecision
      cases isDecision
  | evaluator placed admits =>
      apply forall_mem_concat old
      intro decision isDecision
      rw [admits.1] at isDecision
      cases isDecision

theorem afterCalls_decisions (calls : List (AuthorityCall φ)) (runs : List AuthorityRun) :
    DecisionsAdmitted platform (afterCalls platform calls (freshStore runs)) := by
  induction calls using List.reverseRecOn with
  | nil => exact fun row member => absurd member List.not_mem_nil
  | append_singleton earlier call ih =>
      rw [afterCalls_append]
      have sound := afterCalls_sound platform earlier runs
      exact ih.wrote platform (perform_wrote platform sound call)

/-! ### Accepted effects -/

variable {decision : SafetyDecision φ}

theorem buildWorkspaceEffect_eq_ok {sha256 : Bytes → Digest} {projected : List (String × Json φ)}
    (built : buildWorkspaceEffect sha256 decision = .ok projected) :
    decision.verdict ≠ .deny ∧ projected.lookup "decision" = some (.str decision.verdict.text) := by
  unfold buildWorkspaceEffect at built
  obtain ⟨_, built⟩ := (raiseIf_bind_eq_ok _ _ _ _).mp built
  obtain ⟨permitted, built⟩ := (raiseIf_bind_eq_ok _ _ _ _).mp built
  obtain ⟨_, _, built⟩ := (bind_eq_ok _ _ _).mp built
  obtain ⟨target, _, built⟩ := (bind_eq_ok _ _ _).mp built
  obtain ⟨arguments, _, built⟩ := (bind_eq_ok _ _ _).mp built
  obtain ⟨recovery, _, built⟩ := (bind_eq_ok _ _ _).mp built
  cases built
  exact ⟨permitted, rfl⟩

theorem mapError_eq_ok {ε δ α : Type} {wrap : ε → δ} {verdict : Except ε α} {item : α} :
    verdict.mapError wrap = .ok item ↔ verdict = .ok item := by
  cases verdict <;> simp [Except.mapError]

theorem mem_readLeases {runId taskId : String}
    {signed : SignedTaskLease} (member : signed ∈ store.readLeases platform runId taskId) :
    ∃ lease ∈ store.leases, lease.runId = runId ∧ lease.taskId = taskId ∧
      ∃ members, platform.parseJson lease.canonicalSignedPayload = some (.dict members) ∧
        platform.readTaskLease members = some signed := by
  obtain ⟨lease, listed, read⟩ := List.mem_filterMap.mp member
  obtain ⟨inTable, place⟩ := List.mem_filter.mp listed
  obtain ⟨run, task⟩ := of_decide_eq_true place
  refine ⟨lease, inTable, run, task, ?_⟩
  cases parsed : platform.parseJson lease.canonicalSignedPayload with
  | none => rw [parsed] at read; cases read
  | some document =>
      rw [parsed] at read
      cases document with
      | dict members => exact ⟨members, rfl, read⟩
      | _ => cases read

variable {wire : List (String × Json φ)}

theorem mem_matched (member : decision ∈ store.matched platform runId wire) :
    ∃ row ∈ store.events, row.runId = runId ∧ row.content = .event (.safetyDecision decision) := by
  obtain ⟨found, _⟩ := List.mem_filter.mp member
  obtain ⟨row, inRun, read⟩ := List.mem_filterMap.mp found
  obtain ⟨inEvents, run⟩ := List.mem_filter.mp inRun
  refine ⟨row, inEvents, of_decide_eq_true run, ?_⟩
  unfold ExtensionRow.safety at read
  split at read
  · next other content =>
      split at read
      · cases read
        exact content
      · cases read
  · cases read

/-- What the verifier found when it accepted a wire effect. -/
structure Accepted (store : AuthorityStore φ) (runId projectId : String)
    (configurationId : Option MeasuredConfigurationId) (wire : List (String × Json φ))
    (campaign : CampaignBinding) (decision : SafetyDecision φ) : Prop where
  binding : store.campaignBinding runId projectId configurationId = .ok campaign
  only : store.matched platform runId wire = [decision]
  project : decision.effect.projectId = projectId
  policy : decision.effect.policySha256 = campaign.policySha256
  checkpoint : decision.effect.workspaceCheckpointSha256 = campaign.workspaceCheckpointSha256
  leased : ∃ signed, store.readLeases platform runId decision.effect.taskId = [signed] ∧
    LeaseBound campaign projectId decision.effect signed
  projected : ∃ projected, buildWorkspaceEffect platform.sha256 decision = .ok projected ∧
    SecureMemory.canonicalBytes (.dict wire : Json φ) =
      SecureMemory.canonicalBytes (.dict projected : Json φ)

variable {runId projectId : String}

theorem verifyDecision_eq_ok {campaign : CampaignBinding} {wire : List (String × Json φ)}
    (accepted : verifyDecision platform store runId projectId campaign wire decision = .ok ()) :
    decision.effect.projectId = projectId ∧
      decision.effect.policySha256 = campaign.policySha256 ∧
      decision.effect.workspaceCheckpointSha256 = campaign.workspaceCheckpointSha256 ∧
      (∃ signed, store.readLeases platform runId decision.effect.taskId = [signed] ∧
        LeaseBound campaign projectId decision.effect signed) ∧
      ∃ projected, buildWorkspaceEffect platform.sha256 decision = .ok projected ∧
        SecureMemory.canonicalBytes (.dict wire : Json φ) =
          SecureMemory.canonicalBytes (.dict projected : Json φ) := by
  unfold verifyDecision at accepted
  obtain ⟨_, accepted⟩ := (raiseIf_bind_eq_ok _ _ _ _).mp accepted
  obtain ⟨project, accepted⟩ := (raiseIf_bind_eq_ok _ _ _ _).mp accepted
  obtain ⟨policy, accepted⟩ := (raiseIf_bind_eq_ok _ _ _ _).mp accepted
  obtain ⟨checkpoint, accepted⟩ := (raiseIf_bind_eq_ok _ _ _ _).mp accepted
  split at accepted
  · next signed leases =>
      obtain ⟨leaseBound, accepted⟩ := (raiseIf_bind_eq_ok _ _ _ _).mp accepted
      obtain ⟨projected, built, accepted⟩ := (bind_eq_ok _ _ _).mp accepted
      have same := (raiseIf_eq_ok _ _ _).mp accepted
      exact ⟨not_not.mp project, not_not.mp policy, not_not.mp checkpoint,
        ⟨signed, leases, not_not.mp leaseBound⟩,
        projected, mapError_eq_ok.mp built, (not_not.mp same).symm⟩
  · cases accepted

variable {configurationId : Option MeasuredConfigurationId}

theorem verifyWorkspaceEffect_eq_ok
    (accepted : verifyWorkspaceEffect platform store runId projectId configurationId wire =
      .ok ()) : ∃ campaign decision,
        Accepted platform store runId projectId configurationId wire campaign decision := by
  unfold verifyWorkspaceEffect at accepted
  obtain ⟨_, accepted⟩ := (raiseIf_bind_eq_ok _ _ _ _).mp accepted
  obtain ⟨_, accepted⟩ := (raiseIf_bind_eq_ok _ _ _ _).mp accepted
  obtain ⟨campaign, binding, accepted⟩ := (bind_eq_ok _ _ _).mp accepted
  obtain ⟨_, accepted⟩ := (raiseIf_bind_eq_ok _ _ _ _).mp accepted
  split at accepted
  · next decision only =>
      have ⟨project, policy, checkpoint, leased, projected⟩ :=
        verifyDecision_eq_ok platform accepted
      exact ⟨campaign, decision, binding, only, project, policy, checkpoint, leased, projected⟩
  · cases accepted

theorem campaignOf_of_campaignBinding {campaign : CampaignBinding}
    (binding : store.campaignBinding runId projectId configurationId = .ok campaign) :
    store.campaignOf runId = some campaign := by
  obtain ⟨run, found, rest⟩ := Option.bind_eq_some_iff.mp ((expect_eq_ok _ _ _).mp binding)
  obtain ⟨other, isCampaign, guarded⟩ := Option.bind_eq_some_iff.mp rest
  split at guarded
  · cases guarded
    exact Option.bind_eq_some_iff.mpr ⟨run, found, isCampaign⟩
  · cases guarded

end Admitted

end EgoAgent.Bridge.Authority
