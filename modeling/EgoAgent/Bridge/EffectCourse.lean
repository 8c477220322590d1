import EgoAgent.Bridge.AdmittedEffects

/-!
The course of one effect through the authority stream.

Its four events are appended with any other calls between them.  The guardian's decision
is admitted for a system HIGH assessment only, and the verifier wants the safety decision
exactly once.
-/

namespace EgoAgent.Bridge.Authority

open EgoAgent.Api EgoAgent.SecureMemory Effect

/-- Of items that exclude each other, a filter keeps the one it chooses. -/
theorem chosen_of_pairwise {α : Type} {related : α → α → Prop} {chosen : α → Bool}
    (exclusive : ∀ left right, chosen left = true → chosen right = true → ¬ related left right)
    {items : List α} (apart : items.Pairwise related) {item : α} (member : item ∈ items)
    (isChosen : chosen item = true) : items.filter chosen = [item] := by
  induction items with
  | nil => cases member
  | cons first rest ih =>
      have ⟨fromFirst, inRest⟩ := List.pairwise_cons.mp apart
      rcases List.mem_cons.mp member with rfl | later
      · have none : rest.filter chosen = [] := by
          apply List.filter_eq_nil_iff.mpr
          intro other inside alsoChosen
          exact exclusive item other isChosen alsoChosen (fromFirst other inside)
        rw [List.filter_cons_of_pos isChosen, none]
      · have unchosen : ¬ chosen first = true := fun alsoChosen =>
          exclusive first item alsoChosen isChosen (fromFirst item later)
        rw [List.filter_cons_of_neg unchosen]
        exact ih inRest later

section Course

variable {φ : Type} [FloatEquality φ] (platform : AuthorityPlatform φ)

/-! ### What later calls keep -/

/-- The later store has the bound runs, the rows and the leases of the earlier one. -/
structure Extends (store later : AuthorityStore φ) : Prop where
  runs : ∀ runId run campaign, store.findRun runId = .ok run → run.campaign = some campaign →
    later.findRun runId = .ok run
  events : ∀ row ∈ store.events, row ∈ later.events
  leases : ∀ lease ∈ store.leases, lease ∈ later.leases

theorem Extends.refl (store : AuthorityStore φ) : Extends store store :=
  ⟨fun _ _ _ found _ => found, fun _ member => member, fun _ member => member⟩

theorem Extends.trans {first second third : AuthorityStore φ} (left : Extends first second)
    (right : Extends second third) : Extends first third where
  runs runId run campaign found isBound :=
    right.runs runId run campaign (left.runs runId run campaign found isBound) isBound
  events row member := right.events row (left.events row member)
  leases lease member := right.leases lease (left.leases lease member)

variable {store later : AuthorityStore φ}

theorem Wrote.extends (wrote : Wrote platform store later) :
    Extends store later where
  runs := by
    intro runId run campaign found isBound
    cases wrote with
    | bound bound binding => exact findRun_bound bound binding found isBound
    | nothing => exact found
    | event => exact found
    | lease => exact found
    | evaluator => exact found
  events := by
    intro row member
    rcases wrote.keeps_events platform with same | ⟨added, grown⟩
    · rw [same]
      exact member
    · rw [grown]
      exact List.mem_append_left _ member
  leases := by
    intro lease member
    cases wrote with
    | lease => exact List.mem_append_left _ member
    | bound => exact member
    | nothing => exact member
    | event => exact member
    | evaluator => exact member

variable {store : AuthorityStore φ}

theorem perform_extends (sound : Sound platform store)
    (call : AuthorityCall φ) : Extends store (perform platform call store).2 ∧
      Sound platform (perform platform call store).2 :=
  have wrote := perform_wrote platform sound call
  ⟨wrote.extends platform, sound.wrote platform wrote⟩

theorem afterCalls_extends (sound : Sound platform store)
    (calls : List (AuthorityCall φ)) : Extends store (afterCalls platform calls store) ∧
      Sound platform (afterCalls platform calls store) := by
  induction calls using List.reverseRecOn with
  | nil => exact ⟨Extends.refl store, sound⟩
  | append_singleton earlier call ih =>
      rw [afterCalls_append]
      have ⟨grown, kept⟩ := perform_extends platform ih.2 call
      exact ⟨ih.1.trans grown, kept⟩

/-! ### Appending -/

/-- The key, the watermark and the stamp of an append. -/
structure Slot where
  key : String
  memoryWatermark : Int
  stamp : Stamp

def Slot.row (slot : Slot) (store : AuthorityStore φ) (runId : String) (event : ExtensionEvent φ) :
    ExtensionRow φ :=
  store.nextRow platform runId (.event event) slot.key slot.memoryWatermark slot.stamp

/-- The slot is unused: a new key, a watermark of the campaign's past, and a new identifier
and hash for the row. -/
def Slot.Open (slot : Slot) (store : AuthorityStore φ) (runId : String)
    (campaign : CampaignBinding) (event : ExtensionEvent φ) : Prop :=
  slot.key ≠ "" ∧ store.keyed runId slot.key = none ∧
    slot.memoryWatermark ≤ campaign.memoryWatermark ∧
    store.Accepts (slot.row platform store runId event)

def Slot.append (slot : Slot) (runId : String) (event : ExtensionEvent φ) : AuthorityCall φ :=
  .appendExtensionEvent runId event.eventType (some event) slot.key slot.memoryWatermark slot.stamp

/-- A model accepts the event, and a system risk event is of the system stage. -/
def Typed (event : ExtensionEvent φ) : Prop :=
  event.Valid platform.sha256 ∧
    ∀ assessment, event = .systemRiskAssessment assessment → assessment.stage = .system

variable {event : ExtensionEvent φ}

theorem typedExtensionPayload_of_typed (typed : Typed platform event) :
    typedExtensionPayload platform.sha256 event.eventType (some event) = .ok event := by
  have known : event.eventType ∈ extensionEventTypes := by
    cases event <;> simp [ExtensionEvent.eventType, extensionEventTypes]
  have matching : ¬ (event.eventType ≠ event.eventType ∨ ¬ event.Valid platform.sha256) := by
    rintro (other | invalid)
    · exact other rfl
    · exact invalid typed.1
  unfold typedExtensionPayload
  rw [raiseIf_bind_of_not (not_not.mpr known)]
  change (raiseIf _ _ >>= _) = _
  rw [raiseIf_bind_of_not matching]
  cases event with
  | systemRiskAssessment assessment =>
      exact raiseIf_bind_of_not (not_not.mpr (typed.2 assessment rfl)) _ _
  | _ => rfl

/-- The store with one more row. -/
def AuthorityStore.grown (store : AuthorityStore φ) (row : ExtensionRow φ) : AuthorityStore φ :=
  { store with events := store.events ++ [row] }

variable {runId : String} {campaign : CampaignBinding} {run : AuthorityRun}

variable {slot : Slot}

theorem append_admitted
    (found : store.findRun runId = .ok run) (isBound : run.campaign = some campaign)
    (isOpen : slot.Open platform store runId campaign event) (typed : Typed platform event)
    (allowed : store.admission platform run campaign slot.memoryWatermark (.event event) =
      .ok ()) :
    perform platform (slot.append runId event) store =
      (.ok (.event ⟨slot.row platform store runId event, false⟩),
        store.grown (slot.row platform store runId event)) := by
  obtain ⟨named, unused, past, accepts⟩ := isOpen
  have appended : appendExtensionBytes platform runId (.event event) slot.key
      slot.memoryWatermark slot.stamp store =
        (.ok ⟨slot.row platform store runId event, false⟩,
          store.grown (slot.row platform store runId event)) := by
    unfold appendExtensionBytes
    rw [read_bind, found, check_ok_bind, isBound]
    change (check (.ok campaign) >>= _) store = _
    rw [check_ok_bind, raiseIf, if_neg (Int.not_lt.mpr past), check_ok_bind, unused]
    change (check (store.admission platform run campaign slot.memoryWatermark (.event event)) >>=
      _) store = _
    rw [allowed, check_ok_bind]
    change (check (raiseIf (¬ store.Accepts (slot.row platform store runId event))
      AuthorityError.integrity) >>= _) store = _
    rw [raiseIf, if_neg (not_not.mpr accepts), check_ok_bind]
    rfl
  have entered : appendExtensionEvent platform runId event.eventType (some event) slot.key
      slot.memoryWatermark slot.stamp store =
        (.ok ⟨slot.row platform store runId event, false⟩,
          store.grown (slot.row platform store runId event)) := by
    unfold appendExtensionEvent
    rw [raiseIf, if_neg named, check_ok_bind, typedExtensionPayload_of_typed platform typed,
      check_ok_bind]
    exact (transaction_eq_ok _ _ _ _).mpr appended
  change returning AuthorityRecord.event (appendExtensionEvent platform runId event.eventType
    (some event) slot.key slot.memoryWatermark slot.stamp) store = _
  unfold returning
  rw [Effect.bind_apply, entered]
  rfl

/-- Into an open slot, an append succeeds exactly when the event is admissible. -/
theorem append_open (found : store.findRun runId = .ok run) (isBound : run.campaign = some campaign)
    (isOpen : slot.Open platform store runId campaign event) (typed : Typed platform event) :
    (∃ record, (perform platform (slot.append runId event) store).1 = .ok record) ↔
      store.admission platform run campaign slot.memoryWatermark (.event event) = .ok () := by
  constructor
  · intro ⟨record, returned⟩
    rcases outcome : perform platform (slot.append runId event) store with ⟨result, later⟩
    rw [outcome] at returned
    cases returned
    obtain ⟨item, ran, _⟩ := returning_eq_ok outcome
    obtain ⟨payload, typedPayload, appended⟩ := appendExtensionEvent_eq_ok platform ran
    obtain ⟨same, _, _⟩ := typedExtensionPayload_eq_ok platform typedPayload
    cases same
    cases appended with
    | replayed isRow => rw [isOpen.2.1] at isRow; cases isRow
    | added _ _ _ _ _ admitted =>
        obtain ⟨other, otherCampaign, otherFound, otherBound, allowed⟩ := admitted
        rw [found] at otherFound
        cases otherFound
        rw [isBound] at otherBound
        cases otherBound
        exact allowed
  · intro allowed
    rw [append_admitted platform found isBound isOpen typed allowed]
    exact ⟨_, rfl⟩

/-- The slot is filled or the store is as it was. -/
theorem append_fills
    (found : store.findRun runId = .ok run) (isBound : run.campaign = some campaign)
    (isOpen : slot.Open platform store runId campaign event) (typed : Typed platform event) :
    (perform platform (slot.append runId event) store).2 = store ∨
      (perform platform (slot.append runId event) store).2 =
        store.grown (slot.row platform store runId event) := by
  cases outcome : (perform platform (slot.append runId event) store).1 with
  | ok record =>
      right
      have allowed := (append_open platform found isBound isOpen typed).mp ⟨record, outcome⟩
      rw [append_admitted platform found isBound isOpen typed allowed]
  | error error =>
      left
      exact perform_atomic platform _ store error _ (Prod.ext outcome rfl)

/-- An append that succeeds leaves its event in the stream. -/
theorem append_leaves_row {record : AuthorityRecord φ}
    (returned : (perform platform (slot.append runId event) store).1 = .ok record)
    (unused : store.keyed runId slot.key = none) :
    ∃ row ∈ (perform platform (slot.append runId event) store).2.events,
      row.runId = runId ∧ row.content = .event event := by
  rcases outcome : perform platform (slot.append runId event) store with ⟨result, later⟩
  rw [outcome] at returned
  cases returned
  obtain ⟨item, ran, _⟩ := returning_eq_ok outcome
  obtain ⟨payload, typedPayload, appended⟩ := appendExtensionEvent_eq_ok platform ran
  obtain ⟨same, _, _⟩ := typedExtensionPayload_eq_ok platform typedPayload
  cases same
  cases appended with
  | replayed isRow => rw [unused] at isRow; cases isRow
  | @added row _ _ run content _ _ =>
      exact ⟨row, List.mem_append_right _ (List.mem_singleton_self row), run, content⟩

theorem hasExact_of_row
    {row : ExtensionRow φ} (member : row ∈ store.events) (run : row.runId = runId)
    (content : row.content = .event event) : store.hasExact platform runId event = true := by
  unfold AuthorityStore.hasExact
  apply List.any_eq_true.mpr
  refine ⟨row, member, decide_eq_true ⟨run, ?_, ?_⟩⟩
  · rw [content]; rfl
  · rw [content]; rfl

/-! ### The projection -/

variable {effect : CanonicalEffect φ}

theorem projectArguments_finite {arguments : String × List (String × Json φ)}
    (projected : projectArguments effect = .ok arguments) :
    (Json.dict arguments.2).finite = true := by
  unfold projectArguments at projected
  split at projected
  · split at projected
    · split at projected
      · cases projected
        rfl
      · cases projected
    · cases projected
  split at projected
  · split at projected
    · cases projected
      rfl
    · cases projected
  split at projected
  · split at projected
    · cases projected
      rfl
    · cases projected
  · cases projected

/-- The fields of a projection that the verifier compares. -/
structure Projection (decision : SafetyDecision φ) (wire : List (String × Json φ)) : Prop where
  finite : (Json.dict (wire.filter fun entry => entry.1 ≠ "effect_sha256")).finite = true
  sealed : wire.lookup "effect_sha256" = some (digestText (platform.sha256
    (SecureMemory.canonicalBytes
      (.dict (wire.filter fun entry => entry.1 ≠ "effect_sha256") : Json φ))))
  project : wire.lookup "project_id" = some (.str decision.effect.projectId)
  source : wire.lookup "safety_decision_sha256" = some (digestText decision.decisionSha256)

variable {decision : SafetyDecision φ}

theorem sealedWire_projection {target operation : String}
    {arguments : List (String × Json φ)} {recovery : Recovery}
    (finite : (Json.dict arguments).finite = true) :
    Projection platform decision
      (sealedWire platform.sha256 (wireCore platform.sha256 decision target operation arguments
        recovery)) where
  finite := by
    have inner : finiteMembers arguments = true := finite
    cases recovery <;>
      simp [sealedWire, wireCore, Json.finite, finiteMembers, finiteItems, digestText, textList,
        Recovery.json, inner]
  sealed := rfl
  project := rfl
  source := rfl

variable {wire : List (String × Json φ)}

theorem projection_of_built (built : buildWorkspaceEffect platform.sha256 decision = .ok wire) :
    Projection platform decision wire := by
  unfold buildWorkspaceEffect at built
  obtain ⟨_, built⟩ := (raiseIf_bind_eq_ok _ _ _ _).mp built
  obtain ⟨_, built⟩ := (raiseIf_bind_eq_ok _ _ _ _).mp built
  obtain ⟨_, _, built⟩ := (bind_eq_ok _ _ _).mp built
  obtain ⟨target, _, built⟩ := (bind_eq_ok _ _ _).mp built
  obtain ⟨arguments, projected, built⟩ := (bind_eq_ok _ _ _).mp built
  obtain ⟨recovery, _, built⟩ := (bind_eq_ok _ _ _).mp built
  cases built
  exact sealedWire_projection platform (projectArguments_finite projected)

/-- The admitted safety decisions of a run that have a digest. -/
def AuthorityStore.decisionsWith (store : AuthorityStore φ) (runId : String) (digest : Digest) :
    List (SafetyDecision φ) :=
  ((store.rowsOf runId).filterMap (ExtensionRow.safety platform.sha256)).filter fun decision =>
    decision.decisionSha256 = digest

omit [FloatEquality φ] in
theorem fieldIs_digest {field : String} {digest other : Digest}
    (found : wire.lookup field = some (digestText digest)) :
    fieldIs wire field (other.labelled "") = decide (other = digest) := by
  unfold fieldIs
  rw [found]
  apply decide_eq_decide.mpr
  constructor
  · intro same
    exact (Digest.labelled_injective "" same).symm
  · intro same
    rw [same]

theorem matched_projection
    (source : wire.lookup "safety_decision_sha256" = some (digestText decision.decisionSha256)) :
    store.matched platform runId wire =
      store.decisionsWith platform runId decision.decisionSha256 := by
  unfold AuthorityStore.matched AuthorityStore.decisionsWith
  apply List.filter_congr
  intro other _
  exact fieldIs_digest source

/-! ### Acceptance -/

/-- The one lease of a task is read back, bound to the campaign and the project of its run. -/
theorem readLeases_of_leased (sound : Sound platform store)
    (found : store.findRun runId = .ok run) (isBound : run.campaign = some campaign)
    {lease : Admission} (member : lease ∈ store.leases) (ofRun : lease.runId = runId)
    (ofTask : lease.taskId = effect.taskId) :
    ∃ signed, store.readLeases platform runId effect.taskId = [signed] ∧
      LeaseBound campaign run.agentteamsProjectId effect signed := by
  obtain ⟨members, signed, leaseRun, leaseCampaign, canonical, read, task, leaseFound, leaseIsBound,
    binding⟩ := sound.lease_signed lease member
  rw [ofRun, found] at leaseFound
  cases leaseFound
  rw [isBound] at leaseIsBound
  cases leaseIsBound
  obtain ⟨sameCampaign, binding⟩ := (raiseIf_bind_eq_ok _ _ _ _).mp binding
  have sameProject := (raiseIf_eq_ok _ _ _).mp binding
  have parsed : platform.parseJson lease.canonicalSignedPayload = some (.dict members) := by
    unfold requireCanonicalObject at canonical
    split at canonical
    · cases canonical
    · next document parsed =>
        obtain ⟨_, same⟩ := (raiseIf_bind_eq_ok _ _ _ _).mp canonical
        cases same
        exact parsed
    · cases canonical
  refine ⟨signed, ?_, ?_⟩
  · have only : (store.leases.filter fun lease => lease.runId = runId ∧
        lease.taskId = effect.taskId) = [lease] := by
      apply chosen_of_pairwise _ sound.lease_tasks member (decide_eq_true ⟨ofRun, ofTask⟩)
      intro left right leftChosen rightChosen apart
      have ⟨leftRun, leftTask⟩ := of_decide_eq_true leftChosen
      have ⟨rightRun, rightTask⟩ := of_decide_eq_true rightChosen
      exact apart (leftRun.trans rightRun.symm) (leftTask.trans rightTask.symm)
    unfold AuthorityStore.readLeases
    rw [only]
    simp only [List.filterMap_cons, List.filterMap_nil, parsed, read]
  · have same : signed.core.campaign = campaign := not_not.mp sameCampaign
    refine ⟨not_not.mp sameProject, task.symm.trans ofTask, ?_, ?_, ?_⟩ <;> rw [same]

/-- The verifier accepts the projection of a decision that the stream holds once. -/
theorem verifyWorkspaceEffect_of_only (sound : Sound platform store)
    (found : store.findRun runId = .ok run) (isBound : run.campaign = some campaign)
    (project : decision.effect.projectId = run.agentteamsProjectId)
    (policy : decision.effect.policySha256 = campaign.policySha256)
    (checkpoint : decision.effect.workspaceCheckpointSha256 = campaign.workspaceCheckpointSha256)
    (leased : ∃ lease ∈ store.leases, lease.runId = runId ∧ lease.taskId = decision.effect.taskId)
    (built : buildWorkspaceEffect platform.sha256 decision = .ok wire)
    (only : store.decisionsWith platform runId decision.decisionSha256 = [decision]) :
    verifyWorkspaceEffect platform store runId run.agentteamsProjectId campaign.configurationId
      wire = .ok () := by
  have projection := projection_of_built platform built
  obtain ⟨lease, member, ofRun, ofTask⟩ := leased
  obtain ⟨signed, leases, leaseBound⟩ :=
    readLeases_of_leased platform sound found isBound member ofRun ofTask
  have binding : store.campaignBinding runId run.agentteamsProjectId campaign.configurationId =
      .ok campaign := by
    unfold AuthorityStore.campaignBinding
    rw [findRun_eq_ok.mp found]
    simp only [Option.bind_some, isBound, and_self, if_true]
    rfl
  have sealed : fieldIs wire "effect_sha256" ((platform.sha256 (SecureMemory.canonicalBytes
      (.dict (wire.filter fun entry => entry.1 ≠ "effect_sha256") : Json φ))).labelled "") =
        true := by
    rw [fieldIs_digest projection.sealed, decide_eq_true rfl]
  have named : fieldIs wire "project_id" run.agentteamsProjectId = true := by
    unfold fieldIs
    rw [projection.project]
    exact decide_eq_true project
  unfold verifyWorkspaceEffect
  rw [raiseIf_bind_of_not (by rw [projection.finite]; nofun),
    raiseIf_bind_of_not (by rw [sealed]; nofun), binding, ok_bind,
    raiseIf_bind_of_not (by rw [sound.chained runId]; nofun),
    matched_projection platform projection.source, only]
  change verifyDecision platform store runId run.agentteamsProjectId campaign wire decision = .ok ()
  unfold verifyDecision
  rw [raiseIf_bind_of_not (by rw [named]; nofun), raiseIf_bind_of_not (not_not.mpr project),
    raiseIf_bind_of_not (not_not.mpr policy), raiseIf_bind_of_not (not_not.mpr checkpoint), leases]
  change (raiseIf _ _ >>= _) = _
  rw [raiseIf_bind_of_not (not_not.mpr leaseBound), built]
  exact (raiseIf_eq_ok _ _ _).mpr (not_not.mpr rfl)

/-! ### The four events -/

/-- Calls, and the append of an event after them. -/
structure Leg (φ : Type) [FloatText φ] where
  calls : List (AuthorityCall φ)
  event : ExtensionEvent φ
  slot : Slot

def Leg.ready (leg : Leg φ) (store : AuthorityStore φ) : AuthorityStore φ :=
  afterCalls platform leg.calls store

def Leg.next (leg : Leg φ) (runId : String) (store : AuthorityStore φ) : AuthorityStore φ :=
  (perform platform (leg.slot.append runId leg.event) (leg.ready platform store)).2

def Leg.Open (leg : Leg φ) (runId : String) (campaign : CampaignBinding)
    (store : AuthorityStore φ) : Prop :=
  leg.slot.Open platform (leg.ready platform store) runId campaign leg.event

def Leg.Appends (leg : Leg φ) (runId : String) (store : AuthorityStore φ) : Prop :=
  ∃ record,
    (perform platform (leg.slot.append runId leg.event) (leg.ready platform store)).1 = .ok record

theorem Leg.extends (sound : Sound platform store) (leg : Leg φ)
    (runId : String) : Extends store (leg.ready platform store) ∧
      Extends (leg.ready platform store) (leg.next platform runId store) ∧
      Sound platform (leg.next platform runId store) := by
  have ⟨grown, kept⟩ := afterCalls_extends platform sound leg.calls
  have ⟨further, still⟩ := perform_extends platform kept (leg.slot.append runId leg.event)
  exact ⟨grown, further, still⟩

theorem Leg.appended {leg : Leg φ} (isOpen : leg.Open platform runId campaign store)
    (appends : leg.Appends platform runId store) :
    ∃ row ∈ (leg.next platform runId store).events, row.runId = runId ∧
      row.content = .event leg.event := by
  obtain ⟨record, returned⟩ := appends
  exact append_leaves_row platform returned isOpen.2.1

theorem Extends.hasExact (grown : Extends store later)
    (present : ∃ row ∈ store.events, row.runId = runId ∧ row.content = .event event) :
    later.hasExact platform runId event = true := by
  obtain ⟨row, member, ofRun, content⟩ := present
  exact hasExact_of_row platform (grown.events row member) ofRun content

/-- The calls around the four appends, and the slots of the appends. -/
structure Course (φ : Type) [FloatText φ] where
  toEffect : List (AuthorityCall φ)
  effectSlot : Slot
  toAssessment : List (AuthorityCall φ)
  assessmentSlot : Slot
  toGuardian : List (AuthorityCall φ)
  guardianSlot : Slot
  toDecision : List (AuthorityCall φ)
  decisionSlot : Slot
  toVerifier : List (AuthorityCall φ)

section Legs

variable (course : Course φ) (runId : String) (decision : SafetyDecision φ)
  (runs : List AuthorityRun)

def Course.effectLeg : Leg φ :=
  ⟨course.toEffect, .canonicalEffect decision.effect, course.effectSlot⟩

def Course.assessmentLeg : Leg φ :=
  ⟨course.toAssessment, .systemRiskAssessment decision.guardianDecision.systemAssessment,
    course.assessmentSlot⟩

def Course.guardianLeg : Leg φ :=
  ⟨course.toGuardian, .guardianDecision decision.guardianDecision, course.guardianSlot⟩

def Course.decisionLeg : Leg φ :=
  ⟨course.toDecision, .safetyDecision decision, course.decisionSlot⟩

def Course.withEffect : AuthorityStore φ :=
  (course.effectLeg decision).next platform runId (freshStore runs)

def Course.withAssessment : AuthorityStore φ :=
  (course.assessmentLeg decision).next platform runId (course.withEffect platform runId decision runs)

def Course.withGuardian : AuthorityStore φ :=
  (course.guardianLeg decision).next platform runId
    (course.withAssessment platform runId decision runs)

def Course.withDecision : AuthorityStore φ :=
  (course.decisionLeg decision).next platform runId
    (course.withGuardian platform runId decision runs)

/-- The store that the verifier replays. -/
def Course.final : AuthorityStore φ :=
  afterCalls platform course.toVerifier (course.withDecision platform runId decision runs)

/-- The four appends succeed. -/
structure Course.Appended : Prop where
  effect : (course.effectLeg decision).Appends platform runId (freshStore runs)
  assessment : (course.assessmentLeg decision).Appends platform runId
    (course.withEffect platform runId decision runs)
  guardian : (course.guardianLeg decision).Appends platform runId
    (course.withAssessment platform runId decision runs)
  decision : (course.decisionLeg decision).Appends platform runId
    (course.withGuardian platform runId decision runs)

/-- Before the first append the run is bound and has a lease of the effect's task; the
effect has the project, checkpoint and policy of the run; the slots are open. -/
structure Course.Setting (run : AuthorityRun) (campaign : CampaignBinding) : Prop where
  found : ((course.effectLeg decision).ready platform (freshStore runs)).findRun runId = .ok run
  bound : run.campaign = some campaign
  project : decision.effect.projectId = run.agentteamsProjectId
  checkpoint : decision.effect.workspaceCheckpointSha256 = campaign.workspaceCheckpointSha256
  policy : decision.effect.policySha256 = campaign.policySha256
  leased : ∃ lease ∈ ((course.effectLeg decision).ready platform (freshStore runs)).leases,
    lease.runId = runId ∧ lease.taskId = decision.effect.taskId
  effectOpen : (course.effectLeg decision).Open platform runId campaign (freshStore runs)
  assessmentOpen : (course.assessmentLeg decision).Open platform runId campaign
    (course.withEffect platform runId decision runs)
  guardianOpen : (course.guardianLeg decision).Open platform runId campaign
    (course.withAssessment platform runId decision runs)
  decisionOpen : (course.decisionLeg decision).Open platform runId campaign
    (course.withGuardian platform runId decision runs)

variable {course runId decision runs}

theorem Extends.keeps {store later : AuthorityStore φ} (grown : Extends store later)
    {event : ExtensionEvent φ}
    (present : ∃ row ∈ store.events, row.runId = runId ∧ row.content = .event event) :
    ∃ row ∈ later.events, row.runId = runId ∧ row.content = .event event := by
  obtain ⟨row, member, place⟩ := present
  exact ⟨row, grown.events row member, place⟩

/-- From the store of the first append to the one the verifier replays. -/
theorem Course.extends_final (course : Course φ) (runId : String) (decision : SafetyDecision φ)
    (runs : List AuthorityRun) :
    Extends ((course.effectLeg decision).ready platform (freshStore runs))
        (course.final platform runId decision runs) ∧
      Extends (course.withDecision platform runId decision runs)
        (course.final platform runId decision runs) ∧
      Sound platform (course.final platform runId decision runs) := by
  have soundStart := sound_fresh platform runs
  have ⟨_, effect, soundEffect⟩ := (course.effectLeg decision).extends platform soundStart runId
  have ⟨toAssessment, assessment, soundAssessment⟩ :=
    (course.assessmentLeg decision).extends platform soundEffect runId
  have ⟨toGuardian, guardian, soundGuardian⟩ :=
    (course.guardianLeg decision).extends platform soundAssessment runId
  have ⟨toDecision, decided, soundDecision⟩ :=
    (course.decisionLeg decision).extends platform soundGuardian runId
  have ⟨toVerifier, soundFinal⟩ := afterCalls_extends platform soundDecision course.toVerifier
  have reviewed := (effect.trans (toAssessment.trans assessment)).trans (toGuardian.trans guardian)
  exact ⟨(reviewed.trans (toDecision.trans decided)).trans toVerifier, toVerifier, soundFinal⟩

theorem leaseOf_of_mem {store : AuthorityStore φ} {taskId : String}
    (leased : ∃ lease ∈ store.leases, lease.runId = runId ∧ lease.taskId = taskId) :
    store.leaseOf runId taskId ≠ none := by
  obtain ⟨lease, member, ofRun, ofTask⟩ := leased
  intro none
  have never := List.find?_eq_none.mp none lease member
  exact never (decide_eq_true ⟨ofRun, ofTask⟩)

/-- In an open course the four appends succeed exactly for a system HIGH assessment. -/
theorem Course.appended_iff {run : AuthorityRun} {campaign : CampaignBinding}
    (setting : course.Setting platform runId decision runs run campaign)
    (valid : decision.Valid platform.sha256) :
    course.Appended platform runId decision runs ↔
      decision.guardianDecision.systemAssessment.riskLevel = .high := by
  have soundStart := sound_fresh platform runs
  have ⟨_, toEffect, soundEffect⟩ := (course.effectLeg decision).extends platform soundStart runId
  have ⟨fromEffect, toAssessment, soundAssessment⟩ :=
    (course.assessmentLeg decision).extends platform soundEffect runId
  have ⟨fromAssessment, toGuardian, soundGuardian⟩ :=
    (course.guardianLeg decision).extends platform soundAssessment runId
  have ⟨fromGuardian, _, _⟩ := (course.decisionLeg decision).extends platform soundGuardian runId
  have foundAssessment := (toEffect.trans fromEffect).runs runId run campaign setting.found
    setting.bound
  have foundGuardian := (toAssessment.trans fromAssessment).runs runId run campaign
    foundAssessment setting.bound
  have foundDecision := (toGuardian.trans fromGuardian).runs runId run campaign foundGuardian
    setting.bound
  have isRun : run.id = runId := findRun_id setting.found
  have typedGuardian : Typed platform (.guardianDecision decision.guardianDecision) :=
    ⟨valid.1, nofun⟩
  constructor
  · intro appended
    have admitted := (append_open platform foundGuardian setting.bound setting.guardianOpen
      typedGuardian).mp appended.guardian
    have ordered := (raiseIf_eq_ok _ _ _).mp admitted
    exact not_not.mp (not_or.mp ordered).1
  · intro high
    have effect : (course.effectLeg decision).Appends platform runId (freshStore runs) := by
      apply (append_open platform setting.found setting.bound setting.effectOpen
        ⟨trivial, nofun⟩).mpr
      have binding : ¬ (decision.effect.projectId ≠ run.agentteamsProjectId ∨
          decision.effect.workspaceCheckpointSha256 ≠ campaign.workspaceCheckpointSha256 ∨
          decision.effect.policySha256 ≠ campaign.policySha256) := by
        rw [setting.project, setting.checkpoint, setting.policy]
        simp
      change (raiseIf _ _ >>= _) = _
      rw [raiseIf_bind_of_not binding]
      apply (raiseIf_eq_ok _ _ _).mpr
      rw [isRun]
      exact leaseOf_of_mem setting.leased
    have assessment : (course.assessmentLeg decision).Appends platform runId
        (course.withEffect platform runId decision runs) := by
      apply (append_open platform foundAssessment setting.bound setting.assessmentOpen
        ⟨valid.1.1, ?_⟩).mpr
      · rfl
      · intro assessment same
        cases same
        exact valid.1.2.1
    have assessed := Leg.appended platform setting.assessmentOpen assessment
    have guardian : (course.guardianLeg decision).Appends platform runId
        (course.withAssessment platform runId decision runs) := by
      apply (append_open platform foundGuardian setting.bound setting.guardianOpen
        typedGuardian).mpr
      apply (raiseIf_eq_ok _ _ _).mpr
      rw [isRun]
      apply not_or.mpr
      constructor
      · exact not_not.mpr high
      · exact (Bool.not_eq_false _).mpr (fromAssessment.hasExact platform assessed)
    have reviewed := Leg.appended platform setting.guardianOpen guardian
    have affected := Leg.appended platform setting.effectOpen effect
    have toReview := ((fromEffect.trans toAssessment).trans (fromAssessment.trans toGuardian)).trans
      fromGuardian
    have decided : (course.decisionLeg decision).Appends platform runId
        (course.withGuardian platform runId decision runs) := by
      apply (append_open platform foundDecision setting.bound setting.decisionOpen
        ⟨valid, nofun⟩).mpr
      apply (raiseIf_eq_ok _ _ _).mpr
      rw [isRun]
      apply not_or.mpr
      constructor
      · exact (Bool.not_eq_false _).mpr (toReview.hasExact platform affected)
      · exact (Bool.not_eq_false _).mpr (fromGuardian.hasExact platform reviewed)
    exact ⟨effect, assessment, guardian, decided⟩

end Legs

end Course

end EgoAgent.Bridge.Authority
