import EgoAgent.Bridge.UserStatus
import EgoAgent.Lib.KeySort

/-!
What a user status shows: no safety event is hidden, and the order in which the events are
given does not matter.
-/

namespace EgoAgent.UserStatus

open EgoAgent.Api EgoAgent.Bridge

/-! ### The mode -/

theorem priority_pos_of_mode {eventType : StatusEventType} {mode : UserMessageMode}
    (shown : eventType.mode = some mode) : 0 < mode.priority := by
  cases eventType with
  | progress => cases shown
  | risk | approval | security =>
      cases shown
      decide

theorem effectiveMode_cons (requested : UserMessageMode) (event : AdmittedStatusEvent)
    (events : List AdmittedStatusEvent) :
    effectiveMode requested (event :: events) =
      effectiveMode (effectiveMode requested [event]) events := rfl

theorem effectiveMode_single (requested : UserMessageMode) (event : AdmittedStatusEvent) :
    (effectiveMode requested [event] = requested ∨
      event.eventType.mode = some (effectiveMode requested [event])) ∧
    requested.priority ≤ (effectiveMode requested [event]).priority ∧
    ∀ candidate ∈ event.eventType.mode,
      candidate.priority ≤ (effectiveMode requested [event]).priority := by
  cases shown : event.eventType.mode with
  | none =>
      have value : effectiveMode requested [event] = requested := by
        simp only [effectiveMode, List.foldl_cons, List.foldl_nil, shown]
      rw [value]
      exact ⟨.inl rfl, le_refl _, fun _ impossible => by cases impossible⟩
  | some candidate =>
      have value : effectiveMode requested [event] =
          if requested.priority < candidate.priority then candidate else requested := by
        simp only [effectiveMode, List.foldl_cons, List.foldl_nil, shown]
      rw [value]
      by_cases above : requested.priority < candidate.priority
      · rw [if_pos above]
        exact ⟨.inr rfl, above.le, fun _ same => by cases same; exact le_refl _⟩
      · rw [if_neg above]
        exact ⟨.inl rfl, le_refl _, fun _ same => by cases same; exact not_lt.mp above⟩

/-- A mode that is the highest of a requested one and of those of events. -/
def Highest (requested : UserMessageMode) (events : List AdmittedStatusEvent)
    (mode : UserMessageMode) : Prop :=
  (mode = requested ∨ ∃ event ∈ events, event.eventType.mode = some mode) ∧
    requested.priority ≤ mode.priority ∧
    ∀ event ∈ events, ∀ candidate ∈ event.eventType.mode, candidate.priority ≤ mode.priority

theorem effectiveMode_highest (requested : UserMessageMode) (events : List AdmittedStatusEvent) :
    Highest requested events (effectiveMode requested events) := by
  induction events generalizing requested with
  | nil => exact ⟨.inl rfl, le_refl _, fun _ member => by cases member⟩
  | cons event events ih =>
      rw [effectiveMode_cons]
      obtain ⟨source, above, covers⟩ := effectiveMode_single requested event
      obtain ⟨laterSource, laterAbove, laterCovers⟩ := ih (effectiveMode requested [event])
      refine ⟨?_, above.trans laterAbove, List.forall_mem_cons.mpr
        ⟨fun candidate own => (covers candidate own).trans laterAbove, laterCovers⟩⟩
      rcases laterSource with kept | ⟨later, member, ofLater⟩
      · rw [kept]
        exact source.imp id fun own => ⟨event, List.mem_cons_self, own⟩
      · exact .inr ⟨later, List.mem_cons_of_mem _ member, ofLater⟩

section

variable {events : List AdmittedStatusEvent}

variable {requested : UserMessageMode}

/-- The modes of safety events have different priorities, so that no choice is left. -/
theorem Highest.unique {first second : UserMessageMode} (isFirst : Highest requested events first)
    (isSecond : Highest requested events second) : first = second := by
  have same : first.priority = second.priority := by
    apply le_antisymm
    · rcases isFirst.1 with rfl | ⟨event, member, own⟩
      · exact isSecond.2.1
      · exact isSecond.2.2 event member first own
    · rcases isSecond.1 with rfl | ⟨event, member, own⟩
      · exact isFirst.2.1
      · exact isFirst.2.2 event member second own
  have positive (mode : UserMessageMode)
      (ofEvent : ∃ event ∈ events, event.eventType.mode = some mode) : 0 < mode.priority := by
    obtain ⟨event, _, own⟩ := ofEvent
    exact priority_pos_of_mode own
  rcases isFirst.1 with rfl | ofFirst
  · rcases isSecond.1 with rfl | ofSecond
    · rfl
    · have above := positive second ofSecond
      cases first <;> cases second <;> simp_all [UserMessageMode.priority]
  · have above := positive first ofFirst
    cases first <;> cases second <;> simp_all [UserMessageMode.priority]

variable {left right : List AdmittedStatusEvent}

theorem Highest.perm
    (perm : left.Perm right) {mode : UserMessageMode} (highest : Highest requested left mode) :
    Highest requested right mode :=
  ⟨highest.1.imp id fun ⟨event, member, own⟩ => ⟨event, perm.mem_iff.mp member, own⟩,
    highest.2.1, fun event member => highest.2.2 event (perm.mem_iff.mpr member)⟩

theorem effectiveMode_perm
    (perm : left.Perm right) : effectiveMode requested left = effectiveMode requested right :=
  ((effectiveMode_highest requested left).perm perm).unique (effectiveMode_highest requested right)

/-! ### The order of work nodes -/

variable {hierarchy : WorkHierarchy} {nodeId : String}

theorem WorkHierarchy.find_isSome (known : nodeId ∈ hierarchy.nodes.map WorkNode.nodeId) :
    ∃ node, hierarchy.find nodeId = some node ∧ node.nodeId = nodeId := by
  obtain ⟨node, member, same⟩ := List.mem_map.mp known
  have present : (hierarchy.find nodeId).isSome = true :=
    List.find?_isSome.mpr ⟨node, member, decide_eq_true same⟩
  obtain ⟨found, foundEq⟩ := Option.isSome_iff_exists.mp present
  have holds := List.find?_some (p := fun node : WorkNode => decide (node.nodeId = nodeId)) foundEq
  exact ⟨found, foundEq, of_decide_eq_true holds⟩

/-- Whatever the links of the parents, a path ends in its own node. -/
theorem WorkHierarchy.pathKey_last (known : nodeId ∈ hierarchy.nodes.map WorkNode.nodeId) :
    ∃ order, (hierarchy.pathKey nodeId).getLast? = some (toLex (order, nodeId)) := by
  obtain ⟨node, found, same⟩ := hierarchy.find_isSome known
  refine ⟨node.order, ?_⟩
  unfold WorkHierarchy.pathKey
  rw [found]
  simp only [WorkHierarchy.climb, List.not_mem_nil, if_false, List.getLast?_reverse,
    List.head?_cons, same]

/-- There are rounds enough to follow every link: one more changes nothing. -/
theorem WorkHierarchy.climb_enough (hierarchy : WorkHierarchy) (rounds : Nat) (node : WorkNode)
    (seen : List String) (distinct : seen.Nodup)
    (followed : seen ⊆ hierarchy.nodes.map WorkNode.nodeId) (listed : node ∈ hierarchy.nodes)
    (enough : hierarchy.nodes.length < rounds + seen.length) :
    hierarchy.climb (rounds + 1) node seen = hierarchy.climb rounds node seen := by
  induction rounds generalizing node seen with
  | zero =>
      have bounded := (List.subperm_of_subset distinct followed).length_le
      rw [List.length_map] at bounded
      omega
  | succ rounds ih =>
      rw [WorkHierarchy.climb]
      conv_rhs => rw [WorkHierarchy.climb]
      by_cases back : node.nodeId ∈ seen
      · rw [if_pos back, if_pos back]
      · rw [if_neg back, if_neg back]
        cases up : node.parentId.bind hierarchy.find with
        | none => rfl
        | some parent =>
            obtain ⟨_, _, found⟩ := Option.bind_eq_some_iff.mp up
            congr 1
            refine ih parent (node.nodeId :: seen) (List.nodup_cons.mpr ⟨back, distinct⟩)
              (List.cons_subset.mpr ⟨List.mem_map_of_mem listed, followed⟩)
              (List.mem_of_find?_eq_some found) ?_
            rw [List.length_cons]
            omega

theorem WorkHierarchy.pathKey_eq {node : WorkNode}
    (found : hierarchy.find nodeId = some node) {rounds : Nat}
    (enough : hierarchy.nodes.length < rounds) :
    hierarchy.pathKey nodeId = (hierarchy.climb rounds node []).reverse := by
  obtain ⟨extra, rfl⟩ := Nat.exists_eq_add_of_lt enough
  unfold WorkHierarchy.pathKey
  rw [found]
  induction extra with
  | zero => rfl
  | succ extra ih =>
      rw [ih (by omega)]
      have stable := hierarchy.climb_enough (hierarchy.nodes.length + extra + 1) node []
        List.nodup_nil (List.nil_subset _) (List.mem_of_find?_eq_some found)
        (by rw [List.length_nil]; omega)
      exact congrArg List.reverse stable.symm

theorem WorkHierarchy.pathKey_tells {first second : String}
    (isFirst : first ∈ hierarchy.nodes.map WorkNode.nodeId)
    (isSecond : second ∈ hierarchy.nodes.map WorkNode.nodeId)
    (same : hierarchy.pathKey first = hierarchy.pathKey second) : first = second := by
  obtain ⟨firstOrder, firstLast⟩ := hierarchy.pathKey_last isFirst
  obtain ⟨secondOrder, secondLast⟩ := hierarchy.pathKey_last isSecond
  rw [same, secondLast] at firstLast
  exact (congrArg (fun key => (ofLex key).2) (Option.some.inj firstLast)).symm

theorem WorkHierarchy.orderedNodes_congr {left right : List String} (perm : left.Perm right)
    (known : ∀ nodeId ∈ right, nodeId ∈ hierarchy.nodes.map WorkNode.nodeId) :
    hierarchy.orderedNodes left = hierarchy.orderedNodes right :=
  sortedByKey_congr hierarchy.pathKey perm fun first isFirst second isSecond =>
    hierarchy.pathKey_tells (known first isFirst) (known second isSecond)

/-! ### The latest events -/

theorem latestByNode_some {nodeIds : List String} {last : AdmittedStatusEvent}
    (shown : latestByNode events nodeIds nodeId = some last) :
    last ∈ events ∧ last.nodeId = nodeId ∧
      ∀ event ∈ events, event.nodeId = nodeId → event.key ≤ last.key := by
  obtain ⟨member, kept, greatest⟩ := getLast?_sortedByKey AdmittedStatusEvent.key shown
  obtain ⟨same, allowed⟩ := of_decide_eq_true kept
  refine ⟨member, same, fun event listed here => greatest event listed (decide_eq_true ⟨here, ?_⟩)⟩
  rw [here, ← same]
  exact allowed

theorem latestByNode_none {nodeIds : List String} (allowed : nodeId ∈ nodeIds)
    (missing : latestByNode events nodeIds nodeId = none) :
    ∀ event ∈ events, event.nodeId ≠ nodeId := by
  intro event listed here
  have dropped := getLast?_sortedByKey_eq_none AdmittedStatusEvent.key missing event listed
  exact of_decide_eq_false dropped ⟨here, here ▸ allowed⟩

/-! ### The order of the events -/

section Order

variable {left right : List AdmittedStatusEvent}

theorem eventId_tells (distinct : (right.map AdmittedStatusEvent.eventId).Nodup)
    {first second : AdmittedStatusEvent} (isFirst : first ∈ right) (isSecond : second ∈ right)
    (same : first.eventId = second.eventId) : first = second :=
  List.inj_on_of_nodup_map distinct isFirst isSecond same

theorem latestByNode_congr (perm : left.Perm right)
    (distinct : (right.map AdmittedStatusEvent.eventId).Nodup) (nodeIds : List String) :
    latestByNode left nodeIds = latestByNode right nodeIds := by
  funext nodeId
  unfold latestByNode
  rw [sortedByKey_congr AdmittedStatusEvent.key perm fun first isFirst second isSecond same =>
    eventId_tells distinct isFirst isSecond (congrArg (fun key => (ofLex key).2) same)]

variable {hierarchy : WorkHierarchy}

theorem attentionIds_congr (perm : left.Perm right)
    (known : ∀ event ∈ right, event.nodeId ∈ hierarchy.nodes.map WorkNode.nodeId)
    (mode : UserMessageMode) :
    attentionIds mode hierarchy left = attentionIds mode hierarchy right := by
  unfold attentionIds
  rw [hierarchy.orderedNodes_congr ((perm.filter _).map _).dedup]
  intro nodeId member
  obtain ⟨event, kept, rfl⟩ := List.mem_map.mp (List.mem_dedup.mp member)
  exact known event (List.mem_filter.mp kept).1

theorem visibleIds_congr (perm : left.Perm right)
    (known : ∀ event ∈ right, event.nodeId ∈ hierarchy.nodes.map WorkNode.nodeId)
    (mode : UserMessageMode) :
    visibleIds mode hierarchy left = visibleIds mode hierarchy right := by
  unfold visibleIds overrideIds
  rw [attentionIds_congr perm known]

theorem usedEvents_perm (perm : left.Perm right)
    (known : ∀ event ∈ right, event.nodeId ∈ hierarchy.nodes.map WorkNode.nodeId)
    (distinct : (right.map AdmittedStatusEvent.eventId).Nodup) (mode : UserMessageMode) :
    (usedEvents mode hierarchy left).Perm (usedEvents mode hierarchy right) := by
  unfold usedEvents
  rw [visibleIds_congr perm known, latestByNode_congr perm distinct]
  exact perm.filter _

theorem sourceEvents_congr (perm : left.Perm right)
    (known : ∀ event ∈ right, event.nodeId ∈ hierarchy.nodes.map WorkNode.nodeId)
    (distinct : (right.map AdmittedStatusEvent.eventId).Nodup) (mode : UserMessageMode) :
    sourceEvents mode hierarchy left = sourceEvents mode hierarchy right :=
  sortedByKey_congr AdmittedStatusEvent.eventId (usedEvents_perm perm known distinct mode)
    fun _ isFirst _ isSecond => eventId_tells distinct (List.mem_filter.mp isFirst).1
      (List.mem_filter.mp isSecond).1

end Order

theorem explainedTerms_congr {φ : Type} [FloatEquality φ]
    (perm : left.Perm right) (locale : StatusLocale) (safety : Option (SafetyDecision φ)) :
    explainedTerms left locale safety = explainedTerms right locale safety := by
  unfold explainedTerms
  rw [sortedSet_congr fun _ => (perm.flatMap_right _).mem_iff]

/-! ### Checks of permuted events -/

theorem forM_perm {α : Type} {check : α → Except String Unit} {left right : List α}
    (perm : left.Perm right) (passed : right.forM check = .ok ()) : left.forM check = .ok () :=
  forM_ok fun item member => forM_eq_ok passed item (perm.mem_iff.mp member)

variable {tenantId projectId : String}

theorem validateEvents_ok (valid : validateEvents tenantId projectId hierarchy events = .ok ()) :
    (events.map AdmittedStatusEvent.eventId).Nodup ∧
      ∀ event ∈ events, event.nodeId ∈ hierarchy.nodes.map WorkNode.nodeId := by
  obtain ⟨distinct, each⟩ := (raiseIf_bind_eq_ok _ _ _ _).mp valid
  refine ⟨not_not.mp distinct, fun event member => ?_⟩
  obtain ⟨_, ofTenant⟩ := (raiseIf_bind_eq_ok _ _ _ _).mp (forM_eq_ok each event member)
  obtain ⟨_, ofProject⟩ := (raiseIf_bind_eq_ok _ _ _ _).mp ofTenant
  exact not_not.mp ((raiseIf_eq_ok _ _ _).mp ofProject)

theorem validateEvents_perm (perm : left.Perm right)
    (valid : validateEvents tenantId projectId hierarchy right = .ok ()) :
    validateEvents tenantId projectId hierarchy left = .ok () := by
  obtain ⟨distinct, each⟩ := (raiseIf_bind_eq_ok _ _ _ _).mp valid
  refine (raiseIf_bind_eq_ok _ _ _ _).mpr ⟨fun repeated => distinct fun fine => repeated ?_,
    forM_perm perm each⟩
  exact (perm.map _).nodup_iff.mpr fine

end

section Safety

variable {φ : Type} [FloatEquality φ] (unicode : UnicodeText)

variable {disclosure : Option (ApprovalDisclosure φ)}

variable {left right : List AdmittedStatusEvent}

theorem validateBinding_perm {mode : UserMessageMode}
    (perm : left.Perm right) {guardian : GuardianDecision} {safety : SafetyDecision φ}
    (valid : validateBinding unicode mode right guardian safety disclosure = .ok ()) :
    validateBinding unicode mode left guardian safety disclosure = .ok () := by
  have relevant := perm.filter fun event => decide (mode.eventType = some event.eventType)
  obtain ⟨bound, valid⟩ := (raiseIf_bind_eq_ok _ _ _ _).mp valid
  obtain ⟨someRelevant, valid⟩ := (raiseIf_bind_eq_ok _ _ _ _).mp valid
  obtain ⟨_, each, valid⟩ := (bind_eq_ok _ _ _).mp valid
  refine (raiseIf_bind_eq_ok _ _ _ _).mpr ⟨bound, (raiseIf_bind_eq_ok _ _ _ _).mpr
    ⟨fun none => someRelevant ?_, (bind_eq_ok _ _ _).mpr ⟨(), forM_perm relevant each, valid⟩⟩⟩
  rw [none] at relevant
  exact relevant.nil_eq.symm

variable {safety : Option (SafetyDecision φ)} {guardian : Option GuardianDecision}

theorem validateSafetyBinding_perm {mode : UserMessageMode} (perm : left.Perm right)
    (valid : validateSafetyBinding unicode mode right guardian safety disclosure = .ok ()) :
    validateSafetyBinding unicode mode left guardian safety disclosure = .ok () := by
  unfold validateSafetyBinding at valid ⊢
  by_cases bound : mode = .approval ∨ mode = .security
  · rw [if_pos bound] at valid ⊢
    cases guardian with
    | none => cases valid
    | some guardian =>
        cases safety with
        | none => cases valid
        | some safety => exact validateBinding_perm unicode perm valid
  · rw [if_neg bound] at valid ⊢
    exact valid

/-- A safety binding in approval mode is the chain of an enforcing decision. -/
theorem validateSafetyBinding_approval {events : List AdmittedStatusEvent}
    (valid : validateSafetyBinding unicode .approval events guardian safety disclosure =
      .ok ()) :
    ∃ given ∈ guardian, ∃ decision ∈ safety, ApprovalChain given decision disclosure ∧
      sameGuardian decision.guardianDecision given = true := by
  unfold validateSafetyBinding at valid
  rw [if_pos (.inl rfl)] at valid
  cases guardian with
  | none => cases valid
  | some guardian =>
      cases safety with
      | none => cases valid
      | some safety =>
          obtain ⟨bound, valid⟩ := (raiseIf_bind_eq_ok _ _ _ _).mp valid
          obtain ⟨_, valid⟩ := (raiseIf_bind_eq_ok _ _ _ _).mp valid
          obtain ⟨_, _, valid⟩ := (bind_eq_ok _ _ _).mp valid
          obtain ⟨_, _, valid⟩ := (bind_eq_ok _ _ _).mp valid
          rw [if_pos rfl] at valid
          exact ⟨guardian, rfl, safety, rfl, not_not.mp ((raiseIf_eq_ok _ _ _).mp valid),
            Bool.not_eq_false _ ▸ bound⟩

end Safety

/-! ### Projections -/

section Project

variable {φ : Type} [FloatEquality φ] (unicode : UnicodeText) (sha256 : Bytes → Digest)
  (query : StatusQuery φ)

/-- What a projection that is returned is made of, and the checks that it passed. -/
theorem projectUserStatus_eq_ok (events : List AdmittedStatusEvent)
    (projection : UserStatusProjection φ) :
    projectUserStatus unicode sha256 query events = .ok projection ↔
      (¬ (query.tenantId = "" ∨ query.projectId = "" ∨ query.taskId = "")) ∧
      validateEvents query.tenantId query.projectId query.hierarchy events = .ok () ∧
      validateSafetyBinding unicode (effectiveMode query.requestedMode events) events
        query.guardianDecision query.safetyDecision query.approvalDisclosure = .ok () ∧
      ∃ terms, explainedTerms (usedEvents (effectiveMode query.requestedMode events)
          query.hierarchy events) query.locale query.safetyDecision = .ok terms ∧
        projection.validate sha256 = .ok () ∧
        projection = { assemble sha256 query events (effectiveMode query.requestedMode events)
            terms with
          projectionSha256 := (assemble sha256 query events
            (effectiveMode query.requestedMode events) terms).digest sha256 } := by
  unfold projectUserStatus
  rw [raiseIf_bind_eq_ok]
  refine and_congr_right fun _ => ?_
  rw [bind_eq_ok]
  constructor
  · rintro ⟨⟨⟩, ofEvents, computed⟩
    obtain ⟨⟨⟩, ofBinding, computed⟩ := (bind_eq_ok _ _ _).mp computed
    obtain ⟨terms, ofTerms, computed⟩ := (bind_eq_ok _ _ _).mp computed
    obtain ⟨⟨⟩, ofProjection, computed⟩ := (bind_eq_ok _ _ _).mp computed
    cases computed
    exact ⟨ofEvents, ofBinding, terms, ofTerms, ofProjection, rfl⟩
  · rintro ⟨ofEvents, ofBinding, terms, ofTerms, ofProjection, rfl⟩
    exact ⟨(), ofEvents, (bind_eq_ok _ _ _).mpr ⟨(), ofBinding, (bind_eq_ok _ _ _).mpr
      ⟨terms, ofTerms, (bind_eq_ok _ _ _).mpr ⟨(), ofProjection, rfl⟩⟩⟩⟩

omit [FloatEquality φ] in
theorem safety_visible {mode : UserMessageMode} (overriding : mode.overriding = true)
    {hierarchy : WorkHierarchy} {events : List AdmittedStatusEvent} {event : AdmittedStatusEvent}
    (listed : event ∈ events) (safety : event.eventType.isSafety = true) :
    event.nodeId ∈ visibleIds mode hierarchy events := by
  by_cases base : event.nodeId ∈ hierarchy.baseIds
  · exact List.mem_append_left _ base
  · refine List.mem_append_right _ (List.mem_filter.mpr ⟨?_, decide_eq_true base⟩)
    unfold attentionIds
    rw [if_pos overriding]
    refine (mem_sortedByKey hierarchy.pathKey).mpr (List.mem_dedup.mpr ?_)
    exact List.mem_map_of_mem (List.mem_filter.mpr ⟨listed, safety⟩)

theorem safety_source {mode : UserMessageMode} (overriding : mode.overriding = true)
    {hierarchy : WorkHierarchy} {events : List AdmittedStatusEvent} {event : AdmittedStatusEvent}
    (listed : event ∈ events) (safety : event.eventType.isSafety = true) :
    event ∈ sourceEvents mode hierarchy events :=
  (mem_sortedByKey AdmittedStatusEvent.eventId).mpr
    (List.mem_filter.mpr ⟨listed, decide_eq_true (.inr ⟨overriding, safety⟩)⟩)

/-- A choice of events for nodes that is the last one of each, where there is any. -/
def ShowsLatest (events : List AdmittedStatusEvent) (nodeIds : List String)
    (latest : String → Option AdmittedStatusEvent) : Prop :=
  ∀ nodeId ∈ nodeIds,
    match latest nodeId with
    | some last => last ∈ events ∧ last.nodeId = nodeId ∧
        ∀ event ∈ events, event.nodeId = nodeId → event.key ≤ last.key
    | none => ∀ event ∈ events, event.nodeId ≠ nodeId

theorem latestByNode_showsLatest (events : List AdmittedStatusEvent) (nodeIds : List String) :
    ShowsLatest events nodeIds (latestByNode events nodeIds) := by
  intro nodeId allowed
  split
  case h_1 last shown => exact latestByNode_some shown
  case h_2 missing => exact latestByNode_none allowed missing

theorem renderStatus_states (mode : UserMessageMode) (hierarchy : WorkHierarchy)
    (visible attention : List String) (latest : String → Option AdmittedStatusEvent)
    (terms : List (String × String)) (locale : StatusLocale) (safety : Option (SafetyDecision φ))
    (disclosure : Option (ApprovalDisclosure φ)) :
    ∃ result rest, renderStatus mode hierarchy visible attention latest terms locale safety
        disclosure =
      joined " " (result :: stateSentence (stateLine visible latest locale) locale :: rest) := by
  cases locale with
  | enUs => exact ⟨_, _, rfl⟩
  | zhCn => exact ⟨_, _, rfl⟩

variable {left right : List AdmittedStatusEvent}

/-- Permuted events make the same projection. -/
theorem assemble_congr (perm : left.Perm right)
    (known : ∀ event ∈ right, event.nodeId ∈ query.hierarchy.nodes.map WorkNode.nodeId)
    (distinct : (right.map AdmittedStatusEvent.eventId).Nodup) (mode : UserMessageMode)
    (terms : List (String × String)) :
    assemble sha256 query left mode terms = assemble sha256 query right mode terms := by
  unfold assemble overrideIds
  rw [visibleIds_congr perm known, attentionIds_congr perm known,
    latestByNode_congr perm distinct, sourceEvents_congr perm known distinct]

theorem projectUserStatus_perm (perm : left.Perm right) {projection : UserStatusProjection φ}
    (projected : projectUserStatus unicode sha256 query right = .ok projection) :
    projectUserStatus unicode sha256 query left = .ok projection := by
  rw [projectUserStatus_eq_ok] at projected ⊢
  obtain ⟨named, ofEvents, ofBinding, terms, ofTerms, ofProjection, shown⟩ := projected
  obtain ⟨distinct, known⟩ := validateEvents_ok ofEvents
  rw [effectiveMode_perm perm]
  refine ⟨named, validateEvents_perm perm ofEvents,
    validateSafetyBinding_perm unicode perm ofBinding, terms, ?_, ofProjection, ?_⟩
  · exact (explainedTerms_congr (usedEvents_perm perm known distinct _) _ _).trans ofTerms
  · rw [assemble_congr sha256 query perm known distinct]
    exact shown

/-- Of the events a projection shows the highest mode, every safety event and the last state of
every visible node; approval has its chain; and the order of the events does not matter. -/
theorem projectUserStatus_hides_nothing (events : List AdmittedStatusEvent)
    (projection : UserStatusProjection φ)
    (projected : projectUserStatus unicode sha256 query events = .ok projection) :
    Highest query.requestedMode events projection.mode ∧
    (projection.mode ∈ [UserMessageMode.risk, .approval, .security] →
      ∀ event ∈ events, event.eventType ∈ [StatusEventType.risk, .approval, .security] →
        event.nodeId ∈ projection.visibleNodeIds ∧
        (event.eventId, event.digest sha256) ∈
          projection.sourceEventIds.zip projection.sourceEventDigests) ∧
    (∃ latest result rest, ShowsLatest events projection.visibleNodeIds latest ∧
      projection.statusText = joined " " (result ::
        stateSentence (stateLine projection.visibleNodeIds latest query.locale) query.locale ::
          rest)) ∧
    (projection.mode = .approval →
      ∃ guardian ∈ projection.guardianDecision, ∃ safety ∈ projection.safetyDecision,
        ApprovalChain guardian safety projection.approvalDisclosure ∧
        sameGuardian safety.guardianDecision guardian = true) ∧
    ∀ other : List AdmittedStatusEvent, other.Perm events →
      projectUserStatus unicode sha256 query other = .ok projection := by
  have reordered (other : List AdmittedStatusEvent) (perm : other.Perm events) :=
    projectUserStatus_perm unicode sha256 query perm projected
  obtain ⟨_, _, ofBinding, terms, _, _, rfl⟩ :=
    (projectUserStatus_eq_ok unicode sha256 query events projection).mp projected
  refine ⟨effectiveMode_highest _ _, ?_, ?_, ?_, reordered⟩
  · intro safetyMode event listed isSafety
    have overriding : (effectiveMode query.requestedMode events).overriding = true := by
      generalize effectiveMode query.requestedMode events = mode at safetyMode
      cases mode <;> first | rfl | simp [assemble] at safetyMode
    have safety : event.eventType.isSafety = true := decide_eq_true isSafety
    refine ⟨safety_visible overriding listed safety, ?_⟩
    have source : event ∈ sourceEvents (effectiveMode query.requestedMode events)
        query.hierarchy events := safety_source overriding listed safety
    change _ ∈ List.zip (List.map _ _) (List.map _ _)
    rw [List.zip_map']
    exact List.mem_map_of_mem source
  · obtain ⟨result, rest, text⟩ := renderStatus_states
      (effectiveMode query.requestedMode events) query.hierarchy
      (visibleIds (effectiveMode query.requestedMode events) query.hierarchy events)
      (attentionIds (effectiveMode query.requestedMode events) query.hierarchy events)
      (latestByNode events
        (visibleIds (effectiveMode query.requestedMode events) query.hierarchy events))
      terms query.locale query.safetyDecision query.approvalDisclosure
    exact ⟨_, result, rest, latestByNode_showsLatest _ _, text⟩
  · intro approval
    change effectiveMode query.requestedMode events = .approval at approval
    rw [approval] at ofBinding
    exact validateSafetyBinding_approval unicode ofBinding

end Project

namespace StatusSample

/-- A project with one task; the parents of two other nodes go round in a circle. -/
def hierarchy : WorkHierarchy where
  currentNodeId := "project"
  directChildIds := ["task"]
  nodes := [⟨"project", .project, none, ["task"], 0⟩, ⟨"task", .task, some "project", [], 0⟩,
    ⟨"left", .task, some "right", [], 0⟩, ⟨"right", .task, some "left", [], 1⟩]
  current := ⟨"project", .project, none, ["task"], 0⟩
  idsDistinct := by decide
  currentListed := ⟨List.mem_cons_self, rfl⟩
  childrenDistinct := by decide
  declared := rfl
  ordered := by decide
  contiguous := by decide
  oneLevelBelow := by decide

def event (eventId nodeId : String) (eventType : StatusEventType) (sequence : Nat) :
    AdmittedStatusEvent where
  eventId := eventId
  tenantId := "tenant"
  projectId := "project"
  nodeId := nodeId
  eventType := eventType
  stateCode := .blocked
  sequence := sequence
  specialistTerms := []
  guardianDecisionSha256 := none
  safetyDecisionSha256 := none

def events : List AdmittedStatusEvent :=
  [event "first" "left" .risk 1, event "second" "left" .progress 2]

def query : StatusQuery Empty where
  tenantId := "tenant"
  projectId := "project"
  taskId := "task"
  hierarchy := hierarchy
  requestedMode := .progress
  locale := .enUs
  guardianDecision := none
  safetyDecision := none
  approvalDisclosure := none

def sha256 : Bytes → Digest := fun _ => 5

theorem projects : ∃ projection,
    projectUserStatus Sample.asciiText sha256 query events = .ok projection ∧
      projection.mode = .risk := by
  have outcome : ((projectUserStatus Sample.asciiText sha256 query events).toOption.map
      UserStatusProjection.mode) = some .risk := by decide +kernel
  cases projected : projectUserStatus Sample.asciiText sha256 query events with
  | error message =>
      rw [projected] at outcome
      cases outcome
  | ok projection =>
      rw [projected] at outcome
      exact ⟨projection, rfl, Option.some.inj outcome⟩

end StatusSample

theorem projectUserStatus_hides_nothing_of_sample :
    ∃ projection, projectUserStatus Sample.asciiText StatusSample.sha256 StatusSample.query
        StatusSample.events = .ok projection ∧
      "left" ∈ projection.visibleNodeIds ∧
      projectUserStatus Sample.asciiText StatusSample.sha256 StatusSample.query
        StatusSample.events.reverse = .ok projection := by
  obtain ⟨projection, projected, risk⟩ := StatusSample.projects
  obtain ⟨_, shown, _, _, reordered⟩ := projectUserStatus_hides_nothing Sample.asciiText
    StatusSample.sha256 StatusSample.query StatusSample.events projection projected
  refine ⟨projection, projected, ?_, reordered _ (List.reverse_perm _)⟩
  exact (shown (risk ▸ List.mem_cons_self) _ List.mem_cons_self (by decide)).1

end EgoAgent.UserStatus
