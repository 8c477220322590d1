import EgoAgent.Bridge.AuthorityLedger

/-!
The authority stream and its two tables as one ledger.

A call writes nothing, binds a campaign, or adds one row to the stream, a lease or
evaluator row with the row of its admission.  Every such write keeps the rows of a
run numbered and chained and the tables in step with the stream.
-/

namespace EgoAgent.Bridge.Authority

open EgoAgent.Api EgoAgent.SecureMemory Effect

section Ledger

variable {φ : Type} [FloatEquality φ] (platform : AuthorityPlatform φ)

/-! ### Inversion -/

/-- A row that the append routine may add. -/
def Placed (store : AuthorityStore φ) (row : ExtensionRow φ) : Prop :=
  (∃ runId content key memoryWatermark stamp,
    row = store.nextRow platform runId content key memoryWatermark stamp) ∧ store.Accepts row

/-- What the append routine did when it returned. -/
inductive Appended (store : AuthorityStore φ) (runId : String) (content : RowContent φ)
    (key : String) (memoryWatermark : Int) :
    Outcome (ExtensionRow φ) → AuthorityStore φ → Prop
  | replayed {row : ExtensionRow φ} (found : store.keyed runId key = some row)
      (payload : row.content.canonicalPayload platform.sha256 =
        content.canonicalPayload platform.sha256)
      (eventType : row.content.eventType = content.eventType)
      (watermark : row.memoryWatermark = memoryWatermark) :
      Appended store runId content key memoryWatermark ⟨row, true⟩ store
  | added {row : ExtensionRow φ} (unused : store.keyed runId key = none)
      (placed : Placed platform store row) (run : row.runId = runId)
      (content_eq : row.content = content) (key_eq : row.idempotencyKey = key)
      (admitted : ∃ found campaign, store.findRun runId = .ok found ∧
        found.campaign = some campaign ∧
        store.admission platform found campaign memoryWatermark content = .ok ()) :
      Appended store runId content key memoryWatermark ⟨row, false⟩
        { store with events := store.events ++ [row] }

theorem appendExtensionBytes_eq_ok {store later : AuthorityStore φ} {runId key : String}
    {content : RowContent φ} {memoryWatermark : Int} {stamp : Stamp}
    {outcome : Outcome (ExtensionRow φ)}
    (ran : appendExtensionBytes platform runId content key memoryWatermark stamp store =
      (.ok outcome, later)) :
    Appended platform store runId content key memoryWatermark outcome later := by
  unfold appendExtensionBytes at ran
  rw [read_bind] at ran
  obtain ⟨run, found, ran⟩ := (check_bind_eq_ok _ _ _ _ _).mp ran
  obtain ⟨campaign, bound, ran⟩ := (check_bind_eq_ok _ _ _ _ _).mp ran
  obtain ⟨_, ran⟩ := (Effect.raiseIf_bind_eq_ok _ _ _ _ _ _).mp ran
  cases used : store.keyed runId key with
  | some existing =>
      rw [used] at ran
      obtain ⟨same, ran⟩ := (Effect.raiseIf_bind_eq_ok _ _ _ _ _ _).mp ran
      obtain ⟨payload, same⟩ := not_or.mp same
      obtain ⟨eventType, watermark⟩ := not_or.mp same
      simp only [Effect.pure_apply, Prod.mk.injEq, Except.ok.injEq] at ran
      obtain ⟨rfl, rfl⟩ := ran
      exact .replayed used (not_not.mp payload) (not_not.mp eventType) (not_not.mp watermark)
  | none =>
      rw [used] at ran
      obtain ⟨_, admitted, ran⟩ := (check_bind_eq_ok _ _ _ _ _).mp ran
      obtain ⟨accepts, ran⟩ := (Effect.raiseIf_bind_eq_ok _ _ _ _ _ _).mp ran
      simp only [Effect.write_bind, Effect.pure_apply, Prod.mk.injEq, Except.ok.injEq] at ran
      obtain ⟨rfl, rfl⟩ := ran
      exact .added used ⟨⟨_, _, _, _, _, rfl⟩, not_not.mp accepts⟩ rfl rfl rfl
        ⟨run, campaign, found, (expect_eq_ok _ _ _).mp bound, admitted⟩

theorem returning_eq_ok {σ ε ρ τ : Type} {wrap : ρ → τ} {effect : Effect σ ε ρ} {state final : σ}
    {result : τ} (ran : returning wrap effect state = (.ok result, final)) :
    ∃ item, effect state = (.ok item, final) ∧ result = wrap item := by
  obtain ⟨item, middle, first, rest⟩ := (Effect.bind_eq_ok _ _ _ _ _).mp ran
  simp only [Effect.pure_apply, Prod.mk.injEq, Except.ok.injEq] at rest
  obtain ⟨rfl, rfl⟩ := rest
  exact ⟨item, first, rfl⟩

theorem returning_atomic {σ ε ρ τ : Type} {wrap : ρ → τ} {effect : Effect σ ε ρ} {state : σ}
    (atomic : Effect.Atomic effect state) : Effect.Atomic (returning wrap effect) state := by
  intro error final ran
  rcases (Effect.bind_eq_error _ _ _ _ _).mp ran with early | ⟨item, middle, _, late⟩
  · exact atomic error final early
  · cases late

/-- A call that raises leaves the store alone. -/
theorem perform_atomic (call : AuthorityCall φ) (store : AuthorityStore φ) :
    Effect.Atomic (perform platform call) store := by
  cases call with
  | bindCampaign runId binding => exact returning_atomic (atomic_transaction _ _)
  | appendExtensionEvent runId eventType event key memoryWatermark stamp =>
      apply returning_atomic
      apply keeps_check_bind
      intro _ _
      apply keeps_check_bind
      intro _ _
      exact atomic_transaction _ _
  | storeSignedTaskLease runId payload key stamp =>
      apply returning_atomic
      apply keeps_check_bind
      intro _ _
      apply keeps_check_bind
      intro _ _
      exact atomic_transaction _ _
  | bindSealedEvaluation runId evaluation stamp =>
      apply returning_atomic
      apply keeps_check_bind
      intro _ _
      apply keeps_check_bind
      intro _ _
      exact atomic_transaction _ _

/-! ### The ledger -/

/-- A lease is the one its row of the stream admitted. -/
def LeaseOf (row : ExtensionRow φ) (lease : Admission) : Prop :=
  row.content = .taskLease lease.canonicalSignedPayload ∧
    lease = admissionOf row lease.taskId lease.canonicalSignedPayload lease.signatureBase64
      lease.keyId lease.issuerId

def EvaluatorOf (row : ExtensionRow φ) (binding : EvaluatorRow) : Prop :=
  row.content = .evaluator binding.admission.canonicalSignedPayload ∧
    binding.admission = admissionOf row binding.admission.taskId
      binding.admission.canonicalSignedPayload binding.admission.signatureBase64
      binding.admission.keyId binding.admission.issuerId

/-- The signed payload of a lease names its task and binds the campaign and the project of
its run. -/
def LeaseSigned (store : AuthorityStore φ) (lease : Admission) : Prop :=
  ∃ members signed run campaign,
    requireCanonicalObject platform lease.canonicalSignedPayload = .ok members ∧
      platform.readTaskLease members = some signed ∧ lease.taskId = signed.core.taskId ∧
      store.findRun lease.runId = .ok run ∧ run.campaign = some campaign ∧
      assertLeaseBinding run campaign signed = .ok ()

/-- Two leases of one run are for different tasks. -/
def OtherTask (left right : Admission) : Prop :=
  left.runId = right.runId → left.taskId ≠ right.taskId

/-- Two admissions of one run come from different rows of the stream. -/
def Apart (left right : Admission) : Prop :=
  left.runId = right.runId → left.eventSequence ≠ right.eventSequence

/-- The stream of every run is numbered and chained, and the tables are its admissions. -/
structure Sound (store : AuthorityStore φ) : Prop where
  numbered : ∀ runId, (store.rowsOf runId).map ExtensionRow.sequence =
    List.range' 1 (store.rowsOf runId).length
  chained : ∀ runId, chainValid platform.sha256 streamGenesis (store.rowsOf runId) = true
  lease_row : ∀ lease ∈ store.leases, ∃ row ∈ store.events, LeaseOf row lease
  row_lease : ∀ row ∈ store.events, ∀ payload, row.content = .taskLease payload →
    ∃ lease ∈ store.leases, LeaseOf row lease
  leases_apart : store.leases.Pairwise Apart
  lease_tasks : store.leases.Pairwise OtherTask
  lease_signed : ∀ lease ∈ store.leases, LeaseSigned platform store lease
  evaluator_row : ∀ binding ∈ store.evaluators, ∃ row ∈ store.events, EvaluatorOf row binding
  row_evaluator : ∀ row ∈ store.events, ∀ payload, row.content = .evaluator payload →
    ∃ binding ∈ store.evaluators, EvaluatorOf row binding
  evaluators_apart : (store.evaluators.map EvaluatorRow.admission).Pairwise Apart
  evaluator_checked : ∀ binding ∈ store.evaluators,
    checkEvaluation platform binding.admission.canonicalSignedPayload binding.admission.taskId =
      .ok ()

/-- The writes of a call. -/
inductive Wrote (store : AuthorityStore φ) : AuthorityStore φ → Prop
  | nothing : Wrote store store
  | bound (runId : String) (binding : CampaignBinding) :
      Wrote store { store with runs := boundRuns runId binding store.runs }
  | event {row : ExtensionRow φ} {event : ExtensionEvent φ} (placed : Placed platform store row)
      (content : row.content = .event event) (valid : event.Valid platform.sha256)
      (admitted : ∃ run campaign memoryWatermark, store.findRun row.runId = .ok run ∧
        run.campaign = some campaign ∧
        store.admission platform run campaign memoryWatermark (.event event) = .ok ()) :
      Wrote store { store with events := store.events ++ [row] }
  | lease {row : ExtensionRow φ} {lease : Admission} (placed : Placed platform store row)
      (admits : LeaseOf row lease) (signed : LeaseSigned platform store lease)
      (unleased : store.leaseOf lease.runId lease.taskId = none) :
      Wrote store
        { store with events := store.events ++ [row], leases := store.leases ++ [lease] }
  | evaluator {row : ExtensionRow φ} {binding : EvaluatorRow} (placed : Placed platform store row)
      (admits : EvaluatorOf row binding)
      (checked : checkEvaluation platform binding.admission.canonicalSignedPayload
        binding.admission.taskId = .ok ()) :
      Wrote store
        { store with events := store.events ++ [row],
                     evaluators := store.evaluators ++ [binding] }

/-! ### One more row -/

theorem expectedHash_with (sha256 : Bytes → Digest) (row : ExtensionRow φ) (hash : Digest) :
    ExtensionRow.expectedHash sha256 { row with eventHash := hash } = row.expectedHash sha256 :=
  rfl

theorem chainValid_append (sha256 : Bytes → Digest) (rows : List (ExtensionRow φ))
    (row : ExtensionRow φ) (previous : Digest) :
    chainValid sha256 previous (rows ++ [row]) = true ↔
      chainValid sha256 previous rows = true ∧
        row.payloadSha256 = sha256 (row.content.canonicalPayload sha256) ∧
        row.previousHash = ((rows.getLast?).map ExtensionRow.eventHash).getD previous ∧
        row.eventHash = row.expectedHash sha256 := by
  induction rows generalizing previous with
  | nil => simp [chainValid]
  | cons first rest ih =>
      have last : (((first :: rest).getLast?).map ExtensionRow.eventHash).getD previous =
          ((rest.getLast?).map ExtensionRow.eventHash).getD first.eventHash := by
        cases rest with
        | nil => rfl
        | cons second rest =>
            rw [List.getLast?_cons_cons, List.getLast?_eq_some_getLast (List.cons_ne_nil _ _)]
            rfl
      rw [List.cons_append, chainValid, chainValid, Bool.and_eq_true, Bool.and_eq_true, ih, last,
        and_assoc]

theorem rowsOf_append (store : AuthorityStore φ) (row : ExtensionRow φ) (runId : String) :
    AuthorityStore.rowsOf { store with events := store.events ++ [row] } runId =
      store.rowsOf runId ++ if row.runId = runId then [row] else [] := by
  unfold AuthorityStore.rowsOf
  rw [List.filter_append]
  by_cases same : row.runId = runId <;> simp [same]

/-- The number of the newest row is the number of rows. -/
theorem newest_sequence {rows : List (ExtensionRow φ)}
    (numbered : rows.map ExtensionRow.sequence = List.range' 1 rows.length) :
    ((rows.getLast?).map ExtensionRow.sequence).getD 0 = rows.length := by
  rcases List.eq_nil_or_concat rows with rfl | ⟨earlier, row, rfl⟩
  · rfl
  · rw [List.concat_eq_append] at numbered ⊢
    rw [List.map_append, List.length_append, List.length_singleton, List.range'_1_concat]
      at numbered
    have last := List.head_eq_of_cons_eq (List.append_inj' numbered rfl).2
    rw [List.getLast?_concat, Option.map_some, Option.getD_some, last, List.length_append,
      List.length_singleton]
    omega

variable {store : AuthorityStore φ} {row : ExtensionRow φ}

/-- A placed row continues the stream of its run. -/
theorem Placed.continues (placed : Placed platform store row)
    (numbered : ∀ runId, (store.rowsOf runId).map ExtensionRow.sequence =
      List.range' 1 (store.rowsOf runId).length) :
    row.sequence = (store.rowsOf row.runId).length + 1 ∧
      row.payloadSha256 = platform.sha256 (row.content.canonicalPayload platform.sha256) ∧
      row.previousHash =
        (((store.rowsOf row.runId).getLast?).map ExtensionRow.eventHash).getD streamGenesis ∧
      row.eventHash = row.expectedHash platform.sha256 := by
  obtain ⟨⟨runId, content, key, memoryWatermark, stamp, rfl⟩, _⟩ := placed
  refine ⟨?_, rfl, rfl, ?_⟩
  · change _ + 1 = _
    rw [newest_sequence (numbered runId)]
    rfl
  · exact (expectedHash_with platform.sha256 _ _).symm

theorem Sound.stream_append (sound : Sound platform store)
    (placed : Placed platform store row) (runId : String) :
    let rows := AuthorityStore.rowsOf { store with events := store.events ++ [row] } runId
    rows.map ExtensionRow.sequence = List.range' 1 rows.length ∧
      chainValid platform.sha256 streamGenesis rows = true := by
  have ⟨sequence, payload, previous, hash⟩ := placed.continues platform sound.numbered
  simp only
  rw [rowsOf_append]
  by_cases same : row.runId = runId
  · subst same
    rw [if_pos rfl]
    constructor
    · rw [List.map_append, sound.numbered, List.length_append, List.length_singleton,
        List.range'_1_concat, List.map_singleton, sequence, Nat.add_comm 1]
    · exact (chainValid_append _ _ _ _).mpr ⟨sound.chained _, payload, previous, hash⟩
  · rw [if_neg same, List.append_nil]
    exact ⟨sound.numbered runId, sound.chained runId⟩

/-- A new admission is apart from those the stream already has. -/
theorem apart_of_placed (placed : Placed platform store row) {stored : List Admission}
    (admitted : ∀ other ∈ stored, ∃ earlier ∈ store.events, other.runId = earlier.runId ∧
      other.eventSequence = earlier.sequence)
    {admission : Admission} (run : admission.runId = row.runId)
    (sequence : admission.eventSequence = row.sequence) :
    ∀ other ∈ stored, Apart other admission := by
  intro other member sameRun
  obtain ⟨earlier, inEvents, earlierRun, earlierSequence⟩ := admitted other member
  have distinct := (placed.2.2 earlier inEvents).2.2
    (earlierRun.symm.trans (sameRun.trans run))
  rw [earlierSequence, sequence]
  exact distinct.1

theorem LeaseOf.place {lease : Admission} (admits : LeaseOf row lease) :
    lease.runId = row.runId ∧ lease.eventSequence = row.sequence := by
  have fields := admits.2
  exact ⟨congrArg Admission.runId fields, congrArg Admission.eventSequence fields⟩

theorem EvaluatorOf.place {binding : EvaluatorRow} (admits : EvaluatorOf row binding) :
    binding.admission.runId = row.runId ∧ binding.admission.eventSequence = row.sequence := by
  have fields := admits.2
  exact ⟨congrArg Admission.runId fields, congrArg Admission.eventSequence fields⟩

theorem pairwise_concat {α : Type} {related : α → α → Prop} {items : List α} {last : α}
    (pairs : items.Pairwise related) (before : ∀ item ∈ items, related item last) :
    (items ++ [last]).Pairwise related := by
  apply List.pairwise_append.mpr
  refine ⟨pairs, List.pairwise_singleton _ _, ?_⟩
  intro item member other isLast
  rw [List.mem_singleton.mp isLast]
  exact before item member

/-- Something every old row has, and the new one. -/
theorem forall_mem_concat {α : Type} {holds : α → Prop} {items : List α} {last : α}
    (old : ∀ item ∈ items, holds item) (new : holds last) : ∀ item ∈ items ++ [last], holds item := by
  intro item member
  rcases List.mem_append.mp member with earlier | isLast
  · exact old item earlier
  · rw [List.mem_singleton.mp isLast]
    exact new

theorem exists_mem_concat {α : Type} {holds : α → Prop} {items : List α} {last : α}
    (found : ∃ item ∈ items, holds item) : ∃ item ∈ items ++ [last], holds item := by
  obtain ⟨item, member, property⟩ := found
  exact ⟨item, List.mem_append_left _ member, property⟩

/-! ### Preservation -/

/-- Binding a campaign leaves a bound run as it is. -/
theorem find_boundRuns {runs : List AuthorityRun} {runId bound : String} {run : AuthorityRun}
    {campaign binding : CampaignBinding}
    (found : (runs.find? fun run => run.id = runId) = some run)
    (isBound : run.campaign = some campaign) :
    ((boundRuns bound binding runs).find? fun run => run.id = runId) = some run := by
  induction runs with
  | nil => cases found
  | cons first rest ih =>
      unfold boundRuns at ih ⊢
      rw [List.map_cons]
      by_cases here : first.id = runId
      · rw [List.find?_cons_of_pos (by simpa using here)] at found
        have same := Option.some.inj found
        subst same
        have unchanged : ¬ (first.id = bound ∧ first.campaign = none) := by
          intro both
          rw [isBound] at both
          cases both.2
        rw [if_neg unchanged, List.find?_cons_of_pos (by simpa using here)]
      · rw [List.find?_cons_of_neg (by simpa using here)] at found
        have elsewhere : (if first.id = bound ∧ first.campaign = none
            then { first with campaign := some binding } else first).id ≠ runId := by
          split <;> exact here
        rw [List.find?_cons_of_neg (by simpa using elsewhere)]
        exact ih found

theorem findRun_eq_ok {runId : String} {run : AuthorityRun} :
    store.findRun runId = .ok run ↔ (store.runs.find? fun run => run.id = runId) = some run := by
  unfold AuthorityStore.findRun
  exact expect_eq_ok _ _ _

theorem findRun_bound {runId : String} {run : AuthorityRun}
    {campaign : CampaignBinding} (bound : String) (binding : CampaignBinding)
    (found : store.findRun runId = .ok run) (isBound : run.campaign = some campaign) :
    AuthorityStore.findRun { store with runs := boundRuns bound binding store.runs } runId =
      .ok run :=
  findRun_eq_ok.mpr (find_boundRuns (findRun_eq_ok.mp found) isBound)

theorem Sound.wrote {store later : AuthorityStore φ} (sound : Sound platform store)
    (wrote : Wrote platform store later) : Sound platform later := by
  cases wrote with
  | nothing => exact sound
  | bound runId binding =>
      refine ⟨sound.numbered, sound.chained, sound.lease_row, sound.row_lease, sound.leases_apart,
        sound.lease_tasks, ?_, sound.evaluator_row, sound.row_evaluator, sound.evaluators_apart,
        sound.evaluator_checked⟩
      intro lease member
      obtain ⟨members, signed, run, campaign, object, read, task, found, isBound, binds⟩ :=
        sound.lease_signed lease member
      exact ⟨members, signed, run, campaign, object, read, task,
        findRun_bound runId binding found isBound, isBound, binds⟩
  | @event row event placed content =>
      have stream := sound.stream_append platform placed
      refine ⟨fun runId => (stream runId).1, fun runId => (stream runId).2, ?_, ?_,
        sound.leases_apart, sound.lease_tasks, sound.lease_signed, ?_, ?_, sound.evaluators_apart,
        sound.evaluator_checked⟩
      · exact fun lease member => exists_mem_concat (sound.lease_row lease member)
      · apply forall_mem_concat sound.row_lease
        intro payload isLease
        rw [content] at isLease
        cases isLease
      · exact fun binding member => exists_mem_concat (sound.evaluator_row binding member)
      · apply forall_mem_concat sound.row_evaluator
        intro payload isEvaluator
        rw [content] at isEvaluator
        cases isEvaluator
  | @lease row lease placed admits signed unleased =>
      have stream := sound.stream_append platform placed
      have rowOfLease : ∃ item ∈ store.events ++ [row], LeaseOf item lease :=
        ⟨row, List.mem_append_right _ (List.mem_singleton_self row), admits⟩
      refine ⟨fun runId => (stream runId).1, fun runId => (stream runId).2, ?_, ?_, ?_,
        ?_, forall_mem_concat sound.lease_signed signed, ?_, ?_, sound.evaluators_apart,
        sound.evaluator_checked⟩
      · apply forall_mem_concat
        · exact fun old member => exists_mem_concat (sound.lease_row old member)
        · exact rowOfLease
      · apply forall_mem_concat
        · exact fun old member payload isLease =>
            exists_mem_concat (sound.row_lease old member payload isLease)
        · exact fun _ _ => ⟨lease, List.mem_append_right _ (List.mem_singleton_self lease), admits⟩
      · apply pairwise_concat sound.leases_apart
        apply apart_of_placed platform placed _ admits.place.1 admits.place.2
        intro other member
        obtain ⟨earlier, inEvents, earlierAdmits⟩ := sound.lease_row other member
        exact ⟨earlier, inEvents, earlierAdmits.place⟩
      · apply pairwise_concat sound.lease_tasks
        intro other member sameRun sameTask
        unfold AuthorityStore.leaseOf at unleased
        exact List.find?_eq_none.mp unleased other member (decide_eq_true ⟨sameRun, sameTask⟩)
      · exact fun binding member => exists_mem_concat (sound.evaluator_row binding member)
      · apply forall_mem_concat sound.row_evaluator
        intro payload isEvaluator
        rw [admits.1] at isEvaluator
        cases isEvaluator
  | @evaluator row binding placed admits checked =>
      have stream := sound.stream_append platform placed
      have rowOfBinding : ∃ item ∈ store.events ++ [row], EvaluatorOf item binding :=
        ⟨row, List.mem_append_right _ (List.mem_singleton_self row), admits⟩
      refine ⟨fun runId => (stream runId).1, fun runId => (stream runId).2, ?_, ?_,
        sound.leases_apart, sound.lease_tasks, sound.lease_signed, ?_, ?_, ?_,
        forall_mem_concat sound.evaluator_checked checked⟩
      · exact fun lease member => exists_mem_concat (sound.lease_row lease member)
      · apply forall_mem_concat sound.row_lease
        intro payload isLease
        rw [admits.1] at isLease
        cases isLease
      · apply forall_mem_concat
        · exact fun old member => exists_mem_concat (sound.evaluator_row old member)
        · exact rowOfBinding
      · apply forall_mem_concat
        · exact fun old member payload isEvaluator =>
            exists_mem_concat (sound.row_evaluator old member payload isEvaluator)
        · exact fun _ _ =>
            ⟨binding, List.mem_append_right _ (List.mem_singleton_self binding), admits⟩
      · change ((store.evaluators ++ [binding]).map EvaluatorRow.admission).Pairwise Apart
        rw [List.map_append, List.map_singleton]
        apply pairwise_concat sound.evaluators_apart
        apply apart_of_placed platform placed _ admits.place.1 admits.place.2
        intro other member
        obtain ⟨earlierBinding, inTable, rfl⟩ := List.mem_map.mp member
        obtain ⟨earlier, inEvents, earlierAdmits⟩ :=
          sound.evaluator_row earlierBinding inTable
        exact ⟨earlier, inEvents, earlierAdmits.place⟩

/-! ### Uniqueness -/

/-- Records whose admissions are apart have one admission of each number. -/
theorem apart_unique {ρ : Type} {admission : ρ → Admission} {stored : List ρ}
    (pairs : (stored.map admission).Pairwise Apart) {left right : ρ} (inLeft : left ∈ stored)
    (inRight : right ∈ stored) (run : (admission left).runId = (admission right).runId)
    (sequence : (admission left).eventSequence = (admission right).eventSequence) :
    left = right := by
  induction stored with
  | nil => cases inLeft
  | cons head rest ih =>
      have ⟨headApart, tail⟩ := List.pairwise_cons.mp pairs
      rcases List.mem_cons.mp inLeft with rfl | leftLater
      · rcases List.mem_cons.mp inRight with isHead | rightLater
        · exact isHead.symm
        · exact absurd sequence (headApart _ (List.mem_map_of_mem rightLater) run)
      · rcases List.mem_cons.mp inRight with rfl | rightLater
        · exact absurd sequence.symm (headApart _ (List.mem_map_of_mem leftLater) run.symm)
        · exact ih tail leftLater rightLater

theorem Sound.lease_unique (sound : Sound platform store)
    {left right : Admission} (inLeft : left ∈ store.leases) (inRight : right ∈ store.leases)
    (run : left.runId = right.runId) (sequence : left.eventSequence = right.eventSequence) :
    left = right := by
  have pairs : (store.leases.map id).Pairwise Apart := by
    rw [List.map_id]
    exact sound.leases_apart
  exact apart_unique pairs inLeft inRight run sequence

theorem keyed_spec {runId key : String} (found : store.keyed runId key = some row) :
    row ∈ store.events ∧ row.runId = runId ∧ row.idempotencyKey = key := by
  unfold AuthorityStore.keyed at found
  have holds := List.find?_some found
  have ⟨run, same⟩ := of_decide_eq_true holds
  exact ⟨List.mem_of_find?_eq_some found, run, same⟩

theorem leaseOf_spec {runId taskId : String} {lease : Admission}
    (found : store.leaseOf runId taskId = some lease) :
    lease ∈ store.leases ∧ lease.runId = runId := by
  unfold AuthorityStore.leaseOf at found
  have holds := List.find?_some found
  have ⟨run, _⟩ := of_decide_eq_true holds
  exact ⟨List.mem_of_find?_eq_some found, run⟩

theorem evaluatorOf_spec {runId bindingId : String}
    {binding : EvaluatorRow} (found : store.evaluatorOf runId bindingId = some binding) :
    binding ∈ store.evaluators ∧ binding.admission.runId = runId ∧
      binding.bindingId = bindingId := by
  unfold AuthorityStore.evaluatorOf at found
  have holds := List.find?_some found
  have ⟨run, same⟩ := of_decide_eq_true holds
  exact ⟨List.mem_of_find?_eq_some found, run, same⟩

theorem content_of_leaseType {content : RowContent φ}
    (eventType : content.eventType = "VERIFIED_TASK_LEASE_ADMISSION") :
    content = .taskLease (content.canonicalPayload platform.sha256) := by
  cases content with
  | event event => cases event <;> simp [RowContent.eventType, ExtensionEvent.eventType] at eventType
  | taskLease payload => rfl
  | evaluator payload => simp [RowContent.eventType] at eventType

theorem content_of_evaluatorType {content : RowContent φ}
    (eventType : content.eventType = "VERIFIED_EVALUATOR_ADMISSION") :
    content = .evaluator (content.canonicalPayload platform.sha256) := by
  cases content with
  | event event => cases event <;> simp [RowContent.eventType, ExtensionEvent.eventType] at eventType
  | taskLease payload => simp [RowContent.eventType] at eventType
  | evaluator payload => rfl

/-! ### Admissions -/

/-- What an admission did when it returned: it replayed a record of its table, or added
its row and its record. -/
inductive Admitted {ρ : Type} (store : AuthorityStore φ) (runId key : String) (content : RowContent φ)
    (belongs : ExtensionRow φ → ρ → Prop) (table : List ρ)
    (extended : AuthorityStore φ → ρ → AuthorityStore φ) : Outcome ρ → AuthorityStore φ → Prop
  | replayed {row : ExtensionRow φ} {record : ρ} (found : store.keyed runId key = some row)
      (stored : record ∈ table) (content_eq : row.content = content) (admits : belongs row record) :
      Admitted store runId key content belongs table extended ⟨record, true⟩ store
  | added {row : ExtensionRow φ} {record : ρ} (unused : store.keyed runId key = none)
      (placed : Placed platform store row) (admits : belongs row record) :
      Admitted store runId key content belongs table extended ⟨record, false⟩
        (extended { store with events := store.events ++ [row] } record)

theorem storeSignedTaskLease_eq_ok {store later : AuthorityStore φ} (sound : Sound platform store)
    {runId key : String} {payload : Bytes} {stamp : Stamp} {outcome : Outcome Admission}
    (ran : storeSignedTaskLease platform runId payload key stamp store = (.ok outcome, later)) :
    Admitted platform store runId key (.taskLease payload) LeaseOf store.leases
      (fun state lease => { state with leases := state.leases ++ [lease] }) outcome later ∧
      (outcome.idempotentReplay = false → LeaseSigned platform store outcome.record ∧
        store.leaseOf outcome.record.runId outcome.record.taskId = none) := by
  unfold storeSignedTaskLease at ran
  obtain ⟨members, object, ran⟩ := (check_bind_eq_ok _ _ _ _ _).mp ran
  obtain ⟨lease, read, ran⟩ := (check_bind_eq_ok _ _ _ _ _).mp ran
  have inner := (transaction_eq_ok _ _ _ _).mp ran
  rw [read_bind] at inner
  obtain ⟨run, found, inner⟩ := (check_bind_eq_ok _ _ _ _ _).mp inner
  obtain ⟨campaign, isBound, inner⟩ := (check_bind_eq_ok _ _ _ _ _).mp inner
  obtain ⟨_, binds, inner⟩ := (check_bind_eq_ok _ _ _ _ _).mp inner
  obtain ⟨event, middle, appended, inner⟩ := (Effect.bind_eq_ok _ _ _ _ _).mp inner
  unfold admitLease at inner
  rw [read_bind] at inner
  cases appendExtensionBytes_eq_ok platform appended with
  | @replayed row used samePayload sameType _ =>
      have ⟨inEvents, _, _⟩ := keyed_spec used
      have content : row.content = .taskLease payload :=
        (content_of_leaseType platform sameType).trans (congrArg _ samePayload)
      obtain ⟨own, inLeases, owns⟩ := sound.row_lease row inEvents payload content
      cases stored : store.leaseOf row.runId lease.core.taskId with
      | some existing =>
          simp only [stored] at inner
          obtain ⟨same, inner⟩ := (Effect.raiseIf_bind_eq_ok _ _ _ _ _ _).mp inner
          simp only [Effect.pure_apply, Prod.mk.injEq, Except.ok.injEq] at inner
          obtain ⟨rfl, rfl⟩ := inner
          have ⟨inTable, existingRun⟩ := leaseOf_spec stored
          have isOwn : existing = own :=
            sound.lease_unique platform inTable inLeases
              (existingRun.trans owns.place.1.symm) ((not_not.mp same).trans owns.place.2.symm)
          rw [isOwn]
          exact ⟨.replayed used inLeases content owns, nofun⟩
      | none =>
          simp only [stored] at inner
          obtain ⟨fresh, _⟩ := (Effect.raiseIf_bind_eq_ok _ _ _ _ _ _).mp inner
          exact absurd owns.place.2 (not_not.mp fresh own inLeases owns.place.1).1
  | @added row unused placed sameRun content _ _ =>
      cases stored : store.leaseOf row.runId lease.core.taskId with
      | some existing =>
          -- The number of a new row is in no stored lease.
          have stored' : AuthorityStore.leaseOf
              { store with events := store.events ++ [row] } row.runId lease.core.taskId =
                some existing := stored
          simp only [stored'] at inner
          obtain ⟨same, _⟩ := (Effect.raiseIf_bind_eq_ok _ _ _ _ _ _).mp inner
          have ⟨inTable, existingRun⟩ := leaseOf_spec stored
          obtain ⟨earlier, inEvents, owns⟩ := sound.lease_row existing inTable
          have distinct := (placed.2.2 earlier inEvents).2.2
            (owns.place.1.symm.trans existingRun)
          exact absurd (owns.place.2.symm.trans (not_not.mp same)) distinct.1
      | none =>
          have stored' : AuthorityStore.leaseOf
              { store with events := store.events ++ [row] } row.runId lease.core.taskId =
                none := stored
          simp only [stored'] at inner
          obtain ⟨_, inner⟩ := (Effect.raiseIf_bind_eq_ok _ _ _ _ _ _).mp inner
          simp only [Effect.write_bind, Effect.pure_apply, Prod.mk.injEq, Except.ok.injEq]
            at inner
          obtain ⟨rfl, rfl⟩ := inner
          refine ⟨.added unused placed ⟨content, rfl⟩, fun _ => ⟨?_, stored⟩⟩
          rw [← sameRun] at found
          exact ⟨members, lease, run, campaign, object, (expect_eq_ok _ _ _).mp read, rfl,
            found, (expect_eq_ok _ _ _).mp isBound, binds⟩

theorem bindSealedEvaluation_eq_ok {store later : AuthorityStore φ} (sound : Sound platform store)
    {runId : String} {evaluation : SealedEvaluation} {stamp : Stamp} {outcome : Outcome EvaluatorRow}
    (ran : bindSealedEvaluation platform runId evaluation stamp store = (.ok outcome, later)) :
    Admitted platform store runId evaluation.idempotencyKey (.evaluator evaluation.payload)
        EvaluatorOf store.evaluators
        (fun state binding => { state with evaluators := state.evaluators ++ [binding] })
        outcome later ∧
      evaluation.Named ∧ checkEvaluation platform evaluation.payload evaluation.taskId = .ok () ∧
      outcome.record.bindingId = evaluation.bindingId ∧
      (outcome.idempotentReplay = false →
        outcome.record.admission.canonicalSignedPayload = evaluation.payload ∧
          outcome.record.admission.taskId = evaluation.taskId) := by
  unfold bindSealedEvaluation at ran
  obtain ⟨named, ran⟩ := (Effect.raiseIf_bind_eq_ok _ _ _ _ _ _).mp ran
  obtain ⟨_, checked, ran⟩ := (check_bind_eq_ok _ _ _ _ _).mp ran
  have inner := (transaction_eq_ok _ _ _ _).mp ran
  rw [read_bind] at inner
  obtain ⟨run, _, inner⟩ := (check_bind_eq_ok _ _ _ _ _).mp inner
  obtain ⟨campaign, _, inner⟩ := (check_bind_eq_ok _ _ _ _ _).mp inner
  obtain ⟨_, _, inner⟩ := (check_bind_eq_ok _ _ _ _ _).mp inner
  obtain ⟨event, middle, appended, inner⟩ := (Effect.bind_eq_ok _ _ _ _ _).mp inner
  unfold admitEvaluation at inner
  rw [read_bind] at inner
  have publicly := not_not.mp named
  cases appendExtensionBytes_eq_ok platform appended with
  | @replayed row found samePayload sameType _ =>
      have ⟨inEvents, _, _⟩ := keyed_spec found
      have content : row.content = .evaluator evaluation.payload :=
        (content_of_evaluatorType platform sameType).trans (congrArg _ samePayload)
      obtain ⟨own, inTable, owns⟩ := sound.row_evaluator row inEvents evaluation.payload content
      have ownListed := List.mem_map_of_mem (f := EvaluatorRow.admission) inTable
      cases stored : store.evaluatorOf row.runId evaluation.bindingId with
      | some existing =>
          simp only [stored] at inner
          obtain ⟨same, inner⟩ := (Effect.raiseIf_bind_eq_ok _ _ _ _ _ _).mp inner
          simp only [Effect.pure_apply, Prod.mk.injEq, Except.ok.injEq] at inner
          obtain ⟨rfl, rfl⟩ := inner
          have ⟨existingIn, existingRun, existingId⟩ := evaluatorOf_spec stored
          have isOwn : existing = own :=
            apart_unique sound.evaluators_apart existingIn inTable
              (existingRun.trans owns.place.1.symm) ((not_not.mp same).trans owns.place.2.symm)
          subst isOwn
          exact ⟨.replayed found existingIn content owns, publicly, checked, existingId, nofun⟩
      | none =>
          simp only [stored] at inner
          obtain ⟨fresh, _⟩ := (Effect.raiseIf_bind_eq_ok _ _ _ _ _ _).mp inner
          exact absurd owns.place.2
            (not_not.mp fresh own.admission ownListed owns.place.1).1
  | @added row unused placed sameRun content _ _ =>
      cases stored : store.evaluatorOf row.runId evaluation.bindingId with
      | some existing =>
          have stored' : AuthorityStore.evaluatorOf
              { store with events := store.events ++ [row] } row.runId evaluation.bindingId =
                some existing := stored
          simp only [stored'] at inner
          obtain ⟨same, _⟩ := (Effect.raiseIf_bind_eq_ok _ _ _ _ _ _).mp inner
          have ⟨existingIn, existingRun, _⟩ := evaluatorOf_spec stored
          obtain ⟨earlier, inEvents, owns⟩ := sound.evaluator_row existing existingIn
          have distinct := (placed.2.2 earlier inEvents).2.2
            (owns.place.1.symm.trans existingRun)
          exact absurd (owns.place.2.symm.trans (not_not.mp same)) distinct.1
      | none =>
          have stored' : AuthorityStore.evaluatorOf
              { store with events := store.events ++ [row] } row.runId evaluation.bindingId =
                none := stored
          simp only [stored'] at inner
          obtain ⟨_, inner⟩ := (Effect.raiseIf_bind_eq_ok _ _ _ _ _ _).mp inner
          simp only [Effect.write_bind, Effect.pure_apply, Prod.mk.injEq, Except.ok.injEq]
            at inner
          obtain ⟨rfl, rfl⟩ := inner
          exact ⟨.added unused placed ⟨content, rfl⟩, publicly, checked, rfl, fun _ => ⟨rfl, rfl⟩⟩

theorem typedExtensionPayload_eq_ok {eventType : String} {event : Option (ExtensionEvent φ)}
    {payload : ExtensionEvent φ}
    (typed : typedExtensionPayload platform.sha256 eventType event = .ok payload) :
    event = some payload ∧ payload.eventType = eventType ∧ payload.Valid platform.sha256 := by
  unfold typedExtensionPayload at typed
  obtain ⟨_, typed⟩ := (raiseIf_bind_eq_ok _ _ _ _).mp typed
  obtain ⟨found, present, typed⟩ := (bind_eq_ok _ _ _).mp typed
  obtain ⟨matching, typed⟩ := (raiseIf_bind_eq_ok _ _ _ _).mp typed
  obtain ⟨sameType, valid⟩ := not_or.mp matching
  have same : found = payload := by
    cases found with
    | systemRiskAssessment assessment =>
        obtain ⟨_, typed⟩ := (raiseIf_bind_eq_ok _ _ _ _).mp typed
        exact Except.ok.inj typed
    | _ => exact Except.ok.inj typed
  subst same
  exact ⟨(expect_eq_ok _ _ _).mp present, not_not.mp sameType, not_not.mp valid⟩

theorem appendExtensionEvent_eq_ok {store later : AuthorityStore φ} {runId eventType key : String}
    {event : Option (ExtensionEvent φ)} {memoryWatermark : Int} {stamp : Stamp}
    {outcome : Outcome (ExtensionRow φ)}
    (ran : appendExtensionEvent platform runId eventType event key memoryWatermark stamp store =
      (.ok outcome, later)) :
    ∃ payload, typedExtensionPayload platform.sha256 eventType event = .ok payload ∧
      Appended platform store runId (.event payload) key memoryWatermark outcome later := by
  unfold appendExtensionEvent at ran
  obtain ⟨_, ran⟩ := (Effect.raiseIf_bind_eq_ok _ _ _ _ _ _).mp ran
  obtain ⟨payload, typed, ran⟩ := (check_bind_eq_ok _ _ _ _ _).mp ran
  have inner := (transaction_eq_ok _ _ _ _).mp ran
  exact ⟨payload, typed, appendExtensionBytes_eq_ok platform inner⟩

theorem bindCampaign_eq_ok {store later : AuthorityStore φ} {runId : String}
    {binding : CampaignBinding} {outcome : Outcome CampaignBinding}
    (ran : bindCampaign runId binding store = (.ok outcome, later)) :
    later = store ∨ later = { store with runs := boundRuns runId binding store.runs } := by
  unfold bindCampaign at ran
  have inner := (transaction_eq_ok _ _ _ _).mp ran
  rw [read_bind] at inner
  obtain ⟨run, _, inner⟩ := (check_bind_eq_ok _ _ _ _ _).mp inner
  cases bound : run.campaign with
  | some stored =>
      rw [bound] at inner
      obtain ⟨_, inner⟩ := (Effect.raiseIf_bind_eq_ok _ _ _ _ _ _).mp inner
      simp only [Effect.pure_apply, Prod.mk.injEq] at inner
      exact .inl inner.2.symm
  | none =>
      rw [bound] at inner
      simp only [Effect.write_bind, Effect.pure_apply, Prod.mk.injEq] at inner
      exact .inr inner.2.symm

/-- Every call writes one of five things. -/
theorem perform_wrote (sound : Sound platform store)
    (call : AuthorityCall φ) : Wrote platform store (perform platform call store).2 := by
  rcases outcome : perform platform call store with ⟨error | record, later⟩
  · have kept : later = store := perform_atomic platform call store error later outcome
    rw [kept]
    exact .nothing
  · cases call with
    | bindCampaign runId binding =>
        obtain ⟨item, ran, _⟩ := returning_eq_ok outcome
        rcases bindCampaign_eq_ok ran with rfl | rfl
        · exact .nothing
        · exact .bound runId binding
    | appendExtensionEvent runId eventType event key memoryWatermark stamp =>
        obtain ⟨item, ran, _⟩ := returning_eq_ok outcome
        obtain ⟨payload, typed, appended⟩ := appendExtensionEvent_eq_ok platform ran
        have ⟨_, _, valid⟩ := typedExtensionPayload_eq_ok platform typed
        cases appended with
        | replayed => exact .nothing
        | added _ placed sameRun content _ admitted =>
            refine .event placed content valid ?_
            obtain ⟨run, campaign, found, isBound, allowed⟩ := admitted
            exact ⟨run, campaign, memoryWatermark, sameRun ▸ found, isBound, allowed⟩
    | storeSignedTaskLease runId payload key stamp =>
        obtain ⟨item, ran, _⟩ := returning_eq_ok outcome
        obtain ⟨admitted, signed⟩ := storeSignedTaskLease_eq_ok platform sound ran
        cases admitted with
        | replayed => exact .nothing
        | added _ placed admits => exact .lease placed admits (signed rfl).1 (signed rfl).2
    | bindSealedEvaluation runId evaluation stamp =>
        obtain ⟨item, ran, _⟩ := returning_eq_ok outcome
        obtain ⟨admitted, _, checked, _, fields⟩ := bindSealedEvaluation_eq_ok platform sound ran
        cases admitted with
        | replayed => exact .nothing
        | @added row record _ placed admits =>
            have ⟨payload, task⟩ := fields rfl
            refine .evaluator placed admits ?_
            rw [payload, task]
            exact checked

/-! ### Runs of calls -/

theorem sound_fresh (runs : List AuthorityRun) : Sound platform (freshStore runs) where
  numbered _ := rfl
  chained _ := rfl
  lease_row _ member := absurd member List.not_mem_nil
  row_lease _ member := absurd member List.not_mem_nil
  leases_apart := List.Pairwise.nil
  lease_tasks := List.Pairwise.nil
  lease_signed _ member := absurd member List.not_mem_nil
  evaluator_row _ member := absurd member List.not_mem_nil
  row_evaluator _ member := absurd member List.not_mem_nil
  evaluators_apart := List.Pairwise.nil
  evaluator_checked _ member := absurd member List.not_mem_nil

theorem afterCalls_append (calls : List (AuthorityCall φ)) (call : AuthorityCall φ)
    (store : AuthorityStore φ) :
    afterCalls platform (calls ++ [call]) store =
      (perform platform call (afterCalls platform calls store)).2 := by
  simp [afterCalls]

/-- After any calls the stream and its tables are sound. -/
theorem afterCalls_sound (calls : List (AuthorityCall φ)) (runs : List AuthorityRun) :
    Sound platform (afterCalls platform calls (freshStore runs)) := by
  induction calls using List.reverseRecOn with
  | nil => exact sound_fresh platform runs
  | append_singleton earlier call ih =>
      rw [afterCalls_append]
      exact ih.wrote platform (perform_wrote platform ih call)

end Ledger

end EgoAgent.Bridge.Authority
