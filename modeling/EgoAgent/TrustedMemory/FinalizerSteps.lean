import EgoAgent.Gateway.WireFormat
import EgoAgent.Lib.Related
import EgoAgent.TrustedMemory.FactRecords
import EgoAgent.TrustedMemory.Projection

/-!
What one finalization does to the store, and what a run keeps.

The store only grows, so what a key was bound to stays bound.
-/

namespace EgoAgent.TrustedMemory

open EgoAgent.Api

/-! ### Growth -/

/-- Rows are appended only. -/
structure Memory.Grows (memory later : Memory) : Prop where
  history : ∃ rows, later.tables.history = memory.tables.history ++ rows
  closures : ∃ rows, later.decisionClosures = memory.decisionClosures ++ rows

theorem Memory.Grows.refl (memory : Memory) : memory.Grows memory :=
  ⟨⟨[], (List.append_nil _).symm⟩, ⟨[], (List.append_nil _).symm⟩⟩

theorem Memory.Grows.trans {first second third : Memory} (before : first.Grows second)
    (after : second.Grows third) : first.Grows third := by
  obtain ⟨⟨rows, history⟩, ⟨closures, appended⟩⟩ := before
  obtain ⟨⟨later, laterHistory⟩, ⟨more, laterAppended⟩⟩ := after
  refine ⟨⟨rows ++ later, ?_⟩, ⟨closures ++ more, ?_⟩⟩
  · rw [laterHistory, history, List.append_assoc]
  · rw [laterAppended, appended, List.append_assoc]

theorem find?_append_of_found {α : Type} {holds : α → Bool} {rows more : List α} {row : α}
    (found : rows.find? holds = some row) : (rows ++ more).find? holds = some row := by
  rw [List.find?_append, found]
  rfl

theorem Memory.Grows.find {memory later : Memory} (grows : memory.Grows later) {key : Key}
    {idempotencyKey : String} {row : HistoryRow}
    (found : memory.tables.find key idempotencyKey = some row) :
    later.tables.find key idempotencyKey = some row := by
  obtain ⟨⟨rows, history⟩, _⟩ := grows
  unfold Tables.find at found ⊢
  rw [history]
  exact find?_append_of_found found

theorem Memory.Grows.closureByKey {memory later : Memory} (grows : memory.Grows later)
    {tenantId projectId idempotencyKey : String} {row : ClosureRow}
    (found : memory.closureByKey tenantId projectId idempotencyKey = some row) :
    later.closureByKey tenantId projectId idempotencyKey = some row := by
  obtain ⟨_, ⟨rows, appended⟩⟩ := grows
  unfold Memory.closureByKey at found ⊢
  rw [appended]
  exact find?_append_of_found found

section Steps

variable (sha256 : Bytes → Digest)

/-! ### Appending a closure -/

/-- The row that answers a call of `append_decision_closure`. -/
structure Filed (call : ClosureCall) (memory : Memory) (row : ClosureRow) (later : Memory) :
    Prop where
  admissible : call.admissible sha256 = .ok ()
  tenant : row.tenantId = call.tenantId
  project : row.projectId = call.projectId
  digest : row.closureDigest = call.closureDigest
  bytes : row.closureBytes = call.bytes
  member : row ∈ later.decisionClosures
  tables : later.tables = memory.tables
  cases : (memory.closureByKey call.tenantId call.projectId call.idempotencyKey = some row ∧
      later = memory) ∨
    (memory.closureByKey call.tenantId call.projectId call.idempotencyKey = none ∧
      memory.closureByDigest call.tenantId call.projectId call.closureDigest = some row ∧
      later = memory) ∨
    (memory.closureByKey call.tenantId call.projectId call.idempotencyKey = none ∧
      memory.closureByDigest call.tenantId call.projectId call.closureDigest = none ∧
      row = call.row sha256 ∧
      later = { memory with decisionClosures := memory.decisionClosures ++ [row] })

variable {row : ClosureRow} {memory : Memory}

theorem closureByKey_spec {tenantId projectId idempotencyKey : String}
    (found : memory.closureByKey tenantId projectId idempotencyKey = some row) :
    row ∈ memory.decisionClosures ∧ row.inScope tenantId projectId ∧
      row.idempotencyKey = idempotencyKey := by
  have holds := List.find?_some found
  exact ⟨List.mem_of_find?_eq_some found, of_decide_eq_true holds⟩

theorem closureByDigest_spec {tenantId projectId closureDigest : String}
    (found : memory.closureByDigest tenantId projectId closureDigest = some row) :
    row ∈ memory.decisionClosures ∧ row.inScope tenantId projectId ∧
      row.closureDigest = closureDigest := by
  have holds := List.find?_some found
  exact ⟨List.mem_of_find?_eq_some found, of_decide_eq_true holds⟩

variable {call : ClosureCall}

theorem appendDecisionClosure_eq_ok {memory later : Memory}
    (ran : appendDecisionClosure sha256 call memory = (.ok row, later)) :
    Filed sha256 call memory row later := by
  unfold appendDecisionClosure at ran
  obtain ⟨_, admissible, ran⟩ := (Effect.check_bind_eq_ok _ _ _ _ _).mp ran
  have inner := (Effect.transaction_eq_ok _ _ _ _).mp ran
  rw [Effect.read_bind] at inner
  rcases keyed : memory.closureByKey call.tenantId call.projectId call.idempotencyKey with
    _ | existing
  · simp only [keyed] at inner
    rcases digested : memory.closureByDigest call.tenantId call.projectId call.closureDigest with
      _ | existing
    · simp only [digested] at inner
      rw [Effect.write_bind] at inner
      simp only [Effect.pure_apply, Prod.mk.injEq, Except.ok.injEq] at inner
      obtain ⟨rfl, rfl⟩ := inner
      exact ⟨admissible, rfl, rfl, rfl, rfl, List.mem_append_right _ List.mem_cons_self, rfl,
        .inr (.inr ⟨keyed, digested, rfl, rfl⟩)⟩
    · simp only [digested] at inner
      by_cases different : existing.closureBytes ≠ call.bytes
      · rw [if_pos different] at inner
        cases inner
      · rw [if_neg different] at inner
        simp only [Effect.pure_apply, Prod.mk.injEq, Except.ok.injEq] at inner
        obtain ⟨rfl, rfl⟩ := inner
        have ⟨member, scope, digest⟩ := closureByDigest_spec digested
        exact ⟨admissible, scope.1, scope.2, digest, not_not.mp different, member, rfl,
          .inr (.inl ⟨keyed, digested, rfl⟩)⟩
  · simp only [keyed] at inner
    by_cases different : existing.closureDigest ≠ call.closureDigest ∨
        existing.closureBytes ≠ call.bytes
    · rw [if_pos different] at inner
      cases inner
    · rw [if_neg different] at inner
      simp only [Effect.pure_apply, Prod.mk.injEq, Except.ok.injEq] at inner
      obtain ⟨rfl, rfl⟩ := inner
      have ⟨sameDigest, sameBytes⟩ := not_or.mp different
      have ⟨member, scope, _⟩ := closureByKey_spec keyed
      exact ⟨admissible, scope.1, scope.2, not_not.mp sameDigest, not_not.mp sameBytes, member,
        rfl, .inl ⟨keyed, rfl⟩⟩

theorem appendDecisionClosure_atomic (call : ClosureCall) (memory : Memory) :
    Effect.Atomic (appendDecisionClosure sha256 call) memory := by
  apply Effect.keeps_check_bind
  intro _ _
  exact Effect.atomic_transaction _ _

/-- A closure that its key holds is answered again, and nothing is written. -/
theorem appendDecisionClosure_again (admissible : call.admissible sha256 = .ok ())
    (keyed : memory.closureByKey call.tenantId call.projectId call.idempotencyKey = some row)
    (digest : row.closureDigest = call.closureDigest) (bytes : row.closureBytes = call.bytes) :
    appendDecisionClosure sha256 call memory = (.ok row, memory) := by
  unfold appendDecisionClosure
  rw [admissible, Effect.check_ok_bind]
  apply (Effect.transaction_eq_ok _ _ _ _).mpr
  rw [Effect.read_bind]
  simp only [keyed]
  rw [if_neg (not_or.mpr ⟨not_not.mpr digest, not_not.mpr bytes⟩)]
  rfl

theorem Filed.grows {memory later : Memory}
    (filed : Filed sha256 call memory row later) : memory.Grows later := by
  rcases filed.cases with ⟨_, same⟩ | ⟨_, _, same⟩ | ⟨_, _, _, appended⟩
  · rw [same]
    exact .refl memory
  · rw [same]
    exact .refl memory
  · rw [appended]
    exact ⟨⟨[], (List.append_nil _).symm⟩, ⟨_, rfl⟩⟩

/-! ### Appending the facts -/

theorem onTables_eq_ok {α : Type} {effect : Effect Tables MemoryError α} {memory later : Memory}
    {item : α} (ran : onTables effect memory = (.ok item, later)) :
    ∃ tables, effect memory.tables = (.ok item, tables) ∧
      later = { memory with tables } := by
  unfold onTables Effect.within at ran
  rcases outcome : effect memory.tables with ⟨verdict, tables⟩
  rw [outcome] at ran
  obtain ⟨verdictEq, laterEq⟩ := Prod.mk.inj ran
  exact ⟨tables, congrArg (·, tables) verdictEq, laterEq.symm⟩

theorem append_admissible {call : Append} {tables later : Tables} {row : HistoryRow}
    (ran : appendTrustedMemoryRecord sha256 call tables = (.ok row, later)) :
    call.admissible = .ok () := by
  unfold appendTrustedMemoryRecord at ran
  obtain ⟨_, admissible, _⟩ := (Effect.check_bind_eq_ok _ _ _ _ _).mp ran
  exact admissible

theorem Inserted.find {call : Append} {tables later : Tables} {row : HistoryRow}
    (inserted : Inserted sha256 call tables row later)
    (missing : tables.find call.key call.idempotencyKey = none) :
    later.find call.key call.idempotencyKey = some row := by
  have keyed : row.key = call.key ∧ row.idempotencyKey = call.idempotencyKey := by
    rw [inserted.recorded]
    exact ⟨rfl, rfl⟩
  unfold Tables.find at missing ⊢
  rw [inserted.history, List.find?_append, missing, Option.none_or, List.find?_singleton,
    if_pos (decide_eq_true keyed)]

theorem append_grows (call : Append) (memory : Memory) :
    memory.Grows { memory with tables := (appendTrustedMemoryRecord sha256 call memory.tables).2 } := by
  rcases append_cases sha256 call memory.tables with same | ⟨row, inserted⟩
  · rw [same]
    exact .refl memory
  · exact ⟨⟨[row], inserted.history⟩, ⟨[], (List.append_nil _).symm⟩⟩

/-- The key of a lineage holds the record of a fact. -/
structure Holds (idempotencyKey : String) (memory : Memory)
    (entry : FactRevisionInput × BuiltFact) (event : HistoryRow) : Prop where
  admissible :
    (factCall idempotencyKey entry.1.expectedCurrentEventHash entry.2).admissible = .ok ()
  found : memory.tables.find entry.2.key (factKey idempotencyKey entry.2) = some event
  bytes : event.record.bytes = entry.2.record.bytes

variable {idempotencyKey : String}

theorem Holds.later {memory later : Memory}
    {entry : FactRevisionInput × BuiltFact} {event : HistoryRow}
    (holds : Holds idempotencyKey memory entry event) (grows : memory.Grows later) :
    Holds idempotencyKey later entry event :=
  ⟨holds.admissible, grows.find holds.found, holds.bytes⟩

variable {events : List HistoryRow}

theorem appendFacts_cons_eq_ok {entry : FactRevisionInput × BuiltFact}
    {rest : List (FactRevisionInput × BuiltFact)} {memory later : Memory}
    (ran : appendFacts sha256 idempotencyKey (entry :: rest) memory = (.ok events, later)) :
    ∃ event more tables, appendTrustedMemoryRecord sha256
        (factCall idempotencyKey entry.1.expectedCurrentEventHash entry.2) memory.tables =
          (.ok event, tables) ∧
      appendFacts sha256 idempotencyKey rest { memory with tables } = (.ok more, later) ∧
      events = event :: more := by
  unfold appendFacts at ran
  obtain ⟨event, middle, appended, ran⟩ := (Effect.bind_eq_ok _ _ _ _ _).mp ran
  obtain ⟨more, final, continued, ran⟩ := (Effect.bind_eq_ok _ _ _ _ _).mp ran
  obtain ⟨tables, outcome, middleEq⟩ := onTables_eq_ok appended
  simp only [Effect.pure_apply, Prod.mk.injEq, Except.ok.injEq] at ran
  rw [middleEq] at continued
  rw [ran.2] at continued
  exact ⟨event, more, tables, outcome, continued, ran.1.symm⟩

variable (entries : List (FactRevisionInput × BuiltFact))

/-- After the loop every lineage holds its fact. -/
theorem appendFacts_holds {memory later : Memory}
    (ran : appendFacts sha256 idempotencyKey entries memory = (.ok events, later)) :
    List.Forall₂ (Holds idempotencyKey later) entries events ∧ memory.Grows later ∧
      later.decisionClosures = memory.decisionClosures := by
  induction entries generalizing memory events with
  | nil =>
      cases ran
      exact ⟨.nil, .refl _, rfl⟩
  | cons entry rest ih =>
      obtain ⟨event, more, tables, appended, continued, rfl⟩ :=
        appendFacts_cons_eq_ok sha256 ran
      have ⟨held, grows, closures⟩ := ih continued
      have first := append_grows sha256
        (factCall idempotencyKey entry.1.expectedCurrentEventHash entry.2) memory
      rw [appended] at first
      have holds : Holds idempotencyKey { memory with tables } entry event := by
        refine ⟨append_admissible sha256 appended, ?_, ?_⟩
        · rcases append_eq_ok sha256 appended with ⟨found, _, same⟩ | ⟨missing, inserted⟩
          · rw [same]
            exact found
          · exact inserted.find sha256 missing
        · rcases append_eq_ok sha256 appended with ⟨_, bytes, _⟩ | ⟨_, inserted⟩
          · exact bytes
          · rw [inserted.recorded]
            rfl
      exact ⟨.cons (holds.later grows) held, first.trans grows, closures⟩

/-- Where every lineage holds its fact already, the loop writes nothing. -/
theorem appendFacts_again {entries : List (FactRevisionInput × BuiltFact)}
    (held : List.Forall₂ (Holds idempotencyKey memory) entries events) :
    appendFacts sha256 idempotencyKey entries memory = (.ok events, memory) := by
  induction held with
  | nil => rfl
  | cons holds _ ih =>
      unfold appendFacts
      have again := append_of_found sha256 holds.admissible holds.found holds.bytes
      rw [Effect.bind_apply, onTables, Effect.within, again]
      simp only
      rw [Effect.bind_apply, ih]
      rfl

theorem Inserted.find_other {call : Append} {tables later : Tables} {row : HistoryRow} {key : Key}
    (inserted : Inserted sha256 call tables row later) (other : key ≠ call.key)
    (idempotencyKey : String) : later.find key idempotencyKey = tables.find key idempotencyKey := by
  have different : ¬ (row.key = key ∧ row.idempotencyKey = idempotencyKey) := by
    rw [inserted.key]
    exact fun same => other same.1.symm
  unfold Tables.find
  rw [inserted.history, List.find?_append, List.find?_singleton,
    if_neg (fun holds => different (of_decide_eq_true holds)), Option.or_none]

/-- How a finalization leaves the lineage of one of its facts. -/
structure Stores (idempotencyKey : String) (memory later : Memory) (built : BuiltFact)
    (event : HistoryRow) : Prop where
  found : later.tables.find built.key (factKey idempotencyKey built) = some event
  bytes : event.record.bytes = built.record.bytes
  fresh : memory.tables.find built.key (factKey idempotencyKey built) = none →
    event.record = built.record ∧
      later.tables.current.get? built.key =
        some ⟨built.fact.revisionId, built.fact.revision, built.fact.trustedFactDigest, .validated,
          true, built.record.bytes, event.eventHash, event.eventHash⟩
  replayed : ∀ row, memory.tables.find built.key (factKey idempotencyKey built) = some row →
    event = row ∧ later.tables.current.get? built.key = memory.tables.current.get? built.key

/-- The rows of the lineages that did not hold the key before. -/
def freshEvents (idempotencyKey : String) (memory : Memory) (facts : List BuiltFact)
    (events : List HistoryRow) : List HistoryRow :=
  ((facts.zip events).filter fun pair =>
    (memory.tables.find pair.1.key (factKey idempotencyKey pair.1)).isNone).map Prod.snd

theorem freshEvents_congr {memory later : Memory}
    {facts : List BuiltFact} (events : List HistoryRow)
    (same : ∀ built ∈ facts, memory.tables.find built.key (factKey idempotencyKey built) =
      later.tables.find built.key (factKey idempotencyKey built)) :
    freshEvents idempotencyKey memory facts events =
      freshEvents idempotencyKey later facts events := by
  unfold freshEvents
  congr 1
  apply List.filter_congr
  intro pair member
  rw [same pair.1 (List.of_mem_zip member).1]

theorem appendFacts_stores {memory later : Memory}
    (distinct : ((entries.map Prod.snd).map BuiltFact.key).Nodup)
    (ran : appendFacts sha256 idempotencyKey entries memory = (.ok events, later)) :
    List.Forall₂ (Stores idempotencyKey memory later) (entries.map Prod.snd) events ∧
      later.tables.history = memory.tables.history ++
        freshEvents idempotencyKey memory (entries.map Prod.snd) events ∧
      ∀ key ∉ (entries.map Prod.snd).map BuiltFact.key,
        later.tables.current.get? key = memory.tables.current.get? key := by
  induction entries generalizing memory events with
  | nil =>
      cases ran
      exact ⟨.nil, (List.append_nil _).symm, fun _ _ => rfl⟩
  | cons entry rest ih =>
      have ⟨held, _, _⟩ := appendFacts_holds sha256 _ ran
      obtain ⟨event, more, tables, appended, continued, rfl⟩ :=
        appendFacts_cons_eq_ok sha256 ran
      have ⟨apart, restDistinct⟩ := List.nodup_cons.mp distinct
      have ⟨stores, history, frame⟩ := ih restDistinct continued
      obtain ⟨holds, _⟩ := List.forall₂_cons.mp held
      have headCurrent := frame entry.2.key apart
      have ne_of_rest : ∀ built ∈ rest.map Prod.snd, built.key ≠ entry.2.key := by
        intro built member same
        exact apart (same ▸ List.mem_map_of_mem member)
      rcases append_eq_ok sha256 appended with ⟨found, bytes, same⟩ | ⟨missing, inserted⟩
      · subst same
        refine ⟨.cons ⟨holds.found, holds.bytes, ?_, ?_⟩ stores, ?_, ?_⟩
        · intro missing
          cases found.symm.trans missing
        · intro row again
          exact ⟨Option.some.inj (found.symm.trans again), headCurrent⟩
        · rw [history]
          unfold freshEvents
          rw [List.map_cons, List.zip_cons_cons, List.filter_cons_of_neg]
          rw [show memory.tables.find entry.2.key (factKey idempotencyKey entry.2) = some event
            from found]
          exact Bool.false_ne_true
        · intro key unnamed
          exact frame key fun member => unnamed (List.mem_cons_of_mem _ member)
      · have findRest : ∀ built ∈ rest.map Prod.snd,
            tables.find built.key (factKey idempotencyKey built) =
              memory.tables.find built.key (factKey idempotencyKey built) := fun built member =>
          inserted.find_other sha256 (ne_of_rest built member) _
        have currentRest : ∀ built ∈ rest.map Prod.snd,
            tables.current.get? built.key = memory.tables.current.get? built.key :=
          fun built member => inserted.currentOther built.key (ne_of_rest built member)
        have record : event.record = entry.2.record := by
          rw [inserted.recorded]
          rfl
        refine ⟨.cons ⟨holds.found, holds.bytes, ?_, ?_⟩ ?_, ?_, ?_⟩
        · intro _
          refine ⟨record, ?_⟩
          rw [headCurrent]
          refine inserted.currentSelf.trans ?_
          have body : event.record.body = .trustedFact entry.2.fact := by
            rw [record]
            rfl
          rw [foldStep_trusted body, record]
        · intro row again
          cases missing.symm.trans again
        · apply Related.imp_of_mem stores
          intro built member later _ stored
          have found := findRest built member
          have current := currentRest built member
          refine ⟨stored.found, stored.bytes, fun missing => stored.fresh (found.trans missing), ?_⟩
          intro row again
          have ⟨sameRow, sameCurrent⟩ := stored.replayed row (found.trans again)
          exact ⟨sameRow, sameCurrent.trans current⟩
        · rw [history, freshEvents_congr more findRest]
          unfold freshEvents
          rw [List.map_cons, List.zip_cons_cons, List.filter_cons_of_pos, List.map_cons,
            inserted.history, List.append_assoc]
          · rfl
          · rw [show memory.tables.find entry.2.key (factKey idempotencyKey entry.2) = none
              from missing]
            rfl
        · intro key unnamed
          have ⟨other, unnamedRest⟩ := not_or.mp (fun either => unnamed (List.mem_cons.mpr either))
          rw [frame key unnamedRest]
          exact inserted.currentOther key other

/-! ### Finalizing -/

theorem stored_eq_ok {α : Type} {effect : Effect Memory MemoryError α} {memory later : Memory}
    {item : α} (ran : stored effect memory = (.ok item, later)) :
    effect memory = (.ok item, later) := by
  unfold stored at ran
  rcases outcome : effect memory with ⟨error | result, final⟩
  · rw [outcome] at ran
    cases ran
  · rw [outcome] at ran
    simp only [Prod.mk.injEq, Except.ok.injEq] at ran
    rw [ran.1, ran.2]

theorem stored_of_ok {α : Type} {effect : Effect Memory MemoryError α} {memory later : Memory}
    {item : α} (ran : effect memory = (.ok item, later)) :
    stored effect memory = (.ok item, later) := by
  rw [stored, ran]

/-- What a finalization that returns has computed and appended. -/
structure Finalizes (request : FinalizationRequest) (idempotencyKey : String) (memory : Memory)
    (result : FinalizationResult) (row : ClosureRow) (middle later : Memory) : Prop where
  keyed : idempotencyKey ≠ ""
  closure : buildDecisionClosure sha256 request.toClosureInputs = .ok result.closure
  facts : buildFacts sha256 request result.closure = .ok result.facts
  filed : Filed sha256 (closureCall sha256 result.closure idempotencyKey) memory row middle
  appended : appendFacts sha256 idempotencyKey (request.inputs.zip result.facts) middle =
    (.ok result.events, later)

variable {request : FinalizationRequest}

theorem finalize_eq_ok {memory later : Memory} {result : FinalizationResult}
    (ran : finalize sha256 request idempotencyKey memory = (.ok result, later)) :
    ∃ row middle, Finalizes sha256 request idempotencyKey memory result row middle later := by
  unfold finalize at ran
  obtain ⟨keyed, ran⟩ := (Effect.raiseIf_bind_eq_ok _ _ _ _ _ _).mp ran
  obtain ⟨closure, closed, ran⟩ := (Effect.check_bind_eq_ok _ _ _ _ _).mp ran
  obtain ⟨facts, built, ran⟩ := (Effect.check_bind_eq_ok _ _ _ _ _).mp ran
  have inner := (Effect.transaction_eq_ok _ _ _ _).mp ran
  obtain ⟨row, middle, filed, inner⟩ := (Effect.bind_eq_ok _ _ _ _ _).mp inner
  obtain ⟨events, final, appended, inner⟩ := (Effect.bind_eq_ok _ _ _ _ _).mp inner
  simp only [Effect.pure_apply, Prod.mk.injEq, Except.ok.injEq] at inner
  obtain ⟨rfl, rfl⟩ := inner
  exact ⟨row, middle, keyed, closed, built,
    appendDecisionClosure_eq_ok sha256 (stored_eq_ok filed), stored_eq_ok appended⟩

theorem finalize_of {result : FinalizationResult} (keyed : idempotencyKey ≠ "")
    (closure : buildDecisionClosure sha256 request.toClosureInputs = .ok result.closure)
    (facts : buildFacts sha256 request result.closure = .ok result.facts)
    (filed : appendDecisionClosure sha256 (closureCall sha256 result.closure idempotencyKey)
      memory = (.ok row, memory))
    (appended : appendFacts sha256 idempotencyKey (request.inputs.zip result.facts) memory =
      (.ok result.events, memory)) :
    finalize sha256 request idempotencyKey memory = (.ok result, memory) := by
  unfold finalize
  apply (Effect.raiseIf_bind_eq_ok _ _ _ _ _ _).mpr
  refine ⟨keyed, ?_⟩
  rw [closure, Effect.check_ok_bind, facts, Effect.check_ok_bind]
  apply (Effect.transaction_eq_ok _ _ _ _).mpr
  rw [Effect.bind_apply, stored_of_ok filed]
  simp only
  rw [Effect.bind_apply, stored_of_ok appended]
  rfl

/-- A finalization that raises changes nothing. -/
theorem finalize_atomic (request : FinalizationRequest) (idempotencyKey : String)
    (memory : Memory) : Effect.Atomic (finalize sha256 request idempotencyKey) memory := by
  unfold finalize
  apply Effect.keeps_check_bind
  intro _ _
  apply Effect.keeps_check_bind
  intro _ _
  apply Effect.keeps_check_bind
  intro _ _
  exact Effect.atomic_transaction _ _

variable {sha256} in
theorem Finalizes.grows {memory middle later : Memory} {result : FinalizationResult}
    (finalizes : Finalizes sha256 request idempotencyKey memory result row middle later) :
    memory.Grows later :=
  (finalizes.filed.grows sha256).trans (appendFacts_holds sha256 _ finalizes.appended).2.1

/-! ### New lineages -/

/-- The store's own checks of a closure pass on what the finalizer sends. -/
theorem closureCall_admissible (closure : DecisionClosure) (idempotencyKey : String) :
    (closureCall sha256 closure idempotencyKey).admissible sha256 = .ok () := by
  have nonempty : ∀ text, Bounded 200 text → text ≠ "" := by
    rintro _ ⟨positive, _⟩ rfl
    exact Nat.not_succ_le_zero 0 positive
  have bounded := closure.valid.identifiers
  unfold ClosureCall.admissible
  apply (raiseIf_bind_eq_ok _ _ _ _).mpr
  refine ⟨?_, (raiseIf_bind_eq_ok _ _ _ _).mpr ⟨?_, (raiseIf_eq_ok _ _ _).mpr ?_⟩⟩
  · exact Bool.eq_false_iff.not.mpr (not_not.mpr (Gateway.isSha256_digest _))
  · rintro (tenant | project | key)
    · exact nonempty _ (bounded closure.core.tenantId (by simp)) tenant
    · exact nonempty _ (bounded closure.core.projectId (by simp)) project
    · simp [closureCall] at key
  · simp [ClosureCall.bound, closureCall, DecisionClosure.json, Dict.get?, DecisionClosure.digest,
      DecisionClosureCore.json]

theorem factCall_admissible (idempotencyKey : String) (expected : Option String)
    (built : BuiltFact) : (factCall idempotencyKey expected built).admissible = .ok () := by
  unfold Append.admissible
  apply (raiseIf_bind_eq_ok _ _ _ _).mpr
  refine ⟨?_, (raiseIf_bind_eq_ok _ _ _ _).mpr ⟨?_, (raiseIf_eq_ok _ _ _).mpr ?_⟩⟩
  · simp [factCall, BuiltFact.record, BuiltFact.key, RecordBody.scope, RecordBody.namesLineage]
  · simp [factCall, factKey]
  · simp [factCall, BuiltFact.record, RecordBody.isCandidate]

/-- A closure whose key and digest are new is inserted. -/
theorem appendDecisionClosure_new (admissible : call.admissible sha256 = .ok ())
    (unkeyed : memory.closureByKey call.tenantId call.projectId call.idempotencyKey = none)
    (missing : memory.closureByDigest call.tenantId call.projectId call.closureDigest = none) :
    appendDecisionClosure sha256 call memory = (.ok (call.row sha256),
      { memory with decisionClosures := memory.decisionClosures ++ [call.row sha256] }) := by
  unfold appendDecisionClosure
  rw [admissible, Effect.check_ok_bind]
  apply (Effect.transaction_eq_ok _ _ _ _).mpr
  rw [Effect.read_bind]
  simp only [unkeyed, missing]
  rfl

/-- A closure found by its digest is answered under the key it was stored with. -/
theorem appendDecisionClosure_found (admissible : call.admissible sha256 = .ok ())
    (unkeyed : memory.closureByKey call.tenantId call.projectId call.idempotencyKey = none)
    (found : memory.closureByDigest call.tenantId call.projectId call.closureDigest = some row)
    (bytes : row.closureBytes = call.bytes) :
    appendDecisionClosure sha256 call memory = (.ok row, memory) := by
  unfold appendDecisionClosure
  rw [admissible, Effect.check_ok_bind]
  apply (Effect.transaction_eq_ok _ _ _ _).mpr
  rw [Effect.read_bind]
  simp only [unkeyed, found]
  rw [if_neg (not_not.mpr bytes)]
  rfl

/-- The first fact of a lineage is appended. -/
theorem append_first {call : Append} {fact : TrustedFact} {tables : Tables}
    (admissible : call.admissible = .ok ()) (body : call.record.body = .trustedFact fact)
    (missing : tables.find call.key call.idempotencyKey = none)
    (current : tables.current.get? call.key = none)
    (expected : call.expectedCurrentEventHash = none) (revision : fact.revision = 1)
    (fresh : (call.row sha256 (tables.streams.get? call.key)).eventHash ∉
      tables.history.map HistoryRow.eventHash) :
    ∃ later, appendTrustedMemoryRecord sha256 call tables =
      (.ok (call.row sha256 (tables.streams.get? call.key)), later) := by
  have guarded : call.guards none = .ok () := by
    unfold Append.guards
    rw [body]
    simp only
    apply (raiseIf_eq_ok _ _ _).mpr
    rintro (impossible | impossible)
    · exact impossible expected
    · exact impossible revision
  have unique := (raiseIf_eq_ok _ MemoryError.integrity ()).mpr fresh
  have inserted : ∃ later, call.insert sha256 tables =
      (.ok (call.row sha256 (tables.streams.get? call.key)), later) := by
    unfold Append.insert
    rw [Effect.read_bind, current, guarded, Effect.check_ok_bind, unique, Effect.check_ok_bind]
    simp only [Effect.write_bind, Append.projection, body, Effect.check_ok_bind]
    exact ⟨_, rfl⟩
  obtain ⟨later, inserted⟩ := inserted
  refine ⟨later, ?_⟩
  unfold appendTrustedMemoryRecord
  rw [admissible, Effect.check_ok_bind]
  apply (Effect.transaction_eq_ok _ _ _ _).mpr
  rw [Effect.read_bind]
  simp only [missing]
  exact inserted

/-- A finalization of one fact in a lineage that is new. -/
theorem finalize_first {memory middle : Memory} {closure : DecisionClosure}
    {item : FactRevisionInput} {built : BuiltFact} (keyed : idempotencyKey ≠ "")
    (closed : buildDecisionClosure sha256 request.toClosureInputs = .ok closure)
    (single : request.facts = [item]) (facts : buildFacts sha256 request closure = .ok [built])
    (filed : appendDecisionClosure sha256 (closureCall sha256 closure idempotencyKey) memory =
      (.ok row, middle))
    (missing : middle.tables.find built.key (factKey idempotencyKey built) = none)
    (current : middle.tables.current.get? built.key = none)
    (expected : item.expectedCurrentEventHash = none) (revision : built.fact.revision = 1)
    (fresh : ((factCall idempotencyKey none built).row sha256
      (middle.tables.streams.get? built.key)).eventHash ∉
        middle.tables.history.map HistoryRow.eventHash) :
    ∃ event later, finalize sha256 request idempotencyKey memory =
        (.ok ⟨closure, [built], [event]⟩, later) ∧
      later.decisionClosures = middle.decisionClosures ∧
      Inserted sha256 (factCall idempotencyKey none built) middle.tables event later.tables := by
  have inputs : request.inputs = [item] := by
    rw [FinalizationRequest.inputs, single]
    exact List.mergeSort_singleton _
  obtain ⟨tables, outcome⟩ := append_first sha256 (factCall_admissible idempotencyKey none built)
    rfl missing current rfl revision fresh
  obtain ⟨event, appended⟩ : ∃ event, appendTrustedMemoryRecord sha256
      (factCall idempotencyKey none built) middle.tables = (.ok event, tables) := ⟨_, outcome⟩
  have inserted := (append_eq_ok sha256 appended).resolve_left fun replayed => by
    cases missing.symm.trans replayed.1
  have looped : appendFacts sha256 idempotencyKey (request.inputs.zip [built]) middle =
      (.ok [event], { middle with tables }) := by
    rw [inputs, List.zip_cons_cons, List.zip_nil_left, appendFacts, Effect.bind_apply, onTables,
      Effect.within, expected, appended]
    rfl
  refine ⟨event, { middle with tables }, ?_, rfl, inserted.2⟩
  unfold finalize
  apply (Effect.raiseIf_bind_eq_ok _ _ _ _ _ _).mpr
  refine ⟨keyed, ?_⟩
  rw [closed, Effect.check_ok_bind, facts, Effect.check_ok_bind]
  apply (Effect.transaction_eq_ok _ _ _ _).mpr
  rw [Effect.bind_apply, stored_of_ok filed]
  simp only
  rw [Effect.bind_apply, stored_of_ok looped]
  rfl

/-! ### Runs -/

inductive Operation where
  | append (call : Append)
  | close (call : ClosureCall)
  | finalize (request : FinalizationRequest) (idempotencyKey : String)

def Operation.perform (memory : Memory) : Operation → Memory
  | .append call => (onTables (appendTrustedMemoryRecord sha256 call) memory).2
  | .close call => (appendDecisionClosure sha256 call memory).2
  | .finalize request idempotencyKey =>
      (TrustedMemory.finalize sha256 request idempotencyKey memory).2

/-- The store after a list of operations, whatever each of them returned. -/
def afterAll (memory : Memory) (operations : List Operation) : Memory :=
  operations.foldl (Operation.perform sha256) memory

theorem appendDecisionClosure_grows (call : ClosureCall) (memory : Memory) :
    memory.Grows (appendDecisionClosure sha256 call memory).2 := by
  rcases outcome : appendDecisionClosure sha256 call memory with ⟨error | row, later⟩
  · have same : later = memory :=
      appendDecisionClosure_atomic sha256 call memory error later outcome
    rw [same]
    exact .refl memory
  · exact (appendDecisionClosure_eq_ok sha256 outcome).grows sha256

theorem finalize_grows (request : FinalizationRequest) (idempotencyKey : String)
    (memory : Memory) : memory.Grows (finalize sha256 request idempotencyKey memory).2 := by
  rcases outcome : finalize sha256 request idempotencyKey memory with ⟨error | result, later⟩
  · have same : later = memory :=
      finalize_atomic sha256 request idempotencyKey memory error later outcome
    rw [same]
    exact .refl memory
  · obtain ⟨row, middle, finalizes⟩ := finalize_eq_ok sha256 outcome
    exact finalizes.grows

theorem Operation.grows (memory : Memory) (operation : Operation) :
    memory.Grows (operation.perform sha256 memory) := by
  cases operation with
  | append call => exact append_grows sha256 call memory
  | close call => exact appendDecisionClosure_grows sha256 call memory
  | finalize request idempotencyKey => exact finalize_grows sha256 request idempotencyKey memory

theorem afterAll_grows (operations : List Operation) (memory : Memory) :
    memory.Grows (afterAll sha256 memory operations) := by
  induction operations generalizing memory with
  | nil => exact .refl memory
  | cons operation rest ih => exact (operation.grows sha256 memory).trans (ih _)

end Steps

end EgoAgent.TrustedMemory
