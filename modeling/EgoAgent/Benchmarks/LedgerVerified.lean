import EgoAgent.Benchmarks.LedgerExport

/-!
The ledger of a run, exported and written as JSON, is accepted by the verifier.
-/

namespace EgoAgent.Benchmarks

open EgoAgent.Api EgoAgent.Bridge

section Fields

variable {φ : Type}

theorem field_sorted {members : Members φ} (distinct : (Dict.keys members).Nodup) (key : String) :
    field (sortMembers (sortedMembers members)) key = (field members key).sorted := by
  unfold field
  rw [get?_sorted_eq_map distinct]
  cases Dict.get? members key <;> rfl

theorem hasKeys_sorted (members : Members φ) (keys : List String) :
    hasKeys (sortMembers (sortedMembers members)) keys = hasKeys members keys := by
  unfold hasKeys
  have perm := sorted_keys_perm members
  rw [perm.all_eq]
  congr 1
  simp only [perm.mem_iff]

theorem hasKeys_of_keys {members : Members φ} {keys : List String} (same : members.keys = keys) :
    hasKeys members keys = true := by
  unfold hasKeys
  rw [same, Bool.and_eq_true, List.all_eq_true]
  exact ⟨fun key present => decide_eq_true present, fun key present => decide_eq_true present⟩

theorem positiveInteger_of_pos (label : String) {number : Int} (positive : 1 ≤ number) :
    positiveInteger label (.int number : Json φ) = .ok number := by
  simp only [positiveInteger]
  rw [raiseIf_bind_of_not (by omega)]
  rfl

end Fields

section Verified

variable {κ φ : Type} [FloatText φ] {platform : TracePlatform φ} {times : TimeText}
  {head : TraceHead φ}

/-! ### Hashes -/

theorem sha256Of_eq {value : Json φ} (finite : value.finite = true) :
    sha256Of platform value = .ok (bridgeSha256 platform.sha256 value) := by
  unfold sha256Of canonicalSha256 canonicalJson
  rw [if_pos finite]
  rfl

/-- Hashes are of the sorted document. -/
theorem bridgeSha256_sorted (value : Json φ) :
    bridgeSha256 platform.sha256 value.sorted = bridgeSha256 platform.sha256 value := by
  unfold bridgeSha256
  rw [sorted_sorted]

theorem bridgeSha256_hashPayload_sorted (eventId runId kind previousHash createdAt : String)
    (envelope : Json φ) :
    bridgeSha256 platform.sha256
        (hashPayload eventId runId kind previousHash createdAt envelope.sorted) =
      bridgeSha256 platform.sha256
        (hashPayload eventId runId kind previousHash createdAt envelope) := by
  have same : (hashPayload eventId runId kind previousHash createdAt envelope.sorted).sorted =
      (hashPayload eventId runId kind previousHash createdAt envelope).sorted := by
    simp [hashPayload, Json.sorted, sortedMembers, sorted_sorted]
  unfold bridgeSha256
  rw [same]

/-! ### What an exportable envelope is -/

theorem dump_keys (envelope : Envelope φ) :
    Dict.keys (envelope.dump platform.sha256 times) = bridgeEnvelopeRequiredKeys := rfl

theorem dump_distinct (envelope : Envelope φ) :
    (Dict.keys (envelope.dump platform.sha256 times)).Nodup := by
  rw [dump_keys]
  decide

variable {envelope : Envelope φ}

theorem dump_finite (finite : (Json.dict envelope.body).finite = true) :
    (Json.dict (envelope.dump platform.sha256 times)).finite = true := by
  unfold Envelope.dump
  cases envelope.causationId <;> simp [Json.finite, finiteMembers] <;>
    simpa [Json.finite] using finite

theorem dump_legible (good : Exportable platform times envelope) :
    legible (Json.dict (envelope.dump platform.sha256 times)) = true := by
  refine (legible_dict_iff _).mpr ⟨dump_distinct envelope, ?_⟩
  have body := good.legible
  obtain ⟨context, attempt⟩ := good.numbers
  unfold Envelope.dump
  cases envelope.causationId <;> simp [legible, context, attempt] <;> simpa [legible] using body

/-- The envelope as the exporter writes it and the verifier reads it. -/
abbrev written (platform : TracePlatform φ) (times : TimeText) (envelope : Envelope φ) :
    Members φ :=
  sortMembers (sortedMembers (envelope.dump platform.sha256 times))

variable (platform times) in
theorem written_field (envelope : Envelope φ) (key : String) :
    field (written platform times envelope) key =
      (field (envelope.dump platform.sha256 times) key).sorted :=
  field_sorted (dump_distinct envelope) key

theorem identityMismatch_written {eventId : String}
    (good : Verifiable platform times head eventId envelope) :
    identityMismatch platform head (written platform times envelope) = [] := by
  obtain ⟨task, project, trace, correlation, context⟩ := good.identities
  have fields := written_field platform times envelope
  have taskField : field (written platform times envelope) "task_id" = .str envelope.taskId :=
    fields "task_id"
  have projectField : field (written platform times envelope) "project_id" =
      .str envelope.projectId := fields "project_id"
  have traceField : field (written platform times envelope) "trace_id" = .str envelope.traceId :=
    fields "trace_id"
  have correlationField : field (written platform times envelope) "correlation_id" =
      .str envelope.correlationId := fields "correlation_id"
  have contextField : field (written platform times envelope) "context_version" =
      .int envelope.contextVersion := fields "context_version"
  unfold identityMismatch
  simp [taskField, projectField, traceField, correlationField, contextField, equalsText, equalsInt,
    task, project, trace, correlation, context]

/-- The verifier's checks of an exported envelope. -/
theorem checkEnvelope_written {eventId : String}
    (good : Verifiable platform times head eventId envelope) (label : String) {item : Members φ}
    (itemTime : field item "created_at" = .str (times.utcIso envelope.createdAt.instant)) :
    checkEnvelope platform head label envelope.kind.text item (written platform times envelope) =
      .ok (times.utcIso envelope.createdAt.instant) := by
  have fields := written_field platform times envelope
  have schema : field (written platform times envelope) "schema" =
      .str "egoagentos.agentteams-envelope.v2" := fields "schema"
  have kind : field (written platform times envelope) "kind" = .str envelope.kind.text :=
    fields "kind"
  have attempt : field (written platform times envelope) "attempt" = .int envelope.attempt :=
    fields "attempt"
  have envelopeId : field (written platform times envelope) "envelope_id" =
      .str envelope.envelopeId := fields "envelope_id"
  have sender : field (written platform times envelope) "sender" = .str envelope.sender :=
    fields "sender"
  have recipient : field (written platform times envelope) "recipient" = .str envelope.recipient :=
    fields "recipient"
  have body : field (written platform times envelope) "body" = (Json.dict envelope.body).sorted :=
    fields "body"
  have bodySha256 : field (written platform times envelope) "body_sha256" =
      .str (bridgeSha256 platform.sha256 (.dict envelope.body)) := fields "body_sha256"
  have createdAt : field (written platform times envelope) "created_at" =
      .str (times.jsonIso envelope.createdAt) := fields "created_at"
  have secretFree : secretFound platform (.dict (written platform times envelope)) = none :=
    secretFound_sorted (.dict (envelope.dump platform.sha256 times)) good.secretFree
  have bodyFinite : (Json.dict envelope.body).sorted.finite = true := finite_sorted _ good.finite
  unfold checkEnvelope
  rw [raiseIf_bind_of_not (by rw [hasKeys_sorted, hasKeys_of_keys (dump_keys envelope)]; decide),
    assertSecretFree_of_free _ _ secretFree, ok_bind,
    raiseIf_bind_of_not (by rw [schema]; simp [equalsText]),
    raiseIf_bind_of_not (by rw [kind]; simp [equalsText]),
    raiseIf_bind_of_not (by simp [identityMismatch_written good])]
  rw [attempt, positiveInteger_of_pos _ envelope.attemptPositive, ok_bind, envelopeId,
    textOf_of_textOk good.envelopeId, ok_bind, sender,
    textOf_of_textOk (textOk_sender envelope good.sender), ok_bind, recipient,
    textOf_of_textOk good.recipient, ok_bind, body]
  have hashed : sha256Of platform (Json.dict envelope.body).sorted = _ := sha256Of_eq bodyFinite
  rw [bridgeSha256_sorted] at hashed
  simp only [Json.sorted] at hashed ⊢
  rw [objectOf, ok_bind, hashed, ok_bind,
    raiseIf_bind_of_not (by rw [bodySha256]; simp [equalsText]), itemTime,
    textOf_of_textOk good.time.utcText,
    ok_bind, createdAt, textOf_of_textOk good.time.jsonText, ok_bind]
  rw [good.time.utc, good.time.json]
  dsimp only
  rw [raiseIf_bind_of_not (by simp)]
  rfl

/-! ### Items -/

/-- An exported item. -/
def exportedItem (runId : String) (index : Nat) (row : EventRow φ) : Members φ :=
  [("sequence", .int (index + 1)), ("event_id", .str row.eventId), ("run_id", .str runId),
    ("kind", .str row.kind), ("envelope", row.envelope.sorted),
    ("previous_hash", .str row.previousHash), ("event_hash", .str row.eventHash),
    ("created_at", .str row.createdAt)]

def exportedItems (runId : String) : Nat → List (EventRow φ) → List (Json φ)
  | _, [] => []
  | index, row :: rest =>
      .dict (exportedItem runId index row) :: exportedItems runId (index + 1) rest

/-- What the verifier keeps of an item. -/
def summaryOf (row : EventRow φ) : LedgerItem := ⟨row.eventId, row.kind, row.eventHash⟩

omit [FloatText φ] in
theorem exportedItem_keys (runId : String) (index : Nat) (row : EventRow φ) :
    Dict.keys (exportedItem runId index row) = bridgeLedgerItemKeys := rfl

omit [FloatText φ] in
theorem exportedItem_distinct (runId : String) (index : Nat) (row : EventRow φ) :
    (Dict.keys (exportedItem runId index row)).Nodup := by
  rw [exportedItem_keys]
  decide

/-- The envelope of an exported item, as it is read. -/
theorem exportedItem_envelope (runId previousHash eventId : String) (envelope : Envelope φ)
    (index : Nat) :
    field (sortMembers (sortedMembers (exportedItem runId index
        (rowOf platform.sha256 times runId previousHash eventId envelope)))) "envelope" =
      .dict (written platform times envelope) := by
  have sorted := field_sorted (exportedItem_distinct runId index
    (rowOf platform.sha256 times runId previousHash eventId envelope)) "envelope"
  rw [sorted]
  change (Json.dict (envelope.dump platform.sha256 times)).sorted.sorted = _
  rw [sorted_sorted]
  rfl

/-- The verifier takes an exported item. -/
theorem readItem_exported {runId previousHash eventId : String}
    (good : Verifiable platform times head eventId envelope) {done : List LedgerItem} {index : Nat}
    (previousDigest : Gateway.isSha256 previousHash = true)
    (next : expectedPrevious done = previousHash)
    (unused : eventId ∉ done.map LedgerItem.eventId) :
    readItem platform head runId done ((Json.dict (exportedItem runId index
        (rowOf platform.sha256 times runId previousHash eventId envelope))).sorted, index) =
      .ok (done ++
        [summaryOf (rowOf platform.sha256 times runId previousHash eventId envelope)]) := by
  obtain ⟨row, rowEq⟩ :
      ∃ row, row = rowOf platform.sha256 times runId previousHash eventId envelope := ⟨_, rfl⟩
  obtain ⟨item, itemEq⟩ :
      ∃ item, item = sortMembers (sortedMembers (exportedItem runId index row)) := ⟨_, rfl⟩
  have fields : ∀ key, field item key = (field (exportedItem runId index row) key).sorted := by
    rw [itemEq]
    exact field_sorted (exportedItem_distinct runId index row)
  have sequence : field item "sequence" = .int (index + 1) := fields "sequence"
  have eventIdField : field item "event_id" = .str eventId := by
    rw [fields, rowEq]
    rfl
  have runIdField : field item "run_id" = .str runId := fields "run_id"
  have kind : field item "kind" = .str envelope.kind.text := by
    rw [fields, rowEq]
    rfl
  have envelopeField : field item "envelope" = .dict (written platform times envelope) := by
    rw [itemEq, rowEq]
    exact exportedItem_envelope runId previousHash eventId envelope index
  have previous : field item "previous_hash" = .str previousHash := by
    rw [fields, rowEq]
    rfl
  have eventHash : field item "event_hash" = .str row.eventHash := fields "event_hash"
  have createdAt : field item "created_at" = .str (times.utcIso envelope.createdAt.instant) := by
    rw [fields, rowEq]
    rfl
  have kindOk : TextOk envelope.kind.text := by
    cases envelope.kind <;> exact ⟨by decide, by decide⟩
  have kindKnown : envelope.kind.text ∈ bridgeLedgerKinds := by
    cases envelope.kind <;> decide
  have finite : (hashPayload eventId runId envelope.kind.text previousHash
      (times.utcIso envelope.createdAt.instant)
      (.dict (written platform times envelope))).finite = true := by
    have inner : (Json.dict (written platform times envelope)).finite = true :=
      finite_sorted (.dict (envelope.dump platform.sha256 times)) (dump_finite good.finite)
    simpa [hashPayload, Json.finite, finiteMembers] using inner
  have hashed : sha256Of platform (hashPayload eventId runId envelope.kind.text previousHash
      (times.utcIso envelope.createdAt.instant) (.dict (written platform times envelope))) =
        .ok row.eventHash := by
    rw [sha256Of_eq finite, rowEq]
    exact congrArg Except.ok (bridgeSha256_hashPayload_sorted eventId runId envelope.kind.text
      previousHash _ (.dict (envelope.dump platform.sha256 times)))
  rw [← rowEq]
  unfold readItem
  simp only [Json.sorted]
  rw [← itemEq, objectOf, ok_bind,
    raiseIf_bind_of_not (by
      rw [itemEq, hasKeys_sorted, hasKeys_of_keys (exportedItem_keys runId index row)]; decide),
    sequence, positiveInteger_of_pos _ (by omega), ok_bind, raiseIf_bind_of_not (by simp),
    eventIdField, textOf_of_textOk good.eventId, ok_bind, raiseIf_bind_of_not unused,
    raiseIf_bind_of_not (by rw [runIdField]; simp [equalsText]), kind, textOf_of_textOk kindOk,
    ok_bind, raiseIf_bind_of_not (by simpa using kindKnown), envelopeField, objectOf, ok_bind,
    checkEnvelope_written good _ createdAt, ok_bind, previous,
    rawDigest_of_isSha256 previousDigest, ok_bind, raiseIf_bind_of_not (by simp [next])]
  unfold hashPayload at hashed
  have rowDigest : Gateway.isSha256 row.eventHash = true := by
    rw [rowEq]
    exact isSha256_bridgeSha256 _
  rw [hashed, ok_bind, eventHash, rawDigest_of_isSha256 rowDigest, ok_bind,
    raiseIf_bind_of_not (by simp), rowEq]
  rfl

/-! ### The verifier's run over the items -/

omit [FloatText φ] in
theorem expectedPrevious_concat (done : List LedgerItem) (item : LedgerItem) :
    expectedPrevious (done ++ [item]) = item.eventHash := by
  simp [expectedPrevious]

/-- The verifier takes the whole chain: each item extends the one before. -/
theorem readItems_exported (runId : String) :
    ∀ (appended : List (String × Envelope φ)) (previousHash : String) (done : List LedgerItem)
      (index : Nat),
      (∀ entry ∈ appended, Verifiable platform times head entry.1 entry.2) →
      (appended.map Prod.fst).Nodup →
      (∀ entry ∈ appended, entry.1 ∉ done.map LedgerItem.eventId) →
      Gateway.isSha256 previousHash = true → expectedPrevious done = previousHash →
      ((sortedItems (exportedItems runId index (rowsOf platform.sha256 times runId previousHash
          appended))).zipIdx index).foldlM (readItem platform head runId) done =
        .ok (done ++ (rowsOf platform.sha256 times runId previousHash appended).map summaryOf)
  | [], _, done, _, _, _, _, _, _ => by
      rw [rowsOf, exportedItems, sortedItems, List.map_nil, List.append_nil]
      rfl
  | (eventId, envelope) :: rest, previousHash, done, index, good, distinct, unused, digest,
      next => by
      obtain ⟨goodHere, goodLater⟩ := List.forall_mem_cons.mp good
      obtain ⟨unusedHere, unusedLater⟩ := List.forall_mem_cons.mp unused
      rw [List.map_cons, List.nodup_cons] at distinct
      rw [rowsOf, exportedItems, sortedItems, List.zipIdx_cons, List.foldlM_cons,
        readItem_exported goodHere digest next unusedHere, ok_bind]
      have later := readItems_exported runId rest
        (rowOf platform.sha256 times runId previousHash eventId envelope).eventHash
        (done ++ [summaryOf (rowOf platform.sha256 times runId previousHash eventId envelope)])
        (index + 1) goodLater distinct.2 ?_ (isSha256_bridgeSha256 _)
        (expectedPrevious_concat _ _)
      · rw [later, List.map_cons, List.append_assoc, List.singleton_append]
      · intro entry present used
        rw [List.map_append, List.mem_append] at used
        rcases used with earlier | here
        · exact unusedLater entry present earlier
        · have same : entry.1 = eventId := by simpa [summaryOf, rowOf] using here
          exact distinct.1 (List.mem_map.mpr ⟨entry, present, same⟩)

/-! ### The ledger -/

omit [FloatText φ] in
theorem map_fst_filter_zipIdx (rows : List (EventRow φ)) (runId : String) (start : Nat) :
    ((rows.zipIdx start).filter fun entry => entry.1.runId = runId).map Prod.fst =
      rows.filter fun row => row.runId = runId := by
  induction rows generalizing start with
  | nil => rfl
  | cons row rest ih =>
      rw [List.zipIdx_cons, List.filter_cons, List.filter_cons]
      by_cases here : row.runId = runId
      · simp [here, ih]
      · simp [here, ih]

/-- The rows with their envelopes as they are read back. -/
def readRows (rows : List (EventRow φ)) : List (EventRow φ × Json φ) :=
  rows.map fun row => (row, row.envelope.sorted)

theorem readEnvelopes_eq {loads : Bytes → Option (Json φ)} (readsBack : ReadsBack loads) :
    ∀ entries : List (EventRow φ × Nat),
      (∀ entry ∈ entries, entry.1.envelope.finite = true ∧ legible entry.1.envelope = true) →
      readEnvelopes loads entries = .ok (readRows (entries.map Prod.fst))
  | [], _ => rfl
  | (row, _) :: rest, clean => by
      obtain ⟨⟨finite, readable⟩, later⟩ := List.forall_mem_cons.mp clean
      unfold readEnvelopes readEnvelope
      rw [readsBack row.envelope finite readable, (expect_eq_ok _ _ _).mpr rfl, ok_bind,
        readEnvelopes_eq readsBack rest later, ok_bind]
      rfl

/-- What the store appended, it reads as a chain. -/
theorem chainValid_rowsOf (runId : String) :
    ∀ (appended : List (String × Envelope φ)) (previousHash : String),
      chainValid platform.sha256 previousHash
        (readRows (rowsOf platform.sha256 times runId previousHash appended)) = true
  | [], _ => rfl
  | (eventId, envelope) :: rest, previousHash => by
      have later := chainValid_rowsOf runId rest
        (rowOf platform.sha256 times runId previousHash eventId envelope).eventHash
      unfold readRows at later ⊢
      rw [rowsOf, List.map_cons, chainValid, later, Bool.and_true, Bool.and_eq_true]
      refine ⟨by simp [rowOf], ?_⟩
      rw [bridgeSha256_hashPayload_sorted]
      simp [rowOf]

omit [FloatText φ] in
/-- The items of `events`, as exported. -/
theorem exportItems_eq (runId : String) :
    ∀ (entries : List (EventRow φ × Nat)) (index : Nat),
      (∀ entry ∈ entries, secretFound platform entry.1.envelope = none) →
      exportItems platform runId ((((entries.zip (readRows (entries.map Prod.fst))).map
          fun entry => ledgerItem entry.1.2 entry.1.1 entry.2.2)).zipIdx index) =
        .ok (exportedItems runId index (entries.map Prod.fst))
  | [], _, _ => rfl
  | (row, sequence) :: rest, index, free => by
      obtain ⟨here, later⟩ := List.forall_mem_cons.mp free
      have others := exportItems_eq runId rest (index + 1) later
      have item : exportItem platform runId (ledgerItem sequence row row.envelope.sorted, index) =
          .ok (.dict (exportedItem runId index row)) := by
        have envelope : field [("sequence", Json.int (sequence : Int)),
            ("event_id", .str row.eventId), ("kind", .str row.kind),
            ("envelope", row.envelope.sorted), ("previous_hash", .str row.previousHash),
            ("event_hash", .str row.eventHash), ("created_at", .str row.createdAt)] "envelope" =
              row.envelope.sorted := rfl
        unfold exportItem ledgerItem
        simp only [envelope, secretFound_sorted row.envelope here]
        rfl
      unfold readRows at others ⊢
      simp only [List.map_cons, List.zip_cons_cons, List.zipIdx_cons, exportItems]
      rw [item, ok_bind, others, ok_bind]
      rfl

/-! ### The exported chain -/

def exportedChain (runId : String) (rows : List (EventRow φ)) : Members φ :=
  [("valid", .bool true), ("hash_algorithm", .str "sha256-canonical-json-v1"),
    ("external_origin_status", .str "UNVERIFIED"), ("total", .int rows.length),
    ("head", .str (lastHash zeroHash rows)), ("source_ledger_total", .int rows.length),
    ("items", .list (exportedItems runId 0 rows))]

omit [FloatText φ] in
theorem exportedItems_length (runId : String) (rows : List (EventRow φ)) (index : Nat) :
    (exportedItems runId index rows).length = rows.length := by
  induction rows generalizing index with
  | nil => rfl
  | cons row rest ih => simp [exportedItems, ih]

omit [FloatText φ] in
theorem lastEventHash_exported (runId : String) (rows : List (EventRow φ)) :
    ∀ (row : EventRow φ) (index : Nat) (previousHash : String),
      lastEventHash (exportedItems runId index (row :: rows)) =
        .str (lastHash previousHash (row :: rows)) := by
  induction rows with
  | nil => exact fun row index previousHash => rfl
  | cons second rest ih =>
      intro row index previousHash
      have later := ih second (index + 1) row.eventHash
      rw [lastHash_cons, ← later]
      simp only [exportedItems, lastEventHash]
      rw [List.getLast?_cons_cons]

omit [FloatText φ] in
theorem expectedPrevious_summaries (rows : List (EventRow φ)) :
    expectedPrevious (rows.map summaryOf) = lastHash zeroHash rows := by
  unfold expectedPrevious lastHash
  rw [List.getLast?_map]
  cases rows.getLast? <;> rfl

variable {runId : String}

omit [FloatText φ] in
/-- A valid ledger is exported item by item. -/
theorem export_eq {ledger : Members φ} {items : List (Json φ)}
    {rows : List (EventRow φ)} (some : rows ≠ [])
    (valid : field ledger "chain_valid" = .bool true)
    (itemsField : field ledger "items" = .list items)
    (total : field ledger "total" = .int rows.length)
    (exported : exportItems platform runId items.zipIdx = .ok (exportedItems runId 0 rows)) :
    exportBridgeEventChain platform ledger runId = .ok (exportedChain runId rows) := by
  obtain ⟨row, rest, rfl⟩ := List.exists_cons_of_ne_nil some
  have head := lastEventHash_exported runId rest row 0 zeroHash
  have length := exportedItems_length runId (row :: rest) 0
  cases items with
  | nil => cases exported
  | cons first others =>
      unfold exportBridgeEventChain
      rw [valid, raiseIf_bind_of_not (by simp), itemsField]
      dsimp only
      rw [exported, ok_bind, total, length, raiseIf_bind_of_not (by simp [equalsInt]), head]
      rfl

variable {appended : List (String × Envelope φ)}

variable {store : Store κ φ} {run : RunRow κ}

/-- What the store appended is exported. -/
theorem export_events (readsBack : ReadsBack platform.parse)
    (found : store.runs.get? runId = some run)
    (holds : Holds platform.sha256 times store runId appended) (some : appended ≠ [])
    (good : ∀ entry ∈ appended, Exportable platform times entry.2) :
    ∃ ledger, events platform.sha256 platform.parse store runId = .ok ledger ∧
      exportBridgeEventChain platform ledger runId =
        .ok (exportedChain runId (rowsOf platform.sha256 times runId zeroHash appended)) := by
  obtain ⟨rows, rowsEq⟩ :
      ∃ rows, rows = rowsOf platform.sha256 times runId zeroHash appended := ⟨_, rfl⟩
  have stored : (store.eventRows runId).map Prod.fst = rows := by
    rw [rowsEq, ← holds.1]
    exact map_fst_filter_zipIdx store.events runId 1
  have envelopes : ∀ entry ∈ store.eventRows runId, ∃ event ∈ appended,
      entry.1.envelope = .dict (event.2.dump platform.sha256 times) := by
    intro entry present
    have member : entry.1 ∈ rows := by
      rw [← stored]
      exact List.mem_map_of_mem present
    rw [rowsEq] at member
    exact mem_rowsOf member
  have clean : ∀ entry ∈ store.eventRows runId,
      entry.1.envelope.finite = true ∧ legible entry.1.envelope = true := by
    intro entry present
    obtain ⟨event, inside, same⟩ := envelopes entry present
    rw [same]
    exact ⟨dump_finite (good event inside).finite, dump_legible (good event inside)⟩
  have free : ∀ entry ∈ store.eventRows runId,
      secretFound platform entry.1.envelope = none := by
    intro entry present
    obtain ⟨event, inside, same⟩ := envelopes entry present
    rw [same]
    exact (good event inside).secretFree
  have exported := exportItems_eq runId (store.eventRows runId) 0 free
  have read := readEnvelopes_eq readsBack (store.eventRows runId) clean
  rw [stored] at exported read
  have nonempty : rows ≠ [] := by
    rw [rowsEq]
    cases appended with
    | nil => exact absurd rfl some
    | cons entry rest => exact List.cons_ne_nil _ _
  rw [← rowsEq]
  refine ⟨[("items", .list (((store.eventRows runId).zip (readRows rows)).map fun entry =>
      ledgerItem entry.1.2 entry.1.1 entry.2.2)), ("total", .int (store.eventRows runId).length),
    ("chain_valid", .bool (chainValid platform.sha256 zeroHash (readRows rows)))], ?_,
    export_eq nonempty ?_ rfl ?_ exported⟩
  · unfold events Store.run
    rw [found, (expect_eq_ok _ _ _).mpr rfl, ok_bind]
    dsimp only
    rw [read, ok_bind]
  · rw [rowsEq, chainValid_rowsOf]
    rfl
  · have total : ((store.eventRows runId).length : Int) = rows.length := by
      rw [← stored, List.length_map]
    rw [total]
    rfl

/-! ### The exported chain is read and verified -/

omit [FloatText φ] in
theorem exportedChain_distinct (runId : String) (rows : List (EventRow φ)) :
    (Dict.keys (exportedChain runId rows)).Nodup := by
  have keys : Dict.keys (exportedChain runId rows) = ["valid", "hash_algorithm",
    "external_origin_status", "total", "head", "source_ledger_total", "items"] := rfl
  rw [keys]
  decide

theorem isSha256_lastHash (runId : String) :
    ∀ (appended : List (String × Envelope φ)) {previousHash : String},
      Gateway.isSha256 previousHash = true → Gateway.isSha256
        (lastHash previousHash (rowsOf platform.sha256 times runId previousHash appended)) = true
  | [], _, digest => digest
  | _ :: rest, _, _ => by
      rw [rowsOf, lastHash_cons]
      exact isSha256_lastHash runId rest (isSha256_bridgeSha256 _)

/-- The verifier accepts the exported chain. -/
theorem verify_exportedChain (runId : String) (some : appended ≠ [])
    (good : ∀ entry ∈ appended, Verifiable platform times head entry.1 entry.2)
    (distinct : (appended.map Prod.fst).Nodup) :
    let rows := rowsOf platform.sha256 times runId zeroHash appended
    verifyBridgeEventChain platform head runId
        (sortMembers (sortedMembers (exportedChain runId rows))) =
      .ok ⟨lastHash zeroHash rows, rows.length, rows.map summaryOf⟩ := by
  intro rows
  obtain ⟨chain, chainEq⟩ :
      ∃ chain, chain = sortMembers (sortedMembers (exportedChain runId rows)) := ⟨_, rfl⟩
  have fields : ∀ key, field chain key = (field (exportedChain runId rows) key).sorted := by
    rw [chainEq]
    exact field_sorted (exportedChain_distinct runId rows)
  have algorithm : field chain "hash_algorithm" = .str "sha256-canonical-json-v1" :=
    fields "hash_algorithm"
  have origin : field chain "external_origin_status" = .str "UNVERIFIED" :=
    fields "external_origin_status"
  have items : field chain "items" = .list (sortedItems (exportedItems runId 0 rows)) :=
    fields "items"
  have total : field chain "total" = .int rows.length := fields "total"
  have source : field chain "source_ledger_total" = .int rows.length :=
    fields "source_ledger_total"
  have chainHead : field chain "head" = .str (lastHash zeroHash rows) := fields "head"
  have valid : field chain "valid" = .bool true := fields "valid"
  have run : (sortedItems (exportedItems runId 0 rows)).zipIdx.foldlM
      (readItem platform head runId) [] = .ok (rows.map summaryOf) :=
    readItems_exported runId appended zeroHash [] 0 good distinct (by simp)
      isSha256_zeroHash rfl
  have length : (sortedItems (exportedItems runId 0 rows)).length = rows.length := by
    rw [sortedItems_eq_map, List.length_map, exportedItems_length]
  have positive : 0 < rows.length := by
    cases appended with
    | nil => exact absurd rfl some
    | cons entry rest => exact Nat.zero_lt_succ _
  have nonempty : sortedItems (exportedItems runId 0 rows) ≠ [] := by
    rw [← List.length_pos_iff_ne_nil, length]
    exact positive
  have headDigest : Gateway.isSha256 (lastHash zeroHash rows) = true :=
    isSha256_lastHash runId appended isSha256_zeroHash
  rw [← chainEq]
  unfold verifyBridgeEventChain
  rw [algorithm, raiseIf_bind_of_not (by simp [equalsText]), origin,
    raiseIf_bind_of_not (by simp [equalsText]), items, arrayOf, ok_bind,
    raiseIf_bind_of_not nonempty, total, positiveInteger_of_pos _ (by omega), ok_bind, source,
    positiveInteger_of_pos _ (by omega), ok_bind, raiseIf_bind_of_not (by rw [length]; simp), run,
    ok_bind, chainHead, rawDigest_of_isSha256 headDigest, ok_bind,
    raiseIf_bind_of_not (by rw [expectedPrevious_summaries]; simp), valid,
    raiseIf_bind_of_not (by simp)]
  rfl

/-! ### The exported chain as JSON -/

omit [FloatText φ] in
theorem exportedItems_legible :
    ∀ {rows : List (EventRow φ)} {index : Nat}, index + rows.length < 2 ^ 63 →
      (∀ row ∈ rows, legible row.envelope = true) →
      legibleItems (exportedItems runId index rows) = true
  | [], _, _, _ => rfl
  | row :: rest, index, short, readable => by
      obtain ⟨here, later⟩ := List.forall_mem_cons.mp readable
      rw [List.length_cons] at short
      have item : legible (.dict (exportedItem runId index row)) = true := by
        refine (legible_dict_iff _).mpr ⟨exportedItem_distinct runId index row, ?_⟩
        have sequence : convertible ((index : Int) + 1) = true :=
          convertible_of_small (by omega : index + 1 < 2 ^ 100)
        simp [exportedItem, legible, sequence, legible_sorted row.envelope here]
      rw [exportedItems, legibleItems, item, Bool.true_and]
      exact exportedItems_legible (by omega) later

theorem exportedItems_finite :
    ∀ {rows : List (EventRow φ)} {index : Nat}, (∀ row ∈ rows, row.envelope.finite = true) →
      finiteItems (exportedItems runId index rows) = true
  | [], _, _ => rfl
  | row :: rest, index, finite => by
      obtain ⟨here, later⟩ := List.forall_mem_cons.mp finite
      rw [exportedItems, finiteItems, exportedItems_finite later, Bool.and_true]
      simp [exportedItem, Json.finite, finiteMembers, finite_sorted row.envelope here]

/-- The exported chain is a document that JSON writes and reads. -/
theorem exportedChain_readable (runId : String) {rows : List (EventRow φ)}
    (short : rows.length < 2 ^ 63)
    (clean : ∀ row ∈ rows, row.envelope.finite = true ∧ legible row.envelope = true) :
    (Json.dict (exportedChain runId rows)).finite = true ∧
      legible (.dict (exportedChain runId rows)) = true := by
  have finite : finiteItems (exportedItems runId 0 rows) = true :=
    exportedItems_finite fun row present => (clean row present).1
  have readable : legibleItems (exportedItems runId 0 rows) = true :=
    exportedItems_legible (by omega) fun row present => (clean row present).2
  refine ⟨by simp [exportedChain, Json.finite, finiteMembers, finite],
    (legible_dict_iff _).mpr ⟨exportedChain_distinct runId rows, ?_⟩⟩
  simp [exportedChain, legible, readable, convertible_of_small (short.trans (by decide))]

/-- What a run appended is exported, and the exported chain survives JSON. -/
theorem exported_chain_read (readsBack : ReadsBack platform.parse)
    (found : store.runs.get? runId = some run)
    (holds : Holds platform.sha256 times store runId appended) (some : appended ≠ [])
    (short : appended.length < 2 ^ 63)
    (good : ∀ entry ∈ appended, Exportable platform times entry.2) :
    let chain := exportedChain runId (rowsOf platform.sha256 times runId zeroHash appended)
    ∃ ledger, events platform.sha256 platform.parse store runId = .ok ledger ∧
      exportBridgeEventChain platform ledger runId = .ok chain ∧
      platform.parse (utf8Encode (Json.dict chain).sorted.text) =
        Option.some (.dict (sortMembers (sortedMembers chain))) := by
  intro chain
  obtain ⟨ledger, listed, exported⟩ := export_events readsBack found holds some good
  have clean : ∀ row ∈ rowsOf platform.sha256 times runId zeroHash appended,
      row.envelope.finite = true ∧ legible row.envelope = true := by
    intro row present
    obtain ⟨event, inside, same⟩ := mem_rowsOf present
    rw [same]
    exact ⟨dump_finite (good event inside).finite, dump_legible (good event inside)⟩
  have length := congrArg List.length
    (rowsOf_eventIds platform.sha256 times runId appended zeroHash)
  rw [List.length_map, List.length_map] at length
  obtain ⟨finite, readable⟩ := exportedChain_readable runId (by omega) clean
  exact ⟨ledger, listed, exported, readsBack _ finite readable⟩

/-- What a run appended is exported, written, read and accepted, under its head and length. -/
theorem exported_chain_accepted (readsBack : ReadsBack platform.parse)
    (found : store.runs.get? runId = some run)
    (holds : Holds platform.sha256 times store runId appended) (some : appended ≠ [])
    (short : appended.length < 2 ^ 63)
    (good : ∀ entry ∈ appended, Verifiable platform times head entry.1 entry.2)
    (distinct : (appended.map Prod.fst).Nodup) :
    ∃ ledger chain read verified,
      events platform.sha256 platform.parse store runId = .ok ledger ∧
      exportBridgeEventChain platform ledger runId = .ok chain ∧
      platform.parse (utf8Encode (Json.dict chain).sorted.text) = Option.some (.dict read) ∧
      verifyBridgeEventChain platform head runId read = .ok verified ∧
      field chain "head" = .str verified.head ∧ verified.total = appended.length ∧
      verified.items.map LedgerItem.eventId = appended.map Prod.fst := by
  obtain ⟨ledger, listed, exported, read⟩ := exported_chain_read readsBack found holds some short
    fun entry present => (good entry present).toExportable
  have accepted := verify_exportedChain runId some good distinct
  have rowsIds := rowsOf_eventIds platform.sha256 times runId appended zeroHash
  have length := congrArg List.length rowsIds
  rw [List.length_map, List.length_map] at length
  refine ⟨ledger, _, _, _, listed, exported, read, accepted, rfl, by rw [length], ?_⟩
  rw [List.map_map, ← rowsIds]
  rfl

end Verified

end EgoAgent.Benchmarks
