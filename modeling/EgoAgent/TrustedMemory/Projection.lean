import EgoAgent.TrustedMemory.Lineage

/-!
Current trusted memory is the fold of its history, over whole runs.

A run is any list of calls, rejected calls and replays included.  Every lineage
of the tables it leaves is sound, and so is whatever the next call does.
-/

namespace EgoAgent.TrustedMemory

open EgoAgent.Api

variable (sha256 : Bytes → Digest)

/-! ### Runs -/

/-- The history of one lineage. -/
def Tables.rows (tables : Tables) (key : Key) : List HistoryRow :=
  tables.history.filter fun row => row.key = key

/-- The tables after a list of calls, whatever each of them returned. -/
def runAll (calls : List Append) : Tables :=
  calls.foldl (fun tables call => (appendTrustedMemoryRecord sha256 call tables).2) Tables.empty

theorem runAll_append (calls : List Append) (call : Append) :
    runAll sha256 (calls ++ [call]) =
      (appendTrustedMemoryRecord sha256 call (runAll sha256 calls)).2 := by
  simp [runAll]

def Tables.Faithful (tables : Tables) : Prop :=
  ∀ key, Sound key (tables.rows key) (tables.streams.get? key) (tables.current.get? key)

variable {sha256}

theorem Inserted.key {call : Append} {tables later : Tables} {row : HistoryRow}
    (inserted : Inserted sha256 call tables row later) : row.key = call.key := by
  rw [inserted.recorded]
  rfl

theorem Inserted.rows_self {call : Append} {tables later : Tables} {row : HistoryRow}
    (inserted : Inserted sha256 call tables row later) :
    later.rows call.key = tables.rows call.key ++ [row] := by
  unfold Tables.rows
  rw [inserted.history, List.filter_append, List.filter_singleton, inserted.key]
  simp

theorem Inserted.rows_other {call : Append} {tables later : Tables} {row : HistoryRow} {key : Key}
    (inserted : Inserted sha256 call tables row later) (other : key ≠ call.key) :
    later.rows key = tables.rows key := by
  have different : ¬ row.key = key := by
    rw [inserted.key]
    exact Ne.symm other
  unfold Tables.rows
  rw [inserted.history, List.filter_append, List.filter_singleton]
  simp [different]

theorem Inserted.faithful {call : Append} {tables later : Tables} {row : HistoryRow}
    (inserted : Inserted sha256 call tables row later) (faithful : tables.Faithful) :
    later.Faithful := by
  intro key
  by_cases same : key = call.key
  · subst same
    have next := (faithful call.key).append sha256 inserted.admissible inserted.guards
    rw [← inserted.recorded] at next
    rw [inserted.rows_self, inserted.streams, Dict.get?_set_self, inserted.currentSelf]
    exact next
  · rw [inserted.rows_other same, inserted.streams, Dict.get?_set_ne _ _ same,
      inserted.currentOther key same]
    exact faithful key

variable (sha256)

/-- An invariant of the tables that every inserted row keeps holds of every run. -/
theorem runAll_induction (good : Append → Prop) {invariant : Tables → Prop}
    (initial : invariant Tables.empty)
    (kept : ∀ call tables row later, good call → tables.Faithful →
      Inserted sha256 call tables row later → invariant tables → invariant later)
    (calls : List Append) (allGood : ∀ call ∈ calls, good call) :
    (runAll sha256 calls).Faithful ∧ invariant (runAll sha256 calls) := by
  have step : ∀ (calls : List Append) (tables : Tables), (∀ call ∈ calls, good call) →
      tables.Faithful → invariant tables →
      (calls.foldl (fun tables call => (appendTrustedMemoryRecord sha256 call tables).2)
        tables).Faithful ∧
      invariant (calls.foldl
        (fun tables call => (appendTrustedMemoryRecord sha256 call tables).2) tables) := by
    intro calls
    induction calls with
    | nil =>
        intro tables _ faithful holds
        exact ⟨faithful, holds⟩
    | cons call rest ih =>
        intro tables allGood faithful holds
        have restGood := fun other member => allGood other (List.mem_cons_of_mem call member)
        rw [List.foldl_cons]
        rcases append_cases sha256 call tables with same | ⟨row, inserted⟩
        · rw [same]
          exact ih tables restGood faithful holds
        · exact ih _ restGood (inserted.faithful faithful)
            (kept call tables row _ (allGood call List.mem_cons_self) faithful inserted holds)
  apply step calls Tables.empty allGood _ initial
  intro key
  exact sound_empty key

theorem runAll_faithful (calls : List Append) : (runAll sha256 calls).Faithful :=
  (@runAll_induction sha256 (fun _ => True) (fun _ => True) trivial
    (fun _ _ _ _ _ _ _ _ => trivial) calls (fun _ _ => trivial)).1

/-! ### Steps -/

/-- What the next call does to the tables of a run. -/
structure Tables.Steady (tables : Tables) : Prop where
  candidate : ∀ call : Append, call.record.body.isCandidate = true →
    (appendTrustedMemoryRecord sha256 call tables).2.current = tables.current
  replayKeeps : ∀ (call : Append) (existing : HistoryRow),
    tables.find call.key call.idempotencyKey = some existing →
    (appendTrustedMemoryRecord sha256 call tables).2 = tables
  replayReturns : ∀ (call : Append) (existing : HistoryRow),
    tables.find call.key call.idempotencyKey = some existing →
    existing.record.body = call.record.body → existing.record.bytes = call.record.bytes →
    ¬ (call.record.body.isCandidate = true ∧ call.expectedCurrentEventHash ≠ none) →
    (appendTrustedMemoryRecord sha256 call tables).1 = .ok existing
  rejected : ∀ (call : Append) (error : MemoryError),
    (appendTrustedMemoryRecord sha256 call tables).1 = .error error →
    (appendTrustedMemoryRecord sha256 call tables).2 = tables

theorem find_spec {tables : Tables} {key : Key} {idempotencyKey : String} {existing : HistoryRow}
    (found : tables.find key idempotencyKey = some existing) :
    existing ∈ tables.rows key ∧ existing.idempotencyKey = idempotencyKey := by
  have holds := List.find?_some found
  simp only [decide_eq_true_eq] at holds
  refine ⟨List.mem_filter.mpr ⟨List.mem_of_find?_eq_some found, ?_⟩, holds.2⟩
  exact decide_eq_true holds.1

theorem Admitted.admissible {call : Append} {existing : HistoryRow}
    (admitted : Admitted call.key existing) (keyed : existing.idempotencyKey = call.idempotencyKey)
    (body : existing.record.body = call.record.body)
    (unguarded : ¬ (call.record.body.isCandidate = true ∧ call.expectedCurrentEventHash ≠ none)) :
    call.admissible = .ok () := by
  have tenant := admitted.tenant
  have project := admitted.project
  have lineage := admitted.lineage
  have named := admitted.keyed
  rw [body] at tenant project lineage
  rw [keyed] at named
  unfold Append.admissible
  apply (raiseIf_bind_eq_ok _ _ _ _).mpr
  refine ⟨?_, (raiseIf_bind_eq_ok _ _ _ _).mpr ⟨named, (raiseIf_eq_ok _ _ _).mpr unguarded⟩⟩
  simp [tenant, project, lineage]

theorem append_of_found {call : Append} {tables : Tables} {existing : HistoryRow}
    (admissible : call.admissible = .ok ())
    (found : tables.find call.key call.idempotencyKey = some existing)
    (bytes : existing.record.bytes = call.record.bytes) :
    appendTrustedMemoryRecord sha256 call tables = (.ok existing, tables) := by
  unfold appendTrustedMemoryRecord
  rw [admissible, Effect.check_ok_bind]
  apply (Effect.transaction_eq_ok _ _ _ _).mpr
  rw [Effect.read_bind, found]
  exact congrFun (if_neg (not_not.mpr bytes)) tables

theorem Tables.Faithful.steady {tables : Tables} (faithful : tables.Faithful) :
    tables.Steady sha256 where
  candidate := by
    intro call candidate
    rcases outcome : appendTrustedMemoryRecord sha256 call tables with ⟨error | row, later⟩
    · have same := append_atomic sha256 call tables error later outcome
      exact congrArg Tables.current same
    · rcases append_eq_ok sha256 outcome with ⟨_, _, same⟩ | ⟨_, inserted⟩
      · exact congrArg Tables.current same
      · exact inserted.candidate candidate
  replayKeeps := by
    intro call existing found
    rcases outcome : appendTrustedMemoryRecord sha256 call tables with ⟨error | row, later⟩
    · exact append_atomic sha256 call tables error later outcome
    · rcases append_eq_ok sha256 outcome with ⟨_, _, same⟩ | ⟨missing, _⟩
      · exact same
      · rw [found] at missing
        cases missing
  replayReturns := by
    intro call existing found body bytes unguarded
    have ⟨member, keyed⟩ := find_spec found
    have admissible := ((faithful call.key).admitted existing member).admissible keyed body
      unguarded
    rw [append_of_found sha256 admissible found bytes]
  rejected := by
    intro call error raised
    rcases outcome : appendTrustedMemoryRecord sha256 call tables with ⟨failure | row, later⟩
    · exact append_atomic sha256 call tables failure later outcome
    · rw [outcome] at raised
      cases raised

/-- After every run each lineage's current row is the fold of its history, and
the next call keeps candidates, replays and rejected calls from changing it. -/
theorem current_is_fold_of_history (calls : List Append) :
    (runAll sha256 calls).Faithful ∧ (runAll sha256 calls).Steady sha256 := by
  have faithful := runAll_faithful sha256 calls
  exact ⟨faithful, faithful.steady sha256⟩

namespace Sample

/-- A polynomial over the bytes. -/
def rolling (bytes : Bytes) : Digest :=
  BitVec.ofNat 256 (bytes.foldl (fun sum byte => sum * 257 + byte.toNat + 1) 0)

def scope : Scope :=
  ⟨"tenant-1", "project-1", "component-1", "v1", by decide, by decide, by decide, by decide⟩

def lineage : Key := ⟨"tenant-1", "project-1", "lineage-1"⟩

def proposal : Record :=
  ⟨.candidate ⟨scope, "lineage-1"⟩, .dict [("lineage_id", .str "lineage-1"), ("state", .str "CANDIDATE")]⟩

def propose (expected : Option String) : Append := ⟨lineage, proposal, "key-1", expected⟩

/-- The checks of the arguments come before the lookup of the key: a candidate
replayed with an expected hash is refused. -/
theorem replayed_candidate_with_expected_hash_refused :
    (runAll rolling [propose none]).find lineage "key-1" =
        some ((propose none).row rolling none) ∧
      ((propose none).row rolling none).record.bytes = (propose (some zeroHash)).record.bytes ∧
      (appendTrustedMemoryRecord rolling (propose (some zeroHash))
          (runAll rolling [propose none])).1 =
        .error (.conflict "trusted_memory_candidate_promotion"
          "A candidate cannot update the trusted current projection") := by
  refine ⟨rfl, rfl, rfl⟩

end Sample

end EgoAgent.TrustedMemory
