import EgoAgent.TrustedMemory.Focus
import EgoAgent.TrustedMemory.Projection

/-!
The facts a reader sees, from the history and from the current rows.

`live` is the fact a history leaves eligible.  After every run an eligible current
row serves exactly the live fact of its lineage.
-/

namespace EgoAgent.TrustedMemory

open EgoAgent.Api

/-! ### Live facts -/

def liveStep (found : Option (TrustedFact × String)) (row : HistoryRow) :
    Option (TrustedFact × String) :=
  match row.record.body with
  | .candidate _ => found
  | .trustedFact fact => some (fact, row.eventHash)
  | _ => none

/-- The last trusted fact with its event hash, when only candidates follow it. -/
def live (rows : List HistoryRow) : Option (TrustedFact × String) := rows.foldl liveStep none

theorem live_append (rows : List HistoryRow) (row : HistoryRow) :
    live (rows ++ [row]) = liveStep (live rows) row := by
  simp [live]

section

variable {found : Option (TrustedFact × String)}

variable {row : HistoryRow}

theorem liveStep_demoting (notCandidate : row.record.body.isCandidate = false)
    (notTrusted : row.record.body.trusted = none) : liveStep found row = none := by
  unfold liveStep
  cases body : row.record.body with
  | candidate fact => rw [body] at notCandidate; cases notCandidate
  | trustedFact fact => rw [body] at notTrusted; cases notTrusted
  | _ => rfl

theorem liveStep_candidate
    (candidate : row.record.body.isCandidate = true) : liveStep found row = found := by
  unfold liveStep
  cases body : row.record.body with
  | candidate fact => rfl
  | _ => rw [body] at candidate; cases candidate

theorem liveStep_trusted {fact : TrustedFact} (trusted : row.record.body = .trustedFact fact) :
    liveStep found row = some (fact, row.eventHash) := by
  unfold liveStep
  rw [trusted]

end

/-! ### Rows that serve them -/

variable (readFact : Bytes → Option TrustedFact)

structure Serves (key : Key) (shown : CurrentRow) (fact : TrustedFact) (hash : String) : Prop where
  read : readFact shown.factBytes = some fact
  projected : ProjectionMatches key shown fact
  hash : shown.projectionEventHash = hash

/-- The current row of a lineage serves its live fact, or nothing. -/
def ServesLive (key : Key) (rows : List HistoryRow) (current : Option CurrentRow) : Prop :=
  match live rows with
  | some (fact, hash) => ∃ shown, current = some shown ∧ Serves readFact key shown fact hash
  | none => ∀ shown, current = some shown → shown.eligible = false

/-- Reading the canonical bytes of a trusted fact gives the fact. -/
def ReadsBack (call : Append) : Prop :=
  ∀ fact, call.record.body = .trustedFact fact → readFact call.record.bytes = some fact

variable {readFact}

theorem ServesLive.append {key : Key} {rows : List HistoryRow} {stream : Option (Nat × String)}
    {current : Option CurrentRow} {call : Append} {row : HistoryRow}
    (sound : Sound key rows stream current) (serves : ServesLive readFact key rows current)
    (readsBack : ReadsBack readFact call) (admitted : Admitted key row)
    (guarded : call.guards current = .ok ()) (record : row.record = call.record) :
    ServesLive readFact key (rows ++ [row]) (foldStep current row) := by
  unfold ServesLive
  rw [live_append]
  rcases trusted : row.record.body.trusted with _ | fact
  · by_cases candidate : row.record.body.isCandidate = true
    · rw [liveStep_candidate candidate, foldStep_candidate candidate]
      exact serves
    · have notCandidate := Bool.eq_false_iff.mpr candidate
      rw [liveStep_demoting notCandidate trusted]
      rw [record] at notCandidate
      rcases current with _ | shown
      · obtain ⟨fact, impossible⟩ := Append.guards_current guarded notCandidate
        rw [record, impossible] at trusted
        cases trusted
      · obtain ⟨_, _, _, _, _, shows⟩ := sound.present shown rfl
        obtain ⟨state, projected, notValidated, _⟩ :=
          Append.guards_demoting guarded shows.state notCandidate (by rw [← record]; exact trusted)
        rw [foldStep_demoting trusted (by rw [record]; exact projected) notValidated]
        intro later showing
        rw [← Option.some.inj showing]
  · have body := RecordBody.eq_trustedFact trusted
    have tenant := admitted.tenant
    have project := admitted.project
    have lineage := admitted.lineage
    rw [body] at tenant project lineage
    rw [liveStep_trusted body, foldStep_trusted body]
    refine ⟨_, rfl, ?_, ?_, rfl⟩
    · rw [record]
      exact readsBack fact (by rw [← record]; exact body)
    · exact ⟨tenant.symm, project.symm, (of_decide_eq_true lineage).symm, rfl, rfl, rfl, rfl, rfl⟩

/-! ### Runs -/

variable (readFact) in
/-- What a reader relies on. -/
structure Readable (tables : Tables) : Prop where
  keys : tables.current.keys.Nodup
  serves : ∀ key, ServesLive readFact key (tables.rows key) (tables.current.get? key)

/-- The row that serves a live fact. -/
theorem Readable.served {tables : Tables} (readable : Readable readFact tables) {key : Key}
    {fact : TrustedFact} {hash : String} (isLive : live (tables.rows key) = some (fact, hash)) :
    ∃ shown, tables.current.get? key = some shown ∧ Serves readFact key shown fact hash := by
  have serves := readable.serves key
  unfold ServesLive at serves
  rw [isLive] at serves
  exact serves

theorem runAll_readable (sha256 : Bytes → Digest) (calls : List Append)
    (readsBack : ∀ call ∈ calls, ReadsBack readFact call) :
    Readable readFact (runAll sha256 calls) := by
  apply (@runAll_induction sha256 (ReadsBack readFact) (Readable readFact)
    _ _ calls readsBack).2
  · constructor
    · exact List.nodup_nil
    · intro key shown impossible
      cases impossible
  · intro call tables row later good faithful inserted readable
    constructor
    · exact inserted.keys readable.keys
    · intro key
      by_cases same : key = call.key
      · subst same
        rw [inserted.rows_self, inserted.currentSelf]
        apply ServesLive.append (faithful call.key) (readable.serves call.key) good _
          inserted.guards
        · rw [inserted.recorded]
          rfl
        · rw [inserted.recorded]
          exact Append.admitted inserted.admissible rfl rfl
      · rw [inserted.rows_other same, inserted.currentOther key same]
        exact readable.serves key

end EgoAgent.TrustedMemory
