import EgoAgent.TrustedMemory.Store

/-!
What the history of a lineage says about its stream and its current row.

`fold` is the meaning of a history.  A successful append is a replay or adds one
row; the current row is the fold of the history it leaves.
-/

namespace EgoAgent.TrustedMemory

open EgoAgent.Api

/-! ### Inversion -/

section Inversion

variable (sha256 : Bytes → Digest)

/-- One step of the projection. -/
def foldStep (current : Option CurrentRow) (row : HistoryRow) : Option CurrentRow :=
  match row.record.body with
  | .candidate _ => current
  | .trustedFact fact =>
      some ⟨fact.revisionId, fact.revision, fact.trustedFactDigest, .validated, true,
        row.record.bytes, row.eventHash, row.eventHash⟩
  | body => current.map fun old =>
      { old with
        state := body.projectedState.getD old.state
        eligible := body.projectedState = some .validated
        projectionEventHash := row.eventHash }

def fold (rows : List HistoryRow) : Option CurrentRow := rows.foldl foldStep none

theorem fold_append (rows : List HistoryRow) (row : HistoryRow) :
    fold (rows ++ [row]) = foldStep (fold rows) row := by
  simp [fold]

theorem Append.projection_eq_ok {call : Append} {row : HistoryRow} {current projected :
    Option CurrentRow} (recorded : row.record = call.record)
    (computed : call.projection row current = .ok projected) :
    projected.or current = foldStep current row := by
  unfold projection at computed
  unfold foldStep
  rw [recorded]
  cases body : call.record.body <;> cases current <;>
    simp only [body, raiseIf_bind_eq_ok, reduceCtorEq] at computed ⊢ <;>
    first
      | rw [← Except.ok.inj computed]; rfl
      | rw [← Except.ok.inj computed.2.2]; rfl

/-- What a successful append that is not a replay has done. -/
structure Inserted (call : Append) (tables : Tables) (row : HistoryRow) (later : Tables) : Prop where
  admissible : call.admissible = .ok ()
  recorded : row = call.row sha256 (tables.streams.get? call.key)
  guards : call.guards (tables.current.get? call.key) = .ok ()
  history : later.history = tables.history ++ [row]
  streams : later.streams = tables.streams.set call.key (row.sequence, row.eventHash)
  candidate : call.record.body.isCandidate = true → later.current = tables.current
  keys : tables.current.keys.Nodup → later.current.keys.Nodup
  currentSelf : later.current.get? call.key = foldStep (tables.current.get? call.key) row
  currentOther : ∀ key, key ≠ call.key → later.current.get? key = tables.current.get? key

theorem append_eq_ok {call : Append} {tables later : Tables} {row : HistoryRow}
    (ran : appendTrustedMemoryRecord sha256 call tables = (.ok row, later)) :
    (tables.find call.key call.idempotencyKey = some row ∧
      row.record.bytes = call.record.bytes ∧ later = tables) ∨
    (tables.find call.key call.idempotencyKey = none ∧ Inserted sha256 call tables row later) := by
  unfold appendTrustedMemoryRecord at ran
  obtain ⟨_, admissible, ran⟩ := (Effect.check_bind_eq_ok _ _ _ _ _).mp ran
  have inner := (Effect.transaction_eq_ok _ _ _ _).mp ran
  rw [Effect.read_bind] at inner
  rcases found : tables.find call.key call.idempotencyKey with _ | existing
  · rw [found] at inner
    simp only at inner
    apply Or.inr
    refine ⟨rfl, ?_⟩
    unfold Append.insert at inner
    rw [Effect.read_bind] at inner
    obtain ⟨_, guarded, inner⟩ := (Effect.check_bind_eq_ok _ _ _ _ _).mp inner
    obtain ⟨_, _, inner⟩ := (Effect.check_bind_eq_ok _ _ _ _ _).mp inner
    simp only [Effect.write_bind] at inner
    obtain ⟨projected, computed, inner⟩ := (Effect.check_bind_eq_ok _ _ _ _ _).mp inner
    simp only [Effect.write_bind, Effect.pure_apply, Prod.mk.injEq, Except.ok.injEq] at inner
    obtain ⟨rowEq, laterEq⟩ := inner
    have stepped := Append.projection_eq_ok (by rfl) computed
    subst rowEq
    subst laterEq
    constructor
    · exact admissible
    · rfl
    · exact guarded
    · cases projected <;> rfl
    · cases projected <;> rfl
    · intro candidate
      unfold Append.projection at computed
      cases body : call.record.body with
      | candidate fact =>
          rw [body] at computed
          rw [← Except.ok.inj computed]
          rfl
      | _ => rw [body] at candidate; cases candidate
    · intro distinct
      cases projected with
      | some row => exact Dict.keys_set_nodup _ _ _ distinct
      | none => exact distinct
    · rw [← stepped]
      cases projected with
      | some row => exact Dict.get?_set_self _ _ _
      | none => rfl
    · intro key different
      cases projected with
      | some row => exact Dict.get?_set_ne _ _ different
      | none => rfl
  · rw [found] at inner
    simp only at inner
    apply Or.inl
    by_cases same : existing.record.bytes ≠ call.record.bytes
    · rw [if_pos same] at inner
      cases inner
    · rw [if_neg same] at inner
      simp only [Effect.pure_apply, Prod.mk.injEq, Except.ok.injEq] at inner
      obtain ⟨rfl, rfl⟩ := inner
      exact ⟨rfl, not_not.mp same, rfl⟩

/-- A rejected call changes no table. -/
theorem append_atomic (call : Append) (tables : Tables) :
    Effect.Atomic (appendTrustedMemoryRecord sha256 call) tables := by
  apply Effect.keeps_check_bind
  intro _ _
  exact Effect.atomic_transaction _ _

/-- A call leaves the tables alone or inserts one row. -/
theorem append_cases (call : Append) (tables : Tables) :
    (appendTrustedMemoryRecord sha256 call tables).2 = tables ∨
      ∃ row, Inserted sha256 call tables row (appendTrustedMemoryRecord sha256 call tables).2 := by
  rcases outcome : appendTrustedMemoryRecord sha256 call tables with ⟨error | row, later⟩
  · exact .inl (append_atomic sha256 call tables error later outcome)
  · rcases append_eq_ok sha256 outcome with ⟨_, _, same⟩ | ⟨_, inserted⟩
    · exact .inl same
    · exact .inr ⟨row, inserted⟩

end Inversion

/-! ### Chains and revisions -/

/-- The rows are numbered from `sequence` on and each names the hash before it. -/
def Chained : Nat → String → List HistoryRow → Prop
  | _, _, [] => True
  | sequence, previous, row :: rest =>
      row.sequence = sequence ∧ row.previousHash = previous ∧
        Chained (sequence + 1) row.eventHash rest

/-- The stream row a history asks for. -/
def head (rows : List HistoryRow) : Option (Nat × String) :=
  rows.getLast?.map fun row => (row.sequence, row.eventHash)

def facts (rows : List HistoryRow) : List TrustedFact :=
  rows.filterMap fun row => row.record.body.trusted

theorem head_append (rows : List HistoryRow) (row : HistoryRow) :
    head (rows ++ [row]) = some (row.sequence, row.eventHash) := by
  simp [head]

theorem facts_append (left right : List HistoryRow) :
    facts (left ++ right) = facts left ++ facts right := List.filterMap_append

theorem facts_singleton (row : HistoryRow) : facts [row] = row.record.body.trusted.toList := by
  unfold facts
  rcases found : row.record.body.trusted with _ | fact <;> simp [found]

theorem chained_append (rows : List HistoryRow) (row : HistoryRow) (sequence : Nat)
    (previous : String) :
    Chained sequence previous (rows ++ [row]) ↔
      Chained sequence previous rows ∧ row.sequence = sequence + rows.length ∧
        row.previousHash = ((head rows).map Prod.snd).getD previous := by
  induction rows generalizing sequence previous with
  | nil => simp [Chained, head]
  | cons first rest ih =>
      have last : ((head (first :: rest)).map Prod.snd).getD previous =
          ((head rest).map Prod.snd).getD first.eventHash := by
        cases rest with
        | nil => rfl
        | cons second rest =>
            unfold head
            rw [List.getLast?_cons_cons, List.getLast?_eq_some_getLast (List.cons_ne_nil _ _)]
            rfl
      simp only [List.cons_append, Chained, ih, last, List.length_cons]
      constructor
      · intro ⟨numbered, linked, chained, placed, hashed⟩
        exact ⟨⟨numbered, linked, chained⟩, by omega, hashed⟩
      · intro ⟨⟨numbered, linked, chained⟩, placed, hashed⟩
        exact ⟨numbered, linked, chained, by omega, hashed⟩

section

variable {rows : List HistoryRow}

theorem Chained.head_sequence {sequence last : Nat} {previous root : String}
    (chained : Chained sequence previous rows) (found : head rows = some (last, root)) :
    last + 1 = sequence + rows.length := by
  rcases List.eq_nil_or_concat rows with rfl | ⟨earlier, row, rfl⟩
  · cases found
  · rw [List.concat_eq_append] at chained found ⊢
    rw [head_append] at found
    have placed := ((chained_append earlier row sequence previous).mp chained).2.1
    have same := congrArg Prod.fst (Option.some.inj found)
    simp only at same
    rw [List.length_append, List.length_singleton]
    omega

/-! ### The invariant -/

/-- The current row shows a fact that was appended by `row`; `after` are the later rows. -/
structure Shows (fact : TrustedFact) (row : HistoryRow) (after : List HistoryRow)
    (current : CurrentRow) : Prop where
  appended : row.record.body = .trustedFact fact
  last : facts after = []
  factBytes : current.factBytes = row.record.bytes
  factEventHash : current.factEventHash = row.eventHash
  revision : current.revision = fact.revision
  revisionId : current.revisionId = fact.revisionId
  factDigest : current.factDigest = fact.trustedFactDigest
  eligible : current.eligible = true ↔ ∀ later ∈ after, later.record.body.isCandidate = true
  state : current.state ≠ .candidate

/-- What the arguments of an appended record were checked for. -/
structure Admitted (key : Key) (row : HistoryRow) : Prop where
  tenant : row.record.body.scope.tenantId = key.tenantId
  project : row.record.body.scope.projectId = key.projectId
  lineage : row.record.body.namesLineage key.lineageId = true
  keyed : row.idempotencyKey ≠ ""

/-- The relation of one lineage's history, stream row and current row. -/
structure Sound (key : Key) (rows : List HistoryRow) (stream : Option (Nat × String))
    (current : Option CurrentRow) : Prop where
  folded : current = fold rows
  chained : Chained 1 zeroHash rows
  stream : stream = head rows
  revisions : (facts rows).map TrustedFact.revision = List.range' 1 (facts rows).length
  absent : current = none ↔ facts rows = []
  present : ∀ shown, current = some shown → ∃ before row after fact,
    rows = before ++ row :: after ∧ Shows fact row after shown
  admitted : ∀ row ∈ rows, Admitted key row

theorem sound_empty (key : Key) : Sound key [] none none where
  folded := rfl
  chained := trivial
  stream := rfl
  revisions := rfl
  absent := by simp [facts]
  present := by intro shown impossible; cases impossible
  admitted := by intro row member; cases member

/-- The revision a current row shows counts the trusted facts. -/
theorem Sound.revision {key : Key} {stream : Option (Nat × String)}
    {current : CurrentRow} (sound : Sound key rows stream (some current)) :
    current.revision = (facts rows).length := by
  obtain ⟨before, row, after, fact, split, shows⟩ := sound.present current rfl
  have listed : facts rows = facts before ++ [fact] := by
    have appended : row.record.body.trusted = some fact := by rw [shows.appended]; rfl
    rw [split, ← List.singleton_append, facts_append, facts_append, shows.last, List.append_nil,
      facts_singleton, appended]
    rfl
  have revisions := sound.revisions
  rw [listed, List.map_append, List.length_append, List.length_singleton, List.range'_1_concat]
    at revisions
  have last := (List.append_inj' revisions rfl).2
  simp only [List.map_cons, List.map_nil, List.cons.injEq, and_true] at last
  rw [listed, List.length_append, List.length_singleton, shows.revision]
  omega

theorem Append.admitted {call : Append} (admissible : call.admissible = .ok ()) {row : HistoryRow}
    (record : row.record = call.record) (keyed : row.idempotencyKey = call.idempotencyKey) :
    Admitted call.key row := by
  unfold Append.admissible at admissible
  obtain ⟨matching, admissible⟩ := (raiseIf_bind_eq_ok _ _ _ _).mp admissible
  obtain ⟨named, _⟩ := (raiseIf_bind_eq_ok _ _ _ _).mp admissible
  simp only [not_or, not_not, Bool.not_eq_false] at matching
  constructor
  · rw [record]; exact matching.1
  · rw [record]; exact matching.2.1
  · rw [record]; exact matching.2.2
  · rw [keyed]; exact named

/-- The placement of a new row. -/
theorem Append.row_chained (sha256 : Bytes → Digest) (call : Append)
    (chained : Chained 1 zeroHash rows) :
    Chained 1 zeroHash (rows ++ [call.row sha256 (head rows)]) := by
  apply (chained_append rows _ 1 zeroHash).mpr
  rcases found : head rows with _ | ⟨last, root⟩
  · have nothing : rows = [] := by
      rw [head, Option.map_eq_none_iff, List.getLast?_eq_none_iff] at found
      exact found
    rw [nothing]
    exact ⟨trivial, rfl, rfl⟩
  · have placed := chained.head_sequence found
    refine ⟨chained, ?_, rfl⟩
    change last + 1 = 1 + rows.length
    exact placed

/-- A record other than a candidate and a trusted fact leaves a current row that is
not eligible. -/
theorem Append.guards_demoting {call : Append} {shown : CurrentRow}
    (guarded : call.guards (some shown) = .ok ()) (shownState : shown.state ≠ .candidate)
    (notCandidate : call.record.body.isCandidate = false)
    (notTrusted : call.record.body.trusted = none) :
    ∃ state, call.record.body.projectedState = some state ∧ state ≠ .validated ∧
      state ≠ .candidate := by
  cases body : call.record.body with
  | candidate fact => rw [body] at notCandidate; cases notCandidate
  | trustedFact fact => rw [body] at notTrusted; cases notTrusted
  | conflict record => exact ⟨.conflicted, rfl, by decide, by decide⟩
  | supersession record => exact ⟨.superseded, rfl, by decide, by decide⟩
  | revocation record => exact ⟨.revoked, rfl, by decide, by decide⟩
  | lifecycle transition =>
      -- A transition into VALIDATED starts from CANDIDATE, which no current row is in.
      refine ⟨transition.toState, rfl, ?_⟩
      unfold guards at guarded
      rw [body] at guarded
      obtain ⟨_, matched⟩ := (raiseIf_bind_eq_ok _ _ _ _).mp guarded
      have holds := (raiseIf_eq_ok _ _ _).mp matched
      simp only [RecordBody.matches, Bool.not_eq_false, decide_eq_true_eq] at holds
      have allowed := transition.allowed
      rw [← holds.2.2] at shownState
      revert allowed shownState
      generalize transition.fromState = fromState
      generalize transition.toState = toState
      intro notFrom allowed
      cases fromState <;> cases toState <;> simp_all [MemoryState.Allowed]

/-! ### One more row -/

variable {current : Option CurrentRow}

theorem foldStep_candidate {row : HistoryRow}
    (candidate : row.record.body.isCandidate = true) : foldStep current row = current := by
  unfold foldStep
  cases body : row.record.body with
  | candidate fact => rfl
  | _ => rw [body] at candidate; cases candidate

theorem RecordBody.trusted_of_candidate {body : RecordBody} (candidate : body.isCandidate = true) :
    body.trusted = none := by
  cases body with
  | candidate fact => rfl
  | _ => cases candidate

variable {fact : TrustedFact}

theorem RecordBody.eq_trustedFact {body : RecordBody}
    (trusted : body.trusted = some fact) : body = .trustedFact fact := by
  cases body with
  | trustedFact other => exact congrArg _ (Option.some.inj trusted)
  | _ => cases trusted

theorem foldStep_trusted {row : HistoryRow} (trusted : row.record.body = .trustedFact fact) :
    foldStep current row = some ⟨fact.revisionId, fact.revision, fact.trustedFactDigest, .validated,
      true, row.record.bytes, row.eventHash, row.eventHash⟩ := by
  unfold foldStep
  rw [trusted]

theorem foldStep_demoting {row : HistoryRow} {shown : CurrentRow} {state : MemoryState}
    (notTrusted : row.record.body.trusted = none)
    (projected : row.record.body.projectedState = some state) (other : state ≠ .validated) :
    foldStep (some shown) row = some { shown with
      state := state, eligible := false, projectionEventHash := row.eventHash } := by
  unfold foldStep
  cases body : row.record.body with
  | candidate fact => rw [body] at projected; cases projected
  | trustedFact fact => rw [body] at notTrusted; cases notTrusted
  | _ =>
      rw [body] at projected
      have differs : ¬ (some state = some MemoryState.validated) := by
        intro same
        exact other (Option.some.inj same)
      simp only [Option.map_some, projected, Option.getD_some, differs, decide_false]

/-- A candidate is appended and changes nothing else. -/
theorem Shows.append_candidate {row later : HistoryRow}
    {after : List HistoryRow} {current : CurrentRow} (shows : Shows fact row after current)
    (candidate : later.record.body.isCandidate = true) :
    Shows fact row (after ++ [later]) current := by
  refine { shows with last := ?_, eligible := ?_ }
  · rw [facts_append, facts_singleton, shows.last, RecordBody.trusted_of_candidate candidate]
    rfl
  · rw [shows.eligible]
    constructor
    · intro all entry member
      rcases List.mem_append.mp member with old | new
      · exact all entry old
      · rw [List.mem_singleton.mp new]; exact candidate
    · intro all entry member
      exact all entry (List.mem_append_left _ member)

/-- A record of another kind takes the fact's eligibility away. -/
theorem Shows.append_demoting {row later : HistoryRow}
    {after : List HistoryRow} {current : CurrentRow} {state : MemoryState}
    (shows : Shows fact row after current) (notCandidate : later.record.body.isCandidate = false)
    (notTrusted : later.record.body.trusted = none) (other : state ≠ .candidate) :
    Shows fact row (after ++ [later]) { current with
      state := state, eligible := false, projectionEventHash := later.eventHash } := by
  refine { shows with last := ?_, eligible := ?_, state := other }
  · rw [facts_append, facts_singleton, shows.last, notTrusted]
    rfl
  · constructor
    · intro impossible; cases impossible
    · intro all
      have candidate := all later (List.mem_append_right _ (List.mem_singleton_self later))
      rw [notCandidate] at candidate
      cases candidate

theorem Append.guards_trusted {call : Append}
    (guarded : call.guards current = .ok ()) (trusted : call.record.body = .trustedFact fact) :
    fact.revision = (current.map CurrentRow.revision).getD 0 + 1 := by
  unfold guards at guarded
  rw [trusted] at guarded
  cases current with
  | none =>
      have passed := (raiseIf_eq_ok _ _ _).mp guarded
      exact not_not.mp (not_or.mp passed).2
  | some shown =>
      have passed := (raiseIf_eq_ok _ _ _).mp guarded
      exact not_not.mp (not_or.mp passed).2

theorem Append.guards_current {call : Append} (guarded : call.guards none = .ok ())
    (notCandidate : call.record.body.isCandidate = false) :
    ∃ fact, call.record.body = .trustedFact fact := by
  unfold guards at guarded
  cases body : call.record.body with
  | candidate fact => rw [body] at notCandidate; cases notCandidate
  | trustedFact fact => exact ⟨fact, rfl⟩
  | _ => rw [body] at guarded; cases guarded

/-- The invariant is kept by an append that is not a replay. -/
theorem Sound.append (sha256 : Bytes → Digest) {call : Append} {stream : Option (Nat × String)}
    (sound : Sound call.key rows stream current) (admissible : call.admissible = .ok ())
    (guarded : call.guards current = .ok ()) :
    Sound call.key (rows ++ [call.row sha256 stream])
      (some ((call.row sha256 stream).sequence, (call.row sha256 stream).eventHash))
      (foldStep current (call.row sha256 stream)) := by
  have record : (call.row sha256 stream).record = call.record := rfl
  have admittedRow : Admitted call.key (call.row sha256 stream) :=
    Append.admitted admissible record rfl
  have chained : Chained 1 zeroHash (rows ++ [call.row sha256 stream]) := by
    rw [sound.stream]
    exact call.row_chained sha256 sound.chained
  have folded : foldStep current (call.row sha256 stream) =
      fold (rows ++ [call.row sha256 stream]) := by
    rw [fold_append, sound.folded]
  generalize call.row sha256 stream = row at record admittedRow chained folded ⊢
  have admitted : ∀ entry ∈ rows ++ [row], Admitted call.key entry := by
    intro entry member
    rcases List.mem_append.mp member with old | new
    · exact sound.admitted entry old
    · rw [List.mem_singleton.mp new]; exact admittedRow
  rcases trusted : call.record.body.trusted with _ | fact
  · have listed : facts (rows ++ [row]) = facts rows := by
      rw [facts_append, facts_singleton, record, trusted]
      exact List.append_nil _
    have revisions := sound.revisions
    rw [← listed] at revisions
    by_cases candidate : call.record.body.isCandidate = true
    · rw [foldStep_candidate (by rw [record]; exact candidate)] at folded ⊢
      constructor
      · exact folded
      · exact chained
      · exact (head_append rows row).symm
      · exact revisions
      · rw [listed]; exact sound.absent
      · intro shown showing
        obtain ⟨before, origin, after, fact, split, shows⟩ := sound.present shown showing
        refine ⟨before, origin, after ++ [row], fact, ?_, shows.append_candidate ?_⟩
        · rw [split, List.append_assoc, List.cons_append]
        · rw [record]; exact candidate
      · exact admitted
    · have notCandidate := Bool.eq_false_iff.mpr candidate
      rcases current with _ | shown
      · obtain ⟨fact, impossible⟩ := Append.guards_current guarded notCandidate
        rw [impossible] at trusted
        cases trusted
      · obtain ⟨before, origin, after, fact, split, shows⟩ := sound.present shown rfl
        obtain ⟨state, projected, notValidated, other⟩ :=
          Append.guards_demoting guarded shows.state notCandidate trusted
        rw [← record] at notCandidate trusted projected
        rw [foldStep_demoting trusted projected notValidated] at folded ⊢
        constructor
        · exact folded
        · exact chained
        · exact (head_append rows row).symm
        · exact revisions
        · rw [listed, ← sound.absent]
          constructor <;> intro impossible <;> cases impossible
        · intro later showing
          rw [← Option.some.inj showing]
          refine ⟨before, origin, after ++ [row], fact, ?_,
            shows.append_demoting notCandidate trusted other⟩
          rw [split, List.append_assoc, List.cons_append]
        · exact admitted
  · have body := RecordBody.eq_trustedFact trusted
    have listed : facts (rows ++ [row]) = facts rows ++ [fact] := by
      rw [facts_append, facts_singleton, record, trusted]
      rfl
    have counted : fact.revision = (facts rows).length + 1 := by
      have next := Append.guards_trusted guarded body
      rcases current with _ | shown
      · rw [sound.absent.mp rfl]
        exact next
      · rw [← sound.revision]
        exact next
    rw [foldStep_trusted (by rw [record]; exact body)] at folded ⊢
    constructor
    · exact folded
    · exact chained
    · exact (head_append rows row).symm
    · rw [listed, List.map_append, sound.revisions, List.length_append, List.length_singleton,
        List.range'_1_concat, List.map_singleton, counted, Nat.add_comm 1]
    · rw [listed]
      simp
    · intro shown showing
      rw [← Option.some.inj showing]
      refine ⟨rows, row, [], fact, rfl, ?_⟩
      constructor
      · rw [record]; exact body
      · rfl
      · rfl
      · rfl
      · rfl
      · rfl
      · rfl
      · constructor
        · intro _ later impossible
          cases impossible
        · intro _
          rfl
      · intro impossible
        cases impossible
    · exact admitted

end

end EgoAgent.TrustedMemory
