import EgoAgent.Lib.KeySort
import EgoAgent.TrustedMemory.LifecycleOrder
import EgoAgent.TrustedMemory.LiveFacts

/-!
Which queries the focus service answers, and that its answers are exact.

The scanned lineages are a prefix of the sorted lineages with a live fact.  A query
is answered exactly when every fact it asks for fits the narrower contract and no
two of them have one digest.
-/

namespace EgoAgent.TrustedMemory

open EgoAgent.Api

/-! ### Validators that always pass -/

section Validators

variable (sha256 : Bytes → Digest)

theorem sortedTexts_of_sorted {items : List String} (sorted : items.Pairwise (· < ·)) :
    sortedTexts items = items := by
  apply List.mergeSort_of_pairwise
  exact sorted.imp fun less => decide_eq_true less.le

theorem buildFocusEvidenceCommitment_signed (provenance : FactProvenance) :
    (buildFocusEvidenceCommitment sha256 provenance).commitmentSha256 =
      (buildFocusEvidenceCommitment sha256 provenance).digest sha256 := by
  dsimp only [buildFocusEvidenceCommitment, FocusEvidenceCommitment.digest,
    FocusEvidenceCommitment.core]

theorem buildFocusEvidenceCommitment_valid (provenance : FactProvenance) :
    (buildFocusEvidenceCommitment sha256 provenance).Valid sha256 := by
  have ids := sortedTexts_of_sorted provenance.idsSorted
  have digests := sortedTexts_of_sorted provenance.digestsSorted
  have some : provenance.evidenceDigests ≠ [] := by
    intro nothing
    have aligned := provenance.aligned
    rw [nothing] at aligned
    exact provenance.nonempty (List.eq_nil_of_length_eq_zero aligned)
  refine ⟨?_, ?_, ?_, ?_, ?_, ?_, buildFocusEvidenceCommitment_signed sha256 provenance⟩ <;>
    simp only [buildFocusEvidenceCommitment, ids, digests]
  · exact provenance.nonempty
  · exact some
  · exact provenance.idsBounded
  · exact provenance.idsSorted
  · exact provenance.digestsSorted
  · exact provenance.aligned

/-- The narrower contract of a focus fact. -/
abbrev TrustedFocusFact.Fits (fact : TrustedFocusFact) : Prop :=
  fact.factKind.length ≤ 160 ∧ fact.statement.length ≤ 4096 ∧
    Char.ofNat 0 ∉ fact.statement.toList

theorem focusFact_valid_iff (fact : TrustedFact) (hash : String) :
    (focusFact sha256 fact hash).Valid sha256 ↔ (focusFact sha256 fact hash).Fits := by
  constructor
  · intro ⟨_, _, _, _, _, kind, statement, _, _, _, noNul, _⟩
    exact ⟨kind.2, statement.2, noNul⟩
  · intro ⟨kind, statement, noNul⟩
    exact ⟨fact.scope.tenantBounded, fact.scope.projectBounded, fact.lineageBounded,
      fact.revisionIdBounded, fact.revisionPositive, ⟨fact.core.kindNonempty, kind⟩,
      ⟨fact.core.statementNonempty, statement⟩, fact.scope.componentBounded,
      fact.scope.versionBounded, fact.trustedOrigin, noNul,
      buildFocusEvidenceCommitment_valid sha256 fact.provenance⟩

end Validators

/-! ### The order of a source -/

theorem TrustedFocusFact.precedes_iff {first second : TrustedFocusFact} :
    first.precedes second = true ↔
      toLex (first.factSha256, first.lineageId) ≤ toLex (second.factSha256, second.lineageId) := by
  rw [Prod.Lex.toLex_le_toLex]
  exact decide_eq_true_iff

theorem sorted_precedes (facts : List TrustedFocusFact) :
    (facts.mergeSort TrustedFocusFact.precedes).Pairwise
      fun left right => left.precedes right = true := by
  apply List.pairwise_mergeSort
  · intro first second third before after
    rw [TrustedFocusFact.precedes_iff] at before after ⊢
    exact le_trans before after
  · intro first second
    rw [Bool.or_eq_true, TrustedFocusFact.precedes_iff, TrustedFocusFact.precedes_iff]
    exact le_total _ _

/-! ### What the history says -/

section Exact

variable (sha256 : Bytes → Digest)

/-- The live fact of a lineage, when the query asks for it. -/
def wanted (tables : Tables) (query : FocusMemoryQuery) (lineage : String) :
    Option TrustedFocusFact :=
  match live (tables.rows ⟨query.tenantId, query.projectId, lineage⟩) with
  | some (fact, hash) =>
      if query.Asks fact.outcome fact.origin then some (focusFact sha256 fact hash) else none
  | none => none

/-- The lineages of the query's project with a live fact, in order. -/
structure LiveLineages (tables : Tables) (query : FocusMemoryQuery) (lineages : List String) :
    Prop where
  sorted : lineages.Pairwise (· < ·)
  complete : ∀ lineage, lineage ∈ lineages ↔
    (live (tables.rows ⟨query.tenantId, query.projectId, lineage⟩)).isSome = true

/-- The facts asked for among the first `scan_limit` lineages. -/
def scanned (tables : Tables) (query : FocusMemoryQuery) (lineages : List String) :
    List TrustedFocusFact :=
  (lineages.take query.scanLimit).filterMap (wanted sha256 tables query)

/-- A source holds the first facts of the scan and says what it left out. -/
def ExactSource (tables : Tables) (query : FocusMemoryQuery) (lineages : List String)
    (source : TrustedMemoryFocusSource) : Prop :=
  ∃ ordered : List TrustedFocusFact, ordered.Perm (scanned sha256 tables query lineages) ∧
    (ordered.Pairwise fun left right => left.precedes right = true) ∧
    source.facts = ordered.take query.maxItems ∧
    (source.truncatedByScanLimit = true ↔ query.scanLimit < lineages.length) ∧
    (source.truncatedByMaxItems = true ↔ query.maxItems < ordered.length)

/-- What the read-time contracts ask of the facts of a scan. -/
def Admissible (facts : List TrustedFocusFact) : Prop :=
  (∀ fact ∈ facts, fact.Fits) ∧ (facts.map TrustedFocusFact.factSha256).Nodup

variable {sha256}

variable {query : FocusMemoryQuery} {tables : Tables}

theorem wanted_eq_some {lineage : String}
    {found : TrustedFocusFact} (isWanted : wanted sha256 tables query lineage = some found) :
    ∃ fact hash, live (tables.rows ⟨query.tenantId, query.projectId, lineage⟩) = some (fact, hash) ∧
      query.Asks fact.outcome fact.origin ∧ found = focusFact sha256 fact hash := by
  unfold wanted at isWanted
  split at isWanted
  · next fact hash liveEq =>
      split at isWanted
      · next asks => exact ⟨fact, hash, liveEq, asks, (Option.some.inj isWanted).symm⟩
      · cases isWanted
  · cases isWanted

/-! ### Rows -/

variable {readFact : Bytes → Option TrustedFact}

/-- A row is answered by the live fact it serves. -/
theorem readRow_eq_ok {key : Key} {shown : CurrentRow}
    {fact : TrustedFact} {hash : String} (serves : Serves readFact key shown fact hash)
    (keyEq : key = ⟨query.tenantId, query.projectId, key.lineageId⟩)
    (liveEq : live (tables.rows key) = some (fact, hash)) (answer : Option TrustedFocusFact) :
    readRow sha256 readFact query (key, shown) = .ok answer ↔
      (∀ found, wanted sha256 tables query key.lineageId = some found → found.Fits) ∧
        answer = wanted sha256 tables query key.lineageId := by
  have tenant : fact.scope.tenantId = query.tenantId := by
    rw [← serves.projected.1, keyEq]
  have project : fact.scope.projectId = query.projectId := by
    rw [← serves.projected.2.1, keyEq]
  have wantedEq : wanted sha256 tables query key.lineageId =
      if query.Asks fact.outcome fact.origin then some (focusFact sha256 fact hash) else none := by
    unfold wanted
    rw [← keyEq, liveEq]
  have readEq : readRow sha256 readFact query (key, shown) =
      if query.Asks fact.outcome fact.origin then
        raiseIf (¬ (focusFact sha256 fact hash).Valid sha256)
          (FocusError.projectionInvalid key.lineageId) >>= fun _ =>
            pure (some (focusFact sha256 fact hash))
      else pure none := by
    unfold readRow
    dsimp only
    rw [serves.hash, serves.read, (expect_eq_ok _ _ _).mpr rfl, ok_bind,
      raiseIf_bind_of_not (not_not.mpr serves.projected),
      raiseIf_bind_of_not (not_not.mpr tenant), raiseIf_bind_of_not (not_not.mpr project)]
  rw [readEq, wantedEq]
  by_cases asks : query.Asks fact.outcome fact.origin
  · rw [if_pos asks, if_pos asks, raiseIf_bind_eq_ok, not_not, focusFact_valid_iff]
    constructor
    · intro ⟨fits, same⟩
      refine ⟨?_, (Except.ok.inj same).symm⟩
      intro found foundEq
      rw [← Option.some.inj foundEq]
      exact fits
    · intro ⟨fits, same⟩
      exact ⟨fits _ rfl, congrArg Except.ok same.symm⟩
  · rw [if_neg asks, if_neg asks]
    constructor
    · intro same
      refine ⟨?_, (Except.ok.inj same).symm⟩
      intro found impossible
      cases impossible
    · intro ⟨_, same⟩
      exact congrArg Except.ok same.symm

/-- A whole scan is read exactly when every fact it asks for fits. -/
theorem readRows_eq_ok {answer : Key × CurrentRow → Option TrustedFocusFact}
    (entries : List (Key × CurrentRow))
    (each : ∀ entry ∈ entries, ∀ result, readRow sha256 readFact query entry = .ok result ↔
      (∀ found, answer entry = some found → found.Fits) ∧ result = answer entry)
    (facts : List TrustedFocusFact) :
    readRows sha256 readFact query entries = .ok facts ↔
      (∀ found ∈ entries.filterMap answer, found.Fits) ∧ facts = entries.filterMap answer := by
  induction entries generalizing facts with
  | nil =>
      constructor
      · intro same
        refine ⟨?_, (Except.ok.inj same).symm⟩
        intro found impossible
        cases impossible
      · intro ⟨_, same⟩
        rw [same]
        rfl
  | cons entry rest ih =>
      have head := each entry List.mem_cons_self
      have tail := ih fun other member => each other (List.mem_cons_of_mem entry member)
      have listed : (entry :: rest).filterMap answer =
          (answer entry).toList ++ rest.filterMap answer := by
        rcases answered : answer entry with _ | found <;> simp [answered]
      unfold readRows
      rw [bind_eq_ok, listed]
      constructor
      · intro ⟨found, readHead, readTail⟩
        obtain ⟨others, readOthers, same⟩ := (bind_eq_ok _ _ _).mp readTail
        obtain ⟨fits, foundEq⟩ := (head found).mp readHead
        obtain ⟨othersFit, othersEq⟩ := (tail others).mp readOthers
        refine ⟨?_, ?_⟩
        · intro fact member
          rcases List.mem_append.mp member with first | later
          · exact fits fact (Option.mem_toList.mp first)
          · exact othersFit fact later
        · rw [← Except.ok.inj same, foundEq, othersEq]
      · intro ⟨fits, same⟩
        refine ⟨answer entry, (head _).mpr ⟨?_, rfl⟩, ?_⟩
        · intro fact answered
          apply fits
          rw [answered]
          exact List.mem_append_left _ List.mem_cons_self
        · apply (bind_eq_ok _ _ _).mpr
          refine ⟨rest.filterMap answer, (tail _).mpr ⟨?_, rfl⟩, ?_⟩
          · intro fact member
            exact fits fact (List.mem_append_right _ member)
          · rw [same]
            rfl

/-! ### Building -/

variable {facts : List TrustedFocusFact}

theorem outside_eq_ok
    (inside : ∀ fact ∈ facts, fact.tenantId = query.tenantId ∧ fact.projectId = query.projectId ∧
      query.Asks fact.outcome fact.origin) : outside query facts = .ok () := by
  induction facts with
  | nil => rfl
  | cons fact rest ih =>
      have ⟨tenant, project, asks⟩ := inside fact List.mem_cons_self
      unfold outside
      rw [raiseIf_bind_of_not (not_or.mpr ⟨not_not.mpr tenant, not_not.mpr project⟩),
        raiseIf_bind_of_not (not_not.mpr asks)]
      exact ih fun other member => inside other (List.mem_cons_of_mem fact member)

variable (sha256) in
theorem focusSource_valid
    {scannedCount : Nat} (truncated : Bool) (counted : facts.length ≤ scannedCount)
    (digests : (facts.map TrustedFocusFact.factSha256).Nodup)
    (lineages : (facts.map TrustedFocusFact.lineageId).Nodup)
    (inside : ∀ fact ∈ facts, fact.tenantId = query.tenantId ∧ fact.projectId = query.projectId ∧
      query.Asks fact.outcome fact.origin) :
    (focusSource sha256 query facts scannedCount truncated).Valid sha256 := by
  have perm := List.mergeSort_perm facts TrustedFocusFact.precedes
  have taken := List.take_sublist query.maxItems (facts.mergeSort TrustedFocusFact.precedes)
  refine ⟨counted, ?_, rfl, ?_, ?_, ?_, ?_, ?_⟩
  · have shorter := taken.length_le
    rw [List.length_mergeSort] at shorter
    exact shorter
  · exact (sorted_precedes facts).sublist taken
  · exact ((perm.map TrustedFocusFact.factSha256).nodup_iff.mpr digests).sublist (taken.map _)
  · exact ((perm.map TrustedFocusFact.lineageId).nodup_iff.mpr lineages).sublist (taken.map _)
  · intro fact member
    exact inside fact (perm.mem_iff.mp (taken.subset member))
  · dsimp only [focusSource, TrustedMemoryFocusSource.core]

/-- Facts of different lineages are built into a source exactly when their digests differ. -/
theorem buildTrustedMemoryFocusSource_eq_ok {scannedCount : Nat} (truncated : Bool)
    (counted : facts.length ≤ scannedCount)
    (lineages : (facts.map TrustedFocusFact.lineageId).Nodup)
    (inside : ∀ fact ∈ facts, fact.tenantId = query.tenantId ∧ fact.projectId = query.projectId ∧
      query.Asks fact.outcome fact.origin) (source : TrustedMemoryFocusSource) :
    buildTrustedMemoryFocusSource sha256 query facts scannedCount truncated = .ok source ↔
      (facts.map TrustedFocusFact.factSha256).Nodup ∧
        source = focusSource sha256 query facts scannedCount truncated := by
  have perm := List.mergeSort_perm facts TrustedFocusFact.precedes
  have ordered := (perm.map TrustedFocusFact.lineageId).nodup_iff.mpr lineages
  have length : ¬ facts.length < (facts.mergeSort TrustedFocusFact.precedes).length := by
    rw [perm.length_eq]
    exact Nat.lt_irrefl _
  have allInside := outside_eq_ok fun fact member => inside fact (perm.mem_iff.mp member)
  unfold buildTrustedMemoryFocusSource
  rw [raiseIf_bind_eq_ok, not_not, (perm.map TrustedFocusFact.factSha256).nodup_iff]
  constructor
  · intro ⟨digests, built⟩
    rw [raiseIf_bind_of_not (not_not.mpr ordered), allInside, ok_bind,
      raiseIf_bind_of_not length, raiseIf_bind_of_not (Nat.not_lt.mpr counted),
      raiseIf_bind_of_not (not_not.mpr
        (focusSource_valid sha256 truncated counted digests lineages inside))] at built
    exact ⟨digests, (Except.ok.inj built).symm⟩
  · intro ⟨digests, same⟩
    refine ⟨digests, ?_⟩
    rw [raiseIf_bind_of_not (not_not.mpr ordered), allInside, ok_bind,
      raiseIf_bind_of_not length, raiseIf_bind_of_not (Nat.not_lt.mpr counted),
      raiseIf_bind_of_not (not_not.mpr
        (focusSource_valid sha256 truncated counted digests lineages inside)), same]
    rfl

/-! ### The scan -/

theorem mem_eligibleRows {entry : Key × CurrentRow} :
    entry ∈ eligibleRows tables query ↔ entry ∈ tables.current ∧
      entry.1 = ⟨query.tenantId, query.projectId, entry.1.lineageId⟩ ∧
      entry.2.eligible = true := by
  unfold eligibleRows
  rw [List.mem_mergeSort, List.mem_filter, decide_eq_true_eq, Key.mk.injEq]
  simp only [and_true, and_assoc]

/-- An eligible row serves the live fact of its lineage. -/
theorem eligibleRows_serves (readable : Readable readFact tables) {entry : Key × CurrentRow}
    (member : entry ∈ eligibleRows tables query) :
    ∃ fact hash, live (tables.rows entry.1) = some (fact, hash) ∧
      Serves readFact entry.1 entry.2 fact hash := by
  obtain ⟨stored, _, eligible⟩ := mem_eligibleRows.mp member
  have current := Dict.get?_of_mem tables.current readable.keys stored
  have serves := readable.serves entry.1
  unfold ServesLive at serves
  rcases liveEq : live (tables.rows entry.1) with _ | ⟨fact, hash⟩
  · rw [liveEq] at serves
    rw [serves entry.2 current] at eligible
    cases eligible
  · rw [liveEq] at serves
    obtain ⟨shown, same, served⟩ := serves
    rw [current] at same
    rw [← Option.some.inj same] at served
    exact ⟨fact, hash, rfl, served⟩

theorem liveLineages_eligibleRows (query : FocusMemoryQuery) (readable : Readable readFact tables) :
    LiveLineages tables query ((eligibleRows tables query).map fun entry => entry.1.lineageId) where
  sorted := by
    have ordered : (eligibleRows tables query).Pairwise fun left right =>
        left.1.lineageId ≤ right.1.lineageId :=
      mergedByKey_ascending (fun entry : Key × CurrentRow => entry.1.lineageId) _
    have distinct : (eligibleRows tables query).Pairwise fun left right => left.1 ≠ right.1 := by
      have keys := List.pairwise_map.mp readable.keys
      exact (List.mergeSort_perm _ _).symm.pairwise (keys.filter _) fun different => Ne.symm different
    rw [List.pairwise_map]
    apply (ordered.and distinct).imp_of_mem
    intro left right leftMember rightMember ⟨notAfter, different⟩
    apply lt_of_le_of_ne notAfter
    intro same
    apply different
    rw [(mem_eligibleRows.mp leftMember).2.1, (mem_eligibleRows.mp rightMember).2.1, same]
  complete := by
    intro lineage
    rw [List.mem_map]
    constructor
    · rintro ⟨entry, member, rfl⟩
      obtain ⟨fact, hash, liveEq, _⟩ := eligibleRows_serves readable member
      rw [← (mem_eligibleRows.mp member).2.1, liveEq]
      rfl
    · intro isLive
      obtain ⟨⟨fact, hash⟩, liveEq⟩ := Option.isSome_iff_exists.mp isLive
      obtain ⟨shown, current, served⟩ := readable.served liveEq
      exact ⟨(_, shown), mem_eligibleRows.mpr ⟨Dict.mem_of_get? _ current, rfl,
        served.projected.2.2.2.2.2.2.2⟩, rfl⟩

/-! ### Answers -/

theorem wanted_lineage
    (readable : Readable readFact tables) {lineage : String} {found : TrustedFocusFact}
    (isWanted : wanted sha256 tables query lineage = some found) :
    found.lineageId = lineage ∧ found.tenantId = query.tenantId ∧
      found.projectId = query.projectId ∧ query.Asks found.outcome found.origin := by
  obtain ⟨fact, hash, liveEq, asks, rfl⟩ := wanted_eq_some isWanted
  obtain ⟨_, _, served⟩ := readable.served liveEq
  exact ⟨served.projected.2.2.1.symm, served.projected.1.symm, served.projected.2.1.symm, asks⟩

/-- The rows of a scan are read as the facts the query asks for. -/
theorem readRows_eligible (readable : Readable readFact tables) (facts : List TrustedFocusFact) :
    readRows sha256 readFact query ((eligibleRows tables query).take query.scanLimit) = .ok facts ↔
      (∀ found ∈ scanned sha256 tables query
          ((eligibleRows tables query).map fun entry => entry.1.lineageId), found.Fits) ∧
        facts = scanned sha256 tables query
          ((eligibleRows tables query).map fun entry => entry.1.lineageId) := by
  have listed : scanned sha256 tables query
        ((eligibleRows tables query).map fun entry => entry.1.lineageId) =
      ((eligibleRows tables query).take query.scanLimit).filterMap
        fun entry => wanted sha256 tables query entry.1.lineageId := by
    unfold scanned
    rw [← List.map_take, List.filterMap_map]
    rfl
  rw [listed]
  apply readRows_eq_ok
  intro entry member result
  have eligible := List.mem_of_mem_take member
  obtain ⟨fact, hash, liveEq, serves⟩ := eligibleRows_serves readable eligible
  exact readRow_eq_ok serves (mem_eligibleRows.mp eligible).2.1 liveEq result

theorem scanned_facts {tables : Tables} {query : FocusMemoryQuery} {lineages : List String}
    (readable : Readable readFact tables) (isLive : LiveLineages tables query lineages) :
    ((scanned sha256 tables query lineages).map TrustedFocusFact.lineageId).Nodup ∧
      ∀ fact ∈ scanned sha256 tables query lineages, fact.tenantId = query.tenantId ∧
        fact.projectId = query.projectId ∧ query.Asks fact.outcome fact.origin := by
  constructor
  · unfold scanned
    rw [List.Nodup, List.pairwise_map]
    apply List.Pairwise.filterMap _ _ ((isLive.sorted.sublist (List.take_sublist _ _)))
    intro left right less found isFound other isOther same
    rw [(wanted_lineage readable isFound).1, (wanted_lineage readable isOther).1] at same
    exact ne_of_lt less same
  · intro fact member
    obtain ⟨lineage, _, isWanted⟩ := List.mem_filterMap.mp member
    exact (wanted_lineage readable isWanted).2

theorem fetch_exact_iff (query : FocusMemoryQuery) (readable : Readable readFact tables) :
    ∃ lineages, LiveLineages tables query lineages ∧
      ((∃ source, fetch sha256 readFact query.tenantId tables query = .ok source ∧
          ExactSource sha256 tables query lineages source) ↔
        Admissible (scanned sha256 tables query lineages)) := by
  have isLive := liveLineages_eligibleRows query readable
  refine ⟨_, isLive, ?_⟩
  have ⟨lineages, inside⟩ := @scanned_facts sha256 _ _ _ _ readable isLive
  have rows : (scanCurrent tables query).take query.scanLimit =
      (eligibleRows tables query).take query.scanLimit := by
    unfold scanCurrent
    rw [List.take_take, Nat.min_eq_left (Nat.le_succ _)]
  have more : query.scanLimit < (scanCurrent tables query).length ↔
      query.scanLimit < (eligibleRows tables query).length := by
    unfold scanCurrent
    rw [List.length_take]
    omega
  have counted : (scanned sha256 tables query
        ((eligibleRows tables query).map fun entry => entry.1.lineageId)).length ≤
      ((eligibleRows tables query).take query.scanLimit).length := by
    unfold scanned
    rw [← List.map_take]
    exact (List.length_filterMap_le _ _).trans (List.length_map _).le
  have fetched : ∀ source, fetch sha256 readFact query.tenantId tables query = .ok source ↔
      ∃ facts, readRows sha256 readFact query ((eligibleRows tables query).take query.scanLimit) =
          .ok facts ∧
        buildTrustedMemoryFocusSource sha256 query facts
          ((eligibleRows tables query).take query.scanLimit).length
          (decide (query.scanLimit < (scanCurrent tables query).length)) = .ok source := by
    intro source
    unfold fetch
    rw [raiseIf_bind_of_not (not_not.mpr rfl)]
    dsimp only
    rw [rows]
    exact bind_eq_ok _ _ _
  constructor
  · intro ⟨source, answered, _⟩
    obtain ⟨facts, read, built⟩ := (fetched source).mp answered
    obtain ⟨fits, rfl⟩ := (readRows_eligible readable facts).mp read
    exact ⟨fits, ((buildTrustedMemoryFocusSource_eq_ok _ counted lineages inside source).mp built).1⟩
  · intro ⟨fits, digests⟩
    refine ⟨_, (fetched _).mpr ⟨_, (readRows_eligible readable _).mpr ⟨fits, rfl⟩,
      (buildTrustedMemoryFocusSource_eq_ok _ counted lineages inside _).mpr ⟨digests, rfl⟩⟩, ?_⟩
    refine ⟨_, List.mergeSort_perm _ TrustedFocusFact.precedes, sorted_precedes _, rfl, ?_, ?_⟩
    · rw [List.length_map, ← more]
      exact decide_eq_true_iff
    · rw [List.length_mergeSort]
      refine decide_eq_true_iff.trans ?_
      rw [List.length_take, List.length_mergeSort]
      omega

end Exact

/-- After every run a query is answered, exactly, if and only if the facts of its scan
fit the read-time contracts. -/
theorem focus_retrieval_exact_iff (sha256 : Bytes → Digest) (readFact : Bytes → Option TrustedFact)
    (calls : List Append) (readsBack : ∀ call ∈ calls, ReadsBack readFact call)
    (query : FocusMemoryQuery) :
    ∃ lineages, LiveLineages (runAll sha256 calls) query lineages ∧
      ((∃ source, fetch sha256 readFact query.tenantId (runAll sha256 calls) query = .ok source ∧
          ExactSource sha256 (runAll sha256 calls) query lineages source) ↔
        Admissible (scanned sha256 (runAll sha256 calls) query lineages)) :=
  fetch_exact_iff query (runAll_readable sha256 calls readsBack)

namespace Sample

def query : FocusMemoryQuery :=
  { tenantId := "tenant-1"
    projectId := "project-1"
    outcomes := [.keep]
    origins := [.localTrusted]
    maxItems := 64
    scanLimit := 512
    maxItemsPositive := by decide
    scanLimitPositive := by decide
    trustedOrigins := by decide }

/-- One character longer than the focus contract allows. -/
def longKind : String := String.ofList (List.replicate 161 'k')

theorem longKind_length : longKind.length = 161 := by
  unfold longKind
  rw [String.length_ofList, List.length_replicate]

def longFact : TrustedFact :=
  { fact with core :=
    ⟨longKind, "The cache is stale.", by rw [longKind_length]; decide, core.statementNonempty⟩ }

def promoteLong : Append :=
  ⟨lineage, ⟨.trustedFact longFact, .dict [("revision", .int 1)]⟩, "key-1", none⟩

def readLong : Bytes → Option TrustedFact := fun bytes =>
  if bytes = promoteLong.record.bytes then some longFact else none

def longRow : CurrentRow :=
  let row := promoteLong.row rolling none
  ⟨"revision-1", 1, "fact-digest", .validated, true, promoteLong.record.bytes, row.eventHash,
    row.eventHash⟩

theorem eligibleRows_long :
    eligibleRows (runAll rolling [promoteLong]) query = [(lineage, longRow)] := by
  have filtered : ((runAll rolling [promoteLong]).current.filter fun entry =>
      entry.1.tenantId = query.tenantId ∧ entry.1.projectId = query.projectId ∧
        entry.2.eligible = true) = [(lineage, longRow)] := rfl
  unfold eligibleRows
  rw [filtered]
  exact List.mergeSort_singleton _

theorem readRow_long :
    readRow rolling readLong query (lineage, longRow) = .error (.projectionInvalid "lineage-1") := by
  unfold readRow
  have read : readLong longRow.factBytes = some longFact := if_pos rfl
  have tenant : longFact.scope.tenantId = query.tenantId := rfl
  have project : longFact.scope.projectId = query.projectId := rfl
  dsimp only
  rw [read, (expect_eq_ok _ _ _).mpr rfl, ok_bind, raiseIf_bind_of_not (not_not.mpr (by decide)),
    raiseIf_bind_of_not (not_not.mpr tenant), raiseIf_bind_of_not (not_not.mpr project),
    if_pos (by decide)]
  have tooLong : ¬ (focusFact rolling longFact longRow.projectionEventHash).Valid rolling := by
    rw [focusFact_valid_iff]
    intro fits
    have kind : longKind.length ≤ 160 := fits.1
    rw [longKind_length] at kind
    omega
  unfold raiseIf
  rw [if_pos tooLong]
  rfl

/-- One stored fact with a long kind fails every query that asks for it. -/
theorem long_fact_fails_the_query :
    fetch rolling readLong query.tenantId (runAll rolling [promoteLong]) query =
      .error (.projectionInvalid "lineage-1") := by
  have rows : (scanCurrent (runAll rolling [promoteLong]) query) = [(lineage, longRow)] := by
    unfold scanCurrent
    rw [eligibleRows_long]
    rfl
  unfold fetch
  rw [raiseIf_bind_of_not (not_not.mpr rfl)]
  dsimp only
  rw [rows]
  change (readRows rolling readLong query [(lineage, longRow)] >>= _) = _
  unfold readRows
  rw [readRow_long]
  rfl

theorem focus_retrieval_exact_sample :
    ∃ lineages, LiveLineages (runAll rolling [promoteLong]) query lineages ∧
      ((∃ source, fetch rolling readLong query.tenantId (runAll rolling [promoteLong]) query =
            .ok source ∧
          ExactSource rolling (runAll rolling [promoteLong]) query lineages source) ↔
        Admissible (scanned rolling (runAll rolling [promoteLong]) query lineages)) := by
  apply focus_retrieval_exact_iff
  intro call member fact body
  rw [List.mem_singleton.mp member] at body ⊢
  rw [← RecordBody.trustedFact.inj body]
  exact if_pos rfl

end Sample

end EgoAgent.TrustedMemory
