import EgoAgent.TrustedMemory.FocusExact

/-!
`TrustedMemoryService.retrieve`: the current facts of the lineages a caller names.
-/

namespace EgoAgent.TrustedMemory

open EgoAgent.Api

structure RetrievalQuery where
  tenantId : String
  projectId : String
  component : String
  version : String
  outcomes : List DecisionOutcome
  origins : List MemoryOrigin

def RetrievalQuery.json (query : RetrievalQuery) : Json Empty := .dict
  [("tenant_id", .str query.tenantId), ("project_id", .str query.projectId),
    ("component", .str query.component), ("version", .str query.version),
    ("outcomes", texts (query.outcomes.map DecisionOutcome.text)),
    ("origins", texts (query.origins.map MemoryOrigin.text))]

/-- What `retrieve_exact` keeps. -/
abbrev RetrievalQuery.Asks (query : RetrievalQuery) (fact : TrustedFact) : Prop :=
  (fact.origin = .localTrusted ∨ fact.origin = .attestedExternal) ∧
    fact.scope.tenantId = query.tenantId ∧ fact.scope.projectId = query.projectId ∧
    fact.scope.component = query.component ∧ fact.scope.version = query.version ∧
    fact.outcome ∈ query.outcomes ∧ fact.origin ∈ query.origins

/-- A `RetrievalResult`, with its items as documents. -/
structure Retrieval where
  query : RetrievalQuery
  items : List (Json Empty)
  retrievalDigest : String

section Retrieving

variable (sha256 : Bytes → Digest)

/-- `_item`. -/
def retrievalItem (fact : TrustedFact) : Json Empty := .dict
  [("revision_id", .str fact.revisionId), ("lineage_id", .str fact.lineageId),
    ("fact_digest", .str fact.trustedFactDigest), ("statement", .str fact.core.statement),
    ("outcome", .str fact.outcome.text), ("origin", .str fact.origin.text),
    ("evidence_ids", texts fact.provenance.evidenceIds),
    ("evidence_digests", texts fact.provenance.evidenceDigests),
    ("closure_digest", .str fact.provenance.decisionClosureDigest),
    ("provenance_digest", .str
      (domainSha256 sha256 "trusted-memory-fact-provenance" fact.provenance.document))]

/-- The result with these facts. -/
def retrieved (query : RetrievalQuery) (facts : List TrustedFact) : Retrieval :=
  let items := facts.map (retrievalItem sha256)
  { query
    items
    retrievalDigest := domainSha256 sha256 "trusted-memory-retrieval" <| .dict
      [("schema_version", .str "egoagentos-retrieval-result/v1"), ("query", query.json),
        ("items", .list items)] }

/-- The facts a query asks for, by revision. -/
def kept (query : RetrievalQuery) (facts : List TrustedFact) : List TrustedFact :=
  (facts.filter fun fact => query.Asks fact).mergeSort
    fun left right => decide (left.revisionId ≤ right.revisionId)

def retrieveExact (facts : List TrustedFact) (query : RetrievalQuery) : Retrieval :=
  retrieved sha256 query (kept query facts)

def getCurrentTrustedFact (tables : Tables) (key : Key) : Option CurrentRow :=
  (tables.current.get? key).filter CurrentRow.eligible

-- `readFact` is `TrustedFact.model_validate_json`.
variable (readFact : Bytes → Option TrustedFact)

/-- The loop of `retrieve`; `none` where a stored fact is not read. -/
def currentFacts (tables : Tables) (query : RetrievalQuery) :
    List String → Option (List TrustedFact)
  | [] => some []
  | lineage :: rest =>
      match getCurrentTrustedFact tables ⟨query.tenantId, query.projectId, lineage⟩ with
      | none => currentFacts tables query rest
      | some current => do
          let fact ← readFact current.factBytes
          let others ← currentFacts tables query rest
          some (fact :: others)

def retrieve (tables : Tables) (lineageIds : List String) (query : RetrievalQuery) :
    Option Retrieval :=
  (currentFacts readFact tables query (sortedTexts lineageIds.dedup)).map fun facts =>
    retrieveExact sha256 facts query

/-- The fact a lineage's history leaves live. -/
def liveFact (tables : Tables) (query : RetrievalQuery) (lineage : String) : Option TrustedFact :=
  (live (tables.rows ⟨query.tenantId, query.projectId, lineage⟩)).map Prod.fst

variable {readFact} {tables : Tables}

/-- The current rows are read as the live facts. -/
theorem currentFacts_readable (readable : Readable readFact tables) (query : RetrievalQuery)
    (lineages : List String) :
    currentFacts readFact tables query lineages =
      some (lineages.filterMap (liveFact tables query)) := by
  induction lineages with
  | nil => rfl
  | cons lineage rest ih =>
      unfold currentFacts getCurrentTrustedFact
      rw [List.filterMap_cons]
      unfold liveFact at ih ⊢
      rcases liveEq : live (tables.rows ⟨query.tenantId, query.projectId, lineage⟩) with
        _ | ⟨fact, hash⟩
      · have serves := readable.serves ⟨query.tenantId, query.projectId, lineage⟩
        unfold ServesLive at serves
        rw [liveEq] at serves
        rw [Option.filter_eq_none_iff.mpr fun shown current eligible => by
          rw [serves shown current] at eligible; cases eligible]
        exact ih
      · obtain ⟨shown, current, served⟩ := readable.served liveEq
        rw [current, Option.filter_some, if_pos served.projected.2.2.2.2.2.2.2]
        simp only [served.read, ih, Option.bind_eq_bind, Option.bind_some, Option.map_some]

end Retrieving

/-- After every run a retrieval carries, by revision, exactly the live facts of the
lineages it names that its query asks for, each once. -/
theorem retrieval_exact (sha256 : Bytes → Digest) (readFact : Bytes → Option TrustedFact)
    (calls : List Append) (readsBack : ∀ call ∈ calls, ReadsBack readFact call)
    (lineageIds : List String) (query : RetrievalQuery) :
    ∃ facts, retrieve sha256 readFact (runAll sha256 calls) lineageIds query =
        some (retrieved sha256 query facts) ∧
      (facts.Pairwise fun left right => left.revisionId ≤ right.revisionId) ∧
      facts.Perm ((lineageIds.dedup.filterMap (liveFact (runAll sha256 calls) query)).filter
        fun fact => query.Asks fact) := by
  have readable := runAll_readable sha256 calls readsBack
  generalize runAll sha256 calls = tables at readable ⊢
  refine ⟨kept query ((sortedTexts lineageIds.dedup).filterMap (liveFact tables query)), ?_,
    mergedByKey_ascending TrustedFact.revisionId _, ?_⟩
  · unfold retrieve
    rw [currentFacts_readable readable]
    rfl
  · apply (List.mergeSort_perm _ _).trans
    exact ((List.mergeSort_perm _ _).filterMap _).filter _

namespace Sample

def asked : RetrievalQuery :=
  ⟨"tenant-1", "project-1", "component-1", "v1", [.keep], [.localTrusted]⟩

theorem retrieval_exact_sample :
    ∃ facts, retrieve rolling readLong (runAll rolling [promoteLong]) ["lineage-1"] asked =
      some (retrieved rolling asked facts) ∧ longFact ∈ facts := by
  have readsBack : ∀ call ∈ [promoteLong], ReadsBack readLong call := by
    intro call member fact body
    rw [List.mem_singleton.mp member] at body ⊢
    rw [← RecordBody.trustedFact.inj body]
    exact if_pos rfl
  obtain ⟨facts, same, _, perm⟩ :=
    retrieval_exact rolling readLong [promoteLong] readsBack ["lineage-1"] asked
  have isLive : liveFact (runAll rolling [promoteLong]) asked "lineage-1" = some longFact := rfl
  refine ⟨facts, same, perm.mem_iff.mpr (List.mem_filter.mpr ⟨?_, by decide⟩)⟩
  exact List.mem_filterMap.mpr ⟨_, List.mem_singleton_self _, isLive⟩

end Sample

end EgoAgent.TrustedMemory
