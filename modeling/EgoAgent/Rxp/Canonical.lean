import EgoAgent.Lib.Digest
import EgoAgent.Lib.Effect

/-!
Canonical serialization and domain-separated hashing for RXP/1.

The interpreter's Unicode tables, SHA-256 and HMAC-SHA256 are one parameter,
`Platform`.  Every result holds for every platform; where a result needs a
property of the hash, it says on which byte strings.
-/

namespace EgoAgent.Rxp

class Platform where
  unicode : Unicode
  sha256 : Bytes → Digest
  hmacSha256 : Bytes → Bytes → Digest

open Platform

/-- What a call can raise.  `rxp` is the protocol's own failure with its code,
message and details; `encoding` is the encoder's refusal of a value without a
canonical form; `value` and `validation` come from plain checks and from the
document models. -/
inductive PyError where
  | rxp (code message : String) (details : Members Value)
  | encoding
  | value (message : String)
  | validation (model : String)

def rxpError (code message : String) : PyError := .rxp code message []

/-! ### Domains -/

def asciiBytes (text : String) : Bytes := text.toList.map fun c => UInt8.ofNat c.toNat

def documentDomain : Bytes := asciiBytes "RXP/1/document\x00"
def ledgerEntryDomain : Bytes := asciiBytes "RXP/1/ledger-entry\x00"
def ledgerRootDomain : Bytes := asciiBytes "RXP/1/ledger-root\x00"
def merkleLeafDomain : Bytes := asciiBytes "RXP/1/merkle-leaf\x00"
def merkleNodeDomain : Bytes := asciiBytes "RXP/1/merkle-node\x00"

variable [Platform]

def merkleEmptyRoot : Digest := sha256 (asciiBytes "RXP/1/merkle/empty")
def genesisRoot : Digest := sha256 (asciiBytes "RXP/1/ledger/genesis")

/-! ### Digests -/

/-- The canonical bytes, or what the encoder raises on a value without any. -/
def canonicalBytesOf (value : Value) : Except PyError Bytes :=
  expect .encoding (canonicalBytes unicode value)

def domainDigest (domain payload : Bytes) : Digest := sha256 (domain ++ payload)

def digestDocument (value : Value) : Except PyError Digest := do
  let payload ← canonicalBytesOf value
  return domainDigest documentDomain payload

def digestLedgerEntry (value : Value) : Except PyError Digest := do
  let payload ← canonicalBytesOf value
  return domainDigest ledgerEntryDomain payload

/-- The bytes hashed to extend a ledger root with an entry digest. -/
def rootPayload (previousRoot entryDigest : Digest) : Bytes :=
  ledgerRootDomain ++ (previousRoot.bytes ++ entryDigest.bytes)

def extendLedgerRoot (previousRoot entryDigest : Digest) : Digest :=
  sha256 (rootPayload previousRoot entryDigest)

/-! ### Merkle sets -/

/-- Hashes adjacent pairs; the last digest of an odd level is its own partner. -/
def merkleLevel : List Digest → List Digest
  | [] => []
  | [last] => [domainDigest merkleNodeDomain (last.bytes ++ last.bytes)]
  | left :: right :: rest =>
      domainDigest merkleNodeDomain (left.bytes ++ right.bytes) :: merkleLevel rest

/-- Folds levels until one digest is left.  The fuel is the number of leaves,
and every level halves it. -/
def merkleFold : Nat → List Digest → Digest
  | _, [] => merkleEmptyRoot
  | _, [root] => root
  | 0, first :: _ => first
  | fuel + 1, level => merkleFold fuel (merkleLevel level)

def merkleRoot (digests : List Digest) : Except PyError Digest := do
  if digests.isEmpty then
    return merkleEmptyRoot
  raiseIf (¬ digests.Nodup) (.value "RXP Merkle sets cannot contain duplicate digests")
  let leaves := (sortDigests digests).map fun item => domainDigest merkleLeafDomain item.bytes
  return merkleFold leaves.length leaves

/-! ### When the digests exist -/

theorem canonicalBytesOf_eq_ok (value : Value) (payload : Bytes) :
    canonicalBytesOf value = .ok payload ↔ canonicalBytes unicode value = some payload :=
  expect_eq_ok _ _ _

theorem digestDocument_eq_ok (value : Value) (digest : Digest) :
    digestDocument value = .ok digest ↔
      ∃ payload, canonicalBytes unicode value = some payload ∧
        digest = domainDigest documentDomain payload := by
  unfold digestDocument
  rw [bind_eq_ok]
  constructor
  · rintro ⟨payload, encoded, ⟨⟩⟩
    exact ⟨payload, (canonicalBytesOf_eq_ok value payload).mp encoded, rfl⟩
  · rintro ⟨payload, encoded, rfl⟩
    exact ⟨payload, (canonicalBytesOf_eq_ok value payload).mpr encoded, rfl⟩

theorem digestLedgerEntry_eq_ok (value : Value) (digest : Digest) :
    digestLedgerEntry value = .ok digest ↔
      ∃ payload, canonicalBytes unicode value = some payload ∧
        digest = domainDigest ledgerEntryDomain payload := by
  unfold digestLedgerEntry
  rw [bind_eq_ok]
  constructor
  · rintro ⟨payload, encoded, ⟨⟩⟩
    exact ⟨payload, (canonicalBytesOf_eq_ok value payload).mp encoded, rfl⟩
  · rintro ⟨payload, encoded, rfl⟩
    exact ⟨payload, (canonicalBytesOf_eq_ok value payload).mpr encoded, rfl⟩

/-- A value has a digest exactly when it has a canonical form. -/
theorem digestDocument_returns {value normal : Value} (computed : value.canon unicode = some normal) :
    ∃ digest, digestDocument value = .ok digest := by
  refine ⟨domainDigest documentDomain (utf8Encode normal.text), ?_⟩
  rw [digestDocument_eq_ok]
  exact ⟨_, (canonicalBytes_eq_some_iff _ _ _).mpr ⟨normal, computed, rfl⟩, rfl⟩

theorem canon_of_digestDocument {value : Value} {digest : Digest}
    (digested : digestDocument value = .ok digest) :
    ∃ normal, value.canon unicode = some normal := by
  obtain ⟨payload, encoded, _⟩ := (digestDocument_eq_ok value digest).mp digested
  obtain ⟨normal, computed, _⟩ := (canonicalBytes_eq_some_iff _ _ _).mp encoded
  exact ⟨normal, computed⟩

/-- Digests depend on the canonical form only. -/
theorem digestDocument_congr {left right : Value}
    (same : left.canon unicode = right.canon unicode) :
    digestDocument left = digestDocument right := by
  unfold digestDocument canonicalBytesOf
  rw [canonicalBytes_congr unicode same]

theorem merkleRoot_returns (digests : List Digest) (distinct : digests.Nodup) :
    ∃ root, merkleRoot digests = .ok root := by
  unfold merkleRoot
  cases digests with
  | nil => exact ⟨_, rfl⟩
  | cons first rest =>
      have passed : raiseIf (¬ (first :: rest).Nodup)
          (PyError.value "RXP Merkle sets cannot contain duplicate digests") = .ok () :=
        (raiseIf_eq_ok _ _ ()).mpr (not_not_intro distinct)
      simp only [List.isEmpty_cons, Bool.false_eq_true, if_false, passed]
      exact ⟨_, rfl⟩

theorem merkleRoot_distinct (digests : List Digest) (root : Digest)
    (computed : merkleRoot digests = .ok root) : digests.Nodup := by
  cases digests with
  | nil => exact List.nodup_nil
  | cons first rest =>
      unfold merkleRoot at computed
      simp only [List.isEmpty_cons, Bool.false_eq_true, if_false] at computed
      rw [raiseIf_bind_eq_ok] at computed
      exact not_not.mp computed.1

end EgoAgent.Rxp
