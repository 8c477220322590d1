import EgoAgent.Rxp.Evidence

/-!
Scoped, expiring, single-use RXP grant profile: the verifier's side.

A signature covers the canonical bytes of the claims under the signer's key.
The replay registry consumes a key at most once.
-/

namespace EgoAgent.Rxp

open Platform

def maxGrantTtlSeconds : Nat := 3600

def clockSkewSeconds : Nat := 30

/-- `InMemoryReplayRegistry`: the keys seen so far. -/
abbrev ReplayRegistry := List (String × String)

def consume (namespaceName identifier : String) : Effect ReplayRegistry PyError Bool := do
  let seen ← Effect.read
  if (namespaceName, identifier) ∈ seen then
    return false
  Effect.write fun seen => seen ++ [(namespaceName, identifier)]
  return true

theorem consume_apply (namespaceName identifier : String) (seen : ReplayRegistry) :
    consume namespaceName identifier seen =
      if (namespaceName, identifier) ∈ seen then (.ok false, seen)
      else (.ok true, seen ++ [(namespaceName, identifier)]) := by
  unfold consume
  rw [Effect.read_bind]
  by_cases present : (namespaceName, identifier) ∈ seen
  · rw [if_pos present, if_pos present]
    rfl
  · rw [if_neg present, if_neg present]
    rfl

/-- A key is consumed at most once. -/
theorem consume_eq_ok (namespaceName identifier : String) (seen later : ReplayRegistry) :
    consume namespaceName identifier seen = (.ok true, later) ↔
      (namespaceName, identifier) ∉ seen ∧ later = seen ++ [(namespaceName, identifier)] := by
  rw [consume_apply]
  by_cases present : (namespaceName, identifier) ∈ seen <;> simp [present, eq_comm]

/-- The names of the comparisons that fail. -/
def mismatches (comparisons : List (String × Bool)) : List String :=
  (comparisons.filter fun comparison => !comparison.2).map Prod.fst

theorem mismatches_eq_nil (comparisons : List (String × Bool)) :
    mismatches comparisons = [] ↔ ∀ comparison ∈ comparisons, comparison.2 = true := by
  simp [mismatches, List.filter_eq_nil_iff]

def mismatchedFields (names : List String) : Members Value :=
  [("mismatched_fields", .list ((sortedText names).map .str))]

structure GrantSigner where
  secret : Bytes
  keyId : String
  longEnough : 32 ≤ secret.length

variable [Platform]

def grantSignatureDomain : Bytes := asciiBytes "RXP/1/grant-signature\x00"

/-- The object a grant signature protects. -/
def protectedValue (keyId : String) (claims : GrantClaims) : Value :=
  .dict [("algorithm", .str "HMAC-SHA256"), ("claims", GrantClaims.codec.dump claims),
    ("key_id", .str keyId)]

namespace GrantSigner

/-- `_signature` -/
def signatureOf (signer : GrantSigner) (claims : GrantClaims) : Except PyError Digest := do
  let payload ← canonicalBytesOf (protectedValue signer.keyId claims)
  return hmacSha256 signer.secret (grantSignatureDomain ++ payload)

/-- `_validate_window` -/
def validateWindow (issuedAt expiresAt : String) : Except PyError Unit := do
  let issued ← parseUtc issuedAt
  let expires ← parseUtc expiresAt
  raiseIf (¬ (issued + 1 ≤ expires ∧ expires ≤ issued + maxGrantTtlSeconds))
    (rxpError "grant_ttl_invalid" "Grant TTL must be between 1 and 3600 seconds")

/-- The claims a verifier compares with the intent, under their names. -/
def scopeComparisons (claims : GrantClaims) (intent : Intent) (intentDigest : Digest) :
    List (String × Bool) :=
  [("intent_id", claims.intentId = intent.intentId),
    ("intent_digest", claims.intentDigest = intentDigest),
    ("matrix_id", claims.matrixId = intent.matrixId),
    ("cell_id", claims.cellId = intent.cellId),
    ("action", claims.action = intent.action),
    ("scope", claims.scope = intent.scope),
    ("action_payload_digest", claims.actionPayloadDigest = intent.actionPayloadDigest)]

def verify (signer : GrantSigner) (grant : Grant) (intent : Intent) (checkedAt : String) :
    Except PyError Unit := do
  raiseIf (grant.keyId.val ≠ signer.keyId)
    (rxpError "grant_key_unknown" "The grant key id is not trusted")
  let expectedSignature ← signer.signatureOf grant.claims
  raiseIf (grant.signature ≠ expectedSignature)
    (rxpError "grant_signature_invalid" "The grant signature is invalid")
  let claims := grant.claims
  let intentDigest ← digestDocument (Intent.codec.dump intent)
  let wrong := mismatches (scopeComparisons claims intent intentDigest)
  raiseIf (wrong ≠ [])
    (.rxp "grant_scope_mismatch" "Grant is not valid for this exact matrix cell and intent"
      (mismatchedFields wrong))
  raiseIf (claims.legacyApprovalV1 ≠ intent.approvalV1Binding)
    (rxpError "legacy_binding_mismatch" "Grant legacy binding does not match intent")
  raiseIf (¬ claims.bounds.contains intent.requestedResources)
    (rxpError "grant_bounds_exceeded" "Intent exceeds the signed resource bounds")
  raiseIf (claims.minimumDeterminism.rank < intent.requiredDeterminism.rank)
    (rxpError "grant_determinism_too_weak"
      "Signed minimum determinism is below the intent requirement")
  validateWindow claims.issuedAt.val claims.expiresAt.val
  let checked ← parseUtc checkedAt
  let issued ← parseUtc claims.issuedAt.val
  let expires ← parseUtc claims.expiresAt.val
  raiseIf (issued > checked + clockSkewSeconds)
    (rxpError "grant_not_yet_valid" "The grant was issued in the future")
  raiseIf (checked ≥ expires)
    (.rxp "grant_expired" "The grant has expired" [("expires_at", .str claims.expiresAt.val)])

/-- Everything about a grant a verifier checks apart from the time it checks at. -/
structure Authorises (signer : GrantSigner) (grant : Grant) (intent : Intent) : Prop where
  key : grant.keyId.val = signer.keyId
  signature : signer.signatureOf grant.claims = .ok grant.signature
  intentId : grant.claims.intentId = intent.intentId
  intentDigest : digestDocument (Intent.codec.dump intent) = .ok grant.claims.intentDigest
  matrixId : grant.claims.matrixId = intent.matrixId
  cellId : grant.claims.cellId = intent.cellId
  action : grant.claims.action = intent.action
  scope : grant.claims.scope = intent.scope
  actionPayloadDigest : grant.claims.actionPayloadDigest = intent.actionPayloadDigest
  legacy : grant.claims.legacyApprovalV1 = intent.approvalV1Binding
  bounds : grant.claims.bounds.contains intent.requestedResources
  determinism : intent.requiredDeterminism.rank ≤ grant.claims.minimumDeterminism.rank
  window : validateWindow grant.claims.issuedAt.val grant.claims.expiresAt.val = .ok ()

/-- The instant lies in the grant's window, with the clock skew at its start. -/
def InWindow (grant : Grant) (checkedAt : String) : Prop :=
  ∃ checked issued expires, parseUtc checkedAt = .ok checked ∧
    parseUtc grant.claims.issuedAt.val = .ok issued ∧
    parseUtc grant.claims.expiresAt.val = .ok expires ∧
    issued ≤ checked + clockSkewSeconds ∧ checked < expires

private theorem scope_matches (claims : GrantClaims) (intent : Intent) (intentDigest : Digest) :
    mismatches (scopeComparisons claims intent intentDigest) = [] ↔
      claims.intentId = intent.intentId ∧ claims.intentDigest = intentDigest ∧
      claims.matrixId = intent.matrixId ∧ claims.cellId = intent.cellId ∧
      claims.action = intent.action ∧ claims.scope = intent.scope ∧
      claims.actionPayloadDigest = intent.actionPayloadDigest := by
  rw [mismatches_eq_nil]
  simp [scopeComparisons]

theorem verify_eq_ok (signer : GrantSigner) (grant : Grant) (intent : Intent)
    (checkedAt : String) :
    signer.verify grant intent checkedAt = .ok () ↔
      signer.Authorises grant intent ∧ InWindow grant checkedAt := by
  unfold verify
  simp only [bind_eq_ok, raiseIf_eq_ok, exists_const, not_not, ne_eq, not_lt, scope_matches,
    ge_iff_le, gt_iff_lt, not_le]
  constructor
  · rintro ⟨key, _, signed, rfl, _, digested, ⟨intentId, rfl, matrixId, cellId, action, scope,
      payload⟩, legacy, bounds, determinism, ⟨⟩, window, checked, checkedEq,
      issued, issuedEq, expires, expiresEq, started, unexpired⟩
    exact ⟨⟨key, signed, intentId, digested, matrixId, cellId, action, scope, payload, legacy,
      bounds, determinism, window⟩, checked, issued, expires, checkedEq, issuedEq, expiresEq,
      started, unexpired⟩
  · rintro ⟨auth, checked, issued, expires, checkedEq, issuedEq, expiresEq, started, unexpired⟩
    exact ⟨auth.key, _, auth.signature, rfl, _, auth.intentDigest, ⟨auth.intentId, rfl,
      auth.matrixId, auth.cellId, auth.action, auth.scope, auth.actionPayloadDigest⟩,
      auth.legacy, auth.bounds, auth.determinism, (), auth.window, checked, checkedEq, issued,
      issuedEq, expires, expiresEq, started, unexpired⟩

end GrantSigner

end EgoAgent.Rxp
