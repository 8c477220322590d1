import EgoAgent.Rxp.Sample

/-!
Issuing grants: a grant that a signer issues is one that it verifies, in its window and for its
intent only.
-/

namespace EgoAgent.Rxp

open Platform

section General

variable [Platform]

namespace GrantSigner

/-- What `issue` is given beside the intent. -/
structure IssueRequest where
  grantId : String
  issuerId : String
  bounds : ResourceBounds
  minimumDeterminism : DeterminismLevel
  issuedAt : String
  expiresAt : String
  nonce : String
  legacyApprovalV1 : Option LegacyApprovalV1Binding

/-- A text that matches a pattern, or the refusal of a model. -/
def matching (model : String) (pattern : Pattern) (text : String) :
    Except PyError (Matched pattern) :=
  expect (.validation model) (Codec.permit (fun text => pattern.accepts text = true) text)

def utcOf (model text : String) : Except PyError Utc :=
  expect (.validation model) (Codec.permit isUtc text)

def issue (signer : GrantSigner) (intent : Intent) (request : IssueRequest) :
    Except PyError Grant := do
  raiseIf (¬ request.bounds.contains intent.requestedResources)
    (rxpError "grant_bounds_too_narrow" "Grant bounds do not cover the intent")
  raiseIf (request.minimumDeterminism.rank < intent.requiredDeterminism.rank)
    (rxpError "grant_determinism_too_weak"
      "Grant minimum determinism is below the intent requirement")
  validateWindow request.issuedAt request.expiresAt
  raiseIf (request.legacyApprovalV1 ≠ intent.approvalV1Binding)
    (rxpError "legacy_binding_mismatch" "Grant legacy binding must exactly match the intent")
  let intentDigest ← digestDocument (Intent.codec.dump intent)
  let grantId ← matching "GrantClaims" idPattern request.grantId
  let issuerId ← matching "GrantClaims" idPattern request.issuerId
  let issuedAt ← utcOf "GrantClaims" request.issuedAt
  let expiresAt ← utcOf "GrantClaims" request.expiresAt
  let nonce ← matching "GrantClaims" noncePattern request.nonce
  let claims : GrantClaims := {
    grantId
    issuerId
    intentId := intent.intentId
    intentDigest
    matrixId := intent.matrixId
    cellId := intent.cellId
    action := intent.action
    scope := intent.scope
    actionPayloadDigest := intent.actionPayloadDigest
    bounds := request.bounds
    minimumDeterminism := request.minimumDeterminism
    issuedAt
    expiresAt
    nonce
    legacyApprovalV1 := request.legacyApprovalV1 }
  let signature ← signer.signatureOf claims
  let keyId ← matching "Grant" idPattern signer.keyId
  return { keyId, claims, signature }

omit [Platform] in
theorem matching_eq_ok {model : String} {pattern : Pattern} {text : String}
    {matched : Matched pattern} (accepted : matching model pattern text = .ok matched) :
    text = matched.val :=
  (Codec.permit_eq_some _ _ _).mp ((expect_eq_ok _ _ _).mp accepted)

theorem utcOf_eq_ok {model text : String} {instant : Utc}
    (accepted : utcOf model text = .ok instant) :
    text = instant.val :=
  (Codec.permit_eq_some isUtc _ _).mp ((expect_eq_ok _ _ _).mp accepted)

/-- An issued grant authorises its intent for its signer, in the window that was asked for. -/
theorem issue_authorises {signer : GrantSigner} {intent : Intent} {request : IssueRequest}
    {grant : Grant} (issued : signer.issue intent request = .ok grant) :
    signer.Authorises grant intent ∧ grant.claims.issuedAt.val = request.issuedAt ∧
      grant.claims.expiresAt.val = request.expiresAt := by
  unfold issue at issued
  obtain ⟨covered, issued⟩ := (raiseIf_bind_eq_ok _ _ _ _).mp issued
  obtain ⟨strong, issued⟩ := (raiseIf_bind_eq_ok _ _ _ _).mp issued
  obtain ⟨⟨⟩, window, issued⟩ := (bind_eq_ok _ _ _).mp issued
  obtain ⟨legacy, issued⟩ := (raiseIf_bind_eq_ok _ _ _ _).mp issued
  obtain ⟨intentDigest, digested, issued⟩ := (bind_eq_ok _ _ _).mp issued
  obtain ⟨grantId, _, issued⟩ := (bind_eq_ok _ _ _).mp issued
  obtain ⟨issuerId, _, issued⟩ := (bind_eq_ok _ _ _).mp issued
  obtain ⟨issuedAt, issuedEq, issued⟩ := (bind_eq_ok _ _ _).mp issued
  obtain ⟨expiresAt, expiresEq, issued⟩ := (bind_eq_ok _ _ _).mp issued
  obtain ⟨nonce, _, issued⟩ := (bind_eq_ok _ _ _).mp issued
  obtain ⟨signature, signed, issued⟩ := (bind_eq_ok _ _ _).mp issued
  obtain ⟨keyId, keyEq, issued⟩ := (bind_eq_ok _ _ _).mp issued
  cases issued
  rw [utcOf_eq_ok issuedEq, utcOf_eq_ok expiresEq] at window
  refine ⟨?_, (utcOf_eq_ok issuedEq).symm, (utcOf_eq_ok expiresEq).symm⟩
  exact {
    key := (matching_eq_ok keyEq).symm
    signature := signed
    intentId := rfl
    intentDigest := digested
    matrixId := rfl
    cellId := rfl
    action := rfl
    scope := rfl
    actionPayloadDigest := rfl
    legacy := not_not.mp legacy
    bounds := not_not.mp covered
    determinism := not_lt.mp strong
    window := window }

theorem validateWindow_eq_ok {issuedAt expiresAt : String}
    (valid : validateWindow issuedAt expiresAt = .ok ()) :
    ∃ issued expires, parseUtc issuedAt = .ok issued ∧ parseUtc expiresAt = .ok expires ∧
      issued < expires ∧ expires ≤ issued + maxGrantTtlSeconds := by
  unfold validateWindow at valid
  obtain ⟨issued, issuedEq, valid⟩ := (bind_eq_ok _ _ _).mp valid
  obtain ⟨expires, expiresEq, valid⟩ := (bind_eq_ok _ _ _).mp valid
  have within := not_not.mp ((raiseIf_eq_ok _ _ _).mp valid)
  exact ⟨issued, expires, issuedEq, expiresEq, within.1, within.2⟩

/-- Issued grants verify exactly in their window, and for no intent with another digest. -/
theorem issued_grants_verify (signer : GrantSigner) (intent : Intent) (request : IssueRequest)
    (grant : Grant) (returned : signer.issue intent request = .ok grant) :
    (∃ issued expires, parseUtc request.issuedAt = .ok issued ∧
      parseUtc request.expiresAt = .ok expires ∧
      ∀ checkedAt checked, parseUtc checkedAt = .ok checked →
        (signer.verify grant intent checkedAt = .ok () ↔
          issued ≤ checked + 30 ∧ checked < expires)) ∧
    ∀ other : Intent, digestDocument (Intent.codec.dump other) ≠
        digestDocument (Intent.codec.dump intent) →
      ∀ checkedAt, ∃ error, signer.verify grant other checkedAt = .error error := by
  obtain ⟨authorises, issuedAt, expiresAt⟩ := issue_authorises returned
  constructor
  · obtain ⟨issued, expires, issuedEq, expiresEq, _⟩ := validateWindow_eq_ok authorises.window
    refine ⟨issued, expires, issuedAt ▸ issuedEq, expiresAt ▸ expiresEq, ?_⟩
    intro checkedAt checked checkedEq
    rw [verify_eq_ok]
    constructor
    · rintro ⟨-, _, _, _, sameChecked, sameIssued, sameExpires, started, unexpired⟩
      cases checkedEq.symm.trans sameChecked
      cases issuedEq.symm.trans sameIssued
      cases expiresEq.symm.trans sameExpires
      exact ⟨started, unexpired⟩
    · rintro ⟨started, unexpired⟩
      exact ⟨authorises, checked, issued, expires, checkedEq, issuedEq, expiresEq, started,
        unexpired⟩
  · intro other different checkedAt
    cases outcome : signer.verify grant other checkedAt with
    | error error => exact ⟨error, rfl⟩
    | ok =>
        obtain ⟨authorisesOther, _⟩ := (verify_eq_ok signer grant other checkedAt).mp outcome
        exact absurd (authorisesOther.intentDigest.trans authorises.intentDigest.symm) different

end GrantSigner

end General

namespace Sample

/-- The request whose answer is the sample's grant. -/
def request : GrantSigner.IssueRequest where
  grantId := "g"
  issuerId := "x"
  bounds := claims.bounds
  minimumDeterminism := .d0Unverified
  issuedAt := noon.val
  expiresAt := later.val
  nonce := "0123456789abcdef"
  legacyApprovalV1 := none

theorem grant_issued : signer.issue (intent false) request = .ok grant := by
  unfold GrantSigner.issue
  refine (raiseIf_bind_eq_ok _ _ _ _).mpr ⟨by decide, (raiseIf_bind_eq_ok _ _ _ _).mpr
    ⟨by decide, (bind_eq_ok _ _ _).mpr ⟨(), grant_window, (raiseIf_bind_eq_ok _ _ _ _).mpr
      ⟨fun different => different rfl, (bind_eq_ok _ _ _).mpr
        ⟨intentDigest, intent_digest false, ?_⟩⟩⟩⟩⟩
  rfl

theorem issued_grants_verify_sample :
    signer.verify grant (intent false) noon.val = .ok () := by
  obtain ⟨⟨issued, expires, issuedEq, expiresEq, verifies⟩, _⟩ :=
    GrantSigner.issued_grants_verify signer (intent false) request grant grant_issued
  cases issuedEq.symm.trans noon_parses
  cases expiresEq.symm.trans later_parses
  exact (verifies noon.val noonSeconds noon_parses).mpr
    ⟨Nat.le_add_right _ _, Nat.lt_add_of_pos_right (by decide)⟩

end Sample

end EgoAgent.Rxp
