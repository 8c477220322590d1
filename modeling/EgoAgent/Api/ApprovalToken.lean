import EgoAgent.Lib.Base64
import EgoAgent.Lib.Codec
import EgoAgent.Api.Idempotency

/-!
Approval tokens: minted by the API, validated and consumed in the tool plane.

The two sides share the canonical claims, the HMAC and the prefix, but each has
its own rules for the length, the pattern and the comparison of every claim.
-/

namespace EgoAgent.Api

/-! ### What the API accepts -/

def isLowerHex (c : Char) : Bool := ('0' ≤ c && c ≤ '9') || ('a' ≤ c && c ≤ 'f')

def isSha256 (text : String) : Prop := text.length = 64 ∧ ∀ c ∈ text.toList, isLowerHex c = true

def isTaskChar (c : Char) : Bool :=
  ('A' ≤ c && c ≤ 'Z') || ('a' ≤ c && c ≤ 'z') || ('0' ≤ c && c ≤ '9') ||
    c = '.' || c = '_' || c = '-'

/-- Microseconds since 1970, up to the end of the year 9999. -/
structure Instant where
  micros : Nat
  representable : micros < 253402300800 * 1000000

/-- `int(datetime.timestamp())`. -/
def Instant.timestamp (instant : Instant) : Nat := instant.micros / 1000000

structure LiveExecutionContract (φ : Type) where
  action : String
  configSha256 : String
  actionPayload : Dict String (Json φ)
  rollbackPoint : Option String
  approvalTtlSeconds : Nat
  actionLength : 3 ≤ action.length ∧ action.length ≤ 200
  configDigest : isSha256 configSha256
  ttlBounds : 1 ≤ approvalTtlSeconds ∧ approvalTtlSeconds ≤ 900
  payloadConfig : actionPayload.get? "config_sha256" = some (.str configSha256)
  payloadLive : actionPayload.get? "synthetic" = some (.bool false)

inductive RiskLevel where
  | r2
  | r3
  deriving DecidableEq

/-- A non-synthetic task.  Its id is checked by `CreateTaskRequest`; its
generation is `gen_` and twelve digits of a UUID. -/
structure LiveTask (φ : Type) where
  id : String
  generation : BitVec 48
  riskLevel : RiskLevel
  contract : LiveExecutionContract φ
  idLength : 3 ≤ id.length ∧ id.length ≤ 160
  idChars : ∀ c ∈ id.toList, isTaskChar c = true
  rollbackPresent : riskLevel = .r3 → contract.rollbackPoint.isSome = true

inductive ApprovalStatus where
  | pending
  | approved
  | denied
  | expired
  | consumed
  deriving DecidableEq

structure ApprovalRecord where
  id : String
  status : ApprovalStatus
  scope : String
  action : String
  actionDigest : String
  configSha256 : Option String
  expiresAt : Instant
  approver : Option String
  tokenHash : Option String

section Issue

variable {φ : Type} [FloatText φ] (sha256 : Bytes → Digest) (hmacSha256 : Bytes → Bytes → Digest)

def LiveTask.generationText (task : LiveTask φ) : String :=
  "gen_" ++ String.ofList (hexDigits 12 task.generation.toNat)

def textSha256 (text : String) : String := (sha256 (utf8Encode text.toList)).labelled ""

/-- `_approval_contract`: the scope and the digest of a live task's action. -/
def LiveTask.approvalContract (task : LiveTask φ) : Except ServiceError (String × String) := do
  let payload : Json φ := .dict task.contract.actionPayload
  let payloadDigest ← canonicalSha256 sha256 payload
  let digest ← canonicalSha256 sha256
    (.dict [("action", .str task.contract.action), ("payload", payload)])
  pure (task.contract.action ++ ":" ++ task.id ++ ":" ++ task.generationText ++ ":" ++
    String.ofList (payloadDigest.toList.take 16), digest)

def approvalId (uuid : BitVec 128) : String := "apr_" ++ String.ofList (hexDigits 32 uuid.toNat)

def Instant.plusSeconds (instant : Instant) (seconds : Nat) : Except ServiceError Instant :=
  if fits : instant.micros + seconds * 1000000 < 253402300800 * 1000000 then .ok ⟨_, fits⟩
  else .error (.other "OverflowError" "date value out of range")

/-- `_enter_approval` with `build_approval`. -/
def LiveTask.enterApproval (task : LiveTask φ) (uuid : BitVec 128) (requestedAt : Instant) :
    Except ServiceError ApprovalRecord := do
  let (scope, digest) ← task.approvalContract sha256
  raiseIf (task.riskLevel = .r3 ∧ task.contract.rollbackPoint = none)
    (.control .policy "rollback_required"
      "R3 approval cannot be requested without a rollback point" 403)
  let expiresAt ← requestedAt.plusSeconds task.contract.approvalTtlSeconds
  pure
    { id := approvalId uuid
      status := .pending
      scope
      action := task.contract.action
      actionDigest := digest
      configSha256 := some task.contract.configSha256
      expiresAt
      approver := none
      tokenHash := none }

def tokenPrefix : String := "egoap1"

def maxTokenTtlSeconds : Nat := 900

/-- The claims, in the order `sort_keys` writes them. -/
def claimsValue (approval : ApprovalRecord) (configSha256 : String) (issuedAt expiresAt : Nat) :
    Value :=
  .dict
    [("action", .str approval.action), ("action_digest", .str approval.actionDigest),
      ("config_sha256", .str configSha256), ("expires_at", .int expiresAt),
      ("issued_at", .int issuedAt), ("jti", .str approval.id), ("scope", .str approval.scope),
      ("version", .int 1)]

def mintToken (secret payload : Bytes) : String :=
  String.ofList (['.'].intercalate
    [tokenPrefix.toList, base64Encode payload, base64Encode (hmacSha256 secret payload).bytes])

def issueHmacApprovalToken (approval : ApprovalRecord) (secret : String) (now : Instant) :
    Except ServiceError String := do
  raiseIf ((utf8Encode secret.toList).length < 32)
    (.control .policy "approval_secret_too_short"
      "The MCP approval HMAC secret must be at least 32 bytes" 403)
  let configSha256 ← expect
    (.control .policy "approval_contract_legacy"
      "This approval predates the GPU config-bound token contract; request a fresh approval" 403)
    approval.configSha256
  raiseIf (approval.expiresAt.timestamp ≤ now.timestamp ∨
      maxTokenTtlSeconds < approval.expiresAt.timestamp - now.timestamp)
    (.control .policy "approval_ttl_invalid"
      "The remaining MCP approval lifetime must be between 1 and 900 seconds" 403)
  pure (mintToken hmacSha256 (utf8Encode secret.toList) (utf8Encode
    (claimsValue approval configSha256 now.timestamp approval.expiresAt.timestamp).text))

/-- `decide_approval` for the decision `approved` under an HMAC secret. -/
def ApprovalRecord.approve (approval : ApprovalRecord) (approver expectedDigest : String)
    (now : Instant) (secret : String) : Except ServiceError (ApprovalRecord × String) := do
  raiseIf (approval.status ≠ .pending)
    (conflictError "approval_already_decided" "Approval is no longer pending")
  raiseIf (approval.expiresAt.micros ≤ now.micros)
    (.control .policy "approval_expired"
      "Approval request expired before a decision was recorded" 403)
  raiseIf (¬ isAscii expectedDigest)
    (.other "TypeError" "comparing strings with non-ASCII characters is not supported")
  raiseIf (approval.actionDigest ≠ expectedDigest)
    (.control .policy "approval_digest_mismatch"
      "The reviewed action digest does not match the pending action" 403)
  let token ← issueHmacApprovalToken hmacSha256 approval secret now
  pure ({ approval with
    status := .approved
    approver := some approver
    tokenHash := some (textSha256 sha256 token) }, token)

end Issue

/-! ### The tool plane -/

inductive ToolFailure where
  | structured (code message : String)
  | typeError

structure ApprovalClaims where
  jti : String
  action : String
  scope : String
  actionDigest : String
  configSha256 : String
  issuedAt : Int
  expiresAt : Int

def isJtiChar (c : Char) : Bool :=
  ('A' ≤ c && c ≤ 'Z') || ('a' ≤ c && c ≤ 'z') || ('0' ≤ c && c ≤ '9') || c = '_' || c = '-'

def claimNames : List String :=
  ["version", "jti", "action", "scope", "action_digest", "config_sha256", "issued_at", "expires_at"]

/-- The field rules of `ApprovalClaims`. -/
structure ApprovalClaims.Valid (claims : ApprovalClaims) : Prop where
  jti : 16 ≤ claims.jti.length ∧ claims.jti.length ≤ 128 ∧
    claims.jti.toList.all isJtiChar = true
  action : 1 ≤ claims.action.length ∧ claims.action.length ≤ 128
  scope : 1 ≤ claims.scope.length ∧ claims.scope.length ≤ 512
  actionDigest : claims.actionDigest.length = 64 ∧ claims.actionDigest.toList.all isLowerHex = true
  configSha256 : claims.configSha256.length = 64 ∧ claims.configSha256.toList.all isLowerHex = true
  issuedAt : 0 ≤ claims.issuedAt
  expiresAt : 0 ≤ claims.expiresAt

instance (claims : ApprovalClaims) : Decidable claims.Valid :=
  decidable_of_iff
    ((16 ≤ claims.jti.length ∧ claims.jti.length ≤ 128 ∧
        claims.jti.toList.all isJtiChar = true) ∧
      (1 ≤ claims.action.length ∧ claims.action.length ≤ 128) ∧
      (1 ≤ claims.scope.length ∧ claims.scope.length ≤ 512) ∧
      (claims.actionDigest.length = 64 ∧ claims.actionDigest.toList.all isLowerHex = true) ∧
      (claims.configSha256.length = 64 ∧ claims.configSha256.toList.all isLowerHex = true) ∧
      0 ≤ claims.issuedAt ∧ 0 ≤ claims.expiresAt)
    ⟨fun ⟨a, b, c, d, e, f, g⟩ => ⟨a, b, c, d, e, f, g⟩,
      fun valid => ⟨valid.jti, valid.action, valid.scope, valid.actionDigest, valid.configSha256,
        valid.issuedAt, valid.expiresAt⟩⟩

/-- `ApprovalClaims.model_validate`: strict types, every field, no other. -/
def ApprovalClaims.modelValidate : Value → Option ApprovalClaims
  | .dict members =>
      if members.all (fun member => member.1 ∈ claimNames) then
        match Dict.get? members "version", Dict.get? members "jti", Dict.get? members "action",
          Dict.get? members "scope", Dict.get? members "action_digest",
          Dict.get? members "config_sha256", Dict.get? members "issued_at",
          Dict.get? members "expires_at" with
        | some (.int 1), some (.str jti), some (.str action), some (.str scope),
          some (.str actionDigest), some (.str configSha256), some (.int issuedAt),
          some (.int expiresAt) =>
            let claims : ApprovalClaims :=
              { jti, action, scope, actionDigest, configSha256, issuedAt, expiresAt }
            if claims.Valid then some claims else none
        | _, _, _, _, _, _, _, _ => none
      else none
  | _ => none

structure Expected where
  action : String
  scope : String
  actionDigest : String
  configSha256 : String
  deriving DecidableEq

def tokenInvalid : ToolFailure :=
  .structured "approval_token_invalid" "The approval token is invalid"

def maxTokenBytes : Nat := 4096

def b64decode (text : List Char) : Except ToolFailure Bytes :=
  if text = [] then .error tokenInvalid else expect tokenInvalid (base64Decode text)

/-- `hmac.compare_digest` on text: only ASCII can be compared. -/
def compareDigest (left right : String) : Except ToolFailure Bool :=
  if isAscii left ∧ isAscii right then .ok (left = right) else .error .typeError

def mismatches (claims : ApprovalClaims) (expected : Expected) :
    Except ToolFailure (List String) := do
  let action ← compareDigest claims.action expected.action
  let scope ← compareDigest claims.scope expected.scope
  let actionDigest ← compareDigest claims.actionDigest expected.actionDigest
  let configSha256 ← compareDigest claims.configSha256 expected.configSha256
  pure ((if action then [] else ["action"]) ++ (if scope then [] else ["scope"]) ++
    (if actionDigest then [] else ["action_digest"]) ++
    (if configSha256 then [] else ["config_sha256"]))

section Validate

variable (hmacSha256 : Bytes → Bytes → Digest)

/-- The claims of a token whose signature is right. -/
def openToken (secret : Bytes) (token : String) : Except ToolFailure ApprovalClaims := do
  raiseIf (maxTokenBytes < (utf8Encode token.toList).length) tokenInvalid
  match token.toList.splitOn '.' with
  | [head, payloadText, signatureText] =>
      raiseIf (head ≠ tokenPrefix.toList) tokenInvalid
      let payload ← b64decode payloadText
      let signature ← b64decode signatureText
      raiseIf (signature ≠ (hmacSha256 secret payload).bytes) tokenInvalid
      expect tokenInvalid ((readBytes payload).bind ApprovalClaims.modelValidate)
  | _ => .error tokenInvalid

/-- The checks of a token's claims at a time. -/
def ApprovalClaims.check (claims : ApprovalClaims) (expected : Expected) (checkedAt : Int) :
    Except ToolFailure Unit := do
  raiseIf (claims.expiresAt ≤ claims.issuedAt ∨
    (maxTokenTtlSeconds : Int) < claims.expiresAt - claims.issuedAt) tokenInvalid
  raiseIf (checkedAt + 30 < claims.issuedAt)
    (.structured "approval_token_not_yet_valid" "The approval token was issued in the future")
  raiseIf (claims.expiresAt ≤ checkedAt)
    (.structured "approval_token_expired" "The approval token has expired")
  let found ← mismatches claims expected
  raiseIf (found ≠ [])
    (.structured "approval_scope_mismatch" "The approval token is not valid for this exact action")

/-- The second component is the replay store. -/
def validateAndConsume (secret : Bytes) (token : String) (expected : Expected) (checkedAt : Int) :
    Effect (List String) ToolFailure ApprovalClaims := fun consumed =>
  match openToken hmacSha256 secret token with
  | .error failure => (.error failure, consumed)
  | .ok claims =>
      match claims.check expected checkedAt with
      | .error failure => (.error failure, consumed)
      | .ok () =>
          if claims.jti ∈ consumed then
            (.error (.structured "approval_token_replayed"
              "The approval token has already been consumed"), consumed)
          else (.ok claims, claims.jti :: consumed)

end Validate

/-! ### Lengths on the wire -/

def wireLength (chars : List Char) : Nat := (utf8Encode chars).length

theorem wireLength_append (left right : List Char) :
    wireLength (left ++ right) = wireLength left + wireLength right := by
  unfold wireLength utf8Encode
  rw [List.flatMap_append, List.length_append]

theorem wireLength_cons (c : Char) (rest : List Char) :
    wireLength (c :: rest) = c.utf8Size + wireLength rest := by
  unfold wireLength utf8Encode
  rw [List.flatMap_cons, List.length_append, String.length_utf8EncodeChar]

theorem wireLength_nil : wireLength [] = 0 := rfl

section

variable {c : Char}

theorem utf8Size_ascii (ascii : c.toNat < 128) : c.utf8Size = 1 := by
  apply Char.utf8Size_eq_one_iff.mpr
  have bound : c.val.toNat < 128 := ascii
  rw [UInt32.le_iff_toNat_le]
  have limit : (127 : UInt32).toNat = 127 := rfl
  omega

theorem wireLength_ascii (chars : List Char) (ascii : ∀ c ∈ chars, c.toNat < 128) :
    wireLength chars = chars.length := by
  induction chars with
  | nil => rfl
  | cons c rest ih =>
      rw [wireLength_cons, utf8Size_ascii (ascii c List.mem_cons_self),
        ih fun other present => ascii other (List.mem_cons_of_mem _ present), List.length_cons]
      omega

/-- Characters that JSON writes as they are, in one byte. -/
def isWireChar (c : Char) : Prop := 45 ≤ c.toNat ∧ c.toNat ≤ 122 ∧ c.toNat ≠ 92

private theorem toNat_ne {c d : Char} (different : c.toNat ≠ d.toNat) : c ≠ d := by
  intro same
  exact different (congrArg Char.toNat same)

theorem escapeChar_wire (wire : isWireChar c) : escapeChar c = [c] := by
  obtain ⟨low, high, notBackslash⟩ := wire
  unfold escapeChar
  rw [if_neg (toNat_ne (show c.toNat ≠ 34 by omega)),
    if_neg (toNat_ne (show c.toNat ≠ 92 from notBackslash)),
    if_neg (toNat_ne (show c.toNat ≠ 10 by omega)), if_neg (toNat_ne (show c.toNat ≠ 13 by omega)),
    if_neg (toNat_ne (show c.toNat ≠ 9 by omega)), if_neg (toNat_ne (show c.toNat ≠ 12 by omega)),
    if_neg (toNat_ne (show c.toNat ≠ 8 by omega)), if_neg (show ¬ c.toNat < 32 by omega)]

private theorem hexDigit_utf8Size : ∀ value, value < 32 →
    (hexDigit (value / 16)).utf8Size = 1 ∧ (hexDigit (value % 16)).utf8Size = 1 := by
  decide

/-- An escaped character takes at most six bytes. -/
theorem wireLength_escapeChar (c : Char) : wireLength (escapeChar c) ≤ 6 := by
  have size := Char.utf8Size_le_four c
  unfold escapeChar
  split
  · decide
  · split
    · decide
    · split
      · decide
      · split
        · decide
        · split
          · decide
          · split
            · decide
            · split
              · decide
              · split
                · rename_i control
                  obtain ⟨high, low⟩ := hexDigit_utf8Size c.toNat control
                  simp only [wireLength_cons, wireLength_nil, high, low]
                  decide
                · rw [wireLength_cons, wireLength_nil]
                  omega

def escaped (chars : List Char) : List Char := chars.flatMap escapeChar

theorem wireLength_escaped (chars : List Char) : wireLength (escaped chars) ≤ 6 * chars.length := by
  induction chars with
  | nil => exact Nat.le_refl 0
  | cons c rest ih =>
      have head := wireLength_escapeChar c
      rw [escaped, List.flatMap_cons, wireLength_append, List.length_cons]
      unfold escaped at ih
      omega

theorem wireLength_escaped_wire (chars : List Char) (wire : ∀ c ∈ chars, isWireChar c) :
    wireLength (escaped chars) = chars.length := by
  induction chars with
  | nil => rfl
  | cons c rest ih =>
      have tail := ih fun other present => wire other (List.mem_cons_of_mem _ present)
      have head := wire c List.mem_cons_self
      rw [escaped, List.flatMap_cons, wireLength_append, List.length_cons, escapeChar_wire head,
        wireLength_cons, wireLength_nil, utf8Size_ascii (by have := head.2.1; omega)]
      unfold escaped at tail
      omega

theorem wireLength_quoted (text : String) :
    wireLength (quoted text) = 2 + wireLength (escaped text.toList) := by
  have mark : '"'.utf8Size = 1 := rfl
  rw [quoted, wireLength_cons, wireLength_append, wireLength_cons, wireLength_nil, mark, escaped]
  omega

theorem escaped_append (left right : List Char) :
    escaped (left ++ right) = escaped left ++ escaped right := List.flatMap_append

/-! ### Issued claims -/

/-- What every approval of an accepted task looks like on the wire. -/
structure ApprovalRecord.Shaped (approval : ApprovalRecord) (configSha256 : String) : Prop where
  jtiLength : approval.id.length = 36
  jti : ∀ c ∈ approval.id.toList, isJtiChar c = true
  scope : ∃ suffix, approval.scope = approval.action ++ suffix ∧ suffix.length ≤ 195 ∧
    ∀ c ∈ suffix.toList, isWireChar c
  actionDigest : isSha256 approval.actionDigest
  configSha256 : isSha256 configSha256
  action : 3 ≤ approval.action.length

private theorem wire_of_lowerHex (digit : isLowerHex c = true) : isWireChar c := by
  simp only [isLowerHex, Char.le_def, UInt32.le_iff_toNat_le, Bool.or_eq_true, Bool.and_eq_true,
    decide_eq_true_eq] at digit
  have value : c.val.toNat = c.toNat := rfl
  have zero : '0'.val.toNat = 48 := rfl
  have nine : '9'.val.toNat = 57 := rfl
  have low : 'a'.val.toNat = 97 := rfl
  have high : 'f'.val.toNat = 102 := rfl
  unfold isWireChar
  omega

private theorem wire_of_jtiChar (allowed : isJtiChar c = true) : isWireChar c := by
  simp only [isJtiChar, Char.le_def, UInt32.le_iff_toNat_le, Bool.or_eq_true, Bool.and_eq_true,
    decide_eq_true_eq] at allowed
  have value : c.val.toNat = c.toNat := rfl
  have zero : '0'.val.toNat = 48 := rfl
  have nine : '9'.val.toNat = 57 := rfl
  have upperLow : 'A'.val.toNat = 65 := rfl
  have upperHigh : 'Z'.val.toNat = 90 := rfl
  have lowerLow : 'a'.val.toNat = 97 := rfl
  have lowerHigh : 'z'.val.toNat = 122 := rfl
  unfold isWireChar
  rcases allowed with ((letter | dash) | rfl) | rfl
  · omega
  · omega
  · decide
  · decide

private theorem wire_of_taskChar (allowed : isTaskChar c = true) : isWireChar c := by
  by_cases dot : c = '.'
  · subst dot
    unfold isWireChar
    decide
  · apply wire_of_jtiChar
    simpa [isTaskChar, isJtiChar, dot] using allowed

end

private theorem numeral_wireLength {number : Nat} (bound : number < 10 ^ 12) :
    wireLength (numeral number) ≤ 12 := by
  have digits : numeral number = Nat.toDigits 10 number := by
    unfold numeral
    rw [if_neg (by omega)]
    rfl
  rw [digits, wireLength_ascii]
  · exact (Nat.length_toDigits_le_iff (by decide) (by decide)).mpr bound
  · intro c present
    have isDigit := Nat.isDigit_of_mem_toDigits (by decide) (by decide) present
    simp only [Char.isDigit, Bool.and_eq_true, decide_eq_true_eq, ge_iff_le,
      UInt32.le_iff_toNat_le] at isDigit
    have high := isDigit.2
    have limit : '9'.val.toNat = 57 := rfl
    have value : c.val.toNat = c.toNat := rfl
    omega

private theorem claimNames_wireLength :
    wireLength (escaped "action".toList) = 6 ∧
      wireLength (escaped "action_digest".toList) = 13 ∧
      wireLength (escaped "config_sha256".toList) = 13 ∧
      wireLength (escaped "expires_at".toList) = 10 ∧
      wireLength (escaped "issued_at".toList) = 9 ∧ wireLength (escaped "jti".toList) = 3 ∧
      wireLength (escaped "scope".toList) = 5 ∧ wireLength (escaped "version".toList) = 7 := by
  decide

private theorem marks_utf8Size :
    '{'.utf8Size = 1 ∧ ':'.utf8Size = 1 ∧ ','.utf8Size = 1 ∧ '}'.utf8Size = 1 := by
  decide

private theorem version_wireLength : wireLength (numeral 1) = 1 := rfl

theorem claims_wireLength {approval : ApprovalRecord} {configSha256 : String}
    (shaped : approval.Shaped configSha256) (short : approval.action.length ≤ 128)
    {issuedAt expiresAt : Nat} (issued : issuedAt < 10 ^ 12) (expires : expiresAt < 10 ^ 12) :
    wireLength (claimsValue approval configSha256 issuedAt expiresAt).text ≤ 2200 := by
  obtain ⟨suffix, scopeEq, suffixLength, suffixWire⟩ := shaped.scope
  have action : wireLength (escaped approval.action.toList) ≤ 768 := by
    have bound := wireLength_escaped approval.action.toList
    rw [String.length_toList] at bound
    omega
  have scope : wireLength (escaped approval.scope.toList) ≤ 963 := by
    rw [scopeEq, String.toList_append, escaped_append, wireLength_append,
      wireLength_escaped_wire _ suffixWire, String.length_toList]
    omega
  have jti : wireLength (escaped approval.id.toList) = 36 := by
    rw [wireLength_escaped_wire _ fun c present => wire_of_jtiChar (shaped.jti c present),
      String.length_toList, shaped.jtiLength]
  have actionDigest : wireLength (escaped approval.actionDigest.toList) = 64 := by
    rw [wireLength_escaped_wire _ fun c present => wire_of_lowerHex (shaped.actionDigest.2 c present),
      String.length_toList, shaped.actionDigest.1]
  have config : wireLength (escaped configSha256.toList) = 64 := by
    rw [wireLength_escaped_wire _ fun c present => wire_of_lowerHex (shaped.configSha256.2 c present),
      String.length_toList, shaped.configSha256.1]
  have issuedLength := numeral_wireLength issued
  have expiresLength := numeral_wireLength expires
  simp only [claimsValue, Value.text, textMembers, wireLength_cons, wireLength_append,
    wireLength_quoted, wireLength_nil, jti, actionDigest, config, version_wireLength]
  obtain ⟨key1, key2, key3, key4, key5, key6, key7, key8⟩ := claimNames_wireLength
  obtain ⟨mark1, mark2, mark3, mark4⟩ := marks_utf8Size
  simp only [key1, key2, key3, key4, key5, key6, key7, key8, mark1, mark2, mark3, mark4]
  linarith only [action, scope, issuedLength, expiresLength]

/-! ### Opening what was minted -/

theorem Instant.timestamp_lt (instant : Instant) : instant.timestamp < 10 ^ 12 := by
  have bound := instant.representable
  unfold timestamp
  omega

theorem claims_plain (approval : ApprovalRecord) (configSha256 : String)
    (issuedAt expiresAt : Nat) : (claimsValue approval configSha256 issuedAt expiresAt).Plain := by
  simp only [claimsValue, Value.Plain, PlainMembers, and_self]

private theorem prefix_plain : ∀ c ∈ tokenPrefix.toList, c ≠ '.' ∧ c.toNat < 128 := by
  intro c present
  have all : tokenPrefix.toList.all (fun c => decide (c ≠ '.' ∧ c.toNat < 128)) = true := rfl
  exact of_decide_eq_true (List.all_eq_true.mp all c present)

section

variable (hmacSha256 : Bytes → Bytes → Digest)

private theorem mintToken_toList (secret payload : Bytes) :
    (mintToken hmacSha256 secret payload).toList = ['.'].intercalate
      [tokenPrefix.toList, base64Encode payload, base64Encode (hmacSha256 secret payload).bytes] := by
  rw [mintToken, String.toList_ofList]

private theorem mintToken_split (secret payload : Bytes) :
    (mintToken hmacSha256 secret payload).toList.splitOn '.' =
      [tokenPrefix.toList, base64Encode payload,
        base64Encode (hmacSha256 secret payload).bytes] := by
  rw [mintToken_toList]
  apply List.splitOn_intercalate
  · intro part present dotted
    simp only [List.mem_cons, List.not_mem_nil, or_false] at present
    rcases present with same | same | same <;> rw [same] at dotted
    · exact (prefix_plain '.' dotted).1 rfl
    · exact (base64Encode_plain _ '.' dotted).1 rfl
    · exact (base64Encode_plain _ '.' dotted).1 rfl
  · exact List.cons_ne_nil _ _

private theorem intercalate_dots (first second third : List Char) :
    ['.'].intercalate [first, second, third] = first ++ '.' :: (second ++ '.' :: third) := by
  simp [List.intercalate, List.intersperse]

private theorem mintToken_wireLength (secret payload : Bytes) :
    wireLength (mintToken hmacSha256 secret payload).toList =
      51 + (payload.length * 4 + 2) / 3 := by
  have shape : (mintToken hmacSha256 secret payload).toList =
      tokenPrefix.toList ++ '.' :: (base64Encode payload ++
        '.' :: base64Encode (hmacSha256 secret payload).bytes) := by
    rw [mintToken_toList, intercalate_dots]
  have dot : '.'.utf8Size = 1 := rfl
  rw [shape, wireLength_append, wireLength_cons, wireLength_append, wireLength_cons, dot,
    wireLength_ascii _ fun c present => (prefix_plain c present).2,
    wireLength_ascii _ fun c present => (base64Encode_plain _ c present).2,
    wireLength_ascii _ fun c present => (base64Encode_plain _ c present).2,
    base64Encode_length, base64Encode_length, Digest.bytes_length]
  have six : tokenPrefix.toList.length = 6 := rfl
  omega

/-- A minted token opens to its payload, unless it is too long. -/
theorem openToken_mintToken (secret payload : Bytes) (nonempty : payload ≠ []) :
    openToken hmacSha256 secret (mintToken hmacSha256 secret payload) =
      if maxTokenBytes < 51 + (payload.length * 4 + 2) / 3 then .error tokenInvalid
      else expect tokenInvalid ((readBytes payload).bind ApprovalClaims.modelValidate) := by
  have length : (utf8Encode (mintToken hmacSha256 secret payload).toList).length =
      51 + (payload.length * 4 + 2) / 3 := mintToken_wireLength hmacSha256 secret payload
  have encoded : ∀ bytes : Bytes, bytes ≠ [] → b64decode (base64Encode bytes) = .ok bytes := by
    intro bytes present
    have notEmpty : base64Encode bytes ≠ [] := by
      intro empty
      have length := base64Encode_length bytes
      rw [empty, List.length_nil] at length
      have positive := List.length_pos_iff.mpr present
      omega
    rw [b64decode, if_neg notEmpty, base64Decode_base64Encode]
    rfl
  have signed : (hmacSha256 secret payload).bytes ≠ [] := by
    apply List.length_pos_iff.mp
    rw [Digest.bytes_length]
    decide
  unfold openToken
  rw [mintToken_split, length]
  by_cases long : maxTokenBytes < 51 + (payload.length * 4 + 2) / 3
  · rw [if_pos long, raiseIf, if_pos long]
    rfl
  · rw [if_neg long, raiseIf, if_neg long]
    simp only [encoded payload nonempty, encoded _ signed, raiseIf, ne_eq, not_true, if_false,
      bind, Except.bind]

end

/-- The claims of an issued token are valid unless the action is too long. -/
theorem modelValidate_claimsValue {approval : ApprovalRecord} {configSha256 : String}
    (shaped : approval.Shaped configSha256) (issuedAt expiresAt : Nat) :
    ApprovalClaims.modelValidate (claimsValue approval configSha256 issuedAt expiresAt) =
      if approval.action.length ≤ 128 then
        some
          { jti := approval.id, action := approval.action, scope := approval.scope,
            actionDigest := approval.actionDigest, configSha256, issuedAt, expiresAt }
      else none := by
  have read : ApprovalClaims.modelValidate (claimsValue approval configSha256 issuedAt expiresAt) =
      if ApprovalClaims.Valid
          { jti := approval.id, action := approval.action, scope := approval.scope,
            actionDigest := approval.actionDigest, configSha256, issuedAt, expiresAt } then
        some
          { jti := approval.id, action := approval.action, scope := approval.scope,
            actionDigest := approval.actionDigest, configSha256, issuedAt, expiresAt }
      else none := by
    unfold ApprovalClaims.modelValidate claimsValue
    rfl
  rw [read]
  obtain ⟨suffix, scopeEq, suffixLength, _⟩ := shaped.scope
  have long := shaped.action
  by_cases short : approval.action.length ≤ 128
  · rw [if_pos short, if_pos]
    constructor
    · refine ⟨?_, ?_, List.all_eq_true.mpr shaped.jti⟩
      · simp only [shaped.jtiLength]
        decide
      · simp only [shaped.jtiLength]
        decide
    · exact ⟨by simp only; omega, short⟩
    · simp only [scopeEq, String.length_append]
      omega
    · exact ⟨shaped.actionDigest.1, List.all_eq_true.mpr shaped.actionDigest.2⟩
    · exact ⟨shaped.configSha256.1, List.all_eq_true.mpr shaped.configSha256.2⟩
    · exact Int.natCast_nonneg issuedAt
    · exact Int.natCast_nonneg expiresAt
  · rw [if_neg short, if_neg]
    intro valid
    exact short valid.action.2

/-! ### What the API issues -/

section Issued

variable {φ : Type} [FloatText φ] {sha256 : Bytes → Digest} {hmacSha256 : Bytes → Bytes → Digest}

private theorem hexDigits_lowerHex (count value : Nat) :
    ∀ c ∈ hexDigits count value, isLowerHex c = true := by
  have digit : ∀ value, value < 16 → isLowerHex (hexDigit value) = true := by decide
  induction count generalizing value with
  | zero => intro c present; cases present
  | succ count ih =>
      intro c present
      rw [hexDigits, List.mem_append, List.mem_singleton] at present
      rcases present with earlier | same
      · exact ih _ c earlier
      · rw [same]
        exact digit _ (Nat.mod_lt _ (by decide))

private theorem labelled_toList (digest : Digest) :
    (digest.labelled "").toList = hexDigits 64 digest.toNat := by
  rw [Digest.labelled, String.toList_append, show "".toList = [] from rfl, List.nil_append,
    String.toList_ofList]
  rfl

theorem canonicalSha256_isSha256 {value : Json φ} {hash : String}
    (hashed : canonicalSha256 sha256 value = .ok hash) : isSha256 hash := by
  unfold canonicalSha256 at hashed
  cases encoded : canonicalJson value with
  | error error =>
      rw [encoded] at hashed
      cases hashed
  | ok text =>
      rw [encoded] at hashed
      simp only [Except.map, Except.ok.injEq] at hashed
      rw [← hashed]
      constructor
      · rw [← String.length_toList, labelled_toList, hexDigits_length]
      · intro c present
        rw [labelled_toList] at present
        exact hexDigits_lowerHex 64 _ c present

private theorem jti_of_lowerHex {c : Char} (digit : isLowerHex c = true) : isJtiChar c = true := by
  simp only [isLowerHex, isJtiChar, Char.le_def, UInt32.le_iff_toNat_le, Bool.or_eq_true,
    Bool.and_eq_true, decide_eq_true_eq] at digit ⊢
  have low : 'a'.val.toNat = 97 := rfl
  have high : 'f'.val.toNat = 102 := rfl
  have top : 'z'.val.toNat = 122 := rfl
  omega

theorem approvalId_shape (uuid : BitVec 128) :
    (approvalId uuid).length = 36 ∧ ∀ c ∈ (approvalId uuid).toList, isJtiChar c = true := by
  have label : "apr_".toList = ['a', 'p', 'r', '_'] := rfl
  constructor
  · rw [approvalId, ← String.length_toList, String.toList_append, label, String.toList_ofList,
      List.length_append, hexDigits_length]
    rfl
  · intro c present
    rw [approvalId, String.toList_append, label, String.toList_ofList, List.mem_append] at present
    rcases present with inLabel | inHex
    · have plain : ∀ c ∈ ['a', 'p', 'r', '_'], isJtiChar c = true := by
        simp only [List.forall_mem_cons, List.not_mem_nil, false_implies, implies_true, and_true]
        decide
      exact plain c inLabel
    · exact jti_of_lowerHex (hexDigits_lowerHex _ _ c inHex)

/-- What follows the action in a scope. -/
def LiveTask.scopeSuffix (task : LiveTask φ) (payloadDigest : String) : String :=
  ":" ++ task.id ++ ":" ++ task.generationText ++ ":" ++
    String.ofList (payloadDigest.toList.take 16)

private theorem colon_wire : ∀ c ∈ ":".toList, isWireChar c := by
  intro c present
  rw [show ":".toList = [':'] from rfl, List.mem_singleton] at present
  subst present
  unfold isWireChar
  decide

omit [FloatText φ] in
theorem LiveTask.generationText_shape (task : LiveTask φ) :
    task.generationText.length = 16 ∧ ∀ c ∈ task.generationText.toList, isWireChar c := by
  have label : "gen_".toList = ['g', 'e', 'n', '_'] := rfl
  constructor
  · rw [generationText, ← String.length_toList, String.toList_append, label,
      String.toList_ofList, List.length_append, hexDigits_length]
    rfl
  · intro c present
    rw [generationText, String.toList_append, label, String.toList_ofList,
      List.mem_append] at present
    rcases present with inLabel | inHex
    · have plain : ∀ c ∈ ['g', 'e', 'n', '_'], isJtiChar c = true := by
        simp only [List.forall_mem_cons, List.not_mem_nil, false_implies, implies_true, and_true]
        decide
      exact wire_of_jtiChar (plain c inLabel)
    · exact wire_of_lowerHex (hexDigits_lowerHex _ _ c inHex)

omit [FloatText φ] in
theorem LiveTask.scopeSuffix_shape (task : LiveTask φ) {payloadDigest : String}
    (digest : isSha256 payloadDigest) :
    (task.scopeSuffix payloadDigest).length ≤ 195 ∧
      ∀ c ∈ (task.scopeSuffix payloadDigest).toList, isWireChar c := by
  have generation := task.generationText_shape
  have idLength := task.idLength.2
  have colon : ":".length = 1 := rfl
  constructor
  · have taken : (String.ofList (payloadDigest.toList.take 16)).length ≤ 16 := by
      rw [← String.length_toList, String.toList_ofList]
      exact List.length_take_le 16 _
    simp only [scopeSuffix, String.length_append, generation.1, colon]
    omega
  · intro c present
    simp only [scopeSuffix, String.toList_append, String.toList_ofList, List.mem_append] at present
    rcases present with ((((first | id) | second) | generated) | third) | hex
    · exact colon_wire c first
    · exact wire_of_taskChar (task.idChars c id)
    · exact colon_wire c second
    · exact generation.2 c generated
    · exact colon_wire c third
    · exact wire_of_lowerHex (digest.2 c (List.mem_of_mem_take hex))

/-- An approval of a live task carries the task's action and config digest. -/
structure ApprovalRecord.For (approval : ApprovalRecord) (task : LiveTask φ) : Prop where
  action : approval.action = task.contract.action
  configSha256 : approval.configSha256 = some task.contract.configSha256
  shaped : approval.Shaped task.contract.configSha256

variable {approval : ApprovalRecord}

theorem LiveTask.enterApproval_for {task : LiveTask φ} {uuid : BitVec 128} {requestedAt : Instant}
    (entered : task.enterApproval sha256 uuid requestedAt = .ok approval) : approval.For task := by
  unfold enterApproval at entered
  obtain ⟨⟨scope, digest⟩, contracted, rest⟩ := (bind_eq_ok _ _ _).mp entered
  obtain ⟨_, rest⟩ := (raiseIf_bind_eq_ok _ _ _ _).mp rest
  obtain ⟨expiresAt, _, built⟩ := (bind_eq_ok _ _ _).mp rest
  unfold approvalContract at contracted
  obtain ⟨payloadDigest, payloadHashed, contracted⟩ := (bind_eq_ok _ _ _).mp contracted
  obtain ⟨actionDigest, actionHashed, contracted⟩ := (bind_eq_ok _ _ _).mp contracted
  have pair := Prod.mk.inj (Except.ok.inj contracted)
  have record := Except.ok.inj built
  rw [← record]
  rw [← pair.1, ← pair.2]
  have id := approvalId_shape uuid
  have suffix := task.scopeSuffix_shape (canonicalSha256_isSha256 payloadHashed)
  refine ⟨rfl, rfl, id.1, id.2, ⟨task.scopeSuffix payloadDigest, ?_, suffix.1, suffix.2⟩,
    canonicalSha256_isSha256 actionHashed, task.contract.configDigest, task.contract.actionLength.1⟩
  simp only [scopeSuffix, String.append_assoc]

variable {configSha256 : String}

/-- The token of an approval that has been approved. -/
theorem ApprovalRecord.approve_token {approval later : ApprovalRecord}
    {approver expectedDigest secret token : String} {now : Instant}
    (config : approval.configSha256 = some configSha256)
    (approved : approval.approve sha256 hmacSha256 approver expectedDigest now secret =
      .ok (later, token)) :
    token = mintToken hmacSha256 (utf8Encode secret.toList) (utf8Encode
      (claimsValue approval configSha256 now.timestamp approval.expiresAt.timestamp).text) ∧
    now.timestamp < approval.expiresAt.timestamp ∧
    approval.expiresAt.timestamp - now.timestamp ≤ 900 := by
  unfold approve at approved
  obtain ⟨_, rest⟩ := (raiseIf_bind_eq_ok _ _ _ _).mp approved
  iterate 3 obtain ⟨_, rest⟩ := (raiseIf_bind_eq_ok _ _ _ _).mp rest
  obtain ⟨minted, issued, rest⟩ := (bind_eq_ok _ _ _).mp rest
  rw [(Prod.mk.inj (Except.ok.inj rest)).2] at issued
  unfold issueHmacApprovalToken at issued
  obtain ⟨_, issued⟩ := (raiseIf_bind_eq_ok _ _ _ _).mp issued
  obtain ⟨found, expected, issued⟩ := (bind_eq_ok _ _ _).mp issued
  rw [config, expect_eq_ok] at expected
  cases expected
  obtain ⟨lifetime, issued⟩ := (raiseIf_bind_eq_ok _ _ _ _).mp issued
  simp only [not_or, Nat.not_le, Nat.not_lt] at lifetime
  exact ⟨(Except.ok.inj issued).symm, lifetime.1, lifetime.2⟩

/-! ### Validation -/

def ApprovalClaims.expected (claims : ApprovalClaims) : Expected :=
  ⟨claims.action, claims.scope, claims.actionDigest, claims.configSha256⟩

def Expected.ascii (expected : Expected) : Prop :=
  isAscii expected.action ∧ isAscii expected.scope ∧ isAscii expected.actionDigest ∧
    isAscii expected.configSha256

theorem mismatches_ascii {claims : ApprovalClaims} {expected : Expected}
    (own : claims.expected.ascii) (other : expected.ascii) :
    ∃ found, mismatches claims expected = .ok found ∧ (found = [] ↔ expected = claims.expected) := by
  obtain ⟨own1, own2, own3, own4⟩ := own
  obtain ⟨other1, other2, other3, other4⟩ := other
  unfold mismatches compareDigest
  rw [if_pos ⟨own1, other1⟩, if_pos ⟨own2, other2⟩, if_pos ⟨own3, other3⟩, if_pos ⟨own4, other4⟩]
  refine ⟨_, rfl, ?_⟩
  obtain ⟨action, scope, actionDigest, configSha256⟩ := expected
  simp only [ApprovalClaims.expected, Expected.mk.injEq, List.append_eq_nil_iff,
    decide_eq_true_eq]
  constructor
  · intro nothing
    obtain ⟨⟨⟨first, second⟩, third⟩, fourth⟩ := nothing
    refine ⟨?_, ?_, ?_, ?_⟩
    · by_contra different
      rw [if_neg (Ne.symm different)] at first
      cases first
    · by_contra different
      rw [if_neg (Ne.symm different)] at second
      cases second
    · by_contra different
      rw [if_neg (Ne.symm different)] at third
      cases third
    · by_contra different
      rw [if_neg (Ne.symm different)] at fourth
      cases fourth
  · intro same
    obtain ⟨rfl, rfl, rfl, rfl⟩ := same
    simp

theorem mismatches_not_ascii {claims : ApprovalClaims} {expected : Expected}
    (mixed : ¬ (claims.expected.ascii ∧ expected.ascii)) :
    mismatches claims expected = .error .typeError := by
  unfold mismatches compareDigest
  by_cases first : isAscii claims.action ∧ isAscii expected.action
  · rw [if_pos first]
    by_cases second : isAscii claims.scope ∧ isAscii expected.scope
    · rw [if_pos second]
      by_cases third : isAscii claims.actionDigest ∧ isAscii expected.actionDigest
      · rw [if_pos third]
        by_cases fourth : isAscii claims.configSha256 ∧ isAscii expected.configSha256
        · exact absurd ⟨⟨first.1, second.1, third.1, fourth.1⟩,
            ⟨first.2, second.2, third.2, fourth.2⟩⟩ mixed
        · rw [if_neg fourth]
          rfl
      · rw [if_neg third]
        rfl
    · rw [if_neg second]
      rfl
  · rw [if_neg first]
    rfl

/-- A token works at a time for what is expected there: it is accepted while its
id is unused, never again after that, and for anything else it is refused with a
structured error and not consumed. -/
structure Interoperates (hmacSha256 : Bytes → Bytes → Digest) (secret : Bytes) (token jti : String)
    (own expected : Expected) (issuedAt expiresAt checkedAt : Int) : Prop where
  accepted : expected = own → issuedAt - 30 ≤ checkedAt → checkedAt < expiresAt →
    ∀ consumed, jti ∉ consumed → ∃ claims,
      validateAndConsume hmacSha256 secret token expected checkedAt consumed =
        (.ok claims, jti :: consumed)
  once : expected = own → ∀ consumed, jti ∈ consumed → ∃ failure,
    validateAndConsume hmacSha256 secret token expected checkedAt consumed =
      (.error failure, consumed)
  rejected : expected ≠ own → ∀ consumed, ∃ code message,
    validateAndConsume hmacSha256 secret token expected checkedAt consumed =
      (.error (.structured code message), consumed)

/-- The claims of an issued token. -/
def ApprovalRecord.claims (approval : ApprovalRecord) (configSha256 : String)
    (issuedAt expiresAt : Nat) : ApprovalClaims :=
  { jti := approval.id, action := approval.action, scope := approval.scope,
    actionDigest := approval.actionDigest, configSha256, issuedAt, expiresAt }

/-- Opening an issued token fails exactly when its action is too long. -/
theorem openToken_issued
    (shaped : approval.Shaped configSha256) (hmacSha256 : Bytes → Bytes → Digest) (secret : Bytes)
    {issuedAt expiresAt : Nat} (issued : issuedAt < 10 ^ 12) (expires : expiresAt < 10 ^ 12) :
    openToken hmacSha256 secret (mintToken hmacSha256 secret (utf8Encode
      (claimsValue approval configSha256 issuedAt expiresAt).text)) =
      if approval.action.length ≤ 128 then .ok (approval.claims configSha256 issuedAt expiresAt)
      else .error tokenInvalid := by
  have nonempty : utf8Encode (claimsValue approval configSha256 issuedAt expiresAt).text ≠ [] := by
    apply List.length_pos_iff.mp
    have first : (claimsValue approval configSha256 issuedAt expiresAt).text =
        '{' :: (claimsValue approval configSha256 issuedAt expiresAt).text.tail := rfl
    rw [first]
    change 0 < wireLength _
    have brace : '{'.utf8Size = 1 := rfl
    rw [wireLength_cons, brace]
    omega
  have opened : (readBytes (utf8Encode
      (claimsValue approval configSha256 issuedAt expiresAt).text)).bind
        ApprovalClaims.modelValidate =
      if approval.action.length ≤ 128 then some (approval.claims configSha256 issuedAt expiresAt)
      else none := by
    rw [readBytes_utf8Encode_text _ (claims_plain _ _ _ _), Option.bind_some,
      modelValidate_claimsValue shaped]
    rfl
  rw [openToken_mintToken _ _ _ nonempty, opened]
  by_cases short : approval.action.length ≤ 128
  · have bounded : (utf8Encode (claimsValue approval configSha256 issuedAt expiresAt).text).length ≤
        2200 := claims_wireLength shaped short issued expires
    generalize (utf8Encode
      (claimsValue approval configSha256 issuedAt expiresAt).text).length = length at bounded
    have fits : ¬ maxTokenBytes < 51 + (length * 4 + 2) / 3 := by
      unfold maxTokenBytes
      omega
    rw [if_neg fits, if_pos short, if_pos short]
    rfl
  · rw [if_neg short, if_neg short]
    split <;> rfl

/-- The checks of issued claims. -/
theorem check_issued {claims : ApprovalClaims} {expected : Expected} {checkedAt : Int}
    (lifetime : claims.issuedAt < claims.expiresAt)
    (ttl : claims.expiresAt - claims.issuedAt ≤ 900) :
    (¬ (claims.issuedAt - 30 ≤ checkedAt ∧ checkedAt < claims.expiresAt) →
      ∃ code message, claims.check expected checkedAt = .error (.structured code message)) ∧
    (claims.issuedAt - 30 ≤ checkedAt → checkedAt < claims.expiresAt →
      claims.check expected checkedAt = (mismatches claims expected).bind fun found =>
        raiseIf (found ≠ []) (.structured "approval_scope_mismatch"
          "The approval token is not valid for this exact action")) := by
  have lives : ¬ (claims.expiresAt ≤ claims.issuedAt ∨
      (maxTokenTtlSeconds : Int) < claims.expiresAt - claims.issuedAt) := by
    unfold maxTokenTtlSeconds
    omega
  unfold ApprovalClaims.check
  simp only [raiseIf, if_neg lives]
  constructor
  · intro outside
    by_cases early : checkedAt + 30 < claims.issuedAt
    · rw [if_pos early]
      exact ⟨_, _, rfl⟩
    · rw [if_neg early, if_pos (by omega)]
      exact ⟨_, _, rfl⟩
  · intro started running
    rw [if_neg (by omega), if_neg (by omega)]
    rfl

/-- Only the action of an issued token can fail to be ASCII. -/
theorem claims_ascii_iff (shaped : approval.Shaped configSha256) (issuedAt expiresAt : Nat) :
    (approval.claims configSha256 issuedAt expiresAt).expected.ascii ↔ isAscii approval.action := by
  have hexAscii : ∀ text, isSha256 text → isAscii text := by
    intro text digest c present
    have bound := (wire_of_lowerHex (digest.2 c present)).2.1
    omega
  constructor
  · intro ascii
    exact ascii.1
  · intro action
    refine ⟨action, ?_, hexAscii _ shaped.actionDigest, hexAscii _ shaped.configSha256⟩
    obtain ⟨suffix, scopeEq, _, wire⟩ := shaped.scope
    change isAscii approval.scope
    rw [scopeEq]
    apply isAscii_append action
    intro c present
    have bound := (wire c present).2.1
    omega

variable {hmacSha256 : Bytes → Bytes → Digest}

/-- What validation answers once a token has been opened. -/
theorem validateAndConsume_opened {secret : Bytes} {token : String} {claims : ApprovalClaims}
    (opened : openToken hmacSha256 secret token = .ok claims) (expected : Expected)
    (checkedAt : Int) (consumed : List String) :
    validateAndConsume hmacSha256 secret token expected checkedAt consumed =
      match claims.check expected checkedAt with
      | .error failure => (.error failure, consumed)
      | .ok () =>
          if claims.jti ∈ consumed then
            (.error (.structured "approval_token_replayed"
              "The approval token has already been consumed"), consumed)
          else (.ok claims, claims.jti :: consumed) := by
  unfold validateAndConsume
  rw [opened]

/-- A token that opens interoperates outside its window and, inside it, when all
that is compared is ASCII. -/
theorem interoperates_opened {secret : Bytes} {token : String} {claims : ApprovalClaims}
    (opened : openToken hmacSha256 secret token = .ok claims)
    (lifetime : claims.issuedAt < claims.expiresAt)
    (ttl : claims.expiresAt - claims.issuedAt ≤ 900) (expected : Expected) (checkedAt : Int) :
    Interoperates hmacSha256 secret token claims.jti claims.expected expected claims.issuedAt
        claims.expiresAt checkedAt ↔
      ¬ (claims.issuedAt - 30 ≤ checkedAt ∧ checkedAt < claims.expiresAt) ∨
        (claims.expected.ascii ∧ expected.ascii) := by
  have answer := validateAndConsume_opened opened expected checkedAt
  obtain ⟨outside, inside⟩ := @check_issued claims expected checkedAt lifetime ttl
  by_cases window : claims.issuedAt - 30 ≤ checkedAt ∧ checkedAt < claims.expiresAt
  · have compared := inside window.1 window.2
    by_cases ascii : claims.expected.ascii ∧ expected.ascii
    · -- Everything can be compared: the verdict is equality.
      obtain ⟨found, ran, none⟩ := mismatches_ascii ascii.1 ascii.2
      rw [ran] at compared
      by_cases same : expected = claims.expected
      · have passed : claims.check expected checkedAt = .ok () := by
          rw [compared]
          simp only [Except.bind, raiseIf, none.mpr same, ne_eq, not_true, if_false]
        constructor
        · intro _
          exact .inr ascii
        · intro _
          constructor
          · intro _ _ _ consumed unused
            refine ⟨claims, ?_⟩
            rw [answer, passed]
            simp only [if_neg unused]
          · intro _ consumed used
            refine ⟨.structured "approval_token_replayed"
              "The approval token has already been consumed", ?_⟩
            rw [answer, passed]
            simp only [if_pos used]
          · intro different
            exact absurd same different
      · have refused : claims.check expected checkedAt =
            .error (.structured "approval_scope_mismatch"
              "The approval token is not valid for this exact action") := by
          rw [compared]
          have mismatch : found ≠ [] := fun nothing => same (none.mp nothing)
          simp only [Except.bind, raiseIf, if_pos mismatch]
        constructor
        · intro _
          exact .inr ascii
        · intro _
          constructor
          · intro equal
            exact absurd equal same
          · intro equal
            exact absurd equal same
          · intro _ consumed
            refine ⟨"approval_scope_mismatch",
              "The approval token is not valid for this exact action", ?_⟩
            rw [answer, refused]
    · have broken : claims.check expected checkedAt = .error .typeError := by
        rw [compared, mismatches_not_ascii ascii]
        rfl
      constructor
      · intro works
        by_cases same : expected = claims.expected
        · obtain ⟨accepted, ran⟩ := works.accepted same window.1 window.2 [] List.not_mem_nil
          rw [answer, broken] at ran
          cases ran
        · obtain ⟨code, message, ran⟩ := works.rejected same []
          rw [answer, broken] at ran
          cases ran
      · intro condition
        rcases condition with away | whole
        · exact absurd window away
        · exact absurd whole ascii
  · obtain ⟨code, message, failed⟩ := @outside window
    constructor
    · intro _
      exact .inl window
    · intro _
      constructor
      · intro _ started running
        exact absurd ⟨started, running⟩ window
      · intro _ consumed _
        refine ⟨.structured code message, ?_⟩
        rw [answer, failed]
      · intro _ consumed
        refine ⟨code, message, ?_⟩
        rw [answer, failed]

/-- An API token interoperates exactly when, inside its window, the action is at
most 128 characters long and everything compared is ASCII; a wrong expectation
is also refused properly outside the window and for a longer action. -/
theorem token_interoperates_iff {task : LiveTask φ} {uuid : BitVec 128} {requestedAt now : Instant}
    {approval later : ApprovalRecord} {approver expectedDigest secret token : String}
    (entered : task.enterApproval sha256 uuid requestedAt = .ok approval)
    (approved : approval.approve sha256 hmacSha256 approver expectedDigest now secret =
      .ok (later, token)) (expected : Expected) (checkedAt : Int) :
    Interoperates hmacSha256 (utf8Encode secret.toList) token approval.id
        ⟨approval.action, approval.scope, approval.actionDigest, task.contract.configSha256⟩
        expected now.timestamp approval.expiresAt.timestamp checkedAt ↔
      ¬ ((now.timestamp : Int) - 30 ≤ checkedAt ∧ checkedAt < approval.expiresAt.timestamp) ∨
        (128 < task.contract.action.length ∧ expected ≠
          ⟨approval.action, approval.scope, approval.actionDigest, task.contract.configSha256⟩) ∨
        (task.contract.action.length ≤ 128 ∧ isAscii task.contract.action ∧ expected.ascii) := by
  have built := LiveTask.enterApproval_for entered
  have shaped := built.shaped
  obtain ⟨tokenEq, lifetime, ttl⟩ := ApprovalRecord.approve_token built.configSha256 approved
  have opened := openToken_issued shaped hmacSha256 (utf8Encode secret.toList)
    now.timestamp_lt approval.expiresAt.timestamp_lt
  rw [← tokenEq] at opened
  rw [← built.action]
  by_cases short : approval.action.length ≤ 128
  · rw [if_pos short] at opened
    have works := interoperates_opened opened
      (by simp only [ApprovalRecord.claims]; omega) (by simp only [ApprovalRecord.claims]; omega)
      expected checkedAt
    rw [claims_ascii_iff shaped] at works
    apply works.trans
    constructor
    · intro condition
      rcases condition with outside | ⟨action, ascii⟩
      · exact .inl outside
      · exact .inr (.inr ⟨short, action, ascii⟩)
    · intro condition
      rcases condition with outside | ⟨long, _⟩ | ⟨_, action, ascii⟩
      · exact .inl outside
      · omega
      · exact .inr ⟨action, ascii⟩
  · -- Whatever is expected, the token does not open.
    rw [if_neg short] at opened
    have answer : ∀ consumed, validateAndConsume hmacSha256 (utf8Encode secret.toList) token
        expected checkedAt consumed = (.error tokenInvalid, consumed) := by
      intro consumed
      unfold validateAndConsume
      rw [opened]
    constructor
    · intro works
      by_cases window : (now.timestamp : Int) - 30 ≤ checkedAt ∧
          checkedAt < approval.expiresAt.timestamp
      · apply Or.inr
        apply Or.inl
        refine ⟨by omega, ?_⟩
        intro same
        obtain ⟨claims, accepted⟩ := works.accepted same window.1 window.2 [] List.not_mem_nil
        rw [answer] at accepted
        cases accepted
      · exact .inl window
    · intro condition
      constructor
      · intro same started running
        rcases condition with outside | ⟨_, different⟩ | ⟨fits, _⟩
        · exact absurd ⟨started, running⟩ outside
        · exact absurd same different
        · exact absurd fits short
      · intro _ consumed _
        exact ⟨tokenInvalid, answer consumed⟩
      · intro _ consumed
        exact ⟨_, _, answer consumed⟩

/-! ### Approvals that are granted -/

theorem LiveTask.enterApproval_ok (task : LiveTask φ) (uuid : BitVec 128) (requestedAt : Instant)
    (finite : (Json.dict task.contract.actionPayload).finite = true)
    (fits : requestedAt.micros + task.contract.approvalTtlSeconds * 1000000 <
      253402300800 * 1000000) :
    ∃ approval, task.enterApproval sha256 uuid requestedAt = .ok approval ∧
      approval.status = .pending ∧ approval.expiresAt.micros =
        requestedAt.micros + task.contract.approvalTtlSeconds * 1000000 := by
  have hashed : ∀ value : Json φ, value.finite = true →
      ∃ hash, canonicalSha256 sha256 value = .ok hash := by
    intro value finite
    have encoded : canonicalJson value = .ok value.sorted.text := by
      rw [canonicalJson, if_pos finite]
    exact ⟨_, (canonicalSha256_eq_ok sha256 value _).mpr ⟨_, encoded, rfl⟩⟩
  have payloadHashed := hashed (.dict task.contract.actionPayload) finite
  have actionHashed := hashed
    (.dict [("action", .str task.contract.action), ("payload", .dict task.contract.actionPayload)])
    (by
      simp only [Json.finite, finiteMembers, Bool.and_true, Bool.true_and]
      exact finite)
  obtain ⟨payloadDigest, payloadEq⟩ := payloadHashed
  obtain ⟨actionDigest, actionEq⟩ := actionHashed
  have guarded : ¬ (task.riskLevel = .r3 ∧ task.contract.rollbackPoint = none) := by
    intro unguarded
    have present := task.rollbackPresent unguarded.1
    rw [unguarded.2] at present
    cases present
  have expires : requestedAt.plusSeconds task.contract.approvalTtlSeconds =
      .ok ⟨requestedAt.micros + task.contract.approvalTtlSeconds * 1000000, fits⟩ := by
    unfold Instant.plusSeconds
    rw [dif_pos fits]
  have contracted : ∃ scope, task.approvalContract sha256 = .ok (scope, actionDigest) := by
    unfold approvalContract
    simp only [payloadEq, actionEq, bind, Except.bind, pure, Except.pure]
    exact ⟨_, rfl⟩
  obtain ⟨scope, contractEq⟩ := contracted
  refine ⟨⟨approvalId uuid, .pending, scope, task.contract.action, actionDigest,
    some task.contract.configSha256, ⟨_, fits⟩, none, none⟩, ?_, rfl, rfl⟩
  unfold enterApproval
  apply (bind_eq_ok _ _ _).mpr
  refine ⟨(scope, actionDigest), contractEq, ?_⟩
  apply (raiseIf_bind_eq_ok _ _ _ _).mpr
  refine ⟨guarded, ?_⟩
  apply (bind_eq_ok _ _ _).mpr
  exact ⟨_, expires, rfl⟩

theorem ApprovalRecord.approve_ok
    (config : approval.configSha256 = some configSha256) (digest : isSha256 approval.actionDigest)
    (pending : approval.status = .pending) (approver : String) {now : Instant} {secret : String}
    (long : 32 ≤ (utf8Encode secret.toList).length)
    (lifetime : now.timestamp < approval.expiresAt.timestamp)
    (ttl : approval.expiresAt.timestamp - now.timestamp ≤ 900) :
    ∃ later token, approval.approve sha256 hmacSha256 approver approval.actionDigest now secret =
      .ok (later, token) := by
  have ascii : isAscii approval.actionDigest := by
    intro c present
    have bound := (wire_of_lowerHex (digest.2 c present)).2.1
    omega
  have alive : ¬ approval.expiresAt.micros ≤ now.micros := by
    unfold Instant.timestamp at lifetime
    omega
  have minted : ∃ token, issueHmacApprovalToken hmacSha256 approval secret now = .ok token := by
    have enough : ¬ (utf8Encode secret.toList).length < 32 := by omega
    have bounded : ¬ (approval.expiresAt.timestamp ≤ now.timestamp ∨
        maxTokenTtlSeconds < approval.expiresAt.timestamp - now.timestamp) := by
      unfold maxTokenTtlSeconds
      omega
    unfold issueHmacApprovalToken
    simp only [raiseIf, if_neg enough, config, expect, if_neg bounded, bind, Except.bind, pure,
      Except.pure]
    exact ⟨_, rfl⟩
  obtain ⟨token, issued⟩ := minted
  unfold approve
  simp only [raiseIf, pending, ascii, ne_eq, not_true, if_false, if_neg alive, issued, bind,
    Except.bind, pure, Except.pure]
  exact ⟨_, _, rfl⟩

end Issued

namespace Sample

def keyedSum (secret payload : Bytes) : Digest := byteSum (secret ++ payload)

def zeros : String := String.ofList (List.replicate 64 '0')

private theorem zeros_toList : zeros.toList = List.replicate 64 '0' := String.toList_ofList

private theorem zeros_isSha256 : isSha256 zeros := by
  unfold isSha256
  rw [← String.length_toList, zeros_toList]
  refine ⟨List.length_replicate, ?_⟩
  intro c present
  rw [List.eq_of_mem_replicate present]
  rfl

def actionName (size : Nat) : String := String.ofList (List.replicate size 'a')

private theorem actionName_length (size : Nat) : (actionName size).length = size := by
  rw [actionName, String.length_ofList, List.length_replicate]

/-- A task whose action has `size` characters. -/
def launch (size : Nat) (bounds : 3 ≤ size ∧ size ≤ 200) : LiveTask Double where
  id := "task-0001"
  generation := 1
  riskLevel := .r2
  contract :=
    { action := actionName size
      configSha256 := zeros
      actionPayload := [("config_sha256", .str zeros), ("synthetic", .bool false)]
      rollbackPoint := none
      approvalTtlSeconds := 900
      actionLength := by rw [actionName_length]; exact bounds
      configDigest := zeros_isSha256
      ttlBounds := by decide
      payloadConfig := rfl
      payloadLive := rfl }
  idLength := by decide
  idChars := by
    have all : "task-0001".toList.all isTaskChar = true := rfl
    exact List.all_eq_true.mp all
  rollbackPresent := by
    intro impossible
    cases impossible

def newYear : Instant := ⟨1767225600000000, by omega⟩

def secret : String := String.ofList (List.replicate 32 's')

private theorem secret_length : 32 ≤ (utf8Encode secret.toList).length := by
  have chars : secret.toList = List.replicate 32 's' := String.toList_ofList
  rw [chars]
  decide

/-- An approval of the task, granted at the moment it was requested. -/
theorem launch_granted (size : Nat) (bounds : 3 ≤ size ∧ size ≤ 200) :
    ∃ approval later token,
      (launch size bounds).enterApproval byteSum 7 newYear = .ok approval ∧
      approval.approve byteSum keyedSum "operator" approval.actionDigest newYear secret =
        .ok (later, token) ∧
      approval.expiresAt.timestamp = 1767226500 := by
  have requested : newYear.micros = 1767225600000000 := rfl
  have ttl : (launch size bounds).contract.approvalTtlSeconds = 900 := rfl
  obtain ⟨approval, entered, pending, expires⟩ :
      ∃ approval, (launch size bounds).enterApproval byteSum 7 newYear = .ok approval ∧ _ ∧ _ :=
    LiveTask.enterApproval_ok (launch size bounds) 7 newYear rfl (by rw [requested, ttl]; omega)
  have expiresAt : approval.expiresAt.timestamp = 1767226500 := by
    unfold Instant.timestamp
    rw [expires, requested, ttl]
  have start : newYear.timestamp = 1767225600 := by
    unfold Instant.timestamp
    rw [requested]
  have built := LiveTask.enterApproval_for entered
  obtain ⟨later, token, approved⟩ : ∃ later token,
      approval.approve byteSum keyedSum "operator" approval.actionDigest newYear secret =
        .ok (later, token) :=
    ApprovalRecord.approve_ok built.configSha256 built.shaped.actionDigest pending "operator"
      secret_length (by rw [expiresAt, start]; omega) (by rw [expiresAt, start])
  exact ⟨approval, later, token, entered, approved, expiresAt⟩

private theorem zeros_ascii : isAscii zeros := by decide

private theorem newYear_timestamp : newYear.timestamp = 1767225600 := by
  unfold Instant.timestamp newYear
  rfl

theorem token_interoperates_sample :
    ∃ (approval : ApprovalRecord) (token : String),
      Interoperates keyedSum (utf8Encode secret.toList) token approval.id
        ⟨approval.action, approval.scope, approval.actionDigest, zeros⟩
        ⟨actionName 6, "other", zeros, zeros⟩ 1767225600 1767226500 1767225601 := by
  obtain ⟨approval, later, token, entered, approved, expires⟩ := launch_granted 6 (by omega)
  refine ⟨approval, token, ?_⟩
  have works := token_interoperates_iff entered approved ⟨actionName 6, "other", zeros, zeros⟩
    1767225601
  rw [expires, newYear_timestamp] at works
  apply works.mpr
  apply Or.inr
  apply Or.inr
  have short : (launch 6 (by omega)).contract.action.length = 6 := actionName_length 6
  have plain : isAscii (actionName 6) := by decide
  refine ⟨by omega, plain, plain, ?_, zeros_ascii, zeros_ascii⟩
  decide

/-- An action of 130 characters is accepted by the API, approved and minted, and
its token is refused. -/
theorem long_action_refused :
    ∃ (approval later : ApprovalRecord) (token : String),
      (launch 130 (by omega)).enterApproval byteSum 7 newYear = .ok approval ∧
      approval.approve byteSum keyedSum "operator" approval.actionDigest newYear secret =
        .ok (later, token) ∧
      ¬ Interoperates keyedSum (utf8Encode secret.toList) token approval.id
        ⟨approval.action, approval.scope, approval.actionDigest, zeros⟩
        ⟨approval.action, approval.scope, approval.actionDigest, zeros⟩
        1767225600 1767226500 1767225601 := by
  obtain ⟨approval, later, token, entered, approved, expires⟩ := launch_granted 130 (by omega)
  refine ⟨approval, later, token, entered, approved, ?_⟩
  intro works
  have built := LiveTask.enterApproval_for entered
  obtain ⟨tokenEq, _, _⟩ := ApprovalRecord.approve_token built.configSha256 approved
  have opened := openToken_issued built.shaped keyedSum (utf8Encode secret.toList)
    newYear.timestamp_lt approval.expiresAt.timestamp_lt
  have size : approval.action.length = 130 := by
    rw [built.action]
    exact actionName_length 130
  rw [← tokenEq, if_neg (by omega)] at opened
  obtain ⟨claims, accepted⟩ := works.accepted rfl (by omega) (by omega) [] List.not_mem_nil
  rw [validateAndConsume, opened] at accepted
  cases accepted

end Sample

end EgoAgent.Api
