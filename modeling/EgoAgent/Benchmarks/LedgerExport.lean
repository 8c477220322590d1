import EgoAgent.Benchmarks.TraceVerifier
import EgoAgent.Bridge.EventLedger
import EgoAgent.Gateway.WireFormat

/-!
`_export_bridge_event_chain`, and that the verifier accepts what it exports.
-/

namespace EgoAgent.Benchmarks

open EgoAgent.Api EgoAgent.Bridge

/-! ### Secrets -/

section Secrets

variable {φ : Type} (platform : TracePlatform φ)

mutual

/-- The first complaint of the exporter's `_assert_secret_free`. -/
def secretFound : Json φ → Option String
  | .dict members => secretFoundMembers members
  | .list items => secretFoundItems items
  | .str text =>
      if platform.secretText text = true then
        some "durable bridge ledger cannot be exported with secret material"
      else none
  | _ => none

def secretFoundItems : List (Json φ) → Option String
  | [] => none
  | item :: rest => (secretFound item).or (secretFoundItems rest)

def secretFoundMembers : List (String × Json φ) → Option String
  | [] => none
  | (key, value) :: rest =>
      if platform.lower key ∈ secretFieldNames then
        some "durable bridge ledger cannot be exported with secret fields"
      else (secretFound value).or (secretFoundMembers rest)

end

variable {platform}

theorem secretFoundMembers_eq_none {members : List (String × Json φ)} :
    secretFoundMembers platform members = none ↔ ∀ member ∈ members,
      platform.lower member.1 ∉ secretFieldNames ∧ secretFound platform member.2 = none := by
  induction members with
  | nil => simp [secretFoundMembers]
  | cons member rest ih =>
      obtain ⟨key, value⟩ := member
      by_cases named : platform.lower key ∈ secretFieldNames
      · simp [secretFoundMembers, named]
      · simp [secretFoundMembers, named, ih]

mutual

theorem secretFound_sorted : ∀ value : Json φ, secretFound platform value = none →
    secretFound platform value.sorted = none
  | .null, free | .bool _, free | .int _, free | .float _, free | .str _, free => free
  | .list items, free => by
      rw [Json.sorted, secretFound]
      rw [secretFound] at free
      exact secretFoundItems_sorted items free
  | .dict members, free => by
      rw [secretFound] at free
      have inner := secretFoundMembers_sorted members free
      rw [Json.sorted, secretFound, secretFoundMembers_eq_none]
      intro member present
      exact secretFoundMembers_eq_none.mp inner member ((sortMembers_perm _).mem_iff.mp present)

theorem secretFoundItems_sorted : ∀ items : List (Json φ), secretFoundItems platform items = none →
    secretFoundItems platform (sortedItems items) = none
  | [], _ => rfl
  | item :: rest, free => by
      simp only [secretFoundItems, Option.or_eq_none_iff] at free
      simp [sortedItems, secretFoundItems, secretFound_sorted item free.1,
        secretFoundItems_sorted rest free.2]

theorem secretFoundMembers_sorted : ∀ members : List (String × Json φ),
    secretFoundMembers platform members = none →
      secretFoundMembers platform (sortedMembers members) = none
  | [], _ => rfl
  | (key, value) :: rest, free => by
      obtain ⟨⟨named, here⟩, others⟩ := List.forall_mem_cons.mp (secretFoundMembers_eq_none.mp free)
      have later := secretFoundMembers_sorted rest (secretFoundMembers_eq_none.mpr others)
      simp only at named here
      simp [sortedMembers, secretFoundMembers, named, secretFound_sorted value here, later]

end

mutual

/-- What the exporter lets through the verifier lets through. -/
theorem assertSecretFree_of_free : ∀ (value : Json φ) (label : String),
    secretFound platform value = none → assertSecretFree platform label value = .ok ()
  | .null, _, _ | .bool _, _, _ | .int _, _, _ | .float _, _, _ => rfl
  | .str text, label, free => by
      rw [assertSecretFree]
      refine (raiseIf_eq_ok _ _ ()).mpr fun secret => ?_
      simp [secretFound, secret] at free
  | .list items, label, free => by
      rw [assertSecretFree]
      exact assertSecretFreeItems_of_free items label 0 (by rw [secretFound] at free; exact free)
  | .dict members, label, free => by
      rw [assertSecretFree]
      exact assertSecretFreeMembers_of_free members label (by rw [secretFound] at free; exact free)

theorem assertSecretFreeItems_of_free : ∀ (items : List (Json φ)) (label : String) (index : Nat),
    secretFoundItems platform items = none →
      assertSecretFreeItems platform label index items = .ok ()
  | [], _, _, _ => rfl
  | item :: rest, label, index, free => by
      simp only [secretFoundItems, Option.or_eq_none_iff] at free
      rw [assertSecretFreeItems, assertSecretFree_of_free item _ free.1, ok_bind]
      exact assertSecretFreeItems_of_free rest label (index + 1) free.2

theorem assertSecretFreeMembers_of_free : ∀ (members : List (String × Json φ)) (label : String),
    secretFoundMembers platform members = none →
      assertSecretFreeMembers platform label members = .ok ()
  | [], _, _ => rfl
  | (key, value) :: rest, label, free => by
      obtain ⟨⟨named, here⟩, others⟩ := List.forall_mem_cons.mp (secretFoundMembers_eq_none.mp free)
      simp only at named here
      rw [assertSecretFreeMembers, raiseIf_bind_of_not named, assertSecretFree_of_free value _ here,
        ok_bind]
      exact assertSecretFreeMembers_of_free rest label (secretFoundMembers_eq_none.mpr others)

end

end Secrets

section Export

variable {φ : Type} [FloatText φ] (platform : TracePlatform φ)

/-! ### The exporter -/

def chainInvalid (message : String) : Failure :=
  .bridge "bridge_event_chain_invalid" message 409 false

/-- One exported item, under its position in the run. -/
def exportItem (runId : String) (entry : Json φ × Nat) : Except Failure (Json φ) :=
  match entry.1 with
  | .dict source => do
      match secretFound platform (field source "envelope") with
      | some message => .error (.bridge "bridge_ledger_contains_secret" message 409 false)
      | none =>
          .ok (.dict [("sequence", .int (entry.2 + 1)), ("event_id", field source "event_id"),
            ("run_id", .str runId), ("kind", field source "kind"),
            ("envelope", field source "envelope"),
            ("previous_hash", field source "previous_hash"),
            ("event_hash", field source "event_hash"),
            ("created_at", field source "created_at")])
  | _ => .error (chainInvalid "bridge event ledger item is not an object")

def exportItems (runId : String) : List (Json φ × Nat) → Except Failure (List (Json φ))
  | [] => .ok []
  | entry :: rest => do
      let item ← exportItem platform runId entry
      let others ← exportItems runId rest
      .ok (item :: others)

/-- `items[-1]["event_hash"]`. -/
def lastEventHash (items : List (Json φ)) : Json φ :=
  match items.getLast? with
  | some (.dict members) => field members "event_hash"
  | _ => .null

/-- `_export_bridge_event_chain`. -/
def exportBridgeEventChain (ledger : Members φ) (runId : String) : Except Failure (Members φ) := do
  raiseIf (¬ (field ledger "chain_valid") matches .bool true)
    (chainInvalid "bridge event hash chain is invalid")
  match field ledger "items" with
  | .list (first :: rest) => do
      let items ← exportItems platform runId (first :: rest).zipIdx
      raiseIf (equalsInt platform (field ledger "total") items.length = false)
        (chainInvalid "bridge event ledger total does not match its items")
      .ok [("valid", .bool true), ("hash_algorithm", .str "sha256-canonical-json-v1"),
        ("external_origin_status", .str "UNVERIFIED"), ("total", field ledger "total"),
        ("head", lastEventHash items), ("source_ledger_total", field ledger "total"),
        ("items", .list items)]
  | _ => .error (.bridge "bridge_event_chain_empty" "bridge event hash chain is empty" 409 false)

/-! ### What can be exported -/

/-- A text that the verifier's `_text` accepts. -/
def TextOk (text : String) : Prop := trimmed text = true ∧ text.length ≤ 2048

/-- A time is written, in UTC and in JSON, as the verifier reads it. -/
structure TimeRead (times : TimeText) (time : EventTime) : Prop where
  utc : platform.instant (times.utcIso time.instant) = some (some time.instant)
  utcText : TextOk (times.utcIso time.instant)
  json : platform.instant (times.jsonIso time) = some (some time.instant)
  jsonText : TextOk (times.jsonIso time)

/-- An envelope that the exporter lets through. -/
structure Exportable (times : TimeText) (envelope : Envelope φ) : Prop where
  finite : (Json.dict envelope.body).finite = true
  legible : legible (Json.dict envelope.body) = true
  numbers : convertible envelope.contextVersion = true ∧ convertible envelope.attempt = true
  secretFree : secretFound platform (.dict (envelope.dump platform.sha256 times)) = none

/-- An envelope with the identities of a run, a time that is read, and texts that are. -/
structure WellFormed (times : TimeText) (head : TraceHead φ) (eventId : String)
    (envelope : Envelope φ) : Prop extends Exportable platform times envelope where
  identities : envelope.taskId = head.taskId ∧ envelope.projectId = head.projectId ∧
    envelope.traceId = head.traceId ∧ envelope.correlationId = head.correlationId ∧
    envelope.contextVersion = head.contextVersion
  time : TimeRead platform times envelope.createdAt
  eventId : TextOk eventId
  envelopeId : TextOk envelope.envelopeId
  recipient : TextOk envelope.recipient

/-- An envelope that the verifier takes; nothing else bounds its sender. -/
structure Verifiable (times : TimeText) (head : TraceHead φ) (eventId : String)
    (envelope : Envelope φ) : Prop extends WellFormed platform times head eventId envelope where
  sender : envelope.sender.length ≤ 2048

/-! ### Texts -/

variable {platform}

omit [FloatText φ] in
theorem textOf_of_textOk {label text : String} (ok : TextOk text) :
    textOf label (.str text : Json φ) = .ok text := by
  simp only [textOf]
  rw [raiseIf_bind_of_not (by rw [ok.1]; simp), raiseIf_bind_of_not (by have := ok.2; omega)]
  rfl

theorem strip_of_plain {chars : List Char} (plain : ∀ c ∈ chars, Bridge.isSpace c = false) :
    Bridge.strip chars = chars := by
  have front : ∀ list : List Char, (∀ c ∈ list, Bridge.isSpace c = false) →
      list.dropWhile Bridge.isSpace = list := by
    intro list all
    cases list with
    | nil => rfl
    | cons c rest => simp [all c List.mem_cons_self]
  unfold Bridge.strip
  rw [front chars plain, front chars.reverse (fun c present => plain c (by simpa using present)),
    List.reverse_reverse]

theorem trimmed_of_plain {text : String} (some : text ≠ "")
    (plain : ∀ c ∈ text.toList, Bridge.isSpace c = false) : trimmed text = true := by
  unfold trimmed
  apply decide_eq_true
  exact ⟨fun none => some (String.toList_eq_nil_iff.mp none), strip_of_plain plain⟩

theorem isSpace_of_visible {c : Char} (visible : 33 ≤ c.toNat ∧ c.toNat ≤ 126) :
    Bridge.isSpace c = false := by
  unfold Bridge.isSpace
  apply decide_eq_false
  simp only [List.mem_cons, List.not_mem_nil, or_false]
  omega

theorem textOk_of_isSha256 {text : String} (isDigest : Gateway.isSha256 text = true) :
    TextOk text := by
  unfold Gateway.isSha256 at isDigest
  obtain ⟨length, hex⟩ := of_decide_eq_true isDigest
  refine ⟨trimmed_of_plain ?_ ?_, ?_⟩
  · rintro rfl
    cases length
  · intro c present
    have digit : ('0' ≤ c ∧ c ≤ '9') ∨ ('a' ≤ c ∧ c ≤ 'f') :=
      of_decide_eq_true (List.all_eq_true.mp hex c present)
    have range : (48 ≤ c.toNat ∧ c.toNat ≤ 57) ∨ (97 ≤ c.toNat ∧ c.toNat ≤ 102) := digit
    exact isSpace_of_visible (by omega)
  · rw [← String.length_toList, length]
    decide

omit [FloatText φ] in
theorem rawDigest_of_isSha256 {label text : String} (isDigest : Gateway.isSha256 text = true) :
    rawDigest label (.str text : Json φ) = .ok text := by
  unfold rawDigest
  rw [textOf_of_textOk (textOk_of_isSha256 isDigest), ok_bind,
    raiseIf_bind_of_not (by rw [isDigest]; simp)]
  rfl

theorem isSha256_zeroHash : Gateway.isSha256 zeroHash = true := by
  decide +kernel

theorem isSha256_bridgeSha256 (value : Json φ) :
    Gateway.isSha256 (bridgeSha256 platform.sha256 value) = true :=
  Gateway.isSha256_digest _

omit [FloatText φ] in
theorem textOk_sender (envelope : Envelope φ) (short : envelope.sender.length ≤ 2048) :
    TextOk envelope.sender := by
  refine ⟨trimmed_of_plain envelope.senderSome ?_, short⟩
  intro c present
  have shape := envelope.senderPlain c present
  have range : (97 ≤ c.toNat ∧ c.toNat ≤ 122) ∨ (48 ≤ c.toNat ∧ c.toNat ≤ 57) ∨
      c ∈ ['.', '_', '-'] := shape
  rcases range with letter | digit | special
  · exact isSpace_of_visible (by omega)
  · exact isSpace_of_visible (by omega)
  · simp only [List.mem_cons, List.not_mem_nil, or_false] at special
    rcases special with rfl | rfl | rfl <;> decide

end Export

end EgoAgent.Benchmarks
