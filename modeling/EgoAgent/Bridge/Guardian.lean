import EgoAgent.Bridge.Effects
import EgoAgent.Bridge.Paths

/-!
The rules of the safety gate and the guardian's review.

The tables of Unicode are parameters; what the rules rely on is what they do to
ASCII text.
-/

namespace EgoAgent.Bridge

open EgoAgent.Api EgoAgent.SecureMemory

/-! ### Text -/

structure UnicodeText where
  lower : List Char → List Char
  upper : List Char → List Char
  isAlphanumeric : Char → Bool
  lower_ascii : ∀ text, (∀ c ∈ text, c.toNat < 128) → lower text = text.map Char.toLower

/-- Unicode as far as ASCII goes. -/
def Sample.asciiText : UnicodeText where
  lower := List.map Char.toLower
  upper := List.map Char.toUpper
  isAlphanumeric := Char.isAlphanum
  lower_ascii _ _ := rfl

def words (items : List String) : List (List Char) := items.map String.toList

/-- `str.isspace` of one character. -/
def isSpace (c : Char) : Bool :=
  (9 ≤ c.toNat ∧ c.toNat ≤ 13) ∨ (28 ≤ c.toNat ∧ c.toNat ≤ 32) ∨
    (0x2000 ≤ c.toNat ∧ c.toNat ≤ 0x200a) ∨
    c.toNat ∈ [0x85, 0xa0, 0x1680, 0x2028, 0x2029, 0x202f, 0x205f, 0x3000]

def strip (text : List Char) : List Char :=
  ((text.dropWhile isSpace).reverse.dropWhile isSpace).reverse

/-! ### Patterns -/

section Patterns

inductive PatternItem where
  | one (accepts : Char → Bool)
  | optional (accepts : Char → Bool)
  | many (accepts : Char → Bool)
  | notAhead (accepts : Char → Bool)

def manyRests (accepts : Char → Bool) : List Char → List (List Char)
  | [] => [[]]
  | c :: rest => (c :: rest) :: if accepts c then manyRests accepts rest else []

/-- What can be left of a text after the item. -/
def PatternItem.rests : PatternItem → List Char → List (List Char)
  | .one accepts, c :: rest => if accepts c then [rest] else []
  | .one _, [] => []
  | .optional accepts, c :: rest => (c :: rest) :: if accepts c then [rest] else []
  | .optional _, [] => [[]]
  | .many accepts, text => manyRests accepts text
  | .notAhead accepts, c :: rest => if accepts c then [] else [c :: rest]
  | .notAhead _, [] => [[]]

def matchesHere (items : List PatternItem) (text : List Char) : Bool :=
  items.foldl (fun rests item => rests.flatMap item.rests) [text] ≠ []

/-- `re.search`, where a match may not follow a character that `behind` accepts. -/
def searchAfter (behind : Char → Bool) (items : List PatternItem) :
    Option Char → List Char → Bool
  | before, [] => before.all (fun c => !behind c) && matchesHere items []
  | before, c :: rest =>
      (before.all (fun c => !behind c) && matchesHere items (c :: rest)) ||
        searchAfter behind items (some c) rest

/-- Equality without case, with the letters outside ASCII that fold into it. -/
def sameLetter (letter c : Char) : Bool :=
  letter.toLower = c.toLower ∨ (letter.toLower = 's' ∧ c.toNat = 0x17f) ∨
    (letter.toLower = 'k' ∧ c.toNat = 0x212a) ∨
    (letter.toLower = 'i' ∧ c.toNat ∈ [0x130, 0x131])

def literally (text : String) : List PatternItem :=
  text.toList.map fun letter => .one (sameLetter letter)

/-- `[A-Za-z]`, ignoring case. -/
def isLetter (c : Char) : Bool :=
  ('a' ≤ c ∧ c ≤ 'z') ∨ ('A' ≤ c ∧ c ≤ 'Z') ∨ c.toNat ∈ [0x130, 0x131, 0x17f, 0x212a]

/-- `[A-Za-z0-9_]`, ignoring case. -/
def isNameChar (c : Char) : Bool := isLetter c ∨ ('0' ≤ c ∧ c ≤ '9') ∨ c = '_'

/-- `_PRIVATE_KEY_VALUE`. -/
def hasPrivateKey (text : List Char) : Bool :=
  searchAfter (fun _ => false)
    (literally "-----BEGIN " ++ [.many fun c => c ∉ ['-', '\r', '\n']] ++
      literally "PRIVATE KEY-----") none text

def isBearerChar (c : Char) : Bool :=
  isLetter c ∨ ('0' ≤ c ∧ c ≤ '9') ∨ c ∈ ['.', '_', '~', '+', '/', '=', '-']

/-- `_BEARER_VALUE`: the word boundary before its first letter. -/
def hasBearer (unicode : UnicodeText) (text : List Char) : Bool :=
  searchAfter (fun c => unicode.isAlphanumeric c || c = '_')
    (literally "bearer" ++ [.one isSpace, .many isSpace] ++ List.replicate 8 (.one isBearerChar))
    none text

/-- The names of `_CREDENTIAL_ASSIGNMENT_VALUE`, by the words they join. -/
def credentialNames : List (List String) :=
  [["api", "key"], ["access", "key", "secret"], ["secret", "access", "key"], ["access", "token"],
    ["auth", "token"], ["client", "secret"], ["password"], ["private", "key"], ["secret"],
    ["token"]]

def joinedName : List String → List PatternItem
  | [] => []
  | [word] => literally word
  | word :: rest => literally word ++ .optional (· ∈ ['_', '-']) :: joinedName rest

/-- `_CREDENTIAL_ASSIGNMENT_VALUE`. -/
def hasCredentialAssignment (text : List Char) : Bool :=
  credentialNames.any fun name =>
    searchAfter isNameChar
      (joinedName name ++ [.notAhead isNameChar, .many isSpace, .one (· ∈ [':', '=']),
        .many isSpace, .one fun c => !isSpace c && c ∉ [',', ';']]) none text

end Patterns

/-! ### Tables -/

def lowOperations : List String :=
  ["workspace.hash", "workspace.list", "workspace.list_directory", "workspace.read",
    "workspace.read_file", "workspace.search", "workspace.stat"]

def mediumOperations : List String :=
  ["workspace.apply_patch", "workspace.copy", "workspace.create_directory", "workspace.mkdir",
    "workspace.move", "workspace.patch", "workspace.rename", "workspace.write",
    "workspace.write_file"]

def highOperations : List String :=
  ["workspace.delete", "workspace.delete_path", "workspace.execute", "workspace.network",
    "workspace.network.send", "workspace.network_request", "workspace.process.start",
    "workspace.publish", "workspace.remove", "workspace.run_process", "workspace.shell",
    "workspace.upload"]

def knownOperations : List String := lowOperations ++ mediumOperations ++ highOperations

def destructiveMarkers : List String :=
  ["delete", "remove", "truncate", "overwrite", "reset", "wipe"]

def egressMarkers : List String :=
  ["network", "send", "upload", "publish", "exfiltrate", "external"]

def evidenceRoots : List String :=
  ["workspace/evidence", "workspace/receipts", "workspace/trace", "workspace/decision-closure",
    "workspace/requirement-ledger", "workspace/trusted-memory"]

def recoverableDestructivePlans : List String := ["restore the bound workspace checkpoint"]

def pathArgumentKeys : List String :=
  ["cwd", "destination_path", "path", "source_path", "working_directory"]

def secretArgumentNames : List String :=
  ["access_token", "api_key", "api_token", "authorization", "bearer_token", "cookie",
    "credential", "password", "private_key", "secret", "token"]

def secretArgumentSuffixes : List String :=
  ["api_key", "cookie", "credential", "password", "private_key", "secret", "token"]

inductive MandatoryReason where
  | crossProjectTarget
  | evidenceTampering
  | irreversibleDestruction
  | pathEscape
  | secretExfiltration
  | workspaceGatewayBypass
  deriving DecidableEq

def MandatoryReason.text : MandatoryReason → String
  | .crossProjectTarget => "CROSS_PROJECT_TARGET"
  | .evidenceTampering => "EVIDENCE_TAMPERING"
  | .irreversibleDestruction => "IRREVERSIBLE_DESTRUCTION"
  | .pathEscape => "PATH_ESCAPE"
  | .secretExfiltration => "SECRET_EXFILTRATION"
  | .workspaceGatewayBypass => "WORKSPACE_GATEWAY_BYPASS"

/-- `MANDATORY_CONSTRAINT_REGISTRY`. -/
def MandatoryReason.constraint : MandatoryReason → String
  | .crossProjectTarget => "constraint.project-boundary"
  | .evidenceTampering => "constraint.evidence-immutability"
  | .irreversibleDestruction => "constraint.recoverable-effects"
  | .pathEscape => "constraint.workspace-boundary"
  | .secretExfiltration => "constraint.no-secret-exfiltration"
  | .workspaceGatewayBypass => "constraint.workspace-gateway-only"

/-- In the order of their texts. -/
def mandatoryReasons : List MandatoryReason :=
  [.crossProjectTarget, .evidenceTampering, .irreversibleDestruction, .pathEscape,
    .secretExfiltration, .workspaceGatewayBypass]

/-! ### Arguments -/

section Arguments

variable {φ : Type} [FloatEquality φ]

mutual

/-- `_walk_json`. -/
def walkJson : Json φ → List (String × Json φ)
  | .dict members => walkMembers members
  | .list items => walkItems items
  | _ => []

def walkItems : List (Json φ) → List (String × Json φ)
  | [] => []
  | item :: rest => walkJson item ++ walkItems rest

def walkMembers : List (String × Json φ) → List (String × Json φ)
  | [] => []
  | (key, item) :: rest => (key, item) :: (walkJson item ++ walkMembers rest)

end

mutual

/-- `_walk_string_values`. -/
def walkStringValues : Json φ → List String
  | .str text => [text]
  | .dict members => memberStrings members
  | .list items => itemStrings items
  | _ => []

def itemStrings : List (Json φ) → List String
  | [] => []
  | item :: rest => walkStringValues item ++ itemStrings rest

def memberStrings : List (String × Json φ) → List String
  | [] => []
  | (_, item) :: rest => walkStringValues item ++ memberStrings rest

end

/-- `bool(value)`. -/
def truthy : Json φ → Bool
  | .null => false
  | .bool flag => flag
  | .int number => number ≠ 0
  | .float number => !FloatEquality.equalsInt number 0
  | .str text => text ≠ ""
  | .list items => !items.isEmpty
  | .dict members => !members.isEmpty

/-- `str(value).upper()` is one of the words; `str` of anything but a string spells
a number, a constant or a bracketed collection. -/
def spells (unicode : UnicodeText) (items : List String) : Json φ → Bool
  | .str text => unicode.upper text.toList ∈ words items
  | _ => false

end Arguments

/-! ### Mandatory rules -/

/-- `_is_path_escape`. -/
def isPathEscape (path : List Char) : Bool :=
  if path = [] ∨ '\x00' ∈ path ∨ '\\' ∈ path ∨ hasDrive path = true then true
  else if isAbsolute path = true ∨ ∃ part ∈ parts path, part ∈ [[], ['.'], ['.', '.']] then true
  else hasDoubleSlash path || path.getLast? = some '/'

/-- `_is_canonical_workspace_target`. -/
def isCanonicalWorkspaceTarget (path : List Char) : Bool :=
  if "workspace/".toList.isPrefixOf path = false ∨ isPathEscape path = true then false
  else 2 ≤ (parts path).length ∧ asPosix path = path

section Rules

variable {φ : Type} [FloatEquality φ] (unicode : UnicodeText)

def pathCandidates (arguments : List (String × Json φ)) : List String :=
  (walkMembers arguments).filterMap fun entry =>
    if unicode.lower entry.1.toList ∈ words pathArgumentKeys then
      match entry.2 with
      | .str text => some text
      | _ => none
    else none

/-- `_has_path_escape`. -/
def hasPathEscape (effect : CanonicalEffect φ) : Bool :=
  if isCanonicalWorkspaceTarget effect.target.toList = false then true
  else (pathCandidates unicode effect.finalArguments).any fun path => isPathEscape path.toList

def expectedScope (effect : CanonicalEffect φ) : List String :=
  let project := "project:" ++ effect.projectId
  let task := "task:" ++ effect.taskId
  if project ≤ task then [project, task] else [task, project]

/-- `_has_cross_project_target`. -/
def hasCrossProjectTarget (effect : CanonicalEffect φ) : Bool :=
  effect.affectedScope ≠ expectedScope effect

def loweredName (key : String) : List Char :=
  (unicode.lower key.toList).map fun c => if c = '-' then '_' else c

/-- `_has_secret_material`. -/
def hasSecretMaterial (arguments : List (String × Json φ)) : Bool :=
  ((walkMembers arguments).any fun entry =>
    decide (loweredName unicode entry.1 ∈ words secretArgumentNames) ||
      "authorization_".toList.isPrefixOf (loweredName unicode entry.1) ||
      (secretArgumentSuffixes.any fun suffix =>
        ('_' :: suffix.toList).isSuffixOf (loweredName unicode entry.1)) ||
      (decide (loweredName unicode entry.1 ∈
          words ["classification", "data_classification", "sensitivity"]) &&
        spells unicode ["SECRET", "CREDENTIAL", "PRIVATE_KEY"] entry.2)) ||
    (memberStrings arguments).any fun item =>
      hasPrivateKey item.toList || hasBearer unicode item.toList ||
        hasCredentialAssignment item.toList

def mentions (markers : List String) (operation : List Char) : Bool :=
  markers.any fun marker => marker.toList <:+: operation

/-- `_is_secret_exfiltration`. -/
def isSecretExfiltration (effect : CanonicalEffect φ) : Bool :=
  if mentions egressMarkers (unicode.lower effect.operation.toList) then
    hasSecretMaterial unicode effect.finalArguments
  else false

/-- `_is_irreversible_destruction`. -/
def isIrreversibleDestruction (effect : CanonicalEffect φ) : Bool :=
  if mentions destructiveMarkers (unicode.lower effect.operation.toList) = false then false
  else if unicode.upper (strip effect.reversibility.toList) ≠ "REVERSIBLE".toList then true
  else
    let plan := strip effect.recoveryPlan.toList
    if unicode.lower plan ∈ words recoverableDestructivePlans then false
    else if "RESTORE_BACKUP:".toList.isPrefixOf plan then
      !isCanonicalWorkspaceTarget (plan.drop "RESTORE_BACKUP:".toList.length)
    else true

/-- In or under one of the protected roots, without regard to case. -/
def isProtected (path : List Char) : Bool :=
  evidenceRoots.any fun root =>
    decide (unicode.lower path = root.toList) ||
      (root.toList ++ ['/']).isPrefixOf (unicode.lower path)

/-- `_is_evidence_tampering`. -/
def isEvidenceTampering (effect : CanonicalEffect φ) : Bool :=
  decide (unicode.lower effect.operation.toList ∉ words lowOperations) &&
    isProtected unicode effect.target.toList

/-- `_bypasses_workspace_gateway`. -/
def bypassesWorkspaceGateway (effect : CanonicalEffect φ) : Bool :=
  if "workspace.".toList.isPrefixOf effect.operation.toList = false then true
  else (walkMembers effect.finalArguments).any fun entry =>
    (decide (unicode.lower entry.1.toList ∈ words ["execution_route", "gateway", "route"]) &&
        !spells unicode ["CONTROLLED_WORKSPACE", "WORKSPACE_GATEWAY"] entry.2) ||
      (decide (unicode.lower entry.1.toList ∈ words ["agentteams_tool", "direct_tool"]) &&
        truthy entry.2)

/-- `mandatory_rule_matches`. -/
def mandatoryRuleMatches (effect : CanonicalEffect φ) : List MandatoryReason :=
  mandatoryReasons.filter fun reason =>
    match reason with
    | .crossProjectTarget => hasCrossProjectTarget effect
    | .evidenceTampering => isEvidenceTampering unicode effect
    | .irreversibleDestruction => isIrreversibleDestruction unicode effect
    | .pathEscape => hasPathEscape unicode effect
    | .secretExfiltration => isSecretExfiltration unicode effect
    | .workspaceGatewayBypass => bypassesWorkspaceGateway unicode effect

end Rules

/-! ### Risk -/

inductive GateError where
  | value (message : String)
  | validation (model : String)
  deriving DecidableEq

def operationRiskLevel (operation : String) : RiskLevel :=
  if operation ∈ lowOperations then .low
  else if operation ∈ mediumOperations then .medium
  else .high

/-- The construction of an assessment from its fields. -/
def RiskAssessment.validated (assessment : RiskAssessment) : Except GateError RiskAssessment := do
  raiseIf (¬ assessment.Valid) (.validation "RiskAssessment")
  return assessment

def constraintTable : Json Empty :=
  .list (mandatoryReasons.map fun reason => textList [reason.text, reason.constraint])

def guardianRuleVersion : String := "agentteams-guardian-rules/2026-08-31"

def guardianRuleTable : Json Empty := .dict
  [("known_operations", textList (sortedSet knownOperations)),
    ("mandatory_constraints", constraintTable), ("unknown_operation", .str "HIGH/DENY"),
    ("known_high", .str "HIGH/APPROVAL_REQUIRED")]

section Guardian

variable {φ : Type} [FloatEquality φ] (unicode : UnicodeText) (sha256 : Bytes → Digest)

/-- The reasons that the rules and the table of operations give. -/
def ruleReasons (effect : CanonicalEffect φ) : List String :=
  (mandatoryRuleMatches unicode effect).map MandatoryReason.text ++
    if effect.operation ∈ knownOperations then [] else ["UNKNOWN_OPERATION"]

def ruleConstraints (effect : CanonicalEffect φ) : List String :=
  (mandatoryRuleMatches unicode effect).map MandatoryReason.constraint ++
    if effect.operation ∈ knownOperations then [] else ["constraint.known-operation"]

/-- The disposition, with the reasons and the constraints it adds. -/
def guardianOutcome (constraints : List String) (level : RiskLevel) :
    Verdict × List String × List String :=
  if constraints ≠ [] then (.deny, [], [])
  else if level = .high then (.approvalRequired, ["GUARDIAN_HIGH_IMPACT_EFFECT"], [])
  else (.deny, ["SYSTEM_GUARDIAN_RISK_MISMATCH"], ["constraint.guardian-consistency"])

/-- The fields of the guardian's assessment. -/
def guardianRecord (effect : CanonicalEffect φ) (system : RiskAssessment) (sequence : Nat) :
    RiskAssessment :=
  let found := ruleConstraints unicode effect
  let missing := ¬ ∀ constraint ∈ system.mandatoryConstraintIds, constraint ∈ found
  let constraints := found ++ if missing then system.mandatoryConstraintIds else []
  let reasons := ruleReasons unicode effect ++
    if missing then ["SYSTEM_CONSTRAINT_MISMATCH"] else []
  let outcome := guardianOutcome constraints (operationRiskLevel effect.operation)
  { effectSha256 := effect.effectSha256 sha256
    stage := .guardian
    riskLevel := .high
    disposition := outcome.1
    reasonCodes := sortedSet (reasons ++ outcome.2.1)
    mandatoryConstraintIds := sortedSet (constraints ++ outcome.2.2)
    ruleVersion := guardianRuleVersion
    ruleSha256 := domainDigest sha256 "agentteams-guardian-rules" guardianRuleTable
    sequence := sequence }

/-- `EgoGuardian.assess`. -/
def guardianAssess (effect : CanonicalEffect φ) (system : RiskAssessment) (sequence : Nat) :
    Except GateError RiskAssessment := do
  raiseIf (system.stage ≠ .system) (.value "Guardian requires a SYSTEM assessment")
  raiseIf (system.effectSha256 ≠ effect.effectSha256 sha256)
    (.value "Guardian system assessment binds a different effect")
  raiseIf (system.riskLevel ≠ .high)
    (.value "Guardian may run only after a system HIGH assessment")
  (guardianRecord unicode sha256 effect system sequence).validated

/-- The fields of the guardian's decision. -/
def guardianValues (effect : CanonicalEffect φ) (system : RiskAssessment)
    (guardian : Option RiskAssessment) (mode : EnforcementMode) : GuardianDecision :=
  let values : GuardianDecision :=
    { effectSha256 := effect.effectSha256 sha256
      systemAssessment := system
      guardianAssessment := guardian
      enforcementMode := mode
      disposition := (guardian.getD system).disposition
      decisionSha256 := effect.effectSha256 sha256 }
  { values with decisionSha256 := values.digest (φ := φ) sha256 }

/-- The guardian runs only after a system HIGH assessment. -/
def assessIfHigh (effect : CanonicalEffect φ) (system : RiskAssessment) (sequence : Nat) :
    Except GateError (Option RiskAssessment) :=
  if system.riskLevel = .high
  then (guardianAssess unicode sha256 effect system sequence).map some
  else .ok none

/-- `build_guardian_decision`. -/
def buildGuardianDecision (effect : CanonicalEffect φ) (system : RiskAssessment)
    (mode : EnforcementMode) (guardianSequence : Nat) : Except GateError GuardianDecision := do
  raiseIf (system.stage ≠ .system)
    (.value "Guardian decision requires a SYSTEM assessment")
  raiseIf (system.effectSha256 ≠ effect.effectSha256 sha256)
    (.value "system assessment binds a different effect")
  let guardian ← assessIfHigh unicode sha256 effect system guardianSequence
  let decision := guardianValues sha256 effect system guardian mode
  raiseIf (¬ decision.Valid φ sha256) (.validation "GuardianDecision")
  return decision

end Guardian

end EgoAgent.Bridge
