import EgoAgent.Api.Provenance
import EgoAgent.Lib.Dict

/-!
The skill registry: release states, canary shares and deterministic routing.
-/

namespace EgoAgent.SkillRuntime

open EgoAgent.Api EgoAgent.Effect

/-! ### Releases -/

inductive SkillReleaseState where
  | draft | canary | active | retired
  deriving DecidableEq

def SkillReleaseState.value : SkillReleaseState → String
  | .draft => "draft" | .canary => "canary" | .active => "active" | .retired => "retired"

/-- A release without what only its catalog entry and its invocations read. -/
structure SkillDescriptor where
  name : String
  version : String
  packageDigest : String
  manifestState : SkillReleaseState
  deriving DecidableEq

/-- Name and version. -/
abbrev ReleaseKey := String × String

def SkillDescriptor.key (descriptor : SkillDescriptor) : ReleaseKey :=
  (descriptor.name, descriptor.version)

structure SkillRegistry where
  descriptors : Dict ReleaseKey SkillDescriptor
  states : Dict ReleaseKey SkillReleaseState
  canaryPercent : Dict ReleaseKey Int

/-- What is raised; `missing` is the `KeyError` of a dictionary without the key. -/
inductive Failure where
  | value (message : String)
  | unknown (message : String)
  | runtime (message : String)
  | missing (key : ReleaseKey)
  deriving DecidableEq

/-- `SkillRegistry.__init__`, release by release. -/
def SkillRegistry.add (registry : SkillRegistry) (descriptor : SkillDescriptor) :
    Except Failure SkillRegistry := do
  raiseIf (descriptor.key ∈ registry.descriptors.keys)
    (.value ("duplicate Skill release: " ++ descriptor.name ++ "@" ++ descriptor.version))
  return { registry with
    descriptors := registry.descriptors.set descriptor.key descriptor
    states := registry.states.set descriptor.key descriptor.manifestState }

def SkillRegistry.create (descriptors : List SkillDescriptor) : Except Failure SkillRegistry :=
  descriptors.foldlM SkillRegistry.add { descriptors := [], states := [], canaryPercent := [] }

/-- `_keys_for`. -/
def SkillRegistry.keysFor (registry : SkillRegistry) (name : String) : List ReleaseKey :=
  registry.descriptors.keys.filter fun key => key.1 = name

/-- The releases of a name in a state, in the order of the registry; `states` has the keys of
`descriptors`, so that looking a state up never raises. -/
def SkillRegistry.releases (registry : SkillRegistry) (name : String) (state : SkillReleaseState) :
    List ReleaseKey :=
  (registry.keysFor name).filter fun key => registry.states.get? key = some state

/-! ### Lifecycle events -/

/-- The fields of an event other than its digest. -/
structure EventBody where
  action : String
  name : String
  version : String
  packageDigest : String
  state : SkillReleaseState
  details : List (String × Json Empty)

structure ReleaseEvent extends EventBody where
  eventDigest : String

def EventBody.document (body : EventBody) : Json Empty :=
  .dict [("action", .str body.action), ("name", .str body.name), ("version", .str body.version),
    ("package_digest", .str body.packageDigest), ("state", .str body.state.value),
    ("details", .dict body.details)]

variable (sha256 : Bytes → Digest)

/-- `_digest`. -/
def digest (value : Json Empty) : Digest := sha256 (utf8Encode value.sorted.text)

/-- `_release_event`. -/
def releaseEvent (action : String) (key : ReleaseKey) (details : List (String × Json Empty)) :
    Effect SkillRegistry Failure ReleaseEvent := do
  let registry ← read
  let descriptor ← check (expect (.missing key) (registry.descriptors.get? key))
  let state ← check (expect (.missing key) (registry.states.get? key))
  let body : EventBody :=
    { action := action
      name := key.1
      version := key.2
      packageDigest := descriptor.packageDigest
      state := state
      details := details }
  return { body with eventDigest := (digest sha256 body.document).labelled "" }

/-! ### Lifecycle operations -/

/-- `_require`. -/
def require (name version : String) : Effect SkillRegistry Failure ReleaseKey := do
  let registry ← read
  check (raiseIf ((name, version) ∉ registry.descriptors.keys)
    (.unknown ("unknown Skill release: " ++ name ++ "@" ++ version)))
  return (name, version)

def stateOf (key : ReleaseKey) : Effect SkillRegistry Failure SkillReleaseState := do
  let registry ← read
  check (expect (.missing key) (registry.states.get? key))

def SkillRegistry.setState (registry : SkillRegistry) (key : ReleaseKey)
    (state : SkillReleaseState) : SkillRegistry :=
  { registry with states := registry.states.set key state }

def SkillRegistry.dropPercent (registry : SkillRegistry) (key : ReleaseKey) : SkillRegistry :=
  { registry with canaryPercent := registry.canaryPercent.filter fun entry => entry.1 ≠ key }

def SkillRegistry.retireOther (key : ReleaseKey) (registry : SkillRegistry)
    (candidate : ReleaseKey) : SkillRegistry :=
  if candidate ≠ key ∧ registry.states.get? candidate = some .active then
    registry.setState candidate .retired
  else registry

def SkillRegistry.enterCanary (registry : SkillRegistry) (key : ReleaseKey) (percent : Int) :
    SkillRegistry :=
  { registry.setState key .canary with canaryPercent := registry.canaryPercent.set key percent }

/-- The writes of `activate`: first the loop over the releases of the name. -/
def SkillRegistry.promote (registry : SkillRegistry) (key : ReleaseKey) : SkillRegistry :=
  (((registry.keysFor key.1).foldl (SkillRegistry.retireOther key) registry).setState key
    .active).dropPercent key

def SkillRegistry.withdraw (registry : SkillRegistry) (key : ReleaseKey) : SkillRegistry :=
  (registry.setState key .retired).dropPercent key

/-- The write of `rollback` before it activates. -/
def SkillRegistry.reopen (registry : SkillRegistry) (key : ReleaseKey)
    (state : SkillReleaseState) : SkillRegistry :=
  if state = .retired then registry.setState key .draft else registry

def setCanary (name version : String) (percent : Int) :
    Effect SkillRegistry Failure ReleaseEvent := do
  check (raiseIf (percent < 1 ∨ 50 < percent)
    (.value "canary percent must be between 1 and 50"))
  let key ← require name version
  let state ← stateOf key
  check (raiseIf (state ∉ [SkillReleaseState.draft, .canary])
    (.value "only draft or canary releases can enter canary"))
  write (·.enterCanary key percent)
  releaseEvent sha256 "canary" key [("percent", .int percent)]

def activate (name version : String) : Effect SkillRegistry Failure ReleaseEvent := do
  let key ← require name version
  let state ← stateOf key
  check (raiseIf (state ∉ [SkillReleaseState.draft, .canary, .active])
    (.value "retired releases cannot be activated; publish a new version"))
  write (·.promote key)
  releaseEvent sha256 "activate" key []

def retire (name version : String) : Effect SkillRegistry Failure ReleaseEvent := do
  let key ← require name version
  write (·.withdraw key)
  releaseEvent sha256 "retire" key []

def rollback (name targetVersion : String) : Effect SkillRegistry Failure ReleaseEvent := do
  let target ← require name targetVersion
  let state ← stateOf target
  write (·.reopen target state)
  let event ← activate sha256 name targetVersion
  return { event with action := "rollback" }

/-! ### Routing -/

/-- `int(_digest(...)[:8], 16) % 100`: eight hexadecimal digits are the upper 32 bits. -/
def bucket (name correlationId : String) : Int :=
  ((digest sha256 (.dict [("correlation_id", .str correlationId), ("skill", .str name)])).toNat /
    2 ^ 224 % 100 : Nat)

/-- `sorted(..., reverse=True)` of keys. -/
def descending (left right : ReleaseKey) : Bool := decide (toLex right ≤ toLex left)

/-- The loop over the canaries. -/
def SkillRegistry.scan (registry : SkillRegistry) (bucket : Int) :
    List ReleaseKey → Except Failure (Option ReleaseKey)
  | [] => .ok none
  | key :: rest => do
      let percent ← expect (.missing key) (registry.canaryPercent.get? key)
      if bucket < percent then return some key else registry.scan bucket rest

def SkillRegistry.descriptorOf (registry : SkillRegistry) (key : ReleaseKey) :
    Except Failure SkillDescriptor :=
  expect (.missing key) (registry.descriptors.get? key)

/-- `resolve` when no canary has taken the request. -/
def SkillRegistry.incumbent (registry : SkillRegistry) (name : String) :
    Except Failure SkillDescriptor :=
  match registry.releases name .active, registry.releases name .canary,
    registry.releases name .draft with
  | [key], _, _ => registry.descriptorOf key
  | _ :: _ :: _, _, _ => .error (.runtime ("multiple active releases for " ++ name))
  | [], [key], _ => registry.descriptorOf key
  | [], _, [key] => registry.descriptorOf key
  | [], _, _ => .error (.runtime ("no routable release for " ++ name))

def SkillRegistry.resolve (registry : SkillRegistry) (name correlationId : String) :
    Except Failure SkillDescriptor := do
  raiseIf (registry.keysFor name = []) (.unknown ("unknown Skill: " ++ name))
  let routed ← registry.scan (bucket sha256 name correlationId)
    ((registry.releases name .canary).mergeSort descending)
  match routed with
  | some key => registry.descriptorOf key
  | none => registry.incumbent name

end EgoAgent.SkillRuntime
