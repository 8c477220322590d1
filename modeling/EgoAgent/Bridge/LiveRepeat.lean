import EgoAgent.Bridge.LiveGrant

/-!
Interrupted grants and finalizations, repeated.

EgoAgentOS is a task with its stage, what it has done, and the answers that it keeps under
idempotency keys.  Both requests look at the stage before they write, so a request that is
cut off after its effect and before its record finds a stage that it refuses.
-/

namespace EgoAgent.Bridge.Live

/-! ### EgoAgentOS -/

structure Ego where
  stage : String
  pendingApproval : Bool
  /-- The keys of the requests that took effect. -/
  keys : List String
  consumptions : Nat
  finalizations : Nat
  deriving DecidableEq

/-- The request that consumes the token; a repeated key has no further effect. -/
def Ego.consume (ego : Ego) (key : String) : Ego :=
  if key ∈ ego.keys then ego
  else { ego with
    stage := "EXECUTE"
    pendingApproval := false
    keys := key :: ego.keys
    consumptions := ego.consumptions + 1 }

def Ego.finalize (ego : Ego) (key : String) : Ego :=
  if key ∈ ego.keys then ego
  else { ego with
    stage := "COMPLETED"
    keys := key :: ego.keys
    finalizations := ego.finalizations + 1 }

def Ego.atApproval (ego : Ego) : Bool := ego.stage = "APPROVAL" ∧ ego.pendingApproval = true

/-- A run with the part of its checkpoint that `_finalize_ego` writes, and EgoAgentOS. -/
structure System where
  run : Run
  finalizationCommitted : Bool
  ego : Ego

/-! ### The grant -/

/-- Where a grant is cut off: after an effect upstream and before the next write. -/
inductive GrantCut where
  | afterConsumption
  | afterResume
  | afterReplan
  | afterSend
  deriving DecidableEq

/-- The writes of a grant that reach the store. -/
def GrantCut.stores : Option GrantCut → Run → Nat
  | none, _ => 2
  | some .afterConsumption, _ => 0
  | some _, run => if run.egoGrantCommitted then 0 else 1

/-- `_finalize_ego` goes through. -/
def finalizes (system : System) : Bool :=
  if system.finalizationCommitted then system.ego.stage = "COMPLETED"
  else system.ego.stage = "EXECUTE"

section

variable {snapshot : Snapshot} {accepted : List String}

variable {system : System} {key : String}

end

namespace Sample

end Sample

end EgoAgent.Bridge.Live
