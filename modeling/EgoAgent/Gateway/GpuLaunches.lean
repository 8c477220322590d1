import EgoAgent.Gateway.GpuServer

/-!
Launches start one process for a key, each over the limits with a token of its own.

A launch changes the service in one of three ways, or not at all: it starts a process
within the limits, it spends a token and starts one, or it spends a token in vain.
-/

namespace EgoAgent.Gateway.Gpu

open EgoAgent.Api EgoAgent.Bridge EgoAgent.Gateway

/-! ### Traces -/

section Trace

variable {φ : Type}

def startOf : Event φ → Option (LaunchRequest φ × Nat)
  | .started request pid => some (request, pid)
  | .consumed _ _ => none

def consumptionOf : Event φ → Option (String × ApprovalClaims)
  | .consumed token claims => some (token, claims)
  | .started _ _ => none

def starts (trace : List (Event φ)) : List (LaunchRequest φ × Nat) := trace.filterMap startOf

def consumptions (trace : List (Event φ)) : List (String × ApprovalClaims) :=
  trace.filterMap consumptionOf

theorem starts_append (first second : List (Event φ)) :
    starts (first ++ second) = starts first ++ starts second := List.filterMap_append

theorem consumptions_append (first second : List (Event φ)) :
    consumptions (first ++ second) = consumptions first ++ consumptions second :=
  List.filterMap_append

theorem mem_starts {trace : List (Event φ)} {request : LaunchRequest φ} {pid : Nat} :
    (request, pid) ∈ starts trace ↔ .started request pid ∈ trace := by
  unfold starts
  rw [List.mem_filterMap]
  constructor
  · rintro ⟨event, member, same⟩
    cases event with
    | consumed token claims => cases same
    | started other number =>
        cases same
        exact member
  · exact fun member => ⟨_, member, rfl⟩

theorem mem_consumptions {trace : List (Event φ)} {token : String} {claims : ApprovalClaims} :
    (token, claims) ∈ consumptions trace ↔ .consumed token claims ∈ trace := by
  unfold consumptions
  rw [List.mem_filterMap]
  constructor
  · rintro ⟨event, member, same⟩
    cases event with
    | started request pid => cases same
    | consumed other found =>
        cases same
        exact member
  · exact fun member => ⟨_, member, rfl⟩

end Trace

/-! ### Tokens -/

theorem check_eq_ok {claims : ApprovalClaims} {expected : Expected} {checkedAt : Int}
    (checked : claims.check expected checkedAt = .ok ()) : expected = claims.expected := by
  unfold ApprovalClaims.check at checked
  iterate 3 obtain ⟨_, checked⟩ := (raiseIf_bind_eq_ok _ _ _ _).mp checked
  obtain ⟨found, compared, none⟩ := (bind_eq_ok _ _ _).mp checked
  have none := (raiseIf_eq_ok _ _ _).mp none
  by_cases ascii : claims.expected.ascii ∧ expected.ascii
  · obtain ⟨other, same, iff⟩ := mismatches_ascii ascii.1 ascii.2
    rw [same] at compared
    cases compared
    exact iff.mp (not_not.mp none)
  · rw [mismatches_not_ascii ascii] at compared
    cases compared

section Launches

variable {φ : Type} [FloatText φ] {value : φ → ℚ} {unicode : UnicodeText}
  {sha256 : Bytes → Digest} {hmacSha256 : Bytes → Bytes → Digest} {setup : Setup}

/-- A request over one GPU or two GPU-hours. -/
def OverLimits (value : φ → ℚ) (request : LaunchRequest φ) : Prop :=
  1 < request.gpuIds.length ∨ 2 < value request.expectedGpuHours

omit [FloatText φ] in
theorem requiresApproval_iff (request : LaunchRequest φ) :
    (classifyGpuAction value request).requiresApprovalForExecution = true ↔
      OverLimits value request := by
  unfold classifyGpuAction OverLimits
  by_cases gpus : 1 < request.gpuIds.length
  · simp [gpus]
  · by_cases hours : 2 < value request.expectedGpuHours
    · simp [gpus, hours]
    · simp [gpus, hours]

/-- A token that approves a request, and the claims in it. -/
structure Approves (sha256 : Bytes → Digest) (hmacSha256 : Bytes → Bytes → Digest) (setup : Setup)
    (request : LaunchRequest φ) (token : String) (claims : ApprovalClaims) : Prop where
  given : request.approvalToken = some token
  opens : ∃ secret, setup.approvalSecret = some secret ∧
    openToken hmacSha256 secret token = .ok claims
  action : claims.action = approvalAction
  scope : claims.scope = approvalScope request
  actionDigest : claims.actionDigest = Gpu.actionDigest sha256 request
  configSha256 : claims.configSha256 = request.configSha256

variable {checkedAt : Int}

variable {secret : Bytes}

theorem validateAndConsume_cases {token : String} {expected : Expected}
    {consumed later : List String}
    {result : Except ToolFailure ApprovalClaims}
    (outcome : validateAndConsume hmacSha256 secret token expected checkedAt consumed =
      (result, later)) :
    (∃ failure, result = .error failure ∧ later = consumed) ∨
      ∃ claims, result = .ok claims ∧ openToken hmacSha256 secret token = .ok claims ∧
        expected = claims.expected ∧ claims.jti ∉ consumed ∧ later = claims.jti :: consumed := by
  unfold validateAndConsume at outcome
  split at outcome
  · cases outcome
    exact .inl ⟨_, rfl, rfl⟩
  · next claims opens =>
    split at outcome
    · cases outcome
      exact .inl ⟨_, rfl, rfl⟩
    · next checked =>
      split at outcome
      · cases outcome
        exact .inl ⟨_, rfl, rfl⟩
      · next unused =>
        cases outcome
        exact .inr ⟨claims, rfl, opens, check_eq_ok checked, unused, rfl⟩

/-- A service whose token store holds one token more. -/
def Service.spend (service : Service φ) (token : String) (claims : ApprovalClaims) : Service φ :=
  { service with
    consumed := claims.jti :: service.consumed
    trace := service.trace ++ [.consumed token claims] }

variable {request : LaunchRequest φ}

variable {service later : Service φ}

theorem approveLaunch_cases {result : Except ToolFailure Unit}
    (outcome : approveLaunch value sha256 hmacSha256 setup request checkedAt service =
      (result, later)) :
    (∃ failure, result = .error failure ∧ later = service) ∨
      (result = .ok () ∧ later = service ∧ ¬ OverLimits value request) ∨
      ∃ token claims, result = .ok () ∧ OverLimits value request ∧
        Approves sha256 hmacSha256 setup request token claims ∧ claims.jti ∉ service.consumed ∧
        later = service.spend token claims := by
  unfold approveLaunch at outcome
  split at outcome
  · next within =>
    cases outcome
    refine .inr (.inl ⟨rfl, rfl, ?_⟩)
    rw [← requiresApproval_iff, within]
    exact Bool.false_ne_true
  next large =>
  have large : OverLimits value request := requiresApproval_iff request |>.mp (by simpa using large)
  split at outcome
  · cases outcome
    exact .inl ⟨_, rfl, rfl⟩
  · next token given =>
    split at outcome
    · cases outcome
      exact .inl ⟨_, rfl, rfl⟩
    split at outcome
    · cases outcome
      exact .inl ⟨_, rfl, rfl⟩
    · next secret known =>
      split at outcome
      · next failure consumed validated =>
        cases outcome
        rcases validateAndConsume_cases validated with ⟨_, _, same⟩ | ⟨_, impossible, _⟩
        · refine .inl ⟨failure, rfl, ?_⟩
          rw [same]
        · cases impossible
      · next claims consumed validated =>
        cases outcome
        rcases validateAndConsume_cases validated with
          ⟨_, impossible, _⟩ | ⟨found, same, opens, bound, unused, rfl⟩
        · cases impossible
        · cases same
          injection bound with action scope digest config
          exact .inr (.inr ⟨token, claims, rfl, large,
            ⟨given, ⟨secret, known, opens⟩, action.symm, scope.symm, digest.symm, config.symm⟩,
            unused, rfl⟩)

/-- The job of a launched request. -/
def launchedJob (value : φ → ℚ) (sha256 : Bytes → Digest) (setup : Setup)
    (request : LaunchRequest φ) (config : List (List Char)) (pid : Nat) : Job φ :=
  ⟨{ planOf value sha256 setup request config with
      executionMode := "synthetic_local_process"
      dryRun := false }, pid⟩

/-- A service that has one job and one process more. -/
def Service.start (service : Service φ) (request : LaunchRequest φ) (job : Job φ) : Service φ :=
  { service with
    jobs := service.jobs.set request.idempotencyKey job
    trace := service.trace ++ [.started request job.pid] }

/-- What a launch does: it leaves the service alone, spends a token in vain, or starts a
process for a key without a job. -/
inductive Launched (value : φ → ℚ) (sha256 : Bytes → Digest)
    (hmacSha256 : Bytes → Bytes → Digest) (setup : Setup) (request : LaunchRequest φ)
    (outside : Outside) (service : Service φ) : Except ToolFailure (Response φ) → Service φ → Prop
  | unchanged (result : Except ToolFailure (Response φ)) :
      Launched value sha256 hmacSha256 setup request outside service result service
  | spent (failure : ToolFailure) (token : String) (claims : ApprovalClaims)
      (large : OverLimits value request)
      (approves : Approves sha256 hmacSha256 setup request token claims)
      (unused : claims.jti ∉ service.consumed) (failed : outside.process = none) :
      Launched value sha256 hmacSha256 setup request outside service (.error failure)
        (service.spend token claims)
  | started (response : Response φ) (config : List (List Char)) (pid : Nat)
      (within : ¬ OverLimits value request) (real : request.dryRun = false)
      (enabled : setup.enableSyntheticLocalExecution = true)
      (free : service.jobs.get? request.idempotencyKey = none) :
      Launched value sha256 hmacSha256 setup request outside service (.ok response)
        (service.start request (launchedJob value sha256 setup request config pid))
  | approved (response : Response φ) (config : List (List Char)) (pid : Nat) (token : String)
      (claims : ApprovalClaims) (large : OverLimits value request)
      (approves : Approves sha256 hmacSha256 setup request token claims)
      (unused : claims.jti ∉ service.consumed) (real : request.dryRun = false)
      (enabled : setup.enableSyntheticLocalExecution = true)
      (free : service.jobs.get? request.idempotencyKey = none) :
      Launched value sha256 hmacSha256 setup request outside service (.ok response)
        ((service.spend token claims).start request
          (launchedJob value sha256 setup request config pid))

theorem launch_launched (request : LaunchRequest φ) (outside : Outside) (service : Service φ) :
    Launched value sha256 hmacSha256 setup request outside service
      (launch value unicode sha256 hmacSha256 setup request outside service).1
      (launch value unicode sha256 hmacSha256 setup request outside service).2 := by
  unfold launch
  split
  · exact .unchanged _
  next planned isPlan =>
  split
  · exact .unchanged _
  next real =>
  have real : request.dryRun = false := Bool.not_eq_true _ ▸ real
  split
  · exact .unchanged _
  next enabled =>
  have enabled : setup.enableSyntheticLocalExecution = true := Bool.not_eq_false _ ▸ enabled
  split
  · split
    · exact .unchanged _
    · exact .unchanged _
  next free =>
  obtain ⟨config, rfl⟩ : ∃ config, planned = planOf value sha256 setup request config := by
    unfold plan at isPlan
    cases found : resolveConfig unicode sha256 outside.disk request with
    | error failure =>
        rw [found] at isPlan
        cases isPlan
    | ok config =>
        rw [found] at isPlan
        cases isPlan
        exact ⟨config, rfl⟩
  rw [Effect.bind_apply]
  rcases approved : approveLaunch value sha256 hmacSha256 setup request outside.checkedAt service
    with ⟨failure | ⟨⟩, middle⟩
  · rcases approveLaunch_cases approved with
      ⟨_, _, rfl⟩ | ⟨impossible, _⟩ | ⟨_, _, impossible, _⟩
    · exact .unchanged _
    · cases impossible
    · cases impossible
  · rcases approveLaunch_cases approved with
      ⟨_, impossible, _⟩ | ⟨_, rfl, within⟩ | ⟨token, claims, _, large, approves, unused, rfl⟩
    · cases impossible
    · simp only [startProcess]
      split
      · exact .unchanged _
      · next pid spawned => exact .started _ config pid within real enabled free
    · simp only [startProcess]
      split
      · next failed => exact .spent _ token claims large approves unused failed
      · next pid spawned =>
        exact .approved _ config pid token claims large approves unused real enabled free

/-! ### A failed start -/

theorem modelValidate_claims {approval : ApprovalRecord} {configSha256 : String}
    {issuedAt expiresAt : Nat} (valid : (approval.claims configSha256 issuedAt expiresAt).Valid) :
    ApprovalClaims.modelValidate (claimsValue approval configSha256 issuedAt expiresAt) =
      some (approval.claims configSha256 issuedAt expiresAt) := by
  have read : ApprovalClaims.modelValidate (claimsValue approval configSha256 issuedAt expiresAt) =
      if (approval.claims configSha256 issuedAt expiresAt).Valid then
        some (approval.claims configSha256 issuedAt expiresAt) else none := rfl
  rw [read, if_pos valid]

theorem validateAndConsume_of {token : String} {claims : ApprovalClaims}
    {expected : Expected} {consumed : List String}
    (opens : openToken hmacSha256 secret token = .ok claims)
    (checked : claims.check expected checkedAt = .ok ()) (unused : claims.jti ∉ consumed) :
    validateAndConsume hmacSha256 secret token expected checkedAt consumed =
      (.ok claims, claims.jti :: consumed) := by
  unfold validateAndConsume
  rw [opens]
  simp only [checked, if_neg unused]

variable {service : Service φ}

theorem approveLaunch_of {token : String} {claims : ApprovalClaims}
    (large : (classifyGpuAction value request).requiresApprovalForExecution = true)
    (given : request.approvalToken = some token) (nonempty : token ≠ "")
    (known : setup.approvalSecret = some secret)
    (validated : validateAndConsume hmacSha256 secret token (expectedOf sha256 request) checkedAt
      service.consumed = (.ok claims, claims.jti :: service.consumed)) :
    approveLaunch value sha256 hmacSha256 setup request checkedAt service =
      (.ok (), service.spend token claims) := by
  unfold approveLaunch
  rw [if_neg (by simp [large]), given]
  simp only [if_neg nonempty, known, validated]
  rfl

/-- An approved launch whose process does not start raises with its token spent. -/
theorem launch_failed {outside : Outside}
    (planned : (plan value unicode sha256 setup outside.disk request).isOk = true)
    (real : request.dryRun = false) (enabled : setup.enableSyntheticLocalExecution = true)
    (free : service.jobs.get? request.idempotencyKey = none)
    (approved : approveLaunch value sha256 hmacSha256 setup request outside.checkedAt service =
      (.ok (), later))
    (failed : outside.process = none) :
    launch value unicode sha256 hmacSha256 setup request outside service =
      (.error (.structured "synthetic_launch_failed"
        "The allowlisted synthetic worker could not be launched"), later) := by
  unfold launch
  cases made : plan value unicode sha256 setup outside.disk request with
  | error failure =>
      rw [made] at planned
      cases planned
  | ok plan =>
      simp only [real, enabled, free, Bool.false_eq_true, Bool.true_eq_false, if_false]
      rw [Effect.bind_apply, approved]
      simp only [startProcess, failed]

/-! ### The invariant -/

/-- Every start over the limits comes right after the consumption of its own token. -/
def Preceded (value : φ → ℚ) (sha256 : Bytes → Digest) (hmacSha256 : Bytes → Bytes → Digest)
    (setup : Setup) (trace : List (Event φ)) : Prop :=
  ∀ before request pid after, trace = before ++ .started request pid :: after →
    OverLimits value request → ∃ earlier token claims, before = earlier ++ [.consumed token claims] ∧
      Approves sha256 hmacSha256 setup request token claims

/-- A service that has been used by launches only. -/
structure Sound (value : φ → ℚ) (sha256 : Bytes → Digest) (hmacSha256 : Bytes → Bytes → Digest)
    (setup : Setup) (initial : List String) (service : Service φ) : Prop where
  keys : service.jobs.keys = (starts service.trace).map fun start => start.1.idempotencyKey
  unique : service.jobs.keys.Nodup
  recorded : ∀ request pid, .started request pid ∈ service.trace → request.dryRun = false ∧
    setup.enableSyntheticLocalExecution = true ∧ ∃ config,
      service.jobs.get? request.idempotencyKey =
        some (launchedJob value sha256 setup request config pid)
  preceded : Preceded value sha256 hmacSha256 setup service.trace
  spent : service.consumed =
    ((consumptions service.trace).map fun pair => pair.2.jti).reverse ++ initial
  single : ((consumptions service.trace).map fun pair => pair.2.jti).Nodup
  opens : ∀ token claims, .consumed token claims ∈ service.trace →
    ∃ secret, setup.approvalSecret = some secret ∧ openToken hmacSha256 secret token = .ok claims

theorem sound_opened (initial : List String) :
    Sound value sha256 hmacSha256 setup initial (opened initial : Service φ) where
  keys := rfl
  unique := List.nodup_nil
  recorded _ _ member := absurd member List.not_mem_nil
  preceded before request pid after split := by
    exact absurd split.symm (List.append_ne_nil_of_right_ne_nil _ (List.cons_ne_nil _ _))
  spent := rfl
  single := List.nodup_nil
  opens _ _ member := absurd member List.not_mem_nil

/-- A start at the end of a trace is the last event. -/
theorem Preceded.concat {trace : List (Event φ)} {event : Event φ}
    (preceded : Preceded value sha256 hmacSha256 setup trace)
    (last : ∀ request pid, event = .started request pid → OverLimits value request →
      ∃ earlier token claims, trace = earlier ++ [.consumed token claims] ∧
        Approves sha256 hmacSha256 setup request token claims) :
    Preceded value sha256 hmacSha256 setup (trace ++ [event]) := by
  intro before request pid after split large
  rcases List.eq_nil_or_concat' after with rfl | ⟨rest, final, rfl⟩
  · obtain ⟨rfl, same⟩ := List.append_inj' split rfl
    exact last request pid (List.cons.inj same).1 large
  · rw [← List.cons_append, ← List.append_assoc] at split
    have front := (List.append_inj' split rfl).1
    exact preceded before request pid rest front large

section Step

variable {initial : List String} {service : Service φ}
  (sound : Sound value sha256 hmacSha256 setup initial service)

include sound

variable {request : LaunchRequest φ}

theorem Sound.spend {token : String} {claims : ApprovalClaims}
    (approves : Approves sha256 hmacSha256 setup request token claims)
    (unused : claims.jti ∉ service.consumed) :
    Sound value sha256 hmacSha256 setup initial (service.spend token claims) := by
  have starts : starts (service.spend token claims).trace = starts service.trace := by
    change Gpu.starts (service.trace ++ [.consumed token claims]) = _
    rw [starts_append]
    exact List.append_nil _
  have spent : consumptions (service.spend token claims).trace =
      consumptions service.trace ++ [(token, claims)] := consumptions_append _ _
  refine ⟨?_, sound.unique, ?_, ?_, ?_, ?_, ?_⟩
  · rw [starts]
    exact sound.keys
  · intro other pid member
    rw [← mem_starts, starts, mem_starts] at member
    exact sound.recorded other pid member
  · apply sound.preceded.concat
    intro _ _ impossible
    cases impossible
  · rw [spent, List.map_append, List.reverse_append]
    change claims.jti :: service.consumed = claims.jti :: (_ ++ initial)
    rw [sound.spent]
    rfl
  · rw [spent, List.map_append]
    refine List.nodup_append.mpr ⟨sound.single, List.nodup_singleton _, ?_⟩
    intro old inOld new isNew same
    have isNew : new = claims.jti := List.mem_singleton.mp isNew
    apply unused
    rw [sound.spent, ← isNew, ← same]
    exact List.mem_append_left _ (List.mem_reverse.mpr inOld)
  · intro other found member
    rcases List.mem_append.mp member with old | new
    · exact sound.opens other found old
    · cases List.mem_singleton.mp new
      exact approves.opens

theorem Sound.start {config : List (List Char)} {pid : Nat}
    (real : request.dryRun = false) (enabled : setup.enableSyntheticLocalExecution = true)
    (free : service.jobs.get? request.idempotencyKey = none)
    (preceding : OverLimits value request → ∃ earlier token claims,
      service.trace = earlier ++ [.consumed token claims] ∧
        Approves sha256 hmacSha256 setup request token claims) :
    Sound value sha256 hmacSha256 setup initial
      (service.start request (launchedJob value sha256 setup request config pid)) := by
  have absent := (Dict.get?_eq_none_iff _ _).mp free
  have starts : starts (service.trace ++ [.started request pid]) =
      starts service.trace ++ [(request, pid)] := starts_append _ _
  have spent : consumptions (service.trace ++ [.started request pid]) =
      consumptions service.trace := by
    rw [consumptions_append]
    exact List.append_nil _
  refine ⟨?_, Dict.keys_set_nodup _ _ _ sound.unique, ?_, ?_, ?_, ?_, ?_⟩
  · change (service.jobs.set _ _).keys = (Gpu.starts (service.trace ++ [.started request pid])).map _
    rw [starts, List.map_append, Dict.keys_set_of_not_mem _ _ absent, sound.keys]
    rfl
  · intro other number member
    rcases List.mem_append.mp member with old | new
    · obtain ⟨wasReal, wasEnabled, was, found⟩ := sound.recorded other number old
      refine ⟨wasReal, wasEnabled, was, ?_⟩
      have apart : other.idempotencyKey ≠ request.idempotencyKey := by
        intro same
        rw [same, free] at found
        cases found
      exact (Dict.get?_set_ne _ _ apart).trans found
    · cases List.mem_singleton.mp new
      exact ⟨real, enabled, config, Dict.get?_set_self _ _ _⟩
  · apply sound.preceded.concat
    intro other number same large
    cases same
    exact preceding large
  · change service.consumed =
      ((consumptions (service.trace ++ [.started request pid])).map _).reverse ++ initial
    rw [spent]
    exact sound.spent
  · change ((consumptions (service.trace ++ [.started request pid])).map _).Nodup
    rw [spent]
    exact sound.single
  · intro token claims member
    rcases List.mem_append.mp member with old | new
    · exact sound.opens token claims old
    · cases List.mem_singleton.mp new

theorem Sound.launched {outside : Outside} {later : Service φ}
    {result : Except ToolFailure (Response φ)}
    (launched : Launched value sha256 hmacSha256 setup request outside service result later) :
    Sound value sha256 hmacSha256 setup initial later := by
  cases launched with
  | unchanged => exact sound
  | spent failure token claims large approves unused failed => exact sound.spend approves unused
  | started response config pid within real enabled free =>
      exact sound.start real enabled free fun large => absurd large within
  | approved response config pid token claims large approves unused real enabled free =>
      exact (sound.spend approves unused).start real enabled free
        fun _ => ⟨_, token, claims, rfl, approves⟩

end Step

theorem afterLaunches_sound (initial : List String) (calls : List (LaunchRequest φ × Outside)) :
    Sound value sha256 hmacSha256 setup initial
      (afterLaunches value unicode sha256 hmacSha256 setup calls (opened initial)) := by
  unfold afterLaunches
  apply List.foldlRecOn
  · exact sound_opened initial
  · intro service sound call _
    exact sound.launched (launch_launched call.1 call.2 service)

/-! ### The law of launches -/

/-- One process for a key, and for each one over the limits a token of its own. -/
structure IndividuallyLaunched (value : φ → ℚ) (sha256 : Bytes → Digest)
    (hmacSha256 : Bytes → Bytes → Digest) (setup : Setup) (trace : List (Event φ)) : Prop where
  once : ((starts trace).map fun start => start.1.idempotencyKey).Nodup
  preceded : Preceded value sha256 hmacSha256 setup trace
  tokens : ((consumptions trace).map Prod.fst).Nodup
  identifiers : ((consumptions trace).map fun pair => pair.2.jti).Nodup

theorem Sound.individually {initial : List String}
    (sound : Sound value sha256 hmacSha256 setup initial service) :
    IndividuallyLaunched value sha256 hmacSha256 setup service.trace := by
  refine ⟨sound.keys ▸ sound.unique, sound.preceded, ?_, sound.single⟩
  -- a token says its identifier, so that one token is never spent under two
  refine List.Nodup.map_on ?_ (List.Nodup.of_map _ sound.single)
  rintro ⟨token, claims⟩ first ⟨other, found⟩ second (rfl : token = other)
  obtain ⟨secret, known, opens⟩ := sound.opens token claims (mem_consumptions.mp first)
  obtain ⟨again, same, reopens⟩ := sound.opens token found (mem_consumptions.mp second)
  rw [known] at same
  cases same
  rw [opens] at reopens
  cases reopens
  rfl

/-- What a launch that raises leaves behind: nothing, or a spent token of its own when the
process did not start. -/
structure RaisedCleanly (value : φ → ℚ) (sha256 : Bytes → Digest)
    (hmacSha256 : Bytes → Bytes → Digest) (setup : Setup) (request : LaunchRequest φ)
    (outside : Outside) (service later : Service φ) : Prop where
  jobs : later.jobs = service.jobs
  processes : starts later.trace = starts service.trace
  consumed : later = service ∨ (outside.process = none ∧ OverLimits value request ∧
    ∃ token claims, Approves sha256 hmacSha256 setup request token claims ∧
      later = service.spend token claims)

theorem launch_raised {outside : Outside} {failure : ToolFailure}
    (launched : Launched value sha256 hmacSha256 setup request outside service (.error failure)
      later) : RaisedCleanly value sha256 hmacSha256 setup request outside service later := by
  cases launched with
  | unchanged => exact ⟨rfl, rfl, .inl rfl⟩
  | spent failure token claims large approves unused failed =>
      refine ⟨rfl, ?_, .inr ⟨failed, large, token, claims, approves, rfl⟩⟩
      change starts (service.trace ++ [.consumed token claims]) = _
      rw [starts_append]
      exact List.append_nil _

/-- A request that has been launched gets its job back, as long as its config is there. -/
theorem Sound.repeated {initial : List String}
    (sound : Sound value sha256 hmacSha256 setup initial service)
    {pid : Nat} (started : .started request pid ∈ service.trace) (outside : Outside) :
    (launch value unicode sha256 hmacSha256 setup request outside service).2 = service ∧
      ∀ config, resolveConfig unicode sha256 outside.disk request = .ok config → ∃ job,
        service.jobs.get? request.idempotencyKey = some job ∧ job.pid = pid ∧
          (launch value unicode sha256 hmacSha256 setup request outside service).1 =
            .ok (job.current outside.returnCode true) := by
  obtain ⟨real, enabled, first, found⟩ := sound.recorded request pid started
  unfold launch plan
  cases resolved : resolveConfig unicode sha256 outside.disk request with
  | error failure => exact ⟨rfl, nofun⟩
  | ok config =>
      simp only [Except.map, real, enabled, found, Bool.false_eq_true, if_false]
      have same : (launchedJob value sha256 setup request first pid).plan.actionDigest =
          (planOf value sha256 setup request config).actionDigest := rfl
      rw [if_neg (not_not.mpr same)]
      exact ⟨rfl, fun _ _ => ⟨_, rfl, rfl, rfl⟩⟩

/-- Whatever is launched: a key starts one process at most; every process over the limits
comes right after the consumption of a token bound to it, and no token is spent twice; a
launch that raises leaves jobs and processes alone, and the tokens too unless its process
did not start; and a repeated launch changes nothing and returns its job while its config
file is what the request says. -/
theorem launches_individually_approved (value : φ → ℚ) (unicode : UnicodeText)
    (sha256 : Bytes → Digest) (hmacSha256 : Bytes → Bytes → Digest) (setup : Setup)
    (initial : List String) (calls : List (LaunchRequest φ × Outside)) :
    let service := afterLaunches value unicode sha256 hmacSha256 setup calls (opened initial)
    IndividuallyLaunched value sha256 hmacSha256 setup service.trace ∧
      ∀ request outside,
        (∀ failure, (launch value unicode sha256 hmacSha256 setup request outside service).1 =
            .error failure →
          RaisedCleanly value sha256 hmacSha256 setup request outside service
            (launch value unicode sha256 hmacSha256 setup request outside service).2) ∧
        ∀ pid, .started request pid ∈ service.trace →
          (launch value unicode sha256 hmacSha256 setup request outside service).2 = service ∧
          ∀ config, resolveConfig unicode sha256 outside.disk request = .ok config → ∃ job,
            service.jobs.get? request.idempotencyKey = some job ∧ job.pid = pid ∧
              (launch value unicode sha256 hmacSha256 setup request outside service).1 =
                .ok (job.current outside.returnCode true) := by
  intro service
  have sound : Sound value sha256 hmacSha256 setup initial service :=
    afterLaunches_sound initial calls
  refine ⟨sound.individually, fun request outside => ⟨?_, ?_⟩⟩
  · intro failure raised
    have launched : Launched value sha256 hmacSha256 setup request outside service
        (.error failure) (launch value unicode sha256 hmacSha256 setup request outside service).2 := by
      rw [← raised]
      exact launch_launched request outside service
    exact launch_raised launched
  · intro pid started
    exact sound.repeated started outside

end Launches

namespace Sample

open Api.Sample Bridge.Sample

/-- The number of a sample double. -/
def doubleValue : Double → ℚ
  | .finite number => number
  | .nan => 0

def configBytes : Bytes := utf8Encode "synthetic: true\n".toList

def configDisk (content : Bytes) : Disk := fun path =>
  if path = ["config.yaml".toList] then .file content else .missing

def setup : Setup where
  workspaceRoot := "/workspace"
  enableSyntheticLocalExecution := true
  approvalSecret := some (utf8Encode secret.toList)
  pythonExecutable := "/usr/bin/python3"

def requestOn (gpuIds : List Nat) : LaunchRequest Double where
  experimentId := "exp-0001"
  idempotencyKey := "idem-0001"
  entrypoint := .trainPose
  configPath := "config.yaml"
  configSha256 := (byteSum configBytes).labelled ""
  gpuIds
  seed := 7
  expectedGpuHours := .finite 1
  tags := []
  dryRun := false
  approvalToken := none

/-- An approval of the two-GPU request. -/
def approval : ApprovalRecord where
  id := "nonce_for_launch_003"
  status := .approved
  scope := approvalScope (requestOn [0, 1])
  action := approvalAction
  actionDigest := actionDigest byteSum (requestOn [0, 1])
  configSha256 := some (requestOn [0, 1]).configSha256
  expiresAt := newYear
  approver := none
  tokenHash := none

def token : String :=
  mintToken keyedSum (utf8Encode secret.toList)
    (utf8Encode (claimsValue approval (requestOn [0, 1]).configSha256 1000 1300).text)

def approvedRequest : LaunchRequest Double :=
  { requestOn [0, 1] with approvalToken := some token }

def outside (content : Bytes) (process : Option Nat) : Outside where
  disk := configDisk content
  checkedAt := 1100
  process
  returnCode := none

def launchSample (request : LaunchRequest Double) (content : Bytes) (process : Option Nat) :
    Effect (Service Double) ToolFailure (Response Double) :=
  launch doubleValue asciiText byteSum keyedSum setup request (outside content process)

def claims : ApprovalClaims := approval.claims (requestOn [0, 1]).configSha256 1000 1300

theorem claims_valid : claims.Valid := by decide +kernel

theorem token_opens : openToken keyedSum (utf8Encode secret.toList) token = .ok claims := by
  have nonempty :
      utf8Encode (claimsValue approval (requestOn [0, 1]).configSha256 1000 1300).text ≠ [] := by
    decide +kernel
  have fits : ¬ maxTokenBytes < 51 + ((utf8Encode
      (claimsValue approval (requestOn [0, 1]).configSha256 1000 1300).text).length * 4 + 2) / 3 := by
    decide +kernel
  unfold token
  rw [openToken_mintToken _ _ _ nonempty, if_neg fits,
    readBytes_utf8Encode_text _ (claims_plain _ _ _ _), Option.bind_some,
    modelValidate_claims claims_valid]
  rfl

theorem token_checked : claims.check (expectedOf byteSum approvedRequest) 1100 = .ok () := by
  have passes : (claims.check (expectedOf byteSum approvedRequest) 1100).isOk = true := by
    decide +kernel
  generalize claims.check (expectedOf byteSum approvedRequest) 1100 = checked at passes
  cases checked with
  | error failure => cases passes
  | ok done => rfl

theorem token_nonempty : token ≠ "" := by
  have opens := token_opens
  intro empty
  rw [empty] at opens
  have refused : openToken keyedSum (utf8Encode secret.toList) "" = .error tokenInvalid := rfl
  rw [refused] at opens
  cases opens

/-- A process that does not start leaves its token spent, and a repeated launch raises when
its config file has changed. -/
theorem failed_start_spends_token :
    ((launchSample approvedRequest configBytes none (opened [])).1.isOk = false ∧
      (launchSample approvedRequest configBytes none (opened [])).2.consumed =
        ["nonce_for_launch_003"]) ∧
    (launchSample (requestOn [0]) configBytes (some 4242) (opened [])).1.isOk = true ∧
    (launchSample (requestOn [0]) [] (some 4243)
      (launchSample (requestOn [0]) configBytes (some 4242) (opened [])).2).1.isOk = false := by
  refine ⟨?_, by decide +kernel, by decide +kernel⟩
  have planned : (plan doubleValue asciiText byteSum setup (configDisk configBytes)
      approvedRequest).isOk = true := by
    decide +kernel
  have large : (classifyGpuAction doubleValue approvedRequest).requiresApprovalForExecution =
      true := by
    decide +kernel
  have known : setup.approvalSecret = some (utf8Encode secret.toList) := rfl
  have unused : claims.jti ∉ ([] : List String) := List.not_mem_nil
  have approved : approveLaunch doubleValue byteSum keyedSum setup approvedRequest 1100 (opened []) =
      (.ok (), (opened []).spend token claims) :=
    approveLaunch_of large rfl token_nonempty known
      (validateAndConsume_of token_opens token_checked unused)
  have spent : launchSample approvedRequest configBytes none (opened []) = (_, _) :=
    launch_failed planned rfl rfl rfl approved rfl
  rw [spent]
  exact ⟨rfl, rfl⟩

end Sample

end EgoAgent.Gateway.Gpu
