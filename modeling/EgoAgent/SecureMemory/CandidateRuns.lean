import EgoAgent.SecureMemory.CandidateRpc

/-!
What holds of the candidate ledger after any calls.
-/

namespace EgoAgent.SecureMemory

open EgoAgent.Api
open EgoAgent.TrustedMemory (textField textField_eq_some)

section Tables

variable {φ τ : Type} [FloatText φ] {platform : CandidatePlatform φ τ}

/-! ### What a call can do to the tables -/

/-- The four tables of the admission. -/
structure Untouched (before later : CandidateLedger τ) : Prop where
  queues : later.queues = before.queues
  completed : later.completed = before.completed
  attempts : later.attempts = before.attempts
  proposals : later.proposals = before.proposals

theorem Untouched.trans {first second third : CandidateLedger τ} (left : Untouched first second)
    (right : Untouched second third) : Untouched first third :=
  ⟨right.queues.trans left.queues, right.completed.trans left.completed,
    right.attempts.trans left.attempts, right.proposals.trans left.proposals⟩

/-- The effect touches no table, whatever comes of it. -/
def Spares {α : Type} (effect : Effect (CandidateLedger τ) CandidateFault α) : Prop :=
  ∀ ledger, Untouched ledger (effect ledger).2

theorem spares_check {α : Type} (verdict : Except CandidateFault α) :
    Spares (τ := τ) (Effect.check verdict) := fun _ => ⟨rfl, rfl, rfl, rfl⟩

theorem spares_bind {α β : Type} {first : Effect (CandidateLedger τ) CandidateFault α}
    {next : α → Effect (CandidateLedger τ) CandidateFault β} (firstSpares : Spares first)
    (nextSpares : ∀ item, Spares (next item)) : Spares (first >>= next) := by
  intro ledger
  rw [Effect.bind_apply]
  have step := firstSpares ledger
  rcases outcome : first ledger with ⟨fault | item, later⟩
  · rw [outcome] at step
    exact step
  · rw [outcome] at step
    exact step.trans (nextSpares item later)

variable (platform) in
omit [FloatText φ] in
theorem reserveAttempt_spares (context : CandidateContext) (reading : τ) :
    Spares (reserveAttempt platform context reading) := by
  have untouched : ∀ {before later : CandidateLedger τ}, later.queues = before.queues →
      later.completed = before.completed → later.attempts = before.attempts →
      later.proposals = before.proposals → Untouched before later :=
    fun one two three four => ⟨one, two, three, four⟩
  have now : Spares (ledgerNow platform reading) := by
    refine spares_bind (fun _ => untouched rfl rfl rfl rfl) fun _ => ?_
    refine spares_bind (spares_check _) fun _ => ?_
    exact spares_bind (fun _ => untouched rfl rfl rfl rfl) fun _ => fun _ =>
      untouched rfl rfl rfl rfl
  refine spares_bind (fun _ => untouched rfl rfl rfl rfl) fun _ => ?_
  iterate 3 refine spares_bind (spares_check _) fun _ => ?_
  refine spares_bind (fun _ => untouched rfl rfl rfl rfl) fun _ => ?_
  refine spares_bind now fun _ => ?_
  refine spares_bind (fun _ => untouched rfl rfl rfl rfl) fun _ => ?_
  refine spares_bind (spares_check _) fun _ => ?_
  exact spares_check _

/-- The tables after an attempt is refused. -/
structure Refused (key : AttemptKey) (before later : CandidateLedger τ) : Prop where
  queues : later.queues = before.queues
  completed : later.completed = before.completed
  proposals : later.proposals = before.proposals
  attempts : ∃ digest reason,
    later.attempts = Function.update before.attempts key (some ⟨digest, none, some reason⟩)

variable {key : AttemptKey}

variable {digest : Option String}

theorem refuseAttempt_refused {α : Type}
    {reason : String} {before ledger later : CandidateLedger τ} {result : Except CandidateFault α}
    (untouched : Untouched before ledger)
    (ran : refuseAttempt key digest reason ledger = (result, later)) :
    Refused key before later ∧ ∃ fault, result = .error fault := by
  unfold refuseAttempt recordAttempt at ran
  rw [Effect.write_bind] at ran
  cases ran
  refine ⟨⟨untouched.queues, untouched.completed, untouched.proposals, digest, reason, ?_⟩, _, rfl⟩
  show Function.update ledger.attempts key _ = _
  rw [untouched.attempts]

/-- The parts of a proposal that was admitted as a new one. -/
structure Creation (platform : CandidatePlatform φ τ) (context : CandidateContext)
    (document : List (String × Json φ)) (digest : String) (receipt : Bytes)
    (before later : CandidateLedger τ) where
  candidate : CandidateProposal
  named : Dict.get? document "proposal_id" = some (.str candidate.proposalId)
  receiptIs : receipt = candidateReceipt platform candidate
    (candidateReceiptId platform context.attemptKey digest)
  unqueued : Dict.get? (before.queues context.attemptKey.campaign)
    (candidateReceiptId platform context.attemptKey digest) = none
  uncompleted : before.completed (candidateReceiptId platform context.attemptKey digest) = none
  room : (before.queues context.attemptKey.campaign).length < 32
  queues : later.queues = Function.update before.queues context.attemptKey.campaign
    (Dict.set (before.queues context.attemptKey.campaign)
      (candidateReceiptId platform context.attemptKey digest) context.attemptKey)
  completed : later.completed = before.completed
  attempts : later.attempts = Function.update before.attempts context.attemptKey
    (some ⟨some digest, some receipt, none⟩)
  proposals : later.proposals = Function.update before.proposals candidate.proposalId
    (some ⟨context.semanticBoundary, digest, receipt⟩)

variable {members : List (String × Json φ)}

omit [FloatText φ] in
theorem validateProposal_named {candidate : CandidateProposal}
    (valid : validateProposal platform.coercions members = some candidate) :
    Dict.get? members "proposal_id" = some (.str candidate.proposalId) := by
  unfold validateProposal at valid
  split at valid
  swap
  · cases valid
  obtain ⟨_, _, valid⟩ := Option.bind_eq_some_iff.mp valid
  obtain ⟨proposalId, isProposal, valid⟩ := Option.bind_eq_some_iff.mp valid
  iterate 10 obtain ⟨_, _, valid⟩ := Option.bind_eq_some_iff.mp valid
  split at valid
  · cases valid
    exact (textField_eq_some isProposal).1
  · cases valid

theorem check_bind_cases {σ α β : Type} {verdict : Except CandidateFault α}
    {next : α → Effect σ CandidateFault β} {state later : σ} {result : Except CandidateFault β}
    (ran : (Effect.check verdict >>= next) state = (result, later)) :
    ((∃ fault, result = .error fault) ∧ later = state) ∨
      ∃ item, verdict = .ok item ∧ next item state = (result, later) := by
  rw [Effect.check_bind_apply] at ran
  cases verdict with
  | error fault =>
      cases ran
      exact .inl ⟨⟨fault, rfl⟩, rfl⟩
  | ok item => exact .inr ⟨item, rfl, ran⟩

variable {document : Option (List (String × Json φ))} {context : CandidateContext}
  {result : Except CandidateFault Bytes} {reading : τ} {ledger later : CandidateLedger τ}

/-- The `try` block creates, or touches nothing. -/
theorem admitProposal_cases
    (ran : admitProposal platform context document digest reading ledger = (result, later)) :
    ((∃ fault, result = .error fault) ∧ Untouched ledger later) ∨
      ∃ members text receipt, document = some members ∧ digest = some text ∧
        result = .ok receipt ∧
          Nonempty (Creation platform context members text receipt ledger later) := by
  unfold admitProposal at ran
  have spares := reserveAttempt_spares platform context reading ledger
  rw [Effect.bind_apply] at ran
  rcases reserved : reserveAttempt platform context reading ledger with ⟨fault | _, middle⟩
  · rw [reserved] at ran spares
    cases ran
    exact .inl ⟨⟨_, rfl⟩, spares⟩
  rw [reserved] at ran spares
  dsimp only at ran spares
  have stops : ∀ {final : CandidateLedger τ}, (∃ fault, result = .error fault) ∧ final = middle →
      (∃ fault, result = .error fault) ∧ Untouched ledger final := by
    rintro _ ⟨raised, rfl⟩
    exact ⟨raised, spares⟩
  rcases check_bind_cases ran with stopped | ⟨members, isDocument, ran⟩
  · exact .inl (stops stopped)
  rcases check_bind_cases ran with stopped | ⟨_, _, ran⟩
  · exact .inl (stops stopped)
  rcases check_bind_cases ran with stopped | ⟨candidate, isValid, ran⟩
  · exact .inl (stops stopped)
  rcases check_bind_cases ran with stopped | ⟨text, isDigest, ran⟩
  · exact .inl (stops stopped)
  rw [Effect.read_bind] at ran
  rcases check_bind_cases ran with stopped | ⟨_, isFree, ran⟩
  · exact .inl (stops stopped)
  rw [Effect.write_bind] at ran
  cases ran
  obtain ⟨unqueued, rest⟩ := not_or.mp ((raiseIf_eq_ok _ _ ()).mp isFree)
  obtain ⟨uncompleted, room⟩ := not_or.mp rest
  rw [spares.queues] at unqueued room
  rw [spares.completed] at uncompleted
  refine .inr ⟨members, text, _, (expect_eq_ok _ _ _).mp isDocument,
    (expect_eq_ok _ _ _).mp isDigest, rfl, ⟨candidate, ?_, rfl, ?_, ?_, ?_, ?_, ?_, ?_, ?_⟩⟩
  · exact validateProposal_named ((expect_eq_ok _ _ _).mp isValid)
  · exact Option.not_isSome_iff_eq_none.mp unqueued
  · exact Option.not_isSome_iff_eq_none.mp uncompleted
  · exact not_le.mp room
  · show Function.update middle.queues _ _ = _
    rw [spares.queues]
  · exact spares.completed
  · show Function.update middle.attempts _ _ = _
    rw [spares.attempts]
  · show Function.update middle.proposals _ _ = _
    rw [spares.proposals]

/-! ### The outcomes of a call -/

/-- What comes of a proposal. -/
inductive Proposed (platform : CandidatePlatform φ τ) (context : CandidateContext)
    (document : Option (List (String × Json φ))) (before : CandidateLedger τ) :
    Except CandidateFault Bytes → CandidateLedger τ → Prop
  | answered {prior : Attempt} (found : before.attempts context.attemptKey = some prior) :
      Proposed platform context document before
        (prior.answer (document.bind (proposalDigest platform))) before
  | refused {fault : CandidateFault} {later : CandidateLedger τ}
      (new : before.attempts context.attemptKey = none)
      (refused : Refused context.attemptKey before later) :
      Proposed platform context document before (.error fault) later
  | repeated {known : AcceptedProposal} {pid : String} {later : CandidateLedger τ}
      (new : before.attempts context.attemptKey = none) (named : namedProposal document = some pid)
      (found : before.proposals pid = some known)
      (boundary : known.boundary = context.semanticBoundary)
      (digest : document.bind (proposalDigest platform) = some known.digest)
      (queues : later.queues = before.queues) (completed : later.completed = before.completed)
      (proposals : later.proposals = before.proposals)
      (attempts : later.attempts = Function.update before.attempts context.attemptKey
        (some ⟨some known.digest, some known.receipt, none⟩)) :
      Proposed platform context document before (.ok known.receipt) later
  | created {members : List (String × Json φ)} {digest : String} {receipt : Bytes}
      {later : CandidateLedger τ} (new : before.attempts context.attemptKey = none)
      (isDocument : document = some members)
      (isDigest : proposalDigest platform members = some digest)
      (creation : Creation platform context members digest receipt before later)
      (unknown : before.proposals creation.candidate.proposalId = none) :
      Proposed platform context document before (.ok receipt) later

omit [FloatText φ] in
/-- An attempt that is counted, and refused. -/
theorem reserved_refused {rest : Effect (CandidateLedger τ) CandidateFault Bytes}
    (ran : ((onFault (reserveAttempt platform context reading) fun fault =>
      refuseAttempt key digest fault.reason) >>= fun _ => rest) ledger = (result, later))
    (refuses : ∀ middle, Untouched ledger middle → rest middle = (result, later) →
      Refused key ledger later ∧ ∃ fault, result = .error fault) :
    Refused key ledger later ∧ ∃ fault, result = .error fault := by
  have spares := reserveAttempt_spares platform context reading ledger
  rw [Effect.bind_apply] at ran
  unfold onFault at ran
  rcases reserved : reserveAttempt platform context reading ledger with ⟨fault | _, middle⟩
  · rw [reserved] at ran spares
    dsimp only at ran
    rcases stopped : (refuseAttempt key digest fault.reason middle :
      Except CandidateFault Unit × CandidateLedger τ) with ⟨outcome, final⟩
    obtain ⟨refused, other, rfl⟩ := refuseAttempt_refused spares stopped
    rw [stopped] at ran
    cases ran
    exact ⟨refused, other, rfl⟩
  · rw [reserved] at ran spares
    exact refuses middle spares ran

theorem propose_proposed
    (ran : propose platform document context reading ledger = (result, later)) :
    Proposed platform context document ledger result later := by
  have refuses : ∀ {digest : Option String} {reason : String} {middle final : CandidateLedger τ}
      {outcome : Except CandidateFault Bytes}, ledger.attempts context.attemptKey = none →
      Untouched ledger middle →
      refuseAttempt context.attemptKey digest reason middle = (outcome, final) →
      Proposed platform context document ledger outcome final := by
    intro digest reason middle final outcome new untouched stopped
    obtain ⟨refused, fault, rfl⟩ := refuseAttempt_refused untouched stopped
    exact .refused new refused
  unfold propose at ran
  rw [Effect.read_bind] at ran
  cases found : ledger.attempts context.attemptKey with
  | some prior =>
      simp only [found] at ran
      cases ran
      exact .answered found
  | none =>
      simp only [found] at ran
      split at ran
      · obtain ⟨refused, fault, rfl⟩ := reserved_refused ran fun middle untouched rest => by
          rw [Effect.write_bind] at rest
          refine refuseAttempt_refused ?_ rest
          exact ⟨untouched.queues, untouched.completed, untouched.attempts, untouched.proposals⟩
        exact .refused found refused
      · cases differs : document.bind (differsFrom platform context) with
        | some reason =>
            simp only [differs] at ran
            obtain ⟨refused, fault, rfl⟩ := reserved_refused ran fun middle untouched rest => by
              unfold noteRejection at rest
              rw [Effect.write_bind] at rest
              refine refuseAttempt_refused ?_ rest
              exact ⟨untouched.queues, untouched.completed, untouched.attempts,
                untouched.proposals⟩
            exact .refused found refused
        | none =>
            simp only [differs] at ran
            cases isKnown : (namedProposal document).bind ledger.proposals with
            | some known =>
                obtain ⟨pid, named, isFound⟩ := Option.bind_eq_some_iff.mp isKnown
                simp only [isKnown] at ran
                split at ran
                · rename_i same
                  unfold recordAttempt at ran
                  rw [Effect.write_bind] at ran
                  cases ran
                  exact .repeated found named isFound same.1 same.2.symm rfl rfl rfl
                    (by rw [same.2])
                · exact refuses found ⟨rfl, rfl, rfl, rfl⟩ ran
            | none =>
                simp only [isKnown] at ran
                unfold onFault at ran
                rcases admitted : admitProposal platform context document
                  (document.bind (proposalDigest platform)) reading ledger with ⟨outcome, middle⟩
                rw [admitted] at ran
                rcases admitProposal_cases admitted with ⟨⟨fault, rfl⟩, untouched⟩ |
                  ⟨members, digest, receipt, rfl, isDigest, rfl, ⟨creation⟩⟩
                · dsimp only at ran
                  unfold noteRejection at ran
                  rw [Effect.write_bind] at ran
                  refine refuses found ?_ ran
                  exact ⟨untouched.queues, untouched.completed, untouched.attempts,
                    untouched.proposals⟩
                · cases ran
                  refine .created found rfl isDigest creation ?_
                  rw [namedProposal, Option.bind_some, creation.named] at isKnown
                  exact isKnown

/-! ### Runs -/

inductive CandidateCall (φ τ : Type) where
  | propose (document : Option (List (String × Json φ))) (context : CandidateContext) (reading : τ)
  | complete (context : CandidateContext) (receiptId : String)

variable (platform)

def CandidateCall.after (ledger : CandidateLedger τ) : CandidateCall φ τ → CandidateLedger τ
  | .propose document context reading =>
      (SecureMemory.propose platform document context reading ledger).2
  | .complete context receiptId => (SecureMemory.complete context receiptId ledger).2

/-- The ledger after these calls. -/
def ledgerAfter (calls : List (CandidateCall φ τ)) : CandidateLedger τ :=
  calls.foldl (CandidateCall.after platform) .empty

theorem ledgerAfter_snoc (calls : List (CandidateCall φ τ)) (call : CandidateCall φ τ) :
    ledgerAfter platform (calls ++ [call]) = call.after platform (ledgerAfter platform calls) := by
  unfold ledgerAfter
  rw [List.foldl_append]
  rfl

/-- One of the calls proposes this document for this attempt. -/
structure Proposing (calls : List (CandidateCall φ τ)) (key : AttemptKey)
    (members : List (String × Json φ)) (digest : String) : Prop where
  called : ∃ context reading, CandidateCall.propose (some members) context reading ∈ calls ∧
    context.attemptKey = key
  digest : proposalDigest platform members = some digest

/-- The bytes that are hashed for the receipts and the proposals of these calls. -/
def hashedIn (calls : List (CandidateCall φ τ)) : Set Bytes :=
  { bytes | ∃ key members digest, Proposing platform calls key members digest ∧
    (bytes = utf8Encode (("egoagentos:" ++ "candidate-receipt" ++ ":v1\x00").toList ++
        (receiptDocument key digest).sorted.text) ∨
      bytes = utf8Encode (("egoagentos:" ++ "candidate-proposal" ++ ":v1\x00").toList ++
        (Json.dict members).sorted.text)) }

/-- The receipt is in exactly one place, under its attempt. -/
def Placed (ledger : CandidateLedger τ) (key : AttemptKey) (receiptId : String) : Prop :=
  (Dict.get? (ledger.queues key.campaign) receiptId = some key ∧
      ledger.completed receiptId = none) ∨
    (Dict.get? (ledger.queues key.campaign) receiptId = none ∧
      ledger.completed receiptId = some key)

/-- What stands behind an accepted proposal. -/
structure Issued (calls : List (CandidateCall φ τ)) (ledger : CandidateLedger τ) (pid : String)
    (accepted : AcceptedProposal) (creator : AttemptKey) : Prop where
  attempt : ledger.attempts creator =
    some ⟨some accepted.digest, some accepted.receipt, none⟩
  boundary : creator.boundary = accepted.boundary
  proposing : ∃ members, Proposing platform calls creator members accepted.digest ∧
    Dict.get? members "proposal_id" = some (.str pid)
  receipt : ∃ candidate, candidate.proposalId = pid ∧ accepted.receipt =
    candidateReceipt platform candidate (candidateReceiptId platform creator accepted.digest)
  placed : Placed ledger creator (candidateReceiptId platform creator accepted.digest)

/-- The invariant of the ledger. -/
structure Admitted (calls : List (CandidateCall φ τ)) (ledger : CandidateLedger τ) : Prop where
  issued : ∀ pid accepted, ledger.proposals pid = some accepted →
    ∃ creator, Issued platform calls ledger pid accepted creator
  known : ∀ key attempt receipt, ledger.attempts key = some attempt →
    attempt.receipt = some receipt → ∃ pid accepted, ledger.proposals pid = some accepted ∧
      accepted.boundary = key.boundary ∧ attempt.digest = some accepted.digest ∧
        accepted.receipt = receipt
  queued : ∀ campaign receiptId key, Dict.get? (ledger.queues campaign) receiptId = some key →
    ∃ members digest, Proposing platform calls key members digest ∧
      receiptId = candidateReceiptId platform key digest
  depth : ∀ campaign, (ledger.queues campaign).length ≤ 32

theorem Admitted.empty (calls : List (CandidateCall φ τ)) :
    Admitted platform calls CandidateLedger.empty where
  issued := fun _ _ found => by cases found
  known := fun _ _ _ found => by cases found
  queued := fun _ _ _ found => by cases found
  depth := fun _ => Nat.zero_le _

/-- Entries of attempts and proposals stay. -/
structure Keeps (before later : CandidateLedger τ) : Prop where
  attempts : ∀ key attempt, before.attempts key = some attempt →
    later.attempts key = some attempt
  proposals : ∀ pid accepted, before.proposals pid = some accepted →
    later.proposals pid = some accepted

theorem update_of_some {κ α : Type} [DecidableEq κ] {table : κ → Option α} {key other : κ}
    {value : Option α} {found : α} (new : table key = none) (old : table other = some found) :
    Function.update table key value other = some found := by
  rw [Function.update_of_ne, old]
  rintro rfl
  rw [new] at old
  cases old

variable {platform}
variable {calls : List (CandidateCall φ τ)} {ledger later : CandidateLedger τ}

theorem Proposed.keeps
    (proposed : Proposed platform context document ledger result later) : Keeps ledger later := by
  cases proposed with
  | answered found => exact ⟨fun _ _ same => same, fun _ _ same => same⟩
  | refused new refused =>
      obtain ⟨digest, reason, attempts⟩ := refused.attempts
      refine ⟨fun key attempt old => ?_, fun pid accepted old => refused.proposals ▸ old⟩
      rw [attempts]
      exact update_of_some new old
  | repeated new named found boundary digest queues completed proposals attempts =>
      refine ⟨fun key attempt old => ?_, fun pid accepted old => proposals ▸ old⟩
      rw [attempts]
      exact update_of_some new old
  | created new isDocument isDigest creation unknown =>
      refine ⟨fun key attempt old => ?_, fun pid accepted old => ?_⟩
      · rw [creation.attempts]
        exact update_of_some new old
      · rw [creation.proposals]
        exact update_of_some unknown old

theorem Placed.of_same {receiptId : String} (placed : Placed ledger key receiptId)
    (queue : Dict.get? (later.queues key.campaign) receiptId =
      Dict.get? (ledger.queues key.campaign) receiptId)
    (completed : later.completed receiptId = ledger.completed receiptId) :
    Placed later key receiptId := by
  unfold Placed
  rw [queue, completed]
  exact placed

theorem Issued.kept {pid : String} {accepted : AcceptedProposal} {creator : AttemptKey}
    (issued : Issued platform calls ledger pid accepted creator) (keeps : Keeps ledger later)
    (placed : Placed later creator (candidateReceiptId platform creator accepted.digest)) :
    Issued platform calls later pid accepted creator :=
  ⟨keeps.attempts _ _ issued.attempt, issued.boundary, issued.proposing, issued.receipt, placed⟩

/-- A step that leaves the queues and the accepted proposals alone. -/
theorem Admitted.recorded (admitted : Admitted platform calls ledger)
    {attempt : Attempt} (new : ledger.attempts key = none) (queues : later.queues = ledger.queues)
    (completed : later.completed = ledger.completed)
    (proposals : later.proposals = ledger.proposals)
    (attempts : later.attempts = Function.update ledger.attempts key (some attempt))
    (known : ∀ receipt, attempt.receipt = some receipt → ∃ pid accepted,
      ledger.proposals pid = some accepted ∧ accepted.boundary = key.boundary ∧
        attempt.digest = some accepted.digest ∧ accepted.receipt = receipt) :
    Admitted platform calls later := by
  have keeps : Keeps ledger later := by
    refine ⟨fun other old found => ?_, fun pid accepted old => proposals ▸ old⟩
    rw [attempts]
    exact update_of_some new found
  refine ⟨?_, ?_, ?_, ?_⟩
  · intro pid accepted found
    obtain ⟨creator, issued⟩ := admitted.issued pid accepted (proposals ▸ found)
    exact ⟨creator, issued.kept keeps (issued.placed.of_same (by rw [queues]) (by rw [completed]))⟩
  · intro other old receipt found isReceipt
    rw [attempts] at found
    rw [proposals]
    by_cases same : other = key
    · subst same
      rw [Function.update_self] at found
      cases found
      exact known receipt isReceipt
    · rw [Function.update_of_ne same] at found
      exact admitted.known other old receipt found isReceipt
  · intro campaign receiptId other found
    exact admitted.queued campaign receiptId other (queues ▸ found)
  · intro campaign
    rw [queues]
    exact admitted.depth campaign

variable {digest : String} {receipt : Bytes}

/-- A new proposal is admitted. -/
theorem Admitted.created (admitted : Admitted platform calls ledger)
    (new : ledger.attempts context.attemptKey = none)
    (proposing : Proposing platform calls context.attemptKey members digest)
    (creation : Creation platform context members digest receipt ledger later)
    (unknown : ledger.proposals creation.candidate.proposalId = none) :
    Admitted platform calls later := by
  have keeps : Keeps ledger later := by
    refine ⟨fun key attempt old => ?_, fun pid accepted old => ?_⟩
    · rw [creation.attempts]
      exact update_of_some new old
    · rw [creation.proposals]
      exact update_of_some unknown old
  refine ⟨?_, ?_, ?_, ?_⟩
  · intro pid accepted found
    rw [creation.proposals] at found
    by_cases same : pid = creation.candidate.proposalId
    · subst same
      rw [Function.update_self] at found
      cases found
      refine ⟨context.attemptKey, ?_, rfl, ⟨members, proposing, creation.named⟩,
        ⟨creation.candidate, rfl, creation.receiptIs⟩, .inl ⟨?_, ?_⟩⟩
      · rw [creation.attempts]
        exact Function.update_self _ _ _
      · rw [creation.queues, Function.update_self]
        exact Dict.get?_set_self _ _ _
      · rw [creation.completed]
        exact creation.uncompleted
    · rw [Function.update_of_ne same] at found
      obtain ⟨creator, issued⟩ := admitted.issued pid accepted found
      refine ⟨creator, issued.kept keeps (issued.placed.of_same ?_ (by rw [creation.completed]))⟩
      rw [creation.queues]
      by_cases own : creator.campaign = context.attemptKey.campaign
      · rw [own, Function.update_self, Dict.get?_set_ne]
        -- a receipt that stands somewhere is not the new one
        intro sameId
        rcases issued.placed with ⟨queued, _⟩ | ⟨_, completed⟩
        · rw [own, sameId, creation.unqueued] at queued
          cases queued
        · rw [sameId, creation.uncompleted] at completed
          cases completed
      · rw [Function.update_of_ne own]
  · intro key attempt filed found isReceipt
    rw [creation.attempts] at found
    by_cases same : key = context.attemptKey
    · subst same
      rw [Function.update_self] at found
      cases found
      refine ⟨creation.candidate.proposalId, ⟨context.semanticBoundary, digest, receipt⟩, ?_, rfl,
        rfl, Option.some.inj isReceipt⟩
      rw [creation.proposals]
      exact Function.update_self _ _ _
    · rw [Function.update_of_ne same] at found
      obtain ⟨pid, accepted, isAccepted, rest⟩ := admitted.known key attempt filed found isReceipt
      exact ⟨pid, accepted, keeps.proposals _ _ isAccepted, rest⟩
  · intro campaign receiptId key found
    rw [creation.queues] at found
    by_cases own : campaign = context.attemptKey.campaign
    · subst own
      rw [Function.update_self] at found
      by_cases same : receiptId = candidateReceiptId platform context.attemptKey digest
      · subst same
        rw [Dict.get?_set_self] at found
        cases found
        exact ⟨members, digest, proposing, rfl⟩
      · rw [Dict.get?_set_ne _ _ same] at found
        exact admitted.queued _ receiptId key found
    · rw [Function.update_of_ne own] at found
      exact admitted.queued campaign receiptId key found
  · intro campaign
    rw [creation.queues]
    by_cases own : campaign = context.attemptKey.campaign
    · subst own
      rw [Function.update_self]
      exact (Dict.length_set_le _ _ _).trans creation.room
    · rw [Function.update_of_ne own]
      exact admitted.depth campaign

theorem Admitted.proposed (admitted : Admitted platform calls ledger)
    (called : CandidateCall.propose document context reading ∈ calls)
    (proposed : Proposed platform context document ledger result later) :
    Admitted platform calls later := by
  cases proposed with
  | answered found => exact admitted
  | refused new refused =>
      obtain ⟨digest, reason, attempts⟩ := refused.attempts
      exact admitted.recorded new refused.queues refused.completed refused.proposals attempts
        fun _ isReceipt => by cases isReceipt
  | repeated new named found boundary digest queues completed proposals attempts =>
      rename_i known pid
      refine admitted.recorded new queues completed proposals attempts fun receipt isReceipt => ?_
      cases isReceipt
      exact ⟨pid, known, found, boundary, rfl, rfl⟩
  | created new isDocument isDigest creation unknown =>
      rename_i members text receipt
      subst isDocument
      exact admitted.created new ⟨⟨context, reading, called, rfl⟩, isDigest⟩ creation unknown

/-! ### Hashes -/

theorem utf8Encode_append_inj {prefixed left right : List Char}
    (same : utf8Encode (prefixed ++ left) = utf8Encode (prefixed ++ right)) :
    utf8Encode left = utf8Encode right := by
  unfold utf8Encode at same ⊢
  rw [List.flatMap_append, List.flatMap_append] at same
  exact List.append_cancel_left same

variable {key other : AttemptKey}

theorem attemptDocument_injective (same : key.document = other.document) : key = other := by
  obtain ⟨⟨⟨⟨campaignId, configuration, tenant⟩, problemId⟩, turn⟩, taskId, generation, attempt,
    idempotencyKey⟩ := key
  obtain ⟨⟨⟨⟨otherCampaign, otherConfiguration, otherTenant⟩, otherProblem⟩, otherTurn⟩,
    otherTask, otherGeneration, otherAttempt, otherIdempotency⟩ := other
  simp only [AttemptKey.document, AttemptKey.campaign, List.cons.injEq, Json.list.injEq,
    Json.str.injEq, Json.int.injEq, Int.natCast_inj] at same
  obtain ⟨rfl, isConfiguration, rfl, rfl, rfl, rfl, rfl, rfl, rfl, _⟩ := same
  have same : configuration = otherConfiguration := by
    have found := Configuration.find_value configuration
    rw [isConfiguration, Configuration.find_value] at found
    exact (Option.some.inj found).symm
  rw [same]

variable (collisionFree : Set.InjOn platform.sha256 (hashedIn platform calls))

include collisionFree in
/-- The attempt behind a receipt id. -/
theorem attempt_of_receiptId
    {members otherMembers : List (String × Json φ)} {digest otherDigest : String}
    (left : Proposing platform calls key members digest)
    (right : Proposing platform calls other otherMembers otherDigest)
    (same : candidateReceiptId platform key digest =
      candidateReceiptId platform other otherDigest) : key = other := by
  have hashes := Digest.labelled_injective "" same
  have bytes := collisionFree ⟨key, members, digest, left, .inl rfl⟩
    ⟨other, otherMembers, otherDigest, right, .inl rfl⟩ hashes
  have text := utf8Encode_append_inj bytes
  have sorted : (receiptDocument key digest).sorted =
      (receiptDocument other otherDigest).sorted := by
    have read := readCompact_text (receiptDocument key digest).sorted
    rw [text, readCompact_text] at read
    exact (Option.some.inj read).symm
  have distinct : ∀ (key : AttemptKey) (digest : String), (Dict.keys
      [("boundary", key.document), ("digest", Json.str digest)]).Nodup := by
    intro key digest
    show ["boundary", "digest"].Nodup
    decide
  have boundary := get?_eq_of_sorted_dict_eq (distinct key digest) (distinct other otherDigest)
    sorted "boundary"
  exact attemptDocument_injective (Option.some.inj boundary)

theorem proposalDigest_eq_some (isDigest : proposalDigest platform members = some digest) :
    writable (.dict members) = true ∧ digest =
      (domainDigest platform.sha256 "candidate-proposal" (.dict members)).labelled "" := by
  unfold proposalDigest at isDigest
  split at isDigest
  · cases isDigest
  · split at isDigest
    · rename_i isWritable
      exact ⟨isWritable, (Option.some.inj isDigest).symm⟩
    · cases isDigest

include collisionFree in
/-- Proposals under one digest have one name. -/
theorem named_of_digest {loads : Bytes → Option (Json φ)} (readsBack : ReadsBack loads)
    {members otherMembers : List (String × Json φ)}
    (left : Proposing platform calls key members digest)
    (right : Proposing platform calls other otherMembers digest) {pid : String}
    (named : Dict.get? members "proposal_id" = some (.str pid)) :
    Dict.get? otherMembers "proposal_id" = some (.str pid) := by
  obtain ⟨leftWritable, leftDigest⟩ := proposalDigest_eq_some left.digest
  obtain ⟨rightWritable, rightDigest⟩ := proposalDigest_eq_some right.digest
  have hashes := Digest.labelled_injective "" (leftDigest.symm.trans rightDigest)
  have bytes := collisionFree ⟨key, members, digest, left, .inr rfl⟩
    ⟨other, otherMembers, digest, right, .inr rfl⟩ hashes
  have leftParts := (writable_iff _).mp leftWritable
  have rightParts := (writable_iff _).mp rightWritable
  have sorted := sorted_eq_of_bytes readsBack leftParts.2 rightParts.2 leftParts.1 rightParts.1
    (utf8Encode_append_inj bytes)
  have lookup := get?_eq_of_sorted_dict_eq ((legible_dict_iff _).mp leftParts.1).1
    ((legible_dict_iff _).mp rightParts.1).1 sorted "proposal_id"
  rw [named] at lookup
  obtain ⟨value, found, isText⟩ := Option.map_eq_some_iff.mp lookup.symm
  rw [found]
  cases value with
  | str text => exact congrArg some isText
  | _ => cases isText

/-- A completion moves a receipt of its attempt, or changes nothing. -/
structure Completes (key : AttemptKey) (receiptId : String) (before later : CandidateLedger τ) :
    Prop where
  own : Dict.get? (before.queues key.campaign) receiptId = some key
  queues : later.queues = Function.update before.queues key.campaign
    ((before.queues key.campaign).filter fun entry => entry.1 ≠ receiptId)
  completed : later.completed = Function.update before.completed receiptId (some key)
  attempts : later.attempts = before.attempts
  proposals : later.proposals = before.proposals

omit [FloatText φ] in
theorem complete_cases (context : CandidateContext) (receiptId : String)
    (ledger : CandidateLedger τ) :
    (complete context receiptId ledger).2 = ledger ∨
      Completes context.attemptKey receiptId ledger (complete context receiptId ledger).2 := by
  unfold complete
  rw [Effect.read_bind]
  by_cases own : Dict.get? (ledger.queues context.attemptKey.campaign) receiptId =
    some context.attemptKey
  · rw [if_pos own]
    exact .inr ⟨own, rfl, rfl, rfl, rfl⟩
  · rw [if_neg own]
    exact .inl rfl

include collisionFree in
/-- A receipt is completed. -/
theorem Admitted.completed (admitted : Admitted platform calls ledger)
    {receiptId : String} (completes : Completes key receiptId ledger later) :
    Admitted platform calls later := by
  have keeps : Keeps ledger later := by
    refine ⟨fun other attempt found => ?_, fun pid accepted found => ?_⟩
    · rw [completes.attempts]
      exact found
    · rw [completes.proposals]
      exact found
  refine ⟨?_, ?_, ?_, ?_⟩
  · intro pid accepted found
    rw [completes.proposals] at found
    obtain ⟨creator, issued⟩ := admitted.issued pid accepted found
    refine ⟨creator, issued.kept keeps ?_⟩
    have placed := issued.placed
    have isCreator : candidateReceiptId platform creator accepted.digest = receiptId →
        creator = key := by
      intro same
      obtain ⟨_, digest, queuedProposing, isId⟩ := admitted.queued _ _ _ completes.own
      obtain ⟨_, proposing, _⟩ := issued.proposing
      exact attempt_of_receiptId collisionFree proposing queuedProposing (same.trans isId)
    revert placed isCreator
    generalize candidateReceiptId platform creator accepted.digest = issuedId
    intro placed isCreator
    by_cases same : issuedId = receiptId
    · have isKey := isCreator same
      subst isKey same
      refine .inr ⟨?_, ?_⟩
      · rw [completes.queues, Function.update_self, Dict.get?_removed, if_pos rfl]
      · rw [completes.completed, Function.update_self]
    · refine placed.of_same ?_ ?_
      · rw [completes.queues]
        by_cases campaign : creator.campaign = key.campaign
        · rw [campaign, Function.update_self, Dict.get?_removed, if_neg same]
        · rw [Function.update_of_ne campaign]
      · rw [completes.completed, Function.update_of_ne same]
  · intro other attempt receipt found isReceipt
    rw [completes.attempts] at found
    rw [completes.proposals]
    exact admitted.known other attempt receipt found isReceipt
  · intro campaign other holder found
    rw [completes.queues] at found
    by_cases same : campaign = key.campaign
    · subst same
      rw [Function.update_self, Dict.get?_removed] at found
      split at found
      · cases found
      · exact admitted.queued _ other holder found
    · rw [Function.update_of_ne same] at found
      exact admitted.queued campaign other holder found
  · intro campaign
    rw [completes.queues]
    by_cases same : campaign = key.campaign
    · subst same
      rw [Function.update_self]
      exact (List.length_filter_le _ _).trans (admitted.depth _)
    · rw [Function.update_of_ne same]
      exact admitted.depth campaign

include collisionFree in
/-- The ledger of a run. -/
theorem ledgerAfter_admitted (before : List (CandidateCall φ τ)) (part : before <+: calls) :
    Admitted platform calls (ledgerAfter platform before) := by
  induction before using List.reverseRecOn with
  | nil => exact Admitted.empty platform calls
  | append_singleton earlier call ih =>
      have admitted := ih ((List.prefix_append _ _).trans part)
      have called : call ∈ calls :=
        part.subset (List.mem_append_right _ (List.mem_singleton_self _))
      rw [ledgerAfter_snoc]
      cases call with
      | propose document context reading =>
          exact admitted.proposed called (propose_proposed rfl)
      | complete context receiptId =>
          rcases complete_cases context receiptId (ledgerAfter platform earlier) with
            same | completes
          · show Admitted platform calls (complete context receiptId _).2
            rw [same]
            exact admitted
          · exact admitted.completed collisionFree completes

theorem after_keeps (ledger : CandidateLedger τ) (call : CandidateCall φ τ) :
    Keeps ledger (call.after platform ledger) := by
  cases call with
  | propose document context reading => exact (propose_proposed rfl).keeps
  | complete context receiptId =>
      show Keeps ledger (complete context receiptId ledger).2
      rcases complete_cases context receiptId ledger with same | completes
      · rw [same]
        exact ⟨fun _ _ found => found, fun _ _ found => found⟩
      · refine ⟨fun other attempt found => ?_, fun pid accepted found => ?_⟩
        · rw [completes.attempts]
          exact found
        · rw [completes.proposals]
          exact found

theorem ledgerAfter_keeps (before rest : List (CandidateCall φ τ)) :
    Keeps (ledgerAfter platform before) (ledgerAfter platform (before ++ rest)) := by
  induction rest using List.reverseRecOn with
  | nil =>
      rw [List.append_nil]
      exact ⟨fun _ _ found => found, fun _ _ found => found⟩
  | append_singleton rest call ih =>
      rw [← List.append_assoc, ledgerAfter_snoc]
      have step : Keeps _ (call.after platform (ledgerAfter platform (before ++ rest))) :=
        after_keeps _ call
      exact ⟨fun key attempt found => step.attempts _ _ (ih.attempts key attempt found),
        fun pid accepted found => step.proposals _ _ (ih.proposals pid accepted found)⟩

/-! ### Admission -/

variable (platform)

/-- One of the calls proposes the document and is answered with the receipt. -/
def AcceptedAfter (before : List (CandidateCall φ τ)) (document : Option (List (String × Json φ)))
    (context : CandidateContext) (reading : τ) (receipt : Bytes) : Prop :=
  (propose platform document context reading (ledgerAfter platform before)).1 = .ok receipt

def AcceptedIn (calls : List (CandidateCall φ τ)) (document : Option (List (String × Json φ)))
    (context : CandidateContext) (receipt : Bytes) : Prop :=
  ∃ before reading, before ++ [.propose document context reading] <+: calls ∧
    AcceptedAfter platform before document context reading receipt

/-- What the admission promises of these calls, each of which may fail. -/
structure SingleValued (calls : List (CandidateCall φ τ)) : Prop where
  /-- Calls for one attempt get one receipt, for one digest. -/
  attempt : ∀ document context receipt other otherContext otherReceipt,
    AcceptedIn platform calls document context receipt →
      AcceptedIn platform calls other otherContext otherReceipt →
        context.attemptKey = otherContext.attemptKey → receipt = otherReceipt ∧
          document.bind (proposalDigest platform) = other.bind (proposalDigest platform)
  /-- A proposal id is accepted in one boundary, with one digest and one receipt. -/
  proposal : ∀ document context receipt other otherContext otherReceipt pid,
    AcceptedIn platform calls document context receipt →
      AcceptedIn platform calls other otherContext otherReceipt →
        namedProposal document = some pid → namedProposal other = some pid →
          context.semanticBoundary = otherContext.semanticBoundary ∧
            document.bind (proposalDigest platform) = other.bind (proposalDigest platform) ∧
              receipt = otherReceipt
  /-- Ever after, an accepted receipt is queued or completed, not both, under its attempt. -/
  placed : ∀ before document context reading receipt later,
    AcceptedAfter platform before document context reading receipt →
      before ++ [.propose document context reading] <+: later → later <+: calls →
        ∃ creator digest candidate, creator.boundary = context.semanticBoundary ∧
          document.bind (proposalDigest platform) = some digest ∧
            (ledgerAfter platform later).attempts creator =
              some ⟨some digest, some receipt, none⟩ ∧
            receipt = candidateReceipt platform candidate
              (candidateReceiptId platform creator digest) ∧
            Placed (ledgerAfter platform later) creator (candidateReceiptId platform creator digest)
  depth : ∀ before, before <+: calls → ∀ campaign,
    ((ledgerAfter platform before).queues campaign).length ≤ 32

variable {platform}

variable (platform) in
/-- What an accepted call leaves behind. -/
structure Recorded (calls : List (CandidateCall φ τ)) (ledger : CandidateLedger τ)
    (document : Option (List (String × Json φ))) (context : CandidateContext) (receipt : Bytes)
    (members : List (String × Json φ)) (digest : String) : Prop where
  document : document = some members
  proposing : Proposing platform calls context.attemptKey members digest
  attempt : ∃ attempt, ledger.attempts context.attemptKey = some attempt ∧
    attempt.digest = some digest ∧ attempt.receipt = some receipt

include collisionFree in
theorem accepted_recorded {before : List (CandidateCall φ τ)}
    (part : before ++ [.propose document context reading] <+: calls)
    (accepted : AcceptedAfter platform before document context reading receipt) :
    ∃ members digest, Recorded platform calls
      (ledgerAfter platform (before ++ [.propose document context reading])) document context
        receipt members digest := by
  have admitted := ledgerAfter_admitted collisionFree before ((List.prefix_append _ _).trans part)
  have called : CandidateCall.propose document context reading ∈ calls :=
    part.subset (List.mem_append_right _ (List.mem_singleton_self _))
  rw [ledgerAfter_snoc]
  show ∃ members digest, Recorded platform calls
    (propose platform document context reading (ledgerAfter platform before)).2 document context
      receipt members digest
  unfold AcceptedAfter at accepted
  rcases ran : propose platform document context reading (ledgerAfter platform before) with
    ⟨result, later⟩
  rw [ran] at accepted
  have proposed := propose_proposed ran
  have withDigest : ∀ {digest : String}, document.bind (proposalDigest platform) = some digest →
      ∃ members, document = some members ∧ Proposing platform calls context.attemptKey members
        digest := by
    intro digest isDigest
    obtain ⟨members, rfl, isMembers⟩ := Option.bind_eq_some_iff.mp isDigest
    exact ⟨members, rfl, ⟨context, reading, called, rfl⟩, isMembers⟩
  revert accepted
  cases proposed with
  | answered found =>
      rename_i prior
      intro accepted
      unfold Attempt.answer at accepted
      obtain ⟨agrees, accepted⟩ := (raiseIf_bind_eq_ok _ _ _ _).mp accepted
      cases isReceipt : prior.receipt with
      | none =>
          rw [isReceipt] at accepted
          cases accepted
      | some kept =>
          rw [isReceipt] at accepted
          cases accepted
          obtain ⟨_, known, _, _, isDigest, _⟩ := admitted.known _ _ _ found isReceipt
          have same : document.bind (proposalDigest platform) = some known.digest := by
            rw [isDigest] at agrees
            by_contra different
            exact agrees ⟨rfl, fun same => different same.symm⟩
          obtain ⟨members, isDocument, proposing⟩ := withDigest same
          exact ⟨members, _, isDocument, proposing, prior, found, isDigest, isReceipt⟩
  | refused new refused =>
      intro accepted
      cases accepted
  | repeated new named found boundary digest queues completed proposals attempts =>
      rename_i known pid
      intro accepted
      cases accepted
      obtain ⟨members, isDocument, proposing⟩ := withDigest digest
      refine ⟨members, _, isDocument, proposing, ⟨some known.digest, some known.receipt, none⟩, ?_,
        rfl, rfl⟩
      rw [attempts]
      exact Function.update_self _ _ _
  | created new isDocument isDigest creation unknown =>
      rename_i members text filed
      intro accepted
      have isReceipt : filed = receipt := Except.ok.inj accepted
      subst isReceipt
      refine ⟨members, text, isDocument, ⟨⟨context, reading, isDocument ▸ called, rfl⟩, isDigest⟩,
        ⟨some text, some filed, none⟩, ?_, rfl, rfl⟩
      rw [creation.attempts]
      exact Function.update_self _ _ _

include collisionFree in
/-- What an accepted call leaves behind is still there later. -/
theorem accepted_later {before later : List (CandidateCall φ τ)}
    (part : before ++ [.propose document context reading] <+: later)
    (inside : later <+: calls)
    (accepted : AcceptedAfter platform before document context reading receipt) :
    ∃ members digest, Recorded platform calls (ledgerAfter platform later) document
      context receipt members digest := by
  obtain ⟨rest, rfl⟩ := part
  obtain ⟨members, digest, isDocument, proposing, attempt, found, isDigest, isReceipt⟩ :=
    accepted_recorded collisionFree ((List.prefix_append _ _).trans inside) accepted
  exact ⟨members, digest, isDocument, proposing, attempt,
    (ledgerAfter_keeps _ rest).attempts _ _ found, isDigest, isReceipt⟩

/-- Admission is idempotent and single-valued, after any calls. -/
theorem candidate_admission {loads : Bytes → Option (Json φ)} (readsBack : ReadsBack loads)
    (calls : List (CandidateCall φ τ))
    (collisionFree : Set.InjOn platform.sha256 (hashedIn platform calls)) :
    SingleValued platform calls := by
  have final := ledgerAfter_admitted collisionFree calls (List.prefix_refl _)
  -- what an accepted call leaves behind in the last ledger
  have recorded : ∀ {document context receipt}, AcceptedIn platform calls document context receipt →
      ∃ members digest, Recorded platform calls (ledgerAfter platform calls) document
        context receipt members digest := by
    rintro document context receipt ⟨before, reading, part, accepted⟩
    exact accepted_later collisionFree part (List.prefix_refl _) accepted
  refine ⟨?_, ?_, ?_, ?_⟩
  · intro document context receipt other otherContext otherReceipt one two same
    obtain ⟨members, digest, rfl, proposing, attempt, found, isDigest, isReceipt⟩ := recorded one
    obtain ⟨otherMembers, otherDigest, rfl, otherProposing, otherAttempt, otherFound, otherIs,
      otherIsReceipt⟩ := recorded two
    rw [same, otherFound] at found
    cases found
    rw [otherIs] at isDigest
    rw [otherIsReceipt] at isReceipt
    refine ⟨(Option.some.inj isReceipt).symm, ?_⟩
    rw [Option.bind_some, Option.bind_some, proposing.digest, otherProposing.digest, isDigest]
  · intro document context receipt other otherContext otherReceipt pid one two named otherNamed
    -- the entry of the proposal id is the one of the call
    have entry : ∀ {document context receipt}, AcceptedIn platform calls document context receipt →
        namedProposal document = some pid → ∃ accepted,
          (ledgerAfter platform calls).proposals pid = some accepted ∧
            accepted.boundary = context.semanticBoundary ∧ accepted.receipt = receipt ∧
              document.bind (proposalDigest platform) = some accepted.digest := by
      intro document context receipt isAccepted isNamed
      obtain ⟨members, digest, rfl, proposing, attempt, found, isDigest, isReceipt⟩ :=
        recorded isAccepted
      obtain ⟨known, accepted, isKnown, boundary, knownDigest, knownReceipt⟩ :=
        final.known _ _ _ found isReceipt
      obtain ⟨creator, issued⟩ := final.issued known accepted isKnown
      obtain ⟨created, creating, createdNamed⟩ := issued.proposing
      have sameDigest : digest = accepted.digest :=
        Option.some.inj (isDigest.symm.trans knownDigest)
      have itsName := named_of_digest collisionFree readsBack creating (sameDigest ▸ proposing)
        createdNamed
      rw [namedProposal, Option.bind_some, itsName] at isNamed
      cases isNamed
      refine ⟨accepted, isKnown, boundary, knownReceipt, ?_⟩
      rw [Option.bind_some, proposing.digest, sameDigest]
    obtain ⟨accepted, found, boundary, isReceipt, digest⟩ := entry one named
    obtain ⟨otherAccepted, otherFound, otherBoundary, otherIs, otherDigest⟩ := entry two otherNamed
    rw [otherFound] at found
    cases found
    exact ⟨boundary.symm.trans otherBoundary, digest.trans otherDigest.symm,
      isReceipt.symm.trans otherIs⟩
  · intro before document context reading receipt later isAccepted part inside
    have admitted := ledgerAfter_admitted collisionFree later inside
    obtain ⟨members, digest, rfl, proposing, attempt, found, isDigest, isReceipt⟩ :=
      accepted_later collisionFree part inside isAccepted
    obtain ⟨pid, accepted, isKnown, boundary, knownDigest, knownReceipt⟩ :=
      admitted.known _ _ _ found isReceipt
    obtain ⟨creator, issued⟩ := admitted.issued pid accepted isKnown
    have sameDigest : digest = accepted.digest :=
      Option.some.inj (isDigest.symm.trans knownDigest)
    obtain ⟨candidate, _, isCandidate⟩ := issued.receipt
    refine ⟨creator, accepted.digest, candidate, issued.boundary.trans boundary, ?_, ?_, ?_,
      issued.placed⟩
    · rw [Option.bind_some, proposing.digest, sameDigest]
    · rw [← knownReceipt]
      exact issued.attempt
    · rw [← knownReceipt]
      exact isCandidate
  · intro before inside campaign
    exact (ledgerAfter_admitted collisionFree before inside).depth campaign

end Tables

/-! ### One proposal -/

namespace CandidateSample

open ChannelSample (lengthSum)

def platform : CandidatePlatform Empty Nat where
  sha256 := lengthSum
  casefold := id
  coercions := ⟨Empty.elim, fun _ => none⟩
  floatEquals := fun number => nomatch number
  clock :=
    { finite := fun _ => true
      before := fun reading last => decide (reading < last)
      aged := fun now reading => decide (60 ≤ now - reading)
      recent := fun now reading => decide (now - reading < 1) }

def context : CandidateContext where
  campaignId := "campaign-1"
  configurationId := .a
  tenant := "tenant-1"
  problemId := "problem-1"
  taskId := "task-1"
  generation := 1
  turn := "turn-1"
  attempt := "attempt-1"
  idempotencyKey := "call-1"
  positive := Nat.one_pos
  filled := by decide

def members : List (String × Json Empty) :=
  [("schema_version", .str "secure-memory-candidate/v1"), ("proposal_id", .str "proposal-1"),
    ("task_id", .str "task-1"), ("generation", .int 1), ("claimed_fact_id", .null),
    ("statement_utf8_base64", .str "aGk="), ("memory_type", .str "semantic"),
    ("component", .str "store"), ("outcome_claim", .str "KEEP"),
    ("applicability_scope", .dict [("project_id", .str "ego"), ("component", .str "store")]),
    ("source_refs", .list []), ("support_digest_claims", .list [])]

def calls : List (CandidateCall Empty Nat) :=
  [.propose (some members) context 5, .propose (some members) context 6]

def isAccepted (before : List (CandidateCall Empty Nat)) (reading : Nat) : Bool :=
  (propose platform (some members) context reading (ledgerAfter platform before)).1.isOk

/-- The call is accepted, and so is its repetition. -/
example : isAccepted [] 5 = true ∧ isAccepted [.propose (some members) context 5] 6 = true := by
  decide +kernel

def receiptBytes : Bytes :=
  utf8Encode (("egoagentos:" ++ "candidate-receipt" ++ ":v1\x00").toList ++
    (receiptDocument context.attemptKey
      ((domainDigest lengthSum "candidate-proposal" (.dict members)).labelled "")).sorted.text)

def proposalBytes : Bytes :=
  utf8Encode (("egoagentos:" ++ "candidate-proposal" ++ ":v1\x00").toList ++
    (Json.dict members).sorted.text)

theorem lengthSum_inj {left right : Bytes} (leftSmall : left.length < 2 ^ 256)
    (rightSmall : right.length < 2 ^ 256) (same : lengthSum left = lengthSum right) :
    left.length = right.length := by
  have lengths := congrArg BitVec.toNat same
  unfold lengthSum at lengths
  rwa [BitVec.toNat_ofNat, BitVec.toNat_ofNat, Nat.mod_eq_of_lt leftSmall,
    Nat.mod_eq_of_lt rightSmall] at lengths

theorem calls_collisionFree : Set.InjOn platform.sha256 (hashedIn platform calls) := by
  have apart : receiptBytes.length ≠ proposalBytes.length ∧ receiptBytes.length < 2 ^ 256 ∧
      proposalBytes.length < 2 ^ 256 := by
    decide +kernel
  have inside : hashedIn platform calls ⊆ {receiptBytes, proposalBytes} := by
    rintro bytes ⟨key, document, digest, proposing, isBytes⟩
    obtain ⟨other, reading, called, rfl⟩ := proposing.called
    have same : document = members ∧ other = context := by
      rcases List.mem_cons.mp called with first | second
      · cases first
        exact ⟨rfl, rfl⟩
      · cases List.mem_singleton.mp second
        exact ⟨rfl, rfl⟩
    obtain ⟨rfl, rfl⟩ := same
    obtain ⟨_, rfl⟩ := proposalDigest_eq_some proposing.digest
    exact isBytes
  refine Set.InjOn.mono inside (Set.injOn_pair.mpr fun same => ?_)
  exact absurd (lengthSum_inj apart.2.1 apart.2.2 same) apart.1

theorem candidate_admission_sample : SingleValued platform calls :=
  candidate_admission readCompact_readsBack calls calls_collisionFree

end CandidateSample

end EgoAgent.SecureMemory
