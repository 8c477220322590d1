import EgoAgent.Bridge.OperationLease

/-!
Operation leases fence writers, over every interleaving of store calls.

One inversion says what a successful call did to the runs; a failed call did
nothing.  Everything else is read off it: who may write, what a lease survives,
and how versions count the updates.
-/

namespace EgoAgent.Bridge

open EgoAgent.Api

/-! ### Guards -/

/-- The two ways a write passes the lease check. -/
inductive LeaseGuard (entry : LeaseEntry) (leaseOwner : Option String) (now : Instant) : Prop where
  | free (noLease : entry = .absent) (noOwner : leaseOwner = none)
  | owned (lease : Lease) (instant : Instant) (stored : entry = .complete lease)
      (owner : leaseOwner = some lease.ownerId) (expires : lease.expiresAt = .at instant)
      (unexpired : now < instant)

theorem operationLease_eq_none {entry : LeaseEntry} (read : entry.operationLease = .ok none) :
    entry = .absent := by
  cases entry with
  | absent => rfl
  | _ => cases read

theorem operationLease_eq_some {entry : LeaseEntry} {lease : Lease}
    (read : entry.operationLease = .ok (some lease)) : entry = .complete lease := by
  cases entry with
  | complete stored => rw [Option.some.inj (Except.ok.inj read)]
  | _ => cases read

theorem assertUpdateLease_eq_ok {entry next : LeaseEntry} {leaseOwner : Option String}
    {now : Instant} (passed : assertUpdateLease entry next leaseOwner now = .ok ()) :
    LeaseGuard entry leaseOwner now ∧ next = entry := by
  unfold assertUpdateLease at passed
  obtain ⟨lease, read, passed⟩ := (bind_eq_ok _ _ _).mp passed
  obtain ⟨nextLease, readNext, passed⟩ := (bind_eq_ok _ _ _).mp passed
  rcases lease with _ | lease <;> rcases leaseOwner with _ | owner
  · have same := not_not.mp ((raiseIf_eq_ok _ _ _).mp passed)
    rw [same] at readNext
    have noLease := operationLease_eq_none read
    exact ⟨.free noLease rfl, (operationLease_eq_none readNext).trans noLease.symm⟩
  · cases passed
  · cases passed
  · obtain ⟨owns, passed⟩ := (raiseIf_bind_eq_ok _ _ _ _).mp passed
    obtain ⟨instant, expires, passed⟩ := (bind_eq_ok _ _ _).mp passed
    obtain ⟨unexpired, passed⟩ := (raiseIf_bind_eq_ok _ _ _ _).mp passed
    have same := not_not.mp ((raiseIf_eq_ok _ _ _).mp passed)
    have stored := operationLease_eq_some read
    rw [same] at readNext
    refine ⟨.owned lease instant stored ?_ ?_ (lt_of_not_ge unexpired),
      (operationLease_eq_some readNext).trans stored.symm⟩
    · rw [not_not.mp owns]
    · unfold Lease.expiry at expires
      split at expires
      · next stored => rw [stored, Except.ok.inj expires]
      · cases expires

/-- A lease in force keeps every claim out. -/
theorem raiseIfLeaseHeld_of_unexpired {lease : Lease} {instant now : Instant}
    (expires : lease.expiresAt = .at instant) (unexpired : now < instant) :
    raiseIfLeaseHeld (.complete lease) now = .error operationInProgress := by
  have expiry : lease.expiry = .ok instant := by
    unfold Lease.expiry
    rw [expires]
  have held : ¬ instant ≤ now := not_le_of_gt unexpired
  unfold raiseIfLeaseHeld
  simp only [LeaseEntry.operationLease, ok_bind, expiry, raiseIf, if_pos held]

theorem leasePayload_eq_ok {operation ownerId : String} {acquiredAt : Instant}
    {timeoutSeconds : Int} {lease : Lease}
    (built : leasePayload operation ownerId acquiredAt timeoutSeconds = .ok lease) :
    lease.ownerId = ownerId ∧
      lease.expiresAt = .at (acquiredAt + timeoutSeconds * 1000000) := by
  unfold leasePayload at built
  obtain ⟨_, built⟩ := (raiseIf_bind_eq_ok _ _ _ _).mp built
  rw [← Except.ok.inj built]
  exact ⟨rfl, rfl⟩

/-! ### Inversion -/

section Inversion

variable {κ φ : Type}

/-- What a successful call did to the runs. -/
def Did (store later : Store κ φ) (now : Instant) : Call κ φ → Prop
  | .claim runId operation ownerId timeoutSeconds => ∃ row lease,
      store.runs.get? runId = some row ∧ raiseIfLeaseHeld row.lease now = .ok () ∧
        leasePayload operation ownerId now timeoutSeconds = .ok lease ∧
        later.runs = store.runs.set runId { row with lease := .complete lease }
  | .release runId ownerId => later.runs = store.runs ∨ ∃ row lease,
      store.runs.get? runId = some row ∧ row.lease = .complete lease ∧ lease.ownerId = ownerId ∧
        later.runs = store.runs.set runId { row with lease := .absent }
  | .renew runId ownerId timeoutSeconds => ∃ row lease renewed,
      store.runs.get? runId = some row ∧ row.lease = .complete lease ∧
        LeaseGuard row.lease (some ownerId) now ∧
        leasePayload lease.operation ownerId now timeoutSeconds = .ok renewed ∧
        later.runs = store.runs.set runId { row with lease := .complete renewed }
  | .update runId content lease expectedVersion leaseOwner updatedAt => ∃ row,
      store.runs.get? runId = some row ∧ row.version = expectedVersion ∧
        LeaseGuard row.lease leaseOwner now ∧ lease = row.lease ∧
        later.runs = store.runs.set runId ⟨content, row.lease, row.version + 1, updatedAt⟩
  | .event runId _ _ _ _ leaseOwner => ∃ row,
      store.runs.get? runId = some row ∧ LeaseGuard row.lease leaseOwner now ∧
        later.runs = store.runs
  | .receipt runId _ _ _ _ _ _ leaseOwner => ∃ row,
      store.runs.get? runId = some row ∧ LeaseGuard row.lease leaseOwner now ∧
        later.runs = store.runs

variable {store later : Store κ φ} {now : Instant}

theorem claimOperation_did {runId operation ownerId : String} {timeoutSeconds : Int}
    (ran : claimOperation runId operation ownerId timeoutSeconds now store = (.ok (), later)) :
    Did store later now (.claim runId operation ownerId timeoutSeconds) := by
  have inner := (Effect.transaction_eq_ok _ _ _ _).mp ran
  obtain ⟨lease, built, inner⟩ := (Effect.check_bind_eq_ok _ _ _ _ _).mp inner
  rw [Effect.read_bind] at inner
  obtain ⟨row, found, inner⟩ := (Effect.check_bind_eq_ok _ _ _ _ _).mp inner
  obtain ⟨_, unheld, inner⟩ := (Effect.check_bind_eq_ok _ _ _ _ _).mp inner
  refine ⟨row, lease, (expect_eq_ok _ _ _).mp found, unheld, built, ?_⟩
  rw [← (Prod.mk.inj inner).2]
  rfl

theorem releaseOperation_did {runId ownerId : String}
    (ran : releaseOperation runId ownerId store = (.ok (), later)) :
    Did store later now (.release runId ownerId) := by
  have inner := (Effect.transaction_eq_ok _ _ _ _).mp ran
  rw [Effect.read_bind] at inner
  rcases found : store.runs.get? runId with _ | row
  · rw [found] at inner
    exact .inl (by rw [← (Prod.mk.inj inner).2])
  · rw [found] at inner
    obtain ⟨lease, read, inner⟩ := (Effect.check_bind_eq_ok _ _ _ _ _).mp inner
    by_cases owns : lease.map Lease.ownerId = some ownerId
    · rw [if_pos owns] at inner
      obtain ⟨stored, leaseEq, owner⟩ := Option.map_eq_some_iff.mp owns
      rw [leaseEq] at read
      refine .inr ⟨row, stored, found, operationLease_eq_some read, owner, ?_⟩
      rw [← (Prod.mk.inj inner).2]
      rfl
    · rw [if_neg owns] at inner
      exact .inl (by rw [← (Prod.mk.inj inner).2])

theorem renewOperation_did {runId ownerId : String} {timeoutSeconds : Int}
    (ran : renewOperation runId ownerId timeoutSeconds now store = (.ok (), later)) :
    Did store later now (.renew runId ownerId timeoutSeconds) := by
  have inner := (Effect.transaction_eq_ok _ _ _ _).mp ran
  rw [Effect.read_bind] at inner
  obtain ⟨row, found, inner⟩ := (Effect.check_bind_eq_ok _ _ _ _ _).mp inner
  obtain ⟨read, readEq, inner⟩ := (Effect.check_bind_eq_ok _ _ _ _ _).mp inner
  obtain ⟨_, passed, inner⟩ := (Effect.check_bind_eq_ok _ _ _ _ _).mp inner
  obtain ⟨lease, some, inner⟩ := (Effect.check_bind_eq_ok _ _ _ _ _).mp inner
  obtain ⟨renewed, built, inner⟩ := (Effect.check_bind_eq_ok _ _ _ _ _).mp inner
  rw [(expect_eq_ok _ _ _).mp some] at readEq
  refine ⟨row, lease, renewed, (expect_eq_ok _ _ _).mp found, operationLease_eq_some readEq,
    (assertUpdateLease_eq_ok passed).1, built, ?_⟩
  rw [← (Prod.mk.inj inner).2]
  rfl

theorem updateRun_did {runId : String} {content : κ} {lease : LeaseEntry} {expectedVersion : Int}
    {leaseOwner : Option String} {updatedAt : Instant}
    (ran : updateRun runId content lease expectedVersion leaseOwner updatedAt now store =
      (.ok (), later)) :
    Did store later now (.update runId content lease expectedVersion leaseOwner updatedAt) := by
  have inner := (Effect.transaction_eq_ok _ _ _ _).mp ran
  rw [Effect.read_bind] at inner
  obtain ⟨row, found, inner⟩ := (Effect.check_bind_eq_ok _ _ _ _ _).mp inner
  obtain ⟨_, current, inner⟩ := (Effect.check_bind_eq_ok _ _ _ _ _).mp inner
  obtain ⟨_, passed, inner⟩ := (Effect.check_bind_eq_ok _ _ _ _ _).mp inner
  have version := not_not.mp ((raiseIf_eq_ok _ _ _).mp current)
  obtain ⟨guarded, same⟩ := assertUpdateLease_eq_ok passed
  refine ⟨row, (expect_eq_ok _ _ _).mp found, version, guarded, same, ?_⟩
  rw [← (Prod.mk.inj inner).2, ← same, version]
  rfl

variable [FloatText φ] (sha256 : Bytes → Digest)

theorem appendEvent_did {runId eventId kind createdAt : String} {envelope : Json φ}
    {leaseOwner : Option String}
    (ran : appendEvent sha256 runId eventId kind createdAt envelope leaseOwner now store =
      (.ok (), later)) :
    Did store later now (.event runId eventId kind createdAt envelope leaseOwner) := by
  have inner := (Effect.transaction_eq_ok _ _ _ _).mp ran
  rw [Effect.read_bind] at inner
  obtain ⟨row, found, inner⟩ := (Effect.check_bind_eq_ok _ _ _ _ _).mp inner
  obtain ⟨_, passed, inner⟩ := (Effect.check_bind_eq_ok _ _ _ _ _).mp inner
  refine ⟨row, (expect_eq_ok _ _ _).mp found, (assertUpdateLease_eq_ok passed).1, ?_⟩
  rw [← (Prod.mk.inj inner).2]

theorem archiveReceipt_did {runId receiptId receiptKey source kind createdAt : String}
    {payload : Json φ} {leaseOwner : Option String}
    (ran : archiveReceipt sha256 runId receiptId receiptKey source kind createdAt payload leaseOwner
      now store = (.ok (), later)) :
    Did store later now
      (.receipt runId receiptId receiptKey source kind createdAt payload leaseOwner) := by
  have inner := (Effect.transaction_eq_ok _ _ _ _).mp ran
  rw [Effect.read_bind] at inner
  obtain ⟨row, found, inner⟩ := (Effect.check_bind_eq_ok _ _ _ _ _).mp inner
  obtain ⟨_, passed, inner⟩ := (Effect.check_bind_eq_ok _ _ _ _ _).mp inner
  refine ⟨row, (expect_eq_ok _ _ _).mp found, (assertUpdateLease_eq_ok passed).1, ?_⟩
  generalize store.receipts.find? _ = existing at inner
  cases existing with
  | some existing =>
      unfold Effect.check at inner
      rw [← (Prod.mk.inj inner).2]
  | none => rw [← (Prod.mk.inj inner).2]

theorem perform_did {call : Call κ φ} (ran : call.perform sha256 now store = (.ok (), later)) :
    Did store later now call := by
  cases call with
  | claim runId operation ownerId timeoutSeconds => exact claimOperation_did ran
  | release runId ownerId => exact releaseOperation_did ran
  | renew runId ownerId timeoutSeconds => exact renewOperation_did ran
  | update runId content lease expectedVersion leaseOwner updatedAt => exact updateRun_did ran
  | event runId eventId kind createdAt envelope leaseOwner => exact appendEvent_did sha256 ran
  | receipt runId receiptId receiptKey source kind createdAt payload leaseOwner =>
      exact archiveReceipt_did sha256 ran

/-- A call that raises changes nothing. -/
theorem perform_atomic (call : Call κ φ) (store : Store κ φ) :
    Effect.Atomic (call.perform sha256 now) store := by
  cases call <;> exact Effect.atomic_transaction _ _

end Inversion

/-! ### One step -/

section Steps

variable {κ φ : Type} {store later : Store κ φ} {now : Instant} {call : Call κ φ}

def Call.runId : Call κ φ → String
  | .claim runId _ _ _ | .release runId _ | .renew runId _ _ | .update runId _ _ _ _ _
  | .event runId _ _ _ _ _ | .receipt runId _ _ _ _ _ _ _ => runId

/-- The owner a renewal or a write names. -/
def Call.leaseOwner : Call κ φ → Option String
  | .renew _ ownerId _ => some ownerId
  | .update _ _ _ _ leaseOwner _ | .event _ _ _ _ _ leaseOwner
  | .receipt _ _ _ _ _ _ _ leaseOwner => leaseOwner
  | .claim _ _ _ _ | .release _ _ => none

/-- Every call but a claim and a release is checked against the stored lease. -/
def Call.Checked : Call κ φ → Prop
  | .claim _ _ _ _ | .release _ _ => False
  | _ => True

/-- The calls that may change the lease of an owner in force. -/
def Call.Ends (runId ownerId : String) : Call κ φ → Prop
  | .renew run owner _ | .release run owner => run = runId ∧ owner = ownerId
  | _ => False

def Call.Updates (runId : String) : Call κ φ → Prop
  | .update run _ _ _ _ _ => run = runId
  | _ => False

instance (runId : String) : DecidablePred (Call.Updates (κ := κ) (φ := φ) runId)
  | .update run _ _ _ _ _ => inferInstanceAs (Decidable (run = runId))
  | .claim .. | .release .. | .renew .. | .event .. | .receipt .. => .isFalse id

/-- A call on a run that does not belong to the owner of its lease. -/
def Call.Intrudes (runId ownerId : String) : Call κ φ → Prop
  | .release _ _ => False
  | .claim run _ _ _ => run = runId
  | call => call.runId = runId ∧ call.leaseOwner ≠ some ownerId

theorem Did.guarded (did : Did store later now call) (checked : call.Checked) :
    ∃ row, store.runs.get? call.runId = some row ∧ LeaseGuard row.lease call.leaseOwner now := by
  cases call with
  | claim => cases checked
  | release => cases checked
  | renew runId ownerId timeoutSeconds =>
      obtain ⟨row, _, _, found, _, guarded, _⟩ := did
      exact ⟨row, found, guarded⟩
  | update runId content lease expectedVersion leaseOwner updatedAt =>
      obtain ⟨row, found, _, guarded, _⟩ := did
      exact ⟨row, found, guarded⟩
  | event runId eventId kind createdAt envelope leaseOwner =>
      obtain ⟨row, found, guarded, _⟩ := did
      exact ⟨row, found, guarded⟩
  | receipt runId receiptId receiptKey source kind createdAt payload leaseOwner =>
      obtain ⟨row, found, guarded, _⟩ := did
      exact ⟨row, found, guarded⟩

/-- What any successful call does to one run: nothing, a new lease, or a new version. -/
inductive Changed (runId : String) (now : Instant) (row : RunRow κ) :
    Call κ φ → RunRow κ → Prop where
  | same (call : Call κ φ) (idle : ¬ call.Updates runId) : Changed runId now row call row
  | claimed (operation ownerId : String) (timeoutSeconds : Int) (lease : Lease)
      (unheld : raiseIfLeaseHeld row.lease now = .ok ())
      (built : leasePayload operation ownerId now timeoutSeconds = .ok lease) :
      Changed runId now row (.claim runId operation ownerId timeoutSeconds)
        { row with lease := .complete lease }
  | released (ownerId : String) (lease : Lease) (stored : row.lease = .complete lease)
      (owner : lease.ownerId = ownerId) :
      Changed runId now row (.release runId ownerId) { row with lease := .absent }
  | renewed (ownerId : String) (timeoutSeconds : Int) (lease renewed : Lease)
      (guarded : LeaseGuard row.lease (some ownerId) now) (stored : row.lease = .complete lease)
      (built : leasePayload lease.operation ownerId now timeoutSeconds = .ok renewed) :
      Changed runId now row (.renew runId ownerId timeoutSeconds)
        { row with lease := .complete renewed }
  | updated (content : κ) (leaseOwner : Option String) (updatedAt : Instant) :
      Changed runId now row
        (.update runId content row.lease row.version leaseOwner updatedAt)
        ⟨content, row.lease, row.version + 1, updatedAt⟩

theorem Did.changed (did : Did store later now call) {runId : String} {row : RunRow κ}
    (found : store.runs.get? runId = some row) :
    ∃ next, later.runs.get? runId = some next ∧ Changed runId now row call next := by
  have kept : ∀ {other : String} {value : RunRow κ}, other ≠ runId →
      later.runs = store.runs.set other value → later.runs.get? runId = some row := by
    intro other value different written
    rw [written, Dict.get?_set_ne _ _ (Ne.symm different), found]
  cases call with
  | claim run operation ownerId timeoutSeconds =>
      obtain ⟨old, lease, stored, unheld, built, written⟩ := did
      by_cases same : run = runId
      · subst same
        rw [found] at stored
        rw [← Option.some.inj stored] at unheld written
        exact ⟨_, by rw [written, Dict.get?_set_self], .claimed operation ownerId timeoutSeconds
          lease unheld built⟩
      · exact ⟨row, kept same written, .same _ id⟩
  | release run ownerId =>
      rcases did with unchanged | ⟨old, lease, stored, leaseEq, owner, written⟩
      · exact ⟨row, by rw [unchanged, found], .same _ id⟩
      · by_cases same : run = runId
        · subst same
          rw [found] at stored
          rw [← Option.some.inj stored] at leaseEq written
          exact ⟨_, by rw [written, Dict.get?_set_self], .released ownerId lease leaseEq owner⟩
        · exact ⟨row, kept same written, .same _ id⟩
  | renew run ownerId timeoutSeconds =>
      obtain ⟨old, lease, renewed, stored, leaseEq, guarded, built, written⟩ := did
      by_cases same : run = runId
      · subst same
        rw [found] at stored
        rw [← Option.some.inj stored] at leaseEq guarded written
        exact ⟨_, by rw [written, Dict.get?_set_self], .renewed ownerId timeoutSeconds lease renewed
          guarded leaseEq built⟩
      · exact ⟨row, kept same written, .same _ id⟩
  | update run content lease expectedVersion leaseOwner updatedAt =>
      obtain ⟨old, stored, version, guarded, leaseEq, written⟩ := did
      by_cases same : run = runId
      · subst same
        rw [found] at stored
        rw [← Option.some.inj stored] at version leaseEq written
        rw [← version, leaseEq]
        exact ⟨_, by rw [written, Dict.get?_set_self], .updated content leaseOwner updatedAt⟩
      · exact ⟨row, kept same written, .same _ same⟩
  | event run eventId kind createdAt envelope leaseOwner =>
      obtain ⟨_, _, _, unchanged⟩ := did
      exact ⟨row, by rw [unchanged, found], .same _ id⟩
  | receipt run receiptId receiptKey source kind createdAt payload leaseOwner =>
      obtain ⟨_, _, _, unchanged⟩ := did
      exact ⟨row, by rw [unchanged, found], .same _ id⟩

/-- A lease in force survives every call that is not its owner's renewal or release. -/
theorem Changed.keeps_lease {runId : String} {row next : RunRow κ} {lease : Lease}
    {instant : Instant} (changed : Changed runId now row call next)
    (stored : row.lease = .complete lease) (expires : lease.expiresAt = .at instant)
    (unexpired : now < instant) (others : ¬ call.Ends runId lease.ownerId) :
    next.lease = .complete lease := by
  cases changed with
  | same call idle => exact stored
  | claimed operation ownerId timeoutSeconds taken unheld built =>
      rw [stored, raiseIfLeaseHeld_of_unexpired expires unexpired] at unheld
      cases unheld
  | released ownerId held storedHeld owner =>
      rw [stored] at storedHeld
      rw [← LeaseEntry.complete.inj storedHeld] at owner
      exact absurd ⟨rfl, owner.symm⟩ others
  | renewed ownerId timeoutSeconds held renewed guarded storedHeld built =>
      cases guarded with
      | free noLease _ => rw [stored] at noLease; cases noLease
      | owned held instant storedHeld owner _ _ =>
          rw [stored] at storedHeld
          rw [← LeaseEntry.complete.inj storedHeld] at owner
          exact absurd ⟨rfl, Option.some.inj owner⟩ others
  | updated content leaseOwner updatedAt => exact stored

/-- Nobody else gets through while a lease is in force. -/
theorem Did.not_intrudes (did : Did store later now call) {runId : String} {row : RunRow κ}
    {lease : Lease} {instant : Instant} (found : store.runs.get? runId = some row)
    (stored : row.lease = .complete lease) (expires : lease.expiresAt = .at instant)
    (unexpired : now < instant) : ¬ call.Intrudes runId lease.ownerId := by
  have checked : call.Checked → ¬ (call.runId = runId ∧ call.leaseOwner ≠ some lease.ownerId) := by
    intro checked ⟨same, other⟩
    obtain ⟨current, foundCurrent, guarded⟩ := did.guarded checked
    rw [same, found] at foundCurrent
    rw [← Option.some.inj foundCurrent, stored] at guarded
    cases guarded with
    | free noLease _ => cases noLease
    | owned held _ storedHeld owner _ _ =>
        rw [← LeaseEntry.complete.inj storedHeld] at owner
        exact other owner
  cases call with
  | claim run operation ownerId timeoutSeconds =>
      intro same
      obtain ⟨current, _, foundCurrent, unheld, _⟩ := did
      rw [show run = runId from same, found] at foundCurrent
      rw [← Option.some.inj foundCurrent, stored,
        raiseIfLeaseHeld_of_unexpired expires unexpired] at unheld
      cases unheld
  | release run ownerId => exact id
  | renew run ownerId timeoutSeconds => exact checked trivial
  | update run content entry expectedVersion leaseOwner updatedAt => exact checked trivial
  | event run eventId kind createdAt envelope leaseOwner => exact checked trivial
  | receipt run receiptId receiptKey source kind createdAt payload leaseOwner =>
      exact checked trivial

end Steps

/-! ### Interleavings -/

section Interleavings

variable {κ φ : Type} [FloatText φ] (sha256 : Bytes → Digest)

def Succeeds (store : Store κ φ) (now : Instant) (call : Call κ φ) : Prop :=
  (call.perform sha256 now store).1 = .ok ()

instance (store : Store κ φ) (now : Instant) (call : Call κ φ) :
    Decidable (Succeeds sha256 store now call) :=
  match outcome : (call.perform sha256 now store).1 with
  | .ok () => .isTrue outcome
  | .error _ => .isFalse fun succeeded => by
      unfold Succeeds at succeeded
      rw [outcome] at succeeded
      cases succeeded

/-- How many updates of a run succeed. -/
def successfulUpdates (runId : String) : Store κ φ → List (Instant × Call κ φ) → Nat
  | _, [] => 0
  | store, (now, call) :: rest =>
      (if call.Updates runId ∧ Succeeds sha256 store now call then 1 else 0) +
        successfulUpdates runId (call.perform sha256 now store).2 rest

theorem after_append (store : Store κ φ) (before rest : List (Instant × Call κ φ)) :
    after sha256 store (before ++ rest) = after sha256 (after sha256 store before) rest :=
  List.foldl_append

variable {sha256}

theorem Succeeds.did {store : Store κ φ} {now : Instant} {call : Call κ φ}
    (succeeds : Succeeds sha256 store now call) :
    Did store (call.perform sha256 now store).2 now call := by
  apply perform_did sha256
  exact Prod.ext succeeds rfl

theorem perform_changed (sha256 : Bytes → Digest) {store : Store κ φ} (now : Instant)
    (call : Call κ φ) {runId : String} {row : RunRow κ}
    (found : store.runs.get? runId = some row) :
    (¬ Succeeds sha256 store now call ∧ (call.perform sha256 now store).2 = store) ∨
      (Succeeds sha256 store now call ∧ ∃ next,
        (call.perform sha256 now store).2.runs.get? runId = some next ∧
          Changed runId now row call next) := by
  by_cases succeeds : Succeeds sha256 store now call
  · exact .inr ⟨succeeds, succeeds.did.changed found⟩
  · rcases outcome : call.perform sha256 now store with ⟨error | _, later⟩
    · exact .inl ⟨succeeds, perform_atomic sha256 call store error later outcome⟩
    · exact absurd (by unfold Succeeds; rw [outcome]) succeeds

/-- A lease in force survives any calls but its owner's renewals and releases. -/
theorem after_keeps_lease {runId : String} {lease : Lease} {instant : Instant}
    (expires : lease.expiresAt = .at instant) (calls : List (Instant × Call κ φ))
    (store : Store κ φ) (row : RunRow κ) (found : store.runs.get? runId = some row)
    (stored : row.lease = .complete lease)
    (others : ∀ timed ∈ calls, timed.1 < instant ∧ ¬ timed.2.Ends runId lease.ownerId) :
    ∃ next, (after sha256 store calls).runs.get? runId = some next ∧
      next.lease = .complete lease := by
  induction calls generalizing store row with
  | nil => exact ⟨row, found, stored⟩
  | cons timed rest ih =>
      obtain ⟨now, call⟩ := timed
      obtain ⟨unexpired, other⟩ := others (now, call) List.mem_cons_self
      have restOthers := fun later member => others later (List.mem_cons_of_mem _ member)
      change ∃ next, (after sha256 (call.perform sha256 now store).2 rest).runs.get? runId = _ ∧ _
      rcases perform_changed sha256 now call found with ⟨_, same⟩ | ⟨_, next, foundNext, changed⟩
      · rw [same]
        exact ih store row found stored restOthers
      · exact ih _ next foundNext (changed.keeps_lease stored expires unexpired other) restOthers

/-- The version counts the successful updates, and only they touch the content. -/
theorem after_version {runId : String} (calls : List (Instant × Call κ φ)) (store : Store κ φ)
    (row : RunRow κ) (found : store.runs.get? runId = some row) :
    ∃ next, (after sha256 store calls).runs.get? runId = some next ∧
      next.version = row.version + successfulUpdates sha256 runId store calls ∧
      (successfulUpdates sha256 runId store calls = 0 → next.content = row.content) := by
  induction calls generalizing store row with
  | nil => exact ⟨row, found, (Int.add_zero _).symm, fun _ => rfl⟩
  | cons timed rest ih =>
      obtain ⟨now, call⟩ := timed
      change ∃ next, (after sha256 (call.perform sha256 now store).2 rest).runs.get? runId = _ ∧ _
      unfold successfulUpdates
      rcases perform_changed sha256 now call found with
        ⟨failed, same⟩ | ⟨succeeded, next, foundNext, changed⟩
      · rw [if_neg (fun both => failed both.2), same, Nat.zero_add]
        exact ih store row found
      · obtain ⟨final, foundFinal, version, content⟩ := ih _ next foundNext
        refine ⟨final, foundFinal, ?_⟩
        cases changed with
        | updated written leaseOwner updatedAt =>
            rw [if_pos ⟨rfl, succeeded⟩]
            refine ⟨?_, fun none => by omega⟩
            rw [version]
            push_cast
            omega
        | same call idle =>
            rw [if_neg (fun both => idle both.1), Nat.zero_add]
            exact ⟨version, content⟩
        | claimed operation ownerId timeoutSeconds lease unheld built =>
            rw [if_neg (fun both => both.1), Nat.zero_add]
            exact ⟨version, content⟩
        | released ownerId lease stored owner =>
            rw [if_neg (fun both => both.1), Nat.zero_add]
            exact ⟨version, content⟩
        | renewed ownerId timeoutSeconds lease renewed guarded stored built =>
            rw [if_neg (fun both => both.1), Nat.zero_add]
            exact ⟨version, content⟩

/-- What the leases ensure of an interleaving. -/
structure Fenced (sha256 : Bytes → Digest) (store : Store κ φ)
    (calls : List (Instant × Call κ φ)) : Prop where
  /-- A call that names an owner succeeds only under that owner's unexpired lease. -/
  owned : ∀ before now call rest ownerId, calls = before ++ (now, call) :: rest → call.Checked →
    call.leaseOwner = some ownerId → Succeeds sha256 (after sha256 store before) now call →
    ∃ row lease instant, (after sha256 store before).runs.get? call.runId = some row ∧
      row.lease = .complete lease ∧ lease.ownerId = ownerId ∧ lease.expiresAt = .at instant ∧
      now < instant
  /-- After a claim or a renewal nobody else claims or writes before release or expiry. -/
  fenced : ∀ before start (opening : Call κ φ) middle now call rest runId operation ownerId
    timeoutSeconds, calls = before ++ (start, opening) :: (middle ++ (now, call) :: rest) →
    (opening = .claim runId operation ownerId timeoutSeconds ∨
      opening = .renew runId ownerId timeoutSeconds) →
    Succeeds sha256 (after sha256 store before) start opening →
    now < start + timeoutSeconds * 1000000 →
    (∀ timed ∈ middle, ¬ timed.2.Ends runId ownerId) → call.Intrudes runId ownerId →
    ¬ Succeeds sha256 (after sha256 store (before ++ (start, opening) :: middle)) now call
  leaseKept : ∀ before now call rest runId row, calls = before ++ (now, call) :: rest →
    call.Updates runId → (after sha256 store before).runs.get? runId = some row →
    ∃ next, (after sha256 store (before ++ [(now, call)])).runs.get? runId = some next ∧
      next.lease = row.lease
  versions : ∀ before rest runId row, calls = before ++ rest →
    store.runs.get? runId = some row →
    ∃ next, (after sha256 store before).runs.get? runId = some next ∧
      next.version = row.version + successfulUpdates sha256 runId store before
  /-- An update of a copy succeeds only when no update has replaced what was copied. -/
  fresh : ∀ before middle now content lease leaseOwner updatedAt rest runId row,
    calls = before ++
      (middle ++ (now, .update runId content lease row.version leaseOwner updatedAt) :: rest) →
    (after sha256 store before).runs.get? runId = some row →
    Succeeds sha256 (after sha256 store (before ++ middle)) now
      (.update runId content lease row.version leaseOwner updatedAt) →
    successfulUpdates sha256 runId (after sha256 store before) middle = 0 ∧
      ∃ current, (after sha256 store (before ++ middle)).runs.get? runId = some current ∧
        current.content = row.content
  released : ∀ before now rest runId ownerId row,
    calls = before ++ (now, .release runId ownerId) :: rest →
    (after sha256 store before).runs.get? runId = some row →
    ∃ next, (after sha256 store (before ++ [(now, .release runId ownerId)])).runs.get? runId =
        some next ∧
      (next.lease = row.lease ∨ ∃ lease, row.lease = .complete lease ∧ lease.ownerId = ownerId)

theorem after_singleton (store : Store κ φ) (now : Instant) (call : Call κ φ) :
    after sha256 store [(now, call)] = (call.perform sha256 now store).2 := rfl

/-- A successful claim or renewal puts its owner's lease in force. -/
theorem opening_stores_lease {store : Store κ φ} {start : Instant} {opening : Call κ φ}
    {runId operation ownerId : String} {timeoutSeconds : Int}
    (opens : opening = .claim runId operation ownerId timeoutSeconds ∨
      opening = .renew runId ownerId timeoutSeconds)
    (succeeds : Succeeds sha256 store start opening) :
    ∃ row lease, (opening.perform sha256 start store).2.runs.get? runId = some row ∧
      row.lease = .complete lease ∧ lease.ownerId = ownerId ∧
      lease.expiresAt = .at (start + timeoutSeconds * 1000000) := by
  have did := succeeds.did
  rcases opens with rfl | rfl
  · obtain ⟨row, lease, _, _, built, written⟩ := did
    have ⟨owner, expires⟩ := leasePayload_eq_ok built
    exact ⟨_, lease, by rw [written, Dict.get?_set_self], rfl, owner, expires⟩
  · obtain ⟨row, _, renewed, _, _, _, built, written⟩ := did
    have ⟨owner, expires⟩ := leasePayload_eq_ok built
    exact ⟨_, renewed, by rw [written, Dict.get?_set_self], rfl, owner, expires⟩

omit [FloatText φ] in
/-- On a clock that does not go back, the calls before a moment are not after it. -/
theorem times_le {calls before middle rest : List (Instant × Call κ φ)} {now : Instant}
    {call : Call κ φ} (clock : (calls.map Prod.fst).Pairwise (· ≤ ·))
    (split : calls = before ++ (middle ++ (now, call) :: rest)) :
    ∀ timed ∈ middle, timed.1 ≤ now := by
  intro timed member
  rw [split, List.pairwise_map] at clock
  have tail := (List.pairwise_append.mp clock).2.1
  exact (List.pairwise_append.mp tail).2.2 timed member (now, call) List.mem_cons_self

/-- Operation leases fence writers in every interleaving. -/
theorem operation_leases_fence_writers (sha256 : Bytes → Digest) (store : Store κ φ)
    (calls : List (Instant × Call κ φ)) (clock : (calls.map Prod.fst).Pairwise (· ≤ ·)) :
    Fenced sha256 store calls where
  owned := by
    intro before now call rest ownerId _ checked names succeeds
    obtain ⟨row, found, guarded⟩ := succeeds.did.guarded checked
    rw [names] at guarded
    cases guarded with
    | free _ noOwner => cases noOwner
    | owned lease instant stored owner expires unexpired =>
        exact ⟨row, lease, instant, found, stored, (Option.some.inj owner).symm, expires, unexpired⟩
  fenced := by
    intro before start opening middle now call rest runId operation ownerId timeoutSeconds split
      opens succeeds unexpired others intrudes passes
    obtain ⟨row, lease, found, stored, owner, expires⟩ := opening_stores_lease opens succeeds
    have earlier := times_le clock (show calls =
      (before ++ [(start, opening)]) ++ (middle ++ (now, call) :: rest) by
        rw [split, List.append_assoc, List.singleton_append])
    rw [← owner] at others intrudes
    obtain ⟨current, foundCurrent, storedCurrent⟩ :=
      @after_keeps_lease κ φ _ sha256 runId lease _ expires middle _ row found stored fun timed member =>
        ⟨lt_of_le_of_lt (earlier timed member) unexpired, others timed member⟩
    rw [after_append] at passes
    exact passes.did.not_intrudes foundCurrent storedCurrent expires unexpired intrudes
  leaseKept := by
    intro before now call rest runId row _ updates found
    rw [after_append, after_singleton]
    rcases perform_changed sha256 now call found with ⟨_, same⟩ | ⟨_, next, foundNext, changed⟩
    · exact ⟨row, by rw [same, found], rfl⟩
    · refine ⟨next, foundNext, ?_⟩
      cases changed with
      | same call idle => rfl
      | updated content leaseOwner updatedAt => rfl
      | claimed => cases updates
      | released => cases updates
      | renewed => cases updates
  versions := by
    intro before rest runId row _ found
    obtain ⟨next, foundNext, version, _⟩ := @after_version κ φ _ sha256 runId before store row found
    exact ⟨next, foundNext, version⟩
  fresh := by
    intro before middle now content lease leaseOwner updatedAt rest runId row _ found succeeds
    obtain ⟨current, foundCurrent, version, content⟩ :=
      @after_version κ φ _ sha256 runId middle _ row found
    rw [← after_append] at foundCurrent
    obtain ⟨updated, foundUpdated, expected, _⟩ := succeeds.did
    rw [foundCurrent] at foundUpdated
    rw [← Option.some.inj foundUpdated] at expected
    have none : successfulUpdates sha256 runId (after sha256 store before) middle = 0 := by omega
    exact ⟨none, current, foundCurrent, content none⟩
  released := by
    intro before now rest runId ownerId row _ found
    rw [after_append, after_singleton]
    rcases perform_changed sha256 now (.release runId ownerId) found with
      ⟨_, same⟩ | ⟨_, next, foundNext, changed⟩
    · exact ⟨row, by rw [same, found], .inl rfl⟩
    · refine ⟨next, foundNext, ?_⟩
      cases changed with
      | same call idle => exact .inl rfl
      | released _ lease stored owner => exact .inr ⟨lease, stored, owner⟩

end Interleavings

namespace Sample

/-- One run without a lease. -/
def store : Store Unit Empty := ⟨[("run-1", ⟨(), .absent, 1, 0⟩)], [], []⟩

/-- A claim, a second claim and an update in the name of the first owner. -/
def calls : List (Instant × Call Unit Empty) :=
  [(0, .claim "run-1" "reconcile" "op-1" 30), (1000000, .claim "run-1" "reconcile" "op-2" 30),
    (2000000, .update "run-1" ()
      (.complete ⟨"reconcile", "op-1", 0, .at 30000000, 30⟩) 1 (some "op-1") 2000000)]

theorem operation_leases_fence_writers_sample : Fenced (fun _ => 0) store calls :=
  operation_leases_fence_writers (fun _ => 0) store calls (by decide)

end Sample

end EgoAgent.Bridge
