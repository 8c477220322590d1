import EgoAgent.SecureMemory.ChannelFrames
import EgoAgent.SecureMemory.ReceiptStore

/-!
What holds of the receipts, whatever way the calls interleave.
-/

namespace EgoAgent.SecureMemory

open EgoAgent.Api

/-! ### The operations of the store -/

section Operations

variable {φ : Type} [FloatText φ] {sha256 : Bytes → Digest} {loads : Bytes → Option (Json φ)}
variable {store later : ReceiptStore}

variable {window : Window}

theorem head_of_heads {head : Nat} {entry : String × InstalledReceipt}
    (found : store.heads window = some (head, entry)) : store.head window = head := by
  rw [ReceiptStore.head, found]
  rfl

theorem head_of_none (found : store.heads window = none) :
    store.head window = 0 := by
  rw [ReceiptStore.head, found]
  rfl

variable {digest : String}

variable {sequence : Nat}

/-- A claim is granted for the next sequence of a window that nobody holds. -/
theorem claim_owner (claimed : claim sha256 loads window sequence digest store = (.owner, later)) :
    store.claims (window, sequence) = none ∧ sequence = store.head window + 1 ∧
      later = { store with
        claims := Function.update store.claims (window, sequence) (some digest) } := by
  unfold claim at claimed
  split at claimed
  · split at claimed <;> cases claimed
  · rename_i free
    dsimp only at claimed
    split at claimed
    · rename_i head entry found
      split at claimed
      · split at claimed
        · cases claimed
        · split at claimed
          · cases claimed
          · split at claimed <;> cases claimed
      · split at claimed
        · cases claimed
        · rename_i next
          cases claimed
          exact ⟨free, by rw [head_of_heads found]; exact not_not.mp next, rfl⟩
    · rename_i found
      split at claimed
      · cases claimed
      · rename_i next
        cases claimed
        exact ⟨free, by rw [head_of_none found]; exact not_not.mp next, rfl⟩

/-- A replay hands out a record of a committed sequence. -/
theorem claim_replay {receipt : InstalledReceipt}
    (claimed : claim sha256 loads window sequence digest store = (.replay receipt, later)) :
    store.records (window, sequence) = some receipt ∧ receipt.requestFrameSha256 = digest ∧
      sequence ≤ store.head window ∧ later = store := by
  unfold claim at claimed
  split at claimed
  · split at claimed <;> cases claimed
  · dsimp only at claimed
    split at claimed
    · rename_i head entry found
      split at claimed
      · rename_i inside
        split at claimed
        · cases claimed
        · rename_i recorded
          split at claimed
          · cases claimed
          · split at claimed
            · rename_i same
              cases claimed
              exact ⟨recorded, same, by rw [head_of_heads found]; exact inside, rfl⟩
            · cases claimed
      · split at claimed <;> cases claimed
    · split at claimed <;> cases claimed

/-- A claim that is not granted changes nothing. -/
theorem claim_same {claimed : Claimed} (other : claimed ≠ .owner)
    (ran : claim sha256 loads window sequence digest store = (claimed, later)) : later = store := by
  unfold claim at ran
  split at ran
  · split at ran <;> cases ran <;> rfl
  · dsimp only at ran
    split at ran
    · split at ran
      · split at ran
        · cases ran
          rfl
        · split at ran
          · cases ran
            rfl
          · split at ran <;> cases ran <;> rfl
      · split at ran
        · cases ran
          rfl
        · cases ran
          exact absurd rfl other
    · split at ran
      · cases ran
        rfl
      · cases ran
        exact absurd rfl other

variable (sha256 loads) in
/-- What `install_or_get` has done when it returns. -/
structure Installs (store later : ReceiptStore) (identity : ReceiptIdentity) (digest : String)
    (receipt : InstalledReceipt) : Prop where
  record : later.records identity = some receipt
  valid : validRecord sha256 loads receipt identity = true
  digest : receipt.requestFrameSha256 = digest
  heads : later.heads = store.heads
  claims : later.claims = store.claims
  others : ∀ other, other ≠ identity → later.records other = store.records other
  kept : ∀ old, store.records identity = some old → old = receipt

variable {pending : Option (List (String × Json φ))}

theorem installOrGet_ok {identity : ReceiptIdentity} {receipt : InstalledReceipt}
    (ran : installOrGet sha256 loads identity digest pending store = (.ok receipt, later)) :
    Installs sha256 loads store later identity digest receipt := by
  unfold installOrGet at ran
  obtain ⟨payload, _, ran⟩ := (Effect.check_bind_eq_ok _ _ _ _ _).mp ran
  obtain ⟨_, ran⟩ := (Effect.raiseIf_bind_eq_ok _ _ _ _ _ _).mp ran
  obtain ⟨_, ran⟩ := (Effect.raiseIf_bind_eq_ok _ _ _ _ _ _).mp ran
  rw [Effect.read_bind] at ran
  cases found : store.records identity with
  | some current =>
      simp only [found] at ran
      obtain ⟨sound, ran⟩ := (Effect.raiseIf_bind_eq_ok _ _ _ _ _ _).mp ran
      cases ran
      obtain ⟨isValid, same⟩ := not_or.mp sound
      refine ⟨found, Bool.of_not_eq_false isValid, not_not.mp same, rfl, rfl, fun _ _ => rfl, ?_⟩
      intro old isOld
      rw [found] at isOld
      exact (Option.some.inj isOld).symm
  | none =>
      simp only [found] at ran
      obtain ⟨isValid, ran⟩ := (Effect.raiseIf_bind_eq_ok _ _ _ _ _ _).mp ran
      rw [Effect.write_bind] at ran
      cases ran
      refine ⟨Function.update_self _ _ _, Bool.of_not_eq_false isValid, rfl, rfl, rfl, ?_, ?_⟩
      · exact fun other different => Function.update_of_ne different _ _
      · intro old isOld
        rw [found] at isOld
        cases isOld

theorem installOrGet_error {identity : ReceiptIdentity} {fault : ChannelFault}
    (ran : installOrGet sha256 loads identity digest pending store = (.error fault, later)) :
    later = store := by
  have atomic : Effect.Atomic (installOrGet sha256 loads identity digest pending) store := by
    unfold installOrGet
    refine Effect.keeps_check_bind _ _ fun payload _ => ?_
    refine Effect.keeps_check_bind _ _ fun _ _ => ?_
    refine Effect.keeps_check_bind _ _ fun _ _ => ?_
    refine Effect.keeps_read_bind _ ?_
    split
    · refine Effect.keeps_check_bind _ _ fun _ _ => ?_
      exact Effect.keeps_of_returns ⟨_, _, rfl⟩
    · refine Effect.keeps_check_bind _ _ fun _ _ => ?_
      exact Effect.keeps_of_returns ⟨_, _, rfl⟩
  exact atomic fault later ran

theorem commit_of_held
    (receipt : InstalledReceipt) (held : store.claims (window, sequence) = some digest) :
    commit window sequence digest receipt store = (.ok (), { store with
      heads := Function.update store.heads window (some (sequence, digest, receipt))
      claims := Function.update store.claims (window, sequence) none }) := by
  unfold commit
  rw [Effect.read_bind, (raiseIf_eq_ok _ _ ()).mpr (not_not.mpr held), Effect.check_ok_bind]
  rfl

end Operations

/-! ### One call -/

/-- The delivery that a call works on. -/
def CallStage.works {φ : Type} : CallStage φ → Option Delivery
  | .owner delivery | .routed delivery _ | .installed delivery _ | .aborting delivery _ =>
      some delivery
  | _ => none

/-- A call that works holds the claim of the next sequence. -/
structure Held (store : ReceiptStore) (delivery : Delivery) : Prop where
  claim : store.claims delivery.identity = some delivery.digest
  next : delivery.sequence = store.head delivery.window + 1

structure Filed (store : ReceiptStore) (delivery : Delivery) (receipt : InstalledReceipt) :
    Prop where
  record : store.records delivery.identity = some receipt
  digest : receipt.requestFrameSha256 = delivery.digest

/-- What a stage says of the store. -/
structure Fits {φ : Type} (store : ReceiptStore) (stage : CallStage φ) : Prop where
  held : ∀ delivery, stage.works = some delivery → Held store delivery
  filed : ∀ delivery receipt, stage = .installed delivery receipt → Filed store delivery receipt
  returned : ∀ delivery frame, stage = .returned delivery frame →
    delivery.sequence ≤ store.head delivery.window ∧
      ∃ receipt, Filed store delivery receipt ∧ receipt.receiptFrame = frame

/-- Records stay and heads do not fall. -/
structure Grows (store later : ReceiptStore) : Prop where
  records : ∀ identity receipt, store.records identity = some receipt →
    later.records identity = some receipt
  head : ∀ window, store.head window ≤ later.head window

theorem Fits.kept {φ : Type} {store later : ReceiptStore} {stage : CallStage φ}
    (fits : Fits store stage) (grows : Grows store later)
    (held : ∀ delivery, stage.works = some delivery → Held later delivery) : Fits later stage where
  held := held
  filed := by
    intro delivery receipt isStage
    obtain ⟨record, digest⟩ := fits.filed delivery receipt isStage
    exact ⟨grows.records _ _ record, digest⟩
  returned := by
    intro delivery frame isStage
    obtain ⟨committed, receipt, ⟨record, digest⟩, same⟩ := fits.returned delivery frame isStage
    exact ⟨committed.trans (grows.head _), receipt, ⟨grows.records _ _ record, digest⟩, same⟩

section CallMoves

variable {φ : Type} [FloatText φ] (sha256 : Bytes → Digest) (loads : Bytes → Option (Json φ))

/-- What a step can do to a call and to the store. -/
inductive CallMoves (store : ReceiptStore) : CallStage φ → CallStage φ → ReceiptStore → Prop where
  /-- The call does not work, and goes on without. -/
  | waits {stage next : CallStage φ} (idle : stage.works = none) (idleNext : next.works = none)
      (unanswered : ∀ delivery frame, next ≠ .returned delivery frame) :
      CallMoves store stage next store
  | replays {delivery : Delivery} {receipt : InstalledReceipt}
      (filed : Filed store delivery receipt)
      (committed : delivery.sequence ≤ store.head delivery.window) :
      CallMoves store (.claiming delivery) (.returned delivery receipt.receiptFrame) store
  | owns {delivery : Delivery} (free : store.claims delivery.identity = none)
      (next : delivery.sequence = store.head delivery.window + 1) :
      CallMoves store (.claiming delivery) (.owner delivery)
        { store with
          claims := Function.update store.claims delivery.identity (some delivery.digest) }
  /-- The call goes on working, and installs nothing. -/
  | works {stage next : CallStage φ} {delivery : Delivery} (before : stage.works = some delivery)
      (after : next.works = some delivery)
      (open_ : ∀ delivery receipt, stage ≠ .installed delivery receipt)
      (uninstalled : ∀ delivery receipt, next ≠ .installed delivery receipt) :
      CallMoves store stage next store
  | files {delivery : Delivery} {pending : Option (List (String × Json φ))}
      {receipt : InstalledReceipt} {later : ReceiptStore}
      (installs : Installs sha256 loads store later delivery.identity delivery.digest receipt) :
      CallMoves store (.routed delivery pending) (.installed delivery receipt) later
  | commits {delivery : Delivery} {receipt : InstalledReceipt} :
      CallMoves store (.installed delivery receipt) (.returned delivery receipt.receiptFrame)
        { store with
          heads := Function.update store.heads delivery.window
            (some (delivery.sequence, delivery.digest, receipt))
          claims := Function.update store.claims delivery.identity none }
  | aborts {delivery : Delivery} {fault : ChannelFault} :
      CallMoves store (.aborting delivery fault) (.raised fault)
        { store with claims := Function.update store.claims delivery.identity none }

theorem advance_moves {store later : ReceiptStore} {step : ReceiveStep φ}
    {stage next : CallStage φ} (fits : Fits store stage)
    (advanced : advance sha256 loads store step stage = some (next, later)) :
    CallMoves sha256 loads store stage next later := by
  unfold advance at advanced
  split at advanced
  · split at advanced
    · cases advanced
      exact .waits rfl rfl (fun _ _ same => by cases same)
    · cases advanced
      exact .waits rfl rfl (fun _ _ same => by cases same)
  · rename_i delivery
    dsimp only at advanced
    obtain ⟨stageAfter, isAfter, same⟩ := Option.map_eq_some_iff.mp advanced
    rcases outcome : claim sha256 loads delivery.window delivery.sequence delivery.digest store with
      ⟨claimed, after⟩
    rw [outcome] at isAfter same
    cases same
    cases claimed with
    | waiting => cases isAfter
    | replay receipt =>
        cases isAfter
        obtain ⟨record, digest, committed, rfl⟩ := claim_replay outcome
        exact .replays ⟨record, digest⟩ committed
    | owner =>
        cases isAfter
        obtain ⟨free, isNext, rfl⟩ := claim_owner outcome
        exact .owns free isNext
    | conflict =>
        cases isAfter
        rw [claim_same (fun same => by cases same) outcome]
        exact .waits rfl rfl (fun _ _ same => by cases same)
    | inconsistent =>
        cases isAfter
        rw [claim_same (fun same => by cases same) outcome]
        exact .waits rfl rfl (fun _ _ same => by cases same)
    | mismatch =>
        cases isAfter
        rw [claim_same (fun same => by cases same) outcome]
        exact .waits rfl rfl (fun _ _ same => by cases same)
  · cases advanced
    exact .works rfl rfl (fun _ _ same => by cases same) (fun _ _ same => by cases same)
  · cases advanced
    exact .works rfl rfl (fun _ _ same => by cases same) (fun _ _ same => by cases same)
  · rename_i delivery pending
    split at advanced
    · rename_i fault after ran
      cases advanced
      rw [installOrGet_error ran]
      exact .works rfl rfl (fun _ _ same => by cases same) (fun _ _ same => by cases same)
    · rename_i receipt after ran
      have installs := installOrGet_ok ran
      split at advanced
      · rename_i unsound
        rw [installs.valid, installs.digest] at unsound
        exact absurd unsound (by simp)
      · cases advanced
        exact .files installs
  · rename_i delivery receipt
    have held := fits.held delivery rfl
    rw [commit_of_held receipt held.claim] at advanced
    cases advanced
    exact .commits
  · rename_i delivery fault
    have held := fits.held delivery rfl
    cases advanced
    have own : store.claims (delivery.window, delivery.sequence) = some delivery.digest :=
      held.claim
    unfold abort
    rw [if_pos own]
    exact .aborts
  · cases advanced

end CallMoves

/-! ### Every interleaving -/

section Runs

variable {φ : Type} [FloatText φ] (sha256 : Bytes → Digest) (loads : Bytes → Option (Json φ))
variable {ι : Type} [DecidableEq ι]

/-- The sequences of a window among these identities. -/
def sequencesOf (window : Window) (identities : List ReceiptIdentity) : List Nat :=
  (identities.filter fun identity => identity.1 = window).map Prod.snd

/-- The invariant of the shared store and its calls. -/
structure Receivers.Sound (state : Receivers ι φ) : Prop where
  fits : ∀ call, Fits state.store (state.calls call)
  alone : ∀ one other left right, (state.calls one).works = some left →
    (state.calls other).works = some right → left.identity = right.identity → one = other
  valid : ∀ identity receipt, state.store.records identity = some receipt →
    validRecord sha256 loads receipt identity = true ∧ 1 ≤ identity.2
  closed : ∀ identity receipt, state.store.records identity = some receipt →
    identity.2 ≤ state.store.head identity.1 ∨
      ∃ call delivery, state.calls call = .installed delivery receipt ∧
        delivery.identity = identity
  committed : ∀ window sequence, 1 ≤ sequence → sequence ≤ state.store.head window →
    ∃ receipt, state.store.records (window, sequence) = some receipt
  ordered : ∀ window,
    sequencesOf window state.commits = List.range' 1 (state.store.head window)

omit [DecidableEq ι] in
theorem Receivers.start_sound : (Receivers.start : Receivers ι φ).Sound sha256 loads where
  fits := fun _ =>
    { held := fun _ works => by cases works
      filed := fun _ _ same => by cases same
      returned := fun _ _ same => by cases same }
  alone := fun _ _ _ _ works => by cases works
  valid := fun _ _ found => by cases found
  closed := fun _ _ found => by cases found
  committed := fun _ _ positive small => absurd (positive.trans small) (Nat.not_succ_le_zero 0)
  ordered := fun _ => rfl

variable {state : Receivers ι φ} {call : ι} {stage : CallStage φ}

omit [FloatText φ] in
/-- The calls after a step, seen from one of them. -/
theorem calls_update (state : Receivers ι φ) (call : ι) (stage : CallStage φ) (other : ι) :
    (other = call ∧ Function.update state.calls call stage other = stage) ∨
      (other ≠ call ∧ Function.update state.calls call stage other = state.calls other) := by
  by_cases same : other = call
  · subst same
    exact .inl ⟨rfl, Function.update_self _ _ _⟩
  · exact .inr ⟨same, Function.update_of_ne same _ _⟩

omit [FloatText φ] in
/-- No two calls work on one identity, when the one that moves takes up nothing new. -/
theorem alone_update
    (alone : ∀ one other left right, (state.calls one).works = some left →
      (state.calls other).works = some right → left.identity = right.identity → one = other)
    (fresh : ∀ delivery, stage.works = some delivery →
      (state.calls call).works = some delivery ∨
        ∀ other right, other ≠ call → (state.calls other).works = some right →
          delivery.identity ≠ right.identity)
    (one other : ι) (left right : Delivery)
    (oneWorks : (Function.update state.calls call stage one).works = some left)
    (otherWorks : (Function.update state.calls call stage other).works = some right)
    (same : left.identity = right.identity) : one = other := by
  rcases calls_update state call stage one with
    ⟨isOne, oneStage⟩ | ⟨notOne, oneStage⟩ <;>
  rcases calls_update state call stage other with
    ⟨isOther, otherStage⟩ | ⟨notOther, otherStage⟩
  · exact isOne.trans isOther.symm
  · rw [oneStage] at oneWorks
    rw [otherStage] at otherWorks
    rcases fresh left oneWorks with before | apart
    · rw [isOne]
      exact alone call other left right before otherWorks same
    · exact absurd same (apart other right notOther otherWorks)
  · rw [oneStage] at oneWorks
    rw [otherStage] at otherWorks
    rcases fresh right otherWorks with before | apart
    · rw [isOther]
      exact alone one call left right oneWorks before same
    · exact absurd same.symm (apart one left notOne oneWorks)
  · rw [oneStage] at oneWorks
    rw [otherStage] at otherWorks
    exact alone one other left right oneWorks otherWorks same

variable {receipt : InstalledReceipt}

omit [FloatText φ] in
/-- The record of a call that is not installing stays closed. -/
theorem closed_update {store : ReceiptStore} {identity : ReceiptIdentity}
    (notInstalled : ∀ delivery receipt, state.calls call ≠ .installed delivery receipt)
    (head : state.store.head identity.1 ≤ store.head identity.1)
    (closed : identity.2 ≤ state.store.head identity.1 ∨
      ∃ call delivery, state.calls call = .installed delivery receipt ∧
        delivery.identity = identity) :
    identity.2 ≤ store.head identity.1 ∨
      ∃ other delivery, Function.update state.calls call stage other =
        .installed delivery receipt ∧ delivery.identity = identity := by
  rcases closed with committed | ⟨other, delivery, installed, same⟩
  · exact .inl (committed.trans head)
  · refine .inr ⟨other, delivery, ?_, same⟩
    have different : other ≠ call := by
      rintro rfl
      exact notInstalled delivery receipt installed
    rw [Function.update_of_ne different]
    exact installed

omit [FloatText φ] in
theorem committedBy_of_not_installed {before next : CallStage φ}
    (notInstalled : ∀ delivery receipt, before ≠ .installed delivery receipt) :
    committedBy before next = [] := by
  unfold committedBy
  split
  · rename_i delivery receipt _ _
    exact absurd rfl (notInstalled delivery receipt)
  · rfl

variable {sha256 loads}
variable {store : ReceiptStore}

/-- A step that neither installs nor commits. -/
theorem Receivers.Sound.unfiled (sound : state.Sound sha256 loads)
    (records : store.records = state.store.records) (heads : store.heads = state.store.heads)
    (notInstalled : ∀ delivery receipt, state.calls call ≠ .installed delivery receipt)
    (fits : Fits store stage)
    (others : ∀ other, other ≠ call → Fits store (state.calls other))
    (fresh : ∀ delivery, stage.works = some delivery →
      (state.calls call).works = some delivery ∨
        ∀ other right, other ≠ call → (state.calls other).works = some right →
          delivery.identity ≠ right.identity) :
    (state.after call stage store).Sound sha256 loads := by
  have head : ∀ window, store.head window = state.store.head window := by
    intro window
    unfold ReceiptStore.head
    rw [heads]
  refine ⟨?_, alone_update sound.alone fresh, ?_, ?_, ?_, ?_⟩
  · intro other
    show Fits store (Function.update state.calls call stage other)
    rcases calls_update state call stage other with
      ⟨_, same⟩ | ⟨different, same⟩
    · rw [same]
      exact fits
    · rw [same]
      exact others other different
  · intro identity receipt found
    exact sound.valid identity receipt (records ▸ found)
  · intro identity receipt found
    exact closed_update notInstalled (head _).ge
      (sound.closed identity receipt (records ▸ found))
  · intro window sequence positive small
    obtain ⟨receipt, found⟩ := sound.committed window sequence positive ((head window) ▸ small)
    exact ⟨receipt, records.symm ▸ found⟩
  · intro window
    show sequencesOf window (state.commits ++ committedBy (state.calls call) stage) =
      List.range' 1 (store.head window)
    rw [committedBy_of_not_installed notInstalled, List.append_nil, head]
    exact sound.ordered window

/-- `install_or_get` files one receipt. -/
theorem Receivers.Sound.files (sound : state.Sound sha256 loads) {delivery : Delivery}
    {pending : Option (List (String × Json φ))}
    (isRouted : state.calls call = .routed delivery pending)
    (installs : Installs sha256 loads state.store store delivery.identity delivery.digest receipt) :
    (state.after call (.installed delivery receipt) store).Sound sha256 loads := by
  have held := (sound.fits call).held delivery (by rw [isRouted]; rfl)
  have head : ∀ window, store.head window = state.store.head window := by
    intro window
    unfold ReceiptStore.head
    rw [installs.heads]
  have grows : Grows state.store store := by
    refine ⟨fun identity old found => ?_, fun window => (head window).ge⟩
    by_cases same : identity = delivery.identity
    · subst same
      rw [installs.kept old found]
      exact installs.record
    · rw [installs.others identity same]
      exact found
  have heldAfter : ∀ other, Held state.store other → Held store other := by
    intro other holds
    exact ⟨by rw [installs.claims]; exact holds.claim, by rw [head]; exact holds.next⟩
  refine ⟨?_, alone_update sound.alone ?_, ?_, ?_, ?_, ?_⟩
  · intro other
    show Fits store (Function.update state.calls call _ other)
    rcases calls_update state call (.installed delivery receipt) other with
      ⟨_, same⟩ | ⟨_, same⟩
    · rw [same]
      refine ⟨?_, ?_, fun _ _ same => by cases same⟩
      · intro mine works
        cases works
        exact heldAfter delivery held
      · intro mine filed same
        cases same
        exact ⟨installs.record, installs.digest⟩
    · rw [same]
      exact (sound.fits other).kept grows fun mine works =>
        heldAfter mine ((sound.fits other).held mine works)
  · intro mine works
    cases works
    exact .inl (by rw [isRouted]; rfl)
  · intro identity found isFound
    by_cases same : identity = delivery.identity
    · subst same
      have isReceipt : found = receipt := Option.some.inj (isFound.symm.trans installs.record)
      have next := held.next
      refine ⟨isReceipt ▸ installs.valid, ?_⟩
      show 1 ≤ delivery.sequence
      omega
    · exact sound.valid identity found ((installs.others identity same) ▸ isFound)
  · intro identity found isFound
    by_cases same : identity = delivery.identity
    · subst same
      have isReceipt : found = receipt := Option.some.inj (isFound.symm.trans installs.record)
      refine .inr ⟨call, delivery, ?_, rfl⟩
      rw [isReceipt]
      exact Function.update_self _ _ _
    · refine closed_update ?_ (head _).ge
        (sound.closed identity found ((installs.others identity same) ▸ isFound))
      intro other filed installed
      rw [isRouted] at installed
      cases installed
  · intro window sequence positive small
    obtain ⟨old, found⟩ := sound.committed window sequence positive ((head window) ▸ small)
    exact ⟨old, grows.records _ _ found⟩
  · intro window
    show sequencesOf window (state.commits ++ committedBy (state.calls call) _) =
      List.range' 1 (store.head window)
    rw [isRouted, head]
    show sequencesOf window (state.commits ++ []) = _
    rw [List.append_nil]
    exact sound.ordered window

theorem sequencesOf_append (window : Window) (before : List ReceiptIdentity)
    (identity : ReceiptIdentity) :
    sequencesOf window (before ++ [identity]) =
      sequencesOf window before ++ if identity.1 = window then [identity.2] else [] := by
  by_cases own : identity.1 = window
  · simp [sequencesOf, own]
  · simp [sequencesOf, own]

/-- `commit` closes the next sequence of its window. -/
theorem Receivers.Sound.commits (sound : state.Sound sha256 loads) {delivery : Delivery}
    (isInstalled : state.calls call = .installed delivery receipt)
    (heads : store.heads = Function.update state.store.heads delivery.window
      (some (delivery.sequence, delivery.digest, receipt)))
    (claims : store.claims = Function.update state.store.claims delivery.identity none)
    (records : store.records = state.store.records) :
    (state.after call (.returned delivery receipt.receiptFrame) store).Sound sha256 loads := by
  have works : (state.calls call).works = some delivery := by
    rw [isInstalled]
    rfl
  have held := (sound.fits call).held delivery works
  have filed := (sound.fits call).filed delivery receipt isInstalled
  have own : store.head delivery.window = delivery.sequence := by
    unfold ReceiptStore.head
    rw [heads, Function.update_self]
    rfl
  have elsewhere : ∀ window, window ≠ delivery.window →
      store.head window = state.store.head window := by
    intro window different
    unfold ReceiptStore.head
    rw [heads, Function.update_of_ne different]
  have next := held.next
  have grows : Grows state.store store := by
    refine ⟨fun identity old found => records ▸ found, fun window => ?_⟩
    by_cases same : window = delivery.window
    · subst same
      omega
    · exact (elsewhere window same).ge
  refine ⟨?_, alone_update sound.alone (fun _ works => by cases works), ?_, ?_, ?_, ?_⟩
  · intro other
    show Fits store (Function.update state.calls call _ other)
    rcases calls_update state call (.returned delivery receipt.receiptFrame) other with
      ⟨_, same⟩ | ⟨different, same⟩
    · rw [same]
      refine ⟨fun _ works => (by cases works), fun _ _ same => (by cases same), ?_⟩
      intro mine frame same
      cases same
      exact ⟨own.ge, receipt, ⟨grows.records _ _ filed.record, filed.digest⟩, rfl⟩
    · rw [same]
      refine (sound.fits other).kept grows fun mine mineWorks => ?_
      have holds := (sound.fits other).held mine mineWorks
      have apart : mine.identity ≠ delivery.identity := fun same =>
        different (sound.alone other call mine delivery mineWorks works same)
      -- a call for the same window would work on the same sequence
      have otherWindow : mine.window ≠ delivery.window := by
        intro same
        refine apart (Prod.ext same ?_)
        show mine.sequence = delivery.sequence
        rw [holds.next, next, same]
      refine ⟨?_, ?_⟩
      · rw [claims, Function.update_of_ne apart]
        exact holds.claim
      · rw [elsewhere _ otherWindow]
        exact holds.next
  · intro identity found isFound
    exact sound.valid identity found (records ▸ isFound)
  · intro identity found isFound
    have isFound : state.store.records identity = some found := records ▸ isFound
    rcases sound.closed identity found isFound with closed | ⟨other, mine, installed, same⟩
    · exact .inl (closed.trans (grows.head _))
    · by_cases isCall : other = call
      · subst isCall
        rw [isInstalled] at installed
        cases installed
        rw [← same]
        exact .inl own.ge
      · refine .inr ⟨other, mine, ?_, same⟩
        show Function.update state.calls call _ other = _
        rw [Function.update_of_ne isCall]
        exact installed
  · intro window sequence positive small
    have small : sequence ≤ store.head window := small
    by_cases same : window = delivery.window
    · subst same
      by_cases before : sequence ≤ state.store.head delivery.window
      · obtain ⟨old, found⟩ := sound.committed _ sequence positive before
        exact ⟨old, grows.records _ _ found⟩
      · have last : sequence = delivery.sequence := by omega
        subst last
        exact ⟨receipt, grows.records _ _ filed.record⟩
    · obtain ⟨old, found⟩ :=
        sound.committed window sequence positive (elsewhere window same ▸ small)
      exact ⟨old, grows.records _ _ found⟩
  · intro window
    show sequencesOf window (state.commits ++ committedBy (state.calls call) _) =
      List.range' 1 (store.head window)
    rw [isInstalled]
    show sequencesOf window (state.commits ++ [delivery.identity]) = _
    rw [sequencesOf_append, sound.ordered]
    by_cases same : delivery.window = window
    · subst same
      rw [if_pos (show delivery.identity.1 = delivery.window from rfl), own, next,
        List.range'_concat]
      show _ ++ [delivery.sequence] = _
      rw [next, Nat.one_mul, Nat.add_comm]
    · rw [if_neg (show ¬ delivery.identity.1 = window from same), List.append_nil,
        elsewhere window (Ne.symm same)]

/-- A step of any call keeps the invariant. -/
theorem Receivers.Sound.moves (sound : state.Sound sha256 loads) {before next : CallStage φ}
    (isBefore : state.calls call = before)
    (moved : CallMoves sha256 loads state.store before next store) :
    (state.after call next store).Sound sha256 loads := by
  have notInstalled : (∀ delivery receipt, before ≠ .installed delivery receipt) →
      ∀ delivery receipt, state.calls call ≠ .installed delivery receipt := by
    rw [isBefore]
    exact id
  cases moved with
  | waits idle idleNext unanswered =>
      refine sound.unfiled rfl rfl (notInstalled fun _ _ same => ?_) ⟨?_, ?_, ?_⟩
        (fun other _ => sound.fits other) ?_
      · rw [same] at idle
        cases idle
      · intro delivery works
        rw [idleNext] at works
        cases works
      · intro delivery receipt same
        rw [same] at idleNext
        cases idleNext
      · exact fun delivery frame same => absurd same (unanswered delivery frame)
      · intro delivery works
        rw [idleNext] at works
        cases works
  | replays filed committed =>
      rename_i delivery receipt
      refine sound.unfiled rfl rfl (notInstalled fun _ _ same => by cases same)
        ⟨fun _ works => (by cases works), fun _ _ same => (by cases same), ?_⟩
        (fun other _ => sound.fits other) (fun _ works => by cases works)
      intro mine frame same
      cases same
      exact ⟨committed, receipt, filed, rfl⟩
  | owns free isNext =>
      rename_i delivery
      have apart : ∀ other right, (state.calls other).works = some right →
          right.identity ≠ delivery.identity := by
        intro other right works same
        have held := ((sound.fits other).held right works).claim
        rw [same, free] at held
        cases held
      refine sound.unfiled rfl rfl (notInstalled fun _ _ same => by cases same)
        ⟨?_, fun _ _ same => (by cases same), fun _ _ same => (by cases same)⟩ ?_ ?_
      · intro mine works
        cases works
        exact ⟨Function.update_self _ _ _, isNext⟩
      · intro other _
        refine (sound.fits other).kept ⟨fun _ _ found => found, fun _ => Nat.le_refl _⟩ ?_
        intro mine works
        have holds := (sound.fits other).held mine works
        refine ⟨?_, holds.next⟩
        show Function.update state.store.claims delivery.identity _ mine.identity = _
        rw [Function.update_of_ne (apart other mine works)]
        exact holds.claim
      · intro mine works
        cases works
        exact .inr fun other right _ works => (apart other right works).symm
  | works isWorking works open_ uninstalled =>
      rename_i delivery
      have wasWorking : (state.calls call).works = some delivery := by
        rw [isBefore]
        exact isWorking
      refine sound.unfiled rfl rfl (notInstalled open_)
        ⟨?_, fun _ _ same => absurd same (uninstalled _ _), ?_⟩
        (fun other _ => sound.fits other) ?_
      · intro mine mineWorks
        rw [works] at mineWorks
        cases mineWorks
        exact (sound.fits call).held delivery wasWorking
      · intro mine frame same
        rw [same] at works
        cases works
      · intro mine mineWorks
        rw [works] at mineWorks
        exact .inl (wasWorking.trans mineWorks)
  | files installs => exact sound.files isBefore installs
  | commits => exact sound.commits isBefore rfl rfl rfl
  | aborts =>
      rename_i delivery fault
      have works : (state.calls call).works = some delivery := by
        rw [isBefore]
        rfl
      refine sound.unfiled rfl rfl (notInstalled fun _ _ same => by cases same)
        ⟨fun _ works => (by cases works), fun _ _ same => (by cases same),
          fun _ _ same => (by cases same)⟩ ?_ (fun _ works => by cases works)
      intro other different
      refine (sound.fits other).kept ⟨fun _ _ found => found, fun _ => Nat.le_refl _⟩ ?_
      intro mine mineWorks
      have holds := (sound.fits other).held mine mineWorks
      refine ⟨?_, holds.next⟩
      show Function.update state.store.claims delivery.identity none mine.identity = _
      rw [Function.update_of_ne fun same =>
        different (sound.alone other call mine delivery mineWorks works same)]
      exact holds.claim

theorem Receivers.Reachable.sound (reachable : state.Reachable sha256 loads) :
    state.Sound sha256 loads := by
  induction reachable with
  | start => exact Receivers.start_sound sha256 loads
  | step _ call step advanced sound =>
      exact sound.moves rfl (advance_moves sha256 loads (sound.fits call) advanced)

end Runs

namespace ChannelSample

end ChannelSample

end EgoAgent.SecureMemory
