import EgoAgent.Lib.Effect

/-!
`SQLiteStore.transaction`: one write transaction per thread, entered any number
of times.

Only the outermost scope begins, commits and rolls back.  A nested scope shares
the connection and, left by an `Exception`, marks it rollback-only.  A body is a
tree of store calls, computations on local variables, handlers and scopes;
`Body.run` is what the store does with it and `Body.plain` what its writes alone
would do.
-/

namespace EgoAgent.Api

/-- What a body can raise.  `except Exception` catches what `isException` holds
of; KeyboardInterrupt, SystemExit and GeneratorExit are not among them. -/
class Raisable (ε : Type) where
  isException : ε → Bool
  runtimeError : String → ε
  operationalError : String → ε

open Raisable

/-- One thread's view of a store: the committed database, the contents of the
open transaction of its connection, and the thread-local attributes. -/
structure Thread (δ : Type) where
  memory : Bool
  database : δ
  opened : Option δ
  depth : Nat
  connected : Bool
  rollbackOnly : Option Bool

namespace Thread

variable {β δ ε : Type}

/-- A thread outside every scope. -/
def idle (memory : Bool) (database : δ) : Thread δ :=
  { memory, database, opened := none, depth := 0, connected := false, rollbackOnly := none }

def seen (thread : Thread δ) : δ := thread.opened.getD thread.database

def rollback (thread : Thread δ) : Thread δ := { thread with opened := none }

def commit (thread : Thread δ) : Thread δ :=
  { thread with database := thread.seen, opened := none }

/-- The outermost `finally`: attributes go, and closing a connection drops what
it has not committed.  The one of an in-memory store stays open. -/
def release (thread : Thread δ) : Thread δ :=
  { thread with
    depth := 0
    connected := false
    rollbackOnly := none
    opened := if thread.memory then thread.opened else none }

/-- A store method.  Inside a scope `_commit` and `_rollback` do nothing. -/
def call (method : β → δ → Except ε β × δ) : Effect (β × Thread δ) ε Unit :=
  fun (locals, thread) =>
    match method locals thread.seen with
    | (.ok later, written) =>
        (.ok (), later, if thread.connected then { thread with opened := some written }
          else { thread with database := written, opened := none })
    | (.error error, written) =>
        (.error error, locals, if thread.connected then { thread with opened := some written }
          else thread.rollback)

def nested [Raisable ε] (body : Effect (β × Thread δ) ε Unit) (depth : Nat) :
    Effect (β × Thread δ) ε Unit := fun (locals, thread) =>
  match body (locals, { thread with depth := depth + 1 }) with
  | (.ok (), later, left) => (.ok (), later, { left with depth })
  | (.error error, later, left) =>
      (.error error, later,
        { left with
          depth
          rollbackOnly := if isException error then some true else left.rollbackOnly })

def outermost [Raisable ε] (body : Effect (β × Thread δ) ε Unit) :
    Effect (β × Thread δ) ε Unit := fun (locals, thread) =>
  match thread.opened with
  | some _ =>
      (.error (operationalError "cannot start a transaction within a transaction"),
        locals, thread.release)
  | none =>
      match body (locals,
        { thread with
          opened := some thread.database, connected := true, depth := 1,
          rollbackOnly := some false }) with
      | (.ok (), later, left) =>
          if left.rollbackOnly = some true then
            (.error (runtimeError "nested database mutation failed; transaction rolled back"),
              later, left.rollback.release)
          else (.ok (), later, left.commit.release)
      | (.error error, later, left) =>
          (.error error, later,
            if isException error then left.rollback.release else left.release)

def transaction [Raisable ε] (body : Effect (β × Thread δ) ε Unit) :
    Effect (β × Thread δ) ε Unit := fun state =>
  if state.2.depth = 0 then outermost body state else nested body state.2.depth state

end Thread

/-! ### Bodies -/

/-- Code that runs on local variables `β` and a store of databases `δ`. -/
inductive Body (β δ ε : Type) where
  | compute (step : β → Except ε β)
  | call (method : β → δ → Except ε β × δ)
  | seq (first next : Body β δ ε)
  | choose (next : β → Body β δ ε)
  | attempt (body : Body β δ ε) (handler : ε → Body β δ ε)
  | transaction (body : Body β δ ε)

/-- `try: body except Exception: handler`, on effects. -/
def attemptEffect {σ ε : Type} (body : Effect σ ε Unit) (handler : ε → Effect σ ε Unit) :
    Effect σ ε Unit := fun state =>
  match body state with
  | (.ok (), later) => (.ok (), later)
  | (.error error, later) => handler error later

section Runs

variable {β δ ε : Type} [Raisable ε]

def Body.run : Body β δ ε → Effect (β × Thread δ) ε Unit
  | .compute step => fun (locals, thread) =>
      match step locals with
      | .ok later => (.ok (), later, thread)
      | .error error => (.error error, locals, thread)
  | .call method => Thread.call method
  | .seq first next => first.run >>= fun _ => next.run
  | .choose next => fun state => (next state.1).run state
  | .attempt body handler => attemptEffect body.run fun error => (handler error).run
  | .transaction body => Thread.transaction body.run

/-- The local variables and the database as the writes alone leave them, and
whether a scope was left by an `Exception` or by anything else. -/
structure Plain (β δ : Type) where
  locals : β
  database : δ
  failed : Bool
  interrupted : Bool

def Plain.raised (state : Plain β δ) : Bool := state.failed || state.interrupted

/-- A scope that does nothing but note how it is left. -/
def Plain.scope (body : Effect (Plain β δ) ε Unit) : Effect (Plain β δ) ε Unit := fun state =>
  match body state with
  | (.ok (), later) => (.ok (), later)
  | (.error error, later) =>
      (.error error,
        { later with
          failed := later.failed || isException error
          interrupted := later.interrupted || !isException error })

def Body.plain : Body β δ ε → Effect (Plain β δ) ε Unit
  | .compute step => fun state =>
      match step state.locals with
      | .ok later => (.ok (), { state with locals := later })
      | .error error => (.error error, state)
  | .call method => fun state =>
      match method state.locals state.database with
      | (.ok later, written) => (.ok (), { state with locals := later, database := written })
      | (.error error, written) => (.error error, { state with database := written })
  | .seq first next => first.plain >>= fun _ => next.plain
  | .choose next => fun state => (next state.locals).plain state
  | .attempt body handler => attemptEffect body.plain fun error => (handler error).plain
  | .transaction body => Plain.scope body.plain

theorem Body.plain_seq (first next : Body β δ ε) (state : Plain β δ) :
    (Body.seq first next).plain state =
      match first.plain state with
      | (.ok _, later) => next.plain later
      | (.error error, later) => (.error error, later) := by
  simp only [Body.plain, Effect.bind_apply]
  rcases first.plain state with ⟨_ | _, _⟩ <;> rfl

theorem Body.plain_choose (next : β → Body β δ ε) (state : Plain β δ) :
    (Body.choose next).plain state = (next state.locals).plain state := rfl

theorem Body.plain_attempt (body : Body β δ ε) (handler : ε → Body β δ ε) (state : Plain β δ) :
    (Body.attempt body handler).plain state =
      match body.plain state with
      | (.ok _, later) => (.ok (), later)
      | (.error error, later) => (handler error).plain later := by
  simp only [Body.plain, attemptEffect]
  rcases body.plain state with ⟨_ | _, _⟩ <;> rfl

theorem Body.plain_call (method : β → δ → Except ε β × δ) (state : Plain β δ) :
    (Body.call method).plain state =
      match method state.locals state.database with
      | (.ok later, written) => (.ok (), { state with locals := later, database := written })
      | (.error error, written) => (.error error, { state with database := written }) := rfl

theorem Body.plain_compute (step : β → Except ε β) (state : Plain β δ) :
    (Body.compute step : Body β δ ε).plain state =
      match step state.locals with
      | .ok later => (.ok (), { state with locals := later })
      | .error error => (.error error, state) := rfl

theorem Body.plain_transaction (body : Body β δ ε) (state : Plain β δ) :
    (Body.transaction body).plain state =
      match body.plain state with
      | (.ok _, later) => (.ok (), later)
      | (.error error, later) =>
          (.error error,
            { later with
              failed := later.failed || isException error
              interrupted := later.interrupted || !isException error }) := by
  simp only [Body.plain, Plain.scope]
  rcases body.plain state with ⟨_ | _, _⟩ <;> rfl

def Plain.start (locals : β) (database : δ) : Plain β δ := ⟨locals, database, false, false⟩

/-! ### Inside a scope -/

/-- A thread inside `depth` scopes that were entered on `base`. -/
def Plain.inside (base : Thread δ) (depth : Nat) (state : Plain β δ) : β × Thread δ :=
  (state.locals,
    { base with
      opened := some state.database, connected := true, depth,
      rollbackOnly := some state.failed })

private theorem nested_inside (body : Effect (β × Thread δ) ε Unit)
    (reference : Effect (Plain β δ) ε Unit) (base : Thread δ) (depth : Nat) (state : Plain β δ)
    (simulated : body (state.inside base (depth + 1)) =
      ((reference state).1, (reference state).2.inside base (depth + 1))) :
    Thread.nested body depth (state.inside base depth) =
      ((Plain.scope reference state).1, (Plain.scope reference state).2.inside base depth) := by
  have entered : Thread.nested body depth (state.inside base depth) =
      match body (state.inside base (depth + 1)) with
      | (.ok (), later, left) => (.ok (), later, { left with depth })
      | (.error error, later, left) =>
          (.error error, later,
            { left with
              depth
              rollbackOnly := if isException error then some true else left.rollbackOnly }) := rfl
  rw [entered, simulated]
  unfold Plain.scope
  rcases reference state with ⟨error | ⟨⟩, later⟩
  · simp only [Plain.inside]
    cases isException error <;> simp
  · rfl

/-- Inside a scope the store does what the writes alone do. -/
theorem Body.run_inside (body : Body β δ ε) (base : Thread δ) (depth : Nat) (positive : 0 < depth)
    (state : Plain β δ) :
    body.run (state.inside base depth) =
      ((body.plain state).1, (body.plain state).2.inside base depth) := by
  induction body generalizing depth state with
  | compute step =>
      simp only [run, plain, Plain.inside]
      cases step state.locals <;> rfl
  | call method =>
      simp only [run, plain, Thread.call, Plain.inside, Thread.seen, Option.getD_some]
      rcases method state.locals state.database with ⟨_ | _, _⟩ <;> rfl
  | seq first next firstInside nextInside =>
      simp only [run, plain, Effect.bind_apply, firstInside depth positive state]
      rcases first.plain state with ⟨error | ⟨⟩, later⟩
      · rfl
      · exact nextInside depth positive later
  | choose next nextInside => exact nextInside state.locals depth positive state
  | attempt body handler bodyInside handlerInside =>
      simp only [run, plain, attemptEffect, bodyInside depth positive state]
      rcases body.plain state with ⟨error | ⟨⟩, later⟩
      · exact handlerInside error depth positive later
      · rfl
  | transaction body bodyInside =>
      have deep : (state.inside base depth).2.depth ≠ 0 := Nat.pos_iff_ne_zero.mp positive
      simp only [run, plain, Thread.transaction, if_neg deep]
      apply nested_inside
      exact bodyInside (depth + 1) (Nat.succ_pos depth) state

/-! ### The outermost scope -/

/-- What the outermost scope does once its body has ended as `ended`. -/
def Plain.settle (memory : Bool) (database : δ) (ended : Except ε Unit × Plain β δ) :
    Except ε Unit × β × Thread δ :=
  match ended with
  | (.ok (), later) =>
      if later.failed then
        (.error (runtimeError "nested database mutation failed; transaction rolled back"),
          later.locals, Thread.idle memory database)
      else (.ok (), later.locals, Thread.idle memory later.database)
  | (.error error, later) =>
      (.error error, later.locals,
        if isException error || !memory then Thread.idle memory database
        else { Thread.idle memory database with opened := some later.database })

/-- An outermost scope commits all the writes or none. -/
theorem Body.run_outermost (body : Body β δ ε) (memory : Bool) (locals : β) (database : δ) :
    (Body.transaction body).run (locals, Thread.idle memory database) =
      Plain.settle memory database (body.plain (Plain.start locals database)) := by
  have entered : (Body.transaction body).run (locals, Thread.idle memory database) =
      match body.run ((Plain.start locals database).inside (Thread.idle memory database) 1) with
      | (.ok (), later, left) =>
          if left.rollbackOnly = some true then
            (.error (runtimeError "nested database mutation failed; transaction rolled back"),
              later, left.rollback.release)
          else (.ok (), later, left.commit.release)
      | (.error error, later, left) =>
          (.error error, later,
            if isException error then left.rollback.release else left.release) := rfl
  rw [entered, Body.run_inside body _ 1 Nat.one_pos]
  unfold Plain.settle
  rcases body.plain (Plain.start locals database) with ⟨error | ⟨⟩, later⟩
  · simp only [Plain.inside, Thread.rollback, Thread.release, Thread.idle]
    cases isException error <;> cases memory <;> simp
  · simp only [Plain.inside, Thread.rollback, Thread.commit, Thread.release, Thread.idle,
      Thread.seen]
    by_cases failed : later.failed = true
    · cases memory <;> simp [failed]
    · cases memory <;> simp [failed]

/-! ### All or nothing -/

/-- The outermost scope and everything below it, seen as writes alone. -/
def Body.trace (body : Body β δ ε) (locals : β) (database : δ) : Except ε Unit × Plain β δ :=
  (Body.transaction body).plain (Plain.start locals database)

/-- All the writes are committed when no scope raised; otherwise the database is
the one before, and the outermost scope raises.  Either way the thread is idle
again. -/
structure Body.AllOrNothing (body : Body β δ ε) (memory : Bool) (locals : β) (database : δ) :
    Prop where
  all : (body.trace locals database).2.raised = false →
    (Body.transaction body).run (locals, Thread.idle memory database) =
      (.ok (), (body.trace locals database).2.locals,
        Thread.idle memory (body.trace locals database).2.database)
  nothing : (body.trace locals database).2.raised = true →
    ∃ error later, (Body.transaction body).run (locals, Thread.idle memory database) =
      (.error error, later, Thread.idle memory database)

/-- The store settles every tree of scopes that only `Exception`s leave. -/
theorem nested_transactions_atomic (body : Body β δ ε) (memory : Bool) (locals : β) (database : δ)
    (caught : (body.trace locals database).2.interrupted = false) :
    body.AllOrNothing memory locals database := by
  have settled := body.run_outermost memory locals database
  rcases ended : body.plain (Plain.start locals database) with ⟨error | ⟨⟩, later⟩
  · -- An outermost scope that is left by an exception has raised.
    have traced : body.trace locals database =
        (.error error,
          { later with
            failed := later.failed || isException error
            interrupted := later.interrupted || !isException error }) := by
      simp only [Body.trace, Body.plain, Plain.scope, ended]
    rw [ended] at settled
    simp only [traced, Bool.or_eq_false_iff, Bool.not_eq_false'] at caught
    constructor
    · intro passed
      rw [traced] at passed
      simp [Plain.raised, caught.2] at passed
    · intro _
      refine ⟨error, later.locals, ?_⟩
      rw [settled, Plain.settle, caught.2, Bool.true_or, if_pos rfl]
  · have traced : body.trace locals database = (.ok (), later) := by
      simp only [Body.trace, Body.plain, Plain.scope, ended]
    rw [ended] at settled
    rw [traced] at caught
    constructor
    · intro passed
      rw [traced] at passed ⊢
      have unmarked := (Bool.or_eq_false_iff.mp passed).1
      simp only at unmarked
      rw [settled]
      simp only [Plain.settle, unmarked, Bool.false_eq_true, if_false]
    · intro raised
      rw [traced] at raised
      have marked : later.failed = true := by
        simpa [Plain.raised, show later.interrupted = false from caught] using raised
      refine ⟨runtimeError "nested database mutation failed; transaction rolled back",
        later.locals, ?_⟩
      rw [settled]
      simp only [Plain.settle, marked, if_true]

end Runs

namespace Sample

/-- Exceptions by name. -/
inductive PyException where
  | exception (name : String)
  | exit (name : String)
  deriving DecidableEq

instance : Raisable PyException where
  isException
    | .exception _ => true
    | .exit _ => false
  runtimeError _ := .exception "RuntimeError"
  operationalError _ := .exception "OperationalError"

/-- Two writes, the second in a nested scope that is left by `error` and caught. -/
def swallowed (error : PyException) : Body Unit (List Nat) PyException :=
  .seq (.call fun _ rows => (.ok (), rows ++ [1]))
    (.attempt
      (.transaction <| .seq (.call fun _ rows => (.ok (), rows ++ [2]))
        (.compute fun _ => .error error))
      fun _ => .compute .ok)

theorem nested_transactions_atomic_sample :
    (swallowed (.exception "ValueError")).AllOrNothing false () [] :=
  nested_transactions_atomic (swallowed (.exception "ValueError")) false () [] rfl

/-- An interrupt that leaves a nested scope and is caught above it is committed
over: a scope raised, yet the outermost one returns and its writes stay. -/
theorem interrupt_committed_over :
    ¬ (swallowed (.exit "KeyboardInterrupt")).AllOrNothing false () [] := by
  intro settled
  obtain ⟨error, later, ran⟩ := settled.nothing rfl
  have returned : (Body.transaction (swallowed (.exit "KeyboardInterrupt"))).run
      ((), Thread.idle false []) = (.ok (), (), Thread.idle false [1, 2]) := rfl
  rw [returned] at ran
  cases ran

end Sample

end EgoAgent.Api
