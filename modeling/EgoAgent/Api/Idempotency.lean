import EgoAgent.Lib.Dict
import EgoAgent.Api.Provenance

/-!
`_run_idempotent`: a keyed request runs its operation at most once.

The wrapper, the operation and the store each open scopes on one connection.
`Operation` is the shape every service method has: one transaction scope, then
code that raises or returns.
-/

namespace EgoAgent.Api

open Raisable

/-! ### Bodies on a part of the state -/

/-- A component of a state. -/
structure Part (τ σ : Type) where
  get : τ → σ
  put : σ → τ → τ
  get_put : ∀ part whole, get (put part whole) = part
  put_put : ∀ later earlier whole, put later (put earlier whole) = put later whole

section Lift

variable {β δ γ τ ε : Type}

def Body.lift (locals : Part γ β) (database : Part τ δ) : Body β δ ε → Body γ τ ε
  | .compute step => .compute fun frame =>
      (step (locals.get frame)).map fun later => locals.put later frame
  | .call method => .call fun frame whole =>
      ((method (locals.get frame) (database.get whole)).1.map fun later => locals.put later frame,
        database.put (method (locals.get frame) (database.get whole)).2 whole)
  | .seq first next => .seq (first.lift locals database) (next.lift locals database)
  | .choose next => .choose fun frame => (next (locals.get frame)).lift locals database
  | .attempt body handler =>
      .attempt (body.lift locals database) fun error => (handler error).lift locals database
  | .transaction body => .transaction (body.lift locals database)

/-- A state of the part, inside a whole. -/
def Plain.spread (locals : Part γ β) (database : Part τ δ) (frame : γ) (whole : τ)
    (state : Plain β δ) : Plain γ τ :=
  { locals := locals.put state.locals frame
    database := database.put state.database whole
    failed := state.failed
    interrupted := state.interrupted }

/-- A lifted body changes its part and nothing else. -/
theorem Body.plain_lift [Raisable ε] (locals : Part γ β) (database : Part τ δ) (frame : γ)
    (whole : τ) (body : Body β δ ε) (state : Plain β δ) :
    (body.lift locals database).plain (state.spread locals database frame whole) =
      ((body.plain state).1, (body.plain state).2.spread locals database frame whole) := by
  induction body generalizing state with
  | compute step =>
      simp only [lift, plain, Plain.spread, locals.get_put]
      cases step state.locals with
      | error error => rfl
      | ok later => simp only [Except.map, locals.put_put]
  | call method =>
      simp only [lift, plain, Plain.spread, locals.get_put, database.get_put]
      rcases method state.locals state.database with ⟨error | later, written⟩
      · simp only [Except.map, database.put_put]
      · simp only [Except.map, database.put_put, locals.put_put]
  | seq first next firstLift nextLift =>
      simp only [lift, plain, Effect.bind_apply, firstLift state]
      rcases first.plain state with ⟨error | ⟨⟩, later⟩
      · rfl
      · exact nextLift later
  | choose next nextLift =>
      simp only [lift, plain, Plain.spread, locals.get_put]
      exact nextLift state.locals state
  | attempt body handler bodyLift handlerLift =>
      simp only [lift, plain, attemptEffect, bodyLift state]
      rcases body.plain state with ⟨error | ⟨⟩, later⟩
      · exact handlerLift error later
      · rfl
  | transaction body bodyLift =>
      simp only [lift, plain, Plain.scope, bodyLift state]
      rcases body.plain state with ⟨error | ⟨⟩, later⟩
      · rfl
      · rfl

end Lift

/-! ### Requests -/

abbrev Response (φ : Type) := Dict String (Json φ)

/-- A service method: `body` inside `with self.store.transaction()`, then `after`. -/
structure Operation (γ τ φ : Type) where
  locals : γ
  body : Body γ τ ServiceError
  after : γ → Except ServiceError (Response φ)

structure Request (γ τ φ : Type) where
  method : String
  path : String
  key : Option String
  body : Json φ
  operation : Operation γ τ φ
  cacheResponse : Option (Response φ → Response φ)

abbrev Place := String × String × String

/-- Where a request with a key is remembered; an empty key is none. -/
def Request.place {γ τ φ : Type} (request : Request γ τ φ) : Option Place :=
  match request.key with
  | some key => if key = "" then none else some (request.method, request.path, key)
  | none => none

def Request.unkeyed {γ τ φ : Type} (request : Request γ τ φ) : Request γ τ φ :=
  { request with key := none }

def Request.persisted {γ τ φ : Type} (request : Request γ τ φ) (response : Response φ) :
    Response φ :=
  match request.cacheResponse with
  | some cacheResponse => cacheResponse response
  | none => response

/-- `_redact_approval_replay`. -/
def redactApprovalReplay {φ : Type} (response : Response φ) : Response φ :=
  (response.set "approval_token" .null).set "token_notice"
    (.str "One-time token omitted from idempotent replay; request a new approval if it was lost.")

def Response.replayed {φ : Type} (response : Response φ) : Response φ :=
  Dict.set response "idempotent_replay" (.bool true)

structure IdempotencyRow (φ : Type) where
  requestHash : String
  statusCode : Nat
  response : Response φ

structure Database (τ φ : Type) where
  idempotency : Dict Place (IdempotencyRow φ)
  tables : τ

/-- The local variables of `_run_idempotent` and of the operation it runs. -/
structure Frame (γ φ : Type) where
  operation : γ
  cached : Option (Nat × Response φ)
  response : Response φ
  committedError : Option ServiceError

section Wrapper

variable {γ τ φ : Type}

def Frame.start (operation : γ) : Frame γ φ := ⟨operation, none, [], none⟩

def Frame.operationPart : Part (Frame γ φ) γ where
  get := Frame.operation
  put operation frame := { frame with operation }
  get_put _ _ := rfl
  put_put _ _ _ := rfl

def Database.tablesPart : Part (Database τ φ) τ where
  get := Database.tables
  put tables database := { database with tables }
  get_put _ _ := rfl
  put_put _ _ _ := rfl

def idempotencyKeyConflict : ServiceError :=
  conflictError "idempotency_key_conflict"
    "Idempotency key was already used with a different request body"

def getIdempotent (place : Place) (requestHash : String) (database : Database τ φ) :
    Except ServiceError (Option (Nat × Response φ)) :=
  match database.idempotency.get? place with
  | none => .ok none
  | some row =>
      if row.requestHash ≠ requestHash then .error idempotencyKeyConflict
      else .ok (some (row.statusCode, row.response))

/-- The insert fails on a place that is taken; its handler reads the row again. -/
def putIdempotent (place : Place) (requestHash : String) (statusCode : Nat)
    (response : Response φ) (database : Database τ φ) :
    Except ServiceError Unit × Database τ φ :=
  match database.idempotency.get? place with
  | none =>
      (.ok (), { database with
        idempotency := database.idempotency.set place ⟨requestHash, statusCode, response⟩ })
  | some _ => ((getIdempotent place requestHash database).map fun _ => (), database)

def Operation.program (operation : Operation γ τ φ) :
    Body (Frame γ φ) (Database τ φ) ServiceError :=
  .seq (.transaction (operation.body.lift Frame.operationPart Database.tablesPart))
    (.compute fun frame =>
      (operation.after frame.operation).map fun response => { frame with response })

def catchEvidenceGate (error : ServiceError) : Body (Frame γ φ) (Database τ φ) ServiceError :=
  .compute fun frame =>
    if error.code ≠ some evidenceGateFailed then .error error
    else .ok { frame with committedError := some error, response := [] }

def storeResponse (request : Request γ τ φ) (place : Place) (requestHash : String) :
    Body (Frame γ φ) (Database τ φ) ServiceError :=
  .choose fun frame =>
    match frame.committedError with
    | some _ => .compute .ok
    | none =>
        .call fun frame database =>
          ((putIdempotent place requestHash 200 (request.persisted frame.response) database).1.map
              fun _ => frame,
            (putIdempotent place requestHash 200 (request.persisted frame.response) database).2)

/-- What `_run_idempotent` does inside its own scope. -/
def keyedScope (request : Request γ τ φ) (place : Place) (requestHash : String) :
    Body (Frame γ φ) (Database τ φ) ServiceError :=
  .seq
    (.call fun frame database =>
      ((getIdempotent place requestHash database).map fun cached => { frame with cached },
        database))
    (.choose fun frame =>
      match frame.cached with
      | some (_, response) => .compute fun frame => .ok { frame with response := response.replayed }
      | none =>
          .seq (.attempt request.operation.program catchEvidenceGate)
            (storeResponse request place requestHash))

/-- Raise what was committed over. -/
def Frame.finish (frame : Frame γ φ) : Except ServiceError (Frame γ φ) :=
  match frame.committedError with
  | some error => .error error
  | none => .ok frame

variable [FloatText φ] (sha256 : Bytes → Digest)

def runIdempotent (request : Request γ τ φ) : Body (Frame γ φ) (Database τ φ) ServiceError :=
  match request.place with
  | none => request.operation.program
  | some place =>
      match canonicalSha256 sha256 request.body with
      | .error error => .compute fun _ => .error error
      | .ok requestHash =>
          .seq (.transaction (keyedScope request place requestHash)) (.compute Frame.finish)

/-- A request on an idle thread: its response and the database it leaves. -/
def serve (memory : Bool) (request : Request γ τ φ) (database : Database τ φ) :
    Except ServiceError (Response φ) × Database τ φ :=
  let (outcome, frame, thread) := (runIdempotent sha256 request).run
    (Frame.start request.operation.locals, Thread.idle memory database)
  (outcome.map fun _ => frame.response, thread.database)

/-! ### One request -/

def nestedFailure : ServiceError :=
  .other "RuntimeError" "nested database mutation failed; transaction rolled back"

/-- What an operation comes to when its own scope is the outermost one. -/
def Operation.settled (operation : Operation γ τ φ) (tables : τ) :
    Except ServiceError (Response φ) × τ :=
  match operation.body.plain (Plain.start operation.locals tables) with
  | (.error error, _) => (.error error, tables)
  | (.ok (), later) =>
      if later.failed then (.error nestedFailure, tables)
      else (operation.after later.locals, later.database)

omit [FloatText φ] in
/-- The operation's scope, below or outside of the wrapper's. -/
private theorem lifted_plain (operation : Operation γ τ φ) (frame : Frame γ φ)
    (ready : frame.operation = operation.locals) (database : Database τ φ) :
    (operation.body.lift Frame.operationPart Database.tablesPart).plain
        (Plain.start frame database) =
      ((operation.body.plain (Plain.start operation.locals database.tables)).1,
        (operation.body.plain (Plain.start operation.locals database.tables)).2.spread
          Frame.operationPart Database.tablesPart frame database) := by
  rw [← Body.plain_lift, ← ready]
  rfl

variable (memory : Bool)

theorem serve_unkeyed (request : Request γ τ φ) (database : Database τ φ)
    (unkeyed : request.place = none) :
    serve sha256 memory request database =
      ((request.operation.settled database.tables).1,
        { database with tables := (request.operation.settled database.tables).2 }) := by
  unfold serve runIdempotent
  rw [unkeyed]
  have settled := (request.operation.body.lift Frame.operationPart Database.tablesPart).run_outermost
    memory (Frame.start request.operation.locals : Frame γ φ) database
  have opened : request.operation.program.run
        ((Frame.start request.operation.locals : Frame γ φ), Thread.idle memory database) =
      ((Body.transaction
          (request.operation.body.lift Frame.operationPart Database.tablesPart)).run >>=
        fun _ => (Body.compute fun frame => (request.operation.after frame.operation).map
          fun response => { frame with response }).run)
        (Frame.start request.operation.locals, Thread.idle memory database) := rfl
  rw [lifted_plain request.operation _ rfl] at settled
  simp only [opened, Effect.bind_apply, settled]
  unfold Operation.settled
  rcases request.operation.body.plain (Plain.start request.operation.locals database.tables) with
    ⟨error | ⟨⟩, later⟩
  · rfl
  · by_cases failed : later.failed = true
    · simp only [Plain.settle, Plain.spread, failed, if_true]
      rfl
    · simp only [Plain.settle, Plain.spread, failed, Bool.false_eq_true, if_false, Body.run,
        Frame.operationPart]
      cases request.operation.after later.locals <;> rfl

/-- A request whose body has no canonical text raises before it reaches the store. -/
theorem serve_unhashable (request : Request γ τ φ) (database : Database τ φ)
    {place : Place} {error : ServiceError} (keyed : request.place = some place)
    (unhashable : canonicalSha256 sha256 request.body = .error error) :
    serve sha256 memory request database = (.error error, database) := by
  unfold serve runIdempotent
  rw [keyed]
  simp only [unhashable]
  rfl

variable {requestHash : String}

theorem serve_keyed (request : Request γ τ φ) (database : Database τ φ)
    {place : Place} (keyed : request.place = some place)
    (hashed : canonicalSha256 sha256 request.body = .ok requestHash)
    {ended : Except ServiceError Unit × Plain (Frame γ φ) (Database τ φ)}
    (inner : (keyedScope request place requestHash).plain
      (Plain.start (Frame.start request.operation.locals) database) = ended) :
    serve sha256 memory request database =
      match Plain.settle memory database ended with
      | (.ok (), frame, thread) =>
          (frame.finish.map fun _ => frame.response, thread.database)
      | (.error error, _, thread) => (.error error, thread.database) := by
  unfold serve runIdempotent
  rw [keyed]
  simp only [hashed]
  have settled := (keyedScope request place requestHash).run_outermost memory
    (Frame.start request.operation.locals : Frame γ φ) database
  rw [inner] at settled
  have opened : (Body.seq (.transaction (keyedScope request place requestHash))
      (.compute Frame.finish)).run
        ((Frame.start request.operation.locals : Frame γ φ), Thread.idle memory database) =
      ((Body.transaction (keyedScope request place requestHash)).run >>=
        fun _ => (Body.compute Frame.finish).run)
        (Frame.start request.operation.locals, Thread.idle memory database) := rfl
  rw [opened, Effect.bind_apply, settled]
  rcases Plain.settle memory database ended with ⟨error | ⟨⟩, frame, thread⟩
  · rfl
  · simp only [Body.run, Frame.finish]
    cases frame.committedError <;> rfl

omit [FloatText φ] in
private theorem keyedScope_plain (request : Request γ τ φ) (place : Place) (requestHash : String)
    (database : Database τ φ) :
    (keyedScope request place requestHash).plain
        (Plain.start (Frame.start request.operation.locals) database) =
      match getIdempotent place requestHash database with
      | .error error =>
          (.error error, Plain.start (Frame.start request.operation.locals) database)
      | .ok (some (statusCode, response)) =>
          (.ok (), Plain.start
            { (Frame.start request.operation.locals : Frame γ φ) with
              cached := some (statusCode, response), response := response.replayed } database)
      | .ok none =>
          (Body.seq (.attempt request.operation.program catchEvidenceGate)
            (storeResponse request place requestHash)).plain
              (Plain.start (Frame.start request.operation.locals) database) := by
  rw [keyedScope, Body.plain_seq, Body.plain_call]
  simp only [Plain.start]
  rcases getIdempotent place requestHash database with error | _ | ⟨statusCode, response⟩ <;> rfl

variable {row : IdempotencyRow φ}

/-- A place that is taken answers from its row. -/
theorem serve_known (request : Request γ τ φ) (database : Database τ φ) {place : Place}
    (keyed : request.place = some place)
    (hashed : canonicalSha256 sha256 request.body = .ok requestHash)
    (known : database.idempotency.get? place = some row) :
    serve sha256 memory request database =
      (if row.requestHash = requestHash then .ok row.response.replayed
        else .error idempotencyKeyConflict, database) := by
  rw [serve_keyed sha256 memory request database keyed hashed (keyedScope_plain _ _ _ _)]
  by_cases same : row.requestHash = requestHash
  · have found : getIdempotent place requestHash database =
        .ok (some (row.statusCode, row.response)) := by
      simp [getIdempotent, known, same]
    rw [found, if_pos same]
    rfl
  · have refused : getIdempotent place requestHash database = .error idempotencyKeyConflict := by
      simp [getIdempotent, known, same]
    rw [refused, if_neg same]
    rfl

omit [FloatText φ] in
/-- Below the wrapper an operation that raises in its scope marks the transaction. -/
private theorem program_plain (operation : Operation γ τ φ) (database : Database τ φ) :
    operation.program.plain (Plain.start (Frame.start operation.locals) database) =
      match operation.body.plain (Plain.start operation.locals database.tables) with
      | (.error error, later) =>
          (.error error,
            { locals := { (Frame.start later.locals : Frame γ φ) with operation := later.locals }
              database := { database with tables := later.database }
              failed := true
              interrupted := later.interrupted })
      | (.ok (), later) =>
          ((operation.after later.locals).map fun _ => (),
            { locals := { (Frame.start later.locals : Frame γ φ) with
                response := match operation.after later.locals with
                  | .ok response => response
                  | .error _ => [] }
              database := { database with tables := later.database }
              failed := later.failed
              interrupted := later.interrupted }) := by
  have lifted := lifted_plain operation (Frame.start operation.locals : Frame γ φ) rfl database
  rw [Operation.program, Body.plain_seq, Body.plain_transaction, lifted]
  rcases operation.body.plain (Plain.start operation.locals database.tables) with
    ⟨error | ⟨⟩, later⟩
  · simp only [Plain.spread, Frame.operationPart, Database.tablesPart, isException, Bool.or_true,
      Bool.not_true, Bool.or_false]
    rfl
  · simp only [Body.plain_compute, Plain.spread, Frame.operationPart, Database.tablesPart]
    cases operation.after later.locals <;> rfl

omit [FloatText φ] in
private theorem storeResponse_plain (request : Request γ τ φ) (place : Place) (requestHash : String)
    (state : Plain (Frame γ φ) (Database τ φ)) (returned : state.locals.committedError = none)
    (absent : state.database.idempotency.get? place = none) :
    (storeResponse request place requestHash).plain state =
      (.ok (),
        { state with
          database :=
            { state.database with
              idempotency := state.database.idempotency.set place
                ⟨requestHash, 200, request.persisted state.locals.response⟩ } }) := by
  rw [storeResponse, Body.plain_choose, returned]
  simp only [Body.plain_call, putIdempotent, absent, Except.map]

/-- A new place: the operation's success is stored with its response, an
evidence-gate failure keeps what the operation alone keeps, any other failure
keeps nothing. -/
theorem serve_new (request : Request γ τ φ) (database : Database τ φ)
    {place : Place} (keyed : request.place = some place)
    (hashed : canonicalSha256 sha256 request.body = .ok requestHash)
    (absent : database.idempotency.get? place = none) :
    match request.operation.settled database.tables with
    | (.ok response, tables) =>
        serve sha256 memory request database =
          (.ok response,
            { idempotency := database.idempotency.set place
                ⟨requestHash, 200, request.persisted response⟩
              tables })
    | (.error error, tables) =>
        ∃ raised, serve sha256 memory request database =
          (.error raised,
            if error.code = some evidenceGateFailed then { database with tables } else database) := by
  have missing : getIdempotent place requestHash database = .ok none := by
    simp [getIdempotent, absent]
  have served := serve_keyed sha256 memory request database keyed hashed
    (keyedScope_plain request place requestHash database)
  rw [missing] at served
  simp only [Body.plain_seq, Body.plain_attempt, program_plain] at served
  rcases ended : request.operation.body.plain
    (Plain.start request.operation.locals database.tables) with ⟨error | ⟨⟩, later⟩
  · -- Raised in the operation's scope: the transaction is marked whatever the wrapper does.
    have settled : request.operation.settled database.tables = (.error error, database.tables) := by
      simp only [Operation.settled, ended]
    rw [ended] at served
    rw [settled]
    by_cases gate : error.code = some evidenceGateFailed
    · refine ⟨nestedFailure, ?_⟩
      rw [served, if_pos gate]
      simp only [catchEvidenceGate, Body.plain_compute, gate, ne_eq, not_true, if_false]
      rfl
    · refine ⟨error, ?_⟩
      rw [served, if_neg gate]
      simp only [catchEvidenceGate, Body.plain_compute, gate, ne_eq, not_false_eq_true, if_true]
      rfl
  · rw [ended] at served
    rcases returned : request.operation.after later.locals with error | response
    · by_cases gate : error.code = some evidenceGateFailed
      · -- Blocked after the scope: what the scope wrote is committed over the error.
        simp only [returned, Except.map, catchEvidenceGate, Body.plain_compute, gate, ne_eq,
          not_true, if_false, storeResponse, Body.plain_choose] at served
        by_cases failed : later.failed = true
        · have settled : request.operation.settled database.tables =
              (.error nestedFailure, database.tables) := by
            simp only [Operation.settled, ended, failed, if_true]
          rw [settled]
          refine ⟨nestedFailure, ?_⟩
          rw [served, Plain.settle]
          simp only [failed, if_true]
          rfl
        · have settled : request.operation.settled database.tables =
              (.error error, later.database) := by
            simp only [Operation.settled, ended, failed, returned, Bool.false_eq_true, if_false]
          rw [settled]
          refine ⟨error, ?_⟩
          rw [served, Plain.settle, if_pos gate]
          simp only [failed, Bool.false_eq_true, if_false]
          rfl
      · simp only [returned, Except.map, catchEvidenceGate, Body.plain_compute, gate, ne_eq,
          not_false_eq_true, if_true] at served
        by_cases failed : later.failed = true
        · have settled : request.operation.settled database.tables =
              (.error nestedFailure, database.tables) := by
            simp only [Operation.settled, ended, failed, if_true]
          rw [settled]
          exact ⟨error, served⟩
        · have settled : request.operation.settled database.tables =
              (.error error, later.database) := by
            simp only [Operation.settled, ended, failed, returned, Bool.false_eq_true, if_false]
          rw [settled]
          refine ⟨error, ?_⟩
          rw [served, if_neg gate]
          rfl
    · simp only [returned, Except.map] at served
      rw [storeResponse_plain request place requestHash _ rfl absent] at served
      by_cases failed : later.failed = true
      · have settled : request.operation.settled database.tables =
            (.error nestedFailure, database.tables) := by
          simp only [Operation.settled, ended, failed, if_true]
        rw [settled]
        refine ⟨nestedFailure, ?_⟩
        rw [served, Plain.settle]
        simp only [failed, if_true]
        rfl
      · have settled : request.operation.settled database.tables =
            (.ok response, later.database) := by
          simp only [Operation.settled, ended, failed, returned, Bool.false_eq_true, if_false]
        rw [settled]
        rw [served, Plain.settle]
        simp only [failed, Bool.false_eq_true, if_false]
        rfl

/-! ### Runs -/

/-- A request, or any other write to the service's tables. -/
inductive Event (γ τ φ : Type) where
  | request (call : Request γ τ φ)
  | mutation (update : τ → τ)

def Event.apply (memory : Bool) (database : Database τ φ) : Event γ τ φ → Database τ φ
  | .request call => (serve sha256 memory call database).2
  | .mutation update => { database with tables := update database.tables }

def history (memory : Bool) (start : Database τ φ) (events : List (Event γ τ φ)) : Database τ φ :=
  events.foldl (Event.apply sha256 memory) start

/-- No event changes a row once it is there. -/
theorem Event.keeps_row (database : Database τ φ) (event : Event γ τ φ)
    {place : Place} (known : database.idempotency.get? place = some row) :
    (event.apply sha256 memory database).idempotency.get? place = some row := by
  cases event with
  | mutation update => exact known
  | request call =>
      simp only [Event.apply]
      rcases keyed : call.place with _ | used
      · rw [serve_unkeyed sha256 memory call database keyed]
        exact known
      · rcases hashed : canonicalSha256 sha256 call.body with error | requestHash
        · rw [serve_unhashable sha256 memory call database keyed hashed]
          exact known
        · rcases taken : database.idempotency.get? used with _ | other
          · have different : place ≠ used := by
              intro same
              rw [same, taken] at known
              cases known
            have served := serve_new sha256 memory call database keyed hashed taken
            rcases settled : call.operation.settled database.tables with
              ⟨error | response, tables⟩ <;> rw [settled] at served
            · obtain ⟨raised, ran⟩ := served
              rw [ran]
              by_cases gate : error.code = some evidenceGateFailed
              · rw [if_pos gate]
                exact known
              · rw [if_neg gate]
                exact known
            · simp only at served
              rw [served]
              exact (Dict.get?_set_ne _ _ different).trans known
          · rw [serve_known sha256 memory call database keyed hashed taken]
            exact known

theorem history_keeps_row (database : Database τ φ) (events : List (Event γ τ φ))
    {place : Place} (known : database.idempotency.get? place = some row) :
    (history sha256 memory database events).idempotency.get? place = some row := by
  induction events generalizing database with
  | nil => exact known
  | cons event rest ih => exact ih _ (event.keeps_row sha256 memory database known)

theorem history_append (start : Database τ φ) (before : List (Event γ τ φ))
    (event : Event γ τ φ) (between : List (Event γ τ φ)) :
    history sha256 memory start (before ++ event :: between) =
      history sha256 memory
        (event.apply sha256 memory (history sha256 memory start before)) between := by
  unfold history
  rw [List.foldl_append, List.foldl_cons]

/-- A keyed request that succeeds leaves a row for its body's hash. -/
theorem serve_remembers (request : Request γ τ φ) (database : Database τ φ)
    {place : Place} (keyed : request.place = some place) {response : Response φ}
    (succeeded : (serve sha256 memory request database).1 = .ok response) :
    ∃ row, (serve sha256 memory request database).2.idempotency.get? place = some row ∧
      canonicalSha256 sha256 request.body = .ok row.requestHash ∧
      (database.idempotency.get? place = none → row.response = request.persisted response) := by
  rcases hashed : canonicalSha256 sha256 request.body with error | requestHash
  · rw [serve_unhashable sha256 memory request database keyed hashed] at succeeded
    cases succeeded
  · rcases taken : database.idempotency.get? place with _ | row
    · have served := serve_new sha256 memory request database keyed hashed taken
      rcases settled : request.operation.settled database.tables with
        ⟨error | returned, tables⟩ <;> rw [settled] at served
      · obtain ⟨raised, ran⟩ := served
        rw [ran] at succeeded
        cases succeeded
      · simp only at served
        rw [served] at succeeded ⊢
        cases succeeded
        exact ⟨_, Dict.get?_set_self _ _ _, rfl, fun _ => rfl⟩
    · have served := serve_known sha256 memory request database keyed hashed taken
      rw [served] at succeeded ⊢
      by_cases same : row.requestHash = requestHash
      · refine ⟨row, taken, by rw [same], ?_⟩
        intro absent
        cases absent
      · rw [if_neg same] at succeeded
        cases succeeded

/-! ### Effects at most once -/

/-- Different canonical texts of the two bodies have different hashes. -/
def NoCollision (first next : Json φ) : Prop :=
  ∀ left right, canonicalJson first = .ok left → canonicalJson next = .ok right →
    sha256 (utf8Encode left) = sha256 (utf8Encode right) → left = right

theorem canonicalSha256_eq_ok (body : Json φ) (hash : String) :
    canonicalSha256 sha256 body = .ok hash ↔
      ∃ text, canonicalJson body = .ok text ∧ (sha256 (utf8Encode text)).labelled "" = hash := by
  unfold canonicalSha256
  cases canonicalJson body with
  | error error => simp [Except.map]
  | ok text => simp [Except.map]

def evidenceBlocked : Except ServiceError (Response φ) → Bool
  | .error error => error.code = some evidenceGateFailed
  | .ok _ => false

/-- What a place that a request has succeeded at does to a later request. -/
structure Answers (memory : Bool) (later : Database τ φ) (first next : Request γ τ φ)
    (stored : Response φ) : Prop where
  same : canonicalJson next.body = canonicalJson first.body →
    serve sha256 memory next later = (.ok stored.replayed, later)
  different : ∀ text, canonicalJson next.body = .ok text →
    canonicalJson next.body ≠ canonicalJson first.body →
    serve sha256 memory next later = (.error idempotencyKeyConflict, later)

/-- In every run a place answers for ever from the first success at it, and a
failed request leaves nothing but what a blocked gate also leaves without a key. -/
theorem keyed_requests_take_effect_once (memory : Bool) (start : Database τ φ)
    (before between : List (Event γ τ φ)) (first next : Request γ τ φ) {place : Place}
    (firstKeyed : first.place = some place) (nextKeyed : next.place = some place)
    (noCollision : NoCollision sha256 first.body next.body) :
    (∀ response, (serve sha256 memory first (history sha256 memory start before)).1 = .ok response →
      ∃ stored,
        ((history sha256 memory start before).idempotency.get? place = none →
          stored = first.persisted response) ∧
        Answers sha256 memory (history sha256 memory start (before ++ .request first :: between))
          first next stored) ∧
    (∀ text, canonicalJson first.body = .ok text →
      (history sha256 memory start before).idempotency.get? place = none →
      ∀ error, (serve sha256 memory first (history sha256 memory start before)).1 = .error error →
        (serve sha256 memory first (history sha256 memory start before)).2 =
          if evidenceBlocked
              (serve sha256 memory first.unkeyed (history sha256 memory start before)).1 then
            (serve sha256 memory first.unkeyed (history sha256 memory start before)).2
          else history sha256 memory start before) ∧
    (∀ error, canonicalJson first.body = .error error →
      serve sha256 memory first (history sha256 memory start before) =
        (.error error, history sha256 memory start before)) := by
  generalize reached : history sha256 memory start before = earlier
  refine ⟨?_, ?_, ?_⟩
  · intro response succeeded
    obtain ⟨row, known, hashed, persisted⟩ :=
      serve_remembers sha256 memory first earlier firstKeyed succeeded
    obtain ⟨firstText, firstEq, firstHash⟩ := (canonicalSha256_eq_ok sha256 _ _).mp hashed
    have kept : (history sha256 memory start
        (before ++ .request first :: between)).idempotency.get? place = some row := by
      rw [history_append, reached]
      exact history_keeps_row sha256 memory _ between known
    refine ⟨row.response, persisted, ?_, ?_⟩
    · intro same
      have rehashed : canonicalSha256 sha256 next.body = .ok row.requestHash := by
        rw [canonicalSha256, same]
        exact hashed
      rw [serve_known sha256 memory next _ nextKeyed rehashed kept, if_pos rfl]
    · intro text nextEq different
      have rehashed := (canonicalSha256_eq_ok sha256 next.body _).mpr ⟨text, nextEq, rfl⟩
      have unequal : row.requestHash ≠ (sha256 (utf8Encode text)).labelled "" := by
        intro same
        apply different
        rw [firstEq, nextEq]
        have digests := Digest.labelled_injective "" (firstHash.trans same)
        rw [noCollision firstText text firstEq nextEq digests]
      rw [serve_known sha256 memory next _ nextKeyed rehashed kept, if_neg unequal]
  · intro text firstEq absent error failed
    have hashed := (canonicalSha256_eq_ok sha256 first.body _).mpr ⟨text, firstEq, rfl⟩
    have served := serve_new sha256 memory first earlier firstKeyed hashed absent
    have alone := serve_unkeyed sha256 memory first.unkeyed earlier rfl
    have operation : first.unkeyed.operation = first.operation := rfl
    rw [operation] at alone
    rw [alone]
    rcases settled : first.operation.settled earlier.tables with ⟨raised | response, tables⟩ <;>
      rw [settled] at served
    · obtain ⟨_, ran⟩ := served
      rw [ran]
      simp [evidenceBlocked]
    · simp only at served
      rw [served] at failed
      cases failed
  · intro error unhashable
    apply serve_unhashable sha256 memory first earlier firstKeyed
    simp only [canonicalSha256, unhashable, Except.map]

end Wrapper

/-! ### advance -/

/-- The local variables of `advance`: those of its transition and the error it
holds back. -/
structure Advance (γ : Type) where
  inner : γ
  blockedError : Option ServiceError

section Advance

variable {γ τ φ : Type}

def Advance.innerPart : Part (Advance γ) γ where
  get := Advance.inner
  put inner frame := { frame with inner }
  get_put _ _ := rfl
  put_put _ _ _ := rfl

def Part.whole : Part τ τ := ⟨id, fun part _ => part, fun _ _ => rfl, fun _ _ _ => rfl⟩

/-- A blocked gate is caught inside the scope and raised after it. -/
def advance (start : γ) (transition : Body γ τ ServiceError) (response : γ → Response φ) :
    Operation (Advance γ) τ φ where
  locals := ⟨start, none⟩
  body :=
    .attempt (transition.lift Advance.innerPart Part.whole) fun error =>
      .compute fun frame =>
        match error with
        | .control .conflict code _ _ =>
            if code ≠ evidenceGateFailed then .error error
            else .ok { frame with blockedError := some error }
        | _ => .error error
  after frame :=
    match frame.blockedError with
    | some error => .error error
    | none => .ok (response frame.inner)

end Advance

namespace Sample

inductive Double where
  | finite (number : Int)
  | nan

instance : FloatText Double where
  isFinite
    | .finite _ => true
    | .nan => false
  repr
    | .finite number => numeral number ++ ['.', '0']
    | .nan => ['N', 'a', 'N']

/-- A polynomial over the bytes. -/
def byteSum (bytes : Bytes) : Digest :=
  BitVec.ofNat 256 (bytes.foldl (fun sum byte => sum * 257 + byte.toNat + 1) 0)

/-- `POST /api/v1/tasks` for a goal with one threshold. -/
def createTask (threshold : Double) : Request Unit (List Nat) Double where
  method := "POST"
  path := "/api/v1/tasks"
  key := some "key-0001"
  body := .dict [("threshold", .float threshold)]
  operation := ⟨(), .call fun _ rows => (.ok (), rows ++ [1]), fun _ => .ok [("created", .bool true)]⟩
  cacheResponse := none

def taskPlace : Place := ("POST", "/api/v1/tasks", "key-0001")

theorem keyed_requests_take_effect_once_sample :
    ∃ stored, Answers byteSum false
      (history byteSum false ⟨[], []⟩ ([] ++ .request (createTask (.finite 1)) :: []))
      (createTask (.finite 1)) (createTask (.finite 1)) stored := by
  have once := keyed_requests_take_effect_once byteSum false ⟨[], []⟩ [] []
    (createTask (.finite 1)) (createTask (.finite 1)) (rfl : _ = some taskPlace) rfl
    (fun left right leftEq rightEq _ => Except.ok.inj (leftEq.symm.trans rightEq))
  obtain ⟨stored, _, answers⟩ := once.1 [("created", .bool true)] rfl
  exact ⟨stored, answers⟩

/-- A body with a NaN has no canonical text: under a key that has succeeded it
raises ValueError, not the conflict. -/
theorem nan_body_raises_no_conflict :
    (serve byteSum false (createTask (.finite 1)) ⟨[], []⟩).1 = .ok [("created", .bool true)] ∧
      (createTask .nan).body ≠ (createTask (.finite 1)).body ∧
      (serve byteSum false (createTask .nan)
        (serve byteSum false (createTask (.finite 1)) ⟨[], []⟩).2).1 ≠
          .error idempotencyKeyConflict := by
  refine ⟨rfl, ?_, ?_⟩
  · intro same
    simp [createTask] at same
  · rw [serve_unhashable byteSum false (createTask .nan) _ (rfl : _ = some taskPlace) rfl]
    simp [idempotencyKeyConflict, conflictError]

end Sample

end EgoAgent.Api
