import EgoAgent.Lib.Dict
import EgoAgent.ResearchOs.AgentMemory

/-!
The audit events of the control plane and `iter_task_events`, which streams them.

The stream is a generator: it reads the task, reads a page of events, yields
them one by one and waits.  Anything can happen to the store, and the client
can go away, between any two of these.
-/

namespace EgoAgent.Api

open EgoAgent.ResearchOs (strip isSpace)

/-! ### Cursors -/

section Cursors

variable (u : Unicode)

/-- Decimal digits of any script, with single underscores between them. -/
def intDigits : List Char → Option (List Nat)
  | [] => none
  | [c] => (u.decimal c).map fun digit => [digit]
  | c :: next :: rest =>
      (u.decimal c).bind fun digit =>
        (if next = '_' then intDigits rest else intDigits (next :: rest)).map (digit :: ·)

def intMaxStrDigits : Nat := 4300

def intMagnitude (chars : List Char) : Option Int :=
  (intDigits u chars).bind fun digits =>
    if digits.length ≤ intMaxStrDigits then
      some ((digits.foldl (fun total digit => 10 * total + digit) 0 : Nat) : Int)
    else none

/-- `int(text)`, which is `none` where it raises `ValueError`. -/
def pyInt (text : List Char) : Option Int :=
  match strip text with
  | '-' :: rest => (intMagnitude u rest).map fun magnitude => -magnitude
  | '+' :: rest => intMagnitude u rest
  | chars => intMagnitude u chars

/-- `text.rpartition(separator)`, which is `none` without a separator. -/
def rpartition (separator : Char) : List Char → Option (List Char × List Char)
  | [] => none
  | c :: rest =>
      match rpartition separator rest with
      | some (before, after) => some (c :: before, after)
      | none => if c = separator then some ([], rest) else none

def parseEventCursor (value : Option String) : Option String × Nat :=
  match value with
  | none => (none, 0)
  | some text =>
      match rpartition ':' text.toList with
      | none => (none, 0)
      | some (generation, sequenceText) =>
          if generation = [] then (none, 0)
          else
            match pyInt u sequenceText with
            | none => (none, 0)
            | some sequence =>
                if sequence < 0 then (none, 0)
                else (some (String.ofList generation), sequence.toNat)

end Cursors

/-- `"%s:%s" % (generation, sequence)`. -/
def eventId (generation : String) (sequence : Nat) : String :=
  String.ofList (generation.toList ++ ':' :: Nat.toDigits 10 sequence)

private theorem toNat_of_isDigit {c : Char} (digit : c.isDigit = true) :
    48 ≤ c.toNat ∧ c.toNat ≤ 57 := by
  simp only [Char.isDigit, Bool.and_eq_true, decide_eq_true_eq] at digit
  exact ⟨UInt32.le_iff_toNat_le.mp digit.1, UInt32.le_iff_toNat_le.mp digit.2⟩

theorem intDigits_of_isDigit (u : Unicode) : ∀ (chars : List Char), chars ≠ [] →
    (∀ c ∈ chars, c.isDigit = true) → intDigits u chars = some (chars.map fun c => c.toNat - 48)
  | [], nonempty, _ => absurd rfl nonempty
  | [c], _, all => by
      have digit := all c List.mem_cons_self
      have range := toNat_of_isDigit digit
      simp [intDigits, u.decimal_ascii c (by omega), digit]
  | c :: next :: rest, _, all => by
      have digit := all c List.mem_cons_self
      have range := toNat_of_isDigit digit
      have nextDigit := all next (by simp)
      have plain : next ≠ '_' := by
        rintro rfl
        exact absurd nextDigit (by decide)
      have later := intDigits_of_isDigit u (next :: rest) (by simp)
        (fun c present => all c (List.mem_cons_of_mem _ present))
      simp [intDigits, u.decimal_ascii c (by omega), digit, plain, later]

private theorem strip_of_not_isSpace {chars : List Char}
    (plain : ∀ c ∈ chars, isSpace c = false) : strip chars = chars := by
  have front : ∀ list : List Char, (∀ c ∈ list, isSpace c = false) →
      list.dropWhile isSpace = list := by
    intro list all
    cases list with
    | nil => rfl
    | cons c rest => simp [all c List.mem_cons_self]
  unfold strip ResearchOs.rstrip
  rw [front chars plain, front chars.reverse (fun c present => plain c (by simpa using present)),
    List.reverse_reverse]

private theorem isSpace_of_isDigit {c : Char} (digit : c.isDigit = true) : isSpace c = false := by
  have range := toNat_of_isDigit digit
  simp only [isSpace, Bool.or_eq_false_iff, Bool.and_eq_false_iff, decide_eq_false_iff_not]
  omega

/-- Sequence numbers are SQLite integers. -/
def sqliteMax : Nat := 2 ^ 63 - 1

theorem pyInt_toDigits (u : Unicode) (number : Nat) (small : number ≤ sqliteMax) :
    pyInt u (Nat.toDigits 10 number) = some (number : Int) := by
  have digits : ∀ c ∈ Nat.toDigits 10 number, c.isDigit = true :=
    fun c present => Nat.isDigit_of_mem_toDigits (by decide) (by decide) present
  have short : (Nat.toDigits 10 number).length ≤ intMaxStrDigits := by
    refine (Nat.length_toDigits_le_iff (by decide) (by decide)).mpr ?_
    calc number ≤ 2 ^ 63 - 1 := small
      _ < 10 ^ 19 := by decide
      _ ≤ 10 ^ intMaxStrDigits := Nat.pow_le_pow_right (by decide) (by decide)
  have value : intMagnitude u (Nat.toDigits 10 number) = some (number : Int) := by
    have read := intDigits_of_isDigit u _ Nat.toDigits_ne_nil digits
    have total := Nat.ofDigitChars_ten_toDigits (n := number)
    simp only [intMagnitude, read, Option.bind_some, List.length_map, short, if_true,
      List.foldl_map]
    exact congrArg (fun magnitude : Nat => some (magnitude : Int)) total
  unfold pyInt
  rw [strip_of_not_isSpace (fun c present => isSpace_of_isDigit (digits c present))]
  cases written : Nat.toDigits 10 number with
  | nil => exact absurd written Nat.toDigits_ne_nil
  | cons c rest =>
      have digit := digits c (by rw [written]; exact List.mem_cons_self)
      have unsigned : c ≠ '-' ∧ c ≠ '+' := by
        constructor <;> (rintro rfl; exact absurd digit (by decide))
      rw [written] at value
      split
      · rename_i same
        exact absurd (List.cons.inj same).1 unsigned.1
      · rename_i same
        exact absurd (List.cons.inj same).1 unsigned.2
      · exact value

theorem rpartition_append {separator : Char} (before : List Char) {after : List Char}
    (absent : separator ∉ after) :
    rpartition separator (before ++ separator :: after) = some (before, after) := by
  have none : ∀ chars : List Char, separator ∉ chars → rpartition separator chars = none := by
    intro chars missing
    induction chars with
    | nil => rfl
    | cons c rest ih =>
        simp only [List.mem_cons, not_or] at missing
        simp [rpartition, ih missing.2, Ne.symm missing.1]
  induction before with
  | nil => simp [rpartition, none after absent]
  | cons c rest ih => simp [rpartition, ih]

theorem parseEventCursor_eventId (u : Unicode) {generation : String} (named : generation ≠ "")
    {sequence : Nat} (small : sequence ≤ sqliteMax) :
    parseEventCursor u (some (eventId generation sequence)) = (some generation, sequence) := by
  have absent : ':' ∉ Nat.toDigits 10 sequence := by
    intro present
    exact absurd (Nat.isDigit_of_mem_toDigits (by decide) (by decide) present) (by decide)
  have filled : generation.toList ≠ [] := by simpa using named
  simp [parseEventCursor, eventId, rpartition_append generation.toList absent, filled,
    pyInt_toDigits u sequence small]

/-! ### Audit events -/

structure AuditEvent (φ : Type) where
  sequence : Nat
  id : String
  taskId : String
  generation : String
  eventType : String
  actor : String
  stage : Option String
  payload : Json φ
  previousHash : String
  eventHash : String
  createdAt : String

/-- The table `audit_events`: rows in the order of their `AUTOINCREMENT` key,
and the largest key there has been. -/
structure EventTable (φ : Type) where
  rows : List (AuditEvent φ)
  last : Nat
  increasing : rows.Pairwise fun earlier later => earlier.sequence < later.sequence
  bounded : ∀ event ∈ rows, event.sequence ≤ last
  small : last ≤ sqliteMax

/-- The tables that the stream reads; of a task only its generation. -/
structure EventStore (φ : Type) where
  tasks : Dict String String
  auditEvents : EventTable φ
  named : ∀ taskId generation, tasks.get? taskId = some generation → generation ≠ ""

section Store

variable {φ : Type}

def EventTable.empty : EventTable φ :=
  ⟨[], 0, List.Pairwise.nil, fun _ absent => absurd absent List.not_mem_nil, Nat.zero_le _⟩

def EventTable.insert (table : EventTable φ) (event : Nat → AuditEvent φ)
    (numbered : ∀ sequence, (event sequence).sequence = sequence) (room : table.last < sqliteMax) :
    EventTable φ :=
  { rows := table.rows ++ [event (table.last + 1)]
    last := table.last + 1
    increasing := by
      refine List.pairwise_append.mpr ⟨table.increasing, List.pairwise_singleton _ _, ?_⟩
      intro earlier present later new
      rw [List.mem_singleton.mp new, numbered]
      exact Nat.lt_succ_of_le (table.bounded earlier present)
    bounded := by
      intro other present
      rcases List.mem_append.mp present with old | new
      · exact Nat.le_succ_of_le (table.bounded other old)
      · rw [List.mem_singleton.mp new, numbered]
    small := room }

/-- The events of one stream, in order of sequence. -/
def EventTable.of (table : EventTable φ) (taskId generation : String) : List (AuditEvent φ) :=
  table.rows.filter fun event => event.taskId == taskId && event.generation == generation

def pageLimit : Nat := 1000

def listEvents (taskId generation : String) (afterSequence limit : Nat) (store : EventStore φ) :
    Except ServiceError (List (AuditEvent φ)) :=
  if afterSequence ≤ sqliteMax then
    .ok (((store.auditEvents.of taskId generation).filter fun event =>
      afterSequence < event.sequence).take limit)
  else .error (.other "OverflowError" "Python int too large to convert to SQLite INTEGER")

def getTask (taskId : String) (store : EventStore φ) : Except ServiceError String :=
  expect (.control .notFound "not_found" ("task '" ++ taskId ++ "' was not found") 404)
    (store.tasks.get? taskId)

variable [FloatText φ]

/-- What a caller of `append_event` chooses, with the id and the time that it
takes by itself. -/
structure NewEvent (φ : Type) where
  id : String
  taskId : String
  generation : String
  eventType : String
  actor : String
  stage : Option String
  payload : Json φ
  createdAt : String

def NewEvent.hashPayload (event : NewEvent φ) (previousHash : String) : Json φ :=
  .dict
    [("id", .str event.id), ("task_id", .str event.taskId),
      ("generation", .str event.generation), ("event_type", .str event.eventType),
      ("actor", .str event.actor), ("stage", (event.stage.map Json.str).getD .null),
      ("payload", event.payload), ("previous_hash", .str previousHash),
      ("created_at", .str event.createdAt)]

def NewEvent.row (event : NewEvent φ) (previousHash eventHash : String) (sequence : Nat) :
    AuditEvent φ :=
  { sequence
    id := event.id
    taskId := event.taskId
    generation := event.generation
    eventType := event.eventType
    actor := event.actor
    stage := event.stage
    payload := event.payload.sorted
    previousHash
    eventHash
    createdAt := event.createdAt }

def zeroEventHash : String := String.ofList (List.replicate 64 '0')

/-- `append_event`, one write transaction: a call that raises is rolled back. -/
def appendEvent (sha256 : Bytes → Digest) (event : NewEvent φ) (store : EventStore φ) :
    Except ServiceError (EventStore φ) := do
  let previousHash := (((store.auditEvents.of event.taskId event.generation).getLast?).map
    AuditEvent.eventHash).getD zeroEventHash
  let eventHash ← canonicalSha256 sha256 (event.hashPayload previousHash)
  raiseIf (∃ row ∈ store.auditEvents.rows, row.id = event.id ∨ row.eventHash = eventHash)
    (.other "IntegrityError" "UNIQUE constraint failed")
  if room : store.auditEvents.last < sqliteMax then
    .ok { store with
      auditEvents := store.auditEvents.insert (event.row previousHash eventHash)
        (fun _ => rfl) room }
  else .error (.other "OperationalError" "database or disk is full")

/-- `upsert_seed_task` of a task with a new generation, `"gen_%s" % suffix`. -/
def upsertSeedTask (taskId suffix : String) (store : EventStore φ) : EventStore φ :=
  { store with
    tasks := store.tasks.set taskId ("gen_" ++ suffix)
    named := by
      intro other generation found
      by_cases same : other = taskId
      · subst other
        rw [Dict.get?_set_self] at found
        rw [← Option.some.inj found]
        intro empty
        exact absurd (congrArg String.length empty) (by simp [String.length_append])
      · rw [Dict.get?_set_ne _ _ same] at found
        exact store.named other generation found }

end Store

/-! ### The stream -/

/-- Where the generator stands. -/
inductive StreamPlace (φ : Type) where
  /-- At the head of the loop. -/
  | loop
  /-- The generation is compared; the page is not read. -/
  | fetch
  | page (events : List (AuditEvent φ))
  /-- Waiting for a notification, or asleep. -/
  | pause
  | done

structure TaskStream (φ : Type) where
  generation : String
  sequence : Nat
  yielded : Nat
  follow : Bool
  maxEvents : Option Nat
  place : StreamPlace φ

/-- One chunk with an event: its id and what `_sse` puts into its data.  A
heartbeat is a comment, which a client ignores. -/
structure Chunk (φ : Type) where
  id : String
  taskId : String
  generation : String
  event : AuditEvent φ

section Stream

variable {φ : Type} (u : Unicode) (taskId : String)

/-- `iter_task_events` up to its loop.  `heartbeat_seconds` only sets the
length of a wait. -/
def openStream (cursor : Option String) (afterSequence : Int) (follow : Bool)
    (maxEvents : Option Int) (store : EventStore φ) : Except ServiceError (TaskStream φ) := do
  raiseIf (afterSequence < 0) (.other "ValueError" "after_sequence must be non-negative")
  raiseIf (∃ bound ∈ maxEvents, bound < 1) (.other "ValueError" "max_events must be positive")
  let generation ← getTask taskId store
  let parsed := parseEventCursor u cursor
  .ok
    { generation
      sequence := if parsed.1 = some generation then parsed.2 else afterSequence.toNat
      yielded := 0
      follow
      maxEvents := maxEvents.map Int.toNat
      place := .loop }

def TaskStream.chunk (stream : TaskStream φ) (event : AuditEvent φ) : Chunk φ :=
  { id := eventId stream.generation event.sequence
    taskId
    generation := stream.generation
    event }

/-- Is this event the last one that `max_events` allows? -/
def TaskStream.exhausted (stream : TaskStream φ) : Bool :=
  match stream.maxEvents with
  | none => false
  | some bound => bound ≤ stream.yielded

/-- The stream after yielding `event` with `rest` left in its page. -/
def TaskStream.pass (stream : TaskStream φ) (event : AuditEvent φ) (rest : List (AuditEvent φ)) :
    TaskStream φ :=
  let next := { stream with sequence := event.sequence, yielded := stream.yielded + 1 }
  { next with place := if next.exhausted then .done else .page rest }

/-- One step of the generator, with what it yields. -/
def TaskStream.advance (store : EventStore φ) (stream : TaskStream φ) :
    TaskStream φ × List (Chunk φ) :=
  match stream.place with
  | .loop =>
      match getTask taskId store with
      | .error _ => ({ stream with place := .done }, [])
      | .ok current =>
          if current = stream.generation then ({ stream with place := .fetch }, [])
          else ({ stream with generation := current, sequence := 0, place := .fetch }, [])
  | .fetch =>
      match listEvents taskId stream.generation stream.sequence pageLimit store with
      | .error _ => ({ stream with place := .done }, [])
      | .ok events => ({ stream with place := .page events }, [])
  | .page (event :: rest) => (stream.pass event rest, [stream.chunk taskId event])
  | .page [] => ({ stream with place := if stream.follow then .pause else .done }, [])
  | .pause => ({ stream with place := .loop }, [])
  | .done => (stream, [])

end Stream

end EgoAgent.Api
