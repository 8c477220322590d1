import EgoAgent.Api.EventStream

/-!
What a client of the event stream receives, over any number of connections.
-/

namespace EgoAgent.Api

/-! ### Sessions -/

/-- The store, the open connection and the client.  `opened` keeps, for the
statements only, at which position of which generation a connection began to
read. -/
structure Session (φ : Type) where
  store : EventStore φ
  stream : Option (TaskStream φ)
  wire : List (Chunk φ)
  received : List (Chunk φ)
  opened : List (String × Nat)

inductive Action (φ : Type) where
  | append (event : NewEvent φ)
  | reset (taskId suffix : String)
  | connect (cursor : Option String) (afterSequence : Int) (follow : Bool) (maxEvents : Option Int)
  | advance
  | receive
  | disconnect

section Sessions

variable {φ : Type} [FloatText φ] (u : Unicode) (sha256 : Bytes → Digest) (taskId : String)

def Session.start (store : EventStore φ) : Session φ := ⟨store, none, [], [], []⟩

def Session.sent (session : Session φ) : List (Chunk φ) := session.received ++ session.wire

/-- A generation is new if no event carries it. -/
def EventStore.unused (store : EventStore φ) (task generation : String) : Prop :=
  store.auditEvents.of task generation = []

instance (store : EventStore φ) (task generation : String) :
    Decidable (store.unused task generation) :=
  decidable_of_iff ((store.auditEvents.of task generation).isEmpty = true)
    (by simp [EventStore.unused])

/-- A client that has received an event passes the last one's id. -/
def Session.resumes (session : Session φ) (cursor : Option String) : Prop :=
  ∀ chunk ∈ session.received.getLast?, cursor = some chunk.id

instance (session : Session φ) (cursor : Option String) : Decidable (session.resumes cursor) := by
  unfold Session.resumes
  infer_instance

def Session.step (session : Session φ) : Action φ → Session φ
  | .append event =>
      match appendEvent sha256 event session.store with
      | .error _ => session
      | .ok store => { session with store }
  | .reset task suffix =>
      if session.store.unused task ("gen_" ++ suffix) then
        { session with store := upsertSeedTask task suffix session.store }
      else session
  | .connect cursor afterSequence follow maxEvents =>
      if session.stream.isNone ∧ session.resumes cursor then
        match openStream u taskId cursor afterSequence follow maxEvents session.store with
        | .error _ => session
        | .ok stream =>
            { session with
              stream := some stream
              opened := (stream.generation, stream.sequence) :: session.opened }
      else session
  | .advance =>
      match session.stream with
      | none => session
      | some stream =>
          let moved := stream.advance taskId session.store
          { session with
            stream := some moved.1
            wire := session.wire ++ moved.2
            opened :=
              if moved.1.generation = stream.generation then session.opened
              else (moved.1.generation, moved.1.sequence) :: session.opened }
  | .receive =>
      match session.wire with
      | [] => session
      | chunk :: rest => { session with wire := rest, received := session.received ++ [chunk] }
  | .disconnect => { session with stream := none, wire := [] }

def Session.run (session : Session φ) (actions : List (Action φ)) : Session φ :=
  actions.foldl (Session.step u sha256 taskId) session

end Sessions

/-! ### Streams of events -/

section Streams

variable {φ : Type} (taskId : String)

/-- The events of a generation after a position. -/
def EventStore.after (store : EventStore φ) (generation : String) (position : Nat) :
    List (AuditEvent φ) :=
  (store.auditEvents.of taskId generation).filter fun event => position < event.sequence

def eventsOf (generation : String) (chunks : List (Chunk φ)) : List (AuditEvent φ) :=
  (chunks.filter fun chunk => chunk.generation == generation).map Chunk.event

/-- The position of a reader that began at `start` and has read `events`. -/
def positionAfter (start : Nat) (events : List (AuditEvent φ)) : Nat :=
  (events.getLast?.map AuditEvent.sequence).getD start

variable (store : EventStore φ)

theorem EventTable.of_increasing (generation : String) :
    (store.auditEvents.of taskId generation).Pairwise
      fun earlier later => earlier.sequence < later.sequence :=
  store.auditEvents.increasing.sublist List.filter_sublist

theorem EventStore.after_increasing (generation : String) (position : Nat) :
    (store.after taskId generation position).Pairwise
      fun earlier later => earlier.sequence < later.sequence :=
  (EventTable.of_increasing taskId store generation).sublist List.filter_sublist

theorem positionAfter_append (start : Nat) (events : List (AuditEvent φ)) (event : AuditEvent φ) :
    positionAfter start (events ++ [event]) = event.sequence := by
  simp [positionAfter]

/-- What is after the start is what has been read, then what is after the
position reached. -/
theorem EventStore.after_eq_append {generation : String} {start : Nat}
    {events : List (AuditEvent φ)} (read : events <+: store.after taskId generation start) :
    store.after taskId generation start =
      events ++ store.after taskId generation (positionAfter start events) := by
  rcases List.eq_nil_or_concat' events with rfl | ⟨earlier, event, rfl⟩
  · rfl
  rw [positionAfter_append]
  obtain ⟨rest, whole⟩ := read
  have later : start < event.sequence := by
    have present : event ∈ store.after taskId generation start := by
      rw [← whole]
      simp
    simpa using (List.mem_filter.mp present).2
  have sorted := store.after_increasing taskId generation start
  rw [← whole, List.pairwise_append, List.pairwise_append] at sorted
  obtain ⟨⟨_, _, before⟩, _, beyond⟩ := sorted
  have narrowed : store.after taskId generation event.sequence =
      (store.after taskId generation start).filter fun other =>
        event.sequence < other.sequence := by
    unfold EventStore.after
    rw [List.filter_filter]
    refine List.filter_congr fun other _ => ?_
    by_cases past : event.sequence < other.sequence
    · simp [past, Nat.lt_trans later past]
    · simp [past]
  rw [narrowed, ← whole, List.filter_append, List.filter_append]
  have readAll : earlier.filter (fun other => event.sequence < other.sequence) = [] := by
    refine List.filter_eq_nil_iff.mpr fun other present => ?_
    have less := before other present event List.mem_cons_self
    simp only [decide_eq_true_eq]
    omega
  have unread : rest.filter (fun other => event.sequence < other.sequence) = rest := by
    refine List.filter_eq_self.mpr fun other present => ?_
    exact decide_eq_true (beyond event (by simp) other present)
  rw [readAll, unread]
  simp

/-- A reader that takes the next event stands right after it. -/
theorem EventStore.after_step {generation : String} {start : Nat}
    {events rest : List (AuditEvent φ)} {event : AuditEvent φ}
    (read : events <+: store.after taskId generation start)
    (next : event :: rest <+: store.after taskId generation (positionAfter start events)) :
    events ++ [event] <+: store.after taskId generation start ∧
      rest <+: store.after taskId generation event.sequence := by
  have whole := store.after_eq_append taskId read
  obtain ⟨beyond, more⟩ := next
  have longer : events ++ [event] <+: store.after taskId generation start :=
    ⟨rest ++ beyond, by rw [whole, ← more]; simp⟩
  refine ⟨longer, beyond, ?_⟩
  have again := store.after_eq_append taskId longer
  rw [whole, ← more, positionAfter_append, List.append_assoc] at again
  have tails := List.append_cancel_left again
  exact (List.cons.inj tails).2

end Streams

/-! ### Order of generations -/

section Order

variable {φ : Type}

/-- The events of each generation come in one block. -/
def Blocks (chunks : List (Chunk φ)) : Prop :=
  ∀ first middle last, [first, middle, last].Sublist chunks →
    first.generation = last.generation → middle.generation = first.generation

/-- After an event of this generation come only events of it. -/
def Latest (generation : String) (chunks : List (Chunk φ)) : Prop :=
  chunks.Pairwise fun earlier later =>
    earlier.generation = generation → later.generation = generation

theorem eventsOf_append (generation : String) (left right : List (Chunk φ)) :
    eventsOf generation (left ++ right) = eventsOf generation left ++ eventsOf generation right := by
  simp [eventsOf]

theorem eventsOf_eq_nil_iff (generation : String) (chunks : List (Chunk φ)) :
    eventsOf generation chunks = [] ↔ ∀ chunk ∈ chunks, chunk.generation ≠ generation := by
  simp [eventsOf, List.filter_eq_nil_iff]

theorem eventsOf_singleton (chunk : Chunk φ) :
    eventsOf chunk.generation [chunk] = [chunk.event] := by
  simp [eventsOf]

variable {chunks : List (Chunk φ)}

variable {generation : String}

theorem latest_of_eventsOf_eq_nil
    (absent : eventsOf generation chunks = []) : Latest generation chunks := by
  refine List.pairwise_of_forall_mem_list fun earlier present _ _ same => ?_
  exact absurd same ((eventsOf_eq_nil_iff generation chunks).mp absent earlier present)

variable {chunk : Chunk φ}

theorem Latest.append (latest : Latest generation chunks)
    (last : chunk.generation = generation ∨ eventsOf generation chunks = []) :
    Latest generation (chunks ++ [chunk]) := by
  refine List.pairwise_append.mpr ⟨latest, List.pairwise_singleton _ _, ?_⟩
  intro earlier present later new same
  rw [List.mem_singleton.mp new]
  rcases last with same' | absent
  · exact same'
  · exact absurd same ((eventsOf_eq_nil_iff generation chunks).mp absent earlier present)

theorem Latest.eventsOf_eq_nil
    (latest : Latest generation (chunks ++ [chunk])) (other : chunk.generation ≠ generation) :
    eventsOf generation (chunks ++ [chunk]) = [] := by
  refine (eventsOf_eq_nil_iff _ _).mpr fun earlier present same => ?_
  rcases List.mem_append.mp present with old | new
  · exact other ((List.pairwise_append.mp latest).2.2 earlier old chunk List.mem_cons_self same)
  · rw [List.mem_singleton.mp new] at same
    exact other same

theorem Blocks.append (blocks : Blocks chunks)
    (latest : Latest chunk.generation chunks) : Blocks (chunks ++ [chunk]) := by
  intro first middle last inside same
  obtain ⟨front, back, split, frontIn, backIn⟩ := List.sublist_append_iff.mp inside
  rcases List.sublist_singleton.mp backIn with rfl | rfl
  · rw [List.append_nil] at split
    subst split
    exact blocks first middle last frontIn same
  · have parts : front = [first, middle] ∧ last = chunk := by
      have shape : [first, middle] ++ [last] = front ++ [chunk] := split
      have ends := List.append_inj' shape rfl
      exact ⟨ends.1.symm, (List.cons.inj ends.2).1⟩
    obtain ⟨rfl, rfl⟩ := parts
    have ordered : [first, middle].Pairwise fun earlier later =>
        earlier.generation = last.generation → later.generation = last.generation :=
      latest.sublist frontIn
    rw [same]
    exact (List.pairwise_cons.mp ordered).1 middle List.mem_cons_self same

end Order

/-! ### The invariant -/

section Invariant

variable {φ : Type} (taskId : String)

/-- What is known of an open connection. -/
structure Follows (session : Session φ) (stream : TaskStream φ) : Prop where
  position : ∃ start, (stream.generation, start) ∈ session.opened ∧
    eventsOf stream.generation session.sent <+:
      session.store.after taskId stream.generation start ∧
    stream.sequence = positionAfter start (eventsOf stream.generation session.sent)
  page : ∀ events, stream.place = .page events →
    events <+: session.store.after taskId stream.generation stream.sequence
  latest : Latest stream.generation session.sent
  named : stream.generation ≠ ""
  unseen : ∀ current, session.store.tasks.get? taskId = some current →
    current ≠ stream.generation → eventsOf current session.sent = []

structure Delivers (session : Session φ) : Prop where
  segment : ∀ generation, ∃ start,
    (eventsOf generation session.sent = [] ∨ (generation, start) ∈ session.opened) ∧
      eventsOf generation session.sent <+: session.store.after taskId generation start
  labelled : ∀ chunk ∈ session.sent,
    chunk.id = eventId chunk.generation chunk.event.sequence ∧ chunk.generation ≠ ""
  blocks : Blocks session.sent
  latest : ∀ current, session.store.tasks.get? taskId = some current →
    Latest current session.sent
  idle : session.stream = none → session.wire = []
  follows : ∀ stream, session.stream = some stream → Follows taskId session stream

theorem delivers_start (store : EventStore φ) : Delivers taskId (Session.start store) :=
  { segment := fun generation => ⟨0, .inl rfl, List.nil_prefix⟩
    labelled := fun _ absent => absurd absent List.not_mem_nil
    blocks := fun _ _ _ inside => by simp [Session.sent, Session.start] at inside
    latest := fun _ _ => List.Pairwise.nil
    idle := fun _ => rfl
    follows := fun _ impossible => by cases impossible }

/-! ### Writers -/

variable {store grown : EventStore φ}

theorem appendEvent_grows [FloatText φ] (sha256 : Bytes → Digest) {event : NewEvent φ}
    (appended : appendEvent sha256 event store = .ok grown) :
    grown.tasks = store.tasks ∧
      ∃ row, grown.auditEvents.rows = store.auditEvents.rows ++ [row] := by
  unfold appendEvent at appended
  obtain ⟨eventHash, _, appended⟩ := (bind_eq_ok _ _ _).mp appended
  obtain ⟨_, appended⟩ := (raiseIf_bind_eq_ok _ _ _ _).mp appended
  split at appended
  · cases appended
    exact ⟨rfl, _, rfl⟩
  · cases appended

theorem EventStore.after_grows {row : AuditEvent φ}
    (rows : grown.auditEvents.rows = store.auditEvents.rows ++ [row]) (generation : String)
    (position : Nat) :
    store.after taskId generation position <+: grown.after taskId generation position := by
  unfold EventStore.after EventTable.of
  rw [rows, List.filter_append, List.filter_append]
  exact List.prefix_append _ _

theorem delivers_append {session : Session φ} (delivers : Delivers taskId session)
    {grown : EventStore φ} {row : AuditEvent φ} (tasks : grown.tasks = session.store.tasks)
    (rows : grown.auditEvents.rows = session.store.auditEvents.rows ++ [row]) :
    Delivers taskId { session with store := grown } := by
  have grows := EventStore.after_grows taskId rows
  refine ⟨fun generation => ?_, delivers.labelled, delivers.blocks, ?_, delivers.idle, ?_⟩
  · obtain ⟨start, known, read⟩ := delivers.segment generation
    exact ⟨start, known, read.trans (grows _ _)⟩
  · intro current found
    rw [tasks] at found
    exact delivers.latest current found
  · intro stream opened
    have follows := delivers.follows stream opened
    obtain ⟨start, known, read, reached⟩ := follows.position
    refine ⟨⟨start, known, read.trans (grows _ _), reached⟩, ?_, follows.latest, follows.named, ?_⟩
    · intro events place
      exact (follows.page events place).trans (grows _ _)
    · intro current found
      rw [tasks] at found
      exact follows.unseen current found

variable {generation : String}

/-- The events of a generation that nothing carries were never sent. -/
theorem Delivers.unsent {session : Session φ} (delivers : Delivers taskId session)
    (unused : session.store.unused taskId generation) :
    eventsOf generation session.sent = [] := by
  obtain ⟨start, _, read⟩ := delivers.segment generation
  have nothing : session.store.after taskId generation start = [] := by
    unfold EventStore.after
    rw [show session.store.auditEvents.of taskId generation = [] from unused, List.filter_nil]
  rw [nothing] at read
  exact List.prefix_nil.mp read

theorem delivers_reset {session : Session φ} (delivers : Delivers taskId session)
    (task suffix : String) (unused : session.store.unused task ("gen_" ++ suffix)) :
    Delivers taskId { session with store := upsertSeedTask task suffix session.store } := by
  have current_cases : ∀ current,
      (upsertSeedTask task suffix session.store).tasks.get? taskId = some current →
        session.store.tasks.get? taskId = some current ∨
          eventsOf current session.sent = [] := by
    intro current found
    change (session.store.tasks.set task ("gen_" ++ suffix)).get? taskId = some current at found
    by_cases same : taskId = task
    · subst same
      rw [Dict.get?_set_self] at found
      cases found
      exact .inr (delivers.unsent taskId unused)
    · rw [Dict.get?_set_ne _ _ same] at found
      exact .inl found
  refine ⟨delivers.segment, delivers.labelled, delivers.blocks, ?_, delivers.idle, ?_⟩
  · intro current found
    rcases current_cases current found with before | absent
    · exact delivers.latest current before
    · exact latest_of_eventsOf_eq_nil absent
  · intro stream opened
    have follows := delivers.follows stream opened
    refine ⟨follows.position, follows.page, follows.latest, follows.named, ?_⟩
    intro current found different
    rcases current_cases current found with before | absent
    · exact follows.unseen current before different
    · exact absent

/-! ### The client -/

theorem delivers_receive {session : Session φ} (delivers : Delivers taskId session)
    {chunk : Chunk φ} {rest : List (Chunk φ)} (waiting : session.wire = chunk :: rest) :
    Delivers taskId
      { session with wire := rest, received := session.received ++ [chunk] } := by
  have same : (session.received ++ [chunk]) ++ rest = session.sent := by
    simp [Session.sent, waiting]
  obtain ⟨segment, labelled, blocks, latest, idle, follows⟩ := delivers
  rw [← same] at labelled blocks
  simp only [← same] at segment latest
  refine ⟨segment, labelled, blocks, latest, ?_, ?_⟩
  · intro closed
    have empty := idle closed
    rw [waiting] at empty
    cases empty
  · intro stream opened
    obtain ⟨position, page, recent, named, unseen⟩ := follows stream opened
    rw [← same] at position recent
    simp only [← same] at unseen
    exact ⟨position, page, recent, named, unseen⟩

theorem delivers_disconnect {session : Session φ} (delivers : Delivers taskId session) :
    Delivers taskId { session with stream := none, wire := [] } := by
  have kept : session.received ++ [] <+: session.sent := by
    rw [List.append_nil]
    exact List.prefix_append _ _
  refine ⟨fun generation => ?_, ?_, ?_, ?_, fun _ => rfl, fun _ impossible => by cases impossible⟩
  · obtain ⟨start, known, read⟩ := delivers.segment generation
    have shorter : eventsOf generation (session.received ++ []) <+:
        eventsOf generation session.sent := (kept.filter _).map _
    refine ⟨start, ?_, shorter.trans read⟩
    rcases known with absent | known
    · rw [absent] at shorter
      exact .inl (List.prefix_nil.mp shorter)
    · exact .inr known
  · intro chunk present
    exact delivers.labelled chunk (kept.subset present)
  · intro first middle last inside same
    exact delivers.blocks first middle last (inside.trans kept.sublist) same
  · intro current found
    exact (delivers.latest current found).sublist kept.sublist

variable {cursor : Option String}

theorem openStream_eq_ok (u : Unicode) {afterSequence : Int}
    {follow : Bool} {maxEvents : Option Int} {store : EventStore φ} {stream : TaskStream φ}
    (opened : openStream u taskId cursor afterSequence follow maxEvents store = .ok stream) :
    store.tasks.get? taskId = some stream.generation ∧ stream.place = .loop ∧
      stream.sequence = if (parseEventCursor u cursor).1 = some stream.generation
        then (parseEventCursor u cursor).2 else afterSequence.toNat := by
  unfold openStream at opened
  obtain ⟨_, opened⟩ := (raiseIf_bind_eq_ok _ _ _ _).mp opened
  obtain ⟨_, opened⟩ := (raiseIf_bind_eq_ok _ _ _ _).mp opened
  obtain ⟨generation, found, opened⟩ := (bind_eq_ok _ _ _).mp opened
  have current := (expect_eq_ok _ _ _).mp found
  cases opened
  exact ⟨current, rfl, rfl⟩

/-- A client that has received an event of the current generation resumes right
after the last one it received; any other client has received none of it. -/
theorem delivers_position (u : Unicode) {session : Session φ} (delivers : Delivers taskId session)
    (closed : session.stream = none) (resumes : session.resumes cursor)
    (found : session.store.tasks.get? taskId = some generation)
    (afterSequence : Nat) :
    let sequence := if (parseEventCursor u cursor).1 = some generation
      then (parseEventCursor u cursor).2 else afterSequence
    ∃ start, (start = sequence ∨ (generation, start) ∈ session.opened) ∧
      eventsOf generation session.sent <+: session.store.after taskId generation start ∧
      sequence = positionAfter start (eventsOf generation session.sent) := by
  intro sequence
  have all : session.sent = session.received := by
    rw [Session.sent, delivers.idle closed, List.append_nil]
  rcases List.eq_nil_or_concat' session.received with nothing | ⟨earlier, chunk, received⟩
  · refine ⟨sequence, .inl rfl, ?_⟩
    rw [all, nothing]
    exact ⟨List.nil_prefix, rfl⟩
  have sent : session.sent = earlier ++ [chunk] := all.trans received
  obtain ⟨label, named⟩ := delivers.labelled chunk (by rw [sent]; simp)
  have passed : cursor = some chunk.id := resumes chunk (by rw [received]; simp)
  obtain ⟨start, known, read⟩ := delivers.segment chunk.generation
  have ends : eventsOf chunk.generation session.sent =
      eventsOf chunk.generation earlier ++ [chunk.event] := by
    rw [sent, eventsOf_append, eventsOf_singleton]
  have small : chunk.event.sequence ≤ sqliteMax := by
    have present := read.subset (a := chunk.event) (by rw [ends]; simp)
    have row := List.mem_of_mem_filter (List.mem_of_mem_filter present)
    exact Nat.le_trans (session.store.auditEvents.bounded _ row) session.store.auditEvents.small
  have parsed : parseEventCursor u cursor =
      (some chunk.generation, chunk.event.sequence) := by
    rw [passed, label]
    exact parseEventCursor_eventId u named small
  by_cases same : chunk.generation = generation
  · subst same
    have reached : sequence = chunk.event.sequence := by simp [sequence, parsed]
    refine ⟨start, .inr (known.resolve_left ?_), read, ?_⟩
    · rw [ends]
      simp
    · rw [reached, ends, positionAfter_append]
  · have latest := delivers.latest generation found
    rw [sent] at latest
    have absent := latest.eventsOf_eq_nil same
    refine ⟨sequence, .inl rfl, ?_⟩
    rw [sent, absent]
    exact ⟨List.nil_prefix, rfl⟩

theorem delivers_connect (u : Unicode) {session : Session φ} (delivers : Delivers taskId session)
    (closed : session.stream = none) (resumes : session.resumes cursor)
    {afterSequence : Int} {follow : Bool} {maxEvents : Option Int} {stream : TaskStream φ}
    (opened : openStream u taskId cursor afterSequence follow maxEvents session.store =
      .ok stream) :
    Delivers taskId
      { session with
        stream := some stream
        opened := (stream.generation, stream.sequence) :: session.opened } := by
  obtain ⟨found, place, sequence⟩ := openStream_eq_ok taskId u opened
  refine ⟨?_, delivers.labelled, delivers.blocks, delivers.latest, ?_, ?_⟩
  · intro generation
    obtain ⟨start, known, read⟩ := delivers.segment generation
    exact ⟨start, known.imp_right (List.mem_cons_of_mem _), read⟩
  · intro impossible
    cases impossible
  · intro same opens
    cases opens
    refine ⟨?_, ?_, delivers.latest _ found, session.store.named _ _ found, ?_⟩
    · obtain ⟨start, known, read, reached⟩ :=
        delivers_position taskId u delivers closed resumes found afterSequence.toNat
      rw [← sequence] at known reached
      refine ⟨start, ?_, read, reached⟩
      rcases known with fresh | known
      · rw [fresh]
        exact List.mem_cons_self
      · exact List.mem_cons_of_mem _ known
    · intro events impossible
      rw [place] at impossible
      cases impossible
    · intro current now different
      rw [found] at now
      exact absurd (Option.some.inj now).symm different

/-! ### The generator -/

theorem listEvents_eq_ok {store : EventStore φ} {position limit : Nat}
    {events : List (AuditEvent φ)}
    (listed : listEvents taskId generation position limit store = .ok events) :
    events = (store.after taskId generation position).take limit := by
  unfold listEvents at listed
  split at listed
  · cases listed
    rfl
  · cases listed

/-- A step of the generator reads or waits, follows a new generation, or yields
the first event of its page. -/
theorem TaskStream.advance_cases (store : EventStore φ) (stream : TaskStream φ) :
    (∃ place, stream.advance taskId store = ({ stream with place }, []) ∧
        ∀ events, place = .page events →
          events <+: store.after taskId stream.generation stream.sequence) ∨
      (∃ current, store.tasks.get? taskId = some current ∧ current ≠ stream.generation ∧
        stream.advance taskId store =
          ({ stream with generation := current, sequence := 0, place := .fetch }, [])) ∨
      ∃ event rest, stream.place = .page (event :: rest) ∧
        stream.advance taskId store = (stream.pass event rest, [stream.chunk taskId event]) := by
  unfold TaskStream.advance
  cases place : stream.place with
  | loop =>
      cases found : store.tasks.get? taskId with
      | none => exact .inl ⟨.done, by simp [getTask, found, expect], by simp⟩
      | some current =>
          by_cases same : current = stream.generation
          · exact .inl ⟨.fetch, by simp [getTask, found, expect, same], by simp⟩
          · exact .inr (.inl ⟨current, rfl, same, by simp [getTask, found, expect, same]⟩)
  | fetch =>
      cases listed : listEvents taskId stream.generation stream.sequence pageLimit store with
      | error _ => exact .inl ⟨.done, rfl, by simp⟩
      | ok events =>
          refine .inl ⟨.page events, rfl, fun other same => ?_⟩
          cases same
          rw [listEvents_eq_ok taskId listed]
          exact List.take_prefix _ _
  | page events =>
      cases events with
      | nil => exact .inl ⟨if stream.follow then .pause else .done, rfl, by split <;> simp⟩
      | cons event rest => exact .inr (.inr ⟨event, rest, rfl, rfl⟩)
  | pause => exact .inl ⟨.loop, rfl, by simp⟩
  | done => exact .inl ⟨.done, by cases stream; cases place; rfl, by simp⟩

variable {session : Session φ} (delivers : Delivers taskId session) {stream : TaskStream φ}
  (opened : session.stream = some stream)

include delivers opened

theorem delivers_quiet (place : StreamPlace φ)
    (listed : ∀ events, place = .page events →
      events <+: session.store.after taskId stream.generation stream.sequence) :
    Delivers taskId { session with stream := some { stream with place } } := by
  have follows := delivers.follows stream opened
  refine ⟨delivers.segment, delivers.labelled, delivers.blocks, delivers.latest,
    fun impossible => (by cases impossible), fun moved same => ?_⟩
  cases same
  exact ⟨follows.position, listed, follows.latest, follows.named, follows.unseen⟩

/-- Nothing of the generation that is followed was ever sent. -/
theorem delivers_switch {current : String}
    (found : session.store.tasks.get? taskId = some current)
    (different : current ≠ stream.generation) :
    Delivers taskId
      { session with
        stream := some { stream with generation := current, sequence := 0, place := .fetch }
        opened := (current, 0) :: session.opened } := by
  have absent := (delivers.follows stream opened).unseen current found different
  refine ⟨?_, delivers.labelled, delivers.blocks, delivers.latest,
    fun impossible => (by cases impossible), fun moved same => ?_⟩
  · intro generation
    obtain ⟨start, known, read⟩ := delivers.segment generation
    exact ⟨start, known.imp_right (List.mem_cons_of_mem _), read⟩
  · cases same
    change eventsOf current session.sent = [] at absent
    refine ⟨⟨0, List.mem_cons_self, ?_, ?_⟩, fun _ impossible => (by cases impossible),
      delivers.latest current found, session.store.named _ _ found, ?_⟩
    · change eventsOf current session.sent <+: _
      rw [absent]
      exact List.nil_prefix
    · change 0 = positionAfter 0 (eventsOf current session.sent)
      rw [absent]
      rfl
    · intro other now changed
      rw [found] at now
      exact absurd (Option.some.inj now).symm changed

theorem delivers_yield {event : AuditEvent φ} {rest : List (AuditEvent φ)}
    (place : stream.place = .page (event :: rest)) :
    Delivers taskId
      { session with
        stream := some (stream.pass event rest)
        wire := session.wire ++ [stream.chunk taskId event] } := by
  have follows := delivers.follows stream opened
  have sent : session.received ++ (session.wire ++ [stream.chunk taskId event]) =
      session.sent ++ [stream.chunk taskId event] := (List.append_assoc _ _ _).symm
  have own : eventsOf stream.generation (session.sent ++ [stream.chunk taskId event]) =
      eventsOf stream.generation session.sent ++ [event] := by
    rw [eventsOf_append]
    exact congrArg _ (eventsOf_singleton (stream.chunk taskId event))
  have foreign : ∀ generation, generation ≠ stream.generation →
      eventsOf generation (session.sent ++ [stream.chunk taskId event]) =
        eventsOf generation session.sent := by
    intro generation different
    have none : eventsOf generation [stream.chunk taskId event] = [] :=
      (eventsOf_eq_nil_iff _ _).mpr fun chunk present => by
        rw [List.mem_singleton.mp present]
        exact Ne.symm different
    rw [eventsOf_append, none, List.append_nil]
  obtain ⟨start, known, read, reached⟩ := follows.position
  obtain ⟨longer, remaining⟩ := session.store.after_step taskId read
    (by rw [← reached]; exact follows.page _ place)
  refine ⟨?_, ?_, ?_, ?_, fun impossible => (by cases impossible), fun moved same => ?_⟩
  · intro generation
    change ∃ start, (eventsOf generation (session.received ++ (session.wire ++ _)) = [] ∨ _) ∧
      eventsOf generation (session.received ++ (session.wire ++ _)) <+: _
    rw [sent]
    by_cases same : generation = stream.generation
    · subst same
      rw [own]
      exact ⟨start, .inr known, longer⟩
    · rw [foreign generation same]
      exact delivers.segment generation
  · intro chunk present
    change chunk ∈ session.received ++ (session.wire ++ _) at present
    rw [sent] at present
    rcases List.mem_append.mp present with old | new
    · exact delivers.labelled chunk old
    · rw [List.mem_singleton.mp new]
      exact ⟨rfl, follows.named⟩
  · change Blocks (session.received ++ (session.wire ++ _))
    rw [sent]
    exact delivers.blocks.append follows.latest
  · intro current found
    change Latest current (session.received ++ (session.wire ++ _))
    rw [sent]
    refine (delivers.latest current found).append ?_
    by_cases same : current = stream.generation
    · exact .inl same.symm
    · exact .inr (follows.unseen current found same)
  · cases same
    refine ⟨⟨start, known, ?_, ?_⟩, ?_, ?_, follows.named, ?_⟩
    · change eventsOf stream.generation (session.received ++ (session.wire ++ _)) <+: _
      rw [sent, own]
      exact longer
    · change event.sequence =
        positionAfter start (eventsOf stream.generation (session.received ++ (session.wire ++ _)))
      rw [sent, own, positionAfter_append]
    · intro events paged
      have left : events = rest := by
        unfold TaskStream.pass at paged
        simp only at paged
        split at paged
        · cases paged
        · cases paged
          rfl
      rw [left]
      exact remaining
    · change Latest stream.generation (session.received ++ (session.wire ++ _))
      rw [sent]
      exact follows.latest.append (.inl rfl)
    · intro current found different
      change eventsOf current (session.received ++ (session.wire ++ _)) = []
      rw [sent, foreign current different]
      exact follows.unseen current found different

end Invariant

/-! ### Runs -/

section Runs

variable {φ : Type} [FloatText φ] (u : Unicode) (sha256 : Bytes → Digest) (taskId : String)

theorem delivers_step {session : Session φ} (delivers : Delivers taskId session)
    (action : Action φ) : Delivers taskId (session.step u sha256 taskId action) := by
  cases action with
  | append event =>
      simp only [Session.step]
      split
      · exact delivers
      · rename_i grown appended
        obtain ⟨tasks, row, rows⟩ := appendEvent_grows sha256 appended
        exact delivers_append taskId delivers tasks rows
  | reset task suffix =>
      simp only [Session.step]
      split
      · rename_i unused
        exact delivers_reset taskId delivers task suffix unused
      · exact delivers
  | connect cursor afterSequence follow maxEvents =>
      simp only [Session.step]
      split
      · rename_i free
        split
        · exact delivers
        · rename_i stream opened
          exact delivers_connect taskId u delivers (Option.isNone_iff_eq_none.mp free.1) free.2
            opened
      · exact delivers
  | advance =>
      simp only [Session.step]
      split
      · exact delivers
      · rename_i stream opened
        rcases stream.advance_cases taskId session.store with
          ⟨place, moved, listed⟩ | ⟨current, found, different, moved⟩ | ⟨event, rest, place, moved⟩
        · simpa [moved] using delivers_quiet taskId delivers opened place listed
        · simpa [moved, different] using delivers_switch taskId delivers opened found different
        · have same : (stream.pass event rest).generation = stream.generation := rfl
          simpa [moved, same] using delivers_yield taskId delivers opened place
  | receive =>
      simp only [Session.step]
      split
      · exact delivers
      · rename_i chunk rest waiting
        exact delivers_receive taskId delivers waiting
  | disconnect => exact delivers_disconnect taskId delivers

theorem delivers_run (actions : List (Action φ)) {session : Session φ}
    (delivers : Delivers taskId session) :
    Delivers taskId (session.run u sha256 taskId actions) := by
  induction actions generalizing session with
  | nil => exact delivers
  | cons action rest ih => exact ih (delivers_step u sha256 taskId delivers action)

/-- Over any number of connections, resets and appends: of each generation a
client receives, in order and without gap or repetition, the events from where
one of its connections began to read it; each generation comes in one block; a
page that is not full ends with the last event there is; and a connection that
is about to follow a switch has sent the events up to its position. -/
theorem event_stream_delivers (store : EventStore φ) (actions : List (Action φ)) :
    let session := (Session.start store).run u sha256 taskId actions
    (∀ generation, ∃ start,
      (eventsOf generation session.received = [] ∨ (generation, start) ∈ session.opened) ∧
        eventsOf generation session.received <+:
          session.store.after taskId generation start ∧
        (eventsOf generation session.received).Pairwise
          fun earlier later => earlier.sequence < later.sequence) ∧
      Blocks session.received ∧
      ∀ stream, session.stream = some stream →
        ∃ start, (stream.generation, start) ∈ session.opened ∧
          (∀ events, listEvents taskId stream.generation stream.sequence pageLimit session.store =
              .ok events → events.length < pageLimit →
            session.store.after taskId stream.generation start =
              eventsOf stream.generation session.sent ++ events) ∧
          session.store.after taskId stream.generation start =
            eventsOf stream.generation session.sent ++
              session.store.after taskId stream.generation stream.sequence := by
  intro session
  have delivers : Delivers taskId session :=
    delivers_run u sha256 taskId actions (delivers_start taskId store)
  have kept : session.received <+: session.sent := List.prefix_append _ _
  refine ⟨fun generation => ?_, ?_, fun stream opened => ?_⟩
  · obtain ⟨start, known, read⟩ := delivers.segment generation
    have shorter : eventsOf generation session.received <+: eventsOf generation session.sent :=
      (kept.filter _).map _
    have received := shorter.trans read
    refine ⟨start, ?_, received,
      (session.store.after_increasing taskId generation start).sublist received.sublist⟩
    rcases known with absent | known
    · rw [absent] at shorter
      exact .inl (List.prefix_nil.mp shorter)
    · exact .inr known
  · intro first middle last inside same
    exact delivers.blocks first middle last (inside.trans kept.sublist) same
  · obtain ⟨start, known, read, reached⟩ := (delivers.follows stream opened).position
    have whole := session.store.after_eq_append taskId read
    rw [← reached] at whole
    refine ⟨start, known, fun events listed short => ?_, whole⟩
    have page := listEvents_eq_ok taskId listed
    have complete : session.store.after taskId stream.generation stream.sequence = events := by
      rw [page, List.length_take] at short
      rw [page, List.take_of_length_le (by omega)]
    rw [whole, complete]

end Runs

/-! ### A reset between two polls -/

namespace StreamSample

def ascii : Unicode where
  nfc := id
  decimal c := if c.isDigit then some (c.toNat - 48) else none
  nfc_idem _ := rfl
  nfc_plain _ _ := rfl
  decimal_ascii := ascii_decimal

def lengths (bytes : Bytes) : Digest := BitVec.ofNat 256 bytes.length

def stored : EventStore Empty where
  tasks := [("task-1", "gen_a")]
  auditEvents := .empty
  named := by
    intro taskId generation found
    have member := Dict.mem_of_get? _ found
    cases List.mem_singleton.mp member
    decide

def event (generation id : String) : NewEvent Empty :=
  ⟨id, "task-1", generation, "stage.changed", "research-pi", none, .null, "2026-01-01T00:00:00"⟩

/-- The client reads the first event; then come an event, a reset and an event
of the new generation, and the client reads on. -/
def actions : List (Action Empty) :=
  [.append (event "gen_a" "evt_1"), .connect none 0 true none, .advance, .advance, .advance,
    .receive, .append (event "gen_a" "evt_22"), .reset "task-1" "b",
    .append (event "gen_b" "evt_333"), .advance, .advance, .advance, .advance, .advance, .receive]

def session : Session Empty := (Session.start stored).run ascii lengths "task-1" actions

/-- The second event of the first generation was there before the switch and is
not delivered before it. -/
theorem switch_skips_event :
    (session.store.auditEvents.of "task-1" "gen_a").map AuditEvent.id = ["evt_1", "evt_22"] ∧
      session.received.map (fun chunk => (chunk.generation, chunk.event.id)) =
        [("gen_a", "evt_1"), ("gen_b", "evt_333")] := by
  decide +kernel

end StreamSample

end EgoAgent.Api
