import EgoAgent.SecureMemory.BudgetRecovery
import EgoAgent.SecureMemory.Broker

/-!
The books of a dispatch: which tickets it opens, and that it closes them, unless the first send
fails with a kind that the ledger does not take as a reason.
-/

namespace EgoAgent.SecureMemory

open EgoAgent.Api

/-! ### The books -/

section Books

variable {φ α β : Type}

/-- The tickets that the events move to a state, in their order. -/
def movedTo (state : ReservationState) (events : List BudgetEvent) : List String :=
  (events.filter fun event => event.state = state).map BudgetEvent.ticketId

/-- No call of a dispatch escapes the books: `events` is what it has appended to the ledger. -/
structure Booked (request : ModelRequest φ) (result : Except BrokerFault BrokerResponse)
    (events : List BudgetEvent) (after : Dispatching φ) : Prop where
  sends : movedTo .dispatched events = after.sends.map SendRecord.ticketId
  atMostTwo : after.sends.length ≤ 2
  retry : ∀ second, after.sends[1]? = some second →
    ∃ original, second.books.reservations.get? request.ticketId = some original ∧
      original.state = .retained ∧
      original.retainedReason ∈ [some "429", some "5xx", some "timeout"]
  terminal : ∀ ticketId ∈ movedTo .reserved events, ∃ reservation,
    after.ledger.reservations.get? ticketId = some reservation ∧
      reservation.state = if result.isOk = true ∧
          (after.sends.map SendRecord.ticketId).getLast? = some ticketId then .settled
        else .retained

/-! ### Steps that leave the books alone -/

/-- The effect touches neither the ledger nor the sends. -/
def Quiet (effect : Effect (Dispatching φ) BrokerFault α) : Prop :=
  ∀ state, (effect state).2.ledger = state.ledger ∧ (effect state).2.sends = state.sends

theorem quiet_check (verdict : Except BrokerFault α) :
    Quiet (Effect.check verdict : Effect (Dispatching φ) BrokerFault α) := fun _ => ⟨rfl, rfl⟩

theorem quiet_pure (item : α) : Quiet (pure item : Effect (Dispatching φ) BrokerFault α) :=
  fun _ => ⟨rfl, rfl⟩

theorem quiet_bind {first : Effect (Dispatching φ) BrokerFault α}
    {next : α → Effect (Dispatching φ) BrokerFault β} (quiet : Quiet first)
    (rest : ∀ item, Quiet (next item)) : Quiet (first >>= next) := by
  intro state
  rw [Effect.bind_apply]
  have before := quiet state
  rcases ran : first state with ⟨error | item, later⟩
  · rw [ran] at before
    exact before
  · rw [ran] at before
    have after := rest item later
    exact ⟨after.1.trans before.1, after.2.trans before.2⟩

theorem quiet_freezeThen (code : String) :
    Quiet (freezeThen code : Effect (Dispatching φ) BrokerFault α) := fun _ => ⟨rfl, rfl⟩

theorem quiet_freezeIf (wrong : Prop) [Decidable wrong] (code : String) :
    Quiet (freezeIf wrong code : Effect (Dispatching φ) BrokerFault Unit) := by
  unfold freezeIf
  split
  · exact quiet_freezeThen code
  · exact quiet_pure _

theorem quiet_capabilityRecord (sequence : Option Int) :
    Quiet (capabilityRecord sequence : Effect (Dispatching φ) BrokerFault _) := by
  unfold capabilityRecord
  cases sequence with
  | none => exact quiet_freezeThen _
  | some sequence =>
      refine quiet_bind (fun _ => ⟨rfl, rfl⟩) fun _ => ?_
      refine quiet_bind (quiet_freezeIf _ _) fun _ => ?_
      exact quiet_bind (quiet_freezeIf _ _) fun _ => quiet_pure _

variable [FloatText φ]

theorem quiet_checkRequest (broker : Broker) (request : ModelRequest φ) (lease : SignedTaskLease) :
    Quiet (checkRequest broker request lease) := by
  unfold checkRequest
  refine quiet_bind (quiet_capabilityRecord _) fun _ => ?_
  refine quiet_bind (quiet_check _) fun _ => ?_
  refine quiet_bind (quiet_check _) fun _ => ?_
  refine quiet_bind (quiet_freezeIf _ _) fun _ => ?_
  refine quiet_bind (quiet_freezeIf _ _) fun _ => ?_
  iterate 8 refine quiet_bind (quiet_check _) fun _ => ?_
  exact quiet_bind (quiet_check _) fun _ => quiet_pure _

omit [FloatText φ] in
theorem quiet_recheck (broker : Broker) (kind : String) :
    Quiet (recheck broker kind : Effect (Dispatching φ) BrokerFault _) := by
  unfold recheck
  refine quiet_bind (quiet_check _) fun _ => ?_
  refine quiet_bind (quiet_capabilityRecord _) fun _ => ?_
  refine quiet_bind (quiet_check _) fun _ => ?_
  refine quiet_bind (quiet_freezeIf _ _) fun _ => ?_
  exact quiet_bind (quiet_freezeIf _ _) fun _ => quiet_pure _

end Books

/-! ### Steps of the ledger -/

section Steps

variable {book : Book} {ledger : Ledger} {ticketId : String}

variable {value : Reservation}

theorem require_of (found : ledger.reservations.get? ticketId = some value) :
    require ticketId value.state ledger = (.ok value, ledger) := by
  unfold require
  rw [Effect.read_bind, (expect_eq_ok _ _ _).mpr found, Effect.check_ok_bind,
    (raiseIf_eq_ok _ _ ()).mpr (not_not.mpr rfl), Effect.check_ok_bind]
  rfl

/-- A call whose result is dropped: it is refused, or appends the event of the call. -/
theorem Journal.runs {α : Type} (journal : Journal book ledger) (current : Int) (call : BudgetCall)
    {operation : Effect Ledger BudgetDenied α}
    (performs : call.perform book current = operation >>= fun _ => pure ()) :
    (∃ denied, operation ledger = (.error denied, ledger)) ∨
      ∃ event result, Admissible book ledger event ∧ call.Makes book ledger event ∧
        operation ledger = (.ok result, ledger.push event) := by
  have cases := perform_cases journal current call
  rw [performs] at cases
  rcases cases with ⟨denied, raised⟩ | ⟨event, admissible, makes, ran⟩
  · rcases (Effect.bind_eq_error _ _ _ _ _).mp raised with early | ⟨_, _, _, late⟩
    · exact .inl ⟨denied, early⟩
    · cases late
  · obtain ⟨result, later, returned, done⟩ := (Effect.bind_eq_ok _ _ _ _ _).mp ran
    cases done
    exact .inr ⟨event, result, admissible, makes, returned⟩

/-- A ticket that is RESERVED can be marked. -/
theorem Journal.marks (journal : Journal book ledger)
    (found : ledger.reservations.get? ticketId = some value) (state : value.state = .reserved) :
    ∃ event reservation, Admissible book ledger event ∧ event.ticketId = ticketId ∧
      event.state = .dispatched ∧
      markDispatched book ticketId ledger = (.ok reservation, ledger.push event) := by
  rcases journal.runs 0 (.markDispatched ticketId) rfl with
    ⟨denied, early⟩ | ⟨event, reservation, admissible, makes, returned⟩
  · have required := require_of found
    rw [state] at required
    unfold markDispatched at early
    rw [Effect.bind_apply, required] at early
    cases early
  · exact ⟨event, reservation, admissible, makes.1, makes.2, returned⟩

/-- A ticket that is DISPATCHED can be retained for any of the reasons. -/
theorem Journal.retains (journal : Journal book ledger)
    (found : ledger.reservations.get? ticketId = some value) (state : value.state = .dispatched)
    {reason : String} (allowed : reason ∈ allowedRetainReasons) :
    ∃ event reservation, Admissible book ledger event ∧ event.ticketId = ticketId ∧
      event.state = .retained ∧ event.retainedReason = some reason ∧
      retain book ticketId reason ledger = (.ok reservation, ledger.push event) := by
  rcases journal.runs 0 (.retain ticketId reason) rfl with
    ⟨denied, early⟩ | ⟨event, reservation, admissible, makes, returned⟩
  · have required := require_of found
    rw [state] at required
    unfold retain at early
    rw [(raiseIf_eq_ok _ _ ()).mpr (not_not.mpr allowed), Effect.check_ok_bind,
      Effect.bind_apply, required] at early
    cases early
  · exact ⟨event, reservation, admissible, makes.1, makes.2.1, makes.2.2, returned⟩

theorem retain_refused {reason : String} (unknown : reason ∉ allowedRetainReasons) :
    retain book ticketId reason ledger = (.error ⟨"retain_reason"⟩, ledger) := by
  unfold retain
  rw [raiseIf, if_pos unknown]
  rfl

theorem Journal.settles (journal : Journal book ledger) (usage : RawUsage) :
    (∃ denied, settle book ticketId usage ledger = (.error denied, ledger)) ∨
      ∃ event settled, Admissible book ledger event ∧ event.ticketId = ticketId ∧
        event.state = .settled ∧
        settle book ticketId usage ledger = (.ok settled, ledger.push event) := by
  rcases journal.runs 0 (.settle ticketId usage) rfl with
    denied | ⟨event, settled, admissible, makes, returned⟩
  · exact .inl denied
  · exact .inr ⟨event, settled, admissible, makes.1, makes.2.1, returned⟩

/-- What a reservation does: it is refused, or appends an event that opens the ticket. -/
def Opens (book : Book) (ledger : Ledger) (ticketId : String)
    (opening : Effect Ledger BudgetDenied Reservation) : Prop :=
  (∃ denied, opening ledger = (.error denied, ledger)) ∨
    ∃ event reservation, Admissible book ledger event ∧ event.ticketId = ticketId ∧
      event.state = .reserved ∧ opening ledger = (.ok reservation, ledger.push event)

theorem Journal.opens_reserve (journal : Journal book ledger) (current : Int)
    (request : ReserveRequest) :
    Opens book ledger ticketId (reserve book current ticketId request) := by
  rcases journal.runs current (.reserve ticketId request) rfl with
    denied | ⟨event, reservation, admissible, makes, returned⟩
  · exact .inl denied
  · exact .inr ⟨event, reservation, admissible, makes.1, makes.2, returned⟩

theorem Journal.opens_reserveRetry (journal : Journal book ledger) (current : Int)
    (originalTicketId : String) (request : ReserveRequest) :
    Opens book ledger ticketId (reserveRetry book current ticketId originalTicketId request) := by
  rcases journal.runs current (.reserveRetry ticketId originalTicketId request) rfl with
    denied | ⟨event, reservation, admissible, makes, returned⟩
  · exact .inl denied
  · exact .inr ⟨event, reservation, admissible, makes.1, makes.2.1, returned⟩

theorem push_found (ledger : Ledger) (event : BudgetEvent) :
    (ledger.push event).reservations.get? event.ticketId = some event.reservation :=
  Dict.get?_set_self _ _ _

theorem push_found_ne (ledger : Ledger) (event : BudgetEvent)
    (different : ticketId ≠ event.ticketId) :
    (ledger.push event).reservations.get? ticketId = ledger.reservations.get? ticketId :=
  Dict.get?_set_ne _ _ different

/-- The three events of a ticket that a dispatch opens and closes. -/
structure Trip (book : Book) (ledger : Ledger) (ticketId : String) (final : ReservationState)
    (events : List BudgetEvent) (later : Ledger) : Prop where
  steps : ∃ opening marking closing, events = [opening, marking, closing] ∧
    later = ((ledger.push opening).push marking).push closing ∧
    opening.ticketId = ticketId ∧ marking.ticketId = ticketId ∧ closing.ticketId = ticketId ∧
    opening.state = .reserved ∧ marking.state = .dispatched ∧ closing.state = final
  terminal : final = .settled ∨ final = .retained
  fresh : ledger.reservations.get? ticketId = none
  journal : Journal book later

namespace Trip

variable {final : ReservationState} {events : List BudgetEvent} {later : Ledger}

theorem appended (trip : Trip book ledger ticketId final events later) :
    later.events = ledger.events ++ events := by
  obtain ⟨opening, marking, closing, rfl, rfl, _⟩ := trip.steps
  show ((ledger.events ++ [opening]) ++ [marking]) ++ [closing] = _
  rw [List.append_assoc, List.append_assoc]
  rfl

theorem moved (trip : Trip book ledger ticketId final events later) :
    movedTo .dispatched events = [ticketId] ∧ movedTo .reserved events = [ticketId] := by
  obtain ⟨opening, marking, closing, rfl, _, opened, marked, _, reserved, dispatched, closed⟩ :=
    trip.steps
  rcases trip.terminal with rfl | rfl <;>
    simp [movedTo, reserved, dispatched, closed, opened, marked]

theorem found (trip : Trip book ledger ticketId final events later) :
    ∃ reservation, later.reservations.get? ticketId = some reservation ∧
      reservation.state = final := by
  obtain ⟨opening, marking, closing, _, rfl, _, _, rfl, _, _, closed⟩ := trip.steps
  exact ⟨closing.reservation, push_found _ _, closed⟩

theorem kept (trip : Trip book ledger ticketId final events later) {other : String}
    (different : other ≠ ticketId) :
    later.reservations.get? other = ledger.reservations.get? other := by
  obtain ⟨opening, marking, closing, _, rfl, opened, marked, closed, _⟩ := trip.steps
  rw [push_found_ne _ _ (by rw [closed]; exact different),
    push_found_ne _ _ (by rw [marked]; exact different),
    push_found_ne _ _ (by rw [opened]; exact different)]

end Trip

end Steps

/-! ### Steps of a dispatch -/

section Dispatch

variable {φ : Type} {broker : Broker} {state : Dispatching φ} {ticketId : String}

/-- The ticket has been opened by two events, and the second left it DISPATCHED. -/
structure OpenedBy (book : Book) (ledger : Ledger) (ticketId : String)
    (opening marking : BudgetEvent) : Prop where
  opens : Admissible book ledger opening
  marks : Admissible book (ledger.push opening) marking
  openingTicket : opening.ticketId = ticketId
  markingTicket : marking.ticketId = ticketId
  reserved : opening.state = .reserved
  dispatched : marking.state = .dispatched

def Ledger.opened (ledger : Ledger) (opening marking : BudgetEvent) : Ledger :=
  (ledger.push opening).push marking

variable {book : Book}

variable {ledger : Ledger} {opening marking : BudgetEvent}

theorem OpenedBy.journal
    (opened : OpenedBy book ledger ticketId opening marking) (journal : Journal book ledger) :
    Journal book (ledger.opened opening marking) :=
  (journal.push opened.opens).push opened.marks

theorem OpenedBy.found (opened : OpenedBy book ledger ticketId opening marking) :
    (ledger.opened opening marking).reservations.get? ticketId = some marking.reservation ∧
      marking.reservation.state = .dispatched := by
  refine ⟨?_, opened.dispatched⟩
  rw [← opened.markingTicket]
  exact push_found _ _

theorem OpenedBy.trip {opening marking closing : BudgetEvent}
    (opened : OpenedBy book ledger ticketId opening marking) (journal : Journal book ledger)
    (admissible : Admissible book (ledger.opened opening marking) closing)
    (closingTicket : closing.ticketId = ticketId) {final : ReservationState}
    (closed : closing.state = final) (terminal : final = .settled ∨ final = .retained) :
    Trip book ledger ticketId final [opening, marking, closing]
      ((ledger.opened opening marking).push closing) :=
  ⟨⟨opening, marking, closing, rfl, rfl, opened.openingTicket, opened.markingTicket, closingTicket,
    opened.reserved, opened.dispatched, closed⟩, terminal,
    opened.openingTicket ▸ opened.opens.opens_fresh opened.reserved,
    (opened.journal journal).push admissible⟩

theorem openTicket_cases (journal : Journal broker.book state.ledger)
    (fault : BudgetDenied → BrokerFault) {opening : Effect Ledger BudgetDenied Reservation}
    (opens : Opens broker.book state.ledger ticketId opening) :
    (∃ denied, openTicket broker fault ticketId opening state = (.error denied, state)) ∨
      ∃ first second, OpenedBy broker.book state.ledger ticketId first second ∧
        openTicket broker fault ticketId opening state =
          (.ok (), { state with ledger := state.ledger.opened first second }) := by
  unfold openTicket onLedger
  rw [Effect.bind_apply]
  rcases opens with ⟨denied, ran⟩ | ⟨first, reservation, admissible, isTicket, reserved, ran⟩
  · rw [ran]
    exact .inl ⟨fault denied, rfl⟩
  · rw [ran]
    have here : (state.ledger.push first).reservations.get? ticketId = some first.reservation := by
      rw [← isTicket]
      exact push_found _ _
    obtain ⟨second, marked, marks, sameTicket, dispatched, ran⟩ :=
      (journal.push admissible).marks here reserved
    refine .inr ⟨first, second, ⟨admissible, marks, isTicket, sameTicket, reserved, dispatched⟩, ?_⟩
    dsimp only
    rw [Effect.bind_apply, ran]
    rfl

theorem closeTicket_of {reason : String} {reservation : Reservation} {later : Ledger}
    (ran : retain broker.book ticketId reason state.ledger = (.ok reservation, later)) :
    closeTicket broker ticketId reason state = (.ok (), { state with ledger := later }) := by
  unfold closeTicket onLedger
  rw [Effect.bind_apply, ran]
  rfl

/-- From a ledger on which the ticket is DISPATCHED, one more event closes it: as SETTLED when the
call returns, and as RETAINED when it raises. -/
def Closes (book : Book) (ticketId : String) (state : Dispatching φ)
    (outcome : Except BrokerFault BrokerResponse × Dispatching φ) : Prop :=
  ∃ event, Admissible book state.ledger event ∧ event.ticketId = ticketId ∧
    outcome.2.ledger = state.ledger.push event ∧ outcome.2.sends = state.sends ∧
    event.state = if outcome.1.isOk = true then .settled else .retained

theorem closes_retained {event : BudgetEvent} {fault : BrokerFault}
    {later : Dispatching φ} (admissible : Admissible book state.ledger event)
    (isTicket : event.ticketId = ticketId) (retained : event.state = .retained)
    (ledger : later.ledger = state.ledger.push event) (sends : later.sends = state.sends) :
    Closes book ticketId state (.error fault, later) :=
  ⟨event, admissible, isTicket, ledger, sends, retained⟩

theorem settleReply_closes (journal : Journal broker.book state.ledger) {value : Reservation}
    (found : state.ledger.reservations.get? ticketId = some value)
    (dispatched : value.state = .dispatched) (reply : ProviderReply)
    {closing : Effect (Dispatching φ) BrokerFault Unit}
    (closed : ∀ reservation later,
      retain broker.book ticketId "contradictory_usage" state.ledger = (.ok reservation, later) →
        closing state = (.ok (), { state with ledger := later })) :
    Closes broker.book ticketId state (settleReply broker ticketId reply closing state) := by
  have refused : Closes broker.book ticketId state
      ((closing >>= fun _ => freezeThen "authoritative_usage_invalid") state) := by
    obtain ⟨event, reservation, admissible, isTicket, retained, _, ran⟩ :=
      journal.retains found dispatched
          (show "contradictory_usage" ∈ allowedRetainReasons by decide)
    rw [Effect.bind_apply, closed _ _ ran]
    exact closes_retained admissible isTicket retained rfl rfl
  unfold settleReply
  cases reply.rawUsage with
  | none =>
      obtain ⟨event, reservation, admissible, isTicket, retained, _, ran⟩ :=
        journal.retains found dispatched
          (show "unknown_usage" ∈ allowedRetainReasons by decide)
      dsimp only
      rw [Effect.bind_apply, closeTicket_of ran]
      exact closes_retained admissible isTicket retained rfl rfl
  | some raw =>
      dsimp only
      cases readUsage raw with
      | none => exact refused
      | some usage =>
          dsimp only
          rcases journal.settles usage with
            ⟨denied, ran⟩ | ⟨event, settled, admissible, isTicket, isSettled, ran⟩
          · rw [ran]
            exact refused
          · rw [ran]
            exact ⟨event, admissible, isTicket, rfl, rfl, isSettled⟩

end Dispatch

end EgoAgent.SecureMemory
