import EgoAgent.SecureMemory.BudgetJournal

/-!
The invariant of the budget ledger, of live runs and of replays, and what replay recovers.
-/

namespace EgoAgent.SecureMemory

open EgoAgent.Api

/-! ### The course of a ticket -/

/-- The states of a ticket, oldest first. -/
def courses : List (List ReservationState) :=
  [[], [.reserved], [.reserved, .dispatched], [.reserved, .dispatched, .settled],
    [.reserved, .dispatched, .retained]]

theorem courses_follow {states : List ReservationState} {prior next : ReservationState}
    (course : states ∈ courses) (last : states.getLast? = some prior)
    (follows : Follows prior next) : states ++ [next] ∈ courses := by
  simp only [courses, List.mem_cons, List.not_mem_nil, or_false] at course
  rcases course with rfl | rfl | rfl | rfl | rfl <;> cases follows <;> simp_all [courses]

/-- The events of a ticket. -/
def Ledger.history (ledger : Ledger) (ticketId : String) : List BudgetEvent :=
  ledger.events.filter fun event => event.ticketId = ticketId

theorem history_push_same (ledger : Ledger) (event : BudgetEvent) :
    (ledger.push event).history event.ticketId = ledger.history event.ticketId ++ [event] := by
  simp [Ledger.history, Ledger.push]

theorem history_push_ne (ledger : Ledger) {event : BudgetEvent} {ticketId : String}
    (different : ticketId ≠ event.ticketId) :
    (ledger.push event).history ticketId = ledger.history ticketId := by
  simp [Ledger.history, Ledger.push, different.symm]

/-- The events of a ticket lead to its reservation. -/
structure Ledger.Leads (ledger : Ledger) (ticketId : String) : Prop where
  course : (ledger.history ticketId).map BudgetEvent.state ∈ courses
  unreserved : ledger.reservations.get? ticketId = none → ledger.history ticketId = []
  reserved : ∀ reservation, ledger.reservations.get? ticketId = some reservation →
    (ledger.history ticketId).getLast?.map BudgetEvent.reservation = some reservation ∧
      ∀ event ∈ ledger.history ticketId, event.figures = reservation.figures

section

variable {ledger : Ledger} {book : Book}

theorem Journal.leads (journal : Journal book ledger)
    (ticketId : String) : ledger.Leads ticketId := by
  induction journal with
  | empty =>
      refine ⟨by simp [Ledger.history, Ledger.empty, courses], fun _ => rfl, ?_⟩
      intro reservation found
      cases found
  | push journal admissible ih =>
      rename_i before event
      by_cases same : ticketId = event.ticketId
      · subst same
        have found : (before.push event).reservations.get? event.ticketId =
            some event.reservation := Dict.get?_set_self _ _ _
        have moves := admissible.moves
        unfold Moves at moves
        constructor
        · rw [history_push_same, List.map_append, List.map_singleton]
          cases isPrior : before.reservations.get? event.ticketId with
          | none =>
              rw [isPrior] at moves
              rw [ih.unreserved isPrior, moves.2.1]
              simp [courses]
          | some prior =>
              rw [isPrior] at moves
              refine courses_follow ih.course ?_ moves.2.2
              have last := (ih.reserved prior isPrior).1
              rw [List.getLast?_map]
              obtain ⟨latest, isLatest, rfl⟩ := Option.map_eq_some_iff.mp last
              rw [isLatest]
              rfl
        · intro absent
          rw [found] at absent
          cases absent
        · intro reservation isReservation
          rw [found] at isReservation
          cases isReservation
          rw [history_push_same]
          refine ⟨by rw [List.getLast?_concat]; rfl, ?_⟩
          intro other present
          rcases List.mem_append.mp present with earlier | latest
          · cases isPrior : before.reservations.get? event.ticketId with
            | none =>
                rw [ih.unreserved isPrior] at earlier
                cases earlier
            | some prior =>
                rw [isPrior] at moves
                exact ((ih.reserved prior isPrior).2 other earlier).trans moves.2.1.symm
          · rw [List.mem_singleton.mp latest]
            rfl
      · have get : (before.push event).reservations.get? ticketId =
            before.reservations.get? ticketId := Dict.get?_set_ne _ _ same
        refine ⟨?_, ?_, ?_⟩
        · rw [history_push_ne _ same]
          exact ih.course
        · rw [history_push_ne _ same, get]
          exact ih.unreserved
        · rw [history_push_ne _ same, get]
          exact ih.reserved

/-! ### Totals and templates -/

theorem totals_push_new {event : BudgetEvent}
    (absent : ledger.reservations.get? event.ticketId = none) :
    (ledger.push event).totals = ledger.nextTotal event.figures := by
  have pushed : (ledger.push event).reservations =
      ledger.reservations ++ [(event.ticketId, event.reservation)] := Dict.set_of_absent _ absent
  unfold Ledger.totals Ledger.nextTotal
  rw [pushed]
  simp [Ledger.totals, BudgetEvent.reservation]

theorem totals_push_old {event : BudgetEvent} {prior : Reservation}
    (found : ledger.reservations.get? event.ticketId = some prior)
    (same : event.figures = prior.figures) : (ledger.push event).totals = ledger.totals := by
  have figures : ∀ f : Figures → Int,
      (ledger.push event).reservations.map (fun entry => f entry.2.figures) =
        ledger.reservations.map fun entry => f entry.2.figures :=
    fun f => Dict.map_set_of_same (fun reservation : Reservation => f reservation.figures) found
      (congrArg f same)
  have length : (ledger.push event).reservations.length = ledger.reservations.length := by
    have mapped := congrArg List.length (figures fun _ => 0)
    rwa [List.length_map, List.length_map] at mapped
  unfold Ledger.totals
  rw [figures Figures.reservedInput, figures Figures.reservedOutput, length]

theorem Journal.within (journal : Journal book ledger) :
    ¬ ledger.totals.exceeds campaignReservation := by
  induction journal with
  | empty => decide
  | push journal admissible ih =>
      rename_i before event
      have moves := admissible.moves
      unfold Moves at moves
      cases isPrior : before.reservations.get? event.ticketId with
      | none =>
          rw [isPrior] at moves
          rw [totals_push_new isPrior]
          exact moves.2.2.2
      | some prior =>
          rw [isPrior] at moves
          rw [totals_push_old isPrior moves.2.1]
          exact ih

/-- The used templates are those of the reservations, each once. -/
theorem Journal.templates (journal : Journal book ledger) :
    ledger.usedTemplates = (ledger.reservations.map fun entry => entry.2.templateId).reverse ∧
      ledger.usedTemplates.Nodup := by
  induction journal with
  | empty => exact ⟨rfl, List.nodup_nil⟩
  | push journal admissible ih =>
      rename_i before event
      have moves := admissible.moves
      unfold Moves at moves
      cases isPrior : before.reservations.get? event.ticketId with
      | none =>
          rw [isPrior] at moves
          have pushed : (before.push event).reservations =
              before.reservations ++ [(event.ticketId, event.reservation)] :=
            Dict.set_of_absent _ isPrior
          have used : (before.push event).usedTemplates =
              event.templateId :: before.usedTemplates := by
            rw [Ledger.push, isPrior]
            rfl
          rw [used, pushed]
          refine ⟨?_, List.nodup_cons.mpr ⟨moves.2.2.1, ih.2⟩⟩
          rw [List.map_append, List.reverse_append, ih.1]
          rfl
      | some prior =>
          have used : (before.push event).usedTemplates = before.usedTemplates := by
            rw [Ledger.push, isPrior]
            rfl
          obtain ⟨ticket, known, template, _⟩ := admissible.ticket
          obtain ⟨other, sameTicket, priorTemplate, _⟩ := (journal.held isPrior).ticket
          rw [known] at sameTicket
          cases sameTicket
          have same : (before.push event).reservations.map (fun entry => entry.2.templateId) =
              before.reservations.map fun entry => entry.2.templateId :=
            Dict.map_set_of_same Reservation.templateId isPrior (template.symm.trans priorTemplate)
          rw [used, same]
          exact ih

theorem Journal.tickets (journal : Journal book ledger) :
    (Dict.keys ledger.reservations).Nodup := by
  induction journal with
  | empty => exact List.nodup_nil
  | push journal admissible ih => exact Dict.keys_set_nodup _ _ _ ih

/-! ### The invariant -/

/-- Everything a ledger keeps to. -/
structure Ledger.Sound (book : Book) (ledger : Ledger) : Prop where
  requests : ledger.reservations.length ≤ 356
  input : (ledger.reservations.map fun entry => entry.2.figures.reservedInput).sum ≤ 3306000
  output : (ledger.reservations.map fun entry => entry.2.figures.reservedOutput).sum ≤ 485500
  tickets : (Dict.keys ledger.reservations).Nodup
  templates : (ledger.reservations.map fun entry => entry.2.templateId).Nodup
  used : ∀ template, template ∈ ledger.usedTemplates ↔
    ∃ entry ∈ ledger.reservations, entry.2.templateId = template
  reservation : ∀ entry ∈ ledger.reservations,
    ∃ ticket, book.tickets.get? entry.1 = some ticket ∧ entry.2.ticketId = entry.1 ∧
      entry.2.templateId = ticket.templateId ∧
      entry.2.figures.reservedInput = max
        (entry.2.figures.tokenizerEstimate + entry.2.figures.calibratedPositiveError + 512)
        (entry.2.figures.modelVisibleByteLength + 1024) ∧
      entry.2.figures.reservedInput ≤ ticket.maxInputTokens ∧
      entry.2.figures.reservedInput ≤ (requestLimit ticket.effectiveRequestClass).maxInput ∧
      entry.2.figures.reservedOutput = ticket.maxOutputTokens ∧
      entry.2.figures.reservedOutput ≤ (requestLimit ticket.effectiveRequestClass).maxOutput
  course : ∀ ticketId, (ledger.history ticketId).map BudgetEvent.state ∈ courses
  unchanged : ∀ ticketId, ∀ left ∈ ledger.history ticketId, ∀ right ∈ ledger.history ticketId,
    left.figures = right.figures
  recorded : ∀ ticketId, (ledger.history ticketId).getLast?.map BudgetEvent.reservation =
    ledger.reservations.get? ticketId
  usage : ∀ entry ∈ ledger.reservations, ∀ usage, entry.2.settledUsage = some usage →
    entry.2.state = .settled ∧ usage.rawUsage.inputTokens ≤ entry.2.figures.reservedInput ∧
      usage.rawUsage.outputTokens ≤ entry.2.figures.reservedOutput

theorem Reservation.Closed.usage {reservation : Reservation} (closed : reservation.Closed)
    {usage : SettledUsage} (settled : reservation.settledUsage = some usage) :
    reservation.state = .settled ∧
      usage.rawUsage.inputTokens ≤ reservation.figures.reservedInput ∧
      usage.rawUsage.outputTokens ≤ reservation.figures.reservedOutput := by
  unfold Reservation.Closed at closed
  cases state : reservation.state with
  | settled =>
      rw [state] at closed
      obtain ⟨_, raw, isRaw, input, output⟩ := closed
      rw [settled] at isRaw
      cases isRaw
      exact ⟨rfl, input, output⟩
  | _ =>
      rw [state] at closed
      rw [settled] at closed
      exact absurd closed.1 (Option.some_ne_none _)

theorem Journal.sound (journal : Journal book ledger) :
    ledger.Sound book := by
  have within := journal.within
  have requests : (ledger.reservations.length : Int) ≤ 356 :=
    not_lt.mp fun above => within (.inl above)
  have input : (ledger.reservations.map fun entry => entry.2.figures.reservedInput).sum ≤ 3306000 :=
    not_lt.mp fun above => within (.inr (.inl above))
  have output :
      (ledger.reservations.map fun entry => entry.2.figures.reservedOutput).sum ≤ 485500 :=
    not_lt.mp fun above => within (.inr (.inr above))
  obtain ⟨templates, distinct⟩ := journal.templates
  have get : ∀ entry ∈ ledger.reservations,
      ledger.reservations.get? entry.1 = some entry.2 := fun entry present =>
    Dict.get?_of_mem _ journal.tickets present
  refine ⟨by omega, input, output, journal.tickets, ?_, ?_, ?_,
    fun ticketId => (journal.leads ticketId).course, ?_, ?_, ?_⟩
  · rw [templates, List.nodup_reverse] at distinct
    exact distinct
  · intro template
    rw [templates, List.mem_reverse, List.mem_map]
  · intro entry present
    have held := journal.held (get entry present)
    obtain ⟨ticket, known, template, fit⟩ := held.ticket
    exact ⟨ticket, known, held.own, template.symm, fit.input, fit.inputTicket, fit.inputClass,
      fit.output, fit.outputClass⟩
  · intro ticketId left inLeft right inRight
    have leads := journal.leads ticketId
    cases found : ledger.reservations.get? ticketId with
    | none =>
        rw [leads.unreserved found] at inLeft
        cases inLeft
    | some reservation =>
        have same := (leads.reserved reservation found).2
        rw [same left inLeft, same right inRight]
  · intro ticketId
    have leads := journal.leads ticketId
    cases found : ledger.reservations.get? ticketId with
    | none =>
        rw [leads.unreserved found]
        rfl
    | some reservation => exact (leads.reserved reservation found).1
  · intro entry present usage settled
    exact (journal.held (get entry present)).closed.usage settled

theorem replay_journal {templates : List TicketTemplate} {tickets : List IssuedBudgetTicket}
    {manifestSha256 : String} {trust : BudgetTrustContext} {current : Int}
    {events : List BudgetEvent} {expected : String}
    (replayed : replay templates tickets manifestSha256 trust current events expected =
      .ok (book, ledger)) :
    Book.load templates tickets manifestSha256 trust current = .ok book ∧ Journal book ledger := by
  unfold replay at replayed
  obtain ⟨_, replayed⟩ := (raiseIf_bind_eq_ok _ _ _ _).mp replayed
  obtain ⟨loaded, isLoaded, replayed⟩ := (bind_eq_ok _ _ _).mp replayed
  obtain ⟨after, isAfter, replayed⟩ := (bind_eq_ok _ _ _).mp replayed
  obtain ⟨_, replayed⟩ := (raiseIf_bind_eq_ok _ _ _ _).mp replayed
  cases replayed
  exact ⟨isLoaded, Journal.empty.replayed isAfter⟩

end

/-- The invariant holds of every ledger that live calls reach, and of every one that a replay
accepts, calls upon it included; and a call that raises changes nothing. -/
theorem budget_ledger_invariant (templates : List TicketTemplate)
    (tickets : List IssuedBudgetTicket) (manifestSha256 : String) (trust : BudgetTrustContext) :
    (∀ current book, Book.load templates tickets manifestSha256 trust current = .ok book →
      ∀ calls, (afterCalls book Ledger.empty calls).Sound book) ∧
    (∀ current events expected book ledger,
      replay templates tickets manifestSha256 trust current events expected = .ok (book, ledger) →
      ∀ calls, (afterCalls book ledger calls).Sound book) ∧
    ∀ book current (call : BudgetCall) ledger denied later,
      call.perform book current ledger = (.error denied, later) → later = ledger := by
  refine ⟨fun current book _ calls => Journal.empty.afterCalls.sound, ?_, ?_⟩
  · intro current events expected book ledger replayed calls
    exact (replay_journal replayed).2.afterCalls.sound
  · intro book current call ledger denied later raised
    exact perform_atomic book current call ledger denied later raised

end EgoAgent.SecureMemory
