import EgoAgent.SecureMemory.BudgetRecovery

/-!
Retry tickets as retries: what holds of the runs in which no `reserve` names a retry ticket and
no original is named for a second one.
-/

namespace EgoAgent.SecureMemory

open EgoAgent.Api

/-! ### Retries and their originals -/

/-- The ticket is one of a template with a retry owner. -/
def Book.IsRetry (book : Book) (ticketId : String) : Prop :=
  ∃ ticket, book.tickets.get? ticketId = some ticket ∧
    ∃ template, book.templates.get? ticket.templateId = some template ∧ template.retryOwner ≠ none

def transientReasons : List (Option String) := [some "429", some "5xx", some "timeout"]

/-- What a retry ticket repeats of the original's. -/
structure IssuedBudgetTicket.Repeats (retry original : IssuedBudgetTicket) : Prop where
  campaign : retry.campaignId = original.campaignId
  configuration : retry.configurationId = original.configurationId
  phaseOwner : retry.executionPhaseOwner = original.executionPhaseOwner
  project : retry.projectId = original.projectId
  task : retry.taskId = original.taskId
  worker : retry.worker = original.worker
  user : retry.matrixUserId = original.matrixUserId
  role : retry.allowedRole = original.allowedRole
  requestClass : retry.effectiveRequestClass = original.effectiveRequestClass
  phase : retry.usagePhase = original.usagePhase
  input : retry.maxInputTokens = original.maxInputTokens
  output : retry.maxOutputTokens = original.maxOutputTokens

/-- The original was retained for a transient failure before the retry was reserved, and still
is. -/
structure Justifies (book : Book) (ledger : Ledger) (originalId retryId : String) : Prop where
  distinct : originalId ≠ retryId
  retained : ∃ original, ledger.reservations.get? originalId = some original ∧
    original.state = .retained ∧ original.retainedReason ∈ transientReasons
  before : ∃ closing ∈ ledger.events, ∃ opening ∈ ledger.events,
    closing.ticketId = originalId ∧ closing.state = .retained ∧
      closing.retainedReason ∈ transientReasons ∧
      opening.ticketId = retryId ∧ opening.state = .reserved ∧
      closing.sequence < opening.sequence
  repeats : ∃ retry original, book.tickets.get? retryId = some retry ∧
    book.tickets.get? originalId = some original ∧ retry.Repeats original

/-- Every reserved retry ticket has an original of its own. -/
def Ledger.RetriesJustified (book : Book) (ledger : Ledger) : Prop :=
  ∃ originalOf : String → String,
    (∀ retryId reservation, ledger.reservations.get? retryId = some reservation →
      book.IsRetry retryId → Justifies book ledger (originalOf retryId) retryId) ∧
    ∀ firstId first secondId second, ledger.reservations.get? firstId = some first →
      ledger.reservations.get? secondId = some second → book.IsRetry firstId →
      book.IsRetry secondId → originalOf firstId = originalOf secondId → firstId = secondId

/-! ### The retries a run has made -/

/-- The retry and the original of a call, when it is a retry that returns. -/
def BudgetCall.retries (book : Book) (current : Int) (ledger : Ledger) :
    BudgetCall → List (String × String)
  | .reserveRetry retryTicketId originalTicketId request =>
      match (SecureMemory.reserveRetry book current retryTicketId originalTicketId request
        ledger).1 with
      | .ok _ => [(retryTicketId, originalTicketId)]
      | .error _ => []
  | .reserve _ _ | .markDispatched _ | .retain _ _ | .settle _ _ => []

/-- The retries of a run, each with the original it named. -/
def retriesOf (book : Book) : Ledger → List (Int × BudgetCall) → List (String × String)
  | _, [] => []
  | ledger, (current, call) :: rest =>
      call.retries book current ledger ++ retriesOf book (call.perform book current ledger).2 rest

/-- The call reserves no retry ticket as an ordinary one, and names no original for which the run
has already made another retry. -/
def BudgetCall.Single (book : Book) (retried : List (String × String)) : BudgetCall → Prop
  | .reserve ticketId _ => ¬ book.IsRetry ticketId
  | .reserveRetry retryTicketId originalTicketId _ =>
      ∀ retryId, (retryId, originalTicketId) ∈ retried → retryId = retryTicketId
  | .markDispatched _ | .retain _ _ | .settle _ _ => True

theorem afterCalls_append (book : Book) (ledger : Ledger) (first second : List (Int × BudgetCall)) :
    afterCalls book ledger (first ++ second) =
      afterCalls book (afterCalls book ledger first) second :=
  List.foldl_append

theorem retriesOf_append (book : Book) :
    ∀ (first second : List (Int × BudgetCall)) (ledger : Ledger),
      retriesOf book ledger (first ++ second) =
        retriesOf book ledger first ++ retriesOf book (afterCalls book ledger first) second
  | [], _, _ => rfl
  | (current, call) :: rest, second, ledger => by
      rw [List.cons_append, retriesOf, retriesOf, retriesOf_append book rest second,
        List.append_assoc]
      rfl

/-! ### One step -/

section

variable {book : Book} {ledger : Ledger} {event : BudgetEvent}

theorem Journal.sequence_le (journal : Journal book ledger) (present : event ∈ ledger.events) :
    event.sequence ≤ ledger.events.length := by
  induction journal with
  | empty => cases present
  | push journal admissible ih =>
      rename_i before latest
      have length : (before.push latest).events.length = before.events.length + 1 :=
        List.length_append
      rw [length]
      rcases List.mem_append.mp present with earlier | isLatest
      · have bound := ih earlier
        omega
      · rw [List.mem_singleton.mp isLatest, admissible.sequence]
        omega

/-- The reservation of a ticket is that of one of its events. -/
theorem Journal.event_of (journal : Journal book ledger)
    {ticketId : String} {reservation : Reservation}
    (found : ledger.reservations.get? ticketId = some reservation) :
    ∃ event ∈ ledger.events, event.ticketId = ticketId ∧ event.reservation = reservation := by
  obtain ⟨last, _⟩ := (journal.leads ticketId).reserved reservation found
  obtain ⟨event, isLast, same⟩ := Option.map_eq_some_iff.mp last
  have member := List.mem_of_getLast? isLast
  rw [Ledger.history, List.mem_filter, decide_eq_true_iff] at member
  exact ⟨event, member.1, member.2, same⟩

/-- Nothing follows a retained reservation. -/
theorem Admissible.retained_kept
    (admissible : Admissible book ledger event) {ticketId : String} {reservation : Reservation}
    (found : ledger.reservations.get? ticketId = some reservation)
    (retained : reservation.state = .retained) :
    (ledger.push event).reservations.get? ticketId = some reservation := by
  by_cases same : ticketId = event.ticketId
  · have moves := admissible.moves
    unfold Moves at moves
    rw [← same, found] at moves
    have follows := moves.2.2
    rw [retained] at follows
    cases follows
  · rw [Ledger.push, Dict.get?_set_ne _ _ same]
    exact found

theorem Justifies.push
    {originalId retryId : String} (justifies : Justifies book ledger originalId retryId)
    (admissible : Admissible book ledger event) :
    Justifies book (ledger.push event) originalId retryId := by
  obtain ⟨original, found, retained, reason⟩ := justifies.retained
  obtain ⟨closing, isClosing, opening, isOpening, order⟩ := justifies.before
  exact ⟨justifies.distinct, ⟨original, admissible.retained_kept found retained, retained, reason⟩,
    ⟨closing, List.mem_append_left _ isClosing, opening, List.mem_append_left _ isOpening, order⟩,
    justifies.repeats⟩

/-- The retries made so far account for the reserved retry tickets. -/
structure Accounts (book : Book) (ledger : Ledger) (retried : List (String × String)) : Prop where
  covered : ∀ retryId reservation, ledger.reservations.get? retryId = some reservation →
    book.IsRetry retryId → ∃ originalId, (retryId, originalId) ∈ retried
  justified : ∀ retryId originalId, (retryId, originalId) ∈ retried →
    Justifies book ledger originalId retryId
  single : ∀ firstId secondId originalId, (firstId, originalId) ∈ retried →
    (secondId, originalId) ∈ retried → firstId = secondId

variable {retried : List (String × String)}

theorem Accounts.retriesJustified (accounts : Accounts book ledger retried) :
    ledger.RetriesJustified book := by
  have chosen : ∀ retryId, ∃ originalId, ∀ reservation,
      ledger.reservations.get? retryId = some reservation → book.IsRetry retryId →
        (retryId, originalId) ∈ retried := by
    intro retryId
    by_cases reserved : ∃ reservation, ledger.reservations.get? retryId = some reservation ∧
        book.IsRetry retryId
    · obtain ⟨reservation, found, isRetry⟩ := reserved
      obtain ⟨originalId, made⟩ := accounts.covered retryId reservation found isRetry
      exact ⟨originalId, fun _ _ _ => made⟩
    · exact ⟨"", fun reservation found isRetry => absurd ⟨reservation, found, isRetry⟩ reserved⟩
  choose originalOf made using chosen
  refine ⟨originalOf, ?_, ?_⟩
  · intro retryId reservation found isRetry
    exact accounts.justified _ _ (made retryId reservation found isRetry)
  · intro firstId first secondId second isFirst isSecond firstRetry secondRetry same
    have firstMade := made firstId first isFirst firstRetry
    rw [same] at firstMade
    exact accounts.single _ _ _ firstMade (made secondId second isSecond secondRetry)

/-- A step that reserves no retry ticket leaves the accounts as they are. -/
theorem Accounts.push (accounts : Accounts book ledger retried)
    (admissible : Admissible book ledger event)
    (ordinary : event.state = .reserved → ¬ book.IsRetry event.ticketId) :
    Accounts book (ledger.push event) retried := by
  refine ⟨?_, fun retryId originalId made => (accounts.justified _ _ made).push admissible,
    accounts.single⟩
  intro retryId reservation found isRetry
  by_cases same : retryId = event.ticketId
  · have moves := admissible.moves
    unfold Moves at moves
    cases isPrior : ledger.reservations.get? event.ticketId with
    | none =>
        rw [isPrior] at moves
        exact absurd (same ▸ isRetry) (ordinary moves.2.1)
    | some prior => exact accounts.covered retryId prior (same ▸ isPrior) isRetry
  · rw [Ledger.push, Dict.get?_set_ne _ _ same] at found
    exact accounts.covered retryId reservation found isRetry

/-- The tickets of a loaded book are those of their templates. -/
def Book.Bound (book : Book) : Prop :=
  ∀ ticketId ticket template, book.tickets.get? ticketId = some ticket →
    book.templates.get? ticket.templateId = some template →
    ticket.executionPhaseOwner = template.executionPhaseOwner ∧
      (template.retryOwner ≠ none → template.retryOwner = some template.executionPhaseOwner)

/-- A retry gives its ticket an original. -/
theorem Accounts.push_retry {retryId originalId : String} (bound : book.Bound)
    (journal : Journal book ledger) (accounts : Accounts book ledger retried)
    (admissible : Admissible book ledger event) (isTicket : event.ticketId = retryId)
    (reserved : event.state = .reserved) (retryOf : RetryOf book ledger retryId originalId)
    (single : ∀ otherId, (otherId, originalId) ∈ retried → otherId = retryId) :
    Accounts book (ledger.push event) (retried ++ [(retryId, originalId)]) := by
  obtain ⟨original, found, retained, reason⟩ := retryOf.original
  obtain ⟨retryTicket, originalTicket, template, isRetryTicket, isOriginalTicket, isTemplate,
    owner, campaign, configuration, project, task, worker, user, role, requestClass, phase, input,
    output⟩ := retryOf.bound
  have unreserved : ledger.reservations.get? retryId = none :=
    isTicket ▸ admissible.opens_fresh reserved
  have justifies : Justifies book (ledger.push event) originalId retryId := by
    refine ⟨?_, ⟨original, admissible.retained_kept found retained, retained, reason⟩, ?_, ?_⟩
    · rintro rfl
      rw [unreserved] at found
      cases found
    · obtain ⟨closing, isClosing, own, same⟩ := journal.event_of found
      refine ⟨closing, List.mem_append_left _ isClosing, event,
        List.mem_append_right _ (List.mem_singleton.mpr rfl), own, ?_, ?_, isTicket, reserved, ?_⟩
      · rw [← retained, ← same]
        rfl
      · have recorded : closing.retainedReason = original.retainedReason := by
          rw [← same]
          rfl
        rw [recorded]
        exact reason
      · have bound := journal.sequence_le isClosing
        rw [admissible.sequence]
        omega
    · obtain ⟨ownerIs, retryOwnerIs⟩ := bound _ _ _ isRetryTicket isTemplate
      have phaseOwner := retryOwnerIs (by rw [owner]; exact Option.some_ne_none _)
      rw [owner, ← ownerIs, Option.some_inj] at phaseOwner
      exact ⟨retryTicket, originalTicket, isRetryTicket, isOriginalTicket, campaign, configuration,
        phaseOwner.symm, project, task, worker, user, role, requestClass, phase, input, output⟩
  refine ⟨?_, ?_, ?_⟩
  · intro otherId reservation isOther isRetry
    by_cases same : otherId = event.ticketId
    · rw [same, isTicket]
      exact ⟨originalId, List.mem_append_right _ (List.mem_singleton.mpr rfl)⟩
    · rw [Ledger.push, Dict.get?_set_ne _ _ same] at isOther
      obtain ⟨madeFor, made⟩ := accounts.covered otherId reservation isOther isRetry
      exact ⟨madeFor, List.mem_append_left _ made⟩
  · intro otherId madeFor made
    rcases List.mem_append.mp made with earlier | now
    · exact (accounts.justified _ _ earlier).push admissible
    · cases List.mem_singleton.mp now
      exact justifies
  · intro firstId secondId madeFor firstMade secondMade
    rcases List.mem_append.mp firstMade with firstEarlier | firstNow
    · rcases List.mem_append.mp secondMade with secondEarlier | secondNow
      · exact accounts.single _ _ _ firstEarlier secondEarlier
      · cases List.mem_singleton.mp secondNow
        exact single _ firstEarlier
    · cases List.mem_singleton.mp firstNow
      rcases List.mem_append.mp secondMade with secondEarlier | secondNow
      · exact (single _ secondEarlier).symm
      · cases List.mem_singleton.mp secondNow
        rfl

theorem checkTicket_bound {items : Dict String TicketTemplate} {trust : BudgetTrustContext}
    {current : Int} {ticket : IssuedBudgetTicket} {template : TicketTemplate}
    (passed : checkTicket items trust current ticket = .ok ())
    (found : items.get? ticket.templateId = some template) :
    ticket.executionPhaseOwner = template.executionPhaseOwner ∧
      (template.retryOwner ≠ none → template.retryOwner = some template.executionPhaseOwner) := by
  unfold checkTicket at passed
  rw [found, (expect_eq_ok _ _ _).mpr rfl, ok_bind] at passed
  obtain ⟨_, passed⟩ := (raiseIf_bind_eq_ok _ _ _ _).mp passed
  obtain ⟨retry, passed⟩ := (raiseIf_bind_eq_ok _ _ _ _).mp passed
  have binding := (raiseIf_eq_ok _ _ _).mp passed
  rw [not_or] at binding
  refine ⟨not_not.mp binding.1, fun isRetry => ?_⟩
  by_contra other
  exact retry ⟨isRetry, .inl other⟩

theorem load_bound {templates : List TicketTemplate} {tickets : List IssuedBudgetTicket}
    {manifestSha256 : String} {trust : BudgetTrustContext} {start : Int}
    (loaded : Book.load templates tickets manifestSha256 trust start = .ok book) : book.Bound := by
  unfold Book.load at loaded
  iterate 8 obtain ⟨_, loaded⟩ := (raiseIf_bind_eq_ok _ _ _ _).mp loaded
  obtain ⟨_, passed, loaded⟩ := (bind_eq_ok _ _ _).mp loaded
  cases loaded
  intro ticketId ticket template isTicket isTemplate
  obtain ⟨entry, member, same⟩ := List.mem_map.mp (Dict.mem_of_get? _ isTicket)
  cases same
  exact checkTicket_bound (forM_eq_ok passed ticket member) isTemplate

/-- A call that meets the condition keeps the accounts. -/
theorem Accounts.perform
    (bound : book.Bound) (journal : Journal book ledger) (accounts : Accounts book ledger retried)
    (current : Int) (call : BudgetCall) (single : call.Single book retried) :
    Accounts book (call.perform book current ledger).2
      (retried ++ call.retries book current ledger) := by
  rcases perform_cases journal current call with ⟨denied, ran⟩ | ⟨event, admissible, makes, ran⟩
  · rw [ran]
    have none : call.retries book current ledger = [] := by
      cases call with
      | reserveRetry retryTicketId originalTicketId request =>
          rcases (Effect.bind_eq_error _ _ _ _ _).mp ran with early | ⟨_, _, _, late⟩
          · simp only [BudgetCall.retries, early]
          · cases late
      | reserve => rfl
      | markDispatched => rfl
      | retain => rfl
      | settle => rfl
    rw [none, List.append_nil]
    exact accounts
  · rw [ran]
    cases call with
    | reserve ticketId request =>
        rw [BudgetCall.retries, List.append_nil]
        exact accounts.push admissible fun _ => makes.1 ▸ single
    | reserveRetry retryTicketId originalTicketId request =>
        obtain ⟨reservation, _, returned, _⟩ := (Effect.bind_eq_ok _ _ _ _ _).mp ran
        simp only [BudgetCall.retries, returned]
        exact accounts.push_retry bound journal admissible makes.1 makes.2.1 makes.2.2 single
    | markDispatched ticketId =>
        rw [BudgetCall.retries, List.append_nil]
        refine accounts.push admissible fun reserved => ?_
        rw [makes.2] at reserved
        cases reserved
    | retain ticketId reason =>
        rw [BudgetCall.retries, List.append_nil]
        refine accounts.push admissible fun reserved => ?_
        rw [makes.2.1] at reserved
        cases reserved
    | settle ticketId rawUsage =>
        rw [BudgetCall.retries, List.append_nil]
        refine accounts.push admissible fun reserved => ?_
        rw [makes.2.1] at reserved
        cases reserved

/-! ### Runs -/

/-- Every call of the run meets the condition. -/
def AllSingle (book : Book) (calls : List (Int × BudgetCall)) : Prop :=
  ∀ done current call rest, calls = done ++ (current, call) :: rest →
    call.Single book (retriesOf book Ledger.empty done)

theorem AllSingle.before {first second : List (Int × BudgetCall)}
    (single : AllSingle book (first ++ second)) : AllSingle book first := by
  intro done current call rest split
  refine single done current call (rest ++ second) ?_
  rw [split, List.append_assoc]
  rfl

theorem AllSingle.nil (book : Book) : AllSingle book [] := by
  intro done current call rest split
  exact absurd split.symm (List.append_ne_nil_of_right_ne_nil _ (List.cons_ne_nil _ _))

theorem AllSingle.snoc {done : List (Int × BudgetCall)} (single : AllSingle book done)
    (current : Int) (call : BudgetCall)
    (next : call.Single book (retriesOf book Ledger.empty done)) :
    AllSingle book (done ++ [(current, call)]) := by
  intro before sequence other rest split
  rcases List.eq_nil_or_concat rest with rfl | ⟨between, last, rfl⟩
  · obtain ⟨rfl, latest⟩ := List.append_inj' split rfl
    cases latest
    exact next
  · rw [List.concat_eq_append, ← List.cons_append, ← List.append_assoc] at split
    obtain ⟨earlier, _⟩ := List.append_inj' split rfl
    exact single before sequence other between earlier

theorem Accounts.start (book : Book) : Accounts book Ledger.empty [] := by
  refine ⟨?_, ?_, ?_⟩
  · intro retryId reservation found
    cases found
  · intro retryId originalId made
    cases made
  · intro firstId secondId originalId made
    cases made

theorem Accounts.afterCalls (bound : book.Bound) (calls : List (Int × BudgetCall))
    (single : AllSingle book calls) :
    Accounts book (afterCalls book Ledger.empty calls) (retriesOf book Ledger.empty calls) := by
  induction calls using List.reverseRecOn with
  | nil => exact Accounts.start book
  | append_singleton done latest ih =>
      obtain ⟨current, call⟩ := latest
      have journal : Journal book (SecureMemory.afterCalls book Ledger.empty done) :=
        Journal.empty.afterCalls
      have step := (ih single.before).perform bound journal current call
        (single done current call [] rfl)
      rw [afterCalls_append, retriesOf_append]
      have retries : retriesOf book (SecureMemory.afterCalls book Ledger.empty done)
          [(current, call)] =
            call.retries book current (SecureMemory.afterCalls book Ledger.empty done) :=
        List.append_nil _
      rw [retries]
      exact step

end

/-- In a run that names no retry ticket to `reserve`, and no original for a second retry, every
ledger reached has an original of its own behind each retry ticket it has reserved. -/
theorem retries_justified (templates : List TicketTemplate) (tickets : List IssuedBudgetTicket)
    (manifestSha256 : String) (trust : BudgetTrustContext) (start : Int) (book : Book)
    (calls : List (Int × BudgetCall))
    (loaded : Book.load templates tickets manifestSha256 trust start = .ok book)
    (single : AllSingle book calls) :
    ∀ done rest, calls = done ++ rest →
      (afterCalls book Ledger.empty done).RetriesJustified book := by
  rintro done rest rfl
  exact (Accounts.afterCalls (load_bound loaded) done single.before).retriesJustified

namespace BudgetSample

theorem not_isRetry : ¬ book.IsRetry "ticket-1" := by
  rintro ⟨issued, isIssued, ofIssued, isTemplate, retry⟩
  have known : book.tickets.get? "ticket-1" = some (ticket "ticket-1" "template-1" 1) := rfl
  rw [known] at isIssued
  cases isIssued
  rw [found] at isTemplate
  cases isTemplate
  exact retry rfl

theorem isRetry : book.IsRetry "retry-ticket" :=
  ⟨_, rfl, _, retry_found, Option.some_ne_none _⟩

abbrev retriedCalls : List (Int × BudgetCall) :=
  [(2, .reserve "ticket-1" request), (2, .markDispatched "ticket-1"), (3, .retain "ticket-1" "429"),
    (4, .reserveRetry "retry-ticket" "ticket-1" request)]

theorem retriedCalls_single : AllSingle book retriedCalls := by
  have first : AllSingle book [(2, .reserve "ticket-1" request)] :=
    (AllSingle.nil book).snoc _ _ not_isRetry
  have second := first.snoc 2 (.markDispatched "ticket-1") trivial
  have third := second.snoc 3 (.retain "ticket-1" "429") trivial
  exact third.snoc 4 (.reserveRetry "retry-ticket" "ticket-1" request) nofun

theorem retries_justified_sample :
    (afterCalls book Ledger.empty retriedCalls).RetriesJustified book ∧
      ((afterCalls book Ledger.empty retriedCalls).reservations.get?
        "retry-ticket").isSome = true :=
  ⟨retries_justified _ _ _ _ 2 book retriedCalls loaded retriedCalls_single retriedCalls []
    rfl, by decide +kernel⟩

/-- `reserve` takes a retry ticket without any original. -/
theorem reserved_without_original :
    Book.load templates tickets manifest trust 2 = .ok book ∧
      ¬ (afterCalls book Ledger.empty [(2, .reserve "retry-ticket" request)]).RetriesJustified
        book := by
  refine ⟨loaded, ?_⟩
  rintro ⟨originalOf, justified, _⟩
  have reserved : ((afterCalls book Ledger.empty
      [(2, .reserve "retry-ticket" request)]).reservations.get? "retry-ticket").isSome = true := by
    decide +kernel
  have keys : (afterCalls book Ledger.empty
      [(2, .reserve "retry-ticket" request)]).reservations.keys = ["retry-ticket"] := by
    decide +kernel
  obtain ⟨reservation, isReserved⟩ := Option.isSome_iff_exists.mp reserved
  have justifies := justified "retry-ticket" reservation isReserved isRetry
  obtain ⟨original, isOriginal, _⟩ := justifies.retained
  have key := (Dict.mem_keys_iff _ _).mpr ⟨original, isOriginal⟩
  rw [keys, List.mem_singleton] at key
  exact justifies.distinct key

end BudgetSample

end EgoAgent.SecureMemory
