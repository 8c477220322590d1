import EgoAgent.SecureMemory.CandidateRuns

/-!
The quotas of the candidate ledger over a run of proposals on an exact clock.

A reservation charges the three counters before it looks at the clock, and its time enters the
sliding window even when the rate refuses it.  Both are on the safe side: whatever passes is
counted, and every time in the window is no less recent than what passed.
-/

namespace EgoAgent.SecureMemory

open EgoAgent.Api

/-! ### The exact clock -/

/-- Times are rationals, and every reading is taken. -/
def exactClock : CandidateClock ℚ where
  finite := fun _ => true
  before := fun reading last => decide (reading < last)
  aged := fun now time => decide (60 ≤ now - time)
  recent := fun now time => decide (now - time < 1)

section Quotas

variable {φ : Type} [FloatText φ]

/-- A platform whose clock is exact. -/
def CandidatePlatform.exactly (platform : CandidatePlatform φ ℚ) : CandidatePlatform φ ℚ :=
  { platform with clock := exactClock }

structure ProposeCall (φ : Type) where
  document : Option (List (String × Json φ))
  context : CandidateContext
  reading : ℚ

def ProposeCall.turn (call : ProposeCall φ) : SemanticBoundary := call.context.semanticBoundary

def ProposeCall.problem (call : ProposeCall φ) : Problem := call.turn.problem

def ProposeCall.campaign (call : ProposeCall φ) : Campaign := call.problem.campaign

/-! ### What a reservation does -/

/-- The books of the quotas are the same. -/
structure SameQuotas (before later : CandidateLedger ℚ) : Prop where
  turns : later.turns = before.turns
  problems : later.problems = before.problems
  campaigns : later.campaigns = before.campaigns
  rates : later.rates = before.rates
  lastClock : later.lastClock = before.lastClock

theorem SameQuotas.refl (ledger : CandidateLedger ℚ) : SameQuotas ledger ledger :=
  ⟨rfl, rfl, rfl, rfl, rfl⟩

theorem SameQuotas.trans {first second third : CandidateLedger ℚ} (left : SameQuotas first second)
    (right : SameQuotas second third) : SameQuotas first third :=
  ⟨right.turns.trans left.turns, right.problems.trans left.problems,
    right.campaigns.trans left.campaigns, right.rates.trans left.rates,
    right.lastClock.trans left.lastClock⟩

/-- One of the three counters is at its limit. -/
def Exhausted (ledger : CandidateLedger ℚ) (context : CandidateContext) : Prop :=
  16 ≤ ledger.turns context.semanticBoundary ∨
    32 ≤ ledger.problems context.semanticBoundary.problem ∨
    128 ≤ ledger.campaigns context.semanticBoundary.problem.campaign

/-- The times of a campaign that are still in the window. -/
def inWindow (ledger : CandidateLedger ℚ) (campaign : Campaign) (now : ℚ) : List ℚ :=
  (ledger.rates campaign).dropWhile (exactClock.aged now)

/-- Each counter of the context goes up by one, and the time enters the window. -/
def charged (ledger : CandidateLedger ℚ) (context : CandidateContext) (reading : ℚ) :
    CandidateLedger ℚ :=
  let turn := context.semanticBoundary
  let campaign := turn.problem.campaign
  { ledger with
    turns := Function.update ledger.turns turn (ledger.turns turn + 1)
    problems := Function.update ledger.problems turn.problem (ledger.problems turn.problem + 1)
    campaigns := Function.update ledger.campaigns campaign (ledger.campaigns campaign + 1)
    rates := Function.update ledger.rates campaign (inWindow ledger campaign reading ++ [reading])
    lastClock := some reading }

/-- Neither rate refuses the time. -/
def WithinRates (ledger : CandidateLedger ℚ) (campaign : Campaign) (now : ℚ) : Prop :=
  (inWindow ledger campaign now).countP (exactClock.recent now) < 16 ∧
    (inWindow ledger campaign now).length < 32

/-- The clock has not gone back. -/
def InOrder (ledger : CandidateLedger ℚ) (reading : ℚ) : Prop :=
  ∀ last ∈ ledger.lastClock, last ≤ reading

variable (platform : CandidatePlatform φ ℚ)

variable {ledger : CandidateLedger ℚ}

variable {context : CandidateContext}

variable {target : CandidateLedger ℚ → CandidateLedger ℚ}

/-- The ledger after the reservation of an attempt. -/
def reserved (context : CandidateContext) (reading : ℚ) (ledger : CandidateLedger ℚ) :
    CandidateLedger ℚ :=
  (reserveAttempt platform.exactly context reading ledger).2

/-- A proposal whose name is taken, in a form that is looked up at all. -/
def Known (ledger : CandidateLedger ℚ) (call : ProposeCall φ) : Prop :=
  call.document.any (fun document => forbidden platform.exactly.casefold (.dict document)) =
      false ∧
    call.document.bind (differsFrom platform.exactly call.context) = none ∧
    (namedProposal call.document).bind ledger.proposals ≠ none

/-- The attempt is made for the first time, and its proposal is not known. -/
def Reaches (ledger : CandidateLedger ℚ) (call : ProposeCall φ) : Prop :=
  ledger.attempts call.context.attemptKey = none ∧ ¬ Known platform ledger call

/-- The ledger after a call. -/
def ProposeCall.after (ledger : CandidateLedger ℚ) (call : ProposeCall φ) : CandidateLedger ℚ :=
  (propose platform.exactly call.document call.context call.reading ledger).2

instance (ledger : CandidateLedger ℚ) (call : ProposeCall φ) :
    Decidable (Reaches platform ledger call) := by
  unfold Reaches Known
  infer_instance

/-- The attempt is let through by the quotas. -/
def LetThrough (ledger : CandidateLedger ℚ) (call : ProposeCall φ) : Prop :=
  Reaches platform ledger call ∧
    (reserveAttempt platform.exactly call.context call.reading ledger).1.isOk = true

instance (ledger : CandidateLedger ℚ) (call : ProposeCall φ) :
    Decidable (LetThrough platform ledger call) := by
  unfold LetThrough
  infer_instance

/-! ### Runs -/

/-- The calls of a run whose attempts the quotas let through. -/
def passing : CandidateLedger ℚ → List (ProposeCall φ) → List (ProposeCall φ)
  | _, [] => []
  | ledger, call :: rest =>
      (if LetThrough platform ledger call then [call] else []) ++
        passing (call.after platform ledger) rest

/-- The quotas of a ledger bound what has passed. -/
structure BooksBound (calls passed : List (ProposeCall φ)) (ledger : CandidateLedger ℚ) : Prop where
  turnLimit : ∀ turn, ledger.turns turn ≤ 16
  problemLimit : ∀ problem, ledger.problems problem ≤ 32
  campaignLimit : ∀ campaign, ledger.campaigns campaign ≤ 128
  turnCounted : ∀ turn, passed.countP (fun call => call.turn = turn) ≤ ledger.turns turn
  problemCounted : ∀ problem,
    passed.countP (fun call => call.problem = problem) ≤ ledger.problems problem
  campaignCounted : ∀ campaign,
    passed.countP (fun call => call.campaign = campaign) ≤ ledger.campaigns campaign
  minute : ∀ campaign start, passed.countP (fun call =>
    call.campaign = campaign ∧ start ≤ call.reading ∧ call.reading < start + 60) ≤ 32
  second : ∀ campaign start, passed.countP (fun call =>
    call.campaign = campaign ∧ start ≤ call.reading ∧ call.reading < start + 1) ≤ 16
  ascending : ∀ campaign, (ledger.rates campaign).Pairwise (· ≤ ·)
  past : ∀ campaign, ∀ time ∈ ledger.rates campaign, ∃ last ∈ ledger.lastClock, time ≤ last
  clock : ∀ last ∈ ledger.lastClock, ∃ call ∈ calls, call.reading = last
  -- what passed less than a minute ago is still in the window
  kept : ∀ campaign (wanted : ℚ → Bool) now, InOrder ledger now →
    passed.countP (fun call => call.campaign = campaign ∧ wanted call.reading = true ∧
      now - call.reading < 60) ≤
      (ledger.rates campaign).countP (fun time => wanted time = true ∧ now - time < 60)

omit [FloatText φ] in
theorem BooksBound.empty : BooksBound (φ := φ) [] [] .empty where
  turnLimit := fun _ => Nat.zero_le _
  problemLimit := fun _ => Nat.zero_le _
  campaignLimit := fun _ => Nat.zero_le _
  turnCounted := fun _ => Nat.le_refl _
  problemCounted := fun _ => Nat.le_refl _
  campaignCounted := fun _ => Nat.le_refl _
  minute := fun _ _ => Nat.zero_le _
  second := fun _ _ => Nat.zero_le _
  ascending := fun _ => List.Pairwise.nil
  past := fun _ _ member => by cases member
  clock := fun _ member => by cases member
  kept := fun _ _ _ _ => Nat.le_refl _

variable {calls passed : List (ProposeCall φ)} {ledger later : CandidateLedger ℚ}

omit [FloatText φ] in
theorem BooksBound.same (bounded : BooksBound calls passed ledger) (same : SameQuotas ledger later)
    {others : List (ProposeCall φ)} (wider : calls ⊆ others) : BooksBound others passed later where
  turnLimit := same.turns ▸ bounded.turnLimit
  problemLimit := same.problems ▸ bounded.problemLimit
  campaignLimit := same.campaigns ▸ bounded.campaignLimit
  turnCounted := same.turns ▸ bounded.turnCounted
  problemCounted := same.problems ▸ bounded.problemCounted
  campaignCounted := same.campaigns ▸ bounded.campaignCounted
  minute := bounded.minute
  second := bounded.second
  ascending := same.rates ▸ bounded.ascending
  past := same.rates ▸ same.lastClock ▸ bounded.past
  clock := by
    intro last isLast
    rw [same.lastClock] at isLast
    obtain ⟨earlier, member, isReading⟩ := bounded.clock last isLast
    exact ⟨earlier, wider member, isReading⟩
  kept := by
    intro campaign wanted now inOrder
    rw [same.rates]
    refine bounded.kept campaign wanted now fun last isLast => inOrder last ?_
    rw [same.lastClock]
    exact isLast

/-- In an ascending window, dropping the aged times keeps the times of the last minute. -/
theorem inWindow_eq_filter {campaign : Campaign}
    (ascending : (ledger.rates campaign).Pairwise (· ≤ ·)) (now : ℚ) :
    inWindow ledger campaign now =
      (ledger.rates campaign).filter fun time => now - time < 60 := by
  unfold inWindow
  generalize ledger.rates campaign = times at ascending ⊢
  induction times with
  | nil => rfl
  | cons first rest ih =>
      have ⟨above, tail⟩ := List.pairwise_cons.mp ascending
      by_cases aged : 60 ≤ now - first
      · have isAged : exactClock.aged now first = true := decide_eq_true aged
        rw [List.dropWhile_cons_of_pos isAged, ih tail,
          List.filter_cons_of_neg (by simpa using aged)]
      · have notAged : ¬ exactClock.aged now first = true := by simpa [exactClock] using aged
        rw [List.dropWhile_cons_of_neg notAged]
        refine (List.filter_eq_self.mpr fun time member => decide_eq_true ?_).symm
        rcases List.mem_cons.mp member with rfl | later
        · exact not_le.mp aged
        · linarith [above time later, not_le.mp aged]

variable {more : List (ProposeCall φ)} {call : ProposeCall φ}

omit [FloatText φ] in
/-- One more call that counts at most itself. -/
theorem countP_more (isMore : more = [] ∨ more = [call]) (wanted : ProposeCall φ → Bool) :
    more.countP wanted ≤ if wanted call = true then 1 else 0 := by
  rcases isMore with rfl | rfl
  · exact Nat.zero_le _
  · exact Nat.le_of_eq (List.countP_singleton)

omit [FloatText φ] in
/-- A counter that is charged for a call bounds the calls that pass. -/
theorem counted_more {κ : Type} [DecidableEq κ] {key : ProposeCall φ → κ} {counter : κ → Nat}
      (isMore : more = [] ∨ more = [call])
    (counted : ∀ item, passed.countP (fun call => key call = item) ≤ counter item) (item : κ) :
    (passed ++ more).countP (fun call => key call = item) ≤
      Function.update counter (key call) (counter (key call) + 1) item := by
  have one := countP_more isMore fun other => decide (key other = item)
  have before := counted item
  rw [List.countP_append, Function.update_apply]
  by_cases same : key call = item
  · rw [if_pos (decide_eq_true same)] at one
    rw [if_pos same.symm, same]
    omega
  · rw [if_neg (by simpa using same)] at one
    rw [if_neg (Ne.symm same)]
    omega

theorem limit_more {κ : Type} [DecidableEq κ] {counter : κ → Nat} {limit : Nat} {key : κ}
    (limited : ∀ item, counter item ≤ limit) (free : ¬ limit ≤ counter key) (item : κ) :
    Function.update counter key (counter key + 1) item ≤ limit := by
  rw [Function.update_apply]
  split
  · exact not_le.mp free
  · exact limited item

omit [FloatText φ] in
/-- A charged call, with what of it passes. -/
theorem BooksBound.charge (bounded : BooksBound calls passed ledger)
    (inOrder : InOrder ledger call.reading) (free : ¬ Exhausted ledger call.context)
    (isMore : more = [] ∨ more = [call] ∧ WithinRates ledger call.campaign call.reading) :
    BooksBound (calls ++ [call]) (passed ++ more) (charged ledger call.context call.reading) := by
  obtain ⟨turnFree, rest⟩ := not_or.mp free
  obtain ⟨problemFree, campaignFree⟩ := not_or.mp rest
  have isOne : more = [] ∨ more = [call] := isMore.imp_right And.left
  have window := inWindow_eq_filter (bounded.ascending call.campaign) call.reading
  -- within a span no longer than a minute, the window holds what passed before
  have spans : ∀ (span : ℚ) (limit : Nat), span ≤ 60 →
      (WithinRates ledger call.campaign call.reading →
        (ledger.rates call.campaign).countP (fun time =>
          decide (call.reading - time < span) = true ∧ call.reading - time < 60) < limit) →
      (∀ campaign start, passed.countP (fun call => call.campaign = campaign ∧
        start ≤ call.reading ∧ call.reading < start + span) ≤ limit) →
      ∀ campaign start, (passed ++ more).countP (fun call => call.campaign = campaign ∧
        start ≤ call.reading ∧ call.reading < start + span) ≤ limit := by
    intro span limit short room before campaign start
    rw [List.countP_append]
    rcases isMore with rfl | ⟨rfl, within⟩
    · exact before campaign start
    by_cases inside : call.campaign = campaign ∧ start ≤ call.reading ∧ call.reading < start + span
    · have older : passed.countP (fun other => other.campaign = campaign ∧ start ≤ other.reading ∧
          other.reading < start + span) ≤ passed.countP (fun other =>
            other.campaign = call.campaign ∧ decide (call.reading - other.reading < span) = true ∧
              call.reading - other.reading < 60) := by
        refine List.countP_mono_left fun other _ wanted => decide_eq_true ?_
        obtain ⟨sameCampaign, started, ended⟩ := of_decide_eq_true wanted
        exact ⟨sameCampaign.trans inside.1.symm, decide_eq_true (by linarith [inside.2.2]),
          by linarith [inside.2.2]⟩
      have kept := bounded.kept call.campaign
        (fun time => decide (call.reading - time < span)) call.reading inOrder
      have free := room within
      rw [List.countP_singleton, if_pos (decide_eq_true inside)]
      omega
    · rw [List.countP_singleton, if_neg (by simpa using inside)]
      exact before campaign start
  constructor
  · exact limit_more bounded.turnLimit turnFree
  · exact limit_more bounded.problemLimit problemFree
  · exact limit_more bounded.campaignLimit campaignFree
  · exact counted_more isOne bounded.turnCounted
  · exact counted_more isOne bounded.problemCounted
  · exact counted_more isOne bounded.campaignCounted
  · refine spans 60 32 (le_refl _) (fun within => ?_) bounded.minute
    have room := within.2
    rw [window, ← List.countP_eq_length_filter] at room
    simpa using room
  · refine spans 1 16 (by norm_num) (fun within => ?_) bounded.second
    have room := within.1
    rw [window, List.countP_filter] at room
    simpa [exactClock] using room
  · intro campaign
    show (Function.update ledger.rates _ _ campaign).Pairwise _
    rw [Function.update_apply]
    split
    · refine List.pairwise_append.mpr ⟨?_, List.pairwise_singleton _ _, ?_⟩
      · exact (bounded.ascending _).sublist (List.dropWhile_sublist _)
      · intro time member reading isReading
        rw [List.mem_singleton.mp isReading]
        obtain ⟨last, isLast, before⟩ :=
          bounded.past _ time ((List.dropWhile_sublist _).subset member)
        exact before.trans (inOrder last isLast)
    · exact bounded.ascending campaign
  · intro campaign time member
    refine ⟨call.reading, rfl, ?_⟩
    have old : ∀ other, time ∈ ledger.rates other → time ≤ call.reading := by
      intro other listed
      obtain ⟨last, isLast, before⟩ := bounded.past other time listed
      exact before.trans (inOrder last isLast)
    change time ∈ Function.update ledger.rates _ _ campaign at member
    rw [Function.update_apply] at member
    split at member
    · rcases List.mem_append.mp member with earlier | new
      · exact old _ ((List.dropWhile_sublist _).subset earlier)
      · exact le_of_eq (List.mem_singleton.mp new)
    · exact old campaign member
  · rintro last ⟨⟩
    exact ⟨call, List.mem_append_right _ (List.mem_singleton_self call), rfl⟩
  · intro campaign wanted now later
    have nowLater : call.reading ≤ now := later call.reading rfl
    have before := bounded.kept campaign wanted now fun last isLast =>
      (inOrder last isLast).trans nowLater
    have one := countP_more isOne fun other => decide (other.campaign = campaign ∧
      wanted other.reading = true ∧ now - other.reading < 60)
    show _ ≤ (Function.update ledger.rates call.campaign
      (inWindow ledger call.campaign call.reading ++ [call.reading]) campaign).countP _
    rw [List.countP_append, Function.update_apply]
    by_cases same : call.campaign = campaign
    · subst same
      rw [if_pos rfl, window, List.countP_append, List.countP_filter, List.countP_singleton]
      have times : (ledger.rates call.campaign).countP (fun time =>
          decide (wanted time = true ∧ now - time < 60) && decide (call.reading - time < 60)) =
          (ledger.rates call.campaign).countP fun time =>
            decide (wanted time = true ∧ now - time < 60) := by
        refine List.countP_congr fun time _ => ?_
        rw [Bool.and_eq_true, decide_eq_true_eq, decide_eq_true_eq]
        exact ⟨And.left, fun recent => ⟨recent, by linarith [recent.2]⟩⟩
      rw [times]
      simp only [true_and] at one before ⊢
      omega
    · rw [if_neg (Ne.symm same)]
      rw [if_neg (by simp [same])] at one
      omega

/-! ### Sums -/

/-- The counters of the touched turns add up, and no other turn is charged. -/
structure Summed (touched : Finset SemanticBoundary) (ledger : CandidateLedger ℚ) : Prop where
  untouched : ∀ turn, turn ∉ touched → ledger.turns turn = 0
  problems : ∀ problem, ledger.problems problem =
    ∑ turn ∈ touched with turn.problem = problem, ledger.turns turn
  campaigns : ∀ campaign, ledger.campaigns campaign =
    ∑ problem ∈ touched.image SemanticBoundary.problem with problem.campaign = campaign,
      ledger.problems problem

theorem Summed.empty (touched : Finset SemanticBoundary) : Summed touched .empty where
  untouched := fun _ _ => rfl
  problems := fun _ => (Finset.sum_eq_zero fun _ _ => rfl).symm
  campaigns := fun _ => (Finset.sum_eq_zero fun _ _ => rfl).symm

variable {touched : Finset SemanticBoundary}

theorem Summed.same (summed : Summed touched ledger)
    (same : SameQuotas ledger later) : Summed touched later where
  untouched := same.turns ▸ summed.untouched
  problems := same.turns ▸ same.problems ▸ summed.problems
  campaigns := same.campaigns ▸ same.problems ▸ summed.campaigns

/-- One more on a counter is one more on the sum it belongs to. -/
theorem sum_charged {κ ι : Type} [DecidableEq κ] [DecidableEq ι] {parts : Finset κ}
    (part : κ → ι) (counter : κ → Nat) {key : κ} (member : key ∈ parts) (whole : ι) :
    ∑ item ∈ parts with part item = whole, Function.update counter key (counter key + 1) item =
      (∑ item ∈ parts with part item = whole, counter item) +
        if part key = whole then 1 else 0 := by
  have one : ∀ item, Function.update counter key (counter key + 1) item =
      counter item + if key = item then 1 else 0 := by
    intro item
    by_cases same : key = item
    · rw [if_pos same, ← same, Function.update_self]
    · rw [if_neg same, Function.update_of_ne (Ne.symm same), Nat.add_zero]
  rw [Finset.sum_congr rfl fun item _ => one item, Finset.sum_add_distrib, Finset.sum_ite_eq]
  simp only [Finset.mem_filter, member, true_and]

theorem Summed.charge (summed : Summed touched ledger)
    (member : context.semanticBoundary ∈ touched) (reading : ℚ) :
    Summed touched (charged ledger context reading) where
  untouched := by
    intro turn absent
    have other : turn ≠ context.semanticBoundary := by
      rintro rfl
      exact absent member
    show Function.update ledger.turns _ _ turn = 0
    rw [Function.update_of_ne other]
    exact summed.untouched turn absent
  problems := by
    intro problem
    show Function.update ledger.problems _ _ problem =
      ∑ turn ∈ touched with turn.problem = problem, Function.update ledger.turns _ _ turn
    rw [sum_charged SemanticBoundary.problem ledger.turns member, ← summed.problems,
      Function.update_apply]
    by_cases same : context.semanticBoundary.problem = problem
    · rw [if_pos same, if_pos same.symm, same]
    · rw [if_neg same, if_neg (Ne.symm same), Nat.add_zero]
  campaigns := by
    intro campaign
    show Function.update ledger.campaigns _ _ campaign =
      ∑ problem ∈ touched.image SemanticBoundary.problem with problem.campaign = campaign,
        Function.update ledger.problems _ _ problem
    rw [sum_charged Problem.campaign ledger.problems (Finset.mem_image_of_mem _ member),
      ← summed.campaigns, Function.update_apply]
    by_cases same : context.semanticBoundary.problem.campaign = campaign
    · rw [if_pos same, if_pos same.symm, same]
    · rw [if_neg same, if_neg (Ne.symm same), Nat.add_zero]

/-! ### The whole run -/

/-- How a call moves the counters. -/
inductive Accounted (ledger : CandidateLedger ℚ) (call : ProposeCall φ) :
    List (ProposeCall φ) → CandidateLedger ℚ → Prop
  | spared {later : CandidateLedger ℚ}
      (spared : ¬ Reaches platform ledger call ∨ Exhausted ledger call.context)
      (same : SameQuotas ledger later) : Accounted ledger call [] later
  | charged {later : CandidateLedger ℚ} {more : List (ProposeCall φ)}
      (reserves : Reaches platform ledger call) (free : ¬ Exhausted ledger call.context)
      (isMore : more = [] ∨ more = [call] ∧ WithinRates ledger call.campaign call.reading)
      (settled : SameQuotas (charged ledger call.context call.reading) later) :
      Accounted ledger call more later

omit [FloatText φ] in
theorem Accounted.bounded
    (moves : Accounted platform ledger call more later) (inOrder : InOrder ledger call.reading)
    (bounded : BooksBound calls passed ledger) :
    BooksBound (calls ++ [call]) (passed ++ more) later := by
  cases moves with
  | spared spared same =>
      rw [List.append_nil]
      exact bounded.same same (List.subset_append_left _ _)
  | charged reserves free isMore settled =>
      exact (bounded.charge inOrder free isMore).same settled (List.Subset.refl _)

omit [FloatText φ] in
theorem Accounted.summed (moves : Accounted platform ledger call more later)
    (member : call.turn ∈ touched) (summed : Summed touched ledger) : Summed touched later := by
  cases moves with
  | spared spared same => exact summed.same same
  | charged reserves free isMore settled => exact (summed.charge member call.reading).same settled

end Quotas

namespace CandidateSample

end CandidateSample

end EgoAgent.SecureMemory
