import EgoAgent.ResearchOs.AgentMemory

/-!
What a commit keeps of its rendering: how long the projection is, and which facts it lists.
-/

namespace EgoAgent.ResearchOs

open EgoAgent.Api

/-! ### The rendering and its cut -/

def truncationMarker : List Char := "\n\n[focus truncated]\n".toList

/-- The projection before it is cut. -/
def Agent.rendering (agent : Agent) (sequence : Nat) (payload : Payload) (receiptSha256 : Digest)
    (facts : List String) : List Char :=
  strip (joinLines
    (["# Agent Focus".toList, [],
      "> Auto-generated compact projection. SQLite is the local source of truth.".toList, [],
      "- Agent: `".toList ++ agent.agentId.toList ++ ['`'],
      "- Task: `".toList ++ payload.request.taskId.toList ++ ['`'],
      "- Session: `".toList ++ payload.request.sessionId.toList ++ ['`'],
      "- Last stage: `".toList ++ payload.request.stageId.toList ++ ['`'],
      "- Commit sequence: `".toList ++ Nat.toDigits 10 sequence ++ ['`'],
      "- Receipt: `".toList ++ receiptSha256.hex ++ ['`']] ++
    focusSection "Validated facts" facts ++
    focusSection "Decisions" payload.request.decisions ++
    focusSection "Evidence" payload.request.evidence ++
    focusSection "Blockers" payload.request.blockers ++
    focusSection "Next actions" payload.request.nextActions)) ++ ['\n']

def Agent.cut (agent : Agent) (markdown : List Char) : List Char :=
  if agent.maxFocusChars < markdown.length then
    rstrip (sliceTo (agent.maxFocusChars - 18) markdown) ++ truncationMarker
  else markdown

theorem renderFocus_eq (agent : Agent) (sequence : Nat) (payload : Payload)
    (receiptSha256 : Digest) (facts : List String) :
    agent.renderFocus sequence payload receiptSha256 facts =
      agent.cut (agent.rendering sequence payload receiptSha256 facts) := rfl

theorem rstrip_isPrefix (chars : List Char) : rstrip chars <+: chars := by
  unfold rstrip
  rw [← List.reverse_suffix, List.reverse_reverse]
  exact List.dropWhile_suffix _

/-- At least two items are dropped from the front when the first two are to be. -/
theorem length_dropWhile_add_two_le {α : Type} {drops : α → Bool} {items : List α}
    (long : 2 ≤ items.length) :
    (items.dropWhile drops).length + 2 ≤ items.length ↔
      ∀ item ∈ items.take 2, drops item = true := by
  match items, long with
  | first :: second :: rest, _ =>
      have shorter := (List.dropWhile_suffix drops (l := rest)).length_le
      have pair : (first :: second :: rest).take 2 = [first, second] := rfl
      rw [pair, List.length_cons, List.length_cons, List.dropWhile_cons, List.dropWhile_cons]
      cases dropsFirst : drops first <;> cases dropsSecond : drops second <;>
        simp [dropsFirst, dropsSecond]
      omega

/-- A text loses two characters or more when its last two are white space. -/
theorem length_rstrip_add_two_le {chars : List Char} (long : 2 ≤ chars.length) :
    (rstrip chars).length + 2 ≤ chars.length ↔
      ∀ c ∈ chars.drop (chars.length - 2), isSpace c = true := by
  have reversed : 2 ≤ chars.reverse.length := by
    rwa [List.length_reverse]
  have dropped : (chars.reverse.dropWhile isSpace).length + 2 ≤ chars.reverse.length ↔ _ :=
    length_dropWhile_add_two_le reversed
  rw [List.length_reverse, List.take_reverse] at dropped
  unfold rstrip
  rw [List.length_reverse, dropped]
  simp only [List.mem_reverse]

/-- The projection is within the budget; if it was cut, it ends with the marker, after a prefix of
the rendering. -/
structure Agent.WithinBudget (agent : Agent) (rendering markdown : List Char) : Prop where
  length : markdown.length ≤ agent.maxFocusChars
  marked : agent.maxFocusChars < rendering.length →
    ∃ before, markdown = before ++ truncationMarker ∧ before <+: rendering

/-- The two characters before the cut. -/
def Agent.lastKept (agent : Agent) (rendering : List Char) : List Char :=
  (rendering.take (agent.maxFocusChars - 18).toNat).drop (agent.maxFocusChars - 20).toNat

theorem withinBudget_cut_iff {agent : Agent} (large : 64 ≤ agent.maxFocusChars)
    (rendering : List Char) :
    agent.WithinBudget rendering (agent.cut rendering) ↔
      rendering.length ≤ agent.maxFocusChars ∨
        ∀ c ∈ agent.lastKept rendering, isSpace c = true := by
  by_cases fits : rendering.length ≤ agent.maxFocusChars
  · have whole : agent.cut rendering = rendering := if_neg (not_lt.mpr fits)
    refine ⟨fun _ => .inl fits, fun _ => ⟨by rwa [whole], fun longer => ?_⟩⟩
    exact absurd fits (not_le.mpr longer)
  · have longer : agent.maxFocusChars < rendering.length := not_le.mp fits
    have slice : sliceTo (agent.maxFocusChars - 18) rendering =
        rendering.take (agent.maxFocusChars - 18).toNat := if_pos (by omega)
    have cut : agent.cut rendering =
        rstrip (rendering.take (agent.maxFocusChars - 18).toNat) ++ truncationMarker := by
      rw [Agent.cut, if_pos longer, slice]
    have keptLength : (rendering.take (agent.maxFocusChars - 18).toNat).length =
        (agent.maxFocusChars - 18).toNat := by
      rw [List.length_take]
      omega
    have long : 2 ≤ (rendering.take (agent.maxFocusChars - 18).toNat).length := by
      omega
    have stripped := length_rstrip_add_two_le long
    have last : agent.lastKept rendering =
        (rendering.take (agent.maxFocusChars - 18).toNat).drop
          ((rendering.take (agent.maxFocusChars - 18).toNat).length - 2) := by
      rw [Agent.lastKept, keptLength]
      congr 1
      omega
    have marker : truncationMarker.length = 20 := by decide
    rw [last, ← stripped, or_iff_right fits]
    constructor
    · intro within
      have bound := within.length
      rw [cut, List.length_append, marker] at bound
      omega
    · intro shorter
      refine ⟨?_, fun _ => ⟨_, cut, (rstrip_isPrefix _).trans (List.take_prefix _ _)⟩⟩
      rw [cut, List.length_append, marker]
      omega

section Commits

variable (sha256 : Bytes → Digest) (agent : Agent)

/-- The rendering of a commit after these rows, before it is cut. -/
def Rows.rendering (rows : Rows) (payload : Payload) (previousSha256 : Digest) : List Char :=
  agent.rendering (rows.length + 1) payload
    (ladderSha256 sha256 (receiptCore sha256 payload previousSha256))
    (priorFacts (rows.map StageCommit.payload ++ [payload]))

/-- The projection of a commit is within its budget exactly when nothing is cut or the two
characters before the cut are white space: the marker is two characters longer than what is
taken off for it. -/
theorem focus_within_budget_iff (large : 64 ≤ agent.maxFocusChars) (rows : Rows)
    (payload : Payload) (previousSha256 : Digest) :
    agent.WithinBudget (rows.rendering sha256 agent payload previousSha256)
        (rows.nextCommit sha256 agent payload previousSha256).markdown ↔
      (rows.rendering sha256 agent payload previousSha256).length ≤ agent.maxFocusChars ∨
        ∀ c ∈ agent.lastKept (rows.rendering sha256 agent payload previousSha256),
          isSpace c = true := by
  have markdown : (rows.nextCommit sha256 agent payload previousSha256).markdown =
      agent.cut (rows.rendering sha256 agent payload previousSha256) := renderFocus_eq _ _ _ _ _
  rw [markdown]
  exact withinBudget_cut_iff large _

end Commits

/-! ### The facts of the projection -/

/-- The distinct facts of the last eight commits, in the order they first appear. -/
def recentFacts (payloads : List Payload) : List String :=
  (payloads.drop (payloads.length - 8)).foldl (fun facts payload =>
    payload.request.validatedFacts.foldl
      (fun facts fact => if fact ∈ facts then facts else facts ++ [fact]) facts) []

theorem priorFacts_eq (payloads : List Payload) :
    priorFacts payloads = (recentFacts payloads).drop ((recentFacts payloads).length - 12) := rfl

/-- The facts that are not blank. -/
def nonBlank (facts : List String) : List String :=
  facts.filter fun fact => strip fact.toList ≠ []

/-- The form in which a fact is listed. -/
def normalForm (fact : String) : List Char := (strip (collapse false fact.toList)).take 500

theorem nonBlank_suffix {some all : List String} (suffix : some <:+ all) :
    nonBlank some <:+ nonBlank all := by
  obtain ⟨before, rfl⟩ := suffix
  exact ⟨nonBlank before, (List.filter_append ..).symm⟩

/-- The first eight of some listed items are the end of a longer list only when they read like the
last eight. -/
theorem take_eq_suffix_iff {α β : Type} (form : α → β) {listed all : List α}
    (suffix : listed <:+ all) :
    (∃ recent, recent <:+ all ∧ recent.length ≤ 8 ∧
        (listed.map form).take 8 = recent.map form) ↔
      listed.length ≤ 8 ∨
        (listed.take 8).map form = (listed.drop (listed.length - 8)).map form := by
  constructor
  · rintro ⟨recent, isSuffix, _, same⟩
    by_cases few : listed.length ≤ 8
    · exact .inl few
    · refine .inr ?_
      have eight : recent.length = 8 := by
        have lengths := congrArg List.length same
        rw [List.length_take, List.length_map, List.length_map] at lengths
        omega
      have within : recent <:+ listed := List.suffix_of_suffix_length_le isSuffix suffix (by omega)
      have last : recent = listed.drop (listed.length - 8) := by
        have drop := List.suffix_iff_eq_drop.mp within
        rwa [eight] at drop
      rw [← last, ← same, List.map_take]
  · rintro (few | same)
    · refine ⟨listed, suffix, few, List.take_of_length_le ?_⟩
      rwa [List.length_map]
    · by_cases few : listed.length ≤ 8
      · refine ⟨listed, suffix, few, List.take_of_length_le ?_⟩
        rwa [List.length_map]
      · refine ⟨listed.drop (listed.length - 8), (List.drop_suffix _ _).trans suffix, ?_, ?_⟩
        · rw [List.length_drop]
          omega
        · rw [← same, List.map_take]

/-- The payloads up to a commit after these rows. -/
def Rows.payloadsWith (rows : Rows) (payload : Payload) : List Payload :=
  rows.map StageCommit.payload ++ [payload]

/-- The lines that a commit after these rows lists under Validated facts. -/
def Rows.listedFacts (rows : Rows) (payload : Payload) : List (List Char) :=
  items (priorFacts (rows.payloadsWith payload))

/-- Only the normal forms of the last of the recent facts are listed, at most eight. -/
def ListsNewest (payloads : List Payload) (listed : List (List Char)) : Prop :=
  ∃ recent, recent <:+ nonBlank (recentFacts payloads) ∧ recent.length ≤ 8 ∧
    listed = recent.map normalForm

/-- The facts a commit after these rows reads, without the blank ones. -/
def Rows.readFacts (rows : Rows) (payload : Payload) : List String :=
  nonBlank (priorFacts (rows.payloadsWith payload))

theorem readFacts_suffix (rows : Rows) (payload : Payload) :
    rows.readFacts payload <:+ nonBlank (recentFacts (rows.payloadsWith payload)) := by
  refine nonBlank_suffix ?_
  rw [priorFacts_eq]
  exact List.drop_suffix _ _

/-- A commit lists its newest facts exactly when at most eight of the facts it reads are not
blank, or the first eight of these read like the last eight. -/
theorem newest_facts_listed_iff (rows : Rows) (payload : Payload) :
    ListsNewest (rows.payloadsWith payload) (rows.listedFacts payload) ↔
      (rows.readFacts payload).length ≤ 8 ∨
        ((rows.readFacts payload).take 8).map normalForm =
          ((rows.readFacts payload).drop ((rows.readFacts payload).length - 8)).map normalForm :=
  take_eq_suffix_iff normalForm (readFacts_suffix rows payload)

namespace FocusSample

def agent : Agent := ⟨"a", 64⟩

def request (facts : List String) : StageCommitRequest where
  teamId := "t"
  userId := "u"
  sessionId := "s"
  taskId := "k"
  stageId := "g"
  messages := [⟨"user", "m"⟩]
  decisions := ["d"]
  evidence := []
  blockers := []
  nextActions := []
  validatedFacts := facts

def payload (facts : List String) : Payload := ⟨request facts, "a", "2026-01-01T00:00:00Z"⟩

def noHash (_ : Bytes) : Digest := 0

theorem focus_within_budget_iff_sample :
    agent.WithinBudget (Rows.rendering noHash agent [] (payload []) 0)
        (Rows.nextCommit noHash agent [] (payload []) 0).markdown ↔
      (Rows.rendering noHash agent [] (payload []) 0).length ≤ agent.maxFocusChars ∨
        ∀ c ∈ agent.lastKept (Rows.rendering noHash agent [] (payload []) 0), isSpace c = true :=
  focus_within_budget_iff noHash agent (by decide) [] (payload []) 0

def projection : List Char := (Rows.nextCommit noHash agent [] (payload []) 0).markdown

theorem projection_length : projection.length = 66 := by
  decide +kernel

/-- A budget of 64 characters gives a projection of 66. -/
theorem focus_over_budget : projection.length = 66 ∧
    ¬ agent.WithinBudget (Rows.rendering noHash agent [] (payload []) 0) projection := by
  refine ⟨projection_length, fun within => ?_⟩
  have bound := within.length
  rw [projection_length] at bound
  exact absurd bound (by decide)

def nineFacts : List String := ["1", "2", "3", "4", "5", "6", "7", "8", "9"]

/-- Of nine facts of one commit the ninth is left out. -/
theorem newest_fact_dropped :
    Rows.listedFacts [] (payload nineFacts) =
        [['1'], ['2'], ['3'], ['4'], ['5'], ['6'], ['7'], ['8']] ∧
      ¬ ListsNewest (Rows.payloadsWith [] (payload nineFacts))
        (Rows.listedFacts [] (payload nineFacts)) := by
  have facts : Rows.readFacts [] (payload nineFacts) = nineFacts := by
    decide +kernel
  constructor
  · change ((Rows.readFacts [] (payload nineFacts)).map normalForm).take 8 = _
    rw [facts]
    decide +kernel
  · intro newest
    have listed := (take_eq_suffix_iff normalForm (readFacts_suffix [] (payload nineFacts))).mp
      newest
    rw [facts] at listed
    revert listed
    decide +kernel

end FocusSample

end EgoAgent.ResearchOs
