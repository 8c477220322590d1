import EgoAgent.Api.Provenance

/-!
`PerAgentFocusMemory`: one agent's chain of stage commits and its FOCUS.md.

A commit reads the last receipt, then writes its row in a transaction that
begins at the first INSERT, then replaces FOCUS.md.  Any number of commits run
at once; every one of these steps can fall between two steps of another.
-/

namespace EgoAgent.ResearchOs

open EgoAgent.Api

/-! ### Requests -/

structure FocusMessage where
  role : String
  content : String

structure StageCommitRequest where
  teamId : String
  userId : String
  sessionId : String
  taskId : String
  stageId : String
  messages : List FocusMessage
  decisions : List String
  evidence : List String
  blockers : List String
  nextActions : List String
  validatedFacts : List String

/-- The payload of a commit: its request, the agent and the time. -/
structure Payload where
  request : StageCommitRequest
  agentId : String
  committedAt : String

def jsonStrings (texts : List String) : Json Empty := .list (texts.map .str)

def FocusMessage.json (message : FocusMessage) : Json Empty :=
  .dict [("role", .str message.role), ("content", .str message.content)]

def Payload.json (payload : Payload) : Json Empty :=
  .dict
    [("team_id", .str payload.request.teamId), ("user_id", .str payload.request.userId),
      ("session_id", .str payload.request.sessionId), ("task_id", .str payload.request.taskId),
      ("stage_id", .str payload.request.stageId),
      ("messages", .list (payload.request.messages.map FocusMessage.json)),
      ("decisions", jsonStrings payload.request.decisions),
      ("evidence", jsonStrings payload.request.evidence),
      ("blockers", jsonStrings payload.request.blockers),
      ("next_actions", jsonStrings payload.request.nextActions),
      ("validated_facts", jsonStrings payload.request.validatedFacts),
      ("agent_id", .str payload.agentId), ("committed_at", .str payload.committedAt)]

/-- `ladder.canonical_sha256`. -/
def ladderSha256 (sha256 : Bytes → Digest) (value : Json Empty) : Digest :=
  sha256 (utf8Encode value.sorted.text)

def zeroHash : Digest := 0

/-! ### The projection -/

/-- `str.isspace`, which `\s` and `strip` share. -/
def isSpace (c : Char) : Bool :=
  (9 ≤ c.toNat && c.toNat ≤ 13) || (28 ≤ c.toNat && c.toNat ≤ 32) || c.toNat = 0x85 ||
    c.toNat = 0xA0 || c.toNat = 0x1680 || (0x2000 ≤ c.toNat && c.toNat ≤ 0x200A) ||
    c.toNat = 0x2028 || c.toNat = 0x2029 || c.toNat = 0x202F || c.toNat = 0x205F ||
    c.toNat = 0x3000

def rstrip (chars : List Char) : List Char := (chars.reverse.dropWhile isSpace).reverse

def strip (chars : List Char) : List Char := rstrip (chars.dropWhile isSpace)

/-- Every run of white space becomes one blank. -/
def collapse : Bool → List Char → List Char
  | _, [] => []
  | inSpace, c :: rest =>
      if isSpace c then if inSpace then collapse true rest else ' ' :: collapse true rest
      else c :: collapse false rest

def items (values : List String) : List (List Char) :=
  ((values.filter fun value => strip value.toList ≠ []).map fun value =>
    (strip (collapse false value.toList)).take 500).take 8

/-- `text[:stop]`, where a negative stop counts from the end. -/
def sliceTo (stop : Int) (chars : List Char) : List Char :=
  if 0 ≤ stop then chars.take stop.toNat else chars.take (chars.length - stop.natAbs)

def focusSection (title : String) (values : List String) : List (List Char) :=
  [[], "## ".toList ++ title.toList, []] ++
    match items values with
    | [] => ["- None".toList]
    | normalized => normalized.map fun item => "- ".toList ++ item

def joinLines : List (List Char) → List Char
  | [] => []
  | [line] => line
  | line :: rest => line ++ '\n' :: joinLines rest

structure Agent where
  agentId : String
  maxFocusChars : Int

def Agent.renderFocus (agent : Agent) (sequence : Nat) (payload : Payload) (receiptSha256 : Digest)
    (facts : List String) : List Char :=
  let sections :=
    ["# Agent Focus".toList, [],
      "> Auto-generated compact projection. SQLite is the local source of truth.".toList, [],
      "- Agent: `".toList ++ agent.agentId.toList ++ ['`'],
      "- Task: `".toList ++ payload.request.taskId.toList ++ ['`'],
      "- Session: `".toList ++ payload.request.sessionId.toList ++ ['`'],
      "- Last stage: `".toList ++ payload.request.stageId.toList ++ ['`'],
      "- Commit sequence: `".toList ++ Nat.toDigits 10 sequence ++ ['`'],
      "- Receipt: `".toList ++ receiptSha256.hex ++ ['`']] ++
    focusSection "Validated facts" facts ++
    focusSection "Decisions" payload.request.decisions ++
    focusSection "Evidence" payload.request.evidence ++
    focusSection "Blockers" payload.request.blockers ++
    focusSection "Next actions" payload.request.nextActions
  let markdown := strip (joinLines sections) ++ ['\n']
  if agent.maxFocusChars < markdown.length then
    rstrip (sliceTo (agent.maxFocusChars - 18) markdown) ++ "\n\n[focus truncated]\n".toList
  else markdown

/-! ### Rows -/

/-- A committed row of `stage_commits` with its conversation and its snapshot. -/
structure StageCommit where
  sequence : Nat
  payload : Payload
  payloadSha256 : Digest
  previousSha256 : Digest
  receiptSha256 : Digest
  markdown : List Char

/-- The rows in the order of their sequences, which AUTOINCREMENT counts from 1. -/
abbrev Rows := List StageCommit

def Rows.lastReceipt (rows : Rows) : Digest :=
  (rows.getLast?.map StageCommit.receiptSha256).getD zeroHash

/-- `_prior_facts`: the distinct facts of the last eight commits, oldest first. -/
def priorFacts (payloads : List Payload) : List String :=
  let recent := payloads.drop (payloads.length - 8)
  let facts := recent.foldl (fun facts payload =>
    payload.request.validatedFacts.foldl
      (fun facts fact => if fact ∈ facts then facts else facts ++ [fact]) facts) []
  facts.drop (facts.length - 12)

section Memory

variable (sha256 : Bytes → Digest) (agent : Agent)

def receiptCore (payload : Payload) (previousSha256 : Digest) : Json Empty :=
  .dict
    [("agent_id", .str payload.agentId), ("team_id", .str payload.request.teamId),
      ("session_id", .str payload.request.sessionId), ("task_id", .str payload.request.taskId),
      ("stage_id", .str payload.request.stageId),
      ("payload_sha256", .str ((ladderSha256 sha256 payload.json).labelled "")),
      ("previous_sha256", .str (previousSha256.labelled ""))]

/-- The row a commit inserts after `rows`, under the predecessor it has read. -/
def Rows.nextCommit (rows : Rows) (payload : Payload) (previousSha256 : Digest) : StageCommit :=
  let receiptSha256 := ladderSha256 sha256 (receiptCore sha256 payload previousSha256)
  { sequence := rows.length + 1
    payload
    payloadSha256 := ladderSha256 sha256 payload.json
    previousSha256
    receiptSha256
    markdown := agent.renderFocus (rows.length + 1) payload receiptSha256
      (priorFacts (rows.map StageCommit.payload ++ [payload])) }

/-! ### Concurrent commits -/

/-- How far a call of `commit` has come.  `read` keeps the predecessor and the
number of rows it was read from. -/
inductive Phase where
  | ready
  | read (previousSha256 : Digest) (seen : Nat)
  | written (sequence : Nat) (markdown : List Char)
  | returned (sequence : Nat)
  | raised

/-- One agent directory and the calls on it. -/
structure Directory where
  rows : Rows
  focus : Option (List Char)
  calls : List (Payload × Phase)

inductive Action where
  | begin (request : StageCommitRequest) (committedAt : String)
  | read (call : Nat)
  | write (call : Nat)
  | project (call : Nat)
  | giveUp (call : Nat)

def Directory.empty : Directory := ⟨[], none, []⟩

def Directory.setPhase (directory : Directory) (call : Nat) (payload : Payload) (phase : Phase) :
    Directory :=
  { directory with calls := directory.calls.set call (payload, phase) }

/-- One step of one call.  A write whose receipt is taken violates UNIQUE and
raises; `giveUp` is any failure before the write, such as a locked database. -/
def Directory.step (directory : Directory) : Action → Option Directory
  | .begin request committedAt =>
      some { directory with
        calls := directory.calls ++ [(⟨request, agent.agentId, committedAt⟩, .ready)] }
  | .read call =>
      match directory.calls[call]? with
      | some (payload, .ready) =>
          some (directory.setPhase call payload
            (.read directory.rows.lastReceipt directory.rows.length))
      | _ => none
  | .write call =>
      match directory.calls[call]? with
      | some (payload, .read previousSha256 _) =>
          let commit := directory.rows.nextCommit sha256 agent payload previousSha256
          if commit.receiptSha256 ∈ directory.rows.map StageCommit.receiptSha256 then
            some (directory.setPhase call payload .raised)
          else
            some { directory.setPhase call payload (.written commit.sequence commit.markdown) with
              rows := directory.rows ++ [commit] }
      | _ => none
  | .project call =>
      match directory.calls[call]? with
      | some (payload, .written sequence markdown) =>
          some { directory.setPhase call payload (.returned sequence) with focus := some markdown }
      | _ => none
  | .giveUp call =>
      match directory.calls[call]? with
      | some (payload, .ready) => some (directory.setPhase call payload .raised)
      | some (payload, .read _ _) => some (directory.setPhase call payload .raised)
      | _ => none

/-! ### Commits in order -/

/-- What keeps overlapping commits apart: no row was added between a call's read
and its write, and no call of a later sequence has replaced FOCUS.md before it. -/
def Directory.InOrder (directory : Directory) : Action → Prop
  | .write call =>
      ∀ payload previousSha256 seen,
        directory.calls[call]? = some (payload, .read previousSha256 seen) →
        seen = directory.rows.length
  | .project call =>
      ∀ payload sequence markdown,
        directory.calls[call]? = some (payload, .written sequence markdown) →
        ∀ other later, (other, Phase.returned later) ∈ directory.calls → later ≤ sequence
  | _ => True

def Directory.run (directory : Directory) (actions : List Action) : Option Directory :=
  actions.foldlM (fun directory action => directory.step sha256 agent action) directory

/-- Reached from an empty directory by steps in order. -/
inductive Reached : Directory → Prop where
  | empty : Reached Directory.empty
  | step {directory later : Directory} (reached : Reached directory) (action : Action)
      (inOrder : directory.InOrder action)
      (stepped : directory.step sha256 agent action = some later) : Reached later

def Phase.sequence : Phase → Option Nat
  | .written sequence _ => some sequence
  | .returned sequence => some sequence
  | _ => none

def Phase.finished : Phase → Bool
  | .returned _ => true
  | .raised => true
  | _ => false

def Rows.markdownAt (rows : Rows) (sequence : Nat) : Option (List Char) :=
  (rows[sequence - 1]?).map StageCommit.markdown

/-- Each row follows the receipt before it. -/
def Rows.Linear (rows : Rows) : Prop :=
  ∀ index commit, rows[index]? = some commit →
    commit.sequence = index + 1 ∧ commit.previousSha256 = Rows.lastReceipt (rows.take index)

/-- What every phase says about the rows. -/
def Phase.Agrees (rows : Rows) : Phase → Prop
  | .read previousSha256 seen =>
      seen ≤ rows.length ∧ previousSha256 = Rows.lastReceipt (rows.take seen)
  | .written sequence markdown =>
      0 < sequence ∧ sequence ≤ rows.length ∧ rows.markdownAt sequence = some markdown
  | .returned sequence => 0 < sequence ∧ sequence ≤ rows.length
  | _ => True

structure Directory.Sound (directory : Directory) : Prop where
  linear : directory.rows.Linear
  agrees : ∀ entry ∈ directory.calls, entry.2.Agrees directory.rows
  owned : ∀ sequence, 0 < sequence → sequence ≤ directory.rows.length →
    ∃ entry ∈ directory.calls, entry.2.sequence = some sequence
  focus : (directory.focus = none ∧ ∀ payload sequence,
      (payload, Phase.returned sequence) ∉ directory.calls) ∨
    ∃ payload top, (payload, Phase.returned top) ∈ directory.calls ∧
      (∀ other later, (other, Phase.returned later) ∈ directory.calls → later ≤ top) ∧
      directory.focus = directory.rows.markdownAt top

private theorem markdownAt_append (rows : Rows) (commit : StageCommit) {sequence : Nat}
    (positive : 0 < sequence) (bound : sequence ≤ rows.length) :
    Rows.markdownAt (rows ++ [commit]) sequence = rows.markdownAt sequence := by
  unfold Rows.markdownAt
  rw [List.getElem?_append_left (by omega)]

/-- A row more changes nothing for the phases there are. -/
theorem Phase.Agrees.append {rows : Rows} {phase : Phase} (agrees : phase.Agrees rows)
    (commit : StageCommit) : phase.Agrees (rows ++ [commit]) := by
  cases phase with
  | read previousSha256 seen =>
      obtain ⟨bound, previous⟩ := agrees
      constructor
      · rw [List.length_append]
        omega
      · rw [previous, List.take_append_of_le_length bound]
  | written sequence markdown =>
      obtain ⟨positive, bound, shown⟩ := agrees
      refine ⟨positive, ?_, ?_⟩
      · rw [List.length_append]
        omega
      · rw [markdownAt_append rows commit positive bound, shown]
  | returned sequence =>
      obtain ⟨positive, bound⟩ := agrees
      constructor
      · exact positive
      · rw [List.length_append]
        omega
  | ready => trivial
  | raised => trivial

theorem Rows.Linear.append {rows : Rows} (linear : rows.Linear) {commit : StageCommit}
    (sequence : commit.sequence = rows.length + 1)
    (previous : commit.previousSha256 = rows.lastReceipt) : Rows.Linear (rows ++ [commit]) := by
  intro index found present
  have bound := (List.getElem?_eq_some_iff.mp present).1
  rw [List.length_append, List.length_singleton] at bound
  by_cases old : index < rows.length
  · rw [List.getElem?_append_left old] at present
    rw [List.take_append_of_le_length (le_of_lt old)]
    exact linear index found present
  · have last : index = rows.length := by omega
    subst last
    rw [List.getElem?_append_right (le_refl _), Nat.sub_self] at present
    cases present
    rw [List.take_append_of_le_length (le_refl _), List.take_length]
    exact ⟨sequence, previous⟩

/-- An entry survives the change of another call, or is the one changed. -/
private theorem mem_set_or {α : Type} {entries : List α} {index : Nat} {old : α} (changed : α)
    (found : entries[index]? = some old) {entry : α} (present : entry ∈ entries) :
    entry ∈ entries.set index changed ∨ entry = old := by
  obtain ⟨place, there⟩ := List.mem_iff_getElem?.mp present
  by_cases same : index = place
  · subst same
    rw [found] at there
    exact .inr (Option.some.inj there).symm
  · apply Or.inl
    apply List.mem_iff_getElem?.mpr
    refine ⟨place, ?_⟩
    rw [List.getElem?_set_ne same]
    exact there

variable {directory : Directory}

variable {payload : Payload}

/-- A call that neither had nor gets a sequence changes its phase. -/
theorem Directory.Sound.setPhase (sound : directory.Sound) {call : Nat} {before after : Phase}
    (found : directory.calls[call]? = some (payload, before)) (unowned : before.sequence = none)
    (plain : after.sequence = none) (agrees : after.Agrees directory.rows) :
    (directory.setPhase call payload after).Sound := by
  have notReturned : ∀ other later, (other, Phase.returned later) ∈
      (directory.setPhase call payload after).calls →
      (other, Phase.returned later) ∈ directory.calls := by
    intro other later present
    rcases List.mem_or_eq_of_mem_set present with kept | same
    · exact kept
    · rw [← (Prod.mk.inj same).2] at plain
      cases plain
  constructor
  · exact sound.linear
  · intro entry present
    rcases List.mem_or_eq_of_mem_set present with kept | same
    · exact sound.agrees entry kept
    · rw [same]
      exact agrees
  · intro sequence positive bound
    obtain ⟨entry, present, owns⟩ := sound.owned sequence positive bound
    rcases mem_set_or (payload, after) found present with kept | same
    · exact ⟨entry, kept, owns⟩
    · rw [same, unowned] at owns
      cases owns
  · rcases sound.focus with ⟨none, without⟩ | ⟨other, top, present, highest, shown⟩
    · apply Or.inl
      exact ⟨none, fun other later there => without other later (notReturned other later there)⟩
    · apply Or.inr
      refine ⟨other, top, ?_, fun next later there => highest next later (notReturned _ _ there),
        shown⟩
      rcases mem_set_or (payload, after) found present with kept | same
      · exact kept
      · rw [← (Prod.mk.inj same).2] at unowned
        cases unowned

theorem Directory.Sound.begun (sound : directory.Sound) (payload : Payload) :
    Directory.Sound { directory with calls := directory.calls ++ [(payload, .ready)] } := by
  have notReturned : ∀ other later,
      (other, Phase.returned later) ∈ directory.calls ++ [(payload, Phase.ready)] →
      (other, Phase.returned later) ∈ directory.calls := by
    intro other later present
    rcases List.mem_append.mp present with kept | added
    · exact kept
    · cases List.mem_singleton.mp added
  constructor
  · exact sound.linear
  · intro entry present
    rcases List.mem_append.mp present with kept | added
    · exact sound.agrees entry kept
    · rw [List.mem_singleton.mp added]
      trivial
  · intro sequence positive bound
    obtain ⟨entry, present, owns⟩ := sound.owned sequence positive bound
    exact ⟨entry, List.mem_append_left _ present, owns⟩
  · rcases sound.focus with ⟨none, without⟩ | ⟨other, top, present, highest, shown⟩
    · apply Or.inl
      exact ⟨none, fun other later there => without other later (notReturned other later there)⟩
    · apply Or.inr
      exact ⟨other, top, List.mem_append_left _ present,
        fun next later there => highest next later (notReturned next later there), shown⟩

/-- A write in order extends the chain. -/
theorem Directory.Sound.written (sound : directory.Sound) {call : Nat}
    {previousSha256 : Digest} {seen : Nat}
    (found : directory.calls[call]? = some (payload, .read previousSha256 seen))
    (fresh : seen = directory.rows.length) (commit : StageCommit)
    (sequence : commit.sequence = directory.rows.length + 1)
    (previous : commit.previousSha256 = previousSha256) :
    Directory.Sound
      { directory.setPhase call payload (.written commit.sequence commit.markdown) with
        rows := directory.rows ++ [commit] } := by
  have read := sound.agrees _ (List.mem_of_getElem? found)
  have notReturned : ∀ other later, (other, Phase.returned later) ∈
      (directory.setPhase call payload (.written commit.sequence commit.markdown)).calls →
      (other, Phase.returned later) ∈ directory.calls := by
    intro other later present
    rcases List.mem_or_eq_of_mem_set present with kept | same
    · exact kept
    · cases (Prod.mk.inj same).2
  constructor
  · apply sound.linear.append sequence
    rw [previous, read.2, fresh, List.take_length]
  · intro entry present
    rcases List.mem_or_eq_of_mem_set present with kept | same
    · exact (sound.agrees entry kept).append commit
    · rw [same]
      refine ⟨?_, ?_, ?_⟩
      · omega
      · rw [sequence, List.length_append, List.length_singleton]
      · rw [sequence]
        simp [Rows.markdownAt]
  · intro wanted positive bound
    rw [List.length_append, List.length_singleton] at bound
    by_cases old : wanted ≤ directory.rows.length
    · obtain ⟨entry, present, owns⟩ := sound.owned wanted positive old
      rcases mem_set_or (payload, Phase.written commit.sequence commit.markdown) found present with
        kept | same
      · exact ⟨entry, kept, owns⟩
      · rw [same] at owns
        cases owns
    · refine ⟨(payload, .written commit.sequence commit.markdown), ?_, ?_⟩
      · apply List.mem_iff_getElem?.mpr
        refine ⟨call, ?_⟩
        exact List.getElem?_set_self (List.getElem?_eq_some_iff.mp found).1
      · rw [Phase.sequence, sequence]
        congr 1
        omega
  · rcases sound.focus with ⟨none, without⟩ | ⟨other, top, present, highest, shown⟩
    · apply Or.inl
      exact ⟨none, fun other later there => without other later (notReturned other later there)⟩
    · apply Or.inr
      have placed : 0 < top ∧ top ≤ directory.rows.length := sound.agrees _ present
      refine ⟨other, top, ?_, fun next later there => highest next later (notReturned _ _ there),
        ?_⟩
      · rcases mem_set_or (payload, Phase.written commit.sequence commit.markdown) found present
          with kept | same
        · exact kept
        · cases (Prod.mk.inj same).2
      · exact shown.trans (markdownAt_append _ commit placed.1 placed.2).symm

/-- A projection in order shows the highest sequence that has returned. -/
theorem Directory.Sound.projected (sound : directory.Sound) {call : Nat}
    {sequence : Nat} {markdown : List Char}
    (found : directory.calls[call]? = some (payload, .written sequence markdown))
    (highest : ∀ other later, (other, Phase.returned later) ∈ directory.calls → later ≤ sequence) :
    Directory.Sound
      { directory.setPhase call payload (.returned sequence) with focus := some markdown } := by
  have written : 0 < sequence ∧ sequence ≤ directory.rows.length ∧
      directory.rows.markdownAt sequence = some markdown :=
    sound.agrees _ (List.mem_of_getElem? found)
  obtain ⟨positive, bound, shown⟩ := written
  have here : (payload, Phase.returned sequence) ∈
      directory.calls.set call (payload, .returned sequence) := by
    apply List.mem_iff_getElem?.mpr
    refine ⟨call, ?_⟩
    exact List.getElem?_set_self (List.getElem?_eq_some_iff.mp found).1
  constructor
  · exact sound.linear
  · intro entry present
    rcases List.mem_or_eq_of_mem_set present with kept | same
    · exact sound.agrees entry kept
    · rw [same]
      exact ⟨positive, bound⟩
  · intro wanted wantedPositive wantedBound
    obtain ⟨entry, present, owns⟩ := sound.owned wanted wantedPositive wantedBound
    rcases mem_set_or (payload, Phase.returned sequence) found present with kept | same
    · exact ⟨entry, kept, owns⟩
    · refine ⟨_, here, ?_⟩
      rw [same] at owns
      exact owns
  · apply Or.inr
    refine ⟨payload, sequence, here, ?_, shown.symm⟩
    intro other later present
    rcases List.mem_or_eq_of_mem_set present with kept | same
    · exact highest other later kept
    · rw [Phase.returned.inj (Prod.mk.inj same).2]

theorem Directory.Sound.step {directory later : Directory} (sound : directory.Sound)
    (action : Action) (inOrder : directory.InOrder action)
    (stepped : directory.step sha256 agent action = some later) : later.Sound := by
  cases action with
  | begin request committedAt =>
      cases stepped
      exact sound.begun _
  | read call =>
      simp only [Directory.step] at stepped
      split at stepped
      · rename_i payload found
        cases stepped
        apply sound.setPhase found rfl rfl
        exact ⟨le_refl _, by rw [List.take_length]⟩
      · cases stepped
  | write call =>
      simp only [Directory.step] at stepped
      split at stepped
      · rename_i payload previousSha256 seen found
        split at stepped
        · cases stepped
          exact sound.setPhase found rfl rfl trivial
        · cases stepped
          exact sound.written found (inOrder _ _ _ found) _ rfl rfl
      · cases stepped
  | project call =>
      simp only [Directory.step] at stepped
      split at stepped
      · rename_i payload sequence markdown found
        cases stepped
        exact sound.projected found (inOrder _ _ _ found)
      · cases stepped
  | giveUp call =>
      simp only [Directory.step] at stepped
      split at stepped
      · rename_i payload found
        cases stepped
        exact sound.setPhase found rfl rfl trivial
      · rename_i payload previousSha256 seen found
        cases stepped
        exact sound.setPhase found rfl rfl trivial
      · cases stepped

theorem Reached.sound (reached : Reached sha256 agent directory) :
    directory.Sound := by
  induction reached with
  | empty =>
      constructor
      · intro index commit present
        cases present
      · intro entry present
        cases present
      · intro sequence positive bound
        exact absurd bound (Nat.not_le.mpr positive)
      · apply Or.inl
        constructor
        · rfl
        · intro payload sequence present
          cases present
  | step _ action inOrder stepped ih => exact ih.step sha256 agent action inOrder stepped

end Memory

namespace Sample

def stage (stageId : String) : StageCommitRequest where
  teamId := "team"
  userId := "user"
  sessionId := "session"
  taskId := "task"
  stageId := stageId
  messages := [⟨"user", "hello"⟩]
  decisions := ["keep"]
  evidence := []
  blockers := []
  nextActions := []
  validatedFacts := []

end Sample

end EgoAgent.ResearchOs
