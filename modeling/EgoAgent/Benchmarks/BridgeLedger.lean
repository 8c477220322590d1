import EgoAgent.Benchmarks.LedgerHead

/-!
Exported bridge ledgers verify, and their heads commit to them.
-/

namespace EgoAgent.Benchmarks

open EgoAgent.Api EgoAgent.Bridge

section Theorem

variable {κ φ : Type} [FloatText φ]

/-- Whatever a run appends among other calls is exported, survives JSON and is accepted under
its head and length; and two accepted chains of one run with one head have the same items. -/
theorem exported_ledgers_verify (platform : TracePlatform φ) (times : TimeText)
    (readsBack : ReadsBack platform.parse) (head : TraceHead φ) (runId : String) :
    (∀ (store : Store κ φ) (calls : List (Bridge.Instant × LedgerCall κ φ)),
      (∀ row ∈ store.events, row.runId ≠ runId) → calls.length < 2 ^ 63 →
      ((appendsTo runId calls).map Prod.fst).Nodup →
      (∀ entry ∈ appendsTo runId calls, Verifiable platform times head entry.1 entry.2) →
      let later := afterLedgerCalls platform.sha256 times store calls
      (later.runs.get? runId).isSome = true → (∃ row ∈ later.events, row.runId = runId) →
      ∃ ledger chain read verified,
        events platform.sha256 platform.parse later runId = .ok ledger ∧
        exportBridgeEventChain platform ledger runId = .ok chain ∧
        platform.parse (utf8Encode (Json.dict chain).sorted.text) = some (.dict read) ∧
        verifyBridgeEventChain platform head runId read = .ok verified ∧
        field chain "head" = .str verified.head ∧
        verified.total = (later.eventRows runId).length) ∧
    ∀ (left right : Members φ) (leftLedger rightLedger : Ledger),
      legible (.dict left) = true → legible (.dict right) = true →
      Set.InjOn platform.sha256 (hashedItems left ∪ hashedItems right) →
      (∀ bytes ∈ hashedItems left ∪ hashedItems right,
        (platform.sha256 bytes).labelled "" ≠ zeroHash) →
      verifyBridgeEventChain platform head runId left = .ok leftLedger →
      verifyBridgeEventChain platform head runId right = .ok rightLedger →
      leftLedger.head = rightLedger.head →
      (field left "items").sorted = (field right "items").sorted := by
  constructor
  · intro store calls unused short drawn good later found some
    obtain ⟨run, found⟩ := Option.isSome_iff_exists.mp found
    have empty : Holds platform.sha256 times store runId [] := by
      refine ⟨?_, by simp⟩
      rw [rowsOf, List.filter_eq_nil_iff]
      simpa using unused
    obtain ⟨appended, sublist, holds⟩ := after_holds calls empty
    rw [List.nil_append] at holds
    have rows : (later.eventRows runId).map Prod.fst =
        rowsOf platform.sha256 times runId zeroHash appended :=
      (map_fst_filter_zipIdx later.events runId 1).trans holds.1
    have nonempty : appended ≠ [] := by
      rintro rfl
      obtain ⟨row, present, here⟩ := some
      have inside : row ∈ later.events.filter fun row => row.runId = runId :=
        List.mem_filter.mpr ⟨present, by simpa using here⟩
      rw [holds.1] at inside
      exact absurd inside List.not_mem_nil
    have length : appended.length < 2 ^ 63 := by
      have asked : (appendsTo runId calls).length ≤ calls.length := List.length_filterMap_le _ _
      have kept := sublist.length_le
      omega
    obtain ⟨ledger, chain, read, verified, listed, exported, parsed, accepted, same, total, _⟩ :=
      exported_chain_accepted readsBack found holds nonempty length
        (fun entry present => good entry (sublist.subset present))
        ((sublist.map Prod.fst).nodup drawn)
    refine ⟨ledger, chain, read, verified, listed, exported, parsed, accepted, same, ?_⟩
    have counted := congrArg List.length
      (rowsOf_eventIds platform.sha256 times runId appended zeroHash)
    rw [← rows, List.length_map, List.length_map, List.length_map] at counted
    rw [total, counted]
  · intro left right leftLedger rightLedger leftReadable rightReadable collisionFree fresh
      leftAccepted rightAccepted sameHead
    exact verified_chains_equal readsBack leftReadable rightReadable collisionFree fresh
      leftAccepted rightAccepted sameHead

end Theorem

/-! ### A run with one event -/

namespace LedgerSample

def platform : TracePlatform Empty where
  sha256 bytes := BitVec.ofNat 256 (bytes.length % 1024 + 1)
  parse := readCompact
  intOf number := nomatch number
  instant text :=
    if text = "2026-01-01T00:00:00+00:00" ∨ text = "2026-01-01T00:00:00Z" then
      some (some 1767225600)
    else none
  lower := id
  secretText _ := false

def times : TimeText := ⟨fun _ => "2026-01-01T00:00:00+00:00", fun _ => "2026-01-01T00:00:00Z"⟩

def head : TraceHead Empty where
  root := []
  projectId := "project-1"
  taskId := "task-1"
  correlationId := "correlation-1"
  traceId := "trace-001"
  contextVersion := 1
  agents := ⟨[], [], []⟩
  kinds := []
  events := []

/-- An envelope of the run from a sender whose name is one letter, repeated. -/
def envelope (letters : Nat) : Envelope Empty where
  envelopeId := "envelope-1"
  taskId := "task-1"
  projectId := "project-1"
  traceId := "trace-001"
  correlationId := "correlation-1"
  contextVersion := 1
  attempt := 1
  kind := .taskRequest
  sender := String.ofList (List.replicate (letters + 1) 'a')
  recipient := "worker"
  causationId := none
  body := [("note", .str "begin")]
  createdAt := ⟨1767225600, some 0⟩
  idsLong := by decide
  contextPositive := Int.one_pos
  attemptPositive := Int.one_pos
  senderSome := by
    intro empty
    have letters := congrArg String.toList empty
    rw [String.toList_ofList] at letters
    cases letters
  senderPlain := by
    intro c present
    rw [String.toList_ofList] at present
    rw [List.eq_of_mem_replicate present]
    decide

def store : Store Unit Empty := ⟨[("run-1", ⟨(), .absent, 1, 0⟩)], [], []⟩

def appendOne (letters : Nat) : List (Bridge.Instant × LedgerCall Unit Empty) :=
  [(1767225600, .append "run-1" "event-1" (envelope letters) none)]

def later (letters : Nat) : Store Unit Empty :=
  afterLedgerCalls platform.sha256 times store (appendOne letters)

theorem exportable (letters : Nat) : Exportable platform times (envelope letters) where
  finite := rfl
  legible := by
    change legible (.dict [("note", .str "begin")] : Json Empty) = true
    decide
  numbers := by
    change convertible 1 = true ∧ convertible 1 = true
    decide
  secretFree := by
    simp [Envelope.dump, envelope, secretFound, secretFoundMembers, platform, secretFieldNames]

theorem timeRead : TimeRead platform times ⟨1767225600, some 0⟩ :=
  ⟨by decide, ⟨by decide, by decide⟩, by decide, ⟨by decide, by decide⟩⟩

theorem wellFormed (letters : Nat) :
    WellFormed platform times head "event-1" (envelope letters) where
  toExportable := exportable letters
  identities := ⟨rfl, rfl, rfl, rfl, rfl⟩
  time := timeRead
  eventId := ⟨by decide, by decide⟩
  envelopeId := by
    change TextOk "envelope-1"
    exact ⟨by decide, by decide⟩
  recipient := by
    change TextOk "worker"
    exact ⟨by decide, by decide⟩

/-- The exported chain of the run. -/
abbrev chain (letters : Nat) : Members Empty :=
  exportedChain "run-1" (rowsOf platform.sha256 times "run-1" zeroHash
    [("event-1", envelope letters)])

theorem later_read (letters : Nat) : ∃ ledger,
    events platform.sha256 platform.parse (later letters) "run-1" = .ok ledger ∧
    exportBridgeEventChain platform ledger "run-1" = .ok (chain letters) ∧
    platform.parse (utf8Encode (Json.dict (chain letters)).sorted.text) =
      some (.dict (sortMembers (sortedMembers (chain letters)))) := by
  have holds : Holds platform.sha256 times (later letters) "run-1"
      [("event-1", envelope letters)] := by
    refine ⟨rfl, ?_⟩
    intro entry present
    rw [List.mem_singleton.mp present]
    exact Option.some_ne_none _
  refine exported_chain_read readCompact_readsBack rfl holds (List.cons_ne_nil _ _) (by simp) ?_
  intro entry present
  rw [List.mem_singleton.mp present]
  exact exportable letters

/-- A sender of 2049 letters: the ledger is exported, and the verifier refuses it. -/
theorem long_sender_refused :
    WellFormed platform times head "event-1" (envelope 2048) ∧
    ∃ ledger read, events platform.sha256 platform.parse (later 2048) "run-1" = .ok ledger ∧
      exportBridgeEventChain platform ledger "run-1" = .ok (chain 2048) ∧
      platform.parse (utf8Encode (Json.dict (chain 2048)).sorted.text) = some (.dict read) ∧
      ∀ verified, verifyBridgeEventChain platform head "run-1" read ≠ .ok verified := by
  refine ⟨wellFormed 2048, ?_⟩
  obtain ⟨ledger, listed, exported, read⟩ := later_read 2048
  refine ⟨ledger, _, listed, exported, read, fun verified accepted => ?_⟩
  have short := senders_of_accepted accepted _ List.mem_cons_self
  have length : (envelope 2048).sender.length = 2049 := by
    change (String.ofList (List.replicate 2049 'a')).length = 2049
    rw [String.length_ofList, List.length_replicate]
  rw [length] at short
  omega

theorem verifiable : Verifiable platform times head "event-1" (envelope 2) :=
  ⟨wellFormed 2, by decide⟩

/-- The chain of the run as it is read, and with its members in the other order. -/
abbrev readChain : Members Empty := sortMembers (sortedMembers (chain 2))

theorem readChain_legible : legible (.dict readChain) = true := by
  have clean : ∀ row ∈ rowsOf platform.sha256 times "run-1" zeroHash [("event-1", envelope 2)],
      row.envelope.finite = true ∧ legible row.envelope = true := by
    intro row present
    rw [List.mem_singleton.mp present]
    exact ⟨dump_finite (exportable 2).finite, dump_legible (exportable 2)⟩
  exact legible_sorted _ (exportedChain_readable "run-1" (by decide) clean).2

theorem reversed_legible : legible (.dict readChain.reverse) = true := by
  obtain ⟨distinct, values⟩ := (legible_dict_iff readChain).mp readChain_legible
  refine (legible_dict_iff _).mpr ⟨?_, fun member present => values member (by simpa using present)⟩
  unfold Dict.keys
  rw [List.map_reverse, List.nodup_reverse]
  exact distinct

theorem reversed_field : field readChain.reverse = field readChain := by
  have distinct := ((legible_dict_iff readChain).mp readChain_legible).1
  funext key
  unfold field
  rw [Dict.get?_perm (List.reverse_perm readChain).symm distinct]

theorem readChain_items : field readChain "items" = .list
    [(Json.dict (exportedItem "run-1" 0
      (rowOf platform.sha256 times "run-1" zeroHash "event-1" (envelope 2)))).sorted] :=
  field_sorted (exportedChain_distinct "run-1" _) "items"

theorem hashed_subsingleton :
    (hashedItems readChain ∪ hashedItems readChain.reverse).Subsingleton := by
  have same : hashedItems readChain.reverse = hashedItems readChain := by
    unfold hashedItems
    rw [reversed_field]
  rw [same, Set.union_self]
  rintro first ⟨items, item, isItems, present, rfl⟩ second ⟨others, other, areOthers, inside, rfl⟩
  rw [readChain_items] at isItems areOthers
  rw [← Json.list.inj isItems, List.mem_singleton] at present
  rw [← Json.list.inj areOthers, List.mem_singleton] at inside
  rw [Json.dict.inj (present.trans inside.symm)]

theorem not_zeroHash (bytes : Bytes) : (platform.sha256 bytes).labelled "" ≠ zeroHash := by
  intro zero
  have isZero : zeroHash = (0 : Digest).labelled "" := by decide +kernel
  rw [isZero] at zero
  have digest := congrArg BitVec.toNat (Digest.labelled_injective "" zero)
  simp only [platform, BitVec.toNat_ofNat] at digest
  have small : bytes.length % 1024 < 1024 := Nat.mod_lt _ (by decide)
  have none : BitVec.toNat (0 : Digest) = 0 := rfl
  omega

theorem exported_ledgers_verify_sample : ∃ ledger verified,
    events platform.sha256 platform.parse (later 2) "run-1" = .ok ledger ∧
    exportBridgeEventChain platform ledger "run-1" = .ok (chain 2) ∧
    verifyBridgeEventChain platform head "run-1" readChain = .ok verified ∧ verified.total = 1 ∧
    verifyBridgeEventChain platform head "run-1" readChain.reverse = .ok verified ∧
    (field readChain "items").sorted = (field readChain.reverse "items").sorted := by
  obtain ⟨exported, committed⟩ := exported_ledgers_verify (κ := Unit) platform times
    readCompact_readsBack head "run-1"
  obtain ⟨ledger, listed, written, parsed⟩ := later_read 2
  obtain ⟨found, chain, read, verified, isLedger, isChain, isRead, accepted, _, total⟩ :=
    exported store (appendOne 2) (by decide) (by decide) (by decide)
      (by simpa [appendsTo, appendOne] using verifiable) rfl ⟨_, List.mem_singleton.mpr rfl, rfl⟩
  have sameLedger : found = ledger := Except.ok.inj (isLedger.symm.trans listed)
  rw [sameLedger] at isChain
  have sameChain := Except.ok.inj (isChain.symm.trans written)
  rw [sameChain] at isRead
  have sameRead := Json.dict.inj (Option.some.inj (isRead.symm.trans parsed))
  rw [sameRead] at accepted
  have reversed : verifyBridgeEventChain platform head "run-1" readChain.reverse =
      .ok verified := by
    rw [← accepted]
    unfold verifyBridgeEventChain
    rw [reversed_field]
  exact ⟨ledger, verified, listed, written, accepted, total, reversed,
    committed readChain readChain.reverse verified verified readChain_legible reversed_legible
      (hashed_subsingleton.injOn _) (fun bytes _ => not_zeroHash bytes) accepted reversed rfl⟩

end LedgerSample

end EgoAgent.Benchmarks
