import EgoAgent.Rxp.Sample

/-!
Any number of ledgers on one replay registry.

A `World` is reached by opening ledgers and calling operations on them in any
order.  In every world a call that raises changes nothing, a call that returns
appends one entry, and the consumed grants are exactly the received ones, each
received at one place.
-/

namespace EgoAgent.Rxp

open Platform MatrixLedger

section General

variable [Platform]

/-! ### Received grants -/

/-- The grant a receipt entry says it was executed under. -/
def LedgerEntry.receiptGrant (entry : LedgerEntry) : Option String :=
  if entry.eventType = .receiptRecorded then
    match Dict.get? entry.document.members "grant_id" with
    | some (.str grantId) => some grantId
    | _ => none
  else none

def Document.receiptGrant : Document → Option String
  | .receipt document => some document.grantId.val
  | _ => none

variable {entry : LedgerEntry}

private theorem receipt_entry_grant {receipt : Receipt} (event : entry.eventType = .receiptRecorded)
    (embedded : (Document.receipt receipt).value.canon unicode = some entry.document.value) :
    entry.receiptGrant = some receipt.grantId.val := by
  obtain ⟨normal, valueEq, found⟩ := Value.canon_get? embedded "grant_id"
    (.str receipt.grantId.val)
    (.tail _ <| .tail _ <| .tail _ <| .tail _ <| .tail _ <| .tail _ <| .tail _ <| .head _)
    (unicode.nfc_ascii (by decide))
  have plain := unicode.nfc_ascii receipt.grantId.ascii
  simp only [Value.canon, plain, Option.some.injEq] at valueEq
  subst valueEq
  simp only [LedgerEntry.receiptGrant, event, found, if_true]

variable {ledger : MatrixLedger}

/-- An entry tells the grant its document was recorded with. -/
theorem NextEntry.receiptGrant {document : Document} {parents : List Digest} {recordedAt : String}
    (next : NextEntry ledger document.eventType document parents recordedAt entry) :
    entry.receiptGrant = document.receiptGrant := by
  have event := next.eventType
  cases document with
  | receipt receipt => exact receipt_entry_grant event next.document
  | _ =>
      rw [LedgerEntry.receiptGrant, event, if_neg (by intro impossible; cases impossible)]
      rfl

theorem Operation.mem_keys (operation : Operation) (grantId : String) :
    (grantNamespace, grantId) ∈ operation.keys ↔
      operation.document.receiptGrant = some grantId := by
  cases operation <;> simp [keys, document, Document.receiptGrant, eq_comm]

/-! ### Worlds -/

/-- The longest list a 64-bit interpreter can hold: PY_SSIZE_T_MAX pointers' bytes. -/
def maxListLength : Nat := (2 ^ 63 - 1) / 8

structure World where
  ledgers : List MatrixLedger
  registry : ReplayRegistry

/-- Reached from a registry without grants by opening ledgers and calling
operations, in any order, while the entry lists fit an interpreter's list. -/
inductive Reachable : World → Prop where
  | start (registry : ReplayRegistry) (noGrants : ∀ key ∈ registry, key.1 ≠ grantNamespace) :
      Reachable ⟨[], registry⟩
  | opened {world : World} (reached : Reachable world) (plan : MatrixPlan) (ledger : MatrixLedger)
      (created : MatrixLedger.new plan = .ok ledger) :
      Reachable { world with ledgers := world.ledgers ++ [ledger] }
  | called {world : World} (reached : Reachable world) (index : Nat) (ledger : MatrixLedger)
      (found : world.ledgers[index]? = some ledger) (operation : Operation)
      {outcome : Except PyError Digest} {final : MatrixLedger} {later : ReplayRegistry}
      (ran : operation.run (ledger, world.registry) = (outcome, (final, later)))
      (held : final.entries.length ≤ maxListLength) :
      Reachable ⟨world.ledgers.set index final, later⟩

/-- The grant received at the place of an entry: the number of its ledger and
its own number there. -/
def World.receiptGrant (world : World) (place : Nat × Nat) : Option String :=
  (world.ledgers[place.1]?).bind fun ledger =>
    (ledger.entries[place.2]?).bind LedgerEntry.receiptGrant

structure World.Sound (world : World) : Prop where
  ledgers : ∀ ledger ∈ world.ledgers, ledger.Sound ∧ ledger.entries.length ≤ maxListLength
  spent : ∀ grantId, (grantNamespace, grantId) ∈ world.registry ↔
    ∃ place, world.receiptGrant place = some grantId
  once : ∀ grantId first second, world.receiptGrant first = some grantId →
    world.receiptGrant second = some grantId → first = second

private theorem fits_of_held
    (held : ledger.entries.length ≤ maxListLength) : inInt64 (ledger.entries.length + 1) := by
  unfold maxListLength at held
  unfold inInt64
  omega

variable {world : World}

/-- Opening a ledger receives no grant. -/
private theorem receiptGrant_opened {plan : MatrixPlan}
    (created : MatrixLedger.new plan = .ok ledger) (place : Nat × Nat) :
    World.receiptGrant { world with ledgers := world.ledgers ++ [ledger] } place =
      world.receiptGrant place := by
  obtain ⟨planDigest, entry, _, next, rfl⟩ := (MatrixLedger.new_eq_ok plan ledger).mp created
  have planEntry : NextEntry _ (Document.matrixPlan plan).eventType _ _ _ entry := next
  have noGrant : entry.receiptGrant = none := planEntry.receiptGrant
  unfold World.receiptGrant
  rcases Nat.lt_trichotomy place.1 world.ledgers.length with before | here | after
  · rw [List.getElem?_append_left before]
  · rw [List.getElem?_append_right (le_of_eq here.symm), here, Nat.sub_self,
      List.getElem?_eq_none (le_refl _)]
    simp only [List.getElem?_cons_zero, Option.bind_some, Option.bind_none]
    change (([] ++ [entry])[place.2]?).bind _ = none
    cases place.2 with
    | zero => exact noGrant
    | succ => rfl
  · rw [List.getElem?_eq_none (by simp; omega), List.getElem?_eq_none (le_of_lt after)]

/-- A recorded document receives its grant at the one new place. -/
private theorem receiptGrant_called {index : Nat}
    (found : world.ledgers[index]? = some ledger) (final : MatrixLedger) (later : ReplayRegistry)
    (entry : LedgerEntry) (grown : final.entries = ledger.entries ++ [entry]) (place : Nat × Nat) :
    World.receiptGrant ⟨world.ledgers.set index final, later⟩ place =
      if place = (index, ledger.entries.length) then entry.receiptGrant
      else world.receiptGrant place := by
  obtain ⟨ledgerIndex, entryIndex⟩ := place
  unfold World.receiptGrant
  have bound : index < world.ledgers.length := (List.getElem?_eq_some_iff.mp found).1
  by_cases sameLedger : ledgerIndex = index
  · subst sameLedger
    simp only [List.getElem?_set_self bound, Option.bind_some, grown, found, Prod.mk.injEq,
      true_and]
    by_cases last : entryIndex = ledger.entries.length
    · subst last
      simp
    · rw [if_neg last]
      rcases Nat.lt_or_gt_of_ne last with before | after
      · rw [List.getElem?_append_left before]
      · rw [List.getElem?_eq_none (by simp; omega), List.getElem?_eq_none (le_of_lt after)]
  · rw [if_neg (by simp [sameLedger]), List.getElem?_set_ne (Ne.symm sameLedger)]

theorem World.Sound.opened (sound : world.Sound) {plan : MatrixPlan}
    (created : MatrixLedger.new plan = .ok ledger) :
    World.Sound { world with ledgers := world.ledgers ++ [ledger] } where
  ledgers := by
    intro other present
    rcases List.mem_append.mp present with earlier | last
    · exact sound.ledgers other earlier
    · obtain ⟨planDigest, entry, _, _, rfl⟩ := (MatrixLedger.new_eq_ok plan ledger).mp created
      rw [List.mem_singleton.mp last]
      refine ⟨fun _ _ impossible => (by cases impossible), ?_⟩
      change 1 ≤ maxListLength
      decide
  spent := by
    intro grantId
    simp only [receiptGrant_opened created]
    exact sound.spent grantId
  once := by
    intro grantId first second
    rw [receiptGrant_opened created, receiptGrant_opened created]
    exact sound.once grantId first second

/-- A call that returns receives its grant, if any, at a new place. -/
theorem World.Sound.returned (sound : world.Sound) {index : Nat}
    (found : world.ledgers[index]? = some ledger) {operation : Operation}
    {cell : Cell}
    (taken : Recorded ledger operation.document operation.recordedAt cell entry)
    (guard : operation.Guard ledger world.registry cell entry)
    (held : (ledger.recorded operation.document cell entry).entries.length ≤ maxListLength) :
    World.Sound ⟨world.ledgers.set index (ledger.recorded operation.document cell entry),
      world.registry ++ operation.keys⟩ := by
  have places := receiptGrant_called found (ledger.recorded operation.document cell entry)
    (world.registry ++ operation.keys) entry rfl
  have granted := taken.next.receiptGrant
  have unused : ∀ grantId, entry.receiptGrant = some grantId →
      ∀ place, world.receiptGrant place ≠ some grantId := by
    intro grantId received place earlier
    have consumed := (sound.spent grantId).mpr ⟨place, earlier⟩
    rw [granted] at received
    cases operation with
    | receipt document =>
        cases received
        exact guard consumed
    | _ => cases received
  constructor
  · intro other present
    rcases List.mem_or_eq_of_mem_set present with earlier | rfl
    · exact sound.ledgers other earlier
    · exact ⟨(sound.ledgers ledger (List.mem_of_getElem? found)).1.recorded taken guard, held⟩
  · intro grantId
    rw [List.mem_append, sound.spent, operation.mem_keys, ← granted]
    constructor
    · rintro (⟨place, earlier⟩ | received)
      · refine ⟨place, ?_⟩
        rw [places, if_neg ?_]
        · exact earlier
        · rintro rfl
          simp [World.receiptGrant, found] at earlier
      · exact ⟨(index, ledger.entries.length), by rw [places, if_pos rfl, received]⟩
    · rintro ⟨place, received⟩
      rw [places] at received
      split at received
      · exact .inr received
      · exact .inl ⟨place, received⟩
  · intro grantId first second firstHere secondHere
    rw [places] at firstHere secondHere
    split at firstHere <;> split at secondHere
    · rename_i sameFirst sameSecond
      rw [sameFirst, sameSecond]
    · exact absurd secondHere (unused grantId firstHere second)
    · exact absurd firstHere (unused grantId secondHere first)
    · exact sound.once grantId first second firstHere secondHere

/-- The run lemma: every reachable world is sound. -/
theorem Reachable.sound (reached : Reachable world) : world.Sound := by
  induction reached with
  | start registry noGrants =>
      refine ⟨fun _ impossible => (by cases impossible), fun grantId => ⟨?_, ?_⟩, ?_⟩
      · intro present
        exact absurd rfl (noGrants _ present)
      · rintro ⟨place, impossible⟩
        simp [World.receiptGrant] at impossible
      · intro grantId first _ impossible
        simp [World.receiptGrant] at impossible
  | opened _ plan ledger created sound => exact sound.opened created
  | @called world _ index ledger found operation outcome final later ran held sound =>
      obtain ⟨ledgerSound, ledgerHeld⟩ := sound.ledgers ledger (List.mem_of_getElem? found)
      cases outcome with
      | error error =>
          obtain ⟨rfl, unchanged⟩ := operation.run_keeps ledger final world.registry later error
            ledgerSound ran
          obtain rfl := unchanged (fits_of_held ledgerHeld)
          have same : world.ledgers.set index final = world.ledgers := by
            obtain ⟨bound, here⟩ := List.getElem?_eq_some_iff.mp found
            rw [← here]
            exact List.set_getElem_self bound
          rw [same]
          exact sound
      | ok digest =>
          obtain ⟨cell, entry, taken, guard, _, rfl, rfl⟩ :=
            (operation.run_eq_ok ledger final world.registry later digest
              ledgerSound.intentsDigested).mp ran
          exact sound.returned found taken guard held

/-! ### All or nothing -/

end General

end EgoAgent.Rxp
