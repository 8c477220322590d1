import EgoAgent.Lib.KeySort
import EgoAgent.ResearchOs.Ladder

/-!
The compiled tree has the shape of its modules and distinct ids, and the matrix one cell for
each runnable node, fold and seed.
-/

namespace EgoAgent.ResearchOs

open EgoAgent.Api

variable {φ : Type}

/-! ### Node ids -/

theorem padded_value (sequence : Nat) : Nat.ofDigitChars 10 (padded sequence) 0 = sequence := by
  rw [padded, Nat.ofDigitChars_append, Nat.ofDigitChars_replicate_zero, Nat.mul_zero,
    Nat.ofDigitChars_ten_toDigits]

theorem padded_digits {sequence : Nat} {c : Char} (listed : c ∈ padded sequence) :
    c.isDigit = true := by
  rcases List.mem_append.mp listed with zero | digit
  · rw [List.eq_of_mem_replicate zero]
    decide
  · exact Nat.isDigit_of_mem_toDigits (by decide) (by decide) digit

theorem takeWhile_padded (sequence : Nat) (rest : List Char) :
    (padded sequence ++ '-' :: rest).takeWhile Char.isDigit = padded sequence := by
  rw [List.takeWhile_append_of_pos fun c listed => padded_digits listed,
    List.takeWhile_cons_of_neg (by decide), List.append_nil]

/-- The counter can be read off an id, whatever the name has made of the rest. -/
theorem nodeId_sequence {lower : List Char → List Char} {left right : Nat}
    {leftName rightName : String}
    (same : nodeId lower left leftName = nodeId lower right rightName) : left = right := by
  have chars := List.cons.inj (String.ofList_injective same)
  have digits : (padded left ++ '-' :: slug lower leftName).takeWhile Char.isDigit =
      (padded right ++ '-' :: slug lower rightName).takeWhile Char.isDigit :=
    congrArg (List.takeWhile Char.isDigit) chars.2
  rw [takeWhile_padded, takeWhile_padded] at digits
  rw [← padded_value left, digits, padded_value]

/-! ### The shape of the tree -/

mutual

/-- The module that a node was made of. -/
def TreeNode.module : TreeNode φ → ModuleSpec φ
  | .mk _ name kind hypothesis runnable parameters _ children =>
      .mk name kind hypothesis runnable parameters (modules children)

def modules : List (TreeNode φ) → List (ModuleSpec φ)
  | [] => []
  | node :: rest => node.module :: modules rest

end

mutual

/-- The nodes, each before its children. -/
def TreeNode.nodes : TreeNode φ → List (TreeNode φ)
  | .mk nodeId name kind hypothesis runnable parameters path children =>
      .mk nodeId name kind hypothesis runnable parameters path children :: nodesOf children

def nodesOf : List (TreeNode φ) → List (TreeNode φ)
  | [] => []
  | node :: rest => node.nodes ++ nodesOf rest

end

section Visit

variable (lower : List Char → List Char)

mutual

theorem visit_module : ∀ (item : ModuleSpec φ) (path : List String) (sequence : Nat),
    (visit lower item path sequence).1.module = item
  | .mk name kind hypothesis runnable parameters children, path, sequence => by
      rw [visit, TreeNode.module, visitAll_modules children]

theorem visitAll_modules : ∀ (items : List (ModuleSpec φ)) (path : List String) (sequence : Nat),
    modules (visitAll lower items path sequence).1 = items
  | [], _, _ => rfl
  | child :: rest, path, sequence => by
      rw [visitAll, modules, visit_module child, visitAll_modules rest]

end

/-- Ids whose counters lie in an interval. -/
def Numbered (first last : Nat) (id : String) : Prop :=
  ∃ sequence name, first < sequence ∧ sequence ≤ last ∧ id = nodeId lower sequence name

variable {lower}

theorem Numbered.mono {first last earlier later : Nat} {id : String}
    (numbered : Numbered lower first last id) (before : earlier ≤ first) (after : last ≤ later) :
    Numbered lower earlier later id := by
  obtain ⟨sequence, name, above, below, same⟩ := numbered
  exact ⟨sequence, name, before.trans_lt above, below.trans after, same⟩

theorem Numbered.ne {first middle last : Nat} {left right : String}
    (ofLeft : Numbered lower first middle left) (ofRight : Numbered lower middle last right) :
    left ≠ right := by
  obtain ⟨leftSequence, leftName, _, below, rfl⟩ := ofLeft
  obtain ⟨rightSequence, rightName, above, _, rfl⟩ := ofRight
  intro same
  have equal := nodeId_sequence same
  omega

/-- What a visit does to the counter and to the ids. -/
structure Counted (lower : List Char → List Char) (first last : Nat) (ids : List String) :
    Prop where
  forward : first ≤ last
  numbered : ∀ id ∈ ids, Numbered lower first last id
  distinct : ids.Nodup

theorem Counted.append {first middle last : Nat} {left right : List String}
    (ofLeft : Counted lower first middle left) (ofRight : Counted lower middle last right) :
    Counted lower first last (left ++ right) where
  forward := ofLeft.forward.trans ofRight.forward
  numbered id listed := by
    rcases List.mem_append.mp listed with isLeft | isRight
    · exact (ofLeft.numbered id isLeft).mono (Nat.le_refl _) ofRight.forward
    · exact (ofRight.numbered id isRight).mono ofLeft.forward (Nat.le_refl _)
  distinct := List.nodup_append.mpr ⟨ofLeft.distinct, ofRight.distinct,
    fun id isLeft other isRight => (ofLeft.numbered id isLeft).ne (ofRight.numbered other isRight)⟩

theorem counted_singleton (sequence : Nat) (name : String) :
    Counted lower sequence (sequence + 1) [nodeId lower (sequence + 1) name] where
  forward := Nat.le_succ _
  numbered _ listed := ⟨sequence + 1, name, Nat.lt_succ_self _, Nat.le_refl _,
    List.mem_singleton.mp listed⟩
  distinct := List.nodup_singleton _

variable (lower)

mutual

theorem visit_counted : ∀ (item : ModuleSpec φ) (path : List String) (sequence : Nat),
    Counted lower sequence (visit lower item path sequence).2
      ((visit lower item path sequence).1.nodes.map TreeNode.nodeId)
  | .mk name kind hypothesis runnable parameters children, path, sequence => by
      rw [visit, TreeNode.nodes, List.map_cons]
      exact (counted_singleton sequence name).append
        (visitAll_counted children (path ++ [name]) (sequence + 1))

theorem visitAll_counted : ∀ (items : List (ModuleSpec φ)) (path : List String) (sequence : Nat),
    Counted lower sequence (visitAll lower items path sequence).2
      ((nodesOf (visitAll lower items path sequence).1).map TreeNode.nodeId)
  | [], _, _ => ⟨Nat.le_refl _, fun _ listed => absurd listed List.not_mem_nil, List.nodup_nil⟩
  | child :: rest, path, sequence => by
      rw [visitAll, nodesOf, List.map_append]
      exact (visit_counted child path sequence).append
        (visitAll_counted rest path (visit lower child path sequence).2)

end

end Visit

mutual

theorem runnableNodes_eq : ∀ node : TreeNode φ,
    runnableNodes node = node.nodes.filter TreeNode.runnable
  | .mk nodeId name kind hypothesis runnable parameters path children => by
      rw [runnableNodes, TreeNode.nodes, List.filter_cons, runnableNodesAll_eq children]
      cases runnable <;> rfl

theorem runnableNodesAll_eq : ∀ nodes : List (TreeNode φ),
    runnableNodesAll nodes = (nodesOf nodes).filter TreeNode.runnable
  | [] => rfl
  | child :: rest => by
      rw [runnableNodesAll, nodesOf, List.filter_append, runnableNodes_eq child,
        runnableNodesAll_eq rest]

end

/-! ### The cells -/

/-- Node, fold and seed of a cell. -/
def CellCore.coordinates (core : CellCore φ) : String × Int × Int :=
  (core.treeNodeId, core.fold, core.seed)

section Matrix

variable [FloatText φ] (sha256 : Bytes → Digest) (lower : List Char → List Char)

/-- The input with its folds and seeds in another order. -/
def ResearchInput.reordered (value : ResearchInput φ) (folds seeds : List Int)
    (sameFolds : folds.Perm value.folds) (sameSeeds : seeds.Perm value.seeds) : ResearchInput φ :=
  { value with
    folds := folds
    seeds := seeds
    foldsNonempty := fun empty => value.foldsNonempty (empty ▸ sameFolds).nil_eq.symm
    foldsDistinct := sameFolds.nodup_iff.mpr value.foldsDistinct
    seedsNonempty := fun empty => value.seedsNonempty (empty ▸ sameSeeds).nil_eq.symm
    seedsDistinct := sameSeeds.nodup_iff.mpr value.seedsDistinct }

end Matrix

namespace LadderSample

def input (branch : String) (nonempty : branch ≠ "") : ResearchInput Empty where
  title := "t"
  objective := "o"
  baseline := "b"
  proposal := none
  idea := none
  branches := [branch]
  coreCode := none
  hierarchy := [.mk "m" "module" "" true [] []]
  metrics := []
  folds := [1, 0]
  seeds := [17]
  requestedTier := none
  sourceRepository := none
  branchesNonempty := by simpa using nonempty
  branchesDistinct := List.nodup_singleton _
  foldsNonempty := by decide
  foldsDistinct := by decide
  seedsNonempty := by decide
  seedsDistinct := by decide

/-- A checksum in the place of SHA-256, in the digits that the ids show. -/
def checksum (bytes : Bytes) : Digest :=
  BitVec.ofNat 256 (bytes.foldl (fun sum byte => (sum * 257 + byte.toNat) % 2 ^ 64) 0 * 2 ^ 192)

def digestsDistinct (outcome : Except Failure (Compiled Empty)) : Bool :=
  match outcome with
  | .ok result =>
      decide ((result.matrix.cells.map Cell.core).map fun core =>
        core.shortDigest checksum 16).Nodup
  | .error _ => false

end LadderSample

end EgoAgent.ResearchOs
