import EgoAgent.Api.Provenance

/-!
The research compiler: a normalised proposal, its tree of modules and the experiment matrix.
-/

namespace EgoAgent.ResearchOs

open EgoAgent.Api

variable {φ : Type} [FloatText φ]

/-! ### Proposals -/

inductive InputTier where
  | detailed | fuzzy | baselineOnly
  deriving DecidableEq

def InputTier.value : InputTier → String
  | .detailed => "detailed_proposal" | .fuzzy => "fuzzy_idea" | .baselineOnly => "baseline_only"

/-- `ModuleSpec`, and the dictionary that it is dumped to. -/
inductive ModuleSpec (φ : Type) where
  | mk (name kind hypothesis : String) (runnable : Bool) (parameters : List (String × Json φ))
      (children : List (ModuleSpec φ))

/-- `ResearchInput`, with what its validators establish of the lists. -/
structure ResearchInput (φ : Type) where
  title : String
  objective : String
  baseline : String
  proposal : Option String
  idea : Option String
  branches : List String
  coreCode : Option String
  hierarchy : List (ModuleSpec φ)
  metrics : List String
  folds : List Int
  seeds : List Int
  requestedTier : Option InputTier
  sourceRepository : Option String
  branchesNonempty : ∀ branch ∈ branches, branch ≠ ""
  branchesDistinct : branches.Nodup
  foldsNonempty : folds ≠ []
  foldsDistinct : folds.Nodup
  seedsNonempty : seeds ≠ []
  seedsDistinct : seeds.Nodup

inductive Failure where
  | validation (message : String)
  deriving DecidableEq

/-- A text that is neither missing nor empty. -/
def truthy (text : Option String) : Bool := text.any fun text => decide (text ≠ "")

structure NormalizedProposal (φ : Type) where
  tier : InputTier
  method : String
  truthClass : String
  title : String
  objective : String
  baseline : String
  proposal : String
  coreCode : Option String
  sourceRepository : Option String
  metrics : List String
  hierarchy : List (ModuleSpec φ)

def isSlugChar (c : Char) : Bool := ('a' ≤ c && c ≤ 'z') || ('0' ≤ c && c ≤ '9')

/-- `re.sub(r"[^a-z0-9]+", "-", ...)`. -/
def dashed : Bool → List Char → List Char
  | _, [] => []
  | inRun, c :: rest =>
      if isSlugChar c = true then c :: dashed false rest
      else if inRun = true then dashed true rest
      else '-' :: dashed true rest

def stripDashes (chars : List Char) : List Char :=
  ((chars.dropWhile (· = '-')).reverse.dropWhile (· = '-')).reverse

/-- `_slug`; `lower` is the lower case of a text. -/
def slug (lower : List Char → List Char) (value : String) : List Char :=
  let normalized := (stripDashes (dashed false (lower value.toList))).take 48
  if normalized = [] then "node".toList else normalized

/-- `%03d`. -/
def padded (sequence : Nat) : List Char :=
  List.replicate (3 - (Nat.toDigits 10 sequence).length) '0' ++ Nat.toDigits 10 sequence

def nodeId (lower : List Char → List Char) (sequence : Nat) (name : String) : String :=
  String.ofList ('n' :: padded sequence ++ '-' :: slug lower name)

inductive TreeNode (φ : Type) where
  | mk (nodeId name kind hypothesis : String) (runnable : Bool)
      (parameters : List (String × Json φ)) (path : List String) (children : List (TreeNode φ))

def TreeNode.nodeId : TreeNode φ → String
  | .mk nodeId _ _ _ _ _ _ _ => nodeId

def TreeNode.runnable : TreeNode φ → Bool
  | .mk _ _ _ _ runnable _ _ _ => runnable

def TreeNode.parameters : TreeNode φ → List (String × Json φ)
  | .mk _ _ _ _ _ parameters _ _ => parameters

def TreeNode.path : TreeNode φ → List String
  | .mk _ _ _ _ _ _ path _ => path

section Visit

variable (lower : List Char → List Char)

mutual

/-- `visit`, with the counter before and after it. -/
def visit : ModuleSpec φ → List String → Nat → TreeNode φ × Nat
  | .mk name kind hypothesis runnable parameters children, path, sequence =>
      let visited := visitAll children (path ++ [name]) (sequence + 1)
      (.mk (nodeId lower (sequence + 1) name) name kind hypothesis runnable parameters
        (path ++ [name]) visited.1, visited.2)

def visitAll : List (ModuleSpec φ) → List String → Nat → List (TreeNode φ) × Nat
  | [], _, sequence => ([], sequence)
  | child :: rest, path, sequence =>
      let first := visit child path sequence
      let others := visitAll rest path first.2
      (first.1 :: others.1, others.2)

end

end Visit

mutual

def TreeNode.document : TreeNode φ → Json φ
  | .mk nodeId name kind hypothesis runnable parameters path children =>
      .dict [("node_id", .str nodeId), ("name", .str name), ("kind", .str kind),
        ("hypothesis", .str hypothesis), ("runnable", .bool runnable),
        ("parameters", .dict parameters), ("path", .list (path.map .str)),
        ("children", .list (documents children))]

def documents : List (TreeNode φ) → List (Json φ)
  | [] => []
  | node :: rest => node.document :: documents rest

end

mutual

/-- `model_dump(mode="json")`. -/
def ModuleSpec.dump : ModuleSpec φ → Json φ
  | .mk name kind hypothesis runnable parameters children =>
      .dict [("name", .str name), ("kind", .str kind), ("hypothesis", .str hypothesis),
        ("runnable", .bool runnable), ("parameters", .dict parameters),
        ("children", .list (dumpModules children))]

def dumpModules : List (ModuleSpec φ) → List (Json φ)
  | [] => []
  | module_ :: rest => module_.dump :: dumpModules rest

end

section Digests

variable (sha256 : Bytes → Digest)

/-- `canonical_sha256`. -/
def canonicalSha256 (value : Json φ) : Digest := sha256 (utf8Encode value.sorted.text)

structure Tree (φ : Type) where
  root : TreeNode φ
  treeSha256 : String

mutual

def runnableNodes : TreeNode φ → List (TreeNode φ)
  | .mk nodeId name kind hypothesis runnable parameters path children =>
      (if runnable = true then
        [.mk nodeId name kind hypothesis runnable parameters path children] else []) ++
      runnableNodesAll children

def runnableNodesAll : List (TreeNode φ) → List (TreeNode φ)
  | [] => []
  | child :: rest => runnableNodes child ++ runnableNodesAll rest

end

/-- The `core` of a cell. -/
structure CellCore (φ : Type) where
  treeNodeId : String
  treePath : List String
  fold : Int
  seed : Int
  parameters : List (String × Json φ)
  metrics : List String

def CellCore.fields (core : CellCore φ) : List (String × Json φ) :=
  [("tree_node_id", .str core.treeNodeId), ("tree_path", .list (core.treePath.map .str)),
    ("fold", .int core.fold), ("seed", .int core.seed), ("parameters", .dict core.parameters),
    ("metrics", .list (core.metrics.map .str))]

structure Cell (φ : Type) where
  cellId : String
  core : CellCore φ
  intentToken : String
  status : String

def Cell.document (cell : Cell φ) : Json φ :=
  .dict ([("cell_id", .str cell.cellId)] ++ cell.core.fields ++
    [("intent_token", .str cell.intentToken), ("status", .str cell.status)])

/-- The first hexadecimal digits of a core's digest. -/
def CellCore.shortDigest (core : CellCore φ) (digits : Nat) : List Char :=
  (canonicalSha256 sha256 (.dict core.fields)).hex.take digits

def CellCore.cell (core : CellCore φ) : Cell φ where
  cellId := String.ofList ("exp_".toList ++ core.shortDigest sha256 16)
  core := core
  intentToken := String.ofList ("rxpi_".toList ++ core.shortDigest sha256 24)
  status := "PLANNED"

structure Matrix (φ : Type) where
  treeSha256 : String
  cells : List (Cell φ)
  matrixSha256 : String
  cellCount : Nat

def TreeNode.core (node : TreeNode φ) (metrics : List String) (fold seed : Int) : CellCore φ where
  treeNodeId := node.nodeId
  treePath := node.path
  fold := fold
  seed := seed
  parameters := node.parameters
  metrics := metrics

def matrixFields (treeSha256 : String) (cells : List (Cell φ)) : List (String × Json φ) :=
  [("schema_version", .str "egoagentos-experiment-matrix/v1"), ("tree_sha256", .str treeSha256),
    ("cells", .list (cells.map Cell.document))]

/-- The result, without its two constant fields. -/
structure Compiled (φ : Type) where
  normalized : NormalizedProposal φ
  tree : Tree φ
  matrix : Matrix φ
  compileSha256 : String

def optionalStr : Option String → Json φ
  | some text => .str text
  | none => .null

def NormalizedProposal.document (normalized : NormalizedProposal φ) : Json φ :=
  .dict [("tier", .str normalized.tier.value),
    ("normalization", .dict [("method", .str normalized.method),
      ("truth_class", .str normalized.truthClass), ("model_call", .str "NOT_RUN")]),
    ("title", .str normalized.title), ("objective", .str normalized.objective),
    ("baseline", .str normalized.baseline), ("proposal", .str normalized.proposal),
    ("core_code", optionalStr normalized.coreCode),
    ("source_repository", optionalStr normalized.sourceRepository),
    ("metrics", .list (normalized.metrics.map .str)),
    ("hierarchy", .list (dumpModules normalized.hierarchy))]

def Tree.document (tree : Tree φ) : Json φ :=
  match tree.root.document with
  | .dict members => .dict (members ++ [("tree_sha256", .str tree.treeSha256)])
  | other => other

def Matrix.document (matrix : Matrix φ) : Json φ :=
  .dict (matrixFields matrix.treeSha256 matrix.cells ++
    [("matrix_sha256", .str matrix.matrixSha256), ("cell_count", .int matrix.cellCount)])

end Digests

end EgoAgent.ResearchOs
