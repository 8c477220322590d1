import EgoAgent.Rxp.Normal

/-!
Matrix plans, and documents of any kind, re-read from their canonical bytes.

The plan's validator compares canonical bytes, which re-reading keeps, so only
the plan's name can make a re-reading fail.
-/

namespace EgoAgent.Rxp

open Platform MatrixLedger

/-- Products of related choices are related choice by choice. -/
private theorem product_related {α β : Type} {relation : α → β → Prop} {left : List (List α)}
    {right : List (List β)} (related : List.Forall₂ (List.Forall₂ relation) left right) :
    List.Forall₂ (List.Forall₂ relation) (product left) (product right) := by
  induction related with
  | nil => exact .cons .nil .nil
  | cons first _ ih =>
      simp only [product]
      induction first with
      | nil => exact .nil
      | cons head _ later =>
          rw [List.flatMap_cons, List.flatMap_cons]
          refine List.rel_append ?_ later
          rw [List.forall₂_map_left_iff, List.forall₂_map_right_iff]
          exact ih.imp fun _ _ tail => .cons head tail

variable [Platform]

/-! ### Axes -/

private theorem axisName_norm (name : Matched axisNamePattern) :
    (matchedCodec axisNamePattern).norm name = some name := rfl

/-- Scalars with one canonical form. -/
def SameScalar (source reread : Scalar) : Prop :=
  reread.value.canon unicode = source.value.canon unicode

/-- Axes that agree up to the canonical forms of their values. -/
def SameAxis (source reread : MatrixAxis) : Prop :=
  reread.name = source.name ∧ List.Forall₂ SameScalar source.values reread.values

section

variable {source reread : List Scalar}

private theorem sameScalars_of_norm (computed : scalarCodec.array.norm source = some reread) :
    List.Forall₂ SameScalar source reread :=
  ((Codec.traverse_eq_some_iff _ _ _).mp computed).imp fun a b related =>
    scalarCodec.dump_norm a b related

theorem MatrixAxis.norm_some {source reread : MatrixAxis}
    (computed : MatrixAxis.codec.norm source = some reread) : SameAxis source reread := by
  have refined := Codec.iso_norm _ _ _ _ _ _ computed
  rw [Codec.refine_norm] at refined
  have fields := Codec.iso_norm _ _ _ _ _ _ refined
  simp only [Record.object_norm, Record.field_norm, axisName_norm, Option.some.injEq] at fields
  exact ⟨fields.1.symm, sameScalars_of_norm fields.2.1⟩

private theorem encodings_eq (same : List.Forall₂ SameScalar source reread) :
    (reread.map fun value => canonicalBytes unicode value.value) =
      source.map fun value => canonicalBytes unicode value.value :=
  Related.map_eq same _ _ fun _ _ related => canonicalBytes_congr unicode related

theorem MatrixAxis.norm_returns (source : MatrixAxis) :
    ∃ reread, MatrixAxis.codec.norm source = some reread := by
  obtain ⟨bounds, encodes, distinct⟩ := source.valuesUnique
  obtain ⟨values, valuesEq⟩ := Codec.traverse_returns scalarCodec.norm source.values (by
    intro value present
    obtain ⟨payload, encoded⟩ := Option.isSome_iff_exists.mp (encodes value present)
    obtain ⟨normal, canonEq, _⟩ := (canonicalBytes_eq_some_iff _ _ _).mp encoded
    exact scalarCodec_total value normal canonEq)
  have same := sameScalars_of_norm valuesEq
  have encodings := encodings_eq same
  let fields : MatrixAxisFields := { source.toMatrixAxisFields with values }
  have fieldsEq : MatrixAxisFields.codec.norm source.toMatrixAxisFields = some fields := by
    refine Codec.iso_norm_of _ _ _ _ rfl ?_
    simp only [Record.object_norm, Record.field_norm]
    exact ⟨rfl, valuesEq, rfl⟩
  have legal : fields.valuesAreUnique := by
    refine ⟨?_, ?_, ?_⟩
    · change 1 ≤ values.length ∧ values.length ≤ 256
      rw [← same.length_eq]
      exact bounds
    · intro value present
      obtain ⟨original, inSource, related⟩ := Related.partner_of_right same value present
      rw [canonicalBytes_congr unicode related]
      exact encodes original inSource
    · change (values.map _).Nodup
      rw [encodings]
      exact distinct
  exact ⟨{ fields with valuesUnique := legal },
    Codec.iso_norm_of _ _ _ _ rfl ((Codec.refine_norm _ _ _ _).mpr fieldsEq)⟩

/-! ### Cells -/

/-- Cell definitions that agree up to normalisation of the coordinates. -/
def SameCell (source reread : MatrixCellDefinition) : Prop :=
  reread.cellId = source.cellId ∧
    coordinatesCodec.norm source.coordinates = some reread.coordinates

theorem MatrixCellDefinition.norm_some {source reread : MatrixCellDefinition}
    (computed : MatrixCellDefinition.codec.norm source = some reread) : SameCell source reread := by
  have fields := Codec.iso_norm _ _ _ _ _ _ computed
  simp only [Record.object_norm, Record.field_norm] at fields
  exact ⟨(Option.some.inj fields.1).symm, fields.2.1⟩

private theorem sameCells_of_norm {source reread : List MatrixCellDefinition}
    (computed : MatrixCellDefinition.codec.array.norm source = some reread) :
    List.Forall₂ SameCell source reread :=
  ((Codec.traverse_eq_some_iff _ _ _).mp computed).imp fun _ _ related =>
    MatrixCellDefinition.norm_some related

private theorem keys_reread {source reread : Coordinates}
    (computed : coordinatesCodec.norm source = some reread) (names : List String)
    (ascii : ∀ name ∈ names, isAscii name)
    (within : ∀ name ∈ source.members.keys, name ∈ names) :
    ∀ name, name ∈ reread.members.keys ↔ name ∈ source.members.keys := by
  obtain ⟨entries, related, perm⟩ := Mapping.norm_entries _ _ _ computed
  have keyFixed : ∀ entry ∈ source.members, unicode.nfc entry.1 = entry.1 := by
    intro entry present
    exact unicode.nfc_ascii (ascii _ (within _ (List.mem_map_of_mem (f := Prod.fst) present)))
  intro name
  constructor
  · intro present
    obtain ⟨entry, inReread, rfl⟩ := List.mem_map.mp present
    obtain ⟨original, inSource, keyEq, _⟩ :=
      Related.partner_of_right related entry (perm.mem_iff.mp inReread)
    rw [keyEq, keyFixed original inSource]
    exact List.mem_map_of_mem (f := Prod.fst) inSource
  · intro present
    obtain ⟨entry, inSource, rfl⟩ := List.mem_map.mp present
    obtain ⟨target, inEntries, keyEq, _⟩ := Related.partner_of_left related entry inSource
    rw [← keyFixed entry inSource, ← keyEq]
    exact List.mem_map_of_mem (f := Prod.fst) (perm.mem_iff.mpr inEntries)

/-! ### The Cartesian product -/

private theorem canonMembers_zip (names : List String)
    (same : List.Forall₂ SameScalar source reread) :
    canonMembers unicode (names.zip (reread.map Scalar.value)) =
      canonMembers unicode (names.zip (source.map Scalar.value)) := by
  induction same generalizing names with
  | nil => rfl
  | cons first _ ih =>
      cases names with
      | nil => rfl
      | cons name names =>
          simp only [List.map_cons, List.zip_cons_cons, canonMembers]
          rw [ih names, first]

end

private theorem expected_eq {source reread : MatrixPlanFields}
    (axes : List.Forall₂ SameAxis source.axes reread.axes) :
    reread.axisNames = source.axisNames ∧ reread.expected = source.expected := by
  have names : reread.axisNames = source.axisNames :=
    Related.map_eq axes _ _ fun _ _ related => by rw [related.1]
  refine ⟨names, ?_⟩
  have values : List.Forall₂ (List.Forall₂ SameScalar)
      (source.axes.map fun axis => axis.values) (reread.axes.map fun axis => axis.values) := by
    rw [List.forall₂_map_left_iff, List.forall₂_map_right_iff]
    exact axes.imp fun _ _ related => related.2
  unfold MatrixPlanFields.expected
  rw [names]
  refine Related.map_eq (product_related values) _ _ fun choice choice' related => ?_
  apply canonicalBytes_congr
  simp only [Value.canon, canonMembers_zip source.axisNames related]

/-! ### Plans -/

structure MatrixPlanNormal (source reread : MatrixPlan) : Prop where
  matrixId : reread.matrixId = source.matrixId
  frozenAt : reread.frozenAt = source.frozenAt
  cells : List.Forall₂ SameCell source.cells reread.cells

theorem MatrixPlan.norm_some {source reread : MatrixPlan}
    (computed : MatrixPlan.codec.norm source = some reread) : MatrixPlanNormal source reread := by
  have refined := Codec.iso_norm _ _ _ _ _ _ computed
  rw [Codec.refine_norm] at refined
  have fields := Codec.iso_norm _ _ _ _ _ _ refined
  simp only [Record.object_norm, Record.field_norm, Record.constant_norm] at fields
  obtain ⟨matrixId, _, _, frozenAt, _, cells, _⟩ := fields
  exact ⟨(Option.some.inj matrixId).symm, (Option.some.inj frozenAt).symm,
    sameCells_of_norm cells⟩

private theorem axisNames_ascii (plan : MatrixPlanFields) :
    ∀ name ∈ plan.axisNames, isAscii name := by
  intro name present
  obtain ⟨axis, _, rfl⟩ := List.mem_map.mp present
  exact axis.name.ascii

/-- A plan re-reads when its name stays within bounds. -/
theorem MatrixPlan.norm_returns (source : MatrixPlan) (name : ReadsBack source.name) :
    ∃ reread, MatrixPlan.codec.norm source = some reread := by
  obtain ⟨axesBounds, cellsBounds, axesSorted, cellsSorted, small, covers, encodes, enumerates⟩ :=
    source.cellsComplete
  obtain ⟨axes, axesEq⟩ := Codec.traverse_returns MatrixAxis.codec.norm source.axes
    fun axis _ => axis.norm_returns
  have cellReturns : ∀ cell ∈ source.cells, ∃ reread,
      MatrixCellDefinition.codec.norm cell = some reread := by
    intro cell present
    obtain ⟨payload, encoded⟩ := Option.isSome_iff_exists.mp
      (encodes _ (List.mem_map_of_mem (f := fun cell : MatrixCellDefinition =>
        canonicalBytes unicode cell.coordinates.value) present))
    obtain ⟨normal, canonEq, _⟩ := (canonicalBytes_eq_some_iff _ _ _).mp encoded
    obtain ⟨coordinates, coordinatesEq⟩ := coordinatesCodec_total cell.coordinates normal canonEq
    refine ⟨{ cell with coordinates }, Codec.iso_norm_of _ _ _ _ rfl ?_⟩
    simp only [Record.object_norm, Record.field_norm]
    exact ⟨rfl, coordinatesEq, rfl⟩
  obtain ⟨cells, cellsEq⟩ := Codec.traverse_returns MatrixCellDefinition.codec.norm source.cells
    cellReturns
  have sameAxes : List.Forall₂ SameAxis source.axes axes :=
    ((Codec.traverse_eq_some_iff _ _ _).mp axesEq).imp fun _ _ related =>
      MatrixAxis.norm_some related
  have sameCells := sameCells_of_norm cellsEq
  let fields : MatrixPlanFields := { source.toMatrixPlanFields with
    name := ⟨unicode.nfc source.name.val, name⟩
    axes
    cells }
  have fieldsEq : MatrixPlanFields.codec.norm source.toMatrixPlanFields = some fields := by
    refine Codec.iso_norm_of _ _ _ _ rfl ?_
    simp only [Record.object_norm, Record.field_norm, Record.constant_norm]
    exact ⟨rfl, boundedText_norm name, rfl, rfl, axesEq, cellsEq, rfl⟩
  obtain ⟨namesEq, expectedEq⟩ : fields.axisNames = source.axisNames ∧
      fields.expected = source.expected := expected_eq sameAxes
  have idsEq : fields.cellIds = source.cellIds :=
    Related.map_eq sameCells _ _ fun _ _ related => by rw [related.1]
  have actualEq : fields.actual = source.actual :=
    Related.map_eq sameCells _ _ fun cell reread related =>
      canonicalBytes_congr unicode (coordinatesCodec.dump_norm _ _ related.2)
  have sizesEq : (fields.axes.map fun axis => axis.values.length) =
      source.axes.map fun axis => axis.values.length :=
    Related.map_eq sameAxes _ _ fun _ _ related => related.2.length_eq.symm
  have legal : fields.cellsAreTheCompleteCartesianSpace := by
    unfold MatrixPlanFields.cellsAreTheCompleteCartesianSpace
    rw [namesEq, idsEq, actualEq, expectedEq, sizesEq]
    refine ⟨?_, ?_, axesSorted, cellsSorted, small, ?_, encodes, enumerates⟩
    · change 1 ≤ axes.length ∧ axes.length ≤ 16
      rw [← sameAxes.length_eq]
      exact axesBounds
    · change 1 ≤ cells.length ∧ cells.length ≤ 10000
      rw [← sameCells.length_eq]
      exact cellsBounds
    · intro cell present
      obtain ⟨original, inSource, _, coordinatesEq⟩ :=
        Related.partner_of_right sameCells cell present
      obtain ⟨within, every⟩ := covers original inSource
      have keys := keys_reread coordinatesEq _ (axisNames_ascii _) within
      exact ⟨fun name listed => within name ((keys name).mp listed),
        fun name listed => (keys name).mpr (every name listed)⟩
  exact ⟨{ fields with cellsComplete := legal },
    Codec.iso_norm_of _ _ _ _ rfl ((Codec.refine_norm _ _ _ _).mpr fieldsEq)⟩

/-- The cell a plan declares under an identifier survives re-reading. -/
theorem expectedCell_reread {source reread : MatrixPlan}
    (normal : MatrixPlanNormal source reread) {cellId : Ident} {definition : MatrixCellDefinition}
    (declared : expectedCell source cellId = some definition) :
    ∃ definition', expectedCell reread cellId = some definition' ∧
      SameCell definition definition' := by
  have found := Related.find? normal.cells (fun cell => cell.cellId = cellId)
    (fun cell => cell.cellId = cellId) fun _ _ related => by rw [related.1]
  unfold expectedCell at declared ⊢
  rw [declared] at found
  generalize reread.cells.find? _ = other at found ⊢
  cases found with
  | some related => exact ⟨_, rfl, related⟩

/-! ### Documents of any kind -/

def Document.norm : Document → Option Document
  | .matrixPlan document => (MatrixPlan.codec.norm document).map .matrixPlan
  | .intent document => (Intent.codec.norm document).map .intent
  | .grant document => (Grant.codec.norm document).map .grant
  | .receipt document => (Receipt.codec.norm document).map .receipt
  | .evidence document => (Evidence.codec.norm document).map .evidence
  | .decision document => (Decision.codec.norm document).map .decision

structure DocumentNormal (source reread : Document) : Prop where
  kind : reread.kind = source.kind
  cellId : reread.cellId = source.cellId
  matrixId : reread.matrixId = source.matrixId
  canon : reread.value.canon unicode = source.value.canon unicode

theorem Document.norm_some {source reread : Document} (computed : source.norm = some reread) :
    DocumentNormal source reread := by
  cases source <;>
    · simp only [Document.norm, Option.map_eq_some_iff] at computed
      obtain ⟨normal, normalEq, rfl⟩ := computed
      constructor
      · rfl
      · first
          | rfl
          | exact (Intent.norm_some normalEq).cellId
          | exact (Grant.norm_some normalEq).cellId
          | exact (Receipt.norm_some normalEq).cellId
          | exact (Evidence.norm_some normalEq).cellId
          | exact (Decision.norm_some normalEq).cellId
      · first
          | exact (MatrixPlan.norm_some normalEq).matrixId
          | exact (Intent.norm_some normalEq).matrixId
          | exact (Grant.norm_some normalEq).matrixId
          | exact (Receipt.norm_some normalEq).matrixId
          | exact (Evidence.norm_some normalEq).matrixId
          | exact (Decision.norm_some normalEq).matrixId
      · exact Codec.dump_norm _ _ _ normalEq

/-- What the verifier parses from the canonical form of a document. -/
theorem Document.parse_canon {source reread : Document} {normal : Value}
    (computed : source.norm = some reread) (encoded : source.value.canon unicode = some normal) :
    Document.parse source.kind normal = .ok reread := by
  unfold Document.parse
  rw [expect_eq_ok]
  cases source <;>
    · simp only [Document.norm] at computed
      simp only [Document.kind]
      rw [Codec.parse_canon _ encoded]
      simp only [Document.value, Evidence.value, Codec.parse_dump]
      exact computed

end EgoAgent.Rxp
