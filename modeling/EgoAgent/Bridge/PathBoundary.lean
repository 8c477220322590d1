import EgoAgent.Bridge.Safety

/-!
The workspace boundary of permitted effects.

The rules hold the target to the boundary.  Of the arguments they look at the texts
that stand directly under a path key, through a path type that drops dot segments,
and they do not compare them with the protected roots.
-/

namespace EgoAgent.Bridge

open EgoAgent.Api EgoAgent.SecureMemory

/-! ### Stored paths -/

section Stored

variable {φ : Type} (unicode : UnicodeText)

mutual

/-- The texts in a list and in the lists in it. -/
def listedStrings : Json φ → List String
  | .list items => listedItems items
  | _ => []

def listedItems : List (Json φ) → List String
  | [] => []
  | item :: rest =>
      (match item with
        | .str text => [text]
        | _ => listedStrings item) ++ listedItems rest

end

/-- The texts that stand in lists under a path key. -/
def listedPaths (arguments : List (String × Json φ)) : List String :=
  (walkMembers arguments).flatMap fun entry =>
    if unicode.lower entry.1.toList ∈ words pathArgumentKeys then listedStrings entry.2 else []

/-- The texts under a path key, alone or in lists, at any depth. -/
def pathStrings (arguments : List (String × Json φ)) : List String :=
  (walkMembers arguments).flatMap fun entry =>
    if unicode.lower entry.1.toList ∈ words pathArgumentKeys then
      match entry.2 with
      | .str text => [text]
      | value => listedStrings value
    else []

theorem mem_pathStrings {arguments : List (String × Json φ)} {text : String} :
    text ∈ pathStrings unicode arguments ↔
      text ∈ pathCandidates unicode arguments ∨ text ∈ listedPaths unicode arguments := by
  unfold pathStrings pathCandidates listedPaths
  rw [List.mem_flatMap, List.mem_filterMap, List.mem_flatMap]
  constructor
  · rintro ⟨⟨key, value⟩, member, stored⟩
    by_cases named : unicode.lower key.toList ∈ words pathArgumentKeys
    · rw [if_pos named] at stored
      cases value with
      | str found =>
          left
          refine ⟨⟨key, .str found⟩, member, ?_⟩
          rw [if_pos named, List.mem_singleton.mp stored]
      | list items => exact .inr ⟨⟨key, .list items⟩, member, by rw [if_pos named]; exact stored⟩
      | _ => cases stored
    · rw [if_neg named] at stored
      cases stored
  · rintro (⟨⟨key, value⟩, member, scalar⟩ | ⟨⟨key, value⟩, member, listed⟩)
    · by_cases named : unicode.lower key.toList ∈ words pathArgumentKeys
      · rw [if_pos named] at scalar
        cases value with
        | str found =>
            refine ⟨⟨key, .str found⟩, member, ?_⟩
            rw [if_pos named]
            cases scalar
            exact List.mem_singleton_self _
        | _ => cases scalar
      · rw [if_neg named] at scalar
        cases scalar
    · by_cases named : unicode.lower key.toList ∈ words pathArgumentKeys
      · rw [if_pos named] at listed
        cases value with
        | list items =>
            exact ⟨⟨key, .list items⟩, member, by rw [if_pos named]; exact listed⟩
        | _ => cases listed
      · rw [if_neg named] at listed
        cases listed

end Stored

/-! ### Inside the workspace -/

/-- Relative, without empty, dot or parent segments and without foreign spellings. -/
structure Inside (path : List Char) : Prop where
  relative : isAbsolute path = false
  no_empty : [] ∉ segments path
  no_dot : ['.'] ∉ segments path
  no_parent : ['.', '.'] ∉ segments path
  no_backslash : '\\' ∉ path
  no_nul : '\x00' ∉ path
  no_drive : hasDrive path = false

/-- What the path rule lets through is inside the workspace up to dot segments. -/
theorem inside_of_not_escape {path : List Char} (passes : isPathEscape path = false)
    (noDot : ['.'] ∉ segments path) : Inside path := by
  unfold isPathEscape at passes
  split at passes
  · cases passes
  · next plain =>
      split at passes
      · cases passes
      · next ordinary =>
          obtain ⟨nonempty, plain⟩ := not_or.mp plain
          obtain ⟨noNul, plain⟩ := not_or.mp plain
          obtain ⟨noBackslash, noDrive⟩ := not_or.mp plain
          obtain ⟨notAbsolute, noSpecial⟩ := not_or.mp ordinary
          obtain ⟨single, closed⟩ := Bool.or_eq_false_iff.mp passes
          have relative := Bool.eq_false_iff.mpr notAbsolute
          have noEmpty := empty_segment_visible nonempty relative single
            (of_decide_eq_false closed)
          refine ⟨relative, noEmpty, noDot, ?_, noBackslash, noNul, Bool.eq_false_iff.mpr noDrive⟩
          intro parent
          apply noSpecial
          refine ⟨['.', '.'], ?_, by decide⟩
          exact (mem_parts_of_relative relative).mpr ⟨parent, by decide, by decide⟩

theorem inside_of_canonical {path : List Char} (canonical : isCanonicalWorkspaceTarget path = true) :
    Inside path ∧ "workspace/".toList.isPrefixOf path = true := by
  unfold isCanonicalWorkspaceTarget at canonical
  split at canonical
  · cases canonical
  · next allowed =>
      obtain ⟨rooted, passes⟩ := not_or.mp allowed
      obtain ⟨long, spelled⟩ := of_decide_eq_true canonical
      have passes := Bool.eq_false_iff.mpr passes
      have relative : isAbsolute path = false := by
        unfold isPathEscape at passes
        split at passes
        · cases passes
        · split at passes
          · cases passes
          · next ordinary => exact Bool.eq_false_iff.mpr (not_or.mp ordinary).1
      have someParts : parts path ≠ [] := by
        intro none
        rw [none] at long
        cases long
      have noDot := (segments_of_asPosix relative someParts spelled).2
      exact ⟨inside_of_not_escape passes noDot, (Bool.not_eq_false _).mp rooted⟩

/-! ### Permitted effects -/

section Permitted

variable {φ : Type} [FloatEquality φ] (unicode : UnicodeText) (sha256 : Bytes → Digest)

/-- The boundary: nothing an effect names leaves the workspace or touches evidence. -/
structure WithinBoundary (effect : CanonicalEffect φ) : Prop where
  target_inside : Inside effect.target.toList
  target_rooted : "workspace/".toList.isPrefixOf effect.target.toList = true
  target_open : isProtected unicode effect.target.toList = false
  paths : ∀ path ∈ pathStrings unicode effect.finalArguments,
    Inside path.toList ∧ isProtected unicode path.toList = false

/-- What the rules do not look at: lists under a path key, dot segments and the
protected roots in the arguments. -/
structure UncheckedClean (effect : CanonicalEffect φ) : Prop where
  listed : ∀ path ∈ listedPaths unicode effect.finalArguments, Inside path.toList
  undotted : ∀ path ∈ pathCandidates unicode effect.finalArguments, ['.'] ∉ segments path.toList
  unprotected : ∀ path ∈ pathStrings unicode effect.finalArguments,
    isProtected unicode path.toList = false

theorem mem_words {items : List String} {item : String} :
    item.toList ∈ words items ↔ item ∈ items := by
  unfold words
  rw [List.mem_map]
  constructor
  · intro ⟨other, member, same⟩
    rwa [← String.toList_inj.mp same]
  · intro member
    exact ⟨item, member, rfl⟩

theorem lower_knownOperation {operation : String} (known : operation ∈ knownOperations) :
    unicode.lower operation.toList = operation.toList := by
  have ascii : (knownOperations.all fun item => item.toList.all (fun c => c.toNat < 128) &&
      item.toList.map Char.toLower == item.toList) = true := by
    decide +kernel
  have ⟨plain, small⟩ := (Bool.and_eq_true _ _).mp (List.all_eq_true.mp ascii operation known)
  rw [unicode.lower_ascii _ (fun c member => of_decide_eq_true (List.all_eq_true.mp plain c member)),
    eq_of_beq small]

variable {effect : CanonicalEffect φ}

/-- No rule applies to a permitted effect. -/
theorem unmatched_of_permitted {sequence expires : Nat}
    {mode : EnforcementMode} {decision : SafetyDecision φ}
    (evaluated : evaluateEffectSafety unicode sha256 effect sequence expires mode = .ok decision)
    (permitted : decision.verdict ≠ .deny) :
    effect.operation ∈ knownOperations ∧ mandatoryRuleMatches unicode effect = [] := by
  rw [verdict_of_evaluated unicode sha256 evaluated] at permitted
  have ⟨known, noMatch⟩ := not_or.mp
    (mt (systemRecord_deny_iff unicode sha256 effect sequence).mpr permitted)
  exact ⟨not_not.mp known, not_not.mp noMatch⟩

theorem passes_of_unmatched (noMatch : mandatoryRuleMatches unicode effect = []) :
    hasPathEscape unicode effect = false ∧ isEvidenceTampering unicode effect = false := by
  have all := List.filter_eq_nil_iff.mp noMatch
  constructor
  · exact Bool.eq_false_iff.mpr (all .pathEscape (by decide))
  · exact Bool.eq_false_iff.mpr (all .evidenceTampering (by decide))

theorem hasPathEscape_eq_false (passes : hasPathEscape unicode effect = false) :
    isCanonicalWorkspaceTarget effect.target.toList = true ∧
      ∀ path ∈ pathCandidates unicode effect.finalArguments,
        isPathEscape path.toList = false := by
  unfold hasPathEscape at passes
  split at passes
  · cases passes
  · next canonical =>
      refine ⟨(Bool.not_eq_false _).mp canonical, ?_⟩
      intro path member
      exact Bool.eq_false_iff.mpr (List.any_eq_false.mp passes path member)

/-- A permitted effect that is not read-only keeps to the boundary exactly when what the
rules do not look at does. -/
theorem permitted_within_boundary_iff {effect : CanonicalEffect φ} {sequence expires : Nat}
    {mode : EnforcementMode} {decision : SafetyDecision φ}
    (evaluated : evaluateEffectSafety unicode sha256 effect sequence expires mode = .ok decision)
    (permitted : decision.verdict ≠ .deny) (mutating : effect.operation ∉ lowOperations) :
    WithinBoundary unicode effect ↔ UncheckedClean unicode effect := by
  have ⟨known, noMatch⟩ := unmatched_of_permitted unicode sha256 evaluated permitted
  have ⟨noEscape, noTampering⟩ := passes_of_unmatched unicode noMatch
  have ⟨canonical, scalars⟩ := hasPathEscape_eq_false unicode noEscape
  constructor
  · intro within
    refine ⟨?_, ?_, fun path member => (within.paths path member).2⟩
    · intro path member
      exact (within.paths path ((mem_pathStrings unicode).mpr (.inr member))).1
    · intro path member
      exact (within.paths path ((mem_pathStrings unicode).mpr (.inl member))).1.no_dot
  · intro clean
    have ⟨inside, rooted⟩ := inside_of_canonical canonical
    have unprotected : isProtected unicode effect.target.toList = false := by
      have mutates : unicode.lower effect.operation.toList ∉ words lowOperations := by
        rw [lower_knownOperation unicode known, mem_words]
        exact mutating
      unfold isEvidenceTampering at noTampering
      rw [decide_eq_true mutates, Bool.true_and] at noTampering
      exact noTampering
    refine ⟨inside, rooted, unprotected, ?_⟩
    intro path member
    refine ⟨?_, clean.unprotected path member⟩
    rcases (mem_pathStrings unicode).mp member with scalar | listed
    · exact inside_of_not_escape (scalars path scalar) (clean.undotted path scalar)
    · exact clean.listed path listed

end Permitted

/-! ### Escapes in lists -/

namespace Sample

def copyOf (source : Json Empty) (finite : source.finite = true) : CanonicalEffect Empty :=
  effectOf "workspace.copy" "REMOVE_CREATED_PATH" [("source_path", source)] (by decide)
    (by rw [Json.finite, finiteMembers, finite]; rfl)

theorem copyOf_permitted {source : Json Empty} {finite : source.finite = true}
    (noMatch : mandatoryRuleMatches asciiText (copyOf source finite) = []) :
    ∃ decision, evaluateEffectSafety asciiText byteTotal (copyOf source finite) 0 1 .enforcing =
      .ok decision ∧ decision.verdict ≠ .deny := by
  have known : (copyOf source finite).operation ∈ knownOperations := by
    change "workspace.copy" ∈ knownOperations
    decide
  have planned : (systemRecord asciiText byteTotal (copyOf source finite) 0).disposition =
      .approvalRequired → (copyOf source finite).recoveryPlan ≠ "" := by
    intro _
    change "REMOVE_CREATED_PATH" ≠ ""
    decide
  have evaluated := evaluateEffectSafety_eq_ok asciiText byteTotal Nat.zero_lt_one planned
    .enforcing
  refine ⟨_, evaluated, ?_⟩
  rw [verdict_of_evaluated asciiText byteTotal evaluated, ne_eq, systemRecord_deny_iff]
  exact not_or.mpr ⟨not_not.mpr known, not_not.mpr noMatch⟩

theorem permitted_within_boundary_iff_sample :
    ∃ decision, evaluateEffectSafety asciiText byteTotal (copyOf (.str "notes") rfl) 0 1
        .enforcing = .ok decision ∧
      (WithinBoundary asciiText (copyOf (.str "notes") rfl) ↔
        UncheckedClean asciiText (copyOf (.str "notes") rfl)) := by
  have noMatch : mandatoryRuleMatches asciiText (copyOf (.str "notes") rfl) = [] := by
    decide +kernel
  obtain ⟨decision, evaluated, permitted⟩ := copyOf_permitted noMatch
  exact ⟨decision, evaluated,
    permitted_within_boundary_iff asciiText byteTotal evaluated permitted (by decide)⟩

/-- Permitted, not read-only and outside the boundary. -/
def Escapes (effect : CanonicalEffect Empty) : Prop :=
  effect.operation ∉ lowOperations ∧
    (∃ decision, evaluateEffectSafety asciiText byteTotal effect 0 1 .enforcing = .ok decision ∧
      decision.verdict ≠ .deny) ∧ ¬ WithinBoundary asciiText effect

/-- A parent path in a list, a dot segment and a path in the evidence. -/
theorem escaping_copies_permitted :
    Escapes (copyOf (.list [.str "../../etc/passwd"]) rfl) ∧
      Escapes (copyOf (.str "notes/./draft") rfl) ∧
      Escapes (copyOf (.str "workspace/evidence/log") rfl) := by
  refine ⟨?_, ?_, ?_⟩
  · refine ⟨by decide, copyOf_permitted (by decide +kernel), ?_⟩
    intro within
    exact (within.paths "../../etc/passwd" (by decide +kernel)).1.no_parent (by decide +kernel)
  · refine ⟨by decide, copyOf_permitted (by decide +kernel), ?_⟩
    intro within
    exact (within.paths "notes/./draft" (by decide +kernel)).1.no_dot (by decide +kernel)
  · refine ⟨by decide, copyOf_permitted (by decide +kernel), ?_⟩
    intro within
    have hidden := (within.paths "workspace/evidence/log" (by decide +kernel)).2
    rw [show isProtected asciiText "workspace/evidence/log".toList = true by decide +kernel]
      at hidden
    cases hidden

end Sample

end EgoAgent.Bridge
