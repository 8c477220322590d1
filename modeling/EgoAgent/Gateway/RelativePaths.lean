import EgoAgent.Gateway.WorkspaceContract

/-!
Paths below a project directory.

A canonical source path is its root and a rest without empty, dot or parent segments.
Under a project identifier such a rest is a path the executor takes as it is.
-/

namespace EgoAgent.Gateway

open EgoAgent.Api EgoAgent.Bridge EgoAgent.Bridge.Authority

/-! ### Splitting and joining -/

theorem joined_cons_of_ne_nil {part : List Char} {rest : List (List Char)} (some : rest ≠ []) :
    joined (part :: rest) = part ++ '/' :: joined rest := by
  cases rest with
  | nil => exact absurd rfl some
  | cons second rest => rfl

theorem joined_segments (text : List Char) : joined (segments text) = text := by
  induction text with
  | nil => rfl
  | cons c rest ih =>
      by_cases slash : c = '/'
      · subst slash
        rw [segments_cons_slash, joined_cons_of_ne_nil (segments_ne_nil rest), ih]
        rfl
      · obtain ⟨head, tail, split⟩ := List.exists_cons_of_ne_nil (segments_ne_nil rest)
        rw [segments_cons slash split]
        rw [split] at ih
        cases tail with
        | nil =>
            change c :: head = c :: rest
            rw [← ih]
            rfl
        | cons second tail =>
            rw [joined_cons_of_ne_nil (List.cons_ne_nil _ _)] at ih ⊢
            rw [List.cons_append, ih]

/-- The segments of a path without empty, dot and parent segments. -/
structure PlainSegments (items : List (List Char)) : Prop where
  no_empty : [] ∉ items
  no_dot : ['.'] ∉ items
  no_parent : ['.', '.'] ∉ items

theorem PlainSegments.filter_eq {items : List (List Char)} (plain : PlainSegments items) :
    (items.filter fun segment => segment ≠ [] ∧ segment ≠ ['.']) = items := by
  apply List.filter_eq_self.mpr
  intro segment member
  apply decide_eq_true
  constructor
  · intro same
    exact plain.no_empty (same ▸ member)
  · intro same
    exact plain.no_dot (same ▸ member)

theorem parts_of_plain {text : List Char} (relative : isAbsolute text = false)
    (plain : PlainSegments (segments text)) : parts text = segments text := by
  unfold parts
  rw [pathRoot_of_relative relative, List.nil_append, plain.filter_eq]

theorem isGuestArtifactPath_iff {path : List Char} : isGuestArtifactPath path = true ↔
    path ≠ [] ∧ '\x00' ∉ path ∧ '\\' ∉ path ∧ hasWindowsRoot path = false ∧
      isAbsolute path = false ∧
      (parts path).all (fun part => part ∉ [[], ['.'], ['.', '.']]) = true ∧
      asPosix path = path := by
  unfold isGuestArtifactPath
  exact decide_eq_true_iff

/-- A canonical path with a second part is its first part and a plain rest. -/
theorem guest_path_split {path root : List Char} {rest : List (List Char)}
    (canonical : isGuestArtifactPath path = true) (split : parts path = root :: rest)
    (some : rest ≠ []) :
    path = root ++ '/' :: joined rest ∧ segments (joined rest) = rest ∧ PlainSegments rest ∧
      '\x00' ∉ joined rest ∧ '\\' ∉ joined rest := by
  obtain ⟨_, noNul, noBackslash, _, relative, ordinary, posix⟩ :=
    isGuestArtifactPath_iff.mp canonical
  have nonempty : parts path ≠ [] := by
    rw [split]
    exact List.cons_ne_nil _ _
  have ⟨noEmpty, noDot⟩ := segments_of_asPosix relative nonempty posix
  have noParent : ['.', '.'] ∉ segments path := by
    intro member
    have inParts := (mem_parts_of_relative relative).mpr ⟨member, by decide, by decide⟩
    exact of_decide_eq_true (List.all_eq_true.mp ordinary _ inParts) (by decide)
  have plain : PlainSegments (segments path) := ⟨noEmpty, noDot, noParent⟩
  rw [parts_of_plain relative plain] at split
  have whole : path = root ++ '/' :: joined rest := by
    rw [← joined_cons_of_ne_nil some, ← split, joined_segments]
  have noSlash : ∀ part ∈ rest, '/' ∉ part := by
    intro part member
    exact slash_not_mem_segments part (split ▸ List.mem_cons_of_mem root member)
  refine ⟨whole, segments_joined some noSlash, ⟨?_, ?_, ?_⟩, ?_, ?_⟩
  · exact fun member => noEmpty (split ▸ List.mem_cons_of_mem root member)
  · exact fun member => noDot (split ▸ List.mem_cons_of_mem root member)
  · exact fun member => noParent (split ▸ List.mem_cons_of_mem root member)
  · intro member
    apply noNul
    rw [whole]
    exact List.mem_append_right root (List.mem_cons_of_mem '/' member)
  · intro member
    apply noBackslash
    rw [whole]
    exact List.mem_append_right root (List.mem_cons_of_mem '/' member)

/-! ### Identifiers -/

theorem isProjectIdentifier_eq (text : String) :
    isProjectIdentifier text = isIdentifier text.toList := by
  unfold isProjectIdentifier isIdentifier
  cases text.toList <;> rfl

section

variable {chars : List Char}

/-- The parts of an identifier. -/
theorem identifier_split (identifier : isIdentifier chars = true) :
    ∃ first rest, chars = first :: rest ∧ isAsciiAlphanumeric first = true ∧ rest.length ≤ 127 ∧
      ∀ c ∈ rest, isAsciiAlphanumeric c = true ∨ c ∈ ['.', '_', '-'] := by
  cases chars with
  | nil => cases identifier
  | cons first rest =>
      unfold isIdentifier at identifier
      obtain ⟨front, all⟩ := (Bool.and_eq_true _ _).mp identifier
      obtain ⟨alphanumeric, short⟩ := (Bool.and_eq_true _ _).mp front
      refine ⟨first, rest, rfl, alphanumeric, of_decide_eq_true short, ?_⟩
      intro c member
      rcases (Bool.or_eq_true _ _).mp (List.all_eq_true.mp all c member) with plain | special
      · exact .inl plain
      · exact .inr (of_decide_eq_true special)

/-- A character no identifier has. -/
theorem not_mem_identifier {c : Char} (identifier : isIdentifier chars = true)
    (plain : isAsciiAlphanumeric c = false) (special : c ∉ ['.', '_', '-']) : c ∉ chars := by
  obtain ⟨first, rest, rfl, alphanumeric, _, others⟩ := identifier_split identifier
  intro member
  rcases List.mem_cons.mp member with rfl | later
  · rw [plain] at alphanumeric
    cases alphanumeric
  · rcases others c later with here | here
    · rw [plain] at here
      cases here
    · exact special here

theorem identifier_relative (identifier : isIdentifier chars = true)
    (rest : List Char) : isAbsolute (chars ++ rest) = false := by
  obtain ⟨first, others, rfl, alphanumeric, _, _⟩ := identifier_split identifier
  unfold isAbsolute
  rw [List.cons_append, List.isPrefixOf_cons_cons]
  apply Bool.and_eq_false_iff.mpr
  left
  apply Bool.eq_false_iff.mpr
  intro slash
  rw [← eq_of_beq slash] at alphanumeric
  exact absurd alphanumeric (by decide)

/-- An identifier is no empty, dot or parent segment. -/
theorem identifier_plain (identifier : isIdentifier chars = true) :
    chars ≠ [] ∧ chars ≠ ['.'] ∧ chars ≠ ['.', '.'] := by
  obtain ⟨first, rest, rfl, alphanumeric, _, _⟩ := identifier_split identifier
  have notDot : first ≠ '.' := by
    intro dot
    rw [dot] at alphanumeric
    exact absurd alphanumeric (by decide)
  exact ⟨List.cons_ne_nil _ _, fun same => notDot (List.cons.inj same).1,
    fun same => notDot (List.cons.inj same).1⟩

end

/-! ### Below a project -/

/-- A rest a path may have below its project. -/
structure PlainRest (rest : List Char) : Prop where
  plain : PlainSegments (segments rest)
  no_nul : '\x00' ∉ rest
  no_backslash : '\\' ∉ rest

section Project

variable {projectId : String} (identifier : isIdentifier projectId.toList = true)

include identifier

theorem segments_below (rest : List Char) :
    segments (projectId.toList ++ '/' :: rest) = projectId.toList :: segments rest :=
  segments_append_slash (not_mem_identifier identifier (by decide) (by decide)) rest

theorem no_drive_below (rest : List Char) :
    hasDrive (projectId.toList ++ '/' :: rest) = false := by
  have noColon : ':' ∉ projectId.toList := not_mem_identifier identifier (by decide) (by decide)
  obtain ⟨first, others, split, _, _, _⟩ := identifier_split identifier
  rw [split] at noColon ⊢
  cases others with
  | nil => rfl
  | cons second others =>
      have apart : second ≠ ':' := by
        intro same
        exact noColon (same ▸ List.mem_cons_of_mem first List.mem_cons_self)
      change hasDrive (first :: second :: _) = false
      unfold hasDrive
      split
      · next matched =>
          exact absurd (List.cons.inj (List.cons.inj matched).2).1 apart
      · rfl

/-- A path below a project is inside the workspace. -/
theorem inside_below {rest : List Char} (clean : PlainRest rest) :
    Inside (projectId.toList ++ '/' :: rest) := by
  have ⟨noEmpty, noDot, noParent⟩ := identifier_plain identifier
  refine ⟨identifier_relative identifier _, ?_, ?_, ?_, ?_, ?_, no_drive_below identifier rest⟩
  · rw [segments_below identifier]
    exact mt List.mem_cons.mp (not_or.mpr ⟨Ne.symm noEmpty, clean.plain.no_empty⟩)
  · rw [segments_below identifier]
    exact mt List.mem_cons.mp (not_or.mpr ⟨Ne.symm noDot, clean.plain.no_dot⟩)
  · rw [segments_below identifier]
    exact mt List.mem_cons.mp (not_or.mpr ⟨Ne.symm noParent, clean.plain.no_parent⟩)
  · rw [List.mem_append, List.mem_cons]
    rintro (before | slash | after)
    · exact not_mem_identifier identifier (by decide) (by decide) before
    · exact absurd slash (by decide)
    · exact clean.no_backslash after
  · rw [List.mem_append, List.mem_cons]
    rintro (before | slash | after)
    · exact not_mem_identifier identifier (by decide) (by decide) before
    · exact absurd slash (by decide)
    · exact clean.no_nul after

end Project

/-! ### The executor's reading -/

end EgoAgent.Gateway
