import Mathlib

/-!
POSIX path texts as the bridge reads them.

`segments` is the text split at its slashes.  `parts` is `PurePosixPath(text).parts`,
which drops empty and dot segments and keeps the root of an absolute path.
-/

namespace EgoAgent.Bridge

/-- `text.split("/")`. -/
def segments : List Char → List (List Char)
  | [] => [[]]
  | c :: rest =>
      if c = '/' then [] :: segments rest
      else match segments rest with
        | [] => [[c]]
        | head :: tail => (c :: head) :: tail

/-- `"/".join(parts)`. -/
def joined : List (List Char) → List Char
  | [] => []
  | [part] => part
  | part :: rest => part ++ '/' :: joined rest

def isAbsolute (text : List Char) : Bool := ['/'].isPrefixOf text

def pathRoot (text : List Char) : List (List Char) :=
  if ['/', '/'].isPrefixOf text = true ∧ ['/', '/', '/'].isPrefixOf text = false then [['/', '/']]
  else if isAbsolute text then [['/']]
  else []

def parts (text : List Char) : List (List Char) :=
  pathRoot text ++ (segments text).filter fun segment => segment ≠ [] ∧ segment ≠ ['.']

/-- `PurePosixPath(text).as_posix()`. -/
def asPosix (text : List Char) : List Char :=
  match parts text with
  | [] => ['.']
  | root :: rest =>
      if isAbsolute text then root ++ joined rest else joined (root :: rest)

/-- `_WINDOWS_DRIVE`. -/
def hasDrive : List Char → Bool
  | letter :: ':' :: _ => ('A' ≤ letter ∧ letter ≤ 'Z') ∨ ('a' ≤ letter ∧ letter ≤ 'z')
  | _ => false

/-- `"//" in text`. -/
def hasDoubleSlash : List Char → Bool
  | first :: second :: rest =>
      (first = '/' && second = '/') || hasDoubleSlash (second :: rest)
  | _ => false

/-! ### Segments -/

theorem segments_ne_nil (text : List Char) : segments text ≠ [] := by
  cases text with
  | nil => exact List.cons_ne_nil _ _
  | cons c rest =>
      unfold segments
      split
      · exact List.cons_ne_nil _ _
      · split <;> exact List.cons_ne_nil _ _

theorem segments_cons_slash (rest : List Char) : segments ('/' :: rest) = [] :: segments rest := by
  simp [segments]

theorem segments_cons {c : Char} {rest head : List Char} {tail : List (List Char)}
    (noSlash : c ≠ '/') (split : segments rest = head :: tail) :
    segments (c :: rest) = (c :: head) :: tail := by
  unfold segments
  rw [if_neg noSlash, split]

theorem segments_noSlash {part : List Char} (noSlash : '/' ∉ part) : segments part = [part] := by
  induction part with
  | nil => rfl
  | cons c rest ih =>
      have ⟨head, tail⟩ := not_or.mp (mt List.mem_cons.mpr noSlash)
      exact segments_cons (Ne.symm head) (ih tail)

theorem segments_append_slash {part : List Char} (noSlash : '/' ∉ part) (rest : List Char) :
    segments (part ++ '/' :: rest) = part :: segments rest := by
  induction part with
  | nil => exact segments_cons_slash rest
  | cons c part ih =>
      have ⟨head, tail⟩ := not_or.mp (mt List.mem_cons.mpr noSlash)
      exact segments_cons (Ne.symm head) (ih tail)

theorem segments_joined {items : List (List Char)} (some : items ≠ [])
    (noSlash : ∀ part ∈ items, '/' ∉ part) : segments (joined items) = items := by
  induction items with
  | nil => exact absurd rfl some
  | cons part rest ih =>
      have here := noSlash part List.mem_cons_self
      cases rest with
      | nil => exact segments_noSlash here
      | cons second rest =>
          have others := fun item member => noSlash item (List.mem_cons_of_mem part member)
          change segments (part ++ '/' :: joined (second :: rest)) = _
          rw [segments_append_slash here, ih (List.cons_ne_nil _ _) others]

section

variable {text : List Char}

theorem slash_not_mem_segments : ∀ segment ∈ segments text, '/' ∉ segment := by
  induction text with
  | nil =>
      intro segment member slash
      rw [List.mem_singleton.mp member] at slash
      cases slash
  | cons c rest ih =>
      by_cases slash : c = '/'
      · subst slash
        rw [segments_cons_slash]
        intro segment member
        rcases List.mem_cons.mp member with rfl | later
        · exact List.not_mem_nil
        · exact ih segment later
      · obtain ⟨head, tail, split⟩ := List.exists_cons_of_ne_nil (segments_ne_nil rest)
        rw [segments_cons slash split]
        rw [split] at ih
        intro segment member
        rcases List.mem_cons.mp member with rfl | later
        · exact mt List.mem_cons.mp (not_or.mpr ⟨Ne.symm slash, ih head List.mem_cons_self⟩)
        · exact ih segment (List.mem_cons_of_mem head later)

private theorem empty_not_mem_tail (single : hasDoubleSlash text = false)
    (closed : text.getLast? ≠ some '/') {head : List Char} {tail : List (List Char)}
    (split : segments text = head :: tail) : [] ∉ tail := by
  induction text generalizing head tail with
  | nil =>
      rw [← (List.cons.inj split).2]
      exact List.not_mem_nil
  | cons c rest ih =>
      obtain ⟨next, others, splitRest⟩ := List.exists_cons_of_ne_nil (segments_ne_nil rest)
      cases rest with
      | nil =>
          have last : c ≠ '/' := by
            intro slash
            rw [slash] at closed
            exact closed rfl
          rw [segments_noSlash (mt List.mem_singleton.mp (Ne.symm last))] at split
          rw [← (List.cons.inj split).2]
          exact List.not_mem_nil
      | cons d rest =>
          unfold hasDoubleSlash at single
          obtain ⟨apart, singleRest⟩ := (Bool.or_eq_false_iff).mp single
          rw [List.getLast?_cons_cons] at closed
          have later := ih singleRest closed splitRest
          by_cases slash : c = '/'
          · subst slash
            rw [segments_cons_slash, splitRest] at split
            rw [← (List.cons.inj split).2]
            intro member
            rcases List.mem_cons.mp member with first | inTail
            · -- The character after a slash starts a segment.
              have noSlash : d ≠ '/' := by
                intro same
                rw [same] at apart
                cases apart
              obtain ⟨start, remaining, splitTail⟩ :=
                List.exists_cons_of_ne_nil (segments_ne_nil rest)
              rw [segments_cons noSlash splitTail] at splitRest
              rw [← first] at splitRest
              cases splitRest
            · exact later inTail
          · rw [segments_cons slash splitRest] at split
            rw [← (List.cons.inj split).2]
            exact later

/-- An empty segment shows as a slash at an end or as two in a row. -/
theorem empty_segment_visible (nonempty : text ≠ [])
    (relative : isAbsolute text = false) (single : hasDoubleSlash text = false)
    (closed : text.getLast? ≠ some '/') : [] ∉ segments text := by
  obtain ⟨head, tail, split⟩ := List.exists_cons_of_ne_nil (segments_ne_nil text)
  have later := empty_not_mem_tail single closed split
  rw [split]
  intro member
  rcases List.mem_cons.mp member with first | inTail
  · cases text with
    | nil => exact nonempty rfl
    | cons c rest =>
        have noSlash : c ≠ '/' := by
          intro slash
          rw [slash] at relative
          cases relative
        obtain ⟨next, others, splitRest⟩ := List.exists_cons_of_ne_nil (segments_ne_nil rest)
        rw [segments_cons noSlash splitRest, ← first] at split
        cases split
  · exact later inTail

theorem pathRoot_of_relative (relative : isAbsolute text = false) :
    pathRoot text = [] := by
  unfold pathRoot
  rw [if_neg, if_neg]
  · rw [relative]
    decide
  · intro ⟨double, _⟩
    cases text with
    | nil => cases double
    | cons c rest =>
        rw [List.isPrefixOf_cons_cons, Bool.and_eq_true] at double
        rw [isAbsolute, List.isPrefixOf_cons_cons, double.1] at relative
        cases relative

theorem mem_parts_of_relative {text part : List Char} (relative : isAbsolute text = false) :
    part ∈ parts text ↔ part ∈ segments text ∧ part ≠ [] ∧ part ≠ ['.'] := by
  unfold parts
  rw [pathRoot_of_relative relative, List.nil_append, List.mem_filter, decide_eq_true_iff]

/-- A relative path that is spelled as its parts has no empty and no dot segment. -/
theorem segments_of_asPosix (relative : isAbsolute text = false)
    (some : parts text ≠ []) (canonical : asPosix text = text) :
    [] ∉ segments text ∧ ['.'] ∉ segments text := by
  have rootless := pathRoot_of_relative relative
  have kept : parts text = (segments text).filter fun segment => segment ≠ [] ∧ segment ≠ ['.'] := by
    unfold parts
    rw [rootless, List.nil_append]
  have spelled : joined (parts text) = text := by
    unfold asPosix at canonical
    split at canonical
    · next none => exact absurd none some
    · next root rest split =>
        rw [split]
        rw [if_neg (by rw [relative]; decide)] at canonical
        exact canonical
  have same : segments text = parts text := by
    rw [← spelled]
    rw [segments_joined some]
    · rw [spelled]
    · intro part member
      rw [kept] at member
      exact slash_not_mem_segments part (List.mem_filter.mp member).1
  rw [same, kept]
  constructor
  · intro member
    exact (of_decide_eq_true (List.mem_filter.mp member).2).1 rfl
  · intro member
    exact (of_decide_eq_true (List.mem_filter.mp member).2).2 rfl

end

end EgoAgent.Bridge
