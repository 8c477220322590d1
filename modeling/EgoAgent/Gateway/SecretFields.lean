import EgoAgent.Gateway.RedactedText

/-!
Redaction and the secret fields of a document.

Assigned strings stand in the fields whose key is a secret name.  The redacted text of the document
does not depend on them, and it is the text itself only if each of them is the marker already,
provided that none of them has a double quote and that no private-key block leaves its string.
-/

namespace EgoAgent.Gateway

open EgoAgent.Api EgoAgent.Bridge

variable {φ : Type}

/-! ### Assignments -/

inductive Step where
  | key (name : String)
  | index (position : Nat)
  deriving DecidableEq

section Assign

variable (chosen : List Step → Bool) (values : List Step → String)

mutual

/-- A document with the values of an assignment in the chosen fields; `secret` tells whether the
document is the value of a secret key. -/
def assign (secret : Bool) (path : List Step) : Json φ → Json φ
  | .str text => .str (if secret && chosen path then values path else text)
  | .list items => .list (assignItems path 0 items)
  | .dict members => .dict (assignMembers path members)
  | value => value

def assignItems (path : List Step) (position : Nat) : List (Json φ) → List (Json φ)
  | [] => []
  | item :: rest =>
      assign false (path ++ [.index position]) item :: assignItems path (position + 1) rest

def assignMembers (path : List Step) : List (String × Json φ) → List (String × Json φ)
  | [] => []
  | (key, value) :: rest =>
      (key, assign (isSecretName key.toList) (path ++ [.key key]) value) ::
        assignMembers path rest

end

end Assign

mutual

/-- The paths of the string values of secret keys. -/
def secretFields (secret : Bool) (path : List Step) : Json φ → List (List Step)
  | .str _ => if secret then [path] else []
  | .list items => secretItems path 0 items
  | .dict members => secretMembers path members
  | _ => []

def secretItems (path : List Step) (position : Nat) : List (Json φ) → List (List Step)
  | [] => []
  | item :: rest =>
      secretFields false (path ++ [.index position]) item ++ secretItems path (position + 1) rest

def secretMembers (path : List Step) : List (String × Json φ) → List (List Step)
  | [] => []
  | (key, value) :: rest =>
      secretFields (isSecretName key.toList) (path ++ [.key key]) value ++ secretMembers path rest

end

/-! ### Sorted members -/

variable (chosen : List Step → Bool) (values : List Step → String)

def assignMember (path : List Step) (member : String × Json φ) : String × Json φ :=
  (member.1, assign chosen values (isSecretName member.1.toList) (path ++ [.key member.1]) member.2)

theorem assignMembers_eq_map (path : List Step) (members : List (String × Json φ)) :
    assignMembers chosen values path members = members.map (assignMember chosen values path) := by
  induction members with
  | nil => rfl
  | cons member rest ih =>
      obtain ⟨key, value⟩ := member
      rw [assignMembers, ih]
      rfl

theorem sortMembers_assigned (path : List Step) (members : List (String × Json φ)) :
    sortMembers (assignMembers chosen values path members) =
      assignMembers chosen values path (sortMembers members) := by
  rw [assignMembers_eq_map, assignMembers_eq_map]
  exact (List.map_insertionSort keyLe keyLe (assignMember chosen values path) members
    fun _ _ _ _ => Iff.rfl).symm

mutual

/-- Sorting does not see the values. -/
theorem sorted_assign (secret : Bool) (path : List Step) :
    ∀ document : Json φ, (assign chosen values secret path document).sorted =
      assign chosen values secret path document.sorted
  | .null | .bool _ | .int _ | .float _ | .str _ => rfl
  | .list items => congrArg Json.list (sorted_assignItems path 0 items)
  | .dict members => by
      rw [assign, Json.sorted, Json.sorted, assign, sorted_assignMembers path members,
        sortMembers_assigned]

theorem sorted_assignItems (path : List Step) (position : Nat) :
    ∀ items : List (Json φ), sortedItems (assignItems chosen values path position items) =
      assignItems chosen values path position (sortedItems items)
  | [] => rfl
  | item :: rest => by
      rw [assignItems, sortedItems, sortedItems, assignItems, sorted_assign false _ item,
        sorted_assignItems path (position + 1) rest]

theorem sorted_assignMembers (path : List Step) :
    ∀ members : List (String × Json φ),
      sortedMembers (assignMembers chosen values path members) =
        assignMembers chosen values path (sortedMembers members)
  | [] => rfl
  | (key, value) :: rest => by
      rw [assignMembers, sortedMembers, sortedMembers, assignMembers,
        sorted_assign (isSecretName key.toList) _ value, sorted_assignMembers path rest]

end

theorem mem_secretMembers {path field : List Step} {members : List (String × Json φ)} :
    field ∈ secretMembers path members ↔ ∃ member ∈ members,
      field ∈ secretFields (isSecretName member.1.toList) (path ++ [.key member.1]) member.2 := by
  induction members with
  | nil => exact ⟨fun member => (nomatch member), fun ⟨_, member, _⟩ => (nomatch member)⟩
  | cons member rest ih =>
      obtain ⟨key, value⟩ := member
      rw [secretMembers, List.mem_append, ih, List.exists_mem_cons_iff]

mutual

theorem mem_secretFields_sorted (secret : Bool) (path field : List Step) :
    ∀ document : Json φ, field ∈ secretFields secret path document.sorted ↔
      field ∈ secretFields secret path document
  | .null | .bool _ | .int _ | .float _ | .str _ => Iff.rfl
  | .list items => mem_secretItems_sorted path 0 field items
  | .dict members => by
      have before := mem_secretMembers_sorted path field members
      rw [mem_secretMembers] at before
      rw [Json.sorted, secretFields, secretFields, mem_secretMembers, ← before]
      simp only [(sortMembers_perm _).mem_iff]

theorem mem_secretItems_sorted (path : List Step) (position : Nat) (field : List Step) :
    ∀ items : List (Json φ), field ∈ secretItems path position (sortedItems items) ↔
      field ∈ secretItems path position items
  | [] => Iff.rfl
  | item :: rest => by
      rw [sortedItems, secretItems, secretItems, List.mem_append, List.mem_append,
        mem_secretFields_sorted false _ field item,
        mem_secretItems_sorted path (position + 1) field rest]

theorem mem_secretMembers_sorted (path field : List Step) :
    ∀ members : List (String × Json φ), field ∈ secretMembers path (sortedMembers members) ↔
      field ∈ secretMembers path members
  | [] => Iff.rfl
  | (key, value) :: rest => by
      rw [sortedMembers, secretMembers, secretMembers, List.mem_append, List.mem_append,
        mem_secretFields_sorted (isSecretName key.toList) _ field value,
        mem_secretMembers_sorted path field rest]

end

/-! ### Escaped strings -/

def escapedText (text : String) : List Char := text.toList.flatMap escapeChar

theorem quoted_eq (text : String) : quoted text = inQuotes (escapedText text) := rfl

theorem escapedText_injective {first second : String}
    (same : escapedText first = escapedText second) : first = second := by
  have read := readString_quoted first []
  rw [show first.toList.flatMap escapeChar = escapedText first from rfl, same, escapedText,
    readString_quoted] at read
  exact (String.toList_inj.mp (Prod.mk.inj (Option.some.inj read)).1).symm

private theorem hexDigit_plain : ∀ value, value < 16 →
    hexDigit value ≠ '"' ∧ hexDigit value ≠ '\\' ∧ hexDigit value ≠ '\n' := by
  decide

theorem escapeChar_content (c : Char) : Content (escapeChar c) := by
  unfold escapeChar
  split
  · exact .escape (by decide) .nil
  split
  · exact .escape (by decide) .nil
  split
  · exact .escape (by decide) .nil
  split
  · exact .escape (by decide) .nil
  split
  · exact .escape (by decide) .nil
  split
  · exact .escape (by decide) .nil
  split
  · exact .escape (by decide) .nil
  split
  · have high := hexDigit_plain (c.toNat / 16) (by omega)
    have low := hexDigit_plain (c.toNat % 16) (by omega)
    exact .escape (by decide) (.plain ⟨by decide, by decide, by decide⟩
      (.plain ⟨by decide, by decide, by decide⟩ (.plain ⟨high.1, high.2.1, high.2.2⟩
        (.plain ⟨low.1, low.2.1, low.2.2⟩ .nil))))
  · rename_i quote backslash newline _ _ _ _ _
    exact .plain ⟨quote, backslash, newline⟩ .nil

theorem escapeChar_unquoted {c : Char} (other : c ≠ '"') : '"' ∉ escapeChar c := by
  unfold escapeChar
  rw [if_neg other]
  split
  · decide
  split
  · decide
  split
  · decide
  split
  · decide
  split
  · decide
  split
  · decide
  split
  · have high := hexDigit_plain (c.toNat / 16) (by omega)
    have low := hexDigit_plain (c.toNat % 16) (by omega)
    simp [high.1.symm, low.1.symm]
  · simp [other.symm]

theorem escapedText_content (text : String) : Content (escapedText text) := by
  unfold escapedText
  induction text.toList with
  | nil => exact .nil
  | cons c rest ih => exact (escapeChar_content c).append ih

theorem escapedText_unquoted {text : String} (unquoted : '"' ∉ text.toList) :
    '"' ∉ escapedText text := by
  intro member
  obtain ⟨c, inText, escaped⟩ := List.mem_flatMap.mp member
  exact escapeChar_unquoted (fun same => unquoted (same ▸ inText)) escaped

theorem escapeChar_name {c : Char} (isName : isNameChar c = true) : escapeChar c = [c] := by
  have plain := nameChar_plain isName
  have control : ∀ n, n < 32 → isNameChar (Char.ofNat n) = false := by decide
  have printable : ¬ c.toNat < 32 := fun low => by
    have none := control c.toNat low
    rw [Char.ofNat_toNat, isName] at none
    exact nomatch none
  unfold escapeChar
  rw [if_neg plain.quote, if_neg plain.backslash, if_neg plain.newline, if_neg, if_neg, if_neg,
    if_neg, if_neg printable]
  all_goals
    rintro rfl
    exact absurd isName (by decide)

theorem escapedText_name {name : String} (secret : isSecretName name.toList = true) :
    escapedText name = name.toList := by
  have chars := secretName_chars ((isSecretName_iff none).mp secret)
  unfold escapedText
  revert chars
  generalize name.toList = letters
  intro chars
  induction letters with
  | nil => rfl
  | cons c rest ih =>
      have ⟨head, tail⟩ := List.forall_mem_cons.mp chars
      rw [List.flatMap_cons, escapeChar_name head, ih tail]
      rfl

/-! ### Slots -/

/-- A piece of the text of a document, or a secret field with its assigned value. -/
inductive Slot where
  | fixed (piece : Piece)
  | secret (name : List Char) (field : List Step) (stop : Char)

def Slot.fill (values : List Step → String) : Slot → Piece
  | .fixed piece => piece
  | .secret name field stop => .member name (escapedText (values field)) stop

def Slot.Proper : Slot → Prop
  | .fixed piece => piece.Proper
  | .secret name _ stop => isSecretName name = true ∧ IsStop stop

def filled (values : List Step → String) (slots : List Slot) : List Piece :=
  slots.map (Slot.fill values)

theorem Slot.Proper.filled {slots : List Slot} (proper : ∀ slot ∈ slots, slot.Proper)
    (values : List Step → String) : ∀ piece ∈ filled values slots, piece.Proper := by
  intro piece member
  obtain ⟨slot, listed, rfl⟩ := List.mem_map.mp member
  have isProper := proper slot listed
  cases slot with
  | fixed piece => exact isProper
  | secret name field stop =>
      exact ⟨secret_content isProper.1, escapedText_content _, isProper.2⟩

/-- Whether the first string of the slots is followed by another character than `stop`. -/
def Apart (stop : Char) : List Slot → Prop
  | [] => True
  | .fixed (.gap _) :: rest => Apart stop rest
  | .fixed (.item _ other) :: _ => other ≠ stop
  | .fixed (.key _ _) :: _ | .fixed (.member _ _ _) :: _ | .secret _ _ _ :: _ => True

/-- Whether this holds behind every secret field. -/
def Separated : List Slot → Prop
  | [] => True
  | .fixed _ :: rest => Separated rest
  | .secret _ _ stop :: rest => Apart stop rest ∧ Separated rest

structure Sound (slots : List Slot) : Prop where
  proper : ∀ slot ∈ slots, slot.Proper
  separated : Separated slots

theorem sound_nil : Sound [] := ⟨fun _ member => (nomatch member), trivial⟩

theorem sound_fixed {piece : Piece} {slots : List Slot} :
    Sound (.fixed piece :: slots) ↔ piece.Proper ∧ Sound slots := by
  constructor
  · intro sound
    have ⟨head, tail⟩ := List.forall_mem_cons.mp sound.proper
    exact ⟨head, tail, sound.separated⟩
  · rintro ⟨head, sound⟩
    exact ⟨List.forall_mem_cons.mpr ⟨head, sound.proper⟩, sound.separated⟩

/-- No string before a closing brace is followed by another one at once. -/
theorem apart_brace {slots : List Slot} (proper : ∀ slot ∈ slots, slot.Proper) :
    Apart '}' slots := by
  induction slots with
  | nil => trivial
  | cons slot rest ih =>
      have ⟨head, tail⟩ := List.forall_mem_cons.mp proper
      cases slot with
      | secret name field stop => trivial
      | fixed piece =>
          cases piece with
          | gap c => exact ih tail
          | item content stop => exact head.2.2
          | key content start => trivial
          | member name value stop => trivial

/-- The slots of a text that goes on with `rest`: what is rendered from them for every assignment,
and where its secret fields are. -/
structure Framed (chosen : List Step → Bool) (fields : List (List Step))
    (text : (List Step → String) → List Char) (rest slots : List Slot) : Prop where
  sound : Sound slots
  text : ∀ values, text values ++ render (filled values rest) = render (filled values slots)
  covers : ∀ field ∈ fields, chosen field = true → ∃ name stop, .secret name field stop ∈ slots
  later : ∀ name field stop, .secret name field stop ∈ rest → .secret name field stop ∈ slots
  only : ∀ name field stop, .secret name field stop ∈ slots →
    (field ∈ fields ∧ chosen field = true) ∨ .secret name field stop ∈ rest

variable {chosen}

theorem render_gap (values : List Step → String) (c : Char) (slots : List Slot) :
    render (filled values (.fixed (.gap c) :: slots)) = c :: render (filled values slots) := rfl

theorem secret_mem_fixed {piece : Piece} {slots : List Slot} {name : List Char}
    {field : List Step} {stop : Char} :
    Slot.secret name field stop ∈ Slot.fixed piece :: slots ↔
      Slot.secret name field stop ∈ slots := by
  rw [List.mem_cons, or_iff_right]
  exact fun same => nomatch same

theorem framed_rest {rest : List Slot} (sound : Sound rest) :
    Framed chosen [] (fun _ => []) rest rest :=
  ⟨sound, fun _ => rfl, fun _ member => (nomatch member), fun _ _ _ member => member,
    fun _ _ _ member => .inr member⟩

namespace Framed

variable {fields others : List (List Step)} {text first : (List Step → String) → List Char}
  {rest slots slots' : List Slot}

theorem congr {text' : (List Step → String) → List Char}
    (framed : Framed chosen fields text rest slots)
    (same : ∀ values, text' values = text values) : Framed chosen fields text' rest slots :=
  ⟨framed.sound, fun values => same values ▸ framed.text values, framed.covers, framed.later,
    framed.only⟩

/-- The first slot is fixed and makes the first characters of the text. -/
theorem fixed {piece : Piece} {text' : (List Step → String) → List Char}
    (framed : Framed chosen fields text rest (.fixed piece :: slots)) (other : Piece)
    (proper : other.Proper)
    (same : ∀ values, text' values ++ render (filled values rest) =
      other.text ++ render (filled values slots)) :
    Framed chosen fields text' rest (.fixed other :: slots) := by
  refine ⟨sound_fixed.mpr ⟨proper, (sound_fixed.mp framed.sound).2⟩, same,
    fun field member picked => ?_, fun name field stop member => ?_,
    fun name field stop member => ?_⟩
  · obtain ⟨name, stop, listed⟩ := framed.covers field member picked
    exact ⟨name, stop, secret_mem_fixed.mpr (secret_mem_fixed.mp listed)⟩
  · exact secret_mem_fixed.mpr (secret_mem_fixed.mp (framed.later name field stop member))
  · exact framed.only name field stop (secret_mem_fixed.mpr (secret_mem_fixed.mp member))

theorem gap {c : Char} (framed : Framed chosen fields text rest slots) (isGap : IsGap c) :
    Framed chosen fields (fun values => c :: text values) rest (.fixed (.gap c) :: slots) := by
  refine ⟨sound_fixed.mpr ⟨isGap, framed.sound⟩, fun values => ?_,
    fun field member picked => ?_, fun name field stop member =>
      secret_mem_fixed.mpr (framed.later name field stop member),
    fun name field stop member => framed.only name field stop (secret_mem_fixed.mp member)⟩
  · rw [render_gap, ← framed.text values]
    rfl
  · obtain ⟨name, stop, listed⟩ := framed.covers field member picked
    exact ⟨name, stop, secret_mem_fixed.mpr listed⟩

theorem stop {stop : Char} (framed : Framed chosen fields text (.fixed (.gap stop) :: rest) slots) :
    Framed chosen fields (fun values => text values ++ [stop]) rest slots := by
  refine ⟨framed.sound, fun values => ?_, framed.covers,
    fun name field stop member => framed.later name field stop (secret_mem_fixed.mpr member),
    fun name field stop member => (framed.only name field stop member).imp_right
      secret_mem_fixed.mp⟩
  rw [← framed.text values, render_gap, List.append_assoc]
  rfl

/-- A text before another one, whose first character it shares. -/
theorem append {stop : Char} (front : Framed chosen others (fun values => first values ++ [stop])
      slots slots')
    (back : Framed chosen fields text rest (.fixed (.gap stop) :: slots)) :
    Framed chosen (others ++ fields) (fun values => first values ++ text values) rest slots' := by
  refine ⟨front.sound, fun values => ?_, fun field member picked => ?_,
    fun name field stop member => ?_, fun name field stop member => ?_⟩
  · rw [← front.text values, List.append_assoc, List.append_assoc, back.text values, render_gap]
    rfl
  · rcases List.mem_append.mp member with inFront | inBack
    · exact front.covers field inFront picked
    · obtain ⟨name, stop, listed⟩ := back.covers field inBack picked
      exact ⟨name, stop, front.later name field stop (secret_mem_fixed.mp listed)⟩
  · exact front.later name field stop (secret_mem_fixed.mp (back.later name field stop member))
  · rcases front.only name field stop member with ⟨inFront, picked⟩ | behind
    · exact .inl ⟨List.mem_append_left _ inFront, picked⟩
    · refine (back.only name field stop (secret_mem_fixed.mpr behind)).imp_left ?_
      exact fun ⟨inBack, picked⟩ => ⟨List.mem_append_right _ inBack, picked⟩

/-- A key before a value that is no string. -/
theorem key {start : Char} (name : String) (isGap : IsGap start)
    (framed : Framed chosen fields text rest (.fixed (.gap start) :: slots)) :
    Framed chosen fields (fun values => quoted name ++ ':' :: text values) rest
      (.fixed (.key (escapedText name) start) :: slots) := by
  refine framed.fixed (.key (escapedText name) start) ⟨escapedText_content name, isGap⟩
    fun values => ?_
  have behind := framed.text values
  rw [render_gap] at behind
  rw [List.append_assoc, List.cons_append, behind, quoted_eq]
  exact (List.append_assoc (inQuotes (escapedText name)) ([':'] ++ [start]) _).symm

end Framed

/-- Characters between strings. -/
theorem framed_gaps {text : List Char} (all : ∀ c ∈ text, IsGap c) {rest : List Slot}
    (sound : Sound rest) : ∃ slots, Framed chosen [] (fun _ => text) rest slots := by
  induction text with
  | nil => exact ⟨rest, framed_rest sound⟩
  | cons c text ih =>
      have ⟨head, tail⟩ := List.forall_mem_cons.mp all
      obtain ⟨slots, framed⟩ := ih tail
      exact ⟨_, framed.gap head⟩

theorem digit_gap {c : Char} (digit : c.isDigit = true) : IsGap c := by
  refine ⟨?_, ?_, ?_⟩
  · rintro rfl
    exact absurd digit (by decide)
  · rintro rfl
    exact absurd digit (by decide)
  · have control : ∀ n, n < 58 → (Char.ofNat n).isDigit = true →
        isSpace (Char.ofNat n) = false := by decide
    have low : c.toNat < 58 := by
      simp only [Char.isDigit, Bool.and_eq_true, decide_eq_true_eq, ge_iff_le] at digit
      have high := UInt32.le_iff_toNat_le.mp digit.2
      exact Nat.lt_succ_of_le high
    have space := control c.toNat low
    rw [Char.ofNat_toNat] at space
    exact space digit

theorem numeral_gap {number : Int} : ∀ c ∈ numeral number, IsGap c := by
  intro c member
  have digits : ∀ c ∈ Nat.toDigits 10 number.natAbs, IsGap c := fun c member =>
    digit_gap (Nat.isDigit_of_mem_toDigits (by decide) (by decide) member)
  unfold numeral at member
  split at member
  · rcases List.mem_cons.mp member with rfl | inDigits
    · exact ⟨by decide, by decide, by decide⟩
    · exact digits c inDigits
  · exact digits c member

theorem framed_row {text : List Char} (all : ∀ c ∈ text, IsGap c) {stop : Char}
    (isStop : IsStop stop) {rest : List Slot} (sound : Sound rest) :
    ∃ start slots, IsGap start ∧
      Framed chosen [] (fun _ => text ++ [stop]) rest (.fixed (.gap start) :: slots) := by
  have row : ∀ c ∈ text ++ [stop], IsGap c := fun c member => by
    rcases List.mem_append.mp member with inText | atStop
    · exact all c inText
    · exact List.mem_singleton.mp atStop ▸ isStop.gap
  obtain ⟨start, behind, split⟩ :=
    List.exists_cons_of_ne_nil (List.append_ne_nil_of_right_ne_nil text (List.cons_ne_nil stop []))
  rw [split] at row ⊢
  have ⟨head, tail⟩ := List.forall_mem_cons.mp row
  obtain ⟨slots, framed⟩ := framed_gaps tail sound
  exact ⟨start, slots, head, framed.gap head⟩

/-! ### Documents -/

section Documents

variable [FloatText φ]

def IsCompound : Json φ → Prop
  | .list _ | .dict _ => True
  | _ => False

/-- The slots of a list or an object. -/
def CompoundFramed (chosen : List Step → Bool) (document : Json φ) : Prop :=
  ∀ (path : List Step) (rest : List Slot), Sound rest → IsCompound document →
    ∃ bracket slots, (bracket = '{' ∨ bracket = '[') ∧ ∀ secret,
      Framed chosen (secretFields secret path document)
        (fun values => (assign chosen values secret path document).text) rest
        (.fixed (.gap bracket) :: slots)

theorem bracket_gap {bracket : Char} (isBracket : bracket = '{' ∨ bracket = '[') :
    IsGap bracket := by
  rcases isBracket with rfl | rfl <;> exact ⟨by decide, by decide, by decide⟩

variable (numerals : ∀ number : φ, ∀ c ∈ FloatText.repr number, IsGap c)

include numerals

/-- A value that is no string, with the character behind it. -/
theorem framed_other {document : Json φ} (compound : CompoundFramed chosen document)
    (other : ∀ text, document ≠ .str text) (path : List Step) {stop : Char} (isStop : IsStop stop)
    {rest : List Slot} (sound : Sound rest) :
    ∃ start slots, IsGap start ∧ ∀ secret, Framed chosen (secretFields secret path document)
      (fun values => (assign chosen values secret path document).text ++ [stop]) rest
      (.fixed (.gap start) :: slots) := by
  have bracketed (isCompound : IsCompound document) :
      ∃ start slots, IsGap start ∧ ∀ secret, Framed chosen (secretFields secret path document)
        (fun values => (assign chosen values secret path document).text ++ [stop]) rest
        (.fixed (.gap start) :: slots) := by
    obtain ⟨bracket, slots, isBracket, framed⟩ := compound path (.fixed (.gap stop) :: rest)
      (sound_fixed.mpr ⟨isStop.gap, sound⟩) isCompound
    exact ⟨bracket, slots, bracket_gap isBracket, fun secret => (framed secret).stop⟩
  have constant (text : List Char) (all : ∀ c ∈ text, IsGap c)
      (fields : ∀ secret, secretFields secret path document = [])
      (same : ∀ values secret, (assign chosen values secret path document).text = text) :
      ∃ start slots, IsGap start ∧ ∀ secret, Framed chosen (secretFields secret path document)
        (fun values => (assign chosen values secret path document).text ++ [stop]) rest
        (.fixed (.gap start) :: slots) := by
    obtain ⟨start, slots, isGap, framed⟩ := framed_row all isStop sound
    refine ⟨start, slots, isGap, fun secret => ?_⟩
    rw [fields secret]
    exact framed.congr fun values => by rw [same]
  have letters {text : List Char}
      (all : (text.all fun c => decide (c ≠ '"' ∧ c ≠ '\\' ∧ isSpace c = false)) = true) :
      ∀ c ∈ text, IsGap c := by
    intro c member
    obtain ⟨quote, backslash, space⟩ := of_decide_eq_true (List.all_eq_true.mp all c member)
    exact ⟨quote, backslash, space⟩
  cases document with
  | null => exact constant _ (letters (by decide)) (fun _ => rfl) fun _ _ => rfl
  | bool flag =>
      cases flag with
      | true => exact constant _ (letters (by decide)) (fun _ => rfl) fun _ _ => rfl
      | false => exact constant _ (letters (by decide)) (fun _ => rfl) fun _ _ => rfl
  | int number => exact constant _ numeral_gap (fun _ => rfl) fun _ _ => rfl
  | float number => exact constant _ (numerals number) (fun _ => rfl) fun _ _ => rfl
  | str text => exact absurd rfl (other text)
  | list items => exact bracketed trivial
  | dict members => exact bracketed trivial

/-- An item of a list, with the character behind it. -/
theorem framed_item {document : Json φ} (compound : CompoundFramed chosen document)
    (path : List Step) {stop : Char} (isStop : IsStop stop) (noBrace : stop ≠ '}')
    {rest : List Slot} (sound : Sound rest) :
    ∃ slots, Framed chosen (secretFields false path document)
      (fun values => (assign chosen values false path document).text ++ [stop]) rest slots := by
  by_cases isString : ∃ text, document = .str text
  · obtain ⟨text, rfl⟩ := isString
    have framed : Framed chosen _ _ _ _ := (framed_rest sound).gap isStop.gap
    exact ⟨_, framed.fixed (.item (escapedText text) stop)
      ⟨escapedText_content text, isStop, noBrace⟩ fun _ => rfl⟩
  · obtain ⟨start, slots, -, framed⟩ := framed_other numerals compound
      (fun text same => isString ⟨text, same⟩) path isStop sound
    exact ⟨_, framed false⟩

omit [FloatText φ] numerals in
theorem member_text (name value : List Char) (stop : Char) (later : List Char) :
    inQuotes name ++ ':' :: inQuotes value ++ [stop] ++ later =
      Piece.text (.member name value stop) ++ later := by
  simp only [Piece.text, List.append_assoc, List.cons_append, List.nil_append]

/-- A member of an object, with the character behind it. -/
theorem framed_member {document : Json φ} (compound : CompoundFramed chosen document)
    (key : String) (path : List Step) {stop : Char} (isStop : IsStop stop) {rest : List Slot}
    (sound : Sound rest) (apart : Apart stop rest) :
    ∃ slots, (∀ other, Apart other slots) ∧
      Framed chosen (secretFields (isSecretName key.toList) path document)
        (fun values => quoted key ++ ':' ::
          (assign chosen values (isSecretName key.toList) path document).text ++ [stop])
        rest slots := by
  by_cases isString : ∃ text, document = .str text
  · obtain ⟨text, rfl⟩ := isString
    cases assigned : isSecretName key.toList && chosen path with
    | true =>
        have ⟨secret, picked⟩ := Bool.and_eq_true_iff.mp assigned
        refine ⟨.secret key.toList path stop :: rest, fun _ => trivial,
          ⟨List.forall_mem_cons.mpr ⟨⟨secret, isStop⟩, sound.proper⟩, apart, sound.separated⟩,
          fun values => ?_, fun field member _ => ?_,
          fun _ _ _ member => List.mem_cons_of_mem _ member, fun name field stop' member => ?_⟩
        · rw [assign, assigned, if_pos rfl, quoted_eq, escapedText_name secret]
          exact member_text _ _ stop _
        · rw [secretFields, if_pos secret] at member
          obtain rfl := List.mem_singleton.mp member
          exact ⟨_, _, List.mem_cons_self⟩
        · rcases List.mem_cons.mp member with same | behind
          · obtain ⟨-, rfl, -⟩ := Slot.secret.inj same
            rw [secretFields, if_pos secret]
            exact .inl ⟨List.mem_singleton_self _, picked⟩
          · exact .inr behind
    | false =>
        refine ⟨.fixed (.member (escapedText key) (escapedText text) stop) :: rest,
          fun _ => trivial, sound_fixed.mpr ⟨⟨escapedText_content key, escapedText_content text,
            isStop⟩, sound⟩, fun values => ?_, fun field member picked => ?_,
          fun _ _ _ member => secret_mem_fixed.mpr member,
          fun _ _ _ member => .inr (secret_mem_fixed.mp member)⟩
        · rw [assign, assigned, if_neg Bool.false_ne_true, quoted_eq]
          exact member_text _ _ stop _
        · rw [secretFields] at member
          split at member
          · next secret =>
              rw [secret, ← List.mem_singleton.mp member, picked] at assigned
              exact nomatch assigned
          · exact nomatch member
  · obtain ⟨start, slots, isGap, framed⟩ := framed_other numerals compound
      (fun text same => isString ⟨text, same⟩) path isStop sound
    have keyed := (framed (isSecretName key.toList)).key key isGap
    refine ⟨.fixed (.key (escapedText key) start) :: slots, fun _ => trivial,
      keyed.congr fun values => ?_⟩
    rw [List.append_assoc, List.cons_append]

mutual

theorem framed_compound : ∀ document : Json φ, CompoundFramed chosen document
  | .null | .bool _ | .int _ | .float _ | .str _ => fun _ _ _ isCompound => isCompound.elim
  | .list [] => fun _ rest sound _ => ⟨'[', .fixed (.gap ']') :: rest, .inr rfl, fun _ =>
      ((framed_rest sound).gap ⟨by decide, by decide, by decide⟩).gap (bracket_gap (.inr rfl))⟩
  | .list (item :: items) => fun path rest sound _ => by
      obtain ⟨stop, slots, isStop, noBrace, back⟩ := framed_items items path 1 rest sound
      obtain ⟨slots', front⟩ := framed_item numerals (framed_compound item)
        (path ++ [.index 0]) isStop noBrace (sound_fixed.mp back.sound).2
      exact ⟨'[', slots', .inr rfl, fun _ => (front.append back).gap (bracket_gap (.inr rfl))⟩
  | .dict [] => fun _ rest sound _ => ⟨'{', .fixed (.gap '}') :: rest, .inl rfl, fun _ =>
      ((framed_rest sound).gap ⟨by decide, by decide, by decide⟩).gap (bracket_gap (.inl rfl))⟩
  | .dict ((key, value) :: members) => fun path rest sound _ => by
      obtain ⟨stop, slots, isStop, apart, back⟩ := framed_members members path rest sound
      obtain ⟨slots', -, front⟩ := framed_member numerals (framed_compound value) key
        (path ++ [.key key]) isStop (sound_fixed.mp back.sound).2 apart
      refine ⟨'{', slots', .inl rfl, fun _ =>
        ((front.append back).gap (bracket_gap (.inl rfl))).congr fun values => ?_⟩
      simp only [assign, assignMembers, Json.text, List.append_assoc, List.cons_append]

theorem framed_items : ∀ (items : List (Json φ)) (path : List Step) (position : Nat)
    (rest : List Slot), Sound rest → ∃ stop slots, IsStop stop ∧ stop ≠ '}' ∧
      Framed chosen (secretItems path position items)
        (fun values => jsonTextItems (assignItems chosen values path position items)) rest
        (.fixed (.gap stop) :: slots)
  | [], _, _, rest, sound => ⟨']', rest, by unfold IsStop; decide, by decide,
      (framed_rest sound).gap ⟨by decide, by decide, by decide⟩⟩
  | item :: items, path, position, rest, sound => by
      obtain ⟨stop, slots, isStop, noBrace, back⟩ :=
        framed_items items path (position + 1) rest sound
      obtain ⟨slots', front⟩ := framed_item numerals (framed_compound item)
        (path ++ [.index position]) isStop noBrace (sound_fixed.mp back.sound).2
      exact ⟨',', slots', by unfold IsStop; decide, by decide,
        (front.append back).gap ⟨by decide, by decide, by decide⟩⟩

theorem framed_members : ∀ (members : List (String × Json φ)) (path : List Step)
    (rest : List Slot), Sound rest → ∃ stop slots, IsStop stop ∧ Apart stop slots ∧
      Framed chosen (secretMembers path members)
        (fun values => jsonTextMembers (assignMembers chosen values path members)) rest
        (.fixed (.gap stop) :: slots)
  | [], _, rest, sound => ⟨'}', rest, by unfold IsStop; decide, apart_brace sound.proper,
      (framed_rest sound).gap ⟨by decide, by decide, by decide⟩⟩
  | (key, value) :: members, path, rest, sound => by
      obtain ⟨stop, slots, isStop, apart, back⟩ := framed_members members path rest sound
      obtain ⟨slots', separate, front⟩ := framed_member numerals (framed_compound value) key
        (path ++ [.key key]) isStop (sound_fixed.mp back.sound).2 apart
      refine ⟨',', slots', by unfold IsStop; decide, separate ',',
        ((front.append back).gap ⟨by decide, by decide, by decide⟩).congr fun values => ?_⟩
      simp only [assignMembers, jsonTextMembers, List.append_assoc, List.cons_append]

end

end Documents

end EgoAgent.Gateway
