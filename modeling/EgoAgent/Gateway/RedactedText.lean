import EgoAgent.Gateway.SecretMembers

/-!
The redaction of the text of a document.

The first two patterns change the contents of the strings, provided that no private-key block
leaves its string; the third one finds nothing, since the text is one line that begins with a
bracket; the last one hides the values of the secret members.
-/

namespace EgoAgent.Gateway

open EgoAgent.Api EgoAgent.Bridge

/-! ### The first two patterns -/

section

variable {previous : Option Char} {text : List Char}

theorem privateKey_reads (reads : privateKeyRe.body.Reads previous text) :
    ∃ middle, text = "-----BEGIN ".toList ++ (middle ++ "PRIVATE KEY-----".toList) := by
  obtain ⟨_, _, rfl, first, line, _, rfl, -, block, _, rfl, -, last, _, rfl, -, name, _, rfl, -,
    ends⟩ := reads
  obtain rfl := Regex.exact_reads first
  obtain rfl := Regex.exact_reads ends
  exact ⟨line ++ (block ++ (last ++ name)), by simp only [List.append_assoc]⟩

theorem privateKey_inner : Inner privateKeyRe where
  bare := rfl
  starts reads := by
    obtain ⟨middle, rfl⟩ := privateKey_reads reads
    exact ⟨'-', "----BEGIN ".toList ++ (middle ++ "PRIVATE KEY-----".toList), rfl,
      by decide, by decide, by decide⟩
  stops reads := by
    obtain ⟨middle, rfl⟩ := privateKey_reads reads
    refine ⟨"-----BEGIN ".toList ++ (middle ++ "PRIVATE KEY----".toList), '-', ?_, by decide⟩
    rw [List.append_assoc, List.append_assoc]
    rfl
  spaced reads := by
    obtain ⟨middle, rfl⟩ := privateKey_reads reads
    exact ⟨"-----BEGIN".toList, ' ', middle ++ "PRIVATE KEY-----".toList, rfl, by decide,
      by decide⟩
  mark := by
    intro c member
    refine ⟨?_, ?_, ?_⟩ <;> rintro rfl <;> exact absurd member (by decide)
  marked := by decide

variable {c : Char}

theorem token_plain (isToken : isTokenChar c = true) : Plain c := by
  refine ⟨?_, ?_, ?_⟩ <;> rintro rfl <;> exact absurd isToken (by decide)

theorem space_unquoted (space : isSpace c = true) : c ≠ '"' := by
  rintro rfl
  exact absurd space (by decide)

theorem bearer_word (reads : (ignoring "bearer").Reads previous text) :
    ∃ c rest, text = c :: rest ∧ Plain c ∧ '"' ∉ text := by
  have plain : ∀ c ∈ text, Plain c := fun c member =>
    nameChar_plain ((only_letters (by decide)).reads reads c member)
  cases text with
  | nil => exact nomatch Regex.word_reads reads
  | cons c rest =>
      exact ⟨c, rest, rfl, plain c List.mem_cons_self, fun member => (plain _ member).quote rfl⟩

theorem bearer_reads {unicode : UnicodeText} (reads : (bearerRe unicode).body.Reads previous text) :
    ∃ word c back last, text = word ++ c :: (back ++ [last]) ∧
      (∃ first rest, word = first :: rest ∧ Plain first) ∧ '"' ∉ word ∧ isSpace c = true ∧
      isTokenChar last = true ∧ '"' ∉ back := by
  obtain ⟨_, _, rfl, ⟨-, rfl⟩, word, _, rfl, isWord, _, _, rfl, ⟨c, space, rfl⟩, more, _, rfl,
    areSpaces, eight, rest, rfl, areEight, areTokens⟩ := reads
  obtain ⟨first, others, starts, plain, unquoted⟩ := bearer_word isWord
  have tokens : ∀ c ∈ eight ++ rest, isTokenChar c = true := by
    have only : (((List.replicate 8 (Regex.one isTokenChar)).foldr Regex.seq
        Regex.empty).seq (.many isTokenChar)).Only fun c => isTokenChar c = true := by
      simp [Regex.Only, List.replicate]
    exact only.reads ⟨eight, rest, rfl, areEight, areTokens⟩
  have nonempty : eight ++ rest ≠ [] := by
    obtain ⟨_, _, rfl, ⟨c, -, rfl⟩, -⟩ := areEight
    exact List.cons_ne_nil _ _
  refine ⟨word, c, more ++ (eight ++ rest).dropLast, (eight ++ rest).getLast nonempty, ?_,
    ⟨first, others, starts, plain⟩, unquoted, space, tokens _ (List.getLast_mem nonempty), ?_⟩
  · rw [List.append_assoc, List.dropLast_append_getLast]
    rfl
  · intro member
    rcases List.mem_append.mp member with inMore | inTokens
    · exact space_unquoted (areSpaces _ inMore) rfl
    · exact (token_plain (tokens _ (List.mem_of_mem_dropLast inTokens))).quote rfl

theorem bearerMark_plain : ∀ c ∈ "Bearer ".toList ++ redacted.toList, Plain c := by
  intro c member
  refine ⟨?_, ?_, ?_⟩ <;> rintro rfl <;> exact absurd member (by decide)

theorem bearer_inner (unicode : UnicodeText) : Inner (bearerRe unicode) where
  bare := rfl
  starts reads := by
    obtain ⟨_, c, back, last, rfl, ⟨first, rest, rfl, plain⟩, -⟩ := bearer_reads reads
    exact ⟨first, _, rfl, plain⟩
  stops reads := by
    obtain ⟨word, c, back, last, rfl, -, -, -, token, -⟩ := bearer_reads reads
    exact ⟨word ++ c :: back, last, by rw [List.append_assoc]; rfl, (token_plain token).backslash⟩
  spaced reads := by
    obtain ⟨word, c, back, last, rfl, -, unquoted, space, -⟩ := bearer_reads reads
    exact ⟨word, c, _, rfl, unquoted, space⟩
  mark := bearerMark_plain
  marked := List.cons_ne_nil _ _

/-- A bearer phrase has no quote. -/
theorem bearer_inside {unicode : UnicodeText} :
    ∀ whole ∈ (bearerRe unicode).foundFrom 0 previous text, leavesString whole = false := by
  intro whole member
  obtain ⟨before, kept, replaced, rfl, lead, body⟩ := Substitution.mem_foundFrom member
  obtain rfl : kept = [] := lead
  obtain ⟨word, c, back, last, rfl, -, unquoted, space, token, unquoted'⟩ := bearer_reads body
  refine closes_of_unquoted (fun quote => ?_) false
  rw [List.nil_append] at quote
  rcases List.mem_append.mp quote with inWord | later
  · exact unquoted inWord
  · rcases List.mem_cons.mp later with same | later
    · exact space_unquoted space same.symm
    · rcases List.mem_append.mp later with inBack | atEnd
      · exact unquoted' inBack
      · exact (token_plain token).quote (List.mem_singleton.mp atEnd).symm

/-! ### The third pattern -/

theorem assignment_start {kept : List Char} (reads : assignmentSecretRe.lead.Reads previous kept) :
    (∀ c, previous = some c → c = '\n') ∧
      ∃ c rest, kept = c :: rest ∧ (isSpace c = true ∨ isNameChar c = true) := by
  obtain ⟨_, _, rfl, ⟨start, rfl⟩, before, _, rfl, spaces, word, _, rfl, isWord, name, tail, rfl,
    isName, -⟩ := reads
  constructor
  · rintro c rfl
    exact of_decide_eq_true start
  · have exported : ∀ c ∈ word, isSpace c = true ∨ isNameChar c = true := by
      rcases isWord with ⟨_, _, rfl, isExport, _, _, rfl, ⟨space, isSpace', rfl⟩, spaces'⟩ | rfl
      · intro c member
        rcases List.mem_append.mp member with inExport | behind
        · exact .inr ((only_letters (by decide)).reads isExport c inExport)
        · rcases List.mem_cons.mp behind with rfl | more
          · exact .inl isSpace'
          · exact .inl (spaces' c more)
      · exact fun _ member => nomatch member
    have all : ∀ c ∈ before ++ (word ++ name), isSpace c = true ∨ isNameChar c = true := by
      intro c member
      rcases List.mem_append.mp member with inSpaces | later
      · exact .inl (spaces c inSpaces)
      · rcases List.mem_append.mp later with inWord | inName
        · exact exported c inWord
        · exact .inr (secretName_chars isName c inName)
    have nonempty : before ++ (word ++ name) ≠ [] := by
      intro empty
      have noName := (List.append_eq_nil_iff.mp (List.append_eq_nil_iff.mp empty).2).2
      rw [noName] at isName
      exact secretName_nil isName
    obtain ⟨c, rest, starts⟩ := List.exists_cons_of_ne_nil nonempty
    refine ⟨c, rest ++ tail, ?_, all c (starts ▸ List.mem_cons_self)⟩
    rw [← List.cons_append, ← starts]
    simp only [List.append_assoc, List.nil_append]

theorem assignment_line (noNewline : c ≠ '\n')
    (line : '\n' ∉ text) : assignmentSecretRe.subFrom 0 (some c) text = text := by
  induction text generalizing c with
  | nil => rfl
  | cons first rest ih =>
      have none : assignmentSecretRe.find (some c) (first :: rest) = none :=
        Substitution.find_eq_none fun kept replaced _ _ lead _ =>
          noNewline ((assignment_start lead).1 c rfl)
      rw [Substitution.subFrom_none none,
        ih (List.ne_of_not_mem_cons line).symm (List.not_mem_of_not_mem_cons line)]

/-- On one line that begins with a bracket the pattern for assignments finds nothing. -/
theorem assignment_bracket (bracket : c = '{' ∨ c = '[')
    (line : '\n' ∉ text) : assignmentSecretRe.sub (c :: text) = c :: text := by
  have none : assignmentSecretRe.find Option.none (c :: text) = Option.none := by
    refine Substitution.find_eq_none fun kept replaced rest split lead _ => ?_
    obtain ⟨-, first, others, rfl, starts⟩ := assignment_start lead
    obtain rfl := (List.cons.inj split).1
    rcases bracket with rfl | rfl
    · exact absurd starts (by decide)
    · exact absurd starts (by decide)
  rw [Substitution.sub, Substitution.subFrom_none none, assignment_line ?_ line]
  rcases bracket with rfl | rfl <;> decide

end

/-! ### The whole redaction -/

theorem render_line {pieces : List Piece} (proper : ∀ piece ∈ pieces, piece.Proper) :
    '\n' ∉ render pieces := by
  have gap {c : Char} (isGap : IsGap c) : '\n' ≠ c := by
    rintro rfl
    exact absurd isGap.space (by decide)
  have quotes {content : List Char} (isContent : Content content) : '\n' ∉ inQuotes content := by
    refine List.not_mem_cons_of_ne_of_not_mem (by decide) fun member => ?_
    rcases List.mem_append.mp member with inside | atEnd
    · exact isContent.noNewline inside
    · exact absurd (List.mem_singleton.mp atEnd) (by decide)
  intro member
  obtain ⟨piece, listed, inPiece⟩ := List.mem_flatMap.mp member
  have isProper := proper piece listed
  cases piece with
  | gap c => exact gap isProper (List.mem_singleton.mp inPiece)
  | item content stop =>
      rcases List.mem_append.mp inPiece with inside | behind
      · exact quotes isProper.1 inside
      · exact gap isProper.2.1.gap (List.mem_singleton.mp behind)
  | key content start =>
      rcases List.mem_append.mp inPiece with inside | behind
      · exact quotes isProper.1 inside
      · rcases List.mem_cons.mp behind with colon | atStart
        · exact absurd colon (by decide)
        · exact gap isProper.2 (List.mem_singleton.mp atStart)
  | member name value stop =>
      rcases List.mem_append.mp inPiece with inside | behind
      · exact quotes isProper.1 inside
      · rcases List.mem_cons.mp behind with colon | later
        · exact absurd colon (by decide)
        · have behind' : '\n' ∈ inQuotes value ++ [stop] := later
          rcases List.mem_append.mp behind' with inValue | atStop
          · exact quotes isProper.2.1 inValue
          · exact gap isProper.2.2.gap (List.mem_singleton.mp atStop)

/-- The contents of a string behind the first two patterns. -/
def cleaned (unicode : UnicodeText) (content : List Char) : List Char :=
  (bearerRe unicode).subFrom 0 (some '"') (privateKeyRe.subFrom 0 (some '"') content)

section

variable (unicode : UnicodeText)

theorem cleaned_unquoted {content : List Char}
    (unquoted : '"' ∉ content) : '"' ∉ cleaned unicode content := by
  intro member
  rcases Substitution.mem_subFrom member with before | marked
  · rcases Substitution.mem_subFrom before with inContent | marked
    · exact unquoted inContent
    · exact (privateKey_inner.mark _ marked).quote rfl
  · exact ((bearer_inner unicode).mark _ marked).quote rfl

theorem cleaned_unspaced {content : List Char}
    (all : ∀ c ∈ content, isSpace c = false) : cleaned unicode content = content := by
  rw [cleaned, privateKey_inner.sub_unspaced all, (bearer_inner unicode).sub_unspaced all]

/-- Whether every private-key block of a text ends in the JSON string in which it begins. -/
def KeysInside (text : List Char) : Prop :=
  ∀ whole ∈ privateKeyRe.found text, leavesString whole = false

instance (text : List Char) : Decidable (KeysInside text) :=
  inferInstanceAs (Decidable (∀ whole ∈ privateKeyRe.found text, leavesString whole = false))

theorem map_cleaned (piece : Piece) :
    (piece.map (privateKeyRe.subFrom 0 (some '"'))).map
      ((bearerRe unicode).subFrom 0 (some '"')) = piece.map (cleaned unicode) := by
  cases piece <;> rfl

theorem redactText_render {bracket : Char} {pieces : List Piece}
    (isBracket : bracket = '{' ∨ bracket = '[') (proper : ∀ piece ∈ pieces, piece.Proper)
    (inside : KeysInside (bracket :: render pieces)) :
    redactText unicode (bracket :: render pieces) =
        bracket :: (pieces.map (Piece.map (cleaned unicode))).flatMap Piece.hidden ∧
      ∀ piece ∈ pieces.map (Piece.map (cleaned unicode)), piece.Proper := by
  have isGap : IsGap bracket := by
    rcases isBracket with rfl | rfl <;> exact ⟨by decide, by decide, by decide⟩
  have all : ∀ piece ∈ Piece.gap bracket :: pieces, piece.Proper :=
    List.forall_mem_cons.mpr ⟨isGap, proper⟩
  obtain ⟨first, proper'⟩ := privateKey_inner.sub_render all none inside
  obtain ⟨second, proper''⟩ := (bearer_inner unicode).sub_render proper' none bearer_inside
  have both : ((Piece.gap bracket :: pieces).map
      (Piece.map (privateKeyRe.subFrom 0 (some '"')))).map
        (Piece.map ((bearerRe unicode).subFrom 0 (some '"'))) =
      Piece.gap bracket :: pieces.map (Piece.map (cleaned unicode)) := by
    rw [List.map_map, List.map_cons]
    congr 1
    exact List.map_congr_left fun piece _ => map_cleaned unicode piece
  rw [both] at second proper''
  have ⟨_, tail⟩ := List.forall_mem_cons.mp proper''
  refine ⟨?_, tail⟩
  have afterKeys : privateKeyRe.sub (bracket :: render pieces) = _ := first
  have afterBearer : (bearerRe unicode).sub (render ((Piece.gap bracket :: pieces).map
      (Piece.map (privateKeyRe.subFrom 0 (some '"'))))) =
      bracket :: render (pieces.map (Piece.map (cleaned unicode))) := second
  rw [redactText, afterKeys, afterBearer, assignment_bracket isBracket (render_line tail)]
  exact sub_hidden proper'' none

end

end EgoAgent.Gateway
