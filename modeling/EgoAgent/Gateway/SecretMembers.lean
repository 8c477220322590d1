import EgoAgent.Gateway.RenderedText

/-!
The pattern for secret members on JSON text.

It matches a key whose contents end, from the opening quote or from an escaped one, with a secret
name, and the value behind it up to the first double quote.  What an escaped quote of the value
leaves behind stays in the text.
-/

namespace EgoAgent.Gateway

open EgoAgent.Api EgoAgent.Bridge

/-! ### The match -/

theorem nameChar_plain {c : Char} (isName : isNameChar c = true) : Plain c := by
  refine ⟨?_, ?_, ?_⟩ <;> rintro rfl <;> exact absurd isName (by decide)

/-- A colon and a quote, with spaces before each. -/
def Colon (text : List Char) : Prop :=
  ∃ front back rest, text = front ++ ':' :: (back ++ '"' :: rest) ∧
    (∀ c ∈ front, isSpace c = true) ∧ ∀ c ∈ back, isSpace c = true

theorem not_colon_of_stop {stop : Char} (isStop : IsStop stop) (rest : List Char) :
    ¬ Colon (stop :: rest) := by
  rintro ⟨front, back, later, split, spaces, -⟩
  cases front with
  | nil =>
      rw [(List.cons.inj split).1] at isStop
      exact absurd isStop (by unfold IsStop; decide)
  | cons c front =>
      have space := spaces c List.mem_cons_self
      rw [← (List.cons.inj split).1, isStop.gap.space] at space
      exact nomatch space

theorem not_colon_of_start {start : Char} (isStart : IsGap start) (rest : List Char) :
    ¬ Colon (':' :: start :: rest) := by
  rintro ⟨front, back, later, split, spaces, spaces'⟩
  cases front with
  | nil =>
      have behind : start :: rest = back ++ '"' :: later := (List.cons.inj split).2
      cases back with
      | nil => exact isStart.quote (List.cons.inj behind).1
      | cons c back =>
          have space := spaces' c List.mem_cons_self
          rw [← (List.cons.inj behind).1, isStart.space] at space
          exact nomatch space
  | cons c front =>
      have space := spaces c List.mem_cons_self
      rw [← (List.cons.inj split).1] at space
      exact absurd space (by decide)

section

variable {previous : Option Char}

theorem lead_reads {kept : List Char} (reads : jsonSecretRe.lead.Reads previous kept) :
    ∃ name front back, kept = '"' :: (name ++ '"' :: (front ++ ':' :: back)) ∧
      isSecretName name = true ∧ (∀ c ∈ front, isSpace c = true) ∧
      ∀ c ∈ back, isSpace c = true := by
  obtain ⟨_, _, rfl, quote, name, _, rfl, secret, _, _, rfl, quote', front, _, rfl, spaces,
    _, back, rfl, colon, spaces'⟩ := reads
  obtain rfl := symbol_reads quote
  obtain rfl := symbol_reads quote'
  obtain rfl := symbol_reads colon
  exact ⟨name, front, back, rfl, (isSecretName_iff _).mpr secret, spaces, spaces'⟩

theorem body_reads {replaced : List Char} (reads : jsonSecretRe.body.Reads previous replaced) :
    ∃ value, replaced = '"' :: (value ++ ['"']) ∧ '"' ∉ value := by
  obtain ⟨_, _, rfl, quote, value, _, rfl, unquoted, quote'⟩ := reads
  obtain rfl := symbol_reads quote
  obtain rfl := symbol_reads quote'
  exact ⟨value, rfl, fun member => of_decide_eq_true (unquoted _ member) rfl⟩

theorem find_member {text kept replaced : List Char}
    (found : jsonSecretRe.find previous text = some (kept, replaced)) :
    ∃ name rest, text = '"' :: (name ++ '"' :: rest) ∧ isSecretName name = true ∧ Colon rest := by
  obtain ⟨rest, rfl, lead, body⟩ := Substitution.find_some found
  obtain ⟨name, front, back, rfl, secret, spaces, spaces'⟩ := lead_reads lead
  obtain ⟨value, rfl, -⟩ := body_reads body
  refine ⟨name, front ++ ':' :: (back ++ '"' :: (value ++ '"' :: rest)), ?_, secret, front, back,
    _, rfl, spaces, spaces'⟩
  simp only [List.cons_append, List.append_assoc, List.nil_append]

end

theorem secret_content {name : List Char} (secret : isSecretName name = true) : Content name :=
  .of_plain fun c member => nameChar_plain
    (secretName_chars ((isSecretName_iff none).mp secret) c member)

theorem secret_unquoted {name : List Char} (secret : isSecretName name = true) : '"' ∉ name :=
  fun member => absurd (secretName_chars ((isSecretName_iff none).mp secret) _ member) (by decide)

theorem find_other {c : Char} (other : c ≠ '"') (previous : Option Char) (rest : List Char) :
    jsonSecretRe.find previous (c :: rest) = none := by
  cases found : jsonSecretRe.find previous (c :: rest) with
  | none => rfl
  | some reading =>
      obtain ⟨kept, replaced⟩ := reading
      obtain ⟨name, later, split, -⟩ := find_member found
      exact absurd (List.cons.inj split).1 other

section

variable {content later : List Char}

/-- No match begins at a quote whose string is no secret name or is not followed by a value. -/
theorem find_string (isContent : Content content)
    (silent : isSecretName content = true → ¬ Colon later) (previous : Option Char) :
    jsonSecretRe.find previous ('"' :: (content ++ '"' :: later)) = none := by
  cases found : jsonSecretRe.find previous ('"' :: (content ++ '"' :: later)) with
  | none => rfl
  | some reading =>
      obtain ⟨kept, replaced⟩ := reading
      obtain ⟨name, rest, split, secret, colon⟩ := find_member found
      obtain ⟨rfl, rfl⟩ := isContent.unique (secret_content secret) (List.cons.inj split).2
      exact absurd colon (silent secret)

theorem find_closing {later : List Char}
    (opening : ∀ c rest, later = c :: rest → isNameChar c = false) (previous : Option Char) :
    jsonSecretRe.find previous ('"' :: later) = none := by
  cases found : jsonSecretRe.find previous ('"' :: later) with
  | none => rfl
  | some reading =>
      obtain ⟨kept, replaced⟩ := reading
      obtain ⟨name, rest, split, secret, -⟩ := find_member found
      have reads := (isSecretName_iff none).mp secret
      cases name with
      | nil => exact absurd reads secretName_nil
      | cons c name =>
          have isName := secretName_chars reads c List.mem_cons_self
          rw [opening c _ (List.cons.inj split).2] at isName
          exact nomatch isName

theorem unquoted_chars {text : List Char} (unquoted : '"' ∉ text) :
    ∀ c ∈ text, decide (c ≠ '"') = true :=
  fun _ member => decide_eq_true fun same => unquoted (same ▸ member)

/-- The one way to read a secret member with a value up to its first quote. -/
theorem find_secret {name value : List Char} (secret : isSecretName name = true)
    (unquoted : '"' ∉ value) (previous : Option Char) (rest : List Char) :
    jsonSecretRe.find previous ('"' :: (name ++ '"' :: ':' :: '"' :: (value ++ '"' :: rest))) =
      some ('"' :: (name ++ ['"', ':']), '"' :: (value ++ ['"'])) := by
  refine @Substitution.find_eq_some _ _ _ _ _ rest ?_ ?_ ?_ ?_
  · simp only [List.cons_append, List.append_assoc, List.nil_append]
  · refine ⟨['"'], name ++ ['"', ':'], rfl, ⟨_, decide_eq_true rfl, rfl⟩, name, ['"', ':'], rfl,
      (isSecretName_iff _).mp secret, ['"'], [':'], rfl, ⟨_, decide_eq_true rfl, rfl⟩, [], [':'],
      rfl, List.forall_mem_nil _, [':'], [], rfl, ⟨_, decide_eq_true rfl, rfl⟩,
      List.forall_mem_nil _⟩
  · refine ⟨['"'], value ++ ['"'], rfl, ⟨_, decide_eq_true rfl, rfl⟩, value, ['"'], rfl,
      unquoted_chars unquoted, ⟨_, decide_eq_true rfl, rfl⟩⟩
  · intro kept replaced rest' split lead body
    obtain ⟨name', front, back, rfl, secret', spaces, spaces'⟩ := lead_reads lead
    obtain ⟨value', rfl, unquoted'⟩ := body_reads body
    simp only [List.cons_append, List.append_assoc, List.nil_append] at split
    obtain ⟨rfl, behind⟩ := (secret_content secret).unique (secret_content secret')
      (List.cons.inj split).2
    cases front with
    | cons c front =>
        have space := spaces c List.mem_cons_self
        rw [← (List.cons.inj behind).1] at space
        exact absurd space (by decide)
    | nil =>
        have valueText := (List.cons.inj behind).2
        cases back with
        | cons c back =>
            have space := spaces' c List.mem_cons_self
            rw [← (List.cons.inj valueText).1] at space
            exact absurd space (by decide)
        | nil =>
            have same : value = value' := by
              have ends := congrArg (List.takeWhile fun c => decide (c ≠ '"'))
                (List.cons.inj valueText).2
              rw [List.takeWhile_append_of_pos (unquoted_chars unquoted),
                List.takeWhile_append_of_pos (unquoted_chars unquoted')] at ends
              simpa using ends
            rw [same]
            exact ⟨rfl, rfl⟩

/-! ### Strings -/

theorem subFrom_other {c : Char} (other : c ≠ '"') (previous : Option Char) (rest : List Char) :
    jsonSecretRe.subFrom 0 previous (c :: rest) = c :: jsonSecretRe.subFrom 0 (some c) rest :=
  Substitution.subFrom_none (find_other other previous rest)

/-- A string passes where no secret name at its end is followed by a value. -/
theorem sub_silent (isContent : Content content)
    (opening : ∀ c rest, later = c :: rest → isNameChar c = false)
    (silent : ∀ front last, content = front ++ '"' :: last → isSecretName last = true →
      ¬ Colon later) (previous : Option Char) :
    jsonSecretRe.subFrom 0 previous (content ++ '"' :: later) =
      content ++ '"' :: jsonSecretRe.subFrom 0 (some '"') later := by
  induction isContent generalizing previous with
  | nil => exact Substitution.subFrom_none (find_closing opening previous)
  | @plain c rest isPlain _ ih =>
      rw [List.cons_append, subFrom_other isPlain.quote, ih, List.cons_append]
      exact fun front last split => silent (c :: front) last (by rw [split]; rfl)
  | @escape c rest _ isContent ih =>
      have rest' := ih (fun front last split => silent ('\\' :: c :: front) last (by
        rw [split]
        rfl)) (some c)
      rw [List.cons_append, List.cons_append, subFrom_other (by decide)]
      by_cases quote : c = '"'
      · subst quote
        have none := find_string isContent (silent ['\\'] rest rfl) (some '\\')
        rw [Substitution.subFrom_none none, rest', List.cons_append, List.cons_append]
      · rw [subFrom_other quote, rest', List.cons_append, List.cons_append]

/-- Up to a secret name at its end a string passes. -/
theorem sub_front {front last : List Char} (later : List Char)
    (isContent : Content (front ++ '"' :: last)) (previous : Option Char) :
    ∃ next, jsonSecretRe.subFrom 0 previous (front ++ '"' :: (last ++ '"' :: later)) =
      front ++ jsonSecretRe.subFrom 0 next ('"' :: (last ++ '"' :: later)) := by
  generalize split : front ++ '"' :: last = content at isContent
  induction isContent generalizing front previous with
  | nil => exact absurd split (by simp)
  | plain isPlain _ ih =>
      cases front with
      | nil => exact absurd (List.cons.inj split).1.symm isPlain.quote
      | cons first front =>
          obtain ⟨rfl, tail⟩ := List.cons.inj split
          obtain ⟨next, passes⟩ := ih (some first) tail
          exact ⟨next, by rw [List.cons_append, subFrom_other isPlain.quote, passes]; rfl⟩
  | @escape c rest _ isContent ih =>
      match front with
      | [] => exact absurd (List.cons.inj split).1 (by decide)
      | [first] =>
          obtain ⟨rfl, -⟩ := List.cons.inj split
          exact ⟨some '\\', by rw [List.cons_append, subFrom_other (by decide)]; rfl⟩
      | first :: second :: front =>
          obtain ⟨rfl, tails⟩ := List.cons.inj split
          obtain ⟨rfl, tail⟩ : second = c ∧ front ++ '"' :: last = rest := List.cons.inj tails
          obtain ⟨next, passes⟩ := ih (some second) tail
          refine ⟨next, ?_⟩
          have step : jsonSecretRe.subFrom 0 (some '\\')
              (second :: (front ++ '"' :: (last ++ '"' :: later))) =
                second :: jsonSecretRe.subFrom 0 (some second)
                  (front ++ '"' :: (last ++ '"' :: later)) := by
            by_cases quote : second = '"'
            · subst quote
              have noName : isSecretName rest = true → ¬ Colon later := fun named =>
                absurd (tail ▸ List.mem_append_right _ List.mem_cons_self)
                  (secret_unquoted named)
              have none := find_string isContent noName (some '\\')
              rw [← tail, List.append_assoc] at none
              exact Substitution.subFrom_none none
            · exact subFrom_other quote _ _
          rw [List.cons_append, List.cons_append, subFrom_other (by decide), step, passes]
          rfl

/-! ### Pieces -/

/-- Whether the contents of a key end, from a quote on, with a secret name. -/
def endsSecret (name : List Char) : Bool :=
  ('"' :: name).tails.any fun
    | '"' :: last => isSecretName last
    | _ => false

theorem endsSecret_iff {name : List Char} :
    endsSecret name = true ↔
      ∃ front last, '"' :: name = front ++ '"' :: last ∧ isSecretName last = true := by
  rw [endsSecret, List.any_eq_true]
  constructor
  · rintro ⟨tail, member, secret⟩
    obtain ⟨front, split⟩ := (List.mem_tails tail _).mp member
    split at secret
    · exact ⟨front, _, split.symm, secret⟩
    · exact nomatch secret
  · rintro ⟨front, last, split, secret⟩
    exact ⟨'"' :: last, (List.mem_tails _ _).mpr ⟨front, split.symm⟩, secret⟩

/-- What an escaped quote of a value leaves in the text. -/
def leak (value : List Char) : List Char :=
  match value.dropWhile fun c => decide (c ≠ '"') with
  | [] => []
  | _ :: tail => tail ++ ['"']

/-- From its first quote on a text is empty or begins with it. -/
theorem dropWhile_quote (text : List Char) :
    (text.dropWhile fun c => decide (c ≠ '"')) = [] ∨
      ∃ rest, (text.dropWhile fun c => decide (c ≠ '"')) = '"' :: rest := by
  cases rest : text.dropWhile fun c => decide (c ≠ '"') with
  | nil => exact .inl rfl
  | cons c tail =>
      have stops := List.head?_dropWhile_not (fun c => decide (c ≠ '"')) text
      rw [rest] at stops
      have isQuote : c = '"' := by simpa using stops
      exact .inr ⟨tail, by rw [isQuote]⟩

/-- A value has no quote, or it is split at its first one. -/
theorem quote_split (value : List Char) :
    ('"' ∉ value ∧ leak value = []) ∨
      ∃ front tail, value = front ++ '"' :: tail ∧ '"' ∉ front ∧ leak value = tail ++ ['"'] := by
  have split := List.takeWhile_append_dropWhile (p := fun c => decide (c ≠ '"')) (l := value)
  have unquoted : '"' ∉ value.takeWhile fun c => decide (c ≠ '"') := fun member =>
    of_decide_eq_true (List.mem_takeWhile_imp (p := fun c => decide (c ≠ '"')) member) rfl
  rcases dropWhile_quote value with none | ⟨tail, rest⟩
  · rw [none, List.append_nil] at split
    rw [split] at unquoted
    exact .inl ⟨unquoted, by rw [leak, none]⟩
  · rw [rest] at split
    exact .inr ⟨_, tail, split.symm, unquoted, by rw [leak, rest]⟩

theorem leak_unquoted {value : List Char} (unquoted : '"' ∉ value) : leak value = [] := by
  rw [leak, List.dropWhile_eq_nil_iff.mpr (unquoted_chars unquoted)]

def Piece.hidden : Piece → List Char
  | .member name value stop =>
      if endsSecret name then
        inQuotes name ++ ([':'] ++ (jsonSecretRe.mark ++ (leak value ++ [stop])))
      else Piece.text (.member name value stop)
  | piece => piece.text

theorem nameChar_stop {stop : Char} (isStop : IsStop stop) : isNameChar stop = false := by
  unfold IsStop at isStop
  simp only [List.mem_cons, List.not_mem_nil, or_false] at isStop
  rcases isStop with rfl | rfl | rfl <;> decide

/-- A whole string that passes. -/
theorem sub_string (isContent : Content content)
    (opening : ∀ c rest, later = c :: rest → isNameChar c = false)
    (silent : endsSecret content = true → ¬ Colon later) (previous : Option Char) :
    jsonSecretRe.subFrom 0 previous (inQuotes content ++ later) =
      inQuotes content ++ jsonSecretRe.subFrom 0 (some '"') later := by
  have first := find_string isContent
    (fun secret => silent (endsSecret_iff.mpr ⟨[], content, rfl, secret⟩)) previous
  rw [inQuotes_append, inQuotes_append, Substitution.subFrom_none first]
  congr 1
  refine sub_silent isContent opening (fun front last split secret => ?_) _
  exact silent (endsSecret_iff.mpr ⟨'"' :: front, last, by rw [split]; rfl, secret⟩)

/-- A string value and the character behind it pass. -/
theorem sub_item {stop : Char} (isContent : Content content)
    (isStop : IsStop stop) (previous : Option Char) :
    jsonSecretRe.subFrom 0 previous (inQuotes content ++ ([stop] ++ later)) =
      inQuotes content ++ ([stop] ++ jsonSecretRe.subFrom 0 (some stop) later) := by
  have opening (c : Char) (rest : List Char) (same : [stop] ++ later = c :: rest) :
      isNameChar c = false := (List.cons.inj same).1 ▸ nameChar_stop isStop
  rw [sub_string isContent opening (fun _ => not_colon_of_stop isStop later)]
  congr 1
  exact subFrom_other isStop.gap.quote _ _

end

theorem sub_found {last value rest : List Char} (secret : isSecretName last = true)
    (unquoted : '"' ∉ value) (previous : Option Char) :
    jsonSecretRe.subFrom 0 previous ('"' :: (last ++ '"' :: ':' :: '"' :: (value ++ '"' :: rest))) =
      '"' :: (last ++ '"' :: ':' :: (jsonSecretRe.mark ++
        jsonSecretRe.subFrom 0 (some '"') rest)) := by
  have found := find_secret secret unquoted previous rest
  have shape : last ++ '"' :: ':' :: '"' :: (value ++ '"' :: rest) =
      last ++ '"' :: ':' :: '"' :: (value ++ ['"']) ++ rest := by
    simp only [List.append_assoc, List.cons_append, List.nil_append]
  rw [shape] at found ⊢
  rw [Substitution.subFrom_some (by simp only [List.cons_append, List.append_assoc,
    List.nil_append]) found]
  have ends : ('"' :: (last ++ '"' :: ':' :: '"' :: (value ++ ['"']))).getLast? = some '"' := by
    have shape' : '"' :: (last ++ '"' :: ':' :: '"' :: (value ++ ['"'])) =
        '"' :: (last ++ '"' :: ':' :: '"' :: value) ++ ['"'] := by
      simp only [List.cons_append, List.append_assoc]
    rw [shape', List.getLast?_concat]
  rw [ends]
  simp only [List.cons_append, List.append_assoc, List.nil_append]

/-- The value of a secret member is hidden up to its first quote. -/
theorem sub_value {last value later : List Char} {stop : Char}
    (secret : isSecretName last = true) (isContent : Content value) (isStop : IsStop stop)
    (previous : Option Char) :
    jsonSecretRe.subFrom 0 previous
        ('"' :: (last ++ '"' :: ':' :: (inQuotes value ++ ([stop] ++ later)))) =
      '"' :: (last ++ '"' :: ':' :: (jsonSecretRe.mark ++ (leak value ++ ([stop] ++
        jsonSecretRe.subFrom 0 (some stop) later)))) := by
  have behind : jsonSecretRe.subFrom 0 (some '"') ([stop] ++ later) =
      [stop] ++ jsonSecretRe.subFrom 0 (some stop) later := subFrom_other isStop.gap.quote _ _
  rw [inQuotes_append]
  rcases quote_split value with ⟨unquoted, leaked⟩ | ⟨front, tail, rfl, unquoted, leaked⟩
  · rw [sub_found secret unquoted, behind, leaked, List.nil_append]
  · have isTail : Content tail := isContent.behind rfl (by decide)
    have opening (c : Char) (rest : List Char) (same : [stop] ++ later = c :: rest) :
        isNameChar c = false := (List.cons.inj same).1 ▸ nameChar_stop isStop
    have silent := sub_silent isTail opening
      (fun _ _ _ _ => not_colon_of_stop isStop later) (some '"')
    rw [List.append_assoc, List.cons_append, sub_found secret unquoted, silent, behind, leaked,
      List.append_assoc]
    rfl

theorem sub_piece {piece : Piece} (proper : piece.Proper) (later : List Char)
    (previous : Option Char) :
    ∃ next, jsonSecretRe.subFrom 0 previous (piece.text ++ later) =
      piece.hidden ++ jsonSecretRe.subFrom 0 next later := by
  cases piece with
  | gap c => exact ⟨some c, subFrom_other proper.quote _ _⟩
  | item content stop =>
      refine ⟨some stop, ?_⟩
      rw [Piece.text, List.append_assoc, sub_item proper.1 proper.2.1]
      exact (List.append_assoc ..).symm
  | key content start =>
      have opening (c : Char) (rest : List Char) (same : [':'] ++ [start] ++ later = c :: rest) :
          isNameChar c = false := by
        rw [← (List.cons.inj same).1]
        decide
      have behind : jsonSecretRe.subFrom 0 (some '"') ([':'] ++ [start] ++ later) =
          [':'] ++ [start] ++ jsonSecretRe.subFrom 0 (some start) later :=
        (subFrom_other (by decide) _ _).trans
          (congrArg (List.cons ':') (subFrom_other proper.2.quote _ _))
      refine ⟨some start, ?_⟩
      rw [Piece.text, List.append_assoc, sub_string proper.1 opening
        (fun _ => not_colon_of_start proper.2 later), behind]
      exact (List.append_assoc ..).symm
  | member name value stop =>
      obtain ⟨isName, isValue, isStop⟩ := proper
      refine ⟨some stop, ?_⟩
      rw [Piece.hidden, Piece.text, List.append_assoc, List.append_assoc, List.append_assoc]
      split
      · next ends =>
          obtain ⟨front, last, split, secret⟩ := endsSecret_iff.mp ends
          have hidden := @sub_value last value later stop secret isValue isStop
          simp only [List.append_assoc]
          rw [inQuotes_append name, inQuotes_append name]
          cases front with
          | nil =>
              obtain rfl : name = last := (List.cons.inj split).2
              exact hidden previous
          | cons quote front =>
              obtain rfl : name = front ++ '"' :: last := (List.cons.inj split).2
              have noName : isSecretName (front ++ '"' :: last) = true →
                  ¬ Colon ([':'] ++ (inQuotes value ++ ([stop] ++ later))) := fun named =>
                absurd (List.mem_append_right _ List.mem_cons_self) (secret_unquoted named)
              obtain ⟨next, passes⟩ := sub_front
                ([':'] ++ (inQuotes value ++ ([stop] ++ later))) isName (some '"')
              rw [Substitution.subFrom_none (find_string isName noName previous),
                List.append_assoc, List.cons_append, passes]
              refine congrArg (List.cons '"') ?_
              rw [List.append_assoc]
              exact congrArg (front ++ ·) (hidden next)
      · next silent =>
          have opening (c : Char) (rest : List Char)
              (same : [':'] ++ (inQuotes value ++ ([stop] ++ later)) = c :: rest) :
              isNameChar c = false := by
            rw [← (List.cons.inj same).1]
            decide
          have behind : jsonSecretRe.subFrom 0 (some '"')
              ([':'] ++ (inQuotes value ++ ([stop] ++ later))) =
                [':'] ++ (inQuotes value ++ ([stop] ++
                  jsonSecretRe.subFrom 0 (some stop) later)) :=
            (subFrom_other (by decide) _ _).trans
              (congrArg (List.cons ':') (sub_item isValue isStop _))
          rw [sub_string isName opening (fun ends => absurd ends silent), behind]
          simp only [List.append_assoc]

/-- On a row of pieces the pattern hides the values of the members one by one. -/
theorem sub_hidden {pieces : List Piece} (proper : ∀ piece ∈ pieces, piece.Proper)
    (previous : Option Char) :
    jsonSecretRe.subFrom 0 previous (render pieces) = pieces.flatMap Piece.hidden := by
  induction pieces generalizing previous with
  | nil => exact Substitution.subFrom_nil _ _
  | cons piece rest ih =>
      have ⟨head, tail⟩ := List.forall_mem_cons.mp proper
      obtain ⟨next, step⟩ := sub_piece head (render rest) previous
      rw [render, List.flatMap_cons, List.flatMap_cons, ← ih tail next]
      exact step

end EgoAgent.Gateway
