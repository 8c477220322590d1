import EgoAgent.Gateway.Redaction

/-!
What the patterns do to JSON text.

The text of a document is a row of pieces: strings with the character behind them, members whose
value is a string, and what stands between the strings.  A substitution that stays inside of the
strings changes their contents one by one; the pattern for secret members then hides the values of
the members it takes for secret, each up to its first double quote.
-/

namespace EgoAgent.Gateway

open EgoAgent.Api EgoAgent.Bridge

/-! ### The contents of strings -/

structure Plain (c : Char) : Prop where
  quote : c ≠ '"'
  backslash : c ≠ '\\'
  newline : c ≠ '\n'

/-- What stands between the quotes of a JSON string. -/
inductive Content : List Char → Prop
  | nil : Content []
  | plain {c : Char} {rest : List Char} : Plain c → Content rest → Content (c :: rest)
  | escape {c : Char} {rest : List Char} :
      c ≠ '\n' → Content rest → Content ('\\' :: c :: rest)

/-- Whether a text that begins inside of a JSON string reaches the end of the string. -/
def closes : Bool → List Char → Bool
  | _, [] => false
  | true, _ :: rest => closes false rest
  | false, c :: rest => if c = '\\' then closes true rest else c = '"' || closes false rest

def leavesString (text : List Char) : Bool := closes false text

theorem closes_of_unquoted {text : List Char} (unquoted : '"' ∉ text) (escaped : Bool) :
    closes escaped text = false := by
  induction text generalizing escaped with
  | nil => cases escaped <;> rfl
  | cons c rest ih =>
      have head := List.ne_of_not_mem_cons unquoted
      have tail := List.not_mem_of_not_mem_cons unquoted
      cases escaped with
      | true => exact ih tail false
      | false =>
          rw [closes, ih tail, ih tail, decide_eq_false (Ne.symm head)]
          split <;> rfl

theorem Content.leaves {text : List Char} (content : Content text) (rest : List Char) :
    leavesString (text ++ '"' :: rest) = true := by
  unfold leavesString
  induction content with
  | nil => rfl
  | plain isPlain _ ih =>
      rw [List.cons_append, closes, if_neg isPlain.backslash, ih, Bool.or_true]
  | escape _ _ ih => exact ih

theorem Content.append {front back : List Char} (first : Content front) (second : Content back) :
    Content (front ++ back) := by
  induction first with
  | nil => exact second
  | plain isPlain _ ih => exact .plain isPlain ih
  | escape noNewline _ ih => exact .escape noNewline ih

theorem Content.of_plain {text : List Char} (all : ∀ c ∈ text, Plain c) : Content text := by
  induction text with
  | nil => exact .nil
  | cons c rest ih =>
      have ⟨head, tail⟩ := List.forall_mem_cons.mp all
      exact .plain head (ih tail)

/-- Behind a character that is no backslash the contents go on. -/
theorem Content.behind {text front back : List Char} {c : Char} (content : Content text)
    (split : text = front ++ c :: back) (noBackslash : c ≠ '\\') : Content back := by
  induction content generalizing front with
  | nil => exact absurd split.symm (by simp)
  | plain isPlain rest ih =>
      cases front with
      | nil => exact (List.cons.inj split).2 ▸ rest
      | cons first front => exact ih (List.cons.inj split).2
  | escape noNewline rest ih =>
      match front with
      | [] => exact absurd (List.cons.inj split).1.symm noBackslash
      | [_] => exact (List.cons.inj (List.cons.inj split).2).2 ▸ rest
      | _ :: _ :: front => exact ih (List.cons.inj (List.cons.inj split).2).2

theorem Content.noNewline {text : List Char} (content : Content text) : '\n' ∉ text := by
  induction content with
  | nil => exact fun member => nomatch member
  | plain isPlain _ ih =>
      exact List.not_mem_cons_of_ne_of_not_mem isPlain.newline.symm ih
  | escape noNewline _ ih =>
      exact List.not_mem_cons_of_ne_of_not_mem (by decide)
        (List.not_mem_cons_of_ne_of_not_mem noNewline.symm ih)

/-- A closing quote ends the contents in one way only. -/
theorem Content.unique {first second rest rest' : List Char} (content : Content first)
    (content' : Content second) (same : first ++ '"' :: rest = second ++ '"' :: rest') :
    first = second ∧ rest = rest' := by
  induction content generalizing second with
  | nil =>
      cases content' with
      | nil => exact ⟨rfl, (List.cons.inj same).2⟩
      | plain isPlain _ => exact absurd (List.cons.inj same).1.symm isPlain.quote
      | escape _ _ => exact absurd (List.cons.inj same).1 (by decide)
  | plain isPlain _ ih =>
      cases content' with
      | nil => exact absurd (List.cons.inj same).1 isPlain.quote
      | plain _ later =>
          obtain ⟨rfl, rest⟩ := List.cons.inj same
          obtain ⟨rfl, ends⟩ := ih later rest
          exact ⟨rfl, ends⟩
      | escape _ _ => exact absurd (List.cons.inj same).1 isPlain.backslash
  | escape _ _ ih =>
      cases content' with
      | nil => exact absurd (List.cons.inj same).1 (by decide)
      | plain isPlain _ => exact absurd (List.cons.inj same).1.symm isPlain.backslash
      | escape _ later =>
          obtain ⟨rfl, rest⟩ := List.cons.inj (List.cons.inj same).2
          obtain ⟨rfl, ends⟩ := ih later rest
          exact ⟨rfl, ends⟩

/-! ### Substitutions inside of strings -/

/-- The facts about a substitution that let it act on the contents of strings one by one. -/
structure Inner (rule : Substitution) : Prop where
  bare : rule.lead = .empty
  starts : ∀ {previous text}, rule.body.Reads previous text →
    ∃ c rest, text = c :: rest ∧ Plain c
  stops : ∀ {previous text}, rule.body.Reads previous text →
    ∃ front c, text = front ++ [c] ∧ c ≠ '\\'
  spaced : ∀ {previous text}, rule.body.Reads previous text →
    ∃ front c back, text = front ++ c :: back ∧ '"' ∉ front ∧ isSpace c = true
  mark : ∀ c ∈ rule.mark, Plain c
  marked : rule.mark ≠ []

/-- The contents of a string after a substitution, and what is left of the text. -/
structure Handled (rule : Substitution) (previous : Option Char) (text later : List Char) :
    Prop where
  sub : rule.subFrom 0 previous (text ++ '"' :: later) =
    rule.subFrom 0 previous text ++ '"' :: rule.subFrom 0 (some '"') later
  found : ∀ whole ∈ rule.foundFrom 0 (some '"') later,
    whole ∈ rule.foundFrom 0 previous (text ++ '"' :: later)

namespace Inner

variable {rule : Substitution} (inner : Inner rule)

include inner

section

variable {previous : Option Char}

theorem find_some {text kept replaced : List Char}
    (found : rule.find previous text = some (kept, replaced)) :
    kept = [] ∧ ∃ rest, text = replaced ++ rest ∧ rule.body.Reads previous replaced := by
  obtain ⟨rest, split, lead, body⟩ := Substitution.find_some found
  rw [inner.bare] at lead
  obtain rfl : kept = [] := lead
  exact ⟨rfl, rest, split, body⟩

theorem find_unplain {c : Char} (unplain : ¬ Plain c) (previous : Option Char)
    (rest : List Char) : rule.find previous (c :: rest) = none := by
  cases found : rule.find previous (c :: rest) with
  | none => rfl
  | some reading =>
      obtain ⟨kept, replaced⟩ := reading
      obtain ⟨-, later, split, reads⟩ := inner.find_some found
      obtain ⟨first, others, rfl, isPlain⟩ := inner.starts reads
      exact absurd ((List.cons.inj split).1 ▸ isPlain) unplain

theorem find_quote (previous : Option Char) (rest : List Char) :
    rule.find previous ('"' :: rest) = none :=
  inner.find_unplain (fun isPlain => isPlain.quote rfl) previous rest

/-- One step inside of a string, from a character at which a match may begin. -/
theorem advance {c : Char} {rest later : List Char} (isPlain : Plain c) (content : Content rest)
    (inside : ∀ whole ∈ rule.foundFrom 0 previous (c :: rest ++ '"' :: later),
      leavesString whole = false)
    (shorter : ∀ text, text.length ≤ rest.length → Content text → ∀ previous,
      (∀ whole ∈ rule.foundFrom 0 previous (text ++ '"' :: later), leavesString whole = false) →
        Handled rule previous text later ∧ Content (rule.subFrom 0 previous text)) :
    Handled rule previous (c :: rest) later ∧ ∃ first others,
      rule.subFrom 0 previous (c :: rest) = first :: others ∧ Plain first ∧ Content others := by
  rw [List.cons_append] at inside
  cases found : rule.find previous (c :: (rest ++ '"' :: later)) with
  | none =>
      have alone : rule.find previous (c :: rest) = none := by
        rw [← found, ← List.cons_append]
        refine (Substitution.find_append inner.bare fun kept replaced hit => ?_).symm
        rw [List.cons_append, found] at hit
        cases hit
      rw [Substitution.foundFrom_none found] at inside
      obtain ⟨after, isContent⟩ := shorter rest le_rfl content (some c) inside
      refine ⟨⟨?_, ?_⟩, c, _, Substitution.subFrom_none alone, isPlain, isContent⟩
      · rw [List.cons_append, Substitution.subFrom_none found, Substitution.subFrom_none alone,
          after.sub, List.cons_append]
      · rw [List.cons_append, Substitution.foundFrom_none found]
        exact after.found
  | some reading =>
      obtain ⟨kept, replaced⟩ := reading
      obtain ⟨rfl, left, split, reads⟩ := inner.find_some found
      obtain ⟨first, front, rfl, -⟩ := inner.starts reads
      obtain ⟨rfl, tails⟩ : c = first ∧ rest ++ '"' :: later = front ++ left :=
        List.cons.inj split
      clear split
      -- the match ends inside of the string
      obtain ⟨text, rfl, rfl⟩ : ∃ text, rest = front ++ text ∧ left = text ++ '"' :: later := by
        rcases List.append_eq_append_iff.mp tails with
          ⟨text, longer, rest'⟩ | ⟨text, shorter, rest'⟩
        · cases text with
          | nil => exact ⟨[], by rw [longer, List.append_nil, List.append_nil], rest'.symm⟩
          | cons quote text =>
              obtain ⟨rfl, -⟩ := List.cons.inj rest'
              have crossing : leavesString (c :: front) = true := by
                rw [longer, ← List.cons_append]
                exact (Content.plain isPlain content).leaves text
              have stays := inside (c :: front) (by
                rw [Substitution.foundFrom, found]
                exact List.mem_cons_self)
              rw [crossing] at stays
              cases stays
        · exact ⟨text, shorter, rest'⟩
      have whole : ([] : List Char) ++ c :: front = c :: front := rfl
      have alone : rule.find previous (c :: (front ++ text)) = some ([], c :: front) := by
        rw [← found, ← List.cons_append, ← List.cons_append]
        refine (Substitution.find_append inner.bare fun kept replaced hit => ?_).symm
        rw [List.cons_append, List.cons_append, found] at hit
        obtain ⟨-, rfl⟩ := Prod.mk.inj (Option.some.inj hit)
        rw [List.length_append]
        omega
      rw [List.append_assoc] at found inside
      rw [Substitution.foundFrom_some whole found] at inside
      obtain ⟨start, last, stop, noBackslash⟩ := inner.stops reads
      have ends : c :: (front ++ text) = start ++ last :: text := by
        rw [← List.cons_append, stop, List.append_assoc]
        rfl
      have contentText : Content text := (Content.plain isPlain content).behind ends noBackslash
      obtain ⟨after, isContent⟩ := shorter text (by rw [List.length_append]; omega) contentText
        ((c :: front).getLast?) fun whole member => inside whole (List.mem_cons_of_mem _ member)
      obtain ⟨first, others, marked⟩ := List.exists_cons_of_ne_nil inner.marked
      have plain := inner.mark
      rw [marked] at plain
      obtain ⟨head, tail⟩ := List.forall_mem_cons.mp plain
      refine ⟨⟨?_, ?_⟩, first, _, ?_, head,
        (Content.of_plain tail).append isContent⟩
      · rw [List.cons_append, List.append_assoc, Substitution.subFrom_some whole found,
          Substitution.subFrom_some whole alone, after.sub, List.nil_append, List.nil_append,
          List.append_assoc]
      · rw [List.cons_append, List.append_assoc, Substitution.foundFrom_some whole found]
        exact fun whole member => List.mem_cons_of_mem _ (after.found whole member)
      · rw [Substitution.subFrom_some whole alone, marked, List.nil_append, List.cons_append]

theorem unplain {c : Char} {rest later : List Char}
    (unplain : ¬ Plain c) (after : Handled rule (some c) rest later) :
    Handled rule previous (c :: rest) later := by
  have found := inner.find_unplain unplain previous
  refine ⟨?_, ?_⟩
  · rw [List.cons_append, Substitution.subFrom_none (found _),
      Substitution.subFrom_none (found _), after.sub, List.cons_append]
  · rw [List.cons_append, Substitution.foundFrom_none (found _)]
    exact after.found

end

theorem content {text : List Char} (isContent : Content text) (later : List Char)
    (previous : Option Char)
    (inside : ∀ whole ∈ rule.foundFrom 0 previous (text ++ '"' :: later),
      leavesString whole = false) :
    Handled rule previous text later ∧ Content (rule.subFrom 0 previous text) := by
  induction size : text.length using Nat.strong_induction_on generalizing text previous with
  | h size ih =>
      subst size
      cases isContent with
      | nil =>
          refine ⟨⟨?_, ?_⟩, ?_⟩
          · rw [List.nil_append, Substitution.subFrom_none (inner.find_quote _ _),
              Substitution.subFrom_nil, List.nil_append]
          · rw [List.nil_append, Substitution.foundFrom_none (inner.find_quote _ _)]
            exact fun _ member => member
          · rw [Substitution.subFrom_nil]
            exact .nil
      | plain isPlain rest =>
          obtain ⟨after, first, others, starts, plain, isContent⟩ := inner.advance isPlain rest
            inside fun text short isContent previous inside =>
              ih text.length (Nat.lt_succ_of_le short) isContent previous inside rfl
          exact ⟨after, starts ▸ .plain plain isContent⟩
      | @escape c rest noNewline isContent =>
          have backslash : ¬ Plain '\\' := fun isPlain => isPlain.backslash rfl
          have first (rest : List Char) := inner.find_unplain backslash previous rest
          rw [List.cons_append, Substitution.foundFrom_none (first _)] at inside
          by_cases isPlain : Plain c
          · -- an escaped letter may begin a match
            obtain ⟨after, start, others, starts, plain, isContent⟩ := inner.advance isPlain
              isContent inside fun text short isContent previous inside =>
                ih text.length (by rw [List.length_cons, List.length_cons]; omega) isContent
                  previous inside rfl
            refine ⟨inner.unplain backslash after, ?_⟩
            rw [Substitution.subFrom_none (first _), starts]
            exact .escape plain.newline isContent
          · have second (rest : List Char) := inner.find_unplain isPlain (some '\\') rest
            rw [List.cons_append, Substitution.foundFrom_none (second _)] at inside
            obtain ⟨after, isContent⟩ := ih rest.length
              (by rw [List.length_cons, List.length_cons]; omega) isContent (some c) inside rfl
            refine ⟨inner.unplain backslash (inner.unplain isPlain after), ?_⟩
            rw [Substitution.subFrom_none (first _), Substitution.subFrom_none (second _)]
            exact .escape noNewline isContent

end Inner

/-! ### Text without spaces before a quote -/

def Unspaced (text : List Char) : Prop :=
  ∀ front c back, text = front ++ c :: back → '"' ∉ front → isSpace c = false

theorem unspaced_nil : Unspaced [] := fun _ _ _ split => absurd split.symm (by simp)

theorem unspaced_quote (rest : List Char) : Unspaced ('"' :: rest) := by
  intro front c back split unquoted
  cases front with
  | nil => exact (List.cons.inj split).1 ▸ isSpace_quote
  | cons first front =>
      exact absurd List.mem_cons_self ((List.cons.inj split).1 ▸ unquoted)

theorem unspaced_cons {c : Char} {rest : List Char} (head : isSpace c = false)
    (tail : Unspaced rest) : Unspaced (c :: rest) := by
  intro front other back split unquoted
  cases front with
  | nil => exact (List.cons.inj split).1 ▸ head
  | cons first front =>
      exact tail front other back (List.cons.inj split).2 (List.not_mem_of_not_mem_cons unquoted)

namespace Inner

variable {rule : Substitution} (inner : Inner rule)

include inner

theorem find_unspaced {text : List Char} (unspaced : Unspaced text) (previous : Option Char) :
    rule.find previous text = none := by
  cases found : rule.find previous text with
  | none => rfl
  | some reading =>
      obtain ⟨kept, replaced⟩ := reading
      obtain ⟨-, rest, rfl, reads⟩ := inner.find_some found
      obtain ⟨front, c, back, rfl, unquoted, space⟩ := inner.spaced reads
      have none := unspaced front c (back ++ rest) (by rw [List.append_assoc]; rfl) unquoted
      rw [space] at none
      exact nomatch none

/-- Text without spaces passes as it is. -/
theorem sub_unspaced {text : List Char} (all : ∀ c ∈ text, isSpace c = false)
    (previous : Option Char) : rule.subFrom 0 previous text = text := by
  induction text generalizing previous with
  | nil => rfl
  | cons c rest ih =>
      have ⟨_, tail⟩ := List.forall_mem_cons.mp all
      have unspaced : Unspaced (c :: rest) := fun front other back split _ =>
        all other (split ▸ List.mem_append_right _ List.mem_cons_self)
      rw [Substitution.subFrom_none (inner.find_unspaced unspaced previous), ih tail]

end Inner

/-! ### Pieces -/

structure IsGap (c : Char) : Prop where
  quote : c ≠ '"'
  backslash : c ≠ '\\'
  space : isSpace c = false

def IsStop (c : Char) : Prop := c ∈ [',', ']', '}']

theorem IsStop.gap {c : Char} (stop : IsStop c) : IsGap c := by
  unfold IsStop at stop
  simp only [List.mem_cons, List.not_mem_nil, or_false] at stop
  rcases stop with rfl | rfl | rfl <;> exact ⟨by decide, by decide, by decide⟩

def inQuotes (content : List Char) : List Char := '"' :: (content ++ ['"'])

theorem inQuotes_append (content later : List Char) :
    inQuotes content ++ later = '"' :: (content ++ '"' :: later) := by
  rw [inQuotes, List.cons_append, List.append_assoc]
  rfl

/-- A piece of the text of a document. -/
inductive Piece where
  | gap (c : Char)
  /-- A string that is no key, with the character behind it. -/
  | item (content : List Char) (stop : Char)
  /-- The key of a value that is no string, with the first character of the value. -/
  | key (content : List Char) (start : Char)
  | member (name value : List Char) (stop : Char)

namespace Piece

def text : Piece → List Char
  | .gap c => [c]
  | .item content stop => inQuotes content ++ [stop]
  | .key content start => inQuotes content ++ ([':'] ++ [start])
  | .member name value stop => inQuotes name ++ ([':'] ++ (inQuotes value ++ [stop]))

def Proper : Piece → Prop
  | .gap c => IsGap c
  | .item content stop => Content content ∧ IsStop stop ∧ stop ≠ '}'
  | .key content start => Content content ∧ IsGap start
  | .member name value stop => Content name ∧ Content value ∧ IsStop stop

def map (change : List Char → List Char) : Piece → Piece
  | .gap c => .gap c
  | .item content stop => .item (change content) stop
  | .key content start => .key (change content) start
  | .member name value stop => .member (change name) (change value) stop

end Piece

def render (pieces : List Piece) : List Char := pieces.flatMap Piece.text

theorem unspaced_render {pieces : List Piece} (proper : ∀ piece ∈ pieces, piece.Proper) :
    Unspaced (render pieces) := by
  induction pieces with
  | nil => exact unspaced_nil
  | cons piece rest ih =>
      have ⟨head, tail⟩ := List.forall_mem_cons.mp proper
      cases piece with
      | gap c => exact unspaced_cons head.space (ih tail)
      | item content stop => exact unspaced_quote _
      | key content start => exact unspaced_quote _
      | member name value stop => exact unspaced_quote _

/-- What a substitution leaves of a text that goes on behind `chunk`. -/
structure Passes (rule : Substitution) (previous : Option Char) (chunk later changed : List Char)
    (next : Option Char) : Prop where
  sub : rule.subFrom 0 previous (chunk ++ later) = changed ++ rule.subFrom 0 next later
  found : ∀ whole ∈ rule.foundFrom 0 next later,
    whole ∈ rule.foundFrom 0 previous (chunk ++ later)

namespace Passes

variable {rule : Substitution} {previous between next : Option Char}

theorem trans {chunk other later changed changed' : List Char}
    (first : Passes rule previous chunk (other ++ later) changed between)
    (second : Passes rule between other later changed' next) :
    Passes rule previous (chunk ++ other) later (changed ++ changed') next := by
  refine ⟨?_, fun whole member => ?_⟩
  · rw [List.append_assoc, first.sub, second.sub, List.append_assoc]
  · rw [List.append_assoc]
    exact first.found whole (second.found whole member)

theorem of_none {c : Char} {later : List Char} (missing : rule.find previous (c :: later) = none) :
    Passes rule previous [c] later [c] (some c) :=
  ⟨Substitution.subFrom_none missing, fun _ member =>
    (Substitution.foundFrom_none missing).symm ▸ member⟩

end Passes

namespace Inner

variable {rule : Substitution} (inner : Inner rule)

include inner

theorem passes_gap {c : Char} {later : List Char} (gap : isSpace c = false)
    (unspaced : Unspaced later) (previous : Option Char) :
    Passes rule previous [c] later [c] (some c) :=
  .of_none (inner.find_unspaced (unspaced_cons gap unspaced) previous)

/-- A whole string with its quotes. -/
theorem passes_string {content later : List Char} (isContent : Content content)
    (previous : Option Char)
    (inside : ∀ whole ∈ rule.foundFrom 0 previous (inQuotes content ++ later),
      leavesString whole = false) :
    Passes rule previous (inQuotes content) later
        (inQuotes (rule.subFrom 0 (some '"') content)) (some '"') ∧
      Content (rule.subFrom 0 (some '"') content) := by
  have opened := inner.find_quote previous (content ++ '"' :: later)
  rw [inQuotes_append, Substitution.foundFrom_none opened] at inside
  obtain ⟨handled, changed⟩ := inner.content isContent later (some '"') inside
  refine ⟨⟨?_, fun found member => ?_⟩, changed⟩
  · rw [inQuotes_append, inQuotes_append, Substitution.subFrom_none opened, handled.sub]
  · rw [inQuotes_append, Substitution.foundFrom_none opened]
    exact handled.found found member

/-- One piece of a text: the contents of its strings change, the rest passes. -/
theorem passes_piece {piece : Piece} (proper : piece.Proper) {later : List Char}
    (unspaced : Unspaced later) (previous : Option Char)
    (inside : ∀ whole ∈ rule.foundFrom 0 previous (piece.text ++ later),
      leavesString whole = false) :
    (∃ next, Passes rule previous piece.text later
        (piece.map (rule.subFrom 0 (some '"'))).text next) ∧
      (piece.map (rule.subFrom 0 (some '"'))).Proper := by
  cases piece with
  | gap c => exact ⟨⟨_, inner.passes_gap proper.space unspaced previous⟩, proper⟩
  | item content stop =>
      obtain ⟨isContent, isStop, noBrace⟩ := proper
      rw [Piece.text, List.append_assoc] at inside
      obtain ⟨string, changed⟩ := inner.passes_string isContent previous inside
      have after := inner.passes_gap isStop.gap.space unspaced (some '"')
      exact ⟨⟨some stop, string.trans after⟩, changed, isStop, noBrace⟩
  | key content start =>
      obtain ⟨isContent, isStart⟩ := proper
      rw [Piece.text, List.append_assoc] at inside
      obtain ⟨string, changed⟩ := inner.passes_string isContent previous inside
      have colon := inner.passes_gap (c := ':') (by decide)
        (unspaced_cons isStart.space unspaced) (some '"')
      have after := inner.passes_gap isStart.space unspaced (some ':')
      exact ⟨⟨some start, string.trans (colon.trans after)⟩, changed, isStart⟩
  | member name value stop =>
      obtain ⟨isName, isValue, isStop⟩ := proper
      rw [Piece.text, List.append_assoc] at inside
      obtain ⟨first, changed⟩ := inner.passes_string isName previous inside
      have quote : Unspaced (inQuotes value ++ [stop] ++ later) := unspaced_quote _
      have colon := inner.passes_gap (c := ':') (by decide) quote (some '"')
      have inside' : ∀ found ∈ rule.foundFrom 0 (some ':') (inQuotes value ++ ([stop] ++ later)),
          leavesString found = false := by
        rw [← List.append_assoc]
        exact fun found member => inside found (first.found found (colon.found found member))
      obtain ⟨second, changed'⟩ := inner.passes_string isValue (some ':') inside'
      have after := inner.passes_gap isStop.gap.space unspaced (some '"')
      exact ⟨⟨some stop, first.trans (colon.trans (second.trans after))⟩, changed, changed',
        isStop⟩

theorem sub_render {pieces : List Piece} (proper : ∀ piece ∈ pieces, piece.Proper)
    (previous : Option Char)
    (inside : ∀ whole ∈ rule.foundFrom 0 previous (render pieces), leavesString whole = false) :
    rule.subFrom 0 previous (render pieces) =
        render (pieces.map (Piece.map (rule.subFrom 0 (some '"')))) ∧
      ∀ piece ∈ pieces.map (Piece.map (rule.subFrom 0 (some '"'))), piece.Proper := by
  induction pieces generalizing previous with
  | nil => exact ⟨Substitution.subFrom_nil _ _, fun _ member => nomatch member⟩
  | cons piece rest ih =>
      have ⟨head, tail⟩ := List.forall_mem_cons.mp proper
      obtain ⟨⟨next, passes⟩, changed⟩ := inner.passes_piece head (unspaced_render tail) previous
        inside
      obtain ⟨text, later⟩ := ih tail next fun whole member =>
        inside whole (passes.found whole member)
      refine ⟨?_, List.forall_mem_cons.mpr ⟨changed, later⟩⟩
      have step := passes.sub
      rw [text] at step
      exact step

end Inner

end EgoAgent.Gateway
