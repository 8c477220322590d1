import EgoAgent.Lib.Codec
import EgoAgent.Rxp.Canonical

/-!
Constrained text of RXP/1 documents: patterns, bounded free text and UTC
timestamps.

Identifiers are ASCII and timestamps hold decimal digits, so normalisation
leaves both alone.  Free text is bounded before normalisation only.
-/

namespace EgoAgent.Rxp

open Platform

/-! ### Patterns -/

/-- A character class, as the ranges a pattern lists between brackets. -/
abbrev CharRanges := List (Char × Char)

def inRanges (ranges : CharRanges) (c : Char) : Bool :=
  ranges.any fun range => range.1.toNat ≤ c.toNat && c.toNat ≤ range.2.toNat

structure Pattern where
  head : CharRanges
  tail : CharRanges
  tailMin : Nat
  tailMax : Nat
  ascii : ∀ range ∈ head ++ tail, range.2.toNat < 128

/-- `^[head][tail]{tailMin,tailMax}$` -/
def Pattern.accepts (pattern : Pattern) (text : String) : Bool :=
  match text.toList with
  | [] => false
  | first :: rest =>
      inRanges pattern.head first && decide (pattern.tailMin ≤ rest.length) &&
        decide (rest.length ≤ pattern.tailMax) && rest.all (inRanges pattern.tail)

abbrev Matched (pattern : Pattern) := {text : String // pattern.accepts text = true}

private theorem inRanges_ascii {ranges : CharRanges} (ascii : ∀ range ∈ ranges, range.2.toNat < 128)
    {c : Char} (inside : inRanges ranges c = true) : c.toNat < 128 := by
  rw [inRanges, List.any_eq_true] at inside
  obtain ⟨range, present, bounds⟩ := inside
  have upper := ascii range present
  simp only [Bool.and_eq_true, decide_eq_true_eq] at bounds
  omega

theorem Matched.ascii {pattern : Pattern} (text : Matched pattern) : isAscii text.val := by
  intro c present
  have accepted := text.property
  unfold Pattern.accepts at accepted
  cases chars : text.val.toList with
  | nil => rw [chars] at present; cases present
  | cons first rest =>
      rw [chars] at accepted present
      simp only [Bool.and_eq_true, List.all_eq_true] at accepted
      obtain ⟨⟨⟨headInside, _⟩, _⟩, tailInside⟩ := accepted
      rcases List.mem_cons.mp present with rfl | later
      · exact inRanges_ascii (fun range listed =>
          pattern.ascii range (List.mem_append_left _ listed)) headInside
      · exact inRanges_ascii (fun range listed =>
          pattern.ascii range (List.mem_append_right _ listed)) (tailInside c later)

private def upper : Char × Char := ('A', 'Z')
private def lower : Char × Char := ('a', 'z')
private def digits : Char × Char := ('0', '9')
private def only (c : Char) : Char × Char := (c, c)

/-- `ID_PATTERN` -/
def idPattern : Pattern where
  head := [upper, lower, digits]
  tail := [upper, lower, digits, only '.', only '_', only ':', only '/', only '-']
  tailMin := 0
  tailMax := 159
  ascii := by decide

def axisNamePattern : Pattern where
  head := [upper, lower]
  tail := [upper, lower, digits, only '_', only '.', only '-']
  tailMin := 0
  tailMax := 63
  ascii := by decide

def gitCommitPattern : Pattern where
  head := [digits, ('a', 'f')]
  tail := [digits, ('a', 'f')]
  tailMin := 6
  tailMax := 63
  ascii := by decide

/-- The pattern of nonces and approval token identifiers. -/
def noncePattern : Pattern where
  head := [upper, lower, digits, only '_', only '-']
  tail := [upper, lower, digits, only '_', only '-']
  tailMin := 15
  tailMax := 127
  ascii := by decide

def rationaleCodePattern : Pattern where
  head := [upper]
  tail := [upper, digits, only '_']
  tailMin := 1
  tailMax := 63
  ascii := by decide

abbrev Ident := Matched idPattern

instance : LawfulBEq Ident := inferInstance

/-! ### Timestamps -/

variable [Platform]

def isDecimal (c : Char) : Bool := (unicode.decimal c).isSome

/-- `UTC_PATTERN`, whose digits are any Unicode decimal digits. -/
def utcShape : List (Option Char) :=
  [none, none, none, none, some '-', none, none, some '-', none, none, some 'T',
    none, none, some ':', none, none, some ':', none, none, some 'Z']

def matchesShape : List (Option Char) → List Char → Bool
  | [], [] => true
  | none :: shape, c :: rest => isDecimal c && matchesShape shape rest
  | some wanted :: shape, c :: rest => wanted == c && matchesShape shape rest
  | _, _ => false

def isUtc (text : String) : Prop := matchesShape utcShape text.toList = true

instance : DecidablePred isUtc := fun text => by unfold isUtc; infer_instance

def Utc := {text : String // isUtc text}

instance : DecidableEq Utc := inferInstanceAs (DecidableEq {text : String // isUtc text})

private theorem matchesShape_plain (shape : List (Option Char))
    (ascii : ∀ slot ∈ shape, ∀ c ∈ slot, c.toNat < 128) (chars : List Char)
    (accepted : matchesShape shape chars = true) :
    ∀ c ∈ chars, c.toNat < 128 ∨ (unicode.decimal c).isSome = true := by
  induction shape generalizing chars with
  | nil =>
      cases chars with
      | nil => simp
      | cons => cases accepted
  | cons slot shape ih =>
      have shapeAscii : ∀ slot ∈ shape, ∀ c ∈ slot, c.toNat < 128 :=
        fun slot present => ascii slot (List.mem_cons_of_mem _ present)
      cases chars with
      | nil => cases slot <;> cases accepted
      | cons first rest =>
          cases slot with
          | none =>
              simp only [matchesShape, Bool.and_eq_true] at accepted
              intro c present
              rcases List.mem_cons.mp present with rfl | later
              · exact .inr accepted.1
              · exact ih shapeAscii rest accepted.2 c later
          | some wanted =>
              simp only [matchesShape, Bool.and_eq_true, beq_iff_eq] at accepted
              intro c present
              rcases List.mem_cons.mp present with rfl | later
              · rw [← accepted.1]
                exact .inl (ascii _ List.mem_cons_self wanted rfl)
              · exact ih shapeAscii rest accepted.2 c later

theorem Utc.nfc (instant : Utc) : unicode.nfc instant.val = instant.val :=
  unicode.nfc_plain _ (matchesShape_plain utcShape (by simp [utcShape]) _ instant.property)

/-- One directive of a time format: its alternatives in the order they are
tried, each a sequence of character classes. -/
abbrev Directive := List (List (Char → Bool))

private def among (low high : Char) (c : Char) : Bool :=
  low.toNat ≤ c.toNat && c.toNat ≤ high.toNat

private def exactly (wanted c : Char) : Bool := wanted == c

/-- Literal letters of a format match either case. -/
private def letter (capital small c : Char) : Bool := capital == c || small == c

def yearDirective : Directive := [[isDecimal, isDecimal, isDecimal, isDecimal]]

def monthDirective : Directive :=
  [[exactly '1', among '0' '2'], [exactly '0', among '1' '9'], [among '1' '9']]

def dayDirective : Directive :=
  [[exactly '3', among '0' '1'], [among '1' '2', isDecimal], [exactly '0', among '1' '9'],
    [among '1' '9'], [exactly ' ', among '1' '9']]

def hourDirective : Directive :=
  [[exactly '2', among '0' '3'], [among '0' '1', isDecimal], [isDecimal]]

def minuteDirective : Directive := [[among '0' '5', isDecimal], [isDecimal]]

def secondDirective : Directive :=
  [[exactly '6', among '0' '1'], [among '0' '5', isDecimal], [isDecimal]]

/-- `%Y-%m-%dT%H:%M:%SZ` -/
def timeFormat : List Directive :=
  [yearDirective, [[exactly '-']], monthDirective, [[exactly '-']], dayDirective,
    [[letter 'T' 't']], hourDirective, [[exactly ':']], minuteDirective, [[exactly ':']],
    secondDirective, [[letter 'Z' 'z']]]

def startsWith : List (Char → Bool) → List Char → Bool
  | [], _ => true
  | _ :: _, [] => false
  | accepts :: classes, c :: rest => accepts c && startsWith classes rest

/-- The first way, alternatives in order, in which the directives match a
prefix; with the matched groups and what is left. -/
def matchFormat : List Directive → List Char → Option (List (List Char) × List Char)
  | [], chars => some ([], chars)
  | directive :: format, chars =>
      directive.findSome? fun classes =>
        if startsWith classes chars then
          (matchFormat format (chars.drop classes.length)).map fun found =>
            (chars.take classes.length :: found.1, found.2)
        else none

def decimalValue (chars : List Char) : Nat :=
  (chars.filterMap unicode.decimal).foldl (fun total digit => total * 10 + digit) 0

def isLeapYear (year : Nat) : Bool :=
  year % 4 == 0 && (year % 100 != 0 || year % 400 == 0)

def daysInMonth (year month : Nat) : Nat :=
  match month with
  | 2 => if isLeapYear year then 29 else 28
  | 4 | 6 | 9 | 11 => 30
  | _ => 31

def daysBeforeYear (year : Nat) : Nat :=
  (year - 1) * 365 + (year - 1) / 4 - (year - 1) / 100 + (year - 1) / 400

def daysBeforeMonth (year month : Nat) : Nat :=
  ((List.range (month - 1)).map fun earlier => daysInMonth year (earlier + 1)).sum

/-- Seconds since the first instant of year 1, for a date that exists. -/
def secondsOf (year month day hour minute second : Nat) : Option Nat :=
  if 1 ≤ year ∧ 1 ≤ month ∧ month ≤ 12 ∧ 1 ≤ day ∧ day ≤ daysInMonth year month ∧
      hour < 24 ∧ minute < 60 ∧ second < 60 then
    some ((((daysBeforeYear year + daysBeforeMonth year month + (day - 1)) * 24 + hour) * 60
      + minute) * 60 + second)
  else none

def timestampInvalid : PyError :=
  rxpError "timestamp_invalid" "Expected an RFC 3339 UTC second timestamp"

/-- The instant a timestamp denotes, in seconds; leap seconds and dates that do
not exist are refused. -/
def parseUtc (text : String) : Except PyError Nat :=
  match matchFormat timeFormat text.toList with
  | some ([year, _, month, _, day, _, hour, _, minute, _, second, _], []) =>
      expect timestampInvalid
        (secondsOf (decimalValue year) (decimalValue month) (decimalValue day)
          (decimalValue hour) (decimalValue minute) (decimalValue second))
  | _ => .error timestampInvalid

end EgoAgent.Rxp
