import Mathlib

/-!
Regular expressions over lists of characters, read by backtracking, and the substitution of the
matches of one in a text.

A repetition is of one character class, and an assertion looks at the character before.  What an
expression reads does not depend on what follows; only which of its readings comes first does, and
not as long as the first one stays inside of the text.
-/

namespace EgoAgent

/-! ### Expressions -/

inductive Regex where
  | empty
  | one (accepts : Char → Bool)
  | many (accepts : Char → Bool)
  /-- The lazy repetition. -/
  | fewest (accepts : Char → Bool)
  | seq (first second : Regex)
  | either (first second : Regex)
  /-- An assertion on the character before, `none` at the start of the text. -/
  | after (holds : Option Char → Bool)

/-- The ways to read characters of a class, the longest first. -/
def runs (accepts : Char → Bool) : List Char → List (List Char × List Char)
  | [] => [([], [])]
  | c :: rest =>
      (if accepts c then (runs accepts rest).map fun run => (c :: run.1, run.2) else []) ++
        [([], c :: rest)]

namespace Regex

/-- What an expression can read at the front of a text and what is left of it, in the order in
which a backtracking matcher tries. -/
def ends : Regex → Option Char → List Char → List (List Char × List Char)
  | .empty, _, text => [([], text)]
  | .one accepts, _, c :: rest => if accepts c then [([c], rest)] else []
  | .one _, _, [] => []
  | .many accepts, _, text => runs accepts text
  | .fewest accepts, _, text => (runs accepts text).reverse
  | .seq first second, previous, text =>
      (first.ends previous text).flatMap fun front =>
        (second.ends (front.1.getLast?.or previous) front.2).map fun back =>
          (front.1 ++ back.1, back.2)
  | .either first second, previous, text => first.ends previous text ++ second.ends previous text
  | .after holds, previous, text => if holds previous then [([], text)] else []

/-- Which texts an expression reads. -/
def Reads : Regex → Option Char → List Char → Prop
  | .empty, _, text => text = []
  | .one accepts, _, text => ∃ c, accepts c = true ∧ text = [c]
  | .many accepts, _, text => ∀ c ∈ text, accepts c = true
  | .fewest accepts, _, text => ∀ c ∈ text, accepts c = true
  | .seq first second, previous, text =>
      ∃ front back, text = front ++ back ∧ first.Reads previous front ∧
        second.Reads (front.getLast?.or previous) back
  | .either first second, previous, text => first.Reads previous text ∨ second.Reads previous text
  | .after holds, previous, text => holds previous = true ∧ text = []

/-- Every class of the expression accepts only characters with the property. -/
def Only (property : Char → Prop) : Regex → Prop
  | .one accepts | .many accepts | .fewest accepts => ∀ c, accepts c = true → property c
  | .seq first second | .either first second => first.Only property ∧ second.Only property
  | .empty | .after _ => True

theorem mem_runs {accepts : Char → Bool} {text front rest : List Char} :
    (front, rest) ∈ runs accepts text ↔ text = front ++ rest ∧ ∀ c ∈ front, accepts c = true := by
  induction text generalizing front with
  | nil =>
      rw [runs, List.mem_singleton, Prod.mk.injEq]
      constructor
      · rintro ⟨rfl, rfl⟩
        exact ⟨rfl, fun _ member => nomatch member⟩
      · rintro ⟨split, -⟩
        exact List.append_eq_nil_iff.mp split.symm
  | cons c text ih =>
      rw [runs, List.mem_append, List.mem_singleton, Prod.mk.injEq]
      constructor
      · rintro (longer | ⟨rfl, rfl⟩)
        · split at longer
          · next accepted =>
              obtain ⟨⟨run, left⟩, member, same⟩ := List.mem_map.mp longer
              obtain ⟨rfl, rfl⟩ := Prod.mk.inj same
              obtain ⟨rfl, all⟩ := ih.mp member
              exact ⟨rfl, List.forall_mem_cons.mpr ⟨accepted, all⟩⟩
          · exact nomatch longer
        · exact ⟨rfl, fun _ member => nomatch member⟩
      · rintro ⟨split, all⟩
        cases front with
        | nil => exact .inr ⟨rfl, split.symm⟩
        | cons first front =>
            obtain ⟨rfl, rfl⟩ := List.cons.inj split
            have ⟨accepted, rest⟩ := List.forall_mem_cons.mp all
            refine .inl ?_
            rw [if_pos accepted]
            exact List.mem_map.mpr ⟨_, ih.mpr ⟨rfl, rest⟩, rfl⟩

section

variable {previous : Option Char}

variable {regex : Regex}

theorem mem_ends {text front rest : List Char} :
    (front, rest) ∈ regex.ends previous text ↔
      text = front ++ rest ∧ regex.Reads previous front := by
  induction regex generalizing previous text front rest with
  | empty =>
      rw [ends, List.mem_singleton, Prod.mk.injEq, Reads]
      constructor
      · rintro ⟨rfl, rfl⟩
        exact ⟨rfl, rfl⟩
      · rintro ⟨rfl, rfl⟩
        exact ⟨rfl, rfl⟩
  | one accepts =>
      rw [Reads]
      cases text with
      | nil =>
          constructor
          · intro member
            exact nomatch member
          · rintro ⟨split, c, -, rfl⟩
            exact nomatch split
      | cons c text =>
          rw [ends]
          constructor
          · intro member
            split at member
            · next accepted =>
                obtain ⟨rfl, rfl⟩ := Prod.mk.inj (List.mem_singleton.mp member)
                exact ⟨rfl, c, accepted, rfl⟩
            · exact nomatch member
          · rintro ⟨split, c', accepted, rfl⟩
            obtain ⟨rfl, rfl⟩ := List.cons.inj split
            rw [if_pos accepted]
            exact List.mem_singleton_self _
  | many accepts => exact mem_runs
  | fewest accepts => exact List.mem_reverse.trans mem_runs
  | seq first second ihFirst ihSecond =>
      rw [ends, List.mem_flatMap, Reads]
      constructor
      · rintro ⟨⟨start, left⟩, member, later⟩
        obtain ⟨⟨stop, end'⟩, member', same⟩ := List.mem_map.mp later
        obtain ⟨rfl, rfl⟩ := Prod.mk.inj same
        obtain ⟨rfl, reads⟩ := ihFirst.mp member
        obtain ⟨split, reads'⟩ := ihSecond.mp member'
        obtain rfl : left = stop ++ end' := split
        exact ⟨(List.append_assoc ..).symm, start, stop, rfl, reads, reads'⟩
      · rintro ⟨rfl, start, stop, rfl, reads, reads'⟩
        refine ⟨(start, stop ++ rest), ihFirst.mpr ⟨List.append_assoc .., reads⟩, ?_⟩
        exact List.mem_map.mpr ⟨(stop, rest), ihSecond.mpr ⟨rfl, reads'⟩, rfl⟩
  | either first second ihFirst ihSecond =>
      rw [ends, List.mem_append, ihFirst, ihSecond, Reads, and_or_left]
  | after holds =>
      rw [ends, Reads]
      constructor
      · intro member
        split at member
        · next held =>
            obtain ⟨rfl, rfl⟩ := Prod.mk.inj (List.mem_singleton.mp member)
            exact ⟨rfl, held, rfl⟩
        · exact nomatch member
      · rintro ⟨rfl, held, rfl⟩
        rw [if_pos held]
        exact List.mem_singleton_self _

theorem Only.reads {property : Char → Prop} (only : regex.Only property)
    {text : List Char} (reads : regex.Reads previous text) :
    ∀ c ∈ text, property c := by
  induction regex generalizing previous text with
  | empty => exact reads ▸ fun _ member => nomatch member
  | one accepts =>
      obtain ⟨c, accepted, rfl⟩ := reads
      exact fun _ member => List.mem_singleton.mp member ▸ only c accepted
  | many accepts => exact fun c member => only c (reads c member)
  | fewest accepts => exact fun c member => only c (reads c member)
  | seq first second ihFirst ihSecond =>
      obtain ⟨front, back, rfl, reads, reads'⟩ := reads
      intro c member
      rcases List.mem_append.mp member with before | behind
      · exact ihFirst only.1 reads c before
      · exact ihSecond only.2 reads' c behind
  | either first second ihFirst ihSecond =>
      rcases reads with reads | reads
      · exact ihFirst only.1 reads
      · exact ihSecond only.2 reads
  | after holds => exact reads.2 ▸ fun _ member => nomatch member

/-- An expression without assertions. -/
def Unanchored : Regex → Prop
  | .seq first second | .either first second => first.Unanchored ∧ second.Unanchored
  | .after _ => False
  | .empty | .one _ | .many _ | .fewest _ => True

theorem Unanchored.reads (unanchored : regex.Unanchored)
    {text : List Char} (reads : regex.Reads previous text)
    (other : Option Char) : regex.Reads other text := by
  induction regex generalizing previous text other with
  | empty | one | many | fewest => exact reads
  | seq first second ihFirst ihSecond =>
      obtain ⟨front, back, rfl, reads, reads'⟩ := reads
      exact ⟨front, back, rfl, ihFirst unanchored.1 reads _, ihSecond unanchored.2 reads' _⟩
  | either first second ihFirst ihSecond =>
      exact reads.imp (fun reads => ihFirst unanchored.1 reads _)
        fun reads => ihSecond unanchored.2 reads _
  | after holds => exact unanchored.elim

/-- The expression that reads one word, up to `same`. -/
def word (same : Char → Char → Bool) : List Char → Regex
  | [] => .empty
  | c :: rest => .seq (.one (same c)) (word same rest)

theorem word_unanchored (same : Char → Char → Bool) (letters : List Char) :
    (word same letters).Unanchored := by
  induction letters with
  | nil => trivial
  | cons letter letters ih => exact ⟨trivial, ih⟩

theorem word_reads {same : Char → Char → Bool} {letters text : List Char}
    (reads : (word same letters).Reads previous text) :
    List.Forall₂ (fun letter c => same letter c = true) letters text := by
  induction letters generalizing previous text with
  | nil =>
      obtain rfl : text = [] := reads
      exact .nil
  | cons letter letters ih =>
      obtain ⟨front, back, rfl, ⟨c, accepted, rfl⟩, reads⟩ := reads
      exact .cons accepted (ih reads)

theorem exact_reads {letters text : List Char}
    (reads : (word (fun letter c => decide (letter = c)) letters).Reads previous text) :
    text = letters := by
  have same := word_reads reads
  clear reads
  induction same with
  | nil => rfl
  | cons head _ ih => rw [of_decide_eq_true head, ih]

end

/-! ### What follows the text -/

theorem flatMap_filter {α β : Type} (keep : α → Bool) {image : α → List β} (items : List α)
    (dropped : ∀ item ∈ items, keep item = false → image item = []) :
    (items.filter keep).flatMap image = items.flatMap image := by
  induction items with
  | nil => rfl
  | cons item items ih =>
      have ⟨head, tail⟩ := List.forall_mem_cons.mp dropped
      cases kept : keep item with
      | true => rw [List.filter_cons_of_pos kept, List.flatMap_cons, List.flatMap_cons, ih tail]
      | false =>
          rw [List.filter_cons_of_neg (by rw [kept]; exact Bool.false_ne_true), List.flatMap_cons,
            head kept, ih tail, List.nil_append]

theorem runs_append (accepts : Char → Bool) (text later : List Char) :
    ((runs accepts (text ++ later)).filter fun run => decide (run.1.length ≤ text.length)) =
      (runs accepts text).map fun run => (run.1, run.2 ++ later) := by
  induction text with
  | nil =>
      cases later with
      | nil => rfl
      | cons c later =>
          have long : ((runs accepts later).map fun run => (c :: run.1, run.2)).filter
              (fun run => decide (run.1.length ≤ 0)) = [] := by
            rw [List.filter_eq_nil_iff]
            intro run member
            obtain ⟨run, -, rfl⟩ := List.mem_map.mp member
            exact Bool.false_ne_true
          rw [List.nil_append, runs, runs, List.filter_append, List.length_nil]
          split
          · rw [long]
            rfl
          · rfl
  | cons c text ih =>
      rw [List.cons_append, runs, runs, List.filter_append, List.map_append]
      congr 1
      split
      · rw [List.filter_map, List.map_map]
        simp only [Function.comp_def, List.length_cons, Nat.add_le_add_iff_right]
        rw [ih, List.map_map]
        rfl
      · rfl

theorem ends_append (regex : Regex) (previous : Option Char) (text later : List Char) :
    ((regex.ends previous (text ++ later)).filter
      fun reading => decide (reading.1.length ≤ text.length)) =
      (regex.ends previous text).map fun reading => (reading.1, reading.2 ++ later) := by
  induction regex generalizing previous text with
  | empty => rfl
  | one accepts =>
      cases text with
      | nil =>
          cases later with
          | nil => rfl
          | cons c later =>
              rw [List.nil_append, ends, ends]
              split <;> rfl
      | cons c text =>
          rw [List.cons_append, ends, ends]
          split
          · rfl
          · rfl
  | many accepts => exact runs_append accepts text later
  | fewest accepts =>
      rw [ends, ends, List.filter_reverse, runs_append, List.map_reverse]
  | seq first second ihFirst ihSecond =>
      rw [ends, ends, List.filter_flatMap,
        ← flatMap_filter (fun front => decide (front.1.length ≤ text.length)), ihFirst,
        List.flatMap_map, List.map_flatMap]
      · refine List.flatMap_congr fun front member => ?_
        obtain ⟨front, rest⟩ := front
        obtain ⟨rfl, -⟩ := mem_ends.mp member
        rw [List.filter_map, List.map_map]
        have bound (back : List Char × List Char) :
            decide ((front ++ back.1).length ≤ (front ++ rest).length) =
              decide (back.1.length ≤ rest.length) := by
          rw [List.length_append, List.length_append, decide_eq_decide]
          omega
        simp only [Function.comp_def, bound]
        rw [ihSecond, List.map_map]
        rfl
      · intro front _ long
        rw [List.filter_eq_nil_iff]
        intro reading member
        obtain ⟨back, -, rfl⟩ := List.mem_map.mp member
        have beyond := of_decide_eq_false long
        simp only [List.length_append, decide_eq_true_eq]
        omega
  | either first second ihFirst ihSecond =>
      rw [ends, ends, List.filter_append, ihFirst, ihSecond, List.map_append]
  | after holds =>
      rw [ends, ends]
      split
      · rfl
      · rfl

end Regex

/-! ### Substitution -/

/-- The substitution of `mark` for what `body` reads after `lead`, which is kept. -/
structure Substitution where
  lead : Regex
  body : Regex
  mark : List Char

namespace Substitution

variable (rule : Substitution)

/-- The match at the front of a text: what is kept of it and what is replaced. -/
def find (previous : Option Char) (text : List Char) : Option (List Char × List Char) :=
  ((rule.lead.ends previous text).flatMap fun front =>
    (rule.body.ends (front.1.getLast?.or previous) front.2).map fun back =>
      (front.1, back.1)).head?

/-- Goes through a text from left to right; `skip` characters of it belong to the last match. -/
def subFrom : Nat → Option Char → List Char → List Char
  | _, _, [] => []
  | skip + 1, _, c :: rest => subFrom skip (some c) rest
  | 0, previous, c :: rest =>
      match rule.find previous (c :: rest) with
      | some (kept, replaced) =>
          kept ++ (rule.mark ++ subFrom (kept.length + replaced.length - 1) (some c) rest)
      | none => c :: subFrom 0 (some c) rest

/-- `re.sub`, for expressions that do not read the empty text. -/
def sub (text : List Char) : List Char := rule.subFrom 0 none text

/-- The matches that are replaced, each with what is kept of it. -/
def foundFrom : Nat → Option Char → List Char → List (List Char)
  | _, _, [] => []
  | skip + 1, _, c :: rest => foundFrom skip (some c) rest
  | 0, previous, c :: rest =>
      match rule.find previous (c :: rest) with
      | some (kept, replaced) =>
          (kept ++ replaced) :: foundFrom (kept.length + replaced.length - 1) (some c) rest
      | none => foundFrom 0 (some c) rest

def found (text : List Char) : List (List Char) := rule.foundFrom 0 none text

variable {rule}

section

variable {previous : Option Char}

theorem mem_readings {text kept replaced : List Char} :
    (kept, replaced) ∈ ((rule.lead.ends previous text).flatMap fun front =>
        (rule.body.ends (front.1.getLast?.or previous) front.2).map fun back =>
          (front.1, back.1)) ↔
      ∃ rest, text = kept ++ (replaced ++ rest) ∧ rule.lead.Reads previous kept ∧
        rule.body.Reads (kept.getLast?.or previous) replaced := by
  rw [List.mem_flatMap]
  constructor
  · rintro ⟨⟨front, left⟩, member, later⟩
    obtain ⟨⟨back, rest⟩, member', same⟩ := List.mem_map.mp later
    obtain ⟨rfl, rfl⟩ := Prod.mk.inj same
    obtain ⟨rfl, reads⟩ := Regex.mem_ends.mp member
    obtain ⟨split, reads'⟩ := Regex.mem_ends.mp member'
    obtain rfl : left = back ++ rest := split
    exact ⟨rest, rfl, reads, reads'⟩
  · rintro ⟨rest, rfl, reads, reads'⟩
    exact ⟨(kept, replaced ++ rest), Regex.mem_ends.mpr ⟨rfl, reads⟩,
      List.mem_map.mpr ⟨(replaced, rest), Regex.mem_ends.mpr ⟨rfl, reads'⟩, rfl⟩⟩

theorem find_some {text kept replaced : List Char}
    (found : rule.find previous text = some (kept, replaced)) :
    ∃ rest, text = kept ++ (replaced ++ rest) ∧ rule.lead.Reads previous kept ∧
      rule.body.Reads (kept.getLast?.or previous) replaced :=
  mem_readings.mp (List.mem_of_head? found)

variable {text : List Char}

theorem find_eq_none (unread : ∀ kept replaced rest, text = kept ++ (replaced ++ rest) →
      rule.lead.Reads previous kept → ¬ rule.body.Reads (kept.getLast?.or previous) replaced) :
    rule.find previous text = none := by
  cases found : rule.find previous text with
  | none => rfl
  | some reading =>
      obtain ⟨rest, split, lead, body⟩ := find_some found
      exact absurd body (unread _ _ _ split lead)

/-- Where there is only one way to read, the match is that one. -/
theorem find_eq_some {previous : Option Char} {text kept replaced rest : List Char}
    (split : text = kept ++ (replaced ++ rest)) (lead : rule.lead.Reads previous kept)
    (body : rule.body.Reads (kept.getLast?.or previous) replaced)
    (unique : ∀ kept' replaced' rest', text = kept' ++ (replaced' ++ rest') →
      rule.lead.Reads previous kept' → rule.body.Reads (kept'.getLast?.or previous) replaced' →
        kept' = kept ∧ replaced' = replaced) :
    rule.find previous text = some (kept, replaced) := by
  have member := mem_readings.mpr ⟨rest, split, lead, body⟩
  cases found : rule.find previous text with
  | none =>
      rw [find, List.head?_eq_none_iff] at found
      rw [found] at member
      exact nomatch member
  | some reading =>
      obtain ⟨rest', split', lead', body'⟩ := find_some found
      obtain ⟨first, second⟩ := unique _ _ _ split' lead' body'
      rw [← first, ← second]

theorem find_bare {body : Regex} {mark : List Char} (previous : Option Char) (text : List Char) :
    (Substitution.mk .empty body mark).find previous text =
      (body.ends previous text).head?.map fun reading => ([], reading.1) := by
  rw [find, Regex.ends, List.flatMap_singleton, List.head?_map]
  rfl

/-- A match that stays inside of a text is the one found in the text alone. -/
theorem find_append (bare : rule.lead = .empty) {text later : List Char}
    (stays : ∀ kept replaced, rule.find previous (text ++ later) = some (kept, replaced) →
      replaced.length ≤ text.length) :
    rule.find previous (text ++ later) = rule.find previous text := by
  obtain ⟨lead, body, mark⟩ := rule
  obtain rfl : lead = .empty := bare
  rw [find_bare] at stays ⊢
  rw [find_bare]
  have within := body.ends_append previous text later
  cases listed : body.ends previous (text ++ later) with
  | nil =>
      rw [listed, List.filter_nil, eq_comm, List.map_eq_nil_iff] at within
      rw [within]
  | cons first others =>
      rw [listed] at stays within
      have short := stays [] first.1 rfl
      rw [List.filter_cons_of_pos (by exact decide_eq_true short)] at within
      obtain ⟨reading, others', listed', same, -⟩ := List.map_eq_cons_iff.mp within.symm
      rw [listed', List.head?_cons, List.head?_cons, Option.map_some, Option.map_some, ← same]

theorem subFrom_nil (skip : Nat) (previous : Option Char) :
    rule.subFrom skip previous [] = [] := by
  cases skip <;> rfl

theorem foundFrom_nil (skip : Nat) (previous : Option Char) :
    rule.foundFrom skip previous [] = [] := by
  cases skip <;> rfl

theorem subFrom_skip (previous : Option Char) (front rest : List Char) :
    rule.subFrom front.length previous (front ++ rest) =
      rule.subFrom 0 (front.getLast?.or previous) rest := by
  induction front generalizing previous with
  | nil => rfl
  | cons c front ih =>
      rw [List.length_cons, List.cons_append, subFrom, ih, List.getLast?_cons]
      cases front.getLast? <;> rfl

theorem foundFrom_skip (previous : Option Char) (front rest : List Char) :
    rule.foundFrom front.length previous (front ++ rest) =
      rule.foundFrom 0 (front.getLast?.or previous) rest := by
  induction front generalizing previous with
  | nil => rfl
  | cons c front ih =>
      rw [List.length_cons, List.cons_append, foundFrom, ih, List.getLast?_cons]
      cases front.getLast? <;> rfl

variable {c : Char}

theorem subFrom_none {rest : List Char} (missing : rule.find previous (c :: rest) = none) :
    rule.subFrom 0 previous (c :: rest) = c :: rule.subFrom 0 (some c) rest := by
  rw [subFrom, missing]

theorem foundFrom_none {rest : List Char} (missing : rule.find previous (c :: rest) = none) :
    rule.foundFrom 0 previous (c :: rest) = rule.foundFrom 0 (some c) rest := by
  rw [foundFrom, missing]

variable {front rest kept replaced : List Char}

theorem subFrom_some (whole : kept ++ replaced = c :: front)
    (found : rule.find previous (c :: (front ++ rest)) = some (kept, replaced)) :
    rule.subFrom 0 previous (c :: (front ++ rest)) =
      kept ++ (rule.mark ++ rule.subFrom 0 ((c :: front).getLast?) rest) := by
  have size : kept.length + replaced.length - 1 = front.length := by
    rw [← List.length_append, whole, List.length_cons, Nat.add_sub_cancel]
  rw [subFrom, found]
  dsimp only
  rw [size, subFrom_skip, List.getLast?_cons]
  cases front.getLast? <;> rfl

theorem foundFrom_some (whole : kept ++ replaced = c :: front)
    (found : rule.find previous (c :: (front ++ rest)) = some (kept, replaced)) :
    rule.foundFrom 0 previous (c :: (front ++ rest)) =
      (c :: front) :: rule.foundFrom 0 ((c :: front).getLast?) rest := by
  have size : kept.length + replaced.length - 1 = front.length := by
    rw [← List.length_append, whole, List.length_cons, Nat.add_sub_cancel]
  rw [foundFrom, found]
  dsimp only
  rw [size, foundFrom_skip, List.getLast?_cons, whole]
  cases front.getLast? <;> rfl

/-- What a substitution leaves comes from the text or from the mark. -/
theorem mem_subFrom {skip : Nat}
    (member : c ∈ rule.subFrom skip previous text) : c ∈ text ∨ c ∈ rule.mark := by
  induction text generalizing skip previous with
  | nil =>
      rw [subFrom_nil] at member
      exact nomatch member
  | cons first rest ih =>
      have behind {skip : Nat} {previous : Option Char}
          (member : c ∈ rule.subFrom skip previous rest) : c ∈ first :: rest ∨ c ∈ rule.mark :=
        (ih member).imp_left (List.mem_cons_of_mem first)
      cases skip with
      | succ skip => exact behind member
      | zero =>
          cases found : rule.find previous (first :: rest) with
          | none =>
              rw [subFrom_none found] at member
              rcases List.mem_cons.mp member with rfl | later
              · exact .inl List.mem_cons_self
              · exact behind later
          | some reading =>
              obtain ⟨kept, replaced⟩ := reading
              obtain ⟨left, split, -⟩ := find_some found
              rw [subFrom, found] at member
              rcases List.mem_append.mp member with inKept | later
              · exact .inl (split ▸ List.mem_append_left _ inKept)
              · rcases List.mem_append.mp later with inMark | later
                · exact .inr inMark
                · exact behind later

theorem subFrom_of_unfound
    (unfound : rule.foundFrom 0 previous text = []) : rule.subFrom 0 previous text = text := by
  induction text generalizing previous with
  | nil => exact subFrom_nil 0 previous
  | cons c rest ih =>
      cases found : rule.find previous (c :: rest) with
      | none =>
          rw [foundFrom_none found] at unfound
          rw [subFrom_none found, ih unfound]
      | some reading =>
          rw [foundFrom, found] at unfound
          exact nomatch unfound

theorem mem_foundFrom {text whole : List Char} {skip : Nat}
    (member : whole ∈ rule.foundFrom skip previous text) :
    ∃ before kept replaced, whole = kept ++ replaced ∧ rule.lead.Reads before kept ∧
      rule.body.Reads (kept.getLast?.or before) replaced := by
  induction text generalizing skip previous with
  | nil =>
      rw [foundFrom_nil] at member
      exact nomatch member
  | cons c rest ih =>
      cases skip with
      | succ skip => exact ih member
      | zero =>
          cases found : rule.find previous (c :: rest) with
          | none =>
              rw [foundFrom_none found] at member
              exact ih member
          | some reading =>
              rw [foundFrom, found] at member
              rcases List.mem_cons.mp member with rfl | later
              · obtain ⟨_, _, lead, body⟩ := find_some found
                exact ⟨previous, _, _, rfl, lead, body⟩
              · exact ih later

end

end Substitution

end EgoAgent
