import EgoAgent.Gateway.SecretFields

/-!
What the redaction of a document tells about its secret fields.

Of an assigned value the redacted text holds what stands behind its first double quote, and nothing
else.  Two assignments have the same redacted text exactly if their values agree from their first
double quotes on, as long as no private-key block leaves its string.
-/

namespace EgoAgent.Gateway

open EgoAgent.Api EgoAgent.Bridge

variable {φ : Type} [FloatText φ] {chosen : List Step → Bool}

/-- The text of a document under an assignment. -/
def serialised (chosen : List Step → Bool) (values : List Step → String) (document : Json φ) :
    List Char :=
  canonicalJson (assign chosen values false [] document)

omit [FloatText φ] in
theorem isCompound_sorted {document : Json φ} (compound : IsCompound document) :
    IsCompound document.sorted := by
  cases document with
  | list items => trivial
  | dict members => trivial
  | _ => exact compound.elim

theorem serialised_framed (numerals : ∀ number : φ, ∀ c ∈ FloatText.repr number, IsGap c)
    (chosen : List Step → Bool) {document : Json φ} (compound : IsCompound document) :
    ∃ bracket slots, (bracket = '{' ∨ bracket = '[') ∧ Sound slots ∧
      (∀ values, serialised chosen values document = bracket :: render (filled values slots)) ∧
      ∀ field, (∃ name stop, .secret name field stop ∈ slots) ↔
        field ∈ secretFields false [] document ∧ chosen field = true := by
  have compoundFramed : CompoundFramed chosen document.sorted :=
    framed_compound numerals document.sorted
  obtain ⟨bracket, slots, isBracket, framed⟩ :=
    compoundFramed [] [] sound_nil (isCompound_sorted compound)
  refine ⟨bracket, slots, isBracket, (sound_fixed.mp (framed false).sound).2, fun values => ?_,
    fun field => ⟨?_, ?_⟩⟩
  · rw [serialised, canonicalJson, sorted_assign, ← render_gap, ← (framed false).text values]
    exact (List.append_nil _).symm
  · rintro ⟨name, stop, listed⟩
    rcases (framed false).only name field stop (secret_mem_fixed.mpr listed) with found | behind
    · exact ⟨(mem_secretFields_sorted ..).mp found.1, found.2⟩
    · exact nomatch behind
  · rintro ⟨member, picked⟩
    obtain ⟨name, stop, listed⟩ := (framed false).covers field
      ((mem_secretFields_sorted ..).mpr member) picked
    exact ⟨name, stop, secret_mem_fixed.mp listed⟩

/-! ### What is shown of a value -/

/-- What the redacted text holds of a value. -/
def remains (unicode : UnicodeText) (value : String) : List Char :=
  leak (cleaned unicode (escapedText value))

def shown (unicode : UnicodeText) (values : List Step → String) (slots : List Slot) : List Char :=
  ((filled values slots).map (Piece.map (cleaned unicode))).flatMap Piece.hidden

theorem isSpace_codes {c : Char} (space : isSpace c = true) :
    c.toNat ∈ List.range' 9 5 ++ List.range' 28 5 ++ List.range' 0x2000 11 ++
      [0x85, 0xa0, 0x1680, 0x2028, 0x2029, 0x202f, 0x205f, 0x3000] := by
  unfold isSpace at space
  simp only [List.mem_append, List.mem_range'_1]
  rcases of_decide_eq_true space with low | middle | high | listed
  · omega
  · omega
  · omega
  · exact .inr listed

theorem nameChar_space {c : Char} (isName : isNameChar c = true) : isSpace c = false := by
  have codes : ∀ n ∈ List.range' 9 5 ++ List.range' 28 5 ++ List.range' 0x2000 11 ++
      [0x85, 0xa0, 0x1680, 0x2028, 0x2029, 0x202f, 0x205f, 0x3000],
      isNameChar (Char.ofNat n) = false := by decide
  cases space : isSpace c with
  | false => rfl
  | true =>
      have none := codes c.toNat (isSpace_codes space)
      rw [Char.ofNat_toNat, isName] at none
      exact nomatch none

section

variable (unicode : UnicodeText)

theorem cleaned_secret {name : List Char}
    (secret : isSecretName name = true) : cleaned unicode name = name :=
  cleaned_unspaced unicode fun c member =>
    nameChar_space (secretName_chars ((isSecretName_iff none).mp secret) c member)

theorem shown_secret (values : List Step → String) {name : List Char}
    (secret : isSecretName name = true) (field : List Step) (stop : Char) (rest : List Slot) :
    shown unicode values (.secret name field stop :: rest) =
      inQuotes name ++
          ([':'] ++ (jsonSecretRe.mark ++ (remains unicode (values field) ++ [stop]))) ++
        shown unicode values rest := by
  have ends : endsSecret name = true := endsSecret_iff.mpr ⟨[], name, rfl, secret⟩
  have piece : ((Slot.secret name field stop).fill values).map (cleaned unicode) =
      .member name (cleaned unicode (escapedText (values field))) stop := by
    rw [Slot.fill, Piece.map, cleaned_secret unicode secret]
  rw [shown, filled, List.map_cons, List.map_cons, List.flatMap_cons, piece, Piece.hidden,
    if_pos ends]
  rfl

theorem leak_shape {value : List Char} (content : Content value) :
    leak value = [] ∨ ∃ tail, leak value = tail ++ ['"'] ∧ Content tail := by
  rcases quote_split value with ⟨-, none⟩ | ⟨front, tail, split, -, leaked⟩
  · exact .inl none
  · exact .inr ⟨tail, leaked, content.behind split (by decide)⟩

/-! ### Equal redacted texts -/

theorem gap_plain {c : Char} (isGap : IsGap c) : Plain c :=
  ⟨isGap.quote, isGap.backslash, fun same => by
    have space := isGap.space
    rw [same] at space
    exact absurd space (by decide)⟩

section

variable {slots : List Slot}

variable (unicode : UnicodeText)

/-- The first string behind a secret field, the same under every assignment. -/
theorem shown_apart (first second : List Step → String) {stop : Char}
    (isStop : IsStop stop) (proper : ∀ slot ∈ slots, slot.Proper)
    (changed : ∀ piece ∈ (filled first slots).map (Piece.map (cleaned unicode)), piece.Proper)
    (apart : Apart stop slots) :
    ∃ gaps, (∀ c ∈ gaps, Plain c) ∧
      (shown unicode first slots = gaps ∨ ∃ name other rest rest', Content name ∧ other ≠ stop ∧
        shown unicode first slots = gaps ++ '"' :: (name ++ '"' :: other :: rest) ∧
        shown unicode second slots = gaps ++ '"' :: (name ++ '"' :: other :: rest')) := by
  have colon : ':' ≠ stop := by
    rintro rfl
    exact absurd isStop (by unfold IsStop; decide)
  have string (name : List Char) (other : Char) (rest later : List Char) :
      inQuotes name ++ ([other] ++ rest) ++ later =
        [] ++ '"' :: (name ++ '"' :: other :: (rest ++ later)) := by
    rw [List.append_assoc, inQuotes_append]
    rfl
  induction slots with
  | nil => exact ⟨[], fun _ member => (nomatch member), .inl rfl⟩
  | cons slot rest ih =>
      have ⟨head, tail⟩ := List.forall_mem_cons.mp proper
      have ⟨isChanged, changed'⟩ := List.forall_mem_cons.mp changed
      cases slot with
      | secret name field stop' =>
          exact ⟨[], fun _ member => (nomatch member), .inr ⟨name, ':', _, _,
            secret_content head.1, colon,
            (shown_secret unicode first head.1 field stop' rest).trans (string ..),
            (shown_secret unicode second head.1 field stop' rest).trans (string ..)⟩⟩
      | fixed piece =>
          cases piece with
          | gap c =>
              obtain ⟨gaps, plain, shape⟩ := ih tail changed' apart
              refine ⟨c :: gaps, List.forall_mem_cons.mpr ⟨gap_plain head, plain⟩, ?_⟩
              rcases shape with same | ⟨name, other, later, later', content, noStop, left, right⟩
              · exact .inl (congrArg (List.cons c) same)
              · exact .inr ⟨name, other, later, later', content, noStop,
                  congrArg (List.cons c) left, congrArg (List.cons c) right⟩
          | item content other =>
              exact ⟨[], fun _ member => (nomatch member), .inr ⟨_, other, _, _, isChanged.1, apart,
                string _ other [] _, string _ other [] _⟩⟩
          | key content start =>
              exact ⟨[], fun _ member => (nomatch member), .inr ⟨_, ':', _, _, isChanged.1, colon,
                string _ ':' [start] _, string _ ':' [start] _⟩⟩
          | member name value other =>
              have hidden : ∃ later,
                  (Piece.map (cleaned unicode) (.member name value other)).hidden =
                    inQuotes (cleaned unicode name) ++ ([':'] ++ later) := by
                rw [Piece.map, Piece.hidden]
                split
                · exact ⟨_, rfl⟩
                · exact ⟨_, rfl⟩
              obtain ⟨later, hidden⟩ := hidden
              have whole (values : List Step → String) :
                  shown unicode values (.fixed (.member name value other) :: rest) =
                    inQuotes (cleaned unicode name) ++ ([':'] ++ later) ++
                      shown unicode values rest := by
                rw [← hidden]
                rfl
              exact ⟨[], fun _ member => (nomatch member), .inr ⟨cleaned unicode name, ':', _, _,
                isChanged.1, colon, (whole first).trans (string ..),
                (whole second).trans (string ..)⟩⟩

variable {first second : List Step → String}

/-- A value that leaves something does not look like one that leaves nothing. -/
theorem shown_clash {stop : Char} (isStop : IsStop stop) (proper : ∀ slot ∈ slots, slot.Proper)
    (changed : ∀ piece ∈ (filled first slots).map (Piece.map (cleaned unicode)), piece.Proper)
    (apart : Apart stop slots) {tail : List Char} (content : Content tail)
    (same : stop :: shown unicode first slots =
      tail ++ '"' :: stop :: shown unicode second slots) : False := by
  cases tail with
  | nil => exact isStop.gap.quote (List.cons.inj same).1
  | cons c tail =>
      obtain ⟨rfl, tails⟩ : stop = c ∧ shown unicode first slots =
          tail ++ '"' :: stop :: shown unicode second slots := List.cons.inj same
      have start : stop :: tail = [] ++ stop :: tail := rfl
      have inner : Content tail := content.behind start isStop.gap.backslash
      obtain ⟨gaps, plain, shape⟩ := shown_apart unicode first second isStop proper changed apart
      have gapContent : Content gaps := .of_plain plain
      rcases shape with noString | ⟨name, other, rest, rest', isName, noStop, left, right⟩
      · have quote : '"' ∈ gaps := by
          rw [← noString, tails]
          exact List.mem_append_right _ List.mem_cons_self
        exact (plain _ quote).quote rfl
      · rw [left] at tails
        obtain ⟨rfl, behind⟩ := gapContent.unique inner tails
        rw [right, ← List.cons_append] at behind
        obtain ⟨rfl, ends⟩ := isName.unique
          (Content.plain (gap_plain isStop.gap) gapContent) behind
        exact noStop (List.cons.inj ends).1

theorem remains_of_shown (sound : Sound slots)
    (changed : ∀ piece ∈ (filled first slots).map (Piece.map (cleaned unicode)), piece.Proper)
    (changed' : ∀ piece ∈ (filled second slots).map (Piece.map (cleaned unicode)), piece.Proper)
    (same : shown unicode first slots = shown unicode second slots) :
    ∀ name field stop, .secret name field stop ∈ slots →
      remains unicode (first field) = remains unicode (second field) := by
  induction slots with
  | nil => exact fun _ _ _ member => nomatch member
  | cons slot rest ih =>
      have ⟨head, tail⟩ := List.forall_mem_cons.mp sound.proper
      have ⟨isChanged, later⟩ := List.forall_mem_cons.mp changed
      have ⟨isChanged', later'⟩ := List.forall_mem_cons.mp changed'
      cases slot with
      | fixed piece =>
          intro name field stop member
          exact ih ⟨tail, sound.separated⟩ later later' (List.append_cancel_left same) name field
            stop (secret_mem_fixed.mp member)
      | secret name field stop =>
          obtain ⟨secret, isStop⟩ := head
          obtain ⟨apart, separated⟩ := sound.separated
          rw [shown_secret unicode first secret, shown_secret unicode second secret] at same
          simp only [List.append_assoc] at same
          have behind := List.append_cancel_left (List.append_cancel_left
            (List.append_cancel_left same))
          -- both leave the same, or one of them leaves nothing
          have both : remains unicode (first field) = remains unicode (second field) ∧
              shown unicode first rest = shown unicode second rest := by
            rcases leak_shape isChanged.2.1 with none | ⟨left, leaves, content⟩ <;>
              rcases leak_shape isChanged'.2.1 with none' | ⟨right, leaves', content'⟩
            · rw [remains, remains, none, none'] at behind ⊢
              exact ⟨rfl, (List.cons.inj behind).2⟩
            · rw [remains, remains, none, leaves', List.append_assoc] at behind
              exact (shown_clash unicode isStop tail later apart content' behind).elim
            · rw [remains, remains, leaves, none', List.append_assoc] at behind
              exact (shown_clash unicode isStop tail later' apart content behind.symm).elim
            · rw [remains, remains, leaves, leaves', List.append_assoc, List.append_assoc] at behind
              obtain ⟨rfl, ends⟩ := content.unique content' behind
              exact ⟨leaves.trans leaves'.symm, (List.cons.inj ends).2⟩
          intro name' field' stop' member
          rcases List.mem_cons.mp member with isFirst | inRest
          · obtain ⟨-, rfl, -⟩ := Slot.secret.inj isFirst
            exact both.1
          · exact ih ⟨tail, separated⟩ later later' both.2 name' field' stop' inRest

theorem shown_of_remains (proper : ∀ slot ∈ slots, slot.Proper)
    (same : ∀ name field stop, .secret name field stop ∈ slots →
      remains unicode (first field) = remains unicode (second field)) :
    shown unicode first slots = shown unicode second slots := by
  induction slots with
  | nil => rfl
  | cons slot rest ih =>
      have ⟨head, tail⟩ := List.forall_mem_cons.mp proper
      have behind := ih tail fun name field stop member =>
        same name field stop (List.mem_cons_of_mem _ member)
      cases slot with
      | fixed piece => exact congrArg (Piece.hidden (piece.map (cleaned unicode)) ++ ·) behind
      | secret name field stop =>
          rw [shown_secret unicode first head.1, shown_secret unicode second head.1, behind,
            same name field stop List.mem_cons_self]

/-! ### An unchanged text -/

theorem marker_content : Content redacted.toList :=
  .of_plain fun c member => by
    refine ⟨?_, ?_, ?_⟩ <;> rintro rfl <;> exact absurd member (by decide)

theorem marker_cleaned :
    cleaned unicode redacted.toList = redacted.toList := by
  have unspaced : (redacted.toList.all fun c => decide (isSpace c = false)) = true := by decide
  exact cleaned_unspaced unicode fun c member =>
    of_decide_eq_true (List.all_eq_true.mp unspaced c member)

theorem string_unique {first second rest rest' : List Char} (content : Content first)
    (content' : Content second) (same : inQuotes first ++ rest = inQuotes second ++ rest') :
    first = second ∧ rest = rest' := by
  rw [inQuotes_append, inQuotes_append] at same
  exact content.unique content' (List.cons.inj same).2

/-- A piece that looks like its redaction holds the marker where a value is hidden. -/
theorem hidden_unchanged {piece : Piece} (proper : piece.Proper)
    (changed : (piece.map (cleaned unicode)).Proper) {rest rest' : List Char}
    (same : (piece.map (cleaned unicode)).hidden ++ rest = piece.text ++ rest') :
    rest = rest' ∧ ∀ name value stop, piece = .member name value stop → endsSecret name = true →
      value = redacted.toList := by
  cases piece with
  | gap c => exact ⟨(List.cons.inj same).2, fun _ _ _ other => by cases other⟩
  | item content stop =>
      rw [Piece.map, Piece.hidden, Piece.text, Piece.text] at same
      · rw [List.append_assoc, List.append_assoc] at same
        obtain ⟨-, behind⟩ := string_unique changed.1 proper.1 same
        exact ⟨(List.cons.inj behind).2, fun _ _ _ other => by cases other⟩
      · exact fun _ _ _ other => by cases other
  | key content start =>
      rw [Piece.map, Piece.hidden, Piece.text, Piece.text] at same
      · simp only [List.append_assoc] at same
        obtain ⟨-, behind⟩ := string_unique changed.1 proper.1 same
        exact ⟨(List.cons.inj (List.cons.inj behind).2).2, fun _ _ _ other => by cases other⟩
      · exact fun _ _ _ other => by cases other
  | member name value stop =>
      rw [Piece.map, Piece.hidden] at same
      split at same
      · simp only [Piece.text, List.append_assoc] at same
        obtain ⟨-, behind⟩ := string_unique changed.1 proper.1 same
        have marked : inQuotes redacted.toList ++
            (leak (cleaned unicode value) ++ ([stop] ++ rest)) =
              inQuotes value ++ ([stop] ++ rest') := (List.cons.inj behind).2
        obtain ⟨rfl, ends⟩ := string_unique marker_content proper.2.1 marked
        rw [marker_cleaned, leak_unquoted (by decide)] at ends
        refine ⟨(List.cons.inj ends).2, fun _ _ _ isMember _ => ?_⟩
        exact (Piece.member.inj isMember).2.1.symm
      · next silent =>
          simp only [Piece.text, List.append_assoc] at same
          obtain ⟨names, behind⟩ := string_unique changed.1 proper.1 same
          have values : inQuotes (cleaned unicode value) ++ ([stop] ++ rest) =
              inQuotes value ++ ([stop] ++ rest') := (List.cons.inj behind).2
          obtain ⟨-, ends⟩ := string_unique changed.2.1 proper.2.1 values
          refine ⟨(List.cons.inj ends).2, fun name' _ _ isMember secret => ?_⟩
          rw [names, (Piece.member.inj isMember).1] at silent
          exact absurd secret silent

theorem marker_of_unchanged {values : List Step → String} (proper : ∀ slot ∈ slots, slot.Proper)
    (changed : ∀ piece ∈ (filled values slots).map (Piece.map (cleaned unicode)), piece.Proper)
    (same : shown unicode values slots = render (filled values slots)) :
    ∀ name field stop, .secret name field stop ∈ slots → values field = redacted := by
  induction slots with
  | nil => exact fun _ _ _ member => nomatch member
  | cons slot rest ih =>
      have ⟨head, tail⟩ := List.forall_mem_cons.mp proper
      have ⟨isChanged, later⟩ := List.forall_mem_cons.mp changed
      have isProper := Slot.Proper.filled proper values _ List.mem_cons_self
      obtain ⟨behind, hidden⟩ := hidden_unchanged unicode isProper isChanged same
      intro name field stop member
      rcases List.mem_cons.mp member with rfl | inRest
      · have ends : endsSecret name = true := endsSecret_iff.mpr ⟨[], name, rfl, head.1⟩
        have value := hidden _ _ _ rfl ends
        have marker : escapedText redacted = redacted.toList := by decide
        exact escapedText_injective (value.trans marker.symm)
      · exact ih tail later behind name field stop inRest

end

/-! ### What stands behind a quote -/

/-- A string from its first double quote on. -/
def fromQuote (text : String) : List Char := text.toList.dropWhile fun c => decide (c ≠ '"')

/-- Neither of the first two patterns matches in the text of the string. -/
def Unmatched (unicode : UnicodeText) (text : String) : Prop :=
  privateKeyRe.foundFrom 0 (some '"') (escapedText text) = [] ∧
    (bearerRe unicode).foundFrom 0 (some '"') (escapedText text) = []

instance (unicode : UnicodeText) (text : String) : Decidable (Unmatched unicode text) :=
  inferInstanceAs (Decidable (_ ∧ _))

theorem leak_escaped (text : String) :
    leak (escapedText text) =
      match fromQuote text with
      | [] => []
      | _ :: rest => rest.flatMap escapeChar ++ ['"'] := by
  unfold escapedText fromQuote
  induction text.toList with
  | nil => rfl
  | cons c rest ih =>
      by_cases quote : c = '"'
      · subst quote
        rfl
      · have passes : ∀ other ∈ escapeChar c, decide (other ≠ '"') = true :=
          unquoted_chars (escapeChar_unquoted quote)
        have skips : (c :: rest).dropWhile (fun c => decide (c ≠ '"')) =
            rest.dropWhile fun c => decide (c ≠ '"') := by
          rw [List.dropWhile_cons, if_pos]
          exact decide_eq_true quote
        rw [skips, ← ih, leak, leak, List.flatMap_cons, List.dropWhile_append_of_pos passes]

theorem flatMap_escapeChar_injective {first second : List Char}
    (same : first.flatMap escapeChar = second.flatMap escapeChar) : first = second := by
  have texts : escapedText (String.ofList first) = escapedText (String.ofList second) := by
    rw [escapedText, escapedText, String.toList_ofList, String.toList_ofList, same]
  have equal := congrArg String.toList (escapedText_injective texts)
  rwa [String.toList_ofList, String.toList_ofList] at equal

theorem leak_escaped_iff {first second : String} :
    leak (escapedText first) = leak (escapedText second) ↔ fromQuote first = fromQuote second := by
  have starts (text : String) : fromQuote text = [] ∨ ∃ rest, fromQuote text = '"' :: rest :=
    dropWhile_quote text.toList
  rw [leak_escaped, leak_escaped]
  rcases starts first with none | ⟨tail, left⟩ <;> rcases starts second with none' | ⟨tail', right⟩
  · rw [none, none']
  · rw [none, right]
    exact ⟨fun same => by simp at same, fun same => nomatch same⟩
  · rw [left, none']
    exact ⟨fun same => by simp at same, fun same => nomatch same⟩
  · rw [left, right]
    constructor
    · intro same
      rw [flatMap_escapeChar_injective (List.append_cancel_right same)]
    · intro same
      rw [(List.cons.inj same).2]

theorem remains_unmatched {unicode : UnicodeText} {text : String}
    (unmatched : Unmatched unicode text) : remains unicode text = leak (escapedText text) := by
  rw [remains, cleaned, Substitution.subFrom_of_unfound unmatched.1,
    Substitution.subFrom_of_unfound unmatched.2]

theorem remains_unquoted {text : String} (unquoted : '"' ∉ text.toList) :
    remains unicode text = [] :=
  leak_unquoted (cleaned_unquoted unicode (escapedText_unquoted unquoted))

/-! ### Secret fields -/

/-- The redacted text of a document does not tell two assignments apart, and it is the text itself
only if every assigned value is the marker. -/
structure Hides (unicode : UnicodeText) (document : Json φ) (chosen : List Step → Bool)
    (first second : List Step → String) : Prop where
  same : redactText unicode (serialised chosen first document) =
    redactText unicode (serialised chosen second document)
  marked : redactText unicode (serialised chosen first document) =
      serialised chosen first document →
    ∀ field ∈ secretFields false [] document, chosen field = true → first field = redacted

/-- The assigned values leave the same in the redacted text exactly if it hides them. -/
theorem hides_iff_remains (document : Json φ)
    (chosen : List Step → Bool) (first second : List Step → String)
    (numerals : ∀ number : φ, ∀ c ∈ FloatText.repr number, IsGap c)
    (keys : KeysInside (serialised chosen first document))
    (keys' : KeysInside (serialised chosen second document)) :
    Hides unicode document chosen first second ↔
      ∀ field ∈ secretFields false [] document, chosen field = true →
        remains unicode (first field) = remains unicode (second field) := by
  by_cases compound : IsCompound document
  · obtain ⟨bracket, slots, isBracket, sound, text, fields⟩ :=
      serialised_framed numerals chosen compound
    rw [text first] at keys
    rw [text second] at keys'
    obtain ⟨left, changed⟩ := redactText_render unicode isBracket
      (Slot.Proper.filled sound.proper first) keys
    obtain ⟨right, changed'⟩ := redactText_render unicode isBracket
      (Slot.Proper.filled sound.proper second) keys'
    constructor
    · intro hides field member picked
      have same := hides.same
      rw [text first, text second, left, right] at same
      obtain ⟨name, stop, listed⟩ := (fields field).mpr ⟨member, picked⟩
      exact remains_of_shown unicode sound changed changed' (List.cons.inj same).2 name field stop
        listed
    · intro remaining
      refine ⟨?_, fun unchanged field member picked => ?_⟩
      · rw [text first, text second, left, right]
        refine congrArg (List.cons bracket) (shown_of_remains unicode sound.proper ?_)
        intro name field stop listed
        have ⟨member, picked⟩ := (fields field).mp ⟨name, stop, listed⟩
        exact remaining field member picked
      · rw [text first, left] at unchanged
        obtain ⟨name, stop, listed⟩ := (fields field).mpr ⟨member, picked⟩
        exact marker_of_unchanged unicode sound.proper changed (List.cons.inj unchanged).2 name
          field stop listed
  · -- a scalar has no fields
    have none : secretFields false [] document = [] := by
      cases document with
      | list items => exact absurd trivial compound
      | dict members => exact absurd trivial compound
      | _ => rfl
    have text : serialised chosen first document = serialised chosen second document := by
      cases document with
      | list items => exact absurd trivial compound
      | dict members => exact absurd trivial compound
      | _ => rfl
    rw [none]
    exact ⟨fun _ _ member => (nomatch member),
      fun _ => ⟨by rw [text], fun _ field member => by rw [none] at member; exact nomatch member⟩⟩

theorem redaction_hides (unicode : UnicodeText) (document : Json φ) (chosen : List Step → Bool)
    (first second : List Step → String)
    (numerals : ∀ number : φ, ∀ c ∈ FloatText.repr number, IsGap c)
    (keys : KeysInside (serialised chosen first document))
    (keys' : KeysInside (serialised chosen second document)) :
    ((∀ field ∈ secretFields false [] document, chosen field = true →
        '"' ∉ (first field).toList ∧ '"' ∉ (second field).toList) →
      Hides unicode document chosen first second) ∧
    ((∀ field ∈ secretFields false [] document, chosen field = true →
        Unmatched unicode (first field) ∧ Unmatched unicode (second field)) →
      (Hides unicode document chosen first second ↔
        ∀ field ∈ secretFields false [] document, chosen field = true →
          fromQuote (first field) = fromQuote (second field))) := by
  have hides := hides_iff_remains unicode document chosen first second numerals keys keys'
  refine ⟨fun unquoted => hides.mpr fun field member picked => ?_, fun unmatched => ?_⟩
  · have ⟨left, right⟩ := unquoted field member picked
    rw [remains_unquoted unicode left, remains_unquoted unicode right]
  · rw [hides]
    refine forall_congr' fun field => forall_congr' fun member => forall_congr' fun picked => ?_
    have ⟨left, right⟩ := unmatched field member picked
    rw [remains_unmatched left, remains_unmatched right, leak_escaped_iff]

/-- `redact_text` on strings. -/
def redactString (unicode : UnicodeText) (text : String) : String :=
  String.ofList (redactText unicode text.toList)

/-- The gate for workspace content lets the text of a document through only if each of its secret
fields holds the marker. -/
theorem written_fields_marked (document : Json φ) (values : List Step → String)
    (numerals : ∀ number : φ, ∀ c ∈ FloatText.repr number, IsGap c)
    (keys : KeysInside (serialised chosen values document))
    (passes : validateContent (redactString unicode)
      (.writeText (String.ofList (serialised chosen values document))) = .ok ()) :
    ∀ field ∈ secretFields false [] document, chosen field = true → values field = redacted := by
  have hides := (hides_iff_remains unicode document chosen values values numerals keys keys).mpr
    fun _ _ _ => rfl
  obtain ⟨-, passes⟩ := (raiseIf_bind_eq_ok _ _ _ _).mp passes
  have unchanged := not_not.mp ((raiseIf_eq_ok _ _ _).mp passes)
  rw [redactString, String.toList_ofList] at unchanged
  exact hides.marked (String.ofList_injective unchanged)

end

namespace SecretSample

def document : Json Empty := .dict [("token", .str ""), ("note", .str "plain")]

def assigned (text : String) : List Char :=
  serialised (fun _ => true) (fun _ => text) document

theorem written_fields_marked_sample : ∃ values : List Step → String,
    validateContent (redactString Sample.asciiText)
      (.writeText (String.ofList (serialised (fun _ => true) values document))) = .ok () ∧
      ∀ field ∈ secretFields false [] document, values field = redacted :=
  have passes : validateContent (redactString Sample.asciiText)
      (.writeText (String.ofList (assigned redacted))) = .ok () := by decide
  ⟨fun _ => redacted, passes, fun field secret => written_fields_marked Sample.asciiText document
    (fun _ => redacted) (fun number => number.elim) (by decide) passes field secret rfl⟩

theorem redaction_hides_sample :
    Hides Sample.asciiText document (fun _ => true) (fun _ => "alpha") fun _ => "beta-2" :=
  (redaction_hides Sample.asciiText document (fun _ => true) (fun _ => "alpha")
    (fun _ => "beta-2") (fun number => number.elim) (by decide) (by decide)).1 (by decide)

theorem quoted_secret_leaks :
    (Unmatched Sample.asciiText "a\"b" ∧ Unmatched Sample.asciiText "a\"c") ∧
      redactText Sample.asciiText (assigned "a\"b") =
        "\x7b\"note\":\"plain\",\"token\":\"<redacted>\"b\"\x7d".toList ∧
      redactText Sample.asciiText (assigned "a\"c") =
        "\x7b\"note\":\"plain\",\"token\":\"<redacted>\"c\"\x7d".toList ∧
      ¬ Hides Sample.asciiText document (fun _ => true) (fun _ => "a\"b") fun _ => "a\"c" := by
  have left : redactText Sample.asciiText (assigned "a\"b") =
      "\x7b\"note\":\"plain\",\"token\":\"<redacted>\"b\"\x7d".toList := by decide
  have right : redactText Sample.asciiText (assigned "a\"c") =
      "\x7b\"note\":\"plain\",\"token\":\"<redacted>\"c\"\x7d".toList := by decide
  refine ⟨by decide, left, right, fun hides => ?_⟩
  have same := left.symm.trans (hides.same.trans right)
  exact absurd same (by decide)

end SecretSample

end EgoAgent.Gateway
