import EgoAgent.Lib.Value

/-!
Compact JSON text for values, its reader, and the UTF-8 bytes.

The writer uses no whitespace and escapes only what JSON requires.  The reader
covers exactly this compact grammar: no whitespace, no fractions or exponents.
Reading what was written gives the value back, so the text determines the value.
-/

namespace EgoAgent

/-! ### Writing -/

def hexDigit (value : Nat) : Char :=
  if value < 10 then Char.ofNat (48 + value) else Char.ofNat (87 + value)

def escapeChar (c : Char) : List Char :=
  if c = '"' then ['\\', '"']
  else if c = '\\' then ['\\', '\\']
  else if c = '\n' then ['\\', 'n']
  else if c = '\r' then ['\\', 'r']
  else if c = '\t' then ['\\', 't']
  else if c = '\x0c' then ['\\', 'f']
  else if c = '\x08' then ['\\', 'b']
  else if c.toNat < 32 then
    ['\\', 'u', '0', '0', hexDigit (c.toNat / 16), hexDigit (c.toNat % 16)]
  else [c]

def quoted (text : String) : List Char :=
  '"' :: (text.toList.flatMap escapeChar ++ ['"'])

def numeral (number : Int) : List Char :=
  if number < 0 then '-' :: Nat.toDigits 10 number.natAbs
  else Nat.toDigits 10 number.natAbs

mutual

def Value.text : Value → List Char
  | .null => ['n', 'u', 'l', 'l']
  | .bool true => ['t', 'r', 'u', 'e']
  | .bool false => ['f', 'a', 'l', 's', 'e']
  | .int number => numeral number
  | .str text => quoted text
  | .list [] => ['[', ']']
  | .list (item :: rest) => '[' :: (item.text ++ textItems rest)
  | .tuple [] => ['[', ']']
  | .tuple (item :: rest) => '[' :: (item.text ++ textItems rest)
  | .dict [] => ['{', '}']
  | .dict ((key, value) :: rest) =>
      '{' :: (quoted key ++ ':' :: (value.text ++ textMembers rest))

def textItems : List Value → List Char
  | [] => [']']
  | item :: rest => ',' :: (item.text ++ textItems rest)

def textMembers : Members Value → List Char
  | [] => ['}']
  | (key, value) :: rest => ',' :: (quoted key ++ ':' :: (value.text ++ textMembers rest))

end

/-! ### Reading -/

def hexValue (c : Char) : Option Nat :=
  if '0' ≤ c ∧ c ≤ '9' then some (c.toNat - 48)
  else if 'a' ≤ c ∧ c ≤ 'f' then some (c.toNat - 87)
  else if 'A' ≤ c ∧ c ≤ 'F' then some (c.toNat - 55)
  else none

/-- The body of a string, up to and including its closing quote. -/
def readString : List Char → Option (List Char × List Char)
  | '"' :: rest => some ([], rest)
  | '\\' :: 'u' :: a :: b :: c :: d :: rest =>
      match hexValue a, hexValue b, hexValue c, hexValue d with
      | some a, some b, some c, some d =>
          let code := ((a * 16 + b) * 16 + c) * 16 + d
          if code.isValidChar then
            (readString rest).map fun read => (Char.ofNat code :: read.1, read.2)
          else none
      | _, _, _, _ => none
  | '\\' :: '"' :: rest => (readString rest).map fun read => ('"' :: read.1, read.2)
  | '\\' :: '\\' :: rest => (readString rest).map fun read => ('\\' :: read.1, read.2)
  | '\\' :: '/' :: rest => (readString rest).map fun read => ('/' :: read.1, read.2)
  | '\\' :: 'n' :: rest => (readString rest).map fun read => ('\n' :: read.1, read.2)
  | '\\' :: 'r' :: rest => (readString rest).map fun read => ('\r' :: read.1, read.2)
  | '\\' :: 't' :: rest => (readString rest).map fun read => ('\t' :: read.1, read.2)
  | '\\' :: 'f' :: rest => (readString rest).map fun read => ('\x0c' :: read.1, read.2)
  | '\\' :: 'b' :: rest => (readString rest).map fun read => ('\x08' :: read.1, read.2)
  | c :: rest =>
      if c = '\\' ∨ c.toNat < 32 then none
      else (readString rest).map fun read => (c :: read.1, read.2)
  | [] => none

def readDigits (chars : List Char) : Option (Nat × List Char) :=
  match chars.span Char.isDigit with
  | ([], _) => none
  | (digits, rest) => some (Nat.ofDigitChars 10 digits 0, rest)

mutual

/-- Reads one value.  The first argument bounds the recursion; the length of
the text is always enough. -/
def readValue : Nat → List Char → Option (Value × List Char)
  | 0, _ => none
  | _ + 1, 'n' :: 'u' :: 'l' :: 'l' :: rest => some (.null, rest)
  | _ + 1, 't' :: 'r' :: 'u' :: 'e' :: rest => some (.bool true, rest)
  | _ + 1, 'f' :: 'a' :: 'l' :: 's' :: 'e' :: rest => some (.bool false, rest)
  | _ + 1, '"' :: rest =>
      (readString rest).map fun read => (.str (String.ofList read.1), read.2)
  | _ + 1, '[' :: ']' :: rest => some (.list [], rest)
  | fuel + 1, '[' :: rest =>
      (readValue fuel rest).bind fun first =>
        (readItems fuel first.2).map fun later => (.list (first.1 :: later.1), later.2)
  | _ + 1, '{' :: '}' :: rest => some (.dict [], rest)
  | fuel + 1, '{' :: '"' :: rest =>
      (readString rest).bind fun key =>
        match key.2 with
        | ':' :: rest =>
            (readValue fuel rest).bind fun first =>
              (readMembers fuel first.2).map fun later =>
                (.dict ((String.ofList key.1, first.1) :: later.1), later.2)
        | _ => none
  | _ + 1, '-' :: rest =>
      (readDigits rest).map fun read => (.int (-(read.1 : Int)), read.2)
  | _ + 1, chars => (readDigits chars).map fun read => (.int (read.1 : Int), read.2)

def readItems : Nat → List Char → Option (List Value × List Char)
  | 0, _ => none
  | _ + 1, ']' :: rest => some ([], rest)
  | fuel + 1, ',' :: rest =>
      (readValue fuel rest).bind fun first =>
        (readItems fuel first.2).map fun later => (first.1 :: later.1, later.2)
  | _ + 1, _ => none

def readMembers : Nat → List Char → Option (Members Value × List Char)
  | 0, _ => none
  | _ + 1, '}' :: rest => some ([], rest)
  | fuel + 1, ',' :: '"' :: rest =>
      (readString rest).bind fun key =>
        match key.2 with
        | ':' :: rest =>
            (readValue fuel rest).bind fun first =>
              (readMembers fuel first.2).map fun later =>
                ((String.ofList key.1, first.1) :: later.1, later.2)
        | _ => none
  | _ + 1, _ => none

end

/-- Reads a whole text: one value and nothing after it. -/
def readText (chars : List Char) : Option Value :=
  match readValue (chars.length + 1) chars with
  | some (value, []) => some value
  | _ => none

/-! ### Strings and numerals -/

private theorem hexValue_hexDigit : ∀ value, value < 16 →
    hexValue (hexDigit value) = some value := by
  decide

theorem readString_escapeChar (c : Char) (rest : List Char) :
    readString (escapeChar c ++ rest) =
      (readString rest).map fun read => (c :: read.1, read.2) := by
  unfold escapeChar
  split
  · subst c; simp [readString]
  split
  · subst c; simp [readString]
  split
  · subst c; simp [readString]
  split
  · subst c; simp [readString]
  split
  · subst c; simp [readString]
  split
  · subst c; simp [readString]
  split
  · subst c; simp [readString]
  split
  · rename_i control
    have high := hexValue_hexDigit (c.toNat / 16) (by omega)
    have low := hexValue_hexDigit (c.toNat % 16) (by omega)
    have zero : hexValue '0' = some 0 := by decide
    have code : ((0 * 16 + 0) * 16 + c.toNat / 16) * 16 + c.toNat % 16 = c.toNat := by omega
    have valid : c.toNat.isValidChar := c.valid
    simp only [List.cons_append, List.nil_append]
    rw [readString]
    simp only [high, low, zero, code, valid, if_true, Char.ofNat_toNat]
  · rename_i quote backslash _ _ _ _ _ printable
    simp only [List.cons_append, List.nil_append]
    rw [readString.eq_def]
    split <;> simp_all

theorem readString_quoted (text : String) (rest : List Char) :
    readString (text.toList.flatMap escapeChar ++ '"' :: rest) = some (text.toList, rest) := by
  induction text.toList with
  | nil =>
      simp [readString]
  | cons c later ih =>
      rw [List.flatMap_cons, List.append_assoc, readString_escapeChar, ih]
      rfl

/-- What follows a value never continues a numeral. -/
def NumeralEnds (rest : List Char) : Prop := ∀ c later, rest = c :: later → c.isDigit = false

theorem numeralEnds_nil : NumeralEnds [] := by
  intro c later impossible; cases impossible

theorem numeralEnds_cons {c : Char} {rest : List Char} (other : c.isDigit = false) :
    NumeralEnds (c :: rest) := by
  intro d later same; cases same; exact other

private theorem span_digits (digits rest : List Char)
    (all : ∀ c ∈ digits, c.isDigit = true) (ends : NumeralEnds rest) :
    (digits ++ rest).span Char.isDigit = (digits, rest) := by
  rw [List.span_eq_takeWhile_dropWhile]
  have restTake : rest.takeWhile Char.isDigit = [] := by
    cases rest with
    | nil => rfl
    | cons c later => simp [ends c later rfl]
  have restDrop : rest.dropWhile Char.isDigit = rest := by
    cases rest with
    | nil => rfl
    | cons c later => simp [ends c later rfl]
  rw [List.takeWhile_append_of_pos all, List.dropWhile_append_of_pos all, restTake, restDrop,
    List.append_nil]

theorem readDigits_toDigits (number : Nat) (rest : List Char) (ends : NumeralEnds rest) :
    readDigits (Nat.toDigits 10 number ++ rest) = some (number, rest) := by
  unfold readDigits
  rw [span_digits _ rest
    (fun c present => Nat.isDigit_of_mem_toDigits (by decide) (by decide) present) ends]
  cases digitsEq : Nat.toDigits 10 number with
  | nil => exact absurd digitsEq Nat.toDigits_ne_nil
  | cons digit digits =>
      simp only
      rw [← digitsEq, Nat.ofDigitChars_ten_toDigits]

private theorem digit_not_punctuation {c : Char} (digit : c.isDigit = true) :
    c ≠ 'n' ∧ c ≠ 't' ∧ c ≠ 'f' ∧ c ≠ '"' ∧ c ≠ '[' ∧ c ≠ '{' ∧ c ≠ '-' ∧ c ≠ ']' := by
  refine ⟨?_, ?_, ?_, ?_, ?_, ?_, ?_, ?_⟩ <;> (rintro rfl; revert digit; decide)

theorem readValue_numeral (fuel : Nat) (number : Int) (rest : List Char)
    (ends : NumeralEnds rest) :
    readValue (fuel + 1) (numeral number ++ rest) = some (.int number, rest) := by
  unfold numeral
  split
  · rename_i negative
    have magnitude : -((number.natAbs : Nat) : Int) = number := by omega
    simp only [List.cons_append, readValue, readDigits_toDigits _ _ ends, Option.map_some]
    rw [magnitude]
  · rename_i nonnegative
    have magnitude : ((number.natAbs : Nat) : Int) = number := by omega
    have read := readDigits_toDigits number.natAbs rest ends
    cases digitsEq : Nat.toDigits 10 number.natAbs with
    | nil => exact absurd digitsEq Nat.toDigits_ne_nil
    | cons digit digits =>
        have isDigit : digit.isDigit = true :=
          Nat.isDigit_of_mem_toDigits (n := number.natAbs) (b := 10) (by decide) (by decide)
            (by rw [digitsEq]; exact List.mem_cons_self)
        obtain ⟨notN, notT, notF, notQuote, notOpen, notBrace, notMinus, _⟩ :=
          digit_not_punctuation isDigit
        rw [digitsEq] at read
        rw [List.cons_append, readValue.eq_def]
        split <;> simp_all

/-! ### Reading back what was written -/

mutual

/-- No tuples anywhere: what a reader can return. -/
def Value.Plain : Value → Prop
  | .list items => PlainItems items
  | .tuple _ => False
  | .dict members => PlainMembers members
  | _ => True

def PlainItems : List Value → Prop
  | [] => True
  | item :: rest => item.Plain ∧ PlainItems rest

def PlainMembers : Members Value → Prop
  | [] => True
  | (_, value) :: rest => value.Plain ∧ PlainMembers rest

end

private theorem numeralEnds_textItems (items : List Value) (rest : List Char) :
    NumeralEnds (textItems items ++ rest) := by
  cases items <;> exact numeralEnds_cons (by decide)

private theorem numeralEnds_textMembers (members : Members Value) (rest : List Char) :
    NumeralEnds (textMembers members ++ rest) := by
  cases members <;> exact numeralEnds_cons (by decide)

private theorem text_ne_close (value : Value) (rest after : List Char) :
    value.text ++ rest ≠ ']' :: after := by
  intro same
  have head : (value.text ++ rest).head? = some ']' := by rw [same]; rfl
  cases value with
  | null => simp [Value.text] at head
  | bool flag => cases flag <;> simp [Value.text] at head
  | int number =>
      simp only [Value.text, numeral] at head
      split at head
      · simp at head
      · cases digitsEq : Nat.toDigits 10 number.natAbs with
        | nil => exact absurd digitsEq Nat.toDigits_ne_nil
        | cons digit digits =>
            have isDigit : digit.isDigit = true :=
              Nat.isDigit_of_mem_toDigits (n := number.natAbs) (b := 10) (by decide) (by decide)
                (by rw [digitsEq]; exact List.mem_cons_self)
            simp only [digitsEq, List.cons_append, List.head?_cons, Option.some.injEq] at head
            exact (digit_not_punctuation isDigit).2.2.2.2.2.2.2 head
  | str text => simp [Value.text, quoted] at head
  | list items => cases items <;> simp [Value.text] at head
  | tuple items => cases items <;> simp [Value.text] at head
  | dict members =>
      cases members with
      | nil => simp [Value.text] at head
      | cons member later => obtain ⟨key, value⟩ := member; simp [Value.text] at head

mutual

theorem readValue_text : ∀ (value : Value) (fuel : Nat) (rest : List Char),
    value.Plain → value.text.length ≤ fuel → NumeralEnds rest →
      readValue fuel (value.text ++ rest) = some (value, rest)
  | .null, 0, _, _, enough, _ => by simp [Value.text] at enough
  | .null, fuel + 1, rest, _, _, _ => by simp [Value.text, readValue]
  | .bool true, 0, _, _, enough, _ => by simp [Value.text] at enough
  | .bool true, fuel + 1, rest, _, _, _ => by simp [Value.text, readValue]
  | .bool false, 0, _, _, enough, _ => by simp [Value.text] at enough
  | .bool false, fuel + 1, rest, _, _, _ => by simp [Value.text, readValue]
  | .int number, 0, _, _, enough, _ => by
      simp only [Value.text, numeral] at enough
      split at enough <;> simp [Nat.toDigits_ne_nil] at enough
  | .int number, fuel + 1, rest, _, _, ends => readValue_numeral fuel number rest ends
  | .str text, 0, _, _, enough, _ => by simp [Value.text, quoted] at enough
  | .str text, fuel + 1, rest, _, _, _ => by
      simp only [Value.text, quoted, List.cons_append, List.append_assoc, List.nil_append]
      rw [readValue, readString_quoted]
      simp
  | .list [], 0, _, _, enough, _ => by simp [Value.text] at enough
  | .list [], fuel + 1, rest, _, _, _ => by simp [Value.text, readValue]
  | .list (item :: later), 0, _, _, enough, _ => by simp [Value.text] at enough
  | .list (item :: later), fuel + 1, rest, plain, enough, ends => by
      simp only [Value.text, List.length_cons, List.length_append] at enough
      have first := readValue_text item fuel (textItems later ++ rest) plain.1 (by omega)
        (numeralEnds_textItems later rest)
      have others := readItems_text later fuel rest plain.2 (by omega) ends
      simp only [Value.text, List.cons_append, List.append_assoc]
      rw [readValue.eq_7 _ _ (fun after same => text_ne_close item _ after same)]
      simp [first, others]
  | .dict [], 0, _, _, enough, _ => by simp [Value.text] at enough
  | .dict [], fuel + 1, rest, _, _, _ => by simp [Value.text, readValue]
  | .dict ((key, value) :: later), 0, _, _, enough, _ => by simp [Value.text] at enough
  | .dict ((key, value) :: later), fuel + 1, rest, plain, enough, ends => by
      simp only [Value.text, List.length_cons, List.length_append] at enough
      have first := readValue_text value fuel (textMembers later ++ rest) plain.1 (by omega)
        (numeralEnds_textMembers later rest)
      have others := readMembers_text later fuel rest plain.2 (by omega) ends
      simp only [Value.text, quoted, List.cons_append, List.append_assoc, List.nil_append]
      rw [readValue, readString_quoted]
      simp [first, others]

theorem readItems_text : ∀ (items : List Value) (fuel : Nat) (rest : List Char),
    PlainItems items → (textItems items).length ≤ fuel → NumeralEnds rest →
      readItems fuel (textItems items ++ rest) = some (items, rest)
  | [], 0, _, _, enough, _ => by simp [textItems] at enough
  | [], fuel + 1, rest, _, _, _ => by simp [textItems, readItems]
  | item :: later, 0, _, _, enough, _ => by simp [textItems] at enough
  | item :: later, fuel + 1, rest, plain, enough, ends => by
      simp only [textItems, List.length_cons, List.length_append] at enough
      have first := readValue_text item fuel (textItems later ++ rest) plain.1 (by omega)
        (numeralEnds_textItems later rest)
      have others := readItems_text later fuel rest plain.2 (by omega) ends
      simp [textItems, readItems, first, others]

theorem readMembers_text : ∀ (members : Members Value) (fuel : Nat) (rest : List Char),
    PlainMembers members → (textMembers members).length ≤ fuel → NumeralEnds rest →
      readMembers fuel (textMembers members ++ rest) = some (members, rest)
  | [], 0, _, _, enough, _ => by simp [textMembers] at enough
  | [], fuel + 1, rest, _, _, _ => by simp [textMembers, readMembers]
  | (key, value) :: later, 0, _, _, enough, _ => by simp [textMembers] at enough
  | (key, value) :: later, fuel + 1, rest, plain, enough, ends => by
      simp only [textMembers, List.length_cons, List.length_append] at enough
      have first := readValue_text value fuel (textMembers later ++ rest) plain.1 (by omega)
        (numeralEnds_textMembers later rest)
      have others := readMembers_text later fuel rest plain.2 (by omega) ends
      simp only [textMembers, quoted, List.cons_append, List.append_assoc, List.nil_append]
      rw [readMembers, readString_quoted]
      simp [first, others]

end

theorem readText_text (value : Value) (plain : value.Plain) :
    readText value.text = some value := by
  have read := readValue_text value (value.text.length + 1) [] plain (by omega) numeralEnds_nil
  rw [List.append_nil] at read
  simp [readText, read]

/-! ### Canonical values are plain -/

theorem plainMembers_iff (members : Members Value) :
    PlainMembers members ↔ ∀ member ∈ members, member.2.Plain := by
  induction members with
  | nil => simp [PlainMembers]
  | cons member rest ih =>
      obtain ⟨key, value⟩ := member
      simp [PlainMembers, ih]

mutual

theorem Value.plain_of_canon (u : Unicode) :
    ∀ (value normal : Value), value.canon u = some normal → normal.Plain
  | .null, _, computed => by cases computed; trivial
  | .bool _, _, computed => by cases computed; trivial
  | .int _, _, computed => by
      simp only [Value.canon] at computed
      split at computed
      · cases computed; trivial
      · cases computed
  | .str _, _, computed => by cases computed; trivial
  | .list items, _, computed => by
      simp only [Value.canon, Option.map_eq_some_iff] at computed
      obtain ⟨normal, itemsEq, rfl⟩ := computed
      exact plainItems_of_canon u items normal itemsEq
  | .tuple items, _, computed => by
      simp only [Value.canon, Option.map_eq_some_iff] at computed
      obtain ⟨normal, itemsEq, rfl⟩ := computed
      exact plainItems_of_canon u items normal itemsEq
  | .dict members, _, computed => by
      simp only [Value.canon, Option.bind_eq_some_iff] at computed
      obtain ⟨normal, membersEq, checked⟩ := computed
      split at checked
      · cases checked
        have plain := (plainMembers_iff normal).mp (plainMembers_of_canon u members normal membersEq)
        exact (plainMembers_iff _).mpr fun member present =>
          plain member ((sortMembers_perm normal).mem_iff.mp present)
      · cases checked

theorem plainItems_of_canon (u : Unicode) :
    ∀ (items normal : List Value), canonItems u items = some normal → PlainItems normal
  | [], _, computed => by cases computed; trivial
  | item :: rest, _, computed => by
      simp only [canonItems, Option.bind_eq_some_iff, Option.map_eq_some_iff] at computed
      obtain ⟨head, headEq, tail, tailEq, rfl⟩ := computed
      exact ⟨Value.plain_of_canon u item head headEq, plainItems_of_canon u rest tail tailEq⟩

theorem plainMembers_of_canon (u : Unicode) :
    ∀ (members normal : Members Value), canonMembers u members = some normal →
      PlainMembers normal
  | [], _, computed => by cases computed; trivial
  | (key, value) :: rest, _, computed => by
      simp only [canonMembers, Option.bind_eq_some_iff, Option.map_eq_some_iff] at computed
      obtain ⟨head, headEq, tail, tailEq, rfl⟩ := computed
      exact ⟨Value.plain_of_canon u value head headEq, plainMembers_of_canon u rest tail tailEq⟩

end

/-! ### Bytes -/

abbrev Bytes := List UInt8

def utf8Encode (chars : List Char) : Bytes := chars.flatMap String.utf8EncodeChar

def utf8Decode (bytes : Bytes) : Option (List Char) :=
  (String.fromUTF8? ⟨bytes.toArray⟩).map String.toList

theorem utf8Decode_utf8Encode (chars : List Char) :
    utf8Decode (utf8Encode chars) = some chars := by
  have bytesEq : (⟨(utf8Encode chars).toArray⟩ : ByteArray) = (String.ofList chars).toByteArray := by
    apply ByteArray.ext
    rw [String.toByteArray_ofList, List.utf8Encode, List.data_toByteArray, utf8Encode]
  have valid : (String.ofList chars).toByteArray.IsValidUTF8 := (String.ofList chars).isValidUTF8
  have restored : String.fromUTF8 (String.ofList chars).toByteArray valid = String.ofList chars :=
    rfl
  unfold utf8Decode String.fromUTF8?
  rw [bytesEq, dif_pos valid, restored, Option.map_some, String.toList_ofList]

/-- The canonical bytes of a value, when it has a canonical form. -/
def canonicalBytes (u : Unicode) (value : Value) : Option Bytes :=
  (value.canon u).map fun normal => utf8Encode normal.text

/-- Reads the value a compact JSON byte string denotes. -/
def readBytes (bytes : Bytes) : Option Value := (utf8Decode bytes).bind readText

theorem readBytes_utf8Encode_text (value : Value) (plain : value.Plain) :
    readBytes (utf8Encode value.text) = some value := by
  rw [readBytes, utf8Decode_utf8Encode, Option.bind_some, readText_text value plain]

/-- Reading canonical bytes gives exactly the canonical form. -/
theorem readBytes_canonicalBytes (u : Unicode) (value : Value) :
    (canonicalBytes u value).bind readBytes = value.canon u := by
  unfold canonicalBytes
  cases normalEq : value.canon u with
  | none => rfl
  | some normal =>
      exact readBytes_utf8Encode_text normal (Value.plain_of_canon u value normal normalEq)

theorem canonicalBytes_eq_some_iff (u : Unicode) (value : Value) (bytes : Bytes) :
    canonicalBytes u value = some bytes ↔
      ∃ normal, value.canon u = some normal ∧ utf8Encode normal.text = bytes := by
  unfold canonicalBytes
  exact Option.map_eq_some_iff

/-- Equal canonical bytes mean equal canonical forms. -/
theorem canon_eq_of_canonicalBytes_eq (u : Unicode) (left right : Value)
    (same : canonicalBytes u left = canonicalBytes u right) :
    left.canon u = right.canon u := by
  rw [← readBytes_canonicalBytes u left, ← readBytes_canonicalBytes u right, same]

theorem canonicalBytes_congr (u : Unicode) {left right : Value}
    (same : left.canon u = right.canon u) :
    canonicalBytes u left = canonicalBytes u right := by
  unfold canonicalBytes
  rw [same]

end EgoAgent
