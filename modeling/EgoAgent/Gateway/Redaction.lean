import EgoAgent.Lib.Regex
import EgoAgent.Gateway.WorkspaceContract

/-!
The redaction of credentials in texts that cross the tool boundary.

Four patterns are replaced one after the other, each in what the one before has left.  They look at
characters only: the pattern for secret members ends a value at its first double quote, escaped or
not, and a private-key block may begin in one string and end in another.
-/

namespace EgoAgent.Gateway

open EgoAgent.Api EgoAgent.Bridge

/-- `REDACTED` -/
def redacted : String := "<redacted>"

/-! ### Character classes -/

/-- A character as `IGNORECASE` compares it with a letter of a pattern.  Beside the ASCII letters
these are the two Turkish letters for `i`, the long `s` and the Kelvin sign. -/
def ignoreCase (c : Char) : Char :=
  if c = '\u0130' ∨ c = '\u0131' then 'i'
  else if c = '\u017f' then 's'
  else if c = '\u212a' then 'k'
  else c.toLower

def isLetter (c : Char) : Bool := 'a' ≤ ignoreCase c && ignoreCase c ≤ 'z'

/-- `[A-Za-z0-9_-]` -/
def isNameChar (c : Char) : Bool := isLetter c || c.isDigit || c = '_' || c = '-'

/-- `[A-Za-z0-9._~+/=-]` -/
def isTokenChar (c : Char) : Bool :=
  isLetter c || c.isDigit || c ∈ ['.', '_', '~', '+', '/', '=', '-']

def exactly (text : String) : Regex := .word (fun letter c => decide (letter = c)) text.toList

def ignoring (text : String) : Regex :=
  .word (fun letter c => decide (letter = ignoreCase c)) text.toList

def symbol (c : Char) : Regex := .one fun other => decide (other = c)

/-- `[_-]?` -/
def dash : Regex := .either (.one fun c => decide (c = '_' ∨ c = '-')) .empty

def spaces : Regex := .many isSpace

/-! ### The patterns -/

/-- `[^-\r\n]*PRIVATE KEY-----` -/
def privateKeyLine : Regex :=
  .seq (.many fun c => decide (c ∉ ['-', '\r', '\n'])) (exactly "PRIVATE KEY-----")

/-- `_PRIVATE_KEY_RE` -/
def privateKeyRe : Substitution where
  lead := .empty
  body := .seq (exactly "-----BEGIN ") (.seq privateKeyLine
    (.seq (.fewest fun _ => true) (.seq (exactly "-----END ") privateKeyLine)))
  mark := redacted.toList

/-- `_BEARER_RE`.  The word boundary stands before a letter: no word character comes before. -/
def bearerRe (unicode : UnicodeText) : Substitution where
  lead := .empty
  body := .seq (.after fun previous => previous.all fun c =>
      !(unicode.isAlphanumeric c || c = '_'))
    (.seq (ignoring "bearer") (.seq (.one isSpace) (.seq spaces
      (.seq ((List.replicate 8 (Regex.one isTokenChar)).foldr .seq .empty) (.many isTokenChar)))))
  mark := "Bearer ".toList ++ redacted.toList

def secretWord : Regex :=
  .either (.seq (ignoring "api") (.seq dash (ignoring "key")))
  <| .either (.seq (ignoring "access") (.seq dash (.seq (ignoring "key")
      (.seq dash (ignoring "secret")))))
  <| .either (.seq (ignoring "secret") (.seq dash (.seq (ignoring "access")
      (.seq dash (ignoring "key")))))
  <| .either (.seq (ignoring "access") (.seq dash (ignoring "token")))
  <| .either (.seq (ignoring "auth") (.seq dash (ignoring "token")))
  <| .either (.seq (ignoring "client") (.seq dash (ignoring "secret")))
  <| .either (ignoring "password") (.either (ignoring "secret") (ignoring "token"))

/-- `_SECRET_NAME` -/
def secretName : Regex := .seq (.many isNameChar) secretWord

/-- `_ASSIGNMENT_SECRET_RE` -/
def assignmentSecretRe : Substitution where
  lead := .seq (.after fun previous => previous.all fun c => c = '\n')
    (.seq spaces (.seq (.either (.seq (ignoring "export") (.seq (.one isSpace) spaces)) .empty)
      (.seq secretName (.seq spaces (.seq (.one fun c => decide (c = ':' ∨ c = '=')) spaces)))))
  body := .either (.seq (symbol '"') (.seq (.many fun c => decide (c ∉ ['"', '\r', '\n']))
      (symbol '"')))
    <| .either (.seq (symbol '\x27') (.seq (.many fun c => decide (c ∉ ['\x27', '\r', '\n']))
      (symbol '\x27')))
    <| .seq (.one fun c => !(isSpace c || c = '#')) (.many fun c => !(isSpace c || c = '#'))
  mark := redacted.toList

/-- `_JSON_SECRET_RE` -/
def jsonSecretRe : Substitution where
  lead := .seq (symbol '"') (.seq secretName
    (.seq (symbol '"') (.seq spaces (.seq (symbol ':') spaces))))
  body := .seq (symbol '"') (.seq (.many fun c => decide (c ≠ '"')) (symbol '"'))
  mark := '"' :: (redacted.toList ++ ['"'])

def redactText (unicode : UnicodeText) (text : List Char) : List Char :=
  jsonSecretRe.sub (assignmentSecretRe.sub ((bearerRe unicode).sub (privateKeyRe.sub text)))

/-- Whether `_SECRET_NAME` matches the whole of a key. -/
def isSecretName (key : List Char) : Bool :=
  (secretName.ends none key).any fun reading => reading.2.isEmpty

/-! ### What the patterns read -/

theorem isSpace_quote : isSpace '"' = false := by decide

theorem only_ignoring {property : Char → Prop} {text : String}
    (all : ∀ letter ∈ text.toList, ∀ c, ignoreCase c = letter → property c) :
    (ignoring text).Only property := by
  unfold ignoring
  revert all
  generalize text.toList = letters
  intro all
  induction letters with
  | nil => trivial
  | cons letter rest ih =>
      have ⟨head, tail⟩ := List.forall_mem_cons.mp all
      exact ⟨fun c same => head c (of_decide_eq_true same).symm, ih tail⟩

theorem only_letters {text : String}
    (all : (text.toList.all fun letter => 'a' ≤ letter && letter ≤ 'z') = true) :
    (ignoring text).Only fun c => isNameChar c = true :=
  only_ignoring fun letter member c same => by
    have inAlphabet := List.all_eq_true.mp all letter member
    rw [isNameChar, isLetter, same, inAlphabet]
    rfl

theorem only_dash : dash.Only fun c => isNameChar c = true := by
  refine ⟨fun c same => ?_, trivial⟩
  rcases of_decide_eq_true same with rfl | rfl
  · decide
  · decide

theorem secretName_only : secretName.Only fun c => isNameChar c = true := by
  refine ⟨fun c accepted => accepted, ⟨?_, ?_, ?_⟩, ⟨?_, ?_, ?_, ?_, ?_⟩, ⟨?_, ?_, ?_, ?_, ?_⟩,
    ⟨?_, ?_, ?_⟩, ⟨?_, ?_, ?_⟩, ⟨?_, ?_, ?_⟩, ?_, ?_, ?_⟩ <;>
    first
    | exact only_dash
    | exact only_letters (by decide)

section

variable {previous : Option Char}

theorem secretName_nil : ¬ secretName.Reads previous [] := by
  intro reads
  have member : ([], []) ∈ secretName.ends previous [] := Regex.mem_ends.mpr ⟨rfl, reads⟩
  exact nomatch member

theorem secretName_unanchored : secretName.Unanchored := by
  refine ⟨trivial, ⟨?_, ?_, ?_⟩, ⟨?_, ?_, ?_, ?_, ?_⟩, ⟨?_, ?_, ?_, ?_, ?_⟩,
    ⟨?_, ?_, ?_⟩, ⟨?_, ?_, ?_⟩, ⟨?_, ?_, ?_⟩, ?_, ?_, ?_⟩ <;>
    first
    | exact ⟨trivial, trivial⟩
    | exact Regex.word_unanchored _ _

theorem isSecretName_iff {key : List Char} (previous : Option Char) :
    isSecretName key = true ↔ secretName.Reads previous key := by
  rw [isSecretName, List.any_eq_true]
  constructor
  · rintro ⟨⟨front, rest⟩, member, whole⟩
    obtain ⟨rfl, reads⟩ := Regex.mem_ends.mp member
    obtain rfl : rest = [] := List.isEmpty_iff.mp whole
    rw [List.append_nil]
    exact secretName_unanchored.reads reads previous
  · intro reads
    exact ⟨(key, []), Regex.mem_ends.mpr ⟨(List.append_nil _).symm,
      secretName_unanchored.reads reads none⟩, rfl⟩

theorem secretName_chars {name : List Char}
    (reads : secretName.Reads previous name) : ∀ c ∈ name, isNameChar c = true :=
  secretName_only.reads reads

theorem symbol_reads {c : Char} {text : List Char}
    (reads : (symbol c).Reads previous text) : text = [c] := by
  obtain ⟨other, accepted, rfl⟩ := reads
  rw [of_decide_eq_true accepted]

end

end EgoAgent.Gateway
