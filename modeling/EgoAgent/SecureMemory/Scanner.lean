import EgoAgent.SecureMemory.ChannelFrames

/-!
The ingress scanner: which byte strings it admits, and on which it raises.

A string of a parsed value may hold a lone surrogate, which no UTF-8 text does; the scanner encodes
the parsed value again outside of the guarded parse, and that raises.  What the interpreter's
recursion limit does not admit raises in the same way.
-/

namespace EgoAgent.SecureMemory

open EgoAgent.Api

variable {φ : Type}

def maxIngressBytes : Nat := 64 * 1024

def ingressTextSchemaVersion : String := "secure-memory-ingress-text/v1"

/-- `_AUTHORITY_PARTS` -/
def authorityParts : List String :=
  ["approval", "authority", "capability", "decision", "evaluator", "gate", "issuer", "key",
    "origin", "promotion", "signature", "trusted", "validated"]

/-! ### The platform -/

/-- What `parse_json_bytes` does with UTF-8 bytes. -/
inductive Loaded (φ : Type) where
  | value (value : Json φ)
  /-- A value with a lone surrogate in one of its strings or keys. -/
  | surrogate
  /-- A `TypeError` or a `ValueError`. -/
  | invalid
  /-- The value is nested too deeply for the parser: a `RecursionError`. -/
  | tooDeep

/-- What the scanner takes from outside: SHA-256, the digest of its own rules, the JSON parser and
the recursion limit, `casefold`, the categories `Cc` and `Cf`, and the searches for the credential
and the prompt patterns. -/
structure ScannerPlatform (φ : Type) where
  sha256 : Bytes → Digest
  scannerSha256 : Digest
  loads : Bytes → Loaded φ
  overflows : Json φ → Bool
  casefold : String → String
  control : Char → Bool
  credential : String → Bool
  promptAuthority : String → Bool

inductive ScanFault where
  | value
  | unicodeEncode
  | recursion
  deriving DecidableEq

/-- The scanner's answer; it never contains input text. -/
structure ScanReceipt where
  admitted : Bool
  sourceClass : String
  reasonCodes : List String
  admittedContentSha256 : Option String
  scannerSha256 : Digest
  bounded : sourceClass ≠ "" ∧ sourceClass.length ≤ 120
  sorted : reasonCodes.Pairwise (· < ·)

def ScanReceipt.findingCount (receipt : ScanReceipt) : Nat := receipt.reasonCodes.length

abbrev SourceClass := {text : String // text ≠ "" ∧ text.length ≤ 120}

/-! ### The checks of a value -/

/-- The parts of a key: the runs of `[a-z0-9]` in its casefolded text. -/
def keyParts (casefold : String → String) (key : String) : List (List Char) :=
  (casefold key).toList.splitOnP fun c => !(('a' ≤ c && c ≤ 'z') || ('0' ≤ c && c ≤ '9'))

def namesAuthority (casefold : String → String) (key : String) : Bool :=
  authorityParts.any fun part => (keyParts casefold key).contains part.toList

mutual

/-- `_has_authority_key`; a list is only looked at under a key. -/
def hasAuthorityKey (casefold : String → String) : Json φ → Bool
  | .dict members => anyAuthorityKey casefold members
  | _ => false

def anyAuthorityKey (casefold : String → String) : List (String × Json φ) → Bool
  | [] => false
  | (key, nested) :: rest =>
      namesAuthority casefold key || hasAuthorityKey casefold nested ||
        listedAuthorityKey casefold nested || anyAuthorityKey casefold rest

def listedAuthorityKey (casefold : String → String) : Json φ → Bool
  | .list items => itemsAuthorityKey casefold items
  | _ => false

def itemsAuthorityKey (casefold : String → String) : List (Json φ) → Bool
  | [] => false
  | item :: rest => hasAuthorityKey casefold item || itemsAuthorityKey casefold rest

end

mutual

/-- `_strings` -/
def stringsOf : Json φ → List String
  | .str text => [text]
  | .dict members => stringsOfMembers members
  | .list items => stringsOfItems items
  | _ => []

def stringsOfMembers : List (String × Json φ) → List String
  | [] => []
  | (key, nested) :: rest => key :: (stringsOf nested ++ stringsOfMembers rest)

def stringsOfItems : List (Json φ) → List String
  | [] => []
  | item :: rest => stringsOf item ++ stringsOfItems rest

end

/-- The value under `text` of a record with the accepted shape.  An object repeats no key, so its
keys are this set when they are this list in some order. -/
def ingressShape : Json φ → Bool
  | .dict members =>
      decide ((Dict.keys members).Perm ["schema_version", "text"]) &&
        (match Dict.get? members "schema_version" with
          | some (.str version) => version == ingressTextSchemaVersion
          | _ => false) &&
        (match Dict.get? members "text" with
          | some (.str text) => text != ""
          | _ => false)
  | _ => false

def reasonIf (wrong : Bool) (reason : String) : List String := if wrong then [reason] else []

def textReasons (platform : ScannerPlatform φ) (text : String) : List String :=
  reasonIf (text.toList.any fun c => c == '\x00' || platform.control c)
      (if text.toList.contains '\x00' then "NUL_BYTE" else "CONTROL_CHARACTER") ++
    reasonIf (platform.credential text) "CREDENTIAL_PATTERN" ++
    reasonIf (platform.promptAuthority text) "PROMPT_AUTHORITY_CLAIM"

variable [FloatText φ]

def valueReasons (platform : ScannerPlatform φ) (raw : Bytes) (value : Json φ) : List String :=
  reasonIf (canonicalBytes value ≠ raw) "NON_CANONICAL_JSON" ++
    reasonIf (!ingressShape value) "JSON_SHAPE_INVALID" ++
    reasonIf (hasAuthorityKey platform.casefold value) "AUTHORITY_FIELD" ++
    (stringsOf value).flatMap (textReasons platform)

/-! ### Scanning -/

/-- `_receipt`, where admitted means that there is no reason. -/
def scanReceipt (platform : ScannerPlatform φ) (raw : Bytes) (source : SourceClass)
    (reasons : List String) : ScanReceipt where
  admitted := reasons.isEmpty
  sourceClass := source.val
  reasonCodes := sortedSet reasons
  admittedContentSha256 :=
    if reasons.isEmpty then some ((platform.sha256 raw).labelled "") else none
  scannerSha256 := platform.scannerSha256
  bounded := source.property
  sorted := sortedSet_pairwise reasons

/-- `ContentScanner.scan` -/
def scan (platform : ScannerPlatform φ) (raw : Bytes) (sourceClass : String) :
    Except ScanFault ScanReceipt :=
  if bounded : sourceClass ≠ "" ∧ sourceClass.length ≤ 120 then
    let receipt := scanReceipt platform raw ⟨sourceClass, bounded⟩
    let nul := reasonIf (raw.contains 0) "NUL_BYTE"
    if raw = [] ∨ maxIngressBytes < raw.length then .ok (receipt ["SIZE_INVALID"])
    else if utf8Decode raw = none then .ok (receipt (nul ++ ["UTF8_INVALID"]))
    else match platform.loads raw with
      | .invalid => .ok (receipt (nul ++ ["JSON_SHAPE_INVALID"]))
      | .tooDeep => .error .recursion
      -- the parsed value is encoded outside of the guarded parse
      | .surrogate => .error .unicodeEncode
      | .value value =>
          if platform.overflows value then .error .recursion
          else .ok (receipt (nul ++ valueReasons platform raw value))
  else .error .value

/-! ### What the scanner is for -/

/-- The record of a text. -/
def ingressRecord (text : String) : Json φ :=
  .dict [("schema_version", .str ingressTextSchemaVersion), ("text", .str text)]

/-- A text in which nothing is found. -/
structure CleanText (platform : ScannerPlatform φ) (text : String) : Prop where
  control : ∀ c ∈ text.toList, platform.control c = false
  credential : platform.credential text = false
  promptAuthority : platform.promptAuthority text = false

/-- The canonical bytes of the record of a clean text. -/
def AdmissibleBytes (platform : ScannerPlatform φ) (raw : Bytes) : Prop :=
  raw.length ≤ maxIngressBytes ∧
    ∃ text : String, text ≠ "" ∧ raw = canonicalBytes (φ := φ) (ingressRecord text) ∧
      CleanText platform text

/-- What the scanner relies on: the parser reads the record of a text back, `casefold` leaves the
keys of a record alone, NUL is a control character, and nothing is found in the fixed texts. -/
structure ScannerPlatform.Faithful (platform : ScannerPlatform φ) : Prop where
  readsBack : ∀ text : String,
    platform.loads (canonicalBytes (φ := φ) (ingressRecord text)) = .value (ingressRecord text)
  casefold : ∀ key ∈ ["schema_version", "text"], platform.casefold key = key
  nul : platform.control '\x00' = true
  fixed : ∀ text ∈ ["schema_version", ingressTextSchemaVersion, "text"], CleanText platform text

/-- The parser and the encoder get through the bytes, where the scan comes that far. -/
def Scannable (platform : ScannerPlatform φ) (raw : Bytes) : Prop :=
  raw = [] ∨ maxIngressBytes < raw.length ∨ utf8Decode raw = none ∨
    platform.loads raw = .invalid ∨
    ∃ value, platform.loads raw = .value value ∧ platform.overflows value = false

/-- The scan answers, admits exactly the admissible bytes, and gives reasons otherwise. -/
def ScansAsPromised (platform : ScannerPlatform φ) (raw : Bytes) (source : SourceClass) : Prop :=
  ∃ receipt, scan platform raw source.val = .ok receipt ∧
    (receipt.admitted = true ↔ AdmissibleBytes platform raw) ∧
    (receipt.admitted = false → receipt.admittedContentSha256 = none ∧
      receipt.reasonCodes ≠ [] ∧ receipt.reasonCodes.Pairwise (· < ·))

/-! ### No NUL in canonical bytes -/

theorem escapeChar_ne_nul {c other : Char} (member : other ∈ escapeChar c) : other ≠ '\x00' := by
  have digits : ∀ value, value < 16 → hexDigit value ≠ '\x00' := by decide
  rintro rfl
  unfold escapeChar at member
  iterate 7
    split at member
    · revert member
      decide
  split at member
  · rename_i control
    simp only [List.mem_cons, List.not_mem_nil, or_false] at member
    rcases member with one | one | one | one | one | one
    · exact absurd one (by decide)
    · exact absurd one (by decide)
    · exact absurd one (by decide)
    · exact absurd one (by decide)
    · exact digits _ (by omega) one.symm
    · exact digits _ (by omega) one.symm
  · rename_i printable
    rw [← List.mem_singleton.mp member] at printable
    exact printable (by decide)

theorem quoted_no_nul (text : String) : '\x00' ∉ quoted text := by
  intro member
  rcases List.mem_cons.mp member with quote | inside
  · exact absurd quote (by decide)
  rcases List.mem_append.mp inside with escaped | quote
  · obtain ⟨c, _, listed⟩ := List.mem_flatMap.mp escaped
    exact escapeChar_ne_nul listed rfl
  · exact absurd (List.mem_singleton.mp quote) (by decide)

theorem nul_of_encoded_zero {c : Char} (member : 0 ∈ String.utf8EncodeChar c) : c = '\x00' := by
  have zero : ∀ number : Nat, (0 : UInt8) = UInt8.ofNat number → number % 256 = 0 := by
    intro number same
    have value := congrArg UInt8.toNat same
    rw [UInt8.toNat_ofNat] at value
    exact value.symm
  unfold String.utf8EncodeChar at member
  dsimp only at member
  split at member
  · have small := zero _ (List.mem_singleton.mp member)
    refine Char.ext (UInt32.toNat_inj.mp ?_)
    show c.val.toNat = 0
    omega
  split at member
  · simp only [List.mem_cons, List.not_mem_nil, or_false] at member
    rcases member with one | one
    · have := zero _ one; omega
    · have := zero _ one; omega
  split at member
  · simp only [List.mem_cons, List.not_mem_nil, or_false] at member
    rcases member with one | one | one
    · have := zero _ one; omega
    · have := zero _ one; omega
    · have := zero _ one; omega
  · simp only [List.mem_cons, List.not_mem_nil, or_false] at member
    rcases member with one | one | one | one
    · have := zero _ one; omega
    · have := zero _ one; omega
    · have := zero _ one; omega
    · have := zero _ one; omega

omit [FloatText φ] in
theorem record_sorted (text : String) :
    (ingressRecord (φ := φ) text).sorted = ingressRecord text := by
  have ascending : [("schema_version", Json.str (φ := φ) ingressTextSchemaVersion),
      ("text", .str text)].Pairwise keyLe := by
    refine List.pairwise_cons.mpr ⟨fun other member => ?_, List.pairwise_singleton _ _⟩
    rw [List.mem_singleton.mp member]
    show ("schema_version" : String) ≤ "text"
    decide
  exact congrArg Json.dict ascending.insertionSort_eq

theorem record_bytes (text : String) : canonicalBytes (φ := φ) (ingressRecord text) =
    utf8Encode ('{' :: (quoted "schema_version" ++ ':' :: (quoted ingressTextSchemaVersion ++
      ',' :: (quoted "text" ++ ':' :: (quoted text ++ ['}']))))) := by
  rw [canonicalBytes, record_sorted]
  rfl

theorem record_no_nul (text : String) :
    (canonicalBytes (φ := φ) (ingressRecord text)).contains 0 = false := by
  rw [record_bytes, Bool.eq_false_iff]
  intro contained
  obtain ⟨c, listed, encoded⟩ := List.mem_flatMap.mp (List.contains_iff_mem.mp contained)
  rw [nul_of_encoded_zero encoded] at listed
  simp only [List.mem_cons, List.mem_append, quoted_no_nul, List.not_mem_nil, false_or,
    or_false] at listed
  revert listed
  decide

/-! ### The reasons -/

section Reasons

variable {platform : ScannerPlatform φ}

omit [FloatText φ] in
theorem reasonIf_eq_nil {wrong : Bool} {reason : String} :
    reasonIf wrong reason = [] ↔ wrong = false := by
  cases wrong <;> simp [reasonIf]

omit [FloatText φ] in
theorem textReasons_eq_nil (nul : platform.control '\x00' = true) (text : String) :
    textReasons platform text = [] ↔ CleanText platform text := by
  have controls : (text.toList.any fun c => c == '\x00' || platform.control c) = false ↔
      ∀ c ∈ text.toList, platform.control c = false := by
    rw [List.any_eq_false]
    constructor
    · intro none c member
      exact (Bool.or_eq_false_iff.mp (Bool.eq_false_iff.mpr (none c member))).2
    · intro none c member found
      rcases Bool.or_eq_true_iff.mp found with isNul | isControl
      · rw [← beq_iff_eq.mp isNul, none c member] at nul
        cases nul
      · rw [none c member] at isControl
        cases isControl
  unfold textReasons
  rw [List.append_eq_nil_iff, List.append_eq_nil_iff, reasonIf_eq_nil, reasonIf_eq_nil,
    reasonIf_eq_nil, controls]
  exact ⟨fun ⟨⟨one, two⟩, three⟩ => ⟨one, two, three⟩, fun clean =>
    ⟨⟨clean.control, clean.credential⟩, clean.promptAuthority⟩⟩

variable {members : List (String × Json φ)}

omit [FloatText φ] in
theorem mem_stringsOfMembers {key text : String}
    (member : (key, .str text) ∈ members) : text ∈ stringsOfMembers members := by
  induction members with
  | nil => cases member
  | cons first rest ih =>
      obtain ⟨other, nested⟩ := first
      rw [stringsOfMembers]
      refine List.mem_cons_of_mem _ (List.mem_append.mpr ?_)
      rcases List.mem_cons.mp member with same | later
      · cases same
        exact .inl (List.mem_singleton_self text)
      · exact .inr (ih later)

omit [FloatText φ] in
/-- A value of the accepted shape is the record of its text, its members in some order. -/
theorem ingressShape_cases {value : Json φ} (shaped : ingressShape value = true) :
    ∃ text members, text ≠ "" ∧ value = .dict members ∧
      members.Perm [("schema_version", .str ingressTextSchemaVersion), ("text", .str text)] := by
  cases value with
  | dict members =>
      rw [ingressShape, Bool.and_eq_true, Bool.and_eq_true, decide_eq_true_iff] at shaped
      obtain ⟨⟨keys, version⟩, isText⟩ := shaped
      split at version
      swap
      · cases version
      rename_i found versionFound
      split at isText
      swap
      · cases isText
      rename_i text textFound
      rw [beq_iff_eq] at version
      subst version
      refine ⟨text, members, by simpa using isText, rfl,
        Dict.perm_of_fields ?_ (by simp [Dict.keys]) ?_ ?_⟩
      · exact keys.nodup_iff.mpr (by decide)
      · exact fun entry member => keys.mem_iff.mp (List.mem_map_of_mem member)
      · intro field member
        rcases List.mem_pair.mp member with rfl | rfl
        · exact versionFound
        · exact textFound
  | null => cases shaped
  | bool flag => cases shaped
  | int number => cases shaped
  | float number => cases shaped
  | str text => cases shaped
  | list items => cases shaped

/-- Members in another order are written as the same bytes. -/
theorem canonicalBytes_perm {text : String}
    (perm : members.Perm [("schema_version", .str ingressTextSchemaVersion),
      ("text", .str text)]) :
    canonicalBytes (.dict members) = canonicalBytes (φ := φ) (ingressRecord text) := by
  have sorted : (Json.dict members).sorted = (ingressRecord text).sorted := by
    rw [Json.sorted, ingressRecord, Json.sorted, sortedMembers_eq_map, sortedMembers_eq_map]
    have reordered := perm.map fun member : String × Json φ => (member.1, member.2.sorted)
    refine congrArg Json.dict (sortMembers_eq_of_perm reordered ?_)
    exact (reordered.map Prod.fst).nodup_iff.mpr (by simp)
  rw [canonicalBytes, canonicalBytes, sorted]

/-- A value without reasons is the record of a clean text. -/
theorem record_of_valueReasons (nul : platform.control '\x00' = true) {raw : Bytes}
    {value : Json φ} (none : valueReasons platform raw value = []) :
    ∃ text : String, text ≠ "" ∧ raw = canonicalBytes (φ := φ) (ingressRecord text) ∧
      CleanText platform text := by
  unfold valueReasons at none
  rw [List.append_eq_nil_iff, List.append_eq_nil_iff, List.append_eq_nil_iff, reasonIf_eq_nil,
    reasonIf_eq_nil, List.flatMap_eq_nil_iff] at none
  obtain ⟨⟨⟨canonical, shape⟩, _⟩, strings⟩ := none
  obtain ⟨text, members, nonempty, rfl, perm⟩ :=
    ingressShape_cases (show ingressShape value = true by simpa using shape)
  refine ⟨text, nonempty, ?_, ?_⟩
  · rw [← canonicalBytes_perm perm]
    exact (not_not.mp (of_decide_eq_false canonical)).symm
  · have listed : ("text", Json.str text) ∈ members :=
      perm.mem_iff.mpr (List.mem_cons_of_mem _ (List.mem_singleton_self _))
    exact (textReasons_eq_nil nul text).mp (strings text (mem_stringsOfMembers listed))

/-- The record of a clean text gives no reason. -/
theorem valueReasons_record (faithful : platform.Faithful) {text : String} (nonempty : text ≠ "")
    (clean : CleanText platform text) :
    valueReasons platform (canonicalBytes (φ := φ) (ingressRecord text)) (ingressRecord text) =
      [] := by
  have names : ∀ key ∈ ["schema_version", "text"],
      namesAuthority platform.casefold key = false := by
    intro key member
    rw [namesAuthority, keyParts, faithful.casefold key member]
    rcases List.mem_pair.mp member with rfl | rfl
    · decide
    · decide
  have authority : hasAuthorityKey platform.casefold (ingressRecord (φ := φ) text) = false := by
    simp [ingressRecord, hasAuthorityKey, anyAuthorityKey, listedAuthorityKey,
      names "schema_version" (by simp), names "text" (by simp)]
  have shape : ingressShape (ingressRecord (φ := φ) text) = true := by
    simp [ingressShape, ingressRecord, Dict.keys, Dict.get?, nonempty]
  unfold valueReasons
  rw [List.append_eq_nil_iff, List.append_eq_nil_iff, List.append_eq_nil_iff, reasonIf_eq_nil,
    reasonIf_eq_nil, reasonIf_eq_nil, List.flatMap_eq_nil_iff]
  refine ⟨⟨⟨decide_eq_false (not_not_intro rfl), by rw [shape]; rfl⟩, authority⟩, ?_⟩
  intro found member
  rw [textReasons_eq_nil faithful.nul]
  simp only [ingressRecord, stringsOf, stringsOfMembers, List.singleton_append, List.mem_cons,
    List.not_mem_nil, or_false] at member
  rcases member with rfl | rfl | rfl | rfl
  · exact faithful.fixed _ (by simp)
  · exact faithful.fixed _ (by simp)
  · exact faithful.fixed _ (by simp)
  · exact clean

end Reasons

/-! ### The promise -/

/-- A receipt keeps the promise when it has no reason exactly for admissible bytes. -/
theorem scansAsPromised_of_reasons {platform : ScannerPlatform φ} {raw : Bytes}
    {source : SourceClass} {reasons : List String}
    (answered : scan platform raw source.val = .ok (scanReceipt platform raw source reasons))
    (exact : reasons = [] ↔ AdmissibleBytes platform raw) :
    ScansAsPromised platform raw source := by
  refine ⟨_, answered, List.isEmpty_iff.trans exact, fun refused => ?_⟩
  have some : reasons ≠ [] := fun none => by
    rw [none] at refused
    cases refused
  refine ⟨?_, ?_, sortedSet_pairwise reasons⟩
  · exact if_neg fun none => some (List.isEmpty_iff.mp none)
  · exact fun none => some (sortedSet_eq_nil_iff.mp none)

/-- The scan of a source class that is taken. -/
theorem scan_eq (platform : ScannerPlatform φ) (raw : Bytes) (source : SourceClass) :
    scan platform raw source.val =
      if raw = [] ∨ maxIngressBytes < raw.length then
        .ok (scanReceipt platform raw source ["SIZE_INVALID"])
      else if utf8Decode raw = none then
        .ok (scanReceipt platform raw source
          (reasonIf (raw.contains 0) "NUL_BYTE" ++ ["UTF8_INVALID"]))
      else match platform.loads raw with
        | .invalid => .ok (scanReceipt platform raw source
            (reasonIf (raw.contains 0) "NUL_BYTE" ++ ["JSON_SHAPE_INVALID"]))
        | .tooDeep => .error .recursion
        | .surrogate => .error .unicodeEncode
        | .value value =>
            if platform.overflows value then .error .recursion
            else .ok (scanReceipt platform raw source
              (reasonIf (raw.contains 0) "NUL_BYTE" ++ valueReasons platform raw value)) := by
  unfold scan
  rw [dif_pos source.property]

theorem Scannable.of_answer {platform : ScannerPlatform φ} {raw : Bytes} {source : SourceClass}
    {receipt : ScanReceipt} (answered : scan platform raw source.val = .ok receipt) :
    Scannable platform raw := by
  rw [scan_eq] at answered
  split at answered
  · rename_i size
    exact size.elim .inl fun large => .inr (.inl large)
  split at answered
  · rename_i undecodable
    exact .inr (.inr (.inl undecodable))
  split at answered
  · rename_i invalid
    exact .inr (.inr (.inr (.inl invalid)))
  · cases answered
  · cases answered
  · rename_i value loaded
    split at answered
    · cases answered
    · rename_i fits
      exact .inr (.inr (.inr (.inr ⟨value, loaded, Bool.eq_false_iff.mpr fits⟩)))

/-- The scanner keeps its promise exactly on what the parser and the encoder get through. -/
theorem scan_promise (platform : ScannerPlatform φ) (faithful : platform.Faithful) (raw : Bytes)
    (source : SourceClass) : ScansAsPromised platform raw source ↔ Scannable platform raw := by
  constructor
  · rintro ⟨receipt, answered, _⟩
    exact .of_answer answered
  intro scannable
  have decodes : ∀ text : String,
      utf8Decode (canonicalBytes (φ := φ) (ingressRecord text)) ≠ none := fun text none => by
      rw [canonicalBytes, utf8Decode_utf8Encode] at none
      cases none
  by_cases size : raw = [] ∨ maxIngressBytes < raw.length
  · have answered : scan platform raw source.val =
        .ok (scanReceipt platform raw source ["SIZE_INVALID"]) := by
      rw [scan_eq, if_pos size]
    refine scansAsPromised_of_reasons answered ⟨fun none => (List.cons_ne_nil _ _ none).elim, ?_⟩
    rintro ⟨small, text, _, rfl, _⟩
    rcases size with empty | large
    · have first : (canonicalBytes (φ := φ) (ingressRecord text)).length = 0 := by
        rw [empty, List.length_nil]
      rw [record_bytes, utf8Encode, List.flatMap_cons, List.length_append,
        String.length_utf8EncodeChar] at first
      have positive := Char.utf8Size_pos '{'
      omega
    · exact absurd small (not_le.mpr large)
  by_cases undecodable : utf8Decode raw = none
  · have answered : scan platform raw source.val = .ok (scanReceipt platform raw source
        (reasonIf (raw.contains 0) "NUL_BYTE" ++ ["UTF8_INVALID"])) := by
      rw [scan_eq, if_neg size, if_pos undecodable]
    refine scansAsPromised_of_reasons answered
      ⟨fun none => absurd (List.append_eq_nil_iff.mp none).2 (List.cons_ne_nil _ _), ?_⟩
    rintro ⟨_, text, _, rfl, _⟩
    exact absurd undecodable (decodes text)
  have rest := ((scannable.resolve_left fun empty => size (.inl empty)).resolve_left
    fun large => size (.inr large)).resolve_left undecodable
  rcases rest with invalid | ⟨value, loaded, fits⟩
  · have answered : scan platform raw source.val = .ok (scanReceipt platform raw source
        (reasonIf (raw.contains 0) "NUL_BYTE" ++ ["JSON_SHAPE_INVALID"])) := by
      rw [scan_eq, if_neg size, if_neg undecodable, invalid]
    refine scansAsPromised_of_reasons answered
      ⟨fun none => absurd (List.append_eq_nil_iff.mp none).2 (List.cons_ne_nil _ _), ?_⟩
    rintro ⟨_, text, _, rfl, _⟩
    rw [faithful.readsBack] at invalid
    cases invalid
  · have answered : scan platform raw source.val = .ok (scanReceipt platform raw source
        (reasonIf (raw.contains 0) "NUL_BYTE" ++ valueReasons platform raw value)) := by
      rw [scan_eq, if_neg size, if_neg undecodable, loaded]
      exact if_neg (Bool.eq_false_iff.mp fits)
    refine scansAsPromised_of_reasons answered ⟨fun none => ?_, ?_⟩
    · refine ⟨not_lt.mp fun large => size (.inr large), ?_⟩
      exact record_of_valueReasons faithful.nul (List.append_eq_nil_iff.mp none).2
    · rintro ⟨_, text, nonempty, rfl, clean⟩
      rw [faithful.readsBack] at loaded
      cases loaded
      rw [record_no_nul, valueReasons_record faithful nonempty clean]
      rfl

namespace ScannerSample

open ChannelSample (lengthSum)

/-- The JSON text of a lone surrogate. -/
def surrogateText : List Char := ['"', '\\', 'u', 'd', '8', '0', '0', '"']

def surrogateBytes : Bytes := utf8Encode surrogateText

def platform : ScannerPlatform Empty where
  sha256 := lengthSum
  scannerSha256 := 0
  loads raw :=
    if raw = surrogateBytes then .surrogate
    else match readCompact raw with
      | some value => .value value
      | none => .invalid
  overflows _ := false
  casefold := id
  control c := c.toNat < 32 || (127 ≤ c.toNat && c.toNat < 160)
  credential text := "sk-".toList.isPrefixOf text.toList && 23 ≤ text.length
  promptAuthority text := text == "bypass the scanner"

def source : SourceClass := ⟨"guest_output", by decide⟩

theorem record_ne_surrogate (text : String) :
    canonicalBytes (φ := Empty) (ingressRecord text) ≠ surrogateBytes := by
  intro same
  rw [record_bytes] at same
  have chars := congrArg utf8Decode same
  rw [utf8Decode_utf8Encode, surrogateBytes, utf8Decode_utf8Encode, Option.some.injEq] at chars
  exact absurd (List.cons.inj chars).1 (by decide)

theorem uncontrolled (text : String)
    (all : (text.toList.all fun c => !platform.control c) = true) :
    ∀ c ∈ text.toList, platform.control c = false := by
  intro c member
  exact (Bool.not_eq_true' _).mp (List.all_eq_true.mp all c member)

theorem faithful : platform.Faithful where
  readsBack := by
    intro text
    show (if _ = surrogateBytes then _ else _) = _
    rw [if_neg (record_ne_surrogate text), canonicalBytes, record_sorted, readCompact_text]
  casefold := fun _ _ => rfl
  nul := by decide
  fixed := by
    intro text member
    simp only [List.mem_cons, List.not_mem_nil, or_false] at member
    rcases member with rfl | rfl | rfl
    · exact ⟨uncontrolled _ (by decide +kernel), by decide, by decide⟩
    · exact ⟨uncontrolled _ (by decide +kernel), by decide, by decide⟩
    · exact ⟨uncontrolled _ (by decide +kernel), by decide, by decide⟩

theorem scan_promise_sample :
    ScansAsPromised platform (canonicalBytes (φ := Empty) (ingressRecord "hello")) source :=
  (scan_promise platform faithful _ source).mpr
    (.inr (.inr (.inr (.inr ⟨_, faithful.readsBack "hello", rfl⟩))))

/-- A lone surrogate is read, and its encoding raises. -/
theorem surrogate_raises : scan platform surrogateBytes "guest_output" = .error .unicodeEncode := by
  have sized : ¬ (surrogateBytes = [] ∨ maxIngressBytes < surrogateBytes.length) := by decide
  have decoded : ¬ utf8Decode surrogateBytes = none := by
    rw [surrogateBytes, utf8Decode_utf8Encode]
    exact nofun
  have answer := scan_eq platform surrogateBytes source
  rw [if_neg sized, if_neg decoded] at answer
  exact answer

end ScannerSample

end EgoAgent.SecureMemory
