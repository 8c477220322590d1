import EgoAgent.Lib.JsonText

/-!
256-bit digests, their lower-case hexadecimal text and their 32 bytes.

A digest is a bit vector, so every text it renders is well formed.  Rendering
and the byte form are injective; `Digest.ofText` reads exactly rendered texts.
-/

namespace EgoAgent

abbrev Digest := BitVec 256

instance : LawfulBEq Digest := inferInstance

/-! ### Hexadecimal -/

/-- The `count` low hexadecimal digits, most significant first. -/
def hexDigits : Nat → Nat → List Char
  | 0, _ => []
  | count + 1, value => hexDigits count (value / 16) ++ [hexDigit (value % 16)]

def lowerHexValue (c : Char) : Option Nat :=
  if '0' ≤ c ∧ c ≤ '9' then some (c.toNat - 48)
  else if 'a' ≤ c ∧ c ≤ 'f' then some (c.toNat - 87)
  else none

def readHexFrom : Nat → List Char → Option Nat
  | value, [] => some value
  | value, c :: rest => (lowerHexValue c).bind fun digit => readHexFrom (value * 16 + digit) rest

private theorem lowerHexValue_hexDigit : ∀ value, value < 16 →
    lowerHexValue (hexDigit value) = some value := by
  decide

theorem hexDigits_length (count value : Nat) : (hexDigits count value).length = count := by
  induction count generalizing value with
  | zero => rfl
  | succ count ih => simp [hexDigits, ih]

private theorem readHexFrom_append (value : Nat) (left right : List Char) :
    readHexFrom value (left ++ right) =
      (readHexFrom value left).bind fun middle => readHexFrom middle right := by
  induction left generalizing value with
  | nil => rfl
  | cons c rest ih =>
      simp only [List.cons_append, readHexFrom]
      cases lowerHexValue c with
      | none => rfl
      | some digit => simp only [Option.bind_some, ih]

theorem readHexFrom_hexDigits (count start value : Nat) :
    readHexFrom start (hexDigits count value) = some (start * 16 ^ count + value % 16 ^ count) := by
  induction count generalizing value with
  | zero => simp [hexDigits, readHexFrom, Nat.mod_one]
  | succ count ih =>
      have digit := lowerHexValue_hexDigit (value % 16) (Nat.mod_lt _ (by decide))
      have split : value % 16 ^ (count + 1) = value / 16 % 16 ^ count * 16 + value % 16 := by
        rw [Nat.pow_succ, Nat.mul_comm (16 ^ count) 16, Nat.mod_mul]
        omega
      rw [hexDigits, readHexFrom_append, ih]
      simp only [Option.bind_some, readHexFrom, digit]
      rw [split, Nat.pow_succ, Nat.add_mul, Nat.mul_assoc, Nat.add_assoc]

/-! ### Digest text -/

def Digest.hex (digest : Digest) : List Char := hexDigits 64 digest.toNat

def Digest.ofHex (chars : List Char) : Option Digest :=
  if chars.length = 64 then (readHexFrom 0 chars).map (BitVec.ofNat 256) else none

theorem Digest.ofHex_hex (digest : Digest) : Digest.ofHex digest.hex = some digest := by
  have bound : digest.toNat < 16 ^ 64 := lt_of_lt_of_eq digest.isLt (by decide)
  unfold Digest.ofHex Digest.hex
  rw [if_pos (hexDigits_length 64 _), readHexFrom_hexDigits, Nat.mod_eq_of_lt bound]
  simp

/-- A digest under a label such as `sha256:`. -/
def Digest.labelled (label : String) (digest : Digest) : String :=
  label ++ String.ofList digest.hex

theorem Digest.labelled_toList (label : String) (digest : Digest) :
    (digest.labelled label).toList = label.toList ++ digest.hex := by
  rw [Digest.labelled, String.toList_append]
  exact congrArg _ String.toList_ofList

def Digest.ofLabelled (label text : String) : Option Digest :=
  if text.toList.take label.length = label.toList then
    Digest.ofHex (text.toList.drop label.length)
  else none

theorem Digest.ofLabelled_labelled (label : String) (digest : Digest) :
    Digest.ofLabelled label (digest.labelled label) = some digest := by
  unfold Digest.ofLabelled Digest.labelled
  rw [String.toList_append, String.toList_ofList, ← String.length_toList,
    List.take_left, List.drop_left, if_pos rfl, Digest.ofHex_hex]

theorem Digest.labelled_injective (label : String) {left right : Digest}
    (same : left.labelled label = right.labelled label) : left = right := by
  have read := congrArg (Digest.ofLabelled label) same
  rw [Digest.ofLabelled_labelled, Digest.ofLabelled_labelled] at read
  exact Option.some.inj read

private theorem hexDigit_ascii : ∀ value, value < 16 → (hexDigit value).toNat < 128 := by
  decide

theorem hexDigits_ascii (count value : Nat) : ∀ c ∈ hexDigits count value, c.toNat < 128 := by
  induction count generalizing value with
  | zero => intro c present; cases present
  | succ count ih =>
      intro c present
      rw [hexDigits, List.mem_append, List.mem_singleton] at present
      rcases present with earlier | rfl
      · exact ih _ c earlier
      · exact hexDigit_ascii _ (Nat.mod_lt _ (by decide))

theorem Digest.labelled_ascii (label : String) (digest : Digest)
    (labelAscii : ∀ c ∈ label.toList, c.toNat < 128) :
    ∀ c ∈ (digest.labelled label).toList, c.toNat < 128 := by
  intro c present
  rw [Digest.labelled, String.toList_append, String.toList_ofList, List.mem_append] at present
  rcases present with inLabel | inHex
  · exact labelAscii c inLabel
  · exact hexDigits_ascii _ _ c inHex

/-! ### Digest bytes -/

/-- The `count` low bytes, most significant first. -/
def bytesBE : Nat → Nat → Bytes
  | 0, _ => []
  | count + 1, value => bytesBE count (value / 256) ++ [UInt8.ofNat (value % 256)]

theorem bytesBE_length (count value : Nat) : (bytesBE count value).length = count := by
  induction count generalizing value with
  | zero => rfl
  | succ count ih => simp [bytesBE, ih]

theorem bytesBE_injective (count : Nat) {left right : Nat}
    (leftBound : left < 256 ^ count) (rightBound : right < 256 ^ count)
    (same : bytesBE count left = bytesBE count right) : left = right := by
  induction count generalizing left right with
  | zero =>
      simp only [Nat.pow_zero, Nat.lt_one_iff] at leftBound rightBound
      rw [leftBound, rightBound]
  | succ count ih =>
      rw [bytesBE, bytesBE, List.append_singleton_inj] at same
      obtain ⟨highEq, lowEq⟩ := same
      have high : left / 256 = right / 256 := by
        apply ih _ _ highEq
        · rw [Nat.pow_succ] at leftBound; omega
        · rw [Nat.pow_succ] at rightBound; omega
      have low : left % 256 = right % 256 := by
        have value := congrArg UInt8.toNat lowEq
        simpa [UInt8.toNat_ofNat] using value
      omega

def Digest.bytes (digest : Digest) : Bytes := bytesBE 32 digest.toNat

theorem Digest.bytes_length (digest : Digest) : digest.bytes.length = 32 :=
  bytesBE_length 32 _

theorem Digest.bytes_injective {left right : Digest} (same : left.bytes = right.bytes) :
    left = right :=
  BitVec.eq_of_toNat_eq (bytesBE_injective 32
    (lt_of_lt_of_eq left.isLt (by decide)) (lt_of_lt_of_eq right.isLt (by decide)) same)

/-! ### Order -/

/-- Digests are ordered as the texts they render. -/
def digestLe (left right : Digest) : Prop := left.labelled "" ≤ right.labelled ""

instance : DecidableRel digestLe :=
  fun left right => inferInstanceAs (Decidable (left.labelled "" ≤ right.labelled ""))

instance : Std.Total digestLe := ⟨fun left right => le_total (left.labelled "") (right.labelled "")⟩

instance : IsTrans Digest digestLe := ⟨fun _ _ _ first second => le_trans first second⟩

instance : Std.Antisymm digestLe :=
  ⟨fun _ _ first second => Digest.labelled_injective "" (le_antisymm first second)⟩

def sortDigests (digests : List Digest) : List Digest := digests.insertionSort digestLe

theorem sortDigests_perm (digests : List Digest) : (sortDigests digests).Perm digests :=
  List.perm_insertionSort digestLe digests

theorem sortDigests_sorted (digests : List Digest) :
    (sortDigests digests).Pairwise digestLe :=
  List.pairwise_insertionSort digestLe digests

end EgoAgent
