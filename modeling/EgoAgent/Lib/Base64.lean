import EgoAgent.Lib.Digest

/-!
URL-safe base64 without padding.

Three bytes are four sextets; one or two bytes at the end are two or three.
Reading what was written gives the bytes back.
-/

namespace EgoAgent

/-- The character of a sextet. -/
def sextetChar (value : Nat) : Char :=
  if value < 26 then Char.ofNat (65 + value)
  else if value < 52 then Char.ofNat (71 + value)
  else if value < 62 then Char.ofNat (value - 4)
  else if value = 62 then '-'
  else '_'

def sextetValue (c : Char) : Option Nat :=
  if 'A' ≤ c ∧ c ≤ 'Z' then some (c.toNat - 65)
  else if 'a' ≤ c ∧ c ≤ 'z' then some (c.toNat - 71)
  else if '0' ≤ c ∧ c ≤ '9' then some (c.toNat + 4)
  else if c = '-' then some 62
  else if c = '_' then some 63
  else none

theorem sextetValue_sextetChar : ∀ value, value < 64 → sextetValue (sextetChar value) = some value := by
  decide

/-- The sextets of a byte string. -/
def toSextets : Bytes → List Nat
  | [] => []
  | [a] => [a.toNat / 4, a.toNat % 4 * 16]
  | [a, b] => [a.toNat / 4, a.toNat % 4 * 16 + b.toNat / 16, b.toNat % 16 * 4]
  | a :: b :: c :: rest =>
      a.toNat / 4 :: (a.toNat % 4 * 16 + b.toNat / 16) :: (b.toNat % 16 * 4 + c.toNat / 64) ::
        c.toNat % 64 :: toSextets rest

/-- One sextet alone holds no byte. -/
def ofSextets : List Nat → Option Bytes
  | [] => some []
  | [_] => none
  | [w, x] => some [UInt8.ofNat (w * 4 + x / 16)]
  | [w, x, y] => some [UInt8.ofNat (w * 4 + x / 16), UInt8.ofNat (x % 16 * 16 + y / 4)]
  | w :: x :: y :: z :: rest =>
      (ofSextets rest).map fun later =>
        UInt8.ofNat (w * 4 + x / 16) :: UInt8.ofNat (x % 16 * 16 + y / 4) ::
          UInt8.ofNat (y % 4 * 64 + z) :: later

def base64Encode (bytes : Bytes) : List Char := (toSextets bytes).map sextetChar

def base64Decode (chars : List Char) : Option Bytes := (chars.mapM sextetValue).bind ofSextets

private theorem ofNat_eq {value : Nat} {byte : UInt8} (same : value = byte.toNat) :
    UInt8.ofNat value = byte := by
  rw [same, UInt8.ofNat_toNat]

section

variable (bytes : Bytes)

theorem ofSextets_toSextets : ofSextets (toSextets bytes) = some bytes := by
  induction bytes using toSextets.induct with
  | case1 => rfl
  | case2 a =>
      simp only [toSextets, ofSextets]
      rw [ofNat_eq (by omega : _ = a.toNat)]
  | case3 a b =>
      have bBound := b.toNat_lt
      simp only [toSextets, ofSextets]
      rw [ofNat_eq (by omega : _ = a.toNat), ofNat_eq (by omega : _ = b.toNat)]
  | case4 a b c rest ih =>
      have bBound := b.toNat_lt
      have cBound := c.toNat_lt
      simp only [toSextets, ofSextets, ih, Option.map_some]
      rw [ofNat_eq (by omega : _ = a.toNat), ofNat_eq (by omega : _ = b.toNat),
        ofNat_eq (by omega : _ = c.toNat)]

theorem toSextets_lt : ∀ value ∈ toSextets bytes, value < 64 := by
  induction bytes using toSextets.induct with
  | case1 => intro value present; cases present
  | case2 a =>
      have aBound := a.toNat_lt
      intro value present
      simp only [toSextets, List.mem_cons, List.not_mem_nil, or_false] at present
      omega
  | case3 a b =>
      have aBound := a.toNat_lt
      have bBound := b.toNat_lt
      intro value present
      simp only [toSextets, List.mem_cons, List.not_mem_nil, or_false] at present
      omega
  | case4 a b c rest ih =>
      have aBound := a.toNat_lt
      have bBound := b.toNat_lt
      have cBound := c.toNat_lt
      intro value present
      simp only [toSextets, List.mem_cons] at present
      rcases present with same | same | same | same | later
      · omega
      · omega
      · omega
      · omega
      · exact ih value later

theorem toSextets_length : (toSextets bytes).length = (bytes.length * 4 + 2) / 3 := by
  induction bytes using toSextets.induct with
  | case1 => rfl
  | case2 a => simp [toSextets]
  | case3 a b => simp [toSextets]
  | case4 a b c rest ih =>
      simp only [toSextets, List.length_cons, ih]
      omega

private theorem mapM_sextetValue (values : List Nat) (bounded : ∀ value ∈ values, value < 64) :
    (values.map sextetChar).mapM sextetValue = some values := by
  induction values with
  | nil => rfl
  | cons value rest ih =>
      have head := sextetValue_sextetChar value (bounded value List.mem_cons_self)
      have tail := ih fun other present => bounded other (List.mem_cons_of_mem _ present)
      rw [List.map_cons, List.mapM_cons, head, tail]
      rfl

theorem base64Decode_base64Encode :
    base64Decode (base64Encode bytes) = some bytes := by
  unfold base64Decode base64Encode
  rw [mapM_sextetValue _ (toSextets_lt bytes), Option.bind_some, ofSextets_toSextets]

theorem base64Encode_length :
    (base64Encode bytes).length = (bytes.length * 4 + 2) / 3 := by
  rw [base64Encode, List.length_map, toSextets_length]

private theorem sextetChar_plain : ∀ value, value < 64 →
    sextetChar value ≠ '.' ∧ (sextetChar value).toNat < 128 := by
  decide

theorem base64Encode_plain :
    ∀ c ∈ base64Encode bytes, c ≠ '.' ∧ c.toNat < 128 := by
  intro c present
  obtain ⟨value, member, rfl⟩ := List.mem_map.mp present
  exact sextetChar_plain value (toSextets_lt bytes value member)

end

end EgoAgent
