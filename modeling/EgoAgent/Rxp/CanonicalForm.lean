import EgoAgent.Lib.JsonEquality
import EgoAgent.Rxp.Sample

/-!
The canonical bytes as an encoding: they can be read back, they are the bytes of what is read, and
they decide equality of the normalised values.
-/

namespace EgoAgent.Rxp

open Platform

section General

variable [Platform]

/-- An encoded value and what it encodes. -/
theorem canonicalBytesOf_eq_ok_iff (value : Value) (bytes : Bytes) :
    canonicalBytesOf value = .ok bytes ↔
      ∃ normal, value.normalise unicode = some normal ∧ utf8Encode normal.sorted.text = bytes := by
  rw [canonicalBytesOf_eq_ok, canonicalBytes_eq_some_iff, Value.canon_eq_sorted]
  constructor
  · rintro ⟨_, sorted, encoded⟩
    obtain ⟨normal, normalEq, rfl⟩ := Option.map_eq_some_iff.mp sorted
    exact ⟨normal, normalEq, encoded⟩
  · rintro ⟨normal, normalEq, encoded⟩
    exact ⟨normal.sorted, by rw [normalEq, Option.map_some], encoded⟩

/-- Reading an encoded value gives its normalisation with every object sorted. -/
theorem readBytes_of_encoded {value normal : Value}
    (normalised : value.normalise unicode = some normal) :
    readBytes (utf8Encode normal.sorted.text) = some normal.sorted := by
  refine readBytes_utf8Encode_text _ (Value.plain_of_canon unicode value _ ?_)
  rw [Value.canon_eq_sorted, normalised, Option.map_some]

theorem encoded_again {value normal : Value} (normalised : value.normalise unicode = some normal) :
    canonicalBytesOf normal.sorted = .ok (utf8Encode normal.sorted.text) := by
  have canonical : value.canon unicode = some normal.sorted := by
    rw [Value.canon_eq_sorted, normalised, Option.map_some]
  have fixed : normal.sorted.canon unicode = some normal.sorted :=
    Value.canon_isCanon unicode value _ canonical
  rw [canonicalBytesOf_eq_ok, canonicalBytes_eq_some_iff]
  exact ⟨_, fixed, rfl⟩

omit [Platform] in
/-- The sorted value is equal to the normalised one. -/
theorem sameJson_sorted {normal : Value} (distinct : normal.Distinct) :
    sameJson normal.sorted normal :=
  (sameJson_iff _ _ (Value.sorted_distinct normal distinct) distinct).mpr
    (Value.sorted_idem normal distinct)

/-- The canonical bytes are an invertible canonical encoding of the normalised values. -/
theorem canonical_bytes_invertible :
    (∀ value bytes, canonicalBytesOf value = .ok bytes →
      ∃ normal parsed, value.normalise unicode = some normal ∧ readBytes bytes = some parsed ∧
        sameJson parsed normal ∧ canonicalBytesOf parsed = .ok bytes) ∧
    ∀ left right leftBytes rightBytes, canonicalBytesOf left = .ok leftBytes →
      canonicalBytesOf right = .ok rightBytes →
        ∃ leftNormal rightNormal, left.normalise unicode = some leftNormal ∧
          right.normalise unicode = some rightNormal ∧
          (leftBytes = rightBytes ↔ sameJson leftNormal rightNormal) := by
  constructor
  · intro value bytes encoded
    obtain ⟨normal, normalised, rfl⟩ := (canonicalBytesOf_eq_ok_iff value bytes).mp encoded
    exact ⟨normal, normal.sorted, normalised, readBytes_of_encoded normalised,
      sameJson_sorted (Value.distinct_of_normalise unicode value normal normalised),
      encoded_again normalised⟩
  · intro left right leftBytes rightBytes leftEncoded rightEncoded
    obtain ⟨leftNormal, leftNormalised, rfl⟩ := (canonicalBytesOf_eq_ok_iff _ _).mp leftEncoded
    obtain ⟨rightNormal, rightNormalised, rfl⟩ := (canonicalBytesOf_eq_ok_iff _ _).mp rightEncoded
    refine ⟨leftNormal, rightNormal, leftNormalised, rightNormalised, ?_⟩
    rw [sameJson_iff _ _ (Value.distinct_of_normalise unicode left _ leftNormalised)
      (Value.distinct_of_normalise unicode right _ rightNormalised)]
    constructor
    · intro same
      have read := congrArg readBytes same
      rw [readBytes_of_encoded leftNormalised, readBytes_of_encoded rightNormalised] at read
      exact Option.some.inj read
    · intro same
      rw [same]

end General

namespace Sample

/-- An object out of order that holds a tuple. -/
def unordered : Value := .dict [("b", .bool true), ("a", .tuple [.int 1])]

theorem unordered_encoded : canonicalBytesOf unordered =
    .ok (asciiBytes "\x7b\"a\":[1],\"b\":true\x7d") := by
  rw [canonicalBytesOf_eq_ok_iff]
  exact ⟨.dict [("b", .bool true), ("a", .list [.int 1])], rfl, by decide +kernel⟩

theorem canonical_bytes_invertible_sample :
    ∃ parsed, readBytes (asciiBytes "\x7b\"a\":[1],\"b\":true\x7d") = some parsed ∧
      sameJson parsed (.dict [("b", .bool true), ("a", .list [.int 1])]) := by
  obtain ⟨normal, parsed, ⟨⟩, read, same, _⟩ :=
    canonical_bytes_invertible.1 unordered _ unordered_encoded
  exact ⟨parsed, read, same⟩

end Sample

end EgoAgent.Rxp
