import EgoAgent.Api.ApprovalToken

/-!
How many bytes a document takes on the wire.
-/

namespace EgoAgent.Api

section Documents

variable {φ : Type} [FloatText φ]

theorem wireLength_textItems (items : List (Json φ)) :
    wireLength (jsonTextItems items) =
      1 + (items.map fun item => wireLength item.text + 1).sum := by
  induction items with
  | nil => rfl
  | cons item rest ih =>
      have comma : ','.utf8Size = 1 := rfl
      rw [jsonTextItems, wireLength_cons, wireLength_append, ih, comma, List.map_cons,
        List.sum_cons]
      omega

theorem wireLength_textMembers (members : List (String × Json φ)) :
    wireLength (jsonTextMembers members) =
      1 + (members.map fun member =>
        wireLength (quoted member.1) + 2 + wireLength member.2.text).sum := by
  induction members with
  | nil => rfl
  | cons member rest ih =>
      obtain ⟨key, value⟩ := member
      have comma : ','.utf8Size = 1 := rfl
      have colon : ':'.utf8Size = 1 := rfl
      rw [jsonTextMembers, wireLength_cons, wireLength_append, wireLength_cons, wireLength_append,
        ih, comma, colon, List.map_cons, List.sum_cons]
      dsimp only
      omega

theorem wireLength_list (items : List (Json φ)) :
    wireLength (Json.list items).text =
      1 + (if items = [] then 1 else 0) +
        (items.map fun item => wireLength item.text + 1).sum := by
  cases items with
  | nil => rfl
  | cons item rest =>
      have mark : '['.utf8Size = 1 := rfl
      rw [Json.text, wireLength_cons, wireLength_append, wireLength_textItems, mark,
        if_neg (List.cons_ne_nil item rest), List.map_cons, List.sum_cons]
      omega

variable {members : List (String × Json φ)}

theorem wireLength_dict (some : members ≠ []) :
    wireLength (Json.dict members).text =
      1 + (members.map fun member =>
        wireLength (quoted member.1) + 2 + wireLength member.2.text).sum := by
  cases members with
  | nil => exact absurd rfl some
  | cons member rest =>
      obtain ⟨key, value⟩ := member
      have mark : '{'.utf8Size = 1 := rfl
      have colon : ':'.utf8Size = 1 := rfl
      rw [Json.text, wireLength_cons, wireLength_append, wireLength_cons, wireLength_append,
        wireLength_textMembers, mark, colon, List.map_cons, List.sum_cons]
      dsimp only
      omega

/-- The order of members does not change the length. -/
theorem wireLength_sorted_dict (some : members ≠ []) :
    wireLength (Json.dict members).sorted.text =
      1 + (members.map fun member =>
        wireLength (quoted member.1) + 2 + wireLength member.2.sorted.text).sum := by
  have perm : (sortMembers (sortedMembers members)).Perm (sortedMembers members) :=
    List.perm_insertionSort _ _
  have notEmpty : sortMembers (sortedMembers members) ≠ [] := by
    intro empty
    rw [empty, sortedMembers_eq_map] at perm
    exact some (List.map_eq_nil_iff.mp perm.symm.eq_nil)
  rw [Json.sorted, wireLength_dict notEmpty, (perm.map _).sum_nat, sortedMembers_eq_map,
    List.map_map]
  rfl

end Documents

/-! ### Digests -/

theorem hexDigits_wire (count value : Nat) : ∀ c ∈ hexDigits count value, isWireChar c := by
  have digit : ∀ value, value < 16 → 45 ≤ (hexDigit value).toNat ∧
      (hexDigit value).toNat ≤ 122 ∧ (hexDigit value).toNat ≠ 92 := by decide
  induction count generalizing value with
  | zero => exact nofun
  | succ count ih =>
      intro c present
      rw [hexDigits, List.mem_append, List.mem_singleton] at present
      rcases present with earlier | rfl
      · exact ih _ c earlier
      · exact digit _ (Nat.mod_lt _ (by decide))

theorem wireLength_quoted_digest (digest : Digest) :
    wireLength (quoted (digest.labelled "")) = 66 := by
  have hex : (digest.labelled "").toList = digest.hex := by
    rw [Digest.labelled_toList, String.toList_empty, List.nil_append]
  have length : digest.hex.length = 64 := hexDigits_length 64 _
  rw [wireLength_quoted, hex, wireLength_escaped_wire digest.hex (hexDigits_wire 64 _), length]

end EgoAgent.Api
