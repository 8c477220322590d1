import Mathlib

/-!
Roots of append-only chains.

A chain folds its entries into a root with an extension function.  When the
extension is injective on the links two chains really use, and never returns
the genesis root on them, equal roots mean equal chains, whatever their lengths.
-/

namespace EgoAgent

variable {ρ ε : Type}

def chainRoot (extend : ρ → ε → ρ) (genesis : ρ) (entries : List ε) : ρ :=
  entries.foldl extend genesis

/-- Every link of a chain: the root before an entry, and the entry. -/
def chainLinks (extend : ρ → ε → ρ) : ρ → List ε → List (ρ × ε)
  | _, [] => []
  | root, entry :: rest => (root, entry) :: chainLinks extend (extend root entry) rest

theorem chainRoot_append (extend : ρ → ε → ρ) (genesis : ρ) (entries : List ε) (entry : ε) :
    chainRoot extend genesis (entries ++ [entry]) =
      extend (chainRoot extend genesis entries) entry := by
  simp [chainRoot]

theorem chainLinks_append (extend : ρ → ε → ρ) (genesis : ρ) (entries : List ε) (entry : ε) :
    chainLinks extend genesis (entries ++ [entry]) =
      chainLinks extend genesis entries ++ [(chainRoot extend genesis entries, entry)] := by
  induction entries generalizing genesis with
  | nil => rfl
  | cons head rest ih =>
      simp only [List.cons_append, chainLinks, ih, chainRoot, List.foldl_cons]

/-- A root commits to the whole chain.  The induction is on the last entry of
the left chain; the genesis condition excludes a shorter right chain. -/
theorem chainRoot_commits (extend : ρ → ε → ρ) (genesis : ρ) (left right : List ε)
    (injective : ∀ l ∈ chainLinks extend genesis left, ∀ r ∈ chainLinks extend genesis right,
      extend l.1 l.2 = extend r.1 r.2 → l = r)
    (leftFresh : ∀ l ∈ chainLinks extend genesis left, extend l.1 l.2 ≠ genesis)
    (rightFresh : ∀ r ∈ chainLinks extend genesis right, extend r.1 r.2 ≠ genesis)
    (same : chainRoot extend genesis left = chainRoot extend genesis right) :
    left = right := by
  induction left using List.reverseRecOn generalizing right with
  | nil =>
      rcases List.eq_nil_or_concat right with rfl | ⟨earlier, last, rfl⟩
      · rfl
      · have lastLink : (chainRoot extend genesis earlier, last) ∈
            chainLinks extend genesis (earlier ++ [last]) := by
          rw [chainLinks_append]; simp
        rw [List.concat_eq_append, chainRoot_append] at same
        exact absurd same.symm (rightFresh _ (by simpa using lastLink))
  | append_singleton earlier last ih =>
      have lastLink : (chainRoot extend genesis earlier, last) ∈
          chainLinks extend genesis (earlier ++ [last]) := by
        rw [chainLinks_append]; simp
      rcases List.eq_nil_or_concat right with rfl | ⟨before, final, rfl⟩
      · rw [chainRoot_append] at same
        exact absurd same (leftFresh _ lastLink)
      · rw [List.concat_eq_append] at injective rightFresh same ⊢
        have finalLink : (chainRoot extend genesis before, final) ∈
            chainLinks extend genesis (before ++ [final]) := by
          rw [chainLinks_append]; simp
        rw [chainRoot_append, chainRoot_append] at same
        have link := injective _ lastLink _ finalLink same
        obtain ⟨rootEq, entryEq⟩ := Prod.mk.inj link
        have prefixEq := ih before
          (fun l inLeft r inRight => injective l
            (by rw [chainLinks_append]; exact List.mem_append_left _ inLeft) r
            (by rw [chainLinks_append]; exact List.mem_append_left _ inRight))
          (fun l inLeft => leftFresh l
            (by rw [chainLinks_append]; exact List.mem_append_left _ inLeft))
          (fun r inRight => rightFresh r
            (by rw [chainLinks_append]; exact List.mem_append_left _ inRight))
          rootEq
        rw [prefixEq, entryEq]

end EgoAgent
