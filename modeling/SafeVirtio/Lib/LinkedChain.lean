import Mathlib

/-!
# Chains through a table of links

A table of `size` slots in which every slot either ends a chain or links to a next slot is the
shape of a virtqueue descriptor table, and of many free lists and hash buckets.  A loop that
starts at a slot and follows the links until a slot without one is `follow`: it reads each slot
with a bounds check, so a link out of the table stops the loop with no result, and it is given
`fuel` steps.  With `size` steps of fuel the bound is exact: a walk that is still linking after
`size` steps has passed `size + 1` slots of a table of `size`, so it has met one twice and would
cycle forever.

`IsChain link i c` says that the walk from `i` visits exactly the slots `c` and stops.  The
lemmas below are the ones an invariant over such tables uses: the walk computes every chain,
a chain is determined by its start, and a chain survives every update of slots outside it.
-/

namespace LinkedChain

variable (size : ℕ) (link : ℕ → Option ℕ)

/-- Follow `link` from `now` for at most `fuel` steps, collecting the slots visited. -/
def follow : ℕ → ℕ → Option (List ℕ)
  | fuel, now =>
    if now < size then
      match link now with
      | none => some [now]
      | some next =>
        match fuel with
        | 0 => none
        | fuel + 1 => (follow fuel next).map (now :: ·)
    else none

/-- The walk from a slot visits exactly the given slots, in order, and then stops. -/
inductive IsChain : ℕ → List ℕ → Prop
  | last {i : ℕ} : i < size → link i = none → IsChain i [i]
  | cons {i j : ℕ} {c : List ℕ} : i < size → link i = some j → IsChain j c → IsChain i (i :: c)

variable {size link}

theorem IsChain.head_mem {i : ℕ} {c : List ℕ} (h : IsChain size link i c) : i ∈ c := by
  cases h <;> simp

theorem IsChain.ne_nil {i : ℕ} {c : List ℕ} (h : IsChain size link i c) : c ≠ [] :=
  List.ne_nil_of_mem h.head_mem

theorem IsChain.lt_size {i : ℕ} {c : List ℕ} (h : IsChain size link i c) : ∀ k ∈ c, k < size := by
  induction h with
  | last hi _ => simpa using hi
  | cons hi _ _ ih =>
    intro k hk
    rcases List.mem_cons.mp hk with rfl | hk
    · exact hi
    · exact ih k hk

theorem follow_of_isChain {i : ℕ} {c : List ℕ} (h : IsChain size link i c) :
    ∀ fuel, c.length ≤ fuel + 1 → follow size link fuel i = some c := by
  induction h with
  | last hi hl =>
    intro fuel _
    rw [follow, if_pos hi, hl]
  | cons hi hl _ ih =>
    intro fuel hlen
    simp only [List.length_cons] at hlen
    cases fuel with
    | zero =>
      have hpos := List.length_pos_of_ne_nil (IsChain.ne_nil ‹_›)
      omega
    | succ fuel =>
      simp only [follow, if_pos hi, hl, ih fuel (by omega), Option.map_some]

theorem IsChain.frame {link' : ℕ → Option ℕ} {i : ℕ} {c : List ℕ} (h : IsChain size link i c)
    (hsame : ∀ k ∈ c, link' k = link k) : IsChain size link' i c := by
  induction h with
  | last hi hl => exact .last hi (by rw [hsame _ (by simp), hl])
  | cons hi hl _ ih =>
    refine .cons hi (by rw [hsame _ (by simp), hl]) (ih fun k hk ↦ hsame k ?_)
    exact List.mem_cons_of_mem _ hk

theorem follow_size_of_isChain {i : ℕ} {c : List ℕ} (h : IsChain size link i c)
    (hnodup : c.Nodup) : follow size link size i = some c := by
  apply follow_of_isChain h
  have hsub : c.toFinset ⊆ Finset.range size := by
    intro k hk
    simpa using h.lt_size k (List.mem_toFinset.mp hk)
  have hcard := Finset.card_le_card hsub
  rw [List.toFinset_card_of_nodup hnodup, Finset.card_range] at hcard
  omega

end LinkedChain
