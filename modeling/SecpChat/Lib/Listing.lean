import Mathlib.Data.List.Pairwise
import Mathlib.Data.List.Nodup

/-!
# Sorted listings

What a program shows of a map: one entry for each key, sorted by it. `listing` sorts the
entries by a key read off each, with the comparison `std::sort` is given; where the keys
are distinct the listing is strictly increasing in them, so it has no duplicates.
-/

namespace SecpChat.Listing

variable {α κ : Type*} [LT κ] [DecidableLT κ]

/-- The entries by increasing key. -/
def listing (key : α → κ) (entries : List α) : List α :=
  entries.mergeSort fun a b => !decide (key b < key a)

theorem mem_listing {key : α → κ} {entries : List α} {a : α} :
    a ∈ listing key entries ↔ a ∈ entries :=
  (List.mergeSort_perm entries _).mem_iff

variable [LE κ] [Std.LawfulOrderLT κ] [Std.IsLinearOrder κ]

/-- **A listing of distinct keys is strictly increasing.** -/
theorem listing_strict {key : α → κ} {entries : List α} (distinct : (entries.map key).Nodup) :
    ((listing key entries).map key).Pairwise (· < ·) := by
  have sorted : (listing key entries).Pairwise fun a b => (!decide (key b < key a)) = true := by
    apply List.pairwise_mergeSort
    · intro a b c ab bc
      simp only [Bool.not_eq_true', decide_eq_false_iff_not, Std.not_lt] at ab bc ⊢
      exact Std.IsPreorder.le_trans _ _ _ ab bc
    · intro a b
      simp only [Bool.or_eq_true, Bool.not_eq_true', decide_eq_false_iff_not, Std.not_lt]
      exact Std.IsLinearPreorder.le_total (key a) (key b)
  have perm := (List.mergeSort_perm entries fun a b => !decide (key b < key a)).map key
  have apart : ((listing key entries).map key).Nodup := perm.nodup_iff.2 distinct
  rw [List.Nodup, List.pairwise_map] at apart
  rw [List.pairwise_map]
  refine (sorted.and apart).imp fun {a b} h => ?_
  obtain ⟨le, ne⟩ := h
  simp only [Bool.not_eq_true', decide_eq_false_iff_not, Std.not_lt] at le
  apply Std.not_le.1
  intro ge
  exact ne (Std.IsPartialOrder.le_antisymm _ _ le ge)

end SecpChat.Listing
