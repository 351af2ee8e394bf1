import Superstore.Paging.Basic

/-!
# The pages of all payouts

Payouts of users and of stores are kept in two tables and shown in one list. A page of it is made
from as many rows of each table as could be on the pages up to it.
-/

namespace Superstore.Admin

open Paging

/-- A withdrawal of a user. -/
structure Withdrawal where
  id : ℕ
  userId : ℕ
  amount : ℚ
  status : String
  createdAt : ℕ
  deriving DecidableEq

/-- A withdrawal of a store. -/
structure StoreWithdrawal where
  id : ℕ
  storeId : ℕ
  amount : ℚ
  status : String
  createdAt : ℕ
  deriving DecidableEq

/-- A table in the order in which it is read: the newest rows come first, and rows of one time have a
fixed order. -/
structure NewestFirst {α : Type} (createdAt : α → ℕ) where
  rows : List α
  newest : rows.Pairwise fun a b => createdAt b ≤ createdAt a

/-- A payout with its source. -/
inductive Payout
  | user (item : Withdrawal)
  | store (item : StoreWithdrawal)
  deriving DecidableEq

/-- When a payout was asked for. -/
def Payout.createdAt : Payout → ℕ
  | .user item => item.createdAt
  | .store item => item.createdAt

/-- One page of a list. -/
structure Result (α : Type) where
  items : List α
  total : ℕ
  page : ℕ
  limit : ℕ
  pages : ℕ

/-- A page with the number of all pages. -/
def result {α : Type} (items : List α) (total page limit : ℕ) : Result α :=
  ⟨items, total, page, limit, (total + limit - 1) / limit⟩

/-- Whether a row has the status that is asked for, if one is. -/
def hasStatus (status : Option String) (s : String) : Bool := status.all fun t => t == "" || s == t

/-- The comparison that the payouts are sorted by. -/
def newestFirst (a b : Payout) : Bool := decide (b.createdAt ≤ a.createdAt)

section

variable (users : NewestFirst Withdrawal.createdAt) (stores : NewestFirst StoreWithdrawal.createdAt)
  (status : Option String)

/-- The payouts of users, as they are read. -/
def userPayouts : List Payout := (users.rows.filter (hasStatus status ·.status)).map .user

/-- The payouts of stores, as they are read. -/
def storePayouts : List Payout := (stores.rows.filter (hasStatus status ·.status)).map .store

/-- One page of all payouts. -/
def payouts (page limit : ℕ) : Result Payout :=
  let take := page * limit
  let all := ((userPayouts users status).take take ++ (storePayouts stores status).take take).mergeSort newestFirst
  result (slice all page limit) ((userPayouts users status).length + (storePayouts stores status).length) page limit

/-- The stable merge of the two tables. -/
def mergedPayouts : List Payout := (userPayouts users status).merge (storePayouts stores status) newestFirst

/-- The order of payouts is transitive. -/
theorem newestFirst_trans (a b c : Payout) (hab : newestFirst a b) (hbc : newestFirst b c) : newestFirst a c :=
  decide_eq_true ((of_decide_eq_true hbc).trans (of_decide_eq_true hab))

/-- Two payouts are always in order, one way or the other. -/
theorem newestFirst_total (a b : Payout) : newestFirst a b || newestFirst b a := by
  simpa [newestFirst] using le_total b.createdAt a.createdAt

/-- The withdrawals of users are listed from the newest on. -/
theorem userPayouts_pairwise : (userPayouts users status).Pairwise fun a b => newestFirst a b :=
  List.pairwise_map.mpr ((users.newest.sublist List.filter_sublist).imp decide_eq_true)

/-- The withdrawals of stores are listed from the newest on. -/
theorem storePayouts_pairwise : (storePayouts stores status).Pairwise fun a b => newestFirst a b :=
  List.pairwise_map.mpr ((stores.newest.sublist List.filter_sublist).imp decide_eq_true)

/-- A page is a slice of the merged tables. -/
theorem payouts_items (page limit : ℕ) :
    (payouts users stores status page limit).items = slice (mergedPayouts users stores status) page limit := by
  have hfront := take_mergeSort_append newestFirst_trans newestFirst_total (userPayouts_pairwise users status)
    (storePayouts_pairwise stores status) (page * limit)
  change (List.take _ _).drop _ = (List.take _ _).drop _
  rw [hfront]
  rfl

/-- The merge has the rows of both tables. -/
theorem length_mergedPayouts :
    (mergedPayouts users stores status).length =
      (userPayouts users status).length + (storePayouts stores status).length := by
  rw [mergedPayouts, (List.merge_perm_append newestFirst).length_eq, List.length_append]

/-- Every page of the payouts is the slice of that number of the merged tables, and all pages together
are the payouts of both tables, each of them once. -/
theorem payouts_pages {limit : ℕ} (hlimit : 1 ≤ limit) :
    (∀ page, (payouts users stores status page limit).items =
      slice (mergedPayouts users stores status) page limit) ∧
    ((mergedPayouts users stores status).Pairwise fun a b => b.createdAt ≤ a.createdAt) ∧
    ((List.range (payouts users stores status 1 limit).pages).flatMap fun i =>
      (payouts users stores status (i + 1) limit).items).Perm
          (userPayouts users status ++ storePayouts stores status) := by
  refine ⟨fun page => payouts_items users stores status page limit, ?_, ?_⟩
  · have hsorted := List.pairwise_merge newestFirst_trans newestFirst_total _ _ (userPayouts_pairwise users status)
      (storePayouts_pairwise stores status)
    exact hsorted.imp of_decide_eq_true
  · have hlength := length_mergedPayouts users stores status
    have hpages : (mergedPayouts users stores status).length ≤
        (payouts users stores status 1 limit).pages * limit := by
      rw [hlength]
      exact le_pages_mul _ limit hlimit
    simp only [payouts_items]
    rw [flatMap_slice, List.take_of_length_le hpages]
    exact List.merge_perm_append newestFirst

end

/-- Three withdrawals of two times. -/
def someWithdrawals : NewestFirst Withdrawal.createdAt where
  rows := [⟨3, 1, 500, "PENDING", 20⟩, ⟨2, 2, 100, "PAID", 10⟩, ⟨1, 1, 700, "PENDING", 10⟩]
  newest := by decide

/-- A withdrawal of a store between them. -/
def someStoreWithdrawals : NewestFirst StoreWithdrawal.createdAt where
  rows := [⟨1, 1, 9000, "PENDING", 10⟩]
  newest := by decide

/-- The second page of two shows what comes after the first two payouts. -/
theorem payouts_pages_second :
    (payouts someWithdrawals someStoreWithdrawals none 2 2).items =
      slice (mergedPayouts someWithdrawals someStoreWithdrawals none) 2 2 :=
  (payouts_pages someWithdrawals someStoreWithdrawals none (by decide)).1 2

end Superstore.Admin
