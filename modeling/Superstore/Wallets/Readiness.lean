import Superstore.Requests.Kinds
import Superstore.Requests.Ready
import Superstore.Wallets.Postings

/-!
# The wallet of a rider

Only the withdrawal of a rider is told of a wallet that its request has read. Wallets keep their
owners, so that it is still the rider's wallet when it is debited.
-/

namespace Superstore

open Interleaving

/-- A program whose operations are not told of a wallet. -/
abbrev Untold {α : Type} (p : Request α) : Prop := p.All fun _ op => ∀ db, op.Located db

/-- A program that makes no withdrawal of a rider. -/
theorem Uses.untold {α : Type} {ks : List OpKind} {p : Request α} (h : Uses ks p)
    (hks : .riderWithdrawal ∉ ks) : Untold p := by
  refine Prog.All.imp h fun _ op hop db => ?_
  cases op
  case withdrawRider => exact absurd hop hks
  all_goals trivial

/-- The requests of a store tell of no withdrawal. -/
theorem StoreRequest.untold {p : Request Unit} (h : StoreRequest p) : Untold p := by
  cases h with
  | payment h => exact h.uses.untold (by decide)
  | refund h => exact h.uses.untold (by decide)
  | status h => exact h.uses.untold (by decide)

/-- Where wallets only move by postings, the wallet that a rider's withdrawal has read is still that
rider's when it is debited. -/
theorem Wallets.requestRiderWithdrawal_ready {C : Contract Op World Env} {userId : ℕ} {amount : ℚ}
    {bankAccountId : Option ℕ} {s : World} (hinv : ∀ s, C.inv s → walletLedger.Owned (s.db .wallet))
    (hguar : ∀ s s', C.guar s s' → WalletPosts (fun _ _ => True) s.db s'.db)
    (hread : ∀ {β : Type} (f : Database → Except Error β) s, C.known (.read f) s) (hnow : ∀ s, C.known .now s)
    (hknown : ∀ walletId reference s, (Op.withdrawRider userId walletId amount reference).Located s.db →
      C.known (.withdrawRider userId walletId amount reference) s) :
    C.Ready machine (requestRiderWithdrawal userId amount bankAccountId) s := by
  refine ready_select (hread _) fun s₁ _ hi₁ => ready_decided fun _ hchecked => ?_
  cases hwallet : (s₁.db .wallet).first fun _ w => w.userId == userId with
  | none =>
    simp only [hwallet, Option.elim_none, checkAmount] at hchecked
    obtain ⟨_, hpos, hchecked⟩ := bind_eq_ok.mp hchecked
    exact absurd (ensure_eq_ok.mp hchecked) (not_le.mpr (ensure_eq_ok.mp hpos))
  | some wallet =>
    obtain ⟨hfind, huser⟩ := Relational.Table.find_of_first hwallet
    have hlocated {s' : World} (h : C.guar s₁ s') (reference : String) :
        (Op.withdrawRider userId wallet.1 amount reference).Located s'.db := by
      obtain ⟨w, hw, hown⟩ := (hguar _ _ h (hinv _ hi₁)).account hfind
      exact ⟨w, hw, hown.trans (beq_iff_eq.mp huser)⟩
    refine ready_selectOrThrow (hread _) fun s₂ r hs₂ _ _ => ready_decided fun _ _ => ready_check fun _ => ?_
    refine .then (fun _ _ _ => hnow _) fun now s₃ hs₃ _ => .then (fun s₄ hs₄ _ => ?_) fun _ _ _ _ => trivial
    exact hknown _ _ _ (hlocated (C.trans hs₂ (C.trans hs₃ hs₄)) _)

end Superstore
