import Superstore.Properties.Fulfilment
import Superstore.Properties.WalletBalances
import Superstore.Requests.Purposes
import Superstore.Wallets.Fees

/-!
# Top-ups and their credits

A verification that finds a top-up successful locks its payment, marks it paid and credits the wallet, once. One
that finds it failed or expired writes that without looking again, also over a payment that has been
credited in between. Where no such write meets a paid top-up, a top-up is paid exactly if its credit has
been entered, and stays so.
-/

namespace Superstore

open Interleaving Relational Relational.Tx Contract
open Payments (Linked MaySettle)

/-- The reference of the entry that credits a top-up. -/
def topupReference (p : ℕ) : String := "TOPUP-CREDIT-" ++ toString p

/-- Different top-ups have different references. -/
theorem topupReference_injective : Function.Injective topupReference := fun _ _ h =>
  toString_injective ((String.append_right_inj _).mp h)

/-- A reference that starts with another letter is not that of a top-up. -/
theorem ne_topupReference {c : Char} {start : String} (hstart : start.toList.head? = some c)
    (hc : c ≠ 'T') (s : String) (p : ℕ) : start ++ s ≠ topupReference p := by
  intro h
  obtain ⟨rest, hrest⟩ := List.head?_eq_some_iff.mp hstart
  have hlist := congrArg String.toList h
  rw [topupReference, String.toList_append, String.toList_append, hrest] at hlist
  exact hc (List.cons.inj hlist).1

/-- An entry that credits a top-up. -/
def TopupCredit (db : Database) (p k : ℕ) (t : WalletTransaction) : Prop :=
  (db .walletTransaction).find k = some t ∧ t.type = .credit ∧ t.reference = some (topupReference p)

/-- Top-ups are paid exactly if they have been credited. -/
structure TopupsAgree (db : Database) : Prop where
  credited : ∀ p r, (db .payment).find p = some r → r.topup = true → r.status = .paid →
    ∃ k t, TopupCredit db p k t ∧ t.amount = r.amount
  paid : ∀ p k t, TopupCredit db p k t →
    ∃ r, (db .payment).find p = some r ∧ r.topup = true ∧ r.status = .paid ∧ r.amount = t.amount

/-- A top-up that is paid stays paid. -/
structure Payment.KeepsTopup (p q : Payment) : Prop extends p.SamePurpose q where
  paid : p.topup = true → p.status = .paid → q.status = .paid

/-- A top-up is paid as it was before. -/
structure Payment.SameTopup (p q : Payment) : Prop extends p.KeepsTopup q where
  unpaid : p.topup = true → q.status = .paid → p.status = .paid

/-- Keeping a top-up is reflexive and transitive. -/
instance : IsPreorder Payment Payment.KeepsTopup where
  refl p := ⟨refl_of _ p, fun _ => id⟩
  trans _ _ _ h h' := ⟨trans_of _ h.toSamePurpose h'.toSamePurpose, fun ht hp =>
    h'.paid (h.topup.trans ht) (h.paid ht hp)⟩

/-- Being the same top-up is reflexive and transitive. -/
instance : IsPreorder Payment Payment.SameTopup where
  refl p := ⟨refl_of _ p, fun _ => id⟩
  trans _ _ _ h h' := ⟨trans_of _ h.toKeepsTopup h'.toKeepsTopup, fun ht hp =>
    h.unpaid ht (h'.unpaid (h.topup.trans ht) hp)⟩

/-- Whatever happens to a payment that is no top-up, as long as it does not become one. -/
theorem Payment.SameTopup.of_not {p q : Payment} (hp : p.topup = false) (hq : q.topup = false)
    (hamount : q.amount = p.amount) :
    p.SameTopup q where
  topup := hq.trans hp.symm
  amount := hamount
  paid ht := by
    rw [hp] at ht
    cases ht
  unpaid ht := by
    rw [hp] at ht
    cases ht

/-- The outcome of a payment that is no top-up. -/
theorem Payment.Settles.sameTopup {S : PaymentStatus → Prop} {p q : Payment} (h : p.Settles S q)
    (hp : p.topup = false) :
    p.SameTopup q := by
  obtain ⟨s, t, f, -, rfl⟩ := h
  exact .of_not hp hp rfl

/-- A payment that a group is linked to is no top-up. -/
theorem topup_of_linked {db : Database} (hB : Consistent (books db)) {p : ℕ} {r : Payment} (hlinked : Linked db p)
    (hr : (db .payment).find p = some r) : r.topup = false := by
  obtain ⟨i, g, hg, hp⟩ := hlinked
  obtain ⟨q, hq, -, hspecial, -⟩ := hB.linked i _ p (books_group hg).1 hp
  obtain rfl := Option.some.inj ((books_payment hr).1.symm.trans hq)
  have hpurpose : r.special = false := hspecial
  rw [Payment.topup]
  revert hpurpose
  unfold Payment.special
  split <;> simp_all

/-! ## Operations -/

/-- A failure is not written over a top-up that is paid, and a transfer to a dedicated account is not credited for
one that is not. -/
def Op.sparesTopups : {α : Type} → Op α → Database → Bool
  | _, .updatePayment id (.failTopup _), db => ((db .payment).find id).all (·.status != .paid)
  | _, .creditFunding p _ _ _, db => ((db .payment).find p).all fun r => !r.topup || r.status == .paid
  | _, _, _ => true

/-- Whether an operation credits a top-up. -/
def Op.creditsTopup : {α : Type} → Op α → Bool
  | _, .creditTopup _ _ _ => true
  | _, _ => false

/-- Operations that credit no top-up leave paid and unpaid top-ups as they are. -/
theorem Op.Purposed.mayChange {α : Type} {op : Op α} {e : Env} {w : World} (h : op.Purposed w.db)
    (hlegit : op.Legitimate False (books w.db)) (hB : Consistent (books w.db))
    (hspares : op.sparesTopups w.db = true)
    (hop : op.creditsTopup = false) : op.MayChange Payment.SameTopup e w.db := by
  have hrecorded {S : PaymentStatus → Prop} {p : ℕ} (hp : OnRecord false w.db p) :
      MaySettle S Payment.SameTopup w.db p := by
    intro r q hr hs
    obtain ⟨r', hr', htopup⟩ := hp
    obtain rfl := Option.some.inj (hr.symm.trans hr')
    exact hs.sameTopup htopup
  have hlinked {S : PaymentStatus → Prop} {p : ℕ} (hp : Linked w.db p) : MaySettle S Payment.SameTopup w.db p :=
    fun _ _ hr hs => hs.sameTopup (topup_of_linked hB hp hr)
  have hlinkedTo {i p : ℕ} {g : GroupTerms} (hg : (books w.db).group i = some g) (hp : g.paymentId = some p) :
      Linked w.db p := by
    obtain ⟨g', hfind, rfl⟩ := find_of_books_group hg
    exact ⟨i, g', hfind, hp⟩
  cases op <;> try exact trivial
  case claimInitialization userId groupId =>
    exact fun p hp r hr _ => .of_not (topup_of_linked hB hp hr) rfl rfl
  case updatePayment id u =>
    intro r hr
    obtain ⟨r', hr', htopup⟩ := h
    obtain rfl := Option.some.inj (hr.symm.trans hr')
    cases u with
    | transferInstructions => exact .of_not htopup rfl rfl
    | paymentUrl => exact .of_not htopup rfl rfl
    | clearMetadata => exact .of_not htopup rfl rfl
    | topupUrl => exact ⟨⟨⟨htopup.symm, rfl⟩, fun _ hpaid => hpaid⟩, fun _ hpaid => hpaid⟩
    | topupInstructions => exact ⟨⟨⟨htopup.symm, rfl⟩, fun _ hpaid => hpaid⟩, fun _ hpaid => hpaid⟩
    | failTopup reason =>
      have hunpaid : r.status ≠ .paid := by
        dsimp only [Op.sparesTopups] at hspares
        rw [hr] at hspares
        simpa using hspares
      exact ⟨⟨⟨rfl, rfl⟩, fun _ hpaid => absurd hpaid hunpaid⟩, fun _ hpaid => PaymentStatus.noConfusion hpaid⟩
  case finalizePayment => exact hrecorded h
  case cancelGroup => exact fun p hp => hlinked hp
  case settleRepayment => exact hrecorded h
  case creditTopup => cases hop
  case createPayment => exact h
  case creditFunding p userId reference amount =>
    intro r q hr hs
    obtain ⟨s, t, f, rfl, rfl⟩ := hs
    dsimp only [Op.sparesTopups] at hspares
    rw [hr] at hspares
    refine ⟨⟨⟨rfl, rfl⟩, fun _ _ => rfl⟩, fun htopup _ => ?_⟩
    simpa [htopup] using hspares
  case writeRefundStatus p status =>
    obtain ⟨⟨k, refund, hrefund, hp⟩, -⟩ := hlegit
    obtain ⟨i, g, hg, hlink, -⟩ := hB.refund_owed k refund hrefund
    rw [hp] at hlink
    exact hlinked (hlinkedTo hg hlink)
  case completeKlump id transaction reference =>
    intro r hr _
    obtain ⟨k, hk⟩ := hlegit
    obtain ⟨g, hg, hlink⟩ := hB.klump_linked k _ hk
    exact .of_not (topup_of_linked hB (hlinkedTo hg hlink) hr) rfl rfl
  case cancelOrder => exact fun p hp => hlinked hp

/-- Operations that credit no top-up post no such credit. -/
theorem Op.walletPosting_spares {α : Type} {op : Op α} (hop : op.creditsTopup = false) {db : Database} {w : Wallet}
    {t : WalletTransaction} (h : op.walletPosting db w t) (htype : t.type = .credit) (p : ℕ) :
    t.reference ≠ some (topupReference p) := by
  have hother {type : WalletTransactionType} (hne : type ≠ .credit) (h : t.type = type) :
      t.reference ≠ some (topupReference p) :=
    absurd (h.symm.trans htype) hne
  have hstart {c : Char} {start : String} (hstart : start.toList.head? = some c) (hc : c ≠ 'T') {s : String}
      (h : t.reference = some (start ++ s)) : t.reference ≠ some (topupReference p) := by
    rw [h]
    exact fun heq => ne_topupReference hstart hc s p (Option.some.inj heq)
  have hheld (h : Held w t) : t.reference ≠ some (topupReference p) := hother (by decide) h.1
  have hcheckout {userId : ℕ} (h : CheckoutPosting userId w t) : t.reference ≠ some (topupReference p) := by
    rcases h with h | h
    · exact hheld h
    · exact hother (by decide) h.1.1
  cases op <;> dsimp only [Op.walletPosting] at h <;> try exact h.elim
  case createCheckout => exact hcheckout h
  case confirmFinancing => exact hcheckout h
  case finalizePayment => exact hheld h
  case completeIncomplete => exact hheld h
  case completeKlump => exact hheld h
  case claimDelivery => exact hheld h
  case repayFromWallet => exact hother (by decide) h.1.1
  case requestWalletWithdrawal => exact hother (by decide) h.1.1
  case withdrawRider => exact hother (by decide) h.2.2.1
  case creditTopup => cases hop
  case creditFunding => exact hstart (c := 'D') (by decide) (by decide) h.2.2
  case cancelOrder => exact hstart (c := 'O') (by decide) (by decide) h.2
  case writeDelivery => exact hother (by decide) h.1
  case claimReferrals =>
    obtain ⟨-, s, hs⟩ := h
    exact hstart (c := 'R') (by decide) (by decide) hs
  case redeemCashback =>
    obtain ⟨-, -, s, hs⟩ := h
    exact hstart (c := 'C') (by decide) (by decide) hs

/-- A step that neither pays a top-up nor credits one. -/
theorem TopupsAgree.step {db db' : Database} (h : TopupsAgree db) (hgrows : PaymentsGrow Payment.SameTopup db db')
    (hkept : ∀ k t, (db .walletTransaction).find k = some t → (db' .walletTransaction).find k = some t)
    (hnew : ∀ p k t, TopupCredit db' p k t → TopupCredit db p k t) : TopupsAgree db' where
  credited p r hr htopup hpaid := by
    cases hold : (db .payment).find p with
    | none =>
      obtain ⟨r₀, hentered, hsame⟩ := hgrows.entered p r hr hold
      have htopup₀ : r₀.topup = true := hsame.topup.symm.trans htopup
      have hpending := hentered.pending htopup₀
      rw [hsame.unpaid htopup₀ hpaid] at hpending
      cases hpending
    | some r₀ =>
      obtain ⟨r', hr', hsame⟩ := hgrows.kept p r₀ hold
      obtain rfl := Option.some.inj (hr.symm.trans hr')
      have htopup₀ : r₀.topup = true := hsame.topup.symm.trans htopup
      obtain ⟨k, t, hcredit, hamount⟩ := h.credited p r₀ hold htopup₀ (hsame.unpaid htopup₀ hpaid)
      exact ⟨k, t, ⟨hkept k t hcredit.1, hcredit.2⟩, hamount.trans hsame.amount.symm⟩
  paid p k t hcredit := by
    obtain ⟨r, hr, htopup, hpaid, hamount⟩ := h.paid p k t (hnew p k t hcredit)
    obtain ⟨r', hr', hsame⟩ := hgrows.kept p r hr
    exact ⟨r', hr', hsame.topup.trans htopup, hsame.paid htopup hpaid, hsame.amount.trans hamount⟩

/-- A credit enters one entry. -/
theorem creditWallet_enters (userId : ℕ) (amount : ℚ) (reference : String) (db : Database) :
    wp db (Payments.creditWallet userId amount reference) fun _ db' => db' .payment = db .payment ∧
      ∃ i, db' .walletTransaction = (db .walletTransaction).create
        { walletId := i, amount := amount, type := .credit, reference := some reference } := by
  refine wp_mono (wp_and ?_ (Payments.creditWallet_writes userId amount reference db)) fun _ db' h =>
    ⟨h.2 _ (by decide), h.1⟩
  refine (Writes.firstOrCreate (List.mem_singleton_self _) _ _).before fun wallet db₁ hsame₁ => ?_
  rw [wp_bind, wp_update]
  intro _ _
  rw [wp_bind, wp_createUnique]
  intro _
  rw [wp_pure, Database.set_self, Database.set_of_ne _ _ (by decide), hsame₁ _ (by decide)]
  exact ⟨wallet.1, rfl⟩

/-- A top-up is paid and credited at once. -/
theorem creditTopup_agrees (e : Env) {p : ℕ} (userId : ℕ) {amount : ℚ} {db : Database} (h : TopupsAgree db)
    (hp : TopupOf db p amount) : wp db (Payments.creditTopup e p userId amount) fun _ db' => TopupsAgree db' := by
  rw [Payments.creditTopup, wp_bind, wp_findOrThrow]
  intro current hcurrent
  obtain ⟨r₀, hr₀, htopup₀, hamount₀⟩ := hp
  obtain rfl := Option.some.inj (hcurrent.symm.trans hr₀)
  split
  · exact (wp_pure _ _ _).mpr h
  rw [wp_bind, wp_update]
  intro _ _
  rw [wp_bind]
  refine wp_mono (creditWallet_enters userId amount ("TOPUP-CREDIT-" ++ toString p) _) fun _ db' hcredit => ?_
  obtain ⟨hpayment, i, hentries⟩ := hcredit
  rw [Database.set_self] at hpayment
  rw [Database.set_of_ne _ _ (by decide)] at hentries
  have hself : (db' .payment).find p = some (Payments.markPaid e.now current) := by
    rw [hpayment, Table.find_update_self, hr₀]
    rfl
  have hother {q : ℕ} (hq : q ≠ p) : (db' .payment).find q = (db .payment).find q := by
    rw [hpayment, Table.find_update_of_ne _ _ hq]
  refine (wp_pure _ _ _).mpr ⟨fun q r hr htopup hpaid => ?_, fun q k t hcredit => ?_⟩
  · by_cases hq : q = p
    · rw [hq, hself] at hr
      obtain rfl := Option.some.inj hr
      have hnew : (db' .walletTransaction).find (db .walletTransaction).next = some
          { walletId := i, amount := amount, type := .credit, reference := some (topupReference p) } := by
        rw [hentries]
        exact Table.find_create_self _ _
      rw [hq]
      exact ⟨_, _, ⟨hnew, rfl, rfl⟩, hamount₀.symm⟩
    · rw [hother hq] at hr
      obtain ⟨k, t, hold, hamount⟩ := h.credited q r hr htopup hpaid
      refine ⟨k, t, ⟨?_, hold.2⟩, hamount⟩
      rw [hentries]
      exact Table.find_create_of_find _ hold.1
  · obtain ⟨hfind, htype, href⟩ := hcredit
    rw [hentries] at hfind
    rcases Ledger.find_of_create hfind with ⟨-, rfl⟩ | hold
    · obtain rfl := topupReference_injective (Option.some.inj href)
      exact ⟨_, hself, htopup₀, rfl, hamount₀⟩
    · obtain ⟨r, hr, htopup, hpaid, hamount⟩ := h.paid q k t ⟨hold, htype, href⟩
      by_cases hq : q = p
      · rw [hq, hr₀] at hr
        obtain rfl := Option.some.inj hr
        exact ⟨Payments.markPaid e.now current, hq ▸ hself, htopup, rfl, hamount⟩
      · exact ⟨r, (hother hq).trans hr, htopup, hpaid, hamount⟩

/-- Every operation keeps top-ups and their credits in agreement, and paid top-ups paid. -/
theorem exec_topups {α : Type} (op : Op α) (e : Env) {w : World} (h : TopupsAgree w.db)
    (hB : Consistent (books w.db))
    (howned : walletLedger.Owned (w.db .wallet)) (hlegit : op.Legitimate False (books w.db))
    (hlocated : op.Located w.db)
    (hpurposed : op.Purposed w.db) (hspares : op.sparesTopups w.db = true) :
    TopupsAgree (op.exec e w).2.db ∧ (w.db .payment).Evolves Payment.KeepsTopup ((op.exec e w).2.db .payment) := by
  by_cases hop : op.creditsTopup = true
  · cases op
    case creditTopup p userId amount =>
      have htransaction : (Op.creditTopup p userId amount).transaction = some fun e =>
        Payments.creditTopup e p userId amount := rfl
      refine ⟨exec_transaction htransaction (Φ := fun w' => TopupsAgree w'.db) h
        (creditTopup_agrees e userId h hpurposed), ?_⟩
      have hchange : (Op.creditTopup p userId amount).MayChange Payment.KeepsTopup e w.db := by
        rintro r q hr ⟨s, t, f, rfl, rfl⟩
        exact ⟨⟨rfl, rfl⟩, fun _ _ => rfl⟩
      exact hchange.grows.kept
    all_goals cases hop
  · have hnot : op.creditsTopup = false := by simpa using hop
    have hgrows := (hpurposed.mayChange (e := e) hlegit hB hspares hnot).grows
    have hentries := (hlocated.walletPosts e howned).entries
    refine ⟨h.step hgrows hentries.1 fun p k t hcredit => ?_, hgrows.kept.mono fun _ _ h => h.toKeepsTopup⟩
    rcases hentries.2 k t hcredit.1 with hold | ⟨v, hpost⟩
    · exact ⟨hold, hcredit.2⟩
    · exact absurd hcredit.2.2 (Op.walletPosting_spares hnot hpost hcredit.2.1 p)

/-! ## Runs -/

/-- Requests about wallets do not concern the books. -/
theorem WalletRequest.books {spared : Prop} {p : Request Unit} (h : WalletRequest p) (w : World) :
    Bookkeeping spared p w := by
  refine informed_of_all (Prog.All.imp h.uses fun _ op hop w => ?_) w
  cases op <;> try exact trivial
  case updatePayment id u =>
    cases u <;> exact absurd hop (by dsimp only [Op.kind, Payments.PaymentUpdate.kind]; decide)
  all_goals exact absurd hop (by dsimp only [Op.kind]; decide)

/-- The contract of top-ups, which relies on the books and on the ledgers. -/
def topups : Contract Op World Env where
  inv w := (Consistent (books w.db) ∧ LedgersBalanced w.db) ∧ TopupsAgree w.db
  guar w w' := ((books w.db).Later (books w'.db) ∧ LedgersMove w w') ∧
    (w.db .payment).Evolves Payment.KeepsTopup (w'.db .payment)
  known op w := (op.Legitimate False (books w.db) ∧ op.Located w.db) ∧ op.Purposed w.db
  allowed op e w := (e.fails || op.sparesTopups w.db) = true
  refl _ := ⟨⟨.refl _, refl_of LedgersMove _⟩, .refl _⟩
  trans h h' := ⟨⟨h.1.1.trans h'.1.1, trans_of LedgersMove h.1.2 h'.1.2⟩, h.2.trans h'.2⟩

/-- Every operation that spares top-ups keeps them. -/
theorem topups_safe {α : Type} (op : Op α) : topups.Safe machine op := by
  rintro e w ⟨⟨hB, hbalanced⟩, hagree⟩ ⟨⟨hlegit, hlocated⟩, hpurposed⟩ hallowed
  obtain ⟨hB', hlater⟩ := bookkeeping_safe op e w hB hlegit fun h => h.elim
  obtain ⟨hbalanced', hmove⟩ := ledgers_safe op e w hbalanced hlocated trivial
  by_cases hfails : e.fails = true
  · have hsame : (machine.exec op e w).2.db = w.db := exec_fails_db hfails
    refine ⟨⟨⟨hB', hbalanced'⟩, ?_⟩, ⟨hlater, hmove⟩, .of_eq (congrFun hsame _)⟩
    rw [hsame]
    exact hagree
  · have hspares := (Bool.or_eq_true_iff.mp hallowed).resolve_left hfails
    obtain ⟨hagree', hkept⟩ := exec_topups op e hagree hB hbalanced.users.owned hlegit hlocated hpurposed hspares
    exact ⟨⟨⟨hB', hbalanced'⟩, hagree'⟩, ⟨hlater, hmove⟩, hkept⟩

/-- The requests of the treasury keep the top-ups. -/
theorem topups_holds : topups.Holds treasury where
  starts {p} hp w _ := by
    have hboth : (((bookkeeping False).both ledgers).both purposes).Ready machine p w := by
      rcases hp with hp | hp
      · exact ((hp.books.both (hp.untold.ledgers_ready w)).both hp.purposes).mono fun _ _ _ => trivial
      · exact (((hp.books w).both (hp.ready w)).both (hp.uses.purposes (by decide))).mono fun _ _ _ => trivial
    exact hboth.strengthen (fun _ h => ⟨h.1, trivial⟩)
      (fun _ _ h => ⟨h.1, h.2.mono fun _ _ hkeeps => hkeeps.toSamePurpose⟩)
      (fun _ _ _ _ => ⟨⟨fun h => h.elim, trivial⟩, trivial⟩) fun _ _ h => h
  performs op := topups_safe op
  background {w w'} h hinv := by
    obtain ⟨⟨hB, hbalanced⟩, hagree⟩ := hinv
    have hbooks : (bookkeeping False).Holds store := bookkeeping_holds
    obtain ⟨hB', hlater⟩ := hbooks.background h.toOtherChange hB
    obtain ⟨hbalanced', hmove⟩ := ledgers_holds.background h hbalanced
    have hpayment : w'.db .payment = w.db .payment := h.owned _ (by decide)
    have hentries : w'.db .walletTransaction = w.db .walletTransaction := h.wallets _ (by decide)
    refine ⟨⟨⟨hB', hbalanced'⟩, ?_⟩, ⟨hlater, hmove⟩, .of_eq hpayment⟩
    refine hagree.step (.of_eq hpayment) (fun k t ht => ?_) fun p k t hcredit => ?_
    · rw [hentries]
      exact ht
    · rw [TopupCredit, hentries] at hcredit
      exact hcredit

/-- A store in which nobody has checked out or moved money yet. -/
structure Untouched (w : World) : Prop where
  fresh : Fresh w
  wallets : EmptyWallets w.db

/-- Before the first top-up all of them agree. -/
theorem Untouched.sound {w : World} (h : Untouched w) : topups.Sound treasury ⟨w, []⟩ := by
  refine ⟨⟨⟨h.fresh.consistent, h.wallets.balanced⟩, ⟨fun p r hr => ?_, fun p k t hcredit => ?_⟩⟩, by simp⟩
  · rw [h.fresh .payment (by decide)] at hr
    cases hr
  · have hfind := hcredit.1
    rw [h.wallets.entries] at hfind
    cases hfind

/-- In every run in which no failure is written over a top-up that is paid, and no transfer to a dedicated account
is credited for one that is not: a top-up has at most one credit, it is paid exactly if it has one, of its amount,
and once paid it stays paid. -/
theorem topups_agree {w : World} (hw : Untouched w) {c c' : Config Op Error World}
    (hrun : treasury.Run (fun op e c => (e.fails || op.sparesTopups c.world.db) = true) ⟨w, []⟩ c)
    (hrun' : treasury.Run (fun op e c => (e.fails || op.sparesTopups c.world.db) = true) c c') {p : ℕ} {r : Payment}
    (hr : (c.world.db .payment).find p = some r) (htopup : r.topup = true) :
    (∀ k l t u, TopupCredit c.world.db p k t → TopupCredit c.world.db p l u → k = l) ∧
      (r.status = .paid ↔ ∃ k t, TopupCredit c.world.db p k t ∧ t.amount = r.amount) ∧
      (r.status = .paid → ∃ r', (c'.world.db .payment).find p = some r' ∧ r'.status = .paid) := by
  obtain ⟨hsound, -⟩ := topups_holds.run hw.sound hrun
  obtain ⟨⟨-, hbalanced⟩, hagree⟩ := hsound.1
  refine ⟨fun k l t u ht hu => ?_, ⟨hagree.credited p r hr htopup, ?_⟩, fun hpaid => ?_⟩
  · exact hbalanced.users.unique k t l u (topupReference p) ht.1 hu.1 ht.2.2 hu.2.2
  · rintro ⟨k, t, hcredit, -⟩
    obtain ⟨r', hr', -, hpaid, -⟩ := hagree.paid p k t hcredit
    obtain rfl := Option.some.inj (hr.symm.trans hr')
    exact hpaid
  · obtain ⟨r', hr', hkeeps⟩ := (topups_holds.run hsound hrun').2.2 p r hr
    exact ⟨r', hr', hkeeps.paid htopup hpaid⟩

/-! ## A failure over a paid top-up -/

/-- A store with one customer. -/
def topupShop : World where
  db := Database.empty.set .user (Table.empty.create { email := "c@x" })

/-- The shop of the example is untouched. -/
theorem untouched_topupShop : Untouched topupShop where
  fresh n hn i := by
    simp only [ownedTables, List.mem_cons, List.not_mem_nil, or_false] at hn
    rcases hn with rfl | rfl | rfl | rfl | rfl <;> rfl
  wallets := ⟨nofun, nofun, nofun, nofun, fun _ => rfl, fun _ => rfl⟩

/-- A customer tops the wallet up, and both the webhook and the customer have it verified. -/
def toppedUp : List (Request Unit) :=
  [Payments.topupWallet 1 500, discard (Payments.verifyReference "TOPUP-1-a"),
    discard (Payments.verifyReference "TOPUP-1-a")]

/-- The requests of the example can be made. -/
theorem toppedUp_start : ∀ p ∈ toppedUp, treasury.starts p := by
  intro p hp
  simp only [toppedUp, List.mem_cons, List.not_mem_nil, or_false] at hp
  rcases hp with rfl | rfl | rfl
  · exact .inl (.payment (.topupWallet 1 500))
  · exact .inl (.payment (.verifyReference "TOPUP-1-a"))
  · exact .inl (.payment (.verifyReference "TOPUP-1-a"))

/-- Paystack starts the top-up, and answers with a status when it is asked. -/
def answering (status : TransactionStatus) : Env where
  now := 1
  uuid := "a"
  initializeTransaction := fun reference => .ok { reference := reference, authorizationUrl := "u" }
  verify := fun reference =>
    .ok { reference := reference, currency := "NGN", amount := some 50000, status := status }

/-- One verification is told that the top-up has failed, the other one, after it, that it has succeeded; the first
one writes last. -/
def failedLast : List (ℕ × Env) :=
  List.replicate 6 (0, answering .success) ++ List.replicate 2 (1, answering .failed) ++
    List.replicate 4 (2, answering .success) ++ List.replicate 2 (1, answering .failed)

/-- A top-up can end up failed, after all requests have finished, although it has been credited. -/
theorem topups_can_disagree :
    ¬∀ (w : World) (c : Config Op Error World), Untouched w → treasury.Run System.anyOp ⟨w, []⟩ c →
      (c.threads.all fun t => match t with | .done _ => true | _ => false) = true → TopupsAgree c.world.db := by
  intro h
  have hagree := h topupShop _ untouched_topupShop (treasury.schedule_run toppedUp_start failedLast)
    (by decide +kernel)
  have hentry : (((treasury.follow ⟨topupShop, toppedUp⟩ failedLast).world.db .walletTransaction).find 1).map
      (fun t => (t.type, t.reference)) = some (.credit, some "TOPUP-CREDIT-1") := by decide +kernel
  have hstatus : (((treasury.follow ⟨topupShop, toppedUp⟩ failedLast).world.db .payment).find 1).map (·.status) =
      some .failed := by decide +kernel
  obtain ⟨t, ht, hvalues⟩ := Option.map_eq_some_iff.mp hentry
  obtain ⟨htype, href⟩ := Prod.mk.inj hvalues
  obtain ⟨r, hr, hfailed⟩ := Option.map_eq_some_iff.mp hstatus
  have hreference : t.reference = some (topupReference 1) := href.trans (by decide +kernel)
  obtain ⟨r', hr', -, hpaid, -⟩ := hagree.paid 1 1 t ⟨ht, htype, hreference⟩
  obtain rfl := Option.some.inj (hr.symm.trans hr')
  rw [hfailed] at hpaid
  cases hpaid

/-- The same verifications, where both are told of the success. -/
def succeededTwice : List (ℕ × Env) :=
  [0, 0, 0, 0, 0, 0, 1, 1, 2, 2, 2, 1, 2, 1].map fun i => (i, answering .success)

/-- The top-up is paid, and credited once. -/
theorem topups_agree_succeeded :
    ∃ (c : Config Op Error World) (r : Payment), (c.world.db .payment).find 1 = some r ∧ r.status = .paid ∧
      ∃ k t, TopupCredit c.world.db 1 k t ∧ t.amount = r.amount := by
  have hallows : treasury.allows (fun op e c => e.fails || op.sparesTopups c.world.db) ⟨topupShop, toppedUp⟩
      succeededTwice := by decide +kernel
  have hrun : treasury.Run (fun op e c => (e.fails || op.sparesTopups c.world.db) = true) ⟨topupShop, []⟩
      (treasury.follow ⟨topupShop, toppedUp⟩ succeededTwice) :=
    (treasury.start_all_run toppedUp_start).trans (treasury.follow_run_of hallows)
  have hvalues : (((treasury.follow ⟨topupShop, toppedUp⟩ succeededTwice).world.db .payment).find 1).map
      (fun r => (r.topup, r.status)) = some (true, .paid) := by decide +kernel
  obtain ⟨r, hr, hstatus⟩ := Option.map_eq_some_iff.mp hvalues
  obtain ⟨htopup, hpaid⟩ := Prod.mk.inj hstatus
  have hagree := topups_agree untouched_topupShop hrun .refl hr htopup
  exact ⟨_, r, hr, hpaid, hagree.2.1.mp hpaid⟩

end Superstore
