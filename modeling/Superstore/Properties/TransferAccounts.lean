import Superstore.Requests.Effects
import Superstore.Requests.Wallets

/-!
# Issued transfer accounts

An account that Paystack has issued for a wallet should stay active under its number, so that
transfers to it keep being credited. Its three writers do not look at its status: a customer's
retry, an attempt that ends badly and a late webhook all take an issued account away.

It stays in every run in which none of them meets an issued account, and no assignment names
another number for one. Whatever else happens, the account of a transfer to it is then found.
-/

namespace Superstore

open Interleaving Relational.Tx

/-- An account that is active under a number. -/
def WalletFundingAccount.IssuedAs (a : WalletFundingAccount) (number : String) : Prop :=
  a.status = "ACTIVE" ∧ a.accountNumber = some number

/-- An account that has been issued. -/
def WalletFundingAccount.issued (a : WalletFundingAccount) : Bool :=
  a.status == "ACTIVE" && a.accountNumber.isSome

/-- An account that has been issued stays active under its number. -/
def WalletFundingAccount.Stays (a b : WalletFundingAccount) : Prop :=
  ∀ number, a.IssuedAs number → b.IssuedAs number

/-- Staying active under a number is reflexive and transitive. -/
instance : IsPreorder WalletFundingAccount WalletFundingAccount.Stays where
  refl _ _ := id
  trans _ _ _ hab hbc number := hbc number ∘ hab number

/-- An account under a number has been issued. -/
theorem WalletFundingAccount.IssuedAs.issued {a : WalletFundingAccount} {number : String}
    (h : a.IssuedAs number) : a.issued := by
  simp [WalletFundingAccount.issued, h.1, h.2]

/-- A statement that assigns an account, under the number that is given or under no other. -/
def Payments.FundingUpdate.keepsNumber (number : Option String) : FundingUpdate → Bool
  | .assignedAtOnce fields => fields.accountNumber.isNone || fields.accountNumber == number
  | .assigned fields _ => fields.accountNumber.isNone || fields.accountNumber == number
  | .failed _ => false

/-- No statement that looks at no status meets an issued account, except to assign it the number
that it has. -/
def Op.sparesIssued : {α : Type} → Op α → Database → Bool
  | _, .requestFundingAccount userId _ _, db =>
    ((db .walletFundingAccount).first fun _ a => a.userId == userId).all fun a => !a.2.issued
  | _, .updateFundingAccount id u, db =>
    ((db .walletFundingAccount).find id).all fun a => !a.issued || u.keepsNumber a.accountNumber
  | _, _, _ => true

namespace Payments

/-- A statement that keeps the number of an issued account leaves it active under it. -/
theorem FundingUpdate.apply_stays {u : FundingUpdate} {a : WalletFundingAccount}
    (h : !a.issued || u.keepsNumber a.accountNumber) (now : ℕ) : a.Stays (u.apply now a) := by
  intro number hissued
  have hkeeps : u.keepsNumber (some number) := by simpa [hissued.issued, hissued.2] using h
  have hsame {fields : AccountFields}
      (hf : (fields.accountNumber.isNone || fields.accountNumber == some number) = true) :
      (fields.accountNumber <|> a.accountNumber) = some number := by
    rcases Bool.or_eq_true_iff.mp hf with hnone | hnumber
    · simp [Option.isNone_iff_eq_none.mp hnone, hissued.2]
    · simp [beq_iff_eq.mp hnumber]
  cases u with
  | assignedAtOnce fields => exact ⟨rfl, hsame hkeeps⟩
  | assigned fields customerCode => exact ⟨rfl, hsame hkeeps⟩
  | failed reason => exact absurd hkeeps Bool.false_ne_true

/-- An update that spares what is issued leaves it as it is. -/
theorem updateFundingAccount_stays {db : Database} {id : ℕ} {u : FundingUpdate}
    (h : (Op.updateFundingAccount id u).sparesIssued db) (e : Env) :
    wp db (updateFundingAccount e id u) fun _ db' =>
      (db .walletFundingAccount).Evolves WalletFundingAccount.Stays (db' .walletFundingAccount) := by
  rw [updateFundingAccount, wp_bind, wp_updateUnique]
  intro a ha _
  rw [wp_findOrThrow, Relational.Database.set_self]
  intro _ _
  apply Relational.Table.Evolves.update
  intro b hb
  rw [Op.sparesIssued, hb] at h
  exact FundingUpdate.apply_stays h e.now

/-- A request that spares what is issued leaves it as it is. -/
theorem requestFundingAccount_stays {db : Database} {userId : ℕ} {customerCode : String}
    {customerId : Option ℕ} (h : (Op.requestFundingAccount userId customerCode customerId).sparesIssued db)
    (e : Env) :
    wp db (requestFundingAccount e userId customerCode customerId) fun _ db' =>
      (db .walletFundingAccount).Evolves WalletFundingAccount.Stays (db' .walletFundingAccount) := by
  rw [requestFundingAccount, wp_bind, wp_first]
  cases hknown : (db .walletFundingAccount).first fun _ a => a.userId == userId with
  | some known =>
    rw [Op.sparesIssued, hknown] at h
    have hfind := (Relational.Table.find_of_first hknown).1
    simp only [wp_bind, wp_updateUnique, wp_findOrThrow, wp_pure, Relational.Database.set_self]
    intro _ _ _ _ _
    apply Relational.Table.Evolves.update
    intro a ha number hissued
    have hsame : known.2 = a := Option.some.inj (hfind.symm.trans ha)
    subst hsame
    simp [hissued.issued] at h
  | none =>
    simp only [wp_bind, wp_createUnique, wp_pure, Relational.Database.set_self]
    exact fun _ => .create _ _

end Payments

/-- Issued accounts stay as they are, as far as the calls that come back spare them. -/
def issuedAccounts : Contract Op World Env where
  inv _ := True
  guar w w' := (w.db .walletFundingAccount).Evolves WalletFundingAccount.Stays (w'.db .walletFundingAccount)
  known _ _ := True
  allowed op e w := e.fails || op.sparesIssued w.db
  refl _ := .refl _
  trans := .trans

/-- Every operation leaves what is issued as it is. -/
theorem issuedAccounts_safe {α : Type} (op : Op α) : issuedAccounts.Safe machine op := by
  intro e w _ _ hallowed
  apply And.intro trivial
  rcases Bool.or_eq_true_iff.mp hallowed with hfails | hspares
  · exact .of_eq (congrFun (exec_fails_db hfails) _)
  by_cases hwrites : TableName.walletFundingAccount ∈ op.writes
  swap
  · exact .of_eq (exec_frame op e w _ hwrites)
  have hwithin {α : Type} {op : Op α} {m : Env → Tx α} (hop : op.transaction = some m)
      (h : wp w.db (m e) fun _ db => (w.db .walletFundingAccount).Evolves WalletFundingAccount.Stays
        (db .walletFundingAccount)) : issuedAccounts.guar w (op.exec e w).2 :=
    exec_transaction hop (Φ := issuedAccounts.guar w) (.refl _) h
  cases op <;> dsimp only [Op.writes] at hwrites <;>
    first | exact absurd hwrites (by decide) | clear hwrites
  case requestFundingAccount => exact hwithin rfl (Payments.requestFundingAccount_stays hspares e)
  case updateFundingAccount => exact hwithin rfl (Payments.updateFundingAccount_stays hspares e)

/-- Every request, where nothing but the requests writes the transfer accounts. -/
def transfers : System Op Error World Env :=
  { machine with
    starts := fun p => StoreRequest p ∨ WalletRequest p
    background := fun w w' => w'.db .walletFundingAccount = w.db .walletFundingAccount }

/-- The requests of the system leave what is issued as it is. -/
theorem issuedAccounts_holds : issuedAccounts.Holds transfers where
  starts _ s _ := Contract.informed_of_forall (fun _ _ => trivial) _ s
  performs op := issuedAccounts_safe op
  background h _ := ⟨trivial, .of_eq h⟩

/-! ## Transfers to an issued account -/

namespace Payments

/-- An active account under the number of a transfer is found. -/
theorem fundingAccountOf_isSome {v : VerifiedTransaction} {db : Database} {number : String}
    (hv : v.receiverAccount = some number) {i : ℕ} {a : WalletFundingAccount}
    (ha : (db .walletFundingAccount).find i = some a) (hissued : a.IssuedAs number) :
    (fundingAccountOf v db).isSome := by
  rw [Option.isSome_iff_ne_none, fundingAccountOf, Ne, Relational.Table.first_eq_none]
  intro hnone
  have hmatch := hnone i a ha
  simp [hissued.1, hissued.2, hv] at hmatch

/-- The entry that credits a transfer. -/
def FundingEntry (db : Database) (reference : String) (amount : ℚ) : Prop :=
  ∃ k t, (db .walletTransaction).find k = some t ∧ t.reference = some (fundingLedgerReference reference) ∧
    t.type = .credit ∧ t.amount = amount

/-- Nothing has been recorded of a transfer yet. -/
structure Unreported (reference : String) (db : Database) : Prop where
  payment : (db .payment).first (fun _ p => p.transactionRef == some reference) = none
  entry : (db .walletTransaction).first
    (fun _ t => t.reference == some (fundingLedgerReference reference)) = none

/-- A transfer whose payment has not been paid yet, and that no entry stands for, is credited. -/
theorem creditFunding_returns (e : Env) {db : Database} {paymentId : ℕ} (userId : ℕ) {reference : String}
    (amount : ℚ) {current : Payment} (hcurrent : (db .payment).find paymentId = some current)
    (hstatus : current.status ≠ .paid)
    (hentry : (db .walletTransaction).first
      (fun _ t => t.reference == some (fundingLedgerReference reference)) = none) :
    Returns db (creditFunding e paymentId userId reference amount) fun _ db' =>
      FundingEntry db' reference amount := by
  have hcredited (walletId : ℕ) {db' : Database} (h : db' .walletTransaction =
      (db .walletTransaction).create { walletId := walletId, amount := amount, type := .credit
                                       reference := some (fundingLedgerReference reference) }) :
      FundingEntry db' reference amount :=
    ⟨_, _, by rw [h]; exact Relational.Table.find_create_self _ _, rfl, rfl, rfl⟩
  rw [creditFunding, returns_bind, returns_findOrThrow]
  refine ⟨current, hcurrent, ?_⟩
  rw [if_neg hstatus, returns_bind, returns_firstOrCreate]
  constructor
  · intro wallet hwallet
    have hfind := (Relational.Table.find_of_first hwallet).1
    simp [hentry, hfind, hcurrent]
    exact hcredited _ (by simp; rfl)
  · intro _
    simp [hentry, hcurrent, Relational.Table.find_create_self]
    exact hcredited _ (by simp; rfl)

/-- A new transfer to an account that is found is credited, where every call comes back. -/
theorem completeDedicatedAccountFunding_ends {e : Env} (he : e.fails = false) {w : World}
    {reference : String} {v : VerifiedTransaction} {amount : ℚ} (hv : e.verify reference = .ok v)
    (hamount : fundedAmount v reference = some amount) (hchannel : v.channel = some "dedicated_nuban")
    (haccount : (fundingAccountOf v w.db).isSome) (hnew : Unreported reference w.db) :
    Prog.Ends machine e (completeDedicatedAccountFunding reference)
      (fun _ w' => FundingEntry w'.db reference amount) w := by
  obtain ⟨account, haccount⟩ := Option.isSome_iff_exists.mp haccount
  have hcredit (paymentId : ℕ) (db : Database)
      (hpayment : ∃ payment, (db .payment).find paymentId = some payment ∧ payment.status ≠ .paid)
      (hentry : db .walletTransaction = w.db .walletTransaction) :
      Prog.Ends machine e (call (.creditFunding paymentId account.2.userId reference amount))
        (fun _ w' => FundingEntry w'.db reference amount) { w with db := db } := by
    obtain ⟨payment, hpayment, hstatus⟩ := hpayment
    refine ends_call_of_returns rfl he (creditFunding_returns e _ amount hpayment hstatus ?_)
    rw [hentry]
    exact hnew.entry
  unfold completeDedicatedAccountFunding
  simp only [Prog.bind_eq, Prog.ends_bind]
  refine ends_call_of_exec (congrArg (·, w) hv) (ends_decided (by simpa using hamount) ?_)
  refine ends_check hchannel (ends_selectOrThrow he haccount ?_)
  refine ends_call_of_returns rfl he ?_
  rw [upsertFundingPayment, returns_firstOrCreate]
  refine ⟨fun known hknown => ?_, fun _ => ?_⟩
  · exact absurd (hknown.symm.trans hnew.payment) (Option.some_ne_none _)
  have hcreated (payment : Payment) : ((w.db .payment).create payment).find (w.db .payment).next = some payment :=
    Relational.Table.find_create_self _ _
  refine (hcredit _ _ ⟨_, (by simpa using hcreated _), ?_⟩ (by simp)).mono fun credited w' hentry => ?_
  · exact PaymentStatus.noConfusion
  refine ends_onlyIf (fun _ => ?_) fun _ => ?_
  · exact ends_call_of_exec (congrArg (·, w') (if_neg (by simp [he]))) ⟨_, _, rfl, hentry⟩
  · exact ⟨_, _, rfl, hentry⟩

end Payments

open Payments in
/-- In every run in which no retry, bad end or report of an account meets an issued one, except to
assign it the number that it has: an account that has been issued stays active under its number, a
transfer to it is never without an account, and where its calls come back it is credited. -/
theorem issued_account_stays {c c' : Config Op Error World}
    (hrun : transfers.Run (fun op e c => e.fails || op.sparesIssued c.world.db) c c') {i : ℕ}
    {a : WalletFundingAccount} {number : String}
    (ha : (c.world.db .walletFundingAccount).find i = some a) (hissued : a.IssuedAs number) :
    (∃ b, (c'.world.db .walletFundingAccount).find i = some b ∧ b.IssuedAs number) ∧
    ∀ v : VerifiedTransaction, v.receiverAccount = some number →
      (fundingAccountOf v c'.world.db).isSome ∧
      ∀ (e : Env) reference amount, e.fails = false → e.verify reference = .ok v →
        fundedAmount v reference = some amount → v.channel = some "dedicated_nuban" →
        Unreported reference c'.world.db →
        Prog.Ends machine e (completeDedicatedAccountFunding reference)
          (fun _ w' => FundingEntry w'.db reference amount) c'.world := by
  have hsound : issuedAccounts.Sound transfers c :=
    ⟨trivial, fun p _ => Contract.informed_of_forall (fun _ _ => trivial) p _⟩
  obtain ⟨b, hb, hstays⟩ := (issuedAccounts_holds.run hsound hrun).2 i a ha
  have hactive := hstays number hissued
  refine ⟨⟨b, hb, hactive⟩, fun v hv => ?_⟩
  have hfound := fundingAccountOf_isSome hv hb hactive
  exact ⟨hfound, fun e reference amount he hverify hamount hchannel hnew =>
    completeDedicatedAccountFunding_ends he hverify hamount hchannel hfound hnew⟩

/-! ## Accounts that are taken away -/

/-- A customer whose first attempt to get a transfer account failed. -/
def failedAttempt : World where
  db := (Database.empty.set .user (Relational.Table.empty.create
      { email := "a@b.c", firstName := some "A", lastName := some "B", phoneNumber := some "1" })).set
    .walletFundingAccount (Relational.Table.empty.create
      { userId := 1, paystackCustomerCode := some "CUS_1", status := "FAILED", consentedAt := 0 })

/-- Paystack reports the account that it has assigned. -/
def assignmentReport : Request Unit :=
  Payments.handleWebhook
    { eventType := "dedicatedaccount.assign.success", customerCode := some "CUS_1"
      account := { accountNumber := some "0123456789" } }

/-- The customer tries again, and the account is reported before the call has come back. -/
def retryAndReport : List (Request Unit) :=
  [discard (Payments.createWalletTransferAccount 1), assignmentReport]

/-- What an account is active under. -/
def issuedNumber (c : Config Op Error World) (id : ℕ) : Option String :=
  ((c.world.db .walletFundingAccount).find id).bind fun a => if a.status = "ACTIVE" then a.accountNumber else none

/-- The account has been asked for again, and is reported as assigned. -/
def reportArrives : List (ℕ × Env) :=
  List.replicate 3 (0, { now := 1 }) ++ List.replicate 3 (1, { now := 2 })

/-- The answer to the request does not come back. -/
def answerLost : List (ℕ × Env) := List.replicate 2 (0, { now := 3 })

/-- An account that has been issued is marked as failed when the answer to the request for it is lost. -/
theorem issued_account_can_fail :
    ¬∀ (w : World) (c c' : Config Op Error World), transfers.Run System.anyOp ⟨w, []⟩ c →
      transfers.Run System.anyOp c c' → ∀ i number, issuedNumber c i = some number →
        issuedNumber c' i = some number := by
  intro h
  have hstarts : ∀ p ∈ retryAndReport, transfers.starts p := by
    intro p hp
    rcases List.mem_pair.mp hp with rfl | rfl
    · exact .inl (.payment (.transferAccount 1))
    · exact .inl (.payment (.handleWebhook _))
  have hlost := h failedAttempt _ _ (transfers.schedule_run hstarts reportArrives)
    (transfers.follow_run _ answerLost) 1 "0123456789" (by decide +kernel)
  revert hlost
  decide +kernel

/-- An issued account, and a second report of it. -/
def issuedAndReported : Config Op Error World :=
  ⟨(transfers.follow ⟨failedAttempt, retryAndReport⟩ reportArrives).world, [assignmentReport]⟩

/-- The second report runs to its end. -/
def reportedAgain : Config Op Error World := transfers.follow issuedAndReported (List.replicate 5 (0, { now := 4 }))

/-- A transfer of 50 naira to the account. -/
def transferToAccount : VerifiedTransaction where
  reference := "T-1"
  currency := "NGN"
  amount := some 5000
  status := .success
  channel := some "dedicated_nuban"
  receiverAccount := some "0123456789"

/-- What Paystack answers of the transfer. -/
def transferAnswer : Env := { now := 5, verify := fun _ => .ok transferToAccount }

/-- An account that is reported twice stays active, and a transfer to it is credited. -/
theorem issued_account_stays_reported :
    issuedNumber reportedAgain 1 = some "0123456789" ∧
      Prog.Ends machine transferAnswer (Payments.completeDedicatedAccountFunding "T-1")
        (fun _ w => Payments.FundingEntry w.db "T-1" 50) reportedAgain.world := by
  have hallows : transfers.allows (fun op e c => e.fails || op.sparesIssued c.world.db) issuedAndReported
      (List.replicate 5 (0, { now := 4 })) := by decide +kernel
  have hfind : ((issuedAndReported.world.db .walletFundingAccount).find 1).isSome := by decide +kernel
  have hstatus : ((issuedAndReported.world.db .walletFundingAccount).find 1).map (·.status) = some "ACTIVE" := by
    decide +kernel
  have hnumber : ((issuedAndReported.world.db .walletFundingAccount).find 1).map (·.accountNumber) =
      some (some "0123456789") := by decide +kernel
  obtain ⟨a, ha⟩ := Option.isSome_iff_exists.mp hfind
  rw [ha] at hstatus hnumber
  obtain ⟨⟨b, hb, hactive⟩, htransfer⟩ := issued_account_stays (transfers.follow_run_of hallows) ha
    ⟨Option.some.inj hstatus, Option.some.inj hnumber⟩
  refine ⟨?_, (htransfer transferToAccount rfl).2 transferAnswer "T-1" 50 rfl rfl ?_ rfl ⟨?_, ?_⟩⟩
  · rw [issuedNumber, reportedAgain, hb, Option.bind_some, if_pos hactive.1]
    exact hactive.2
  · decide +kernel
  · exact Option.isNone_iff_eq_none.mp (by decide +kernel)
  · exact Option.isNone_iff_eq_none.mp (by decide +kernel)

end Superstore
