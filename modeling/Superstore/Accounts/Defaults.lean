import Mathlib.Data.List.MinMax
import Superstore.Relational.Marked
import Superstore.Relational.Transaction
import Superstore.Store.Schema

/-!
# Default addresses and primary bank accounts

A customer keeps addresses, one of which is the default; a rider keeps bank accounts, one of
which is the primary one, to which earnings are paid out. Each request runs in a transaction of its
own. Bank accounts always have exactly one primary account; addresses have exactly one default
as long as nobody takes the mark off it, or asks for a first address without it.
-/

namespace Superstore.Accounts

/-- The review state of a rider's document. -/
inductive DocumentStatus
  | pending | approved | rejected | expired
  deriving DecidableEq

/-- An address of a user. -/
structure Address where
  userId : ℕ
  label : Option String := none
  state : Option String := none
  city : Option String := none
  address : String
  firstName : Option String := none
  lastName : Option String := none
  phone : Option String := none
  additionalPhone : Option String := none
  email : Option String := none
  additionalInfo : Option String := none
  latitude : Option ℚ := none
  longitude : Option ℚ := none
  isDefault : Bool := false
  createdAt : ℕ

/-- The profile of a rider. -/
structure RiderProfile where
  userId : ℕ

/-- A bank account of a rider. -/
structure RiderBankAccount where
  riderId : ℕ
  bankCode : String
  bankName : String
  accountNumber : String
  accountName : String
  verificationStatus : DocumentStatus := .pending
  isPrimary : Bool := false
  createdAt : ℕ

/-- The tables of this part of the database. -/
inductive AccountTable
  | address | riderProfile | riderBankAccount
  deriving DecidableEq

/-- The rows of each table. -/
abbrev AccountRow : AccountTable → Type
  | .address => Address
  | .riderProfile => RiderProfile
  | .riderBankAccount => RiderBankAccount

/-- The tables of the accounts. -/
abbrev AccountDatabase := Relational.Database AccountRow

/-- A transaction on addresses and bank accounts. -/
abbrev AccountTx := Relational.Tx AccountRow Error

/-- What a request to add an address says. -/
structure CreateAddressDto where
  label : Option String := none
  state : String
  city : Option String := none
  town : Option String := none
  address : String
  firstName : Option String := none
  lastName : Option String := none
  phone : Option String := none
  additionalPhone : Option String := none
  email : Option String := none
  additionalInfo : Option String := none
  latitude : Option ℚ := none
  longitude : Option ℚ := none
  isDefault : Option Bool := none

/-- The fields of an address that a request changes. -/
structure UpdateAddressDto where
  label : Option String := none
  state : Option String := none
  city : Option String := none
  town : Option String := none
  address : Option String := none
  firstName : Option String := none
  lastName : Option String := none
  phone : Option String := none
  additionalPhone : Option String := none
  email : Option String := none
  additionalInfo : Option String := none
  latitude : Option ℚ := none
  longitude : Option ℚ := none
  isDefault : Option Bool := none

/-- What a request to add a bank account says. -/
structure CreateBankAccountDto where
  bankCode : String
  accountNumber : String
  isPrimary : Option Bool := none

/-- A bank account as the bank resolver has confirmed it. -/
structure ResolvedAccount where
  bankName : String
  accountNumber : String
  accountName : String

/-- What a request receives from outside: the time, and the answer of the bank resolver. -/
structure AccountEnv where
  now : ℕ
  resolveAccount : String → String → Except Error ResolvedAccount := fun _ _ => .error .unavailable

open Relational (Tx)

/-- All rows of a table that satisfy a condition. -/
abbrev manyRows (n : AccountTable) (p : ℕ → AccountRow n → Bool) : AccountTx (List (ℕ × AccountRow n)) :=
  Tx.many n p

/-- The first row of a table that satisfies a condition. -/
abbrev firstRow (n : AccountTable) (p : ℕ → AccountRow n → Bool) : AccountTx (Option (ℕ × AccountRow n)) :=
  Tx.first n p

/-! ## Addresses -/

/-- Whether city and town are both given and differ. -/
def townMismatch (city town : Option String) : Bool :=
  town.any fun town => town != "" && city.any fun city => city != "" && town != city

/-- Make an address the default, or take that from it. -/
def Address.setDefault (isDefault : Bool) (a : Address) : Address := { a with isDefault := isDefault }

/-- Take the default from a customer's addresses. -/
def clearDefault (userId : ℕ) : AccountTx Unit := do
  let _ ← Tx.updateMany .address (fun _ a => a.userId == userId && a.isDefault) (Address.setDefault false)
  pure ()

/-- The row of a new address. -/
def newAddress (now userId : ℕ) (dto : CreateAddressDto) (isDefault : Bool) : Address :=
  { userId := userId, label := dto.label, state := some dto.state, city := dto.city <|> dto.town
    address := dto.address, firstName := dto.firstName, lastName := dto.lastName, phone := dto.phone
    additionalPhone := dto.additionalPhone, email := dto.email, additionalInfo := dto.additionalInfo
    latitude := dto.latitude, longitude := dto.longitude, isDefault := isDefault, createdAt := now }

/-- Add an address; a first one becomes the default unless the request says otherwise. -/
def addAddress (e : AccountEnv) (userId : ℕ) (dto : CreateAddressDto) : AccountTx Unit := do
  Tx.require (dto.city.any (· != "") || dto.town.any (· != "")) (.badRequest "City or town is required.")
  Tx.require (!townMismatch dto.city dto.town) (.badRequest "City and town must match.")
  let addresses ← manyRows .address fun _ a => a.userId == userId
  let isDefault := dto.isDefault.getD addresses.isEmpty
  Tx.when isDefault (clearDefault userId)
  let _ ← Tx.create .address (newAddress e.now userId dto isDefault)
  pure ()

/-- An address with the given fields changed. -/
def Address.change (dto : UpdateAddressDto) (a : Address) : Address :=
  { a with
    label := dto.label <|> a.label, state := dto.state <|> a.state, city := dto.city <|> dto.town <|> a.city
    address := dto.address.getD a.address, firstName := dto.firstName <|> a.firstName
    lastName := dto.lastName <|> a.lastName, phone := dto.phone <|> a.phone
    additionalPhone := dto.additionalPhone <|> a.additionalPhone, email := dto.email <|> a.email
    additionalInfo := dto.additionalInfo <|> a.additionalInfo, latitude := dto.latitude <|> a.latitude
    longitude := dto.longitude <|> a.longitude, isDefault := dto.isDefault.getD a.isDefault }

/-- An address of a customer. -/
def ownAddress (userId addressId : ℕ) : AccountTx Address := do
  let address ← Tx.find .address addressId
  Tx.orThrow (address.filter (·.userId == userId)) (.notFound "Address not found.")

/-- Change an address. -/
def updateAddress (userId addressId : ℕ) (dto : UpdateAddressDto) : AccountTx Unit := do
  Tx.require (!townMismatch dto.city dto.town) (.badRequest "City and town must match.")
  let _ ← ownAddress userId addressId
  Tx.when (dto.isDefault = some true) (clearDefault userId)
  Tx.update .address addressId (Address.change dto)

/-- Delete an address; the latest of the others takes the place of a default one. -/
def deleteAddress (userId addressId : ℕ) : AccountTx Unit := do
  let address ← ownAddress userId addressId
  Tx.deleteMany .address fun i _ => i == addressId
  Tx.when address.isDefault do
    let others ← manyRows .address fun _ a => a.userId == userId
    match others.argmax (·.2.createdAt) with
    | some replacement => Tx.update .address replacement.1 (Address.setDefault true)
    | none => pure ()

/-! ## Bank accounts -/

/-- The profile of a rider. -/
def requireProfile (userId : ℕ) : AccountTx (ℕ × RiderProfile) := do
  let rider ← firstRow .riderProfile fun _ r => r.userId == userId
  Tx.orThrow rider (.notFound "Rider profile not found.")

/-- Make an account the primary one, or take that from it. -/
def RiderBankAccount.setPrimary (isPrimary : Bool) (a : RiderBankAccount) : RiderBankAccount :=
  { a with isPrimary := isPrimary }

/-- Add a bank account that the resolver knows; a first one becomes the primary account. -/
def addBankAccount (e : AccountEnv) (userId : ℕ) (dto : CreateBankAccountDto) : AccountTx Unit := do
  let rider ← requireProfile userId
  let resolved ← Tx.ofExcept (e.resolveAccount dto.bankCode dto.accountNumber)
  let accounts ← manyRows .riderBankAccount fun _ a => a.riderId == rider.1
  let isPrimary := dto.isPrimary == some true || accounts.isEmpty
  Tx.when isPrimary do
    let _ ← Tx.updateMany .riderBankAccount (fun _ a => a.riderId == rider.1)
      (RiderBankAccount.setPrimary false)
    pure ()
  let _ ← Tx.create .riderBankAccount
    { riderId := rider.1, bankCode := dto.bankCode, bankName := resolved.bankName
      accountNumber := resolved.accountNumber, accountName := resolved.accountName
      verificationStatus := .approved, isPrimary := isPrimary, createdAt := e.now }
  pure ()

/-- A bank account of a rider. -/
def ownAccount (riderId accountId : ℕ) : AccountTx RiderBankAccount := do
  let account ← Tx.find .riderBankAccount accountId
  Tx.orThrow (account.filter (·.riderId == riderId))
    (.notFound "Bank account not found or does not belong to this rider.")

/-- Make a verified account the primary one. -/
def setPrimaryBankAccount (userId accountId : ℕ) : AccountTx Unit := do
  let rider ← requireProfile userId
  let account ← ownAccount rider.1 accountId
  Tx.require (account.verificationStatus = .approved)
    (.badRequest "Only a verified bank account can be set as primary.")
  let _ ← Tx.updateMany .riderBankAccount (fun i a => a.riderId == rider.1 && i != accountId)
    (RiderBankAccount.setPrimary false)
  Tx.update .riderBankAccount accountId (RiderBankAccount.setPrimary true)

/-- Remove a bank account; the oldest verified one takes the place of a primary one. -/
def removeBankAccount (userId accountId : ℕ) : AccountTx Unit := do
  let rider ← requireProfile userId
  let account ← ownAccount rider.1 accountId
  Tx.deleteMany .riderBankAccount fun i _ => i == accountId
  Tx.when account.isPrimary do
    let others ← manyRows .riderBankAccount fun _ a =>
      a.riderId == rider.1 && decide (a.verificationStatus = .approved)
    match others.argmin (·.2.createdAt) with
    | some replacement => Tx.update .riderBankAccount replacement.1 (RiderBankAccount.setPrimary true)
    | none => pure ()

/-! ## Requests one after the other -/

/-- The requests about addresses and bank accounts. -/
inductive AccountRequest
  | addAddress (userId : ℕ) (dto : CreateAddressDto)
  | updateAddress (userId addressId : ℕ) (dto : UpdateAddressDto)
  | deleteAddress (userId addressId : ℕ)
  | addBankAccount (userId : ℕ) (dto : CreateBankAccountDto)
  | setPrimaryBankAccount (userId accountId : ℕ)
  | removeBankAccount (userId accountId : ℕ)

/-- What a request does. -/
def AccountRequest.transaction (e : AccountEnv) : AccountRequest → AccountTx Unit
  | .addAddress userId dto => Accounts.addAddress e userId dto
  | .updateAddress userId addressId dto => Accounts.updateAddress userId addressId dto
  | .deleteAddress userId addressId => Accounts.deleteAddress userId addressId
  | .addBankAccount userId dto => Accounts.addBankAccount e userId dto
  | .setPrimaryBankAccount userId accountId => Accounts.setPrimaryBankAccount userId accountId
  | .removeBankAccount userId accountId => Accounts.removeBankAccount userId accountId

/-- The database after a request; one that fails changes nothing. -/
def AccountRequest.run (e : AccountEnv) (request : AccountRequest) (db : AccountDatabase) : AccountDatabase :=
  match request.transaction e db with
  | .ok (_, db') => db'
  | .error _ => db

/-- The database after requests that follow one another. -/
def runRequests (requests : List (AccountEnv × AccountRequest)) (db : AccountDatabase) : AccountDatabase :=
  requests.foldl (fun db r => r.2.run r.1 db) db

/-! ## Exactly one default -/

open Relational Relational.Tx

/-- Customers with addresses have one default, riders with bank accounts have one primary account, and
all accounts are verified. -/
structure Settled (db : AccountDatabase) : Prop where
  addresses : (db .address).OneMarked Address.userId Address.isDefault
  accounts : (db .riderBankAccount).OneMarked RiderBankAccount.riderId RiderBankAccount.isPrimary
  approved : ∀ i a, (db .riderBankAccount).find i = some a → a.verificationStatus = .approved

/-- Addresses that are settled, where the bank accounts stay. -/
theorem Settled.of_addresses {db db' : AccountDatabase} (h : Settled db)
    (haddresses : (db' .address).OneMarked Address.userId Address.isDefault)
    (hsame : db' .riderBankAccount = db .riderBankAccount) : Settled db' where
  addresses := haddresses
  accounts := hsame ▸ h.accounts
  approved := hsame ▸ h.approved

/-- Bank accounts that are settled, where the addresses stay. -/
theorem Settled.of_accounts {db db' : AccountDatabase} (h : Settled db)
    (haccounts : (db' .riderBankAccount).OneMarked RiderBankAccount.riderId RiderBankAccount.isPrimary)
    (happroved : ∀ i a, (db' .riderBankAccount).find i = some a → a.verificationStatus = .approved)
    (hsame : db' .address = db .address) : Settled db' where
  addresses := hsame ▸ h.addresses
  accounts := haccounts
  approved := happroved

/-- The addresses of a customer that the default is taken from. -/
theorem clearDefault_clears (userId : ℕ) (kept : ℕ → Prop) :
    Table.Clears Address.userId Address.isDefault userId kept
      (fun _ a => a.userId == userId && a.isDefault) (Address.setDefault false) where
  owned _ _ h := beq_iff_eq.mp (Bool.and_eq_true_iff.mp h).1
  covers _ _ ho hm := .inl (Bool.and_eq_true_iff.mpr ⟨beq_iff_eq.mpr ho, hm⟩)
  keeps _ := rfl
  unmarks _ := rfl

/-- A request does not take the default away: a first address is not asked for without it, and it is
not taken from the address that has it. -/
def AccountRequest.KeepsDefault (db : AccountDatabase) : AccountRequest → Prop
  | .addAddress userId dto => dto.isDefault = some false →
      ∃ i a, (db .address).find i = some a ∧ a.userId = userId
  | .updateAddress userId addressId dto => dto.isDefault = some false →
      ∀ a, (db .address).find addressId = some a → a.userId = userId → a.isDefault = false
  | _ => True

variable {db : AccountDatabase}

/-- Adding an address leaves one default, where it does not refuse to be the first one. -/
theorem addAddress_settled (h : Settled db) (e : AccountEnv) {userId : ℕ} {dto : CreateAddressDto}
    (hkeeps : (AccountRequest.addAddress userId dto).KeepsDefault db) :
    wp db (addAddress e userId dto) fun _ db' => Settled db' := by
  rw [addAddress, wp_bind, wp_require]
  intro _
  rw [wp_bind, wp_require]
  intro _
  rw [wp_bind, wp_many, wp_bind, wp_when]
  refine ⟨fun hdefault => ?_, fun hplain => ?_⟩
  · rw [clearDefault, wp_bind, wp_updateMany, wp_pure, wp_bind, wp_create, wp_pure]
    refine h.of_addresses ?_ (by rw [Database.set_of_ne _ _ (by decide), Database.set_of_ne _ _ (by decide)])
    rw [Database.set_self, Database.set_self]
    exact h.addresses.create_marked (clearDefault_clears userId _) rfl hdefault
  · rw [wp_bind, wp_create, wp_pure]
    refine h.of_addresses ?_ (Database.set_of_ne _ _ (by decide))
    rw [Database.set_self]
    refine h.addresses.create_unmarked (Bool.eq_false_iff.mpr hplain) ?_
    cases hgiven : dto.isDefault with
    | some given =>
      rw [hgiven, Option.getD_some] at hplain
      obtain rfl : given = false := Bool.eq_false_iff.mpr hplain
      exact hkeeps hgiven
    | none =>
      rw [hgiven, Option.getD_none, List.isEmpty_iff] at hplain
      obtain ⟨r, hr⟩ := List.exists_mem_of_ne_nil _ hplain
      obtain ⟨hfind, howner⟩ := Table.mem_many.mp hr
      exact ⟨r.1, r.2, hfind, beq_iff_eq.mp howner⟩

/-- Changing an address leaves one default, where it does not unmark the default. -/
theorem updateAddress_settled (h : Settled db) {userId addressId : ℕ} {dto : UpdateAddressDto}
    (hkeeps : (AccountRequest.updateAddress userId addressId dto).KeepsDefault db) :
    wp db (updateAddress userId addressId dto) fun _ db' => Settled db' := by
  rw [updateAddress, wp_bind, wp_require]
  intro _
  rw [wp_bind, ownAddress, wp_bind, wp_find, wp_orThrow]
  intro a ha
  obtain ⟨ha, howner⟩ := Option.filter_eq_some_iff.mp ha
  have howner := beq_iff_eq.mp howner
  rw [wp_bind, wp_when]
  refine ⟨fun hdefault => ?_, fun hplain => ?_⟩
  · rw [clearDefault, wp_bind, wp_updateMany, wp_pure, wp_update]
    intro _ _
    refine h.of_addresses ?_ (by rw [Database.set_of_ne _ _ (by decide), Database.set_of_ne _ _ (by decide)])
    rw [Database.set_self, Database.set_self]
    refine h.addresses.mark ha howner (clearDefault_clears userId _) (fun _ => rfl) fun b => ?_
    rw [Address.change, hdefault]
    rfl
  · rw [wp_update]
    intro _ _
    refine h.of_addresses ?_ (Database.set_of_ne _ _ (by decide))
    rw [Database.set_self]
    refine h.addresses.edit (fun _ => rfl) fun b hb => ?_
    obtain rfl := Option.some.inj (ha.symm.trans hb)
    cases hgiven : dto.isDefault with
    | none => simp only [Address.change, hgiven, Option.getD_none]
    | some given =>
      have hfalse : given = false := Bool.eq_false_iff.mpr fun hg => hplain (hgiven.trans (congrArg some hg))
      rw [hfalse] at hgiven
      rw [Address.change, hgiven, hkeeps hgiven a ha howner]
      rfl

/-- Deleting an address leaves one default. -/
theorem deleteAddress_settled (h : Settled db) (userId addressId : ℕ) :
    wp db (deleteAddress userId addressId) fun _ db' => Settled db' := by
  rw [deleteAddress, wp_bind, ownAddress, wp_bind, wp_find, wp_orThrow]
  intro a ha
  obtain ⟨ha, howner⟩ := Option.filter_eq_some_iff.mp ha
  have howner := beq_iff_eq.mp howner
  rw [wp_bind, wp_deleteMany, wp_when]
  refine ⟨fun hdefault => ?_, fun hplain => ?_⟩
  · rw [wp_bind, wp_many, Database.set_self]
    cases hothers : (((db .address).deleteMany fun i _ => i == addressId).many
        fun _ a => a.userId == userId).argmax (·.2.createdAt) with
    | none =>
      refine (wp_pure _ _ _).mpr (h.of_addresses ?_ (Database.set_of_ne _ _ (by decide)))
      rw [Database.set_self]
      refine h.addresses.delete_last ha fun j b hb hob => ?_
      have hmem := (Table.mem_many (p := fun _ a => a.userId == userId) (r := (j, b))).mpr
        ⟨hb, beq_iff_eq.mpr (hob.trans howner)⟩
      rw [List.argmax_eq_none.mp hothers] at hmem
      cases hmem
    | some replacement =>
      obtain ⟨hb, hob⟩ := Table.mem_many.mp (List.argmax_mem hothers)
      refine (wp_update _ _ _ _ _).mpr fun _ _ => h.of_addresses ?_ ?_
      · rw [Database.set_self, Database.set_self]
        exact h.addresses.delete_promote ha hdefault hb ((beq_iff_eq.mp hob).trans howner.symm) (fun _ => rfl)
          fun _ => rfl
      · rw [Database.set_of_ne _ _ (by decide), Database.set_of_ne _ _ (by decide)]
  · refine h.of_addresses ?_ (Database.set_of_ne _ _ (by decide))
    rw [Database.set_self]
    refine h.addresses.delete_unmarked fun b hb => ?_
    obtain rfl := Option.some.inj (ha.symm.trans hb)
    exact Bool.eq_false_iff.mpr hplain

/-- All accounts of a rider, or all but one, that the mark of the primary account is taken from. -/
theorem setPrimary_clears (riderId : ℕ) (kept : ℕ → Prop) [DecidablePred kept] :
    Table.Clears RiderBankAccount.riderId RiderBankAccount.isPrimary riderId kept
      (fun i a => a.riderId == riderId && !decide (kept i)) (RiderBankAccount.setPrimary false) where
  owned _ _ h := beq_iff_eq.mp (Bool.and_eq_true_iff.mp h).1
  covers i _ ho _ := by
    by_cases hk : kept i
    · exact .inr hk
    · exact .inl (by simp [ho, hk])
  keeps _ := rfl
  unmarks _ := rfl

/-- Taking the mark of the primary account leaves every account verified. -/
theorem approved_updateMany {t : Table RiderBankAccount}
    (h : ∀ i a, t.find i = some a → a.verificationStatus = .approved) (p : ℕ → RiderBankAccount → Bool)
    (isPrimary : Bool) :
    ∀ i a, (t.updateMany p (RiderBankAccount.setPrimary isPrimary)).find i = some a →
      a.verificationStatus = .approved := by
  intro i a ha
  rw [Table.find_updateMany] at ha
  obtain ⟨b, hb, rfl⟩ := Option.map_eq_some_iff.mp ha
  split
  · exact h i b hb
  · exact h i b hb

/-- Adding a bank account leaves one primary account. -/
theorem addBankAccount_settled (h : Settled db) (e : AccountEnv) (userId : ℕ) (dto : CreateBankAccountDto) :
    wp db (addBankAccount e userId dto) fun _ db' => Settled db' := by
  rw [addBankAccount, wp_bind, requireProfile, wp_bind, wp_first, wp_orThrow]
  intro rider _
  rw [wp_bind, wp_ofExcept]
  intro resolved _
  rw [wp_bind, wp_many, wp_bind, wp_when]
  have hcreated {t : Table RiderBankAccount} {a : RiderBankAccount}
      (ht : ∀ i a, t.find i = some a → a.verificationStatus = .approved) (ha : a.verificationStatus = .approved) :
      ∀ i b, (t.create a).find i = some b → b.verificationStatus = .approved := by
    intro i b hb
    rw [Table.find_create] at hb
    split at hb
    · cases hb
      exact ha
    · exact ht i b hb
  refine ⟨fun hprimary => ?_, fun hplain => ?_⟩
  · rw [wp_bind, wp_updateMany, wp_pure, wp_bind, wp_create, wp_pure]
    refine h.of_accounts ?_ ?_ (by rw [Database.set_of_ne _ _ (by decide), Database.set_of_ne _ _ (by decide)])
    · rw [Database.set_self, Database.set_self]
      have hclears : Table.Clears RiderBankAccount.riderId RiderBankAccount.isPrimary rider.1 (fun _ => False)
          (fun _ a => a.riderId == rider.1) (RiderBankAccount.setPrimary false) := by
        simpa using setPrimary_clears rider.1 fun _ => False
      exact h.accounts.create_marked hclears rfl hprimary
    · rw [Database.set_self, Database.set_self]
      exact hcreated (approved_updateMany h.approved _ _) rfl
  · rw [wp_bind, wp_create, wp_pure]
    refine h.of_accounts ?_ ?_ (Database.set_of_ne _ _ (by decide))
    · rw [Database.set_self]
      refine h.accounts.create_unmarked (Bool.eq_false_iff.mpr hplain) ?_
      have hsome : (((db .riderBankAccount).many fun _ a => a.riderId == rider.1)) ≠ [] := fun hnil =>
        hplain (by rw [hnil]; exact Bool.or_true _)
      obtain ⟨r, hr⟩ := List.exists_mem_of_ne_nil _ hsome
      obtain ⟨hfind, howner⟩ := Table.mem_many.mp hr
      exact ⟨r.1, r.2, hfind, beq_iff_eq.mp howner⟩
    · rw [Database.set_self]
      exact hcreated h.approved rfl

/-- Choosing a primary bank account leaves one. -/
theorem setPrimaryBankAccount_settled (h : Settled db) (userId accountId : ℕ) :
    wp db (setPrimaryBankAccount userId accountId) fun _ db' => Settled db' := by
  rw [setPrimaryBankAccount, wp_bind, requireProfile, wp_bind, wp_first, wp_orThrow]
  intro rider _
  rw [wp_bind, ownAccount, wp_bind, wp_find, wp_orThrow]
  intro a ha
  obtain ⟨ha, howner⟩ := Option.filter_eq_some_iff.mp ha
  rw [wp_bind, wp_require]
  intro _
  rw [wp_bind, wp_updateMany, wp_update]
  intro _ _
  refine h.of_accounts ?_ ?_ (by rw [Database.set_of_ne _ _ (by decide), Database.set_of_ne _ _ (by decide)])
  · rw [Database.set_self, Database.set_self]
    have hclears : Table.Clears RiderBankAccount.riderId RiderBankAccount.isPrimary rider.1 (· = accountId)
        (fun i a => a.riderId == rider.1 && i != accountId) (RiderBankAccount.setPrimary false) := by
      have hall := setPrimary_clears rider.1 (· = accountId)
      have hsame : (fun (i : ℕ) (a : RiderBankAccount) => a.riderId == rider.1 && !decide (i = accountId)) =
          fun i a => a.riderId == rider.1 && i != accountId := by
        funext i a
        by_cases hi : i = accountId <;> simp [hi]
      exact hsame ▸ hall
    exact h.accounts.mark ha (beq_iff_eq.mp howner) hclears (fun _ => rfl) fun _ => rfl
  · rw [Database.set_self, Database.set_self]
    exact approved_updateMany (approved_updateMany h.approved _ _) _ _

/-- Removing a bank account leaves one primary account. -/
theorem removeBankAccount_settled (h : Settled db) (userId accountId : ℕ) :
    wp db (removeBankAccount userId accountId) fun _ db' => Settled db' := by
  rw [removeBankAccount, wp_bind, requireProfile, wp_bind, wp_first, wp_orThrow]
  intro rider _
  rw [wp_bind, ownAccount, wp_bind, wp_find, wp_orThrow]
  intro a ha
  obtain ⟨ha, howner⟩ := Option.filter_eq_some_iff.mp ha
  have howner := beq_iff_eq.mp howner
  have hleft : ∀ i b, ((db .riderBankAccount).deleteMany fun i _ => i == accountId).find i = some b →
      b.verificationStatus = .approved := fun i b hb => h.approved i b (Table.find_delete.mp hb).1
  rw [wp_bind, wp_deleteMany, wp_when]
  refine ⟨fun hprimary => ?_, fun hplain => ?_⟩
  · rw [wp_bind, wp_many, Database.set_self]
    cases hothers : (((db .riderBankAccount).deleteMany fun i _ => i == accountId).many
        fun _ a => a.riderId == rider.1 && decide (a.verificationStatus = .approved)).argmin (·.2.createdAt) with
    | none =>
      refine (wp_pure _ _ _).mpr (h.of_accounts ?_ ?_ (Database.set_of_ne _ _ (by decide)))
      · rw [Database.set_self]
        refine h.accounts.delete_last ha fun j b hb hob => ?_
        have hmem := (Table.mem_many (p := fun _ a => a.riderId == rider.1 &&
          decide (a.verificationStatus = .approved)) (r := (j, b))).mpr
          ⟨hb, by simp [hob.trans howner, hleft j b hb]⟩
        rw [List.argmin_eq_none.mp hothers] at hmem
        cases hmem
      · rw [Database.set_self]
        exact hleft
    | some replacement =>
      obtain ⟨hb, hob⟩ := Table.mem_many.mp (List.argmin_mem hothers)
      refine (wp_update _ _ _ _ _).mpr fun _ _ => h.of_accounts ?_ ?_ ?_
      · rw [Database.set_self, Database.set_self]
        have hsame := beq_iff_eq.mp (Bool.and_eq_true_iff.mp hob).1
        exact h.accounts.delete_promote ha hprimary hb (hsame.trans howner.symm) (fun _ => rfl) fun _ => rfl
      · rw [Database.set_self, Database.set_self]
        exact approved_updateMany hleft _ _
      · rw [Database.set_of_ne _ _ (by decide), Database.set_of_ne _ _ (by decide)]
  · refine h.of_accounts ?_ ?_ (Database.set_of_ne _ _ (by decide))
    · rw [Database.set_self]
      refine h.accounts.delete_unmarked fun b hb => ?_
      obtain rfl := Option.some.inj (ha.symm.trans hb)
      exact Bool.eq_false_iff.mpr hplain
    · rw [Database.set_self]
      exact hleft

/-- One request keeps the defaults and the primary accounts. -/
theorem run_settled (h : Settled db) (e : AccountEnv) {request : AccountRequest}
    (hkeeps : request.KeepsDefault db) :
    Settled (request.run e db) := by
  have hwp : wp db (request.transaction e) fun _ db' => Settled db' := by
    cases request with
    | addAddress userId dto => exact addAddress_settled h e hkeeps
    | updateAddress userId addressId dto => exact updateAddress_settled h hkeeps
    | deleteAddress userId addressId => exact deleteAddress_settled h userId addressId
    | addBankAccount userId dto => exact addBankAccount_settled h e userId dto
    | setPrimaryBankAccount userId accountId => exact setPrimaryBankAccount_settled h userId accountId
    | removeBankAccount userId accountId => exact removeBankAccount_settled h userId accountId
  unfold AccountRequest.run
  split
  · next db' hrun => exact hwp _ _ hrun
  · exact h

/-- Every request of a sequence keeps the default at its turn. -/
def KeepDefaults : List (AccountEnv × AccountRequest) → AccountDatabase → Prop
  | [], _ => True
  | r :: rest, db => r.2.KeepsDefault db ∧ KeepDefaults rest (r.2.run r.1 db)

/-- A run of requests leaves one default and one primary account. -/
theorem runRequests_settled {requests : List (AccountEnv × AccountRequest)} (h : Settled db)
    (hkeeps : KeepDefaults requests db) : Settled (runRequests requests db) := by
  induction requests generalizing db with
  | nil => exact h
  | cons r rest ih => exact ih (run_settled h r.1 hkeeps.1) hkeeps.2

/-- Starting without addresses and bank accounts, a customer with addresses has exactly one default and
a rider with bank accounts exactly one primary account, which is verified, after every sequence of
requests none of which takes a default away. -/
theorem exactly_one_default {requests : List (AccountEnv × AccountRequest)}
    (haddresses : ∀ i, (db .address).find i = none) (haccounts : ∀ i, (db .riderBankAccount).find i = none)
    (hkeeps : KeepDefaults requests db) :
    (∀ i a, ((runRequests requests db) .address).find i = some a →
      ∃! j, ∃ b, ((runRequests requests db) .address).find j = some b ∧ b.userId = a.userId ∧ b.isDefault = true) ∧
    ∀ i a, ((runRequests requests db) .riderBankAccount).find i = some a →
      ∃! j, ∃ b, ((runRequests requests db) .riderBankAccount).find j = some b ∧ b.riderId = a.riderId ∧
        b.isPrimary = true ∧ b.verificationStatus = .approved := by
  have hstart : Settled db :=
    ⟨.of_empty haddresses, .of_empty haccounts, fun i a ha => by rw [haccounts i] at ha; cases ha⟩
  have hsettled := runRequests_settled hstart hkeeps
  refine ⟨fun i a ha => hsettled.addresses.existsUnique ha, fun i a ha => ?_⟩
  obtain ⟨j, ⟨b, hb, hob, hmb⟩, honly⟩ := hsettled.accounts.existsUnique ha
  exact ⟨j, ⟨b, hb, hob, hmb, hsettled.approved j b hb⟩, fun k ⟨c, hc, hoc, hmc, _⟩ => honly k ⟨c, hc, hoc, hmc⟩⟩

/-- A rider without addresses and bank accounts. -/
def newRider : AccountDatabase
  | .riderProfile => Table.empty.create { userId := 7 }
  | .address => Table.empty
  | .riderBankAccount => Table.empty

/-- A bank resolver that knows every account. -/
def openBank (now : ℕ) : AccountEnv :=
  { now := now
    resolveAccount := fun bankCode accountNumber =>
      .ok { bankName := bankCode, accountNumber := accountNumber, accountName := "Ada Obi" } }

/-- The request for an address in Lagos. -/
def lagosAddress (isDefault : Option Bool) : CreateAddressDto :=
  { state := "Lagos", city := some "Ikeja", address := "1 Allen Avenue", isDefault := isDefault }

/-- The rider moves house and changes banks. -/
def rideRequests : List (AccountEnv × AccountRequest) :=
  [(openBank 1, .addAddress 7 (lagosAddress none)), (openBank 2, .addAddress 7 (lagosAddress none)),
    (openBank 3, .addBankAccount 7 { bankCode := "044", accountNumber := "0123456789" }),
    (openBank 4, .addBankAccount 7 { bankCode := "058", accountNumber := "9876543210" }),
    (openBank 5, .deleteAddress 7 1), (openBank 6, .setPrimaryBankAccount 7 2),
      (openBank 7, .removeBankAccount 7 2)]

/-- The rider who has moved and changed banks has one default and one primary account. -/
theorem one_default_after_moving :
    (∃! j, ∃ b, ((runRequests rideRequests newRider) .address).find j = some b ∧ b.userId = 7 ∧
      b.isDefault = true) ∧
    ∃! j, ∃ b, ((runRequests rideRequests newRider) .riderBankAccount).find j = some b ∧ b.riderId = 1 ∧
      b.isPrimary = true ∧ b.verificationStatus = .approved := by
  have hkeeps : KeepDefaults rideRequests newRider :=
    ⟨nofun, nofun, trivial, trivial, trivial, trivial, trivial, trivial⟩
  obtain ⟨haddresses, haccounts⟩ := exactly_one_default (fun _ => rfl) (fun _ => rfl) hkeeps
  have haddress : (((runRequests rideRequests newRider) .address).find 2).map Address.userId = some 7 := by
    decide +kernel
  have haccount : (((runRequests rideRequests newRider) .riderBankAccount).find 1).map
      RiderBankAccount.riderId = some 1 := by decide +kernel
  obtain ⟨a, ha, howner⟩ := Option.map_eq_some_iff.mp haddress
  obtain ⟨b, hb, hrider⟩ := Option.map_eq_some_iff.mp haccount
  exact ⟨howner ▸ haddresses 2 a ha, hrider ▸ haccounts 1 b hb⟩

/-- A first address that is not to be the default leaves its customer without one. -/
theorem first_address_not_default :
    ¬ ∀ (db : AccountDatabase) (requests : List (AccountEnv × AccountRequest)),
      (∀ i, (db .address).find i = none) → (∀ i, (db .riderBankAccount).find i = none) →
      (∀ i a, ((runRequests requests db) .address).find i = some a →
        ∃! j, ∃ b, ((runRequests requests db) .address).find j = some b ∧ b.userId = a.userId ∧
          b.isDefault = true) ∧
      ∀ i a, ((runRequests requests db) .riderBankAccount).find i = some a →
        ∃! j, ∃ b, ((runRequests requests db) .riderBankAccount).find j = some b ∧ b.riderId = a.riderId ∧
          b.isPrimary = true ∧ b.verificationStatus = .approved := by
  intro hall
  let requests := [(openBank 1, AccountRequest.addAddress 7 (lagosAddress (some false)))]
  have hsome : (((runRequests requests newRider) .address).find 1).isSome := by decide +kernel
  have hnone : (((runRequests requests newRider) .address).many fun _ a => a.isDefault).isEmpty := by
    decide +kernel
  obtain ⟨a, ha⟩ := Option.isSome_iff_exists.mp hsome
  obtain ⟨j, ⟨b, hb, _, hdefault⟩, _⟩ :=
    (hall newRider requests (fun _ => rfl) (fun _ => rfl)).1 1 a ha
  have hmem := (Table.mem_many (p := fun _ (a : Address) => a.isDefault) (r := (j, b))).mpr ⟨hb, hdefault⟩
  rw [List.isEmpty_iff.mp hnone] at hmem
  cases hmem
end Superstore.Accounts
