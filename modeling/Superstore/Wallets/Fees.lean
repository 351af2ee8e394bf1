import Superstore.Orders.Fees
import Superstore.Wallets.Postings

/-!
# The entries of riders' fees

A fee that is held is noted in the wallet of its rider, and so is its release, which raises the balance.
The entries and the fees go together: each entry of these two types is about one fee, and each fee has
its entries. Other postings neither hold nor release.
-/

namespace Superstore

open Relational Relational.Tx

/-- The reference of the entry that notes a held fee. -/
def holdReference (deliveryId : ℕ) : String := "DELIVERY-HOLD-" ++ toString deliveryId

/-- The reference of the entry that releases a fee. -/
def releaseReference (deliveryId : ℕ) : String := "DELIVERY-RELEASE-" ++ toString deliveryId

/-- A number can be read off its text. -/
theorem toString_injective : Function.Injective (toString : ℕ → String) := by
  intro m n h
  rw [Nat.toString_eq_repr, Nat.toString_eq_repr] at h
  have hdigits : Nat.toDigits 10 m = Nat.toDigits 10 n := by
    rw [← Nat.toList_repr, h, Nat.toList_repr]
  simpa using congrArg (Nat.ofDigitChars 10 · 0) hdigits

/-- Every fee is held under a reference of its own. -/
theorem holdReference_injective : Function.Injective holdReference := fun _ _ h =>
  toString_injective ((String.append_right_inj _).mp h)

/-- Every fee is released under a reference of its own. -/
theorem releaseReference_injective : Function.Injective releaseReference := fun _ _ h =>
  toString_injective ((String.append_right_inj _).mp h)

/-- An entry about a fee: of its amount, in the wallet of its rider. -/
def NotesFee (db : Database) (reference : ℕ → String) (t : WalletTransaction) (r : RiderEarning) : Prop :=
  t.reference = some (reference r.deliveryId) ∧ t.amount = r.amount ∧ ∃ p w,
    (db .riderProfile).find r.riderId = some p ∧ (db .wallet).find t.walletId = some w ∧ w.userId = p.userId

/-- Entries that hold or release are about a fee, and every fee has its entries. -/
structure FeesNoted (db : Database) : Prop where
  owned : walletLedger.Owned (db .wallet)
  holds : ∀ k t, (db .walletTransaction).find k = some t → t.type = .hold →
    ∃ j r, (db .riderEarning).find j = some r ∧ NotesFee db holdReference t r
  held : ∀ j r, (db .riderEarning).find j = some r → ∃ k t, (db .walletTransaction).find k = some t ∧
    t.type = .hold ∧ t.reference = some (holdReference r.deliveryId)
  releases : ∀ k t, (db .walletTransaction).find k = some t → t.type = .release →
    ∃ j r, (db .riderEarning).find j = some r ∧ r.status = "RELEASED" ∧ NotesFee db releaseReference t r
  released : ∀ j r, (db .riderEarning).find j = some r → r.status = "RELEASED" →
    ∃ k t, (db .walletTransaction).find k = some t ∧ t.type = .release ∧
      t.reference = some (releaseReference r.deliveryId)

/-- A fee stays with its rider, and is not taken back. -/
def RiderEarning.Stays (r r' : RiderEarning) : Prop :=
  r'.deliveryId = r.deliveryId ∧ r'.riderId = r.riderId ∧ r'.amount = r.amount ∧
    (r.status = "RELEASED" → r'.status = "RELEASED")

/-- Staying with a rider is reflexive and transitive. -/
instance : IsPreorder RiderEarning RiderEarning.Stays where
  refl _ := ⟨rfl, rfl, rfl, id⟩
  trans _ _ _ h h' := ⟨h'.1.trans h.1, h'.2.1.trans h.2.1, h'.2.2.1.trans h.2.2.1, h'.2.2.2 ∘ h.2.2.2⟩

/-- What entries and fees refer to stays. -/
structure Carries (db db' : Database) : Prop where
  profiles : (db .riderProfile).Evolves RiderProfile.Stays (db' .riderProfile)
  wallets : (db .wallet).Evolves (fun w w' => w'.userId = w.userId) (db' .wallet)
  entries : ∀ k t, (db .walletTransaction).find k = some t → (db' .walletTransaction).find k = some t
  earnings : (db .riderEarning).Evolves RiderEarning.Stays (db' .riderEarning)

/-- An entry stays about its fee. -/
theorem Carries.notes {db db' : Database} (hc : Carries db db') {reference : ℕ → String} {t : WalletTransaction}
    {r r' : RiderEarning} (h : NotesFee db reference t r) (hr : r.Stays r') : NotesFee db' reference t r' := by
  obtain ⟨href, hamount, p, w, hp, hw, hown⟩ := h
  obtain ⟨hdelivery, hrider, hfee, -⟩ := hr
  obtain ⟨w', hw', hown'⟩ := hc.wallets _ w hw
  obtain ⟨p', hp', huser⟩ := hc.profiles _ p hp
  exact ⟨hdelivery ▸ href, hamount.trans hfee.symm, p', w', hrider ▸ hp', hw', hown'.trans (hown.trans huser.symm)⟩

/-- Entries and fees that are added go together. -/
theorem FeesNoted.step {db db' : Database} (h : FeesNoted db) (hc : Carries db db')
    (howned : walletLedger.Owned (db' .wallet))
    (hentries : ∀ k t, (db' .walletTransaction).find k = some t → (db .walletTransaction).find k = some t ∨
      (t.type = .hold → ∃ j r, (db' .riderEarning).find j = some r ∧ NotesFee db' holdReference t r) ∧
      (t.type = .release → ∃ j r, (db' .riderEarning).find j = some r ∧ r.status = "RELEASED" ∧
        NotesFee db' releaseReference t r))
    (hearnings : ∀ j r', (db' .riderEarning).find j = some r' →
      (∃ r, (db .riderEarning).find j = some r ∧ r'.deliveryId = r.deliveryId) ∨
        ∃ k t, (db' .walletTransaction).find k = some t ∧ t.type = .hold ∧
          t.reference = some (holdReference r'.deliveryId))
    (hreleases : ∀ j r', (db' .riderEarning).find j = some r' → r'.status = "RELEASED" →
      (∃ r, (db .riderEarning).find j = some r ∧ r'.deliveryId = r.deliveryId ∧ r.status = "RELEASED") ∨
        ∃ k t, (db' .walletTransaction).find k = some t ∧ t.type = .release ∧
          t.reference = some (releaseReference r'.deliveryId)) : FeesNoted db' where
  owned := howned
  holds k t ht htype := by
    rcases hentries k t ht with hold | hnew
    · obtain ⟨j, r, hr, hnotes⟩ := h.holds k t hold htype
      obtain ⟨r', hr', hstays⟩ := hc.earnings j r hr
      exact ⟨j, r', hr', hc.notes hnotes hstays⟩
    · exact hnew.1 htype
  held j r' hr' := by
    rcases hearnings j r' hr' with ⟨r, hr, hdelivery⟩ | hnew
    · obtain ⟨k, t, ht, htype, href⟩ := h.held j r hr
      exact ⟨k, t, hc.entries k t ht, htype, hdelivery ▸ href⟩
    · exact hnew
  releases k t ht htype := by
    rcases hentries k t ht with hold | hnew
    · obtain ⟨j, r, hr, hstatus, hnotes⟩ := h.releases k t hold htype
      obtain ⟨r', hr', hstays⟩ := hc.earnings j r hr
      exact ⟨j, r', hr', hstays.2.2.2 hstatus, hc.notes hnotes hstays⟩
    · exact hnew.2 htype
  released j r' hr' hstatus := by
    rcases hreleases j r' hr' hstatus with ⟨r, hr, hdelivery, hbefore⟩ | hnew
    · obtain ⟨k, t, ht, htype, href⟩ := h.released j r hr hbefore
      exact ⟨k, t, hc.entries k t ht, htype, hdelivery ▸ href⟩
    · exact hnew

/-- A posting that neither holds nor releases a fee. -/
def Plain : WalletPosting := fun _ t => t.type ≠ .hold ∧ t.type ≠ .release

/-- A debit holds and releases nothing. -/
theorem Plain.of_debit {w : Wallet} {t : WalletTransaction} (h : t.type = .debit) : Plain w t :=
  ⟨by rw [h]; decide, by rw [h]; decide⟩

/-- A credit holds and releases nothing. -/
theorem Plain.of_credit {w : Wallet} {t : WalletTransaction} (h : t.type = .credit) : Plain w t :=
  ⟨by rw [h]; decide, by rw [h]; decide⟩

/-- Such postings leave the fees as they are. -/
theorem FeesNoted.posts {db db' : Database} (h : FeesNoted db) (hposts : WalletPosts Plain db db')
    (hearnings : db' .riderEarning = db .riderEarning)
    (hprofiles : (db .riderProfile).Evolves RiderProfile.Stays (db' .riderProfile)) :
    FeesNoted db' := by
  have hmoves := hposts h.owned
  refine h.step ⟨hprofiles, fun i w hw => hmoves.account hw, hmoves.entries.1, .of_eq hearnings⟩
    (hmoves.owned h.owned) (fun k t ht => ?_) (fun j r hr => .inl ⟨r, hearnings ▸ hr, rfl⟩)
    fun j r hr hstatus => .inl ⟨r, hearnings ▸ hr, rfl, hstatus⟩
  rcases hmoves.entries.2 k t ht with hold | ⟨w, hplain⟩
  · exact .inl hold
  · exact .inr ⟨fun htype => absurd htype hplain.1, fun htype => absurd htype hplain.2⟩

/-- A fee that is held together with its entry. -/
theorem FeesNoted.hold {db db' : Database} (h : FeesNoted db) {r : RiderEarning} {t : WalletTransaction}
    (hearnings : db' .riderEarning = (db .riderEarning).create r)
    (hentries : db' .walletTransaction = (db .walletTransaction).create t) (hwallets : db' .wallet = db .wallet)
    (hprofiles : db' .riderProfile = db .riderProfile) (hheld : r.status = "HELD") (htype : t.type = .hold)
    (hnotes : NotesFee db' holdReference t r) : FeesNoted db' := by
  have hfee : (db' .riderEarning).find (db .riderEarning).next = some r := by
    rw [hearnings]
    exact Table.find_create_self _ r
  have hentry : (db' .walletTransaction).find (db .walletTransaction).next = some t := by
    rw [hentries]
    exact Table.find_create_self _ t
  refine h.step ⟨.of_eq hprofiles, .of_eq hwallets, fun k t' ht' => ?_, ?_⟩ (hwallets ▸ h.owned)
    (fun k t' ht' => ?_)
    (fun j r' hr' => ?_) fun j r' hr' hstatus => ?_
  · rw [hentries]
    exact Table.find_create_of_find t ht'
  · rw [hearnings]
    exact .create _ r
  · rw [hentries] at ht'
    rcases Ledger.find_of_create ht' with ⟨-, rfl⟩ | hold
    · refine .inr ⟨fun _ => ⟨_, r, hfee, hnotes⟩, fun hrelease => ?_⟩
      rw [htype] at hrelease
      cases hrelease
    · exact .inl hold
  · rw [hearnings] at hr'
    rcases Ledger.find_of_create hr' with ⟨-, rfl⟩ | hold
    · exact .inr ⟨_, t, hentry, htype, hnotes.1⟩
    · exact .inl ⟨r', hold, rfl⟩
  · rw [hearnings] at hr'
    rcases Ledger.find_of_create hr' with ⟨-, rfl⟩ | hold
    · rw [hheld] at hstatus
      exact absurd hstatus (by decide)
    · exact .inl ⟨r', hold, rfl, hstatus⟩

/-- A fee that is released together with its entry, and with the balance of its rider. -/
theorem FeesNoted.release {db db' : Database} (h : FeesNoted db) {i : ℕ} {r : RiderEarning} {t : WalletTransaction}
    {f : RiderEarning → RiderEarning} {g : Wallet → Wallet} (hfind : (db .riderEarning).find i = some r)
    (hf : r.Stays (f r)) (hreleased : (f r).status = "RELEASED")
    (hearnings : db' .riderEarning = (db .riderEarning).update i f)
    (hentries : db' .walletTransaction = (db .walletTransaction).create t)
    (hwallets : db' .wallet = (db .wallet).update t.walletId g) (hg : ∀ w, (g w).userId = w.userId)
    (hprofiles : db' .riderProfile = db .riderProfile) (htype : t.type = .release)
    (hnotes : NotesFee db releaseReference t r) : FeesNoted db' := by
  have hwalletsStay : (db .wallet).Evolves (fun w w' => w'.userId = w.userId) (db' .wallet) := by
    have : Std.Refl fun w w' : Wallet => w'.userId = w.userId := ⟨fun _ => rfl⟩
    rw [hwallets]
    exact .update fun w _ => hg w
  have hearningsStay : (db .riderEarning).Evolves RiderEarning.Stays (db' .riderEarning) := by
    rw [hearnings]
    refine .update fun r' hr' => ?_
    obtain rfl := Option.some.inj (hfind.symm.trans hr')
    exact hf
  have hc : Carries db db' := by
    refine ⟨.of_eq hprofiles, hwalletsStay, fun k t' ht' => ?_, hearningsStay⟩
    rw [hentries]
    exact Table.find_create_of_find t ht'
  have howned : walletLedger.Owned (db' .wallet) := by
    have hback {i : ℕ} {w' : Wallet} (hw' : (db' .wallet).find i = some w') :
        ∃ w, (db .wallet).find i = some w ∧ w'.userId = w.userId := by
      rw [hwallets, Table.update, Table.find_updateMany] at hw'
      obtain ⟨w, hw, rfl⟩ := Option.map_eq_some_iff.mp hw'
      refine ⟨w, hw, ?_⟩
      split
      · exact hg w
      · rfl
    intro i a j b ha hb hsame
    obtain ⟨w, hw, hown⟩ := hback ha
    obtain ⟨v, hv, hown'⟩ := hback hb
    exact h.owned i w j v hw hv (hown.symm.trans (Eq.trans hsame hown'))
  have hfee : (db' .riderEarning).find i = some (f r) := by
    rw [hearnings, Table.find_update_self, hfind]
    rfl
  have hentry : (db' .walletTransaction).find (db .walletTransaction).next = some t := by
    rw [hentries]
    exact Table.find_create_self _ t
  have hrow {j : ℕ} {r' : RiderEarning} (hr' : (db' .riderEarning).find j = some r') :
      (j = i ∧ r' = f r) ∨ (db .riderEarning).find j = some r' := by
    rw [hearnings, Table.find_update] at hr'
    split at hr'
    · next heq =>
      rw [heq, hfind] at hr'
      exact .inl ⟨heq, (Option.some.inj hr').symm⟩
    · exact .inr hr'
  refine h.step hc howned (fun k t' ht' => ?_) (fun j r' hr' => ?_) fun j r' hr' hstatus => ?_
  · rw [hentries] at ht'
    rcases Ledger.find_of_create ht' with ⟨-, rfl⟩ | hold
    · refine .inr ⟨fun hhold => ?_, fun _ => ⟨i, f r, hfee, hreleased, hc.notes hnotes hf⟩⟩
      rw [htype] at hhold
      cases hhold
    · exact .inl hold
  · rcases hrow hr' with ⟨rfl, rfl⟩ | hold
    · exact .inl ⟨r, hfind, hf.1⟩
    · exact .inl ⟨r', hold, rfl⟩
  · rcases hrow hr' with ⟨-, rfl⟩ | hold
    · refine .inr ⟨_, t, hentry, htype, ?_⟩
      rw [hf.1]
      exact hnotes.1
    · exact .inl ⟨r', hold, rfl, hstatus⟩

namespace Settlements

/-- The fee that is held is noted in the wallet of its rider. -/
theorem holdRiderEarning_noted (deliveryId : ℕ) : Within (Keeps FeesNoted) (holdRiderEarning deliveryId) := by
  intro db
  refine wp_keeps fun hnoted => ?_
  rw [holdRiderEarning, wp_bind, wp_find]
  split
  · next orderId riderId hdelivery =>
    rw [wp_bind, wp_findOrThrow]
    intro o ho
    rw [funded, wp_bind, wp_query, wp_bind, wp_first, wp_bind, wp_first]
    split
    · next profileId profile hprofile =>
      obtain ⟨hp, huser⟩ := Table.find_of_first hprofile
      rw [wp_when]
      refine ⟨fun _ => ?_, fun _ => hnoted⟩
      rw [wp_bind]
      refine wp_mono (wp_and (openWallet_posts (P := Plain) riderId db)
        (Writes.firstOrCreate (List.mem_singleton_self TableName.wallet) _ _ db))
        fun wallet db₂ hstep => ?_
      obtain ⟨⟨hposts, hwallet, hown⟩, hsame⟩ := hstep
      have hnoted₂ : FeesNoted db₂ := hnoted.posts hposts (hsame _ (by decide)) (.of_eq (hsame _ (by decide)))
      have hp₂ : (db₂ .riderProfile).find profileId = some profile := by
        rw [hsame _ (by decide)]
        exact hp
      rw [wp_bind, wp_create, wp_bind, wp_createUnique]
      intro _
      rw [wp_pure]
      refine hnoted₂.hold (r := { riderId := profileId, deliveryId := deliveryId, amount := o.shippingFee })
        (t := { walletId := wallet.1, amount := o.shippingFee, type := .hold
                reference := some (holdReference deliveryId) }) rfl rfl rfl rfl rfl rfl
                  ⟨rfl, rfl, profile, wallet.2, ?_, ?_, ?_⟩
      · exact hp₂
      · exact hwallet
      · exact hown.trans (beq_iff_eq.mp huser).symm
    · exact (wp_pure _ _ _).mpr hnoted
  · exact (wp_pure _ _ _).mpr hnoted

/-- The fee that is released is noted in the wallet of its rider, and added to the balance. -/
theorem releaseRiderEarning_noted (now deliveryId : ℕ) :
    Within (Keeps FeesNoted) (releaseRiderEarning now deliveryId) := by
  intro db
  refine wp_keeps fun hnoted => ?_
  rw [releaseRiderEarning, wp_bind, wp_first]
  split
  · next earningId earning hfirst =>
    obtain ⟨hearning, hdelivery⟩ := Table.find_of_first hfirst
    rw [wp_when]
    refine ⟨fun hheld => ?_, fun _ => hnoted⟩
    have honly (f : RiderEarning → RiderEarning) : (db .riderEarning).updateMany
        (fun i r => i == earningId && r.status == "HELD") f = (db .riderEarning).update earningId f := by
      refine Table.updateMany_eq_update hearning (by simp [hheld]) (fun j r _ hj => ?_) f
      rw [Bool.and_eq_true, beq_iff_eq] at hj
      exact hj.1
    rw [wp_bind, wp_updateMany, wp_bind, wp_findOrThrow]
    intro profile hprofile
    rw [wp_bind, wp_first, wp_bind, wp_orThrow]
    rintro ⟨walletId, wallet⟩ hwallet
    obtain ⟨hwallet, hown⟩ := Table.find_of_first hwallet
    rw [wp_bind, wp_createUnique]
    intro _
    rw [wp_update]
    intro _ _
    refine hnoted.release (t := { walletId := walletId, amount := earning.amount, type := .release
                                  reference := some (releaseReference deliveryId) })
      (f := fun r => { r with status := "RELEASED", releasedAt := some now })
      (g := fun w => { w with balance := w.balance + earning.amount }) hearning
      ⟨rfl, rfl, rfl, fun _ => rfl⟩ rfl
      (honly fun r => { r with status := "RELEASED", releasedAt := some now }) rfl rfl
        (fun _ => rfl) rfl rfl ⟨?_, rfl, profile, wallet, ?_, ?_, ?_⟩
    · rw [beq_iff_eq.mp hdelivery]
    · exact hprofile
    · exact hwallet
    · exact beq_iff_eq.mp hown
  · exact (wp_pure _ _ _).mpr hnoted

/-- The settlement of an order notes the fee of its rider, if it holds one. -/
theorem settleOrder_noted (e : Env) (orderId : ℕ) : Within (Keeps FeesNoted) (settleOrder e orderId) :=
  settleOrder_within e (fun hm => .of_writes hm fun _ _ hsame h =>
      h.posts (.of_eq (hsame _ (by decide)) (hsame _ (by decide))) (hsame _ (by decide))
        (.of_eq (hsame _ (by decide))))
    fun i _ db _ => holdRiderEarning_noted i db

end Settlements

/-- Movements of money note the fees that they hold and release. -/
theorem accounting_feesNoted : Accounting (Keeps FeesNoted) where
  frame _ _ hsame h :=
    h.posts (.of_eq (hsame _ (by decide)) (hsame _ (by decide))) (hsame _ (by decide))
      (.of_eq (hsame _ (by decide)))

/-- Settlements note the fees that they hold. -/
theorem settling_feesNoted : Settling (Keeps FeesNoted) where
  toAccounting := accounting_feesNoted
  settleOrder := Settlements.settleOrder_noted

end Superstore
