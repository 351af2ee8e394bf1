import Superstore.Properties.DeliveryStatus
import Superstore.Relational.Keys
import Superstore.Relational.Ledger
import Superstore.Requests.Bundles

/-!
# One rider for a delivery

Riders claim deliveries at the same time. A claim looks at the delivery and at its order before it writes them,
and what it has seen may have changed since; but its statements look again at the delivery that they assign. So a
delivery is assigned once, to the one rider whose claim or offer was accepted.
-/

namespace Superstore

open Interleaving Relational Relational.Tx
open Payments (setCurrentStatus)

/-- The delivery and the rider that an offer is for; there is one offer for each two. -/
def DeliveryOffer.key (o : DeliveryOffer) : Option (ℕ × ℕ) := some (o.deliveryId, o.riderId)

/-- An offer stays one of its delivery for its rider. -/
def DeliveryOffer.SameKey (o o' : DeliveryOffer) : Prop := o'.deliveryId = o.deliveryId ∧ o'.riderId = o.riderId

/-- Being an offer of the same delivery to the same rider is reflexive and transitive. -/
instance : IsPreorder DeliveryOffer DeliveryOffer.SameKey where
  refl _ := ⟨rfl, rfl⟩
  trans _ _ _ h h' := ⟨h'.1.trans h.1, h'.2.trans h.2⟩

/-- A delivery that keeps the rider it has, or has none. -/
def Delivery.SameRider (d d' : Delivery) : Prop := d'.riderId = d.riderId

/-- Having the same rider is reflexive and transitive. -/
instance : IsPreorder Delivery Delivery.SameRider where
  refl _ := rfl
  trans _ _ _ h h' := Eq.trans h' h

/-- A delivery that keeps a rider once it has one. -/
def Delivery.KeepsRider (d d' : Delivery) : Prop := ∀ r, d.riderId = some r → d'.riderId = some r

/-- Keeping a rider is reflexive and transitive. -/
instance : IsPreorder Delivery Delivery.KeepsRider where
  refl _ _ := id
  trans _ _ _ h h' r := h' r ∘ h r

/-- A delivery has a rider exactly if an offer of it has been accepted, by this rider, and then no other offer of
it is accepted or waits any more. -/
structure OneRider (db : Database) : Prop where
  offers : (db .deliveryOffer).Distinct DeliveryOffer.key
  accepted : ∀ k o, (db .deliveryOffer).find k = some o → o.status = "ACCEPTED" →
    ∃ d, (db .delivery).find o.deliveryId = some d ∧ d.riderId = some o.riderId
  assigned : ∀ i d r, (db .delivery).find i = some d → d.riderId = some r →
    ∃ k o, (db .deliveryOffer).find k = some o ∧ o.deliveryId = i ∧ o.riderId = r ∧ o.status = "ACCEPTED"
  closed : ∀ k o d r, (db .deliveryOffer).find k = some o → (db .delivery).find o.deliveryId = some d →
    d.riderId = some r → o.status ≠ "PENDING"

/-- New deliveries have no rider, and the others the ones that they had. -/
def RidersKept (db db' : Database) : Prop :=
  (db .delivery).Grows (fun d => d.riderId = none) Delivery.SameRider (db' .delivery)

/-- Keeping all riders is reflexive and transitive. -/
instance : IsPreorder Database RidersKept where
  refl _ := .refl _
  trans _ _ _ := .trans

/-- No rider is assigned, and no offer is touched. -/
structure Unassigning (db db' : Database) : Prop where
  deliveries : RidersKept db db'
  offers : db' .deliveryOffer = db .deliveryOffer

variable {db db' : Database}

/-- Where no rider is assigned, each delivery has the rider that it had. -/
theorem Unassigning.rider (h : Unassigning db db') {i r : ℕ} {d : Delivery} (hd : (db' .delivery).find i = some d)
    (hr : d.riderId = some r) : ∃ d₀, (db .delivery).find i = some d₀ ∧ d₀.riderId = some r := by
  cases hd₀ : (db .delivery).find i with
  | none =>
    obtain ⟨d₀, hnone, hsame⟩ := h.deliveries.entered i d hd hd₀
    cases hr.symm.trans (Eq.trans hsame hnone)
  | some d₀ =>
    obtain ⟨d', hd', hsame⟩ := h.deliveries.kept i d₀ hd₀
    obtain rfl := Option.some.inj (hd.symm.trans hd')
    exact ⟨d₀, rfl, (Eq.symm hsame).trans hr⟩

/-- Where no rider is assigned, each delivery has one rider at most as before. -/
theorem OneRider.unassigning (h : OneRider db) (hu : Unassigning db db') : OneRider db' where
  offers := by
    rw [hu.offers]
    exact h.offers
  accepted k o ho hstatus := by
    rw [hu.offers] at ho
    obtain ⟨d, hd, hr⟩ := h.accepted k o ho hstatus
    obtain ⟨d', hd', hsame⟩ := hu.deliveries.kept _ d hd
    exact ⟨d', hd', Eq.trans hsame hr⟩
  assigned i d r hd hr := by
    rw [hu.offers]
    obtain ⟨d₀, hd₀, hr₀⟩ := hu.rider hd hr
    exact h.assigned i d₀ r hd₀ hr₀
  closed k o d r ho hd hr := by
    rw [hu.offers] at ho
    obtain ⟨d₀, hd₀, hr₀⟩ := hu.rider hd hr
    exact h.closed k o d₀ r ho hd₀ hr₀

/-! ## Claims -/

namespace Orders

/-- What a claim writes, after it has seen its delivery and the order in some state. -/
def claimWrites (e : Env) (riderId deliveryId : ℕ) (offerId : Option ℕ) (current : Delivery) (order : Order) :
    Tx Delivery := do
  let assigned ← updateMany .delivery
    (fun i d => i == deliveryId && d.riderId == none &&
      (d.status == .pending || d.status == .offered))
    fun d => { d with riderId := some riderId, status := .assigned, assignedAt := some e.now }
  require (assigned = 1) (.conflict "Delivery has already been claimed.")
  let updated ← updateMany .order
    (fun i o => i == current.orderId && o.currentStatus == .readyForPickup)
    (setCurrentStatus .riderAssigned)
  require (updated = 1) (.conflict "Order is no longer available for rider assignment.")
  acceptOffer deliveryId riderId offerId
  let _ ← updateMany .deliveryOffer
    (fun _ o => o.deliveryId == deliveryId && o.riderId != riderId && o.status == "PENDING")
    fun o => { o with status := "EXPIRED" }
  history current.orderId order.currentStatus .riderAssigned (some riderId)
    (some "Rider claimed the available delivery job.")
  Settlements.holdRiderEarning deliveryId
  findOrThrow .delivery deliveryId

/-- A claim looks at the delivery and its order, and then writes. -/
theorem claimDelivery_eq (e : Env) (riderId deliveryId : ℕ) (offerId : Option ℕ) :
    claimDelivery e riderId deliveryId offerId = (do
      ofExcept e.riderEligibility
      let current ← find .delivery deliveryId
      let current ← orThrow current (.notFound "Delivery job was not found.")
      require (current.riderId = none ∧ (current.status = .pending ∨ current.status = .offered))
        (.conflict "Delivery has already been claimed.")
      let order ← findOrThrow .order current.orderId
      require (order.currentStatus = .readyForPickup) (.badRequest "The order is not ready for rider pickup.")
      ofExcept e.riderPlacement
      claimWrites e riderId deliveryId offerId current order) := rfl

/-- The offer that a claim rests on is the one of the rider for the delivery. -/
def OffersTo (deliveryId riderId : ℕ) (offerId : Option ℕ) (db : Database) : Prop :=
  ∀ k, offerId = some k → ∃ o, (db .deliveryOffer).find k = some o ∧ o.deliveryId = deliveryId ∧ o.riderId = riderId

/-- An offer of the rider for the delivery is accepted, and the others stay as they are. -/
structure Accepts (deliveryId riderId : ℕ) (t t' : Table DeliveryOffer) : Prop where
  distinct : t.Distinct DeliveryOffer.key → t'.Distinct DeliveryOffer.key
  own : ∃ k o, t'.find k = some o ∧ o.deliveryId = deliveryId ∧ o.riderId = riderId
  status : ∀ k o, t'.find k = some o → o.deliveryId = deliveryId → o.riderId = riderId →
    t.Distinct DeliveryOffer.key → o.status = "ACCEPTED"
  others : ∀ k o, ¬(o.deliveryId = deliveryId ∧ o.riderId = riderId) → (t'.find k = some o ↔ t.find k = some o)
  kept : t.Evolves DeliveryOffer.SameKey t'

/-- Accepting an offer that is there. -/
theorem accepts_update {deliveryId riderId k : ℕ} {t : Table DeliveryOffer} {o : DeliveryOffer}
    (ho : t.find k = some o) (hdelivery : o.deliveryId = deliveryId) (hrider : o.riderId = riderId) :
    Accepts deliveryId riderId t (t.update k fun o => { o with status := "ACCEPTED" }) where
  distinct h := by
    have hgrows : t.Grows (fun _ => False) DeliveryOffer.SameKey
        (t.update k fun o => { o with status := "ACCEPTED" }) := .update fun _ _ => ⟨rfl, rfl⟩
    exact h.grows hgrows fun a b hsame c hc => by rw [← hc, DeliveryOffer.key, DeliveryOffer.key, hsame.1, hsame.2]
  own := by
    refine ⟨k, { o with status := "ACCEPTED" }, ?_, hdelivery, hrider⟩
    rw [Table.find_update_self, ho, Option.map_some]
  status l b hb hbdelivery hbrider h := by
    rw [Table.find_update] at hb
    split at hb
    · obtain ⟨b₀, -, rfl⟩ := Option.map_eq_some_iff.mp hb
      rfl
    · next hl =>
      have hkey : DeliveryOffer.key b = some (deliveryId, riderId) := by rw [DeliveryOffer.key, hbdelivery, hbrider]
      have hown : DeliveryOffer.key o = some (deliveryId, riderId) := by rw [DeliveryOffer.key, hdelivery, hrider]
      exact absurd (h l k b o _ hb ho hkey hown) hl
  others l b hother := by
    rw [Table.find_update]
    split
    · next hl =>
      rw [hl, ho]
      refine ⟨fun hb => absurd ?_ hother, fun hb => absurd ?_ hother⟩
      · obtain rfl := Option.some.inj hb
        exact ⟨hdelivery, hrider⟩
      · obtain rfl := Option.some.inj hb
        exact ⟨hdelivery, hrider⟩
    · rfl
  kept := .update fun _ _ => ⟨rfl, rfl⟩

/-- An offer that is entered as accepted need not be accepted again. -/
theorem accept_created (t : Table DeliveryOffer) (deliveryId riderId : ℕ) :
    (t.create { deliveryId := deliveryId, riderId := riderId, status := "ACCEPTED" }).update t.next
      (fun o => { o with status := "ACCEPTED" }) =
        t.create { deliveryId := deliveryId, riderId := riderId, status := "ACCEPTED" } := by
  have hfind := Table.find_create_self t { deliveryId := deliveryId, riderId := riderId, status := "ACCEPTED" }
  have hid := Table.update_congr (f := fun o => { o with status := "ACCEPTED" }) (g := id) hfind rfl
  exact hid.trans (Table.update_id _ _)

/-- Entering an offer that is accepted at once. -/
theorem accepts_create {deliveryId riderId : ℕ} {t : Table DeliveryOffer}
    (hfree : t.first (fun _ o => o.deliveryId == deliveryId && o.riderId == riderId) = none) :
    Accepts deliveryId riderId t
    (t.create { deliveryId := deliveryId, riderId := riderId, status := "ACCEPTED" }) where
  distinct h := by
    refine h.create fun l b c hb hc hbc => ?_
    have hpair : (b.deliveryId, b.riderId) = (deliveryId, riderId) := Option.some.inj (hbc.trans hc.symm)
    have hother := Table.first_eq_none.mp hfree l b hb
    rw [(Prod.mk.inj hpair).1, (Prod.mk.inj hpair).2, beq_self_eq_true, beq_self_eq_true] at hother
    cases hother
  own := ⟨t.next, _, Table.find_create_self _ _, rfl, rfl⟩
  status l b hb hbdelivery hbrider _ := by
    rcases Ledger.find_of_create hb with ⟨-, rfl⟩ | hold
    · rfl
    · have hother := Table.first_eq_none.mp hfree l b hold
      rw [hbdelivery, hbrider, beq_self_eq_true, beq_self_eq_true] at hother
      cases hother
  others l b hother := by
    refine ⟨fun hb => ?_, fun hb => Table.find_create_of_find _ hb⟩
    rcases Ledger.find_of_create hb with ⟨-, rfl⟩ | hold
    · exact absurd ⟨rfl, rfl⟩ hother
    · exact hold
  kept := .create _ _

/-- What a claim has written: the delivery had no rider, and now has the one that claims it; his offer is accepted,
and those of others that waited have expired. -/
structure Claims (e : Env) (deliveryId riderId : ℕ) (db db' : Database) : Prop where
  free : ∃ d, (db .delivery).find deliveryId = some d ∧ d.riderId = none
  assigned : db' .delivery = (db .delivery).update deliveryId fun d =>
    { d with riderId := some riderId, status := .assigned, assignedAt := some e.now }
  offers : ∃ t, Accepts deliveryId riderId (db .deliveryOffer) t ∧ db' .deliveryOffer = t.updateMany
    (fun _ o => o.deliveryId == deliveryId && o.riderId != riderId && o.status == "PENDING")
    fun o => { o with status := "EXPIRED" }

/-- The offer that is accepted becomes the one of the rider. -/
theorem acceptOffer_accepts {deliveryId riderId : ℕ} {offerId : Option ℕ}
    (h : OffersTo deliveryId riderId offerId db) :
    wp db (acceptOffer deliveryId riderId offerId) fun _ db' =>
      Accepts deliveryId riderId (db .deliveryOffer) (db' .deliveryOffer) := by
  cases offerId with
  | some k =>
    obtain ⟨o, ho, hdelivery, hrider⟩ := h k rfl
    refine (wp_update _ _ _ _ _).mpr fun _ _ => ?_
    rw [Database.set_self]
    exact accepts_update ho hdelivery hrider
  | none =>
    rw [acceptOffer, wp_bind, wp_firstOrCreate]
    refine ⟨fun offer hfirst => ?_, fun hfree => ?_⟩
    · obtain ⟨ho, hpair⟩ := Table.find_of_first hfirst
      obtain ⟨hdelivery, hrider⟩ := Bool.and_eq_true_iff.mp hpair
      refine (wp_update _ _ _ _ _).mpr fun _ _ => ?_
      rw [Database.set_self]
      exact accepts_update ho (beq_iff_eq.mp hdelivery) (beq_iff_eq.mp hrider)
    · refine (wp_update _ _ _ _ _).mpr fun _ _ => ?_
      rw [Database.set_self, Database.set_self, accept_created]
      exact accepts_create hfree

/-- What a claim writes does not depend on what it has seen before: it assigns a delivery that has no rider then. -/
theorem claimWrites_claims (e : Env) {riderId deliveryId : ℕ} {offerId : Option ℕ} (current : Delivery)
    (order : Order) (h : OffersTo deliveryId riderId offerId db) :
    wp db (claimWrites e riderId deliveryId offerId current order) fun _ db' =>
      Claims e deliveryId riderId db db' := by
  rw [claimWrites, wp_bind, wp_updateMany, wp_bind, wp_require]
  intro hone
  obtain ⟨d, hd, hfree⟩ : ∃ d, (db .delivery).find deliveryId = some d ∧
      (d.riderId = none ∧ (d.status = .pending ∨ d.status = .offered)) := by
    obtain ⟨row, hrow⟩ := List.length_eq_one_iff.mp hone
    obtain ⟨hrow, hp⟩ := Table.mem_many.mp (hrow ▸ List.mem_singleton_self row)
    simp only [Bool.and_eq_true, Bool.or_eq_true, beq_iff_eq] at hp
    exact ⟨row.2, hp.1.1 ▸ hrow, hp.1.2, hp.2⟩
  have hassigned (f : Delivery → Delivery) : (db .delivery).updateMany
      (fun i d => i == deliveryId && d.riderId == none && (d.status == .pending || d.status == .offered)) f =
        (db .delivery).update deliveryId f := by
    refine Table.updateMany_eq_update hd ?_ (fun j d _ hj => ?_) f
    · simpa [hfree.1] using hfree.2
    · rw [Bool.and_eq_true, Bool.and_eq_true, beq_iff_eq] at hj
      exact hj.1.1
  rw [wp_bind, wp_updateMany, wp_bind, wp_require]
  intro _
  rw [hassigned, wp_bind]
  have hoffers : OffersTo deliveryId riderId offerId ((db.set .delivery ((db .delivery).update deliveryId fun d =>
      { d with riderId := some riderId, status := .assigned, assignedAt := some e.now })).set .order
        (((db.set .delivery ((db .delivery).update deliveryId fun d =>
          { d with riderId := some riderId, status := .assigned, assignedAt := some e.now })) .order).updateMany
            (fun i o => i == current.orderId && o.currentStatus == .readyForPickup)
            (setCurrentStatus .riderAssigned))) := h
  refine wp_mono (wp_and (acceptOffer_accepts hoffers) (acceptOffer_writes deliveryId riderId offerId _))
    fun _ db₁ h₁ => ?_
  obtain ⟨haccepts, hsame⟩ := h₁
  rw [wp_bind, wp_updateMany, wp_bind]
  refine wp_mono (history_writes _ _ _ _ _ _) fun _ db₂ h₂ => ?_
  rw [wp_bind]
  refine wp_mono (Settlements.holdRiderEarning_writes deliveryId db₂) fun _ db₃ h₃ => ?_
  refine (wp_findOrThrow _ _ _ _).mpr fun _ _ => ⟨⟨d, hd, hfree.1⟩, ?_, db₁ .deliveryOffer, haccepts, ?_⟩
  · rw [h₃ _ (by decide), h₂ _ (by decide), Database.set_of_ne _ _ (by decide), hsame _ (by decide)]
    rfl
  · rw [h₃ _ (by decide), h₂ _ (by decide), Database.set_self]

/-- A claim leaves a delivery with one rider. -/
theorem Claims.oneRider {e : Env} {deliveryId riderId : ℕ} (hc : Claims e deliveryId riderId db db')
    (h : OneRider db) :
    OneRider db' := by
  obtain ⟨d₀, hd₀, hfree⟩ := hc.free
  obtain ⟨t, haccepts, hoffers⟩ := hc.offers
  have hrider (i : ℕ) (d : Delivery) (hd : (db' .delivery).find i = some d) :
      (i = deliveryId ∧ d.riderId = some riderId) ∨ (i ≠ deliveryId ∧ (db .delivery).find i = some d) := by
    rw [hc.assigned, Table.find_update] at hd
    split at hd
    · next hi =>
      obtain ⟨d₁, -, rfl⟩ := Option.map_eq_some_iff.mp hd
      exact .inl ⟨hi, rfl⟩
    · next hi => exact .inr ⟨hi, hd⟩
  have hoffer (k : ℕ) (o : DeliveryOffer) (ho : (db' .deliveryOffer).find k = some o)
      (hopen : o.status ≠ "EXPIRED") :
      t.find k = some o ∧ (o.deliveryId = deliveryId → o.riderId ≠ riderId → o.status ≠ "PENDING") := by
    rw [hoffers, Table.find_updateMany] at ho
    obtain ⟨o₀, ho₀, rfl⟩ := Option.map_eq_some_iff.mp ho
    split at hopen
    · exact absurd rfl hopen
    · next hp =>
      rw [if_neg hp]
      refine ⟨ho₀, fun hdelivery hother hpending => hp ?_⟩
      simp [hdelivery, hother, hpending]
  have hback (k : ℕ) (o : DeliveryOffer) (ho : t.find k = some o) (hother : o.deliveryId ≠ deliveryId) :
      (db .deliveryOffer).find k = some o := (haccepts.others k o fun hboth => hother hboth.1).mp ho
  have hkept (k : ℕ) (o : DeliveryOffer) (ho : t.find k = some o)
      (hstays : o.deliveryId ≠ deliveryId ∨ o.riderId = riderId) : (db' .deliveryOffer).find k = some o := by
    rw [hoffers, Table.find_updateMany, ho, Option.map_some, if_neg]
    rcases hstays with hother | hown
    · simp [hother]
    · simp [hown]
  constructor
  · have hgrows : t.Grows (fun _ => False) DeliveryOffer.SameKey (db' .deliveryOffer) := by
      rw [hoffers]
      exact .updateMany fun _ _ _ _ => ⟨rfl, rfl⟩
    exact (haccepts.distinct h.offers).grows hgrows fun a b hsame c hc => by
      rw [← hc, DeliveryOffer.key, DeliveryOffer.key, hsame.1, hsame.2]
  · intro k o ho hstatus
    obtain ⟨ho, -⟩ := hoffer k o ho (by rw [hstatus]; decide)
    by_cases hboth : o.deliveryId = deliveryId ∧ o.riderId = riderId
    · rw [hboth.1, hboth.2, hc.assigned, Table.find_update_self, hd₀]
      exact ⟨_, rfl, rfl⟩
    · obtain ⟨d, hd, hr⟩ := h.accepted k o ((haccepts.others k o hboth).mp ho) hstatus
      refine ⟨d, ?_, hr⟩
      rw [hc.assigned, Table.find_update_of_ne _ _ ?_]
      · exact hd
      · intro heq
        rw [heq, hd₀] at hd
        rw [← Option.some.inj hd, hfree] at hr
        cases hr
  · intro i d r hd hr
    rcases hrider i d hd with ⟨rfl, hr'⟩ | ⟨hother, hd'⟩
    · obtain rfl := Option.some.inj (hr'.symm.trans hr)
      obtain ⟨k, o, ho, hdelivery, hown⟩ := haccepts.own
      exact ⟨k, o, hkept k o ho (.inr hown), hdelivery, hown, haccepts.status k o ho hdelivery hown h.offers⟩
    · obtain ⟨k, o, ho, hdelivery, hown, hstatus⟩ := h.assigned i d r hd' hr
      have hne : o.deliveryId ≠ deliveryId := hdelivery ▸ hother
      have ho' : t.find k = some o := (haccepts.others k o fun hboth => hne hboth.1).mpr ho
      exact ⟨k, o, hkept k o ho' (.inl hne), hdelivery, hown, hstatus⟩
  · intro k o d r ho hd hr hpending
    obtain ⟨ho, hnot⟩ := hoffer k o ho (by rw [hpending]; decide)
    rcases hrider _ d hd with ⟨hdelivery, -⟩ | ⟨hother, hd'⟩
    · by_cases hown : o.riderId = riderId
      · rw [haccepts.status k o ho hdelivery hown h.offers] at hpending
        revert hpending
        decide
      · exact hnot hdelivery hown hpending
    · exact h.closed k o d r (hback k o ho hother) hd' hr hpending

/-- A claim changes the rider of no delivery that has one. -/
theorem Claims.keeps {e : Env} {deliveryId riderId : ℕ} (hc : Claims e deliveryId riderId db db') :
    (db .delivery).Evolves Delivery.KeepsRider (db' .delivery) ∧
      (db .deliveryOffer).Evolves DeliveryOffer.SameKey (db' .deliveryOffer) := by
  obtain ⟨d₀, hd₀, hfree⟩ := hc.free
  obtain ⟨t, haccepts, hoffers⟩ := hc.offers
  rw [hc.assigned, hoffers]
  refine ⟨.update fun d hd r hr => ?_, haccepts.kept.trans (.updateMany fun _ _ _ _ => ⟨rfl, rfl⟩)⟩
  obtain rfl := Option.some.inj (hd₀.symm.trans hd)
  rw [hfree] at hr
  cases hr

end Orders

/-! ## Everything else -/

/-- A transaction that assigns no rider. -/
abbrev Unassigns {α : Type} (m : Tx α) : Prop := Within RidersKept m

/-- A transaction that writes no deliveries assigns nobody. -/
theorem unassigns_of_writes {α : Type} {ns : List TableName} {m : Tx α} (h : Writes ns m) (hn : .delivery ∉ ns) :
    Unassigns m := .of_writes h fun _ _ hsame => .of_eq (hsame _ hn)

/-- Deliveries whose status is written keep their riders. -/
theorem unassigns_updateMany (p : ℕ → Delivery → Bool) {f : Delivery → Delivery}
    (hf : ∀ d, Delivery.SameRider d (f d)) : Unassigns (updateMany .delivery p f) := fun db => by
  refine (wp_updateMany _ _ _ _ _).mpr ?_
  rw [RidersKept, Database.set_self]
  exact .updateMany fun _ d _ _ => hf d

/-- A change of a delivery that keeps its rider assigns nobody. -/
theorem unassigns_update (i : ℕ) {f : Delivery → Delivery} (hf : ∀ d, Delivery.SameRider d (f d)) :
    Unassigns (update .delivery i f) := fun db => by
  refine (wp_update _ _ _ _ _).mpr fun _ _ => ?_
  rw [RidersKept, Database.set_self]
  exact .update fun d _ => hf d

namespace Payments

/-- Calling off a delivery assigns nobody. -/
theorem callOff_unassigns (now orderId : ℕ) (order : Order) (h : OrderStatusHistory) :
    Unassigns (callOff now orderId order h) := by
  refine .bind (.forM fun item _ => unassigns_of_writes (restock_writes item) (by decide)) fun _ => ?_
  refine .bind (unassigns_of_writes (.update (List.mem_singleton_self TableName.order) _ _) (by decide)) fun _ => ?_
  refine .bind (unassigns_updateMany _ fun _ => rfl) fun _ => ?_
  refine .bind (unassigns_of_writes (.updateMany (List.mem_singleton_self TableName.pickup) _ _) (by decide))
    fun _ => ?_
  refine .bind (unassigns_of_writes
    (.updateMany (List.mem_singleton_self TableName.orderQrCredential) _ _) (by decide))
    fun _ => ?_
  exact .bind (unassigns_of_writes (.create (List.mem_singleton_self TableName.orderStatusHistory) _) (by decide))
    fun _ => .pure _

end Payments

namespace Checkout

/-- The delivery of a new order has no rider. -/
theorem placeOrder_unassigns (e : Env) (userId : ℕ) (q : Quote) (order : QuoteOrder × ℕ) :
    Unassigns (placeOrder e userId q order) := by
  refine .bind (.forM fun item _ => unassigns_of_writes (reserve_writes item) (by decide)) fun _ => ?_
  refine .bind (unassigns_of_writes (.createUnique (List.mem_singleton_self TableName.order) _ _) (by decide))
    fun id => ?_
  refine .bind (unassigns_of_writes (.create (List.mem_singleton_self TableName.orderStatusHistory) _) (by decide))
    fun _ => ?_
  split
  · exact .bind (unassigns_of_writes (.create (List.mem_singleton_self TableName.pickup) _) (by decide))
      fun _ => .pure _
  · refine .bind (fun db => ?_) fun _ => .pure _
    refine (wp_create _ _ _ _).mpr ?_
    rw [RidersKept, Database.set_self]
    exact .create _ rfl

end Checkout

/-- The operations on the orders of a checkout assign no rider. -/
theorem bundles_ridersKept (e : Env) : Bundles e [.delivery] RidersKept where
  apart := by decide
  frame _ _ hsame := .of_eq (hsame _ (by decide))
  placeOrder := Checkout.placeOrder_unassigns e
  confirmOrder userId a := unassigns_of_writes (Payments.confirmOrder_writes e userId a) (by decide)
  releaseOrder _ := .bind (.of_reads (.findOrThrow _ _)) fun _ => .bind (.of_reads (.require _ _)) fun _ =>
    Payments.callOff_unassigns _ _ _ _

namespace Orders

/-- Cancelling an order assigns nobody. -/
theorem cancel_unassigns (e : Env) (userId id : ℕ) (reason : String) : Unassigns (cancel e userId id reason) := by
  refine .bind (.of_reads (.find _ _)) fun _ => .bind (.of_reads (.orThrow _ _)) fun order => ?_
  refine .bind (.of_reads (.require _ _)) fun _ => .bind (Payments.callOff_unassigns _ _ _ _) fun _ => ?_
  refine .bind (.of_reads (.query _)) fun _ => .bind (.of_reads (.orThrow _ _)) fun _ => ?_
  refine .bind (.of_reads (.query _)) fun _ => ?_
  refine .bind (.when (unassigns_of_writes (Payments.creditWallet_writes _ _ _) (by decide))) fun _ => ?_
  refine .bind (unassigns_of_writes (noteRefund_writes _ _ _ _ _ _ _ _ _) (by decide)) fun _ => ?_
  refine .bind (.when (unassigns_of_writes (syncInTransaction_writes _) (by decide))) fun _ => ?_
  refine .bind (unassigns_of_writes (reverseSettlement_writes _ _) (by decide)) fun _ => ?_
  exact .bind (unassigns_of_writes (.updateMany (List.mem_singleton_self TableName.cashbackReward) _ _) (by decide))
    fun _ => .pure _

/-- A change of the delivery of an order that keeps its rider assigns nobody. -/
theorem updateDeliveryOf_unassigns (orderId : ℕ) {f : Delivery → Delivery} (hf : ∀ d, Delivery.SameRider d (f d)) :
    Unassigns (updateDeliveryOf orderId f) :=
  .bind (.of_reads (.first _ _)) fun _ => .bind (.of_reads (.orThrow _ _)) fun _ => unassigns_update _ hf

/-- Confirming a pickup assigns nobody. -/
theorem writePickup_unassigns (e : Env) (id : ℕ) (fromStatus : OrderStatus) (riderId credentialId : ℕ) :
    Unassigns (writePickup e id fromStatus riderId credentialId) := by
  refine .bind (unassigns_of_writes (consumeCredential_writes e _ _) (by decide)) fun _ => ?_
  refine .bind (unassigns_of_writes (.update (List.mem_singleton_self TableName.order) _ _) (by decide)) fun _ => ?_
  refine .bind (updateDeliveryOf_unassigns _ fun _ => rfl) fun _ => ?_
  exact unassigns_of_writes (history_writes _ _ _ _ _) (by decide)

/-- Confirming a delivery assigns nobody. -/
theorem writeDelivery_unassigns (e : Env) (id : ℕ) (order : Order) (riderId credentialId deliveryId : ℕ) :
    Unassigns (writeDelivery e id order riderId credentialId deliveryId) := by
  refine .bind (unassigns_of_writes (consumeCredential_writes e _ _) (by decide)) fun _ => ?_
  refine .bind (unassigns_of_writes (.update (List.mem_singleton_self TableName.order) _ _) (by decide)) fun _ => ?_
  refine .bind (updateDeliveryOf_unassigns _ fun _ => rfl) fun _ => ?_
  refine .bind (unassigns_of_writes (Settlements.releaseRiderEarning_writes _ _) (by decide)) fun _ => ?_
  refine .bind (unassigns_of_writes (history_writes _ _ _ _ _) (by decide)) fun _ => ?_
  exact unassigns_of_writes (completeOrder_writes _ _ _ _ _) (by decide)

/-- What a rider reports assigns nobody. -/
theorem writeProgress_unassigns (e : Env) (deliveryId : ℕ) (status : DeliveryStatus) (orderId : ℕ)
    (orderStatus : OrderStatus) (riderId : ℕ) (location note : Option String) :
    Unassigns (writeProgress e deliveryId status orderId orderStatus riderId location note) := by
  refine .bind (unassigns_update _ fun _ => rfl) fun _ => ?_
  refine .bind (unassigns_of_writes
    (.create (List.mem_singleton_self TableName.deliveryStatusUpdate) _) (by decide))
    fun _ => ?_
  split
  · refine .when (.bind ?_ fun _ => ?_)
    · exact unassigns_of_writes (.update (List.mem_singleton_self TableName.order) _ _) (by decide)
    · exact unassigns_of_writes (history_writes _ _ _ _ _) (by decide)
  · exact .pure _

end Orders

/-- An operation that touches no offer assigns no rider. -/
theorem exec_unassigning {α : Type} (op : Op α) (hop : .deliveryOffer ∉ op.writes) (e : Env) (w : World) :
    Unassigning w.db (op.exec e w).2.db := by
  refine ⟨?_, exec_frame op e w _ hop⟩
  by_cases hwrites : TableName.delivery ∈ op.writes
  swap
  · exact .of_eq (exec_frame op e w _ hwrites)
  by_cases hbundles : op.bundles
  · exact (bundles_ridersKept e).exec hbundles w
  have hrun {α : Type} {op : Op α} {m : Env → Tx α} (hop : op.transaction = some m) (hm : Unassigns (m e)) :
      RidersKept w.db (op.exec e w).2.db :=
    exec_transaction hop (Φ := fun w' => RidersKept w.db w'.db) (.refl _) (hm w.db)
  cases op <;> dsimp only [Op.writes] at hwrites hop <;>
    first
    | exact absurd hwrites (by decide)
    | exact absurd (by decide) hop
    | exact absurd rfl hbundles
    | clear hwrites hop hbundles
  case cancelOrder => exact hrun rfl (Orders.cancel_unassigns e _ _ _)
  case writePickup => exact hrun rfl (Orders.writePickup_unassigns e _ _ _ _)
  case writeDelivery => exact hrun rfl (Orders.writeDelivery_unassigns e _ _ _ _ _)
  case writeProgress => exact hrun rfl (Orders.writeProgress_unassigns e _ _ _ _ _ _ _)

/-! ## Runs -/

/-- Offers are made by other code, for deliveries that have no rider yet; each rider gets one of each delivery. -/
structure OffersMade (w w' : World) : Prop extends DeliveryChange w w' where
  kept : ∀ k o, (w.db .deliveryOffer).find k = some o → (w'.db .deliveryOffer).find k = some o
  made : ∀ k o, (w'.db .deliveryOffer).find k = some o → (w.db .deliveryOffer).find k = some o ∨
    o.status = "PENDING" ∧ ∀ d, (w.db .delivery).find o.deliveryId = some d → d.riderId = none
  distinct : (w'.db .deliveryOffer).Distinct DeliveryOffer.key

/-- A claim writes, after it has seen its delivery and the order as they are no longer. -/
def StaleClaim (w w' : World) : Prop :=
  ∃ (e : Env) (riderId deliveryId : ℕ) (offerId : Option ℕ) (current : Delivery) (order : Order) (d : Delivery)
    (db : Database), Orders.OffersTo deliveryId riderId offerId w.db ∧
      Orders.claimWrites e riderId deliveryId offerId current order w.db = .ok (d, db) ∧ w' = { w with db := db }

/-- The store, with offers of deliveries and riders who claim them in between. -/
def claiming : System Op Error World Env :=
  { machine with starts := StoreRequest, background := fun w w' => OffersMade w w' ∨ StaleClaim w w' }

/-- What an operation has to know of the offer that it accepts. -/
def Op.OfferGrounded : {α : Type} → Op α → Database → Prop
  | _, .claimDelivery riderId deliveryId offerId, db => Orders.OffersTo deliveryId riderId offerId db
  | _, _, _ => True

/-- Whether an operation accepts an offer. -/
def Op.acceptsOffer : {α : Type} → Op α → Bool
  | _, .claimDelivery _ _ _ => true
  | _, _ => false

/-- Other operations need nothing. -/
theorem Op.OfferGrounded.of_not {α : Type} {op : Op α} (h : op.acceptsOffer = false) (db : Database) :
    op.OfferGrounded db := by
  cases op <;> first | exact trivial | cases h

/-- What is kept of riders and their deliveries. -/
def oneRider : Contract Op World Env where
  inv w := OneRider w.db
  guar w w' := (w.db .delivery).Evolves Delivery.KeepsRider (w'.db .delivery) ∧
    (w.db .deliveryOffer).Evolves DeliveryOffer.SameKey (w'.db .deliveryOffer)
  known op w := op.OfferGrounded w.db
  allowed _ _ _ := True
  refl _ := ⟨.refl _, .refl _⟩
  trans h h' := ⟨h.1.trans h'.1, h.2.trans h'.2⟩

/-- Where nobody is assigned, riders and offers stay. -/
theorem Unassigning.keeps (h : Unassigning db db') : (db .delivery).Evolves Delivery.KeepsRider (db' .delivery) ∧
    (db .deliveryOffer).Evolves DeliveryOffer.SameKey (db' .deliveryOffer) := by
  refine ⟨fun i d hd => ?_, .of_eq h.offers⟩
  obtain ⟨d', hd', hsame⟩ := h.deliveries.kept i d hd
  exact ⟨d', hd', fun r hr => Eq.trans hsame hr⟩

/-- Every operation keeps one rider to a delivery. -/
theorem oneRider_safe {α : Type} (op : Op α) : oneRider.Safe machine op := by
  intro e w hinv hknown hallowed
  by_cases hoffers : TableName.deliveryOffer ∈ op.writes
  swap
  · have hunassigning := exec_unassigning op hoffers e w
    exact ⟨hinv.unassigning hunassigning, hunassigning.keeps⟩
  cases op <;> dsimp only [Op.writes] at hoffers <;>
    first | exact absurd hoffers (by decide) | clear hoffers
  case claimDelivery riderId deliveryId offerId =>
    have hop : (Op.claimDelivery riderId deliveryId offerId).transaction =
        some fun e => Orders.claimDelivery e riderId deliveryId offerId := rfl
    refine exec_transaction hop (Φ := fun w' => OneRider w'.db ∧ oneRider.guar w w') ⟨hinv, .refl _, .refl _⟩ ?_
    rw [Orders.claimDelivery_eq, wp_bind, wp_ofExcept]
    intro _ _
    rw [wp_bind, wp_find, wp_bind, wp_orThrow]
    intro current _
    rw [wp_bind, wp_require]
    intro _
    rw [wp_bind, wp_findOrThrow]
    intro order _
    rw [wp_bind, wp_require]
    intro _
    rw [wp_bind, wp_ofExcept]
    intro _ _
    exact wp_mono (Orders.claimWrites_claims e current order hknown) fun _ _ hclaims =>
      ⟨hclaims.oneRider hinv, hclaims.keeps⟩

/-- A program that reports no progress accepts no offer. -/
theorem Uses.oneRider {α : Type} {ks : List OpKind} {p : Request α} (h : Uses ks p)
    (hks : .progress ∉ ks) (w : World) :
    oneRider.Ready machine p w := by
  refine Contract.informed_of_all (h.imp fun _ op hop w => Op.OfferGrounded.of_not ?_ w.db) w
  cases op <;> first | rfl | exact absurd hop hks

namespace Orders

/-- Whoever claims a delivery knows whose the offer is that it accepts. -/
theorem claim_oneRider {riderId deliveryId : ℕ} {offerId : Option ℕ} {w : World}
    (h : ∀ w', oneRider.guar w w' → OffersTo deliveryId riderId offerId w'.db) :
    oneRider.Ready machine (claim riderId deliveryId offerId) w :=
  .then (fun w' hguar _ => h w' hguar) fun _ _ _ _ => .call fun _ _ _ => trivial

/-- Accepting an offer relies on the offer that it has found. -/
theorem accept_oneRider (riderId offerId : ℕ) (w : World) : oneRider.Ready machine (accept riderId offerId) w := by
  refine ready_selectOrThrow (fun _ => trivial) fun w₁ o _ _ ho => claim_oneRider fun w₂ h₂ k hk => ?_
  obtain ⟨ho, hown⟩ := Option.filter_eq_some_iff.mp ho
  obtain ⟨o', ho', hdelivery, hrider⟩ := h₂.2 offerId o ho
  rw [← Option.some.inj hk]
  exact ⟨o', ho', hdelivery, hrider.trans (beq_iff_eq.mp (Bool.and_eq_true_iff.mp hown).1)⟩

end Orders

/-- Every request about statuses relies on the offers that it has found. -/
theorem StatusRequest.oneRider {p : Request Unit} (h : StatusRequest p) (w : World) :
    oneRider.Ready machine p w := by
  have hcall {α : Type} {op : Op α} (hop : op.acceptsOffer = false) (w : World) :
      Superstore.oneRider.Ready machine (call op) w := .call fun w _ _ => .of_not hop w.db
  cases h with
  | setStatus actorId id status reason =>
    refine .bind (hcall rfl w) fun _ w => ready_check fun _ => ready_check fun _ => ready_check fun _ => ?_
    refine ready_check fun _ => .bind (hcall rfl w) fun _ w => .bind (hcall rfl w) fun _ w => ?_
    exact ready_onlyIf fun _ => hcall rfl w
  | completePacking actorId storeId id =>
    refine .bind (hcall rfl w) fun _ w => .bind (hcall rfl w) fun _ w => ready_check fun _ => ?_
    refine .bind (hcall rfl w) fun _ w => ready_check fun _ => ?_
    refine .bind (hcall rfl w) fun _ w => ready_check fun _ => .bind (hcall rfl w) fun _ w => ?_
    exact .bind (hcall rfl w) fun _ w => hcall rfl w
  | confirmPickup riderId id token =>
    refine .bind (hcall rfl w) fun _ w => .bind (hcall rfl w) fun _ w => ?_
    refine .bind (hcall rfl w) fun _ w => .bind (hcall rfl w) fun _ w => ?_
    refine .bind (hcall rfl w) fun _ w => ready_check fun _ => ready_check fun _ => ?_
    exact hcall rfl w
  | confirmDelivery riderId id token =>
    refine .bind (hcall rfl w) fun _ w => .bind (hcall rfl w) fun _ w => ?_
    refine .bind (hcall rfl w) fun _ w => ready_check fun _ => .bind (hcall rfl w) fun _ w => ?_
    exact .bind (hcall rfl w) fun _ w => ready_onlyIf fun _ => hcall rfl w
  | updateStatus riderId deliveryId status location note =>
    refine .bind (hcall rfl w) fun _ w => ready_check fun _ => ready_check fun _ => ready_check fun _ => ?_
    exact ready_check fun _ => ready_check fun _ => hcall rfl w
  | claim riderId deliveryId =>
    exact Orders.claim_oneRider fun _ _ k hk => by cases hk
  | accept riderId offerId => exact Orders.accept_oneRider _ _ w
  | updateOrderStatus id status reason =>
    refine .bind (hcall rfl w) fun _ w => .bind (hcall rfl w) fun _ w => ?_
    exact ready_onlyIf fun _ => hcall rfl w

/-- Offers that are made leave riders and accepted offers as they were. -/
theorem OneRider.offersMade {w w' : World} (h : OneRider w.db) (hmade : OffersMade w w') : OneRider w'.db where
  offers := hmade.distinct
  accepted k o ho hstatus := by
    rcases hmade.made k o ho with hold | ⟨hpending, -⟩
    · rw [hmade.deliveries]
      exact h.accepted k o hold hstatus
    · rw [hstatus] at hpending
      exact absurd hpending (by decide)
  assigned i d r hd hr := by
    rw [hmade.deliveries] at hd
    obtain ⟨k, o, ho, hoffer⟩ := h.assigned i d r hd hr
    exact ⟨k, o, hmade.kept k o ho, hoffer⟩
  closed k o d r ho hd hr := by
    rw [hmade.deliveries] at hd
    rcases hmade.made k o ho with hold | ⟨-, hfree⟩
    · exact h.closed k o d r hold hd hr
    · rw [hfree d hd] at hr
      cases hr

/-- The claims keep one rider to a delivery. -/
theorem oneRider_holds : oneRider.Holds claiming where
  starts {p} h w _ := by
    cases h with
    | payment h => exact h.uses.oneRider (by decide) w
    | refund h => exact h.uses.oneRider (by decide) w
    | status h => exact h.oneRider w
  performs op := oneRider_safe op
  background {w w'} h hinv := by
    rcases h with hmade | ⟨e, riderId, deliveryId, offerId, current, order, d, db, hoffers, hrun, rfl⟩
    · exact ⟨hinv.offersMade hmade, .of_eq hmade.deliveries, fun k o ho => ⟨o, hmade.kept k o ho, rfl, rfl⟩⟩
    · have hclaims := Orders.claimWrites_claims e current order hoffers d db hrun
      exact ⟨hclaims.oneRider hinv, hclaims.keeps⟩

/-- In every run of requests, in which riders claim deliveries at the same time, on what they have seen before: a
delivery that has a rider keeps it; one of its offers is accepted, the one of this rider, and no other is accepted
or waits any more; and an offer that is accepted has made its rider the one of the delivery. -/
theorem one_rider {w : World} (hw : OneRider w.db) {c c' : Config Op Error World}
    (hrun : claiming.Run System.anyOp ⟨w, []⟩ c) (hrun' : claiming.Run System.anyOp c c') :
    (∀ i d r, (c.world.db .delivery).find i = some d → d.riderId = some r →
      ∃ d', (c'.world.db .delivery).find i = some d' ∧ d'.riderId = some r) ∧
    (∀ i d r, (c.world.db .delivery).find i = some d → d.riderId = some r →
      ∃ k o, (c.world.db .deliveryOffer).find k = some o ∧ o.deliveryId = i ∧ o.riderId = r ∧
        ∀ l b, (c.world.db .deliveryOffer).find l = some b → b.deliveryId = i →
          (b.status = "ACCEPTED" ↔ l = k) ∧ b.status ≠ "PENDING") ∧
    ∀ k o, (c.world.db .deliveryOffer).find k = some o → o.status = "ACCEPTED" →
      ∃ d, (c.world.db .delivery).find o.deliveryId = some d ∧ d.riderId = some o.riderId := by
  have hany {c c' : Config Op Error World} (h : claiming.Run System.anyOp c c') :
      claiming.Run (fun op e c => oneRider.allowed op e c.world) c c' :=
    System.Run.mono claiming h fun _ _ _ _ => trivial
  have hsound : oneRider.Sound claiming ⟨w, []⟩ := ⟨hw, by simp⟩
  obtain ⟨hsound', -⟩ := oneRider_holds.run hsound (hany hrun)
  obtain ⟨-, hkeeps, -⟩ := oneRider_holds.run hsound' (hany hrun')
  have hinv : OneRider c.world.db := hsound'.1
  refine ⟨fun i d r hd hr => ?_, fun i d r hd hr => ?_, hinv.accepted⟩
  · obtain ⟨d', hd', hkept⟩ := hkeeps i d hd
    exact ⟨d', hd', hkept r hr⟩
  · obtain ⟨k, o, ho, hdelivery, hrider, haccepted⟩ := hinv.assigned i d r hd hr
    refine ⟨k, o, ho, hdelivery, hrider, fun l b hb hbdelivery => ⟨⟨fun hstatus => ?_, fun hl => ?_⟩, ?_⟩⟩
    · obtain ⟨d₁, hd₁, hr₁⟩ := hinv.accepted l b hb hstatus
      rw [hbdelivery, hd] at hd₁
      obtain rfl := Option.some.inj hd₁
      have hsame : b.key = o.key := by
        rw [DeliveryOffer.key, DeliveryOffer.key, hbdelivery, hdelivery, hrider,
          Option.some.inj (hr₁.symm.trans hr)]
      exact hinv.offers l k b o _ hb ho rfl hsame.symm
    · rw [hl, ho] at hb
      rw [← Option.some.inj hb]
      exact haccepted
    · exact hinv.closed l b d r hb (hbdelivery ▸ hd) hr

/-! ## Two riders for one delivery -/

/-- A delivery that is offered to the rider 3, and that any rider may claim. -/
def contested : World where
  db := ((Database.empty.set .order (Table.empty.create
      { orderNumber := "A-1", userId := 1, storeId := 1, fulfillmentType := .delivery
        currentStatus := .readyForPickup, subtotal := 100, shippingFee := 20, total := 120, items := [] })).set
      .delivery (Table.empty.create { orderId := 1 })).set .deliveryOffer (Table.empty.create
      { deliveryId := 1, riderId := 3, status := "PENDING" })

/-- A contested delivery has one rider. -/
theorem oneRider_contested : OneRider contested.db where
  offers k l o b c ho hb _ _ := by
    obtain ⟨rfl, -⟩ := Table.eq_of_find_single ho
    obtain ⟨rfl, -⟩ := Table.eq_of_find_single hb
    rfl
  accepted k o ho hstatus := by
    obtain ⟨-, rfl⟩ := Table.eq_of_find_single ho
    exact absurd hstatus (by decide)
  assigned i d r hd hr := by
    obtain ⟨-, rfl⟩ := Table.eq_of_find_single hd
    cases hr
  closed k o d r _ hd hr := by
    obtain ⟨-, rfl⟩ := Table.eq_of_find_single hd
    cases hr

/-- The rider 3 looks at the offer, and the rider 4 claims the delivery. -/
def overtaken : Config Op Error World :=
  claiming.follow ⟨contested, [Orders.accept 3 1, Orders.claim 4 1 none]⟩ [(0, { now := 1 }), (1, { now := 2 })]

/-- The rider 3 accepts the offer that he has looked at. -/
def lateAcceptance : Config Op Error World := claiming.follow overtaken [(0, { now := 3 })]

/-- The rider 4 has the delivery and keeps it, and the offer of the rider 3 has expired. -/
theorem one_rider_contested : ∃ d k o, (lateAcceptance.world.db .delivery).find 1 = some d ∧ d.riderId = some 4 ∧
    (overtaken.world.db .deliveryOffer).find k = some o ∧ o.riderId = 4 ∧ o.status = "ACCEPTED" ∧
    ((lateAcceptance.world.db .deliveryOffer).find 1).map (·.status) = some "EXPIRED" := by
  have hstarts : ∀ p ∈ [Orders.accept 3 1, Orders.claim 4 1 none], claiming.starts p := by
    intro p hp
    rcases List.mem_pair.mp hp with rfl | rfl
    · exact .status (.accept 3 1)
    · exact .status (.claim 4 1)
  have hriders := one_rider oneRider_contested
    (claiming.schedule_run hstarts [(0, { now := 1 }), (1, { now := 2 })])
    (claiming.follow_run _ [(0, { now := 3 })])
  have hclaimed : ((overtaken.world.db .delivery).find 1).map (·.riderId) = some (some 4) := by decide +kernel
  obtain ⟨d, hd, hr⟩ := Option.map_eq_some_iff.mp hclaimed
  obtain ⟨d', hd', hr'⟩ := hriders.1 1 d 4 hd hr
  obtain ⟨k, o, ho, hdelivery, hrider, hoffers⟩ := hriders.2.1 1 d 4 hd hr
  obtain ⟨haccepted, -⟩ := hoffers k o ho hdelivery
  exact ⟨d', k, o, hd', hr', ho, hrider, haccepted.mpr rfl, by decide +kernel⟩

end Superstore
