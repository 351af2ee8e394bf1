import Superstore.Notifications.Outbox
import Superstore.Payments.Confirmations
import Superstore.Properties.Fulfilment

/-!
# Order confirmations

The orders of a paid group are in the outbox, each once, whichever request the group has been paid by.
The workers tell each customer of an order by one notification. That a job that has been processed is left
alone is what a slow worker can spoil, which notes its own failure whatever another one has done meanwhile.
-/

namespace Superstore

open Interleaving Relational Relational.Tx
open Payments (Announced)
open Outbox (outbox NotifiedOnce)

/-! ## The outbox of a store -/

/-- The tables of the outbox and of what is put into it. -/
def announcingTables : List TableName := [.checkoutPaymentGroup, .orderConfirmationOutbox]

/-- The requests of a store, while nobody else writes groups or the outbox. -/
def checkouts : System Op Error World Env :=
  { machine with
    starts := StoreRequest
    background := fun w w' => ∀ n ∈ announcingTables, w'.db n = w.db n }

/-- The outbox stays in step where none of its tables is written. -/
theorem Payments.Announced.congr {db db' : Database} (h : Announced db)
    (hsame : ∀ n ∈ announcingTables, db' n = db n) :
    Announced db' := by
  refine h.of_groups (hsame _ (by decide)) fun i g hg hpaid => ?_
  rw [hsame _ (by decide)] at hg
  exact ⟨g, hg, hpaid, rfl⟩

/-- Every operation leaves the orders of paid groups in the outbox, each once. -/
theorem exec_announced {α : Type} (op : Op α) (e : Env) {w : World} (h : Announced w.db) :
    Announced (op.exec e w).2.db := by
  by_cases hwrites : ∃ n ∈ announcingTables, n ∈ op.writes
  swap
  · exact h.congr fun n hn => exec_frame op e w n fun hmem => hwrites ⟨n, hn, hmem⟩
  have hrun {α : Type} {op : Op α} {m : Env → Tx α} (hop : op.transaction = some m)
      (hm : Within (Keeps Announced) (m e)) : Announced (op.exec e w).2.db :=
    exec_transaction hop (Φ := fun w' => Announced w'.db) h (wp_mono (hm w.db) fun _ _ h' => h' h)
  cases op <;> dsimp only [Op.writes] at hwrites <;>
    first | exact absurd hwrites (by decide) | clear hwrites
  case createCheckout => exact hrun rfl (Checkout.createInTransaction_announced e _ _ _)
  case confirmFinancing => exact hrun rfl (Checkout.confirm_announced e _ _)
  case claimInitialization => exact hrun rfl (Payments.claimInitialization_announced e _ _)
  case finalizePayment => exact hrun rfl (Payments.finalizePayment_announced e _ _ _)
  case completeIncomplete => exact hrun rfl (Payments.completeIncomplete_announced e _)
  case cancelGroup => exact hrun rfl (Payments.cancelGroup_announced e _ _)
  case startKlump => exact hrun rfl (Klump.startTransaction_announced e _ _)
  case completeKlump => exact hrun rfl (Klump.completeTransaction_announced e _ _ _)

/-- The orders of paid groups are in the outbox, each once. -/
def announcements : Contract Op World Env where
  inv w := Announced w.db
  guar _ _ := True
  known _ _ := True
  allowed _ _ _ := True
  refl _ := trivial
  trans _ _ := trivial

/-- The requests of a store keep the outbox in step. -/
theorem announcements_hold : announcements.Holds checkouts where
  starts _ s _ := Contract.informed_of_forall (fun _ _ => trivial) _ s
  performs op e _ h _ _ := ⟨exec_announced op e h, trivial⟩
  background hsame h := ⟨h.congr hsame, trivial⟩

/-- In every run of a store each order of a paid group is in the outbox exactly once. In every run of the workers
in which failures are noted only of jobs that have not been processed, and no worker begins with one that has
been, there is at most one notification of each order, and a job that has been processed stays so and is not
dispatched again. -/
theorem order_confirmed_once {w : World} (hw : Announced w.db) {c : Config Op Error World}
    (hrun : checkouts.Run System.anyOp ⟨w, []⟩ c) {s : Outbox.State} (hs : NotifiedOnce s.notification)
    {d d' : Config Outbox.Op Error Outbox.State}
    (hworkers : outbox.Run (fun op _ d => op.sparesProcessed d.world) ⟨s, []⟩ d)
    (hworkers' : outbox.Run (fun op _ d => op.sparesProcessed d.world) d d') :
    (∀ i g, (c.world.db .checkoutPaymentGroup).find i = some g → g.status = .paid → ∀ a ∈ g.allocations,
      ∃! k, ∃ o, (c.world.db .orderConfirmationOutbox).find k = some o ∧ o.orderId = a.orderId) ∧
    (∀ i k n m, d.world.notification.find i = some n → d.world.notification.find k = some m →
      n.type = "ORDER_PLACED" → m.type = "ORDER_PLACED" → n.orderId = m.orderId → i = k) ∧
    ∀ id j, d.world.orderConfirmationOutbox.find id = some j → j.status = .processed →
      ∃ j', d'.world.orderConfirmationOutbox.find id = some j' ∧ j'.status = .processed ∧
        d'.world.dispatched.count id = d.world.dispatched.count id := by
  have hfresh : announcements.Sound checkouts ⟨w, []⟩ := ⟨hw, nofun⟩
  have hannounced := (announcements_hold.run hfresh hrun).1.1
  have hstart : Outbox.confirmations.Sound outbox ⟨s, []⟩ := ⟨hs, nofun⟩
  obtain ⟨hsound, -⟩ := Outbox.confirmations_hold.run hstart hworkers
  obtain ⟨-, hlater⟩ := Outbox.confirmations_hold.run hsound hworkers'
  refine ⟨fun i g hg hpaid a ha => ?_, hsound.1.once, fun id j hj hprocessed => ?_⟩
  · obtain ⟨k, o, ho, hof⟩ := hannounced.posted i g hg hpaid a ha
    exact ⟨k, ⟨o, ho, hof⟩, fun l ⟨p, hp, hof'⟩ => hannounced.once l k p o hp ho (hof'.trans hof.symm)⟩
  · obtain ⟨j', hj', hstays⟩ := hlater.jobs id j hj
    exact ⟨j', hj', hstays hprocessed, hlater.dispatched id j hj hprocessed⟩

/-! ## A slow worker -/

/-- Nothing is in the outbox of a shop before its first checkout. -/
theorem shop_announced : Announced shop.db where
  posted i g hg := absurd hg (by rw [fresh_shop .checkoutPaymentGroup (by decide) i]; exact nofun)
  once k _ o _ ho := absurd (show (none : Option OrderConfirmationOutbox) = some o from ho)
    (Option.some_ne_none o).symm

/-- One order waits for its confirmation. -/
def oneJob : Outbox.State :=
  { orderConfirmationOutbox := Table.empty.create { orderId := 1, userId := 1, availableAt := 0, createdAt := 0 } }

/-- Nobody has been notified before the first job. -/
theorem oneJob_notified : NotifiedOnce oneJob.notification where
  keyed _ n hn := absurd (show (none : Option Outbox.Notification) = some n from hn) (Option.some_ne_none n).symm
  once _ _ n _ hn := absurd (show (none : Option Outbox.Notification) = some n from hn) (Option.some_ne_none n).symm

/-- A worker on each of two servers. -/
def twoWorkers : List (Outbox.Request Unit) :=
  [Outbox.processOrderConfirmations 0 [], Outbox.processOrderConfirmations 1 []]

/-- The workers of the example can start. -/
theorem twoWorkers_start : ∀ p ∈ twoWorkers, outbox.starts p := by
  intro p hp
  rcases List.mem_pair.mp hp with rfl | rfl
  · exact .processOrderConfirmations 0 []
  · exact .processOrderConfirmations 1 []

/-- A worker takes a number of steps at a time, for a customer who wants no message but by push. -/
def worker (i now steps : ℕ) : List (ℕ × Outbox.Env) :=
  List.replicate steps (i, { now := now, preference := some ⟨false, true, false⟩ })

/-- One worker takes the job up; more than ten minutes later the other one does so, too, and processes it. -/
def takenOver : List (ℕ × Outbox.Env) := worker 0 1 7 ++ worker 1 600002 10

/-- The push message of the first worker fails. -/
def failsLate : List (ℕ × Outbox.Env) := (0, { now := 600003, fails := true }) :: worker 0 600003 2

/-- A job that has been processed is marked as failed by a slow worker. -/
theorem processed_confirmation_fails :
    ¬∀ (w : World) (c : Config Op Error World) (s : Outbox.State) (d d' : Config Outbox.Op Error Outbox.State),
      Announced w.db → checkouts.Run System.anyOp ⟨w, []⟩ c → NotifiedOnce s.notification →
      outbox.Run System.anyOp ⟨s, []⟩ d → outbox.Run System.anyOp d d' →
      (∀ i g, (c.world.db .checkoutPaymentGroup).find i = some g → g.status = .paid → ∀ a ∈ g.allocations,
        ∃! k, ∃ o, (c.world.db .orderConfirmationOutbox).find k = some o ∧ o.orderId = a.orderId) ∧
      (∀ i k n m, d.world.notification.find i = some n → d.world.notification.find k = some m →
        n.type = "ORDER_PLACED" → m.type = "ORDER_PLACED" → n.orderId = m.orderId → i = k) ∧
      ∀ id j, d.world.orderConfirmationOutbox.find id = some j → j.status = .processed →
        ∃ j', d'.world.orderConfirmationOutbox.find id = some j' ∧ j'.status = .processed ∧
          d'.world.dispatched.count id = d.world.dispatched.count id := by
  intro h
  have hstays := (h shop ⟨shop, []⟩ oneJob _ _ shop_announced .refl oneJob_notified
    (outbox.schedule_run twoWorkers_start takenOver) (outbox.follow_run _ failsLate)).2.2 1
  have hprocessed : ((outbox.follow ⟨oneJob, twoWorkers⟩ takenOver).world.orderConfirmationOutbox.find 1).map
      (·.status) = some .processed := by decide +kernel
  have hfailed : ((outbox.follow (outbox.follow ⟨oneJob, twoWorkers⟩ takenOver)
      failsLate).world.orderConfirmationOutbox.find 1).map (·.status) = some .failed := by decide +kernel
  obtain ⟨j, hj, hstatus⟩ := Option.map_eq_some_iff.mp hprocessed
  obtain ⟨j', hj', hstatus', -⟩ := hstays j hj hstatus
  rw [hj', Option.map_some, hstatus'] at hfailed
  cases hfailed

/-- The customer of the shop buys the unit. -/
def boughtOnce : Config Op Error World :=
  checkouts.follow ⟨shop, [discard (Checkout.create 1 walletPickup)]⟩
    (List.replicate 4 (0, { now := 1, orderNumber := fun _ => "A-1" }))

/-- A purchase is in the outbox once, and its job is processed once, though both workers look for it. -/
theorem bought_confirmed_once :
    (∃! k, ∃ o, (boughtOnce.world.db .orderConfirmationOutbox).find k = some o ∧ o.orderId = 1) ∧
    ((outbox.follow (outbox.follow ⟨oneJob, twoWorkers⟩ (worker 0 1 9)) (worker 1 2 7)).world.dispatched.count 1 =
      (outbox.follow ⟨oneJob, twoWorkers⟩ (worker 0 1 9)).world.dispatched.count 1) := by
  have hstarts : ∀ p ∈ [discard (Checkout.create 1 walletPickup)], checkouts.starts p := by
    intro p hp
    rw [List.mem_singleton.mp hp]
    exact .payment (.create 1 walletPickup)
  have hrun : checkouts.Run System.anyOp ⟨shop, []⟩ boughtOnce := checkouts.schedule_run hstarts _
  have hallows : outbox.allows (fun op _ d => op.sparesProcessed d.world) ⟨oneJob, twoWorkers⟩ (worker 0 1 9) := by
    decide +kernel
  have hallows' : outbox.allows (fun op _ d => op.sparesProcessed d.world)
      (outbox.follow ⟨oneJob, twoWorkers⟩ (worker 0 1 9)) (worker 1 2 7) := by decide +kernel
  have hworkers : outbox.Run (fun op _ d => op.sparesProcessed d.world) ⟨oneJob, []⟩ _ :=
    (outbox.start_all_run twoWorkers_start).trans (outbox.follow_run_of hallows)
  obtain ⟨hposted, -, hstays⟩ := order_confirmed_once shop_announced hrun oneJob_notified hworkers
    (outbox.follow_run_of hallows')
  have hgroup : ((boughtOnce.world.db .checkoutPaymentGroup).find 1).map
      (fun g => (g.status, g.allocations.map (·.orderId))) = some (.paid, [1]) := by decide +kernel
  have hprocessed : ((outbox.follow ⟨oneJob, twoWorkers⟩ (worker 0 1 9)).world.orderConfirmationOutbox.find 1).map
      (·.status) = some .processed := by decide +kernel
  obtain ⟨g, hg, hfields⟩ := Option.map_eq_some_iff.mp hgroup
  obtain ⟨hpaid, horders⟩ := Prod.mk.inj hfields
  obtain ⟨a, ha, hof⟩ := List.mem_map.mp (horders ▸ List.mem_singleton_self 1 : 1 ∈ g.allocations.map (·.orderId))
  obtain ⟨j, hj, hstatus⟩ := Option.map_eq_some_iff.mp hprocessed
  obtain ⟨-, -, -, hcount⟩ := hstays 1 j hj hstatus
  exact ⟨hof ▸ hposted 1 g hg hpaid a ha, hcount⟩

end Superstore
