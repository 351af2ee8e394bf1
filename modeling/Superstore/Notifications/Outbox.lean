import Superstore.Interleaving.Runs
import Superstore.Relational.Ledger
import Superstore.Store.Schema

/-!
# Sending order confirmations

Workers on several servers take the jobs of the outbox up, tell the customers, and note what has become
of each job. A job that has been at work for ten minutes is given to another worker, and the first
one, when it fails in the end, marks it as failed whatever has become of it. Where a failure is noted
only of jobs that have not been processed, and no worker begins with a job that another one has
processed, a processed job stays so and is not dispatched again. The customer has one notification of
an order in any case.
-/

namespace Superstore.Outbox

open Interleaving Relational

/-! ## Rows -/

/-- How far a job is. -/
inductive JobStatus
  | pending | processing | processed | failed
  deriving DecidableEq

/-- A row of the outbox as the workers use it. -/
structure Job where
  orderId : ℕ
  userId : ℕ
  status : JobStatus := .pending
  attempts : ℕ := 0
  availableAt : ℕ
  processingAt : Option ℕ := none
  processedAt : Option ℕ := none
  lastError : Option String := none
  createdAt : ℕ

/-- What a confirmation tells of an order, and whom. -/
structure OrderDetails where
  orderNumber : String := ""
  currentStatus : OrderStatus := .confirmed
  fulfillmentType : FulfillmentType := .delivery
  email : String := ""

/-- How a customer wants to be told. -/
structure Preference where
  inApp : Bool
  push : Bool
  email : Bool

/-- A notification of a customer. -/
structure Notification where
  eventKey : Option String := none
  recipientId : ℕ
  type : String
  title : String
  message : String
  orderId : Option ℕ := none
  orderNumber : String := ""
  status : OrderStatus := .confirmed

/-- Jobs and notifications, the servers on which a worker is running, and the jobs that have been
dispatched, the latest first. -/
structure State where
  orderConfirmationOutbox : Table Job := Table.empty
  notification : Table Notification := Table.empty
  processingOrderConfirmations : List ℕ := []
  dispatched : List ℕ := []

/-- What a call receives from outside: the time, whether it fails, the order and the preferences. -/
structure Env where
  now : ℕ := 0
  fails : Bool := false
  order : OrderDetails := {}
  preference : Option Preference := none

/-! ## Changes of a job -/

/-- Ten minutes. -/
def staleMs : ℕ := 600000

/-- The jobs that have been at work for ten minutes. -/
def stale (now : ℕ) (_ : ℕ) (j : Job) : Bool :=
  decide (j.status = .processing) && j.processingAt.any fun t => decide (t + staleMs < now)

/-- A job that is set back. -/
def Job.reset (j : Job) : Job := { j with status := .pending, processingAt := none }

/-- A job that may be taken up. -/
def Job.open (now : ℕ) (j : Job) : Bool :=
  (decide (j.status = .pending) || decide (j.status = .failed)) && decide (j.availableAt ≤ now)

/-- A job that a worker has taken. -/
def Job.claimed (now : ℕ) (j : Job) : Job :=
  { j with status := .processing, processingAt := some now, attempts := j.attempts + 1 }

/-- A job that has been done. -/
def Job.processed (now : ℕ) (j : Job) : Job :=
  { j with status := .processed, processedAt := some now, processingAt := none, lastError := none }

/-- How long a minute is. -/
def minuteMs : ℕ := 60000

/-- A job that has failed and is to be tried again later. -/
def Job.failedWith (now : ℕ) (message : String) (delayMinutes : ℕ) (j : Job) : Job :=
  { j with
    status := .failed, processingAt := none, lastError := some message
    availableAt := now + delayMinutes * minuteMs }

/-- The minutes that a job waits after a failure. -/
def delayMinutes (attempts : Option ℕ) : ℕ := min 60 (2 ^ min (attempts.getD 1) 6)

/-! ## Notifications -/

/-- The key under which a customer is told of an order. -/
def eventKey (orderId : ℕ) : String := "order-placed:" ++ toString orderId

/-- What a customer is told of an order. -/
def orderMessage (order : OrderDetails) : String :=
  "Order " ++ order.orderNumber ++ " was " ++
    if order.fulfillmentType = .pickup then "placed successfully and is being prepared for pickup."
    else "placed successfully and is being prepared for delivery."

/-- How a customer is told of an order. -/
def orderTitle : String := "Order placed successfully"

/-- The notification of an order. -/
def orderPlaced (userId orderId : ℕ) (order : OrderDetails) : Notification where
  eventKey := some (eventKey orderId)
  recipientId := userId
  type := "ORDER_PLACED"
  title := orderTitle
  message := orderMessage order
  orderId := some orderId
  orderNumber := order.orderNumber
  status := order.currentStatus

/-! ## Calls -/

/-- The calls of a worker; each is atomic. -/
inductive Op : Type → Type 1
  | beginProcessing (server : ℕ) : Op Bool
  | endProcessing (server : ℕ) : Op Unit
  | now : Op ℕ
  | resetStale (now : ℕ) : Op Unit
  | findJobs (now : ℕ) (orderIds : List ℕ) : Op (List ℕ)
  | claim (id now : ℕ) : Op ℕ
  | findJob (id : ℕ) : Op (Job × OrderDetails)
  | findPreference (userId : ℕ) : Op (Option Preference)
  | upsertNotification (userId orderId : ℕ) (order : OrderDetails) : Op Unit
  | created (userId : ℕ) : Op Unit
  | push (userId : ℕ) (title message : String) (orderId : ℕ) (status : OrderStatus) : Op Unit
  | sendTemplate (email : String) (order : OrderDetails) (userId : ℕ) (eventKey : String) : Op Unit
  | markProcessed (id : ℕ) : Op Unit
  | findAttempts (id : ℕ) : Op (Option ℕ)
  | markFailed (id : ℕ) (message : String) (delayMinutes : ℕ) : Op Unit

/-- An update of one job, which has to exist. -/
def updateJob (id : ℕ) (f : Job → Job) (s : State) : Except Error Unit × State :=
  if (s.orderConfirmationOutbox.find id).isSome then
    (.ok (), { s with orderConfirmationOutbox := s.orderConfirmationOutbox.update id f })
  else (.error .recordNotFound, s)

/-- What a call to the database or to a service does when it comes through. -/
def perform : {α : Type} → Op α → Env → State → Except Error α × State
  | _, .beginProcessing server, _, s =>
    if server ∈ s.processingOrderConfirmations then (.ok true, s)
    else (.ok false, { s with processingOrderConfirmations := server :: s.processingOrderConfirmations })
  | _, .endProcessing server, _, s =>
    (.ok (), { s with processingOrderConfirmations := s.processingOrderConfirmations.filter (· != server) })
  | _, .now, e, s => (.ok e.now, s)
  | _, .resetStale now, _, s =>
    (.ok (), { s with orderConfirmationOutbox := s.orderConfirmationOutbox.updateMany (stale now) Job.reset })
  | _, .findJobs now orderIds, _, s =>
    (.ok ((((s.orderConfirmationOutbox.many fun _ j =>
      (orderIds.isEmpty || orderIds.contains j.orderId) && j.open now).mergeSort fun j k =>
        decide (j.2.createdAt ≤ k.2.createdAt)).take 25).map Prod.fst), s)
  | _, .claim id now, e, s =>
    (.ok (s.orderConfirmationOutbox.many fun i j => i == id && j.open now).length,
      { s with orderConfirmationOutbox :=
        s.orderConfirmationOutbox.updateMany (fun i j => i == id && j.open now) (Job.claimed e.now) })
  | _, .findJob id, e, s =>
    match s.orderConfirmationOutbox.find id with
    | some j => (.ok (j, e.order), { s with dispatched := id :: s.dispatched })
    | none => (.error .recordNotFound, s)
  | _, .findPreference _, e, s => (.ok e.preference, s)
  | _, .upsertNotification userId orderId order, _, s =>
    if (s.notification.first fun _ n => n.eventKey == some (eventKey orderId)).isSome then (.ok (), s)
    else (.ok (), { s with notification := s.notification.create (orderPlaced userId orderId order) })
  | _, .created _, _, s => (.ok (), s)
  | _, .push _ _ _ _ _, _, s => (.ok (), s)
  | _, .sendTemplate _ _ _ _, _, s => (.ok (), s)
  | _, .markProcessed id, e, s => updateJob id (Job.processed e.now) s
  | _, .findAttempts id, _, s => (.ok ((s.orderConfirmationOutbox.find id).map (·.attempts)), s)
  | _, .markFailed id message delayMinutes, e, s => updateJob id (Job.failedWith e.now message delayMinutes) s

/-- The calls that stay on the server, and cannot fail. -/
def Op.local : {α : Type} → Op α → Bool
  | _, .beginProcessing _ => true
  | _, .endProcessing _ => true
  | _, .now => true
  | _, .created _ => true
  | _, _ => false

/-- What a call does; one that fails changes nothing. -/
def exec {α : Type} (op : Op α) (e : Env) (s : State) : Except Error α × State :=
  if e.fails && !op.local then (.error .unavailable, s) else perform op e s

/-- A program over the calls of the outbox. -/
abbrev Request := Prog Op Error

/-! ## Workers -/

/-- Run a program only if a condition holds. -/
def onlyIf (c : Bool) (p : Request Unit) : Request Unit := if c then p else pure ()

/-- Tell a customer of an order, in the ways that the customer wants to be told. -/
def dispatchOrderConfirmation (id : ℕ) : Request Unit := do
  let (job, order) ← Prog.call (.findJob id)
  let preference ← Prog.call (.findPreference job.userId)
  onlyIf ((preference.map Preference.inApp).getD true) do
    Prog.call (.upsertNotification job.userId job.orderId order)
    Prog.call (.created job.userId)
  onlyIf ((preference.map Preference.push).getD true)
    (Prog.call (.push job.userId orderTitle (orderMessage order) job.orderId order.currentStatus))
  onlyIf ((preference.map Preference.email).getD true)
    (Prog.call (.sendTemplate order.email order job.userId (eventKey job.orderId)))
  Prog.call (.markProcessed id)

/-- Note that a job has failed, and when it is tried again. -/
def recordFailure (id : ℕ) (err : Error) : Request Unit := do
  let attempts ← Prog.call (.findAttempts id)
  Prog.call (.markFailed id err.message (delayMinutes attempts))

/-- Take a job up, unless another worker has done so. -/
def processJob (now id : ℕ) : Request Unit := do
  let claimed ← Prog.call (.claim id now)
  if claimed = 1 then (dispatchOrderConfirmation id).attempt (recordFailure id) else pure ()

/-- Take up the jobs that are due, or those of some orders, unless a worker is running on the server. -/
def processOrderConfirmations (server : ℕ) (orderIds : List ℕ) : Request Unit := do
  let processing ← Prog.call (.beginProcessing server)
  if processing then pure ()
  else do
    Prog.attempt (do
      let now ← Prog.call .now
      Prog.call (.resetStale now)
      let jobs ← Prog.call (.findJobs now orderIds)
      Prog.forEach jobs (processJob now)) fun _ => pure ()
    Prog.call (.endProcessing server)

/-! ## The system -/

/-- The calls, run on the tables and the providers. -/
def machine : Machine Op Error State Env where
  exec := exec

/-- What the timers of the servers start, and the payments that have been completed. -/
inductive OutboxRequest : Request Unit → Prop
  | processOrderConfirmations (server : ℕ) (orderIds : List ℕ) :
      OutboxRequest (processOrderConfirmations server orderIds)

/-- Outside of the workers, orders that are not in the outbox are put into it, servers are started anew, and other
notifications change in any way. -/
structure Outside (s s' : State) : Prop where
  jobs : s'.orderConfirmationOutbox = s.orderConfirmationOutbox ∨
    ∃ orderId userId now, (s.orderConfirmationOutbox.first fun _ j => j.orderId == orderId) = none ∧
      s'.orderConfirmationOutbox = s.orderConfirmationOutbox.create
        { orderId := orderId, userId := userId, availableAt := now, createdAt := now }
  notification : ∀ i n, s'.notification.find i = some n → n.type = "ORDER_PLACED" → s.notification.find i = some n
  dispatched : s'.dispatched = s.dispatched

/-- Any number of workers. -/
def outbox : System Op Error State Env :=
  { machine with
    starts := OutboxRequest
    background := Outside }

/-- A failure is noted of a job that has not been processed, and so is one that a worker begins with. -/
def Op.sparesProcessed : {α : Type} → Op α → State → Bool
  | _, .markFailed id _ _, s => (s.orderConfirmationOutbox.find id).all fun j => decide (j.status ≠ .processed)
  | _, .findJob id, s => (s.orderConfirmationOutbox.find id).all fun j => decide (j.status ≠ .processed)
  | _, _, _ => true

/-! ## What holds of jobs and notifications -/

/-- A job that has been processed stays so. -/
def Job.Stays (j j' : Job) : Prop := j.status = .processed → j'.status = .processed

/-- Staying a job is reflexive and transitive. -/
instance : IsPreorder Job Job.Stays where
  refl _ := id
  trans _ _ _ h h' := h' ∘ h

/-- From one state to another, processed jobs stay so and are not dispatched again. -/
structure Later (s s' : State) : Prop where
  jobs : s.orderConfirmationOutbox.Evolves Job.Stays s'.orderConfirmationOutbox
  dispatched : ∀ id j, s.orderConfirmationOutbox.find id = some j → j.status = .processed →
    s'.dispatched.count id = s.dispatched.count id

/-- Being a later state is reflexive and transitive. -/
instance : IsPreorder State Later where
  refl _ := ⟨.refl _, fun _ _ _ _ => rfl⟩
  trans s s' s'' h h' := by
    refine ⟨h.jobs.trans h'.jobs, fun id j hj hprocessed => ?_⟩
    obtain ⟨j', hj', hstays⟩ := h.jobs id j hj
    exact (h'.dispatched id j' hj' (hstays hprocessed)).trans (h.dispatched id j hj hprocessed)

/-- The notifications of orders have keys of their own, and there is one for each order. -/
structure NotifiedOnce (t : Table Notification) : Prop where
  keyed : ∀ i n, t.find i = some n → n.type = "ORDER_PLACED" →
    ∃ orderId, n.orderId = some orderId ∧ n.eventKey = some (eventKey orderId)
  once : ∀ i k n m, t.find i = some n → t.find k = some m → n.type = "ORDER_PLACED" → m.type = "ORDER_PLACED" →
    n.orderId = m.orderId → i = k

/-- The notification of an order for which there is none under its key. -/
theorem NotifiedOnce.create {t : Table Notification} (h : NotifiedOnce t) {userId orderId : ℕ}
    {order : OrderDetails} (hnone : (t.first fun _ n => n.eventKey == some (eventKey orderId)) = none) :
    NotifiedOnce (t.create (orderPlaced userId orderId order)) := by
  -- A notification of the same order would have the same key.
  have hother {k : ℕ} {m : Notification} (hm : t.find k = some m) (htype : m.type = "ORDER_PLACED") :
      m.orderId ≠ some orderId := by
    intro hsame
    obtain ⟨orderId', hid, hkey⟩ := h.keyed k m hm htype
    obtain rfl : orderId' = orderId := Option.some.inj (hid.symm.trans hsame)
    have hfresh := Table.first_eq_none.mp hnone k m hm
    rw [hkey, beq_self_eq_true] at hfresh
    cases hfresh
  constructor
  · intro i n hn htype
    rcases Ledger.find_of_create hn with ⟨-, rfl⟩ | hold
    · exact ⟨orderId, rfl, rfl⟩
    · exact h.keyed i n hold htype
  · intro i k n m hn hm hn' hm' hsame
    rcases Ledger.find_of_create hn with ⟨rfl, rfl⟩ | hold <;>
      rcases Ledger.find_of_create hm with ⟨rfl, rfl⟩ | hold'
    · rfl
    · exact absurd hsame.symm (hother hold' hm')
    · exact absurd hsame (hother hold hn')
    · exact h.once i k n m hold hold' hn' hm' hsame

/-- Notifications of orders that are among those of before. -/
theorem NotifiedOnce.of_subset {t t' : Table Notification} (h : NotifiedOnce t)
    (hsub : ∀ i n, t'.find i = some n → n.type = "ORDER_PLACED" → t.find i = some n) : NotifiedOnce t' where
  keyed i n hn htype := h.keyed i n (hsub i n hn htype) htype
  once i k n m hn hm hn' hm' := h.once i k n m (hsub i n hn hn') (hsub k m hm hm') hn' hm'

/-- What the workers keep where they spare the jobs that have been processed. -/
def confirmations : Contract Op State Env where
  inv s := NotifiedOnce s.notification
  guar := Later
  known _ _ := True
  allowed op _ s := op.sparesProcessed s
  refl := refl_of Later
  trans := trans_of Later

variable {s : State}

/-- A call that changes nothing but one job, which stays processed if it was. -/
theorem updateJob_later (id : ℕ) {f : Job → Job}
    (hf : ∀ j, s.orderConfirmationOutbox.find id = some j → j.Stays (f j)) :
    Later s (updateJob id f s).2 := by
  unfold updateJob
  split
  · exact ⟨.update hf, fun _ _ _ _ => rfl⟩
  · exact refl_of Later s

/-- Updating a job leaves the notifications alone. -/
theorem updateJob_notification (id : ℕ) (f : Job → Job) : (updateJob id f s).2.notification = s.notification := by
  unfold updateJob
  split <;> rfl

/-- Every call leaves one notification of each order. -/
theorem perform_notifiedOnce {α : Type} (op : Op α) (e : Env) (h : NotifiedOnce s.notification) :
    NotifiedOnce (perform op e s).2.notification := by
  cases op with
  | beginProcessing server =>
    simp only [perform]
    split <;> exact h
  | findJob id =>
    simp only [perform]
    split <;> exact h
  | upsertNotification userId orderId order =>
    simp only [perform]
    split
    · exact h
    · next hnone => exact h.create (Option.not_isSome_iff_eq_none.mp hnone)
  | markProcessed id => exact (updateJob_notification id _).symm ▸ h
  | markFailed id message delayMinutes => exact (updateJob_notification id _).symm ▸ h
  | endProcessing _ | now | resetStale _ | findJobs _ _ | claim _ _ | findPreference _ | created _
  | push _ _ _ _ _ | sendTemplate _ _ _ _ | findAttempts _ => exact h

/-- Every call that spares processed jobs leaves them processed, and does not dispatch them. -/
theorem perform_later {α : Type} (op : Op α) (e : Env) (hspares : op.sparesProcessed s) :
    Later s (perform op e s).2 := by
  have hmany {p : ℕ → Job → Bool} {f : Job → Job} (hp : ∀ i j, p i j → j.status ≠ .processed) :
      Later s { s with orderConfirmationOutbox := s.orderConfirmationOutbox.updateMany p f } :=
    ⟨.updateMany fun i j _ hpj hprocessed => absurd hprocessed (hp i j hpj), fun _ _ _ _ => rfl⟩
  cases op with
  | beginProcessing server =>
    simp only [perform]
    split
    · exact refl_of Later s
    · exact ⟨.refl _, fun _ _ _ _ => rfl⟩
  | resetStale now =>
    refine hmany fun _ j hstale => ?_
    have hprocessing := of_decide_eq_true (Bool.and_eq_true_iff.mp hstale).1
    rw [hprocessing]
    exact JobStatus.noConfusion
  | claim id now =>
    refine hmany fun _ j hopen => ?_
    simp only [Job.open, Bool.and_eq_true, Bool.or_eq_true, decide_eq_true_eq] at hopen
    rcases hopen.2.1 with hstatus | hstatus <;> rw [hstatus] <;> exact JobStatus.noConfusion
  | findJob id =>
    simp only [perform]
    split
    · refine ⟨.refl _, fun id' j hj hprocessed => List.count_cons_of_ne fun heq => ?_⟩
      subst heq
      have hopen : ((s.orderConfirmationOutbox.find id).all fun j => decide (j.status ≠ .processed)) = true :=
        hspares
      rw [hj, Option.all_some] at hopen
      exact of_decide_eq_true hopen hprocessed
    · exact refl_of Later s
  | upsertNotification userId orderId order =>
    simp only [perform]
    split
    · exact refl_of Later s
    · exact ⟨.refl _, fun _ _ _ _ => rfl⟩
  | markProcessed id => exact updateJob_later id fun _ _ _ => rfl
  | markFailed id message delayMinutes =>
    refine updateJob_later id fun j hj hprocessed => ?_
    have hopen : ((s.orderConfirmationOutbox.find id).all fun j => decide (j.status ≠ .processed)) = true := hspares
    rw [hj, Option.all_some] at hopen
    exact absurd hprocessed (of_decide_eq_true hopen)
  | endProcessing _ => exact ⟨.refl _, fun _ _ _ _ => rfl⟩
  | now | findJobs _ _ | findPreference _ | created _ | push _ _ _ _ _ | sendTemplate _ _ _ _
  | findAttempts _ => exact refl_of Later s

/-- The workers notify of each order once. -/
theorem confirmations_hold : confirmations.Holds outbox where
  starts _ s _ := Contract.informed_of_forall (fun _ _ => trivial) _ s
  performs op e s hinv _ hspares := by
    change NotifiedOnce (exec op e s).2.notification ∧ Later s (exec op e s).2
    unfold exec
    split
    · exact ⟨hinv, refl_of Later s⟩
    · exact ⟨perform_notifiedOnce op e hinv, perform_later op e hspares⟩
  background {s s'} h hinv := by
    refine ⟨hinv.of_subset h.notification, ?_, fun id _ _ _ => by rw [h.dispatched]⟩
    rcases h.jobs with hsame | ⟨orderId, userId, now, -, hcreated⟩
    · exact .of_eq hsame
    · rw [hcreated]
      exact .create _ _

end Superstore.Outbox
