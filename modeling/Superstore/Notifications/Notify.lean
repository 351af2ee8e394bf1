import Superstore.Interleaving.Runs
import Superstore.Relational.Ledger
import Superstore.Store.Schema

/-!
# Telling a user once

A message to a user goes out in up to three ways: as a row of the user's notifications, as a push and as
an email. A message about an event carries a key, and is not sent again once there is a row under it.
Users who do not want rows get none, so that nothing remembers their messages. Where each message leaves
a row or is not sent at all, calls for one event write one row and send one push and one email at most,
whatever fails in between.
-/

namespace Superstore.Notify

open Interleaving Relational

/-! ## Rows -/

/-- A user, as far as notifications know one. -/
structure User where
  email : String
  firstName : Option String := none

/-- A notification in the application. -/
structure Notification where
  recipientId : ℕ
  type : String
  title : String
  message : String
  priority : String := "MEDIUM"
  data : Option String := none
  eventKey : Option String := none
  isRead : Bool := false

/-- What a user wants to be told of, and how. -/
structure NotificationPreference where
  userId : ℕ
  type : String
  inApp : Bool := true
  email : Bool := true
  push : Bool := true

/-- A device that a user is told on. -/
structure DeviceRegistration where
  userId : ℕ
  token : String
  enabled : Bool := true

/-- A message by mail that has been sent or tried. -/
structure EmailLog where
  userId : Option ℕ
  toAddress : String
  templateKey : String
  subject : String
  status : String := "PENDING"
  providerId : Option String := none
  errorMessage : Option String := none
  sentAt : Option ℕ := none
  eventKey : Option String := none

/-- The tables, whether pushes are configured, and the events of the pushes and emails that have been sent. -/
structure State where
  user : Table User := Table.empty
  notification : Table Notification := Table.empty
  notificationPreference : Table NotificationPreference := Table.empty
  deviceRegistration : Table DeviceRegistration := Table.empty
  emailLog : Table EmailLog := Table.empty
  messaging : Bool := true
  pushes : List (Option String) := []
  emails : List (Option String) := []

/-! ## Calls -/

/-- What a message service answers for each device: the ids of those it does not know any more, and the number
of those it has reached. -/
structure MulticastResponse where
  invalidIds : List ℕ := []
  successCount : ℕ := 0

/-- What has become of a message to several devices. -/
structure PushDeliveryResult where
  enabled : Bool
  attempted : ℕ
  successful : ℕ
  failed : ℕ

/-- What a call receives from outside: the time, whether it fails, whether a message that fails has gone out, and
the answers of the services. -/
structure Env where
  now : ℕ := 0
  fails : Bool := false
  sent : Bool := false
  subject : String := ""
  response : MulticastResponse := {}
  messageId : String := ""

/-- What a user is told. -/
structure NotifyUserInput where
  userId : ℕ
  type : String
  title : String
  message : String
  priority : Option String := none
  data : Option String := none
  templateKey : Option String := none
  templateData : List (String × String) := []
  eventKey : Option String := none

/-- The calls to the database and to the services; each is atomic. The calls that send note the event of
the message. -/
inductive Op : Type → Type 1
  | findUser (id : ℕ) : Op (Option User)
  | findNotification (eventKey : String) : Op (Option Notification)
  | findPreference (userId : ℕ) (type : String) : Op (Option NotificationPreference)
  | createNotification (row : Notification) : Op Notification
  | created (userId : ℕ) (notification : Notification) : Op Unit
  | messaging : Op Bool
  | findDevices (userId : ℕ) : Op (List (ℕ × DeviceRegistration))
  | sendEachForMulticast (event : Option String) (tokens : List String) (title body : String)
      (data : Option String) :
      Op MulticastResponse
  | disableDevices (ids : List ℕ) : Op Unit
  | render (templateKey : String) (data : List (String × String)) : Op String
  | findEmailLog (eventKey : String) : Op (Option (ℕ × EmailLog))
  | createEmailLog (row : EmailLog) : Op ℕ
  | updateEmailLog (id : ℕ) (f : ℕ → EmailLog → EmailLog) : Op Unit
  | sendMail (event : Option String) (address subject : String) : Op String

/-- What a call does when it comes through. -/
def perform : {α : Type} → Op α → Env → State → Except Error α × State
  | _, .findUser id, _, s => (.ok (s.user.find id), s)
  | _, .findNotification eventKey, _, s =>
    (.ok ((s.notification.first fun _ n => n.eventKey == some eventKey).map Prod.snd), s)
  | _, .findPreference userId type, _, s =>
    (.ok ((s.notificationPreference.first fun _ p => p.userId == userId && p.type == type).map Prod.snd), s)
  | _, .createNotification row, _, s =>
    if row.eventKey.isSome && (s.notification.first fun _ n => n.eventKey == row.eventKey).isSome then
      (.error .uniqueViolation, s)
    else (.ok row, { s with notification := s.notification.create row })
  | _, .created _ _, _, s => (.ok (), s)
  | _, .messaging, _, s => (.ok s.messaging, s)
  | _, .findDevices userId, _, s =>
    (.ok (s.deviceRegistration.many fun _ d => d.userId == userId && d.enabled), s)
  | _, .sendEachForMulticast event _ _ _ _, e, s => (.ok e.response, { s with pushes := event :: s.pushes })
  | _, .disableDevices ids, _, s =>
    (.ok (), { s with
      deviceRegistration := s.deviceRegistration.updateMany (fun i _ => ids.contains i) fun d =>
        { d with enabled := false } })
  | _, .render _ _, e, s => (.ok e.subject, s)
  | _, .findEmailLog eventKey, _, s => (.ok (s.emailLog.first fun _ l => l.eventKey == some eventKey), s)
  | _, .createEmailLog row, _, s =>
    if row.eventKey.isSome && (s.emailLog.first fun _ l => l.eventKey == row.eventKey).isSome then
      (.error .uniqueViolation, s)
    else (.ok s.emailLog.next, { s with emailLog := s.emailLog.create row })
  | _, .updateEmailLog id f, e, s =>
    if (s.emailLog.find id).isSome then (.ok (), { s with emailLog := s.emailLog.update id (f e.now) })
    else (.error .recordNotFound, s)
  | _, .sendMail event _ _, e, s => (.ok e.messageId, { s with emails := event :: s.emails })

/-- The calls that stay on the server, and cannot fail. -/
def Op.local : {α : Type} → Op α → Bool
  | _, .created _ _ => true
  | _, .messaging => true
  | _, _ => false

/-- The calls whose effect may stay although they fail. -/
def Op.sends : {α : Type} → Op α → Bool
  | _, .sendEachForMulticast _ _ _ _ _ => true
  | _, .sendMail _ _ _ => true
  | _, _ => false

/-- What a call does. One that fails changes nothing, but a message may have gone out before the failure. -/
def exec {α : Type} (op : Op α) (e : Env) (s : State) : Except Error α × State :=
  if e.fails && !op.local then (.error .unavailable, if e.sent && op.sends then (perform op e s).2 else s)
  else perform op e s

/-- A program over these calls. -/
abbrev Request := Prog Op Error

/-- The calls, run on the tables and the providers. -/
def machine : Machine Op Error State Env where
  exec := exec

/-! ## Messages -/

/-- The result of a push that has not been tried. -/
def PushDeliveryResult.none (enabled : Bool) : PushDeliveryResult := ⟨enabled, 0, 0, 0⟩

/-- Disable the devices that are not known any more. -/
def disable (invalidIds : List ℕ) : Request Unit :=
  if invalidIds.isEmpty then pure () else Prog.call (.disableDevices invalidIds)

/-- Send a push to devices, and disable those that are not known any more. -/
def multicast (event : Option String) (devices : List (ℕ × DeviceRegistration)) (title body : String)
    (data : Option String) : Request PushDeliveryResult := do
  let response ← Prog.attempt (do
    let response ← Prog.call (.sendEachForMulticast event (devices.map (·.2.token)) title body data)
    pure (some response)) fun _ => pure none
  match response with
  | none => pure ⟨true, devices.length, 0, devices.length⟩
  | some response => do
    disable ((devices.map Prod.fst).filter response.invalidIds.contains)
    pure ⟨true, devices.length, response.successCount, devices.length - response.successCount⟩

/-- Send a push to the devices of a user. -/
def send (event : Option String) (userId : ℕ) (title body : String) (data : Option String) :
    Request PushDeliveryResult := do
  let messaging ← Prog.call .messaging
  if messaging then do
    let devices ← Prog.call (.findDevices userId)
    if devices.isEmpty then pure (.none true) else multicast event devices title body data
  else pure (.none false)

/-- The log entry of an email that is about to be sent. -/
def logEmail (existing : Option (ℕ × EmailLog)) (row : EmailLog) : Request ℕ :=
  match existing with
  | some (id, _) => do
    Prog.call (.updateEmailLog id fun _ l =>
      { l with
        userId := row.userId, toAddress := row.toAddress, templateKey := row.templateKey, subject := row.subject,
        status := "PENDING", errorMessage := none })
    pure id
  | none => Prog.call (.createEmailLog row)

/-- The log entry under a key, if there is a key. -/
def existingEmail (eventKey : Option String) : Request (Option (ℕ × EmailLog)) :=
  match eventKey.filter (· ≠ "") with
  | some key => Prog.call (.findEmailLog key)
  | none => pure none

/-- Send an email, unless one has been sent under its key, and log what has become of it. -/
def sendTemplate (event : Option String) (templateKey toAddress : String) (data : List (String × String))
    (userId : Option ℕ) (eventKey : Option String) : Request Unit := do
  let subject ← Prog.call (.render templateKey data)
  let existing ← existingEmail eventKey
  if existing.any (·.2.status == "SENT") then pure ()
  else do
    let id ← logEmail existing
      { userId := userId, toAddress := toAddress, templateKey := templateKey, subject := subject,
        eventKey := eventKey }
    Prog.attempt (do
      let messageId ← Prog.call (.sendMail event toAddress subject)
      Prog.call (.updateEmailLog id fun now l =>
        { l with status := "SENT", providerId := some messageId, sentAt := some now })) fun err => do
      Prog.call (.updateEmailLog id fun _ l => { l with status := "FAILED", errorMessage := some err.message })
      Prog.fail err

/-- The notification under a key, if there is a key. -/
def existingNotification (eventKey : Option String) : Request (Option Notification) :=
  match eventKey.filter (· ≠ "") with
  | some key => Prog.call (.findNotification key)
  | none => pure none

/-- Write the row of a message for a user who wants it. -/
def writeRow (inAppEnabled : Bool) (input : NotifyUserInput) : Request (Option Notification) :=
  if inAppEnabled then do
    let notification ← Prog.call (.createNotification
      { recipientId := input.userId, type := input.type, title := input.title, message := input.message,
        priority := input.priority.getD "MEDIUM", data := input.data, eventKey := input.eventKey })
    Prog.call (.created input.userId notification)
    pure (some notification)
  else pure none

/-- Push a message to a user who wants it. -/
def pushMessage (pushEnabled : Bool) (input : NotifyUserInput) : Request Unit :=
  if pushEnabled then do
    let _ ← send input.eventKey input.userId input.title input.message input.data
    pure ()
  else pure ()

/-- Send a message by email to a user who wants it; that it cannot be sent is only logged. -/
def emailMessage (emailEnabled : Bool) (input : NotifyUserInput) (user : User) (appName : String) : Request Unit :=
  match input.templateKey with
  | some templateKey =>
    if emailEnabled then
      (sendTemplate input.eventKey templateKey user.email
        ([("appName", appName)] ++ (user.firstName.map (Prod.mk "firstName")).toList ++ input.templateData)
        (some input.userId) none).attempt fun _ => pure ()
    else pure ()
  | none => pure ()

/-- Tell a user of something, in the ways in which the user wants to be told, unless there is a row
under the key. -/
def notifyUser (appName : String) (input : NotifyUserInput) : Request (Option Notification) := do
  let user ← Prog.call (.findUser input.userId)
  let user ← Prog.orFail user (.notFound "Notification recipient not found.")
  let existing ← existingNotification input.eventKey
  match existing with
  | some notification => pure (some notification)
  | none => do
    let preference ← Prog.call (.findPreference input.userId input.type)
    let notification ← writeRow ((preference.map (·.inApp)).getD true) input
    pushMessage ((preference.map (·.push)).getD true) input
    emailMessage ((preference.map (·.email)).getD true) input user appName
    pure notification

/-! ## What a message sends -/

/-- From one state to another, the rows stay, and a bounded number of pushes and emails about an event go out. -/
structure Adds (event : Option String) (pushes emails : ℕ) (s s' : State) : Prop where
  rows : s'.notification = s.notification
  pushed : ∃ n ≤ pushes, s'.pushes = List.replicate n event ++ s.pushes
  mailed : ∃ n ≤ emails, s'.emails = List.replicate n event ++ s.emails

/-- Rows that stay, and sendings that stay, add nothing. -/
theorem Adds.of_eq {event : Option String} {pushes emails : ℕ} {s s' : State}
    (hrows : s'.notification = s.notification)
    (hpushes : s'.pushes = s.pushes) (hemails : s'.emails = s.emails) : Adds event pushes emails s s' :=
  ⟨hrows, ⟨0, Nat.zero_le _, hpushes⟩, ⟨0, Nat.zero_le _, hemails⟩⟩

/-- What is added in two steps is added together. -/
theorem Adds.trans {event : Option String} {m n m' n' : ℕ} {s s' s'' : State} (h : Adds event m n s s')
    (h' : Adds event m' n' s' s'') : Adds event (m + m') (n + n') s s'' := by
  obtain ⟨i, hi, hpushes⟩ := h.pushed
  obtain ⟨i', hi', hpushes'⟩ := h'.pushed
  obtain ⟨j, hj, hemails⟩ := h.mailed
  obtain ⟨j', hj', hemails'⟩ := h'.mailed
  refine ⟨h'.rows.trans h.rows, ⟨i' + i, by omega, ?_⟩, ⟨j' + j, by omega, ?_⟩⟩
  · rw [hpushes', hpushes, ← List.append_assoc, List.replicate_append_replicate]
  · rw [hemails', hemails, ← List.append_assoc, List.replicate_append_replicate]

/-- More may be allowed to be added. -/
theorem Adds.mono {event : Option String} {m n m' n' : ℕ} {s s' : State} (h : Adds event m n s s') (hm : m ≤ m')
    (hn : n ≤ n') : Adds event m' n' s s' := by
  obtain ⟨i, hi, hpushes⟩ := h.pushed
  obtain ⟨j, hj, hemails⟩ := h.mailed
  exact ⟨h.rows, ⟨i, hi.trans hm, hpushes⟩, ⟨j, hj.trans hn, hemails⟩⟩

/-- Run alone, a program writes no row and sends no more than some pushes and emails about an event. -/
def Sends {α : Type} (event : Option String) (pushes emails : ℕ) (p : Request α) : Prop :=
  ∀ s, p.Within machine (Adds event pushes emails) s

section Sends

variable {α β : Type} {event : Option String} {m n k l : ℕ}

/-- What is done without a call sends nothing. -/
theorem Sends.done (r : Except Error α) : Sends event m n (.done r) := fun _ => .of_eq rfl rfl rfl

/-- A call that writes no notification and sends nothing. -/
theorem Sends.quiet {op : Op α} (h : ∀ e s, (perform op e s).2.notification = s.notification ∧
    (perform op e s).2.pushes = s.pushes ∧ (perform op e s).2.emails = s.emails) :
    Sends event m n (Prog.call op) := by
  intro s e
  change Adds event m n s (exec op e s).2
  rw [exec]
  split
  · dsimp only
    split
    · exact .of_eq (h e s).1 (h e s).2.1 (h e s).2.2
    · exact .of_eq rfl rfl rfl
  · exact .of_eq (h e s).1 (h e s).2.1 (h e s).2.2

/-- A message to devices is sent once. -/
theorem Sends.push (tokens : List String) (title body : String) (data : Option String) :
    Sends event 1 0 (Prog.call (.sendEachForMulticast event tokens title body data)) := by
  intro s e
  change Adds event 1 0 s (exec _ e s).2
  rw [exec]
  split
  · dsimp only
    split
    · exact ⟨rfl, ⟨1, le_rfl, rfl⟩, ⟨0, le_rfl, rfl⟩⟩
    · exact .of_eq rfl rfl rfl
  · exact ⟨rfl, ⟨1, le_rfl, rfl⟩, ⟨0, le_rfl, rfl⟩⟩

/-- A message by mail is sent once. -/
theorem Sends.mail (address subject : String) : Sends event 0 1 (Prog.call (.sendMail event address subject)) := by
  intro s e
  change Adds event 0 1 s (exec _ e s).2
  rw [exec]
  split
  · dsimp only
    split
    · exact ⟨rfl, ⟨0, le_rfl, rfl⟩, ⟨1, le_rfl, rfl⟩⟩
    · exact .of_eq rfl rfl rfl
  · exact ⟨rfl, ⟨0, le_rfl, rfl⟩, ⟨1, le_rfl, rfl⟩⟩

/-- A sequence sends what its parts send. -/
theorem Sends.bind {p : Request α} {f : α → Request β} (hp : Sends event m n p) (hf : ∀ a, Sends event k l (f a)) :
    Sends event (m + k) (n + l) (p.bind f) := by
  intro s
  refine (Prog.wpAlone_bind machine p f _ s).mpr (Prog.wpAlone_mono machine (hp s) fun r s₁ h =>
    ⟨fun a _ => ?_, fun _ _ => ?_⟩)
  · exact Prog.wpAlone_mono machine (hf a s₁) fun _ _ h' => h.trans h'
  · exact h.mono (Nat.le_add_right _ _) (Nat.le_add_right _ _)

/-- A program whose errors are handled sends what it and the handler send. -/
theorem Sends.attempt {p : Request α} {handler : Error → Request α} (hp : Sends event m n p)
    (hh : ∀ err, Sends event k l (handler err)) : Sends event (m + k) (n + l) (p.attempt handler) := by
  intro s
  refine (Prog.wpAlone_attempt machine p handler _ s).mpr
    (Prog.wpAlone_mono machine (hp s) fun r s₁ h => ⟨fun _ _ => ?_, fun err _ => ?_⟩)
  · exact h.mono (Nat.le_add_right _ _) (Nat.le_add_right _ _)
  · exact Prog.wpAlone_mono machine (hh err s₁) fun _ _ h' => h.trans h'

end Sends

variable {event : Option String}

/-- A message to many devices is sent at most once. -/
theorem multicast_sends (devices : List (ℕ × DeviceRegistration)) (title body : String) (data : Option String) :
    Sends event 1 0 (multicast event devices title body data) := by
  have hpush : Sends event 1 0 (Prog.attempt (do
      let response ← Prog.call (.sendEachForMulticast event (devices.map (·.2.token)) title body data)
      pure (some response) : Request (Option MulticastResponse)) fun _ => pure none) :=
    .attempt (k := 0) (l := 0) (.bind (k := 0) (l := 0) (.push _ _ _ _) fun _ => .done _) fun _ => .done _
  refine Sends.bind (k := 0) (l := 0) hpush fun response => ?_
  cases response with
  | none => exact .done _
  | some response =>
    refine Sends.bind (m := 0) (n := 0) (k := 0) (l := 0) ?_ fun _ => .done _
    rw [disable]
    split
    · exact .done _
    · exact .quiet fun _ _ => ⟨rfl, rfl, rfl⟩

/-- A message to the devices of a user is sent at most once. -/
theorem send_sends (userId : ℕ) (title body : String) (data : Option String) :
    Sends event 1 0 (send event userId title body data) := by
  refine Sends.bind (m := 0) (n := 0) (k := 1) (l := 0) (.quiet fun _ _ => ⟨rfl, rfl, rfl⟩) fun messaging => ?_
  split
  · refine Sends.bind (m := 0) (n := 0) (k := 1) (l := 0) (.quiet fun _ _ => ⟨rfl, rfl, rfl⟩) fun devices => ?_
    split
    · exact .done _
    · exact multicast_sends devices title body data
  · exact .done _

/-- Changing the log of the mails sends nothing. -/
theorem updateEmailLog_sends (id : ℕ) (f : ℕ → EmailLog → EmailLog) :
    Sends event 0 0 (Prog.call (.updateEmailLog id f)) := by
  refine .quiet fun e s => ?_
  rw [perform]
  split <;> exact ⟨rfl, rfl, rfl⟩

/-- Writing to the log of the mails sends nothing. -/
theorem logEmail_sends (existing : Option (ℕ × EmailLog)) (row : EmailLog) :
    Sends event 0 0 (logEmail existing row) := by
  cases existing with
  | some existing =>
    exact Sends.bind (m := 0) (n := 0) (k := 0) (l := 0) (updateEmailLog_sends _ _) fun _ => .done _
  | none =>
    refine .quiet fun e s => ?_
    rw [perform]
    split <;> exact ⟨rfl, rfl, rfl⟩

/-- A mail made from a template is sent at most once. -/
theorem sendTemplate_sends (templateKey toAddress : String) (data : List (String × String)) (userId : Option ℕ)
    (eventKey : Option String) :
    Sends event 0 1 (sendTemplate event templateKey toAddress data userId eventKey) := by
  refine Sends.bind (m := 0) (n := 0) (k := 0) (l := 1) (.quiet fun _ _ => ⟨rfl, rfl, rfl⟩) fun subject => ?_
  refine Sends.bind (m := 0) (n := 0) (k := 0) (l := 1) ?_ fun existing => ?_
  · rw [existingEmail]
    split
    · exact .quiet fun _ _ => ⟨rfl, rfl, rfl⟩
    · exact .done _
  · split
    · exact .done _
    · refine Sends.bind (m := 0) (n := 0) (k := 0) (l := 1) (logEmail_sends _ _) fun id => ?_
      refine Sends.attempt (m := 0) (n := 1) (k := 0) (l := 0) ?_ fun err => ?_
      · exact Sends.bind (k := 0) (l := 0) (.mail _ _) fun _ => updateEmailLog_sends _ _
      · exact Sends.bind (k := 0) (l := 0) (updateEmailLog_sends _ _) fun _ => .done _

/-- A message is pushed at most once, and not at all to a user who does not want it. -/
theorem pushMessage_sends (pushEnabled : Bool) (input : NotifyUserInput) :
    Sends input.eventKey (if pushEnabled then 1 else 0) 0 (pushMessage pushEnabled input) := by
  cases pushEnabled with
  | false => exact .done _
  | true => exact Sends.bind (m := 1) (k := 0) (l := 0) (send_sends _ _ _ _) fun _ => .done _

/-- A message is sent by email at most once, and not at all to a user who does not want it. -/
theorem emailMessage_sends (emailEnabled : Bool) (input : NotifyUserInput) (user : User) (appName : String) :
    Sends input.eventKey 0 (if emailEnabled && input.templateKey.isSome then 1 else 0)
      (emailMessage emailEnabled input user appName) := by
  rw [emailMessage]
  cases input.templateKey with
  | none =>
    rw [Option.isSome_none, Bool.and_false]
    exact .done _
  | some templateKey =>
    cases emailEnabled with
    | false => exact .done _
    | true =>
      exact Sends.attempt (m := 0) (n := 1) (k := 0) (l := 0) (sendTemplate_sends _ _ _ _ _) fun _ => .done _

/-! ## Calls for one event -/

/-- There is a row under a key. -/
def HasRow (s : State) (key : String) : Prop := ∃ i n, s.notification.find i = some n ∧ n.eventKey = some key

/-- No two rows have one key. -/
def UniqueKeys (t : Table Notification) : Prop :=
  ∀ i j n l, t.find i = some n → t.find j = some l → n.eventKey.isSome → n.eventKey = l.eventKey → i = j

/-- An event has one row, one push and one email at most, and none is sent before the row is there. -/
structure ToldOnce (s : State) : Prop where
  unique : UniqueKeys s.notification
  pushes : ∀ key, s.pushes.count (some key) ≤ 1
  emails : ∀ key, s.emails.count (some key) ≤ 1
  untold : ∀ key, ¬HasRow s key → s.pushes.count (some key) = 0 ∧ s.emails.count (some key) = 0

/-- How a user wants to be told of something. -/
def State.preference (s : State) (userId : ℕ) (type : String) : Option NotificationPreference :=
  (s.notificationPreference.first fun _ p => p.userId == userId && p.type == type).map Prod.snd

/-- A message about an event has a row, or leaves one, or is not sent at all. -/
def NotifyUserInput.leavesRow (input : NotifyUserInput) (s : State) : Prop :=
  input.eventKey = none ∨ (∃ key, input.eventKey = some key ∧ key ≠ "" ∧ HasRow s key) ∨
    ((s.preference input.userId input.type).map (·.inApp)).getD true = true ∨
    (((s.preference input.userId input.type).map (·.push)).getD true = false ∧
      (((s.preference input.userId input.type).map (·.email)).getD true && input.templateKey.isSome) = false)

/-- How often an event has been pushed and sent by email after a message. -/
theorem Adds.count {event : Option String} {m n : ℕ} {s s' : State} (h : Adds event m n s s') (key : String) :
    s'.pushes.count (some key) ≤ (if event = some key then m else 0) + s.pushes.count (some key) ∧
      s'.emails.count (some key) ≤ (if event = some key then n else 0) + s.emails.count (some key) := by
  obtain ⟨i, hi, hpushes⟩ := h.pushed
  obtain ⟨j, hj, hemails⟩ := h.mailed
  rw [hpushes, hemails, List.count_append, List.count_append, List.count_replicate, List.count_replicate]
  by_cases hevent : event = some key
  · simp only [hevent, beq_self_eq_true, if_true]
    omega
  · simp only [beq_iff_eq, hevent, if_false]
    omega

/-- Messages about no event, or about an event that has just got its row, or that are not sent, leave every
event told once. -/
theorem ToldOnce.adds {s s' : State} {event : Option String} {m n : ℕ} (h : ToldOnce s)
    (hadds : Adds event m n s s') (hm : m ≤ 1) (hn : n ≤ 1)
    (hfirst : ∀ key, event = some key → (m = 0 ∧ n = 0) ∨
      HasRow s key ∧ s.pushes.count (some key) = 0 ∧ s.emails.count (some key) = 0) : ToldOnce s' := by
  have hrow (key : String) : HasRow s' key ↔ HasRow s key := by rw [HasRow, HasRow, hadds.rows]
  have hcases (key : String) : s'.pushes.count (some key) ≤ 1 ∧ s'.emails.count (some key) ≤ 1 ∧
      (¬HasRow s key → s'.pushes.count (some key) = 0 ∧ s'.emails.count (some key) = 0) := by
    obtain ⟨hpushes, hemails⟩ := hadds.count key
    have hp := h.pushes key
    have he := h.emails key
    have hu := h.untold key
    by_cases hevent : event = some key
    · rw [if_pos hevent] at hpushes hemails
      rcases hfirst key hevent with ⟨hm0, hn0⟩ | ⟨hhas, hp0, he0⟩
      · exact ⟨by omega, by omega, fun hnone => by have := hu hnone; omega⟩
      · exact ⟨by omega, by omega, fun hnone => absurd hhas hnone⟩
    · rw [if_neg hevent] at hpushes hemails
      exact ⟨by omega, by omega, fun hnone => by have := hu hnone; omega⟩
  refine ⟨by rw [hadds.rows]; exact h.unique, fun key => (hcases key).1, fun key =>
    (hcases key).2.1, fun key hnone => ?_⟩
  exact (hcases key).2.2 ((hrow key).not.mp hnone)

/-- A call that only reads leaves the state as it is, whether it fails or not. -/
theorem exec_read {α : Type} {op : Op α} (h : ∀ e s, (perform op e s).2 = s) (e : Env) (s : State) :
    (exec op e s).2 = s := by
  rw [exec]
  split
  · dsimp only
    split
    · exact h e s
    · rfl
  · exact h e s

/-- A call that sends nothing has no effect when it fails. -/
theorem exec_of_database {α : Type} {op : Op α} (h : op.sends = false) (e : Env) (s : State) :
    exec op e s = if e.fails && !op.local then (.error .unavailable, s) else perform op e s := by
  simp [exec, h]

/-- A call that stays on the server does not fail. -/
theorem exec_of_local {α : Type} {op : Op α} (h : op.local = true) (e : Env) (s : State) :
    exec op e s = perform op e s := by
  simp [exec, h]

/-- What a call that has come through answers. -/
theorem perform_of_exec {α : Type} {op : Op α} {e : Env} {s : State} {a : α} (h : (exec op e s).1 = .ok a) :
    exec op e s = perform op e s := by
  rw [exec] at h ⊢
  split
  · next hfails =>
    rw [if_pos hfails] at h
    cases h
  · rfl

/-- A new row under a key that no row has. -/
theorem ToldOnce.create {s : State} (h : ToldOnce s) {row : Notification}
    (hnew : ∀ key, row.eventKey = some key → ¬HasRow s key) :
    ToldOnce { s with notification := s.notification.create row } := by
  refine ⟨?_, h.pushes, h.emails, fun key hnone => h.untold key fun ⟨i, n, hn, hkey⟩ => ?_⟩
  · intro i j n l hn hl hkey hsame
    rcases Ledger.find_of_create hn with ⟨rfl, rfl⟩ | hold <;>
      rcases Ledger.find_of_create hl with ⟨rfl, rfl⟩ | hold'
    · rfl
    · obtain ⟨key, hkey⟩ := Option.isSome_iff_exists.mp hkey
      exact absurd ⟨j, l, hold', hsame.symm.trans hkey⟩ (hnew key hkey)
    · obtain ⟨key, hkey⟩ := Option.isSome_iff_exists.mp hkey
      exact absurd ⟨i, n, hold, hkey⟩ (hnew key (hsame.symm.trans hkey))
    · exact h.unique i j n l hold hold' hkey hsame
  · exact hnone ⟨i, n, Table.find_create_of_find row hn, hkey⟩

/-- What is sent once the row of a message has been written, or has not been. -/
theorem sends_toldOnce {s : State} (h : ToldOnce s) (input : NotifyUserInput) (user : User) (appName : String)
    (push email : Bool)
    (hfirst : ∀ key, input.eventKey = some key → (push = false ∧ (email && input.templateKey.isSome) = false) ∨
      HasRow s key ∧ s.pushes.count (some key) = 0 ∧ s.emails.count (some key) = 0) (r : Option Notification) :
    Prog.wpAlone machine ((pushMessage push input).bind fun _ =>
      (emailMessage email input user appName).bind fun _ => (.done (.ok r) : Request _))
          (fun _ s' => ToldOnce s') s := by
  have hsends := Sends.bind (pushMessage_sends push input) fun _ =>
    Sends.bind (k := 0) (l := 0) (emailMessage_sends email input user appName) fun _ => Sends.done (.ok r)
  refine Prog.wpAlone_mono machine (hsends s) fun _ s' hadds => h.adds hadds ?_ ?_ fun key hkey => ?_
  · split <;> omega
  · split <;> omega
  · rcases hfirst key hkey with ⟨hpush, hemail⟩ | hrow
    · rw [hpush, hemail]
      exact .inl ⟨rfl, rfl⟩
    · exact .inr hrow

section

variable {α β : Type}

/-- A call that only reads, followed by a program that knows its answer. -/
theorem read_toldOnce {op : Op β} {f : β → Request α} {s : State} (h : ToldOnce s)
    (hread : ∀ e s, (perform op e s).2 = s)
    (hf : ∀ e b, (perform op e s).1 = .ok b → (f b).wpAlone machine (fun _ s' => ToldOnce s') s) :
    ((Prog.call op).bind f).wpAlone machine (fun _ s' => ToldOnce s') s := by
  refine (Prog.wpAlone_bind machine _ f _ s).mpr fun e => ?_
  change (∀ b, (exec op e s).1 = .ok b → (f b).wpAlone machine _ (exec op e s).2) ∧
    ∀ err, (exec op e s).1 = .error err → ToldOnce (exec op e s).2
  rw [exec_read hread]
  refine ⟨fun b hb => hf e b ?_, fun _ _ => h⟩
  rw [← perform_of_exec hb]
  exact hb

end

/-- The row of a message is written under a key that no row has, or the call fails. -/
theorem writeRow_toldOnce {s : State} (h : ToldOnce s) (input : NotifyUserInput)
    {f : Option Notification → Request (Option Notification)}
    (hf : ∀ r s', ToldOnce s' → (∀ key, input.eventKey = some key →
      HasRow s' key ∧ s'.pushes.count (some key) = 0 ∧ s'.emails.count (some key) = 0) →
      (f r).wpAlone machine (fun _ s' => ToldOnce s') s') :
    ((writeRow true input).bind f).wpAlone machine (fun _ s' => ToldOnce s') s := by
  intro e
  change Prog.wpAlone machine (((Prog.done (exec _ e s).1).bind _).bind f) _ (exec _ e s).2
  rw [exec_of_database rfl]
  split
  · exact h
  · rw [perform]
    dsimp only
    split
    · exact h
    · next hclash =>
      intro e'
      change Prog.wpAlone machine (((Prog.done (exec _ e' _).1).bind _).bind f) _ (exec _ e' _).2
      rw [exec_of_local rfl]
      have hnew (key : String) (hkey : input.eventKey = some key) : ¬HasRow s key := by
        rintro ⟨i, n, hn, hnkey⟩
        apply hclash
        rw [hkey, Option.isSome_some, Bool.true_and, Option.isSome_iff_ne_none]
        intro hnone
        have hother := Table.first_eq_none.mp hnone i n hn
        rw [hnkey, beq_self_eq_true] at hother
        cases hother
      refine hf _ _ (h.create hnew) fun key hkey =>
        ⟨⟨_, _, Table.find_create_self _ _, hkey⟩, h.untold key (hnew key hkey)⟩

/-- Run alone, a call that writes a row or sends nothing leaves every event told once. -/
theorem notifyUser_toldOnce {s : State} (h : ToldOnce s) (appName : String) {input : NotifyUserInput}
    (hleaves : input.leavesRow s) :
    (notifyUser appName input).wpAlone machine (fun _ s' => ToldOnce s') s := by
  refine read_toldOnce h (fun _ _ => rfl) fun _ user _ => ?_
  cases user with
  | none => exact h
  | some user =>
    -- The message is new unless there is a row under its key.
    have hnew (hrow : ¬∃ key, input.eventKey = some key ∧ key ≠ "" ∧ HasRow s key) :
        Prog.wpAlone machine (do
          let preference ← Prog.call (.findPreference input.userId input.type)
          let notification ← writeRow ((preference.map (·.inApp)).getD true) input
          pushMessage ((preference.map (·.push)).getD true) input
          emailMessage ((preference.map (·.email)).getD true) input user appName
          pure notification : Request (Option Notification)) (fun _ s' => ToldOnce s') s := by
      refine read_toldOnce h (fun _ _ => rfl) fun _ preference hpreference => ?_
      have hpreference : s.preference input.userId input.type = preference := Except.ok.inj hpreference
      cases hinApp : (preference.map (·.inApp)).getD true with
      | true =>
        exact writeRow_toldOnce h input fun r s' hs' hfirst =>
          sends_toldOnce hs' input user appName _ _ (fun key hkey => .inr (hfirst key hkey)) r
      | false =>
        refine sends_toldOnce h input user appName _ _ (fun key hkey => ?_) none
        rw [NotifyUserInput.leavesRow, hpreference, hinApp] at hleaves
        rcases hleaves with hnone | hhas | hin | hsilent
        · rw [hnone] at hkey
          cases hkey
        · exact absurd hhas hrow
        · cases hin
        · exact .inl hsilent
    change Prog.wpAlone machine ((existingNotification input.eventKey).bind _) _ s
    cases hkey : input.eventKey.filter (· ≠ "") with
    | none =>
      rw [existingNotification, hkey]
      refine hnew fun ⟨key, hsome, hne, _⟩ => ?_
      rw [hsome, Option.filter_some, if_pos (by simpa using hne)] at hkey
      cases hkey
    | some key =>
      rw [existingNotification, hkey]
      refine read_toldOnce h (fun _ _ => rfl) fun _ existing hexisting => ?_
      cases existing with
      | some n => exact h
      | none =>
        refine hnew fun ⟨key', hsome, _, i, n, hn, hnkey⟩ => ?_
        obtain ⟨hevent, _⟩ := Option.filter_eq_some_iff.mp hkey
        have hfirst := Option.map_eq_none_iff.mp (Except.ok.inj hexisting)
        have hother := Table.first_eq_none.mp hfirst i n hn
        rw [hnkey, ← hsome, hevent, beq_self_eq_true] at hother
        cases hother

/-! ## Any number of calls -/

/-- The calls that tell users of something. -/
inductive NotifyRequest : Request Unit → Prop
  | notifyUser (appName : String) (input : NotifyUserInput) :
      NotifyRequest ((notifyUser appName input).bind fun _ => pure ())

/-- Outside of the calls, rows are kept under their keys, which the database keeps unique; users, preferences and
devices change in any way. -/
structure Outside (s s' : State) : Prop where
  rows : ∀ i n, s.notification.find i = some n → ∃ n', s'.notification.find i = some n' ∧ n'.eventKey = n.eventKey
  unique : UniqueKeys s'.notification
  pushes : s'.pushes = s.pushes
  emails : s'.emails = s.emails

/-- Users are told of things, one after the other. -/
def notifying : System Op Error State Env :=
  { machine with
    starts := NotifyRequest
    background := Outside }

/-- A call about an event that has a row, or that leaves one, or that sends nothing. -/
def LeavesRow (p : Request Unit) (s : State) : Prop :=
  ∃ appName input, p = (notifyUser appName input).bind (fun _ => pure ()) ∧ input.leavesRow s

/-- Changes by other code tell nobody again. -/
theorem Outside.toldOnce {s s' : State} (h : Outside s s') (hs : ToldOnce s) : ToldOnce s' := by
  refine ⟨h.unique, ?_, ?_, fun key hnone => ?_⟩
  · rw [h.pushes]
    exact hs.pushes
  · rw [h.emails]
    exact hs.emails
  · rw [h.pushes, h.emails]
    apply hs.untold
    rintro ⟨i, n, hn, hkey⟩
    obtain ⟨n', hn', hkey'⟩ := h.rows i n hn
    exact hnone ⟨i, n', hn', hkey'.trans hkey⟩

/-- Nothing has been sent yet. -/
structure Begins (s : State) : Prop where
  unique : UniqueKeys s.notification
  pushes : s.pushes = []
  emails : s.emails = []

/-- Before the first event nobody has been told twice. -/
theorem Begins.toldOnce {s : State} (h : Begins s) : ToldOnce s := by
  refine ⟨h.unique, ?_, ?_, fun key _ => ?_⟩
  · intro key
    rw [h.pushes]
    exact Nat.zero_le 1
  · intro key
    rw [h.emails]
    exact Nat.zero_le 1
  · rw [h.pushes, h.emails]
    exact ⟨rfl, rfl⟩

/-- After any number of calls, one after the other, whatever fails in them: an event whose messages all have a row,
or leave one, or are not sent, has one row, one push and one email at most. -/
theorem event_told_once {s s' : State} (hs : Begins s) (hrun : notifying.Serial LeavesRow s s') (key : String) :
    (∀ i j n n', s'.notification.find i = some n → s'.notification.find j = some n' →
      n.eventKey = some key → n'.eventKey = some key → i = j) ∧
    s'.pushes.count (some key) ≤ 1 ∧ s'.emails.count (some key) ≤ 1 := by
  have htold : ToldOnce s' := by
    refine hrun.keeps ToldOnce hs.toldOnce fun s s' hs hturn => ?_
    cases hturn with
    | request hp ha h =>
      obtain ⟨appName, input, rfl, hleaves⟩ := ha
      refine (Prog.wpAlone_iff machine _ (fun _ s' => ToldOnce s') s).mp ?_ _ _ h
      refine (Prog.wpAlone_bind machine _ _ _ s).mpr
        (Prog.wpAlone_mono machine (notifyUser_toldOnce hs appName hleaves) ?_)
      exact fun _ _ h => ⟨fun _ _ => h, fun _ _ => h⟩
    | background h => exact h.toldOnce hs
  refine ⟨fun i j n n' hn hn' hkey hkey' => ?_, htold.pushes key, htold.emails key⟩
  exact htold.unique i j n n' hn hn' (by rw [hkey]; rfl) (hkey.trans hkey'.symm)

/-! ## One event, two calls -/

/-- A user with one device who wants pushes and emails, and rows or none. -/
def oneUser (inApp : Bool) : State where
  user := Table.empty.create { email := "ada@example.com" }
  notificationPreference := Table.empty.create { userId := 1, type := "ORDER", inApp := inApp }
  deviceRegistration := Table.empty.create { userId := 1, token := "t" }

/-- A message about an event. -/
def packed : NotifyUserInput where
  userId := 1
  type := "ORDER"
  title := "Order update"
  message := "Your order is packed."
  templateKey := some "orderStatus"
  eventKey := some "order:1:PACKED"

/-- A customer is told that the order has been packed. -/
def tellPacked : Request Unit := (notifyUser "Purse" packed).bind fun _ => pure ()

/-- The state after two calls about one event. -/
def toldTwice (inApp : Bool) : State :=
  (tellPacked.runAlone machine {} (tellPacked.runAlone machine {} (oneUser inApp)).2).2

/-- A user who has been told of nothing yet. -/
theorem oneUser_begins (inApp : Bool) : Begins (oneUser inApp) :=
  ⟨fun _ _ _ _ h => absurd (show (none : Option Notification) = some _ from h)
    (Option.some_ne_none _).symm, rfl, rfl⟩

/-- A user who wants no rows gets a push and an email with every call. -/
theorem event_can_be_told_twice :
    ¬∀ s s' : State, Begins s → notifying.Serial (fun _ _ => True) s s' → ∀ key, s'.pushes.count (some key) ≤ 1 ∧
      s'.emails.count (some key) ≤ 1 := by
  intro h
  have hturn (s : State) : notifying.Serial (fun _ _ => True) s (tellPacked.runAlone machine {} s).2 :=
    notifying.serial_runAlone {} (.notifyUser "Purse" packed) trivial
  have htwice := h _ (toldTwice false) (oneUser_begins false) ((hturn _).trans (hturn _)) "order:1:PACKED"
  revert htwice
  decide +kernel

/-- A user who wants rows gets one push and one email from two calls. -/
theorem event_told_once_again : (toldTwice true).pushes.count (some "order:1:PACKED") ≤ 1 ∧
    (toldTwice true).emails.count (some "order:1:PACKED") ≤ 1 := by
  have hfirst : packed.leavesRow (oneUser true) := .inr (.inr (.inl (by decide +kernel)))
  have hsecond : packed.leavesRow (tellPacked.runAlone machine {} (oneUser true)).2 :=
    .inr (.inr (.inl (by decide +kernel)))
  have hrun : notifying.Serial LeavesRow (oneUser true) (toldTwice true) :=
    (notifying.serial_runAlone {} (.notifyUser "Purse" packed) ⟨"Purse", packed, rfl, hfirst⟩).trans
      (notifying.serial_runAlone {} (.notifyUser "Purse" packed) ⟨"Purse", packed, rfl, hsecond⟩)
  exact (event_told_once (oneUser_begins true) hrun "order:1:PACKED").2

end Superstore.Notify
